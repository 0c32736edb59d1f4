import RawMapping.Proofs.Case.Description
import RawMapping.Proofs.Outcome

/-! Expansion accepts exactly the well-formed declarations, and what it derives is what the assignments
of the declaration say: one arm for each of them in either direction, and one arm for the catch-all. -/

set_option autoImplicit false

namespace RawMapping

variable {α : Type}

/-! ### The mapping of a declaration -/

theorem Declaration.HasCatchAll.record_eq {declaration : Declaration α} {rawType : String}
    {line : CaseLine α} {variant : Variant α} (catchAll : declaration.HasCatchAll rawType line variant)
    {lineIndex : Nat} (selected : declaration.body.lines[lineIndex]? = some line)
    {record : CaseRecord α} (member : record ∈ declaration.records)
    (marked : record.role = .catchAll) : record = line.leadRecord lineIndex variant := by
  obtain ⟨place, -, marks, unique⟩ :=
    (filter_eq_singleton_iff _ declaration.body.lines line).mp catchAll.only
  have here := unique lineIndex line selected marks
  obtain ⟨other, otherIndex, otherSelected, inside⟩ := Declaration.mem_records.mp member
  obtain ⟨first, head, carries, rfl⟩ := CaseLine.eq_leadRecord_of_catchAll inside marked
  have nonempty : other.variants ≠ [] := by
    intro empty
    simp [empty] at head
  have there := unique otherIndex other otherSelected (by simp [CaseLine.Marks, nonempty, carries])
  rw [there, ← here, selected] at otherSelected
  cases otherSelected
  have same := catchAll.first
  rw [head] at same
  cases same
  rw [there, ← here]

theorem Declaration.HasCatchAll.find? {declaration : Declaration α} {rawType : String}
    {line : CaseLine α} {variant : Variant α} (catchAll : declaration.HasCatchAll rawType line variant)
    {lineIndex : Nat} (selected : declaration.body.lines[lineIndex]? = some line)
    (carries : line.Carries defaultCaseName) :
    declaration.records.find? (·.role == .catchAll) = some (line.leadRecord lineIndex variant) := by
  have member : line.leadRecord lineIndex variant ∈ declaration.records :=
    Declaration.mem_records.mpr ⟨line, lineIndex, selected,
      CaseLine.leadRecord_mem_records lineIndex catchAll.first⟩
  have role := line.leadRecord_role_of_marked lineIndex variant carries
  cases found : declaration.records.find? (·.role == .catchAll) with
  | none =>
    have refused := List.find?_eq_none.mp found _ member
    simp [role] at refused
  | some record =>
    have marked : record.role = .catchAll := by simpa using List.find?_some found
    rw [catchAll.record_eq selected (List.mem_of_find?_eq_some found) marked]

-- The search takes the first marked case. That it is the only one follows from the inspection, which
-- compares the line of every marked case with the line of the first.
theorem Inspection.hasCatchAll (inspection : Inspection α) {line : CaseLine α} {variant : Variant α}
    {lineIndex : Nat}
    (accepts : ∀ record ∈ inspection.declaration.records, inspection.Accepts record)
    (selected : inspection.declaration.body.lines[lineIndex]? = some line)
    (head : line.variants.head? = some variant) (carries : line.Carries defaultCaseName)
    (catchAll : inspection.catchAll = line.leadRecord lineIndex variant) :
    inspection.declaration.HasCatchAll inspection.rawType line variant := by
  have marked : ∀ (other : CaseLine α) (otherIndex : Nat) first,
      inspection.declaration.body.lines[otherIndex]? = some other →
      other.variants.head? = some first → other.Carries defaultCaseName →
        otherIndex = lineIndex ∧ first.hasRawPayload inspection.rawType = true ∧
          ¬ other.Carries rawValueName := by
    intro other otherIndex first otherSelected otherHead otherCarries
    have passes := accepts _ (Declaration.mem_records.mpr ⟨other, otherIndex, otherSelected,
      CaseLine.leadRecord_mem_records otherIndex otherHead⟩)
    rw [inspection.accepts_marked_iff other otherIndex first otherCarries, catchAll] at passes
    exact passes
  obtain ⟨-, payload, unvalued⟩ := marked line lineIndex variant selected head carries
  have nonempty : line.variants ≠ [] := by
    intro empty
    simp [empty] at head
  refine ⟨?_, head, (Variant.hasRawPayload_iff _ _).mp payload, unvalued⟩
  rw [filter_eq_singleton_iff]
  refine ⟨lineIndex, selected, by simp [CaseLine.Marks, nonempty, carries], ?_⟩
  intro otherIndex other otherSelected otherMarks
  obtain ⟨otherNonempty, otherCarries⟩ := of_decide_eq_true otherMarks
  obtain ⟨first, others, variants⟩ := List.exists_cons_of_ne_nil otherNonempty
  exact (marked other otherIndex first otherSelected (by simp [variants]) otherCarries).1

theorem Declaration.texts_resolvedCases {declaration : Declaration α} {rawType : String}
    (valued : ∀ line ∈ declaration.body.lines, ∀ place < line.variants.length,
      ¬ (place = 0 ∧ line.Carries defaultCaseName) → line.Valued rawType place) :
    (resolvedCases rawType declaration.records).map (·.literal.text) =
      declaration.assignments.map (·.literal.text) := by
  rw [← Declaration.map_resolvedCases valued, List.map_map]
  apply List.map_congr_left
  intro valueCase _
  exact (Literal.text_bare valueCase.literal).symm

theorem Inspection.accepts_records_iff (inspection : Inspection α) :
    (∀ record ∈ inspection.declaration.records, inspection.Accepts record) ↔
      (∀ (line : CaseLine α) (lineIndex : Nat),
        inspection.declaration.body.lines[lineIndex]? = some line →
          ∀ variant, line.variants.head? = some variant → line.Carries defaultCaseName →
            lineIndex = inspection.catchAll.lineIndex ∧
              variant.hasRawPayload inspection.rawType = true ∧ ¬ line.Carries rawValueName) ∧
      (∀ line ∈ inspection.declaration.body.lines, ∀ place < line.variants.length,
        ¬ (place = 0 ∧ line.Carries defaultCaseName) → line.Valued inspection.rawType place) := by
  -- records are those of all lines, so each line can be settled on its own
  have byLine : (∀ record ∈ inspection.declaration.records, inspection.Accepts record) ↔
      ∀ (line : CaseLine α) (lineIndex : Nat),
        inspection.declaration.body.lines[lineIndex]? = some line →
          ∀ record ∈ line.records lineIndex, inspection.Accepts record := by
    constructor
    · intro all line lineIndex selected record member
      exact all record (Declaration.mem_records.mpr ⟨line, lineIndex, selected, member⟩)
    · intro all record member
      obtain ⟨line, lineIndex, selected, inside⟩ := Declaration.mem_records.mp member
      exact all line lineIndex selected record inside
  simp only [byLine, inspection.accepts_line_iff]
  constructor
  · intro all
    refine ⟨fun line lineIndex selected => (all line lineIndex selected).1, ?_⟩
    intro line member
    obtain ⟨lineIndex, selected⟩ := List.mem_iff_getElem?.mp member
    exact (all line lineIndex selected).2
  · rintro ⟨marked, valued⟩ line lineIndex selected
    exact ⟨marked line lineIndex selected, valued line (List.mem_of_getElem? selected)⟩

theorem Declaration.mapping_of_catchAll {declaration : Declaration α} {catchAll : CaseRecord α}
    (found : declaration.records.find? (·.role == .catchAll) = some catchAll)
    (rawType : NamedType α) (settings : Settings) (mapping : Mapping α) :
    declaration.mapping rawType settings = .ok mapping ↔
      (Inspection.mk declaration rawType.name settings catchAll).cases [] declaration.records =
        ([], mapping.valueCases) ∧
      mapping = ⟨declaration.name.text, rawType, catchAll, mapping.valueCases⟩ := by
  rw [Declaration.mapping_eq_of_catchAll found]
  cases (Inspection.mk declaration rawType.name settings catchAll).cases [] declaration.records with
  | mk problems valueCases =>
    cases problems with
    | nil =>
      constructor
      · intro same
        cases same
        exact ⟨rfl, rfl⟩
      · rintro ⟨values, same⟩
        rw [same, ← (Prod.mk.inj values).2]
        rfl
    | cons problem problems => simp

theorem Declaration.mapping_eq_ok_iff (declaration : Declaration α) (rawType : NamedType α)
    (settings : Settings) (mapping : Mapping α) :
    declaration.mapping rawType settings = .ok mapping ↔
      ∃ line variant, ∃ lineIndex : Nat, declaration.HasCatchAll rawType.name line variant ∧
        declaration.body.lines[lineIndex]? = some line ∧
        (∀ line ∈ declaration.body.lines, ∀ place < line.variants.length,
          ¬ (place = 0 ∧ line.Carries defaultCaseName) → line.Valued rawType.name place) ∧
        (declaration.assignments.map (·.literal.text)).Nodup ∧
        mapping = ⟨declaration.name.text, rawType, line.leadRecord lineIndex variant,
          resolvedCases rawType.name declaration.records⟩ := by
  constructor
  · intro success
    cases found : declaration.records.find? (·.role == .catchAll) with
    | none => simp [Declaration.mapping, found] at success
    | some catchAll =>
      obtain ⟨clean, same⟩ :=
        (Declaration.mapping_of_catchAll found rawType settings mapping).mp success
      obtain ⟨accepts, distinct, -, values⟩ :=
        (Inspection.cases_eq_nil_iff _ [] declaration.records _).mp clean
      have valued := ((Inspection.mk declaration rawType.name settings _).accepts_records_iff.mp accepts).2
      obtain ⟨line, lineIndex, selected, inside⟩ :=
        Declaration.mem_records.mp (List.mem_of_find?_eq_some found)
      have marked : catchAll.role = .catchAll := by simpa using List.find?_some found
      obtain ⟨variant, head, carries, rfl⟩ := CaseLine.eq_leadRecord_of_catchAll inside marked
      -- a clean inspection accepts the first marked case, so no other one is marked
      have unique := (Inspection.mk declaration rawType.name settings _).hasCatchAll accepts selected head
        carries rfl
      refine ⟨line, variant, lineIndex, unique, selected, valued, ?_, ?_⟩
      · rw [← Declaration.texts_resolvedCases valued]
        exact distinct
      · rw [same, values]
  · rintro ⟨line, variant, lineIndex, catchAll, selected, valued, distinct, rfl⟩
    have carries : line.Carries defaultCaseName := by
      have inside : line ∈ declaration.body.lines.filter (·.Marks) := by simp [catchAll.only]
      exact (of_decide_eq_true (List.mem_filter.mp inside).2).2
    rw [Declaration.mapping_of_catchAll (catchAll.find? selected carries)]
    refine ⟨?_, rfl⟩
    rw [Inspection.cases_eq_nil_iff]
    refine ⟨(Inspection.mk declaration rawType.name settings _).accepts_records_iff.mpr ⟨?_, valued⟩, ?_,
      by simp, rfl⟩
    · -- two marked lines would give two records of the catch-all, and there is only one
      intro other otherIndex otherSelected first head otherCarries
      have same := catchAll.record_eq selected
        (Declaration.mem_records.mpr ⟨other, otherIndex, otherSelected,
          CaseLine.leadRecord_mem_records otherIndex head⟩)
        (other.leadRecord_role_of_marked otherIndex first otherCarries)
      obtain ⟨rfl, rfl, rfl⟩ : first = variant ∧ other = line ∧ otherIndex = lineIndex :=
        ⟨congrArg CaseRecord.variant same, congrArg CaseRecord.line same,
          congrArg CaseRecord.lineIndex same⟩
      exact ⟨rfl, (Variant.hasRawPayload_iff _ _).mpr catchAll.payload, catchAll.unvalued⟩
    · rw [Declaration.texts_resolvedCases valued]
      exact distinct

/-! ### The expansion of a declaration -/

section

variable {τ : Type} (tag : τ)

def Assignment.decodeArm (assignment : Assignment) : MatchArm τ :=
  ⟨.literal (assignment.literal.map fun _ => tag) tag, .construct assignment.caseName none tag, tag⟩

def Assignment.encodeArm (assignment : Assignment) : MatchArm τ :=
  ⟨.caseNamed assignment.caseName none tag, .literal (assignment.literal.map fun _ => tag), tag⟩

/-- The declarations that map each case to its literal and back, and every other raw value to the
catch-all that carries it. All their nodes have the tag that is given. -/
def describedExpansion (typeName rawType catchAll : String) (assignments : List Assignment) :
    Expansion τ where
  typeName
  members :=
    [.initializer ⟨typeName, "raw_value", ⟨rawType, tag⟩, ⟨⟨"raw_value", tag⟩,
        assignments.map (Assignment.decodeArm tag) ++
          [⟨.wildcard tag, .construct catchAll (some ⟨"raw_value", tag⟩) tag, tag⟩], tag⟩, tag⟩,
      .accessor ⟨"raw_value", ⟨rawType, tag⟩, ⟨⟨"self", tag⟩,
        assignments.map (Assignment.encodeArm tag) ++
          [⟨.caseNamed catchAll (some "value") tag, .name ⟨"value", tag⟩, tag⟩], tag⟩, tag⟩]
  extensions := [⟨typeName, "RawRepresentable", tag⟩]

end

theorem Literal.unlocated_eq (literal : Literal α) :
    literal.unlocated = literal.bare.map fun _ => none := by
  cases literal <;> rfl

theorem Mapping.expansion_eq (mapping : Mapping α) :
    mapping.expansion = describedExpansion none mapping.typeName mapping.rawType.name
      mapping.catchAll.name (mapping.valueCases.map ValueCase.assignment) := by
  have decode : Assignment.decodeArm none ∘ ValueCase.assignment = ValueCase.decodeArm (α := α) := by
    funext valueCase
    exact congrArg (fun literal => MatchArm.mk (.literal literal none) _ none)
      valueCase.literal.unlocated_eq.symm
  have encode : Assignment.encodeArm none ∘ ValueCase.assignment = ValueCase.encodeArm (α := α) := by
    funext valueCase
    exact congrArg (fun literal => MatchArm.mk _ (.literal literal) none)
      valueCase.literal.unlocated_eq.symm
  simp only [describedExpansion, List.map_map, decode, encode]
  rfl

theorem Attribute.rawType_eq_ok_iff (attr : Attribute α) (rawType : NamedType α) :
    attr.rawType = .ok rawType ↔ attr.typeArguments = [rawType] := by
  unfold Attribute.rawType
  split
  · next type same => simp [same]
  · next many =>
    simp only [reduceCtorEq, false_iff]
    exact many rawType

theorem Attribute.caseName_isOk_iff (attr : Attribute α) (settings : Settings) :
    (∃ name, attr.caseName settings = .ok name) ↔
      ∀ argument, attr.argument? caseNameLabel = some argument →
        ∃ name tag, argument.value = .string name tag := by
  unfold Attribute.caseName
  cases attr.argument? caseNameLabel with
  | none => simp
  | some argument => cases value : argument.value <;> simp [value]

theorem Declaration.request_isOk_iff (declaration : Declaration α) (attr : Attribute α)
    (settings : Settings) (rawType : String) :
    (∃ type changed, type.name = rawType ∧ declaration.request attr settings = .ok (type, changed)) ↔
      attr.Requests rawType ∧ declaration.kind = .enumKind := by
  have requests : attr.Requests rawType ↔ (∃ type, attr.rawType = .ok type ∧ type.name = rawType) ∧
      ∃ name, attr.caseName settings = .ok name := by
    simp only [attr.rawType_eq_ok_iff, attr.caseName_isOk_iff settings, ← List.map_eq_singleton_iff]
    exact ⟨fun both => ⟨both.1, both.2⟩, fun both => ⟨both.1, both.2⟩⟩
  rw [requests]
  unfold Declaration.request Declaration.shapeProblems
  cases attr.rawType with
  | error problems => simp
  | ok found =>
    by_cases kind : declaration.kind = .enumKind
    · cases attr.caseName settings <;> simp [kind]
    · simp [kind, throw, throwThe, MonadExceptOf.throw]

theorem Attribute.rawType_error {attr : Attribute α} {problems : List (Diagnostic α)}
    (failed : attr.rawType = .error problems) : problems = [rawTypeArgument attr] := by
  unfold Attribute.rawType at failed
  split at failed
  · cases failed
  · cases failed
    rfl

theorem Attribute.caseName_error {attr : Attribute α} {settings : Settings}
    {problems : List (Diagnostic α)} (failed : attr.caseName settings = .error problems) :
    ∃ argument ∈ attr.arguments, problems = [caseNameLiteral argument] := by
  unfold Attribute.caseName at failed
  split at failed
  · cases failed
  · next argument labelled =>
    split at failed
    · cases failed
    · cases failed
      exact ⟨argument, List.mem_of_find?_eq_some labelled, rfl⟩

/-- What an annotation can be refused for: its type, what it stands above, or the name it gives. -/
theorem Declaration.request_error {declaration : Declaration α} {attr : Attribute α}
    {settings : Settings} {problems : List (Diagnostic α)}
    (failed : declaration.request attr settings = .error problems) :
    problems = [rawTypeArgument attr] ∨ problems = [notAnEnum declaration] ∨
      ∃ argument ∈ attr.arguments, problems = [caseNameLiteral argument] := by
  unfold request shapeProblems at failed
  cases typed : attr.rawType with
  | error found =>
    rw [typed] at failed
    cases failed
    exact .inl (Attribute.rawType_error typed)
  | ok rawType =>
    rw [typed, ok_bind] at failed
    by_cases kind : declaration.kind = .enumKind
    · rw [if_pos kind] at failed
      cases named : attr.caseName settings with
      | ok name =>
        rw [named] at failed
        cases failed
      | error found =>
        rw [named] at failed
        cases failed
        exact .inr (.inr (Attribute.caseName_error named))
    · rw [if_neg kind] at failed
      cases failed
      exact .inr (.inl rfl)

theorem Declaration.expandAs_eq_ok_iff (declaration : Declaration α) (attr : Attribute α)
    (settings : Settings) (expansion : Expansion (Option α)) :
    declaration.expandAs attr settings = .ok expansion ↔
      ∃ rawType changed mapping, declaration.request attr settings = .ok (rawType, changed) ∧
        declaration.mapping rawType changed = .ok mapping ∧ mapping.expansion = expansion := by
  simp only [Declaration.expandAs, bind_eq_ok_iff, Prod.exists, pure_eq_ok, Except.ok.injEq]
  grind

theorem Declaration.expand_eq_ok_iff (declaration : Declaration α) (settings : Settings)
    (expansion : Expansion (Option α)) :
    declaration.expand settings = .ok expansion ↔
      ∃ attr, declaration.findAttribute? annotationName = some attr ∧
        declaration.expandAs attr settings = .ok expansion := by
  unfold Declaration.expand
  cases declaration.findAttribute? annotationName with
  | none => simp
  | some attr => simp [mapError_eq_ok_iff]

-- The settings may be changed by an argument of the annotation. They are used in problems alone, so the
-- description does not mention them.
/-- A declaration expands exactly if it is well formed, and then to what its assignments describe,
whatever the settings are. -/
theorem Declaration.expand_eq_ok_iff_wellFormed (declaration : Declaration α) (settings : Settings)
    (expansion : Expansion (Option α)) :
    declaration.expand settings = .ok expansion ↔
      ∃ rawType variant, declaration.WellFormed rawType variant ∧
        expansion = describedExpansion none declaration.name.text rawType variant.name.text
          declaration.assignments := by
  constructor
  · intro success
    obtain ⟨attr, annotated, expanded⟩ := (declaration.expand_eq_ok_iff settings expansion).mp success
    obtain ⟨rawType, changed, mapping, request, mapped, rfl⟩ :=
      (declaration.expandAs_eq_ok_iff attr settings expansion).mp expanded
    obtain ⟨requests, kind⟩ := (declaration.request_isOk_iff attr settings rawType.name).mp
      ⟨rawType, changed, rfl, request⟩
    obtain ⟨line, variant, lineIndex, catchAll, selected, valued, distinct, rfl⟩ :=
      (declaration.mapping_eq_ok_iff rawType changed mapping).mp mapped
    refine ⟨rawType.name, variant, ⟨⟨attr, annotated, requests⟩, kind, ⟨line, catchAll⟩, valued, distinct⟩,
      ?_⟩
    rw [Mapping.expansion_eq, ← Declaration.map_resolvedCases valued]
    rfl
  · rintro ⟨rawType, variant, ⟨⟨attr, annotated, requests⟩, kind, ⟨line, catchAll⟩, valued, distinct⟩, rfl⟩
    obtain ⟨type, changed, rfl, request⟩ :=
      (declaration.request_isOk_iff attr settings rawType).mpr ⟨requests, kind⟩
    obtain ⟨lineIndex, selected, -⟩ :=
      (filter_eq_singleton_iff _ declaration.body.lines line).mp catchAll.only
    have mapped := (declaration.mapping_eq_ok_iff type changed _).mpr
      ⟨line, variant, lineIndex, catchAll, selected, valued, distinct, rfl⟩
    rw [declaration.expand_eq_ok_iff]
    refine ⟨attr, annotated, ?_⟩
    rw [declaration.expandAs_eq_ok_iff]
    refine ⟨type, changed, _, request, mapped, ?_⟩
    rw [Mapping.expansion_eq, ← Declaration.map_resolvedCases valued]
    rfl

/-- Exactly the well-formed declarations expand, and each to the mapping it describes. -/
theorem Declaration.expands_exactly_wellFormed (declaration : Declaration α) (settings : Settings) :
    ((∃ expansion, declaration.expand settings = .ok expansion) ↔
      ∃ rawType variant, declaration.WellFormed rawType variant) ∧
    ∀ rawType variant, declaration.WellFormed rawType variant →
      declaration.expand settings = .ok (describedExpansion none declaration.name.text rawType
        variant.name.text declaration.assignments) := by
  have described : ∀ rawType variant, declaration.WellFormed rawType variant →
      declaration.expand settings = .ok (describedExpansion none declaration.name.text rawType
        variant.name.text declaration.assignments) :=
    fun rawType variant formed =>
      (declaration.expand_eq_ok_iff_wellFormed settings _).mpr ⟨rawType, variant, formed, rfl⟩
  refine ⟨⟨?_, ?_⟩, described⟩
  · rintro ⟨expansion, success⟩
    obtain ⟨rawType, variant, formed, -⟩ :=
      (declaration.expand_eq_ok_iff_wellFormed settings expansion).mp success
    exact ⟨rawType, variant, formed⟩
  · rintro ⟨rawType, variant, formed⟩
    exact ⟨_, described rawType variant formed⟩

/-- Two cases on one line, of which only the first is given a value, and a catch-all. -/
def grades : Declaration Unit :=
  ⟨.enumKind, ⟨"Grade", ()⟩, [⟨⟨"raw_representable", ()⟩, [⟨"String", ()⟩], [], ()⟩],
    ⟨[⟨[⟨⟨"raw_value", ()⟩, [], [⟨none, .string "A" (), ()⟩], ()⟩],
        [⟨⟨"top", ()⟩, none, ()⟩, ⟨⟨"middle", ()⟩, none, ()⟩], ()⟩,
      ⟨[⟨⟨"default_case", ()⟩, [], [], ()⟩],
        [⟨⟨"other", ()⟩, some [⟨none, ⟨"String", ()⟩, ()⟩], ()⟩], ()⟩], ()⟩, ()⟩

theorem grades_wellFormed :
    grades.WellFormed "String" ⟨⟨"other", ()⟩, some [⟨none, ⟨"String", ()⟩, ()⟩], ()⟩ where
  annotation := ⟨_, rfl, rfl, by simp [Attribute.argument?]⟩
  kind := rfl
  describes :=
    { catchAll := ⟨_, rfl, rfl, ⟨_, rfl, rfl⟩, by decide⟩
      valued := by
        refine List.forall_mem_cons.mpr ⟨?_, List.forall_mem_singleton.mpr ?_⟩
        · intro place inside _
          match place, inside with
          | 0, _ => exact ⟨_, _, rfl, rfl, "A", (), rfl⟩
          | 1, _ => rfl
        · intro place inside other
          match place, inside with
          | 0, _ => exact absurd ⟨rfl, by decide⟩ other
      distinct := by decide }

theorem grades_expand :
    grades.expand {} = .ok (describedExpansion none "Grade" "String" "other"
      [⟨"top", .string "A" ()⟩, ⟨"middle", .string "middle" ()⟩]) :=
  (grades.expands_exactly_wellFormed {}).2 _ _ grades_wellFormed

end RawMapping
