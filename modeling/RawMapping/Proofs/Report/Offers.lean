import RawMapping.Proofs.Derived.Expansion

/-! The fixes that a report offers. With a catch-all in place, each case offers its fixes whatever the
other cases are; without one, the only fix offered is the one that adds it. -/

set_option autoImplicit false

namespace RawMapping

variable {α : Type}

def offers (diagnostics : List (Diagnostic α)) : List (Fix α) :=
  diagnostics.flatMap (·.fixes)

def fixableCount (diagnostics : List (Diagnostic α)) : Nat :=
  diagnostics.countP (!·.fixes.isEmpty)

def Declaration.report (declaration : Declaration α) (settings : Settings) : List (Diagnostic α) :=
  match declaration.expand settings with
  | .error (.rejected diagnostics) => diagnostics
  | _ => []

theorem firstFix?_eq_head? (diagnostics : List (Diagnostic α)) :
    firstFix? diagnostics = (offers diagnostics).head? := by
  rw [firstFix?, offers, List.head?_flatMap]

/-! ### The fixes of each case -/

/-- Exactly these fixes are offered, no two of them by one diagnostic, and a catch-all is not missing. -/
structure Offering (diagnostics : List (Diagnostic α)) (fixes : List (Fix α)) : Prop where
  all : offers diagnostics = fixes
  count : fixableCount diagnostics = fixes.length
  kinds : ∀ diagnostic ∈ diagnostics, (diagnostic.kind == .missingDefault) = false

theorem Offering.append {first second : List (Diagnostic α)} {fixes more : List (Fix α)}
    (left : Offering first fixes) (right : Offering second more) :
    Offering (first ++ second) (fixes ++ more) := by
  refine ⟨?_, ?_, List.forall_mem_append.mpr ⟨left.kinds, right.kinds⟩⟩
  · rw [← left.all, ← right.all]
    exact List.flatMap_append
  · rw [List.length_append, ← left.count, ← right.count]
    exact List.countP_append

theorem offering_nil : Offering ([] : List (Diagnostic α)) [] :=
  ⟨rfl, rfl, List.forall_mem_nil _⟩

theorem offering_none {diagnostic : Diagnostic α} (none : diagnostic.fixes = [])
    (kind : (diagnostic.kind == .missingDefault) = false) : Offering [diagnostic] [] := by
  refine ⟨?_, ?_, List.forall_mem_singleton.mpr kind⟩
  · simp [offers, none]
  · simp [fixableCount, none]

theorem offering_one {diagnostic : Diagnostic α} {fix : Fix α} (one : diagnostic.fixes = [fix])
    (kind : (diagnostic.kind == .missingDefault) = false) : Offering [diagnostic] [fix] := by
  refine ⟨?_, ?_, List.forall_mem_singleton.mpr kind⟩
  · simp [offers, one]
  · simp [fixableCount, one]

def Inspection.catchAllFixes (inspection : Inspection α) (record : CaseRecord α) : List (Fix α) :=
  (if record.lineIndex = inspection.catchAll.lineIndex ∧
      record.variant.hasRawPayload inspection.rawType = false then
    [fixAssociatedValueFix record.variant inspection.rawType] else []) ++
  if record.rawAttribute.isSome then [removeRawValueFix record] else []

def CaseRecord.extraFixes (record : CaseRecord α) : List (Fix α) :=
  match record.role with
  | .explicit => record.extraRawAttributes.map fun placed => removeAttributeFix record placed.2
  | _ => []

def Inspection.valueFixes (inspection : Inspection α) (record : CaseRecord α) : List (Fix α) :=
  match record.resolve? inspection.rawType with
  | some (literal, _) => rawValueTypeFixes literal inspection.rawType
  | none =>
    match record.role, record.rawAttribute with
    | .explicit, some _ => []
    | _, _ => [addRawValueFix inspection.declaration record inspection.settings.placeholderLabel]

def Inspection.offered (inspection : Inspection α) (record : CaseRecord α) : List (Fix α) :=
  if record.role = .catchAll then inspection.catchAllFixes record
  else record.extraFixes ++ inspection.valueFixes record

theorem Inspection.offering_catchAllProblems (inspection : Inspection α) (record : CaseRecord α) :
    Offering (inspection.catchAllProblems record) (inspection.catchAllFixes record) := by
  refine .append ?_ ?_
  · by_cases here : record.lineIndex = inspection.catchAll.lineIndex
    · cases payload : record.variant.hasRawPayload inspection.rawType with
      | true => simpa [here, payload] using offering_nil
      | false => simpa [here, payload] using offering_one rfl rfl
    · simpa [here] using offering_none rfl rfl
  · cases record.rawAttribute.isSome with
    | true => exact offering_one rfl rfl
    | false => exact offering_nil

theorem CaseRecord.offering_extraProblems (record : CaseRecord α) :
    Offering record.extraProblems record.extraFixes := by
  unfold extraProblems extraFixes
  cases record.role with
  | catchAll => exact offering_nil
  | implicit => exact offering_nil
  | explicit =>
    induction record.extraRawAttributes with
    | nil => exact offering_nil
    | cons placed others ih => exact (offering_one rfl rfl : Offering [_] [_]).append ih

theorem rawValueTypeFixes_of_fits {literal : Literal α} {rawType : String}
    (fits : literal.fitsType rawType = true) : rawValueTypeFixes literal rawType = [] := by
  cases literal with
  | string value tag => rfl
  | placeholder label tag => rfl
  | integer text tag =>
    have other : rawType ≠ stringTypeName := by simpa [Literal.fitsType] using fits
    simp [rawValueTypeFixes, other]

theorem offering_rawValueType (record : CaseRecord α) (literal : Literal α) (rawType : String) :
    Offering [rawValueType record literal rawType] (rawValueTypeFixes literal rawType) := by
  cases literal with
  | string value tag => exact offering_none rfl rfl
  | placeholder label tag => exact offering_none rfl rfl
  | integer text tag =>
    by_cases string : rawType = stringTypeName
    · have one : rawValueTypeFixes (.integer text tag) rawType = [quoteRawValueFix text tag] := by
        simp [rawValueTypeFixes, string]
      rw [one]
      exact offering_one one rfl
    · have none : rawValueTypeFixes (.integer text tag) rawType = [] := by
        simp [rawValueTypeFixes, string]
      rw [none]
      exact offering_none none rfl

-- A value that was seen before is reported without a fix, so the fixes do not depend on what was seen.
theorem Inspection.offering_error (inspection : Inspection α) {seen : Seen α} {record : CaseRecord α}
    {problem : Diagnostic α} (failed : inspection.value seen record = .error problem) :
    Offering [problem] (inspection.valueFixes record) := by
  unfold Inspection.valueFixes
  cases Inspection.refuses_of_error failed with
  | malformed unresolved role given =>
    simp only [unresolved, role, given]
    exact offering_none rfl rfl
  | missing unresolved bare =>
    rw [unresolved]
    dsimp only
    split
    · next attr role given => exact absurd given (bare attr role)
    · exact offering_one rfl rfl
  | unfilled resolved =>
    rw [resolved]
    exact offering_none rfl rfl
  | mistyped resolved =>
    rw [resolved]
    exact offering_rawValueType record _ inspection.rawType
  | repeated resolved fits =>
    simp only [resolved, rawValueTypeFixes_of_fits fits]
    exact offering_none rfl rfl

theorem Inspection.valueFixes_of_ok (inspection : Inspection α) {seen : Seen α} {record : CaseRecord α}
    {literal : Literal α} {node : Node α} (found : inspection.value seen record = .ok (literal, node)) :
    inspection.valueFixes record = [] := by
  obtain ⟨resolved, fits, -⟩ := (inspection.value_eq_ok_iff seen record literal node).mp found
  simp only [Inspection.valueFixes, resolved, rawValueTypeFixes_of_fits fits]

theorem Inspection.offering_cases (inspection : Inspection α) (seen : Seen α)
    (records : List (CaseRecord α)) :
    Offering (inspection.cases seen records).1 (records.flatMap inspection.offered) := by
  induction records generalizing seen with
  | nil => exact offering_nil
  | cons record records ih =>
    rw [List.flatMap_cons]
    by_cases marked : record.role = .catchAll
    · rw [inspection.cases_of_catchAll seen records marked, Inspection.offered, if_pos marked]
      exact (inspection.offering_catchAllProblems record).append (ih seen)
    · rw [Inspection.offered, if_neg marked]
      cases found : inspection.value seen record with
      | error problem =>
        rw [inspection.cases_of_error seen records marked found, List.append_assoc]
        exact record.offering_extraProblems.append ((inspection.offering_error found).append (ih seen))
      | ok pair =>
        rw [inspection.cases_of_ok seen records marked found, inspection.valueFixes_of_ok found,
          List.append_nil]
        exact record.offering_extraProblems.append (ih _)

theorem CaseLine.carries_rawValue_iff (line : CaseLine α) :
    line.Carries rawValueName ↔ line.attributes.filter (·.isNamed rawValueName) ≠ [] := by
  simp [Carries, Attribute.isNamed]

theorem CaseLine.leadRecord_rawAttribute_isSome_iff (line : CaseLine α) (lineIndex : Nat)
    (variant : Variant α) :
    (line.leadRecord lineIndex variant).rawAttribute.isSome = true ↔ line.Carries rawValueName := by
  rw [leadRecord_rawAttribute, List.isSome_head?, carries_rawValue_iff]

theorem CaseLine.leadRecord_rawAttribute_of_cons {line : CaseLine α} {attr : Attribute α}
    {others : List (Attribute α)}
    (given : line.attributes.filter (·.isNamed rawValueName) = attr :: others) (lineIndex : Nat)
    (variant : Variant α) : (line.leadRecord lineIndex variant).rawAttribute = some attr := by
  rw [leadRecord_rawAttribute, given]
  rfl

theorem Inspection.valueFixes_explicit (inspection : Inspection α) {record : CaseRecord α}
    {attr : Attribute α} (role : record.role = .explicit) (given : record.rawAttribute = some attr) :
    inspection.valueFixes record =
      match attr.arguments with
      | [argument] => rawValueTypeFixes argument.value inspection.rawType
      | _ => [] := by
  obtain ⟨name, types, arguments, tag⟩ := attr
  simp only [Inspection.valueFixes, CaseRecord.resolve?, role, CaseRecord.value?, given]
  match arguments with
  | [] => rfl
  | [argument] => rfl
  | _ :: _ :: _ => rfl

theorem Inspection.valueFixes_implicit (inspection : Inspection α) {record : CaseRecord α}
    (role : record.role = .implicit) :
    inspection.valueFixes record = if inspection.rawType = stringTypeName then []
      else [addRawValueFix inspection.declaration record inspection.settings.placeholderLabel] := by
  by_cases string : inspection.rawType = stringTypeName <;>
    simp [Inspection.valueFixes, CaseRecord.resolve?, role, rawValueTypeFixes, string]

/-! ### The catch-all -/

def CaseLine.marked? (line : CaseLine α) (lineIndex : Nat) : Option (CaseRecord α) :=
  if line.Marks then line.variants.head?.map (line.leadRecord lineIndex) else none

theorem CaseLine.marked?_eq_none_iff (line : CaseLine α) (lineIndex : Nat) :
    line.marked? lineIndex = none ↔ ¬ line.Marks := by
  by_cases marks : line.Marks
  · simp [marked?, marks, marks.1]
  · simp [marked?, marks]

-- only the first case of a line can be marked
theorem CaseLine.filter_catchAll (line : CaseLine α) (lineIndex : Nat) :
    (line.records lineIndex).filter (·.role == .catchAll) = (line.marked? lineIndex).toList := by
  unfold marked?
  cases variants : line.variants with
  | nil => simp [CaseLine.records, variants]
  | cons first others =>
    have plain : ((others.zipIdx 1).map fun placed =>
        line.plainRecord lineIndex placed.2 placed.1).filter (·.role == .catchAll) = [] := by
      rw [List.filter_eq_nil_iff, List.forall_mem_map]
      intro placed member
      simp [CaseLine.plainRecord]
    rw [CaseLine.records_of_cons variants, List.filter_cons, plain]
    by_cases marked : line.Carries defaultCaseName
    · have marks : line.Marks := ⟨by simp [variants], marked⟩
      simp [line.leadRecord_role_of_marked lineIndex first marked, marks]
    · have marks : ¬ line.Marks := fun both => marked both.2
      have role : ((line.leadRecord lineIndex first).role == .catchAll) = false := by
        rw [line.leadRecord_role_of_unmarked lineIndex first marked]
        split <;> rfl
      simp [role, marks]

theorem CaseLine.find?_catchAll (line : CaseLine α) (lineIndex : Nat) :
    (line.records lineIndex).find? (·.role == .catchAll) = line.marked? lineIndex := by
  rw [← List.head?_filter, line.filter_catchAll, Option.head?_toList]

theorem Declaration.find?_catchAll (declaration : Declaration α) :
    declaration.records.find? (·.role == .catchAll) =
      declaration.body.lines.zipIdx.findSome? fun placed => placed.1.marked? placed.2 := by
  rw [Declaration.records, List.find?_flatMap]
  simp only [CaseLine.find?_catchAll]

theorem Declaration.find?_catchAll_eq_none_iff (declaration : Declaration α) :
    declaration.records.find? (·.role == .catchAll) = none ↔
      ∀ line ∈ declaration.body.lines, ¬ line.Marks := by
  rw [declaration.find?_catchAll, List.findSome?_eq_none_iff]
  simp only [CaseLine.marked?_eq_none_iff]
  constructor
  · intro unmarked line member
    obtain ⟨lineIndex, selected⟩ := List.mem_iff_getElem?.mp member
    exact unmarked (line, lineIndex) (List.mk_mem_zipIdx_iff_getElem?.mpr selected)
  · intro unmarked placed member
    exact unmarked placed.1 (List.fst_mem_of_mem_zipIdx member)

theorem Declaration.exists_catchAll {declaration : Declaration α} {catchAll : CaseRecord α}
    (found : declaration.records.find? (·.role == .catchAll) = some catchAll) :
    ∃ before line after, declaration.body.lines = before ++ line :: after ∧
      (∀ other ∈ before, ¬ other.Marks) ∧ line.Marks ∧ catchAll.lineIndex = before.length := by
  rw [declaration.find?_catchAll, List.findSome?_eq_some_iff] at found
  obtain ⟨front, ⟨line, lineIndex⟩, back, split, here, earlier⟩ := found
  obtain ⟨before, rest, lines, rfl, place⟩ := List.zipIdx_eq_append_iff.mp split
  obtain ⟨_, after, rfl, same, -⟩ := List.zipIdx_eq_cons_iff.mp place.symm
  cases same
  have marks : line.Marks := by
    rw [← Decidable.not_not (p := line.Marks), ← line.marked?_eq_none_iff, here]
    simp
  refine ⟨before, line, after, lines, ?_, marks, ?_⟩
  · intro other member
    obtain ⟨otherIndex, selected⟩ := List.mem_iff_getElem?.mp member
    rw [← other.marked?_eq_none_iff otherIndex]
    exact earlier (other, otherIndex) (List.mk_mem_zipIdx_iff_getElem?.mpr selected)
  · rw [CaseLine.marked?, if_pos marks, Option.map_eq_some_iff] at here
    obtain ⟨first, -, rfl⟩ := here
    simp [CaseLine.leadRecord]

/-! ### Reports -/

def Declaration.asks (declaration : Declaration α) (settings : Settings) : Option (String × Settings) :=
  (declaration.findAttribute? annotationName).bind fun attr =>
    (declaration.request attr settings).toOption.map (Prod.map NamedType.name id)

theorem Declaration.exists_request {declaration : Declaration α} {settings changed : Settings}
    {rawType : String} (asks : declaration.asks settings = some (rawType, changed)) :
    ∃ attr type, declaration.findAttribute? annotationName = some attr ∧ type.name = rawType ∧
      declaration.request attr settings = .ok (type, changed) := by
  obtain ⟨attr, found, asked⟩ := Option.bind_eq_some_iff.mp asks
  obtain ⟨⟨type, other⟩, requested, same⟩ := Option.map_eq_some_iff.mp asked
  obtain ⟨named, rfl⟩ := Prod.mk.inj same
  exact ⟨attr, type, found, named, toOption_eq_some_iff.mp requested⟩

theorem Declaration.offering_request {declaration : Declaration α} {attr : Attribute α}
    {settings : Settings} {problems : List (Diagnostic α)}
    (failed : declaration.request attr settings = .error problems) : Offering problems [] := by
  rcases Declaration.request_error failed with rfl | rfl | ⟨argument, -, rfl⟩
  · exact offering_none rfl rfl
  · exact offering_none rfl rfl
  · exact offering_none rfl rfl

theorem Declaration.offering_of_asks_none {declaration : Declaration α} {settings : Settings}
    (silent : declaration.asks settings = none) : Offering (declaration.report settings) [] := by
  unfold Declaration.report Declaration.expand
  cases found : declaration.findAttribute? annotationName with
  | none => exact offering_nil
  | some attr =>
    cases requested : declaration.request attr settings with
    | error problems =>
      simp only [Declaration.expandAs, requested]
      exact Declaration.offering_request requested
    | ok request =>
      rw [Declaration.asks, found, Option.bind_some, requested] at silent
      cases silent

theorem Declaration.report_of_asks {declaration : Declaration α} {settings changed : Settings}
    {rawType : String} (asks : declaration.asks settings = some (rawType, changed)) :
    ∃ type, type.name = rawType ∧ declaration.report settings =
      match declaration.mapping type changed with
      | .ok _ => []
      | .error diagnostics => diagnostics := by
  obtain ⟨attr, type, found, named, requested⟩ := Declaration.exists_request asks
  refine ⟨type, named, ?_⟩
  simp only [Declaration.report, Declaration.expand, found, Declaration.expandAs, requested, ok_bind]
  cases declaration.mapping type changed with
  | error problems => rfl
  | ok mapping => rfl

theorem Declaration.report_of_unmarked {declaration : Declaration α} {settings changed : Settings}
    {rawType : String} (asks : declaration.asks settings = some (rawType, changed))
    (unmarked : ∀ line ∈ declaration.body.lines, ¬ line.Marks) :
    declaration.report settings = [missingDefault declaration rawType
      (defaultCandidate? declaration.records rawType changed.defaultCaseName)
        changed.defaultCaseName] := by
  obtain ⟨type, rfl, report⟩ := Declaration.report_of_asks asks
  rw [report]
  simp only [Declaration.mapping, declaration.find?_catchAll_eq_none_iff.mpr unmarked]

theorem Declaration.offering_of_marked {declaration : Declaration α} {settings changed : Settings}
    {rawType : String} (asks : declaration.asks settings = some (rawType, changed))
    (marked : ∃ line ∈ declaration.body.lines, line.Marks) :
    ∃ catchAll, declaration.records.find? (·.role == .catchAll) = some catchAll ∧
      Offering (declaration.report settings)
        (declaration.records.flatMap (Inspection.mk declaration rawType changed catchAll).offered) := by
  cases found : declaration.records.find? (·.role == .catchAll) with
  | none =>
    obtain ⟨line, member, marks⟩ := marked
    exact absurd marks (declaration.find?_catchAll_eq_none_iff.mp found line member)
  | some catchAll =>
    obtain ⟨type, rfl, report⟩ := Declaration.report_of_asks asks
    refine ⟨catchAll, rfl, ?_⟩
    have offering := (Inspection.mk declaration type.name changed catchAll).offering_cases []
      declaration.records
    rw [report]
    simp only [Declaration.mapping, found]
    cases result : (Inspection.mk declaration type.name changed catchAll).cases [] declaration.records with
    | mk problems values =>
      rw [result] at offering
      cases problems with
      | nil => exact offering
      | cons problem problems => exact offering

def Declaration.LacksCatchAll (declaration : Declaration α) (settings : Settings) : Prop :=
  ∃ diagnostic ∈ declaration.report settings, diagnostic.kind = .missingDefault

theorem Offering.not_missing {diagnostics : List (Diagnostic α)} {fixes : List (Fix α)}
    (offering : Offering diagnostics fixes) :
    ¬ ∃ diagnostic ∈ diagnostics, diagnostic.kind = .missingDefault := by
  rintro ⟨diagnostic, member, missing⟩
  have other := offering.kinds diagnostic member
  rw [missing] at other
  cases other

theorem Declaration.lacksCatchAll_iff (declaration : Declaration α) (settings : Settings) :
    declaration.LacksCatchAll settings ↔
      ∃ rawType changed, declaration.asks settings = some (rawType, changed) ∧
        ∀ line ∈ declaration.body.lines, ¬ line.Marks := by
  cases asks : declaration.asks settings with
  | none =>
    have silent := (Declaration.offering_of_asks_none asks).not_missing
    simpa [LacksCatchAll] using silent
  | some request =>
    obtain ⟨rawType, changed⟩ := request
    by_cases marked : ∃ line ∈ declaration.body.lines, line.Marks
    · obtain ⟨catchAll, -, offering⟩ := Declaration.offering_of_marked asks marked
      constructor
      · intro lacks
        exact absurd lacks offering.not_missing
      · rintro ⟨_, _, -, unmarked⟩
        obtain ⟨line, member, marks⟩ := marked
        exact absurd marks (unmarked line member)
    · have unmarked : ∀ line ∈ declaration.body.lines, ¬ line.Marks := by simpa using marked
      constructor
      · intro _
        exact ⟨rawType, changed, rfl, unmarked⟩
      · intro _
        rw [LacksCatchAll, Declaration.report_of_unmarked asks unmarked]
        exact ⟨_, List.mem_singleton_self _, rfl⟩

end RawMapping
