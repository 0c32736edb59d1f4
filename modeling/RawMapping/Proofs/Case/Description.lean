import RawMapping.Derived.Expand
import RawMapping.Proofs.Case.Inspection

/-! What a declaration describes, read off its lines alone: which literal each case is assigned, and
which case takes every other value. A declaration is well formed if these descriptions are complete
and do not conflict. -/

set_option autoImplicit false

namespace RawMapping

variable {α : Type}

def Literal.bare (literal : Literal α) : Literal Unit :=
  literal.map fun _ => ()

structure Assignment where
  caseName : String
  literal : Literal Unit
  deriving DecidableEq, Repr

def CaseLine.Carries (line : CaseLine α) (name : String) : Prop :=
  ∃ attr ∈ line.attributes, attr.name.text = name

instance (line : CaseLine α) (name : String) : Decidable (line.Carries name) :=
  inferInstanceAs (Decidable (∃ attr ∈ line.attributes, attr.name.text = name))

def CaseLine.Marks (line : CaseLine α) : Prop :=
  line.variants ≠ [] ∧ line.Carries defaultCaseName

instance (line : CaseLine α) : Decidable line.Marks :=
  inferInstanceAs (Decidable (line.variants ≠ [] ∧ line.Carries defaultCaseName))

def Literal.HasType (literal : Literal α) (rawType : String) : Prop :=
  if rawType = stringTypeName then ∃ value tag, literal = .string value tag
  else ∃ text tag, literal = .integer text tag

def Variant.ownName (variant : Variant α) : Assignment :=
  ⟨variant.name.text, .string variant.name.text ()⟩

/-- The literal of a line's first variant: what the raw value attribute gives, or else the name. -/
def CaseLine.leadAssignment (line : CaseLine α) (variant : Variant α) : Assignment :=
  match line.attributes.find? (·.isNamed rawValueName) with
  | some ⟨_, _, argument :: _, _⟩ => ⟨variant.name.text, argument.value.bare⟩
  | _ => variant.ownName

def CaseLine.assignments (line : CaseLine α) : List Assignment :=
  match line.variants with
  | [] => []
  | first :: others =>
    (if line.Carries defaultCaseName then [] else [line.leadAssignment first]) ++
      others.map Variant.ownName

/-- What the cases other than the catch-all stand for, in source order. -/
def Declaration.assignments (declaration : Declaration α) : List Assignment :=
  declaration.body.lines.flatMap CaseLine.assignments

/-- The variant at a place of the line has a value of the raw type. Only the first one can be given a
value, by a single attribute with a single argument; any other has one if values are strings. -/
def CaseLine.Valued (line : CaseLine α) (rawType : String) (place : Nat) : Prop :=
  if place = 0 ∧ line.Carries rawValueName then
    ∃ attr argument, line.attributes.filter (·.isNamed rawValueName) = [attr] ∧
      attr.arguments = [argument] ∧ argument.value.HasType rawType
  else rawType = stringTypeName

structure Attribute.Requests (attr : Attribute α) (rawType : String) : Prop where
  typeArgument : attr.typeArguments.map (·.name) = [rawType]
  caseName : ∀ argument, attr.argument? caseNameLabel = some argument →
    ∃ name tag, argument.value = .string name tag

/-- The line is the only one that marks a case as the catch-all, and its first variant can be that. -/
structure Declaration.HasCatchAll (declaration : Declaration α) (rawType : String) (line : CaseLine α)
    (variant : Variant α) : Prop where
  only : declaration.body.lines.filter (·.Marks) = [line]
  first : line.variants.head? = some variant
  payload : ∃ parameter, variant.parameters = some [parameter] ∧ parameter.type.name = rawType
  unvalued : ¬ line.Carries rawValueName

/-- The cases describe a mapping to the raw type: there is one catch-all, every other case has a value,
and no two values have the same text. -/
structure Declaration.Describes (declaration : Declaration α) (rawType : String)
    (variant : Variant α) : Prop where
  catchAll : ∃ line, declaration.HasCatchAll rawType line variant
  valued : ∀ line ∈ declaration.body.lines, ∀ place < line.variants.length,
    ¬ (place = 0 ∧ line.Carries defaultCaseName) → line.Valued rawType place
  distinct : (declaration.assignments.map (·.literal.text)).Nodup

/-- The declaration asks to be expanded over the raw type and describes a mapping to it. -/
structure Declaration.WellFormed (declaration : Declaration α) (rawType : String)
    (variant : Variant α) : Prop where
  annotation : ∃ attr, declaration.findAttribute? annotationName = some attr ∧ attr.Requests rawType
  kind : declaration.kind = .enumKind
  describes : declaration.Describes rawType variant

/-- An assignment comes from the first variant of a line that marks no catch-all, or from a further
variant. -/
theorem Declaration.mem_assignments {declaration : Declaration α} {assignment : Assignment}
    (member : assignment ∈ declaration.assignments) :
    ∃ line ∈ declaration.body.lines, ∃ first others, line.variants = first :: others ∧
      ((¬ line.Carries defaultCaseName ∧ assignment = line.leadAssignment first) ∨
        ∃ other ∈ others, assignment = other.ownName) := by
  obtain ⟨line, inside, member⟩ := List.mem_flatMap.mp member
  refine ⟨line, inside, ?_⟩
  unfold CaseLine.assignments at member
  split at member
  · simp at member
  · next first others variants =>
    refine ⟨first, others, variants, ?_⟩
    rcases List.mem_append.mp member with lead | own
    · split at lead
      · simp at lead
      · next unmarked => exact .inl ⟨unmarked, List.mem_singleton.mp lead⟩
    · obtain ⟨other, place, rfl⟩ := List.mem_map.mp own
      exact .inr ⟨other, place, rfl⟩

/-! ### Lines and records -/

theorem CaseLine.any_isNamed_iff (line : CaseLine α) (name : String) :
    line.attributes.any (·.isNamed name) = true ↔ line.Carries name := by
  simp [Carries, Attribute.isNamed]

theorem CaseLine.leadRole_eq (line : CaseLine α) :
    line.leadRole = if line.Carries defaultCaseName then .catchAll
      else if line.Carries rawValueName then .explicit else .implicit := by
  simp only [leadRole, any_isNamed_iff]

theorem CaseLine.map_rawAttributes (line : CaseLine α) :
    line.rawAttributes.map (·.1) = line.attributes.filter (·.isNamed rawValueName) := by
  have unindexed : line.attributes.filter (·.isNamed rawValueName) =
      (line.attributes.zipIdx.map Prod.fst).filter (·.isNamed rawValueName) := by
    rw [List.zipIdx_map_fst]
  rw [unindexed, List.filter_map]
  rfl

theorem CaseLine.rawAttributes_eq_nil_iff (line : CaseLine α) :
    line.rawAttributes = [] ↔ ¬ line.Carries rawValueName := by
  rw [← List.map_eq_nil_iff (f := Prod.fst), map_rawAttributes, List.filter_eq_nil_iff]
  simp [Carries, Attribute.isNamed]

@[simp] theorem CaseLine.leadRecord_rawAttribute (line : CaseLine α) (lineIndex : Nat)
    (variant : Variant α) : (line.leadRecord lineIndex variant).rawAttribute =
      (line.attributes.filter (·.isNamed rawValueName)).head? := by
  rw [← map_rawAttributes, List.head?_map]
  rfl

theorem CaseLine.leadRecord_extraRawAttributes_eq_nil_iff (line : CaseLine α) (lineIndex : Nat)
    (variant : Variant α) : (line.leadRecord lineIndex variant).extraRawAttributes = [] ↔
      (line.attributes.filter (·.isNamed rawValueName)).tail = [] := by
  rw [← map_rawAttributes, ← List.map_tail, List.map_eq_nil_iff]
  rfl

theorem Literal.fitsType_iff (literal : Literal α) (rawType : String) :
    literal.fitsType rawType = true ↔ literal.HasType rawType := by
  by_cases string : rawType = stringTypeName
  · cases literal <;> simp [fitsType, HasType, string]
  · cases literal <;> simp [fitsType, HasType, string]

theorem Variant.hasRawPayload_iff (variant : Variant α) (rawType : String) :
    variant.hasRawPayload rawType = true ↔
      ∃ parameter, variant.parameters = some [parameter] ∧ parameter.type.name = rawType := by
  unfold hasRawPayload
  split
  · next parameter same => simp [same]
  · next none =>
    simp only [Bool.false_eq_true, false_iff, not_exists, not_and]
    intro parameter same
    exact absurd same (none parameter)

theorem CaseLine.leadRecord_role_of_marked (line : CaseLine α) (lineIndex : Nat)
    (variant : Variant α) (marked : line.Carries defaultCaseName) :
    (line.leadRecord lineIndex variant).role = .catchAll := by
  simp [leadRecord, leadRole_eq, marked]

theorem Inspection.accepts_marked_iff (inspection : Inspection α) (line : CaseLine α) (lineIndex : Nat)
    (variant : Variant α) (marked : line.Carries defaultCaseName) :
    inspection.Accepts (line.leadRecord lineIndex variant) ↔
      lineIndex = inspection.catchAll.lineIndex ∧
        variant.hasRawPayload inspection.rawType = true ∧ ¬ line.Carries rawValueName := by
  have role := line.leadRecord_role_of_marked lineIndex variant marked
  have conflict : (line.leadRecord lineIndex variant).rawAttribute.isSome = false ↔
      ¬ line.Carries rawValueName := by
    rw [← line.rawAttributes_eq_nil_iff]
    simp [CaseLine.leadRecord]
  rw [Accepts, if_pos role, catchAllProblems, List.append_eq_nil_iff, ← conflict]
  change (if lineIndex ≠ _ then _ else if variant.hasRawPayload _ = true then _ else _) = [] ∧ _ ↔ _
  by_cases here : lineIndex = inspection.catchAll.lineIndex
  · cases payload : variant.hasRawPayload inspection.rawType <;> simp [here]
  · simp [here]

theorem CaseLine.leadRecord_value?_eq_some_iff (line : CaseLine α) (lineIndex : Nat)
    (variant : Variant α) (literal : Literal α) :
    (line.leadRecord lineIndex variant).extraRawAttributes = [] ∧
        (line.leadRecord lineIndex variant).value? = some literal ↔
      ∃ attr argument, line.attributes.filter (·.isNamed rawValueName) = [attr] ∧
        attr.arguments = [argument] ∧ argument.value = literal := by
  rw [leadRecord_extraRawAttributes_eq_nil_iff]
  unfold CaseRecord.value?
  rw [leadRecord_rawAttribute]
  cases line.attributes.filter (·.isNamed rawValueName) with
  | nil => simp
  | cons attr others =>
    cases others with
    | nil =>
      simp only [List.tail_cons, List.head?_cons, true_and, List.cons.injEq, and_true]
      split
      · next argument same => simp [same]
      · next none =>
        simp only [reduceCtorEq, false_iff, not_exists, not_and]
        rintro _ argument rfl same
        exact absurd same (none argument)
    | cons second others => simp

theorem CaseLine.leadRecord_role_of_unmarked (line : CaseLine α) (lineIndex : Nat)
    (variant : Variant α) (unmarked : ¬ line.Carries defaultCaseName) :
    (line.leadRecord lineIndex variant).role =
      if line.Carries rawValueName then .explicit else .implicit := by
  simp [leadRecord, leadRole_eq, unmarked]

theorem Inspection.accepts_unmarked_iff (inspection : Inspection α) (line : CaseLine α)
    (lineIndex : Nat) (variant : Variant α) (unmarked : ¬ line.Carries defaultCaseName) :
    inspection.Accepts (line.leadRecord lineIndex variant) ↔ line.Valued inspection.rawType 0 := by
  have role := line.leadRecord_role_of_unmarked lineIndex variant unmarked
  by_cases given : line.Carries rawValueName
  · rw [if_pos given] at role
    simp only [Accepts, role, CaseLine.Valued, given, CaseRecord.extraProblems, CaseRecord.resolve?,
      reduceCtorEq, if_false, List.map_eq_nil_iff, and_self, if_true]
    constructor
    · rintro ⟨single, literal, node, resolved, fits⟩
      obtain ⟨found, value, same⟩ := Option.map_eq_some_iff.mp resolved
      cases same
      obtain ⟨attr, argument, only, arguments, rfl⟩ :=
        (line.leadRecord_value?_eq_some_iff lineIndex variant literal).mp ⟨single, value⟩
      exact ⟨attr, argument, only, arguments, (Literal.fitsType_iff _ _).mp fits⟩
    · rintro ⟨attr, argument, only, arguments, typed⟩
      obtain ⟨single, value⟩ := (line.leadRecord_value?_eq_some_iff lineIndex variant _).mpr
        ⟨attr, argument, only, arguments, rfl⟩
      exact ⟨single, argument.value, .literal argument.value, by rw [value]; rfl,
        (Literal.fitsType_iff _ _).mpr typed⟩
  · rw [if_neg given] at role
    by_cases string : inspection.rawType = stringTypeName
    · simp [Accepts, role, CaseLine.Valued, given, CaseRecord.extraProblems, CaseRecord.resolve?,
        string, Literal.fitsType]
    · simp [Accepts, role, CaseLine.Valued, given, CaseRecord.resolve?, string]

theorem Inspection.accepts_plain_iff (inspection : Inspection α) (line : CaseLine α)
    (lineIndex index : Nat) (variant : Variant α) :
    inspection.Accepts (line.plainRecord lineIndex index variant) ↔
      inspection.rawType = stringTypeName := by
  by_cases string : inspection.rawType = stringTypeName
  · simp [Accepts, CaseLine.plainRecord, CaseRecord.extraProblems, CaseRecord.resolve?, string,
      Literal.fitsType]
  · simp [Accepts, CaseLine.plainRecord, CaseRecord.resolve?, string]

theorem CaseLine.records_of_cons {line : CaseLine α} {first : Variant α} {others : List (Variant α)}
    (variants : line.variants = first :: others) (lineIndex : Nat) :
    line.records lineIndex = line.leadRecord lineIndex first ::
      (others.zipIdx 1).map fun placed => line.plainRecord lineIndex placed.2 placed.1 := by
  rw [CaseLine.records, variants]

theorem Inspection.accepts_line_iff (inspection : Inspection α) (line : CaseLine α) (lineIndex : Nat) :
    (∀ record ∈ line.records lineIndex, inspection.Accepts record) ↔
      (∀ variant, line.variants.head? = some variant → line.Carries defaultCaseName →
        lineIndex = inspection.catchAll.lineIndex ∧
          variant.hasRawPayload inspection.rawType = true ∧ ¬ line.Carries rawValueName) ∧
      (∀ place < line.variants.length, ¬ (place = 0 ∧ line.Carries defaultCaseName) →
        line.Valued inspection.rawType place) := by
  cases variants : line.variants with
  | nil => simp [CaseLine.records, variants]
  | cons first others =>
    -- attributes speak of the first variant only, so it is settled apart from the others
    have lead : inspection.Accepts (line.leadRecord lineIndex first) ↔
        (line.Carries defaultCaseName → lineIndex = inspection.catchAll.lineIndex ∧
          first.hasRawPayload inspection.rawType = true ∧ ¬ line.Carries rawValueName) ∧
        (¬ line.Carries defaultCaseName → line.Valued inspection.rawType 0) := by
      by_cases marked : line.Carries defaultCaseName
      · simp [inspection.accepts_marked_iff line lineIndex first marked, marked]
      · simp [inspection.accepts_unmarked_iff line lineIndex first marked, marked]
    have plain : (∀ record ∈ (others.zipIdx 1).map fun placed =>
        line.plainRecord lineIndex placed.2 placed.1, inspection.Accepts record) ↔
        (others ≠ [] → inspection.rawType = stringTypeName) := by
      simp only [List.forall_mem_map, inspection.accepts_plain_iff]
      cases others with
      | nil => simp
      | cons second others =>
        constructor
        · intro all _
          exact all (second, 1) (by simp)
        · intro string _ _
          exact string (by simp)
    -- behind the first place only the raw type decides, so one such place tells of all
    have later : ∀ place, line.Valued inspection.rawType (place + 1) ↔
        inspection.rawType = stringTypeName := by
      simp [CaseLine.Valued]
    rw [CaseLine.records_of_cons variants, List.forall_mem_cons, lead, plain]
    constructor
    · rintro ⟨⟨marked, unmarked⟩, string⟩
      refine ⟨?_, ?_⟩
      · intro variant head carries
        cases head
        exact marked carries
      · intro place bound free
        cases place with
        | zero => exact unmarked (fun carries => free ⟨rfl, carries⟩)
        | succ place =>
          apply (later place).mpr
          apply string
          rintro rfl
          simp at bound
    · rintro ⟨marked, valued⟩
      refine ⟨⟨marked first rfl, ?_⟩, ?_⟩
      · intro unmarked
        exact valued 0 (by simp) (fun both => unmarked both.2)
      · intro more
        have bound : 1 < (first :: others).length := by
          simpa using List.length_pos_iff.mpr more
        exact (later 0).mp (valued 1 bound (by simp))

/-! ### Resolved cases and assignments -/

def ValueCase.assignment (valueCase : ValueCase α) : Assignment :=
  ⟨valueCase.name, valueCase.literal.bare⟩

@[simp] theorem Literal.text_bare (literal : Literal α) : literal.bare.text = literal.text := by
  cases literal <;> rfl

theorem CaseLine.resolvedCases_plain (line : CaseLine α) (lineIndex start : Nat)
    (others : List (Variant α)) :
    (resolvedCases stringTypeName ((others.zipIdx start).map fun placed =>
      line.plainRecord lineIndex placed.2 placed.1)).map ValueCase.assignment =
        others.map Variant.ownName := by
  induction others generalizing start with
  | nil => rfl
  | cons variant others ih =>
    have := ih (start + 1)
    simp_all [resolvedCases, CaseRecord.resolve?, plainRecord, ValueCase.assignment, ValueCase.name,
      CaseRecord.name, Variant.ownName, Literal.bare, Literal.map]

theorem CaseLine.resolve?_lead {line : CaseLine α} {rawType : String} (lineIndex : Nat)
    (variant : Variant α) (unmarked : ¬ line.Carries defaultCaseName)
    (valued : line.Valued rawType 0) :
    ∃ literal node, (line.leadRecord lineIndex variant).resolve? rawType = some (literal, node) ∧
      line.leadAssignment variant = ⟨variant.name.text, literal.bare⟩ := by
  have role := line.leadRecord_role_of_unmarked lineIndex variant unmarked
  -- the value is what the only attribute gives, or else the name
  by_cases given : line.Carries rawValueName
  · simp only [Valued, given, and_self, if_true] at valued
    obtain ⟨attr, argument, only, arguments, -⟩ := valued
    obtain ⟨-, value⟩ := (line.leadRecord_value?_eq_some_iff lineIndex variant _).mpr
      ⟨attr, argument, only, arguments, rfl⟩
    have found : line.attributes.find? (·.isNamed rawValueName) = some attr := by
      rw [← List.head?_filter, only]
      rfl
    refine ⟨argument.value, .literal argument.value, ?_, ?_⟩
    · rw [CaseRecord.resolve?, role, if_pos given]
      simp [value]
    · obtain ⟨name, types, list, tag⟩ := attr
      cases arguments
      simp only [leadAssignment, found]
  · simp only [Valued, given, and_false, if_false] at valued
    have found : line.attributes.find? (·.isNamed rawValueName) = none := by
      rw [List.find?_eq_none]
      intro attr member named
      exact given ⟨attr, member, by simpa [Attribute.isNamed] using named⟩
    refine ⟨.string variant.name.text variant.name.tag, .identifier variant.name, ?_, ?_⟩
    · rw [CaseRecord.resolve?, role, if_neg given]
      simp [valued, leadRecord]
    · simp [leadAssignment, found, Variant.ownName, Literal.bare, Literal.map]

theorem CaseLine.map_resolvedCases {line : CaseLine α} {rawType : String} (lineIndex : Nat)
    (valued : ∀ place < line.variants.length, ¬ (place = 0 ∧ line.Carries defaultCaseName) →
      line.Valued rawType place) :
    (resolvedCases rawType (line.records lineIndex)).map ValueCase.assignment = line.assignments := by
  unfold assignments
  cases variants : line.variants with
  | nil => simp [records, variants, resolvedCases]
  | cons first others =>
    rw [variants] at valued
    rw [records_of_cons variants]
    have plain : (resolvedCases rawType ((others.zipIdx 1).map fun placed =>
        line.plainRecord lineIndex placed.2 placed.1)).map ValueCase.assignment =
          others.map Variant.ownName := by
      cases others with
      | nil => rfl
      | cons second others =>
        have string : rawType = stringTypeName := by
          simpa [Valued] using valued 1 (by simp) (by simp)
        rw [string]
        exact line.resolvedCases_plain lineIndex 1 (second :: others)
    by_cases marked : line.Carries defaultCaseName
    · have none := CaseRecord.resolve?_of_catchAll
        (line.leadRecord_role_of_marked lineIndex first marked) rawType
      rw [resolvedCases_cons_of_none _ none, plain]
      simp [marked]
    · obtain ⟨literal, node, resolved, lead⟩ := resolve?_lead lineIndex first marked
        (valued 0 (by simp) (fun both => marked both.2))
      rw [resolvedCases_cons_of_some _ resolved, List.map_cons, plain]
      simp [marked, lead, ValueCase.assignment, ValueCase.name, CaseRecord.name, leadRecord]

/-- Where every case has a value, the resolved cases of a declaration are its assignments. -/
theorem Declaration.map_resolvedCases {declaration : Declaration α} {rawType : String}
    (valued : ∀ line ∈ declaration.body.lines, ∀ place < line.variants.length,
      ¬ (place = 0 ∧ line.Carries defaultCaseName) → line.Valued rawType place) :
    (resolvedCases rawType declaration.records).map ValueCase.assignment =
      declaration.assignments := by
  unfold records assignments resolvedCases
  rw [List.filterMap_flatMap, List.map_flatMap]
  -- lines are numbered from the start of the body, so the induction is over its tails
  have lines : ∀ (lines : List (CaseLine α)) (start : Nat), lines ⊆ declaration.body.lines →
      ((lines.zipIdx start).flatMap fun indexed => (resolvedCases rawType
        (indexed.1.records indexed.2)).map ValueCase.assignment) =
          lines.flatMap CaseLine.assignments := by
    intro lines
    induction lines with
    | nil => simp
    | cons line lines ih =>
      intro start within
      obtain ⟨here, there⟩ := List.cons_subset.mp within
      rw [List.zipIdx_cons, List.flatMap_cons, List.flatMap_cons, ih (start + 1) there]
      rw [CaseLine.map_resolvedCases start (valued line here)]
  exact lines declaration.body.lines 0 (List.Subset.refl _)

theorem Declaration.mem_records {declaration : Declaration α} {record : CaseRecord α} :
    record ∈ declaration.records ↔
      ∃ (line : CaseLine α) (lineIndex : Nat), declaration.body.lines[lineIndex]? = some line ∧
        record ∈ line.records lineIndex := by
  simp only [records, List.mem_flatMap, Prod.exists, List.mk_mem_zipIdx_iff_getElem?]

theorem CaseLine.eq_leadRecord_of_catchAll {line : CaseLine α} {lineIndex : Nat}
    {record : CaseRecord α} (member : record ∈ line.records lineIndex)
    (marked : record.role = .catchAll) :
    ∃ variant, line.variants.head? = some variant ∧ line.Carries defaultCaseName ∧
      record = line.leadRecord lineIndex variant := by
  unfold records at member
  cases variants : line.variants with
  | nil => simp [variants] at member
  | cons first others =>
    simp only [variants, List.mem_cons, List.mem_map] at member
    rcases member with rfl | ⟨_, _, rfl⟩
    · by_cases carries : line.Carries defaultCaseName
      · exact ⟨first, rfl, carries, rfl⟩
      · rw [line.leadRecord_role_of_unmarked lineIndex first carries] at marked
        split at marked <;> cases marked
    · cases marked

theorem CaseLine.leadRecord_mem_records {line : CaseLine α} {variant : Variant α} (lineIndex : Nat)
    (head : line.variants.head? = some variant) :
    line.leadRecord lineIndex variant ∈ line.records lineIndex := by
  unfold records
  cases variants : line.variants with
  | nil => simp [variants] at head
  | cons first others =>
    simp only [variants, List.head?_cons, Option.some.injEq] at head
    simp [head]

/-! ### The mapping of a declaration -/

theorem filter_eq_singleton_iff {ι : Type} (holds : ι → Bool) (items : List ι) (item : ι) :
    items.filter holds = [item] ↔
      ∃ place : Nat, items[place]? = some item ∧ holds item = true ∧
        ∀ (other : Nat) found, items[other]? = some found → holds found = true → other = place := by
  constructor
  · intro only
    obtain ⟨before, after, rfl, none, here, rest⟩ := List.filter_eq_cons_iff.mp only
    refine ⟨before.length, by simp, here, ?_⟩
    intro other found selected satisfied
    -- what stands in front of the item or behind it was filtered out
    rcases Nat.lt_trichotomy other before.length with early | same | late
    · rw [List.getElem?_append_left early] at selected
      exact absurd satisfied (none found (List.mem_of_getElem? selected))
    · exact same
    · obtain ⟨gap, rfl⟩ := Nat.exists_eq_add_of_lt late
      rw [List.getElem?_append_right (by omega)] at selected
      have later : after[gap]? = some found := by
        simpa [show before.length + gap + 1 - before.length = gap + 1 by omega] using selected
      exact absurd satisfied (List.filter_eq_nil_iff.mp rest found (List.mem_of_getElem? later))
  · rintro ⟨place, selected, here, unique⟩
    obtain ⟨bound, rfl⟩ := List.getElem?_eq_some_iff.mp selected
    have outside : ∀ other : Nat, other ≠ place → ∀ found, items[other]? = some found →
        ¬ holds found = true := by
      intro other apart found at_other satisfied
      exact apart (unique other found at_other satisfied)
    have split : items = items.take place ++ items[place] :: items.drop (place + 1) := by simp
    rw [List.filter_eq_cons_iff]
    refine ⟨items.take place, items.drop (place + 1), split, ?_, here, ?_⟩
    · intro found member
      obtain ⟨other, early, same⟩ := List.mem_iff_getElem.mp member
      rw [List.length_take] at early
      rw [List.getElem_take] at same
      exact outside other (by omega) found (by rw [← same]; simp)
    · rw [List.filter_eq_nil_iff]
      intro found member
      obtain ⟨gap, late⟩ := List.mem_iff_getElem?.mp member
      rw [List.getElem?_drop] at late
      exact outside (place + 1 + gap) (by omega) found late

end RawMapping
