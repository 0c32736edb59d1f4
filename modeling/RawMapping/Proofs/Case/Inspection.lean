import RawMapping.Case.Mapping

/-! When the inspection of classified cases finds nothing wrong: every case passes on its own, and the
literals of the cases that have one differ in their texts. The cases with a value are then exactly the
cases with a literal, in source order. -/

set_option autoImplicit false

namespace RawMapping

variable {α : Type}

def resolvedCases (rawType : String) (records : List (CaseRecord α)) : List (ValueCase α) :=
  records.filterMap fun record =>
    (record.resolve? rawType).map fun resolved => ⟨record, resolved.1⟩

def Inspection.Accepts (inspection : Inspection α) (record : CaseRecord α) : Prop :=
  if record.role = .catchAll then inspection.catchAllProblems record = []
  else
    record.extraProblems = [] ∧
      ∃ literal node, record.resolve? inspection.rawType = some (literal, node) ∧
        literal.fitsType inspection.rawType = true

theorem CaseRecord.resolve?_of_catchAll {record : CaseRecord α} (marked : record.role = .catchAll)
    (rawType : String) : record.resolve? rawType = none := by
  simp [resolve?, marked]

theorem resolvedCases_cons_of_none {record : CaseRecord α} (records : List (CaseRecord α))
    {rawType : String} (absent : record.resolve? rawType = none) :
    resolvedCases rawType (record :: records) = resolvedCases rawType records := by
  simp [resolvedCases, absent]

theorem resolvedCases_cons_of_some {record : CaseRecord α} (records : List (CaseRecord α))
    {rawType : String} {literal : Literal α} {node : Node α}
    (resolved : record.resolve? rawType = some (literal, node)) :
    resolvedCases rawType (record :: records) = ⟨record, literal⟩ :: resolvedCases rawType records := by
  simp [resolvedCases, resolved]

theorem Seen.lookup_cons_eq_none_iff (key text : String) (node : Node α) (seen : Seen α) :
    List.lookup text ((key, node) :: seen) = none ↔ text ≠ key ∧ seen.lookup text = none := by
  by_cases same : text = key
  · simp [same]
  · have differ : (text == key) = false := by simpa using same
    simp [List.lookup_cons, same, differ]

theorem Inspection.value_eq_ok_iff (inspection : Inspection α) (seen : Seen α)
    (record : CaseRecord α) (literal : Literal α) (node : Node α) :
    inspection.value seen record = .ok (literal, node) ↔
      record.resolve? inspection.rawType = some (literal, node) ∧
        literal.fitsType inspection.rawType = true ∧ seen.lookup literal.text = none := by
  unfold Inspection.value
  cases resolved : record.resolve? inspection.rawType with
  | none =>
    simp only [reduceCtorEq, false_and, iff_false]
    split <;> simp
  | some pair =>
    obtain ⟨found, place⟩ := pair
    cases found with
    | placeholder label tag =>
      simp only [reduceCtorEq, Option.some.injEq, Prod.mk.injEq, false_iff, not_and, and_imp]
      rintro rfl - fits
      simp [Literal.fitsType] at fits
    | string value tag => cases fits : (Literal.string value tag).fitsType inspection.rawType <;> grind
    | integer text tag => cases fits : (Literal.integer text tag).fitsType inspection.rawType <;> grind

/-- What a case is refused a value for, with the diagnostic that says so. -/
inductive Inspection.Refuses (inspection : Inspection α) (seen : Seen α) (record : CaseRecord α) :
    Diagnostic α → Prop where
  | malformed {attr : Attribute α} (unresolved : record.resolve? inspection.rawType = none)
      (role : record.role = .explicit) (given : record.rawAttribute = some attr) :
      Refuses inspection seen record (malformedRawValue attr)
  | missing (unresolved : record.resolve? inspection.rawType = none)
      (bare : ∀ attr, record.role = .explicit → record.rawAttribute ≠ some attr) :
      Refuses inspection seen record
        (missingRawValue inspection.declaration record inspection.settings.placeholderLabel)
  | unfilled {label : String} {tag : α} {node : Node α}
      (resolved : record.resolve? inspection.rawType = some (.placeholder label tag, node)) :
      Refuses inspection seen record (unfilledRawValue record (.placeholder label tag))
  | mistyped {literal : Literal α} {node : Node α}
      (resolved : record.resolve? inspection.rawType = some (literal, node))
      (misfit : literal.fitsType inspection.rawType = false) :
      Refuses inspection seen record (rawValueType record literal inspection.rawType)
  | repeated {literal : Literal α} {node first : Node α}
      (resolved : record.resolve? inspection.rawType = some (literal, node))
      (fits : literal.fitsType inspection.rawType = true)
      (found : seen.lookup literal.text = some first) :
      Refuses inspection seen record (duplicateRawValue record literal.text node first)

theorem Inspection.refuses_of_error {inspection : Inspection α} {seen : Seen α} {record : CaseRecord α}
    {problem : Diagnostic α} (failed : inspection.value seen record = .error problem) :
    inspection.Refuses seen record problem := by
  unfold Inspection.value at failed
  cases resolved : record.resolve? inspection.rawType with
  | none =>
    rw [resolved] at failed
    dsimp only at failed
    split at failed
    · next role given =>
      cases failed
      exact .malformed resolved role given
    · next bare =>
      cases failed
      exact .missing resolved bare
  | some pair =>
    obtain ⟨literal, node⟩ := pair
    rw [resolved] at failed
    dsimp only at failed
    split at failed
    · cases failed
      exact .unfilled resolved
    · split at failed
      · next fits =>
        split at failed
        · next first found =>
          cases failed
          exact .repeated resolved fits found
        · cases failed
      · next misfit =>
        cases failed
        exact .mistyped resolved (Bool.eq_false_iff.mpr misfit)

theorem Declaration.mapping_eq_of_catchAll {declaration : Declaration α} {catchAll : CaseRecord α}
    (found : declaration.records.find? (·.role == .catchAll) = some catchAll) (rawType : NamedType α)
    (settings : Settings) :
    declaration.mapping rawType settings =
      let cases := (Inspection.mk declaration rawType.name settings catchAll).cases [] declaration.records
      if cases.1.isEmpty then .ok ⟨declaration.name.text, rawType, catchAll, cases.2⟩
      else .error cases.1 := by
  simp only [mapping, found]
  cases (Inspection.mk declaration rawType.name settings catchAll).cases [] declaration.records with
  | mk problems values =>
    cases problems with
    | nil => rfl
    | cons problem problems => rfl

theorem Inspection.cases_of_catchAll (inspection : Inspection α) (seen : Seen α)
    {record : CaseRecord α} (records : List (CaseRecord α)) (marked : record.role = .catchAll) :
    inspection.cases seen (record :: records) =
      (inspection.catchAllProblems record ++ (inspection.cases seen records).1,
        (inspection.cases seen records).2) := by
  simp [Inspection.cases, marked]

theorem Inspection.cases_of_error (inspection : Inspection α) (seen : Seen α)
    {record : CaseRecord α} (records : List (CaseRecord α)) (plain : record.role ≠ .catchAll)
    {problem : Diagnostic α} (failed : inspection.value seen record = .error problem) :
    inspection.cases seen (record :: records) =
      (record.extraProblems ++ problem :: (inspection.cases seen records).1,
        (inspection.cases seen records).2) := by
  cases role : record.role with
  | catchAll => exact absurd role plain
  | explicit => simp [Inspection.cases, role, failed]
  | implicit => simp [Inspection.cases, role, failed]

theorem Inspection.cases_of_ok (inspection : Inspection α) (seen : Seen α)
    {record : CaseRecord α} (records : List (CaseRecord α)) (plain : record.role ≠ .catchAll)
    {literal : Literal α} {node : Node α} (found : inspection.value seen record = .ok (literal, node)) :
    inspection.cases seen (record :: records) =
      (record.extraProblems ++ (inspection.cases ((literal.text, node) :: seen) records).1,
        ⟨record, literal⟩ :: (inspection.cases ((literal.text, node) :: seen) records).2) := by
  cases role : record.role with
  | catchAll => exact absurd role plain
  | explicit => simp [Inspection.cases, role, found]
  | implicit => simp [Inspection.cases, role, found]

/-- The inspection finds nothing wrong exactly if each case passes on its own, no two literals have the
same text, and none has a text that was seen before. -/
theorem Inspection.cases_eq_nil_iff (inspection : Inspection α) (seen : Seen α)
    (records : List (CaseRecord α)) (values : List (ValueCase α)) :
    inspection.cases seen records = ([], values) ↔
      (∀ record ∈ records, inspection.Accepts record) ∧
        ((resolvedCases inspection.rawType records).map (·.literal.text)).Nodup ∧
        (∀ valueCase ∈ resolvedCases inspection.rawType records,
          seen.lookup valueCase.literal.text = none) ∧
        values = resolvedCases inspection.rawType records := by
  -- the texts seen grow by one with each value, so the induction is for all of them
  induction records generalizing seen values with
  | nil => simp [Inspection.cases, resolvedCases, eq_comm]
  | cons record records ih =>
    by_cases marked : record.role = .catchAll
    · have absent := CaseRecord.resolve?_of_catchAll marked inspection.rawType
      have := ih seen values
      rw [inspection.cases_of_catchAll seen records marked, resolvedCases_cons_of_none _ absent]
      simp only [Prod.ext_iff] at this ⊢
      simp only [List.forall_mem_cons, List.append_eq_nil_iff, Accepts, marked, if_true]
      grind [Accepts]
    · cases found : inspection.value seen record with
      | error problem =>
        -- a problem was found, so one of the conditions fails at this case
        rw [inspection.cases_of_error seen records marked found]
        simp only [Prod.mk.injEq, List.append_eq_nil_iff, reduceCtorEq, and_false, false_and, false_iff,
          List.forall_mem_cons, Accepts, marked, if_false, not_and]
        rintro ⟨⟨-, literal, node, resolved, fits⟩, -⟩ - unseen
        have first := unseen ⟨record, literal⟩ (by simp [resolvedCases_cons_of_some _ resolved])
        have accepted := (inspection.value_eq_ok_iff seen record literal node).mpr
          ⟨resolved, fits, first⟩
        rw [found] at accepted
        cases accepted
      | ok pair =>
        obtain ⟨literal, node⟩ := pair
        obtain ⟨resolved, fits, unseen⟩ := (inspection.value_eq_ok_iff seen record literal node).mp found
        rw [inspection.cases_of_ok seen records marked found]
        have passes : inspection.Accepts record ↔ record.extraProblems = [] := by
          simp [Accepts, marked, resolved, fits]
        have head := resolvedCases_cons_of_some records resolved
        cases values with
        | nil => simp [head]
        | cons value values =>
          have rest := ih ((literal.text, node) :: seen) values
          simp only [Prod.ext_iff, Seen.lookup_cons_eq_none_iff, forall_and] at rest
          simp only [head, Prod.ext_iff, List.append_eq_nil_iff, List.cons.injEq,
            List.forall_mem_cons, passes, List.map_cons, List.nodup_cons, unseen, true_and,
            List.mem_map, not_exists, not_and]
          grind

end RawMapping
