import RawMapping.Proofs.Report.Mending

/-! What is reported, case by case. Once a catch-all is found, the report is put together from what each
case deserves, in source order, and a case deserves its problems for itself and for the cases before it:
a later catch-all for the first one, a repeated value for the first case that has it.

What a report finds is told apart from how it is worded: a finding is the kind of a diagnostic, the node it
is about and its notes. Cases are told apart by their places, so a node that stood at two places of the
tree would count as two. -/

set_option autoImplicit false

namespace RawMapping

variable {α : Type}

/-! ### What a case deserves -/

def CaseRecord.Uses (record : CaseRecord α) (rawType text : String) (node : Node α) : Prop :=
  ∃ literal, record.resolve? rawType = some (literal, node) ∧ literal.fitsType rawType = true ∧
    literal.text = text

/-- The node that writes the text as the value of the case, if that is its value and fits the raw type. -/
def CaseRecord.uses? (record : CaseRecord α) (rawType text : String) : Option (Node α) :=
  (record.resolve? rawType).bind fun (literal, node) =>
    if literal.fitsType rawType ∧ literal.text = text then some node else none

def firstUse? (rawType text : String) (records : List (CaseRecord α)) : Option (Node α) :=
  records.findSome? (·.uses? rawType text)

section

variable (declaration : Declaration α) (rawType label : String) (earlier : List (CaseRecord α))

def CaseRecord.markProblems (record : CaseRecord α) : List (Diagnostic α) :=
  let place :=
    match earlier.find? (·.role == .catchAll) with
    | some first => [extraDefault record first]
    | none => if record.variant.hasRawPayload rawType then [] else [wrongAssociatedValue record rawType]
  place ++ if record.rawAttribute.isSome then [defaultAndRaw record] else []

def CaseRecord.givenProblem? (record : CaseRecord α) (attr : Attribute α) : Option (Diagnostic α) :=
  match attr.arguments with
  | [⟨_, literal, _⟩] =>
    match literal with
    | .placeholder .. => some (unfilledRawValue record literal)
    | _ =>
      if literal.fitsType rawType then
        (firstUse? rawType literal.text earlier).map
          (duplicateRawValue record literal.text (.literal literal))
      else some (rawValueType record literal rawType)
  | _ => some (malformedRawValue attr)

def CaseRecord.nameProblem? (record : CaseRecord α) : Option (Diagnostic α) :=
  if rawType = stringTypeName then
    let name := record.variant.name
    let text := (Literal.string name.text name.tag).text
    (firstUse? rawType text earlier).map (duplicateRawValue record text (.identifier name))
  else some (missingRawValue declaration record label)

def CaseRecord.deserved (record : CaseRecord α) : List (Diagnostic α) :=
  match record.role with
  | .catchAll => record.markProblems rawType earlier
  | .explicit =>
    (record.extraRawAttributes.map fun (attr, place) => extraRawValue record attr place) ++
      (record.rawAttribute.bind (record.givenProblem? rawType earlier)).toList
  | .implicit => (record.nameProblem? declaration rawType label earlier).toList

end

def Declaration.deserved (declaration : Declaration α) (rawType label : String) : List (Diagnostic α) :=
  declaration.records.zipIdx.flatMap fun (record, place) =>
    record.deserved declaration rawType label (declaration.records.take place)

/-! ### What is found -/

structure Finding (α : Type) where
  kind : DiagnosticKind
  anchor : Node α
  notes : List (Note α)
  deriving DecidableEq, Repr

def Diagnostic.finding (diagnostic : Diagnostic α) : Finding α :=
  ⟨diagnostic.kind, diagnostic.anchor, diagnostic.notes⟩

def repetition (node first : Node α) : Finding α :=
  ⟨.duplicateRawValue, node, [⟨.duplicateRawValue, first⟩]⟩

section

variable (rawType : String) (earlier : List (CaseRecord α))

/-- A marked case that is not the first one is extra, with a note at the first one. The first one has to
have the payload. Neither may have a value. -/
def CaseRecord.markFindings (record : CaseRecord α) : List (Finding α) :=
  let place : List (Finding α) :=
    match earlier.find? (·.role == .catchAll) with
    | some first =>
      [⟨.extraDefault, .identifier record.variant.name, [⟨.multipleDefault, .variant first.variant⟩]⟩]
    | none =>
      if record.variant.hasRawPayload rawType then []
      else [⟨.wrongAssociatedValue, .variant record.variant, []⟩]
  place ++ if record.rawAttribute.isSome then [⟨.defaultAndRaw, .variant record.variant, []⟩] else []

/-- Every attribute behind the first is extra, with a note at the first one. -/
def CaseRecord.extraFindings (record : CaseRecord α) (first : Attribute α) : List (Finding α) :=
  record.extraRawAttributes.map fun (attr, _) =>
    ⟨.extraRawValue, .attr attr, [⟨.multipleRawValue, .attr first⟩]⟩

def Attribute.givenFinding? (attr : Attribute α) : Option (Finding α) :=
  match attr.arguments with
  | [⟨_, literal, _⟩] =>
    match literal with
    | .placeholder .. => some ⟨.unfilledRawValue, .literal literal, []⟩
    | _ =>
      if literal.fitsType rawType then
        (firstUse? rawType literal.text earlier).map (repetition (.literal literal))
      else some ⟨.rawValueType, .literal literal, []⟩
  | _ => some ⟨.malformedRawValue, .attr attr, []⟩

def CaseRecord.nameFinding? (record : CaseRecord α) : Option (Finding α) :=
  if rawType = stringTypeName then
    let name := record.variant.name
    (firstUse? rawType (Literal.string name.text name.tag).text earlier).map
      (repetition (.identifier name))
  else some ⟨.missingRawValue, .variant record.variant, []⟩

def CaseRecord.findings (record : CaseRecord α) : List (Finding α) :=
  match record.role, record.rawAttribute with
  | .catchAll, _ => record.markFindings rawType earlier
  | .explicit, some first =>
    record.extraFindings first ++ (first.givenFinding? rawType earlier).toList
  | _, _ => (record.nameFinding? rawType earlier).toList

end

def Declaration.findings (declaration : Declaration α) (rawType : String) : List (Finding α) :=
  declaration.records.zipIdx.flatMap fun (record, place) =>
    record.findings rawType (declaration.records.take place)

/-! ### Uses of a value -/

theorem CaseRecord.uses?_eq_some_iff {record : CaseRecord α} {rawType text : String} {node : Node α} :
    record.uses? rawType text = some node ↔ record.Uses rawType text node := by
  simp only [uses?, Uses, Option.bind_eq_some_iff, Prod.exists]
  grind

theorem CaseRecord.uses?_of_resolve? {record : CaseRecord α} {rawType : String} {literal : Literal α}
    {node : Node α} (resolved : record.resolve? rawType = some (literal, node))
    (fits : literal.fitsType rawType = true) (text : String) :
    record.uses? rawType text = if literal.text = text then some node else none := by
  simp [uses?, resolved, fits]

/-- The node is where the first of the cases that use the text writes it. -/
def FirstUse (rawType text : String) (records : List (CaseRecord α)) (node : Node α) : Prop :=
  ∃ front first back, records = front ++ first :: back ∧ first.Uses rawType text node ∧
    ∀ record ∈ front, ∀ other, ¬ record.Uses rawType text other

theorem CaseRecord.uses?_eq_none_iff {record : CaseRecord α} {rawType text : String} :
    record.uses? rawType text = none ↔ ∀ node, ¬ record.Uses rawType text node := by
  simp only [← uses?_eq_some_iff, Option.eq_none_iff_forall_ne_some, ne_eq]

theorem firstUse?_eq_some_iff {rawType text : String} {records : List (CaseRecord α)} {node : Node α} :
    firstUse? rawType text records = some node ↔ FirstUse rawType text records node := by
  simp only [firstUse?, List.findSome?_eq_some_iff, CaseRecord.uses?_eq_some_iff,
    CaseRecord.uses?_eq_none_iff, FirstUse]

theorem firstUse?_isSome_iff {rawType text : String} {records : List (CaseRecord α)} :
    (firstUse? rawType text records).isSome = true ↔
      ∃ record ∈ records, ∃ node, record.Uses rawType text node := by
  simp only [firstUse?, List.isSome_findSome?, List.any_eq_true, Option.isSome_iff_exists,
    CaseRecord.uses?_eq_some_iff]

theorem firstUse?_append_singleton (rawType text : String) (records : List (CaseRecord α))
    (record : CaseRecord α) :
    firstUse? rawType text (records ++ [record]) =
      (firstUse? rawType text records).or (record.uses? rawType text) := by
  simp [firstUse?, List.findSome?_append]

/-- A case that uses a text is told where that was used first, if it was, behind what is found about
further attributes. -/
theorem CaseRecord.findings_of_uses {record : CaseRecord α} {rawType text : String} {node : Node α}
    (uses : record.Uses rawType text node) (earlier : List (CaseRecord α)) :
    ∃ extras : List (Finding α), (∀ extra ∈ extras, extra.kind = .extraRawValue) ∧
      record.findings rawType earlier =
        extras ++ ((firstUse? rawType text earlier).map (repetition node)).toList := by
  obtain ⟨literal, resolved, fits, rfl⟩ := uses
  unfold resolve? at resolved
  -- a text is used by one argument of an attribute, or by a name, which no attribute stands beside
  cases role : record.role with
  | catchAll => simp [role] at resolved
  | explicit =>
    simp only [role, Option.map_eq_some_iff] at resolved
    obtain ⟨_, value, same⟩ := resolved
    cases same
    unfold value? at value
    split at value
    · next attr given =>
      split at value
      · next argument arguments =>
        cases value
        refine ⟨record.extraFindings attr, ?_, ?_⟩
        · rw [extraFindings, List.forall_mem_map]
          exact fun _ _ => rfl
        · simp only [findings, role, given, Attribute.givenFinding?, arguments]
          split
          · next placeholder =>
            rw [placeholder] at fits
            cases fits
          · rw [if_pos fits]
      · cases value
    · cases value
  | implicit =>
    simp only [role] at resolved
    split at resolved
    · next string =>
      cases resolved
      rw [beq_iff_eq] at string
      refine ⟨[], List.forall_mem_nil _, ?_⟩
      simp only [findings, role, nameFinding?, if_pos string]
      rfl
    · cases resolved

theorem CaseRecord.repeats_iff {record : CaseRecord α} {rawType text : String} {node : Node α}
    (uses : record.Uses rawType text node) (earlier : List (CaseRecord α)) :
    (∃ finding ∈ record.findings rawType earlier, finding.kind = .duplicateRawValue) ↔
      ∃ other ∈ earlier, ∃ place, other.Uses rawType text place := by
  obtain ⟨extras, kinds, found⟩ := CaseRecord.findings_of_uses uses earlier
  rw [found, ← firstUse?_isSome_iff]
  constructor
  · rintro ⟨finding, member, kind⟩
    rcases List.mem_append.mp member with extra | member
    · rw [kinds finding extra] at kind
      cases kind
    · obtain ⟨first, used, -⟩ := Option.map_eq_some_iff.mp (Option.mem_toList.mp member)
      exact Option.isSome_of_eq_some used
  · intro used
    obtain ⟨first, found⟩ := Option.isSome_iff_exists.mp used
    exact ⟨repetition node first, by simp [found], rfl⟩

theorem CaseRecord.repeats_at_iff {record : CaseRecord α} {rawType text : String} {node : Node α}
    (uses : record.Uses rawType text node) (earlier : List (CaseRecord α)) (first : Node α) :
    repetition node first ∈ record.findings rawType earlier ↔ FirstUse rawType text earlier first := by
  obtain ⟨extras, kinds, found⟩ := CaseRecord.findings_of_uses uses earlier
  have other : repetition node first ∉ extras := fun member => by cases kinds _ member
  rw [found, ← firstUse?_eq_some_iff, List.mem_append, or_iff_right other, Option.mem_toList,
    Option.map_eq_some_iff]
  constructor
  · rintro ⟨found, used, same⟩
    have notes := congrArg Finding.notes same
    simp only [repetition, List.cons.injEq, Note.mk.injEq] at notes
    rw [used, notes.1.2]
  · exact fun used => ⟨first, used, rfl⟩

/-! ### The cases of a declaration -/

theorem CaseLine.lineIndex_of_mem {line : CaseLine α} {lineIndex : Nat} {record : CaseRecord α}
    (member : record ∈ line.records lineIndex) : record.lineIndex = lineIndex := by
  rcases CaseLine.mem_records_cases member with ⟨first, others, -, rfl⟩ | ⟨front, variant, back, -, -, rfl⟩
  · rfl
  · rfl

/-- Cases stand in the order of their lines, and only the first of a line has attributes. -/
theorem Declaration.records_ordered (declaration : Declaration α) :
    declaration.records.Pairwise fun first second =>
      first.lineIndex < second.lineIndex ∨ second.role = .implicit := by
  rw [records, List.pairwise_flatMap]
  constructor
  · rintro ⟨line, lineIndex⟩ -
    dsimp only
    cases variants : line.variants with
    | nil => simp [CaseLine.records, variants]
    | cons first others =>
      have plain : ∀ record ∈ (others.zipIdx 1).map fun placed =>
          line.plainRecord lineIndex placed.2 placed.1, record.role = .implicit := by
        rw [List.forall_mem_map]
        exact fun _ _ => rfl
      rw [CaseLine.records_of_cons variants, List.pairwise_cons]
      exact ⟨fun record member => .inr (plain record member),
        List.pairwise_of_forall_mem_list fun _ _ record member => .inr (plain record member)⟩
  · have places : declaration.body.lines.zipIdx.Pairwise fun first second => first.2 < second.2 := by
      rw [← List.pairwise_map (f := Prod.snd) (R := (· < ·)), List.zipIdx_map_snd]
      exact List.pairwise_lt_range'
    refine places.imp fun {first second} before one member other also => .inl ?_
    rw [CaseLine.lineIndex_of_mem member, CaseLine.lineIndex_of_mem also]
    exact before

theorem Declaration.exists_rawAttribute {declaration : Declaration α} {record : CaseRecord α}
    (member : record ∈ declaration.records) (given : record.role = .explicit) :
    ∃ attr, record.rawAttribute = some attr := by
  obtain ⟨line, lineIndex, -, inside⟩ := Declaration.mem_records.mp member
  rcases CaseLine.mem_records_cases inside with ⟨first, others, -, rfl⟩ | ⟨front, variant, back, -, -, rfl⟩
  · rw [← Option.isSome_iff_exists, line.leadRecord_rawAttribute_isSome_iff]
    by_cases carries : line.Carries defaultCaseName
    · rw [line.leadRecord_role_of_marked lineIndex first carries] at given
      cases given
    · rw [line.leadRecord_role_of_unmarked lineIndex first carries] at given
      split at given
      · assumption
      · cases given
  · cases given

theorem Declaration.map_finding_deserved {declaration : Declaration α} {record : CaseRecord α}
    (member : record ∈ declaration.records) (rawType label : String) (earlier : List (CaseRecord α)) :
    (record.deserved declaration rawType label earlier).map Diagnostic.finding =
      record.findings rawType earlier := by
  unfold CaseRecord.deserved CaseRecord.findings
  cases role : record.role with
  | catchAll =>
    simp only [CaseRecord.markProblems, CaseRecord.markFindings, List.map_append]
    congr 1
    · split
      · rfl
      · split <;> rfl
    · split <;> rfl
  | explicit =>
    obtain ⟨attr, given⟩ := Declaration.exists_rawAttribute member role
    simp only [given, Option.bind_some, List.map_append, List.map_map, CaseRecord.extraFindings]
    congr 1
    · refine List.map_congr_left fun placed _ => ?_
      simp only [Function.comp_apply, extraRawValue, Diagnostic.finding, given, Option.getD_some]
    · unfold CaseRecord.givenProblem? Attribute.givenFinding?
      split
      · split
        · rfl
        · split
          · cases firstUse? rawType _ earlier <;> rfl
          · rfl
      · rfl
  | implicit =>
    simp only [CaseRecord.nameProblem?, CaseRecord.nameFinding?]
    split
    · cases firstUse? rawType _ earlier <;> rfl
    · rfl

/-! ### One case of an inspection -/

/-- The table of what was seen answers as a search through the cases does. -/
def Seen.Answers (seen : Seen α) (rawType : String) (records : List (CaseRecord α)) : Prop :=
  ∀ text, seen.lookup text = firstUse? rawType text records

section

variable {inspection : Inspection α} {before after : List (CaseRecord α)} {record : CaseRecord α}

theorem Inspection.catchAllProblems_eq
    (found : inspection.declaration.records.find? (·.role == .catchAll) = some inspection.catchAll)
    (split : inspection.declaration.records = before ++ record :: after)
    (marked : record.role = .catchAll) :
    inspection.catchAllProblems record = record.markProblems inspection.rawType before := by
  unfold catchAllProblems CaseRecord.markProblems
  rw [split, List.find?_append] at found
  cases earlier : before.find? (·.role == .catchAll) with
  | none =>
    have same : record = inspection.catchAll := by simpa [earlier, marked] using found
    simp [← same]
  | some first =>
    obtain rfl : first = inspection.catchAll := by simpa [earlier] using found
    have ordered := inspection.declaration.records_ordered
    rw [split, List.pairwise_append] at ordered
    have apart := ordered.2.2 _ (List.mem_of_find?_eq_some earlier) record List.mem_cons_self
    have place : record.lineIndex ≠ inspection.catchAll.lineIndex := by
      rw [marked] at apart
      simp only [reduceCtorEq, or_false] at apart
      omega
    simp [place]

variable {seen : Seen α}

theorem Inspection.value_deserved (member : record ∈ inspection.declaration.records)
    (plain : record.role ≠ .catchAll)
    (answers : seen.Answers inspection.rawType before) :
    record.deserved inspection.declaration inspection.rawType inspection.settings.placeholderLabel before =
      record.extraProblems ++
        match inspection.value seen record with
        | .error problem => [problem]
        | .ok _ => [] := by
  unfold CaseRecord.deserved CaseRecord.extraProblems Inspection.value
  cases role : record.role with
  | catchAll => exact absurd role plain
  | explicit =>
    obtain ⟨attr, given⟩ := Declaration.exists_rawAttribute member role
    refine congrArg (_ ++ ·) ?_
    obtain ⟨name, types, arguments, tag⟩ := attr
    simp only [given, Option.bind_some, CaseRecord.givenProblem?, CaseRecord.resolve?, role,
      CaseRecord.value?, answers _]
    -- exactly one argument is a value; none and several are refused alike
    rcases arguments with _ | ⟨⟨_, literal, _⟩, _ | ⟨_, _⟩⟩
    · rfl
    · cases literal with
      | placeholder label tag => rfl
      | string text tag | integer text tag =>
        dsimp only [Option.map_some]
        cases Literal.fitsType _ inspection.rawType with
        | false => rfl
        | true => cases firstUse? inspection.rawType _ before <;> rfl
    · rfl
  | implicit =>
    by_cases string : inspection.rawType = stringTypeName
    · simp only [CaseRecord.nameProblem?, CaseRecord.resolve?, role, string, answers _, beq_self_eq_true,
        if_true, Literal.fitsType, List.nil_append]
      cases firstUse? stringTypeName _ before <;> rfl
    · simp [CaseRecord.nameProblem?, CaseRecord.resolve?, role, string]

/-- With the value of a case, the table answers for the case too. -/
theorem Seen.Answers.of_ok (answers : seen.Answers inspection.rawType before) {literal : Literal α}
    {node : Node α} (found : inspection.value seen record = .ok (literal, node)) :
    Seen.Answers ((literal.text, node) :: seen) inspection.rawType (before ++ [record]) := by
  intro text
  obtain ⟨resolved, fits, unseen⟩ := (inspection.value_eq_ok_iff seen record literal node).mp found
  rw [firstUse?_append_singleton, ← answers, CaseRecord.uses?_of_resolve? resolved fits, List.lookup_cons]
  by_cases same : literal.text = text
  · subst same
    simp [unseen]
  · have differ : (text == literal.text) = false := by simpa using Ne.symm same
    simp [same, differ]

theorem Seen.Answers.of_error (answers : seen.Answers inspection.rawType before) {problem : Diagnostic α}
    (failed : inspection.value seen record = .error problem) :
    seen.Answers inspection.rawType (before ++ [record]) := by
  intro text
  rw [firstUse?_append_singleton, ← answers]
  cases uses : record.uses? inspection.rawType text with
  | none => simp
  | some node =>
    obtain ⟨literal, resolved, fits, rfl⟩ := CaseRecord.uses?_eq_some_iff.mp uses
    cases earlier : seen.lookup literal.text with
    | some first => rfl
    | none =>
      have found := (inspection.value_eq_ok_iff seen record literal node).mpr ⟨resolved, fits, earlier⟩
      rw [failed] at found
      cases found

theorem Seen.Answers.of_catchAll (answers : seen.Answers inspection.rawType before)
    (marked : record.role = .catchAll) : seen.Answers inspection.rawType (before ++ [record]) := by
  intro text
  rw [firstUse?_append_singleton, ← answers, CaseRecord.uses?,
    CaseRecord.resolve?_of_catchAll marked inspection.rawType, Option.bind_none, Option.or_none]

end

/-! ### All cases of an inspection -/

theorem Inspection.cases_deserved (inspection : Inspection α)
    (found : inspection.declaration.records.find? (·.role == .catchAll) = some inspection.catchAll)
    {before after : List (CaseRecord α)} (split : inspection.declaration.records = before ++ after)
    {seen : Seen α} (answers : seen.Answers inspection.rawType before) :
    (inspection.cases seen after).1 =
      (after.zipIdx before.length).flatMap fun (record, place) =>
        record.deserved inspection.declaration inspection.rawType inspection.settings.placeholderLabel
          (inspection.declaration.records.take place) := by
  -- the table grows with the cases that are passed
  induction after generalizing before seen with
  | nil => rfl
  | cons record after ih =>
    have here : inspection.declaration.records.take before.length = before := by simp [split]
    have next : inspection.declaration.records = (before ++ [record]) ++ after := by simp [split]
    have count : before.length + 1 = (before ++ [record]).length := by simp
    rw [List.zipIdx_cons, List.flatMap_cons, count]
    dsimp only
    rw [here]
    by_cases marked : record.role = .catchAll
    · rw [inspection.cases_of_catchAll seen after marked, Inspection.catchAllProblems_eq found split marked,
        ih next (answers.of_catchAll marked)]
      simp only [CaseRecord.deserved, marked]
    · have member : record ∈ inspection.declaration.records := by simp [split]
      rw [Inspection.value_deserved member marked answers]
      cases value : inspection.value seen record with
      | error problem =>
        rw [inspection.cases_of_error seen after marked value, ih next (answers.of_error value),
          List.append_assoc]
        rfl
      | ok pair =>
        obtain ⟨literal, node⟩ := pair
        rw [inspection.cases_of_ok seen after marked value, ih next (answers.of_ok value),
          List.append_nil]

theorem Inspection.problems_eq (inspection : Inspection α)
    (found : inspection.declaration.records.find? (·.role == .catchAll) = some inspection.catchAll) :
    (inspection.cases [] inspection.declaration.records).1 =
      inspection.declaration.deserved inspection.rawType inspection.settings.placeholderLabel :=
  inspection.cases_deserved found (List.nil_append _).symm fun _ => rfl

/-- With a case that is marked as the catch-all, the report is what the cases deserve, and there is a
mapping exactly if they deserve nothing. What they deserve says what is found wrong with them, by kind, by
node and by notes. A case whose value fits is found to repeat it exactly if a case before it has a fitting
value of the same text, and the note is at the first of these. -/
theorem Declaration.reports_case_by_case {declaration : Declaration α}
    (marked : ∃ record ∈ declaration.records, record.role = .catchAll) (rawType : NamedType α)
    (settings : Settings) :
    (∃ catchAll, declaration.records.find? (·.role == .catchAll) = some catchAll ∧
      declaration.mapping rawType settings =
        match declaration.deserved rawType.name settings.placeholderLabel with
        | [] => .ok ⟨declaration.name.text, rawType, catchAll,
            resolvedCases rawType.name declaration.records⟩
        | problems => .error problems) ∧
    (declaration.deserved rawType.name settings.placeholderLabel).map Diagnostic.finding =
      declaration.findings rawType.name ∧
    ∀ before record after, declaration.records = before ++ record :: after →
      (record.deserved declaration rawType.name settings.placeholderLabel before).map
          Diagnostic.finding = record.findings rawType.name before ∧
      ∀ text node, record.Uses rawType.name text node →
        ((∃ finding ∈ record.findings rawType.name before, finding.kind = .duplicateRawValue) ↔
          ∃ earlier ∈ before, ∃ place, earlier.Uses rawType.name text place) ∧
        ∀ first, repetition node first ∈ record.findings rawType.name before ↔
          FirstUse rawType.name text before first := by
  refine ⟨?_, ?_, ?_⟩
  · obtain ⟨record, member, role⟩ := marked
    have searched : (declaration.records.find? (·.role == .catchAll)).isSome = true :=
      List.find?_isSome.mpr ⟨record, member, by simp [role]⟩
    obtain ⟨catchAll, found⟩ := Option.isSome_iff_exists.mp searched
    have problems := (Inspection.mk declaration rawType.name settings catchAll).problems_eq found
    refine ⟨catchAll, found, ?_⟩
    rw [Declaration.mapping_eq_of_catchAll found]
    dsimp only at problems ⊢
    rw [← problems]
    -- an inspection without problems has collected the values of all cases
    cases cases : (Inspection.mk declaration rawType.name settings catchAll).cases []
        declaration.records with
    | mk problems values =>
      cases problems with
      | cons problem problems => rfl
      | nil =>
        obtain ⟨-, -, -, rfl⟩ := (Inspection.cases_eq_nil_iff _ [] _ values).mp cases
        rfl
  · rw [deserved, findings, List.map_flatMap]
    refine List.flatMap_congr fun placed listed => ?_
    exact Declaration.map_finding_deserved
      (List.mem_of_getElem? (List.mk_mem_zipIdx_iff_getElem?.mp listed)) _ _ _
  · intro before record after split
    have member : record ∈ declaration.records := by simp [split]
    exact ⟨Declaration.map_finding_deserved member _ _ before,
      fun text node uses => ⟨CaseRecord.repeats_iff uses before, CaseRecord.repeats_at_iff uses before⟩⟩

/-- All that can be wrong with a case. The values `7` are given three times, the second time with a further
one; one value is open, one a string and one no value at all; a case has none; and of two catch-alls the
second has a value too. Attributes and variants are tagged with the places of their lines. -/
def bells : Declaration Nat :=
  ⟨.enumKind, ⟨"Bell", 0⟩, [⟨⟨annotationName, 0⟩, [⟨"Int", 0⟩], [], 0⟩],
    ⟨[line 0 [value 0 [.integer "7" 0]] "low", line 1 [value 1 [.integer "7" 1], value 2 []] "mid",
      line 3 [mark 3] "rest", line 4 [value 4 [.integer "7" 4]] "high",
      line 5 [value 5 [.placeholder "bell" 5]] "open", line 6 [value 6 [.string "7" 6]] "word",
      line 7 [value 7 []] "none", line 8 [] "bare",
      line 9 [mark 9, value 9 [.integer "9" 9]] "other"], 0⟩, 0⟩
where
  value (place : Nat) (literals : List (Literal Nat)) : Attribute Nat :=
    ⟨⟨rawValueName, place⟩, [], literals.map (⟨none, ·, place⟩), place⟩
  mark (place : Nat) : Attribute Nat := ⟨⟨defaultCaseName, place⟩, [], [], place⟩
  line (place : Nat) (attributes : List (Attribute Nat)) (name : String) : CaseLine Nat :=
    ⟨attributes, [⟨⟨name, place⟩, none, place⟩], place⟩

/-- The notes go to the first value, the first attribute and the first catch-all. -/
theorem bells_report :
    (∃ problems, bells.mapping ⟨"Int", 0⟩ {} = .error problems ∧
      problems.map Diagnostic.finding =
        [⟨.extraRawValue, .attr (bells.value 2 []),
            [⟨.multipleRawValue, .attr (bells.value 1 [.integer "7" 1])⟩]⟩,
          ⟨.duplicateRawValue, .literal (.integer "7" 1), [⟨.duplicateRawValue, .literal (.integer "7" 0)⟩]⟩,
          ⟨.wrongAssociatedValue, .variant ⟨⟨"rest", 3⟩, none, 3⟩, []⟩,
          ⟨.duplicateRawValue, .literal (.integer "7" 4), [⟨.duplicateRawValue, .literal (.integer "7" 0)⟩]⟩,
          ⟨.unfilledRawValue, .literal (.placeholder "bell" 5), []⟩,
          ⟨.rawValueType, .literal (.string "7" 6), []⟩,
          ⟨.malformedRawValue, .attr (bells.value 7 []), []⟩,
          ⟨.missingRawValue, .variant ⟨⟨"bare", 8⟩, none, 8⟩, []⟩,
          ⟨.extraDefault, .identifier ⟨"other", 9⟩,
            [⟨.multipleDefault, .variant ⟨⟨"rest", 3⟩, none, 3⟩⟩]⟩,
          ⟨.defaultAndRaw, .variant ⟨⟨"other", 9⟩, none, 9⟩, []⟩]) ∧
      repetition (.literal (.integer "7" 4)) (.literal (.integer "7" 0)) ∈
        bells.records[3].findings "Int" (bells.records.take 3) := by
  have marked : ∃ record ∈ bells.records, record.role = .catchAll := by decide
  obtain ⟨⟨catchAll, -, maps⟩, finds, each⟩ := Declaration.reports_case_by_case marked ⟨"Int", 0⟩ {}
  refine ⟨⟨_, maps, finds.trans (by decide)⟩, ?_⟩
  have low : bells.records[0].Uses "Int" "7" (.literal (.integer "7" 0)) := ⟨_, rfl, rfl, rfl⟩
  have high : bells.records[3].Uses "Int" "7" (.literal (.integer "7" 4)) := ⟨_, rfl, rfl, rfl⟩
  have last := (each (bells.records.take 3) bells.records[3] (bells.records.drop 4) rfl).2 "7" _ high
  exact (last.2 _).mpr ⟨[], bells.records[0], _, rfl, low, List.forall_mem_nil _⟩

end RawMapping
