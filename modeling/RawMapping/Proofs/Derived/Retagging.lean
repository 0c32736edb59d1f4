import RawMapping.Proofs.Report.Faults

/-! Expansion does not look at tags. With other tags on its nodes a declaration has the same cases, is
refused for the same reasons with the same fixes, each with the other tags, and expands to the same
declarations. -/

set_option autoImplicit false

namespace RawMapping

variable {α β : Type}

/-! ### Cases -/

def CaseRecord.map (f : α → β) (record : CaseRecord α) : CaseRecord β where
  variant := record.variant.map f
  line := record.line.map f
  lineIndex := record.lineIndex
  index := record.index
  role := record.role
  rawAttribute := record.rawAttribute.map (Attribute.map f)
  extraRawAttributes := record.extraRawAttributes.map (Prod.map (Attribute.map f) id)

def ValueCase.map (f : α → β) (valueCase : ValueCase α) : ValueCase β :=
  ⟨valueCase.record.map f, valueCase.literal.map f⟩

def Mapping.map (f : α → β) (mapping : Mapping α) : Mapping β :=
  ⟨mapping.typeName, mapping.rawType.map f, mapping.catchAll.map f,
    mapping.valueCases.map (ValueCase.map f)⟩

@[simp] theorem CaseRecord.name_map (f : α → β) (record : CaseRecord α) :
    (record.map f).name = record.name := rfl

@[simp] theorem Literal.text_map (f : α → β) (literal : Literal α) :
    (literal.map f).text = literal.text := by
  cases literal <;> rfl

@[simp] theorem Literal.fitsType_map (f : α → β) (literal : Literal α) (rawType : String) :
    (literal.map f).fitsType rawType = literal.fitsType rawType := by
  cases literal <;> rfl

theorem CaseLine.rawAttributes_map (f : α → β) (line : CaseLine α) :
    (line.map f).rawAttributes = line.rawAttributes.map (Prod.map (Attribute.map f) id) := by
  rw [rawAttributes, map, List.zipIdx_map, List.filter_map]
  rfl

theorem CaseLine.leadRole_map (f : α → β) (line : CaseLine α) :
    (line.map f).leadRole = line.leadRole := by
  simp only [leadRole, map, List.any_map]
  rfl

theorem CaseLine.leadRecord_map (f : α → β) (line : CaseLine α) (lineIndex : Nat) (variant : Variant α) :
    (line.map f).leadRecord lineIndex (variant.map f) = (line.leadRecord lineIndex variant).map f := by
  simp only [leadRecord, CaseRecord.map, rawAttributes_map, leadRole_map, List.head?_map, List.map_tail,
    Option.map_map]
  rfl

theorem CaseLine.records_map (f : α → β) (line : CaseLine α) (lineIndex : Nat) :
    (line.map f).records lineIndex = (line.records lineIndex).map (CaseRecord.map f) := by
  obtain ⟨attributes, variants, tag⟩ := line
  cases variants with
  | nil => rfl
  | cons first others =>
    simp only [records, map, List.map_cons, List.zipIdx_map, List.map_map]
    exact congrArg₂ List.cons (leadRecord_map f ⟨attributes, first :: others, tag⟩ lineIndex first) rfl

theorem Declaration.records_map (f : α → β) (declaration : Declaration α) :
    (declaration.map f).records = declaration.records.map (CaseRecord.map f) := by
  simp only [records, map, Body.map, List.zipIdx_map, List.flatMap_map, List.map_flatMap,
    Prod.map_fst, Prod.map_snd, id_eq, CaseLine.records_map]

theorem CaseRecord.value?_map (f : α → β) (record : CaseRecord α) :
    (record.map f).value? = record.value?.map (Literal.map f) := by
  obtain ⟨variant, line, lineIndex, index, role, given, extra⟩ := record
  match given with
  | none => rfl
  | some ⟨_, _, [], _⟩ => rfl
  | some ⟨_, _, [_], _⟩ => rfl
  | some ⟨_, _, _ :: _ :: _, _⟩ => rfl

def retagged (f : α → β) (resolved : Literal α × Node α) : Literal β × Node β :=
  resolved.map (Literal.map f) (Node.map f)

theorem CaseRecord.resolve?_map (f : α → β) (record : CaseRecord α) (rawType : String) :
    (record.map f).resolve? rawType = (record.resolve? rawType).map (retagged f) := by
  have same : (record.map f).role = record.role := rfl
  rw [resolve?, resolve?, same]
  cases record.role with
  | catchAll => rfl
  | explicit =>
    rw [value?_map]
    cases record.value? <;> rfl
  | implicit =>
    by_cases string : rawType = stringTypeName
    · simp [string, retagged, CaseRecord.map, Variant.map, Identifier.map, Literal.map, Node.map]
    · simp [string]

theorem defaultCandidate?_map (f : α → β) (records : List (CaseRecord α)) (rawType caseName : String) :
    defaultCandidate? (records.map (CaseRecord.map f)) rawType caseName =
      (defaultCandidate? records rawType caseName).map (CaseRecord.map f) := by
  simp only [defaultCandidate?, List.find?_map, Option.map_or]
  congr 2
  exact congrArg (List.find? · records) (funext fun record => record.variant.hasRawPayload_map f rawType)

/-! ### Fixes -/

theorem Attribute.kept_map (f : α → β) (attr : Attribute α) :
    (attr.map f).map Draft.kept = (attr.map Draft.kept).map (Draft.map f) := by
  rw [map_map, map_map]
  rfl

theorem Variant.kept_map (f : α → β) (variant : Variant α) :
    (variant.map f).map Draft.kept = (variant.map Draft.kept).map (Draft.map f) := by
  rw [map_map, map_map]
  rfl

theorem CaseLine.kept_map (f : α → β) (line : CaseLine α) :
    (line.map f).map Draft.kept = (line.map Draft.kept).map (Draft.map f) := by
  rw [map_map, map_map]
  rfl

theorem map_kept_attributes (f : α → β) (attributes : List (Attribute α)) :
    (attributes.map (Attribute.map f)).map (·.map Draft.kept) =
      (attributes.map (·.map Draft.kept)).map (Attribute.map (Draft.map f)) := by
  simp only [List.map_map, Function.comp_def, Attribute.kept_map]

theorem map_kept_variants (f : α → β) (variants : List (Variant α)) :
    (variants.map (Variant.map f)).map (·.map Draft.kept) =
      (variants.map (·.map Draft.kept)).map (Variant.map (Draft.map f)) := by
  simp only [List.map_map, Function.comp_def, Variant.kept_map]

theorem map_kept_lines (f : α → β) (lines : List (CaseLine α)) :
    (lines.map (CaseLine.map f)).map (·.map Draft.kept) =
      (lines.map (·.map Draft.kept)).map (CaseLine.map (Draft.map f)) := by
  simp only [List.map_map, Function.comp_def, CaseLine.kept_map]

theorem CaseLine.trimmed_map (f : α → β) (line : CaseLine α) (index : Nat) :
    (line.map f).trimmed index = (line.trimmed index).map (Draft.map f) := by
  simp only [trimmed, map, List.eraseIdx_map, map_kept_attributes, map_kept_variants]
  rfl

theorem annotateCase_map (f : α → β) (declaration : Declaration α) (record : CaseRecord α)
    (attr : Attribute (Draft α)) :
    annotateCase (declaration.map f) (record.map f) (attr.map (Draft.map f)) =
      (annotateCase declaration record attr).map f := by
  have place : (record.map f).isFirstOnLine = record.isFirstOnLine := rfl
  unfold annotateCase
  rw [place]
  by_cases first : record.isFirstOnLine = true
  · rw [if_pos first, if_pos first]
    simp only [CaseRecord.map, CaseLine.map, Change.ofLine, Change.map, Node.map, map_kept_attributes,
      map_kept_variants, List.map_append]
    rfl
  · rw [if_neg first, if_neg first]
    simp only [CaseRecord.map, Declaration.map, Body.map, Change.ofBody, Change.map, Node.map,
      List.zipIdx_map, List.flatMap_map, List.map_flatMap, Prod.map_fst, Prod.map_snd, id_eq,
      CaseLine.trimmed_map, CaseLine.kept_map, Variant.kept_map]
    congr 3
    congr 1
    funext pair
    split <;> rfl

theorem addDefaultCaseFix_map (f : α → β) (declaration : Declaration α) (rawType : String)
    (candidate? : Option (CaseRecord α)) (caseName : String) :
    addDefaultCaseFix (declaration.map f) rawType (candidate?.map (CaseRecord.map f)) caseName =
      (addDefaultCaseFix declaration rawType candidate? caseName).map f := by
  cases candidate? with
  | none =>
    simp only [addDefaultCaseFix, Option.map_none, Fix.map, List.map_singleton, Change.ofBody, Change.map,
      Node.map, Declaration.map, Body.map, map_kept_lines, List.map_append]
    rfl
  | some candidate =>
    exact congrArg (fun change => Fix.mk .addDefaultCase [change])
      (annotateCase_map f declaration candidate (addedAttribute defaultCaseName []))

theorem addRawValueFix_map (f : α → β) (declaration : Declaration α) (record : CaseRecord α)
    (label : String) :
    addRawValueFix (declaration.map f) (record.map f) label =
      (addRawValueFix declaration record label).map f :=
  congrArg (fun change => Fix.mk .addRawValue [change]) (annotateCase_map f declaration record
    (addedAttribute rawValueName [⟨none, .placeholder label .added, .added⟩]))

theorem removeRawValueFix_map (f : α → β) (record : CaseRecord α) :
    removeRawValueFix (record.map f) = (removeRawValueFix record).map f := by
  simp only [removeRawValueFix, CaseRecord.map, CaseLine.map, Fix.map, List.map_singleton, Change.ofLine,
    Change.map, Node.map, List.filter_map, map_kept_attributes, map_kept_variants]
  rfl

theorem removeAttributeFix_map (f : α → β) (record : CaseRecord α) (place : Nat) :
    removeAttributeFix (record.map f) place = (removeAttributeFix record place).map f := by
  simp only [removeAttributeFix, CaseRecord.map, CaseLine.map, Fix.map, List.map_singleton,
    Change.ofLine, Change.map, Node.map, List.eraseIdx_map, map_kept_attributes, map_kept_variants]
  rfl

/-! ### Diagnostics -/

theorem missingDefault_map (f : α → β) (declaration : Declaration α) (rawType : String)
    (candidate? : Option (CaseRecord α)) (caseName : String) :
    missingDefault (declaration.map f) rawType (candidate?.map (CaseRecord.map f)) caseName =
      (missingDefault declaration rawType candidate? caseName).map f := by
  simp only [missingDefault, addDefaultCaseFix_map]
  cases candidate? <;> rfl

def Inspection.map (f : α → β) (inspection : Inspection α) : Inspection β :=
  ⟨inspection.declaration.map f, inspection.rawType, inspection.settings, inspection.catchAll.map f⟩

theorem Inspection.catchAllProblems_map (f : α → β) (inspection : Inspection α) (record : CaseRecord α) :
    (inspection.map f).catchAllProblems (record.map f) =
      (inspection.catchAllProblems record).map (Diagnostic.map f) := by
  have value : (record.map f).rawAttribute.isSome = record.rawAttribute.isSome := by
    simp [CaseRecord.map]
  have payload : (record.map f).variant.hasRawPayload inspection.rawType =
      record.variant.hasRawPayload inspection.rawType := record.variant.hasRawPayload_map f _
  have conflict : defaultAndRaw (record.map f) = (defaultAndRaw record).map f := by
    rw [defaultAndRaw, removeRawValueFix_map]
    rfl
  simp only [catchAllProblems, Inspection.map, value, payload, conflict, List.map_append]
  congr 1
  · change (if record.lineIndex ≠ inspection.catchAll.lineIndex then _ else _) = _
    rw [apply_ite (List.map _), apply_ite (List.map _)]
    rfl
  · rw [apply_ite (List.map _)]
    rfl

theorem CaseRecord.extraProblems_map (f : α → β) (record : CaseRecord α) :
    (record.map f).extraProblems = record.extraProblems.map (Diagnostic.map f) := by
  have same : (record.map f).role = record.role := rfl
  rw [extraProblems, extraProblems, same]
  cases record.role with
  | catchAll => rfl
  | implicit => rfl
  | explicit =>
    simp only [CaseRecord.map, List.map_map]
    apply List.map_congr_left
    rintro ⟨attr, place⟩ -
    -- the note points at the first attribute, and falls back on the extra one itself
    have first : (record.rawAttribute.map (Attribute.map f)).getD (attr.map f) =
        (record.rawAttribute.getD attr).map f := by
      cases record.rawAttribute <;> rfl
    have fix := removeAttributeFix_map f record place
    simp only [CaseRecord.map] at fix
    simp [extraRawValue, Diagnostic.map, Note.map, Node.map, first, fix]

theorem rawValueType_map (f : α → β) (record : CaseRecord α) (literal : Literal α) (rawType : String) :
    rawValueType (record.map f) (literal.map f) rawType = (rawValueType record literal rawType).map f := by
  cases literal with
  | string value tag => rfl
  | placeholder label tag => rfl
  | integer text tag =>
    simp only [rawValueType, rawValueTypeFixes, Diagnostic.map, Literal.map]
    by_cases string : rawType = stringTypeName
    · simp [string, quoteRawValueFix, Fix.map, Change.map, Node.map, Literal.map, Draft.map]
      rfl
    · simp [string]
      exact ⟨rfl, rfl⟩

def Seen.map (f : α → β) (seen : Seen α) : Seen β :=
  List.map (Prod.map id (Node.map f)) seen

theorem Seen.lookup_map (f : α → β) (seen : Seen α) (text : String) :
    (Seen.map f seen).lookup text = (seen.lookup text).map (Node.map f) := by
  induction seen with
  | nil => rfl
  | cons head seen ih =>
    obtain ⟨key, node⟩ := head
    change List.lookup text ((key, node.map f) :: Seen.map f seen) = _
    rw [List.lookup_cons, List.lookup_cons, ih]
    cases text == key <;> rfl

theorem missingRawValue_map (f : α → β) (declaration : Declaration α) (record : CaseRecord α)
    (label : String) :
    missingRawValue (declaration.map f) (record.map f) label =
      (missingRawValue declaration record label).map f := by
  rw [missingRawValue, addRawValueFix_map]
  rfl

theorem Inspection.value_map_of_some (f : α → β) (inspection : Inspection α) (seen : Seen α)
    {record : CaseRecord α} {literal : Literal α} {node : Node α}
    (resolved : record.resolve? inspection.rawType = some (literal, node)) :
    (inspection.map f).value (Seen.map f seen) (record.map f) =
      ((inspection.value seen record).mapError (Diagnostic.map f)).map (retagged f) := by
  have retaggedResolved : (record.map f).resolve? (inspection.map f).rawType =
      some (literal.map f, node.map f) := by
    change (record.map f).resolve? inspection.rawType = _
    rw [CaseRecord.resolve?_map, resolved]
    rfl
  have fits : (literal.map f).fitsType (inspection.map f).rawType =
      literal.fitsType inspection.rawType := literal.fitsType_map f _
  have lookup : (Seen.map f seen).lookup (literal.map f).text =
      (seen.lookup literal.text).map (Node.map f) := by
    rw [Literal.text_map, Seen.lookup_map]
  have problem := rawValueType_map f record literal inspection.rawType
  unfold value
  rw [resolved, retaggedResolved]
  simp only [fits, lookup]
  -- the checks read the literal and the table only, and both are retagged
  cases literal with
  | placeholder label tag => rfl
  | string value tag =>
    cases Literal.fitsType _ inspection.rawType with
    | false => exact congrArg Except.error problem
    | true => cases List.lookup _ seen <;> rfl
  | integer text tag =>
    cases Literal.fitsType _ inspection.rawType with
    | false => exact congrArg Except.error problem
    | true => cases List.lookup _ seen <;> rfl

theorem Inspection.value_map (f : α → β) (inspection : Inspection α) (seen : Seen α)
    (record : CaseRecord α) :
    (inspection.map f).value (Seen.map f seen) (record.map f) =
      ((inspection.value seen record).mapError (Diagnostic.map f)).map (retagged f) := by
  cases resolved : record.resolve? inspection.rawType with
  | some pair => exact inspection.value_map_of_some f seen resolved
  | none =>
    have retaggedResolved : (record.map f).resolve? (inspection.map f).rawType = none := by
      change (record.map f).resolve? inspection.rawType = _
      rw [CaseRecord.resolve?_map, resolved]
      rfl
    have missing := missingRawValue_map f inspection.declaration record inspection.settings.placeholderLabel
    unfold value
    rw [resolved, retaggedResolved]
    obtain ⟨variant, line, lineIndex, index, role, given, extra⟩ := record
    cases role with
    | catchAll => exact congrArg Except.error missing
    | implicit => exact congrArg Except.error missing
    | explicit =>
      cases given with
      | none => exact congrArg Except.error missing
      | some attr => rfl

theorem Inspection.cases_map (f : α → β) (inspection : Inspection α) (seen : Seen α)
    (records : List (CaseRecord α)) :
    (inspection.map f).cases (Seen.map f seen) (records.map (CaseRecord.map f)) =
      ((inspection.cases seen records).1.map (Diagnostic.map f),
        (inspection.cases seen records).2.map (ValueCase.map f)) := by
  induction records generalizing seen with
  | nil => rfl
  | cons record records ih =>
    rw [List.map_cons]
    have same : (record.map f).role = record.role := rfl
    by_cases marked : record.role = .catchAll
    · rw [cases_of_catchAll _ _ _ (same.trans marked), cases_of_catchAll _ _ _ marked, ih,
        catchAllProblems_map, List.map_append]
    · have value := inspection.value_map f seen record
      cases found : inspection.value seen record with
      | error problem =>
        rw [found] at value
        rw [cases_of_error _ _ _ (same.trans_ne marked) value, cases_of_error _ _ _ marked found, ih,
          CaseRecord.extraProblems_map, List.map_append, List.map_cons]
      | ok resolved =>
        obtain ⟨literal, node⟩ := resolved
        rw [found] at value
        rw [cases_of_ok _ _ _ (same.trans_ne marked) value, cases_of_ok _ _ _ marked found,
          CaseRecord.extraProblems_map, Literal.text_map]
        -- the rest is inspected with this value seen, so the induction is over any list of seen ones
        have rest := ih ((literal.text, node) :: seen)
        change (inspection.map f).cases ((literal.text, node.map f) :: Seen.map f seen) _ = _ at rest
        rw [rest, List.map_append, List.map_cons]
        rfl

theorem Declaration.mapping_map (f : α → β) (declaration : Declaration α) (rawType : NamedType α)
    (settings : Settings) :
    (declaration.map f).mapping (rawType.map f) settings =
      ((declaration.mapping rawType settings).mapError (List.map (Diagnostic.map f))).map
        (Mapping.map f) := by
  have found : (declaration.map f).records.find? (·.role == .catchAll) =
      (declaration.records.find? (·.role == .catchAll)).map (CaseRecord.map f) := by
    rw [records_map, List.find?_map]
    rfl
  simp only [mapping, found]
  cases declaration.records.find? (·.role == .catchAll) with
  | none =>
    simp only [Option.map_none, records_map, NamedType.map, defaultCandidate?_map, missingDefault_map]
    rfl
  | some catchAll =>
    have cases : (Inspection.mk (declaration.map f) rawType.name settings (catchAll.map f)).cases []
        (declaration.records.map (CaseRecord.map f)) = _ :=
      (Inspection.mk declaration rawType.name settings catchAll).cases_map f [] declaration.records
    simp only [Option.map_some, records_map, NamedType.map]
    rw [cases]
    obtain ⟨problems, values⟩ :=
      (Inspection.mk declaration rawType.name settings catchAll).cases [] declaration.records
    cases problems <;> rfl

/-! ### Derived declarations -/

def NameRef.map (f : α → β) (ref : NameRef α) : NameRef β :=
  ⟨ref.name, f ref.tag⟩

def Pattern.map (f : α → β) : Pattern α → Pattern β
  | .literal constant tag => .literal (constant.map f) (f tag)
  | .caseNamed name binding tag => .caseNamed name binding (f tag)
  | .wildcard tag => .wildcard (f tag)

def Outcome.map (f : α → β) : Outcome α → Outcome β
  | .construct caseName argument tag => .construct caseName (argument.map (NameRef.map f)) (f tag)
  | .name ref => .name (ref.map f)
  | .literal constant => .literal (constant.map f)

def MatchArm.map (f : α → β) (arm : MatchArm α) : MatchArm β :=
  ⟨arm.pattern.map f, arm.outcome.map f, f arm.tag⟩

def Branch.map (f : α → β) (branch : Branch α) : Branch β :=
  ⟨branch.subject.map f, branch.arms.map (MatchArm.map f), f branch.tag⟩

def Member.map (f : α → β) : Member α → Member β
  | .initializer member => .initializer ⟨member.typeName, member.parameter, member.rawType.map f,
      member.body.map f, f member.tag⟩
  | .accessor member => .accessor ⟨member.name, member.rawType.map f, member.body.map f, f member.tag⟩

def Conformance.map (f : α → β) (conformance : Conformance α) : Conformance β :=
  ⟨conformance.typeName, conformance.protocol, f conformance.tag⟩

def Expansion.map (f : α → β) (expansion : Expansion α) : Expansion β :=
  ⟨expansion.typeName, expansion.members.map (Member.map f), expansion.extensions.map (Conformance.map f)⟩

theorem map_describedExpansion (f : α → β) (tag : α) (typeName rawType catchAll : String)
    (assignments : List Assignment) :
    (describedExpansion tag typeName rawType catchAll assignments).map f =
      describedExpansion (f tag) typeName rawType catchAll assignments := by
  have literal (assignment : Assignment) :
      (assignment.literal.map fun _ => tag).map f = assignment.literal.map fun _ => f tag := by
    cases assignment.literal <;> rfl
  have decode : MatchArm.map f ∘ Assignment.decodeArm tag = Assignment.decodeArm (f tag) := by
    funext assignment
    exact congrArg (fun found => MatchArm.mk (.literal found _) _ _) (literal assignment)
  have encode : MatchArm.map f ∘ Assignment.encodeArm tag = Assignment.encodeArm (f tag) := by
    funext assignment
    exact congrArg (fun found => MatchArm.mk _ (.literal found) _) (literal assignment)
  simp only [describedExpansion, Expansion.map, List.map_cons, List.map_nil, Member.map, Branch.map,
    List.map_append, List.map_map, decode, encode]
  rfl

theorem Mapping.expansion_map (f : α → β) (mapping : Mapping α) :
    (mapping.map f).expansion = mapping.expansion.map (Option.map f) := by
  have assignment : ValueCase.assignment ∘ ValueCase.map f = ValueCase.assignment := by
    funext valueCase
    obtain ⟨record, literal⟩ := valueCase
    cases literal <;> rfl
  rw [expansion_eq, expansion_eq, map_describedExpansion, map, List.map_map, assignment]
  rfl

theorem Declaration.request_map (f : α → β) (declaration : Declaration α) (attr : Attribute α)
    (settings : Settings) :
    (declaration.map f).request (attr.map f) settings =
      ((declaration.request attr settings).mapError (List.map (Diagnostic.map f))).map
        (Prod.map (NamedType.map f) id) := by
  have kind : (declaration.map f).kind = declaration.kind := rfl
  unfold request shapeProblems
  rw [Attribute.rawType_retagged, Attribute.caseName_retagged, kind]
  cases attr.rawType with
  | error problems => rfl
  | ok rawType =>
    by_cases enumeration : declaration.kind = .enumKind
    · rw [if_pos enumeration, if_pos enumeration]
      cases attr.caseName settings <;> rfl
    · rw [if_neg enumeration, if_neg enumeration]
      rfl

theorem Declaration.expandAs_map (f : α → β) (declaration : Declaration α) (attr : Attribute α)
    (settings : Settings) :
    (declaration.map f).expandAs (attr.map f) settings =
      ((declaration.expandAs attr settings).mapError (List.map (Diagnostic.map f))).map
        (Expansion.map (Option.map f)) := by
  unfold expandAs
  rw [request_map]
  cases declaration.request attr settings with
  | error problems => rfl
  | ok asked =>
    obtain ⟨rawType, changed⟩ := asked
    change (do
      let mapping ← (declaration.map f).mapping (rawType.map f) changed
      return mapping.expansion) = _
    rw [mapping_map]
    cases mapped : declaration.mapping rawType changed with
    | error problems => simp [mapped, Except.mapError, Except.map]
    | ok mapping => simp [mapped, Except.mapError, Except.map, Mapping.expansion_map]

theorem Declaration.report_map (f : α → β) (declaration : Declaration α) (settings : Settings) :
    (declaration.map f).report settings = (declaration.report settings).map (Diagnostic.map f) := by
  unfold report expand
  rw [findAttribute?_map]
  cases declaration.findAttribute? annotationName with
  | none => rfl
  | some attr =>
    simp only [Option.map_some, expandAs_map]
    cases declaration.expandAs attr settings <;> rfl

end RawMapping
