import Mathlib.Algebra.Ring.Nat
import RawMapping.Proofs.Declaration.Identity
import RawMapping.Proofs.Report.Offers

/-! The number of fixes that a declaration needs, read off its lines. It is the number of diagnostics
that offer a fix, and it does not change with the tags. -/

set_option autoImplicit false

namespace RawMapping

variable {α β : Type}

/-! ### The number of fixes, line by line -/

def Attribute.givesInteger (attr : Attribute α) : Bool :=
  match attr.arguments with
  | [⟨_, .integer _ _, _⟩] => true
  | _ => false

/-- How many fixes the first case of a line needs as long as its payload is not looked at: a catch-all has
no raw value, and any other case has one of the right kind. -/
def CaseLine.leadFaults (line : CaseLine α) (rawType : String) : Nat :=
  if line.Carries defaultCaseName then if line.Carries rawValueName then 1 else 0
  else
    match line.attributes.filter (·.isNamed rawValueName) with
    | [] => if rawType = stringTypeName then 0 else 1
    | attr :: others =>
      others.length + if rawType = stringTypeName ∧ attr.givesInteger = true then 1 else 0

def CaseLine.faults (line : CaseLine α) (rawType : String) : Nat :=
  match line.variants with
  | [] => 0
  | _ :: others => line.leadFaults rawType + if rawType = stringTypeName then 0 else others.length

def CaseLine.fitsCatchAll (line : CaseLine α) (rawType : String) : Bool :=
  line.variants.head?.any (·.hasRawPayload rawType)

/-- Whether the payload of the catch-all, which is the first marked case, is right. -/
def catchAllFits? (lines : List (CaseLine α)) (rawType : String) : Option Bool :=
  (lines.find? (·.Marks)).map (·.fitsCatchAll rawType)

def faults (lines : List (CaseLine α)) (rawType : String) : Nat :=
  (if catchAllFits? lines rawType = some false then 1 else 0) + (lines.map (·.faults rawType)).sum

theorem Inspection.length_offered_marked (inspection : Inspection α) (line : CaseLine α)
    (lineIndex : Nat) (variant : Variant α) (marked : line.Carries defaultCaseName) :
    (inspection.offered (line.leadRecord lineIndex variant)).length =
      (if lineIndex = inspection.catchAll.lineIndex ∧
          variant.hasRawPayload inspection.rawType = false then 1 else 0) +
        line.leadFaults inspection.rawType := by
  have role := line.leadRecord_role_of_marked lineIndex variant marked
  rw [Inspection.offered, if_pos role, Inspection.catchAllFixes, List.length_append,
    CaseLine.leadFaults, if_pos marked]
  simp only [line.leadRecord_rawAttribute_isSome_iff, apply_ite List.length, List.length_singleton, List.length_nil]
  rfl

theorem CaseLine.leadRecord_extraRawAttributes_length (line : CaseLine α) (lineIndex : Nat)
    (variant : Variant α) : (line.leadRecord lineIndex variant).extraRawAttributes.length =
      (line.attributes.filter (·.isNamed rawValueName)).tail.length := by
  rw [← map_rawAttributes, List.length_tail, List.length_map, ← List.length_tail]
  rfl

theorem Inspection.length_valueFixes_explicit (inspection : Inspection α) {record : CaseRecord α}
    {attr : Attribute α} (role : record.role = .explicit) (given : record.rawAttribute = some attr) :
    (inspection.valueFixes record).length =
      if inspection.rawType = stringTypeName ∧ attr.givesInteger = true then 1 else 0 := by
  rw [inspection.valueFixes_explicit role given, Attribute.givesInteger]
  match attr.arguments with
  | [] => simp
  | [⟨label, .integer text literalTag, argumentTag⟩] =>
    by_cases string : inspection.rawType = stringTypeName <;> simp [rawValueTypeFixes, string]
  | [⟨label, .string value literalTag, argumentTag⟩] => simp [rawValueTypeFixes]
  | [⟨label, .placeholder name literalTag, argumentTag⟩] => simp [rawValueTypeFixes]
  | _ :: _ :: _ => simp

theorem Inspection.length_valueFixes_implicit (inspection : Inspection α) {record : CaseRecord α}
    (role : record.role = .implicit) :
    (inspection.valueFixes record).length = if inspection.rawType = stringTypeName then 0 else 1 := by
  rw [inspection.valueFixes_implicit role]
  split <;> rfl

theorem Inspection.length_offered_unmarked (inspection : Inspection α) (line : CaseLine α)
    (lineIndex : Nat) (variant : Variant α) (unmarked : ¬ line.Carries defaultCaseName) :
    (inspection.offered (line.leadRecord lineIndex variant)).length =
      line.leadFaults inspection.rawType := by
  have role := line.leadRecord_role_of_unmarked lineIndex variant unmarked
  have extras := line.leadRecord_extraRawAttributes_length lineIndex variant
  simp only [line.carries_rawValue_iff] at role
  have plain : (line.leadRecord lineIndex variant).role ≠ .catchAll := by
    rw [role]
    split <;> simp
  rw [Inspection.offered, if_neg plain, List.length_append, CaseLine.leadFaults, if_neg unmarked]
  cases given : line.attributes.filter (·.isNamed rawValueName) with
  | nil =>
    simp only [given, ne_eq, not_true, if_false] at role
    rw [inspection.length_valueFixes_implicit role, CaseRecord.extraFixes, role, List.length_nil,
      Nat.zero_add]
  | cons attr others =>
    simp only [given, ne_eq, reduceCtorEq, not_false_eq_true, if_true, List.tail_cons] at role extras
    rw [inspection.length_valueFixes_explicit role
      (CaseLine.leadRecord_rawAttribute_of_cons given lineIndex variant), CaseRecord.extraFixes, role,
      List.length_map, extras]

theorem Inspection.length_offered_plain (inspection : Inspection α) (line : CaseLine α)
    (lineIndex index : Nat) (variant : Variant α) :
    (inspection.offered (line.plainRecord lineIndex index variant)).length =
      if inspection.rawType = stringTypeName then 0 else 1 := by
  have role : (line.plainRecord lineIndex index variant).role = .implicit := rfl
  rw [Inspection.offered, if_neg (by simp [role]), List.length_append,
    inspection.length_valueFixes_implicit role, CaseRecord.extraFixes, role, List.length_nil,
    Nat.zero_add]

theorem Inspection.length_offered_line (inspection : Inspection α) (line : CaseLine α)
    (lineIndex : Nat) :
    ((line.records lineIndex).flatMap inspection.offered).length =
      (if lineIndex = inspection.catchAll.lineIndex ∧ line.Marks ∧
          line.fitsCatchAll inspection.rawType = false then 1 else 0) +
        line.faults inspection.rawType := by
  unfold CaseLine.faults
  cases variants : line.variants with
  | nil => simp [CaseLine.records, variants, CaseLine.Marks]
  | cons first others =>
    -- a case behind the first has a value only if names are values
    have plain : (((others.zipIdx 1).map fun placed =>
        line.plainRecord lineIndex placed.2 placed.1).flatMap inspection.offered).length =
          if inspection.rawType = stringTypeName then 0 else others.length := by
      simp only [List.length_flatMap, List.map_map, Function.comp_def, inspection.length_offered_plain]
      split
      · rw [List.map_const', List.sum_replicate_nat, Nat.mul_zero]
      · rw [List.map_const', List.sum_replicate_nat, Nat.mul_one, List.length_zipIdx]
    rw [CaseLine.records_of_cons variants, List.flatMap_cons, List.length_append, plain,
      ← Nat.add_assoc]
    refine congrArg (· + _) ?_
    have fits : line.fitsCatchAll inspection.rawType = first.hasRawPayload inspection.rawType := by
      simp [CaseLine.fitsCatchAll, variants]
    by_cases marked : line.Carries defaultCaseName
    · have marks : line.Marks := ⟨by simp [variants], marked⟩
      rw [inspection.length_offered_marked line lineIndex first marked, fits]
      simp only [marks, true_and]
    · have marks : ¬ line.Marks := fun both => marked both.2
      rw [inspection.length_offered_unmarked line lineIndex first marked]
      simp [marks]

theorem Inspection.length_offered_others (inspection : Inspection α) (lines : List (CaseLine α))
    (start : Nat) (others : ∀ placed ∈ lines.zipIdx start,
      placed.2 = inspection.catchAll.lineIndex → ¬ placed.1.Marks) :
    (((lines.zipIdx start).flatMap fun placed => placed.1.records placed.2).flatMap
      inspection.offered).length = (lines.map (·.faults inspection.rawType)).sum := by
  induction lines generalizing start with
  | nil => rfl
  | cons line lines ih =>
    rw [List.zipIdx_cons, List.forall_mem_cons] at others
    rw [List.zipIdx_cons, List.flatMap_cons, List.flatMap_append, List.length_append,
      ih (start + 1) others.2, inspection.length_offered_line, List.map_cons, List.sum_cons, if_neg,
      Nat.zero_add]
    rintro ⟨here, marks, -⟩
    exact others.1 here marks

theorem Inspection.length_offered (inspection : Inspection α)
    (found : inspection.declaration.records.find? (·.role == .catchAll) = some inspection.catchAll) :
    (inspection.declaration.records.flatMap inspection.offered).length =
      faults inspection.declaration.body.lines inspection.rawType := by
  -- only the first marked line has its payload looked at, so the lines are split there
  obtain ⟨before, line, after, lines, unmarked, marks, place⟩ := Declaration.exists_catchAll found
  have front := inspection.length_offered_others before 0 fun placed member _ =>
    unmarked placed.1 (List.fst_mem_of_mem_zipIdx member)
  have back := inspection.length_offered_others after (before.length + 1) fun placed member here => by
    have late := List.le_snd_of_mem_zipIdx member
    omega
  have first : (before ++ line :: after).find? (·.Marks) = some line := by
    rw [List.find?_append, List.find?_eq_none.mpr (by simpa using unmarked)]
    simp [marks]
  rw [Declaration.records, lines, List.zipIdx_append, List.zipIdx_cons, List.flatMap_append,
    List.flatMap_cons, List.flatMap_append, List.flatMap_append, List.length_append,
    List.length_append, front, Nat.zero_add, back, inspection.length_offered_line, faults,
    catchAllFits?, first]
  cases fits : line.fitsCatchAll inspection.rawType with
  | true => simp [fits]
  | false =>
    simp [fits, place, marks]
    omega

theorem Declaration.fixableCount_report {declaration : Declaration α} {settings changed : Settings}
    {rawType : String} (asks : declaration.asks settings = some (rawType, changed))
    (marked : ∃ line ∈ declaration.body.lines, line.Marks) :
    fixableCount (declaration.report settings) = faults declaration.body.lines rawType := by
  obtain ⟨catchAll, found, offering⟩ := Declaration.offering_of_marked asks marked
  rw [offering.count]
  exact (Inspection.mk declaration rawType changed catchAll).length_offered found

/-! ### Tags do not matter -/

@[simp] theorem CaseLine.carries_map (f : α → β) (line : CaseLine α) (name : String) :
    (line.map f).Carries name ↔ line.Carries name := by
  simp [Carries, map, Attribute.map, Identifier.map]

@[simp] theorem CaseLine.marks_map (f : α → β) (line : CaseLine α) :
    (line.map f).Marks ↔ line.Marks := by
  simp [Marks, map, ← carries_map f line]

@[simp] theorem Attribute.givesInteger_map (f : α → β) (attr : Attribute α) :
    (attr.map f).givesInteger = attr.givesInteger := by
  obtain ⟨name, types, arguments, tag⟩ := attr
  match arguments with
  | [] => rfl
  | [⟨label, .integer text literalTag, argumentTag⟩] => rfl
  | [⟨label, .string value literalTag, argumentTag⟩] => rfl
  | [⟨label, .placeholder name literalTag, argumentTag⟩] => rfl
  | _ :: _ :: _ => simp [givesInteger, map]

@[simp] theorem Variant.hasRawPayload_map (f : α → β) (variant : Variant α) (rawType : String) :
    (variant.map f).hasRawPayload rawType = variant.hasRawPayload rawType := by
  obtain ⟨name, parameters, tag⟩ := variant
  match parameters with
  | none => rfl
  | some [] => rfl
  | some [parameter] => rfl
  | some (_ :: _ :: _) => rfl

theorem CaseLine.filter_isNamed_map (f : α → β) (line : CaseLine α) (name : String) :
    (line.map f).attributes.filter (·.isNamed name) =
      (line.attributes.filter (·.isNamed name)).map (Attribute.map f) := by
  rw [map, List.filter_map]
  rfl

@[simp] theorem CaseLine.leadFaults_map (f : α → β) (line : CaseLine α) (rawType : String) :
    (line.map f).leadFaults rawType = line.leadFaults rawType := by
  simp only [leadFaults, carries_map, filter_isNamed_map]
  cases line.attributes.filter (·.isNamed rawValueName) <;> simp

@[simp] theorem CaseLine.faults_map (f : α → β) (line : CaseLine α) (rawType : String) :
    (line.map f).faults rawType = line.faults rawType := by
  unfold faults
  cases variants : line.variants <;> simp [variants, map, ← leadFaults_map f line]

@[simp] theorem CaseLine.fitsCatchAll_map (f : α → β) (line : CaseLine α) (rawType : String) :
    (line.map f).fitsCatchAll rawType = line.fitsCatchAll rawType := by
  unfold fitsCatchAll
  cases variants : line.variants <;> simp [variants, map]

theorem catchAllFits?_map (f : α → β) (lines : List (CaseLine α)) (rawType : String) :
    catchAllFits? (lines.map (CaseLine.map f)) rawType = catchAllFits? lines rawType := by
  simp only [catchAllFits?, List.find?_map, Function.comp_def, CaseLine.marks_map, Option.map_map,
    CaseLine.fitsCatchAll_map]

theorem faults_map (f : α → β) (lines : List (CaseLine α)) (rawType : String) :
    faults (lines.map (CaseLine.map f)) rawType = faults lines rawType := by
  rw [faults, faults, catchAllFits?_map, List.map_map]
  simp [Function.comp_def]

theorem Attribute.rawType_retagged (f : α → β) (attr : Attribute α) :
    (attr.map f).rawType =
      (attr.rawType.mapError (List.map (Diagnostic.map f))).map (NamedType.map f) := by
  obtain ⟨name, types, arguments, tag⟩ := attr
  match types with
  | [] => rfl
  | [type] => rfl
  | _ :: _ :: _ => rfl

theorem Attribute.caseName_retagged (f : α → β) (attr : Attribute α) (settings : Settings) :
    (attr.map f).caseName settings =
      (attr.caseName settings).mapError (List.map (Diagnostic.map f)) := by
  have same : (attr.map f).argument? caseNameLabel =
      (attr.argument? caseNameLabel).map (Argument.map f) := by
    rw [argument?, map, List.find?_map]
    rfl
  unfold caseName
  rw [same]
  cases attr.argument? caseNameLabel with
  | none => rfl
  | some argument =>
    obtain ⟨label, value, tag⟩ := argument
    cases value <;> rfl

theorem Attribute.rawType_map (f : α → β) (attr : Attribute α) :
    (attr.map f).rawType.toOption = attr.rawType.toOption.map (NamedType.map f) := by
  rw [rawType_retagged]
  cases attr.rawType <;> rfl

theorem Attribute.caseName_map (f : α → β) (attr : Attribute α) (settings : Settings) :
    ((attr.map f).caseName settings).toOption = (attr.caseName settings).toOption := by
  rw [caseName_retagged]
  cases attr.caseName settings <;> rfl

theorem Declaration.toOption_request (declaration : Declaration α) (attr : Attribute α)
    (settings : Settings) :
    (declaration.request attr settings).toOption =
      if declaration.kind = .enumKind then
        attr.rawType.toOption.bind fun rawType => (attr.caseName settings).toOption.map fun name =>
          (rawType, { settings with defaultCaseName := name })
      else none := by
  unfold Declaration.request Declaration.shapeProblems
  cases attr.rawType with
  | error problems => exact (ite_self none).symm
  | ok rawType =>
    by_cases kind : declaration.kind = .enumKind
    · cases attr.caseName settings <;> simp [kind, Except.toOption]
    · simp [kind, Except.toOption, throw, throwThe, MonadExceptOf.throw]

@[simp] theorem Declaration.asks_body (declaration : Declaration α) (body : Body α)
    (settings : Settings) : { declaration with body }.asks settings = declaration.asks settings := by
  simp only [asks, toOption_request]
  rfl

theorem Declaration.findAttribute?_map (f : α → β) (declaration : Declaration α) (name : String) :
    (declaration.map f).findAttribute? name = (declaration.findAttribute? name).map (Attribute.map f) := by
  rw [findAttribute?, map, List.find?_map]
  rfl

@[simp] theorem Declaration.asks_shape (declaration : Declaration α) (settings : Settings) :
    declaration.shape.asks settings = declaration.asks settings := by
  have found : declaration.shape.findAttribute? annotationName =
      (declaration.findAttribute? annotationName).map Attribute.shape :=
    declaration.findAttribute?_map _ annotationName
  rw [asks, asks, found]
  cases declaration.findAttribute? annotationName with
  | none => rfl
  | some attr =>
    have kind : declaration.shape.kind = declaration.kind := rfl
    simp only [Option.map_some, Option.bind_some, toOption_request, Attribute.shape,
      Attribute.rawType_map, Attribute.caseName_map, kind]
    by_cases enumeration : declaration.kind = .enumKind
    · simp only [if_pos enumeration, Option.bind_map, Option.map_bind, Option.map_map, Function.comp_def]
      rfl
    · simp only [if_neg enumeration]
      rfl

end RawMapping
