import RawMapping.Report.Problems

/-! The mapping between cases and raw values that a declaration describes. A declaration describes one
if exactly one case is the catch-all, with a payload of the raw type, and every other case has a
literal of the raw type as its value, no two of them with the same text. Everything that stands in the
way is reported together, in source order; only a missing catch-all is reported alone. -/

set_option autoImplicit false

namespace RawMapping

structure Settings where
  /-- The name of a catch-all variant that a fix adds. -/
  defaultCaseName : String := "unknown"
  /-- The label of a placeholder that a fix adds. -/
  placeholderLabel : String := "value"
  /-- How many fixes may be applied to one declaration. -/
  maxFixPasses : Nat := 10
  deriving DecidableEq, Repr

structure ValueCase (α : Type) where
  record : CaseRecord α
  literal : Literal α
  deriving DecidableEq, Repr

structure Mapping (α : Type) where
  typeName : String
  rawType : NamedType α
  catchAll : CaseRecord α
  valueCases : List (ValueCase α)
  deriving DecidableEq, Repr

variable {α : Type}

def ValueCase.name (valueCase : ValueCase α) : String :=
  valueCase.record.name

/-- The literal of a case and the node that wrote it. Without an attribute a case has a value only if
values are strings: its own name. -/
def CaseRecord.resolve? (record : CaseRecord α) (rawType : String) : Option (Literal α × Node α) :=
  match record.role with
  | .catchAll => none
  | .explicit => record.value?.map fun literal => (literal, .literal literal)
  | .implicit =>
    if rawType == stringTypeName then
      let name := record.variant.name
      some (.string name.text name.tag, .identifier name)
    else none

structure Inspection (α : Type) where
  declaration : Declaration α
  rawType : String
  settings : Settings
  catchAll : CaseRecord α

/-- Texts of the values accepted so far and the nodes that wrote them. -/
abbrev Seen (α : Type) := List (String × Node α)

/-- Diagnostics of a case marked as the catch-all. No line has two such cases, so the line tells whether it
is the catch-all itself. -/
def Inspection.catchAllProblems (inspection : Inspection α) (record : CaseRecord α) :
    List (Diagnostic α) :=
  let position :=
    if record.lineIndex ≠ inspection.catchAll.lineIndex then [extraDefault record inspection.catchAll]
    else if record.variant.hasRawPayload inspection.rawType then []
    else [wrongAssociatedValue record inspection.rawType]
  let conflict := if record.rawAttribute.isSome then [defaultAndRaw record] else []
  position ++ conflict

def Inspection.value (inspection : Inspection α) (seen : Seen α) (record : CaseRecord α) :
    Except (Diagnostic α) (Literal α × Node α) :=
  match record.resolve? inspection.rawType with
  | none =>
    match record.role, record.rawAttribute with
    -- an attribute without exactly one argument
    | .explicit, some attr => .error (malformedRawValue attr)
    | _, _ =>
      .error (missingRawValue inspection.declaration record inspection.settings.placeholderLabel)
  | some (literal, node) =>
    match literal with
    | .placeholder .. => .error (unfilledRawValue record literal)
    | _ =>
      if literal.fitsType inspection.rawType then
        match seen.lookup literal.text with
        | some first => .error (duplicateRawValue record literal.text node first)
        | none => .ok (literal, node)
      else .error (rawValueType record literal inspection.rawType)

def CaseRecord.extraProblems (record : CaseRecord α) : List (Diagnostic α) :=
  match record.role with
  | .explicit => record.extraRawAttributes.map fun (attr, place) => extraRawValue record attr place
  | _ => []

def Inspection.cases (inspection : Inspection α) :
    Seen α → List (CaseRecord α) → List (Diagnostic α) × List (ValueCase α)
  | _, [] => ([], [])
  | seen, record :: records =>
    match record.role with
    | .catchAll =>
      let (problems, values) := inspection.cases seen records
      (inspection.catchAllProblems record ++ problems, values)
    | _ =>
      match inspection.value seen record with
      | .error problem =>
        let (problems, values) := inspection.cases seen records
        (record.extraProblems ++ problem :: problems, values)
      | .ok (literal, node) =>
        -- a text counts as used only if its case is accepted
        let (problems, values) := inspection.cases ((literal.text, node) :: seen) records
        (record.extraProblems ++ problems, ⟨record, literal⟩ :: values)

/-- The mapping that the cases of a declaration describe, or all that is wrong with them. -/
def Declaration.mapping (declaration : Declaration α) (rawType : NamedType α) (settings : Settings) :
    Except (List (Diagnostic α)) (Mapping α) :=
  let records := declaration.records
  match records.find? (·.role == .catchAll) with
  | none =>
    let candidate? := defaultCandidate? records rawType.name settings.defaultCaseName
    .error [missingDefault declaration rawType.name candidate? settings.defaultCaseName]
  | some catchAll =>
    match (Inspection.mk declaration rawType.name settings catchAll).cases [] records with
    | ([], valueCases) => .ok ⟨declaration.name.text, rawType, catchAll, valueCases⟩
    -- the values of a faulty declaration are dropped
    | (problems, _) => .error problems

def Declaration.shapeProblems (declaration : Declaration α) : List (Diagnostic α) :=
  if declaration.kind = .enumKind then [] else [notAnEnum declaration]

end RawMapping
