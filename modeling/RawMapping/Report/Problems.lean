import RawMapping.Report.Fixes

/-! One diagnostic for each thing that can be wrong with a declaration. -/

set_option autoImplicit false

namespace RawMapping

variable {α : Type}

def notAnEnum (declaration : Declaration α) : Diagnostic α :=
  ⟨.notAnEnum, "@raw_representable can only be applied to enums", .declaration declaration, [], []⟩

def rawTypeArgument (attr : Attribute α) : Diagnostic α :=
  ⟨.rawTypeArgument, "@raw_representable requires exactly one raw value type argument", .attr attr,
    [], []⟩

def caseNameLiteral (argument : Argument α) : Diagnostic α :=
  ⟨.caseNameLiteral, "`case_name` must be a string literal", .literal argument.value, [], []⟩

/-- Anchored at the candidate, if there is one: the fix only adds the marker there. -/
def missingDefault (declaration : Declaration α) (rawType : String)
    (candidate? : Option (CaseRecord α)) (caseName : String) : Diagnostic α :=
  let anchor :=
    match candidate? with
    | some candidate => candidate.variant.name
    | none => declaration.name
  ⟨.missingDefault, "No case in enum is marked with @default_case", .identifier anchor, [],
    [addDefaultCaseFix declaration rawType candidate? caseName]⟩

def extraDefault (record catchAll : CaseRecord α) : Diagnostic α :=
  ⟨.extraDefault, "Multiple uses of @default_case", .identifier record.variant.name,
    [⟨.multipleDefault, .variant catchAll.variant⟩], []⟩

def wrongAssociatedValue (record : CaseRecord α) (rawType : String) : Diagnostic α :=
  ⟨.wrongAssociatedValue,
    s!"case '{record.name}' must have exactly one associated value of type `{rawType}`",
    .variant record.variant, [], [fixAssociatedValueFix record.variant rawType]⟩

def defaultAndRaw (record : CaseRecord α) : Diagnostic α :=
  ⟨.defaultAndRaw, "Cannot have both @default_case and @raw_value on an enum case",
    .variant record.variant, [], [removeRawValueFix record]⟩

def malformedRawValue (attr : Attribute α) : Diagnostic α :=
  ⟨.malformedRawValue, "@raw_value takes exactly one literal argument", .attr attr, [], []⟩

def missingRawValue (declaration : Declaration α) (record : CaseRecord α) (label : String) :
    Diagnostic α :=
  ⟨.missingRawValue, s!"case '{record.name}' must specify a raw value", .variant record.variant, [],
    [addRawValueFix declaration record label]⟩

def duplicateRawValue (record : CaseRecord α) (text : String) (node first : Node α) : Diagnostic α :=
  ⟨.duplicateRawValue, s!"Raw value {text} for case '{record.name}' is not unique", node,
    [⟨.duplicateRawValue, first⟩], []⟩

/-- A further raw value attribute on the line; only the first one counts. -/
def extraRawValue (record : CaseRecord α) (attr : Attribute α) (place : Nat) : Diagnostic α :=
  ⟨.extraRawValue, "Multiple uses of @raw_value", .attr attr,
    [⟨.multipleRawValue, .attr (record.rawAttribute.getD attr)⟩], [removeAttributeFix record place]⟩

def rawValueTypeFixes (literal : Literal α) (rawType : String) : List (Fix α) :=
  match literal with
  | .integer text tag => if rawType == stringTypeName then [quoteRawValueFix text tag] else []
  | _ => []

def rawValueType (record : CaseRecord α) (literal : Literal α) (rawType : String) : Diagnostic α :=
  ⟨.rawValueType,
    s!"Raw value {literal.text} for case '{record.name}' is not a literal of type `{rawType}`",
    .literal literal, [], rawValueTypeFixes literal rawType⟩

def unfilledRawValue (record : CaseRecord α) (placeholder : Literal α) : Diagnostic α :=
  ⟨.unfilledRawValue,
    s!"Raw value for case '{record.name}' is still the placeholder {placeholder.text}",
    .literal placeholder, [], []⟩

end RawMapping
