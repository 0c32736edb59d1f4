import RawMapping.Derived.Synthesis

/-! Expanding declarations: reading the annotation, finding the mapping that the declaration describes,
and deriving declarations from it. Nothing is derived when anything is wrong. -/

set_option autoImplicit false

namespace RawMapping

variable {α : Type}

inductive ExpandError (α : Type) where
  /-- The declaration does not ask to be expanded. -/
  | notAnnotated (name : String)
  | rejected (diagnostics : List (Diagnostic α))
  deriving DecidableEq, Repr

def caseNameLabel : String := "case_name"

def Declaration.isAnnotated (declaration : Declaration α) : Bool :=
  (declaration.findAttribute? annotationName).isSome

/-- The single type argument of the annotation. -/
def Attribute.rawType (attr : Attribute α) : Except (List (Diagnostic α)) (NamedType α) :=
  match attr.typeArguments with
  | [type] => .ok type
  | _ => .error [rawTypeArgument attr]

/-- The name of a catch-all variant to add: the annotation's own, or else the configured one. -/
def Attribute.caseName (attr : Attribute α) (settings : Settings) :
    Except (List (Diagnostic α)) String :=
  match attr.argument? caseNameLabel with
  | none => .ok settings.defaultCaseName
  | some argument =>
    match argument.value with
    | .string name _ => .ok name
    | _ => .error [caseNameLiteral argument]

/-- What an annotation asks for: the raw type, and the settings with the annotation's case name. -/
def Declaration.request (declaration : Declaration α) (attr : Attribute α) (settings : Settings) :
    Except (List (Diagnostic α)) (NamedType α × Settings) := do
  let rawType ← attr.rawType
  match declaration.shapeProblems with
  | [] => pure ()
  | problems => throw problems
  let caseName ← attr.caseName settings
  return (rawType, { settings with defaultCaseName := caseName })

def Declaration.expandAs (declaration : Declaration α) (attr : Attribute α) (settings : Settings) :
    Except (List (Diagnostic α)) (Expansion (Option α)) := do
  let (rawType, settings) ← declaration.request attr settings
  let mapping ← declaration.mapping rawType settings
  return mapping.expansion

def Declaration.expand (declaration : Declaration α) (settings : Settings) :
    Except (ExpandError α) (Expansion (Option α)) :=
  match declaration.findAttribute? annotationName with
  | none => .error (.notAnnotated declaration.name.text)
  | some attr => (declaration.expandAs attr settings).mapError .rejected

def expandAll (declarations : List (Declaration α)) (settings : Settings) :
    List (Declaration α × Except (List (Diagnostic α)) (Expansion (Option α))) :=
  declarations.filterMap fun declaration =>
    (declaration.findAttribute? annotationName).map fun attr =>
      (declaration, declaration.expandAs attr settings)

/-- The error for a report; an empty one cannot be made into an error. -/
def ExpandError.ofReport (diagnostics : List (Diagnostic α)) : Except String (ExpandError α) :=
  if diagnostics.isEmpty then .error "ExpansionError requires at least one diagnostic"
  else .ok (.rejected diagnostics)

def ExpandError.message : ExpandError α → String
  | .notAnnotated name => s!"'{name}' has no @raw_representable attribute"
  | .rejected diagnostics => reportSummary (diagnostics.map (·.message))

end RawMapping
