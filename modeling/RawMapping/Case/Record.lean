import RawMapping.Declaration.Printer

/-! The cases of an enumeration, classified. Attributes on a line belong to the first variant of that
line only; the other variants of the line have none. Nothing is checked here: a case may have
conflicting attributes, or no value that could be derived. -/

set_option autoImplicit false

namespace RawMapping

def annotationName : String := "raw_representable"

def rawValueName : String := "raw_value"

def defaultCaseName : String := "default_case"

/-- The raw type whose values are strings; values of every other raw type are integers. -/
def stringTypeName : String := "String"

inductive Role where
  /-- It takes every value that no other case has, and carries it as its payload. -/
  | catchAll
  | explicit
  | implicit
  deriving DecidableEq, Repr

def Role.text : Role → String
  | .catchAll => "default"
  | .explicit => "explicit"
  | .implicit => "implicit"

structure CaseRecord (α : Type) where
  variant : Variant α
  line : CaseLine α
  /-- The place of the line in the body. -/
  lineIndex : Nat
  /-- The place of the variant on the line. -/
  index : Nat
  role : Role
  /-- The first raw value attribute, kept on a catch-all too. -/
  rawAttribute : Option (Attribute α)
  /-- Further raw value attributes, each with its place among the line's attributes. -/
  extraRawAttributes : List (Attribute α × Nat)
  deriving DecidableEq, Repr

variable {α : Type}

def CaseLine.rawAttributes (line : CaseLine α) : List (Attribute α × Nat) :=
  line.attributes.zipIdx.filter (·.1.isNamed rawValueName)

def CaseLine.leadRole (line : CaseLine α) : Role :=
  if line.attributes.any (·.isNamed defaultCaseName) then .catchAll
  else if line.attributes.any (·.isNamed rawValueName) then .explicit
  else .implicit

/-- The first case of a line, to which the line's attributes belong. -/
def CaseLine.leadRecord (line : CaseLine α) (lineIndex : Nat) (variant : Variant α) : CaseRecord α where
  variant
  line
  lineIndex
  index := 0
  role := line.leadRole
  rawAttribute := line.rawAttributes.head?.map (·.1)
  extraRawAttributes := line.rawAttributes.tail

def CaseLine.plainRecord (line : CaseLine α) (lineIndex index : Nat) (variant : Variant α) :
    CaseRecord α where
  variant
  line
  lineIndex
  index
  role := .implicit
  rawAttribute := none
  extraRawAttributes := []

def CaseLine.records (line : CaseLine α) (lineIndex : Nat) : List (CaseRecord α) :=
  match line.variants with
  | [] => []
  | first :: others =>
    line.leadRecord lineIndex first ::
      (others.zipIdx 1).map fun (variant, index) => line.plainRecord lineIndex index variant

def Declaration.records (declaration : Declaration α) : List (CaseRecord α) :=
  declaration.body.lines.zipIdx.flatMap fun (line, lineIndex) => line.records lineIndex

def CaseRecord.name (record : CaseRecord α) : String :=
  record.variant.name.text

def CaseRecord.value? (record : CaseRecord α) : Option (Literal α) :=
  match record.rawAttribute with
  | some attr =>
    match attr.arguments with
    | [argument] => some argument.value
    | _ => none
  | none => none

/-- Told by the place of the case; in a tree that has each node once, no other variant is the same node. -/
def CaseRecord.isFirstOnLine (record : CaseRecord α) : Bool :=
  record.index == 0

/-- Whether the payload is exactly one field of the raw type. -/
def Variant.hasRawPayload (variant : Variant α) (rawType : String) : Bool :=
  match variant.parameters with
  | some [parameter] => parameter.type.name == rawType
  | _ => false

/-- The case that a missing catch-all is best filled by: one with the wanted name, or else the first
with the right payload. -/
def defaultCandidate? (records : List (CaseRecord α)) (rawType caseName : String) :
    Option (CaseRecord α) :=
  (records.find? (·.name == caseName)).or (records.find? (·.variant.hasRawPayload rawType))

def Literal.fitsType (literal : Literal α) (rawType : String) : Bool :=
  match literal with
  | .string .. => rawType == stringTypeName
  | .integer .. => rawType != stringTypeName
  | .placeholder .. => false

end RawMapping
