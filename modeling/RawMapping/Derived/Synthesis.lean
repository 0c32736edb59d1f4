import RawMapping.Case.Mapping
import RawMapping.Derived.Basic

/-! Deriving declarations from a mapping. The initializer has one arm for each case with a value, in
source order, and a last arm that puts any other raw value into the catch-all. The accessor has one
arm for each case with a value and a last arm that gives the payload of the catch-all. Literals and the
raw type are taken over from the source without the place they come from, and every other node is new. -/

set_option autoImplicit false

namespace RawMapping

variable {α : Type}

/-- The name that both derived declarations give to the raw value. -/
def rawValueBinding : String := "raw_value"

/-- The name that the accessor gives to the catch-all's payload. -/
def payloadBinding : String := "value"

def protocolName : String := "RawRepresentable"

/-- A copy of the literal that points at no source text. -/
def Literal.unlocated (literal : Literal α) : Literal (Option α) :=
  literal.map fun _ => none

/-- A type of the same name that points at no source text. -/
def NamedType.unlocated (type : NamedType α) : NamedType (Option α) :=
  ⟨type.name, none⟩

def ValueCase.decodeArm (valueCase : ValueCase α) : MatchArm (Option α) :=
  ⟨.literal valueCase.literal.unlocated none, .construct valueCase.name none none, none⟩

def ValueCase.encodeArm (valueCase : ValueCase α) : MatchArm (Option α) :=
  ⟨.caseNamed valueCase.name none none, .literal valueCase.literal.unlocated, none⟩

def Mapping.initializer (mapping : Mapping α) : Initializer (Option α) where
  typeName := mapping.typeName
  parameter := rawValueBinding
  rawType := mapping.rawType.unlocated
  body := ⟨⟨rawValueBinding, none⟩, mapping.valueCases.map ValueCase.decodeArm ++
    [⟨.wildcard none, .construct mapping.catchAll.name (some ⟨rawValueBinding, none⟩) none, none⟩], none⟩
  tag := none

def Mapping.accessor (mapping : Mapping α) : Accessor (Option α) where
  name := rawValueBinding
  rawType := mapping.rawType.unlocated
  body := ⟨⟨"self", none⟩, mapping.valueCases.map ValueCase.encodeArm ++
    [⟨.caseNamed mapping.catchAll.name (some payloadBinding) none, .name ⟨payloadBinding, none⟩, none⟩],
    none⟩
  tag := none

def Mapping.expansion (mapping : Mapping α) : Expansion (Option α) where
  typeName := mapping.typeName
  members := [.initializer mapping.initializer, .accessor mapping.accessor]
  extensions := [⟨mapping.typeName, protocolName, none⟩]

end RawMapping
