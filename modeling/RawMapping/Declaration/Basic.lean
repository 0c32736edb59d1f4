import RawMapping.Token.Symbol

/-! Type declarations as trees. Every node carries a tag of the same type: a position while a source
text is read, a stamp while a declaration is edited, nothing at all when only the shape matters. -/

set_option autoImplicit false

namespace RawMapping

structure Identifier (α : Type) where
  text : String
  tag : α
  deriving DecidableEq, Repr

structure NamedType (α : Type) where
  name : String
  tag : α
  deriving DecidableEq, Repr

inductive Literal (α : Type) where
  | string (value : String) (tag : α)
  /-- An integer, kept as written. -/
  | integer (text : String) (tag : α)
  /-- A value that is still to be filled in. -/
  | placeholder (label : String) (tag : α)
  deriving DecidableEq, Repr

structure Argument (α : Type) where
  label : Option String
  value : Literal α
  tag : α
  deriving DecidableEq, Repr

structure Attribute (α : Type) where
  name : Identifier α
  typeArguments : List (NamedType α)
  arguments : List (Argument α)
  tag : α
  deriving DecidableEq, Repr

structure Parameter (α : Type) where
  label : Option String
  type : NamedType α
  tag : α
  deriving DecidableEq, Repr

/-- One variant of an enumeration. A variant without a payload is not one with an empty payload. -/
structure Variant (α : Type) where
  name : Identifier α
  parameters : Option (List (Parameter α))
  tag : α
  deriving DecidableEq, Repr

/-- A line of a declaration's body: attributes and the variants they stand above. -/
structure CaseLine (α : Type) where
  attributes : List (Attribute α)
  variants : List (Variant α)
  tag : α
  deriving DecidableEq, Repr

structure Body (α : Type) where
  lines : List (CaseLine α)
  tag : α
  deriving DecidableEq, Repr

structure Declaration (α : Type) where
  kind : DeclKind
  name : Identifier α
  attributes : List (Attribute α)
  body : Body α
  tag : α
  deriving DecidableEq, Repr

variable {α β γ : Type}

def Literal.tag : Literal α → α
  | .string _ tag | .integer _ tag | .placeholder _ tag => tag

/-! ### Changing the tags -/

def Identifier.map (f : α → β) (identifier : Identifier α) : Identifier β :=
  ⟨identifier.text, f identifier.tag⟩

def NamedType.map (f : α → β) (type : NamedType α) : NamedType β :=
  ⟨type.name, f type.tag⟩

def Literal.map (f : α → β) : Literal α → Literal β
  | .string value tag => .string value (f tag)
  | .integer text tag => .integer text (f tag)
  | .placeholder label tag => .placeholder label (f tag)

def Argument.map (f : α → β) (argument : Argument α) : Argument β :=
  ⟨argument.label, argument.value.map f, f argument.tag⟩

def Attribute.map (f : α → β) (attr : Attribute α) : Attribute β :=
  ⟨attr.name.map f, attr.typeArguments.map (NamedType.map f),
    attr.arguments.map (Argument.map f), f attr.tag⟩

def Parameter.map (f : α → β) (parameter : Parameter α) : Parameter β :=
  ⟨parameter.label, parameter.type.map f, f parameter.tag⟩

def Variant.map (f : α → β) (variant : Variant α) : Variant β :=
  ⟨variant.name.map f, variant.parameters.map (List.map (Parameter.map f)), f variant.tag⟩

def CaseLine.map (f : α → β) (line : CaseLine α) : CaseLine β :=
  ⟨line.attributes.map (Attribute.map f), line.variants.map (Variant.map f), f line.tag⟩

def Body.map (f : α → β) (body : Body α) : Body β :=
  ⟨body.lines.map (CaseLine.map f), f body.tag⟩

def Declaration.map (f : α → β) (declaration : Declaration α) : Declaration β :=
  ⟨declaration.kind, declaration.name.map f, declaration.attributes.map (Attribute.map f),
    declaration.body.map f, f declaration.tag⟩

def Declaration.shape (declaration : Declaration α) : Declaration Unit :=
  declaration.map fun _ => ()

theorem Argument.map_map (f : α → β) (g : β → γ) (argument : Argument α) :
    (argument.map f).map g = argument.map (g ∘ f) := by
  cases argument with
  | mk label value tag => cases value <;> rfl

theorem Attribute.map_map (f : α → β) (g : β → γ) (attr : Attribute α) :
    (attr.map f).map g = attr.map (g ∘ f) := by
  simp [map, Identifier.map, NamedType.map, Argument.map_map, Function.comp_def]

theorem Parameter.map_map (f : α → β) (g : β → γ) (parameter : Parameter α) :
    (parameter.map f).map g = parameter.map (g ∘ f) := rfl

theorem Variant.map_map (f : α → β) (g : β → γ) (variant : Variant α) :
    (variant.map f).map g = variant.map (g ∘ f) := by
  simp [map, Identifier.map, Parameter.map_map, Function.comp_def]

theorem CaseLine.map_map (f : α → β) (g : β → γ) (line : CaseLine α) :
    (line.map f).map g = line.map (g ∘ f) := by
  simp [map, Attribute.map_map, Variant.map_map, Function.comp_def]

theorem Declaration.map_map (f : α → β) (g : β → γ) (declaration : Declaration α) :
    (declaration.map f).map g = declaration.map (g ∘ f) := by
  simp [map, Identifier.map, Attribute.map_map, Body.map, CaseLine.map_map, Function.comp_def]

@[simp] theorem Declaration.shape_map (f : α → β) (declaration : Declaration α) :
    (declaration.map f).shape = declaration.shape := by
  simp [shape, map_map, Function.comp_def]

/-! ### Looking things up -/

def Attribute.isNamed (attr : Attribute α) (name : String) : Bool :=
  attr.name.text == name

def Attribute.argument? (attr : Attribute α) (label : String) : Option (Argument α) :=
  attr.arguments.find? (·.label == some label)

def Declaration.findAttribute? (declaration : Declaration α) (name : String) : Option (Attribute α) :=
  declaration.attributes.find? (·.isNamed name)

end RawMapping
