import RawMapping.Declaration.Basic

/-! Nodes of a declaration, of any kind. The nodes of a tree are listed in preorder: each node before
those below it, and these in source order. -/

set_option autoImplicit false

namespace RawMapping

inductive Node (α : Type) where
  | identifier (node : Identifier α)
  | type (node : NamedType α)
  | literal (node : Literal α)
  | argument (node : Argument α)
  | attr (node : Attribute α)
  | parameter (node : Parameter α)
  | variant (node : Variant α)
  | line (node : CaseLine α)
  | body (node : Body α)
  | declaration (node : Declaration α)
  /-- A node that no declaration can hold, known by its kind only. -/
  | foreign (kind : String) (tag : α)
  deriving DecidableEq, Repr

variable {α β : Type}

def Literal.kind : Literal α → String
  | .string .. => "StringLiteral"
  | .integer .. => "IntegerLiteral"
  | .placeholder .. => "Placeholder"

def Node.kind : Node α → String
  | .identifier _ => "Identifier"
  | .type _ => "TypeRef"
  | .literal node => node.kind
  | .argument _ => "Argument"
  | .attr _ => "Attribute"
  | .parameter _ => "Parameter"
  | .variant _ => "CaseElement"
  | .line _ => "CaseDecl"
  | .body _ => "MemberBlock"
  | .declaration _ => "TypeDecl"
  | .foreign kind _ => kind

def Node.tag : Node α → α
  | .identifier node => node.tag
  | .type node => node.tag
  | .literal node => node.tag
  | .argument node => node.tag
  | .attr node => node.tag
  | .parameter node => node.tag
  | .variant node => node.tag
  | .line node => node.tag
  | .body node => node.tag
  | .declaration node => node.tag
  | .foreign _ tag => tag

def Node.map (f : α → β) : Node α → Node β
  | .identifier node => .identifier (node.map f)
  | .type node => .type (node.map f)
  | .literal node => .literal (node.map f)
  | .argument node => .argument (node.map f)
  | .attr node => .attr (node.map f)
  | .parameter node => .parameter (node.map f)
  | .variant node => .variant (node.map f)
  | .line node => .line (node.map f)
  | .body node => .body (node.map f)
  | .declaration node => .declaration (node.map f)
  | .foreign kind tag => .foreign kind (f tag)

/-! ### The nodes of a tree -/

def Identifier.nodes (identifier : Identifier α) : List (Node α) :=
  [.identifier identifier]

def NamedType.nodes (type : NamedType α) : List (Node α) :=
  [.type type]

def Literal.nodes (literal : Literal α) : List (Node α) :=
  [.literal literal]

def Argument.below (argument : Argument α) : List (Node α) :=
  argument.value.nodes

def Argument.nodes (argument : Argument α) : List (Node α) :=
  .argument argument :: argument.below

def Attribute.below (attr : Attribute α) : List (Node α) :=
  attr.name.nodes ++ attr.typeArguments.flatMap NamedType.nodes ++ attr.arguments.flatMap Argument.nodes

def Attribute.nodes (attr : Attribute α) : List (Node α) :=
  .attr attr :: attr.below

def Parameter.below (parameter : Parameter α) : List (Node α) :=
  parameter.type.nodes

def Parameter.nodes (parameter : Parameter α) : List (Node α) :=
  .parameter parameter :: parameter.below

def Variant.below (variant : Variant α) : List (Node α) :=
  variant.name.nodes ++ (variant.parameters.getD []).flatMap Parameter.nodes

def Variant.nodes (variant : Variant α) : List (Node α) :=
  .variant variant :: variant.below

def CaseLine.below (line : CaseLine α) : List (Node α) :=
  line.attributes.flatMap Attribute.nodes ++ line.variants.flatMap Variant.nodes

def CaseLine.nodes (line : CaseLine α) : List (Node α) :=
  .line line :: line.below

def Body.below (body : Body α) : List (Node α) :=
  body.lines.flatMap CaseLine.nodes

def Body.nodes (body : Body α) : List (Node α) :=
  .body body :: body.below

def Declaration.below (declaration : Declaration α) : List (Node α) :=
  declaration.name.nodes ++ declaration.attributes.flatMap Attribute.nodes ++ declaration.body.nodes

def Declaration.nodes (declaration : Declaration α) : List (Node α) :=
  .declaration declaration :: declaration.below

def Node.nodes : Node α → List (Node α)
  | .identifier node => node.nodes
  | .type node => node.nodes
  | .literal node => node.nodes
  | .argument node => node.nodes
  | .attr node => node.nodes
  | .parameter node => node.nodes
  | .variant node => node.nodes
  | .line node => node.nodes
  | .body node => node.nodes
  | .declaration node => node.nodes
  | .foreign kind tag => [.foreign kind tag]

end RawMapping
