import RawMapping.Declaration.Node

/-! Editing declarations. Nodes have identities: two nodes may be equal in all that is written and
still be different nodes. An edit is first drafted: each node of the draft is kept from the tree that
is edited, copied from one of its nodes, or new. Settling a draft gives fresh identities to all nodes
that are not kept. -/

set_option autoImplicit false

namespace RawMapping

structure Stamp where
  id : Nat
  location : Option Location
  deriving DecidableEq, Repr

inductive Draft (α : Type) where
  /-- The very same node. -/
  | kept (tag : α)
  /-- Another node, written at the same place. -/
  | copied (tag : α)
  /-- A node that has never been written. -/
  | added
  deriving DecidableEq, Repr

variable {α β : Type}

def Draft.map (f : α → β) : Draft α → Draft β
  | .kept tag => .kept (f tag)
  | .copied tag => .copied (f tag)
  | .added => .added

def Draft.location : Draft Stamp → Option Location
  | .kept stamp | .copied stamp => stamp.location
  | .added => none

/-! ### Renewing the tags of a tree one after another -/

def Identifier.renew (f : α → StateM Nat β) (identifier : Identifier α) : StateM Nat (Identifier β) := do
  return ⟨identifier.text, ← f identifier.tag⟩

def NamedType.renew (f : α → StateM Nat β) (type : NamedType α) : StateM Nat (NamedType β) := do
  return ⟨type.name, ← f type.tag⟩

def Literal.renew (f : α → StateM Nat β) : Literal α → StateM Nat (Literal β)
  | .string value tag => return .string value (← f tag)
  | .integer text tag => return .integer text (← f tag)
  | .placeholder label tag => return .placeholder label (← f tag)

def Argument.renew (f : α → StateM Nat β) (argument : Argument α) : StateM Nat (Argument β) := do
  let tag ← f argument.tag
  return ⟨argument.label, ← argument.value.renew f, tag⟩

def Attribute.renew (f : α → StateM Nat β) (attr : Attribute α) : StateM Nat (Attribute β) := do
  let tag ← f attr.tag
  let name ← attr.name.renew f
  let typeArguments ← attr.typeArguments.mapM (NamedType.renew f)
  let arguments ← attr.arguments.mapM (Argument.renew f)
  return ⟨name, typeArguments, arguments, tag⟩

def Parameter.renew (f : α → StateM Nat β) (parameter : Parameter α) : StateM Nat (Parameter β) := do
  let tag ← f parameter.tag
  return ⟨parameter.label, ← parameter.type.renew f, tag⟩

def Variant.renew (f : α → StateM Nat β) (variant : Variant α) : StateM Nat (Variant β) := do
  let tag ← f variant.tag
  let name ← variant.name.renew f
  match variant.parameters with
  | none => return ⟨name, none, tag⟩
  | some parameters => return ⟨name, some (← parameters.mapM (Parameter.renew f)), tag⟩

def CaseLine.renew (f : α → StateM Nat β) (line : CaseLine α) : StateM Nat (CaseLine β) := do
  let tag ← f line.tag
  let attributes ← line.attributes.mapM (Attribute.renew f)
  let variants ← line.variants.mapM (Variant.renew f)
  return ⟨attributes, variants, tag⟩

def Body.renew (f : α → StateM Nat β) (body : Body α) : StateM Nat (Body β) := do
  let tag ← f body.tag
  return ⟨← body.lines.mapM (CaseLine.renew f), tag⟩

def Declaration.renew (f : α → StateM Nat β) (declaration : Declaration α) :
    StateM Nat (Declaration β) := do
  let tag ← f declaration.tag
  let name ← declaration.name.renew f
  let attributes ← declaration.attributes.mapM (Attribute.renew f)
  let body ← declaration.body.renew f
  return ⟨declaration.kind, name, attributes, body, tag⟩

def Node.renew (f : α → StateM Nat β) : Node α → StateM Nat (Node β)
  | .identifier node => return .identifier (← node.renew f)
  | .type node => return .type (← node.renew f)
  | .literal node => return .literal (← node.renew f)
  | .argument node => return .argument (← node.renew f)
  | .attr node => return .attr (← node.renew f)
  | .parameter node => return .parameter (← node.renew f)
  | .variant node => return .variant (← node.renew f)
  | .line node => return .line (← node.renew f)
  | .body node => return .body (← node.renew f)
  | .declaration node => return .declaration (← node.renew f)
  | .foreign kind tag => return .foreign kind (← f tag)

/-- The next unused identity. -/
def freshId : StateM Nat Nat :=
  modifyGet fun next => (next, next + 1)

def stamp (location : Option Location) : StateM Nat Stamp := do
  return ⟨← freshId, location⟩

def settle : Draft Stamp → StateM Nat Stamp
  | .kept stamp => return stamp
  | draft => stamp draft.location

/-- A declaration under edit, and the next identity to give out. -/
structure Edited where
  root : Declaration Stamp
  next : Nat
  deriving DecidableEq, Repr

/-- Takes up a declaration, with identities from `next` on. -/
def Edited.load (next : Nat) (declaration : Declaration (Option Location)) : Edited :=
  let (root, next) := (declaration.renew stamp).run next
  ⟨root, next⟩

def Edited.settle (next : Nat) (draft : Declaration (Draft Stamp)) : Edited :=
  let (root, next) := (draft.renew RawMapping.settle).run next
  ⟨root, next⟩

end RawMapping
