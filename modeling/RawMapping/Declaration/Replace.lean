import RawMapping.Declaration.Draft

/-! Replacing one node of a declaration by another. The node is found by its identity. The nodes
above it become copies, and all others are kept; what is put in its place is not looked into. -/

set_option autoImplicit false

namespace RawMapping

inductive ReplaceError where
  /-- The node to replace is not in the declaration. -/
  | absent (kind declaration : String)
  /-- The whole declaration was to become something else. -/
  | notDeclaration (found : String)
  /-- The new node cannot stand where the old one stood. -/
  | misplaced (wanted found : String)
  deriving DecidableEq, Repr

def ReplaceError.message : ReplaceError → String
  | .absent kind declaration => s!"{kind} to replace is not part of '{declaration}'"
  | .notDeclaration found => s!"Replacing the root must produce a TypeDecl, got {found}"
  | .misplaced wanted found => s!"{found} cannot stand in place of {wanted}"

variable {α : Type}

/-- A node above the target is copied; any other is kept. -/
def rebuilt (target : α → Bool) (below : List (Node α)) (tag : α) : Draft α :=
  if below.any (target ·.tag) then .copied tag else .kept tag

def Identifier.replace (target : α → Bool) (new : Node (Draft α)) (identifier : Identifier α) :
    Identifier (Draft α) :=
  match target identifier.tag, new with
  | true, .identifier node => node
  | _, _ => identifier.map .kept

def NamedType.replace (target : α → Bool) (new : Node (Draft α)) (type : NamedType α) :
    NamedType (Draft α) :=
  match target type.tag, new with
  | true, .type node => node
  | _, _ => type.map .kept

def Literal.replace (target : α → Bool) (new : Node (Draft α)) (literal : Literal α) :
    Literal (Draft α) :=
  match target literal.tag, new with
  | true, .literal node => node
  | _, _ => literal.map .kept

def Argument.replace (target : α → Bool) (new : Node (Draft α)) (argument : Argument α) :
    Argument (Draft α) :=
  match target argument.tag, new with
  | true, .argument node => node
  | _, _ =>
    ⟨argument.label, argument.value.replace target new, rebuilt target argument.below argument.tag⟩

def Attribute.replace (target : α → Bool) (new : Node (Draft α)) (attr : Attribute α) :
    Attribute (Draft α) :=
  match target attr.tag, new with
  | true, .attr node => node
  | _, _ =>
    ⟨attr.name.replace target new, attr.typeArguments.map (·.replace target new),
      attr.arguments.map (·.replace target new), rebuilt target attr.below attr.tag⟩

def Parameter.replace (target : α → Bool) (new : Node (Draft α)) (parameter : Parameter α) :
    Parameter (Draft α) :=
  match target parameter.tag, new with
  | true, .parameter node => node
  | _, _ =>
    ⟨parameter.label, parameter.type.replace target new,
      rebuilt target parameter.below parameter.tag⟩

def Variant.replace (target : α → Bool) (new : Node (Draft α)) (variant : Variant α) :
    Variant (Draft α) :=
  match target variant.tag, new with
  | true, .variant node => node
  | _, _ =>
    ⟨variant.name.replace target new, variant.parameters.map (List.map (·.replace target new)),
      rebuilt target variant.below variant.tag⟩

def CaseLine.replace (target : α → Bool) (new : Node (Draft α)) (line : CaseLine α) :
    CaseLine (Draft α) :=
  match target line.tag, new with
  | true, .line node => node
  | _, _ =>
    ⟨line.attributes.map (·.replace target new), line.variants.map (·.replace target new),
      rebuilt target line.below line.tag⟩

def Body.replace (target : α → Bool) (new : Node (Draft α)) (body : Body α) : Body (Draft α) :=
  match target body.tag, new with
  | true, .body node => node
  | _, _ => ⟨body.lines.map (·.replace target new), rebuilt target body.below body.tag⟩

def Declaration.replace (target : α → Bool) (new : Node (Draft α)) (declaration : Declaration α) :
    Declaration (Draft α) :=
  match target declaration.tag, new with
  | true, .declaration node => node
  | _, _ =>
    ⟨declaration.kind, declaration.name.replace target new,
      declaration.attributes.map (·.replace target new), declaration.body.replace target new,
      rebuilt target declaration.below declaration.tag⟩

/-- Whether a node of the kind of `new` can stand where `old` stands. -/
def Node.fits {β : Type} (old : Node α) (new : Node β) : Bool :=
  match old, new with
  | .identifier _, .identifier _ | .type _, .type _ | .literal _, .literal _
  | .argument _, .argument _ | .attr _, .attr _ | .parameter _, .parameter _
  | .variant _, .variant _ | .line _, .line _ | .body _, .body _
  | .declaration _, .declaration _ => true
  | _, _ => false

/-- The draft in which `new` stands in place of the node with the identity of `old`. -/
def Declaration.replaceNode (root : Declaration Stamp) (old : Node Stamp) (new : Node (Draft Stamp)) :
    Except ReplaceError (Declaration (Draft Stamp)) :=
  let target (stamp : Stamp) : Bool := stamp.id == old.tag.id
  match root.nodes.find? (target ·.tag) with
  | none => .error (.absent old.kind root.name.text)
  | some (.declaration _) =>
    match new with
    | .declaration draft => .ok draft
    | _ => .error (.notDeclaration new.kind)
  | some node =>
    if node.fits new then .ok (root.replace target new) else .error (.misplaced node.kind new.kind)

def Edited.replaceNode (edited : Edited) (old : Node Stamp) (new : Node (Draft Stamp)) :
    Except ReplaceError Edited :=
  (edited.root.replaceNode old new).map (Edited.settle edited.next)

end RawMapping
