import RawMapping.Declaration.Replace

/-! Declarations as plain trees, in which any node can stand anywhere. A replacement is made on the plain
tree: whatever the new node is, it is put where the old one stands, and only the root has to stay a
declaration. What comes out can be read back if every node stands where its kind belongs. -/

set_option autoImplicit false

namespace RawMapping

/-- What a field of a node holds: a text or nothing, a list, or a node with fields of its own. -/
inductive Tree (α : Type) where
  | leaf (content : Option String)
  | list (items : List (Tree α))
  | node (kind : String) (fields : List (Tree α)) (tag : α)
  deriving Repr

variable {α β : Type}

def Tree.kind : Tree α → String
  | .leaf none => "NoneType"
  | .leaf (some _) => "str"
  | .list _ => "list"
  | .node kind _ _ => kind

/-! ### Changing the tags -/

mutual

def Tree.map (f : α → β) : Tree α → Tree β
  | .leaf content => .leaf content
  | .list items => .list (Tree.mapAll f items)
  | .node kind fields tag => .node kind (Tree.mapAll f fields) (f tag)

def Tree.mapAll (f : α → β) : List (Tree α) → List (Tree β)
  | [] => []
  | value :: values => value.map f :: Tree.mapAll f values

end

mutual

def Tree.renew (f : α → StateM Nat β) : Tree α → StateM Nat (Tree β)
  | .leaf content => return .leaf content
  | .list items => return .list (← Tree.renewAll f items)
  | .node kind fields tag => do
    let tag ← f tag
    return .node kind (← Tree.renewAll f fields) tag

def Tree.renewAll (f : α → StateM Nat β) : List (Tree α) → StateM Nat (List (Tree β))
  | [] => return []
  | value :: values => do
    let value ← value.renew f
    return value :: (← Tree.renewAll f values)

end

/-! ### Nodes as trees -/

def Identifier.tree (identifier : Identifier α) : Tree α :=
  .node "Identifier" [.leaf identifier.text] identifier.tag

def NamedType.tree (type : NamedType α) : Tree α :=
  .node "TypeRef" [.leaf type.name] type.tag

def Literal.tree : Literal α → Tree α
  | .string value tag => .node "StringLiteral" [.leaf value] tag
  | .integer text tag => .node "IntegerLiteral" [.leaf text] tag
  | .placeholder label tag => .node "Placeholder" [.leaf label] tag

def Argument.tree (argument : Argument α) : Tree α :=
  .node "Argument" [.leaf argument.label, argument.value.tree] argument.tag

def Attribute.tree (attr : Attribute α) : Tree α :=
  .node "Attribute" [attr.name.tree, .list (attr.typeArguments.map NamedType.tree),
    .list (attr.arguments.map Argument.tree)] attr.tag

def Parameter.tree (parameter : Parameter α) : Tree α :=
  .node "Parameter" [.leaf parameter.label, parameter.type.tree] parameter.tag

def Variant.tree (variant : Variant α) : Tree α :=
  let parameters :=
    match variant.parameters with
    | none => .leaf none
    | some parameters => .list (parameters.map Parameter.tree)
  .node "CaseElement" [variant.name.tree, parameters] variant.tag

def CaseLine.tree (line : CaseLine α) : Tree α :=
  .node "CaseDecl" [.list (line.attributes.map Attribute.tree), .list (line.variants.map Variant.tree)]
    line.tag

def Body.tree (body : Body α) : Tree α :=
  .node "MemberBlock" [.list (body.lines.map CaseLine.tree)] body.tag

def Declaration.tree (declaration : Declaration α) : Tree α :=
  .node "TypeDecl" [.leaf declaration.kind.text, declaration.name.tree,
    .list (declaration.attributes.map Attribute.tree), declaration.body.tree] declaration.tag

def Node.tree : Node α → Tree α
  | .identifier node => node.tree
  | .type node => node.tree
  | .literal node => node.tree
  | .argument node => node.tree
  | .attr node => node.tree
  | .parameter node => node.tree
  | .variant node => node.tree
  | .line node => node.tree
  | .body node => node.tree
  | .declaration node => node.tree
  | .foreign kind tag => .node kind [] tag

/-! ### Trees as nodes -/

def Tree.identifier? : Tree α → Option (Identifier α)
  | .node "Identifier" [.leaf (some text)] tag => some ⟨text, tag⟩
  | _ => none

def Tree.type? : Tree α → Option (NamedType α)
  | .node "TypeRef" [.leaf (some name)] tag => some ⟨name, tag⟩
  | _ => none

def Tree.literal? : Tree α → Option (Literal α)
  | .node "StringLiteral" [.leaf (some value)] tag => some (.string value tag)
  | .node "IntegerLiteral" [.leaf (some text)] tag => some (.integer text tag)
  | .node "Placeholder" [.leaf (some label)] tag => some (.placeholder label tag)
  | _ => none

def Tree.argument? : Tree α → Option (Argument α)
  | .node "Argument" [.leaf label, value] tag => do
    return ⟨label, ← value.literal?, tag⟩
  | _ => none

def Tree.attribute? : Tree α → Option (Attribute α)
  | .node "Attribute" [name, .list types, .list arguments] tag => do
    return ⟨← name.identifier?, ← types.mapM Tree.type?, ← arguments.mapM Tree.argument?, tag⟩
  | _ => none

def Tree.parameter? : Tree α → Option (Parameter α)
  | .node "Parameter" [.leaf label, type] tag => do
    return ⟨label, ← type.type?, tag⟩
  | _ => none

def Tree.variant? : Tree α → Option (Variant α)
  | .node "CaseElement" [name, .leaf none] tag => do
    return ⟨← name.identifier?, none, tag⟩
  | .node "CaseElement" [name, .list parameters] tag => do
    return ⟨← name.identifier?, some (← parameters.mapM Tree.parameter?), tag⟩
  | _ => none

def Tree.line? : Tree α → Option (CaseLine α)
  | .node "CaseDecl" [.list attributes, .list variants] tag => do
    return ⟨← attributes.mapM Tree.attribute?, ← variants.mapM Tree.variant?, tag⟩
  | _ => none

def Tree.body? : Tree α → Option (Body α)
  | .node "MemberBlock" [.list lines] tag => do
    return ⟨← lines.mapM Tree.line?, tag⟩
  | _ => none

/-- The declaration that the tree is, if every node stands where its kind belongs. -/
def Tree.declaration? : Tree α → Option (Declaration α)
  | .node "TypeDecl" [.leaf (some kind), name, .list attributes, body] tag => do
    return ⟨← DeclKind.ofText? kind, ← name.identifier?, ← attributes.mapM Tree.attribute?,
      ← body.body?, tag⟩
  | _ => none

/-! ### Replacing -/

/-- What became of a value that was searched for a node. -/
structure Visit where
  found : Bool
  /-- What stands in place of the value, if that is not the very same value. -/
  replaced? : Option (Tree (Draft Stamp))

def Visit.result (value : Tree Stamp) (visit : Visit) : Tree (Draft Stamp) :=
  visit.replaced?.getD (value.map .kept)

/-- What became of a value that holds others: it is rebuilt if one of them is replaced. -/
def Visit.around (values : List (Tree Stamp)) (visits : List Visit)
    (rebuild : List (Tree (Draft Stamp)) → Tree (Draft Stamp)) : Visit where
  found := visits.any (·.found)
  replaced? :=
    if visits.any (·.replaced?.isSome) then some (rebuild (values.zipWith Visit.result visits))
    else none

def Tree.isKept (id : Nat) : Tree (Draft Stamp) → Bool
  | .node _ _ (.kept stamp) => stamp.id == id
  | _ => false

mutual

/-- Puts `new` in place of the node with the identity `old`. Neither of them is looked into. -/
def Tree.visit (old : Nat) (new : Tree (Draft Stamp)) : Tree Stamp → Visit
  | .leaf _ => ⟨false, none⟩
  | .list items => .around items (Tree.visitAll old new items) .list
  | .node kind fields tag =>
    if tag.id = old then ⟨true, if new.isKept old then none else some new⟩
    else .around fields (Tree.visitAll old new fields) fun fields => .node kind fields (.copied tag)

def Tree.visitAll (old : Nat) (new : Tree (Draft Stamp)) : List (Tree Stamp) → List Visit
  | [] => []
  | value :: values => Tree.visit old new value :: Tree.visitAll old new values

end

def Edited.exchange (edited : Edited) (old : Node Stamp) (new : Tree (Draft Stamp)) :
    Except ReplaceError (Tree Stamp × Nat) :=
  let visit := Tree.visit old.tag.id new edited.root.tree
  let result := visit.result edited.root.tree
  if !visit.found then .error (.absent old.kind edited.root.name.text)
  else if result.kind ≠ (Node.declaration edited.root).kind then .error (.notDeclaration result.kind)
  else .ok ((result.renew RawMapping.settle).run edited.next)

end RawMapping
