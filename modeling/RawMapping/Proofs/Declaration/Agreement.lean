import RawMapping.Proofs.Declaration.Exchange
import RawMapping.Proofs.Session.Recording

/-! Nodes can be replaced within a declaration or in its plain tree. As long as the new node is of a kind
that can stand where the old one stands, both come to the same, and what comes out is read back. So every
fix that is offered does in the declaration what an exchange does in the tree. -/

set_option autoImplicit false

namespace RawMapping

variable {α β γ : Type}

/-! ### Drafts of trees -/

section

variable {old : Nat} {new : Tree (Draft Stamp)}

theorem Tree.visit_found_iff (tree : Tree Stamp) :
    (Tree.visit old new tree).found = true ↔ old ∈ tree.ids := by
  induction tree using Tree.induct with
  | leaf content => simp [visit, ids]
  | list items ih =>
    simp only [visit, visitAll_eq, Visit.around, List.any_map, List.any_eq_true, Function.comp_apply,
      ids_list, List.mem_flatMap]
    exact exists_congr fun item => and_congr_right fun member => ih item member
  | node kind fields stamp ih =>
    rw [visit, ids_node, List.mem_cons, List.mem_flatMap]
    by_cases here : stamp.id = old
    · simp [here]
    · simp only [if_neg here, visitAll_eq, Visit.around, List.any_map, List.any_eq_true,
        Function.comp_apply, Ne.symm here, false_or]
      exact exists_congr fun field => and_congr_right fun member => ih field member

theorem Visit.around_isSome {values : List (Tree Stamp)}
    (each : ∀ value ∈ values,
      (Tree.visit old new value).replaced?.isSome = (Tree.visit old new value).found)
    (rebuild : List (Tree (Draft Stamp)) → Tree (Draft Stamp)) :
    (Visit.around values (values.map (Tree.visit old new)) rebuild).replaced?.isSome =
      (Visit.around values (values.map (Tree.visit old new)) rebuild).found := by
  have same : (values.map (Tree.visit old new)).any (·.replaced?.isSome) =
      (values.map (Tree.visit old new)).any (·.found) := by
    rw [List.any_map, List.any_map, Bool.eq_iff_iff, List.any_eq_true, List.any_eq_true]
    exact exists_congr fun value => and_congr_right fun member => by simp [each value member]
  rw [around, same]
  cases (values.map (Tree.visit old new)).any (·.found) <;> rfl

/-- Unless the new node is the old one, a value is rebuilt exactly if the old node is found in it. -/
theorem Tree.visit_isSome (other : new.isKept old = false) (tree : Tree Stamp) :
    (Tree.visit old new tree).replaced?.isSome = (Tree.visit old new tree).found := by
  induction tree using Tree.induct with
  | leaf content => rfl
  | list items ih =>
    rw [visit, visitAll_eq]
    exact Visit.around_isSome ih _
  | node kind fields stamp ih =>
    rw [visit, visitAll_eq]
    by_cases here : stamp.id = old
    · simp [here, other]
    · rw [if_neg here]
      exact Visit.around_isSome ih _

theorem map_draft_of_kept {values : List (Tree Stamp)}
    (kept : (values.map (Tree.visit old new)).any (·.replaced?.isSome) = false) :
    values.map (Tree.draft old new) = values.map (Tree.map .kept) := by
  rw [List.any_map, List.any_eq_false] at kept
  refine List.map_congr_left fun value member => ?_
  have none : (Tree.visit old new value).replaced? = none := by simpa using kept value member
  rw [Tree.draft, Visit.result, none, Option.getD_none]

theorem Tree.draft_leaf (content : Option String) : Tree.draft old new (.leaf content) = .leaf content := rfl

theorem Tree.draft_list (items : List (Tree Stamp)) :
    Tree.draft old new (.list items) = .list (items.map (Tree.draft old new)) := by
  rw [draft, visit, visitAll_eq, Visit.result, Visit.around, zipWith_result]
  cases kept : (items.map (Tree.visit old new)).any (·.replaced?.isSome) with
  | true => rfl
  | false => rw [map_draft_of_kept kept, map, mapAll_eq]; rfl

theorem Tree.draft_of_target (other : new.isKept old = false) {tree : Tree Stamp}
    (target : tree.id? = some old) : Tree.draft old new tree = new := by
  rw [draft, visit_of_id? target, other]
  rfl

theorem Tree.draft_node {stamp : Stamp} (other : new.isKept old = false) (beside : stamp.id ≠ old)
    (kind : String) (fields : List (Tree Stamp)) :
    Tree.draft old new (.node kind fields stamp) = .node kind (fields.map (Tree.draft old new))
      (if old ∈ fields.flatMap Tree.ids then .copied stamp else .kept stamp) := by
  have rebuilt : (fields.map (Tree.visit old new)).any (·.replaced?.isSome) = true ↔
      old ∈ fields.flatMap Tree.ids := by
    rw [List.any_map, List.any_eq_true, List.mem_flatMap]
    refine exists_congr fun field => and_congr_right fun _ => ?_
    rw [Function.comp_apply, visit_isSome other, visit_found_iff]
  rw [draft, visit, if_neg beside, visitAll_eq, Visit.result, Visit.around, zipWith_result]
  by_cases inside : old ∈ fields.flatMap Tree.ids
  · rw [if_pos (rebuilt.mpr inside), if_pos inside]
    rfl
  · have kept := Bool.eq_false_iff.mpr (rebuilt.not.mpr inside)
    rw [if_neg (rebuilt.not.mpr inside), if_neg inside, map_draft_of_kept kept, Option.getD_none, map,
      mapAll_eq]

end

/-! ### Replacing in nodes and in their trees -/

section

variable {old : Nat} {new : Node (Draft Stamp)}

theorem Node.kind_replace {node : Node Stamp} (beside : (node.tag.id == old) = false) :
    (node.replace (·.id == old) new).kind = node.kind := by
  cases node with
  | literal node =>
    change (node.tag.id == old) = false at beside
    simp only [replace, Literal.replace, beside, kind]
    cases node <;> rfl
  | _ => rfl

theorem rebuilt_eq (below : List (Node Stamp)) (stamp : Stamp) :
    rebuilt (·.id == old) below stamp =
      if old ∈ ids below then .copied stamp else .kept stamp := by
  have inside : below.any (·.tag.id == old) = true ↔ old ∈ ids below := by
    simp [ids, List.any_eq_true]
  rw [rebuilt]
  exact if_congr inside rfl rfl

theorem Node.tag_rebuilt {node : Node Stamp} (beside : (node.tag.id == old) = false) :
    (node.replace (·.id == old) new).tag =
      if old ∈ ids node.below then .copied node.tag else .kept node.tag := by
  rw [← rebuilt_eq]
  cases node with
  | literal node =>
    change (node.tag.id == old) = false at beside
    simp only [replace, Literal.replace, beside]
    cases node <;> rfl
  | foreign => rfl
  | identifier node | type node | argument node | attr node | parameter node | variant node | line node
    | body node | declaration node =>
    change (node.tag.id == old) = false at beside
    simp only [replace, Identifier.replace, NamedType.replace, Argument.replace, Attribute.replace,
      Parameter.replace, Variant.replace, CaseLine.replace, Body.replace, Declaration.replace, beside]
    rfl

theorem Node.fields_replace {node : Node Stamp} (beside : (node.tag.id == old) = false)
    (ih : ∀ child ∈ node.children,
      (child.replace (·.id == old) new).tree = Tree.draft old new.tree child.tree) :
    (node.replace (·.id == old) new).fields = node.fields.map (Tree.draft old new.tree) := by
  -- a field holds a text, a child or a list of children, and texts stay as they are
  cases node with
  | literal node =>
    change (node.tag.id == old) = false at beside
    simp only [replace, Literal.replace, beside]
    cases node <;> rfl
  | foreign => rfl
  | identifier node | type node =>
    change (node.tag.id == old) = false at beside
    simp only [replace, Identifier.replace, NamedType.replace, beside]
    rfl
  | argument node =>
    change (node.tag.id == old) = false at beside
    have value := ih (.literal node.value) List.mem_cons_self
    simp only [replace, Argument.replace, beside]
    exact congrArg (fun value => [.leaf node.label, value]) value
  | parameter node =>
    change (node.tag.id == old) = false at beside
    have type := ih (.type node.type) List.mem_cons_self
    simp only [replace, Parameter.replace, beside]
    exact congrArg (fun type => [.leaf node.label, type]) type
  | attr node =>
    change (node.tag.id == old) = false at beside
    simp only [children, List.forall_mem_cons, List.forall_mem_append, List.forall_mem_map] at ih
    simpa [replace, Attribute.replace, beside, fields, tree, Attribute.tree, Tree.draft_list] using ih
  | line node =>
    change (node.tag.id == old) = false at beside
    simp only [children, List.forall_mem_append, List.forall_mem_map] at ih
    simpa [replace, CaseLine.replace, beside, fields, tree, CaseLine.tree, Tree.draft_list] using ih
  | body node =>
    change (node.tag.id == old) = false at beside
    simp only [children, List.forall_mem_map] at ih
    simpa [replace, Body.replace, beside, fields, tree, Body.tree, Tree.draft_list] using ih
  | declaration node =>
    change (node.tag.id == old) = false at beside
    simp only [children, List.forall_mem_cons, List.forall_mem_append, List.forall_mem_map] at ih
    simpa [replace, Declaration.replace, beside, fields, tree, Declaration.tree, Tree.draft_leaf,
      Tree.draft_list] using ih
  | variant node =>
    change (node.tag.id == old) = false at beside
    obtain ⟨name, parameters, stamp⟩ := node
    simp only [children, List.forall_mem_cons, List.forall_mem_map] at ih
    cases parameters with
    | none => simpa [replace, Variant.replace, beside, fields, tree, Variant.tree, Tree.draft_leaf] using ih
    | some parameters =>
      simpa [replace, Variant.replace, beside, fields, tree, Variant.tree, Tree.draft_list] using ih

theorem Node.tree_replace (other : new.tree.isKept old = false) {node : Node Stamp}
    (fits : ∀ place ∈ node.nodes, place.tag.id = old → place.fits new = true) :
    (node.replace (·.id == old) new).tree = Tree.draft old new.tree node.tree := by
  induction node using Node.induct with
  | step node ih =>
    cases target : node.tag.id == old with
    | true =>
      have here : node.tree.id? = some old := by rw [node.tree_eq, ← beq_iff_eq.mp target]; rfl
      rw [Tree.draft_of_target other here, replace_of_target target
        (fits node node.mem_nodes (beq_iff_eq.mp target))]
    | false =>
      -- on both sides the node is a copy exactly if the old one is below it
      have children : ∀ child ∈ node.children,
          (child.replace (·.id == old) new).tree = Tree.draft old new.tree child.tree := by
        intro child member
        refine ih child member fun place inside => fits place ?_
        rw [nodes_eq, below_eq]
        exact List.mem_cons_of_mem _ (List.mem_flatMap.mpr ⟨child, member, inside⟩)
      have below : node.fields.flatMap Tree.ids = ids node.below := by
        rw [ids_fields, below_eq, ids, List.map_flatMap]
        exact List.flatMap_congr fun child _ => child.ids_tree
      rw [tree_eq, node.tree_eq, Tree.draft_node other (beq_eq_false_iff_ne.mp target), kind_replace target,
        tag_rebuilt target, fields_replace target children, below]

end

/-! ### Settling nodes and their trees -/

section

variable (f : α → StateM Nat β)

theorem mapM_renew_tree {γ δ : Type} {renew : γ → StateM Nat δ} {draft : γ → Tree α} {tree : δ → Tree β}
    (each : ∀ item, (draft item).renew f = tree <$> renew item) (items : List γ) :
    (items.map draft).mapM (Tree.renew f) = List.map tree <$> items.mapM renew := by
  induction items with
  | nil => rfl
  | cons item items ih => simp [each, ih, List.mapM_cons]

theorem Identifier.tree_renew (identifier : Identifier α) :
    identifier.tree.renew f = Identifier.tree <$> identifier.renew f := by
  simp [tree, renew, Tree.renew, Tree.renewAll]

theorem NamedType.tree_renew (type : NamedType α) :
    type.tree.renew f = NamedType.tree <$> type.renew f := by
  simp [tree, renew, Tree.renew, Tree.renewAll]

theorem Literal.tree_renew (literal : Literal α) :
    literal.tree.renew f = Literal.tree <$> literal.renew f := by
  cases literal <;> simp [tree, renew, Tree.renew, Tree.renewAll]

theorem Argument.tree_renew (argument : Argument α) :
    argument.tree.renew f = Argument.tree <$> argument.renew f := by
  simp [tree, renew, Tree.renew, Tree.renewAll, Literal.tree_renew]

theorem Attribute.tree_renew (attr : Attribute α) :
    attr.tree.renew f = Attribute.tree <$> attr.renew f := by
  have types := mapM_renew_tree f (NamedType.tree_renew f) attr.typeArguments
  have arguments := mapM_renew_tree f (Argument.tree_renew f) attr.arguments
  simp [tree, renew, Tree.renew, Tree.renewAll, Tree.renewAll_eq, Identifier.tree_renew, types, arguments]

theorem Parameter.tree_renew (parameter : Parameter α) :
    parameter.tree.renew f = Parameter.tree <$> parameter.renew f := by
  simp [tree, renew, Tree.renew, Tree.renewAll, NamedType.tree_renew]

theorem Variant.tree_renew (variant : Variant α) :
    variant.tree.renew f = Variant.tree <$> variant.renew f := by
  obtain ⟨name, parameters, tag⟩ := variant
  cases parameters with
  | none => simp [tree, renew, Tree.renew, Tree.renewAll, Identifier.tree_renew]
  | some parameters =>
    have each := mapM_renew_tree f (Parameter.tree_renew f) parameters
    simp [tree, renew, Tree.renew, Tree.renewAll, Tree.renewAll_eq, Identifier.tree_renew, each]

theorem CaseLine.tree_renew (line : CaseLine α) :
    line.tree.renew f = CaseLine.tree <$> line.renew f := by
  have attributes := mapM_renew_tree f (Attribute.tree_renew f) line.attributes
  have variants := mapM_renew_tree f (Variant.tree_renew f) line.variants
  simp [tree, renew, Tree.renew, Tree.renewAll, Tree.renewAll_eq, attributes, variants]

theorem Body.tree_renew (body : Body α) : body.tree.renew f = Body.tree <$> body.renew f := by
  have lines := mapM_renew_tree f (CaseLine.tree_renew f) body.lines
  simp [tree, renew, Tree.renew, Tree.renewAll, Tree.renewAll_eq, lines]

theorem Declaration.tree_renew (declaration : Declaration α) :
    declaration.tree.renew f = Declaration.tree <$> declaration.renew f := by
  have attributes := mapM_renew_tree f (Attribute.tree_renew f) declaration.attributes
  simp [tree, renew, Tree.renew, Tree.renewAll, Tree.renewAll_eq, Identifier.tree_renew, Body.tree_renew,
    attributes]

end

/-! ### Reading nodes back -/

theorem mapM_tree {γ : Type} {tree : γ → Tree α} {read : Tree α → Option γ}
    (each : ∀ item, read (tree item) = some item) (items : List γ) :
    (items.map tree).mapM read = some items := by
  induction items with
  | nil => rfl
  | cons item items ih => simp [each, ih, List.mapM_cons]

theorem Identifier.identifier?_tree (identifier : Identifier α) :
    identifier.tree.identifier? = some identifier := rfl

theorem NamedType.type?_tree (type : NamedType α) : type.tree.type? = some type := rfl

theorem Argument.argument?_tree (argument : Argument α) : argument.tree.argument? = some argument := by
  obtain ⟨label, value, tag⟩ := argument
  cases value <;> rfl

theorem Attribute.attribute?_tree (attr : Attribute α) : attr.tree.attribute? = some attr := by
  have types := mapM_tree NamedType.type?_tree attr.typeArguments
  have arguments := mapM_tree Argument.argument?_tree attr.arguments
  simp [tree, Tree.attribute?, Identifier.identifier?_tree, types, arguments]

theorem Parameter.parameter?_tree (parameter : Parameter α) :
    parameter.tree.parameter? = some parameter := rfl

theorem Variant.variant?_tree (variant : Variant α) : variant.tree.variant? = some variant := by
  obtain ⟨name, parameters, tag⟩ := variant
  cases parameters with
  | none => rfl
  | some parameters =>
    have each := mapM_tree Parameter.parameter?_tree parameters
    simp [tree, Tree.variant?, Identifier.identifier?_tree, each]

theorem CaseLine.line?_tree (line : CaseLine α) : line.tree.line? = some line := by
  have attributes := mapM_tree Attribute.attribute?_tree line.attributes
  have variants := mapM_tree Variant.variant?_tree line.variants
  simp [tree, Tree.line?, attributes, variants]

theorem Body.body?_tree (body : Body α) : body.tree.body? = some body := by
  have lines := mapM_tree CaseLine.line?_tree body.lines
  simp [tree, Tree.body?, lines]

theorem Declaration.declaration?_tree (declaration : Declaration α) :
    declaration.tree.declaration? = some declaration := by
  have attributes := mapM_tree Attribute.attribute?_tree declaration.attributes
  simp [tree, Tree.declaration?, Identifier.identifier?_tree, attributes, Body.body?_tree]

/-! ### What is read is what was there -/

theorem eq_map_of_mapM {γ : Type} {tree : γ → Tree α} {read : Tree α → Option γ}
    (each : ∀ value item, read value = some item → value = tree item) {values : List (Tree α)}
    {items : List γ} (all : values.mapM read = some items) : values = items.map tree := by
  induction values generalizing items with
  | nil => cases all; rfl
  | cons value values ih =>
    rw [List.mapM_cons] at all
    obtain ⟨item, first, rest⟩ := Option.bind_eq_some_iff.mp all
    obtain ⟨others, later, same⟩ := Option.bind_eq_some_iff.mp rest
    cases same
    rw [each value item first, ih later, List.map_cons]

section

variable {tree : Tree α}

theorem Tree.eq_of_identifier? {identifier : Identifier α} (read : tree.identifier? = some identifier) :
    tree = identifier.tree := by
  unfold identifier? at read
  split at read <;> cases read
  rfl

theorem Tree.eq_of_type? {type : NamedType α} (read : tree.type? = some type) : tree = type.tree := by
  unfold type? at read
  split at read <;> cases read
  rfl

theorem Tree.eq_of_literal? {literal : Literal α} (read : tree.literal? = some literal) :
    tree = literal.tree := by
  unfold literal? at read
  split at read <;> cases read <;> rfl

theorem Tree.eq_of_argument? {argument : Argument α} (read : tree.argument? = some argument) :
    tree = argument.tree := by
  unfold argument? at read
  split at read
  · obtain ⟨literal, value, same⟩ := Option.bind_eq_some_iff.mp read
    cases same
    rw [eq_of_literal? value, Argument.tree]
  · cases read

theorem Tree.eq_of_attribute? {attr : Attribute α} (read : tree.attribute? = some attr) :
    tree = attr.tree := by
  unfold attribute? at read
  split at read
  · obtain ⟨name, named, rest⟩ := Option.bind_eq_some_iff.mp read
    obtain ⟨types, typed, rest⟩ := Option.bind_eq_some_iff.mp rest
    obtain ⟨arguments, given, same⟩ := Option.bind_eq_some_iff.mp rest
    cases same
    rw [eq_of_identifier? named, eq_map_of_mapM (fun _ _ => eq_of_type?) typed,
      eq_map_of_mapM (fun _ _ => eq_of_argument?) given, Attribute.tree]
  · cases read

theorem Tree.eq_of_parameter? {parameter : Parameter α} (read : tree.parameter? = some parameter) :
    tree = parameter.tree := by
  unfold parameter? at read
  split at read
  · obtain ⟨type, typed, same⟩ := Option.bind_eq_some_iff.mp read
    cases same
    rw [eq_of_type? typed, Parameter.tree]
  · cases read

theorem Tree.eq_of_variant? {variant : Variant α} (read : tree.variant? = some variant) :
    tree = variant.tree := by
  unfold variant? at read
  split at read
  · obtain ⟨name, named, same⟩ := Option.bind_eq_some_iff.mp read
    cases same
    rw [eq_of_identifier? named, Variant.tree]
  · obtain ⟨name, named, rest⟩ := Option.bind_eq_some_iff.mp read
    obtain ⟨parameters, given, same⟩ := Option.bind_eq_some_iff.mp rest
    cases same
    rw [eq_of_identifier? named, eq_map_of_mapM (fun _ _ => eq_of_parameter?) given, Variant.tree]
  · cases read

theorem Tree.eq_of_line? {line : CaseLine α} (read : tree.line? = some line) : tree = line.tree := by
  unfold line? at read
  split at read
  · obtain ⟨attributes, above, rest⟩ := Option.bind_eq_some_iff.mp read
    obtain ⟨variants, named, same⟩ := Option.bind_eq_some_iff.mp rest
    cases same
    rw [eq_map_of_mapM (fun _ _ => eq_of_attribute?) above,
      eq_map_of_mapM (fun _ _ => eq_of_variant?) named, CaseLine.tree]
  · cases read

theorem Tree.eq_of_body? {body : Body α} (read : tree.body? = some body) : tree = body.tree := by
  unfold body? at read
  split at read
  · obtain ⟨lines, inside, same⟩ := Option.bind_eq_some_iff.mp read
    cases same
    rw [eq_map_of_mapM (fun _ _ => eq_of_line?) inside, Body.tree]
  · cases read

end

theorem Tree.declaration?_eq_some_iff {tree : Tree α} {declaration : Declaration α} :
    tree.declaration? = some declaration ↔ tree = declaration.tree := by
  constructor
  · intro read
    unfold Tree.declaration? at read
    split at read
    · obtain ⟨kind, known, rest⟩ := Option.bind_eq_some_iff.mp read
      obtain ⟨name, named, rest⟩ := Option.bind_eq_some_iff.mp rest
      obtain ⟨attributes, above, rest⟩ := Option.bind_eq_some_iff.mp rest
      obtain ⟨body, inside, same⟩ := Option.bind_eq_some_iff.mp rest
      cases same
      rw [eq_of_identifier? named, eq_map_of_mapM (fun _ _ => eq_of_attribute?) above,
        eq_of_body? inside, ← DeclKind.text_of_ofText? known, Declaration.tree]
    · cases read
  · rintro rfl
    exact declaration.declaration?_tree

/-! ### Both replacements -/

/-- No declaration stands below a node. -/
theorem Node.declaration_not_mem_below (node : Node α) (declaration : Declaration α) :
    .declaration declaration ∉ node.below := by
  induction node using Node.induct with
  | step node ih =>
    rw [below_eq, List.mem_flatMap]
    rintro ⟨child, member, inside⟩
    rw [nodes_eq, List.mem_cons] at inside
    rcases inside with rfl | deeper
    · cases node with
      | _ => simp [children] at member
    · exact ih child member deeper

theorem Edited.replaceNode_of_mem (edited : Edited) {old : Node Stamp} {new : Node (Draft Stamp)}
    (fits : ∀ node ∈ edited.root.nodes, node.tag.id = old.tag.id → node.fits new = true)
    (present : ∃ node ∈ edited.root.nodes, node.tag.id = old.tag.id) :
    edited.replaceNode old new =
      .ok (Edited.settle edited.next (edited.root.replace (·.id == old.tag.id) new)) := by
  unfold replaceNode Declaration.replaceNode
  dsimp only
  cases found : edited.root.nodes.find? (·.tag.id == old.tag.id) with
  | none =>
    obtain ⟨node, member, same⟩ := present
    exact absurd same (by simpa using List.find?_eq_none.mp found node member)
  | some node =>
    have member := List.mem_of_find?_eq_some found
    have same : node.tag.id = old.tag.id := by simpa using List.find?_some found
    have suits := fits node member same
    cases node with
    | declaration node =>
      -- only the root is a declaration
      rcases List.mem_cons.mp member with root | below
      · cases root
        cases new with
        | declaration draft =>
          change edited.root.tag.id = old.tag.id at same
          simp only [Declaration.replace, same, beq_self_eq_true]
          rfl
        | _ => cases suits
      · exact absurd below ((Node.declaration edited.root).declaration_not_mem_below node)
    | _ => simp only [suits, if_true]; rfl

/-- As long as the new node can stand where the old one stands, and is another one, replacing within the
declaration comes to the same as replacing in its tree. -/
theorem Edited.exchange_eq (edited : Edited) {old : Node Stamp} {new : Node (Draft Stamp)}
    (fits : ∀ node ∈ edited.root.nodes, node.tag.id = old.tag.id → node.fits new = true)
    (other : new.tree.isKept old.tag.id = false) :
    edited.exchange old new.tree =
      (edited.replaceNode old new).map fun next => (next.root.tree, next.next) := by
  by_cases present : ∃ node ∈ edited.root.nodes, node.tag.id = old.tag.id
  · have found : (Tree.visit old.tag.id new.tree edited.root.tree).found = true := by
      rw [Tree.visit_found_iff, Declaration.ids_tree, ids, List.mem_map]
      exact present
    have replaced : (edited.root.replace (·.id == old.tag.id) new).tree =
        (Tree.visit old.tag.id new.tree edited.root.tree).result edited.root.tree :=
      @Node.tree_replace _ _ other (.declaration edited.root) fits
    have settled := congrFun
      ((edited.root.replace (·.id == old.tag.id) new).tree_renew RawMapping.settle) edited.next
    rw [edited.replaceNode_of_mem fits present, exchange, found, ← replaced]
    exact congrArg Except.ok settled
  · have absent := (edited.exists_stands_iff old).not.mpr present
    have missing : edited.root.nodes.find? (·.tag.id == old.tag.id) = none := by
      rw [List.find?_eq_none]
      exact fun node member same => present ⟨node, member, by simpa using same⟩
    rw [Edited.exchange_of_absent (not_exists.mp absent)]
    simp only [replaceNode, Declaration.replaceNode, missing]
    rfl

theorem Session.replaceNode_eq (session : Session) {root : Declaration Stamp} {old : Node Stamp}
    {new : Node (Draft Stamp)}
    (fits : ∀ node ∈ root.nodes, node.tag.id = old.tag.id → node.fits new = true)
    (other : new.tree.isKept old.tag.id = false) :
    session.replaceNode root old new =
      (Edited.replaceNode ⟨root, session.next⟩ old new).map session.withEdited := by
  rw [replaceNode, Edited.exchange_eq ⟨root, session.next⟩ fits other]
  cases Edited.replaceNode ⟨root, session.next⟩ old new with
  | error error => rfl
  | ok next =>
    simp only [Except.map, ok_bind, Declaration.declaration?_tree]
    rfl

/-- A replacement in a session goes on with exactly the tree that the exchange gives, and only if that is the
tree of a declaration. -/
theorem Session.replaceNode_eq_ok_iff {session next : Session} {root : Declaration Stamp}
    {old : Node Stamp} {new : Node (Draft Stamp)} :
    session.replaceNode root old new = .ok next ↔ ∃ edited : Edited,
      Edited.exchange ⟨root, session.next⟩ old new.tree = .ok (edited.root.tree, edited.next) ∧
        next = session.withEdited edited := by
  rw [replaceNode, bind_eq_ok_iff]
  constructor
  · rintro ⟨⟨tree, last⟩, exchanged, read⟩
    dsimp only at read
    split at read
    · next result found =>
      cases read
      rw [Tree.declaration?_eq_some_iff.mp found] at exchanged
      exact ⟨⟨result, last⟩, exchanged, rfl⟩
    · cases read
  · rintro ⟨edited, exchanged, rfl⟩
    refine ⟨_, exchanged, ?_⟩
    simp only [Declaration.declaration?_tree]
    rfl

/-! ### Fixes -/

theorem Node.isKept_tree (node : Node (Draft Stamp)) (id : Nat) :
    node.tree.isKept id = true ↔ node.tag.keptId? = some id := by
  rw [tree_eq]
  cases node.tag <;> simp [Tree.isKept, Draft.keptId?]

theorem Change.Offered.not_kept {change : Change Stamp} {root : Declaration Stamp}
    (offered : change.Offered root) (distinct : (ids root.nodes).Nodup) :
    change.new.tree.isKept change.old.tag.id = false := by
  rw [← Bool.not_eq_true, Node.isKept_tree]
  intro kept
  have again : change.old.tag.id ∈ keptIds change.new.nodes :=
    List.mem_filterMap.mpr ⟨change.new, change.new.mem_nodes, kept⟩
  have below := offered.reuses.inherits.subset again
  have part : (ids change.old.nodes).Sublist (ids root.nodes) :=
    (Declaration.nodes_sublist offered.member).map _
  have once := part.nodup distinct
  rw [change.old.nodes_eq, ids, List.map_cons, List.nodup_cons] at once
  exact once.1 below

/-- Every fix of a report makes its change as an exchange in the tree of the declaration does. -/
theorem Edited.Coherent.offer_exchanges {edited : Edited} (coherent : edited.Coherent)
    {settings : Settings} {fix : Fix Stamp} (member : fix ∈ offers (edited.root.report settings)) :
    ∃ change next, fix.changes = [change] ∧ fix.apply edited = .ok next ∧
      edited.exchange change.old change.new.tree = .ok (next.root.tree, next.next) := by
  obtain ⟨change, single, offered⟩ := Declaration.exists_offered member
  have fits : ∀ node ∈ edited.root.nodes, node.tag.id = change.old.tag.id →
      node.fits change.new = true := by
    intro node inside same
    rw [eq_of_identity coherent.distinct offered.member inside same]
    exact offered.fits
  have replaced := edited.replaceNode_of_mem fits ⟨change.old, offered.member, rfl⟩
  have exchanged := edited.exchange_eq fits (offered.not_kept coherent.distinct)
  obtain ⟨kind, changes⟩ := fix
  cases single
  rw [replaced] at exchanged
  exact ⟨change, _, rfl, (Fix.apply_single kind change edited).trans replaced, exchanged⟩

end RawMapping
