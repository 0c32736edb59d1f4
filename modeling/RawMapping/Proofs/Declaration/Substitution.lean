import Mathlib.Data.List.Nodup
import RawMapping.Proofs.Declaration.Replacing

/-! Trees node by node. A node stands before the nodes of its children, so what holds of a node once it
holds of its children holds of all nodes. Replacing a node rebuilds the nodes above it, and every node
around these is kept; settling gives new identities to the rebuilt nodes only. -/

set_option autoImplicit false

namespace RawMapping

variable {α β γ δ : Type}

/-! ### Children -/

def Node.children : Node α → List (Node α)
  | .identifier _ | .type _ | .literal _ | .foreign _ _ => []
  | .argument node => [.literal node.value]
  | .attr node =>
    .identifier node.name :: (node.typeArguments.map .type ++ node.arguments.map .argument)
  | .parameter node => [.type node.type]
  | .variant node => .identifier node.name :: (node.parameters.getD []).map .parameter
  | .line node => node.attributes.map .attr ++ node.variants.map .variant
  | .body node => node.lines.map .line
  | .declaration node => .identifier node.name :: (node.attributes.map .attr ++ [.body node.body])

def Node.below (node : Node α) : List (Node α) :=
  node.nodes.tail

theorem Node.nodes_eq (node : Node α) : node.nodes = node :: node.below := by
  cases node <;> rfl

theorem Node.below_eq (node : Node α) : node.below = node.children.flatMap Node.nodes := by
  cases node with
  | identifier | type | literal | argument | parameter | foreign => rfl
  | attr | variant | line | body | declaration =>
    simp only [children, List.flatMap_append, List.flatMap_cons, List.flatMap_map, List.flatMap_nil,
      List.append_nil]
    rfl

theorem Node.mem_nodes (node : Node α) : node ∈ node.nodes := by
  rw [nodes_eq]
  exact List.mem_cons_self

theorem Node.length_lt_of_child {node child : Node α} (member : child ∈ node.children) :
    child.nodes.length < node.nodes.length := by
  obtain ⟨before, after, children⟩ := List.append_of_mem member
  rw [node.nodes_eq, node.below_eq, children]
  simp only [List.flatMap_append, List.flatMap_cons, List.length_append, List.length_cons]
  omega

theorem Node.induct {motive : Node α → Prop}
    (step : ∀ node, (∀ child ∈ node.children, motive child) → motive node) (node : Node α) :
    motive node :=
  step node fun child _ => Node.induct step child
termination_by node.nodes.length
decreasing_by exact Node.length_lt_of_child ‹_›

theorem Node.nodes_sublist {node old : Node α} (member : old ∈ node.nodes) :
    old.nodes.Sublist node.nodes := by
  induction node using Node.induct with
  | step node ih =>
    rw [nodes_eq, List.mem_cons, below_eq, List.mem_flatMap] at member
    rcases member with rfl | ⟨child, isChild, inside⟩
    · exact .refl _
    · obtain ⟨before, after, children⟩ := List.append_of_mem isChild
      rw [nodes_eq node, below_eq, children, List.flatMap_append, List.flatMap_cons]
      refine ((ih child isChild inside).trans ?_).cons _
      exact (List.sublist_append_left _ _).trans (List.sublist_append_right _ _)

theorem Declaration.nodes_sublist {root : Declaration α} {old : Node α} (member : old ∈ root.nodes) :
    old.nodes.Sublist root.nodes := by
  have inside : old ∈ (Node.declaration root).nodes := member
  exact Node.nodes_sublist inside

theorem Node.children_map (f : α → β) (node : Node α) :
    (node.map f).children = node.children.map (Node.map f) := by
  cases node with
  | identifier | type | literal | argument | parameter | foreign => rfl
  | variant node =>
    obtain ⟨name, parameters, tag⟩ := node
    cases parameters with
    | none => rfl
    | some parameters =>
      simp only [children, map, Variant.map, Option.map_some, Option.getD_some, List.map_cons,
        List.map_map]
      rfl
  | attr | line | body | declaration =>
    simp only [children, map, Attribute.map, CaseLine.map, Body.map, Declaration.map, List.map_append,
      List.map_cons, List.map_nil, List.map_map]
    rfl

theorem Node.nodes_map (f : α → β) (node : Node α) :
    (node.map f).nodes = node.nodes.map (Node.map f) := by
  induction node using Node.induct with
  | step node ih =>
    rw [nodes_eq, nodes_eq, below_eq, below_eq, children_map, List.map_cons, List.map_flatMap,
      List.flatMap_map]
    exact congrArg _ (List.flatMap_congr ih)

/-! ### Replacing -/

def Node.replace (target : α → Bool) (node : Node α) (new : Node (Draft α)) : Node (Draft α) :=
  match node with
  | .identifier node => .identifier (node.replace target new)
  | .type node => .type (node.replace target new)
  | .literal node => .literal (node.replace target new)
  | .argument node => .argument (node.replace target new)
  | .attr node => .attr (node.replace target new)
  | .parameter node => .parameter (node.replace target new)
  | .variant node => .variant (node.replace target new)
  | .line node => .line (node.replace target new)
  | .body node => .body (node.replace target new)
  | .declaration node => .declaration (node.replace target new)
  | .foreign kind tag => .foreign kind (.kept tag)

section

variable {target : α → Bool} {new : Node (Draft α)} {node : Node α}

theorem Node.replace_of_target (hit : target node.tag = true) (fits : node.fits new = true) :
    node.replace target new = new := by
  unfold Node.fits at fits
  split at fits
  case h_11 => cases fits
  all_goals
    next place other =>
    change target place.tag = true at hit
    simp [replace, Identifier.replace, NamedType.replace, Literal.replace, Argument.replace,
      Attribute.replace, Parameter.replace, Variant.replace, CaseLine.replace, Body.replace,
      Declaration.replace, hit]

theorem Node.children_replace (other : target node.tag = false) :
    (node.replace target new).children = node.children.map (Node.replace target · new) := by
  cases node with
  | identifier | type | literal | foreign => rfl
  | argument node | parameter node =>
    change target node.tag = false at other
    simp only [children, replace, Argument.replace, Parameter.replace, other, List.map_cons,
      List.map_nil]
  | variant node =>
    change target node.tag = false at other
    obtain ⟨name, parameters, tag⟩ := node
    cases parameters with
    | none => simp only [children, replace, Variant.replace, other]; rfl
    | some parameters =>
      simp only [children, replace, Variant.replace, other, Option.map_some, Option.getD_some,
        List.map_cons, List.map_map]
      rfl
  | attr node | line node | body node | declaration node =>
    change target node.tag = false at other
    simp only [children, replace, Attribute.replace, CaseLine.replace, Body.replace,
      Declaration.replace, other, List.map_append, List.map_cons, List.map_nil, List.map_map]
    rfl

theorem rebuilt_of_mem {nodes : List (Node α)} {old : Node α} (member : old ∈ nodes)
    (hit : target old.tag = true) (tag : α) : rebuilt target nodes tag = .copied tag := by
  have some : nodes.any (target ·.tag) = true := List.any_eq_true.mpr ⟨old, member, hit⟩
  rw [rebuilt, if_pos some]

theorem Node.tag_replace {old : Node α} (other : target node.tag = false)
    (member : old ∈ node.below) (hit : target old.tag = true) :
    (node.replace target new).tag = .copied node.tag := by
  cases node with
  | identifier | type | literal | foreign => cases member
  | argument node | attr node | parameter node | variant node | line node | body node
    | declaration node =>
    change old ∈ node.below at member
    change target node.tag = false at other
    simp only [replace, Argument.replace, Attribute.replace, Parameter.replace, Variant.replace,
      CaseLine.replace, Body.replace, Declaration.replace, other]
    exact rebuilt_of_mem member hit _

theorem Body.replace_of_absent {body : Body α} (absent : Absent target body.nodes) :
    body.replace target new = body.map .kept := by
  obtain ⟨here, below⟩ := absent_cons.mp absent
  change target body.tag = false at here
  have lines := absent_flatMap.mp below
  simp only [replace, here, map, Body.mk.injEq]
  refine ⟨?_, rebuilt_of_absent below _⟩
  exact List.map_congr_left fun line member => CaseLine.replace_of_absent (lines line member)

theorem Declaration.replace_of_absent {declaration : Declaration α}
    (absent : Absent target declaration.nodes) :
    declaration.replace target new = declaration.map .kept := by
  obtain ⟨here, below⟩ := absent_cons.mp absent
  change target declaration.tag = false at here
  obtain ⟨front, body⟩ := absent_append.mp below
  obtain ⟨name, attributes⟩ := absent_append.mp front
  rw [absent_flatMap] at attributes
  simp only [replace, here, map, Declaration.mk.injEq]
  refine ⟨trivial, Identifier.replace_of_absent name, ?_, Body.replace_of_absent body,
    rebuilt_of_absent below _⟩
  exact List.map_congr_left fun attr member => Attribute.replace_of_absent (attributes attr member)

theorem Node.replace_of_absent (absent : Absent target node.nodes) :
    node.replace target new = node.map .kept := by
  cases node with
  | identifier => exact congrArg Node.identifier (Identifier.replace_of_absent absent)
  | type => exact congrArg Node.type (NamedType.replace_of_absent absent)
  | literal => exact congrArg Node.literal (Literal.replace_of_absent absent)
  | argument => exact congrArg Node.argument (Argument.replace_of_absent absent)
  | attr => exact congrArg Node.attr (Attribute.replace_of_absent absent)
  | parameter => exact congrArg Node.parameter (Parameter.replace_of_absent absent)
  | variant => exact congrArg Node.variant (Variant.replace_of_absent absent)
  | line => exact congrArg Node.line (CaseLine.replace_of_absent absent)
  | body => exact congrArg Node.body (Body.replace_of_absent absent)
  | declaration => exact congrArg Node.declaration (Declaration.replace_of_absent absent)
  | foreign => rfl

end

def Rebuilt (old node : Node Stamp) (draft : Node (Draft Stamp)) : Prop :=
  draft = node.map .kept ∨ (old ∈ node.below ∧ draft.tag = .copied node.tag)

/-- The tree of the old node gave way to that of the new one. What stands behind it is kept, and so is
what stands before it, but for the nodes above. -/
def Substituted (old : Node Stamp) (new : Node (Draft Stamp)) (nodes : List (Node Stamp))
    (drafts : List (Node (Draft Stamp))) : Prop :=
  ∃ front back ahead, nodes = front ++ (old.nodes ++ back) ∧
    drafts = ahead ++ (new.nodes ++ back.map (Node.map .kept)) ∧
    List.Forall₂ (Rebuilt old) front ahead

theorem forall₂_rebuilt_kept (old : Node Stamp) (nodes : List (Node Stamp)) :
    List.Forall₂ (Rebuilt old) nodes (nodes.map (Node.map .kept)) := by
  rw [List.forall₂_map_right_iff, List.forall₂_same]
  intro node _
  exact .inl rfl

theorem flatMap_replace_of_absent {target : α → Bool} {new : Node (Draft α)} {nodes : List (Node α)}
    (absent : Absent target (nodes.flatMap Node.nodes)) :
    (nodes.map (Node.replace target · new)).flatMap Node.nodes =
      (nodes.flatMap Node.nodes).map (Node.map .kept) := by
  rw [List.flatMap_map, List.map_flatMap]
  refine List.flatMap_congr fun node member => ?_
  rw [Node.replace_of_absent (absent_flatMap.mp absent node member), Node.nodes_map]

theorem Node.substituted {node old : Node Stamp} {new : Node (Draft Stamp)}
    (distinct : (ids node.nodes).Nodup) (member : old ∈ node.nodes) (fits : old.fits new = true) :
    Substituted old new node.nodes (node.replace (·.id == old.tag.id) new).nodes := by
  induction node using Node.induct with
  | step node ih =>
    by_cases here : node.tag.id = old.tag.id
    · obtain rfl := eq_of_identity distinct member node.mem_nodes here
      rw [replace_of_target (by simp) fits]
      exact ⟨[], [], [], by simp, by simp, .nil⟩
    · -- the old node is below exactly one child
      have other : (node.tag.id == old.tag.id) = false := by simpa using here
      have inside : old ∈ node.below := by
        rw [nodes_eq, List.mem_cons] at member
        exact member.resolve_left fun same => here (by rw [same])
      obtain ⟨child, isChild, under⟩ := List.mem_flatMap.mp (node.below_eq ▸ inside)
      obtain ⟨before, after, children⟩ := List.append_of_mem isChild
      have split : node.nodes = (node :: before.flatMap Node.nodes) ++
          (child.nodes ++ after.flatMap Node.nodes) := by
        simp [nodes_eq node, below_eq, children]
      rw [split] at distinct ⊢
      obtain ⟨earlier, later⟩ := absent_around distinct (List.mem_map_of_mem under)
      have within : (ids child.nodes).Nodup := by
        rw [ids_append, ids_append, List.nodup_append, List.nodup_append] at distinct
        exact distinct.2.1.1
      obtain ⟨front, back, ahead, childNodes, drafts, rebuilt⟩ := ih child isChild within under
      have top : Rebuilt old node (node.replace (·.id == old.tag.id) new) :=
        .inr ⟨inside, tag_replace other inside (by simp)⟩
      refine ⟨node :: before.flatMap Node.nodes ++ front, back ++ after.flatMap Node.nodes,
        node.replace (·.id == old.tag.id) new :: (before.flatMap Node.nodes).map (Node.map .kept) ++ ahead,
        ?_, ?_, ?_⟩
      · simp [childNodes]
      · rw [nodes_eq (node.replace _ new), below_eq, children_replace other, children, List.map_append,
          List.map_cons, List.flatMap_append, List.flatMap_cons,
          flatMap_replace_of_absent (absent_cons.mp earlier).2, flatMap_replace_of_absent later, drafts]
        simp
      · exact List.rel_append (.cons top (forall₂_rebuilt_kept old _)) rebuilt

theorem Declaration.substituted {root : Declaration Stamp} {old : Node Stamp} {new : Node (Draft Stamp)}
    (distinct : (ids root.nodes).Nodup) (member : old ∈ root.nodes) (fits : old.fits new = true) :
    Substituted old new root.nodes (root.replace (·.id == old.tag.id) new).nodes := by
  have whole : (ids (Node.declaration root).nodes).Nodup := distinct
  exact Node.substituted whole member fits

/-! ### Settling what is kept -/

theorem pure_next {γ : Type} (value : γ) (next : Nat) : (pure value : StateM Nat γ) next = (value, next) :=
  rfl

theorem mapM_kept_of_mem {γ δ : Type} {renew : δ → StateM Nat γ} {keep : γ → δ} {items : List γ}
    (each : ∀ item ∈ items, ∀ next, renew (keep item) next = (item, next)) (next : Nat) :
    (items.map keep).mapM renew next = (items, next) := by
  induction items with
  | nil => rfl
  | cons item items ih =>
    obtain ⟨here, later⟩ := List.forall_mem_cons.mp each
    rw [List.map_cons, List.mapM_cons]
    simp only [bind, StateT.bind, here, ih later]
    rfl

theorem mapM_kept {γ δ : Type} {renew : δ → StateM Nat γ} {keep : γ → δ}
    (each : ∀ item next, renew (keep item) next = (item, next)) (items : List γ) (next : Nat) :
    (items.map keep).mapM renew next = (items, next) :=
  mapM_kept_of_mem (fun item _ => each item) next

theorem Identifier.settle_kept (identifier : Identifier Stamp) (next : Nat) :
    (identifier.map .kept).renew settle next = (identifier, next) := rfl

theorem NamedType.settle_kept (type : NamedType Stamp) (next : Nat) :
    (type.map .kept).renew settle next = (type, next) := rfl

theorem Literal.settle_kept (literal : Literal Stamp) (next : Nat) :
    (literal.map .kept).renew settle next = (literal, next) := by
  cases literal <;> rfl

theorem Argument.settle_kept (argument : Argument Stamp) (next : Nat) :
    (argument.map .kept).renew settle next = (argument, next) := by
  obtain ⟨label, value, tag⟩ := argument
  cases value <;> rfl

theorem Attribute.settle_kept (attr : Attribute Stamp) (next : Nat) :
    (attr.map .kept).renew settle next = (attr, next) := by
  have types := mapM_kept NamedType.settle_kept attr.typeArguments next
  have arguments := mapM_kept Argument.settle_kept attr.arguments next
  simp only [renew, map, Identifier.renew, Identifier.map, settle, bind, StateT.bind, pure_next,
    types, arguments]

theorem Parameter.settle_kept (parameter : Parameter Stamp) (next : Nat) :
    (parameter.map .kept).renew settle next = (parameter, next) := rfl

theorem Variant.settle_kept (variant : Variant Stamp) (next : Nat) :
    (variant.map .kept).renew settle next = (variant, next) := by
  obtain ⟨name, parameters, tag⟩ := variant
  cases parameters with
  | none => rfl
  | some parameters =>
    have same := mapM_kept Parameter.settle_kept parameters next
    simp only [renew, map, Identifier.renew, Identifier.map, settle, bind, StateT.bind, pure_next,
      Option.map_some, same]

theorem CaseLine.settle_kept (line : CaseLine Stamp) (next : Nat) :
    (line.map .kept).renew settle next = (line, next) := by
  have attributes := mapM_kept Attribute.settle_kept line.attributes next
  have variants := mapM_kept Variant.settle_kept line.variants next
  simp only [renew, map, settle, bind, StateT.bind, pure_next, attributes, variants]

theorem Body.settle_kept (body : Body Stamp) (next : Nat) :
    (body.map .kept).renew settle next = (body, next) := by
  have lines := mapM_kept CaseLine.settle_kept body.lines next
  simp only [renew, map, settle, bind, StateT.bind, pure_next, lines]

theorem Declaration.settle_kept (declaration : Declaration Stamp) (next : Nat) :
    (declaration.map .kept).renew settle next = (declaration, next) := by
  have attributes := mapM_kept Attribute.settle_kept declaration.attributes next
  have body := declaration.body.settle_kept next
  simp only [renew, map, Identifier.renew, Identifier.map, settle, bind, StateT.bind, pure_next,
    attributes, body]

theorem Node.settle_kept (node : Node Stamp) (next : Nat) :
    (node.map .kept).renew settle next = (node, next) := by
  cases node with
  | identifier | type | parameter | foreign => rfl
  | literal node | argument node | attr node | variant node | line node | body node
    | declaration node =>
    simp only [map, renew, bind, StateT.bind, node.settle_kept next]
    rfl

/-! ### Settling node by node -/

theorem Node.renewed (f : α → StateM Nat β) (node : Node α) (next : Nat) :
    Renewed f next (node.nodes.map Node.tag) ((node.renew f next).1.nodes.map Node.tag)
      (node.renew f next).2 := by
  cases node with
  | identifier node | type node | literal node | argument node | attr node | parameter node
    | variant node | line node | body node | declaration node => exact node.renewed f next
  | foreign kind tag => exact .cons f tag next (.nil f _)

theorem Renewed.wrap {f : α → StateM Nat β} {renew : γ → StateM Nat δ} {wrap : γ → Node α}
    {wrapNew : δ → Node β}
    (each : ∀ item next, (wrap item).renew f next = (wrapNew (renew item next).1, (renew item next).2))
    (items : List γ) (next : Nat) :
    Renewed (Node.renew f) next (items.map wrap) ((items.mapM renew next).1.map wrapNew)
      (items.mapM renew next).2 := by
  have single (item : γ) (next : Nat) : Renewed (Node.renew f) next [wrap item]
      [wrapNew (renew item next).1] (renew item next).2 := by
    have head := Renewed.cons (Node.renew f) (wrap item) next (.nil _ _)
    rwa [each] at head
  rw [List.map_eq_flatMap, List.map_eq_flatMap]
  exact .flatMap single items next

theorem Node.renewed_children (f : α → StateM Nat β) (node : Node α) (next : Nat) :
    Renewed (Node.renew f) (f node.tag next).2 node.children (node.renew f next).1.children
      (node.renew f next).2 := by
  cases node with
  | identifier | type | foreign => exact .nil _ _
  | literal node => cases node <;> exact .nil _ _
  | argument node => exact .cons (Node.renew f) (.literal node.value) _ (.nil _ _)
  | parameter node => exact .cons (Node.renew f) (.type node.type) _ (.nil _ _)
  | attr node =>
    refine .cons (Node.renew f) (.identifier node.name) _ (.append (.wrap ?_ _ _) (.wrap ?_ _ _))
    · exact fun _ _ => rfl
    · exact fun _ _ => rfl
  | variant node =>
    obtain ⟨name, parameters, tag⟩ := node
    cases parameters with
    | none => exact .cons (Node.renew f) (.identifier name) _ (.nil _ _)
    | some parameters =>
      exact .cons (Node.renew f) (.identifier name) _ (.wrap (fun _ _ => rfl) parameters _)
  | line node =>
    exact .append (.wrap (fun _ _ => rfl) _ _) (.wrap (fun _ _ => rfl) _ _)
  | body node => exact .wrap (fun _ _ => rfl) _ _
  | declaration node =>
    exact .cons (Node.renew f) (.identifier node.name) _ (.append (.wrap (fun _ _ => rfl) _ _)
      (.cons (Node.renew f) (.body node.body) _ (.nil _ _)))

/-- The node is what a draft is settled to, with identities from `next` on or from later on. -/
def Settles (next : Nat) (draft : Node (Draft Stamp)) (node : Node Stamp) : Prop :=
  ∃ later, next ≤ later ∧ node = (draft.renew settle later).1

theorem Node.settle_grows (draft : Node (Draft Stamp)) (next : Nat) :
    next ≤ (draft.renew settle next).2 :=
  (draft.renewed settle next).settled.1

theorem Settles.mono {next later : Nat} {draft : Node (Draft Stamp)} {node : Node Stamp}
    (settles : Settles later draft node) (grows : next ≤ later) : Settles next draft node := by
  obtain ⟨last, bound, settled⟩ := settles
  exact ⟨last, Nat.le_trans grows bound, settled⟩

theorem Settles.eq_of_kept {next : Nat} {old node : Node Stamp} (settles : Settles next (old.map .kept) node) :
    node = old := by
  obtain ⟨later, -, rfl⟩ := settles
  rw [old.settle_kept]

theorem Node.tag_renew (f : α → StateM Nat β) (node : Node α) (next : Nat) :
    (node.renew f next).1.tag = (f node.tag next).1 := by
  have tags := node.renewed f next
  rw [nodes_eq, nodes_eq (node.renew f next).1, List.map_cons, List.map_cons] at tags
  obtain ⟨rest, same, -⟩ := tags.of_cons
  exact (List.cons.inj same).1

theorem Settles.fresh {next : Nat} {draft : Node (Draft Stamp)} {node : Node Stamp}
    (settles : Settles next draft node) (new : draft.tag.keptId? = none) : next ≤ node.tag.id := by
  obtain ⟨later, bound, rfl⟩ := settles
  rw [draft.tag_renew, settle_new new]
  exact bound

theorem Renewed.forall₂_settles {items : List (Node (Draft Stamp))} {settled : List (Node Stamp)}
    {next last : Nat} (renewed : Renewed (Node.renew settle) next items settled last)
    (each : ∀ item ∈ items, ∀ next,
      List.Forall₂ (Settles next) item.nodes (item.renew settle next).1.nodes) :
    List.Forall₂ (Settles next) (items.flatMap Node.nodes) (settled.flatMap Node.nodes) := by
  induction items generalizing next settled with
  | nil =>
    cases renewed
    exact .nil
  | cons item items ih =>
    obtain ⟨rest, rfl, others⟩ := renewed.of_cons
    rw [List.forall_mem_cons] at each
    rw [List.flatMap_cons, List.flatMap_cons]
    refine List.rel_append (each.1 next) ((ih others each.2).imp fun _ _ settles => ?_)
    exact settles.mono (item.settle_grows next)

theorem Node.forall₂_settles (draft : Node (Draft Stamp)) (next : Nat) :
    List.Forall₂ (Settles next) draft.nodes (draft.renew settle next).1.nodes := by
  induction draft using Node.induct generalizing next with
  | step draft ih =>
    have start : next ≤ (settle draft.tag next).2 :=
      (Renewed.cons settle draft.tag next (.nil _ _)).settled.1
    rw [nodes_eq, nodes_eq (draft.renew settle next).1, below_eq, below_eq]
    refine .cons ⟨next, Nat.le_refl next, rfl⟩ ?_
    refine ((draft.renewed_children settle next).forall₂_settles ih).imp fun _ _ settles => ?_
    exact settles.mono start

/-! ### Putting a settled tree in place -/

/-- The tree of the old node gave way to a given one. All around it are the same nodes as before, but for
those above the old node, which are new ones. -/
def Replanted (old tree : Node Stamp) (next : Nat) (nodes result : List (Node Stamp)) : Prop :=
  ∃ front back ahead, nodes = front ++ (old.nodes ++ back) ∧ result = ahead ++ (tree.nodes ++ back) ∧
    List.Forall₂ (fun node copy => copy = node ∨ (old ∈ node.below ∧ next ≤ copy.tag.id)) front ahead

/-- The same for a tree that is settled as it is put in place. -/
def Grafted (old : Node Stamp) (new : Node (Draft Stamp)) (next : Nat)
    (nodes result : List (Node Stamp)) : Prop :=
  ∃ front back ahead planted, nodes = front ++ (old.nodes ++ back) ∧
    result = ahead ++ (planted ++ back) ∧ List.Forall₂ (Settles next) new.nodes planted ∧
    List.Forall₂ (fun node copy => copy = node ∨ (old ∈ node.below ∧ next ≤ copy.tag.id)) front ahead

theorem exists_of_forall₂_mem {R : α → β → Prop} {first : List α} {second : List β}
    (related : List.Forall₂ R first second) {item : β} (member : item ∈ second) :
    ∃ other ∈ first, R other item := by
  induction related with
  | nil => cases member
  | cons head _ ih =>
    rcases List.mem_cons.mp member with rfl | later
    · exact ⟨_, List.mem_cons_self, head⟩
    · obtain ⟨other, inside, holds⟩ := ih later
      exact ⟨other, List.mem_cons_of_mem _ inside, holds⟩

theorem eq_of_forall₂_settles {next : Nat} {kept nodes : List (Node Stamp)}
    (settled : List.Forall₂ (Settles next) (kept.map (Node.map .kept)) nodes) : nodes = kept := by
  rw [List.forall₂_map_left_iff] at settled
  induction settled with
  | nil => rfl
  | cons settles _ ih => rw [settles.eq_of_kept, ih]

theorem exists_of_forall₂_append {R : α → β → Prop} {first second : List α} {all : List β}
    (related : List.Forall₂ R (first ++ second) all) :
    ∃ left right, all = left ++ right ∧ List.Forall₂ R first left ∧ List.Forall₂ R second right := by
  have front := List.forall₂_take first.length related
  have back := List.forall₂_drop first.length related
  rw [List.take_left] at front
  rw [List.drop_left] at back
  exact ⟨_, _, (List.take_append_drop _ _).symm, front, back⟩

theorem forall₂_settles_rebuilt {old : Node Stamp} {next : Nat} {front result : List (Node Stamp)}
    {ahead : List (Node (Draft Stamp))} (rebuilt : List.Forall₂ (Rebuilt old) front ahead)
    (settled : List.Forall₂ (Settles next) ahead result) :
    List.Forall₂ (fun node copy => copy = node ∨ (old ∈ node.below ∧ next ≤ copy.tag.id)) front
      result := by
  induction rebuilt generalizing result with
  | nil =>
    cases settled
    exact .nil
  | cons first _ ih =>
    cases settled with
    | cons settles others =>
      refine .cons ?_ (ih others)
      rcases first with rfl | ⟨above, copied⟩
      · exact .inl settles.eq_of_kept
      · exact .inr ⟨above, settles.fresh (by rw [copied]; rfl)⟩

theorem Edited.grafted {edited : Edited} {old : Node Stamp} {new : Node (Draft Stamp)}
    (distinct : (ids edited.root.nodes).Nodup) (member : old ∈ edited.root.nodes)
    (fits : old.fits new = true) :
    Grafted old new edited.next edited.root.nodes
      (Edited.settle edited.next (edited.root.replace (·.id == old.tag.id) new)).root.nodes := by
  have settled : List.Forall₂ (Settles edited.next)
      (edited.root.replace (·.id == old.tag.id) new).nodes
      (Edited.settle edited.next (edited.root.replace (·.id == old.tag.id) new)).root.nodes :=
    Node.forall₂_settles (.declaration _) edited.next
  obtain ⟨front, back, ahead, before, drafts, rebuilt⟩ :=
    Declaration.substituted distinct member fits
  rw [drafts] at settled
  obtain ⟨first, rest, result, rebuiltSettled, others⟩ := exists_of_forall₂_append settled
  obtain ⟨planted, last, rfl, planting, kept⟩ := exists_of_forall₂_append others
  -- what is behind the tree is kept and comes out of the settling as it is
  rw [eq_of_forall₂_settles kept] at result
  exact ⟨front, back, first, planted, before, result, planting,
    forall₂_settles_rebuilt rebuilt rebuiltSettled⟩

theorem Edited.replanted {edited : Edited} {old tree : Node Stamp}
    (distinct : (ids edited.root.nodes).Nodup) (member : old ∈ edited.root.nodes)
    (fits : old.fits (tree.map Draft.kept) = true) :
    Replanted old tree edited.next edited.root.nodes (Edited.settle edited.next
      (edited.root.replace (·.id == old.tag.id) (tree.map .kept))).root.nodes := by
  obtain ⟨front, back, ahead, planted, before, result, planting, rebuilt⟩ :=
    Edited.grafted distinct member fits
  rw [Node.nodes_map] at planting
  rw [eq_of_forall₂_settles planting] at result
  exact ⟨front, back, ahead, before, result, rebuilt⟩

theorem keptIds_sublist_of_rebuilt {old : Node Stamp} {front : List (Node Stamp)}
    {ahead : List (Node (Draft Stamp))} (rebuilt : List.Forall₂ (Rebuilt old) front ahead) :
    (keptIds ahead).Sublist (ids front) := by
  unfold keptIds ids
  induction rebuilt with
  | nil => exact .refl _
  | cons first _ ih =>
    rcases first with rfl | ⟨-, copied⟩
    · rw [List.filterMap_cons_some (by rw [Node.tag_map]; rfl), List.map_cons]
      exact ih.cons_cons _
    · rw [List.filterMap_cons_none (by rw [copied]; rfl)]
      exact ih.cons _

/-- A tree that has no identity of a node around the old one can take its place. -/
theorem Edited.Coherent.replant {edited : Edited} (coherent : edited.Coherent) {old tree : Node Stamp}
    (member : old ∈ edited.root.nodes) (fits : old.fits (tree.map Draft.kept) = true)
    (distinct : (ids tree.nodes).Nodup) (below : ∀ id ∈ ids tree.nodes, id < edited.next)
    (apart : ∀ id ∈ ids tree.nodes, id ∈ ids edited.root.nodes → id ∈ ids old.nodes) :
    (Edited.settle edited.next
      (edited.root.replace (·.id == old.tag.id) (tree.map .kept))).Coherent := by
  obtain ⟨front, back, ahead, before, drafts, rebuilt⟩ :=
    Declaration.substituted coherent.distinct member fits
  have kept : (keptIds (edited.root.replace (·.id == old.tag.id) (tree.map .kept)).nodes).Sublist
      (ids front ++ (ids tree.nodes ++ ids back)) := by
    rw [drafts, Node.nodes_map, keptIds_append, keptIds_append, keptIds_kept, keptIds_kept]
    exact (keptIds_sublist_of_rebuilt rebuilt).append (.refl _)
  have around := coherent.distinct
  have used := coherent.below
  rw [before, ids_append, ids_append] at around used apart
  rw [List.nodup_append, List.nodup_append] at around
  obtain ⟨frontDistinct, ⟨-, backDistinct, behind⟩, ahead⟩ := around
  have treeFront : ∀ id ∈ ids tree.nodes, id ∉ ids front := by
    intro id inside also
    have under := apart id inside (List.mem_append_left _ also)
    exact ahead id also id (List.mem_append_left _ under) rfl
  have treeBack : ∀ id ∈ ids tree.nodes, id ∉ ids back := by
    intro id inside also
    have under := apart id inside (List.mem_append_right _ (List.mem_append_right _ also))
    exact behind id under id also rfl
  -- the copies above the old node get new identities, so what is kept is at most front, tree and back
  refine Edited.coherent_settle (.sublist kept ?_) fun id inside => ?_
  · refine .append frontDistinct (.append distinct backDistinct fun id => treeBack id) ?_
    intro id inside also
    rcases List.mem_append.mp also with again | again
    · exact treeFront id again inside
    · exact ahead id inside id (List.mem_append_right _ again) rfl
  · simp only [List.mem_append] at used
    rcases List.mem_append.mp (kept.subset inside) with first | rest
    · exact used id (.inl first)
    · rcases List.mem_append.mp rest with new | last
      · exact below id new
      · exact used id (.inr (.inr last))

end RawMapping
