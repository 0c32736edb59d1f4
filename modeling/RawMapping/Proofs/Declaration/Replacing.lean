import Mathlib.Data.List.Flatten
import RawMapping.Declaration.Replace
import RawMapping.Proofs.Declaration.Identity

/-! Replacing one node by another. Trees without the node are kept as they are. A replacement keeps no
identity that was not in the tree before, and none twice, so a coherent declaration stays coherent. -/

set_option autoImplicit false

namespace RawMapping

variable {α β γ δ : Type}

/-! ### Trees without the node -/

def Absent (target : α → Bool) (nodes : List (Node α)) : Prop :=
  ∀ node ∈ nodes, target node.tag = false

section

variable {target : α → Bool} {new : Node (Draft α)}

theorem absent_cons {node : Node α} {nodes : List (Node α)} :
    Absent target (node :: nodes) ↔ target node.tag = false ∧ Absent target nodes :=
  List.forall_mem_cons

theorem absent_append {first second : List (Node α)} :
    Absent target (first ++ second) ↔ Absent target first ∧ Absent target second :=
  List.forall_mem_append

theorem absent_flatMap {items : List β} {nodes : β → List (Node α)} :
    Absent target (items.flatMap nodes) ↔ ∀ item ∈ items, Absent target (nodes item) :=
  List.forall_mem_flatMap

theorem rebuilt_of_absent {below : List (Node α)} (absent : Absent target below) (tag : α) :
    rebuilt target below tag = .kept tag := by
  have none : below.any (target ·.tag) = false := by
    rw [List.any_eq_false]
    intro node member
    simp [absent node member]
  simp [rebuilt, none]

theorem Identifier.replace_of_absent {identifier : Identifier α}
    (absent : Absent target identifier.nodes) :
    identifier.replace target new = identifier.map .kept := by
  have here : target identifier.tag = false := (absent_cons.mp absent).1
  simp [replace, here]

theorem NamedType.replace_of_absent {type : NamedType α} (absent : Absent target type.nodes) :
    type.replace target new = type.map .kept := by
  have here : target type.tag = false := (absent_cons.mp absent).1
  simp [replace, here]

theorem Literal.replace_of_absent {literal : Literal α} (absent : Absent target literal.nodes) :
    literal.replace target new = literal.map .kept := by
  have here : target literal.tag = false := (absent_cons.mp absent).1
  simp [replace, here]

theorem Argument.replace_of_absent {argument : Argument α} (absent : Absent target argument.nodes) :
    argument.replace target new = argument.map .kept := by
  obtain ⟨here, below⟩ := absent_cons.mp absent
  change target argument.tag = false at here
  simp only [replace, here, map, rebuilt_of_absent below, Literal.replace_of_absent below]

theorem Attribute.replace_of_absent {attr : Attribute α} (absent : Absent target attr.nodes) :
    attr.replace target new = attr.map .kept := by
  obtain ⟨here, below⟩ := absent_cons.mp absent
  change target attr.tag = false at here
  obtain ⟨front, arguments⟩ := absent_append.mp below
  obtain ⟨name, types⟩ := absent_append.mp front
  rw [absent_flatMap] at types arguments
  simp only [replace, here, map, Attribute.mk.injEq]
  refine ⟨Identifier.replace_of_absent name, ?_, ?_, rebuilt_of_absent below _⟩
  · exact List.map_congr_left fun type member => NamedType.replace_of_absent (types type member)
  · exact List.map_congr_left fun argument member =>
      Argument.replace_of_absent (arguments argument member)

theorem Parameter.replace_of_absent {parameter : Parameter α}
    (absent : Absent target parameter.nodes) :
    parameter.replace target new = parameter.map .kept := by
  obtain ⟨here, below⟩ := absent_cons.mp absent
  change target parameter.tag = false at here
  simp only [replace, here, map, rebuilt_of_absent below, NamedType.replace_of_absent below]

theorem Variant.replace_of_absent {variant : Variant α} (absent : Absent target variant.nodes) :
    variant.replace target new = variant.map .kept := by
  obtain ⟨here, below⟩ := absent_cons.mp absent
  change target variant.tag = false at here
  obtain ⟨name, parameters⟩ := absent_append.mp below
  rw [absent_flatMap] at parameters
  simp only [replace, here, map, Variant.mk.injEq]
  refine ⟨Identifier.replace_of_absent name, ?_, rebuilt_of_absent below _⟩
  cases given : variant.parameters with
  | none => rfl
  | some list =>
    rw [given] at parameters
    exact congrArg some <| List.map_congr_left fun parameter member =>
      Parameter.replace_of_absent (parameters parameter member)

theorem CaseLine.replace_of_absent {line : CaseLine α} (absent : Absent target line.nodes) :
    line.replace target new = line.map .kept := by
  obtain ⟨here, below⟩ := absent_cons.mp absent
  change target line.tag = false at here
  obtain ⟨attributes, variants⟩ := absent_append.mp below
  rw [absent_flatMap] at attributes variants
  simp only [replace, here, map, CaseLine.mk.injEq]
  refine ⟨?_, ?_, rebuilt_of_absent below _⟩
  · exact List.map_congr_left fun attr member => Attribute.replace_of_absent (attributes attr member)
  · exact List.map_congr_left fun variant member => Variant.replace_of_absent (variants variant member)

end

/-! ### Identities that a replacement keeps -/

theorem keptIds_append (first second : List (Node (Draft Stamp))) :
    keptIds (first ++ second) = keptIds first ++ keptIds second :=
  List.filterMap_append

theorem ids_append (first second : List (Node Stamp)) : ids (first ++ second) = ids first ++ ids second :=
  List.map_append

/-- A new tree takes over the identities of some of the old nodes, each at most once. -/
def Inherits (new : List (Node (Draft Stamp))) (old : List (Node Stamp)) : Prop :=
  (keptIds new).Subperm (ids old)

theorem Inherits.append {new more : List (Node (Draft Stamp))} {old rest : List (Node Stamp)}
    (first : Inherits new old) (second : Inherits more rest) : Inherits (new ++ more) (old ++ rest) := by
  unfold Inherits at *
  rw [keptIds_append, ids_append]
  exact first.append second

theorem Inherits.flatMap {new : β → List (Node (Draft Stamp))} {old : β → List (Node Stamp)}
    {items : List β} (each : ∀ item ∈ items, Inherits (new item) (old item)) :
    Inherits (items.flatMap new) (items.flatMap old) := by
  induction items with
  | nil => exact List.Subperm.refl _
  | cons item items ih =>
    rw [List.forall_mem_cons] at each
    exact each.1.append (ih each.2)

/-- A node whose tag is kept or copied, above trees that are inherited. -/
theorem Inherits.above {new : Node (Draft Stamp)} {old : Node Stamp} {newBelow : List (Node (Draft Stamp))}
    {oldBelow : List (Node Stamp)} (tag : new.tag = .kept old.tag ∨ new.tag = .copied old.tag)
    (below : Inherits newBelow oldBelow) : Inherits (new :: newBelow) (old :: oldBelow) := by
  unfold Inherits keptIds ids at *
  rcases tag with kept | copied
  · rw [List.filterMap_cons_some (by rw [kept]; rfl)]
    exact (List.subperm_cons _).mpr below
  · rw [List.filterMap_cons_none (by rw [copied]; rfl)]
    exact below.cons_right _

theorem rebuilt_cases (target : α → Bool) (below : List (Node α)) (tag : α) :
    rebuilt target below tag = .kept tag ∨ rebuilt target below tag = .copied tag := by
  unfold rebuilt
  split
  · exact .inr rfl
  · exact .inl rfl

section

variable {target : Stamp → Bool} {new : Node (Draft Stamp)}

/-- What is put in the place of the node takes over identities of nodes at and below it only. -/
def Succeeds (target : Stamp → Bool) (new : Node (Draft Stamp)) (nodes : List (Node Stamp)) : Prop :=
  ∀ node ∈ nodes, target node.tag = true → Inherits new.nodes node.nodes

theorem succeeds_cons {node : Node Stamp} {nodes : List (Node Stamp)} :
    Succeeds target new (node :: nodes) ↔
      (target node.tag = true → Inherits new.nodes node.nodes) ∧ Succeeds target new nodes :=
  List.forall_mem_cons

theorem succeeds_append {first second : List (Node Stamp)} :
    Succeeds target new (first ++ second) ↔ Succeeds target new first ∧ Succeeds target new second :=
  List.forall_mem_append

theorem succeeds_flatMap {items : List β} {nodes : β → List (Node Stamp)} :
    Succeeds target new (items.flatMap nodes) ↔ ∀ item ∈ items, Succeeds target new (nodes item) :=
  List.forall_mem_flatMap

theorem Identifier.inherits_replace {identifier : Identifier Stamp}
    (succeeds : Succeeds target new identifier.nodes) :
    Inherits (identifier.replace target new).nodes identifier.nodes := by
  unfold replace
  split
  · next node hit => exact (succeeds_cons.mp succeeds).1 hit
  · exact .above (.inl rfl) (.refl _)

theorem NamedType.inherits_replace {type : NamedType Stamp}
    (succeeds : Succeeds target new type.nodes) :
    Inherits (type.replace target new).nodes type.nodes := by
  unfold replace
  split
  · next node hit => exact (succeeds_cons.mp succeeds).1 hit
  · exact .above (.inl rfl) (.refl _)

theorem Literal.inherits_replace {literal : Literal Stamp}
    (succeeds : Succeeds target new literal.nodes) :
    Inherits (literal.replace target new).nodes literal.nodes := by
  unfold replace
  split
  · next node hit => exact (succeeds_cons.mp succeeds).1 hit
  · refine .above (.inl ?_) (.refl _)
    cases literal <;> rfl

-- A node above the replaced one is copied and gives up its identity; all others keep theirs.
theorem Argument.inherits_replace {argument : Argument Stamp}
    (succeeds : Succeeds target new argument.nodes) :
    Inherits (argument.replace target new).nodes argument.nodes := by
  obtain ⟨here, below⟩ := succeeds_cons.mp succeeds
  unfold replace
  split
  · next node hit => exact here hit
  · exact .above (rebuilt_cases _ _ _) (Literal.inherits_replace below)

theorem Attribute.inherits_replace {attr : Attribute Stamp}
    (succeeds : Succeeds target new attr.nodes) :
    Inherits (attr.replace target new).nodes attr.nodes := by
  obtain ⟨here, below⟩ := succeeds_cons.mp succeeds
  obtain ⟨front, arguments⟩ := succeeds_append.mp below
  obtain ⟨name, types⟩ := succeeds_append.mp front
  rw [succeeds_flatMap] at types arguments
  unfold replace
  split
  · next node hit => exact here hit
  · refine .above (rebuilt_cases _ _ _) (.append (.append (Identifier.inherits_replace name) ?_) ?_)
    · rw [List.flatMap_map]
      exact .flatMap fun type member => NamedType.inherits_replace (types type member)
    · rw [List.flatMap_map]
      exact .flatMap fun argument member => Argument.inherits_replace (arguments argument member)

theorem Parameter.inherits_replace {parameter : Parameter Stamp}
    (succeeds : Succeeds target new parameter.nodes) :
    Inherits (parameter.replace target new).nodes parameter.nodes := by
  obtain ⟨here, below⟩ := succeeds_cons.mp succeeds
  unfold replace
  split
  · next node hit => exact here hit
  · exact .above (rebuilt_cases _ _ _) (NamedType.inherits_replace below)

theorem Variant.inherits_replace {variant : Variant Stamp}
    (succeeds : Succeeds target new variant.nodes) :
    Inherits (variant.replace target new).nodes variant.nodes := by
  obtain ⟨here, below⟩ := succeeds_cons.mp succeeds
  obtain ⟨name, parameters⟩ := succeeds_append.mp below
  rw [succeeds_flatMap] at parameters
  unfold replace
  split
  · next node hit => exact here hit
  · refine .above (rebuilt_cases _ _ _) (.append (Identifier.inherits_replace name) ?_)
    cases given : variant.parameters with
    | none => exact .refl _
    | some list =>
      rw [given] at parameters
      simp only [Option.map_some, Option.getD_some, List.flatMap_map]
      exact .flatMap fun parameter member => Parameter.inherits_replace (parameters parameter member)

theorem CaseLine.inherits_replace {line : CaseLine Stamp}
    (succeeds : Succeeds target new line.nodes) :
    Inherits (line.replace target new).nodes line.nodes := by
  obtain ⟨here, below⟩ := succeeds_cons.mp succeeds
  obtain ⟨attributes, variants⟩ := succeeds_append.mp below
  rw [succeeds_flatMap] at attributes variants
  unfold replace
  split
  · next node hit => exact here hit
  · refine .above (rebuilt_cases _ _ _) (.append ?_ ?_)
    · rw [List.flatMap_map]
      exact .flatMap fun attr member => Attribute.inherits_replace (attributes attr member)
    · rw [List.flatMap_map]
      exact .flatMap fun variant member => Variant.inherits_replace (variants variant member)

theorem Body.inherits_replace {body : Body Stamp} (succeeds : Succeeds target new body.nodes) :
    Inherits (body.replace target new).nodes body.nodes := by
  obtain ⟨here, below⟩ := succeeds_cons.mp succeeds
  have lines := succeeds_flatMap.mp below
  unfold replace
  split
  · next node hit => exact here hit
  · refine .above (rebuilt_cases _ _ _) ?_
    simp only [Body.below, List.flatMap_map]
    exact .flatMap fun line member => CaseLine.inherits_replace (lines line member)

theorem Declaration.inherits_replace {declaration : Declaration Stamp}
    (succeeds : Succeeds target new declaration.nodes) :
    Inherits (declaration.replace target new).nodes declaration.nodes := by
  obtain ⟨here, below⟩ := succeeds_cons.mp succeeds
  obtain ⟨front, body⟩ := succeeds_append.mp below
  obtain ⟨name, attributes⟩ := succeeds_append.mp front
  rw [succeeds_flatMap] at attributes
  unfold replace
  split
  · next node hit => exact here hit
  · refine .above (rebuilt_cases _ _ _)
      (.append (.append (Identifier.inherits_replace name) ?_) (Body.inherits_replace body))
    rw [List.flatMap_map]
    exact .flatMap fun attr member => Attribute.inherits_replace (attributes attr member)

end

/-! ### Nodes that are kept -/

theorem Node.tag_map (f : α → β) (node : Node α) : (node.map f).tag = f node.tag := by
  cases node with
  | literal literal => cases literal <;> rfl
  | _ => rfl

theorem flatMap_nodes_map {f : α → β} {change : γ → δ} {nodes : γ → List (Node α)}
    {changedNodes : δ → List (Node β)}
    (each : ∀ item, changedNodes (change item) = (nodes item).map (Node.map f)) (items : List γ) :
    (items.map change).flatMap changedNodes = (items.flatMap nodes).map (Node.map f) := by
  rw [List.flatMap_map, List.map_flatMap]
  exact List.flatMap_congr fun item _ => each item

theorem NamedType.nodes_map (f : α → β) (type : NamedType α) :
    (type.map f).nodes = type.nodes.map (Node.map f) := rfl

theorem Argument.nodes_map (f : α → β) (argument : Argument α) :
    (argument.map f).nodes = argument.nodes.map (Node.map f) := rfl

theorem Attribute.nodes_map (f : α → β) (attr : Attribute α) :
    (attr.map f).nodes = attr.nodes.map (Node.map f) := by
  simp only [nodes, below, List.map_cons, List.map_append]
  rw [← flatMap_nodes_map (NamedType.nodes_map f), ← flatMap_nodes_map (Argument.nodes_map f)]
  rfl

theorem Parameter.nodes_map (f : α → β) (parameter : Parameter α) :
    (parameter.map f).nodes = parameter.nodes.map (Node.map f) := rfl

theorem Variant.nodes_map (f : α → β) (variant : Variant α) :
    (variant.map f).nodes = variant.nodes.map (Node.map f) := by
  obtain ⟨name, parameters, tag⟩ := variant
  cases parameters with
  | none => rfl
  | some parameters =>
    simp only [nodes, below, Option.getD_some, List.map_cons, List.map_append]
    rw [← flatMap_nodes_map (Parameter.nodes_map f)]
    rfl

theorem CaseLine.nodes_map (f : α → β) (line : CaseLine α) :
    (line.map f).nodes = line.nodes.map (Node.map f) := by
  simp only [nodes, below, List.map_cons, List.map_append]
  rw [← flatMap_nodes_map (Attribute.nodes_map f), ← flatMap_nodes_map (Variant.nodes_map f)]
  rfl

theorem keptIds_kept (nodes : List (Node Stamp)) : keptIds (nodes.map (Node.map .kept)) = ids nodes := by
  simp [keptIds, ids, List.filterMap_map, Node.tag_map, Draft.keptId?]

/-! ### Nodes that are used again -/

def Reuses (new : List (Node (Draft Stamp))) (old : List (Node Stamp)) : Prop :=
  ∃ part : List (Node Stamp), part.Subperm old ∧
    new.filter (·.tag.keptId?.isSome) = part.map (Node.map .kept)

section

variable {new more : List (Node (Draft Stamp))} {old rest : List (Node Stamp)}

theorem Reuses.append (first : Reuses new old) (second : Reuses more rest) :
    Reuses (new ++ more) (old ++ rest) := by
  obtain ⟨part, inside, kept⟩ := first
  obtain ⟨others, within, also⟩ := second
  refine ⟨part ++ others, inside.append within, ?_⟩
  rw [List.filter_append, kept, also, List.map_append]

theorem Reuses.mono (reuses : Reuses new old) (inside : old.Subperm rest) : Reuses new rest := by
  obtain ⟨part, within, kept⟩ := reuses
  exact ⟨part, within.trans inside, kept⟩

theorem reuses_of_new (none : keptIds new = []) : Reuses new old := by
  refine ⟨[], List.nil_subperm, List.filter_eq_nil_iff.mpr fun node member => ?_⟩
  simp [List.filterMap_eq_nil_iff.mp none node member]

theorem reuses_kept (nodes : List (Node Stamp)) : Reuses (nodes.map (Node.map .kept)) nodes := by
  refine ⟨nodes, .refl _, List.filter_eq_self.mpr ?_⟩
  rw [List.forall_mem_map]
  intro node _
  rw [Node.tag_map]
  rfl

theorem Reuses.inherits (reuses : Reuses new old) : Inherits new old := by
  obtain ⟨part, inside, kept⟩ := reuses
  have same : keptIds new = keptIds (new.filter (·.tag.keptId?.isSome)) := by
    rw [keptIds, keptIds, List.filterMap_filter]
    refine List.filterMap_congr fun node _ => ?_
    cases node.tag.keptId? <;> rfl
  rw [Inherits, same, kept, keptIds_kept]
  obtain ⟨among, order, within⟩ := inside
  exact ⟨ids among, order.map _, within.map _⟩

theorem Reuses.exists_of_kept (reuses : Reuses new old) {draft : Node (Draft Stamp)} (member : draft ∈ new)
    {id : Nat} (kept : draft.tag.keptId? = some id) : ∃ node ∈ old, draft = node.map .kept := by
  obtain ⟨part, inside, filtered⟩ := reuses
  have found : draft ∈ part.map (Node.map .kept) := by
    rw [← filtered, List.mem_filter, kept]
    exact ⟨member, rfl⟩
  obtain ⟨node, again, rfl⟩ := List.mem_map.mp found
  exact ⟨node, inside.subset again, rfl⟩

theorem Reuses.append_new (reuses : Reuses new old) (none : keptIds more = []) :
    Reuses (new ++ more) old := by
  rw [← List.append_nil old]
  exact reuses.append (reuses_of_new none)

theorem Reuses.above {node : Node (Draft Stamp)} (reuses : Reuses new old)
    (none : node.tag.keptId? = none) : Reuses (node :: new) old := by
  obtain ⟨part, inside, kept⟩ := reuses
  refine ⟨part, inside, ?_⟩
  rw [List.filter_cons, none]
  exact kept

end

theorem Reuses.trees {keep : γ → δ} {nodes : γ → List (Node Stamp)}
    {keptNodes : δ → List (Node (Draft Stamp))}
    (each : ∀ item, keptNodes (keep item) = (nodes item).map (Node.map .kept)) {part items : List γ}
    (inside : part.Sublist items) :
    Reuses ((part.map keep).flatMap keptNodes) (items.flatMap nodes) := by
  rw [flatMap_nodes_map each]
  exact (reuses_kept _).mono (inside.flatMap nodes).subperm

theorem reuses_attributes {part attrs : List (Attribute Stamp)} (inside : part.Sublist attrs) :
    Reuses ((part.map (·.map .kept)).flatMap Attribute.nodes) (attrs.flatMap Attribute.nodes) :=
  .trees (Attribute.nodes_map Draft.kept) inside

theorem reuses_variants (variants : List (Variant Stamp)) :
    Reuses ((variants.map (·.map .kept)).flatMap Variant.nodes) (variants.flatMap Variant.nodes) :=
  .trees (Variant.nodes_map Draft.kept) (.refl variants)

theorem reuses_lines (lines : List (CaseLine Stamp)) :
    Reuses ((lines.map (·.map .kept)).flatMap CaseLine.nodes) (lines.flatMap CaseLine.nodes) :=
  .trees (CaseLine.nodes_map Draft.kept) (.refl lines)

/-! ### Replacing in a coherent declaration -/

theorem find?_identity {nodes : List (Node Stamp)} (distinct : (ids nodes).Nodup) {old : Node Stamp}
    (member : old ∈ nodes) : nodes.find? (·.tag.id == old.tag.id) = some old := by
  obtain ⟨before, after, rfl⟩ := List.append_of_mem member
  rw [ids, List.map_append, List.map_cons, List.nodup_append] at distinct
  have earlier : before.find? (·.tag.id == old.tag.id) = none := by
    rw [List.find?_eq_none]
    intro node inside
    simpa using distinct.2.2 _ (List.mem_map.mpr ⟨node, inside, rfl⟩) _ List.mem_cons_self
  simp [List.find?_append, earlier]

theorem eq_of_identity {nodes : List (Node Stamp)} (distinct : (ids nodes).Nodup) {old node : Node Stamp}
    (member : old ∈ nodes) (inside : node ∈ nodes) (same : node.tag.id = old.tag.id) : node = old := by
  have first := find?_identity distinct member
  rw [← same, find?_identity distinct inside] at first
  exact Option.some.inj first

theorem Edited.replaceNode_eq {edited : Edited} (distinct : (ids edited.root.nodes).Nodup)
    {old : Node Stamp} {new : Node (Draft Stamp)} (member : old ∈ edited.root.nodes)
    (inner : ∀ declaration, old ≠ .declaration declaration) (fits : old.fits new = true) :
    edited.replaceNode old new =
      .ok (Edited.settle edited.next (edited.root.replace (·.id == old.tag.id) new)) := by
  have found := find?_identity distinct member
  unfold Edited.replaceNode Declaration.replaceNode
  dsimp only
  rw [found]
  cases old with
  | declaration node => exact absurd rfl (inner node)
  | _ => simp only [fits, if_true]; rfl

/-- The declaration stays coherent if the new node takes over none but the identities of the old one. -/
theorem Edited.Coherent.replaceNode {edited : Edited} (coherent : edited.Coherent) (old : Node Stamp)
    (new : Node (Draft Stamp)) (member : old ∈ edited.root.nodes)
    (inner : ∀ declaration, old ≠ .declaration declaration) (fits : old.fits new = true)
    (inherits : Inherits new.nodes old.nodes) :
    ∃ next, edited.replaceNode old new = .ok next ∧ next.Coherent ∧
      next.root.shape = (edited.root.replace (·.id == old.tag.id) new).shape := by
  have succeeds : Succeeds (·.id == old.tag.id) new edited.root.nodes := by
    intro node inside same
    rwa [eq_of_identity coherent.distinct member inside (by simpa using same)]
  exact ⟨_, Edited.replaceNode_eq coherent.distinct member inner fits,
    coherent.settle (Declaration.inherits_replace succeeds), Edited.shape_settle _ _⟩

theorem absent_around {front nodes back : List (Node Stamp)}
    (distinct : (ids (front ++ (nodes ++ back))).Nodup) {id : Nat} (member : id ∈ ids nodes) :
    Absent (·.id == id) front ∧ Absent (·.id == id) back := by
  rw [ids_append, ids_append, List.nodup_append, List.nodup_append] at distinct
  obtain ⟨-, ⟨-, -, behind⟩, ahead⟩ := distinct
  constructor
  · intro node inside
    simpa using ahead _ (List.mem_map.mpr ⟨node, inside, rfl⟩) _ (List.mem_append_left _ member)
  · intro node inside
    simpa using (behind _ member _ (List.mem_map.mpr ⟨node, inside, rfl⟩)).symm

theorem map_replace_of_absent {target : α → Bool} {attrs : List (Attribute α)}
    (absent : ∀ attr ∈ attrs, Absent target attr.nodes) (new : Node (Draft α)) :
    attrs.map (Attribute.replace target new) = attrs.map (Attribute.map .kept) :=
  List.map_congr_left fun attr inside => Attribute.replace_of_absent (absent attr inside)

theorem Declaration.nodes_eq_append {root : Declaration α} {before after : List (CaseLine α)}
    {line : CaseLine α} (lines : root.body.lines = before ++ line :: after) :
    root.nodes = (.declaration root :: (root.name.nodes ++ root.attributes.flatMap Attribute.nodes ++
      .body root.body :: before.flatMap CaseLine.nodes)) ++
        (line.nodes ++ after.flatMap CaseLine.nodes) := by
  simp [Declaration.nodes, Declaration.below, Body.nodes, Body.below, lines]

def Declaration.relined (root : Declaration Stamp) (lines : List (CaseLine (Draft Stamp)))
    (tag bodyTag : Draft Stamp) : Declaration (Draft Stamp) :=
  ⟨root.kind, root.name.map .kept, root.attributes.map (·.map .kept), ⟨lines, bodyTag⟩, tag⟩

theorem Declaration.shape_relined (root : Declaration Stamp) (lines : List (CaseLine (Draft Stamp)))
    (tag bodyTag : Draft Stamp) :
    (root.relined lines tag bodyTag).shape =
      { root.shape with body := ⟨lines.map CaseLine.shape, ()⟩ } := by
  simp only [relined, shape, map, Body.map, List.map_map, Function.comp_def, Attribute.map_map]
  rfl

theorem Declaration.replace_line {root : Declaration Stamp} {before after : List (CaseLine Stamp)}
    {line : CaseLine Stamp} (lines : root.body.lines = before ++ line :: after)
    (distinct : (ids root.nodes).Nodup) {id : Nat} (member : id ∈ ids line.nodes)
    (new : Node (Draft Stamp)) :
    ∃ tag bodyTag, root.replace (·.id == id) new =
      root.relined (before.map (·.map .kept) ++ line.replace (·.id == id) new :: after.map (·.map .kept))
        tag bodyTag := by
  rw [Declaration.nodes_eq_append lines] at distinct
  -- the node is below one line, so nothing is replaced in front of the line or behind it
  obtain ⟨front, later⟩ := absent_around distinct member
  obtain ⟨here, front⟩ := absent_cons.mp front
  obtain ⟨front, body⟩ := absent_append.mp front
  obtain ⟨name, attributes⟩ := absent_append.mp front
  obtain ⟨bodyHere, earlier⟩ := absent_cons.mp body
  rw [absent_flatMap] at attributes earlier later
  change (root.tag.id == id) = false at here
  change (root.body.tag.id == id) = false at bodyHere
  have kept : ∀ part : List (CaseLine Stamp), (∀ other ∈ part, Absent (·.id == id) other.nodes) →
      part.map (CaseLine.replace (·.id == id) new) = part.map (CaseLine.map .kept) :=
    fun part absent => List.map_congr_left fun other inside =>
      CaseLine.replace_of_absent (absent other inside)
  have others : root.body.lines.map (CaseLine.replace (·.id == id) new) =
      before.map (CaseLine.map .kept) ++
        line.replace (·.id == id) new :: after.map (CaseLine.map .kept) := by
    rw [lines, List.map_append, List.map_cons, kept before earlier, kept after later]
  refine ⟨rebuilt (·.id == id) root.below root.tag, rebuilt (·.id == id) root.body.below root.body.tag, ?_⟩
  simp only [Declaration.replace, here, Body.replace, bodyHere, Identifier.replace_of_absent name]
  rw [map_replace_of_absent attributes, others]
  rfl

theorem Declaration.shape_replace_line {root : Declaration Stamp} {before after : List (CaseLine Stamp)}
    {line : CaseLine Stamp} (lines : root.body.lines = before ++ line :: after)
    (distinct : (ids root.nodes).Nodup) {id : Nat} (member : id ∈ ids line.nodes)
    (new : Node (Draft Stamp)) :
    (root.replace (·.id == id) new).shape =
      { root.shape with
        body := ⟨before.map CaseLine.shape ++
          (line.replace (·.id == id) new).shape :: after.map CaseLine.shape, ()⟩ } := by
  obtain ⟨tag, bodyTag, replaced⟩ := Declaration.replace_line lines distinct member new
  rw [replaced, Declaration.shape_relined]
  simp [Function.comp_def]

theorem Declaration.replace_body {root : Declaration Stamp} (distinct : (ids root.nodes).Nodup)
    (body : Body (Draft Stamp)) :
    ∃ tag, root.replace (·.id == root.body.tag.id) (.body body) = root.relined body.lines tag body.tag := by
  have nodes : root.nodes = (.declaration root :: (root.name.nodes ++
      root.attributes.flatMap Attribute.nodes)) ++ (root.body.nodes ++ []) := by
    simp [Declaration.nodes, Declaration.below]
  rw [nodes] at distinct
  have member : root.body.tag.id ∈ ids root.body.nodes := List.mem_cons_self
  obtain ⟨front, -⟩ := absent_around distinct member
  obtain ⟨here, front⟩ := absent_cons.mp front
  obtain ⟨name, attributes⟩ := absent_append.mp front
  rw [absent_flatMap] at attributes
  change (root.tag.id == root.body.tag.id) = false at here
  refine ⟨rebuilt (·.id == root.body.tag.id) root.below root.tag, ?_⟩
  simp only [Declaration.replace, here, Body.replace, beq_self_eq_true,
    Identifier.replace_of_absent name]
  rw [map_replace_of_absent attributes]
  rfl

theorem Declaration.shape_replace_body {root : Declaration Stamp} (distinct : (ids root.nodes).Nodup)
    (body : Body (Draft Stamp)) :
    (root.replace (·.id == root.body.tag.id) (.body body)).shape =
      { root.shape with body := ⟨body.lines.map CaseLine.shape, ()⟩ } := by
  obtain ⟨tag, replaced⟩ := Declaration.replace_body distinct body
  rw [replaced, Declaration.shape_relined]

theorem CaseLine.replace_first {line : CaseLine Stamp} {first : Variant Stamp}
    {others : List (Variant Stamp)} (variants : line.variants = first :: others)
    (distinct : (ids line.nodes).Nodup) (variant : Variant (Draft Stamp)) :
    ∃ tag, line.replace (·.id == first.tag.id) (.variant variant) =
      ⟨line.attributes.map (·.map .kept), variant :: others.map (·.map .kept), tag⟩ := by
  have nodes : line.nodes = (.line line :: line.attributes.flatMap Attribute.nodes) ++
      (first.nodes ++ others.flatMap Variant.nodes) := by
    simp [CaseLine.nodes, CaseLine.below, variants]
  rw [nodes] at distinct
  have member : first.tag.id ∈ ids first.nodes := List.mem_cons_self
  obtain ⟨front, later⟩ := absent_around distinct member
  obtain ⟨here, attributes⟩ := absent_cons.mp front
  rw [absent_flatMap] at attributes later
  change (line.tag.id == first.tag.id) = false at here
  have rest : others.map (Variant.replace (·.id == first.tag.id) (.variant variant)) =
      others.map (Variant.map .kept) :=
    List.map_congr_left fun other inside => Variant.replace_of_absent (later other inside)
  have self : first.replace (·.id == first.tag.id) (.variant variant) = variant := by
    simp [Variant.replace]
  refine ⟨rebuilt (·.id == first.tag.id) line.below line.tag, ?_⟩
  simp only [CaseLine.replace, here, variants, List.map_cons, self]
  rw [map_replace_of_absent attributes, rest]

theorem CaseLine.shape_replace_first {line : CaseLine Stamp} {first : Variant Stamp}
    {others : List (Variant Stamp)} (variants : line.variants = first :: others)
    (distinct : (ids line.nodes).Nodup) (variant : Variant (Draft Stamp)) :
    (line.replace (·.id == first.tag.id) (.variant variant)).shape =
      { line.shape with variants := variant.shape :: others.map Variant.shape } := by
  obtain ⟨tag, replaced⟩ := CaseLine.replace_first variants distinct variant
  rw [replaced]
  simp [CaseLine.shape_eq]

theorem CaseLine.replace_value {line : CaseLine Stamp} {front back : List (Attribute Stamp)}
    {attr : Attribute Stamp} {argument : Argument Stamp}
    (attributes : line.attributes = front ++ attr :: back) (arguments : attr.arguments = [argument])
    (distinct : (ids line.nodes).Nodup) (literal : Literal (Draft Stamp)) :
    ∃ tag attrTag argumentTag, line.replace (·.id == argument.value.tag.id) (.literal literal) =
      ⟨front.map (·.map .kept) ++ ⟨attr.name.map .kept, attr.typeArguments.map (·.map .kept),
          [⟨argument.label, literal, argumentTag⟩], attrTag⟩ :: back.map (·.map .kept),
        line.variants.map (·.map .kept), tag⟩ := by
  -- in preorder the literal parts the other nodes of the line, none of which has its identity
  have nodes : line.nodes = (.line line :: (front.flatMap Attribute.nodes ++ .attr attr ::
      (attr.name.nodes ++ attr.typeArguments.flatMap NamedType.nodes ++ [.argument argument]))) ++
      (argument.value.nodes ++ (back.flatMap Attribute.nodes ++ line.variants.flatMap Variant.nodes)) := by
    simp [CaseLine.nodes, CaseLine.below, attributes, Attribute.nodes, Attribute.below, arguments,
      Argument.nodes, Argument.below]
  rw [nodes] at distinct
  have member : argument.value.tag.id ∈ ids argument.value.nodes := List.mem_cons_self
  obtain ⟨ahead, behind⟩ := absent_around distinct member
  obtain ⟨here, ahead⟩ := absent_cons.mp ahead
  obtain ⟨earlier, ahead⟩ := absent_append.mp ahead
  obtain ⟨attrHere, ahead⟩ := absent_cons.mp ahead
  obtain ⟨ahead, argumentHere⟩ := absent_append.mp ahead
  obtain ⟨name, types⟩ := absent_append.mp ahead
  obtain ⟨later, variants⟩ := absent_append.mp behind
  rw [absent_flatMap] at earlier types later variants
  have argumentHere := (absent_cons.mp argumentHere).1
  change (line.tag.id == argument.value.tag.id) = false at here
  change (attr.tag.id == argument.value.tag.id) = false at attrHere
  change (argument.tag.id == argument.value.tag.id) = false at argumentHere
  have typesKept : attr.typeArguments.map (NamedType.replace (·.id == argument.value.tag.id)
      (.literal literal)) = attr.typeArguments.map (NamedType.map .kept) :=
    List.map_congr_left fun type inside => NamedType.replace_of_absent (types type inside)
  have variantsKept : line.variants.map (Variant.replace (·.id == argument.value.tag.id)
      (.literal literal)) = line.variants.map (Variant.map .kept) :=
    List.map_congr_left fun variant inside => Variant.replace_of_absent (variants variant inside)
  have value : argument.value.replace (·.id == argument.value.tag.id) (.literal literal) = literal := by
    simp [Literal.replace]
  refine ⟨rebuilt (·.id == argument.value.tag.id) line.below line.tag,
    rebuilt (·.id == argument.value.tag.id) attr.below attr.tag,
    rebuilt (·.id == argument.value.tag.id) argument.below argument.tag, ?_⟩
  simp only [CaseLine.replace, here, variantsKept, attributes, List.map_append, List.map_cons]
  rw [map_replace_of_absent earlier, map_replace_of_absent later]
  simp only [Attribute.replace, attrHere, arguments, List.map_cons, List.map_nil, Argument.replace,
    argumentHere, value, Identifier.replace_of_absent name, typesKept]

theorem CaseLine.shape_replace_value {line : CaseLine Stamp} {front back : List (Attribute Stamp)}
    {attr : Attribute Stamp} {argument : Argument Stamp}
    (attributes : line.attributes = front ++ attr :: back) (arguments : attr.arguments = [argument])
    (distinct : (ids line.nodes).Nodup) (literal : Literal (Draft Stamp)) :
    (line.replace (·.id == argument.value.tag.id) (.literal literal)).shape =
      { line.shape with
        attributes := front.map Attribute.shape ++ { attr.shape with
          arguments := [⟨argument.label, literal.map fun _ => (), ()⟩] } :: back.map Attribute.shape } := by
  obtain ⟨tag, attrTag, argumentTag, replaced⟩ :=
    CaseLine.replace_value attributes arguments distinct literal
  have changed : (Attribute.mk (attr.name.map .kept) (attr.typeArguments.map (NamedType.map .kept))
      [⟨argument.label, literal, argumentTag⟩] attrTag).shape =
        { attr.shape with arguments := [⟨argument.label, literal.map fun _ => (), ()⟩] } := by
    simp [Attribute.shape, Attribute.map, Identifier.map, NamedType.map, Argument.map]
  rw [replaced]
  simp [CaseLine.shape_eq, Function.comp_def, changed]

end RawMapping
