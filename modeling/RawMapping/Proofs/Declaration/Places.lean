import RawMapping.Proofs.Declaration.Exchange
import RawMapping.Proofs.Outcome

/-! Places in a tree, and replacements that are independent of each other. A place leads from the root
down, by the number of the value taken at each step. A replacement puts the new value at the place of the
old one and gives new identities to the nodes above it, so of two replacements at places that are apart
each leaves the other one's place as it was, and their order does not matter. -/

set_option autoImplicit false

namespace RawMapping

variable {α β : Type}

/-! ### Places -/

def Tree.values : Tree α → List (Tree α)
  | .leaf _ => []
  | .list items => items
  | .node _ fields _ => fields

def Tree.at? (tree : Tree α) : List Nat → Option (Tree α)
  | [] => some tree
  | index :: place => tree.values[index]?.bind (·.at? place)

def Tree.put (tree : Tree α) (place : List Nat) (new : Tree α) : Tree α :=
  match place, tree with
  | [], _ => new
  | _ :: _, .leaf content => .leaf content
  | index :: place, .list items => .list (items.modify index (·.put place new))
  | index :: place, .node kind fields tag => .node kind (fields.modify index (·.put place new)) tag

@[simp] theorem Tree.at?_nil (tree : Tree α) : tree.at? [] = some tree := rfl

theorem Tree.at?_cons (tree : Tree α) (index : Nat) (place : List Nat) :
    tree.at? (index :: place) = tree.values[index]?.bind (·.at? place) := rfl

theorem Tree.values_put (tree : Tree α) (index : Nat) (place : List Nat) (new : Tree α) :
    (tree.put (index :: place) new).values = tree.values.modify index (·.put place new) := by
  cases tree <;> simp [put, values]

theorem Tree.at?_append (tree : Tree α) (front back : List Nat) :
    tree.at? (front ++ back) = (tree.at? front).bind (·.at? back) := by
  induction front generalizing tree with
  | nil => rfl
  | cons index front ih =>
    rw [List.cons_append, at?_cons, at?_cons]
    cases tree.values[index]? with
    | none => rfl
    | some value => exact ih value

def Above (position place : List Nat) : Prop :=
  position <+: place ∧ position ≠ place

theorem above_cons {index : Nat} {position place : List Nat} :
    Above (index :: position) (index :: place) ↔ Above position place := by
  simp [Above, List.cons_prefix_cons]

theorem Tree.at?_put_self {tree value : Tree α} {place : List Nat} (here : tree.at? place = some value)
    (new : Tree α) : (tree.put place new).at? place = some new := by
  induction place generalizing tree with
  | nil => simp [put]
  | cons index place ih =>
    rw [at?_cons] at here
    obtain ⟨inner, found, below⟩ := Option.bind_eq_some_iff.mp here
    simp [at?_cons, values_put, found, ih below]

theorem Tree.at?_put_of_apart {place position : List Nat} (outside : ¬ place <+: position)
    (beside : ¬ position <+: place) (tree new : Tree α) :
    (tree.put place new).at? position = tree.at? position := by
  induction place generalizing position tree with
  | nil => exact absurd List.nil_prefix outside
  | cons index place ih =>
    cases position with
    | nil => exact absurd List.nil_prefix beside
    | cons other position =>
      rw [at?_cons, at?_cons, values_put, List.getElem?_modify]
      by_cases same : index = other
      · subst same
        cases tree.values[index]? with
        | none => rfl
        | some value =>
          simpa using ih (by simpa using outside) (by simpa using beside) value
      · simp [same]

/-- Trees that agree at a position still do when the same is put into both, unless the position is above
the place. -/
theorem Tree.at?_put_congr {place position : List Nat} (high : ¬ Above position place)
    {tree other : Tree α} (same : tree.at? position = other.at? position)
    (here : (tree.at? place).isSome) (there : (other.at? place).isSome) (new : Tree α) :
    (tree.put place new).at? position = (other.put place new).at? position := by
  obtain ⟨value, here⟩ := Option.isSome_iff_exists.mp here
  obtain ⟨otherValue, there⟩ := Option.isSome_iff_exists.mp there
  by_cases below : place <+: position
  · obtain ⟨rest, rfl⟩ := below
    rw [at?_append, at?_append, at?_put_self here, at?_put_self there]
  · have beside : ¬ position <+: place := fun ahead =>
      high ⟨ahead, fun equal => below (equal ▸ List.prefix_rfl)⟩
    rw [at?_put_of_apart below beside, at?_put_of_apart below beside, same]

theorem Tree.put_comm {place other : List Nat} (outside : ¬ place <+: other) (beside : ¬ other <+: place)
    (tree first second : Tree α) :
    (tree.put place first).put other second = (tree.put other second).put place first := by
  induction place generalizing other tree with
  | nil => exact absurd List.nil_prefix outside
  | cons index place ih =>
    cases other with
    | nil => exact absurd List.nil_prefix beside
    | cons index' other =>
      have fields (values : List (Tree α)) :
          (values.modify index (·.put place first)).modify index' (·.put other second) =
            (values.modify index' (·.put other second)).modify index (·.put place first) := by
        by_cases same : index = index'
        · subst same
          have inner (value : Tree α) := ih (by simpa using outside) (by simpa using beside) value
          rw [List.modify_modify_eq, List.modify_modify_eq]
          exact congrArg (values.modify index) (funext inner)
        · exact List.modify_modify_ne _ _ _ same
      cases tree with
      | leaf content => rfl
      | list items => exact congrArg Tree.list (fields items)
      | node kind values tag => exact congrArg (Tree.node kind · tag) (fields values)

theorem map_modify {f : α → β} {change : α → α} {changed : β → β}
    (same : ∀ value, f (change value) = changed (f value)) (values : List α) (index : Nat) :
    (values.modify index change).map f = (values.map f).modify index changed := by
  induction values generalizing index with
  | nil => simp
  | cons value values ih => cases index <;> simp [same, ih]

theorem Tree.map_put (f : α → β) (tree : Tree α) (place : List Nat) (new : Tree α) :
    (tree.put place new).map f = (tree.map f).put place (new.map f) := by
  induction place generalizing tree with
  | nil => simp [put]
  | cons index place ih =>
    cases tree with
    | leaf content => rfl
    | list items =>
      simp only [put, map, mapAll_eq]
      exact congrArg Tree.list (map_modify ih items index)
    | node kind fields tag =>
      simp only [put, map, mapAll_eq]
      exact congrArg (Tree.node kind · (f tag)) (map_modify ih fields index)

theorem Tree.mem_ids_of_at? {tree value : Tree Stamp} {place : List Nat} (here : tree.at? place = some value)
    {id : Nat} (member : id ∈ value.ids) : id ∈ tree.ids := by
  induction place generalizing tree with
  | nil => cases here; exact member
  | cons index place ih =>
    obtain ⟨inner, found, below⟩ := Option.bind_eq_some_iff.mp here
    have inside := List.mem_of_getElem? found
    cases tree with
    | leaf content => cases inside
    | list items => exact ids_list items ▸ List.mem_flatMap.mpr ⟨inner, inside, ih below⟩
    | node kind fields stamp =>
      rw [ids_node]
      exact List.mem_cons_of_mem _ (List.mem_flatMap.mpr ⟨inner, inside, ih below⟩)

theorem Node.mem_values_of_child {node child : Node α} (member : child ∈ node.children) :
    child.tree ∈ node.tree.values ∨ ∃ items, .list items ∈ node.tree.values ∧ child.tree ∈ items := by
  have listed {γ : Type} {item : γ → Node α} {tree : γ → Tree α}
      (same : ∀ part, (item part).tree = tree part) {parts : List γ}
      (member : child ∈ parts.map item) : child.tree ∈ parts.map tree := by
    obtain ⟨part, inside, rfl⟩ := List.mem_map.mp member
    exact same part ▸ List.mem_map_of_mem inside
  -- a child is a field of its node, or an item of a list that is one
  cases node with
  | identifier | type | literal | foreign => cases member
  | argument | parameter =>
    cases List.mem_singleton.mp member
    exact .inl (by simp [tree, Argument.tree, Parameter.tree, Tree.values])
  | attr node =>
    rcases List.mem_cons.mp member with rfl | member
    · exact .inl List.mem_cons_self
    · rcases List.mem_append.mp member with type | argument
      · exact .inr ⟨_, by simp [tree, Attribute.tree, Tree.values], listed (fun _ => rfl) type⟩
      · exact .inr ⟨_, by simp [tree, Attribute.tree, Tree.values], listed (fun _ => rfl) argument⟩
  | variant node =>
    rcases List.mem_cons.mp member with rfl | member
    · exact .inl List.mem_cons_self
    · obtain ⟨name, parameters, tag⟩ := node
      cases parameters with
      | none => cases member
      | some parameters =>
        exact .inr ⟨_, by simp [tree, Variant.tree, Tree.values], listed (fun _ => rfl) member⟩
  | line node =>
    rcases List.mem_append.mp member with attr | variant
    · exact .inr ⟨_, List.mem_cons_self, listed (fun _ => rfl) attr⟩
    · exact .inr ⟨_, List.mem_cons_of_mem _ List.mem_cons_self, listed (fun _ => rfl) variant⟩
  | body node => exact .inr ⟨_, List.mem_cons_self, listed (fun _ => rfl) member⟩
  | declaration node =>
    rcases List.mem_cons.mp member with rfl | member
    · exact .inl (by simp [tree, Declaration.tree, Tree.values])
    · rcases List.mem_append.mp member with attr | body
      · exact .inr ⟨_, by simp [tree, Declaration.tree, Tree.values], listed (fun _ => rfl) attr⟩
      · cases List.mem_singleton.mp body
        exact .inl (by simp [tree, Declaration.tree, Tree.values])

theorem Tree.exists_at?_of_mem {tree value : Tree α} (member : value ∈ tree.values) :
    ∃ index, tree.at? [index] = some value := by
  obtain ⟨index, found⟩ := List.getElem?_of_mem member
  exact ⟨index, by simp [at?_cons, found]⟩

theorem Node.exists_place {node old : Node α} (member : old ∈ node.below) :
    ∃ index place, node.tree.at? (index :: place) = some old.tree := by
  induction node using Node.induct with
  | step node ih =>
    rw [below_eq, List.mem_flatMap] at member
    obtain ⟨child, isChild, inside⟩ := member
    obtain ⟨index, place, here⟩ : ∃ index place, node.tree.at? (index :: place) = some child.tree := by
      rcases mem_values_of_child isChild with field | ⟨items, list, item⟩
      · obtain ⟨index, here⟩ := Tree.exists_at?_of_mem field
        exact ⟨index, [], here⟩
      · have held : child.tree ∈ (Tree.list items).values := item
        obtain ⟨index, here⟩ := Tree.exists_at?_of_mem list
        obtain ⟨inner, there⟩ := Tree.exists_at?_of_mem held
        refine ⟨index, [inner], ?_⟩
        rw [← List.singleton_append, Tree.at?_append, here]
        exact there
    rw [nodes_eq, List.mem_cons] at inside
    rcases inside with rfl | deeper
    · exact ⟨index, place, here⟩
    · obtain ⟨next, rest, there⟩ := ih child isChild deeper
      refine ⟨index, place ++ next :: rest, ?_⟩
      rw [← List.cons_append, Tree.at?_append, here]
      exact there

/-! ### Places and paths -/

def Frame.index : Frame α → Nat
  | .list before _ | .node _ before _ _ => before.length

def placeOf (path : List (Frame α)) : List Nat :=
  path.map Frame.index

theorem Tree.exists_path_of_at? {tree value : Tree α} {place : List Nat}
    (here : tree.at? place = some value) : ∃ path, tree = plug path value ∧ placeOf path = place := by
  induction place generalizing tree with
  | nil => cases here; exact ⟨[], rfl, rfl⟩
  | cons index place ih =>
    obtain ⟨inner, found, below⟩ := Option.bind_eq_some_iff.mp here
    obtain ⟨path, rfl, rfl⟩ := ih below
    obtain ⟨bound, there⟩ := List.getElem?_eq_some_iff.mp found
    have split : tree.values = tree.values.take index ++ plug path value :: tree.values.drop (index + 1) := by
      rw [← there, List.getElem_cons_drop, List.take_append_drop]
    have length : (tree.values.take index).length = index := by
      rw [List.length_take]
      omega
    cases tree with
    | leaf content => cases bound
    | list items =>
      exact ⟨.list (items.take index) (items.drop (index + 1)) :: path, congrArg Tree.list split,
        congrArg (· :: placeOf path) length⟩
    | node kind fields tag =>
      exact ⟨.node kind (fields.take index) (fields.drop (index + 1)) tag :: path,
        congrArg (Tree.node kind · tag) split, congrArg (· :: placeOf path) length⟩

theorem put_plug (path : List (Frame α)) (value new : Tree α) :
    (plug path value).put (placeOf path) new = plug path new := by
  induction path with
  | nil => rfl
  | cons frame path ih =>
    have inside (before after : List (Tree α)) :
        (before ++ plug path value :: after).modify before.length (·.put (placeOf path) new) =
          before ++ plug path new :: after := by
      rw [← ih]
      simp [List.modify_eq_take_cons_drop]
    cases frame with
    | list before after => exact congrArg Tree.list (inside before after)
    | node kind before after tag => exact congrArg (Tree.node kind · tag) (inside before after)

/-- The copies along a path are written where their originals are, and hold the same. -/
theorem map_plug_afresh (next : Nat) (path : List (Frame Stamp)) (value : Tree Stamp) :
    (plug (afresh next path) value).map Stamp.location = (plug path value).map Stamp.location := by
  induction path generalizing next with
  | nil => rfl
  | cons frame path ih =>
    cases frame with
    | list before after => simp [afresh, Frame.fill, Tree.map, Tree.mapAll_eq, ih]
    | node kind before after stamp => simp [afresh, Frame.fill, Tree.map, Tree.mapAll_eq, ih]

/-- Only above the end of a path the copies differ from their originals. -/
theorem at?_plug_afresh (next : Nat) {path : List (Frame Stamp)} {position : List Nat}
    (high : ¬ Above position (placeOf path)) (value : Tree Stamp) :
    (plug (afresh next path) value).at? position = (plug path value).at? position := by
  induction path generalizing next position with
  | nil => rfl
  | cons frame path ih =>
    cases position with
    | nil => exact absurd ⟨List.nil_prefix, by simp [placeOf]⟩ high
    | cons index position =>
      have deeper : index = frame.index → ¬ Above position (placeOf path) := by
        rintro rfl above
        exact high (above_cons.mpr above)
      have inside (next : Nat) (before after : List (Tree Stamp)) (here : frame.index = before.length) :
          (before ++ plug (afresh next path) value :: after)[index]?.bind (·.at? position) =
            (before ++ plug path value :: after)[index]?.bind (·.at? position) := by
        by_cases same : index = before.length
        · subst same
          simpa using ih next (deeper here.symm)
        · grind
      cases frame with
      | list before after => exact inside next before after rfl
      | node kind before after stamp => exact inside (next + 1) before after rfl

/-! ### Replacing in any tree -/

/-- The tree with `new` in place of a node, and the next identity to give out, if the node is there and a
declaration is left. -/
def Tree.exchange? (root : Tree Stamp) (next old : Nat) (new : Tree (Draft Stamp)) :
    Option (Tree Stamp × Nat) :=
  let visit := Tree.visit old new root
  let result := visit.result root
  if visit.found ∧ result.kind = "TypeDecl" then some ((result.renew settle).run next) else none

theorem Edited.exchange_eq_ok_iff (edited : Edited) (old : Node Stamp) (new : Tree (Draft Stamp))
    (result : Tree Stamp × Nat) :
    edited.exchange old new = .ok result ↔
      edited.root.tree.exchange? edited.next old.tag.id new = some result := by
  have kind : (Node.declaration edited.root).kind = "TypeDecl" := rfl
  unfold exchange Tree.exchange?
  rw [kind]
  dsimp only
  cases (Tree.visit old.tag.id new edited.root.tree).found with
  | false => simp
  | true =>
    by_cases same : (Visit.result edited.root.tree (Tree.visit old.tag.id new edited.root.tree)).kind =
      "TypeDecl"
    · simp [same]
    · simp [same]

/-- What comes of putting a value at a place by an exchange. -/
structure Tree.Exchanged (root : Tree Stamp) (place : List Nat) (new : Tree Stamp) (next : Nat)
    (result : Tree Stamp) : Prop where
  kind : result.kind = root.kind
  written : result.map Stamp.location = (root.put place new).map Stamp.location
  same : ∀ position, ¬ Above position place → result.at? position = (root.put place new).at? position
  /-- Of the identities that are given out already, it brings in none but those of the new value. -/
  counts : ∀ id < next, result.ids.count id ≤ root.ids.count id + new.ids.count id

theorem count_afresh_le {id next : Nat} (old : id < next) (path : List (Frame Stamp)) :
    ((afresh next path).flatMap Frame.ids).count id ≤ (path.flatMap Frame.ids).count id := by
  induction path generalizing next with
  | nil => exact Nat.le_refl _
  | cons frame path ih =>
    cases frame with
    | list before after =>
      rw [afresh, List.flatMap_cons, List.flatMap_cons, List.count_append, List.count_append]
      exact Nat.add_le_add_left (ih old) _
    | node kind before after stamp =>
      have deeper : ((afresh (next + 1) path).flatMap Frame.ids).count id ≤ _ := ih (Nat.lt_succ_of_lt old)
      have other : next ≠ id := Nat.ne_of_gt old
      simp only [afresh, List.flatMap_cons, Frame.ids, List.cons_append, List.count_cons_of_ne other]
      rw [List.count_cons, List.count_append, List.count_append]
      omega

/-- A node below the root that occurs once can be exchanged for anything that does not hold it. -/
theorem Tree.exists_exchanged {root value new : Tree Stamp} {place : List Nat} {old : Nat}
    (here : root.at? place = some value) (is : value.id? = some old) (once : root.ids.count old ≤ 1)
    (declaration : root.kind = "TypeDecl") (inner : place ≠ []) (free : old ∉ new.ids) (next : Nat) :
    ∃ result last, root.exchange? next old (new.map .kept) = some (result, last) ∧ next ≤ last ∧
      root.Exchanged place new next result := by
  obtain ⟨path, rfl, rfl⟩ := Tree.exists_path_of_at? here
  -- the node stands at the end of the path, so it does not stand around it
  have apart : old ∉ path.flatMap Frame.ids := by
    intro around
    have found := List.count_pos_iff.mpr around
    have ended := List.count_pos_iff.mpr (Tree.mem_ids_of_id? is)
    rw [(ids_plug path value).count_eq, List.count_append] at once
    omega
  have other : (new.map .kept).isKept old = false := by
    rw [← Bool.not_eq_true, new.isKept_kept]
    exact fun same => free (Tree.mem_ids_of_id? same)
  have kind (filler : Tree Stamp) (copied : Nat) :
      (plug (afresh copied path) filler).kind = (plug path value).kind := by
    cases path with
    | nil => exact absurd rfl inner
    | cons frame path => cases frame <;> rfl
  have kindDraft : (plug (path.map Frame.copied) (new.map .kept)).kind = (plug path value).kind := by
    cases path with
    | nil => exact absurd rfl inner
    | cons frame path => exact frame.kind_copied _ _
  refine ⟨plug (afresh next path) new, next + (above path).length, ?_, Nat.le_add_right .., ?_, ?_, ?_, ?_⟩
  · have settled := settle_plug path new next
    simp only [exchange?, visit_plug apart, Tree.visit_of_id? is, other, Visit.result, kindDraft, declaration,
      Bool.false_eq_true, if_false, Option.map_some, Option.getD_some, and_self, if_true]
    exact congrArg some settled
  · exact kind new next
  · rw [put_plug, map_plug_afresh]
  · intro position high
    rw [put_plug, at?_plug_afresh next high]
  · intro id old
    have fewer := count_afresh_le old path
    rw [(ids_plug _ new).count_eq, (ids_plug path value).count_eq, List.count_append, List.count_append]
    omega

/-! ### Independent replacements -/

theorem Node.id?_tree (node : Node Stamp) : node.tree.id? = some node.tag.id := by
  rw [tree_eq]
  rfl

/-- A node that another one does not contain is not below it. -/
theorem not_prefix_of_not_mem {root : Tree Stamp} {first second : Node Stamp} {place other : List Nat}
    (here : root.at? place = some first.tree) (there : root.at? other = some second.tree)
    (apart : second.tag.id ∉ ids first.nodes) : ¬ place <+: other := by
  rintro ⟨rest, rfl⟩
  rw [Tree.at?_append, here, Option.bind_some] at there
  refine apart ?_
  rw [← first.ids_tree]
  exact Tree.mem_ids_of_at? there (Tree.mem_ids_of_id? second.id?_tree)

def Edited.exchangeBoth (edited : Edited) (first : Node Stamp) (firstNew : Tree Stamp) (second : Node Stamp)
    (secondNew : Tree Stamp) : Option (Tree Stamp × Nat) := do
  let (tree, next) ← (edited.exchange first (firstNew.map .kept)).toOption
  tree.exchange? next second.tag.id (secondNew.map .kept)

theorem Edited.Coherent.exists_exchangeBoth {edited : Edited} (coherent : edited.Coherent)
    {first second : Node Stamp} {place other : List Nat}
    (firstAt : edited.root.tree.at? place = some first.tree)
    (secondAt : edited.root.tree.at? other = some second.tree) (inner : place ≠ [] ∧ other ≠ [])
    (apart : second.tag.id ∉ ids first.nodes ∧ first.tag.id ∉ ids second.nodes)
    {firstNew secondNew : Tree Stamp} (firstFree : first.tag.id ∉ firstNew.ids)
    (secondFree : second.tag.id ∉ firstNew.ids ∧ second.tag.id ∉ secondNew.ids) :
    ∃ result last, edited.exchangeBoth first firstNew second secondNew = some (result, last) ∧
      result.map Stamp.location =
        ((edited.root.tree.put place firstNew).put other secondNew).map Stamp.location ∧
      ∀ position, ¬ Above position place → ¬ Above position other →
        result.at? position = ((edited.root.tree.put place firstNew).put other secondNew).at? position := by
  have outside := not_prefix_of_not_mem firstAt secondAt apart.1
  have beside := not_prefix_of_not_mem secondAt firstAt apart.2
  have distinct := coherent.distinct
  have below := coherent.below
  rw [← Declaration.ids_tree] at distinct below
  obtain ⟨tree, next, exchanged, later, middle⟩ := Tree.exists_exchanged firstAt first.id?_tree
    (List.nodup_iff_count_le_one.mp distinct _) rfl inner.1 firstFree edited.next
  have put : (edited.root.tree.put place firstNew).at? other = some second.tree := by
    rw [Tree.at?_put_of_apart outside beside, secondAt]
  -- the second node is still there, and there only
  have still : tree.at? other = some second.tree := by
    rw [middle.same other fun above => beside above.1, put]
  have once : tree.ids.count second.tag.id ≤ 1 := by
    have used := below _ (Tree.mem_ids_of_at? secondAt (Tree.mem_ids_of_id? second.id?_tree))
    have counted := middle.counts _ used
    have before := List.nodup_iff_count_le_one.mp distinct second.tag.id
    have unused := List.count_eq_zero.mpr secondFree.1
    omega
  obtain ⟨result, last, exchangedAgain, -, ended⟩ := Tree.exists_exchanged still second.id?_tree once
    middle.kind inner.2 secondFree.2 next
  refine ⟨result, last, ?_, ?_, ?_⟩
  · rw [exchangeBoth, toOption_eq_some_iff.mpr ((edited.exchange_eq_ok_iff _ _ _).mpr exchanged)]
    exact exchangedAgain
  · rw [ended.written, Tree.map_put, middle.written, ← Tree.map_put]
  · intro position high higher
    rw [ended.same position higher]
    exact Tree.at?_put_congr higher (middle.same position high) (by simp [still]) (by simp [put]) secondNew

/-- Replacements of nodes that do not contain each other are independent. Whichever is made first, both
succeed and the same tree comes out; at every place that is not above one of the two nodes the very same
node stands. -/
theorem Edited.Coherent.exchanges_commute {edited : Edited} (coherent : edited.Coherent)
    {first second : Node Stamp} (firstIn : first ∈ edited.root.below) (secondIn : second ∈ edited.root.below)
    (apart : second.tag.id ∉ ids first.nodes ∧ first.tag.id ∉ ids second.nodes)
    {firstNew secondNew : Tree Stamp}
    (firstFree : first.tag.id ∉ firstNew.ids ∧ first.tag.id ∉ secondNew.ids)
    (secondFree : second.tag.id ∉ firstNew.ids ∧ second.tag.id ∉ secondNew.ids) :
    ∃ place other, edited.root.tree.at? place = some first.tree ∧
      edited.root.tree.at? other = some second.tree ∧
      ∃ one oneNext two twoNext,
        edited.exchangeBoth first firstNew second secondNew = some (one, oneNext) ∧
        edited.exchangeBoth second secondNew first firstNew = some (two, twoNext) ∧
        one.map Stamp.location = two.map Stamp.location ∧
        one.at? place = some firstNew ∧ one.at? other = some secondNew ∧
        ∀ position, ¬ Above position place → ¬ Above position other →
          one.at? position = two.at? position := by
  obtain ⟨firstIndex, firstRest, firstAt⟩ := (Node.declaration edited.root).exists_place firstIn
  obtain ⟨secondIndex, secondRest, secondAt⟩ := (Node.declaration edited.root).exists_place secondIn
  -- neither place is inside of the other one, so writing at both does not depend on the order
  have outside := not_prefix_of_not_mem firstAt secondAt apart.1
  have beside := not_prefix_of_not_mem secondAt firstAt apart.2
  have same := Tree.put_comm outside beside edited.root.tree firstNew secondNew
  obtain ⟨one, oneNext, oneExchanged, oneWritten, oneSame⟩ :=
    coherent.exists_exchangeBoth firstAt secondAt (by simp) apart firstFree.1 secondFree
  obtain ⟨two, twoNext, twoExchanged, twoWritten, twoSame⟩ :=
    coherent.exists_exchangeBoth secondAt firstAt (by simp) apart.symm secondFree.2 firstFree.symm
  refine ⟨_, _, firstAt, secondAt, one, oneNext, two, twoNext, oneExchanged, twoExchanged, ?_, ?_, ?_, ?_⟩
  · rw [oneWritten, twoWritten, same]
  · rw [oneSame _ (fun above => above.2 rfl) (fun above => outside above.1),
      Tree.at?_put_of_apart beside outside]
    exact Tree.at?_put_self firstAt firstNew
  · rw [oneSame _ (fun above => beside above.1) (fun above => above.2 rfl), same,
      Tree.at?_put_of_apart outside beside]
    exact Tree.at?_put_self secondAt secondNew
  · intro position high higher
    rw [oneSame position high higher, twoSame position higher high, same]

/-- The first line gives way to an empty body, and a variant of the second line to a text. Both stand in one
list, and no order is the wrong one. -/
theorem dial_exchanges_commute :
    let edited := Edited.load 1 dial
    let line := Node.line edited.root.body.lines[0]
    let variant := Node.variant edited.root.body.lines[1].variants[0]
    let block : Tree Stamp := .node "MemberBlock" [.list []] ⟨100, none⟩
    let caption : Tree Stamp := .node "StringLiteral" [.leaf "high"] ⟨101, none⟩
    ∃ one oneNext two twoNext,
      edited.exchangeBoth line block variant caption = some (one, oneNext) ∧
      edited.exchangeBoth variant caption line block = some (two, twoNext) ∧
      one.map Stamp.location = two.map Stamp.location := by
  intro edited line variant block caption
  obtain ⟨_, _, -, -, one, oneNext, two, twoNext, first, second, same, -⟩ :=
    @Edited.Coherent.exchanges_commute edited (Edited.coherent_load 1 dial) line variant (by decide)
      (by decide) (by decide) block caption (by decide) (by decide)
  exact ⟨one, oneNext, two, twoNext, first, second, same⟩

end RawMapping
