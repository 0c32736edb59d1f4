import RawMapping.Declaration.Tree
import RawMapping.Proofs.Declaration.Substitution

/-! Replacing a node of a plain tree. A path leads from the root to the place of the node; along it every
node gives way to a copy, and nothing around it is touched. The search for the node by its identity ends
at that place and nowhere else. -/

set_option autoImplicit false

namespace RawMapping

variable {α β : Type}

/-! ### Trees -/

theorem Tree.mapAll_eq (f : α → β) (values : List (Tree α)) :
    Tree.mapAll f values = values.map (Tree.map f) := by
  induction values with
  | nil => rfl
  | cons value values ih => rw [mapAll, ih, List.map_cons]

theorem Tree.renewAll_eq (f : α → StateM Nat β) (values : List (Tree α)) :
    Tree.renewAll f values = values.mapM (Tree.renew f) := by
  induction values with
  | nil => rfl
  | cons value values ih => rw [renewAll, ih, List.mapM_cons]

theorem Tree.visitAll_eq (old : Nat) (new : Tree (Draft Stamp)) (values : List (Tree Stamp)) :
    Tree.visitAll old new values = values.map (Tree.visit old new) := by
  induction values with
  | nil => rfl
  | cons value values ih => rw [visitAll, ih, List.map_cons]

/-- A property that passes from what a value holds to the value holds of every value. -/
theorem Tree.induct {motive : Tree α → Prop} (leaf : ∀ content, motive (.leaf content))
    (list : ∀ items, (∀ item ∈ items, motive item) → motive (.list items))
    (node : ∀ kind fields tag, (∀ field ∈ fields, motive field) → motive (.node kind fields tag))
    (tree : Tree α) : motive tree := by
  refine @Tree.rec α motive (fun values => ∀ value ∈ values, motive value) leaf list node ?_ ?_ tree
  · exact List.forall_mem_nil _
  · intro value values here later
    exact List.forall_mem_cons.mpr ⟨here, later⟩

def Tree.id? : Tree Stamp → Option Nat
  | .node _ _ stamp => some stamp.id
  | _ => none

mutual

def Tree.ids : Tree Stamp → List Nat
  | .leaf _ => []
  | .list items => Tree.idsAll items
  | .node _ fields stamp => stamp.id :: Tree.idsAll fields

def Tree.idsAll : List (Tree Stamp) → List Nat
  | [] => []
  | value :: values => value.ids ++ Tree.idsAll values

end

theorem Tree.idsAll_eq (values : List (Tree Stamp)) : Tree.idsAll values = values.flatMap Tree.ids := by
  induction values with
  | nil => rfl
  | cons value values ih => rw [idsAll, ih, List.flatMap_cons]

theorem Tree.ids_leaf (content : Option String) : (Tree.leaf content).ids = [] := rfl

theorem Tree.ids_list (items : List (Tree Stamp)) : (Tree.list items).ids = items.flatMap Tree.ids := by
  rw [ids, idsAll_eq]

theorem Tree.ids_node (kind : String) (fields : List (Tree Stamp)) (stamp : Stamp) :
    (Tree.node kind fields stamp).ids = stamp.id :: fields.flatMap Tree.ids := by
  rw [ids, idsAll_eq]

/-! ### Places in a tree -/

/-- What is around a value: a list with other items, or a node with other fields. -/
inductive Frame (α : Type) where
  | list (before after : List (Tree α))
  | node (kind : String) (before after : List (Tree α)) (tag : α)

def Frame.fill : Frame α → Tree α → Tree α
  | .list before after, value => .list (before ++ value :: after)
  | .node kind before after tag, value => .node kind (before ++ value :: after) tag

def plug (path : List (Frame α)) (value : Tree α) : Tree α :=
  path.foldr Frame.fill value

@[simp] theorem plug_nil (value : Tree α) : plug [] value = value := rfl

@[simp] theorem plug_cons (frame : Frame α) (path : List (Frame α)) (value : Tree α) :
    plug (frame :: path) value = frame.fill (plug path value) := rfl

def above : List (Frame α) → List α
  | [] => []
  | .list _ _ :: path => above path
  | .node _ _ _ tag :: path => tag :: above path

/-- The path through copies of its nodes, with identities from `next` on. What is around it stays. -/
def afresh (next : Nat) : List (Frame Stamp) → List (Frame Stamp)
  | [] => []
  | .list before after :: path => .list before after :: afresh next path
  | .node kind before after stamp :: path =>
    .node kind before after ⟨next, stamp.location⟩ :: afresh (next + 1) path

def Frame.ids : Frame Stamp → List Nat
  | .list before after => (before ++ after).flatMap Tree.ids
  | .node _ before after stamp => stamp.id :: (before ++ after).flatMap Tree.ids

theorem Frame.ids_fill (frame : Frame Stamp) (value : Tree Stamp) :
    (frame.fill value).ids.Perm (frame.ids ++ value.ids) := by
  cases frame with
  | list before after =>
    rw [fill, Tree.ids_list, Frame.ids, List.flatMap_append, List.flatMap_append, List.flatMap_cons,
      List.append_assoc]
    exact List.perm_append_comm.append_left _
  | node kind before after stamp =>
    rw [fill, Tree.ids_node, Frame.ids, List.flatMap_append, List.flatMap_append, List.flatMap_cons,
      List.cons_append, List.append_assoc]
    exact (List.perm_append_comm.append_left _).cons _

theorem ids_plug (path : List (Frame Stamp)) (value : Tree Stamp) :
    (plug path value).ids.Perm (path.flatMap Frame.ids ++ value.ids) := by
  induction path with
  | nil => exact .refl _
  | cons frame path ih =>
    rw [List.flatMap_cons, List.append_assoc]
    exact (frame.ids_fill _).trans (ih.append_left _)

theorem Tree.mem_ids_of_id? {value : Tree Stamp} {id : Nat} (is : value.id? = some id) : id ∈ value.ids := by
  cases value with
  | leaf | list => cases is
  | node kind fields stamp =>
    cases is
    rw [ids_node]
    exact List.mem_cons_self

/-- Every identity in a tree is that of a node at the end of some path. -/
theorem Tree.exists_path {tree : Tree Stamp} {id : Nat} (member : id ∈ tree.ids) :
    ∃ path value, tree = plug path value ∧ value.id? = some id := by
  induction tree using Tree.induct with
  | leaf content => cases member
  | list items ih =>
    rw [ids_list, List.mem_flatMap] at member
    obtain ⟨item, inside, below⟩ := member
    obtain ⟨path, value, rfl, is⟩ := ih item inside below
    obtain ⟨before, after, rfl⟩ := List.append_of_mem inside
    exact ⟨.list before after :: path, value, rfl, is⟩
  | node kind fields stamp ih =>
    rw [ids_node, List.mem_cons, List.mem_flatMap] at member
    rcases member with rfl | ⟨field, inside, below⟩
    · exact ⟨[], _, rfl, rfl⟩
    · obtain ⟨path, value, rfl, is⟩ := ih field inside below
      obtain ⟨before, after, rfl⟩ := List.append_of_mem inside
      exact ⟨.node kind before after stamp :: path, value, rfl, is⟩

/-! ### The search -/

def Tree.draft (old : Nat) (new : Tree (Draft Stamp)) (value : Tree Stamp) : Tree (Draft Stamp) :=
  (Tree.visit old new value).result value

section

variable {old : Nat} {new : Tree (Draft Stamp)}

theorem zipWith_result (values : List (Tree Stamp)) :
    values.zipWith Visit.result (values.map (Tree.visit old new)) = values.map (Tree.draft old new) := by
  rw [List.zipWith_map_right, List.zipWith_self]
  rfl

theorem Tree.draft_of_idle {value : Tree Stamp} (idle : Tree.visit old new value = ⟨false, none⟩) :
    Tree.draft old new value = value.map .kept := by
  rw [draft, idle]
  rfl

theorem any_of_idle {values : List (Tree Stamp)}
    (idle : ∀ value ∈ values, Tree.visit old new value = ⟨false, none⟩) {holds : Visit → Bool}
    (other : holds ⟨false, none⟩ = false) : (values.map (Tree.visit old new)).any holds = false := by
  rw [List.any_map, List.any_eq_false]
  intro value member
  simp [idle value member, other]

theorem Visit.around_of_idle {values : List (Tree Stamp)}
    (idle : ∀ value ∈ values, Tree.visit old new value = ⟨false, none⟩)
    (rebuild : List (Tree (Draft Stamp)) → Tree (Draft Stamp)) :
    Visit.around values (values.map (Tree.visit old new)) rebuild = ⟨false, none⟩ := by
  simp [around, any_of_idle idle]

/-- Where nothing is found beside a value, what becomes of the value decides. -/
theorem Visit.around_at {before after : List (Tree Stamp)}
    (idle : ∀ other ∈ before ++ after, Tree.visit old new other = ⟨false, none⟩) (value : Tree Stamp)
    (rebuild : List (Tree (Draft Stamp)) → Tree (Draft Stamp)) :
    Visit.around (before ++ value :: after) ((before ++ value :: after).map (Tree.visit old new)) rebuild =
      ⟨(Tree.visit old new value).found, (Tree.visit old new value).replaced?.map fun draft =>
        rebuild (before.map (Tree.map .kept) ++ draft :: after.map (Tree.map .kept))⟩ := by
  obtain ⟨front, back⟩ := List.forall_mem_append.mp idle
  have kept {others : List (Tree Stamp)}
      (idle : ∀ other ∈ others, Tree.visit old new other = ⟨false, none⟩) :
      others.map (Tree.draft old new) = others.map (Tree.map .kept) :=
    List.map_congr_left fun other member => Tree.draft_of_idle (idle other member)
  rw [around, zipWith_result]
  simp only [List.map_append, List.map_cons, List.any_append, List.any_cons, any_of_idle front,
    any_of_idle back, Bool.false_or, Bool.or_false, Option.isSome_none, kept front, kept back, Tree.draft]
  cases becomes : (Tree.visit old new value).replaced? with
  | none => rfl
  | some draft => simp [Visit.result, becomes]

theorem Tree.visit_of_absent {tree : Tree Stamp} (absent : old ∉ tree.ids) :
    Tree.visit old new tree = ⟨false, none⟩ := by
  induction tree using Tree.induct with
  | leaf content => rfl
  | list items ih =>
    rw [ids_list, List.mem_flatMap, not_exists] at absent
    rw [visit, visitAll_eq]
    exact Visit.around_of_idle
      (fun item member => ih item member fun inside => absent item ⟨member, inside⟩) _
  | node kind fields stamp ih =>
    rw [ids_node, List.mem_cons, not_or, List.mem_flatMap, not_exists] at absent
    rw [visit, if_neg (Ne.symm absent.1), visitAll_eq]
    exact Visit.around_of_idle
      (fun field member => ih field member fun inside => absent.2 field ⟨member, inside⟩) _

/-- The frame of a copy, with all that is beside the value kept. -/
def Frame.copied : Frame Stamp → Frame (Draft Stamp)
  | .list before after => .list (before.map (Tree.map .kept)) (after.map (Tree.map .kept))
  | .node kind before after stamp =>
    .node kind (before.map (Tree.map .kept)) (after.map (Tree.map .kept)) (.copied stamp)

theorem Frame.visit_fill {frame : Frame Stamp} (absent : old ∉ frame.ids) (value : Tree Stamp) :
    Tree.visit old new (frame.fill value) =
      ⟨(Tree.visit old new value).found,
        (Tree.visit old new value).replaced?.map frame.copied.fill⟩ := by
  have idle {others : List (Tree Stamp)} (absent : old ∉ others.flatMap Tree.ids) :
      ∀ other ∈ others, Tree.visit old new other = ⟨false, none⟩ := by
    intro other member
    rw [List.mem_flatMap, not_exists] at absent
    exact Tree.visit_of_absent fun inside => absent other ⟨member, inside⟩
  cases frame with
  | list before after =>
    rw [fill, Tree.visit, Tree.visitAll_eq, Visit.around_at (idle absent)]
    rfl
  | node kind before after stamp =>
    rw [ids, List.mem_cons, not_or] at absent
    rw [fill, Tree.visit, if_neg (Ne.symm absent.1), Tree.visitAll_eq, Visit.around_at (idle absent.2)]
    rfl

theorem visit_plug {path : List (Frame Stamp)} (absent : old ∉ path.flatMap Frame.ids)
    (value : Tree Stamp) :
    Tree.visit old new (plug path value) =
      ⟨(Tree.visit old new value).found,
        (Tree.visit old new value).replaced?.map (plug (path.map Frame.copied))⟩ := by
  induction path with
  | nil =>
    have same : plug ([] : List (Frame (Draft Stamp))) = id := rfl
    rw [List.map_nil, same, Option.map_id]
    rfl
  | cons frame path ih =>
    rw [List.flatMap_cons, List.mem_append, not_or] at absent
    have inner := ih absent.2
    rw [plug_cons, Frame.visit_fill absent.1, inner, Option.map_map]
    rfl

theorem Tree.visit_of_id? {value : Tree Stamp} (is : value.id? = some old) :
    Tree.visit old new value = ⟨true, if new.isKept old then none else some new⟩ := by
  cases value with
  | leaf | list => cases is
  | node kind fields stamp =>
    cases is
    rw [visit, if_pos rfl]

end

/-! ### Settling -/

theorem Tree.settle_kept (tree : Tree Stamp) (next : Nat) :
    (tree.map .kept).renew settle next = (tree, next) := by
  induction tree using Tree.induct generalizing next with
  | leaf content => rfl
  | list items ih =>
    have settled := mapM_kept_of_mem ih next
    simp only [map, renew, mapAll_eq, renewAll_eq, bind, StateT.bind, settled]
    rfl
  | node kind fields stamp ih =>
    have settled := mapM_kept_of_mem ih next
    simp only [map, renew, mapAll_eq, renewAll_eq, settle, bind, StateT.bind, pure_next, settled]

theorem settle_around (before after : List (Tree Stamp)) {draft : Tree (Draft Stamp)} {value : Tree Stamp}
    {next last : Nat} (settled : draft.renew settle next = (value, last)) :
    Tree.renewAll settle (before.map (Tree.map .kept) ++ draft :: after.map (Tree.map .kept)) next =
      (before ++ value :: after, last) := by
  have front := mapM_kept (fun item : Tree Stamp => item.settle_kept) before next
  have back := mapM_kept (fun item : Tree Stamp => item.settle_kept) after last
  rw [Tree.renewAll_eq, List.mapM_append, List.mapM_cons]
  simp only [bind, StateT.bind, front, settled, back]
  rfl

/-- Settling a path gives identities to its nodes, from the root down. -/
theorem settle_plug (path : List (Frame Stamp)) (value : Tree Stamp) (next : Nat) :
    (plug (path.map Frame.copied) (value.map .kept)).renew settle next =
      (plug (afresh next path) value, next + (above path).length) := by
  induction path generalizing next with
  | nil => exact value.settle_kept next
  | cons frame path ih =>
    rw [List.map_cons, plug_cons]
    cases frame with
    | list before after =>
      have around := settle_around before after (ih next)
      simp only [Frame.copied, Frame.fill, Tree.renew, bind, StateT.bind, around]
      rfl
    | node kind before after stamp =>
      -- the copy takes its identity before the values in it are settled
      have around := settle_around before after (ih (next + 1))
      have fresh : settle (.copied stamp) next = (⟨next, stamp.location⟩, next + 1) := rfl
      simp only [Frame.copied, Frame.fill, Tree.renew, bind, StateT.bind, fresh, around, afresh, above,
        plug_cons, List.length_cons, pure_next]
      rw [Nat.add_right_comm, Nat.add_assoc]

/-! ### Nodes as trees -/

def Node.fields (node : Node α) : List (Tree α) :=
  match node.tree with
  | .node _ fields _ => fields
  | _ => []

theorem Node.tree_eq (node : Node α) : node.tree = .node node.kind node.fields node.tag := by
  cases node with
  | literal node => cases node <;> rfl
  | _ => rfl

theorem Node.ids_fields (node : Node Stamp) :
    node.fields.flatMap Tree.ids = node.children.flatMap fun child => child.tree.ids := by
  cases node with
  | literal node => cases node <;> rfl
  | identifier | type | argument | parameter | foreign => rfl
  | variant node =>
    obtain ⟨name, parameters, tag⟩ := node
    cases parameters with
    | none => rfl
    | some parameters =>
      simp [fields, tree, Variant.tree, children, Tree.ids_list, List.flatMap_map]
  | attr | line | body | declaration =>
    simp [fields, tree, Attribute.tree, CaseLine.tree, Body.tree, Declaration.tree, children,
      Tree.ids_leaf, Tree.ids_list, List.flatMap_map]

theorem Node.ids_tree (node : Node Stamp) : node.tree.ids = RawMapping.ids node.nodes := by
  induction node using Node.induct with
  | step node ih =>
    rw [tree_eq, Tree.ids_node, ids_fields, nodes_eq, below_eq, RawMapping.ids, List.map_cons,
      List.map_flatMap]
    exact congrArg _ (List.flatMap_congr ih)

theorem Declaration.ids_tree (declaration : Declaration Stamp) :
    declaration.tree.ids = RawMapping.ids declaration.nodes :=
  (Node.declaration declaration).ids_tree

/-! ### Replacing a node of a declaration -/

/-- The node with the identity of `old` stands at the end of the path. -/
def Edited.Stands (edited : Edited) (old : Node Stamp) (path : List (Frame Stamp)) : Prop :=
  ∃ value, edited.root.tree = plug path value ∧ value.id? = some old.tag.id

/-- Where the tree has a node with the identity of the other one, it has the other one: what a node holds
never changes. -/
def Tree.Knows (tree other : Tree Stamp) : Prop :=
  ∀ path value id, tree = plug path value → value.id? = some id → other.id? = some id → value = other

theorem Edited.exists_stands_iff (edited : Edited) (old : Node Stamp) :
    (∃ path, edited.Stands old path) ↔ ∃ node ∈ edited.root.nodes, node.tag.id = old.tag.id := by
  have members : old.tag.id ∈ edited.root.tree.ids ↔
      ∃ node ∈ edited.root.nodes, node.tag.id = old.tag.id := by
    rw [Declaration.ids_tree, RawMapping.ids, List.mem_map]
  rw [← members]
  constructor
  · rintro ⟨path, value, tree, is⟩
    rw [tree, (ids_plug path value).mem_iff]
    exact List.mem_append_right _ (Tree.mem_ids_of_id? is)
  · intro member
    obtain ⟨path, value, tree, is⟩ := Tree.exists_path member
    exact ⟨path, value, tree, is⟩

theorem Tree.kind_map (f : α → β) (tree : Tree α) : (tree.map f).kind = tree.kind := by
  cases tree with
  | leaf content => cases content <;> rfl
  | list | node => rfl

theorem Tree.isKept_kept (tree : Tree Stamp) (id : Nat) :
    (tree.map .kept).isKept id = true ↔ tree.id? = some id := by
  cases tree with
  | leaf | list => simp [map, isKept, id?]
  | node kind fields stamp => simp [map, isKept, id?]

theorem Frame.kind_copied (frame : Frame Stamp) (draft : Tree (Draft Stamp)) (value : Tree Stamp) :
    (frame.copied.fill draft).kind = (frame.fill value).kind := by
  cases frame <;> rfl

theorem Edited.exchange_of_absent {edited : Edited} {old : Node Stamp}
    (absent : ∀ path, ¬ edited.Stands old path) (new : Tree (Draft Stamp)) :
    edited.exchange old new = .error (.absent old.kind edited.root.name.text) := by
  have unknown : old.tag.id ∉ edited.root.tree.ids := fun member => by
    obtain ⟨path, value, tree, is⟩ := Tree.exists_path member
    exact absent path ⟨value, tree, is⟩
  simp [exchange, Tree.visit_of_absent unknown]

theorem Edited.Coherent.exchange_of_stands {edited : Edited} (coherent : edited.Coherent)
    {old : Node Stamp} {path : List (Frame Stamp)} (stands : edited.Stands old path) (new : Tree Stamp) :
    edited.exchange old (new.map .kept) =
      if new.id? = some old.tag.id then .ok (edited.root.tree, edited.next)
      else if path = [] ∧ new.kind ≠ (Node.declaration edited.root).kind then
        .error (.notDeclaration new.kind)
      else .ok (plug (afresh edited.next path) new, edited.next + (above path).length) := by
  obtain ⟨value, tree, is⟩ := stands
  have distinct := coherent.distinct
  -- no node occurs twice, so nothing is found beside the path
  have apart : old.tag.id ∉ path.flatMap Frame.ids := fun member => by
    rw [← Declaration.ids_tree, tree, (ids_plug path value).nodup_iff, List.nodup_append] at distinct
    exact distinct.2.2 _ member _ (Tree.mem_ids_of_id? is) rfl
  unfold exchange
  rw [tree, visit_plug apart, Tree.visit_of_id? is]
  by_cases same : new.id? = some old.tag.id
  · have kept := (new.isKept_kept old.tag.id).mpr same
    have kind : (plug path value).kind = (Node.declaration edited.root).kind := by rw [← tree]; rfl
    have settled := (plug path value).settle_kept edited.next
    simp only [kept, same, if_true, Option.map_none, Visit.result, Option.getD_none, Bool.not_true,
      Bool.false_eq_true, if_false, Tree.kind_map, kind, ne_eq, not_true_eq_false]
    exact congrArg Except.ok settled
  · have other : (new.map .kept).isKept old.tag.id = false := by
      rw [← Bool.not_eq_true, new.isKept_kept]
      exact same
    simp only [other, same, if_false, Option.map_some, Visit.result, Option.getD_some, Bool.not_true,
      Bool.false_eq_true]
    have settled := settle_plug path new edited.next
    cases path with
    | nil =>
      simp only [List.map_nil, plug_nil, Tree.kind_map, true_and] at settled ⊢
      exact if_congr Iff.rfl rfl (congrArg Except.ok settled)
    | cons frame path =>
      have kind : (plug ((frame :: path).map Frame.copied) (new.map .kept)).kind =
          (Node.declaration edited.root).kind := by
        rw [List.map_cons, plug_cons, frame.kind_copied _ (plug path value), ← plug_cons, ← tree]
        rfl
      simp only [kind, ne_eq, not_true_eq_false, reduceCtorEq, false_and, if_false]
      exact congrArg Except.ok settled

theorem le_id_of_mem_above {next : Nat} {path : List (Frame Stamp)} {stamp : Stamp}
    (member : stamp ∈ above (afresh next path)) : next ≤ stamp.id := by
  induction path generalizing next with
  | nil => cases member
  | cons frame path ih =>
    cases frame with
    | list before after => exact ih member
    | node kind before after other =>
      rcases List.mem_cons.mp member with rfl | deeper
      · exact Nat.le_refl _
      · exact Nat.le_of_succ_le (ih deeper)

/-- Replacing is exact. Where the old node stands, the new one stands in its place, whatever it is and
whatever it holds; all around the path is untouched, and the nodes along the path are new ones, unless the
new node is the old one: then the tree stays as it is. There is an error exactly if the old node does not
stand anywhere, or stands at the root and the new one is no declaration. -/
theorem Edited.Coherent.exchange_is_exact {edited : Edited} (coherent : edited.Coherent)
    (old : Node Stamp) {new : Tree Stamp} (known : edited.root.tree.Knows new) :
    (∀ path, edited.Stands old path →
      (path = [] → new.kind = (Node.declaration edited.root).kind) →
        (new.id? ≠ some old.tag.id →
          edited.exchange old (new.map .kept) =
              .ok (plug (afresh edited.next path) new, edited.next + (above path).length) ∧
            ∀ stamp ∈ above (afresh edited.next path),
              edited.next ≤ stamp.id ∧ stamp.id ∉ ids edited.root.nodes) ∧
        (new.id? = some old.tag.id →
          edited.exchange old (new.map .kept) = .ok (edited.root.tree, edited.next) ∧
            edited.root.tree = plug path new)) ∧
    ((∃ path, edited.Stands old path) ↔ ∃ node ∈ edited.root.nodes, node.tag.id = old.tag.id) ∧
    (edited.exchange old (new.map .kept) = .error (.absent old.kind edited.root.name.text) ↔
      ∀ path, ¬ edited.Stands old path) ∧
    (edited.exchange old (new.map .kept) = .error (.notDeclaration new.kind) ↔
      edited.Stands old [] ∧ new.kind ≠ (Node.declaration edited.root).kind) := by
  refine ⟨fun path stands kind => ⟨fun other => ⟨?_, ?_⟩, fun same => ⟨?_, ?_⟩⟩,
    edited.exists_stands_iff old, ⟨?_, ?_⟩, ⟨?_, ?_⟩⟩
  · have stays : ¬ (path = [] ∧ new.kind ≠ (Node.declaration edited.root).kind) :=
      fun both => both.2 (kind both.1)
    rw [coherent.exchange_of_stands stands, if_neg other, if_neg stays]
  · intro stamp member
    have fresh := le_id_of_mem_above member
    exact ⟨fresh, fun taken => absurd (coherent.below _ taken) (Nat.not_lt.mpr fresh)⟩
  · rw [coherent.exchange_of_stands stands, if_pos same]
  · obtain ⟨value, tree, is⟩ := stands
    rw [tree, known path value _ tree is same]
  · -- where the node stands, no outcome says that it is absent
    intro failed path stands
    rw [coherent.exchange_of_stands stands] at failed
    split at failed
    · cases failed
    · split at failed <;> cases failed
  · exact fun absent => Edited.exchange_of_absent absent _
  · intro failed
    by_cases present : ∃ path, edited.Stands old path
    · obtain ⟨path, stands⟩ := present
      rw [coherent.exchange_of_stands stands] at failed
      split at failed
      · cases failed
      · split at failed
        · next wrong =>
          rw [wrong.1] at stands
          exact ⟨stands, wrong.2⟩
        · cases failed
    · rw [Edited.exchange_of_absent (not_exists.mp present)] at failed
      cases failed
  · rintro ⟨stands, kind⟩
    -- were it the declaration itself that is put in its own place, the kind would be right
    have other : new.id? ≠ some old.tag.id := fun same => by
      obtain ⟨value, tree, is⟩ := stands
      refine kind ?_
      rw [← known [] value _ tree is same, ← plug_nil value, ← tree]
      rfl
    rw [coherent.exchange_of_stands stands, if_neg other, if_pos ⟨rfl, kind⟩]

def dial : Declaration (Option Location) :=
  ⟨.enumKind, ⟨"Dial", none⟩, [],
    ⟨[⟨[], [⟨⟨"off", none⟩, none, none⟩], none⟩, ⟨[], [⟨⟨"on", none⟩, none, none⟩], none⟩], none⟩, none⟩

/-- The first line gives way to a body that holds it. The body stays as it is, and the declaration and the
body around it are new nodes. -/
theorem dial_exchange :
    let edited := Edited.load 1 dial
    let line := edited.root.body.lines[0]
    let wrapped : Tree Stamp := .node "MemberBlock" [.list [line.tree]] ⟨0, none⟩
    ∃ name other, edited.exchange (.line line) (wrapped.map .kept) =
      .ok (.node "TypeDecl" [.leaf "enum", name, .list [],
        .node "MemberBlock" [.list [wrapped, other]] ⟨edited.next + 1, none⟩] ⟨edited.next, none⟩,
        edited.next + 2) := by
  intro edited line wrapped
  have known : edited.root.tree.Knows wrapped := by
    intro path value id tree is same
    cases same
    have inside : 0 ∈ RawMapping.ids edited.root.nodes := by
      rw [← Declaration.ids_tree, tree, (ids_plug path value).mem_iff]
      exact List.mem_append_right _ (Tree.mem_ids_of_id? is)
    exact absurd inside (by decide)
  have stands : edited.Stands (.line line)
      [.node "TypeDecl" [.leaf "enum", edited.root.name.tree, .list []] [] edited.root.tag,
        .node "MemberBlock" [] [] edited.root.body.tag,
        .list [] [edited.root.body.lines[1].tree]] := ⟨line.tree, rfl, rfl⟩
  have exchanged := (Edited.coherent_load 1 dial).exchange_is_exact (.line line) known
  obtain ⟨result, -⟩ := (exchanged.1 _ stands nofun).1 (by decide)
  exact ⟨edited.root.name.tree, edited.root.body.lines[1].tree, result⟩

end RawMapping
