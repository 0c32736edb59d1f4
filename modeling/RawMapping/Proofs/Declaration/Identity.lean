import Mathlib.Data.List.Perm.Subperm
import RawMapping.Declaration.Draft

/-! Identities of nodes. Renewing the tags of a tree goes through its nodes in preorder and keeps its
shape. Settling a draft keeps the identities that the draft keeps and gives out new ones from the next
unused one on; so no identity occurs twice if none that is kept does. -/

set_option autoImplicit false

namespace RawMapping

variable {α β γ δ ε : Type}

/-! ### Renewing in preorder -/

def Renewed (f : α → StateM Nat β) (next : Nat) (old : List α) (new : List β) (last : Nat) : Prop :=
  old.mapM f next = (new, last)

theorem Renewed.nil (f : α → StateM Nat β) (next : Nat) : Renewed f next [] [] next := rfl

theorem Renewed.cons (f : α → StateM Nat β) (tag : α) (next : Nat) {last : Nat} {old : List α}
    {new : List β} (rest : Renewed f (f tag next).2 old new last) :
    Renewed f next (tag :: old) ((f tag next).1 :: new) last := by
  unfold Renewed at *
  rw [List.mapM_cons]
  change ((f tag next).1 :: (old.mapM f (f tag next).2).1, (old.mapM f (f tag next).2).2) = _
  rw [rest]

theorem Renewed.of_cons {f : α → StateM Nat β} {tag : α} {next last : Nat} {old : List α}
    {new : List β} (renewed : Renewed f next (tag :: old) new last) :
    ∃ rest, new = (f tag next).1 :: rest ∧ Renewed f (f tag next).2 old rest last := by
  unfold Renewed at *
  rw [List.mapM_cons] at renewed
  obtain ⟨rfl, rfl⟩ := Prod.mk.inj renewed
  exact ⟨_, rfl, rfl⟩

theorem Renewed.append {f : α → StateM Nat β} {next middle last : Nat} {old more : List α}
    {new rest : List β} (first : Renewed f next old new middle)
    (second : Renewed f middle more rest last) :
    Renewed f next (old ++ more) (new ++ rest) last := by
  unfold Renewed at *
  rw [List.mapM_append]
  simp only [bind, StateT.bind, first, second]
  rfl

theorem Renewed.flatMap {f : α → StateM Nat β} {renew : γ → StateM Nat δ} {tags : γ → List α}
    {newTags : δ → List β}
    (each : ∀ item next, Renewed f next (tags item) (newTags (renew item next).1) (renew item next).2)
    (items : List γ) (next : Nat) :
    Renewed f next (items.flatMap tags) ((items.mapM renew next).1.flatMap newTags)
      (items.mapM renew next).2 := by
  induction items generalizing next with
  | nil => exact .nil f next
  | cons item items ih =>
    rw [List.mapM_cons]
    exact (each item next).append (ih (renew item next).2)

theorem Identifier.renewed (f : α → StateM Nat β) (identifier : Identifier α) (next : Nat) :
    Renewed f next (identifier.nodes.map Node.tag) ((identifier.renew f next).1.nodes.map Node.tag)
      (identifier.renew f next).2 :=
  .cons f identifier.tag next (.nil f _)

theorem NamedType.renewed (f : α → StateM Nat β) (type : NamedType α) (next : Nat) :
    Renewed f next (type.nodes.map Node.tag) ((type.renew f next).1.nodes.map Node.tag)
      (type.renew f next).2 :=
  .cons f type.tag next (.nil f _)

theorem Literal.renewed (f : α → StateM Nat β) (literal : Literal α) (next : Nat) :
    Renewed f next (literal.nodes.map Node.tag) ((literal.renew f next).1.nodes.map Node.tag)
      (literal.renew f next).2 := by
  cases literal with
  | string value tag => exact .cons f tag next (.nil f _)
  | integer text tag => exact .cons f tag next (.nil f _)
  | placeholder label tag => exact .cons f tag next (.nil f _)

theorem Argument.renewed (f : α → StateM Nat β) (argument : Argument α) (next : Nat) :
    Renewed f next (argument.nodes.map Node.tag) ((argument.renew f next).1.nodes.map Node.tag)
      (argument.renew f next).2 :=
  .cons f argument.tag next (argument.value.renewed f _)

theorem Attribute.renewed (f : α → StateM Nat β) (attr : Attribute α) (next : Nat) :
    Renewed f next (attr.nodes.map Node.tag) ((attr.renew f next).1.nodes.map Node.tag)
      (attr.renew f next).2 := by
  simp only [nodes, below, List.map_cons, List.map_append, List.map_flatMap]
  exact .cons f attr.tag next
    (((attr.name.renewed f _).append (.flatMap (NamedType.renewed f) _ _)).append
      (.flatMap (Argument.renewed f) _ _))

theorem Parameter.renewed (f : α → StateM Nat β) (parameter : Parameter α) (next : Nat) :
    Renewed f next (parameter.nodes.map Node.tag) ((parameter.renew f next).1.nodes.map Node.tag)
      (parameter.renew f next).2 :=
  .cons f parameter.tag next (parameter.type.renewed f _)

theorem Variant.renewed (f : α → StateM Nat β) (variant : Variant α) (next : Nat) :
    Renewed f next (variant.nodes.map Node.tag) ((variant.renew f next).1.nodes.map Node.tag)
      (variant.renew f next).2 := by
  obtain ⟨name, parameters, tag⟩ := variant
  simp only [nodes, below, List.map_cons, List.map_append, List.map_flatMap]
  cases parameters with
  | none => exact .cons f tag next (.append (name.renewed f _) (.nil f _))
  | some parameters =>
    refine .cons f tag next (.append (name.renewed f _) ?_)
    exact .flatMap (Parameter.renewed f) parameters _

theorem CaseLine.renewed (f : α → StateM Nat β) (line : CaseLine α) (next : Nat) :
    Renewed f next (line.nodes.map Node.tag) ((line.renew f next).1.nodes.map Node.tag)
      (line.renew f next).2 := by
  simp only [nodes, below, List.map_cons, List.map_append, List.map_flatMap]
  exact .cons f line.tag next
    (.append (.flatMap (Attribute.renewed f) _ _) (.flatMap (Variant.renewed f) _ _))

theorem Body.renewed (f : α → StateM Nat β) (body : Body α) (next : Nat) :
    Renewed f next (body.nodes.map Node.tag) ((body.renew f next).1.nodes.map Node.tag)
      (body.renew f next).2 := by
  simp only [nodes, below, List.map_cons, List.map_flatMap]
  exact .cons f body.tag next (.flatMap (CaseLine.renewed f) _ _)

theorem Declaration.renewed (f : α → StateM Nat β) (declaration : Declaration α) (next : Nat) :
    Renewed f next (declaration.nodes.map Node.tag)
      ((declaration.renew f next).1.nodes.map Node.tag) (declaration.renew f next).2 := by
  simp only [nodes, below, List.map_cons, List.map_append, List.map_flatMap]
  exact .cons f declaration.tag next
    (((declaration.name.renewed f _).append (.flatMap (Attribute.renewed f) _ _)).append
      (declaration.body.renewed f _))

/-! ### Shapes -/

def Attribute.shape (attr : Attribute α) : Attribute Unit :=
  attr.map fun _ => ()

def Variant.shape (variant : Variant α) : Variant Unit :=
  variant.map fun _ => ()

def CaseLine.shape (line : CaseLine α) : CaseLine Unit :=
  line.map fun _ => ()

theorem CaseLine.shape_eq (line : CaseLine α) :
    line.shape = ⟨line.attributes.map Attribute.shape, line.variants.map Variant.shape, ()⟩ := rfl

@[simp] theorem Attribute.shape_map (f : α → β) (attr : Attribute α) :
    (attr.map f).shape = attr.shape :=
  attr.map_map f _

@[simp] theorem Variant.shape_map (f : α → β) (variant : Variant α) :
    (variant.map f).shape = variant.shape :=
  variant.map_map f _

@[simp] theorem CaseLine.shape_map (f : α → β) (line : CaseLine α) :
    (line.map f).shape = line.shape :=
  line.map_map f _

theorem map_mapM {renew : γ → StateM Nat δ} {after : δ → ε} {before : γ → ε}
    (each : ∀ item next, after (renew item next).1 = before item) (items : List γ) (next : Nat) :
    (items.mapM renew next).1.map after = items.map before := by
  induction items generalizing next with
  | nil => rfl
  | cons item items ih =>
    rw [List.mapM_cons, List.map_cons]
    exact congrArg₂ List.cons (each item next) (ih (renew item next).2)

theorem NamedType.map_renew (f : α → StateM Nat β) (type : NamedType α) (next : Nat) :
    (type.renew f next).1.map (fun _ => ()) = type.map fun _ => () := rfl

theorem Argument.map_renew (f : α → StateM Nat β) (argument : Argument α) (next : Nat) :
    (argument.renew f next).1.map (fun _ => ()) = argument.map fun _ => () := by
  obtain ⟨label, value, tag⟩ := argument
  cases value <;> rfl

theorem Parameter.map_renew (f : α → StateM Nat β) (parameter : Parameter α) (next : Nat) :
    (parameter.renew f next).1.map (fun _ => ()) = parameter.map fun _ => () := rfl

theorem Attribute.shape_renew (f : α → StateM Nat β) (attr : Attribute α) (next : Nat) :
    (attr.renew f next).1.shape = attr.shape := by
  simp only [shape, map, Attribute.mk.injEq]
  refine ⟨rfl, ?_, ?_, trivial⟩
  · exact map_mapM (NamedType.map_renew f) _ _
  · exact map_mapM (Argument.map_renew f) _ _

theorem Variant.shape_renew (f : α → StateM Nat β) (variant : Variant α) (next : Nat) :
    (variant.renew f next).1.shape = variant.shape := by
  obtain ⟨name, parameters, tag⟩ := variant
  cases parameters with
  | none => rfl
  | some parameters =>
    simp only [shape, map, Variant.mk.injEq]
    refine ⟨rfl, congrArg some ?_, trivial⟩
    exact map_mapM (Parameter.map_renew f) parameters _

theorem CaseLine.shape_renew (f : α → StateM Nat β) (line : CaseLine α) (next : Nat) :
    (line.renew f next).1.shape = line.shape := by
  simp only [shape, map, CaseLine.mk.injEq]
  refine ⟨?_, ?_, trivial⟩
  · exact map_mapM (Attribute.shape_renew f) _ _
  · exact map_mapM (Variant.shape_renew f) _ _

theorem Declaration.shape_renew (f : α → StateM Nat β) (declaration : Declaration α) (next : Nat) :
    (declaration.renew f next).1.shape = declaration.shape := by
  simp only [shape, map, Body.map, Declaration.mk.injEq, Body.mk.injEq]
  refine ⟨rfl, rfl, ?_, ⟨?_, trivial⟩, trivial⟩
  · exact map_mapM (Attribute.shape_renew f) _ _
  · exact map_mapM (CaseLine.shape_renew f) _ _

@[simp] theorem Edited.shape_settle (next : Nat) (draft : Declaration (Draft Stamp)) :
    (Edited.settle next draft).root.shape = draft.shape :=
  Declaration.shape_renew _ _ _

@[simp] theorem Edited.shape_load (next : Nat) (declaration : Declaration (Option Location)) :
    (Edited.load next declaration).root.shape = declaration.shape :=
  Declaration.shape_renew _ _ _

/-! ### Settling -/

def Draft.keptId? : Draft Stamp → Option Nat
  | .kept stamp => some stamp.id
  | _ => none

/-- The identities that a draft keeps, in preorder. -/
def keptIds (nodes : List (Node (Draft Stamp))) : List Nat :=
  nodes.filterMap (·.tag.keptId?)

def ids (nodes : List (Node Stamp)) : List Nat :=
  nodes.map (·.tag.id)

/-- No identity occurs twice, and those not yet given out do not occur. -/
structure Edited.Coherent (edited : Edited) : Prop where
  distinct : (ids edited.root.nodes).Nodup
  below : ∀ id ∈ ids edited.root.nodes, id < edited.next

theorem settle_new {draft : Draft Stamp} (new : draft.keptId? = none) (next : Nat) :
    settle draft next = (⟨next, draft.location⟩, next + 1) := by
  cases draft with
  | kept stamp => cases new
  | copied stamp => rfl
  | added => rfl

theorem settle_kept {draft : Draft Stamp} {id : Nat} (kept : draft.keptId? = some id) (next : Nat) :
    ∃ location, settle draft next = (⟨id, location⟩, next) := by
  cases draft with
  | kept stamp => cases kept; exact ⟨stamp.location, rfl⟩
  | copied stamp => cases kept
  | added => cases kept

/-- A settled identity is a kept one or a new one, and if the kept ones differ, all do. -/
theorem Renewed.settled {drafts : List (Draft Stamp)} {stamps : List Stamp} {next last : Nat}
    (renewed : Renewed settle next drafts stamps last) :
    next ≤ last ∧
    (∀ id ∈ stamps.map (·.id), id ∈ drafts.filterMap Draft.keptId? ∨ (next ≤ id ∧ id < last)) ∧
    ((drafts.filterMap Draft.keptId?).Nodup → (∀ id ∈ drafts.filterMap Draft.keptId?, id < next) →
      (stamps.map (·.id)).Nodup) := by
  induction drafts generalizing next stamps with
  | nil =>
    cases renewed
    simp
  | cons draft drafts ih =>
    obtain ⟨rest, rfl, others⟩ := renewed.of_cons
    obtain ⟨grows, origin, distinct⟩ := ih others
    -- a kept node brings its identity along, a new one takes the next; neither comes again behind it
    cases kept : draft.keptId? with
    | some id =>
      obtain ⟨location, same⟩ := settle_kept kept next
      rw [same] at grows origin distinct ⊢
      rw [List.filterMap_cons_some kept]
      refine ⟨grows, List.forall_mem_cons.mpr ⟨.inl (by simp), ?_⟩, ?_⟩
      · intro other member
        exact (origin other member).imp_left (List.mem_cons_of_mem _)
      · intro nodup below
        rw [List.nodup_cons] at nodup
        rw [List.forall_mem_cons] at below
        refine List.nodup_cons.mpr ⟨?_, distinct nodup.2 below.2⟩
        intro again
        rcases origin id again with kept | new
        · exact nodup.1 kept
        · exact absurd below.1 (Nat.not_lt.mpr new.1)
    | none =>
      rw [settle_new kept] at grows origin distinct ⊢
      rw [List.filterMap_cons_none kept]
      dsimp only at grows origin
      refine ⟨by omega, List.forall_mem_cons.mpr ⟨.inr ⟨Nat.le_refl next, grows⟩, ?_⟩, ?_⟩
      · intro other member
        exact (origin other member).imp_right fun new => ⟨by omega, new.2⟩
      · intro nodup below
        refine List.nodup_cons.mpr ⟨?_, distinct nodup fun id member => Nat.lt_succ_of_lt (below id member)⟩
        intro again
        rcases origin next again with kept | new
        · exact Nat.lt_irrefl next (below next kept)
        · exact Nat.not_succ_le_self next new.1

theorem Edited.coherent_settle {next : Nat} {draft : Declaration (Draft Stamp)}
    (nodup : (keptIds draft.nodes).Nodup) (below : ∀ id ∈ keptIds draft.nodes, id < next) :
    (Edited.settle next draft).Coherent := by
  obtain ⟨grows, origin, distinct⟩ := (draft.renewed RawMapping.settle next).settled
  simp only [List.map_map, List.filterMap_map] at origin distinct
  refine ⟨distinct nodup below, ?_⟩
  intro id member
  rcases origin id member with kept | new
  · exact Nat.lt_of_lt_of_le (below id kept) grows
  · exact new.2

/-- What a draft keeps is part of the identities in use, so the settled draft is coherent. -/
theorem Edited.Coherent.settle {edited : Edited} (coherent : edited.Coherent)
    {draft : Declaration (Draft Stamp)}
    (inherits : (keptIds draft.nodes).Subperm (ids edited.root.nodes)) :
    (Edited.settle edited.next draft).Coherent := by
  refine Edited.coherent_settle ?_ fun id member => coherent.below id (inherits.subset member)
  obtain ⟨part, same, inside⟩ := inherits
  exact same.nodup_iff.mp (coherent.distinct.sublist inside)

theorem Edited.coherent_load (next : Nat) (declaration : Declaration (Option Location)) :
    (Edited.load next declaration).Coherent := by
  -- a node that is read in is stamped like a copy of one that is not in the tree
  have renewed : Renewed RawMapping.settle next
      ((declaration.nodes.map Node.tag).map fun location => .copied ⟨0, location⟩)
      ((Edited.load next declaration).root.nodes.map Node.tag) (Edited.load next declaration).next := by
    have stamped := declaration.renewed stamp next
    rw [Renewed, List.mapM_map]
    exact stamped
  have none : ((declaration.nodes.map Node.tag).map fun location =>
      Draft.copied (Stamp.mk 0 location)).filterMap Draft.keptId? = [] := by
    simp [Draft.keptId?]
  obtain ⟨grows, origin, distinct⟩ := renewed.settled
  rw [none] at origin distinct
  simp only [List.map_map] at origin distinct
  refine ⟨distinct .nil (by simp), ?_⟩
  intro id member
  rcases origin id member with kept | new
  · cases kept
  · exact new.2

end RawMapping
