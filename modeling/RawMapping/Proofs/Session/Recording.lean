import RawMapping.Proofs.Declaration.Substitution
import RawMapping.Proofs.Report.Remedies
import RawMapping.Session.Basic

/-! What a session records. The new tree of a fix is made of nodes from below the one it replaces and of
new nodes. Once recorded, the new nodes have identities that no other node has, neither of the
declaration nor of another recorded fix. -/

set_option autoImplicit false

namespace RawMapping

/-! ### Changes that are offered -/

/-- The change replaces a node of the tree below its root by a new one, and uses nodes from below it
again. -/
structure Change.Offered (change : Change Stamp) (root : Declaration Stamp) : Prop where
  member : change.old ∈ root.nodes
  inner : ∀ declaration, change.old ≠ .declaration declaration
  fits : change.old.fits change.new = true
  reuses : Reuses change.new.nodes change.old.below

theorem Declaration.offered_body {root : Declaration Stamp} {lines : List (CaseLine (Draft Stamp))}
    (reuses : Reuses (lines.flatMap CaseLine.nodes) (root.body.lines.flatMap CaseLine.nodes)) :
    (Change.ofBody root.body lines).Offered root where
  member := by simp [Change.ofBody, Declaration.nodes, Declaration.below, Body.nodes]
  inner := by simp [Change.ofBody]
  fits := rfl
  reuses := reuses.above rfl

theorem Declaration.Touches.offered {root : Declaration Stamp} {target : Target}
    {change : Change Stamp} (touches : root.Touches target change) : change.Offered root := by
  cases touches with
  | line lines variants inside new =>
    refine ⟨(CaseLine.nodes_sublist lines).subset List.mem_cons_self, by simp [Change.ofLine], rfl, ?_⟩
    refine Reuses.above (.append ?_ (reuses_variants _)) rfl
    rw [List.flatMap_append]
    exact (reuses_attributes inside).append_new new
  | moved lines nonempty variants new =>
    refine Declaration.offered_body ?_
    rw [lines, List.flatMap_append, List.flatMap_append, List.flatMap_append, List.flatMap_cons]
    exact (reuses_lines _).append ((CaseLine.reuses_split variants new).append (reuses_lines _))
  | @payload before after line first others parameters lines variants new =>
    have inside := CaseLine.mem_nodes_of_first variants
    refine ⟨(CaseLine.nodes_sublist lines).subset inside, by simp, rfl, ?_⟩
    have name : Reuses (first.name.map Draft.kept).nodes first.name.nodes := reuses_kept _
    exact Reuses.above (name.append (reuses_of_new new)) rfl
  | @value before after line first others front back attr argument old literal lines variants attributes
      arguments value new =>
    have inside := CaseLine.mem_nodes_of_value attributes arguments value
    refine ⟨(CaseLine.nodes_sublist lines).subset inside, by simp, rfl, ?_⟩
    exact Reuses.above (reuses_of_new rfl) new
  | added new =>
    refine Declaration.offered_body ?_
    rw [List.flatMap_append, List.flatMap_singleton]
    exact (reuses_lines _).append_new new

theorem Declaration.exists_offered {root : Declaration Stamp} {settings : Settings} {fix : Fix Stamp}
    (member : fix ∈ offers (root.report settings)) :
    ∃ change, fix.changes = [change] ∧ change.Offered root := by
  obtain ⟨diagnostic, reported, offered⟩ := List.mem_flatMap.mp member
  obtain ⟨change, target, single, touches, -⟩ :=
    (root.remedies_report settings diagnostic reported fix offered).touches
  exact ⟨change, single, touches.offered⟩

/-! ### Changes that are recorded -/

def Change.own (change : Change Stamp) : List Nat :=
  (keptIds change.new.nodes).filter (· ∉ ids change.old.nodes)

theorem Change.mem_own {old tree : Node Stamp} {id : Nat} :
    id ∈ (Change.mk old (tree.map .kept)).own ↔ id ∈ ids tree.nodes ∧ id ∉ ids old.nodes := by
  simp [own, Node.nodes_map, keptIds_kept]

/-- The change puts a given tree in the place of a node below the root. Each node of the tree comes from
below the old node, or has an identity of the change's own. -/
structure Change.Plants (change : Change Stamp) (tree : Node Stamp) : Prop where
  new : change.new = tree.map .kept
  inner : ∀ declaration, change.old ≠ .declaration declaration
  fits : change.old.fits change.new = true
  distinct : (ids tree.nodes).Nodup
  origin : ∀ node ∈ tree.nodes, node ∈ change.old.below ∨ node.tag.id ∈ change.own

theorem Node.fits_renew {α β γ : Type} (old : Node γ) (new : Node α) (f : α → StateM Nat β) (next : Nat) :
    old.fits (new.renew f next).1 = old.fits new := by
  cases new <;> cases old <;> rfl

theorem Node.fits_map {α β γ : Type} (old : Node γ) (new : Node α) (f : α → β) :
    old.fits (new.map f) = old.fits new := by
  cases new <;> cases old <;> rfl

/-- A recorded change has identities of its own from the first to the last one given out for it. -/
theorem Change.Offered.issue {change : Change Stamp} {root : Declaration Stamp}
    (offered : change.Offered root) {next : Nat} (coherent : (Edited.mk root next).Coherent) :
    (change.issue next).1.old = change.old ∧ next ≤ (change.issue next).2 ∧
      (∃ tree, (change.issue next).1.Plants tree) ∧
      ∀ id ∈ (change.issue next).1.own, next ≤ id ∧ id < (change.issue next).2 := by
  have oldInside := Declaration.nodes_sublist offered.member
  have used : ∀ id ∈ ids change.old.nodes, id < next := fun id member =>
    coherent.below id ((oldInside.map _).subset member)
  have inherits : Inherits change.new.nodes change.old.nodes := by
    rw [change.old.nodes_eq]
    exact (offered.reuses.mono (List.sublist_cons_self _ _).subperm).inherits
  obtain ⟨grows, origin, distinct⟩ := (change.new.renewed settle next).settled
  simp only [List.map_map, List.filterMap_map] at origin distinct
  refine ⟨rfl, grows, ⟨(change.new.renew settle next).1, rfl, offered.inner, ?_, ?_, ?_⟩, ?_⟩
  · change change.old.fits ((change.new.renew settle next).1.map Draft.kept) = true
    rw [Node.fits_map, Node.fits_renew, offered.fits]
  · refine distinct ?_ fun id kept => used id (inherits.subset kept)
    obtain ⟨part, same, inside⟩ := inherits
    exact same.nodup_iff.mp ((coherent.distinct.sublist (oldInside.map _)).sublist inside)
  · intro node member
    obtain ⟨draft, drafted, settles⟩ := exists_of_forall₂_mem (change.new.forall₂_settles next) member
    cases kept : draft.tag.keptId? with
    | some id =>
      obtain ⟨old, inside, rfl⟩ := offered.reuses.exists_of_kept drafted kept
      rw [settles.eq_of_kept]
      exact .inl inside
    | none =>
      -- a new node: its identity is given out now, so no node of the declaration has it
      refine .inr (mem_own.mpr ⟨List.mem_map_of_mem member, fun old => ?_⟩)
      exact Nat.not_lt.mpr (settles.fresh kept) (used _ old)
  · intro id own
    obtain ⟨member, other⟩ := mem_own.mp own
    exact (origin id member).resolve_left fun kept => other (inherits.subset kept)

theorem Edited.Coherent.mono {root : Declaration Stamp} {next later : Nat}
    (coherent : (Edited.mk root next).Coherent) (grows : next ≤ later) :
    (Edited.mk root later).Coherent :=
  ⟨coherent.distinct, fun id member => Nat.lt_of_lt_of_le (coherent.below id member) grows⟩

/-- The fix makes one change, whose own identities were given out from `since` to `last`. -/
structure Fix.Records (fix : Fix Stamp) (change : Change Stamp) (since last : Nat) : Prop where
  single : fix.changes = [change]
  plants : ∃ tree, change.Plants tree
  own : ∀ id ∈ change.own, since ≤ id ∧ id < last

theorem Fix.Records.mono {fix : Fix Stamp} {change : Change Stamp} {since last later earlier : Nat}
    (records : fix.Records change since last) (starts : earlier ≤ since) (grows : last ≤ later) :
    fix.Records change earlier later := by
  refine ⟨records.single, records.plants, fun id own => ?_⟩
  have bounds := records.own id own
  omega

theorem Fix.Records.own_of_mem {fix : Fix Stamp} {change other : Change Stamp} {since last id : Nat}
    (records : fix.Records change since last) (made : other ∈ fix.changes) (own : id ∈ other.own) :
    since ≤ id ∧ id < last := by
  rw [records.single, List.mem_singleton] at made
  rw [made] at own
  exact records.own id own

/-- No two changes of the fixes have an identity of their own in common. -/
def Apart (fixes : List (Fix Stamp)) : Prop :=
  ∀ first ∈ fixes.flatMap Fix.changes, ∀ second ∈ fixes.flatMap Fix.changes,
    ∀ id ∈ first.own, id ∈ second.own → first = second

theorem Apart.append {fixes more : List (Fix Stamp)} (first : Apart fixes) (second : Apart more)
    (disjoint : ∀ change ∈ fixes.flatMap Fix.changes, ∀ other ∈ more.flatMap Fix.changes,
      ∀ id ∈ change.own, id ∉ other.own) : Apart (fixes ++ more) := by
  intro change member other also id own again
  rw [List.flatMap_append, List.mem_append] at member also
  rcases member with left | right <;> rcases also with alsoLeft | alsoRight
  · exact first change left other alsoLeft id own again
  · exact absurd again (disjoint change left other alsoRight id own)
  · exact absurd own (disjoint other alsoLeft change right id again)
  · exact second change right other alsoRight id own again

theorem Apart.single {fix : Fix Stamp} {change : Change Stamp} (single : fix.changes = [change]) :
    Apart [fix] := by
  intro first member second also id _ _
  rw [List.flatMap_singleton, single, List.mem_singleton] at member also
  rw [member, also]

theorem Renewed.records {root : Declaration Stamp} {fixes recorded : List (Fix Stamp)} {next last : Nat}
    (coherent : (Edited.mk root next).Coherent)
    (offered : ∀ fix ∈ fixes, ∃ change, fix.changes = [change] ∧ change.Offered root)
    (renewed : Renewed Fix.issue next fixes recorded last) :
    next ≤ last ∧ Apart recorded ∧
      ∀ fix ∈ recorded, ∃ change, fix.Records change next last ∧ change.old ∈ root.nodes := by
  induction fixes generalizing next recorded with
  | nil =>
    cases renewed
    simp [Apart]
  | cons fix fixes ih =>
    rw [List.forall_mem_cons] at offered
    obtain ⟨⟨change, single, head⟩, offered⟩ := offered
    obtain ⟨rest, rfl, others⟩ := renewed.of_cons
    obtain ⟨same, grows, plants, own⟩ := head.issue coherent
    have issued : fix.issue next = (⟨fix.kind, [(change.issue next).1]⟩, (change.issue next).2) := by
      obtain ⟨kind, changes⟩ := fix
      cases single
      rfl
    rw [issued] at others ⊢
    obtain ⟨further, apart, records⟩ := ih (coherent.mono grows) offered others
    -- the identities of the first fix end where those of the others begin
    have first : Fix.Records ⟨fix.kind, [(change.issue next).1]⟩ (change.issue next).1 next
        (change.issue next).2 := ⟨rfl, plants, own⟩
    refine ⟨Nat.le_trans grows further, ?_, List.forall_mem_cons.mpr ⟨?_, fun fix member => ?_⟩⟩
    · refine (Apart.single first.single).append apart ?_
      intro early isFirst late member id own again
      rw [List.flatMap_singleton] at isFirst
      obtain ⟨fix, recorded, made⟩ := List.mem_flatMap.mp member
      obtain ⟨_, records, -⟩ := records fix recorded
      exact Nat.not_lt.mpr (records.own_of_mem made again).1 (first.own_of_mem isFirst own).2
    · exact ⟨_, first.mono (Nat.le_refl _) further, same ▸ head.member⟩
    · obtain ⟨other, records, inside⟩ := records fix member
      exact ⟨other, records.mono grows (Nat.le_refl _), inside⟩

theorem Diagnostic.renewed_fixes (diagnostic : Diagnostic Stamp) (next : Nat) :
    Renewed Fix.issue next diagnostic.fixes (diagnostic.issue next).1.fixes (diagnostic.issue next).2 := rfl

theorem renewed_offers (diagnostics : List (Diagnostic Stamp)) (next : Nat) :
    Renewed Fix.issue next (offers diagnostics) (offers (diagnostics.mapM Diagnostic.issue next).1)
      (diagnostics.mapM Diagnostic.issue next).2 :=
  .flatMap Diagnostic.renewed_fixes diagnostics next

end RawMapping
