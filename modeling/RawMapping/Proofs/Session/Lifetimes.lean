import RawMapping.Proofs.Session.Recording

/-! Lifetimes of nodes in a session. Whatever is expanded and whichever recorded fixes are applied, no
node is in the declaration twice, and one that has left it never comes back. So a fix can be applied once
at most, and an old one takes nothing away that was put in since it was recorded. -/

set_option autoImplicit false

namespace RawMapping

namespace Session

def nodes (session : Session) : List (Node Stamp) :=
  (session.root.map Declaration.nodes).getD []

def fixes (session : Session) : List (Fix Stamp) :=
  offers session.history.flatten

/-- The invariant of a session. The nodes in `past` were in the declaration at some time; all that are in
it now are among them. A fix that can still be applied has never been, so what it would bring in is not
among them. -/
structure Sound (session : Session) (root : Declaration Stamp) (past : List (Node Stamp)) : Prop where
  current : session.root = some root
  coherent : (Edited.mk root session.next).Coherent
  inside : root.nodes ⊆ past
  used : ∀ id ∈ ids past, id < session.next
  faithful : ∀ node ∈ past, ∀ other ∈ past, node.tag.id = other.tag.id → node = other
  recorded : ∀ fix ∈ session.fixes, ∃ change, fix.Records change 0 session.next ∧ change.old ∈ past
  apart : Apart session.fixes
  unused : ∀ change ∈ session.fixes.flatMap Fix.changes, change.old ∈ root.nodes →
    ∀ id ∈ change.own, id ∉ ids past

/-! ### Taking up and expanding a declaration -/

theorem sound_load (settings : Settings) (declaration : Declaration (Option Location)) :
    (load { settings } declaration).Sound (Edited.load 0 declaration).root
      (Edited.load 0 declaration).root.nodes where
  current := rfl
  coherent := Edited.coherent_load 0 declaration
  inside := List.Subset.refl _
  used := (Edited.coherent_load 0 declaration).below
  faithful _ member _ also same :=
    eq_of_identity (Edited.coherent_load 0 declaration).distinct also member same
  recorded := by simp [fixes, load, withEdited, offers]
  apart := by simp [Apart, fixes, load, withEdited, offers]
  unused := by simp [fixes, load, withEdited, offers]

section

variable {session : Session} {root : Declaration Stamp} {past : List (Node Stamp)}

theorem Sound.congr (sound : session.Sound root past) {other : Session} (current : other.root = session.root)
    (next : other.next = session.next) (history : other.history = session.history) :
    other.Sound root past := by
  have fixes : other.fixes = session.fixes := by
    rw [Session.fixes, history]
    rfl
  refine ⟨current.trans sound.current, ?_, sound.inside, ?_, sound.faithful, ?_, ?_, ?_⟩
  · exact next ▸ sound.coherent
  · exact next ▸ sound.used
  · rw [fixes, next]
    exact sound.recorded
  · rw [fixes]
    exact sound.apart
  · rw [fixes]
    exact sound.unused

theorem Sound.own_lt (sound : session.Sound root past) {change : Change Stamp}
    (member : change ∈ session.fixes.flatMap Fix.changes) {id : Nat} (own : id ∈ change.own) :
    id < session.next := by
  obtain ⟨fix, recorded, made⟩ := List.mem_flatMap.mp member
  obtain ⟨_, records, -⟩ := sound.recorded fix recorded
  exact (records.own_of_mem made own).2

theorem Sound.record (sound : session.Sound root past) {diagnostics : List (Diagnostic Stamp)}
    (rejected : root.expand session.settings = .error (.rejected diagnostics)) :
    Sound { session with
      next := (diagnostics.mapM Diagnostic.issue session.next).2
      history := (diagnostics.mapM Diagnostic.issue session.next).1 :: session.history } root past := by
  have report : root.report session.settings = diagnostics := by
    rw [Declaration.report, rejected]
  obtain ⟨grows, apart, records⟩ := (renewed_offers diagnostics session.next).records sound.coherent
    fun fix member => Declaration.exists_offered (report ▸ member)
  have all : Session.fixes { session with
      next := (diagnostics.mapM Diagnostic.issue session.next).2
      history := (diagnostics.mapM Diagnostic.issue session.next).1 :: session.history } =
        offers (diagnostics.mapM Diagnostic.issue session.next).1 ++ session.fixes := by
    simp [fixes, offers]
  -- what is recorded now is newer than all that is in use, so older fixes keep their identities
  have new : ∀ change ∈ (offers (diagnostics.mapM Diagnostic.issue session.next).1).flatMap Fix.changes,
      ∀ id ∈ change.own, session.next ≤ id := by
    intro change member id own
    obtain ⟨fix, recorded, made⟩ := List.mem_flatMap.mp member
    obtain ⟨_, records, -⟩ := records fix recorded
    exact (records.own_of_mem made own).1
  refine ⟨sound.current, sound.coherent.mono grows, sound.inside, ?_, sound.faithful, ?_, ?_, ?_⟩
  · intro id member
    exact Nat.lt_of_lt_of_le (sound.used id member) grows
  · rw [all, List.forall_mem_append]
    constructor
    · intro fix member
      obtain ⟨change, made, inside⟩ := records fix member
      exact ⟨change, made.mono (Nat.zero_le _) (Nat.le_refl _), sound.inside inside⟩
    · intro fix member
      obtain ⟨change, made, inside⟩ := sound.recorded fix member
      exact ⟨change, made.mono (Nat.le_refl _) grows, inside⟩
  · rw [all]
    refine apart.append sound.apart ?_
    intro change member other also id own again
    exact Nat.not_lt.mpr (new change member id own) (sound.own_lt also again)
  · rw [all, List.flatMap_append, List.forall_mem_append]
    refine ⟨?_, sound.unused⟩
    intro change member _ id own used
    exact Nat.not_lt.mpr (new change member id own) (sound.used id used)

theorem Sound.expand (sound : session.Sound root past) : (session.expand root).2.Sound root past := by
  unfold Session.expand
  cases expanded : root.expand session.settings with
  | ok expansion => exact sound.congr rfl rfl rfl
  | error error =>
    cases error with
    | notAnnotated name => exact sound.congr rfl rfl rfl
    | rejected diagnostics => exact (sound.record expanded).congr rfl rfl rfl

/-! ### Applying a recorded fix -/

theorem exists_of_replaceNode {edited result : Edited} {old : Node Stamp} {new : Node (Draft Stamp)}
    (replaced : edited.replaceNode old new = .ok result) :
    ∃ node ∈ edited.root.nodes, node.tag.id = old.tag.id := by
  unfold Edited.replaceNode Declaration.replaceNode at replaced
  dsimp only at replaced
  cases found : edited.root.nodes.find? (·.tag.id == old.tag.id) with
  | none =>
    rw [found] at replaced
    cases replaced
  | some node =>
    exact ⟨node, List.mem_of_find?_eq_some found, by simpa using List.find?_some found⟩

/-- Applying a change that is recorded put its tree in the place of a node of the declaration. -/
structure Applies (session : Session) (root : Declaration Stamp) (change : Change Stamp)
    (tree : Node Stamp) (result : Edited) : Prop where
  member : change.old ∈ root.nodes
  plants : change.Plants tree
  grows : session.next ≤ result.next
  coherent : result.Coherent
  replanted : Replanted change.old tree session.next root.nodes result.root.nodes

theorem Sound.exists_applies (sound : session.Sound root past) {fix : Fix Stamp}
    (recorded : fix ∈ session.fixes) {next : Session} (applied : session.applyFix root fix = .ok next) :
    ∃ change tree result, fix.changes = [change] ∧ session.Applies root change tree result ∧
      next = session.withEdited result := by
  obtain ⟨change, records, isPast⟩ := sound.recorded fix recorded
  obtain ⟨tree, plants⟩ := records.plants
  have single : fix = ⟨fix.kind, [change]⟩ := by
    rw [← records.single]
  rw [applyFix, single, Fix.apply_single] at applied
  cases replaced : Edited.replaceNode ⟨root, session.next⟩ change.old change.new with
  | error error =>
    rw [replaced] at applied
    cases applied
  | ok result =>
    rw [replaced] at applied
    cases applied
    obtain ⟨node, inside, same⟩ := exists_of_replaceNode replaced
    -- the lookup is by identity, and in the past of a session an identity means one node only
    obtain rfl := sound.faithful node (sound.inside inside) change.old isPast same
    have fits := plants.fits
    rw [Edited.replaceNode_eq sound.coherent.distinct inside plants.inner fits] at replaced
    cases replaced
    have made : change ∈ session.fixes.flatMap Fix.changes :=
      List.mem_flatMap.mpr ⟨fix, recorded, by simp [records.single]⟩
    have oldInside : change.old.nodes ⊆ root.nodes := (Declaration.nodes_sublist inside).subset
    have below : ∀ node ∈ change.old.below, node ∈ change.old.nodes := fun node under => by
      rw [change.old.nodes_eq]
      exact List.mem_cons_of_mem _ under
    have coherent : (Edited.settle session.next
        (root.replace (·.id == change.old.tag.id) change.new)).Coherent := by
      rw [plants.new] at fits ⊢
      refine sound.coherent.replant inside fits plants.distinct ?_ ?_
      · intro id member
        obtain ⟨node, planted, rfl⟩ := List.mem_map.mp member
        rcases plants.origin node planted with old | own
        · exact sound.coherent.below _ (List.mem_map_of_mem (oldInside (below node old)))
        · exact sound.own_lt made own
      · intro id member used
        obtain ⟨node, planted, rfl⟩ := List.mem_map.mp member
        rcases plants.origin node planted with old | own
        · exact List.mem_map_of_mem (below node old)
        · -- the fix still applies, so what it brings in has never been in the declaration
          obtain ⟨other, present, same⟩ := List.mem_map.mp used
          refine absurd ?_ (sound.unused change made inside _ own)
          exact List.mem_map.mpr ⟨other, sound.inside present, same⟩
    refine ⟨change, tree, _, records.single, ⟨inside, plants, ?_, coherent, ?_⟩, rfl⟩
    · exact (Declaration.renewed settle _ session.next).settled.1
    · rw [plants.new] at fits ⊢
      exact @Edited.replanted ⟨root, session.next⟩ _ _ sound.coherent.distinct inside fits

theorem Applies.origin {change : Change Stamp} {tree : Node Stamp} {result : Edited}
    (applies : session.Applies root change tree result) (distinct : (ids root.nodes).Nodup)
    {node : Node Stamp} (member : node ∈ result.root.nodes) :
    (node ∈ root.nodes ∧ node.tag.id ≠ change.old.tag.id) ∨ node.tag.id ∈ change.own ∨
      session.next ≤ node.tag.id := by
  obtain ⟨front, back, ahead, before, after, rebuilt⟩ := applies.replanted
  have split : root.nodes = front ++ ([change.old] ++ (change.old.below ++ back)) := by
    rw [before, change.old.nodes_eq]
    simp
  rw [split] at distinct ⊢
  obtain ⟨earlier, later⟩ := absent_around distinct (List.mem_map_of_mem List.mem_cons_self)
  -- no node around the old one, or below it, has its identity
  have apart : ∀ other ∈ front ++ (change.old.below ++ back), other.tag.id ≠ change.old.tag.id := by
    intro other inside
    rcases List.mem_append.mp inside with first | last
    · simpa using earlier other first
    · simpa using later other last
  have old : ∀ other ∈ front ++ (change.old.below ++ back),
      other ∈ front ++ ([change.old] ++ (change.old.below ++ back)) ∧
        other.tag.id ≠ change.old.tag.id := by
    intro other inside
    refine ⟨?_, apart other inside⟩
    exact List.Sublist.subset ((List.sublist_cons_self _ _).append_left _) inside
  rw [after, List.mem_append, List.mem_append] at member
  rcases member with first | planted | last
  · obtain ⟨original, inside, same | ⟨-, new⟩⟩ := exists_of_forall₂_mem rebuilt first
    · rw [same]
      exact .inl (old original (List.mem_append_left _ inside))
    · exact .inr (.inr new)
  · rcases applies.plants.origin node planted with below | own
    · exact .inl (old node (List.mem_append_right _ (List.mem_append_left _ below)))
    · exact .inr (.inl own)
  · exact .inl (old node (List.mem_append_right _ (List.mem_append_right _ last)))

section

variable {change : Change Stamp} {tree : Node Stamp} {result : Edited}

theorem Sound.returns (sound : session.Sound root past)
    (recorded : change ∈ session.fixes.flatMap Fix.changes)
    (applies : session.Applies root change tree result) {node : Node Stamp}
    (member : node ∈ result.root.nodes) (known : node.tag.id ∈ ids past) :
    node ∈ root.nodes ∧ node.tag.id ≠ change.old.tag.id := by
  rcases applies.origin sound.coherent.distinct member with old | own | new
  · exact old
  · exact absurd known (sound.unused change recorded applies.member _ own)
  · exact absurd (sound.used _ known) (Nat.not_lt.mpr new)

theorem Sound.old_gone (sound : session.Sound root past)
    (recorded : change ∈ session.fixes.flatMap Fix.changes)
    (applies : session.Applies root change tree result) :
    change.old.tag.id ∉ ids result.root.nodes := by
  intro again
  obtain ⟨node, member, same⟩ := List.mem_map.mp again
  have known : node.tag.id ∈ ids past :=
    same ▸ List.mem_map_of_mem (sound.inside applies.member)
  exact (sound.returns recorded applies member known).2 same

theorem Sound.applied (sound : session.Sound root past)
    (recorded : change ∈ session.fixes.flatMap Fix.changes)
    (applies : session.Applies root change tree result) :
    (session.withEdited result).Sound result.root (past ++ result.root.nodes) where
  current := rfl
  coherent := applies.coherent
  inside := List.subset_append_right _ _
  used := by
    rw [ids_append]
    refine List.forall_mem_append.mpr ⟨fun id known => ?_, applies.coherent.below⟩
    exact Nat.lt_of_lt_of_le (sound.used id known) applies.grows
  faithful := by
    have mixed : ∀ node ∈ past, ∀ other ∈ result.root.nodes, node.tag.id = other.tag.id → node = other := by
      intro node known other member same
      have here := (sound.returns recorded applies member (same ▸ List.mem_map_of_mem known)).1
      exact sound.faithful node known other (sound.inside here) same
    intro node member other also same
    rcases List.mem_append.mp member with known | new <;> rcases List.mem_append.mp also with alsoKnown | alsoNew
    · exact sound.faithful node known other alsoKnown same
    · exact mixed node known other alsoNew same
    · exact (mixed other alsoKnown node new same.symm).symm
    · exact eq_of_identity applies.coherent.distinct alsoNew new same
  recorded fix member := by
    obtain ⟨change, records, known⟩ := sound.recorded fix member
    exact ⟨change, records.mono (Nat.le_refl _) applies.grows, List.mem_append_left _ known⟩
  apart := sound.apart
  unused := by
    intro other made present id own used
    obtain ⟨fix, also, makes⟩ := List.mem_flatMap.mp made
    obtain ⟨_, records, known⟩ := sound.recorded fix also
    rw [records.single, List.mem_singleton] at makes
    rw [← makes] at known
    have here := (sound.returns recorded applies present (List.mem_map_of_mem known)).1
    have fresh := sound.unused other made here id own
    -- unused before, so a node that has this identity now came with the change just applied; changes
    -- share no identity of their own, so `other` is that change, but what it replaces is gone
    rw [ids_append, List.mem_append] at used
    obtain ⟨node, member, rfl⟩ := List.mem_map.mp (used.resolve_left fresh)
    rcases applies.origin sound.coherent.distinct member with old | again | new
    · exact fresh (List.mem_map_of_mem (sound.inside old.1))
    · rw [sound.apart other made change recorded _ own again] at present
      exact sound.old_gone recorded applies (List.mem_map_of_mem present)
    · exact Nat.not_lt.mpr new (sound.own_lt made own)

end

end

/-! ### Runs -/

/-- From one state of a session to a later one: the past only grows, recorded fixes stay recorded, and a
node of the past that is in the declaration later is in it now. -/
structure Evolves (session : Session) (root : Declaration Stamp) (past : List (Node Stamp))
    (later : Session) (laterRoot : Declaration Stamp) (laterPast : List (Node Stamp)) : Prop where
  sound : later.Sound laterRoot laterPast
  grows : past ⊆ laterPast
  recorded : session.fixes ⊆ later.fixes
  stays : ∀ node ∈ laterRoot.nodes, node.tag.id ∈ ids past → node ∈ root.nodes

section

variable {session : Session} {root : Declaration Stamp} {past : List (Node Stamp)}

theorem Sound.evolves {later : Session} (sound : later.Sound root past)
    (recorded : session.fixes ⊆ later.fixes) : session.Evolves root past later root past :=
  ⟨sound, List.Subset.refl _, recorded, fun _ member _ => member⟩

theorem Evolves.trans {middle later : Session} {middleRoot laterRoot : Declaration Stamp}
    {middlePast laterPast : List (Node Stamp)}
    (first : session.Evolves root past middle middleRoot middlePast)
    (second : middle.Evolves middleRoot middlePast later laterRoot laterPast) :
    session.Evolves root past later laterRoot laterPast where
  sound := second.sound
  grows := List.Subset.trans first.grows second.grows
  recorded := List.Subset.trans first.recorded second.recorded
  stays node member known :=
    first.stays node (second.stays node member (List.map_subset _ first.grows known)) known

theorem fixes_expand : session.fixes ⊆ (session.expand root).2.fixes := by
  unfold Session.expand
  cases expanded : root.expand session.settings with
  | ok expansion => exact List.Subset.refl _
  | error error =>
    cases error with
    | notAnnotated name => exact List.Subset.refl _
    | rejected diagnostics =>
      change offers session.history.flatten ⊆ offers (_ ++ session.history.flatten)
      rw [offers, offers, List.flatMap_append]
      exact List.subset_append_right _ _

theorem Sound.evolves_apply (sound : session.Sound root past) {fix : Fix Stamp}
    (recorded : fix ∈ session.fixes) {next : Session} (applied : session.applyFix root fix = .ok next) :
    ∃ laterRoot laterPast, session.Evolves root past next laterRoot laterPast := by
  obtain ⟨change, tree, result, single, applies, rfl⟩ := sound.exists_applies recorded applied
  have made : change ∈ session.fixes.flatMap Fix.changes :=
    List.mem_flatMap.mpr ⟨fix, recorded, by simp [single]⟩
  refine ⟨_, _, sound.applied made applies, List.subset_append_left _ _, List.Subset.refl _, ?_⟩
  intro node member known
  exact (sound.returns made applies member known).1

theorem mem_fixes_of_recordedFix? {back diagnostic index : Nat} {fix : Fix Stamp}
    (found : session.recordedFix? back diagnostic index = some fix) : fix ∈ session.fixes := by
  unfold recordedFix? at found
  obtain ⟨report, inHistory, found⟩ := Option.bind_eq_some_iff.mp found
  obtain ⟨problem, inReport, found⟩ := Option.bind_eq_some_iff.mp found
  refine List.mem_flatMap.mpr ⟨problem, List.mem_flatten.mpr ⟨report, ?_, ?_⟩, ?_⟩
  · exact List.mem_of_getElem? inHistory
  · exact List.mem_of_getElem? inReport
  · exact List.mem_of_getElem? found

theorem Sound.perform (sound : session.Sound root past) (step : Step) :
    ∃ laterRoot laterPast, session.Evolves root past (session.perform step) laterRoot laterPast := by
  cases step with
  | configure settings =>
    have configured : Sound { session with settings } root past := sound.congr rfl rfl rfl
    simp only [Session.perform]
    exact ⟨root, past, configured.evolves (List.Subset.refl _)⟩
  | expand =>
    simp only [Session.perform, sound.current]
    exact ⟨root, past, sound.expand.evolves fixes_expand⟩
  | apply back diagnostic index =>
    simp only [Session.perform, sound.current]
    cases found : session.recordedFix? back diagnostic index with
    | none => exact ⟨root, past, sound.evolves (List.Subset.refl _)⟩
    | some fix =>
      dsimp only
      cases applied : session.applyFix root fix with
      | error error => exact ⟨root, past, sound.evolves (List.Subset.refl _)⟩
      | ok next => exact sound.evolves_apply (mem_fixes_of_recordedFix? found) applied

theorem Sound.run (sound : session.Sound root past) (steps : List Step) :
    ∃ laterRoot laterPast, session.Evolves root past (session.run steps) laterRoot laterPast := by
  induction steps generalizing session root past with
  | nil => exact ⟨root, past, sound.evolves (List.Subset.refl _)⟩
  | cons step steps ih =>
    obtain ⟨middleRoot, middlePast, first⟩ := sound.perform step
    obtain ⟨laterRoot, laterPast, rest⟩ := ih first.sound
    exact ⟨laterRoot, laterPast, first.trans rest⟩

theorem Sound.nodes_eq (sound : session.Sound root past) : session.nodes = root.nodes := by
  rw [nodes, sound.current]
  rfl

/-- A fix whose node has left the declaration cannot be applied. -/
theorem applyFix_error {fix : Fix Stamp} {change : Change Stamp} (single : fix.changes = [change])
    (gone : change.old.tag.id ∉ ids root.nodes) : ∃ error, session.applyFix root fix = .error error := by
  cases applied : session.applyFix root fix with
  | error error => exact ⟨error, rfl⟩
  | ok next =>
    obtain ⟨kind, changes⟩ := fix
    cases single
    rw [applyFix, Fix.apply_single] at applied
    cases replaced : Edited.replaceNode ⟨root, session.next⟩ change.old change.new with
    | error error =>
      rw [replaced] at applied
      cases applied
    | ok result =>
      obtain ⟨node, member, same⟩ := exists_of_replaceNode replaced
      exact absurd (same ▸ List.mem_map_of_mem member) gone

end

/-- In every state of a session no node is in the declaration twice. A node that has left it is never in
it again, and an identity always means the same node. A fix that was applied cannot be applied again. A
fix that was recorded before `early` and still applies takes out only what was there in `early`: all
around it stays in place, but for new copies of the nodes above. -/
theorem nodes_live_once (settings : Settings) (declaration : Declaration (Option Location))
    (first second third : List Step) :
    let early := (load { settings } declaration).run first
    let middle := early.run second
    let late := middle.run third
    (ids late.nodes).Nodup ∧
    (∀ id ∈ ids early.nodes, id ∉ ids middle.nodes → id ∉ ids late.nodes) ∧
    (∀ node ∈ early.nodes, ∀ other ∈ late.nodes, other.tag.id = node.tag.id → other = node) ∧
    (∀ fix ∈ middle.fixes, ∀ root next, middle.root = some root → middle.applyFix root fix = .ok next →
      ∀ laterRoot, (next.run third).root = some laterRoot →
        ∃ error, (next.run third).applyFix laterRoot fix = .error error) ∧
    (∀ fix ∈ early.fixes, ∀ root next, middle.root = some root → middle.applyFix root fix = .ok next →
      ∃ change tree, fix.changes = [change] ∧ change.old.nodes ⊆ early.nodes ∧
        Replanted change.old tree middle.next middle.nodes next.nodes) := by
  intro early middle late
  obtain ⟨earlyRoot, earlyPast, began⟩ := (sound_load settings declaration).run first
  obtain ⟨middleRoot, middlePast, toMiddle⟩ := began.sound.run second
  obtain ⟨lateRoot, latePast, toLate⟩ := toMiddle.sound.run third
  have earlyNodes : early.nodes = earlyRoot.nodes := began.sound.nodes_eq
  have middleNodes : middle.nodes = middleRoot.nodes := toMiddle.sound.nodes_eq
  have lateNodes : late.nodes = lateRoot.nodes := toLate.sound.nodes_eq
  rw [earlyNodes, middleNodes, lateNodes]
  refine ⟨toLate.sound.coherent.distinct, ?_, ?_, ?_, ?_⟩
  · intro id known gone again
    obtain ⟨node, member, rfl⟩ := List.mem_map.mp again
    have past := List.map_subset _ toMiddle.grows (List.map_subset _ began.sound.inside known)
    exact gone (List.mem_map_of_mem (toLate.stays node member past))
  · intro node member other later same
    have past := toLate.grows (toMiddle.grows (began.sound.inside member))
    exact toLate.sound.faithful other (toLate.sound.inside later) node past same
  · intro fix recorded root next current applied laterRoot laterCurrent
    obtain rfl := Option.some.inj (current.symm.trans toMiddle.sound.current)
    obtain ⟨change, tree, result, single, applies, rfl⟩ :=
      toMiddle.sound.exists_applies recorded applied
    have made := List.mem_flatMap.mpr ⟨fix, recorded, single ▸ List.mem_singleton_self change⟩
    obtain ⟨finalRoot, finalPast, toFinal⟩ := (toMiddle.sound.applied made applies).run third
    obtain rfl := Option.some.inj (laterCurrent.symm.trans toFinal.sound.current)
    -- what the fix replaced left the declaration, and does not come back
    refine applyFix_error single fun again => ?_
    obtain ⟨node, member, same⟩ := List.mem_map.mp again
    have known := List.mem_append_left result.root.nodes (toMiddle.sound.inside applies.member)
    have returned := toFinal.stays node member (same ▸ List.mem_map_of_mem known)
    exact toMiddle.sound.old_gone made applies (same ▸ List.mem_map_of_mem returned)
  · intro fix recorded root next current applied
    obtain rfl := Option.some.inj (current.symm.trans toMiddle.sound.current)
    obtain ⟨change, tree, result, single, applies, rfl⟩ :=
      toMiddle.sound.exists_applies (toMiddle.recorded recorded) applied
    obtain ⟨_, records, known⟩ := began.sound.recorded fix recorded
    obtain rfl : change = _ := by simpa [single] using records.single
    have here := toMiddle.stays change.old applies.member (List.mem_map_of_mem known)
    exact ⟨change, tree, single, (Declaration.nodes_sublist here).subset, applies.replanted⟩

def codes : Declaration (Option Location) :=
  ⟨.enumKind, ⟨"Code", none⟩, [⟨⟨annotationName, none⟩, [⟨"Int", none⟩], [], none⟩],
    ⟨[⟨[], [⟨⟨"a", none⟩, none, none⟩], none⟩, ⟨[], [⟨⟨"b", none⟩, none, none⟩], none⟩,
      ⟨[⟨⟨defaultCaseName, none⟩, [], [], none⟩],
        [⟨⟨"other", none⟩, some [⟨none, ⟨"Int", none⟩, none⟩], none⟩], none⟩], none⟩, none⟩

/-- The fixes for both cases are recorded by one expansion. The second still applies when the first has
been applied, and neither applies twice. -/
theorem codes_live_once :
    let early := (load {} codes).run [.expand]
    let middle := early.run [.apply 0 0 0]
    ∃ fix ∈ early.fixes, ∃ root next, middle.root = some root ∧ middle.applyFix root fix = .ok next ∧
      (∃ change tree, fix.changes = [change] ∧ change.old.nodes ⊆ early.nodes ∧
        Replanted change.old tree middle.next middle.nodes next.nodes) ∧
      ∀ laterRoot, next.root = some laterRoot → ∃ error, next.applyFix laterRoot fix = .error error := by
  intro early middle
  have applies : ((early.recordedFix? 0 1 0).bind fun fix => middle.root.bind fun root =>
      (middle.applyFix root fix).toOption).isSome = true := by
    decide +kernel
  obtain ⟨next, applies⟩ := Option.isSome_iff_exists.mp applies
  obtain ⟨fix, found, applies⟩ := Option.bind_eq_some_iff.mp applies
  obtain ⟨root, current, applies⟩ := Option.bind_eq_some_iff.mp applies
  have applied := toOption_eq_some_iff.mp applies
  have recorded := mem_fixes_of_recordedFix? found
  obtain ⟨-, -, -, -, stale⟩ := nodes_live_once {} codes [.expand] [.apply 0 0 0] []
  obtain ⟨-, -, -, once, -⟩ := nodes_live_once {} codes [.expand] [.apply 0 0 0] []
  refine ⟨fix, recorded, root, next, current, applied, stale fix recorded root next current applied, ?_⟩
  exact once fix recorded root next current applied

end Session

end RawMapping
