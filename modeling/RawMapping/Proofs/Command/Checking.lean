import RawMapping.Command.Behavior
import RawMapping.Proofs.Command.Fixing
import RawMapping.Proofs.Derived.SameShape
import RawMapping.Proofs.Report.Locality
import RawMapping.Proofs.Session.Recording

/-! Reports can be acted on. Whatever a report names is a node of the declaration it is about: the
anchors, the anchors of notes and the nodes that fixes replace. So every fix that is offered applies, and
every location that is shown is one that was read. -/

set_option autoImplicit false

namespace RawMapping

/-! ### The root after a replacement -/

theorem settle_location (draft : Draft Stamp) (next : Nat) :
    (settle draft next).1.location = draft.location := by
  cases draft <;> rfl

theorem Edited.location_settle (next : Nat) (draft : Declaration (Draft Stamp)) :
    (Edited.settle next draft).root.tag.location = draft.tag.location := by
  have tag : (Edited.settle next draft).root.tag = (RawMapping.settle draft.tag next).1 :=
    Node.tag_renew RawMapping.settle (.declaration draft) next
  rw [tag, settle_location]

/-- The root of a declaration stays where it was written when a node below it is replaced. -/
theorem Edited.location_replaceNode {edited next : Edited} (distinct : (ids edited.root.nodes).Nodup)
    {old : Node Stamp} {new : Node (Draft Stamp)} (member : old ∈ edited.root.nodes)
    (inner : ∀ declaration, old ≠ .declaration declaration) (fits : old.fits new = true)
    (replaced : edited.replaceNode old new = .ok next) :
    next.root.tag.location = edited.root.tag.location := by
  rw [Edited.replaceNode_eq distinct member inner fits] at replaced
  cases replaced
  have other : (edited.root.tag.id == old.tag.id) = false := by
    rw [beq_eq_false_iff_ne]
    intro same
    exact inner edited.root (eq_of_identity distinct List.mem_cons_self member same.symm)
  rw [location_settle]
  simp only [Declaration.replace, other]
  rcases rebuilt_cases (·.id == old.tag.id) edited.root.below edited.root.tag with kept | copied
  · rw [kept]
    rfl
  · rw [copied]
    rfl

/-- A node whose tree gave way to nodes from below it and to new ones is gone. -/
theorem Grafted.gone {edited : Edited} (coherent : edited.Coherent) {change : Change Stamp}
    (offered : change.Offered edited.root) {result : List (Node Stamp)}
    (grafted : Grafted change.old change.new edited.next edited.root.nodes result) :
    change.old.tag.id ∉ ids result := by
  obtain ⟨front, back, ahead, planted, before, rfl, planting, rebuilt⟩ := grafted
  have used : change.old.tag.id < edited.next :=
    coherent.below _ (List.mem_map_of_mem offered.member)
  have tree : ids change.old.nodes = change.old.tag.id :: ids change.old.below := by
    rw [change.old.nodes_eq]
    rfl
  have distinct := coherent.distinct
  rw [before, ids_append, ids_append, tree] at distinct
  obtain ⟨-, inner, outer⟩ := List.nodup_append.mp distinct
  rw [List.cons_append, List.nodup_cons, List.mem_append, not_or] at inner
  obtain ⟨⟨below, behind⟩, -⟩ := inner
  simp only [ids_append, List.mem_append, not_or]
  -- the three parts: copies, which are new; what was planted; and what stood behind
  refine ⟨fun again => ?_, fun again => ?_, behind⟩
  · obtain ⟨copy, member, same⟩ := List.mem_map.mp again
    obtain ⟨node, inFront, rfl | ⟨-, new⟩⟩ := exists_of_forall₂_mem rebuilt member
    · exact outer _ (List.mem_map_of_mem inFront) _ List.mem_cons_self same
    · omega
  · obtain ⟨node, member, same⟩ := List.mem_map.mp again
    obtain ⟨draft, drafted, settles⟩ := exists_of_forall₂_mem planting member
    cases kept : draft.tag.keptId? with
    | none =>
      have new := settles.fresh kept
      omega
    | some id =>
      obtain ⟨old, inside, rfl⟩ := offered.reuses.exists_of_kept drafted kept
      rw [settles.eq_of_kept] at same
      exact below (same ▸ List.mem_map_of_mem inside)

/-- A fix of a report makes one change, to a node of the declaration below its root. It can be applied,
puts the new node in the place of the old one, and changes the case it is about and no other. -/
theorem Edited.Coherent.offer_applies {edited : Edited} (coherent : edited.Coherent)
    {settings : Settings} {diagnostic : Diagnostic Stamp}
    (reported : diagnostic ∈ edited.root.report settings) {fix : Fix Stamp}
    (offered : fix ∈ diagnostic.fixes) :
    ∃ change next, fix.changes = [change] ∧ change.old ∈ edited.root.nodes ∧
      fix.apply edited = .ok next ∧ edited.root.SameHead next.root ∧
      next.root.tag.location = edited.root.tag.location ∧
      Grafted change.old change.new edited.next edited.root.nodes next.root.nodes ∧
      change.old.tag.id ∉ ids next.root.nodes ∧
      ∃ target, edited.root.Targets diagnostic target ∧
        target.Outcome edited.root.records next.root.records := by
  obtain ⟨change, target, single, touches, targets⟩ :=
    (edited.root.remedies_report settings diagnostic reported fix offered).touches
  obtain ⟨next, replaced, head, outcome⟩ := touches.leaves coherent
  have offer := touches.offered
  have grafted : Grafted change.old change.new edited.next edited.root.nodes next.root.nodes := by
    have settled := replaced
    rw [Edited.replaceNode_eq coherent.distinct offer.member offer.inner offer.fits] at settled
    cases settled
    exact Edited.grafted coherent.distinct offer.member offer.fits
  refine ⟨change, next, single, offer.member, ?_, head,
    Edited.location_replaceNode coherent.distinct offer.member offer.inner offer.fits replaced, grafted,
    grafted.gone coherent offer, target, targets, outcome⟩
  obtain ⟨kind, changes⟩ := fix
  cases single
  rw [Fix.apply_single, replaced]

/-! ### Locations that are shown -/

/-- The diagnostic and its notes are anchored at nodes with a location. -/
def Diagnostic.Located (diagnostic : Diagnostic (Option Location)) : Prop :=
  ∀ node ∈ diagnostic.anchors, ∃ location, node.tag = some location

section

variable {diagnostic : Diagnostic (Option Location)} (console : Console) (file fallback : String)

theorem Node.shownLocation_eq {node : Node (Option Location)}
    (located : ∃ location, node.tag = some location) :
    node.shownLocation fallback = node.shownLocation file := by
  obtain ⟨location, same⟩ := located
  simp [shownLocation, same]

theorem Diagnostic.Located.anchor (located : diagnostic.Located) :
    diagnostic.anchor.shownLocation fallback = diagnostic.anchor.shownLocation file :=
  Node.shownLocation_eq file fallback (located _ List.mem_cons_self)

theorem Diagnostic.Located.note (located : diagnostic.Located) {note : Note (Option Location)}
    (member : note ∈ diagnostic.notes) :
    note.anchor.shownLocation fallback = note.anchor.shownLocation file :=
  Node.shownLocation_eq file fallback
    (located _ (List.mem_cons_of_mem _ (List.mem_map_of_mem member)))

theorem Diagnostic.Located.printed (located : diagnostic.Located) (source : String) :
    diagnostic.printed console fallback source = diagnostic.printed console file source := by
  have notes : diagnostic.notes.map (Note.markup console fallback) =
      diagnostic.notes.map (Note.markup console file) := by
    apply List.map_congr_left
    intro note member
    have same := located.note file fallback member
    unfold Note.markup
    rw [same]
  have anchor := located.anchor file fallback
  unfold Diagnostic.printed
  rw [anchor, notes]

theorem Diagnostic.Located.singleLines (located : diagnostic.Located) :
    diagnostic.singleLines fallback = diagnostic.singleLines file := by
  have anchor := located.anchor file fallback
  unfold Diagnostic.singleLines
  rw [anchor]
  refine congrArg _ (List.map_congr_left fun note member => ?_)
  rw [located.note file fallback member]

theorem Format.reportEvents_of_located {diagnostics : List (Diagnostic (Option Location))}
    (located : ∀ diagnostic ∈ diagnostics, diagnostic.Located) (format : Format) (source : String) :
    format.reportEvents console fallback source diagnostics =
      format.reportEvents console file source diagnostics := by
  cases format with
  | human =>
    refine congrArg (List.map _) (List.flatMap_congr fun diagnostic member => ?_)
    exact (located diagnostic member).printed console file fallback source
  | singleLine =>
    refine congrArg (List.map _) (List.flatMap_congr fun diagnostic member => ?_)
    exact (located diagnostic member).singleLines file fallback

end

/-- Every node that a report on a file names was read from the file. -/
theorem exists_read_of_anchor {file : String} {declarations : List (Declaration Position)}
    {settings : Settings} {diagnostic : Diagnostic (Option Location)}
    (reported : diagnostic ∈ (expandAll (locate file declarations) settings).flatMap
      fun (_, outcome) => outcomeProblems outcome)
    {node : Node (Option Location)} (anchor : node ∈ diagnostic.anchors) :
    ∃ declaration ∈ declarations, ∃ written ∈ declaration.nodes,
      node = written.map fun position => some (.of file position) := by
  rw [flatMap_outcomeProblems] at reported
  obtain ⟨located, listed, reported⟩ := List.mem_flatMap.mp reported
  obtain ⟨declaration, member, rfl⟩ := List.mem_map.mp listed
  have inside := Declaration.anchors_report _ settings diagnostic reported node anchor
  rw [Declaration.nodes_map] at inside
  obtain ⟨written, under, same⟩ := List.mem_map.mp inside
  exact ⟨declaration, member, written, under, same.symm⟩

/-- What a check shows of the declarations of a file, if a node without a location is shown at the
beginning of `fallback`. -/
def checkShowing (console : Console) (fallback : String) (settings : Settings) (files : Files)
    (format : Format) (source : String) (declarations : Located) : Behavior :=
  let results := expandAll declarations settings
  let problems := results.flatMap fun (_, outcome) => outcomeProblems outcome
  .after (expandAllJournal declarations settings) <|
    if problems.isEmpty then .exits files [console.say (format.success results.length)] 0
    else .attempts files 1 (format.reportEvents console fallback source problems)

theorem checkShowing_locate (console : Console) (file fallback : String) (settings : Settings)
    (files : Files) (format : Format) (source : String) (declarations : List (Declaration Position)) :
    checkShowing console file settings files format source (locate file declarations) =
      checkShowing console fallback settings files format source (locate file declarations) := by
  have located : ∀ diagnostic ∈ (expandAll (locate file declarations) settings).flatMap
      (fun (_, outcome) => outcomeProblems outcome), diagnostic.Located := by
    intro diagnostic reported node anchor
    obtain ⟨_, _, written, _, rfl⟩ := exists_read_of_anchor reported anchor
    exact ⟨_, Node.tag_map _ written⟩
  rw [checkShowing, checkShowing, Format.reportEvents_of_located console fallback file located]

/-! ### Reports -/

/-- Reports can be acted on. The anchors of a diagnostic and of its notes are nodes of the declaration, and
each fix replaces one node of it, can be applied, and changes nothing outside of the body. The new node
stands where the old one was, and no case but the one in question is any different. Where the
declarations of a file are checked, every anchor is where a node of the file was read; so it makes no
difference to a check where a node without a location would be shown. -/
theorem reports_can_be_acted_on :
    (∀ (edited : Edited) (settings : Settings) (diagnostics : List (Diagnostic Stamp)),
      edited.Coherent → edited.root.expand settings = .error (.rejected diagnostics) →
      ∀ diagnostic ∈ diagnostics, (∀ node ∈ diagnostic.anchors, node ∈ edited.root.nodes) ∧
        ∀ fix ∈ diagnostic.fixes, ∃ change next, fix.changes = [change] ∧
          change.old ∈ edited.root.nodes ∧ fix.apply edited = .ok next ∧
          edited.root.SameHead next.root ∧ next.root.tag.location = edited.root.tag.location ∧
          Grafted change.old change.new edited.next edited.root.nodes next.root.nodes ∧
          change.old.tag.id ∉ ids next.root.nodes ∧
          ∃ target, edited.root.Targets diagnostic target ∧
            target.Outcome edited.root.records next.root.records) ∧
    (∀ (source file : String) (declarations : List (Declaration Position)) (settings : Settings),
      parse source = .ok declarations →
      ∀ diagnostic ∈ (expandAll (locate file declarations) settings).flatMap
          (fun (_, outcome) => outcomeProblems outcome),
        ∀ node ∈ diagnostic.anchors, ∃ declaration ∈ declarations, ∃ written ∈ declaration.nodes,
          node = written.map fun position => some (.of file position)) ∧
    ∀ (console : Console) (settings : Settings) (files : Files) (path : Path) (format : Format)
      (fallback : String), checkBehavior console settings files path format =
        withSource console files path format (checkShowing console fallback settings files format) := by
  refine ⟨?_, ?_, ?_⟩
  · intro edited settings diagnostics coherent rejected diagnostic reported
    have report : edited.root.report settings = diagnostics := by
      rw [Declaration.report, rejected]
    rw [← report] at reported
    exact ⟨edited.root.anchors_report settings diagnostic reported,
      fun fix offered => coherent.offer_applies reported offered⟩
  · intro source file declarations settings _ diagnostic reported node anchor
    exact exists_read_of_anchor reported anchor
  · intro console settings files path format fallback
    change withSource console files path format
      (checkShowing console path.text settings files format) = _
    simp only [withSource, checkShowing_locate console path.text fallback]

/-- Two cases are marked as the catch-all, and the second of them has a value too. -/
def twins : Declaration Position :=
  ⟨.enumKind, ⟨"Twin", ⟨2, 6⟩⟩, [⟨⟨"raw_representable", ⟨1, 2⟩⟩, [⟨"String", ⟨1, 20⟩⟩], [], ⟨1, 1⟩⟩],
    ⟨[⟨[⟨⟨"default_case", ⟨3, 4⟩⟩, [], [], ⟨3, 3⟩⟩],
        [⟨⟨"one", ⟨4, 3⟩⟩, some [⟨none, ⟨"String", ⟨4, 7⟩⟩, ⟨4, 7⟩⟩], ⟨4, 3⟩⟩], ⟨3, 3⟩⟩,
      ⟨[⟨⟨"default_case", ⟨5, 4⟩⟩, [], [], ⟨5, 3⟩⟩,
          ⟨⟨"raw_value", ⟨6, 4⟩⟩, [], [⟨none, .string "b" ⟨6, 14⟩, ⟨6, 14⟩⟩], ⟨6, 3⟩⟩],
        [⟨⟨"other", ⟨7, 3⟩⟩, none, ⟨7, 3⟩⟩], ⟨5, 3⟩⟩], ⟨3, 1⟩⟩, ⟨2, 1⟩⟩

theorem twins_read :
    parse ("@raw_representable[String]\nenum Twin:\n  @default_case\n  one(String)\n" ++
      "  @default_case\n  @raw_value(\"b\")\n  other\n") = .ok [twins] := by
  decide +kernel

def twinsEdited : Edited :=
  .load 0 (twins.map fun position => some (.of "twins" position))

/-- Without its value the second of the twins is another node. -/
theorem twins_can_be_acted_on :
    (∃ extra conflict fix change next,
      twinsEdited.root.expand {} = .error (.rejected [extra, conflict]) ∧ extra.notes.length = 1 ∧
      (∀ node ∈ extra.anchors, node ∈ twinsEdited.root.nodes) ∧ conflict.fixes = [fix] ∧
      fix.changes = [change] ∧ fix.apply twinsEdited = .ok next ∧ twinsEdited.root.SameHead next.root ∧
      change.old ∈ twinsEdited.root.nodes ∧ change.old.tag.id ∉ ids next.root.nodes ∧
      ∃ target ∈ twinsEdited.root.records, target.name = "other" ∧
        Retouches target twinsEdited.root.records next.root.records) ∧
    (∀ diagnostic ∈ (expandAll (locate "twins" [twins]) {}).flatMap
        (fun (_, outcome) => outcomeProblems outcome),
      ∀ node ∈ diagnostic.anchors, ∃ declaration ∈ [twins], ∃ written ∈ declaration.nodes,
        node = written.map fun position => some (.of "twins" position)) := by
  obtain ⟨acted, read, -⟩ := reports_can_be_acted_on
  have rejected : twinsEdited.root.expand {} = .error (.rejected [_, _]) := rfl
  have only : ∀ diagnostic ∈ twinsEdited.root.report {}, ∀ record ∈ twinsEdited.root.records,
      diagnostic.anchor ∈ record.nodes → record.name = "other" := by
    decide +kernel
  have each := acted twinsEdited {} _ (Edited.coherent_load 0 _) rejected
  rw [List.forall_mem_cons, List.forall_mem_singleton] at each
  obtain ⟨⟨anchors, -⟩, -, fixes⟩ := each
  obtain ⟨change, next, single, member, applied, head, -, -, gone, target, targets, outcome⟩ :=
    fixes _ (List.mem_singleton_self _)
  refine ⟨⟨_, _, _, change, next, rejected, rfl, anchors, rfl, single, applied, head, member, gone, ?_⟩,
    read _ "twins" [twins] {} twins_read⟩
  cases targets with
  | present present about =>
    exact ⟨_, present, only _ (List.mem_cons_of_mem _ (List.mem_singleton_self _)) _ present about,
      outcome⟩
  | added missing => cases missing

end RawMapping
