import RawMapping.Proofs.Declaration.Substitution
import RawMapping.Proofs.Report.Remedies

/-! What a fix leaves alone. A fix changes the first case of a line in place, moves another case to a line
of its own, or adds a line. All other cases keep their variants and what is written for them, in the
same order. -/

set_option autoImplicit false

namespace RawMapping

variable {α : Type}

/-! ### The cases of lines -/

/-- What a record says about its case, wherever it stands. -/
def CaseRecord.content (record : CaseRecord α) :
    Variant α × Role × Option (Attribute α) × List (Attribute α × Nat) :=
  (record.variant, record.role, record.rawAttribute, record.extraRawAttributes)

def recordsFrom (start : Nat) (lines : List (CaseLine α)) : List (CaseRecord α) :=
  (lines.zipIdx start).flatMap fun placed => placed.1.records placed.2

theorem Declaration.records_eq (declaration : Declaration α) :
    declaration.records = recordsFrom 0 declaration.body.lines := rfl

theorem recordsFrom_cons (start : Nat) (line : CaseLine α) (lines : List (CaseLine α)) :
    recordsFrom start (line :: lines) = line.records start ++ recordsFrom (start + 1) lines := by
  rw [recordsFrom, List.zipIdx_cons, List.flatMap_cons]
  rfl

theorem recordsFrom_append (start : Nat) (lines more : List (CaseLine α)) :
    recordsFrom start (lines ++ more) =
      recordsFrom start lines ++ recordsFrom (start + lines.length) more := by
  rw [recordsFrom, List.zipIdx_append, List.flatMap_append]
  rfl

def CaseLine.plainRecords (line : CaseLine α) (lineIndex start : Nat) (variants : List (Variant α)) :
    List (CaseRecord α) :=
  (variants.zipIdx start).map fun placed => line.plainRecord lineIndex placed.2 placed.1

theorem CaseLine.records_eq_cons {line : CaseLine α} {first : Variant α} {others : List (Variant α)}
    (variants : line.variants = first :: others) (lineIndex : Nat) :
    line.records lineIndex = line.leadRecord lineIndex first :: line.plainRecords lineIndex 1 others :=
  CaseLine.records_of_cons variants lineIndex

theorem CaseLine.plainRecords_append (line : CaseLine α) (lineIndex start : Nat)
    (variants more : List (Variant α)) :
    line.plainRecords lineIndex start (variants ++ more) =
      line.plainRecords lineIndex start variants ++
        line.plainRecords lineIndex (start + variants.length) more := by
  rw [plainRecords, List.zipIdx_append, List.map_append]
  rfl

theorem CaseLine.map_content_plainRecords (line : CaseLine α) (lineIndex start : Nat)
    (variants : List (Variant α)) :
    (line.plainRecords lineIndex start variants).map CaseRecord.content =
      variants.map fun variant => (variant, .implicit, none, []) := by
  induction variants generalizing start with
  | nil => rfl
  | cons variant variants ih => exact congrArg _ (ih (start + 1))

theorem CaseLine.map_content_records (line : CaseLine α) (lineIndex : Nat) :
    (line.records lineIndex).map CaseRecord.content = (line.records 0).map CaseRecord.content := by
  cases variants : line.variants with
  | nil => simp [CaseLine.records, variants]
  | cons first others =>
    rw [records_eq_cons variants, records_eq_cons variants, List.map_cons, List.map_cons,
      map_content_plainRecords, map_content_plainRecords]
    rfl

/-- Where lines stand makes no difference. -/
theorem map_content_recordsFrom (start other : Nat) (lines : List (CaseLine α)) :
    (recordsFrom start lines).map CaseRecord.content = (recordsFrom other lines).map CaseRecord.content := by
  induction lines generalizing start other with
  | nil => rfl
  | cons line lines ih =>
    rw [recordsFrom_cons, recordsFrom_cons, List.map_append, List.map_append,
      ih (start + 1) (other + 1), line.map_content_records start, line.map_content_records other]

/-! ### One case among the others -/

/-- Among the cases of a declaration, one was changed but for its name, and no other. -/
def Retouches (target : CaseRecord α) (old new : List (CaseRecord α)) : Prop :=
  ∃ before after ahead behind changed, old = before ++ target :: after ∧
    new = ahead ++ changed :: behind ∧ changed.name = target.name ∧
    (ahead ++ behind).map CaseRecord.content = (before ++ after).map CaseRecord.content

theorem Retouches.perm {target : CaseRecord α} {old new : List (CaseRecord α)}
    (retouches : Retouches target old new) :
    (new.map CaseRecord.name).Perm (old.map CaseRecord.name) := by
  obtain ⟨before, after, ahead, behind, changed, rfl, rfl, name, same⟩ := retouches
  have names : (ahead ++ behind).map CaseRecord.name = (before ++ after).map CaseRecord.name := by
    have named := congrArg (List.map fun content : Variant α × _ => content.1.name.text) same
    rwa [List.map_map, List.map_map] at named
  have order : ∀ (record : CaseRecord α) (front back : List (CaseRecord α)),
      ((front ++ record :: back).map CaseRecord.name).Perm
        (record.name :: (front ++ back).map CaseRecord.name) :=
    fun record front back => List.perm_middle.map _
  refine (order changed ahead behind).trans ?_
  rw [name, names]
  exact (order target before after).symm

theorem retouches_lead {before after : List (CaseLine α)} {line changed : CaseLine α}
    {first other : Variant α} {others : List (Variant α)} (variants : line.variants = first :: others)
    (changedVariants : changed.variants = other :: others) (name : other.name.text = first.name.text) :
    Retouches (line.leadRecord before.length first) (recordsFrom 0 (before ++ line :: after))
      (recordsFrom 0 (before ++ ([changed] ++ after))) := by
  have split : ∀ {line : CaseLine α} {first : Variant α}, line.variants = first :: others →
      recordsFrom 0 (before ++ line :: after) =
        recordsFrom 0 before ++ line.leadRecord before.length first ::
          (line.plainRecords before.length 1 others ++ recordsFrom (before.length + 1) after) := by
    intro line first variants
    rw [recordsFrom_append, recordsFrom_cons, CaseLine.records_eq_cons variants, Nat.zero_add]
    rfl
  refine ⟨_, _, _, _, _, split variants, split changedVariants, name, ?_⟩
  simp only [List.map_append, CaseLine.map_content_plainRecords]

theorem retouches_moved {before after : List (CaseLine α)} {line trimmed own : CaseLine α}
    {front back : List (Variant α)} {variant : Variant α} (nonempty : front ≠ [])
    (variants : line.variants = front ++ variant :: back)
    (trimmedVariants : trimmed.variants = front ++ back) (attributes : trimmed.attributes = line.attributes)
    (ownVariants : own.variants = [variant]) :
    Retouches (line.plainRecord before.length front.length variant)
      (recordsFrom 0 (before ++ line :: after)) (recordsFrom 0 (before ++ ([trimmed, own] ++ after))) := by
  -- the first case stays where it is, so the attributes of the line still belong to it
  obtain ⟨first, middle, rfl⟩ := List.exists_cons_of_ne_nil nonempty
  rw [List.cons_append] at variants trimmedVariants
  have moved : line.plainRecords before.length (1 + middle.length) (variant :: back) =
      line.plainRecord before.length (first :: middle).length variant ::
        line.plainRecords before.length (middle.length + 2) back := by
    rw [List.length_cons, Nat.add_comm 1]
    rfl
  have old : recordsFrom 0 (before ++ line :: after) =
      (recordsFrom 0 before ++ line.leadRecord before.length first ::
        line.plainRecords before.length 1 middle) ++
      line.plainRecord before.length (first :: middle).length variant ::
        (line.plainRecords before.length (middle.length + 2) back ++
          recordsFrom (before.length + 1) after) := by
    rw [recordsFrom_append, recordsFrom_cons, CaseLine.records_eq_cons variants, Nat.zero_add,
      CaseLine.plainRecords_append, moved]
    simp
  have new : recordsFrom 0 (before ++ ([trimmed, own] ++ after)) =
      (recordsFrom 0 before ++ trimmed.leadRecord before.length first ::
        trimmed.plainRecords before.length 1 (middle ++ back)) ++
      own.leadRecord (before.length + 1) variant :: recordsFrom (before.length + 2) after := by
    rw [recordsFrom_append, List.cons_append, List.singleton_append, recordsFrom_cons, recordsFrom_cons,
      CaseLine.records_eq_cons trimmedVariants, CaseLine.records_eq_cons ownVariants, Nat.zero_add]
    simp [CaseLine.plainRecords]
  have lead : (trimmed.leadRecord before.length first).content =
      (line.leadRecord before.length first).content := by
    simp [CaseRecord.content, CaseLine.leadRecord, CaseLine.leadRole, CaseLine.rawAttributes, attributes]
  refine ⟨_, _, _, _, _, old, new, rfl, ?_⟩
  simp only [List.map_append, List.map_cons, lead, CaseLine.map_content_plainRecords, List.append_assoc,
    List.cons_append, map_content_recordsFrom (before.length + 2) (before.length + 1)]

/-! ### Cases have no nodes in common -/

theorem CaseLine.subperm_nodes (line : CaseLine α) (lineIndex : Nat) :
    ((line.records lineIndex).flatMap CaseRecord.nodes).Subperm line.nodes := by
  cases variants : line.variants with
  | nil => simp [CaseLine.records, variants]
  | cons first others =>
    have values : (line.leadRecord lineIndex first).rawAttribute.toList ++
        (line.leadRecord lineIndex first).extraRawAttributes.map (·.1) =
          line.attributes.filter (·.isNamed rawValueName) := by
      rw [← map_rawAttributes]
      unfold leadRecord
      cases line.rawAttributes <;> rfl
    have plain : (line.plainRecords lineIndex 1 others).flatMap CaseRecord.nodes =
        others.flatMap Variant.nodes := by
      nth_rewrite 2 [← List.zipIdx_map_fst 1 others]
      rw [plainRecords, List.flatMap_map, List.flatMap_map]
      refine List.flatMap_congr fun placed _ => ?_
      simp [CaseRecord.nodes, plainRecord]
    rw [records_eq_cons variants, List.flatMap_cons, plain, CaseRecord.nodes, values]
    have inside : ((line.attributes.filter (·.isNamed rawValueName)).flatMap Attribute.nodes ++
        (first.nodes ++ others.flatMap Variant.nodes)).Sublist line.nodes := by
      rw [CaseLine.nodes, CaseLine.below, variants, List.flatMap_cons]
      exact ((List.filter_sublist.flatMap _).append (.refl _)).cons _
    -- a record has its variant before its raw values, a line has them the other way round
    have order : (first.nodes ++ (line.attributes.filter (·.isNamed rawValueName)).flatMap Attribute.nodes ++
        others.flatMap Variant.nodes).Perm ((line.attributes.filter (·.isNamed rawValueName)).flatMap
          Attribute.nodes ++ (first.nodes ++ others.flatMap Variant.nodes)) := by
      rw [← List.append_assoc]
      exact List.perm_append_comm.append_right _
    exact order.subperm.trans inside.subperm

theorem subperm_recordsFrom (start : Nat) (lines : List (CaseLine α)) :
    ((recordsFrom start lines).flatMap CaseRecord.nodes).Subperm (lines.flatMap CaseLine.nodes) := by
  induction lines generalizing start with
  | nil => exact .refl _
  | cons line lines ih =>
    rw [recordsFrom_cons, List.flatMap_append, List.flatMap_cons]
    exact (line.subperm_nodes start).append (ih (start + 1))

/-- A node belongs to one case at most. -/
theorem Declaration.record_unique {root : Declaration Stamp} (distinct : (ids root.nodes).Nodup)
    {first second : CaseRecord Stamp} (member : first ∈ root.records) (also : second ∈ root.records)
    {node : Node Stamp} (inside : node ∈ first.nodes) (within : node ∈ second.nodes) : first = second := by
  have part : (root.records.flatMap CaseRecord.nodes).Subperm root.nodes := by
    refine (subperm_recordsFrom 0 root.body.lines).trans (List.Sublist.subperm ?_)
    rw [Declaration.nodes, Declaration.below, Body.nodes]
    exact ((List.sublist_cons_self _ _).trans (List.sublist_append_right _ _)).cons _
  have nodup : (root.records.flatMap CaseRecord.nodes).Nodup := by
    obtain ⟨among, order, within⟩ := part
    exact order.nodup_iff.mp ((List.Nodup.of_map _ distinct).sublist within)
  obtain ⟨before, after, split⟩ := List.append_of_mem member
  rw [split, List.flatMap_append, List.flatMap_cons, List.nodup_append, List.nodup_append] at nodup
  obtain ⟨-, ⟨-, -, behind⟩, ahead⟩ := nodup
  rw [split, List.mem_append, List.mem_cons] at also
  rcases also with earlier | same | later
  · exact absurd rfl (ahead node (List.mem_flatMap.mpr ⟨second, earlier, within⟩) node
      (List.mem_append_left _ inside))
  · exact same.symm
  · exact absurd rfl (behind node inside node (List.mem_flatMap.mpr ⟨second, later, within⟩))

/-- The name of a declaration belongs to no case. -/
theorem Declaration.name_not_mem {root : Declaration Stamp} (distinct : (ids root.nodes).Nodup)
    {record : CaseRecord Stamp} (member : record ∈ root.records) :
    Node.identifier root.name ∉ record.nodes := by
  intro inside
  have among : Node.identifier root.name ∈ root.body.lines.flatMap CaseLine.nodes :=
    (subperm_recordsFrom 0 root.body.lines).subset (List.mem_flatMap.mpr ⟨record, member, inside⟩)
  have nodes : root.nodes = [.declaration root] ++ ([.identifier root.name] ++
      (root.attributes.flatMap Attribute.nodes ++ .body root.body ::
        root.body.lines.flatMap CaseLine.nodes)) := by
    simp [Declaration.nodes, Declaration.below, Identifier.nodes, Body.nodes, Body.below]
  rw [nodes] at distinct
  obtain ⟨-, later⟩ := absent_around distinct (List.mem_map_of_mem (List.mem_singleton_self _))
  have absent := later _ (List.mem_append_right _ (List.mem_cons_of_mem _ among))
  simp at absent

/-! ### What a replacement leaves -/

theorem Renewed.unique {β : Type} {f : α → StateM Nat β} {next last final : Nat} {old : List α}
    {new other : List β} (first : Renewed f next old new last) (second : Renewed f next old other final) :
    new = other :=
  (Prod.mk.inj (first.symm.trans second)).1

theorem renewed_kept (lines : List (CaseLine Stamp)) (next : Nat) :
    Renewed (CaseLine.renew settle) next (lines.map (·.map .kept)) lines next :=
  mapM_kept CaseLine.settle_kept lines next

/-- The declarations differ in their bodies only. -/
structure Declaration.SameHead (root other : Declaration Stamp) : Prop where
  kind : other.kind = root.kind
  name : other.name = root.name
  attributes : other.attributes = root.attributes

theorem Edited.settle_relined (root : Declaration Stamp) (lines : List (CaseLine (Draft Stamp)))
    (tag bodyTag : Draft Stamp) (next : Nat) :
    root.SameHead (Edited.settle next (root.relined lines tag bodyTag)).root ∧
      ∃ start last, Renewed (CaseLine.renew RawMapping.settle) start lines
        (Edited.settle next (root.relined lines tag bodyTag)).root.body.lines last := by
  have attributes := mapM_kept Attribute.settle_kept root.attributes
  exact ⟨⟨rfl, rfl, congrArg Prod.fst (attributes _)⟩, _, _, rfl⟩

section

variable {edited : Edited} {before after : List (CaseLine Stamp)} {line : CaseLine Stamp}

theorem Edited.Coherent.replace_inside (coherent : edited.Coherent)
    (lines : edited.root.body.lines = before ++ line :: after) {old : Node Stamp}
    {new : Node (Draft Stamp)} (member : old ∈ line.nodes)
    (inner : ∀ declaration, old ≠ .declaration declaration) (fits : old.fits new = true) :
    ∃ next start, edited.replaceNode old new = .ok next ∧ edited.root.SameHead next.root ∧
      next.root.body.lines =
        before ++ ([((line.replace (·.id == old.tag.id) new).renew RawMapping.settle start).1] ++ after) := by
  have inside : old ∈ edited.root.nodes := (CaseLine.nodes_sublist lines).subset member
  obtain ⟨tag, bodyTag, replaced⟩ :=
    Declaration.replace_line lines coherent.distinct (List.mem_map_of_mem member) new
  have result := Edited.replaceNode_eq coherent.distinct inside inner fits
  rw [replaced] at result
  obtain ⟨head, start, last, renewed⟩ := Edited.settle_relined edited.root _ tag bodyTag edited.next
  -- kept lines use up no identity, so the line that is rebuilt starts where the body does
  have expected := (renewed_kept before start).append
    (.cons _ (line.replace (·.id == old.tag.id) new) start (renewed_kept after _))
  exact ⟨_, start, result, head, renewed.unique expected⟩

theorem Edited.Coherent.replace_body (coherent : edited.Coherent)
    (lines : List (CaseLine (Draft Stamp))) (tag : Draft Stamp) :
    ∃ next start last, edited.replaceNode (.body edited.root.body) (.body ⟨lines, tag⟩) = .ok next ∧
      edited.root.SameHead next.root ∧
      Renewed (CaseLine.renew RawMapping.settle) start lines next.root.body.lines last := by
  have inside : Node.body edited.root.body ∈ edited.root.nodes := by
    simp [Declaration.nodes, Declaration.below, Body.nodes]
  obtain ⟨rootTag, replaced⟩ := Declaration.replace_body coherent.distinct ⟨lines, tag⟩
  have result : edited.replaceNode (.body edited.root.body) (.body ⟨lines, tag⟩) = _ :=
    Edited.replaceNode_eq coherent.distinct inside (by simp) rfl
  rw [Node.tag, replaced] at result
  obtain ⟨head, start, last, renewed⟩ := Edited.settle_relined edited.root lines rootTag tag edited.next
  exact ⟨_, start, last, result, head, renewed⟩

end

/-! ### What a fix leaves -/

def Target.Outcome : Target → List (CaseRecord Stamp) → List (CaseRecord Stamp) → Prop
  | .present record, old, new => Retouches record old new
  | .added name, old, new => ∃ added, added.name = name ∧ new = old ++ [added]

/-- The node can be replaced, which changes the case of the target in the body and nothing else. -/
def Change.Leaves (change : Change Stamp) (edited : Edited) (target : Target) : Prop :=
  ∃ next, edited.replaceNode change.old change.new = .ok next ∧ edited.root.SameHead next.root ∧
    target.Outcome edited.root.records next.root.records

theorem Variant.name_settle (variant : Variant (Draft Stamp)) (next : Nat) :
    (variant.renew settle next).1.name.text = variant.name.text := by
  obtain ⟨name, parameters, tag⟩ := variant
  cases parameters <;> rfl

section

variable {edited : Edited} {before after : List (CaseLine Stamp)} {line : CaseLine Stamp}

theorem Edited.Coherent.leaves_lead (coherent : edited.Coherent)
    (lines : edited.root.body.lines = before ++ line :: after) {first : Variant Stamp}
    {others : List (Variant Stamp)} (variants : line.variants = first :: others) {change : Change Stamp}
    (member : change.old ∈ line.nodes) (inner : ∀ declaration, change.old ≠ .declaration declaration)
    (fits : change.old.fits change.new = true) {attributes : List (Attribute (Draft Stamp))}
    {variant : Variant (Draft Stamp)} {tag : Draft Stamp}
    (replaced : line.replace (·.id == change.old.tag.id) change.new =
      ⟨attributes, variant :: others.map (·.map .kept), tag⟩)
    (name : variant.name.text = first.name.text) :
    change.Leaves edited (.present (line.leadRecord before.length first)) := by
  obtain ⟨next, start, result, head, after⟩ := coherent.replace_inside lines member inner fits
  have others := mapM_kept Variant.settle_kept others
  refine ⟨next, result, head, ?_⟩
  rw [Declaration.records_eq, Declaration.records_eq, lines, after, replaced]
  refine retouches_lead variants (congrArg Prod.fst (Renewed.cons _ variant _ (others _))) ?_
  exact (variant.name_settle _).trans name

theorem Edited.Coherent.leaves_moved (coherent : edited.Coherent)
    (lines : edited.root.body.lines = before ++ line :: after) {front back : List (Variant Stamp)}
    {variant : Variant Stamp} (nonempty : front ≠ [])
    (variants : line.variants = front ++ variant :: back) (attr : Attribute (Draft Stamp)) :
    (Change.ofBody edited.root.body (before.map (CaseLine.map Draft.kept) ++
      (line.split front.length variant attr ++ after.map (CaseLine.map Draft.kept)))).Leaves edited
        (.present (line.plainRecord before.length front.length variant)) := by
  obtain ⟨next, start, last, result, head, renewed⟩ := coherent.replace_body
    (before.map (CaseLine.map Draft.kept) ++
      (line.split front.length variant attr ++ after.map (CaseLine.map Draft.kept)))
    (.copied edited.root.body.tag)
  have expected := (renewed_kept before start).append (.cons _ (line.trimmed front.length) start
    (.cons _ ⟨[attr], [variant.map .kept], .added⟩ _ (renewed_kept after _)))
  have attributes := mapM_kept Attribute.settle_kept line.attributes
  have rest := mapM_kept Variant.settle_kept (front ++ back)
  have own := mapM_kept Variant.settle_kept [variant]
  refine ⟨next, result, head, ?_⟩
  rw [Declaration.records_eq, Declaration.records_eq, lines, renewed.unique expected,
    CaseLine.trimmed_eq variants]
  exact retouches_moved nonempty variants (congrArg Prod.fst (rest _)) (congrArg Prod.fst (attributes _))
    (congrArg Prod.fst (own _))

theorem Edited.Coherent.leaves_added (coherent : edited.Coherent)
    (attributes : List (Attribute (Draft Stamp))) (variant : Variant (Draft Stamp)) :
    (Change.ofBody edited.root.body (edited.root.body.lines.map (CaseLine.map Draft.kept) ++
      [⟨attributes, [variant], .added⟩])).Leaves edited (.added variant.name.text) := by
  obtain ⟨next, start, last, result, head, renewed⟩ := coherent.replace_body
    (edited.root.body.lines.map (CaseLine.map Draft.kept) ++ [⟨attributes, [variant], .added⟩])
    (.copied edited.root.body.tag)
  have expected := (renewed_kept edited.root.body.lines start).append
    (.cons _ ⟨attributes, [variant], .added⟩ start (.nil _ _))
  refine ⟨next, result, head, ?_⟩
  obtain ⟨later, variants⟩ : ∃ later, (CaseLine.renew RawMapping.settle
      ⟨attributes, [variant], .added⟩ start).1.variants =
        [(variant.renew RawMapping.settle later).1] := ⟨_, rfl⟩
  rw [Declaration.records_eq, Declaration.records_eq, renewed.unique expected, recordsFrom_append,
    recordsFrom_cons, CaseLine.records_eq_cons variants]
  refine ⟨_, ?_, rfl⟩
  exact variant.name_settle later

end

theorem Declaration.Touches.leaves {edited : Edited} (coherent : edited.Coherent) {target : Target}
    {change : Change Stamp} (touches : edited.root.Touches target change) :
    change.Leaves edited target := by
  cases touches with
  | @line before after line first others part added lines variants inside new =>
    have replaced : line.replace (·.id == line.tag.id) (.line ⟨part.map (·.map .kept) ++ added,
        line.variants.map (·.map .kept), .copied line.tag⟩) =
          ⟨part.map (·.map .kept) ++ added, first.map .kept :: others.map (·.map .kept),
            .copied line.tag⟩ := by
      simp [CaseLine.replace, variants]
    exact coherent.leaves_lead lines variants List.mem_cons_self (by simp [Change.ofLine]) rfl replaced rfl
  | moved lines nonempty variants new => exact coherent.leaves_moved lines nonempty variants _
  | @payload before after line first others parameters lines variants new =>
    have inside := CaseLine.mem_nodes_of_first variants
    obtain ⟨tag, replaced⟩ := CaseLine.replace_first variants (coherent.line_distinct lines)
      ⟨first.name.map .kept, some parameters, .copied first.tag⟩
    exact coherent.leaves_lead lines variants inside (by simp) rfl replaced rfl
  | @value before after line first others front back attr argument old literal lines variants attributes
      arguments value new =>
    have inside := CaseLine.mem_nodes_of_value attributes arguments value
    obtain ⟨tag, attrTag, argumentTag, replaced⟩ :=
      CaseLine.replace_value attributes arguments (coherent.line_distinct lines) literal
    rw [value, variants] at replaced
    exact coherent.leaves_lead lines variants inside (by simp) rfl replaced rfl
  | added new => exact coherent.leaves_added _ _

/-- Every fix of a failed expansion can be applied, and touches only the case that it is about. Kind, name
and attributes of the declaration stay. Either exactly one case has the node that the diagnostic is
anchored at: it keeps its name, and all other cases keep their variants, roles and raw values, in the
same order. Or no case has it: the catch-all is missing, and one case is added behind the others, under a
name that none of them has. -/
theorem Edited.Coherent.fix_is_local {edited : Edited} (coherent : edited.Coherent) {settings : Settings}
    {diagnostics : List (Diagnostic Stamp)}
    (rejected : edited.root.expand settings = .error (.rejected diagnostics))
    {diagnostic : Diagnostic Stamp} (reported : diagnostic ∈ diagnostics) {fix : Fix Stamp}
    (offered : fix ∈ diagnostic.fixes) :
    ∃ next, fix.apply edited = .ok next ∧ next.root.kind = edited.root.kind ∧
      next.root.name = edited.root.name ∧ next.root.attributes = edited.root.attributes ∧
      ((∃ target ∈ edited.root.records, diagnostic.About target ∧
          (∀ other ∈ edited.root.records, diagnostic.About other → other = target) ∧
          Retouches target edited.root.records next.root.records ∧
          (next.root.records.map CaseRecord.name).Perm (edited.root.records.map CaseRecord.name)) ∨
        (diagnostic.kind = .missingDefault ∧ (∀ other ∈ edited.root.records, ¬ diagnostic.About other) ∧
          ∃ added, next.root.records = edited.root.records ++ [added] ∧
            added.name ∉ edited.root.records.map CaseRecord.name)) := by
  have report : edited.root.report settings = diagnostics := by
    rw [Declaration.report, rejected]
  obtain ⟨change, target, single, touches, targets⟩ :=
    (edited.root.remedies_report settings diagnostic (report ▸ reported) fix offered).touches
  obtain ⟨next, replaced, head, outcome⟩ := touches.leaves coherent
  have applied : fix.apply edited = .ok next := by
    obtain ⟨kind, changes⟩ := fix
    cases single
    rw [Fix.apply_single, replaced]
  refine ⟨next, applied, head.kind, head.name, head.attributes, ?_⟩
  -- a present case is changed alone; an added one comes last, under a name of its own
  cases targets with
  | present member about =>
    refine .inl ⟨_, member, about, fun other also again => ?_, outcome, outcome.perm⟩
    exact Declaration.record_unique coherent.distinct also member again about
  | added missing anchor unnamed =>
    obtain ⟨added, name, result⟩ := outcome
    refine .inr ⟨missing, fun other also about => ?_, added, result, fun taken => ?_⟩
    · rw [Diagnostic.About, anchor] at about
      exact Declaration.name_not_mem coherent.distinct also about
    · obtain ⟨record, member, same⟩ := List.mem_map.mp taken
      exact unnamed record member (same.trans name)

/-- Two cases on one line, the first of them with a value. -/
def sides : Declaration (Option Location) :=
  ⟨.enumKind, ⟨"Side", none⟩, [⟨⟨annotationName, none⟩, [⟨"Int", none⟩], [], none⟩],
    ⟨[⟨[⟨⟨rawValueName, none⟩, [], [⟨none, .integer "1" none, none⟩], none⟩],
        [⟨⟨"left", none⟩, none, none⟩, ⟨⟨"right", none⟩, none, none⟩], none⟩,
      ⟨[⟨⟨defaultCaseName, none⟩, [], [], none⟩],
        [⟨⟨"other", none⟩, some [⟨none, ⟨"Int", none⟩, none⟩], none⟩], none⟩], none⟩, none⟩

/-- The second case moves to a line of its own, and the first keeps its value. -/
theorem sides_fix_is_local :
    ∃ diagnostic fix, (Edited.load 0 sides).root.expand {} = .error (.rejected [diagnostic]) ∧
      diagnostic.fixes = [fix] ∧ ∃ next, fix.apply (Edited.load 0 sides) = .ok next ∧
        ∃ target ∈ (Edited.load 0 sides).root.records, target.name = "right" ∧
          Retouches target (Edited.load 0 sides).root.records next.root.records := by
  have rejected : (Edited.load 0 sides).root.expand {} = .error (.rejected [_]) := rfl
  have only : ∀ diagnostic ∈ (Edited.load 0 sides).root.report {},
      ∀ record ∈ (Edited.load 0 sides).root.records, diagnostic.anchor ∈ record.nodes →
        record.name = "right" := by
    decide +kernel
  obtain ⟨next, applied, -, -, -, cases⟩ := (Edited.coherent_load 0 sides).fix_is_local rejected
    (List.mem_singleton_self _) (List.mem_singleton_self _)
  refine ⟨_, _, rejected, rfl, next, applied, ?_⟩
  rcases cases with ⟨target, member, about, -, retouches, -⟩ | ⟨missing, -⟩
  · exact ⟨target, member, only _ (List.mem_singleton_self _) target member about, retouches⟩
  · cases missing

end RawMapping
