import RawMapping.Proofs.Declaration.Replacing
import RawMapping.Proofs.Report.Faults
import RawMapping.Report.Apply

/-! What fixes do to the lines of a declaration. Each fix that is offered can be applied, and changes the
lines in one of a few ways; everything else stays as it was written. -/

set_option autoImplicit false

namespace RawMapping

/-! ### Applying a fix -/

theorem Declaration.shape_lines {root : Declaration Stamp} {before after : List (CaseLine Stamp)}
    {line : CaseLine Stamp} (lines : root.body.lines = before ++ line :: after) :
    root.shape.body.lines =
      before.map CaseLine.shape ++ line.shape :: after.map CaseLine.shape := by
  change root.body.lines.map CaseLine.shape = _
  rw [lines, List.map_append, List.map_cons]

/-- The fix can be applied, and leaves a coherent declaration that differs in its lines only. -/
def Fix.Yields (fix : Fix Stamp) (edited : Edited) (lines : List (CaseLine Unit)) : Prop :=
  ∃ next, fix.apply edited = .ok next ∧ next.Coherent ∧
    next.root.shape = { edited.root.shape with body := ⟨lines, ()⟩ }

theorem Fix.apply_single (kind : FixKind) (change : Change Stamp) (edited : Edited) :
    (Fix.mk kind [change]).apply edited = edited.replaceNode change.old change.new := by
  rw [Fix.apply, List.foldlM_cons]
  cases edited.replaceNode change.old change.new <;> rfl

section

variable {edited : Edited} {before after : List (CaseLine Stamp)} {line : CaseLine Stamp}

theorem CaseLine.nodes_sublist {root : Declaration Stamp}
    (lines : root.body.lines = before ++ line :: after) : line.nodes.Sublist root.nodes := by
  rw [Declaration.nodes_eq_append lines]
  exact (List.sublist_append_left _ _).trans (List.sublist_append_right _ _)

theorem Edited.Coherent.line_distinct (coherent : edited.Coherent)
    (lines : edited.root.body.lines = before ++ line :: after) : (ids line.nodes).Nodup :=
  coherent.distinct.sublist ((CaseLine.nodes_sublist lines).map _)

theorem Edited.Coherent.yields_inside (coherent : edited.Coherent)
    (lines : edited.root.body.lines = before ++ line :: after) (kind : FixKind) (old : Node Stamp)
    (new : Node (Draft Stamp)) (member : old ∈ line.nodes)
    (inner : ∀ declaration, old ≠ .declaration declaration) (fits : old.fits new = true)
    (inherits : Inherits new.nodes old.nodes) :
    (Fix.mk kind [⟨old, new⟩]).Yields edited (before.map CaseLine.shape ++
      ([(line.replace (·.id == old.tag.id) new).shape] ++ after.map CaseLine.shape)) := by
  obtain ⟨next, replaced, nextCoherent, shape⟩ := coherent.replaceNode old new
    ((CaseLine.nodes_sublist lines).subset member) inner fits inherits
  refine ⟨next, (Fix.apply_single kind _ edited).trans replaced, nextCoherent, ?_⟩
  rw [shape]
  exact Declaration.shape_replace_line lines coherent.distinct (List.mem_map_of_mem member) new

theorem Edited.Coherent.yields_line (coherent : edited.Coherent)
    (lines : edited.root.body.lines = before ++ line :: after) (kind : FixKind)
    {attributes : List (Attribute (Draft Stamp))} {variants : List (Variant (Draft Stamp))}
    (above : Reuses (attributes.flatMap Attribute.nodes) (line.attributes.flatMap Attribute.nodes))
    (below : Reuses (variants.flatMap Variant.nodes) (line.variants.flatMap Variant.nodes)) :
    (Fix.mk kind [.ofLine line attributes variants]).Yields edited (before.map CaseLine.shape ++
      ([⟨attributes.map Attribute.shape, variants.map Variant.shape, ()⟩] ++
        after.map CaseLine.shape)) := by
  have inherits : Inherits (CaseLine.mk attributes variants (.copied line.tag)).nodes line.nodes :=
    .above (.inr rfl) (above.append below).inherits
  have yields := coherent.yields_inside lines kind (.line line)
    (.line ⟨attributes, variants, .copied line.tag⟩) List.mem_cons_self (by simp) rfl inherits
  have self : line.replace (·.id == line.tag.id) (.line ⟨attributes, variants, .copied line.tag⟩) =
      ⟨attributes, variants, .copied line.tag⟩ := by
    simp [CaseLine.replace]
  simp only [Node.tag, self] at yields
  exact yields

theorem Edited.Coherent.yields_body (coherent : edited.Coherent) (kind : FixKind)
    {lines : List (CaseLine (Draft Stamp))}
    (reuses : Reuses (lines.flatMap CaseLine.nodes) (edited.root.body.lines.flatMap CaseLine.nodes)) :
    (Fix.mk kind [.ofBody edited.root.body lines]).Yields edited (lines.map CaseLine.shape) := by
  have member : Node.body edited.root.body ∈ edited.root.nodes := by
    simp [Declaration.nodes, Declaration.below, Body.nodes]
  have above : Inherits (Body.mk lines (.copied edited.root.body.tag)).nodes edited.root.body.nodes :=
    .above (.inr rfl) reuses.inherits
  obtain ⟨next, replaced, nextCoherent, shape⟩ := coherent.replaceNode (.body edited.root.body)
    (.body ⟨lines, .copied edited.root.body.tag⟩) member (by simp) rfl above
  refine ⟨next, (Fix.apply_single kind _ edited).trans replaced, nextCoherent, ?_⟩
  rw [shape]
  exact Declaration.shape_replace_body coherent.distinct _

end

/-! ### Giving a case an attribute -/

-- Attributes belong to the first variant of a line. Any other variant moves to a line of its own.
/-- The line after one of its cases was given an attribute, where the first case takes it only if the
line admits it. -/
inductive CaseLine.Annotates (admits : CaseLine Unit → Prop) (attr : Attribute Unit) :
    CaseLine Unit → List (CaseLine Unit) → Prop where
  | first {line : CaseLine Unit} : line.variants ≠ [] → admits line →
      Annotates admits attr line [{ line with attributes := line.attributes ++ [attr] }]
  | other {line : CaseLine Unit} {front back : List (Variant Unit)} {variant : Variant Unit} :
      front ≠ [] → line.variants = front ++ variant :: back →
      Annotates admits attr line [{ line with variants := front ++ back }, ⟨[attr], [variant], ()⟩]

theorem CaseLine.mem_records_cases {α : Type} {line : CaseLine α} {lineIndex : Nat}
    {record : CaseRecord α} (member : record ∈ line.records lineIndex) :
    (∃ first others, line.variants = first :: others ∧ record = line.leadRecord lineIndex first) ∨
      ∃ front variant back, front ≠ [] ∧ line.variants = front ++ variant :: back ∧
        record = line.plainRecord lineIndex front.length variant := by
  cases variants : line.variants with
  | nil => simp [CaseLine.records, variants] at member
  | cons first others =>
    rw [CaseLine.records_of_cons variants, List.mem_cons, List.mem_map] at member
    rcases member with lead | ⟨⟨variant, index⟩, inside, rfl⟩
    · exact .inl ⟨first, others, rfl, lead⟩
    · obtain ⟨gap, rfl⟩ := Nat.exists_eq_add_of_le (List.le_snd_of_mem_zipIdx inside)
      have selected := List.mk_add_mem_zipIdx_iff_getElem?.mp inside
      obtain ⟨bound, rfl⟩ := List.getElem?_eq_some_iff.mp selected
      refine .inr ⟨first :: others.take gap, others[gap], others.drop (gap + 1), by simp, by simp, ?_⟩
      have count : (first :: others.take gap).length = 1 + gap := by
        simp [Nat.min_eq_left (Nat.le_of_lt bound)]
        omega
      rw [count]

theorem Declaration.exists_line_of_mem_records {α : Type} {declaration : Declaration α}
    {record : CaseRecord α} (member : record ∈ declaration.records) :
    ∃ before line after, declaration.body.lines = before ++ line :: after ∧
      record ∈ line.records before.length := by
  obtain ⟨line, lineIndex, selected, inside⟩ := Declaration.mem_records.mp member
  obtain ⟨bound, rfl⟩ := List.getElem?_eq_some_iff.mp selected
  refine ⟨declaration.body.lines.take lineIndex, declaration.body.lines[lineIndex],
    declaration.body.lines.drop (lineIndex + 1), by simp, ?_⟩
  rwa [List.length_take_of_le (Nat.le_of_lt bound)]

theorem flatMap_zipIdx_place {ι κ : Type} (change : ι → List κ) (keep : ι → κ) (before after : List ι)
    (item : ι) :
    ((before ++ item :: after).zipIdx.flatMap fun placed =>
      if placed.2 = before.length then change placed.1 else [keep placed.1]) =
        before.map keep ++ (change item ++ after.map keep) := by
  have kept : ∀ (part : List ι) (start : Nat),
      (∀ placed ∈ part.zipIdx start, placed.2 ≠ before.length) →
      ((part.zipIdx start).flatMap fun placed =>
        if placed.2 = before.length then change placed.1 else [keep placed.1]) = part.map keep := by
    intro part start apart
    induction part generalizing start with
    | nil => rfl
    | cons first part ih =>
      rw [List.zipIdx_cons, List.forall_mem_cons] at apart
      rw [List.zipIdx_cons, List.flatMap_cons, ih (start + 1) apart.2, if_neg apart.1]
      rfl
  rw [List.zipIdx_append, List.zipIdx_cons, List.flatMap_append, List.flatMap_cons, kept, kept]
  · simp
  · intro placed member
    have late := List.le_snd_of_mem_zipIdx member
    omega
  · intro placed member
    have early := List.snd_lt_of_mem_zipIdx member
    omega

def CaseLine.split (line : CaseLine Stamp) (index : Nat) (variant : Variant Stamp)
    (attr : Attribute (Draft Stamp)) : List (CaseLine (Draft Stamp)) :=
  [line.trimmed index, ⟨[attr], [variant.map .kept], .added⟩]

theorem CaseLine.trimmed_eq {line : CaseLine Stamp} {front back : List (Variant Stamp)}
    {variant : Variant Stamp} (variants : line.variants = front ++ variant :: back) :
    line.trimmed front.length = ⟨line.attributes.map (Attribute.map Draft.kept),
      (front ++ back).map (Variant.map Draft.kept), .copied line.tag⟩ := by
  simp [CaseLine.trimmed, variants, List.eraseIdx_append_of_length_le]

theorem CaseLine.reuses_split {line : CaseLine Stamp} {front back : List (Variant Stamp)}
    {variant : Variant Stamp} (variants : line.variants = front ++ variant :: back)
    {attr : Attribute (Draft Stamp)} (new : keptIds attr.nodes = []) :
    Reuses ((line.split front.length variant attr).flatMap CaseLine.nodes) line.nodes := by
  have rest : Reuses (line.trimmed front.length).nodes
      (line.attributes.flatMap Attribute.nodes ++ (front ++ back).flatMap Variant.nodes) := by
    rw [CaseLine.trimmed_eq variants]
    exact ((reuses_attributes (.refl _)).append (reuses_variants _)).above rfl
  have own : Reuses (CaseLine.mk [attr] [variant.map .kept] .added).nodes variant.nodes := by
    have kept : Reuses (attr.nodes ++ (variant.map Draft.kept).nodes) ([] ++ variant.nodes) := by
      rw [Variant.nodes_map]
      exact (reuses_of_new new).append (reuses_kept _)
    have below : (CaseLine.mk [attr] [variant.map .kept] .added).below =
        attr.nodes ++ (variant.map Draft.kept).nodes := by
      simp [CaseLine.below]
    rw [CaseLine.nodes, below]
    exact kept.above rfl
  have order : (line.attributes.flatMap Attribute.nodes ++ (front ++ back).flatMap Variant.nodes ++
      variant.nodes).Perm line.below := by
    simp only [CaseLine.below, variants, List.flatMap_append, List.flatMap_cons, List.append_assoc]
    exact List.perm_append_comm.append_left _ |>.append_left _
  rw [CaseLine.split, List.flatMap_cons, List.flatMap_singleton]
  exact (rest.append own).mono (order.subperm.trans (List.sublist_cons_self _ _).subperm)

theorem annotateCase_plain {root : Declaration Stamp} {before after : List (CaseLine Stamp)}
    {line : CaseLine Stamp} (lines : root.body.lines = before ++ line :: after)
    {front : List (Variant Stamp)} (nonempty : front ≠ []) (variant : Variant Stamp)
    (attr : Attribute (Draft Stamp)) :
    annotateCase root (line.plainRecord before.length front.length variant) attr =
      .ofBody root.body (before.map (CaseLine.map Draft.kept) ++
        (line.split front.length variant attr ++ after.map (CaseLine.map Draft.kept))) := by
  have notFirst : (line.plainRecord before.length front.length variant).isFirstOnLine = false := by
    simpa [CaseRecord.isFirstOnLine, CaseLine.plainRecord] using nonempty
  rw [annotateCase, notFirst, lines]
  have place := flatMap_zipIdx_place (fun other => other.split front.length variant attr)
    (CaseLine.map Draft.kept) before after line
  exact congrArg (Change.ofBody _) place

theorem CaseLine.shape_split {line : CaseLine Stamp} {front back : List (Variant Stamp)}
    {variant : Variant Stamp} (variants : line.variants = front ++ variant :: back)
    (attr : Attribute (Draft Stamp)) :
    (line.split front.length variant attr).map CaseLine.shape =
      [{ line.shape with variants := front.map Variant.shape ++ back.map Variant.shape },
        ⟨[attr.shape], [variant.shape], ()⟩] := by
  have moved : (CaseLine.mk [attr] [variant.map .kept] .added).shape =
      ⟨[attr.shape], [variant.shape], ()⟩ := by
    rw [← Variant.shape_map Draft.kept variant]
    rfl
  rw [CaseLine.split, CaseLine.trimmed_eq variants, List.map_cons, List.map_singleton, moved]
  simp [CaseLine.shape_eq, Function.comp_def]

section

variable {edited : Edited} {before after : List (CaseLine Stamp)} {line : CaseLine Stamp}

theorem Edited.Coherent.yields_annotate_first (coherent : edited.Coherent)
    (lines : edited.root.body.lines = before ++ line :: after) (kind : FixKind) (first : Variant Stamp)
    {attr : Attribute (Draft Stamp)} (new : keptIds attr.nodes = []) :
    (Fix.mk kind [annotateCase edited.root (line.leadRecord before.length first) attr]).Yields edited
      (before.map CaseLine.shape ++
        ([{ line.shape with attributes := line.shape.attributes ++ [attr.shape] }] ++
          after.map CaseLine.shape)) := by
  have above : Reuses ((line.attributes.map (Attribute.map Draft.kept) ++ [attr]).flatMap
      Attribute.nodes) (line.attributes.flatMap Attribute.nodes) := by
    rw [List.flatMap_append, List.flatMap_singleton]
    exact (reuses_attributes (.refl _)).append_new new
  have yields := coherent.yields_line lines kind above (reuses_variants line.variants)
  simp only [List.map_append, List.map_map, Function.comp_def, Attribute.shape_map,
    Variant.shape_map] at yields
  exact yields

theorem Edited.Coherent.yields_annotate_other (coherent : edited.Coherent)
    (lines : edited.root.body.lines = before ++ line :: after) (kind : FixKind)
    {front back : List (Variant Stamp)} {variant : Variant Stamp} (nonempty : front ≠ [])
    (variants : line.variants = front ++ variant :: back) {attr : Attribute (Draft Stamp)}
    (new : keptIds attr.nodes = []) :
    (Fix.mk kind [annotateCase edited.root (line.plainRecord before.length front.length variant)
      attr]).Yields edited (before.map CaseLine.shape ++
        ([{ line.shape with variants := front.map Variant.shape ++ back.map Variant.shape },
          ⟨[attr.shape], [variant.shape], ()⟩] ++ after.map CaseLine.shape)) := by
  have reuses : Reuses ((before.map (CaseLine.map Draft.kept) ++
      (line.split front.length variant attr ++ after.map (CaseLine.map Draft.kept))).flatMap
        CaseLine.nodes) (edited.root.body.lines.flatMap CaseLine.nodes) := by
    rw [lines, List.flatMap_append, List.flatMap_append, List.flatMap_append, List.flatMap_cons]
    exact (reuses_lines before).append ((CaseLine.reuses_split variants new).append
      (reuses_lines after))
  have yields := coherent.yields_body kind reuses
  simp only [List.map_append, List.map_map, Function.comp_def, CaseLine.shape_map,
    CaseLine.shape_split variants] at yields
  rw [annotateCase_plain lines nonempty]
  exact yields

end

theorem Edited.Coherent.yields_annotate {edited : Edited} (coherent : edited.Coherent)
    {record : CaseRecord Stamp} (member : record ∈ edited.root.records) (kind : FixKind)
    (attr : Attribute (Draft Stamp)) (new : keptIds attr.nodes = []) (admits : CaseLine Unit → Prop)
    (admitted : record.isFirstOnLine = true → admits record.line.shape) :
    ∃ before line after annotated, edited.root.shape.body.lines = before ++ line :: after ∧
      line.Annotates admits attr.shape annotated ∧
      (Fix.mk kind [annotateCase edited.root record attr]).Yields edited
        (before ++ (annotated ++ after)) := by
  obtain ⟨before, line, after, lines, inside⟩ := Declaration.exists_line_of_mem_records member
  have shapes := Declaration.shape_lines lines
  rcases CaseLine.mem_records_cases inside with ⟨first, others, variants, rfl⟩ |
    ⟨front, variant, back, nonempty, variants, rfl⟩
  · have some : line.shape.variants ≠ [] := by
      simp [CaseLine.shape_eq, variants]
    exact ⟨_, _, _, _, shapes, .first some (admitted rfl),
      coherent.yields_annotate_first lines kind first new⟩
  · have some : front.map Variant.shape ≠ [] := by simpa using nonempty
    have shape : line.shape.variants =
        front.map Variant.shape ++ variant.shape :: back.map Variant.shape := by
      simp [CaseLine.shape_eq, variants]
    exact ⟨_, _, _, _, shapes, .other some shape,
      coherent.yields_annotate_other lines kind nonempty variants new⟩

/-! ### What the fixes change -/

def placeholderValue (label : String) : Attribute Unit :=
  ⟨⟨rawValueName, ()⟩, [], [⟨none, .placeholder label (), ()⟩], ()⟩

def rawPayload (rawType : String) : List (Parameter Unit) :=
  [⟨none, ⟨rawType, ()⟩, ()⟩]

/-- What a kind of fix can make of one line, whatever the others are. -/
inductive CaseLine.Mends (rawType label : String) :
    FixKind → CaseLine Unit → List (CaseLine Unit) → Prop where
  /-- A further raw value is dropped. -/
  | dropExtra {line : CaseLine Unit} {front back : List (Attribute Unit)} {extra : Attribute Unit} :
      line.variants ≠ [] → ¬ line.Carries defaultCaseName → line.attributes = front ++ extra :: back →
      (∃ attr ∈ front, attr.isNamed rawValueName = true) → extra.isNamed rawValueName = true →
      Mends rawType label .removeRawValue line [{ line with attributes := front ++ back }]
  /-- All raw values of a catch-all are dropped. -/
  | dropAll {line : CaseLine Unit} : line.Marks → line.Carries rawValueName →
      Mends rawType label .removeRawValue line
        [{ line with attributes := line.attributes.filter fun attr => !attr.isNamed rawValueName }]
  /-- An integer becomes a string. -/
  | quote {line : CaseLine Unit} {front back : List (Attribute Unit)} {attr : Attribute Unit}
      {argument : Option String} {text : String} : rawType = stringTypeName →
      line.variants ≠ [] → ¬ line.Carries defaultCaseName → line.attributes = front ++ attr :: back →
      (∀ other ∈ front, other.isNamed rawValueName = false) → attr.isNamed rawValueName = true →
      attr.arguments = [⟨argument, .integer text (), ()⟩] →
      Mends rawType label .quoteRawValue line [{ line with attributes :=
        front ++ { attr with arguments := [⟨argument, .string text (), ()⟩] } :: back }]
  /-- A case without a value is given one that is still to be filled in. -/
  | value {line : CaseLine Unit} {lines : List (CaseLine Unit)} : rawType ≠ stringTypeName →
      line.Annotates (fun line => ¬ line.Carries defaultCaseName ∧ ¬ line.Carries rawValueName)
        (placeholderValue label) lines →
      Mends rawType label .addRawValue line lines

/-- What a kind of fix can make of the lines of a declaration with a catch-all. -/
inductive Mends (rawType label : String) :
    FixKind → List (CaseLine Unit) → List (CaseLine Unit) → Prop where
  | line {kind : FixKind} {before after mended : List (CaseLine Unit)} {line : CaseLine Unit} :
      line.Mends rawType label kind mended →
      Mends rawType label kind (before ++ line :: after) (before ++ (mended ++ after))
  /-- The catch-all is given the payload that it must have. -/
  | payload {before after : List (CaseLine Unit)} {line : CaseLine Unit} {first : Variant Unit}
      {others : List (Variant Unit)} : (∀ other ∈ before, ¬ other.Marks) →
      line.Carries defaultCaseName → line.variants = first :: others →
      first.hasRawPayload rawType = false →
      Mends rawType label .fixAssociatedValue (before ++ line :: after)
        (before ++ { line with
          variants := { first with parameters := some (rawPayload rawType) } :: others } :: after)

section

variable {edited : Edited} {before after : List (CaseLine Stamp)} {line : CaseLine Stamp}
  {rawType label : String}

/-- The fix can be applied, and mends the lines. -/
def Fix.Mends (fix : Fix Stamp) (edited : Edited) (rawType label : String) : Prop :=
  ∃ lines, fix.Yields edited lines ∧
    RawMapping.Mends rawType label fix.kind edited.root.shape.body.lines lines

theorem Fix.mends_of_line {fix : Fix Stamp} {mended : List (CaseLine Unit)}
    (lines : edited.root.body.lines = before ++ line :: after)
    (mends : line.shape.Mends rawType label fix.kind mended)
    (yields : fix.Yields edited
      (before.map CaseLine.shape ++ (mended ++ after.map CaseLine.shape))) :
    fix.Mends edited rawType label := by
  refine ⟨_, yields, ?_⟩
  rw [Declaration.shape_lines lines]
  exact .line mends

theorem Edited.Coherent.yields_drop (coherent : edited.Coherent)
    (lines : edited.root.body.lines = before ++ line :: after) (kind : FixKind)
    {part : List (Attribute Stamp)} (inside : part.Sublist line.attributes) :
    (Fix.mk kind [.ofLine line (part.map (·.map .kept)) (line.variants.map (·.map .kept))]).Yields edited
      (before.map CaseLine.shape ++ ([{ line.shape with attributes := part.map Attribute.shape }] ++
        after.map CaseLine.shape)) := by
  have yields := coherent.yields_line lines kind (reuses_attributes inside)
    (reuses_variants line.variants)
  simp only [List.map_map, Function.comp_def, Attribute.shape_map, Variant.shape_map] at yields
  exact yields

theorem Edited.Coherent.mends_dropAll (coherent : edited.Coherent)
    (lines : edited.root.body.lines = before ++ line :: after) (first : Variant Stamp)
    (marks : line.Marks) (carries : line.Carries rawValueName) :
    (removeRawValueFix (line.leadRecord before.length first)).Mends edited rawType label := by
  have yields := coherent.yields_drop lines .removeRawValue
    (List.filter_sublist : (line.attributes.filter fun attr => !attr.isNamed rawValueName).Sublist _)
  have kept : line.shape.attributes.filter (fun attr => !attr.isNamed rawValueName) =
      (line.attributes.filter fun attr => !attr.isNamed rawValueName).map Attribute.shape := by
    rw [CaseLine.shape_eq, List.filter_map]
    rfl
  have mends : line.shape.Mends rawType label .removeRawValue _ :=
    .dropAll ((CaseLine.marks_map _ line).mpr marks) ((CaseLine.carries_map _ line _).mpr carries)
  rw [kept] at mends
  exact Fix.mends_of_line lines mends yields

theorem CaseLine.extraRawAttribute_place {line : CaseLine Stamp} {extra : Attribute Stamp} {place : Nat}
    (member : (extra, place) ∈ line.rawAttributes.tail) :
    ∃ front back, line.attributes = front ++ extra :: back ∧ front.length = place ∧
      (∃ attr ∈ front, attr.isNamed rawValueName = true) ∧ extra.isNamed rawValueName = true := by
  cases given : line.rawAttributes with
  | nil => simp [given] at member
  | cons head others =>
    rw [given, List.tail_cons] at member
    obtain ⟨ahead, behind, split, -, named, rfl⟩ := List.filter_eq_cons_iff.mp given
    obtain ⟨first, rest, attributes, -, place'⟩ := List.zipIdx_eq_append_iff.mp split
    obtain ⟨attr, later, rfl, rfl, rfl⟩ := List.zipIdx_eq_cons_iff.mp place'.symm
    obtain ⟨inside, extraNamed⟩ := List.mem_filter.mp member
    obtain ⟨gap, rfl⟩ := Nat.exists_eq_add_of_le (List.le_snd_of_mem_zipIdx inside)
    obtain ⟨bound, rfl⟩ := List.getElem?_eq_some_iff.mp (List.mk_add_mem_zipIdx_iff_getElem?.mp inside)
    refine ⟨first ++ attr :: later.take gap, later.drop (gap + 1), ?_, ?_, ⟨attr, by simp, named⟩,
      extraNamed⟩
    · simp [attributes]
    · simp [Nat.min_eq_left (Nat.le_of_lt bound)]
      omega

theorem Edited.Coherent.mends_dropExtra (coherent : edited.Coherent)
    (lines : edited.root.body.lines = before ++ line :: after) {first : Variant Stamp}
    {others : List (Variant Stamp)} (variants : line.variants = first :: others)
    (unmarked : ¬ line.Carries defaultCaseName) {extra : Attribute Stamp} {place : Nat}
    (member : (extra, place) ∈ line.rawAttributes.tail) :
    (removeAttributeFix (line.leadRecord before.length first) place).Mends edited rawType label := by
  obtain ⟨front, back, attributes, rfl, ⟨attr, inside, named⟩, extraNamed⟩ :=
    CaseLine.extraRawAttribute_place member
  have rest : line.attributes.eraseIdx front.length = front ++ back := by
    simp [attributes, List.eraseIdx_append_of_length_le]
  have yields := coherent.yields_drop lines .removeRawValue
    (List.eraseIdx_sublist line.attributes front.length)
  have shape : line.shape.attributes =
      front.map Attribute.shape ++ extra.shape :: back.map Attribute.shape := by
    simp [CaseLine.shape_eq, attributes]
  have some : line.shape.variants ≠ [] := by simp [CaseLine.shape_eq, variants]
  have mends : line.shape.Mends rawType label .removeRawValue _ :=
    .dropExtra some ((CaseLine.carries_map _ line _).not.mpr unmarked) shape
      ⟨attr.shape, List.mem_map_of_mem inside, named⟩ extraNamed
  refine Fix.mends_of_line lines mends ?_
  rw [← List.map_append, ← rest]
  exact yields

theorem Edited.Coherent.mends_payload (coherent : edited.Coherent)
    (lines : edited.root.body.lines = before ++ line :: after) {first : Variant Stamp}
    {others : List (Variant Stamp)} (variants : line.variants = first :: others)
    (marked : line.Carries defaultCaseName) (unmarked : ∀ other ∈ before, ¬ other.Marks)
    (misfit : first.hasRawPayload rawType = false) :
    (fixAssociatedValueFix first rawType).Mends edited rawType label := by
  let fixed : Variant (Draft Stamp) :=
    ⟨first.name.map .kept, some (addedPayload rawType), .copied first.tag⟩
  have inside : Node.variant first ∈ line.nodes := by
    simp [CaseLine.nodes, CaseLine.below, variants, Variant.nodes]
  have inherits : Inherits fixed.nodes first.nodes := by
    have name : Inherits (first.name.map Draft.kept).nodes first.name.nodes :=
      .above (.inl rfl) (.refl _)
    have payload : Inherits ((addedPayload rawType).flatMap Parameter.nodes)
        ((first.parameters.getD []).flatMap Parameter.nodes) := List.nil_subperm
    exact .above (.inr rfl) (name.append payload)
  have yields := coherent.yields_inside lines .fixAssociatedValue (.variant first) (.variant fixed)
    inside (by simp) rfl inherits
  have replaced := CaseLine.shape_replace_first variants (coherent.line_distinct lines) fixed
  refine ⟨_, yields, ?_⟩
  rw [Declaration.shape_lines lines]
  change Mends _ _ _ _ (_ ++ ([(line.replace (·.id == first.tag.id) (.variant fixed)).shape] ++ _))
  rw [replaced]
  have shape : line.shape.variants = first.shape :: others.map Variant.shape := by
    simp [CaseLine.shape_eq, variants]
  have marks : ∀ other ∈ before.map CaseLine.shape, ¬ other.Marks := by
    rw [List.forall_mem_map]
    intro other member
    exact (CaseLine.marks_map _ other).not.mpr (unmarked other member)
  exact .payload marks ((CaseLine.carries_map _ line _).mpr marked) shape
    ((Variant.hasRawPayload_map _ first rawType).trans misfit)

theorem Edited.Coherent.mends_quote (coherent : edited.Coherent)
    (lines : edited.root.body.lines = before ++ line :: after) (some : line.variants ≠ [])
    (unmarked : ¬ line.Carries defaultCaseName) {attr : Attribute Stamp}
    {others : List (Attribute Stamp)}
    (given : line.attributes.filter (·.isNamed rawValueName) = attr :: others)
    {argument : Option String} {text : String} {literalTag argumentTag : Stamp}
    (arguments : attr.arguments = [⟨argument, .integer text literalTag, argumentTag⟩]) :
    (quoteRawValueFix text literalTag).Mends edited stringTypeName label := by
  -- the attribute that gives the value is the first of its name
  obtain ⟨front, back, attributes, earlier, named, -⟩ := List.filter_eq_cons_iff.mp given
  have inside : Node.literal (.integer text literalTag) ∈ line.nodes := by
    simp [CaseLine.nodes, CaseLine.below, attributes, Attribute.nodes, Attribute.below, arguments,
      Argument.nodes, Argument.below, Literal.nodes]
  have yields := coherent.yields_inside lines .quoteRawValue (.literal (.integer text literalTag))
    (.literal (.string text (.copied literalTag))) inside (by simp) rfl (List.nil_subperm)
  have replaced : (line.replace (·.id == literalTag.id)
      (.literal (.string text (.copied literalTag)))).shape = _ :=
    CaseLine.shape_replace_value attributes arguments (coherent.line_distinct lines) _
  have shape : line.shape.attributes =
      front.map Attribute.shape ++ attr.shape :: back.map Attribute.shape := by
    simp [CaseLine.shape_eq, attributes]
  have earlierShapes : ∀ other ∈ front.map Attribute.shape, other.isNamed rawValueName = false := by
    rw [List.forall_mem_map]
    intro other member
    exact Bool.eq_false_iff.mpr (earlier other member)
  have someShape : line.shape.variants ≠ [] := by simpa [CaseLine.shape_eq] using some
  have argumentShape : attr.shape.arguments = [⟨argument, .integer text (), ()⟩] := by
    simp [Attribute.shape, Attribute.map, arguments, Argument.map, Literal.map]
  refine Fix.mends_of_line lines ?_ yields
  change CaseLine.Mends _ _ _ _ [(line.replace (·.id == literalTag.id) _).shape]
  rw [replaced]
  exact .quote rfl someShape ((CaseLine.carries_map _ line _).not.mpr unmarked) shape earlierShapes named
    argumentShape

theorem Edited.Coherent.mends_value (coherent : edited.Coherent) {record : CaseRecord Stamp}
    (member : record ∈ edited.root.records) (other : rawType ≠ stringTypeName)
    (admitted : record.isFirstOnLine = true →
      ¬ record.line.Carries defaultCaseName ∧ ¬ record.line.Carries rawValueName) :
    (addRawValueFix edited.root record label).Mends edited rawType label := by
  obtain ⟨before, line, after, annotated, lines, annotates, yields⟩ :=
    coherent.yields_annotate member .addRawValue
      (addedAttribute rawValueName [⟨none, .placeholder label .added, .added⟩]) rfl
      (fun line => ¬ line.Carries defaultCaseName ∧ ¬ line.Carries rawValueName)
      (fun first => by simpa [CaseLine.shape] using admitted first)
  refine ⟨_, yields, ?_⟩
  rw [lines]
  exact .line (.value other annotates)

end

theorem Declaration.unmarked_before {α : Type} {declaration : Declaration α} {catchAll : CaseRecord α}
    (found : declaration.records.find? (·.role == .catchAll) = some catchAll)
    {before after : List (CaseLine α)} {line : CaseLine α}
    (lines : declaration.body.lines = before ++ line :: after)
    (here : before.length = catchAll.lineIndex) : ∀ other ∈ before, ¬ other.Marks := by
  obtain ⟨front, first, back, split, unmarked, -, place⟩ := Declaration.exists_catchAll found
  rw [lines] at split
  obtain ⟨rfl, -⟩ := List.append_inj split (here.trans place)
  exact unmarked

section

variable {edited : Edited} {before after : List (CaseLine Stamp)} {line : CaseLine Stamp}
  {rawType : String} {settings : Settings} {catchAll : CaseRecord Stamp} {first : Variant Stamp}
  {others : List (Variant Stamp)} {fix : Fix Stamp}

theorem Edited.Coherent.mends_offered_marked (coherent : edited.Coherent)
    (found : edited.root.records.find? (·.role == .catchAll) = some catchAll)
    (lines : edited.root.body.lines = before ++ line :: after)
    (variants : line.variants = first :: others) (marked : line.Carries defaultCaseName)
    (offered : fix ∈ (Inspection.mk edited.root rawType settings catchAll).offered
      (line.leadRecord before.length first)) :
    fix.Mends edited rawType settings.placeholderLabel := by
  rw [Inspection.offered, if_pos (line.leadRecord_role_of_marked _ first marked),
    Inspection.catchAllFixes] at offered
  rcases List.mem_append.mp offered with payload | conflict
  · split at payload
    · next misfit =>
      rw [List.mem_singleton.mp payload]
      exact coherent.mends_payload lines variants marked
        (Declaration.unmarked_before found lines misfit.1) misfit.2
    · cases payload
  · split at conflict
    · next given =>
      rw [List.mem_singleton.mp conflict]
      exact coherent.mends_dropAll lines first ⟨by simp [variants], marked⟩
        ((line.leadRecord_rawAttribute_isSome_iff _ first).mp given)
    · cases conflict

theorem Edited.Coherent.mends_offered_unmarked (coherent : edited.Coherent)
    (member : line.leadRecord before.length first ∈ edited.root.records)
    (lines : edited.root.body.lines = before ++ line :: after)
    (variants : line.variants = first :: others) (unmarked : ¬ line.Carries defaultCaseName)
    (offered : fix ∈ (Inspection.mk edited.root rawType settings catchAll).offered
      (line.leadRecord before.length first)) :
    fix.Mends edited rawType settings.placeholderLabel := by
  have role := line.leadRecord_role_of_unmarked before.length first unmarked
  -- further values are dropped and an integer is quoted; a case without a value is given an open one
  by_cases given : line.Carries rawValueName
  · rw [if_pos given] at role
    rw [Inspection.offered, if_neg (by simp [role]), CaseRecord.extraFixes, role] at offered
    rcases List.mem_append.mp offered with extra | value
    · obtain ⟨⟨attr, place⟩, inside, rfl⟩ := List.mem_map.mp extra
      exact coherent.mends_dropExtra lines variants unmarked inside
    · obtain ⟨attr, more, attributes⟩ :=
        List.exists_cons_of_ne_nil ((line.carries_rawValue_iff).mp given)
      rw [Inspection.valueFixes_explicit _ role
        (CaseLine.leadRecord_rawAttribute_of_cons attributes before.length first)] at value
      split at value
      · next argument arguments =>
        obtain ⟨name, literal, argumentTag⟩ := argument
        cases literal with
        | string text tag => cases value
        | placeholder label tag => cases value
        | integer text tag =>
          by_cases string : rawType = stringTypeName
          · subst string
            rw [List.mem_singleton.mp value]
            exact coherent.mends_quote lines (by simp [variants]) unmarked attributes arguments
          · simp [rawValueTypeFixes, string] at value
      · cases value
  · rw [if_neg given] at role
    rw [Inspection.offered, if_neg (by simp [role]), CaseRecord.extraFixes, role, List.nil_append,
      Inspection.valueFixes_implicit _ role] at offered
    split at offered
    · cases offered
    · next other =>
      rw [List.mem_singleton.mp offered]
      exact coherent.mends_value member other fun _ => ⟨unmarked, given⟩

end

theorem Edited.Coherent.mends_offered {edited : Edited} (coherent : edited.Coherent) {rawType : String}
    {settings : Settings} {catchAll : CaseRecord Stamp}
    (found : edited.root.records.find? (·.role == .catchAll) = some catchAll)
    {record : CaseRecord Stamp} (member : record ∈ edited.root.records) {fix : Fix Stamp}
    (offered : fix ∈ (Inspection.mk edited.root rawType settings catchAll).offered record) :
    fix.Mends edited rawType settings.placeholderLabel := by
  obtain ⟨before, line, after, lines, inside⟩ := Declaration.exists_line_of_mem_records member
  rcases CaseLine.mem_records_cases inside with ⟨first, others, variants, rfl⟩ |
    ⟨front, variant, back, nonempty, variants, rfl⟩
  · by_cases marked : line.Carries defaultCaseName
    · exact coherent.mends_offered_marked found lines variants marked offered
    · exact coherent.mends_offered_unmarked member lines variants marked offered
  · have role : (line.plainRecord before.length front.length variant).role = .implicit := rfl
    rw [Inspection.offered, if_neg (by simp [role]), CaseRecord.extraFixes, role, List.nil_append,
      Inspection.valueFixes_implicit _ role] at offered
    split at offered
    · cases offered
    · next other =>
      rw [List.mem_singleton.mp offered]
      refine coherent.mends_value member other fun isFirst => ?_
      simp [CaseRecord.isFirstOnLine, CaseLine.plainRecord, nonempty] at isFirst

/-! ### Adding a catch-all -/

def catchAllMark : Attribute Unit :=
  ⟨⟨defaultCaseName, ()⟩, [], [], ()⟩

def addedCatchAll (rawType caseName : String) : CaseLine Unit :=
  ⟨[catchAllMark], [⟨⟨caseName, ()⟩, some (rawPayload rawType), ()⟩], ()⟩

/-- What the fix for a missing catch-all can make of the lines. -/
inductive Completes (rawType caseName : String) :
    Option (CaseRecord Stamp) → List (CaseLine Unit) → List (CaseLine Unit) → Prop where
  /-- The candidate is marked. -/
  | mark {candidate : CaseRecord Stamp} {before after annotated : List (CaseLine Unit)}
      {line : CaseLine Unit} : line.Annotates (fun _ => True) catchAllMark annotated →
      Completes rawType caseName (some candidate) (before ++ line :: after)
        (before ++ (annotated ++ after))
  /-- Without a candidate, a new case is added. -/
  | add {lines : List (CaseLine Unit)} :
      Completes rawType caseName none lines (lines ++ [addedCatchAll rawType caseName])

theorem mem_of_defaultCandidate? {α : Type} {records : List (CaseRecord α)} {rawType caseName : String}
    {candidate : CaseRecord α} (found : defaultCandidate? records rawType caseName = some candidate) :
    candidate ∈ records := by
  rcases Option.or_eq_some_iff.mp found with named | ⟨-, fitting⟩
  · exact List.mem_of_find?_eq_some named
  · exact List.mem_of_find?_eq_some fitting

theorem addDefaultCaseFix_kind {α : Type} (declaration : Declaration α) (rawType : String)
    (candidate? : Option (CaseRecord α)) (caseName : String) :
    (addDefaultCaseFix declaration rawType candidate? caseName).kind = .addDefaultCase := by
  cases candidate? <;> rfl

theorem Edited.Coherent.completes {edited : Edited} (coherent : edited.Coherent)
    (rawType caseName : String) :
    ∃ lines, (addDefaultCaseFix edited.root rawType
        (defaultCandidate? edited.root.records rawType caseName) caseName).Yields edited lines ∧
      Completes rawType caseName (defaultCandidate? edited.root.records rawType caseName)
        edited.root.shape.body.lines lines := by
  cases found : defaultCandidate? edited.root.records rawType caseName with
  | some candidate =>
    obtain ⟨before, line, after, annotated, lines, annotates, yields⟩ :=
      coherent.yields_annotate (mem_of_defaultCandidate? found) .addDefaultCase
        (addedAttribute defaultCaseName []) rfl (fun _ => True) (fun _ => trivial)
    refine ⟨_, yields, ?_⟩
    rw [lines]
    exact .mark annotates
  | none =>
    let added : CaseLine (Draft Stamp) := ⟨[addedAttribute defaultCaseName []],
      [⟨⟨caseName, .added⟩, some (addedPayload rawType), .added⟩], .added⟩
    have reuses : Reuses ((edited.root.body.lines.map (CaseLine.map Draft.kept) ++ [added]).flatMap
        CaseLine.nodes) (edited.root.body.lines.flatMap CaseLine.nodes) := by
      have new : keptIds ([added].flatMap CaseLine.nodes) = [] := rfl
      rw [List.flatMap_append]
      exact (reuses_lines edited.root.body.lines).append_new new
    have yields := coherent.yields_body .addDefaultCase reuses
    refine ⟨_, yields, ?_⟩
    simp only [List.map_append, List.map_map, Function.comp_def, CaseLine.shape_map]
    exact .add

/-! ### One pass -/

theorem Declaration.asks_placeholderLabel {α : Type} {declaration : Declaration α}
    {settings changed : Settings} {rawType : String}
    (asks : declaration.asks settings = some (rawType, changed)) :
    changed.placeholderLabel = settings.placeholderLabel := by
  obtain ⟨attr, type, -, -, asked⟩ := Declaration.exists_request asks
  have requested := toOption_eq_some_iff.mpr asked
  rw [Declaration.toOption_request] at requested
  split at requested
  · obtain ⟨type, -, named⟩ := Option.bind_eq_some_iff.mp requested
    obtain ⟨name, -, same⟩ := Option.map_eq_some_iff.mp named
    cases same
    rfl
  · cases requested

/-- The lines after the first fix of a report: without a catch-all it adds one, and otherwise it mends
what is there. -/
inductive Declaration.Passes (root : Declaration Stamp) (settings : Settings) (kind : FixKind)
    (lines : List (CaseLine Unit)) : Prop where
  | completes {rawType : String} {changed : Settings}
      (asks : root.asks settings = some (rawType, changed))
      (unmarked : ∀ line ∈ root.body.lines, ¬ line.Marks) (added : kind = .addDefaultCase)
      (result : Completes rawType changed.defaultCaseName
        (defaultCandidate? root.records rawType changed.defaultCaseName) root.shape.body.lines lines)
  | mends {rawType : String} {changed : Settings}
      (asks : root.asks settings = some (rawType, changed))
      (marked : ∃ line ∈ root.body.lines, line.Marks)
      (result : Mends rawType settings.placeholderLabel kind root.shape.body.lines lines)

theorem Edited.Coherent.pass {edited : Edited} (coherent : edited.Coherent) {settings : Settings}
    {fix : Fix Stamp} (first : firstFix? (edited.root.report settings) = some fix) :
    ∃ lines, fix.Yields edited lines ∧ edited.root.Passes settings fix.kind lines := by
  rw [firstFix?_eq_head?] at first
  cases asks : edited.root.asks settings with
  | none =>
    rw [(Declaration.offering_of_asks_none asks).all] at first
    cases first
  | some request =>
    obtain ⟨rawType, changed⟩ := request
    by_cases marked : ∃ line ∈ edited.root.body.lines, line.Marks
    · obtain ⟨catchAll, found, offering⟩ := Declaration.offering_of_marked asks marked
      rw [offering.all] at first
      obtain ⟨record, member, offered⟩ := List.mem_flatMap.mp (List.mem_of_head? first)
      obtain ⟨lines, yields, mends⟩ := coherent.mends_offered found member offered
      rw [Declaration.asks_placeholderLabel asks] at mends
      exact ⟨lines, yields, .mends asks marked mends⟩
    · have unmarked : ∀ line ∈ edited.root.body.lines, ¬ line.Marks := by simpa using marked
      rw [Declaration.report_of_unmarked asks unmarked] at first
      cases first
      obtain ⟨lines, yields, completes⟩ := coherent.completes rawType changed.defaultCaseName
      exact ⟨lines, yields, .completes asks unmarked (addDefaultCaseFix_kind _ _ _ _) completes⟩

end RawMapping
