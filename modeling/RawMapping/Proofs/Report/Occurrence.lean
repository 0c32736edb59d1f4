import RawMapping.Proofs.Report.Locality

/-! Cases, lines and attributes are told apart by where they stand. In a tree in which no node occurs twice
this is the same as telling the nodes apart, which is what a fix is meant to do: it annotates this variant,
splits this line and drops this attribute. A node that stands in two places would count as two. -/

set_option autoImplicit false

namespace RawMapping

variable {α ι κ : Type}

/-! ### Lists without repetitions -/

section

variable {key : ι → Nat} {before after : List ι} {item : ι}

theorem filter_key_ne (distinct : ((before ++ item :: after).map key).Nodup) :
    (before ++ item :: after).filter (key · != key item) = before ++ after := by
  rw [List.map_append, List.map_cons, List.nodup_append, List.nodup_cons] at distinct
  obtain ⟨-, ⟨behind, -⟩, ahead⟩ := distinct
  have front : before.filter (key · != key item) = before := by
    rw [List.filter_eq_self]
    intro other member
    have apart := ahead (key other) (List.mem_map_of_mem member) (key item) List.mem_cons_self
    simpa using apart
  have back : after.filter (key · != key item) = after := by
    rw [List.filter_eq_self]
    intro other member
    have apart : key other ≠ key item := fun same => behind (same ▸ List.mem_map_of_mem member)
    simpa using apart
  rw [List.filter_append, List.filter_cons_of_neg (by simp), front, back]

theorem flatMap_key (distinct : ((before ++ item :: after).map key).Nodup) (change : ι → List κ)
    (keep : ι → κ) :
    (before ++ item :: after).flatMap
        (fun other => if key other = key item then change other else [keep other]) =
      before.map keep ++ (change item ++ after.map keep) := by
  rw [List.map_append, List.map_cons, List.nodup_append, List.nodup_cons] at distinct
  obtain ⟨-, ⟨behind, -⟩, ahead⟩ := distinct
  have front : before.flatMap (fun other => if key other = key item then change other else [keep other]) =
      before.map keep := by
    rw [List.map_eq_flatMap]
    refine List.flatMap_congr fun other member => if_neg ?_
    exact ahead _ (List.mem_map_of_mem member) _ List.mem_cons_self
  have back : after.flatMap (fun other => if key other = key item then change other else [keep other]) =
      after.map keep := by
    rw [List.map_eq_flatMap]
    refine List.flatMap_congr fun other member => if_neg fun same => behind ?_
    exact same ▸ List.mem_map_of_mem member
  rw [List.flatMap_append, List.flatMap_cons, if_pos rfl, front, back]

end

/-! ### Nodes beside each other -/

/-- The roots of trees beside each other are distinct if all nodes are. -/
theorem heads_distinct {nodes : ι → List (Node Stamp)} {head : ι → Node Stamp}
    (each : ∀ item, head item ∈ nodes item) {items : List ι} {all : List (Node Stamp)}
    (inside : (items.flatMap nodes).Sublist all) (distinct : (ids all).Nodup) :
    (items.map fun item => (head item).tag.id).Nodup := by
  have heads : (items.map head).Sublist (items.flatMap nodes) := by
    clear inside
    induction items with
    | nil => exact .refl _
    | cons item items ih =>
      rw [List.map_cons, List.flatMap_cons]
      exact (List.singleton_sublist.mpr (each item)).append ih
  have part := (heads.trans inside).map (·.tag.id)
  rw [List.map_map] at part
  exact distinct.sublist part

theorem Declaration.lines_distinct {root : Declaration Stamp} (distinct : (ids root.nodes).Nodup) :
    (root.body.lines.map (·.tag.id)).Nodup :=
  heads_distinct (fun line => (Node.line line).mem_nodes)
    (((List.sublist_cons_self _ _).trans (List.sublist_append_right _ _)).cons _) distinct

theorem CaseLine.variants_distinct {line : CaseLine Stamp} (distinct : (ids line.nodes).Nodup) :
    (line.variants.map (·.tag.id)).Nodup :=
  heads_distinct (fun variant => (Node.variant variant).mem_nodes)
    ((List.sublist_append_right _ _).cons _) distinct

theorem CaseLine.attributes_distinct {line : CaseLine Stamp} (distinct : (ids line.nodes).Nodup) :
    (line.attributes.map (·.tag.id)).Nodup :=
  heads_distinct (fun attr => (Node.attr attr).mem_nodes) ((List.sublist_append_left _ _).cons _) distinct

/-! ### What is told by its place -/

theorem Declaration.lineIndex_eq_iff {declaration : Declaration α} {record other : CaseRecord α}
    (member : record ∈ declaration.records) (also : other ∈ declaration.records)
    (marked : record.role = .catchAll) (again : other.role = .catchAll) :
    record.lineIndex = other.lineIndex ↔ record = other := by
  constructor
  · intro same
    obtain ⟨line, lineIndex, found, inside⟩ := Declaration.mem_records.mp member
    obtain ⟨line', lineIndex', found', inside'⟩ := Declaration.mem_records.mp also
    -- attributes belong to the first case of a line, so neither is behind another case
    rcases CaseLine.mem_records_cases inside with ⟨first, others, variants, rfl⟩ | ⟨_, _, _, -, -, rfl⟩
    · rcases CaseLine.mem_records_cases inside' with ⟨first', others', variants', rfl⟩ |
        ⟨_, _, _, -, -, rfl⟩
      · cases same
        rw [found] at found'
        cases found'
        rw [variants] at variants'
        cases variants'
        rfl
      · cases again
    · cases marked
  · exact congrArg CaseRecord.lineIndex

/-- A change that gives an attribute to one variant, told by its node. -/
def annotateVariant (root : Declaration Stamp) (line : CaseLine Stamp) (variant : Variant Stamp)
    (attr : Attribute (Draft Stamp)) : Change Stamp :=
  if line.variants.head?.map (·.tag.id) = some variant.tag.id then
    .ofLine line (line.attributes.map (·.map .kept) ++ [attr]) (line.variants.map (·.map .kept))
  else
    .ofBody root.body <| root.body.lines.flatMap fun other =>
      if other.tag.id = line.tag.id then
        [⟨other.attributes.map (·.map .kept),
            (other.variants.filter (·.tag.id != variant.tag.id)).map (·.map .kept), .copied other.tag⟩,
          ⟨[attr], [variant.map .kept], .added⟩]
      else [other.map .kept]

theorem annotateCase_eq {root : Declaration Stamp} (distinct : (ids root.nodes).Nodup)
    {record : CaseRecord Stamp} (member : record ∈ root.records) (attr : Attribute (Draft Stamp)) :
    annotateCase root record attr = annotateVariant root record.line record.variant attr := by
  obtain ⟨before, line, after, lines, inside⟩ := Declaration.exists_line_of_mem_records member
  have lineDistinct : (ids line.nodes).Nodup :=
    distinct.sublist ((CaseLine.nodes_sublist lines).map _)
  rcases CaseLine.mem_records_cases inside with ⟨first, others, variants, rfl⟩ |
    ⟨front, variant, back, nonempty, variants, rfl⟩
  · have here : line.variants.head?.map (·.tag.id) = some first.tag.id := by rw [variants]; rfl
    exact (if_pos here).symm
  · have variantsDistinct := CaseLine.variants_distinct lineDistinct
    have linesDistinct := Declaration.lines_distinct distinct
    rw [variants] at variantsDistinct
    rw [lines] at linesDistinct
    have later : line.variants.head?.map (·.tag.id) ≠ some variant.tag.id := by
      obtain ⟨first, middle, rfl⟩ := List.exists_cons_of_ne_nil nonempty
      rw [variants]
      intro same
      rw [List.map_append, List.nodup_append] at variantsDistinct
      exact variantsDistinct.2.2 _ List.mem_cons_self _ List.mem_cons_self (Option.some.inj same)
    change _ = annotateVariant root line variant attr
    rw [annotateCase_plain lines nonempty, annotateVariant, if_neg later, lines,
      flatMap_key linesDistinct, variants, filter_key_ne variantsDistinct, CaseLine.split,
      CaseLine.trimmed_eq variants]

/-- What drops a further value of a case drops the attribute that gives it. -/
theorem removeAttributeFix_eq {root : Declaration Stamp} (distinct : (ids root.nodes).Nodup)
    {record : CaseRecord Stamp} (member : record ∈ root.records) {attr : Attribute Stamp} {place : Nat}
    (extra : (attr, place) ∈ record.extraRawAttributes) :
    removeAttributeFix record place = ⟨.removeRawValue, [.ofLine record.line
      ((record.line.attributes.filter (·.tag.id != attr.tag.id)).map (·.map .kept))
      (record.line.variants.map (·.map .kept))]⟩ := by
  obtain ⟨before, line, after, lines, inside⟩ := Declaration.exists_line_of_mem_records member
  have lineDistinct : (ids line.nodes).Nodup :=
    distinct.sublist ((CaseLine.nodes_sublist lines).map _)
  rcases CaseLine.mem_records_cases inside with ⟨first, others, variants, rfl⟩ |
    ⟨front, variant, back, -, -, rfl⟩
  · have listed : (attr, place) ∈ line.attributes.zipIdx :=
      (List.mem_filter.mp (List.mem_of_mem_tail extra)).1
    obtain ⟨bound, here⟩ := List.getElem?_eq_some_iff.mp (List.mk_mem_zipIdx_iff_getElem?.mp listed)
    have split : line.attributes = line.attributes.take place ++ attr :: line.attributes.drop (place + 1) := by
      rw [← here, List.getElem_cons_drop, List.take_append_drop]
    have attributesDistinct := CaseLine.attributes_distinct lineDistinct
    rw [split] at attributesDistinct
    have rest : line.attributes.eraseIdx place = line.attributes.filter (·.tag.id != attr.tag.id) := by
      rw [List.eraseIdx_eq_take_drop_succ, ← filter_key_ne attributesDistinct, ← split]
    exact congrArg (fun kept : List (Attribute Stamp) => Fix.mk .removeRawValue
      [.ofLine line (kept.map (·.map .kept)) (line.variants.map (·.map .kept))]) rest
  · cases extra

end RawMapping
