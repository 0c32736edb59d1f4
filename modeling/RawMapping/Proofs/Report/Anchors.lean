import RawMapping.Proofs.Report.Remedies

/-! Where diagnostics point. Each diagnostic of a report, and each of its notes, is anchored at a node of
the declaration it is about. -/

set_option autoImplicit false

namespace RawMapping

variable {α : Type}

def Diagnostic.anchors (diagnostic : Diagnostic α) : List (Node α) :=
  diagnostic.anchor :: diagnostic.notes.map (·.anchor)

def Declaration.Anchors (root : Declaration α) (diagnostics : List (Diagnostic α)) : Prop :=
  ∀ diagnostic ∈ diagnostics, ∀ node ∈ diagnostic.anchors, node ∈ root.nodes

/-! ### Nodes of a case -/

theorem CaseRecord.mem_nodes_of_value? {record : CaseRecord α} {literal : Literal α}
    (written : record.value? = some literal) : Node.literal literal ∈ record.nodes := by
  obtain ⟨attr, argument, given, arguments, rfl⟩ := CaseRecord.exists_of_value? written
  refine CaseRecord.mem_nodes_of_attribute (List.mem_append_left _ (Option.mem_toList.mpr given)) ?_
  simp [Attribute.nodes, Attribute.below, arguments, Argument.nodes, Argument.below, Literal.nodes]

theorem CaseRecord.mem_nodes_of_name (record : CaseRecord α) :
    Node.identifier record.variant.name ∈ record.nodes :=
  CaseRecord.mem_nodes_of_variant (by simp [Variant.nodes, Variant.below, Identifier.nodes])

theorem CaseRecord.mem_nodes_of_rawAttribute {record : CaseRecord α} {attr : Attribute α}
    (given : record.rawAttribute = some attr) : Node.attr attr ∈ record.nodes :=
  CaseRecord.mem_nodes_of_attribute (List.mem_append_left _ (Option.mem_toList.mpr given))
    List.mem_cons_self

theorem CaseLine.rawAttribute_mem {line : CaseLine α} {lineIndex : Nat} {variant : Variant α}
    {attr : Attribute α}
    (own : attr ∈ (line.leadRecord lineIndex variant).rawAttribute.toList ++
      (line.leadRecord lineIndex variant).extraRawAttributes.map (·.1)) : attr ∈ line.attributes := by
  have all : ∀ placed ∈ line.rawAttributes, placed.1 ∈ line.attributes := fun placed member =>
    List.fst_mem_of_mem_zipIdx (List.mem_filter.mp member).1
  rcases List.mem_append.mp own with first | extra
  · obtain ⟨placed, head, rfl⟩ := Option.map_eq_some_iff.mp (Option.mem_toList.mp first)
    exact all placed (List.mem_of_head? head)
  · obtain ⟨placed, tail, rfl⟩ := List.mem_map.mp extra
    exact all placed (List.mem_of_mem_tail tail)

theorem CaseLine.mem_nodes_of_record {line : CaseLine α} {lineIndex : Nat} {record : CaseRecord α}
    (member : record ∈ line.records lineIndex) {node : Node α} (inside : node ∈ record.nodes) :
    node ∈ line.nodes := by
  have variants {variant : Variant α} (present : variant ∈ line.variants)
      (below : node ∈ variant.nodes) : node ∈ line.nodes :=
    List.mem_cons_of_mem _ (List.mem_append_right _ (List.mem_flatMap.mpr ⟨variant, present, below⟩))
  rcases CaseLine.mem_records_cases member with ⟨first, others, listed, rfl⟩ |
    ⟨front, variant, back, -, listed, rfl⟩
  · rcases List.mem_append.mp inside with below | below
    · exact variants (by rw [listed]; exact List.mem_cons_self) below
    · obtain ⟨attr, own, below⟩ := List.mem_flatMap.mp below
      exact List.mem_cons_of_mem _ (List.mem_append_left _
        (List.mem_flatMap.mpr ⟨attr, CaseLine.rawAttribute_mem own, below⟩))
  · -- no attribute belongs to a further case of the line
    have below : node ∈ variant.nodes := by simpa [CaseRecord.nodes, CaseLine.plainRecord] using inside
    exact variants (by simp [listed]) below

theorem Declaration.mem_nodes_of_body {root : Declaration α} {node : Node α}
    (inside : node ∈ root.body.nodes) : node ∈ root.nodes :=
  List.mem_cons_of_mem _ (List.mem_append_right _ inside)

theorem Declaration.mem_nodes_of_record {root : Declaration α} {record : CaseRecord α}
    (member : record ∈ root.records) {node : Node α} (inside : node ∈ record.nodes) :
    node ∈ root.nodes := by
  obtain ⟨before, line, after, lines, recorded⟩ := Declaration.exists_line_of_mem_records member
  have listed : line ∈ root.body.lines := by simp [lines]
  exact Declaration.mem_nodes_of_body (List.mem_cons_of_mem _
    (List.mem_flatMap.mpr ⟨line, listed, CaseLine.mem_nodes_of_record recorded inside⟩))

theorem Declaration.mem_nodes_of_attribute {root : Declaration α} {attr : Attribute α}
    (member : attr ∈ root.attributes) {node : Node α} (inside : node ∈ attr.nodes) :
    node ∈ root.nodes :=
  List.mem_cons_of_mem _ (List.mem_append_left _ (List.mem_append_right _
    (List.mem_flatMap.mpr ⟨attr, member, inside⟩)))

theorem Declaration.mem_nodes_of_name (root : Declaration α) : Node.identifier root.name ∈ root.nodes :=
  List.mem_cons_of_mem _ (List.mem_append_left _ (List.mem_append_left _ (List.mem_singleton_self _)))

/-! ### Diagnostics of the cases -/

section

variable {root : Declaration α}

theorem Declaration.anchors_nil : root.Anchors [] :=
  List.forall_mem_nil _

theorem Declaration.Anchors.append {first second : List (Diagnostic α)} (left : root.Anchors first)
    (right : root.Anchors second) : root.Anchors (first ++ second) :=
  List.forall_mem_append.mpr ⟨left, right⟩

theorem Declaration.anchors_one {diagnostic : Diagnostic α} (anchor : diagnostic.anchor ∈ root.nodes)
    (notes : ∀ note ∈ diagnostic.notes, note.anchor ∈ root.nodes) : root.Anchors [diagnostic] :=
  List.forall_mem_singleton.mpr
    (List.forall_mem_cons.mpr ⟨anchor, List.forall_mem_map.mpr notes⟩)

theorem CaseRecord.anchors_extraProblems {record : CaseRecord α} (member : record ∈ root.records) :
    root.Anchors record.extraProblems := by
  have own {attr : Attribute α}
      (listed : attr ∈ record.rawAttribute.toList ++ record.extraRawAttributes.map (·.1)) :
      Node.attr attr ∈ root.nodes :=
    Declaration.mem_nodes_of_record member (CaseRecord.mem_nodes_of_attribute listed List.mem_cons_self)
  unfold extraProblems
  cases record.role with
  | catchAll => exact Declaration.anchors_nil
  | implicit => exact Declaration.anchors_nil
  | explicit =>
    intro diagnostic inside
    obtain ⟨⟨attr, place⟩, extra, rfl⟩ := List.mem_map.mp inside
    have listed : attr ∈ record.rawAttribute.toList ++ record.extraRawAttributes.map (·.1) :=
      List.mem_append_right _ (List.mem_map.mpr ⟨_, extra, rfl⟩)
    -- the note points at the first raw value; without one it would point at the extra one itself
    have first : Node.attr (record.rawAttribute.getD attr) ∈ root.nodes := by
      cases given : record.rawAttribute with
      | none => exact own listed
      | some first => exact own (List.mem_append_left _ (Option.mem_toList.mpr given))
    exact List.forall_mem_cons.mpr ⟨own listed, List.forall_mem_singleton.mpr first⟩

end

section

variable {inspection : Inspection α} {record : CaseRecord α}

theorem Inspection.anchors_catchAllProblems
    (catchAll : inspection.catchAll ∈ inspection.declaration.records)
    (member : record ∈ inspection.declaration.records) :
    inspection.declaration.Anchors (inspection.catchAllProblems record) := by
  have variant {other : CaseRecord α} (listed : other ∈ inspection.declaration.records) :
      Node.variant other.variant ∈ inspection.declaration.nodes :=
    Declaration.mem_nodes_of_record listed (CaseRecord.mem_nodes_of_variant List.mem_cons_self)
  refine .append ?_ ?_
  · split
    · exact Declaration.anchors_one (Declaration.mem_nodes_of_record member record.mem_nodes_of_name)
        (List.forall_mem_singleton.mpr (variant catchAll))
    · split
      · exact Declaration.anchors_nil
      · exact Declaration.anchors_one (variant member) (List.forall_mem_nil _)
  · split
    · exact Declaration.anchors_one (variant member) (List.forall_mem_nil _)
    · exact Declaration.anchors_nil

theorem CaseRecord.mem_nodes_of_resolve? {rawType : String} {literal : Literal α} {node : Node α}
    (resolved : record.resolve? rawType = some (literal, node)) : node ∈ record.nodes := by
  unfold resolve? at resolved
  split at resolved
  · cases resolved
  · obtain ⟨written, given, same⟩ := Option.map_eq_some_iff.mp resolved
    rw [← (Prod.mk.inj same).2]
    exact CaseRecord.mem_nodes_of_value? given
  · split at resolved
    · cases resolved
      exact record.mem_nodes_of_name
    · cases resolved

-- Only a literal that an attribute gives can be unfilled or of the wrong type: the name of a case is a
-- string, and stands for its value only where strings are wanted.
theorem CaseRecord.resolve?_cases {rawType : String} {literal : Literal α} {node : Node α}
    (resolved : record.resolve? rawType = some (literal, node)) :
    node = .literal literal ∨ literal.fitsType rawType = true := by
  unfold resolve? at resolved
  split at resolved
  · cases resolved
  · obtain ⟨written, given, same⟩ := Option.map_eq_some_iff.mp resolved
    cases same
    exact .inl rfl
  · split at resolved
    · next string =>
      cases resolved
      exact .inr string
    · cases resolved

/-- The values seen so far were written by nodes of the declaration. -/
def Declaration.Shows (root : Declaration α) (seen : Seen α) : Prop :=
  ∀ entry ∈ seen, entry.2 ∈ root.nodes

theorem Declaration.Shows.lookup {root : Declaration α} {seen : Seen α} (shows : root.Shows seen)
    {text : String} {node : Node α} (found : seen.lookup text = some node) : node ∈ root.nodes := by
  obtain ⟨before, after, split, -⟩ := List.lookup_eq_some_iff.mp found
  exact shows (text, node) (by simp [split])

theorem Inspection.anchors_error (member : record ∈ inspection.declaration.records) {seen : Seen α}
    (shows : inspection.declaration.Shows seen) {problem : Diagnostic α}
    (failed : inspection.value seen record = .error problem) :
    inspection.declaration.Anchors [problem] := by
  have own {node : Node α} (inside : node ∈ record.nodes) : node ∈ inspection.declaration.nodes :=
    Declaration.mem_nodes_of_record member inside
  -- a literal that does not fit is its own node
  have unfit {literal : Literal α} {node : Node α}
      (resolved : record.resolve? inspection.rawType = some (literal, node))
      (misfit : literal.fitsType inspection.rawType = false) :
      Node.literal literal ∈ inspection.declaration.nodes := by
    rcases CaseRecord.resolve?_cases resolved with same | fits
    · exact same ▸ own (CaseRecord.mem_nodes_of_resolve? resolved)
    · rw [misfit] at fits
      cases fits
  cases Inspection.refuses_of_error failed with
  | malformed _ _ given =>
    exact Declaration.anchors_one (own (CaseRecord.mem_nodes_of_rawAttribute given))
      (List.forall_mem_nil _)
  | missing =>
    exact Declaration.anchors_one (own (CaseRecord.mem_nodes_of_variant List.mem_cons_self))
      (List.forall_mem_nil _)
  | unfilled resolved => exact Declaration.anchors_one (unfit resolved rfl) (List.forall_mem_nil _)
  | mistyped resolved misfit =>
    exact Declaration.anchors_one (unfit resolved misfit) (List.forall_mem_nil _)
  | repeated resolved _ found =>
    exact Declaration.anchors_one (own (CaseRecord.mem_nodes_of_resolve? resolved))
      (List.forall_mem_singleton.mpr (shows.lookup found))

theorem Inspection.mem_nodes_of_ok (member : record ∈ inspection.declaration.records) {seen : Seen α}
    {literal : Literal α} {node : Node α} (found : inspection.value seen record = .ok (literal, node)) :
    node ∈ inspection.declaration.nodes := by
  have resolved := ((inspection.value_eq_ok_iff seen record literal node).mp found).1
  exact Declaration.mem_nodes_of_record member (CaseRecord.mem_nodes_of_resolve? resolved)

theorem Inspection.anchors_cases (catchAll : inspection.catchAll ∈ inspection.declaration.records)
    {seen : Seen α} (shows : inspection.declaration.Shows seen) {records : List (CaseRecord α)}
    (members : ∀ record ∈ records, record ∈ inspection.declaration.records) :
    inspection.declaration.Anchors (inspection.cases seen records).1 := by
  induction records generalizing seen with
  | nil => exact Declaration.anchors_nil
  | cons record records ih =>
    rw [List.forall_mem_cons] at members
    obtain ⟨member, members⟩ := members
    by_cases marked : record.role = .catchAll
    · rw [inspection.cases_of_catchAll seen records marked]
      exact (Inspection.anchors_catchAllProblems catchAll member).append (ih shows members)
    · have extra := CaseRecord.anchors_extraProblems member
      cases found : inspection.value seen record with
      | error problem =>
        rw [inspection.cases_of_error seen records marked found]
        exact extra.append ((Inspection.anchors_error member shows found).append (ih shows members))
      | ok pair =>
        rw [inspection.cases_of_ok seen records marked found]
        -- the node is shown to the cases behind this one
        exact extra.append (ih (List.forall_mem_cons.mpr
          ⟨Inspection.mem_nodes_of_ok member found, shows⟩) members)

end

/-! ### Reports -/

theorem Declaration.anchors_mapping {root : Declaration α} {rawType : NamedType α} {settings : Settings}
    {problems : List (Diagnostic α)} (failed : root.mapping rawType settings = .error problems) :
    root.Anchors problems := by
  unfold mapping at failed
  cases found : root.records.find? (·.role == .catchAll) with
  | none =>
    simp only [found] at failed
    cases failed
    refine Declaration.anchors_one ?_ (List.forall_mem_nil _)
    cases candidate : defaultCandidate? root.records rawType.name settings.defaultCaseName with
    | none => exact root.mem_nodes_of_name
    | some record =>
      exact Declaration.mem_nodes_of_record (mem_of_defaultCandidate? candidate) record.mem_nodes_of_name
  | some catchAll =>
    have anchors : root.Anchors ((Inspection.mk root rawType.name settings catchAll).cases [] root.records).1 :=
      Inspection.anchors_cases (List.mem_of_find?_eq_some found) (List.forall_mem_nil _) fun _ member => member
    simp only [found] at failed
    split at failed
    · cases failed
    · next result =>
      cases failed
      rwa [result] at anchors

theorem Declaration.anchors_request {root : Declaration α} {attr : Attribute α}
    (member : attr ∈ root.attributes) {settings : Settings} {problems : List (Diagnostic α)}
    (failed : root.request attr settings = .error problems) : root.Anchors problems := by
  rcases Declaration.request_error failed with rfl | rfl | ⟨argument, listed, rfl⟩
  · exact Declaration.anchors_one (Declaration.mem_nodes_of_attribute member List.mem_cons_self)
      (List.forall_mem_nil _)
  · exact Declaration.anchors_one List.mem_cons_self (List.forall_mem_nil _)
  · -- the name that is no string is written by a literal of the annotation
    have below : Node.literal argument.value ∈ attr.nodes :=
      List.mem_cons_of_mem _ (List.mem_append_right _ (List.mem_flatMap.mpr
        ⟨argument, listed, List.mem_cons_of_mem _ (List.mem_singleton_self _)⟩))
    exact Declaration.anchors_one (Declaration.mem_nodes_of_attribute member below)
      (List.forall_mem_nil _)

theorem Declaration.anchors_report (root : Declaration α) (settings : Settings) :
    root.Anchors (root.report settings) := by
  unfold report expand
  cases found : root.findAttribute? annotationName with
  | none => exact Declaration.anchors_nil
  | some attr =>
    simp only [expandAs]
    cases requested : root.request attr settings with
    | error problems => exact Declaration.anchors_request (List.mem_of_find?_eq_some found) requested
    | ok request =>
      obtain ⟨rawType, changed⟩ := request
      simp only [ok_bind]
      cases mapped : root.mapping rawType changed with
      | error problems => exact Declaration.anchors_mapping mapped
      | ok mapping => exact Declaration.anchors_nil

end RawMapping
