import RawMapping.Proofs.Report.Mending

/-! What a report can offer. Every fix comes with a diagnostic about one case of the declaration, but for
the one that adds a catch-all where no case could be marked as one. -/

set_option autoImplicit false

namespace RawMapping

variable {α : Type}

/-- A diagnostic and a fix that it offers, as a report on the declaration can hold them. -/
inductive Declaration.Remedy (root : Declaration α) : Diagnostic α → Fix α → Prop where
  | mark {rawType caseName : String} {candidate : CaseRecord α} (member : candidate ∈ root.records) :
      Remedy root (missingDefault root rawType (some candidate) caseName)
        (addDefaultCaseFix root rawType (some candidate) caseName)
  | add {rawType caseName : String} (unnamed : ∀ record ∈ root.records, record.name ≠ caseName) :
      Remedy root (missingDefault root rawType none caseName)
        (addDefaultCaseFix root rawType none caseName)
  | payload {rawType : String} {record : CaseRecord α} (member : record ∈ root.records)
      (marked : record.role = .catchAll) :
      Remedy root (wrongAssociatedValue record rawType) (fixAssociatedValueFix record.variant rawType)
  | dropAll {record : CaseRecord α} (member : record ∈ root.records)
      (marked : record.role = .catchAll) :
      Remedy root (defaultAndRaw record) (removeRawValueFix record)
  | dropExtra {record : CaseRecord α} {attr : Attribute α} {place : Nat}
      (member : record ∈ root.records) (extra : (attr, place) ∈ record.extraRawAttributes) :
      Remedy root (extraRawValue record attr place) (removeAttributeFix record place)
  | value {record : CaseRecord α} {label : String} (member : record ∈ root.records) :
      Remedy root (missingRawValue root record label) (addRawValueFix root record label)
  | quote {rawType text : String} {tag : α} {record : CaseRecord α} (member : record ∈ root.records)
      (written : record.value? = some (.integer text tag)) :
      Remedy root (rawValueType record (.integer text tag) rawType) (quoteRawValueFix text tag)

/-- Every fix of the diagnostics is one that a report on the declaration can offer. -/
def Declaration.Remedies (root : Declaration α) (diagnostics : List (Diagnostic α)) : Prop :=
  ∀ diagnostic ∈ diagnostics, ∀ fix ∈ diagnostic.fixes, root.Remedy diagnostic fix

section

variable {root : Declaration α}

theorem Declaration.Remedies.append {first second : List (Diagnostic α)}
    (left : root.Remedies first) (right : root.Remedies second) : root.Remedies (first ++ second) :=
  List.forall_mem_append.mpr ⟨left, right⟩

theorem Declaration.remedies_none {diagnostic : Diagnostic α} (none : diagnostic.fixes = []) :
    root.Remedies [diagnostic] := by
  refine List.forall_mem_singleton.mpr ?_
  simp [none]

theorem Declaration.remedies_one {diagnostic : Diagnostic α} {fix : Fix α}
    (one : diagnostic.fixes = [fix]) (remedy : root.Remedy diagnostic fix) :
    root.Remedies [diagnostic] := by
  refine List.forall_mem_singleton.mpr ?_
  rw [one]
  exact List.forall_mem_singleton.mpr remedy

theorem Declaration.remedies_nil : root.Remedies [] :=
  List.forall_mem_nil _

theorem CaseRecord.remedies_extraProblems {record : CaseRecord α} (member : record ∈ root.records) :
    root.Remedies record.extraProblems := by
  unfold extraProblems
  cases record.role with
  | catchAll => exact Declaration.remedies_nil
  | implicit => exact Declaration.remedies_nil
  | explicit =>
    intro diagnostic inside fix offered
    obtain ⟨⟨attr, place⟩, extra, rfl⟩ := List.mem_map.mp inside
    rw [List.mem_singleton.mp offered]
    exact .dropExtra member extra

end

section

variable {inspection : Inspection α} {record : CaseRecord α}

theorem Inspection.remedies_catchAllProblems (member : record ∈ inspection.declaration.records)
    (marked : record.role = .catchAll) :
    inspection.declaration.Remedies (inspection.catchAllProblems record) := by
  refine .append ?_ ?_
  · split
    · exact Declaration.remedies_none rfl
    · split
      · exact Declaration.remedies_nil
      · exact Declaration.remedies_one rfl (.payload member marked)
  · split
    · exact Declaration.remedies_one rfl (.dropAll member marked)
    · exact Declaration.remedies_nil

theorem CaseRecord.value?_of_resolve? {rawType text : String} {tag : α} {node : Node α}
    (resolved : record.resolve? rawType = some (.integer text tag, node)) :
    record.value? = some (.integer text tag) := by
  unfold resolve? at resolved
  split at resolved
  · cases resolved
  · obtain ⟨literal, given, same⟩ := Option.map_eq_some_iff.mp resolved
    rw [given, (Prod.mk.inj same).1]
  · split at resolved
    · cases resolved
    · cases resolved

theorem Inspection.remedies_error (member : record ∈ inspection.declaration.records) {seen : Seen α}
    {problem : Diagnostic α} (failed : inspection.value seen record = .error problem) :
    inspection.declaration.Remedies [problem] := by
  cases Inspection.refuses_of_error failed with
  | malformed => exact Declaration.remedies_none rfl
  | missing => exact Declaration.remedies_one rfl (.value member)
  | unfilled => exact Declaration.remedies_none rfl
  | repeated => exact Declaration.remedies_none rfl
  | @mistyped literal node resolved =>
    -- only an integer where a string is wanted has a fix
    refine List.forall_mem_singleton.mpr fun fix offered => ?_
    change fix ∈ rawValueTypeFixes literal inspection.rawType at offered
    unfold rawValueTypeFixes at offered
    split at offered
    · split at offered
      · rw [List.mem_singleton.mp offered]
        exact .quote member (CaseRecord.value?_of_resolve? resolved)
      · cases offered
    · cases offered

theorem Inspection.remedies_cases {seen : Seen α} {records : List (CaseRecord α)}
    (members : ∀ record ∈ records, record ∈ inspection.declaration.records) :
    inspection.declaration.Remedies (inspection.cases seen records).1 := by
  induction records generalizing seen with
  | nil => exact Declaration.remedies_nil
  | cons record records ih =>
    rw [List.forall_mem_cons] at members
    obtain ⟨member, members⟩ := members
    by_cases marked : record.role = .catchAll
    · rw [inspection.cases_of_catchAll seen records marked]
      exact (Inspection.remedies_catchAllProblems member marked).append (ih members)
    · have extra := CaseRecord.remedies_extraProblems member
      cases found : inspection.value seen record with
      | error problem =>
        rw [inspection.cases_of_error seen records marked found]
        exact extra.append ((Inspection.remedies_error member found).append (ih members))
      | ok pair =>
        rw [inspection.cases_of_ok seen records marked found]
        exact extra.append (ih members)

end

theorem Declaration.remedies_report (root : Declaration α) (settings : Settings) :
    root.Remedies (root.report settings) := by
  cases asks : root.asks settings with
  | none =>
    intro diagnostic member fix offered
    have some : fix ∈ offers (root.report settings) := List.mem_flatMap.mpr ⟨diagnostic, member, offered⟩
    rw [(Declaration.offering_of_asks_none asks).all] at some
    cases some
  | some request =>
    obtain ⟨rawType, changed⟩ := request
    obtain ⟨type, rfl, report⟩ := Declaration.report_of_asks asks
    rw [report]
    cases found : root.records.find? (·.role == .catchAll) with
    | none =>
      cases candidate : defaultCandidate? root.records type.name changed.defaultCaseName with
      | some record =>
        simp only [Declaration.mapping, found, candidate]
        exact Declaration.remedies_one rfl (.mark (mem_of_defaultCandidate? candidate))
      | none =>
        simp only [Declaration.mapping, found, candidate]
        -- a case with the name of the new one would have been the candidate
        refine Declaration.remedies_one rfl (.add fun record member named => ?_)
        have unnamed := List.find?_eq_none.mp (Option.or_eq_none_iff.mp candidate).1 record member
        exact unnamed (by simp [named])
    | some catchAll =>
      have remedies : root.Remedies ((Inspection.mk root type.name changed catchAll).cases [] root.records).1 :=
        Inspection.remedies_cases fun _ member => member
      simp only [Declaration.mapping, found]
      cases result : (Inspection.mk root type.name changed catchAll).cases [] root.records with
      | mk problems values =>
        rw [result] at remedies
        cases problems with
        | nil => exact Declaration.remedies_nil
        | cons problem problems => exact remedies

/-! ### The case that a fix is about -/

def CaseRecord.nodes (record : CaseRecord α) : List (Node α) :=
  record.variant.nodes ++
    (record.rawAttribute.toList ++ record.extraRawAttributes.map (·.1)).flatMap Attribute.nodes

def Diagnostic.About (diagnostic : Diagnostic α) (record : CaseRecord α) : Prop :=
  diagnostic.anchor ∈ record.nodes

theorem CaseRecord.mem_nodes_of_variant {record : CaseRecord α} {node : Node α}
    (member : node ∈ record.variant.nodes) : node ∈ record.nodes :=
  List.mem_append_left _ member

inductive Target where
  | present (record : CaseRecord Stamp)
  /-- A case that the fix adds. -/
  | added (name : String)

inductive Declaration.Touches (root : Declaration Stamp) : Target → Change Stamp → Prop where
  /-- The attributes of a line are changed, and with them its first case. -/
  | line {before after : List (CaseLine Stamp)} {line : CaseLine Stamp} {first : Variant Stamp}
      {others : List (Variant Stamp)} {part : List (Attribute Stamp)}
      {added : List (Attribute (Draft Stamp))} (lines : root.body.lines = before ++ line :: after)
      (variants : line.variants = first :: others) (inside : part.Sublist line.attributes)
      (new : keptIds (added.flatMap Attribute.nodes) = []) :
      Touches root (.present (line.leadRecord before.length first))
        (.ofLine line (part.map (·.map .kept) ++ added) (line.variants.map (·.map .kept)))
  /-- A case moves to a line of its own. -/
  | moved {before after : List (CaseLine Stamp)} {line : CaseLine Stamp} {variant : Variant Stamp}
      {front back : List (Variant Stamp)} {attr : Attribute (Draft Stamp)}
      (lines : root.body.lines = before ++ line :: after) (nonempty : front ≠ [])
      (variants : line.variants = front ++ variant :: back) (new : keptIds attr.nodes = []) :
      Touches root (.present (line.plainRecord before.length front.length variant))
        (.ofBody root.body (before.map (CaseLine.map Draft.kept) ++
          (line.split front.length variant attr ++ after.map (CaseLine.map Draft.kept))))
  /-- The first case of a line is given another payload. -/
  | payload {before after : List (CaseLine Stamp)} {line : CaseLine Stamp} {first : Variant Stamp}
      {others : List (Variant Stamp)} {parameters : List (Parameter (Draft Stamp))}
      (lines : root.body.lines = before ++ line :: after) (variants : line.variants = first :: others)
      (new : keptIds (parameters.flatMap Parameter.nodes) = []) :
      Touches root (.present (line.leadRecord before.length first))
        ⟨.variant first, .variant ⟨first.name.map .kept, some parameters, .copied first.tag⟩⟩
  /-- The first case of a line is given another value. -/
  | value {before after : List (CaseLine Stamp)} {line : CaseLine Stamp} {first : Variant Stamp}
      {others : List (Variant Stamp)} {front back : List (Attribute Stamp)} {attr : Attribute Stamp}
      {argument : Argument Stamp} {old : Literal Stamp} {literal : Literal (Draft Stamp)}
      (lines : root.body.lines = before ++ line :: after) (variants : line.variants = first :: others)
      (attributes : line.attributes = front ++ attr :: back) (arguments : attr.arguments = [argument])
      (value : argument.value = old) (new : literal.tag.keptId? = none) :
      Touches root (.present (line.leadRecord before.length first)) ⟨.literal old, .literal literal⟩
  /-- A line is added behind all others. -/
  | added {attributes : List (Attribute (Draft Stamp))} {variant : Variant (Draft Stamp)}
      (new : keptIds (CaseLine.mk attributes [variant] .added).nodes = []) :
      Touches root (.added variant.name.text) (.ofBody root.body (root.body.lines.map (CaseLine.map Draft.kept) ++
        [⟨attributes, [variant], .added⟩]))

theorem CaseLine.mem_nodes_of_first {line : CaseLine α} {first : Variant α} {others : List (Variant α)}
    (variants : line.variants = first :: others) : Node.variant first ∈ line.nodes := by
  simp [CaseLine.nodes, CaseLine.below, variants, Variant.nodes]

theorem CaseLine.mem_nodes_of_value {line : CaseLine α} {front back : List (Attribute α)}
    {attr : Attribute α} {argument : Argument α} {literal : Literal α}
    (attributes : line.attributes = front ++ attr :: back) (arguments : attr.arguments = [argument])
    (value : argument.value = literal) : Node.literal literal ∈ line.nodes := by
  simp [CaseLine.nodes, CaseLine.below, attributes, Attribute.nodes, Attribute.below, arguments,
    Argument.nodes, Argument.below, Literal.nodes, value]

section

variable {root : Declaration Stamp} {record : CaseRecord Stamp}

theorem Declaration.touches_annotate (member : record ∈ root.records) {attr : Attribute (Draft Stamp)}
    (new : keptIds attr.nodes = []) : root.Touches (.present record) (annotateCase root record attr) := by
  obtain ⟨before, line, after, lines, inside⟩ := Declaration.exists_line_of_mem_records member
  -- the first case of a line is annotated in place, any other has to leave the line
  rcases CaseLine.mem_records_cases inside with ⟨first, others, variants, rfl⟩ |
    ⟨front, variant, back, nonempty, variants, rfl⟩
  · exact .line lines variants (.refl _) (by simpa using new)
  · rw [annotateCase_plain lines nonempty]
    exact .moved lines nonempty variants new

theorem Declaration.exists_lead (member : record ∈ root.records)
    (own : ¬ (record.role = .implicit ∧ record.rawAttribute = none ∧ record.extraRawAttributes = [])) :
    ∃ before line after first others, root.body.lines = before ++ line :: after ∧
      line.variants = first :: others ∧ record = line.leadRecord before.length first := by
  obtain ⟨before, line, after, lines, inside⟩ := Declaration.exists_line_of_mem_records member
  rcases CaseLine.mem_records_cases inside with ⟨first, others, variants, same⟩ |
    ⟨front, variant, back, -, -, rfl⟩
  · exact ⟨before, line, after, first, others, lines, variants, same⟩
  · exact absurd ⟨rfl, rfl, rfl⟩ own

end

/-- The target of a fix is the case that its diagnostic is about. If the fix adds a case, the diagnostic
is about the whole declaration, and no case has the name of the new one. -/
inductive Declaration.Targets (root : Declaration Stamp) (diagnostic : Diagnostic Stamp) :
    Target → Prop where
  | present {record : CaseRecord Stamp} (member : record ∈ root.records)
      (about : diagnostic.About record) : Targets root diagnostic (.present record)
  | added {name : String} (missing : diagnostic.kind = .missingDefault)
      (anchor : diagnostic.anchor = .identifier root.name)
      (unnamed : ∀ record ∈ root.records, record.name ≠ name) : Targets root diagnostic (.added name)

theorem Diagnostic.about_of_variant {diagnostic : Diagnostic Stamp} {record : CaseRecord Stamp}
    (anchor : diagnostic.anchor = .variant record.variant) : diagnostic.About record := by
  rw [About, anchor]
  exact CaseRecord.mem_nodes_of_variant List.mem_cons_self

theorem CaseRecord.mem_nodes_of_attribute {record : CaseRecord α} {attr : Attribute α} {node : Node α}
    (own : attr ∈ record.rawAttribute.toList ++ record.extraRawAttributes.map (·.1))
    (member : node ∈ attr.nodes) : node ∈ record.nodes :=
  List.mem_append_right _ (List.mem_flatMap.mpr ⟨attr, own, member⟩)

theorem CaseRecord.exists_of_value? {record : CaseRecord α} {literal : Literal α}
    (written : record.value? = some literal) :
    ∃ attr argument, record.rawAttribute = some attr ∧ attr.arguments = [argument] ∧
      argument.value = literal := by
  unfold value? at written
  split at written
  · next attr given =>
    split at written
    · next argument arguments => exact ⟨attr, argument, given, arguments, Option.some.inj written⟩
    · cases written
  · cases written

theorem Declaration.Touches.drop {root : Declaration Stamp} {before after : List (CaseLine Stamp)}
    {line : CaseLine Stamp} {first : Variant Stamp} {others : List (Variant Stamp)}
    {part : List (Attribute Stamp)} (lines : root.body.lines = before ++ line :: after)
    (variants : line.variants = first :: others) (inside : part.Sublist line.attributes) :
    root.Touches (.present (line.leadRecord before.length first))
      (.ofLine line (part.map (·.map .kept)) (line.variants.map (·.map .kept))) := by
  have new : keptIds (([] : List (Attribute (Draft Stamp))).flatMap Attribute.nodes) = [] := rfl
  have touches := Declaration.Touches.line lines variants inside new
  rwa [List.append_nil] at touches

/-- Every fix replaces one node, for the case that its diagnostic is about. -/
theorem Declaration.Remedy.touches {root : Declaration Stamp} {diagnostic : Diagnostic Stamp}
    {fix : Fix Stamp} (remedy : root.Remedy diagnostic fix) :
    ∃ change target, fix.changes = [change] ∧ root.Touches target change ∧
      root.Targets diagnostic target := by
  -- a case with attributes is the first of its line, so the line and what is around it can be named
  cases remedy with
  | mark member =>
    refine ⟨_, _, rfl, Declaration.touches_annotate member rfl, .present member ?_⟩
    refine CaseRecord.mem_nodes_of_variant ?_
    simp [missingDefault, Variant.nodes, Variant.below, Identifier.nodes]
  | add unnamed => exact ⟨_, _, rfl, .added rfl, .added rfl rfl unnamed⟩
  | payload member marked =>
    obtain ⟨before, line, after, first, others, lines, variants, rfl⟩ :=
      Declaration.exists_lead member (by simp [marked])
    exact ⟨_, _, rfl, .payload lines variants rfl, .present member (Diagnostic.about_of_variant rfl)⟩
  | dropAll member marked =>
    obtain ⟨before, line, after, first, others, lines, variants, rfl⟩ :=
      Declaration.exists_lead member (by simp [marked])
    exact ⟨_, _, rfl, .drop lines variants List.filter_sublist,
      .present member (Diagnostic.about_of_variant rfl)⟩
  | dropExtra member extra =>
    obtain ⟨before, line, after, first, others, lines, variants, rfl⟩ :=
      Declaration.exists_lead member (by rintro ⟨-, -, none⟩; rw [none] at extra; cases extra)
    refine ⟨_, _, rfl, .drop lines variants (List.eraseIdx_sublist _ _), .present member ?_⟩
    refine CaseRecord.mem_nodes_of_attribute (List.mem_append_right _ ?_) List.mem_cons_self
    exact List.mem_map.mpr ⟨_, extra, rfl⟩
  | value member =>
    exact ⟨_, _, rfl, Declaration.touches_annotate member rfl,
      .present member (Diagnostic.about_of_variant rfl)⟩
  | quote member written =>
    obtain ⟨attr, argument, given, arguments, value⟩ := CaseRecord.exists_of_value? written
    obtain ⟨before, line, after, first, others, lines, variants, rfl⟩ :=
      Declaration.exists_lead member (by simp [given])
    have inside : attr ∈ line.attributes := by
      rw [CaseLine.leadRecord_rawAttribute] at given
      exact (List.mem_filter.mp (List.mem_of_head? given)).1
    obtain ⟨front, back, attributes⟩ := List.append_of_mem inside
    refine ⟨_, _, rfl, .value lines variants attributes arguments value rfl, .present member ?_⟩
    refine CaseRecord.mem_nodes_of_attribute (List.mem_append_left _ (Option.mem_toList.mpr given)) ?_
    simp [rawValueType, Attribute.nodes, Attribute.below, arguments, Argument.nodes, Argument.below,
      Literal.nodes, value]

end RawMapping
