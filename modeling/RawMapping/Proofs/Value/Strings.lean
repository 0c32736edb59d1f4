import RawMapping.Proofs.Value.Survival

/-! Enumerations over strings. The literals of such an enumeration are strings, and no two of them are
the same. So every case is decoded from its own string, every other string is put into the catch-all,
and a case survives being encoded and decoded even if other cases have its name. -/

set_option autoImplicit false

namespace RawMapping

variable {α : Type}

structure StringValued (assignments : List Assignment) : Prop where
  strings : ∀ assignment ∈ assignments, ∃ text, assignment.literal = .string text ()
  distinct : (assignments.map (·.literal)).Nodup

theorem Assignment.denotes_of_string {assignment : Assignment} {text : String}
    (string : assignment.literal = .string text ()) : assignment.literal.Denotes (.text text) := by
  rw [string]
  rfl

theorem hasType_text (text : String) : (Value.text text).HasType stringTypeName := by
  simp [Value.HasType]

namespace StringValued

variable {tag : α} {typeName catchAll text : String} {assignments before after : List Assignment}
  {assignment : Assignment}

theorem readable (valued : StringValued assignments) :
    ∀ assignment ∈ assignments, ∃ value, assignment.literal.Denotes value := by
  intro assignment member
  obtain ⟨text, string⟩ := valued.strings assignment member
  exact ⟨.text text, Assignment.denotes_of_string string⟩

theorem differ (valued : StringValued assignments) {others : List Assignment}
    (inside : others ⊆ assignments) (unlike : ∀ other ∈ others, other.literal ≠ .string text ()) :
    ∀ other ∈ others, ∃ value, other.literal.Denotes value ∧ Value.text text ≠ value := by
  intro other member
  obtain ⟨found, string⟩ := valued.strings other (inside member)
  refine ⟨.text found, Assignment.denotes_of_string string, ?_⟩
  rintro ⟨rfl⟩
  exact unlike other member string

theorem unlike_before (valued : StringValued (before ++ assignment :: after)) :
    ∀ other ∈ before, other.literal ≠ assignment.literal := by
  have distinct := valued.distinct
  rw [List.map_append, List.map_cons, List.nodup_append] at distinct
  intro other member
  exact distinct.2.2 _ (List.mem_map.mpr ⟨other, member, rfl⟩) _ (by simp)

theorem decode_own (valued : StringValued assignments) (member : assignment ∈ assignments)
    (string : assignment.literal = .string text ()) :
    (describedExpansion tag typeName stringTypeName catchAll assignments).decode (.text text) =
      .ok ⟨assignment.caseName, []⟩ := by
  obtain ⟨before, after, rfl⟩ := List.append_of_mem member
  have unlike := valued.unlike_before
  rw [string] at unlike
  exact decode_assigned (hasType_text text) (valued.differ (by simp) unlike)
    (Assignment.denotes_of_string string)

/-- A string that no case stands for is put into the catch-all. -/
theorem decode_other (valued : StringValued assignments)
    (unlike : ∀ assignment ∈ assignments, assignment.literal ≠ .string text ()) :
    (describedExpansion tag typeName stringTypeName catchAll assignments).decode (.text text) =
      .ok ⟨catchAll, [.text text]⟩ :=
  decode_unassigned (hasType_text text) (valued.differ (List.Subset.refl _) unlike)

-- The arms of an accessor go by names, so the case that answers need not be the one that was meant. It
-- has the same name, and that is all that decoding has to give back.
theorem encode_named (valued : StringValued assignments) (member : assignment ∈ assignments)
    (payload : List Value) :
    ∃ first ∈ assignments, ∃ text, first.caseName = assignment.caseName ∧
      first.literal = .string text () ∧
      (describedExpansion tag typeName stringTypeName catchAll assignments).encode
        ⟨assignment.caseName, payload⟩ = .ok (.text text) := by
  obtain ⟨before, first, after, rfl, named, others⟩ :=
    exists_first (fun other : Assignment => other.caseName = assignment.caseName)
      ⟨assignment, member, rfl⟩
  have inside : first ∈ before ++ first :: after := by simp
  obtain ⟨text, string⟩ := valued.strings first inside
  refine ⟨first, inside, text, named, string, ?_⟩
  rw [← named] at others ⊢
  exact encode_assigned (hasType_text text) others (Assignment.denotes_of_string string)

end StringValued

/-! ### Declarations -/

theorem Declaration.Describes.stringValued {declaration : Declaration α} {variant : Variant α}
    (describes : declaration.Describes stringTypeName variant) :
    StringValued declaration.assignments where
  strings := by
    intro assignment member
    have typed := describes.hasType assignment member
    rw [Literal.HasType, if_pos rfl] at typed
    obtain ⟨text, tag, string⟩ := typed
    exact ⟨text, string⟩
  distinct := by
    -- literals with different texts are different
    have texts : ((declaration.assignments.map (·.literal)).map Literal.text).Nodup := by
      rw [List.map_map]
      exact describes.distinct
    exact List.Pairwise.of_map Literal.text (fun _ _ differ same => differ (congrArg _ same)) texts

theorem Declaration.HasCatchAll.exists_record {declaration : Declaration α} {rawType : String}
    {line : CaseLine α} {variant : Variant α}
    (catchAll : declaration.HasCatchAll rawType line variant) :
    ∃ record ∈ declaration.records, record.role = .catchAll ∧ record.name = variant.name.text := by
  have inside : line ∈ declaration.body.lines.filter (·.Marks) := by simp [catchAll.only]
  obtain ⟨member, marks⟩ := List.mem_filter.mp inside
  obtain ⟨lineIndex, selected⟩ := List.mem_iff_getElem?.mp member
  refine ⟨line.leadRecord lineIndex variant, ?_, ?_, rfl⟩
  · exact Declaration.mem_records.mpr
      ⟨line, lineIndex, selected, CaseLine.leadRecord_mem_records lineIndex catchAll.first⟩
  · exact line.leadRecord_role_of_marked lineIndex variant (of_decide_eq_true marks).2

/-- Over strings, every case is decoded from its own string, any other string goes to the catch-all,
and the name of every case survives. -/
theorem Declaration.string_cases_stable (declaration : Declaration α) (settings : Settings)
    (expansion : Expansion (Option α)) (expanded : declaration.expand settings = .ok expansion)
    (string : expansion.initializer?.map (·.rawType.name) = some stringTypeName) :
    (∀ assignment ∈ declaration.assignments, ∃ text, assignment.literal = .string text () ∧
      expansion.decode (.text text) = .ok ⟨assignment.caseName, []⟩) ∧
    (∃ catchAll ∈ declaration.records, catchAll.role = .catchAll ∧
      ∀ text, (∀ assignment ∈ declaration.assignments, assignment.literal ≠ .string text ()) →
        expansion.decode (.text text) = .ok ⟨catchAll.name, [.text text]⟩) ∧
    (∀ assignment ∈ declaration.assignments, ∃ raw,
      expansion.encode ⟨assignment.caseName, []⟩ = .ok raw ∧
        expansion.decode raw = .ok ⟨assignment.caseName, []⟩) := by
  obtain ⟨rawType, variant, formed, rfl⟩ :=
    (declaration.expand_eq_ok_iff_wellFormed settings expansion).mp expanded
  obtain rfl : rawType = stringTypeName := Option.some.inj string
  have valued := formed.describes.stringValued
  obtain ⟨line, catchAll⟩ := formed.describes.catchAll
  obtain ⟨record, member, marked, named⟩ := catchAll.exists_record
  refine ⟨?_, ⟨record, member, marked, ?_⟩, ?_⟩
  · intro assignment inside
    obtain ⟨text, literal⟩ := valued.strings assignment inside
    exact ⟨text, literal, valued.decode_own inside literal⟩
  · intro text unlike
    rw [named]
    exact valued.decode_other unlike
  · intro assignment inside
    -- encoding takes the first case of the name, and its string leads back to that name
    obtain ⟨first, place, text, same, literal, encoded⟩ := valued.encode_named inside []
    refine ⟨.text text, encoded, ?_⟩
    rw [← same]
    exact valued.decode_own place literal

/-- Two cases and the catch-all have one name. -/
def aliases : Declaration Unit :=
  ⟨.enumKind, ⟨"Alias", ()⟩, [⟨⟨"raw_representable", ()⟩, [⟨"String", ()⟩], [], ()⟩],
    ⟨[⟨[⟨⟨"raw_value", ()⟩, [], [⟨none, .string "a" (), ()⟩], ()⟩], [⟨⟨"x", ()⟩, none, ()⟩], ()⟩,
      ⟨[⟨⟨"raw_value", ()⟩, [], [⟨none, .string "b" (), ()⟩], ()⟩],
        [⟨⟨"x", ()⟩, none, ()⟩, ⟨⟨"y", ()⟩, none, ()⟩], ()⟩,
      ⟨[⟨⟨"default_case", ()⟩, [], [], ()⟩],
        [⟨⟨"x", ()⟩, some [⟨none, ⟨"String", ()⟩, ()⟩], ()⟩], ()⟩], ()⟩, ()⟩

theorem aliases_expand :
    aliases.expand {} = .ok (describedExpansion none "Alias" "String" "x"
      [⟨"x", .string "a" ()⟩, ⟨"x", .string "b" ()⟩, ⟨"y", .string "y" ()⟩]) :=
  toOption_eq_some_iff.mp (by decide +kernel)

theorem aliases_stable :
    ∃ expansion, aliases.expand {} = .ok expansion ∧
      expansion.initializer?.map (·.rawType.name) = some stringTypeName ∧
      expansion.decode (.text "b") = .ok ⟨"x", []⟩ ∧
      expansion.decode (.text "c") = .ok ⟨"x", [.text "c"]⟩ ∧
      ∃ raw, expansion.encode ⟨"x", []⟩ = .ok raw ∧ expansion.decode raw = .ok ⟨"x", []⟩ := by
  obtain ⟨own, ⟨catchAll, member, marked, other⟩, named⟩ :=
    aliases.string_cases_stable {} _ aliases_expand rfl
  have assigned : (⟨"x", .string "b" ()⟩ : Assignment) ∈ aliases.assignments := by decide
  obtain ⟨text, same, decoded⟩ := own _ assigned
  cases same
  have only : ∀ record ∈ aliases.records, record.role = .catchAll → record.name = "x" := by decide
  have unlike := other "c" (by decide)
  rw [only catchAll member marked] at unlike
  exact ⟨_, aliases_expand, rfl, decoded, unlike, named _ assigned⟩

end RawMapping
