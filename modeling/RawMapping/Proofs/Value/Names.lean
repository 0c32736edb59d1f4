import RawMapping.Proofs.Value.Strings

/-! The names of cases and the survival of raw values. Where no two cases share a name, every raw value
survives. Over strings that is the only way: where two cases share a name, some string is lost. -/

set_option autoImplicit false

namespace RawMapping

variable {α β γ : Type}

/-! ### Names -/

def Declaration.caseNames (declaration : Declaration α) : List String :=
  declaration.records.map CaseRecord.name

def CaseLine.caseNames (line : CaseLine α) : List String :=
  line.variants.map (·.name.text)

theorem CaseLine.map_name_records (line : CaseLine α) (lineIndex : Nat) :
    (line.records lineIndex).map CaseRecord.name = line.caseNames := by
  cases variants : line.variants with
  | nil => simp [records, caseNames, variants]
  | cons first others =>
    have plain : ((others.zipIdx 1).map fun placed =>
        line.plainRecord lineIndex placed.2 placed.1).map CaseRecord.name =
          others.map (·.name.text) := by
      rw [List.map_map]
      change (others.zipIdx 1).map ((·.name.text) ∘ Prod.fst) = _
      rw [← List.map_map, List.zipIdx_map_fst]
    rw [records_of_cons variants, List.map_cons, plain, caseNames, variants]
    rfl

theorem Declaration.caseNames_eq (declaration : Declaration α) :
    declaration.caseNames = declaration.body.lines.flatMap CaseLine.caseNames := by
  rw [caseNames, records, List.map_flatMap]
  simp only [CaseLine.map_name_records]
  change declaration.body.lines.zipIdx.flatMap (fun indexed => indexed.1.caseNames) = _
  rw [← List.flatMap_map Prod.fst CaseLine.caseNames, List.zipIdx_map_fst]

theorem CaseLine.caseName_leadAssignment (line : CaseLine α) (variant : Variant α) :
    (line.leadAssignment variant).caseName = variant.name.text := by
  unfold leadAssignment
  split <;> rfl

theorem CaseLine.map_caseName_ownNames (others : List (Variant α)) :
    (others.map Variant.ownName).map (·.caseName) = others.map (·.name.text) := by
  rw [List.map_map]
  rfl

theorem CaseLine.map_caseName_of_unmarked {line : CaseLine α} (unmarked : ¬ line.Marks) :
    line.assignments.map (·.caseName) = line.caseNames := by
  unfold assignments caseNames
  cases variants : line.variants with
  | nil => rfl
  | cons first others =>
    have plain : ¬ line.Carries defaultCaseName := fun carries => unmarked ⟨by simp [variants], carries⟩
    simp only [plain, if_false, List.map_append, List.map_cons, List.map_nil, map_caseName_ownNames,
      caseName_leadAssignment]
    rfl

theorem CaseLine.map_caseName_of_marked {line : CaseLine α} {variant : Variant α}
    (marked : line.Marks) (first : line.variants.head? = some variant) :
    line.caseNames = variant.name.text :: line.assignments.map (·.caseName) := by
  unfold assignments caseNames
  cases variants : line.variants with
  | nil => simp [variants] at first
  | cons lead others =>
    simp only [variants, List.head?_cons, Option.some.injEq] at first
    simp only [marked.2, if_true, List.nil_append, map_caseName_ownNames, List.map_cons, first]

/-- The cases are the catch-all and those that stand for a literal. -/
theorem Declaration.HasCatchAll.perm_caseNames {declaration : Declaration α} {rawType : String}
    {line : CaseLine α} {variant : Variant α}
    (catchAll : declaration.HasCatchAll rawType line variant) :
    declaration.caseNames.Perm
      (variant.name.text :: declaration.assignments.map (·.caseName)) := by
  obtain ⟨before, after, lines, unmarked, marked, rest⟩ := List.filter_eq_cons_iff.mp catchAll.only
  have plain : ∀ part : List (CaseLine α), (∀ other ∈ part, ¬ other.Marks) →
      (part.flatMap CaseLine.assignments).map (·.caseName) = part.flatMap CaseLine.caseNames := by
    intro part none
    rw [List.map_flatMap, List.flatMap_def, List.flatMap_def, List.map_congr_left]
    exact fun other member => CaseLine.map_caseName_of_unmarked (none other member)
  have earlier := plain before (by simpa using unmarked)
  have later := plain after (by simpa [List.filter_eq_nil_iff] using rest)
  have here := CaseLine.map_caseName_of_marked (of_decide_eq_true marked) catchAll.first
  rw [Declaration.caseNames_eq, Declaration.assignments, lines, List.flatMap_append,
    List.flatMap_append, List.flatMap_cons, List.flatMap_cons, List.map_append, List.map_append,
    earlier, later, here, List.cons_append]
  exact List.perm_middle

theorem exists_repeated {items : List β} {key : β → γ} (repeats : ¬ (items.map key).Nodup) :
    ∃ before item after, items = before ++ item :: after ∧ ∃ other ∈ before, key other = key item := by
  induction items with
  | nil => simp at repeats
  | cons first items ih =>
    by_cases later : (items.map key).Nodup
    · have again : key first ∈ items.map key := by
        apply Classical.byContradiction
        intro fresh
        exact repeats (List.nodup_cons.mpr ⟨fresh, later⟩)
      obtain ⟨item, member, same⟩ := List.mem_map.mp again
      obtain ⟨before, after, rfl⟩ := List.append_of_mem member
      exact ⟨first :: before, item, after, rfl, first, by simp, same.symm⟩
    · obtain ⟨before, item, after, rfl, other, member, same⟩ := ih later
      exact ⟨first :: before, item, after, rfl, other, by simp [member], same⟩

/-! ### Survival -/

def Expansion.Loses (expansion : Expansion α) (text : String) : Prop :=
  ∃ value other, expansion.decode (.text text) = .ok value ∧
    expansion.encode value = .ok (.text other) ∧ other ≠ text

namespace StringValued

variable {tag : α} {typeName catchAll : String} {assignments : List Assignment}

theorem loses_of_catchAll (valued : StringValued assignments)
    (named : catchAll ∈ assignments.map (·.caseName)) :
    ∃ text, (describedExpansion tag typeName stringTypeName catchAll assignments).Loses text := by
  obtain ⟨assignment, member, rfl⟩ := List.mem_map.mp named
  -- the string is none of the finitely many that are assigned
  obtain ⟨raw, typed, differ⟩ := exists_unassigned stringTypeName valued.readable
  obtain ⟨text, rfl⟩ : ∃ text, raw = .text text := by simpa [Value.HasType] using typed
  obtain ⟨first, inside, other, -, string, encoded⟩ := valued.encode_named member [.text text]
  refine ⟨text, _, other, decode_unassigned typed differ, encoded, ?_⟩
  rintro rfl
  obtain ⟨value, denotes, differs⟩ := differ first inside
  rw [string] at denotes
  cases denotes
  exact differs rfl

/-- Of two cases with one name, the string of the later is lost to the earlier. -/
theorem loses_of_repeated (valued : StringValued assignments)
    (repeated : ¬ (assignments.map (·.caseName)).Nodup) :
    ∃ text, (describedExpansion tag typeName stringTypeName catchAll assignments).Loses text := by
  obtain ⟨before, assignment, after, rfl, same⟩ := exists_repeated repeated
  have inside : assignment ∈ before ++ assignment :: after := by simp
  obtain ⟨text, string⟩ := valued.strings assignment inside
  -- encoding finds the first case of the name, not just any that comes earlier
  obtain ⟨earlier, first, between, rfl, named, others⟩ :=
    exists_first (fun other : Assignment => other.caseName = assignment.caseName) same
  have unlike := valued.unlike_before first (by simp)
  obtain ⟨other, otherString⟩ := valued.strings first (by simp)
  have typed := hasType_text other
  refine ⟨text, _, other, valued.decode_own inside string, ?_, ?_⟩
  · rw [← named] at others ⊢
    rw [List.append_assoc, List.cons_append]
    exact encode_assigned typed others (Assignment.denotes_of_string otherString)
  · rintro rfl
    exact unlike (otherString.trans string.symm)

end StringValued

/-- Raw values survive where the names of all cases differ and numerals can be read; over strings, two
cases of one name lose a string. -/
theorem Declaration.names_decide_survival (declaration : Declaration α) (settings : Settings)
    (expansion : Expansion (Option α)) (expanded : declaration.expand settings = .ok expansion) :
    (declaration.caseNames.Nodup →
      (∀ assignment ∈ declaration.assignments, ∀ text, assignment.literal = .integer text () →
        ∃ number, Text.readInteger text = .ok number) →
      ∀ raw, expansion.Takes raw →
        ∃ value, expansion.decode raw = .ok value ∧ expansion.encode value = .ok raw) ∧
    (expansion.initializer?.map (·.rawType.name) = some stringTypeName → ¬ declaration.caseNames.Nodup →
      ∃ text value other, expansion.decode (.text text) = .ok value ∧
        expansion.encode value = .ok (.text other) ∧ other ≠ text) := by
  obtain ⟨rawType, variant, formed, rfl⟩ :=
    (declaration.expand_eq_ok_iff_wellFormed settings expansion).mp expanded
  obtain ⟨line, catchAll⟩ := formed.describes.catchAll
  have names := catchAll.perm_caseNames.nodup_iff
  constructor
  · intro distinct numerals raw takes
    have readable : ∀ assignment ∈ declaration.assignments, ∃ value,
        assignment.literal.Denotes value := by
      intro assignment member
      have fits := (Literal.fitsType_iff _ _).mpr (formed.describes.hasType assignment member)
      cases literal : assignment.literal with
      | string text _ => exact ⟨.text text, rfl⟩
      | integer text _ =>
        obtain ⟨number, read⟩ := numerals assignment member text literal
        exact ⟨.int number, by simp [Literal.Denotes, Literal.value?, read]⟩
      | placeholder label _ => simp [literal, Literal.fitsType] at fits
    have faithful := faithful_of_nodup readable (names.mp distinct)
    exact faithful.keeps ((takes_describedExpansion _ _ _ _ _ raw).mp takes)
  · intro string repeated
    obtain rfl : rawType = stringTypeName := Option.some.inj string
    have valued := formed.describes.stringValued
    -- the repeated name is that of the catch-all, or two of the other cases have it
    by_cases named : variant.name.text ∈ declaration.assignments.map (·.caseName)
    · exact valued.loses_of_catchAll named
    · refine valued.loses_of_repeated fun distinct => repeated ?_
      exact names.mpr (List.nodup_cons.mpr ⟨named, distinct⟩)

def levels : Declaration Unit :=
  ⟨.enumKind, ⟨"Level", ()⟩, [⟨⟨"raw_representable", ()⟩, [⟨"Int", ()⟩], [], ()⟩],
    ⟨[⟨[⟨⟨"raw_value", ()⟩, [], [⟨none, .integer "1" (), ()⟩], ()⟩], [⟨⟨"high", ()⟩, none, ()⟩], ()⟩,
      ⟨[⟨⟨"raw_value", ()⟩, [], [⟨none, .integer "-07" (), ()⟩], ()⟩], [⟨⟨"low", ()⟩, none, ()⟩], ()⟩,
      ⟨[⟨⟨"default_case", ()⟩, [], [], ()⟩],
        [⟨⟨"other", ()⟩, some [⟨none, ⟨"Int", ()⟩, ()⟩], ()⟩], ()⟩], ()⟩, ()⟩

theorem levels_expand :
    levels.expand {} = .ok (describedExpansion none "Level" "Int" "other"
      [⟨"high", .integer "1" ()⟩, ⟨"low", .integer "-07" ()⟩]) :=
  toOption_eq_some_iff.mp (by decide +kernel)

theorem levels_survive_and_aliases_do_not :
    (∃ expansion, levels.expand {} = .ok expansion ∧ levels.caseNames.Nodup ∧
      ∀ raw, expansion.Takes raw →
        ∃ value, expansion.decode raw = .ok value ∧ expansion.encode value = .ok raw) ∧
    ∃ expansion, aliases.expand {} = .ok expansion ∧ ¬ aliases.caseNames.Nodup ∧
      ∃ text value other, expansion.decode (.text text) = .ok value ∧
        expansion.encode value = .ok (.text other) ∧ other ≠ text := by
  have distinct : levels.caseNames.Nodup := by decide
  have repeated : ¬ aliases.caseNames.Nodup := by decide
  have numerals : ∀ assignment ∈ levels.assignments, ∀ text, assignment.literal = .integer text () →
      ∃ number, Text.readInteger text = .ok number := by
    refine List.forall_mem_cons.mpr ⟨?_, List.forall_mem_singleton.mpr ?_⟩
    · rintro _ ⟨⟩
      exact ⟨1, rfl⟩
    · rintro _ ⟨⟩
      exact ⟨-7, rfl⟩
  exact ⟨⟨_, levels_expand, distinct,
      (levels.names_decide_survival {} _ levels_expand).1 distinct numerals⟩,
    _, aliases_expand, repeated, (aliases.names_decide_survival {} _ aliases_expand).2 rfl repeated⟩

end RawMapping
