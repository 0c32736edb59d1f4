import RawMapping.Declaration.Parser
import RawMapping.Proofs.Value.Running

/-! When raw values survive: decoding a raw value and encoding the case gives the value back. Decoding
goes by literals and encoding goes by names, so the two must agree on which case comes first. -/

set_option autoImplicit false

namespace RawMapping

variable {α : Type}

structure Faithful (catchAll : String) (assignments : List Assignment) : Prop where
  readable : ∀ assignment ∈ assignments, ∃ value, assignment.literal.Denotes value
  catchAll : ∀ assignment ∈ assignments, assignment.caseName ≠ catchAll
  repeats : ∀ before assignment after, assignments = before ++ assignment :: after →
    (∃ other ∈ before, other.caseName = assignment.caseName) →
      ∃ other ∈ before, other.literal.value? = assignment.literal.value?

/-- Cases whose names differ from each other and from the catch-all's are faithful. -/
theorem faithful_of_nodup {catchAll : String} {assignments : List Assignment}
    (readable : ∀ assignment ∈ assignments, ∃ value, assignment.literal.Denotes value)
    (distinct : (catchAll :: assignments.map (·.caseName)).Nodup) : Faithful catchAll assignments := by
  rw [List.nodup_cons] at distinct
  refine ⟨readable, ?_, ?_⟩
  · rintro assignment member rfl
    exact distinct.1 (List.mem_map.mpr ⟨assignment, member, rfl⟩)
  · rintro before assignment after rfl ⟨other, member, same⟩
    have disjoint := distinct.2
    rw [List.map_append, List.map_cons, List.nodup_append] at disjoint
    exact absurd same (disjoint.2.2 _ (List.mem_map.mpr ⟨other, member, rfl⟩) _ (by simp))

def Expansion.Keeps (expansion : Expansion α) (raw : Value) : Prop :=
  ∃ value, expansion.decode raw = .ok value ∧ expansion.encode value = .ok raw

section

variable {tag : α} {typeName rawType catchAll : String} {assignments : List Assignment}

theorem Faithful.keeps (faithful : Faithful catchAll assignments) {raw : Value}
    (typed : raw.HasType rawType) :
    (describedExpansion tag typeName rawType catchAll assignments).Keeps raw := by
  by_cases assigned : ∃ assignment ∈ assignments, assignment.literal.Denotes raw
  · -- the first case with this value is decoded, and no earlier case has its name
    obtain ⟨before, assignment, after, rfl, denotes, none⟩ :=
      exists_first (fun assignment : Assignment => assignment.literal.Denotes raw) assigned
    have differ : ∀ other ∈ before, ∃ value, other.literal.Denotes value ∧ raw ≠ value := by
      intro other member
      obtain ⟨value, readable⟩ := faithful.readable other (by simp [member])
      exact ⟨value, readable, fun same => none other member (same ▸ readable)⟩
    refine ⟨⟨assignment.caseName, []⟩, decode_assigned typed differ denotes, ?_⟩
    refine encode_assigned typed ?_ denotes
    intro other member same
    obtain ⟨earlier, inside, equal⟩ := faithful.repeats before assignment after rfl ⟨other, member, same⟩
    exact none earlier inside (equal.trans denotes)
  · -- no case has this value, and the catch-all alone has its name
    have differ : ∀ other ∈ assignments, ∃ value, other.literal.Denotes value ∧ raw ≠ value := by
      intro other member
      obtain ⟨value, readable⟩ := faithful.readable other member
      exact ⟨value, readable, fun same => assigned ⟨other, member, same ▸ readable⟩⟩
    exact ⟨⟨catchAll, [raw]⟩, decode_unassigned typed differ, encode_catchAll typed faithful.catchAll⟩

theorem exists_unassigned (rawType : String)
    (readable : ∀ assignment ∈ assignments, ∃ value, assignment.literal.Denotes value) :
    ∃ raw : Value, raw.HasType rawType ∧
      ∀ other ∈ assignments, ∃ value, other.literal.Denotes value ∧ raw ≠ value := by
  let values := assignments.filterMap fun assignment => assignment.literal.value?.toOption.join
  obtain ⟨raw, typed, fresh⟩ := exists_fresh rawType values
  refine ⟨raw, typed, ?_⟩
  intro other member
  obtain ⟨value, denotes⟩ := readable other member
  refine ⟨value, denotes, ?_⟩
  rintro rfl
  refine fresh (List.mem_filterMap.mpr ⟨other, member, ?_⟩)
  rw [show other.literal.value? = _ from denotes]
  rfl

theorem readable_of_keeps
    (typed : ∀ assignment ∈ assignments, assignment.literal.HasType rawType)
    (keeps : ∀ raw : Value, raw.HasType rawType →
      (describedExpansion tag typeName rawType catchAll assignments).Keeps raw) :
    ∀ assignment ∈ assignments, ∃ value, assignment.literal.Denotes value := by
  -- a fresh value passes the readable literals and gets to the first that is not
  apply Classical.byContradiction
  intro failed
  simp only [Classical.not_forall] at failed
  obtain ⟨bad, member, unreadable⟩ := failed
  obtain ⟨before, assignment, after, rfl, unreadable, earlier⟩ :=
    exists_first (fun assignment => ¬ ∃ value, assignment.literal.Denotes value)
      ⟨bad, member, unreadable⟩
  have readable : ∀ other ∈ before, ∃ value, other.literal.Denotes value :=
    fun other inside => Classical.not_not.mp (earlier other inside)
  obtain ⟨raw, rawTyped, differ⟩ := exists_unassigned rawType readable
  rcases (typed assignment (by simp)).denotes_or_error with denotes | ⟨error, failed⟩
  · exact unreadable denotes
  · obtain ⟨value, decoded, -⟩ := keeps raw rawTyped
    rw [decode_unreadable rawTyped differ failed] at decoded
    cases decoded

theorem faithful_of_keeps
    (typed : ∀ assignment ∈ assignments, assignment.literal.HasType rawType)
    (keeps : ∀ raw : Value, raw.HasType rawType →
      (describedExpansion tag typeName rawType catchAll assignments).Keeps raw) :
    Faithful catchAll assignments where
  readable := readable_of_keeps typed keeps
  catchAll := by
    -- a case with the catch-all's name would answer for a value that only the catch-all carries
    intro bad member named
    obtain ⟨raw, rawTyped, differ⟩ := exists_unassigned rawType (readable_of_keeps typed keeps)
    obtain ⟨value, decoded, encoded⟩ := keeps raw rawTyped
    rw [decode_unassigned rawTyped differ] at decoded
    cases decoded
    obtain ⟨before, assignment, after, rfl, rfl, others⟩ :=
      exists_first (fun other : Assignment => other.caseName = catchAll) ⟨bad, member, named⟩
    obtain ⟨found, denotes, differs⟩ := differ assignment (by simp)
    have foundTyped := (typed assignment (by simp)).of_denotes denotes
    rw [encode_assigned foundTyped others denotes] at encoded
    cases encoded
    exact differs rfl
  repeats := by
    -- otherwise the value decodes to a name that an earlier case answers for
    intro before assignment after same repeated
    apply Classical.byContradiction
    intro fresh
    have readable := readable_of_keeps typed keeps
    obtain ⟨raw, denotes⟩ := readable assignment (by simp [same])
    have rawTyped := (typed assignment (by simp [same])).of_denotes denotes
    have differ : ∀ other ∈ before, ∃ value, other.literal.Denotes value ∧ raw ≠ value := by
      intro other member
      obtain ⟨value, found⟩ := readable other (by simp [same, member])
      refine ⟨value, found, ?_⟩
      rintro rfl
      exact fresh ⟨other, member, found.trans denotes.symm⟩
    obtain ⟨value, decoded, encoded⟩ := keeps raw rawTyped
    rw [same, decode_assigned rawTyped differ denotes] at decoded
    cases decoded
    obtain ⟨first, earlier, between, rfl, named, others⟩ :=
      exists_first (fun other : Assignment => other.caseName = assignment.caseName) repeated
    obtain ⟨found, foundDenotes, differs⟩ := differ earlier (by simp)
    have foundTyped := (typed earlier (by simp [same])).of_denotes foundDenotes
    rw [← named] at others encoded
    rw [same, List.append_assoc, List.cons_append, encode_assigned foundTyped others foundDenotes] at encoded
    cases encoded
    exact differs rfl

end

/-! ### Declarations -/

theorem Literal.HasType.bare {literal : Literal α} {rawType : String} (typed : literal.HasType rawType) :
    literal.bare.HasType rawType := by
  unfold Literal.HasType at typed ⊢
  split at typed
  · next string =>
    obtain ⟨value, tag, rfl⟩ := typed
    rw [if_pos string]
    exact ⟨value, (), rfl⟩
  · next string =>
    obtain ⟨text, tag, rfl⟩ := typed
    rw [if_neg string]
    exact ⟨text, (), rfl⟩

theorem Variant.hasType_ownName (variant : Variant α) :
    variant.ownName.literal.HasType stringTypeName := by
  rw [Literal.HasType, if_pos rfl]
  exact ⟨_, _, rfl⟩

theorem CaseLine.Valued.hasType_lead {line : CaseLine α} {rawType : String}
    (valued : line.Valued rawType 0) (variant : Variant α) :
    (line.leadAssignment variant).literal.HasType rawType := by
  unfold CaseLine.Valued at valued
  split at valued
  · obtain ⟨⟨name, types, arguments, tag⟩, argument, only, rfl, typed⟩ := valued
    have found := congrArg List.head? only
    rw [List.head?_filter, List.head?_cons] at found
    simp only [CaseLine.leadAssignment, found]
    exact typed.bare
  · next given =>
    have found : line.attributes.find? (·.isNamed rawValueName) = none := by
      simpa [CaseLine.Carries, Attribute.isNamed] using given
    simp only [CaseLine.leadAssignment, found]
    rw [valued]
    exact variant.hasType_ownName

theorem Declaration.Describes.hasType {declaration : Declaration α} {rawType : String}
    {variant : Variant α} (describes : declaration.Describes rawType variant) :
    ∀ assignment ∈ declaration.assignments, assignment.literal.HasType rawType := by
  intro assignment member
  obtain ⟨line, inside, first, others, variants, ⟨unmarked, rfl⟩ | ⟨other, place, rfl⟩⟩ :=
    Declaration.mem_assignments member
  · have valued := describes.valued line inside 0 (by simp [variants]) (by simp [unmarked])
    exact valued.hasType_lead first
  · -- the line has a further variant, and so values are strings
    have bound : 1 < line.variants.length := by
      have some := List.length_pos_of_mem place
      simp only [variants, List.length_cons]
      omega
    have string : rawType = stringTypeName := by
      simpa [CaseLine.Valued] using describes.valued line inside 1 bound (by simp)
    rw [string]
    exact other.hasType_ownName

/-- The cases are faithful with the catch-all that the declaration marks. -/
def Declaration.Faithful (declaration : Declaration α) : Prop :=
  ∀ line ∈ declaration.body.lines, line.Marks → ∀ variant ∈ line.variants.head?,
    RawMapping.Faithful variant.name.text declaration.assignments

def Expansion.Takes (expansion : Expansion α) (raw : Value) : Prop :=
  ∃ initializer, expansion.initializer? = some initializer ∧ raw.HasType initializer.rawType.name

theorem takes_describedExpansion (tag : α) (typeName rawType catchAll : String) (assignments : List Assignment)
    (raw : Value) :
    (describedExpansion tag typeName rawType catchAll assignments).Takes raw ↔ raw.HasType rawType := by
  constructor
  · rintro ⟨initializer, found, typed⟩
    cases found
    exact typed
  · intro typed
    exact ⟨_, rfl, typed⟩

theorem Declaration.HasCatchAll.faithful_iff {declaration : Declaration α} {rawType : String}
    {line : CaseLine α} {variant : Variant α} (catchAll : declaration.HasCatchAll rawType line variant) :
    declaration.Faithful ↔ RawMapping.Faithful variant.name.text declaration.assignments := by
  have marks : ∀ other, other ∈ declaration.body.lines ∧ other.Marks ↔ other = line := by
    intro other
    rw [← List.mem_singleton, ← catchAll.only]
    simp
  constructor
  · intro faithful
    obtain ⟨member, marked⟩ := (marks line).mpr rfl
    exact faithful line member marked variant catchAll.first
  · intro faithful other member marked first head
    obtain rfl := (marks other).mp ⟨member, marked⟩
    rw [catchAll.first] at head
    cases head
    exact faithful

/-- All raw values survive exactly if the cases are faithful. -/
theorem Declaration.keeps_rawValues_iff (declaration : Declaration α) (settings : Settings)
    (expansion : Expansion (Option α)) (expanded : declaration.expand settings = .ok expansion) :
    (∀ raw, expansion.Takes raw →
      ∃ value, expansion.decode raw = .ok value ∧ expansion.encode value = .ok raw) ↔
        declaration.Faithful := by
  obtain ⟨rawType, variant, formed, rfl⟩ :=
    (declaration.expand_eq_ok_iff_wellFormed settings expansion).mp expanded
  obtain ⟨line, catchAll⟩ := formed.describes.catchAll
  rw [catchAll.faithful_iff]
  simp only [takes_describedExpansion]
  constructor
  · exact faithful_of_keeps formed.describes.hasType
  · exact fun faithful raw typed => faithful.keeps typed

theorem grades_keeps_rawValues :
    ∃ expansion, grades.expand {} = .ok expansion ∧ ∀ raw, expansion.Takes raw →
      ∃ value, expansion.decode raw = .ok value ∧ expansion.encode value = .ok raw := by
  have expanded := (grades.expand_eq_ok_iff_wellFormed {} _).mpr ⟨_, _, grades_wellFormed, rfl⟩
  obtain ⟨line, catchAll⟩ := grades_wellFormed.describes.catchAll
  have readable : ∀ assignment ∈ grades.assignments, ∃ value, assignment.literal.Denotes value :=
    List.forall_mem_cons.mpr ⟨⟨.text "A", rfl⟩, List.forall_mem_singleton.mpr ⟨.text "middle", rfl⟩⟩
  refine ⟨_, expanded, (grades.keeps_rawValues_iff {} _ expanded).mpr ?_⟩
  exact catchAll.faithful_iff.mpr (faithful_of_nodup readable (by decide))

def firstExpansion (source : String) : Option (List Assignment × Option (Expansion (Option Position))) :=
  ((parse source).toOption.bind (·.head?)).map fun declaration =>
    (declaration.assignments, (declaration.expand {}).toOption)

theorem exists_of_firstExpansion {source : String} {assignments : List Assignment}
    {expansion : Expansion (Option Position)}
    (expanded : firstExpansion source = some (assignments, some expansion)) :
    ∃ declarations, ∃ declaration ∈ declarations, parse source = .ok declarations ∧
      declaration.assignments = assignments ∧ declaration.expand {} = .ok expansion := by
  obtain ⟨declaration, first, same⟩ := Option.map_eq_some_iff.mp expanded
  obtain ⟨declarations, parsed, head⟩ := Option.bind_eq_some_iff.mp first
  obtain ⟨rfl, ok⟩ := Prod.mk.inj same
  exact ⟨declarations, declaration, List.mem_of_head? head, toOption_eq_some_iff.mp parsed, rfl,
    toOption_eq_some_iff.mp ok⟩

def repeatedName : String :=
  "@raw_representable[String]\nenum E:\n  @raw_value(\"a\")\n  x\n  @raw_value(\"b\")\n  x\n" ++
    "  @default_case\n  u(String)\n"

def repeatedCases : List Assignment :=
  [⟨"x", .string "a" ()⟩, ⟨"x", .string "b" ()⟩]

/-- Not every declaration that expands keeps all raw values. -/
theorem raw_values_can_be_lost :
    ¬ ∀ (source : String) (declarations : List (Declaration Position)) (declaration : Declaration Position)
        (settings : Settings) (expansion : Expansion (Option Position)), parse source = .ok declarations →
        declaration ∈ declarations → declaration.expand settings = .ok expansion →
        ∀ raw, expansion.Takes raw →
          ∃ value, expansion.decode raw = .ok value ∧ expansion.encode value = .ok raw := by
  intro survive
  obtain ⟨declarations, declaration, member, parsed, -, expanded⟩ :=
    exists_of_firstExpansion (show firstExpansion repeatedName =
      some (repeatedCases, some (describedExpansion none "E" "String" "u" repeatedCases)) by decide +kernel)
  obtain ⟨value, decoded, encoded⟩ := survive repeatedName declarations declaration {} _ parsed member
    expanded (.text "b") ⟨_, rfl, by simp [Value.HasType, stringTypeName]⟩
  have chosen : (describedExpansion (none : Option Position) "E" "String" "u" repeatedCases).decode
      (.text "b") = .ok ⟨"x", []⟩ := rfl
  have answer : (describedExpansion (none : Option Position) "E" "String" "u" repeatedCases).encode
      ⟨"x", []⟩ = .ok (.text "a") := rfl
  rw [chosen] at decoded
  cases decoded
  rw [answer] at encoded
  simp at encoded

end RawMapping
