import RawMapping.Proofs.Declaration.Accepted
import RawMapping.Proofs.Text.Numeral
import RawMapping.Proofs.Value.Survival

/-! Enumerations over integers. The literals of such an enumeration are compared as they are written, but
decoding compares what they denote. So cases are uniquely valued exactly if their literals are decimal
and have different canonical numerals. -/

set_option autoImplicit false

namespace RawMapping

variable {α : Type} {tag : α}

/-! ### Literals of a printable declaration -/

theorem Literal.Printable.bare {literal : Literal α} (printable : literal.Printable) :
    literal.bare.Printable := by
  cases literal with
  | string value _ => trivial
  | integer text _ => exact printable
  | placeholder label _ => exact printable

theorem CaseLine.Printable.lead {line : CaseLine α} (printable : line.Printable) (variant : Variant α) :
    (line.leadAssignment variant).literal.Printable := by
  unfold CaseLine.leadAssignment
  split
  · next name types argument others tag found =>
    have attr := printable.attributes _ (List.mem_of_find?_eq_some found)
    exact (attr.arguments argument (by simp)).value.bare
  · trivial

theorem Declaration.Printable.assignments {declaration : Declaration α}
    (printable : declaration.Printable) :
    ∀ assignment ∈ declaration.assignments, assignment.literal.Printable := by
  intro assignment member
  obtain ⟨line, inside, first, others, -, ⟨-, rfl⟩ | ⟨other, -, rfl⟩⟩ :=
    Declaration.mem_assignments member
  · exact (printable.lines line inside).lead first
  · trivial

/-! ### Literals and integers -/

theorem Literal.HasType.eq_integer {literal : Literal Unit} {rawType : String}
    (typed : literal.HasType rawType) (number : rawType ≠ stringTypeName) :
    literal = .integer literal.text () := by
  rw [Literal.HasType, if_neg number] at typed
  obtain ⟨text, tag, rfl⟩ := typed
  rfl

theorem Literal.denotes_int_iff (text : String) (number : Int) :
    (Literal.integer text ()).Denotes (.int number) ↔ Text.readInteger text = .ok number := by
  simp only [Literal.Denotes, Literal.value?]
  cases Text.readInteger text with
  | ok value => simp
  | error fault => simp

/-- All literals denote integers, and different cases denote different ones. -/
structure UniquelyValued (assignments : List Assignment) : Prop where
  denotes : ∀ assignment ∈ assignments, ∃ number : Int, assignment.literal.Denotes (.int number)
  distinct : assignments.Pairwise fun first second =>
    ∀ number : Int, first.literal.Denotes (.int number) → ¬ second.literal.Denotes (.int number)

theorem uniquelyValued_iff {assignments : List Assignment} {rawType : String}
    (number : rawType ≠ stringTypeName)
    (typed : ∀ assignment ∈ assignments, assignment.literal.HasType rawType)
    (printable : ∀ assignment ∈ assignments, assignment.literal.Printable) :
    UniquelyValued assignments ↔
      (∀ assignment ∈ assignments, Text.IsDecimal assignment.literal.text) ∧
        (assignments.map fun assignment => Text.canonical assignment.literal.text).Nodup := by
  -- the texts are written integers, so that what they denote depends on their digits only
  have integer : ∀ assignment ∈ assignments, IsInteger assignment.literal.text := by
    intro assignment member
    have written := printable assignment member
    rw [(typed assignment member).eq_integer number] at written
    exact written
  have denotes : ∀ assignment ∈ assignments, ∀ value : Int, assignment.literal.Denotes (.int value) ↔
      Text.readInteger assignment.literal.text = .ok value := by
    intro assignment member value
    rw [← Literal.denotes_int_iff, ← (typed assignment member).eq_integer number]
  have readable : (∀ assignment ∈ assignments, ∃ value : Int, assignment.literal.Denotes (.int value)) ↔
      ∀ assignment ∈ assignments, Text.IsDecimal assignment.literal.text := by
    refine forall₂_congr fun assignment member => ?_
    rw [← Text.exists_readInteger_iff (integer assignment member)]
    exact exists_congr (denotes assignment member)
  constructor
  · rintro ⟨numbers, distinct⟩
    have decimal := readable.mp numbers
    refine ⟨decimal, ?_⟩
    rw [List.Nodup, List.pairwise_map]
    refine distinct.imp_of_mem ?_
    intro first second member member' differ same
    rw [← Text.readInteger_eq_iff (integer first member) (integer second member')
      (decimal first member) (decimal second member')] at same
    obtain ⟨value, denoted⟩ := numbers first member
    exact differ value denoted
      ((denotes second member' value).mpr (same ▸ (denotes first member value).mp denoted))
  · rintro ⟨decimal, distinct⟩
    refine ⟨readable.mpr decimal, ?_⟩
    rw [List.Nodup, List.pairwise_map] at distinct
    refine distinct.imp_of_mem ?_
    intro first second member member' differ value left right
    apply differ
    rw [← Text.readInteger_eq_iff (integer first member) (integer second member')
      (decimal first member) (decimal second member')]
    rw [(denotes first member value).mp left, (denotes second member' value).mp right]

/-! ### Arms that can be reached -/

def Taken (subject : Value) (before : List (MatchArm α)) (arm : MatchArm α) : Prop :=
  (∀ other ∈ before, other.pattern.bindings? subject = .ok none) ∧
    ∃ bound, arm.pattern.bindings? subject = .ok (some bound)

/-- Every arm is taken for some integer. -/
def Branch.Reachable (branch : Branch α) : Prop :=
  ∀ before arm after, branch.arms = before ++ arm :: after →
    ∃ number : Int, Taken (.int number) before arm

/-- A split of a list with a last element is one of the list or ends before that element. -/
theorem append_singleton_eq {β : Type} {items before after : List β} {last item : β}
    (split : items ++ [last] = before ++ item :: after) :
    (items = before ∧ last = item) ∨ ∃ between, items = before ++ item :: between := by
  rcases List.eq_nil_or_concat after with rfl | ⟨between, end', rfl⟩
  · obtain ⟨same, ends⟩ := List.append_inj' split rfl
    cases ends
    exact .inl ⟨same, rfl⟩
  · rw [List.concat_eq_append, ← List.cons_append, ← List.append_assoc] at split
    exact .inr ⟨between, (List.append_inj' split rfl).1⟩

theorem UniquelyValued.reachable {assignments : List Assignment} (unique : UniquelyValued assignments)
    (subject : String) (outcome : Outcome α) :
    Branch.Reachable ⟨⟨subject, tag⟩, assignments.map (Assignment.decodeArm tag) ++ [⟨.wildcard tag, outcome, tag⟩], tag⟩ := by
  intro before arm after split
  rcases append_singleton_eq split with ⟨rfl, rfl⟩ | ⟨between, same⟩
  · -- the last arm takes an integer that no literal denotes
    have readable : ∀ assignment ∈ assignments, ∃ value, assignment.literal.Denotes value := by
      intro assignment member
      obtain ⟨number, denotes⟩ := unique.denotes assignment member
      exact ⟨_, denotes⟩
    obtain ⟨raw, typed, differ⟩ := exists_unassigned "Int" readable
    obtain ⟨number, rfl⟩ : ∃ number, raw = .int number := by
      simpa [Value.HasType, stringTypeName] using typed
    refine ⟨number, ?_, [], rfl⟩
    intro other member
    obtain ⟨assignment, inside, rfl⟩ := List.mem_map.mp member
    obtain ⟨value, denotes, differs⟩ := differ assignment inside
    exact Assignment.decodeArm_differs denotes differs
  · -- any other arm takes what its own literal denotes
    obtain ⟨first, others, rfl, rfl, later⟩ := List.map_eq_append_iff.mp same
    obtain ⟨assignment, last, rfl, rfl, -⟩ := List.map_eq_cons_iff.mp later
    obtain ⟨number, denotes⟩ := unique.denotes assignment (by simp)
    refine ⟨number, ?_, ?_⟩
    · intro other member
      obtain ⟨earlier, inside, rfl⟩ := List.mem_map.mp member
      obtain ⟨value, denoted⟩ := unique.denotes earlier (by simp [inside])
      refine Assignment.decodeArm_differs denoted ?_
      rintro ⟨rfl⟩
      have distinct := (List.pairwise_append.mp unique.distinct).2.2 earlier inside assignment (by simp)
      exact distinct _ denoted denotes
    · rw [Literal.Denotes] at denotes
      simp [Assignment.decodeArm, Pattern.bindings?, denotes, Value.isRaw]

/-! ### Declarations -/

/-- The cases of an enumeration over integers have different integers, and all of their arms can be
reached, exactly if their literals are decimal and no two have the same canonical numeral. -/
theorem integer_cases_unique_iff {source : String} {declarations : List (Declaration Position)}
    {declaration : Declaration Position} {settings : Settings}
    {expansion : Expansion (Option Position)} {initializer : Initializer (Option Position)}
    (parsed : parse source = .ok declarations)
    (member : declaration ∈ declarations) (expanded : declaration.expand settings = .ok expansion)
    (found : expansion.initializer? = some initializer) (number : initializer.rawType.name ≠ stringTypeName) :
    UniquelyValued declaration.assignments ∧ initializer.body.Reachable ↔
      (∀ assignment ∈ declaration.assignments, Text.IsDecimal assignment.literal.text) ∧
        (declaration.assignments.map fun assignment =>
          Text.canonical assignment.literal.text).Nodup := by
  have printable := (printable_of_parse parsed declaration member).assignments
  obtain ⟨rawType, variant, formed, rfl⟩ :=
    (declaration.expand_eq_ok_iff_wellFormed settings expansion).mp expanded
  cases found
  rw [← uniquelyValued_iff number formed.describes.hasType printable]
  exact ⟨And.left, fun unique => ⟨unique, unique.reachable _ _⟩⟩

def signedCases : String :=
  "@raw_representable[Int]\nenum E:\n  @raw_value(7)\n  x\n  @raw_value(-07)\n  y\n" ++
    "  @default_case\n  u(Int)\n"

theorem signedCases_unique :
    ∃ declarations, ∃ declaration ∈ declarations, ∃ expansion initializer,
      parse signedCases = .ok declarations ∧ declaration.expand {} = .ok expansion ∧
      expansion.initializer? = some initializer ∧ initializer.rawType.name ≠ stringTypeName ∧
      UniquelyValued declaration.assignments ∧ initializer.body.Reachable := by
  obtain ⟨declarations, declaration, member, parsed, same, expanded⟩ :=
    exists_of_firstExpansion (show firstExpansion signedCases =
      some ([⟨"x", .integer "7" ()⟩, ⟨"y", .integer "-07" ()⟩],
        some (describedExpansion none "E" "Int" "u" [⟨"x", .integer "7" ()⟩, ⟨"y", .integer "-07" ()⟩])) by
      decide +kernel)
  have number : "Int" ≠ stringTypeName := by decide
  refine ⟨declarations, declaration, member, _, _, parsed, expanded, rfl, number,
    (integer_cases_unique_iff parsed member expanded rfl number).mpr ?_⟩
  rw [same]
  decide +kernel

def superscriptCase : String :=
  "@raw_representable[Int]\nenum E:\n  @raw_value(²)\n  x\n  @default_case\n  u(Int)\n"

/-- Not every enumeration over integers that expands is uniquely valued. -/
theorem integer_cases_can_be_unreadable :
    ¬ ∀ (source : String) (declarations : List (Declaration Position))
        (declaration : Declaration Position) (settings : Settings)
        (expansion : Expansion (Option Position)) (initializer : Initializer (Option Position)), parse source = .ok declarations → declaration ∈ declarations →
        declaration.expand settings = .ok expansion → expansion.initializer? = some initializer →
        initializer.rawType.name ≠ stringTypeName →
          UniquelyValued declaration.assignments ∧ initializer.body.Reachable := by
  intro unique
  obtain ⟨declarations, declaration, member, parsed, same, expanded⟩ :=
    exists_of_firstExpansion (show firstExpansion superscriptCase =
      some ([⟨"x", .integer "²" ()⟩],
        some (describedExpansion none "E" "Int" "u" [⟨"x", .integer "²" ()⟩])) by decide +kernel)
  have denotes := (unique superscriptCase declarations declaration {} _ _ parsed member expanded rfl
    (by decide)).1.denotes
  rw [same] at denotes
  obtain ⟨number, denoted⟩ := denotes _ (List.mem_singleton.mpr rfl)
  rw [Literal.denotes_int_iff] at denoted
  have unreadable : Text.readInteger "²" = .error (.malformed "²") := rfl
  rw [unreadable] at denoted
  cases denoted

end RawMapping
