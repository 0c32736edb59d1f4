import RawMapping.Proofs.Declaration.Accepted
import RawMapping.Proofs.Declaration.Layout
import RawMapping.Proofs.Declaration.Reading

/-! Printing and reading. The declarations that can be printed are those that can be read, and printing
loses nothing but the tags. -/

set_option autoImplicit false

namespace RawMapping

variable {α : Type}

/-- Without declarations there is still the end of one empty line. -/
theorem readDeclarations_empty (tokens : List Token)
    (written : tokens.map (·.symbol) = [.newline, .eof]) : readDeclarations tokens = .ok [] := by
  obtain ⟨position, later, rfl, laterWritten⟩ := tokens_eq_cons written
  obtain ⟨endPosition, rfl⟩ := tokens_eq_singleton laterWritten
  rw [readDeclarations]
  simp [skipNewlines, current]

theorem parse_declarationsText {declarations : List (Declaration α)}
    (printable : ∀ declaration ∈ declarations, declaration.Printable) :
    ∃ read, parse (declarationsText declarations) = .ok read ∧
      read.map Declaration.shape = declarations.map Declaration.shape := by
  obtain ⟨tokens, scanned, written⟩ := scan_declarationsText printable
  rw [parse, scanned, ok_bind]
  cases declarations with
  | nil => exact ⟨[], readDeclarations_empty tokens written, rfl⟩
  | cons declaration declarations => exact readDeclarations_written printable written

/-- Printable declarations read back as they are, and only such declarations are ever read. -/
theorem printing_roundTrip :
    (∀ (α : Type) (declarations : List (Declaration α)),
      (∀ declaration ∈ declarations, declaration.Printable) →
        ∃ read, parse (declarationsText declarations) = .ok read ∧
          read.map Declaration.shape = declarations.map Declaration.shape) ∧
    ∀ (source : String) (declarations : List (Declaration Position)),
      parse source = .ok declarations → ∀ declaration ∈ declarations, declaration.Printable :=
  ⟨fun _ _ printable => parse_declarationsText printable, fun _ _ read => printable_of_parse read⟩

/-- An enumeration with a label, a negative number, a string with a quote and a line feed, a
placeholder and an empty payload. -/
def signals : Declaration Unit :=
  ⟨.enumKind, ⟨"Signal", ()⟩,
    [⟨⟨"raw_representable", ()⟩, [⟨"Int", ()⟩], [⟨some "case_name", .string "a\"b\n" (), ()⟩], ()⟩],
    ⟨[⟨[⟨⟨"raw_value", ()⟩, [], [⟨none, .integer "-07" (), ()⟩], ()⟩],
        [⟨⟨"red", ()⟩, none, ()⟩, ⟨⟨"off", ()⟩, some [], ()⟩], ()⟩,
      ⟨[⟨⟨"raw_value", ()⟩, [], [⟨none, .placeholder "value" (), ()⟩], ()⟩],
        [⟨⟨"other", ()⟩, some [⟨some "code", ⟨"Int", ()⟩, ()⟩], ()⟩], ()⟩], ()⟩, ()⟩

theorem signals_printable : signals.Printable where
  name := ⟨_, _, rfl, rfl⟩
  attributes := List.forall_mem_singleton.mpr
    { name := ⟨_, _, rfl, rfl⟩
      typeArguments := List.forall_mem_singleton.mpr ⟨_, _, rfl, rfl⟩
      arguments := List.forall_mem_singleton.mpr ⟨by rintro _ ⟨⟩; exact ⟨_, _, rfl, rfl⟩, trivial⟩ }
  body := fun other => absurd rfl other
  lines := by
    have rawValue : IsIdentifier "raw_value" := ⟨_, _, rfl, rfl⟩
    have number : IsInteger "-07" := ⟨"07", ⟨by decide, List.all_eq_true.mp (by decide)⟩, .inr rfl⟩
    have label : IsLabel "value" := by
      refine ⟨by decide, ?_⟩
      simp [List.infix_cons_iff]
    refine List.forall_mem_cons.mpr ⟨?_, List.forall_mem_singleton.mpr ?_⟩
    · refine ⟨List.forall_mem_singleton.mpr ⟨rawValue, List.forall_mem_nil _,
        List.forall_mem_singleton.mpr ⟨by simp, number⟩⟩, by simp, ?_⟩
      refine List.forall_mem_cons.mpr ⟨⟨⟨_, _, rfl, rfl⟩, by simp⟩, List.forall_mem_singleton.mpr ?_⟩
      exact ⟨⟨_, _, rfl, rfl⟩, by simp⟩
    · refine ⟨List.forall_mem_singleton.mpr ⟨rawValue, List.forall_mem_nil _,
        List.forall_mem_singleton.mpr ⟨by simp, label⟩⟩, by simp, ?_⟩
      refine List.forall_mem_singleton.mpr ⟨⟨_, _, rfl, rfl⟩, ?_⟩
      rintro _ ⟨⟩
      refine List.forall_mem_singleton.mpr ⟨?_, ⟨_, _, rfl, rfl⟩⟩
      rintro _ ⟨⟩
      exact ⟨_, _, rfl, rfl⟩

theorem signals_roundTrip :
    ∃ read, parse (declarationsText [signals]) = .ok read ∧
      read.map Declaration.shape = [signals.shape] ∧
      ∀ declaration ∈ read, declaration.Printable := by
  obtain ⟨read, parsed, same⟩ := printing_roundTrip.1 Unit [signals]
    (List.forall_mem_singleton.mpr signals_printable)
  exact ⟨read, parsed, same, printing_roundTrip.2 _ read parsed⟩

end RawMapping
