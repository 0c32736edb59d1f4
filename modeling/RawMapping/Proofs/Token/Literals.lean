import RawMapping.Proofs.Token.Blocks

/-! String literals. A string is written by four replacements, the backslash first, since the others bring
in backslashes of their own. What is written so is read back wherever it stands and up to its own end, so
strings and their literals correspond to each other. -/

set_option autoImplicit false

namespace RawMapping

def replaceChar (c : Char) (replacement text : List Char) : List Char :=
  text.flatMap fun d => if d = c then replacement else [d]

def escapedText (value : List Char) : List Char :=
  let slashes := replaceChar '\\' ['\\', '\\'] value
  let quotes := replaceChar '"' ['\\', '"'] slashes
  let feeds := replaceChar '\n' ['\\', 'n'] quotes
  replaceChar '\t' ['\\', 't'] feeds

theorem replaceChar_append (c : Char) (replacement first second : List Char) :
    replaceChar c replacement (first ++ second) =
      replaceChar c replacement first ++ replaceChar c replacement second :=
  List.flatMap_append

theorem escapedText_append (first second : List Char) :
    escapedText (first ++ second) = escapedText first ++ escapedText second := by
  simp only [escapedText, replaceChar_append]

/-- On one character no replacement meets what an earlier one brought in. -/
theorem escapedText_singleton (c : Char) : escapedText [c] = escapeChar c := by
  unfold escapeChar
  split
  · next slash => subst slash; decide
  · next slash =>
    split
    · next quote => subst quote; decide
    · next quote =>
      split
      · next feed => subst feed; decide
      · next feed =>
        split
        · next tab => subst tab; decide
        · next tab => simp [escapedText, replaceChar, slash, quote, feed, tab]

/-- Replacing one character after another comes to the same as escaping each character on its own. -/
theorem escapedText_eq (value : List Char) : escapedText value = value.flatMap escapeChar := by
  induction value with
  | nil => rfl
  | cons c value ih =>
    rw [← List.singleton_append, escapedText_append, escapedText_singleton, ih]
    rfl

theorem ScanState.round_of_quoted (state : ScanState) (value : String) (rest : List Char) :
    ({ state with rest := (quoteString value).toList ++ rest, lineStart := false } : ScanState).round =
      .advanced [⟨.string value, state.position⟩]
        { state with
          rest
          position := state.position.after (quoteString value).toList
          lineStart := false
          lineOpen := true } := by
  have read := Lexeme.read_string value rest
  have stop : isSpace state.depth '"' = false := by simp [isSpace]
  have split : (quoteString value).toList ++ rest =
      [] ++ '"' :: (value.toList.flatMap escapeChar ++ '"' :: rest) := by
    simp [toList_quoteString]
  apply ScanState.round_of_turn
  -- how the string is written does not matter from here on
  generalize (quoteString value).toList = written at read split
  exact @ScanState.Turn.lexeme { state with rest := written ++ rest, lineStart := false } [] _ '"' _ rfl split
    (List.forall_mem_nil _) stop (by decide) read

theorem quoteString_inj {first second : String} : quoteString first = quoteString second ↔ first = second :=
  ⟨fun same => quoteString_injective same, congrArg quoteString⟩

/-- A string is written between quotes by the four replacements. From behind its opening quote it is read
back up to the closing one, whatever follows and in whatever state the scanner is, and the scanner goes on
right behind it. So a written string, or the text of a literal, tells the string. -/
theorem literals_are_read_back (value : String) :
    (quoteString value).toList = '"' :: escapedText value.toList ++ ['"'] ∧
      (∀ rest, readString (escapedText value.toList ++ '"' :: rest) =
        some ⟨value.toList, escapedText value.toList ++ ['"'], rest⟩) ∧
      (∀ (state : ScanState) (rest : List Char),
        ({ state with rest := (quoteString value).toList ++ rest, lineStart := false } : ScanState).round =
          .advanced [⟨.string value, state.position⟩]
            { state with
              rest
              position := state.position.after (quoteString value).toList
              lineStart := false
              lineOpen := true }) ∧
      ∀ other : String, (quoteString value = quoteString other ↔ value = other) ∧
        ∀ (α : Type) (tag place : α),
          (Literal.string value tag).text = (Literal.string other place).text ↔ value = other := by
  refine ⟨?_, fun rest => ?_, fun state rest => state.round_of_quoted value rest, fun other => ?_⟩
  · rw [escapedText_eq, toList_quoteString, List.cons_append]
  · rw [escapedText_eq]
    exact readString_escaped value.toList rest
  · exact ⟨quoteString_inj, fun α tag place => quoteString_inj⟩

end RawMapping
