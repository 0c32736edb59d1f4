import Mathlib.Logic.Basic
import RawMapping.Proofs.Token.Quoting

/-! What lexemes are read from a written symbol, and which symbols can be read at all. A name, a number
or a placeholder is read as far as its own characters go, so what follows it must begin with another
character. -/

set_option autoImplicit false

namespace RawMapping

def IsIdentifier (name : String) : Prop :=
  ∃ c rest, name.toList = c :: rest ∧ Lexeme.read c rest = .ok ⟨.identifier name, c :: rest, []⟩

def IsNumber (digits : String) : Prop :=
  digits.toList ≠ [] ∧ ∀ c ∈ digits.toList, Text.isDigit c = true

def IsLabel (label : String) : Prop :=
  '\n' ∉ label.toList ∧ ¬ ['#', '>'] <:+: label.toList

/-- What follows a name or a number: nothing that could belong to it. -/
def Stops (rest : List Char) : Prop :=
  ∀ c ∈ rest.head?, isWordChar c = false ∧ Text.isDigit c = false

@[simp] theorem stops_nil : Stops [] := by
  simp [Stops]

@[simp] theorem stops_cons (c : Char) (rest : List Char) :
    Stops (c :: rest) ↔ isWordChar c = false ∧ Text.isDigit c = false := by
  simp [Stops]

theorem Stops.append {first second : List Char} (left : Stops first) (right : Stops second) :
    Stops (first ++ second) := by
  cases first with
  | nil => exact right
  | cons c first => simpa using left

theorem takeWhile_of_stop {α : Type} {class? : α → Bool} {word rest : List α}
    (inside : ∀ c ∈ word, class? c = true) (stop : ∀ c ∈ rest.head?, class? c = false) :
    (word ++ rest).takeWhile class? = word := by
  rw [List.takeWhile_append_of_pos inside]
  cases rest with
  | nil => simp
  | cons c rest => simp [stop c (by simp)]

theorem dropWhile_of_stop {α : Type} {class? : α → Bool} {word rest : List α}
    (inside : ∀ c ∈ word, class? c = true) (stop : ∀ c ∈ rest.head?, class? c = false) :
    (word ++ rest).dropWhile class? = rest := by
  rw [List.dropWhile_append_of_pos inside]
  cases rest with
  | nil => simp
  | cons c rest => simp [stop c (by simp)]

/-! ### Reading what is written -/

theorem Lexeme.run_eq {class? : Char → Bool} (symbol : String → Symbol) {word rest : List Char}
    (inside : ∀ c ∈ word, class? c = true) (stop : ∀ c ∈ rest.head?, class? c = false) :
    Lexeme.run class? symbol (word ++ rest) = ⟨symbol (String.ofList word), word, rest⟩ := by
  simp only [Lexeme.run, takeWhile_of_stop inside stop, dropWhile_of_stop inside stop]

theorem ne_quote_of_isWordStart {c : Char} (start : isWordStart c = true) : c ≠ '"' := by
  rintro rfl
  revert start
  decide

theorem ne_quote_of_isDigit {c : Char} (digit : Text.isDigit c = true) : c ≠ '"' := by
  rintro rfl
  revert digit
  decide

theorem Lexeme.read_word {c : Char} {word rest : List Char} (start : isWordStart c = true)
    (digit : Text.isDigit c = false) (inside : ∀ d ∈ word, isWordChar d = true) (stop : Stops rest) :
    Lexeme.read c (word ++ rest) =
      .ok ⟨.ofWord (String.ofList (c :: word)), c :: word, rest⟩ := by
  have whole : ∀ d ∈ c :: word, isWordChar d = true := by
    simpa [isWordChar_of_isWordStart start] using inside
  have run := Lexeme.run_eq Symbol.ofWord whole (fun d member => (stop d member).1)
  rw [List.cons_append] at run
  simp [Lexeme.read, ne_quote_of_isWordStart start, digit, start, run]

theorem Lexeme.read_number {c : Char} {digits rest : List Char} (start : Text.isDigit c = true)
    (inside : ∀ d ∈ digits, Text.isDigit d = true) (stop : Stops rest) :
    Lexeme.read c (digits ++ rest) =
      .ok ⟨.number (String.ofList (c :: digits)), c :: digits, rest⟩ := by
  have whole : ∀ d ∈ c :: digits, Text.isDigit d = true := by simpa [start] using inside
  have run := Lexeme.run_eq Symbol.number whole (fun d member => (stop d member).2)
  rw [List.cons_append] at run
  simp [Lexeme.read, ne_quote_of_isDigit start, start, run]

theorem Lexeme.read_string (value : String) (rest : List Char) :
    Lexeme.read '"' (value.toList.flatMap escapeChar ++ '"' :: rest) =
      .ok ⟨.string value, (quoteString value).toList, rest⟩ := by
  simp [Lexeme.read, readString_escaped, toList_quoteString]

theorem readLabel_written {label : List Char} (rest : List Char) (line : '\n' ∉ label)
    (mark : ¬ ['#', '>'] <:+: label) :
    readLabel (label ++ '#' :: '>' :: rest) = some ⟨label, label ++ ['#', '>'], rest⟩ := by
  induction label with
  | nil => simp [readLabel]
  | cons c label ih =>
    have unclosed : ¬ (c = '#' ∧ (label ++ '#' :: '>' :: rest).head? = some '>') := by
      rintro ⟨rfl, next⟩
      cases label with
      | nil => simp at next
      | cons d label =>
        simp only [List.cons_append, List.head?_cons, Option.some.injEq] at next
        exact mark ⟨[], label, by simp [next]⟩
    have inner := ih (fun member => line (List.mem_cons_of_mem _ member))
      (fun inside => mark (inside.trans (List.suffix_cons c label).isInfix))
    have feed : c ≠ '\n' := fun same => line (by simp [same])
    rw [List.cons_append, readLabel, if_neg unclosed, if_neg feed, inner]
    rfl

theorem Lexeme.read_placeholder {label : String} (written : IsLabel label) (rest : List Char) :
    Lexeme.read '<' ('#' :: label.toList ++ '#' :: '>' :: rest) =
      .ok ⟨.placeholder label, '<' :: '#' :: label.toList ++ ['#', '>'], rest⟩ := by
  have digit : Text.isDigit '<' = false := by decide
  have start : isWordStart '<' = false := by decide
  simp [Lexeme.read, digit, start, readLabel_written rest written.1 written.2]

def Symbol.marks : List (Char × Symbol) :=
  [('@', .atSign), (':', .colon), (',', .comma), ('(', .openParen), (')', .closeParen),
    ('[', .openBracket), (']', .closeBracket), ('=', .equals), ('-', .minus), ('\n', .newline)]

theorem Symbol.mem_marks {c : Char} {symbol : Symbol} (known : Symbol.ofChar? c = some symbol) :
    (c, symbol) ∈ Symbol.marks := by
  unfold Symbol.ofChar? at known
  iterate 10
    rcases ite_eq_iff.mp known with ⟨rfl, same⟩ | ⟨-, known⟩
    · cases same
      decide
  cases known

theorem Lexeme.read_char {c : Char} {symbol : Symbol} (known : Symbol.ofChar? c = some symbol)
    (rest : List Char) : Lexeme.read c rest = .ok ⟨symbol, [c], rest⟩ := by
  have plain : ∀ mark ∈ Symbol.marks, mark.1 ≠ '"' ∧ Text.isDigit mark.1 = false ∧
      isWordStart mark.1 = false ∧ mark.1 ≠ '<' := by
    decide
  obtain ⟨quote, digit, start, angle⟩ := plain _ (Symbol.mem_marks known)
  simp [Lexeme.read, quote, digit, start, angle, known]

/-! ### What can be read -/

theorem Lexeme.read_cases {c : Char} {rest : List Char} {lexeme : Lexeme}
    (read : Lexeme.read c rest = .ok lexeme) :
    (∃ string, readString rest = some string ∧
      lexeme = ⟨.string (String.ofList string.value), '"' :: string.written, string.rest⟩) ∨
    (Text.isDigit c = true ∧ lexeme = .run Text.isDigit .number (c :: rest)) ∨
    (isWordStart c = true ∧ Text.isDigit c = false ∧ lexeme = .run isWordChar .ofWord (c :: rest)) ∨
    (∃ label, readLabel rest.tail = some label ∧
      lexeme = ⟨.placeholder (String.ofList label.value), '<' :: '#' :: label.written, label.rest⟩) ∨
    (∃ symbol, Symbol.ofChar? c = some symbol ∧ lexeme = ⟨symbol, [c], rest⟩) := by
  unfold Lexeme.read at read
  split at read
  · next quote =>
    subst quote
    split at read
    · next string found => cases read; exact .inl ⟨string, found, rfl⟩
    · cases read
  · split at read
    · next digit => cases read; exact .inr (.inl ⟨digit, rfl⟩)
    · next digit =>
      split at read
      · next start => cases read; exact .inr (.inr (.inl ⟨start, by simpa using digit, rfl⟩))
      · split at read
        · split at read
          · next label found => cases read; exact .inr (.inr (.inr (.inl ⟨label, found, rfl⟩)))
          · cases read
        · split at read
          · next symbol known => cases read; exact .inr (.inr (.inr (.inr ⟨symbol, known, rfl⟩)))
          · cases read

theorem Symbol.ofWord_eq_identifier_iff (word name : String) :
    Symbol.ofWord word = .identifier name ↔ DeclKind.ofText? word = none ∧ word = name := by
  unfold Symbol.ofWord
  cases DeclKind.ofText? word with
  | none => simp
  | some kind => simp

theorem Symbol.ofChar?_ne_identifier (c : Char) (name : String) :
    Symbol.ofChar? c ≠ some (.identifier name) := by
  intro known
  have mark := Symbol.mem_marks known
  simp [Symbol.marks] at mark

/-- An identifier begins with a letter or an underscore, goes on with word characters and is no
keyword. -/
theorem isIdentifier_iff (name : String) :
    IsIdentifier name ↔ ∃ c word, name.toList = c :: word ∧ isWordStart c = true ∧
      Text.isDigit c = false ∧ (∀ d ∈ word, isWordChar d = true) ∧ DeclKind.ofText? name = none := by
  constructor
  · rintro ⟨c, word, text, read⟩
    rcases Lexeme.read_cases read with ⟨_, _, same⟩ | ⟨_, same⟩ | ⟨start, digit, same⟩ | ⟨_, _, same⟩ |
      ⟨symbol, known, same⟩
    · cases same
    · simp [Lexeme.run] at same
    · simp only [Lexeme.run, Lexeme.mk.injEq] at same
      obtain ⟨symbol, written, rest⟩ := same
      have inside : ∀ d ∈ c :: word, isWordChar d = true := by
        intro d member
        rw [written] at member
        exact List.all_eq_true.mp List.all_takeWhile d member
      have keyword := ((Symbol.ofWord_eq_identifier_iff _ name).mp symbol.symm).1
      rw [← written, ← text, String.ofList_toList] at keyword
      exact ⟨c, word, text, start, digit, fun d member => inside d (by simp [member]), keyword⟩
    · cases same
    · simp only [Lexeme.mk.injEq] at same
      rw [← same.1] at known
      exact absurd known (Symbol.ofChar?_ne_identifier c name)
  · rintro ⟨c, word, text, start, digit, inside, keyword⟩
    refine ⟨c, word, text, ?_⟩
    have read := Lexeme.read_word start digit inside stops_nil
    rw [List.append_nil, ← text, String.ofList_toList] at read
    rw [read, (Symbol.ofWord_eq_identifier_iff name name).mpr ⟨keyword, rfl⟩, text]

def Symbol.WellWritten : Symbol → Prop
  | .identifier name => IsIdentifier name
  | .number digits => IsNumber digits
  | .placeholder label => IsLabel label
  | _ => True

theorem Symbol.wellWritten_ofChar? {c : Char} {symbol : Symbol}
    (known : Symbol.ofChar? c = some symbol) : symbol.WellWritten := by
  have all : ∀ mark ∈ Symbol.marks, mark.2.WellWritten := by
    simp [Symbol.marks, Symbol.WellWritten]
  exact all _ (Symbol.mem_marks known)

theorem Symbol.wellWritten_ofWord {c : Char} {word : List Char} (start : isWordStart c = true)
    (digit : Text.isDigit c = false) (inside : ∀ d ∈ word, isWordChar d = true) :
    (Symbol.ofWord (String.ofList (c :: word))).WellWritten := by
  cases keyword : DeclKind.ofText? (String.ofList (c :: word)) with
  | some kind => simp only [Symbol.ofWord, keyword, WellWritten]
  | none =>
    simp only [Symbol.ofWord, keyword, WellWritten]
    exact (isIdentifier_iff _).mpr ⟨c, word, by simp, start, digit, inside, keyword⟩

theorem readLabel_head {text : List Char} {label : Reading} (read : readLabel text = some label)
    {c : Char} (first : label.value.head? = some c) : text.head? = some c := by
  cases text with
  | nil => simp [readLabel] at read
  | cons d text =>
    rw [readLabel] at read
    split at read
    · cases read; simp at first
    · split at read
      · cases read
      · obtain ⟨inner, -, rfl⟩ := Option.map_eq_some_iff.mp read
        simpa [Reading.push] using first

theorem isLabel_of_readLabel {text : List Char} {label : Reading} (read : readLabel text = some label) :
    '\n' ∉ label.value ∧ ¬ ['#', '>'] <:+: label.value := by
  fun_induction readLabel text generalizing label with
  | case1 => cases read
  | case2 => cases read; simp
  | case3 => cases read
  | case4 c rest unclosed feed ih =>
    obtain ⟨inner, found, rfl⟩ := Option.map_eq_some_iff.mp read
    obtain ⟨line, mark⟩ := ih found
    refine ⟨by simpa [Reading.push, Ne.symm feed] using line, ?_⟩
    intro inside
    rcases List.infix_cons_iff.mp inside with start | later
    · -- the closing mark cannot start here, since reading would have stopped
      obtain ⟨rfl, next⟩ := List.cons_prefix_cons.mp start
      obtain ⟨after, same⟩ := next
      exact unclosed ⟨rfl, readLabel_head found (by simp [← same])⟩
    · exact mark later

theorem Lexeme.wellWritten {c : Char} {rest : List Char} {lexeme : Lexeme}
    (read : Lexeme.read c rest = .ok lexeme) : lexeme.symbol.WellWritten := by
  rcases Lexeme.read_cases read with ⟨_, _, rfl⟩ | ⟨digit, rfl⟩ | ⟨start, digit, rfl⟩ |
    ⟨label, found, rfl⟩ | ⟨symbol, known, rfl⟩
  · trivial
  · refine ⟨by simp [digit], ?_⟩
    intro d member
    rw [String.toList_ofList] at member
    exact List.all_eq_true.mp List.all_takeWhile d member
  · rw [Lexeme.run, List.takeWhile_cons_of_pos (isWordChar_of_isWordStart start)]
    exact Symbol.wellWritten_ofWord start digit (List.all_eq_true.mp List.all_takeWhile)
  · simpa [Symbol.WellWritten, IsLabel] using isLabel_of_readLabel found
  · exact Symbol.wellWritten_ofChar? known

end RawMapping
