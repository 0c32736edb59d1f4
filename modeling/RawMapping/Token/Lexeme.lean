import RawMapping.Text.CharSet
import RawMapping.Text.Letters
import RawMapping.Token.Fault

/-! Lexemes: a symbol read off the front of a text, together with how it is written and what
follows it. -/

set_option autoImplicit false

namespace RawMapping

def isWordChar (c : Char) : Bool :=
  Text.isLetter c || Text.isNumeric c || c == '_'

def isWordStart (c : Char) : Bool :=
  Text.isLetter c || c == '_'

theorem isWordChar_of_isWordStart {c : Char} (h : isWordStart c = true) : isWordChar c = true := by
  simp only [isWordStart, isWordChar, Bool.or_eq_true] at h ⊢
  rcases h with h | h
  · exact .inl (.inl h)
  · exact .inr h

/-- What a character stands for after a backslash; all but two stand for themselves. -/
def unescape (c : Char) : Char :=
  if c = 'n' then '\n' else if c = 't' then '\t' else c

/-- A value read off the front of a text: the value, the characters that write it and those left. -/
structure Reading where
  value : List Char
  written : List Char
  rest : List Char
  deriving DecidableEq, Repr

def Reading.push (value : Char) (written : List Char) (reading : Reading) : Reading :=
  ⟨value :: reading.value, written ++ reading.written, reading.rest⟩

/-- The value of a string literal, from behind its opening quote through its closing one. A string
ends at a line feed unless that is escaped. -/
def readString : List Char → Option Reading
  | [] => none
  | c :: rest =>
    if c = '"' then some ⟨[], [c], rest⟩
    else if c = '\n' then none
    else if c = '\\' then
      match rest with
      | [] => none
      | e :: after => (readString after).map (Reading.push (unescape e) [c, e])
    else (readString rest).map (Reading.push c [c])

def readLabel : List Char → Option Reading
  | [] => none
  | c :: rest =>
    if c = '#' ∧ rest.head? = some '>' then some ⟨[], ['#', '>'], rest.tail⟩
    else if c = '\n' then none
    else (readLabel rest).map (Reading.push c [c])

structure Lexeme where
  symbol : Symbol
  written : List Char
  rest : List Char
  deriving DecidableEq, Repr

def Symbol.ofWord (word : String) : Symbol :=
  match DeclKind.ofText? word with
  | some kind => .keyword kind
  | none => .identifier word

def Symbol.ofChar? (c : Char) : Option Symbol :=
  if c = '@' then some .atSign
  else if c = ':' then some .colon
  else if c = ',' then some .comma
  else if c = '(' then some .openParen
  else if c = ')' then some .closeParen
  else if c = '[' then some .openBracket
  else if c = ']' then some .closeBracket
  else if c = '=' then some .equals
  else if c = '-' then some .minus
  else if c = '\n' then some .newline
  else none

/-- The longest run of characters of a class, as a symbol. -/
def Lexeme.run (class? : Char → Bool) (symbol : String → Symbol) (text : List Char) : Lexeme :=
  let word := text.takeWhile class?
  ⟨symbol (String.ofList word), word, text.dropWhile class?⟩

def Lexeme.read (c : Char) (rest : List Char) : Except Fault Lexeme :=
  if c = '"' then
    match readString rest with
    | some string => .ok ⟨.string (String.ofList string.value), c :: string.written, string.rest⟩
    | none => .error .unterminatedString
  else if Text.isDigit c then .ok (.run Text.isDigit .number (c :: rest))
  else if isWordStart c then .ok (.run isWordChar .ofWord (c :: rest))
  else if c = '<' ∧ rest.head? = some '#' then
    match readLabel rest.tail with
    | some label =>
      .ok ⟨.placeholder (String.ofList label.value), '<' :: '#' :: label.written, label.rest⟩
    | none => .error .unterminatedPlaceholder
  else
    match Symbol.ofChar? c with
    | some symbol => .ok ⟨symbol, [c], rest⟩
    | none => .error (.unexpectedCharacter c)

theorem readString_split {text : List Char} {string : Reading} (h : readString text = some string) :
    text = string.written ++ string.rest := by
  fun_induction readString text generalizing string with
  | case1 => simp at h
  | case2 rest => simp at h; subst h; simp
  | case3 => simp at h
  | case4 => simp at h
  | case5 e after hq hn ih =>
    obtain ⟨inner, hi, rfl⟩ := Option.map_eq_some_iff.1 h
    simp [Reading.push, ← ih hi]
  | case6 c rest hq hn hb ih =>
    obtain ⟨inner, hi, rfl⟩ := Option.map_eq_some_iff.1 h
    simp [Reading.push, ← ih hi]

theorem readLabel_split {text : List Char} {label : Reading} (h : readLabel text = some label) :
    text = label.written ++ label.rest := by
  fun_induction readLabel text generalizing label with
  | case1 => simp at h
  | case2 c rest hc =>
    obtain ⟨rfl, hr⟩ := hc
    cases rest with
    | nil => simp at hr
    | cons d after => simp at h hr; subst h hr; simp
  | case3 => simp at h
  | case4 c rest hc hn ih =>
    obtain ⟨inner, hi, rfl⟩ := Option.map_eq_some_iff.1 h
    simp [Reading.push, ← ih hi]

theorem Lexeme.read_split {c : Char} {rest : List Char} {lexeme : Lexeme}
    (h : Lexeme.read c rest = .ok lexeme) : c :: rest = lexeme.written ++ lexeme.rest := by
  unfold Lexeme.read at h
  split at h
  · split at h
    · next string hs => cases h; simp [readString_split hs]
    · cases h
  · split at h
    · cases h; simp [Lexeme.run]
    · split at h
      · cases h; simp [Lexeme.run]
      · split at h
        · next hc =>
          obtain ⟨rfl, hr⟩ := hc
          cases rest with
          | nil => simp at hr
          | cons d after =>
            simp at hr; subst hr
            split at h
            · next label hl => cases h; simpa using readLabel_split hl
            · cases h
        · split at h
          · cases h; simp
          · cases h

theorem Lexeme.rest_length_lt {c : Char} {rest : List Char} {lexeme : Lexeme}
    (h : Lexeme.read c rest = .ok lexeme) : lexeme.rest.length < (c :: rest).length := by
  have hne : lexeme.written ≠ [] := by
    unfold Lexeme.read at h
    split at h
    · split at h <;> cases h; simp
    · split at h
      · next hd => cases h; simp [Lexeme.run, hd]
      · split at h
        · next hw => cases h; simp [Lexeme.run, isWordChar_of_isWordStart hw]
        · split at h
          · split at h <;> cases h; simp
          · split at h <;> cases h; simp
  have hs := congrArg List.length (Lexeme.read_split h)
  have hp := List.length_pos_iff.2 hne
  simp only [List.length_append] at hs
  omega

end RawMapping
