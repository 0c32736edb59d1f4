import RawMapping.Token.Lexeme

/-! Scanning: from source text to tokens, in rounds. At the start of a line a round settles the
indentation, skipping blank lines and lines that hold only a comment; inside a line a round skips
spaces and reads one lexeme or comment. Line breaks inside brackets are spaces. Every round consumes
text, or leaves the start of a line, so scanning ends. -/

set_option autoImplicit false

namespace RawMapping

structure ScanState where
  rest : List Char
  position : Position
  /-- The next round begins a line. -/
  lineStart : Bool
  /-- How many brackets are open. -/
  depth : Nat
  /-- The levels of the open blocks, innermost first. -/
  levels : List Nat
  /-- The current line still lacks the symbol that ends it. -/
  lineOpen : Bool
  deriving DecidableEq, Repr

def ScanState.initial (text : List Char) : ScanState :=
  ⟨text, .start, true, 0, [], true⟩

/-- The state after a piece at the front has been consumed. -/
def ScanState.consume (state : ScanState) (piece rest : List Char) : ScanState :=
  { state with rest, position := state.position.after piece }

inductive Round where
  | finished (position : Position)
  | failed (error : SyntaxError)
  | advanced (tokens : List Token) (state : ScanState)

def isIndentChar (c : Char) : Bool :=
  c == ' ' || c == '\t'

/-- How far a character indents; a tab counts as four spaces. -/
def indentWidth (c : Char) : Nat :=
  if c = '\t' then 4 else 1

def indentLevel : List Char → Nat
  | [] => 0
  | c :: rest => indentWidth c + indentLevel rest

/-- Characters that a line can be skipped at: it is blank, or a comment begins. -/
def isLineSkip (c : Char) : Bool :=
  c == '\n' || c == '\r' || c == '#'

def isNotBreak (c : Char) : Bool :=
  c != '\n'

/-- The comment at the front, if there is one, up to the line break. -/
def commentOf (text : List Char) : List Char :=
  if text.head? = some '#' then text.takeWhile isNotBreak else []

/-- The front of the text if it is `c`. -/
def optionalChar (c : Char) (text : List Char) : List Char :=
  if text.head? = some c then [c] else []

def skippedLine (text : List Char) : List Char :=
  let comment := commentOf text
  let return? := optionalChar '\r' (text.drop comment.length)
  let feed? := optionalChar '\n' (text.drop (comment.length + return?.length))
  comment ++ return? ++ feed?

/-- Opens or closes blocks for a line at the given level: how many to close, and the levels then. -/
def settleLevels (level : Nat) (levels : List Nat) : Nat × List Nat :=
  let closed := levels.takeWhile (level < ·)
  (closed.length, levels.dropWhile (level < ·))

/-- The tokens and the levels for a line at the given level, in a text whose line number is `line`. -/
def indentTokens (line level : Nat) (levels : List Nat) : Except SyntaxError (List Token × List Nat) :=
  let current := levels.headD 0
  if current < level then .ok ([⟨.indent, ⟨line, 1⟩⟩], level :: levels)
  else
    let (closed, kept) := settleLevels level levels
    if kept.headD 0 = level then .ok (List.replicate closed ⟨.dedent, ⟨line, 1⟩⟩, kept)
    else .error ⟨.inconsistentIndentation (kept.headD 0) level, ⟨line, 1⟩⟩

def ScanState.beginLine (state : ScanState) : Round :=
  let blanks := state.rest.takeWhile isIndentChar
  let inside := state.consume blanks (state.rest.dropWhile isIndentChar)
  match inside.rest with
  | [] => .finished inside.position
  | c :: _ =>
    if isLineSkip c then
      let skipped := skippedLine inside.rest
      .advanced [] (inside.consume skipped (inside.rest.drop skipped.length))
    else
      match indentTokens inside.position.line (indentLevel blanks) state.levels with
      | .error error => .failed error
      | .ok (tokens, levels) =>
        .advanced tokens { inside with lineStart := false, levels, lineOpen := true }

def isSpace (depth : Nat) (c : Char) : Bool :=
  c == ' ' || c == '\t' || c == '\r' || (0 < depth && c == '\n')

def ScanState.continueLine (state : ScanState) : Round :=
  let spaces := state.rest.takeWhile (isSpace state.depth)
  let inside := state.consume spaces (state.rest.dropWhile (isSpace state.depth))
  match inside.rest with
  | [] => .finished inside.position
  | c :: after =>
    if c = '#' then
      .advanced [] (inside.consume ((c :: after).takeWhile isNotBreak) ((c :: after).dropWhile isNotBreak))
    else
      match Lexeme.read c after with
      | .error fault => .failed ⟨fault, inside.position⟩
      | .ok lexeme =>
        .advanced [⟨lexeme.symbol, inside.position⟩]
          { inside.consume lexeme.written lexeme.rest with
            lineStart := lexeme.symbol == .newline
            depth := lexeme.symbol.depthAfter state.depth
            lineOpen := lexeme.symbol != .newline }

def ScanState.round (state : ScanState) : Round :=
  if state.lineStart then state.beginLine else state.continueLine

def ScanState.closing (state : ScanState) (position : Position) : List Token :=
  (if state.lineOpen then [⟨.newline, position⟩] else []) ++
    List.replicate state.levels.length ⟨.dedent, position⟩ ++ [⟨.eof, position⟩]

/-- Text still to be scanned, with the start of a line counted as one more step. -/
def ScanState.remaining (state : ScanState) : Nat :=
  2 * state.rest.length + (if state.lineStart then 1 else 0)

theorem isNotBreak_hash : isNotBreak '#' = true := rfl

theorem skippedLine_length_pos {c : Char} {rest : List Char} (h : isLineSkip c = true) :
    0 < (skippedLine (c :: rest)).length := by
  simp only [isLineSkip, Bool.or_eq_true, beq_iff_eq] at h
  rcases h with (rfl | rfl) | rfl
  · simp [skippedLine, commentOf, optionalChar]
  · simp [skippedLine, commentOf, optionalChar]
  · simp only [skippedLine, commentOf, List.takeWhile_cons, isNotBreak_hash, List.length_append,
      List.head?_cons, if_true, List.length_cons]
    omega

theorem length_dropWhile_le (p : Char → Bool) (text : List Char) :
    (text.dropWhile p).length ≤ text.length :=
  (List.dropWhile_sublist p).length_le

theorem ScanState.remaining_beginLine {state next : ScanState} {tokens : List Token}
    (start : state.lineStart = true) (h : state.beginLine = .advanced tokens next) :
    next.remaining < state.remaining := by
  have shorter := length_dropWhile_le isIndentChar state.rest
  unfold ScanState.beginLine at h
  simp only [ScanState.consume] at h
  split at h
  · cases h
  · next c after he =>
    split at h
    · next hskip =>
      have positive : 0 < (skippedLine (c :: after)).length := skippedLine_length_pos hskip
      cases h
      simp only [remaining, start, he, List.length_drop, List.length_cons, ↓reduceIte] at shorter ⊢
      omega
    · split at h
      · cases h
      · cases h
        simp only [remaining, start, ↓reduceIte, Bool.false_eq_true] at shorter ⊢
        omega

theorem ScanState.remaining_continueLine {state next : ScanState} {tokens : List Token}
    (inside : state.lineStart = false) (h : state.continueLine = .advanced tokens next) :
    next.remaining < state.remaining := by
  have shorter := length_dropWhile_le (isSpace state.depth) state.rest
  unfold ScanState.continueLine at h
  simp only [ScanState.consume] at h
  split at h
  · cases h
  · next c after he =>
    split at h
    · next hc =>
      cases h
      have comment := length_dropWhile_le isNotBreak after
      subst hc
      simp only [remaining, inside, he, isNotBreak_hash, List.length_cons, List.dropWhile_cons,
        Bool.false_eq_true, ↓reduceIte] at shorter ⊢
      omega
    · split at h
      · cases h
      · next lexeme hl =>
        have less := Lexeme.rest_length_lt hl
        cases h
        simp only [remaining, inside, he, Bool.false_eq_true, ↓reduceIte] at shorter ⊢
        split <;> omega

theorem ScanState.remaining_round {state next : ScanState} {tokens : List Token}
    (h : state.round = .advanced tokens next) : next.remaining < state.remaining := by
  unfold ScanState.round at h
  split at h
  · next start => exact remaining_beginLine start h
  · next inside => exact remaining_continueLine (by simpa using inside) h

def ScanState.run (state : ScanState) : Except SyntaxError (List Token) :=
  match _h : state.round with
  | .finished position => .ok (state.closing position)
  | .failed error => .error error
  | .advanced tokens next => next.run.map (tokens ++ ·)
termination_by state.remaining
decreasing_by exact remaining_round ‹_›

def scan (source : String) : Except SyntaxError (List Token) :=
  (ScanState.initial source.toList).run

end RawMapping
