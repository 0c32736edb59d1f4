import RawMapping.Proofs.Token.Pieces

/-! Skipping. The symbols that a run of the scanner emits, told without the positions of its tokens: what is
skipped at the start of a line and inside of one leaves them as they are, of the blanks in front of a line
only their level counts, and a lexeme is followed by what the state behind it emits. -/

set_option autoImplicit false

namespace RawMapping

/-! ### The symbols of a run -/

def ScanState.symbols? (state : ScanState) : Option (List Symbol) :=
  state.run.toOption.map (·.map (·.symbol))

theorem ScanState.symbols?_eq_some_iff {state : ScanState} {symbols : List Symbol} :
    state.symbols? = some symbols ↔
      ∃ tokens, state.run = .ok tokens ∧ tokens.map (·.symbol) = symbols := by
  rw [symbols?, Option.map_eq_some_iff]
  exact exists_congr fun tokens => and_congr_left fun _ => toOption_eq_some_iff

theorem ScanState.symbols?_moved (state : ScanState) (position : Position) :
    (state.moved position).symbols? = state.symbols? := by
  have anywhere {state : ScanState} {symbols : List Symbol} (emits : state.symbols? = some symbols)
      (position : Position) : (state.moved position).symbols? = some symbols := by
    obtain ⟨tokens, run, rfl⟩ := symbols?_eq_some_iff.mp emits
    exact symbols?_eq_some_iff.mpr (ScanState.emits_of_run run position)
  refine Option.ext fun symbols => ⟨fun emits => ?_, fun emits => anywhere emits position⟩
  exact anywhere emits state.position

theorem ScanState.symbols?_round (state : ScanState) :
    state.symbols? = match state.round with
      | .finished _ => some ((state.closing .start).map (·.symbol))
      | .failed _ => none
      | .advanced tokens next => next.symbols?.map (tokens.map (·.symbol) ++ ·) := by
  unfold symbols?
  rw [ScanState.run]
  cases state.round with
  | finished position =>
    exact congrArg some ((state.closing_symbols position).trans (state.closing_symbols .start).symm)
  | failed error => rfl
  | advanced tokens next => cases h : next.run <;> simp [Except.map, Except.toOption, h]

theorem ScanState.Turn.symbols? {state next : ScanState} {tokens : List Token}
    (turn : state.Turn tokens next) :
    state.symbols? = next.symbols?.map (tokens.map (·.symbol) ++ ·) := by
  rw [ScanState.symbols?_round, ScanState.round_of_turn turn]

theorem ScanState.symbols?_of_blank {state : ScanState} (blank : ∀ c ∈ state.rest, state.skips c = true) :
    state.symbols? = some ((state.closing .start).map (·.symbol)) := by
  rw [ScanState.symbols?_round, ScanState.round_eq_finished_iff.mpr ⟨blank, rfl⟩]

theorem ScanState.symbols?_of_round_eq {state other : ScanState} (same : state.round = other.round)
    (lineOpen : state.lineOpen = other.lineOpen) (levels : state.levels = other.levels) :
    state.symbols? = other.symbols? := by
  rw [ScanState.symbols?_round, ScanState.symbols?_round other, same, ScanState.closing_symbols,
    ScanState.closing_symbols, lineOpen, levels]

/-! ### At the start of a line -/

/-- Nothing is left, or the line ends. -/
def LineEnds (rest : List Char) : Prop :=
  ∀ c ∈ rest.head?, c = '\n'

theorem isNotBreak_of_line {body : List Char} (line : '\n' ∉ body) :
    ∀ c ∈ '#' :: body, isNotBreak c = true := by
  intro c member
  rcases List.mem_cons.mp member with rfl | member
  · rfl
  · simpa [isNotBreak] using fun same : c = '\n' => line (same ▸ member)

theorem indentLevel_append (first second : List Char) :
    indentLevel (first ++ second) = indentLevel first + indentLevel second := by
  induction first with
  | nil => simp [indentLevel]
  | cons c first ih => simp [indentLevel, ih, Nat.add_assoc]

section

variable {levels : List Nat} {lineOpen : Bool} {blanks : List Char}
  (blank : ∀ c ∈ blanks, isIndentChar c = true)

include blank

theorem atLine_blanks : (atLine levels lineOpen blanks).symbols? = (atLine levels lineOpen []).symbols? := by
  rw [ScanState.symbols?_of_blank blank, ScanState.symbols?_of_blank (by simp [atLine])]
  rfl

theorem atLine_skipped {c : Char} {after : List Char} (stop : isIndentChar c = false)
    (skip : isLineSkip c = true) :
    (atLine levels lineOpen (blanks ++ c :: after)).symbols? =
      (atLine levels lineOpen ((c :: after).drop (skippedLine (c :: after)).length)).symbols? := by
  have turn : (atLine levels lineOpen (blanks ++ c :: after)).Turn [] _ :=
    .skipped rfl rfl blank stop skip
  rw [turn.symbols?]
  simp only [List.map_nil, List.nil_append, Option.map_id']
  exact ScanState.symbols?_moved (atLine levels lineOpen _) _

theorem atLine_feed (rest : List Char) :
    (atLine levels lineOpen (blanks ++ '\n' :: rest)).symbols? = (atLine levels lineOpen rest).symbols? := by
  rw [atLine_skipped blank rfl rfl]
  rfl

/-- A carriage return is skipped alone or with the line feed behind it, and either way the line is over. -/
theorem atLine_return (rest : List Char) :
    (atLine levels lineOpen (blanks ++ '\r' :: rest)).symbols? = (atLine levels lineOpen rest).symbols? := by
  rw [atLine_skipped blank rfl rfl]
  by_cases feed : rest.head? = some '\n'
  · obtain ⟨after, rfl⟩ := List.head?_eq_some_iff.mp feed
    exact (atLine_feed (List.forall_mem_nil _) after).symm
  · simp [skippedLine, commentOf, optionalChar, feed]

theorem atLine_comment {body rest : List Char} (line : '\n' ∉ body) (ends : LineEnds rest) :
    (atLine levels lineOpen (blanks ++ '#' :: (body ++ rest))).symbols? =
      (atLine levels lineOpen rest).symbols? := by
  have inside := isNotBreak_of_line line
  have stop : ∀ c ∈ rest.head?, isNotBreak c = false := fun c first => by simp [ends c first, isNotBreak]
  have comment : commentOf ('#' :: (body ++ rest)) = '#' :: body := by
    rw [commentOf, List.head?_cons, if_pos rfl, ← List.cons_append, takeWhile_of_stop inside stop]
  rw [atLine_skipped blank rfl rfl]
  cases rest with
  | nil =>
    rw [List.append_nil] at comment ⊢
    have skipped : skippedLine ('#' :: body) = '#' :: body := by
      simp only [skippedLine, comment, List.drop_length]
      simp [optionalChar]
    rw [skipped, List.drop_length]
  | cons c after =>
    cases ends c rfl
    have skipped : skippedLine ('#' :: (body ++ '\n' :: after)) = '#' :: body ++ ['\n'] := by
      simp [skippedLine, comment, optionalChar]
    have rest : ('#' :: (body ++ '\n' :: after)).drop ('#' :: body ++ ['\n']).length = after := by simp
    rw [skipped, rest]
    exact (atLine_feed (List.forall_mem_nil _) after).symm

/-- A line that begins with a symbol settles its level before the symbol is read. -/
theorem atLine_begun {c : Char} (after : List Char) (stop : isIndentChar c = false)
    (symbol : isLineSkip c = false) :
    (atLine levels lineOpen (blanks ++ c :: after)).symbols? =
      (indentTokens 1 (indentLevel blanks) levels).toOption.bind fun (tokens, settled) =>
        (inLine 0 settled (c :: after)).symbols?.map (tokens.map (·.symbol) ++ ·) := by
  -- levels do not depend on the number of the line, which only places the tokens
  cases indented : indentTokens (Position.start.after blanks).line (indentLevel blanks) levels with
  | ok result =>
    obtain ⟨tokens, settled⟩ := result
    obtain ⟨moved, again, same⟩ := indentTokens_line indented 1
    have turn : (atLine levels lineOpen (blanks ++ c :: after)).Turn tokens _ :=
      .begun rfl rfl blank stop symbol indented
    rw [turn.symbols?, again, ← same]
    refine congrArg (Option.map _) ?_
    exact ScanState.symbols?_moved (inLine 0 settled (c :: after)) _
  | error error =>
    have first : ∀ d ∈ (c :: after).head?, isIndentChar d = false := by simpa using stop
    have failed : (atLine levels lineOpen (blanks ++ c :: after)).round = .failed error := by
      simp [ScanState.round, ScanState.beginLine, ScanState.consume, atLine, takeWhile_of_stop blank first,
        dropWhile_of_stop blank first, symbol, indented]
    rw [ScanState.symbols?_round, failed]
    cases other : indentTokens 1 (indentLevel blanks) levels with
    | error _ => rfl
    | ok result =>
      obtain ⟨_, again, -⟩ := indentTokens_line other (Position.start.after blanks).line
      rw [indented] at again
      cases again

theorem atLine_indent {other : List Char} (otherBlank : ∀ c ∈ other, isIndentChar c = true)
    (same : indentLevel other = indentLevel blanks) (rest : List Char) :
    (atLine levels lineOpen (other ++ rest)).symbols? =
      (atLine levels lineOpen (blanks ++ rest)).symbols? := by
  have more : ∀ c ∈ rest.takeWhile isIndentChar, isIndentChar c = true :=
    List.all_eq_true.mp List.all_takeWhile
  have both {front : List Char} (blank : ∀ c ∈ front, isIndentChar c = true) :
      ∀ c ∈ front ++ rest.takeWhile isIndentChar, isIndentChar c = true :=
    List.forall_mem_append.mpr ⟨blank, more⟩
  rw [← List.takeWhile_append_dropWhile (p := isIndentChar) (l := rest), ← List.append_assoc,
    ← List.append_assoc]
  have stop := stop_of_dropWhile (p := isIndentChar) rest
  cases left : rest.dropWhile isIndentChar with
  | nil =>
    rw [List.append_nil, List.append_nil, atLine_blanks (both otherBlank), atLine_blanks (both blank)]
  | cons c after =>
    rw [left] at stop
    cases skip : isLineSkip c with
    | true =>
      rw [atLine_skipped (both otherBlank) (stop c rfl) skip, atLine_skipped (both blank) (stop c rfl) skip]
    | false =>
      rw [atLine_begun (both otherBlank) after (stop c rfl) skip,
        atLine_begun (both blank) after (stop c rfl) skip, indentLevel_append, indentLevel_append, same]

end

/-! ### Inside of a line -/

section

variable {depth : Nat} {levels : List Nat}

theorem inLine_skips {c : Char} (space : isSpace depth c = true) (rest : List Char) :
    (inLine depth levels (c :: rest)).symbols? = (inLine depth levels rest).symbols? := by
  rw [← ScanState.symbols?_moved (inLine depth levels rest) (Position.start.next c)]
  refine ScanState.symbols?_of_round_eq ?_ rfl rfl
  simp [ScanState.round, ScanState.continueLine, ScanState.moved, ScanState.consume, inLine, space,
    Position.after]

theorem inLine_blanks {blanks : List Char} (blank : ∀ c ∈ blanks, isIndentChar c = true) (rest : List Char) :
    (inLine depth levels (blanks ++ rest)).symbols? = (inLine depth levels rest).symbols? := by
  induction blanks with
  | nil => rfl
  | cons c blanks ih =>
    obtain ⟨first, others⟩ := List.forall_mem_cons.mp blank
    have space : isSpace depth c = true := by
      simp only [isIndentChar, Bool.or_eq_true, beq_iff_eq] at first
      rcases first with rfl | rfl <;> rfl
    rw [List.cons_append, inLine_skips space, ih others]

theorem inLine_comment {body rest : List Char} (line : '\n' ∉ body) (ends : LineEnds rest) :
    (inLine depth levels ('#' :: (body ++ rest))).symbols? = (inLine depth levels rest).symbols? := by
  have turn : (inLine depth levels ('#' :: (body ++ rest))).Turn [] _ :=
    .comment rfl (List.nil_append _).symm (List.forall_mem_nil _)
  have inside := isNotBreak_of_line line
  have stop : ∀ c ∈ rest.head?, isNotBreak c = false := fun c first => by simp [ends c first, isNotBreak]
  rw [turn.symbols?, ← List.cons_append, takeWhile_of_stop inside stop, dropWhile_of_stop inside stop]
  simp only [List.map_nil, List.nil_append, Option.map_id']
  exact ScanState.symbols?_moved (inLine depth levels rest) _

def behindLexeme (depth : Nat) (levels : List Nat) (lexeme : Lexeme) : ScanState :=
  if lexeme.symbol = .newline then atLine levels false lexeme.rest
  else inLine (lexeme.symbol.depthAfter depth) levels lexeme.rest

theorem inLine_read {c : Char} {after : List Char} (stop : isSpace depth c = false) (other : c ≠ '#') :
    (inLine depth levels (c :: after)).symbols? =
      (Lexeme.read c after).toOption.bind fun lexeme =>
        (behindLexeme depth levels lexeme).symbols?.map (lexeme.symbol :: ·) := by
  cases read : Lexeme.read c after with
  | ok lexeme =>
    have turn : (inLine depth levels (c :: after)).Turn _ _ :=
      .lexeme rfl (List.nil_append _).symm (List.forall_mem_nil _) stop other read
    rw [turn.symbols?]
    refine congrArg (Option.map _) ?_
    obtain ⟨symbol, written, rest⟩ := lexeme
    by_cases line : symbol = .newline
    · subst line
      -- inside of brackets a line feed is a space
      obtain inner | ⟨-, rfl⟩ := Lexeme.isInner_or_newline read
      · cases inner
      · have outside : depth = 0 := by simpa [isSpace] using stop
        subst outside
        exact ScanState.symbols?_moved (atLine levels false rest) _
    · have inside : (symbol == .newline) = false := beq_eq_false_iff_ne.mpr line
      simp only [behindLexeme, line, inside, bne, Bool.not_false, if_false]
      exact ScanState.symbols?_moved (inLine (symbol.depthAfter depth) levels rest) _
  | error fault =>
    have failed : (inLine depth levels (c :: after)).round = .failed ⟨fault, .start⟩ := by
      simp [ScanState.round, ScanState.continueLine, ScanState.consume, inLine, stop, other, read]
    rw [ScanState.symbols?_round, failed]
    rfl

end

end RawMapping
