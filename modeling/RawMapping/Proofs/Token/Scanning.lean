import RawMapping.Proofs.Outcome
import RawMapping.Proofs.Token.Lexeme
import RawMapping.Token.Scan

/-! Runs of the scanner, by the symbols they emit. Positions are left open at both ends, so that runs
over consecutive pieces of a text can be put together. -/

set_option autoImplicit false

namespace RawMapping

inductive ScanState.Leads : ScanState → List Symbol → ScanState → Prop where
  | refl {state : ScanState} : Leads state [] state
  | round {state middle next : ScanState} {tokens : List Token} {symbols : List Symbol} :
      state.round = .advanced tokens middle → Leads middle symbols next →
        Leads state (tokens.map (·.symbol) ++ symbols) next

theorem ScanState.Leads.trans {first second third : ScanState} {before after : List Symbol}
    (left : first.Leads before second) (right : second.Leads after third) :
    first.Leads (before ++ after) third := by
  induction left with
  | refl => exact right
  | round advanced _ ih =>
    rw [List.append_assoc]
    exact .round advanced (ih right)

-- Two states with the same next round differ until that round is taken, so a run without any round
-- says nothing about the other state. A run that emits something has taken one.
theorem ScanState.Leads.of_round_eq {state other next : ScanState} {symbols : List Symbol}
    (leads : state.Leads symbols next) (same : other.round = state.round) (some : symbols ≠ []) :
    other.Leads symbols next := by
  cases leads with
  | refl => exact absurd rfl some
  | round advanced later => exact .round (same.trans advanced) later

theorem ScanState.Leads.run_eq_ok {state next : ScanState} {symbols : List Symbol} {later : List Token}
    (leads : state.Leads symbols next) (ran : next.run = .ok later) :
    ∃ tokens, state.run = .ok (tokens ++ later) ∧ tokens.map (·.symbol) = symbols := by
  induction leads with
  | refl => exact ⟨[], ran, rfl⟩
  | @round state middle next tokens symbols advanced _ ih =>
    obtain ⟨emitted, run, rfl⟩ := ih ran
    refine ⟨tokens ++ emitted, ?_, by simp⟩
    -- the run takes the same round, so only the last branch is left
    rw [ScanState.run]
    split
    · next finished => rw [advanced] at finished; cases finished
    · next failed => rw [advanced] at failed; cases failed
    · next advanced' =>
      rw [advanced] at advanced'
      cases advanced'
      rw [run, Except.map, List.append_assoc]

def ScanState.moved (state : ScanState) (position : Position) : ScanState :=
  { state with position }

def ScanState.Reaches (state : ScanState) (symbols : List Symbol) (next : ScanState) : Prop :=
  ∀ position, ∃ last, (state.moved position).Leads symbols (next.moved last)

theorem ScanState.Reaches.refl (state : ScanState) : state.Reaches [] state :=
  fun position => ⟨position, .refl⟩

theorem ScanState.Reaches.trans {first second third : ScanState} {before after : List Symbol}
    (left : first.Reaches before second) (right : second.Reaches after third) :
    first.Reaches (before ++ after) third := by
  intro position
  obtain ⟨middle, leads⟩ := left position
  obtain ⟨last, leads'⟩ := right middle
  exact ⟨last, leads.trans leads'⟩

def ScanState.Emits (state : ScanState) (symbols : List Symbol) : Prop :=
  ∀ position, ∃ tokens, (state.moved position).run = .ok tokens ∧ tokens.map (·.symbol) = symbols

theorem ScanState.Reaches.emits {state next : ScanState} {before after : List Symbol}
    (reaches : state.Reaches before next) (emits : next.Emits after) :
    state.Emits (before ++ after) := by
  intro position
  obtain ⟨last, leads⟩ := reaches position
  obtain ⟨later, ran, rfl⟩ := emits last
  obtain ⟨tokens, run, rfl⟩ := leads.run_eq_ok ran
  exact ⟨tokens ++ later, run, by simp⟩

/-- One round from wherever the state stands. -/
theorem ScanState.Reaches.of_round {state next : ScanState} {symbols : List Symbol}
    (advanced : ∀ position, ∃ tokens last, (state.moved position).round =
      .advanced tokens (next.moved last) ∧ tokens.map (·.symbol) = symbols) :
    state.Reaches symbols next := by
  intro position
  obtain ⟨tokens, last, round, rfl⟩ := advanced position
  have leads := ScanState.Leads.round round .refl
  rw [List.append_nil] at leads
  exact ⟨last, leads⟩

/-! ### Rounds inside a line -/

def inLine (depth : Nat) (levels : List Nat) (rest : List Char) : ScanState :=
  ⟨rest, .start, false, depth, levels, true⟩

def atLine (levels : List Nat) (lineOpen : Bool) (rest : List Char) : ScanState :=
  ⟨rest, .start, true, 0, levels, lineOpen⟩

/-- A character that no round skips. -/
def Visible (c : Char) : Prop :=
  c ∉ [' ', '\t', '\r', '\n', '#']

instance (c : Char) : Decidable (Visible c) :=
  inferInstanceAs (Decidable (c ∉ [' ', '\t', '\r', '\n', '#']))

theorem Visible.isSpace {c : Char} (visible : Visible c) (depth : Nat) : isSpace depth c = false := by
  simp only [Visible, List.mem_cons, not_or] at visible
  simp [RawMapping.isSpace, visible]

theorem Visible.isIndentChar {c : Char} (visible : Visible c) : isIndentChar c = false := by
  simp only [Visible, List.mem_cons, not_or] at visible
  simp [RawMapping.isIndentChar, visible]

theorem Visible.isLineSkip {c : Char} (visible : Visible c) : isLineSkip c = false := by
  simp only [Visible, List.mem_cons, not_or] at visible
  simp [RawMapping.isLineSkip, visible]

theorem Visible.ne_hash {c : Char} (visible : Visible c) : c ≠ '#' := by
  simp only [Visible, List.mem_cons, not_or] at visible
  exact visible.2.2.2.2.1

theorem visible_of_isWordStart {c : Char} (start : isWordStart c = true) : Visible c := by
  intro member
  simp only [List.mem_cons, List.not_mem_nil, or_false] at member
  rcases member with rfl | rfl | rfl | rfl | rfl <;> revert start <;> decide

theorem visible_of_isDigit {c : Char} (digit : Text.isDigit c = true) : Visible c := by
  intro member
  simp only [List.mem_cons, List.not_mem_nil, or_false] at member
  rcases member with rfl | rfl | rfl | rfl | rfl <;> revert digit <;> decide

theorem inLine_lexeme {depth : Nat} {levels : List Nat} {c : Char} {after : List Char}
    {lexeme : Lexeme} (visible : Visible c) (read : Lexeme.read c after = .ok lexeme)
    (inside : lexeme.symbol ≠ .newline) :
    (inLine depth levels (c :: after)).Reaches [lexeme.symbol]
      (inLine (lexeme.symbol.depthAfter depth) levels lexeme.rest) := by
  apply ScanState.Reaches.of_round
  intro position
  refine ⟨[⟨lexeme.symbol, position⟩], position.after lexeme.written, ?_, rfl⟩
  simp [ScanState.round, ScanState.continueLine, ScanState.moved, ScanState.consume, inLine,
    visible.isSpace, visible.ne_hash, read, inside]

-- A round skips the space and reads a lexeme at once, so the space is no round of its own.
theorem inLine_space {depth : Nat} {levels : List Nat} {rest : List Char} {symbols : List Symbol}
    {next : ScanState} (reaches : (inLine depth levels rest).Reaches symbols next)
    (some : symbols ≠ []) : (inLine depth levels (' ' :: rest)).Reaches symbols next := by
  intro position
  obtain ⟨last, leads⟩ := reaches (position.next ' ')
  have same : ((inLine depth levels (' ' :: rest)).moved position).round =
      ((inLine depth levels rest).moved (position.next ' ')).round := by
    simp [ScanState.round, ScanState.continueLine, ScanState.moved, ScanState.consume, inLine, isSpace,
      Position.after]
  exact ⟨last, leads.of_round_eq same some⟩

theorem inLine_newline (levels : List Nat) (rest : List Char) :
    (inLine 0 levels ('\n' :: rest)).Reaches [.newline] (atLine levels false rest) := by
  apply ScanState.Reaches.of_round
  intro position
  refine ⟨[⟨.newline, position⟩], position.after ['\n'], ?_, rfl⟩
  have read : Lexeme.read '\n' rest = .ok ⟨.newline, ['\n'], rest⟩ := Lexeme.read_char rfl rest
  simp [ScanState.round, ScanState.continueLine, ScanState.moved, ScanState.consume, inLine, atLine,
    isSpace, read, Symbol.depthAfter]

/-! ### Rounds at the start of a line -/

theorem atLine_blank (levels : List Nat) (lineOpen : Bool) (rest : List Char) :
    (atLine levels lineOpen ('\n' :: rest)).Reaches [] (atLine levels lineOpen rest) := by
  apply ScanState.Reaches.of_round
  intro position
  refine ⟨[], position.after ['\n'], ?_, rfl⟩
  simp [ScanState.round, ScanState.beginLine, ScanState.moved, ScanState.consume, atLine, isIndentChar,
    isLineSkip, skippedLine, commentOf, optionalChar, Position.after]

/-- A line with symbols opens and closes the blocks that its indentation asks for. -/
theorem atLine_begin {levels settled : List Nat} {lineOpen : Bool} {blanks rest : List Char} {c : Char}
    {symbols : List Symbol} (blank : ∀ d ∈ blanks, isIndentChar d = true) (visible : Visible c)
    (settles : ∀ line, ∃ tokens, indentTokens line (indentLevel blanks) levels = .ok (tokens, settled) ∧
      tokens.map (·.symbol) = symbols) :
    (atLine levels lineOpen (blanks ++ c :: rest)).Reaches symbols (inLine 0 settled (c :: rest)) := by
  apply ScanState.Reaches.of_round
  intro position
  obtain ⟨tokens, indented, written⟩ := settles (position.after blanks).line
  refine ⟨tokens, position.after blanks, ?_, written⟩
  have stop : ∀ d ∈ (c :: rest).head?, isIndentChar d = false := by simp [visible.isIndentChar]
  simp [ScanState.round, ScanState.beginLine, ScanState.moved, ScanState.consume, atLine, inLine,
    takeWhile_of_stop blank stop, dropWhile_of_stop blank stop, visible.isLineSkip, indented]

theorem settleLevels_outer {levels : List Nat} (positive : ∀ level ∈ levels, 0 < level) :
    settleLevels 0 levels = (levels.length, []) := by
  have inside : ∀ level ∈ levels, decide (0 < level) = true := by simpa using positive
  have taken : (levels ++ []).takeWhile (0 < ·) = levels := takeWhile_of_stop inside (by simp)
  have dropped : (levels ++ []).dropWhile (0 < ·) = [] := dropWhile_of_stop inside (by simp)
  rw [List.append_nil] at taken dropped
  rw [settleLevels, taken, dropped]

theorem atLine_outer {levels : List Nat} (positive : ∀ level ∈ levels, 0 < level) (lineOpen : Bool)
    {rest : List Char} {c : Char} (visible : Visible c) :
    (atLine levels lineOpen (c :: rest)).Reaches (List.replicate levels.length .dedent)
      (inLine 0 [] (c :: rest)) := by
  rw [← List.nil_append (c :: rest)]
  refine atLine_begin (by simp) visible ?_
  intro line
  refine ⟨List.replicate levels.length ⟨.dedent, ⟨line, 1⟩⟩, ?_, by simp⟩
  simp [indentTokens, indentLevel, settleLevels_outer positive]

theorem atLine_first {lineOpen : Bool} {blanks rest : List Char} {c : Char}
    (blank : ∀ d ∈ blanks, isIndentChar d = true) (deeper : 0 < indentLevel blanks)
    (visible : Visible c) :
    (atLine [] lineOpen (blanks ++ c :: rest)).Reaches [.indent]
      (inLine 0 [indentLevel blanks] (c :: rest)) := by
  refine atLine_begin blank visible ?_
  intro line
  exact ⟨[⟨.indent, ⟨line, 1⟩⟩], by simp [indentTokens, deeper], rfl⟩

theorem atLine_same {levels : List Nat} {lineOpen : Bool} {blanks rest : List Char} {c : Char}
    (blank : ∀ d ∈ blanks, isIndentChar d = true) (visible : Visible c) :
    (atLine (indentLevel blanks :: levels) lineOpen (blanks ++ c :: rest)).Reaches []
      (inLine 0 (indentLevel blanks :: levels) (c :: rest)) := by
  refine atLine_begin blank visible ?_
  intro line
  exact ⟨[], by simp [indentTokens, settleLevels], rfl⟩

theorem atLine_end (levels : List Nat) (lineOpen : Bool) :
    (atLine levels lineOpen []).Emits ((if lineOpen then [.newline] else []) ++
      List.replicate levels.length .dedent ++ [.eof]) := by
  intro position
  refine ⟨(atLine levels lineOpen []).closing position, ?_, ?_⟩
  · rw [ScanState.run]
    cases lineOpen <;>
      simp [ScanState.round, ScanState.beginLine, ScanState.moved, ScanState.consume, atLine,
        ScanState.closing]
  · cases lineOpen <;> simp [ScanState.closing, atLine]

/-! ### Pieces of a line -/

-- The depth is arbitrary, since the piece may stand inside brackets, and it is the same at both ends,
-- since brackets are written in pairs.
/-- A piece of a line is read as these symbols wherever it stands, if nothing behind it could belong
to its last name or number. -/
def Scans (text : List Char) (symbols : List Symbol) : Prop :=
  ∀ depth levels rest, Stops rest →
    (inLine depth levels (text ++ rest)).Reaches symbols (inLine depth levels rest)

theorem Scans.nil : Scans [] [] :=
  fun _ _ _ _ => .refl _

theorem Scans.append {first second : List Char} {before after : List Symbol}
    (left : Scans first before) (right : Scans second after) (stop : Stops second) :
    Scans (first ++ second) (before ++ after) := by
  intro depth levels rest stops
  rw [List.append_assoc]
  exact (left depth levels _ (stop.append stops)).trans (right depth levels rest stops)

theorem Scans.space {text : List Char} {symbols : List Symbol} (scans : Scans text symbols)
    (some : symbols ≠ []) : Scans (' ' :: text) symbols :=
  fun depth levels rest stops => inLine_space (scans depth levels rest stops) some

theorem Scans.lexeme {c : Char} {word : List Char} {symbol : Symbol} (visible : Visible c)
    (read : ∀ rest, Stops rest → Lexeme.read c (word ++ rest) = .ok ⟨symbol, c :: word, rest⟩)
    (inside : symbol ≠ .newline) (level : ∀ depth, symbol.depthAfter depth = depth) :
    Scans (c :: word) [symbol] := by
  intro depth levels rest stops
  have reaches : (inLine depth levels (c :: (word ++ rest))).Reaches [symbol]
      (inLine (symbol.depthAfter depth) levels rest) := inLine_lexeme visible (read rest stops) inside
  rwa [level] at reaches

theorem Scans.identifier {name : String} (identifier : IsIdentifier name) :
    Scans name.toList [.identifier name] := by
  obtain ⟨c, word, text, start, digit, inside, keyword⟩ := (isIdentifier_iff name).mp identifier
  rw [text]
  refine Scans.lexeme (visible_of_isWordStart start) ?_ (by simp) (fun _ => rfl)
  intro rest stops
  rw [Lexeme.read_word start digit inside stops, ← text, String.ofList_toList,
    (Symbol.ofWord_eq_identifier_iff name name).mpr ⟨keyword, rfl⟩]

theorem Scans.keyword (kind : DeclKind) : Scans kind.text.toList [.keyword kind] := by
  have text : ∃ c word, kind.text.toList = c :: word ∧ isWordStart c = true ∧ Text.isDigit c = false ∧
      ∀ d ∈ word, isWordChar d = true := by
    cases kind <;> exact ⟨_, _, rfl, by decide, by decide, List.all_eq_true.mp (by decide)⟩
  obtain ⟨c, word, text, start, digit, inside⟩ := text
  rw [text]
  refine Scans.lexeme (visible_of_isWordStart start) ?_ (by simp) (fun _ => rfl)
  intro rest stops
  rw [Lexeme.read_word start digit inside stops, ← text, String.ofList_toList, Symbol.ofWord,
    DeclKind.ofText?_text]

theorem Scans.number {digits : String} (number : IsNumber digits) :
    Scans digits.toList [.number digits] := by
  obtain ⟨nonempty, inside⟩ := number
  cases text : digits.toList with
  | nil => exact absurd text nonempty
  | cons c word =>
    rw [text, List.forall_mem_cons] at inside
    refine Scans.lexeme (visible_of_isDigit inside.1) ?_ (by simp) (fun _ => rfl)
    intro rest stops
    rw [Lexeme.read_number inside.1 inside.2 stops, ← text, String.ofList_toList]

theorem Scans.string (value : String) : Scans (quoteString value).toList [.string value] := by
  rw [toList_quoteString]
  refine Scans.lexeme (by decide) ?_ (by simp) (fun _ => rfl)
  intro rest _
  rw [List.append_assoc, List.singleton_append, Lexeme.read_string, toList_quoteString]

theorem Scans.placeholder {label : String} (written : IsLabel label) :
    Scans ("<#" ++ label ++ "#>").toList [.placeholder label] := by
  have text : ("<#" ++ label ++ "#>").toList = '<' :: '#' :: label.toList ++ ['#', '>'] := by
    simp
  rw [text]
  refine Scans.lexeme (by decide) ?_ (by simp) (fun _ => rfl)
  intro rest _
  have read := Lexeme.read_placeholder written rest
  simpa using read

theorem Scans.cons {c : Char} {symbol : Symbol} {text : List Char} {symbols : List Symbol}
    (known : Symbol.ofChar? c = some symbol) (visible : Visible c) (inside : symbol ≠ .newline)
    (level : ∀ depth, symbol.depthAfter depth = depth) (scans : Scans text symbols) :
    Scans (c :: text) (symbol :: symbols) := by
  intro depth levels rest stops
  have first : (inLine depth levels (c :: (text ++ rest))).Reaches [symbol]
      (inLine (symbol.depthAfter depth) levels (text ++ rest)) :=
    inLine_lexeme visible (Lexeme.read_char known _) inside
  rw [level] at first
  exact first.trans (scans depth levels rest stops)

theorem Scans.enclosed {first last : Char} {opening closing : Symbol} {text : List Char}
    {symbols : List Symbol} (opens : Symbol.ofChar? first = some opening)
    (closes : Symbol.ofChar? last = some closing) (visible : Visible first ∧ Visible last)
    (deeper : ∀ depth, opening.depthAfter depth = depth + 1)
    (back : ∀ depth, closing.depthAfter (depth + 1) = depth) (stop : ∀ rest, Stops (last :: rest))
    (scans : Scans text symbols) :
    Scans (first :: text ++ [last]) (opening :: symbols ++ [closing]) := by
  -- a line feed leaves the depth as it is, so neither bracket is one
  have inner : opening ≠ .newline ∧ closing ≠ .newline := by
    constructor
    · rintro rfl; simpa [Symbol.depthAfter] using deeper 0
    · rintro rfl; simpa [Symbol.depthAfter] using back 0
  intro depth levels rest _
  have enter : (inLine depth levels (first :: (text ++ last :: rest))).Reaches [opening]
      (inLine (opening.depthAfter depth) levels (text ++ last :: rest)) :=
    inLine_lexeme visible.1 (Lexeme.read_char opens _) inner.1
  have leave : (inLine (depth + 1) levels (last :: rest)).Reaches [closing]
      (inLine (closing.depthAfter (depth + 1)) levels rest) :=
    inLine_lexeme visible.2 (Lexeme.read_char closes rest) inner.2
  rw [deeper] at enter
  rw [back] at leave
  have whole := enter.trans ((scans (depth + 1) levels (last :: rest) (stop rest)).trans leave)
  simpa using whole

theorem Scans.parenthesized {text : List Char} {symbols : List Symbol} (scans : Scans text symbols) :
    Scans ('(' :: text ++ [')']) (.openParen :: symbols ++ [.closeParen]) :=
  Scans.enclosed rfl rfl (by decide) (fun _ => rfl) (fun _ => rfl)
    (fun rest => (stops_cons _ rest).mpr (by decide)) scans

theorem Scans.bracketed {text : List Char} {symbols : List Symbol} (scans : Scans text symbols) :
    Scans ('[' :: text ++ [']']) (.openBracket :: symbols ++ [.closeBracket]) :=
  Scans.enclosed rfl rfl (by decide) (fun _ => rfl) (fun _ => rfl)
    (fun rest => (stops_cons _ rest).mpr (by decide)) scans

/-! ### The symbols of a run -/

theorem symbol_of_indentTokens {line level : Nat} {levels settled : List Nat} {tokens : List Token}
    (indented : indentTokens line level levels = .ok (tokens, settled)) :
    ∀ token ∈ tokens, token.symbol = .indent ∨ token.symbol = .dedent := by
  unfold indentTokens at indented
  dsimp only at indented
  split at indented
  · cases indented
    simp
  · split at indented
    · cases indented
      intro token member
      rw [List.eq_of_mem_replicate member]
      exact .inr rfl
    · cases indented

theorem ScanState.symbol_of_round {state next : ScanState} {tokens : List Token}
    (advanced : state.round = .advanced tokens next) {token : Token} (member : token ∈ tokens) :
    (token.symbol = .indent ∨ token.symbol = .dedent) ∨
      ∃ c rest lexeme, Lexeme.read c rest = .ok lexeme ∧ token.symbol = lexeme.symbol := by
  unfold ScanState.round at advanced
  split at advanced
  · unfold ScanState.beginLine at advanced
    dsimp only at advanced
    split at advanced
    · cases advanced
    · split at advanced
      · cases advanced
        cases member
      · split at advanced
        · cases advanced
        · next indented =>
          cases advanced
          exact .inl (symbol_of_indentTokens indented token member)
  · unfold ScanState.continueLine at advanced
    dsimp only at advanced
    split at advanced
    · cases advanced
    · split at advanced
      · cases advanced
        cases member
      · split at advanced
        · cases advanced
        · next lexeme read =>
          cases advanced
          rw [List.mem_singleton.mp member]
          exact .inr ⟨_, _, lexeme, read, rfl⟩

theorem ScanState.wellWritten_round {state next : ScanState} {tokens : List Token}
    (advanced : state.round = .advanced tokens next) :
    ∀ token ∈ tokens, token.symbol.WellWritten := by
  intro token member
  obtain (same | same) | ⟨c, rest, lexeme, read, same⟩ := symbol_of_round advanced member
  · simp [same, Symbol.WellWritten]
  · simp [same, Symbol.WellWritten]
  · rw [same]
    exact Lexeme.wellWritten read

theorem ScanState.wellWritten_run {state : ScanState} {tokens : List Token}
    (run : state.run = .ok tokens) : ∀ token ∈ tokens, token.symbol.WellWritten := by
  fun_induction ScanState.run state generalizing tokens with
  | case1 state position _ =>
    -- what closes the text carries no text of its own
    cases run
    simp only [closing, List.mem_append, List.mem_replicate, List.mem_singleton]
    rintro token ((member | ⟨-, rfl⟩) | rfl)
    · split at member <;> simp_all [Symbol.WellWritten]
    · trivial
    · trivial
  | case2 => cases run
  | case3 state emitted next advanced ih =>
    obtain ⟨later, ran, rfl⟩ := map_eq_ok_iff.mp run
    intro token member
    rcases List.mem_append.mp member with member | member
    · exact wellWritten_round advanced token member
    · exact ih ran token member

theorem Lexeme.symbol_ne_eof {c : Char} {rest : List Char} {lexeme : Lexeme}
    (read : Lexeme.read c rest = .ok lexeme) : lexeme.symbol ≠ .eof := by
  obtain ⟨_, -, rfl⟩ | ⟨-, rfl⟩ | ⟨-, -, rfl⟩ | ⟨_, -, rfl⟩ | ⟨symbol, known, rfl⟩ :=
    Lexeme.read_cases read
  · simp
  · simp [Lexeme.run]
  · simp only [Lexeme.run, Symbol.ofWord]
    split <;> simp
  · simp
  · rintro rfl
    have mark := Symbol.mem_marks known
    simp [Symbol.marks] at mark

/-- A run ends with the end of the text, which stands nowhere else. -/
theorem ScanState.run_ends {state : ScanState} {tokens : List Token} (run : state.run = .ok tokens) :
    ∃ front position, tokens = front ++ [⟨.eof, position⟩] ∧ ∀ token ∈ front, token.symbol ≠ .eof := by
  fun_induction ScanState.run state generalizing tokens with
  | case1 state position _ =>
    cases run
    refine ⟨_, position, rfl, ?_⟩
    intro token member
    rcases List.mem_append.mp member with line | blocks
    · split at line <;> simp_all
    · rw [List.eq_of_mem_replicate blocks]
      simp
  | case2 => cases run
  | case3 state emitted next advanced ih =>
    obtain ⟨later, ran, rfl⟩ := map_eq_ok_iff.mp run
    obtain ⟨front, position, rfl, inside⟩ := ih ran
    refine ⟨emitted ++ front, position, (List.append_assoc _ _ _).symm, ?_⟩
    intro token member
    rcases List.mem_append.mp member with now | later
    · obtain (same | same) | ⟨c, rest, lexeme, read, same⟩ := symbol_of_round advanced now
      · simp [same]
      · simp [same]
      · rw [same]
        exact Lexeme.symbol_ne_eof read
    · exact inside token later

end RawMapping
