import RawMapping.Proofs.Token.Blocks

/-! Scanning two texts in one. Up to the end of a line a scanner reads the same whatever follows, so a
text that ends with one is scanned as before when another is put behind it. Only what closes it is put
off: the blocks still open are closed by the first line of the other text, or at its end. -/

set_option autoImplicit false

namespace RawMapping

/-! ### Reading with more text behind -/

theorem run_append_of_stop {p : Char → Bool} {text : List Char} {c : Char} (member : c ∈ text)
    (stop : p c = false) (more : List Char) :
    (text ++ more).takeWhile p = text.takeWhile p ∧
      (text ++ more).dropWhile p = text.dropWhile p ++ more := by
  induction text with
  | nil => cases member
  | cons d text ih =>
    cases here : p d with
    | false => simp [here]
    | true =>
      have later : c ∈ text := by
        rcases List.mem_cons.mp member with rfl | later
        · rw [stop] at here
          cases here
        · exact later
      simp [here, ih later]

theorem readString_append {text : List Char} {string : Reading} (read : readString text = some string)
    (more : List Char) :
    readString (text ++ more) = some ⟨string.value, string.written, string.rest ++ more⟩ := by
  fun_induction readString text generalizing string with
  | case1 => cases read
  | case2 rest =>
    cases read
    rw [List.cons_append, readString.eq_def]
    simp
  | case3 => cases read
  | case4 => cases read
  | case5 e after _ _ ih =>
    obtain ⟨inner, found, rfl⟩ := Option.map_eq_some_iff.mp read
    simp [readString, ih found, Reading.push]
  | case6 c rest quote line slash ih =>
    obtain ⟨inner, found, rfl⟩ := Option.map_eq_some_iff.mp read
    rw [List.cons_append, readString.eq_def]
    simp [quote, line, slash, ih found, Reading.push]

theorem readLabel_append {text : List Char} {label : Reading} (read : readLabel text = some label)
    (more : List Char) :
    readLabel (text ++ more) = some ⟨label.value, label.written, label.rest ++ more⟩ := by
  fun_induction readLabel text generalizing label with
  | case1 => cases read
  | case2 c rest closes =>
    cases read
    obtain ⟨rfl, next⟩ := closes
    cases rest with
    | nil => cases next
    | cons d after => simp_all [readLabel]
  | case3 => cases read
  | case4 c rest other line ih =>
    obtain ⟨inner, found, rfl⟩ := Option.map_eq_some_iff.mp read
    have still : ¬ (c = '#' ∧ (rest ++ more).head? = some '>') := by
      cases rest with
      | nil => cases found
      | cons d after => simpa using other
    rw [List.cons_append, readLabel, if_neg still, if_neg line, ih found]
    rfl

theorem not_isDigit_newline : Text.isDigit '\n' = false := by decide

theorem not_isWordChar_newline : isWordChar '\n' = false := by decide

theorem Lexeme.read_append {c : Char} {rest : List Char} {lexeme : Lexeme}
    (read : Lexeme.read c rest = .ok lexeme) (ends : (c :: rest).getLast? = some '\n')
    (more : List Char) :
    Lexeme.read c (rest ++ more) = .ok ⟨lexeme.symbol, lexeme.written, lexeme.rest ++ more⟩ := by
  have line : '\n' ∈ c :: rest := List.mem_of_getLast? ends
  -- every kind of lexeme stops in front of the last line feed, or is that line feed
  unfold Lexeme.read at read ⊢
  split at read
  · next quote =>
    split at read
    · next string found => cases read; simp [quote, readString_append found]
    · cases read
  · next quote =>
    split at read
    · next digit =>
      cases read
      obtain ⟨taken, left⟩ := run_append_of_stop line not_isDigit_newline more
      rw [List.cons_append] at taken left
      simp [quote, digit, Lexeme.run, taken, left]
    · next digit =>
      split at read
      · next start =>
        cases read
        obtain ⟨taken, left⟩ := run_append_of_stop line not_isWordChar_newline more
        rw [List.cons_append] at taken left
        simp [quote, digit, start, Lexeme.run, taken, left]
      · next start =>
        split at read
        · next opens =>
          cases rest with
          | nil => cases opens.2
          | cons d after =>
            split at read
            · next label found => cases read; simp_all [readLabel_append]
            · cases read
        · next opens =>
          -- alone at the end of the text the mark would be no lexeme, so its second character is there
          have still : ¬ (c = '<' ∧ (rest ++ more).head? = some '#') := by
            cases rest with
            | nil =>
              rintro ⟨rfl, -⟩
              cases read
            | cons d after => simpa using opens
          split at read
          · next symbol known =>
            cases read
            rw [if_neg quote, if_neg digit, if_neg start, if_neg still]
          · cases read

theorem readString_last {text : List Char} {string : Reading} (read : readString text = some string) :
    string.written.getLast? = some '"' := by
  fun_induction readString text generalizing string with
  | case1 => cases read
  | case2 => cases read; rfl
  | case3 => cases read
  | case4 => cases read
  | case5 e after _ _ ih =>
    obtain ⟨inner, found, rfl⟩ := Option.map_eq_some_iff.mp read
    simp [Reading.push, List.getLast?_cons, ih found]
  | case6 c rest _ _ _ ih =>
    obtain ⟨inner, found, rfl⟩ := Option.map_eq_some_iff.mp read
    simp [Reading.push, List.getLast?_cons, ih found]

theorem readLabel_last {text : List Char} {label : Reading} (read : readLabel text = some label) :
    label.written.getLast? = some '>' := by
  fun_induction readLabel text generalizing label with
  | case1 => cases read
  | case2 => cases read; rfl
  | case3 => cases read
  | case4 c rest _ _ ih =>
    obtain ⟨inner, found, rfl⟩ := Option.map_eq_some_iff.mp read
    simp [Reading.push, List.getLast?_cons, ih found]

/-- Only the end of a line is written with a line feed at its end. -/
theorem Lexeme.symbol_of_last {c : Char} {rest : List Char} {lexeme : Lexeme}
    (read : Lexeme.read c rest = .ok lexeme) (last : lexeme.written.getLast? = some '\n') :
    lexeme.symbol = .newline := by
  have member : '\n' ∈ lexeme.written := List.mem_of_getLast? last
  obtain ⟨string, found, rfl⟩ | ⟨-, rfl⟩ | ⟨-, -, rfl⟩ | ⟨label, found, rfl⟩ | ⟨symbol, known, rfl⟩ :=
    Lexeme.read_cases read
  · simp [List.getLast?_cons, readString_last found] at last
  · have digit := List.all_eq_true.mp List.all_takeWhile _ member
    rw [not_isDigit_newline] at digit
    cases digit
  · have word := List.all_eq_true.mp List.all_takeWhile _ member
    rw [not_isWordChar_newline] at word
    cases word
  · simp [List.getLast?_cons, readLabel_last found] at last
  · cases List.mem_singleton.mp member
    exact (Option.some.inj known).symm

theorem getLast?_of_append {first second : List Char} {c : Char}
    (last : (first ++ second).getLast? = some c) (more : second ≠ []) : second.getLast? = some c := by
  rwa [List.getLast?_append_of_ne_nil _ more] at last

theorem Lexeme.rest_ends {c : Char} {rest : List Char} {lexeme : Lexeme}
    (read : Lexeme.read c rest = .ok lexeme) (ends : (c :: rest).getLast? = some '\n') :
    (lexeme.rest = [] ∧ lexeme.symbol = .newline) ∨ lexeme.rest.getLast? = some '\n' := by
  rw [Lexeme.read_split read] at ends
  by_cases nothing : lexeme.rest = []
  · rw [nothing, List.append_nil] at ends
    exact .inl ⟨nothing, Lexeme.symbol_of_last read ends⟩
  · exact .inr (getLast?_of_append ends nothing)

/-! ### Skipped lines -/

theorem optionalChar_append (c : Char) {text : List Char} (some : text ≠ []) (more : List Char) :
    optionalChar c (text ++ more) = optionalChar c text := by
  obtain ⟨d, rest, rfl⟩ := List.exists_cons_of_ne_nil some
  rfl

theorem commentOf_append {text : List Char} (ends : text.getLast? = some '\n') (more : List Char) :
    commentOf (text ++ more) = commentOf text ∧ (commentOf text).length < text.length := by
  have line : '\n' ∈ text := List.mem_of_getLast? ends
  obtain ⟨taken, left⟩ := run_append_of_stop line (show isNotBreak '\n' = false from rfl) more
  have head : (text ++ more).head? = text.head? := by
    obtain ⟨d, rest, rfl⟩ := List.exists_cons_of_ne_nil (List.ne_nil_of_mem line)
    rfl
  refine ⟨by rw [commentOf, commentOf, head, taken], ?_⟩
  unfold commentOf
  split
  · have whole := congrArg List.length (List.takeWhile_append_dropWhile (p := isNotBreak) (l := text))
    have some : text.dropWhile isNotBreak ≠ [] := by
      intro nothing
      have breaks := List.dropWhile_eq_nil_iff.mp nothing '\n' line
      cases breaks
    have positive := List.length_pos_iff.mpr some
    rw [List.length_append] at whole
    omega
  · exact List.length_pos_iff.mpr (List.ne_nil_of_mem line)

theorem length_optionalChar_le (c : Char) (text : List Char) : (optionalChar c text).length ≤ 1 := by
  unfold optionalChar
  split <;> simp

theorem length_optionalChar_lt {c : Char} (other : c ≠ '\n') {text : List Char}
    (ends : text.getLast? = some '\n') : (optionalChar c text).length < text.length := by
  unfold optionalChar
  split
  · next first =>
    obtain ⟨rest, rfl⟩ := List.head?_eq_some_iff.mp first
    cases rest with
    | nil => exact absurd (Option.some.inj ends) other
    | cons d rest => simp
  · exact List.length_pos_iff.mpr (List.ne_nil_of_mem (List.mem_of_getLast? ends))

theorem drop_ends {text : List Char} (ends : text.getLast? = some '\n') (count : Nat)
    (shorter : count < text.length) (more : List Char) :
    (text.drop count).getLast? = some '\n' ∧ (text ++ more).drop count = text.drop count ++ more := by
  rw [List.getLast?_drop, if_neg (Nat.not_le.mpr shorter),
    List.drop_append_of_le_length (Nat.le_of_lt shorter)]
  exact ⟨ends, rfl⟩

theorem skippedLine_append {text : List Char} (ends : text.getLast? = some '\n') (more : List Char) :
    skippedLine (text ++ more) = skippedLine text ∧ (skippedLine text).length ≤ text.length := by
  obtain ⟨comment, shorter⟩ := commentOf_append ends more
  obtain ⟨behindEnds, behind⟩ := drop_ends ends _ shorter more
  have someBehind := List.ne_nil_of_mem (List.mem_of_getLast? behindEnds)
  have returns := length_optionalChar_lt (show '\r' ≠ '\n' by decide) behindEnds
  rw [List.length_drop] at returns
  obtain ⟨lastEnds, last⟩ := drop_ends ends ((commentOf text).length +
    (optionalChar '\r' (text.drop (commentOf text).length)).length) (by omega) more
  have someLast := List.ne_nil_of_mem (List.mem_of_getLast? lastEnds)
  have feeds := length_optionalChar_le '\n' (text.drop ((commentOf text).length +
    (optionalChar '\r' (text.drop (commentOf text).length)).length))
  constructor
  · simp only [skippedLine, comment, behind, optionalChar_append _ someBehind, last,
      optionalChar_append _ someLast]
  · simp only [skippedLine, List.length_append]
    omega

/-! ### Turns with more text behind -/

def ScanState.extended (state : ScanState) (more : List Char) : ScanState :=
  { state with rest := state.rest ++ more }

/-- Nothing is left, at the start of a line, or what is left ends with a line. -/
def ScanState.Whole (state : ScanState) : Prop :=
  (state.lineStart = true ∧ state.rest = []) ∨ state.rest.getLast? = some '\n'

theorem ScanState.Turn.extended {state next : ScanState} {tokens : List Token}
    (turn : state.Turn tokens next) (ends : state.rest.getLast? = some '\n') (more : List Char) :
    (state.extended more).Turn tokens (next.extended more) ∧ next.Whole := by
  have split {before after : List Char} {c : Char} (text : state.rest = before ++ c :: after) :
      (state.extended more).rest = before ++ c :: (after ++ more) := by
    simp [ScanState.extended, text]
  -- what is left ends with a line feed, so no run of characters reaches the text behind it
  cases turn with
  | @skipped blanks after c start text blank stop skip =>
    rw [text] at ends
    have here := getLast?_of_append ends (List.cons_ne_nil c after)
    obtain ⟨same, shorter⟩ := skippedLine_append here more
    constructor
    · have turn : (state.extended more).Turn [] _ := .skipped start (split text) blank stop skip
      rw [← List.cons_append, same, List.drop_append_of_le_length shorter] at turn
      exact turn
    · unfold Whole
      simp only [consume, List.getLast?_drop]
      split
      · next all => exact .inl ⟨start, List.drop_eq_nil_iff.mpr all⟩
      · exact .inr here
  | @begun blanks after c tokens levels start text blank stop symbol indented =>
    rw [text] at ends
    have here := getLast?_of_append ends (List.cons_ne_nil c after)
    have turn : (state.extended more).Turn tokens _ := .begun start (split text) blank stop symbol indented
    exact ⟨turn, .inr here⟩
  | @comment spaces after inside text blank =>
    rw [text] at ends
    have here := getLast?_of_append ends (List.cons_ne_nil '#' after)
    have line : '\n' ∈ '#' :: after := List.mem_of_getLast? here
    obtain ⟨taken, left⟩ := run_append_of_stop line (show isNotBreak '\n' = false from rfl) more
    constructor
    · have turn : (state.extended more).Turn [] _ := .comment inside (split text) blank
      rw [← List.cons_append, taken, left] at turn
      exact turn
    · have some : ('#' :: after).dropWhile isNotBreak ≠ [] := by
        intro nothing
        cases List.dropWhile_eq_nil_iff.mp nothing '\n' line
      rw [← List.takeWhile_append_dropWhile (p := isNotBreak) (l := '#' :: after)] at here
      exact .inr (getLast?_of_append here some)
  | @lexeme spaces after c lexeme inside text blank stop other read =>
    rw [text] at ends
    have here := getLast?_of_append ends (List.cons_ne_nil c after)
    constructor
    · have turn : (state.extended more).Turn [_] _ :=
        .lexeme inside (split text) blank stop other (Lexeme.read_append read here more)
      exact turn
    · rcases Lexeme.rest_ends read here with ⟨nothing, line⟩ | line
      · exact .inl ⟨by simp [line], nothing⟩
      · exact .inr line

/-! ### The end of the first text -/

/-- The brackets that tokens leave open, where some are open already. A closing bracket that closes
nothing is let through. -/
def openBrackets (depth : Nat) (tokens : List Token) : Nat :=
  tokens.foldl (fun open? token => token.symbol.depthAfter open?) depth

theorem openBrackets_append (depth : Nat) (first second : List Token) :
    openBrackets depth (first ++ second) = openBrackets (openBrackets depth first) second :=
  List.foldl_append

theorem openBrackets_of_blocks {tokens : List Token} (depth : Nat)
    (blocks : ∀ token ∈ tokens, token.symbol = .newline ∨ token.symbol = .indent ∨
      token.symbol = .dedent ∨ token.symbol = .eof) : openBrackets depth tokens = depth := by
  induction tokens generalizing depth with
  | nil => rfl
  | cons token tokens ih =>
    obtain ⟨first, others⟩ := List.forall_mem_cons.mp blocks
    have same : token.symbol.depthAfter depth = depth := by
      rcases first with symbol | symbol | symbol | symbol <;> rw [symbol] <;> rfl
    change openBrackets (token.symbol.depthAfter depth) tokens = depth
    rw [same, ih depth others]

/-- The scanner counts the brackets of the tokens it emits. -/
theorem ScanState.Turn.depth {state next : ScanState} {tokens : List Token}
    (turn : state.Turn tokens next) : next.depth = openBrackets state.depth tokens := by
  cases turn with
  | skipped => rfl
  | comment => rfl
  | lexeme => rfl
  | begun start text blank stop symbol indented =>
    refine (openBrackets_of_blocks _ fun token member => ?_).symm
    rcases symbol_of_indentTokens indented token member with opens | closes
    · exact .inr (.inl opens)
    · exact .inr (.inr (.inl closes))

theorem ScanState.openBrackets_closing (state : ScanState) (position : Position) (depth : Nat) :
    openBrackets depth (state.closing position) = depth := by
  refine openBrackets_of_blocks depth ?_
  simp only [closing, List.forall_mem_append, List.forall_mem_singleton]
  refine ⟨⟨?_, fun token member => ?_⟩, by simp⟩
  · cases state.lineOpen <;> simp
  · rw [List.eq_of_mem_replicate member]
    simp

/-- Blocks are indented, and before the first line there is none. -/
structure ScanState.Settled (state : ScanState) : Prop where
  positive : ∀ level ∈ state.levels, 0 < level
  first : state.lineStart = true → state.lineOpen = true → state.levels = []

theorem ScanState.Turn.settled {state next : ScanState} {tokens : List Token}
    (turn : state.Turn tokens next) (settled : state.Settled) : next.Settled := by
  cases turn with
  | skipped => exact ⟨settled.positive, settled.first⟩
  | comment inside => exact ⟨settled.positive, settled.first⟩
  | lexeme inside text blank stop other read =>
    refine ⟨settled.positive, fun start opened => ?_⟩
    rw [beq_iff_eq] at start
    simp [start] at opened
  | @begun blanks after c tokens levels start text blank stop symbol indented =>
    refine ⟨?_, by simp⟩
    unfold indentTokens at indented
    dsimp only at indented
    split at indented
    · next deeper =>
      cases indented
      exact List.forall_mem_cons.mpr ⟨Nat.lt_of_le_of_lt (Nat.zero_le _) deeper, settled.positive⟩
    · split at indented
      · cases indented
        exact fun level member => settled.positive level ((List.dropWhile_sublist _).subset member)
      · cases indented

/-- Where a line is to begin and none was ended yet, nothing was emitted. -/
theorem ScanState.Turn.untouched {state next : ScanState} {tokens : List Token}
    (turn : state.Turn tokens next) (start : next.lineStart = true) (opened : next.lineOpen = true) :
    tokens = [] ∧ state.lineStart = true ∧ state.lineOpen = true := by
  cases turn with
  | skipped before => exact ⟨rfl, before, opened⟩
  | begun => cases start
  | comment inside => exact absurd (inside.symm.trans start) (by simp)
  | lexeme inside text blank stop other read =>
    rw [beq_iff_eq] at start
    simp [start] at opened

/-- A text that ends with a line, outside of all brackets, is scanned up to the start of the next line
whatever follows; what the scanner emits then is what closes the text. -/
theorem ScanState.exists_seam {state : ScanState} {tokens : List Token} (run : state.run = .ok tokens)
    (whole : state.Whole) (settled : state.Settled) (balanced : openBrackets state.depth tokens = 0)
    (more : List Char) :
    ∃ (front : List Token) (last : ScanState) (position : Position),
      tokens = front ++ last.closing position ∧ last.Settled ∧
      last.lineStart = true ∧ last.depth = 0 ∧ last.rest = [] ∧
      (last.lineOpen = true → front = [] ∧ state.lineStart = true ∧ state.lineOpen = true) ∧
      (state.extended more).Leads (front.map (·.symbol)) (last.extended more) := by
  fun_induction ScanState.run state generalizing tokens with
  | case1 state position finished =>
    cases run
    rw [openBrackets_closing] at balanced
    obtain ⟨start, nothing⟩ : state.lineStart = true ∧ state.rest = [] := by
      rcases whole with done | ends
      · exact done
      · -- a line feed is no blank, but for one inside of brackets
        have blank := (ScanState.round_eq_finished_iff.mp finished).1 '\n' (List.mem_of_getLast? ends)
        cases start : state.lineStart <;> simp [skips, start, isSpace, isIndentChar, balanced] at blank
    exact ⟨[], state, position, rfl, settled, start, balanced, nothing, fun opened => ⟨rfl, start, opened⟩,
      .refl⟩
  | case2 => cases run
  | case3 state emitted next advanced ih =>
    obtain ⟨later, ran, rfl⟩ := map_eq_ok_iff.mp run
    have turn := ScanState.turn_of_round advanced
    have ends : state.rest.getLast? = some '\n' := by
      rcases whole with ⟨start, nothing⟩ | ends
      · cases turn <;> simp_all
      · exact ends
    obtain ⟨extended, nextWhole⟩ := turn.extended ends more
    rw [openBrackets_append, ← turn.depth] at balanced
    obtain ⟨front, last, position, rfl, lastSettled, start, closed, nothing, untouched, leads⟩ :=
      ih ran nextWhole (turn.settled settled) balanced
    refine ⟨emitted ++ front, last, position, (List.append_assoc _ _ _).symm, lastSettled, start, closed,
      nothing, ?_, ?_⟩
    · intro opened
      obtain ⟨rfl, nextStart, nextOpened⟩ := untouched opened
      obtain ⟨rfl, before⟩ := turn.untouched nextStart nextOpened
      exact ⟨rfl, before⟩
    · rw [List.map_append]
      exact .round (ScanState.round_of_turn extended) leads

/-! ### The start of the second text -/

theorem indentTokens_line {line level : Nat} {levels settled : List Nat} {tokens : List Token}
    (indented : indentTokens line level levels = .ok (tokens, settled)) (other : Nat) :
    ∃ moved, indentTokens other level levels = .ok (moved, settled) ∧
      moved.map (·.symbol) = tokens.map (·.symbol) := by
  unfold indentTokens at indented ⊢
  dsimp only at indented ⊢
  split at indented
  · next deeper =>
    cases indented
    exact ⟨_, if_pos deeper, rfl⟩
  · next deeper =>
    rw [if_neg deeper]
    split at indented
    · next level =>
      cases indented
      exact ⟨_, if_pos level, by simp⟩
    · cases indented

theorem ScanState.Turn.reaches {state next : ScanState} {tokens : List Token}
    (turn : state.Turn tokens next) : state.Reaches (tokens.map (·.symbol)) next := by
  refine .of_round fun position => ?_
  cases turn with
  | skipped start text blank stop skip =>
    have turn : (state.moved position).Turn [] _ := .skipped start text blank stop skip
    exact ⟨_, _, ScanState.round_of_turn turn, rfl⟩
  | @begun blanks after c tokens levels start text blank stop symbol indented =>
    obtain ⟨moved, indented, same⟩ := indentTokens_line indented (position.after blanks).line
    have turn : (state.moved position).Turn moved _ := .begun start text blank stop symbol indented
    exact ⟨moved, _, ScanState.round_of_turn turn, same⟩
  | @comment spaces after inside text blank =>
    have turn : (state.moved position).Turn [] _ := .comment inside text blank
    exact ⟨_, _, ScanState.round_of_turn turn, rfl⟩
  | lexeme inside text blank stop other read =>
    have turn : (state.moved position).Turn [_] _ := .lexeme inside text blank stop other read
    exact ⟨_, _, ScanState.round_of_turn turn, rfl⟩

theorem ScanState.run_of_finished {state : ScanState} {position : Position}
    (finished : state.round = .finished position) : state.run = .ok (state.closing position) := by
  rw [ScanState.run]
  split
  · next again => rw [finished] at again; cases again; rfl
  · next failed => rw [finished] at failed; cases failed
  · next advanced => rw [finished] at advanced; cases advanced

theorem ScanState.closing_symbols (state : ScanState) (position : Position) :
    (state.closing position).map (·.symbol) = (if state.lineOpen then [.newline] else []) ++
      List.replicate state.levels.length .dedent ++ [.eof] := by
  cases opened : state.lineOpen <;> simp [closing, opened]

theorem ScanState.emits_of_run {state : ScanState} {tokens : List Token} (run : state.run = .ok tokens) :
    state.Emits (tokens.map (·.symbol)) := by
  fun_induction ScanState.run state generalizing tokens with
  | case1 state position finished =>
    cases run
    intro place
    have blank := (ScanState.round_eq_finished_iff.mp finished).1
    have again : (state.moved place).round = .finished (place.after state.rest) :=
      ScanState.round_eq_finished_iff.mpr ⟨blank, rfl⟩
    exact ⟨_, ScanState.run_of_finished again, by rw [closing_symbols, closing_symbols]; rfl⟩
  | case2 => cases run
  | case3 state emitted next advanced ih =>
    obtain ⟨later, ran, rfl⟩ := map_eq_ok_iff.mp run
    rw [List.map_append]
    exact (ScanState.turn_of_round advanced).reaches.emits (ih ran)

def withoutLines (symbols : List Symbol) : List Symbol :=
  symbols.dropWhile (· == .newline)

theorem eq_nil_of_indentLevel {blanks : List Char} (level : indentLevel blanks = 0) : blanks = [] := by
  cases blanks with
  | nil => rfl
  | cons c blanks =>
    rw [indentLevel, indentWidth] at level
    split at level <;> omega

/-- A text whose first line is not indented is scanned behind another as it is alone, once the blocks
that the other left open are closed. -/
theorem atLine_emits {text : List Char} {position : Position} {tokens : List Token}
    (run : ((atLine [] true text).moved position).run = .ok tokens)
    (outer : ∀ token ∈ tokens.head?, token.symbol ≠ .indent) {levels : List Nat} {lineOpen : Bool}
    (positive : ∀ level ∈ levels, 0 < level) (first : lineOpen = true → levels = []) :
    ∃ rest, (atLine levels lineOpen text).Emits (List.replicate levels.length .dedent ++ rest) ∧
      withoutLines rest = withoutLines (tokens.map (·.symbol)) := by
  generalize same : (atLine [] true text).moved position = state at run
  -- rounds that skip a line leave the scanner at the start of one, up to the first that has symbols
  fun_induction ScanState.run state generalizing text position tokens with
  | case1 state last finished =>
    cases run
    subst same
    have blank := (ScanState.round_eq_finished_iff.mp finished).1
    have again : (atLine levels lineOpen text).round = .finished (Position.start.after text) :=
      ScanState.round_eq_finished_iff.mpr ⟨blank, rfl⟩
    have emits := ScanState.emits_of_run (ScanState.run_of_finished again)
    rw [ScanState.closing_symbols] at emits ⊢
    cases lineOpen with
    | false => exact ⟨[.eof], by simpa [atLine] using emits, rfl⟩
    | true =>
      refine ⟨[.newline, .eof], ?_, rfl⟩
      rw [first rfl] at emits ⊢
      exact emits
  | case2 => cases run
  | case3 state emitted next advanced ih =>
    subst same
    obtain ⟨later, ran, rfl⟩ := map_eq_ok_iff.mp run
    cases ScanState.turn_of_round advanced with
    | comment inside => cases inside
    | lexeme inside => cases inside
    | @skipped blanks after c start written blank stop skip =>
      obtain ⟨rest, emits, same⟩ :=
        @ih ((c :: after).drop (skippedLine (c :: after)).length) _ _ outer rfl ran
      refine ⟨rest, ?_, same⟩
      have turn : (atLine levels lineOpen text).Turn [] _ := .skipped rfl written blank stop skip
      exact turn.reaches.emits emits
    | @begun blanks after c tokens settled start written blank stop symbol indented =>
      -- an indented first line would open a block with its first token
      by_cases deeper : 0 < indentLevel blanks
      · have opening : emitted = [⟨.indent, ⟨(position.after blanks).line, 1⟩⟩] := by
          simp [ScanState.moved, atLine, indentTokens, deeper] at indented
          exact indented.1.symm
        exact absurd rfl (outer ⟨.indent, ⟨(position.after blanks).line, 1⟩⟩ (by simp [opening]))
      · cases eq_nil_of_indentLevel (Nat.eq_zero_of_not_pos deeper)
        cases (show text = c :: after from written)
        simp [ScanState.moved, atLine, indentTokens, indentLevel, settleLevels] at indented
        obtain ⟨rfl, rfl⟩ := indented
        have visible := visible_of_begun stop symbol
        have emits := ScanState.emits_of_run ran
        exact ⟨_, (atLine_outer positive lineOpen visible).emits emits, rfl⟩

/-- Two texts are scanned in one: the tokens of the first but for its end, and then those of the second.
Where a text has no lines of its own, the line end that stands for it may be missing. -/
theorem scan_append {first second : String} {tokens others : List Token}
    (scanned : scan first = .ok tokens) (otherScanned : scan second = .ok others)
    (whole : first = "" ∨ first.toList.getLast? = some '\n') (balanced : openBrackets 0 tokens = 0)
    (outer : ∀ token ∈ others.head?, token.symbol ≠ .indent) :
    ∃ before after, scan (first ++ second) = .ok (before ++ after) ∧
      withoutLines (before.map (·.symbol)) = withoutLines (tokens.dropLast.map (·.symbol)) ∧
      withoutLines (after.map (·.symbol)) = withoutLines (others.map (·.symbol)) := by
  have start : (ScanState.initial first.toList).Whole := by
    rcases whole with rfl | ends
    · exact .inl ⟨rfl, rfl⟩
    · exact .inr ends
  have settled : (ScanState.initial first.toList).Settled := ⟨List.forall_mem_nil _, fun _ _ => rfl⟩
  obtain ⟨front, last, position, rfl, lastSettled, lineStart, depth, nothing, untouched, leads⟩ :=
    ScanState.exists_seam scanned start settled balanced second.toList
  have fresh : ((atLine [] true second.toList).moved .start).run = .ok others := otherScanned
  obtain ⟨rest, emits, same⟩ := atLine_emits fresh outer lastSettled.positive
    (lastSettled.first lineStart)
  obtain ⟨later, ran, written⟩ := emits last.position
  have seam : last.extended second.toList =
      (atLine last.levels last.lineOpen second.toList).moved last.position := by
    obtain ⟨text, place, atStart, open?, levels, lineOpen⟩ := last
    cases lineStart
    cases depth
    cases nothing
    rfl
  rw [← seam] at ran
  obtain ⟨read, run, frontWritten⟩ := leads.run_eq_ok ran
  obtain ⟨closed, after, rfl, closedWritten, afterWritten⟩ := List.map_eq_append_iff.mp written
  refine ⟨read ++ closed, after, ?_, ?_, by rw [afterWritten, same]⟩
  · rw [List.append_assoc, scan, String.toList_append]
    exact run
  · rw [List.map_append, frontWritten, closedWritten]
    cases opened : last.lineOpen with
    | false => simp [ScanState.closing, opened, List.dropLast_append_of_ne_nil, ← List.append_assoc]
    | true =>
      -- before the first line nothing was emitted, and no block is open
      rw [(untouched opened).1, lastSettled.first lineStart opened]
      simp [ScanState.closing, opened, lastSettled.first lineStart opened, withoutLines]

end RawMapping
