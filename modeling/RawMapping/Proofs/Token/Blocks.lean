import Mathlib.Data.List.Chain
import Mathlib.Data.List.TakeWhile
import RawMapping.Declaration.Reader
import RawMapping.Proofs.Token.Scanning

/-! How scanned tokens are laid out. A block closes, and the text ends, only behind the end of a line;
what opens a block stands in front of a line that is not empty; and every block that is opened is
closed. -/

set_option autoImplicit false

namespace RawMapping

/-! ### What a round can do -/

theorem split_at_stop {p : Char → Bool} {text rest : List Char} {c : Char}
    (found : text.dropWhile p = c :: rest) :
    text = text.takeWhile p ++ c :: rest ∧ (∀ d ∈ text.takeWhile p, p d = true) ∧ p c = false := by
  refine ⟨?_, List.all_eq_true.mp List.all_takeWhile, ?_⟩
  · rw [← found, List.takeWhile_append_dropWhile]
  · have stop := List.head?_dropWhile_not p text
    rw [found] at stop
    simpa using stop

/-- A round that takes something off the text, by what it meets there. -/
inductive ScanState.Turn (state : ScanState) : List Token → ScanState → Prop where
  /-- A line without symbols is skipped. -/
  | skipped {blanks after : List Char} {c : Char} (start : state.lineStart = true)
      (text : state.rest = blanks ++ c :: after) (blank : ∀ d ∈ blanks, isIndentChar d = true)
      (stop : isIndentChar c = false) (skip : isLineSkip c = true) :
      Turn state [] ((state.consume blanks (c :: after)).consume (skippedLine (c :: after))
        ((c :: after).drop (skippedLine (c :: after)).length))
  /-- A line with symbols opens or closes blocks. -/
  | begun {blanks after : List Char} {c : Char} {tokens : List Token} {levels : List Nat}
      (start : state.lineStart = true) (text : state.rest = blanks ++ c :: after)
      (blank : ∀ d ∈ blanks, isIndentChar d = true) (stop : isIndentChar c = false)
      (symbol : isLineSkip c = false)
      (indented : indentTokens (state.position.after blanks).line (indentLevel blanks) state.levels =
        .ok (tokens, levels)) :
      Turn state tokens
        { state.consume blanks (c :: after) with lineStart := false, levels, lineOpen := true }
  /-- A comment is skipped up to the end of the line. -/
  | comment {spaces after : List Char} (inside : state.lineStart = false)
      (text : state.rest = spaces ++ '#' :: after) (blank : ∀ d ∈ spaces, isSpace state.depth d = true) :
      Turn state [] ((state.consume spaces ('#' :: after)).consume (('#' :: after).takeWhile isNotBreak)
        (('#' :: after).dropWhile isNotBreak))
  /-- A lexeme is read. -/
  | lexeme {spaces after : List Char} {c : Char} {lexeme : Lexeme} (inside : state.lineStart = false)
      (text : state.rest = spaces ++ c :: after) (blank : ∀ d ∈ spaces, isSpace state.depth d = true)
      (stop : isSpace state.depth c = false) (other : c ≠ '#') (read : Lexeme.read c after = .ok lexeme) :
      Turn state [⟨lexeme.symbol, state.position.after spaces⟩]
        { (state.consume spaces (c :: after)).consume lexeme.written lexeme.rest with
          lineStart := lexeme.symbol == .newline
          depth := lexeme.symbol.depthAfter state.depth
          lineOpen := lexeme.symbol != .newline }

theorem ScanState.turn_of_round {state next : ScanState} {tokens : List Token}
    (advanced : state.round = .advanced tokens next) : state.Turn tokens next := by
  unfold ScanState.round at advanced
  split at advanced
  · next start =>
    simp only [ScanState.beginLine, ScanState.consume] at advanced
    split at advanced
    · cases advanced
    · next c after found =>
      obtain ⟨text, blank, stop⟩ := split_at_stop found
      split at advanced
      · next skip =>
        cases advanced
        have turn := ScanState.Turn.skipped start text blank stop skip
        rwa [← found] at turn
      · next symbol =>
        split at advanced
        · cases advanced
        · next indented =>
          cases advanced
          have turn := ScanState.Turn.begun start text blank stop (Bool.eq_false_iff.mpr symbol) indented
          rwa [← found] at turn
  · next inside =>
    rw [Bool.not_eq_true] at inside
    simp only [ScanState.continueLine, ScanState.consume] at advanced
    split at advanced
    · cases advanced
    · next c after found =>
      obtain ⟨text, blank, stop⟩ := split_at_stop found
      split at advanced
      · next hash =>
        subst hash
        cases advanced
        exact ScanState.Turn.comment inside text blank
      · next other =>
        split at advanced
        · cases advanced
        · next lexeme read =>
          cases advanced
          exact ScanState.Turn.lexeme inside text blank stop other read

theorem ScanState.round_of_turn {state next : ScanState} {tokens : List Token}
    (turn : state.Turn tokens next) : state.round = .advanced tokens next := by
  cases turn with
  | @skipped blanks after c start text blank stop skip =>
    have first : ∀ d ∈ (c :: after).head?, isIndentChar d = false := by simpa using stop
    simp [round, start, beginLine, consume, text, takeWhile_of_stop blank first,
      dropWhile_of_stop blank first, skip]
  | @begun blanks after c tokens levels start text blank stop symbol indented =>
    have first : ∀ d ∈ (c :: after).head?, isIndentChar d = false := by simpa using stop
    simp [round, start, beginLine, consume, text, takeWhile_of_stop blank first,
      dropWhile_of_stop blank first, symbol, indented]
  | @comment spaces after inside text blank =>
    have first : ∀ d ∈ ('#' :: after).head?, isSpace state.depth d = false := by simp [isSpace]
    simp [round, inside, continueLine, consume, text, takeWhile_of_stop blank first,
      dropWhile_of_stop blank first]
  | @lexeme spaces after c lexeme inside text blank stop other read =>
    have first : ∀ d ∈ (c :: after).head?, isSpace state.depth d = false := by simpa using stop
    simp [round, inside, continueLine, consume, text, takeWhile_of_stop blank first,
      dropWhile_of_stop blank first, other, read]

def ScanState.skips (state : ScanState) (c : Char) : Bool :=
  if state.lineStart then isIndentChar c else isSpace state.depth c

theorem ScanState.round_eq_finished_iff {state : ScanState} {position : Position} :
    state.round = .finished position ↔
      (∀ c ∈ state.rest, state.skips c = true) ∧ state.position.after state.rest = position := by
  have ends {p : Char → Bool} (blank : ∀ c ∈ state.rest, p c = true) :
      state.rest.dropWhile p = [] ∧ state.rest.takeWhile p = state.rest :=
    ⟨List.dropWhile_eq_nil_iff.mpr blank, List.takeWhile_eq_self_iff.mpr blank⟩
  unfold ScanState.round skips
  cases start : state.lineStart with
  | true =>
    simp only [if_true, beginLine, consume]
    constructor
    · intro finished
      split at finished
      · next nothing =>
        have blank := List.dropWhile_eq_nil_iff.mp nothing
        rw [(ends blank).2] at finished
        exact ⟨blank, Round.finished.inj finished⟩
      · split at finished
        · cases finished
        · split at finished <;> cases finished
    · rintro ⟨blank, rfl⟩
      rw [(ends blank).1, (ends blank).2]
  | false =>
    simp only [Bool.false_eq_true, if_false, continueLine, consume]
    constructor
    · intro finished
      split at finished
      · next nothing =>
        have blank := List.dropWhile_eq_nil_iff.mp nothing
        rw [(ends blank).2] at finished
        exact ⟨blank, Round.finished.inj finished⟩
      · split at finished
        · cases finished
        · split at finished <;> cases finished
    · rintro ⟨blank, rfl⟩
      rw [(ends blank).1, (ends blank).2]

/-! ### What stands next to what -/

def Symbol.isInner : Symbol → Bool
  | .newline | .indent | .dedent | .eof => false
  | _ => true

theorem Symbol.ne_of_isInner {symbol : Symbol} (inner : symbol.isInner = true) :
    symbol ≠ .newline ∧ symbol ≠ .indent ∧ symbol ≠ .dedent ∧ symbol ≠ .eof := by
  refine ⟨?_, ?_, ?_, ?_⟩ <;> rintro rfl <;> cases inner

def Symbol.Adjoins (first second : Symbol) : Prop :=
  (second = .dedent ∨ second = .eof → first = .newline ∨ first = .dedent) ∧
    (first = .indent → second.isInner = true)

theorem Symbol.newline_adjoins (symbol : Symbol) : Symbol.newline.Adjoins symbol :=
  ⟨fun _ => .inl rfl, by simp⟩

theorem Symbol.dedent_adjoins (symbol : Symbol) : Symbol.dedent.Adjoins symbol :=
  ⟨fun _ => .inr rfl, by simp⟩

theorem Symbol.adjoins_inner (first : Symbol) {second : Symbol} (inner : second.isInner = true) :
    first.Adjoins second := by
  refine ⟨?_, fun _ => inner⟩
  rintro (rfl | rfl) <;> cases inner

theorem Symbol.inner_adjoins {first second : Symbol} (inner : first.isInner = true)
    (next : second.isInner = true ∨ second = .newline) : first.Adjoins second := by
  rcases next with inside | rfl
  · exact first.adjoins_inner inside
  · exact ⟨by simp, fun opens => absurd opens (Symbol.ne_of_isInner inner).2.1⟩

theorem Lexeme.isInner_or_newline {c : Char} {rest : List Char} {lexeme : Lexeme}
    (read : Lexeme.read c rest = .ok lexeme) :
    lexeme.symbol.isInner = true ∨ lexeme.symbol = .newline ∧ c = '\n' := by
  obtain ⟨_, -, rfl⟩ | ⟨-, rfl⟩ | ⟨-, -, rfl⟩ | ⟨_, -, rfl⟩ | ⟨symbol, known, rfl⟩ :=
    Lexeme.read_cases read
  · exact .inl rfl
  · exact .inl rfl
  · refine .inl ?_
    simp only [Lexeme.run, Symbol.ofWord]
    split <;> rfl
  · exact .inl rfl
  · have marks : ∀ mark ∈ Symbol.marks, mark.2.isInner = true ∨ mark.2 = .newline ∧ mark.1 = '\n' := by
      decide
    exact marks _ (Symbol.mem_marks known)

theorem visible_of_begun {c : Char} (stop : isIndentChar c = false) (symbol : isLineSkip c = false) :
    Visible c := by
  simp only [isIndentChar, isLineSkip, Bool.or_eq_false_iff, beq_eq_false_iff_ne] at stop symbol
  simp [Visible, stop, symbol]

theorem ScanState.run_eq_ok_cases {state : ScanState} {tokens : List Token} (run : state.run = .ok tokens) :
    (∃ position, state.round = .finished position ∧ tokens = state.closing position) ∨
      ∃ emitted next later, state.Turn emitted next ∧ next.run = .ok later ∧ tokens = emitted ++ later := by
  rw [ScanState.run] at run
  split at run
  · next finished => exact .inl ⟨_, finished, (Except.ok.inj run).symm⟩
  · cases run
  · next advanced =>
    obtain ⟨later, ran, rfl⟩ := map_eq_ok_iff.mp run
    exact .inr ⟨_, _, later, ScanState.turn_of_round advanced, ran, rfl⟩

/-- Where a visible character comes next, the next token stands inside of the line. -/
theorem ScanState.exists_inner_of_visible {state : ScanState} {tokens : List Token} {c : Char}
    {after : List Char} (inside : state.lineStart = false) (text : state.rest = c :: after)
    (visible : Visible c) (run : state.run = .ok tokens) :
    ∃ token later, tokens = token :: later ∧ token.symbol.isInner = true := by
  have front {spaces rest : List Char} {d : Char} (same : state.rest = spaces ++ d :: rest)
      (blank : ∀ e ∈ spaces, isSpace state.depth e = true) : d = c := by
    cases spaces with
    | nil => exact (List.cons.inj (same.symm.trans text)).1
    | cons e spaces =>
      obtain ⟨rfl, -⟩ := List.cons.inj (same.symm.trans text)
      exact absurd (blank e List.mem_cons_self) (by simp [visible.isSpace])
  rcases ScanState.run_eq_ok_cases run with ⟨position, finished, -⟩ | ⟨emitted, next, later, turn, -, rfl⟩
  · have blank := (ScanState.round_eq_finished_iff.mp finished).1 c (by simp [text])
    simp [skips, inside, visible.isSpace] at blank
  · cases turn with
    | skipped start => simp [inside] at start
    | begun start => simp [inside] at start
    | comment _ text blank => exact absurd (front text blank).symm visible.ne_hash
    | lexeme _ text blank stop other read =>
      refine ⟨_, later, rfl, ?_⟩
      rcases Lexeme.isInner_or_newline read with inner | ⟨-, rfl⟩
      · exact inner
      · rw [← front text blank] at visible
        exact absurd visible (by decide)

theorem isChain_dedents (count : Nat) {symbols : List Symbol} (chain : symbols.IsChain Symbol.Adjoins) :
    (List.replicate count Symbol.dedent ++ symbols).IsChain Symbol.Adjoins := by
  induction count with
  | zero => exact chain
  | succ count ih =>
    rw [List.replicate_succ, List.cons_append, List.isChain_cons]
    exact ⟨fun symbol _ => symbol.dedent_adjoins, ih⟩

theorem ScanState.isChain_closing (state : ScanState) (position : Position) :
    ((state.closing position).map (·.symbol)).IsChain Symbol.Adjoins := by
  have blocks := isChain_dedents state.levels.length (List.IsChain.singleton Symbol.eof)
  unfold closing
  cases state.lineOpen with
  | false => simpa using blocks
  | true =>
    have line : (Symbol.newline :: (List.replicate state.levels.length .dedent ++ [.eof])).IsChain
        Symbol.Adjoins := List.isChain_cons.mpr ⟨fun symbol _ => symbol.newline_adjoins, blocks⟩
    simpa using line

/-- The levels of a line come out as one opened block, or as some closed ones. -/
theorem indentTokens_cases {line level : Nat} {levels settled : List Nat} {tokens : List Token}
    (indented : indentTokens line level levels = .ok (tokens, settled)) :
    (tokens.map (·.symbol) = [.indent] ∧ settled.length = levels.length + 1) ∨
      ∃ closed, tokens.map (·.symbol) = List.replicate closed .dedent ∧
        closed + settled.length = levels.length := by
  unfold indentTokens at indented
  dsimp only at indented
  split at indented
  · cases indented
    exact .inl ⟨rfl, rfl⟩
  · split at indented
    · cases indented
      refine .inr ⟨_, List.map_replicate, ?_⟩
      have whole := congrArg List.length
        (List.takeWhile_append_dropWhile (p := fun other => decide (level < other)) (l := levels))
      rwa [List.length_append] at whole
    · cases indented

def ScanState.Opened (state : ScanState) : Prop :=
  state.lineStart = false → state.lineOpen = true

theorem ScanState.Turn.opened {state next : ScanState} {tokens : List Token} (turn : state.Turn tokens next)
    (opened : state.Opened) : next.Opened := by
  cases turn with
  | skipped start => exact fun inside => absurd (start.symm.trans inside) (by simp)
  | begun => exact fun _ => rfl
  | comment inside => exact fun _ => opened inside
  | lexeme inside text blank stop other read =>
    intro later
    simpa using later

theorem ScanState.isChain_run {state : ScanState} {tokens : List Token} (opened : state.Opened)
    (run : state.run = .ok tokens) :
    (tokens.map (·.symbol)).IsChain Symbol.Adjoins ∧
      (state.lineStart = false → ∀ token ∈ tokens.head?,
        token.symbol.isInner = true ∨ token.symbol = .newline) := by
  fun_induction ScanState.run state generalizing tokens with
  | case1 state position _ =>
    cases run
    refine ⟨state.isChain_closing position, fun inside => ?_⟩
    simp [closing, opened inside]
  | case2 => cases run
  | case3 state emitted next advanced ih =>
    obtain ⟨later, ran, rfl⟩ := map_eq_ok_iff.mp run
    have turn := ScanState.turn_of_round advanced
    obtain ⟨chain, front⟩ := ih (turn.opened opened) ran
    cases turn with
    | skipped start => exact ⟨chain, fun inside => absurd (start.symm.trans inside) (by simp)⟩
    | comment inside => exact ⟨chain, fun _ => front inside⟩
    | begun start text blank stop symbol indented =>
      refine ⟨?_, fun inside => absurd (start.symm.trans inside) (by simp)⟩
      -- the character that the line begins with is read next
      obtain ⟨token, rest, rfl, inner⟩ :=
        ScanState.exists_inner_of_visible rfl rfl (visible_of_begun stop symbol) ran
      rw [List.map_append]
      rcases indentTokens_cases indented with ⟨written, -⟩ | ⟨closed, written, -⟩
      · rw [written]
        exact List.isChain_cons_cons.mpr ⟨Symbol.indent.adjoins_inner inner, chain⟩
      · rw [written]
        exact isChain_dedents closed chain
    | @lexeme spaces after c lexeme inside text blank stop other read =>
      rcases Lexeme.isInner_or_newline read with inner | ⟨line, -⟩
      · refine ⟨?_, fun _ => by simp [inner]⟩
        cases later with
        | nil => exact .singleton _
        | cons token later =>
          refine List.isChain_cons_cons.mpr ⟨?_, chain⟩
          have inside : (lexeme.symbol == .newline) = false :=
            beq_eq_false_iff_ne.mpr (Symbol.ne_of_isInner inner).1
          exact Symbol.inner_adjoins inner (front inside token rfl)
      · refine ⟨List.isChain_cons.mpr ⟨?_, chain⟩, fun _ => by simp [line]⟩
        intro symbol _
        rw [line]
        exact symbol.newline_adjoins

/-! ### Blocks -/

theorem Lexeme.opens_no_block {c : Char} {rest : List Char} {lexeme : Lexeme}
    (read : Lexeme.read c rest = .ok lexeme) : lexeme.symbol ≠ .indent ∧ lexeme.symbol ≠ .dedent := by
  rcases Lexeme.isInner_or_newline read with inner | ⟨line, -⟩
  · exact ⟨(Symbol.ne_of_isInner inner).2.1, (Symbol.ne_of_isInner inner).2.2.1⟩
  · simp [line]

theorem ScanState.count_run {state : ScanState} {tokens : List Token} (run : state.run = .ok tokens) :
    (tokens.map (·.symbol)).count .dedent =
      state.levels.length + (tokens.map (·.symbol)).count .indent := by
  fun_induction ScanState.run state generalizing tokens with
  | case1 state position _ =>
    cases run
    cases open? : state.lineOpen <;> simp [closing, open?, List.count_replicate]
  | case2 => cases run
  | case3 state emitted next advanced ih =>
    obtain ⟨later, ran, rfl⟩ := map_eq_ok_iff.mp run
    have rest := ih ran
    rw [List.map_append, List.count_append, List.count_append]
    -- each round opens and closes as many blocks as its stack gains and loses
    cases ScanState.turn_of_round advanced with
    | skipped => simpa [consume] using rest
    | comment => simpa [consume] using rest
    | begun start text blank stop symbol indented =>
      rcases indentTokens_cases indented with ⟨written, deeper⟩ | ⟨closed, written, settled⟩
      · simp only [written, List.count_singleton] at rest ⊢
        simp
        omega
      · simp only [written, List.count_replicate] at rest ⊢
        simp
        omega
    | lexeme inside text blank stop other read =>
      obtain ⟨opens, closes⟩ := Lexeme.opens_no_block read
      simpa [consume, List.count_cons, opens, closes] using rest

/-- Tokens as a scanner leaves them, of which some blocks are open already. -/
structure Laid (depth : Nat) (tokens : List Token) : Prop where
  chain : (tokens.map (·.symbol)).IsChain Symbol.Adjoins
  ends : ∃ front position, tokens = front ++ [⟨.eof, position⟩] ∧ ∀ token ∈ front, token.symbol ≠ .eof
  blocks : (tokens.map (·.symbol)).count .dedent = depth + (tokens.map (·.symbol)).count .indent

theorem laid_of_scan {source : String} {tokens : List Token} (scanned : scan source = .ok tokens) :
    Laid 0 tokens where
  chain := (ScanState.isChain_run (fun inside => absurd inside (by simp [ScanState.initial])) scanned).1
  ends := ScanState.run_ends scanned
  blocks := ScanState.count_run scanned

section

variable {depth : Nat} {token : Token} {rest : List Token}

theorem Laid.ends_tail (laid : Laid depth (token :: rest)) (other : token.symbol ≠ .eof) :
    ∃ front position, rest = front ++ [⟨.eof, position⟩] ∧ ∀ token ∈ front, token.symbol ≠ .eof := by
  obtain ⟨front, position, split, inside⟩ := laid.ends
  cases front with
  | nil =>
    obtain ⟨rfl, -⟩ := List.cons.inj split
    exact absurd rfl other
  | cons first front =>
    exact ⟨front, position, (List.cons.inj split).2, fun token member =>
      inside token (List.mem_cons_of_mem _ member)⟩

theorem Laid.tail {other : Nat} (laid : Laid depth (token :: rest)) (more : token.symbol ≠ .eof)
    (blocks : depth + (if token.symbol = .indent then 1 else 0) =
      other + (if token.symbol = .dedent then 1 else 0)) : Laid other rest where
  chain := laid.chain.tail
  ends := laid.ends_tail more
  blocks := by
    have all := laid.blocks
    simp only [List.map_cons, List.count_cons, beq_iff_eq] at all
    omega

theorem Laid.indent {position : Position} (laid : Laid depth (⟨.indent, position⟩ :: rest)) :
    Laid (depth + 1) rest :=
  laid.tail (by simp) (by simp)

theorem Laid.dedent {position : Position} (laid : Laid (depth + 1) (⟨.dedent, position⟩ :: rest)) :
    Laid depth rest :=
  laid.tail (by simp) (by simp)

def Blockless (tokens : List Token) : Prop :=
  ∀ token ∈ tokens, token.symbol.isInner = true ∨ token.symbol = .newline

theorem Laid.behind {word : List Token} (blockless : Blockless word) (laid : Laid depth (word ++ rest)) :
    Laid depth rest := by
  induction word with
  | nil => exact laid
  | cons token word ih =>
    obtain ⟨first, blockless⟩ := List.forall_mem_cons.mp blockless
    have inside : token.symbol ≠ .indent ∧ token.symbol ≠ .dedent ∧ token.symbol ≠ .eof := by
      rcases first with inner | line
      · exact (Symbol.ne_of_isInner inner).2
      · simp [line]
    exact ih blockless (Laid.tail laid inside.2.2 (by simp [inside]))

/-- The text does not end inside of a block. -/
theorem Laid.current_ne_eof {tokens : List Token} (laid : Laid (depth + 1) tokens) :
    (current tokens).symbol ≠ .eof := by
  obtain ⟨front, position, rfl, inside⟩ := laid.ends
  cases front with
  | nil =>
    have blocks := laid.blocks
    simp at blocks
  | cons token front => exact inside token List.mem_cons_self

/-- A line goes on behind what stands inside of it, or it ends first. -/
theorem Laid.after_inner (laid : Laid depth (token :: rest)) (inner : token.symbol.isInner = true) :
    (current rest).symbol ≠ .dedent ∧ (current rest).symbol ≠ .eof := by
  obtain ⟨line, -, block, text⟩ := Symbol.ne_of_isInner inner
  obtain ⟨front, position, written, -⟩ := laid.ends_tail text
  cases rest with
  | nil => simp at written
  | cons next later =>
    have adjoins : token.symbol.Adjoins next.symbol := (List.isChain_cons_cons.mp laid.chain).1
    have allowed : ¬ (next.symbol = .dedent ∨ next.symbol = .eof) := fun ends =>
      (adjoins.1 ends).elim line block
    exact not_or.mp allowed

theorem Laid.after_word {word : List Token} (laid : Laid depth (word ++ rest)) (some : word ≠ [])
    (inner : ∀ token ∈ word, token.symbol.isInner = true) :
    (current rest).symbol ≠ .dedent ∧ (current rest).symbol ≠ .eof := by
  have blockless : Blockless word.dropLast :=
    fun token member => .inl (inner token (List.dropLast_subset word member))
  rw [← List.dropLast_append_getLast some, List.append_assoc] at laid
  exact (Laid.behind blockless laid).after_inner (inner _ (List.getLast_mem some))

theorem Laid.eq_end {tokens : List Token} (laid : Laid depth tokens)
    (ended : (current tokens).symbol = .eof) : ∃ position, tokens = [⟨.eof, position⟩] := by
  obtain ⟨front, position, rfl, inside⟩ := laid.ends
  cases front with
  | nil => exact ⟨position, rfl⟩
  | cons token front => exact absurd ended (inside token List.mem_cons_self)

/-- The first line of a block is not empty. -/
theorem Laid.after_indent {position : Position} (laid : Laid depth (⟨.indent, position⟩ :: rest)) :
    (current rest).symbol ≠ .newline := by
  obtain ⟨front, last, written, -⟩ := laid.ends_tail (by simp)
  cases rest with
  | nil => simp at written
  | cons next later =>
    have adjoins : Symbol.indent.Adjoins next.symbol := (List.isChain_cons_cons.mp laid.chain).1
    intro (line : next.symbol = .newline)
    have inner := adjoins.2 rfl
    rw [line] at inner
    cases inner

end

end RawMapping
