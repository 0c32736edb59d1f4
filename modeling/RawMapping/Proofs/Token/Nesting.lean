import Mathlib.Data.List.Infix
import RawMapping.Proofs.Token.Blocks

/-! How blocks nest. The scanner keeps the levels of the open blocks on a stack, above the level of the
text itself, which is zero and never closed. The levels rise from the bottom to the top, so there always
is a top to read; and the tokens open and close blocks the way brackets are opened and closed. -/

set_option autoImplicit false

namespace RawMapping

/-! ### The stack of levels -/

/-- The levels of the open blocks, innermost first, and below them that of the text. -/
def ScanState.stack (state : ScanState) : List Nat :=
  state.levels ++ [0]

structure Nested (stack : List Nat) : Prop where
  rising : stack.Pairwise (· > ·)
  bottom : stack.getLast? = some 0

theorem Nested.text : Nested [0] :=
  ⟨List.pairwise_singleton _ _, rfl⟩

theorem Nested.exists_top {stack : List Nat} (nested : Nested stack) :
    ∃ top below, stack = top :: below := by
  cases stack with
  | nil => cases nested.bottom
  | cons top below => exact ⟨top, below, rfl⟩

theorem Nested.opened {stack : List Nat} {level : Nat} (nested : Nested stack)
    (deeper : stack.headD 0 < level) : Nested (level :: stack) := by
  obtain ⟨top, below, rfl⟩ := nested.exists_top
  refine ⟨List.pairwise_cons.mpr ⟨fun other member => ?_, nested.rising⟩, ?_⟩
  · rcases List.mem_cons.mp member with rfl | inside
    · exact deeper
    · exact Nat.lt_trans ((List.pairwise_cons.mp nested.rising).1 other inside) deeper
  · rw [List.getLast?_cons_cons]
    exact nested.bottom

theorem Nested.closed {stack kept : List Nat} (nested : Nested stack) (left : kept <:+ stack)
    (some : kept ≠ []) : Nested kept := by
  obtain ⟨closed, rfl⟩ := left
  have bottom := nested.bottom
  rw [List.getLast?_append_of_ne_nil _ some] at bottom
  exact ⟨(List.pairwise_append.mp nested.rising).2.1, bottom⟩

/-- The stacks on the way as blocks are closed one at a time while the top is above the level. -/
def closingStacks (level : Nat) : List Nat → List (List Nat)
  | [] => [[]]
  | top :: below => (top :: below) :: if level < top then closingStacks level below else []

/-- No level is below that of the text, so closing comes to its end above the bottom. -/
theorem Nested.of_mem_closingStacks {level : Nat} {stack left : List Nat} (nested : Nested stack)
    (member : left ∈ closingStacks level stack) : Nested left := by
  induction stack with
  | nil => cases nested.bottom
  | cons top below ih =>
    rcases List.mem_cons.mp member with rfl | later
    · exact nested
    · split at later
      · next higher =>
        have some : below ≠ [] := by
          rintro rfl
          cases Option.some.inj nested.bottom
          exact Nat.not_lt_zero _ higher
        exact ih (nested.closed (List.suffix_cons top below) some) later
      · cases later

theorem closingStacks_levels (level : Nat) (levels : List Nat) :
    (closingStacks level (levels ++ [0])).getLast? = some ((settleLevels level levels).2 ++ [0]) ∧
      (closingStacks level (levels ++ [0])).length = (settleLevels level levels).1 + 1 := by
  induction levels with
  | nil => simp [closingStacks, settleLevels]
  | cons top below ih =>
    rw [List.cons_append, closingStacks]
    by_cases higher : level < top
    · obtain ⟨last, length⟩ := ih
      simp [settleLevels, higher] at last length ⊢
      exact ⟨by rw [List.getLast?_cons, last]; rfl, length⟩
    · simp [settleLevels, higher]

/-- The tokens and the stack for a line at a level, where the top is read from the stack each time. There
is no answer where the stack has no top. -/
def settleStack (line level : Nat) (stack : List Nat) :
    Option (Except SyntaxError (List Token × List Nat)) := do
  let top ← stack.head?
  if top < level then
    some (.ok ([⟨.indent, ⟨line, 1⟩⟩], level :: stack))
  else
    let trail := closingStacks level stack
    let kept ← trail.getLast?
    let found ← kept.head?
    if found = level then
      some (.ok (List.replicate (trail.length - 1) ⟨.dedent, ⟨line, 1⟩⟩, kept))
    else some (.error ⟨.inconsistentIndentation found level, ⟨line, 1⟩⟩)

theorem head?_levels (levels : List Nat) : (levels ++ [0]).head? = some (levels.headD 0) := by
  cases levels <;> rfl

theorem settleStack_levels (line level : Nat) (levels : List Nat) :
    settleStack line level (levels ++ [0]) =
      some ((indentTokens line level levels).map fun (tokens, kept) => (tokens, kept ++ [0])) := by
  obtain ⟨last, length⟩ := closingStacks_levels level levels
  unfold settleStack indentTokens
  simp only [Option.bind_eq_bind, head?_levels, last, length, Option.bind_some, Nat.add_sub_cancel]
  by_cases deeper : levels.headD 0 < level
  · rw [if_pos deeper, if_pos deeper]
    rfl
  · rw [if_neg deeper, if_neg deeper]
    by_cases same : (settleLevels level levels).2.headD 0 = level
    · rw [if_pos same, if_pos same]
      rfl
    · rw [if_neg same, if_neg same]
      rfl

def ScanState.settling? (state : ScanState) : Option Nat :=
  match state.rest.dropWhile isIndentChar with
  | [] => none
  | c :: _ =>
    if state.lineStart ∧ ¬ isLineSkip c then some (indentLevel (state.rest.takeWhile isIndentChar))
    else none

/-- The stacks of one round, up to the last that is kept. -/
def ScanState.roundStacks (state : ScanState) : List (List Nat) :=
  match state.settling? with
  | some level => closingStacks level state.stack
  | none => [state.stack]

/-- The stacks that the scanner goes through, also where it fails. At the end of the text blocks are closed
one at a time as long as more than the text is left. -/
def ScanState.allStacks (state : ScanState) : List (List Nat) :=
  match _h : state.round with
  | .finished _ => state.stack.tails.filter (· ≠ [])
  | .failed _ => state.roundStacks
  | .advanced _ next => state.roundStacks ++ next.allStacks
termination_by state.remaining
decreasing_by exact remaining_round ‹_›

theorem ScanState.nested_roundStacks {state : ScanState} (nested : Nested state.stack) :
    ∀ stack ∈ state.roundStacks, Nested stack := by
  intro stack member
  unfold roundStacks at member
  split at member
  · exact nested.of_mem_closingStacks member
  · rwa [List.mem_singleton.mp member]

theorem ScanState.Turn.nested {state next : ScanState} {tokens : List Token}
    (turn : state.Turn tokens next) (nested : Nested state.stack) : Nested next.stack := by
  cases turn with
  | skipped => exact nested
  | comment => exact nested
  | lexeme => exact nested
  | @begun blanks after c tokens levels start text blank stop symbol indented =>
    unfold indentTokens at indented
    dsimp only at indented
    split at indented
    · next deeper =>
      cases indented
      refine nested.opened ?_
      cases opened : state.levels <;> simpa [ScanState.stack, opened] using deeper
    · split at indented
      · cases indented
        obtain ⟨closed, split⟩ : (settleLevels _ state.levels).2 <:+ state.levels := List.dropWhile_suffix _
        have left : (settleLevels (indentLevel blanks) state.levels).2 ++ [0] <:+ state.stack :=
          ⟨closed, by rw [← List.append_assoc, split, ScanState.stack]⟩
        exact nested.closed left (by simp [ScanState.stack])
      · cases indented

theorem ScanState.nested_allStacks {state : ScanState} (nested : Nested state.stack) :
    ∀ stack ∈ state.allStacks, Nested stack := by
  fun_induction ScanState.allStacks state with
  | case1 state position finished =>
    intro stack member
    obtain ⟨left, some⟩ := List.mem_filter.mp member
    exact nested.closed ((List.mem_tails _ _).mp left) (by simpa using some)
  | case2 state error failed => exact nested_roundStacks nested
  | case3 state tokens next advanced ih =>
    intro stack member
    rcases List.mem_append.mp member with here | later
    · exact nested_roundStacks nested stack here
    · exact ih ((ScanState.turn_of_round advanced).nested nested) stack later

/-! ### What stands behind the end of a line -/

/-- The second symbol can stand right behind the first: only behind the end of a line a block is opened,
and no line ends there again. -/
def Symbol.Follows (first second : Symbol) : Prop :=
  (second = .indent → first = .newline) ∧ (first = .newline → second ≠ .newline)

theorem isChain_follows_dedents (count : Nat) {symbols : List Symbol}
    (chain : symbols.IsChain Symbol.Follows) (front : ∀ symbol ∈ symbols.head?, symbol ≠ .indent) :
    (List.replicate count Symbol.dedent ++ symbols).IsChain Symbol.Follows ∧
      ∀ symbol ∈ (List.replicate count Symbol.dedent ++ symbols).head?, symbol ≠ .indent := by
  induction count with
  | zero => exact ⟨chain, front⟩
  | succ count ih =>
    rw [List.replicate_succ, List.cons_append]
    refine ⟨List.isChain_cons.mpr ⟨fun symbol member => ⟨?_, by simp⟩, ih.1⟩, by simp⟩
    exact fun opens => absurd opens (ih.2 symbol member)

/-- Where the last line is over already, no symbol that closes the text ends one again. -/
theorem ScanState.isChain_follows_closing (state : ScanState) (position : Position) :
    ((state.closing position).map (·.symbol)).IsChain Symbol.Follows ∧
      (state.lineOpen = false → ∀ symbol ∈ ((state.closing position).map (·.symbol)).head?,
        symbol ≠ .newline) := by
  obtain ⟨blocks, front⟩ := isChain_follows_dedents state.levels.length
    (List.IsChain.singleton Symbol.eof) (by simp)
  have closes : ∀ symbol ∈ (List.replicate state.levels.length Symbol.dedent ++ [Symbol.eof]).head?,
      symbol ≠ .newline := by
    cases state.levels.length <;> simp [List.replicate_succ]
  unfold closing
  cases state.lineOpen with
  | false => exact ⟨by simpa using blocks, fun _ => by simpa using closes⟩
  | true =>
    have line : (Symbol.newline :: (List.replicate state.levels.length .dedent ++ [.eof])).IsChain
        Symbol.Follows := List.isChain_cons.mpr
      ⟨fun symbol member => ⟨fun _ => rfl, fun _ => closes symbol member⟩, blocks⟩
    exact ⟨by simpa using line, by simp⟩

theorem ScanState.isChain_follows {state : ScanState} {tokens : List Token} (opened : state.Opened)
    (run : state.run = .ok tokens) :
    (tokens.map (·.symbol)).IsChain Symbol.Follows ∧
      (state.lineOpen = false → ∀ symbol ∈ (tokens.map (·.symbol)).head?, symbol ≠ .newline) := by
  fun_induction ScanState.run state generalizing tokens with
  | case1 state position _ =>
    cases run
    exact state.isChain_follows_closing position
  | case2 => cases run
  | case3 state emitted next advanced ih =>
    obtain ⟨later, ran, rfl⟩ := map_eq_ok_iff.mp run
    have turn := ScanState.turn_of_round advanced
    obtain ⟨chain, front⟩ := ih (turn.opened opened) ran
    have inside := (ScanState.isChain_run (turn.opened opened) ran).2
    cases turn with
    | skipped => exact ⟨chain, front⟩
    | comment => exact ⟨chain, front⟩
    | begun start text blank stop symbol indented =>
      obtain ⟨token, rest, rfl, inner⟩ :=
        ScanState.exists_inner_of_visible rfl rfl (visible_of_begun stop symbol) ran
      obtain ⟨line, opens, -⟩ := Symbol.ne_of_isInner inner
      rw [List.map_append]
      rcases indentTokens_cases indented with ⟨written, -⟩ | ⟨closed, written, -⟩
      · rw [written]
        exact ⟨List.isChain_cons_cons.mpr ⟨⟨fun same => absurd same opens, by simp⟩, chain⟩, by simp⟩
      · rw [written]
        refine ⟨(isChain_follows_dedents closed chain (by simpa using opens)).1, fun _ => ?_⟩
        cases closed <;> simp [List.replicate_succ, line]
    | @lexeme spaces after c lexeme within text blank stop other read =>
      refine ⟨List.isChain_cons.mpr ⟨fun symbol member => ?_, chain⟩, fun ended => ?_⟩
      · rcases Lexeme.isInner_or_newline read with inner | ⟨line, -⟩
        · obtain ⟨line, -⟩ := Symbol.ne_of_isInner inner
          obtain ⟨token, first, rfl⟩ : ∃ token ∈ later.head?, token.symbol = symbol := by
            simpa using member
          refine ⟨fun opens => ?_, fun same => absurd same line⟩
          rcases inside (by simpa using line) token first with inner | ends
          · exact absurd opens (Symbol.ne_of_isInner inner).2.1
          · simp [ends] at opens
        · exact ⟨fun _ => line, fun _ => front (by simp [line]) symbol member⟩
      · -- inside of a line its end is still to come
        exact absurd (opened within) (by simp [ended])

/-! ### How many blocks are open -/

theorem prefix_append_cases {α : Type} {front first second : List α} (ahead : front <+: first ++ second) :
    front <+: first ∨ ∃ rest, rest <+: second ∧ front = first ++ rest := by
  rcases List.prefix_or_prefix_of_prefix ahead (List.prefix_append first second) with before | behind
  · exact .inl before
  · obtain ⟨rest, rfl⟩ := behind
    exact .inr ⟨rest, (List.prefix_append_right_inj first).mp ahead, rfl⟩

theorem ScanState.count_prefix_le {state : ScanState} {tokens : List Token} (run : state.run = .ok tokens)
    {front : List Symbol} (ahead : front <+: tokens.map (·.symbol)) :
    front.count .dedent ≤ state.levels.length + front.count .indent := by
  fun_induction ScanState.run state generalizing tokens front with
  | case1 state position _ =>
    cases run
    have closed := ahead.sublist.count_le Symbol.dedent
    have all : ((state.closing position).map (·.symbol)).count .dedent = state.levels.length := by
      cases open? : state.lineOpen <;> simp [closing, open?]
    omega
  | case2 => cases run
  | case3 state emitted next advanced ih =>
    obtain ⟨later, ran, rfl⟩ := map_eq_ok_iff.mp run
    rw [List.map_append] at ahead
    have step : (emitted.map (·.symbol)).count .dedent + next.levels.length =
          state.levels.length + (emitted.map (·.symbol)).count .indent ∧
        (emitted.map (·.symbol)).count .dedent ≤ state.levels.length := by
      cases ScanState.turn_of_round advanced with
      | skipped => simp [consume]
      | comment => simp [consume]
      | begun start text blank stop symbol indented =>
        rcases indentTokens_cases indented with ⟨written, deeper⟩ | ⟨closed, written, settled⟩
        · simp [written, deeper]
        · simp only [written, List.count_replicate]
          simp
          omega
      | lexeme inside text blank stop other read =>
        obtain ⟨opens, closes⟩ := Lexeme.opens_no_block read
        simp [consume, opens, closes]
    -- the part ends inside of what this round emits, or behind it
    rcases prefix_append_cases ahead with before | ⟨rest, behind, rfl⟩
    · have fewer := before.sublist.count_le Symbol.dedent
      omega
    · have fewer := ih ran behind
      rw [List.count_append, List.count_append]
      omega

/-- The text ends behind the end of a line with the blocks that are still open. -/
theorem ScanState.run_closed {state : ScanState} {tokens : List Token} (run : state.run = .ok tokens) :
    ∃ front count, (if state.lineOpen then [] else [Symbol.newline]) ++ tokens.map (·.symbol) =
      front ++ .newline :: (List.replicate count .dedent ++ [.eof]) := by
  fun_induction ScanState.run state generalizing tokens with
  | case1 state position _ =>
    cases run
    refine ⟨[], state.levels.length, ?_⟩
    cases opened : state.lineOpen <;> simp [closing, opened]
  | case2 => cases run
  | case3 state emitted next advanced ih =>
    obtain ⟨later, ran, rfl⟩ := map_eq_ok_iff.mp run
    obtain ⟨front, count, closed⟩ := ih ran
    cases ScanState.turn_of_round advanced with
    | skipped => exact ⟨front, count, closed⟩
    | comment => exact ⟨front, count, closed⟩
    | begun =>
      simp only [if_true, List.nil_append] at closed
      exact ⟨_, count, by rw [List.map_append, closed, ← List.append_assoc, ← List.append_assoc]⟩
    | @lexeme spaces after c lexeme =>
      rw [List.map_append, List.map_singleton, ← List.append_assoc]
      by_cases line : lexeme.symbol = .newline
      · simp only [line, bne_self_eq_false, Bool.false_eq_true, if_false, List.singleton_append] at closed ⊢
        exact ⟨_, count, by rw [List.append_assoc, List.singleton_append, closed, ← List.append_assoc]⟩
      · simp only [bne_iff_ne.mpr line, if_true, List.nil_append] at closed
        exact ⟨_, count, by rw [closed, ← List.append_assoc]⟩

/-- Symbols whose blocks are opened and closed like brackets, between lines. -/
structure BlockStructured (symbols : List Symbol) : Prop where
  ends : ∃ front count, symbols = front ++ .newline :: (List.replicate count .dedent ++ [.eof]) ∧
    .eof ∉ front
  lines : ¬ [.newline, .newline] <:+: symbols
  opens : ∀ before after, symbols = before ++ .indent :: after →
    before = [] ∨ before.getLast? = some .newline
  closes : ∀ before after, symbols = before ++ .dedent :: after →
    before.getLast? = some .newline ∨ before.getLast? = some .dedent
  depth : ∀ front, front <+: symbols → front.count .dedent ≤ front.count .indent
  balance : symbols.count .dedent = symbols.count .indent

/-- What stands in front of a symbol in a chain is related to it. -/
theorem rel_of_chain_split {α : Type} {rel : α → α → Prop} {before after : List α} {first second : α}
    (chain : (before ++ second :: after).IsChain rel) (last : before.getLast? = some first) :
    rel first second :=
  (List.isChain_append.mp chain).2.2 first last second rfl

theorem blockStructured_of_scan {source : String} {tokens : List Token} (scanned : scan source = .ok tokens) :
    BlockStructured (tokens.map (·.symbol)) := by
  have opened : (ScanState.initial source.toList).Opened := fun inside => by cases inside
  have adjoin := (ScanState.isChain_run opened scanned).1
  have follow := (ScanState.isChain_follows opened scanned).1
  have depth (front : List Symbol) (ahead : front <+: tokens.map (·.symbol)) :
      front.count .dedent ≤ front.count .indent := by
    simpa [ScanState.initial] using ScanState.count_prefix_le scanned ahead
  constructor
  case ends =>
    obtain ⟨front, count, closed⟩ := ScanState.run_closed scanned
    obtain ⟨inside, position, rfl, noEnd⟩ := ScanState.run_ends scanned
    have same : inside.map (·.symbol) ++ [Symbol.eof] =
        (front ++ .newline :: List.replicate count .dedent) ++ [.eof] := by
      simpa [ScanState.initial] using closed
    have split := (List.append_inj' same rfl).1
    refine ⟨front, count, by simpa [ScanState.initial] using closed, fun member => ?_⟩
    have member : Symbol.eof ∈ inside.map (·.symbol) := by
      rw [split]
      exact List.mem_append_left _ member
    obtain ⟨token, isToken, same⟩ := List.mem_map.mp member
    exact noEnd token isToken same
  case lines =>
    intro twice
    have pair := List.IsChain.infix follow twice
    exact (List.isChain_pair.mp pair).2 rfl rfl
  case opens =>
    intro before after split
    cases last : before.getLast? with
    | none => exact .inl (List.getLast?_eq_none_iff.mp last)
    | some first =>
      rw [split] at follow
      exact .inr (congrArg some ((rel_of_chain_split follow last).1 rfl))
  case closes =>
    intro before after split
    cases last : before.getLast? with
    | none =>
      -- no block is open at the start, so none can be closed there
      rw [List.getLast?_eq_none_iff.mp last] at split
      have first := depth [.dedent] ⟨after, split.symm⟩
      simp at first
    | some first =>
      rw [split] at adjoin
      rcases (rel_of_chain_split adjoin last).1 (.inl rfl) with rfl | rfl
      · exact .inl rfl
      · exact .inr rfl
  case depth => exact depth
  case balance => simpa [ScanState.initial] using ScanState.count_run scanned

/-- The tokens of every text that is accepted open and close blocks like brackets, between lines. In every
text, accepted or not, the stack of levels is nested whenever it is looked at: its top can be read, and
what is read there is what settles the line. -/
theorem scan_nests (source : String) :
    (∀ tokens, scan source = .ok tokens → BlockStructured (tokens.map (·.symbol))) ∧
      (∀ stack ∈ (ScanState.initial source.toList).allStacks,
        Nested stack ∧ ∃ top below, stack = top :: below) ∧
      ∀ (state : ScanState) (line level : Nat), settleStack line level state.stack =
        some ((indentTokens line level state.levels).map fun (tokens, kept) => (tokens, kept ++ [0])) := by
  refine ⟨fun tokens scanned => blockStructured_of_scan scanned, fun stack member => ?_, ?_⟩
  · have bottom : Nested (ScanState.initial source.toList).stack := Nested.text
    have nested := ScanState.nested_allStacks bottom stack member
    exact ⟨nested, nested.exists_top⟩
  · exact fun state line level => settleStack_levels line level state.levels

/-- Two blocks, one inside of the other and both left open at the end of the text. -/
theorem shelf_nests : ∃ tokens, scan "struct Shelf:\n  plank\n    # old\n    nail" = .ok tokens ∧
    (tokens.map (·.symbol)).count .dedent = 2 ∧ BlockStructured (tokens.map (·.symbol)) := by
  have closed : (scan "struct Shelf:\n  plank\n    # old\n    nail").map
      (fun tokens => (tokens.map (·.symbol)).count .dedent) = .ok 2 := by
    decide +kernel
  obtain ⟨tokens, scanned, blocks⟩ := map_eq_ok_iff.mp closed
  exact ⟨tokens, scanned, blocks, (scan_nests _).1 tokens scanned⟩

end RawMapping
