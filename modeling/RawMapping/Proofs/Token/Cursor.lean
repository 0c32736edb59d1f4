import RawMapping.Proofs.Token.Nesting

/-! A scanner with a cursor. It reads the text by index, keeps the levels on a stack and its tokens in a list,
and leaves its loops from the inside, so each of its steps could go wrong: an index behind the end, a stack
without a top, a word that no table has, a round of a loop that takes nothing. All of these are failures
here. -/

set_option autoImplicit false

namespace RawMapping

variable {σ α β : Type}

/-! ### Computations that may go wrong -/

/-- What can end a computation early. Only a rejected text is meant to. -/
inductive Failure where
  | rejected (error : SyntaxError)
  | outOfRange
  | emptyStack
  | unknownType (word : String)
  /-- A round of a loop has taken nothing and would go on. -/
  | stalled
  deriving DecidableEq, Repr

abbrev Machine (σ α : Type) :=
  StateT σ (Except Failure) α

def fail (failure : Failure) : Machine σ α :=
  fun _ => .error failure

theorem Machine.bind_of_ok {first : Machine σ α} {next : α → Machine σ β} {state after : σ} {value : α}
    (ran : first state = .ok (value, after)) : (first >>= next) state = next value after := by
  simp only [bind, StateT.bind, ran, Except.bind]

theorem Machine.bind_of_error {first : Machine σ α} {next : α → Machine σ β} {state : σ} {failure : Failure}
    (failed : first state = .error failure) : (first >>= next) state = .error failure := by
  simp only [bind, StateT.bind, failed, Except.bind]

theorem Machine.bind_congr {first other : Machine σ α} {state later : σ} (same : first state = other later)
    (next : α → Machine σ β) : (first >>= next) state = (other >>= next) later := by
  simp only [bind, StateT.bind, same]

theorem Machine.get_bind (next : σ → Machine σ β) (state : σ) : (get >>= next) state = next state state :=
  rfl

theorem Machine.pure_run (value : α) (state : σ) : (pure value : Machine σ α) state = .ok (value, state) :=
  rfl

/-- Rounds that go on until one of them leaves the loop. Each round that goes on has to take something. -/
def loop (measure : σ → Nat) (round : α → Machine σ (α ⊕ β)) (carried : α) : Machine σ β := fun state =>
  match round carried state with
  | .error failure => .error failure
  | .ok (.inr result, next) => .ok (result, next)
  | .ok (.inl again, next) =>
    if _less : measure next < measure state then loop measure round again next else .error .stalled
termination_by state => measure state

section

variable {measure : σ → Nat} {round : α → Machine σ (α ⊕ β)} {carried again : α} {state next : σ}

theorem loop_again (ran : round carried state = .ok (.inl again, next)) (less : measure next < measure state) :
    loop measure round carried state = loop measure round again next := by
  rw [loop, ran]
  simp only [less, dif_pos]

theorem loop_leaves {result : β} (ran : round carried state = .ok (.inr result, next)) :
    loop measure round carried state = .ok (result, next) := by
  rw [loop, ran]

/-- Two loops that do the same in their first round do the same, if it takes something off both. -/
theorem loop_congr {other : α} {later : σ} (same : round carried state = round other later)
    (less : measure later ≤ measure state)
    (takes : ∀ again next, round other later = .ok (.inl again, next) → measure next < measure later) :
    loop measure round carried state = loop measure round other later := by
  -- if the shared first round goes on, both loops are the same from there on
  rw [loop, loop, same]
  split
  · rfl
  · rfl
  · next again next ran =>
    have taken := takes again next ran
    rw [dif_pos taken, dif_pos (Nat.lt_of_lt_of_le taken less)]

theorem loop_fails {failure : Failure} (failed : round carried state = .error failure) :
    loop measure round carried state = .error failure := by
  rw [loop, failed]

end

/-! ### Cursors -/

structure Cursor where
  index : Nat
  position : Position
  tokens : List Token
  /-- The levels of the open blocks, innermost first, and below them that of the text. -/
  stack : List Nat
  depth : Nat
  deriving DecidableEq, Repr

def Cursor.start : Cursor :=
  ⟨0, .start, [], [0], 0⟩

def Cursor.passed (cursor : Cursor) (piece : List Char) : Cursor :=
  { cursor with index := cursor.index + piece.length, position := cursor.position.after piece }

def Cursor.remaining (text : List Char) (cursor : Cursor) : Nat :=
  text.length - cursor.index

section

variable (text : List Char)

def charAt (index : Nat) : Machine Cursor Char :=
  match text[index]? with
  | some c => pure c
  | none => fail .outOfRange

def peekChar (offset : Nat) : Machine Cursor (Option Char) := do
  let cursor ← get
  if text.length ≤ cursor.index + offset then return none
  else return some (← charAt text (cursor.index + offset))

def currentChar : Machine Cursor (Option Char) :=
  peekChar text 0

def advance : Machine Cursor Unit := do
  let cursor ← get
  if cursor.index < text.length then
    let c ← charAt text cursor.index
    set (cursor.passed [c])
  else return ()

def whileRound (class? : Char → Bool) (read : List Char) : Machine Cursor (List Char ⊕ List Char) := do
  match ← currentChar text with
  | some c =>
    if class? c then
      advance text
      return .inl (read ++ [c])
    else return .inr read
  | none => return .inr read

def readWhile (class? : Char → Bool) : Machine Cursor (List Char) :=
  loop (Cursor.remaining text) (whileRound text class?) []

def skipComment : Machine Cursor Unit := do
  if (← currentChar text) = some '#' then
    let _ ← readWhile text isNotBreak
    return ()
  else return ()

def skipChar (c : Char) : Machine Cursor Unit := do
  if (← currentChar text) = some c then advance text else return ()

def skipLine : Machine Cursor Unit := do
  skipComment text
  skipChar text '\r'
  skipChar text '\n'

def stringRound (read : List Char) : Machine Cursor (List Char ⊕ List Char) := do
  match ← currentChar text with
  | none => return .inr read
  | some c =>
    if c = '"' ∨ c = '\n' then return .inr read
    else if c = '\\' then
      advance text
      let escaped ← currentChar text
      advance text
      return .inl (read ++ escaped.toList.map unescape)
    else
      advance text
      return .inl (read ++ [c])

def stringSymbol (position : Position) : Machine Cursor Symbol := do
  advance text
  let value ← loop (Cursor.remaining text) (stringRound text) []
  if (← currentChar text) = some '"' then
    advance text
    return .string (String.ofList value)
  else fail (.rejected ⟨.unterminatedString, position⟩)

def labelRound (read : List Char) : Machine Cursor (List Char ⊕ List Char) := do
  match ← currentChar text with
  | none => return .inr read
  | some c =>
    let behind ← peekChar text 1
    if c = '#' ∧ behind = some '>' then return .inr read
    else if c = '\n' then return .inr read
    else
      advance text
      return .inl (read ++ [c])

def placeholderSymbol (position : Position) : Machine Cursor Symbol := do
  advance text
  advance text
  let label ← loop (Cursor.remaining text) (labelRound text) []
  if (← currentChar text) = some '#' then
    advance text
    advance text
    return .placeholder (String.ofList label)
  else fail (.rejected ⟨.unterminatedPlaceholder, position⟩)

end

/-! ### Leaves -/

def Cursor.Stands (text rest : List Char) (cursor : Cursor) : Prop :=
  ∃ before, text = before ++ rest ∧ cursor.index = before.length

@[simp] theorem Cursor.passed_nil (cursor : Cursor) : cursor.passed [] = cursor := rfl

@[simp] theorem Cursor.passed_passed (cursor : Cursor) (first second : List Char) :
    (cursor.passed first).passed second = cursor.passed (first ++ second) := by
  simp [passed, Nat.add_assoc]

section

variable {text rest : List Char} {cursor : Cursor}

theorem Cursor.Stands.passed {piece : List Char} (stands : cursor.Stands text (piece ++ rest)) :
    (cursor.passed piece).Stands text rest := by
  obtain ⟨before, split, index⟩ := stands
  refine ⟨before ++ piece, ?_, ?_⟩
  · rw [split, List.append_assoc]
  · simp [Cursor.passed, index]

theorem Cursor.Stands.remaining (stands : cursor.Stands text rest) :
    cursor.remaining text = rest.length := by
  obtain ⟨before, rfl, index⟩ := stands
  simp [Cursor.remaining, index]

theorem charAt_run (stands : cursor.Stands text rest) {offset : Nat} {c : Char}
    (here : rest[offset]? = some c) : charAt text (cursor.index + offset) cursor = .ok (c, cursor) := by
  obtain ⟨before, rfl, index⟩ := stands
  have found : (before ++ rest)[cursor.index + offset]? = some c := by
    rw [index, List.getElem?_append_right (Nat.le_add_right _ _), Nat.add_sub_cancel_left, here]
  unfold charAt
  rw [found]
  rfl

theorem peekChar_run (stands : cursor.Stands text rest) (offset : Nat) :
    peekChar text offset cursor = .ok (rest[offset]?, cursor) := by
  have size : text.length = cursor.index + rest.length := by
    obtain ⟨before, rfl, index⟩ := stands
    rw [List.length_append, index]
  unfold peekChar
  rw [Machine.get_bind]
  cases here : rest[offset]? with
  | none =>
    have behind := List.getElem?_eq_none_iff.mp here
    rw [if_pos (by omega)]
    rfl
  | some c =>
    obtain ⟨inside, -⟩ := List.getElem?_eq_some_iff.mp here
    rw [if_neg (by omega), Machine.bind_of_ok (charAt_run stands here)]
    rfl

theorem currentChar_run (stands : cursor.Stands text rest) :
    currentChar text cursor = .ok (rest.head?, cursor) := by
  rw [List.head?_eq_getElem?]
  exact peekChar_run stands 0

theorem advance_run {c : Char} (stands : cursor.Stands text (c :: rest)) :
    advance text cursor = .ok ((), cursor.passed [c]) := by
  have size : text.length = cursor.index + (c :: rest).length := by
    obtain ⟨before, rfl, index⟩ := stands
    rw [List.length_append, index]
  have here : charAt text cursor.index cursor = .ok (c, cursor) :=
    charAt_run stands (show (c :: rest)[0]? = some c from rfl)
  unfold advance
  rw [Machine.get_bind, if_pos (by rw [size, List.length_cons]; omega), Machine.bind_of_ok here]
  rfl

theorem advance_run_end (stands : cursor.Stands text []) : advance text cursor = .ok ((), cursor) := by
  have size : text.length = cursor.index := by
    obtain ⟨before, rfl, index⟩ := stands
    rw [List.append_nil, index]
  unfold advance
  rw [Machine.get_bind, if_neg (by omega)]
  rfl

theorem Cursor.Stands.remaining_passed (piece : List Char) (stands : cursor.Stands text (piece ++ rest))
    (some : piece ≠ []) : (cursor.passed piece).remaining text < cursor.remaining text := by
  have taken := List.length_pos_iff.mpr some
  rw [stands.remaining, stands.passed.remaining, List.length_append]
  omega

theorem readWhile_run (class? : Char → Bool) (stands : cursor.Stands text rest) :
    readWhile text class? cursor = .ok (rest.takeWhile class?, cursor.passed (rest.takeWhile class?)) := by
  -- the loop carries what it has read, so the induction is for any such text
  suffices each : ∀ read, loop (Cursor.remaining text) (whileRound text class?) read cursor =
      .ok (read ++ rest.takeWhile class?, cursor.passed (rest.takeWhile class?)) from each []
  induction rest generalizing cursor with
  | nil =>
    intro read
    rw [List.takeWhile_nil, List.append_nil]
    apply loop_leaves
    unfold whileRound
    rw [Machine.bind_of_ok (currentChar_run stands)]
    rfl
  | cons c rest ih =>
    intro read
    cases inside : class? c with
    | true =>
      have goes : whileRound text class? read cursor = .ok (.inl (read ++ [c]), cursor.passed [c]) := by
        unfold whileRound
        rw [Machine.bind_of_ok (currentChar_run stands)]
        simp only [List.head?_cons, inside, if_true]
        rw [Machine.bind_of_ok (advance_run stands)]
        rfl
      rw [loop_again goes (Cursor.Stands.remaining_passed [c] stands (List.cons_ne_nil c [])),
        ih (Cursor.Stands.passed stands)]
      simp [inside]
    | false =>
      rw [List.takeWhile_cons_of_neg (by simp [inside]), List.append_nil]
      apply loop_leaves
      unfold whileRound
      rw [Machine.bind_of_ok (currentChar_run stands)]
      simp only [List.head?_cons, inside, Bool.false_eq_true, if_false]
      rfl

theorem skipComment_run (stands : cursor.Stands text rest) :
    skipComment text cursor = .ok ((), cursor.passed (commentOf rest)) := by
  unfold skipComment commentOf
  rw [Machine.bind_of_ok (currentChar_run stands)]
  split
  · rw [Machine.bind_of_ok (readWhile_run isNotBreak stands)]
    rfl
  · rfl

theorem skipChar_run (c : Char) (stands : cursor.Stands text rest) :
    skipChar text c cursor = .ok ((), cursor.passed (optionalChar c rest)) := by
  unfold skipChar optionalChar
  rw [Machine.bind_of_ok (currentChar_run stands)]
  split
  · next front =>
    obtain ⟨after, rfl⟩ : ∃ after, rest = c :: after := by
      cases rest with
      | nil => cases front
      | cons d after => exact ⟨after, congrArg (· :: after) (Option.some.inj front)⟩
    exact advance_run stands
  · rfl

theorem commentOf_isPrefix (text : List Char) : commentOf text <+: text := by
  unfold commentOf
  split
  · exact List.takeWhile_prefix isNotBreak
  · exact List.nil_prefix

theorem optionalChar_isPrefix (c : Char) (text : List Char) : optionalChar c text <+: text := by
  unfold optionalChar
  split
  · next front => exact List.singleton_prefix_iff_head?_eq_some.mpr front
  · exact List.nil_prefix

theorem append_isPrefix {first second text : List Char} (front : first <+: text)
    (further : second <+: text.drop first.length) : first ++ second <+: text := by
  rw [← List.prefix_iff_eq_append.mp front]
  exact (List.prefix_append_right_inj first).mpr further

theorem skippedLine_isPrefix (text : List Char) : skippedLine text <+: text := by
  refine append_isPrefix (append_isPrefix (commentOf_isPrefix text) (optionalChar_isPrefix '\r' _)) ?_
  rw [List.length_append]
  exact optionalChar_isPrefix '\n' _

theorem Cursor.Stands.passed_of_isPrefix {piece : List Char} (stands : cursor.Stands text rest)
    (front : piece <+: rest) : (cursor.passed piece).Stands text (rest.drop piece.length) := by
  rw [List.prefix_iff_eq_append.mp front |>.symm] at stands
  exact stands.passed

theorem skipLine_run (stands : cursor.Stands text rest) :
    skipLine text cursor = .ok ((), cursor.passed (skippedLine rest)) := by
  have commented := stands.passed_of_isPrefix (commentOf_isPrefix rest)
  have returned := commented.passed_of_isPrefix (optionalChar_isPrefix '\r' _)
  rw [List.drop_drop] at returned
  unfold skipLine
  rw [Machine.bind_of_ok (skipComment_run stands), Machine.bind_of_ok (skipChar_run '\r' commented),
    skipChar_run '\n' returned, Cursor.passed_passed, Cursor.passed_passed]
  simp only [skippedLine, List.append_assoc]

/-! ### Strings and placeholders -/

def BreaksOff (close : List Char) (value piece left : List Char) : Option Reading → Prop
  | some reading => left = close ++ reading.rest ∧ reading.value = value ∧ reading.written = piece ++ close
  | none => left.head? ≠ close.head?

theorem BreaksOff.push {close value piece left : List Char} {reading : Option Reading}
    (stops : BreaksOff close value piece left reading) (c : Char) (written : List Char) :
    BreaksOff close (c :: value) (written ++ piece) left (reading.map (Reading.push c written)) := by
  cases reading with
  | none => exact stops
  | some reading =>
    obtain ⟨split, same, text⟩ := stops
    exact ⟨split, congrArg (c :: ·) same, by simp [Reading.push, text]⟩

theorem stringRound_stop (read : List Char) (stands : cursor.Stands text rest)
    (stop : ∀ c ∈ rest.head?, c = '"' ∨ c = '\n') :
    stringRound text read cursor = .ok (.inr read, cursor) := by
  unfold stringRound
  rw [Machine.bind_of_ok (currentChar_run stands)]
  cases rest with
  | nil => rfl
  | cons c rest =>
    simp only [List.head?_cons, stop c rfl, if_true]
    rfl

theorem stringRound_escape (read : List Char) (stands : cursor.Stands text ('\\' :: rest)) :
    stringRound text read cursor =
      .ok (.inl (read ++ rest.head?.toList.map unescape), cursor.passed ('\\' :: rest.head?.toList)) := by
  have behind : (cursor.passed ['\\']).Stands text rest := Cursor.Stands.passed stands
  have last : advance text (cursor.passed ['\\']) = .ok ((), cursor.passed ('\\' :: rest.head?.toList)) := by
    cases rest with
    | nil => exact advance_run_end behind
    | cons e rest => simpa using advance_run behind
  unfold stringRound
  rw [Machine.bind_of_ok (currentChar_run stands)]
  simp only [List.head?_cons]
  rw [if_neg (by decide), if_pos trivial, Machine.bind_of_ok (advance_run stands),
    Machine.bind_of_ok (currentChar_run behind), Machine.bind_of_ok last]
  rfl

theorem stringRound_plain (read : List Char) {c : Char} (stands : cursor.Stands text (c :: rest))
    (quote : c ≠ '"') (feed : c ≠ '\n') (backslash : c ≠ '\\') :
    stringRound text read cursor = .ok (.inl (read ++ [c]), cursor.passed [c]) := by
  unfold stringRound
  rw [Machine.bind_of_ok (currentChar_run stands)]
  simp only [List.head?_cons]
  rw [if_neg (by simp [quote, feed]), if_neg backslash, Machine.bind_of_ok (advance_run stands)]
  rfl

theorem stringRound_loop (read : List Char) (stands : cursor.Stands text rest) :
    ∃ value piece left, loop (Cursor.remaining text) (stringRound text) read cursor =
        .ok (read ++ value, cursor.passed piece) ∧ rest = piece ++ left ∧
      BreaksOff ['"'] value piece left (readString rest) := by
  have stays {rest : List Char} {cursor : Cursor} (read : List Char) (stands : cursor.Stands text rest)
      (stop : ∀ c ∈ rest.head?, c = '"' ∨ c = '\n') :
      loop (Cursor.remaining text) (stringRound text) read cursor = .ok (read ++ [], cursor.passed []) := by
    rw [List.append_nil]
    exact loop_leaves (stringRound_stop read stands stop)
  fun_induction readString rest generalizing cursor read with
  | case1 => exact ⟨[], [], [], stays read stands (by simp), rfl, by simp [BreaksOff]⟩
  | case2 rest => exact ⟨[], [], '"' :: rest, stays read stands (by simp), rfl, rfl, rfl, rfl⟩
  | case3 rest => exact ⟨[], [], '\n' :: rest, stays read stands (by simp), rfl, by simp [BreaksOff]⟩
  | case4 =>
    have further : (cursor.passed ['\\']).Stands text [] := Cursor.Stands.passed stands
    have less := Cursor.Stands.remaining_passed ['\\'] stands (List.cons_ne_nil _ _)
    refine ⟨[], ['\\'], [], ?_, rfl, by simp [BreaksOff]⟩
    rw [loop_again (stringRound_escape read stands) less]
    exact (stays _ further (by simp)).trans (by simp)
  | case5 e after quote feed ih =>
    -- a backslash and what it escapes are one round
    have further : (cursor.passed ['\\', e]).Stands text after := Cursor.Stands.passed stands
    have less := Cursor.Stands.remaining_passed ['\\', e] stands (List.cons_ne_nil _ _)
    obtain ⟨value, piece, left, ran, split, stops⟩ := ih (read ++ [unescape e]) further
    refine ⟨unescape e :: value, ['\\', e] ++ piece, left, ?_, ?_, stops.push (unescape e) ['\\', e]⟩
    · rw [loop_again (stringRound_escape read stands) less]
      exact ran.trans (by simp)
    · rw [split]
      rfl
  | case6 c rest quote feed backslash ih =>
    have further : (cursor.passed [c]).Stands text rest := Cursor.Stands.passed stands
    have less := Cursor.Stands.remaining_passed [c] stands (List.cons_ne_nil _ _)
    obtain ⟨value, piece, left, ran, split, stops⟩ := ih (read ++ [c]) further
    refine ⟨c :: value, [c] ++ piece, left, ?_, ?_, stops.push c [c]⟩
    · rw [loop_again (stringRound_plain read stands quote feed backslash) less]
      exact ran.trans (by simp)
    · rw [split]
      rfl

theorem labelRound_stop (read : List Char) (stands : cursor.Stands text rest)
    (stop : ∀ c ∈ rest.head?, c = '#' ∧ rest[1]? = some '>' ∨ c = '\n') :
    labelRound text read cursor = .ok (.inr read, cursor) := by
  unfold labelRound
  rw [Machine.bind_of_ok (currentChar_run stands)]
  cases rest with
  | nil => rfl
  | cons c rest =>
    simp only [List.head?_cons]
    rw [Machine.bind_of_ok (peekChar_run stands 1)]
    rcases stop c rfl with closed | feed
    · rw [if_pos closed]
      rfl
    · rw [feed, if_neg (by simp), if_pos rfl]
      rfl

theorem labelRound_plain (read : List Char) {c : Char} (stands : cursor.Stands text (c :: rest))
    (inside : ¬ (c = '#' ∧ rest.head? = some '>')) (feed : c ≠ '\n') :
    labelRound text read cursor = .ok (.inl (read ++ [c]), cursor.passed [c]) := by
  unfold labelRound
  rw [Machine.bind_of_ok (currentChar_run stands)]
  simp only [List.head?_cons]
  rw [Machine.bind_of_ok (peekChar_run stands 1), List.getElem?_cons_succ, ← List.head?_eq_getElem?,
    if_neg inside, if_neg feed, Machine.bind_of_ok (advance_run stands)]
  rfl

theorem labelRound_loop (read : List Char) (stands : cursor.Stands text rest) :
    ∃ value piece left, loop (Cursor.remaining text) (labelRound text) read cursor =
        .ok (read ++ value, cursor.passed piece) ∧ rest = piece ++ left ∧
      BreaksOff ['#', '>'] value piece left (readLabel rest) := by
  have stays {rest : List Char} {cursor : Cursor} (read : List Char) (stands : cursor.Stands text rest)
      (stop : ∀ c ∈ rest.head?, c = '#' ∧ rest[1]? = some '>' ∨ c = '\n') :
      loop (Cursor.remaining text) (labelRound text) read cursor = .ok (read ++ [], cursor.passed []) := by
    rw [List.append_nil]
    exact loop_leaves (labelRound_stop read stands stop)
  fun_induction readLabel rest generalizing cursor read with
  | case1 => exact ⟨[], [], [], stays read stands (by simp), rfl, by simp [BreaksOff]⟩
  | case2 c rest closed =>
    obtain ⟨rfl, last⟩ := closed
    obtain ⟨after, rfl⟩ : ∃ after, rest = '>' :: after := by
      cases rest with
      | nil => cases last
      | cons d after => exact ⟨after, congrArg (· :: after) (Option.some.inj last)⟩
    exact ⟨[], [], '#' :: '>' :: after, stays read stands (by simp), rfl, rfl, rfl, rfl⟩
  | case3 rest => exact ⟨[], [], '\n' :: rest, stays read stands (by simp), rfl, by simp [BreaksOff]⟩
  | case4 c rest inside feed ih =>
    have further : (cursor.passed [c]).Stands text rest := Cursor.Stands.passed stands
    have less := Cursor.Stands.remaining_passed [c] stands (List.cons_ne_nil _ _)
    obtain ⟨value, piece, left, ran, split, stops⟩ := ih (read ++ [c]) further
    refine ⟨c :: value, [c] ++ piece, left, ?_, ?_, stops.push c [c]⟩
    · rw [loop_again (labelRound_plain read stands inside feed) less]
      exact ran.trans (by simp)
    · rw [split]
      rfl

theorem stringSymbol_run (position : Position) (stands : cursor.Stands text ('"' :: rest)) :
    stringSymbol text position cursor =
      match readString rest with
      | some string => .ok (.string (String.ofList string.value), cursor.passed ('"' :: string.written))
      | none => .error (.rejected ⟨.unterminatedString, position⟩) := by
  have opened : (cursor.passed ['"']).Stands text rest := Cursor.Stands.passed stands
  obtain ⟨value, piece, left, ran, split, stops⟩ := stringRound_loop [] opened
  rw [split] at opened
  have behind := opened.passed
  unfold stringSymbol
  rw [Machine.bind_of_ok (advance_run stands), Machine.bind_of_ok ran,
    Machine.bind_of_ok (currentChar_run behind)]
  cases read : readString rest with
  | none =>
    rw [read] at stops
    have missing : left.head? ≠ some '"' := stops
    rw [if_neg missing]
    rfl
  | some string =>
    rw [read] at stops
    obtain ⟨rfl, rfl, written⟩ := stops
    have front : (['"'] ++ string.rest).head? = some '"' := rfl
    rw [if_pos front, Machine.bind_of_ok (advance_run behind)]
    simp only [Cursor.passed_passed, written]
    rfl

theorem placeholderSymbol_run (position : Position) (stands : cursor.Stands text ('<' :: '#' :: rest)) :
    placeholderSymbol text position cursor =
      match readLabel rest with
      | some label =>
        .ok (.placeholder (String.ofList label.value), cursor.passed ('<' :: '#' :: label.written))
      | none => .error (.rejected ⟨.unterminatedPlaceholder, position⟩) := by
  have marked : (cursor.passed ['<']).Stands text ('#' :: rest) := Cursor.Stands.passed stands
  have opened : ((cursor.passed ['<']).passed ['#']).Stands text rest := Cursor.Stands.passed marked
  obtain ⟨value, piece, left, ran, split, stops⟩ := labelRound_loop [] opened
  rw [split] at opened
  have behind := opened.passed
  unfold placeholderSymbol
  rw [Machine.bind_of_ok (advance_run stands), Machine.bind_of_ok (advance_run marked),
    Machine.bind_of_ok ran, Machine.bind_of_ok (currentChar_run behind)]
  cases read : readLabel rest with
  | none =>
    rw [read] at stops
    have missing : left.head? ≠ some '#' := stops
    rw [if_neg missing]
    rfl
  | some label =>
    rw [read] at stops
    obtain ⟨rfl, rfl, written⟩ := stops
    have closing : Cursor.Stands text ('>' :: label.rest) (Cursor.passed _ ['#']) := Cursor.Stands.passed behind
    have front : (['#', '>'] ++ label.rest).head? = some '#' := rfl
    rw [if_pos front, Machine.bind_of_ok (advance_run behind), Machine.bind_of_ok (advance_run closing)]
    simp only [Cursor.passed_passed, written, List.append_assoc]
    rfl

end

end RawMapping
