import RawMapping.Proofs.Token.Cursor

/-! The scanner with a cursor never goes wrong. Each of its rounds does what one round of the scanner does, or
what two of them do where a line begins, and takes at least one character unless it leaves the loop. So it
ends on every text, and gives the tokens or the error of the scanner. -/

set_option autoImplicit false

namespace RawMapping

/-! ### The stack -/

def topLevel : Machine Cursor Nat := do
  match (← get).stack with
  | top :: _ => return top
  | [] => fail .emptyStack

def popLevel : Machine Cursor Unit := do
  let cursor ← get
  match cursor.stack with
  | _ :: below => set { cursor with stack := below }
  | [] => fail .emptyStack

def Cursor.emitted (cursor : Cursor) (tokens : List Token) : Cursor :=
  { cursor with tokens := cursor.tokens ++ tokens }

def emit (token : Token) : Machine Cursor Unit :=
  modify (Cursor.emitted · [token])

def closeRound (level : Nat) (_ : Unit) : Machine Cursor (Unit ⊕ Unit) := do
  let cursor ← get
  if cursor.stack = [] then return .inr ()
  else
    let top ← topLevel
    if level < top then
      popLevel
      emit ⟨.dedent, ⟨cursor.position.line, 1⟩⟩
      return .inl ()
    else return .inr ()

def handleIndentation (level : Nat) : Machine Cursor Unit := do
  let cursor ← get
  let top ← topLevel
  if top < level then
    set { cursor with stack := level :: cursor.stack }
    emit ⟨.indent, ⟨cursor.position.line, 1⟩⟩
  else if level < top then
    loop (·.stack.length) (closeRound level) ()
    let left ← topLevel
    if left = level then return ()
    else fail (.rejected ⟨.inconsistentIndentation left level, ⟨cursor.position.line, 1⟩⟩)
  else return ()

def closeTextRound (_ : Unit) : Machine Cursor (Unit ⊕ Unit) := do
  let cursor ← get
  if 1 < cursor.stack.length then
    popLevel
    emit ⟨.dedent, cursor.position⟩
    return .inl ()
  else return .inr ()

def lastSymbol : Machine Cursor Symbol := do
  match (← get).tokens.getLast? with
  | some token => return token.symbol
  | none => fail .outOfRange

def endLine : Machine Cursor Unit := do
  let cursor ← get
  if cursor.tokens = [] then emit ⟨.newline, cursor.position⟩
  else
    let last ← lastSymbol
    if last = .newline then return ()
    else emit ⟨.newline, cursor.position⟩

def closeText : Machine Cursor (List Token) := do
  endLine
  loop (·.stack.length) closeTextRound ()
  let cursor ← get
  emit ⟨.eof, cursor.position⟩
  return (← get).tokens

/-! ### The main loop -/

def keywords : List String :=
  ["enum", "struct", "class"]

def wordSymbol (word : String) : Machine Cursor Symbol :=
  if word ∈ keywords then
    match DeclKind.ofText? word with
    | some kind => pure (.keyword kind)
    | none => fail (.unknownType word)
  else pure (.identifier word)

section

variable (text : List Char)

def markSymbol (c : Char) (position : Position) : Machine Cursor Symbol :=
  if c ∈ Symbol.marks.map Prod.fst then do
    advance text
    match Symbol.marks.lookup c with
    | some symbol => return symbol
    | none => fail (.unknownType (String.singleton c))
  else fail (.rejected ⟨.unexpectedCharacter c, position⟩)

def nextSymbol (c : Char) (position : Position) : Machine Cursor Symbol := do
  if c = '"' then stringSymbol text position
  else if Text.isDigit c then
    let digits ← readWhile text Text.isDigit
    return .number (String.ofList digits)
  else if isWordStart c then
    let word ← readWhile text isWordChar
    wordSymbol (String.ofList word)
  else
    let behind ← peekChar text 1
    if c = '<' ∧ behind = some '#' then placeholderSymbol text position
    else markSymbol text c position

def readToken (lineStart : Bool) : Machine Cursor (Bool ⊕ Unit) := do
  let cursor ← get
  let _ ← readWhile text (isSpace cursor.depth)
  match ← currentChar text with
  | none => return .inr ()
  | some c =>
    if c = '#' then
      skipComment text
      return .inl lineStart
    else
      let inside ← get
      let symbol ← nextSymbol text c inside.position
      emit ⟨symbol, inside.position⟩
      modify fun cursor => { cursor with depth := symbol.depthAfter cursor.depth }
      return .inl (lineStart || symbol == .newline)

def tokenizeRound (lineStart : Bool) : Machine Cursor (Bool ⊕ Unit) := do
  let cursor ← get
  if text.length ≤ cursor.index then return .inr ()
  else if lineStart ∧ cursor.depth = 0 then
    let blanks ← readWhile text isIndentChar
    match ← currentChar text with
    | none => readToken text false
    | some c =>
      if isLineSkip c then
        skipLine text
        return .inl true
      else
        handleIndentation (indentLevel blanks)
        readToken text false
  else readToken text lineStart

def tokenizeFrom (lineStart : Bool) : Machine Cursor (List Token) := do
  loop (Cursor.remaining text) (tokenizeRound text) lineStart
  closeText

end

def tokenize (source : String) : Except Failure (List Token) :=
  (tokenizeFrom source.toList true Cursor.start).map Prod.fst

/-! ### What the stack does -/

section

variable {cursor : Cursor}

theorem topLevel_run {top : Nat} {below : List Nat} (stack : cursor.stack = top :: below) :
    topLevel cursor = .ok (top, cursor) := by
  unfold topLevel
  rw [Machine.get_bind, stack]
  rfl

theorem popLevel_run {top : Nat} {below : List Nat} (stack : cursor.stack = top :: below) :
    popLevel cursor = .ok ((), { cursor with stack := below }) := by
  unfold popLevel
  rw [Machine.get_bind, stack]
  rfl

@[simp] theorem Cursor.emitted_nil (cursor : Cursor) : cursor.emitted [] = cursor := by
  simp [emitted]

@[simp] theorem Cursor.emitted_emitted (cursor : Cursor) (first second : List Token) :
    (cursor.emitted first).emitted second = cursor.emitted (first ++ second) := by
  simp [emitted]

theorem emit_run (token : Token) : emit token cursor = .ok ((), cursor.emitted [token]) := rfl

def Cursor.withLevels (cursor : Cursor) (levels : List Nat) : Cursor :=
  { cursor with stack := levels ++ [0] }

theorem closeRound_again {level top : Nat} {below : List Nat} (higher : level < top) :
    closeRound level () (cursor.withLevels (top :: below)) =
      .ok (.inl (), (cursor.emitted [⟨.dedent, ⟨cursor.position.line, 1⟩⟩]).withLevels below) := by
  have stack : (cursor.withLevels (top :: below)).stack = top :: (below ++ [0]) := rfl
  unfold closeRound
  rw [Machine.get_bind, if_neg (by simp [stack]), Machine.bind_of_ok (topLevel_run stack), if_pos higher,
    Machine.bind_of_ok (popLevel_run stack)]
  rfl

theorem exists_top_withLevels (cursor : Cursor) (levels : List Nat) :
    ∃ below, (cursor.withLevels levels).stack = levels.headD 0 :: below := by
  cases levels with
  | nil => exact ⟨[], rfl⟩
  | cons top below => exact ⟨below ++ [0], rfl⟩

theorem closeRound_leaves {level : Nat} {levels : List Nat} (low : levels.headD 0 ≤ level) :
    closeRound level () (cursor.withLevels levels) = .ok (.inr (), cursor.withLevels levels) := by
  obtain ⟨below, stack⟩ := exists_top_withLevels cursor levels
  unfold closeRound
  rw [Machine.get_bind, if_neg (by simp [stack]), Machine.bind_of_ok (topLevel_run stack),
    if_neg (Nat.not_lt.mpr low)]
  rfl

theorem closeRound_loop (level : Nat) (levels : List Nat) :
    loop (·.stack.length) (closeRound level) () (cursor.withLevels levels) =
      .ok ((), (cursor.emitted (List.replicate (settleLevels level levels).1
        ⟨.dedent, ⟨cursor.position.line, 1⟩⟩)).withLevels (settleLevels level levels).2) := by
  induction levels generalizing cursor with
  | nil =>
    rw [loop_leaves (closeRound_leaves (Nat.zero_le level))]
    simp [settleLevels]
  | cons top below ih =>
    by_cases higher : level < top
    · have less : ((cursor.emitted [⟨.dedent, ⟨cursor.position.line, 1⟩⟩]).withLevels below).stack.length <
          (cursor.withLevels (top :: below)).stack.length := by
        simp [Cursor.withLevels]
      rw [loop_again (closeRound_again higher) less, ih]
      simp [settleLevels, higher, List.replicate_succ]
      rfl
    · rw [loop_leaves (closeRound_leaves (by simpa using higher))]
      simp [settleLevels, higher]

theorem settleLevels_of_le {level : Nat} {levels : List Nat} (low : levels.headD 0 ≤ level) :
    settleLevels level levels = (0, levels) := by
  cases levels with
  | nil => rfl
  | cons top below => simp [settleLevels, Nat.not_lt.mpr (show top ≤ level from low)]

theorem handleIndentation_run (cursor : Cursor) (level : Nat) (levels : List Nat) :
    handleIndentation level (cursor.withLevels levels) =
      match indentTokens cursor.position.line level levels with
      | .ok (tokens, settled) => .ok ((), (cursor.emitted tokens).withLevels settled)
      | .error error => .error (.rejected error) := by
  obtain ⟨below, stack⟩ := exists_top_withLevels cursor levels
  unfold handleIndentation indentTokens
  rw [Machine.get_bind, Machine.bind_of_ok (topLevel_run stack)]
  dsimp only
  -- a deeper line opens a block; a higher one closes blocks down to its level, if there is one
  by_cases deeper : levels.headD 0 < level
  · rw [if_pos deeper, if_pos deeper]
    rfl
  · rw [if_neg deeper, if_neg deeper]
    by_cases higher : level < levels.headD 0
    · obtain ⟨rest, left⟩ := exists_top_withLevels (cursor.emitted
        (List.replicate (settleLevels level levels).1 ⟨.dedent, ⟨cursor.position.line, 1⟩⟩))
        (settleLevels level levels).2
      rw [if_pos higher, Machine.bind_of_ok (closeRound_loop level levels),
        Machine.bind_of_ok (topLevel_run left)]
      by_cases same : (settleLevels level levels).2.headD 0 = level
      · rw [if_pos same, if_pos same]
        rfl
      · rw [if_neg same, if_neg same]
        rfl
    · have same : levels.headD 0 = level := by omega
      rw [if_neg higher, settleLevels_of_le (Nat.le_of_eq same)]
      dsimp only
      rw [if_pos same]
      simp only [List.replicate_zero, Cursor.emitted_nil]
      rfl

theorem closeTextRound_loop (cursor : Cursor) (levels : List Nat) :
    loop (·.stack.length) closeTextRound () (cursor.withLevels levels) =
      .ok ((), (cursor.emitted (List.replicate levels.length ⟨.dedent, cursor.position⟩)).withLevels []) := by
  induction levels generalizing cursor with
  | nil =>
    have leaves : closeTextRound () (cursor.withLevels []) = .ok (.inr (), cursor.withLevels []) := rfl
    rw [loop_leaves leaves]
    simp
  | cons top below ih =>
    have stack : (cursor.withLevels (top :: below)).stack = top :: (below ++ [0]) := rfl
    have goes : closeTextRound () (cursor.withLevels (top :: below)) =
        .ok (.inl (), (cursor.emitted [⟨.dedent, cursor.position⟩]).withLevels below) := by
      unfold closeTextRound
      rw [Machine.get_bind, if_pos (by simp [stack]), Machine.bind_of_ok (popLevel_run stack)]
      rfl
    have less : ((cursor.emitted [⟨.dedent, cursor.position⟩]).withLevels below).stack.length <
        (cursor.withLevels (top :: below)).stack.length := by
      simp [Cursor.withLevels]
    rw [loop_again goes less, ih]
    simp [List.replicate_succ]
    rfl

def Cursor.lineOpen (cursor : Cursor) : Bool :=
  cursor.tokens.getLast?.map (·.symbol) != some .newline

theorem endLine_run :
    endLine cursor =
      .ok ((), cursor.emitted (if cursor.lineOpen then [⟨.newline, cursor.position⟩] else [])) := by
  unfold endLine
  rw [Machine.get_bind]
  cases last : cursor.tokens.getLast? with
  | none =>
    have opened : cursor.lineOpen = true := by simp [Cursor.lineOpen, last]
    rw [if_pos (List.getLast?_eq_none_iff.mp last), if_pos opened]
    rfl
  | some token =>
    have some : cursor.tokens ≠ [] := by
      intro none
      rw [none] at last
      cases last
    have found : lastSymbol cursor = .ok (token.symbol, cursor) := by
      unfold lastSymbol
      rw [Machine.get_bind, last]
      rfl
    rw [if_neg some, Machine.bind_of_ok found]
    by_cases ended : token.symbol = .newline
    · have closed : ¬ cursor.lineOpen = true := by simp [Cursor.lineOpen, last, ended]
      rw [if_pos ended, if_neg closed, Cursor.emitted_nil]
      rfl
    · have opened : cursor.lineOpen = true := by simp [Cursor.lineOpen, last, ended]
      rw [if_neg ended, if_pos opened]
      rfl

theorem closeText_run {state : ScanState} (opened : state.lineOpen = cursor.lineOpen)
    (stack : cursor.stack = state.levels ++ [0]) :
    (closeText cursor).map Prod.fst = .ok (cursor.tokens ++ state.closing cursor.position) := by
  have whole : cursor.emitted (if cursor.lineOpen then [⟨.newline, cursor.position⟩] else []) =
      (cursor.emitted (if cursor.lineOpen then [⟨.newline, cursor.position⟩] else [])).withLevels
        state.levels := by
    simp [Cursor.withLevels, Cursor.emitted, ← stack]
  have closed := closeTextRound_loop
    (cursor.emitted (if cursor.lineOpen then [⟨.newline, cursor.position⟩] else [])) state.levels
  rw [← whole] at closed
  unfold closeText
  rw [Machine.bind_of_ok endLine_run, Machine.bind_of_ok closed, Machine.get_bind,
    Machine.bind_of_ok (emit_run _), Machine.get_bind, Machine.pure_run]
  simp [Except.map, Cursor.emitted, Cursor.withLevels, ScanState.closing, opened]

end

/-! ### Symbols -/

section

variable {text rest : List Char} {cursor : Cursor} {c : Char}

theorem wordSymbol_run (word : String) : wordSymbol word cursor = .ok (Symbol.ofWord word, cursor) := by
  unfold wordSymbol Symbol.ofWord
  by_cases listed : word ∈ keywords
  · rw [if_pos listed]
    simp only [keywords, List.mem_cons, List.not_mem_nil, or_false] at listed
    rcases listed with rfl | rfl | rfl
    · rfl
    · rfl
    · rfl
  · have unknown : DeclKind.ofText? word = none := by
      simp only [keywords, List.mem_cons, List.not_mem_nil, or_false, not_or] at listed
      simp [DeclKind.ofText?, listed]
    rw [if_neg listed, unknown]
    rfl

/-- Every character that is listed has a symbol in the list. -/
theorem markSymbol_run (position : Position) (stands : cursor.Stands text (c :: rest)) :
    markSymbol text c position cursor =
      match Symbol.ofChar? c with
      | some symbol => .ok (symbol, cursor.passed [c])
      | none => .error (.rejected ⟨.unexpectedCharacter c, position⟩) := by
  have table : ∀ mark ∈ Symbol.marks,
      Symbol.marks.lookup mark.1 = some mark.2 ∧ Symbol.ofChar? mark.1 = some mark.2 := by
    decide
  unfold markSymbol
  by_cases listed : c ∈ Symbol.marks.map Prod.fst
  · rw [if_pos listed]
    obtain ⟨mark, member, rfl⟩ := List.mem_map.mp listed
    obtain ⟨found, known⟩ := table mark member
    rw [Machine.bind_of_ok (advance_run stands), found, known]
    rfl
  · have unknown : Symbol.ofChar? c = none := by
      apply Option.eq_none_iff_forall_ne_some.mpr
      intro symbol known
      exact listed (List.mem_map.mpr ⟨_, Symbol.mem_marks known, rfl⟩)
    rw [if_neg listed, unknown]
    rfl

theorem nextSymbol_run (position : Position) (stands : cursor.Stands text (c :: rest)) :
    nextSymbol text c position cursor =
      match Lexeme.read c rest with
      | .ok lexeme => .ok (lexeme.symbol, cursor.passed lexeme.written)
      | .error fault => .error (.rejected ⟨fault, position⟩) := by
  unfold nextSymbol Lexeme.read
  by_cases quote : c = '"'
  · subst quote
    rw [if_pos rfl, if_pos rfl, stringSymbol_run position stands]
    cases readString rest with
    | none => rfl
    | some string => rfl
  · rw [if_neg quote, if_neg quote]
    by_cases digit : Text.isDigit c = true
    · rw [if_pos digit, if_pos digit, Machine.bind_of_ok (readWhile_run _ stands)]
      rfl
    · rw [if_neg digit, if_neg digit]
      by_cases start : isWordStart c = true
      · rw [if_pos start, if_pos start, Machine.bind_of_ok (readWhile_run _ stands), wordSymbol_run]
        rfl
      · rw [if_neg start, if_neg start, Machine.bind_of_ok (peekChar_run stands 1),
          List.getElem?_cons_succ, ← List.head?_eq_getElem?]
        by_cases label : c = '<' ∧ rest.head? = some '#'
        · rw [if_pos label, if_pos label]
          obtain ⟨rfl, mark⟩ := label
          obtain ⟨after, rfl⟩ : ∃ after, rest = '#' :: after := by
            cases rest with
            | nil => cases mark
            | cons d after => exact ⟨after, congrArg (· :: after) (Option.some.inj mark)⟩
          rw [placeholderSymbol_run position stands, List.tail_cons]
          cases readLabel after with
          | none => rfl
          | some label => rfl
        · rw [if_neg label, if_neg label, markSymbol_run position stands]
          cases Symbol.ofChar? c with
          | none => rfl
          | some symbol => rfl

end

/-! ### Rounds -/

structure Cursor.Follows (text : List Char) (cursor : Cursor) (state : ScanState) : Prop where
  stands : cursor.Stands text state.rest
  position : cursor.position = state.position
  depth : cursor.depth = state.depth
  stack : cursor.stack = state.levels ++ [0]

/-- The round with the cursor has done what the round of the scanner does, and taken at least one character
unless it leaves the loop. -/
def Cursor.Matches (text : List Char) (cursor : Cursor) (result : Except Failure ((Bool ⊕ Unit) × Cursor)) :
    Round → Prop
  | .finished position => ∃ next, result = .ok (.inr (), next) ∧ next.position = position ∧
      next.tokens = cursor.tokens ∧ next.stack = cursor.stack
  | .failed error => result = .error (.rejected error)
  | .advanced tokens state => ∃ next, result = .ok (.inl state.lineStart, next) ∧ next.Follows text state ∧
      next.tokens = cursor.tokens ++ tokens ∧ next.remaining text < cursor.remaining text

section

variable {text : List Char} {cursor : Cursor} {state : ScanState}

theorem Cursor.Follows.passed {piece rest : List Char} (follows : cursor.Follows text state)
    (split : state.rest = piece ++ rest) : (cursor.passed piece).Follows text (state.consume piece rest) where
  stands := (split ▸ follows.stands).passed
  position := congrArg (Position.after · piece) follows.position
  depth := follows.depth
  stack := follows.stack

theorem Cursor.Follows.remaining (follows : cursor.Follows text state) :
    cursor.remaining text = state.rest.length :=
  follows.stands.remaining

theorem Cursor.Follows.more (follows : cursor.Follows text state) (some : state.rest ≠ []) :
    ¬ text.length ≤ cursor.index := by
  have left := List.length_pos_iff.mpr some
  have size := follows.remaining
  unfold Cursor.remaining at size
  omega

theorem readToken_end (stands : cursor.Stands text []) :
    readToken text false cursor = .ok (.inr (), cursor) := by
  unfold readToken
  rw [Machine.get_bind, Machine.bind_of_ok (readWhile_run _ stands), List.takeWhile_nil, Cursor.passed_nil,
    Machine.bind_of_ok (currentChar_run stands)]
  rfl

theorem readToken_matches (follows : cursor.Follows text state) (inLine : state.lineStart = false) :
    cursor.Matches text (readToken text false cursor) state.continueLine := by
  have split : state.rest = state.rest.takeWhile (isSpace state.depth) ++
      state.rest.dropWhile (isSpace state.depth) := List.takeWhile_append_dropWhile.symm
  have shorter := length_dropWhile_le (isSpace state.depth) state.rest
  have inside := follows.passed split
  unfold readToken ScanState.continueLine
  rw [Machine.get_bind, Machine.bind_of_ok (readWhile_run _ follows.stands), follows.depth,
    Machine.bind_of_ok (currentChar_run inside.stands)]
  cases left : state.rest.dropWhile (isSpace state.depth) with
  | nil =>
    refine ⟨cursor.passed (state.rest.takeWhile (isSpace state.depth)), ?_, inside.position, rfl, rfl⟩
    simp only [ScanState.consume, List.head?_nil]
    rfl
  | cons c after =>
    rw [left] at inside shorter
    have stands : (cursor.passed (state.rest.takeWhile (isSpace state.depth))).Stands text (c :: after) :=
      inside.stands
    have size := follows.remaining
    simp only [ScanState.consume, List.head?_cons]
    -- a comment is a round that emits nothing; anything else has to be a lexeme
    by_cases hash : c = '#'
    · subst hash
      have comment : commentOf ('#' :: after) = ('#' :: after).takeWhile isNotBreak := if_pos rfl
      have behind : (_ : Cursor).Follows text _ :=
        inside.passed (List.takeWhile_append_dropWhile (p := isNotBreak) (l := '#' :: after)).symm
      have less := length_dropWhile_le isNotBreak after
      rw [if_pos rfl, if_pos rfl, Machine.bind_of_ok (skipComment_run stands), comment]
      refine ⟨_, by rw [inLine]; rfl, behind, (List.append_nil _).symm, ?_⟩
      rw [behind.remaining, size]
      simp only [ScanState.consume, List.dropWhile_cons_of_pos isNotBreak_hash]
      exact Nat.lt_of_le_of_lt less shorter
    · rw [if_neg hash, if_neg hash, Machine.get_bind]
      have symbol := nextSymbol_run (cursor.passed (state.rest.takeWhile (isSpace state.depth))).position stands
      cases read : Lexeme.read c after with
      | error fault =>
        rw [read] at symbol
        rw [Machine.bind_of_error symbol]
        exact congrArg (fun place => Except.error (Failure.rejected ⟨fault, place⟩)) inside.position
      | ok lexeme =>
        rw [read] at symbol
        have behind := inside.passed (Lexeme.read_split read)
        have less := Lexeme.rest_length_lt read
        have place : (cursor.passed (state.rest.takeWhile (isSpace state.depth))).position =
            state.position.after (state.rest.takeWhile (isSpace state.depth)) := inside.position
        rw [Machine.bind_of_ok symbol, Machine.bind_of_ok (emit_run _), place]
        refine ⟨_, rfl, ⟨behind.stands, behind.position, ?_, behind.stack⟩, rfl, ?_⟩
        · exact congrArg lexeme.symbol.depthAfter behind.depth
        · have left : Cursor.remaining text ((cursor.passed
              (state.rest.takeWhile (isSpace state.depth))).passed lexeme.written) = lexeme.rest.length :=
            behind.remaining
          rw [size]
          exact Nat.lt_of_lt_of_le (Nat.lt_of_le_of_lt (Nat.le_of_eq left) less) shorter

/-- Where a line begins the cursor does what the scanner does, or settles the level of the line as the scanner
does and goes on inside of it. -/
theorem tokenizeRound_start (follows : cursor.Follows text state) (start : state.lineStart = true)
    (flat : state.depth = 0) (some : state.rest ≠ []) :
    cursor.Matches text (tokenizeRound text true cursor) state.beginLine ∨
      ∃ tokens next middle, state.beginLine = .advanced tokens next ∧
        tokenizeRound text true cursor = readToken text false middle ∧ middle.Follows text next ∧
        middle.tokens = cursor.tokens ++ tokens ∧ middle.remaining text ≤ cursor.remaining text ∧
        next.lineStart = false ∧ next.rest ≠ [] := by
  have split : state.rest = state.rest.takeWhile isIndentChar ++ state.rest.dropWhile isIndentChar :=
    List.takeWhile_append_dropWhile.symm
  have shorter := length_dropWhile_le isIndentChar state.rest
  have inside := follows.passed split
  have size := follows.remaining
  unfold tokenizeRound ScanState.beginLine
  rw [Machine.get_bind, if_neg (follows.more some), if_pos ⟨rfl, follows.depth.trans flat⟩,
    Machine.bind_of_ok (readWhile_run _ follows.stands), Machine.bind_of_ok (currentChar_run inside.stands)]
  cases left : state.rest.dropWhile isIndentChar with
  | nil =>
    rw [left] at inside
    have ends := readToken_end inside.stands
    refine .inl ⟨cursor.passed (state.rest.takeWhile isIndentChar), ?_, inside.position, rfl, rfl⟩
    simpa only [ScanState.consume, List.head?_nil] using ends
  | cons c after =>
    rw [left] at inside shorter
    have stands : (cursor.passed (state.rest.takeWhile isIndentChar)).Stands text (c :: after) :=
      inside.stands
    simp only [ScanState.consume, List.head?_cons]
    -- a skipped line is a whole round; any other is only settled, and its first symbol is left to read
    by_cases skip : isLineSkip c = true
    · have split : c :: after = skippedLine (c :: after) ++ (c :: after).drop (skippedLine (c :: after)).length :=
        (List.prefix_iff_eq_append.mp (skippedLine_isPrefix (c :: after))).symm
      have line := inside.passed split
      have taken : 0 < (skippedLine (c :: after)).length := skippedLine_length_pos skip
      rw [if_pos skip, if_pos skip, Machine.bind_of_ok (skipLine_run stands)]
      refine .inl ⟨_, by rw [start]; rfl, line, (List.append_nil _).symm, ?_⟩
      rw [line.remaining, size]
      simp only [ScanState.consume, List.length_drop, List.length_cons] at shorter ⊢
      omega
    · have settle := handleIndentation_run (cursor.passed (state.rest.takeWhile isIndentChar))
        (indentLevel (state.rest.takeWhile isIndentChar)) state.levels
      -- the stack written as levels above that of the text, as settling speaks of it
      have whole : (cursor.passed (state.rest.takeWhile isIndentChar)).withLevels state.levels =
          cursor.passed (state.rest.takeWhile isIndentChar) := by
        rw [Cursor.withLevels, ← follows.stack]
        rfl
      have line : (cursor.passed (state.rest.takeWhile isIndentChar)).position.line =
        (state.position.after (state.rest.takeWhile isIndentChar)).line := congrArg (·.line) inside.position
      rw [whole, line] at settle
      rw [if_neg skip, if_neg skip]
      cases indented : indentTokens (state.position.after (state.rest.takeWhile isIndentChar)).line
          (indentLevel (state.rest.takeWhile isIndentChar)) state.levels with
      | error error =>
        rw [indented] at settle
        rw [Machine.bind_of_error settle]
        exact .inl rfl
      | ok settled =>
        obtain ⟨tokens, levels⟩ := settled
        rw [indented] at settle
        rw [Machine.bind_of_ok settle]
        refine .inr ⟨tokens, _, _, rfl, rfl, ⟨inside.stands, inside.position, inside.depth, rfl⟩, rfl, ?_, rfl,
          List.cons_ne_nil c after⟩
        rw [size]
        exact Nat.le_trans (Nat.le_of_eq inside.remaining) shorter

theorem tokenizeRound_inside (follows : cursor.Follows text state) (some : state.rest ≠ []) :
    tokenizeRound text false cursor = readToken text false cursor := by
  unfold tokenizeRound
  rw [Machine.get_bind, if_neg (follows.more some), if_neg (by simp)]

theorem tokenizeRound_end (follows : cursor.Follows text state) (none : state.rest = []) (lineStart : Bool) :
    cursor.Matches text (tokenizeRound text lineStart cursor) state.round := by
  have finished : state.round = .finished state.position := by
    apply ScanState.round_eq_finished_iff.mpr
    simp [none, Position.after]
  have last : text.length ≤ cursor.index := by
    have size := follows.remaining
    rw [none] at size
    unfold Cursor.remaining at size
    simp only [List.length_nil] at size
    omega
  rw [finished]
  refine ⟨cursor, ?_, follows.position, rfl, rfl⟩
  unfold tokenizeRound
  rw [Machine.get_bind, if_pos last]
  rfl

/-- A round with the cursor does what a round of the scanner does, or it does what the next one with a cursor
that has settled the level of the line does. -/
theorem tokenizeRound_run (follows : cursor.Follows text state)
    (flat : state.lineStart = true → state.depth = 0) :
    cursor.Matches text (tokenizeRound text state.lineStart cursor) state.round ∨
      ∃ tokens next middle, state.round = .advanced tokens next ∧ next.lineStart = false ∧
        tokenizeRound text state.lineStart cursor = tokenizeRound text false middle ∧
        middle.Matches text (tokenizeRound text false middle) next.round ∧
        middle.Follows text next ∧ middle.tokens = cursor.tokens ++ tokens ∧
        middle.remaining text ≤ cursor.remaining text := by
  by_cases none : state.rest = []
  · exact .inl (tokenizeRound_end follows none _)
  · unfold ScanState.round
    cases start : state.lineStart with
    | false =>
      rw [if_neg (by simp), tokenizeRound_inside follows none]
      exact .inl (readToken_matches follows start)
    | true =>
      rw [if_pos rfl]
      rcases tokenizeRound_start follows start (flat start) none with
        same | ⟨tokens, next, middle, round, ran, further, emitted, less, inLine, some⟩
      · exact .inl same
      · have later := tokenizeRound_inside further some
        refine .inr ⟨tokens, next, middle, round, inLine, ran.trans later.symm, ?_, further, emitted, less⟩
        rw [later, inLine, if_neg (by simp)]
        exact readToken_matches further inLine

theorem Cursor.Matches.takes {result : Except Failure ((Bool ⊕ Unit) × Cursor)} {round : Round}
    (same : cursor.Matches text result round) (again : Bool) (next : Cursor)
    (ran : result = .ok (.inl again, next)) : next.remaining text < cursor.remaining text := by
  subst ran
  cases round with
  | finished position =>
    obtain ⟨_, left, -⟩ := same
    cases left
  | failed error => cases same
  | advanced tokens state =>
    obtain ⟨_, goes, -, -, less⟩ := same
    cases goes
    exact less

/-! ### Runs -/

/-- The cursor is where the scanner is, and the last token that it has emitted tells whether the line is still
to be ended, unless a symbol comes next. -/
structure Cursor.Tracks (text : List Char) (cursor : Cursor) (state : ScanState) : Prop
    extends cursor.Follows text state where
  flat : state.lineStart = true → state.depth = 0
  opened : state.lineOpen = cursor.lineOpen ∨
    state.lineStart = false ∧ ∃ c after, state.rest = c :: after ∧ Visible c

/-- In front of a symbol no comment comes next, and no end. -/
theorem Cursor.Tracks.turn {next : ScanState} {later : Cursor} {tokens : List Token}
    (tracks : cursor.Tracks text state) (turn : state.Turn tokens next) (follows : later.Follows text next)
    (emitted : later.tokens = cursor.tokens ++ tokens) : later.Tracks text next := by
  refine ⟨follows, ?_, ?_⟩
  · cases turn with
    | skipped => exact tracks.flat
    | begun => simp
    | comment inside => exact fun start => absurd (inside.symm.trans start) (by simp)
    | lexeme inside split blank stop other read =>
      intro start
      rw [beq_iff_eq] at start
      rcases Lexeme.isInner_or_newline read with inner | ⟨line, rfl⟩
      · exact absurd start (Symbol.ne_of_isInner inner).1
      · simpa [line, Symbol.depthAfter, isSpace] using stop
  · cases turn with
    | skipped start =>
      rw [List.append_nil] at emitted
      rcases tracks.opened with same | ⟨inside, -⟩
      · exact .inl (by simpa [Cursor.lineOpen, emitted, ScanState.consume] using same)
      · exact absurd (start.symm.trans inside) (by simp)
    | @begun blanks after c _ _ start split blank stop symbol =>
      exact .inr ⟨rfl, c, after, rfl, visible_of_begun stop symbol⟩
    | @comment spaces after inside split blank =>
      rw [List.append_nil] at emitted
      rcases tracks.opened with same | ⟨-, c, rest, front, visible⟩
      · exact .inl (by simpa [Cursor.lineOpen, emitted, ScanState.consume] using same)
      · -- the visible character that comes next would have to be the mark of the comment
        have front : c = '#' := by
          cases spaces with
          | nil => exact (List.cons.inj (front.symm.trans split)).1
          | cons space spaces =>
            obtain ⟨rfl, -⟩ := List.cons.inj (front.symm.trans split)
            exact absurd (blank c List.mem_cons_self) (by simp [visible.isSpace])
        exact absurd front visible.ne_hash
    | lexeme inside split blank stop other read =>
      exact .inl (by simp [Cursor.lineOpen, emitted, bne])

theorem Cursor.Tracks.lineOpen_eq (tracks : cursor.Tracks text state) {position : Position}
    (finished : state.round = .finished position) : state.lineOpen = cursor.lineOpen := by
  rcases tracks.opened with same | ⟨inside, c, after, front, visible⟩
  · exact same
  · have blank := (ScanState.round_eq_finished_iff.mp finished).1 c (by simp [front])
    simp [ScanState.skips, inside, visible.isSpace] at blank

theorem tokenizeFrom_run (tracks : cursor.Tracks text state) :
    (tokenizeFrom text state.lineStart cursor).map Prod.fst =
      (state.run.map (cursor.tokens ++ ·)).mapError .rejected := by
  -- The induction follows the scanner. Where a line with symbols begins, the cursor does two rounds of the
  -- scanner in one, so its loop is compared with the loop that begins in between.
  fun_induction ScanState.run state generalizing cursor with
  | case1 state position finished =>
    rcases tokenizeRound_run tracks.toFollows tracks.flat with same | ⟨_, _, _, advanced, -⟩
    · rw [finished] at same
      obtain ⟨next, ran, place, tokens, stack⟩ := same
      have opened : state.lineOpen = next.lineOpen := by
        rw [tracks.lineOpen_eq finished, Cursor.lineOpen, Cursor.lineOpen, tokens]
      have closed := closeText_run opened (stack.trans tracks.stack)
      unfold tokenizeFrom
      rw [Machine.bind_of_ok (loop_leaves ran), closed, tokens, place]
      rfl
    · cases finished.symm.trans advanced
  | case2 state error failed =>
    rcases tokenizeRound_run tracks.toFollows tracks.flat with same | ⟨_, _, _, advanced, -⟩
    · rw [failed] at same
      unfold tokenizeFrom
      rw [Machine.bind_of_error (loop_fails same)]
      rfl
    · cases failed.symm.trans advanced
  | case3 state tokens next advanced ih =>
    have turn := ScanState.turn_of_round advanced
    have further {later : Cursor} (follows : later.Follows text next)
        (emitted : later.tokens = cursor.tokens ++ tokens)
        (same : tokenizeFrom text state.lineStart cursor = tokenizeFrom text next.lineStart later) :
        (tokenizeFrom text state.lineStart cursor).map Prod.fst =
          ((next.run.map (tokens ++ ·)).map (cursor.tokens ++ ·)).mapError .rejected := by
      rw [same, ih (tracks.turn turn follows emitted), emitted]
      cases next.run with
      | error error => rfl
      | ok later => simp [Except.map, Except.mapError]
    rcases tokenizeRound_run tracks.toFollows tracks.flat with
      same | ⟨_, _, middle, begun, inLine, ran, same, follows, emitted, less⟩
    · rw [advanced] at same
      obtain ⟨later, ran, follows, emitted, less⟩ := same
      exact further follows emitted (Machine.bind_congr (loop_again ran less) _)
    · obtain ⟨rfl, rfl⟩ : tokens = _ ∧ next = _ := by simpa using advanced.symm.trans begun
      apply further follows emitted
      rw [inLine]
      exact Machine.bind_congr (loop_congr ran less same.takes) _

end

/-- The scanner with the cursor gives the tokens or the error of the scanner. -/
theorem tokenize_eq (source : String) : tokenize source = (scan source).mapError .rejected := by
  have tracks : Cursor.start.Tracks source.toList (ScanState.initial source.toList) := by
    exact ⟨⟨⟨[], rfl, rfl⟩, rfl, rfl, rfl⟩, fun _ => rfl, .inl rfl⟩
  refine (tokenizeFrom_run tracks).trans ?_
  unfold scan
  cases (ScanState.initial source.toList).run with
  | error error => rfl
  | ok tokens => rfl

end RawMapping
