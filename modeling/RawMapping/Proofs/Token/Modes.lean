import RawMapping.Proofs.Token.Skipping

/-! Which places of a text are inside of a string literal, by the characters in front of them. In a text
that is accepted that is so just inside of the pieces that its string tokens stand for. Apart from strings a
lexeme has no line feed inside of it, and it is read again whatever ends it. -/

set_option autoImplicit false

namespace RawMapping

/-! ### Inside and outside of string literals -/

inductive Mode where
  | plain
  /-- Behind an angle bracket, which may open a placeholder. -/
  | angle
  | label
  /-- Behind a mark, which may close a placeholder. -/
  | mark
  | string
  /-- Behind a backslash in a string. -/
  | escaped
  | comment
  deriving DecidableEq, Repr

def Mode.plainNext (c : Char) : Mode :=
  if c = '"' then .string else if c = '#' then .comment else if c = '<' then .angle else .plain

def Mode.next (c : Char) : Mode → Mode
  | .plain => plainNext c
  | .angle => if c = '#' then .label else plainNext c
  | .label => if c = '#' then .mark else .label
  | .mark => if c = '>' then .plain else if c = '#' then .mark else .label
  | .string => if c = '"' then .plain else if c = '\\' then .escaped else .string
  | .escaped => .string
  | .comment => if c = '\n' then .plain else .comment

def Mode.after (mode : Mode) (piece : List Char) : Mode :=
  piece.foldl (fun mode c => mode.next c) mode

def Mode.inString : Mode → Bool
  | .string | .escaped => true
  | _ => false

@[simp] theorem Mode.after_nil (mode : Mode) : mode.after [] = mode := rfl

@[simp] theorem Mode.after_cons (mode : Mode) (c : Char) (piece : List Char) :
    mode.after (c :: piece) = (mode.next c).after piece := rfl

theorem Mode.after_append (mode : Mode) (first second : List Char) :
    mode.after (first ++ second) = (mode.after first).after second :=
  List.foldl_append

/-- What comes behind the text stands outside of string literals. -/
def OutsideStrings (front : List Char) : Prop :=
  (Mode.plain.after front).inString = false

instance : DecidablePred OutsideStrings :=
  fun _ => decEq _ _

theorem OutsideStrings.behind {first second : List Char} (outside : OutsideStrings (first ++ second))
    (plain : Mode.plain.after first = .plain) : OutsideStrings second := by
  rwa [OutsideStrings, Mode.after_append, plain] at outside

theorem after_word {class? : Char → Bool} (bare : ['"', '#', '<'].any class? = false) {word : List Char}
    (inside : ∀ c ∈ word, class? c = true) : Mode.plain.after word = .plain := by
  induction word with
  | nil => rfl
  | cons c word ih =>
    obtain ⟨first, others⟩ := List.forall_mem_cons.mp inside
    have other : ∀ d ∈ ['"', '#', '<'], c ≠ d := by
      rintro d member rfl
      exact List.any_eq_false.mp bare c member first
    simp only [List.forall_mem_cons] at other
    rw [Mode.after_cons]
    simp [Mode.next, Mode.plainNext, other, ih others]

theorem outside_of_word {class? : Char → Bool} (bare : ['"', '#', '<'].any class? = false)
    {word front more : List Char} (word? : ∀ c ∈ word, class? c = true) (split : word = front ++ more) :
    (Mode.plain.after front).inString = false := by
  rw [after_word bare fun c member => word? c (by simp [split, member])]
  rfl

theorem after_string {text : List Char} {string : Reading} (read : readString text = some string) :
    Mode.string.after string.written = .plain ∧
      ∀ front c more, string.written = front ++ c :: more → (Mode.string.after front).inString = true := by
  -- induction on the reader: an escape is taken with the character behind it, any other one alone
  fun_induction readString text generalizing string with
  | case1 => cases read
  | case2 rest =>
    cases read
    refine ⟨rfl, fun front c more split => ?_⟩
    cases front with
    | nil => rfl
    | cons d front => simp at split
  | case3 => cases read
  | case4 => cases read
  | case5 e after _ _ ih =>
    obtain ⟨inner, found, rfl⟩ := Option.map_eq_some_iff.mp read
    obtain ⟨closed, inside⟩ := ih found
    refine ⟨closed, fun front c more split => ?_⟩
    rcases front with _ | ⟨_, _ | ⟨_, front⟩⟩
    · rfl
    · cases (List.cons.inj split).1
      rfl
    · simp only [Reading.push, List.cons_append, List.nil_append, List.cons.injEq] at split
      obtain ⟨rfl, rfl, split⟩ := split
      exact inside front c more split
  | case6 d rest quote line slash ih =>
    obtain ⟨inner, found, rfl⟩ := Option.map_eq_some_iff.mp read
    obtain ⟨closed, inside⟩ := ih found
    have next : Mode.string.next d = .string := by simp [Mode.next, quote, slash]
    refine ⟨by simpa [Reading.push, next] using closed, fun front c more split => ?_⟩
    cases front with
    | nil => rfl
    | cons _ front =>
      simp only [Reading.push, List.cons_append, List.nil_append, List.cons.injEq] at split
      obtain ⟨rfl, split⟩ := split
      rw [Mode.after_cons, next]
      exact inside front c more split

theorem after_label {text : List Char} {label : Reading} (read : readLabel text = some label) :
    Mode.label.after label.written = .plain ∧
      ∀ front more, label.written = front ++ more → (Mode.label.after front).inString = false := by
  fun_induction readLabel text generalizing label with
  | case1 => cases read
  | case2 =>
    cases read
    refine ⟨rfl, fun front more split => ?_⟩
    rcases front with _ | ⟨_, _ | ⟨_, _ | ⟨_, front⟩⟩⟩
    · rfl
    · cases (List.cons.inj split).1
      rfl
    · simp only [List.cons_append, List.nil_append, List.cons.injEq] at split
      obtain ⟨rfl, rfl, -⟩ := split
      rfl
    · simp at split
  | case3 => cases read
  | case4 c rest other line ih =>
    obtain ⟨inner, found, rfl⟩ := Option.map_eq_some_iff.mp read
    obtain ⟨closed, outside⟩ := ih found
    -- behind a mark the next character does not close the placeholder, so the mark counts for nothing
    have still (front more : List Char) (split : inner.written = front ++ more) (some : front ≠ []) :
        ((Mode.label.next c).after front) = Mode.label.after front := by
      by_cases mark : c = '#'
      · subst mark
        cases front with
        | nil => exact absurd rfl some
        | cons d front =>
          have open? : d ≠ '>' := by
            rintro rfl
            exact other ⟨rfl, by rw [readLabel_split found, split]; rfl⟩
          simp [Mode.next, open?]
      · simp [Mode.next, mark]
    have some : inner.written ≠ [] := fun none => by
      have last := readLabel_last found
      rw [none] at last
      cases last
    refine ⟨?_, fun front more split => ?_⟩
    · exact (still inner.written [] (List.append_nil _).symm some).trans closed
    · cases front with
      | nil => rfl
      | cons d front =>
        obtain ⟨rfl, behind⟩ := List.cons.inj split
        by_cases none : front = []
        · subst none
          by_cases mark : c = '#' <;> simp [Mode.next, mark, Mode.inString]
        · exact (congrArg Mode.inString (still front more behind none)).trans (outside front more behind)

/-! ### Between lexemes -/

theorem plain_of_blank {c : Char} (blank : c ∈ [' ', '\t', '\r', '\n']) : Mode.plain.next c = .plain := by
  have all : [' ', '\t', '\r', '\n'].all (Mode.plain.next · = .plain) = true := by decide
  exact of_decide_eq_true (List.all_eq_true.mp all c blank)

theorem after_blanks {blanks : List Char} (blank : ∀ c ∈ blanks, c ∈ [' ', '\t', '\r', '\n']) :
    Mode.plain.after blanks = .plain := by
  induction blanks with
  | nil => rfl
  | cons c blanks ih =>
    obtain ⟨first, others⟩ := List.forall_mem_cons.mp blank
    rw [Mode.after_cons, plain_of_blank first, ih others]

theorem Mode.comment_after {body : List Char} (line : '\n' ∉ body) : Mode.comment.after body = .comment := by
  induction body with
  | nil => rfl
  | cons c body ih =>
    rw [List.mem_cons, not_or] at line
    simpa [Mode.next, Ne.symm line.1] using ih line.2

/-- A comment is over at the end of its line. -/
theorem after_comment {body : List Char} (line : '\n' ∉ body) :
    Mode.plain.after ('#' :: body ++ ['\n']) = .plain := by
  rw [Mode.after_append]
  change (Mode.comment.after body).after ['\n'] = .plain
  rw [Mode.comment_after line]
  rfl

/-- A comment goes on to the end of the front, or ends in it. -/
theorem OutsideStrings.comment {front : List Char} (outside : OutsideStrings ('#' :: front)) :
    '\n' ∉ front ∨ ∃ body later, front = body ++ '\n' :: later ∧ '\n' ∉ body ∧
      OutsideStrings ('\n' :: later) := by
  by_cases feed : '\n' ∈ front
  · obtain ⟨body, later, rfl, line⟩ := List.eq_append_cons_of_mem feed
    have split : '#' :: (body ++ '\n' :: later) = '#' :: body ++ ['\n'] ++ later := by simp
    rw [split] at outside
    exact .inr ⟨body, later, rfl, line, outside.behind (after_comment line)⟩
  · exact .inl feed

/-- A place between lexemes, with a rest behind it: in the open, or in a comment where its line ends. -/
def Mode.Between (mode : Mode) (rest : List Char) : Prop :=
  mode = .plain ∨ mode = .comment ∧ LineEnds rest

theorem Mode.Between.outside {mode : Mode} {rest : List Char} (between : mode.Between rest) :
    mode.inString = false := by
  rcases between with rfl | ⟨rfl, -⟩ <;> rfl

theorem Gap.behind {gap after : List Char} (passed : Gap after gap) {mode : Mode}
    (between : mode.Between (gap ++ after)) {front rest : List Char} (split : gap ++ after = front ++ rest)
    (inside : (mode.after front).inString = true) :
    ∃ later mode', front = gap ++ later ∧ after = later ++ rest ∧ Mode.Between mode' after ∧
      (mode'.after later).inString = true := by
  -- no character of a gap leads into a string, so the front goes on behind every piece of it
  induction passed generalizing mode front with
  | nil => exact ⟨front, mode, rfl, split, between, inside⟩
  | @blank c gap blank _ ih =>
    cases front with
    | nil => exact absurd (between.outside.symm.trans inside) (by decide)
    | cons d front =>
      obtain ⟨rfl, behind⟩ := List.cons.inj split
      have plain : mode.next c = .plain := by
        rcases between with rfl | ⟨rfl, ends⟩
        · exact plain_of_blank blank
        · cases ends c rfl
          rfl
      rw [Mode.after_cons, plain] at inside
      obtain ⟨later, mode', rfl, found⟩ := ih (.inl rfl) behind inside
      exact ⟨later, mode', rfl, found⟩
  | @comment body gap line ends _ ih =>
    cases front with
    | nil => exact absurd (between.outside.symm.trans inside) (by decide)
    | cons d front =>
      obtain ⟨rfl, same⟩ := List.cons.inj split
      rcases between with rfl | ⟨-, wrong⟩
      · change (Mode.comment.after front).inString = true at inside
        change body ++ gap ++ after = front ++ rest at same
        rw [List.append_assoc] at same
        rcases List.append_eq_append_iff.mp same with ⟨later, rfl, behind⟩ | ⟨more, rfl, -⟩
        · rw [Mode.after_append, Mode.comment_after line] at inside
          obtain ⟨last, mode', rfl, found⟩ := ih (.inr ⟨rfl, ends⟩) behind inside
          exact ⟨last, mode', by simp, found⟩
        · rw [Mode.comment_after fun member => line (List.mem_append_left _ member)] at inside
          cases inside
      · cases wrong '#' rfl

/-! ### Lexemes with something else behind them -/

theorem readString_again {text : List Char} {string : Reading} (read : readString text = some string)
    (rest : List Char) : readString (string.written ++ rest) = some ⟨string.value, string.written, rest⟩ := by
  fun_induction readString text generalizing string with
  | case1 => cases read
  | case2 =>
    cases read
    change readString ('"' :: rest) = _
    rw [readString.eq_def]
    simp
  | case3 => cases read
  | case4 => cases read
  | case5 e after _ _ ih =>
    obtain ⟨inner, found, rfl⟩ := Option.map_eq_some_iff.mp read
    simp [readString, ih found, Reading.push]
  | case6 c after quote line slash ih =>
    obtain ⟨inner, found, rfl⟩ := Option.map_eq_some_iff.mp read
    change readString (c :: (inner.written ++ rest)) = _
    rw [readString.eq_def]
    simp [quote, line, slash, ih found, Reading.push]

section

variable {c : Char} {after : List Char} {lexeme : Lexeme}

theorem Lexeme.run_again {class? : Char → Bool} (symbol : String → Symbol) {rest : List Char}
    (first : class? c = true) (stop : ∀ d ∈ rest.head?, class? d = false) :
    Lexeme.run class? symbol (c :: (after.takeWhile class? ++ rest)) =
      ⟨(Lexeme.run class? symbol (c :: after)).symbol, (Lexeme.run class? symbol (c :: after)).written,
        rest⟩ := by
  have inside : ∀ d ∈ c :: after.takeWhile class?, class? d = true :=
    List.forall_mem_cons.mpr ⟨first, List.all_eq_true.mp List.all_takeWhile⟩
  have run := Lexeme.run_eq symbol inside stop
  rw [List.cons_append] at run
  rw [run, Lexeme.run, List.takeWhile_cons_of_pos first]

theorem Lexeme.read_again (read : Lexeme.read c after = .ok lexeme) {rest : List Char}
    (next : rest.head? = lexeme.rest.head? ∨ Stops rest) :
    ∃ word, lexeme.written = c :: word ∧
      Lexeme.read c (word ++ rest) = .ok ⟨lexeme.symbol, lexeme.written, rest⟩ := by
  -- a run stops in front of the new rest as well, whichever of the two it is
  have still {class? : Char → Bool} (stop : ∀ d ∈ lexeme.rest.head?, class? d = false)
      (stops : Stops rest → ∀ d ∈ rest.head?, class? d = false) : ∀ d ∈ rest.head?, class? d = false := by
    rcases next with same | other
    · rwa [same]
    · exact stops other
  obtain ⟨string, found, rfl⟩ | ⟨digit, rfl⟩ | ⟨start, digit, rfl⟩ | ⟨label, found, rfl⟩ |
    ⟨symbol, known, rfl⟩ := Lexeme.read_cases read
  · obtain ⟨rfl, -⟩ := List.cons.inj (Lexeme.read_split read)
    exact ⟨string.written, rfl, by simp [Lexeme.read, readString_again found]⟩
  · have stop := still (stop_of_dropWhile _) fun stops d first => (stops d first).2
    refine ⟨after.takeWhile Text.isDigit, List.takeWhile_cons_of_pos digit, ?_⟩
    rw [← Lexeme.run_again Symbol.number digit stop]
    simp [Lexeme.read, ne_quote_of_isDigit digit, digit]
  · have stop := still (stop_of_dropWhile _) fun stops d first => (stops d first).1
    have first := isWordChar_of_isWordStart start
    refine ⟨after.takeWhile isWordChar, List.takeWhile_cons_of_pos first, ?_⟩
    rw [← Lexeme.run_again Symbol.ofWord first stop]
    simp [Lexeme.read, ne_quote_of_isWordStart start, digit, start]
  · obtain ⟨rfl, -⟩ := List.cons.inj (Lexeme.read_split read)
    have labelled : IsLabel (String.ofList label.value) := by
      simpa [IsLabel] using isLabel_of_readLabel found
    refine ⟨'#' :: label.written, rfl, ?_⟩
    have again := Lexeme.read_placeholder labelled rest
    simpa [written_of_readLabel found] using again
  · exact ⟨[], rfl, Lexeme.read_char known rest⟩

/-- A lexeme leads back into the open, and only a string has line feeds inside of it. -/
theorem Lexeme.after_written (read : Lexeme.read c after = .ok lexeme) :
    Mode.plain.after lexeme.written = .plain ∧
      ∀ front more, lexeme.written = c :: front ++ '\n' :: more → ¬ OutsideStrings (c :: front) := by
  -- of the five kinds only a string can have a line feed in it, and there it is inside of the quotes
  obtain ⟨string, found, rfl⟩ | ⟨digit, rfl⟩ | ⟨start, digit, rfl⟩ | ⟨label, found, rfl⟩ |
    ⟨symbol, known, rfl⟩ := Lexeme.read_cases read
  · refine ⟨(after_string found).1, fun front more split outside => ?_⟩
    obtain ⟨rfl, -⟩ := List.cons.inj split
    have split : string.written = front ++ '\n' :: more := (List.cons.inj split).2
    have inside := (after_string found).2 front '\n' more split
    exact absurd (inside.symm.trans outside) (by decide)
  · have digits : ∀ d ∈ (c :: after).takeWhile Text.isDigit, Text.isDigit d = true :=
      List.all_eq_true.mp List.all_takeWhile
    refine ⟨after_word (by decide) digits, fun front more split => ?_⟩
    have feed := digits '\n' (by simp [show (c :: after).takeWhile Text.isDigit = _ from split])
    cases feed
  · have word : ∀ d ∈ (c :: after).takeWhile isWordChar, isWordChar d = true :=
      List.all_eq_true.mp List.all_takeWhile
    refine ⟨after_word (by decide) word, fun front more split => ?_⟩
    have feed := word '\n' (by simp [show (c :: after).takeWhile isWordChar = _ from split])
    rw [not_isWordChar_newline] at feed
    cases feed
  · refine ⟨(after_label found).1, fun front more split => ?_⟩
    have feed : '\n' ∈ '<' :: '#' :: label.written := by
      rw [show '<' :: '#' :: label.written = _ from split]
      simp
    simp [written_of_readLabel found, (isLabel_of_readLabel found).1] at feed
  · have bare : ∀ mark ∈ Symbol.marks, Mode.plain.after [mark.1] = .plain := by decide
    refine ⟨bare _ (Symbol.mem_marks known), fun front more split => ?_⟩
    have short := congrArg List.length split
    simp at short

end

/-! ### The strings of an accepted text -/

/-- Of the lexemes only a string has places of a string in it, between its quotes. -/
theorem Lexeme.string_of_inString {c : Char} {after : List Char} {lexeme : Lexeme}
    (read : Lexeme.read c after = .ok lexeme) {front more : List Char}
    (split : lexeme.written = front ++ more) (inside : (Mode.plain.after front).inString = true) :
    ∃ opened closing value, front = '"' :: opened ∧ more = closing ++ ['"'] ∧
      unquote (opened ++ closing) = some value.toList ∧ lexeme.symbol = .string value := by
  have wrong (outside : (Mode.plain.after front).inString = false) : False := by
    rw [outside] at inside
    cases inside
  -- no other lexeme has quotes in it, so all kinds but the first lead to a contradiction
  obtain ⟨string, found, rfl⟩ | ⟨digit, rfl⟩ | ⟨start, digit, rfl⟩ | ⟨label, found, rfl⟩ |
    ⟨symbol, known, rfl⟩ := Lexeme.read_cases read
  · cases front with
    | nil => cases inside
    | cons d opened =>
      obtain ⟨rfl, literal⟩ : '"' = d ∧ string.written = opened ++ more := List.cons.inj split
      obtain ⟨body, quoted, value⟩ := unquote_of_readString found
      rcases List.eq_nil_or_concat more with rfl | ⟨closing, last, rfl⟩
      · rw [List.append_nil] at literal
        subst literal
        exact (wrong (congrArg Mode.inString (after_string found).1)).elim
      · rw [quoted, List.concat_eq_append, ← List.append_assoc] at literal
        obtain ⟨rfl, ends⟩ := List.append_inj' literal rfl
        cases ends
        exact ⟨opened, closing, _, rfl, List.concat_eq_append, by simp [value], rfl⟩
  · exact (wrong (outside_of_word (by decide) (List.all_eq_true.mp List.all_takeWhile) split)).elim
  · exact (wrong (outside_of_word (by decide) (List.all_eq_true.mp List.all_takeWhile) split)).elim
  · refine (wrong ?_).elim
    rcases front with _ | ⟨_, _ | ⟨_, front⟩⟩
    · rfl
    · cases (List.cons.inj split).1
      rfl
    · obtain ⟨rfl, rfl, labelled⟩ : '<' = _ ∧ '#' = _ ∧ label.written = front ++ more := by simpa using split
      exact (after_label found).2 front more labelled
  · have bare : ∀ mark ∈ Symbol.marks, (Mode.plain.after [mark.1]).inString = false := by decide
    cases front with
    | nil => cases inside
    | cons d front =>
      obtain ⟨rfl, nothing⟩ : c = d ∧ [] = front ++ more := List.cons.inj split
      obtain ⟨rfl, -⟩ := List.append_eq_nil_iff.mp nothing.symm
      exact (wrong (bare _ (Symbol.mem_marks known))).elim

/-- The front of a text breaks off inside of a string literal, and the tokens have that string at its own
position, which is counted from behind what comes before. -/
def BreaksString (before : List Char) (tokens : List Token) (front rest : List Char) : Prop :=
  ∃ first opened more last value, front = first ++ '"' :: opened ∧ rest = more ++ '"' :: last ∧
    unquote (opened ++ more) = some value.toList ∧ ⟨.string value, positionBehind (before ++ first)⟩ ∈ tokens

theorem BreaksString.behind {before gap front rest : List Char} {tokens : List Token}
    (breaks : BreaksString (before ++ gap) tokens front rest) (emitted : List Token) :
    BreaksString before (emitted ++ tokens) (gap ++ front) rest := by
  obtain ⟨first, opened, more, last, value, rfl, rfl, literal, member⟩ := breaks
  refine ⟨gap ++ first, opened, more, last, value, (List.append_assoc _ _ _).symm, rfl, literal, ?_⟩
  rw [← List.append_assoc]
  exact List.mem_append_right _ member

/-- Between lexemes it does not matter where a comment ends. -/
theorem Mode.Between.plain {mode : Mode} {front rest : List Char} (between : mode.Between (front ++ rest))
    (inside : (mode.after front).inString = true) : (Mode.plain.after front).inString = true := by
  rcases between with rfl | ⟨rfl, ends⟩
  · exact inside
  · cases front with
    | nil => cases inside
    | cons c front =>
      cases ends c rfl
      exact inside

theorem ScanState.breaksString {state : ScanState} {tokens : List Token} (run : state.run = .ok tokens)
    {before : List Char} (place : state.position = positionBehind before) {mode : Mode}
    (between : mode.Between state.rest) {front rest : List Char} (split : state.rest = front ++ rest)
    (inside : (mode.after front).inString = true) : BreaksString before tokens front rest := by
  fun_induction ScanState.run state generalizing tokens before mode front with
  | case1 state position finished =>
    obtain ⟨blank, -⟩ := ScanState.round_eq_finished_iff.mp finished
    have gap := ScanState.gap_of_skips blank
    rw [← List.append_nil state.rest] at between split
    obtain ⟨later, mode', -, nothing, still, inside⟩ := gap.behind between split inside
    obtain ⟨rfl, -⟩ := List.append_eq_nil_iff.mp nothing.symm
    exact absurd (still.outside.symm.trans inside) (by decide)
  | case2 => cases run
  | case3 state emitted next advanced ih =>
    obtain ⟨tokens, ran, rfl⟩ := map_eq_ok_iff.mp run
    obtain ⟨gap, ⟨text, passed⟩, moved, -⟩ |
      ⟨gap, c, after, lexeme, ⟨text, passed⟩, read, left, moved, rfl⟩ :=
      (ScanState.turn_of_round advanced).taken
    · rw [text] at between split
      obtain ⟨later, mode', rfl, behind, still, inside⟩ := passed.behind between split inside
      rw [place, positionBehind_after] at moved
      exact (ih ran moved still behind inside).behind emitted
    · rw [text] at between split
      obtain ⟨later, mode', rfl, behind, still, inside⟩ := passed.behind between split inside
      rw [behind] at still
      have inside := still.plain inside
      have whole := Lexeme.read_split read
      rw [behind] at whole
      -- the front breaks off inside of this lexeme, or goes on behind it
      rcases List.append_eq_append_iff.mp whole with ⟨more, written, rfl⟩ | ⟨last, rfl, more⟩
      · obtain ⟨opened, closing, value, rfl, rfl, literal, symbol⟩ :=
          Lexeme.string_of_inString read written inside
        refine ⟨gap, opened, closing, lexeme.rest, value, rfl, by simp, literal, ?_⟩
        rw [← symbol, ← positionBehind_after, ← place]
        exact List.mem_cons_self ..
      · rw [Mode.after_append, (Lexeme.after_written read).1] at inside
        rw [place, positionBehind_after, ← List.append_assoc] at moved
        rw [← left] at more
        have breaks := ih ran moved (.inl rfl) more inside
        rw [← List.append_assoc]
        rw [List.append_assoc before] at breaks
        exact breaks.behind _

/-- In a text that is accepted, what does not stand outside of strings stands inside of the literal of a
string token. -/
theorem breaksString_of_scan {source : String} {tokens : List Token} (scanned : scan source = .ok tokens)
    {front rest : List Char} (split : source.toList = front ++ rest) (inside : ¬ OutsideStrings front) :
    BreaksString [] tokens front rest :=
  ScanState.breaksString scanned rfl (.inl rfl) split (by simpa [OutsideStrings] using inside)

end RawMapping
