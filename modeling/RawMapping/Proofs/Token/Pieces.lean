import RawMapping.Proofs.Token.Seam

/-! How tokens are spelled. Every token that is not part of the layout stands for a piece of the text, at
the position of its first character, and between the pieces there is nothing but blanks and comments. So
nothing of a text that is accepted gets lost, and a position says where a token is written. -/

set_option autoImplicit false

namespace RawMapping

/-! ### Positions -/

/-- The position behind a text: the line feeds in it are counted, and the characters behind the last
line feed. -/
def positionBehind (text : List Char) : Position :=
  ⟨1 + text.count '\n', 1 + (text.reverse.takeWhile (· ≠ '\n')).length⟩

theorem after_start (text : List Char) : Position.start.after text = positionBehind text := by
  induction text using List.reverseRecOn with
  | nil => rfl
  | append_singleton text c ih =>
    rw [Position.after_append, ih]
    by_cases feed : c = '\n'
    · subst feed
      simp [Position.next, positionBehind, Nat.add_comm]
    · simp [Position.next, positionBehind, feed, Nat.add_comm]

theorem positionBehind_after (before piece : List Char) :
    (positionBehind before).after piece = positionBehind (before ++ piece) := by
  rw [← after_start, ← Position.after_append, after_start]

/-! ### Gaps -/

/-- What stands between pieces, in front of a rest: blanks, line feeds and comments, each of which goes on
to the end of its line. -/
inductive Gap (after : List Char) : List Char → Prop where
  | nil : Gap after []
  | blank {c : Char} {rest : List Char} : c ∈ [' ', '\t', '\r', '\n'] → Gap after rest → Gap after (c :: rest)
  | comment {body rest : List Char} : '\n' ∉ body → (∀ c ∈ (rest ++ after).head?, c = '\n') →
      Gap after rest → Gap after ('#' :: body ++ rest)

theorem Gap.append {first second after : List Char} (left : Gap (second ++ after) first)
    (right : Gap after second) : Gap after (first ++ second) := by
  induction left with
  | nil => exact right
  | blank blank _ ih => exact .blank blank ih
  | comment line ends _ ih =>
    rw [List.append_assoc]
    rw [← List.append_assoc] at ends
    exact .comment line ends ih

theorem Gap.blanks {blanks : List Char} (after : List Char)
    (blank : ∀ c ∈ blanks, c ∈ [' ', '\t', '\r', '\n']) : Gap after blanks := by
  induction blanks with
  | nil => exact .nil
  | cons c blanks ih =>
    obtain ⟨first, others⟩ := List.forall_mem_cons.mp blank
    exact .blank first (ih others)

theorem blank_of_isIndentChar {c : Char} (blank : isIndentChar c = true) : c ∈ [' ', '\t', '\r', '\n'] := by
  simp only [isIndentChar, Bool.or_eq_true, beq_iff_eq] at blank
  rcases blank with rfl | rfl <;> simp

theorem blank_of_isSpace {depth : Nat} {c : Char} (blank : isSpace depth c = true) :
    c ∈ [' ', '\t', '\r', '\n'] := by
  simp only [isSpace, Bool.or_eq_true, Bool.and_eq_true, beq_iff_eq] at blank
  rcases blank with ((rfl | rfl) | rfl) | ⟨-, rfl⟩ <;> simp

theorem Gap.takeWhile_comment (body : List Char) :
    Gap (body.dropWhile isNotBreak) ('#' :: body.takeWhile isNotBreak) := by
  have line : '\n' ∉ body.takeWhile isNotBreak := fun member => by
    cases List.all_eq_true.mp List.all_takeWhile _ member
  have ends : ∀ c ∈ ([] ++ body.dropWhile isNotBreak).head?, c = '\n' := by
    intro c first
    have stop := List.head?_dropWhile_not isNotBreak body
    rw [List.nil_append] at first
    rw [Option.mem_def.mp first] at stop
    simpa [isNotBreak] using stop
  have gap := Gap.comment line ends .nil
  rwa [List.append_nil] at gap

def Passes (text gap rest : List Char) : Prop :=
  text = gap ++ rest ∧ Gap rest gap

theorem Passes.trans {text middle rest first second : List Char} (left : Passes text first middle)
    (right : Passes middle second rest) : Passes text (first ++ second) rest := by
  obtain ⟨rfl, first⟩ := left
  obtain ⟨rfl, second⟩ := right
  exact ⟨(List.append_assoc _ _ _).symm, first.append second⟩

theorem passes_comment (body : List Char) :
    Passes ('#' :: body) (('#' :: body).takeWhile isNotBreak) (('#' :: body).dropWhile isNotBreak) := by
  refine ⟨List.takeWhile_append_dropWhile.symm, ?_⟩
  rw [List.takeWhile_cons_of_pos isNotBreak_hash, List.dropWhile_cons_of_pos isNotBreak_hash]
  exact .takeWhile_comment body

theorem passes_commentOf (text : List Char) :
    Passes text (commentOf text) (text.drop (commentOf text).length) := by
  unfold commentOf
  split
  · next first =>
    obtain ⟨body, rfl⟩ := List.head?_eq_some_iff.mp first
    have passes := passes_comment body
    have rest := congrArg (List.drop (('#' :: body).takeWhile isNotBreak).length) passes.1
    rw [List.drop_left] at rest
    rwa [rest]
  · exact ⟨rfl, .nil⟩

theorem passes_optionalChar {c : Char} (blank : c ∈ [' ', '\t', '\r', '\n']) (text : List Char) :
    Passes text (optionalChar c text) (text.drop (optionalChar c text).length) := by
  unfold optionalChar
  split
  · next first =>
    obtain ⟨rest, rfl⟩ := List.head?_eq_some_iff.mp first
    exact ⟨rfl, .blank blank .nil⟩
  · exact ⟨rfl, .nil⟩

theorem passes_skippedLine (text : List Char) :
    Passes text (skippedLine text) (text.drop (skippedLine text).length) := by
  have comment := passes_commentOf text
  have back := passes_optionalChar (c := '\r') (by simp) (text.drop (commentOf text).length)
  have feed := passes_optionalChar (c := '\n') (by simp) (text.drop ((commentOf text).length +
    (optionalChar '\r' (text.drop (commentOf text).length)).length))
  rw [List.drop_drop] at back feed
  have whole := (comment.trans back).trans feed
  unfold skippedLine
  simpa [Nat.add_assoc] using whole

/-! ### Words, numbers and strings -/

def IsWord (text : List Char) : Prop :=
  ∃ c rest, text = c :: rest ∧ isWordStart c = true ∧ Text.isDigit c = false ∧
    ∀ d ∈ rest, isWordChar d = true

def IsDigits (text : List Char) : Prop :=
  text ≠ [] ∧ ∀ c ∈ text, Text.isDigit c = true

/-- A run between the texts around it that is part of no longer one. -/
structure Longest (run : List Char → Prop) (before written after : List Char) : Prop where
  isRun : run written
  longest : ∀ less left right more, before = less ++ left → after = right ++ more →
    run (left ++ written ++ right) → left = [] ∧ right = []

def unquote : List Char → Option (List Char)
  | [] => some []
  | '\\' :: c :: rest => (unquote rest).map (unescape c :: ·)
  | c :: rest => if c ∈ ['\\', '"', '\n'] then none else (unquote rest).map (c :: ·)

def Symbol.SpelledAs (before written after : List Char) : Symbol → Prop
  | .identifier name => written = name.toList ∧ Longest IsWord before written after
  | .keyword kind => written = kind.text.toList ∧ Longest IsWord before written after
  | .number digits => written = digits.toList ∧ Longest IsDigits before written after
  | .placeholder label => written = '<' :: '#' :: label.toList ++ ['#', '>']
  | .string value => ∃ body, written = '"' :: body ++ ['"'] ∧ unquote body = some value.toList
  | .newline => written = ['\n']
  | .indent | .dedent | .eof => False
  | symbol => written = symbol.value.toList

/-- The tokens spell the text, behind what comes before: each one stands for a piece of it, at the position
where the piece begins, and only gaps are between the pieces. -/
inductive Spells : List Char → List Char → List Token → Prop where
  | done {before gap : List Char} : Gap [] gap → Spells before gap []
  | piece {before gap written after : List Char} {symbol : Symbol} {tokens : List Token} :
      Gap (written ++ after) gap → written ≠ [] → symbol.SpelledAs (before ++ gap) written after →
        Spells (before ++ gap ++ written) after tokens →
          Spells before (gap ++ written ++ after) (⟨symbol, positionBehind (before ++ gap)⟩ :: tokens)

theorem Spells.behind_gap {before text gap rest : List Char} {tokens : List Token}
    (passes : Passes text gap rest) (spells : Spells (before ++ gap) rest tokens) :
    Spells before text tokens := by
  obtain ⟨rfl, first⟩ := passes
  cases spells with
  | done last =>
    exact .done (Gap.append (by simpa using first) last)
  | @piece before' gap' written after symbol tokens second some spelled later =>
    rw [List.append_assoc] at first
    have both := first.append second
    rw [List.append_assoc before] at spelled later ⊢
    rw [List.append_assoc gap', ← List.append_assoc gap, ← List.append_assoc]
    exact .piece both some spelled later

/-! ### Words and numbers end where they cannot go on -/

theorem Text.CharSet.contains_of_inside {first second : Text.CharSet} {c : Char}
    (inside : ∀ left ∈ first, ∃ right ∈ second, right.1 ≤ left.1 ∧ left.2 ≤ right.2)
    (contained : first.contains c = true) : second.contains c = true := by
  simp only [Text.CharSet.contains, List.any_eq_true, Bool.and_eq_true, decide_eq_true_eq] at contained ⊢
  obtain ⟨left, member, above, below⟩ := contained
  obtain ⟨right, other, low, high⟩ := inside left member
  exact ⟨right, other, Nat.le_trans low above, Nat.le_trans below high⟩

theorem isWordChar_of_isDigit {c : Char} (digit : Text.isDigit c = true) : isWordChar c = true := by
  have numeric : Text.isNumeric c = true := by
    unfold Text.isDigit at digit
    unfold Text.isNumeric
    split at digit
    · next ascii => rw [if_pos ascii]; exact digit
    · next ascii =>
      rw [if_neg ascii]
      exact Text.CharSet.contains_of_inside (by decide +kernel) digit
  simp [isWordChar, numeric]

theorem IsWord.forall {text : List Char} (word : IsWord text) : ∀ c ∈ text, isWordChar c = true := by
  obtain ⟨c, rest, rfl, start, -, inside⟩ := word
  exact List.forall_mem_cons.mpr ⟨isWordChar_of_isWordStart start, inside⟩

theorem IsWord.front {left more : List Char} (word : IsWord (left ++ more)) (some : left ≠ []) :
    IsWord left := by
  obtain ⟨c, rest, split, start, digit, inside⟩ := word
  obtain ⟨d, left, rfl⟩ := List.exists_cons_of_ne_nil some
  obtain ⟨rfl, rfl⟩ := List.cons.inj split
  exact ⟨d, left, rfl, start, digit, fun e member => inside e (List.mem_append_left _ member)⟩

theorem IsDigits.front {left more : List Char} (digits : IsDigits (left ++ more)) (some : left ≠ []) :
    IsDigits left :=
  ⟨some, fun c member => digits.2 c (List.mem_append_left _ member)⟩

/-- A run whose characters stop behind it, and that no run ends right in front of, is part of no longer
one. -/
theorem longest_of_stop {run : List Char → Prop} {class? : Char → Bool} {before written after : List Char}
    (inside : ∀ {text}, run text → ∀ c ∈ text, class? c = true)
    (front : ∀ {left more}, run (left ++ more) → left ≠ [] → run left) (isRun : run written)
    (stop : ∀ c ∈ after.head?, class? c = false) (apart : ∀ left, left <:+ before → ¬ run left) :
    Longest run before written after := by
  refine ⟨isRun, ?_⟩
  rintro less left right more rfl rfl longer
  constructor
  · by_contra some
    rw [List.append_assoc] at longer
    exact apart left (List.suffix_append less left) (front longer some)
  · cases right with
    | nil => rfl
    | cons c right =>
      have member := inside longer c (by simp)
      rw [stop c rfl] at member
      cases member

/-- No word or number that ends in front of the rest could go on in it. -/
structure Parted (before rest : List Char) : Prop where
  word : ∀ c ∈ rest.head?, isWordChar c = true → ∀ run, run <:+ before → ¬ IsWord run
  number : ∀ c ∈ rest.head?, Text.isDigit c = true → ∀ run, run <:+ before → ¬ IsDigits run

theorem Parted.of_head {rest : List Char} (stop : ∀ c ∈ rest.head?, isWordChar c = false)
    (before : List Char) : Parted before rest := by
  constructor
  · intro c first word
    rw [stop c first] at word
    cases word
  · intro c first digit
    have word := isWordChar_of_isDigit digit
    rw [stop c first] at word
    cases word

theorem suffix_ends {run before : List Char} {c : Char} (ends : run <:+ before ++ [c]) (some : run ≠ []) :
    c ∈ run := by
  obtain ⟨left, split⟩ := ends
  have last := congrArg List.getLast? split
  rw [List.getLast?_append_of_ne_nil _ some, List.getLast?_concat] at last
  exact List.mem_of_getLast? last

theorem Parted.of_last {c : Char} (stop : isWordChar c = false) (before rest : List Char) :
    Parted (before ++ [c]) rest := by
  have bare {run : List Char} (ends : run <:+ before ++ [c]) (some : run ≠ [])
      (words : ∀ d ∈ run, isWordChar d = true) : False := by
    have word := words c (suffix_ends ends some)
    rw [stop] at word
    cases word
  constructor
  · intro _ _ _ run ends word
    obtain ⟨d, left, rfl, -⟩ := id word
    exact bare ends (List.cons_ne_nil d left) word.forall
  · intro _ _ _ run ends digits
    exact bare ends digits.1 fun d member => isWordChar_of_isDigit (digits.2 d member)

theorem Parted.behind_gap {gap rest before : List Char} (passed : Gap rest gap)
    (parted : Parted before (gap ++ rest)) : Parted (before ++ gap) rest := by
  induction passed generalizing before with
  | nil => rwa [List.append_nil]
  | @blank c gap blank _ ih =>
    have stop : [' ', '\t', '\r', '\n'].any isWordChar = false := by decide
    have bare := Bool.eq_false_iff.mpr (List.any_eq_false.mp stop c blank)
    have behind := ih (Parted.of_last bare before _)
    rwa [List.append_assoc] at behind
  | @comment body gap line ends _ ih =>
    have stop : ∀ c ∈ (gap ++ rest).head?, isWordChar c = false := by
      intro c first
      rw [ends c first]
      exact not_isWordChar_newline
    have behind := ih (Parted.of_head stop (before ++ '#' :: body))
    rwa [List.append_assoc] at behind

/-! ### The piece of a lexeme -/

theorem unquote_of_readString {text : List Char} {string : Reading} (read : readString text = some string) :
    ∃ body, string.written = body ++ ['"'] ∧ unquote body = some string.value := by
  fun_induction readString text generalizing string with
  | case1 => cases read
  | case2 rest => cases read; exact ⟨[], rfl, rfl⟩
  | case3 => cases read
  | case4 => cases read
  | case5 e after _ _ ih =>
    obtain ⟨inner, found, rfl⟩ := Option.map_eq_some_iff.mp read
    obtain ⟨body, written, value⟩ := ih found
    exact ⟨'\\' :: e :: body, by simp [Reading.push, written], by simp [unquote, Reading.push, value]⟩
  | case6 c rest quote line slash ih =>
    obtain ⟨inner, found, rfl⟩ := Option.map_eq_some_iff.mp read
    obtain ⟨body, written, value⟩ := ih found
    refine ⟨c :: body, by simp [Reading.push, written], ?_⟩
    rw [unquote]
    · simp [quote, line, slash, value, Reading.push]
    · rintro _ _ rfl
      exact absurd rfl slash

theorem written_of_readLabel {text : List Char} {label : Reading} (read : readLabel text = some label) :
    label.written = label.value ++ ['#', '>'] := by
  fun_induction readLabel text generalizing label with
  | case1 => cases read
  | case2 => cases read; rfl
  | case3 => cases read
  | case4 c rest _ _ ih =>
    obtain ⟨inner, found, rfl⟩ := Option.map_eq_some_iff.mp read
    simp [Reading.push, ih found]

theorem stop_of_dropWhile {p : Char → Bool} (text : List Char) :
    ∀ c ∈ (text.dropWhile p).head?, p c = false := by
  intro c first
  have stop := List.head?_dropWhile_not p text
  rw [Option.mem_def.mp first] at stop
  simpa using stop

section

variable {before after : List Char} {c : Char} {lexeme : Lexeme}

theorem longest_digits (digit : Text.isDigit c = true) (parted : Parted before (c :: after)) :
    Longest IsDigits before ((c :: after).takeWhile Text.isDigit) ((c :: after).dropWhile Text.isDigit) := by
  have digits : IsDigits ((c :: after).takeWhile Text.isDigit) :=
    ⟨by simp [digit], List.all_eq_true.mp List.all_takeWhile⟩
  exact longest_of_stop (fun digits => digits.2) IsDigits.front digits (stop_of_dropWhile _)
    (parted.number c rfl digit)

theorem longest_word (start : isWordStart c = true) (digit : Text.isDigit c = false)
    (parted : Parted before (c :: after)) :
    Longest IsWord before ((c :: after).takeWhile isWordChar) ((c :: after).dropWhile isWordChar) := by
  have first := isWordChar_of_isWordStart start
  have word : IsWord ((c :: after).takeWhile isWordChar) := by
    rw [List.takeWhile_cons_of_pos first]
    exact ⟨c, _, rfl, start, digit, List.all_eq_true.mp List.all_takeWhile⟩
  exact longest_of_stop IsWord.forall IsWord.front word (stop_of_dropWhile _) (parted.word c rfl first)

theorem Symbol.spelledAs_ofWord {word : List Char} (longest : Longest IsWord before word after) :
    (Symbol.ofWord (String.ofList word)).SpelledAs before word after := by
  cases keyword : DeclKind.ofText? (String.ofList word) with
  | none =>
    simp only [Symbol.ofWord, keyword, SpelledAs]
    exact ⟨String.toList_ofList.symm, longest⟩
  | some kind =>
    simp only [Symbol.ofWord, keyword, SpelledAs]
    rw [DeclKind.text_of_ofText? keyword]
    exact ⟨String.toList_ofList.symm, longest⟩

theorem Symbol.spelledAs_mark {symbol : Symbol} (known : Symbol.ofChar? c = some symbol) :
    symbol.SpelledAs before [c] after := by
  have all : ∀ mark ∈ Symbol.marks, mark.2.SpelledAs before [mark.1] after := by
    simp [Symbol.marks, SpelledAs, Symbol.value, Symbol.kind, SymbolKind.text]
  exact all _ (Symbol.mem_marks known)

theorem Lexeme.spelledAs (read : Lexeme.read c after = .ok lexeme) (parted : Parted before (c :: after)) :
    lexeme.symbol.SpelledAs before lexeme.written lexeme.rest := by
  obtain ⟨string, found, rfl⟩ | ⟨digit, rfl⟩ | ⟨start, digit, rfl⟩ | ⟨label, found, rfl⟩ |
    ⟨symbol, known, rfl⟩ := Lexeme.read_cases read
  · obtain ⟨body, written, value⟩ := unquote_of_readString found
    exact ⟨body, congrArg ('"' :: ·) written, by rw [value, String.toList_ofList]⟩
  · exact ⟨String.toList_ofList.symm, longest_digits digit parted⟩
  · exact Symbol.spelledAs_ofWord (longest_word start digit parted)
  · simp [Symbol.SpelledAs, written_of_readLabel found]
  · exact Symbol.spelledAs_mark known

/-- A number can be followed by a word, but then no word ends with the number. -/
theorem Parted.behind_digits (digit : Text.isDigit c = true) (parted : Parted before (c :: after)) :
    Parted (before ++ (c :: after).takeWhile Text.isDigit) ((c :: after).dropWhile Text.isDigit) := by
  have digits : ∀ d ∈ (c :: after).takeWhile Text.isDigit, Text.isDigit d = true :=
    List.all_eq_true.mp List.all_takeWhile
  constructor
  · intro _ _ _ run ends word
    obtain ⟨first, rest, rfl, -, other, -⟩ := id word
    rcases List.suffix_or_suffix_of_suffix ends (List.suffix_append before _) with within | ⟨left, split⟩
    · rw [digits first (within.subset List.mem_cons_self)] at other
      cases other
    · rw [← split] at word ends
      by_cases some : left = []
      · rw [some, List.nil_append] at split
        rw [digits first (by rw [split]; exact List.mem_cons_self)] at other
        cases other
      · obtain ⟨less, whole⟩ := ends
        rw [← List.append_assoc] at whole
        exact parted.word c rfl (isWordChar_of_isDigit digit) left ⟨less, List.append_cancel_right whole⟩
          (word.front some)
  · intro d first more
    rw [stop_of_dropWhile _ d first] at more
    cases more

theorem Lexeme.parted (read : Lexeme.read c after = .ok lexeme) (parted : Parted before (c :: after)) :
    Parted (before ++ lexeme.written) lexeme.rest := by
  have behind {written : List Char} {last : Char} (ends : written.getLast? = some last)
      (stop : isWordChar last = false) (rest : List Char) : Parted (before ++ written) rest := by
    obtain ⟨front, rfl⟩ := List.getLast?_eq_some_iff.mp ends
    rw [← List.append_assoc]
    exact Parted.of_last stop _ rest
  obtain ⟨string, found, rfl⟩ | ⟨digit, rfl⟩ | ⟨start, digit, rfl⟩ | ⟨label, found, rfl⟩ |
    ⟨symbol, known, rfl⟩ := Lexeme.read_cases read
  · have quote : ('"' :: string.written).getLast? = some '"' := by
      simp [List.getLast?_cons, readString_last found]
    exact behind quote (by decide) _
  · exact Parted.behind_digits digit parted
  · exact Parted.of_head (stop_of_dropWhile _) _
  · have mark : ('<' :: '#' :: label.written).getLast? = some '>' := by
      simp [List.getLast?_cons, readLabel_last found]
    exact behind mark (by decide) _
  · have bare : ∀ mark ∈ Symbol.marks, isWordChar mark.1 = false := by decide
    exact behind rfl (bare _ (Symbol.mem_marks known)) _

theorem Lexeme.written_ne_nil (read : Lexeme.read c after = .ok lexeme) : lexeme.written ≠ [] := by
  intro nothing
  have split := congrArg List.length (Lexeme.read_split read)
  rw [nothing, List.nil_append] at split
  exact Nat.lt_irrefl _ (split ▸ Lexeme.rest_length_lt read)

end

/-! ### Runs -/

def Symbol.isSpelled : Symbol → Bool
  | .indent | .dedent => false
  | _ => true

theorem Symbol.isSpelled_of_isInner {symbol : Symbol} (inner : symbol.isInner = true) :
    symbol.isSpelled = true := by
  cases symbol <;> first | rfl | cases inner

/-- The tokens at the end of a text: the end of a line that lacks one, the end of blocks, the end of the
text. -/
def IsEnding (last : Position) (tokens : List Token) : Prop :=
  ∃ lines blocks, lines ≤ 1 ∧ tokens = List.replicate lines ⟨.newline, last⟩ ++
    List.replicate blocks ⟨.dedent, last⟩ ++ [⟨.eof, last⟩]

theorem ScanState.isEnding_closing (state : ScanState) (position : Position) :
    IsEnding position (state.closing position) := by
  unfold closing
  cases state.lineOpen with
  | false => exact ⟨0, state.levels.length, Nat.zero_le 1, rfl⟩
  | true => exact ⟨1, state.levels.length, Nat.le_refl 1, rfl⟩

theorem ScanState.gap_of_skips {state : ScanState} (blank : ∀ c ∈ state.rest, state.skips c = true) :
    Gap [] state.rest := by
  refine Gap.blanks [] fun c member => ?_
  have skipped := blank c member
  unfold skips at skipped
  split at skipped
  · exact blank_of_isIndentChar skipped
  · exact blank_of_isSpace skipped

theorem ScanState.Turn.taken {state next : ScanState} {tokens : List Token} (turn : state.Turn tokens next) :
    (∃ gap, Passes state.rest gap next.rest ∧ next.position = state.position.after gap ∧
      ∀ token ∈ tokens, token.symbol.isSpelled = false) ∨
    ∃ gap c after lexeme, Passes state.rest gap (c :: after) ∧ Lexeme.read c after = .ok lexeme ∧
      next.rest = lexeme.rest ∧ next.position = state.position.after (gap ++ lexeme.written) ∧
      tokens = [⟨lexeme.symbol, state.position.after gap⟩] := by
  -- indentation and spaces are gaps, each with its own class of characters
  have indents {blanks rest : List Char} (text : state.rest = blanks ++ rest)
      (blank : ∀ d ∈ blanks, isIndentChar d = true) : Passes state.rest blanks rest :=
    ⟨text, Gap.blanks _ fun d member => blank_of_isIndentChar (blank d member)⟩
  have spaced {spaces rest : List Char} (text : state.rest = spaces ++ rest)
      (blank : ∀ d ∈ spaces, isSpace state.depth d = true) : Passes state.rest spaces rest :=
    ⟨text, Gap.blanks _ fun d member => blank_of_isSpace (blank d member)⟩
  cases turn with
  | skipped start text blank =>
    exact .inl ⟨_, (indents text blank).trans (passes_skippedLine _), (Position.after_append _ _ _).symm,
      by simp⟩
  | begun start text blank stop symbol indented =>
    refine .inl ⟨_, indents text blank, rfl, fun token member => ?_⟩
    rcases symbol_of_indentTokens indented token member with opens | closes
    · rw [opens]
      rfl
    · rw [closes]
      rfl
  | comment inside text blank =>
    exact .inl ⟨_, (spaced text blank).trans (passes_comment _), (Position.after_append _ _ _).symm, by simp⟩
  | lexeme inside text blank stop other read =>
    exact .inr ⟨_, _, _, _, spaced text blank, read, rfl, (Position.after_append _ _ _).symm, rfl⟩

theorem ScanState.Turn.spells {state next : ScanState} {tokens : List Token} (turn : state.Turn tokens next)
    {before : List Char} (place : state.position = positionBehind before)
    (parted : Parted before state.rest) :
    ∃ front, state.rest = front ++ next.rest ∧ next.position = positionBehind (before ++ front) ∧
      Parted (before ++ front) next.rest ∧
      ∀ later, Spells (before ++ front) next.rest later →
        Spells before state.rest (tokens.filter (·.symbol.isSpelled) ++ later) := by
  -- a turn passes over a gap only, or reads one lexeme behind a gap
  obtain ⟨gap, passes, moved, layout⟩ | ⟨gap, c, after, lexeme, ⟨text, passed⟩, read, left, moved, rfl⟩ :=
    turn.taken
  · have none : tokens.filter (·.symbol.isSpelled) = [] := List.filter_eq_nil_iff.mpr (by simpa using layout)
    rw [passes.1] at parted
    refine ⟨gap, passes.1, ?_, parted.behind_gap passes.2, fun later spells => ?_⟩
    · rw [moved, place, positionBehind_after]
    · rw [none]
      exact spells.behind_gap passes
  · rw [text] at parted
    have behind := parted.behind_gap passed
    have split := Lexeme.read_split read
    have whole : state.rest = gap ++ lexeme.written ++ lexeme.rest := by
      rw [text, split, List.append_assoc]
    have spelled : lexeme.symbol.isSpelled = true := by
      rcases Lexeme.isInner_or_newline read with inner | ⟨line, -⟩
      · exact Symbol.isSpelled_of_isInner inner
      · rw [line]
        rfl
    rw [left]
    refine ⟨gap ++ lexeme.written, whole, ?_, ?_, fun later spells => ?_⟩
    · rw [moved, place, positionBehind_after]
    · have parted := Lexeme.parted read behind
      rwa [List.append_assoc] at parted
    · rw [split] at passed
      rw [← List.append_assoc] at spells
      rw [whole, place, positionBehind_after]
      simp only [List.filter_cons, spelled, if_true, List.filter_nil, List.singleton_append]
      exact .piece passed (Lexeme.written_ne_nil read) (Lexeme.spelledAs read behind) spells

/-- What a run emits, but for blocks and for the ending, spells what is left of the text. -/
theorem ScanState.spells_run {state : ScanState} {tokens : List Token} (run : state.run = .ok tokens)
    {before : List Char} (place : state.position = positionBehind before)
    (parted : Parted before state.rest) :
    ∃ body ending, tokens = body ++ ending ∧
      Spells before state.rest (body.filter (·.symbol.isSpelled)) ∧
      IsEnding (positionBehind (before ++ state.rest)) ending := by
  fun_induction ScanState.run state generalizing tokens before with
  | case1 state position finished =>
    cases run
    obtain ⟨blank, rfl⟩ := ScanState.round_eq_finished_iff.mp finished
    rw [place, positionBehind_after]
    exact ⟨[], _, rfl, .done (ScanState.gap_of_skips blank), state.isEnding_closing _⟩
  | case2 => cases run
  | case3 state emitted next advanced ih =>
    obtain ⟨later, ran, rfl⟩ := map_eq_ok_iff.mp run
    obtain ⟨front, text, moved, still, spells⟩ := (ScanState.turn_of_round advanced).spells place parted
    obtain ⟨body, ending, rfl, spelled, ends⟩ := ih ran moved still
    refine ⟨emitted ++ body, ending, (List.append_assoc _ _ _).symm, ?_, ?_⟩
    · rw [List.filter_append]
      exact spells _ spelled
    · rw [text, ← List.append_assoc]
      exact ends

/-- A text that is accepted is spelled by its tokens, but for blocks and for the tokens that end it. Each of
the others stands for a piece of the text at its own position, and only blanks, line feeds and comments
stand between the pieces. -/
theorem scan_spells {source : String} {tokens : List Token} (scanned : scan source = .ok tokens) :
    ∃ body ending, tokens = body ++ ending ∧
      Spells [] source.toList (body.filter (·.symbol.isSpelled)) ∧
      IsEnding (positionBehind source.toList) ending := by
  have parted : Parted [] source.toList := by
    refine ⟨fun _ _ _ run ends word => ?_, fun _ _ _ run ends digits => ?_⟩
    · obtain ⟨c, rest, rfl, -⟩ := word
      cases List.suffix_nil.mp ends
    · exact digits.1 (List.suffix_nil.mp ends)
  exact ScanState.spells_run scanned rfl parted

/-- A line feed inside of a string, another inside of brackets, and a number with a word right behind it. -/
def caption : List Token :=
  [⟨.identifier "x", ⟨1, 1⟩⟩, ⟨.openParen, ⟨1, 2⟩⟩, ⟨.string "a\nb", ⟨1, 3⟩⟩, ⟨.comma, ⟨2, 3⟩⟩,
    ⟨.number "9", ⟨3, 2⟩⟩, ⟨.identifier "lives", ⟨3, 3⟩⟩, ⟨.closeParen, ⟨3, 8⟩⟩, ⟨.newline, ⟨3, 9⟩⟩,
    ⟨.eof, ⟨3, 9⟩⟩]

theorem caption_spelled :
    scan "x(\"a\\\nb\", # c\n 9lives)" = .ok caption ∧ ∃ body ending, caption = body ++ ending ∧
      Spells [] "x(\"a\\\nb\", # c\n 9lives)".toList (body.filter (·.symbol.isSpelled)) ∧
      IsEnding (positionBehind "x(\"a\\\nb\", # c\n 9lives)".toList) ending := by
  have scanned : scan "x(\"a\\\nb\", # c\n 9lives)" = .ok caption := by decide +kernel
  exact ⟨scanned, scan_spells scanned⟩

end RawMapping
