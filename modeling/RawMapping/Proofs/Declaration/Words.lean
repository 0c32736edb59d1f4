import RawMapping.Proofs.Declaration.Accepted
import RawMapping.Proofs.Declaration.Reading

/-! The words of a file: the symbols that carry a text of their own. Reading keeps all of them in order,
except those in the bodies of structures and classes, which are skipped. -/

set_option autoImplicit false

namespace RawMapping

variable {α β : Type}

/-! ### Words and where they stand -/

def Symbol.isWord : Symbol → Bool
  | .identifier _ | .string _ | .number _ | .placeholder _ => true
  | _ => false

def words (symbols : List Symbol) : List Symbol :=
  symbols.filter Symbol.isWord

def wordValues (tokens : List Token) : List String :=
  (words (tokens.map (·.symbol))).map Symbol.value

@[simp] theorem words_append (first second : List Symbol) :
    words (first ++ second) = words first ++ words second :=
  List.filter_append first second

/-- Where a symbol stands: what the last keyword outside skipped bodies was, and how many blocks are
open from a skipped body on. -/
structure Place where
  kind : DeclKind
  depth : Nat

def Place.top : Place :=
  ⟨.enumKind, 0⟩

-- The end of a block outside skipped bodies ends the body of an enumeration, and changes nothing.
def Place.after (place : Place) : Symbol → Place
  | .keyword kind => if place.depth = 0 then ⟨kind, 0⟩ else place
  | .indent =>
    if place.depth = 0 ∧ place.kind = .enumKind then place else ⟨place.kind, place.depth + 1⟩
  | .dedent => ⟨place.kind, place.depth - 1⟩
  | _ => place

def wordsAt (inside : Bool) (place : Place) : List Symbol → List Symbol
  | [] => []
  | symbol :: symbols =>
    (if decide (0 < place.depth) = inside then words [symbol] else []) ++
      wordsAt inside (place.after symbol) symbols

def shownWords (symbols : List Symbol) : List Symbol :=
  wordsAt false .top symbols

def hiddenWords (symbols : List Symbol) : List Symbol :=
  wordsAt true .top symbols

theorem length_wordsAt (place : Place) (symbols : List Symbol) :
    (wordsAt false place symbols).length + (wordsAt true place symbols).length =
      (words symbols).length := by
  induction symbols generalizing place with
  | nil => rfl
  | cons symbol symbols ih =>
    have rest := ih (place.after symbol)
    rw [← List.singleton_append, words_append]
    by_cases inside : 0 < place.depth
    · simp [wordsAt, inside]
      omega
    · simp [wordsAt, inside]
      omega

theorem wordsAt_of_none_inside {place : Place} {symbols : List Symbol}
    (none : wordsAt true place symbols = []) : wordsAt false place symbols = words symbols := by
  induction symbols generalizing place with
  | nil => rfl
  | cons symbol symbols ih =>
    obtain ⟨now, later⟩ := List.append_eq_nil_iff.mp none
    rw [← List.singleton_append, words_append, ← ih later]
    by_cases inside : 0 < place.depth
    · simp [inside] at now
      simp [wordsAt, inside, now]
    · simp [wordsAt, inside]

/-- The words outside are all words exactly if there are none inside. -/
theorem map_value_shownWords_iff (symbols : List Symbol) :
    (shownWords symbols).map Symbol.value = (words symbols).map Symbol.value ↔
      hiddenWords symbols = [] := by
  constructor
  · intro same
    have count := length_wordsAt .top symbols
    have lengths := congrArg List.length same
    rw [List.length_map, List.length_map, shownWords] at lengths
    exact List.eq_nil_of_length_eq_zero (by rw [hiddenWords]; omega)
  · intro none
    rw [shownWords, wordsAt_of_none_inside none]

/-! ### What readers take -/

def Symbol.isFlat : Symbol → Bool
  | .keyword _ | .indent => false
  | _ => true

/-- Tokens are taken off the front, with these words, and without entering anything. -/
def Consumed (tokens : List Token) (spelled : List Symbol) (rest : List Token) : Prop :=
  ∃ taken, tokens = taken ++ rest ∧ (∀ token ∈ taken, token.symbol.isFlat = true) ∧
    words (taken.map (·.symbol)) = spelled

theorem Consumed.refl (tokens : List Token) : Consumed tokens [] tokens :=
  ⟨[], rfl, List.forall_mem_nil _, rfl⟩

theorem Consumed.trans {tokens middle rest : List Token} {first second : List Symbol}
    (left : Consumed tokens first middle) (right : Consumed middle second rest) :
    Consumed tokens (first ++ second) rest := by
  obtain ⟨taken, rfl, flat, rfl⟩ := left
  obtain ⟨more, rfl, moreFlat, rfl⟩ := right
  refine ⟨taken ++ more, (List.append_assoc _ _ _).symm, ?_, ?_⟩
  · exact List.forall_mem_append.mpr ⟨flat, moreFlat⟩
  · rw [List.map_append, words_append]

theorem Consumed.token {token : Token} (flat : token.symbol.isFlat = true) (rest : List Token) :
    Consumed (token :: rest) (words [token.symbol]) rest :=
  ⟨[token], rfl, List.forall_mem_singleton.mpr flat, rfl⟩

theorem Consumed.suffix {tokens rest : List Token} {spelled : List Symbol}
    (taken : Consumed tokens spelled rest) : rest <:+ tokens := by
  obtain ⟨front, rfl, -⟩ := taken
  exact List.suffix_append front rest

theorem WellScanned.suffix {tokens rest : List Token} (scanned : WellScanned tokens)
    (suffix : rest <:+ tokens) : WellScanned rest :=
  fun token member => scanned token (suffix.subset member)

/-- Outside skipped bodies, the words taken come first. -/
theorem Consumed.wordsAt {tokens rest : List Token} {spelled : List Symbol}
    (taken : Consumed tokens spelled rest) (kind : DeclKind) :
    wordsAt false ⟨kind, 0⟩ (tokens.map (·.symbol)) =
      spelled ++ wordsAt false ⟨kind, 0⟩ (rest.map (·.symbol)) := by
  obtain ⟨front, rfl, flat, rfl⟩ := taken
  induction front with
  | nil => rfl
  | cons token front ih =>
    rw [List.forall_mem_cons] at flat
    have same : Place.after ⟨kind, 0⟩ token.symbol = ⟨kind, 0⟩ := by
      cases shape : token.symbol <;> simp_all [Place.after, Symbol.isFlat]
    rw [List.cons_append, List.map_cons, RawMapping.wordsAt, same, ih flat.2, List.map_cons,
      ← List.singleton_append (l := front.map (·.symbol)), words_append, List.append_assoc]
    rfl

/-- What is read has the words of the tokens taken. -/
def Covers (read : List Token → Except SyntaxError (β × List Token)) (symbols : β → List Symbol) :
    Prop :=
  ∀ tokens value rest, read tokens = .ok (value, rest) → WellScanned tokens →
    Consumed tokens (words (symbols value)) rest

theorem expect_consumed {symbol : Symbol} {tokens rest : List Token}
    (read : expect symbol tokens = .ok rest) (flat : symbol.isFlat = true) :
    Consumed tokens (words [symbol]) rest := by
  unfold expect at read
  split at read
  · next token after =>
    split at read
    · next same =>
      cases read
      subst same
      exact Consumed.token flat _
    · cases read
  · cases read

theorem skipNewlines_consumed (tokens : List Token) : Consumed tokens [] (skipNewlines tokens) := by
  induction tokens with
  | nil => exact Consumed.refl []
  | cons token tokens ih =>
    obtain ⟨symbol, position⟩ := token
    by_cases newline : symbol = .newline
    · subst newline
      have mark : Consumed (⟨.newline, position⟩ :: tokens) [] tokens := Consumed.token rfl tokens
      rw [skipNewlines_newline]
      exact mark.trans ih
    · have visible : (current (⟨symbol, position⟩ :: tokens)).symbol ≠ .newline := newline
      rw [skipNewlines_of_current visible]
      exact Consumed.refl _

/-! ### Lists -/

theorem Reader.more_covers (reader : Reader β) {symbols : β → List Symbol}
    (covers : Covers reader.read symbols) : Covers reader.more (·.flatMap symbols) := by
  intro tokens items rest read scanned
  fun_induction Reader.more reader tokens generalizing items rest with
  | case1 => cases read; exact Consumed.refl _
  | case2 => cases read
  | case3 => cases read
  | case4 token after comma item left found others last more ih =>
    cases read
    have mark : Consumed (token :: after) (words [token.symbol]) after :=
      Consumed.token (by rw [comma]; rfl) after
    rw [comma] at mark
    have first := covers _ _ _ found scanned.tail
    have later := ih _ _ more (scanned.tail.suffix first.suffix)
    change Consumed _ (words (symbols item ++ others.flatMap symbols)) last
    rw [words_append]
    exact mark.trans (first.trans later)
  | case5 => cases read; exact Consumed.refl _

theorem Reader.separated_covers (reader : Reader β) {symbols : β → List Symbol}
    (covers : Covers reader.read symbols) : Covers reader.separated.read (·.flatMap symbols) := by
  intro tokens items rest read scanned
  obtain ⟨⟨item, left⟩, found, more⟩ := bind_eq_ok_iff.mp read
  obtain ⟨⟨others, last⟩, moreFound, same⟩ := bind_eq_ok_iff.mp more
  cases same
  have first := covers _ _ _ found scanned
  change Consumed tokens (words (symbols item ++ others.flatMap symbols)) rest
  rw [words_append]
  exact first.trans (reader.more_covers covers _ _ _ moreFound (scanned.suffix first.suffix))

theorem Consumed.close {tokens rest last : List Token} {spelled : List Symbol} {close : Symbol}
    (taken : Consumed tokens spelled rest) (closed : expect close rest = .ok last)
    (flat : close.isFlat = true) (mark : close.isWord = false) : Consumed tokens spelled last := by
  have whole := taken.trans (expect_consumed closed flat)
  rwa [show words [close] = [] by simp [words, mark], List.append_nil] at whole

theorem Reader.untilClosed_covers (reader : Reader β) {symbols : β → List Symbol}
    (covers : Covers reader.read symbols) :
    Covers (reader.untilClosed .closeParen) (·.flatMap symbols) := by
  intro tokens items rest read scanned
  unfold Reader.untilClosed at read
  split at read
  · obtain ⟨left, taken, same⟩ := map_eq_ok_iff.mp read
    cases same
    exact expect_consumed taken rfl
  · obtain ⟨⟨found, left⟩, separated, closed⟩ := bind_eq_ok_iff.mp read
    obtain ⟨last, taken, same⟩ := bind_eq_ok_iff.mp closed
    cases same
    exact (reader.separated_covers covers _ _ _ separated scanned).close taken rfl rfl

theorem readParenthesized_covers (reader : Reader β) {symbols : β → List Symbol}
    (covers : Covers reader.read symbols) :
    Covers (readParenthesized reader) fun items => (items.getD []).flatMap symbols := by
  intro tokens items rest read scanned
  unfold readParenthesized at read
  split at read
  · next position after =>
    obtain ⟨⟨found, left⟩, closed, same⟩ := bind_eq_ok_iff.mp read
    cases same
    have mark : Consumed (⟨.openParen, position⟩ :: after) [] after := Consumed.token rfl after
    exact mark.trans (reader.untilClosed_covers covers _ _ _ closed scanned.tail)
  · cases read
    exact Consumed.refl _

/-! ### Parts of a line -/

theorem words_separated (items : List β) (symbols : β → List Symbol) :
    words (separated (items.map symbols)) = words (items.flatMap symbols) := by
  cases items with
  | nil => rfl
  | cons first others =>
    simp only [separated, words, List.map_cons, List.filter_append, List.filter_flatMap,
      List.flatMap_map, List.flatMap_cons]
    rfl

theorem readIdentifier_covers : Covers readIdentifier fun word => [.identifier word.1] := by
  intro tokens word rest read scanned
  unfold readIdentifier at read
  split at read
  · cases read
    exact Consumed.token rfl _
  · cases read

theorem typeReader_covers : Covers typeReader.read NamedType.symbols := by
  intro tokens type rest read scanned
  obtain ⟨⟨⟨name, position⟩, left⟩, found, same⟩ := bind_eq_ok_iff.mp read
  cases same
  exact readIdentifier_covers _ _ _ found scanned

theorem readLiteral_covers : Covers readLiteral Literal.symbols := by
  intro tokens literal rest read scanned
  unfold readLiteral at read
  split at read
  · cases read
    exact Consumed.token rfl _
  · cases read
    exact Consumed.token rfl _
  · cases read
    rw [Literal.symbols_number (scanned _ List.mem_cons_self)]
    exact Consumed.token rfl _
  · next position after =>
    split at read
    · next digits place left =>
      cases read
      rw [Literal.symbols_minus]
      have mark : Consumed (⟨.minus, position⟩ :: ⟨.number digits, place⟩ :: rest) []
          (⟨.number digits, place⟩ :: rest) := Consumed.token rfl _
      exact mark.trans (Consumed.token rfl rest)
    · cases read
  · cases read

theorem readLabelBefore_consumed {mark : Symbol} (tokens : List Token) (flat : mark.isFlat = true) :
    Consumed tokens (words (labelSymbols mark (readLabelBefore mark tokens).1))
      (readLabelBefore mark tokens).2 := by
  unfold readLabelBefore
  split
  · next name position next after =>
    split
    · next same =>
      subst same
      have first : Consumed (⟨.identifier name, position⟩ :: next :: after) [.identifier name]
          (next :: after) := Consumed.token rfl _
      exact first.trans (Consumed.token flat after)
    · exact Consumed.refl _
  · exact Consumed.refl _

theorem argumentReader_covers : Covers argumentReader.read Argument.symbols := by
  intro tokens argument rest read scanned
  have label : Consumed tokens _ (readLabelBefore .equals tokens).2 := readLabelBefore_consumed tokens rfl
  obtain ⟨⟨value, left⟩, found, same⟩ := bind_eq_ok_iff.mp read
  cases same
  rw [Argument.symbols, words_append]
  exact label.trans (readLiteral_covers _ _ _ found (scanned.suffix label.suffix))

theorem parameterReader_covers : Covers parameterReader.read Parameter.symbols := by
  intro tokens parameter rest read scanned
  have label : Consumed tokens _ (readLabelBefore .colon tokens).2 := readLabelBefore_consumed tokens rfl
  obtain ⟨⟨type, left⟩, found, same⟩ := bind_eq_ok_iff.mp read
  cases same
  rw [Parameter.symbols, words_append]
  exact label.trans (typeReader_covers _ _ _ found (scanned.suffix label.suffix))

theorem words_parenthesized (items : List β) (symbols : β → List Symbol) :
    words (parenthesized (items.map symbols)) = words (items.flatMap symbols) := by
  rw [parenthesized, ← words_separated]
  simp [words, Symbol.isWord]

theorem words_bracketed (items : List β) (symbols : β → List Symbol) :
    words (bracketed (items.map symbols)) = words (items.flatMap symbols) := by
  rw [bracketed, ← words_separated]
  simp [words, Symbol.isWord]

theorem variantReader_covers : Covers variantReader.read Variant.symbols := by
  intro tokens variant rest read scanned
  obtain ⟨⟨⟨name, position⟩, left⟩, named, payload⟩ := bind_eq_ok_iff.mp read
  obtain ⟨⟨parameters, last⟩, found, same⟩ := bind_eq_ok_iff.mp payload
  cases same
  have first := readIdentifier_covers _ _ _ named scanned
  have later := readParenthesized_covers _ parameterReader_covers _ _ _ found
    (scanned.suffix first.suffix)
  have whole := first.trans later
  cases parameters with
  | none => exact whole
  | some parameters =>
    change Consumed tokens ([.identifier name] ++ words (parameters.flatMap Parameter.symbols)) rest at whole
    rwa [← words_parenthesized] at whole

theorem readTypeArguments_covers : Covers readTypeArguments (·.flatMap NamedType.symbols) := by
  intro tokens types rest read scanned
  unfold readTypeArguments at read
  split at read
  · next position after =>
    obtain ⟨⟨found, left⟩, separated, closed⟩ := bind_eq_ok_iff.mp read
    obtain ⟨last, taken, same⟩ := bind_eq_ok_iff.mp closed
    cases same
    have mark : Consumed (⟨.openBracket, position⟩ :: after) [] after := Consumed.token rfl after
    have inner := typeReader.separated_covers typeReader_covers _ _ _ separated scanned.tail
    exact mark.trans (inner.close taken rfl rfl)
  · cases read
    exact Consumed.refl _

theorem Attribute.words_symbols (attr : Attribute α) :
    words attr.symbols = [.identifier attr.name.text] ++
      (words (attr.typeArguments.flatMap NamedType.symbols) ++
        words (attr.arguments.flatMap Argument.symbols)) := by
  have types : words (if attr.typeArguments.isEmpty then []
      else bracketed (attr.typeArguments.map NamedType.symbols)) =
        words (attr.typeArguments.flatMap NamedType.symbols) := by
    cases attr.typeArguments with
    | nil => rfl
    | cons type types => exact words_bracketed _ _
  have arguments : words (if attr.arguments.isEmpty then []
      else parenthesized (attr.arguments.map Argument.symbols)) =
        words (attr.arguments.flatMap Argument.symbols) := by
    cases attr.arguments with
    | nil => rfl
    | cons argument arguments => exact words_parenthesized _ _
  rw [← types, ← arguments, ← words_append]
  rfl

theorem readAttribute_covers (position : Position) :
    Covers (readAttribute position) Attribute.symbols := by
  intro tokens attr rest read scanned
  obtain ⟨⟨⟨name, namePosition⟩, afterName⟩, named, typed⟩ := bind_eq_ok_iff.mp read
  obtain ⟨⟨types, afterTypes⟩, typesFound, applied⟩ := bind_eq_ok_iff.mp typed
  obtain ⟨⟨arguments, left⟩, argumentsFound, same⟩ := bind_eq_ok_iff.mp applied
  cases same
  have first := readIdentifier_covers _ _ _ named scanned
  have nameScanned := scanned.suffix first.suffix
  have second := readTypeArguments_covers _ _ _ typesFound nameScanned
  have third := readParenthesized_covers _ argumentReader_covers _ _ _ argumentsFound
    (nameScanned.suffix second.suffix)
  rw [Attribute.words_symbols]
  exact first.trans (second.trans third)

/-! ### Lines -/

theorem readAttributes_covers : Covers readAttributes attributeLines := by
  intro tokens attrs rest read scanned
  fun_induction readAttributes tokens generalizing attrs rest with
  | case1 => cases read
  | case2 => cases read
  | case3 position after attr left found others last more ih =>
    cases read
    have mark : Consumed (⟨.atSign, position⟩ :: after) [] after := Consumed.token rfl after
    have first := readAttribute_covers _ _ _ _ found scanned.tail
    have line := first.trans (skipNewlines_consumed left)
    have later := ih _ _ more (scanned.tail.suffix line.suffix)
    have words_line : words (attr.symbols ++ [.newline]) = words attr.symbols ++ [] := words_append _ _
    change Consumed _ (words ((attr.symbols ++ [.newline]) ++ attributeLines others)) last
    rw [words_append, words_line]
    exact mark.trans (line.trans later)
  | case4 => cases read; exact Consumed.refl _

theorem CaseLine.words_symbols (line : CaseLine α) :
    words line.symbols =
      words (attributeLines line.attributes) ++ words (line.variants.flatMap Variant.symbols) := by
  rw [symbols, words_append, words_append, words_separated]
  exact congrArg (_ ++ ·) (List.append_nil _)

theorem caseLineReader_covers : Covers caseLineReader.read CaseLine.symbols := by
  intro tokens line rest read scanned
  obtain ⟨⟨attributes, above⟩, attributesFound, variantsRead⟩ := bind_eq_ok_iff.mp read
  obtain ⟨⟨variants, left⟩, variantsFound, ended⟩ := bind_eq_ok_iff.mp variantsRead
  have first := readAttributes_covers _ _ _ attributesFound scanned
  have second := variantReader.separated_covers variantReader_covers _ _ _ variantsFound
    (scanned.suffix first.suffix)
  dsimp only at ended
  split at ended
  · cases ended
    have whole := (first.trans second).trans (skipNewlines_consumed left)
    rw [List.append_nil] at whole
    rw [CaseLine.words_symbols]
    exact whole
  · cases ended

theorem readCaseLines_covers : Covers readCaseLines (·.flatMap CaseLine.symbols) := by
  intro tokens lines rest read scanned
  fun_induction readCaseLines tokens generalizing lines rest with
  | case1 tokens _ position after skipped =>
    cases read
    have newlines := skipNewlines_consumed tokens
    rw [skipped] at newlines
    exact newlines.trans (Consumed.token rfl after)
  | case2 => cases read; exact skipNewlines_consumed _
  | case3 => cases read
  | case4 => cases read
  | case5 tokens _ line left found others last more ih =>
    cases read
    have newlines := skipNewlines_consumed tokens
    have first := caseLineReader_covers _ _ _ found scanned.skipNewlines
    have later := ih _ _ more (scanned.skipNewlines.suffix first.suffix)
    change Consumed _ (words (line.symbols ++ others.flatMap CaseLine.symbols)) last
    rw [words_append]
    exact newlines.trans (first.trans later)

/-! ### Declarations -/

def Ended (tokens : List Token) : Prop :=
  ∀ before token after, tokens = before ++ token :: after → token.symbol = .eof → after = []

theorem Ended.suffix {tokens rest : List Token} (ended : Ended tokens) (suffix : rest <:+ tokens) :
    Ended rest := by
  obtain ⟨front, rfl⟩ := suffix
  rintro before token after rfl symbol
  exact ended (front ++ before) token after (List.append_assoc _ _ _).symm symbol

theorem ended_of_run {state : ScanState} {tokens : List Token} (run : state.run = .ok tokens) :
    Ended tokens := by
  obtain ⟨front, position, rfl, inside⟩ := ScanState.run_ends run
  intro before token after same symbol
  cases after with
  | nil => rfl
  | cons next after =>
    -- with something behind it, the token stands before the last one
    have earlier := congrArg List.dropLast same
    rw [List.dropLast_concat, List.dropLast_append_of_ne_nil (List.cons_ne_nil _ _),
      List.dropLast_cons_of_ne_nil (List.cons_ne_nil _ _)] at earlier
    exact absurd symbol (inside token (by simp [earlier]))

theorem wordsAt_skipBlock (kind : DeclKind) (depth : Nat) {tokens : List Token} (ended : Ended tokens) :
    wordsAt false ⟨kind, depth⟩ (tokens.map (·.symbol)) =
      wordsAt false ⟨kind, 0⟩ ((skipBlock depth tokens).map (·.symbol)) := by
  fun_induction skipBlock depth tokens with
  | case1 => rfl
  | case2 => rfl
  | case3 depth token rest symbol ih =>
    rw [← ih (ended.suffix (List.suffix_cons token rest)), List.map_cons, wordsAt, symbol]
    simp [Place.after]
  | case4 depth token rest symbol ih =>
    rw [← ih (ended.suffix (List.suffix_cons token rest)), List.map_cons, wordsAt, symbol]
    simp [Place.after]
  | case5 depth token rest symbol =>
    have last : rest = [] := ended [] token rest rfl symbol
    rw [last, List.map_singleton, symbol]
    rfl
  | case6 depth token rest notIndent notDedent notEof ih =>
    have same : Place.after ⟨kind, depth + 1⟩ token.symbol = ⟨kind, depth + 1⟩ := by
      cases shape : token.symbol <;> simp_all [Place.after]
    rw [← ih (ended.suffix (List.suffix_cons token rest)), List.map_cons, wordsAt, same]
    simp

theorem words_blockSymbols (lines : List (CaseLine α)) :
    words (blockSymbols lines) = words (lines.flatMap CaseLine.symbols) := by
  cases lines with
  | nil => rfl
  | cons line lines =>
    change words ([.indent] ++ ((line :: lines).flatMap CaseLine.symbols ++ [.dedent])) = _
    rw [words_append, words_append]
    exact List.append_nil _

theorem readBlock_words {kind : DeclKind} {tokens rest : List Token} {lines : List (CaseLine Position)}
    (read : readBlock kind tokens = .ok (lines, rest)) (scanned : WellScanned tokens)
    (ended : Ended tokens) :
    rest <:+ tokens ∧ wordsAt false ⟨kind, 0⟩ (tokens.map (·.symbol)) =
      words (blockSymbols lines) ++ wordsAt false ⟨kind, 0⟩ (rest.map (·.symbol)) := by
  rw [words_blockSymbols]
  unfold readBlock at read
  split at read
  · next position after =>
    have inside : after <:+ ⟨.indent, position⟩ :: after := List.suffix_cons _ _
    split at read
    · next enumeration =>
      have taken := readCaseLines_covers _ _ _ read scanned.tail
      refine ⟨taken.suffix.trans inside, ?_⟩
      subst enumeration
      exact taken.wordsAt .enumKind
    · next other =>
      cases read
      refine ⟨(skipBlock_suffix 1 after).trans inside, ?_⟩
      rw [List.map_cons, wordsAt]
      -- from the indentation on the place counts open blocks, as the skipping does
      have opened : Place.after ⟨kind, 0⟩ .indent = ⟨kind, 1⟩ := by simp [Place.after, other]
      rw [opened, wordsAt_skipBlock kind 1 (ended.suffix inside)]
      rfl
  · cases read
    exact ⟨List.suffix_rfl, rfl⟩

theorem Declaration.words_symbols (declaration : Declaration α) :
    words declaration.symbols = words (attributeLines declaration.attributes) ++
      ([.identifier declaration.name.text] ++ words (blockSymbols declaration.body.lines)) := by
  rw [symbols, words_append, words_append]
  rfl

/-- The words of a declaration are those it was read from, its body apart if that is skipped. -/
theorem declarationReader_words {tokens rest : List Token} {declaration : Declaration Position}
    (read : declarationReader.read tokens = .ok (declaration, rest)) (scanned : WellScanned tokens)
    (ended : Ended tokens) (before : DeclKind) :
    rest <:+ tokens ∧ wordsAt false ⟨before, 0⟩ (tokens.map (·.symbol)) =
      words declaration.symbols ++ wordsAt false ⟨declaration.kind, 0⟩ (rest.map (·.symbol)) := by
  obtain ⟨⟨attributes, above⟩, attributesFound, declared⟩ := bind_eq_ok_iff.mp read
  have first := readAttributes_covers _ _ _ attributesFound scanned
  dsimp only at declared
  split at declared
  · next kind position after =>
    obtain ⟨⟨⟨name, namePosition⟩, afterName⟩, named, marked⟩ := bind_eq_ok_iff.mp declared
    obtain ⟨afterColon, colon, lineEnded⟩ := bind_eq_ok_iff.mp marked
    obtain ⟨afterLine, newline, blocked⟩ := bind_eq_ok_iff.mp lineEnded
    obtain ⟨⟨lines, left⟩, linesFound, same⟩ := bind_eq_ok_iff.mp blocked
    cases same
    have inside : after <:+ tokens := (List.suffix_cons _ after).trans first.suffix
    have head := (((readIdentifier_covers _ _ _ named (scanned.suffix inside)).close colon rfl rfl).close
      newline rfl rfl).trans (skipNewlines_consumed afterLine)
    have below := head.suffix.trans inside
    obtain ⟨suffix, block⟩ := readBlock_words linesFound (scanned.suffix below) (ended.suffix below)
    refine ⟨suffix.trans below, ?_⟩
    -- the keyword settles how the block below it is read
    have keyword : wordsAt false ⟨before, 0⟩ ((⟨.keyword kind, position⟩ :: after).map (·.symbol)) =
        wordsAt false ⟨kind, 0⟩ (after.map (·.symbol)) := rfl
    rw [first.wordsAt, keyword, head.wordsAt, block, Declaration.words_symbols]
    simp only [List.append_assoc]
    rfl
  · cases declared

theorem readDeclarations_words {tokens : List Token} {declarations : List (Declaration Position)}
    (read : readDeclarations tokens = .ok declarations) (scanned : WellScanned tokens)
    (ended : Ended tokens) (before : DeclKind) :
    wordsAt false ⟨before, 0⟩ (tokens.map (·.symbol)) =
      words (declarations.flatMap Declaration.symbols) := by
  fun_induction readDeclarations tokens generalizing declarations before with
  | case1 tokens atEnd =>
    cases read
    have newlines := skipNewlines_consumed tokens
    rw [newlines.wordsAt]
    cases left : skipNewlines tokens with
    | nil => rfl
    | cons token after =>
      rw [left] at atEnd newlines
      have last := ended.suffix newlines.suffix [] token after rfl atEnd
      rw [last, List.map_singleton, show token.symbol = .eof from atEnd]
      rfl
  | case2 => cases read
  | case3 => cases read
  | case4 tokens _ declaration left found others more ih =>
    cases read
    have newlines := skipNewlines_consumed tokens
    have skippedEnded := ended.suffix newlines.suffix
    obtain ⟨suffix, first⟩ :=
      declarationReader_words found scanned.skipNewlines skippedEnded before
    rw [newlines.wordsAt, first, ih more (scanned.skipNewlines.suffix suffix) (skippedEnded.suffix suffix),
      List.flatMap_cons, words_append]
    rfl

/-- The declarations of a source text have all its words but those that are hidden. -/
theorem shownWords_of_parse {source : String} {declarations : List (Declaration Position)}
    (read : parse source = .ok declarations) :
    ∃ tokens, scan source = .ok tokens ∧
      shownWords (tokens.map (·.symbol)) = words (declarations.flatMap Declaration.symbols) := by
  obtain ⟨tokens, scanned, declared⟩ := bind_eq_ok_iff.mp read
  refine ⟨tokens, scanned, ?_⟩
  exact readDeclarations_words declared (ScanState.wellWritten_run scanned) (ended_of_run scanned) .enumKind

end RawMapping
