import RawMapping.Proofs.Declaration.Words
import RawMapping.Proofs.Files.Writing
import RawMapping.Proofs.Token.Blocks

/-! Declarations whose text survives being written to a file. Names and numbers have no carriage return
in them, so it is the strings and the placeholders of a declaration that decide whether its text has one;
and they take their characters from the text that they were read from. -/

set_option autoImplicit false

namespace RawMapping

variable {α β : Type}

/-! ### Texts -/

@[simp] theorem Text.portable_append (first second : String) :
    Text.Portable (first ++ second) ↔ Text.Portable first ∧ Text.Portable second := by
  simp [Text.Portable]

theorem Text.Portable.intercalate {separator : String} {items : List String}
    (between : Text.Portable separator) (all : ∀ item ∈ items, Text.Portable item) :
    Text.Portable (separator.intercalate items) := by
  cases items with
  | nil => simp [Text.Portable]
  | cons first others =>
    obtain ⟨here, later⟩ := List.forall_mem_cons.mp all
    rw [Text.Portable, toList_intercalate_cons]
    simp only [List.mem_append, List.mem_flatMap, not_or, not_exists, not_and]
    exact ⟨here, fun item member => ⟨between, later item member⟩⟩

theorem not_isWordChar_return : isWordChar '\r' = false := by decide

theorem not_isDigit_return : Text.isDigit '\r' = false := by decide

theorem IsIdentifier.portable {name : String} (identifier : IsIdentifier name) : Text.Portable name := by
  obtain ⟨c, word, text, start, -, inside, -⟩ := (isIdentifier_iff name).mp identifier
  have all : ∀ d ∈ name.toList, isWordChar d = true := by
    rw [text, List.forall_mem_cons]
    exact ⟨isWordChar_of_isWordStart start, inside⟩
  intro member
  have word := all _ member
  rw [not_isWordChar_return] at word
  cases word

theorem IsInteger.portable {text : String} (integer : IsInteger text) : Text.Portable text := by
  obtain ⟨digits, ⟨-, all⟩, written⟩ := integer
  have plain : Text.Portable digits := by
    intro member
    have digit := all _ member
    rw [not_isDigit_return] at digit
    cases digit
  rcases written with rfl | rfl
  · exact plain
  · exact (Text.portable_append _ _).mpr ⟨by decide, plain⟩

theorem portable_quoteString {value : String} (portable : Text.Portable value) :
    Text.Portable (quoteString value) := by
  have escaped : ∀ c, '\r' ∈ escapeChar c → c = '\r' := by
    intro c member
    unfold escapeChar at member
    split at member
    · simp at member
    · split at member
      · simp at member
      · split at member
        · simp at member
        · split at member
          · simp at member
          · exact (List.mem_singleton.mp member).symm
  rw [Text.Portable, toList_quoteString]
  simp only [List.mem_cons, List.mem_append, List.mem_flatMap, List.not_mem_nil, or_false, not_or]
  refine ⟨by decide, ?_, by decide⟩
  rintro ⟨c, member, returns⟩
  exact portable (escaped c returns ▸ member)

/-! ### Declarations -/

def Literal.content : Literal α → String
  | .string value _ => value
  | .integer text _ => text
  | .placeholder label _ => label

def Attribute.Portable (attr : Attribute α) : Prop :=
  ∀ argument ∈ attr.arguments, Text.Portable argument.value.content

def CaseLine.Portable (line : CaseLine α) : Prop :=
  ∀ attr ∈ line.attributes, attr.Portable

/-- No literal has a carriage return. -/
structure Declaration.Portable (declaration : Declaration α) : Prop where
  attributes : ∀ attr ∈ declaration.attributes, attr.Portable
  lines : ∀ line ∈ declaration.body.lines, line.Portable

theorem Attribute.portable_map (f : α → β) (attr : Attribute α) :
    (attr.map f).Portable ↔ attr.Portable := by
  have same : ∀ literal : Literal α, (literal.map f).content = literal.content := by
    intro literal
    cases literal <;> rfl
  simp only [Portable, map, List.forall_mem_map, Argument.map, same]

theorem CaseLine.portable_map (f : α → β) (line : CaseLine α) :
    (line.map f).Portable ↔ line.Portable := by
  simp only [Portable, map, List.forall_mem_map, Attribute.portable_map]

theorem Declaration.portable_map (f : α → β) (declaration : Declaration α) :
    (declaration.map f).Portable ↔ declaration.Portable := by
  constructor
  · rintro ⟨attributes, lines⟩
    simp only [map, Body.map, List.forall_mem_map, Attribute.portable_map, CaseLine.portable_map]
      at attributes lines
    exact ⟨attributes, lines⟩
  · rintro ⟨attributes, lines⟩
    refine ⟨?_, ?_⟩
    · simpa only [map, List.forall_mem_map, Attribute.portable_map] using attributes
    · simpa only [map, Body.map, List.forall_mem_map, CaseLine.portable_map] using lines

theorem Declaration.portable_shape (declaration : Declaration α) :
    declaration.shape.Portable ↔ declaration.Portable :=
  declaration.portable_map fun _ => ()

/-! ### Printed declarations -/

theorem Text.Portable.labelled {label : Option String} {separator value : String}
    (named : ∀ name ∈ label, IsIdentifier name) (between : Text.Portable separator)
    (portable : Text.Portable value) : Text.Portable (labelled label separator value) := by
  unfold RawMapping.labelled
  split
  · next name =>
    split
    · exact portable
    · simp [(named name rfl).portable, between, portable]
  · exact portable

theorem Text.Portable.commaList {items : List String} (all : ∀ item ∈ items, Text.Portable item) :
    Text.Portable (commaList items) :=
  .intercalate (by decide) all

theorem Literal.portable_text {literal : Literal α} (portable : Text.Portable literal.content) :
    Text.Portable literal.text := by
  cases literal with
  | string value => exact portable_quoteString portable
  | integer text => exact portable
  | placeholder label =>
    simp only [Literal.text, Text.portable_append]
    exact ⟨⟨by decide, portable⟩, by decide⟩

theorem Attribute.Printable.portable_text {attr : Attribute α} (printable : attr.Printable)
    (portable : attr.Portable) : Text.Portable attr.text := by
  have types : ∀ name ∈ attr.typeArguments.map (·.name), Text.Portable name := by
    rw [List.forall_mem_map]
    exact fun type member => (printable.typeArguments type member).portable
  have arguments : ∀ text ∈ attr.arguments.map Argument.text, Text.Portable text := by
    rw [List.forall_mem_map]
    intro argument member
    have written := printable.arguments argument member
    exact .labelled written.label (by decide) (Literal.portable_text (portable argument member))
  simp only [Attribute.text, Text.portable_append]
  refine ⟨⟨⟨by decide, printable.name.portable⟩, ?_⟩, ?_⟩
  · split
    · decide
    · simp only [Text.portable_append]
      exact ⟨⟨by decide, .commaList types⟩, by decide⟩
  · split
    · decide
    · simp only [Text.portable_append]
      exact ⟨⟨by decide, .commaList arguments⟩, by decide⟩

theorem Variant.Printable.portable_text {variant : Variant α} (printable : variant.Printable) :
    Text.Portable variant.text := by
  unfold Variant.text
  split
  · exact printable.name.portable
  · next parameters given =>
    have fields : ∀ text ∈ parameters.map Parameter.text, Text.Portable text := by
      rw [List.forall_mem_map]
      intro parameter member
      have written := printable.parameters parameters given parameter member
      exact .labelled written.label (by decide) written.type.portable
    simp only [Text.portable_append]
    exact ⟨⟨⟨printable.name.portable, by decide⟩, .commaList fields⟩, by decide⟩

theorem CaseLine.Printable.portable_sourceLines {line : CaseLine α} (printable : line.Printable)
    (portable : line.Portable) : ∀ text ∈ line.sourceLines, Text.Portable text := by
  have variants : ∀ text ∈ line.variants.map Variant.text, Text.Portable text := by
    rw [List.forall_mem_map]
    exact fun variant member => (printable.variants variant member).portable_text
  rw [sourceLines, List.forall_mem_append, List.forall_mem_map, List.forall_mem_singleton]
  constructor
  · intro attr member
    exact (Text.portable_append _ _).mpr
      ⟨by decide, (printable.attributes attr member).portable_text (portable attr member)⟩
  · exact (Text.portable_append _ _).mpr ⟨by decide, .commaList variants⟩

theorem Declaration.Printable.portable_text {declaration : Declaration α}
    (printable : declaration.Printable) (portable : declaration.Portable) :
    Text.Portable declaration.text := by
  have lines : ∀ text ∈ declaration.sourceLines, Text.Portable text := by
    rw [sourceLines, List.forall_mem_append, List.forall_mem_append, List.forall_mem_map,
      List.forall_mem_singleton, List.forall_mem_flatMap]
    refine ⟨⟨?_, ?_⟩, ?_⟩
    · intro attr member
      exact (printable.attributes attr member).portable_text (portable.attributes attr member)
    · simp only [Text.portable_append]
      refine ⟨⟨⟨?_, by decide⟩, printable.name.portable⟩, by decide⟩
      cases declaration.kind <;> decide
    · intro line member
      exact (printable.lines line member).portable_sourceLines (portable.lines line member)
  exact (Text.portable_append _ _).mpr ⟨.intercalate (by decide) lines, by decide⟩

theorem portable_declarationsText {declarations : List (Declaration α)}
    (printable : ∀ declaration ∈ declarations, declaration.Printable)
    (portable : ∀ declaration ∈ declarations, declaration.Portable) :
    Text.Portable (declarationsText declarations) := by
  refine .intercalate (by decide) ?_
  rw [List.forall_mem_map]
  exact fun declaration member =>
    (printable declaration member).portable_text (portable declaration member)

/-! ### Declarations that were read -/

theorem readString_plain {text : List Char} {string : Reading} (read : readString text = some string)
    (plain : '\r' ∉ text) : '\r' ∉ string.value := by
  fun_induction readString text generalizing string with
  | case1 => cases read
  | case2 => cases read; exact List.not_mem_nil
  | case3 => cases read
  | case4 => cases read
  | case5 e after _ _ ih =>
    obtain ⟨inner, found, rfl⟩ := Option.map_eq_some_iff.mp read
    have other : unescape e ≠ '\r' := by
      unfold unescape
      split
      · decide
      · split
        · decide
        · rintro rfl
          exact plain (by simp)
    simp only [List.mem_cons, not_or] at plain
    rw [Reading.push, List.mem_cons, not_or]
    exact ⟨other.symm, ih found plain.2.2⟩
  | case6 c rest _ _ _ ih =>
    obtain ⟨inner, found, rfl⟩ := Option.map_eq_some_iff.mp read
    rw [List.mem_cons, not_or] at plain
    rw [Reading.push, List.mem_cons, not_or]
    exact ⟨plain.1, ih found plain.2⟩

theorem readLabel_plain {text : List Char} {label : Reading} (read : readLabel text = some label)
    (plain : '\r' ∉ text) : '\r' ∉ label.value := by
  fun_induction readLabel text generalizing label with
  | case1 => cases read
  | case2 => cases read; exact List.not_mem_nil
  | case3 => cases read
  | case4 c rest _ _ ih =>
    obtain ⟨inner, found, rfl⟩ := Option.map_eq_some_iff.mp read
    rw [List.mem_cons, not_or] at plain
    rw [Reading.push, List.mem_cons, not_or]
    exact ⟨plain.1, ih found plain.2⟩

theorem Lexeme.portable {c : Char} {rest : List Char} {lexeme : Lexeme}
    (read : Lexeme.read c rest = .ok lexeme) (plain : '\r' ∉ c :: rest) :
    Text.Portable lexeme.symbol.value := by
  have later : '\r' ∉ rest := fun member => plain (List.mem_cons_of_mem c member)
  have run (p : Char → Bool) : Text.Portable (String.ofList ((c :: rest).takeWhile p)) := by
    rw [Text.Portable, String.toList_ofList]
    exact fun member => plain ((List.takeWhile_sublist p).subset member)
  obtain ⟨string, found, rfl⟩ | ⟨-, rfl⟩ | ⟨-, -, rfl⟩ | ⟨label, found, rfl⟩ | ⟨symbol, known, rfl⟩ :=
    Lexeme.read_cases read
  · simpa [Symbol.value, Text.Portable] using readString_plain found later
  · exact run Text.isDigit
  · simp only [Lexeme.run, Symbol.ofWord]
    split
    · next kind _ => cases kind <;> decide
    · exact run isWordChar
  · have behind := readLabel_plain found fun member => later (List.mem_of_mem_tail member)
    simpa [Symbol.value, Text.Portable] using behind
  · have marks : ∀ mark ∈ Symbol.marks, Text.Portable mark.2.value := by decide
    exact marks (c, symbol) (Symbol.mem_marks known)

/-- A turn leaves a part of the text, and what it emits has its characters from the text. -/
theorem ScanState.Turn.portable {state next : ScanState} {tokens : List Token}
    (turn : state.Turn tokens next) (plain : '\r' ∉ state.rest) :
    (∀ token ∈ tokens, Text.Portable token.symbol.value) ∧ '\r' ∉ next.rest := by
  cases turn with
  | @skipped blanks after c start text blank stop skip =>
    rw [text, List.mem_append, not_or] at plain
    exact ⟨List.forall_mem_nil _, fun member => plain.2 (List.mem_of_mem_drop member)⟩
  | @begun blanks after c tokens levels start text blank stop symbol indented =>
    rw [text, List.mem_append, not_or] at plain
    refine ⟨fun token member => ?_, plain.2⟩
    rcases symbol_of_indentTokens indented token member with same | same <;> rw [same] <;> decide
  | @comment spaces after inside text blank =>
    rw [text, List.mem_append, not_or] at plain
    exact ⟨List.forall_mem_nil _, fun member => plain.2 ((List.dropWhile_sublist isNotBreak).subset member)⟩
  | @lexeme spaces after c lexeme inside text blank stop other read =>
    rw [text, List.mem_append, not_or] at plain
    refine ⟨List.forall_mem_singleton.mpr (Lexeme.portable read plain.2), fun member => plain.2 ?_⟩
    rw [Lexeme.read_split read]
    exact List.mem_append_right _ member

theorem ScanState.portable_run {state : ScanState} {tokens : List Token} (run : state.run = .ok tokens)
    (plain : '\r' ∉ state.rest) : ∀ token ∈ tokens, Text.Portable token.symbol.value := by
  fun_induction ScanState.run state generalizing tokens with
  | case1 state position _ =>
    cases run
    simp only [closing, List.forall_mem_append, List.forall_mem_singleton]
    have dedent : Text.Portable Symbol.dedent.value := by decide
    refine ⟨⟨?_, fun token member => ?_⟩, by decide⟩
    · cases state.lineOpen
      · simp
      · simp only [if_true, List.forall_mem_singleton]
        decide
    · rw [List.eq_of_mem_replicate member]
      exact dedent
  | case2 => cases run
  | case3 state emitted next advanced ih =>
    obtain ⟨later, ran, rfl⟩ := map_eq_ok_iff.mp run
    obtain ⟨here, left⟩ := (ScanState.turn_of_round advanced).portable plain
    exact List.forall_mem_append.mpr ⟨here, ih ran left⟩

theorem mem_of_wordsAt {inside : Bool} {place : Place} {symbols : List Symbol} {symbol : Symbol}
    (member : symbol ∈ wordsAt inside place symbols) : symbol ∈ symbols := by
  induction symbols generalizing place with
  | nil => cases member
  | cons first symbols ih =>
    rw [wordsAt, List.mem_append] at member
    rcases member with here | later
    · split at here
      · exact List.mem_cons.mpr (.inl (List.mem_singleton.mp (List.mem_filter.mp here).1))
      · cases here
    · exact List.mem_cons_of_mem _ (ih later)

theorem mem_separated {items : List (List Symbol)} {item : List Symbol} {symbol : Symbol}
    (member : item ∈ items) (inside : symbol ∈ item) : symbol ∈ separated items := by
  cases items with
  | nil => cases member
  | cons first others =>
    rw [separated, List.mem_append]
    rcases List.mem_cons.mp member with rfl | later
    · exact .inl inside
    · exact .inr (List.mem_flatMap.mpr ⟨item, later, List.mem_cons_of_mem _ inside⟩)

theorem Attribute.mem_symbols {attr : Attribute α} {argument : Argument α}
    (member : argument ∈ attr.arguments) {symbol : Symbol} (inside : symbol ∈ argument.value.symbols) :
    symbol ∈ attr.symbols := by
  have some : attr.arguments.isEmpty = false := by
    rw [List.isEmpty_eq_false_iff]
    exact List.ne_nil_of_mem member
  have listed : symbol ∈ separated (attr.arguments.map Argument.symbols) :=
    mem_separated (List.mem_map_of_mem member) (List.mem_append_right _ inside)
  simp [symbols, innerSymbols, some, parenthesized, listed]

theorem Declaration.mem_symbols_of_attribute {declaration : Declaration α} {attr : Attribute α}
    (member : attr ∈ declaration.attributes) {symbol : Symbol} (inside : symbol ∈ attr.symbols) :
    symbol ∈ declaration.symbols :=
  List.mem_append_left _ (List.mem_flatMap.mpr ⟨attr, member, List.mem_append_left _ inside⟩)

theorem Declaration.mem_symbols_of_line {declaration : Declaration α} {line : CaseLine α}
    (listed : line ∈ declaration.body.lines) {attr : Attribute α} (member : attr ∈ line.attributes)
    {symbol : Symbol} (inside : symbol ∈ attr.symbols) : symbol ∈ declaration.symbols := by
  have some : declaration.body.lines.isEmpty = false := by
    rw [List.isEmpty_eq_false_iff]
    exact List.ne_nil_of_mem listed
  have there : symbol ∈ declaration.body.lines.flatMap CaseLine.symbols := by
    refine List.mem_flatMap.mpr ⟨line, listed, List.mem_append_left _ ?_⟩
    exact List.mem_flatMap.mpr ⟨attr, member, List.mem_append_left _ inside⟩
  simp [symbols, blockSymbols, some, there]

/-- The words of an attribute decide: its strings and placeholders are among them, and a number has no
carriage return anyway. -/
theorem Attribute.Printable.portable {attr : Attribute α} (printable : attr.Printable)
    (words : ∀ symbol ∈ attr.symbols, symbol.isWord = true → Text.Portable symbol.value) :
    attr.Portable := by
  intro argument given
  have written := (printable.arguments argument given).value
  have inside : ∀ symbol ∈ argument.value.symbols, symbol ∈ attr.symbols :=
    fun symbol => Attribute.mem_symbols given
  cases value : argument.value with
  | integer text =>
    rw [value] at written
    exact IsInteger.portable written
  | string text =>
    rw [value] at inside
    exact words (.string text) (inside _ (List.mem_singleton_self _)) rfl
  | placeholder label =>
    rw [value] at inside
    exact words (.placeholder label) (inside _ (List.mem_singleton_self _)) rfl

theorem portable_of_parse {source : String} {declarations : List (Declaration Position)}
    (read : parse source = .ok declarations) (portable : Text.Portable source) :
    ∀ declaration ∈ declarations, declaration.Portable := by
  obtain ⟨tokens, scanned, shown⟩ := shownWords_of_parse read
  intro declaration member
  -- every word of the declaration is one of the source
  have words : ∀ symbol ∈ declaration.symbols, symbol.isWord = true → Text.Portable symbol.value := by
    intro symbol inside word
    have there : symbol ∈ words (declarations.flatMap Declaration.symbols) :=
      List.mem_filter.mpr ⟨List.mem_flatMap.mpr ⟨declaration, member, inside⟩, word⟩
    rw [← shown] at there
    obtain ⟨token, found, rfl⟩ := List.mem_map.mp (mem_of_wordsAt there)
    exact ScanState.portable_run scanned portable token found
  have printable := printable_of_parse read declaration member
  constructor
  · intro attr given
    exact (printable.attributes attr given).portable fun symbol inside =>
      words symbol (Declaration.mem_symbols_of_attribute given inside)
  · intro line listed attr given
    exact ((printable.lines line listed).attributes attr given).portable fun symbol inside =>
      words symbol (Declaration.mem_symbols_of_line listed given inside)

end RawMapping
