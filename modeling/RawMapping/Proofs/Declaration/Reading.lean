import RawMapping.Declaration.Parser
import RawMapping.Proofs.Declaration.Printable

/-! Reading constructs back from their symbols. A reader that meets the symbols of a construct takes
exactly these, whatever their positions are, as long as the next symbol cannot belong to the construct
too; what it reads has the shape of the construct. -/

set_option autoImplicit false

namespace RawMapping

variable {α β γ ι : Type}

-- The readers look one symbol past what they take. What may stand there differs between constructs,
-- so it is part of what is said about each of them.
/-- Tokens with these symbols are read as something good, if a symbol that may follow comes next. -/
def Reads (read : List Token → Except SyntaxError (β × List Token)) (symbols : List Symbol)
    (good : β → Prop) (follow : Symbol → Prop) : Prop :=
  ∀ tokens rest, tokens.map (·.symbol) = symbols → follow (current rest).symbol →
    ∃ value, read (tokens ++ rest) = .ok (value, rest) ∧ good value

theorem Reads.weaken {read : List Token → Except SyntaxError (β × List Token)} {symbols : List Symbol}
    {good : β → Prop} {follow follow' : Symbol → Prop} (reads : Reads read symbols good follow)
    (narrower : ∀ symbol, follow' symbol → follow symbol) : Reads read symbols good follow' :=
  fun tokens rest written next => reads tokens rest written (narrower _ next)

theorem tokens_eq_cons {tokens : List Token} {symbol : Symbol} {symbols : List Symbol}
    (written : tokens.map (·.symbol) = symbol :: symbols) :
    ∃ position later, tokens = ⟨symbol, position⟩ :: later ∧ later.map (·.symbol) = symbols := by
  obtain ⟨token, later, rfl, rfl, rfl⟩ := List.map_eq_cons_iff.mp written
  exact ⟨token.position, later, rfl, rfl⟩

theorem tokens_eq_singleton {tokens : List Token} {symbol : Symbol}
    (written : tokens.map (·.symbol) = [symbol]) : ∃ position, tokens = [⟨symbol, position⟩] := by
  obtain ⟨position, later, rfl, nothing⟩ := tokens_eq_cons written
  exact ⟨position, by rw [List.map_eq_nil_iff.mp nothing]⟩

theorem tokens_eq_append {tokens : List Token} {before after : List Symbol}
    (written : tokens.map (·.symbol) = before ++ after) :
    ∃ first second, tokens = first ++ second ∧ first.map (·.symbol) = before ∧
      second.map (·.symbol) = after := by
  obtain ⟨first, second, rfl, left, right⟩ := List.map_eq_append_iff.mp written
  exact ⟨first, second, rfl, left, right⟩

theorem current_append {tokens : List Token} {symbols : List Symbol} (rest : List Token)
    (written : tokens.map (·.symbol) = symbols) :
    (current (tokens ++ rest)).symbol = symbols.headD (current rest).symbol := by
  cases tokens with
  | nil => subst written; rfl
  | cons token tokens => subst written; rfl

theorem expect_token (symbol : Symbol) (position : Position) (rest : List Token) :
    expect symbol (⟨symbol, position⟩ :: rest) = .ok rest := by
  simp [expect]

theorem skipNewlines_of_current {tokens : List Token} (visible : (current tokens).symbol ≠ .newline) :
    skipNewlines tokens = tokens := by
  cases tokens with
  | nil => rfl
  | cons token tokens => simp [skipNewlines, show token.symbol ≠ .newline from visible]

theorem skipNewlines_newline (position : Position) (tokens : List Token) :
    skipNewlines (⟨.newline, position⟩ :: tokens) = skipNewlines tokens := by
  simp [skipNewlines]

/-! ### Lists -/

theorem current_items {items : List ι} {symbols : ι → List Symbol} {tokens rest : List Token}
    {follow : Symbol → Prop}
    (written : tokens.map (·.symbol) = items.flatMap fun item => .comma :: symbols item)
    (next : follow (current rest).symbol) :
    (current (tokens ++ rest)).symbol = .comma ∨ follow (current (tokens ++ rest)).symbol := by
  rw [current_append rest written]
  cases items with
  | nil => exact .inr next
  | cons item items => exact .inl rfl

theorem Reader.more_comma (reader : Reader β) {position : Position} {tokens left last : List Token}
    {item : β} {items : List β} (read : reader.read tokens = .ok (item, left))
    (more : reader.more left = .ok (items, last)) :
    reader.more (⟨.comma, position⟩ :: tokens) = .ok (item :: items, last) := by
  rw [Reader.more, if_pos rfl]
  split
  · next failed => rw [read] at failed; cases failed
  · next found => rw [read] at found; cases found; rw [more]

theorem Reader.reads_more (reader : Reader β) {items : List ι} {symbols : ι → List Symbol}
    {shape : β → γ} {target : ι → γ} {follow : Symbol → Prop} (stops : ¬ follow .comma)
    (reads : ∀ item ∈ items, Reads reader.read (symbols item) (shape · = target item)
      fun symbol => symbol = .comma ∨ follow symbol) :
    Reads reader.more (items.flatMap fun item => .comma :: symbols item)
      (fun values => values.map shape = items.map target) follow := by
  intro tokens rest written next
  induction items generalizing tokens with
  | nil =>
    rw [List.map_eq_nil_iff.mp written]
    refine ⟨[], ?_, rfl⟩
    cases rest with
    | nil => simp [Reader.more]
    | cons token rest =>
      have other : token.symbol ≠ .comma := by
        intro same
        exact stops (same ▸ next)
      simp [Reader.more, other]
  | cons item items ih =>
    rw [List.forall_mem_cons] at reads
    rw [List.flatMap_cons, List.cons_append] at written
    obtain ⟨position, later, rfl, laterWritten⟩ := tokens_eq_cons written
    obtain ⟨first, others, rfl, firstWritten, othersWritten⟩ := tokens_eq_append laterWritten
    obtain ⟨value, read, good⟩ := reads.1 first (others ++ rest) firstWritten
      (current_items othersWritten next)
    obtain ⟨values, more, same⟩ := ih reads.2 others othersWritten
    refine ⟨value :: values, ?_, by simp [good, same]⟩
    rw [List.cons_append, List.append_assoc]
    exact reader.more_comma read more

theorem Reader.reads_separated (reader : Reader β) {items : List ι} {symbols : ι → List Symbol}
    {shape : β → γ} {target : ι → γ} {follow : Symbol → Prop} (stops : ¬ follow .comma)
    (some : items ≠ [])
    (reads : ∀ item ∈ items, Reads reader.read (symbols item) (shape · = target item)
      fun symbol => symbol = .comma ∨ follow symbol) :
    Reads reader.separated.read (RawMapping.separated (items.map symbols))
      (fun values => values.map shape = items.map target) follow := by
  intro tokens rest written next
  cases items with
  | nil => exact absurd rfl some
  | cons item items =>
    rw [List.forall_mem_cons] at reads
    rw [List.map_cons, RawMapping.separated, List.flatMap_map] at written
    obtain ⟨first, others, rfl, firstWritten, othersWritten⟩ := tokens_eq_append written
    obtain ⟨value, read, good⟩ := reads.1 first (others ++ rest) firstWritten
      (current_items othersWritten next)
    obtain ⟨values, more, same⟩ := reader.reads_more stops reads.2 others rest othersWritten next
    refine ⟨value :: values, ?_, by simp [good, same]⟩
    simp [Reader.separated, read, more]

theorem Reader.reads_untilClosed (reader : Reader β) {items : List ι} {symbols : ι → List Symbol}
    {shape : β → γ} {target : ι → γ} {close : Symbol} (stops : close ≠ .comma)
    (opens : ∀ item ∈ items, ∃ symbol later, symbols item = symbol :: later ∧ symbol ≠ close)
    (reads : ∀ item ∈ items, Reads reader.read (symbols item) (shape · = target item)
      fun symbol => symbol = .comma ∨ symbol = close) :
    Reads (reader.untilClosed close) (RawMapping.separated (items.map symbols) ++ [close])
      (fun values => values.map shape = items.map target) fun _ => True := by
  intro tokens rest written _
  obtain ⟨inner, last, rfl, innerWritten, lastWritten⟩ := tokens_eq_append written
  obtain ⟨position, rfl⟩ := tokens_eq_singleton lastWritten
  have front := current_append (⟨close, position⟩ :: rest) innerWritten
  rw [List.append_assoc, List.singleton_append, Reader.untilClosed]
  cases items with
  | nil =>
    rw [List.map_eq_nil_iff.mp innerWritten]
    exact ⟨[], by simp [current, expect_token, Except.map], rfl⟩
  | cons item items =>
    obtain ⟨symbol, later, symbols_eq, other⟩ := opens item (by simp)
    simp only [List.map_cons, RawMapping.separated, symbols_eq, List.cons_append,
      List.headD_cons] at front
    have separated : Reads reader.separated.read (RawMapping.separated ((item :: items).map symbols))
        (fun values => values.map shape = (item :: items).map target) (· = close) :=
      reader.reads_separated (Ne.symm stops) (by simp) reads
    obtain ⟨values, read, same⟩ := separated inner (⟨close, position⟩ :: rest) innerWritten rfl
    refine ⟨values, ?_, same⟩
    simp [front, other, read, expect_token]

/-! ### Parts of a line -/

def untagged : α → Unit :=
  fun _ => ()

theorem reads_identifier (name : String) :
    Reads readIdentifier [.identifier name] (fun word => word.1 = name) fun _ => True := by
  intro tokens rest written _
  obtain ⟨position, rfl⟩ := tokens_eq_singleton written
  exact ⟨(name, position), rfl, rfl⟩

theorem NamedType.reads (type : NamedType α) :
    Reads typeReader.read type.symbols (·.map untagged = type.map untagged) fun _ => True := by
  intro tokens rest written _
  obtain ⟨⟨name, position⟩, read, same⟩ := reads_identifier type.name tokens rest written trivial
  refine ⟨⟨name, position⟩, ?_, ?_⟩
  · simp [typeReader, read]
  · simp only at same
    simp [NamedType.map, same, untagged]

theorem Literal.Printable.reads {literal : Literal α} (printable : literal.Printable) :
    Reads readLiteral literal.symbols (·.map untagged = literal.map untagged) fun _ => True := by
  intro tokens rest written _
  cases literal with
  | string value _ =>
    obtain ⟨position, rfl⟩ := tokens_eq_singleton written
    exact ⟨.string value position, rfl, rfl⟩
  | placeholder label _ =>
    obtain ⟨position, rfl⟩ := tokens_eq_singleton written
    exact ⟨.placeholder label position, rfl, rfl⟩
  | integer text _ =>
    obtain ⟨digits, number, rfl | rfl⟩ := printable
    · rw [Literal.symbols_number number] at written
      obtain ⟨position, rfl⟩ := tokens_eq_singleton written
      exact ⟨.integer _ position, rfl, rfl⟩
    · rw [Literal.symbols_minus] at written
      obtain ⟨position, later, rfl, laterWritten⟩ := tokens_eq_cons written
      obtain ⟨digitsPosition, rfl⟩ := tokens_eq_singleton laterWritten
      exact ⟨.integer ("-" ++ digits) position, rfl, rfl⟩

-- A label is told by its second symbol. Without a label, the construct must not begin with a name that
-- the mark follows.
/-- A label is found if it is there, and nothing else is taken for one. -/
theorem readLabelBefore_written {label : Option String} {mark symbol : Symbol} {tokens : List Token}
    {others : List Symbol} (rest : List Token)
    (written : tokens.map (·.symbol) = labelSymbols mark label ++ symbol :: others)
    (unlabelled : ∀ name, symbol = .identifier name → others.headD (current rest).symbol ≠ mark) :
    ∃ later, readLabelBefore mark (tokens ++ rest) = (label, later ++ rest) ∧
      later.map (·.symbol) = symbol :: others := by
  cases label with
  | some name =>
    obtain ⟨position, marked, rfl, markedWritten⟩ := tokens_eq_cons written
    obtain ⟨markPosition, later, rfl, laterWritten⟩ := tokens_eq_cons markedWritten
    exact ⟨later, by simp [readLabelBefore], laterWritten⟩
  | none =>
    refine ⟨tokens, ?_, written⟩
    obtain ⟨position, later, rfl, laterWritten⟩ := tokens_eq_cons written
    unfold readLabelBefore
    split
    · next name namePosition next after same =>
      rw [List.cons_append, List.cons.injEq, Token.mk.injEq] at same
      have other := unlabelled name same.1.1
      rw [← current_append rest laterWritten, same.2] at other
      exact if_neg other
    · rfl

theorem Argument.Printable.reads {argument : Argument α} (printable : argument.Printable) :
    Reads argumentReader.read argument.symbols (·.map untagged = argument.map untagged)
      fun _ => True := by
  intro tokens rest written _
  obtain ⟨symbol, others, symbols, unnamed, -⟩ := argument.value.symbols_eq_cons
  rw [Argument.symbols, symbols] at written
  obtain ⟨later, label, laterWritten⟩ := readLabelBefore_written rest written
    (fun name named => absurd named (unnamed name))
  rw [← symbols] at laterWritten
  obtain ⟨value, read, same⟩ := printable.value.reads later rest laterWritten trivial
  refine ⟨⟨argument.label, value, (current (tokens ++ rest)).position⟩, ?_, ?_⟩
  · simp [argumentReader, label, read]
  · simp [Argument.map, same, untagged]

theorem Parameter.reads (parameter : Parameter α) :
    Reads parameterReader.read parameter.symbols (·.map untagged = parameter.map untagged)
      fun symbol => symbol ≠ .colon := by
  intro tokens rest written next
  obtain ⟨later, label, laterWritten⟩ := readLabelBefore_written rest written (fun _ _ => next)
  obtain ⟨type, read, same⟩ := parameter.type.reads later rest laterWritten trivial
  refine ⟨⟨parameter.label, type, (current (tokens ++ rest)).position⟩, ?_, ?_⟩
  · simp [parameterReader, label, read]
  · simp [Parameter.map, same, untagged]

theorem reads_parenthesized (reader : Reader β) {items : List ι} {symbols : ι → List Symbol}
    {shape : β → γ} {target : ι → γ}
    (opens : ∀ item ∈ items, ∃ symbol later, symbols item = symbol :: later ∧ symbol ≠ .closeParen)
    (reads : ∀ item ∈ items, Reads reader.read (symbols item) (shape · = target item)
      fun symbol => symbol = .comma ∨ symbol = .closeParen) :
    Reads (readParenthesized reader) (parenthesized (items.map symbols))
      (fun values => values.map (List.map shape) = some (items.map target)) fun _ => True := by
  intro tokens rest written _
  obtain ⟨position, inner, rfl, innerWritten⟩ := tokens_eq_cons written
  obtain ⟨values, read, same⟩ := reader.reads_untilClosed (by simp) opens reads inner rest innerWritten
    trivial
  exact ⟨some values, by simp [readParenthesized, read], by simp [same]⟩

theorem reads_unparenthesized (reader : Reader β) :
    Reads (readParenthesized reader) [] (· = none) fun symbol => symbol ≠ .openParen := by
  intro tokens rest written next
  rw [List.map_eq_nil_iff.mp written]
  refine ⟨none, ?_, rfl⟩
  unfold readParenthesized
  split
  · next same => rw [List.nil_append] at same; subst same; exact absurd rfl next
  · rfl

theorem Argument.symbols_eq_cons (argument : Argument α) :
    ∃ symbol later, argument.symbols = symbol :: later ∧ symbol ≠ .closeParen := by
  rw [Argument.symbols]
  cases argument.label with
  | some label => exact ⟨_, _, rfl, by simp⟩
  | none =>
    obtain ⟨symbol, others, symbols, -, other⟩ := argument.value.symbols_eq_cons
    exact ⟨symbol, others, symbols, other⟩

theorem Parameter.symbols_eq_cons (parameter : Parameter α) :
    ∃ symbol later, parameter.symbols = symbol :: later ∧ symbol ≠ .closeParen := by
  rw [Parameter.symbols]
  cases parameter.label with
  | some label => exact ⟨_, _, rfl, by simp⟩
  | none => exact ⟨_, _, rfl, by simp⟩

theorem Variant.reads (variant : Variant α) :
    Reads variantReader.read variant.symbols (·.map untagged = variant.map untagged)
      fun symbol => symbol ≠ .openParen := by
  intro tokens rest written next
  obtain ⟨position, payload, rfl, payloadWritten⟩ := tokens_eq_cons written
  -- a payload that is there is read in its parentheses, and any other is not looked for
  have payload_read : ∃ values, readParenthesized parameterReader (payload ++ rest) = .ok (values, rest) ∧
      values.map (List.map (Parameter.map untagged)) =
        variant.parameters.map (List.map (Parameter.map untagged)) := by
    cases given : variant.parameters with
    | none =>
      rw [given] at payloadWritten
      obtain ⟨values, read, rfl⟩ := reads_unparenthesized parameterReader payload rest payloadWritten next
      exact ⟨none, read, rfl⟩
    | some parameters =>
      rw [given] at payloadWritten
      refine reads_parenthesized parameterReader (fun parameter _ => parameter.symbols_eq_cons) ?_ payload
        rest payloadWritten trivial
      intro parameter _
      refine parameter.reads.weaken ?_
      rintro symbol (rfl | rfl) <;> simp
  obtain ⟨values, read, same⟩ := payload_read
  refine ⟨⟨⟨variant.name.text, position⟩, values, position⟩, ?_, ?_⟩
  · simp [variantReader, readIdentifier, read]
  · simp [Variant.map, same, Identifier.map, untagged]

theorem reads_typeArguments (types : List (NamedType α)) :
    Reads readTypeArguments
      (if types.isEmpty then [] else bracketed (types.map NamedType.symbols))
      (fun values => values.map (NamedType.map untagged) = types.map (NamedType.map untagged))
      fun symbol => symbol ≠ .openBracket := by
  intro tokens rest written next
  cases types with
  | nil =>
    rw [List.map_eq_nil_iff.mp written]
    refine ⟨[], ?_, rfl⟩
    unfold readTypeArguments
    split
    · next same => rw [List.nil_append] at same; subst same; exact absurd rfl next
    · rfl
  | cons type types =>
    obtain ⟨position, inner, rfl, innerWritten⟩ := tokens_eq_cons written
    obtain ⟨items, last, rfl, itemsWritten, lastWritten⟩ := tokens_eq_append innerWritten
    obtain ⟨closePosition, rfl⟩ := tokens_eq_singleton lastWritten
    have separated : Reads typeReader.separated.read
        (RawMapping.separated ((type :: types).map NamedType.symbols))
        (fun values => values.map (NamedType.map untagged) =
          (type :: types).map (NamedType.map untagged)) (· = .closeBracket) :=
      typeReader.reads_separated (by simp) (by simp) fun item _ => item.reads.weaken fun _ _ => trivial
    obtain ⟨values, read, same⟩ := separated items (⟨.closeBracket, closePosition⟩ :: rest)
      itemsWritten rfl
    exact ⟨values, by simp [readTypeArguments, read, expect_token], same⟩

theorem reads_arguments {arguments : List (Argument α)}
    (printable : ∀ argument ∈ arguments, argument.Printable) :
    Reads (readParenthesized argumentReader)
      (if arguments.isEmpty then [] else parenthesized (arguments.map Argument.symbols))
      (fun values => (values.getD []).map (Argument.map untagged) = arguments.map (Argument.map untagged))
      fun symbol => symbol ≠ .openParen := by
  intro tokens rest written next
  cases arguments with
  | nil =>
    obtain ⟨values, read, rfl⟩ := reads_unparenthesized argumentReader tokens rest written next
    exact ⟨none, read, rfl⟩
  | cons argument arguments =>
    obtain ⟨values, read, same⟩ := reads_parenthesized argumentReader
      (fun argument _ => argument.symbols_eq_cons)
      (fun argument member => (printable argument member).reads.weaken fun _ _ => trivial)
      tokens rest written trivial
    obtain ⟨items, rfl, sameItems⟩ := Option.map_eq_some_iff.mp same
    exact ⟨some items, read, sameItems⟩

theorem Attribute.Printable.reads {attr : Attribute α} (printable : attr.Printable)
    (position : Position) :
    Reads (readAttribute position) attr.innerSymbols (·.map untagged = attr.map untagged)
      fun symbol => symbol ≠ .openBracket ∧ symbol ≠ .openParen := by
  intro tokens rest written next
  obtain ⟨namePosition, brackets, rfl, bracketsWritten⟩ := tokens_eq_cons written
  obtain ⟨first, second, rfl, typesWritten, argumentsWritten⟩ := tokens_eq_append bracketsWritten
  -- without type arguments, the reader must not take the arguments for them
  have between : (current (second ++ rest)).symbol ≠ .openBracket := by
    rw [current_append rest argumentsWritten]
    split
    · exact next.1
    · simp [parenthesized]
  obtain ⟨types, typesRead, sameTypes⟩ := reads_typeArguments attr.typeArguments first (second ++ rest)
    typesWritten between
  obtain ⟨arguments, argumentsRead, sameArguments⟩ := reads_arguments printable.arguments second rest
    argumentsWritten next.2
  refine ⟨⟨⟨attr.name.text, namePosition⟩, types, arguments.getD [], position⟩, ?_, ?_⟩
  · simp [readAttribute, readIdentifier, typesRead, argumentsRead]
  · simp [Attribute.map, sameTypes, sameArguments, Identifier.map, untagged]

/-! ### Lines -/

theorem readAttributes_sign {position : Position} {tokens left last : List Token}
    {attr : Attribute Position} {attrs : List (Attribute Position)}
    (read : readAttribute position tokens = .ok (attr, left))
    (more : readAttributes (skipNewlines left) = .ok (attrs, last)) :
    readAttributes (⟨.atSign, position⟩ :: tokens) = .ok (attr :: attrs, last) := by
  rw [readAttributes]
  split
  · next failed => rw [read] at failed; cases failed
  · next found => rw [read] at found; cases found; rw [more]

theorem attributeLines_cons (attr : Attribute α) (attrs : List (Attribute α)) :
    attributeLines (attr :: attrs) =
      .atSign :: (attr.innerSymbols ++ .newline :: attributeLines attrs) := by
  simp [attributeLines, Attribute.symbols]

theorem headD_attributeLines {attrs : List (Attribute α)} {symbol : Symbol}
    (visible : symbol ≠ .newline) : (attributeLines attrs).headD symbol ≠ .newline := by
  cases attrs with
  | nil => exact visible
  | cons attr attrs => simp [attributeLines_cons]

theorem reads_attributes {attrs : List (Attribute α)} (printable : ∀ attr ∈ attrs, attr.Printable) :
    Reads readAttributes (attributeLines attrs)
      (fun values => values.map (Attribute.map untagged) = attrs.map (Attribute.map untagged))
      fun symbol => symbol ≠ .atSign ∧ symbol ≠ .newline := by
  intro tokens rest written next
  induction attrs generalizing tokens with
  | nil =>
    rw [List.map_eq_nil_iff.mp written]
    refine ⟨[], ?_, rfl⟩
    unfold readAttributes
    split
    · next same => rw [List.nil_append] at same; subst same; exact absurd rfl next.1
    · rfl
  | cons attr attrs ih =>
    rw [List.forall_mem_cons] at printable
    rw [attributeLines_cons] at written
    obtain ⟨position, later, rfl, laterWritten⟩ := tokens_eq_cons written
    obtain ⟨inner, after, rfl, innerWritten, afterWritten⟩ := tokens_eq_append laterWritten
    obtain ⟨endPosition, others, rfl, othersWritten⟩ := tokens_eq_cons afterWritten
    obtain ⟨value, read, same⟩ := printable.1.reads position inner
      (⟨.newline, endPosition⟩ :: (others ++ rest)) innerWritten (by simp [current])
    obtain ⟨values, more, sameOthers⟩ := ih printable.2 others othersWritten
    -- the reader skips line feeds after each attribute, and here there is just one
    have visible : (current (others ++ rest)).symbol ≠ .newline := by
      rw [current_append rest othersWritten]
      exact headD_attributeLines next.2
    refine ⟨value :: values, ?_, by simp [same, sameOthers]⟩
    rw [List.cons_append, List.append_assoc, List.cons_append]
    refine readAttributes_sign read ?_
    rw [skipNewlines_newline, skipNewlines_of_current visible, more]

theorem CaseLine.Printable.symbols_eq_cons {line : CaseLine α} (printable : line.Printable) :
    ∃ symbol later, line.symbols = symbol :: later ∧ symbol ≠ .newline ∧ symbol.endsBlock = false := by
  rw [CaseLine.symbols]
  cases line.attributes with
  | cons attr attrs => exact ⟨.atSign, _, by simp [attributeLines_cons]; rfl, by simp, rfl⟩
  | nil =>
    cases given : line.variants with
    | nil => exact absurd given printable.nonempty
    | cons variant variants => exact ⟨.identifier variant.name.text, _, rfl, by simp, rfl⟩

theorem CaseLine.Printable.reads {line : CaseLine α} (printable : line.Printable) :
    Reads caseLineReader.read line.symbols (·.map untagged = line.map untagged)
      fun symbol => symbol ≠ .newline := by
  intro tokens rest written next
  obtain ⟨above, after, rfl, aboveWritten, afterWritten⟩ := tokens_eq_append written
  obtain ⟨items, last, rfl, itemsWritten, lastWritten⟩ := tokens_eq_append afterWritten
  obtain ⟨position, rfl⟩ := tokens_eq_singleton lastWritten
  -- the attributes end where the first variant's name stands
  have name : ∃ name, (current (items ++ ⟨.newline, position⟩ :: rest)).symbol = .identifier name := by
    rw [current_append _ itemsWritten]
    cases given : line.variants with
    | nil => exact absurd given printable.nonempty
    | cons variant variants => exact ⟨variant.name.text, rfl⟩
  obtain ⟨name, named⟩ := name
  obtain ⟨attributes, attributesRead, sameAttributes⟩ := reads_attributes printable.attributes above
    (items ++ ⟨.newline, position⟩ :: rest) aboveWritten (by simp [named])
  have separated : Reads variantReader.separated.read
      (RawMapping.separated (line.variants.map Variant.symbols))
      (fun values => values.map (Variant.map untagged) = line.variants.map (Variant.map untagged))
      (· = .newline) := by
    refine variantReader.reads_separated (by simp) printable.nonempty ?_
    intro variant _
    refine variant.reads.weaken ?_
    rintro symbol (rfl | rfl) <;> simp
  obtain ⟨variants, variantsRead, sameVariants⟩ := separated items (⟨.newline, position⟩ :: rest)
    itemsWritten rfl
  have skipped : skipNewlines (⟨.newline, position⟩ :: rest) = rest := by
    rw [skipNewlines_newline, skipNewlines_of_current next]
  rw [List.append_assoc, List.append_assoc, List.singleton_append]
  refine ⟨⟨attributes, variants, (current (above ++ (items ++ ⟨.newline, position⟩ :: rest))).position⟩,
    ?_, ?_⟩
  · simp only [caseLineReader, attributesRead, ok_bind, variantsRead, skipped]
    rfl
  · simp [CaseLine.map, sameAttributes, sameVariants, untagged]

theorem readCaseLines_line {tokens left last : List Token} {line : CaseLine Position}
    {lines : List (CaseLine Position)} (visible : (current tokens).symbol ≠ .newline)
    (inside : (current tokens).symbol.endsBlock = false)
    (read : caseLineReader.read tokens = .ok (line, left))
    (more : readCaseLines left = .ok (lines, last)) :
    readCaseLines tokens = .ok (line :: lines, last) := by
  have front := skipNewlines_of_current visible
  rw [readCaseLines, if_neg (by simp [front, inside])]
  split
  · next failed => rw [front, read] at failed; cases failed
  · next found => rw [front, read] at found; cases found; rw [more]

theorem reads_caseLines {lines : List (CaseLine α)} (printable : ∀ line ∈ lines, line.Printable) :
    Reads readCaseLines (lines.flatMap CaseLine.symbols ++ [.dedent])
      (fun values => values.map (CaseLine.map untagged) = lines.map (CaseLine.map untagged))
      fun _ => True := by
  intro tokens rest written _
  induction lines generalizing tokens with
  | nil =>
    obtain ⟨position, rfl⟩ := tokens_eq_singleton written
    refine ⟨[], ?_, rfl⟩
    rw [readCaseLines]
    simp [skipNewlines, current, Symbol.endsBlock]
  | cons line lines ih =>
    rw [List.forall_mem_cons] at printable
    rw [List.flatMap_cons, List.append_assoc] at written
    obtain ⟨first, others, rfl, firstWritten, othersWritten⟩ := tokens_eq_append written
    obtain ⟨values, more, sameOthers⟩ := ih printable.2 others othersWritten
    -- behind a line comes the next one, or the end of the block
    have visible : (current (others ++ rest)).symbol ≠ .newline := by
      rw [current_append rest othersWritten]
      cases lines with
      | nil => simp
      | cons second lines =>
        obtain ⟨symbol, later, symbols, other, -⟩ := (printable.2 second (by simp)).symbols_eq_cons
        simpa [symbols] using other
    obtain ⟨value, read, same⟩ := printable.1.reads first (others ++ rest) firstWritten visible
    obtain ⟨symbol, later, symbols, other, inside⟩ := printable.1.symbols_eq_cons
    have front := current_append (others ++ rest) firstWritten
    rw [symbols, List.headD_cons] at front
    refine ⟨value :: values, ?_, by simp [same, sameOthers]⟩
    rw [List.append_assoc]
    exact readCaseLines_line (front ▸ other) (front ▸ inside) read more

/-! ### Declarations -/

theorem reads_block {kind : DeclKind} {lines : List (CaseLine α)}
    (printable : ∀ line ∈ lines, line.Printable) (body : kind ≠ .enumKind → lines = []) :
    Reads (readBlock kind) (blockSymbols lines)
      (fun values => values.map (CaseLine.map untagged) = lines.map (CaseLine.map untagged))
      fun symbol => symbol ≠ .indent := by
  intro tokens rest written next
  cases lines with
  | nil =>
    rw [List.map_eq_nil_iff.mp written]
    refine ⟨[], ?_, rfl⟩
    unfold readBlock
    split
    · next same => rw [List.nil_append] at same; subst same; exact absurd rfl next
    · rfl
  | cons line lines =>
    -- the block of any other declaration would be skipped, but it has no lines
    have enumeration : kind = .enumKind := Classical.byContradiction fun other => by simpa using body other
    obtain ⟨position, inner, rfl, innerWritten⟩ := tokens_eq_cons written
    obtain ⟨values, read, same⟩ := reads_caseLines printable inner rest innerWritten trivial
    exact ⟨values, by simp [readBlock, enumeration, read], same⟩

theorem headD_blockSymbols {lines : List (CaseLine α)} {symbol : Symbol} (visible : symbol ≠ .newline) :
    (blockSymbols lines).headD symbol ≠ .newline := by
  unfold blockSymbols
  split
  · exact visible
  · simp

theorem Declaration.Printable.reads_rest {declaration : Declaration α}
    (printable : declaration.Printable) (position : Position)
    {attributes : List (Attribute Position)}
    (same : attributes.map (Attribute.map untagged) =
      declaration.attributes.map (Attribute.map untagged)) :
    Reads (readDeclarationRest declaration.kind position attributes)
      (.identifier declaration.name.text :: .colon :: .newline :: blockSymbols declaration.body.lines)
      (·.map untagged = declaration.map untagged) fun symbol => symbol ≠ .newline ∧ symbol ≠ .indent := by
  intro tokens rest written next
  obtain ⟨namePosition, marked, rfl, markedWritten⟩ := tokens_eq_cons written
  obtain ⟨colonPosition, ended, rfl, endedWritten⟩ := tokens_eq_cons markedWritten
  obtain ⟨endPosition, block, rfl, blockWritten⟩ := tokens_eq_cons endedWritten
  obtain ⟨lines, linesRead, sameLines⟩ := reads_block printable.lines printable.body block rest
    blockWritten next.2
  have visible : (current (block ++ rest)).symbol ≠ .newline := by
    rw [current_append rest blockWritten]
    exact headD_blockSymbols next.1
  refine ⟨⟨declaration.kind, ⟨declaration.name.text, namePosition⟩, attributes,
    ⟨lines, (current (block ++ rest)).position⟩, position⟩, ?_, ?_⟩
  · simp [readDeclarationRest, readIdentifier, expect_token, skipNewlines_of_current visible, linesRead]
  · simp [Declaration.map, same, Body.map, sameLines, Identifier.map, untagged]

theorem Declaration.Printable.reads {declaration : Declaration α} (printable : declaration.Printable) :
    Reads declarationReader.read declaration.symbols (·.map untagged = declaration.map untagged)
      fun symbol => symbol ≠ .newline ∧ symbol ≠ .indent := by
  intro tokens rest written next
  obtain ⟨above, after, rfl, aboveWritten, afterWritten⟩ := tokens_eq_append written
  obtain ⟨position, later, rfl, laterWritten⟩ := tokens_eq_cons afterWritten
  obtain ⟨attributes, attributesRead, same⟩ := reads_attributes printable.attributes above
    (⟨.keyword declaration.kind, position⟩ :: (later ++ rest)) aboveWritten (by simp [current])
  obtain ⟨value, read, good⟩ := printable.reads_rest position same later rest laterWritten next
  rw [List.append_assoc, List.cons_append]
  exact ⟨value, by simp [declarationReader, attributesRead, read], good⟩

theorem Declaration.symbols_eq_cons (declaration : Declaration α) :
    ∃ symbol later, declaration.symbols = symbol :: later ∧
      (symbol = .atSign ∨ symbol = .keyword declaration.kind) := by
  rw [Declaration.symbols]
  cases declaration.attributes with
  | nil => exact ⟨_, _, rfl, .inr rfl⟩
  | cons attr attrs => exact ⟨_, _, by rw [attributeLines_cons]; rfl, .inl rfl⟩

theorem readDeclarations_declaration {tokens left : List Token} {declaration : Declaration Position}
    {declarations : List (Declaration Position)} (visible : (current tokens).symbol ≠ .newline)
    (inside : (current tokens).symbol ≠ .eof)
    (read : declarationReader.read tokens = .ok (declaration, left))
    (more : readDeclarations left = .ok declarations) :
    readDeclarations tokens = .ok (declaration :: declarations) := by
  have front := skipNewlines_of_current visible
  rw [readDeclarations, if_neg (by simp [front, inside])]
  split
  · next failed => rw [front, read] at failed; cases failed
  · next found => rw [front, read] at found; cases found; rw [more]

theorem readDeclarations_written {declarations : List (Declaration α)}
    (printable : ∀ declaration ∈ declarations, declaration.Printable) {tokens : List Token}
    (written : tokens.map (·.symbol) = declarations.flatMap Declaration.symbols ++ [.eof]) :
    ∃ read, readDeclarations tokens = .ok read ∧
      read.map Declaration.shape = declarations.map Declaration.shape := by
  induction declarations generalizing tokens with
  | nil =>
    obtain ⟨position, rfl⟩ := tokens_eq_singleton written
    refine ⟨[], ?_, rfl⟩
    rw [readDeclarations]
    simp [skipNewlines, current]
  | cons declaration declarations ih =>
    rw [List.forall_mem_cons] at printable
    rw [List.flatMap_cons, List.append_assoc] at written
    obtain ⟨first, others, rfl, firstWritten, othersWritten⟩ := tokens_eq_append written
    obtain ⟨values, more, sameOthers⟩ := ih printable.2 othersWritten
    -- another declaration or the end of the text follows
    have next : (current others).symbol ≠ .newline ∧ (current others).symbol ≠ .indent := by
      have front := current_append [] othersWritten
      rw [List.append_nil] at front
      rw [front]
      cases declarations with
      | nil => simp
      | cons second declarations =>
        obtain ⟨symbol, later, symbols, rfl | rfl⟩ := second.symbols_eq_cons <;> simp [symbols]
    obtain ⟨value, read, same⟩ := printable.1.reads first others firstWritten next
    have start : (current (first ++ others)).symbol ≠ .newline ∧
        (current (first ++ others)).symbol ≠ .eof := by
      rw [current_append others firstWritten]
      obtain ⟨symbol, later, symbols, rfl | rfl⟩ := declaration.symbols_eq_cons <;> simp [symbols]
    refine ⟨value :: values, readDeclarations_declaration start.1 start.2 read more, ?_⟩
    rw [List.map_cons, List.map_cons, sameOthers]
    exact congrArg (· :: _) same

end RawMapping
