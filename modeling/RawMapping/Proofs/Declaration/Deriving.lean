import RawMapping.Proofs.Declaration.Grammar
import RawMapping.Proofs.Declaration.Reading

/-! Readers and rules. What is read off scanned tokens is derived by the rules of the grammar, and what
the rules derive is read, so the reader accepts exactly the grammar. -/

set_option autoImplicit false

namespace RawMapping

variable {β : Type}

/-! ### What is read is derived -/

/-- The tokens that a reader takes are derived by the rule, with the value it returns. -/
def Derives (read : List Token → Except SyntaxError (β × List Token)) (rule : Rule β) : Prop :=
  ∀ tokens value rest, read tokens = .ok (value, rest) → ∃ word, tokens = word ++ rest ∧ rule word value

theorem expect_eq_ok {symbol : Symbol} {tokens rest : List Token}
    (read : expect symbol tokens = .ok rest) : ∃ position, tokens = ⟨symbol, position⟩ :: rest := by
  unfold expect at read
  split at read
  · next token after =>
    split at read
    · next same =>
      cases read
      subst same
      exact ⟨token.position, rfl⟩
    · cases read
  · cases read

theorem readIdentifier_eq_ok {tokens rest : List Token} {name : String} {position : Position}
    (read : readIdentifier tokens = .ok ((name, position), rest)) :
    tokens = ⟨.identifier name, position⟩ :: rest := by
  unfold readIdentifier at read
  split at read
  · cases read
    rfl
  · cases read

theorem exists_newlines (tokens : List Token) :
    ∃ gap, tokens = gap ++ skipNewlines tokens ∧ Newlines gap ∧
      (current (skipNewlines tokens)).symbol ≠ .newline := by
  induction tokens with
  | nil => exact ⟨[], rfl, List.forall_mem_nil _, by simp [skipNewlines, current]⟩
  | cons token tokens ih =>
    obtain ⟨symbol, position⟩ := token
    by_cases line : symbol = .newline
    · obtain ⟨gap, split, ended, visible⟩ := ih
      subst line
      rw [skipNewlines_newline]
      refine ⟨⟨.newline, position⟩ :: gap, ?_, List.forall_mem_cons.mpr ⟨rfl, ended⟩, visible⟩
      rw [List.cons_append, ← split]
    · have visible : (current (⟨symbol, position⟩ :: tokens)).symbol ≠ .newline := line
      rw [skipNewlines_of_current visible]
      exact ⟨[], rfl, List.forall_mem_nil _, visible⟩

theorem Reader.more_derives {reader : Reader β} {item : Rule β} (each : Derives reader.read item) :
    Derives reader.more (FurtherRule item) := by
  intro tokens items rest read
  fun_induction Reader.more reader tokens generalizing items rest with
  | case1 => cases read; exact ⟨[], rfl, .nil⟩
  | case2 => cases read
  | case3 => cases read
  | case4 token after comma value left found values last more ih =>
    cases read
    obtain ⟨word, rfl, first⟩ := each _ _ _ found
    obtain ⟨later, rfl, others⟩ := ih _ _ more
    obtain ⟨symbol, position⟩ := token
    cases comma
    exact ⟨_, by simp, .cons position first others⟩
  | case5 => cases read; exact ⟨[], rfl, .nil⟩

theorem Reader.separated_derives {reader : Reader β} {item : Rule β} (each : Derives reader.read item) :
    Derives reader.separated.read (SeparatedRule item) := by
  intro tokens items rest read
  obtain ⟨⟨value, left⟩, found, more⟩ := bind_eq_ok_iff.mp read
  obtain ⟨⟨values, last⟩, moreFound, same⟩ := bind_eq_ok_iff.mp more
  cases same
  obtain ⟨word, rfl, first⟩ := each _ _ _ found
  obtain ⟨later, rfl, others⟩ := Reader.more_derives each _ _ _ moreFound
  exact ⟨word ++ later, by simp, .mk first others⟩

theorem readParenthesized_derives {reader : Reader β} {item : Rule β} (each : Derives reader.read item) :
    Derives (readParenthesized reader) (ParenthesizedRule item) := by
  intro tokens items rest read
  unfold readParenthesized at read
  split at read
  · next opening after =>
    obtain ⟨⟨found, left⟩, closed, same⟩ := bind_eq_ok_iff.mp read
    cases same
    unfold Reader.untilClosed at closed
    split at closed
    · obtain ⟨last, taken, same⟩ := map_eq_ok_iff.mp closed
      cases same
      obtain ⟨closing, rfl⟩ := expect_eq_ok taken
      exact ⟨_, rfl, .empty opening closing⟩
    · obtain ⟨⟨values, last⟩, separated, ended⟩ := bind_eq_ok_iff.mp closed
      obtain ⟨behind, taken, same⟩ := bind_eq_ok_iff.mp ended
      cases same
      obtain ⟨word, rfl, listed⟩ := Reader.separated_derives each _ _ _ separated
      obtain ⟨closing, rfl⟩ := expect_eq_ok taken
      exact ⟨_, by simp, .present opening closing listed⟩
  · cases read
    exact ⟨[], rfl, .absent⟩

theorem typeReader_derives : Derives typeReader.read TypeRule := by
  intro tokens type rest read
  obtain ⟨⟨⟨name, position⟩, left⟩, found, same⟩ := bind_eq_ok_iff.mp read
  cases same
  rw [readIdentifier_eq_ok found]
  exact ⟨_, rfl, .mk name position⟩

theorem readTypeArguments_derives : Derives readTypeArguments TypeArgumentsRule := by
  intro tokens types rest read
  unfold readTypeArguments at read
  split at read
  · next opening after =>
    obtain ⟨⟨found, left⟩, separated, closed⟩ := bind_eq_ok_iff.mp read
    obtain ⟨last, taken, same⟩ := bind_eq_ok_iff.mp closed
    cases same
    obtain ⟨word, rfl, listed⟩ := Reader.separated_derives typeReader_derives _ _ _ separated
    obtain ⟨closing, rfl⟩ := expect_eq_ok taken
    exact ⟨_, by simp, .present opening closing listed⟩
  · cases read
    exact ⟨[], rfl, .absent⟩

theorem readLiteral_derives : Derives readLiteral LiteralRule := by
  intro tokens literal rest read
  unfold readLiteral at read
  split at read
  · cases read; exact ⟨_, rfl, .string _ _⟩
  · cases read; exact ⟨_, rfl, .placeholder _ _⟩
  · cases read; exact ⟨_, rfl, .number _ _⟩
  · split at read
    · cases read; exact ⟨_, rfl, .negative _ _ _⟩
    · cases read
  · cases read

theorem readLabelBefore_derives (mark : Symbol) (tokens : List Token) :
    ∃ word, tokens = word ++ (readLabelBefore mark tokens).2 ∧
      LabelRule mark word (readLabelBefore mark tokens).1 := by
  unfold readLabelBefore
  split
  · next name position next after =>
    split
    · next same =>
      obtain ⟨symbol, place⟩ := next
      cases same
      exact ⟨_, rfl, .present name position place⟩
    · exact ⟨[], rfl, .absent⟩
  · exact ⟨[], rfl, .absent⟩

theorem argumentReader_derives : Derives argumentReader.read ArgumentRule := by
  intro tokens argument rest read
  obtain ⟨⟨value, left⟩, found, same⟩ := bind_eq_ok_iff.mp read
  cases same
  obtain ⟨labelWord, split, labelled⟩ := readLabelBefore_derives .equals tokens
  obtain ⟨valueWord, behind, given⟩ := readLiteral_derives (readLabelBefore .equals tokens).2 _ _ found
  rw [behind, ← List.append_assoc] at split
  have derived := ArgumentRule.mk labelled given
  have front := (ArgumentRule.begins.current derived rest).2
  rw [← split] at front
  rw [← front] at derived
  exact ⟨_, split, derived⟩

theorem parameterReader_derives : Derives parameterReader.read ParameterRule := by
  intro tokens parameter rest read
  obtain ⟨⟨type, left⟩, found, same⟩ := bind_eq_ok_iff.mp read
  cases same
  obtain ⟨labelWord, split, labelled⟩ := readLabelBefore_derives .colon tokens
  obtain ⟨typeWord, behind, typed⟩ := typeReader_derives (readLabelBefore .colon tokens).2 _ _ found
  rw [behind, ← List.append_assoc] at split
  have derived := ParameterRule.mk labelled typed
  have front := (ParameterRule.begins.current derived rest).2
  rw [← split] at front
  rw [← front] at derived
  exact ⟨_, split, derived⟩

theorem variantReader_derives : Derives variantReader.read VariantRule := by
  intro tokens variant rest read
  obtain ⟨⟨⟨name, position⟩, left⟩, named, payload⟩ := bind_eq_ok_iff.mp read
  obtain ⟨⟨parameters, last⟩, found, same⟩ := bind_eq_ok_iff.mp payload
  cases same
  obtain ⟨word, rfl, listed⟩ := readParenthesized_derives parameterReader_derives _ _ _ found
  rw [readIdentifier_eq_ok named]
  exact ⟨_, rfl, .mk name position listed⟩

theorem readAttributes_derives : Derives readAttributes (ManyRule AttributeRule) := by
  intro tokens attributes rest read
  fun_induction readAttributes tokens generalizing attributes rest with
  | case1 => cases read
  | case2 => cases read
  | case3 sign after attr left found others last more ih =>
    cases read
    obtain ⟨⟨⟨name, position⟩, afterName⟩, named, typed⟩ := bind_eq_ok_iff.mp found
    obtain ⟨⟨types, afterTypes⟩, typesFound, applied⟩ := bind_eq_ok_iff.mp typed
    obtain ⟨⟨arguments, behind⟩, argumentsFound, same⟩ := bind_eq_ok_iff.mp applied
    cases same
    obtain ⟨typesWord, rfl, typesDerived⟩ := readTypeArguments_derives _ _ _ typesFound
    obtain ⟨argumentsWord, rfl, argumentsDerived⟩ :=
      readParenthesized_derives argumentReader_derives _ _ _ argumentsFound
    obtain ⟨gap, split, ended, -⟩ := exists_newlines left
    obtain ⟨later, skipped, laterDerived⟩ := ih _ _ more
    refine ⟨_, ?_, .cons (.mk sign name position typesDerived argumentsDerived ended) laterDerived⟩
    rw [readIdentifier_eq_ok named, split, skipped]
    simp
  | case4 => cases read; exact ⟨[], rfl, .nil⟩

/-! ### Lines and blocks -/

section

variable {depth : Nat} {tokens rest : List Token}

-- A line could also end with its block or with the text; that is where the layout of scanned tokens
-- is needed.
theorem caseLineReader_derives {line : CaseLine Position} (laid : Laid depth tokens)
    (read : caseLineReader.read tokens = .ok (line, rest)) :
    ∃ word, tokens = word ++ rest ∧ CaseLineRule word line ∧ (current rest).symbol ≠ .newline := by
  obtain ⟨⟨attributes, below⟩, attributesFound, variantsRead⟩ := bind_eq_ok_iff.mp read
  obtain ⟨⟨variants, left⟩, variantsFound, ended⟩ := bind_eq_ok_iff.mp variantsRead
  obtain ⟨above, rfl, annotated⟩ := readAttributes_derives _ _ _ attributesFound
  obtain ⟨word, rfl, listed⟩ := Reader.separated_derives variantReader_derives _ _ _ variantsFound
  obtain ⟨token, later, same, -⟩ := SeparatedRule.begins VariantRule.begins _ _ listed
  have behind := (laid.behind (annotated.blockless AttributeRule.blockless)).after_word (by simp [same])
    (SeparatedRule.inLine VariantRule.inLine _ _ listed)
  obtain ⟨gap, split, newlines, visible⟩ := exists_newlines left
  dsimp only at ended
  split at ended
  · next lineEnd =>
    cases ended
    have newline : (current left).symbol = .newline := by
      simpa [Symbol.endsLine, Symbol.endsBlock, behind] using lineEnd
    have some : gap ≠ [] := by
      rintro rfl
      rw [split] at newline
      exact visible newline
    have derived := CaseLineRule.mk annotated listed newlines some
    have whole : above ++ (word ++ left) = above ++ (word ++ gap) ++ skipNewlines left := by
      rw [List.append_assoc, List.append_assoc, ← split]
    have front := (CaseLineRule.begins.current derived (skipNewlines left)).2
    rw [← whole] at front
    rw [← front] at derived
    exact ⟨_, whole, derived, visible⟩
  · cases ended

theorem readCaseLines_derives {lines : List (CaseLine Position)} (laid : Laid (depth + 1) tokens)
    (visible : (current tokens).symbol ≠ .newline) (read : readCaseLines tokens = .ok (lines, rest)) :
    ∃ word closing, tokens = word ++ ⟨.dedent, closing⟩ :: rest ∧ ManyRule CaseLineRule word lines := by
  fun_induction readCaseLines tokens generalizing lines rest with
  | case1 tokens _ closing after skipped =>
    cases read
    rw [skipNewlines_of_current visible] at skipped
    exact ⟨[], closing, skipped, .nil⟩
  | case2 tokens ended other =>
    -- only the end of the text is left, and it does not come inside of a block
    rw [skipNewlines_of_current visible] at ended other
    cases tokens with
    | nil => exact absurd rfl laid.current_ne_eof
    | cons token after =>
      obtain ⟨symbol, position⟩ := token
      cases symbol with
      | eof => exact absurd rfl laid.current_ne_eof
      | dedent => exact absurd rfl (other position after)
      | _ => cases ended
  | case3 => cases read
  | case4 => cases read
  | case5 tokens _ line left found others last more ih =>
    cases read
    rw [skipNewlines_of_current visible] at found
    obtain ⟨word, rfl, derived, next⟩ := caseLineReader_derives laid found
    obtain ⟨later, closing, rfl, members⟩ := ih (laid.behind derived.blockless) next more
    exact ⟨word ++ later, closing, by simp, .cons derived members⟩

inductive Closes : Nat → List Token → Prop where
  | zero : Closes 0 []
  | succ {depth : Nat} {inner later : List Token} (closing : Position) (inside : Balanced inner)
      (outside : Closes depth later) : Closes (depth + 1) (inner ++ ⟨.dedent, closing⟩ :: later)

theorem Closes.token {token : Token} {word : List Token} (closes : Closes (depth + 1) word)
    (opening : token.symbol ≠ .indent) (closing : token.symbol ≠ .dedent) :
    Closes (depth + 1) (token :: word) := by
  cases closes with
  | succ position inside outside => exact .succ position (.token opening closing inside) outside

theorem Closes.block {word : List Token} (closes : Closes (depth + 2) word) (opening : Position) :
    Closes (depth + 1) (⟨.indent, opening⟩ :: word) := by
  cases closes with
  | succ position inside outside =>
    cases outside with
    | succ last behind outside =>
      have joined := Closes.succ last (.block opening position inside behind) outside
      simpa using joined

/-- Skipping ends where as many blocks are closed as were open. -/
theorem skipBlock_derives {outer : Nat} (inner : Nat) (laid : Laid (outer + inner) tokens) :
    ∃ word, tokens = word ++ skipBlock inner tokens ∧ Closes inner word ∧
      Laid outer (skipBlock inner tokens) := by
  fun_induction skipBlock inner tokens with
  | case1 => exact ⟨[], rfl, .zero, laid⟩
  | case2 =>
    obtain ⟨front, position, written, -⟩ := laid.ends
    simp at written
  | case3 depth token rest symbol ih =>
    obtain ⟨_, opening⟩ := token
    cases symbol
    obtain ⟨word, split, closes, left⟩ := ih laid.indent
    exact ⟨_, congrArg (List.cons _) split, closes.block opening, left⟩
  | case4 depth token rest symbol ih =>
    obtain ⟨_, closing⟩ := token
    cases symbol
    obtain ⟨word, split, closes, left⟩ := ih laid.dedent
    exact ⟨_, congrArg (List.cons _) split, .succ closing .nil closes, left⟩
  | case5 depth token rest symbol => exact absurd symbol laid.current_ne_eof
  | case6 depth token rest opening closing ended ih =>
    obtain ⟨word, split, closes, left⟩ := ih (laid.tail ended (by rw [if_neg opening, if_neg closing]))
    exact ⟨_, congrArg (List.cons _) split, closes.token opening closing, left⟩

theorem readBlock_derives {kind : DeclKind} {lines : List (CaseLine Position)} (laid : Laid 0 tokens)
    (visible : (current tokens).symbol ≠ .newline) (read : readBlock kind tokens = .ok (lines, rest)) :
    ∃ word, tokens = word ++ rest ∧ Laid 0 rest ∧
      BodyRule kind (current (skipNewlines rest)).position word ⟨lines, (current tokens).position⟩ := by
  unfold readBlock at read
  split at read
  · -- the block of an enumeration has members; that of any other declaration is skipped
    next opening after =>
    split at read
    · next enumeration =>
      subst enumeration
      obtain ⟨word, closing, rfl, members⟩ := readCaseLines_derives laid.indent laid.after_indent read
      have left := (laid.indent.behind (members.blockless CaseLineRule.blockless)).dedent
      have body : BodyRule .enumKind (current (skipNewlines rest)).position _ ⟨lines, opening⟩ :=
        .present (.enumeration opening closing members)
      exact ⟨_, by simp, left, body⟩
    · next other =>
      cases read
      obtain ⟨word, split, closes, left⟩ := skipBlock_derives 1 laid.indent
      cases closes with
      | succ closing inside outside =>
        cases outside
        have body : BodyRule kind (current (skipNewlines (skipBlock 1 after))).position _ ⟨[], opening⟩ :=
          .present (.skipped opening closing other inside)
        refine ⟨_, ?_, left, body⟩
        rw [List.cons_append, ← split]
  · cases read
    refine ⟨[], rfl, laid, ?_⟩
    rw [skipNewlines_of_current visible]
    exact .absent

theorem declarationReader_derives {declaration : Declaration Position} (laid : Laid 0 tokens)
    (read : declarationReader.read tokens = .ok (declaration, rest)) :
    ∃ word, tokens = word ++ rest ∧ Laid 0 rest ∧
      DeclarationRule (current (skipNewlines rest)).position word declaration := by
  obtain ⟨⟨attributes, below⟩, attributesFound, declared⟩ := bind_eq_ok_iff.mp read
  obtain ⟨above, rfl, annotated⟩ := readAttributes_derives _ _ _ attributesFound
  dsimp only at declared
  split at declared
  · next kind keyword after =>
    obtain ⟨⟨⟨name, position⟩, afterName⟩, named, marked⟩ := bind_eq_ok_iff.mp declared
    obtain ⟨afterColon, colonFound, lineEnded⟩ := bind_eq_ok_iff.mp marked
    obtain ⟨afterLine, newlineFound, blocked⟩ := bind_eq_ok_iff.mp lineEnded
    obtain ⟨⟨lines, left⟩, linesFound, same⟩ := bind_eq_ok_iff.mp blocked
    cases same
    obtain ⟨colon, rfl⟩ := expect_eq_ok colonFound
    obtain ⟨newline, rfl⟩ := expect_eq_ok newlineFound
    obtain ⟨gap, split, newlines, visible⟩ := exists_newlines afterLine
    rw [readIdentifier_eq_ok named, split] at laid
    have head : Blockless (above ++ ⟨.keyword kind, keyword⟩ :: ⟨.identifier name, position⟩ ::
        ⟨.colon, colon⟩ :: ⟨.newline, newline⟩ :: gap) := by
      refine (annotated.blockless AttributeRule.blockless).append ?_
      simpa [Blockless, Symbol.isInner] using newlines.blockless
    have body : Laid 0 (skipNewlines afterLine) := Laid.behind head (by simpa using laid)
    obtain ⟨word, whole, left, below⟩ := readBlock_derives body visible linesFound
    have ended : Newlines (⟨.newline, newline⟩ :: gap) := List.forall_mem_cons.mpr ⟨rfl, newlines⟩
    refine ⟨_, ?_, left, .mk annotated keyword name position colon ended (by simp) below⟩
    rw [readIdentifier_eq_ok named, split, whole]
    simp
  · cases declared

theorem skipNewlines_append {gap later : List Token} (ended : Newlines gap)
    (visible : (current later).symbol ≠ .newline) : skipNewlines (gap ++ later) = later := by
  induction gap with
  | nil => exact skipNewlines_of_current visible
  | cons token gap ih =>
    obtain ⟨line, others⟩ := List.forall_mem_cons.mp ended
    obtain ⟨symbol, position⟩ := token
    cases line
    rw [List.cons_append, skipNewlines_newline]
    exact ih others

theorem readDeclarations_derives {declarations : List (Declaration Position)} (laid : Laid 0 tokens)
    (read : readDeclarations tokens = .ok declarations) : FileRule tokens declarations := by
  fun_induction readDeclarations tokens generalizing declarations with
  | case1 tokens atEnd =>
    cases read
    obtain ⟨gap, split, ended, -⟩ := exists_newlines tokens
    rw [split] at laid ⊢
    obtain ⟨position, last⟩ := (laid.behind ended.blockless).eq_end atEnd
    rw [last]
    exact .mk ended (.done position)
  | case2 => cases read
  | case3 => cases read
  | case4 tokens _ declaration left found others more ih =>
    cases read
    obtain ⟨gap, split, ended, -⟩ := exists_newlines tokens
    rw [split] at laid ⊢
    obtain ⟨word, whole, behind, derived⟩ := declarationReader_derives (laid.behind ended.blockless) found
    cases ih behind more with
    | mk between listed =>
      have visible := DeclarationsRule.begins.current listed []
      rw [List.append_nil] at visible
      rw [skipNewlines_append between visible.1.1] at derived
      rw [whole]
      exact .mk ended (.cons derived between listed)

end

/-! ### What is derived is read -/

def Accepts (read : List Token → Except SyntaxError (β × List Token)) (rule : Rule β)
    (follow : Symbol → Prop) : Prop :=
  ∀ word value rest, rule word value → follow (current rest).symbol → read (word ++ rest) = .ok (value, rest)

theorem FurtherRule.front {item : Rule β} {word rest : List Token} {values : List β}
    (derived : FurtherRule item word values) {follow : Symbol → Prop} (next : follow (current rest).symbol) :
    (current (word ++ rest)).symbol = .comma ∨ follow (current (word ++ rest)).symbol := by
  cases derived with
  | nil => exact .inr next
  | cons => exact .inl rfl

theorem Reader.accepts_more {reader : Reader β} {item : Rule β} {follow : Symbol → Prop}
    (accepts : Accepts reader.read item fun symbol => symbol = .comma ∨ follow symbol) :
    Accepts reader.more (FurtherRule item) fun symbol => symbol ≠ .comma ∧ follow symbol := by
  intro word values rest derived next
  induction derived with
  | nil =>
    cases rest with
    | nil => simp [Reader.more]
    | cons token rest => simp [Reader.more, show token.symbol ≠ .comma from next.1]
  | cons comma first others ih =>
    rw [List.cons_append, List.append_assoc]
    exact reader.more_comma (accepts _ _ _ first (others.front next.2)) ih

theorem Reader.accepts_separated {reader : Reader β} {item : Rule β} {follow : Symbol → Prop}
    (accepts : Accepts reader.read item fun symbol => symbol = .comma ∨ follow symbol) :
    Accepts reader.separated.read (SeparatedRule item) fun symbol => symbol ≠ .comma ∧ follow symbol := by
  rintro _ _ rest ⟨first, others⟩ next
  rw [List.append_assoc]
  simp [Reader.separated, accepts _ _ _ first (others.front next.2),
    Reader.accepts_more accepts _ _ _ others next]

theorem readParenthesized_accepts {reader : Reader β} {item : Rule β}
    (accepts : Accepts reader.read item fun symbol => symbol = .comma ∨ symbol = .closeParen)
    (begins : Begins item (· ≠ .closeParen)) :
    Accepts (readParenthesized reader) (ParenthesizedRule item) (· ≠ .openParen) := by
  intro word items rest derived next
  cases derived with
  | absent =>
    rw [List.nil_append, readParenthesized]
    rintro position after rfl
    exact next rfl
  | empty opening closing =>
    simp [readParenthesized, Reader.untilClosed, current, expect_token, Except.map]
  | @present word items opening closing listed =>
    have front := ((SeparatedRule.begins begins).current listed (⟨.closeParen, closing⟩ :: rest)).1
    have read := Reader.accepts_separated accepts _ _ (⟨.closeParen, closing⟩ :: rest) listed
      ⟨by simp [current], rfl⟩
    simp [readParenthesized, Reader.untilClosed, front, read, expect_token]

theorem typeReader_accepts (follow : Symbol → Prop) : Accepts typeReader.read TypeRule follow := by
  rintro _ _ rest ⟨name, position⟩ -
  simp [typeReader, readIdentifier]

theorem readTypeArguments_accepts : Accepts readTypeArguments TypeArgumentsRule (· ≠ .openBracket) := by
  intro word types rest derived next
  cases derived with
  | absent =>
    rw [List.nil_append, readTypeArguments]
    rintro position after rfl
    exact next rfl
  | @present word _ opening closing listed =>
    have read := Reader.accepts_separated (typeReader_accepts fun symbol => symbol = .comma ∨ True) _ _
      (⟨.closeBracket, closing⟩ :: rest) listed ⟨by simp [current], trivial⟩
    simp [readTypeArguments, read, expect_token]

theorem readLiteral_accepts {word : List Token} {literal : Literal Position}
    (derived : LiteralRule word literal) (rest : List Token) :
    readLiteral (word ++ rest) = .ok (literal, rest) := by
  cases derived <;> rfl

/-- A label is taken; without one, what comes must not look like it. -/
theorem LabelRule.read {mark : Symbol} {word : List Token} {label : Option String}
    (derived : LabelRule mark word label) {rest : List Token}
    (plain : readLabelBefore mark rest = (none, rest)) :
    readLabelBefore mark (word ++ rest) = (label, rest) := by
  cases derived with
  | absent => exact plain
  | present => simp [readLabelBefore]

theorem argumentReader_accepts (follow : Symbol → Prop) :
    Accepts argumentReader.read ArgumentRule follow := by
  rintro _ _ rest ⟨labelled, given⟩ -
  rename_i labelWord valueWord label value
  have plain : readLabelBefore .equals (valueWord ++ rest) = (none, valueWord ++ rest) := by
    obtain ⟨token, later, rfl, other, -⟩ := LiteralRule.begins _ _ given
    unfold readLabelBefore
    split
    · next name position next after same =>
      cases (List.cons.inj same).1
      exact absurd rfl (other name)
    · rfl
  have front := (ArgumentRule.begins.current (.mk labelled given) rest).2
  have read := readLiteral_accepts given rest
  simp only [argumentReader, front]
  rw [List.append_assoc, labelled.read plain]
  simp [read]

theorem parameterReader_accepts : Accepts parameterReader.read ParameterRule (· ≠ .colon) := by
  rintro _ _ rest ⟨labelled, typed⟩ next
  rename_i labelWord typeWord label type
  have plain : readLabelBefore .colon (typeWord ++ rest) = (none, typeWord ++ rest) := by
    obtain ⟨name, position⟩ := typed
    cases rest with
    | nil => rfl
    | cons token rest => simp [readLabelBefore, show token.symbol ≠ .colon from next]
  have front := (ParameterRule.begins.current (.mk labelled typed) rest).2
  have read := typeReader_accepts (fun _ => True) _ _ rest typed trivial
  simp only [parameterReader, front]
  rw [List.append_assoc, labelled.read plain]
  simp [read]

theorem variantReader_accepts : Accepts variantReader.read VariantRule (· ≠ .openParen) := by
  rintro _ _ rest ⟨name, position, payload⟩ next
  have accepts : Accepts parameterReader.read ParameterRule
      fun symbol => symbol = .comma ∨ symbol = .closeParen := by
    intro word parameter rest derived next
    refine parameterReader_accepts _ _ _ derived ?_
    rcases next with same | same <;> simp [same]
  have read := readParenthesized_accepts accepts ParameterRule.begins _ _ rest payload next
  simp [variantReader, readIdentifier, read]

theorem Accepts.weaken {read : List Token → Except SyntaxError (β × List Token)} {rule : Rule β}
    {follow narrower : Symbol → Prop} (accepts : Accepts read rule follow)
    (within : ∀ symbol, narrower symbol → follow symbol) : Accepts read rule narrower :=
  fun word value rest derived next => accepts word value rest derived (within _ next)

theorem readAttribute_accepts {sign : Position} {word rest : List Token} {attr : Attribute Position}
    (derived : AttributeRule (⟨.atSign, sign⟩ :: word) attr) (next : (current rest).symbol.leads = true) :
    ∃ left, readAttribute sign (word ++ rest) = .ok (attr, left) ∧ skipNewlines left = rest := by
  obtain ⟨_, name, position, typed, applied, ended⟩ := derived
  rename_i typesWord argumentsWord gap types arguments
  obtain ⟨line, -, -, -, paren, bracket⟩ := Symbol.ne_of_leads next
  have behind : (current (gap ++ rest)).symbol ≠ .openParen ∧
      (current (gap ++ rest)).symbol ≠ .openBracket := by
    cases gap with
    | nil => exact ⟨paren, bracket⟩
    | cons token gap =>
      have newline : (current (token :: gap ++ rest)).symbol = .newline := ended token List.mem_cons_self
      rw [newline]
      simp
  have argumentsRead : readParenthesized argumentReader (argumentsWord ++ (gap ++ rest)) =
      .ok (arguments, gap ++ rest) :=
    readParenthesized_accepts (argumentReader_accepts _) ArgumentRule.begins _ _ _ applied behind.1
  have typesRead : readTypeArguments (typesWord ++ (argumentsWord ++ (gap ++ rest))) =
      .ok (types, argumentsWord ++ (gap ++ rest)) := by
    refine readTypeArguments_accepts _ _ _ typed ?_
    cases applied with
    | absent => exact behind.2
    | empty | present => simp [current]
  refine ⟨gap ++ rest, ?_, skipNewlines_append ended line⟩
  simp [readAttribute, readIdentifier, typesRead, argumentsRead]

theorem readAttributes_accepts : Accepts readAttributes (ManyRule AttributeRule) (·.isHead = true) := by
  intro word attributes rest derived next
  induction derived with
  | nil =>
    rw [List.nil_append, readAttributes]
    rintro position after rfl
    cases next
  | @cons word later attr attributes first others ih =>
    obtain ⟨⟨symbol, sign⟩, inner, rfl, same⟩ := AttributeRule.begins _ _ first
    cases same
    obtain ⟨left, read, behind⟩ := readAttribute_accepts first (others.leads next)
    rw [List.append_assoc, List.cons_append]
    exact readAttributes_sign read (by rw [behind, ih])

theorem caseLineReader_accepts : Accepts caseLineReader.read CaseLineRule (· ≠ .newline) := by
  rintro _ _ rest ⟨annotated, listed, ended, some⟩ next
  rename_i above word gap attributes variants
  have front := (CaseLineRule.begins.current (.mk annotated listed ended some) rest).2
  have newline : (current (gap ++ rest)).symbol = .newline := by
    obtain ⟨token, gap, rfl⟩ := List.exists_cons_of_ne_nil some
    exact ended token List.mem_cons_self
  have attributesRead : readAttributes (above ++ (word ++ (gap ++ rest))) =
      .ok (attributes, word ++ (gap ++ rest)) :=
    readAttributes_accepts _ _ _ annotated ((SeparatedRule.begins VariantRule.begins).current listed _).1
  have variantsRead : variantReader.separated.read (word ++ (gap ++ rest)) =
      .ok (variants, gap ++ rest) := by
    have accepts : Accepts variantReader.read VariantRule
        fun symbol => symbol = .comma ∨ symbol = .newline := by
      refine variantReader_accepts.weaken ?_
      rintro symbol (rfl | rfl) <;> simp
    exact Reader.accepts_separated accepts _ _ _ listed (by simp [newline])
  simp only [caseLineReader, front]
  rw [List.append_assoc, List.append_assoc]
  simp [attributesRead, variantsRead, newline, Symbol.endsLine, skipNewlines_append ended next]

theorem readCaseLines_accepts {word rest : List Token} {lines : List (CaseLine Position)}
    (derived : ManyRule CaseLineRule word lines) (closing : Position) :
    readCaseLines (word ++ ⟨.dedent, closing⟩ :: rest) = .ok (lines, rest) := by
  induction derived with
  | nil =>
    rw [List.nil_append, readCaseLines]
    simp [skipNewlines, current, Symbol.endsBlock]
  | @cons word later line lines first others ih =>
    have next : (current (later ++ ⟨.dedent, closing⟩ :: rest)).symbol ≠ .newline := by
      cases others with
      | nil => simp [current]
      | cons second others =>
        rw [List.append_assoc]
        exact (Symbol.ne_of_leads (CaseLineRule.begins.current second _).1).1
    have leads := (CaseLineRule.begins.current first (later ++ ⟨.dedent, closing⟩ :: rest)).1
    obtain ⟨line, -, block, ends, -⟩ := Symbol.ne_of_leads leads
    rw [List.append_assoc]
    refine readCaseLines_line line ?_ (caseLineReader_accepts _ _ _ first next) ih
    unfold Symbol.endsBlock
    split
    · next same => exact absurd same block
    · next same => exact absurd same ends
    · rfl

theorem Balanced.skipBlock {word : List Token} (balanced : Balanced word)
    (inside : ∀ token ∈ word, token.symbol ≠ .eof) (depth : Nat) (rest : List Token) :
    skipBlock (depth + 1) (word ++ rest) = skipBlock (depth + 1) rest := by
  induction balanced generalizing depth rest with
  | nil => rfl
  | @token token later opens closes others ih =>
    obtain ⟨first, inside⟩ := List.forall_mem_cons.mp inside
    rw [← ih inside depth rest, List.cons_append, RawMapping.skipBlock]
    split
    · next same => exact absurd same opens
    · next same => exact absurd same closes
    · next same => exact absurd same first
    · rfl
  | @block inner later opening closing _ _ ihInner ihLater =>
    simp only [List.forall_mem_cons, List.forall_mem_append] at inside
    rw [List.cons_append, RawMapping.skipBlock, List.append_assoc]
    dsimp only
    rw [ihInner inside.2.1, List.cons_append, RawMapping.skipBlock]
    exact ihLater inside.2.2.2 depth rest

theorem readBlock_accepts {kind : DeclKind} {word rest : List Token} {lines : List (CaseLine Position)}
    (derived : BlockRule kind word lines) (inside : ∀ token ∈ word, token.symbol ≠ .eof) :
    readBlock kind (word ++ rest) = .ok (lines, rest) := by
  cases derived with
  | @enumeration word lines opening closing members =>
    have read : readCaseLines (word ++ ⟨.dedent, closing⟩ :: rest) = .ok (lines, rest) :=
      readCaseLines_accepts members closing
    simpa [readBlock] using read
  | @skipped _ word opening closing other balanced =>
    simp only [List.forall_mem_cons, List.forall_mem_append] at inside
    have skipped := balanced.skipBlock inside.2.1 0 (⟨.dedent, closing⟩ :: rest)
    simp [readBlock, other, skipped, skipBlock]

theorem BlockRule.begins (kind : DeclKind) : Begins (BlockRule kind) (· = .indent) := by
  intro word lines derived
  cases derived <;> exact ⟨_, _, rfl, rfl⟩

theorem BodyRule.read {kind : DeclKind} {word before gap later : List Token} {body : Body Position}
    (derived : BodyRule kind (current later).position word body)
    (inside : ∀ token ∈ word, token.symbol ≠ .eof) (newlines : Newlines before) (ended : Newlines gap)
    (line : (current later).symbol ≠ .newline) (block : (current later).symbol ≠ .indent) :
    ∃ lines left, readBlock kind (skipNewlines (before ++ (word ++ (gap ++ later)))) = .ok (lines, left) ∧
      skipNewlines left = later ∧
      body = ⟨lines, (current (skipNewlines (before ++ (word ++ (gap ++ later))))).position⟩ := by
  cases derived with
  | absent =>
    have skipped : skipNewlines (before ++ ([] ++ (gap ++ later))) = later := by
      rw [List.nil_append, ← List.append_assoc]
      exact skipNewlines_append (List.forall_mem_append.mpr ⟨newlines, ended⟩) line
    rw [skipped]
    refine ⟨[], later, ?_, skipNewlines_of_current line, rfl⟩
    rw [readBlock]
    rintro position after rfl
    exact block rfl
  | present blocked =>
    have front := (BlockRule.begins kind).current blocked (gap ++ later)
    rw [skipNewlines_append newlines (by simp [front.1])]
    exact ⟨_, gap ++ later, readBlock_accepts blocked inside, skipNewlines_append ended line,
      by rw [front.2]⟩

/-- A declaration is read, and what follows is left, perhaps with the line ends in front of it. -/
theorem declarationReader_accepts {word gap later : List Token} {declaration : Declaration Position}
    (derived : DeclarationRule (current later).position word declaration)
    (inside : ∀ token ∈ word, token.symbol ≠ .eof) (ended : Newlines gap)
    (line : (current later).symbol ≠ .newline) (block : (current later).symbol ≠ .indent) :
    ∃ left, declarationReader.read (word ++ (gap ++ later)) = .ok (declaration, left) ∧
      skipNewlines left = later := by
  obtain ⟨annotated, keyword, name, position, colon, newlines, some, below⟩ := derived
  rename_i above lineEnds bodyWord attributes kind body
  obtain ⟨⟨symbol, newline⟩, others, rfl⟩ := List.exists_cons_of_ne_nil some
  obtain ⟨same, furtherEnds⟩ := List.forall_mem_cons.mp newlines
  cases same
  have attributesRead := readAttributes_accepts _ _ (⟨.keyword kind, keyword⟩ ::
    ⟨.identifier name, position⟩ :: ⟨.colon, colon⟩ :: ⟨.newline, newline⟩ ::
    (others ++ (bodyWord ++ (gap ++ later)))) annotated rfl
  obtain ⟨lines, left, blockRead, behind, rfl⟩ :=
    below.read (fun token member => inside token (by simp [member])) furtherEnds ended line block
  refine ⟨left, ?_, behind⟩
  simp [declarationReader, readDeclarationRest, readIdentifier, expect_token, attributesRead, blockRead]

theorem readDeclarations_skipNewlines (tokens : List Token) :
    readDeclarations (skipNewlines tokens) = readDeclarations tokens := by
  obtain ⟨gap, -, -, visible⟩ := exists_newlines tokens
  rw [readDeclarations, skipNewlines_of_current visible, ← readDeclarations]

theorem readDeclarations_accepts {tokens : List Token} {declarations : List (Declaration Position)}
    (derived : DeclarationsRule tokens declarations)
    (inside : ∀ token ∈ tokens.dropLast, token.symbol ≠ .eof) :
    readDeclarations tokens = .ok declarations := by
  induction derived with
  | done position =>
    rw [readDeclarations]
    simp [skipNewlines, current]
  | @cons word gap later declaration declarations first ended others ih =>
    obtain ⟨token, rest, same, line, block⟩ := DeclarationsRule.begins _ _ others
    have some : later ≠ [] := by simp [same]
    rw [← List.append_assoc, List.dropLast_append_of_ne_nil some, List.forall_mem_append,
      List.forall_mem_append] at inside
    have leads := (DeclarationRule.begins _).current first (gap ++ later)
    obtain ⟨lineEnd, -, -, textEnd, -⟩ := Symbol.ne_of_leads leads.1
    have front : current later = token := by rw [same]; rfl
    obtain ⟨left, read, behind⟩ := declarationReader_accepts first inside.1.1 ended
      (by rwa [front]) (by rwa [front])
    refine readDeclarations_declaration lineEnd textEnd read ?_
    rw [← readDeclarations_skipNewlines, behind]
    exact ih inside.2

/-! ### Files -/

theorem readDeclarations_of_file {tokens : List Token} {declarations : List (Declaration Position)}
    (derived : FileRule tokens declarations) (laid : Laid 0 tokens) :
    readDeclarations tokens = .ok declarations := by
  obtain ⟨ended, listed⟩ := derived
  rename_i gap later
  obtain ⟨front, position, last, inside⟩ := (laid.behind ended.blockless).ends
  have visible := DeclarationsRule.begins.current listed []
  rw [List.append_nil] at visible
  rw [← readDeclarations_skipNewlines, skipNewlines_append ended visible.1.1]
  refine readDeclarations_accepts listed ?_
  rw [last, List.dropLast_concat]
  exact inside

/-- The tokens of a source text are read as declarations exactly if the grammar derives them, so a
derivation determines its declarations, and where there is none the reader reports an error. -/
theorem reading_follows_grammar (source : String) (tokens : List Token) (scanned : scan source = .ok tokens) :
    (∀ declarations, readDeclarations tokens = .ok declarations ↔ FileRule tokens declarations) ∧
    ((¬ ∃ declarations, FileRule tokens declarations) → ∃ error, readDeclarations tokens = .error error) ∧
    ∀ first second, FileRule tokens first → FileRule tokens second → first = second := by
  have laid := laid_of_scan scanned
  refine ⟨fun declarations => ⟨readDeclarations_derives laid, (readDeclarations_of_file · laid)⟩, ?_, ?_⟩
  · intro underivable
    cases read : readDeclarations tokens with
    | error error => exact ⟨error, rfl⟩
    | ok declarations => exact absurd ⟨declarations, readDeclarations_derives laid read⟩ underivable
  · intro first second one two
    exact Except.ok.inj ((readDeclarations_of_file one laid).symm.trans (readDeclarations_of_file two laid))

def keyAndBox : List (Declaration Position) :=
  [⟨.enumKind, ⟨"Key", ⟨1, 6⟩⟩, [], ⟨[⟨[], [⟨⟨"up", ⟨2, 3⟩⟩, none, ⟨2, 3⟩⟩], ⟨2, 3⟩⟩], ⟨2, 1⟩⟩, ⟨1, 1⟩⟩,
    ⟨.structKind, ⟨"Box", ⟨3, 8⟩⟩, [], ⟨[], ⟨4, 1⟩⟩, ⟨3, 1⟩⟩]

theorem keyAndBox_derived :
    ∃ tokens, scan "enum Key:\n  up\nstruct Box:\n  lid\n    hinge\n" = .ok tokens ∧
      FileRule tokens keyAndBox ∧ ∀ other, FileRule tokens other → other = keyAndBox := by
  have read : parse "enum Key:\n  up\nstruct Box:\n  lid\n    hinge\n" = .ok keyAndBox := by
    decide +kernel
  obtain ⟨tokens, scanned, found⟩ := bind_eq_ok_iff.mp read
  obtain ⟨exactly, -, unique⟩ := reading_follows_grammar _ tokens scanned
  have derived := (exactly keyAndBox).mp found
  exact ⟨tokens, scanned, derived, fun other again => unique other keyAndBox again derived⟩

end RawMapping
