import RawMapping.Declaration.Basic
import RawMapping.Declaration.Reader

/-! Reading declarations. A file is a sequence of declarations; a declaration has attributes, a
keyword, a name and an indented body. Only the body of an enumeration is read: that of any other
declaration is skipped up to where its block closes. -/

set_option autoImplicit false

namespace RawMapping

def typeReader : Reader (NamedType Position) where
  read tokens := do
    let ((name, position), rest) ← readIdentifier tokens
    return (⟨name, position⟩, rest)
  shorter {tokens rest _} h := by
    cases hi : readIdentifier tokens with
    | error e => simp [hi, bind, Except.bind] at h
    | ok read =>
      simp only [hi, bind, Except.bind, pure, Except.pure, Except.ok.injEq, Prod.mk.injEq] at h
      obtain ⟨-, rfl⟩ := h
      exact readIdentifier_shorter hi

def readLiteral (tokens : List Token) : Except SyntaxError (Literal Position × List Token) :=
  match tokens with
  | ⟨.string value, position⟩ :: rest => .ok (.string value position, rest)
  | ⟨.placeholder label, position⟩ :: rest => .ok (.placeholder label position, rest)
  | ⟨.number digits, position⟩ :: rest => .ok (.integer digits position, rest)
  | ⟨.minus, position⟩ :: rest =>
    match rest with
    | ⟨.number digits, _⟩ :: left => .ok (.integer ("-" ++ digits) position, left)
    | _ => reject (.expected .number) rest
  | _ => reject .expectedLiteral tokens

theorem readLiteral_shorter {tokens rest : List Token} {literal : Literal Position}
    (h : readLiteral tokens = .ok (literal, rest)) : rest.length < tokens.length := by
  unfold readLiteral at h
  split at h
  · cases h; simp
  · cases h; simp
  · cases h; simp
  · split at h
    · cases h; simp only [List.length_cons]; omega
    · cases h
  · cases h

/-- The name in front of `mark`, if the tokens begin with a name and that symbol, and what follows. -/
def readLabelBefore (mark : Symbol) (tokens : List Token) : Option String × List Token :=
  match tokens with
  | ⟨.identifier label, _⟩ :: next :: rest =>
    if next.symbol = mark then (some label, rest) else (none, tokens)
  | _ => (none, tokens)

theorem readLabelBefore_length_le (mark : Symbol) (tokens : List Token) :
    (readLabelBefore mark tokens).2.length ≤ tokens.length := by
  unfold readLabelBefore
  split
  · split
    · simp; omega
    · simp
  · simp

/-- A literal with an optional label before an equals sign. -/
def argumentReader : Reader (Argument Position) where
  read tokens := do
    let (label, unlabelled) := readLabelBefore .equals tokens
    let (value, rest) ← readLiteral unlabelled
    return (⟨label, value, (current tokens).position⟩, rest)
  shorter {tokens rest _} h := by
    have label := readLabelBefore_length_le .equals tokens
    cases hl : readLiteral (readLabelBefore .equals tokens).2 with
    | error e => simp [hl, bind, Except.bind] at h
    | ok read =>
      simp only [hl, bind, Except.bind, pure, Except.pure, Except.ok.injEq, Prod.mk.injEq] at h
      obtain ⟨-, rfl⟩ := h
      exact Nat.lt_of_lt_of_le (readLiteral_shorter hl) label

/-- A type with an optional label before a colon. -/
def parameterReader : Reader (Parameter Position) where
  read tokens := do
    let (label, unlabelled) := readLabelBefore .colon tokens
    let (type, rest) ← typeReader.read unlabelled
    return (⟨label, type, (current tokens).position⟩, rest)
  shorter {tokens rest _} h := by
    have label := readLabelBefore_length_le .colon tokens
    cases hl : typeReader.read (readLabelBefore .colon tokens).2 with
    | error e => simp [hl, bind, Except.bind] at h
    | ok read =>
      simp only [hl, bind, Except.bind, pure, Except.pure, Except.ok.injEq, Prod.mk.injEq] at h
      obtain ⟨-, rfl⟩ := h
      exact Nat.lt_of_lt_of_le (typeReader.shorter hl) label

def readTypeArguments (tokens : List Token) :
    Except SyntaxError (List (NamedType Position) × List Token) :=
  match tokens with
  | ⟨.openBracket, _⟩ :: rest => do
    let (types, left) ← typeReader.separated.read rest
    let left ← expect .closeBracket left
    return (types, left)
  | _ => .ok ([], tokens)

theorem readTypeArguments_length_le {tokens rest : List Token} {types : List (NamedType Position)}
    (h : readTypeArguments tokens = .ok (types, rest)) : rest.length ≤ tokens.length := by
  unfold readTypeArguments at h
  split at h
  · next position after =>
    cases hs : typeReader.separated.read after with
    | error e => simp [hs, bind, Except.bind] at h
    | ok read =>
      cases he : expect .closeBracket read.2 with
      | error e => simp [hs, he, bind, Except.bind] at h
      | ok left =>
        simp only [hs, he, bind, Except.bind, pure, Except.pure, Except.ok.injEq,
          Prod.mk.injEq] at h
        obtain ⟨-, rfl⟩ := h
        have outer := expect_shorter he
        have inner := typeReader.separated.shorter hs
        simp only [List.length_cons]
        omega
  · cases h; simp

def readParenthesized {α : Type} (reader : Reader α) (tokens : List Token) :
    Except SyntaxError (Option (List α) × List Token) :=
  match tokens with
  | ⟨.openParen, _⟩ :: rest => do
    let (items, left) ← reader.untilClosed .closeParen rest
    return (some items, left)
  | _ => .ok (none, tokens)

theorem readParenthesized_length_le {α : Type} {reader : Reader α} {tokens rest : List Token}
    {items : Option (List α)} (h : readParenthesized reader tokens = .ok (items, rest)) :
    rest.length ≤ tokens.length := by
  unfold readParenthesized at h
  split at h
  · next position after =>
    cases hu : reader.untilClosed .closeParen after with
    | error e => simp [hu, bind, Except.bind] at h
    | ok read =>
      simp only [hu, bind, Except.bind, pure, Except.pure, Except.ok.injEq, Prod.mk.injEq] at h
      obtain ⟨-, rfl⟩ := h
      have inner := reader.untilClosed_shorter hu
      simp only [List.length_cons]
      omega
  · cases h; simp

def readAttribute (position : Position) (tokens : List Token) :
    Except SyntaxError (Attribute Position × List Token) := do
  let ((name, namePosition), rest) ← readIdentifier tokens
  let (types, rest) ← readTypeArguments rest
  let (arguments, rest) ← readParenthesized argumentReader rest
  return (⟨⟨name, namePosition⟩, types, arguments.getD [], position⟩, rest)

theorem readAttribute_shorter {position : Position} {tokens rest : List Token}
    {attr : Attribute Position} (h : readAttribute position tokens = .ok (attr, rest)) :
    rest.length < tokens.length := by
  unfold readAttribute at h
  cases hi : readIdentifier tokens with
  | error e => simp [hi, bind, Except.bind] at h
  | ok name =>
    cases ht : readTypeArguments name.2 with
    | error e => simp [hi, ht, bind, Except.bind] at h
    | ok types =>
      cases ha : readParenthesized argumentReader types.2 with
      | error e => simp [hi, ht, ha, bind, Except.bind] at h
      | ok arguments =>
        simp only [hi, ht, ha, bind, Except.bind, pure, Except.pure, Except.ok.injEq,
          Prod.mk.injEq] at h
        obtain ⟨-, rfl⟩ := h
        have first := readIdentifier_shorter hi
        have second := readTypeArguments_length_le ht
        have third := readParenthesized_length_le ha
        omega

def readAttributes (tokens : List Token) :
    Except SyntaxError (List (Attribute Position) × List Token) :=
  match tokens with
  | ⟨.atSign, position⟩ :: rest =>
    match _h : readAttribute position rest with
    | .error error => .error error
    | .ok (attr, left) =>
      match readAttributes (skipNewlines left) with
      | .error error => .error error
      | .ok (attrs, last) => .ok (attr :: attrs, last)
  | _ => .ok ([], tokens)
termination_by tokens.length
decreasing_by
  have first := readAttribute_shorter ‹_›
  have second := length_skipNewlines_le left
  simp only [List.length_cons]
  omega

theorem readAttributes_length_le {tokens rest : List Token} {attrs : List (Attribute Position)}
    (h : readAttributes tokens = .ok (attrs, rest)) : rest.length ≤ tokens.length := by
  fun_induction readAttributes tokens generalizing attrs rest with
  | case1 => cases h
  | case2 => cases h
  | case3 position after attr left hread attrs' last hmore ih =>
    cases h
    have first := readAttribute_shorter hread
    have second := length_skipNewlines_le left
    have third := ih hmore
    simp only [List.length_cons]
    omega
  | case4 => cases h; simp

def variantReader : Reader (Variant Position) where
  read tokens := do
    let ((name, position), rest) ← readIdentifier tokens
    let (parameters, rest) ← readParenthesized parameterReader rest
    return (⟨⟨name, position⟩, parameters, position⟩, rest)
  shorter {tokens rest _} h := by
    cases hi : readIdentifier tokens with
    | error e => simp [hi, bind, Except.bind] at h
    | ok name =>
      cases hp : readParenthesized parameterReader name.2 with
      | error e => simp [hi, hp, bind, Except.bind] at h
      | ok parameters =>
        simp only [hi, hp, bind, Except.bind, pure, Except.pure, Except.ok.injEq,
          Prod.mk.injEq] at h
        obtain ⟨-, rfl⟩ := h
        exact Nat.lt_of_le_of_lt (readParenthesized_length_le hp) (readIdentifier_shorter hi)

def Symbol.endsBlock : Symbol → Bool
  | .dedent | .eof => true
  | _ => false

/-- Symbols that may follow the variants of a line. -/
def Symbol.endsLine (symbol : Symbol) : Bool :=
  symbol == .newline || symbol.endsBlock

def caseLineReader : Reader (CaseLine Position) where
  read tokens := do
    let (attributes, rest) ← readAttributes tokens
    let (variants, rest) ← variantReader.separated.read rest
    if (current rest).symbol.endsLine then
      return (⟨attributes, variants, (current tokens).position⟩, skipNewlines rest)
    else reject .unexpectedAfterCase rest
  shorter {tokens rest _} h := by
    cases ha : readAttributes tokens with
    | error e => simp [ha, bind, Except.bind] at h
    | ok attributes =>
      cases hv : variantReader.separated.read attributes.2 with
      | error e => simp [ha, hv, bind, Except.bind] at h
      | ok variants =>
        simp only [ha, hv, bind, Except.bind] at h
        split at h
        · simp only [pure, Except.pure, Except.ok.injEq, Prod.mk.injEq] at h
          obtain ⟨-, rfl⟩ := h
          have first := readAttributes_length_le ha
          have second := variantReader.separated.shorter hv
          have third := length_skipNewlines_le variants.2
          omega
        · cases h

/-- The lines of a body up to the end of its block, which is taken too. -/
def readCaseLines (tokens : List Token) :
    Except SyntaxError (List (CaseLine Position) × List Token) :=
  if (current (skipNewlines tokens)).symbol.endsBlock then
    match skipNewlines tokens with
    | ⟨.dedent, _⟩ :: rest => .ok ([], rest)
    | left => .ok ([], left)
  else
    match _h : caseLineReader.read (skipNewlines tokens) with
    | .error error => .error error
    | .ok (line, rest) =>
      match readCaseLines rest with
      | .error error => .error error
      | .ok (lines, last) => .ok (line :: lines, last)
termination_by tokens.length
decreasing_by
  have first := caseLineReader.shorter ‹_›
  have second := length_skipNewlines_le tokens
  omega

theorem readCaseLines_length_le {tokens rest : List Token} {lines : List (CaseLine Position)}
    (h : readCaseLines tokens = .ok (lines, rest)) : rest.length ≤ tokens.length := by
  fun_induction readCaseLines tokens generalizing lines rest with
  | case1 tokens _ position after hs =>
    cases h
    have skipped := length_skipNewlines_le tokens
    rw [hs, List.length_cons] at skipped
    omega
  | case2 tokens => cases h; exact length_skipNewlines_le tokens
  | case3 => cases h
  | case4 => cases h
  | case5 tokens _ line left hread lines' last hmore ih =>
    cases h
    have first := caseLineReader.shorter hread
    have second := length_skipNewlines_le tokens
    have third := ih hmore
    omega

def skipBlock : Nat → List Token → List Token
  | 0, tokens => tokens
  | _, [] => []
  | depth + 1, token :: rest =>
    match token.symbol with
    | .indent => skipBlock (depth + 2) rest
    | .dedent => skipBlock depth rest
    | .eof => token :: rest
    | _ => skipBlock (depth + 1) rest

theorem skipBlock_length_le (depth : Nat) (tokens : List Token) :
    (skipBlock depth tokens).length ≤ tokens.length := by
  fun_induction skipBlock depth tokens with
  | case1 => simp
  | case2 => simp
  | case3 => simp; omega
  | case4 => simp; omega
  | case5 => simp
  | case6 => simp; omega

def readBlock (kind : DeclKind) (tokens : List Token) :
    Except SyntaxError (List (CaseLine Position) × List Token) :=
  match tokens with
  | ⟨.indent, _⟩ :: rest =>
    if kind = .enumKind then readCaseLines rest else .ok ([], skipBlock 1 rest)
  | _ => .ok ([], tokens)

theorem readBlock_length_le {kind : DeclKind} {tokens rest : List Token}
    {lines : List (CaseLine Position)} (h : readBlock kind tokens = .ok (lines, rest)) :
    rest.length ≤ tokens.length := by
  unfold readBlock at h
  split at h
  · split at h
    · have := readCaseLines_length_le h
      simp only [List.length_cons]
      omega
    · cases h
      have := skipBlock_length_le 1 ‹_›
      simp only [List.length_cons]
      omega
  · cases h; simp

def readDeclarationRest (kind : DeclKind) (position : Position)
    (attributes : List (Attribute Position)) (tokens : List Token) :
    Except SyntaxError (Declaration Position × List Token) := do
  let ((name, namePosition), rest) ← readIdentifier tokens
  let rest ← expect .colon rest
  let rest ← expect .newline rest
  let bodyTokens := skipNewlines rest
  let (lines, rest) ← readBlock kind bodyTokens
  let body : Body Position := ⟨lines, (current bodyTokens).position⟩
  return (⟨kind, ⟨name, namePosition⟩, attributes, body, position⟩, rest)

theorem readDeclarationRest_shorter {kind : DeclKind} {position : Position}
    {attributes : List (Attribute Position)} {tokens rest : List Token}
    {declaration : Declaration Position}
    (h : readDeclarationRest kind position attributes tokens = .ok (declaration, rest)) :
    rest.length < tokens.length := by
  unfold readDeclarationRest at h
  cases hi : readIdentifier tokens with
  | error e => simp [hi, bind, Except.bind] at h
  | ok name =>
    cases hc : expect .colon name.2 with
    | error e => simp [hi, hc, bind, Except.bind] at h
    | ok afterColon =>
      cases hn : expect .newline afterColon with
      | error e => simp [hi, hc, hn, bind, Except.bind] at h
      | ok afterLine =>
        cases hb : readBlock kind (skipNewlines afterLine) with
        | error e => simp [hi, hc, hn, hb, bind, Except.bind] at h
        | ok block =>
          simp only [hi, hc, hn, hb, bind, Except.bind, pure, Except.pure, Except.ok.injEq,
            Prod.mk.injEq] at h
          obtain ⟨-, rfl⟩ := h
          have first := readIdentifier_shorter hi
          have second := expect_shorter hc
          have third := expect_shorter hn
          have fourth := length_skipNewlines_le afterLine
          have fifth := readBlock_length_le hb
          omega

def declarationReader : Reader (Declaration Position) where
  read tokens := do
    let (attributes, rest) ← readAttributes tokens
    match rest with
    | ⟨.keyword kind, position⟩ :: after => readDeclarationRest kind position attributes after
    | _ => reject .expectedDeclaration rest
  shorter {tokens rest _} h := by
    cases ha : readAttributes tokens with
    | error e => simp [ha, bind, Except.bind] at h
    | ok attributes =>
      simp only [ha, bind, Except.bind] at h
      split at h
      · next kind position after hr =>
        have first := readAttributes_length_le ha
        have second := readDeclarationRest_shorter h
        rw [hr, List.length_cons] at first
        omega
      · cases h

def readDeclarations (tokens : List Token) : Except SyntaxError (List (Declaration Position)) :=
  if (current (skipNewlines tokens)).symbol = .eof then .ok []
  else
    match _h : declarationReader.read (skipNewlines tokens) with
    | .error error => .error error
    | .ok (declaration, rest) =>
      match readDeclarations rest with
      | .error error => .error error
      | .ok declarations => .ok (declaration :: declarations)
termination_by tokens.length
decreasing_by
  have first := declarationReader.shorter ‹_›
  have second := length_skipNewlines_le tokens
  omega

def parse (source : String) : Except SyntaxError (List (Declaration Position)) := do
  readDeclarations (← scan source)

end RawMapping
