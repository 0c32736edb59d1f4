import RawMapping.Proofs.Declaration.Unplaced
import RawMapping.Proofs.Token.Tokenizing

/-! A parser that walks over the tokens by index. It never moves behind the end of the text, looks at the
token that comes next without knowing that there is one, and repeats its steps in loops that are left from
the inside. So a step could look behind the tokens or find no declaration for a keyword, and a round of a
loop could take nothing. None of this happens: each step does what a reader does on the tokens that are
left. -/

set_option autoImplicit false

namespace RawMapping

variable {α β : Type}

/-! ### The walk -/

section

variable (tokens : List Token)

def tokenAt (index : Nat) : Machine Nat Token :=
  match if tokens.length ≤ index then tokens.getLast? else tokens[index]? with
  | some token => pure token
  | none => fail .outOfRange

def currentToken : Machine Nat Token := do
  tokenAt tokens (← get)

def peekToken : Machine Nat Token := do
  tokenAt tokens ((← get) + 1)

def stepToken : Machine Nat Token := do
  let token ← currentToken tokens
  if token.symbol.kind = .eof then return token
  else
    modify (· + 1)
    return token

def matchKind (kinds : List SymbolKind) : Machine Nat Bool := do
  return (← currentToken tokens).symbol.kind ∈ kinds

def takeKind (kind : SymbolKind) : Machine Nat Token := do
  let token ← currentToken tokens
  if token.symbol.kind = kind then stepToken tokens
  else fail (.rejected ⟨.expected kind token.symbol, token.position⟩)

def newlineRound (_ : Unit) : Machine Nat (Unit ⊕ Unit) := do
  if ← matchKind tokens [.newline] then
    let _ ← stepToken tokens
    return .inl ()
  else return .inr ()

def walkLoop (round : α → Machine Nat (α ⊕ β)) (carried : α) : Machine Nat β :=
  loop (tokens.length - ·) round carried

def skipLines : Machine Nat Unit :=
  walkLoop tokens (newlineRound tokens) ()

def commaRound (item : Machine Nat α) (items : List α) : Machine Nat (List α ⊕ List α) := do
  if ← matchKind tokens [.comma] then
    let _ ← stepToken tokens
    return .inl (items ++ [← item])
  else return .inr items

def parseSeparated (item : Machine Nat α) : Machine Nat (List α) := do
  walkLoop tokens (commaRound tokens item) [← item]

def parseParenthesized (item : Machine Nat α) : Machine Nat (Option (List α)) := do
  if ← matchKind tokens [.openParen] then
    let _ ← stepToken tokens
    if ← matchKind tokens [.closeParen] then
      let _ ← takeKind tokens .closeParen
      return some []
    else
      let items ← parseSeparated tokens item
      let _ ← takeKind tokens .closeParen
      return some items
  else return none

/-! ### Attributes -/

def parseType : Machine Nat (NamedType Position) := do
  let token ← takeKind tokens .identifier
  return ⟨token.symbol.value, token.position⟩

def parseLiteral : Machine Nat (Literal Position) := do
  let token ← currentToken tokens
  if ← matchKind tokens [.string] then
    let _ ← stepToken tokens
    return .string token.symbol.value token.position
  else if ← matchKind tokens [.placeholder] then
    let _ ← stepToken tokens
    return .placeholder token.symbol.value token.position
  else if ← matchKind tokens [.minus] then
    let _ ← stepToken tokens
    let number ← takeKind tokens .number
    return .integer ("-" ++ number.symbol.value) token.position
  else if ← matchKind tokens [.number] then
    let _ ← stepToken tokens
    return .integer token.symbol.value token.position
  else fail (.rejected ⟨.expectedLiteral token.symbol, token.position⟩)

def parseLabel (mark : SymbolKind) : Machine Nat (Option String) := do
  if ← matchKind tokens [.identifier] then
    if (← peekToken tokens).symbol.kind = mark then
      let label ← stepToken tokens
      let _ ← stepToken tokens
      return some label.symbol.value
    else return none
  else return none

def parseArgument : Machine Nat (Argument Position) := do
  let start ← currentToken tokens
  let label ← parseLabel tokens .equals
  let value ← parseLiteral tokens
  return ⟨label, value, start.position⟩

def parseTypeArguments : Machine Nat (List (NamedType Position)) := do
  if ← matchKind tokens [.openBracket] then
    let _ ← stepToken tokens
    let types ← parseSeparated tokens (parseType tokens)
    let _ ← takeKind tokens .closeBracket
    return types
  else return []

def parseAttribute : Machine Nat (Attribute Position) := do
  let sign ← takeKind tokens .atSign
  let name ← takeKind tokens .identifier
  let types ← parseTypeArguments tokens
  let arguments ← parseParenthesized tokens (parseArgument tokens)
  return ⟨⟨name.symbol.value, name.position⟩, types, arguments.getD [], sign.position⟩

def attributeRound (attributes : List (Attribute Position)) :
    Machine Nat (List (Attribute Position) ⊕ List (Attribute Position)) := do
  if ← matchKind tokens [.atSign] then
    let attr ← parseAttribute tokens
    skipLines tokens
    return .inl (attributes ++ [attr])
  else return .inr attributes

def parseAttributes : Machine Nat (List (Attribute Position)) :=
  walkLoop tokens (attributeRound tokens) []

/-! ### Declarations -/

def parseParameter : Machine Nat (Parameter Position) := do
  let start ← currentToken tokens
  let label ← parseLabel tokens .colon
  let type ← parseType tokens
  return ⟨label, type, start.position⟩

def parseVariant : Machine Nat (Variant Position) := do
  let name ← takeKind tokens .identifier
  let parameters ← parseParenthesized tokens (parseParameter tokens)
  return ⟨⟨name.symbol.value, name.position⟩, parameters, name.position⟩

def parseCaseLine : Machine Nat (CaseLine Position) := do
  let start ← currentToken tokens
  let attributes ← parseAttributes tokens
  let variants ← parseSeparated tokens (parseVariant tokens)
  if ← matchKind tokens [.newline, .dedent, .eof] then
    skipLines tokens
    return ⟨attributes, variants, start.position⟩
  else
    let token ← currentToken tokens
    fail (.rejected ⟨.unexpectedAfterCase token.symbol, token.position⟩)

def caseLineRound (lines : List (CaseLine Position)) :
    Machine Nat (List (CaseLine Position) ⊕ List (CaseLine Position)) := do
  if ← matchKind tokens [.dedent, .eof] then return .inr lines
  else
    skipLines tokens
    if ← matchKind tokens [.dedent, .eof] then return .inr lines
    else return .inl (lines ++ [← parseCaseLine tokens])

def closeLines (lines : List (CaseLine Position)) : Machine Nat (List (CaseLine Position)) := do
  if ← matchKind tokens [.dedent] then
    let _ ← stepToken tokens
    return lines
  else return lines

def parseCaseLines : Machine Nat (List (CaseLine Position)) := do
  closeLines tokens (← walkLoop tokens (caseLineRound tokens) [])

def blockRound (depth : Nat) : Machine Nat (Nat ⊕ Unit) := do
  if 0 < depth then
    if ← matchKind tokens [.eof] then return .inr ()
    else
      let token ← stepToken tokens
      if token.symbol.kind = .indent then return .inl (depth + 1)
      else if token.symbol.kind = .dedent then return .inl (depth - 1)
      else return .inl depth
  else return .inr ()

def skipDepth (depth : Nat) : Machine Nat Unit :=
  walkLoop tokens (blockRound tokens) depth

def declarationKeywords : List (SymbolKind × DeclKind) :=
  [(.keyword .enumKind, .enumKind), (.keyword .structKind, .structKind), (.keyword .classKind, .classKind)]

def keywordKind (kind : SymbolKind) : Machine Nat DeclKind :=
  match declarationKeywords.lookup kind with
  | some kind => pure kind
  | none => fail (.unknownType kind.text)

def parseBlock (kind : DeclKind) : Machine Nat (List (CaseLine Position)) := do
  if ← matchKind tokens [.indent] then
    let _ ← stepToken tokens
    if kind = .enumKind then parseCaseLines tokens
    else
      skipDepth tokens 1
      return []
  else return []

def parseDeclaration : Machine Nat (Declaration Position) := do
  let attributes ← parseAttributes tokens
  let keyword ← currentToken tokens
  if keyword.symbol.kind ∈ declarationKeywords.map Prod.fst then
    let _ ← stepToken tokens
    let kind ← keywordKind keyword.symbol.kind
    let name ← takeKind tokens .identifier
    let _ ← takeKind tokens .colon
    let _ ← takeKind tokens .newline
    skipLines tokens
    let body ← currentToken tokens
    let lines ← parseBlock tokens kind
    return ⟨kind, ⟨name.symbol.value, name.position⟩, attributes, ⟨lines, body.position⟩, keyword.position⟩
  else fail (.rejected ⟨.expectedDeclaration keyword.symbol, keyword.position⟩)

def declarationRound (declarations : List (Declaration Position)) :
    Machine Nat (List (Declaration Position) ⊕ List (Declaration Position)) := do
  if ← matchKind tokens [.eof] then return .inr declarations
  else
    let declaration ← parseDeclaration tokens
    skipLines tokens
    return .inl (declarations ++ [declaration])

def parseDeclarations : Machine Nat (List (Declaration Position)) := do
  skipLines tokens
  walkLoop tokens (declarationRound tokens) []

end

def parseText (source : String) : Except Failure (List (Declaration Position)) := do
  let tokens ← tokenize source
  (parseDeclarations tokens 0).map Prod.fst

/-! ### Steps -/

def Terminated (tokens : List Token) : Prop :=
  ∃ front position, tokens = front ++ [⟨.eof, position⟩] ∧ ∀ token ∈ front, token.symbol ≠ .eof

theorem Terminated.cons {token : Token} {left : List Token} (ends : Terminated (token :: left)) :
    token.symbol = .eof ∧ left = [] ∨ token.symbol ≠ .eof ∧ Terminated left := by
  obtain ⟨front, position, split, inside⟩ := ends
  cases front with
  | nil =>
    cases split
    exact .inl ⟨rfl, rfl⟩
  | cons first front =>
    cases split
    obtain ⟨more, later⟩ := List.forall_mem_cons.mp inside
    exact .inr ⟨more, front, position, rfl, later⟩

structure StandsAt (tokens rest : List Token) (index : Nat) : Prop where
  here : tokens.drop index = rest
  ends : Terminated rest

/-- Both end with the same result in front of the same tokens, or both reject the text with the same error. -/
inductive SameStep (tokens : List Token) :
    Except Failure (α × Nat) → Except SyntaxError (α × List Token) → Prop where
  | ok {value : α} {index : Nat} {rest : List Token} : StandsAt tokens rest index →
      SameStep tokens (.ok (value, index)) (.ok (value, rest))
  | error {error : SyntaxError} : SameStep tokens (.error (.rejected error)) (.error error)

def Walks (tokens : List Token) (walk : Machine Nat α)
    (read : List Token → Except SyntaxError (α × List Token)) : Prop :=
  ∀ rest index, StandsAt tokens rest index → SameStep tokens (walk index) (read rest)

section

variable {tokens rest : List Token} {index : Nat}

theorem SameStep.bind {first : Machine Nat α} {later : α → Machine Nat β}
    {result : Except SyntaxError (α × List Token)}
    {further : α × List Token → Except SyntaxError (β × List Token)}
    (same : SameStep tokens (first index) result)
    (next : ∀ value rest index, result = .ok (value, rest) → StandsAt tokens rest index →
      SameStep tokens (later value index) (further (value, rest))) :
    SameStep tokens ((first >>= later) index) (result >>= further) := by
  generalize ran : first index = outcome at same
  cases same with
  | ok stands =>
    rw [Machine.bind_of_ok ran]
    exact next _ _ _ rfl stands
  | error =>
    rw [Machine.bind_of_error ran]
    exact .error

theorem StandsAt.length (stands : StandsAt tokens rest index) : rest.length = tokens.length - index := by
  rw [← stands.here, List.length_drop]

theorem StandsAt.exists_cons (stands : StandsAt tokens rest index) : ∃ token left, rest = token :: left := by
  obtain ⟨front, position, rfl, -⟩ := stands.ends
  cases front with
  | nil => exact ⟨_, [], rfl⟩
  | cons token front => exact ⟨token, _, rfl⟩

theorem StandsAt.next {token : Token} {left : List Token} (stands : StandsAt tokens (token :: left) index)
    (more : token.symbol ≠ .eof) : StandsAt tokens left (index + 1) where
  here := by rw [← List.drop_drop, stands.here, List.drop_one, List.tail_cons]
  ends := (stands.ends.cons.resolve_left fun last => more last.1).2

theorem StandsAt.last {token : Token} {left : List Token} (stands : StandsAt tokens (token :: left) index)
    (last : token.symbol = .eof) : left = [] :=
  (stands.ends.cons.resolve_right fun more => more.1 last).2

theorem tokenAt_run {later : Nat} {token : Token} (found : tokens[later]? = some token) :
    tokenAt tokens later index = .ok (token, index) := by
  obtain ⟨inside, -⟩ := List.getElem?_eq_some_iff.mp found
  unfold tokenAt
  rw [if_neg (Nat.not_le.mpr inside), found]
  rfl

theorem currentToken_run {token : Token} {left : List Token} (stands : StandsAt tokens (token :: left) index) :
    currentToken tokens index = .ok (token, index) := by
  apply tokenAt_run
  rw [← List.head?_drop, stands.here]
  rfl

theorem peekToken_run {token next : Token} {left : List Token}
    (stands : StandsAt tokens (token :: next :: left) index) :
    peekToken tokens index = .ok (next, index) := by
  apply tokenAt_run
  rw [← List.head?_drop, ← List.drop_drop, stands.here]
  rfl

theorem matchKind_run {token : Token} {left : List Token} (stands : StandsAt tokens (token :: left) index)
    (kinds : List SymbolKind) :
    matchKind tokens kinds index = .ok (decide (token.symbol.kind ∈ kinds), index) := by
  unfold matchKind
  rw [Machine.bind_of_ok (currentToken_run stands)]
  rfl

theorem matched {token : Token} {left : List Token} {kinds : List SymbolKind}
    (stands : StandsAt tokens (token :: left) index) (found : token.symbol.kind ∈ kinds)
    (yes no : Machine Nat α) : (do if ← matchKind tokens kinds then yes else no) index = yes index := by
  rw [Machine.bind_of_ok (matchKind_run stands kinds), if_pos (decide_eq_true found)]

theorem unmatched {token : Token} {left : List Token} {kinds : List SymbolKind}
    (stands : StandsAt tokens (token :: left) index) (other : token.symbol.kind ∉ kinds)
    (yes no : Machine Nat α) : (do if ← matchKind tokens kinds then yes else no) index = no index := by
  rw [Machine.bind_of_ok (matchKind_run stands kinds), if_neg (by simp [other])]

theorem Symbol.kind_eq_eof_iff {symbol : Symbol} : symbol.kind = .eof ↔ symbol = .eof := by
  cases symbol <;> simp [kind]

theorem stepToken_run {token : Token} {left : List Token} (stands : StandsAt tokens (token :: left) index)
    (more : token.symbol ≠ .eof) : stepToken tokens index = .ok (token, index + 1) := by
  unfold stepToken
  rw [Machine.bind_of_ok (currentToken_run stands), if_neg (mt Symbol.kind_eq_eof_iff.mp more)]
  rfl

theorem takeKind_run {token : Token} {left : List Token} {kind : SymbolKind}
    (stands : StandsAt tokens (token :: left) index) (found : token.symbol.kind = kind) (more : kind ≠ .eof) :
    takeKind tokens kind index = .ok (token, index + 1) := by
  have inside : token.symbol ≠ .eof := by
    rintro last
    rw [last] at found
    exact more found.symm
  unfold takeKind
  rw [Machine.bind_of_ok (currentToken_run stands), if_pos found]
  exact stepToken_run stands inside

theorem takeKind_run_other {token : Token} {left : List Token} {kind : SymbolKind}
    (stands : StandsAt tokens (token :: left) index) (other : token.symbol.kind ≠ kind) :
    takeKind tokens kind index = .error (.rejected ⟨.expected kind token.symbol, token.position⟩) := by
  unfold takeKind
  rw [Machine.bind_of_ok (currentToken_run stands), if_neg other]
  rfl

theorem Symbol.kind_eq_iff {mark : Symbol}
    (bare : mark ∈ [.closeBracket, .closeParen, .colon, .newline, .equals]) :
    mark ≠ .eof ∧ ∀ symbol : Symbol, symbol.kind = mark.kind ↔ symbol = mark := by
  simp only [List.mem_cons, List.not_mem_nil, or_false] at bare
  rcases bare with rfl | rfl | rfl | rfl | rfl <;>
    exact ⟨by simp, fun symbol => by cases symbol <;> simp [kind]⟩

theorem takeKind_bind (mark : Symbol)
    (bare : mark ∈ [.closeBracket, .closeParen, .colon, .newline, .equals])
    {later : Token → Machine Nat β} {further : List Token → Except SyntaxError (β × List Token)}
    (stands : StandsAt tokens rest index)
    (next : ∀ token left index, expect mark rest = .ok left → StandsAt tokens left index →
      SameStep tokens (later token index) (further left)) :
    SameStep tokens ((takeKind tokens mark.kind >>= later) index) (expect mark rest >>= further) := by
  obtain ⟨inner, same⟩ := Symbol.kind_eq_iff bare
  obtain ⟨token, left, rfl⟩ := stands.exists_cons
  by_cases found : token.symbol = mark
  · have expected : expect mark (token :: left) = .ok left := if_pos found
    have more : token.symbol ≠ .eof := found ▸ inner
    have taken := takeKind_run stands ((same _).mpr found) (mt Symbol.kind_eq_eof_iff.mp inner)
    rw [Machine.bind_of_ok taken, expected]
    exact next token left (index + 1) expected (stands.next more)
  · have rejected : expect mark (token :: left) =
        .error ⟨.expected mark.kind token.symbol, token.position⟩ := if_neg found
    rw [Machine.bind_of_error (takeKind_run_other stands (mt (same _).mp found)), rejected]
    exact .error

theorem takeIdentifier_bind {later : Token → Machine Nat β}
    {further : (String × Position) × List Token → Except SyntaxError (β × List Token)}
    (stands : StandsAt tokens rest index)
    (next : ∀ token left index, StandsAt tokens left index →
      SameStep tokens (later token index) (further ((token.symbol.value, token.position), left))) :
    SameStep tokens ((takeKind tokens .identifier >>= later) index) (readIdentifier rest >>= further) := by
  obtain ⟨⟨symbol, position⟩, left, rfl⟩ := stands.exists_cons
  cases symbol with
  | identifier name =>
    have taken : takeKind tokens .identifier index = .ok (⟨.identifier name, position⟩, index + 1) :=
      takeKind_run stands rfl (by simp)
    rw [Machine.bind_of_ok taken]
    exact next ⟨.identifier name, position⟩ left _ (stands.next (by simp))
  | _ =>
    rw [Machine.bind_of_error (takeKind_run_other stands (by simp [Symbol.kind]))]
    exact .error

/-! ### Loops -/

theorem StandsAt.less {left : List Token} {later : Nat} (stands : StandsAt tokens rest index)
    (further : StandsAt tokens left later) (shorter : left.length < rest.length) :
    tokens.length - later < tokens.length - index := by
  rwa [further.length, stands.length] at shorter

theorem skipLines_run (stands : StandsAt tokens rest index) :
    ∃ later, skipLines tokens index = .ok ((), later) ∧ StandsAt tokens (skipNewlines rest) later := by
  unfold skipLines walkLoop
  induction rest generalizing index with
  | nil => obtain ⟨_, _, none⟩ := stands.exists_cons; cases none
  | cons token left ih =>
    obtain ⟨symbol, position⟩ := token
    cases symbol with
    | newline =>
      have goes : newlineRound tokens () index = .ok (.inl (), index + 1) := by
        unfold newlineRound
        rw [matched stands (by simp [Symbol.kind]), Machine.bind_of_ok (stepToken_run stands (by simp))]
        rfl
      obtain ⟨later, ran, further⟩ := ih (stands.next (by simp))
      refine ⟨later, ?_, further⟩
      rw [loop_again goes (stands.less (stands.next (by simp)) (Nat.lt_succ_self _)), ran]
    | _ =>
      refine ⟨index, loop_leaves ?_, stands⟩
      unfold newlineRound
      rw [unmatched stands (by simp [Symbol.kind])]
      rfl

theorem SameStep.skipping {item : Machine Nat α} {result : Except SyntaxError (α × List Token)}
    (same : SameStep tokens (item index) result) :
    SameStep tokens ((do let value ← item; skipLines tokens; return value) index)
      (result >>= fun read => .ok (read.1, skipNewlines read.2)) := by
  apply same.bind
  intro value left later _ further
  obtain ⟨last, skipped, behind⟩ := skipLines_run further
  rw [Machine.bind_of_ok skipped]
  exact .ok behind

/-- What a round of a loop that gathers items does, where a reader goes through the same tokens: it leaves the
loop where the reader has read all items, or reads one more item as the reader does. -/
inductive Gathers (tokens : List Token) (round : List α → Machine Nat (List α ⊕ List α))
    (close : List α → Machine Nat (List α)) (read : List Token → Except SyntaxError (List α × List Token))
    (ready : List Token → Prop) (rest : List Token) (index : Nat) : Prop where
  | leaves {left : List Token} {next last : Nat} (ran : ∀ items, round items index = .ok (.inr items, next))
      (closed : ∀ items, close items next = .ok (items, last)) (stands : StandsAt tokens left last)
      (all : read rest = .ok ([], left))
  | goes {item : Machine Nat α} {result : Except SyntaxError (α × List Token)} {start : Nat}
      (ran : ∀ items, round items index = (item >>= fun value => pure (.inl (items ++ [value]))) start)
      (same : SameStep tokens (item start) result)
      (shorter : ∀ value left, result = .ok (value, left) → left.length < rest.length ∧ ready left)
      (further : read rest = result >>= fun first => read first.2 >>= fun others =>
        .ok (first.1 :: others.1, others.2))

/-- A loop that gathers items round by round gathers what the reader reads. -/
theorem walkLoop_gathers {round : List α → Machine Nat (List α ⊕ List α)}
    {close : List α → Machine Nat (List α)} {read : List Token → Except SyntaxError (List α × List Token)}
    {ready : List Token → Prop}
    (each : ∀ rest index, StandsAt tokens rest index → ready rest →
      Gathers tokens round close read ready rest index)
    (items : List α) (stands : StandsAt tokens rest index) (begins : ready rest) :
    SameStep tokens ((walkLoop tokens round items >>= close) index)
      (read rest >>= fun others => .ok (items ++ others.1, others.2)) := by
  unfold walkLoop
  -- the tokens that are left are the measure of the loop too, so what makes the reader end makes the loop end
  induction length : rest.length using Nat.strong_induction_on generalizing rest index items with
  | _ n ih =>
    subst length
    cases each rest index stands begins with
    | leaves ran closed further all =>
      rw [Machine.bind_of_ok (loop_leaves (ran items)), closed, all, ok_bind, List.append_nil]
      exact .ok further
    | @goes item result start ran same shorter further =>
      generalize outcome : item start = found at same
      rw [further]
      cases same with
      | error =>
        have failed : round items index = .error _ := (ran items).trans (Machine.bind_of_error outcome)
        rw [Machine.bind_of_error (loop_fails failed)]
        exact .error
      | @ok value later left after =>
        have goes : round items index = .ok (.inl (items ++ [value]), later) :=
          (ran items).trans (Machine.bind_of_ok outcome)
        obtain ⟨less, again⟩ := shorter value left rfl
        have taken := ih left.length less (items ++ [value]) after again rfl
        rw [Machine.bind_congr (loop_again goes (stands.less after less)) close, ok_bind]
        cases others : read left with
        | error error => simpa [others] using taken
        | ok others => simpa [others] using taken

theorem commaRound_gathers {reader : Reader α} {item : Machine Nat α} (each : Walks tokens item reader.read)
    (stands : StandsAt tokens rest index) :
    Gathers tokens (commaRound tokens item) pure reader.more (fun _ => True) rest index := by
  obtain ⟨⟨symbol, position⟩, left, rfl⟩ := stands.exists_cons
  cases symbol with
  | comma =>
    refine .goes (fun items => ?_) (each _ _ (stands.next (by simp))) ?_ (Reader.more_cons reader _ left)
    · unfold commaRound
      rw [matched stands (by simp [Symbol.kind]), Machine.bind_of_ok (stepToken_run stands (by simp))]
    · intro value later read
      exact ⟨Nat.lt_succ_of_lt (reader.shorter read), trivial⟩
  | _ =>
    refine .leaves (fun items => ?_) (fun _ => rfl) stands (Reader.more_cons reader _ left)
    unfold commaRound
    rw [unmatched stands (by simp [Symbol.kind])]
    rfl

theorem walkLoop_walks {round : List α → Machine Nat (List α ⊕ List α)}
    {close : List α → Machine Nat (List α)} {read : List Token → Except SyntaxError (List α × List Token)}
    (each : ∀ rest index, StandsAt tokens rest index →
      Gathers tokens round close read (fun _ => True) rest index) :
    Walks tokens (walkLoop tokens round [] >>= close) read := by
  intro rest index stands
  have gathered := walkLoop_gathers (fun rest index stands _ => each rest index stands) [] stands trivial
  cases same : read rest with
  | error error => simpa [same] using gathered
  | ok result => simpa [same] using gathered

/-! ### Lists -/

theorem parseSeparated_walks {reader : Reader α} {item : Machine Nat α}
    (each : Walks tokens item reader.read) :
    Walks tokens (parseSeparated tokens item) reader.separated.read := by
  intro rest index stands
  apply (each rest index stands).bind
  intro first left later read further
  have others := walkLoop_gathers (fun _ _ stands _ => commaRound_gathers each stands) [first] further trivial
  rwa [bind_pure] at others

theorem parseParenthesized_walks {reader : Reader α} {item : Machine Nat α}
    (each : Walks tokens item reader.read) :
    Walks tokens (parseParenthesized tokens item) (readParenthesized reader) := by
  intro rest index stands
  obtain ⟨⟨symbol, position⟩, left, rfl⟩ := stands.exists_cons
  unfold parseParenthesized
  cases symbol with
  | openParen =>
    have inside := stands.next (by simp)
    obtain ⟨⟨symbol, place⟩, after, rfl⟩ := inside.exists_cons
    rw [matched stands (by simp [Symbol.kind]), Machine.bind_of_ok (stepToken_run stands (by simp))]
    have items : SameStep tokens
        ((do
          let items ← parseSeparated tokens item
          let _ ← takeKind tokens .closeParen
          return some items) (index + 1))
        (reader.separated.read (⟨symbol, place⟩ :: after) >>= fun read =>
          expect .closeParen read.2 >>= fun last => .ok (some read.1, last)) := by
      apply (parseSeparated_walks each _ _ inside).bind
      intro items later behind _ further
      exact takeKind_bind .closeParen (by simp) further fun _ _ _ _ last => .ok last
    cases symbol with
    | closeParen =>
      have closed : takeKind tokens .closeParen (index + 1) = .ok (⟨.closeParen, place⟩, index + 1 + 1) :=
        takeKind_run inside rfl (by simp)
      rw [matched inside (by simp [Symbol.kind]), Machine.bind_of_ok closed]
      exact .ok (inside.next (by simp))
    | _ =>
      -- anything else has to begin an item, the end of the text too
      rw [unmatched inside (by simp [Symbol.kind])]
      simpa [readParenthesized, Reader.untilClosed, current] using items
  | _ =>
    rw [unmatched stands (by simp [Symbol.kind])]
    exact .ok stands

/-! ### Attributes -/

theorem parseType_walks : Walks tokens (parseType tokens) typeReader.read := by
  intro rest index stands
  exact takeIdentifier_bind stands fun token left later further => .ok further

theorem parseLiteral_walks : Walks tokens (parseLiteral tokens) readLiteral := by
  intro rest index stands
  obtain ⟨⟨symbol, position⟩, left, rfl⟩ := stands.exists_cons
  unfold parseLiteral
  rw [Machine.bind_of_ok (currentToken_run stands)]
  cases symbol with
  | string value =>
    rw [matched stands (by simp [Symbol.kind]), Machine.bind_of_ok (stepToken_run stands (by simp))]
    exact .ok (stands.next (by simp))
  | placeholder label =>
    rw [unmatched stands (by simp [Symbol.kind]), matched stands (by simp [Symbol.kind]),
      Machine.bind_of_ok (stepToken_run stands (by simp))]
    exact .ok (stands.next (by simp))
  | minus =>
    rw [unmatched stands (by simp [Symbol.kind]), unmatched stands (by simp [Symbol.kind]),
      matched stands (by simp [Symbol.kind]), Machine.bind_of_ok (stepToken_run stands (by simp))]
    have behind := stands.next (by simp)
    obtain ⟨⟨symbol, place⟩, after, rfl⟩ := behind.exists_cons
    cases symbol with
    | number digits =>
      have taken : takeKind tokens .number (index + 1) = .ok (⟨.number digits, place⟩, index + 1 + 1) :=
        takeKind_run behind rfl (by simp)
      rw [Machine.bind_of_ok taken]
      exact .ok (behind.next (by simp))
    | _ =>
      rw [Machine.bind_of_error (takeKind_run_other behind (by simp [Symbol.kind]))]
      exact .error
  | number digits =>
    rw [unmatched stands (by simp [Symbol.kind]), unmatched stands (by simp [Symbol.kind]),
      unmatched stands (by simp [Symbol.kind]), matched stands (by simp [Symbol.kind]),
      Machine.bind_of_ok (stepToken_run stands (by simp))]
    exact .ok (stands.next (by simp))
  | _ =>
    rw [unmatched stands (by simp [Symbol.kind]), unmatched stands (by simp [Symbol.kind]),
      unmatched stands (by simp [Symbol.kind]), unmatched stands (by simp [Symbol.kind])]
    exact .error

theorem parseLabel_run (mark : Symbol)
    (bare : mark ∈ [.closeBracket, .closeParen, .colon, .newline, .equals])
    (stands : StandsAt tokens rest index) :
    ∃ later, parseLabel tokens mark.kind index = .ok ((readLabelBefore mark rest).1, later) ∧
      StandsAt tokens (readLabelBefore mark rest).2 later := by
  obtain ⟨⟨symbol, position⟩, left, rfl⟩ := stands.exists_cons
  unfold parseLabel
  cases symbol with
  | identifier label =>
    obtain ⟨next, after, rfl⟩ := (stands.next (by simp)).exists_cons
    obtain ⟨inner, same⟩ := Symbol.kind_eq_iff bare
    rw [matched stands (by simp [Symbol.kind]), Machine.bind_of_ok (peekToken_run stands)]
    by_cases found : next.symbol = mark
    · have marked := stands.next (by simp)
      have more : next.symbol ≠ .eof := found ▸ inner
      have read : readLabelBefore mark (⟨.identifier label, position⟩ :: next :: after) = (some label, after) :=
        if_pos found
      rw [if_pos ((same _).mpr found), Machine.bind_of_ok (stepToken_run stands (by simp)),
        Machine.bind_of_ok (stepToken_run marked more), read]
      exact ⟨_, rfl, marked.next more⟩
    · have read : readLabelBefore mark (⟨.identifier label, position⟩ :: next :: after) =
          (none, ⟨.identifier label, position⟩ :: next :: after) := if_neg found
      rw [if_neg (mt (same _).mp found), read]
      exact ⟨index, rfl, stands⟩
  | _ =>
    rw [unmatched stands (by simp [Symbol.kind])]
    exact ⟨index, rfl, stands⟩

theorem parseArgument_walks : Walks tokens (parseArgument tokens) argumentReader.read := by
  intro rest index stands
  obtain ⟨token, left, rfl⟩ := stands.exists_cons
  obtain ⟨later, (labelled : parseLabel tokens .equals index = _), further⟩ :=
    parseLabel_run .equals (by simp) stands
  unfold parseArgument
  rw [Machine.bind_of_ok (currentToken_run stands), Machine.bind_of_ok labelled]
  exact (parseLiteral_walks _ _ further).bind fun _ _ _ _ last => .ok last

theorem parseTypeArguments_walks : Walks tokens (parseTypeArguments tokens) readTypeArguments := by
  intro rest index stands
  obtain ⟨⟨symbol, position⟩, left, rfl⟩ := stands.exists_cons
  unfold parseTypeArguments
  cases symbol with
  | openBracket =>
    rw [matched stands (by simp [Symbol.kind]), Machine.bind_of_ok (stepToken_run stands (by simp))]
    apply (parseSeparated_walks parseType_walks _ _ (stands.next (by simp))).bind
    intro types after later _ further
    exact takeKind_bind .closeBracket (by simp) further fun _ _ _ _ last => .ok last
  | _ =>
    rw [unmatched stands (by simp [Symbol.kind])]
    exact .ok stands

theorem parseAttribute_same {position : Position} {left : List Token}
    (stands : StandsAt tokens (⟨.atSign, position⟩ :: left) index) :
    SameStep tokens (parseAttribute tokens index) (readAttribute position left) := by
  have sign : takeKind tokens .atSign index = .ok (⟨.atSign, position⟩, index + 1) :=
    takeKind_run stands rfl (by simp)
  unfold parseAttribute
  rw [Machine.bind_of_ok sign]
  apply takeIdentifier_bind (stands.next (by simp))
  intro name behind later further
  apply (parseTypeArguments_walks _ _ further).bind
  intro types behind later _ further
  exact (parseParenthesized_walks parseArgument_walks _ _ further).bind fun _ _ _ _ last => .ok last

theorem attributeRound_gathers (stands : StandsAt tokens rest index) :
    Gathers tokens (attributeRound tokens) pure readAttributes (fun _ => True) rest index := by
  obtain ⟨⟨symbol, position⟩, left, rfl⟩ := stands.exists_cons
  cases symbol with
  | atSign =>
    refine .goes (fun items => ?_) (parseAttribute_same stands).skipping ?_ ?_
    · unfold attributeRound
      rw [matched stands (by simp [Symbol.kind])]
      simp only [bind_assoc, pure_bind]
    · intro attr behind read
      obtain ⟨⟨_, after⟩, found, same⟩ := bind_eq_ok_iff.mp read
      cases same
      have skipped := length_skipNewlines_le after
      have shorter := readAttribute_shorter found
      exact ⟨Nat.lt_succ_of_lt (Nat.lt_of_le_of_lt skipped shorter), trivial⟩
    · rw [readAttributes_cons]
      simp only [bind_assoc, ok_bind, pure_eq_ok]
  | _ =>
    refine .leaves (fun items => ?_) (fun _ => rfl) stands (readAttributes_none (by simp [current]))
    unfold attributeRound
    rw [unmatched stands (by simp [Symbol.kind])]
    rfl

theorem parseAttributes_walks : Walks tokens (parseAttributes tokens) readAttributes := by
  intro rest index stands
  have gathered := walkLoop_walks (fun _ _ => attributeRound_gathers) rest index stands
  rwa [bind_pure] at gathered

/-! ### Declarations -/

theorem parseParameter_walks : Walks tokens (parseParameter tokens) parameterReader.read := by
  intro rest index stands
  obtain ⟨token, left, rfl⟩ := stands.exists_cons
  obtain ⟨later, (labelled : parseLabel tokens .colon index = _), further⟩ :=
    parseLabel_run .colon (by simp) stands
  unfold parseParameter
  rw [Machine.bind_of_ok (currentToken_run stands), Machine.bind_of_ok labelled]
  exact (parseType_walks _ _ further).bind fun _ _ _ _ last => .ok last

theorem parseVariant_walks : Walks tokens (parseVariant tokens) variantReader.read := by
  intro rest index stands
  apply takeIdentifier_bind stands
  intro name left later further
  exact (parseParenthesized_walks parseParameter_walks _ _ further).bind fun _ _ _ _ last => .ok last

theorem parseCaseLine_walks : Walks tokens (parseCaseLine tokens) caseLineReader.read := by
  intro rest index stands
  obtain ⟨token, left, rfl⟩ := stands.exists_cons
  unfold parseCaseLine
  rw [Machine.bind_of_ok (currentToken_run stands)]
  apply (parseAttributes_walks _ _ stands).bind
  intro attributes after later _ further
  apply (parseSeparated_walks parseVariant_walks _ _ further).bind
  intro variants behind last _ ending
  obtain ⟨⟨symbol, position⟩, front, rfl⟩ := ending.exists_cons
  have line : SameStep tokens
      ((do skipLines tokens; return (⟨attributes, variants, token.position⟩ : CaseLine Position)) last)
      (.ok (⟨attributes, variants, token.position⟩, skipNewlines (⟨symbol, position⟩ :: front))) := by
    obtain ⟨next, skipped, behind⟩ := skipLines_run ending
    rw [Machine.bind_of_ok skipped]
    exact .ok behind
  cases symbol with
  | newline | dedent | eof =>
    rw [matched ending (by simp [Symbol.kind])]
    exact line
  | _ =>
    rw [unmatched ending (by simp [Symbol.kind]), Machine.bind_of_ok (currentToken_run ending)]
    exact .error

theorem Symbol.kind_mem_ends {symbol : Symbol} :
    symbol.kind ∈ [SymbolKind.dedent, .eof] ↔ symbol.endsBlock = true := by
  cases symbol <;> simp [kind, endsBlock]

theorem closeLines_run (stands : StandsAt tokens (skipNewlines rest) index)
    (ends : (current (skipNewlines rest)).symbol.endsBlock = true) :
    ∃ left last, (∀ lines, closeLines tokens lines index = .ok (lines, last)) ∧ StandsAt tokens left last ∧
      readCaseLines rest = .ok ([], left) := by
  rw [readCaseLines, if_pos ends]
  generalize skipNewlines rest = front at stands ends
  obtain ⟨⟨symbol, position⟩, left, rfl⟩ := stands.exists_cons
  unfold closeLines
  cases symbol with
  | dedent =>
    refine ⟨left, index + 1, fun lines => ?_, stands.next (by simp), rfl⟩
    rw [matched stands (by simp [Symbol.kind]), Machine.bind_of_ok (stepToken_run stands (by simp))]
    rfl
  | eof =>
    refine ⟨_, index, fun lines => ?_, stands, rfl⟩
    rw [unmatched stands (by simp [Symbol.kind])]
    rfl
  | _ => cases ends

theorem caseLineRound_gathers (stands : StandsAt tokens rest index) :
    Gathers tokens (caseLineRound tokens) (closeLines tokens) readCaseLines (fun _ => True) rest index := by
  obtain ⟨token, left, rfl⟩ := stands.exists_cons
  -- the end of the block is looked for twice in a round, in front of the line ends and behind them
  by_cases ends : token.symbol.endsBlock = true
  · have visible : skipNewlines (token :: left) = token :: left := by
      apply skipNewlines_of_current
      rintro (newline : token.symbol = .newline)
      rw [newline] at ends
      cases ends
    obtain ⟨behind, last, closed, further, all⟩ :=
      closeLines_run (visible.symm ▸ stands) (visible.symm ▸ ends)
    refine .leaves (fun lines => ?_) closed further all
    unfold caseLineRound
    rw [matched stands (Symbol.kind_mem_ends.mpr ends)]
    rfl
  · obtain ⟨later, skipped, behind⟩ := skipLines_run stands
    obtain ⟨next, after, front⟩ := behind.exists_cons
    have here := behind
    rw [front] at here
    by_cases last : next.symbol.endsBlock = true
    · obtain ⟨left, final, closed, further, all⟩ := closeLines_run behind (by rw [front]; exact last)
      refine .leaves (fun lines => ?_) closed further all
      unfold caseLineRound
      rw [unmatched stands (mt Symbol.kind_mem_ends.mp ends), Machine.bind_of_ok skipped,
        matched here (Symbol.kind_mem_ends.mpr last)]
      rfl
    · refine .goes (fun lines => ?_) (parseCaseLine_walks _ _ behind) ?_ ?_
      · unfold caseLineRound
        rw [unmatched stands (mt Symbol.kind_mem_ends.mp ends), Machine.bind_of_ok skipped,
          unmatched here (mt Symbol.kind_mem_ends.mp last)]
      · intro line left read
        exact ⟨Nat.lt_of_lt_of_le (caseLineReader.shorter read) (length_skipNewlines_le _), trivial⟩
      · apply readCaseLines_more
        rw [front]
        exact Bool.eq_false_iff.mpr last

theorem parseCaseLines_walks : Walks tokens (parseCaseLines tokens) readCaseLines :=
  walkLoop_walks fun _ _ => caseLineRound_gathers

theorem skipDepth_run (depth : Nat) (stands : StandsAt tokens rest index) :
    ∃ later, skipDepth tokens depth index = .ok ((), later) ∧
      StandsAt tokens (skipBlock depth rest) later := by
  unfold skipDepth walkLoop
  induction rest generalizing depth index with
  | nil => obtain ⟨_, _, none⟩ := stands.exists_cons; cases none
  | cons token left ih =>
    cases depth with
    | zero => exact ⟨index, loop_leaves rfl, stands⟩
    | succ depth =>
      obtain ⟨symbol, position⟩ := token
      -- every token but the end of the text is stepped over; only the new depth differs
      have again (deeper : Nat) (more : symbol ≠ .eof)
          (goes : blockRound tokens (depth + 1) index = .ok (.inl deeper, index + 1)) :
          ∃ later, loop (tokens.length - ·) (blockRound tokens) (depth + 1) index = .ok ((), later) ∧
            StandsAt tokens (skipBlock deeper left) later := by
        obtain ⟨later, ran, further⟩ := ih deeper (stands.next more)
        refine ⟨later, ?_, further⟩
        rw [loop_again goes (stands.less (stands.next more) (Nat.lt_succ_self _)), ran]
      cases symbol with
      | eof =>
        refine ⟨index, loop_leaves ?_, stands⟩
        unfold blockRound
        rw [if_pos (Nat.succ_pos depth), matched stands (by simp [Symbol.kind])]
        rfl
      | indent =>
        apply again (depth + 2) (by simp)
        unfold blockRound
        rw [if_pos (Nat.succ_pos depth), unmatched stands (by simp [Symbol.kind]),
          Machine.bind_of_ok (stepToken_run stands (by simp))]
        rfl
      | dedent =>
        apply again depth (by simp)
        unfold blockRound
        rw [if_pos (Nat.succ_pos depth), unmatched stands (by simp [Symbol.kind]),
          Machine.bind_of_ok (stepToken_run stands (by simp))]
        rfl
      | _ =>
        apply again (depth + 1) (by simp)
        unfold blockRound
        rw [if_pos (Nat.succ_pos depth), unmatched stands (by simp [Symbol.kind]),
          Machine.bind_of_ok (stepToken_run stands (by simp))]
        rfl

theorem parseBlock_walks (kind : DeclKind) : Walks tokens (parseBlock tokens kind) (readBlock kind) := by
  intro rest index stands
  obtain ⟨⟨symbol, position⟩, left, rfl⟩ := stands.exists_cons
  unfold parseBlock
  cases symbol with
  | indent =>
    rw [matched stands (by simp [Symbol.kind]), Machine.bind_of_ok (stepToken_run stands (by simp))]
    have inside := stands.next (by simp)
    by_cases enum : kind = .enumKind
    · rw [if_pos enum, readBlock, if_pos enum]
      exact parseCaseLines_walks _ _ inside
    · obtain ⟨later, left, behind⟩ := skipDepth_run 1 inside
      rw [if_neg enum, readBlock, if_neg enum, Machine.bind_of_ok left]
      exact .ok behind
  | _ =>
    rw [unmatched stands (by simp [Symbol.kind])]
    exact .ok stands

theorem parseDeclaration_walks : Walks tokens (parseDeclaration tokens) declarationReader.read := by
  intro rest index stands
  apply (parseAttributes_walks _ _ stands).bind
  intro attributes left index _ stands
  obtain ⟨⟨symbol, position⟩, left, rfl⟩ := stands.exists_cons
  rw [Machine.bind_of_ok (currentToken_run stands)]
  cases symbol with
  | keyword kind =>
    have listed : (⟨.keyword kind, position⟩ : Token).symbol.kind ∈ declarationKeywords.map Prod.fst := by
      cases kind <;> simp [Symbol.kind, declarationKeywords]
    have found (index : Nat) :
        keywordKind (⟨.keyword kind, position⟩ : Token).symbol.kind index = .ok (kind, index) := by
      cases kind <;> rfl
    rw [if_pos listed, Machine.bind_of_ok (stepToken_run stands (by simp)), Machine.bind_of_ok (found _)]
    apply takeIdentifier_bind (stands.next (by simp))
    intro name left index named
    apply takeKind_bind .colon (by simp) named
    intro _ left index _ marked
    apply takeKind_bind .newline (by simp) marked
    intro _ left index _ ended
    obtain ⟨index, skipped, body⟩ := skipLines_run ended
    obtain ⟨first, after, front⟩ := body.exists_cons
    rw [Machine.bind_of_ok skipped]
    rw [front] at body ⊢
    rw [Machine.bind_of_ok (currentToken_run body)]
    exact (parseBlock_walks kind _ _ body).bind fun _ _ _ _ last => .ok last
  | _ =>
    rw [if_neg (by simp [Symbol.kind, declarationKeywords])]
    exact .error

/-- Where the file has ended all but its last token has been taken. -/
theorem StandsAt.drop_last {token : Token} (stands : StandsAt tokens [token] index) :
    tokens.drop (tokens.length - 1) = [token] := by
  have size := stands.length
  rw [List.length_singleton] at size
  rw [← stands.here]
  congr 1
  omega

theorem declarationRound_gathers (stands : StandsAt tokens rest index)
    (visible : (current rest).symbol ≠ .newline) :
    Gathers tokens (declarationRound tokens) pure
      (fun rest => readDeclarations rest >>= fun declarations =>
        .ok (declarations, tokens.drop (tokens.length - 1)))
      (fun rest => (current rest).symbol ≠ .newline) rest index := by
  have settled := skipNewlines_of_current visible
  obtain ⟨token, left, rfl⟩ := stands.exists_cons
  by_cases last : token.symbol = .eof
  · obtain rfl := stands.last last
    refine .leaves (fun declarations => ?_) (fun _ => rfl) stands ?_
    · unfold declarationRound
      rw [matched stands (by simp [last, Symbol.kind])]
      rfl
    · have none : readDeclarations [token] = .ok [] := by
        rw [readDeclarations, settled]
        exact if_pos last
      rw [none, stands.drop_last]
      rfl
  · refine .goes (fun declarations => ?_) (parseDeclaration_walks _ _ stands).skipping ?_ ?_
    · unfold declarationRound
      rw [unmatched stands (by simpa [Symbol.kind_eq_eof_iff] using last)]
      simp only [bind_assoc, pure_bind]
    · intro declaration behind read
      obtain ⟨⟨_, after⟩, found, same⟩ := bind_eq_ok_iff.mp read
      cases same
      have shorter := declarationReader.shorter found
      obtain ⟨-, -, -, ready⟩ := exists_newlines after
      exact ⟨Nat.lt_of_le_of_lt (length_skipNewlines_le after) shorter, ready⟩
    · rw [readDeclarations_more (by rw [settled]; exact last), settled]
      simp only [bind_assoc, ok_bind, pure_eq_ok, readDeclarations_skipNewlines]

theorem SameStep.outcome {walked : Except Failure (α × Nat)} {result : Except SyntaxError (α × List Token)}
    (same : SameStep tokens walked result) :
    walked.map Prod.fst = (result.map Prod.fst).mapError .rejected := by
  cases same with
  | ok _ => rfl
  | error => rfl

theorem parseDeclarations_run (stands : StandsAt tokens rest index) :
    (parseDeclarations tokens index).map Prod.fst = (readDeclarations rest).mapError .rejected := by
  obtain ⟨later, skipped, further⟩ := skipLines_run stands
  obtain ⟨-, -, -, visible⟩ := exists_newlines rest
  have gathered := (walkLoop_gathers (fun _ _ => declarationRound_gathers) [] further visible).outcome
  unfold parseDeclarations
  rw [bind_pure, readDeclarations_skipNewlines] at gathered
  rw [Machine.bind_of_ok skipped, gathered]
  cases readDeclarations rest with
  | error error => rfl
  | ok declarations => rfl

end

theorem standsAt_of_scan {source : String} {tokens : List Token} (scanned : scan source = .ok tokens) :
    StandsAt tokens tokens 0 where
  here := List.drop_zero
  ends := ScanState.run_ends scanned

/-- Parsing always ends, with the declarations that the text writes or with the error that it is rejected
with. No round of a loop takes nothing and goes on, nothing is looked up that is not there, and the stack of
levels is never empty where its top is asked for. -/
theorem parsing_ends (source : String) :
    (∃ declarations, parse source = .ok declarations ∧ parseText source = .ok declarations) ∨
      ∃ error, parse source = .error error ∧ parseText source = .error (.rejected error) := by
  unfold parse parseText
  rw [tokenize_eq]
  cases scanned : scan source with
  | error error => exact .inr ⟨error, rfl, rfl⟩
  | ok tokens =>
    have walked := parseDeclarations_run (standsAt_of_scan scanned)
    cases read : readDeclarations tokens with
    | error error => exact .inr ⟨error, read, walked.trans (by rw [read]; rfl)⟩
    | ok declarations => exact .inl ⟨declarations, read, walked.trans (by rw [read]; rfl)⟩

end RawMapping
