import RawMapping.Token.Scan

/-! Readers take one construct off the front of a token list, and at least one token with it. That
is enough for every repetition of a reader to end. A list that has run out reads as its end. -/

set_option autoImplicit false

namespace RawMapping

variable {α : Type}

/-- A reader gives the construct and the tokens left. -/
structure Reader (α : Type) where
  read : List Token → Except SyntaxError (α × List Token)
  shorter : ∀ {tokens rest : List Token} {value : α},
    read tokens = .ok (value, rest) → rest.length < tokens.length

def current (tokens : List Token) : Token :=
  tokens.headD ⟨.eof, .start⟩

/-- Reports a fault at the token at the front. -/
def reject (fault : Symbol → Fault) (tokens : List Token) : Except SyntaxError α :=
  .error ⟨fault (current tokens).symbol, (current tokens).position⟩

def expect (symbol : Symbol) (tokens : List Token) : Except SyntaxError (List Token) :=
  match tokens with
  | token :: rest => if token.symbol = symbol then .ok rest else reject (.expected symbol.kind) tokens
  | [] => reject (.expected symbol.kind) tokens

def skipNewlines (tokens : List Token) : List Token :=
  tokens.dropWhile (·.symbol == .newline)

theorem length_skipNewlines_le (tokens : List Token) :
    (skipNewlines tokens).length ≤ tokens.length :=
  (List.dropWhile_sublist _).length_le

theorem expect_shorter {symbol : Symbol} {tokens rest : List Token}
    (h : expect symbol tokens = .ok rest) : rest.length < tokens.length := by
  unfold expect at h
  split at h
  · split at h
    · cases h; simp
    · cases h
  · cases h

/-- Further items, each after a comma. -/
def Reader.more (reader : Reader α) : List Token → Except SyntaxError (List α × List Token)
  | [] => .ok ([], [])
  | token :: rest =>
    if token.symbol = .comma then
      match _h : reader.read rest with
      | .error error => .error error
      | .ok (item, left) =>
        match reader.more left with
        | .error error => .error error
        | .ok (items, last) => .ok (item :: items, last)
    else .ok ([], token :: rest)
termination_by tokens => tokens.length
decreasing_by have := reader.shorter ‹_›; simp; omega

theorem Reader.more_length_le (reader : Reader α) {tokens rest : List Token} {items : List α}
    (h : reader.more tokens = .ok (items, rest)) : rest.length ≤ tokens.length := by
  fun_induction Reader.more reader tokens generalizing items rest with
  | case1 => cases h; simp
  | case2 => cases h
  | case3 => cases h
  | case4 token rest' _ item left hread items' last hmore ih =>
    cases h
    have := reader.shorter hread
    have := ih hmore
    simp
    omega
  | case5 => cases h; simp

/-- One item and further items, each after a comma. -/
def Reader.separated (reader : Reader α) : Reader (List α) where
  read tokens := do
    let (first, rest) ← reader.read tokens
    let (others, left) ← reader.more rest
    return (first :: others, left)
  shorter {tokens left items} h := by
    cases hf : reader.read tokens with
    | error e => simp [hf, bind, Except.bind] at h
    | ok first =>
      obtain ⟨item, rest⟩ := first
      cases hm : reader.more rest with
      | error e => simp [hf, hm, bind, Except.bind] at h
      | ok others =>
        simp only [hf, hm, bind, Except.bind, pure, Except.pure, Except.ok.injEq, Prod.mk.injEq] at h
        obtain ⟨-, rfl⟩ := h
        exact Nat.lt_of_le_of_lt (reader.more_length_le hm) (reader.shorter hf)

def Reader.untilClosed (reader : Reader α) (close : Symbol) (tokens : List Token) :
    Except SyntaxError (List α × List Token) :=
  if (current tokens).symbol = close then
    (expect close tokens).map fun rest => ([], rest)
  else do
    let (items, rest) ← reader.separated.read tokens
    let left ← expect close rest
    return (items, left)

theorem Reader.untilClosed_shorter (reader : Reader α) {close : Symbol} {tokens rest : List Token}
    {items : List α} (h : reader.untilClosed close tokens = .ok (items, rest)) :
    rest.length < tokens.length := by
  unfold Reader.untilClosed at h
  split at h
  · cases he : expect close tokens with
    | error e => simp [he, Except.map] at h
    | ok left =>
      simp only [he, Except.map, Except.ok.injEq, Prod.mk.injEq] at h
      obtain ⟨-, rfl⟩ := h
      exact expect_shorter he
  · cases hs : reader.separated.read tokens with
    | error e => simp [hs, bind, Except.bind] at h
    | ok read =>
      cases he : expect close read.2 with
      | error e => simp [hs, he, bind, Except.bind] at h
      | ok left =>
        simp only [hs, he, bind, Except.bind, pure, Except.pure, Except.ok.injEq, Prod.mk.injEq] at h
        obtain ⟨-, rfl⟩ := h
        exact Nat.lt_trans (expect_shorter he) (reader.separated.shorter hs)

def readIdentifier (tokens : List Token) : Except SyntaxError ((String × Position) × List Token) :=
  match tokens with
  | ⟨.identifier name, position⟩ :: rest => .ok ((name, position), rest)
  | _ => reject (.expected .identifier) tokens

theorem readIdentifier_shorter {tokens rest : List Token} {word : String × Position}
    (h : readIdentifier tokens = .ok (word, rest)) : rest.length < tokens.length := by
  unfold readIdentifier at h
  split at h
  · cases h; simp
  · cases h

end RawMapping
