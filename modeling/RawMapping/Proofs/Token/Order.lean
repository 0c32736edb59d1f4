import RawMapping.Proofs.Token.Pieces

/-! The order of tokens. Positions in a text grow with the text in front of them, so the tokens that spell a
text stand one behind the other, each where the text spells its symbol. -/

set_option autoImplicit false

namespace RawMapping

/-! ### The order of positions -/

def Position.Before (first second : Position) : Prop :=
  first.line < second.line ∨ first.line = second.line ∧ first.column < second.column

theorem Position.Before.trans {first second third : Position} (left : first.Before second)
    (right : second.Before third) : first.Before third := by
  unfold Before at left right ⊢
  omega

theorem Position.before_next (position : Position) (c : Char) : position.Before (position.next c) := by
  unfold next
  split
  · exact .inl (Nat.lt_succ_self _)
  · exact .inr ⟨rfl, Nat.lt_succ_self _⟩

theorem Position.before_after (position : Position) {piece : List Char} (some : piece ≠ []) :
    position.Before (position.after piece) := by
  induction piece generalizing position with
  | nil => exact absurd rfl some
  | cons c piece ih =>
    rw [after_cons]
    by_cases last : piece = []
    · rw [last]
      exact position.before_next c
    · exact (position.before_next c).trans (ih (position.next c) last)

theorem positionBehind_before (before : List Char) {piece : List Char} (some : piece ≠ []) :
    (positionBehind before).Before (positionBehind (before ++ piece)) := by
  rw [← positionBehind_after]
  exact Position.before_after _ some

def Rising (positions : List Position) : Prop :=
  positions.Pairwise Position.Before

theorem Rising.sublist {some all : List Position} (rising : Rising all) (part : some.Sublist all) :
    Rising some :=
  List.Pairwise.sublist part rising

/-! ### Where symbols are spelled -/

def SpelledAt (source : List Char) (symbol : Symbol) (position : Position) : Prop :=
  ∃ front written after, source = front ++ written ++ after ∧ position = positionBehind front ∧
    written ≠ [] ∧ symbol.SpelledAs front written after

/-- Tokens that spell a text stand behind what comes before it, one behind the other. -/
theorem Spells.rising {before text : List Char} {tokens : List Token} (spells : Spells before text tokens) :
    Rising (tokens.map (·.position)) ∧
      ∀ token ∈ tokens, ∃ front, token.position = positionBehind (before ++ front) := by
  induction spells with
  | done => exact ⟨List.Pairwise.nil, by simp⟩
  | @piece before gap written after symbol tokens _ some _ _ ih =>
    obtain ⟨rising, behind⟩ := ih
    constructor
    · refine List.pairwise_cons.mpr ⟨fun position member => ?_, rising⟩
      obtain ⟨token, inside, rfl⟩ := List.mem_map.mp member
      obtain ⟨front, place⟩ := behind token inside
      rw [place, List.append_assoc (before ++ gap)]
      exact positionBehind_before _ (by simp [some])
    · intro token member
      rcases List.mem_cons.mp member with rfl | member
      · exact ⟨gap, rfl⟩
      · obtain ⟨front, place⟩ := behind token member
        refine ⟨gap ++ written ++ front, ?_⟩
        simpa only [List.append_assoc] using place

theorem Spells.spelledAt {before text : List Char} {tokens : List Token} (spells : Spells before text tokens) :
    ∀ token ∈ tokens, SpelledAt (before ++ text) token.symbol token.position := by
  induction spells with
  | done => simp
  | @piece before gap written after symbol tokens _ some spelled _ ih =>
    intro token member
    rcases List.mem_cons.mp member with rfl | member
    · exact ⟨before ++ gap, written, after, by simp only [List.append_assoc], rfl, some, spelled⟩
    · simpa only [List.append_assoc] using ih token member

def places (tokens : List Token) : List Position :=
  (tokens.filter (·.symbol.isInner)).map (·.position)

@[simp] theorem places_append (first second : List Token) :
    places (first ++ second) = places first ++ places second := by
  simp [places]

theorem places_cons_sublist (token : Token) (tokens : List Token) :
    (places tokens).Sublist (places (token :: tokens)) :=
  ((List.sublist_cons_self token tokens).filter _).map _

theorem places_sublist {word tokens : List Token} (inside : word <:+: tokens) :
    (places word).Sublist (places tokens) :=
  (inside.sublist.filter _).map _

theorem mem_places {token : Token} {tokens : List Token} (member : token ∈ tokens)
    (inner : token.symbol.isInner = true) : token.position ∈ places tokens :=
  List.mem_map_of_mem (List.mem_filter.mpr ⟨member, inner⟩)

/-- The tokens of a text stand one behind the other, each where the text spells its symbol. -/
theorem scan_places {source : String} {tokens : List Token} (scanned : scan source = .ok tokens) :
    Rising (places tokens) ∧ ∀ token ∈ tokens, token.symbol.isInner = true →
      SpelledAt source.toList token.symbol token.position := by
  obtain ⟨body, ending, rfl, spells, lines, blocks, -, ends⟩ := scan_spells scanned
  have outer : ∀ token ∈ ending, token.symbol.isInner = false := by
    intro token member
    simp only [ends, List.mem_append, List.mem_replicate, List.mem_singleton] at member
    rcases member with (⟨-, rfl⟩ | ⟨-, rfl⟩) | rfl
    · rfl
    · rfl
    · rfl
  -- only the body has symbols that stand inside of lines, and they are spelled
  have none : ending.filter (·.symbol.isInner) = [] :=
    List.filter_eq_nil_iff.mpr fun token member => by simp [outer token member]
  have spelled : body.filter (·.symbol.isInner) =
      (body.filter (·.symbol.isSpelled)).filter (·.symbol.isInner) := by
    rw [List.filter_filter]
    apply List.filter_congr
    intro token _
    cases inner : token.symbol.isInner with
    | false => rfl
    | true => simp [Symbol.isSpelled_of_isInner inner]
  constructor
  · apply spells.rising.1.sublist
    rw [places, List.filter_append, none, List.append_nil, spelled]
    exact List.filter_sublist.map _
  · intro token member inner
    rcases List.mem_append.mp member with member | member
    · exact spells.spelledAt token
        (List.mem_filter.mpr ⟨member, Symbol.isSpelled_of_isInner inner⟩)
    · rw [outer token member] at inner
      cases inner

end RawMapping
