/-! Computations that may fail, and searches. A sequence of steps succeeds exactly if each step does; a
search ends at the first hit. -/

set_option autoImplicit false

namespace RawMapping

variable {ε α β : Type}

@[simp] theorem ok_bind (value : α) (next : α → Except ε β) : (Except.ok value >>= next) = next value :=
  rfl

@[simp] theorem error_bind (error : ε) (next : α → Except ε β) :
    (Except.error error >>= next) = .error error :=
  rfl

@[simp] theorem pure_eq_ok (value : α) : (pure value : Except ε α) = .ok value :=
  rfl

theorem bind_eq_ok_iff {first : Except ε α} {next : α → Except ε β} {result : β} :
    (first >>= next) = .ok result ↔ ∃ value, first = .ok value ∧ next value = .ok result := by
  cases first with
  | error error => simp
  | ok value => simp

theorem map_eq_ok_iff {first : Except ε α} {f : α → β} {result : β} :
    first.map f = .ok result ↔ ∃ value, first = .ok value ∧ f value = result := by
  cases first with
  | error error => simp [Except.map]
  | ok value => simp [Except.map]

theorem mapError_eq_ok_iff {ε' : Type} {first : Except ε α} {f : ε → ε'} {result : α} :
    first.mapError f = .ok result ↔ first = .ok result := by
  cases first with
  | error error => exact ⟨nofun, nofun⟩
  | ok value =>
    constructor
    · intro same; cases same; rfl
    · intro same; cases same; rfl

theorem toOption_eq_some_iff {result : Except ε α} {value : α} :
    result.toOption = some value ↔ result = .ok value := by
  cases result with
  | error error => simp [Except.toOption]
  | ok found => simp [Except.toOption]

theorem exists_first {items : List β} (holds : β → Prop)
    (some : ∃ item ∈ items, holds item) :
    ∃ before item after, items = before ++ item :: after ∧ holds item ∧
      ∀ other ∈ before, ¬ holds other := by
  induction items with
  | nil => simp at some
  | cons first items ih =>
    by_cases here : holds first
    · exact ⟨[], first, items, rfl, here, by simp⟩
    · obtain ⟨item, member, held⟩ := some
      have later : ∃ item ∈ items, holds item := by
        rcases List.mem_cons.mp member with rfl | member
        · exact absurd held here
        · exact ⟨item, member, held⟩
      obtain ⟨before, item, after, rfl, held, none⟩ := ih later
      exact ⟨first :: before, item, after, rfl, held, List.forall_mem_cons.mpr ⟨here, none⟩⟩

end RawMapping
