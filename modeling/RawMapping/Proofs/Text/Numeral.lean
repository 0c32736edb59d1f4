import Mathlib.Data.Nat.Digits.Defs
import RawMapping.Proofs.Declaration.Printable
import RawMapping.Text.Numeral

/-! Which written integers denote an integer, and which of them the same one. A digit need not have a
place value, and a number has many numerals: leading zeros, digits of several scripts, a sign in front
of zero. The canonical numeral leaves all of these out. -/

set_option autoImplicit false

namespace RawMapping.Text

/-! ### Character classes -/

theorem CharSet.contains_eq_false {first second : CharSet} {c : Char}
    (disjoint : ∀ left ∈ first, ∀ right ∈ second, left.2 < right.1 ∨ right.2 < left.1)
    (inside : first.contains c = true) : second.contains c = false := by
  simp only [contains, List.any_eq_true, Bool.and_eq_true, decide_eq_true_eq] at inside
  obtain ⟨left, member, above, below⟩ := inside
  simp only [contains, List.any_eq_false, Bool.and_eq_true, decide_eq_true_eq, not_and]
  intro right other low high
  rcases disjoint left member right other with apart | apart
  · omega
  · omega

theorem isDigit_ascii {c : Char} (digit : c.isDigit = true) : 48 ≤ c.toNat ∧ c.toNat ≤ 57 := by
  simpa [Char.isDigit, UInt32.le_iff_toNat_le] using digit

theorem isBlank_of_isDigit {c : Char} (digit : isDigit c = true) : isBlank c = false := by
  unfold isDigit at digit
  unfold isBlank
  split at digit
  · next ascii =>
    have range := isDigit_ascii digit
    have space : c ≠ ' ' := by
      rintro rfl
      simp at range
    rw [if_pos ascii]
    simp [space]
    omega
  · next ascii =>
    rw [if_neg ascii]
    exact CharSet.contains_eq_false (by decide) digit

theorem decimalValue?_lt {c : Char} {value : Nat} (decimal : decimalValue? c = some value) :
    value < 10 := by
  unfold decimalValue? at decimal
  split at decimal
  · split at decimal
    · next digit =>
      have range := isDigit_ascii digit
      cases decimal
      have zero : '0'.toNat = 48 := rfl
      omega
    · cases decimal
  · obtain ⟨first, found, rfl⟩ := Option.map_eq_some_iff.mp decimal
    have range := List.find?_some found
    simp only [Bool.and_eq_true, decide_eq_true_eq] at range
    omega

/-! ### Reading digits -/

theorem readDigits_cons_of_none {c : Char} (rest : List Char) (bare : decimalValue? c = none) :
    readDigits (c :: rest) = none := by
  rw [readDigits, bare]

theorem readDigits_decimal {digits rest : List Char} (nonempty : digits ≠ [])
    (decimal : ∀ c ∈ digits, (decimalValue? c).isSome = true)
    (stop : ∀ c ∈ rest.head?, decimalValue? c = none ∧ c ≠ '_') :
    readDigits (digits ++ rest) = some (digits.filterMap decimalValue?, rest) := by
  induction digits with
  | nil => exact absurd rfl nonempty
  | cons c digits ih =>
    rw [List.forall_mem_cons] at decimal
    obtain ⟨value, valued⟩ := Option.isSome_iff_exists.mp decimal.1
    rw [List.cons_append, readDigits, valued, List.filterMap_cons_some valued]
    cases digits with
    | nil =>
      cases rest with
      | nil => rfl
      | cons next rest =>
        obtain ⟨bare, other⟩ := stop next (by simp)
        simp [bare, other]
    | cons next digits =>
      have inner := ih (by simp) decimal.2
      have some := decimal.2 next (by simp)
      have other : next ≠ '_' := by
        rintro rfl
        revert some
        decide
      rw [List.cons_append] at inner ⊢
      simp [other, some, inner]

/-! ### Reading integers -/

def isNegative (text : String) : Bool :=
  text.toList.head? == some '-'

def unsigned (text : String) : List Char :=
  if isNegative text then text.toList.tail else text.toList

/-- Every digit has a place value, and there are not too many digits. -/
def IsDecimal (text : String) : Prop :=
  (∀ c ∈ unsigned text, (decimalValue? c).isSome = true) ∧ (unsigned text).length ≤ digitLimit

instance (text : String) : Decidable (IsDecimal text) :=
  decidable_of_iff ((unsigned text).all (fun c => (decimalValue? c).isSome) = true ∧
    (unsigned text).length ≤ digitLimit) (by rw [List.all_eq_true, IsDecimal])

def placeValues (text : String) : List Nat :=
  (unsigned text).filterMap decimalValue?

theorem isInteger_cases {text : String} (integer : IsInteger text) :
    (isNegative text = false ∧ text.toList = unsigned text ∨
      isNegative text = true ∧ text.toList = '-' :: unsigned text) ∧
    unsigned text ≠ [] ∧ ∀ c ∈ unsigned text, isDigit c = true := by
  obtain ⟨digits, ⟨nonempty, inside⟩, rfl | rfl⟩ := integer
  · -- digits alone cannot begin with a minus
    have positive : isNegative text = false := by
      cases chars : text.toList with
      | nil => exact absurd chars nonempty
      | cons c word =>
        have other : c ≠ '-' := by
          rintro rfl
          exact absurd (inside '-' (by simp [chars])) (by decide)
        simp [isNegative, chars, other]
    have same : unsigned text = text.toList := by simp [unsigned, positive]
    rw [same]
    exact ⟨.inl ⟨positive, rfl⟩, nonempty, inside⟩
  · have negative : isNegative ("-" ++ digits) = true := by simp [isNegative]
    have same : unsigned ("-" ++ digits) = digits.toList := by simp [unsigned, negative]
    rw [same]
    exact ⟨.inr ⟨negative, by simp⟩, nonempty, inside⟩

theorem readSign_of_isInteger {text : String} (integer : IsInteger text) :
    readSign (text.toList.dropWhile isBlank) = (isNegative text, unsigned text) := by
  obtain ⟨⟨positive, written⟩ | ⟨negative, written⟩, nonempty, inside⟩ := isInteger_cases integer
  · rw [written, positive]
    cases digits : unsigned text with
    | nil => exact absurd digits nonempty
    | cons c word =>
      have digit : isDigit c = true := inside c (by simp [digits])
      have plain : c ≠ '-' ∧ c ≠ '+' := by
        constructor
        · rintro rfl; revert digit; decide
        · rintro rfl; revert digit; decide
      rw [List.dropWhile_cons_of_neg (by simp [isBlank_of_isDigit digit])]
      simp [readSign, plain]
  · rw [written, negative, List.dropWhile_cons_of_neg (by decide)]
    rfl

theorem length_placeValues {text : String}
    (decimal : ∀ c ∈ unsigned text, (decimalValue? c).isSome = true) :
    (placeValues text).length = (unsigned text).length :=
  List.filterMap_length_eq_length.mpr decimal

def signed (negative : Bool) (value : Nat) : Int :=
  if negative then -value else value

theorem readInteger_of_isDecimal {text : String} (integer : IsInteger text) (decimal : IsDecimal text) :
    readInteger text = .ok (signed (isNegative text) (ofDigits (placeValues text))) := by
  obtain ⟨-, nonempty, -⟩ := isInteger_cases integer
  have digits : readDigits (unsigned text ++ []) = some (placeValues text, []) :=
    readDigits_decimal nonempty decimal.1 (by simp)
  rw [List.append_nil] at digits
  have short : ¬ digitLimit < (placeValues text).length := by
    rw [length_placeValues decimal.1]
    exact Nat.not_lt.mpr decimal.2
  rw [readInteger, readSign_of_isInteger integer]
  simp only [digits]
  rw [if_neg short]
  rfl

/-- A digit without place value is not read over. -/
theorem decimal_of_readInteger {text : String} (integer : IsInteger text) {value : Int}
    (read : readInteger text = .ok value) : ∀ c ∈ unsigned text, (decimalValue? c).isSome = true := by
  by_contra failed
  simp only [not_forall] at failed
  obtain ⟨c, member, bare⟩ := failed
  obtain ⟨before, bad, after, split, bare, decimal⟩ :=
    exists_first (fun c => ¬ (decimalValue? c).isSome = true) ⟨c, member, bare⟩
  simp only [not_not] at decimal
  have none : decimalValue? bad = none := by simpa using bare
  have digit : isDigit bad = true := (isInteger_cases integer).2.2 bad (by simp [split])
  have other : bad ≠ '_' := by
    rintro rfl
    exact absurd digit (by decide)
  rw [readInteger, readSign_of_isInteger integer] at read
  simp only [split] at read
  cases before with
  | nil =>
    rw [List.nil_append, readDigits_cons_of_none after none] at read
    cases read
  | cons first before =>
    -- reading stops at the bad digit, and blanks alone may follow what was read
    have digits : readDigits (first :: before ++ bad :: after) =
        some ((first :: before).filterMap decimalValue?, bad :: after) :=
      readDigits_decimal (by simp) decimal (by simp [none, other])
    rw [digits] at read
    simp only [List.all_cons, isBlank_of_isDigit digit, Bool.false_and, Bool.false_eq_true,
      if_false] at read
    split at read <;> cases read

/-- A written integer denotes one exactly if it is decimal. -/
theorem exists_readInteger_iff {text : String} (integer : IsInteger text) :
    (∃ value, readInteger text = .ok value) ↔ IsDecimal text := by
  refine ⟨?_, fun decimal => ⟨_, readInteger_of_isDecimal integer decimal⟩⟩
  rintro ⟨value, read⟩
  have decimal := decimal_of_readInteger integer read
  refine ⟨decimal, ?_⟩
  by_contra long
  have digits : readDigits (unsigned text ++ []) = some (placeValues text, []) :=
    readDigits_decimal (isInteger_cases integer).2.1 decimal (by simp)
  rw [List.append_nil] at digits
  rw [readInteger, readSign_of_isInteger integer] at read
  simp only [digits, length_placeValues decimal] at read
  rw [if_pos (by omega)] at read
  cases read

/-! ### Canonical numerals -/

def significant (text : String) : List Nat :=
  (placeValues text).dropWhile (· == 0)

/-- The only numeral of its number: no sign in front of zero, no leading zeros, no scripts. -/
def canonical (text : String) : Bool × List Nat :=
  (isNegative text && !(significant text).isEmpty, significant text)

theorem ofDigits_eq (digits : List Nat) : ofDigits digits = Nat.ofDigits 10 digits.reverse := by
  rw [Nat.ofDigits_eq_foldr, List.foldr_reverse, ofDigits]
  congr 1
  funext value digit
  simp
  omega

theorem ofDigits_dropWhile (digits : List Nat) : ofDigits (digits.dropWhile (· == 0)) = ofDigits digits := by
  induction digits with
  | nil => rfl
  | cons digit digits ih =>
    by_cases zero : digit = 0
    · subst zero
      simpa [ofDigits] using ih
    · rw [List.dropWhile_cons_of_neg (by simpa using zero)]

-- Digits are written from the most significant on, the library counts from the least significant on.
theorem digits_ofDigits {digits : List Nat} (small : ∀ digit ∈ digits, digit < 10)
    (lead : digits.head? ≠ some 0) : (Nat.digits 10 (ofDigits digits)).reverse = digits := by
  rw [ofDigits_eq, Nat.digits_ofDigits 10 (by decide), List.reverse_reverse]
  · intro digit member
    exact small digit (List.mem_reverse.mp member)
  · intro nonempty zero
    rw [List.getLast_reverse] at zero
    exact lead ((List.head?_eq_some_head _).trans (congrArg some zero))

theorem significant_lt (text : String) : ∀ digit ∈ significant text, digit < 10 := by
  intro digit member
  obtain ⟨c, -, valued⟩ := List.mem_filterMap.mp ((List.dropWhile_sublist _).subset member)
  exact decimalValue?_lt valued

theorem head?_significant (text : String) : (significant text).head? ≠ some 0 := by
  intro zero
  have kept := List.head?_dropWhile_not (· == 0) (placeValues text)
  rw [show (placeValues text).dropWhile (· == 0) = significant text from rfl, zero] at kept
  simp at kept

theorem significant_eq_iff (first second : String) :
    significant first = significant second ↔
      ofDigits (placeValues first) = ofDigits (placeValues second) := by
  rw [← ofDigits_dropWhile (placeValues first), ← ofDigits_dropWhile (placeValues second)]
  refine ⟨congrArg ofDigits, ?_⟩
  intro same
  rw [← digits_ofDigits (significant_lt first) (head?_significant first),
    ← digits_ofDigits (significant_lt second) (head?_significant second)]
  exact congrArg (fun value => (Nat.digits 10 value).reverse) same

theorem significant_eq_nil_iff (text : String) :
    significant text = [] ↔ ofDigits (placeValues text) = 0 := by
  rw [← ofDigits_dropWhile]
  constructor
  · intro empty
    rw [show (placeValues text).dropWhile (· == 0) = [] from empty]
    rfl
  · intro zero
    have digits := digits_ofDigits (significant_lt text) (head?_significant text)
    rw [show ofDigits (significant text) = 0 from zero, Nat.digits_zero] at digits
    exact digits.symm

theorem signed_eq_iff (first second : Bool) (left right : Nat) :
    signed first left = signed second right ↔ left = right ∧ (left = 0 ∨ first = second) := by
  unfold signed
  cases first <;> cases second <;> simp <;> omega

/-- Two decimal numerals denote the same integer exactly if they have the same canonical numeral. -/
theorem readInteger_eq_iff {first second : String} (firstInteger : IsInteger first)
    (secondInteger : IsInteger second) (firstDecimal : IsDecimal first) (secondDecimal : IsDecimal second) :
    readInteger first = readInteger second ↔ canonical first = canonical second := by
  rw [readInteger_of_isDecimal firstInteger firstDecimal,
    readInteger_of_isDecimal secondInteger secondDecimal, Except.ok.injEq, signed_eq_iff,
    ← significant_eq_iff, ← significant_eq_nil_iff]
  simp only [canonical, Prod.mk.injEq]
  constructor
  · rintro ⟨same, empty | signs⟩
    · simp [← same, empty]
    · simp [← same, signs]
  · rintro ⟨signs, same⟩
    refine ⟨same, ?_⟩
    by_cases empty : significant first = []
    · exact .inl empty
    · have some : (significant first).isEmpty = false := by simpa using empty
      rw [← same, some] at signs
      exact .inr (by simpa using signs)

end RawMapping.Text
