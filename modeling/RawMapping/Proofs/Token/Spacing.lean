import RawMapping.Proofs.Token.Modes

/-! Spacing. Which symbols a text is scanned to does not depend on its blank lines, on its comments or on
blanks at the end of its lines, and a tab in front of a line is as good as four spaces. That is so wherever
such a change is made outside of string literals: between lines, inside of brackets or at either end of the
text. -/

set_option autoImplicit false

namespace RawMapping

/-! ### Changes of the spacing -/

def IsBlanks (blanks : List Char) : Prop :=
  ∀ c ∈ blanks, isIndentChar c = true

inductive IsNote : List Char → Prop where
  | nothing : IsNote []
  | comment {body : List Char} : '\n' ∉ body → IsNote ('#' :: body)

inductive IsFiller : List Char → Prop where
  | mk {blanks note : List Char} : IsBlanks blanks → IsNote note → IsFiller (blanks ++ note)

/-- A line of blanks, with a comment or a carriage return at its end, in front of the rest. Where nothing
comes behind it the line feed may be missing. -/
inductive IsIdleLine (rest : List Char) : List Char → Prop where
  | mk {blanks note ending : List Char} : IsBlanks blanks → (IsNote note ∨ note = ['\r']) →
      (ending = ['\n'] ∨ ending = [] ∧ rest = []) → IsIdleLine rest (blanks ++ note ++ ending)

/-- Changes at the start of a line, from a text to another. -/
inductive LineChange : List Char → List Char → Prop where
  | idle {line rest : List Char} : IsIdleLine rest line → LineChange rest (line ++ rest)
  | tab {blanks rest : List Char} : IsBlanks blanks →
      LineChange (blanks ++ '\t' :: rest) (blanks ++ [' ', ' ', ' ', ' '] ++ rest)

/-- Changes of the spacing of a text: of a line at its start, of a line behind a line feed that stands
outside of string literals, and in front of such a line feed. -/
inductive Respaced : List Char → List Char → Prop where
  | first {text other : List Char} : LineChange text other → Respaced text other
  | later {front rest other : List Char} : OutsideStrings front → LineChange rest other →
      Respaced (front ++ '\n' :: rest) (front ++ '\n' :: other)
  | filled {front filler rest : List Char} : OutsideStrings front → IsFiller filler →
      Respaced (front ++ '\n' :: rest) (front ++ filler ++ '\n' :: rest)

/-- Texts that are the same from the start of a line on, where it begins inside of brackets as well. -/
structure SameLines (rest other : List Char) : Prop where
  outer : ∀ levels lineOpen,
    (atLine levels lineOpen other).symbols? = (atLine levels lineOpen rest).symbols?
  inner : ∀ depth levels, 0 < depth →
    (inLine depth levels other).symbols? = (inLine depth levels rest).symbols?

theorem SameLines.refl (rest : List Char) : SameLines rest rest :=
  ⟨fun _ _ => rfl, fun _ _ _ => rfl⟩

theorem inLine_feed {depth : Nat} (inside : 0 < depth) (levels : List Nat) (rest : List Char) :
    (inLine depth levels ('\n' :: rest)).symbols? = (inLine depth levels rest).symbols? :=
  inLine_skips (by simp [isSpace, inside]) rest

theorem lineEnds_feed (rest : List Char) : LineEnds ('\n' :: rest) := by
  rintro c ⟨⟩
  rfl

theorem sameLines_idle {line rest : List Char} (idle : IsIdleLine rest line) :
    SameLines rest (line ++ rest) := by
  obtain @⟨blanks, note, ending, blank, noted, ended⟩ := idle
  -- the line feed leads to a line without symbols; without one nothing comes behind
  have outer (levels : List Nat) (lineOpen : Bool) :
      (atLine levels lineOpen (ending ++ rest)).symbols? = (atLine levels lineOpen rest).symbols? := by
    rcases ended with rfl | ⟨rfl, -⟩
    · exact atLine_feed (List.forall_mem_nil _) rest
    · rfl
  have ends : LineEnds (ending ++ rest) := by
    rcases ended with rfl | ⟨rfl, rfl⟩
    · exact lineEnds_feed rest
    · rintro c ⟨⟩
  simp only [List.append_assoc]
  constructor
  · intro levels lineOpen
    rw [← outer levels lineOpen]
    rcases noted with note | rfl
    · cases note with
      | nothing =>
        rcases ended with rfl | ⟨rfl, rfl⟩
        · rw [List.nil_append, List.singleton_append, atLine_feed blank]
          exact (outer levels lineOpen).symm
        · simpa using atLine_blanks blank
      | comment line => exact atLine_comment blank line ends
    · exact atLine_return blank _
  · intro depth levels inside
    have inner : (inLine depth levels (ending ++ rest)).symbols? = (inLine depth levels rest).symbols? := by
      rcases ended with rfl | ⟨rfl, -⟩
      · exact inLine_feed inside levels rest
      · rfl
    rw [← inner, inLine_blanks blank]
    rcases noted with note | rfl
    · cases note with
      | nothing => rfl
      | comment line => exact inLine_comment line ends
    · exact inLine_skips (by simp [isSpace]) _

theorem sameLines_tab {blanks : List Char} (blank : IsBlanks blanks) (rest : List Char) :
    SameLines (blanks ++ '\t' :: rest) (blanks ++ [' ', ' ', ' ', ' '] ++ rest) := by
  have tab : IsBlanks (blanks ++ ['\t']) := List.forall_mem_append.mpr ⟨blank, by simp [isIndentChar]⟩
  have spaces : IsBlanks (blanks ++ [' ', ' ', ' ', ' ']) :=
    List.forall_mem_append.mpr ⟨blank, by simp [isIndentChar]⟩
  have whole : blanks ++ '\t' :: rest = blanks ++ ['\t'] ++ rest := by simp
  rw [whole]
  constructor
  · intro levels lineOpen
    exact atLine_indent tab spaces (by simp [indentLevel_append, indentLevel, indentWidth]) rest
  · intro depth levels _
    rw [inLine_blanks tab, inLine_blanks spaces]

theorem LineChange.sameLines {rest other : List Char} (change : LineChange rest other) :
    SameLines rest other := by
  cases change with
  | idle idle => exact sameLines_idle idle
  | tab blank => exact sameLines_tab blank _

/-! ### What stands in front of a change -/

theorem IsFiller.line {filler : List Char} (filled : IsFiller filler) : '\n' ∉ filler := by
  obtain ⟨blank, note⟩ := filled
  intro member
  rcases List.mem_append.mp member with inside | inside
  · cases blank _ inside
  · cases note with
    | nothing => cases inside
    | comment line => exact line (by simpa using inside)

theorem IsFiller.stops {filler : List Char} (filled : IsFiller filler) (rest : List Char) :
    Stops (filler ++ '\n' :: rest) := by
  obtain @⟨blanks, note, blank, note⟩ := filled
  have none : [' ', '\t', '\n', '#'].any (fun c => isWordChar c || Text.isDigit c) = false := by decide
  have bare (c : Char) (member : c ∈ [' ', '\t', '\n', '#']) :
      isWordChar c = false ∧ Text.isDigit c = false := by
    simpa using List.any_eq_false.mp none c member
  cases blanks with
  | nil => cases note <;> exact (stops_cons _ _).mpr (bare _ (by simp))
  | cons c blanks =>
    have first := (List.forall_mem_cons.mp blank).1
    simp only [isIndentChar, Bool.or_eq_true, beq_iff_eq] at first
    exact (stops_cons _ _).mpr (bare c (by rcases first with rfl | rfl <;> simp))

section

variable {filler rest other : List Char} (filled : IsFiller filler) (same : SameLines rest other)

include same

theorem SameLines.inLine_feed (depth : Nat) (levels : List Nat) :
    (inLine depth levels ('\n' :: other)).symbols? = (inLine depth levels ('\n' :: rest)).symbols? := by
  cases depth with
  | zero =>
    have read (after : List Char) : Lexeme.read '\n' after = .ok ⟨.newline, ['\n'], after⟩ :=
      Lexeme.read_char rfl after
    rw [inLine_read rfl (by decide), inLine_read rfl (by decide), read, read]
    exact congrArg (Option.map _) (same.outer levels false)
  | succ depth =>
    rw [RawMapping.inLine_feed (Nat.succ_pos depth), RawMapping.inLine_feed (Nat.succ_pos depth)]
    exact same.inner _ levels (Nat.succ_pos depth)

theorem SameLines.atLine_feed (levels : List Nat) (lineOpen : Bool) :
    (atLine levels lineOpen ('\n' :: other)).symbols? = (atLine levels lineOpen ('\n' :: rest)).symbols? := by
  have none : IsBlanks [] := List.forall_mem_nil _
  rw [← List.nil_append ('\n' :: other), ← List.nil_append ('\n' :: rest), RawMapping.atLine_feed none,
    RawMapping.atLine_feed none]
  exact same.outer levels lineOpen

include filled

theorem inLine_filled (depth : Nat) (levels : List Nat) :
    (inLine depth levels (filler ++ '\n' :: other)).symbols? =
      (inLine depth levels ('\n' :: rest)).symbols? := by
  rw [← same.inLine_feed]
  obtain ⟨blank, note⟩ := filled
  rw [List.append_assoc, inLine_blanks blank]
  cases note with
  | nothing => rfl
  | comment line => exact inLine_comment line (lineEnds_feed other)

theorem atLine_filled {blanks : List Char} (blank : IsBlanks blanks) (levels : List Nat) (lineOpen : Bool) :
    (atLine levels lineOpen (blanks ++ (filler ++ '\n' :: other))).symbols? =
      (atLine levels lineOpen (blanks ++ '\n' :: rest)).symbols? := by
  rw [atLine_feed blank, ← same.outer]
  obtain ⟨more, note⟩ := filled
  have all := List.forall_mem_append.mpr ⟨blank, more⟩
  rw [List.append_assoc, ← List.append_assoc blanks]
  cases note with
  | nothing => exact atLine_feed all other
  | comment line =>
    rw [List.cons_append, atLine_comment all line (lineEnds_feed other)]
    exact atLine_feed (List.forall_mem_nil _) other

theorem inLine_comment_filled {body : List Char} (line : '\n' ∉ body) (depth : Nat) (levels : List Nat) :
    (inLine depth levels ('#' :: (body ++ (filler ++ '\n' :: other)))).symbols? =
      (inLine depth levels ('#' :: (body ++ '\n' :: rest))).symbols? := by
  have all : '\n' ∉ body ++ filler := by simp [line, filled.line]
  rw [← List.append_assoc, inLine_comment all (lineEnds_feed other), inLine_comment line (lineEnds_feed rest)]
  exact same.inLine_feed depth levels

theorem atLine_comment_filled {blanks body : List Char} (blank : IsBlanks blanks) (line : '\n' ∉ body)
    (levels : List Nat) (lineOpen : Bool) :
    (atLine levels lineOpen (blanks ++ '#' :: (body ++ (filler ++ '\n' :: other)))).symbols? =
      (atLine levels lineOpen (blanks ++ '#' :: (body ++ '\n' :: rest))).symbols? := by
  have all : '\n' ∉ body ++ filler := by simp [line, filled.line]
  rw [← List.append_assoc, atLine_comment blank all (lineEnds_feed other),
    atLine_comment blank line (lineEnds_feed rest)]
  exact same.atLine_feed levels lineOpen

end

/-- What is emitted from inside of a line with the rest behind the front, is emitted with the other one
behind it. -/
def CarriesInside (rest other front : List Char) : Prop :=
  ∀ depth levels symbols, (inLine depth levels (front ++ rest)).symbols? = some symbols →
    (inLine depth levels (front ++ other)).symbols? = some symbols

def CarriesLine (rest other front : List Char) : Prop :=
  ∀ levels lineOpen symbols, (atLine levels lineOpen (front ++ rest)).symbols? = some symbols →
    (atLine levels lineOpen (front ++ other)).symbols? = some symbols

/-- A lexeme that begins in front of a change outside of strings ends there, and is read whatever comes
behind. -/
theorem Lexeme.read_in_front {c : Char} {front rest other : List Char} {lexeme : Lexeme}
    (read : Lexeme.read c (front ++ '\n' :: rest) = .ok lexeme) (outside : OutsideStrings (c :: front))
    (stops : Stops other) :
    ∃ later, later.length < (c :: front).length ∧ OutsideStrings later ∧
      lexeme.rest = later ++ '\n' :: rest ∧
      Lexeme.read c (front ++ other) = .ok ⟨lexeme.symbol, lexeme.written, later ++ other⟩ := by
  obtain ⟨plain, crossing⟩ := Lexeme.after_written read
  have split := Lexeme.read_split read
  rw [← List.cons_append] at split
  -- a lexeme that goes on over the line feed would be a string, and the front ends outside of one
  have within : ∃ later, c :: front = lexeme.written ++ later ∧ lexeme.rest = later ++ '\n' :: rest := by
    rcases List.append_eq_append_iff.mp split with ⟨more, written, behind⟩ | ⟨later, whole, behind⟩
    · cases more with
      | nil => exact ⟨[], by simp [written], by simpa using behind.symm⟩
      | cons d more =>
        cases (List.cons.inj behind).1
        exact absurd outside (crossing front more written)
    · exact ⟨later, whole, behind⟩
  obtain ⟨later, whole, behind⟩ := within
  have next : (later ++ other).head? = lexeme.rest.head? ∨ Stops (later ++ other) := by
    cases later with
    | nil => exact .inr stops
    | cons d later => exact .inl (by simp [behind])
  obtain ⟨word, written, again⟩ := Lexeme.read_again read next
  rw [whole] at outside
  refine ⟨later, ?_, outside.behind plain, behind, ?_⟩
  · rw [whole, written, List.length_append, List.length_cons]
    omega
  · rw [written, List.cons_append] at whole
    rw [(List.cons.inj whole).2, List.append_assoc]
    exact again

section

variable {filler rest other front : List Char} (filled : IsFiller filler) (same : SameLines rest other)
  (outside : OutsideStrings front)

include filled same outside

theorem carriesInside_step
    (shorter : ∀ later, later.length < front.length → OutsideStrings later →
      CarriesLine ('\n' :: rest) (filler ++ '\n' :: other) later ∧
        CarriesInside ('\n' :: rest) (filler ++ '\n' :: other) later) :
    CarriesInside ('\n' :: rest) (filler ++ '\n' :: other) front := by
  intro depth levels symbols emits
  cases front with
  | nil => exact (inLine_filled filled same depth levels).trans emits
  | cons c front =>
    rw [List.cons_append] at emits ⊢
    -- a space, a comment or a lexeme; each of them ends in front of the change
    by_cases space : isSpace depth c = true
    · rw [inLine_skips space] at emits ⊢
      have plain : Mode.plain.after [c] = .plain := plain_of_blank (blank_of_isSpace space)
      have later : OutsideStrings front := OutsideStrings.behind outside plain
      exact (shorter front (Nat.lt_succ_self _) later).2 depth levels symbols emits
    · by_cases hash : c = '#'
      · subst hash
        rcases outside.comment with line | ⟨body, later, rfl, line, still⟩
        · exact (inLine_comment_filled filled same line depth levels).trans emits
        · rw [List.append_assoc, List.cons_append, inLine_comment line (lineEnds_feed _)] at emits ⊢
          have short : ('\n' :: later).length < ('#' :: (body ++ '\n' :: later)).length := by
            simp only [List.length_cons, List.length_append]
            omega
          exact (shorter ('\n' :: later) short still).2 depth levels symbols emits
      · rw [inLine_read (Bool.eq_false_iff.mpr space) hash] at emits ⊢
        obtain ⟨lexeme, read, mapped⟩ := Option.bind_eq_some_iff.mp emits
        obtain ⟨last, emitted, rfl⟩ := Option.map_eq_some_iff.mp mapped
        obtain ⟨later, short, still, behind, again⟩ :=
          Lexeme.read_in_front (toOption_eq_some_iff.mp read) outside (filled.stops other)
        obtain ⟨line, inside⟩ := shorter later short still
        rw [again]
        refine Option.map_eq_some_iff.mpr ⟨last, ?_, rfl⟩
        unfold behindLexeme at emitted ⊢
        rw [behind] at emitted
        by_cases ends : lexeme.symbol = .newline
        · rw [if_pos ends] at emitted ⊢
          exact line levels false last emitted
        · rw [if_neg ends] at emitted ⊢
          exact inside _ levels last emitted

/-- A line that begins in the front is skipped there, or it goes on to the change, or its level is settled
and what follows is read inside of the line. -/
theorem carriesLine_step
    (inside : ∀ later, later.length ≤ front.length → OutsideStrings later →
      CarriesInside ('\n' :: rest) (filler ++ '\n' :: other) later)
    (shorter : ∀ later, later.length < front.length → OutsideStrings later →
      CarriesLine ('\n' :: rest) (filler ++ '\n' :: other) later) :
    CarriesLine ('\n' :: rest) (filler ++ '\n' :: other) front := by
  intro levels lineOpen symbols emits
  have blank : IsBlanks (front.takeWhile isIndentChar) := List.all_eq_true.mp List.all_takeWhile
  have stop := stop_of_dropWhile (p := isIndentChar) front
  have split := List.takeWhile_append_dropWhile (p := isIndentChar) (l := front)
  generalize front.takeWhile isIndentChar = blanks at blank split
  generalize front.dropWhile isIndentChar = left at stop split
  subst split
  have left? : OutsideStrings left :=
    outside.behind (after_blanks fun c member => blank_of_isIndentChar (blank c member))
  rw [List.append_assoc] at emits ⊢
  -- the change comes right behind the blanks of this line, or further on
  cases left with
  | nil => exact (atLine_filled filled same blank levels lineOpen).trans emits
  | cons c left =>
    have bare := stop c rfl
    rw [List.cons_append] at emits ⊢
    have short : left.length < (blanks ++ c :: left).length := by
      rw [List.length_append, List.length_cons]
      omega
    -- a skipped line leads to the start of the next one, which is shorter; any other is read inside
    cases skip : isLineSkip c with
    | true =>
      simp only [isLineSkip, Bool.or_eq_true, beq_iff_eq] at skip
      rcases skip with (rfl | rfl) | rfl
      · rw [atLine_feed blank] at emits ⊢
        exact shorter left short left? levels lineOpen symbols emits
      · rw [atLine_return blank] at emits ⊢
        exact shorter left short left? levels lineOpen symbols emits
      · rcases left?.comment with line | ⟨body, later, rfl, line, still⟩
        · exact (atLine_comment_filled filled same blank line levels lineOpen).trans emits
        · rw [List.append_assoc, List.cons_append, atLine_comment blank line (lineEnds_feed _)] at emits ⊢
          have less : ('\n' :: later).length < (blanks ++ '#' :: (body ++ '\n' :: later)).length := by
            simp only [List.length_cons, List.length_append]
            omega
          exact shorter ('\n' :: later) less still levels lineOpen symbols emits
    | false =>
      rw [atLine_begun blank _ bare skip] at emits ⊢
      obtain ⟨settled, indented, mapped⟩ := Option.bind_eq_some_iff.mp emits
      obtain ⟨last, emitted, rfl⟩ := Option.map_eq_some_iff.mp mapped
      refine Option.bind_eq_some_iff.mpr ⟨settled, indented, Option.map_eq_some_iff.mpr ⟨last, ?_, rfl⟩⟩
      exact inside (c :: left) (by simp) left? 0 settled.2 last emitted

theorem carries : CarriesLine ('\n' :: rest) (filler ++ '\n' :: other) front ∧
    CarriesInside ('\n' :: rest) (filler ++ '\n' :: other) front := by
  induction length : front.length using Nat.strong_induction_on generalizing front with
  | _ n ih =>
    subst length
    have inside (later : List Char) (short : later.length ≤ front.length) (still : OutsideStrings later) :
        CarriesInside ('\n' :: rest) (filler ++ '\n' :: other) later :=
      carriesInside_step filled same still fun last less lastStill =>
        ih last.length (Nat.lt_of_lt_of_le less short) lastStill rfl
    refine ⟨carriesLine_step filled same outside inside fun later short still => ?_,
      inside front (Nat.le_refl _) outside⟩
    exact (ih later.length short still rfl).1

end

/-- A change of the spacing leaves the symbols of a text that is accepted. -/
theorem scan_respaced {source other : String} {tokens : List Token} (scanned : scan source = .ok tokens)
    (change : Respaced source.toList other.toList) :
    ∃ again, scan other = .ok again ∧ again.map (·.symbol) = tokens.map (·.symbol) := by
  have emits : (atLine [] true source.toList).symbols? = some (tokens.map (·.symbol)) :=
    ScanState.symbols?_eq_some_iff.mpr ⟨tokens, scanned, rfl⟩
  refine ScanState.symbols?_eq_some_iff.mp (?_ : (atLine [] true other.toList).symbols? = _)
  generalize source.toList = text at emits change
  generalize other.toList = edited at change
  cases change with
  | first change => exact (change.sameLines.outer [] true).trans emits
  | later outside change =>
    exact (carries (.mk (List.forall_mem_nil _) .nothing) change.sameLines outside).1 [] true _ emits
  | filled outside filled =>
    rw [List.append_assoc]
    exact (carries filled (.refl _) outside).1 [] true _ emits

end RawMapping
