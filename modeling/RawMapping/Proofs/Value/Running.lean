import RawMapping.Proofs.Derived.Expansion
import RawMapping.Value.Evaluate

/-! What the derived declarations compute. A raw value is turned into the first case whose literal has
that value, and into the catch-all if there is none; a case is turned into the literal that its name
is first assigned to. -/

set_option autoImplicit false

namespace RawMapping

variable {τ : Type} {tag : τ}

/-! ### Raw values -/

/-- Values of the string type are texts, and those of every other type are integers. -/
def Value.HasType (raw : Value) (rawType : String) : Prop :=
  if rawType = stringTypeName then ∃ value, raw = .text value else ∃ value, raw = .int value

theorem checkRawValue_eq_ok_iff (rawType : String) (raw : Value) :
    checkRawValue rawType raw = .ok () ↔ raw.HasType rawType := by
  by_cases string : rawType = stringTypeName
  · cases raw <;> simp [checkRawValue, Value.HasType, string]
  · cases raw <;> simp [checkRawValue, Value.HasType, string]

theorem Value.eq_of_isRaw {raw value : Value} (same : raw.isRaw value = true) : raw = value := by
  unfold Value.isRaw at same
  split at same
  · simpa using same
  · simpa using same
  · cases same

theorem Value.HasType.isRaw_self {raw : Value} {rawType : String} (typed : raw.HasType rawType) :
    raw.isRaw raw = true := by
  unfold Value.HasType at typed
  split at typed
  · obtain ⟨text, rfl⟩ := typed
    simp [Value.isRaw]
  · obtain ⟨number, rfl⟩ := typed
    simp [Value.isRaw]

def Literal.Denotes (literal : Literal Unit) (value : Value) : Prop :=
  literal.value? = .ok (some value)

@[simp] theorem Literal.value?_map {σ : Type} (f : σ → τ) (literal : Literal σ) :
    (literal.map f).value? = literal.value? := by
  cases literal <;> rfl

theorem Literal.HasType.of_denotes {literal : Literal Unit} {rawType : String} {value : Value}
    (typed : literal.HasType rawType) (denotes : literal.Denotes value) : value.HasType rawType := by
  by_cases string : rawType = stringTypeName
  · rw [Literal.HasType, if_pos string] at typed
    rw [Value.HasType, if_pos string]
    obtain ⟨text, tag, rfl⟩ := typed
    cases denotes
    exact ⟨text, rfl⟩
  · rw [Literal.HasType, if_neg string] at typed
    rw [Value.HasType, if_neg string]
    obtain ⟨text, tag, rfl⟩ := typed
    rw [Literal.Denotes, Literal.value?] at denotes
    split at denotes
    · cases denotes
      exact ⟨_, rfl⟩
    · cases denotes

/-- A literal of a raw type denotes a value or cannot be read. -/
theorem Literal.HasType.denotes_or_error {literal : Literal Unit} {rawType : String}
    (typed : literal.HasType rawType) :
    (∃ value, literal.Denotes value) ∨ ∃ error, literal.value? = .error error := by
  cases literal with
  | string value _ => exact .inl ⟨_, rfl⟩
  | integer text _ =>
    simp only [Literal.Denotes, Literal.value?]
    cases Text.readInteger text with
    | ok value => exact .inl ⟨.int value, rfl⟩
    | error fault => exact .inr ⟨.numeral fault, rfl⟩
  | placeholder label _ =>
    unfold Literal.HasType at typed
    split at typed
    · obtain ⟨text, tag, same⟩ := typed
      cases same
    · obtain ⟨text, tag, same⟩ := typed
      cases same

def Value.magnitude : Value → Nat
  | .text value => value.length
  | .int value => value.natAbs
  | _ => 0

theorem exists_magnitude_bound (values : List Value) : ∃ bound, ∀ value ∈ values, value.magnitude < bound := by
  induction values with
  | nil => exact ⟨0, by simp⟩
  | cons first values ih =>
    obtain ⟨bound, below⟩ := ih
    refine ⟨max bound (first.magnitude + 1), ?_⟩
    intro value member
    rcases List.mem_cons.mp member with rfl | member
    · omega
    · have := below value member
      omega

-- Raw values are not bounded, so some value is always left to the catch-all.
/-- No list holds every raw value. -/
theorem exists_fresh (rawType : String) (values : List Value) :
    ∃ raw : Value, raw.HasType rawType ∧ raw ∉ values := by
  obtain ⟨bound, below⟩ := exists_magnitude_bound values
  by_cases string : rawType = stringTypeName
  · refine ⟨.text (String.ofList (List.replicate bound 'a')), by simp [Value.HasType, string], ?_⟩
    intro member
    simpa [Value.magnitude] using below _ member
  · refine ⟨.int bound, by simp [Value.HasType, string], ?_⟩
    intro member
    simpa [Value.magnitude] using below _ member

/-! ### Arms -/

-- An arm whose pattern cannot be evaluated stops the search, so each arm that is passed over must say
-- that it does not match.
theorem runArms_skip {subject : Value} {env : Bindings} {skipped : List (MatchArm τ)}
    (differ : ∀ arm ∈ skipped, arm.pattern.bindings? subject = .ok none) (arms : List (MatchArm τ)) :
    runArms subject env (skipped ++ arms) = runArms subject env arms := by
  induction skipped with
  | nil => rfl
  | cons arm skipped ih =>
    rw [List.forall_mem_cons] at differ
    rw [List.cons_append, runArms, differ.1, ok_bind]
    exact ih differ.2

theorem Assignment.decodeArm_differs {assignment : Assignment} {raw value : Value}
    (denotes : assignment.literal.Denotes value) (differs : raw ≠ value) :
    (assignment.decodeArm tag).pattern.bindings? raw = .ok none := by
  have other : raw.isRaw value = false :=
    Bool.eq_false_iff.mpr fun same => differs (Value.eq_of_isRaw same)
  rw [Literal.Denotes] at denotes
  simp [decodeArm, Pattern.bindings?, denotes, other]

theorem Assignment.encodeArm_differs {assignment : Assignment} {value : CaseValue}
    (differs : assignment.caseName ≠ value.name) :
    (assignment.encodeArm tag).pattern.bindings? value.toValue = .ok none := by
  simp [encodeArm, Pattern.bindings?, CaseValue.toValue, differs.symm]

/-! ### Derived declarations -/

section

variable {typeName rawType catchAll : String} {before after : List Assignment} {assignment : Assignment}
  {raw : Value}

theorem decode_eq_bind (typeName rawType catchAll : String) (assignments : List Assignment) (raw : Value)
    (typed : raw.HasType rawType) :
    (describedExpansion tag typeName rawType catchAll assignments).decode raw =
      runArms raw [("raw_value", raw)] (assignments.map (Assignment.decodeArm tag) ++
        [⟨.wildcard tag, .construct catchAll (some ⟨"raw_value", tag⟩) tag, tag⟩]) >>= fun
          | .enumCase name payload => .ok ⟨name, payload⟩
          | found => .error (.notACase found) := by
  have checked := (checkRawValue_eq_ok_iff rawType raw).mpr typed
  simp only [Expansion.decode, Expansion.initializer?, describedExpansion, List.findSome?,
    Member.initializer?, Initializer.decode, checked, ok_bind, Branch.run]
  rfl

theorem skip_decodeArms {skipped : List Assignment}
    (differ : ∀ other ∈ skipped, ∃ value, other.literal.Denotes value ∧ raw ≠ value)
    (env : Bindings) (arms : List (MatchArm τ)) :
    runArms raw env (skipped.map (Assignment.decodeArm tag) ++ arms) = runArms raw env arms := by
  apply runArms_skip
  intro arm member
  obtain ⟨other, inside, rfl⟩ := List.mem_map.mp member
  obtain ⟨value, denotes, differs⟩ := differ other inside
  exact Assignment.decodeArm_differs denotes differs

theorem decode_assigned (typed : raw.HasType rawType)
    (differ : ∀ other ∈ before, ∃ value, other.literal.Denotes value ∧ raw ≠ value)
    (denotes : assignment.literal.Denotes raw) :
    (describedExpansion tag typeName rawType catchAll (before ++ assignment :: after)).decode raw =
      .ok ⟨assignment.caseName, []⟩ := by
  rw [Literal.Denotes] at denotes
  rw [decode_eq_bind _ _ _ _ _ typed, List.map_append, List.append_assoc, skip_decodeArms differ]
  simp [runArms, Assignment.decodeArm, Pattern.bindings?, denotes, typed.isRaw_self,
    Outcome.evaluate]

/-- A literal that cannot be read stops every value that gets so far. -/
theorem decode_unreadable {error : EvalError} (typed : raw.HasType rawType)
    (differ : ∀ other ∈ before, ∃ value, other.literal.Denotes value ∧ raw ≠ value)
    (unreadable : assignment.literal.value? = .error error) :
    (describedExpansion tag typeName rawType catchAll (before ++ assignment :: after)).decode raw =
      .error error := by
  rw [decode_eq_bind _ _ _ _ _ typed, List.map_append, List.append_assoc, skip_decodeArms differ]
  simp [runArms, Assignment.decodeArm, Pattern.bindings?, unreadable]

theorem decode_unassigned {assignments : List Assignment} (typed : raw.HasType rawType)
    (differ : ∀ other ∈ assignments, ∃ value, other.literal.Denotes value ∧ raw ≠ value) :
    (describedExpansion tag typeName rawType catchAll assignments).decode raw = .ok ⟨catchAll, [raw]⟩ := by
  rw [decode_eq_bind _ _ _ _ _ typed, skip_decodeArms differ]
  simp [runArms, Pattern.bindings?, Outcome.evaluate]

theorem encode_eq_bind (typeName rawType catchAll : String) (assignments : List Assignment)
    (value : CaseValue) :
    (describedExpansion tag typeName rawType catchAll assignments).encode value =
      runArms value.toValue [("self", value.toValue)] (assignments.map (Assignment.encodeArm tag) ++
        [⟨.caseNamed catchAll (some "value") tag, .name ⟨"value", tag⟩, tag⟩]) >>= fun raw =>
          checkRawValue rawType raw >>= fun _ => .ok raw := by
  simp only [Expansion.encode, Expansion.accessor?, describedExpansion, List.findSome?,
    Member.accessor?, Accessor.encode, Branch.run]
  rfl

theorem skip_encodeArms {skipped : List Assignment} {value : CaseValue}
    (differ : ∀ other ∈ skipped, other.caseName ≠ value.name) (env : Bindings) (arms : List (MatchArm τ)) :
    runArms value.toValue env (skipped.map (Assignment.encodeArm tag) ++ arms) =
      runArms value.toValue env arms := by
  apply runArms_skip
  intro arm member
  obtain ⟨other, inside, rfl⟩ := List.mem_map.mp member
  exact Assignment.encodeArm_differs (differ other inside)

theorem encode_assigned {payload : List Value} (typed : raw.HasType rawType)
    (differ : ∀ other ∈ before, other.caseName ≠ assignment.caseName)
    (denotes : assignment.literal.Denotes raw) :
    (describedExpansion tag typeName rawType catchAll (before ++ assignment :: after)).encode
      ⟨assignment.caseName, payload⟩ = .ok raw := by
  have checked := (checkRawValue_eq_ok_iff rawType raw).mpr typed
  rw [Literal.Denotes] at denotes
  rw [encode_eq_bind, List.map_append, List.append_assoc, skip_encodeArms differ]
  simp [runArms, Assignment.encodeArm, CaseValue.toValue, Pattern.bindings?, denotes, Outcome.evaluate,
    checked]

/-- A catch-all whose name no other case has gives back what it carries. -/
theorem encode_catchAll {assignments : List Assignment} (typed : raw.HasType rawType)
    (differ : ∀ other ∈ assignments, other.caseName ≠ catchAll) :
    (describedExpansion tag typeName rawType catchAll assignments).encode ⟨catchAll, [raw]⟩ = .ok raw := by
  have checked := (checkRawValue_eq_ok_iff rawType raw).mpr typed
  rw [encode_eq_bind, skip_encodeArms differ]
  simp [runArms, CaseValue.toValue, Pattern.bindings?, Outcome.evaluate, checked]

end

end RawMapping
