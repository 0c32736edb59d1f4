import RawMapping.Declaration.Parser
import RawMapping.Proofs.Declaration.Printable

/-! What is read can be printed. The scanner emits well-written symbols only; each reader makes a
printable construct of them and leaves well-written symbols to the next one. -/

set_option autoImplicit false

namespace RawMapping

variable {β : Type}

def WellScanned (tokens : List Token) : Prop :=
  ∀ token ∈ tokens, token.symbol.WellWritten

theorem WellScanned.tail {token : Token} {tokens : List Token} (scanned : WellScanned (token :: tokens)) :
    WellScanned tokens :=
  fun other member => scanned other (List.mem_cons_of_mem _ member)

theorem WellScanned.skipNewlines {tokens : List Token} (scanned : WellScanned tokens) :
    WellScanned (skipNewlines tokens) :=
  fun token member => scanned token ((List.dropWhile_sublist _).subset member)

-- Nothing is said about which tokens are read: a reader takes its texts from the tokens as they are, so
-- it is enough that every token is well written.
def Admits (read : List Token → Except SyntaxError (β × List Token)) (good : β → Prop) : Prop :=
  ∀ tokens value rest, read tokens = .ok (value, rest) → WellScanned tokens →
    good value ∧ WellScanned rest

/-! ### Lists -/

theorem expect_admits {symbol : Symbol} {tokens rest : List Token}
    (taken : expect symbol tokens = .ok rest) (scanned : WellScanned tokens) : WellScanned rest := by
  unfold expect at taken
  split at taken
  · split at taken
    · cases taken; exact scanned.tail
    · cases taken
  · cases taken

theorem Reader.more_admits (reader : Reader β) {good : β → Prop} (admits : Admits reader.read good) :
    Admits reader.more fun items => ∀ item ∈ items, good item := by
  intro tokens items rest read scanned
  fun_induction Reader.more reader tokens generalizing items rest with
  | case1 => cases read; exact ⟨by simp, scanned⟩
  | case2 => cases read
  | case3 => cases read
  | case4 token after _ item left found others last more ih =>
    cases read
    obtain ⟨first, leftScanned⟩ := admits _ _ _ found scanned.tail
    obtain ⟨later, lastScanned⟩ := ih _ _ more leftScanned
    exact ⟨List.forall_mem_cons.mpr ⟨first, later⟩, lastScanned⟩
  | case5 => cases read; exact ⟨by simp, scanned⟩

theorem Reader.separated_admits (reader : Reader β) {good : β → Prop}
    (admits : Admits reader.read good) :
    Admits reader.separated.read fun items => items ≠ [] ∧ ∀ item ∈ items, good item := by
  intro tokens items rest read scanned
  obtain ⟨⟨item, left⟩, found, more⟩ := bind_eq_ok_iff.mp read
  obtain ⟨⟨others, last⟩, moreFound, same⟩ := bind_eq_ok_iff.mp more
  cases same
  obtain ⟨first, leftScanned⟩ := admits _ _ _ found scanned
  obtain ⟨later, lastScanned⟩ := reader.more_admits admits _ _ _ moreFound leftScanned
  exact ⟨⟨by simp, List.forall_mem_cons.mpr ⟨first, later⟩⟩, lastScanned⟩

theorem Reader.untilClosed_admits (reader : Reader β) {good : β → Prop}
    (admits : Admits reader.read good) (close : Symbol) :
    Admits (reader.untilClosed close) fun items => ∀ item ∈ items, good item := by
  intro tokens items rest read scanned
  unfold Reader.untilClosed at read
  split at read
  · obtain ⟨left, taken, same⟩ := map_eq_ok_iff.mp read
    cases same
    exact ⟨by simp, expect_admits taken scanned⟩
  · obtain ⟨⟨found, left⟩, separated, closed⟩ := bind_eq_ok_iff.mp read
    obtain ⟨last, taken, same⟩ := bind_eq_ok_iff.mp closed
    cases same
    obtain ⟨⟨-, all⟩, leftScanned⟩ := reader.separated_admits admits _ _ _ separated scanned
    exact ⟨all, expect_admits taken leftScanned⟩

theorem readParenthesized_admits (reader : Reader β) {good : β → Prop}
    (admits : Admits reader.read good) :
    Admits (readParenthesized reader) fun items => ∀ list ∈ items, ∀ item ∈ list, good item := by
  intro tokens items rest read scanned
  unfold readParenthesized at read
  split at read
  · obtain ⟨⟨found, left⟩, closed, same⟩ := bind_eq_ok_iff.mp read
    cases same
    obtain ⟨all, leftScanned⟩ := reader.untilClosed_admits admits _ _ _ _ closed scanned.tail
    exact ⟨by simpa using all, leftScanned⟩
  · cases read
    exact ⟨by simp, scanned⟩

/-! ### Parts of a line -/

theorem readIdentifier_admits : Admits readIdentifier fun word => IsIdentifier word.1 := by
  intro tokens word rest read scanned
  unfold readIdentifier at read
  split at read
  · cases read
    exact ⟨scanned _ List.mem_cons_self, scanned.tail⟩
  · cases read

theorem typeReader_admits : Admits typeReader.read fun type => IsIdentifier type.name := by
  intro tokens type rest read scanned
  obtain ⟨⟨⟨name, position⟩, left⟩, found, same⟩ := bind_eq_ok_iff.mp read
  cases same
  exact readIdentifier_admits _ _ _ found scanned

theorem readLiteral_admits : Admits readLiteral Literal.Printable := by
  intro tokens literal rest read scanned
  unfold readLiteral at read
  split at read
  · cases read
    exact ⟨trivial, scanned.tail⟩
  · cases read
    exact ⟨scanned _ List.mem_cons_self, scanned.tail⟩
  · cases read
    exact ⟨⟨_, scanned _ List.mem_cons_self, .inl rfl⟩, scanned.tail⟩
  · split at read
    · cases read
      exact ⟨⟨_, scanned.tail _ List.mem_cons_self, .inr rfl⟩, scanned.tail.tail⟩
    · cases read
  · cases read

theorem readLabelBefore_admits {mark : Symbol} {tokens rest : List Token} {label : Option String}
    (read : readLabelBefore mark tokens = (label, rest)) (scanned : WellScanned tokens) :
    (∀ name ∈ label, IsIdentifier name) ∧ WellScanned rest := by
  unfold readLabelBefore at read
  split at read
  · split at read
    · cases read
      refine ⟨?_, scanned.tail.tail⟩
      rintro name ⟨⟩
      exact scanned _ List.mem_cons_self
    · cases read
      exact ⟨by simp, scanned⟩
  · cases read
    exact ⟨by simp, scanned⟩

theorem argumentReader_admits : Admits argumentReader.read Argument.Printable := by
  intro tokens argument rest read scanned
  obtain ⟨label, unlabelled⟩ := readLabelBefore_admits rfl scanned
  obtain ⟨⟨value, left⟩, found, same⟩ := bind_eq_ok_iff.mp read
  cases same
  obtain ⟨printable, leftScanned⟩ := readLiteral_admits _ _ _ found unlabelled
  exact ⟨⟨label, printable⟩, leftScanned⟩

theorem parameterReader_admits : Admits parameterReader.read Parameter.Printable := by
  intro tokens parameter rest read scanned
  obtain ⟨label, unlabelled⟩ := readLabelBefore_admits rfl scanned
  obtain ⟨⟨type, left⟩, found, same⟩ := bind_eq_ok_iff.mp read
  cases same
  obtain ⟨identifier, leftScanned⟩ := typeReader_admits _ _ _ found unlabelled
  exact ⟨⟨label, identifier⟩, leftScanned⟩

theorem variantReader_admits : Admits variantReader.read Variant.Printable := by
  intro tokens variant rest read scanned
  obtain ⟨⟨⟨name, position⟩, left⟩, named, payload⟩ := bind_eq_ok_iff.mp read
  obtain ⟨⟨parameters, last⟩, found, same⟩ := bind_eq_ok_iff.mp payload
  cases same
  obtain ⟨identifier, leftScanned⟩ := readIdentifier_admits _ _ _ named scanned
  obtain ⟨all, lastScanned⟩ := readParenthesized_admits _ parameterReader_admits _ _ _ found leftScanned
  exact ⟨⟨identifier, all⟩, lastScanned⟩

theorem readTypeArguments_admits :
    Admits readTypeArguments fun types => ∀ type ∈ types, IsIdentifier type.name := by
  intro tokens types rest read scanned
  unfold readTypeArguments at read
  split at read
  · obtain ⟨⟨found, left⟩, separated, closed⟩ := bind_eq_ok_iff.mp read
    obtain ⟨last, taken, same⟩ := bind_eq_ok_iff.mp closed
    cases same
    obtain ⟨⟨-, all⟩, leftScanned⟩ :=
      typeReader.separated_admits typeReader_admits _ _ _ separated scanned.tail
    exact ⟨all, expect_admits taken leftScanned⟩
  · cases read
    exact ⟨by simp, scanned⟩

theorem readAttribute_admits (position : Position) :
    Admits (readAttribute position) Attribute.Printable := by
  intro tokens attr rest read scanned
  obtain ⟨⟨⟨name, namePosition⟩, afterName⟩, named, typed⟩ := bind_eq_ok_iff.mp read
  obtain ⟨⟨types, afterTypes⟩, typesFound, applied⟩ := bind_eq_ok_iff.mp typed
  obtain ⟨⟨arguments, left⟩, argumentsFound, same⟩ := bind_eq_ok_iff.mp applied
  cases same
  obtain ⟨identifier, nameScanned⟩ := readIdentifier_admits _ _ _ named scanned
  obtain ⟨identifiers, typesScanned⟩ := readTypeArguments_admits _ _ _ typesFound nameScanned
  obtain ⟨all, leftScanned⟩ :=
    readParenthesized_admits _ argumentReader_admits _ _ _ argumentsFound typesScanned
  refine ⟨⟨identifier, identifiers, ?_⟩, leftScanned⟩
  cases arguments with
  | none => simp
  | some arguments => exact all arguments rfl

/-! ### Lines -/

theorem readAttributes_admits :
    Admits readAttributes fun attrs => ∀ attr ∈ attrs, attr.Printable := by
  intro tokens attrs rest read scanned
  fun_induction readAttributes tokens generalizing attrs rest with
  | case1 => cases read
  | case2 => cases read
  | case3 position after attr left found others last more ih =>
    cases read
    obtain ⟨first, leftScanned⟩ := readAttribute_admits _ _ _ _ found scanned.tail
    obtain ⟨later, lastScanned⟩ := ih _ _ more leftScanned.skipNewlines
    exact ⟨List.forall_mem_cons.mpr ⟨first, later⟩, lastScanned⟩
  | case4 => cases read; exact ⟨by simp, scanned⟩

theorem caseLineReader_admits : Admits caseLineReader.read CaseLine.Printable := by
  intro tokens line rest read scanned
  obtain ⟨⟨attributes, above⟩, attributesFound, variantsRead⟩ := bind_eq_ok_iff.mp read
  obtain ⟨⟨variants, left⟩, variantsFound, ended⟩ := bind_eq_ok_iff.mp variantsRead
  obtain ⟨printable, aboveScanned⟩ := readAttributes_admits _ _ _ attributesFound scanned
  obtain ⟨⟨nonempty, all⟩, leftScanned⟩ :=
    variantReader.separated_admits variantReader_admits _ _ _ variantsFound aboveScanned
  dsimp only at ended
  split at ended
  · cases ended
    exact ⟨⟨printable, nonempty, all⟩, leftScanned.skipNewlines⟩
  · cases ended

theorem readCaseLines_admits :
    Admits readCaseLines fun lines => ∀ line ∈ lines, line.Printable := by
  intro tokens lines rest read scanned
  fun_induction readCaseLines tokens generalizing lines rest with
  | case1 tokens _ position after skipped =>
    cases read
    have left := scanned.skipNewlines
    rw [skipped] at left
    exact ⟨by simp, left.tail⟩
  | case2 => cases read; exact ⟨by simp, scanned.skipNewlines⟩
  | case3 => cases read
  | case4 => cases read
  | case5 tokens _ line left found others last more ih =>
    cases read
    obtain ⟨first, leftScanned⟩ := caseLineReader_admits _ _ _ found scanned.skipNewlines
    obtain ⟨later, lastScanned⟩ := ih _ _ more leftScanned
    exact ⟨List.forall_mem_cons.mpr ⟨first, later⟩, lastScanned⟩

theorem skipBlock_suffix (depth : Nat) (tokens : List Token) : skipBlock depth tokens <:+ tokens := by
  fun_induction skipBlock depth tokens with
  | case1 => exact List.suffix_rfl
  | case2 => exact List.suffix_rfl
  | case3 depth token rest _ ih => exact ih.trans (List.suffix_cons token rest)
  | case4 depth token rest _ ih => exact ih.trans (List.suffix_cons token rest)
  | case5 => exact List.suffix_rfl
  | case6 depth token rest _ _ _ ih => exact ih.trans (List.suffix_cons token rest)

/-- Only the block of an enumeration has lines. -/
theorem readBlock_admits (kind : DeclKind) :
    Admits (readBlock kind) fun lines =>
      (kind ≠ .enumKind → lines = []) ∧ ∀ line ∈ lines, line.Printable := by
  intro tokens lines rest read scanned
  unfold readBlock at read
  split at read
  · split at read
    · next enumeration =>
      obtain ⟨all, left⟩ := readCaseLines_admits _ _ _ read scanned.tail
      exact ⟨⟨fun other => absurd enumeration other, all⟩, left⟩
    · -- a block that is skipped leaves a part of the tokens
      cases read
      exact ⟨⟨fun _ => rfl, by simp⟩,
        fun token member => scanned.tail token ((skipBlock_suffix 1 _).subset member)⟩
  · cases read
    exact ⟨⟨fun _ => rfl, by simp⟩, scanned⟩

/-! ### Declarations -/

theorem declarationReader_admits : Admits declarationReader.read Declaration.Printable := by
  intro tokens declaration rest read scanned
  obtain ⟨⟨attributes, above⟩, attributesFound, declared⟩ := bind_eq_ok_iff.mp read
  obtain ⟨printable, aboveScanned⟩ := readAttributes_admits _ _ _ attributesFound scanned
  dsimp only at declared
  split at declared
  · next kind position after =>
    obtain ⟨⟨⟨name, namePosition⟩, afterName⟩, named, marked⟩ := bind_eq_ok_iff.mp declared
    obtain ⟨afterColon, colon, ended⟩ := bind_eq_ok_iff.mp marked
    obtain ⟨afterLine, newline, blocked⟩ := bind_eq_ok_iff.mp ended
    obtain ⟨⟨lines, left⟩, linesFound, same⟩ := bind_eq_ok_iff.mp blocked
    cases same
    obtain ⟨identifier, nameScanned⟩ := readIdentifier_admits _ _ _ named aboveScanned.tail
    have lineScanned := expect_admits newline (expect_admits colon nameScanned)
    obtain ⟨⟨body, all⟩, leftScanned⟩ := readBlock_admits _ _ _ _ linesFound lineScanned.skipNewlines
    exact ⟨⟨identifier, printable, body, all⟩, leftScanned⟩
  · cases declared

theorem readDeclarations_printable {tokens : List Token} {declarations : List (Declaration Position)}
    (read : readDeclarations tokens = .ok declarations) (scanned : WellScanned tokens) :
    ∀ declaration ∈ declarations, declaration.Printable := by
  fun_induction readDeclarations tokens generalizing declarations with
  | case1 => cases read; simp
  | case2 => cases read
  | case3 => cases read
  | case4 tokens _ declaration left found others more ih =>
    cases read
    obtain ⟨first, leftScanned⟩ := declarationReader_admits _ _ _ found scanned.skipNewlines
    exact List.forall_mem_cons.mpr ⟨first, ih more leftScanned⟩

/-- Every declaration that is read from a source text can be printed. -/
theorem printable_of_parse {source : String} {declarations : List (Declaration Position)}
    (read : parse source = .ok declarations) :
    ∀ declaration ∈ declarations, declaration.Printable := by
  obtain ⟨tokens, scanned, declared⟩ := bind_eq_ok_iff.mp read
  exact readDeclarations_printable declared (ScanState.wellWritten_run scanned)

end RawMapping
