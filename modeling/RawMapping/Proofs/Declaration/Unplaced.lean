import Mathlib.Data.List.Forall2
import RawMapping.Proofs.Declaration.Joining
import RawMapping.Proofs.Token.Spacing

/-! Reading goes by the symbols. Where the tokens of two texts have the same symbols, a reader finds the
same in both but for positions: it fails on both with the same fault, or it reads constructs of the same
shape and leaves tokens with the same symbols. So a change of the spacing of a text, which leaves its
symbols, leaves what is read from it. -/

set_option autoImplicit false

namespace RawMapping

variable {β γ δ ε : Type}

/-- The same symbols, at whatever positions. -/
abbrev SameSymbols : List Token → List Token → Prop :=
  List.Forall₂ fun token other => token.symbol = other.symbol

theorem sameSymbols_iff {tokens others : List Token} :
    SameSymbols tokens others ↔ tokens.map (·.symbol) = others.map (·.symbol) := by
  rw [← List.forall₂_eq_eq_eq, List.forall₂_map_left_iff, List.forall₂_map_right_iff]

/-- Both fail with the same fault, or both succeed with related results. -/
inductive Matches (related : β → γ → Prop) : Except SyntaxError β → Except SyntaxError γ → Prop where
  | ok {first : β} {second : γ} : related first second → Matches related (.ok first) (.ok second)
  | error {first second : SyntaxError} : first.fault = second.fault →
      Matches related (.error first) (.error second)

theorem Matches.bind {related : β → γ → Prop} {related' : δ → ε → Prop} {first : Except SyntaxError β}
    {second : Except SyntaxError γ} {next : β → Except SyntaxError δ} {next' : γ → Except SyntaxError ε}
    (both : Matches related first second)
    (later : ∀ value other, first = .ok value → related value other →
      Matches related' (next value) (next' other)) :
    Matches related' (first >>= next) (second >>= next') := by
  cases both with
  | ok same => exact later _ _ rfl same
  | error same => exact .error same

theorem Matches.map {related : β → γ → Prop} {related' : δ → ε → Prop} {first : Except SyntaxError β}
    {second : Except SyntaxError γ} {f : β → δ} {g : γ → ε} (both : Matches related first second)
    (mapped : ∀ value other, related value other → related' (f value) (g other)) :
    Matches related' (first.map f) (second.map g) := by
  cases both with
  | ok same => exact .ok (mapped _ _ same)
  | error same => exact .error same

/-- The same but for positions, with the same symbols left. -/
def SameRead (shape : β → γ) (first second : β × List Token) : Prop :=
  shape first.1 = shape second.1 ∧ SameSymbols first.2 second.2

/-- What is read depends on the symbols alone. -/
def Unplaced (read : List Token → Except SyntaxError (β × List Token)) (shape : β → γ) : Prop :=
  ∀ tokens others, SameSymbols tokens others → Matches (SameRead shape) (read tokens) (read others)

section

variable {tokens others : List Token} (same : SameSymbols tokens others)

include same

theorem SameSymbols.current : (current tokens).symbol = (current others).symbol := by
  cases same with
  | nil => rfl
  | cons first _ => exact first

theorem SameSymbols.reject {related : β → γ → Prop} (fault : Symbol → Fault) :
    Matches related (reject fault tokens) (reject fault others) :=
  .error (congrArg fault same.current)

theorem SameSymbols.skipNewlines : SameSymbols (skipNewlines tokens) (skipNewlines others) := by
  rw [sameSymbols_iff] at same ⊢
  rw [← withoutLines_symbols, ← withoutLines_symbols, same]

theorem SameSymbols.expect (symbol : Symbol) :
    Matches SameSymbols (expect symbol tokens) (expect symbol others) := by
  cases same with
  | nil => exact SameSymbols.reject .nil _
  | @cons token other rest last first behind =>
    simp only [RawMapping.expect, ← first]
    by_cases found : token.symbol = symbol
    · simp only [found, if_true]
      exact .ok behind
    · simp only [found, if_false]
      exact SameSymbols.reject (.cons first behind) _

end

/-! ### Lists -/

theorem Reader.more_cons (reader : Reader β) (token : Token) (rest : List Token) :
    reader.more (token :: rest) =
      if token.symbol = .comma then do
        let (item, left) ← reader.read rest
        let (items, last) ← reader.more left
        return (item :: items, last)
      else .ok ([], token :: rest) := by
  rw [Reader.more]
  split
  · split
    · next failed => rw [failed]; rfl
    · next found =>
      rw [found]
      split
      · next failed => simp [failed]
      · next found => simp [found]
  · rfl

theorem Reader.more_unplaced {reader : Reader β} {shape : β → γ} (each : Unplaced reader.read shape) :
    Unplaced reader.more (List.map shape) := by
  intro tokens
  induction length : tokens.length using Nat.strong_induction_on generalizing tokens with
  | _ n ih =>
    subst length
    intro others same
    cases same with
    | nil =>
      rw [Reader.more]
      exact .ok ⟨rfl, .nil⟩
    | @cons token other rest last first behind =>
      rw [Reader.more_cons, Reader.more_cons, ← first]
      by_cases comma : token.symbol = .comma
      · rw [if_pos comma, if_pos comma]
        refine (each _ _ behind).bind ?_
        rintro ⟨item, left⟩ ⟨item', left'⟩ read ⟨sameItem, sameLeft⟩
        have shorter : left.length < (token :: rest).length :=
          Nat.lt_of_lt_of_le (reader.shorter read) (Nat.le_succ _)
        refine (ih _ shorter left rfl left' sameLeft).bind ?_
        rintro ⟨items, last⟩ ⟨items', last'⟩ - ⟨sameItems, sameLast⟩
        exact .ok ⟨congrArg₂ List.cons sameItem sameItems, sameLast⟩
      · rw [if_neg comma, if_neg comma]
        exact .ok ⟨rfl, .cons first behind⟩

theorem Reader.separated_unplaced {reader : Reader β} {shape : β → γ} (each : Unplaced reader.read shape) :
    Unplaced reader.separated.read (List.map shape) := by
  intro tokens others same
  refine (each _ _ same).bind ?_
  rintro ⟨item, rest⟩ ⟨item', rest'⟩ - ⟨sameItem, sameRest⟩
  refine (Reader.more_unplaced each _ _ sameRest).bind ?_
  rintro ⟨items, left⟩ ⟨items', left'⟩ - ⟨sameItems, sameLeft⟩
  exact .ok ⟨congrArg₂ List.cons sameItem sameItems, sameLeft⟩

theorem Reader.untilClosed_unplaced {reader : Reader β} {shape : β → γ} (each : Unplaced reader.read shape)
    (close : Symbol) : Unplaced (reader.untilClosed close) (List.map shape) := by
  intro tokens others same
  unfold Reader.untilClosed
  rw [← same.current]
  by_cases closed : (current tokens).symbol = close
  · simp only [closed, if_true]
    exact (same.expect close).map fun _ _ left => ⟨rfl, left⟩
  · simp only [closed, if_false]
    refine (Reader.separated_unplaced each _ _ same).bind ?_
    rintro ⟨items, rest⟩ ⟨items', rest'⟩ - ⟨sameItems, sameRest⟩
    refine (sameRest.expect close).bind ?_
    intro left left' _ sameLeft
    exact .ok ⟨sameItems, sameLeft⟩

theorem readParenthesized_unplaced {reader : Reader β} {shape : β → γ} (each : Unplaced reader.read shape) :
    Unplaced (readParenthesized reader) (Option.map (List.map shape)) := by
  rintro _ _ (_ | @⟨⟨symbol, position⟩, ⟨_, place⟩, rest, rest', rfl, behind⟩)
  · exact .ok ⟨rfl, .nil⟩
  · cases symbol with
    | openParen =>
      refine (Reader.untilClosed_unplaced each .closeParen _ _ behind).bind ?_
      rintro ⟨items, left⟩ ⟨items', left'⟩ - ⟨sameItems, sameLeft⟩
      exact .ok ⟨congrArg some sameItems, sameLeft⟩
    | _ => exact .ok ⟨rfl, .cons rfl behind⟩

/-! ### Literals, types and labels -/

theorem readIdentifier_unplaced : Unplaced readIdentifier Prod.fst := by
  rintro _ _ (_ | @⟨⟨symbol, position⟩, ⟨_, place⟩, rest, rest', rfl, behind⟩)
  · exact .error rfl
  · cases symbol with
    | identifier name => exact .ok ⟨rfl, behind⟩
    | _ => exact .error rfl

theorem typeReader_unplaced : Unplaced typeReader.read (NamedType.map fun _ => ()) := by
  intro tokens others same
  refine (readIdentifier_unplaced _ _ same).bind ?_
  rintro ⟨⟨name, position⟩, rest⟩ ⟨⟨_, place⟩, rest'⟩ - ⟨rfl, sameRest⟩
  exact .ok ⟨rfl, sameRest⟩

theorem readLiteral_unplaced : Unplaced readLiteral (Literal.map fun _ => ()) := by
  rintro _ _ (_ | @⟨⟨symbol, position⟩, ⟨_, place⟩, rest, rest', rfl, behind⟩)
  · exact .error rfl
  · cases symbol with
    | string value => exact .ok ⟨rfl, behind⟩
    | placeholder label => exact .ok ⟨rfl, behind⟩
    | number digits => exact .ok ⟨rfl, behind⟩
    | minus =>
      obtain _ | @⟨⟨symbol, position⟩, ⟨_, place⟩, left, left', rfl, further⟩ := behind
      · exact .error rfl
      · cases symbol with
        | number digits => exact .ok ⟨rfl, further⟩
        | _ => exact .error rfl
    | _ => exact .error rfl

theorem readLabelBefore_unplaced (mark : Symbol) {tokens others : List Token}
    (same : SameSymbols tokens others) :
    SameRead id (readLabelBefore mark tokens) (readLabelBefore mark others) := by
  obtain _ | @⟨⟨symbol, position⟩, ⟨_, place⟩, rest, rest', rfl, behind⟩ := same
  · exact ⟨rfl, .nil⟩
  · cases symbol with
    | identifier label =>
      obtain _ | @⟨next, next', left, left', first, further⟩ := behind
      · exact ⟨rfl, .cons rfl .nil⟩
      · simp only [readLabelBefore, ← first]
        split
        · exact ⟨rfl, further⟩
        · exact ⟨rfl, .cons rfl (.cons first further)⟩
    | _ => exact ⟨rfl, .cons rfl behind⟩

theorem argumentReader_unplaced : Unplaced argumentReader.read (Argument.map fun _ => ()) := by
  intro tokens others same
  obtain ⟨label, unlabelled⟩ := readLabelBefore_unplaced .equals same
  refine (readLiteral_unplaced _ _ unlabelled).bind ?_
  rintro ⟨value, rest⟩ ⟨value', rest'⟩ - ⟨sameValue, sameRest⟩
  exact .ok ⟨congrArg₂ (Argument.mk · · ()) label sameValue, sameRest⟩

theorem parameterReader_unplaced : Unplaced parameterReader.read (Parameter.map fun _ => ()) := by
  intro tokens others same
  obtain ⟨label, unlabelled⟩ := readLabelBefore_unplaced .colon same
  refine (typeReader_unplaced _ _ unlabelled).bind ?_
  rintro ⟨type, rest⟩ ⟨type', rest'⟩ - ⟨sameType, sameRest⟩
  exact .ok ⟨congrArg₂ (Parameter.mk · · ()) label sameType, sameRest⟩

theorem readTypeArguments_unplaced : Unplaced readTypeArguments (List.map (NamedType.map fun _ => ())) := by
  rintro _ _ (_ | @⟨⟨symbol, position⟩, ⟨_, place⟩, rest, rest', rfl, behind⟩)
  · exact .ok ⟨rfl, .nil⟩
  · cases symbol with
    | openBracket =>
      refine (Reader.separated_unplaced typeReader_unplaced _ _ behind).bind ?_
      rintro ⟨types, left⟩ ⟨types', left'⟩ - ⟨sameTypes, sameLeft⟩
      refine (sameLeft.expect .closeBracket).bind ?_
      intro last last' _ sameLast
      exact .ok ⟨sameTypes, sameLast⟩
    | _ => exact .ok ⟨rfl, .cons rfl behind⟩

/-! ### Attributes and variants -/

theorem readAttribute_unplaced (position place : Position) {tokens others : List Token}
    (same : SameSymbols tokens others) :
    Matches (SameRead Attribute.shape) (readAttribute position tokens) (readAttribute place others) := by
  refine (readIdentifier_unplaced _ _ same).bind ?_
  rintro ⟨⟨name, namePosition⟩, rest⟩ ⟨⟨_, namePlace⟩, rest'⟩ - ⟨rfl, sameRest⟩
  refine (readTypeArguments_unplaced _ _ sameRest).bind ?_
  rintro ⟨types, left⟩ ⟨types', left'⟩ - ⟨sameTypes, sameLeft⟩
  refine (readParenthesized_unplaced argumentReader_unplaced _ _ sameLeft).bind ?_
  rintro ⟨arguments, last⟩ ⟨arguments', last'⟩ - ⟨sameArguments, sameLast⟩
  refine .ok ⟨?_, sameLast⟩
  simp only [Attribute.shape, Attribute.map, Identifier.map, map_getD_of_map_eq sameArguments]
  rw [show types.map _ = types'.map _ from sameTypes]

theorem readAttributes_cons (position : Position) (rest : List Token) :
    readAttributes (⟨.atSign, position⟩ :: rest) = do
      let (attr, left) ← readAttribute position rest
      let (attrs, last) ← readAttributes (skipNewlines left)
      return (attr :: attrs, last) := by
  rw [readAttributes]
  split
  · next failed => rw [failed]; rfl
  · next found =>
    rw [found]
    split
    · next failed => simp [failed]
    · next found => simp [found]

theorem readAttributes_none {tokens : List Token} (other : (current tokens).symbol ≠ .atSign) :
    readAttributes tokens = .ok ([], tokens) := by
  unfold readAttributes
  split
  · exact absurd rfl other
  · rfl

theorem readAttributes_unplaced : Unplaced readAttributes (List.map Attribute.shape) := by
  intro tokens
  induction length : tokens.length using Nat.strong_induction_on generalizing tokens with
  | _ n ih =>
    subst length
    intro others same
    by_cases sign : (current tokens).symbol = .atSign
    · obtain _ | @⟨⟨_, position⟩, ⟨_, place⟩, rest, rest', rfl, behind⟩ := same
      · cases sign
      · cases sign
        rw [readAttributes_cons, readAttributes_cons]
        refine (readAttribute_unplaced position place behind).bind ?_
        rintro ⟨attr, left⟩ ⟨attr', left'⟩ read ⟨sameAttr, sameLeft⟩
        have shorter : (skipNewlines left).length < (⟨.atSign, position⟩ :: rest : List Token).length :=
          Nat.lt_of_le_of_lt (length_skipNewlines_le left)
            (Nat.lt_of_lt_of_le (readAttribute_shorter read) (Nat.le_succ _))
        refine (ih _ shorter _ rfl _ sameLeft.skipNewlines).bind ?_
        rintro ⟨attrs, last⟩ ⟨attrs', last'⟩ - ⟨sameAttrs, sameLast⟩
        exact .ok ⟨congrArg₂ List.cons sameAttr sameAttrs, sameLast⟩
    · rw [readAttributes_none sign, readAttributes_none (same.current ▸ sign)]
      exact .ok ⟨rfl, same⟩

theorem variantReader_unplaced : Unplaced variantReader.read Variant.shape := by
  intro tokens others same
  refine (readIdentifier_unplaced _ _ same).bind ?_
  rintro ⟨⟨name, position⟩, rest⟩ ⟨⟨_, place⟩, rest'⟩ - ⟨rfl, sameRest⟩
  refine (readParenthesized_unplaced parameterReader_unplaced _ _ sameRest).bind ?_
  rintro ⟨parameters, left⟩ ⟨parameters', left'⟩ - ⟨sameParameters, sameLeft⟩
  refine .ok ⟨?_, sameLeft⟩
  simp only [Variant.shape, Variant.map, Identifier.map]
  rw [show parameters.map _ = parameters'.map _ from sameParameters]

/-! ### Bodies -/

theorem caseLineReader_unplaced : Unplaced caseLineReader.read CaseLine.shape := by
  intro tokens others same
  refine (readAttributes_unplaced _ _ same).bind ?_
  rintro ⟨attributes, rest⟩ ⟨attributes', rest'⟩ - ⟨sameAttributes, sameRest⟩
  refine (Reader.separated_unplaced variantReader_unplaced _ _ sameRest).bind ?_
  rintro ⟨variants, left⟩ ⟨variants', left'⟩ - ⟨sameVariants, sameLeft⟩
  dsimp only
  rw [← sameLeft.current]
  split
  · refine .ok ⟨?_, sameLeft.skipNewlines⟩
    exact congrArg₂ (CaseLine.mk · · ()) sameAttributes sameVariants
  · exact sameLeft.reject _

theorem readCaseLines_more {tokens : List Token}
    (inside : (current (skipNewlines tokens)).symbol.endsBlock = false) :
    readCaseLines tokens = do
      let (line, rest) ← caseLineReader.read (skipNewlines tokens)
      let (lines, last) ← readCaseLines rest
      return (line :: lines, last) := by
  rw [readCaseLines, if_neg (by simp [inside])]
  split
  · next failed => rw [failed]; rfl
  · next found =>
    rw [found]
    split
    · next failed => simp [failed]
    · next found => simp [found]

theorem readCaseLines_unplaced : Unplaced readCaseLines (List.map CaseLine.shape) := by
  intro tokens
  induction length : tokens.length using Nat.strong_induction_on generalizing tokens with
  | _ n ih =>
    subst length
    intro others same
    have skipped := same.skipNewlines
    cases ends : (current (skipNewlines tokens)).symbol.endsBlock with
    | false =>
      rw [readCaseLines_more ends, readCaseLines_more (skipped.current ▸ ends)]
      refine (caseLineReader_unplaced _ _ skipped).bind ?_
      rintro ⟨line, rest⟩ ⟨line', rest'⟩ read ⟨sameLine, sameRest⟩
      have shorter : rest.length < tokens.length :=
        Nat.lt_of_lt_of_le (caseLineReader.shorter read) (length_skipNewlines_le tokens)
      refine (ih _ shorter _ rfl _ sameRest).bind ?_
      rintro ⟨lines, last⟩ ⟨lines', last'⟩ - ⟨sameLines, sameLast⟩
      exact .ok ⟨congrArg₂ List.cons sameLine sameLines, sameLast⟩
    | true =>
      rw [readCaseLines, readCaseLines, if_pos ends, if_pos (skipped.current ▸ ends)]
      generalize skipNewlines tokens = left at skipped
      generalize skipNewlines others = left' at skipped
      obtain _ | @⟨⟨symbol, position⟩, ⟨_, place⟩, rest, rest', rfl, behind⟩ := skipped
      · exact .ok ⟨rfl, .nil⟩
      · cases symbol with
        | dedent => exact .ok ⟨rfl, behind⟩
        | _ => exact .ok ⟨rfl, .cons rfl behind⟩

theorem SameSymbols.skipBlock {tokens others : List Token} (same : SameSymbols tokens others) (depth : Nat) :
    SameSymbols (skipBlock depth tokens) (skipBlock depth others) := by
  induction same generalizing depth with
  | nil => cases depth <;> exact .nil
  | @cons token other rest rest' first behind ih =>
    cases depth with
    | zero => exact .cons first behind
    | succ depth =>
      obtain ⟨symbol, position⟩ := token
      obtain ⟨_, place⟩ := other
      cases first
      cases symbol with
      | indent => exact ih _
      | dedent => exact ih _
      | eof => exact .cons rfl behind
      | _ => exact ih _

theorem readBlock_unplaced (kind : DeclKind) : Unplaced (readBlock kind) (List.map CaseLine.shape) := by
  rintro _ _ (_ | @⟨⟨symbol, position⟩, ⟨_, place⟩, rest, rest', rfl, behind⟩)
  · exact .ok ⟨rfl, .nil⟩
  · cases symbol with
    | indent =>
      unfold readBlock
      dsimp only
      split
      · exact readCaseLines_unplaced _ _ behind
      · exact .ok ⟨rfl, SameSymbols.skipBlock behind 1⟩
    | _ => exact .ok ⟨rfl, .cons rfl behind⟩

/-! ### Declarations -/

theorem readDeclarationRest_unplaced (kind : DeclKind) (position place : Position)
    {attributes attributes' : List (Attribute Position)}
    (sameAttributes : attributes.map Attribute.shape = attributes'.map Attribute.shape)
    {tokens others : List Token} (same : SameSymbols tokens others) :
    Matches (SameRead Declaration.shape) (readDeclarationRest kind position attributes tokens)
      (readDeclarationRest kind place attributes' others) := by
  refine (readIdentifier_unplaced _ _ same).bind ?_
  rintro ⟨⟨name, _⟩, rest⟩ ⟨⟨_, _⟩, rest'⟩ - ⟨rfl, sameRest⟩
  refine (sameRest.expect .colon).bind ?_
  intro marked marked' _ sameMarked
  refine (sameMarked.expect .newline).bind ?_
  intro behind behind' _ sameBehind
  refine (readBlock_unplaced kind _ _ sameBehind.skipNewlines).bind ?_
  rintro ⟨lines, left⟩ ⟨lines', left'⟩ - ⟨sameLines, sameLeft⟩
  exact .ok ⟨congrArg₂ (Declaration.mk kind ⟨name, ()⟩ · ⟨·, ()⟩ ()) sameAttributes sameLines, sameLeft⟩

theorem declarationReader_unplaced : Unplaced declarationReader.read Declaration.shape := by
  intro tokens others same
  refine (readAttributes_unplaced _ _ same).bind ?_
  rintro ⟨attributes, rest⟩ ⟨attributes', rest'⟩ - ⟨sameAttributes, sameRest⟩
  obtain _ | @⟨⟨symbol, position⟩, ⟨_, place⟩, left, left', rfl, behind⟩ := sameRest
  · exact .error rfl
  · cases symbol with
    | keyword kind => exact readDeclarationRest_unplaced kind position place sameAttributes behind
    | _ => exact .error rfl

theorem readDeclarations_more {tokens : List Token} (more : (current (skipNewlines tokens)).symbol ≠ .eof) :
    readDeclarations tokens = do
      let (declaration, rest) ← declarationReader.read (skipNewlines tokens)
      let declarations ← readDeclarations rest
      return declaration :: declarations := by
  rw [readDeclarations, if_neg more]
  split
  · next failed => rw [failed]; rfl
  · next found =>
    rw [found]
    split
    · next failed => simp [failed]
    · next found => simp [found]

/-- Declarations of the same shapes are read from the same symbols, or the same fault is reported. -/
theorem readDeclarations_unplaced {tokens others : List Token} (same : SameSymbols tokens others) :
    Matches (fun declarations others => declarations.map Declaration.shape = others.map Declaration.shape)
      (readDeclarations tokens) (readDeclarations others) := by
  induction length : tokens.length using Nat.strong_induction_on generalizing tokens others with
  | _ n ih =>
    subst length
    have skipped := same.skipNewlines
    by_cases ends : (current (skipNewlines tokens)).symbol = .eof
    · rw [readDeclarations, readDeclarations, if_pos ends, if_pos (skipped.current ▸ ends)]
      exact .ok rfl
    · rw [readDeclarations_more ends, readDeclarations_more (skipped.current ▸ ends)]
      refine (declarationReader_unplaced _ _ skipped).bind ?_
      rintro ⟨declaration, rest⟩ ⟨declaration', rest'⟩ read ⟨sameDeclaration, sameRest⟩
      have shorter : rest.length < tokens.length :=
        Nat.lt_of_lt_of_le (declarationReader.shorter read) (length_skipNewlines_le tokens)
      refine (ih _ shorter sameRest rfl).bind ?_
      intro declarations declarations' _ sameDeclarations
      exact .ok (congrArg₂ List.cons sameDeclaration sameDeclarations)

/-- A change of the spacing outside of string literals leaves the symbols of a text that is accepted, and
what is read from it but for positions. -/
theorem spacing_is_immaterial {source other : String} {tokens : List Token}
    (scanned : scan source = .ok tokens) (change : Respaced source.toList other.toList) :
    ∃ again, scan other = .ok again ∧ again.map (·.symbol) = tokens.map (·.symbol) ∧
      Matches (fun declarations others => declarations.map Declaration.shape = others.map Declaration.shape)
        (parse source) (parse other) := by
  obtain ⟨again, otherScanned, same⟩ := scan_respaced scanned change
  refine ⟨again, otherScanned, same, ?_⟩
  have read : parse source = readDeclarations tokens := by rw [parse, scanned]; rfl
  have otherRead : parse other = readDeclarations again := by rw [parse, otherScanned]; rfl
  rw [read, otherRead]
  exact readDeclarations_unplaced (sameSymbols_iff.mpr same.symm)

def ribbon : String :=
  "@Ink(\"a\\\nb\",\n 9)\nenum Ribbon:\n\tplain\n"

def ribbonNoted : String :=
  "@Ink(\"a\\\nb\",\n\t# wet\n 9)\nenum Ribbon:\n\tplain\n"

theorem ribbon_respaced :
    ∃ tokens again, scan ribbon = .ok tokens ∧ scan ribbonNoted = .ok again ∧
      again.map (·.symbol) = tokens.map (·.symbol) ∧
      Matches (fun declarations others => declarations.map Declaration.shape = others.map Declaration.shape)
        (parse ribbon) (parse ribbonNoted) := by
  have accepted : (scan ribbon).map (openBrackets 0) = .ok 0 := by decide +kernel
  obtain ⟨tokens, scanned, -⟩ := map_eq_ok_iff.mp accepted
  have note : IsIdleLine " 9)\nenum Ribbon:\n\tplain\n".toList ("\t".toList ++ "# wet".toList ++ ['\n']) :=
    .mk (by simp [IsBlanks, isIndentChar]) (.inl (.comment (by decide +kernel))) (.inl rfl)
  have outside : OutsideStrings "@Ink(\"a\\\nb\",".toList := by decide +kernel
  have change : Respaced ribbon.toList ribbonNoted.toList := Respaced.later outside (.idle note)
  obtain ⟨again, found⟩ := spacing_is_immaterial scanned change
  exact ⟨tokens, again, scanned, found⟩

end RawMapping
