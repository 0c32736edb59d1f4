import RawMapping.Proofs.Declaration.Accepted
import RawMapping.Proofs.Declaration.Unplaced
import RawMapping.Proofs.Text.Excerpt

/-! Where syntax errors are reported. A scan fails at a place it has reached, a reader at one of the tokens
it was given, and every token stands at a place of the text. So the message about a text that is rejected
shows the lines around the fault, with a marker below the line and the column that it names. -/

set_option autoImplicit false

namespace RawMapping

variable {β γ : Type}

/-! ### Scanning -/

def ScanState.StandsIn (text : List Char) (state : ScanState) : Prop :=
  ∃ before, text = before ++ state.rest ∧ state.position = Position.start.after before

theorem Position.column_pos_after {position : Position} (first : 1 ≤ position.column) (piece : List Char) :
    1 ≤ (position.after piece).column := by
  induction piece generalizing position with
  | nil => exact first
  | cons c piece ih =>
    rw [after_cons]
    apply ih
    unfold next
    split
    · exact Nat.le_refl 1
    · exact Nat.le_succ_of_le first

section

variable {text : List Char} {state : ScanState} (stands : state.StandsIn text)

include stands

theorem ScanState.StandsIn.reached {piece rest : List Char} (split : state.rest = piece ++ rest) :
    Reached text (state.position.after piece) := by
  obtain ⟨before, whole, place⟩ := stands
  refine ⟨before ++ piece, rest, ?_, ?_, ?_, ?_⟩
  · rw [whole, split, List.append_assoc]
  · rw [place, Position.after_append]
  · rw [place]
    exact Position.column_pos_after (Position.column_pos_after (Nat.le_refl 1) before) piece
  · rw [place, Position.after_append]

theorem ScanState.StandsIn.reached_line {piece rest : List Char} (split : state.rest = piece ++ rest) :
    Reached text ⟨(state.position.after piece).line, 1⟩ := by
  obtain ⟨before, after, whole, line, first, column⟩ := stands.reached split
  exact ⟨before, after, whole, line, Nat.le_refl 1, Nat.le_trans first column⟩

theorem ScanState.StandsIn.consume {piece rest : List Char} (split : state.rest = piece ++ rest) :
    (state.consume piece rest).StandsIn text := by
  obtain ⟨before, whole, place⟩ := stands
  refine ⟨before ++ piece, ?_, ?_⟩
  · rw [whole, split, List.append_assoc]
    rfl
  · rw [Position.after_append, ← place]
    rfl

end

theorem position_of_indentTokens {line level : Nat} {levels settled : List Nat} {tokens : List Token}
    (indented : indentTokens line level levels = .ok (tokens, settled)) :
    ∀ token ∈ tokens, token.position = ⟨line, 1⟩ := by
  unfold indentTokens at indented
  dsimp only at indented
  split at indented
  · cases indented
    simp
  · split at indented
    · cases indented
      intro token member
      rw [List.eq_of_mem_replicate member]
    · cases indented

theorem position_of_indentTokens_error {line level : Nat} {levels : List Nat} {error : SyntaxError}
    (failed : indentTokens line level levels = .error error) : error.position = ⟨line, 1⟩ := by
  unfold indentTokens at failed
  dsimp only at failed
  split at failed
  · cases failed
  · split at failed
    · cases failed
    · cases failed
      rfl

/-- The tokens of a turn stand at places of the text, and so does what is left. -/
theorem ScanState.Turn.reached {text : List Char} {state next : ScanState} {tokens : List Token}
    (turn : state.Turn tokens next) (stands : state.StandsIn text) :
    (∀ token ∈ tokens, Reached text token.position) ∧ next.StandsIn text := by
  cases turn with
  | skipped start split =>
    exact ⟨by simp, (stands.consume split).consume (passes_skippedLine _).1⟩
  | begun start split blank stop symbol indented =>
    refine ⟨fun token member => ?_, stands.consume split⟩
    rw [position_of_indentTokens indented token member]
    exact stands.reached_line split
  | comment inside split =>
    exact ⟨by simp, (stands.consume split).consume List.takeWhile_append_dropWhile.symm⟩
  | lexeme inside split blank stop other read =>
    refine ⟨fun token member => ?_, (stands.consume split).consume (Lexeme.read_split read)⟩
    rw [List.mem_singleton.mp member]
    exact stands.reached split

theorem ScanState.reached_of_failed {text : List Char} {state : ScanState} {error : SyntaxError}
    (failed : state.round = .failed error) (stands : state.StandsIn text) : Reached text error.position := by
  have split (class? : Char → Bool) :
      state.rest = state.rest.takeWhile class? ++ state.rest.dropWhile class? :=
    List.takeWhile_append_dropWhile.symm
  unfold round beginLine continueLine at failed
  dsimp only at failed
  split at failed
  · split at failed
    · cases failed
    · split at failed
      · cases failed
      · split at failed
        · next wrong =>
          cases failed
          rw [position_of_indentTokens_error wrong]
          exact stands.reached_line (split isIndentChar)
        · cases failed
  · split at failed
    · cases failed
    · split at failed
      · cases failed
      · split at failed
        · cases failed
          exact stands.reached (split (isSpace state.depth))
        · cases failed

/-- A run reports its error at a place of the text, or all of its tokens stand at such places. -/
theorem ScanState.reached_run {text : List Char} {state : ScanState} (stands : state.StandsIn text) :
    (∀ error, state.run = .error error → Reached text error.position) ∧
      ∀ tokens, state.run = .ok tokens → ∀ token ∈ tokens, Reached text token.position := by
  fun_induction ScanState.run state with
  | case1 state position finished =>
    obtain ⟨-, rfl⟩ := ScanState.round_eq_finished_iff.mp finished
    refine ⟨by simp, fun tokens same token member => ?_⟩
    cases same
    -- all that closes the text is placed behind its last character
    have last : token.position = state.position.after state.rest := by
      simp only [closing, List.mem_append, List.mem_replicate, List.mem_singleton] at member
      rcases member with (member | ⟨-, rfl⟩) | rfl
      · split at member
        · rw [List.mem_singleton.mp member]
        · cases member
      · rfl
      · rfl
    rw [last]
    exact stands.reached (List.append_nil _).symm
  | case2 state error failed =>
    refine ⟨fun _ same => ?_, by simp⟩
    cases same
    exact reached_of_failed failed stands
  | case3 state emitted next advanced ih =>
    obtain ⟨here, later⟩ := (turn_of_round advanced).reached stands
    obtain ⟨rejected, scanned⟩ := ih later
    cases ran : next.run with
    | error error =>
      refine ⟨fun _ same => ?_, by simp [Except.map]⟩
      cases same
      exact rejected error ran
    | ok tokens =>
      refine ⟨by simp [Except.map], fun _ same token member => ?_⟩
      cases same
      rcases List.mem_append.mp member with member | member
      · exact here token member
      · exact scanned tokens ran token member

theorem scan_reached (source : String) :
    (∀ error, scan source = .error error → Reached source.toList error.position) ∧
      ∀ tokens, scan source = .ok tokens → ∀ token ∈ tokens, Reached source.toList token.position :=
  ScanState.reached_run ⟨[], rfl, rfl⟩

/-! ### Reading -/

inductive StaysIn (tokens : List Token) (left : β → List Token) : Except SyntaxError β → Prop where
  | ok {value : β} : left value <:+ tokens → StaysIn tokens left (.ok value)
  | error {error : SyntaxError} {rest : List Token} : rest <:+ tokens →
      error.position = (current rest).position → StaysIn tokens left (.error error)

/-- One step after another, each with what the one before it has left. -/
theorem StaysIn.bind {tokens : List Token} {left : β → List Token} {last : γ → List Token}
    {first : Except SyntaxError β} {next : β → Except SyntaxError γ} (stays : StaysIn tokens left first)
    (later : ∀ value, first = .ok value → StaysIn (left value) last (next value)) :
    StaysIn tokens last (first >>= next) := by
  cases stays with
  | @ok value inside =>
    rw [ok_bind]
    cases same : next value with
    | error error =>
      cases same ▸ later value rfl with
      | error behind place => exact .error (behind.trans inside) place
    | ok result =>
      cases same ▸ later value rfl with
      | ok behind => exact .ok (behind.trans inside)
  | error inside place => exact .error inside place

theorem StaysIn.map {tokens : List Token} {left : β → List Token} {last : γ → List Token}
    {first : Except SyntaxError β} {f : β → γ} (stays : StaysIn tokens left first)
    (same : ∀ value, last (f value) = left value) : StaysIn tokens last (first.map f) := by
  cases stays with
  | @ok value inside => exact .ok (same value ▸ inside)
  | error inside place => exact .error inside place

theorem StaysIn.mono {tokens all : List Token} {left : β → List Token} {result : Except SyntaxError β}
    (stays : StaysIn tokens left result) (inside : tokens <:+ all) : StaysIn all left result := by
  cases stays with
  | ok behind => exact .ok (behind.trans inside)
  | error behind place => exact .error (behind.trans inside) place

def Contained (read : List Token → Except SyntaxError (β × List Token)) : Prop :=
  ∀ tokens, StaysIn tokens Prod.snd (read tokens)

theorem staysIn_reject (left : β → List Token) (fault : Symbol → Fault) (tokens : List Token) :
    StaysIn tokens left (reject fault tokens) :=
  .error List.suffix_rfl rfl

theorem staysIn_expect (symbol : Symbol) (tokens : List Token) : StaysIn tokens id (expect symbol tokens) := by
  unfold expect
  split
  · split
    · exact .ok (List.suffix_cons _ _)
    · exact staysIn_reject _ _ _
  · exact staysIn_reject _ _ _

theorem skipNewlines_suffix (tokens : List Token) : skipNewlines tokens <:+ tokens :=
  List.dropWhile_suffix _

theorem Reader.more_contained {reader : Reader β} (each : Contained reader.read) : Contained reader.more := by
  intro tokens
  induction length : tokens.length using Nat.strong_induction_on generalizing tokens with
  | _ n ih =>
    subst length
    cases tokens with
    | nil =>
      rw [Reader.more]
      exact .ok List.suffix_rfl
    | cons token rest =>
      rw [Reader.more_cons]
      split
      · refine StaysIn.mono ?_ (List.suffix_cons token rest)
        apply (each rest).bind
        rintro ⟨item, left⟩ read
        have shorter : left.length < (token :: rest).length :=
          Nat.lt_of_lt_of_le (reader.shorter read) (Nat.le_succ _)
        apply (ih _ shorter left rfl).bind
        rintro ⟨items, last⟩ -
        exact .ok List.suffix_rfl
      · exact .ok List.suffix_rfl

theorem Reader.separated_contained {reader : Reader β} (each : Contained reader.read) :
    Contained reader.separated.read := by
  intro tokens
  apply (each tokens).bind
  rintro ⟨item, rest⟩ -
  apply (Reader.more_contained each rest).bind
  rintro ⟨items, left⟩ -
  exact .ok List.suffix_rfl

theorem Reader.untilClosed_contained {reader : Reader β} (each : Contained reader.read) (close : Symbol) :
    Contained (reader.untilClosed close) := by
  intro tokens
  unfold Reader.untilClosed
  split
  · exact (staysIn_expect close tokens).map fun _ => rfl
  · apply (Reader.separated_contained each tokens).bind
    rintro ⟨items, rest⟩ -
    apply (staysIn_expect close rest).bind
    rintro left -
    exact .ok List.suffix_rfl

theorem readParenthesized_contained {reader : Reader β} (each : Contained reader.read) :
    Contained (readParenthesized reader) := by
  intro tokens
  unfold readParenthesized
  split
  · refine StaysIn.mono ?_ (List.suffix_cons _ _)
    apply (Reader.untilClosed_contained each .closeParen _).bind
    rintro ⟨items, left⟩ -
    exact .ok List.suffix_rfl
  · exact .ok List.suffix_rfl

theorem readIdentifier_contained : Contained readIdentifier := by
  intro tokens
  unfold readIdentifier
  split
  · exact .ok (List.suffix_cons _ _)
  · exact staysIn_reject _ _ _

theorem typeReader_contained : Contained typeReader.read := by
  intro tokens
  apply (readIdentifier_contained tokens).bind
  rintro ⟨⟨name, position⟩, rest⟩ -
  exact .ok List.suffix_rfl

theorem readLiteral_contained : Contained readLiteral := by
  intro tokens
  unfold readLiteral
  split
  · exact .ok (List.suffix_cons _ _)
  · exact .ok (List.suffix_cons _ _)
  · exact .ok (List.suffix_cons _ _)
  · refine StaysIn.mono ?_ (List.suffix_cons _ _)
    split
    · exact .ok (List.suffix_cons _ _)
    · exact staysIn_reject _ _ _
  · exact staysIn_reject _ _ _

theorem readLabelBefore_suffix (mark : Symbol) (tokens : List Token) :
    (readLabelBefore mark tokens).2 <:+ tokens := by
  unfold readLabelBefore
  split
  · split
    · exact (List.suffix_cons _ _).trans (List.suffix_cons _ _)
    · exact List.suffix_rfl
  · exact List.suffix_rfl

theorem argumentReader_contained : Contained argumentReader.read := by
  intro tokens
  refine StaysIn.mono ?_ (readLabelBefore_suffix .equals tokens)
  apply (readLiteral_contained _).bind
  rintro ⟨value, rest⟩ -
  exact .ok List.suffix_rfl

theorem parameterReader_contained : Contained parameterReader.read := by
  intro tokens
  refine StaysIn.mono ?_ (readLabelBefore_suffix .colon tokens)
  apply (typeReader_contained _).bind
  rintro ⟨type, rest⟩ -
  exact .ok List.suffix_rfl

theorem readTypeArguments_contained : Contained readTypeArguments := by
  intro tokens
  unfold readTypeArguments
  split
  · refine StaysIn.mono ?_ (List.suffix_cons _ _)
    apply (Reader.separated_contained typeReader_contained _).bind
    rintro ⟨types, left⟩ -
    apply (staysIn_expect .closeBracket left).bind
    rintro last -
    exact .ok List.suffix_rfl
  · exact .ok List.suffix_rfl

theorem readAttribute_contained (position : Position) : Contained (readAttribute position) := by
  intro tokens
  apply (readIdentifier_contained tokens).bind
  rintro ⟨⟨name, place⟩, rest⟩ -
  apply (readTypeArguments_contained rest).bind
  rintro ⟨types, left⟩ -
  apply (readParenthesized_contained argumentReader_contained left).bind
  rintro ⟨arguments, last⟩ -
  exact .ok List.suffix_rfl

theorem readAttributes_contained : Contained readAttributes := by
  intro tokens
  induction length : tokens.length using Nat.strong_induction_on generalizing tokens with
  | _ n ih =>
    subst length
    by_cases sign : (current tokens).symbol = .atSign
    · obtain _ | ⟨⟨_, position⟩, rest⟩ := tokens
      · cases sign
      · cases sign
        rw [readAttributes_cons]
        refine StaysIn.mono ?_ (List.suffix_cons _ rest)
        apply (readAttribute_contained position rest).bind
        rintro ⟨attr, left⟩ read
        have shorter : (skipNewlines left).length < (⟨.atSign, position⟩ :: rest : List Token).length :=
          Nat.lt_of_le_of_lt (length_skipNewlines_le left)
            (Nat.lt_of_lt_of_le (readAttribute_shorter read) (Nat.le_succ _))
        refine StaysIn.mono ?_ (skipNewlines_suffix left)
        apply (ih _ shorter _ rfl).bind
        rintro ⟨attrs, last⟩ -
        exact .ok List.suffix_rfl
    · rw [readAttributes_none sign]
      exact .ok List.suffix_rfl

theorem variantReader_contained : Contained variantReader.read := by
  intro tokens
  apply (readIdentifier_contained tokens).bind
  rintro ⟨⟨name, position⟩, rest⟩ -
  apply (readParenthesized_contained parameterReader_contained rest).bind
  rintro ⟨parameters, left⟩ -
  exact .ok List.suffix_rfl

theorem caseLineReader_contained : Contained caseLineReader.read := by
  intro tokens
  apply (readAttributes_contained tokens).bind
  rintro ⟨attributes, rest⟩ -
  apply (Reader.separated_contained variantReader_contained rest).bind
  rintro ⟨variants, left⟩ -
  dsimp only
  split
  · exact .ok (skipNewlines_suffix left)
  · exact staysIn_reject _ _ _

theorem readCaseLines_contained : Contained readCaseLines := by
  intro tokens
  induction length : tokens.length using Nat.strong_induction_on generalizing tokens with
  | _ n ih =>
    subst length
    refine StaysIn.mono ?_ (skipNewlines_suffix tokens)
    cases ends : (current (skipNewlines tokens)).symbol.endsBlock with
    | false =>
      rw [readCaseLines_more ends]
      apply (caseLineReader_contained _).bind
      rintro ⟨line, rest⟩ read
      have shorter : rest.length < tokens.length :=
        Nat.lt_of_lt_of_le (caseLineReader.shorter read) (length_skipNewlines_le tokens)
      apply (ih _ shorter _ rfl).bind
      rintro ⟨lines, last⟩ -
      exact .ok List.suffix_rfl
    | true =>
      rw [readCaseLines, if_pos ends]
      split
      · next closed =>
        rw [closed]
        exact .ok (List.suffix_cons _ _)
      · exact .ok List.suffix_rfl

theorem readBlock_contained (kind : DeclKind) : Contained (readBlock kind) := by
  intro tokens
  unfold readBlock
  split
  · refine StaysIn.mono ?_ (List.suffix_cons _ _)
    split
    · exact readCaseLines_contained _
    · exact .ok (skipBlock_suffix 1 _)
  · exact .ok List.suffix_rfl

theorem readDeclarationRest_contained (kind : DeclKind) (position : Position)
    (attributes : List (Attribute Position)) : Contained (readDeclarationRest kind position attributes) := by
  intro tokens
  apply (readIdentifier_contained tokens).bind
  rintro ⟨⟨name, place⟩, rest⟩ -
  apply (staysIn_expect .colon rest).bind
  rintro marked -
  apply (staysIn_expect .newline marked).bind
  rintro behind -
  refine StaysIn.mono ?_ (skipNewlines_suffix behind)
  apply (readBlock_contained kind _).bind
  rintro ⟨lines, left⟩ -
  exact .ok List.suffix_rfl

theorem declarationReader_contained : Contained declarationReader.read := by
  intro tokens
  apply (readAttributes_contained tokens).bind
  rintro ⟨attributes, rest⟩ -
  dsimp only
  split
  · exact (readDeclarationRest_contained _ _ _ _).mono (List.suffix_cons _ _)
  · exact staysIn_reject _ _ _

/-- An error in declarations is reported at one of the tokens. -/
theorem readDeclarations_stays (tokens : List Token) :
    StaysIn tokens (fun _ => []) (readDeclarations tokens) := by
  induction length : tokens.length using Nat.strong_induction_on generalizing tokens with
  | _ n ih =>
    subst length
    refine StaysIn.mono ?_ (skipNewlines_suffix tokens)
    by_cases ends : (current (skipNewlines tokens)).symbol = .eof
    · rw [readDeclarations, if_pos ends]
      exact .ok (List.nil_suffix)
    · rw [readDeclarations_more ends]
      apply (declarationReader_contained _).bind
      rintro ⟨declaration, rest⟩ read
      have shorter : rest.length < tokens.length :=
        Nat.lt_of_lt_of_le (declarationReader.shorter read) (length_skipNewlines_le tokens)
      apply (ih _ shorter _ rfl).bind
      rintro declarations -
      exact .ok List.nil_suffix

theorem parse_reached {source : String} {error : SyntaxError} (failed : parse source = .error error) :
    Reached source.toList error.position := by
  obtain ⟨rejected, scanned⟩ := scan_reached source
  unfold parse at failed
  cases result : scan source with
  | error first =>
    rw [result, error_bind] at failed
    cases failed
    exact rejected _ result
  | ok tokens =>
    rw [result, ok_bind] at failed
    cases failed ▸ readDeclarations_stays tokens with
    | @error _ rest behind place =>
      rw [place]
      cases rest with
      | nil => exact ⟨[], source.toList, rfl, rfl, Nat.le_refl 1, Nat.le_refl 1⟩
      | cons token rest => exact scanned tokens result token (behind.subset List.mem_cons_self)

/-! ### Messages -/

theorem digitChar_ne_newline (digit : Nat) (small : digit < 16) : Nat.digitChar digit ≠ '\n' := by
  decide +revert

theorem newline_not_mem_hexDigits (width n : Nat) : '\n' ∉ Text.hexDigits width n := by
  induction width generalizing n with
  | zero => simp [Text.hexDigits]
  | succ width ih =>
    have digit := digitChar_ne_newline (n % 16) (Nat.mod_lt n (by omega))
    simp [Text.hexDigits, ih, digit.symm]

theorem newline_not_mem_quotedChar {quote : Char} (other : quote ≠ '\n') (c : Char) :
    '\n' ∉ Text.quotedChar quote c := by
  unfold Text.quotedChar Text.codePointEscape
  split
  · next escaped =>
    have plain : c ≠ '\n' := by
      rintro rfl
      simp [other.symm] at escaped
    simp [plain.symm]
  · split
    · simp
    · next plain =>
      have inside : '\n' ≠ c := fun same => plain (by simp [← same])
      split
      · simp
      · split
        · simp
        · split
          · simp [inside]
          · split
            · simp [newline_not_mem_hexDigits]
            · split
              · simp [newline_not_mem_hexDigits]
              · simp [newline_not_mem_hexDigits]

theorem newline_not_mem_quoted (text : String) : '\n' ∉ (Text.quoted text).toList := by
  have quote : Text.quoteFor text.toList ≠ '\n' := by
    unfold Text.quoteFor
    split
    · decide
    · decide
  simp [Text.quoted, newline_not_mem_quotedChar quote, quote.symm]

theorem newline_not_mem_kind (kind : SymbolKind) : '\n' ∉ kind.text.toList := by
  cases kind with
  | keyword word => cases word <;> decide
  | _ => decide

theorem newline_not_mem_description (symbol : Symbol) : '\n' ∉ symbol.description.toList := by
  have kind := newline_not_mem_kind symbol.kind
  cases symbol <;> simp_all [Symbol.description, newline_not_mem_quoted]

theorem toString_text (text : String) : toString text = text := rfl

theorem newline_not_mem_message (fault : Fault) : '\n' ∉ fault.message.toList := by
  cases fault with
  | unterminatedString => decide
  | unterminatedPlaceholder => decide
  | inconsistentIndentation level found =>
    have digits (number : Nat) : toString number = Nat.repr number := rfl
    unfold Fault.message
    simp [toString_text, digits, newline_not_mem_toDigits]
  | _ =>
    unfold Fault.message
    simp [toString_text, newline_not_mem_quoted, newline_not_mem_kind, newline_not_mem_description]

theorem isMarker_message (fault : Fault) : isMarker fault.message = false := by
  apply isMarker_eq_false (c := 'e') ?_ (by decide) (by decide)
  cases fault with
  | unterminatedString => decide
  | unterminatedPlaceholder => decide
  | _ =>
    unfold Fault.message
    simp [toString_text]

theorem isMarker_location (location : Location) : isMarker location.text = false := by
  apply isMarker_eq_false (c := ':') ?_ (by decide) (by decide)
  simp [Location.text, toString_text]

theorem isMarker_shownRow (row : String × Nat) : isMarker (shownRow row) = false := by
  apply isMarker_eq_false (c := '|') ?_ (by decide) (by decide)
  simp [shownRow, margin]

/-! ### What is shown -/

theorem getElem?_shownRow (position : Position) (line : String) :
    (shownRow (line, position.line)).toList[(markerRow position).toList.idxOf '^']? =
      line.toList[position.column - 1]? := by
  rw [idxOf_markerRow, shownRow, String.toList_append, ← String.length_toList,
    List.getElem?_append_right (Nat.le_add_right _ _), Nat.add_sub_cancel_left]

theorem countP_marker (location : Location) (fault : Fault) (position : Position)
    (above : List (String × Nat)) (line : String) (below : List (String × Nat)) :
    (location.text :: (markedRows position above line below ++ [fault.message])).countP isMarker = 1 := by
  have numbered (rows : List (String × Nat)) : (rows.map shownRow).countP isMarker = 0 := by
    apply List.countP_eq_zero.mpr
    intro row member
    obtain ⟨shown, -, rfl⟩ := List.mem_map.mp member
    rw [isMarker_shownRow]
    exact Bool.false_ne_true
  simp [markedRows, numbered, isMarker_location, isMarker_message, isMarker_markerRow, isMarker_shownRow]

theorem newline_not_mem_markedRows {source : String} {position : Position} {above below : List (String × Nat)}
    {line : String} (around : Surrounds source position above line below) :
    ∀ row ∈ markedRows position above line below, '\n' ∉ row.toList := by
  have numbered {row : String × Nat} (member : row ∈ above ++ (line, position.line) :: below) :
      '\n' ∉ (shownRow row).toList := by
    have inside := Text.newline_not_mem_lines (List.mem_of_getElem? (around.lines row member).2)
    simp [shownRow, newline_not_mem_margin, inside]
  intro row member
  simp only [markedRows, List.mem_append, List.mem_map, List.mem_cons, List.not_mem_nil, or_false] at member
  rcases member with (⟨shown, inside, rfl⟩ | rfl | rfl) | ⟨shown, inside, rfl⟩
  · exact numbered (List.mem_append_left _ inside)
  · exact numbered (by simp)
  · simp [markerRow, List.mem_replicate]
  · exact numbered (by simp [inside])

theorem parse_empty : parse "" = .ok [] := by
  decide +kernel

/-- A text that is rejected is rejected at one of its lines, at a character of it or right behind its last
one. The message gives the location and the fault, and in between the line with up to two lines on either
side, each behind its own number, and directly below the line the only marker, with its tip under the
column. -/
theorem syntax_errors_are_shown {source : String} {error : SyntaxError} (failed : parse source = .error error)
    (file : String) :
    error.position.InText source ∧ excerpt source error.position.line excerptContext ≠ "" ∧
      ∃ above line below, Surrounds source error.position above line below ∧
        (let rows := (Location.of file error.position).text ::
          (markedRows error.position above line below ++ [error.fault.message])
        error.message file source = Text.unlines rows ∧ rows.countP isMarker = 1) ∧
        (∀ row ∈ markedRows error.position above line below, '\n' ∉ row.toList) ∧
        '\n' ∉ error.fault.message.toList ∧
        (shownRow (line, error.position.line)).toList[(markerRow error.position).toList.idxOf '^']? =
          line.toList[error.position.column - 1]? := by
  have inText := (parse_reached failed).inText
  have some : source ≠ "" := by
    rintro rfl
    rw [parse_empty] at failed
    cases failed
  have shown := excerpt_ne_empty inText some
  obtain ⟨above, line, below, rows, around⟩ := rowsAround_surrounds inText
  have whole : error.message file source =
      Text.unlines ((Location.of file error.position).text ::
        (markedRows error.position above line below ++ [error.fault.message])) := by
    -- the marked rows are at least one, so the message stands on a line of its own
    have apart : markedRows error.position above line below ≠ [] := by simp [markedRows]
    have described : (Location.of file error.position).inSource source =
        (Location.of file error.position).text ++ "\n" ++
          Text.unlines (markedRows error.position above line below) := by
      unfold Location.inSource Location.describe
      rw [show (Location.of file error.position).line = error.position.line from rfl, if_neg shown,
        excerpt_eq inText, rows, around.annotate inText file]
    rw [Text.unlines_cons _ (by simp), Text.unlines_concat apart, SyntaxError.message, described]
    simp only [String.append_assoc]
  exact ⟨inText, shown, above, line, below, around, ⟨whole, countP_marker _ _ _ _ _ _⟩,
    newline_not_mem_markedRows around, newline_not_mem_message _, getElem?_shownRow _ _⟩

/-- An enumeration that lacks a variant behind a comma, with lines before and behind. -/
def torn : String :=
  "@Ink(\"a\\\nb\",\n 9)\nenum Torn:\n\tplain\n\tfrayed, )\n\tbold\n"

theorem torn_shown :
    parse torn = .error ⟨.expected .identifier .closeParen, ⟨6, 10⟩⟩ ∧ (Position.mk 6 10).InText torn ∧
      ∃ above line below, Surrounds torn ⟨6, 10⟩ above line below ∧ above.length = 2 ∧
        '\n' ∉ (Fault.expected .identifier .closeParen).message.toList := by
  have failed : parse torn = .error ⟨.expected .identifier .closeParen, ⟨6, 10⟩⟩ := by decide +kernel
  obtain ⟨inText, -, above, line, below, around, -, -, plain, -⟩ := syntax_errors_are_shown failed "torn"
  exact ⟨failed, inText, above, line, below, around, around.above_length, plain⟩

end RawMapping
