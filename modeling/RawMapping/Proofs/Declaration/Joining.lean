import RawMapping.Proofs.Declaration.Deriving
import RawMapping.Proofs.Declaration.Identity
import RawMapping.Proofs.Token.Seam

/-! Reading two texts in one. What the grammar derives depends on the positions of the tokens only in
the positions that the declarations carry, and a file can be followed by another where its end stood;
so the declarations of two texts are those of both in one. -/

set_option autoImplicit false

namespace RawMapping

variable {β γ : Type}

/-! ### The same symbols elsewhere -/

/-- Tokens with the same symbols at other positions are derived too, with a value of the same shape. -/
def Replays (rule : Rule β) (shape : β → γ) : Prop :=
  ∀ word value, rule word value → ∀ other : List Token,
    other.map (·.symbol) = word.map (·.symbol) → ∃ again, rule other again ∧ shape again = shape value

theorem LabelRule.replays {mark : Symbol} {word other : List Token} {label : Option String}
    (derived : LabelRule mark word label) (written : other.map (·.symbol) = word.map (·.symbol)) :
    LabelRule mark other label := by
  cases derived with
  | absent =>
    cases List.map_eq_nil_iff.mp written
    exact .absent
  | present label =>
    obtain ⟨position, _, rfl, behind⟩ := tokens_eq_cons written
    obtain ⟨place, rfl⟩ := tokens_eq_singleton behind
    exact .present label position place

theorem LiteralRule.replays : Replays LiteralRule (Literal.map fun _ => ()) := by
  intro word value derived other written
  cases derived with
  | string value =>
    obtain ⟨position, rfl⟩ := tokens_eq_singleton written
    exact ⟨_, .string value position, rfl⟩
  | placeholder label =>
    obtain ⟨position, rfl⟩ := tokens_eq_singleton written
    exact ⟨_, .placeholder label position, rfl⟩
  | number digits =>
    obtain ⟨position, rfl⟩ := tokens_eq_singleton written
    exact ⟨_, .number digits position, rfl⟩
  | negative digits =>
    obtain ⟨position, _, rfl, behind⟩ := tokens_eq_cons written
    obtain ⟨place, rfl⟩ := tokens_eq_singleton behind
    exact ⟨_, .negative digits position place, rfl⟩

theorem ArgumentRule.replays : Replays ArgumentRule (Argument.map fun _ => ()) := by
  rintro _ _ ⟨labelled, given⟩ other written
  rw [List.map_append] at written
  obtain ⟨labelWord, valueWord, rfl, labelWritten, valueWritten⟩ := tokens_eq_append written
  obtain ⟨value, given, same⟩ := LiteralRule.replays _ _ given _ valueWritten
  exact ⟨_, .mk (labelled.replays labelWritten) given, by simp [Argument.map, same]⟩

theorem TypeRule.replays : Replays TypeRule (NamedType.map fun _ => ()) := by
  rintro _ _ ⟨name, _⟩ other written
  obtain ⟨position, rfl⟩ := tokens_eq_singleton written
  exact ⟨_, .mk name position, rfl⟩

theorem ParameterRule.replays : Replays ParameterRule (Parameter.map fun _ => ()) := by
  rintro _ _ ⟨labelled, typed⟩ other written
  rw [List.map_append] at written
  obtain ⟨labelWord, typeWord, rfl, labelWritten, typeWritten⟩ := tokens_eq_append written
  obtain ⟨type, typed, same⟩ := TypeRule.replays _ _ typed _ typeWritten
  exact ⟨_, .mk (labelled.replays labelWritten) typed, by simp [Parameter.map, same]⟩

theorem FurtherRule.replays {item : Rule β} {shape : β → γ} (each : Replays item shape) :
    Replays (FurtherRule item) (List.map shape) := by
  intro word values derived
  induction derived with
  | nil =>
    intro other written
    cases List.map_eq_nil_iff.mp written
    exact ⟨[], .nil, rfl⟩
  | cons _ first _ ih =>
    intro other written
    rw [List.map_cons, List.map_append] at written
    obtain ⟨comma, _, rfl, behind⟩ := tokens_eq_cons written
    obtain ⟨word, later, rfl, wordWritten, laterWritten⟩ := tokens_eq_append behind
    obtain ⟨value, first, same⟩ := each _ _ first _ wordWritten
    obtain ⟨values, others, sameLater⟩ := ih _ laterWritten
    exact ⟨_, .cons comma first others, congrArg₂ List.cons same sameLater⟩

theorem SeparatedRule.replays {item : Rule β} {shape : β → γ} (each : Replays item shape) :
    Replays (SeparatedRule item) (List.map shape) := by
  rintro _ _ ⟨first, others⟩ other written
  rw [List.map_append] at written
  obtain ⟨word, later, rfl, wordWritten, laterWritten⟩ := tokens_eq_append written
  obtain ⟨value, first, same⟩ := each _ _ first _ wordWritten
  obtain ⟨values, others, sameLater⟩ := FurtherRule.replays each _ _ others _ laterWritten
  exact ⟨_, .mk first others, congrArg₂ List.cons same sameLater⟩

theorem ManyRule.replays {item : Rule β} {shape : β → γ} (each : Replays item shape) :
    Replays (ManyRule item) (List.map shape) := by
  intro word values derived
  induction derived with
  | nil =>
    intro other written
    cases List.map_eq_nil_iff.mp written
    exact ⟨[], .nil, rfl⟩
  | cons first _ ih =>
    intro other written
    rw [List.map_append] at written
    obtain ⟨word, later, rfl, wordWritten, laterWritten⟩ := tokens_eq_append written
    obtain ⟨value, first, same⟩ := each _ _ first _ wordWritten
    obtain ⟨values, others, sameLater⟩ := ih _ laterWritten
    exact ⟨_, .cons first others, congrArg₂ List.cons same sameLater⟩

theorem tokens_eq_between {tokens inner : List Token} {opening closing : Token}
    (written : tokens.map (·.symbol) = (opening :: (inner ++ [closing])).map (·.symbol)) :
    ∃ first word last, tokens = ⟨opening.symbol, first⟩ :: (word ++ [⟨closing.symbol, last⟩]) ∧
      word.map (·.symbol) = inner.map (·.symbol) := by
  rw [List.map_cons, List.map_append] at written
  obtain ⟨first, _, rfl, behind⟩ := tokens_eq_cons written
  obtain ⟨word, _, rfl, wordWritten, closed⟩ := tokens_eq_append behind
  obtain ⟨last, rfl⟩ := tokens_eq_singleton closed
  exact ⟨first, word, last, rfl, wordWritten⟩

theorem TypeArgumentsRule.replays : Replays TypeArgumentsRule (List.map (NamedType.map fun _ => ())) := by
  intro word types derived other written
  cases derived with
  | absent =>
    cases List.map_eq_nil_iff.mp written
    exact ⟨[], .absent, rfl⟩
  | present _ _ listed =>
    obtain ⟨opening, word, closing, rfl, wordWritten⟩ := tokens_eq_between written
    obtain ⟨types, listed, same⟩ := SeparatedRule.replays TypeRule.replays _ _ listed _ wordWritten
    exact ⟨types, .present opening closing listed, same⟩

theorem ParenthesizedRule.replays {item : Rule β} {shape : β → γ} (each : Replays item shape) :
    Replays (ParenthesizedRule item) (Option.map (List.map shape)) := by
  intro word items derived other written
  cases derived with
  | absent =>
    cases List.map_eq_nil_iff.mp written
    exact ⟨none, .absent, rfl⟩
  | empty =>
    obtain ⟨opening, _, rfl, closed⟩ := tokens_eq_cons written
    obtain ⟨closing, rfl⟩ := tokens_eq_singleton closed
    exact ⟨some [], .empty opening closing, rfl⟩
  | present _ _ listed =>
    obtain ⟨opening, word, closing, rfl, wordWritten⟩ := tokens_eq_between written
    obtain ⟨items, listed, same⟩ := SeparatedRule.replays each _ _ listed _ wordWritten
    exact ⟨some items, .present opening closing listed, congrArg some same⟩

theorem Newlines.replays {gap other : List Token} (ended : Newlines gap)
    (written : other.map (·.symbol) = gap.map (·.symbol)) : Newlines other := by
  intro token member
  have shown : token.symbol ∈ gap.map (·.symbol) := written ▸ List.mem_map_of_mem member
  obtain ⟨source, sourceMember, same⟩ := List.mem_map.mp shown
  rw [← same, ended source sourceMember]

theorem ne_nil_of_symbols {tokens other : List Token} (some : tokens ≠ [])
    (written : other.map (·.symbol) = tokens.map (·.symbol)) : other ≠ [] := by
  rintro rfl
  exact some (List.map_eq_nil_iff.mp written.symm)

theorem map_getD_of_map_eq {shape : β → γ} {first second : Option (List β)}
    (same : first.map (List.map shape) = second.map (List.map shape)) :
    (first.getD []).map shape = (second.getD []).map shape := by
  cases first <;> cases second <;> simp_all

theorem AttributeRule.replays : Replays AttributeRule Attribute.shape := by
  rintro _ _ ⟨_, name, _, typed, applied, ended⟩ other written
  rw [List.map_cons, List.map_cons, List.map_append, List.map_append] at written
  obtain ⟨sign, _, rfl, named⟩ := tokens_eq_cons written
  obtain ⟨position, _, rfl, behind⟩ := tokens_eq_cons named
  obtain ⟨typesWord, _, rfl, typesWritten, further⟩ := tokens_eq_append behind
  obtain ⟨argumentsWord, gap, rfl, argumentsWritten, gapWritten⟩ := tokens_eq_append further
  obtain ⟨types, typed, sameTypes⟩ := TypeArgumentsRule.replays _ _ typed _ typesWritten
  obtain ⟨arguments, applied, sameArguments⟩ :=
    ParenthesizedRule.replays ArgumentRule.replays _ _ applied _ argumentsWritten
  refine ⟨_, .mk sign name position typed applied (ended.replays gapWritten), ?_⟩
  simp [Attribute.shape, Attribute.map, Identifier.map, sameTypes, map_getD_of_map_eq sameArguments]

theorem VariantRule.replays : Replays VariantRule Variant.shape := by
  rintro _ _ ⟨name, _, payload⟩ other written
  obtain ⟨position, word, rfl, wordWritten⟩ := tokens_eq_cons written
  obtain ⟨parameters, payload, same⟩ :=
    ParenthesizedRule.replays ParameterRule.replays _ _ payload _ wordWritten
  exact ⟨_, .mk name position payload, by simp [Variant.shape, Variant.map, same, Identifier.map]⟩

theorem CaseLineRule.replays : Replays CaseLineRule CaseLine.shape := by
  rintro _ _ ⟨annotated, listed, ended, some⟩ other written
  rw [List.map_append, List.map_append] at written
  obtain ⟨above, _, rfl, aboveWritten, behind⟩ := tokens_eq_append written
  obtain ⟨word, gap, rfl, wordWritten, gapWritten⟩ := tokens_eq_append behind
  obtain ⟨attributes, annotated, sameAttributes⟩ :=
    ManyRule.replays AttributeRule.replays _ _ annotated _ aboveWritten
  obtain ⟨variants, listed, sameVariants⟩ :=
    SeparatedRule.replays VariantRule.replays _ _ listed _ wordWritten
  refine ⟨_, .mk annotated listed (ended.replays gapWritten) (ne_nil_of_symbols some gapWritten), ?_⟩
  rw [CaseLine.shape_eq, CaseLine.shape_eq, sameAttributes, sameVariants]

theorem Balanced.replays {word : List Token} (balanced : Balanced word) {other : List Token}
    (written : other.map (·.symbol) = word.map (·.symbol)) : Balanced other := by
  induction balanced generalizing other with
  | nil =>
    cases List.map_eq_nil_iff.mp written
    exact .nil
  | token opens closes _ ih =>
    obtain ⟨position, later, rfl, laterWritten⟩ := tokens_eq_cons written
    exact .token opens closes (ih laterWritten)
  | block _ _ _ _ ihInner ihLater =>
    rw [List.map_cons, List.map_append, List.map_cons] at written
    obtain ⟨opening, _, rfl, opened⟩ := tokens_eq_cons written
    obtain ⟨inner, _, rfl, innerWritten, closed⟩ := tokens_eq_append opened
    obtain ⟨closing, later, rfl, laterWritten⟩ := tokens_eq_cons closed
    exact .block opening closing (ihInner innerWritten) (ihLater laterWritten)

theorem BlockRule.replays (kind : DeclKind) : Replays (BlockRule kind) (List.map CaseLine.shape) := by
  intro word lines derived other written
  cases derived with
  | enumeration _ _ members =>
    obtain ⟨opening, word, closing, rfl, wordWritten⟩ := tokens_eq_between written
    obtain ⟨lines, members, same⟩ := ManyRule.replays CaseLineRule.replays _ _ members _ wordWritten
    exact ⟨lines, .enumeration opening closing members, same⟩
  | skipped _ _ kept inside =>
    obtain ⟨opening, word, closing, rfl, wordWritten⟩ := tokens_eq_between written
    exact ⟨[], .skipped opening closing kept (inside.replays wordWritten), rfl⟩

theorem BodyRule.replays {kind : DeclKind} {next : Position} {word : List Token} {body : Body Position}
    (derived : BodyRule kind next word body) {other : List Token}
    (written : other.map (·.symbol) = word.map (·.symbol)) (later : Position) :
    ∃ again, BodyRule kind later other again ∧
      again.lines.map CaseLine.shape = body.lines.map CaseLine.shape := by
  cases derived with
  | absent =>
    cases List.map_eq_nil_iff.mp written
    exact ⟨_, .absent, rfl⟩
  | present block =>
    obtain ⟨lines, block, same⟩ := BlockRule.replays kind _ _ block _ written
    exact ⟨_, .present block, same⟩

theorem DeclarationRule.replays {next : Position} {word : List Token} {declaration : Declaration Position}
    (derived : DeclarationRule next word declaration) {other : List Token}
    (written : other.map (·.symbol) = word.map (·.symbol)) (later : Position) :
    ∃ again, DeclarationRule later other again ∧ again.shape = declaration.shape := by
  obtain ⟨annotated, _, name, _, _, ended, some, below⟩ := derived
  simp only [List.map_append, List.map_cons] at written
  obtain ⟨above, _, rfl, aboveWritten, head⟩ := tokens_eq_append written
  obtain ⟨keyword, _, rfl, named⟩ := tokens_eq_cons head
  obtain ⟨position, _, rfl, marked⟩ := tokens_eq_cons named
  obtain ⟨colon, _, rfl, behind⟩ := tokens_eq_cons marked
  obtain ⟨gap, word, rfl, gapWritten, wordWritten⟩ := tokens_eq_append behind
  obtain ⟨attributes, annotated, sameAttributes⟩ :=
    ManyRule.replays AttributeRule.replays _ _ annotated _ aboveWritten
  obtain ⟨body, below, sameLines⟩ := below.replays wordWritten later
  refine ⟨_, .mk annotated keyword name position colon (ended.replays gapWritten)
    (ne_nil_of_symbols some gapWritten) below,
    ?_⟩
  simp only [Declaration.shape, Declaration.map, Body.map, Identifier.map, Declaration.mk.injEq,
    Body.mk.injEq, true_and, and_true]
  exact ⟨sameAttributes, sameLines⟩

theorem DeclarationsRule.replays : Replays DeclarationsRule (List.map Declaration.shape) := by
  intro word declarations derived
  induction derived with
  | done =>
    intro other written
    obtain ⟨position, rfl⟩ := tokens_eq_singleton written
    exact ⟨[], .done position, rfl⟩
  | cons first ended _ ih =>
    intro other written
    rw [List.map_append, List.map_append] at written
    obtain ⟨word, _, rfl, wordWritten, behind⟩ := tokens_eq_append written
    obtain ⟨gap, later, rfl, gapWritten, laterWritten⟩ := tokens_eq_append behind
    obtain ⟨declarations, others, sameOthers⟩ := ih _ laterWritten
    obtain ⟨declaration, first, same⟩ := first.replays wordWritten (current later).position
    exact ⟨_, .cons first (ended.replays gapWritten) others, congrArg₂ List.cons same sameOthers⟩

theorem FileRule.replays : Replays FileRule (List.map Declaration.shape) := by
  rintro _ _ ⟨ended, listed⟩ other written
  rw [List.map_append] at written
  obtain ⟨gap, later, rfl, gapWritten, laterWritten⟩ := tokens_eq_append written
  obtain ⟨declarations, listed, same⟩ := DeclarationsRule.replays _ _ listed _ laterWritten
  exact ⟨declarations, .mk (ended.replays gapWritten) listed, same⟩

/-! ### One file behind another -/

theorem FileRule.exists_listed {tokens : List Token} {declarations : List (Declaration Position)}
    (derived : FileRule tokens declarations) :
    ∃ gap later, tokens = gap ++ later ∧ Newlines gap ∧ DeclarationsRule later declarations := by
  obtain ⟨ended, listed⟩ := derived
  exact ⟨_, _, rfl, ended, listed⟩

theorem FileRule.behind {gap tokens : List Token} {declarations : List (Declaration Position)}
    (derived : FileRule tokens declarations) (newlines : Newlines gap) :
    FileRule (gap ++ tokens) declarations := by
  obtain ⟨ended, listed⟩ := derived
  rw [← List.append_assoc]
  exact .mk (List.forall_mem_append.mpr ⟨newlines, ended⟩) listed

theorem FileRule.outer {tokens : List Token} {declarations : List (Declaration Position)}
    (derived : FileRule tokens declarations) : ∀ token ∈ tokens.head?, token.symbol ≠ .indent := by
  obtain ⟨ended, listed⟩ := derived
  rename_i gap later
  cases gap with
  | nil =>
    obtain ⟨first, rest, rfl, -, block⟩ := DeclarationsRule.begins _ _ listed
    simpa using block
  | cons first gap => simp [ended first List.mem_cons_self]

theorem withoutLines_symbols (tokens : List Token) :
    withoutLines (tokens.map (·.symbol)) = (skipNewlines tokens).map (·.symbol) :=
  List.dropWhile_map ..

/-- Where a file ends, another one can go on. -/
theorem DeclarationsRule.join {tokens later : List Token} {declarations others : List (Declaration Position)}
    (derived : DeclarationsRule tokens declarations) (more : FileRule later others) :
    ∃ joined, FileRule (tokens.dropLast ++ later) joined ∧
      joined.map Declaration.shape = declarations.map Declaration.shape ++ others.map Declaration.shape := by
  induction derived with
  | done => exact ⟨others, more, rfl⟩
  | @cons word gap following declaration declarations first ended rest ih =>
    have some : following ≠ [] := by
      obtain ⟨token, after, rfl, -⟩ := DeclarationsRule.begins _ _ rest
      exact List.cons_ne_nil token after
    have split : (word ++ (gap ++ following)).dropLast ++ later =
        word ++ (gap ++ (following.dropLast ++ later)) := by
      rw [List.dropLast_append_of_ne_nil (List.append_ne_nil_of_right_ne_nil _ some),
        List.dropLast_append_of_ne_nil some]
      simp
    obtain ⟨joined, whole, same⟩ := ih
    obtain ⟨newlines, left, parts, onlyLines, listed⟩ := (whole.behind ended).exists_listed
    obtain ⟨again, first, sameFirst⟩ := first.replays rfl (current left).position
    refine ⟨again :: joined, ?_, by simp [same, sameFirst]⟩
    rw [split, parts]
    have file : FileRule ([] ++ _) _ := .mk (List.forall_mem_nil _) (.cons first onlyLines listed)
    exact file

theorem DeclarationsRule.skipNewlines {gap later : List Token} {declarations : List (Declaration Position)}
    (derived : DeclarationsRule later declarations) (ended : Newlines gap) :
    skipNewlines (gap ++ later) = later ∧ skipNewlines (gap ++ later).dropLast = later.dropLast := by
  obtain ⟨token, rest, rfl, line, -⟩ := DeclarationsRule.begins _ _ derived
  refine ⟨skipNewlines_append ended line, ?_⟩
  rw [List.dropLast_append_of_ne_nil (List.cons_ne_nil token rest)]
  refine skipNewlines_append ended ?_
  cases rest with
  | nil => simp [current]
  | cons next rest => exact line

/-- Two texts are read in one: where the first ends with a line and outside of all brackets, the
declarations are those of the first and then those of the second, but for their positions. -/
theorem reading_is_compositional (first second : String) (tokens : List Token)
    (declarations others : List (Declaration Position)) (scanned : scan first = .ok tokens)
    (read : parse first = .ok declarations) (otherRead : parse second = .ok others)
    (whole : first = "" ∨ first.toList.getLast? = some '\n') (balanced : openBrackets 0 tokens = 0) :
    ∃ joined, parse (first ++ second) = .ok joined ∧
      joined.map Declaration.shape = declarations.map Declaration.shape ++ others.map Declaration.shape := by
  obtain ⟨_, again, found⟩ := bind_eq_ok_iff.mp read
  cases scanned.symm.trans again
  obtain ⟨otherTokens, otherScanned, otherFound⟩ := bind_eq_ok_iff.mp otherRead
  have file := readDeclarations_derives (laid_of_scan scanned) found
  have otherFile := readDeclarations_derives (laid_of_scan otherScanned) otherFound
  obtain ⟨before, after, bothScanned, beforeWritten, afterWritten⟩ :=
    scan_append scanned otherScanned whole balanced otherFile.outer
  obtain ⟨gap, later, rfl, ended, listed⟩ := file.exists_listed
  obtain ⟨otherGap, otherLater, rfl, otherEnded, otherListed⟩ := otherFile.exists_listed
  rw [withoutLines_symbols, withoutLines_symbols, (listed.skipNewlines ended).2] at beforeWritten
  rw [withoutLines_symbols, withoutLines_symbols, (otherListed.skipNewlines otherEnded).1] at afterWritten
  obtain ⟨lead, leadSplit, leadEnded, -⟩ := exists_newlines before
  obtain ⟨seam, seamSplit, seamEnded, -⟩ := exists_newlines after
  -- the second file is read at the positions it has in the joined text
  obtain ⟨moved, movedListed, movedSame⟩ := DeclarationsRule.replays _ _ otherListed _ afterWritten
  obtain ⟨joined, joinedFile, joinedSame⟩ := listed.join (.mk seamEnded movedListed)
  obtain ⟨result, resultFile, resultSame⟩ := FileRule.replays _ _ joinedFile
    (skipNewlines before ++ (seam ++ skipNewlines after)) (by simp [beforeWritten])
  refine ⟨result, ?_, by rw [resultSame, joinedSame, movedSame]⟩
  -- the joined tokens are those of both files but for line ends, and the rule reads over these
  have derived := resultFile.behind leadEnded
  rw [← List.append_assoc, ← leadSplit, ← seamSplit] at derived
  exact bind_eq_ok_iff.mpr ⟨_, bothScanned, readDeclarations_of_file derived (laid_of_scan bothScanned)⟩

/-- A declaration whose block is still open where the text ends. -/
def gate : Declaration Position :=
  ⟨.enumKind, ⟨"Gate", ⟨1, 6⟩⟩, [], ⟨[⟨[], [⟨⟨"wide", ⟨2, 3⟩⟩, none, ⟨2, 3⟩⟩], ⟨2, 3⟩⟩], ⟨2, 1⟩⟩, ⟨1, 1⟩⟩

def hinge : Declaration Position :=
  ⟨.structKind, ⟨"Hinge", ⟨3, 8⟩⟩, [], ⟨[], ⟨4, 1⟩⟩, ⟨3, 1⟩⟩

theorem gate_and_hinge_joined :
    ∃ joined, parse ("enum Gate:\n  wide\n" ++ "\n# parts\nstruct Hinge:\n") = .ok joined ∧
      joined.map Declaration.shape = [gate.shape, hinge.shape] := by
  have depth : (scan "enum Gate:\n  wide\n").map (openBrackets 0) = .ok 0 := by decide +kernel
  obtain ⟨tokens, scanned, balanced⟩ := map_eq_ok_iff.mp depth
  exact reading_is_compositional _ _ tokens [gate] [hinge] scanned (by decide +kernel) (by decide +kernel)
    (.inr (by decide +kernel)) balanced

end RawMapping
