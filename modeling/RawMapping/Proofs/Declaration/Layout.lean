import RawMapping.Proofs.Declaration.Printable

/-! The layout of printed declarations. A line of the source stands for the symbols written on it and
the end of the line; the lines of a body are indented by one step, so they form one block, which the
next declaration or the end of the text closes. -/

set_option autoImplicit false

namespace RawMapping

variable {α : Type}

def Opens (text : List Char) : Prop :=
  ∃ c rest, text = c :: rest ∧ Visible c

theorem Opens.append {first : List Char} (opens : Opens first) (second : List Char) :
    Opens (first ++ second) := by
  obtain ⟨c, rest, rfl, visible⟩ := opens
  exact ⟨c, rest ++ second, rfl, visible⟩

structure SourceLine where
  text : List Char
  symbols : List Symbol

structure SourceLine.Legible (line : SourceLine) : Prop where
  opens : Opens line.text
  scans : Scans line.text line.symbols

def linesText (blanks : List Char) (lines : List SourceLine) : List Char :=
  lines.flatMap fun line => blanks ++ line.text ++ ['\n']

def linesSymbols (lines : List SourceLine) : List Symbol :=
  lines.flatMap fun line => line.symbols ++ [.newline]

theorem SourceLine.Legible.finish {line : SourceLine} (legible : line.Legible) (levels : List Nat)
    (rest : List Char) :
    (inLine 0 levels (line.text ++ '\n' :: rest)).Reaches (line.symbols ++ [.newline])
      (atLine levels false rest) :=
  (legible.scans 0 levels ('\n' :: rest) ((stops_cons _ _).mpr (by decide))).trans
    (inLine_newline levels rest)

/-! ### Lines outside and inside a block -/

/-- A line that is not indented closes what the lines above it left open. -/
theorem SourceLine.Legible.outer {line : SourceLine} (legible : line.Legible) {levels : List Nat}
    (positive : ∀ level ∈ levels, 0 < level) (lineOpen : Bool) (rest : List Char) :
    (atLine levels lineOpen (line.text ++ '\n' :: rest)).Reaches
      (List.replicate levels.length .dedent ++ (line.symbols ++ [.newline])) (atLine [] false rest) := by
  obtain ⟨c, text, opens, visible⟩ := legible.opens
  have start : (atLine levels lineOpen (line.text ++ '\n' :: rest)).Reaches
      (List.replicate levels.length .dedent) (inLine 0 [] (line.text ++ '\n' :: rest)) := by
    rw [opens]
    exact atLine_outer positive lineOpen visible
  exact start.trans (legible.finish [] rest)

-- The first line of a declaration may close blocks; behind it none is open.
theorem outerLines {lines : List SourceLine} (legible : ∀ line ∈ lines, line.Legible)
    (rest : List Char) :
    (atLine [] false (linesText [] lines ++ rest)).Reaches (linesSymbols lines)
      (atLine [] false rest) := by
  induction lines with
  | nil => exact .refl _
  | cons line lines ih =>
    rw [List.forall_mem_cons] at legible
    have first := legible.1.outer (List.forall_mem_nil _) false (linesText [] lines ++ rest)
    have whole := first.trans (ih legible.2)
    simpa [linesText, linesSymbols] using whole

theorem innerLines {lines : List SourceLine} (legible : ∀ line ∈ lines, line.Legible)
    {blanks : List Char} (blank : ∀ c ∈ blanks, isIndentChar c = true) (rest : List Char) :
    (atLine [indentLevel blanks] false (linesText blanks lines ++ rest)).Reaches (linesSymbols lines)
      (atLine [indentLevel blanks] false rest) := by
  induction lines with
  | nil => exact .refl _
  | cons line lines ih =>
    rw [List.forall_mem_cons] at legible
    obtain ⟨c, text, opens, visible⟩ := legible.1.opens
    have start : (atLine [indentLevel blanks] false
        (blanks ++ (line.text ++ '\n' :: (linesText blanks lines ++ rest)))).Reaches []
        (inLine 0 [indentLevel blanks] (line.text ++ '\n' :: (linesText blanks lines ++ rest))) := by
      rw [opens]
      exact atLine_same blank visible
    have first := start.trans (legible.1.finish _ _)
    have whole := first.trans (ih legible.2)
    simpa [linesText, linesSymbols] using whole

/-- The first line of a block opens it. -/
theorem firstInnerLine {line : SourceLine} {lines : List SourceLine}
    (legible : ∀ other ∈ line :: lines, other.Legible) {blanks : List Char}
    (blank : ∀ c ∈ blanks, isIndentChar c = true) (deeper : 0 < indentLevel blanks) (rest : List Char) :
    (atLine [] false (linesText blanks (line :: lines) ++ rest)).Reaches
      (.indent :: linesSymbols (line :: lines)) (atLine [indentLevel blanks] false rest) := by
  rw [List.forall_mem_cons] at legible
  obtain ⟨c, text, opens, visible⟩ := legible.1.opens
  have start : (atLine [] false
      (blanks ++ (line.text ++ '\n' :: (linesText blanks lines ++ rest)))).Reaches [.indent]
      (inLine 0 [indentLevel blanks] (line.text ++ '\n' :: (linesText blanks lines ++ rest))) := by
    rw [opens]
    exact atLine_first blank deeper visible
  have first := start.trans (legible.1.finish _ _)
  have whole := first.trans (innerLines legible.2 blank rest)
  simpa [linesText, linesSymbols] using whole

/-! ### Declarations as lines -/

def attributeLine (attr : Attribute α) : SourceLine :=
  ⟨attr.text.toList, attr.symbols⟩

def CaseLine.layout (line : CaseLine α) : List SourceLine :=
  line.attributes.map attributeLine ++
    [⟨(commaList (line.variants.map Variant.text)).toList,
      separated (line.variants.map Variant.symbols)⟩]

def Declaration.headLine (declaration : Declaration α) : SourceLine :=
  ⟨(declaration.kind.text ++ " " ++ declaration.name.text ++ ":").toList,
    [.keyword declaration.kind, .identifier declaration.name.text, .colon]⟩

def Declaration.outerLayout (declaration : Declaration α) : List SourceLine :=
  declaration.attributes.map attributeLine ++ [declaration.headLine]

def Declaration.innerLayout (declaration : Declaration α) : List SourceLine :=
  declaration.body.lines.flatMap CaseLine.layout

theorem Attribute.Printable.legible {attr : Attribute α} (printable : attr.Printable) :
    (attributeLine attr).Legible where
  opens := by
    simp only [attributeLine, Attribute.text, String.toList_append]
    have sign : Opens "@".toList := ⟨'@', [], rfl, by decide⟩
    exact ((sign.append _).append _).append _
  scans := printable.scans

theorem IsIdentifier.opens {name : String} (identifier : IsIdentifier name) : Opens name.toList := by
  obtain ⟨c, word, text, start, -⟩ := (isIdentifier_iff name).mp identifier
  exact ⟨c, word, text, visible_of_isWordStart start⟩

theorem Variant.Printable.opens {variant : Variant α} (printable : variant.Printable) :
    Opens variant.text.toList := by
  unfold Variant.text
  split
  · exact printable.name.opens
  · simp only [String.toList_append]
    exact ((printable.name.opens.append _).append _).append _

theorem CaseLine.Printable.legible {line : CaseLine α} (printable : line.Printable) :
    ∀ written ∈ line.layout, written.Legible := by
  intro written member
  simp only [CaseLine.layout, List.mem_append, List.mem_map, List.mem_singleton] at member
  rcases member with ⟨attr, member, rfl⟩ | rfl
  · exact (printable.attributes attr member).legible
  · refine ⟨?_, Scans.commaList (fun variant member => (printable.variants variant member).scans)
      (fun variant => by simp [Variant.symbols])⟩
    cases given : line.variants with
    | nil => exact absurd given printable.nonempty
    | cons variant variants =>
      rw [List.map_cons, toList_commaList]
      exact (printable.variants variant (by simp [given])).opens.append _

theorem Declaration.Printable.headLine {declaration : Declaration α}
    (printable : declaration.Printable) : declaration.headLine.Legible where
  opens := by
    have keyword : Opens declaration.kind.text.toList := by
      cases declaration.kind <;> exact ⟨_, _, rfl, by decide⟩
    simp only [Declaration.headLine, String.toList_append]
    exact ((keyword.append _).append _).append _
  scans := by
    have colon : Scans [':'] [.colon] := Scans.cons rfl (by decide) (by decide) (fun _ => rfl) .nil
    have name := (Scans.identifier printable.name).append colon ((stops_cons _ _).mpr (by decide))
    have whole := (Scans.keyword declaration.kind).append (name.space (by simp))
      ((stops_cons _ _).mpr (by decide))
    simpa [Declaration.headLine] using whole

theorem Declaration.Printable.outer_legible {declaration : Declaration α}
    (printable : declaration.Printable) : ∀ line ∈ declaration.outerLayout, line.Legible := by
  intro line member
  simp only [outerLayout, List.mem_append, List.mem_map, List.mem_singleton] at member
  rcases member with ⟨attr, member, rfl⟩ | rfl
  · exact (printable.attributes attr member).legible
  · exact printable.headLine

theorem Declaration.Printable.inner_legible {declaration : Declaration α}
    (printable : declaration.Printable) : ∀ line ∈ declaration.innerLayout, line.Legible := by
  intro written member
  obtain ⟨line, member, inside⟩ := List.mem_flatMap.mp member
  exact (printable.lines line member).legible written inside

theorem toList_joinedLines {lines : List String} (nonempty : lines ≠ []) :
    ("\n".intercalate lines ++ "\n").toList = lines.flatMap fun line => line.toList ++ ['\n'] := by
  cases lines with
  | nil => exact absurd rfl nonempty
  | cons first others =>
    rw [String.toList_append, toList_intercalate_cons]
    clear nonempty
    induction others generalizing first with
    | nil => simp
    | cons second others ih =>
      calc first.toList ++ ((second :: others).flatMap fun item => "\n".toList ++ item.toList) ++ "\n".toList
        _ = first.toList ++ ['\n'] ++ (second.toList ++
              (others.flatMap fun item => "\n".toList ++ item.toList) ++ "\n".toList) := by simp
        _ = _ := by rw [ih second]; rfl

theorem linesText_outerLayout (declaration : Declaration α) :
    linesText [] declaration.outerLayout =
      (declaration.attributes.map Attribute.text ++
        [declaration.kind.text ++ " " ++ declaration.name.text ++ ":"]).flatMap
          fun line => line.toList ++ ['\n'] := by
  simp [linesText, Declaration.outerLayout, attributeLine, Declaration.headLine, List.flatMap_map]

theorem linesText_innerLayout (declaration : Declaration α) :
    linesText indentation.toList declaration.innerLayout =
      (declaration.body.lines.flatMap CaseLine.sourceLines).flatMap
        fun line => line.toList ++ ['\n'] := by
  simp [linesText, Declaration.innerLayout, attributeLine, CaseLine.layout, CaseLine.sourceLines,
    List.flatMap_map, List.flatMap_assoc]

theorem Declaration.toList_text (declaration : Declaration α) :
    declaration.text.toList = linesText [] declaration.outerLayout ++
      linesText indentation.toList declaration.innerLayout := by
  rw [Declaration.text, toList_joinedLines (by simp [sourceLines]), linesText_outerLayout,
    linesText_innerLayout, sourceLines, List.flatMap_append]

theorem linesSymbols_outerLayout (declaration : Declaration α) :
    linesSymbols declaration.outerLayout = attributeLines declaration.attributes ++
      [.keyword declaration.kind, .identifier declaration.name.text, .colon, .newline] := by
  simp [linesSymbols, Declaration.outerLayout, attributeLine, Declaration.headLine, attributeLines,
    List.flatMap_map]

theorem linesSymbols_innerLayout (declaration : Declaration α) :
    linesSymbols declaration.innerLayout = declaration.body.lines.flatMap CaseLine.symbols := by
  rw [linesSymbols, Declaration.innerLayout, List.flatMap_assoc]
  congr 1
  funext line
  simp [attributeLine, CaseLine.layout, CaseLine.symbols, attributeLines, List.flatMap_map]

/-! ### Printed texts -/

def Declaration.openLevels (declaration : Declaration α) : List Nat :=
  if declaration.body.lines.isEmpty then [] else [indentLevel indentation.toList]

theorem Declaration.openLevels_pos (declaration : Declaration α) :
    ∀ level ∈ declaration.openLevels, 0 < level := by
  unfold openLevels
  split
  · simp
  · simp; decide

def Declaration.openSymbols (declaration : Declaration α) : List Symbol :=
  linesSymbols declaration.outerLayout ++
    if declaration.body.lines.isEmpty then [] else .indent :: linesSymbols declaration.innerLayout

theorem Declaration.openSymbols_append (declaration : Declaration α) :
    declaration.openSymbols ++ List.replicate declaration.openLevels.length .dedent =
      declaration.symbols := by
  rw [openSymbols, linesSymbols_outerLayout, linesSymbols_innerLayout, openLevels, symbols, blockSymbols]
  split <;> simp

theorem Declaration.Printable.reaches_block {declaration : Declaration α}
    (printable : declaration.Printable) (rest : List Char) :
    (atLine [] false (linesText indentation.toList declaration.innerLayout ++ rest)).Reaches
      (if declaration.body.lines.isEmpty then [] else .indent :: linesSymbols declaration.innerLayout)
      (atLine declaration.openLevels false rest) := by
  have legible := printable.inner_legible
  cases lines : declaration.body.lines with
  | nil =>
    simp only [Declaration.innerLayout, Declaration.openLevels, lines]
    exact .refl _
  | cons first others =>
    obtain ⟨line, written, layout⟩ : ∃ line written, declaration.innerLayout = line :: written := by
      rw [Declaration.innerLayout, lines, List.flatMap_cons, CaseLine.layout]
      cases first.attributes with
      | nil => exact ⟨_, _, rfl⟩
      | cons attr attrs => exact ⟨_, _, rfl⟩
    rw [layout] at legible ⊢
    simp only [Declaration.openLevels, lines]
    exact firstInnerLine legible (List.all_eq_true.mp (by decide)) (by decide) rest

-- The end of a block is not written anywhere: it is the indentation of the next line that closes it.
-- So the symbols of one declaration are emitted while the next one is read.
/-- A printed declaration closes the blocks above it and leaves its own open. -/
theorem Declaration.Printable.reaches {declaration : Declaration α} (printable : declaration.Printable)
    {levels : List Nat} (positive : ∀ level ∈ levels, 0 < level) (lineOpen : Bool) (rest : List Char) :
    (atLine levels lineOpen (declaration.text.toList ++ rest)).Reaches
      (List.replicate levels.length .dedent ++ declaration.openSymbols)
      (atLine declaration.openLevels false rest) := by
  have legible := printable.outer_legible
  obtain ⟨line, lines, layout⟩ : ∃ line lines, declaration.outerLayout = line :: lines := by
    rw [Declaration.outerLayout]
    cases declaration.attributes with
    | nil => exact ⟨_, _, rfl⟩
    | cons attr attrs => exact ⟨_, _, rfl⟩
  rw [Declaration.toList_text, Declaration.openSymbols, layout]
  rw [layout, List.forall_mem_cons] at legible
  have first := legible.1.outer positive lineOpen
    (linesText [] lines ++ (linesText indentation.toList declaration.innerLayout ++ rest))
  have outer := first.trans (outerLines legible.2 _)
  have whole := outer.trans (printable.reaches_block rest)
  simpa [linesText, linesSymbols] using whole

/-- A run over printed declarations emits the end of the blocks above them, their symbols and the end
of the text. -/
theorem emits_declarations {declaration : Declaration α} {declarations : List (Declaration α)}
    (printable : ∀ other ∈ declaration :: declarations, other.Printable) {levels : List Nat}
    (positive : ∀ level ∈ levels, 0 < level) (lineOpen : Bool) :
    (atLine levels lineOpen (declarationsText (declaration :: declarations)).toList).Emits
      (List.replicate levels.length .dedent ++
        ((declaration :: declarations).flatMap Declaration.symbols ++ [.eof])) := by
  -- the induction carries the blocks that are open above the first declaration
  induction declarations generalizing declaration levels lineOpen with
  | nil =>
    have first := (printable declaration (by simp)).reaches positive lineOpen []
    have whole := first.emits (atLine_end declaration.openLevels false)
    simpa [declarationsText, ← declaration.openSymbols_append] using whole
  | cons second declarations ih =>
    rw [List.forall_mem_cons] at printable
    have text : (declarationsText (declaration :: second :: declarations)).toList =
        declaration.text.toList ++ '\n' :: (declarationsText (second :: declarations)).toList := by
      simp only [declarationsText, List.map_cons, toList_intercalate_cons, List.flatMap_cons]
      rfl
    have first := printable.1.reaches positive lineOpen
      ('\n' :: (declarationsText (second :: declarations)).toList)
    have blank := first.trans (atLine_blank declaration.openLevels false _)
    have whole := blank.emits (ih printable.2 declaration.openLevels_pos false)
    rw [text]
    simpa [← declaration.openSymbols_append] using whole

/-- The symbols of printed declarations. Without any, the empty first line is still ended. -/
theorem scan_declarationsText {declarations : List (Declaration α)}
    (printable : ∀ declaration ∈ declarations, declaration.Printable) :
    ∃ tokens, scan (declarationsText declarations) = .ok tokens ∧ tokens.map (·.symbol) =
      (if declarations.isEmpty then [.newline] else []) ++
        (declarations.flatMap Declaration.symbols ++ [.eof]) := by
  cases declarations with
  | nil => exact atLine_end [] true .start
  | cons declaration declarations =>
    exact emits_declarations printable (List.forall_mem_nil _) true .start

end RawMapping
