import RawMapping.Proofs.Command.Fixing
import RawMapping.Proofs.Declaration.Words

/-! What fixing loses of a file in which nothing asks to be expanded: the words in the bodies of
structures and classes, and no others. -/

set_option autoImplicit false

namespace RawMapping

/-! ### Tags and symbols -/

section

variable {α β : Type}

theorem Literal.symbols_map (f : α → β) (literal : Literal α) :
    (literal.map f).symbols = literal.symbols := by
  cases literal <;> rfl

theorem Attribute.symbols_map (f : α → β) (attr : Attribute α) : (attr.map f).symbols = attr.symbols := by
  have arguments : Argument.symbols ∘ Argument.map f = Argument.symbols := by
    funext argument
    exact congrArg (labelSymbols .equals argument.label ++ ·) (argument.value.symbols_map f)
  have types : NamedType.symbols ∘ NamedType.map f = NamedType.symbols := rfl
  simp only [symbols, innerSymbols, map, List.map_map, arguments, types, List.isEmpty_map]
  rfl

theorem Variant.symbols_map (f : α → β) (variant : Variant α) :
    (variant.map f).symbols = variant.symbols := by
  have parameters : Parameter.symbols ∘ Parameter.map f = Parameter.symbols := rfl
  obtain ⟨name, payload, tag⟩ := variant
  cases payload with
  | none => rfl
  | some payload => simp only [symbols, map, Option.map_some, List.map_map, parameters]; rfl

theorem CaseLine.symbols_map (f : α → β) (line : CaseLine α) : (line.map f).symbols = line.symbols := by
  simp only [symbols, attributeLines, map, List.flatMap_map, List.map_map, Function.comp_def,
    Attribute.symbols_map, Variant.symbols_map]

theorem Declaration.symbols_map (f : α → β) (declaration : Declaration α) :
    (declaration.map f).symbols = declaration.symbols := by
  simp only [symbols, attributeLines, blockSymbols, map, Body.map, List.flatMap_map, List.isEmpty_map,
    Attribute.symbols_map, CaseLine.symbols_map]
  rfl

theorem flatMap_symbols_of_shapes {declarations : List (Declaration α)} {others : List (Declaration β)}
    (shapes : declarations.map Declaration.shape = others.map Declaration.shape) :
    declarations.flatMap Declaration.symbols = others.flatMap Declaration.symbols := by
  have same := congrArg (List.flatMap Declaration.symbols) shapes
  simpa only [List.flatMap_map, Declaration.shape, Declaration.symbols_map] using same

end

/-! ### The text that fixing ends with -/

section

variable {source : String} {declarations : List (Declaration Position)}

theorem map_shape_fixAll (plain : ∀ declaration ∈ declarations, declaration.isAnnotated = false)
    (file : String) (settings : Settings) :
    ((fixAll settings (locate file declarations)).map (·.result.root)).map Declaration.shape =
      declarations.map Declaration.shape := by
  have clean : ∀ declaration ∈ locate file declarations, declaration.report settings = [] := by
    rw [locate, List.forall_mem_map]
    intro declaration member
    apply Declaration.report_of_not_annotated
    have same := plain declaration member
    rw [Declaration.isAnnotated] at same ⊢
    rw [Declaration.findAttribute?_map, Option.isSome_map, same]
  rw [fixAll_of_clean clean, locate]
  simp [FixRun.stopped]

/-- The words of the text are those of the source that are not hidden. -/
theorem words_fixedText (parsed : parse source = .ok declarations)
    (plain : ∀ declaration ∈ declarations, declaration.isAnnotated = false) (file : String)
    (settings : Settings) :
    ∃ tokens again, scan source = .ok tokens ∧
      scan (fixedText (fixAll settings (locate file declarations))) = .ok again ∧
      words (again.map (·.symbol)) = shownWords (tokens.map (·.symbol)) := by
  -- printing and reading back gives the symbols of the declarations, which depend on shapes only
  have shapes := map_shape_fixAll plain file settings
  have printable : ∀ root ∈ (fixAll settings (locate file declarations)).map (·.result.root),
      root.Printable := by
    intro root member
    have inside : root.shape ∈ declarations.map Declaration.shape := by
      rw [← shapes]
      exact List.mem_map_of_mem member
    obtain ⟨declaration, found, same⟩ := List.mem_map.mp inside
    rw [← root.printable_shape, ← same, declaration.printable_shape]
    exact printable_of_parse parsed declaration found
  obtain ⟨tokens, scanned, shown⟩ := shownWords_of_parse parsed
  obtain ⟨again, rescanned, symbols⟩ := scan_declarationsText printable
  refine ⟨tokens, again, scanned, rescanned, ?_⟩
  rw [symbols, shown, words_append, words_append, flatMap_symbols_of_shapes shapes]
  split <;> exact List.append_nil _

end

/-- Where nothing asks to be expanded, fixing keeps the words of a file exactly if none of them stands in
the body of a structure or a class. This is about the text that the fixed declarations are printed as. It
is written as it is; a console that echoes it may leave out control sequences. -/
theorem fixing_keeps_words_iff (console : Console) {files : Files} {path : Path} {source : String}
    {declarations : List (Declaration Position)} (read : files.readText path = .ok source)
    (parsed : parse source = .ok declarations)
    (plain : ∀ declaration ∈ declarations, declaration.isAnnotated = false) (settings : Settings) :
    ∃ tokens text again, scan source = .ok tokens ∧ scan text = .ok again ∧
      (fixBehavior console settings files path true).files = files.write path text ∧
      .out (console.echoed text) ∈ (fixBehavior console settings files path false).events ∧
      ('\x1b' ∉ text.toList → console.echoed text = text) ∧
      words (again.map (·.symbol)) = shownWords (tokens.map (·.symbol)) ∧
      (wordValues again = wordValues tokens ↔ hiddenWords (tokens.map (·.symbol)) = []) := by
  obtain ⟨tokens, again, scanned, rescanned, shown⟩ := words_fixedText parsed plain path.text settings
  have kept := map_value_shownWords_iff (tokens.map (·.symbol))
  rw [← shown] at kept
  exact ⟨tokens, _, again, scanned, rescanned, fixBehavior_output console read parsed settings true,
    fixBehavior_output console read parsed settings false, console.echoed_of_plain _, shown, kept⟩

def signsText : String :=
  "# signs\nenum Sign:\n  @raw_value(-1)\n  stop, go(speed: Int) # fast\nstruct Post:\n"

def signs : List (Declaration Position) :=
  [⟨.enumKind, ⟨"Sign", ⟨2, 6⟩⟩, [],
      ⟨[⟨[⟨⟨"raw_value", ⟨3, 4⟩⟩, [], [⟨none, .integer "-1" ⟨3, 14⟩, ⟨3, 14⟩⟩], ⟨3, 3⟩⟩],
          [⟨⟨"stop", ⟨4, 3⟩⟩, none, ⟨4, 3⟩⟩,
            ⟨⟨"go", ⟨4, 9⟩⟩, some [⟨some "speed", ⟨"Int", ⟨4, 19⟩⟩, ⟨4, 12⟩⟩], ⟨4, 9⟩⟩], ⟨3, 3⟩⟩],
        ⟨3, 1⟩⟩, ⟨2, 1⟩⟩,
    ⟨.structKind, ⟨"Post", ⟨5, 8⟩⟩, [], ⟨[], ⟨6, 1⟩⟩, ⟨5, 1⟩⟩]

/-- Nothing of the signs is hidden, and fixing keeps their words. -/
theorem signs_keep_words :
    parse signsText = .ok signs ∧ ∃ tokens text again, scan signsText = .ok tokens ∧
      scan text = .ok again ∧
      .out (plainConsole.echoed text) ∈ (fixBehavior plainConsole {}
        (.ofList ⟨"/", []⟩ [("signs", signsText)]) ⟨"", ["signs"]⟩ false).events ∧
      wordValues again = wordValues tokens := by
  have parsed : parse signsText = .ok signs := by decide +kernel
  have read : (Files.ofList ⟨"/", []⟩ [("signs", signsText)]).readText ⟨"", ["signs"]⟩ =
      .ok signsText := by
    decide +kernel
  have plain : ∀ declaration ∈ signs, declaration.isAnnotated = false := by decide +kernel
  obtain ⟨tokens, text, again, scanned, rescanned, -, printed, -, -, kept⟩ :=
    fixing_keeps_words_iff plainConsole read parsed plain {}
  refine ⟨parsed, tokens, text, again, scanned, rescanned, printed, kept.mpr ?_⟩
  have hidden : (scan signsText).map (fun tokens => hiddenWords (tokens.map (·.symbol))) = .ok [] := by
    decide +kernel
  rw [scanned] at hidden
  exact Except.ok.inj hidden

def hut : Declaration Position :=
  ⟨.structKind, ⟨"Hut", ⟨1, 8⟩⟩, [], ⟨[], ⟨2, 1⟩⟩, ⟨1, 1⟩⟩

/-- The words in the body of a structure are lost. -/
theorem fixing_can_lose_words :
    ¬ ∀ (source file : String) (declarations : List (Declaration Position)) (settings : Settings),
      parse source = .ok declarations →
      (∀ declaration ∈ declarations, declaration.isAnnotated = false) →
      ∃ tokens again, scan source = .ok tokens ∧
        scan (fixedText (fixAll settings (locate file declarations))) = .ok again ∧
        wordValues again = wordValues tokens := by
  intro all
  have parsed : parse "struct Hut:\n  door\n" = .ok [hut] := by decide +kernel
  obtain ⟨tokens, again, scanned, rescanned, same⟩ := all _ "hut" _ {} parsed (by decide +kernel)
  have before : (scan "struct Hut:\n  door\n").map wordValues = .ok ["Hut", "door"] := by
    decide +kernel
  have after : (scan (fixedText (fixAll {} (locate "hut" [hut])))).map wordValues = .ok ["Hut"] := by
    decide +kernel
  rw [scanned] at before
  rw [rescanned] at after
  have lost := (Except.ok.inj after).symm.trans (same.trans (Except.ok.inj before))
  cases lost

end RawMapping
