import RawMapping.Proofs.Command.Preserving
import RawMapping.Proofs.Declaration.Portable

/-! Fixing a file twice. A run that did not have to stop ends where no fix is offered. What it ends with
is printed, read back with the same shape and reported on alike, so a second run finds nothing to do and
prints the same text. -/

set_option autoImplicit false

namespace RawMapping

variable {α β : Type}

/-! ### Tags and text -/

theorem Attribute.text_map (f : α → β) (attr : Attribute α) : (attr.map f).text = attr.text := by
  have arguments : Argument.text ∘ Argument.map f = Argument.text := by
    funext argument
    simp [Argument.text, Argument.map]
  simp only [text, map, List.map_map, arguments, List.isEmpty_map]
  rfl

theorem Variant.text_map (f : α → β) (variant : Variant α) : (variant.map f).text = variant.text := by
  have parameters : Parameter.text ∘ Parameter.map f = Parameter.text := rfl
  obtain ⟨name, payload, tag⟩ := variant
  cases payload with
  | none => rfl
  | some payload => simp only [text, map, Option.map_some, List.map_map, parameters]; rfl

theorem CaseLine.sourceLines_map (f : α → β) (line : CaseLine α) :
    (line.map f).sourceLines = line.sourceLines := by
  simp only [sourceLines, map, List.map_map, Function.comp_def, Attribute.text_map, Variant.text_map]

theorem Declaration.text_map (f : α → β) (declaration : Declaration α) :
    (declaration.map f).text = declaration.text := by
  simp only [text, sourceLines, map, Body.map, List.map_map, List.flatMap_map, Function.comp_def,
    Attribute.text_map, CaseLine.sourceLines_map]
  rfl

theorem declarationsText_of_shapes {declarations : List (Declaration α)} {others : List (Declaration β)}
    (shapes : declarations.map Declaration.shape = others.map Declaration.shape) :
    declarationsText declarations = declarationsText others := by
  have same := congrArg (List.map Declaration.text) shapes
  simp only [List.map_map, Function.comp_def, Declaration.shape, Declaration.text_map] at same
  rw [declarationsText, declarationsText, same]

/-! ### Carriage returns -/

section

variable {rawType label : String} {kind : FixKind} {line : CaseLine Unit}
  {lines mended : List (CaseLine Unit)}

theorem CaseLine.Annotates.portable {admits : CaseLine Unit → Prop} {attr : Attribute Unit}
    (annotates : line.Annotates admits attr mended) (portable : line.Portable)
    (written : attr.Portable) : ∀ other ∈ mended, other.Portable := by
  cases annotates with
  | first _ _ =>
    exact List.forall_mem_singleton.mpr
      (List.forall_mem_append.mpr ⟨portable, List.forall_mem_singleton.mpr written⟩)
  | other _ _ =>
    exact List.forall_mem_cons.mpr
      ⟨portable, List.forall_mem_singleton.mpr (List.forall_mem_singleton.mpr written)⟩

theorem CaseLine.Mends.portable (mends : line.Mends rawType label kind mended)
    (portable : line.Portable) (written : Text.Portable label) : ∀ other ∈ mended, other.Portable := by
  cases mends with
  | dropExtra _ _ attributes _ _ =>
    rw [CaseLine.Portable, attributes, List.forall_mem_append, List.forall_mem_cons] at portable
    exact List.forall_mem_singleton.mpr (List.forall_mem_append.mpr ⟨portable.1, portable.2.2⟩)
  | dropAll _ _ =>
    refine List.forall_mem_singleton.mpr fun attr member => ?_
    exact portable attr (List.mem_filter.mp member).1
  | quote _ _ _ attributes _ _ arguments =>
    -- the string says what the number said
    rw [CaseLine.Portable, attributes, List.forall_mem_append, List.forall_mem_cons] at portable
    obtain ⟨early, here, late⟩ := portable
    rw [Attribute.Portable, arguments, List.forall_mem_singleton] at here
    exact List.forall_mem_singleton.mpr (List.forall_mem_append.mpr
      ⟨early, List.forall_mem_cons.mpr ⟨List.forall_mem_singleton.mpr here, late⟩⟩)
  | value _ annotates => exact annotates.portable portable (List.forall_mem_singleton.mpr written)

theorem Mends.portable (mends : Mends rawType label kind lines mended)
    (portable : ∀ line ∈ lines, line.Portable) (written : Text.Portable label) :
    ∀ line ∈ mended, line.Portable := by
  cases mends with
  | line mends =>
    rw [List.forall_mem_append, List.forall_mem_cons] at portable
    obtain ⟨early, here, late⟩ := portable
    exact List.forall_mem_append.mpr
      ⟨early, List.forall_mem_append.mpr ⟨mends.portable here written, late⟩⟩
  | payload _ _ _ _ =>
    rw [List.forall_mem_append, List.forall_mem_cons] at portable
    obtain ⟨early, here, late⟩ := portable
    exact List.forall_mem_append.mpr ⟨early, List.forall_mem_cons.mpr ⟨here, late⟩⟩

theorem Completes.portable {caseName : String} {candidate? : Option (CaseRecord Stamp)}
    (completes : Completes rawType caseName candidate? lines mended)
    (portable : ∀ line ∈ lines, line.Portable) : ∀ line ∈ mended, line.Portable := by
  have mark : catchAllMark.Portable := List.forall_mem_nil _
  cases completes with
  | mark annotates =>
    rw [List.forall_mem_append, List.forall_mem_cons] at portable
    obtain ⟨early, here, late⟩ := portable
    exact List.forall_mem_append.mpr
      ⟨early, List.forall_mem_append.mpr ⟨annotates.portable here mark, late⟩⟩
  | add =>
    exact List.forall_mem_append.mpr
      ⟨portable, List.forall_mem_singleton.mpr (List.forall_mem_singleton.mpr mark)⟩

end

/-- A pass puts in no carriage return but one of the label. -/
theorem Declaration.Passes.portable {root next : Declaration Stamp} {settings : Settings}
    {kind : FixKind} {lines : List (CaseLine Unit)} (passes : root.Passes settings kind lines)
    (shape : next.shape = { root.shape with body := ⟨lines, ()⟩ }) (portable : root.Portable)
    (written : Text.Portable settings.placeholderLabel) : next.Portable := by
  have start := root.portable_shape.mpr portable
  rw [← next.portable_shape, shape]
  refine ⟨start.attributes, ?_⟩
  cases passes with
  | completes _ _ _ completes => exact completes.portable start.lines
  | mends _ _ mends => exact mends.portable start.lines written

/-! ### Where a run ends -/

/-- What holds of a run that stops at once, and of a run with one more pass in front, holds of every
run. -/
theorem Edited.Coherent.fix_induct {settings : Settings} {motive : Edited → FixRun → Prop}
    (stops : ∀ (edited : Edited) (exhausted : Bool),
      exhausted = (firstFix? (edited.root.report settings)).isSome →
      motive edited (.stopped edited (edited.root.report settings) exhausted))
    (pass : ∀ {edited next : Edited} {fix : Fix Stamp} {lines : List (CaseLine Unit)} {run : FixRun},
      edited.root.Passes settings fix.kind lines →
      next.root.shape = { edited.root.shape with body := ⟨lines, ()⟩ } → motive next run →
      motive edited { run with passes := (edited.root, fix) :: run.passes })
    {edited : Edited} (coherent : edited.Coherent) (limit : Nat) :
    motive edited (edited.fix settings limit) := by
  induction limit generalizing edited with
  | zero =>
    rw [Edited.fix_eq]
    cases first : firstFix? (edited.root.report settings) with
    | none => exact stops edited false (by rw [first]; rfl)
    | some fix => exact stops edited true (by rw [first]; rfl)
  | succ limit ih =>
    cases first : firstFix? (edited.root.report settings) with
    | none =>
      rw [Edited.fix_of_none first]
      exact stops edited false (by rw [first]; rfl)
    | some fix =>
      obtain ⟨lines, ⟨next, applied, nextCoherent, shape⟩, passes⟩ := coherent.pass first
      rw [Edited.fix_of_some first applied]
      exact pass passes shape (ih nextCoherent)

theorem Edited.Coherent.portable_fix {edited : Edited} (coherent : edited.Coherent) {settings : Settings}
    (portable : edited.root.Portable) (written : Text.Portable settings.placeholderLabel) (limit : Nat) :
    (edited.fix settings limit).result.root.Portable := by
  refine coherent.fix_induct
    (motive := fun edited run => edited.root.Portable → run.result.root.Portable) ?_ ?_ limit portable
  · exact fun _ _ _ start => start
  · exact fun passes shape ends start => ends (passes.portable shape start written)

theorem Edited.Coherent.exhausted_fix {edited : Edited} (coherent : edited.Coherent)
    (settings : Settings) (limit : Nat) :
    (edited.fix settings limit).exhausted = (firstFix? (edited.fix settings limit).remaining).isSome :=
  coherent.fix_induct (motive := fun _ run => run.exhausted = (firstFix? run.remaining).isSome)
    (fun _ _ offered => offered) (fun _ _ ends => ends) limit

/-! ### Running again -/

theorem Declaration.report_of_shape {first : Declaration α} {second : Declaration β}
    (same : first.shape = second.shape) (settings : Settings) :
    (first.report settings).map (Diagnostic.map fun _ => ()) =
      (second.report settings).map (Diagnostic.map fun _ => ()) := by
  rw [← Declaration.report_map, ← Declaration.report_map]
  exact congrArg (·.report settings) same

theorem fixableCount_map (f : α → β) (diagnostics : List (Diagnostic α)) :
    fixableCount (diagnostics.map (Diagnostic.map f)) = fixableCount diagnostics := by
  simp [fixableCount, List.countP_map, Function.comp_def, Diagnostic.map]

/-- A declaration that has the shape of one with nothing left to fix is left as it is. -/
theorem fix_load_of_shape {declaration : Declaration (Option Location)} {root : Declaration Stamp}
    {settings : Settings} (same : declaration.shape = root.shape)
    (silent : firstFix? (root.report settings) = none) (limit : Nat) :
    ((Edited.load 0 declaration).fix settings limit).passes = [] ∧
      ((Edited.load 0 declaration).fix settings limit).result.root.shape = root.shape ∧
      ((Edited.load 0 declaration).fix settings limit).remaining.length =
        (root.report settings).length := by
  have shape : (Edited.load 0 declaration).root.shape = root.shape := (Edited.shape_load 0 _).trans same
  have reports := Declaration.report_of_shape shape settings
  have fixable : fixableCount ((Edited.load 0 declaration).root.report settings) =
      fixableCount (root.report settings) := by
    rw [← fixableCount_map (fun _ => ()), reports, fixableCount_map]
  have count := congrArg List.length reports
  rw [List.length_map, List.length_map] at count
  rw [firstFix?_eq_none_iff, ← fixable, ← firstFix?_eq_none_iff] at silent
  rw [Edited.fix_of_none silent]
  exact ⟨rfl, shape, count⟩

theorem fixAll_of_shapes {located : Located} {roots : List (Declaration Stamp)} {settings : Settings}
    (shapes : located.map Declaration.shape = roots.map Declaration.shape)
    (silent : ∀ root ∈ roots, firstFix? (root.report settings) = none) :
    (∀ run ∈ fixAll settings located, run.passes = []) ∧
      (fixAll settings located).map (·.result.root.shape) = roots.map Declaration.shape ∧
      remainingCount (fixAll settings located) = (roots.flatMap (·.report settings)).length := by
  induction located generalizing roots with
  | nil =>
    cases List.map_eq_nil_iff.mp shapes.symm
    exact ⟨List.forall_mem_nil _, rfl, rfl⟩
  | cons declaration located ih =>
    obtain ⟨root, others, rfl, same, rest⟩ := List.map_eq_cons_iff.mp shapes.symm
    obtain ⟨here, later⟩ := List.forall_mem_cons.mp silent
    obtain ⟨passes, shape, count⟩ := fix_load_of_shape same.symm here settings.maxFixPasses
    obtain ⟨otherPasses, otherShapes, otherCount⟩ := ih rest.symm later
    refine ⟨List.forall_mem_cons.mpr ⟨passes, otherPasses⟩, congrArg₂ List.cons shape otherShapes, ?_⟩
    rw [List.flatMap_cons, List.length_append, ← otherCount, ← count]
    simp [remainingCount, fixAll]

/-! ### The whole file -/

def Declaration.GivesName (declaration : Declaration α) (name : String) : Prop :=
  ∃ attr ∈ declaration.attributes, attr.isNamed annotationName = true ∧
    ∃ argument ∈ attr.arguments, argument.label = some caseNameLabel ∧
      ∃ tag, argument.value = .string name tag

theorem Attribute.caseName_cases {attr : Attribute α} {settings : Settings} {name : String}
    (chosen : attr.caseName settings = .ok name) :
    name = settings.defaultCaseName ∨ ∃ argument ∈ attr.arguments,
      argument.label = some caseNameLabel ∧ ∃ tag, argument.value = .string name tag := by
  unfold Attribute.caseName argument? at chosen
  split at chosen
  · cases chosen
    exact .inl rfl
  · next argument there =>
    have labelled := List.find?_some there
    split at chosen
    · next value tag same =>
      cases chosen
      exact .inr ⟨argument, List.mem_of_find?_eq_some there, by simpa using labelled, tag, same⟩
    · cases chosen

theorem Declaration.NeedsCase.isIdentifier {declaration : Declaration α} {settings : Settings}
    {name : String} (needs : declaration.NeedsCase settings name)
    (named : IsIdentifier settings.defaultCaseName)
    (given : ∀ other, declaration.GivesName other → IsIdentifier other) : IsIdentifier name := by
  obtain ⟨rawType, changed, asks, rfl, -⟩ := needs
  obtain ⟨attr, _, found, -, understood⟩ := Declaration.exists_request asks
  rw [Declaration.findAttribute?] at found
  have requested := toOption_eq_some_iff.mpr understood
  rw [Declaration.toOption_request] at requested
  split at requested
  · obtain ⟨_, -, typed⟩ := Option.bind_eq_some_iff.mp requested
    obtain ⟨caseName, chosen, same⟩ := Option.map_eq_some_iff.mp typed
    cases same
    have annotated := List.find?_some found
    rcases Attribute.caseName_cases (toOption_eq_some_iff.mp chosen) with rfl | own
    · exact named
    · exact given _ ⟨attr, List.mem_of_find?_eq_some found, annotated, own⟩
  · cases requested

section

variable {source file : String} {declarations : List (Declaration Position)} {settings : Settings}

theorem printable_fixAll (parsed : parse source = .ok declarations)
    (named : IsIdentifier settings.defaultCaseName)
    (given : ∀ declaration ∈ declarations, ∀ name, declaration.GivesName name → IsIdentifier name)
    (label : IsLabel settings.placeholderLabel) :
    ∀ run ∈ fixAll settings (locate file declarations), run.result.root.Printable := by
  rw [fixAll, List.forall_mem_map, locate, List.forall_mem_map]
  intro declaration member
  generalize located : declaration.map (fun position => some (Location.of file position)) = here
  have shape : here.shape = declaration.shape := by rw [← located, Declaration.shape_map]
  have printable : here.Printable := by
    rw [← here.printable_shape, shape, declaration.printable_shape]
    exact printable_of_parse parsed declaration member
  cases settings.maxFixPasses with
  | zero =>
    have loaded : (Edited.load 0 here).root.Printable := by
      rwa [← Declaration.printable_shape, Edited.shape_load, here.printable_shape]
    rw [Edited.fix_eq]
    cases firstFix? ((Edited.load 0 here).root.report settings) with
    | none => exact loaded
    | some fix => exact loaded
  | succ limit =>
    refine (printable_loaded_iff printable settings (Nat.succ_pos limit)).mpr
      ⟨fun name needs => ?_, fun _ => label⟩
    rw [← here.needsCase_shape, shape, declaration.needsCase_shape] at needs
    exact needs.isIdentifier named (given declaration member)

theorem portable_fixAll (parsed : parse source = .ok declarations) (portable : Text.Portable source)
    (written : Text.Portable settings.placeholderLabel) :
    ∀ run ∈ fixAll settings (locate file declarations), run.result.root.Portable := by
  rw [fixAll, List.forall_mem_map, locate, List.forall_mem_map]
  intro declaration member
  refine (Edited.coherent_load 0 _).portable_fix ?_ written _
  rw [← Declaration.portable_shape, Edited.shape_load, Declaration.shape_map, declaration.portable_shape]
  exact portable_of_parse parsed portable declaration member

theorem silent_fixAll {located : Located}
    (settled : ∀ run ∈ fixAll settings located, run.exhausted = false) :
    ∀ run ∈ fixAll settings located, firstFix? (run.result.root.report settings) = none := by
  rw [fixAll, List.forall_mem_map] at settled ⊢
  intro declaration member
  have coherent := Edited.coherent_load 0 declaration
  have stopped := settled declaration member
  rw [coherent.exhausted_fix, (coherent.accounts settings _).remaining] at stopped
  simpa using stopped

theorem fixBehavior_report (console : Console) {files : Files} {path : Path} (read : files.readText path = .ok source)
    (parsed : parse source = .ok declarations) (settings : Settings) (write : Bool) :
    let count := remainingCount (fixAll settings (locate path.text declarations))
    (fixBehavior console settings files path write).ending = .exit (if count = 0 then 0 else 1) ∧
      ∃ events, (fixBehavior console settings files path write).events = events ++ remainingEvents console count := by
  rw [fixBehavior, withSource_of_parsed console read parsed]
  exact ⟨rfl, _, (List.append_assoc _ _ _).symm⟩

theorem refixing (console : Console) {files : Files} {path : Path} {text : String}
    {again : List (Declaration Position)} {roots : List (Declaration Stamp)} (read : files.readText path = .ok text)
    (parsed : parse text = .ok again)
    (shapes : again.map Declaration.shape = roots.map Declaration.shape)
    (silent : ∀ root ∈ roots, firstFix? (root.report settings) = none) :
    let runs := fixAll settings (locate path.text again)
    let count := (roots.flatMap (·.report settings)).length
    (∀ run ∈ runs, run.passes = []) ∧ fixedText runs = declarationsText roots ∧
      remainingCount runs = count ∧
      (fixBehavior console settings files path true).files = files.write path (declarationsText roots) ∧
      .out (console.echoed (declarationsText roots)) ∈ (fixBehavior console settings files path false).events ∧
      ∀ write, (fixBehavior console settings files path write).ending = .exit (if count = 0 then 0 else 1) ∧
        ∃ events, (fixBehavior console settings files path write).events = events ++ remainingEvents console count := by
  intro runs count
  -- reports depend on the shape only, so the file that is read again has nothing to fix
  have located : (locate path.text again).map Declaration.shape = roots.map Declaration.shape := by
    simp [locate, ← shapes, Function.comp_def]
  obtain ⟨untouched, fixedShapes, left⟩ := fixAll_of_shapes located silent
  have same : fixedText runs = declarationsText roots := by
    refine declarationsText_of_shapes ?_
    rw [List.map_map]
    exact fixedShapes
  have reported := fixBehavior_report console read parsed settings
  rw [left] at reported
  refine ⟨untouched, same, left, ?_, ?_, reported⟩
  · rw [← same]
    exact fixBehavior_output console read parsed settings true
  · rw [← same]
    exact fixBehavior_output console read parsed settings false

end

/-- Fixing is idempotent, where every name that a catch-all can be given is an identifier, the label of
placeholders can stand in one and has no carriage return, and no run had to stop. The text that fixing
ends with is written as it is, and printed as it is if it has no escape characters. Wherever it is read
again, fixing applies no fix, ends with the same text and reports as many problems as before; so writing
it over itself leaves all files as they are. -/
theorem fixing_is_idempotent (console : Console) {files : Files} {path : Path} {source : String}
    {declarations : List (Declaration Position)} (read : files.readText path = .ok source)
    (parsed : parse source = .ok declarations) (settings : Settings)
    (named : IsIdentifier settings.defaultCaseName)
    (given : ∀ declaration ∈ declarations, ∀ name, declaration.GivesName name → IsIdentifier name)
    (label : IsLabel settings.placeholderLabel) (plain : Text.Portable settings.placeholderLabel)
    (settled : ∀ run ∈ fixAll settings (locate path.text declarations), run.exhausted = false) :
    let runs := fixAll settings (locate path.text declarations)
    let text := fixedText runs
    let written := (fixBehavior console settings files path true).files
    written.readText path = .ok text ∧
    .out (console.echoed text) ∈ (fixBehavior console settings files path false).events ∧
    ('\x1b' ∉ text.toList → console.echoed text = text) ∧
    (fixBehavior console settings written path true).files = written ∧
    ∃ again, parse text = .ok again ∧ ∀ (later : Files) (place : Path), later.readText place = .ok text →
      let rerun := fixAll settings (locate place.text again)
      (∀ run ∈ rerun, run.passes = []) ∧ fixedText rerun = text ∧
      remainingCount rerun = remainingCount runs ∧
      (fixBehavior console settings later place true).files = later.write place text ∧
      .out (console.echoed text) ∈ (fixBehavior console settings later place false).events ∧
      ∀ write, (fixBehavior console settings later place write).ending =
          (fixBehavior console settings files path write).ending ∧
        ∃ events, (fixBehavior console settings later place write).events =
          events ++ remainingEvents console (remainingCount runs) := by
  intro runs text written
  -- what the runs end with can be printed, is read back from a file, and has no fix left
  have printable : ∀ root ∈ runs.map (·.result.root), root.Printable :=
    List.forall_mem_map.mpr (printable_fixAll parsed named given label)
  have portable : ∀ root ∈ runs.map (·.result.root), root.Portable :=
    List.forall_mem_map.mpr (portable_fixAll parsed (Files.portable_of_readText read) plain)
  have silent : ∀ root ∈ runs.map (·.result.root), firstFix? (root.report settings) = none :=
    List.forall_mem_map.mpr (silent_fixAll settled)
  have output : written = files.write path text := fixBehavior_output console read parsed settings true
  have reread : written.readText path = .ok text := by
    rw [output]
    exact Files.readText_write read (portable_declarationsText printable portable)
  obtain ⟨again, reparsed, shapes⟩ := parse_declarationsText printable
  have count := remainingCount_fixAll settings (locate path.text declarations)
  have repeats := fun (later : Files) (place : Path) (laterRead : later.readText place = .ok text) =>
    refixing console laterRead reparsed shapes silent
  refine ⟨reread, fixBehavior_output console read parsed settings false, console.echoed_of_plain _, ?_,
    again, reparsed, ?_⟩
  · rw [(repeats written path reread).2.2.2.1, output]
    exact Files.write_write read text
  · intro later place laterRead rerun
    obtain ⟨untouched, same, left, laterWritten, printed, reported⟩ := repeats later place laterRead
    rw [← count] at left reported
    refine ⟨untouched, same, left, laterWritten, printed, fun write => ⟨?_, (reported write).2⟩⟩
    rw [(reported write).1, (fixBehavior_report console read parsed settings write).1]

def dimmer : Declaration Position :=
  ⟨.enumKind, ⟨"Lamp", ⟨2, 6⟩⟩, [⟨⟨"raw_representable", ⟨1, 2⟩⟩, [⟨"Int", ⟨1, 20⟩⟩],
      [⟨some "case_name", .string "dim" ⟨1, 35⟩, ⟨1, 25⟩⟩], ⟨1, 1⟩⟩],
    ⟨[⟨[], [⟨⟨"on", ⟨3, 3⟩⟩, none, ⟨3, 3⟩⟩], ⟨3, 3⟩⟩], ⟨3, 1⟩⟩, ⟨2, 1⟩⟩

def dimmerFiles : Files :=
  .ofList ⟨"/", []⟩ [("lamp", "@raw_representable[Int](case_name=\"dim\")\nenum Lamp:\n  on\n")]

def dimmedText : String :=
  "@raw_representable[Int](case_name=\"dim\")\nenum Lamp:\n  @raw_value(<#value#>)\n  on\n" ++
    "  @default_case\n  dim(Int)\n"

/-- The lamp is written once and then left alone, and what is printed of it is the same both times. -/
theorem dimmer_fixed_once :
    let fixing := fun files write => fixBehavior plainConsole {} files ⟨"", ["lamp"]⟩ write
    let written := (fixing dimmerFiles true).files
    written.readText ⟨"", ["lamp"]⟩ = .ok dimmedText ∧ (fixing written true).files = written ∧
      .out dimmedText ∈ (fixing dimmerFiles false).events ∧ .out dimmedText ∈ (fixing written false).events ∧
      ∃ again, parse dimmedText = .ok again ∧
        (∀ run ∈ fixAll {} (locate "lamp" again), run.passes = []) ∧
        remainingCount (fixAll {} (locate "lamp" again)) = 1 := by
  have read : dimmerFiles.readText ⟨"", ["lamp"]⟩ =
      .ok "@raw_representable[Int](case_name=\"dim\")\nenum Lamp:\n  on\n" := by
    decide +kernel
  have given : ∀ declaration ∈ [dimmer], ∀ name, declaration.GivesName name → IsIdentifier name := by
    rw [List.forall_mem_singleton]
    rintro name ⟨attr, member, -, argument, inside, -, tag, same⟩
    cases List.mem_singleton.mp member
    cases List.mem_singleton.mp inside
    cases same
    exact ⟨_, _, rfl, rfl⟩
  have label : IsLabel "value" := by
    refine ⟨by decide, ?_⟩
    simp [List.infix_cons_iff]
  obtain ⟨reread, printed, echoes, kept, again, reparsed, repeats⟩ := fixing_is_idempotent plainConsole
    read (by decide +kernel : parse _ = .ok [dimmer]) {} ⟨_, _, rfl, rfl⟩ given label (by decide)
    (by decide +kernel)
  obtain ⟨untouched, -, count, -, reprinted, -⟩ := repeats _ _ reread
  have name : Path.text ⟨"", ["lamp"]⟩ = "lamp" := by decide +kernel
  have fixed : fixedText (fixAll {} (locate "lamp" [dimmer])) = dimmedText := by decide +kernel
  have left : remainingCount (fixAll {} (locate "lamp" [dimmer])) = 1 := by decide +kernel
  rw [name] at reread printed echoes reparsed untouched count reprinted
  rw [fixed] at reread printed echoes reparsed reprinted
  rw [echoes (by decide +kernel)] at printed reprinted
  exact ⟨reread, kept, printed, reprinted, again, reparsed, untouched, count.trans left⟩

end RawMapping
