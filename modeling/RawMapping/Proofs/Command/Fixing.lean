import RawMapping.Command.Behavior
import RawMapping.Console.Plain
import RawMapping.Proofs.Derived.Retagging
import RawMapping.Proofs.Report.Readback

/-! Fixing a file reports truthfully. What it counts as remaining are the diagnostics of the declarations
it ends with, so it ends well exactly if all of them that are annotated expand; and where nothing is wrong
it changes nothing. -/

set_option autoImplicit false

namespace RawMapping

/-! ### Reports -/

section

variable {α : Type}

theorem Declaration.mapping_error_ne_nil {declaration : Declaration α} {rawType : NamedType α}
    {settings : Settings} {diagnostics : List (Diagnostic α)}
    (refused : declaration.mapping rawType settings = .error diagnostics) : diagnostics ≠ [] := by
  simp only [mapping] at refused
  split at refused
  · cases refused
    exact List.cons_ne_nil _ _
  · split at refused
    · cases refused
    · next problems _ dirty _ =>
      cases refused
      rintro rfl
      exact dirty rfl

theorem Declaration.request_error_ne_nil {declaration : Declaration α} {attr : Attribute α}
    {settings : Settings} {diagnostics : List (Diagnostic α)}
    (refused : declaration.request attr settings = .error diagnostics) : diagnostics ≠ [] := by
  rcases Declaration.request_error refused with rfl | rfl | ⟨argument, -, rfl⟩
  · exact List.cons_ne_nil _ _
  · exact List.cons_ne_nil _ _
  · exact List.cons_ne_nil _ _

theorem Declaration.expandAs_error_ne_nil {declaration : Declaration α} {attr : Attribute α}
    {settings : Settings} {diagnostics : List (Diagnostic α)}
    (refused : declaration.expandAs attr settings = .error diagnostics) : diagnostics ≠ [] := by
  unfold expandAs at refused
  cases asked : declaration.request attr settings with
  | error problems =>
    rw [asked] at refused
    cases refused
    exact Declaration.request_error_ne_nil asked
  | ok request =>
    obtain ⟨rawType, changed⟩ := request
    rw [asked, ok_bind] at refused
    cases mapped : declaration.mapping rawType changed with
    | error problems =>
      simp only [mapped, error_bind] at refused
      cases refused
      exact Declaration.mapping_error_ne_nil mapped
    | ok mapping =>
      simp only [mapped, ok_bind] at refused
      cases refused

theorem Declaration.ofReport_of_expand {declaration : Declaration α} {settings : Settings}
    {diagnostics : List (Diagnostic α)}
    (refused : declaration.expand settings = .error (.rejected diagnostics)) :
    ExpandError.ofReport diagnostics = .ok (.rejected diagnostics) := by
  unfold expand at refused
  split at refused
  · cases refused
  · next attr found =>
    cases outcome : declaration.expandAs attr settings with
    | ok expansion =>
      rw [outcome] at refused
      cases refused
    | error problems =>
      rw [outcome] at refused
      cases refused
      simpa [ExpandError.ofReport] using Declaration.expandAs_error_ne_nil outcome

theorem Declaration.report_eq (declaration : Declaration α) (settings : Settings) :
    declaration.report settings =
      ((declaration.findAttribute? annotationName).map fun attr =>
        outcomeProblems (declaration.expandAs attr settings)).getD [] := by
  unfold report expand
  cases declaration.findAttribute? annotationName with
  | none => rfl
  | some attr =>
    simp only [Option.map_some, Option.getD_some]
    cases declaration.expandAs attr settings <;> rfl

theorem Declaration.report_eq_nil_iff (declaration : Declaration α) (settings : Settings) :
    declaration.report settings = [] ↔
      (declaration.isAnnotated = true → ∃ expansion, declaration.expand settings = .ok expansion) := by
  rw [report_eq]
  unfold isAnnotated expand
  cases declaration.findAttribute? annotationName with
  | none => simp
  | some attr =>
    simp only [Option.map_some, Option.getD_some, Option.isSome_some, true_imp_iff, mapError_eq_ok_iff]
    cases outcome : declaration.expandAs attr settings with
    | ok expansion => simp [outcomeProblems]
    | error diagnostics => simp [outcomeProblems, Declaration.expandAs_error_ne_nil outcome]

theorem flatMap_outcomeProblems (declarations : List (Declaration α)) (settings : Settings) :
    ((expandAll declarations settings).flatMap fun (_, outcome) => outcomeProblems outcome) =
      declarations.flatMap (·.report settings) := by
  rw [expandAll]
  induction declarations with
  | nil => rfl
  | cons declaration declarations ih =>
    rw [List.flatMap_cons, Declaration.report_eq, ← ih, List.filterMap_cons]
    cases declaration.findAttribute? annotationName <;> rfl

theorem Declaration.report_of_not_annotated {declaration : Declaration α}
    (plain : declaration.isAnnotated = false) (settings : Settings) :
    declaration.report settings = [] := by
  rw [report_eq_nil_iff]
  simp [plain]

end

/-! ### The passes of a run -/

inductive Edited.Reaches (settings : Settings) :
    Edited → List (Declaration Stamp × Fix Stamp) → Edited → Prop where
  | done (edited : Edited) : Reaches settings edited [] edited
  | pass {edited next last : Edited} {fix : Fix Stamp} {passes : List (Declaration Stamp × Fix Stamp)}
      (first : firstFix? (edited.root.report settings) = some fix)
      (applied : fix.apply edited = .ok next) (rest : Reaches settings next passes last) :
      Reaches settings edited ((edited.root, fix) :: passes) last

/-- The run accounts for all it did: it applied the fixes it lists, not more than it may, changed the
body only, stopped where nothing is left to fix unless it had to, and lists what is wrong with the
result. -/
structure FixRun.Accounts (run : FixRun) (settings : Settings) (limit : Nat) (edited : Edited) : Prop where
  reaches : edited.Reaches settings run.passes run.result
  bounded : run.passes.length ≤ limit
  head : run.result.root.shape = { edited.root.shape with body := run.result.root.shape.body }
  remaining : run.remaining = run.result.root.report settings
  ends : firstFix? run.remaining = none ∨ run.passes.length = limit

theorem FixRun.accounts_stopped (edited : Edited) (settings : Settings) {limit : Nat} (exhausted : Bool)
    (ends : firstFix? (edited.root.report settings) = none ∨ limit = 0) :
    (FixRun.stopped edited (edited.root.report settings) exhausted).Accounts settings limit edited where
  reaches := .done edited
  bounded := Nat.zero_le limit
  head := rfl
  remaining := rfl
  ends := ends.imp_right Eq.symm

theorem FixRun.Accounts.pass {run : FixRun} {settings : Settings} {limit : Nat} {edited next : Edited}
    {fix : Fix Stamp} {lines : List (CaseLine Unit)} (accounts : run.Accounts settings limit next)
    (first : firstFix? (edited.root.report settings) = some fix) (applied : fix.apply edited = .ok next)
    (shape : next.root.shape = { edited.root.shape with body := ⟨lines, ()⟩ }) :
    { run with passes := (edited.root, fix) :: run.passes }.Accounts settings (limit + 1) edited where
  reaches := .pass first applied accounts.reaches
  bounded := Nat.succ_le_succ accounts.bounded
  head := by rw [accounts.head, shape]
  remaining := accounts.remaining
  ends := accounts.ends.imp_right (congrArg Nat.succ)

theorem Edited.Coherent.accounts {edited : Edited} (coherent : edited.Coherent) (settings : Settings)
    (limit : Nat) : (edited.fix settings limit).Accounts settings limit edited := by
  -- by induction on the passes that are allowed; a fix that is offered can be applied
  induction limit generalizing edited with
  | zero =>
    rw [Edited.fix_eq]
    cases firstFix? (edited.root.report settings) with
    | none => exact FixRun.accounts_stopped edited settings false (.inr rfl)
    | some fix => exact FixRun.accounts_stopped edited settings true (.inr rfl)
  | succ limit ih =>
    cases first : firstFix? (edited.root.report settings) with
    | none =>
      rw [Edited.fix_of_none first]
      exact FixRun.accounts_stopped edited settings false (.inl first)
    | some fix =>
      obtain ⟨lines, ⟨next, applied, nextCoherent, shape⟩, -⟩ := coherent.pass first
      rw [Edited.fix_of_some first applied]
      exact (ih nextCoherent).pass first applied shape

theorem Edited.fix_of_nil {edited : Edited} {settings : Settings}
    (clean : edited.root.report settings = []) (limit : Nat) :
    edited.fix settings limit = .stopped edited [] false := by
  rw [Edited.fix_of_none (by rw [clean]; rfl), clean]

theorem Edited.report_load_eq_nil_iff (next : Nat) (declaration : Declaration (Option Location))
    (settings : Settings) :
    (Edited.load next declaration).root.report settings = [] ↔ declaration.report settings = [] := by
  -- both have the same shape, and a report on the shape has as many diagnostics as either
  have same := (Edited.load next declaration).root.report_map (fun _ => ()) settings
  rw [← Declaration.shape, Edited.shape_load, Declaration.shape, Declaration.report_map] at same
  rw [← List.map_eq_nil_iff, ← same, List.map_eq_nil_iff]

/-! ### Commands -/

theorem withSource_of_parsed (console : Console) {files : Files} {path : Path} {source : String}
    {declarations : List (Declaration Position)} (read : files.readText path = .ok source)
    (parsed : parse source = .ok declarations) (format : Format) (go : String → Located → Behavior) :
    withSource console files path format go =
      (go source (locate path.text declarations)).after (parseJournal path.text declarations) := by
  simp only [withSource, read, parsed]

theorem Behavior.code_attempts (files : Files) {code : Nat} (failure : code ≠ 0)
    (events : List (Except String Event)) : (attempts files code events).ending.code ≠ 0 := by
  induction events with
  | nil => exact failure
  | cons event events ih =>
    cases event with
    | error error => exact Nat.one_ne_zero
    | ok event => exact ih

theorem checkBehavior_code_eq_zero_iff (console : Console) {files : Files} {path : Path} {source : String}
    {declarations : List (Declaration Position)} (read : files.readText path = .ok source)
    (parsed : parse source = .ok declarations) (settings : Settings) (format : Format) :
    (checkBehavior console settings files path format).ending.code = 0 ↔
      ∀ declaration ∈ locate path.text declarations, declaration.report settings = [] := by
  rw [checkBehavior, withSource_of_parsed console read parsed, ← List.flatMap_eq_nil_iff,
    ← flatMap_outcomeProblems]
  simp only [Behavior.after]
  split
  · next clean => simpa [Behavior.exits, Ending.code] using clean
  · next dirty =>
    have failed := Behavior.code_attempts files Nat.one_ne_zero
    simp only [failed, false_iff]
    simpa using dirty

theorem fixBehavior_output (console : Console) {files : Files} {path : Path} {source : String}
    {declarations : List (Declaration Position)} (read : files.readText path = .ok source)
    (parsed : parse source = .ok declarations) (settings : Settings) (write : Bool) :
    let text := fixedText (fixAll settings (locate path.text declarations))
    if write then (fixBehavior console settings files path write).files = files.write path text
      else .out (console.echoed text) ∈ (fixBehavior console settings files path write).events := by
  intro text
  rw [fixBehavior, withSource_of_parsed console read parsed]
  cases write with
  | true => rfl
  | false => simp [Behavior.after, text]

/-! ### The whole file -/

theorem forall₂_fixAll (settings : Settings) (located : Located) :
    List.Forall₂ (fun declaration run =>
      run.Accounts settings settings.maxFixPasses (Edited.load 0 declaration) ∧
        (declaration.isAnnotated = false → run.passes = [] ∧ run.result = Edited.load 0 declaration))
      located (fixAll settings located) := by
  rw [fixAll, List.forall₂_map_right_iff, List.forall₂_same]
  intro declaration member
  refine ⟨(Edited.coherent_load 0 declaration).accounts settings _, fun plain => ?_⟩
  have clean := (Edited.report_load_eq_nil_iff 0 declaration settings).mpr
    (Declaration.report_of_not_annotated plain settings)
  rw [Edited.fix_of_nil clean]
  exact ⟨rfl, rfl⟩

theorem remainingCount_fixAll (settings : Settings) (located : Located) :
    remainingCount (fixAll settings located) =
      (((fixAll settings located).map (·.result.root)).flatMap (·.report settings)).length := by
  have remaining : ∀ run ∈ fixAll settings located, run.remaining = run.result.root.report settings := by
    rw [fixAll, List.forall_mem_map]
    intro declaration member
    exact ((Edited.coherent_load 0 declaration).accounts settings _).remaining
  rw [remainingCount, List.flatMap_map]
  exact congrArg List.length (List.flatMap_congr remaining)

theorem fixAll_of_clean {settings : Settings} {located : Located}
    (clean : ∀ declaration ∈ located, declaration.report settings = []) :
    fixAll settings located =
      located.map fun declaration => .stopped (Edited.load 0 declaration) [] false := by
  rw [fixAll]
  apply List.map_congr_left
  intro declaration member
  exact Edited.fix_of_nil ((Edited.report_load_eq_nil_iff 0 declaration settings).mpr
    (clean declaration member)) settings.maxFixPasses

/-- Fixing a file reports truthfully. Each declaration is fixed where it stands, by at most as many fixes
as are allowed, all of them fixes it was offered; one that is not annotated stays as it is. What is
counted as remaining are the diagnostics of the result, so fixing ends well exactly if every annotated
declaration of the result expands. Where a check ends well, nothing is fixed and fixing ends well. -/
theorem fixing_reports_truthfully (console : Console) {files : Files} {path : Path} {source : String}
    {declarations : List (Declaration Position)} (read : files.readText path = .ok source)
    (parsed : parse source = .ok declarations) (settings : Settings) (write : Bool) :
    let located := locate path.text declarations
    let runs := fixAll settings located
    let fixed := runs.map (·.result.root)
    let left := ((expandAll fixed settings).flatMap fun (_, outcome) => outcomeProblems outcome).length
    let behavior := fixBehavior console settings files path write
    List.Forall₂ (fun declaration run =>
        run.Accounts settings settings.maxFixPasses (Edited.load 0 declaration) ∧
          (declaration.isAnnotated = false → run.passes = [] ∧ run.result = Edited.load 0 declaration))
      located runs ∧
    remainingCount runs = left ∧
    (∃ events, behavior.events = events ++ remainingEvents console left) ∧
    (if write then behavior.files = files.write path (declarationsText fixed)
      else .out (console.echoed (declarationsText fixed)) ∈ behavior.events) ∧
    behavior.ending = .exit (if left = 0 then 0 else 1) ∧
    (behavior.ending.code = 0 ↔ ∀ declaration ∈ fixed, declaration.isAnnotated = true →
      ∃ expansion, declaration.expand settings = .ok expansion) ∧
    (∀ format, (checkBehavior console settings files path format).ending.code = 0 →
      (∀ run ∈ runs, run.passes = []) ∧ behavior.ending.code = 0) := by
  intro located runs fixed left behavior
  have problems : left = (fixed.flatMap (·.report settings)).length :=
    congrArg List.length (flatMap_outcomeProblems fixed settings)
  have count : remainingCount runs = left := (remainingCount_fixAll settings located).trans problems.symm
  have shown : behavior = _ := withSource_of_parsed console read parsed .human _
  have ending : behavior.ending = .exit (if left = 0 then 0 else 1) := by
    rw [shown, ← count]
    rfl
  have success : behavior.ending.code = 0 ↔ left = 0 := by
    rw [ending, Ending.code]
    split
    · next none => exact iff_of_true rfl none
    · next some => exact iff_of_false Nat.one_ne_zero some
  refine ⟨forall₂_fixAll settings located, count, ?_, fixBehavior_output console read parsed settings write,
    ending, ?_, ?_⟩
  · rw [shown, ← count]
    exact ⟨_, (List.append_assoc _ _ _).symm⟩
  · rw [success, problems, List.length_eq_zero_iff, List.flatMap_eq_nil_iff]
    simp only [Declaration.report_eq_nil_iff]
  · -- where a check finds nothing, fixing leaves every declaration as it was read
    intro format clean
    have untouched := fixAll_of_clean ((checkBehavior_code_eq_zero_iff console read parsed settings format).mp clean)
    have stopped : ∀ run ∈ runs, run.passes = [] ∧ run.remaining = [] := by
      change ∀ run ∈ fixAll settings located, _
      rw [untouched, List.forall_mem_map]
      exact fun _ _ => ⟨rfl, rfl⟩
    refine ⟨fun run member => (stopped run member).1, ?_⟩
    rw [success, ← count, remainingCount, List.length_eq_zero_iff, List.flatMap_eq_nil_iff]
    exact fun run member => (stopped run member).2

def lampFiles : Files :=
  .ofList ⟨"/", ["work"]⟩ [("lamp", "@raw_representable[Int]\nenum Lamp:\n  on\n")]

/-- With one pass the lamp gets a catch-all, and its case is left without a value. -/
theorem lamp_reports_truthfully :
    lampFiles.readText ⟨"", ["lamp"]⟩ = .ok "@raw_representable[Int]\nenum Lamp:\n  on\n" ∧
      ∃ run, fixAll { maxFixPasses := 1 } (locate "lamp" [lamp]) = [run] ∧ run.passes.length = 1 ∧
        run.Accounts { maxFixPasses := 1 } 1 (Edited.load 0 (lamp.map fun p => some (.of "lamp" p))) ∧
        ∃ events, (fixBehavior plainConsole { maxFixPasses := 1 } lampFiles ⟨"", ["lamp"]⟩ true).events =
          events ++ [plainConsole.warn "1 problem(s) have no automatic fix."] := by
  have read : lampFiles.readText ⟨"", ["lamp"]⟩ = .ok "@raw_representable[Int]\nenum Lamp:\n  on\n" := by
    decide +kernel
  obtain ⟨each, count, ⟨events, said⟩, -⟩ :=
    fixing_reports_truthfully plainConsole read lamp_read { maxFixPasses := 1 } true
  have name : Path.text ⟨"", ["lamp"]⟩ = "lamp" := by decide +kernel
  rw [name] at each count said
  have one : remainingCount (fixAll { maxFixPasses := 1 } (locate "lamp" [lamp])) = 1 := by decide +kernel
  rw [← count, one] at said
  obtain ⟨accounts, -⟩ := (List.forall₂_cons.mp each).1
  exact ⟨read, _, rfl, by decide +kernel, accounts, events, said⟩

end RawMapping
