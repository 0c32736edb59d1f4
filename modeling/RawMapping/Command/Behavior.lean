import RawMapping.Command.Arguments
import RawMapping.Command.Display
import RawMapping.Command.Journal
import RawMapping.Derived.Printer
import RawMapping.Files.Source
import RawMapping.Value.Evaluate

/-! What each command does: the events it shows, the files it leaves behind and how it ends. A command
fails if a file cannot be read, if anything is wrong with a declaration it needs, or if it is asked for
something that is not there. -/

set_option autoImplicit false

namespace RawMapping

/-- Failures that no message is prepared for. -/
inductive Crash where
  | config (error : ConfigError)
  | evaluation (error : EvalError)
  | file (error : FileError)
  /-- Marked up text that the console does not print. -/
  | markup (message : String)

def Crash.message : Crash → String
  | .config error => error.message
  | .evaluation error => error.message
  | .file error => error.message
  | .markup message => message

inductive Ending where
  | exit (code : Nat)
  | crash (cause : Crash)

def Ending.code : Ending → Nat
  | .exit code => code
  | .crash _ => 1

structure Behavior where
  events : List Event
  files : Files
  ending : Ending

namespace Behavior

def after (events : List Event) (behavior : Behavior) : Behavior :=
  { behavior with events := events ++ behavior.events }

/-- Shows something, leaves the files alone and ends with a code. -/
def exits (files : Files) (events : List Event) (code : Nat) : Behavior :=
  ⟨events, files, .exit code⟩

def crashes (files : Files) (cause : Crash) : Behavior :=
  ⟨[], files, .crash cause⟩

/-- Shows events one after the other, up to one that cannot be shown. -/
def attempts (files : Files) (code : Nat) : List (Except String Event) → Behavior
  | [] => exits files [] code
  | .error message :: _ => crashes files (.markup message)
  | .ok event :: events => (attempts files code events).after [event]

def fail (console : Console) (files : Files) (message : String) : Behavior :=
  exits files [console.warn message] 1

end Behavior

def SyntaxError.shown (error : SyntaxError) (format : Format) (file source : String) : String :=
  match format with
  | .human => "Parse error: " ++ error.message file source
  | .singleLine => (Location.of file error.position).text ++ ": error: " ++ error.fault.message

def withSource (console : Console) (files : Files) (path : Path) (format : Format)
    (go : String → Located → Behavior) : Behavior :=
  match files.readText path with
  -- such a path is refused before anything is read, and no command expects that
  | .error .unnameable => .crashes files (.file .unnameable)
  | .error error => .fail console files s!"Cannot read {path.text}: {error.message}"
  | .ok source =>
    match parse source with
    | .error error => .fail console files (error.shown format path.text source)
    | .ok declarations =>
      (go source (locate path.text declarations)).after (parseJournal path.text declarations)

def reportEvents (console : Console) (file source : String)
    (diagnostics : List (Diagnostic (Option Location))) : List (Except String Event) :=
  (diagnostics.flatMap (Diagnostic.printed console file source)).map (·.map .err)

def Format.reportEvents (format : Format) (console : Console) (file source : String)
    (diagnostics : List (Diagnostic (Option Location))) : List (Except String Event) :=
  match format with
  | .human => RawMapping.reportEvents console file source diagnostics
  | .singleLine =>
    (diagnostics.flatMap (Diagnostic.singleLines file)).map fun line => .ok (console.warn line)

def Format.success (format : Format) (count : Nat) : String :=
  match format with
  | .human => s!"OK: {count} declaration(s) expand cleanly."
  | .singleLine => "::notice: Validation successful"

def outcomeProblems {α : Type} (outcome : Except (List (Diagnostic α)) (Expansion (Option α))) :
    List (Diagnostic α) :=
  match outcome with
  | .ok _ => []
  | .error diagnostics => diagnostics

def checkBehavior (console : Console) (settings : Settings) (files : Files) (path : Path)
    (format : Format) : Behavior :=
  withSource console files path format fun source declarations =>
    let results := expandAll declarations settings
    let problems := results.flatMap fun (_, outcome) => outcomeProblems outcome
    .after (expandAllJournal declarations settings) <|
      if problems.isEmpty then .exits files [console.say (format.success results.length)] 0
      else .attempts files 1 (format.reportEvents console path.text source problems)

def expansionEvents (console : Console) (file source : String)
    (declaration : Declaration (Option Location))
    (outcome : Except (List (Diagnostic (Option Location))) (Expansion (Option (Option Location)))) :
    List (Except String Event) :=
  match outcome with
  | .error diagnostics => reportEvents console file source diagnostics
  | .ok expansion =>
    [(console.printed ("[dim]# " ++ declaration.name.text ++ "[/dim]")).map .out,
      .ok (console.say expansion.text)]

def expandBehavior (console : Console) (settings : Settings) (files : Files) (path : Path) : Behavior :=
  withSource console files path .human fun source declarations =>
    let results := expandAll declarations settings
    let failed := results.any fun (_, outcome) => !outcome.isOk
    let events := results.flatMap fun (declaration, outcome) =>
      expansionEvents console path.text source declaration outcome
    .after (expandAllJournal declarations settings) (.attempts files (if failed then 1 else 0) events)

/-- How fixing ends: with a count of what is left, if anything is. -/
def remainingEvents (console : Console) (count : Nat) : List Event :=
  if count = 0 then [] else [console.warn s!"{count} problem(s) have no automatic fix."]

def fixBehavior (console : Console) (settings : Settings) (files : Files) (path : Path)
    (write : Bool) : Behavior :=
  withSource console files path .human fun _ declarations =>
    let runs := fixAll settings declarations
    let text := fixedText runs
    let count := remainingCount runs
    -- what is written is not shown
    let shown := if write then [console.warn s!"Wrote {path.text}"] else [.out (console.echoed text)]
    ⟨runs.flatMap (FixRun.journal console settings) ++ shown ++ remainingEvents console count,
      if write then files.write path text else files,
      .exit (if count = 0 then 0 else 1)⟩

def selectAnnotated? (declarations : Located) (typeName : Option String) :
    Option (Declaration (Option Location)) :=
  -- without a name the only annotated declaration is meant
  let named := declarations.filter fun declaration =>
    declaration.isAnnotated && typeName.all (declaration.name.text == ·)
  match named with
  | [declaration] => some declaration
  | _ => none

def availableNames (declarations : Located) : String :=
  match declarations.filter Declaration.isAnnotated with
  | [] => "none"
  | annotated => commaList (annotated.map (·.name.text))

/-- A case that is written as its name, or as its name and its payload after an equals sign. -/
def Expansion.readCase {α : Type} (expansion : Expansion α) (text : String) : Except EvalError CaseValue := do
  let name := String.ofList (text.toList.takeWhile (· != '='))
  if !(← expansion.caseNames).contains name then
    throw (.unknownCase name expansion.typeName)
  -- an equals sign with nothing behind it is an empty payload, not a missing one
  match text.toList.dropWhile (· != '=') with
  | [] => return ⟨name, []⟩
  | _ :: payload => return ⟨name, [← expansion.coerce (String.ofList payload)]⟩

/-- The value that is asked for, as it is printed; nothing unless exactly one is asked for. -/
def EvalRequest.answer? {α : Type} (request : EvalRequest) :
    Option (Expansion α → Except EvalError String) :=
  match request.decode, request.encode with
  | some text, none => some fun expansion => do
    return (← expansion.decode (← expansion.coerce text)).show
  | none, some text => some fun expansion => do
    return (← expansion.encode (← expansion.readCase text)).show
  | _, _ => none

/-- Failures of an evaluation that a message is shown for. -/
def EvalError.isReported : EvalError → Bool
  | .numeral _ | .missingName _ | .missingMember => false
  | _ => true

def evaluationBehavior (console : Console) (files : Files) (answer : Except EvalError String) :
    Behavior :=
  match answer with
  | .ok text => .exits files [console.say text] 0
  | .error error =>
    if error.isReported then .fail console files ("Error: " ++ error.message)
    else .crashes files (.evaluation error)

def evalBehavior (console : Console) (settings : Settings) (files : Files) (path : Path)
    (request : EvalRequest) : Behavior :=
  match request.answer? with
  | none => .exits files [console.warn "Pass exactly one of --decode or --encode"] 2
  | some answer =>
    withSource console files path .human fun source declarations =>
      match selectAnnotated? declarations request.typeName with
      | none =>
        .fail console files
          s!"Select one declaration with --type (available: {availableNames declarations})"
      | some declaration =>
        .after (declaration.expandJournal settings) <|
          match declaration.expand settings with
          | .ok expansion => evaluationBehavior console files (answer expansion)
          | .error (.rejected diagnostics) =>
            .attempts files 1 (reportEvents console path.text source diagnostics)
          | .error error => .fail console files error.message

def Command.behavior (console : Console) (settings : Settings) (files : Files) : Command → Behavior
  | .check path format => checkBehavior console settings files path format
  | .expand path => expandBehavior console settings files path
  | .fix path write => fixBehavior console settings files path write
  | .eval path request => evalBehavior console settings files path request

def ConfigError.isReported : ConfigError → Bool
  | .tooLongToShow | .numeral _ | .unreadable _ => false
  | _ => true

def versionText : String := "0.1.0"

def Config.threshold (config : Config) (verbose : Bool) : Level :=
  if verbose then .debug else config.level

/-- Everything that a run of the program does, and the level from which on log lines are shown. -/
def Invocation.behavior (console : Console) (files : Files) : Invocation → Behavior × Level
  | .version => (.exits files [console.say ("rawenum version " ++ versionText)] 0, .warning)
  | .run verbose named command =>
    match Config.find files files.directory named with
    | .ok config => (command.behavior console config.settings files, config.threshold verbose)
    | .error error =>
      if error.isReported then (.fail console files ("Config error: " ++ error.message), .warning)
      else (.crashes files (.config error), .warning)

end RawMapping
