import RawMapping.Command.Event
import RawMapping.Report.Apply

/-! The log of reading, expanding and fixing declarations. -/

set_option autoImplicit false

namespace RawMapping

variable {α : Type}

def parseJournal (file : String) (declarations : List (Declaration α)) : List Event :=
  [.log .debug .parser s!"Parsed {declarations.length} declaration(s) from {file}"]

/-- The cases of a declaration and how each obtains its value. -/
def Declaration.classification (declaration : Declaration α) : String :=
  commaList (declaration.records.map fun record => record.name ++ "=" ++ record.role.text)

/-- The log of expanding a declaration as an attribute asks. Cases are classified only if the attribute
and the declaration have the right shape. -/
def Declaration.expandAsJournal (declaration : Declaration α) (attr : Attribute α)
    (settings : Settings) : List Event :=
  match declaration.request attr settings with
  | .error _ => []
  | .ok (rawType, settings) =>
    let name := declaration.name.text
    .log .debug .expander
        (s!"Classified {declaration.records.length} case(s) of {name}: " ++ declaration.classification) ::
      match declaration.mapping rawType settings with
      | .ok _ => []
      | .error problems => [.log .debug .expander s!"{name}: {problems.length} diagnostic(s)"]

def Declaration.expandJournal (declaration : Declaration α) (settings : Settings) : List Event :=
  match declaration.findAttribute? annotationName with
  | none => []
  | some attr => declaration.expandAsJournal attr settings

def expandAllJournal (declarations : List (Declaration α)) (settings : Settings) : List Event :=
  declarations.flatMap fun declaration =>
    if declaration.isAnnotated then declaration.expandJournal settings
    else [.log .debug .expander s!"Skipping {declaration.name.text} (not annotated)"]

/-- What fixing a declaration shows: every fix it applies, and whether it gave up. -/
def FixRun.journal (console : Console) (settings : Settings) (run : FixRun) : List Event :=
  let name := run.result.root.name.text
  let passes := run.passes.flatMap fun (declaration, fix) =>
    declaration.expandJournal settings ++
      [console.warn s!"{name}: {fix.kind.message}",
        .log .debug .fixer s!"Applied fix '{fix.kind.message}' to {name}"]
  let exhausted :=
    if run.exhausted then
      [.log .warning .commands s!"{name}: still failing after {settings.maxFixPasses} fix passes"]
    else []
  passes ++ run.result.root.expandJournal settings ++ exhausted

end RawMapping
