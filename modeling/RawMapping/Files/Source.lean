import RawMapping.Declaration.Parser
import RawMapping.Files.Tree

/-! The declarations of files. -/

set_option autoImplicit false

namespace RawMapping

/-- The declarations of a file, each node with its location. -/
abbrev Located := List (Declaration (Option Location))

def locate (file : String) (declarations : List (Declaration Position)) : Located :=
  declarations.map (·.map fun position => some (.of file position))

/-- Why a file has no declarations. -/
inductive SourceError where
  | unreadable (error : FileError)
  | malformed (file source : String) (error : SyntaxError)

def SourceError.message : SourceError → String
  | .unreadable error => error.message
  | .malformed file source error => error.message file source

namespace Files

def declarations (files : Files) (path : Path) : Except SourceError Located := do
  let source ← (files.readText path).mapError .unreadable
  let declarations ← (parse source).mapError (.malformed path.text source)
  return locate path.text declarations

/-- Puts a value in the place of an older one for its key, or behind all others. -/
def enter {κ ν : Type} [BEq κ] (key : κ) (value : ν) : List (κ × ν) → List (κ × ν)
  | [] => [(key, value)]
  | (other, older) :: entries =>
    if other == key then (other, value) :: entries else (other, older) :: enter key value entries

/-- The declarations of several files in the order given, up to the first file that has none. A file
that is given again is read again, but stays where it was. -/
def declarationsOf (files : Files) (paths : List Path) : Except SourceError (List (Path × Located)) :=
  paths.foldlM (fun parsed path => return enter path (← files.declarations path) parsed) []

end Files

end RawMapping
