import RawMapping.Command.Behavior
import RawMapping.Console.Plain

/-! The command line program. It reads the files that a run can look at, runs the command on them and
does what that gives. -/

set_option autoImplicit false

namespace RawMapping

def Invocation.paths (directory : Path) : Invocation → List Path
  | .version => []
  | .run _ named command =>
    let file :=
      match command with
      | .check path _ | .expand path | .fix path _ | .eval path _ => path
    [named.getD (directory.child Config.defaultFileName), file]

def Files.fullPlace (files : Files) (path : Path) : List String :=
  path.components.foldl
    (fun place component => if component == ".." then place.dropLast else place ++ [component])
    (if path.root == "" then files.cwd else [])

def Files.gather (files : Files) (path : Path) : IO Files := do
  let place := files.fullPlace path
  try
    let content ← IO.FS.readFile path.text
    return { files with texts := (place, content) :: files.texts }
  catch
    | .inappropriateType .. => return { files with directories := place :: files.directories }
    | _ => return files

def perform (invocation : Invocation) : IO UInt32 := do
  let directory := Path.ofText (toString (← IO.currentDir))
  let files ← (invocation.paths directory).foldlM Files.gather ⟨directory.components, [], []⟩
  let (behavior, threshold) := invocation.behavior plainConsole files
  for path in invocation.paths directory do
    match files.read path, behavior.files.read path with
    | .ok before, .ok content => if before != content then IO.FS.writeFile path.text content
    | _, _ => pure ()
  IO.print (outText behavior.events)
  IO.eprint (errText threshold behavior.events)
  match behavior.ending with
  | .exit _ => pure ()
  | .crash cause => IO.eprintln cause.message
  return behavior.ending.code.toUInt32

end RawMapping

def main (arguments : List String) : IO UInt32 := do
  match RawMapping.Invocation.ofArguments? arguments with
  | some invocation => RawMapping.perform invocation
  | none =>
    IO.eprintln "Usage: rawenum [-v] [-c PATH] (check | expand | fix | eval) FILE [OPTIONS]"
    return 2
