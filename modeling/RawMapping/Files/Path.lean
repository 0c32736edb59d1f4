/-! File paths. A path is kept in normal form: empty and `.` components are dropped, `..` stays, and
one or two leading slashes are told apart from three or more, which count as one. -/

set_option autoImplicit false

namespace RawMapping

structure Path where
  root : String
  components : List String
  deriving DecidableEq, Repr

namespace Path

/-- What stands before the first component. -/
def rootOf (text : List Char) : String :=
  match (text.takeWhile (· == '/')).length with
  | 0 => ""
  | 2 => "//"
  | _ => "/"

def isKept (component : String) : Bool :=
  component != "" && component != "."

def ofText (text : String) : Path :=
  ⟨rootOf text.toList, ((text.toList.splitOn '/').map String.ofList).filter isKept⟩

def text (path : Path) : String :=
  if path.root == "" && path.components.isEmpty then "."
  else path.root ++ "/".intercalate path.components

def child (path : Path) (component : String) : Path :=
  ⟨path.root, path.components ++ [component]⟩

end Path

end RawMapping
