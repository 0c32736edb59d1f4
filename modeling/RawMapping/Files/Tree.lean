import RawMapping.Files.Path
import RawMapping.Text.Lines
import RawMapping.Text.Quoted

/-! The files a command sees: a working directory and the texts of files, each under its full path.
Directories are there because files are in them, or because they are listed. -/

set_option autoImplicit false

namespace RawMapping

structure Files where
  /-- The components of the working directory. -/
  cwd : List String
  texts : List (List String × String)
  directories : List (List String) := []

/-- What a path leads to. -/
inductive FileEntry where
  | text (content : String)
  | directory
  | missing
  /-- The path goes on behind a file. -/
  | blocked
  /-- The path, or a component that is looked up, is longer than any name can be. -/
  | tooLong
  /-- The path has a character that no name can have. -/
  | unnameable

inductive FileError where
  | missing (path : String)
  | notDirectory (path : String)
  | isDirectory (path : String)
  | nameTooLong (path : String)
  | unnameable
  deriving DecidableEq, Repr

def FileError.message : FileError → String
  | .missing path => "[Errno 2] No such file or directory: " ++ Text.quoted path
  | .notDirectory path => "[Errno 20] Not a directory: " ++ Text.quoted path
  | .isDirectory path => "[Errno 21] Is a directory: " ++ Text.quoted path
  | .nameTooLong path => "[Errno 36] File name too long: " ++ Text.quoted path
  | .unnameable => "embedded null byte"

namespace Files

def entry (files : Files) (place : List String) : FileEntry :=
  match files.texts.lookup place with
  | some content => .text content
  | none =>
    if place.isPrefixOf files.cwd || files.directories.contains place ||
        files.texts.any fun (other, _) => place.isPrefixOf other then
      .directory
    else .missing

/-- The most bytes that a component of a path can have. -/
def longestName : Nat := 255

/-- The most bytes that a path can have. -/
def longestPath : Nat := 4095

/-- The full path that components lead to from a directory, or what stops them on the way. -/
def resolve (files : Files) : List String → List String → Except FileEntry (List String)
  | place, [] => .ok place
  | place, component :: components =>
    match files.entry place with
    | .directory =>
      if longestName < component.utf8ByteSize then .error .tooLong
      else resolve files (if component == ".." then place.dropLast else place ++ [component]) components
    | .text _ => .error .blocked
    | stopped => .error stopped

def place (files : Files) (path : Path) : Except FileEntry (List String) :=
  if path.text.toList.contains (Char.ofNat 0) then .error .unnameable
  else if longestPath < path.text.utf8ByteSize then .error .tooLong
  else files.resolve (if path.root == "" then files.cwd else []) path.components

def find (files : Files) (path : Path) : FileEntry :=
  match files.place path with
  | .ok place => files.entry place
  | .error stopped => stopped

/-- Whether there is anything at a path. A path that is too long cannot be asked for. -/
def contains (files : Files) (path : Path) : Except FileError Bool :=
  match files.find path with
  | .text _ | .directory => .ok true
  | .missing | .blocked | .unnameable => .ok false
  | .tooLong => .error (.nameTooLong path.text)

def read (files : Files) (path : Path) : Except FileError String :=
  match files.find path with
  | .text content => .ok content
  | .directory => .error (.isDirectory path.text)
  | .missing => .error (.missing path.text)
  | .blocked => .error (.notDirectory path.text)
  | .tooLong => .error (.nameTooLong path.text)
  | .unnameable => .error .unnameable

def readText (files : Files) (path : Path) : Except FileError String :=
  (files.read path).map fun content => String.ofList (Text.normalizeBreaks content.toList)

def write (files : Files) (path : Path) (content : String) : Files :=
  match files.place path with
  | .ok place =>
    -- the new text is in front of all others, where a lookup finds it
    { files with texts := (place, content) :: files.texts.filter fun (other, _) => other != place }
  | .error _ => files

def directory (files : Files) : Path :=
  ⟨"/", files.cwd⟩

def ofList (cwd : Path) (texts : List (String × String)) : Files where
  cwd := cwd.components
  texts := texts.map fun (name, content) => (cwd.components ++ (Path.ofText name).components, content)

end Files

end RawMapping
