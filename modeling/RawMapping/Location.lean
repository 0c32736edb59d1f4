import RawMapping.Text.Lines

/-! Places in source text: a position inside one text, and a location that also names the file. A
location is shown as `file:line:column`, followed by an excerpt of the source when there is one. -/

set_option autoImplicit false

namespace RawMapping

/-- Line and column of a character, both counted from one. -/
structure Position where
  line : Nat
  column : Nat
  deriving DecidableEq, Repr

def Position.start : Position := ⟨1, 1⟩

/-- The position after one more character. -/
def Position.next (position : Position) (c : Char) : Position :=
  if c = '\n' then ⟨position.line + 1, 1⟩ else ⟨position.line, position.column + 1⟩

def Position.after (position : Position) (piece : List Char) : Position :=
  piece.foldl Position.next position

@[simp] theorem Position.after_nil (position : Position) : position.after [] = position := rfl

@[simp] theorem Position.after_cons (position : Position) (c : Char) (piece : List Char) :
    position.after (c :: piece) = (position.next c).after piece := rfl

@[simp] theorem Position.after_append (position : Position) (first second : List Char) :
    position.after (first ++ second) = (position.after first).after second := by
  simp [after]

structure Location where
  file : String
  line : Int
  column : Int
  deriving DecidableEq, Repr

def Location.of (file : String) (position : Position) : Location :=
  ⟨file, position.line, position.column⟩

def Location.text (location : Location) : String :=
  s!"{location.file}:{location.line}:{location.column}"

def excerpt (text : String) (line : Int) (context : Int) : String :=
  let all := Text.lines text
  Text.unlines (Text.window all (max 0 (line - 1 - context)) (min all.length (line + context)))

/-- How many lines an excerpt shows on either side of the line it is about. -/
def excerptContext : Int := 2

def margin (number : Int) : String :=
  Text.padLeft 4 (toString number) ++ " | "

def Location.numbered (location : Location) (number : Int) (line : String) : List String :=
  let shown := margin number ++ line
  if number = location.line then
    let indent := ((margin number).length + location.column - 1).toNat
    [shown, String.ofList (List.replicate indent ' ') ++ "^^^"]
  else [shown]

/-- The number of the first line that an excerpt shows. -/
def Location.firstShown (location : Location) : Int :=
  max 1 (location.line - excerptContext)

def Location.annotate (location : Location) (snippet : String) : String :=
  Text.unlines <| (Text.lines snippet).zipIdx.flatMap fun (line, index) =>
    location.numbered (location.firstShown + index) line

/-- The location, with the excerpt below it unless that is empty. -/
def Location.describe (location : Location) (snippet : String) : String :=
  if snippet = "" then location.text
  else location.text ++ "\n" ++ location.annotate snippet

def Location.inSource (location : Location) (source : String) : String :=
  location.describe (excerpt source location.line excerptContext)

end RawMapping
