/-! Lines of text and windows of lines. -/

set_option autoImplicit false

namespace RawMapping.Text

/-- The pieces of a text between its line feeds; a text always has at least one. -/
def lines (text : String) : List String :=
  (text.toList.splitOn '\n').map String.ofList

def unlines (pieces : List String) : String :=
  "\n".intercalate pieces

/-- A bound of a window over `size` items: a negative bound counts from the end, and every bound is
clamped to the items there are. -/
def windowBound (size : Nat) (bound : Int) : Nat :=
  if 0 ≤ bound then min bound.toNat size else (size + bound).toNat

def window {α : Type} (items : List α) (start stop : Int) : List α :=
  let first := windowBound items.length start
  (items.take (windowBound items.length stop)).drop first

/-- Reads every line break, in whichever of the three styles, as a line feed. -/
def normalizeBreaks : List Char → List Char
  | [] => []
  | c :: rest =>
    if c == '\r' then
      match rest with
      | next :: after =>
        if next == '\n' then '\n' :: normalizeBreaks after else '\n' :: normalizeBreaks (next :: after)
      | [] => ['\n']
    else c :: normalizeBreaks rest

def padLeft (width : Nat) (text : String) : String :=
  String.ofList (List.replicate (width - text.length) ' ') ++ text

end RawMapping.Text
