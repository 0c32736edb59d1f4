import RawMapping.Console.CellWidth
import RawMapping.Console.ShortCode
import RawMapping.Text.Lines

/-! Styled text for a terminal, shown without its styles. A tag in brackets opens or closes a style and
leaves no text; a bracket behind a backslash is text. A style can be closed only while it is open. Short
codes become emoji, some control characters are dropped, and tabs are filled up with spaces. -/

set_option autoImplicit false

namespace RawMapping

def isTagStart (c : Char) : Bool :=
  ('a' ≤ c && c ≤ 'z') || c == '#' || c == '/' || c == '@'

/-- A tag at the front of the text, and what follows it. -/
def readTag? (text : List Char) : Option (List Char × List Char) :=
  match text with
  | '[' :: c :: rest =>
    if isTagStart c then
      match rest.dropWhile fun d => d != ']' && d != '[' with
      | ']' :: left => some ('[' :: c :: rest.takeWhile (fun d => d != ']' && d != '[') ++ [']'], left)
      | _ => none
    else none
  | _ => none

theorem readTag?_shorter {text tag rest : List Char} (h : readTag? text = some (tag, rest)) :
    rest.length < text.length := by
  unfold readTag? at h
  split at h
  · next c after =>
    split at h
    · split at h
      · next left hd =>
        cases h
        have shorter := (List.dropWhile_sublist (fun d => d != ']' && d != '[') (l := after)).length_le
        rw [hd, List.length_cons] at shorter
        simp only [List.length_cons]
        omega
      · cases h
    · cases h
  · cases h

/-- Pieces of marked up text: plain text, and tags with the backslashes before them. -/
inductive MarkupPiece where
  | plain (text : List Char)
  | tag (backslashes : Nat) (written : List Char)

/-- Puts a character in front of the first piece if that is plain text. -/
def pushPlain (chars : List Char) : List MarkupPiece → List MarkupPiece
  | .plain text :: pieces => .plain (chars ++ text) :: pieces
  | pieces => .plain chars :: pieces

def isBackslash (c : Char) : Bool :=
  c == '\\'

theorem length_dropBackslashes_le (text : List Char) :
    (text.dropWhile isBackslash).length ≤ text.length :=
  (List.dropWhile_sublist isBackslash).length_le

def markupPieces (text : List Char) : List MarkupPiece :=
  match text with
  | [] => []
  | c :: rest =>
    let backslashes := (c :: rest).takeWhile isBackslash
    match _h : readTag? ((c :: rest).dropWhile isBackslash) with
    | some (tag, left) => .tag backslashes.length tag :: markupPieces left
    | none =>
      if isBackslash c then pushPlain backslashes (markupPieces (rest.dropWhile isBackslash))
      else pushPlain [c] (markupPieces rest)
termination_by text.length
decreasing_by
  · have tag := readTag?_shorter ‹_›
    have slashes := length_dropBackslashes_le (c :: rest)
    omega
  · have := length_dropBackslashes_le rest
    simp only [List.length_cons]
    omega
  · simp

/-- Writes text so that no tag is seen in it. -/
def escapeMarkup (text : String) : String :=
  let escaped := (markupPieces text.toList).flatMap fun piece =>
    match piece with
    | .plain chars => chars
    | .tag backslashes written => List.replicate (2 * backslashes + 1) '\\' ++ written
  -- a single backslash at the end must not escape what follows
  if escaped.getLast? = some '\\' ∧ escaped.dropLast.getLast? ≠ some '\\' then
    String.ofList (escaped ++ ['\\'])
  else String.ofList escaped

def isDropped (c : Char) : Bool :=
  c.toNat == 7 || c.toNat == 8 || c.toNat == 11 || c.toNat == 12 || c.toNat == 13

def unescapeBrackets : List Char → List Char
  | [] => []
  | c :: rest =>
    if c = '\\' ∧ rest.head? = some '[' then unescapeBrackets rest else c :: unescapeBrackets rest

def plainChars (text : List Char) : List Char :=
  (replaceCodes (unescapeBrackets text)).filter fun c => !isDropped c

/-- A tag that closes what is not open. -/
inductive MarkupError where
  | unmatched (tag : String) (position : Nat)
  | nothingOpen (position : Nat)
  deriving DecidableEq, Repr

def MarkupError.message : MarkupError → String
  | .unmatched tag position => s!"closing tag '{tag}' at position {position} doesn't match any open tag"
  | .nothingOpen position => s!"closing tag '[/]' at position {position} has nothing to close"

def trimBlanks (text : List Char) : List Char :=
  ((text.dropWhile isCodeBreak).reverse.dropWhile isCodeBreak).reverse

def styleAliases : List (String × String) :=
  [("d", "dim"), ("b", "bold"), ("i", "italic"), ("u", "underline"), ("r", "reverse"),
   ("c", "conceal"), ("s", "strike"), ("uu", "underline2"), ("o", "overline")]

/-- The name under which a style is opened and closed. -/
def styleName (text : List Char) : String :=
  let name := String.ofList ((trimBlanks text).map Char.toLower)
  (styleAliases.lookup name).getD name

/-- The styles that are open after a tag at the given position. -/
def stylesAfter (styles : List String) (written : List Char) (position : Nat) :
    Except MarkupError (List String) :=
  match (written.drop 1).dropLast.takeWhile (· != '=') with
  | '/' :: name =>
    if (trimBlanks name).isEmpty then
      if styles.isEmpty then .error (.nothingOpen position) else .ok styles.tail
    else if styles.contains (styleName name) then .ok (styles.erase (styleName name))
    else .error (.unmatched (String.ofList written) position)
  | name => .ok (styleName name :: styles)

/-- The text of pieces that begin at the given position, inside styles, the innermost first. -/
def renderPieces (position : Nat) (styles : List String) :
    List MarkupPiece → Except MarkupError (List Char)
  | [] => .ok []
  | .plain text :: pieces => do
    return plainChars text ++ (← renderPieces (position + text.length) styles pieces)
  | .tag backslashes written :: pieces => do
    let next := position + backslashes + written.length
    let shown := plainChars (List.replicate (backslashes / 2) '\\')
    -- an odd backslash escapes the tag; each pair of the others is shown as one
    if backslashes % 2 = 1 then
      return shown ++ plainChars written ++ (← renderPieces next styles pieces)
    else
      let styles ← stylesAfter styles written (position + backslashes)
      return shown ++ (← renderPieces next styles pieces)

def tabWidth : Nat := 8

/-- Fills up tabs on a line, given by its parts between tabs, whose next cell is `column`. A tab is at
least one space, which is measured together with the part before it. -/
def expandParts (column : Nat) : List (List Char) → List Char
  | [] => []
  | [part] => part
  | part :: parts =>
    -- the space that stands for the tab may join with the character before it
    let reached := column + cellCount (part ++ [' '])
    let fill := (tabWidth - reached % tabWidth) % tabWidth
    part ++ ' ' :: List.replicate fill ' ' ++ expandParts (reached + fill) parts

def expandTabs (text : List Char) : List Char :=
  ['\n'].intercalate ((text.splitOn '\n').map fun line => expandParts 0 (line.splitOn '\t'))

/-- Marked up text as it is printed without styles. -/
def printedMarkup (markup : String) : Except MarkupError String := do
  let chars ← renderPieces 0 [] (markupPieces markup.toList)
  return String.ofList (expandTabs chars) ++ "\n"

end RawMapping
