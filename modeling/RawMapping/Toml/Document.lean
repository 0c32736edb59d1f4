import RawMapping.Toml.Scalar

/-! Reading whole configuration documents: key and value pairs under table headers. A table is declared
once; arrays and tables written inline are closed to additions. -/

set_option autoImplicit false

namespace RawMapping.TomlReader

/-! ### Keys and white space -/

abbrev Key := List String

def isBareKeyChar (c : Char) : Bool :=
  c.isAlphanum || c == '-' || c == '_'

def skipWhite (text : List Char) : List Char :=
  text.dropWhile isWhite

def readKeyPart (text : List Char) : Option (String × List Char) :=
  match text with
  | [] => none
  | c :: rest =>
    if isBareKeyChar c then
      some (String.ofList (text.takeWhile isBareKeyChar), text.dropWhile isBareKeyChar)
    else if c = '\'' then
      (readLiteralString false rest).map fun (value, left) => (String.ofList value, left)
    else if c = '"' then
      (readBasic false text.length rest).map fun (value, left) => (String.ofList value, left)
    else none

def readKey : Nat → List Char → Option (Key × List Char)
  | 0, _ => none
  | bound + 1, text => do
    let (part, rest) ← readKeyPart text
    match skipWhite rest with
    | '.' :: rest =>
      let (parts, left) ← readKey bound (skipWhite rest)
      return (part :: parts, left)
    | rest => return ([part], rest)

def skipComment (text : List Char) : Except TomlError (List Char) :=
  match text with
  | '#' :: rest =>
    if (rest.takeWhile (· != '\n')).any isControl then .error .invalid
    else .ok (rest.dropWhile (· != '\n'))
  | _ => .ok text

/-- Skips white space, line breaks and comments between the items of an array. -/
def skipBetween : Nat → List Char → Except TomlError (List Char)
  | 0, text => .ok text
  | bound + 1, text => do
    let rest ← skipComment (text.dropWhile isWhiteOrBreak)
    if rest.length = text.length then return rest else skipBetween bound rest

/-! ### Tables under construction -/

def put (table : TomlTable) (key : String) (value : Toml) : TomlTable :=
  table.map fun (k, v) => if k == key then (k, value) else (k, v)

/-- Changes the table that a path of keys leads to, making tables where there is nothing. A path leads
through an array to its last table if `throughArrays` allows it. -/
def updateAt (throughArrays : Bool) (table : TomlTable) :
    Key → (TomlTable → Option TomlTable) → Option TomlTable
  | [], change => change table
  | key :: keys, change =>
    match table.lookup key with
    | none => (updateAt throughArrays [] keys change).map fun inner => table ++ [(key, .table inner)]
    | some (.table inner) =>
      (updateAt throughArrays inner keys change).map fun inner => put table key (.table inner)
    | some (.array items) =>
      match throughArrays, items.reverse with
      | true, .table last :: others =>
        (updateAt throughArrays last keys change).map fun last =>
          put table key (.array (others.reverse ++ [.table last]))
      | _, _ => none
    | some _ => none

/-- Adds a value under a key that is still free. -/
def insertNew (key : String) (value : Toml) (table : TomlTable) : Option TomlTable :=
  if (table.lookup key).isSome then none else some (table ++ [(key, value)])

def appendTable (key : String) (table : TomlTable) : Option TomlTable :=
  match table.lookup key with
  | none => some (table ++ [(key, .array [.table []])])
  | some (.array items) => some (put table key (.array (items ++ [.table []])))
  | some _ => none

/-- What is known of a path of keys: that it was declared, or that it and all below it are closed. -/
inductive Mark where
  | declared (path : Key)
  | closed (path : Key)
  deriving DecidableEq, Repr

def isDeclared (marks : List Mark) (path : Key) : Bool :=
  marks.contains (.declared path)

def isClosed (marks : List Mark) (path : Key) : Bool :=
  marks.any fun mark =>
    match mark with
    | .closed top => top.isPrefixOf path
    | .declared _ => false

/-- Forgets what is known of a path and of all below it. -/
def release (marks : List Mark) (path : Key) : List Mark :=
  marks.filter fun mark =>
    match mark with
    | .closed marked | .declared marked => !path.isPrefixOf marked

def isInline : Toml → Bool
  | .array _ | .table _ => true
  | _ => false

/-! ### Values -/

mutual

def readValue : Nat → List Char → Except TomlError (Toml × List Char)
  | 0, _ => .error .invalid
  | bound + 1, text =>
    match text with
    | '[' :: rest => do
      let (items, left) ← readItems bound (← skipBetween rest.length rest)
      return (.array items, left)
    | '\x7b' :: rest => do
      match skipWhite rest with
      | '\x7d' :: left => return (.table [], left)
      | rest =>
        let (entries, left) ← readEntries bound [] [] rest
        return (.table entries, left)
    | _ => readScalar text

def readItems : Nat → List Char → Except TomlError (List Toml × List Char)
  | 0, _ => .error .invalid
  | bound + 1, text =>
    match text with
    | ']' :: left => .ok ([], left)
    | _ => do
      let (item, rest) ← readValue bound text
      match ← skipBetween rest.length rest with
      | ']' :: left => return ([item], left)
      | ',' :: rest =>
        let (items, left) ← readItems bound (← skipBetween rest.length rest)
        return (item :: items, left)
      | _ => throw .invalid

/-- The entries of an inline table up to its closing brace, added to those read before. -/
def readEntries : Nat → TomlTable → List Mark → List Char → Except TomlError (TomlTable × List Char)
  | 0, _, _, _ => .error .invalid
  | bound + 1, table, marks, text => do
    let (key, value, rest) ← readPair bound text
    -- an inline table or array that was read before takes no further entries
    if isClosed marks key then throw .invalid
    match updateAt false table key.dropLast (insertNew (key.getLastD "") value) with
    | none => throw .invalid
    | some table =>
      match skipWhite rest with
      | '\x7d' :: left => return (table, left)
      | ',' :: rest =>
        let marks := if isInline value then .closed key :: marks else marks
        readEntries bound table marks (skipWhite rest)
      | _ => throw .invalid

def readPair : Nat → List Char → Except TomlError (Key × Toml × List Char)
  | 0, _ => .error .invalid
  | bound + 1, text =>
    match readKey (text.length + 1) text with
    | some (key, '=' :: rest) => do
      let (value, left) ← readValue bound (skipWhite rest)
      return (key, value, left)
    | _ => .error .invalid

end

/-! ### Statements -/

structure Document where
  table : TomlTable := []
  /-- The path of the latest table header. -/
  header : Key := []
  marks : List Mark := []
  /-- Paths that count as declared from the next header on. -/
  pending : List Key := []

def stepBound (text : List Char) : Nat :=
  4 * text.length + 4

/-- The proper, non-empty beginnings of a key. -/
def beginnings (key : Key) : List Key :=
  (List.range (key.length - 1)).map fun n => key.take (n + 1)

def Document.readEntry (document : Document) (text : List Char) :
    Except TomlError (Document × List Char) := do
  let (key, value, rest) ← readPair (stepBound text) text
  -- dotted keys declare the tables on their way, but only from the next header on
  let paths := (beginnings key).map (document.header ++ ·)
  let parent := document.header ++ key.dropLast
  if paths.any (isDeclared document.marks) || isClosed document.marks parent then throw .invalid
  match updateAt true document.table parent (insertNew (key.getLastD "") value) with
  | none => throw .invalid
  | some table =>
    let closed := if isInline value then [Mark.closed (document.header ++ key)] else []
    return ({ document with
      table, marks := closed ++ document.marks, pending := paths ++ document.pending }, rest)

def Document.settled (document : Document) : Document :=
  { document with marks := document.pending.map .declared ++ document.marks, pending := [] }

def Document.readTable (document : Document) (text : List Char) :
    Except TomlError (Document × List Char) :=
  match readKey (text.length + 1) (skipWhite text) with
  | some (key, ']' :: rest) =>
    -- no table has two headers
    if isDeclared document.marks key || isClosed document.marks key then .error .invalid
    else
      match updateAt true document.table key some with
      | none => .error .invalid
      | some table =>
        .ok ({ document with table, header := key, marks := .declared key :: document.marks }, rest)
  | _ => .error .invalid

def Document.readArrayTable (document : Document) (text : List Char) :
    Except TomlError (Document × List Char) :=
  match readKey (text.length + 1) (skipWhite text) with
  | some (key, ']' :: ']' :: rest) =>
    if isClosed document.marks key then .error .invalid
    else
      match updateAt true document.table key.dropLast (appendTable (key.getLastD "")) with
      | none => .error .invalid
      | some table =>
        -- below a new item of the array every header may be used again
        let marks := .declared key :: release document.marks key
        .ok ({ document with table, header := key, marks }, rest)
  | _ => .error .invalid

/-- One statement: a pair, a header, or nothing before a comment. -/
def Document.readStatement (document : Document) (text : List Char) :
    Except TomlError (Document × List Char) :=
  match text with
  | '[' :: '[' :: rest => document.settled.readArrayTable rest
  | '[' :: rest => document.settled.readTable rest
  | '#' :: _ => .ok (document, text)
  | _ => document.readEntry text

def Document.readAll : Nat → Document → List Char → Except TomlError TomlTable
  | 0, _, _ => .error .invalid
  | bound + 1, document, text =>
    match skipWhite text with
    | [] => .ok document.table
    | '\n' :: rest => readAll bound document rest
    | text => do
      let (document, rest) ← document.readStatement text
      match ← skipComment (skipWhite rest) with
      | [] => return document.table
      | '\n' :: rest => readAll bound document rest
      | _ => throw .invalid

/-- Reads a carriage return before a line feed as nothing. -/
def joinBreaks : List Char → List Char
  | [] => []
  | c :: rest => if c = '\r' ∧ rest.head? = some '\n' then joinBreaks rest else c :: joinBreaks rest

def parse (text : String) : Except TomlError TomlTable :=
  let source := joinBreaks text.toList
  Document.readAll (source.length + 1) {} source

end RawMapping.TomlReader
