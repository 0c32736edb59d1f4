import RawMapping.Toml.Basic

/-! Reading the scalars of a configuration document: strings, dates and numbers. -/

set_option autoImplicit false

namespace RawMapping

inductive TomlError where
  | invalid
  | numeral (fault : Text.NumeralFault)
  deriving DecidableEq, Repr

namespace TomlReader

def isWhite (c : Char) : Bool :=
  c == ' ' || c == '\t'

def isWhiteOrBreak (c : Char) : Bool :=
  isWhite c || c == '\n'

/-- Control characters, which no text may hold as they are; a tab may. -/
def isControl (c : Char) : Bool :=
  (c.toNat < 32 && c != '\t') || c.toNat == 127

def after? (word : String) (text : List Char) : Option (List Char) :=
  if word.toList.isPrefixOf text then some (text.drop word.length) else none

/-! ### Strings -/

def hexValue? (c : Char) : Option Nat :=
  if c.isDigit then some (c.toNat - '0'.toNat)
  else if 'a' ≤ c ∧ c ≤ 'f' then some (c.toNat - 'a'.toNat + 10)
  else if 'A' ≤ c ∧ c ≤ 'F' then some (c.toNat - 'A'.toNat + 10)
  else none

/-- The character with the code point that exactly `count` hexadecimal digits give. -/
def readCodePoint (count : Nat) (text : List Char) : Option (Char × List Char) := do
  let digits ← (text.take count).mapM hexValue?
  let code := digits.foldl (fun value digit => 16 * value + digit) 0
  if digits.length = count ∧ code.isValidChar then some (Char.ofNat code, text.drop count) else none

def simpleEscape? (c : Char) : Option Char :=
  if c = 'b' then some (Char.ofNat 8)
  else if c = 't' then some '\t'
  else if c = 'n' then some '\n'
  else if c = 'f' then some (Char.ofNat 12)
  else if c = 'r' then some '\r'
  else if c = '"' ∨ c = '\\' then some c
  else none

/-- What follows a backslash: the characters it stands for and the text left. In a string of several
lines a backslash before a line break drops the break and all white space after it. -/
def readEscape (multiline : Bool) (text : List Char) : Option (List Char × List Char) :=
  match text with
  | [] => none
  | c :: rest =>
    if multiline && isWhiteOrBreak c then
      match text.dropWhile isWhite with
      | [] => some ([], [])
      | next :: after => if next = '\n' then some ([], after.dropWhile isWhiteOrBreak) else none
    else if c = 'u' then (readCodePoint 4 rest).map fun (c, rest) => ([c], rest)
    else if c = 'U' then (readCodePoint 8 rest).map fun (c, rest) => ([c], rest)
    else (simpleEscape? c).map fun c => ([c], rest)

/-- The content of a basic string up to its closing quotes, and the text behind them. The bound is on
the number of characters read. -/
def readBasic (multiline : Bool) : Nat → List Char → Option (List Char × List Char)
  | 0, _ => none
  | _, [] => none
  | bound + 1, c :: rest =>
    if c = '"' then
      if multiline then
        match after? "\"\"" rest with
        | some left => some ([], left)
        | none => (readBasic multiline bound rest).map fun (value, left) => (c :: value, left)
      else some ([], rest)
    else if c = '\\' then do
      let (value, rest) ← readEscape multiline rest
      let (others, left) ← readBasic multiline bound rest
      return (value ++ others, left)
    else if isControl c && !(multiline && c == '\n') then none
    else (readBasic multiline bound rest).map fun (value, left) => (c :: value, left)

def readLiteralString (multiline : Bool) : List Char → Option (List Char × List Char)
  | [] => none
  | c :: rest =>
    let close := if multiline then "'''" else "'"
    match after? close (c :: rest) with
    | some left => some ([], left)
    | none =>
      if isControl c && !(multiline && c == '\n') then none
      else (readLiteralString multiline rest).map fun (value, left) => (c :: value, left)

/-- Up to two more quotes before the closing ones belong to the content. -/
def extraQuotes (quote : Char) (value left : List Char) : List Char × List Char :=
  let extra := (left.take 2).takeWhile (· == quote)
  (value ++ extra, left.drop extra.length)

def readString (text : List Char) : Option (String × List Char) :=
  let bound := text.length + 1
  -- a line break right behind three opening quotes is no part of the text
  let dropBreak (text : List Char) := (after? "\n" text).getD text
  let pack (value : List Char × List Char) := (String.ofList value.1, value.2)
  match after? "\"\"\"" text with
  | some rest =>
    (readBasic true bound (dropBreak rest)).map fun (value, left) => pack (extraQuotes '"' value left)
  | none =>
    match after? "'''" text with
    | some rest =>
      (readLiteralString true (dropBreak rest)).map fun (value, left) =>
        pack (extraQuotes '\'' value left)
    | none =>
      match after? "\"" text with
      | some rest => (readBasic false bound rest).map pack
      | none => do
        let rest ← after? "'" text
        (readLiteralString false rest).map pack

/-! ### Dates and times -/

def digitsValue (digits : List Char) : Nat :=
  Text.ofDigits (digits.map fun c => c.toNat - '0'.toNat)

def readField (count low high : Nat) (text : List Char) : Option (Nat × List Char) :=
  let digits := text.take count
  let value := digitsValue digits
  if digits.length = count ∧ digits.all Char.isDigit ∧ low ≤ value ∧ value ≤ high then
    some (value, text.drop count)
  else none

def readDate (text : List Char) : Option (CivilDate × List Char) := do
  let (year, rest) ← readField 4 0 9999 text
  let (month, rest) ← readField 2 1 12 (← after? "-" rest)
  let (day, rest) ← readField 2 1 31 (← after? "-" rest)
  return (⟨year, month, day⟩, rest)

/-- A fraction of a second in millionths; digits beyond the sixth are dropped. -/
def readMicros (text : List Char) : Nat × List Char :=
  match text with
  | '.' :: rest =>
    let digits := rest.takeWhile Char.isDigit
    if digits.isEmpty then (0, text)
    else
      -- digits beyond the sixth are dropped
      let six := (digits ++ List.replicate 6 '0').take 6
      (digitsValue six, rest.drop digits.length)
  | _ => (0, text)

def readTime (text : List Char) : Option (ClockTime × List Char) := do
  let (hour, rest) ← readField 2 0 23 text
  let (minute, rest) ← readField 2 0 59 (← after? ":" rest)
  let (second, rest) ← readField 2 0 59 (← after? ":" rest)
  let (micros, rest) := readMicros rest
  return (⟨hour, minute, second, micros⟩, rest)

/-- An offset from universal time in minutes, if there is one. -/
def readOffset (text : List Char) : Option Int × List Char :=
  match text with
  | [] => (none, text)
  | c :: rest =>
    if c = 'Z' ∨ c = 'z' then (some 0, rest)
    else if c = '+' ∨ c = '-' then
      let read : Option (Int × List Char) := do
        let (hour, rest) ← readField 2 0 23 rest
        let (minute, rest) ← readField 2 0 59 (← after? ":" rest)
        let minutes : Int := hour * 60 + minute
        return (if c = '-' then -minutes else minutes, rest)
      match read with
      | some (minutes, rest) => (some minutes, rest)
      | none => (none, text)
    else (none, text)

def readDateTime (text : List Char) : Option (Toml × List Char) := do
  let (date, rest) ← readDate text
  match rest with
  | [] => return (.date date, rest)
  | c :: afterMark =>
    if c = 'T' ∨ c = 't' ∨ c = ' ' then
      match readTime afterMark with
      | some (time, rest) =>
        let (offset, rest) := readOffset rest
        return (.dateTime date time offset, rest)
      | none => return (.date date, rest)
    else return (.date date, rest)

def hasValidDate : Toml → Bool
  | .date day | .dateTime day .. => day.isValid
  | _ => true

/-! ### Numbers -/

/-- Digits of a class with single underscores between them. -/
def readGroup (digit? : Char → Bool) : List Char → Option (List Char × List Char)
  | [] => none
  | c :: rest =>
    if digit? c then
      match rest with
      | [] => some ([c], [])
      | next :: after =>
        if next = '_' then
          match readGroup digit? after with
          | some (digits, left) => some (c :: digits, left)
          | none => some ([c], rest)
        else
          match readGroup digit? (next :: after) with
          | some (digits, left) => some (c :: digits, left)
          | none => some ([c], rest)
    else none

def baseValue (base : Nat) (digits : List Char) : Nat :=
  digits.foldl (fun value digit => base * value + (hexValue? digit).getD 0) 0

def readBased (text : List Char) : Option (Toml × List Char) :=
  let read (mark : String) (base : Nat) (digit? : Char → Bool) : Option (Toml × List Char) := do
    let (digits, rest) ← readGroup digit? (← after? mark text)
    return (.integer (baseValue base digits), rest)
  (read "0x" 16 fun c => (hexValue? c).isSome).orElse fun _ =>
    (read "0b" 2 fun c => c == '0' || c == '1').orElse fun _ =>
      read "0o" 8 fun c => '0' ≤ c && c ≤ '7'

def readWhole (text : List Char) : Option (List Char × List Char) :=
  match text with
  | '0' :: rest => some (['0'], rest)
  | _ => readGroup Char.isDigit text

def readFraction (text : List Char) : List Char × List Char :=
  match text with
  | '.' :: rest => (readGroup Char.isDigit rest).getD ([], text)
  | _ => ([], text)

def readExponent (text : List Char) : Option Int × List Char :=
  match text with
  | [] => (none, text)
  | c :: rest =>
    if c = 'e' ∨ c = 'E' then
      let (negative, digits) := Text.readSign rest
      match readGroup Char.isDigit digits with
      | some (digits, left) =>
        let power : Int := digitsValue digits
        (some (if negative then -power else power), left)
      | none => (none, text)
    else (none, text)

def readDecimal (text : List Char) : Except TomlError (Option (Toml × List Char)) := do
  let (negative, unsigned) := Text.readSign text
  match readWhole unsigned with
  | none => return none
  | some (whole, rest) =>
    let (fraction, rest) := readFraction rest
    let (exponent, rest) := readExponent rest
    if fraction.isEmpty && exponent.isNone then
      -- only the digits are counted here, not the underscores
      if Text.digitLimit < whole.length then throw (.numeral (.tooLong whole.length))
      let value : Int := digitsValue whole
      return some (.integer (if negative then -value else value), rest)
    else
      let value := Binary64.ofDecimal negative (digitsValue (whole ++ fraction))
        (exponent.getD 0 - fraction.length)
      return some (.float value, rest)

def readSpecial (text : List Char) : Option (Toml × List Char) :=
  let (negative, unsigned) := Text.readSign text
  match after? "inf" unsigned with
  | some rest => some (.float (.infinite negative), rest)
  | none => (after? "nan" unsigned).map fun rest => (.float .nan, rest)

def readBoolean (text : List Char) : Option (Toml × List Char) :=
  match after? "true" text with
  | some rest => some (.boolean true, rest)
  | none => (after? "false" text).map fun rest => (.boolean false, rest)

/-- Any value that is neither an array nor a table. -/
def readScalar (text : List Char) : Except TomlError (Toml × List Char) := do
  if text.head? = some '"' ∨ text.head? = some '\'' then
    match readString text with
    | some (value, rest) => return (.string value, rest)
    | none => throw .invalid
  else
    -- the order decides: a date begins like a number, and a number with a base like a zero
    match readBoolean text with
    | some found => return found
    | none =>
      match readDateTime text with
      | some (value, rest) => if hasValidDate value then return (value, rest) else throw .invalid
      | none =>
        match readTime text with
        | some (time, rest) => return (.time time, rest)
        | none =>
          match readBased text with
          | some found => return found
          | none =>
            match ← readDecimal text with
            | some found => return found
            | none =>
              match readSpecial text with
              | some found => return found
              | none => throw .invalid

end TomlReader

end RawMapping
