import RawMapping.Text.CharSet
import RawMapping.Text.Quoted

/-! Written integers: blanks around, an optional sign, and decimal digits of any script with single
underscores between them. A numeral of more than `digitLimit` digits is refused before what follows
its digits is looked at. -/

set_option autoImplicit false

namespace RawMapping.Text

inductive NumeralFault where
  | malformed (text : String)
  | tooLong (digits : Nat)
  deriving DecidableEq, Repr

def digitLimit : Nat := 4300

/-- How many characters of a malformed numeral a message shows. -/
def shownNumeral : Nat := 200

def NumeralFault.message : NumeralFault → String
  | .malformed text =>
    "invalid literal for int() with base 10: " ++ String.ofList ((quoted text).toList.take shownNumeral)
  | .tooLong digits =>
    s!"Exceeds the limit ({digitLimit} digits) for integer string conversion: " ++
      s!"value has {digits} digits; use sys.set_int_max_str_digits() to increase the limit"

/-- The digits at the front, each underscore between two of them; `none` if there is no digit, or an
underscore with no digit after it. -/
def readDigits : List Char → Option (List Nat × List Char)
  | [] => none
  | c :: rest =>
    match decimalValue? c with
    | none => none
    | some d =>
      match rest with
      | [] => some ([d], [])
      | next :: after =>
        if next == '_' then (readDigits after).map fun (ds, left) => (d :: ds, left)
        else if (decimalValue? next).isSome then
          (readDigits (next :: after)).map fun (ds, left) => (d :: ds, left)
        else some ([d], next :: after)

def ofDigits (digits : List Nat) : Nat :=
  digits.foldl (fun value digit => 10 * value + digit) 0

/-- Splits off an optional sign; `true` stands for minus. -/
def readSign : List Char → Bool × List Char
  | c :: rest => if c == '-' then (true, rest) else if c == '+' then (false, rest) else (false, c :: rest)
  | [] => (false, [])

def readInteger (text : String) : Except NumeralFault Int :=
  let (negative, unsigned) := readSign (text.toList.dropWhile isBlank)
  match readDigits unsigned with
  | none => .error (.malformed text)
  | some (digits, rest) =>
    if digitLimit < digits.length then .error (.tooLong digits.length)
    else if rest.all isBlank then
      let value : Int := ofDigits digits
      .ok (if negative then -value else value)
    else .error (.malformed text)

end RawMapping.Text
