/-! Binary floating point numbers of 64 bits, read from and written in decimal. Reading rounds to the
nearest number, to the even one at a tie. Writing gives the fewest digits that read back as the same
number and, among those, the digits nearest to it. All arithmetic is on natural numbers. -/

set_option autoImplicit false

namespace RawMapping

inductive Binary64 where
  /-- The number `mantissa * 2 ^ exponent`, with its sign. -/
  | finite (negative : Bool) (mantissa : Nat) (exponent : Int)
  | infinite (negative : Bool)
  | nan
  deriving DecidableEq, Repr

namespace Binary64

def precision : Nat := 53

def leastExponent : Int := -1074

def greatestExponent : Int := 971

/-- The quotient of two numbers, rounded to the nearest, to the even one at a tie. -/
def roundQuotient (num den : Nat) : Nat :=
  let floor := num / den
  let twice := 2 * (num % den)
  if den < twice || (den == twice && floor % 2 == 1) then floor + 1 else floor

def scale (num den : Nat) (exponent : Int) : Nat × Nat :=
  if 0 ≤ exponent then (num, den * Nat.pow 2 exponent.toNat)
  else (num * Nat.pow 2 (-exponent).toNat, den)

def exponentOf (num den : Nat) : Int :=
  -- at most one too small, which the quotient then shows
  let guess := max ((Nat.log2 num : Int) - Nat.log2 den - precision) leastExponent
  let (scaled, unit) := scale num den guess
  guess + ((Nat.log2 (scaled / unit) + 1 : Nat) - precision : Nat)

def ofFraction (negative : Bool) (num den : Nat) : Binary64 :=
  let exponent := exponentOf num den
  let (scaled, unit) := scale num den exponent
  let mantissa := roundQuotient scaled unit
  let (mantissa, exponent) :=
    -- rounding up may give one bit too many
    if mantissa = Nat.pow 2 precision then (Nat.pow 2 (precision - 1), exponent + 1)
    else (mantissa, exponent)
  if greatestExponent < exponent then .infinite negative else .finite negative mantissa exponent

/-- Beyond this many places before the point a decimal is infinite. -/
def mostPlaces : Int := 310

/-- Beyond this many zeros after the point a decimal is zero. -/
def leastPlaces : Int := -330

def ofDecimal (negative : Bool) (digits : Nat) (exponent : Int) : Binary64 :=
  let places := (Nat.toDigits 10 digits).length + exponent
  if digits = 0 || places < leastPlaces then .finite negative 0 0
  else if mostPlaces < places then .infinite negative
  else if 0 ≤ exponent then ofFraction negative (digits * Nat.pow 10 exponent.toNat) 1
  else ofFraction negative digits (Nat.pow 10 (-exponent).toNat)

/-- The interval of reals that round to a number, as numerators over one denominator: lower end,
number, upper end. -/
structure Interval where
  low : Nat
  value : Nat
  high : Nat
  den : Nat
  /-- Whether the ends round to the number too. -/
  closed : Bool

def interval (mantissa : Nat) (exponent : Int) : Interval :=
  -- below a power of two the neighbours are twice as close
  let lowGap := if mantissa = Nat.pow 2 (precision - 1) ∧ leastExponent < exponent then 1 else 2
  let quarter := exponent - 2
  let up := Nat.pow 2 quarter.toNat
  ⟨(4 * mantissa - lowGap) * up, 4 * mantissa * up, (4 * mantissa + 2) * up, Nat.pow 2 (-quarter).toNat,
    mantissa % 2 == 0⟩

/-- Whether a fraction over the interval's denominator times `unit` lies in the interval. -/
def Interval.contains (i : Interval) (num unit : Nat) : Bool :=
  if i.closed then i.low * unit ≤ num && num ≤ i.high * unit
  else i.low * unit < num && num < i.high * unit

/-- How many digits stand before the point of the value; not positive if zeros follow the point. -/
def Interval.places (i : Interval) : Int :=
  let guess : Int := (Nat.toDigits 10 i.value).length - (Nat.toDigits 10 i.den).length
  let below :=
    if 0 ≤ guess then i.value < i.den * Nat.pow 10 guess.toNat
    else i.value * Nat.pow 10 (-guess).toNat < i.den
  if below then guess else guess + 1

/-- The decimal with the given exponent nearest to the value, if it lies in the interval. Of its two
neighbours on that grid the nearer is taken, and the even one at a tie. -/
def Interval.onGrid? (i : Interval) (exponent : Int) : Option Nat :=
  -- all fractions below are over `den * unit`
  let step := i.den * Nat.pow 10 exponent.toNat
  let unit := Nat.pow 10 (-exponent).toNat
  let value := i.value * unit
  let floor := value / step
  let lower := i.contains (floor * step) unit
  let upper := i.contains ((floor + 1) * step) unit
  match lower, upper with
  | true, true => some (roundQuotient value step)
  | true, false => some floor
  | false, true => some (floor + 1)
  | false, false => none

/-- The digits and the exponent of the shortest decimal that reads back as the number. -/
def shortest (mantissa : Nat) (exponent : Int) : Nat × Int :=
  let i := interval mantissa exponent
  let places := i.places
  -- seventeen digits tell any two numbers apart
  let found := (List.range 17).findSome? fun (count : Nat) =>
    let power := places - (count + 1)
    (i.onGrid? power).map fun digits => (digits, power)
  found.getD (0, 0)

def trimZeros (digits : List Char) : List Char :=
  (digits.reverse.dropWhile (· == '0')).reverse

/-- A positive decimal: positional from 0.0001 up to sixteen places, otherwise with an exponent of at
least two digits. -/
def decimalText (digits : Nat) (exponent : Int) : String :=
  let written := Nat.toDigits 10 digits
  let point : Int := written.length + exponent
  let shown := trimZeros written
  if point ≤ -4 || 16 < point then
    let power := point - 1
    let magnitude := toString power.natAbs
    let padded := if magnitude.length < 2 then "0" ++ magnitude else magnitude
    let fraction := if shown.length ≤ 1 then [] else '.' :: shown.tail
    String.ofList (shown.take 1 ++ fraction) ++ (if power < 0 then "e-" else "e+") ++ padded
  else if point ≤ 0 then
    "0." ++ String.ofList (List.replicate (-point).toNat '0' ++ shown)
  else
    let whole := shown.take point.toNat
    let fraction := shown.drop point.toNat
    String.ofList (whole ++ List.replicate (point.toNat - whole.length) '0') ++ "." ++
      (if fraction.isEmpty then "0" else String.ofList fraction)

def text : Binary64 → String
  | .nan => "nan"
  | .infinite negative => if negative then "-inf" else "inf"
  | .finite negative mantissa exponent =>
    let magnitude :=
      if mantissa = 0 then "0.0"
      else
        let (digits, power) := shortest mantissa exponent
        decimalText digits power
    if negative then "-" ++ magnitude else magnitude

end Binary64

end RawMapping
