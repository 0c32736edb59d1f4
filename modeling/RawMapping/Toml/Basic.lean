import RawMapping.Text.Numeral
import RawMapping.Value.Binary64

/-! Configuration documents: tables of strings, numbers, truth values, dates, arrays and tables. Keys
keep the order in which they were first written. -/

set_option autoImplicit false

namespace RawMapping

structure CivilDate where
  year : Nat
  month : Nat
  day : Nat
  deriving DecidableEq, Repr

structure ClockTime where
  hour : Nat
  minute : Nat
  second : Nat
  micros : Nat
  deriving DecidableEq, Repr

inductive Toml where
  | string (value : String)
  | integer (value : Int)
  | float (value : Binary64)
  | boolean (value : Bool)
  | date (date : CivilDate)
  | time (time : ClockTime)
  /-- A date and a time, with an offset in minutes unless it is local. -/
  | dateTime (date : CivilDate) (time : ClockTime) (offset : Option Int)
  | array (items : List Toml)
  | table (entries : List (String × Toml))
  deriving Inhabited

/-- The entries of a table, each key once. -/
abbrev TomlTable := List (String × Toml)

def isLeapYear (year : Nat) : Bool :=
  year % 4 == 0 && (year % 100 != 0 || year % 400 == 0)

def daysInMonth (year month : Nat) : Nat :=
  if month == 2 then if isLeapYear year then 29 else 28
  else if month == 4 || month == 6 || month == 9 || month == 11 then 30
  else 31

def CivilDate.isValid (date : CivilDate) : Bool :=
  1 ≤ date.year && date.day ≤ daysInMonth date.year date.month

/-! ### Values as messages show them -/

def CivilDate.fields (date : CivilDate) : List Nat :=
  [date.year, date.month, date.day]

/-- Hour and minute are always shown, seconds and fractions only up to the last that is not zero. -/
def ClockTime.fields (time : ClockTime) : List Nat :=
  [time.hour, time.minute] ++
    if time.micros != 0 then [time.second, time.micros]
    else if time.second != 0 then [time.second]
    else []

def fieldsText (fields : List Nat) : String :=
  ", ".intercalate (fields.map toString)

def secondsPerDay : Int := 86400

/-- An offset; the days are counted down, so that the seconds are never negative. -/
def offsetText (minutes : Int) : String :=
  let seconds := minutes * 60
  if seconds = 0 then "datetime.timezone.utc"
  else if 0 ≤ seconds then s!"datetime.timezone(datetime.timedelta(seconds={seconds}))"
  else s!"datetime.timezone(datetime.timedelta(days=-1, seconds={secondsPerDay + seconds}))"

mutual

def Toml.show : Toml → String
  | .string value => Text.quoted value
  | .integer value => toString value
  | .float value => value.text
  | .boolean value => if value then "True" else "False"
  | .date day => s!"datetime.date({fieldsText day.fields})"
  | .time clock => s!"datetime.time({fieldsText clock.fields})"
  | .dateTime day clock offset =>
    let zone := match offset with
      | some minutes => ", tzinfo=" ++ offsetText minutes
      | none => ""
    s!"datetime.datetime({fieldsText (day.fields ++ clock.fields)}{zone})"
  | .array items => "[" ++ ", ".intercalate (showItems items) ++ "]"
  | .table entries => "\x7b" ++ ", ".intercalate (showEntries entries) ++ "\x7d"

def Toml.showItems : List Toml → List String
  | [] => []
  | value :: values => value.show :: showItems values

def Toml.showEntries : List (String × Toml) → List String
  | [] => []
  | (key, value) :: entries => (Text.quoted key ++ ": " ++ value.show) :: showEntries entries

end

mutual

/-- Whether every integer of the value is short enough to be written. -/
def Toml.isShowable : Toml → Bool
  | .integer value => value.natAbs < Nat.pow 10 Text.digitLimit
  | .array items => allShowable items
  | .table entries => entriesShowable entries
  | _ => true

def Toml.allShowable : List Toml → Bool
  | [] => true
  | value :: values => value.isShowable && allShowable values

def Toml.entriesShowable : List (String × Toml) → Bool
  | [] => true
  | (_, value) :: entries => value.isShowable && entriesShowable entries

end

end RawMapping
