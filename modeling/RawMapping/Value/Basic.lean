import RawMapping.Text.Quoted
import RawMapping.Value.Binary64

/-! Values that derived declarations compute with. Any value may be put in; only texts and integers are
raw values, and cases are what is built from them. -/

set_option autoImplicit false

namespace RawMapping

inductive Value where
  | none
  | bool (value : Bool)
  | int (value : Int)
  | float (value : Binary64)
  | text (value : String)
  | list (items : List Value)
  | dict (entries : List (String × Value))
  | enumCase (name : String) (payload : List Value)
  deriving Inhabited

structure CaseValue where
  name : String
  payload : List Value

def CaseValue.toValue (value : CaseValue) : Value :=
  .enumCase value.name value.payload

def tupleText (items : List String) : String :=
  match items with
  | [item] => "(" ++ item ++ ",)"
  | _ => "(" ++ ", ".intercalate items ++ ")"

mutual

def Value.show : Value → String
  | .none => "None"
  | .bool value => if value then "True" else "False"
  | .int value => toString value
  | .float value => value.text
  | .text value => Text.quoted value
  | .list items => "[" ++ ", ".intercalate (showAll items) ++ "]"
  | .dict entries => "\x7b" ++ ", ".intercalate (showEntries entries) ++ "\x7d"
  | .enumCase name payload =>
    "EnumValue(case_name=" ++ Text.quoted name ++ ", payload=" ++ tupleText (showAll payload) ++ ")"

def Value.showAll : List Value → List String
  | [] => []
  | value :: values => value.show :: showAll values

def Value.showEntries : List (String × Value) → List String
  | [] => []
  | (key, value) :: entries => (Text.quoted key ++ ": " ++ value.show) :: showEntries entries

end

/-- A case as it is printed: its name, and its payload if it has any. -/
def CaseValue.show (value : CaseValue) : String :=
  if value.payload.isEmpty then value.name
  else value.name ++ "(" ++ ", ".intercalate (Value.showAll value.payload) ++ ")"

end RawMapping
