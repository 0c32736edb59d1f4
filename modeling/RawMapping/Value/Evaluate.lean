import RawMapping.Case.Record
import RawMapping.Derived.Basic
import RawMapping.Text.Numeral
import RawMapping.Value.Basic

/-! Running derived declarations on values. Arms are tried in order and the first that matches is
taken. -/

set_option autoImplicit false

namespace RawMapping

variable {α : Type}

inductive EvalError where
  | expectedString (found : Value)
  | expectedInteger (rawType : String) (found : Value)
  | invalidRawValue (text rawType : String)
  /-- A case with a binding was matched that does not carry exactly one value. -/
  | payloadCount (caseName : String) (count : Nat)
  | unboundName (name : String)
  | placeholder (text : String)
  | noMatch (subject : Value)
  | notACase (found : Value)
  | unknownCase (caseName typeName : String)
  /-- A literal is not a numeral that can be read. -/
  | numeral (fault : Text.NumeralFault)
  /-- A name that has to have a value has none. -/
  | missingName (name : String)
  /-- The expansion lacks the member that was to be run. -/
  | missingMember

def EvalError.message : EvalError → String
  | .expectedString found => s!"Expected a {stringTypeName} raw value, got {found.show}"
  | .expectedInteger rawType found => s!"Expected an integer {rawType} raw value, got {found.show}"
  | .invalidRawValue text rawType => s!"'{text}' is not a valid {rawType} raw value"
  | .payloadCount caseName count => s!"Case '{caseName}' binds one payload value, got {count}"
  | .unboundName name => s!"Unbound name '{name}'"
  | .placeholder text => s!"Cannot evaluate placeholder {text}"
  | .noMatch subject => s!"No match arm accepts {subject.show}"
  | .notACase found => s!"Initializer produced {found.show}, not an enum value"
  | .unknownCase caseName typeName => s!"'{caseName}' is not a case of {typeName}"
  | .numeral fault => fault.message
  | .missingName name => Text.quoted name
  | .missingMember => ""

/-- Names and their values; the first entry of a name counts. -/
abbrev Bindings := List (String × Value)

def Literal.value? : Literal α → Except EvalError (Option Value)
  | .string value _ => .ok (some (.text value))
  | .integer text _ =>
    match Text.readInteger text with
    | .ok value => .ok (some (.int value))
    | .error fault => .error (.numeral fault)
  | .placeholder .. => .ok none

def checkRawValue (rawType : String) (raw : Value) : Except EvalError Unit :=
  if rawType == stringTypeName then
    match raw with
    | .text _ => .ok ()
    | _ => .error (.expectedString raw)
  else
    match raw with
    -- every raw type but the one of strings has integers as its values
    | .int _ => .ok ()
    | _ => .error (.expectedInteger rawType raw)

def coerceRawValue (rawType text : String) : Except EvalError Value :=
  if rawType == stringTypeName then .ok (.text text)
  else
    match Text.readInteger text with
    | .ok value => .ok (.int value)
    | .error _ => .error (.invalidRawValue text rawType)

/-- Whether a raw value is the value of a literal: the same text, or the same integer. -/
def Value.isRaw (subject literal : Value) : Bool :=
  match subject, literal with
  | .text s, .text t => s == t
  | .int i, .int j => i == j
  | _, _ => false

def Pattern.bindings? (pattern : Pattern α) (subject : Value) : Except EvalError (Option Bindings) :=
  match pattern with
  | .wildcard _ => .ok (some [])
  | .literal constant _ => do
    match ← constant.value? with
    | some value => return if subject.isRaw value then some [] else none
    | none => return none
  | .caseNamed name binding _ =>
    match subject with
    | .enumCase caseName payload =>
      if caseName == name then
        match binding, payload with
        | none, _ => .ok (some [])
        | some bound, [value] => .ok (some [(bound, value)])
        | some _, _ => .error (.payloadCount name payload.length)
      else .ok none
    | _ => .ok none

def Outcome.evaluate (outcome : Outcome α) (env : Bindings) : Except EvalError Value :=
  match outcome with
  | .construct caseName none _ => .ok (.enumCase caseName [])
  | .construct caseName (some argument) _ =>
    match env.lookup argument.name with
    | some value => .ok (.enumCase caseName [value])
    | none => .error (.missingName argument.name)
  | .name ref =>
    match env.lookup ref.name with
    | some value => .ok value
    | none => .error (.unboundName ref.name)
  | .literal constant => do
    match ← constant.value? with
    | some value => return value
    | none => throw (.placeholder constant.text)

def runArms (subject : Value) (env : Bindings) : List (MatchArm α) → Except EvalError Value
  | [] => .error (.noMatch subject)
  | arm :: arms => do
    match ← arm.pattern.bindings? subject with
    -- names bound by the pattern hide those outside
    | some bound => arm.outcome.evaluate (bound ++ env)
    | none => runArms subject env arms

def Branch.run (branch : Branch α) (env : Bindings) : Except EvalError Value :=
  match env.lookup branch.subject.name with
  | some subject => runArms subject env branch.arms
  | none => .error (.missingName branch.subject.name)

def Initializer.decode (initializer : Initializer α) (raw : Value) : Except EvalError CaseValue := do
  checkRawValue initializer.rawType.name raw
  match ← initializer.body.run [(initializer.parameter, raw)] with
  | .enumCase name payload => return ⟨name, payload⟩
  | found => throw (.notACase found)

def Accessor.encode (accessor : Accessor α) (value : CaseValue) : Except EvalError Value := do
  let raw ← accessor.body.run [(accessor.body.subject.name, value.toValue)]
  checkRawValue accessor.rawType.name raw
  return raw

def Expansion.decode (expansion : Expansion α) (raw : Value) : Except EvalError CaseValue :=
  match expansion.initializer? with
  | some initializer => initializer.decode raw
  | none => .error .missingMember

def Expansion.encode (expansion : Expansion α) (value : CaseValue) : Except EvalError Value :=
  match expansion.accessor? with
  | some accessor => accessor.encode value
  | none => .error .missingMember

def Expansion.coerce (expansion : Expansion α) (text : String) : Except EvalError Value :=
  match expansion.initializer? with
  | some initializer => coerceRawValue initializer.rawType.name text
  | none => .error .missingMember

def Expansion.caseNames (expansion : Expansion α) : Except EvalError (List String) :=
  match expansion.accessor? with
  | some accessor => .ok accessor.caseNames
  | none => .error .missingMember

end RawMapping
