import RawMapping.Derived.Basic

/-! Derived declarations in source form. -/

set_option autoImplicit false

namespace RawMapping

variable {α : Type}

def applied (name : String) (argument : Option String) : String :=
  match argument with
  | some argument => s!"{name}({argument})"
  | none => name

def Pattern.text : Pattern α → String
  | .literal value _ => value.text
  | .caseNamed caseName binding _ => applied caseName binding
  | .wildcard _ => "_"

def Outcome.text : Outcome α → String
  | .construct caseName argument _ => applied caseName (argument.map (·.name))
  | .name ref => ref.name
  | .literal value => value.text

def MatchArm.text (arm : MatchArm α) : String :=
  s!"case {arm.pattern.text}: {arm.outcome.text}"

def Branch.sourceLines (branch : Branch α) (lead : String) : List String :=
  (indentation ++ lead ++ s!"match {branch.subject.name}:") ::
    branch.arms.map (indentation ++ indentation ++ MatchArm.text ·)

def Initializer.text (member : Initializer α) : String :=
  "\n".intercalate (s!"init({member.parameter}: {member.rawType.name}):" ::
    member.body.sourceLines "self = ") ++ "\n"

def Accessor.text (member : Accessor α) : String :=
  "\n".intercalate (s!"var {member.name}: {member.rawType.name}:" :: member.body.sourceLines "") ++ "\n"

def Conformance.text (conformance : Conformance α) : String :=
  s!"extension {conformance.typeName}: {conformance.protocol}\n"

def Member.text : Member α → String
  | .initializer member => member.text
  | .accessor member => member.text

def Expansion.text (expansion : Expansion α) : String :=
  "\n".intercalate (expansion.members.map Member.text ++ expansion.extensions.map Conformance.text)

end RawMapping
