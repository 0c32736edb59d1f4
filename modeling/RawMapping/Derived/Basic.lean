import RawMapping.Declaration.Printer

/-! Declarations derived from a mapping: an initializer that builds a case from a raw value, an accessor
that gives the raw value of a case, and the statement that the type conforms to a protocol. Derived
declarations are trees of nodes with tags, as the declarations they are derived from. -/

set_option autoImplicit false

namespace RawMapping

/-- A use of a name that is bound. -/
structure NameRef (α : Type) where
  name : String
  tag : α
  deriving DecidableEq, Repr

inductive Pattern (α : Type) where
  | literal (literal : Literal α) (tag : α)
  /-- Matches a case by its name; a binding names its single payload value. -/
  | caseNamed (name : String) (binding : Option String) (tag : α)
  | wildcard (tag : α)
  deriving DecidableEq, Repr

/-- What an arm gives. -/
inductive Outcome (α : Type) where
  | construct (caseName : String) (argument : Option (NameRef α)) (tag : α)
  | name (ref : NameRef α)
  | literal (literal : Literal α)
  deriving DecidableEq, Repr

structure MatchArm (α : Type) where
  pattern : Pattern α
  outcome : Outcome α
  tag : α
  deriving DecidableEq, Repr

/-- A branch over the value of a name; the first arm that matches is taken. -/
structure Branch (α : Type) where
  subject : NameRef α
  arms : List (MatchArm α)
  tag : α
  deriving DecidableEq, Repr

structure Initializer (α : Type) where
  typeName : String
  parameter : String
  rawType : NamedType α
  body : Branch α
  tag : α
  deriving DecidableEq, Repr

structure Accessor (α : Type) where
  name : String
  rawType : NamedType α
  body : Branch α
  tag : α
  deriving DecidableEq, Repr

structure Conformance (α : Type) where
  typeName : String
  protocol : String
  tag : α
  deriving DecidableEq, Repr

inductive Member (α : Type) where
  | initializer (member : Initializer α)
  | accessor (member : Accessor α)
  deriving DecidableEq, Repr

structure Expansion (α : Type) where
  typeName : String
  members : List (Member α)
  extensions : List (Conformance α)
  deriving DecidableEq, Repr

variable {α : Type}

def Member.initializer? : Member α → Option (Initializer α)
  | .initializer member => some member
  | .accessor _ => none

def Member.accessor? : Member α → Option (Accessor α)
  | .accessor member => some member
  | .initializer _ => none

def Expansion.initializer? (expansion : Expansion α) : Option (Initializer α) :=
  expansion.members.findSome? Member.initializer?

def Expansion.accessor? (expansion : Expansion α) : Option (Accessor α) :=
  expansion.members.findSome? Member.accessor?

def Pattern.caseName? : Pattern α → Option String
  | .caseNamed name _ _ => some name
  | _ => none

def Accessor.caseNames (accessor : Accessor α) : List String :=
  accessor.body.arms.filterMap (·.pattern.caseName?)

end RawMapping
