import RawMapping.Token.Symbol

/-! Faults in source text, each with the position it is reported at. -/

set_option autoImplicit false

namespace RawMapping

inductive Fault where
  | unterminatedString
  | unterminatedPlaceholder
  | unexpectedCharacter (c : Char)
  /-- A line goes back to a level that no open block has. -/
  | inconsistentIndentation (level found : Nat)
  | expected (wanted : SymbolKind) (found : Symbol)
  | expectedLiteral (found : Symbol)
  | expectedDeclaration (found : Symbol)
  | unexpectedAfterCase (found : Symbol)
  deriving DecidableEq, Repr

def Fault.message : Fault → String
  | .unterminatedString => "Unterminated string literal"
  | .unterminatedPlaceholder => "Unterminated placeholder"
  | .unexpectedCharacter c => "Unexpected character: " ++ Text.quoted (String.singleton c)
  | .inconsistentIndentation level found =>
    s!"Inconsistent indentation (expected {level} spaces, got {found})"
  | .expected wanted found => s!"Expected {wanted.text}, got {found.description}"
  | .expectedLiteral found =>
    s!"Expected a string, integer or placeholder literal, got {found.kind.text}"
  | .expectedDeclaration found =>
    s!"Expected enum, struct or class declaration, got {found.kind.text}"
  | .unexpectedAfterCase found => s!"Unexpected {found.kind.text} after enum case"

structure SyntaxError where
  fault : Fault
  position : Position
  deriving DecidableEq, Repr

def SyntaxError.message (error : SyntaxError) (file source : String) : String :=
  (Location.of file error.position).inSource source ++ "\n" ++ error.fault.message

end RawMapping
