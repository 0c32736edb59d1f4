import RawMapping.Location
import RawMapping.Text.Quoted

/-! The symbols of the declaration language and tokens, which are symbols at a position. Line
structure is part of the language: the end of a line and the opening and closing of an indented
block are symbols of their own. -/

set_option autoImplicit false

namespace RawMapping

/-- The keyword that introduces a declaration. -/
inductive DeclKind where
  | enumKind
  | structKind
  | classKind
  deriving DecidableEq, Repr

def DeclKind.text : DeclKind → String
  | .enumKind => "enum"
  | .structKind => "struct"
  | .classKind => "class"

def DeclKind.ofText? (word : String) : Option DeclKind :=
  if word = "enum" then some .enumKind
  else if word = "struct" then some .structKind
  else if word = "class" then some .classKind
  else none

@[simp] theorem DeclKind.ofText?_text (kind : DeclKind) : DeclKind.ofText? kind.text = some kind := by
  cases kind <;> decide

theorem DeclKind.text_of_ofText? {word : String} {kind : DeclKind}
    (known : DeclKind.ofText? word = some kind) : kind.text = word := by
  unfold ofText? at known
  grind [text]

inductive Symbol where
  | identifier (name : String)
  | string (value : String)
  | number (digits : String)
  | placeholder (label : String)
  | keyword (kind : DeclKind)
  | atSign
  | colon
  | comma
  | openParen
  | closeParen
  | openBracket
  | closeBracket
  | equals
  | minus
  | newline
  | indent
  | dedent
  | eof
  deriving DecidableEq, Repr

inductive SymbolKind where
  | identifier
  | string
  | number
  | placeholder
  | keyword (kind : DeclKind)
  | atSign
  | colon
  | comma
  | openParen
  | closeParen
  | openBracket
  | closeBracket
  | equals
  | minus
  | newline
  | indent
  | dedent
  | eof
  deriving DecidableEq, Repr

def Symbol.kind : Symbol → SymbolKind
  | .identifier _ => .identifier
  | .string _ => .string
  | .number _ => .number
  | .placeholder _ => .placeholder
  | .keyword kind => .keyword kind
  | .atSign => .atSign
  | .colon => .colon
  | .comma => .comma
  | .openParen => .openParen
  | .closeParen => .closeParen
  | .openBracket => .openBracket
  | .closeBracket => .closeBracket
  | .equals => .equals
  | .minus => .minus
  | .newline => .newline
  | .indent => .indent
  | .dedent => .dedent
  | .eof => .eof

def SymbolKind.text : SymbolKind → String
  | .identifier => "IDENTIFIER"
  | .string => "STRING"
  | .number => "NUMBER"
  | .placeholder => "PLACEHOLDER"
  | .keyword kind => kind.text
  | .atSign => "@"
  | .colon => ":"
  | .comma => ","
  | .openParen => "("
  | .closeParen => ")"
  | .openBracket => "["
  | .closeBracket => "]"
  | .equals => "="
  | .minus => "-"
  | .newline => "NEWLINE"
  | .indent => "INDENT"
  | .dedent => "DEDENT"
  | .eof => "EOF"

def Symbol.value : Symbol → String
  | .identifier name => name
  | .string value => value
  | .number digits => digits
  | .placeholder label => label
  | .newline => "\\n"
  | .indent | .dedent | .eof => ""
  | symbol => symbol.kind.text

def Symbol.description (symbol : Symbol) : String :=
  match symbol with
  | .identifier text | .string text | .number text => symbol.kind.text ++ " " ++ Text.quoted text
  | _ => symbol.kind.text

/-- How many brackets are open after a symbol, given how many were open before it. A closing bracket
that closes nothing is let through. -/
def Symbol.depthAfter (depth : Nat) : Symbol → Nat
  | .openParen | .openBracket => depth + 1
  | .closeParen | .closeBracket => depth - 1
  | _ => depth

structure Token where
  symbol : Symbol
  position : Position
  deriving DecidableEq, Repr

def Token.text (token : Token) : String :=
  s!"Token({token.symbol.kind.text}, {Text.quoted token.symbol.value}, " ++
    s!"{token.position.line}:{token.position.column})"

end RawMapping
