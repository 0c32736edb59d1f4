import RawMapping.Declaration.Basic

/-! Declarations in source form. What is written here reads back as the same declaration. -/

set_option autoImplicit false

namespace RawMapping

variable {α : Type}

/-- How a character is written between the quotes of a string literal. -/
def escapeChar (c : Char) : List Char :=
  if c = '\\' then ['\\', '\\']
  else if c = '"' then ['\\', '"']
  else if c = '\n' then ['\\', 'n']
  else if c = '\t' then ['\\', 't']
  else [c]

def quoteString (value : String) : String :=
  String.ofList ('"' :: value.toList.flatMap escapeChar ++ ['"'])

def Literal.text : Literal α → String
  | .string value _ => quoteString value
  | .integer text _ => text
  | .placeholder label _ => "<#" ++ label ++ "#>"

def commaList (items : List String) : String :=
  ", ".intercalate items

/-- A label and what it labels; an empty label is as good as none. -/
def labelled (label : Option String) (separator value : String) : String :=
  match label with
  | some label => if label = "" then value else label ++ separator ++ value
  | none => value

def Argument.text (argument : Argument α) : String :=
  labelled argument.label "=" argument.value.text

def Attribute.text (attr : Attribute α) : String :=
  let types :=
    if attr.typeArguments.isEmpty then ""
    else "[" ++ commaList (attr.typeArguments.map (·.name)) ++ "]"
  let arguments :=
    if attr.arguments.isEmpty then ""
    else "(" ++ commaList (attr.arguments.map Argument.text) ++ ")"
  "@" ++ attr.name.text ++ types ++ arguments

def Parameter.text (parameter : Parameter α) : String :=
  labelled parameter.label ": " parameter.type.name

def Variant.text (variant : Variant α) : String :=
  match variant.parameters with
  | none => variant.name.text
  | some parameters => variant.name.text ++ "(" ++ commaList (parameters.map Parameter.text) ++ ")"

def indentation : String := "  "

/-- The lines that write a case line: one for each attribute, then the variants. -/
def CaseLine.sourceLines (line : CaseLine α) : List String :=
  line.attributes.map (indentation ++ Attribute.text ·) ++
    [indentation ++ commaList (line.variants.map Variant.text)]

def Declaration.sourceLines (declaration : Declaration α) : List String :=
  declaration.attributes.map Attribute.text ++
    [declaration.kind.text ++ " " ++ declaration.name.text ++ ":"] ++
    declaration.body.lines.flatMap CaseLine.sourceLines

def Declaration.text (declaration : Declaration α) : String :=
  "\n".intercalate declaration.sourceLines ++ "\n"

/-- Declarations in source form, with a blank line between them. -/
def declarationsText (declarations : List (Declaration α)) : String :=
  "\n".intercalate (declarations.map Declaration.text)

end RawMapping
