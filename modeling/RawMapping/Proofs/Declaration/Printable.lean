import RawMapping.Declaration.Printer
import RawMapping.Proofs.Token.Scanning

/-! Declarations that source text can express, and the symbols that each construct is written as. A
printed construct is read as its symbols and nothing else. -/

set_option autoImplicit false

namespace RawMapping

variable {α : Type}

/-! ### What can be printed -/

def IsInteger (text : String) : Prop :=
  ∃ digits, IsNumber digits ∧ (text = digits ∨ text = "-" ++ digits)

def Literal.Printable : Literal α → Prop
  | .string _ _ => True
  | .integer text _ => IsInteger text
  | .placeholder label _ => IsLabel label

structure Argument.Printable (argument : Argument α) : Prop where
  label : ∀ label ∈ argument.label, IsIdentifier label
  value : argument.value.Printable

structure Attribute.Printable (attr : Attribute α) : Prop where
  name : IsIdentifier attr.name.text
  typeArguments : ∀ type ∈ attr.typeArguments, IsIdentifier type.name
  arguments : ∀ argument ∈ attr.arguments, argument.Printable

structure Parameter.Printable (parameter : Parameter α) : Prop where
  label : ∀ label ∈ parameter.label, IsIdentifier label
  type : IsIdentifier parameter.type.name

structure Variant.Printable (variant : Variant α) : Prop where
  name : IsIdentifier variant.name.text
  parameters : ∀ parameters ∈ variant.parameters, ∀ parameter ∈ parameters, parameter.Printable

structure CaseLine.Printable (line : CaseLine α) : Prop where
  attributes : ∀ attr ∈ line.attributes, attr.Printable
  nonempty : line.variants ≠ []
  variants : ∀ variant ∈ line.variants, variant.Printable

/-- Names can be read, numbers and placeholders are well written, no line of the body is empty and
only an enumeration has lines at all. -/
structure Declaration.Printable (declaration : Declaration α) : Prop where
  name : IsIdentifier declaration.name.text
  attributes : ∀ attr ∈ declaration.attributes, attr.Printable
  body : declaration.kind ≠ .enumKind → declaration.body.lines = []
  lines : ∀ line ∈ declaration.body.lines, line.Printable

/-! ### The symbols of a construct -/

def separated : List (List Symbol) → List Symbol
  | [] => []
  | first :: others => first ++ others.flatMap (.comma :: ·)

def labelSymbols (mark : Symbol) : Option String → List Symbol
  | some label => [.identifier label, mark]
  | none => []

def Literal.symbols : Literal α → List Symbol
  | .string value _ => [.string value]
  | .integer text _ =>
    match text.toList with
    | '-' :: digits => [.minus, .number (String.ofList digits)]
    | _ => [.number text]
  | .placeholder label _ => [.placeholder label]

def Argument.symbols (argument : Argument α) : List Symbol :=
  labelSymbols .equals argument.label ++ argument.value.symbols

def NamedType.symbols (type : NamedType α) : List Symbol :=
  [.identifier type.name]

def parenthesized (items : List (List Symbol)) : List Symbol :=
  .openParen :: separated items ++ [.closeParen]

def bracketed (items : List (List Symbol)) : List Symbol :=
  .openBracket :: separated items ++ [.closeBracket]

def Attribute.innerSymbols (attr : Attribute α) : List Symbol :=
  .identifier attr.name.text ::
    ((if attr.typeArguments.isEmpty then [] else bracketed (attr.typeArguments.map NamedType.symbols)) ++
      if attr.arguments.isEmpty then [] else parenthesized (attr.arguments.map Argument.symbols))

def Attribute.symbols (attr : Attribute α) : List Symbol :=
  .atSign :: attr.innerSymbols

def Parameter.symbols (parameter : Parameter α) : List Symbol :=
  labelSymbols .colon parameter.label ++ parameter.type.symbols

def Variant.symbols (variant : Variant α) : List Symbol :=
  .identifier variant.name.text ::
    match variant.parameters with
    | none => []
    | some parameters => parenthesized (parameters.map Parameter.symbols)

def attributeLines (attrs : List (Attribute α)) : List Symbol :=
  attrs.flatMap fun attr => attr.symbols ++ [.newline]

def CaseLine.symbols (line : CaseLine α) : List Symbol :=
  attributeLines line.attributes ++ (separated (line.variants.map Variant.symbols) ++ [.newline])

def blockSymbols (lines : List (CaseLine α)) : List Symbol :=
  if lines.isEmpty then [] else .indent :: (lines.flatMap CaseLine.symbols ++ [.dedent])

def Declaration.symbols (declaration : Declaration α) : List Symbol :=
  attributeLines declaration.attributes ++
    ([.keyword declaration.kind, .identifier declaration.name.text, .colon, .newline] ++
      blockSymbols declaration.body.lines)

/-! ### Printed constructs -/

theorem toList_intercalate_cons (separator first : String) (others : List String) :
    (separator.intercalate (first :: others)).toList =
      first.toList ++ others.flatMap fun item => separator.toList ++ item.toList := by
  rw [String.toList_intercalate, List.map_cons]
  induction others generalizing first with
  | nil => simp [List.intercalate]
  | cons second others ih =>
    have inner := ih second
    simp only [List.intercalate, List.map_cons, List.intersperse_cons_cons, List.flatten_cons] at inner ⊢
    rw [inner]
    simp

theorem toList_commaList (first : String) (others : List String) :
    (commaList (first :: others)).toList =
      first.toList ++ others.flatMap fun item => ',' :: ' ' :: item.toList :=
  toList_intercalate_cons ", " first others

theorem stops_items {ι : Type} (items : List ι) (text : ι → String) :
    Stops (items.flatMap fun item => ',' :: ' ' :: (text item).toList) := by
  cases items with
  | nil => exact stops_nil
  | cons first others => exact (stops_cons _ _).mpr (by decide)

theorem Scans.items {ι : Type} {items : List ι} {text : ι → String} {symbols : ι → List Symbol}
    (scans : ∀ item ∈ items, Scans (text item).toList (symbols item))
    (some : ∀ item, symbols item ≠ []) :
    Scans (items.flatMap fun item => ',' :: ' ' :: (text item).toList)
      (items.flatMap fun item => .comma :: symbols item) := by
  induction items with
  | nil => exact Scans.nil
  | cons first others ih =>
    rw [List.forall_mem_cons] at scans
    have item : Scans (',' :: ' ' :: (text first).toList) (.comma :: symbols first) :=
      Scans.cons rfl (by decide) (by decide) (fun _ => rfl) (scans.1.space (some first))
    exact item.append (ih scans.2) (stops_items others text)

theorem Scans.commaList {ι : Type} {items : List ι} {text : ι → String} {symbols : ι → List Symbol}
    (scans : ∀ item ∈ items, Scans (text item).toList (symbols item))
    (some : ∀ item, symbols item ≠ []) :
    Scans (commaList (items.map text)).toList (separated (items.map symbols)) := by
  cases items with
  | nil => exact Scans.nil
  | cons first others =>
    rw [List.forall_mem_cons] at scans
    rw [List.map_cons, toList_commaList, List.map_cons, separated, List.flatMap_map, List.flatMap_map]
    exact scans.1.append (Scans.items scans.2 some) (stops_items others text)

theorem Scans.labelled {label : Option String} {mark : Symbol} {separator value : String}
    {symbols : List Symbol} (identifiers : ∀ name ∈ label, IsIdentifier name)
    (scans : Scans value.toList symbols) (marked : Scans (separator ++ value).toList (mark :: symbols))
    (stop : Stops (separator ++ value).toList) :
    Scans (labelled label separator value).toList (labelSymbols mark label ++ symbols) := by
  cases label with
  | none => exact scans
  | some name =>
    have identifier := identifiers name rfl
    -- an empty label is printed like no label, but it is no identifier
    have nonempty : name ≠ "" := by
      rintro rfl
      obtain ⟨c, word, text, -⟩ := identifier
      simp at text
    rw [RawMapping.labelled, if_neg nonempty, String.append_assoc, String.toList_append]
    exact (Scans.identifier identifier).append marked stop

theorem Literal.symbols_minus (digits : String) (tag : α) :
    (Literal.integer ("-" ++ digits) tag).symbols = [.minus, .number digits] := by
  simp [symbols]

theorem Literal.symbols_number {digits : String} (number : IsNumber digits) (tag : α) :
    (Literal.integer digits tag).symbols = [.number digits] := by
  rw [symbols]
  split
  · next rest text =>
    exact absurd (number.2 '-' (by simp [text])) (by decide)
  · rfl

/-- A literal begins with no name and with no bracket. -/
theorem Literal.symbols_eq_cons (literal : Literal α) : ∃ symbol others,
    literal.symbols = symbol :: others ∧ (∀ name, symbol ≠ .identifier name) ∧ symbol ≠ .closeParen := by
  cases literal with
  | string value _ => exact ⟨_, _, rfl, by simp, by simp⟩
  | placeholder label _ => exact ⟨_, _, rfl, by simp, by simp⟩
  | integer text _ =>
    rw [symbols]
    split
    · exact ⟨_, _, rfl, by simp, by simp⟩
    · exact ⟨_, _, rfl, by simp, by simp⟩

theorem Literal.symbols_ne_nil (literal : Literal α) : literal.symbols ≠ [] := by
  obtain ⟨symbol, others, same, -⟩ := literal.symbols_eq_cons
  simp [same]

theorem Literal.Printable.scans {literal : Literal α} (printable : literal.Printable) :
    Scans literal.text.toList literal.symbols := by
  cases literal with
  | string value _ => exact Scans.string value
  | placeholder label _ => exact Scans.placeholder printable
  | integer text _ =>
    obtain ⟨digits, number, rfl | rfl⟩ := printable
    · rw [Literal.symbols_number number]
      exact Scans.number number
    · rw [Literal.symbols_minus, Literal.text, String.toList_append]
      exact Scans.cons rfl (by decide) (by decide) (fun _ => rfl) (Scans.number number)

theorem Argument.Printable.scans {argument : Argument α} (printable : argument.Printable) :
    Scans argument.text.toList argument.symbols := by
  have value := printable.value.scans
  refine Scans.labelled printable.label value ?_ ?_
  · rw [String.toList_append]
    exact Scans.cons rfl (by decide) (by decide) (fun _ => rfl) value
  · rw [String.toList_append]
    exact (stops_cons '=' _).mpr (by decide)

theorem Parameter.Printable.scans {parameter : Parameter α} (printable : parameter.Printable) :
    Scans parameter.text.toList parameter.symbols := by
  have type := Scans.identifier printable.type
  refine Scans.labelled printable.label type ?_ ?_
  · rw [String.toList_append]
    exact Scans.cons rfl (by decide) (by decide) (fun _ => rfl) (type.space (by simp))
  · rw [String.toList_append]
    exact (stops_cons ':' _).mpr (by decide)

theorem Variant.Printable.scans {variant : Variant α} (printable : variant.Printable) :
    Scans variant.text.toList variant.symbols := by
  have name := Scans.identifier printable.name
  cases given : variant.parameters with
  | none => simpa [Variant.text, Variant.symbols, given] using name
  | some parameters =>
    have items : Scans (commaList (parameters.map Parameter.text)).toList
        (separated (parameters.map Parameter.symbols)) :=
      Scans.commaList (fun parameter member => (printable.parameters _ given _ member).scans)
        (fun parameter => by simp [Parameter.symbols, NamedType.symbols])
    have whole := name.append items.parenthesized ((stops_cons '(' _).mpr (by decide))
    simpa [Variant.text, Variant.symbols, given, parenthesized] using whole

theorem Scans.optional (empty : Bool) {text : String} {symbols : List Symbol}
    (scans : Scans text.toList symbols) :
    Scans (if empty then "" else text).toList (if empty then [] else symbols) := by
  cases empty with
  | true => exact Scans.nil
  | false => exact scans

theorem stops_optional (empty : Bool) {text : String} (stop : Stops text.toList) :
    Stops (if empty then "" else text).toList := by
  cases empty with
  | true => exact stops_nil
  | false => exact stop

theorem Attribute.Printable.scans {attr : Attribute α} (printable : attr.Printable) :
    Scans attr.text.toList attr.symbols := by
  have name := Scans.identifier printable.name
  have types : Scans ("[" ++ commaList (attr.typeArguments.map (·.name)) ++ "]").toList
      (bracketed (attr.typeArguments.map NamedType.symbols)) := by
    have items : Scans (commaList (attr.typeArguments.map (·.name))).toList
        (separated (attr.typeArguments.map NamedType.symbols)) :=
      Scans.commaList (fun type member => Scans.identifier (printable.typeArguments type member))
        (fun type => by simp [NamedType.symbols])
    simpa [bracketed] using items.bracketed
  have typesStop : Stops ("[" ++ commaList (attr.typeArguments.map (·.name)) ++ "]").toList := by
    rw [String.append_assoc, String.toList_append]
    exact (stops_cons '[' _).mpr (by decide)
  have arguments : Scans ("(" ++ commaList (attr.arguments.map Argument.text) ++ ")").toList
      (parenthesized (attr.arguments.map Argument.symbols)) := by
    have items : Scans (commaList (attr.arguments.map Argument.text)).toList
        (separated (attr.arguments.map Argument.symbols)) :=
      Scans.commaList (fun argument member => (printable.arguments argument member).scans)
        (fun argument => by simp [Argument.symbols, Literal.symbols_ne_nil])
    simpa [parenthesized] using items.parenthesized
  have argumentsStop : Stops ("(" ++ commaList (attr.arguments.map Argument.text) ++ ")").toList := by
    rw [String.append_assoc, String.toList_append]
    exact (stops_cons '(' _).mpr (by decide)
  -- brackets without anything in them are not written
  have typesOptional := types.optional attr.typeArguments.isEmpty
  have typesStop := stops_optional attr.typeArguments.isEmpty typesStop
  have argumentsOptional := arguments.optional attr.arguments.isEmpty
  have argumentsStop := stops_optional attr.arguments.isEmpty argumentsStop
  have brackets := typesOptional.append argumentsOptional argumentsStop
  have whole := name.append brackets (typesStop.append argumentsStop)
  simp only [Attribute.text, String.toList_append, List.append_assoc] at whole ⊢
  exact Scans.cons rfl (by decide) (by decide) (fun _ => rfl) whole

end RawMapping
