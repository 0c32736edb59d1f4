import RawMapping.Declaration.Draft

/-! Diagnostics. Each is anchored at the node it is about, may point at other nodes through notes, and
may offer fixes. A fix is data: it names nodes of the declaration and what should stand in their
place. -/

set_option autoImplicit false

namespace RawMapping

inductive DiagnosticKind where
  | notAnEnum
  | rawTypeArgument
  | caseNameLiteral
  | missingDefault
  | extraDefault
  | wrongAssociatedValue
  | defaultAndRaw
  | malformedRawValue
  | missingRawValue
  | extraRawValue
  | rawValueType
  | unfilledRawValue
  | duplicateRawValue
  deriving DecidableEq, Repr

def DiagnosticKind.text : DiagnosticKind → String
  | .notAnEnum => "not-an-enum"
  | .rawTypeArgument => "raw-type-argument"
  | .caseNameLiteral => "case-name-literal"
  | .missingDefault => "missing-default"
  | .extraDefault => "extra-default"
  | .wrongAssociatedValue => "wrong-associated-value"
  | .defaultAndRaw => "default-and-raw"
  | .malformedRawValue => "malformed-raw-value"
  | .missingRawValue => "missing-raw-value"
  | .extraRawValue => "extra-raw-value"
  | .rawValueType => "raw-value-type"
  | .unfilledRawValue => "unfilled-raw-value"
  | .duplicateRawValue => "duplicate-raw-value"

inductive NoteKind where
  | multipleDefault
  | duplicateRawValue
  | multipleRawValue
  deriving DecidableEq, Repr

def NoteKind.text : NoteKind → String
  | .multipleDefault => "multiple-default"
  | .duplicateRawValue => "duplicate-raw-value"
  | .multipleRawValue => "multiple-raw-value"

def NoteKind.message : NoteKind → String
  | .multipleDefault => "@default_case previously used here"
  | .duplicateRawValue => "Raw value previously used here"
  | .multipleRawValue => "@raw_value previously used here"

inductive FixKind where
  | addDefaultCase
  | fixAssociatedValue
  | addRawValue
  | removeRawValue
  | quoteRawValue
  deriving DecidableEq, Repr

def FixKind.text : FixKind → String
  | .addDefaultCase => "add-default-case"
  | .fixAssociatedValue => "fix-associated-value"
  | .addRawValue => "add-raw-value"
  | .removeRawValue => "remove-raw-value"
  | .quoteRawValue => "quote-raw-value"

def FixKind.message : FixKind → String
  | .addDefaultCase => "Add default case"
  | .fixAssociatedValue => "Fix associated value"
  | .addRawValue => "Add raw value"
  | .removeRawValue => "Remove @raw_value"
  | .quoteRawValue => "Use a string literal"

/-- The full identifier of a kind of diagnostic, note or fix. -/
def messageId (kind : String) : String :=
  "rawenum." ++ kind

structure Note (α : Type) where
  kind : NoteKind
  anchor : Node α
  deriving DecidableEq, Repr

structure Change (α : Type) where
  old : Node α
  new : Node (Draft α)
  deriving DecidableEq, Repr

structure Fix (α : Type) where
  kind : FixKind
  changes : List (Change α)
  deriving DecidableEq, Repr

structure Diagnostic (α : Type) where
  kind : DiagnosticKind
  message : String
  anchor : Node α
  notes : List (Note α)
  fixes : List (Fix α)
  deriving DecidableEq, Repr

variable {α β : Type}

/-! ### Changing the tags -/

def Note.map (f : α → β) (note : Note α) : Note β :=
  ⟨note.kind, note.anchor.map f⟩

def Change.map (f : α → β) (change : Change α) : Change β :=
  ⟨change.old.map f, change.new.map (Draft.map f)⟩

def Fix.map (f : α → β) (fix : Fix α) : Fix β :=
  ⟨fix.kind, fix.changes.map (Change.map f)⟩

def Diagnostic.map (f : α → β) (diagnostic : Diagnostic α) : Diagnostic β :=
  ⟨diagnostic.kind, diagnostic.message, diagnostic.anchor.map f, diagnostic.notes.map (Note.map f),
    diagnostic.fixes.map (Fix.map f)⟩

def firstFix? (diagnostics : List (Diagnostic α)) : Option (Fix α) :=
  diagnostics.findSome? (·.fixes.head?)

def reportSummary (messages : List String) : String :=
  s!"{messages.length} diagnostic(s): " ++ "; ".intercalate messages

end RawMapping
