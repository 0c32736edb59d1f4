import RawMapping.Case.Record
import RawMapping.Report.Diagnostic

/-! The fixes that diagnostics offer. Each replaces one node of the declaration's body. Variants, lines and
attributes are told by their places, which assumes that no node stands at two places of the tree. -/

set_option autoImplicit false

namespace RawMapping

variable {α : Type}

def addedAttribute (name : String) (arguments : List (Argument (Draft α))) : Attribute (Draft α) :=
  ⟨⟨name, .added⟩, [], arguments, .added⟩

def addedPayload (rawType : String) : List (Parameter (Draft α)) :=
  [⟨none, ⟨rawType, .added⟩, .added⟩]

def Change.ofLine (line : CaseLine α) (attributes : List (Attribute (Draft α)))
    (variants : List (Variant (Draft α))) : Change α :=
  ⟨.line line, .line ⟨attributes, variants, .copied line.tag⟩⟩

def Change.ofBody (body : Body α) (lines : List (CaseLine (Draft α))) : Change α :=
  ⟨.body body, .body ⟨lines, .copied body.tag⟩⟩

def CaseLine.trimmed (line : CaseLine α) (index : Nat) : CaseLine (Draft α) :=
  ⟨line.attributes.map (·.map .kept), (line.variants.eraseIdx index).map (·.map .kept),
    .copied line.tag⟩

/-- Attaches an attribute to exactly one case. The first variant of a line takes it on its line; any
other moves to a new line of its own right after, since attributes belong to a line's first variant. The
line and the variant are those at the places of the record. -/
def annotateCase (declaration : Declaration α) (record : CaseRecord α) (attr : Attribute (Draft α)) :
    Change α :=
  if record.isFirstOnLine then
    .ofLine record.line (record.line.attributes.map (·.map .kept) ++ [attr])
      (record.line.variants.map (·.map .kept))
  else
    -- attributes belong to the first variant of a line, so the case needs a line of its own
    let split : CaseLine (Draft α) := ⟨[attr], [record.variant.map .kept], .added⟩
    .ofBody declaration.body <| declaration.body.lines.zipIdx.flatMap fun (line, lineIndex) =>
      if lineIndex = record.lineIndex then [line.trimmed record.index, split] else [line.map .kept]

/-- Marks the candidate as the catch-all, or adds a new catch-all variant. -/
def addDefaultCaseFix (declaration : Declaration α) (rawType : String)
    (candidate? : Option (CaseRecord α)) (caseName : String) : Fix α :=
  let mark := addedAttribute defaultCaseName []
  match candidate? with
  | some candidate => ⟨.addDefaultCase, [annotateCase declaration candidate mark]⟩
  | none =>
    let variant : Variant (Draft α) := ⟨⟨caseName, .added⟩, some (addedPayload rawType), .added⟩
    let line : CaseLine (Draft α) := ⟨[mark], [variant], .added⟩
    ⟨.addDefaultCase,
      [.ofBody declaration.body (declaration.body.lines.map (·.map .kept) ++ [line])]⟩

def fixAssociatedValueFix (variant : Variant α) (rawType : String) : Fix α :=
  ⟨.fixAssociatedValue,
    [⟨.variant variant,
      .variant ⟨variant.name.map .kept, some (addedPayload rawType), .copied variant.tag⟩⟩]⟩

def addRawValueFix (declaration : Declaration α) (record : CaseRecord α) (label : String) : Fix α :=
  let argument : Argument (Draft α) := ⟨none, .placeholder label .added, .added⟩
  ⟨.addRawValue, [annotateCase declaration record (addedAttribute rawValueName [argument])]⟩

def removeRawValueFix (record : CaseRecord α) : Fix α :=
  let kept := record.line.attributes.filter fun attr => !attr.isNamed rawValueName
  ⟨.removeRawValue,
    [.ofLine record.line (kept.map (·.map .kept)) (record.line.variants.map (·.map .kept))]⟩

def removeAttributeFix (record : CaseRecord α) (place : Nat) : Fix α :=
  ⟨.removeRawValue,
    [.ofLine record.line ((record.line.attributes.eraseIdx place).map (·.map .kept))
      (record.line.variants.map (·.map .kept))]⟩

def quoteRawValueFix (text : String) (tag : α) : Fix α :=
  -- the literal keeps its location, so a later report points at it again
  ⟨.quoteRawValue, [⟨.literal (.integer text tag), .literal (.string text (.copied tag))⟩]⟩

end RawMapping
