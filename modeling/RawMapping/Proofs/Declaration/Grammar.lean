import RawMapping.Declaration.Parser
import RawMapping.Proofs.Token.Blocks

/-! The grammar of declarations. Each rule says which tokens make up a construct and which value they
stand for; the value carries the positions of the tokens. In the notation of the grammar,

    file      = NEWLINE* (decl NEWLINE*)* EOF
    decl      = attr* (enum | struct | class) IDENTIFIER ':' NEWLINE+ block?
    attr      = '@' IDENTIFIER ('[' IDENTIFIER (',' IDENTIFIER)* ']')? ('(' (arg (',' arg)*)? ')')? NEWLINE*
    arg       = (IDENTIFIER '=')? (STRING | PLACEHOLDER | '-'? NUMBER)
    block     = INDENT member* DEDENT          in an enum
              | INDENT balanced DEDENT         in a struct or class
    member    = attr* elem (',' elem)* NEWLINE+
    elem      = IDENTIFIER ('(' (param (',' param)*)? ')')?
    param     = (IDENTIFIER ':')? IDENTIFIER -/

set_option autoImplicit false

namespace RawMapping

variable {β : Type}

/-! ### Rules -/

/-- Which tokens make up a construct, and its value. -/
abbrev Rule (β : Type) := List Token → β → Prop

inductive LabelRule (mark : Symbol) : Rule (Option String) where
  | absent : LabelRule mark [] none
  | present (label : String) (position place : Position) :
      LabelRule mark [⟨.identifier label, position⟩, ⟨mark, place⟩] (some label)

inductive LiteralRule : Rule (Literal Position) where
  | string (value : String) (position : Position) :
      LiteralRule [⟨.string value, position⟩] (.string value position)
  | placeholder (label : String) (position : Position) :
      LiteralRule [⟨.placeholder label, position⟩] (.placeholder label position)
  | number (digits : String) (position : Position) :
      LiteralRule [⟨.number digits, position⟩] (.integer digits position)
  | negative (digits : String) (position place : Position) :
      LiteralRule [⟨.minus, position⟩, ⟨.number digits, place⟩] (.integer ("-" ++ digits) position)

inductive ArgumentRule : Rule (Argument Position) where
  | mk {labelWord valueWord : List Token} {label : Option String} {value : Literal Position}
      (labelled : LabelRule .equals labelWord label) (given : LiteralRule valueWord value) :
      ArgumentRule (labelWord ++ valueWord)
        ⟨label, value, (current (labelWord ++ valueWord)).position⟩

inductive TypeRule : Rule (NamedType Position) where
  | mk (name : String) (position : Position) :
      TypeRule [⟨.identifier name, position⟩] ⟨name, position⟩

inductive ParameterRule : Rule (Parameter Position) where
  | mk {labelWord typeWord : List Token} {label : Option String} {type : NamedType Position}
      (labelled : LabelRule .colon labelWord label) (typed : TypeRule typeWord type) :
      ParameterRule (labelWord ++ typeWord) ⟨label, type, (current (labelWord ++ typeWord)).position⟩

inductive FurtherRule (item : Rule β) : Rule (List β) where
  | nil : FurtherRule item [] []
  | cons {word later : List Token} {value : β} {values : List β} (comma : Position)
      (first : item word value) (others : FurtherRule item later values) :
      FurtherRule item (⟨.comma, comma⟩ :: (word ++ later)) (value :: values)

inductive SeparatedRule (item : Rule β) : Rule (List β) where
  | mk {word later : List Token} {value : β} {values : List β} (first : item word value)
      (others : FurtherRule item later values) : SeparatedRule item (word ++ later) (value :: values)

inductive ManyRule (item : Rule β) : Rule (List β) where
  | nil : ManyRule item [] []
  | cons {word later : List Token} {value : β} {values : List β} (first : item word value)
      (others : ManyRule item later values) : ManyRule item (word ++ later) (value :: values)

inductive TypeArgumentsRule : Rule (List (NamedType Position)) where
  | absent : TypeArgumentsRule [] []
  | present {word : List Token} {types : List (NamedType Position)} (opening closing : Position)
      (listed : SeparatedRule TypeRule word types) :
      TypeArgumentsRule (⟨.openBracket, opening⟩ :: (word ++ [⟨.closeBracket, closing⟩])) types

inductive ParenthesizedRule (item : Rule β) : Rule (Option (List β)) where
  | absent : ParenthesizedRule item [] none
  | empty (opening closing : Position) :
      ParenthesizedRule item [⟨.openParen, opening⟩, ⟨.closeParen, closing⟩] (some [])
  | present {word : List Token} {items : List β} (opening closing : Position)
      (listed : SeparatedRule item word items) :
      ParenthesizedRule item (⟨.openParen, opening⟩ :: (word ++ [⟨.closeParen, closing⟩])) (some items)

def Newlines (tokens : List Token) : Prop :=
  ∀ token ∈ tokens, token.symbol = .newline

inductive AttributeRule : Rule (Attribute Position) where
  | mk {typesWord argumentsWord gap : List Token} {types : List (NamedType Position)}
      {arguments : Option (List (Argument Position))} (sign : Position) (name : String)
      (position : Position) (typed : TypeArgumentsRule typesWord types)
      (applied : ParenthesizedRule ArgumentRule argumentsWord arguments) (ended : Newlines gap) :
      AttributeRule (⟨.atSign, sign⟩ :: ⟨.identifier name, position⟩ ::
          (typesWord ++ (argumentsWord ++ gap)))
        ⟨⟨name, position⟩, types, arguments.getD [], sign⟩

inductive VariantRule : Rule (Variant Position) where
  | mk {word : List Token} {parameters : Option (List (Parameter Position))} (name : String)
      (position : Position) (payload : ParenthesizedRule ParameterRule word parameters) :
      VariantRule (⟨.identifier name, position⟩ :: word) ⟨⟨name, position⟩, parameters, position⟩

inductive CaseLineRule : Rule (CaseLine Position) where
  | mk {above word gap : List Token} {attributes : List (Attribute Position)}
      {variants : List (Variant Position)} (annotated : ManyRule AttributeRule above attributes)
      (listed : SeparatedRule VariantRule word variants) (ended : Newlines gap) (some : gap ≠ []) :
      CaseLineRule (above ++ (word ++ gap))
        ⟨attributes, variants, (current (above ++ (word ++ gap))).position⟩

/-- Tokens in which every block that is opened is closed, and no other. -/
inductive Balanced : List Token → Prop where
  | nil : Balanced []
  | token {token : Token} {later : List Token} (opens : token.symbol ≠ .indent)
      (closes : token.symbol ≠ .dedent) (rest : Balanced later) : Balanced (token :: later)
  | block {inner later : List Token} (opening closing : Position) (inside : Balanced inner)
      (rest : Balanced later) :
      Balanced (⟨.indent, opening⟩ :: (inner ++ ⟨.dedent, closing⟩ :: later))

inductive BlockRule : DeclKind → Rule (List (CaseLine Position)) where
  | enumeration {word : List Token} {lines : List (CaseLine Position)} (opening closing : Position)
      (members : ManyRule CaseLineRule word lines) :
      BlockRule .enumKind (⟨.indent, opening⟩ :: (word ++ [⟨.dedent, closing⟩])) lines
  | skipped {kind : DeclKind} {word : List Token} (opening closing : Position)
      (other : kind ≠ .enumKind) (inside : Balanced word) :
      BlockRule kind (⟨.indent, opening⟩ :: (word ++ [⟨.dedent, closing⟩])) []

-- A body stands where its block is opened; one that is left out, where the text goes on.
inductive BodyRule (kind : DeclKind) (next : Position) : Rule (Body Position) where
  | absent : BodyRule kind next [] ⟨[], next⟩
  | present {word : List Token} {lines : List (CaseLine Position)} (block : BlockRule kind word lines) :
      BodyRule kind next word ⟨lines, (current word).position⟩

/-- A declaration in front of something at the given position. -/
inductive DeclarationRule (next : Position) : Rule (Declaration Position) where
  | mk {above gap word : List Token} {attributes : List (Attribute Position)} {kind : DeclKind}
      {body : Body Position} (annotated : ManyRule AttributeRule above attributes)
      (keyword : Position) (name : String) (position colon : Position) (ended : Newlines gap)
      (some : gap ≠ []) (below : BodyRule kind next word body) :
      DeclarationRule next (above ++ (⟨.keyword kind, keyword⟩ :: ⟨.identifier name, position⟩ ::
          ⟨.colon, colon⟩ :: (gap ++ word)))
        ⟨kind, ⟨name, position⟩, attributes, body, keyword⟩

/-- Declarations up to the end of the text. -/
inductive DeclarationsRule : Rule (List (Declaration Position)) where
  | done (position : Position) : DeclarationsRule [⟨.eof, position⟩] []
  | cons {word gap later : List Token} {declaration : Declaration Position}
      {declarations : List (Declaration Position)}
      (first : DeclarationRule (current later).position word declaration) (ended : Newlines gap)
      (others : DeclarationsRule later declarations) :
      DeclarationsRule (word ++ (gap ++ later)) (declaration :: declarations)

inductive FileRule : Rule (List (Declaration Position)) where
  | mk {gap later : List Token} {declarations : List (Declaration Position)} (ended : Newlines gap)
      (listed : DeclarationsRule later declarations) : FileRule (gap ++ later) declarations

/-! ### What a construct begins with -/

def Begins (rule : Rule β) (first : Symbol → Prop) : Prop :=
  ∀ word value, rule word value → ∃ token later, word = token :: later ∧ first token.symbol

theorem Begins.current {rule : Rule β} {first : Symbol → Prop} (begins : Begins rule first)
    {word : List Token} {value : β} (derived : rule word value) (rest : List Token) :
    first (current (word ++ rest)).symbol ∧ current (word ++ rest) = current word := by
  obtain ⟨token, later, rfl, opens⟩ := begins _ _ derived
  exact ⟨opens, rfl⟩

theorem LiteralRule.begins : Begins LiteralRule fun symbol =>
    (∀ name, symbol ≠ .identifier name) ∧ symbol ≠ .closeParen := by
  intro word value derived
  cases derived <;> exact ⟨_, _, rfl, by simp, by simp⟩

theorem ArgumentRule.begins : Begins ArgumentRule (· ≠ .closeParen) := by
  rintro _ _ ⟨labelled, given⟩
  cases labelled with
  | absent =>
    obtain ⟨token, later, rfl, opens⟩ := LiteralRule.begins _ _ given
    exact ⟨token, later, rfl, opens.2⟩
  | present => exact ⟨_, _, rfl, by simp⟩

theorem ParameterRule.begins : Begins ParameterRule (· ≠ .closeParen) := by
  rintro _ _ ⟨labelled, ⟨name, position⟩⟩
  cases labelled <;> exact ⟨_, _, rfl, by simp⟩

theorem SeparatedRule.begins {item : Rule β} {first : Symbol → Prop} (begins : Begins item first) :
    Begins (SeparatedRule item) first := by
  rintro _ _ ⟨derived, others⟩
  obtain ⟨token, later, rfl, opens⟩ := begins _ _ derived
  exact ⟨token, _, rfl, opens⟩

/-- Symbols that attributes can stand in front of. -/
def Symbol.isHead : Symbol → Bool
  | .identifier _ | .keyword _ => true
  | _ => false

theorem VariantRule.begins : Begins VariantRule (·.isHead = true) := by
  rintro _ _ ⟨name, position, payload⟩
  exact ⟨_, _, rfl, rfl⟩

theorem AttributeRule.begins : Begins AttributeRule (· = .atSign) := by
  rintro _ _ ⟨⟩
  exact ⟨_, _, rfl, rfl⟩

def Symbol.leads : Symbol → Bool
  | .atSign | .identifier _ | .keyword _ => true
  | _ => false

theorem Symbol.leads_of_isHead {symbol : Symbol} (head : symbol.isHead = true) : symbol.leads = true := by
  cases symbol <;> first | rfl | cases head

theorem Symbol.ne_of_leads {symbol : Symbol} (leads : symbol.leads = true) :
    symbol ≠ .newline ∧ symbol ≠ .indent ∧ symbol ≠ .dedent ∧ symbol ≠ .eof ∧ symbol ≠ .openParen ∧
      symbol ≠ .openBracket := by
  refine ⟨?_, ?_, ?_, ?_, ?_, ?_⟩ <;> rintro rfl <;> cases leads

/-- With attributes in front of it, what begins with a name still begins a line. -/
theorem ManyRule.leads {word rest : List Token} {attributes : List (Attribute Position)}
    (derived : ManyRule AttributeRule word attributes) (head : (current rest).symbol.isHead = true) :
    (current (word ++ rest)).symbol.leads = true := by
  cases derived with
  | nil => exact Symbol.leads_of_isHead head
  | cons first others =>
    rw [List.append_assoc, (AttributeRule.begins.current first _).1]
    rfl

theorem exists_of_leads {word : List Token} (leads : (current word).symbol.leads = true) :
    ∃ token later, word = token :: later ∧ token.symbol.leads = true := by
  cases word with
  | nil => cases leads
  | cons token later => exact ⟨token, later, rfl, leads⟩

theorem CaseLineRule.begins : Begins CaseLineRule (·.leads = true) := by
  rintro _ _ ⟨annotated, listed, ended, some⟩
  exact exists_of_leads
    (annotated.leads ((SeparatedRule.begins VariantRule.begins).current listed _).1)

theorem DeclarationRule.begins (next : Position) : Begins (DeclarationRule next) (·.leads = true) := by
  rintro _ _ ⟨annotated⟩
  exact exists_of_leads (annotated.leads rfl)

theorem DeclarationsRule.begins :
    Begins DeclarationsRule fun symbol => symbol ≠ .newline ∧ symbol ≠ .indent := by
  intro word declarations derived
  cases derived with
  | done => exact ⟨_, _, rfl, by simp⟩
  | cons first ended others =>
    obtain ⟨token, later, rfl, leads⟩ := DeclarationRule.begins _ _ _ first
    obtain ⟨line, block, -⟩ := Symbol.ne_of_leads leads
    exact ⟨token, _, rfl, line, block⟩

/-! ### What stays in a line -/

def InLine (rule : Rule β) : Prop :=
  ∀ word value, rule word value → ∀ token ∈ word, token.symbol.isInner = true

theorem LabelRule.inLine {mark : Symbol} (inner : mark.isInner = true) : InLine (LabelRule mark) := by
  intro word label derived
  cases derived with
  | absent => exact List.forall_mem_nil _
  | present => exact List.forall_mem_cons.mpr ⟨rfl, List.forall_mem_singleton.mpr inner⟩

theorem LiteralRule.inLine : InLine LiteralRule := by
  intro word value derived
  cases derived <;> simp [Symbol.isInner]

theorem TypeRule.inLine : InLine TypeRule := by
  rintro _ _ ⟨name, position⟩
  exact List.forall_mem_singleton.mpr rfl

theorem ArgumentRule.inLine : InLine ArgumentRule := by
  rintro _ _ ⟨labelled, given⟩
  exact List.forall_mem_append.mpr ⟨LabelRule.inLine rfl _ _ labelled, LiteralRule.inLine _ _ given⟩

theorem ParameterRule.inLine : InLine ParameterRule := by
  rintro _ _ ⟨labelled, typed⟩
  exact List.forall_mem_append.mpr ⟨LabelRule.inLine rfl _ _ labelled, TypeRule.inLine _ _ typed⟩

theorem FurtherRule.inLine {item : Rule β} (inner : InLine item) : InLine (FurtherRule item) := by
  intro word values derived
  induction derived with
  | nil => exact List.forall_mem_nil _
  | cons comma first others ih =>
    exact List.forall_mem_cons.mpr ⟨rfl, List.forall_mem_append.mpr ⟨inner _ _ first, ih⟩⟩

theorem SeparatedRule.inLine {item : Rule β} (inner : InLine item) : InLine (SeparatedRule item) := by
  rintro _ _ ⟨first, others⟩
  exact List.forall_mem_append.mpr ⟨inner _ _ first, FurtherRule.inLine inner _ _ others⟩

theorem TypeArgumentsRule.inLine : InLine TypeArgumentsRule := by
  intro word types derived
  cases derived with
  | absent => exact List.forall_mem_nil _
  | present opening closing listed =>
    exact List.forall_mem_cons.mpr ⟨rfl, List.forall_mem_append.mpr
      ⟨SeparatedRule.inLine TypeRule.inLine _ _ listed, List.forall_mem_singleton.mpr rfl⟩⟩

theorem ParenthesizedRule.inLine {item : Rule β} (inner : InLine item) :
    InLine (ParenthesizedRule item) := by
  intro word items derived
  cases derived with
  | absent => exact List.forall_mem_nil _
  | empty => simp [Symbol.isInner]
  | present opening closing listed =>
    exact List.forall_mem_cons.mpr ⟨rfl, List.forall_mem_append.mpr
      ⟨SeparatedRule.inLine inner _ _ listed, List.forall_mem_singleton.mpr rfl⟩⟩

theorem VariantRule.inLine : InLine VariantRule := by
  rintro _ _ ⟨name, position, payload⟩
  exact List.forall_mem_cons.mpr ⟨rfl, ParenthesizedRule.inLine ParameterRule.inLine _ _ payload⟩

/-! ### What opens and closes no block -/

theorem Blockless.append {first second : List Token} (left : Blockless first) (right : Blockless second) :
    Blockless (first ++ second) :=
  List.forall_mem_append.mpr ⟨left, right⟩

theorem Newlines.blockless {gap : List Token} (ended : Newlines gap) : Blockless gap :=
  fun token member => .inr (ended token member)

theorem InLine.blockless {rule : Rule β} (inner : InLine rule) {word : List Token} {value : β}
    (derived : rule word value) : Blockless word :=
  fun token member => .inl (inner _ _ derived token member)

theorem AttributeRule.blockless {word : List Token} {attr : Attribute Position}
    (derived : AttributeRule word attr) : Blockless word := by
  obtain ⟨sign, name, position, typed, applied, ended⟩ := derived
  refine List.forall_mem_cons.mpr ⟨.inl rfl, List.forall_mem_cons.mpr ⟨.inl rfl, ?_⟩⟩
  exact (TypeArgumentsRule.inLine.blockless typed).append
    (((ParenthesizedRule.inLine ArgumentRule.inLine).blockless applied).append ended.blockless)

theorem ManyRule.blockless {item : Rule β} (each : ∀ {word value}, item word value → Blockless word)
    {word : List Token} {values : List β} (derived : ManyRule item word values) : Blockless word := by
  induction derived with
  | nil => exact List.forall_mem_nil _
  | cons first others ih => exact (each first).append ih

theorem CaseLineRule.blockless {word : List Token} {line : CaseLine Position}
    (derived : CaseLineRule word line) : Blockless word := by
  obtain ⟨annotated, listed, ended, -⟩ := derived
  exact (annotated.blockless AttributeRule.blockless).append
    (((SeparatedRule.inLine VariantRule.inLine).blockless listed).append ended.blockless)

end RawMapping
