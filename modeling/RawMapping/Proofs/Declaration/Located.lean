import RawMapping.Declaration.Node
import RawMapping.Proofs.Declaration.Deriving
import RawMapping.Proofs.Token.Order

/-! Where nodes stand. Every node that is read is made of tokens of its own and carries the position of the
symbol that it opens with, and the text spells that symbol there. Nodes of one list stand one behind the
other. -/

set_option autoImplicit false

namespace RawMapping

variable {β : Type}

/-! ### Nodes and the symbols that they open with -/

def Literal.OpensWith (symbol : Symbol) : Literal Position → Prop
  | .string value _ => symbol = .string value
  | .integer text _ => symbol = .number text ∨ symbol = .minus ∧ ∃ digits, text = "-" ++ digits
  | .placeholder label _ => symbol = .placeholder label

def Node.OpensWith (symbol : Symbol) : Node Position → Prop
  | .identifier node => symbol = .identifier node.text
  | .type node => symbol = .identifier node.name
  | .literal node => node.OpensWith symbol
  | .argument node =>
    match node.label with
    | some label => symbol = .identifier label
    | none => node.value.OpensWith symbol
  | .attr _ => symbol = .atSign
  | .parameter node =>
    match node.label with
    | some label => symbol = .identifier label
    | none => symbol = .identifier node.type.name
  | .variant node => symbol = .identifier node.name.text
  | .line node =>
    match node.attributes with
    | _ :: _ => symbol = .atSign
    | [] => ∃ variant, node.variants.head? = some variant ∧ symbol = .identifier variant.name.text
  | .declaration node => symbol = .keyword node.kind
  | .body _ | .foreign _ _ => False

/-- The tokens that a node is made of, by the rule of its kind. -/
def Node.MadeOf (word : List Token) : Node Position → Prop
  | .identifier node => word = [⟨.identifier node.text, node.tag⟩]
  | .type node => TypeRule word node
  | .literal node => LiteralRule word node
  | .argument node => ArgumentRule word node
  | .attr node => AttributeRule word node
  | .parameter node => ParameterRule word node
  | .variant node => VariantRule word node
  | .line node => CaseLineRule word node
  | .declaration node => ∃ next, DeclarationRule next word node
  | .body _ | .foreign _ _ => False

def Node.lists : Node Position → List (List Position)
  | .attr node => [node.typeArguments.map (·.tag), node.arguments.map (·.tag)]
  | .variant node => [(node.parameters.getD []).map (·.tag)]
  | .line node => [node.attributes.map (·.tag), node.variants.map (·.tag)]
  | .body node => [node.lines.map (·.tag)]
  | .declaration node => [node.attributes.map (·.tag)]
  | _ => []

def Node.isBody : Node Position → Bool
  | .body _ => true
  | _ => false

theorem Node.inner_of_opensWith {symbol : Symbol} {node : Node Position} (opens : node.OpensWith symbol) :
    symbol.isInner = true := by
  -- a literal also opens a labelless argument
  have literal {value : Literal Position} (opens : value.OpensWith symbol) : symbol.isInner = true := by
    cases value with
    | string => rw [opens]; rfl
    | placeholder => rw [opens]; rfl
    | integer text =>
      rcases opens with opens | ⟨opens, -⟩
      · rw [opens]; rfl
      · rw [opens]; rfl
  cases node with
  | literal node => exact literal opens
  | argument node =>
    dsimp only [OpensWith] at opens
    split at opens
    · rw [opens]; rfl
    · exact literal opens
  | parameter node =>
    dsimp only [OpensWith] at opens
    split at opens
    · rw [opens]; rfl
    · rw [opens]; rfl
  | line node =>
    dsimp only [OpensWith] at opens
    split at opens
    · rw [opens]; rfl
    · obtain ⟨variant, -, opens⟩ := opens
      rw [opens]; rfl
  | body => cases opens
  | «foreign» => cases opens
  | _ => rw [opens]; rfl

/-- The node is made of tokens in the word, and opens with the one at its position. -/
def Node.StandsAt (word : List Token) (symbol : Symbol) (node : Node Position) : Prop :=
  node.OpensWith symbol ∧ ∃ part, part <:+: word ∧ node.MadeOf part ∧ ⟨symbol, node.tag⟩ ∈ part

structure Node.Placed (word : List Token) (node : Node Position) : Prop where
  stands : node.isBody = false → ∃ symbol, node.StandsAt word symbol
  lists : ∀ list ∈ node.lists, list.Sublist (places word)

theorem Node.Placed.mono {word tokens : List Token} {node : Node Position} (placed : node.Placed word)
    (inside : word <:+: tokens) : node.Placed tokens := by
  constructor
  · intro other
    obtain ⟨symbol, opens, part, within, made, here⟩ := placed.stands other
    exact ⟨symbol, opens, part, within.trans inside, made, here⟩
  · intro list member
    exact (placed.lists list member).trans (places_sublist inside)

/-! ### Rules -/

/-- The nodes of what the rule derives are placed in its tokens. -/
def AllPlaced (rule : Rule β) (nodes : β → List (Node Position)) : Prop :=
  ∀ word value, rule word value → ∀ node ∈ nodes value, node.Placed word

def Tags (rule : Rule β) (tags : β → List Position) : Prop :=
  ∀ word value, rule word value → (tags value).Sublist (places word)

section

variable {item : Rule β} {nodes : β → List (Node Position)} {tag : β → Position}

theorem FurtherRule.allPlaced (each : AllPlaced item nodes) :
    AllPlaced (FurtherRule item) (List.flatMap nodes) := by
  intro word values derived
  induction derived with
  | nil => simp
  | @cons word later value values comma first others ih =>
    have front : word <:+: ⟨.comma, comma⟩ :: (word ++ later) := ⟨[_], later, rfl⟩
    have back : later <:+: ⟨.comma, comma⟩ :: (word ++ later) := ⟨⟨.comma, comma⟩ :: word, [], by simp⟩
    intro node member
    rcases List.mem_append.mp member with member | member
    · exact (each _ _ first node member).mono front
    · exact (ih node member).mono back

theorem SeparatedRule.allPlaced (each : AllPlaced item nodes) :
    AllPlaced (SeparatedRule item) (List.flatMap nodes) := by
  rintro _ _ ⟨first, others⟩ node member
  rename_i word later value values
  rcases List.mem_append.mp member with member | member
  · exact (each _ _ first node member).mono ⟨[], later, rfl⟩
  · exact (FurtherRule.allPlaced each _ _ others node member).mono ⟨word, [], by simp⟩

theorem ManyRule.allPlaced (each : AllPlaced item nodes) : AllPlaced (ManyRule item) (List.flatMap nodes) := by
  intro word values derived
  induction derived with
  | nil => simp
  | @cons word later value values first others ih =>
    intro node member
    rcases List.mem_append.mp member with member | member
    · exact (each _ _ first node member).mono ⟨[], later, rfl⟩
    · exact (ih node member).mono ⟨word, [], by simp⟩

theorem ParenthesizedRule.allPlaced (each : AllPlaced item nodes) :
    AllPlaced (ParenthesizedRule item) fun items => (items.getD []).flatMap nodes := by
  intro word items derived
  cases derived with
  | absent => simp
  | empty => simp
  | @present word items opening closing listed =>
    intro node member
    exact (SeparatedRule.allPlaced each _ _ listed node member).mono ⟨[_], [_], rfl⟩

theorem FurtherRule.tags (each : Tags item fun value => [tag value]) :
    Tags (FurtherRule item) (List.map tag) := by
  intro word values derived
  induction derived with
  | nil => exact List.Sublist.refl _
  | cons comma first others ih =>
    apply List.Sublist.trans ?_ (places_cons_sublist _ _)
    rw [places_append]
    exact (each _ _ first).append ih

theorem SeparatedRule.tags (each : Tags item fun value => [tag value]) :
    Tags (SeparatedRule item) (List.map tag) := by
  rintro _ _ ⟨first, others⟩
  rw [places_append]
  exact (each _ _ first).append (FurtherRule.tags each _ _ others)

theorem ManyRule.tags (each : Tags item fun value => [tag value]) :
    Tags (ManyRule item) (List.map tag) := by
  intro word values derived
  induction derived with
  | nil => exact List.Sublist.refl _
  | cons first others ih =>
    rw [places_append]
    exact (each _ _ first).append ih

theorem ParenthesizedRule.tags (each : Tags item fun value => [tag value]) :
    Tags (ParenthesizedRule item) fun items => (items.getD []).map tag := by
  intro word items derived
  cases derived with
  | absent => exact List.Sublist.refl _
  | empty => exact List.nil_sublist _
  | present opening closing listed =>
    exact (SeparatedRule.tags each _ _ listed).trans (places_sublist ⟨[_], [_], rfl⟩)

end

theorem Node.StandsAt.tag_mem {word : List Token} {symbol : Symbol} {node : Node Position}
    (stands : node.StandsAt word symbol) : node.tag ∈ places word := by
  obtain ⟨opens, part, inside, -, here⟩ := stands
  exact mem_places (inside.subset here) (Node.inner_of_opensWith opens)

theorem AllPlaced.tags {rule : Rule β} {nodes : β → List (Node Position)} (each : AllPlaced rule nodes)
    (root : β → Node Position) (among : ∀ value, root value ∈ nodes value)
    (other : ∀ value, (root value).isBody = false) : Tags rule fun value => [(root value).tag] := by
  intro word value derived
  obtain ⟨symbol, stands⟩ := (each word value derived _ (among value)).stands (other value)
  exact List.singleton_sublist.mpr stands.tag_mem

theorem Node.placed_of_mem {word : List Token} {node : Node Position} {symbol : Symbol}
    (opens : node.OpensWith symbol) (made : node.MadeOf word) (here : ⟨symbol, node.tag⟩ ∈ word)
    (lists : ∀ list ∈ node.lists, list.Sublist (places word)) : node.Placed word :=
  ⟨fun _ => ⟨symbol, opens, word, List.infix_rfl, made, here⟩, lists⟩

/-! ### Constructs -/

theorem placed_identifier (name : String) (position : Position) :
    (Node.identifier ⟨name, position⟩).Placed [⟨.identifier name, position⟩] :=
  Node.placed_of_mem rfl rfl List.mem_cons_self (by simp [Node.lists])

theorem TypeRule.allPlaced : AllPlaced TypeRule NamedType.nodes := by
  rintro _ _ ⟨name, position⟩ node member
  rw [List.mem_singleton.mp member]
  exact Node.placed_of_mem rfl (.mk name position) List.mem_cons_self (by simp [Node.lists])

theorem LiteralRule.opens {word : List Token} {value : Literal Position} (derived : LiteralRule word value) :
    ∃ symbol later, word = ⟨symbol, value.tag⟩ :: later ∧ value.OpensWith symbol := by
  cases derived with
  | string value position => exact ⟨_, _, rfl, rfl⟩
  | placeholder label position => exact ⟨_, _, rfl, rfl⟩
  | number digits position => exact ⟨_, _, rfl, .inl rfl⟩
  | negative digits position place => exact ⟨_, _, rfl, .inr ⟨rfl, digits, rfl⟩⟩

theorem LiteralRule.allPlaced : AllPlaced LiteralRule Literal.nodes := by
  intro word value derived node member
  rw [List.mem_singleton.mp member]
  obtain ⟨symbol, later, same, opens⟩ := derived.opens
  exact Node.placed_of_mem opens derived (by rw [same]; exact List.mem_cons_self) (by simp [Node.lists])

theorem ArgumentRule.allPlaced : AllPlaced ArgumentRule Argument.nodes := by
  intro word argument derived node member
  have whole := derived
  obtain ⟨labelled, given⟩ := derived
  rename_i labelWord valueWord label value
  rcases List.mem_cons.mp member with rfl | member
  · cases labelled with
    | absent =>
      obtain ⟨symbol, later, same, opens⟩ := given.opens
      refine Node.placed_of_mem opens whole ?_ (by simp [Node.lists])
      rw [same]
      exact List.mem_cons_self
    | present label position place =>
      exact Node.placed_of_mem rfl whole List.mem_cons_self (by simp [Node.lists])
  · exact (LiteralRule.allPlaced _ _ given node member).mono ⟨labelWord, [], by simp⟩

theorem ParameterRule.allPlaced : AllPlaced ParameterRule Parameter.nodes := by
  intro word parameter derived node member
  have whole := derived
  obtain ⟨labelled, typed⟩ := derived
  rename_i labelWord typeWord label type
  rcases List.mem_cons.mp member with rfl | member
  · cases labelled with
    | absent =>
      obtain ⟨name, position⟩ := typed
      exact Node.placed_of_mem rfl whole List.mem_cons_self (by simp [Node.lists])
    | present label position place =>
      exact Node.placed_of_mem rfl whole List.mem_cons_self (by simp [Node.lists])
  · exact (TypeRule.allPlaced _ _ typed node member).mono ⟨labelWord, [], by simp⟩

theorem TypeArgumentsRule.allPlaced : AllPlaced TypeArgumentsRule (List.flatMap NamedType.nodes) := by
  intro word types derived
  cases derived with
  | absent => simp
  | @present word types opening closing listed =>
    intro node member
    exact (SeparatedRule.allPlaced TypeRule.allPlaced _ _ listed node member).mono ⟨[_], [_], rfl⟩

theorem TypeArgumentsRule.tags : Tags TypeArgumentsRule (List.map (·.tag)) := by
  intro word types derived
  cases derived with
  | absent => exact List.Sublist.refl _
  | present opening closing listed =>
    have each := TypeRule.allPlaced.tags .type (fun _ => List.mem_cons_self) fun _ => rfl
    exact (SeparatedRule.tags each _ _ listed).trans (places_sublist ⟨[_], [_], rfl⟩)

theorem AttributeRule.allPlaced : AllPlaced AttributeRule Attribute.nodes := by
  intro word attr derived node member
  have whole := derived
  obtain ⟨sign, name, position, typed, applied, ended⟩ := derived
  rename_i typesWord argumentsWord gap types arguments
  have typesInside : typesWord <:+: ⟨.atSign, sign⟩ :: ⟨.identifier name, position⟩ ::
      (typesWord ++ (argumentsWord ++ gap)) := ⟨[_, _], argumentsWord ++ gap, rfl⟩
  have argumentsInside : argumentsWord <:+: ⟨.atSign, sign⟩ :: ⟨.identifier name, position⟩ ::
      (typesWord ++ (argumentsWord ++ gap)) :=
    ⟨⟨.atSign, sign⟩ :: ⟨.identifier name, position⟩ :: typesWord, gap, by simp⟩
  have argumentTags := ArgumentRule.allPlaced.tags .argument (fun _ => List.mem_cons_self) fun _ => rfl
  simp only [Attribute.nodes, Attribute.below, Identifier.nodes, List.mem_cons, List.mem_append,
    List.not_mem_nil, or_false] at member
  rcases member with rfl | (rfl | member) | member
  · refine Node.placed_of_mem rfl whole List.mem_cons_self ?_
    simp only [Node.lists, List.forall_mem_cons]
    exact ⟨(TypeArgumentsRule.tags _ _ typed).trans (places_sublist typesInside),
      (ParenthesizedRule.tags argumentTags _ _ applied).trans (places_sublist argumentsInside),
      List.forall_mem_nil _⟩
  · exact (placed_identifier name position).mono ⟨[_], typesWord ++ (argumentsWord ++ gap), rfl⟩
  · exact (TypeArgumentsRule.allPlaced _ _ typed node member).mono typesInside
  · exact (ParenthesizedRule.allPlaced ArgumentRule.allPlaced _ _ applied node member).mono argumentsInside

theorem VariantRule.allPlaced : AllPlaced VariantRule Variant.nodes := by
  intro word variant derived node member
  have whole := derived
  obtain ⟨name, position, payload⟩ := derived
  rename_i word parameters
  have inside : word <:+: ⟨.identifier name, position⟩ :: word := (List.suffix_cons _ word).isInfix
  have each := ParameterRule.allPlaced.tags .parameter (fun _ => List.mem_cons_self) fun _ => rfl
  simp only [Variant.nodes, Variant.below, Identifier.nodes, List.mem_cons, List.mem_append,
    List.not_mem_nil, or_false] at member
  rcases member with rfl | rfl | member
  · refine Node.placed_of_mem rfl whole List.mem_cons_self ?_
    simp only [Node.lists, List.forall_mem_cons]
    exact ⟨(ParenthesizedRule.tags each _ _ payload).trans (places_sublist inside),
      List.forall_mem_nil _⟩
  · exact (placed_identifier name position).mono ⟨[], word, rfl⟩
  · exact (ParenthesizedRule.allPlaced ParameterRule.allPlaced _ _ payload node member).mono inside

theorem attribute_tags : Tags (ManyRule AttributeRule) (List.map (·.tag)) :=
  ManyRule.tags (AttributeRule.allPlaced.tags .attr (fun _ => List.mem_cons_self) fun _ => rfl)

/-- A line opens with the sign of its first attribute, or else with the name of its first variant. -/
theorem CaseLineRule.opens {word : List Token} {line : CaseLine Position} (derived : CaseLineRule word line) :
    ∃ symbol later, word = ⟨symbol, line.tag⟩ :: later ∧ (Node.line line).OpensWith symbol := by
  obtain ⟨annotated, listed, ended, some⟩ := derived
  cases annotated with
  | nil =>
    obtain ⟨⟨name, position, payload⟩, others⟩ := listed
    exact ⟨.identifier name, _, rfl, _, rfl, rfl⟩
  | cons first others =>
    obtain ⟨sign, name, position, typed, applied, newlines⟩ := first
    exact ⟨.atSign, _, rfl, rfl⟩

theorem CaseLineRule.allPlaced : AllPlaced CaseLineRule CaseLine.nodes := by
  intro word line derived node member
  obtain ⟨symbol, later, front, opens⟩ := derived.opens
  have whole := derived
  obtain ⟨annotated, listed, ended, some⟩ := derived
  rename_i above word gap attributes variants
  have aboveInside : above <:+: above ++ (word ++ gap) := ⟨[], word ++ gap, rfl⟩
  have wordInside : word <:+: above ++ (word ++ gap) := ⟨above, gap, by simp⟩
  have variantTags := VariantRule.allPlaced.tags .variant (fun _ => List.mem_cons_self) fun _ => rfl
  simp only [CaseLine.nodes, CaseLine.below, List.mem_cons, List.mem_append] at member
  rcases member with rfl | member | member
  · refine Node.placed_of_mem opens whole ?_ ?_
    · rw [front]
      exact List.mem_cons_self
    · simp only [Node.lists, List.forall_mem_cons]
      exact ⟨(attribute_tags _ _ annotated).trans (places_sublist aboveInside),
        (SeparatedRule.tags variantTags _ _ listed).trans (places_sublist wordInside),
        List.forall_mem_nil _⟩
  · exact (ManyRule.allPlaced AttributeRule.allPlaced _ _ annotated node member).mono aboveInside
  · exact (SeparatedRule.allPlaced VariantRule.allPlaced _ _ listed node member).mono wordInside

/-- A body has no place of its own, but its lines have. -/
theorem BodyRule.allPlaced (kind : DeclKind) (next : Position) :
    AllPlaced (BodyRule kind next) Body.nodes := by
  have empty (word : List Token) (position : Position) (node : Node Position)
      (member : node ∈ (Body.mk [] position).nodes) : node.Placed word := by
    rw [List.mem_singleton.mp member]
    exact ⟨by simp [Node.isBody], by simp [Node.lists]⟩
  intro word body derived node member
  cases derived with
  | absent => exact empty _ _ node member
  | present block =>
    cases block with
    | skipped => exact empty _ _ node member
    | @enumeration word lines opening closing members =>
      have inside : word <:+: ⟨.indent, opening⟩ :: (word ++ [⟨.dedent, closing⟩]) := ⟨[_], [_], rfl⟩
      have each := CaseLineRule.allPlaced.tags .line (fun _ => List.mem_cons_self) fun _ => rfl
      rcases List.mem_cons.mp member with rfl | member
      · refine ⟨by simp [Node.isBody], ?_⟩
        simp only [Node.lists, List.forall_mem_singleton]
        exact (ManyRule.tags each _ _ members).trans (places_sublist inside)
      · exact (ManyRule.allPlaced CaseLineRule.allPlaced _ _ members node member).mono inside

theorem DeclarationRule.allPlaced (next : Position) :
    AllPlaced (DeclarationRule next) Declaration.nodes := by
  intro word declaration derived node member
  have whole := derived
  obtain ⟨annotated, keyword, name, position, colon, ended, some, below⟩ := derived
  rename_i above gap word attributes kind body
  have aboveInside : above <:+: above ++ (⟨.keyword kind, keyword⟩ :: ⟨.identifier name, position⟩ ::
      ⟨.colon, colon⟩ :: (gap ++ word)) := ⟨[], _, rfl⟩
  simp only [Declaration.nodes, Declaration.below, Identifier.nodes, List.mem_cons, List.mem_append,
    List.not_mem_nil, or_false] at member
  rcases member with rfl | (rfl | member) | member
  · refine Node.placed_of_mem rfl ⟨next, whole⟩ (List.mem_append_right _ List.mem_cons_self) ?_
    simp only [Node.lists, List.forall_mem_singleton]
    exact (attribute_tags _ _ annotated).trans (places_sublist aboveInside)
  · exact (placed_identifier name position).mono
      ⟨above ++ [⟨.keyword kind, keyword⟩], ⟨.colon, colon⟩ :: (gap ++ word), by simp⟩
  · exact (ManyRule.allPlaced AttributeRule.allPlaced _ _ annotated node member).mono aboveInside
  · exact (BodyRule.allPlaced kind next _ _ below node member).mono
      ⟨above ++ (⟨.keyword kind, keyword⟩ :: ⟨.identifier name, position⟩ :: ⟨.colon, colon⟩ :: gap), [],
        by simp⟩

/-! ### Files -/

theorem DeclarationsRule.allPlaced : AllPlaced DeclarationsRule (List.flatMap Declaration.nodes) := by
  intro tokens declarations derived
  induction derived with
  | done => simp
  | @cons word gap later declaration declarations first ended others ih =>
    intro node member
    rcases List.mem_append.mp member with member | member
    · exact (DeclarationRule.allPlaced _ _ _ first node member).mono ⟨[], gap ++ later, rfl⟩
    · exact (ih node member).mono ⟨word ++ gap, [], by simp⟩

theorem DeclarationsRule.tags : Tags DeclarationsRule (List.map (·.tag)) := by
  intro tokens declarations derived
  induction derived with
  | done => exact List.nil_sublist _
  | @cons word gap later declaration declarations first ended others ih =>
    have each := (DeclarationRule.allPlaced (current later).position).tags .declaration
      (fun _ => List.mem_cons_self) fun _ => rfl
    rw [places_append, places_append]
    exact (each _ _ first).append (ih.trans (List.sublist_append_right _ _))

/-- Every node of a text that is accepted, but for bodies, is made of tokens of its own, by the rule of its
kind, and carries the position of the symbol that it opens with; the text spells that symbol there. The
nodes of every list stand one behind the other, and so do the declarations. -/
theorem nodes_are_located {source : String} {declarations : List (Declaration Position)}
    (parsed : parse source = .ok declarations) :
    ∃ tokens, scan source = .ok tokens ∧ FileRule tokens declarations ∧
      (∀ declaration ∈ declarations, ∀ node ∈ declaration.nodes,
        (node.isBody = false → ∃ symbol, node.StandsAt tokens symbol ∧
          SpelledAt source.toList symbol node.tag) ∧
        ∀ list ∈ node.lists, Rising list) ∧
      Rising (declarations.map (·.tag)) := by
  obtain ⟨tokens, scanned, read⟩ := bind_eq_ok_iff.mp parsed
  have derived := readDeclarations_derives (laid_of_scan scanned) read
  obtain ⟨rising, spelled⟩ := scan_places scanned
  refine ⟨tokens, scanned, derived, ?_, ?_⟩
  · intro declaration among node member
    obtain ⟨ended, listed⟩ := derived
    rename_i gap later
    have placed := (DeclarationsRule.allPlaced _ _ listed node
      (List.mem_flatMap.mpr ⟨declaration, among, member⟩)).mono (List.suffix_append gap later).isInfix
    refine ⟨fun other => ?_, fun list inside => rising.sublist (placed.lists list inside)⟩
    obtain ⟨symbol, opens, part, inside, made, here⟩ := placed.stands other
    exact ⟨symbol, ⟨opens, part, inside, made, here⟩,
      spelled _ (inside.subset here) (Node.inner_of_opensWith opens)⟩
  · obtain ⟨ended, listed⟩ := derived
    rename_i gap later
    have whole := (DeclarationsRule.tags _ _ listed).trans
      (places_sublist (List.suffix_append gap later).isInfix)
    exact rising.sublist whole

/-- Attributes on lines of their own, brackets that go on over the end of a line, a negative number with its
minus apart, and a structure behind an enumeration. -/
def garland : String :=
  "@Ink(\"a\\\nb\",\n - 9, hue = <#tint#>)\n\n@Knot[Int, Str]\nenum Garland:\n\t@Wide\n\tplain, " ++
    "woven(of: Str,\n Int)\nstruct Bow:\n\tends\n"

theorem garland_located :
    ∃ declarations tokens, parse garland = .ok declarations ∧
      declarations.map (·.tag) = [⟨6, 1⟩, ⟨10, 1⟩] ∧ scan garland = .ok tokens ∧
      (∀ declaration ∈ declarations, ∀ node ∈ declaration.nodes,
        (node.isBody = false → ∃ symbol, node.StandsAt tokens symbol ∧
          SpelledAt garland.toList symbol node.tag) ∧
        ∀ list ∈ node.lists, Rising list) ∧
      Rising (declarations.map (·.tag)) := by
  have read : (parse garland).map (List.map (·.tag)) = .ok [⟨6, 1⟩, ⟨10, 1⟩] := by decide +kernel
  obtain ⟨declarations, parsed, tags⟩ := map_eq_ok_iff.mp read
  obtain ⟨tokens, scanned, -, located⟩ := nodes_are_located parsed
  exact ⟨declarations, tokens, parsed, tags, scanned, located⟩

end RawMapping
