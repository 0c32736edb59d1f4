import RawMapping.Proofs.Declaration.RoundTrip
import RawMapping.Proofs.Declaration.Substitution
import RawMapping.Proofs.Derived.Retagging
import RawMapping.Proofs.Report.Anchors

/-! Two layouts of one declaration. Declarations of the same shape are the two halves of one declaration
that carries both tags on each node, so whatever does not look at tags treats them alike: both expand
to the same declarations, or both are refused with the same report, anchored at the same places. -/

set_option autoImplicit false

namespace RawMapping

variable {α β : Type}

/-! ### Both tags on one tree -/

theorem exists_pairs {γ δ ε ζ : Type} {first : γ → ζ} {second : δ → ζ} {left : ε → γ} {right : ε → δ}
    (each : ∀ item other, first item = second other → ∃ pair, left pair = item ∧ right pair = other)
    {items : List γ} {others : List δ} (same : items.map first = others.map second) :
    ∃ pairs : List ε, pairs.map left = items ∧ pairs.map right = others := by
  induction items generalizing others with
  | nil =>
    rw [List.map_nil, eq_comm, List.map_eq_nil_iff] at same
    exact ⟨[], rfl, same.symm⟩
  | cons item items ih =>
    cases others with
    | nil => cases same
    | cons other others =>
      rw [List.map_cons, List.map_cons, List.cons.injEq] at same
      obtain ⟨pair, rfl, rfl⟩ := each item other same.1
      obtain ⟨pairs, rfl, rfl⟩ := ih same.2
      exact ⟨pair :: pairs, rfl, rfl⟩

theorem Identifier.exists_paired {first : Identifier α} {second : Identifier β}
    (same : first.map (fun _ => ()) = second.map fun _ => ()) :
    ∃ paired : Identifier (α × β), paired.map Prod.fst = first ∧ paired.map Prod.snd = second := by
  obtain ⟨text, tag⟩ := first
  obtain ⟨otherText, other⟩ := second
  cases congrArg Identifier.text same
  exact ⟨⟨text, tag, other⟩, rfl, rfl⟩

theorem NamedType.exists_paired (first : NamedType α) (second : NamedType β)
    (same : first.map (fun _ => ()) = second.map fun _ => ()) :
    ∃ paired : NamedType (α × β), paired.map Prod.fst = first ∧ paired.map Prod.snd = second := by
  obtain ⟨name, tag⟩ := first
  obtain ⟨otherName, other⟩ := second
  cases congrArg NamedType.name same
  exact ⟨⟨name, tag, other⟩, rfl, rfl⟩

theorem Literal.exists_paired {first : Literal α} {second : Literal β}
    (same : first.map (fun _ => ()) = second.map fun _ => ()) :
    ∃ paired : Literal (α × β), paired.map Prod.fst = first ∧ paired.map Prod.snd = second := by
  cases first with
  | string value tag =>
    cases second with
    | string _ other =>
      cases same
      exact ⟨.string value (tag, other), rfl, rfl⟩
    | integer | placeholder => cases same
  | integer text tag =>
    cases second with
    | integer _ other =>
      cases same
      exact ⟨.integer text (tag, other), rfl, rfl⟩
    | string | placeholder => cases same
  | placeholder label tag =>
    cases second with
    | placeholder _ other =>
      cases same
      exact ⟨.placeholder label (tag, other), rfl, rfl⟩
    | string | integer => cases same

theorem Argument.exists_paired (first : Argument α) (second : Argument β)
    (same : first.map (fun _ => ()) = second.map fun _ => ()) :
    ∃ paired : Argument (α × β), paired.map Prod.fst = first ∧ paired.map Prod.snd = second := by
  obtain ⟨label, value, tag⟩ := first
  obtain ⟨otherLabel, otherValue, other⟩ := second
  simp only [Argument.map, Argument.mk.injEq, and_true] at same
  obtain ⟨rfl, same⟩ := same
  obtain ⟨paired, rfl, rfl⟩ := Literal.exists_paired same
  exact ⟨⟨label, paired, tag, other⟩, rfl, rfl⟩

theorem Attribute.exists_paired (first : Attribute α) (second : Attribute β)
    (same : first.shape = second.shape) :
    ∃ paired : Attribute (α × β), paired.map Prod.fst = first ∧ paired.map Prod.snd = second := by
  obtain ⟨name, types, arguments, tag⟩ := first
  obtain ⟨otherName, otherTypes, otherArguments, other⟩ := second
  simp only [shape, Attribute.map, Attribute.mk.injEq, and_true] at same
  obtain ⟨sameName, sameTypes, sameArguments⟩ := same
  obtain ⟨name, rfl, rfl⟩ := Identifier.exists_paired sameName
  obtain ⟨types, rfl, rfl⟩ := exists_pairs NamedType.exists_paired sameTypes
  obtain ⟨arguments, rfl, rfl⟩ := exists_pairs Argument.exists_paired sameArguments
  exact ⟨⟨name, types, arguments, tag, other⟩, rfl, rfl⟩

theorem Parameter.exists_paired (first : Parameter α) (second : Parameter β)
    (same : first.map (fun _ => ()) = second.map fun _ => ()) :
    ∃ paired : Parameter (α × β), paired.map Prod.fst = first ∧ paired.map Prod.snd = second := by
  obtain ⟨label, type, tag⟩ := first
  obtain ⟨otherLabel, otherType, other⟩ := second
  simp only [Parameter.map, Parameter.mk.injEq, and_true] at same
  obtain ⟨rfl, same⟩ := same
  obtain ⟨paired, rfl, rfl⟩ := NamedType.exists_paired type otherType same
  exact ⟨⟨label, paired, tag, other⟩, rfl, rfl⟩

theorem Variant.exists_paired (first : Variant α) (second : Variant β)
    (same : first.shape = second.shape) :
    ∃ paired : Variant (α × β), paired.map Prod.fst = first ∧ paired.map Prod.snd = second := by
  obtain ⟨name, parameters, tag⟩ := first
  obtain ⟨otherName, otherParameters, other⟩ := second
  simp only [shape, Variant.map, Variant.mk.injEq, and_true] at same
  obtain ⟨sameName, sameParameters⟩ := same
  obtain ⟨name, rfl, rfl⟩ := Identifier.exists_paired sameName
  cases parameters with
  | none =>
    cases otherParameters with
    | none => exact ⟨⟨name, none, tag, other⟩, rfl, rfl⟩
    | some _ => cases sameParameters
  | some parameters =>
    cases otherParameters with
    | none => cases sameParameters
    | some others =>
      obtain ⟨paired, rfl, rfl⟩ := exists_pairs Parameter.exists_paired (Option.some.inj sameParameters)
      exact ⟨⟨name, some paired, tag, other⟩, rfl, rfl⟩

theorem CaseLine.exists_paired (first : CaseLine α) (second : CaseLine β)
    (same : first.shape = second.shape) :
    ∃ paired : CaseLine (α × β), paired.map Prod.fst = first ∧ paired.map Prod.snd = second := by
  obtain ⟨attributes, variants, tag⟩ := first
  obtain ⟨otherAttributes, otherVariants, other⟩ := second
  simp only [shape_eq, CaseLine.mk.injEq, and_true] at same
  obtain ⟨attributes, rfl, rfl⟩ := exists_pairs Attribute.exists_paired same.1
  obtain ⟨variants, rfl, rfl⟩ := exists_pairs Variant.exists_paired same.2
  exact ⟨⟨attributes, variants, tag, other⟩, rfl, rfl⟩

theorem Declaration.exists_paired {first : Declaration α} {second : Declaration β}
    (same : first.shape = second.shape) :
    ∃ paired : Declaration (α × β), paired.map Prod.fst = first ∧ paired.map Prod.snd = second := by
  obtain ⟨kind, name, attributes, ⟨lines, bodyTag⟩, tag⟩ := first
  obtain ⟨otherKind, otherName, otherAttributes, ⟨otherLines, otherBodyTag⟩, other⟩ := second
  simp only [shape, Declaration.map, Body.map, Declaration.mk.injEq, Body.mk.injEq, and_true] at same
  obtain ⟨rfl, sameName, sameAttributes, sameLines⟩ := same
  obtain ⟨name, rfl, rfl⟩ := Identifier.exists_paired sameName
  obtain ⟨attributes, rfl, rfl⟩ := exists_pairs Attribute.exists_paired sameAttributes
  obtain ⟨lines, rfl, rfl⟩ := exists_pairs CaseLine.exists_paired sameLines
  exact ⟨⟨kind, name, attributes, ⟨lines, bodyTag, otherBodyTag⟩, tag, other⟩, rfl, rfl⟩

/-! ### Reports -/

def Corresponds (first : Declaration α) (second : Declaration β) (node : Node α) (other : Node β) : Prop :=
  ∃ place : Nat, first.nodes[place]? = some node ∧ second.nodes[place]? = some other

/-- The diagnostics say the same about the two declarations. What a note or a fix says is told by its
kind. -/
structure Diagnostic.Agrees (first : Declaration α) (second : Declaration β)
    (diagnostic : Diagnostic α) (other : Diagnostic β) : Prop where
  kind : diagnostic.kind = other.kind
  message : diagnostic.message = other.message
  notes : diagnostic.notes.map (·.kind) = other.notes.map (·.kind)
  fixes : diagnostic.fixes.map (·.kind) = other.fixes.map (·.kind)
  /-- The diagnostics themselves and their notes point at the same places. -/
  anchors : List.Forall₂ (Corresponds first second) diagnostic.anchors other.anchors

theorem Declaration.nodes_map (f : α → β) (declaration : Declaration α) :
    (declaration.map f).nodes = declaration.nodes.map (Node.map f) :=
  Node.nodes_map f (.declaration declaration)

theorem Declaration.corresponds_of_mem {paired : Declaration (α × β)} {node : Node (α × β)}
    (member : node ∈ paired.nodes) :
    Corresponds (paired.map Prod.fst) (paired.map Prod.snd) (node.map Prod.fst) (node.map Prod.snd) := by
  obtain ⟨place, found⟩ := List.mem_iff_getElem?.mp member
  refine ⟨place, ?_, ?_⟩
  · rw [nodes_map, List.getElem?_map, found, Option.map_some]
  · rw [nodes_map, List.getElem?_map, found, Option.map_some]

theorem Diagnostic.anchors_map (f : α → β) (diagnostic : Diagnostic α) :
    (diagnostic.map f).anchors = diagnostic.anchors.map (Node.map f) := by
  simp [anchors, Diagnostic.map, Note.map]

theorem Declaration.Anchors.agree {paired : Declaration (α × β)} {diagnostics : List (Diagnostic (α × β))}
    (anchors : paired.Anchors diagnostics) :
    List.Forall₂ (Diagnostic.Agrees (paired.map Prod.fst) (paired.map Prod.snd))
      (diagnostics.map (Diagnostic.map Prod.fst)) (diagnostics.map (Diagnostic.map Prod.snd)) := by
  rw [List.forall₂_map_left_iff, List.forall₂_map_right_iff, List.forall₂_same]
  intro diagnostic member
  refine ⟨rfl, rfl, ?_, ?_, ?_⟩
  · simp [Diagnostic.map, Note.map]
  · simp [Diagnostic.map, Fix.map]
  · rw [diagnostic.anchors_map, diagnostic.anchors_map, List.forall₂_map_left_iff,
      List.forall₂_map_right_iff, List.forall₂_same]
    intro node inside
    exact Declaration.corresponds_of_mem (anchors diagnostic member node inside)

/-! ### Derived declarations -/

def Pattern.tags : Pattern α → List α
  | .literal constant tag => [tag, constant.tag]
  | .caseNamed _ _ tag | .wildcard tag => [tag]

def Outcome.tags : Outcome α → List α
  | .construct _ argument tag => tag :: argument.toList.map (·.tag)
  | .name ref => [ref.tag]
  | .literal constant => [constant.tag]

def MatchArm.tags (arm : MatchArm α) : List α :=
  arm.tag :: (arm.pattern.tags ++ arm.outcome.tags)

def Branch.tags (branch : Branch α) : List α :=
  branch.tag :: branch.subject.tag :: branch.arms.flatMap MatchArm.tags

def Member.tags : Member α → List α
  | .initializer member => member.tag :: member.rawType.tag :: member.body.tags
  | .accessor member => member.tag :: member.rawType.tag :: member.body.tags

def Expansion.tags (expansion : Expansion α) : List α :=
  expansion.members.flatMap Member.tags ++ expansion.extensions.map (·.tag)

theorem Assignment.tags_decodeArm (tag : α) (assignment : Assignment) :
    ∀ found ∈ (assignment.decodeArm tag).tags, found = tag := by
  obtain ⟨name, literal⟩ := assignment
  cases literal <;> simp [decodeArm, MatchArm.tags, Pattern.tags, Outcome.tags, Literal.map, Literal.tag]

theorem Assignment.tags_encodeArm (tag : α) (assignment : Assignment) :
    ∀ found ∈ (assignment.encodeArm tag).tags, found = tag := by
  obtain ⟨name, literal⟩ := assignment
  cases literal <;> simp [encodeArm, MatchArm.tags, Pattern.tags, Outcome.tags, Literal.map, Literal.tag]

theorem tags_describedExpansion (tag : α) (typeName rawType catchAll : String)
    (assignments : List Assignment) :
    ∀ found ∈ (describedExpansion tag typeName rawType catchAll assignments).tags, found = tag := by
  have decode : ∀ found ∈ (assignments.map (Assignment.decodeArm tag)).flatMap MatchArm.tags, found = tag := by
    rw [List.flatMap_map, List.forall_mem_flatMap]
    exact fun assignment _ => assignment.tags_decodeArm tag
  have encode : ∀ found ∈ (assignments.map (Assignment.encodeArm tag)).flatMap MatchArm.tags, found = tag := by
    rw [List.flatMap_map, List.forall_mem_flatMap]
    exact fun assignment _ => assignment.tags_encodeArm tag
  -- the arms of the cases are settled, what is left is one node of each kind
  simp only [describedExpansion, Expansion.tags, Member.tags, Branch.tags, List.flatMap_cons,
    List.flatMap_nil, List.flatMap_append, List.forall_mem_append, List.forall_mem_cons, true_and]
  refine ⟨⟨⟨decode, ?_⟩, ⟨encode, ?_⟩, ?_⟩, ?_⟩
  all_goals simp [MatchArm.tags, Pattern.tags, Outcome.tags]

/-- No node of what is derived from a declaration points at a source text. -/
theorem Declaration.unlocated_of_expand {declaration : Declaration α} {settings : Settings}
    {expansion : Expansion (Option α)} (expanded : declaration.expand settings = .ok expansion) :
    ∀ tag ∈ expansion.tags, tag = none := by
  obtain ⟨rawType, variant, -, rfl⟩ :=
    (declaration.expand_eq_ok_iff_wellFormed settings expansion).mp expanded
  exact tags_describedExpansion none _ _ _ _

inductive Declaration.Alike (first second : Declaration α) (settings : Settings) : Prop where
  /-- Both expand, to the same, and no derived node carries a tag of either. -/
  | expanded (expansion : Expansion (Option α)) (one : first.expand settings = .ok expansion)
      (two : second.expand settings = .ok expansion) (unlocated : ∀ tag ∈ expansion.tags, tag = none)
  /-- Both are refused, for the same reasons. -/
  | refused (report other : List (Diagnostic α))
      (one : first.expand settings = .error (.rejected report))
      (two : second.expand settings = .error (.rejected other))
      (agree : List.Forall₂ (Diagnostic.Agrees first second) report other)

theorem Declaration.expand_map (f : α → β) {declaration : Declaration α} {attr : Attribute α}
    (found : declaration.findAttribute? annotationName = some attr) (settings : Settings) :
    (declaration.map f).expand settings =
      (((declaration.expandAs attr settings).mapError (List.map (Diagnostic.map f))).map
        (Expansion.map (Option.map f))).mapError .rejected := by
  simp only [expand, findAttribute?_map, found, Option.map_some, expandAs_map]

theorem Declaration.map_expansion {declaration : Declaration α} {settings : Settings}
    {expansion : Expansion (Option α)} (expanded : declaration.expand settings = .ok expansion)
    (f g : α → β) : expansion.map (Option.map f) = expansion.map (Option.map g) := by
  obtain ⟨rawType, variant, -, rfl⟩ :=
    (declaration.expand_eq_ok_iff_wellFormed settings expansion).mp expanded
  rw [map_describedExpansion, map_describedExpansion, Option.map_none, Option.map_none]

theorem Declaration.alike_of_shape {first second : Declaration α}
    (annotated : first.isAnnotated = true) (same : first.shape = second.shape) (settings : Settings) :
    first.Alike second settings := by
  obtain ⟨paired, rfl, rfl⟩ := Declaration.exists_paired same
  rw [isAnnotated, findAttribute?_map, Option.isSome_map] at annotated
  obtain ⟨attr, found⟩ := Option.isSome_iff_exists.mp annotated
  have left := paired.expand_map Prod.fst found settings
  have right := paired.expand_map Prod.snd found settings
  cases expanded : paired.expandAs attr settings with
  | ok expansion =>
    rw [expanded] at left right
    have both := Declaration.map_expansion (paired.expand_eq_ok_iff settings expansion |>.mpr
      ⟨attr, found, expanded⟩) Prod.snd Prod.fst
    exact .expanded _ left (right.trans (congrArg Except.ok both)) (Declaration.unlocated_of_expand left)
  | error report =>
    rw [expanded] at left right
    refine .refused _ _ left right (Declaration.Anchors.agree ?_)
    have reported : paired.report settings = report := by
      simp only [Declaration.report, expand, found, expanded, Except.mapError]
    rw [← reported]
    exact paired.anchors_report settings

theorem Declaration.expand_eq_ok_iff_of_shape {first second : Declaration α}
    (same : first.shape = second.shape) (settings : Settings) (expansion : Expansion (Option α)) :
    first.expand settings = .ok expansion ↔ second.expand settings = .ok expansion := by
  cases annotated : first.isAnnotated with
  | true =>
    cases alike_of_shape annotated same settings with
    | expanded found one two => simp [one, two]
    | refused report other one two agree => simp [one, two]
  | false =>
    obtain ⟨paired, rfl, rfl⟩ := Declaration.exists_paired same
    rw [isAnnotated, findAttribute?_map, Option.isSome_map, Option.isSome_eq_false_iff,
      Option.isNone_iff_eq_none] at annotated
    simp [expand, findAttribute?_map, annotated]

/-! ### Layouts -/

/-- The layout of a declaration is no part of what it means. Two declarations that differ only in their
tags come to the same, and where they expand no derived node carries a tag. A declaration that was printed
and read again expands to what it was. -/
theorem Declaration.layout_is_immaterial :
    (∀ (α : Type) (first second : Declaration α) (settings : Settings),
      first.isAnnotated = true → first.shape = second.shape → first.Alike second settings) ∧
    ∀ (source : String) (declarations : List (Declaration Position)),
      parse source = .ok declarations → ∀ declaration ∈ declarations,
        ∃ again, parse declaration.text = .ok [again] ∧ again.shape = declaration.shape ∧
          ∀ (settings : Settings) (expansion : Expansion (Option Position)),
            (again.expand settings = .ok expansion ↔ declaration.expand settings = .ok expansion) ∧
            (declaration.expand settings = .ok expansion → ∀ tag ∈ expansion.tags, tag = none) := by
  refine ⟨fun _ _ _ settings annotated same => alike_of_shape annotated same settings, ?_⟩
  intro source declarations read declaration member
  have printable := printable_of_parse read declaration member
  obtain ⟨reread, parsed, shapes⟩ := parse_declarationsText (List.forall_mem_singleton.mpr printable)
  obtain ⟨again, rfl, same⟩ := List.map_eq_singleton_iff.mp shapes
  exact ⟨again, parsed, same, fun settings expansion =>
    ⟨expand_eq_ok_iff_of_shape same settings expansion, Declaration.unlocated_of_expand⟩⟩

/-- Two cases on one line and a catch-all, laid out widely. -/
def doors : Declaration Position :=
  ⟨.enumKind, ⟨"Door", ⟨3, 6⟩⟩, [⟨⟨"raw_representable", ⟨1, 2⟩⟩, [⟨"String", ⟨1, 20⟩⟩], [], ⟨1, 1⟩⟩],
    ⟨[⟨[], [⟨⟨"open", ⟨4, 5⟩⟩, none, ⟨4, 5⟩⟩, ⟨⟨"shut", ⟨4, 12⟩⟩, none, ⟨4, 12⟩⟩], ⟨4, 5⟩⟩,
      ⟨[⟨⟨"default_case", ⟨5, 6⟩⟩, [], [], ⟨5, 5⟩⟩],
        [⟨⟨"other", ⟨6, 5⟩⟩, some [⟨none, ⟨"String", ⟨6, 11⟩⟩, ⟨6, 11⟩⟩], ⟨6, 5⟩⟩], ⟨5, 5⟩⟩],
      ⟨4, 1⟩⟩, ⟨3, 1⟩⟩

theorem doors_read :
    parse ("@raw_representable[String]  # wide\n\nenum Door:\n    open , shut\n" ++
      "    @default_case\n    other(String)\n") = .ok [doors] := by
  decide +kernel

def narrowDoors : Declaration Position :=
  ⟨.enumKind, ⟨"Door", ⟨2, 6⟩⟩, [⟨⟨"raw_representable", ⟨1, 2⟩⟩, [⟨"String", ⟨1, 20⟩⟩], [], ⟨1, 1⟩⟩],
    ⟨[⟨[], [⟨⟨"open", ⟨3, 2⟩⟩, none, ⟨3, 2⟩⟩, ⟨⟨"shut", ⟨3, 7⟩⟩, none, ⟨3, 7⟩⟩], ⟨3, 2⟩⟩,
      ⟨[⟨⟨"default_case", ⟨4, 3⟩⟩, [], [], ⟨4, 2⟩⟩],
        [⟨⟨"other", ⟨5, 2⟩⟩, some [⟨none, ⟨"String", ⟨5, 8⟩⟩, ⟨5, 8⟩⟩], ⟨5, 2⟩⟩], ⟨4, 2⟩⟩],
      ⟨3, 1⟩⟩, ⟨2, 1⟩⟩

theorem doors_layout :
    doors ≠ narrowDoors ∧ doors.Alike narrowDoors {} ∧
      (∃ expansion, doors.expand {} = .ok expansion ∧ narrowDoors.expand {} = .ok expansion ∧
        expansion.tags.length = 30 ∧ ∀ tag ∈ expansion.tags, tag = none) ∧
      ∃ again, parse doors.text = .ok [again] ∧ again.shape = doors.shape ∧
        ∀ expansion, again.expand {} = .ok expansion ↔ doors.expand {} = .ok expansion := by
  have alike := Declaration.layout_is_immaterial.1 _ doors narrowDoors {} (by decide) (by decide)
  obtain ⟨again, parsed, same, expands⟩ := Declaration.layout_is_immaterial.2 _ [doors] doors_read doors
    (List.mem_singleton_self _)
  refine ⟨by decide, alike, ?_, again, parsed, same, fun expansion => (expands {} expansion).1⟩
  have expanded : doors.expand {} = .ok _ := rfl
  cases alike with
  | expanded expansion one two unlocated =>
    rw [expanded] at one
    cases one
    exact ⟨_, expanded, two, by decide, unlocated⟩
  | refused report other one =>
    rw [expanded] at one
    cases one

end RawMapping
