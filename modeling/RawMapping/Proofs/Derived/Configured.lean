import RawMapping.Proofs.Report.Locality

/-! Settings only suggest. Whether a declaration expands, what it expands to and what is wrong with it do
not depend on the settings. They choose the label of the placeholders that fixes add, and the case that is
proposed as the catch-all where none is marked. -/

set_option autoImplicit false

namespace RawMapping

variable {α : Type}

/-! ### Placeholders that are added -/

def Literal.unlabelled : Literal (Draft α) → Literal (Draft α)
  | .placeholder _ .added => .placeholder "" .added
  | literal => literal

def Argument.unlabelled (argument : Argument (Draft α)) : Argument (Draft α) :=
  { argument with value := argument.value.unlabelled }

def Attribute.unlabelled (attr : Attribute (Draft α)) : Attribute (Draft α) :=
  { attr with arguments := attr.arguments.map Argument.unlabelled }

def CaseLine.unlabelled (line : CaseLine (Draft α)) : CaseLine (Draft α) :=
  { line with attributes := line.attributes.map Attribute.unlabelled }

def Body.unlabelled (body : Body (Draft α)) : Body (Draft α) :=
  { body with lines := body.lines.map CaseLine.unlabelled }

def Declaration.unlabelled (declaration : Declaration (Draft α)) : Declaration (Draft α) :=
  { declaration with
    attributes := declaration.attributes.map Attribute.unlabelled
    body := declaration.body.unlabelled }

/-- The draft without the labels of the placeholders it adds. -/
def Node.unlabelled : Node (Draft α) → Node (Draft α)
  | .literal node => .literal node.unlabelled
  | .argument node => .argument node.unlabelled
  | .attr node => .attr node.unlabelled
  | .line node => .line node.unlabelled
  | .body node => .body node.unlabelled
  | .declaration node => .declaration node.unlabelled
  | node => node

def Change.unlabelled (change : Change α) : Change α :=
  { change with new := change.new.unlabelled }

def Fix.unlabelled (fix : Fix α) : Fix α :=
  if fix.kind = .addRawValue then { fix with changes := fix.changes.map Change.unlabelled } else fix

/-- A change that attaches an attribute has no other labels than the attribute. -/
theorem annotateCase_unlabelled {attr other : Attribute (Draft α)}
    (same : attr.unlabelled = other.unlabelled) (declaration : Declaration α) (record : CaseRecord α) :
    (annotateCase declaration record attr).unlabelled =
      (annotateCase declaration record other).unlabelled := by
  unfold annotateCase
  split
  · simp [Change.ofLine, Change.unlabelled, Node.unlabelled, CaseLine.unlabelled, same]
  · simp only [Change.ofBody, Change.unlabelled, Node.unlabelled, Body.unlabelled, List.map_flatMap]
    refine congrArg (fun lines => Change.mk _ (Node.body ⟨lines, _⟩)) ?_
    refine List.flatMap_congr fun placed _ => ?_
    split
    · simp [CaseLine.unlabelled, same]
    · rfl

theorem addRawValueFix_unlabelled (declaration : Declaration α) (record : CaseRecord α)
    (label other : String) :
    (addRawValueFix declaration record label).unlabelled =
      (addRawValueFix declaration record other).unlabelled := by
  have attr : (addedAttribute rawValueName
        [⟨none, .placeholder label (.added : Draft α), .added⟩]).unlabelled =
      (addedAttribute rawValueName [⟨none, .placeholder other .added, .added⟩]).unlabelled := rfl
  simp [Fix.unlabelled, addRawValueFix, annotateCase_unlabelled attr declaration record]

theorem Fix.old_unlabelled (fix : Fix α) :
    fix.unlabelled.changes.map (·.old) = fix.changes.map (·.old) := by
  unfold unlabelled
  split
  · simp [Change.unlabelled]
  · rfl

/-! ### One problem under two settings -/

/-- The diagnostics are the same but for the labels of placeholders that fixes add. -/
structure Diagnostic.Relabels (diagnostic other : Diagnostic α) : Prop where
  kind : diagnostic.kind = other.kind
  message : diagnostic.message = other.message
  anchor : diagnostic.anchor = other.anchor
  notes : diagnostic.notes = other.notes
  fixes : diagnostic.fixes.map Fix.unlabelled = other.fixes.map Fix.unlabelled

theorem Diagnostic.Relabels.refl (diagnostic : Diagnostic α) : diagnostic.Relabels diagnostic :=
  ⟨rfl, rfl, rfl, rfl, rfl⟩

theorem relabels_all (diagnostics : List (Diagnostic α)) :
    List.Forall₂ Diagnostic.Relabels diagnostics diagnostics :=
  List.forall₂_same.mpr fun diagnostic _ => .refl diagnostic

theorem Diagnostic.Relabels.targets {diagnostic other : Diagnostic α}
    (relabels : diagnostic.Relabels other) :
    diagnostic.fixes.map (·.changes.map (·.old)) = other.fixes.map (·.changes.map (·.old)) := by
  have olds := congrArg (List.map fun fix : Fix α => fix.changes.map (·.old)) relabels.fixes
  simpa [Fix.old_unlabelled, Function.comp_def] using olds

section

variable (inspection : Inspection α) (settings : Settings)

theorem Inspection.value_configured (seen : Seen α) (record : CaseRecord α) :
    (∃ found, inspection.value seen record = .ok found ∧
      { inspection with settings }.value seen record = .ok found) ∨
    ∃ problem other, inspection.value seen record = .error problem ∧
      { inspection with settings }.value seen record = .error other ∧ problem.Relabels other := by
  unfold Inspection.value
  cases record.resolve? inspection.rawType with
  | some pair =>
    -- nothing but a missing value is reported with a fix that adds a placeholder
    obtain ⟨literal, node⟩ := pair
    cases literal with
    | placeholder label tag => exact .inr ⟨_, _, rfl, rfl, .refl _⟩
    | string value tag | integer text tag =>
      dsimp only
      split
      · split
        · exact .inr ⟨_, _, rfl, rfl, .refl _⟩
        · exact .inl ⟨_, rfl, rfl⟩
      · exact .inr ⟨_, _, rfl, rfl, .refl _⟩
  | none =>
    dsimp only
    split
    · exact .inr ⟨_, _, rfl, rfl, .refl _⟩
    · refine .inr ⟨_, _, rfl, rfl, rfl, rfl, rfl, rfl, ?_⟩
      exact congrArg (fun fix => [fix]) (addRawValueFix_unlabelled _ record _ _)

theorem Inspection.cases_configured (seen : Seen α) (records : List (CaseRecord α)) :
    List.Forall₂ Diagnostic.Relabels (inspection.cases seen records).1
        ({ inspection with settings }.cases seen records).1 ∧
      ({ inspection with settings }.cases seen records).2 = (inspection.cases seen records).2 := by
  -- what was seen is the same too, so the induction is for all of it
  induction records generalizing seen with
  | nil => exact ⟨.nil, rfl⟩
  | cons record records ih =>
    by_cases marked : record.role = .catchAll
    · rw [inspection.cases_of_catchAll seen records marked,
        Inspection.cases_of_catchAll _ seen records marked]
      exact ⟨List.rel_append (relabels_all _) (ih seen).1, (ih seen).2⟩
    · rcases inspection.value_configured settings seen record with
        ⟨⟨literal, node⟩, found, also⟩ | ⟨problem, other, failed, also, relabels⟩
      · rw [inspection.cases_of_ok seen records marked found,
          Inspection.cases_of_ok _ seen records marked also]
        obtain ⟨problems, values⟩ := ih ((literal.text, node) :: seen)
        exact ⟨List.rel_append (relabels_all _) problems, congrArg (_ :: ·) values⟩
      · rw [inspection.cases_of_error seen records marked failed,
          Inspection.cases_of_error _ seen records marked also]
        exact ⟨List.rel_append (relabels_all _) (.cons relabels (ih seen).1), (ih seen).2⟩

end

/-! ### Reports -/

/-- What is said of a declaration without a catch-all, if one of the given name is wanted. -/
def Declaration.lack (declaration : Declaration α) (rawType caseName : String) : Diagnostic α :=
  missingDefault declaration rawType (defaultCandidate? declaration.records rawType caseName) caseName

/-- The diagnostics are what two settings say of one problem. They may differ in the labels of added
placeholders; and if the problem is that no case is marked as the catch-all, in the case that is proposed
for it, by the name that each of the settings asks for. -/
structure Declaration.Suggests (declaration : Declaration α) (first second : Settings)
    (diagnostic other : Diagnostic α) : Prop where
  kind : diagnostic.kind = other.kind
  message : diagnostic.message = other.message
  notes : diagnostic.notes = other.notes
  anchor : diagnostic.kind ≠ .missingDefault → diagnostic.anchor = other.anchor
  targets : diagnostic.kind ≠ .missingDefault →
    diagnostic.fixes.map (·.changes.map (·.old)) = other.fixes.map (·.changes.map (·.old))
  fixes : diagnostic.kind ≠ .missingDefault →
    diagnostic.fixes.map Fix.unlabelled = other.fixes.map Fix.unlabelled
  missing : diagnostic.kind = .missingDefault → ∃ attr rawType caseName otherName,
    declaration.findAttribute? annotationName = some attr ∧
      attr.caseName first = .ok caseName ∧ attr.caseName second = .ok otherName ∧
      diagnostic = declaration.lack rawType caseName ∧ other = declaration.lack rawType otherName

/-- What comes of one declaration under two settings. -/
inductive Declaration.Indifferent (declaration : Declaration α) (first second : Settings) : Prop where
  /-- It expands under both, to the same. -/
  | expanded (expansion : Expansion (Option α)) (one : declaration.expand first = .ok expansion)
      (two : declaration.expand second = .ok expansion)
  /-- It is refused under both, for the same reasons. -/
  | refused (report other : List (Diagnostic α))
      (one : declaration.expand first = .error (.rejected report))
      (two : declaration.expand second = .error (.rejected other))
      (agree : List.Forall₂ (declaration.Suggests first second) report other)

theorem Diagnostic.Relabels.suggests {diagnostic other : Diagnostic α}
    (relabels : diagnostic.Relabels other) (present : diagnostic.kind ≠ .missingDefault)
    (declaration : Declaration α) (first second : Settings) :
    declaration.Suggests first second diagnostic other where
  kind := relabels.kind
  message := relabels.message
  notes := relabels.notes
  anchor _ := relabels.anchor
  targets _ := relabels.targets
  fixes _ := relabels.fixes
  missing missing := absurd missing present

theorem suggests_of_offering {problems others : List (Diagnostic α)} {fixes : List (Fix α)}
    (offering : Offering problems fixes) (relabels : List.Forall₂ Diagnostic.Relabels problems others)
    (declaration : Declaration α) (first second : Settings) :
    List.Forall₂ (declaration.Suggests first second) problems others := by
  have present := offering.kinds
  clear offering
  induction relabels with
  | nil => exact .nil
  | cons head _ ih =>
    rw [List.forall_mem_cons] at present
    exact .cons (head.suggests (by simpa using present.1) declaration first second) (ih present.2)

theorem Attribute.caseName_configured (attr : Attribute α) (first second : Settings) :
    (∃ name other, attr.caseName first = .ok name ∧ attr.caseName second = .ok other) ∨
      ∃ problems, attr.caseName first = .error problems ∧ attr.caseName second = .error problems := by
  unfold caseName
  split
  · exact .inl ⟨_, _, rfl, rfl⟩
  · split
    · exact .inl ⟨_, _, rfl, rfl⟩
    · exact .inr ⟨_, rfl, rfl⟩

theorem Declaration.request_configured (declaration : Declaration α) (attr : Attribute α)
    (first second : Settings) :
    (∃ rawType name other, attr.caseName first = .ok name ∧ attr.caseName second = .ok other ∧
      declaration.request attr first = .ok (rawType, { first with defaultCaseName := name }) ∧
      declaration.request attr second = .ok (rawType, { second with defaultCaseName := other })) ∨
    ∃ problems, declaration.request attr first = .error problems ∧
      declaration.request attr second = .error problems := by
  unfold request shapeProblems
  cases attr.rawType with
  | error problems => exact .inr ⟨problems, rfl, rfl⟩
  | ok rawType =>
    by_cases kind : declaration.kind = .enumKind
    · rcases attr.caseName_configured first second with ⟨name, other, one, two⟩ | ⟨problems, one, two⟩
      · exact .inl ⟨rawType, name, other, one, two, by simp [kind, one], by simp [kind, two]⟩
      · exact .inr ⟨problems, by simp [kind, one], by simp [kind, two]⟩
    · exact .inr ⟨_, by simp [kind, throw, throwThe, MonadExceptOf.throw]; rfl,
        by simp [kind, throw, throwThe, MonadExceptOf.throw]⟩

/-- The mappings that two settings find are equal, or both settings find something wrong. -/
theorem Declaration.mapping_configured {declaration : Declaration α} {attr : Attribute α}
    (annotated : declaration.findAttribute? annotationName = some attr) {first second : Settings}
    {name other : String} (one : attr.caseName first = .ok name) (two : attr.caseName second = .ok other)
    (rawType : NamedType α) :
    (∃ mapping, declaration.mapping rawType { first with defaultCaseName := name } = .ok mapping ∧
      declaration.mapping rawType { second with defaultCaseName := other } = .ok mapping) ∨
    ∃ report others,
      declaration.mapping rawType { first with defaultCaseName := name } = .error report ∧
      declaration.mapping rawType { second with defaultCaseName := other } = .error others ∧
      List.Forall₂ (declaration.Suggests first second) report others := by
  cases found : declaration.records.find? (·.role == .catchAll) with
  | none =>
    -- nothing else is looked at, and each of the settings proposes a case of its own
    have lacks (settings : Settings) : declaration.mapping rawType settings =
        .error [declaration.lack rawType.name settings.defaultCaseName] := by
      simp only [mapping, found, lack]
    refine .inr ⟨_, _, lacks _, lacks _, .cons ⟨rfl, rfl, rfl, ?_, ?_, ?_, ?_⟩ .nil⟩
    · exact fun present => absurd rfl present
    · exact fun present => absurd rfl present
    · exact fun present => absurd rfl present
    · exact fun _ => ⟨attr, rawType.name, name, other, annotated, one, two, rfl, rfl⟩
  | some catchAll =>
    let inspection : Inspection α :=
      ⟨declaration, rawType.name, { first with defaultCaseName := name }, catchAll⟩
    have offering := inspection.offering_cases [] declaration.records
    obtain ⟨relabels, same⟩ := inspection.cases_configured { second with defaultCaseName := other } []
      declaration.records
    have suggests := suggests_of_offering offering relabels declaration first second
    rw [Declaration.mapping_eq_of_catchAll found, Declaration.mapping_eq_of_catchAll found]
    dsimp only [inspection] at suggests same ⊢
    rw [same]
    cases problems : (Inspection.cases ⟨declaration, rawType.name, _, catchAll⟩ [] declaration.records).1 with
    | nil =>
      rw [problems] at suggests
      rw [List.forall₂_nil_left_iff.mp suggests]
      exact .inl ⟨_, rfl, rfl⟩
    | cons problem _ =>
      rw [problems] at suggests
      obtain ⟨other, _, -, -, others⟩ := List.forall₂_cons_left_iff.mp suggests
      rw [others] at suggests ⊢
      exact .inr ⟨_, _, rfl, rfl, suggests⟩

/-- An annotated declaration expands under all settings or under none. The derived declarations are the
same under all; the reports differ only in what is suggested. What a fix replaces is told by its place, as
in a tree where no node stands at two places. -/
theorem Declaration.settings_only_suggest {declaration : Declaration α}
    (annotated : declaration.isAnnotated = true) (first second : Settings) :
    declaration.Indifferent first second := by
  obtain ⟨attr, found⟩ := Option.isSome_iff_exists.mp annotated
  have expand (settings : Settings) :
      declaration.expand settings = (declaration.expandAs attr settings).mapError .rejected := by
    simp only [Declaration.expand, found]
  rcases declaration.request_configured attr first second with
    ⟨rawType, name, other, one, two, asked, also⟩ | ⟨problems, failed, also⟩
  · rcases Declaration.mapping_configured found one two rawType with
      ⟨mapping, maps, agrees⟩ | ⟨report, others, wrong, agrees, suggests⟩
    · refine .expanded mapping.expansion ?_ ?_
      · simp [expand, expandAs, asked, maps, Except.mapError]
      · simp [expand, expandAs, also, agrees, Except.mapError]
    · refine .refused report others ?_ ?_ suggests
      · simp [expand, expandAs, asked, wrong, Except.mapError]
      · simp [expand, expandAs, also, agrees, Except.mapError]
  · refine .refused problems problems ?_ ?_ ?_
    · simp [expand, expandAs, failed, Except.mapError]
    · simp [expand, expandAs, also, Except.mapError]
    · exact suggests_of_offering (Declaration.offering_request failed) (relabels_all problems)
        declaration first second

/-- Under two labels the sides are refused for one reason, and only the placeholder that is suggested
differs. -/
theorem sides_suggest :
    sides.Indifferent {} { placeholderLabel := "code" } ∧
      sides.expand {} ≠ sides.expand { placeholderLabel := "code" } :=
  ⟨Declaration.settings_only_suggest (by decide) {} { placeholderLabel := "code" }, by decide +kernel⟩

end RawMapping
