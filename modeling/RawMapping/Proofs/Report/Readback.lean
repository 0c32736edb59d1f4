import RawMapping.Command.Behavior
import RawMapping.Proofs.Declaration.RoundTrip
import RawMapping.Proofs.Report.Progress

/-! Reading back what was fixed. A fix writes down two things that it was given: the name of a catch-all
that it adds, and the label of a placeholder. Everything else that it writes can be read. No later fix
takes either of them away, so the fixed text can be read back exactly if both can. -/

set_option autoImplicit false

namespace RawMapping

variable {α β : Type}

/-! ### Tags do not matter for printing -/

theorem Literal.printable_map (f : α → β) (literal : Literal α) :
    (literal.map f).Printable ↔ literal.Printable := by
  cases literal <;> exact Iff.rfl

theorem Argument.printable_map (f : α → β) (argument : Argument α) :
    (argument.map f).Printable ↔ argument.Printable :=
  ⟨fun printable => ⟨printable.label, (Literal.printable_map f _).mp printable.value⟩,
    fun printable => ⟨printable.label, (Literal.printable_map f _).mpr printable.value⟩⟩

theorem Attribute.printable_map (f : α → β) (attr : Attribute α) :
    (attr.map f).Printable ↔ attr.Printable := by
  constructor
  · rintro ⟨name, types, arguments⟩
    simp only [map, List.forall_mem_map, Argument.printable_map] at types arguments
    exact ⟨name, types, arguments⟩
  · rintro ⟨name, types, arguments⟩
    refine ⟨name, ?_, ?_⟩
    · rw [map, List.forall_mem_map]
      exact types
    · simpa only [map, List.forall_mem_map, Argument.printable_map] using arguments

theorem Variant.printable_map (f : α → β) (variant : Variant α) :
    (variant.map f).Printable ↔ variant.Printable := by
  obtain ⟨name, parameters, tag⟩ := variant
  have same : ∀ parameter : Parameter α, (parameter.map f).Printable ↔ parameter.Printable :=
    fun _ => ⟨fun printable => ⟨printable.label, printable.type⟩,
      fun printable => ⟨printable.label, printable.type⟩⟩
  cases parameters with
  | none => exact ⟨fun printable => ⟨printable.name, by simp⟩, fun printable => ⟨printable.name, by simp [map]⟩⟩
  | some parameters =>
    constructor
    · rintro ⟨name, fields⟩
      simp only [map, Option.map_some, Option.mem_some_iff, forall_eq', List.forall_mem_map, same] at fields
      exact ⟨name, by simpa using fields⟩
    · rintro ⟨name, fields⟩
      simp only [Option.mem_some_iff, forall_eq'] at fields
      exact ⟨name, by simpa [map, same] using fields⟩

theorem CaseLine.printable_map (f : α → β) (line : CaseLine α) :
    (line.map f).Printable ↔ line.Printable := by
  constructor
  · rintro ⟨attributes, nonempty, variants⟩
    simp only [map, List.forall_mem_map, Attribute.printable_map, Variant.printable_map, ne_eq,
      List.map_eq_nil_iff] at attributes nonempty variants
    exact ⟨attributes, nonempty, variants⟩
  · rintro ⟨attributes, nonempty, variants⟩
    refine ⟨?_, ?_, ?_⟩
    · simpa only [map, List.forall_mem_map, Attribute.printable_map] using attributes
    · simpa only [map, ne_eq, List.map_eq_nil_iff] using nonempty
    · simpa only [map, List.forall_mem_map, Variant.printable_map] using variants

theorem Declaration.printable_map (f : α → β) (declaration : Declaration α) :
    (declaration.map f).Printable ↔ declaration.Printable := by
  constructor
  · rintro ⟨name, attributes, body, lines⟩
    simp only [map, Body.map, List.forall_mem_map, Attribute.printable_map, CaseLine.printable_map,
      List.map_eq_nil_iff] at attributes body lines
    exact ⟨name, attributes, body, lines⟩
  · rintro ⟨name, attributes, body, lines⟩
    refine ⟨name, ?_, ?_, ?_⟩
    · simpa only [map, List.forall_mem_map, Attribute.printable_map] using attributes
    · simpa only [map, Body.map, List.map_eq_nil_iff] using body
    · simpa only [map, Body.map, List.forall_mem_map, CaseLine.printable_map] using lines

theorem Declaration.printable_shape (declaration : Declaration α) :
    declaration.shape.Printable ↔ declaration.Printable :=
  declaration.printable_map fun _ => ()

/-! ### Runs -/

/-- Fixes of these kinds, one after the other. -/
inductive MendsAll (rawType label : String) :
    List FixKind → List (CaseLine Unit) → List (CaseLine Unit) → Prop where
  | nil {lines : List (CaseLine Unit)} : MendsAll rawType label [] lines lines
  | cons {kind : FixKind} {kinds : List FixKind} {lines mended result : List (CaseLine Unit)} :
      Mends rawType label kind lines mended → MendsAll rawType label kinds mended result →
      MendsAll rawType label (kind :: kinds) lines result

def FixRun.kinds (run : FixRun) : List FixKind :=
  run.passes.map (·.2.kind)

/-- With a catch-all in place, a run mends the lines one fix after the other. -/
theorem Edited.Coherent.mendsAll {edited : Edited} (coherent : edited.Coherent)
    {settings changed : Settings} {rawType : String}
    (asks : edited.root.asks settings = some (rawType, changed))
    (marked : ∃ line ∈ edited.root.body.lines, line.Marks) (limit : Nat) :
    ∃ lines, (edited.fix settings limit).result.root.shape =
        { edited.root.shape with body := ⟨lines, ()⟩ } ∧
      MendsAll rawType settings.placeholderLabel (edited.fix settings limit).kinds
        edited.root.shape.body.lines lines := by
  -- by induction on the passes that are allowed; the catch-all stays, so no pass adds one
  induction limit generalizing edited with
  | zero =>
    refine ⟨edited.root.shape.body.lines, ?_⟩
    rw [Edited.fix_eq]
    cases firstFix? (edited.root.report settings) with
    | none => exact ⟨rfl, .nil⟩
    | some fix => exact ⟨rfl, .nil⟩
  | succ limit ih =>
    cases first : firstFix? (edited.root.report settings) with
    | none =>
      rw [Edited.fix_of_none first]
      exact ⟨edited.root.shape.body.lines, rfl, .nil⟩
    | some fix =>
      obtain ⟨lines, ⟨next, applied, nextCoherent, shape⟩, passes⟩ := coherent.pass first
      have nextMarked := passes.exists_marks shape
      have nextAsks := (Declaration.asks_of_shape shape settings).trans asks
      cases passes with
      | completes _ unmarked _ _ =>
        obtain ⟨line, member, marks⟩ := marked
        exact absurd marks (unmarked line member)
      | mends asked _ mends =>
        rw [asks] at asked
        cases asked
        obtain ⟨result, resultShape, rest⟩ := ih nextCoherent nextAsks nextMarked
        rw [Edited.fix_of_some first applied]
        refine ⟨result, ?_, ?_⟩
        · dsimp only
          rw [resultShape, shape]
        · rw [shape] at rest
          exact .cons mends rest

/-! ### What can be printed stays so -/

section

variable {rawType label : String} {kind : FixKind} {line : CaseLine Unit}
  {lines mended : List (CaseLine Unit)}

theorem rawValueName_isIdentifier : IsIdentifier rawValueName := ⟨_, _, rfl, rfl⟩

theorem placeholderValue_printable (written : IsLabel label) : (placeholderValue label).Printable where
  name := rawValueName_isIdentifier
  typeArguments := List.forall_mem_nil _
  arguments := List.forall_mem_singleton.mpr ⟨by simp, written⟩

theorem catchAllMark_printable : catchAllMark.Printable where
  name := ⟨_, _, rfl, rfl⟩
  typeArguments := List.forall_mem_nil _
  arguments := List.forall_mem_nil _

theorem rawPayload_printable (type : IsIdentifier rawType) :
    ∀ parameter ∈ rawPayload rawType, parameter.Printable :=
  List.forall_mem_singleton.mpr ⟨by simp, type⟩

theorem CaseLine.Annotates.printable {admits : CaseLine Unit → Prop} {attr : Attribute Unit}
    (annotates : line.Annotates admits attr mended) (printable : line.Printable)
    (written : attr.Printable) : ∀ other ∈ mended, other.Printable := by
  cases annotates with
  | first some _ =>
    refine List.forall_mem_singleton.mpr ⟨?_, some, printable.variants⟩
    exact List.forall_mem_append.mpr ⟨printable.attributes, List.forall_mem_singleton.mpr written⟩
  | other nonempty variants =>
    have all := printable.variants
    rw [variants, List.forall_mem_append, List.forall_mem_cons] at all
    refine List.forall_mem_cons.mpr ⟨⟨printable.attributes, by simp [nonempty], ?_⟩,
      List.forall_mem_singleton.mpr ⟨List.forall_mem_singleton.mpr written, by simp,
        List.forall_mem_singleton.mpr all.2.1⟩⟩
    exact List.forall_mem_append.mpr ⟨all.1, all.2.2⟩

theorem CaseLine.Mends.printable (mends : line.Mends rawType label kind mended)
    (printable : line.Printable) (written : kind = .addRawValue → IsLabel label) :
    ∀ other ∈ mended, other.Printable := by
  cases mends with
  | dropExtra some _ attributes _ _ =>
    have all := printable.attributes
    rw [attributes, List.forall_mem_append, List.forall_mem_cons] at all
    exact List.forall_mem_singleton.mpr
      ⟨List.forall_mem_append.mpr ⟨all.1, all.2.2⟩, some, printable.variants⟩
  | dropAll marks _ =>
    refine List.forall_mem_singleton.mpr ⟨?_, marks.1, printable.variants⟩
    intro attr member
    exact printable.attributes attr (List.mem_filter.mp member).1
  | quote _ some _ attributes _ _ arguments =>
    have all := printable.attributes
    rw [attributes, List.forall_mem_append, List.forall_mem_cons] at all
    obtain ⟨early, ⟨name, types, values⟩, late⟩ := all
    rw [arguments, List.forall_mem_singleton] at values
    refine List.forall_mem_singleton.mpr ⟨?_, some, printable.variants⟩
    refine List.forall_mem_append.mpr ⟨early, List.forall_mem_cons.mpr ⟨⟨name, types, ?_⟩, late⟩⟩
    exact List.forall_mem_singleton.mpr ⟨values.label, trivial⟩
  | value _ annotates => exact annotates.printable printable (placeholderValue_printable (written rfl))

theorem Mends.printable (mends : Mends rawType label kind lines mended)
    (printable : ∀ line ∈ lines, line.Printable) (type : IsIdentifier rawType)
    (written : kind = .addRawValue → IsLabel label) : ∀ line ∈ mended, line.Printable := by
  cases mends with
  | line mends =>
    rw [List.forall_mem_append, List.forall_mem_cons] at printable
    obtain ⟨early, here, late⟩ := printable
    exact List.forall_mem_append.mpr
      ⟨early, List.forall_mem_append.mpr ⟨mends.printable here written, late⟩⟩
  | payload _ _ variants _ =>
    rw [List.forall_mem_append, List.forall_mem_cons] at printable
    obtain ⟨early, ⟨attributes, _, all⟩, late⟩ := printable
    rw [variants, List.forall_mem_cons] at all
    refine List.forall_mem_append.mpr ⟨early, List.forall_mem_cons.mpr ⟨⟨attributes, by simp, ?_⟩, late⟩⟩
    refine List.forall_mem_cons.mpr ⟨⟨all.1.name, ?_⟩, all.2⟩
    rintro parameters ⟨⟩
    exact rawPayload_printable type

theorem MendsAll.printable {kinds : List FixKind} (mends : MendsAll rawType label kinds lines mended)
    (printable : ∀ line ∈ lines, line.Printable) (type : IsIdentifier rawType)
    (written : .addRawValue ∈ kinds → IsLabel label) : ∀ line ∈ mended, line.Printable := by
  induction mends with
  | nil => exact printable
  | cons step _ ih =>
    refine ih (step.printable printable type ?_) ?_
    · rintro rfl
      exact written List.mem_cons_self
    · intro later
      exact written (List.mem_cons_of_mem _ later)

/-- Adding a catch-all writes a name only if no case can be marked. -/
theorem Completes.printable {caseName : String} {candidate? : Option (CaseRecord Stamp)}
    (completes : Completes rawType caseName candidate? lines mended)
    (printable : ∀ line ∈ lines, line.Printable) (type : IsIdentifier rawType)
    (named : candidate? = none → IsIdentifier caseName) : ∀ line ∈ mended, line.Printable := by
  cases completes with
  | mark annotates =>
    rw [List.forall_mem_append, List.forall_mem_cons] at printable
    obtain ⟨early, here, late⟩ := printable
    exact List.forall_mem_append.mpr ⟨early,
      List.forall_mem_append.mpr ⟨annotates.printable here catchAllMark_printable, late⟩⟩
  | add =>
    refine List.forall_mem_append.mpr ⟨printable, List.forall_mem_singleton.mpr ?_⟩
    refine ⟨List.forall_mem_singleton.mpr catchAllMark_printable, by simp [addedCatchAll], ?_⟩
    refine List.forall_mem_singleton.mpr ⟨named rfl, ?_⟩
    rintro parameters ⟨⟩
    exact rawPayload_printable type

end

/-! ### What is written stays -/

def HasCase (name : String) (lines : List (CaseLine Unit)) : Prop :=
  ∃ line ∈ lines, ∃ variant ∈ line.variants, variant.name.text = name

def CaseLine.Unfilled (line : CaseLine Unit) (label : String) : Prop :=
  ¬ line.Carries defaultCaseName ∧
    line.attributes.filter (·.isNamed rawValueName) = [placeholderValue label]

section

variable {rawType label : String} {kind : FixKind} {line : CaseLine Unit}
  {lines mended : List (CaseLine Unit)}

theorem CaseLine.Annotates.keeps_variants {admits : CaseLine Unit → Prop} {attr : Attribute Unit}
    (annotates : line.Annotates admits attr mended) {variant : Variant Unit}
    (member : variant ∈ line.variants) : ∃ other ∈ mended, variant ∈ other.variants := by
  cases annotates with
  | first _ _ => exact ⟨_, List.mem_singleton_self _, member⟩
  | @other front back moved nonempty variants =>
    rw [variants, List.mem_append, List.mem_cons] at member
    rcases member with early | rfl | late
    · exact ⟨_, List.mem_cons_self, List.mem_append_left _ early⟩
    · exact ⟨_, List.mem_cons_of_mem _ List.mem_cons_self, List.mem_singleton_self _⟩
    · exact ⟨_, List.mem_cons_self, List.mem_append_right _ late⟩

theorem CaseLine.Mends.keeps_variants (mends : line.Mends rawType label kind mended)
    {variant : Variant Unit} (member : variant ∈ line.variants) :
    ∃ other ∈ mended, variant ∈ other.variants := by
  cases mends with
  | value _ annotates => exact annotates.keeps_variants member
  | dropExtra => exact ⟨_, List.mem_singleton_self _, member⟩
  | dropAll => exact ⟨_, List.mem_singleton_self _, member⟩
  | quote => exact ⟨_, List.mem_singleton_self _, member⟩

/-- What a line's replacement takes over from it stays among the lines. -/
theorem exists_mem_splice {holds : CaseLine Unit → Prop} {before after : List (CaseLine Unit)}
    (replacement : List (CaseLine Unit)) (kept : holds line → ∃ other ∈ replacement, holds other)
    (there : ∃ other ∈ before ++ line :: after, holds other) :
    ∃ other ∈ before ++ (replacement ++ after), holds other := by
  obtain ⟨other, member, held⟩ := there
  rcases List.mem_append.mp member with early | here
  · exact ⟨other, List.mem_append_left _ early, held⟩
  · rcases List.mem_cons.mp here with rfl | late
    · obtain ⟨new, inside, still⟩ := kept held
      exact ⟨new, List.mem_append_right _ (List.mem_append_left _ inside), still⟩
    · exact ⟨other, List.mem_append_right _ (List.mem_append_right _ late), held⟩

theorem MendsAll.keeps {holds : List (CaseLine Unit) → Prop} {kinds : List FixKind}
    (step : ∀ {kind lines mended}, Mends rawType label kind lines mended → holds lines → holds mended)
    (mends : MendsAll rawType label kinds lines mended) (there : holds lines) : holds mended := by
  induction mends with
  | nil => exact there
  | cons first _ ih => exact ih (step first there)

theorem Mends.hasCase {name : String} (mends : Mends rawType label kind lines mended)
    (there : HasCase name lines) : HasCase name mended := by
  cases mends with
  | line mends =>
    refine exists_mem_splice _ ?_ there
    rintro ⟨variant, inside, named⟩
    obtain ⟨other, kept, still⟩ := mends.keeps_variants inside
    exact ⟨other, kept, variant, still, named⟩
  | payload _ _ variants _ =>
    refine exists_mem_splice [_] ?_ there
    rintro ⟨variant, inside, named⟩
    rw [variants, List.mem_cons] at inside
    refine ⟨_, List.mem_singleton_self _, ?_⟩
    rcases inside with rfl | other
    · exact ⟨_, List.mem_cons_self, named⟩
    · exact ⟨variant, List.mem_cons_of_mem _ other, named⟩

theorem CaseLine.Mends.keeps_unfilled {written : String} (mends : line.Mends rawType label kind mended)
    (unfilled : line.Unfilled written) : ∃ other ∈ mended, other.Unfilled written := by
  obtain ⟨unmarked, only⟩ := unfilled
  cases mends with
  | @dropExtra _ front back extra _ _ attributes given named =>
    -- the first raw value and the further one would both be the placeholder
    obtain ⟨attr, member, isRaw⟩ := given
    have first : attr ∈ front.filter (·.isNamed rawValueName) := List.mem_filter.mpr ⟨member, isRaw⟩
    have some := List.length_pos_of_mem first
    rw [attributes, List.filter_append, List.filter_cons, if_pos named] at only
    have count := congrArg List.length only
    simp only [List.length_append, List.length_cons, List.length_nil] at count
    omega
  | dropAll marks _ => exact absurd marks.2 unmarked
  | @quote _ front back attr _ _ _ _ _ attributes _ named arguments =>
    -- a placeholder is no integer
    have member : attr ∈ line.attributes.filter (·.isNamed rawValueName) :=
      List.mem_filter.mpr ⟨by simp [attributes], named⟩
    rw [only, List.mem_singleton] at member
    rw [member] at arguments
    simp [placeholderValue] at arguments
  | value _ annotates =>
    cases annotates with
    | first _ admitted =>
      refine absurd (line.carries_rawValue_iff.mpr ?_) admitted.2
      rw [only]
      simp
    | other nonempty variants => exact ⟨_, List.mem_cons_self, unmarked, only⟩

theorem Mends.keeps_unfilled {written : String} (mends : Mends rawType label kind lines mended)
    (there : ∃ line ∈ lines, line.Unfilled written) : ∃ line ∈ mended, line.Unfilled written := by
  cases mends with
  | line mends => exact exists_mem_splice _ mends.keeps_unfilled there
  | payload _ marked _ _ =>
    exact exists_mem_splice [_] (fun unfilled => absurd marked unfilled.1) there

theorem CaseLine.Mends.unfilled (mends : line.Mends rawType label .addRawValue mended) :
    ∃ other ∈ mended, other.Unfilled label := by
  cases mends with
  | value _ annotates =>
    cases annotates with
    | first _ admitted =>
      obtain ⟨unmarked, unvalued⟩ := admitted
      refine ⟨_, List.mem_singleton_self _, ?_, ?_⟩
      · rintro ⟨attr, member, isMark⟩
        rcases List.mem_append.mp member with old | new
        · exact unmarked ⟨attr, old, isMark⟩
        · rw [List.mem_singleton.mp new] at isMark
          exact placeholderValue_not_mark isMark
      · rw [line.carries_rawValue_iff, ne_eq, not_not] at unvalued
        rw [List.filter_append, unvalued]
        rfl
    | other nonempty variants =>
      refine ⟨_, List.mem_cons_of_mem _ List.mem_cons_self, ?_, rfl⟩
      rintro ⟨attr, member, isMark⟩
      rw [List.mem_singleton.mp member] at isMark
      exact placeholderValue_not_mark isMark

theorem Mends.unfilled (mends : Mends rawType label .addRawValue lines mended) :
    ∃ line ∈ mended, line.Unfilled label := by
  cases mends with
  | line mends =>
    obtain ⟨other, member, unfilled⟩ := mends.unfilled
    exact ⟨other, by simp [member], unfilled⟩

theorem MendsAll.unfilled {kinds : List FixKind} (mends : MendsAll rawType label kinds lines mended)
    (added : .addRawValue ∈ kinds) : ∃ line ∈ mended, line.Unfilled label := by
  induction mends with
  | nil => cases added
  | cons step rest ih =>
    rcases List.mem_cons.mp added with rfl | later
    · exact rest.keeps Mends.keeps_unfilled step.unfilled
    · exact ih later

end

theorem isIdentifier_of_hasCase {name : String} {lines : List (CaseLine Unit)}
    (there : HasCase name lines) (printable : ∀ line ∈ lines, line.Printable) : IsIdentifier name := by
  obtain ⟨line, member, variant, inside, rfl⟩ := there
  exact ((printable line member).variants variant inside).name

theorem isLabel_of_unfilled {label : String} {lines : List (CaseLine Unit)}
    (there : ∃ line ∈ lines, line.Unfilled label) (printable : ∀ line ∈ lines, line.Printable) :
    IsLabel label := by
  obtain ⟨line, member, -, only⟩ := there
  have inside : placeholderValue label ∈ line.attributes.filter (·.isNamed rawValueName) := by
    rw [only]
    exact List.mem_singleton_self _
  have attr := (printable line member).attributes _ (List.mem_filter.mp inside).1
  exact (attr.arguments _ (List.mem_singleton_self _)).value

/-! ### One declaration -/

/-- A catch-all of the given name has to be added: no case is marked, and none can be. -/
def Declaration.NeedsCase (declaration : Declaration α) (settings : Settings) (name : String) : Prop :=
  ∃ rawType changed, declaration.asks settings = some (rawType, changed) ∧
    changed.defaultCaseName = name ∧ ∀ line ∈ declaration.body.lines, ¬ line.Marks ∧
      ∀ variant ∈ line.variants, variant.name.text ≠ name ∧ variant.hasRawPayload rawType = false

theorem Declaration.needsCase_shape (declaration : Declaration α) (settings : Settings) (name : String) :
    declaration.shape.NeedsCase settings name ↔ declaration.NeedsCase settings name := by
  have lines : declaration.shape.body.lines = declaration.body.lines.map CaseLine.shape := rfl
  simp only [NeedsCase, asks_shape, lines, List.forall_mem_map, CaseLine.shape, CaseLine.marks_map]
  simp only [CaseLine.map, List.forall_mem_map, Variant.hasRawPayload_map]
  rfl

theorem CaseLine.map_variant_records (line : CaseLine α) (lineIndex : Nat) :
    (line.records lineIndex).map (·.variant) = line.variants := by
  cases variants : line.variants with
  | nil => simp [records, variants]
  | cons first others =>
    rw [records_of_cons variants, List.map_cons, List.map_map]
    exact congrArg (first :: ·) (List.zipIdx_map_fst 1 others)

theorem Declaration.map_variant_records (declaration : Declaration α) :
    declaration.records.map (·.variant) = declaration.body.lines.flatMap (·.variants) := by
  rw [records, List.map_flatMap]
  simp only [CaseLine.map_variant_records]
  rw [← List.flatMap_map Prod.fst, List.zipIdx_map_fst]

theorem Declaration.defaultCandidate?_eq_none_iff (declaration : Declaration α) (rawType name : String) :
    defaultCandidate? declaration.records rawType name = none ↔
      ∀ line ∈ declaration.body.lines, ∀ variant ∈ line.variants,
        variant.name.text ≠ name ∧ variant.hasRawPayload rawType = false := by
  have byVariant : ∀ holds : Variant α → Prop, (∀ record ∈ declaration.records, holds record.variant) ↔
      ∀ line ∈ declaration.body.lines, ∀ variant ∈ line.variants, holds variant := by
    intro holds
    rw [← List.forall_mem_flatMap, ← declaration.map_variant_records, List.forall_mem_map]
  rw [← byVariant, defaultCandidate?, Option.or_eq_none_iff, List.find?_eq_none, List.find?_eq_none]
  simp only [CaseRecord.name, beq_iff_eq, Bool.not_eq_true]
  exact forall₂_and.symm

theorem Declaration.kind_of_asks {declaration : Declaration α} {settings changed : Settings}
    {rawType : String} (asks : declaration.asks settings = some (rawType, changed)) :
    declaration.kind = .enumKind := by
  obtain ⟨attr, -, requested⟩ := Option.bind_eq_some_iff.mp asks
  rw [Declaration.toOption_request] at requested
  split at requested
  · next kind => exact kind
  · cases requested

theorem Declaration.Printable.rawType {declaration : Declaration α} (printable : declaration.Printable)
    {settings changed : Settings} {rawType : String}
    (asks : declaration.asks settings = some (rawType, changed)) : IsIdentifier rawType := by
  obtain ⟨attr, type, found, named, requested⟩ := Declaration.exists_request asks
  have requests := ((declaration.request_isOk_iff attr settings rawType).mp
    ⟨type, changed, named, requested⟩).1
  obtain ⟨type, single, rfl⟩ := List.map_eq_singleton_iff.mp requests.typeArgument
  exact (printable.attributes attr (List.mem_of_find?_eq_some found)).typeArguments type
    (by simp [single])

theorem Declaration.Printable.of_shape {root : Declaration Stamp} (printable : root.Printable)
    (kind : root.kind = .enumKind) {other : Declaration Stamp} {lines : List (CaseLine Unit)}
    (shape : other.shape = { root.shape with body := ⟨lines, ()⟩ }) :
    other.Printable ↔ ∀ line ∈ lines, line.Printable := by
  have rootShape := root.printable_shape.mpr printable
  rw [← other.printable_shape, shape]
  exact ⟨fun whole => whole.lines,
    fun all => ⟨rootShape.name, rootShape.attributes, fun other => absurd kind other, all⟩⟩

theorem Edited.Coherent.printable_fix_marked {edited : Edited} (coherent : edited.Coherent)
    (printable : edited.root.Printable) {settings changed : Settings} {rawType : String}
    (asks : edited.root.asks settings = some (rawType, changed))
    (marked : ∃ line ∈ edited.root.body.lines, line.Marks) (limit : Nat) :
    (edited.fix settings limit).result.root.Printable ↔
      (.addRawValue ∈ (edited.fix settings limit).kinds → IsLabel settings.placeholderLabel) := by
  obtain ⟨lines, shape, mends⟩ := coherent.mendsAll asks marked limit
  have start := (edited.root.printable_shape.mpr printable).lines
  rw [printable.of_shape (Declaration.kind_of_asks asks) shape]
  constructor
  · intro all added
    exact isLabel_of_unfilled (mends.unfilled added) all
  · intro written
    exact mends.printable start (printable.rawType asks) written

/-- Without a catch-all, the first pass writes its name if there is no candidate. -/
theorem Edited.Coherent.printable_fix_unmarked {edited : Edited} (coherent : edited.Coherent)
    (printable : edited.root.Printable) {settings changed : Settings} {rawType : String}
    (asks : edited.root.asks settings = some (rawType, changed))
    (unmarked : ∀ line ∈ edited.root.body.lines, ¬ line.Marks) (limit : Nat) :
    (edited.fix settings (limit + 1)).result.root.Printable ↔
      (defaultCandidate? edited.root.records rawType changed.defaultCaseName = none →
        IsIdentifier changed.defaultCaseName) ∧
      (.addRawValue ∈ (edited.fix settings (limit + 1)).kinds → IsLabel settings.placeholderLabel) := by
  have fixable : 0 < fixableCount (edited.root.report settings) := by
    rw [Declaration.report_of_unmarked asks unmarked]
    exact Nat.one_pos
  -- the first pass puts a catch-all in place, and the rest of the run mends what is there
  obtain ⟨fix, first⟩ := exists_firstFix fixable
  obtain ⟨lines, ⟨next, applied, nextCoherent, shape⟩, passes⟩ := coherent.pass first
  have nextMarked := passes.exists_marks shape
  have nextAsks := (Declaration.asks_of_shape shape settings).trans asks
  have type := printable.rawType asks
  have start := (edited.root.printable_shape.mpr printable).lines
  cases passes with
  | mends _ marked _ =>
    obtain ⟨line, member, marks⟩ := marked
    exact absurd marks (unmarked line member)
  | completes asked _ added completes =>
    rw [asks] at asked
    cases asked
    obtain ⟨result, resultShape, mends⟩ := nextCoherent.mendsAll nextAsks nextMarked limit
    have wholeShape : (next.fix settings limit).result.root.shape =
        { edited.root.shape with body := ⟨result, ()⟩ } := by
      rw [resultShape, shape]
    rw [shape] at mends
    have kinds : .addRawValue ∈ (edited.fix settings (limit + 1)).kinds ↔
        .addRawValue ∈ (next.fix settings limit).kinds := by
      rw [Edited.fix_of_some first applied]
      simp [FixRun.kinds, added]
    rw [kinds, Edited.fix_of_some first applied,
      printable.of_shape (Declaration.kind_of_asks asks) wholeShape]
    constructor
    · intro all
      refine ⟨fun none => ?_, fun added => isLabel_of_unfilled (mends.unfilled added) all⟩
      rw [none] at completes
      cases completes with
      | add =>
        have there : HasCase changed.defaultCaseName
            (edited.root.shape.body.lines ++ [addedCatchAll rawType changed.defaultCaseName]) :=
          ⟨_, List.mem_append_right _ (List.mem_singleton_self _), _, List.mem_singleton_self _, rfl⟩
        exact isIdentifier_of_hasCase (mends.keeps Mends.hasCase there) all
    · rintro ⟨named, written⟩
      exact mends.printable (completes.printable start type named) type written

/-- A fixed declaration can be printed exactly if the name and the label that were written can be. -/
theorem Edited.Coherent.printable_fix_iff {edited : Edited} (coherent : edited.Coherent)
    (printable : edited.root.Printable) (settings : Settings) {limit : Nat} (positive : 1 ≤ limit) :
    (edited.fix settings limit).result.root.Printable ↔
      (∀ name, edited.root.NeedsCase settings name → IsIdentifier name) ∧
      (.addRawValue ∈ (edited.fix settings limit).kinds → IsLabel settings.placeholderLabel) := by
  -- three ways: nothing is asked for, a case is marked already, or the first fix has to mark one
  cases asks : edited.root.asks settings with
  | none =>
    have silent : firstFix? (edited.root.report settings) = none := by
      rw [firstFix?_eq_head?, (Declaration.offering_of_asks_none asks).all]
      rfl
    rw [Edited.fix_of_none silent]
    refine iff_of_true printable ⟨?_, nofun⟩
    rintro name ⟨rawType, changed, asked, -⟩
    rw [asks] at asked
    cases asked
  | some request =>
    obtain ⟨rawType, changed⟩ := request
    by_cases marked : ∃ line ∈ edited.root.body.lines, line.Marks
    · have none : ∀ name, edited.root.NeedsCase settings name → IsIdentifier name := by
        rintro name ⟨_, _, -, -, unmarked⟩
        obtain ⟨line, member, marks⟩ := marked
        exact absurd marks (unmarked line member).1
      rw [coherent.printable_fix_marked printable asks marked limit]
      exact ⟨fun written => ⟨none, written⟩, fun both => both.2⟩
    · have unmarked : ∀ line ∈ edited.root.body.lines, ¬ line.Marks := by simpa using marked
      have needs : (defaultCandidate? edited.root.records rawType changed.defaultCaseName = none →
          IsIdentifier changed.defaultCaseName) ↔
            ∀ name, edited.root.NeedsCase settings name → IsIdentifier name := by
        rw [Declaration.defaultCandidate?_eq_none_iff]
        constructor
        · rintro named name ⟨_, _, asked, rfl, absent⟩
          rw [asks] at asked
          cases asked
          exact named fun line member => (absent line member).2
        · intro named absent
          exact named _ ⟨rawType, changed, asks, rfl,
            fun line member => ⟨unmarked line member, absent line member⟩⟩
      obtain ⟨limit, rfl⟩ := Nat.exists_eq_add_of_le' positive
      rw [coherent.printable_fix_unmarked printable asks unmarked limit, needs]

/-! ### The text of all declarations -/

/-- Declarations read back from their text exactly if all of them can be printed. -/
theorem readsBack_iff_printable (declarations : List (Declaration α)) :
    (∃ again, parse (declarationsText declarations) = .ok again ∧
      again.map Declaration.shape = declarations.map Declaration.shape) ↔
        ∀ declaration ∈ declarations, declaration.Printable := by
  constructor
  · rintro ⟨again, read, same⟩ declaration member
    have inside : declaration.shape ∈ again.map Declaration.shape := by
      rw [same]
      exact List.mem_map_of_mem member
    obtain ⟨other, found, shape⟩ := List.mem_map.mp inside
    rw [← declaration.printable_shape, ← shape, other.printable_shape]
    exact printable_of_parse read other found
  · intro printable
    exact parse_declarationsText printable

theorem printable_loaded_iff {declaration : Declaration (Option Location)}
    (printable : declaration.Printable) (settings : Settings) {limit : Nat} (positive : 1 ≤ limit) :
    ((Edited.load 0 declaration).fix settings limit).result.root.Printable ↔
      (∀ name, declaration.NeedsCase settings name → IsIdentifier name) ∧
      (.addRawValue ∈ ((Edited.load 0 declaration).fix settings limit).kinds →
        IsLabel settings.placeholderLabel) := by
  have shape := Edited.shape_load 0 declaration
  have rootPrintable : (Edited.load 0 declaration).root.Printable := by
    rwa [← Declaration.printable_shape, shape, declaration.printable_shape]
  have needs : ∀ name, (Edited.load 0 declaration).root.NeedsCase settings name ↔
      declaration.NeedsCase settings name := by
    intro name
    rw [← Declaration.needsCase_shape, shape, declaration.needsCase_shape]
  rw [(Edited.coherent_load 0 declaration).printable_fix_iff rootPrintable settings positive]
  simp only [needs]

/-- The text that the fixed declarations are printed as reads back exactly if every name that fixing adds
for a catch-all is an identifier, and the label of the placeholders that it adds, if it adds any, can stand
in one. It is this text that is written to a file; what a console shows of it may lack control sequences. -/
theorem fixed_readsBack_iff {source : String} {declarations : List (Declaration Position)}
    (read : parse source = .ok declarations) (file : String) (settings : Settings)
    (positive : 1 ≤ settings.maxFixPasses) :
    (∃ again, parse (fixedText (fixAll settings (locate file declarations))) = .ok again ∧
      again.map Declaration.shape =
        (fixAll settings (locate file declarations)).map (·.result.root.shape)) ↔
      (∀ declaration ∈ declarations, ∀ name, declaration.NeedsCase settings name → IsIdentifier name) ∧
      ((∃ run ∈ fixAll settings (locate file declarations), .addRawValue ∈ run.kinds) →
        IsLabel settings.placeholderLabel) := by
  have printable : ∀ declaration ∈ locate file declarations, declaration.Printable := by
    rw [locate, List.forall_mem_map]
    intro declaration member
    exact (declaration.printable_map _).mpr (printable_of_parse read declaration member)
  -- positions do not matter for the name that is needed
  have needs : (∀ declaration ∈ declarations, ∀ name, declaration.NeedsCase settings name →
      IsIdentifier name) ↔ ∀ declaration ∈ locate file declarations, ∀ name,
        declaration.NeedsCase settings name → IsIdentifier name := by
    rw [locate, List.forall_mem_map]
    simp only [← Declaration.needsCase_shape (Declaration.map _ _), Declaration.shape_map,
      Declaration.needsCase_shape]
  have back := readsBack_iff_printable
    ((fixAll settings (locate file declarations)).map (·.result.root))
  rw [List.map_map, List.forall_mem_map] at back
  refine back.trans ?_
  rw [needs, fixAll, List.forall_mem_map]
  constructor
  · intro all
    refine ⟨fun declaration member => ?_, ?_⟩
    · exact ((printable_loaded_iff (printable declaration member) settings positive).mp
        (all declaration member)).1
    · rintro ⟨run, inside, added⟩
      obtain ⟨declaration, member, rfl⟩ := List.mem_map.mp inside
      exact ((printable_loaded_iff (printable declaration member) settings positive).mp
        (all declaration member)).2 added
  · rintro ⟨named, written⟩ declaration member
    refine (printable_loaded_iff (printable declaration member) settings positive).mpr
      ⟨named declaration member, fun added => written ⟨_, List.mem_map_of_mem member, added⟩⟩

def lamp : Declaration Position :=
  ⟨.enumKind, ⟨"Lamp", ⟨2, 6⟩⟩, [⟨⟨"raw_representable", ⟨1, 2⟩⟩, [⟨"Int", ⟨1, 20⟩⟩], [], ⟨1, 1⟩⟩],
    ⟨[⟨[], [⟨⟨"on", ⟨3, 3⟩⟩, none, ⟨3, 3⟩⟩], ⟨3, 3⟩⟩], ⟨3, 1⟩⟩, ⟨2, 1⟩⟩

theorem lamp_read : parse "@raw_representable[Int]\nenum Lamp:\n  on\n" = .ok [lamp] := by
  decide +kernel

theorem lamp_readsBack :
    fixedText (fixAll {} (locate "lamp" [lamp])) = "@raw_representable[Int]\nenum Lamp:\n" ++
        "  @raw_value(<#value#>)\n  on\n  @default_case\n  unknown(Int)\n" ∧
      ∃ again, parse (fixedText (fixAll {} (locate "lamp" [lamp]))) = .ok again ∧
        again.map Declaration.shape = (fixAll {} (locate "lamp" [lamp])).map (·.result.root.shape) := by
  refine ⟨by decide +kernel, (fixed_readsBack_iff lamp_read "lamp" {} (by decide)).mpr ⟨?_, ?_⟩⟩
  · rw [List.forall_mem_singleton]
    rintro name ⟨rawType, changed, asks, rfl, -⟩
    cases asks
    exact ⟨_, _, rfl, rfl⟩
  · intro _
    refine ⟨by decide, ?_⟩
    simp [List.infix_cons_iff]

/-- The lamp over text, with a name for its catch-all that is not an identifier. -/
def spacedLamp : Declaration Position :=
  ⟨.enumKind, ⟨"Lamp", ⟨2, 6⟩⟩, [⟨⟨"raw_representable", ⟨1, 2⟩⟩, [⟨"String", ⟨1, 20⟩⟩],
      [⟨some "case_name", .string "a b" ⟨1, 38⟩, ⟨1, 28⟩⟩], ⟨1, 1⟩⟩],
    ⟨[⟨[], [⟨⟨"on", ⟨3, 3⟩⟩, none, ⟨3, 3⟩⟩], ⟨3, 3⟩⟩], ⟨3, 1⟩⟩, ⟨2, 1⟩⟩

/-- The name of a catch-all is taken as it is given, and it can be any text. -/
theorem fixed_text_can_be_unreadable :
    ¬ ∀ (source file : String) (settings : Settings) (declarations : List (Declaration Position)),
      parse source = .ok declarations → settings.defaultCaseName ≠ "" →
      settings.placeholderLabel ≠ "" → 1 ≤ settings.maxFixPasses →
      ∃ again, parse (fixedText (fixAll settings (locate file declarations))) = .ok again ∧
        again.map Declaration.shape =
          (fixAll settings (locate file declarations)).map (·.result.root.shape) := by
  intro all
  have read : parse "@raw_representable[String](case_name=\"a b\")\nenum Lamp:\n  on\n" =
      .ok [spacedLamp] := by
    decide +kernel
  have refused : (parse (fixedText (fixAll {} (locate "lamp" [spacedLamp])))).isOk = false := by
    decide +kernel
  obtain ⟨again, reread, -⟩ := all _ "lamp" {} _ read (by decide) (by decide) (by decide)
  rw [reread] at refused
  cases refused

end RawMapping
