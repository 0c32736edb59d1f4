import RawMapping.Proofs.Report.Mending

/-! Fixing makes progress. With a catch-all in place, every fix that is offered settles exactly one fault
of the lines and creates none, so the number of fixes still to come falls by one with each pass. -/

set_option autoImplicit false

namespace RawMapping

/-! ### Faults of changed lines -/

section

variable {α : Type}

theorem catchAllFits?_append (first second : List (CaseLine α)) (rawType : String) :
    catchAllFits? (first ++ second) rawType =
      (catchAllFits? first rawType).or (catchAllFits? second rawType) := by
  rw [catchAllFits?, List.find?_append, Option.map_or]
  rfl

theorem catchAllFits?_of_marks {line : CaseLine α} (marks : line.Marks) (rawType : String) :
    catchAllFits? [line] rawType = some (line.fitsCatchAll rawType) := by
  simp [catchAllFits?, marks]

theorem catchAllFits?_eq_none_iff (lines : List (CaseLine α)) (rawType : String) :
    catchAllFits? lines rawType = none ↔ ∀ line ∈ lines, ¬ line.Marks := by
  simp [catchAllFits?]

theorem catchAllFits?_congr {line other : CaseLine α} {rawType : String}
    (marks : other.Marks ↔ line.Marks)
    (fits : other.fitsCatchAll rawType = line.fitsCatchAll rawType) :
    catchAllFits? [other] rawType = catchAllFits? [line] rawType := by
  by_cases marked : line.Marks
  · rw [catchAllFits?_of_marks marked, catchAllFits?_of_marks (marks.mpr marked), fits]
  · rw [(catchAllFits?_eq_none_iff [line] rawType).mpr (by simpa using marked),
      (catchAllFits?_eq_none_iff [other] rawType).mpr (by simpa using marks.not.mpr marked)]

theorem CaseLine.faults_of_cons {line : CaseLine α} {first : Variant α} {others : List (Variant α)}
    (variants : line.variants = first :: others) (rawType : String) :
    line.faults rawType =
      line.leadFaults rawType + if rawType = stringTypeName then 0 else others.length := by
  rw [faults, variants]

theorem CaseLine.leadFaults_of_unmarked {line : CaseLine α}
    (unmarked : ¬ line.Carries defaultCaseName) {attr : Attribute α} {others : List (Attribute α)}
    (given : line.attributes.filter (·.isNamed rawValueName) = attr :: others) (rawType : String) :
    line.leadFaults rawType =
      others.length + if rawType = stringTypeName ∧ attr.givesInteger = true then 1 else 0 := by
  rw [leadFaults, if_neg unmarked, given]

end

/-- The two names differ, so an attribute has at most one of them. -/
theorem Attribute.not_mark_of_rawValue {attr : Attribute Unit}
    (named : attr.isNamed rawValueName = true) : attr.name.text ≠ defaultCaseName := by
  have name : attr.name.text = rawValueName := by simpa [Attribute.isNamed] using named
  rw [name]
  decide

section

variable {rawType label : String} {line : CaseLine Unit} {mended : List (CaseLine Unit)}

def CaseLine.Settles (rawType : String) (line : CaseLine Unit) (mended : List (CaseLine Unit)) : Prop :=
  (mended.map (·.faults rawType)).sum + 1 = line.faults rawType ∧
    catchAllFits? mended rawType = catchAllFits? [line] rawType

theorem CaseLine.settles_of_attributes {attributes : List (Attribute Unit)} (some : line.variants ≠ [])
    (carries : { line with attributes }.Carries defaultCaseName ↔ line.Carries defaultCaseName)
    (lead : { line with attributes }.leadFaults rawType + 1 = line.leadFaults rawType) :
    line.Settles rawType [{ line with attributes }] := by
  obtain ⟨first, others, variants⟩ := List.exists_cons_of_ne_nil some
  let changed : CaseLine Unit := { line with attributes }
  constructor
  · have changedVariants : changed.variants = first :: others := variants
    have changedLead : changed.leadFaults rawType + 1 = line.leadFaults rawType := lead
    rw [List.map_singleton, List.sum_singleton, CaseLine.faults_of_cons variants rawType,
      CaseLine.faults_of_cons changedVariants rawType]
    omega
  · have marks : changed.Marks ↔ line.Marks := by
      simp only [CaseLine.Marks, changed, carries]
    exact catchAllFits?_congr marks rfl

theorem CaseLine.settles_dropExtra {front back : List (Attribute Unit)} {extra : Attribute Unit}
    (some : line.variants ≠ []) (unmarked : ¬ line.Carries defaultCaseName)
    (attributes : line.attributes = front ++ extra :: back)
    (given : ∃ attr ∈ front, attr.isNamed rawValueName = true)
    (named : extra.isNamed rawValueName = true) :
    line.Settles rawType [{ line with attributes := front ++ back }] := by
  let rest : CaseLine Unit := { line with attributes := front ++ back }
  have unmarkedRest : ¬ rest.Carries defaultCaseName := by
    rintro ⟨other, member, isMark⟩
    refine unmarked ⟨other, ?_, isMark⟩
    rw [attributes]
    rcases List.mem_append.mp member with early | late
    · exact List.mem_append_left _ early
    · exact List.mem_append_right _ (List.mem_cons_of_mem _ late)
  obtain ⟨attr, others, first⟩ : ∃ attr others,
      front.filter (·.isNamed rawValueName) = attr :: others := by
    obtain ⟨attr, member, isRaw⟩ := given
    exact List.exists_cons_of_ne_nil (List.ne_nil_of_mem (List.mem_filter.mpr ⟨member, isRaw⟩))
  have before : line.attributes.filter (·.isNamed rawValueName) =
      attr :: (others ++ extra :: back.filter (·.isNamed rawValueName)) := by
    rw [attributes, List.filter_append, first]
    simp [named]
  have after : rest.attributes.filter (·.isNamed rawValueName) =
      attr :: (others ++ back.filter (·.isNamed rawValueName)) := by
    rw [List.filter_append, first]
    rfl
  refine CaseLine.settles_of_attributes some (iff_of_false unmarkedRest unmarked) ?_
  rw [CaseLine.leadFaults_of_unmarked unmarked before,
    CaseLine.leadFaults_of_unmarked unmarkedRest after]
  simp only [List.length_append, List.length_cons]
  omega

theorem CaseLine.settles_dropAll (marks : line.Marks) (carries : line.Carries rawValueName) :
    line.Settles rawType
      [{ line with attributes := line.attributes.filter fun attr => !attr.isNamed rawValueName }] := by
  let kept : CaseLine Unit :=
    { line with attributes := line.attributes.filter fun attr => !attr.isNamed rawValueName }
  have marked : kept.Carries defaultCaseName := by
    obtain ⟨attr, member, isMark⟩ := marks.2
    refine ⟨attr, List.mem_filter.mpr ⟨member, ?_⟩, isMark⟩
    rw [Bool.not_eq_true', Bool.eq_false_iff]
    intro named
    exact Attribute.not_mark_of_rawValue named isMark
  have unvalued : ¬ kept.Carries rawValueName := by
    rintro ⟨attr, member, isRaw⟩
    have other := (List.mem_filter.mp member).2
    simp [Attribute.isNamed, isRaw] at other
  refine CaseLine.settles_of_attributes marks.1 (iff_of_true marked marks.2) ?_
  rw [CaseLine.leadFaults, CaseLine.leadFaults, if_pos marked, if_neg unvalued, if_pos marks.2,
    if_pos carries]

theorem CaseLine.settles_quote {front back : List (Attribute Unit)} {attr : Attribute Unit}
    {argument : Option String} {text : String} (some : line.variants ≠ [])
    (unmarked : ¬ line.Carries defaultCaseName) (attributes : line.attributes = front ++ attr :: back)
    (earlier : ∀ other ∈ front, other.isNamed rawValueName = false)
    (named : attr.isNamed rawValueName = true)
    (arguments : attr.arguments = [⟨argument, .integer text (), ()⟩]) :
    line.Settles stringTypeName [{ line with attributes :=
      front ++ { attr with arguments := [⟨argument, .string text (), ()⟩] } :: back }] := by
  let quoted : Attribute Unit := { attr with arguments := [⟨argument, .string text (), ()⟩] }
  let changed : CaseLine Unit := { line with attributes := front ++ quoted :: back }
  have unmarkedChanged : ¬ changed.Carries defaultCaseName := by
    rintro ⟨other, member, isMark⟩
    rcases List.mem_append.mp member with early | late
    · exact unmarked ⟨other, by simp [attributes, early], isMark⟩
    · rcases List.mem_cons.mp late with rfl | late
      · exact Attribute.not_mark_of_rawValue named isMark
      · exact unmarked ⟨other, by simp [attributes, late], isMark⟩
  have none : front.filter (·.isNamed rawValueName) = [] := by
    rw [List.filter_eq_nil_iff]
    intro other member
    simp [earlier other member]
  have before : line.attributes.filter (·.isNamed rawValueName) =
      attr :: back.filter (·.isNamed rawValueName) := by
    rw [attributes, List.filter_append, none]
    simp [named]
  have quotedNamed : quoted.isNamed rawValueName = true := named
  have after : changed.attributes.filter (·.isNamed rawValueName) =
      quoted :: back.filter (·.isNamed rawValueName) := by
    rw [List.filter_append, none]
    simp [quotedNamed]
  refine CaseLine.settles_of_attributes some (iff_of_false unmarkedChanged unmarked) ?_
  rw [CaseLine.leadFaults_of_unmarked unmarked before,
    CaseLine.leadFaults_of_unmarked unmarkedChanged after]
  simp [Attribute.givesInteger, quoted, arguments]

theorem placeholderValue_not_mark : (placeholderValue label).name.text ≠ defaultCaseName := by
  change rawValueName ≠ defaultCaseName
  decide

theorem CaseLine.settles_valueFirst (other : rawType ≠ stringTypeName) (some : line.variants ≠ [])
    (unmarked : ¬ line.Carries defaultCaseName) (unvalued : ¬ line.Carries rawValueName) :
    line.Settles rawType [{ line with attributes := line.attributes ++ [placeholderValue label] }] := by
  let valued : CaseLine Unit := { line with attributes := line.attributes ++ [placeholderValue label] }
  have unmarkedValued : ¬ valued.Carries defaultCaseName := by
    rintro ⟨attr, member, isMark⟩
    rcases List.mem_append.mp member with old | new
    · exact unmarked ⟨attr, old, isMark⟩
    · rw [List.mem_singleton.mp new] at isMark
      exact placeholderValue_not_mark isMark
  have before : line.attributes.filter (·.isNamed rawValueName) = [] := by
    rw [line.carries_rawValue_iff] at unvalued
    exact Decidable.not_not.mp unvalued
  have after : valued.attributes.filter (·.isNamed rawValueName) = [placeholderValue label] := by
    rw [List.filter_append, before]
    rfl
  refine CaseLine.settles_of_attributes some (iff_of_false unmarkedValued unmarked) ?_
  rw [CaseLine.leadFaults_of_unmarked unmarkedValued after, CaseLine.leadFaults, if_neg unmarked,
    before]
  simp [other]

theorem CaseLine.settles_valueOther (string : rawType ≠ stringTypeName) {first variant : Variant Unit}
    {others back : List (Variant Unit)}
    (variants : line.variants = first :: (others ++ variant :: back)) :
    line.Settles rawType [{ line with variants := first :: others ++ back },
      ⟨[placeholderValue label], [variant], ()⟩] := by
  let trimmed : CaseLine Unit := { line with variants := first :: (others ++ back) }
  let moved : CaseLine Unit := ⟨[placeholderValue label], [variant], ()⟩
  have unmarkedMoved : ¬ moved.Carries defaultCaseName := by
    rintro ⟨attr, member, isMark⟩
    rw [List.mem_singleton.mp member] at isMark
    exact placeholderValue_not_mark isMark
  constructor
  · -- the moved case is no longer at fault, and all others are counted as before
    have trimmedFaults : trimmed.faults rawType =
        line.leadFaults rawType + (others.length + back.length) := by
      rw [CaseLine.faults_of_cons rfl, if_neg string, List.length_append]
      rfl
    have movedFaults : moved.faults rawType = 0 := by
      have given : moved.attributes.filter (·.isNamed rawValueName) = [placeholderValue label] := rfl
      rw [CaseLine.faults_of_cons rfl, if_neg string,
        CaseLine.leadFaults_of_unmarked unmarkedMoved given]
      simp [string]
    change trimmed.faults rawType + (moved.faults rawType + 0) + 1 = _
    rw [trimmedFaults, movedFaults, CaseLine.faults_of_cons variants, if_neg string]
    simp only [List.length_append, List.length_cons]
    omega
  · -- the moved case is not marked, and the first variant stays where it was
    have none : catchAllFits? [moved] rawType = none := by
      rw [catchAllFits?_eq_none_iff, List.forall_mem_singleton]
      exact fun marks => unmarkedMoved marks.2
    have marks : trimmed.Marks ↔ line.Marks := by
      simp [CaseLine.Marks, trimmed, variants, CaseLine.Carries]
    change catchAllFits? ([trimmed] ++ [moved]) rawType = _
    rw [catchAllFits?_append, none, Option.or_none]
    exact catchAllFits?_congr marks (by simp [CaseLine.fitsCatchAll, trimmed, variants])

end

theorem CaseLine.Mends.settles {rawType label : String} {kind : FixKind} {line : CaseLine Unit}
    {mended : List (CaseLine Unit)} (mends : line.Mends rawType label kind mended) :
    line.Settles rawType mended := by
  cases mends with
  | dropExtra some unmarked attributes given named =>
    exact CaseLine.settles_dropExtra some unmarked attributes given named
  | dropAll marks carries => exact CaseLine.settles_dropAll marks carries
  | quote string some unmarked attributes earlier named arguments =>
    rw [string]
    exact CaseLine.settles_quote some unmarked attributes earlier named arguments
  | value other annotates =>
    cases annotates with
    | first some admitted => exact CaseLine.settles_valueFirst other some admitted.1 admitted.2
    | other nonempty variants =>
      obtain ⟨first, others, rfl⟩ := List.exists_cons_of_ne_nil nonempty
      exact CaseLine.settles_valueOther other variants

theorem Mends.settles {rawType label : String} {kind : FixKind} {lines mended : List (CaseLine Unit)}
    (mends : Mends rawType label kind lines mended) :
    faults mended rawType + 1 = faults lines rawType ∧
      (catchAllFits? mended rawType = none → catchAllFits? lines rawType = none) := by
  cases mends with
  | @line _ before after mended line mends =>
    obtain ⟨sum, fits⟩ := mends.settles
    have same : catchAllFits? (before ++ (mended ++ after)) rawType =
        catchAllFits? (before ++ line :: after) rawType := by
      rw [← List.singleton_append, catchAllFits?_append, catchAllFits?_append, fits,
        ← catchAllFits?_append, ← catchAllFits?_append]
    refine ⟨?_, fun none => same ▸ none⟩
    simp only [faults, same, List.map_append, List.map_cons, List.sum_append, List.sum_cons]
    omega
  | @payload before after line first others unmarked marked variants misfit =>
    -- the faults of the single lines stay; it is the payload of the catch-all that counted
    let fixed : CaseLine Unit := { line with
      variants := { first with parameters := some (rawPayload rawType) } :: others }
    have none := (catchAllFits?_eq_none_iff before rawType).mpr unmarked
    have wrong : catchAllFits? (before ++ line :: after) rawType = some false := by
      have marks : line.Marks := ⟨by simp [variants], marked⟩
      have fits : line.fitsCatchAll rawType = false := by simp [CaseLine.fitsCatchAll, variants, misfit]
      rw [← List.singleton_append, catchAllFits?_append, catchAllFits?_append, none,
        catchAllFits?_of_marks marks, fits]
      rfl
    have right : catchAllFits? (before ++ fixed :: after) rawType = some true := by
      have marks : fixed.Marks := ⟨by simp [fixed], marked⟩
      have fits : fixed.fitsCatchAll rawType = true := by
        simp [CaseLine.fitsCatchAll, fixed, Variant.hasRawPayload, rawPayload]
      rw [← List.singleton_append, catchAllFits?_append, catchAllFits?_append, none,
        catchAllFits?_of_marks marks, fits]
      rfl
    have same : fixed.faults rawType = line.faults rawType := by
      rw [CaseLine.faults_of_cons variants rawType]
      rfl
    refine ⟨?_, fun absent => ?_⟩
    · change faults (before ++ fixed :: after) rawType + 1 = _
      rw [faults, faults, wrong, right, if_pos rfl, if_neg (by simp)]
      simp only [List.map_append, List.map_cons, List.sum_append, List.sum_cons, same]
      omega
    · rw [right] at absent
      cases absent

/-! ### Marked cases -/

theorem CaseLine.countP_catchAll {α : Type} (line : CaseLine α) (lineIndex : Nat) :
    (line.records lineIndex).countP (·.role == .catchAll) = if line.Marks then 1 else 0 := by
  rw [List.countP_eq_length_filter, line.filter_catchAll]
  by_cases marks : line.Marks
  · simp [CaseLine.marked?, marks, List.head?_eq_some_head marks.1]
  · simp [CaseLine.marked?, marks]

theorem Declaration.countP_catchAll {α : Type} (declaration : Declaration α) :
    declaration.records.countP (·.role == .catchAll) =
      declaration.body.lines.countP (·.Marks) := by
  have lines : ∀ (lines : List (CaseLine α)) (start : Nat),
      ((lines.zipIdx start).flatMap fun placed => placed.1.records placed.2).countP
        (·.role == .catchAll) = lines.countP (·.Marks) := by
    intro lines
    induction lines with
    | nil => intro start; rfl
    | cons line lines ih =>
      intro start
      rw [List.zipIdx_cons, List.flatMap_cons, List.countP_append, ih (start + 1),
        line.countP_catchAll, List.countP_cons, Nat.add_comm]
      simp only [decide_eq_true_eq]
  exact lines declaration.body.lines 0

/-- Where no case was marked, the fix for a missing catch-all marks exactly one. -/
theorem Completes.countP_marks {rawType caseName : String} {candidate? : Option (CaseRecord Stamp)}
    {lines completed : List (CaseLine Unit)}
    (completes : Completes rawType caseName candidate? lines completed)
    (unmarked : ∀ line ∈ lines, ¬ line.Marks) : completed.countP (·.Marks) = 1 := by
  have none : ∀ part ⊆ lines, part.countP (·.Marks) = 0 := by
    intro part inside
    rw [List.countP_eq_zero]
    intro line member
    simpa using unmarked line (inside member)
  -- the new line is the marked one, or the line that takes the mark for one of its cases
  cases completes with
  | add =>
    have marks : (addedCatchAll rawType caseName).Marks :=
      ⟨by simp [addedCatchAll], catchAllMark, by simp [addedCatchAll], rfl⟩
    rw [List.countP_append, none lines (List.Subset.refl _)]
    simp [marks]
  | @mark candidate before after annotated line annotates =>
    have around : before.countP (·.Marks) = 0 ∧ after.countP (·.Marks) = 0 :=
      ⟨none before (by simp), none after (by simp)⟩
    have here : ¬ line.Marks := unmarked line (by simp)
    rw [List.countP_append, List.countP_append, around.1, around.2]
    cases annotates with
    | first some _ =>
      have marks : CaseLine.Marks { line with attributes := line.attributes ++ [catchAllMark] } :=
        ⟨some, catchAllMark, by simp, rfl⟩
      simp [marks]
    | @other front back variant nonempty variants =>
      have unmarkedRest : ¬ CaseLine.Marks { line with variants := front ++ back } :=
        fun marks => here ⟨by simp [variants], marks.2⟩
      have marks : CaseLine.Marks ⟨[catchAllMark], [variant], ()⟩ :=
        ⟨by simp, catchAllMark, by simp, rfl⟩
      simp [unmarkedRest, marks]

/-! ### One pass -/

section

variable {edited next : Edited} {settings changed : Settings} {rawType : String}
  {lines : List (CaseLine Unit)}

theorem Declaration.asks_of_shape {root other : Declaration Stamp}
    (shape : other.shape = { root.shape with body := ⟨lines, ()⟩ }) (settings : Settings) :
    other.asks settings = root.asks settings := by
  rw [← Declaration.asks_shape other, shape, Declaration.asks_body, Declaration.asks_shape]

theorem Declaration.lines_of_shape {root other : Declaration Stamp}
    (shape : other.shape = { root.shape with body := ⟨lines, ()⟩ }) :
    other.body.lines.map CaseLine.shape = lines :=
  congrArg (fun declaration => declaration.body.lines) shape

theorem exists_marks_iff (lines : List (CaseLine Stamp)) :
    (∃ line ∈ lines.map CaseLine.shape, line.Marks) ↔ ∃ line ∈ lines, line.Marks := by
  simp [CaseLine.shape]

theorem countP_marks_shape (lines : List (CaseLine Stamp)) :
    (lines.map CaseLine.shape).countP (·.Marks) = lines.countP (·.Marks) := by
  rw [List.countP_map]
  simp [Function.comp_def, CaseLine.shape]

theorem Completes.countP_catchAll {candidate? : Option (CaseRecord Stamp)} {caseName : String}
    (completes : Completes rawType caseName candidate? edited.root.shape.body.lines lines)
    (unmarked : ∀ line ∈ edited.root.body.lines, ¬ line.Marks)
    (shape : next.root.shape = { edited.root.shape with body := ⟨lines, ()⟩ }) :
    next.root.records.countP (·.role == .catchAll) = 1 := by
  have unmarkedShapes : ∀ line ∈ edited.root.shape.body.lines, ¬ line.Marks := by
    change ∀ line ∈ edited.root.body.lines.map CaseLine.shape, ¬ line.Marks
    rw [List.forall_mem_map]
    intro line member
    exact (CaseLine.marks_map _ line).not.mpr (unmarked line member)
  rw [next.root.countP_catchAll, ← countP_marks_shape, Declaration.lines_of_shape shape]
  exact completes.countP_marks unmarkedShapes

theorem Mends.exists_marks {label : String} {kind : FixKind}
    (mends : Mends rawType label kind edited.root.shape.body.lines lines)
    (marked : ∃ line ∈ edited.root.body.lines, line.Marks)
    (shape : next.root.shape = { edited.root.shape with body := ⟨lines, ()⟩ }) :
    ∃ line ∈ next.root.body.lines, line.Marks := by
  rw [← exists_marks_iff, Declaration.lines_of_shape shape]
  by_contra none
  have absent := mends.settles.2 ((catchAllFits?_eq_none_iff lines rawType).mpr (by simpa using none))
  rw [catchAllFits?_eq_none_iff] at absent
  obtain ⟨line, inside, marks⟩ := (exists_marks_iff _).mpr marked
  exact absent line inside marks

theorem Declaration.not_lacksCatchAll_of_marks {root : Declaration Stamp}
    (marked : ∃ line ∈ root.body.lines, line.Marks) (settings : Settings) :
    ¬ root.LacksCatchAll settings := by
  intro lacks
  obtain ⟨_, _, -, unmarked⟩ := (root.lacksCatchAll_iff settings).mp lacks
  obtain ⟨line, member, marks⟩ := marked
  exact unmarked line member marks

theorem Declaration.Passes.exists_marks {kind : FixKind}
    (passes : edited.root.Passes settings kind lines)
    (shape : next.root.shape = { edited.root.shape with body := ⟨lines, ()⟩ }) :
    ∃ line ∈ next.root.body.lines, line.Marks := by
  cases passes with
  | mends _ marked result => exact result.exists_marks marked shape
  | completes _ unmarked _ result =>
    have one := result.countP_catchAll unmarked shape
    rw [next.root.countP_catchAll] at one
    have positive : 0 < next.root.body.lines.countP (·.Marks) := by omega
    obtain ⟨line, member, marks⟩ := List.countP_pos_iff.mp positive
    exact ⟨line, member, by simpa using marks⟩

/-- With a catch-all in place, a pass leaves one fixable diagnostic less. -/
theorem Declaration.Passes.fixableCount_report {kind : FixKind}
    (passes : edited.root.Passes settings kind lines)
    (complete : ¬ edited.root.LacksCatchAll settings)
    (shape : next.root.shape = { edited.root.shape with body := ⟨lines, ()⟩ }) :
    fixableCount (next.root.report settings) + 1 = fixableCount (edited.root.report settings) := by
  have nextMarked := passes.exists_marks shape
  cases passes with
  | completes asks unmarked _ _ =>
    exact absurd ((edited.root.lacksCatchAll_iff settings).mpr ⟨_, _, asks, unmarked⟩) complete
  | @mends rawType changed asks marked result =>
    have nextAsks := (Declaration.asks_of_shape shape settings).trans asks
    have before : faults edited.root.shape.body.lines rawType = faults edited.root.body.lines rawType :=
      faults_map _ _ rawType
    have after : faults (next.root.body.lines.map CaseLine.shape) rawType =
        faults next.root.body.lines rawType := faults_map _ _ rawType
    rw [Declaration.fixableCount_report nextAsks nextMarked,
      Declaration.fixableCount_report asks marked, ← after, Declaration.lines_of_shape shape, ← before,
      result.settles.1]

end

/-! ### The whole run -/

/-- The run makes the given number of passes, or as many as it may, and ends with nothing left to fix
unless it was stopped. -/
structure FixRun.Takes (run : FixRun) (settings : Settings) (limit count : Nat) : Prop where
  passes : run.passes.length = min limit count
  exhausted : run.exhausted = decide (limit < count)
  remaining : run.remaining = run.result.root.report settings
  left : fixableCount run.remaining = 0 ↔ count ≤ limit

theorem Edited.fix_eq (edited : Edited) (settings : Settings) (limit : Nat) :
    edited.fix settings limit =
      match firstFix? (edited.root.report settings) with
      | none => .stopped edited (edited.root.report settings) false
      | some fix =>
        match limit with
        | 0 => .stopped edited (edited.root.report settings) true
        | limit + 1 =>
          match fix.apply edited with
          | .error _ => .stopped edited (edited.root.report settings) false
          | .ok next => { next.fix settings limit with
              passes := (edited.root, fix) :: (next.fix settings limit).passes } := by
  rw [Edited.fix.eq_def, Declaration.report]
  cases edited.root.expand settings with
  | ok expansion => rfl
  | error error =>
    cases error with
    | notAnnotated name => rfl
    | rejected diagnostics => rfl

theorem Edited.fix_of_none {edited : Edited} {settings : Settings}
    (none : firstFix? (edited.root.report settings) = none) (limit : Nat) :
    edited.fix settings limit = .stopped edited (edited.root.report settings) false := by
  rw [Edited.fix_eq, none]

theorem Edited.fix_of_some {edited next : Edited} {settings : Settings} {fix : Fix Stamp}
    (first : firstFix? (edited.root.report settings) = some fix) (applied : fix.apply edited = .ok next)
    (limit : Nat) :
    edited.fix settings (limit + 1) = { next.fix settings limit with
      passes := (edited.root, fix) :: (next.fix settings limit).passes } := by
  rw [Edited.fix_eq, first]
  dsimp only
  rw [applied]

theorem firstFix?_eq_none_iff (diagnostics : List (Diagnostic Stamp)) :
    firstFix? diagnostics = none ↔ fixableCount diagnostics = 0 := by
  rw [firstFix?, List.findSome?_eq_none_iff, fixableCount, List.countP_eq_zero]
  simp

theorem exists_firstFix {diagnostics : List (Diagnostic Stamp)} (fixable : 0 < fixableCount diagnostics) :
    ∃ fix, firstFix? diagnostics = some fix := by
  apply Option.ne_none_iff_exists'.mp
  rw [ne_eq, firstFix?_eq_none_iff]
  omega

theorem Edited.takes_succ {edited next : Edited} {settings : Settings} {fix : Fix Stamp}
    (first : firstFix? (edited.root.report settings) = some fix) (applied : fix.apply edited = .ok next)
    {limit count : Nat} (takes : (next.fix settings limit).Takes settings limit count) :
    (edited.fix settings (limit + 1)).Takes settings (limit + 1) (count + 1) := by
  rw [Edited.fix_of_some first applied]
  refine ⟨?_, ?_, takes.remaining, ?_⟩
  · rw [List.length_cons, takes.passes]
    omega
  · rw [takes.exhausted]
    simp
  · rw [takes.left]
    omega

theorem Edited.takes_none {edited : Edited} {settings : Settings}
    (none : fixableCount (edited.root.report settings) = 0) (limit : Nat) :
    (edited.fix settings limit).Takes settings limit 0 := by
  rw [Edited.fix_of_none ((firstFix?_eq_none_iff _).mpr none)]
  exact ⟨by simp [FixRun.stopped], by simp [FixRun.stopped], rfl, by simpa [FixRun.stopped] using none⟩

theorem Edited.takes_zero {edited : Edited} {settings : Settings}
    (fixable : 0 < fixableCount (edited.root.report settings)) (count : Nat) :
    (edited.fix settings 0).Takes settings 0 (count + 1) := by
  obtain ⟨fix, first⟩ := exists_firstFix fixable
  rw [Edited.fix_eq, first]
  refine ⟨by simp [FixRun.stopped], by simp [FixRun.stopped], rfl, ?_⟩
  simp only [FixRun.stopped]
  omega

/-- With a catch-all in place, a run makes one pass for each diagnostic that offers a fix. -/
theorem Edited.Coherent.takes {edited : Edited} (coherent : edited.Coherent) {settings : Settings}
    (complete : ¬ edited.root.LacksCatchAll settings) (limit : Nat) :
    (edited.fix settings limit).Takes settings limit (fixableCount (edited.root.report settings)) := by
  -- by induction on the passes that are allowed; a catch-all that is in place stays there
  induction limit generalizing edited with
  | zero =>
    cases count : fixableCount (edited.root.report settings) with
    | zero => exact Edited.takes_none count 0
    | succ left => exact Edited.takes_zero (by omega) left
  | succ limit ih =>
    by_cases fixable : 0 < fixableCount (edited.root.report settings)
    · obtain ⟨fix, first⟩ := exists_firstFix fixable
      obtain ⟨lines, ⟨next, applied, nextCoherent, shape⟩, passes⟩ := coherent.pass first
      rw [← passes.fixableCount_report complete shape]
      exact Edited.takes_succ first applied
        (ih nextCoherent (Declaration.not_lacksCatchAll_of_marks (passes.exists_marks shape) settings))
    · have none : fixableCount (edited.root.report settings) = 0 := by omega
      rw [none]
      exact Edited.takes_none none (limit + 1)

/-- Fixing makes progress and ends. A missing catch-all is added first. Then every pass settles exactly
one diagnostic that offers a fix, and the catch-all stays; so a run that may make enough passes ends with
a declaration for which no fix is offered, after as many passes as there were fixes to make. -/
theorem Edited.fixing_progresses {edited : Edited} (coherent : edited.Coherent) (settings : Settings) :
    (edited.root.LacksCatchAll settings →
      ∃ fix next, (∀ diagnostic ∈ edited.root.report settings, diagnostic.fixes = [fix]) ∧
        firstFix? (edited.root.report settings) = some fix ∧ fix.apply edited = .ok next ∧
        next.root.records.countP (·.role == .catchAll) = 1 ∧
        ∀ limit, (edited.fix settings limit).Takes settings limit
          (fixableCount (next.root.report settings) + 1)) ∧
    (¬ edited.root.LacksCatchAll settings →
      (0 < fixableCount (edited.root.report settings) →
        ∃ fix next, firstFix? (edited.root.report settings) = some fix ∧
          fix.apply edited = .ok next ∧ ¬ next.root.LacksCatchAll settings ∧
          fixableCount (next.root.report settings) + 1 =
            fixableCount (edited.root.report settings)) ∧
      ∀ limit, (edited.fix settings limit).Takes settings limit
        (fixableCount (edited.root.report settings))) := by
  constructor
  · intro lacks
    obtain ⟨rawType, changed, asks, unmarked⟩ := (edited.root.lacksCatchAll_iff settings).mp lacks
    have report := Declaration.report_of_unmarked asks unmarked
    have fixable : 0 < fixableCount (edited.root.report settings) := by
      rw [report]
      exact Nat.one_pos
    obtain ⟨fix, first⟩ := exists_firstFix fixable
    -- without a marked case nothing else is looked at, so this one fix is all that is offered
    have only : ∀ diagnostic ∈ edited.root.report settings, diagnostic.fixes = [fix] := by
      rw [report] at first ⊢
      rw [List.forall_mem_singleton]
      cases first
      rfl
    obtain ⟨lines, ⟨next, applied, nextCoherent, shape⟩, passes⟩ := coherent.pass first
    have complete := Declaration.not_lacksCatchAll_of_marks (passes.exists_marks shape) settings
    refine ⟨fix, next, only, first, applied, ?_, ?_⟩
    · cases passes with
      | mends _ marked _ => exact absurd lacks (Declaration.not_lacksCatchAll_of_marks marked settings)
      | completes _ _ _ result => exact result.countP_catchAll unmarked shape
    · intro limit
      -- the first pass completes the declaration, and the passes behind it are counted from there
      cases limit with
      | zero => exact Edited.takes_zero fixable _
      | succ limit => exact Edited.takes_succ first applied (nextCoherent.takes complete limit)
  · intro complete
    refine ⟨fun fixable => ?_, coherent.takes complete⟩
    obtain ⟨fix, first⟩ := exists_firstFix fixable
    obtain ⟨lines, ⟨next, applied, -, shape⟩, passes⟩ := coherent.pass first
    exact ⟨fix, next, first, applied,
      Declaration.not_lacksCatchAll_of_marks (passes.exists_marks shape) settings,
      passes.fixableCount_report complete shape⟩

/-- Two cases without a value, and one with a payload and two values that is not marked. -/
def beacons : Declaration (Option Location) :=
  ⟨.enumKind, ⟨"Beacon", none⟩,
    [⟨⟨"raw_representable", none⟩, [⟨"Int", none⟩], [], none⟩],
    ⟨[⟨[], [⟨⟨"red", none⟩, none, none⟩, ⟨⟨"green", none⟩, none, none⟩], none⟩,
      ⟨[⟨⟨"raw_value", none⟩, [], [⟨none, .integer "1" none, none⟩], none⟩,
          ⟨⟨"raw_value", none⟩, [], [⟨none, .integer "2" none, none⟩], none⟩],
        [⟨⟨"other", none⟩, some [⟨none, ⟨"Int", none⟩, none⟩], none⟩], none⟩], none⟩, none⟩

theorem beacons_progress :
    (Edited.load 0 beacons).root.LacksCatchAll {} ∧
      ∃ (fix : Fix Stamp) (next : Edited), fix.apply (Edited.load 0 beacons) = .ok next ∧
        next.root.records.countP (·.role == .catchAll) = 1 ∧
        ((Edited.load 0 beacons).fix {} 10).Takes {} 10 (fixableCount (next.root.report {}) + 1) := by
  have lacks : (Edited.load 0 beacons).root.LacksCatchAll {} :=
    ⟨_, List.mem_singleton_self _, rfl⟩
  obtain ⟨fix, next, -, -, applied, one, takes⟩ :=
    (Edited.fixing_progresses (Edited.coherent_load 0 beacons) {}).1 lacks
  exact ⟨lacks, fix, next, applied, one, takes 10⟩

end RawMapping
