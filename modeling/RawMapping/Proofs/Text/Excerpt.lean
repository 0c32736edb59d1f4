import Mathlib.Data.List.Infix
import RawMapping.Location

/-! What an excerpt shows. Around a position in a text up to two lines on either side are shown, each behind
its own number, and below the line of the position there is a marker that begins under its column. -/

set_option autoImplicit false

namespace RawMapping

/-! ### Lines of a text -/

theorem not_mem_of_mem_splitOn {c : Char} {text piece : List Char} (member : piece ∈ text.splitOn c) :
    c ∉ piece := by
  induction text generalizing piece with
  | nil =>
    rw [List.splitOn_nil, List.mem_singleton] at member
    simp [member]
  | cons d text ih =>
    rw [List.splitOn_cons_eq_if_modifyHead] at member
    by_cases separator : d = c
    · simp only [separator, beq_self_eq_true, if_true, List.mem_cons] at member
      rcases member with rfl | member
      · simp
      · exact ih member
    · obtain ⟨first, others, split⟩ := List.exists_cons_of_ne_nil (List.splitOn_ne_nil c text)
      simp only [beq_iff_eq, separator, if_false, split, List.modifyHead_cons, List.mem_cons] at member
      rw [split] at ih
      rcases member with rfl | member
      · simpa [Ne.symm separator] using ih (List.mem_cons_self)
      · exact ih (List.mem_cons_of_mem _ member)

theorem Text.newline_not_mem_lines {text line : String} (member : line ∈ Text.lines text) :
    '\n' ∉ line.toList := by
  obtain ⟨piece, inside, rfl⟩ := List.mem_map.mp member
  rw [String.toList_ofList]
  exact not_mem_of_mem_splitOn inside

/-- Lines that are put together are the lines of what comes out. -/
theorem Text.lines_unlines {pieces : List String} (some : pieces ≠ [])
    (inside : ∀ piece ∈ pieces, '\n' ∉ piece.toList) : Text.lines (Text.unlines pieces) = pieces := by
  have split : List.splitOn '\n' (['\n'].intercalate (pieces.map String.toList)) = pieces.map String.toList :=
    List.splitOn_intercalate '\n' (by simpa using inside) (by simpa using some)
  rw [lines, unlines, String.toList_intercalate]
  simp [split]

theorem Text.unlines_lines (text : String) : Text.unlines (Text.lines text) = text := by
  apply String.toList_inj.mp
  simp [lines, unlines, String.toList_intercalate, Function.comp_def, List.intercalate_splitOn]

theorem Text.unlines_cons (first : String) {others : List String} (some : others ≠ []) :
    Text.unlines (first :: others) = first ++ "\n" ++ Text.unlines others := by
  obtain ⟨second, others, rfl⟩ := List.exists_cons_of_ne_nil some
  apply String.toList_inj.mp
  simp [unlines, String.toList_intercalate, List.intercalate]

theorem Text.unlines_concat {first : List String} (some : first ≠ []) (last : String) :
    Text.unlines (first ++ [last]) = Text.unlines first ++ "\n" ++ last := by
  induction first with
  | nil => exact absurd rfl some
  | cons line first ih =>
    cases first with
    | nil => simp [unlines, String.intercalate_cons_cons]
    | cons second first =>
      rw [List.cons_append, unlines_cons line (by simp), ih (by simp), unlines_cons line (by simp)]
      simp [String.append_assoc]

/-! ### Positions in a text -/

structure Position.InText (position : Position) (text : String) : Prop where
  line_pos : 1 ≤ position.line
  line_le : position.line ≤ (Text.lines text).length
  column_pos : 1 ≤ position.column
  column_le : position.column ≤ (Text.lines text)[position.line - 1].length + 1

theorem Position.line_le_after (start : Position) (piece : List Char) :
    start.line ≤ (start.after piece).line := by
  induction piece generalizing start with
  | nil => exact Nat.le_refl _
  | cons c piece ih =>
    have later := ih (start.next c)
    rw [after_cons]
    unfold next at later ⊢
    split at later
    · next feed =>
      simp only [feed, if_true] at later ⊢
      omega
    · next plain =>
      simp only [plain, if_false] at later ⊢
      exact later

-- The column is counted from that of the start as long as the first line goes on, and from one behind it.
/-- Passing over a part of a text leads to a line of it, and not further than to its end. -/
theorem exists_line_after (start : Position) (before after : List Char) :
    ∃ line, ((before ++ after).splitOn '\n')[(start.after before).line - start.line]? = some line ∧
      (start.after before).column ≤
        line.length + if (start.after before).line = start.line then start.column else 1 := by
  induction before generalizing start with
  | nil =>
    obtain ⟨line, others, split⟩ := List.exists_cons_of_ne_nil (List.splitOn_ne_nil '\n' after)
    exact ⟨line, by simp [split], by simp⟩
  | cons c before ih =>
    obtain ⟨line, found, within⟩ := ih (start.next c)
    have later := (start.next c).line_le_after before
    rw [List.cons_append, List.splitOn_cons_eq_if_modifyHead, Position.after_cons]
    -- a line feed puts a line in front of all others; any other character makes the first line longer
    by_cases feed : c = '\n'
    · have next : start.next c = ⟨start.line + 1, 1⟩ := by simp [Position.next, feed]
      rw [next] at found within later ⊢
      dsimp only at found within later
      have index : (Position.after ⟨start.line + 1, 1⟩ before).line - start.line =
          (Position.after ⟨start.line + 1, 1⟩ before).line - (start.line + 1) + 1 := by
        omega
      refine ⟨line, ?_, ?_⟩
      · simp only [feed, beq_self_eq_true, if_true]
        rw [index, List.getElem?_cons_succ]
        exact found
      · rw [if_neg (by omega)]
        simpa using within
    · have next : start.next c = ⟨start.line, start.column + 1⟩ := by simp [Position.next, feed]
      rw [next] at found within later ⊢
      dsimp only at found within later
      simp only [beq_iff_eq, feed, if_false, List.getElem?_modifyHead, Nat.sub_eq_zero_iff_le]
      by_cases same : (Position.after ⟨start.line, start.column + 1⟩ before).line = start.line
      · rw [if_pos same] at within
        rw [if_pos (Nat.le_of_eq same), if_pos same, found]
        exact ⟨c :: line, rfl, by simp only [List.length_cons]; omega⟩
      · rw [if_neg same] at within
        rw [if_neg (by omega), if_neg same]
        exact ⟨line, found, within⟩

/-- The position is not behind a place of the text, and on the same line. -/
def Reached (text : List Char) (position : Position) : Prop :=
  ∃ before after, text = before ++ after ∧ position.line = (Position.start.after before).line ∧
    1 ≤ position.column ∧ position.column ≤ (Position.start.after before).column

theorem Reached.inText {text : String} {position : Position} (reached : Reached text.toList position) :
    position.InText text := by
  obtain ⟨before, after, split, line, first, column⟩ := reached
  obtain ⟨found, here, within⟩ := exists_line_after .start before after
  have least := Position.start.line_le_after before
  rw [← split, ← line] at here
  rw [← line] at within least
  have lineAt : (Text.lines text)[position.line - 1]? = some (String.ofList found) := by
    rw [Text.lines, List.getElem?_map]
    exact congrArg (Option.map String.ofList) here
  obtain ⟨bound, same⟩ := List.getElem?_eq_some_iff.mp lineAt
  have one : Position.start.line = 1 ∧ Position.start.column = 1 := ⟨rfl, rfl⟩
  refine ⟨by omega, by omega, first, ?_⟩
  rw [same, String.length_ofList]
  split at within <;> omega

/-! ### Lines around a position -/

def shownRow (row : String × Nat) : String :=
  margin row.2 ++ row.1

def markerRow (position : Position) : String :=
  String.ofList (List.replicate ((margin position.line).length + (position.column - 1)) ' ') ++ "^^^"

def markedRows (position : Position) (above : List (String × Nat)) (line : String)
    (below : List (String × Nat)) : List String :=
  above.map shownRow ++ [shownRow (line, position.line), markerRow position] ++ below.map shownRow

/-- The lines of a text around a position, each with its number. -/
structure Surrounds (text : String) (position : Position) (above : List (String × Nat)) (line : String)
    (below : List (String × Nat)) : Prop where
  above_length : above.length = min 2 (position.line - 1)
  below_length : below.length = min 2 ((Text.lines text).length - position.line)
  numbers : (above ++ (line, position.line) :: below).map (·.2) =
    List.range' (position.line - above.length) (above.length + 1 + below.length)
  lines : ∀ row ∈ above ++ (line, position.line) :: below,
    1 ≤ row.2 ∧ (Text.lines text)[row.2 - 1]? = some row.1

def rowsAround (text : String) (line : Nat) : List (String × Nat) :=
  (((Text.lines text).zipIdx 1).take (line + 2)).drop (line - 3)

theorem mem_zipIdx_one {lines : List String} {row : String × Nat} (member : row ∈ lines.zipIdx 1) :
    1 ≤ row.2 ∧ lines[row.2 - 1]? = some row.1 := by
  rw [List.zipIdx_eq_map_add] at member
  obtain ⟨⟨line, index⟩, inside, rfl⟩ := List.mem_map.mp member
  have found := List.mem_zipIdx_iff_getElem?.mp inside
  simp only [Nat.add_sub_cancel_left]
  exact ⟨Nat.le_add_right 1 index, found⟩

section

variable {text : String} {position : Position}

theorem excerpt_eq (inText : position.InText text) :
    excerpt text position.line excerptContext =
      Text.unlines ((rowsAround text position.line).map (·.1)) := by
  have first := inText.line_pos
  have last := inText.line_le
  have start : Text.windowBound (Text.lines text).length (max 0 ((position.line : Int) - 1 - 2)) =
      position.line - 3 := by
    unfold Text.windowBound
    rw [if_pos (by omega)]
    omega
  have stop : Text.windowBound (Text.lines text).length
      (min (Text.lines text).length ((position.line : Int) + 2)) =
      min (Text.lines text).length (position.line + 2) := by
    unfold Text.windowBound
    rw [if_pos (by omega)]
    omega
  have whole : (Text.lines text).take (min (Text.lines text).length (position.line + 2)) =
      (Text.lines text).take (position.line + 2) := by
    rw [Nat.min_comm, ← List.take_eq_take_min]
  unfold excerpt excerptContext rowsAround Text.window
  dsimp only
  rw [start, stop, whole, List.map_drop, List.map_take, List.zipIdx_map_fst]

theorem rowsAround_surrounds (inText : position.InText text) :
    ∃ above line below, rowsAround text position.line = above ++ (line, position.line) :: below ∧
      Surrounds text position above line below := by
  have first := inText.line_pos
  have last := inText.line_le
  let rows := (Text.lines text).zipIdx 1
  have size : rows.length = (Text.lines text).length := List.length_zipIdx
  have here : rows[position.line - 1]? =
      some ((Text.lines text)[position.line - 1], position.line) := by
    simp only [rows, List.getElem?_zipIdx]
    rw [List.getElem?_eq_getElem (by omega), Option.map_some, Nat.add_sub_cancel' first]
  -- the window is split at the row of the position, which it always holds
  let above := (rows.take (position.line - 1)).drop (position.line - 3)
  let below := (rows.drop position.line).take 2
  have before : rows.take (position.line + 2) =
      rows.take (position.line - 1) ++ ((Text.lines text)[position.line - 1], position.line) :: below := by
    obtain ⟨bound, same⟩ := List.getElem?_eq_some_iff.mp here
    have rest : rows.drop (position.line - 1) = rows[position.line - 1] :: rows.drop position.line := by
      rw [List.drop_eq_getElem_cons bound, Nat.sub_add_cancel first]
    conv_lhs => rw [← List.take_append_drop (position.line - 1) rows, rest, same]
    have shown : position.line + 2 - (rows.take (position.line - 1)).length = 2 + 1 := by
      rw [List.length_take]
      omega
    rw [List.take_append, shown, List.take_succ_cons, List.take_of_length_le]
    rw [List.length_take]
    omega
  have split : rowsAround text position.line =
      above ++ ((Text.lines text)[position.line - 1], position.line) :: below := by
    unfold rowsAround
    rw [before, List.drop_append_of_le_length (by rw [List.length_take]; omega)]
  refine ⟨above, _, below, split, ?_, ?_, ?_, ?_⟩
  · simp only [above, List.length_drop, List.length_take, size]
    omega
  · simp only [below, List.length_drop, List.length_take, size]
  · rw [← split, rowsAround, List.map_drop, List.map_take, List.zipIdx_map_snd]
    apply List.ext_getElem
    · simp only [above, below, List.length_drop, List.length_take, List.length_range', size]
      omega
    · intro index _ _
      simp only [List.getElem_drop, List.getElem_take, List.getElem_range', above, List.length_drop,
        List.length_take, size]
      omega
  · intro row member
    rw [← split] at member
    exact mem_zipIdx_one (List.mem_of_mem_take (List.mem_of_mem_drop member))

theorem Surrounds.numbers_apart {above below : List (String × Nat)} {line : String}
    (around : Surrounds text position above line below) :
    ∀ row ∈ above ++ below, row.2 ≠ position.line := by
  have rising : (List.range' (position.line - above.length) (above.length + 1 + below.length)).Pairwise
      (· < ·) := List.pairwise_lt_range' 1
  rw [← around.numbers, List.map_append, List.map_cons, List.pairwise_append, List.pairwise_cons] at rising
  obtain ⟨-, ⟨behind, -⟩, before⟩ := rising
  intro row member
  rcases List.mem_append.mp member with member | member
  · exact Nat.ne_of_lt (before _ (List.mem_map_of_mem member) _ List.mem_cons_self)
  · exact Nat.ne_of_gt (behind _ (List.mem_map_of_mem member))

theorem flatMap_numbered_of_ne {file : String} {rows : List (String × Nat)}
    (apart : ∀ row ∈ rows, row.2 ≠ position.line) :
    rows.flatMap (fun row => (Location.of file position).numbered row.2 row.1) = rows.map shownRow := by
  induction rows with
  | nil => rfl
  | cons row rows ih =>
    have other : ((row.2 : Nat) : Int) ≠ (Location.of file position).line := by
      intro same
      exact apart row List.mem_cons_self (Int.ofNat_inj.mp same)
    rw [List.flatMap_cons, ih fun row member => apart row (List.mem_cons_of_mem _ member)]
    simp [Location.numbered, other, shownRow]

theorem numbered_self (file line : String) (inText : position.InText text) :
    (Location.of file position).numbered position.line line =
      [shownRow (line, position.line), markerRow position] := by
  have first := inText.column_pos
  have indent : (((margin position.line).length : Int) + (position.column : Int) - 1).toNat =
      (margin position.line).length + (position.column - 1) := by
    omega
  unfold Location.numbered Location.of
  rw [if_pos rfl, indent]
  rfl

theorem Surrounds.lines_excerpt {above below : List (String × Nat)} {line : String}
    (around : Surrounds text position above line below) :
    Text.lines (Text.unlines ((above ++ (line, position.line) :: below).map (·.1))) =
      (above ++ (line, position.line) :: below).map (·.1) := by
  apply Text.lines_unlines (by simp)
  intro piece member
  obtain ⟨row, inside, rfl⟩ := List.mem_map.mp member
  exact Text.newline_not_mem_lines (List.mem_of_getElem? (around.lines row inside).2)

theorem Surrounds.annotate {above below : List (String × Nat)} {line : String}
    (around : Surrounds text position above line below) (inText : position.InText text) (file : String) :
    (Location.of file position).annotate
        (Text.unlines ((above ++ (line, position.line) :: below).map (·.1))) =
      Text.unlines (markedRows position above line below) := by
  have first := inText.line_pos
  have start : (Location.of file position).firstShown = ((position.line - above.length : Nat) : Int) := by
    simp only [Location.firstShown, Location.of, excerptContext, around.above_length]
    omega
  have numbered : above ++ (line, position.line) :: below = _ := List.zip_of_prod rfl around.numbers
  have size : above.length + 1 + below.length =
      ((above ++ (line, position.line) :: below).map (·.1)).length := by
    simp only [List.length_map, List.length_append, List.length_cons]
    omega
  rw [size, ← List.zipIdx_eq_zip_range', List.zipIdx_eq_map_add] at numbered
  unfold Location.annotate
  rw [around.lines_excerpt, start]
  have apart := around.numbers_apart
  have rows := congrArg (List.flatMap fun row => (Location.of file position).numbered row.2 row.1) numbered
  rw [List.flatMap_append, List.flatMap_cons,
    flatMap_numbered_of_ne fun row member => apart row (List.mem_append_left _ member),
    flatMap_numbered_of_ne fun row member => apart row (List.mem_append_right _ member),
    numbered_self file line inText, List.flatMap_map] at rows
  unfold markedRows
  rw [List.append_assoc, rows]
  simp only [Int.natCast_add]

theorem excerpt_ne_empty (inText : position.InText text) (some : text ≠ "") :
    excerpt text position.line excerptContext ≠ "" := by
  obtain ⟨above, line, below, rows, around⟩ := rowsAround_surrounds inText
  rw [excerpt_eq inText, rows]
  intro empty
  have split := around.lines_excerpt
  rw [empty] at split
  have one : Text.lines "" = [""] := by decide
  rw [one] at split
  -- The only line shown is empty, and shows the whole text.
  have size := congrArg List.length split
  have first := around.above_length
  have last := around.below_length
  have low := inText.line_pos
  have high := inText.line_le
  simp only [List.length_cons, List.length_nil, List.length_map, List.length_append] at size
  have only : (Text.lines text).length = 1 := by omega
  obtain ⟨whole, same⟩ := List.length_eq_one_iff.mp only
  have shown := (around.lines (line, position.line) (by simp)).2
  have none : above = [] := List.eq_nil_of_length_eq_zero (by omega)
  rw [none, List.nil_append, List.map_cons] at split
  have blank : "" = line := (List.cons.inj split).1
  have here : position.line = 1 := by omega
  simp only [here, same, Nat.sub_self, List.getElem?_cons_zero] at shown
  apply some
  rw [← Text.unlines_lines text, same, Option.some.inj shown, ← blank]
  rfl

end

/-! ### Markers -/

def isMarker (row : String) : Bool :=
  row.toList.dropWhile (· == ' ') == ['^', '^', '^']

theorem isMarker_eq_false {row : String} {c : Char} (member : c ∈ row.toList) (space : c ≠ ' ')
    (tip : c ≠ '^') : isMarker row = false := by
  rw [← List.takeWhile_append_dropWhile (p := (· == ' ')) (l := row.toList), List.mem_append] at member
  apply Bool.eq_false_iff.mpr
  intro marker
  rw [eq_of_beq marker] at member
  rcases member with member | member
  · exact space (by simpa using List.all_eq_true.mp List.all_takeWhile c member)
  · simp only [List.mem_cons, List.not_mem_nil, or_false, or_self] at member
    exact tip member

theorem isMarker_markerRow (position : Position) : isMarker (markerRow position) = true := by
  simp [isMarker, markerRow]

theorem idxOf_markerRow (position : Position) :
    (markerRow position).toList.idxOf '^' = (margin position.line).length + (position.column - 1) := by
  unfold markerRow
  rw [String.toList_append, String.toList_ofList, List.idxOf_append_of_notMem (by simp [List.mem_replicate]),
    List.length_replicate]
  have tip : "^^^".toList.idxOf '^' = 0 := by decide
  rw [tip, Nat.add_zero]

theorem newline_not_mem_toDigits (number : Nat) : '\n' ∉ Nat.toDigits 10 number := by
  intro member
  exact absurd (Nat.isDigit_of_mem_toDigits (by omega) (by omega) member) (by decide)

theorem newline_not_mem_margin (number : Nat) : '\n' ∉ (margin number).toList := by
  have digits : toString (number : Int) = Nat.repr number := rfl
  simp [margin, Text.padLeft, digits, newline_not_mem_toDigits, List.mem_replicate]

end RawMapping
