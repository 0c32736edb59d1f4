import RawMapping.Files.Tree
import RawMapping.Proofs.Outcome

/-! Writing a file and reading it again. A text without carriage returns is read as it was written, and
a text that was read has none. Writing over a file leaves every path leading where it led. -/

set_option autoImplicit false

namespace RawMapping

/-! ### Line breaks -/

def Text.Portable (text : String) : Prop :=
  '\r' ∉ text.toList

instance (text : String) : Decidable (Text.Portable text) :=
  inferInstanceAs (Decidable ('\r' ∉ text.toList))

theorem Text.normalizeBreaks_of_plain {text : List Char} (plain : '\r' ∉ text) :
    Text.normalizeBreaks text = text := by
  fun_induction normalizeBreaks text with
  | case1 => rfl
  | case2 | case3 | case4 => simp_all
  | case5 c rest _ ih => rw [ih fun later => plain (List.mem_cons_of_mem c later)]

theorem Text.return_not_mem_normalizeBreaks (text : List Char) : '\r' ∉ Text.normalizeBreaks text := by
  fun_induction normalizeBreaks text with
  | case1 => exact List.not_mem_nil
  | case2 | case3 | case4 => simp_all
  | case5 c rest other ih =>
    rw [List.mem_cons, not_or]
    exact ⟨fun same => other (by simp [← same]), ih⟩

namespace Files

/-- What is read from a file can be written back and read again. -/
theorem portable_of_readText {files : Files} {path : Path} {source : String}
    (read : files.readText path = .ok source) : Text.Portable source := by
  obtain ⟨content, -, rfl⟩ := map_eq_ok_iff.mp read
  rw [Text.Portable, String.toList_ofList]
  exact Text.return_not_mem_normalizeBreaks _

/-! ### Files under their paths -/

theorem lookup_filter_of_ne {texts : List (List String × String)} {place other : List String}
    (differs : other ≠ place) :
    (texts.filter fun (key, _) => key != place).lookup other = texts.lookup other := by
  induction texts with
  | nil => rfl
  | cons text texts ih =>
    obtain ⟨key, content⟩ := text
    by_cases same : key = place
    · subst same
      simp [ih, List.lookup_cons, beq_eq_false_iff_ne.mpr differs]
    · simp [same, ih, List.lookup_cons]

section

variable {files : Files} {path : Path} {place : List String} {old : String}

theorem write_eq (placed : files.place path = .ok place) (content : String) :
    files.write path content = { files with
      texts := (place, content) :: files.texts.filter fun (other, _) => other != place } := by
  simp only [write, placed]

theorem mem_of_entry (there : files.entry place = .text old) : (place, old) ∈ files.texts := by
  unfold entry at there
  split at there
  · next found =>
    cases there
    obtain ⟨before, after, same, -⟩ := List.lookup_eq_some_iff.mp found
    rw [same]
    exact List.mem_append_right _ List.mem_cons_self
  · split at there <;> cases there

theorem entry_write (placed : files.place path = .ok place) (there : files.entry place = .text old)
    (content : String) (other : List String) :
    (files.write path content).entry other = if other = place then .text content else files.entry other := by
  have member := mem_of_entry there
  rw [write_eq placed]
  split
  · next same => simp [entry, same]
  · next differs =>
    have inside : ((place, content) :: files.texts.filter fun (key, _) => key != place).any
        (fun (key, _) => other.isPrefixOf key) = files.texts.any fun (key, _) => other.isPrefixOf key := by
      rw [Bool.eq_iff_iff, List.any_eq_true, List.any_eq_true]
      constructor
      · rintro ⟨text, inside, leads⟩
        rcases List.mem_cons.mp inside with rfl | kept
        · exact ⟨(place, old), member, leads⟩
        · exact ⟨text, (List.mem_filter.mp kept).1, leads⟩
      · rintro ⟨⟨key, text⟩, inside, leads⟩
        by_cases same : key = place
        · subst same
          exact ⟨_, List.mem_cons_self, leads⟩
        · refine ⟨(key, text), List.mem_cons_of_mem _ (List.mem_filter.mpr ⟨inside, ?_⟩), leads⟩
          simpa using same
    simp only [entry, List.lookup_cons, beq_eq_false_iff_ne.mpr differs, lookup_filter_of_ne differs, inside]

/-- A path leads where it led, since it passes through directories only. -/
theorem resolve_write (placed : files.place path = .ok place) (there : files.entry place = .text old)
    (content : String) {start reached : List String} {components : List String}
    (resolved : files.resolve start components = .ok reached) :
    (files.write path content).resolve start components = .ok reached := by
  induction components generalizing start with
  | nil => exact resolved
  | cons component components ih =>
    rw [resolve] at resolved ⊢
    cases stands : files.entry start with
    | directory =>
      have differs : start ≠ place := by
        rintro rfl
        rw [there] at stands
        cases stands
      rw [stands] at resolved
      rw [entry_write placed there, if_neg differs, stands]
      dsimp only at resolved ⊢
      split at resolved
      · cases resolved
      · next short => rw [if_neg short, ih resolved]
    | text | missing | blocked | tooLong | unnameable =>
      rw [stands] at resolved
      cases resolved

theorem place_write (placed : files.place path = .ok place) (there : files.entry place = .text old)
    (content : String) : (files.write path content).place path = .ok place := by
  have resolved := placed
  unfold Files.place at resolved ⊢
  split at resolved
  · cases resolved
  · next nameable =>
    split at resolved
    · cases resolved
    · next short =>
      rw [if_neg nameable, if_neg short]
      have same : (files.write path content).cwd = files.cwd := by rw [write_eq placed]
      rw [same]
      exact resolve_write placed there content resolved

end

theorem resolve_ne_text (files : Files) (content : String) (start components : List String) :
    files.resolve start components ≠ .error (.text content) := by
  induction components generalizing start with
  | nil => simp [resolve]
  | cons component components ih =>
    rw [resolve]
    cases files.entry start with
    | directory =>
      dsimp only
      split
      · simp
      · exact ih _
    | text | missing | blocked | tooLong | unnameable => simp

theorem exists_place {files : Files} {path : Path} {source : String}
    (read : files.readText path = .ok source) :
    ∃ place old, files.place path = .ok place ∧ files.entry place = .text old := by
  obtain ⟨content, found, -⟩ := map_eq_ok_iff.mp read
  unfold Files.read find at found
  cases placed : files.place path with
  | ok place =>
    rw [placed] at found
    cases there : files.entry place with
    | text old => exact ⟨place, old, rfl, there⟩
    | directory | missing | blocked | tooLong | unnameable =>
      simp only [there] at found
      cases found
  | error stopped =>
    rw [placed] at found
    cases stopped with
    | text old =>
      unfold Files.place at placed
      split at placed
      · cases placed
      · split at placed
        · cases placed
        · exact (files.resolve_ne_text old _ _ placed).elim
    | directory | missing | blocked | tooLong | unnameable => cases found

theorem readText_write {files : Files} {path : Path} {source text : String}
    (read : files.readText path = .ok source) (portable : Text.Portable text) :
    (files.write path text).readText path = .ok text := by
  obtain ⟨place, old, placed, there⟩ := exists_place read
  have found : (files.write path text).find path = .text text := by
    rw [find, place_write placed there]
    exact (entry_write placed there text place).trans (if_pos rfl)
  simp [readText, Files.read, found, Text.normalizeBreaks_of_plain portable, Except.map]

theorem write_write {files : Files} {path : Path} {source : String}
    (read : files.readText path = .ok source) (text : String) :
    (files.write path text).write path text = files.write path text := by
  obtain ⟨place, old, placed, there⟩ := exists_place read
  rw [write_eq (place_write placed there text), write_eq placed]
  simp

end Files

end RawMapping
