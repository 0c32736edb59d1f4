import RawMapping.Declaration.Printer
import RawMapping.Token.Lexeme

/-! Quoting a string and reading it back. What is written between quotes reads as the string it was
written from, whatever follows, so different strings have different literals. -/

set_option autoImplicit false

namespace RawMapping

theorem readString_escapeChar (c : Char) (text : List Char) :
    readString (escapeChar c ++ text) = (readString text).map (Reading.push c (escapeChar c)) := by
  unfold escapeChar
  split
  · next backslash => subst backslash; rfl
  · split
    · next quote => subst quote; rfl
    · split
      · next feed => subst feed; rfl
      · split
        · next tab => subst tab; rfl
        · next backslash quote feed _ =>
          rw [List.singleton_append, readString.eq_def]
          simp [backslash, quote, feed]

theorem readString_escaped (value rest : List Char) :
    readString (value.flatMap escapeChar ++ '"' :: rest) =
      some ⟨value, value.flatMap escapeChar ++ ['"'], rest⟩ := by
  induction value with
  | nil => simp [readString.eq_def]
  | cons c value ih =>
    rw [List.flatMap_cons, List.append_assoc, readString_escapeChar, ih]
    simp [Reading.push]

theorem toList_quoteString (value : String) :
    (quoteString value).toList = '"' :: (value.toList.flatMap escapeChar ++ ['"']) := by
  simp [quoteString]

theorem quoteString_injective {first second : String} (same : quoteString first = quoteString second) :
    first = second := by
  have texts := congrArg String.toList same
  rw [toList_quoteString, toList_quoteString] at texts
  have readings := congrArg readString (List.cons.inj texts).2
  rw [readString_escaped, readString_escaped] at readings
  exact String.toList_inj.mp (congrArg Reading.value (Option.some.inj readings))

end RawMapping
