import RawMapping.Command.Event
import RawMapping.Console.Markup

/-! A console whose outputs are not terminals. Control sequences of terminals are left out of what is
echoed: an escape character, an opening bracket, parameters and a letter. -/

set_option autoImplicit false

namespace RawMapping

/-- Characters that the parameters of a control sequence are made of. -/
def isSequenceParameter (c : Char) : Bool :=
  c == ';' || c == '?' || c.isDigit

/-- What follows a control sequence, from behind its escape character. -/
def behindSequence? (text : List Char) : Option (List Char) :=
  match text with
  | '[' :: rest =>
    match rest.dropWhile isSequenceParameter with
    | c :: after => if c.isAlpha then some after else none
    | [] => none
  | _ => none

theorem behindSequence?_shorter {text rest : List Char} (h : behindSequence? text = some rest) :
    rest.length ≤ text.length := by
  unfold behindSequence? at h
  split at h
  · next inner =>
    split at h
    · next c after hd =>
      split at h
      · cases h
        have shorter := (List.dropWhile_sublist isSequenceParameter (l := inner)).length_le
        rw [hd, List.length_cons] at shorter
        simp only [List.length_cons]
        omega
      · cases h
    · cases h
  · cases h

def stripSequences (text : List Char) : List Char :=
  match text with
  | [] => []
  | c :: rest =>
    if c = '\x1b' then
      match _h : behindSequence? rest with
      | some after => stripSequences after
      | none => c :: stripSequences rest
    else c :: stripSequences rest
termination_by text.length
decreasing_by
  · have := behindSequence?_shorter ‹_›; simp only [List.length_cons]; omega
  · simp
  · simp

theorem stripSequences_of_plain {text : List Char} (plain : '\x1b' ∉ text) :
    stripSequences text = text := by
  induction text with
  | nil => simp [stripSequences]
  | cons c text ih =>
    rw [List.mem_cons, not_or] at plain
    rw [stripSequences, if_neg (Ne.symm plain.1), ih plain.2]

def plainConsole : Console where
  echoed text := String.ofList (stripSequences text.toList)
  echoed_of_plain text plain := by rw [stripSequences_of_plain plain, String.ofList_toList]
  escaped := escapeMarkup
  printed markup := (printedMarkup markup).mapError MarkupError.message

end RawMapping
