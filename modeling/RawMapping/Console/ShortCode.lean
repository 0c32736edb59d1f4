import RawMapping.Console.EmojiTable
import RawMapping.Text.CharSet

/-! Short codes in printed text: a name between colons, such as `:100:`, is shown as the emoji of that
name. A name may be followed by the presentation that is wanted. A code that names no emoji stays. -/

set_option autoImplicit false

namespace RawMapping

def hexNumber (digits : List Char) : Nat :=
  digits.foldl (fun value c =>
    16 * value + (if c.isDigit then c.toNat - '0'.toNat else c.toNat - 'a'.toNat + 10)) 0

def entryEmoji? (name entry : List Char) : Option (List Char) :=
  if entry.takeWhile (· != ' ') == name then
    let codes := (entry.dropWhile (· != ' ')).drop 1
    some ((codes.splitOn '+').map fun digits => Char.ofNat (hexNumber digits))
  else none

def findEmoji? (name : List Char) : Option (List Char) :=
  emojiRows.findSome? fun row => (row.toList.splitOn ';').findSome? (entryEmoji? name)

def lowerNameChar (c : Char) : Char :=
  if 0xc0 ≤ c.toNat && c.toNat ≤ 0xde && c.toNat != 0xd7 then Char.ofNat (c.toNat + 32)
  else if c.toNat = 0x212a then 'k'
  else if c.toNat = 0x212b then Char.ofNat 0xe5
  else c.toLower

/-- White space, which no short code has in it. -/
def isCodeBreak (c : Char) : Bool :=
  Text.isBlank c || (0x1c ≤ c.toNat && c.toNat ≤ 0x1f)

structure ShortCode where
  name : List Char
  /-- The character that selects a presentation, if one is asked for. -/
  variant : List Char
  written : List Char
  rest : List Char

/-- What follows `word` at the front of a text. -/
def behind? (word : String) (text : List Char) : Option (List Char) :=
  if word.toList.isPrefixOf text then some (text.drop word.length) else none

def readCodeEnd? (text : List Char) : Option ShortCode :=
  match behind? "-emoji:" text with
  | some rest => some ⟨[], [Char.ofNat 0xfe0f], "-emoji:".toList, rest⟩
  | none =>
    match behind? "-text:" text with
    | some rest => some ⟨[], [Char.ofNat 0xfe0e], "-text:".toList, rest⟩
    | none => (behind? ":" text).map fun rest => ⟨[], [], [':'], rest⟩

def readCode? : List Char → Option ShortCode
  | [] => none
  | c :: text =>
    match readCodeEnd? (c :: text) with
    | some code => some code
    | none =>
      if isCodeBreak c then none
      else
        (readCode? text).map fun code => { code with name := c :: code.name, written := c :: code.written }

theorem readCodeEnd?_shorter {text : List Char} {code : ShortCode} (h : readCodeEnd? text = some code) :
    code.rest.length ≤ text.length := by
  have drops (word : String) (rest : List Char) (hb : behind? word text = some rest) :
      rest.length ≤ text.length := by
    unfold behind? at hb
    split at hb
    · cases hb; simp
    · cases hb
  unfold readCodeEnd? at h
  split at h
  · next rest hb => cases h; exact drops _ _ hb
  · split at h
    · next rest hb => cases h; exact drops _ _ hb
    · obtain ⟨rest, hb, rfl⟩ := Option.map_eq_some_iff.1 h
      exact drops _ _ hb

theorem readCode?_shorter {text : List Char} {code : ShortCode} (h : readCode? text = some code) :
    code.rest.length ≤ text.length := by
  induction text generalizing code with
  | nil => simp [readCode?] at h
  | cons c text ih =>
    unfold readCode? at h
    split at h
    · next found he => cases h; exact readCodeEnd?_shorter he
    · split at h
      · cases h
      · obtain ⟨inner, hi, rfl⟩ := Option.map_eq_some_iff.1 h
        have := ih hi
        simp only [List.length_cons]
        omega

/-- A short code as it is shown: its emoji in the presentation asked for, or itself. -/
def ShortCode.shown (code : ShortCode) : List Char :=
  match findEmoji? (code.name.map lowerNameChar) with
  | some emoji => emoji ++ code.variant
  | none => ':' :: code.written

def replaceCodes (text : List Char) : List Char :=
  match text with
  | [] => []
  | c :: rest =>
    if c = ':' then
      match _h : readCode? rest with
      | none => c :: replaceCodes rest
      | some code => code.shown ++ replaceCodes code.rest
    else c :: replaceCodes rest
termination_by text.length
decreasing_by
  · simp
  · have := readCode?_shorter ‹_›; simp only [List.length_cons]; omega
  · simp

end RawMapping
