import RawMapping.Files.Path

/-! Command lines: options that hold for every command, the command, its options and its file. An option
has a letter and a word, and may take a value, which stands behind it in any form: as the next argument,
after an equals sign behind the word, or right behind the letter. The last value of an option counts. -/

set_option autoImplicit false

namespace RawMapping

structure OptionSpec where
  letter : Char
  word : String
  takesValue : Bool

abbrev FoundOption := Char × Option String

structure SplitArguments where
  options : List FoundOption
  others : List String

namespace SplitArguments

def withOption (found : FoundOption) (split : SplitArguments) : SplitArguments :=
  { split with options := found :: split.options }

def withOptions (found : List FoundOption) (split : SplitArguments) : SplitArguments :=
  { split with options := found ++ split.options }

def withOther (argument : String) (split : SplitArguments) : SplitArguments :=
  { split with others := argument :: split.others }

def has (split : SplitArguments) (letter : Char) : Bool :=
  split.options.any (·.1 == letter)

def value? (split : SplitArguments) (letter : Char) : Option String :=
  (split.options.reverse.find? (·.1 == letter)).bind (·.2)

end SplitArguments

/-- Options written as letters behind one dash. The last of them may still lack its value. -/
structure LetterRun where
  found : List FoundOption
  missing : Option Char

def readLetters (specs : List OptionSpec) : List Char → Option LetterRun
  | [] => some ⟨[], none⟩
  | c :: rest =>
    match specs.find? (·.letter == c) with
    | none => none
    | some spec =>
      if spec.takesValue then
        if rest.isEmpty then some ⟨[], some c⟩ else some ⟨[(c, some (String.ofList rest))], none⟩
      else (readLetters specs rest).map fun run => { run with found := (c, none) :: run.found }

inductive ArgumentForm where
  | other
  /-- Two dashes: no options follow. -/
  | divider
  | options (run : LetterRun)
  | unknown

/-- An option written as a word, with its value if that is written behind an equals sign. -/
def readWord (specs : List OptionSpec) (text : List Char) : ArgumentForm :=
  let word := String.ofList (text.takeWhile (· != '='))
  match specs.find? (·.word == word) with
  | none => .unknown
  | some spec =>
    match text.dropWhile (· != '='), spec.takesValue with
    | [], true => .options ⟨[], some spec.letter⟩
    | [], false => .options ⟨[(spec.letter, none)], none⟩
    | _ :: value, true => .options ⟨[(spec.letter, some (String.ofList value))], none⟩
    | _ :: _, false => .unknown

def ArgumentForm.of (specs : List OptionSpec) (argument : String) : ArgumentForm :=
  match argument.toList with
  | ['-', '-'] => .divider
  | '-' :: '-' :: word => readWord specs word
  | '-' :: c :: letters =>
    match readLetters specs (c :: letters) with
    | some run => .options run
    | none => .unknown
  | _ => .other

/-- Tells options from other arguments. Without `mixed`, no options follow the first other argument. -/
def splitArguments (specs : List OptionSpec) (mixed : Bool) : List String → Option SplitArguments
  | [] => some ⟨[], []⟩
  | argument :: arguments =>
    match ArgumentForm.of specs argument with
    | .unknown => none
    | .divider => some ⟨[], arguments⟩
    | .other =>
      if mixed then (splitArguments specs mixed arguments).map (·.withOther argument)
      else some ⟨[], argument :: arguments⟩
    | .options ⟨found, none⟩ => (splitArguments specs mixed arguments).map (·.withOptions found)
    -- the next argument is the value, also if it looks like an option
    | .options ⟨found, some letter⟩ =>
      match arguments with
      | [] => none
      | value :: rest =>
        (splitArguments specs mixed rest).map fun split =>
          (split.withOption (letter, some value)).withOptions found

inductive Format where
  | human
  | singleLine
  deriving DecidableEq, Repr

def Format.ofText (text : String) : Format :=
  if text == "vscode" then .singleLine else .human

structure EvalRequest where
  decode : Option String
  encode : Option String
  typeName : Option String

inductive Command where
  | check (file : Path) (format : Format)
  | expand (file : Path)
  | fix (file : Path) (write : Bool)
  | eval (file : Path) (request : EvalRequest)

inductive Invocation where
  | version
  | run (verbose : Bool) (config : Option Path) (command : Command)

def globalOptions : List OptionSpec :=
  [⟨'V', "version", false⟩, ⟨'c', "config", true⟩, ⟨'v', "verbose", false⟩]

def checkOptions : List OptionSpec :=
  [⟨'f', "format", true⟩]

def fixOptions : List OptionSpec :=
  [⟨'w', "write", false⟩]

def evalOptions : List OptionSpec :=
  [⟨'d', "decode", true⟩, ⟨'e', "encode", true⟩, ⟨'t', "type", true⟩]

def splitForFile (specs : List OptionSpec) (arguments : List String) : Option (Path × SplitArguments) := do
  let split ← splitArguments specs true arguments
  match split.others with
  | [file] => return (Path.ofText file, split)
  | _ => none

def Command.ofArguments? (name : String) (arguments : List String) : Option Command :=
  match name with
  | "check" => do
    let (file, split) ← splitForFile checkOptions arguments
    return .check file (.ofText ((split.value? 'f').getD "human"))
  | "expand" => do
    let (file, _) ← splitForFile [] arguments
    return .expand file
  | "fix" => do
    let (file, split) ← splitForFile fixOptions arguments
    return .fix file (split.has 'w')
  | "eval" => do
    let (file, split) ← splitForFile evalOptions arguments
    return .eval file ⟨split.value? 'd', split.value? 'e', split.value? 't'⟩
  | _ => none

def Invocation.ofArguments? (arguments : List String) : Option Invocation := do
  let split ← splitArguments globalOptions false arguments
  if split.has 'V' then return .version
  match split.others with
  | name :: rest =>
    let command ← Command.ofArguments? name rest
    return .run (split.has 'v') ((split.value? 'c').map Path.ofText) command
  | [] => none

end RawMapping
