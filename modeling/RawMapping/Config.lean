import RawMapping.Case.Mapping
import RawMapping.Files.Tree
import RawMapping.Text.UpperCase
import RawMapping.Toml.Document

/-! Configuration files. A file is used if it is named, or if the default one is in the directory that
is asked for; without one, the defaults hold. Of all that is wrong with a file, the first is reported. -/

set_option autoImplicit false

namespace RawMapping

inductive Level where
  | debug
  | info
  | warning
  | error
  | critical
  deriving DecidableEq, Repr

def Level.all : List Level :=
  [.debug, .info, .warning, .error, .critical]

def Level.text : Level → String
  | .debug => "DEBUG"
  | .info => "INFO"
  | .warning => "WARNING"
  | .error => "ERROR"
  | .critical => "CRITICAL"

def Level.rank : Level → Nat
  | .debug => 10
  | .info => 20
  | .warning => 30
  | .error => 40
  | .critical => 50

structure Config where
  settings : Settings := {}
  level : Level := .warning
  /-- The file that the configuration was read from. -/
  path : Option Path := none

inductive ConfigError where
  | notFound (path : Path)
  | invalidToml (path : Path)
  | notATable (path : Path) (key : String) (found : Toml)
  | notAText (path : Path) (key : String) (found : Toml)
  | notPositive (path : Path) (key : String) (found : Toml)
  | unknownLevel (path : Path) (name : String)
  /-- A value that a message would have to show is too long to be written. -/
  | tooLongToShow
  | numeral (fault : Text.NumeralFault)
  | unreadable (error : FileError)

/-- A message about a configuration file points at its beginning. -/
def aboutFile (path : Path) (message : String) : String :=
  (Location.mk path.text 1 1).text ++ "\n" ++ message

def ConfigError.message : ConfigError → String
  | .notFound path => "Config file not found: " ++ path.text
  | .invalidToml path => aboutFile path "Invalid TOML"
  | .notATable path key found => aboutFile path s!"[{key}] must be a table, got {found.show}"
  | .notAText path key found =>
    aboutFile path s!"'{key}' must be a non-empty string, got {found.show}"
  | .notPositive path key found =>
    aboutFile path s!"'{key}' must be a positive integer, got {found.show}"
  | .unknownLevel path name =>
    aboutFile path s!"Unknown logging level '{name}' (expected one of " ++
      ", ".intercalate (Level.all.map Level.text) ++ ")"
  | .tooLongToShow =>
    s!"Exceeds the limit ({Text.digitLimit} digits) for integer string conversion; " ++
      "use sys.set_int_max_str_digits() to increase the limit"
  | .numeral fault => fault.message
  | .unreadable error => error.message

namespace Config

/-- Reports a value, unless it is too long to be shown. -/
def refuse {α : Type} (error : Toml → ConfigError) (found : Toml) : Except ConfigError α :=
  .error (if found.isShowable then error found else .tooLongToShow)

def requireTable (path : Path) (table : TomlTable) (key : String) : Except ConfigError TomlTable :=
  match table.lookup key with
  | none => .ok []
  | some (.table inner) => .ok inner
  | some found => refuse (.notATable path key) found

def requireText (path : Path) (table : TomlTable) (key default : String) : Except ConfigError String :=
  match table.lookup key with
  | none => .ok default
  | some (.string value) =>
    if value == "" then refuse (.notAText path key) (.string value) else .ok value
  | some found => refuse (.notAText path key) found

def requirePositive (path : Path) (table : TomlTable) (key : String) (default : Nat) :
    Except ConfigError Nat :=
  match table.lookup key with
  | none => .ok default
  | some (.integer value) =>
    if value < 1 then refuse (.notPositive path key) (.integer value) else .ok value.toNat
  | some found => refuse (.notPositive path key) found

def requireLevel (path : Path) (table : TomlTable) : Except ConfigError Level := do
  let name := Text.upper (← requireText path table "level" Level.warning.text)
  match Level.all.find? (·.text == name) with
  | some level => return level
  | none => throw (.unknownLevel path name)

def ofToml (path : Path) (document : TomlTable) : Except ConfigError Config := do
  let defaults : Settings := {}
  let expansion ← requireTable path document "expansion"
  let defaultCaseName ← requireText path expansion "default_case_name" defaults.defaultCaseName
  let placeholderLabel ← requireText path expansion "placeholder_label" defaults.placeholderLabel
  let maxFixPasses ← requirePositive path expansion "max_fix_passes" defaults.maxFixPasses
  let logging ← requireTable path document "logging"
  let level ← requireLevel path logging
  return ⟨⟨defaultCaseName, placeholderLabel, maxFixPasses⟩, level, some path⟩

def load (files : Files) (path : Path) : Except ConfigError Config := do
  let content ← (files.read path).mapError .unreadable
  match TomlReader.parse content with
  | .ok document => ofToml path document
  | .error .invalid => throw (.invalidToml path)
  | .error (.numeral fault) => throw (.numeral fault)

def defaultFileName : String := "rawenum.toml"

/-- The configuration to use: from the file that is named, which must be there, or else from the
default file of a directory, which need not. -/
def find (files : Files) (directory : Path) (named : Option Path) : Except ConfigError Config := do
  let path := named.getD (directory.child defaultFileName)
  if ← (files.contains path).mapError .unreadable then load files path
  else
    match named with
    | some path => throw (.notFound path)
    | none => return {}

end Config

end RawMapping
