import RawMapping.Config

/-! What a command does that can be seen from outside, in order: text on one of the two outputs, and
lines of a log that shares the error output. Text goes through a console, of which commands know little:
it passes plain text on, and it prints marked up text or refuses to. -/

set_option autoImplicit false

namespace RawMapping

structure Console where
  /-- What arrives on an output of a text that is echoed. -/
  echoed : String → String
  /-- Only control sequences are lost, and they begin with an escape character. -/
  echoed_of_plain : ∀ text : String, '\x1b' ∉ text.toList → echoed text = text
  /-- Text written so that nothing in it is markup. -/
  escaped : String → String
  /-- What arrives of marked up text, or why it cannot be printed. -/
  printed : String → Except String String

inductive Component where
  | parser
  | expander
  | fixer
  | commands
  deriving DecidableEq, Repr

def Component.text : Component → String
  | .parser => "rawenum.core.dsl_parser_impl"
  | .expander => "rawenum.core.expander"
  | .fixer => "rawenum.core.fixes"
  | .commands => "rawenum.cli.commands"

inductive Event where
  | out (text : String)
  | err (text : String)
  | log (level : Level) (component : Component) (message : String)
  deriving DecidableEq, Repr

def Console.say (console : Console) (line : String) : Event :=
  .out (console.echoed line ++ "\n")

def Console.warn (console : Console) (line : String) : Event :=
  .err (console.echoed line ++ "\n")

def Event.outText : Event → String
  | .out text => text
  | _ => ""

def Event.errText (threshold : Level) : Event → String
  | .out _ => ""
  | .err text => text
  | .log level component message =>
    if threshold.rank ≤ level.rank then s!"{level.text} {component.text}: {message}\n" else ""

def outText (events : List Event) : String :=
  String.join (events.map Event.outText)

def errText (threshold : Level) (events : List Event) : String :=
  String.join (events.map (Event.errText threshold))

end RawMapping
