import RawMapping.Command.Event
import RawMapping.Report.Diagnostic

/-! How diagnostics are shown: for people, with the source around them, their notes and their fixes; or
on single lines, for an editor to read. -/

set_option autoImplicit false

namespace RawMapping

/-- The location of a node; one that was never written is shown at the beginning of the file. -/
def Node.shownLocation (file : String) (node : Node (Option Location)) : Location :=
  node.tag.getD ⟨file, 1, 1⟩

def Note.markup (console : Console) (file : String) (note : Note (Option Location)) : String :=
  "  [cyan]note[/cyan]: " ++ (note.anchor.shownLocation file).text ++ ": " ++
    console.escaped note.kind.message

def Fix.markup (console : Console) (fix : Fix (Option Location)) : String :=
  "  [green]fix[/green]: " ++ console.escaped fix.kind.message

def Diagnostic.headline (console : Console) (diagnostic : Diagnostic (Option Location)) : String :=
  "[bold red]error[/bold red]: " ++ console.escaped diagnostic.message ++
    " [dim]\\[" ++ messageId diagnostic.kind.text ++ "][/dim]"

def Diagnostic.printed (console : Console) (file source : String)
    (diagnostic : Diagnostic (Option Location)) : List (Except String String) :=
  let location := diagnostic.anchor.shownLocation file
  ([diagnostic.headline console, console.escaped (location.inSource source)] ++
    diagnostic.notes.map (Note.markup console file) ++
    diagnostic.fixes.map (Fix.markup console)).map console.printed

def Diagnostic.singleLines (file : String) (diagnostic : Diagnostic (Option Location)) : List String :=
  ((diagnostic.anchor.shownLocation file).text ++ ": error: " ++ diagnostic.message) ::
    diagnostic.notes.map fun note =>
      (note.anchor.shownLocation file).text ++ ": note: " ++ note.kind.message

end RawMapping
