import RawMapping.Declaration.Replace
import RawMapping.Derived.Expand

/-! Applying fixes. A fix applies to any declaration that still has the nodes it replaces. Fixing a
declaration expands it, applies the first fix offered and starts again, until the declaration expands,
no fix is offered, or the bound on the number of fixes is reached. The declarations of a file are fixed
each on its own, and those that are not annotated stay as they are. -/

set_option autoImplicit false

namespace RawMapping

def Fix.apply (fix : Fix Stamp) (edited : Edited) : Except ReplaceError Edited :=
  fix.changes.foldlM (fun edited change => edited.replaceNode change.old change.new) edited

structure FixRun where
  /-- The fixes that were applied, each with the declaration it was applied to. -/
  passes : List (Declaration Stamp × Fix Stamp)
  result : Edited
  /-- The diagnostics of the result. -/
  remaining : List (Diagnostic Stamp)
  /-- A fix was offered but the bound was reached. -/
  exhausted : Bool

def FixRun.stopped (edited : Edited) (remaining : List (Diagnostic Stamp)) (exhausted : Bool) : FixRun :=
  ⟨[], edited, remaining, exhausted⟩

def Edited.fix (settings : Settings) (passes : Nat) (edited : Edited) : FixRun :=
  match edited.root.expand settings with
  | .ok _ | .error (.notAnnotated _) => .stopped edited [] false
  | .error (.rejected diagnostics) =>
    match firstFix? diagnostics with
    | none => .stopped edited diagnostics false
    | some fix =>
      match passes with
      | 0 => .stopped edited diagnostics true
      | passes + 1 =>
        match fix.apply edited with
        | .error _ => .stopped edited diagnostics false
        | .ok next =>
          let run := next.fix settings passes
          { run with passes := (edited.root, fix) :: run.passes }

/-! ### Files -/

def fixAll (settings : Settings) (declarations : List (Declaration (Option Location))) : List FixRun :=
  declarations.map fun declaration =>
    -- identities are told apart within one declaration only
    (Edited.load 0 declaration).fix settings settings.maxFixPasses

def fixedText (runs : List FixRun) : String :=
  declarationsText (runs.map (·.result.root))

def remainingCount (runs : List FixRun) : Nat :=
  (runs.flatMap (·.remaining)).length

end RawMapping
