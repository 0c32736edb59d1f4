import RawMapping.Declaration.Tree
import RawMapping.Report.Apply
import RawMapping.Value.Evaluate

/-! Editing sessions: a current declaration, the diagnostics of every expansion that failed, and the
latest expansion. Identities are never given out twice in a session, so a fix of an old diagnostic
applies only if the nodes it replaces have stayed in the declaration. What a recorded fix adds has its
identities from the moment it is recorded, so applying it puts the same nodes wherever it applies. -/

set_option autoImplicit false

namespace RawMapping

/-! ### Recording -/

def Change.issue (change : Change Stamp) : StateM Nat (Change Stamp) := do
  return { change with new := (← change.new.renew settle).map .kept }

def Fix.issue (fix : Fix Stamp) : StateM Nat (Fix Stamp) := do
  return { fix with changes := ← fix.changes.mapM Change.issue }

def Diagnostic.issue (diagnostic : Diagnostic Stamp) : StateM Nat (Diagnostic Stamp) := do
  return { diagnostic with fixes := ← diagnostic.fixes.mapM Fix.issue }

/-! ### Sessions -/

structure Session where
  root : Option (Declaration Stamp) := none
  /-- The next identity to give out. -/
  next : Nat := 0
  settings : Settings := {}
  /-- The diagnostics of the latest expansion. -/
  latest : List (Diagnostic Stamp) := []
  /-- The diagnostics of every failed expansion, the newest first. -/
  history : List (List (Diagnostic Stamp)) := []
  expansion : Option (Expansion (Option Stamp)) := none

namespace Session

def withEdited (session : Session) (edited : Edited) : Session :=
  { session with root := some edited.root, next := edited.next }

/-- Takes up a declaration. Nothing else is reset. -/
def load (session : Session) (declaration : Declaration (Option Location)) : Session :=
  session.withEdited (Edited.load session.next declaration)

def expand (session : Session) (root : Declaration Stamp) :
    Except (ExpandError Stamp) (Expansion (Option Stamp)) × Session :=
  let cleared := { session with expansion := none, latest := [] }
  match root.expand session.settings with
  | .ok expansion => (.ok expansion, { cleared with expansion := some expansion })
  | .error (.rejected diagnostics) =>
    -- the new nodes of every fix get their identities now, so a fix always adds the same ones
    let (recorded, next) := (diagnostics.mapM Diagnostic.issue).run session.next
    (.error (.rejected recorded),
      { cleared with next, latest := recorded, history := recorded :: session.history })
  | .error error => (.error error, cleared)

def applyFix (session : Session) (root : Declaration Stamp) (fix : Fix Stamp) :
    Except ReplaceError Session :=
  (fix.apply ⟨root, session.next⟩).map session.withEdited

/-- Replaces a node of the current declaration, which has to stay one that can be printed and expanded. -/
def replaceNode (session : Session) (root : Declaration Stamp) (old : Node Stamp)
    (new : Node (Draft Stamp)) : Except ReplaceError Session := do
  let (tree, next) ← Edited.exchange ⟨root, session.next⟩ old new.tree
  match tree.declaration? with
  | some root => return session.withEdited ⟨root, next⟩
  | none => throw (.misplaced old.kind new.kind)

/-- A fix of a recorded diagnostic: of the report `back` places before the newest one. -/
def recordedFix? (session : Session) (back diagnostic fix : Nat) : Option (Fix Stamp) := do
  let report ← session.history[back]?
  let found ← report[diagnostic]?
  found.fixes[fix]?

/-! ### Steps -/

inductive Step where
  | configure (settings : Settings)
  | expand
  /-- Applies a recorded fix, given as in `recordedFix?`. -/
  | apply (back diagnostic fix : Nat)
  deriving DecidableEq, Repr

/-- Takes a step. A fix that is not there or cannot be applied changes nothing. -/
def perform (session : Session) (step : Step) : Session :=
  match session.root, step with
  | _, .configure settings => { session with settings }
  | none, _ => session
  | some root, .expand => (session.expand root).2
  | some root, .apply back diagnostic fix =>
    match session.recordedFix? back diagnostic fix with
    | none => session
    -- a fix that cannot be applied is passed over
    | some fix => (session.applyFix root fix).toOption.getD session

def run (session : Session) (steps : List Step) : Session :=
  steps.foldl perform session

end Session

end RawMapping
