import WgMix.FakeTcp.Controller
import WgMix.Foundation.Effects
import WgMix.Foundation.Runs

/-! The recovery of checkpointed side effects over process lifetimes. A store
operation may fail before or after it took effect, a backend call may fail and
the process may end at every one of them; the store is what survives. -/
namespace WgMix.FakeTcp.WriteAhead
open Effects

/-- What happens at one write to the store: it is answered by the store, it fails
without or with its effect, or the process ends there. -/
inductive Answer where
  | done
  | refused
  | unseen
  | died (applied : Bool)
  deriving DecidableEq, Repr

/-- What happens at a backend call or a read of the store. -/
inductive Reply where
  | done
  | failed
  | died
  deriving DecidableEq, Repr

inductive Cause where
  | cancelled
  | load
  | store
  | backend
  | revisionExhausted
  | operationExhausted
  | identityMismatch
  | checkpoint (cause : ExecError)
  deriving DecidableEq

/-- How a call ends early; `died` is the end of the process. -/
inductive Stop where
  | failed (cause : Cause)
  | recoveryRequired (cause : Option Cause)
  | died
  deriving DecidableEq

structure RecoveryReport where
  replayedControls : Nat := 0
  skippedAmbiguousReinjections : Nat := 0
  completedSteps : Nat := 0
  deriving DecidableEq, Repr

/-- Effects in the order they happened. `seen` tells whether the caller learned
that a move took effect; `skipped` is the increment of the report. -/
inductive Event where
  | created (steps : List ActionStep)
  | moved (phase : ActionCheckpointPhase) (nextStep : Nat) (seen : Bool)
  | called (index : Nat) (step : ActionStep)
  | skipped (index : Nat)
  | deleted
  deriving DecidableEq

/-- The two contracts that `bindActionCheckpointUpdate` chooses from. -/
inductive UpdateContract where
  | transition
  | update
  deriving DecidableEq, Repr

structure State where
  store : ActionCheckpointStore
  nextOperation : Nat
  report : RecoveryReport := {}
  history : List Event

abbrev Program := EStateM Stop State

/-- Everything that the surroundings decide during one call; the steps of one
call are at distinct positions. -/
structure Script where
  entryCancelled : Bool := false
  load : Reply := .done
  create : Answer := .done
  resume : Answer := .done
  cancelled : Nat → Bool := fun _ => false
  attempt : Nat → Answer := fun _ => .done
  backend : Nat → Reply := fun _ => .done
  complete : Nat → Answer := fun _ => .done
  delete : Answer := .done

section Store
variable (host : Host)

/-- Revisions are 64-bit and never reused; the last check of every write. -/
def allocateRevision (store : ActionCheckpointStore) (written : Except ExecError α) : Except Cause α :=
  match written with
  | .error cause => .error (.checkpoint cause)
  | .ok value => if store.nextRevision ≥ 2 ^ 64 then .error .revisionExhausted else .ok value

def createActionCheckpoint (checkpoint : ActionCheckpoint) (store : ActionCheckpointStore) :
    Except Cause (ActionCheckpointStore × ActionCheckpoint) :=
  allocateRevision store (store.create host checkpoint)

/-- The base contract replaces the whole checkpoint. -/
def updateActionCheckpoint (checkpoint : ActionCheckpoint) (store : ActionCheckpointStore) :
    Except Cause (ActionCheckpointStore × ActionCheckpoint) :=
  allocateRevision store <|
    if checkpoint.revision = 0 then .error .checkpointCorrupt
    else
      match validateActionCheckpoint host checkpoint with
      | .error cause => .error cause
      | .ok () =>
        match store.checkpoint with
        | none => .error .checkpointConflict
        | some stored =>
          if stored.revision ≠ checkpoint.revision then .error .checkpointConflict
          else
            let written := { checkpoint with revision := store.nextRevision }
            .ok (⟨some written, store.nextRevision + 1⟩, written)

def updateCheckpoint (contract : UpdateContract) (checkpoint : ActionCheckpoint)
    (phase : ActionCheckpointPhase) (nextStep : Nat) (store : ActionCheckpointStore) :
    Except Cause (ActionCheckpointStore × ActionCheckpoint) :=
  match contract with
  | .transition => allocateRevision store (store.transition checkpoint phase nextStep)
  | .update => updateActionCheckpoint host { checkpoint with phase, nextStep } store

def deleteActionCheckpoint (revision : Nat) (store : ActionCheckpointStore) :
    Except Cause (ActionCheckpointStore × Unit) :=
  match store.delete revision with
  | .error cause => .error (.checkpoint cause)
  | .ok store => .ok (store, ())

end Store

namespace State

def put (state : State) (store : ActionCheckpointStore) (event : Event) : State :=
  { state with store, history := state.history ++ [event] }

def note (state : State) (event : Event) : State := { state with history := state.history ++ [event] }

end State

/-- One write to the store under an answer. -/
def write (answer : Answer) (wrap : Cause → Stop) (event : Bool → Event)
    (apply : ActionCheckpointStore → Except Cause (ActionCheckpointStore × α)) : Program α := fun state =>
  match answer with
  | .refused => .error (wrap .store) state
  | .died false => .error .died state
  | .done =>
    match apply state.store with
    | .error cause => .error (wrap cause) state
    | .ok (store, value) => .ok value (state.put store (event true))
  | .unseen =>
    match apply state.store with
    | .error cause => .error (wrap cause) state
    | .ok (store, _) => .error (wrap .store) (state.put store (event false))
  | .died true =>
    match apply state.store with
    | .error _ => .error .died state
    | .ok (store, _) => .error .died (state.put store (event false))

def load (reply : Reply) : Program (Option ActionCheckpoint) := fun state =>
  match reply with
  | .done => .ok state.store.checkpoint state
  | .failed => .error (.failed .load) state
  | .died => .error .died state

def required (cause : Cause) : Stop := .recoveryRequired (some cause)

/-- A failed create names recovery only when another checkpoint was in the way. -/
def createFailure (cause : Cause) : Stop :=
  if cause = .checkpoint .checkpointConflict then required cause else .failed cause

def executeActionStep (index : Nat) (step : ActionStep) (reply : Reply) : Program Unit := fun state =>
  match reply with
  | .done => .ok () (state.note (.called index step))
  | .failed => .error (required .backend) (state.note (.called index step))
  | .died => .error .died (state.note (.called index step))

def countReplay : Program Unit := fun state =>
  .ok () { state with report.replayedControls := state.report.replayedControls + 1 }

def countSkip (index : Nat) : Program Unit := fun state =>
  .ok () { state.note (.skipped index) with
    report.skippedAmbiguousReinjections := state.report.skippedAmbiguousReinjections + 1 }

def countStep : Program Unit := fun state =>
  .ok () { state with report.completedSteps := state.report.completedSteps + 1 }

def takeOperation : Program Unit := fun state =>
  .ok () { state with nextOperation := (state.nextOperation + 1) % 2 ^ 64 }

section Calls
variable (host : Host) (contract : UpdateContract) (script : Script)

def moveTo (answer : Answer) (checkpoint : ActionCheckpoint) (phase : ActionCheckpointPhase) (nextStep : Nat) :
    Program ActionCheckpoint :=
  write answer required (.moved phase nextStep) (updateCheckpoint host contract checkpoint phase nextStep)

/-- A step found attempting: its outcome is unknown, so a control is replayed and
a reinjection is given up. -/
def resumeAttempting (checkpoint : ActionCheckpoint) (recovering : Bool) : Program ActionCheckpoint :=
  match checkpoint.phase with
  | .prepared => pure checkpoint
  | .attempting =>
    match checkpoint.steps[checkpoint.nextStep]?, recovering with
    | none, _ => throw (.failed (.checkpoint .checkpointCorrupt))
    | some _, false => throw (.recoveryRequired none)
    | some (.reinject ..), true => do
      let updated ← moveTo host contract script.resume checkpoint .prepared (checkpoint.nextStep + 1)
      countSkip checkpoint.nextStep
      pure updated
    | some (.sendControl ..), true => do
      let updated ← moveTo host contract script.resume checkpoint .prepared checkpoint.nextStep
      countReplay
      pure updated

/-- The loop of `continueLocked` over the steps still to run. -/
def runSteps : List ActionStep → ActionCheckpoint → Program ActionCheckpoint
  | [], checkpoint => pure checkpoint
  | step :: rest, checkpoint => do
    let index := checkpoint.nextStep
    check (script.cancelled index) (required .cancelled)
    let checkpoint ← moveTo host contract (script.attempt index) checkpoint .attempting index
    executeActionStep index step (script.backend index)
    let checkpoint ← moveTo host contract (script.complete index) checkpoint .prepared (index + 1)
    countStep
    runSteps rest checkpoint

def continueLocked (checkpoint : ActionCheckpoint) (recovering : Bool) : Program Unit := do
  let checkpoint ← resumeAttempting host contract script checkpoint recovering
  let checkpoint ← runSteps host contract script (checkpoint.steps.drop checkpoint.nextStep) checkpoint
  write script.delete required (fun _ => .deleted) (deleteActionCheckpoint checkpoint.revision)

def createCheckpoint (identity : RuntimeIdentity) (steps : List ActionStep) : Program ActionCheckpoint := do
  let state ← get
  check (state.nextOperation = 0) (.failed .operationExhausted)
  let checkpoint ← write script.create createFailure (fun _ => .created steps)
    (createActionCheckpoint host ⟨0, state.nextOperation, identity, .prepared, 0, steps⟩)
  takeOperation
  pure checkpoint

def execute (identity : RuntimeIdentity) (actions : List Action) : Program Unit :=
  match actionSteps host actions [] with
  | .error cause => throw (.failed (.checkpoint cause))
  | .ok steps =>
    if steps = [] then pure ()
    else do
      check script.entryCancelled (.failed .cancelled)
      let found ← load script.load
      if found.isSome then throw (.recoveryRequired none)
      else do
        let checkpoint ← createCheckpoint host script identity steps
        continueLocked host contract script checkpoint false

/-- `validateStoredActionCheckpoint`. -/
def storedBad (checkpoint : ActionCheckpoint) : Bool :=
  checkpoint.revision = 0 ∨ validateActionCheckpoint host checkpoint ≠ .ok ()

def recover (identity : RuntimeIdentity) : Program Unit := do
  check script.entryCancelled (.failed .cancelled)
  let found ← load script.load
  match found with
  | none => pure ()
  | some checkpoint => do
    check (storedBad host checkpoint) (.failed (.checkpoint .checkpointCorrupt))
    check (checkpoint.identity ≠ identity) (.failed .identityMismatch)
    continueLocked host contract script checkpoint true

end Calls

/-- The running instance, if there is one. -/
structure Process where
  identity : RuntimeIdentity
  nextOperation : Nat

structure World where
  store : ActionCheckpointStore := {}
  process : Option Process := none
  history : List Event := []
  reports : List RecoveryReport := []

inductive Call where
  | start (identity : RuntimeIdentity) (load : Reply)
  | execute (actions : List Action) (script : Script)
  | recover (script : Script)

section World
variable (host : Host) (contract : UpdateContract)

/-- `NewActionRecovery` over a store that an earlier process may have left. -/
def newActionRecovery (store : ActionCheckpointStore) (identity : RuntimeIdentity) (load : Reply) :
    Option Process :=
  if validateRuntimeIdentity identity ≠ .ok () ∨ load ≠ .done then none
  else
    match store.checkpoint with
    | none => some ⟨identity, 1⟩
    | some checkpoint =>
      if storedBad host checkpoint then none else some ⟨identity, (checkpoint.operation + 1) % 2 ^ 64⟩

namespace World

def begin (world : World) (process : Process) : State :=
  { store := world.store, nextOperation := process.nextOperation, history := world.history }

/-- A call has ended. A process that died returns no report. -/
def settle (world : World) (process : Process) (reporting : Bool) : EStateM.Result Stop State Unit → World
  | .error .died left => { world with store := left.store, history := left.history, process := none }
  | .ok _ left | .error _ left =>
    { store := left.store, history := left.history, process := some { process with nextOperation := left.nextOperation }
      reports := if reporting then world.reports ++ [left.report] else world.reports }

def step (world : World) : Call → World
  | .start identity load => { world with process := newActionRecovery host world.store identity load }
  | .execute actions script =>
    match world.process with
    | none => world
    | some process =>
      world.settle process false (execute host contract script process.identity actions (world.begin process))
  | .recover script =>
    match world.process with
    | none => world
    | some process =>
      world.settle process true (recover host contract script process.identity (world.begin process))

end World
end World

end WgMix.FakeTcp.WriteAhead
