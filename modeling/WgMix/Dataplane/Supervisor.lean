import WgMix.Foundation.Bytes

/-! The supervisor of the process-owned userspace runtime: one owner at a time,
and the startup-guard barrier in front of its event loop. The operation lock
serialises every function here. -/
namespace WgMix.Dataplane

/-- A call's context, by the instant from which it is cancelled. The checks of
one call are numbered in program order. -/
structure Context where
  cancelledFrom : Option Nat

def Context.err (ctx : Context) (instant : Nat) : Bool := ctx.cancelledFrom.any (· ≤ instant)

abbrev DesiredKey := FixedBytes 32

inductive RunError where
  | canceled
  | failed
  | exited
  deriving DecidableEq, Repr

/-- What leaves the supervisor: builder, `Run`, pause, resume and `Close` calls
on a numbered runtime, and `Run` returning. -/
inductive RuntimeEvent where
  | build (service : Option Nat)
  | run (runtime : Nat)
  | returned (runtime : Nat)
  | paused (runtime : Nat)
  | resumed (runtime : Nat)
  | close (runtime : Nat) (closed : Bool)
  deriving DecidableEq, Repr

/-- `pausable` is whether the service has the pause contract, `runnable` whether
the entry has a run context; a quarantined entry has none. -/
structure Supervised where
  key : DesiredKey
  runtime : Nat
  pausable : Bool
  runnable : Bool
  finished : Bool := false
  runErr : Option RunError := none
  runStarted : Bool := false
  stopRequested : Bool := false

inductive PausePhase where
  | opened
  | draining
  | held
  | resuming
  deriving DecidableEq, Repr

structure Lease where
  acquired : Bool := false
  token : Option Nat := none
  deriving DecidableEq

structure Supervisor where
  current : Option Supervised := none
  pause : PausePhase := .opened
  revision : Nat := 1
  lease : Option Nat := none
  released : Option Nat := none
  innerLease : Option Nat := none
  pausedRuntime : Option Nat := none
  nextRuntime : Nat := 0
  nextToken : Nat := 0

inductive SupervisorError where
  | context
  | emptyKey
  | noBuilder
  | stopping
  | retire
  | build
  | noRuntime
  | noRunContext
  | pausePhase (phase : PausePhase)
  | noPauseContract
  | pause
  | emptyInnerLease
  | noActiveLease
  | leaseMismatch
  | notStartable
  | noInnerLease
  | resume
  deriving DecidableEq

/-- How the wait for `Run` ends: with its result, or by the context. -/
inductive Wait where
  | interrupted
  | returned (err : Option RunError)

/-- What one stop-and-close meets. `true` is success. -/
structure Retirement where
  requestStop : Bool
  wait : Wait
  close : Bool

/-- A builder returns a service or nil, with or without an error; a service is
given by whether it can be paused. -/
structure Build where
  failed : Bool
  service : Option Bool

structure EnsureEnv where
  healthy : Bool
  retirement : Retirement
  closeUnstarted : Bool

inductive PauseAnswer where
  | failed
  | emptyLease
  | lease (token : Nat)

/-- The state after a call, what it did outside, and how it ended. -/
structure Step (α : Type) where
  supervisor : Supervisor
  events : List RuntimeEvent
  result : Except SupervisorError α

namespace Supervised

def requestStop (entry : Supervised) (answer : Bool) : Supervised × Bool :=
  if entry.stopRequested then (entry, true)
  else ({ entry with stopRequested := true, finished := entry.finished || !entry.runStarted }, answer)

/-- `run` after the service's own `Run` has returned. -/
def finish (entry : Supervised) (err : Option RunError) : Supervised :=
  { entry with
    finished := true
    runErr := if err = none ∧ entry.stopRequested = false then some .exited else err }

/-- The wait for `done`; `none` when the context was taken instead. -/
def await (entry : Supervised) (cancelled : Bool) : Wait → Option (Supervised × List RuntimeEvent)
  | .interrupted =>
    if cancelled then none
    else if entry.finished then some (entry, [])
    else some (entry.finish none, [.returned entry.runtime])
  | .returned err =>
    if entry.finished then some (entry, []) else some (entry.finish err, [.returned entry.runtime])

def terminalError (entry : Supervised) : Option RunError := if entry.finished then entry.runErr else none

/-- A cancelled `Run` is an ordinary stop. -/
def stoppedCleanly (entry : Supervised) : Bool :=
  entry.terminalError = none ∨ entry.terminalError = some .canceled

def start (entry : Supervised) : Supervised × List RuntimeEvent × Except SupervisorError Unit :=
  if entry.runStarted then (entry, [], .ok ())
  else if entry.stopRequested then (entry, [], .error .stopping)
  else if entry.runnable = false then (entry, [], .error .noRunContext)
  else ({ entry with runStarted := true }, [.run entry.runtime], .ok ())

end Supervised

namespace Supervisor
variable (supervisor : Supervisor)

def storeCurrent (entry : Supervised) : Supervisor := { supervisor with current := some entry }

/-- The outer lease survives a replacement, the leaf runtime's token does not. -/
def clearCurrent (entry : Supervised) : Supervisor :=
  if supervisor.pausedRuntime = some entry.runtime then
    { supervisor with current := none, pausedRuntime := none, innerLease := none }
  else { supervisor with current := none }

def barrierHeld : Bool := supervisor.pause ≠ .opened

/-- `Close` of an entry whose `Run` has returned. -/
def closeEntry (entry : Supervised) (clean : Bool) (closed : Bool) : Step Unit :=
  { supervisor := if closed then supervisor.clearCurrent entry else supervisor.storeCurrent entry
    events := [.close entry.runtime closed]
    result := if entry.stoppedCleanly ∧ clean ∧ closed then .ok () else .error .retire }

/-- The common body of `stopAndRetire` and `Stop`. -/
def stopAndRetire (ctx : Context) (instant : Nat) (entry : Supervised) (env : Retirement) : Step Unit :=
  let requested := entry.requestStop env.requestStop
  match requested.1.await (ctx.err instant) env.wait with
  | none => ⟨supervisor.storeCurrent requested.1, [], .error .retire⟩
  | some (entry, events) =>
    let closed := supervisor.closeEntry entry requested.2 env.close
    { closed with events := events ++ closed.events }

/-- Uses the instants `base`, `base + 1` and, while waiting, `base + 2`. -/
def stop (ctx : Context) (base : Nat) (env : Retirement) : Step Unit :=
  if ctx.err base then ⟨supervisor, [], .error .context⟩
  else if ctx.err (base + 1) then ⟨supervisor, [], .error .context⟩
  else
    match supervisor.current with
    | none => ⟨supervisor, [], .ok ()⟩
    | some entry => supervisor.stopAndRetire ctx (base + 2) entry env

def newQuarantined (key : DesiredKey) (runtime : Nat) (pausable : Bool) : Supervised where
  key := key
  runtime := runtime
  pausable := pausable
  runnable := false
  finished := true
  stopRequested := true

/-- A built service that will not run is closed, or kept as the only way to
close it later. -/
def discard (key : DesiredKey) (pausable : Bool) (closed : Bool) (cause : SupervisorError) : Step Unit :=
  let runtime := supervisor.nextRuntime
  let counted := { supervisor with nextRuntime := runtime + 1 }
  { supervisor := if closed then counted else counted.storeCurrent (newQuarantined key runtime pausable)
    events := [.build (some runtime), .close runtime closed]
    result := .error cause }

/-- From the last check before the builder on. -/
def buildAndStart (ctx : Context) (base : Nat) (key : DesiredKey) (build : Build) (env : EnsureEnv) :
    Step Unit :=
  if ctx.err (base + 4) then ⟨supervisor, [], .error .context⟩
  else
    match build.service with
    | none => ⟨supervisor, [.build none], .error (if build.failed then .build else .noRuntime)⟩
    | some pausable =>
      if build.failed then supervisor.discard key pausable env.closeUnstarted .build
      else if ctx.err (base + 5) then supervisor.discard key pausable env.closeUnstarted .context
      else
        let runtime := supervisor.nextRuntime
        let entry : Supervised := { key, runtime, pausable, runnable := true }
        let counted := { supervisor with nextRuntime := runtime + 1 }
        if supervisor.barrierHeld then ⟨counted.storeCurrent entry, [.build (some runtime)], .ok ()⟩
        else
          let started := entry.start
          ⟨counted.storeCurrent started.1, .build (some runtime) :: started.2.1, started.2.2⟩

def ownerHealthy (cancelled : Bool) (entry : Supervised) (healthy : Bool) : Bool :=
  cancelled = false ∧ entry.stopRequested = false ∧ entry.finished = false ∧ healthy

/-- Everything that `Ensure` does with an owner it finds; `none` when it goes on
to build. -/
def retireCurrent (ctx : Context) (base : Nat) (key : DesiredKey) (env : EnsureEnv) (entry : Supervised) :
    Step Unit × Bool :=
  if entry.finished = false then
    if entry.key = key ∧ entry.stopRequested then (⟨supervisor, [], .error .stopping⟩, false)
    else if entry.key = key ∧ ownerHealthy (ctx.err (base + 2)) entry env.healthy then
      (⟨supervisor, [], .ok ()⟩, false)
    else
      let retired := supervisor.stopAndRetire ctx (base + 3) entry env.retirement
      (retired, retired.result.isOk)
  else
    let retired := supervisor.closeEntry entry true env.retirement.close
    (retired, retired.result.isOk)

/-- Uses the instants `base` to `base + 5`; `none` is a nil builder. -/
def ensure (ctx : Context) (base : Nat) (key : DesiredKey) (builder : Option Build) (env : EnsureEnv) :
    Step Unit :=
  if ctx.err base then ⟨supervisor, [], .error .context⟩
  else if key = FixedBytes.zero 32 then ⟨supervisor, [], .error .emptyKey⟩
  else
    match builder with
    | none => ⟨supervisor, [], .error .noBuilder⟩
    | some build =>
      if ctx.err (base + 1) then ⟨supervisor, [], .error .context⟩
      else
        match supervisor.current with
        | none => supervisor.buildAndStart ctx base key build env
        | some entry =>
          match supervisor.retireCurrent ctx base key env entry with
          | (retired, false) => retired
          | (retired, true) =>
            let built := retired.supervisor.buildAndStart ctx base key build env
            { built with events := retired.events ++ built.events }

section StartupGuard

def acquireStartupGuardPause : Supervisor :=
  { supervisor with
    lease := some supervisor.nextToken
    nextToken := supervisor.nextToken + 1
    released := none
    innerLease := none
    pausedRuntime := none
    pause := .draining
    revision := supervisor.revision + 1 }

def holdStartupGuardPause : Supervisor :=
  { supervisor with pause := .held, revision := supervisor.revision + 1 }

def rollbackNewStartupGuardPause (expected : Nat) (lease : Lease) : Supervisor :=
  if expected = 0 ∨ supervisor.revision ≠ expected ∨ supervisor.pause ≠ .draining ∨ lease.token = none ∨
      supervisor.lease ≠ lease.token then supervisor
  else { supervisor with
    lease := none
    innerLease := none
    pausedRuntime := none
    pause := .opened
    revision := supervisor.revision + 1 }

def releaseStartupGuardPause : Supervisor :=
  { supervisor with
    released := supervisor.lease
    lease := none
    innerLease := none
    pausedRuntime := none
    pause := .opened
    revision := supervisor.revision + 1 }

def restoreStartupGuardPause (expected : Nat) (phase : PausePhase) : Supervisor :=
  if supervisor.revision ≠ expected ∨ supervisor.pause ≠ .resuming then supervisor
  else { supervisor with pause := phase, revision := supervisor.revision + 1 }

def quiesceForStartupGuard (ctx : Context) (instant : Nat) (answer : PauseAnswer) : Step Lease :=
  if supervisor.pause = .held then
    match supervisor.lease with
    | none => ⟨supervisor, [], .error .noActiveLease⟩
    | some token => ⟨supervisor, [], .ok { token := some token }⟩
  else if ctx.err instant then ⟨supervisor, [], .error .context⟩
  else if supervisor.pause ≠ .opened then ⟨supervisor, [], .error (.pausePhase supervisor.pause)⟩
  else
    let lease : Lease := ⟨true, some supervisor.nextToken⟩
    let acquired := supervisor.acquireStartupGuardPause
    let rollback := acquired.rollbackNewStartupGuardPause acquired.revision lease
    match acquired.current with
    | none => ⟨acquired.holdStartupGuardPause, [], .ok lease⟩
    | some entry =>
      if entry.runStarted = false ∨ entry.finished then ⟨acquired.holdStartupGuardPause, [], .ok lease⟩
      else if entry.pausable = false then ⟨rollback, [], .error .noPauseContract⟩
      else
        match answer with
        | .failed => ⟨rollback, [], .error .pause⟩
        | .emptyLease =>
          ⟨acquired.holdStartupGuardPause, [.paused entry.runtime], .error .emptyInnerLease⟩
        | .lease token =>
          let stored := { acquired with pausedRuntime := some entry.runtime, innerLease := some token }
          ⟨stored.holdStartupGuardPause, [.paused entry.runtime], .ok lease⟩

/-- The entry half of `ResumeAfterStartupGuard`, with the barrier resuming. -/
def resumeEntry (entry : Supervised) (resumed : Bool) : Step Unit :=
  if entry.finished ∨ entry.stopRequested then ⟨supervisor, [], .error .notStartable⟩
  else if entry.runStarted then
    if entry.pausable = false then ⟨supervisor, [], .error .noPauseContract⟩
    else if supervisor.pausedRuntime ≠ some entry.runtime ∨ supervisor.innerLease = none then
      ⟨supervisor, [], .error .noInnerLease⟩
    else if resumed = false then ⟨supervisor, [], .error .resume⟩
    else ⟨{ supervisor with pausedRuntime := none, innerLease := none }, [.resumed entry.runtime], .ok ()⟩
  else
    let started := entry.start
    ⟨supervisor.storeCurrent started.1, started.2.1, started.2.2⟩

def resumeAfterStartupGuard (ctx : Context) (instant : Nat) (lease : Lease) (resumed : Bool) : Step Unit :=
  if supervisor.pause = .opened then
    if lease.token ≠ none ∧ supervisor.released = lease.token then ⟨supervisor, [], .ok ()⟩
    else ⟨supervisor, [], .error .leaseMismatch⟩
  else if supervisor.pause ≠ .held then ⟨supervisor, [], .error (.pausePhase supervisor.pause)⟩
  else if lease.token = none ∨ supervisor.lease ≠ lease.token then ⟨supervisor, [], .error .leaseMismatch⟩
  else if ctx.err instant then ⟨supervisor, [], .error .context⟩
  else
    let resuming := { supervisor with pause := .resuming, revision := supervisor.revision + 1 }
    match resuming.current with
    | none => ⟨resuming.releaseStartupGuardPause, [], .ok ()⟩
    | some entry =>
      let tried := resuming.resumeEntry entry resumed
      match tried.result with
      | .error cause =>
        ⟨tried.supervisor.restoreStartupGuardPause resuming.revision .held, tried.events, .error cause⟩
      | .ok () => ⟨tried.supervisor.releaseStartupGuardPause, tried.events, .ok ()⟩

end StartupGuard

/-- A started runtime's `Run` returns without having been asked to. -/
def runReturns (err : Option RunError) : Supervisor × List RuntimeEvent :=
  match supervisor.current with
  | none => (supervisor, [])
  | some entry =>
    if entry.runStarted = false ∨ entry.finished then (supervisor, [])
    else (supervisor.storeCurrent (entry.finish err), [.returned entry.runtime])

end Supervisor

end WgMix.Dataplane
