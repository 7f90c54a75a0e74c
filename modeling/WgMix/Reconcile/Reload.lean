import WgMix.Reconcile.Transaction

/-! A reload in the resident process: the transaction over the nft executor, the coordinating loader
and its runtime. -/
namespace WgMix.Reconcile
open Control Dataplane Guard

/-- The resident process and the host it runs on. -/
structure Process (σ : Type) where
  coordinator : Coordinator σ := {}
  guard : Guard.Host := {}

/-- How the two finalisation resumes go. -/
structure ResumeEnv where
  ctx : Context := ⟨none⟩
  resumed : Bool := true

structure Preflight where
  ownerState : Bool := true
  inventory : Bool := true

/-- One reload: its configuration, and what each operation in it meets. A device whose
lookup fails, or comes after the context ended, has no mark. -/
structure Call (σ : Type) where
  config : Config
  resident : Bool := true
  activation : Bool := true
  observe : Faults := {}
  preflight : Preflight := {}
  guardState : Option State
  quiesceCtx : Context := ⟨none⟩
  pause : PauseAnswer := .failed
  firstApply : Faults := {}
  device : String → Option UInt32 := fun _ => none
  observedApply : Faults := {}
  state : Option State
  runtimeApply : Faults := {}
  secondPreflight : Preflight := {}
  apply : CallEnv σ
  health : Bool := true
  loadAttachState : AttachStateLoad := .missing
  detachStale : CallEnv σ
  saveAttachState : Bool := true
  cleanup : Faults := {}
  resume : ResumeEnv := {}
  rollbackCleanup : Faults := {}
  recovery : ResumeEnv := {}

namespace Call
variable {σ : Type} (call : Call σ)

def setup : Setup where
  config := call.config
  resident := call.resident

def guardFaults : GuardApply → Faults
  | .initial => call.firstApply
  | .observed => call.observedApply
  | .runtime => call.runtimeApply

def cleanupFaults : Half → Faults
  | .body => call.cleanup
  | .deferred => call.rollbackCleanup

def resumeEnv : Half → ResumeEnv
  | .body => call.resume
  | .deferred => call.recovery

/-- What an operation changed, and the error it returned. -/
def failed (done : α × Except ε Unit) : α × Option ε :=
  (done.1, match done.2 with
    | .error cause => some cause
    | .ok () => none)

theorem failed_none {done : α × Except ε Unit} (returned : (failed done).2 = none) : done.2 = .ok () := by
  rw [failed] at returned
  split at returned
  · cases returned
  · assumption

variable [DecidableEq σ]

def operations : Operations (Process σ) where
  observe process := (process, (process.guard.observe call.observe).1)
  preflight again process :=
    let meets := if again then call.secondPreflight else call.preflight
    (process, (process.guard.preflightNoNft meets.ownerState meets.inventory).isOk)
  buildGuardState process := (process, call.guardState)
  activation _ := call.activation
  quiesce process :=
    let quiesced := process.coordinator.supervisor.quiesceForStartupGuard call.quiesceCtx 0 call.pause
    ({ process with coordinator := process.coordinator.adopt quiesced }, quiesced.result)
  applyGuard site plan process :=
    let applied := process.guard.apply plan (call.guardFaults site)
    ({ process with guard := applied.host }, applied.outcome, applied.err = none)
  devices process := (process, call.device)
  buildState process := (process, call.state)
  loaderApply state process :=
    let applied := process.coordinator.apply state call.apply
    failed ({ process with coordinator := applied.1 }, applied.2)
  productionStatus _ process := (process, call.health)
  loadAttachState process := (process, call.loadAttachState)
  detachStale state process :=
    let detached := process.coordinator.detachStale state call.detachStale
    failed ({ process with coordinator := detached.1 }, detached.2)
  saveAttachState _ process := (process, call.saveAttachState)
  cleanup half process :=
    let cleaned := process.guard.cleanup (call.cleanupFaults half)
    ({ process with guard := cleaned.host }, cleaned.outcome, cleaned.err = none)
  resume half lease process :=
    let env := call.resumeEnv half
    let resumed := process.coordinator.supervisor.resumeAfterStartupGuard env.ctx 0 lease env.resumed
    failed ({ process with coordinator := process.coordinator.adopt resumed }, resumed.result)

end Call

/-- The process after a reload, and the error it returned. -/
def reloadUnlocked {σ : Type} [DecidableEq σ] (process : Process σ) (call : Call σ) :
    Process σ × Option ReloadError :=
  let ended := Transaction.reloadUnlocked call.setup call.operations process
  (ended.1.world, ended.2)

end WgMix.Reconcile
