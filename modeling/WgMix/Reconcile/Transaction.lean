import WgMix.Dataplane.Coordinator
import WgMix.Foundation.Effects
import WgMix.Guard.Executor

/-! A reload over any guard executor, runtime, loader and attach-state store: what it calls, in which
order, and how the startup-guard transaction decides. The operations act on a world of their own and
may answer anything at each of their calls. -/
namespace WgMix.Reconcile
open Control Dataplane Guard Effects

inductive GuardMode where
  | nftTemporaryDrop
  | none
  deriving DecidableEq, Repr

inductive StartupFailMode where
  | failClosedForManagedFlows
  | bestEffort
  deriving DecidableEq, Repr

structure WireGuardConfig where
  name : String
  transportMode : TransportMode
  deriving DecidableEq

/-- A statically valid configuration, as far as a reload itself reads it. -/
structure Config where
  mode : GuardMode
  startupFailMode : StartupFailMode
  wireGuards : List WireGuardConfig
  fakeTcpFailsClosed : wireGuards.any (·.transportMode = .faketcp) →
    startupFailMode = .failClosedForManagedFlows

def shouldApplyStartupGuard (config : Config) : Bool :=
  config.mode = .nftTemporaryDrop ∧ config.startupFailMode = .failClosedForManagedFlows

inductive KernelState where
  | active
  | absent
  | unknown
  | disabled
  deriving DecidableEq, Repr

/-- `projectGuardOutcome`, for the kernel state. -/
def projectGuardOutcome (previous : KernelState) (outcome : Outcome) : KernelState :=
  match outcome.observation with
  | .active => .active
  | .absent => .absent
  | .unchanged => previous
  | .unknown => .unknown

def guardObservationFromStatus : KernelState → Observation
  | .active => .active
  | .absent => .absent
  | .unknown | .disabled => .unknown

/-- `lease` is set once the resident runtime was quiesced by this reload. -/
structure StartupGuardTxn where
  initialObservation : Observation
  observation : Observation
  lease : Option Lease := none
  guardCreated : Bool := false
  dataplaneMutationStarted : Bool := false
  dataplaneValidated : Bool := false
  cleanupAttempted : Bool := false
  cleanupProvedAbsent : Bool := false
  normalCleanup : Bool := false
  resumed : Bool := false

namespace StartupGuardTxn

def new (status : KernelState) : StartupGuardTxn where
  initialObservation := guardObservationFromStatus status
  observation := guardObservationFromStatus status

def effectiveGuardObservation (previous next : Observation) : Observation :=
  if next = .unchanged then previous else next

variable (txn : StartupGuardTxn)

def recordApply (outcome : Outcome) : StartupGuardTxn :=
  { txn with
    observation := effectiveGuardObservation txn.observation outcome.observation
    guardCreated := txn.guardCreated ||
      (outcome.observation = .active ∧ outcome.mutated ∧ txn.initialObservation = .absent) }

def recordCleanupOutcome (outcome : Outcome) : StartupGuardTxn :=
  { txn with
    cleanupAttempted := true
    observation := effectiveGuardObservation txn.observation outcome.observation
    cleanupProvedAbsent := outcome.observation = .absent }

def recordNormalCleanup (outcome : Outcome) : StartupGuardTxn :=
  { txn with normalCleanup := true }.recordCleanupOutcome outcome

def shouldRollbackGuardOnFailure : Bool :=
  txn.dataplaneMutationStarted = false ∧ txn.guardCreated ∧ txn.cleanupAttempted = false ∧
    txn.observation = .active

/-- A borrowed lease may stand for an earlier reload whose dataplane was never
validated, so only a fresh one is given back from a proof of absence. -/
def shouldResumeAfterFailure : Bool :=
  match txn.lease with
  | none => false
  | some lease =>
    if txn.resumed then false
    else if txn.dataplaneValidated ∧ txn.normalCleanup ∧ txn.cleanupProvedAbsent then true
    else lease.acquired ∧ txn.dataplaneMutationStarted = false ∧ txn.observation = .absent

end StartupGuardTxn

inductive ReloadError where
  | preflight
  | buildGuardState
  | isolation (wireGuard : String)
  | activation
  | residentRuntime
  | quiesce (cause : SupervisorError)
  | emptyLease
  | guardApply
  | guardState (state : KernelState)
  | buildState
  | loader (cause : CoordinatorError)
  | health
  | attachState
  | detachStale (cause : CoordinatorError)
  | cleanup
  | resume (cause : SupervisorError)
  deriving DecidableEq

inductive AttachStateLoad where
  | missing
  | failed
  | loaded

def validateFakeTCPStartupIsolation (state : State) : Option ReloadError :=
  let exposed := state.wireGuards.find? fun wg => wg.transportMode = .faketcp ∧
    (wg.configListenPort = 0 ∨ wg.runtimeStateAvailable ∧ wg.runtimeListenPort ≠ wg.configListenPort)
  exposed.map fun wg => .isolation wg.name

def observedRuntimeFwmarks (config : Config) (device : String → Option UInt32) : List UInt32 :=
  (config.wireGuards.filterMap fun wg => device wg.name).filter (· ≠ 0)

/-- The calls of the guard executor's `Apply`. -/
inductive GuardApply where
  | initial
  | observed
  | runtime
  deriving DecidableEq, Repr

/-- The body of a reload, and what is deferred to its failure. -/
inductive Half where
  | body
  | deferred
  deriving DecidableEq, Repr

/-- Everything outside that a reload calls. The flag of an executor's answer is success. -/
structure Operations (S : Type) where
  observe : S → S × Outcome
  preflight : (again : Bool) → S → S × Bool
  buildGuardState : S → S × Option State
  activation : State → Bool
  quiesce : S → S × Except SupervisorError Lease
  applyGuard : GuardApply → NftPlan → S → S × Outcome × Bool
  devices : S → S × (String → Option UInt32)
  buildState : S → S × Option State
  loaderApply : State → S → S × Option CoordinatorError
  productionStatus : State → S → S × Bool
  loadAttachState : S → S × AttachStateLoad
  detachStale : State → S → S × Option CoordinatorError
  saveAttachState : State → S → S × Bool
  cleanup : Half → S → S × Outcome × Bool
  resume : Half → Lease → S → S × Option SupervisorError

/-- The configuration, and what the loader and the process are. -/
structure Setup where
  config : Config
  resident : Bool := true
  pausable : Bool := true
  staleLoader : Bool := true
  offline : Bool := false

inductive Event where
  | observed (outcome : Outcome)
  | quiesced (lease : Lease)
  | guardApplied (outcome : Outcome) (done : Bool)
  | applyStarted
  | applied (done : Bool)
  | healthChecked (passed : Bool)
  | attachStateSaved (done : Bool)
  | cleaned (half : Half) (outcome : Outcome) (done : Bool)
  | resumed (lease : Lease) (done : Bool)
  deriving DecidableEq

structure Transaction (S : Type) where
  world : S
  kernelState : KernelState
  txn : StartupGuardTxn
  history : List Event

namespace Transaction
variable {S : Type}

abbrev Step (S : Type) := EStateM ReloadError (Transaction S)

def note (transaction : Transaction S) (world : S) (event : Event) : Transaction S :=
  { transaction with world, history := transaction.history ++ [event] }

section Stages
variable (setup : Setup) (operations : Operations S)

def start (world : S) : Transaction S :=
  if setup.config.mode = .none then
    { world, kernelState := .disabled, txn := .new .disabled, history := [] }
  else
    let observed := operations.observe world
    let status := projectGuardOutcome .unknown observed.2
    { world := observed.1, kernelState := status, txn := .new status, history := [.observed observed.2] }

def demand (failing : Option ReloadError) : Step S Unit := perform fun transaction => (transaction, failing)

def preflightNoNft (again : Bool) : Step S Unit := perform fun transaction =>
  if setup.config.mode = .none then
    let checked := operations.preflight again transaction.world
    ({ transaction with world := checked.1 }, if checked.2 then none else some .preflight)
  else (transaction, none)

def build (operation : S → S × Option State) (cause : ReloadError) : Step S State := obtained fun transaction =>
  let built := operation transaction.world
  ({ transaction with world := built.1 },
    match built.2 with
    | none => .error cause
    | some state => .ok state)

/-- A loader without a resident runtime has nothing to quiesce. -/
def quiesce : Step S Unit := perform fun transaction =>
  if setup.pausable then
    let quiesced := operations.quiesce transaction.world
    match quiesced.2 with
    | .error cause => ({ transaction with world := quiesced.1 }, some (.quiesce cause))
    | .ok lease =>
      let transaction := transaction.note quiesced.1 (.quiesced lease)
      if lease.token = none then (transaction, some .emptyLease)
      else ({ transaction with txn := { transaction.txn with lease := some lease } }, none)
  else (transaction, none)

def applyGuard (site : GuardApply) (plan : NftPlan) : Step S Unit := perform fun transaction =>
  let applied := operations.applyGuard site plan transaction.world
  let kernelState := projectGuardOutcome transaction.kernelState applied.2.1
  ({ world := applied.1
     kernelState
     txn := transaction.txn.recordApply applied.2.1
     history := transaction.history ++ [.guardApplied applied.2.1 applied.2.2] },
    if applied.2.2 = false then some .guardApply
    else if kernelState ≠ .active then some (.guardState kernelState)
    else none)

def expandGuard (site : GuardApply) (active : Option NftPlan) (plan : NftPlan) : Step S Unit :=
  match active with
  | none => pure ()
  | some active => if plan = active then pure () else applyGuard operations site plan

def observedFwmarks : Step S (List UInt32) := obtained fun transaction =>
  let seen := operations.devices transaction.world
  ({ transaction with world := seen.1 }, .ok (observedRuntimeFwmarks setup.config seen.2))

/-- `loader.Apply`, from the moment the dataplane may be changed. -/
def startApply : Step S Unit := perform fun transaction =>
  ({ transaction.note transaction.world .applyStarted with
     txn := { transaction.txn with dataplaneMutationStarted := true } }, none)

def loaderApply (state : State) : Step S Unit := perform fun transaction =>
  let applied := operations.loaderApply state transaction.world
  (transaction.note applied.1 (.applied applied.2.isNone), applied.2.map .loader)

def checkHealth (state : State) : Step S Unit := perform fun transaction =>
  let checked := operations.productionStatus state transaction.world
  (transaction.note checked.1 (.healthChecked checked.2), if checked.2 then none else some .health)

def loadAttachState : Step S AttachStateLoad := obtained fun transaction =>
  let loaded := operations.loadAttachState transaction.world
  ({ transaction with world := loaded.1 }, .ok loaded.2)

def loaderDetachStale (state : State) : Step S Unit := perform fun transaction =>
  let detached := operations.detachStale state transaction.world
  ({ transaction with world := detached.1 }, detached.2.map .detachStale)

def detachPrevious (state : State) : Step S Unit := do
  match ← loadAttachState operations with
  | .missing => pure ()
  | .failed => throw .attachState
  | .loaded => if setup.staleLoader then loaderDetachStale operations state else pure ()

def saveAttachState (state : State) : Step S Unit := perform fun transaction =>
  let saved := operations.saveAttachState state transaction.world
  (transaction.note saved.1 (.attachStateSaved saved.2), if saved.2 then none else some .attachState)

def validate : Step S Unit := perform fun transaction =>
  ({ transaction with txn := { transaction.txn with dataplaneValidated := true } }, none)

def cleanupGuard : Step S Unit := perform fun transaction =>
  let cleaned := operations.cleanup .body transaction.world
  let kernelState := projectGuardOutcome transaction.kernelState cleaned.2.1
  let txn := transaction.txn.recordNormalCleanup cleaned.2.1
  ({ world := cleaned.1
     kernelState
     txn
     history := transaction.history ++ [.cleaned .body cleaned.2.1 cleaned.2.2] },
    if cleaned.2.2 = false then some .cleanup
    else if txn.cleanupProvedAbsent = false then some (.guardState kernelState)
    else none)

def resume (half : Half) : Step S Unit := perform fun transaction =>
  match transaction.txn.lease with
  | none => (transaction, none)
  | some lease =>
    let resumed := operations.resume half lease transaction.world
    let transaction := transaction.note resumed.1 (.resumed lease resumed.2.isNone)
    match resumed.2 with
    | some cause => (transaction, some (.resume cause))
    | none => ({ transaction with txn := { transaction.txn with resumed := true } }, none)

def prepare : Step S State := do
  preflightNoNft setup operations false
  let guardState ← build operations.buildGuardState .buildGuardState
  demand (validateFakeTCPStartupIsolation guardState)
  check (referencesFakeTCP guardState ∧ operations.activation guardState = false) .activation
  check (referencesFakeTCP guardState ∧ setup.resident = false) .residentRuntime
  return guardState

def startGuard (guardState : State) : Step S NftPlan := do
  quiesce setup operations
  let initial := buildNftPlan guardState []
  applyGuard operations .initial initial
  if setup.offline then return initial
  let marks ← observedFwmarks setup operations
  let expanded := buildNftPlan guardState marks
  expandGuard operations .observed (some initial) expanded
  return expanded

/-- Up to the moment where the dataplane may be changed. -/
def beforeApply (active : Option NftPlan) : Step S State := do
  let state ← build operations.buildState .buildState
  demand (validateFakeTCPStartupIsolation state)
  expandGuard operations .runtime active (buildNftPlan state [])
  preflightNoNft setup operations true
  return state

/-- From there to the validated dataplane. -/
def changeDataplane (state : State) : Step S Unit := do
  startApply
  loaderApply operations state
  checkHealth operations state
  detachPrevious setup operations state
  saveAttachState operations state
  validate

def applyDataplane (active : Option NftPlan) : Step S Unit := do
  let state ← beforeApply setup operations active
  changeDataplane setup operations state

def reloadBody : Step S Unit := do
  let guardState ← prepare setup operations
  if shouldApplyStartupGuard setup.config then
    let active ← startGuard setup operations guardState
    applyDataplane setup operations (some active)
    cleanupGuard operations
    resume operations .body
  else
    applyDataplane setup operations none

def rollbackGuard (transaction : Transaction S) : Transaction S :=
  if transaction.txn.shouldRollbackGuardOnFailure then
    let cleaned := operations.cleanup .deferred transaction.world
    { world := cleaned.1
      kernelState := projectGuardOutcome transaction.kernelState cleaned.2.1
      txn := transaction.txn.recordCleanupOutcome cleaned.2.1
      history := transaction.history ++ [.cleaned .deferred cleaned.2.1 cleaned.2.2] }
  else transaction

def resumeAfterFailure (transaction : Transaction S) : Transaction S :=
  if transaction.txn.shouldResumeAfterFailure then after (resume operations .deferred) transaction else transaction

/-- How a reload ends, and the error it returned. -/
def reloadUnlocked (world : S) : Transaction S × Option ReloadError :=
  match reloadBody setup operations (start setup operations world) with
  | .ok () transaction => (transaction, none)
  | .error cause transaction =>
    (resumeAfterFailure operations (rollbackGuard operations transaction), some cause)

end Stages
end Transaction

end WgMix.Reconcile
