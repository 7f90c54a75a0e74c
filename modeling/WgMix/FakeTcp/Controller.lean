import WgMix.FakeTcp.RawBackend
import WgMix.FakeTcp.Router

/-! What the controller runs: the engine call behind one event, the side effects that an engine
selected as steps, and the one-slot store that checkpoints them. -/
namespace WgMix.FakeTcp
open Bpf

inductive ActionCheckpointPhase where
  | prepared
  | attempting
  deriving DecidableEq, Repr

/-- One externally visible side effect. -/
inductive ActionStep where
  | sendControl (flow : SessionKey) (wgId : UInt32) (control : ControlPacket)
  | reinject (flow : SessionKey) (packet : PendingPacket)
  deriving DecidableEq

structure ActionCheckpoint where
  revision : Nat
  operation : Nat
  identity : RuntimeIdentity
  phase : ActionCheckpointPhase
  nextStep : Nat
  steps : List ActionStep

inductive ExecError where
  | stepFlow (cause : FlowError)
  | stepWgId
  | stepFlags
  | stepPacket
  | stepIdentity (cause : IdentityError)
  | stepFingerprint
  | captureConflict
  | checkpointConflict
  | checkpointCorrupt
  | materialize (cause : MaterializeError)
  deriving DecidableEq

/-- The one-slot in-memory checkpoint store. Revisions only ever grow. -/
structure ActionCheckpointStore where
  checkpoint : Option ActionCheckpoint := none
  nextRevision : Nat := 1

section Steps

def validateActionStep : ActionStep → Except ExecError Unit
  | .sendControl flow wgId control =>
    match validatePacketFlow flow with
    | .error cause => .error (.stepFlow cause)
    | .ok () =>
      if wgId ≠ flow.wgId then .error .stepWgId
      else if control.flags ≠ flagSyn ∧ control.flags ≠ flagSyn ||| flagAck ∧ control.flags ≠ flagAck then
        .error .stepFlags
      else .ok ()
  | .reinject flow packet =>
    match validatePacketFlow flow with
    | .error cause => .error (.stepFlow cause)
    | .ok () =>
      if packet.wgId ≠ flow.wgId then .error .stepWgId
      else if packet.data = [] then .error .stepPacket
      else
        match validateCaptureIdentity packet.captureId flow.generation with
        | .error cause => .error (.stepIdentity cause)
        | .ok () =>
          if packet.captureFingerprint = FixedBytes.zero 32 then .error .stepFingerprint else .ok ()

def ActionStep.flow : ActionStep → SessionKey
  | .sendControl flow .. | .reinject flow _ => flow

/-- `observeCapturedPacket`: whether the identity was seen with this binding. -/
def observeCapturedPacket (host : Host) (seen : List (CaptureIdentity × CapturedPacketBinding))
    (flow : SessionKey) (packet : PendingPacket) :
    Except ExecError (List (CaptureIdentity × CapturedPacketBinding) × Bool) :=
  let binding := bindCapturedPacket host flow packet
  match seen.lookup packet.captureId with
  | none => .ok ((packet.captureId, binding) :: seen, false)
  | some previous => if previous ≠ binding then .error .captureConflict else .ok (seen, true)

/-- Pending packets become one step each; exact duplicates are left out. -/
def reinjectSteps (host : Host) (flow : SessionKey) :
    List PendingPacket → List (CaptureIdentity × CapturedPacketBinding) →
      Except ExecError (List ActionStep × List (CaptureIdentity × CapturedPacketBinding))
  | [], seen => .ok ([], seen)
  | packet :: rest, seen => do
    validateActionStep (.reinject flow packet)
    let observed ← observeCapturedPacket host seen flow packet
    let others ← reinjectSteps host flow rest observed.1
    if observed.2 then pure others else pure (.reinject flow packet :: others.1, others.2)

def actionSteps (host : Host) :
    List Action → List (CaptureIdentity × CapturedPacketBinding) → Except ExecError (List ActionStep)
  | [], _ => .ok []
  | .sendControl flow wgId control _ :: rest, seen => do
    validateActionStep (.sendControl flow wgId control)
    let others ← actionSteps host rest seen
    pure (.sendControl flow wgId control :: others)
  | .releasePending flow _ packets :: rest, seen => do
    let steps ← reinjectSteps host flow packets seen
    let others ← actionSteps host rest steps.2
    pure (steps.1 ++ others)
  | _ :: rest, seen => actionSteps host rest seen

def validateCheckpointStep (identity : RuntimeIdentity) (step : ActionStep) : Except ExecError Unit :=
  match validateActionStep step with
  | .error _ => .error .checkpointCorrupt
  | .ok () =>
    if step.flow.generation ≠ identity.generation then .error .checkpointCorrupt
    else
      match step with
      | .sendControl .. => .ok ()
      | .reinject _ packet =>
        if packet.captureId.runtime ≠ identity then .error .checkpointCorrupt else .ok ()

/-- A checkpoint may not name one capture identity twice. -/
def validateCaptureBindings (host : Host) :
    List ActionStep → List (CaptureIdentity × CapturedPacketBinding) → Except ExecError Unit
  | [], _ => .ok ()
  | .sendControl .. :: rest, seen => validateCaptureBindings host rest seen
  | .reinject flow packet :: rest, seen => do
    let observed ← observeCapturedPacket host seen flow packet
    if observed.2 then .error .checkpointCorrupt else validateCaptureBindings host rest observed.1

def validateCheckpointPosition (phase : ActionCheckpointPhase) (nextStep stepCount : Nat) : Bool :=
  nextStep ≤ stepCount ∧ (phase = .attempting → nextStep ≠ stepCount)

def validateActionCheckpoint (host : Host) (checkpoint : ActionCheckpoint) : Except ExecError Unit := do
  if checkpoint.operation = 0 ∨ checkpoint.steps = [] then throw .checkpointCorrupt
  if validateCheckpointPosition checkpoint.phase checkpoint.nextStep checkpoint.steps.length = false then
    throw .checkpointCorrupt
  if validateRuntimeIdentity checkpoint.identity ≠ .ok () then throw .checkpointCorrupt
  checkpoint.steps.forM (validateCheckpointStep checkpoint.identity)
  validateCaptureBindings host checkpoint.steps []

end Steps

namespace ActionCheckpointStore

def create (host : Host) (store : ActionCheckpointStore) (checkpoint : ActionCheckpoint) :
    Except ExecError (ActionCheckpointStore × ActionCheckpoint) := do
  if checkpoint.revision ≠ 0 then throw .checkpointCorrupt
  validateActionCheckpoint host checkpoint
  if store.checkpoint.isSome then throw .checkpointConflict
  let stored := { checkpoint with revision := store.nextRevision }
  pure (⟨some stored, store.nextRevision + 1⟩, stored)

/-- The compare-and-swap of phase and position. -/
def transition (store : ActionCheckpointStore) (checkpoint : ActionCheckpoint)
    (phase : ActionCheckpointPhase) (nextStep : Nat) :
    Except ExecError (ActionCheckpointStore × ActionCheckpoint) :=
  match store.checkpoint with
  | none => .error .checkpointConflict
  | some stored =>
    if checkpoint.revision = 0 then .error .checkpointCorrupt
    else if stored.revision ≠ checkpoint.revision then .error .checkpointConflict
    else if validateCheckpointPosition phase nextStep stored.steps.length = false then
      .error .checkpointCorrupt
    else
      let moved := { stored with phase, nextStep, revision := store.nextRevision }
      .ok (⟨some moved, store.nextRevision + 1⟩, { checkpoint with phase, nextStep, revision := store.nextRevision })

def delete (store : ActionCheckpointStore) (revision : Nat) : Except ExecError ActionCheckpointStore :=
  match store.checkpoint with
  | none => .error .checkpointConflict
  | some stored =>
    if revision = 0 then .error .checkpointCorrupt
    else if stored.revision ≠ revision then .error .checkpointConflict
    else .ok { store with checkpoint := none }

end ActionCheckpointStore

namespace Controller

/-- What the selected engine makes of one decoded event. -/
def engineOutcome (turn : Turn) (engine : Engine) (owned : OwnedDecodedEvent) : Except ExecError Outcome :=
  let event := owned.event
  if event.type = EventType.needHandshake.code then
    match materializeIPv4UDPChecksums owned.packet with
    | .error cause => .error (.materialize cause)
    | .ok packet => .ok (engine.handleOwnedCapturedPacket turn event packet owned.fingerprint)
  else if event.type = EventType.rst.code ∨ event.type = EventType.fin.code then
    .ok (engine.inboundCapturedControl turn event owned.packet)
  else .ok (engine.inbound turn event.key
    ⟨event.tcpFlags, event.sequence, event.acknowledgement, event.payloadLength⟩ event.wgId)

end Controller

end WgMix.FakeTcp
