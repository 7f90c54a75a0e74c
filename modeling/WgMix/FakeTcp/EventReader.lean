import WgMix.FakeTcp.Event

/-! The production event reader and the loop that consumes it. The reader adds
loss accounting and a per-CPU capture order to a raw ring reader; the loop ends
at its first unusable read. -/
namespace WgMix.FakeTcp
open Bpf

abbrev Digest := FixedBytes 32

structure OwnedDecodedEvent where
  event : Event
  packet : Bytes
  fingerprint : Digest := FixedBytes.zero 32
  deriving DecidableEq

structure EventRecord where
  rawSample : Bytes := []
  lostSamples : UInt64 := 0
  ownedSample : Option OwnedDecodedEvent := none
  deriving DecidableEq

inductive ReadError where
  | deadlineExceeded
  | closed
  | underlying
  | lossCounter
  | lossDecreased (before after : UInt64)
  | lossOverflow
  | invalid (cause : EventError)
  | identityMismatch
  | cpuRange (cpu : UInt32)
  | captureIdentityConflict
  | captureOutOfOrder (cpu : UInt32) (sequence previous : UInt64)
  deriving DecidableEq

structure CaptureSequenceState where
  sequence : UInt64 := 0
  fingerprint : Digest := FixedBytes.zero 32
  deriving DecidableEq

structure ProductionEventReader where
  identity : RuntimeIdentity
  sequences : List CaptureSequenceState
  lastLoss : UInt64

namespace ProductionEventReader
variable (sha256 : Bytes → Digest)

/-- The capture-order half of `Read`, for a NEED_HANDSHAKE record. -/
def readCapture (reader : ProductionEventReader) (record : EventRecord) (decoded : DecodedEvent) :
    ProductionEventReader × Except ReadError EventRecord :=
  let cpu := decoded.event.captureCpu.toNat
  match reader.sequences[cpu]? with
  | none => (reader, .error (.cpuRange decoded.event.captureCpu))
  | some state =>
    let sequence := decoded.event.captureSequence
    let fingerprint := sha256 record.rawSample
    let owned := { record with ownedSample := some ⟨decoded.event, decoded.packet, fingerprint⟩ }
    if sequence = state.sequence ∧ sequence ≠ 0 then
      if fingerprint ≠ state.fingerprint then (reader, .error .captureIdentityConflict)
      else (reader, .ok owned)
    else if sequence ≤ state.sequence then
      (reader, .error (.captureOutOfOrder decoded.event.captureCpu sequence state.sequence))
    else if sequence ≠ state.sequence + 1 then
      (reader, .ok { lostSamples := sequence - state.sequence - 1 })
    else ({ reader with sequences := reader.sequences.set cpu ⟨sequence, fingerprint⟩ }, .ok owned)

/-- `raw` and `readErr` are what the ring reader returned, `count` the kernel's
loss counter read afterwards (`none` when that read failed). -/
def read (reader : ProductionEventReader) (raw : EventRecord) (readErr : Option ReadError)
    (count : Option UInt64) : ProductionEventReader × Except ReadError EventRecord :=
  match count with
  | none => (reader, .error .lossCounter)
  | some currentLoss =>
    if currentLoss < reader.lastLoss then
      (reader, .error (.lossDecreased reader.lastLoss currentLoss))
    else
      let kernelLoss := currentLoss - reader.lastLoss
      let reader := { reader with lastLoss := currentLoss }
      if kernelLoss > 0xffffffffffffffff - raw.lostSamples then (reader, .error .lossOverflow)
      else if kernelLoss + raw.lostSamples ≠ 0 then
        (reader, .ok { lostSamples := kernelLoss + raw.lostSamples })
      else
        match readErr with
        | some cause => (reader, .error cause)
        | none =>
          match decodeBorrowedEventSample raw.rawSample with
          | .error cause => (reader, .error (.invalid cause))
          | .ok decoded =>
            if runtimeIdentityFromEvent decoded.event ≠ reader.identity then
              (reader, .error .identityMismatch)
            else if decoded.event.type ≠ EventType.needHandshake.code then
              (reader, .ok { raw with ownedSample := some { event := decoded.event, packet := decoded.packet } })
            else readCapture sha256 reader raw decoded

end ProductionEventReader

namespace EventRuntime

inductive Exit where
  | context
  | lost (samples : UInt64)
  | admission
  | handler
  | read (cause : ReadError)
  | tick
  | stopped
  deriving DecidableEq

/-- The switch on one read: a record to handle, nothing, or the end of `Run`.
`closing` is whether a stop or close was already asked for. -/
def afterRead (closing : Bool) : Except ReadError EventRecord → Except Exit (Option EventRecord)
  | .ok record => if record.lostSamples ≠ 0 then .error (.lost record.lostSamples) else .ok (some record)
  | .error .deadlineExceeded => .ok none
  | .error .closed => if closing then .error .stopped else .error (.read .closed)
  | .error cause => .error (.read cause)

/-- What happens around one pass of the loop. `admission` is how a refused
`beginGuardableWork` ends `Run`; `tick` is `none` when the tick is not due, and
otherwise how a refused or failed tick ends `Run`. -/
structure Pass where
  cancelled : Bool
  read : Except ReadError EventRecord
  closing : Bool
  admission : Option Exit
  handled : EventRecord → Bool
  stopRequested : Bool
  tick : Option (Option Exit)

def pass (input : Pass) : Option Exit :=
  if input.cancelled then some .context
  else
    match afterRead input.closing input.read with
    | .error exit => some exit
    | .ok none => if input.stopRequested then some .stopped else input.tick.join
    | .ok (some record) =>
      match input.admission with
      | some exit => some exit
      | none =>
        if input.handled record = false then some .handler
        else if input.stopRequested then some .stopped
        else input.tick.join

end EventRuntime

end WgMix.FakeTcp
