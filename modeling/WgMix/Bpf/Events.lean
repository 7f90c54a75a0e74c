import WgMix.Bpf.Session

/-! Control-event admission and the records handed to the event ring. The
generation gate, the per-WireGuard budget and the coalescing cache are taken
uncontended: each compare-and-swap loop succeeds at its first attempt. -/
namespace WgMix.Bpf

inductive EventType where
  | needHandshake
  | syn
  | synack
  | ack
  | rst
  | fin
  deriving DecidableEq, Repr

def EventType.code : EventType → UInt8
  | .needHandshake => 1
  | .syn => 2
  | .synack => 3
  | .ack => 4
  | .rst => 5
  | .fin => 6

def flagFin : UInt8 := 0x01
def flagSyn : UInt8 := 0x02
def flagRst : UInt8 := 0x04
def flagPsh : UInt8 := 0x08
def flagAck : UInt8 := 0x10

def eventTypeOf (flags : UInt8) : EventType :=
  if flags &&& flagRst ≠ 0 then .rst
  else if flags &&& flagFin ≠ 0 then .fin
  else if flags &&& (flagSyn ||| flagAck) = flagSyn ||| flagAck then .synack
  else if flags &&& flagSyn ≠ 0 then .syn
  else .ack

/-- `struct faketcp_event`, 112 bytes on the ring. -/
structure Event where
  key : SessionKey
  timestampNanos : UInt64
  runtimeIncarnation : Incarnation
  captureSequence : UInt64 := 0
  sessionRevision : UInt64 := 0
  sessionId : UInt64 := 0
  captureCpu : UInt32 := 0
  sequence : UInt32 := 0
  acknowledgement : UInt32 := 0
  payloadLength : UInt32 := 0
  fwmark : UInt32 := 0
  wgId : UInt32
  packetLength : UInt16 := 0
  eventAbiVersion : UInt16
  type : UInt8
  tcpFlags : UInt8
  deriving DecidableEq

def SessionKey.encode (key : SessionKey) : Bytes :=
  Bytes.leBytes 8 key.generation.toNat ++ (Bytes.leBytes 4 key.localIpv4.toNat ++
  (Bytes.leBytes 4 key.remoteIpv4.toNat ++ (Bytes.leBytes 4 key.underlayIndex.toNat ++
  (Bytes.leBytes 2 key.localPort.toNat ++ (Bytes.leBytes 2 key.remotePort.toNat ++
  (Bytes.leBytes 4 key.wgId.toNat ++ key.pad.val))))))

def Event.encode (event : Event) : Bytes :=
  event.key.encode ++ (Bytes.leBytes 8 event.timestampNanos.toNat ++
  (event.runtimeIncarnation.val ++ (Bytes.leBytes 8 event.captureSequence.toNat ++
  (Bytes.leBytes 8 event.sessionRevision.toNat ++ (Bytes.leBytes 8 event.sessionId.toNat ++
  (Bytes.leBytes 4 event.captureCpu.toNat ++ (Bytes.leBytes 4 event.sequence.toNat ++
  (Bytes.leBytes 4 event.acknowledgement.toNat ++ (Bytes.leBytes 4 event.payloadLength.toNat ++
  (Bytes.leBytes 4 event.fwmark.toNat ++ (Bytes.leBytes 4 event.wgId.toNat ++
  (Bytes.leBytes 2 event.packetLength.toNat ++ (Bytes.leBytes 2 event.eventAbiVersion.toNat ++
  [event.type, event.tcpFlags, 0, 0])))))))))))))

@[simp] theorem SessionKey.length_encode (key : SessionKey) : key.encode.length = 32 := by
  simp only [encode, List.length_append, Bytes.length_leBytes, key.pad.2]

@[simp] theorem Event.length_encode (event : Event) : event.encode.length = 112 := by
  simp only [encode, List.length_append, Bytes.length_leBytes, SessionKey.length_encode,
    event.runtimeIncarnation.2, List.length_cons, List.length_nil]

structure ControlPolicyValue where
  generation : UInt64
  virtualTimeNanos : UInt64
  intervalNanos : UInt64
  burst : UInt32
  deriving DecidableEq

structure ControlFlowKey where
  session : SessionKey
  wgId : UInt32
  eventType : EventType
  deriving DecidableEq

structure ControlFlowValue where
  generation : UInt64
  lastEventNanos : UInt64
  deriving DecidableEq

structure GenerationGate where
  generation : UInt64
  state : UInt64
  deriving DecidableEq

inductive Stat where
  | egressOk
  | ingressOk
  | sessionMiss
  | badState
  | badPacket
  | gsoReject
  | checksumError
  | metadataError
  | eventError
  | controlCoalesced
  | controlRateLimited
  | controlPolicyMiss
  | captureIdError
  | admissionAccept
  | admissionBypassReject
  | checksumNoneAccepted
  | checksumPartialReset
  | checksumStateReject
  | mtuReject
  deriving DecidableEq, Repr

/-- One `bpf_ringbuf_output` call on the event ring and whether it took. -/
structure RingOutput where
  record : Bytes
  delivered : Bool
  deriving DecidableEq

/-- The maps that packet programs write. -/
structure Kernel where
  sessions : SessionKey → Option SessionValue := fun _ => none
  controlPolicies : UInt64 → UInt32 → Option ControlPolicyValue := fun _ _ => none
  controlFlows : ControlFlowKey → Option ControlFlowValue := fun _ => none
  gate : Option GenerationGate := none
  wakes : List UInt64 := []
  stats : Stat → Nat := fun _ => 0
  outputs : List RingOutput := []

/-- What the surrounding kernel answers during one run: the clock, each helper
that may fail, and what other CPUs make of a held session entry before the
final lock is taken. -/
structure Env where
  now : UInt64
  scratch : Bool := true
  captureScratch : Bool := true
  ringOutput : Bool := true
  wakeOutput : Bool := true
  controlFlowUpdate : Bool := true
  adjustMeta : Bool := true
  adjustTail : Bool := true
  racing : SessionValue → SessionValue := id

namespace Kernel

variable (kernel : Kernel)

def incStat (stat : Stat) : Kernel :=
  { kernel with stats := fun other => if other = stat then kernel.stats other + 1 else kernel.stats other }

def setSession (key : SessionKey) (value : SessionValue) : Kernel :=
  { kernel with sessions := fun other => if other = key then some value else kernel.sessions other }

def output (env : Env) (record : Bytes) : Kernel :=
  { kernel with outputs := kernel.outputs ++ [⟨record, env.ringOutput⟩] }

@[simp] theorem output_outputs (env : Env) (record : Bytes) :
    (kernel.output env record).outputs = kernel.outputs ++ [⟨record, env.ringOutput⟩] := rfl
end Kernel

namespace GenerationGate

def openBit : UInt64 := 0x8000000000000000
def sealedBit : UInt64 := 0x4000000000000000
def poisonBit : UInt64 := 0x2000000000000000
def wakeArmedBit : UInt64 := 0x1000000000000000
def inflightMask : UInt64 := wakeArmedBit - 1

def poison (gate : GenerationGate) : GenerationGate :=
  { gate with state := gate.state ||| poisonBit }

/-- The gate is returned on rejection too, because a mismatch poisons it. -/
def enter (gate : GenerationGate) (generation : UInt64) : GenerationGate × Bool :=
  if generation = 0 then (gate, false)
  else if gate.generation ≠ generation then
    (if gate.generation ≠ 0 ∨ gate.state ≠ 0 then gate.poison else gate, false)
  else
    let count := gate.state &&& inflightMask
    let flags := gate.state &&& ~~~inflightMask
    if flags &&& poisonBit ≠ 0 then (gate, false)
    else if (flags = 0 ∧ count = 0) ∨ (flags = sealedBit ∧ count = 0) ∨
        flags = sealedBit ||| wakeArmedBit then (gate, false)
    else if flags ≠ openBit then (gate.poison, false)
    else if count = inflightMask then (gate.poison, false)
    else ({ gate with state := gate.state + 1 }, true)

end GenerationGate

def Kernel.generationEnter (kernel : Kernel) (generation : UInt64) : Kernel × Bool :=
  match kernel.gate with
  | none => (kernel, false)
  | some gate =>
    let entered := gate.enter generation
    ({ kernel with gate := some entered.1 }, entered.2)

/-- The last exit of a sealed generation wakes the control plane and, when the
wake was delivered, disarms it. -/
def Kernel.generationExit (kernel : Kernel) (maps : PolicyMaps) (env : Env)
    (generation : UInt64) : Kernel :=
  match kernel.gate with
  | none => kernel
  | some gate =>
    let count := gate.state &&& GenerationGate.inflightMask
    let flags := gate.state &&& ~~~GenerationGate.inflightMask
    let left := { gate with state := gate.state - 1 }
    let armed := GenerationGate.sealedBit ||| GenerationGate.wakeArmedBit
    if count = 0 ∨ gate.generation ≠ generation then { kernel with gate := some left.poison }
    else if flags &&& GenerationGate.poisonBit ≠ 0 then { kernel with gate := some left }
    else if flags ≠ GenerationGate.openBit ∧ flags ≠ armed then { kernel with gate := some left.poison }
    else if count ≠ 1 ∨ flags ≠ armed then { kernel with gate := some left }
    else if (maps.lookupRuntimeIdentity generation).isNone then
      { kernel with gate := some left.poison }
    else if env.wakeOutput then
      { kernel with
        gate := some { left with state := if left.state = armed then GenerationGate.sealedBit else left.state }
        wakes := kernel.wakes ++ [generation] }
    else { kernel with gate := some left }

namespace ControlPolicyValue

def minIntervalNanos : UInt64 := 10000000
def maxIntervalNanos : UInt64 := 10000000000
def maxBurst : UInt32 := 4096

def bounded (policy : ControlPolicyValue) : Bool :=
  minIntervalNanos ≤ policy.intervalNanos ∧ policy.intervalNanos ≤ maxIntervalNanos ∧
    policy.burst ≠ 0 ∧ policy.burst ≤ maxBurst

/-- The GCRA cursor advanced by one token, or `none` when the budget is spent. -/
def takeBudget (policy : ControlPolicyValue) (now : UInt64) : Option ControlPolicyValue :=
  if policy.bounded = false then none
  else
    let window := policy.intervalNanos * policy.burst.toUInt64
    if now > 0xffffffffffffffff - window then none
    else if policy.virtualTimeNanos = 0 then
      some { policy with virtualTimeNanos := now + policy.intervalNanos }
    else
      let base := if policy.virtualTimeNanos > now then policy.virtualTimeNanos else now
      if base > 0xffffffffffffffff - policy.intervalNanos then none
      else if base + policy.intervalNanos > now + window then none
      else some { policy with virtualTimeNanos := base + policy.intervalNanos }

end ControlPolicyValue

namespace Kernel

def setControlPolicy (kernel : Kernel) (generation : UInt64) (wgId : UInt32)
    (policy : ControlPolicyValue) : Kernel :=
  { kernel with controlPolicies := fun g w =>
      if g = generation ∧ w = wgId then some policy else kernel.controlPolicies g w }

def setControlFlow (kernel : Kernel) (key : ControlFlowKey) (value : ControlFlowValue) : Kernel :=
  { kernel with controlFlows := fun other =>
      if other = key then some value else kernel.controlFlows other }

/-- A flow's previous event of this type is still inside the policy interval. -/
def coalesces (previous : Option ControlFlowValue) (generation intervalNanos now : UInt64) : Bool :=
  match previous with
  | none => false
  | some previous => previous.generation = generation ∧ previous.lastEventNanos ≠ 0 ∧
      (now ≤ previous.lastEventNanos ∨ now - previous.lastEventNanos < intervalNanos)

def admitControlEventInner (kernel : Kernel) (env : Env) (session : SessionKey) (wgId : UInt32)
    (eventType : EventType) : Kernel × Bool :=
  if session.valid = false ∨ session.wgId ≠ wgId then (kernel.incStat .controlPolicyMiss, false)
  else
    match kernel.controlPolicies session.generation wgId with
    | none => (kernel.incStat .controlPolicyMiss, false)
    | some policy =>
      if policy.generation ≠ session.generation ∨ policy.bounded = false then
        (kernel.incStat .controlPolicyMiss, false)
      else
        let flowKey : ControlFlowKey := ⟨session, wgId, eventType⟩
        if coalesces (kernel.controlFlows flowKey) session.generation policy.intervalNanos env.now then
          (kernel.incStat .controlCoalesced, false)
        else
          match policy.takeBudget env.now with
          | none => (kernel.incStat .controlRateLimited, false)
          | some charged =>
            let kernel := kernel.setControlPolicy session.generation wgId charged
            if env.controlFlowUpdate then
              (kernel.setControlFlow flowKey ⟨session.generation, env.now⟩, true)
            else (kernel.incStat .eventError, true)

def admitControlEvent (kernel : Kernel) (maps : PolicyMaps) (env : Env) (session : SessionKey)
    (wgId : UInt32) (eventType : EventType) : Kernel × Bool :=
  let entered := kernel.generationEnter session.generation
  if entered.2 then
    let admitted := entered.1.admitControlEventInner env session wgId eventType
    (admitted.1.generationExit maps env session.generation, admitted.2)
  else (entered.1.incStat .controlPolicyMiss, false)

def emitEvent (kernel : Kernel) (maps : PolicyMaps) (env : Env) (key : SessionKey)
    (type : EventType) (flags : UInt8) (seq ack payloadLen fwmark wgId : UInt32) : Kernel :=
  let admitted := kernel.admitControlEvent maps env key wgId type
  if admitted.2 then
    match maps.lookupRuntimeIdentity key.generation with
    | none => admitted.1.incStat .captureIdError
    | some identity =>
      let event : Event := {
        key := key
        timestampNanos := env.now
        runtimeIncarnation := identity.incarnation
        sequence := seq
        acknowledgement := ack
        payloadLength := payloadLen
        fwmark := fwmark
        wgId := wgId
        eventAbiVersion := Bpf.eventAbiVersion
        type := type.code
        tcpFlags := flags }
      let kernel := admitted.1.output env event.encode
      if env.ringOutput then kernel else kernel.incStat .eventError
  else admitted.1

end Kernel

end WgMix.Bpf
