import WgMix.Foundation.Guard
import WgMix.Bpf.Events

/-! Userspace decoding and validation of ring records. The checks stand in the
source's order, so the first failing one names the error. -/
namespace WgMix.FakeTcp
open Bpf

def eventSize : Nat := 112
def maxCapturedPacket : Nat := 2304
def packetEventSize : Nat := eventSize + maxCapturedPacket

inductive FlowError where
  | generation
  | localIpv4
  | remoteIpv4
  | underlayIndex
  | localPort
  | remotePort
  | wgId
  | reserved
  deriving DecidableEq, Repr

inductive IdentityError where
  | generationZero
  | incarnationZero
  | generationMismatch
  | sequenceZero
  deriving DecidableEq, Repr

inductive CaptureError where
  | notIpv4
  | headerLength
  | totalLength
  | fragment
  | protocol
  | endpoints
  | ports
  | udpLength
  | payloadLength
  deriving DecidableEq, Repr

inductive EventError where
  | shortSample (length : Nat)
  | flow (cause : FlowError)
  | wgIdMismatch (event key : UInt32)
  | abiVersion (version : UInt16)
  | identity (cause : IdentityError)
  | captureIdentity (cause : IdentityError)
  | inconsistentFlags (type flags : UInt8)
  | unknownType (type : UInt8)
  | closeWithoutSession
  | sessionOnNonClose
  | captureOnControl
  | controlSize (type : UInt8) (packetLength : UInt16) (size : Nat)
  | packetLength (length : Nat)
  | packetSize (size compact : Nat)
  | captured (cause : CaptureError)
  deriving DecidableEq, Repr

/-- Host fields are read in native order, which is little endian here. -/
def decodeEventHeader (header : Bytes) : Event where
  key := {
    generation := header.le64 0
    localIpv4 := header.le32 8
    remoteIpv4 := header.le32 12
    underlayIndex := header.le32 16
    localPort := header.le16 20
    remotePort := header.le16 22
    wgId := header.le32 24
    pad := FixedBytes.ofSlice header 28 4 }
  timestampNanos := header.le64 32
  runtimeIncarnation := FixedBytes.ofSlice header 40 16
  captureSequence := header.le64 56
  sessionRevision := header.le64 64
  sessionId := header.le64 72
  captureCpu := header.le32 80
  sequence := header.le32 84
  acknowledgement := header.le32 88
  payloadLength := header.le32 92
  fwmark := header.le32 96
  wgId := header.le32 100
  packetLength := header.le16 104
  eventAbiVersion := header.le16 106
  type := header.byteAt 108
  tcpFlags := header.byteAt 109

def validatePacketFlow (flow : SessionKey) : Except FlowError Unit :=
  if flow.generation = 0 then .error .generation
  else if flow.localIpv4 = 0 then .error .localIpv4
  else if flow.remoteIpv4 = 0 then .error .remoteIpv4
  else if flow.underlayIndex = 0 then .error .underlayIndex
  else if flow.localPort = 0 then .error .localPort
  else if flow.remotePort = 0 then .error .remotePort
  else if flow.wgId = 0 then .error .wgId
  else if flow.pad ≠ FixedBytes.zero 4 then .error .reserved
  else .ok ()

/-- The packet programs' check of a session key is user space's. -/
theorem flow_valid (valid : key.valid = true) : validatePacketFlow key = .ok () := by
  simp only [SessionKey.valid, decide_eq_true_eq, FixedBytes.aggregate_eq_zero] at valid
  obtain ⟨generation, localIp, remoteIp, underlay, localPort, remotePort, wgId, pad⟩ := valid
  simp only [validatePacketFlow, generation, localIp, remoteIp, underlay, localPort, remotePort,
    wgId, pad, if_false, ne_eq, not_true]

structure RuntimeIdentity where
  generation : UInt64
  incarnation : Incarnation
  deriving DecidableEq

def validateRuntimeIdentity (identity : RuntimeIdentity) : Except IdentityError Unit :=
  if identity.generation = 0 then .error .generationZero
  else if identity.incarnation = FixedBytes.zero 16 then .error .incarnationZero
  else .ok ()

def runtimeIdentityFromEvent (event : Event) : RuntimeIdentity :=
  ⟨event.key.generation, event.runtimeIncarnation⟩

structure CaptureIdentity where
  runtime : RuntimeIdentity
  cpu : UInt32
  sequence : UInt64
  deriving DecidableEq

def captureIdentityFromEvent (event : Event) : CaptureIdentity :=
  ⟨runtimeIdentityFromEvent event, event.captureCpu, event.captureSequence⟩

def validateCaptureIdentity (identity : CaptureIdentity) (generation : UInt64) :
    Except IdentityError Unit :=
  match validateRuntimeIdentity identity.runtime with
  | .error cause => .error cause
  | .ok () =>
    if identity.runtime.generation ≠ generation then .error .generationMismatch
    else if identity.sequence = 0 then .error .sequenceZero
    else .ok ()

/-- The switch of `validateEventType` on the event type. -/
def validateEventFlags (event : Event) : Except EventError Unit :=
  let flags := event.tcpFlags
  let checked (consistent : Bool) : Except EventError Unit :=
    if consistent then .ok () else .error (.inconsistentFlags event.type flags)
  if event.type = EventType.needHandshake.code then
    if flags ≠ 0 then .error (.inconsistentFlags event.type flags)
    else
      match validateCaptureIdentity (captureIdentityFromEvent event) event.key.generation with
      | .error cause => .error (.captureIdentity cause)
      | .ok () => .ok ()
  else if event.type = EventType.syn.code then
    checked (flags &&& flagSyn ≠ 0 ∧ flags &&& (flagAck ||| flagRst ||| flagFin) = 0)
  else if event.type = EventType.synack.code then
    checked (flags &&& (flagSyn ||| flagAck) = flagSyn ||| flagAck ∧ flags &&& (flagRst ||| flagFin) = 0)
  else if event.type = EventType.ack.code then
    checked (flags &&& flagAck ≠ 0 ∧ flags &&& (flagSyn ||| flagRst ||| flagFin) = 0)
  else if event.type = EventType.rst.code then checked (flags = flagRst ||| flagAck)
  else if event.type = EventType.fin.code then checked (flags = flagFin ||| flagAck)
  else .error (.unknownType event.type)

def closeEvent (type : UInt8) : Bool := type = EventType.rst.code ∨ type = EventType.fin.code

def validateEventIdentity (event : Event) : Except EventError Unit :=
  if closeEvent event.type ∧ (event.sessionRevision = 0 ∨ event.sessionId = 0) then
    .error .closeWithoutSession
  else if closeEvent event.type = false ∧ (event.sessionRevision ≠ 0 ∨ event.sessionId ≠ 0) then
    .error .sessionOnNonClose
  else if event.type ≠ EventType.needHandshake.code ∧
      (event.captureSequence ≠ 0 ∨ event.captureCpu ≠ 0) then .error .captureOnControl
  else .ok ()

def validateEventType (event : Event) : Except EventError Unit :=
  match validatePacketFlow event.key with
  | .error cause => .error (.flow cause)
  | .ok () =>
    if event.wgId ≠ event.key.wgId then .error (.wgIdMismatch event.wgId event.key.wgId)
    else if event.eventAbiVersion ≠ Bpf.eventAbiVersion then .error (.abiVersion event.eventAbiVersion)
    else
      match validateRuntimeIdentity (runtimeIdentityFromEvent event) with
      | .error cause => .error (.identity cause)
      | .ok () =>
        match validateEventFlags event with
        | .error cause => .error cause
        | .ok () => validateEventIdentity event

def validateCapturedIPv4UDP (event : Event) (packet : Bytes) : Except CaptureError Unit :=
  let headerLength := (packet.byteAt 0).toNat % 16 * 4
  if packet.length < 20 ∨ (packet.byteAt 0).toNat / 16 ≠ 4 then .error .notIpv4
  else if headerLength ≠ 20 ∨ headerLength + 8 > packet.length then .error .headerLength
  else if packet.be16 2 ≠ packet.length then .error .totalLength
  else if packet.be16 6 &&& 0x3fff ≠ 0 then .error .fragment
  else if packet.byteAt 9 ≠ 17 then .error .protocol
  else if packet.le32 12 ≠ event.key.localIpv4 ∨ packet.le32 16 ≠ event.key.remoteIpv4 then
    .error .endpoints
  else if packet.be16 headerLength ≠ event.key.localPort.toNat ∨
      packet.be16 (headerLength + 2) ≠ event.key.remotePort.toNat then .error .ports
  else if packet.be16 (headerLength + 4) ≠ packet.length - headerLength then .error .udpLength
  else if event.payloadLength ≠ UInt32.ofNat (packet.length - headerLength - 8) then
    .error .payloadLength
  else .ok ()

def carriesPacket (type : UInt8) : Bool :=
  type = EventType.needHandshake.code ∨ type = EventType.rst.code ∨ type = EventType.fin.code

structure DecodedEvent where
  event : Event
  packet : Bytes
  deriving DecidableEq

/-- The packet-bearing half of `decodeBorrowedEventSample`. -/
def decodePacketSample (event : Event) (sample : Bytes) : Except EventError DecodedEvent :=
  let packetLength := event.packetLength.toNat
  if packetLength = 0 ∨ packetLength > maxCapturedPacket then .error (.packetLength packetLength)
  else
    let compactSize := eventSize + packetLength
    if sample.length ≠ compactSize ∧ sample.length ≠ packetEventSize then
      .error (.packetSize sample.length compactSize)
    else
      let packet := sample.slice eventSize packetLength
      if event.type = EventType.needHandshake.code then
        match validateCapturedIPv4UDP event packet with
        | .error cause => .error (.captured cause)
        | .ok () => .ok ⟨event, packet⟩
      else .ok ⟨event, packet⟩

def decodeBorrowedEventSample (sample : Bytes) : Except EventError DecodedEvent :=
  if sample.length < eventSize then .error (.shortSample sample.length)
  else
    let event := decodeEventHeader (sample.take eventSize)
    match validateEventType event with
    | .error cause => .error cause
    | .ok () =>
      if carriesPacket event.type = false then
        if event.packetLength ≠ 0 ∨ sample.length ≠ eventSize then
          .error (.controlSize event.type event.packetLength sample.length)
        else .ok ⟨event, []⟩
      else decodePacketSample event sample

section RoundTrip

theorem ofNat_leNat64 (value : UInt64) :
    UInt64.ofNat (Bytes.leNat (Bytes.leBytes 8 value.toNat)) = value := by
  rw [Bytes.leNat_leBytes, Nat.mod_eq_of_lt (by simpa using value.toNat_lt), UInt64.ofNat_toNat]

theorem ofNat_leNat32 (value : UInt32) :
    UInt32.ofNat (Bytes.leNat (Bytes.leBytes 4 value.toNat)) = value := by
  rw [Bytes.leNat_leBytes, Nat.mod_eq_of_lt (by simpa using value.toNat_lt), UInt32.ofNat_toNat]

theorem ofNat_leNat16 (value : UInt16) :
    UInt16.ofNat (Bytes.leNat (Bytes.leBytes 2 value.toNat)) = value := by
  rw [Bytes.leNat_leBytes, Nat.mod_eq_of_lt (by simpa using value.toNat_lt), UInt16.ofNat_toNat]

/-- Userspace reads back exactly the record the packet program wrote. -/
theorem decode_encode (event : Event) : decodeEventHeader event.encode = event := by
  obtain ⟨key, stamp, incarnation, capture, revision, id, cpu, seq, ack, payload, mark, wg, packet,
    version, type, flags⟩ := event
  obtain ⟨generation, localIp, remoteIp, underlay, localPort, remotePort, wgId, pad⟩ := key
  have pad4 := pad.2
  have incarnation16 := incarnation.2
  simp (disch := simp only [Bytes.length_leBytes, SessionKey.length_encode, pad4, incarnation16,
      Nat.reduceLeDiff, Nat.reduceSub, Nat.le_refl]) only
    [decodeEventHeader, Event.encode, SessionKey.encode, Bytes.le64, Bytes.le32, Bytes.le16,
      List.append_assoc, Bytes.slice_skip, Bytes.byteAt_skip, Bytes.slice_here,
      FixedBytes.ofSlice_skip, FixedBytes.ofSlice_here, Bytes.length_leBytes, incarnation16, pad4,
      Nat.reduceSub, ofNat_leNat64, ofNat_leNat32, ofNat_leNat16]
  rfl

end RoundTrip

end WgMix.FakeTcp
