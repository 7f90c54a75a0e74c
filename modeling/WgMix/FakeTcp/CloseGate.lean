import WgMix.FakeTcp.ControlPacket
import WgMix.FakeTcp.EventClosure
import WgMix.Bpf.L3Spec

/-! The close gate of the packet program against the validator in user space. What the program checks
against its snapshot, the validator checks against an entry: on the entry that the snapshot was taken
of they agree. -/
namespace WgMix.FakeTcp
open Bpf

namespace CloseGate
open EventClosure Engine

variable {build : Build} {maps : PolicyMaps} {kernel after : Kernel} {env : Env} {ctx : Xdp.Context}
  {generation : UInt64} {l3 : Bpf.L3Info} {bytes record : Bytes} {policy : IngressListenerValue}
  {session : SessionSnapshot} {value : SessionValue}

/-- What the parser and the checkpoint know of the bytes at the front of the packet. -/
structure Shaped (packet : Bytes) : Prop where
  version : (packet.byteAt 0).toNat / 16 = 4
  headerLen : (packet.byteAt 0).toNat % 16 * 4 = 20
  fragment : packet.be16 6 &&& 0xbfff = 0
  protocol : packet.byteAt 9 = 6

theorem loadEnvelope_slice (loaded : Xdp.loadEnvelope build frame offset = some packet) :
    packet = frame.slice offset 40 := by
  rw [Xdp.loadEnvelope] at loaded
  split at loaded
  · contradiction
  split at loaded
  · contradiction
  · exact (Option.some.inj loaded).symm

theorem reaches_shaped (reaches : Reaches build maps kernel ctx generation l3 bytes policy after)
    (parsed : L3.parseL3 ctx.frame ctx.frame.length offset family = (.ok, l3)) : Shaped bytes := by
  obtain ⟨_, _, _, _, _, admitted⟩ := reaches.admitted
  have shape := admitted.shape
  rw [L3.managedTransformStatus] at shape
  split at shape
  · contradiction
  rename_i fixed
  simp only [not_or, Decidable.not_not] at fixed
  obtain ⟨v4, headerLen, protocol⟩ := fixed
  have ipv4 := L3.parseL3_ipv4 parsed v4
  have fragment := L3.parseIpv4_fragment (L3.parseL3_v4 parsed v4)
  rw [loadEnvelope_slice reaches.loaded, ipv4.start]
  refine ⟨?_, ?_, ?_, ?_⟩
  · rw [Bytes.byteAt_slice (by decide)]
    exact ipv4.version
  · rw [Bytes.byteAt_slice (by decide)]
    exact ipv4.headerLen.symm.trans headerLen
  · rw [Bytes.be16_slice (by decide)]
    exact fragment
  · rw [Bytes.byteAt_slice (by decide)]
    exact ipv4.protocol.symm.trans protocol

/-- The entry behind a snapshot is one that the validator takes. -/
theorem metadata_established (valid : value.metadataValid generation = true) :
    validateEstablishedSessionValue value generation = true := by
  obtain ⟨current, state, flags, pad, reserved, revision, sessionId, incarnation⟩ :=
    (SessionValue.metadataValid_iff _ _).mp valid
  simp only [validateEstablishedSessionValue, decide_eq_true_eq]
  rw [FixedBytes.aggregate_eq_zero] at pad
  rw [ne_eq, FixedBytes.aggregate_eq_zero] at incarnation
  exact ⟨current, state, flags, pad, reserved, revision, sessionId, incarnation⟩

/-- The event type of an exact close follows its flags. -/
theorem close_type (exact : flags = flagRst ||| flagAck ∨ flags = flagFin ||| flagAck) :
    (flags = flagRst ||| flagAck ∧ (eventTypeOf flags).code = EventType.rst.code) ∨
      (flags = flagFin ||| flagAck ∧ (eventTypeOf flags).code = EventType.fin.code) := by
  rcases exact with rfl | rfl
  · exact .inl ⟨rfl, rfl⟩
  · exact .inr ⟨rfl, rfl⟩

/-- A record that leaves the gate carries a packet that validates against the entry of the snapshot. -/
theorem closes_validates (reaches : Reaches build maps kernel ctx generation l3 bytes policy after)
    (parsed : L3.parseL3 ctx.frame ctx.frame.length offset family = (.ok, l3))
    (established : Xdp.Established maps after generation (Xdp.admissionOf ctx ⟨bytes⟩ policy generation) session)
    (closes : Closes build env ctx ⟨bytes⟩ l3.l3Off (Xdp.admissionOf ctx ⟨bytes⟩ policy generation) session record) :
    ∃ event value, decodeBorrowedEventSample record = .ok ⟨event, bytes⟩ ∧
      kernel.sessions event.key = some value ∧ validateIPv4TCPControl bytes event value = true := by
  have header := closes.header established
  obtain ⟨packet, loaded, rfl⟩ := closes.captured
  cases reaches.loaded.symm.trans loaded
  have sized := loadEnvelope_length reaches.loaded
  obtain ⟨_, length, revision, sessionId⟩ := closes.carries established
  have stamped := header.identity_valid
  obtain ⟨value, found, valid, rfl⟩ := SessionValue.snapshot_cases established.taken
  rw [reaches.moved.sessions] at found
  have shaped := reaches_shaped reaches parsed
  have exact := closes.exact
  simp only [Xdp.closeExact, decide_eq_true_eq] at exact
  obtain ⟨total, _, offset, flags, sequence, acknowledgement, window, urgent⟩ := exact
  obtain ⟨ipSum, tcpSum⟩ := (controlChecksumsValid_iff sized).mp closes.checksums
  refine ⟨_, value, close_decodes header flags length revision sessionId sized, found, ?_⟩
  have type := close_type flags
  have port (offset : Nat) : bytes.be16 offset = (UInt16.ofNat (bytes.be16 offset)).toNat := by
    rw [UInt16.toNat_ofNat', Nat.mod_eq_of_lt (Bytes.be16_lt ..)]
  have stored := metadata_established valid
  simp only [validateIPv4TCPControl, decide_eq_true_eq, Bytes.byteAt_drop, Bytes.be16_drop, Bytes.be32_drop]
  refine ⟨stamped, rfl, ?_, flow_valid closes.key, stored, closes.window, rfl, rfl, rfl, sized, shaped.version,
    shaped.headerLen, total.trans sized.symm, shaped.fragment, shaped.protocol, ipSum, rfl, rfl, offset, port 20,
    port 22, tcpSum, flags, Bytes.be16_of_le16 (Nat.le_of_eq sized.symm) urgent, sequence, acknowledgement, window,
    rfl, sequence, acknowledgement, ?_, ?_⟩
  · rcases type with ⟨_, rst⟩ | ⟨_, fin⟩
    · exact .inl rst
    · exact .inr fin
  · intro rst
    rcases type with ⟨exact, _⟩ | ⟨_, fin⟩
    · exact exact
    · exact absurd (fin.symm.trans rst) (by decide)
  · intro fin
    rcases type with ⟨_, rst⟩ | ⟨exact, _⟩
    · exact absurd (rst.symm.trans fin) (by decide)
    · exact exact

/-- Whatever the branch, a decoded close has come through the gate. -/
theorem record_validates (handed : output ∈ emitted build maps kernel env ctx generation)
    (decoded : decodeBorrowedEventSample output.record = .ok ⟨event, packet⟩)
    (closing : closeEvent event.type = true) :
    ∃ value, kernel.sessions event.key = some value ∧ validateIPv4TCPControl packet event value = true := by
  have heard : (Xdp.ingressBody build maps kernel env ctx generation).kernel.outputs ≠ kernel.outputs := by
    intro same
    rw [emitted, same, List.drop_length] at handed
    cases handed
  rcases body_branch build maps kernel env ctx generation with same | ⟨⟨offset, family, parsed⟩, branch⟩
  · exact absurd same heard
  cases branch with
  | quiet same => exact absurd same heard
  | control bytes policy after wgId reaches opened ends =>
    rw [emitted, ends] at handed
    have written := ((emitEvent_emits after maps env _ _ _ _ _ _ _ opened).lift reaches.moved.outputs).mem handed
    generalize output.record = record at written decoded
    cases written with
    | control header opened bare revision session =>
      rw [control_decodes header opened bare revision session] at decoded
      split at decoded
      · cases decoded
        rw [header.type] at closing
        rcases control_types _ opened with ⟨type, _⟩ | ⟨type, _⟩ | ⟨type, _⟩
        · rw [type] at closing
          cases closing
        · rw [type] at closing
          cases closing
        · rw [type] at closing
          cases closing
      · cases decoded
    | close header exact =>
      rcases exact with exact | exact
      · rw [show Xdp.Envelope.flags ⟨bytes⟩ = _ from exact] at opened
        cases opened
      · rw [show Xdp.Envelope.flags ⟨bytes⟩ = _ from exact] at opened
        cases opened
  | close bytes policy after session reaches established ends =>
    rw [emitted, ends] at handed
    have closes := ((closeBranch_closes ..).lift reaches.moved.outputs).mem handed
    obtain ⟨captured, value, record, found, valid⟩ := closes_validates reaches parsed established closes
    cases record.symm.trans decoded
    exact ⟨value, found, valid⟩

end CloseGate

end WgMix.FakeTcp
