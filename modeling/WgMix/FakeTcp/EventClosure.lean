import WgMix.FakeTcp.EventReader
import WgMix.Bpf.XdpSpec

/-! Ring records against their userspace validator. Both sides classify TCP
flags on their own; the only frames on which they disagree carry none of FIN,
SYN, RST and ACK, which the kernel files as an acknowledgement. -/
namespace WgMix.FakeTcp
open Bpf

/-- Outputs of one run, without those of earlier runs. -/
def emitted (build : Build) (maps : PolicyMaps) (kernel : Kernel) (env : Env) (ctx : Xdp.Context)
    (generation : UInt64) : List RingOutput :=
  (Xdp.ingressBody build maps kernel env ctx generation).kernel.outputs.drop kernel.outputs.length

/-- The transport descriptor that the XDP program parses out of a frame. -/
def receivedL3 (maps : PolicyMaps) (ctx : Xdp.Context) (generation : UInt64) : Bpf.L3Info :=
  let started := Xdp.l3Start ctx.frame (maps.lookupParserMode ctx.ingressIfindex generation)
  (L3.parseL3 ctx.frame ctx.frame.length started.2.1 started.2.2).2

/-- The TCP flag byte of the received frame. -/
def receivedFlags (maps : PolicyMaps) (ctx : Xdp.Context) (generation : UInt64) : UInt8 :=
  ctx.frame.byteAt ((receivedL3 maps ctx generation).l4Off + 13)

def controlFlagged (flags : UInt8) : Bool :=
  flags &&& (flagFin ||| flagSyn ||| flagRst ||| flagAck) ≠ 0

namespace EventClosure

/-- What both event branches guarantee of the header they write. -/
structure Header (maps : PolicyMaps) (generation : UInt64) (flags : UInt8) (event : Event) : Prop where
  key : event.key.valid = true
  epoch : event.key.generation = generation
  wgId : event.wgId = event.key.wgId
  version : event.eventAbiVersion = Bpf.eventAbiVersion
  identity : ∃ identity, maps.lookupRuntimeIdentity generation = some identity ∧
    event.runtimeIncarnation = identity.incarnation
  type : event.type = (eventTypeOf flags).code
  tcpFlags : event.tcpFlags = flags
  capture : event.captureSequence = 0 ∧ event.captureCpu = 0

inductive Written (maps : PolicyMaps) (generation : UInt64) (flags : UInt8) : Bytes → Prop where
  | control : Header maps generation flags event → Xdp.closeControl flags = false →
      event.packetLength = 0 → event.sessionRevision = 0 → event.sessionId = 0 →
      Written maps generation flags event.encode
  | close : Header maps generation flags event →
      flags = flagRst ||| flagAck ∨ flags = flagFin ||| flagAck →
      event.packetLength = 40 → event.sessionRevision ≠ 0 → event.sessionId ≠ 0 →
      packet.length = 40 → Written maps generation flags (event.encode ++ packet)

/-- At most one record leaves a run, and it satisfies `P`. -/
def Emits (P : Bytes → Prop) (before after : Kernel) : Prop :=
  after.outputs = before.outputs ∨
    ∃ output, after.outputs = before.outputs ++ [output] ∧ P output.record

theorem Emits.incStat (emits : Emits P before after) (stat : Stat) :
    Emits P before (after.incStat stat) := emits

theorem Emits.mem {P : Bytes → Prop} (emits : Emits P before after)
    (member : output ∈ after.outputs.drop before.outputs.length) : P output.record := by
  rcases emits with same | ⟨added, appended, holds⟩
  · simp [same] at member
  · simp only [appended, List.drop_left, List.mem_singleton] at member
    exact member ▸ holds

section Admission
variable {kernel : Kernel} {maps : PolicyMaps} {env : Env} {key : SessionKey} {wgId : UInt32}
  {type : EventType}

theorem generationEnter_outputs (kernel : Kernel) (generation : UInt64) :
    (kernel.generationEnter generation).1.outputs = kernel.outputs := by
  unfold Kernel.generationEnter
  split <;> rfl

theorem generationExit_outputs (kernel : Kernel) (maps : PolicyMaps) (env : Env)
    (generation : UInt64) : (kernel.generationExit maps env generation).outputs = kernel.outputs := by
  unfold Kernel.generationExit
  split
  · rfl
  · dsimp only
    repeat' split
    all_goals rfl

theorem admitInner_outputs : (kernel.admitControlEventInner env key wgId type).1.outputs = kernel.outputs := by
  unfold Kernel.admitControlEventInner
  split
  · rfl
  · split
    · rfl
    · dsimp only
      repeat' split
      all_goals rfl

theorem admitInner_key (admitted : (kernel.admitControlEventInner env key wgId type).2 = true) :
    key.valid = true ∧ key.wgId = wgId := by
  unfold Kernel.admitControlEventInner at admitted
  split at admitted
  · contradiction
  · rename_i checked
    simpa using checked

theorem admit_outputs : (kernel.admitControlEvent maps env key wgId type).1.outputs = kernel.outputs := by
  unfold Kernel.admitControlEvent
  dsimp only
  split
  · rw [generationExit_outputs, admitInner_outputs, generationEnter_outputs]
  · exact generationEnter_outputs _ _

/-- Admission is what guarantees a well-formed flow key in every record. -/
theorem admit_key (admitted : (kernel.admitControlEvent maps env key wgId type).2 = true) :
    key.valid = true ∧ key.wgId = wgId := by
  unfold Kernel.admitControlEvent at admitted
  dsimp only at admitted
  split at admitted
  · exact admitInner_key admitted
  · contradiction

end Admission

theorem emitEvent_emits (kernel : Kernel) (maps : PolicyMaps) (env : Env) (key : SessionKey)
    (flags : UInt8) (seq ack payloadLen fwmark wgId : UInt32)
    (opened : Xdp.closeControl flags = false) :
    Emits (Written maps key.generation flags) kernel
      (kernel.emitEvent maps env key (eventTypeOf flags) flags seq ack payloadLen fwmark wgId) := by
  unfold Kernel.emitEvent
  dsimp only
  split
  · rename_i admitted
    obtain ⟨valid, sameWg⟩ := admit_key admitted
    cases found : maps.lookupRuntimeIdentity key.generation with
    | none => exact .inl admit_outputs
    | some identity =>
      have written : Emits (Written maps key.generation flags) kernel
          ((kernel.admitControlEvent maps env key wgId (eventTypeOf flags)).1.output env
            (Event.encode {
              key := key, timestampNanos := env.now, runtimeIncarnation := identity.incarnation,
              sequence := seq, acknowledgement := ack, payloadLength := payloadLen, fwmark := fwmark,
              wgId := wgId, eventAbiVersion := Bpf.eventAbiVersion, type := (eventTypeOf flags).code,
              tcpFlags := flags })) := by
        refine .inr ⟨⟨_, env.ringOutput⟩, by rw [Kernel.output_outputs, admit_outputs], ?_⟩
        exact .control ⟨valid, rfl, sameWg.symm, rfl, ⟨identity, found, rfl⟩, rfl, rfl, rfl, rfl⟩
          opened rfl rfl rfl
      dsimp only
      split
      · exact written
      · exact written.incStat _
  · exact .inl admit_outputs

/-- What the close gate has checked when it writes a record. -/
structure Closes (build : Build) (env : Env) (ctx : Xdp.Context) (headers : Xdp.Envelope) (l3Off : Nat)
    (admission : Xdp.IngressAdmission) (session : SessionSnapshot) (record : Bytes) : Prop where
  window : session.projection.window ≠ 0
  exact : Xdp.closeExact headers admission session = true
  checksums : headers.controlChecksumsValid = true
  key : admission.key.valid = true
  wgId : admission.key.wgId = admission.wgId
  captured : ∃ packet, Xdp.loadEnvelope build ctx.frame l3Off = some packet ∧
    record = (Xdp.capturedClose env admission session).encode ++ packet

theorem loadEnvelope_length (loaded : Xdp.loadEnvelope build frame offset = some packet) : packet.length = 40 := by
  rw [Xdp.loadEnvelope] at loaded
  split at loaded
  · contradiction
  split at loaded
  · contradiction
  rename_i bound
  cases Option.some.inj loaded
  simp only [L3.iphdrSize, L3.tcphdrSize] at bound
  simp only [Bytes.slice, List.length_take, List.length_drop, L3.iphdrSize, L3.tcphdrSize]
  omega

theorem closeBranch_closes (build : Build) (maps : PolicyMaps) (kernel : Kernel) (env : Env)
    (ctx : Xdp.Context) (headers : Xdp.Envelope) (l3Off : Nat) (admission : Xdp.IngressAdmission)
    (session : SessionSnapshot) :
    Emits (Closes build env ctx headers l3Off admission session) kernel
      (Xdp.closeBranch build maps kernel env ctx headers l3Off admission session) := by
  rw [Xdp.closeBranch]
  split
  · exact .inl rfl
  rename_i window
  split
  · exact .inl rfl
  rename_i checked
  split
  · exact .inl rfl
  rename_i checksums
  rw [Bool.not_eq_false] at checked checksums
  suffices captured : Emits (Closes build env ctx headers l3Off admission session) kernel
      (Xdp.captureClosePacket build maps kernel env ctx.frame l3Off admission session).1 by
    dsimp only
    split
    · exact captured.incStat _
    · exact captured
  rw [Xdp.captureClosePacket]
  split
  · exact .inl rfl
  split
  · exact .inl rfl
  dsimp only
  split
  · exact .inl admit_outputs
  rename_i admitted
  obtain ⟨valid, sameWg⟩ := admit_key (Bool.not_eq_false _ ▸ admitted)
  cases loaded : Xdp.loadEnvelope build ctx.frame l3Off with
  | none => exact .inl admit_outputs
  | some packet =>
    refine .inr ⟨⟨_, env.ringOutput⟩, by rw [Kernel.output_outputs, admit_outputs], ?_⟩
    exact ⟨window, checked, checksums, valid, sameWg, packet, loaded, rfl⟩

section
variable {admission : Xdp.IngressAdmission} {session : SessionSnapshot}
  (closes : Closes build env ctx headers l3Off admission session record)
  (established : Xdp.Established maps kernel admission.key.generation admission session)
include closes established

theorem Closes.header :
    Header maps admission.key.generation admission.tcpFlags (Xdp.capturedClose env admission session) := by
  obtain ⟨identity, found, same⟩ := established.identity
  exact ⟨closes.key, rfl, closes.wgId.symm, rfl, ⟨identity, found, same.symm⟩, rfl, rfl, rfl, rfl⟩

/-- A captured close names a live session and carries its packet. -/
theorem Closes.carries :
    (admission.tcpFlags = flagRst ||| flagAck ∨ admission.tcpFlags = flagFin ||| flagAck) ∧
      (Xdp.capturedClose env admission session).packetLength = 40 ∧ session.revision ≠ 0 ∧
      session.authority.sessionId ≠ 0 := by
  have checked := closes.exact
  simp only [Xdp.closeExact, decide_eq_true_eq] at checked
  obtain ⟨total, _, _, flags, _⟩ := checked
  obtain ⟨value, _, valid, rfl⟩ := SessionValue.snapshot_cases established.taken
  obtain ⟨_, _, _, _, _, revision, sessionId, _⟩ := (SessionValue.metadataValid_iff _ _).mp valid
  refine ⟨flags, ?_, revision, sessionId⟩
  simp only [Xdp.capturedClose, total]
  rfl

theorem Closes.written :
    Written maps admission.key.generation admission.tcpFlags record := by
  have header := closes.header established
  obtain ⟨flags, length, revision, sessionId⟩ := closes.carries established
  obtain ⟨packet, loaded, rfl⟩ := closes.captured
  exact .close header flags length revision sessionId (loadEnvelope_length loaded)

end

theorem mutateSession_outputs (mutated : Xdp.mutateSession kernel env generation operation argument
    admission session = some after) : after.outputs = kernel.outputs := by
  obtain ⟨value, rfl⟩ := Xdp.mutateSession_cases mutated
  rfl

theorem transformBranch_outputs (build : Build) (kernel : Kernel) (env : Env) (ctx : Xdp.Context)
    (headers : Xdp.Envelope) (l3 : Bpf.L3Info) (generation : UInt64) (admission : Xdp.IngressAdmission)
    (session : SessionSnapshot) :
    (Xdp.transformBranch build kernel env ctx headers l3 generation admission session).kernel.outputs =
      kernel.outputs := by
  obtain ⟨_, moved⟩ | ⟨_, _, _, _, _, _, _, done⟩ :=
    Xdp.transform_cases build kernel env ctx headers l3 generation admission session
  · exact moved.outputs
  · rw [done.passed]
    exact (mutateSession_outputs done.mutated :)

/-- The envelope's flag byte is the frame's, thirteen bytes into the header
that the parser located. -/
theorem envelope_flags (loaded : Xdp.loadEnvelope build frame offset = some bytes) :
    (⟨bytes⟩ : Xdp.Envelope).flags = frame.byteAt (offset + L3.iphdrSize + 13) := by
  unfold Xdp.loadEnvelope at loaded
  split at loaded
  · contradiction
  split at loaded
  · contradiction
  cases Option.some.inj loaded
  simp only [Xdp.Envelope.flags, Bytes.byteAt, Bytes.slice, List.getD_eq_getElem?_getD,
    List.getElem?_take, List.getElem?_drop, L3.iphdrSize, L3.tcphdrSize, Nat.reduceAdd,
    Nat.reduceLT, if_true, Nat.add_assoc]

/-- What a frame has passed when the checkpoint lets it into a branch that writes records. -/
structure Reaches (build : Build) (maps : PolicyMaps) (kernel : Kernel) (ctx : Xdp.Context) (generation : UInt64)
    (l3 : Bpf.L3Info) (bytes : Bytes) (policy : IngressListenerValue) (after : Kernel) : Prop where
  loaded : Xdp.loadEnvelope build ctx.frame l3.l3Off = some bytes
  admitted : ∃ managed listener managedInterface profile cipher, Xdp.Admitted maps ctx ⟨bytes⟩ l3 managed listener
    managedInterface generation policy profile cipher
  moved : kernel.StatsOnly after

/-- The control branch. -/
def emitControl (maps : PolicyMaps) (env : Env) (kernel : Kernel) (admission : Xdp.IngressAdmission)
    (wgId : UInt32) : Kernel :=
  kernel.emitEvent maps env admission.key (eventTypeOf admission.tcpFlags) admission.tcpFlags
    admission.sequence admission.acknowledgement (UInt32.ofNat admission.payloadLen) 0 wgId

/-- How a run can end: without a record, or in one of the two branches that write one. -/
inductive Branch (build : Build) (maps : PolicyMaps) (kernel : Kernel) (env : Env) (ctx : Xdp.Context)
    (generation : UInt64) (l3 : Bpf.L3Info) (final : Kernel) : Prop where
  | quiet : final.outputs = kernel.outputs → Branch build maps kernel env ctx generation l3 final
  | control (bytes : Bytes) (policy : IngressListenerValue) (after : Kernel) (wgId : UInt32) :
      Reaches build maps kernel ctx generation l3 bytes policy after →
      Xdp.closeControl (Xdp.Envelope.flags ⟨bytes⟩) = false →
      final = emitControl maps env after (Xdp.admissionOf ctx ⟨bytes⟩ policy generation) wgId →
      Branch build maps kernel env ctx generation l3 final
  | close (bytes : Bytes) (policy : IngressListenerValue) (after : Kernel) (session : SessionSnapshot) :
      Reaches build maps kernel ctx generation l3 bytes policy after →
      Xdp.Established maps after generation (Xdp.admissionOf ctx ⟨bytes⟩ policy generation) session →
      final = Xdp.closeBranch build maps after env ctx ⟨bytes⟩ l3.l3Off
        (Xdp.admissionOf ctx ⟨bytes⟩ policy generation) session →
      Branch build maps kernel env ctx generation l3 final

theorem managedBody_branch (build : Build) (maps : PolicyMaps) (kernel : Kernel) (env : Env)
    (ctx : Xdp.Context) (generation : UInt64) (managedInterface : Bool) (l3 : Bpf.L3Info) (port : UInt16)
    (managed : ManagedPortValue) :
    Branch build maps kernel env ctx generation l3
      (Xdp.managedBody build maps kernel env ctx generation managedInterface l3 port managed).kernel := by
  rw [Xdp.managedBody]
  split
  · exact .quiet rfl
  split
  · exact .quiet rfl
  split
  · exact .quiet rfl
  cases loaded : Xdp.loadEnvelope build ctx.frame l3.l3Off with
  | none => exact .quiet rfl
  | some bytes =>
    dsimp only
    have checked := Xdp.checkpoint_cases build maps kernel ctx ⟨bytes⟩ l3 managed
      (maps.lookupIngressListener ctx.ingressIfindex port .ipv4 generation) managedInterface generation
    generalize Xdp.admissionCheckpoint build maps kernel ctx ⟨bytes⟩ l3 managed
      (maps.lookupIngressListener ctx.ingressIfindex port .ipv4 generation) managedInterface
      generation = result at checked
    obtain ⟨after, decision⟩ := result
    obtain ⟨moved, dropped | ⟨policy, profile, cipher, admitted, classified⟩⟩ := checked
    · dsimp only at dropped
      subst dropped
      exact .quiet moved.outputs
    have reaches : Reaches build maps kernel ctx generation l3 bytes policy after :=
      ⟨loaded, ⟨_, _, _, _, _, admitted⟩, moved⟩
    cases decision with
    | drop => exact .quiet moved.outputs
    | control admission =>
      obtain ⟨rfl, opened, _⟩ := classified
      exact .control bytes policy after managed.wgId reaches opened rfl
    | close admission session =>
      obtain ⟨rfl, _, established⟩ := classified
      refine .close bytes policy after session reaches ⟨?_, established.identity⟩ rfl
      rw [moved.sessions]
      exact established.taken
    | keepalive admission session =>
      simp only [Xdp.decide]
      cases mutated : Xdp.mutateSession after env generation .touch 0 admission session with
      | none => exact .quiet moved.outputs
      | some final => exact .quiet ((mutateSession_outputs mutated).trans moved.outputs)
    | transform admission session => exact .quiet ((transformBranch_outputs ..).trans moved.outputs)

/-- Past the parser there is a descriptor that it accepted. -/
theorem body_branch (build : Build) (maps : PolicyMaps) (kernel : Kernel) (env : Env) (ctx : Xdp.Context)
    (generation : UInt64) :
    (Xdp.ingressBody build maps kernel env ctx generation).kernel.outputs = kernel.outputs ∨
    (∃ offset family, L3.parseL3 ctx.frame ctx.frame.length offset family = (.ok, receivedL3 maps ctx generation)) ∧
      Branch build maps kernel env ctx generation (receivedL3 maps ctx generation)
        (Xdp.ingressBody build maps kernel env ctx generation).kernel := by
  have verdict (result : XdpAction × Option Stat) :
      (Xdp.l3Verdict kernel ctx.frame result).kernel.outputs = kernel.outputs := by
    obtain ⟨action, stat⟩ := result
    cases stat <;> rfl
  rw [Xdp.ingressBody]
  split
  · exact .inl rfl
  dsimp only
  split
  · exact .inl (verdict _)
  split
  · exact .inl (verdict _)
  rename_i parsed
  split
  · split <;> exact .inl rfl
  split
  · exact .inl rfl
  refine .inr ⟨⟨_, _, Prod.ext ?_ rfl⟩, managedBody_branch ..⟩
  rw [Xdp.l3Action] at parsed
  split at parsed
  · assumption
  · repeat' split at parsed
    all_goals cases parsed

theorem Reaches.flags (reaches : Reaches build maps kernel ctx generation l3 bytes policy after) :
    Xdp.Envelope.flags ⟨bytes⟩ = ctx.frame.byteAt (l3.l4Off + 13) := by
  obtain ⟨_, _, _, _, _, admitted⟩ := reaches.admitted
  rw [admitted.adjacent]
  exact envelope_flags reaches.loaded

theorem Emits.lift {P : Bytes → Prop} (emits : Emits P middle after) (same : middle.outputs = before.outputs) :
    Emits P before after := by
  rw [Emits, same] at emits
  exact emits

theorem Branch.written (branch : Branch build maps kernel env ctx generation l3 final) :
    Emits (Written maps generation (ctx.frame.byteAt (l3.l4Off + 13))) kernel final := by
  cases branch with
  | quiet same => exact .inl same
  | control bytes policy after wgId reaches opened ends =>
    subst ends
    rw [← reaches.flags]
    exact (emitEvent_emits after maps env _ _ _ _ _ _ _ opened).lift reaches.moved.outputs
  | close bytes policy after session reaches established ends =>
    subst ends
    rw [← reaches.flags]
    refine Emits.lift ?_ reaches.moved.outputs
    rcases closeBranch_closes build maps after env ctx ⟨bytes⟩ l3.l3Off
      (Xdp.admissionOf ctx ⟨bytes⟩ policy generation) session with same | ⟨output, added, closes⟩
    · exact .inl same
    · exact .inr ⟨output, added, closes.written established⟩

theorem body_written (build : Build) (maps : PolicyMaps) (kernel : Kernel) (env : Env)
    (ctx : Xdp.Context) (generation : UInt64) :
    Emits (Written maps generation (receivedFlags maps ctx generation)) kernel
      (Xdp.ingressBody build maps kernel env ctx generation).kernel := by
  rcases body_branch build maps kernel env ctx generation with same | ⟨_, branch⟩
  · exact .inl same
  · exact branch.written

theorem Header.identity_valid (header : Header maps generation flags event) :
    validateRuntimeIdentity (runtimeIdentityFromEvent event) = .ok () := by
  obtain ⟨identity, found, same⟩ := header.identity
  obtain ⟨_, _, _, nonzero⟩ := PolicyMaps.lookupRuntimeIdentity_some found
  have valid := header.key
  simp only [SessionKey.valid, decide_eq_true_eq] at valid
  have incarnation : event.runtimeIncarnation ≠ FixedBytes.zero 16 := by
    rw [same]
    exact fun zero => nonzero ((FixedBytes.aggregate_eq_zero _).mpr zero)
  simp only [validateRuntimeIdentity, runtimeIdentityFromEvent, valid.1, incarnation, if_false]

/-- The header checks common to both kinds of record always succeed; only the
flag and identity checks of the event type remain. -/
theorem Header.validate (header : Header maps generation flags event) :
    validateEventType event =
      match validateEventFlags event with
      | .error cause => .error cause
      | .ok () => validateEventIdentity event := by
  cases checked : validateEventFlags event with
  | error | ok =>
    simp only [validateEventType, flow_valid header.key, header.wgId, header.version,
      header.identity_valid, checked, ne_eq, not_true, if_false]

/-- Over all 256 flag bytes that reach the control branch, the kernel's event
type and the validator's consistency test agree when some control flag is set. -/
theorem control_types (flags : UInt8) (opened : Xdp.closeControl flags = false) :
    (eventTypeOf flags = .syn ∧ controlFlagged flags = true ∧
      flags &&& flagSyn ≠ 0 ∧ flags &&& (flagAck ||| flagRst ||| flagFin) = 0) ∨
    (eventTypeOf flags = .synack ∧ controlFlagged flags = true ∧
      flags &&& (flagSyn ||| flagAck) = flagSyn ||| flagAck ∧ flags &&& (flagRst ||| flagFin) = 0) ∨
    (eventTypeOf flags = .ack ∧ (controlFlagged flags = true ↔
      flags &&& flagAck ≠ 0 ∧ flags &&& (flagSyn ||| flagRst ||| flagFin) = 0)) := by
  revert flags
  apply Bytes.forall_byte
  decide +kernel

theorem Header.control_flags (header : Header maps generation flags event)
    (opened : Xdp.closeControl flags = false) :
    validateEventFlags event =
      if controlFlagged flags then .ok () else .error (.inconsistentFlags event.type flags) := by
  have types := control_types flags opened
  rcases types with ⟨type, flagged, consistent⟩ | ⟨type, flagged, consistent⟩ | ⟨type, consistent⟩ <;>
    simp [validateEventFlags, header.type, header.tcpFlags, EventType.code, *]

theorem decode_event (event : Event) (packet : Bytes) :
    decodeEventHeader ((event.encode ++ packet).take eventSize) = event := by
  have width : event.encode.length = eventSize := event.length_encode
  rw [← width, List.take_left, decode_encode]

theorem control_decodes (header : Header maps generation flags event)
    (opened : Xdp.closeControl flags = false) (bare : event.packetLength = 0)
    (revision : event.sessionRevision = 0) (session : event.sessionId = 0) :
    decodeBorrowedEventSample event.encode =
      if controlFlagged flags then .ok ⟨event, []⟩ else .error (.inconsistentFlags event.type flags) := by
  have decoded := decode_event event []
  have width : event.encode.length = eventSize := event.length_encode
  have types : event.type ≠ 1 ∧ event.type ≠ 5 ∧ event.type ≠ 6 := by
    rw [header.type]
    rcases control_types flags opened with ⟨type, _⟩ | ⟨type, _⟩ | ⟨type, _⟩ <;>
      rw [type] <;> decide
  have identity : validateEventIdentity event = .ok () := by
    simp [validateEventIdentity, closeEvent, EventType.code, types, revision, session, header.capture]
  have plain : carriesPacket event.type = false := by
    simp [carriesPacket, EventType.code, types]
  rw [List.append_nil] at decoded
  simp only [decodeBorrowedEventSample, width, lt_irrefl, if_false, decoded, header.validate,
    header.control_flags opened, plain, if_true, bare, ne_eq, not_true, or_self]
  cases controlFlagged flags with
  | true => simp only [if_true, identity]
  | false => rfl

theorem close_decodes (header : Header maps generation flags event)
    (exact : flags = flagRst ||| flagAck ∨ flags = flagFin ||| flagAck)
    (length : event.packetLength = 40) (revision : event.sessionRevision ≠ 0)
    (session : event.sessionId ≠ 0) (sized : packet.length = 40) :
    decodeBorrowedEventSample (event.encode ++ packet) = .ok ⟨event, packet⟩ := by
  have decoded : decodeEventHeader ((event.encode ++ packet).take 112) = event :=
    decode_event event packet
  have width : (event.encode ++ packet).length = 152 := by
    rw [List.length_append, event.length_encode, sized]
  have tail : (event.encode ++ packet).slice 112 40 = packet := by
    rw [Bytes.slice_skip (Nat.le_of_eq event.length_encode), event.length_encode]
    exact Bytes.slice_all sized
  have types : event.type = 5 ∧ event.tcpFlags = 0x14 ∨ event.type = 6 ∧ event.tcpFlags = 0x11 := by
    rcases exact with rfl | rfl
    · exact .inl ⟨header.type, header.tcpFlags⟩
    · exact .inr ⟨header.type, header.tcpFlags⟩
  have flagged : validateEventFlags event = .ok () ∧ closeEvent event.type = true ∧
      carriesPacket event.type = true ∧ event.type ≠ EventType.needHandshake.code := by
    rcases types with ⟨type, flags⟩ | ⟨type, flags⟩ <;>
      exact ⟨by simp only [validateEventFlags, type, flags]; rfl, by rw [type]; rfl, by rw [type]; rfl,
        by rw [type]; decide⟩
  have identity : validateEventIdentity event = .ok () := by
    simp [validateEventIdentity, flagged.2.1, revision, session, header.capture]
  have packetOk : decodePacketSample event (event.encode ++ packet) = .ok ⟨event, packet⟩ := by
    have length40 : event.packetLength.toNat = 40 := by rw [length]; rfl
    simp [decodePacketSample, length40, width, flagged.2.2.2, tail, maxCapturedPacket, eventSize]
  simp only [decodeBorrowedEventSample, width, decoded, header.validate, flagged.1, identity,
    flagged.2.2.1, packetOk, eventSize, Nat.reduceLT, if_false, Bool.true_eq_false]

theorem Written.decodes (written : Written maps generation flags record)
    (flagged : controlFlagged flags = true) :
    ∃ event packet, decodeBorrowedEventSample record = .ok ⟨event, packet⟩ ∧
      Header maps generation flags event ∧ event.type ≠ EventType.needHandshake.code := by
  cases written with
  | control header opened bare revision session =>
    have decoded := control_decodes header opened bare revision session
    rw [flagged, if_pos rfl] at decoded
    refine ⟨_, _, decoded, header, ?_⟩
    rw [header.type]
    rcases control_types flags opened with ⟨type, _⟩ | ⟨type, _⟩ | ⟨type, _⟩ <;>
      rw [type] <;> decide
  | close header exact length revision session sized =>
    refine ⟨_, _, close_decodes header exact length revision session sized, header, ?_⟩
    rw [header.type]
    rcases exact with rfl | rfl <;> decide

theorem Written.rejected (written : Written maps generation flags record)
    (unflagged : controlFlagged flags = false) :
    ∃ cause, decodeBorrowedEventSample record = .error cause := by
  cases written with
  | control header opened bare revision session =>
    have decoded := control_decodes header opened bare revision session
    rw [unflagged] at decoded
    exact ⟨_, decoded⟩
  | close header exact length revision session sized =>
    rcases exact with rfl | rfl <;> contradiction

/-- A decoded record names the generation and incarnation of the map that both
sides were given, so the reader recognises it as its own. -/
theorem Header.bound {identity : RuntimeIdentity} (header : Header maps generation flags event)
    (bound : maps.runtimeIdentity = some ⟨identity.generation, identity.incarnation, abi⟩) :
    runtimeIdentityFromEvent event = identity := by
  obtain ⟨value, found, incarnation⟩ := header.identity
  obtain ⟨stored, current, _⟩ := PolicyMaps.lookupRuntimeIdentity_some found
  cases Option.some.inj (bound.symm.trans stored)
  simp only [runtimeIdentityFromEvent, header.epoch, incarnation, ← current]

end EventClosure

/-- Userspace takes a delivered record: it decodes, `Read` hands it on with no
loss counted meanwhile, and the loop goes on to handle it. -/
structure Accepted (sha256 : Bytes → Digest) (reader : ProductionEventReader) (closing : Bool)
    (record : Bytes) : Prop where
  decodes : ∃ decoded, decodeBorrowedEventSample record = .ok decoded
  continues : ∃ owned, EventRuntime.afterRead closing
    (reader.read sha256 { rawSample := record } none (some reader.lastLoss)).2 = .ok (some owned)

theorem ring_record_accepted_iff (sha256 : Bytes → Digest) (reader : ProductionEventReader)
    (closing : Bool) (build : Build) (maps : PolicyMaps) (kernel : Kernel) (env : Env)
    (ctx : Xdp.Context) (generation : UInt64) (output : RingOutput)
    (bound : maps.runtimeIdentity =
      some ⟨reader.identity.generation, reader.identity.incarnation, eventAbiVersion⟩)
    (handed : output ∈ emitted build maps kernel env ctx generation) :
    Accepted sha256 reader closing output.record ↔
      controlFlagged (receivedFlags maps ctx generation) = true := by
  have written := (EventClosure.body_written build maps kernel env ctx generation).mem handed
  cases flagged : controlFlagged (receivedFlags maps ctx generation) with
  | true =>
    obtain ⟨event, packet, accepted, header, type⟩ := written.decodes flagged
    have own : runtimeIdentityFromEvent event = reader.identity := header.bound bound
    have continues : EventRuntime.afterRead closing
        (reader.read sha256 { rawSample := output.record } none (some reader.lastLoss)).2 =
        .ok (some { rawSample := output.record, ownedSample := some { event, packet } }) := by
      simp [ProductionEventReader.read, accepted, own, type, EventRuntime.afterRead]
    exact ⟨fun _ => rfl, fun _ => ⟨⟨_, accepted⟩, ⟨_, continues⟩⟩⟩
  | false =>
    obtain ⟨cause, refused⟩ := written.rejected flagged
    refine ⟨fun taken => ?_, nofun⟩
    obtain ⟨_, accepted⟩ := taken.decodes
    rw [refused] at accepted
    contradiction

section Example

/-- The open gate of generation 7 with one packet program inside, an unspent
control budget and no session. -/
def exampleKernel : Kernel where
  controlPolicies generation wgId := if generation = 7 ∧ wgId = 1 then some ⟨7, 0, 100000000, 8⟩ else none
  gate := some ⟨7, GenerationGate.openBit + 1⟩

/-- An Ethernet frame from 198.51.100.9:40000 to 192.0.2.1:51820 with an empty
TCP segment. -/
def exampleSegment (flags : UInt8) : Xdp.Context where
  frame := [2, 0, 0, 0, 0, 1, 2, 0, 0, 0, 0, 2, 0x08, 0x00] ++
    [0x45, 0, 0, 40, 0, 1, 0x40, 0, 64, 6, 0, 0, 198, 51, 100, 9, 192, 0, 2, 1] ++
    [0x9c, 0x40, 0xca, 0x6c, 0, 0, 0, 1, 0, 0, 0, 0, 0x50, flags, 0xff, 0xff, 0, 0, 0, 0]
  ingressIfindex := 2

def exampleReader : ProductionEventReader := ⟨⟨7, Xdp.sampleIncarnation⟩, [{}], 0⟩

end Example

/-- A SYN reaches the handler. -/
theorem ring_record_accepted_syn :
    ∃ output ∈ emitted .default Xdp.sampleMaps exampleKernel { now := 1000 } (exampleSegment flagSyn) 7,
      Accepted (fun _ => FixedBytes.zero 32) exampleReader false output.record := by
  have handed : emitted .default Xdp.sampleMaps exampleKernel { now := 1000 } (exampleSegment flagSyn) 7 ≠ [] := by
    decide +kernel
  obtain ⟨output, member⟩ := List.exists_mem_of_ne_nil _ handed
  exact ⟨output, member, (ring_record_accepted_iff _ _ _ _ _ _ _ _ _ _ rfl member).mpr (by decide +kernel)⟩

/-- One segment without any flag makes `Read` fail and ends the loop. -/
theorem unflagged_segment_ends_run :
    emitted .default Xdp.sampleMaps exampleKernel { now := 1000 } (exampleSegment 0) 7 ≠ [] ∧
    ∀ output ∈ emitted .default Xdp.sampleMaps exampleKernel { now := 1000 } (exampleSegment 0) 7,
      output.delivered = true ∧
      decodeBorrowedEventSample output.record = .error (.inconsistentFlags EventType.ack.code 0) ∧
      (exampleReader.read (fun _ => FixedBytes.zero 32) { rawSample := output.record } none (some 0)).2 =
        .error (.invalid (.inconsistentFlags EventType.ack.code 0)) ∧
      EventRuntime.pass {
        cancelled := false
        read := (exampleReader.read (fun _ => FixedBytes.zero 32) { rawSample := output.record } none (some 0)).2
        closing := false
        admission := none
        handled := fun _ => true
        stopRequested := false
        tick := none } = some (.read (.invalid (.inconsistentFlags EventType.ack.code 0))) := by
  decide +kernel

end WgMix.FakeTcp
