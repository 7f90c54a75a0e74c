import WgMix.Bpf.Events
import WgMix.Bpf.Checksum
import WgMix.Bpf.Link

/-! The XDP ingress program: link and L3 parsing, the admission checkpoint,
control and close events, and the TCP-to-UDP transform with its metadata. Both
builds are one definition; the legacy one copies by direct packet access and
keeps the rotated tail in the frame. -/
namespace WgMix.Bpf

inductive Build where
  | default
  | legacy515
  deriving DecidableEq, Repr

inductive XdpAction where
  | drop
  | pass
  deriving DecidableEq, Repr

def metadataMagic : UInt32 := 0x57474654
def directionIngress : UInt8 := 2

structure Metadata where
  magic : UInt32
  direction : UInt8
  pad : FixedBytes 3
  sessionAuthority : SessionAuthority
  deriving DecidableEq

namespace Xdp
open L3

structure Context where
  frame : Bytes
  ingressIfindex : UInt32

structure Outcome where
  action : XdpAction
  kernel : Kernel
  frame : Bytes
  metadata : Option Metadata := none

def maxIpv4TotalLen : Nat := 2304
def legacyMaxOffset : Nat := ethhdrSize + 2 * vlanSize + maxIpv4TotalLen + headerDelta

/-- Parser mode auto is refused here: an ambiguous link layer must not be
guessed in front of the transform. -/
def l3Start (data : Bytes) (parserMode : ParserMode) : L3Status × Nat × Family :=
  match parserMode with
  | .l3 =>
    if 1 > data.length then (.truncated, 0, .unset)
    else if (data.byteAt 0).toNat / 16 = 4 then (.ok, 0, .ipv4)
    else if (data.byteAt 0).toNat / 16 = 6 then (.ok, 0, .ipv6)
    else (.malformed, 0, .unset)
  | .auto => (.unsupported, 0, .unset)
  | .ethernet =>
    if ethhdrSize > data.length then (.truncated, 0, .unset)
    else
      match skipVlan data 2 ethhdrSize (data.be16 12) with
      | none => (.truncated, 0, .unset)
      | some (offset, protocol) =>
        if isVlan protocol then (.unsupported, 0, .unset)
        else if protocol = 0x0800 then (.ok, offset, .ipv4)
        else if protocol = 0x86dd then (.ok, offset, .ipv6)
        else (.safeBypass, offset, .unset)

/-- `none` continues; otherwise the verdict and the counter it advances. -/
def l3Action (status : L3Status) (managedInterface : Bool) : Option (XdpAction × Option Stat) :=
  if status = .ok then none
  else if status = .safeBypass ∨ managedInterface = false then some (.pass, none)
  else if status = .truncated ∨ status = .malformed then some (.drop, some .badPacket)
  else some (.drop, some .admissionBypassReject)

/-- Fixed-size copies out of the frame. The legacy build bounds the scalar
offset before it forms a packet pointer. -/
def loadBytes (build : Build) (frame : Bytes) (offset width : Nat) : Option Bytes :=
  if build = .legacy515 ∧ offset > legacyMaxOffset then none
  else if offset + width > frame.length then none
  else some (frame.slice offset width)

def storeBytes (build : Build) (frame : Bytes) (offset : Nat) (source : Bytes) : Option Bytes :=
  if build = .legacy515 ∧ offset > legacyMaxOffset then none
  else if offset + source.length > frame.length then none
  else some (frame.store offset source)

/-- The adjacent IPv4 and TCP headers. The legacy copy knows only the four link
offsets that `l3Start` can produce. -/
def loadEnvelope (build : Build) (frame : Bytes) (offset : Nat) : Option Bytes :=
  if build = .legacy515 ∧ offset ≠ 0 ∧ offset ≠ ethhdrSize ∧ offset ≠ ethhdrSize + vlanSize ∧
      offset ≠ ethhdrSize + 2 * vlanSize then none
  else if offset + (iphdrSize + tcphdrSize) > frame.length then none
  else some (frame.slice offset (iphdrSize + tcphdrSize))

/-- Field access into the 40-byte envelope. -/
structure Envelope where
  bytes : Bytes

namespace Envelope

variable (headers : Envelope)

def totalLen : Nat := headers.bytes.be16 2
def saddr : UInt32 := headers.bytes.le32 12
def daddr : UInt32 := headers.bytes.le32 16
def source : UInt16 := UInt16.ofNat (headers.bytes.be16 20)
def dest : UInt16 := UInt16.ofNat (headers.bytes.be16 22)
def seq : UInt32 := UInt32.ofNat (headers.bytes.be32 24)
def ackSeq : UInt32 := UInt32.ofNat (headers.bytes.be32 28)
def flags : UInt8 := headers.bytes.byteAt 33
def window : UInt16 := UInt16.ofNat (headers.bytes.be16 34)
def check : UInt16 := headers.bytes.le16 36
def urgPtr : UInt16 := headers.bytes.le16 38
def ip : Bytes := headers.bytes.slice 0 20
def tcp : Bytes := headers.bytes.slice 20 20

/-- Both one's-complement residuals of a payload-free control packet. -/
def controlChecksumsValid : Bool :=
  let pseudo := headers.bytes.slice 12 8 ++ [0, ipprotoTcp] ++ Bytes.beBytes16 tcphdrSize
  match csumDiff [] headers.ip 0 with
  | none => false
  | some sum =>
    if foldCsum sum ≠ 0 then false
    else
      match csumDiff [] pseudo 0 with
      | none => false
      | some sum =>
        match csumDiff [] headers.tcp sum with
        | none => false
        | some sum => foldCsum sum = 0

end Envelope

/-- What the checkpoint binds for the rest of the program. Fields it only
copies for the hidden TC metadata of newer kernels are not carried. -/
structure IngressAdmission where
  key : SessionKey
  wgId : UInt32
  tcpFlags : UInt8
  sequence : UInt32
  acknowledgement : UInt32
  payloadLen : Nat
  wireTotalLen : Nat

inductive Decision where
  | drop
  | control (admission : IngressAdmission)
  | close (admission : IngressAdmission) (session : SessionSnapshot)
  | keepalive (admission : IngressAdmission) (session : SessionSnapshot)
  | transform (admission : IngressAdmission) (session : SessionSnapshot)

def closeControl (flags : UInt8) : Bool := flags &&& (flagRst ||| flagFin) ≠ 0

/-- The listener pair that a managed packet must have on its interface. -/
def listenersCoherent (managed : ManagedPortValue) (policy : IngressListenerValue)
    (managedInterface : Bool) (generation : UInt64) : Bool :=
  managedInterface ∧ managed.generation = generation ∧ managed.wgId ≠ 0 ∧
    managed.action = .rewrite ∧ policy.generation = generation ∧ policy.wgId = managed.wgId ∧
    policy.profileId ≠ 0 ∧ policy.action = .rewrite ∧ policy.transportMode = .faketcp

variable (build : Build) (maps : PolicyMaps) (kernel : Kernel) (env : Env) (ctx : Context)

/-- The word that inverse rotation restores at the payload start must be the
profile's mixed type word of a message of this length. -/
def typeWordAdmitted (frame : Bytes) (l3Off : Nat) (profile : ProfileValue) (cipher : Option CipherValue)
    (admission : IngressAdmission) : Bool :=
  match loadBytes build frame (l3Off + admission.wireTotalLen - headerDelta) 4 with
  | none => false
  | some word =>
    let inputWire := word.le32 0
    let mixedWire := match cipher with
      | some cipher => cipher.xorTypeWordCopy inputWire
      | none => inputWire
    match profile.decodeMixed mixedWire with
    | none => false
    | some (kind, standard) =>
      standard = UInt32.ofNat (kind.val + 1) ∧ validateLen kind admission.payloadLen

/-- The tail of the checkpoint, once policy, lengths and ports are accepted. -/
def classifySession (frame : Bytes) (l3Off : Nat) (profile : ProfileValue) (cipher : Option CipherValue)
    (generation : UInt64) (admission : IngressAdmission) : Kernel × Decision :=
  let flags := admission.tcpFlags
  match SessionValue.snapshotEstablished (kernel.sessions admission.key) generation with
  | none =>
    (kernel.incStat (if (kernel.sessions admission.key).isSome then .badState else .sessionMiss),
      if closeControl flags then .drop else .control admission)
  | some snapshot =>
    match maps.lookupRuntimeIdentity generation with
    | none => (kernel.incStat .badState, .drop)
    | some identity =>
      if incarnationsEqual identity.incarnation snapshot.authority.runtimeIncarnation = false then
        (kernel.incStat .badState, .drop)
      else if closeControl flags then (kernel, .close admission snapshot)
      else if flags &&& flagSyn ≠ 0 then (kernel, .control admission)
      else if admission.payloadLen = 0 ∧ flags = flagAck then (kernel, .keepalive admission snapshot)
      else if flags &&& ~~~(flagAck ||| flagPsh) ≠ 0 ∨ flags &&& flagAck = 0 ∨
          admission.payloadLen < headerDelta then (kernel.incStat .badPacket, .drop)
      else if typeWordAdmitted build frame l3Off profile cipher admission then
        (kernel, .transform admission snapshot)
      else (kernel.incStat .badPacket, .drop)

def admissionOf (headers : Envelope) (policy : IngressListenerValue) (generation : UInt64) : IngressAdmission where
  key := {
    generation := generation
    localIpv4 := headers.daddr
    remoteIpv4 := headers.saddr
    underlayIndex := ctx.ingressIfindex
    localPort := headers.dest
    remotePort := headers.source
    wgId := policy.wgId }
  wgId := policy.wgId
  tcpFlags := headers.flags
  sequence := headers.seq
  acknowledgement := headers.ackSeq
  payloadLen := headers.totalLen - iphdrSize - tcphdrSize
  wireTotalLen := headers.totalLen

/-- Payload-free controls carry no WireGuard bytes and have no cipher target, so
they skip the lookup; `none` is a cipher that is missing or does not fit. -/
def cipherFor (policy : IngressListenerValue) (generation : UInt64) (admission : IngressAdmission) :
    Option (Option CipherValue) :=
  if closeControl admission.tcpFlags = false ∧ admission.payloadLen ≠ 0 ∧ policy.cipherId ≠ 0 then
    match maps.lookupCipher policy.cipherId generation with
    | none => none
    | some cipher =>
      if (cipher.payloadTarget admission.payloadLen).isNone then none else some (some cipher)
  else some none

def admissionCheckpoint (headers : Envelope) (l3 : L3Info) (managed : ManagedPortValue)
    (policyListener : Option IngressListenerValue) (managedInterface : Bool) (generation : UInt64) :
    Kernel × Decision :=
  match policyListener with
  | none => (kernel.incStat .badState, .drop)
  | some policy =>
    if listenersCoherent managed policy managedInterface generation = false then
      (kernel.incStat .badState, .drop)
    else
      match maps.lookupProfile generation policy.profileId with
      | none => (kernel.incStat .badState, .drop)
      | some profile =>
        if managedTransformStatus l3 ipprotoTcp ≠ .ok ∨ l3.l4Off ≠ l3.l3Off + iphdrSize then
          (kernel.incStat .badPacket, .drop)
        else if headers.totalLen < iphdrSize + tcphdrSize ∨
            headers.totalLen > maxIpv4TotalLen + headerDelta ∨ headers.totalLen ≠ l3.l3Len then
          (kernel.incStat .badPacket, .drop)
        else
          let admission := admissionOf ctx headers policy generation
          if admission.key.localPort = 0 ∨ admission.key.remotePort = 0 ∨
              admission.key.underlayIndex = 0 then (kernel.incStat .badPacket, .drop)
          else
            match cipherFor maps policy generation admission with
            | none => (kernel.incStat .badState, .drop)
            | some cipher => classifySession build maps kernel ctx.frame l3.l3Off profile cipher
                generation admission

/-- The canonical close test on the wire packet, against the locked snapshot. -/
def closeExact (headers : Envelope) (admission : IngressAdmission) (session : SessionSnapshot) : Bool :=
  admission.wireTotalLen = iphdrSize + tcphdrSize ∧ admission.payloadLen = 0 ∧
    headers.bytes.byteAt 32 = 0x50 ∧
    (admission.tcpFlags = flagRst ||| flagAck ∨ admission.tcpFlags = flagFin ||| flagAck) ∧
    admission.sequence = session.rxSequence ∧ admission.acknowledgement = session.txSequence ∧
    headers.window = session.projection.window ∧ headers.urgPtr = 0

/-- The header of a captured close. -/
def capturedClose (admission : IngressAdmission) (session : SessionSnapshot) : Event where
  key := admission.key
  timestampNanos := env.now
  runtimeIncarnation := session.authority.runtimeIncarnation
  sessionRevision := session.revision
  sessionId := session.authority.sessionId
  sequence := session.rxSequence
  acknowledgement := session.txSequence
  wgId := admission.wgId
  packetLength := UInt16.ofNat admission.wireTotalLen
  eventAbiVersion := Bpf.eventAbiVersion
  type := (eventTypeOf admission.tcpFlags).code
  tcpFlags := admission.tcpFlags

/-- `faketcp_capture_close_packet`; the flag is its negative return. -/
def captureClosePacket (frame : Bytes) (packetOff : Nat) (admission : IngressAdmission) (session : SessionSnapshot) :
    Kernel × Bool :=
  if admission.wireTotalLen ≠ iphdrSize + tcphdrSize then (kernel, true)
  else if env.captureScratch = false then (kernel, true)
  else
    let admitted := kernel.admitControlEvent maps env admission.key admission.wgId (eventTypeOf admission.tcpFlags)
    if admitted.2 = false then (admitted.1, false)
    else
      match loadEnvelope build frame packetOff with
      | none => (admitted.1, true)
      | some packet =>
        (admitted.1.output env ((capturedClose env admission session).encode ++ packet), env.ringOutput = false)

def closeBranch (headers : Envelope) (l3Off : Nat) (admission : IngressAdmission) (session : SessionSnapshot) :
    Kernel :=
  if session.projection.window = 0 then kernel.incStat .badState
  else if closeExact headers admission session = false then kernel.incStat .badPacket
  else if headers.controlChecksumsValid = false then kernel.incStat .checksumError
  else
    let captured := captureClosePacket build maps kernel env ctx.frame l3Off admission session
    if captured.2 then captured.1.incStat .eventError else captured.1

/-- Write the held entry back; other CPUs may have changed it since the
snapshot, which is why the mutation compares the authority again. -/
def mutateSession (generation : UInt64) (operation : SessionMutation) (argument : UInt32)
    (admission : IngressAdmission) (session : SessionSnapshot) : Option Kernel :=
  match (kernel.sessions admission.key).map env.racing with
  | none => none
  | some held =>
    match held.mutate generation env.now operation argument session.authority session.projection with
    | none => none
    | some (value, _) => some (kernel.setSession admission.key value)

/-- The UDP header that replaces the TCP header, checksum included. -/
def decodedUdp (headers : Envelope) (tail : Bytes) (payloadLen : Nat) : Option Bytes :=
  let ports := headers.bytes.slice 20 4
  let length := Bytes.beBytes16 (payloadLen + udphdrSize)
  let oldPseudo := [0, ipprotoTcp] ++ Bytes.beBytes16 (payloadLen + tcphdrSize)
  let newPseudo := [0, ipprotoUdp] ++ length
  let oldTcp := headers.tcp.store 16 [0, 0]
  match csumDiff oldPseudo newPseudo (65535 - headers.check.toNat) with
  | none => none
  | some sum =>
    match csumDiff oldTcp (ports ++ length ++ [0, 0]) sum with
    | none => none
    | some sum =>
      match (if payloadLen % 2 = 1 then rotationChecksum tail sum true else some sum) with
      | none => none
      | some sum =>
        let check := foldCsum sum
        some (ports ++ length ++ Bytes.leBytes 2 (if check = 0 then 0xffff else check))

/-- The IPv4 header with the new protocol, length and full checksum. -/
def decodedIp (headers : Envelope) (newTotalLen : Nat) : Option Bytes :=
  let cleared := ((headers.ip.store 2 (Bytes.beBytes16 newTotalLen)).store 9 [ipprotoUdp]).store 10 [0, 0]
  (csumDiff [] cleared 0).map fun sum => cleared.store 10 (Bytes.leBytes 2 (foldCsum sum))

def ingressMetadata (session : SessionSnapshot) : Metadata :=
  ⟨metadataMagic, directionIngress, FixedBytes.zero 3, session.authority⟩

/-- The transform branch: every packet byte is written before the session's
receive state advances. -/
def transformBranch (headers : Envelope) (l3 : L3Info) (generation : UInt64) (admission : IngressAdmission)
    (session : SessionSnapshot) : Outcome :=
  let rejected (stat : Stat) (frame : Bytes) (metadata : Option Metadata) : Outcome :=
    ⟨.drop, kernel.incStat stat, frame, metadata⟩
  match loadBytes build ctx.frame (l3.l3Off + admission.wireTotalLen - headerDelta) headerDelta with
  | none => rejected .checksumError ctx.frame none
  | some tail =>
    match decodedUdp headers tail admission.payloadLen with
    | none => rejected .checksumError ctx.frame none
    | some udp =>
      if env.adjustMeta = false then rejected .metadataError ctx.frame none
      else
        let metadata := some (ingressMetadata session)
        match storeBytes build ctx.frame l3.l4Off udp with
        | none => rejected .badPacket ctx.frame metadata
        | some frame =>
          match storeBytes build frame (l3.l4Off + udphdrSize) tail with
          | none => rejected .badPacket frame metadata
          | some frame =>
            match decodedIp headers (admission.wireTotalLen - headerDelta) with
            | none => rejected .checksumError frame metadata
            | some ip =>
              match storeBytes build frame l3.l3Off ip with
              | none => rejected .badPacket frame metadata
              | some frame =>
                if build = .default ∧ env.adjustTail = false then
                  rejected .metadataError frame metadata
                else
                  let frame := if build = .default then frame.take (frame.length - headerDelta)
                    else frame
                  match mutateSession kernel env generation .rx
                      (admission.sequence + UInt32.ofNat admission.payloadLen) admission session with
                  | none => rejected .badState frame metadata
                  | some kernel => ⟨.pass, kernel.incStat .ingressOk, frame, metadata⟩

/-- Everything after the admission decision. -/
def decide (headers : Envelope) (l3 : L3Info) (managed : ManagedPortValue) (generation : UInt64) : Decision → Outcome
  | .drop => ⟨.drop, kernel, ctx.frame, none⟩
  | .control admission =>
    ⟨.drop, kernel.emitEvent maps env admission.key (eventTypeOf admission.tcpFlags)
      admission.tcpFlags admission.sequence admission.acknowledgement
      (UInt32.ofNat admission.payloadLen) 0 managed.wgId, ctx.frame, none⟩
  | .close admission session =>
    ⟨.drop, closeBranch build maps kernel env ctx headers l3.l3Off admission session, ctx.frame, none⟩
  | .keepalive admission session =>
    ⟨.drop, (mutateSession kernel env generation .touch 0 admission session).getD
      (kernel.incStat .badState), ctx.frame, none⟩
  | .transform admission session =>
    transformBranch build kernel env ctx headers l3 generation admission session

/-- From a managed-port match on, every exit but the full transform drops. -/
def managedBody (generation : UInt64) (managedInterface : Bool) (l3 : L3Info) (destinationPort : UInt16)
    (managed : ManagedPortValue) : Outcome :=
  if managedTransformStatus l3 l3.transportProtocol ≠ .ok then
    ⟨.drop, kernel.incStat .admissionBypassReject, ctx.frame, none⟩
  else if l3.transportProtocol = ipprotoUdp then
    ⟨.drop, kernel.incStat .admissionBypassReject, ctx.frame, none⟩
  else if l3.l4Off < l3.l3Off ∨ l3.l4Off - l3.l3Off ≠ iphdrSize then
    ⟨.drop, kernel.incStat .badPacket, ctx.frame, none⟩
  else
    match loadEnvelope build ctx.frame l3.l3Off with
    | none => ⟨.drop, kernel.incStat .badPacket, ctx.frame, none⟩
    | some bytes =>
      let headers : Envelope := ⟨bytes⟩
      let policyListener :=
        maps.lookupIngressListener ctx.ingressIfindex destinationPort .ipv4 generation
      let checked := admissionCheckpoint build maps kernel ctx headers l3 managed policyListener
        managedInterface generation
      decide build maps checked.1 env ctx headers l3 managed generation checked.2

def l3Verdict (frame : Bytes) (verdict : XdpAction × Option Stat) : Outcome :=
  ⟨verdict.1, match verdict.2 with
    | some stat => kernel.incStat stat
    | none => kernel, frame, none⟩

def ingressBody (generation : UInt64) : Outcome :=
  if env.scratch = false then ⟨.drop, kernel, ctx.frame, none⟩
  else
    let managedInterface := maps.xdpManagedInterface ctx.ingressIfindex generation
    let started := l3Start ctx.frame (maps.lookupParserMode ctx.ingressIfindex generation)
    match l3Action started.1 managedInterface with
    | some verdict => l3Verdict kernel ctx.frame verdict
    | none =>
      let parsed := parseL3 ctx.frame ctx.frame.length started.2.1 started.2.2
      match l3Action parsed.1 managedInterface with
      | some verdict => l3Verdict kernel ctx.frame verdict
      | none =>
        let l3 := parsed.2
        if l3.l4Off + udphdrSize > ctx.frame.length then
          if managedInterface then ⟨.drop, kernel.incStat .badPacket, ctx.frame, none⟩
          else ⟨.pass, kernel, ctx.frame, none⟩
        else
          let destinationPort := UInt16.ofNat (ctx.frame.be16 (l3.l4Off + 2))
          match maps.xdpManagedPort ctx.ingressIfindex destinationPort generation with
          | none => ⟨.pass, kernel, ctx.frame, none⟩
          | some managed => managedBody build maps kernel env ctx generation managedInterface l3
              destinationPort managed

def fakeTcpIngress : Outcome :=
  match maps.activeGeneration with
  | none => ⟨.pass, kernel, ctx.frame, none⟩
  | some generation =>
    let entered := kernel.generationEnter generation
    if entered.2 then
      let outcome := ingressBody build maps entered.1 env ctx generation
      { outcome with kernel := outcome.kernel.generationExit maps env generation }
    else ⟨.drop, entered.1, ctx.frame, none⟩

end Xdp
end WgMix.Bpf
