import WgMix.Bpf.Gso
import WgMix.Bpf.Xdp

/-! The TC egress program of the FakeTCP build. A matching packet is prepared by the
kernel module and then takes exactly one of three ways: without a cipher it is
admitted and encoded at once, with a cipher its admission waits in a single-use
token for the XOR programs to finish, and an aggregate is transformed segment by
segment under such a token. -/
namespace WgMix.Bpf
open L3

inductive TokenState where
  | armed
  | xorComplete
  deriving DecidableEq, Repr

def featureXor : UInt32 := 2
def featureGso : UInt32 := 16
/-- Type word, header rewrite and wire. -/
def requiredFeatures : UInt32 := 13
def directionEgress : UInt8 := 1

structure EgressAdmission where
  key : SessionKey
  nonce : UInt64
  sessionAuthority : SessionAuthority
  fwmark : UInt32
  wgId : UInt32
  profileId : UInt32
  cipherId : UInt32
  featureMask : UInt32
  networkOff : Nat
  transportOff : Nat
  payloadOff : Nat
  payloadLen : Nat
  ipTotalLen : Nat
  wireLen : Nat
  skbLen : Nat
  standardWire : UInt32
  mixedWire : UInt32
  profilePolicyFlags : UInt32
  xorTarget : Nat
  tokenState : TokenState
  gso : Gso.Projection
  sessionProjection : SessionProjection
  managedAction : Action
  ruleAction : Action
  transportMode : TransportMode
  direction : UInt8
  xorChecksumMode : Tc.XorChecksum
  typeKind : Fin 4

/-- The per-CPU token slot; no active admission is a zeroed one. -/
structure AdmissionSlot where
  nextNonce : UInt64 := 0
  active : Option EgressAdmission := none

/-- What the way without a cipher remembers of its admission. -/
structure DirectAdmission where
  key : SessionKey
  generation : UInt64
  sessionAuthority : SessionAuthority
  sessionProjection : SessionProjection
  ruleWgId : UInt32
  ruleProfileId : UInt32
  profilePolicyFlags : UInt32
  payloadLen : Nat
  standardWire : UInt32
  mixedWire : UInt32
  managedAction : Action
  ruleAction : Action
  transportMode : TransportMode
  typeKind : Fin 4

/-- One packet in this program, with the maps that it writes. A missing slot or
capture counter is a failed lookup. -/
structure Flight where
  kernel : Kernel
  tc : Tc
  hidden : SkbMeta
  slot : Option AdmissionSlot
  captureSequence : Option UInt64 := some 0
  cpu : UInt32 := 0

/-- What the surrounding kernel answers, with the slots of the continuation array. -/
structure EgressHelpers extends EncodeHelpers where
  faketcpEgressPrograms : Nat → Bool := fun _ => true
  allocation : ChecksumModule.Allocation := {}

structure EgressPacket where
  info : PacketInfo
  l3 : L3Info

structure EgressPolicy where
  managed : ManagedFwmarkValue
  rule : EgressRuleValue
  profile : ProfileValue
  generation : UInt64

/-- The type word of the packet and its replacement. -/
structure TypeChange where
  kind : Fin 4
  standardWire : UInt32
  mixedWire : UInt32

namespace Flight

variable (helpers : EgressHelpers) (env : Env) (maps : PolicyMaps) (flight : Flight)

def incStat (stat : Stat) : Flight :=
  { flight with kernel := flight.kernel.incStat stat }

def incTcStat (stat : TcStat) : Flight := { flight with tc := flight.tc.incStat stat }

def setSkb (skb : Skb) : Flight := { flight with tc := { flight.tc with skb } }

/-- The only consume primitive: whatever the nonce, the slot is cleared. -/
def consumeAdmission : Flight :=
  { flight with slot := flight.slot.map fun slot => { slot with active := none } }

def activeAdmission (nonce : UInt64) : Option EgressAdmission :=
  if nonce = 0 then none
  else (flight.slot.bind (·.active)).filter (·.nonce = nonce)

/-- A counted drop. -/
def rejects {α : Type} (flight : Flight) (stat : Stat) : Except Flight α := .error (flight.incStat stat)

def prepareRejectStat : PrepareReject → Stat
  | .gsoType | .gsoGeometry | .writable => .gsoReject
  | .packet | .truncated => .badPacket
  | .state => .checksumStateReject
  | .metadata => .metadataError
  | .mtuInvalidInput | .mtuArithmeticOverflow | .mtuFragmentationRejected | .mtuDeviceUnknown
  | .mtuDeviceExceeded | .mtuRouteUnknown | .mtuRouteExceeded => .mtuReject

def prepareUdp (info : PacketInfo) (expectGso : Bool) : Except Flight Flight :=
  match ChecksumModule.prepareUdp helpers.allocation flight.tc.skb flight.hidden info.ipOff info.udpOff
      (info.payloadLen + udphdrSize) with
  | .error reject => flight.rejects (prepareRejectStat reject)
  | .ok (accepted, skb, hidden) =>
    let prepared := { flight.setSkb skb with hidden }
    match accepted, expectGso with
    | .gso, true => .ok prepared
    | .none, false => .ok (prepared.incStat .checksumNoneAccepted)
    | .partialReset, false => .ok (prepared.incStat .checksumPartialReset)
    | _, _ => prepared.rejects .checksumError

/-- A rule without a cipher has none; `none` is a cipher that is missing. -/
def ruleCipher (policy : EgressPolicy) : Option (Option CipherValue) :=
  if policy.rule.cipherId = 0 then some none
  else (maps.lookupCipher policy.rule.cipherId policy.generation).map some

def tcKey (skb : Skb) (info : PacketInfo) (headers : Bytes) (generation : UInt64) (wgId : UInt32) :
    SessionKey where
  generation := generation
  localIpv4 := headers.le32 12
  remoteIpv4 := headers.le32 16
  underlayIndex := skb.ifindex
  localPort := info.srcPort
  remotePort := info.dstPort
  wgId := wgId

def shapeCoherent (packet : EgressPacket) : Bool :=
  packet.l3.l3Off = packet.info.ipOff ∧ packet.l3.l4Off = packet.info.udpOff ∧
    packet.l3.l4Len = udphdrSize + packet.info.payloadLen

def policyCoherent (policy : EgressPolicy) (type : TypeChange) : Bool :=
  policy.generation ≠ 0 ∧ policy.rule.wgId ≠ 0 ∧ policy.managed.generation = policy.generation ∧
    policy.rule.generation = policy.generation ∧ policy.profile.generation = policy.generation ∧
    policy.rule.action = .rewrite ∧ policy.rule.transportMode = .faketcp ∧
    type.standardWire = UInt32.ofNat (type.kind.val + 1) ∧
    type.mixedWire = policy.profile.mixedFromKind type.kind

def lengthsCoherent (skb : Skb) (info : PacketInfo) (headers : Bytes) : Bool :=
  let totalLen := iphdrSize + udphdrSize + info.payloadLen
  info.ipOff ≤ skb.data.length ∧ totalLen = skb.data.length - info.ipOff ∧ headers.be16 2 = totalLen ∧
    headers.be16 24 = udphdrSize + info.payloadLen

def maxPlainPayload : Nat := Encoder.maxIpv4TotalLen - iphdrSize - udphdrSize
def maxCapturedPacket : Nat := 2304

/-- The unchanged packet goes to the control plane, which reinjects it once a session
exists; the flag is the negative return. -/
def captureFirstPacket (packet : EgressPacket) (rule : EgressRuleValue) (key : SessionKey) : Flight × Bool :=
  let info := packet.info
  let packetLen := packet.l3.l3Len
  if packetLen < iphdrSize + udphdrSize ∨ packetLen > maxCapturedPacket ∨
      packetLen ≠ iphdrSize + udphdrSize + info.payloadLen ∨ info.ipOff > flight.tc.skb.data.length ∨
      packetLen > flight.tc.skb.data.length - info.ipOff then (flight, true)
  else if env.captureScratch = false then (flight, true)
  else
    let admitted := flight.kernel.admitControlEvent maps env key rule.wgId .needHandshake
    let flight := { flight with kernel := admitted.1 }
    if admitted.2 = false then (flight, false)
    else
      match maps.lookupRuntimeIdentity key.generation, flight.captureSequence with
      | some identity, some sequence =>
        if sequence = 0xffffffffffffffff then (flight.incStat .captureIdError, true)
        else
          let flight := { flight with captureSequence := some (sequence + 1) }
          match flight.tc.skb.loadBytes helpers.toHelpers info.ipOff packetLen with
          | none => (flight, true)
          | some copied =>
            let event : Event := {
              key := key
              timestampNanos := env.now
              runtimeIncarnation := identity.incarnation
              captureSequence := sequence + 1
              captureCpu := flight.cpu
              payloadLength := UInt32.ofNat info.payloadLen
              fwmark := flight.tc.skb.mark
              wgId := rule.wgId
              packetLength := UInt16.ofNat packetLen
              eventAbiVersion := Bpf.eventAbiVersion
              type := EventType.needHandshake.code
              tcpFlags := 0 }
            ({ flight with kernel := flight.kernel.output env (event.encode ++ copied) },
              env.ringOutput = false)
      | _, _ => (flight.incStat .captureIdError, true)

/-- The drop of a packet whose session entry does not admit it. -/
def missesSession {α : Type} (helpers : EgressHelpers) (env : Env) (maps : PolicyMaps) (flight : Flight)
    (packet : EgressPacket) (rule : EgressRuleValue) (key : SessionKey) (captures : Bool) : Except Flight α :=
  if (flight.kernel.sessions key).isSome then flight.rejects .badState
  else
    let missed := flight.incStat .sessionMiss
    if captures = false then .error missed
    else
      let captured := captureFirstPacket helpers env maps missed packet rule key
      .error (if captured.2 then captured.1.incStat .eventError else captured.1)

def identityMatches (generation : UInt64) (incarnation : Incarnation) : Bool :=
  (maps.lookupRuntimeIdentity generation).any fun identity => incarnationsEqual identity.incarnation incarnation

/-- The way without a cipher: nothing is written before the session is known. -/
def directCheckpoint (packet : EgressPacket) (policy : EgressPolicy) (status : ParseStatus) (type : TypeChange) :
    Except Flight DirectAdmission :=
  let skb := flight.tc.skb
  let info := packet.info
  if env.scratch = false ∨ status ≠ .ok ∨ shapeCoherent packet = false ∨ info.family ≠ .ipv4 ∨
      skb.gsoSize ≠ 0 then flight.rejects .badPacket
  else
    match Encoder.loadIpv4UdpSnapshot helpers.toHelpers skb info.ipOff info.udpOff info.payloadOff with
    | none => flight.rejects .badPacket
    | some headers =>
      if policyCoherent policy type = false ∨ policy.rule.cipherId ≠ 0 then flight.rejects .badState
      else if validateLen type.kind info.payloadLen = false ∨ info.payloadLen < headerDelta ∨
          info.payloadLen > maxPlainPayload then flight.rejects .badPacket
      else if lengthsCoherent skb info headers = false then flight.rejects .badPacket
      else
        let key := tcKey skb info headers policy.generation policy.rule.wgId
        match SessionValue.snapshotEstablished (flight.kernel.sessions key) policy.generation with
        | none => flight.missesSession helpers env maps packet policy.rule key true
        | some snapshot =>
          if identityMatches maps policy.generation snapshot.authority.runtimeIncarnation = false then
            flight.rejects .admissionBypassReject
          else .ok {
            key := key
            generation := policy.generation
            sessionAuthority := snapshot.authority
            sessionProjection := snapshot.projection
            ruleWgId := policy.rule.wgId
            ruleProfileId := policy.rule.profileId
            profilePolicyFlags := policy.profile.policyFlags
            payloadLen := info.payloadLen
            standardWire := type.standardWire
            mixedWire := type.mixedWire
            managedAction := policy.managed.actionOnMiss
            ruleAction := policy.rule.action
            transportMode := policy.rule.transportMode
            typeKind := type.kind }

/-- Cipher target and aggregate geometry of the packet to be admitted. -/
def admittedGeometry (info : PacketInfo) (profile : ProfileValue) (cipher : Option CipherValue) (kind : Fin 4)
    (checksumMode : Tc.XorChecksum) : Except Stat (Gso.Projection × Nat) :=
  if flight.tc.skb.gsoSize ≠ 0 then
    if checksumMode ≠ .none then .error .gsoReject
    else
      match Gso.buildProjection helpers.toHelpers flight.tc.skb flight.hidden.gsoSegs info profile cipher with
      | none => .error .gsoReject
      | some projected => .ok projected
  else
    match cipher with
    | none => if validateLen kind info.payloadLen then .ok ({}, 0) else .error .badPacket
    | some cipher =>
      match cipher.payloadTarget info.payloadLen with
      | none => .error .badPacket
      | some target => if validateLen kind info.payloadLen then .ok ({}, target) else .error .badPacket

def featureMask (rule : EgressRuleValue) (isGso : Bool) : UInt32 :=
  requiredFeatures ||| (if rule.cipherId ≠ 0 then featureXor else 0) ||| (if isGso then featureGso else 0)

/-- The admission that is armed for the rest of the way. -/
def armedAdmission (skb : Skb) (packet : EgressPacket) (policy : EgressPolicy) (type : TypeChange)
    (checksumMode : Tc.XorChecksum) (key : SessionKey) (nonce : UInt64) (snapshot : SessionSnapshot)
    (gso : Gso.Projection) (xorTarget : Nat) : EgressAdmission where
  key := key
  nonce := nonce
  sessionAuthority := snapshot.authority
  fwmark := skb.mark
  wgId := policy.rule.wgId
  profileId := policy.rule.profileId
  cipherId := policy.rule.cipherId
  featureMask := featureMask policy.rule (skb.gsoSize ≠ 0)
  networkOff := packet.info.ipOff
  transportOff := packet.info.udpOff
  payloadOff := packet.info.payloadOff
  payloadLen := packet.info.payloadLen
  ipTotalLen := iphdrSize + udphdrSize + packet.info.payloadLen
  wireLen := udphdrSize + packet.info.payloadLen
  skbLen := skb.data.length
  standardWire := type.standardWire
  mixedWire := type.mixedWire
  profilePolicyFlags := policy.profile.policyFlags
  xorTarget := xorTarget
  tokenState := .armed
  gso := gso
  sessionProjection := snapshot.projection
  managedAction := policy.managed.actionOnMiss
  ruleAction := policy.rule.action
  transportMode := policy.rule.transportMode
  direction := directionEgress
  xorChecksumMode := if policy.rule.cipherId ≠ 0 ∧ skb.gsoSize = 0 then checksumMode else .none
  typeKind := type.kind

/-- Packet, policy, lengths and session, projected into one token before any packet
byte changes. -/
def admissionCheckpoint (packet : EgressPacket) (policy : EgressPolicy) (status : ParseStatus) (type : TypeChange)
    (checksumMode : Tc.XorChecksum) : Except Flight (EgressAdmission × Flight) :=
  let skb := flight.tc.skb
  let info := packet.info
  if env.scratch = false ∨ status ≠ .ok ∨ shapeCoherent packet = false ∨ info.family ≠ .ipv4 then
    flight.rejects .badPacket
  else
    match Encoder.loadIpv4UdpSnapshot helpers.toHelpers skb info.ipOff info.udpOff info.payloadOff with
    | none => flight.rejects .badPacket
    | some headers =>
      if policyCoherent policy type = false then flight.rejects .badState
      else
        match ruleCipher maps policy with
        | none => flight.rejects .badState
        | some cipher =>
          match admittedGeometry helpers flight info policy.profile cipher type.kind checksumMode with
          | .error stat => flight.rejects stat
          | .ok (gso, xorTarget) =>
            if info.payloadLen < headerDelta ∨
                info.payloadLen > (if skb.gsoSize ≠ 0 then Gso.maxPayload else maxPlainPayload) then
              flight.rejects .badPacket
            else if lengthsCoherent skb info headers = false then flight.rejects .badPacket
            else
              let key := tcKey skb info headers policy.generation policy.rule.wgId
              match SessionValue.snapshotEstablished (flight.kernel.sessions key) policy.generation with
              | none => flight.missesSession helpers env maps packet policy.rule key (skb.gsoSize = 0)
              | some snapshot =>
                match flight.slot with
                | some ⟨nextNonce, none⟩ =>
                  if identityMatches maps policy.generation snapshot.authority.runtimeIncarnation = false ∨
                      nextNonce = 0xffffffffffffffff then flight.rejects .admissionBypassReject
                  else
                    let admission := armedAdmission skb packet policy type checksumMode key (nextNonce + 1)
                      snapshot gso xorTarget
                    .ok (admission, { flight with slot := some ⟨nextNonce + 1, some admission⟩ })
                | _ => flight.consumeAdmission.rejects .admissionBypassReject

/-- The token still describes this packet. -/
def bindsPacket (skb : Skb) (info : PacketInfo) (headers : Bytes) (admission : EgressAdmission) : Bool :=
  admission.fwmark = skb.mark ∧ admission.skbLen = skb.data.length ∧ admission.networkOff = info.ipOff ∧
    admission.transportOff = info.udpOff ∧ admission.payloadOff = info.payloadOff ∧
    admission.payloadLen = info.payloadLen ∧ admission.ipTotalLen = headers.be16 2 ∧
    admission.wireLen = headers.be16 24

/-- And this policy. -/
def bindsPolicy (policy : EgressPolicy) (admission : EgressAdmission) : Bool :=
  admission.key.generation = policy.generation ∧ admission.managedAction = policy.managed.actionOnMiss ∧
    admission.ruleAction = policy.rule.action ∧ admission.transportMode = policy.rule.transportMode ∧
    admission.wgId = policy.rule.wgId ∧ admission.profileId = policy.rule.profileId ∧
    admission.cipherId = policy.rule.cipherId ∧ admission.profilePolicyFlags = policy.profile.policyFlags ∧
    admission.standardWire = UInt32.ofNat (admission.typeKind.val + 1) ∧
    admission.mixedWire = policy.profile.mixedFromKind admission.typeKind ∧
    policy.managed.generation = policy.generation ∧ policy.rule.generation = policy.generation ∧
    policy.profile.generation = policy.generation ∧ policy.rule.action = .rewrite ∧
    policy.rule.transportMode = .faketcp

def bindsFlow (key : SessionKey) (admission : EgressAdmission) : Bool :=
  key.localIpv4 = admission.key.localIpv4 ∧ key.remoteIpv4 = admission.key.remoteIpv4 ∧
    key.underlayIndex = admission.key.underlayIndex ∧ key.localPort = admission.key.localPort ∧
    key.remotePort = admission.key.remotePort ∧ key.wgId = admission.key.wgId

/-- A plain packet without a cipher is still untouched, one with a cipher has been
retagged and masked. -/
def bindsPlainPayload (info : PacketInfo) (cipher : Option CipherValue) (currentWire : UInt32)
    (admission : EgressAdmission) : Bool :=
  match cipher with
  | none => currentWire = admission.standardWire ∧ admission.xorTarget = 0 ∧ admission.xorChecksumMode = .none
  | some cipher => cipher.payloadTarget info.payloadLen = some admission.xorTarget ∧
      cipher.xorTypeWordCopy currentWire = admission.mixedWire ∧
      admission.xorChecksumMode = Tc.xorChecksumMode info

/-- And the payload as it is now; an aggregate is still untouched. -/
def bindsPayload (info : PacketInfo) (profile : ProfileValue) (cipher : Option CipherValue) (currentWire : UInt32)
    (admission : EgressAdmission) : Bool :=
  if flight.tc.skb.gsoSize ≠ 0 then
    match Gso.buildProjection helpers.toHelpers flight.tc.skb flight.hidden.gsoSegs info profile cipher with
    | none => false
    | some (observed, target) =>
      admission.gso = observed ∧ currentWire = admission.standardWire ∧ target = admission.xorTarget ∧
        admission.xorChecksumMode = .none
  else
    validateLen admission.typeKind admission.payloadLen && decide (admission.gso = {}) &&
      bindsPlainPayload info cipher currentWire admission

/-- `faketcp_egress_admission_matches`. -/
def admissionMatches (packet : EgressPacket) (policy : EgressPolicy) (required : TokenState)
    (admission : EgressAdmission) : Bool :=
  let skb := flight.tc.skb
  let info := packet.info
  let isGso : Bool := skb.gsoSize ≠ 0
  if managedTransformStatus packet.l3 ipprotoUdp ≠ .ok ∨ shapeCoherent packet = false ∨
      env.scratch = false then false
  else
    match Encoder.loadIpv4UdpSnapshot helpers.toHelpers skb info.ipOff info.udpOff info.payloadOff with
    | none => false
    | some headers =>
      if (isGso ∧ required ≠ .armed) ∨
          (isGso = false ∧ decide (required = .xorComplete) ≠ decide (policy.rule.cipherId ≠ 0)) then false
      else
        match skb.loadBytes helpers.toHelpers info.payloadOff 4 with
        | none => false
        | some word =>
          match ruleCipher maps policy with
          | none => false
          | some cipher =>
            admission.nonce ≠ 0 ∧ admission.tokenState = required ∧
              admission.direction = directionEgress ∧
              admission.featureMask = featureMask policy.rule isGso ∧
              bindsPacket skb info headers admission ∧ bindsPolicy policy admission ∧
              identityMatches maps policy.generation admission.sessionAuthority.runtimeIncarnation ∧
              bindsFlow (tcKey skb info headers policy.generation policy.rule.wgId) admission ∧
              bindsPayload helpers flight info policy.profile cipher (word.le32 0) admission ∧
              admission.sessionAuthority.sessionId ≠ 0 ∧
              admission.sessionProjection.state = .established ∧ admission.sessionProjection.flags = 0

/-- The loops over the segments of an admitted aggregate. -/
def transformSegments (context : Gso.LoopContext) : Except Flight Flight :=
  match Gso.rewriteTypes helpers.toHelpers context flight.tc.skb with
  | none => flight.consumeAdmission.rejects .gsoReject
  | some skb =>
    match context.cipher with
    | none => .ok (flight.setSkb skb)
    | some cipher =>
      match Gso.xorSegments helpers.toHelpers env.scratch context cipher skb with
      | none => .error (flight.consumeAdmission.incTcStat .xorStoreError)
      | some skb => .ok ((flight.setSkb skb).incTcStat .xorEgressOk)

def ackWindow (mutation : SessionMutationResult) : UInt64 :=
  UInt64.ofNat (mutation.acknowledgement.toNat +
    (if mutation.window = 0 then 65535 else mutation.window.toNat) * 2 ^ 32)

/-- One sequence allocation for the whole aggregate, then the commit. -/
def commitSegments (info : PacketInfo) (generation nonce : UInt64) : Except Flight Flight :=
  match flight.activeAdmission nonce with
  | none => flight.rejects .admissionBypassReject
  | some admission =>
    match (flight.kernel.sessions admission.key).map env.racing with
    | none => flight.consumeAdmission.rejects .sessionMiss
    | some held =>
      match held.mutate generation env.now .tx (UInt32.ofNat info.payloadLen) admission.sessionAuthority
          admission.sessionProjection with
      | none => flight.consumeAdmission.rejects .badState
      | some (value, mutation) =>
        let flight := { flight with
          kernel := (flight.kernel.setSession admission.key value).incStat .admissionAccept }
        match ChecksumModule.commitUdpGso flight.tc.skb flight.hidden info.ipOff info.udpOff
            mutation.sequence (ackWindow mutation) with
        | .error _ => flight.consumeAdmission.rejects .gsoReject
        | .ok (skb, hidden) =>
          let committed := { (flight.setSkb skb).consumeAdmission with hidden }
          .ok (((committed.incTcStat .egressRewriteOk).incTcStat .egressGsoRewriteOk).incStat .egressOk)

/-- The cipher of an aggregate, looked up and bounded once more. -/
def aggregateCipher (policy : EgressPolicy) : Except Flight (Option CipherValue) :=
  match ruleCipher maps policy with
  | none => .error (flight.consumeAdmission.incTcStat .xorKeyMissing)
  | some cipher =>
    if cipher.any fun cipher => cipher.maxBytes = 0 ∨ cipher.maxBytes.toNat > maxXorBytes then
      flight.consumeAdmission.rejects .gsoReject
    else .ok cipher

/-- `faketcp_encode_gso_segments`. -/
def encodeGsoSegments (packet : EgressPacket) (policy : EgressPolicy) (status : ParseStatus) (type : TypeChange) :
    Except Flight Flight := do
  let skb := flight.tc.skb
  let info := packet.info
  if policy.rule.transportMode ≠ .faketcp ∨ info.payloadLen ≤ skb.gsoSize ∨
      info.payloadLen > Gso.maxPayload ∨ skb.gsoSize < 32 ∨ info.payloadOff > skb.data.length ∨
      info.payloadLen > skb.data.length - info.payloadOff then flight.rejects .gsoReject
  else if env.scratch = false then .error flight
  else
    let flight ← prepareUdp helpers flight info true
    let (admission, flight) ← admissionCheckpoint helpers env maps flight packet policy status type .none
    if admissionMatches helpers env maps flight packet policy .armed admission = false then
      flight.rejects .admissionBypassReject
    else
      let cipher ← aggregateCipher maps flight policy
      let context : Gso.LoopContext := {
        cipher
        mixedType := policy.profile.standardToMixed
        payloadOffset := info.payloadOff
        payloadLength := info.payloadLen
        gsoSize := admission.gso.gsoSize
        gsoSegments := admission.gso.logicalSegments }
      let flight ← transformSegments helpers env flight context
      commitSegments env flight info policy.generation admission.nonce

def directMatches (skb : Skb) (info : PacketInfo) (policy : EgressPolicy) (admission : DirectAdmission) : Bool :=
  policy.generation ≠ 0 ∧ admission.generation = policy.generation ∧
    admission.key.generation = policy.generation ∧ policy.managed.generation = policy.generation ∧
    policy.rule.generation = policy.generation ∧ policy.profile.generation = policy.generation ∧
    policy.rule.cipherId = 0 ∧ policy.rule.wgId = admission.ruleWgId ∧
    policy.rule.profileId = admission.ruleProfileId ∧ policy.rule.action = admission.ruleAction ∧
    policy.rule.transportMode = admission.transportMode ∧
    policy.managed.actionOnMiss = admission.managedAction ∧
    policy.profile.policyFlags = admission.profilePolicyFlags ∧ admission.ruleAction = .rewrite ∧
    admission.transportMode = .faketcp ∧ admission.key.wgId = admission.ruleWgId ∧
    admission.key.underlayIndex = skb.ifindex ∧ admission.key.localPort = info.srcPort ∧
    admission.key.remotePort = info.dstPort ∧ admission.payloadLen = info.payloadLen ∧
    admission.standardWire = UInt32.ofNat (admission.typeKind.val + 1) ∧
    admission.mixedWire = policy.profile.mixedFromKind admission.typeKind ∧
    admission.sessionAuthority.sessionId ≠ 0 ∧ admission.sessionProjection.state = .established ∧
    admission.sessionProjection.flags = 0 ∧
    identityMatches maps policy.generation admission.sessionAuthority.runtimeIncarnation

/-- The shared encoder at the end of both plain ways. -/
def encodeAuthorized (info : PacketInfo) (generation : UInt64) (key : SessionKey) (authority : SessionAuthority)
    (projection : SessionProjection) : Flight × TcVerdict :=
  match Encoder.encodeEstablishedAuthorized helpers.toEncodeHelpers env flight.kernel flight.tc info generation
      key authority projection with
  | (kernel, tc, verdict) => ({ flight with kernel, tc }, verdict)

def encodeDirect (info : PacketInfo) (policy : EgressPolicy) (admission : DirectAdmission) : Flight × TcVerdict :=
  if directMatches maps flight.tc.skb info policy admission = false then
    (flight.incStat .admissionBypassReject, .shot)
  else encodeAuthorized helpers env flight info policy.generation admission.key admission.sessionAuthority
    admission.sessionProjection

def encodeEstablished (info : PacketInfo) (policy : EgressPolicy) (admission : EgressAdmission) :
    Flight × TcVerdict :=
  if admission.key.generation ≠ policy.generation ∨ admission.direction ≠ directionEgress ∨
      admission.cipherId ≠ policy.rule.cipherId ∨ admission.payloadLen ≠ info.payloadLen ∨
      admission.featureMask ≠ requiredFeatures ||| (if admission.cipherId ≠ 0 then featureXor else 0) then
    (flight.incStat .admissionBypassReject, .shot)
  else encodeAuthorized helpers env flight info policy.generation admission.key admission.sessionAuthority
    admission.sessionProjection

/-- The fixed headers must still be those that were admitted. -/
def currentCoherent (skb : Skb) (admission : EgressAdmission) : Bool :=
  if env.scratch = false ∨ admission.networkOff > skb.data.length ∨
      admission.transportOff < admission.networkOff ∨ admission.payloadOff < admission.transportOff ∨
      admission.transportOff - admission.networkOff ≠ iphdrSize ∨
      admission.payloadOff - admission.transportOff ≠ udphdrSize ∨ admission.wireLen < udphdrSize ∨
      admission.wireLen - udphdrSize ≠ admission.payloadLen ∨ admission.ipTotalLen < iphdrSize ∨
      admission.ipTotalLen - iphdrSize ≠ admission.wireLen ∨ admission.skbLen ≠ skb.data.length ∨
      admission.ipTotalLen ≠ skb.data.length - admission.networkOff ∨ admission.cipherId = 0 ∨
      admission.xorChecksumMode = .manual then false
  else
    match Encoder.loadIpv4UdpSnapshot helpers.toHelpers skb admission.networkOff admission.transportOff
        admission.payloadOff with
    | none => false
    | some headers =>
      headers.byteAt 0 = 0x45 ∧ headers.byteAt 9 = ipprotoUdp ∧
        headers.be16 6 &&& (ipReserved ||| ipMf ||| ipOffset) = 0 ∧
        headers.be16 2 = admission.ipTotalLen ∧ headers.be16 24 = admission.wireLen ∧
        headers.be16 20 = admission.key.localPort.toNat ∧
        headers.be16 22 = admission.key.remotePort.toNat ∧
        (decide (headers.be16 26 = 0) = decide (admission.xorChecksumMode = .none))

def packetOfAdmission (admission : EgressAdmission) : EgressPacket where
  l3 := {
    l3Off := admission.networkOff
    l3Len := admission.ipTotalLen
    l4Off := admission.transportOff
    l4Len := admission.wireLen
    l3HeaderLen := iphdrSize
    l4HeaderLen := udphdrSize
    family := .ipv4
    transportProtocol := ipprotoUdp }
  info := {
    family := .ipv4
    ipOff := admission.networkOff
    udpOff := admission.transportOff
    payloadOff := admission.payloadOff
    payloadLen := admission.payloadLen
    srcPort := admission.key.localPort
    dstPort := admission.key.remotePort
    ipv4UdpCsumZero := admission.xorChecksumMode = .none }

/-- The policy of a continued packet, looked up anew; the profile's generation is left
to the match. -/
def currentPolicy (skb : Skb) (srcPort : UInt16) (generation : UInt64) : Option EgressPolicy :=
  match maps.lookupManagedFwmark skb.mark skb.ifindex generation,
      maps.lookupEgressRule skb.mark skb.ifindex srcPort .ipv4 generation with
  | some managed, some rule =>
    (maps.profiles generation rule.profileId).map fun profile => ⟨managed, rule, profile, generation⟩
  | _, _ => none

/-- `faketcp_continue_egress`: the token is consumed before anything else. -/
def continueEgress : Flight × TcVerdict :=
  if env.scratch = false then (flight, .shot)
  else
    let context := Tc.loadXorContext flight.tc.skb
    let consumed := flight.slot.bind (·.active)
    let flight := flight.consumeAdmission.setSkb (Tc.clearXorContext flight.tc.skb)
    let rejected : Flight × TcVerdict := (flight.incStat .admissionBypassReject, .shot)
    match context, consumed with
    | some context, some admission =>
      if context.continueFakeTcp = false ∨ context.admissionNonce = 0 ∨
          admission.nonce ≠ context.admissionNonce then rejected
      else
        match maps.activeGeneration with
        | none => rejected
        | some generation =>
          if currentCoherent helpers env flight.tc.skb admission = false then rejected
          else
            let packet := packetOfAdmission admission
            match currentPolicy maps flight.tc.skb packet.info.srcPort generation with
            | none => rejected
            | some policy =>
              if admissionMatches helpers env maps flight packet policy .xorComplete admission = false then
                rejected
              else encodeEstablished helpers env flight packet.info policy admission
    | _, _ => rejected

/-- A continued packet takes its geometry from the token and not from the buffer. -/
def bindXorProgress (context : Tc.XorContext) : Option Tc.XorContext :=
  match flight.activeAdmission context.admissionNonce with
  | none => none
  | some active =>
    if active.tokenState ≠ .armed ∨ active.featureMask ≠ requiredFeatures ||| featureXor ∨
        active.key.generation = 0 ∨ active.cipherId = 0 ∨ active.payloadOff < udphdrSize ∨
        active.xorTarget < 4 ∨ active.xorTarget > maxXorBytes then none
    else some { context with
      generation := active.key.generation
      cipherId := active.cipherId
      payloadOff := active.payloadOff
      target := active.xorTarget
      checksumMode := active.xorChecksumMode }

/-- `faketcp_complete_egress_xor`. -/
def completeXor (nonce : UInt64) : Option Flight :=
  match flight.activeAdmission nonce with
  | none => none
  | some active =>
    if active.featureMask ≠ requiredFeatures ||| featureXor ∨ active.cipherId = 0 ∨ active.xorTarget = 0 ∨
        active.tokenState ≠ .armed then none
    else some { flight with
      slot := flight.slot.map fun slot => { slot with active := some { active with tokenState := .xorComplete } } }

def dispatchFail (stat : TcStat) : Flight × TcVerdict :=
  ({ flight.consumeAdmission with tc := (flight.tc.xorDispatchFail stat).1 }, .shot)

/-- The XOR programs of this build on a continued packet. A context that carries no
admission never leaves the FakeTCP way and belongs to the baseline chain. -/
def runXorEgressSegment (helpers : EgressHelpers) (env : Env) (maps : PolicyMaps) :
    (tailCalls segment : Nat) → Flight → Flight × TcVerdict
  | tailCalls, segment, flight =>
    match Tc.loadXorContext flight.tc.skb with
    | none => flight.dispatchFail .xorEgressDispatchError
    | some context =>
      if context.continueFakeTcp = false then
        let (tc, verdict) := Tc.runXorEgressSegment helpers.toHelpers maps tailCalls segment flight.tc
        ({ flight with tc }, verdict)
      else
        match bindXorProgress flight context with
        | none => flight.dispatchFail .xorEgressDispatchError
        | some context =>
          match maps.lookupCipher context.cipherId context.generation with
          | none => flight.dispatchFail .xorKeyMissing
          | some cipher =>
            match Tc.xorSegmentFor helpers.toHelpers context.checksumMode flight.tc.skb cipher
                context.payloadOff context.target segment 0 with
            | .error cause =>
              ({ flight.consumeAdmission with
                tc := { flight.tc with skb := Tc.clearXorContext flight.tc.skb }.incXorError cause }, .shot)
            | .ok (skb, true) =>
              let flight := flight.setSkb skb
              let slot := Tc.xorProgramIndex context.generation (segment + 1)
              match tailCalls with
              | 0 => flight.dispatchFail .xorEgressDispatchError
              | tailCalls + 1 =>
                if helpers.xorEgressPrograms slot then
                  runXorEgressSegment helpers env maps tailCalls (slot % Tc.xorSegmentCount) flight
                else flight.dispatchFail .xorEgressDispatchError
            | .ok (skb, false) =>
              let flight := (flight.setSkb skb).incTcStat .xorEgressOk
              match completeXor flight context.admissionNonce, tailCalls with
              | some completed, _ + 1 =>
                if helpers.faketcpEgressPrograms (context.generation.toNat % 2) then
                  continueEgress helpers env maps completed
                else completed.dispatchFail .xorEgressDispatchError
              | _, _ => flight.dispatchFail .xorEgressDispatchError

def setFakeTcpXorContext (skb : Skb) (nonce : UInt64) : Skb :=
  { skb with cb := fun
    | 0 => nonce.toNat % 2 ^ 32
    | 1 => nonce.toNat / 2 ^ 32
    | 2 => 0
    | 3 => 0
    | 4 => Tc.xorContextMagic ||| 0x4000 }

/-- The way with a cipher. -/
def cipherEgress (packet : EgressPacket) (policy : EgressPolicy) (status : ParseStatus) (type : TypeChange) :
    Flight × TcVerdict :=
  match admissionCheckpoint helpers env maps flight packet policy status type
      (Tc.xorChecksumMode packet.info) with
  | .error dropped => (dropped, .shot)
  | .ok (admission, flight) =>
    let marked := setFakeTcpXorContext flight.tc.skb admission.nonce
    match Tc.updateTypeWord helpers.toHelpers marked packet.info type.standardWire type.mixedWire true with
    | .error cause =>
      ((flight.consumeAdmission.setSkb (Tc.clearXorContext marked)).incTcStat
        (if cause = RewriteError.store then .xorStoreError else .checksumError), .shot)
    | .ok skb =>
      let flight := flight.setSkb skb
      let slot := Tc.xorProgramIndex policy.generation 0
      if helpers.xorEgressPrograms slot then
        runXorEgressSegment helpers env maps (Tc.maxTailCalls - 1) (slot % Tc.xorSegmentCount) flight
      else flight.dispatchFail .xorEgressDispatchError

/-- The way without a cipher. -/
def directEgress (packet : EgressPacket) (policy : EgressPolicy) (status : ParseStatus) (type : TypeChange) :
    Flight × TcVerdict :=
  match directCheckpoint helpers env maps flight packet policy status type with
  | .error dropped => (dropped, .shot)
  | .ok admission =>
    match Tc.updateTypeWord helpers.toHelpers flight.tc.skb packet.info type.standardWire type.mixedWire
        true with
    | .error cause =>
      (flight.incTcStat (if cause = RewriteError.store then .skbStoreError else .checksumError), .shot)
    | .ok skb => encodeDirect helpers env maps (flight.setSkb skb) packet.info policy admission

/-- The descriptor that the parser's observation of an IPv4 packet gives. -/
def projectIpv4Udp (skb : Skb) (info : PacketInfo) : L3Status × L3Info :=
  let data := skb.data
  let headerLen := info.udpOff - info.ipOff
  let totalLen := data.be16 (info.ipOff + 2)
  let fragment := data.be16 (info.ipOff + 6)
  let l3 : L3Info := { l3Off := info.ipOff, family := info.family }
  if info.family ≠ .ipv4 then (.unsupported, l3)
  else if (data.byteAt info.ipOff).toNat / 16 ≠ 4 ∨ headerLen < iphdrSize then (.malformed, l3)
  else if info.ipOff > data.length ∨ totalLen > data.length - info.ipOff then (.truncated, l3)
  else if totalLen < headerLen then (.malformed, l3)
  else
    let l3 := { l3 with
      l3Len := totalLen
      l3HeaderLen := headerLen
      l4Off := info.ipOff + headerLen
      l4Len := totalLen - headerLen
      transportProtocol := data.byteAt (info.ipOff + 9)
      flags := if headerLen > iphdrSize then flagIpv4Options else 0 }
    if fragment &&& ipReserved ≠ 0 then (.malformed, l3)
    else
      let l3 := if fragment &&& ipDf ≠ 0 then { l3 with flags := l3.flags ||| flagIpv4Df } else l3
      if fragment &&& ipDf ≠ 0 ∧ fragment &&& (ipMf ||| ipOffset) ≠ 0 then (.malformed, l3)
      else if fragment &&& ipOffset ≠ 0 then (.nonInitialFragment, l3)
      else if fragment &&& ipMf ≠ 0 then (.firstFragment, l3)
      else if l3.transportProtocol ≠ ipprotoUdp then (.unsupported, l3)
      else
        let udpLen := data.be16 (info.udpOff + 4)
        if udpLen < udphdrSize ∨ udpLen ≠ l3.l4Len then (.malformed, l3)
        else (.ok, { l3 with l4HeaderLen := udphdrSize })

def fixedUdpStatus (packet : EgressPacket) (status : L3Status) : L3Status :=
  if status ≠ .ok then status
  else if managedTransformStatus packet.l3 ipprotoUdp ≠ .ok then .unsupported
  else if shapeCoherent packet = false then .malformed
  else .ok

/-- A rule of the FakeTCP transport: the fixed-header gate, the preparation, and one
of the three ways. -/
def fakeTcpEgress (info : PacketInfo) (policy : EgressPolicy) (status : ParseStatus) (type : TypeChange) :
    Flight × TcVerdict :=
  let projected := projectIpv4Udp flight.tc.skb info
  let packet : EgressPacket := ⟨info, projected.2⟩
  if fixedUdpStatus packet projected.1 ≠ .ok then (flight.incStat .badPacket, .shot)
  else if flight.tc.skb.gsoSize ≠ 0 then
    match encodeGsoSegments helpers env maps flight packet policy status type with
    | .error dropped => (dropped, .shot)
    | .ok sent => (sent, .ok)
  else
    match prepareUdp helpers flight info false with
    | .error dropped => (dropped, .shot)
    | .ok flight =>
      if policy.rule.cipherId ≠ 0 then cipherEgress helpers env maps flight packet policy status type
      else directEgress helpers env maps flight packet policy status type

inductive ControlVerdict where
  | other
  | authorized
  | rejected
  deriving DecidableEq, Repr

def controlIpv4Id : Nat := 0x5747

/-- The canonical packet of the control plane: no options, no payload, an exact flag
set and complete checksums. -/
def controlCanonical (headers : Xdp.Envelope) : Bool :=
  headers.bytes.byteAt 0 = 0x45 ∧ headers.bytes.byteAt 1 = 0 ∧ headers.bytes.be16 4 = controlIpv4Id ∧
    headers.bytes.byteAt 8 = 64 ∧ headers.bytes.byteAt 9 = ipprotoTcp ∧
    headers.bytes.be16 6 &&& (ipReserved ||| ipMf ||| ipOffset) = 0 ∧
    headers.totalLen = iphdrSize + tcphdrSize ∧ headers.bytes.byteAt 32 = 0x50 ∧ headers.urgPtr = 0 ∧
    headers.source ≠ 0 ∧ headers.dest ≠ 0 ∧ headers.window ≠ 0 ∧
    (headers.flags = flagSyn ∨ headers.flags = flagSyn ||| flagAck ∨ headers.flags = flagAck) ∧
    headers.controlChecksumsValid

/-- What decides about a canonical packet: rule, session and admitted events. -/
def authorizeFlow (generation : UInt64) (headers : Xdp.Envelope) : ControlVerdict :=
  match maps.lookupEgressRule flight.tc.skb.mark flight.tc.skb.ifindex headers.source .ipv4 generation with
  | none => .rejected
  | some rule =>
    let key : SessionKey := {
      generation := generation
      localIpv4 := headers.saddr
      remoteIpv4 := headers.daddr
      underlayIndex := flight.tc.skb.ifindex
      localPort := headers.source
      remotePort := headers.dest
      wgId := rule.wgId }
    if rule.action ≠ .rewrite ∨ rule.transportMode ≠ .faketcp ∨ rule.wgId = 0 ∨ key.valid = false then .rejected
    else if headers.flags = flagAck then
      match SessionValue.snapshotEstablished (flight.kernel.sessions key) generation with
      | none => .rejected
      | some snapshot =>
        if identityMatches maps generation snapshot.authority.runtimeIncarnation then .authorized else .rejected
    else
      let event : EventType := if headers.flags = flagSyn then .needHandshake else .syn
      match flight.kernel.controlFlows ⟨key, rule.wgId, event⟩ with
      | none => .rejected
      | some flow =>
        if flow.generation = generation ∧ flow.lastEventNanos ≠ 0 then .authorized else .rejected

/-- Raw controls of user space carry the managed mark too, and pass only with a
session or an admitted event behind them. -/
def authorizeUserspaceControl (generation : UInt64) : ControlVerdict :=
  let skb := flight.tc.skb
  let data : Bytes := skb.data.take skb.linear
  if env.scratch = false then .rejected
  else
    match Tc.parseLink maps skb data generation with
    | (status, networkOff, protocol) =>
      if status ≠ .ok ∨ protocol ≠ ethPIp ∨ networkOff + iphdrSize > data.length ∨
          data.byteAt (networkOff + 9) ≠ ipprotoTcp then .other
      else if skb.gsoSize ≠ 0 ∨ networkOff > skb.data.length ∨
          iphdrSize + tcphdrSize ≠ skb.data.length - networkOff then .rejected
      else
        match skb.loadBytes helpers.toHelpers networkOff (iphdrSize + tcphdrSize) with
        | none => .rejected
        | some bytes =>
          if controlCanonical ⟨bytes⟩ = false then .rejected else authorizeFlow maps flight generation ⟨bytes⟩

def liftTc (result : Tc × TcVerdict) : Flight × TcVerdict :=
  ({ flight with tc := result.1 }, result.2)

/-- The checks between a matching rule and its transform. -/
def rewriteEgress (generation : UInt64) (info : PacketInfo) (managed : ManagedFwmarkValue) (rule : EgressRuleValue)
    (status : ParseStatus) : Flight × TcVerdict :=
  let gsoSeen : Bool := flight.tc.skb.gsoSize ≠ 0
  match flight.tc.skb.loadBytes helpers.toHelpers info.payloadOff 4 with
  | none => (flight.incTcStat .skbLoadError, .shot)
  | some word =>
    match kindFromStandard (word.le32 0) with
    | none => (flight.incTcStat .egressBadType, .shot)
    | some kind =>
      if gsoSeen = false ∧ validateLen kind info.payloadLen = false then
        (flight.incTcStat .egressBadLength, .shot)
      else
        match maps.lookupProfile generation rule.profileId with
        | none => (flight.incTcStat .egressRuleMiss, .shot)
        | some profile =>
          if rule.cipherId ≠ 0 ∧ gsoSeen = false ∧ rule.transportMode = .icmp then
            (flight.incTcStat .xorKeyMissing, .shot)
          else if rule.transportMode = .faketcp then
            fakeTcpEgress helpers env maps flight info ⟨managed, rule, profile, generation⟩ status
              ⟨kind, word.le32 0, profile.mixedFromKind kind⟩
          else
            flight.liftTc (Tc.transformEgress helpers.toHelpers maps flight.tc generation info rule
              (word.le32 0) (profile.mixedFromKind kind))

/-- `wg_mix_egress` of the FakeTCP build. -/
def wgMixEgress : Flight × TcVerdict :=
  match maps.activeGeneration with
  | none => (flight, .ok)
  | some generation =>
    if env.scratch = false then (flight, .shot)
    else
      let gsoSeen : Bool := flight.tc.skb.gsoSize ≠ 0
      let flight := { flight with tc := flight.tc.incStatIf gsoSeen .egressGsoSeen }
      match maps.lookupManagedFwmark flight.tc.skb.mark flight.tc.skb.ifindex generation with
      | none => (flight, .ok)
      | some managed =>
        let flight := { flight with tc := flight.tc.incStatIf gsoSeen .egressGsoManagedSeen }
        match authorizeUserspaceControl helpers env maps flight generation with
        | .authorized => (flight, .ok)
        | .rejected => (flight.incStat .admissionBypassReject, .shot)
        | .other =>
          match Tc.parsePacket maps flight.tc.skb generation with
          | (status, info) =>
            if status.isFragment then (flight.incTcStat .egressFragment, .shot)
            else if status.isIpv6Ext then (flight.incTcStat .egressIpv6Ext, .shot)
            else if status = .badCsum then flight.liftTc (flight.tc.managedMissAction .egressBadChecksum managed)
            else if status ≠ .ok then flight.liftTc (flight.tc.managedMissAction .egressRuleMiss managed)
            else
              match maps.lookupEgressRule flight.tc.skb.mark flight.tc.skb.ifindex info.srcPort info.family
                  generation with
              | none => flight.liftTc (flight.tc.managedMissAction .egressRuleMiss managed)
              | some rule =>
                if rule.action = .drop then (flight, .shot)
                else if rule.action ≠ .rewrite then (flight, .ok)
                else rewriteEgress helpers env maps flight generation info managed rule status

end Flight
end WgMix.Bpf
