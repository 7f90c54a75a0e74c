import WgMix.FakeTcp.Checksum
import WgMix.FakeTcp.EventReader
import WgMix.Foundation.Table

/-! The userspace slow-path state machine: sessions, bounded first-packet
queues and SYN admission. Times are nanoseconds of one clock; what the clocks,
the sequence source and the session store answer during a call is its `Turn`. -/
namespace WgMix.FakeTcp
open Bpf

inductive Reason where
  | wgIdMismatch
  | sessionStoreUnavailable
  | fastSessionMissing
  | fastSessionRaced
  | sessionCapacity
  | halfOpenCapacity
  | halfOpenSourceCapacity
  | pendingCapacity
  | initialHandshake
  | acceptSyn
  | simultaneousOpen
  | duplicateSyn
  | completeHandshake
  | handshakeRetry
  | handshakeTimeout
  | keepalive
  | idleTimeout
  | invalidCloseEnvelope
  | invalidCloseControl
  | unvalidatedClose
  | unknownClose
  | peerClose
  | unknownFlow
  | invalidSynSentSegment
  | invalidSynReceivedSegment
  | synOnEstablished
  | invalidState
  | synRateGlobal
  | synRateSource
  | synSourceLedgerMissing
  | synSourceLedgerCapacity
  deriving DecidableEq, Repr

structure Segment where
  flags : UInt8
  sequence : UInt32
  acknowledgement : UInt32
  payloadLength : UInt32

structure ControlPacket where
  flags : UInt8
  sequence : UInt32
  acknowledgement : UInt32
  window : UInt16
  deriving DecidableEq

/-- A captured pre-transform packet; `captureId` is its once-only identity. -/
structure PendingPacket where
  data : Bytes
  fwmark : UInt32 := 0
  wgId : UInt32
  captureNanos : UInt64 := 0
  captureId : CaptureIdentity
  captureFingerprint : Digest
  deriving DecidableEq

inductive Action where
  | drop (flow : SessionKey) (reason : Reason)
  | forward (flow : SessionKey)
  | sendControl (flow : SessionKey) (wgId : UInt32) (control : ControlPacket) (reason : Reason)
  | releasePending (flow : SessionKey) (wgId : UInt32) (packets : List PendingPacket)
  | close (flow : SessionKey) (reason : Reason)
  deriving DecidableEq

inductive EngineError where
  | options
  | flow
  | eventType
  | packetLength
  | eventAbi
  | identity
  | captureIdentity (cause : IdentityError)
  | store
  | clock
  | sessionIds
  | sessionGeneration
  | sessionIdentity
  | sessionIncarnation
  deriving DecidableEq

structure Options where
  generation : UInt64
  sessionCapacity : Nat
  maxHalfOpenSessions : Nat
  maxHalfOpenPerSource : Nat
  synRateInterval : Nat
  synBurst : Nat
  synBurstPerSource : Nat
  synSourceLedgerCapacity : Nat
  synSourceLedgerTtl : Nat
  maxPendingFlows : Nat
  maxPendingPacketsPerFlow : Nat
  maxPendingBytes : Nat
  handshakeTimeout : Nat
  handshakeRetries : Nat
  keepaliveInterval : Nat
  idleTimeout : Nat
  window : UInt16

def Options.accepted (options : Options) : Bool :=
  options.generation ≠ 0 ∧ 0 < options.sessionCapacity ∧ 0 < options.maxPendingFlows ∧
    options.maxPendingFlows ≤ options.sessionCapacity ∧ 0 < options.maxPendingPacketsPerFlow ∧
    0 < options.maxPendingBytes ∧
    0 < options.maxHalfOpenSessions ∧ options.maxHalfOpenSessions < options.sessionCapacity ∧
    0 < options.maxHalfOpenPerSource ∧ options.maxHalfOpenPerSource ≤ options.maxHalfOpenSessions ∧
    0 < options.synRateInterval ∧ 0 < options.synBurst ∧ 0 < options.synBurstPerSource ∧
    options.synBurstPerSource ≤ options.synBurst ∧
    options.maxHalfOpenSessions ≤ options.synSourceLedgerCapacity ∧
    options.synRateInterval ≤ options.synSourceLedgerTtl ∧
    0 < options.handshakeTimeout ∧ 0 < options.handshakeRetries ∧
    0 < options.keepaliveInterval ∧ options.keepaliveInterval < options.idleTimeout

structure PendingDelete where
  expected : SessionValue
  reason : Reason

structure SynSourceKey where
  remoteIpv4 : UInt32 := 0
  underlayIndex : UInt32 := 0
  deriving DecidableEq

structure TokenBucket where
  tokens : Nat := 0
  lastRefill : Nat
  initialized : Bool := true

structure SynSourceState where
  bucket : TokenBucket
  halfOpen : Nat := 0
  lastActivity : Nat

structure Session where
  state : SessionState
  wgId : UInt32
  localIsn : UInt32
  remoteIsn : UInt32 := 0
  txSequence : UInt32
  rxSequence : UInt32 := 0
  lastActivity : Nat
  nextRetry : Nat
  nextKeepalive : Nat := 0
  retries : Nat
  pending : List PendingPacket := []
  pendingBytes : Nat := 0
  halfOpenHeld : Bool
  synSource : SynSourceKey := {}
  sessionId : UInt64 := 0
  pendingDelete : Option PendingDelete := none

/-- `synSourceLru` holds the ledger's keys, most recently used first. -/
structure Engine where
  opts : Options
  identity : RuntimeIdentity
  sessions : Table SessionKey Session
  pendingFlows : Int := 0
  pendingBytes : Int := 0
  halfOpen : Nat := 0
  globalSyns : TokenBucket
  admissionEpoch : Nat
  synSources : Table SynSourceKey SynSourceState
  synSourceLru : List SynSourceKey := []

inductive SessionDeleteResult where
  | different
  | absent
  | removed
  deriving DecidableEq, Repr

/-- Everything one call learns from outside. `releasedAt` is the second clock
reading of `releaseHalfOpen`; `order` is the order in which the map of sessions
happens to be iterated; `none` from a store operation is an error. -/
structure Turn where
  now : Nat
  releasedAt : SessionKey → Nat
  monotonic : Option UInt64
  initialSequence : UInt32
  sessionId : Option UInt64
  insert : SessionKey → SessionValue → Bool
  lookup : SessionKey → Option (Option SessionValue)
  delete : SessionKey → SessionValue → Option SessionDeleteResult
  order : List SessionKey → List SessionKey
  order_perm : ∀ keys, (order keys).Perm keys

structure Outcome where
  engine : Engine
  actions : List Action
  error : Option EngineError := none

def newEngine (options : Options) (identity : RuntimeIdentity) (now : Nat) : Except EngineError Engine :=
  if options.accepted = false ∨ identity.generation ≠ options.generation then .error .options
  else
    let options := if options.window = 0 then { options with window := 65535 } else options
    .ok {
      opts := options
      identity := identity
      sessions := ∅
      globalSyns := { lastRefill := now }
      admissionEpoch := now
      synSources := ∅ }

namespace TokenBucket

def refill (bucket : TokenBucket) (now interval burst : Nat) : TokenBucket :=
  if bucket.initialized = false then { bucket with initialized := true, lastRefill := now }
  else if now < bucket.lastRefill + interval then bucket
  else
    let steps := (now - bucket.lastRefill) / interval
    if steps ≥ burst then { bucket with tokens := burst, lastRefill := now }
    else { bucket with
      tokens := min burst (bucket.tokens + steps)
      lastRefill := bucket.lastRefill + steps * interval }

end TokenBucket

namespace Engine
variable (engine : Engine) (turn : Turn) (flow : SessionKey) (session : Session)

def validateFlow : Bool :=
  flow.generation = engine.opts.generation ∧ flow.localIpv4 ≠ 0 ∧ flow.remoteIpv4 ≠ 0 ∧
    flow.underlayIndex ≠ 0 ∧ flow.localPort ≠ 0 ∧ flow.remotePort ≠ 0 ∧ flow.wgId ≠ 0 ∧
    flow.pad = FixedBytes.zero 4

def setSession : Engine :=
  { engine with sessions := engine.sessions.insert flow session }

section SynAdmission

def touchSynSource (key : SynSourceKey) (source : SynSourceState) (now : Nat) : Engine :=
  { engine with
    synSources := engine.synSources.insert key { source with lastActivity := now }
    synSourceLru := key :: engine.synSourceLru.erase key }

def synSourcePruneBudget : Nat := 4

/-- An expired source that still holds half-open state is refreshed instead of
evicted, so that it cannot block the cleanup behind it. -/
def pruneExpiredSynSources (engine : Engine) (now : Nat) : (budget : Nat) → Engine
  | 0 => engine
  | budget + 1 =>
    match engine.synSourceLru.getLast? with
    | none => engine
    | some key =>
      let rest := engine.synSourceLru.dropLast
      match engine.synSources.lookup key with
      | none => pruneExpiredSynSources { engine with synSourceLru := rest } now budget
      | some source =>
        if now < source.lastActivity + engine.opts.synSourceLedgerTtl then engine
        else if source.halfOpen = 0 then
          pruneExpiredSynSources
            { engine with synSources := engine.synSources.erase key, synSourceLru := rest } now budget
        else pruneExpiredSynSources (engine.touchSynSource key source now) now budget

def lookupOrCreateSynSource (key : SynSourceKey) (now : Nat) :
    Engine × Except Reason SynSourceState :=
  let engine := engine.pruneExpiredSynSources now synSourcePruneBudget
  match engine.synSources.lookup key with
  | some source => (engine.touchSynSource key source now, .ok { source with lastActivity := now })
  | none =>
    if engine.synSources.keys.length ≥ engine.opts.synSourceLedgerCapacity then
      (engine, .error .synSourceLedgerCapacity)
    else
      let source : SynSourceState := ⟨{ lastRefill := engine.admissionEpoch }, 0, now⟩
      ({ engine with
        synSources := engine.synSources.insert key source
        synSourceLru := key :: engine.synSourceLru }, .ok source)

/-- The global token is spent before any source work and never refunded. -/
def observeSyn (now : Nat) : Engine × Except Reason SynSourceKey :=
  let global := engine.globalSyns.refill now engine.opts.synRateInterval engine.opts.synBurst
  if global.tokens = 0 then ({ engine with globalSyns := global }, .error .synRateGlobal)
  else
    let engine := { engine with globalSyns := { global with tokens := global.tokens - 1 } }
    let key : SynSourceKey := ⟨flow.remoteIpv4, flow.underlayIndex⟩
    match engine.lookupOrCreateSynSource key now with
    | (engine, .error reason) => (engine, .error reason)
    | (engine, .ok source) =>
      let bucket := source.bucket.refill now engine.opts.synRateInterval engine.opts.synBurstPerSource
      if bucket.tokens = 0 then
        ({ engine with synSources := engine.synSources.insert key { source with bucket } },
          .error .synRateSource)
      else
        let spent := { bucket with tokens := bucket.tokens - 1 }
        ({ engine with synSources := engine.synSources.insert key { source with bucket := spent } }, .ok key)

def reserveInboundHalfOpen (key : SynSourceKey) : Except Reason Engine :=
  if engine.halfOpen ≥ engine.opts.maxHalfOpenSessions then .error .halfOpenCapacity
  else
    match engine.synSources.lookup key with
    | none => .error .synSourceLedgerMissing
    | some source =>
      if source.halfOpen ≥ engine.opts.maxHalfOpenPerSource then .error .halfOpenSourceCapacity
      else .ok { engine with
        synSources := engine.synSources.insert key { source with halfOpen := source.halfOpen + 1 }
        halfOpen := engine.halfOpen + 1 }

/-- Tokens and ledger history survive the release of half-open state. -/
def releaseHalfOpen (releasedAt : Nat) : Engine :=
  if session.halfOpenHeld = false then engine
  else
    let engine := { engine with halfOpen := engine.halfOpen - 1 }
    if session.synSource.remoteIpv4 = 0 then engine
    else
      match engine.synSources.lookup session.synSource with
      | none => engine
      | some source => engine.touchSynSource session.synSource
          { source with halfOpen := source.halfOpen - 1 } releasedAt

end SynAdmission

section Queues

/-- `none` when one of the three pending limits refuses the packet. -/
def enqueue (packet : PendingPacket) : Option (Engine × Session) :=
  if packet.data.length = 0 ∨ session.pending.length ≥ engine.opts.maxPendingPacketsPerFlow ∨
      engine.pendingBytes + packet.data.length > engine.opts.maxPendingBytes then none
  else if session.pending = [] ∧ engine.pendingFlows ≥ engine.opts.maxPendingFlows then none
  else some (
    { engine with
      pendingFlows := if session.pending = [] then engine.pendingFlows + 1 else engine.pendingFlows
      pendingBytes := engine.pendingBytes + packet.data.length },
    { session with
      pending := session.pending ++ [packet]
      pendingBytes := session.pendingBytes + packet.data.length })

def release : Engine × Session × List Action :=
  if session.pending = [] then (engine, session, [])
  else (
    { engine with
      pendingFlows := engine.pendingFlows - 1
      pendingBytes := engine.pendingBytes - session.pendingBytes },
    { session with pending := [], pendingBytes := 0 },
    [.releasePending flow session.wgId session.pending])

def remove : Engine :=
  let engine := engine.releaseHalfOpen session (turn.releasedAt flow)
  let engine := if session.pending = [] then engine else
    { engine with
      pendingFlows := engine.pendingFlows - 1
      pendingBytes := engine.pendingBytes - session.pendingBytes }
  { engine with sessions := engine.sessions.erase flow }

def control (flags : UInt8) (seq ack : UInt32) (reason : Reason) : Action :=
  .sendControl flow session.wgId ⟨flags, seq, ack, engine.opts.window⟩ reason

def controlEstablished (value : SessionValue) (flags : UInt8) (seq ack : UInt32) (reason : Reason) : Action :=
  let window := if value.window = 0 then engine.opts.window else value.window
  .sendControl flow session.wgId ⟨flags, seq, ack, window⟩ reason

end Queues

section Store

/-- The entry of a session that has just been established. -/
def establishedValue (nowMonotonic sessionId : UInt64) : SessionValue where
  generation := flow.generation
  lastSeenNanos := nowMonotonic
  txSequence := session.txSequence
  rxSequence := session.rxSequence
  localIsn := session.localIsn
  remoteIsn := session.remoteIsn
  window := engine.opts.window
  state := session.state
  revision := 1
  sessionId := sessionId
  runtimeIncarnation := engine.identity.incarnation

/-- A session without an identifier draws one. When the insert fails the caller puts back the session as it was
before, without it. -/
def insertEstablished : Session × Option EngineError :=
  match turn.monotonic with
  | none => (session, some .clock)
  | some nowMonotonic =>
    match (if session.sessionId = 0 then turn.sessionId else some session.sessionId) with
    | none => ({ session with sessionId := 0 }, some .sessionIds)
    | some sessionId =>
      ({ session with sessionId },
        if turn.insert flow (engine.establishedValue flow session nowMonotonic sessionId) then none else some .store)

/-- A found value refreshes the session's sequence snapshot. -/
def lookupEstablished : Except EngineError (Option (SessionValue × Session)) :=
  match turn.lookup flow with
  | none => .error .store
  | some none => .ok none
  | some (some value) =>
    if value.generation ≠ flow.generation ∨ value.state ≠ .established then .error .sessionGeneration
    else if value.localIsn ≠ session.localIsn ∨ value.remoteIsn ≠ session.remoteIsn then
      .error .sessionIdentity
    else if value.sessionId ≠ session.sessionId ∨
        value.runtimeIncarnation ≠ engine.identity.incarnation then .error .sessionIncarnation
    else .ok (some (value,
      { session with txSequence := value.txSequence, rxSequence := value.rxSequence }))

/-- The only transition into a pending delete; `none` is the store's error. -/
def compareDeleteEstablished (request : PendingDelete) : Session × Option SessionDeleteResult :=
  match turn.delete flow request.expected with
  | none => ({ session with pendingDelete := some request }, none)
  | some result => ({ session with pendingDelete := none }, some result)

def retryPendingDelete (request : PendingDelete) : Outcome :=
  match compareDeleteEstablished turn flow session request with
  | (session, none) =>
    ⟨engine.setSession flow session, [.drop flow .sessionStoreUnavailable], some .store⟩
  | (session, some .different) => ⟨engine.setSession flow session, [.drop flow .fastSessionRaced], none⟩
  | (session, some _) => ⟨engine.remove turn flow session, [.close flow request.reason], none⟩

end Store

section Outbound

/-- An established flow forwards, or releases a capture at once. -/
def outboundEstablished (packet : PendingPacket) (alreadyDropped : Bool) : Outcome :=
  match session.pendingDelete with
  | some request => engine.retryPendingDelete turn flow session request
  | none =>
    if packet.wgId ≠ 0 ∧ session.wgId ≠ 0 ∧ packet.wgId ≠ session.wgId then
      ⟨engine, [.drop flow .wgIdMismatch], none⟩
    else
      let session := if session.wgId = 0 then { session with wgId := packet.wgId } else session
      match engine.lookupEstablished turn flow session with
      | .error cause => ⟨engine.setSession flow session, [.drop flow .sessionStoreUnavailable], some cause⟩
      | .ok none => ⟨engine.remove turn flow session, [.close flow .fastSessionMissing], none⟩
      | .ok (some (_, session)) =>
        let session := { session with nextKeepalive := turn.now + engine.opts.keepaliveInterval }
        ⟨engine.setSession flow session,
          if alreadyDropped then [.releasePending flow session.wgId [packet]] else [.forward flow], none⟩

def queueOutbound (packet : PendingPacket) (created : Bool) : Outcome :=
  if session.wgId ≠ 0 ∧ packet.wgId ≠ 0 ∧ packet.wgId ≠ session.wgId then
    ⟨engine.setSession flow session, [.drop flow .wgIdMismatch], none⟩
  else
    let session := if session.wgId = 0 then { session with wgId := packet.wgId } else session
    let handshake := if created then
      [engine.control flow session flagSyn session.localIsn 0 .initialHandshake] else []
    match engine.enqueue session packet with
    | some (engine, session) => ⟨engine.setSession flow session, handshake, none⟩
    | none => ⟨engine.setSession flow session, handshake ++ [.drop flow .pendingCapacity], none⟩

def outbound (packet : PendingPacket) (alreadyDropped : Bool) : Outcome :=
  if engine.validateFlow flow = false then ⟨engine, [], some .flow⟩
  else if packet.wgId ≠ flow.wgId then ⟨engine, [.drop flow .wgIdMismatch], none⟩
  else
    match engine.sessions.lookup flow with
    | some session =>
      if session.state = .established then
        engine.outboundEstablished turn flow session packet alreadyDropped
      else engine.queueOutbound flow session packet false
    | none =>
      if engine.sessions.keys.length ≥ engine.opts.sessionCapacity then
        ⟨engine, [.drop flow .sessionCapacity], none⟩
      else if engine.halfOpen ≥ engine.opts.maxHalfOpenSessions then
        ⟨engine, [.drop flow .halfOpenCapacity], none⟩
      else
        let session : Session := {
          state := .synSent
          wgId := packet.wgId
          localIsn := turn.initialSequence
          txSequence := turn.initialSequence + 1
          lastActivity := turn.now
          nextRetry := turn.now + engine.opts.handshakeTimeout
          retries := 1
          halfOpenHeld := true }
        { engine with halfOpen := engine.halfOpen + 1 }.queueOutbound flow session packet true

def handleOwnedCapturedPacket (event : Event) (packet : Bytes) (fingerprint : Digest) : Outcome :=
  if event.type ≠ EventType.needHandshake.code then ⟨engine, [], some .eventType⟩
  else if packet.length = 0 ∨ packet.length ≠ event.packetLength.toNat ∨
      packet.length > maxCapturedPacket then ⟨engine, [], some .packetLength⟩
  else if event.eventAbiVersion ≠ Bpf.eventAbiVersion then ⟨engine, [], some .eventAbi⟩
  else if runtimeIdentityFromEvent event ≠ engine.identity then ⟨engine, [], some .identity⟩
  else
    match validateCaptureIdentity (captureIdentityFromEvent event) event.key.generation with
    | .error cause => ⟨engine, [], some (.captureIdentity cause)⟩
    | .ok () => engine.outbound turn event.key {
        data := packet
        fwmark := event.fwmark
        wgId := event.wgId
        captureNanos := event.timestampNanos
        captureId := captureIdentityFromEvent event
        captureFingerprint := fingerprint } true

end Outbound

section Inbound

structure Checkpoint where
  session : Option Session
  pendingFlows : Int
  pendingBytes : Int

def checkpoint (session : Option Session) : Checkpoint :=
  ⟨session, engine.pendingFlows, engine.pendingBytes⟩

/-- Half-open and SYN accounting are not part of a checkpoint. -/
def restore (checkpoint : Checkpoint) : Engine :=
  { engine with
    pendingFlows := checkpoint.pendingFlows
    pendingBytes := checkpoint.pendingBytes
    sessions := match checkpoint.session with
      | none => engine.sessions.erase flow
      | some session => engine.sessions.insert flow session }

/-- A segment for a flow without a session: only a bare SYN that was admitted
above opens one. -/
def inboundUnknown (segment : Segment) (wgId : UInt32) (synSource : SynSourceKey) : Outcome :=
  if segment.flags ≠ flagSyn then ⟨engine, [.drop flow .unknownFlow], none⟩
  else if engine.sessions.keys.length ≥ engine.opts.sessionCapacity then
    ⟨engine, [.drop flow .sessionCapacity], none⟩
  else
    match engine.reserveInboundHalfOpen synSource with
    | .error reason => ⟨engine, [.drop flow reason], none⟩
    | .ok engine =>
      let session : Session := {
        state := .synRecv
        wgId := wgId
        localIsn := turn.initialSequence
        remoteIsn := segment.sequence
        txSequence := turn.initialSequence + 1
        rxSequence := segment.sequence + 1
        lastActivity := turn.now
        nextRetry := turn.now + engine.opts.handshakeTimeout
        retries := 1
        halfOpenHeld := true
        synSource := synSource }
      ⟨engine.setSession flow session,
        [engine.control flow session (flagSyn ||| flagAck) session.localIsn session.rxSequence .acceptSyn], none⟩

/-- The segment that completes a session's handshake. -/
def completes (segment : Segment) : Bool :=
  match session.state with
  | .synSent => segment.flags &&& (flagSyn ||| flagAck) = flagSyn ||| flagAck ∧
      segment.acknowledgement = session.txSequence
  | .synRecv => ¬(segment.flags = flagSyn ∧ segment.sequence = session.remoteIsn) ∧
      segment.flags &&& flagAck ≠ 0 ∧ segment.acknowledgement = session.txSequence
  | _ => false

/-- The session on completion; a SYN+ACK also brings the peer's number. -/
def completed (segment : Segment) : Session :=
  match session.state with
  | .synSent => { session with
      remoteIsn := segment.sequence
      rxSequence := segment.sequence + 1
      state := .established }
  | _ => { session with state := .established }

/-- Only the side that sent the SYN answers a completed handshake. -/
def completionAck (before session : Session) : List Action :=
  if before.state = .synSent then
    [engine.control flow session flagAck session.txSequence session.rxSequence .completeHandshake]
  else []

/-- The queue is released before the insert; a failed insert restores both. -/
def completeHandshake (segment : Segment) (checkpoint : Checkpoint) : Outcome :=
  let established := completed session segment
  let acked := engine.completionAck flow session established
  let released := engine.release flow established
  match released.1.insertEstablished turn flow released.2.1 with
  | (_, some cause) =>
    ⟨released.1.restore flow checkpoint, [.drop flow .sessionStoreUnavailable], some cause⟩
  | (stored, none) =>
    ⟨(released.1.releaseHalfOpen stored (turn.releasedAt flow)).setSession flow
      { stored with halfOpenHeld := false }, acked ++ released.2.2, none⟩

/-- The switch on the state of a known session that does not complete. -/
def inboundKnown (segment : Segment) (checkpoint : Checkpoint) : Outcome :=
  if completes session segment then engine.completeHandshake turn flow session segment checkpoint
  else
    match session.state with
    | .synSent =>
      if segment.flags = flagSyn then
        let session := { session with
          remoteIsn := segment.sequence
          rxSequence := segment.sequence + 1
          state := .synRecv }
        ⟨engine.setSession flow session, [engine.control flow session (flagSyn ||| flagAck)
          session.localIsn session.rxSequence .simultaneousOpen], none⟩
      else ⟨engine.setSession flow session, [.drop flow .invalidSynSentSegment], none⟩
    | .synRecv =>
      if segment.flags = flagSyn ∧ segment.sequence = session.remoteIsn then
        ⟨engine.setSession flow session, [engine.control flow session (flagSyn ||| flagAck)
          session.localIsn session.rxSequence .duplicateSyn], none⟩
      else ⟨engine.setSession flow session, [.drop flow .invalidSynReceivedSegment], none⟩
    | .established =>
      if segment.flags &&& flagSyn ≠ 0 then
        ⟨engine.setSession flow session, [.drop flow .synOnEstablished], none⟩
      else
        match engine.lookupEstablished turn flow session with
        | .error cause =>
          ⟨engine.restore flow checkpoint, [.drop flow .sessionStoreUnavailable], some cause⟩
        | .ok none => ⟨engine.remove turn flow session, [.close flow .fastSessionMissing], none⟩
        | .ok (some (_, session)) => ⟨engine.setSession flow session, [.forward flow], none⟩
    | _ => ⟨engine.setSession flow session, [.drop flow .invalidState], none⟩

/-- After SYN admission. A close is honoured only before establishment. -/
def inboundAdmitted (segment : Segment) (wgId : UInt32) (synSource : SynSourceKey) (session : Option Session)
    (checkpoint : Checkpoint) : Outcome :=
  match session with
  | none =>
    if segment.flags &&& (flagRst ||| flagFin) ≠ 0 then ⟨engine, [.drop flow .unknownClose], none⟩
    else engine.inboundUnknown turn flow segment wgId synSource
  | some session =>
    if wgId ≠ 0 ∧ session.wgId ≠ 0 ∧ wgId ≠ session.wgId then ⟨engine, [.drop flow .wgIdMismatch], none⟩
    else if segment.flags &&& (flagRst ||| flagFin) ≠ 0 then
      if session.state = .established then ⟨engine, [.drop flow .unvalidatedClose], none⟩
      else ⟨engine.remove turn flow session, [.close flow .peerClose], none⟩
    else
      let session := { session with
        wgId := if session.wgId = 0 then wgId else session.wgId
        lastActivity := turn.now
        nextKeepalive := turn.now + engine.opts.keepaliveInterval }
      engine.inboundKnown turn flow session segment checkpoint

def inbound (segment : Segment) (wgId : UInt32) : Outcome :=
  if engine.validateFlow flow = false then ⟨engine, [], some .flow⟩
  else if wgId ≠ flow.wgId then ⟨engine, [.drop flow .wgIdMismatch], none⟩
  else
    let found := engine.sessions.lookup flow
    let checkpoint := engine.checkpoint found
    match found.bind fun session => session.pendingDelete.map fun request => (session, request) with
    | some (session, request) => engine.retryPendingDelete turn flow session request
    | none =>
      if segment.flags = flagSyn then
        match engine.observeSyn flow turn.now with
        | (engine, .error reason) => ⟨engine, [.drop flow reason], none⟩
        | (engine, .ok synSource) => engine.inboundAdmitted turn flow segment wgId synSource found checkpoint
      else engine.inboundAdmitted turn flow segment wgId {} found checkpoint

end Inbound

section CapturedControl

def validateEstablishedSessionValue (value : SessionValue) (generation : UInt64) : Bool :=
  value.generation = generation ∧ value.state = .established ∧ value.flags = 0 ∧
    value.pad = FixedBytes.zero 4 ∧ value.kernelReserved = 0 ∧ value.revision ≠ 0 ∧
    value.sessionId ≠ 0 ∧ value.runtimeIncarnation ≠ FixedBytes.zero 16

def controlPacketLength : Nat := 40

/-- The userspace half of the close test, independent of the packet program's;
every failure has the same effect. -/
def validateIPv4TCPControl (packet : Bytes) (event : Event) (session : SessionValue) : Bool :=
  let flow := event.key
  let tcp : Bytes := packet.drop 20
  let flags := tcp.byteAt 13
  validateRuntimeIdentity (runtimeIdentityFromEvent event) = .ok () ∧
    event.eventAbiVersion = Bpf.eventAbiVersion ∧
    (event.type = EventType.rst.code ∨ event.type = EventType.fin.code) ∧
    validatePacketFlow flow = .ok () ∧ validateEstablishedSessionValue session flow.generation ∧
    session.window ≠ 0 ∧ event.sessionRevision = session.revision ∧
    event.sessionId = session.sessionId ∧ event.runtimeIncarnation = session.runtimeIncarnation ∧
    packet.length = controlPacketLength ∧ (packet.byteAt 0).toNat / 16 = 4 ∧
    (packet.byteAt 0).toNat % 16 * 4 = 20 ∧ packet.be16 2 = packet.length ∧
    packet.be16 6 &&& 0xbfff = 0 ∧ packet.byteAt 9 = 6 ∧ checksumValid (packet.take 20) ∧
    packet.le32 12 = flow.remoteIpv4 ∧ packet.le32 16 = flow.localIpv4 ∧ tcp.byteAt 12 = 0x50 ∧
    tcp.be16 0 = flow.remotePort.toNat ∧ tcp.be16 2 = flow.localPort.toNat ∧
    transportChecksumValid (packet.slice 12 8) 6 tcp ∧
    (flags = flagRst ||| flagAck ∨ flags = flagFin ||| flagAck) ∧ tcp.be16 18 = 0 ∧
    UInt32.ofNat (tcp.be32 4) = session.rxSequence ∧ UInt32.ofNat (tcp.be32 8) = session.txSequence ∧
    UInt16.ofNat (tcp.be16 14) = session.window ∧ flags = event.tcpFlags ∧
    UInt32.ofNat (tcp.be32 4) = event.sequence ∧ UInt32.ofNat (tcp.be32 8) = event.acknowledgement ∧
    (event.type = EventType.rst.code → flags = flagRst ||| flagAck) ∧
    (event.type = EventType.fin.code → flags = flagFin ||| flagAck)

def inboundCapturedControl (event : Event) (packet : Bytes) : Outcome :=
  let flow := event.key
  if engine.validateFlow flow = false then ⟨engine, [], some .flow⟩
  else if event.wgId ≠ flow.wgId then ⟨engine, [.drop flow .wgIdMismatch], none⟩
  else if runtimeIdentityFromEvent event ≠ engine.identity ∨
      event.eventAbiVersion ≠ Bpf.eventAbiVersion then ⟨engine, [], some .identity⟩
  else if event.type ≠ EventType.rst.code ∧ event.type ≠ EventType.fin.code then
    ⟨engine, [], some .eventType⟩
  else if event.packetLength.toNat ≠ packet.length % 65536 ∨ packet.length ≠ controlPacketLength ∨
      event.payloadLength ≠ 0 ∨ event.captureSequence ≠ 0 ∨ event.captureCpu ≠ 0 ∨ event.fwmark ≠ 0 then
    ⟨engine, [.drop flow .invalidCloseEnvelope], none⟩
  else
    match engine.sessions.lookup flow with
    | none => ⟨engine, [.drop flow .unknownClose], none⟩
    | some session =>
      if event.wgId = 0 ∨ session.wgId = 0 ∨ event.wgId ≠ session.wgId then
        ⟨engine, [.drop flow .wgIdMismatch], none⟩
      else
        match session.pendingDelete with
        | some request => engine.retryPendingDelete turn flow session request
        | none =>
          if session.state ≠ .established then ⟨engine, [.drop flow .unvalidatedClose], none⟩
          else
            match engine.lookupEstablished turn flow session with
            | .error cause => ⟨engine, [.drop flow .sessionStoreUnavailable], some cause⟩
            | .ok none => ⟨engine, [.drop flow .fastSessionMissing], none⟩
            | .ok (some (value, session)) =>
              if validateIPv4TCPControl packet event value = false then
                ⟨engine.setSession flow session, [.drop flow .invalidCloseControl], none⟩
              else
                match compareDeleteEstablished turn flow session ⟨value, .peerClose⟩ with
                | (session, none) =>
                  ⟨engine.setSession flow session, [.drop flow .sessionStoreUnavailable], some .store⟩
                | (session, some .different) =>
                  ⟨engine.setSession flow session, [.drop flow .fastSessionRaced], none⟩
                | (session, some _) => ⟨engine.remove turn flow session, [.close flow .peerClose], none⟩

end CapturedControl

section Tick

/-- A half-open session at its retry time. -/
def tickHalfOpen : Outcome :=
  if turn.now < session.nextRetry then ⟨engine, [], none⟩
  else if session.retries ≥ engine.opts.handshakeRetries then
    ⟨engine.remove turn flow session, [.close flow .handshakeTimeout], none⟩
  else
    let session := { session with
      retries := session.retries + 1
      nextRetry := turn.now + engine.opts.handshakeTimeout }
    let flags := if session.state = .synRecv then flagSyn ||| flagAck else flagSyn
    let ack := if session.state = .synRecv then session.rxSequence else 0
    ⟨engine.setSession flow session,
      [engine.control flow session flags session.localIsn ack .handshakeRetry], none⟩

def tickEstablished (nowMonotonic : UInt64) (flow : SessionKey) (session : Session) : Outcome :=
  match session.pendingDelete with
  | some request => engine.retryPendingDelete turn flow session request
  | none =>
    match engine.lookupEstablished turn flow session with
    | .error cause => ⟨engine, [.drop flow .sessionStoreUnavailable], some cause⟩
    | .ok none => ⟨engine.remove turn flow session, [.close flow .fastSessionMissing], none⟩
    | .ok (some (value, session)) =>
      if value.lastSeenNanos ≤ nowMonotonic ∧
          (nowMonotonic - value.lastSeenNanos).toNat ≥ engine.opts.idleTimeout then
        match compareDeleteEstablished turn flow session ⟨value, .idleTimeout⟩ with
        | (session, none) =>
          ⟨engine.setSession flow session, [.drop flow .sessionStoreUnavailable], some .store⟩
        | (session, some .different) => ⟨engine.setSession flow session, [], none⟩
        | (session, some _) => ⟨engine.remove turn flow session, [.close flow .idleTimeout], none⟩
      else if session.nextKeepalive ≤ turn.now then
        let session := { session with nextKeepalive := turn.now + engine.opts.keepaliveInterval }
        ⟨engine.setSession flow session, [engine.controlEstablished flow session value flagAck
          (value.txSequence - 1) value.rxSequence .keepalive], none⟩
      else ⟨engine.setSession flow session, [], none⟩

def tickSession (nowMonotonic : UInt64) (flow : SessionKey) : Outcome :=
  match engine.sessions.lookup flow with
  | none => ⟨engine, [], none⟩
  | some session =>
    match session.state with
    | .synSent | .synRecv => engine.tickHalfOpen turn flow session
    | .established => engine.tickEstablished turn nowMonotonic flow session
    | _ => ⟨engine, [], none⟩

/-- Errors of single sessions do not stop the sweep. -/
def sweep (turn : Turn) (nowMonotonic : UInt64) : Engine → List SessionKey → Outcome
  | engine, [] => ⟨engine, [], none⟩
  | engine, flow :: rest =>
    let first := engine.tickSession turn nowMonotonic flow
    let others := sweep turn nowMonotonic first.engine rest
    ⟨others.engine, first.actions ++ others.actions, first.error.orElse fun _ => others.error⟩

def tick : Outcome :=
  match turn.monotonic with
  | none => ⟨engine, [], some .clock⟩
  | some nowMonotonic => sweep turn nowMonotonic engine (turn.order engine.sessions.keys)

end Tick

end Engine
end WgMix.FakeTcp
