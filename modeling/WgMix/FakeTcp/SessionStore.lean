import WgMix.Bpf.SessionClaim
import WgMix.FakeTcp.Engine

/-! The Linux session store over one kernel map. Packet programs write entries
between any two steps of a store call; a log keeps what happened to the map. -/
namespace WgMix.FakeTcp
open Bpf

/-- One run of a packet program that tries to move an entry. -/
structure PacketWrite where
  key : SessionKey
  generation : UInt64
  now : UInt64
  operation : SessionMutation
  argument : UInt32
  authority : SessionAuthority
  projection : SessionProjection

inductive StoreEvent where
  | inserted (key : SessionKey) (value : SessionValue)
  | looked (key : SessionKey) (value : SessionValue)
  | mutated (key : SessionKey)
  | claimed (key : SessionKey) (expected : SessionValue)
  | removed (key : SessionKey) (expected : SessionValue)
  deriving DecidableEq

def StoreEvent.key : StoreEvent → SessionKey
  | .inserted key _ | .looked key _ | .mutated key | .claimed key _ | .removed key _ => key

/-- A kernel call that may fail: refused before, or lost after, its effect. -/
inductive Fate where
  | done
  | refused
  | lost
  deriving DecidableEq, Repr

/-- The session map with the log of its changes and of the store's lookups. -/
structure SessionLedger where
  sessions : SessionMap
  history : List StoreEvent := []

namespace SessionLedger
variable (ledger : SessionLedger)

def note (event : StoreEvent) : SessionLedger := { ledger with history := ledger.history ++ [event] }

def write (packet : PacketWrite) : SessionLedger :=
  match ledger.sessions packet.key with
  | none => ledger
  | some session =>
    match session.mutate packet.generation packet.now packet.operation packet.argument
        packet.authority packet.projection with
    | none => ledger
    | some (session, _) =>
      { ledger with sessions := Function.update ledger.sessions packet.key (some session) }.note
        (.mutated packet.key)

def writes (packets : List PacketWrite) : SessionLedger := packets.foldl write ledger

def claim (key : SessionKey) (expected : SessionValue) : SessionLedger × ClaimResult :=
  match sessionClaim ledger.sessions key expected with
  | (sessions, .claimed) => ({ ledger with sessions }.note (.claimed key expected), .claimed)
  | (sessions, result) => ({ ledger with sessions }, result)

def remove (key : SessionKey) (expected : SessionValue) : SessionLedger :=
  { ledger with sessions := Function.update ledger.sessions key none }.note (.removed key expected)

end SessionLedger

def validateBoundSessionKey (key : SessionKey) (generation : UInt64) : Bool :=
  key.generation = generation ∧ key.localIpv4 ≠ 0 ∧ key.remoteIpv4 ≠ 0 ∧ key.underlayIndex ≠ 0 ∧
    key.localPort ≠ 0 ∧ key.remotePort ≠ 0 ∧ key.wgId ≠ 0 ∧ key.pad = FixedBytes.zero 4

/-- What the kernel answers during the store calls of one engine call, and what
the packet programs do meanwhile. A binding check has no effect, so it either
passes or not. -/
structure StoreScript where
  beforeAccess : List PacketWrite := []
  storeBound : Bool := true
  lookup : Bool := true
  insert : Fate := .done
  claimBound : Bool := true
  beforeClaim : List PacketWrite := []
  claim : Fate := .done
  reclaimBound : Bool := true
  beforeDelete : List PacketWrite := []
  delete : Fate := .done
  deriving Inhabited

namespace SessionLedger
variable (ledger : SessionLedger) (generation : UInt64)

def lookupEstablished (key : SessionKey) (script : StoreScript) : Option (Option SessionValue) :=
  if validateBoundSessionKey key generation = false ∨ script.storeBound = false ∨ script.lookup = false then
    none
  else
    match ledger.sessions key with
    | none => some none
    | some value =>
      if Engine.validateEstablishedSessionValue value generation then some (some value) else none

/-- The answer says whether the engine is told of a success. -/
def insertEstablished (key : SessionKey) (value : SessionValue) (script : StoreScript) :
    SessionLedger × Bool :=
  if validateBoundSessionKey key generation = false ∨
      Engine.validateEstablishedSessionValue value generation = false ∨ script.storeBound = false ∨
      (ledger.sessions key).isSome ∨ script.insert = .refused then (ledger, false)
  else
    ({ ledger with sessions := Function.update ledger.sessions key (some value) }.note (.inserted key value),
      script.insert = .done)

/-- The reclaim of a tombstone. The kernel refuses to delete what is not there. -/
def deleteSession (key : SessionKey) (expected : SessionValue) (script : StoreScript) :
    SessionLedger × Option SessionDeleteResult :=
  let ledger := ledger.writes script.beforeDelete
  if script.reclaimBound = false ∨ script.delete = .refused ∨ (ledger.sessions key).isNone then (ledger, none)
  else (ledger.remove key expected, if script.delete = .done then some .removed else none)

/-- `CompareDeleteEstablished`, with `none` for an error. -/
def compareDeleteEstablished (key : SessionKey) (expected : SessionValue) (script : StoreScript) :
    SessionLedger × Option SessionDeleteResult :=
  if validateBoundSessionKey key expected.generation = false ∨
      Engine.validateEstablishedSessionValue expected key.generation = false ∨
      script.claimBound = false then (ledger, none)
  else
    let ledger := ledger.writes script.beforeClaim
    match script.claim with
    | .refused => (ledger, none)
    | .lost => ((ledger.claim key expected).1, none)
    | .done =>
      match ledger.claim key expected with
      | (ledger, .absent) => (ledger, some .absent)
      | (ledger, .different) => (ledger, some .different)
      | (ledger, .malformed) => (ledger, none)
      | (ledger, .claimed) => ledger.deleteSession key expected script

def deleteEstablishedIfUnchanged (key : SessionKey) (expected : SessionValue) (script : StoreScript) :
    SessionLedger × Option SessionDeleteResult :=
  if validateBoundSessionKey key generation = false ∨
      Engine.validateEstablishedSessionValue expected generation = false ∨ script.storeBound = false then
    (ledger, none)
  else ledger.compareDeleteEstablished key expected script

end SessionLedger

/-- The engine calls that reach the store; `tick` is one session of a sweep. -/
inductive EngineCall where
  | outbound (flow : SessionKey) (packet : PendingPacket) (alreadyDropped : Bool)
  | inbound (flow : SessionKey) (segment : Segment) (wgId : UInt32)
  | control (event : Event) (packet : Bytes)
  | tick (flow : SessionKey) (nowMonotonic : UInt64)

/-- The store operations one engine call makes, in order. -/
inductive StoreUse where
  | idle
  | looks
  | deletes (request : PendingDelete)
  | retries (request : PendingDelete)
  | inserts (value : SessionValue)

namespace Engine
variable (engine : Engine) (turn : Turn)

/-- A lookup, after which a found value may be deleted. -/
def lookUse (flow : SessionKey) (session : Session) (wants : SessionValue → Option PendingDelete) : StoreUse :=
  match engine.lookupEstablished turn flow session with
  | .ok (some (value, _)) => (wants value).elim .looks .deletes
  | _ => .looks

def insertUse (flow : SessionKey) (session : Session) : StoreUse :=
  match turn.monotonic, if session.sessionId = 0 then turn.sessionId else some session.sessionId with
  | some nowMonotonic, some sessionId =>
    .inserts (engine.establishedValue flow session nowMonotonic sessionId)
  | _, _ => .idle

def outboundUse (flow : SessionKey) (packet : PendingPacket) : StoreUse :=
  if engine.validateFlow flow = false ∨ packet.wgId ≠ flow.wgId then .idle
  else
    match engine.sessions.lookup flow with
    | none => .idle
    | some session =>
      if session.state ≠ .established then .idle
      else
        match session.pendingDelete with
        | some request => .retries request
        | none =>
          if packet.wgId ≠ 0 ∧ session.wgId ≠ 0 ∧ packet.wgId ≠ session.wgId then .idle else .looks

def inboundUse (flow : SessionKey) (segment : Segment) (wgId : UInt32) : StoreUse :=
  if engine.validateFlow flow = false ∨ wgId ≠ flow.wgId then .idle
  else
    match engine.sessions.lookup flow with
    | none => .idle
    | some session =>
      match session.pendingDelete with
      | some request => .retries request
      | none =>
        if (segment.flags = flagSyn ∧ (engine.observeSyn flow turn.now).2.isOk = false) ∨
            (wgId ≠ 0 ∧ session.wgId ≠ 0 ∧ wgId ≠ session.wgId) ∨
            segment.flags &&& (flagRst ||| flagFin) ≠ 0 then .idle
        else if completes session segment then engine.insertUse turn flow (completed session segment)
        else if session.state = .established ∧ segment.flags &&& flagSyn = 0 then .looks
        else .idle

/-- The checks a captured close must pass before its session is looked at. -/
def closeRefused (event : Event) (packet : Bytes) : Bool :=
  engine.validateFlow event.key = false ∨ event.wgId ≠ event.key.wgId ∨
    (runtimeIdentityFromEvent event ≠ engine.identity ∨ event.eventAbiVersion ≠ Bpf.eventAbiVersion) ∨
    (event.type ≠ EventType.rst.code ∧ event.type ≠ EventType.fin.code) ∨
    (event.packetLength.toNat ≠ packet.length % 65536 ∨ packet.length ≠ controlPacketLength ∨
      event.payloadLength ≠ 0 ∨ event.captureSequence ≠ 0 ∨ event.captureCpu ≠ 0 ∨ event.fwmark ≠ 0)

def controlUse (event : Event) (packet : Bytes) : StoreUse :=
  if engine.closeRefused event packet then .idle
  else
    match engine.sessions.lookup event.key with
    | none => .idle
    | some session =>
      if event.wgId = 0 ∨ session.wgId = 0 ∨ event.wgId ≠ session.wgId then .idle
      else
        match session.pendingDelete with
        | some request => .retries request
        | none =>
          if session.state ≠ .established then .idle
          else engine.lookUse turn event.key session fun value =>
            if validateIPv4TCPControl packet event value then some ⟨value, .peerClose⟩ else none

def tickUse (nowMonotonic : UInt64) (flow : SessionKey) : StoreUse :=
  match engine.sessions.lookup flow with
  | none => .idle
  | some session =>
    if session.state ≠ .established then .idle
    else
      match session.pendingDelete with
      | some request => .retries request
      | none => engine.lookUse turn flow session fun value =>
          if value.lastSeenNanos ≤ nowMonotonic ∧
              (nowMonotonic - value.lastSeenNanos).toNat ≥ engine.opts.idleTimeout then
            some ⟨value, .idleTimeout⟩
          else none

end Engine

/-- A turn in which deletions are answered by `answer`. -/
def Turn.deleting (turn : Turn) (answer : SessionKey → SessionValue → Option SessionDeleteResult) : Turn :=
  { turn with delete := answer }

def Turn.inserting (turn : Turn) (answer : SessionKey → SessionValue → Bool) : Turn :=
  { turn with insert := answer }

namespace EngineCall

def flow : EngineCall → SessionKey
  | .outbound flow .. | .inbound flow .. | .tick flow _ => flow
  | .control event _ => event.key

def run (engine : Engine) (turn : Turn) : EngineCall → Outcome
  | .outbound flow packet alreadyDropped => engine.outbound turn flow packet alreadyDropped
  | .inbound flow segment wgId => engine.inbound turn flow segment wgId
  | .control event packet => engine.inboundCapturedControl turn event packet
  | .tick flow nowMonotonic => engine.tickSession turn nowMonotonic flow

def use (engine : Engine) (turn : Turn) : EngineCall → StoreUse
  | .outbound flow packet _ => engine.outboundUse flow packet
  | .inbound flow segment wgId => engine.inboundUse turn flow segment wgId
  | .control event packet => engine.controlUse turn event packet
  | .tick flow nowMonotonic => engine.tickUse turn nowMonotonic flow

end EngineCall

/-- One engine on the only store of its collection, bound to `generation`. -/
structure StoreWorld where
  generation : UInt64
  engine : Engine
  ledger : SessionLedger

inductive StoreInput where
  | packet (write : PacketWrite)
  | call (turn : Turn) (call : EngineCall) (script : StoreScript)

namespace StoreWorld
variable (world : StoreWorld)

/-- The map when the call reaches the store. -/
def reached (script : StoreScript) : SessionLedger := world.ledger.writes script.beforeAccess

/-- The call's turn, with lookups answered by the store. -/
def asking (turn : Turn) (script : StoreScript) : Turn :=
  { turn with lookup := fun key => (world.reached script).lookupEstablished world.generation key script }

/-- The ledger once the call's lookup is over. -/
def looked (flow : SessionKey) (script : StoreScript) : SessionLedger :=
  match (world.reached script).lookupEstablished world.generation flow script with
  | some (some value) => (world.reached script).note (.looked flow value)
  | _ => world.reached script

def finish (ledger : SessionLedger) (outcome : Outcome) : StoreWorld :=
  { world with engine := outcome.engine, ledger := ledger }

def delete (turn : Turn) (call : EngineCall) (script : StoreScript) (ledger : SessionLedger)
    (request : PendingDelete) : StoreWorld :=
  let answer (key : SessionKey) (expected : SessionValue) :=
    ledger.deleteEstablishedIfUnchanged world.generation key expected script
  let asked := (world.asking turn script).deleting fun key expected => (answer key expected).2
  world.finish (answer call.flow request.expected).1 (call.run world.engine asked)

def insert (turn : Turn) (call : EngineCall) (script : StoreScript) (value : SessionValue) : StoreWorld :=
  let answer (key : SessionKey) (value : SessionValue) :=
    (world.reached script).insertEstablished world.generation key value script
  let asked := (world.asking turn script).inserting fun key value => (answer key value).2
  world.finish (answer call.flow value).1 (call.run world.engine asked)

def act (turn : Turn) (call : EngineCall) (script : StoreScript) : StoreWorld :=
  let asked := world.asking turn script
  match call.use world.engine asked with
  | .idle => world.finish (world.reached script) (call.run world.engine asked)
  | .looks => world.finish (world.looked call.flow script) (call.run world.engine asked)
  | .deletes request => world.delete turn call script (world.looked call.flow script) request
  | .retries request => world.delete turn call script (world.reached script) request
  | .inserts value => world.insert turn call script value

def step (world : StoreWorld) : StoreInput → StoreWorld
  | .packet write => { world with ledger := world.ledger.write write }
  | .call turn call script => world.act turn call script

end StoreWorld

section Sample

def sampleOptions : Options where
  generation := 7
  sessionCapacity := 8
  maxHalfOpenSessions := 4
  maxHalfOpenPerSource := 2
  synRateInterval := 1
  synBurst := 4
  synBurstPerSource := 2
  synSourceLedgerCapacity := 4
  synSourceLedgerTtl := 10
  maxPendingFlows := 4
  maxPendingPacketsPerFlow := 4
  maxPendingBytes := 4096
  handshakeTimeout := 10
  handshakeRetries := 3
  keepaliveInterval := 20
  idleTimeout := 60
  window := 65535

def sampleEngine : Engine where
  opts := sampleOptions
  identity := ⟨7, .fill 16 0xa5⟩
  sessions := ∅
  globalSyns := { lastRefill := 0 }
  admissionEpoch := 0
  synSources := ∅

/-- A turn at `now` on which a new session would draw `isn`. -/
def sampleTurn (now : Nat) (isn : UInt32) : Turn where
  now := now
  releasedAt := fun _ => now
  monotonic := some 1000
  initialSequence := isn
  sessionId := some 1
  insert := fun _ _ => true
  lookup := fun _ => none
  delete := fun _ _ => none
  order := id
  order_perm := fun keys => .refl keys

def samplePacket : PendingPacket where
  data := [0x45]
  wgId := 1
  captureId := ⟨⟨7, .fill 16 0xa5⟩, 0, 1⟩
  captureFingerprint := .fill 32 1

end Sample

end WgMix.FakeTcp
