import WgMix.Bpf.Maps

/-! Established session entries: the locked snapshot, the authority comparison
and the single mutation through which every packet path writes an entry. -/
namespace WgMix.Bpf

structure SessionKey where
  generation : UInt64
  localIpv4 : UInt32
  remoteIpv4 : UInt32
  underlayIndex : UInt32
  localPort : UInt16
  remotePort : UInt16
  wgId : UInt32
  pad : FixedBytes 4 := FixedBytes.zero 4
  deriving DecidableEq

/-- From 192.0.2.1:51820 on interface 2 to 198.51.100.9:40000. -/
def samplePeer : SessionKey := ⟨7, 0x010200c0, 0x096433c6, 2, 51820, 40000, 1, FixedBytes.zero 4⟩

inductive SessionState where
  | idle
  | synSent
  | synRecv
  | established
  | deleteClaimed
  deriving DecidableEq, Repr

structure SessionValue where
  generation : UInt64
  lastSeenNanos : UInt64
  txSequence : UInt32
  rxSequence : UInt32
  localIsn : UInt32
  remoteIsn : UInt32
  window : UInt16
  state : SessionState
  flags : UInt8 := 0
  pad : FixedBytes 4 := FixedBytes.zero 4
  kernelReserved : UInt32 := 0
  revision : UInt64
  sessionId : UInt64
  runtimeIncarnation : Incarnation
  deriving DecidableEq

structure SessionAuthority where
  sessionId : UInt64
  runtimeIncarnation : Incarnation
  deriving DecidableEq

structure SessionProjection where
  localIsn : UInt32
  remoteIsn : UInt32
  window : UInt16
  state : SessionState
  flags : UInt8
  deriving DecidableEq

structure SessionSnapshot where
  authority : SessionAuthority
  projection : SessionProjection
  revision : UInt64
  txSequence : UInt32
  rxSequence : UInt32

def SessionKey.valid (key : SessionKey) : Bool :=
  key.generation ≠ 0 ∧ key.localIpv4 ≠ 0 ∧ key.remoteIpv4 ≠ 0 ∧ key.underlayIndex ≠ 0 ∧
    key.localPort ≠ 0 ∧ key.remotePort ≠ 0 ∧ key.wgId ≠ 0 ∧ key.pad.aggregate = 0

namespace SessionValue

def metadataValid (session : SessionValue) (generation : UInt64) : Bool :=
  session.generation = generation ∧ session.state = .established ∧ session.flags = 0 ∧
    session.pad.aggregate = 0 ∧ session.kernelReserved = 0 ∧ session.revision ≠ 0 ∧
    session.sessionId ≠ 0 ∧ session.runtimeIncarnation.aggregate ≠ 0

def authority (session : SessionValue) : SessionAuthority :=
  ⟨session.sessionId, session.runtimeIncarnation⟩

def projection (session : SessionValue) : SessionProjection :=
  ⟨session.localIsn, session.remoteIsn, session.window, session.state, session.flags⟩

/-- A successful snapshot is the read-side linearisation point. -/
def snapshotEstablished (session : Option SessionValue) (generation : UInt64) :
    Option SessionSnapshot :=
  match session with
  | none => none
  | some session =>
    if session.metadataValid generation then
      some ⟨session.authority, session.projection, session.revision, session.txSequence,
        session.rxSequence⟩
    else none

def authorityMatches (session : SessionValue) (generation : UInt64)
    (expectedAuthority : SessionAuthority) (expectedProjection : SessionProjection) : Bool :=
  session.metadataValid generation ∧ session.sessionId = expectedAuthority.sessionId ∧
    session.projection = expectedProjection ∧
    session.runtimeIncarnation.difference expectedAuthority.runtimeIncarnation = 0

/-- What XDP metadata can still carry: the lifetime authority alone. -/
def compactAuthorityMatches (session : Option SessionValue) (generation : UInt64)
    (expectedAuthority : SessionAuthority) : Bool :=
  match session with
  | none => false
  | some session =>
    session.metadataValid generation ∧ session.sessionId = expectedAuthority.sessionId ∧
      session.runtimeIncarnation.difference expectedAuthority.runtimeIncarnation = 0

end SessionValue

inductive SessionMutation where
  | tx
  | rx
  | touch
  deriving DecidableEq, Repr

structure SessionMutationResult where
  sequence : UInt32
  acknowledgement : UInt32
  window : UInt16
  deriving DecidableEq

/-- The signed difference of two serial numbers is positive. -/
def serialAfter (left right : UInt32) : Bool := 0 < (left - right).toNat ∧ (left - right).toNat < 2 ^ 31

namespace SessionValue

/-- The locked section of `faketcp_session_mutate`. Local traffic never counts
as peer liveness, so only RX and TOUCH move `lastSeenNanos`. -/
def mutate (session : SessionValue) (generation now : UInt64) (operation : SessionMutation)
    (argument : UInt32) (expectedAuthority : SessionAuthority)
    (expectedProjection : SessionProjection) : Option (SessionValue × SessionMutationResult) :=
  if session.authorityMatches generation expectedAuthority expectedProjection ∧
      session.revision ≠ 0xffffffffffffffff then
    let result : SessionMutationResult := ⟨session.txSequence, session.rxSequence, session.window⟩
    some ({ session with
      txSequence := if operation = .tx then session.txSequence + argument else session.txSequence
      rxSequence := if operation = .rx ∧ serialAfter argument session.rxSequence then argument
        else session.rxSequence
      lastSeenNanos := if operation ≠ .tx ∧ now > session.lastSeenNanos then now
        else session.lastSeenNanos
      revision := session.revision + 1 }, result)
  else none

end SessionValue

end WgMix.Bpf
