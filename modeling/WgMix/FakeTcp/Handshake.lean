import WgMix.FakeTcp.SessionStore
import WgMix.Foundation.Runs

/-! Two engines that open one flow from both ends. The network keeps every
control segment it was given: it may deliver any of them to the other end, at
any time and any number of times, and adds none of its own. -/
namespace WgMix.FakeTcp.Handshake
open Bpf

inductive Side where
  | client
  | server
  deriving DecidableEq, Repr

def Side.peer : Side → Side
  | .client => .server
  | .server => .client

/-- A flow as its two ends see it. -/
structure Path where
  flow : Side → SessionKey
  mirrored : ∀ side, (flow side.peer).localIpv4 = (flow side).remoteIpv4 ∧
    (flow side.peer).localPort = (flow side).remotePort

/-- A control segment on the wire, with the initial number of its session. -/
structure Sent where
  sender : Side
  localIsn : UInt32
  control : ControlPacket
  reason : Reason
  deriving DecidableEq

def Sent.segment (sent : Sent) : Segment :=
  ⟨sent.control.flags, sent.control.sequence, sent.control.acknowledgement, 0⟩

/-- `inserted` is the receive number of the entry given to the session store. -/
inductive Occurrence where
  | sent (segment : Sent)
  | established (side : Side) (localIsn remoteIsn : UInt32) (inserted : Option UInt32)
  deriving DecidableEq

structure Parties where
  engine : Side → Engine
  history : List Occurrence := []

inductive PartyCall where
  | outbound (packet : PendingPacket) (alreadyDropped : Bool)
  | tick (nowMonotonic : UInt64)
  | close (event : Event) (packet : Bytes)
  | deliver (index : Nat)

structure Input where
  side : Side
  turn : Turn
  call : PartyCall

namespace Parties
variable (parties : Parties)

/-- What `side` can still be given: everything its peer ever sent. -/
def received (side : Side) : List Sent :=
  parties.history.filterMap fun
    | .sent segment => if segment.sender = side.peer then some segment else none
    | .established .. => none

/-- The segment a call hands to the engine. -/
def delivered (side : Side) : PartyCall → Option Sent
  | .deliver index => (parties.received side)[index]?
  | _ => none

def engineCall (path : Path) (side : Side) (call : PartyCall) : Option EngineCall :=
  match call with
  | .outbound packet alreadyDropped => some (.outbound (path.flow side) packet alreadyDropped)
  | .tick nowMonotonic => some (.tick (path.flow side) nowMonotonic)
  | .close event packet => some (.control { event with key := path.flow side } packet)
  | .deliver _ => (parties.delivered side call).map fun sent =>
      .inbound (path.flow side) sent.segment (path.flow side).wgId

end Parties

/-- The session that a call has brought to ESTABLISHED. -/
def becomesEstablished (before after : Option Session) : Option Session :=
  after.filter fun session =>
    session.state = .established ∧ ¬before.any fun earlier => earlier.state = .established

def insertedRx : StoreUse → Option UInt32
  | .inserts value => some value.rxSequence
  | _ => none

/-- What one engine call adds to the history. -/
def occurrences (side : Side) (flow : SessionKey) (engine : Engine) (turn : Turn) (call : EngineCall) :
    List Occurrence :=
  let outcome := call.run engine turn
  let after := outcome.engine.sessions.lookup flow
  let established := (becomesEstablished (engine.sessions.lookup flow) after).map fun session =>
    Occurrence.established side session.localIsn session.remoteIsn
      (insertedRx (call.use engine turn))
  established.toList ++ outcome.actions.filterMap fun
    | .sendControl target _ control reason =>
      if target = flow then after.map fun session => .sent ⟨side, session.localIsn, control, reason⟩ else none
    | _ => none

def step (path : Path) (parties : Parties) (input : Input) : Parties :=
  match parties.engineCall path input.side input.call with
  | none => parties
  | some call =>
    let engine := parties.engine input.side
    { engine := Function.update parties.engine input.side (call.run engine input.turn).engine
      history := parties.history ++
        occurrences input.side (path.flow input.side) engine input.turn call }

end WgMix.FakeTcp.Handshake
