import Mathlib.Algebra.Group.Nat.Defs
import WgMix.Foundation.Interleaving

/-! The generation gate: one word that holds the open, sealed, poison and armed
flags above the count of packet executions in flight. Packet executions, control
runs and the userspace barrier take turns at its atomic steps; what follows an
atomic step up to the next one belongs to it. -/
namespace WgMix.Bpf.AtomicGate

def stateOpen : Nat := 2 ^ 63
def stateSealed : Nat := 2 ^ 62
def statePoison : Nat := 2 ^ 61
def stateWakeArmed : Nat := 2 ^ 60
def inflightMask : Nat := stateWakeArmed - 1
def casAttempts : Nat := 8

/-- `state & mask` and `state & ~mask`. -/
def inflight (state : Nat) : Nat := state % stateWakeArmed
def flags (state : Nat) : Nat := state - state % stateWakeArmed

def poisoned (flags : Nat) : Bool := flags.testBit 61

inductive Result where
  | malformed
  | idle
  | opened
  | wait
  | poison
  | mismatch
  deriving DecidableEq, Repr

inductive Operation where
  | assertClosed
  | open_
  | close
  deriving DecidableEq, Repr

/-- Who runs the control program: a test run of its own, or the barrier. -/
inductive Caller where
  | direct
  | assertInactive
  | activate
  | quiesce
  | confirm
  deriving DecidableEq, Repr

/-- Where an execution stands, in front of its next atomic step. -/
inductive Location where
  | enterBound
  | enterRebound
  | enterUnbound
  | enterLoad (attempt : Nat)
  | enterSwap (attempt old : Nat)
  | entered
  | exitCheck (old : Nat)
  | wake
  | disarm
  | poison
  | packetDone
  | control (operation : Operation) (caller : Caller)
  | assertLoad (caller : Caller) (bound : Nat)
  | controlLoad (operation : Operation) (caller : Caller) (attempt : Nat)
  | controlSwap (operation : Operation) (caller : Caller) (attempt old next : Nat) (result : Result)
  | controlPoison (operation : Operation) (caller : Caller)
  | returned (operation : Operation) (result : Result)
  | asserted (ok : Bool)
  | activated (ok : Bool)
  | readWake
  | verifyBound
  | verifyState
  | quiesced (ok : Bool)
  deriving DecidableEq, Repr

/-- The gate value and the number of wake records in the ring; every record is
that of the one generation. -/
structure Gate where
  generation : Nat := 0
  state : Nat := 0
  wakes : Nat := 0
  deriving DecidableEq, Repr

namespace Location

/-- The result of a control run, in the hands of its caller. -/
def answer (operation : Operation) (result : Result) : Caller → Location
  | .direct => .returned operation result
  | .assertInactive => .asserted (result = .idle)
  | .activate => .activated (result = .opened)
  | .quiesce =>
    match result with
    | .idle => .verifyBound
    | .wait => .readWake
    | _ => .quiesced false
  | .confirm => if result = .idle then .verifyBound else .quiesced false

/-- The body of the retry loop of `faketcp_generation_enter`. -/
def enterOn (attempt old : Nat) : Location :=
  if poisoned (flags old) then .packetDone
  else if (flags old = 0 ∧ inflight old = 0) ∨ (flags old = stateSealed ∧ inflight old = 0) ∨
      flags old = stateSealed + stateWakeArmed then .packetDone
  else if flags old ≠ stateOpen then .poison
  else if inflight old = inflightMask then .poison
  else .enterSwap attempt old

/-- `faketcp_generation_exit` behind its decrement. -/
def exitOn (generation bound old : Nat) : Location :=
  if inflight old = 0 ∨ bound ≠ generation then .poison
  else if poisoned (flags old) then .packetDone
  else if flags old ≠ stateOpen ∧ flags old ≠ stateSealed + stateWakeArmed then .poison
  else if inflight old ≠ 1 ∨ flags old ≠ stateSealed + stateWakeArmed then .packetDone
  else .wake

def assertOn (caller : Caller) (generation bound state : Nat) : Location :=
  if poisoned (flags state) then answer .assertClosed .poison caller
  else if bound ≠ 0 ∧ bound ≠ generation then .controlPoison .assertClosed caller
  else if state = 0 then answer .assertClosed .idle caller
  else if flags state = stateOpen ∨ (flags state = stateSealed ∧ inflight state = 0) ∨
      flags state = stateSealed + stateWakeArmed then answer .assertClosed .mismatch caller
  else .controlPoison .assertClosed caller

def openOn (caller : Caller) (attempt old : Nat) : Location :=
  if poisoned (flags old) then answer .open_ .poison caller
  else if flags old = stateOpen then answer .open_ .opened caller
  else if (flags old = stateSealed ∧ inflight old = 0) ∨ flags old = stateSealed + stateWakeArmed then
    answer .open_ .mismatch caller
  else if old ≠ 0 then .controlPoison .open_ caller
  else .controlSwap .open_ caller attempt 0 stateOpen .opened

def closeOn (caller : Caller) (attempt old : Nat) : Location :=
  if poisoned (flags old) then answer .close .poison caller
  else if old = 0 then .controlSwap .close caller attempt 0 stateSealed .idle
  else if flags old = stateOpen then
    if inflight old = 0 then .controlSwap .close caller attempt old stateSealed .idle
    else .controlSwap .close caller attempt old (stateSealed + stateWakeArmed + inflight old) .wait
  else if flags old = stateSealed ∧ inflight old = 0 then answer .close .idle caller
  else if flags old = stateSealed + stateWakeArmed then
    if inflight old ≠ 0 then answer .close .wait caller
    else .controlSwap .close caller attempt old stateSealed .idle
  else .controlPoison .close caller

/-- After a lost compare-and-swap. -/
def enterAgain (attempt : Nat) : Location :=
  if attempt + 1 < casAttempts then .enterLoad (attempt + 1) else .packetDone

def controlAgain (operation : Operation) (caller : Caller) (attempt : Nat) : Location :=
  if attempt + 1 < casAttempts then .controlLoad operation caller (attempt + 1)
  else answer operation .mismatch caller

end Location

namespace Gate
open Location

/-- `faketcp_generation_poison`: the fetch-or. -/
def poisonState (gate : Gate) : Gate := { gate with state := gate.state ||| statePoison }

/-- The compare-and-swap of the state word. -/
def swap (gate : Gate) (old next : Nat) : Gate := if gate.state = old then { gate with state := next } else gate

/-- One atomic step of an execution for `generation`. `identity` is whether the
runtime identity of that generation is installed; `choice` is whether a ring
output succeeds and whether a wake record is waited for to the end. -/
def act (generation : Nat) (identity choice : Bool) (gate : Gate) : Location → Gate × Location
  | .enterBound =>
    if generation = 0 then (gate, .packetDone)
    else if gate.generation ≠ generation then (gate, .enterRebound)
    else (gate, .enterLoad 0)
  | .enterRebound => if gate.generation ≠ 0 then (gate, .poison) else (gate, .enterUnbound)
  | .enterUnbound => if gate.state ≠ 0 then (gate, .poison) else (gate, .packetDone)
  | .enterLoad attempt => (gate, enterOn attempt gate.state)
  | .enterSwap attempt old =>
    (gate.swap old (old + 1), if gate.state = old then .entered else enterAgain attempt)
  | .entered => ({ gate with state := (gate.state + (2 ^ 64 - 1)) % 2 ^ 64 }, .exitCheck gate.state)
  | .exitCheck old => (gate, exitOn generation gate.generation old)
  | .wake =>
    if identity = false then (gate, .poison)
    else if choice then ({ gate with wakes := gate.wakes + 1 }, .disarm)
    else (gate, .packetDone)
  | .disarm => (gate.swap (stateSealed + stateWakeArmed) stateSealed, .packetDone)
  | .poison => (gate.poisonState, .packetDone)
  | .control operation caller =>
    if generation = 0 ∨ identity = false then (gate, answer operation .malformed caller)
    else if operation = .assertClosed then (gate, .assertLoad caller gate.generation)
    else if gate.generation = 0 then ({ gate with generation }, .controlLoad operation caller 0)
    else if gate.generation ≠ generation then (gate, .controlPoison operation caller)
    else (gate, .controlLoad operation caller 0)
  | .assertLoad caller bound => (gate, assertOn caller generation bound gate.state)
  | .controlLoad operation caller attempt =>
    (gate, if operation = .open_ then openOn caller attempt gate.state else closeOn caller attempt gate.state)
  | .controlSwap operation caller attempt old next result =>
    (gate.swap old next,
      if gate.state = old then answer operation result caller else controlAgain operation caller attempt)
  | .controlPoison operation caller => (gate.poisonState, answer operation .poison caller)
  | .readWake =>
    if choice ∧ gate.wakes ≠ 0 then ({ gate with wakes := gate.wakes - 1 }, .control .close .confirm)
    else (gate, .quiesced false)
  | .verifyBound => (gate, if gate.generation = generation then .verifyState else .quiesced false)
  | .verifyState => (gate, .quiesced (gate.state = stateSealed))
  | .packetDone => (gate, .packetDone)
  | .returned operation result => (gate, .returned operation result)
  | .asserted ok => (gate, .asserted ok)
  | .activated ok => (gate, .activated ok)
  | .quiesced ok => (gate, .quiesced ok)

end Gate

/-- What may start: a packet execution, a control run or a barrier call. -/
def start : Location → Bool
  | .enterBound => true
  | .control .assertClosed .assertInactive => true
  | .control .open_ .activate => true
  | .control .close .quiesce => true
  | .control _ .direct => true
  | _ => false

abbrev World := Interleaving.System Gate Location
abbrev Turn := Interleaving.Turn Location Bool

/-- Only executions at their beginning are spawned. -/
def step (generation : Nat) (identity : Bool) (world : World) : Turn → World
  | .spawn location =>
    if start location then Interleaving.step (Gate.act generation identity) world (.spawn location) else world
  | .act index choice => Interleaving.step (Gate.act generation identity) world (.act index choice)

def initial : World := ⟨{}, []⟩

end WgMix.Bpf.AtomicGate
