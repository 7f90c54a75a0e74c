import Mathlib.Logic.Relation
import WgMix.FakeTcp.AccountingRuns

/-! What an engine call is made of. Apart from SYN admission, which comes first, every call is a sequence
of small moves: it rewrites or forgets sessions, adjusts counters, and reserves or releases half-open
slots. A relation that every move keeps is kept by every call. -/
namespace WgMix.FakeTcp.Engine
open Bpf Relation

inductive Move (turn : Turn) : Engine → Engine → Prop where
  | session (engine : Engine) (flow : SessionKey) (session : Session) :
      Move turn engine (engine.setSession flow session)
  | forget (engine : Engine) (flow : SessionKey) :
      Move turn engine { engine with sessions := engine.sessions.erase flow }
  | count (engine : Engine) (halfOpen : Nat) (pendingFlows pendingBytes : Int) :
      Move turn engine { engine with halfOpen, pendingFlows, pendingBytes }
  | release (engine : Engine) (flow : SessionKey) (session : Session) :
      Move turn engine (engine.releaseHalfOpen session (turn.releasedAt flow))
  | reserve (engine after : Engine) (key : SynSourceKey) (reserved : engine.reserveInboundHalfOpen key = .ok after) :
      Move turn engine after

abbrev Moves (turn : Turn) : Engine → Engine → Prop := ReflTransGen (Move turn)

section Moves
variable {turn : Turn} {engine : Engine} {flow : SessionKey} {checkpoint : Checkpoint} {session : Session}

theorem set_moves (engine : Engine) (flow : SessionKey) (session : Session) :
    Moves turn engine (engine.setSession flow session) := .single (.session engine flow session)

theorem count_moves (engine : Engine) (pendingFlows pendingBytes : Int) :
    Moves turn engine { engine with pendingFlows, pendingBytes } :=
  .single (.count engine engine.halfOpen pendingFlows pendingBytes)

theorem remove_moves (engine : Engine) (flow : SessionKey) (session : Session) :
    Moves turn engine (engine.remove turn flow session) := by
  have released : Moves turn engine (engine.releaseHalfOpen session (turn.releasedAt flow)) :=
    .single (.release engine flow session)
  simp only [remove]
  split
  · exact released.tail (.forget _ flow)
  · exact (released.trans (count_moves _ _ _)).tail (.forget _ flow)

theorem enqueue_moves {after : Engine} (queued : engine.enqueue session packet = some (after, next)) :
    Moves turn engine after := by
  simp only [enqueue] at queued
  split_ifs at queued <;> cases queued <;> exact count_moves engine _ _

theorem restore_moves (checkpoint : Checkpoint) : Moves turn engine (engine.restore flow checkpoint) := by
  have counted : Moves turn engine _ := count_moves engine checkpoint.pendingFlows checkpoint.pendingBytes
  rw [restore]
  split
  · exact counted.tail (.forget _ flow)
  · exact counted.trans (set_moves _ flow _)

theorem release_moves (engine : Engine) (flow : SessionKey) (session : Session) :
    Moves turn engine (engine.release flow session).1 := by
  rw [release]
  split
  · exact .refl
  · exact count_moves engine _ _

theorem Starts.moves (starts : Starts engine flow found counted session created) : Moves turn engine counted := by
  cases starts with
  | held unchanged => exact unchanged ▸ .refl
  | opened slotted => exact slotted ▸ .single (.count engine _ engine.pendingFlows engine.pendingBytes)

theorem Course.moves (course : engine.Course turn flow checkpoint brought arrived use found outcome) :
    Moves turn engine outcome.engine := by
  cases course with
  | idle result => exact result ▸ .refl
  | refused result => exact result ▸ .refl
  | set result => exact result ▸ set_moves engine flow _
  | removed result => exact result ▸ remove_moves engine flow _
  | restored result => exact result ▸ restore_moves checkpoint
  | passed result => exact result ▸ set_moves engine flow _
  | queued result arriving starts enqueued =>
    exact result ▸ (starts.moves.trans (enqueue_moves enqueued)).trans (set_moves _ flow _)
  | full result starts => exact result ▸ starts.moves.trans (set_moves _ flow _)
  | accepted result own missing valid owner room reserved =>
    exact result ▸ .head (.reserve engine _ _ reserved) (set_moves _ flow _)
  | @finished seen stored original segment result =>
    have released : Moves turn engine _ := release_moves engine flow (completed seen segment)
    exact result ▸ (released.tail (.release _ flow stored)).trans (set_moves _ flow _)

theorem call_moves (call : EngineCall) (engine : Engine) (turn : Turn) :
    Moves turn (call.admitted engine turn) (call.run engine turn).engine := (call.course engine turn).moves

theorem sweep_moves (nowMonotonic : UInt64) (flows : List SessionKey) :
    Moves turn engine (sweep turn nowMonotonic engine flows).engine := by
  induction flows generalizing engine with
  | nil => exact .refl
  | cons flow rest ih => exact (call_moves (.tick flow nowMonotonic) engine turn).trans ih

theorem tick_moves : Moves turn engine (engine.tick turn).engine := by
  rw [tick]
  split
  · exact .refl
  · exact sweep_moves _ _

end Moves

/-- The flow of a bare SYN that comes to SYN admission. -/
def observed (engine : Engine) : Request → Option SessionKey
  | .inbound flow segment wgId =>
    if engine.validateFlow flow = true ∧ wgId = flow.wgId ∧
        ((engine.sessions.lookup flow).bind (·.pendingDelete)).isNone ∧ segment.flags = flagSyn then some flow
    else none
  | _ => none

/-- The engine after SYN admission, if the call comes to it. -/
def admission (engine : Engine) (input : Turn × Request) : Engine :=
  match engine.observed input.2 with
  | none => engine
  | some flow => (engine.observeSyn flow input.1.now).1

theorem admission_inbound (engine : Engine) (turn : Turn) (flow : SessionKey) (segment : Segment) (wgId : UInt32) :
    engine.admission (turn, .inbound flow segment wgId) = engine.observing turn flow segment wgId := by
  simp only [admission, observed, observing]
  split_ifs <;> rfl

/-- Every call: SYN admission where it applies, and moves. -/
theorem perform_moves (engine : Engine) (input : Turn × Request) :
    Moves input.1 (engine.admission input) (engine.perform input) := by
  obtain ⟨turn, request⟩ := input
  cases request with
  | outbound flow packet alreadyDropped => exact call_moves (.outbound flow packet alreadyDropped) engine turn
  | captured event packet fingerprint =>
    simp only [perform]
    rcases captured_cases engine turn event packet fingerprint with ⟨cause, refused⟩ | taken
    · rw [refused]
      exact .refl
    · rw [taken]
      exact call_moves (.outbound event.key _ true) engine turn
  | inbound flow segment wgId =>
    rw [admission_inbound]
    exact call_moves (.inbound flow segment wgId) engine turn
  | control event packet => exact call_moves (.control event packet) engine turn
  | tick => exact tick_moves

end WgMix.FakeTcp.Engine
