import WgMix.FakeTcp.EngineSpec

/-! What an engine call leaves of the request it retains for its flow, by the
store operations it made and the answer to a deletion. -/
namespace WgMix.FakeTcp
open Bpf

namespace Engine

/-- A call for `flow` that used the store as `use` says. -/
structure Answered (before : Engine) (turn : Turn) (flow : SessionKey) (use : StoreUse) (after : Engine) :
    Prop where
  frame : ∀ other, other ≠ flow → after.sessions.lookup other = before.sessions.lookup other
  here : UseAnswered turn flow (before.sessions.lookup flow) (after.sessions.lookup flow) use

/-- At most the session of `flow` differs, and it is now `found`. -/
structure Leaves (before : Engine) (flow : SessionKey) (found : Option Session) (after : Engine) : Prop where
  frame : ∀ other, other ≠ flow → after.sessions.lookup other = before.sessions.lookup other
  here : after.sessions.lookup flow = found

section Leaves
variable {before engine after : Engine} {flow : SessionKey} {turn : Turn}

theorem leaves_same (same : SameSessions before after) :
    Leaves before flow (before.sessions.lookup flow) after where
  frame _ _ := by rw [same.sessions]
  here := by rw [same.sessions]

theorem leaves_set (same : SameSessions before engine) (session : Session) :
    Leaves before flow (some session) (engine.setSession flow session) where
  frame other distinct := by simp only [setSession, AList.lookup_insert_ne distinct, same.sessions]
  here := by simp only [setSession, AList.lookup_insert]

theorem leaves_remove (same : SameSessions before engine) (turn : Turn) (flow : SessionKey)
    (session : Session) : Leaves before flow none (engine.remove turn flow session) := by
  have sessions := (remove_fields same turn flow session).1
  constructor
  · intro other distinct
    rw [sessions, AList.lookup_erase_ne distinct]
  · rw [sessions, AList.lookup_erase]

theorem leaves_restore (same : SameSessions before engine) :
    Leaves before flow (before.sessions.lookup flow)
      (engine.restore flow (before.checkpoint (before.sessions.lookup flow))) := by
  unfold restore checkpoint
  cases found : before.sessions.lookup flow with
  | none =>
    constructor
    · intro other distinct
      simp only [AList.lookup_erase_ne distinct, same.sessions]
    · simp only [AList.lookup_erase]
  | some session =>
    constructor
    · intro other distinct
      simp only [AList.lookup_insert_ne distinct, same.sessions]
    · simp only [AList.lookup_insert]

theorem Leaves.answered (leaves : Leaves before flow found after)
    (here : UseAnswered turn flow (before.sessions.lookup flow) found use) :
    Answered before turn flow use after where
  frame := leaves.frame
  here := by rw [leaves.here]; exact here

theorem enqueue_pendingDelete (queued : engine.enqueue session packet = some (after, longer)) :
    longer.pendingDelete = session.pendingDelete := by
  unfold enqueue at queued
  split_ifs at queued <;> cases queued <;> rfl

/-- The session that a packet waits on asks for no deletion. -/
theorem Starts.free (starts : Starts engine flow found counted session created) (only : OnlyEstablished found) :
    session.pendingDelete = none := by
  cases starts with
  | held unchanged old held halfOpen carries kept =>
    rw [kept, Option.eq_none_iff_forall_ne_some]
    exact fun request waits => halfOpen (only _ request held waits)
  | opened => assumption

theorem Course.answered
    (course : engine.Course turn flow (before.checkpoint (before.sessions.lookup flow)) brought arrived use
      (before.sessions.lookup flow) outcome)
    (same : SameSessions before engine) (only : OnlyEstablished (before.sessions.lookup flow)) :
    Answered before turn flow use outcome.engine := by
  cases course with
  | idle result _ answered => exact result ▸ (leaves_same same).answered answered
  | refused result answered => exact result ▸ (leaves_same same).answered answered
  | set result _ _ answered => exact result ▸ (leaves_set same _).answered (answered only)
  | removed result _ _ answered => exact result ▸ (leaves_remove same turn flow _).answered answered
  | restored result _ _ answered => exact result ▸ (leaves_restore same).answered answered
  | passed result _ _ _ _ answered => exact result ▸ (leaves_set same _).answered answered
  | queued result _ starts enqueued idle =>
    have unchanged := (same.trans starts.same).trans (enqueue_spec enqueued).1
    have kept := (enqueue_pendingDelete enqueued).trans (starts.free only)
    subst idle
    exact result ▸ (leaves_set unchanged _).answered (.inr (unpending_some kept))
  | full result starts idle =>
    subst idle
    exact result ▸ (leaves_set (same.trans starts.same) _).answered (.inr (unpending_some (starts.free only)))
  | accepted result _ _ _ _ _ reserved _ _ _ answered =>
    exact result ▸ (leaves_set (same.trans (reserve_same engine reserved)) _).answered answered
  | @finished seen stored _ segment result _ _ _ _ _ _ _ _ answered =>
    have released := same.trans (release_spec engine flow (completed seen segment)).1
    exact result ▸ (leaves_set (released.trans (releaseHalfOpen_same _ stored _)) _).answered answered

end Leaves

end Engine

/-- Every call settles its flow as the store operations it made were answered. -/
theorem EngineCall.answered (call : EngineCall) (engine : Engine) (turn : Turn)
    (only : OnlyEstablished (engine.sessions.lookup call.flow)) :
    engine.Answered turn call.flow (call.use engine turn) (call.run engine turn).engine :=
  (call.course engine turn).answered (call.admitted_same engine turn) only

namespace EngineCall
variable {engine : Engine} {turn : Turn}

/-- What a call asks the store does not depend on how inserts and deletions are answered. -/
theorem use_deleting (call : EngineCall) (engine : Engine) (turn : Turn)
    (answer : SessionKey → SessionValue → Option SessionDeleteResult) :
    call.use engine (turn.deleting answer) = call.use engine turn := by
  cases call <;> rfl

theorem use_inserting (call : EngineCall) (engine : Engine) (turn : Turn)
    (answer : SessionKey → SessionValue → Bool) :
    call.use engine (turn.inserting answer) = call.use engine turn := by
  cases call <;> rfl

/-- Where a deletion comes from: its value was just looked up, or the flow's
session retains it. -/
inductive Origin (engine : Engine) (turn : Turn) (flow : SessionKey) : StoreUse → Prop where
  | plain {made : StoreUse} : made.Plain → Origin engine turn flow made
  | looked : turn.lookup flow = some (some request.expected) → Origin engine turn flow (.deletes request)
  | retained : engine.sessions.lookup flow = some session → session.pendingDelete = some request →
      Origin engine turn flow (.retries request)

theorem lookUse_origin (flow : SessionKey) (session : Session) {wants : SessionValue → Option PendingDelete}
    (wanted : ∀ value wish, wants value = some wish → wish.expected = value) :
    Origin engine turn flow (engine.lookUse turn flow session wants) := by
  unfold Engine.lookUse
  split
  · rename_i value refreshed found
    cases wish : wants value with
    | none => exact .plain .looks
    | some chosen =>
      apply Origin.looked
      rw [wanted value chosen wish]
      exact (Engine.lookupEstablished_found found).2.1
  · exact .plain .looks

theorem use_origin (call : EngineCall) (engine : Engine) (turn : Turn) :
    Origin engine turn call.flow (call.use engine turn) := by
  cases call with
  | outbound flow packet alreadyDropped =>
    dsimp only [use, EngineCall.flow]
    unfold Engine.outboundUse
    split
    · exact .plain .idle
    split
    · exact .plain .idle
    · rename_i session found
      split
      · exact .plain .idle
      split
      · exact .retained found ‹_›
      split
      · exact .plain .idle
      · exact .plain .looks
  | inbound flow segment wgId =>
    dsimp only [use, EngineCall.flow]
    unfold Engine.inboundUse
    split
    · exact .plain .idle
    split
    · exact .plain .idle
    · rename_i session found
      split
      · exact .retained found ‹_›
      split
      · exact .plain .idle
      split
      · exact .plain (engine.insertUse_plain turn flow _)
      split
      · exact .plain .looks
      · exact .plain .idle
  | control event packet =>
    dsimp only [use, EngineCall.flow]
    unfold Engine.controlUse
    split
    · exact .plain .idle
    split
    · exact .plain .idle
    · rename_i session found
      split
      · exact .plain .idle
      split
      · exact .retained found ‹_›
      split
      · exact .plain .idle
      · apply lookUse_origin
        intro value wish chosen
        split_ifs at chosen
        cases chosen
        rfl
  | tick flow nowMonotonic =>
    dsimp only [use, EngineCall.flow]
    unfold Engine.tickUse
    split
    · exact .plain .idle
    · rename_i session found
      split
      · exact .plain .idle
      split
      · exact .retained found ‹_›
      · apply lookUse_origin
        intro value wish chosen
        split_ifs at chosen
        cases chosen
        rfl

end EngineCall

end WgMix.FakeTcp
