import WgMix.FakeTcp.EngineAlike

/-! An inbound segment whose dependencies fail leaves no trace: the session that was changed in
place is put back, and no later call can tell the difference. -/
namespace WgMix.FakeTcp
open Bpf

namespace Engine

section Failure
variable {engine : Engine} {turn : Turn} {flow : SessionKey} {segment : Segment} {checkpoint : Checkpoint}

/-- Writing back what the map holds. -/
theorem alike_set (found : engine.sessions.lookup flow = some session) :
    Alike engine (engine.setSession flow session) := by
  refine ⟨fun other => ?_, rfl⟩
  by_cases here : other = flow
  · rw [here, found, setSession, AList.lookup_insert]
  · rw [setSession, AList.lookup_insert_ne here]

/-- A call fails behind its checkpoint, and never on a bare SYN. -/
structure FailedAdmitted (engine : Engine) (flow : SessionKey) (segment : Segment) (session : Option Session)
    (checkpoint : Checkpoint) (outcome : Outcome) : Prop where
  known : session ≠ none
  flags : segment.flags ≠ flagSyn
  engine : outcome.engine = engine.restore flow checkpoint
  actions : outcome.actions = [.drop flow .sessionStoreUnavailable]

theorem completeHandshake_failed
    (failed : (engine.completeHandshake turn flow session segment checkpoint).error = some cause) :
    (engine.completeHandshake turn flow session segment checkpoint).engine = engine.restore flow checkpoint ∧
      (engine.completeHandshake turn flow session segment checkpoint).actions =
        [.drop flow .sessionStoreUnavailable] := by
  unfold completeHandshake at failed ⊢
  dsimp only at failed ⊢
  split
  · exact ⟨release_restore _ _ _, rfl⟩
  · rename_i stored inserted
    rw [inserted] at failed
    contradiction

theorem completes_flags (completing : completes session segment = true) : segment.flags ≠ flagSyn := by
  intro bare
  rw [completes, bare] at completing
  split at completing
  · exact absurd (of_decide_eq_true completing).1 (by decide)
  · exact absurd (of_decide_eq_true completing).2.1 (by decide)
  · contradiction

theorem inboundKnown_failed
    (failed : (engine.inboundKnown turn flow session segment checkpoint).error = some cause) :
    segment.flags ≠ flagSyn ∧
      (engine.inboundKnown turn flow session segment checkpoint).engine = engine.restore flow checkpoint ∧
      (engine.inboundKnown turn flow session segment checkpoint).actions =
        [.drop flow .sessionStoreUnavailable] := by
  by_cases completing : completes session segment = true
  · have same : engine.inboundKnown turn flow session segment checkpoint =
        engine.completeHandshake turn flow session segment checkpoint := if_pos completing
    rw [same] at failed ⊢
    exact ⟨completes_flags completing, completeHandshake_failed failed⟩
  · unfold inboundKnown at failed ⊢
    rw [if_neg completing] at failed ⊢
    cases state : session.state with
    | established =>
      simp only [state] at failed ⊢
      split at failed
      · contradiction
      · rename_i plain
        rw [if_neg plain]
        split at failed
        · refine ⟨?_, rfl, rfl⟩
          rintro bare
          rw [bare] at plain
          exact plain (by decide)
        · contradiction
        · contradiction
    | synSent =>
      simp only [state] at failed
      split at failed
      · contradiction
      · contradiction
    | synRecv =>
      simp only [state] at failed
      split at failed
      · contradiction
      · contradiction
    | _ =>
      simp only [state] at failed
      contradiction

theorem inboundAdmitted_failed {session : Option Session}
    (failed : (engine.inboundAdmitted turn flow segment wgId synSource session checkpoint).error = some cause) :
    FailedAdmitted engine flow segment session checkpoint
      (engine.inboundAdmitted turn flow segment wgId synSource session checkpoint) := by
  unfold inboundAdmitted at failed ⊢
  cases session with
  | none =>
    dsimp only at failed
    split at failed
    · contradiction
    · unfold inboundUnknown at failed
      split at failed
      · contradiction
      · split at failed
        · contradiction
        · split at failed
          · contradiction
          · contradiction
  | some session =>
    dsimp only at failed ⊢
    split at failed
    · contradiction
    · rename_i owned
      rw [if_neg owned]
      split at failed
      · split at failed
        · contradiction
        · contradiction
      · rename_i open_
        rw [if_neg open_]
        obtain ⟨flags, restored, actions⟩ := inboundKnown_failed failed
        exact ⟨Option.some_ne_none _, flags, restored, actions⟩

theorem retry_failed (found : engine.sessions.lookup flow = some session)
    (pending : session.pendingDelete = some request)
    (failed : (engine.retryPendingDelete turn flow session request).error = some cause) :
    Alike engine (engine.retryPendingDelete turn flow session request).engine ∧
      (engine.retryPendingDelete turn flow session request).actions = [.drop flow .sessionStoreUnavailable] := by
  unfold retryPendingDelete compareDeleteEstablished at failed ⊢
  cases answer : turn.delete flow request.expected with
  | none =>
    have same : { session with pendingDelete := some request } = session := by rw [← pending]
    dsimp only
    rw [same]
    exact ⟨alike_set found, rfl⟩
  | some result =>
    simp only [answer] at failed
    cases result <;> contradiction

theorem restore_alike (found : engine.sessions.lookup flow ≠ none) :
    Alike engine (engine.restore flow (engine.checkpoint (engine.sessions.lookup flow))) := by
  cases held : engine.sessions.lookup flow with
  | none => contradiction
  | some session =>
    have same : engine.restore flow (engine.checkpoint (some session)) = engine.setSession flow session := rfl
    rw [same]
    exact alike_set held

/-- Whatever made an inbound call fail, it only reports a drop and changes nothing that can be observed. -/
theorem inbound_failed (failed : (engine.inbound turn flow segment wgId).error = some cause) :
    Alike engine (engine.inbound turn flow segment wgId).engine ∧
      ∀ action ∈ (engine.inbound turn flow segment wgId).actions, ∃ reason, action = .drop flow reason := by
  have dropped {outcome : Outcome} (actions : outcome.actions = [.drop flow .sessionStoreUnavailable]) :
      ∀ action ∈ outcome.actions, ∃ reason, action = .drop flow reason := by
    rw [actions]
    intro action member
    exact ⟨_, List.mem_singleton.mp member⟩
  unfold inbound at failed ⊢
  split at failed
  · rename_i invalid
    rw [if_pos invalid]
    exact ⟨.refl engine, by simp⟩
  · rename_i valid
    rw [if_neg valid]
    split at failed
    · contradiction
    · rename_i owner
      rw [if_neg owner]
      dsimp only at failed ⊢
      split at failed
      · rename_i session request held
        obtain ⟨found, look, mapped⟩ := Option.bind_eq_some_iff.mp held
        obtain ⟨other, pending, same⟩ := Option.map_eq_some_iff.mp mapped
        cases same
        obtain ⟨alike, actions⟩ := retry_failed look pending failed
        exact ⟨alike, dropped actions⟩
      · split at failed
        · rename_i bare
          rw [if_pos bare]
          split at failed
          · contradiction
          · exact absurd bare (inboundAdmitted_failed failed).flags
        · rename_i flagged
          rw [if_neg flagged]
          have admitted := inboundAdmitted_failed failed
          refine ⟨?_, dropped admitted.actions⟩
          rw [admitted.engine]
          exact restore_alike admitted.known

end Failure

/-- A failed inbound call in full: what it leaves, what it asks for, and that the same call later,
whatever happened in between, does what it would have done without the failure. -/
structure FailureAtomic (engine : Engine) (flow : SessionKey) (segment : Segment) (wgId : UInt32)
    (failed : Outcome) : Prop where
  sessions : ∀ other, failed.engine.sessions.lookup other = engine.sessions.lookup other
  halfOpen : failed.engine.halfOpen = engine.halfOpen
  pendingFlows : failed.engine.pendingFlows = engine.pendingFlows
  pendingBytes : failed.engine.pendingBytes = engine.pendingBytes
  silent : ∀ action ∈ failed.actions,
    (∀ target id control reason, action ≠ .sendControl target id control reason) ∧
      ∀ target id packets, action ≠ .releasePending target id packets
  later : ∀ (between : List (Turn × Request)) (turn : Turn), (∀ input ∈ between, OrderFree input.1) →
    ((Runs.run perform failed.engine between).inbound turn flow segment wgId).actions =
      ((Runs.run perform engine between).inbound turn flow segment wgId).actions

theorem inbound_failure_atomic (engine : Engine) (turn : Turn) (flow : SessionKey) (segment : Segment)
    (wgId : UInt32) (failed : (engine.inbound turn flow segment wgId).error ≠ none) :
    FailureAtomic engine flow segment wgId (engine.inbound turn flow segment wgId) := by
  obtain ⟨cause, failed⟩ := Option.ne_none_iff_exists'.mp failed
  obtain ⟨alike, drops⟩ := inbound_failed failed
  constructor
  case sessions => exact alike.sessions
  case halfOpen => rw [alike.rest]
  case pendingFlows => rw [alike.rest]
  case pendingBytes => rw [alike.rest]
  case silent =>
    intro action member
    obtain ⟨reason, rfl⟩ := drops action member
    exact ⟨by simp, by simp⟩
  case later =>
    intro between turn free
    obtain ⟨sessions, agrees, same⟩ := (run_alike between free alike).exists_sessions
    rw [same]
    exact (inbound_alike agrees flow segment wgId).actions

/-- A handshake that waits for its SYN+ACK with one queued packet. -/
def waitingEngine : Engine := sampleEngine.perform (sampleTurn 0 100, .outbound samplePeer samplePacket true)

/-- The session store refuses the insert. -/
def refusingTurn : Turn := { sampleTurn 6 0 with insert := fun _ _ => false }

theorem refused_insert_atomic :
    (waitingEngine.inbound refusingTurn samplePeer ⟨flagSyn ||| flagAck, 500, 101, 0⟩ 1).error = some .store ∧
      FailureAtomic waitingEngine samplePeer ⟨flagSyn ||| flagAck, 500, 101, 0⟩ 1
        (waitingEngine.inbound refusingTurn samplePeer ⟨flagSyn ||| flagAck, 500, 101, 0⟩ 1) :=
  ⟨by decide +kernel, inbound_failure_atomic _ _ _ _ _ (by decide +kernel)⟩

end Engine
end WgMix.FakeTcp
