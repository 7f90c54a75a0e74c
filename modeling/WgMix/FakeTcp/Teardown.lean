import WgMix.FakeTcp.CloseGate
import WgMix.FakeTcp.ControlActions
import WgMix.FakeTcp.HandshakeSpec

/-! Which peer input can take an established session away. An established session without a pending
deletion keeps its entry in the map, so a segment never finds the entry missing; a captured close must
validate against the entry and win the comparison that deletes it. -/
namespace WgMix.FakeTcp
open Bpf Runs SessionLedger
open Handshake (WasEstablished Handshaking)

namespace Engine
section Calls
variable {before engine : Engine} {turn : Turn} {flow : SessionKey} {session original : Session} {segment : Segment}

theorem lookupEstablished_missing (missing : engine.lookupEstablished turn flow session = .ok none) :
    turn.lookup flow = some none := by
  rw [lookupEstablished] at missing
  split at missing
  · cases missing
  · assumption
  · split_ifs at missing
    cases missing

theorem wasEstablished_set (same : SameSessions before engine) (established : session.state = .established) :
    WasEstablished ((engine.setSession flow session).sessions.lookup flow) :=
  ⟨session, (leaves_set same session).here, established⟩

/-- A segment leaves an established session standing unless its entry is missing. -/
theorem inboundKnown_stays (same : SameSessions before engine)
    (found : before.sessions.lookup flow = some original) (held : original.state = .established)
    (established : session.state = .established) (present : turn.lookup flow ≠ some none) :
    WasEstablished ((engine.inboundKnown turn flow session segment
      (before.checkpoint (before.sessions.lookup flow))).engine.sessions.lookup flow) := by
  have kept : completes session segment ≠ true := by
    simp only [completes, established]
    exact Bool.false_ne_true
  simp only [inboundKnown, if_neg kept, established]
  split
  · exact wasEstablished_set same established
  split
  · rw [(leaves_restore same).here]
    exact ⟨original, found, held⟩
  · rename_i missing
    exact absurd (lookupEstablished_missing missing) present
  · rename_i value refreshed looked
    exact wasEstablished_set same ((lookup_carries established looked).1.established.mpr established)

theorem inboundAdmitted_stays (same : SameSessions before engine)
    (found : before.sessions.lookup flow = some session) (established : session.state = .established)
    (present : turn.lookup flow ≠ some none) (wgId : UInt32) (synSource : SynSourceKey) :
    WasEstablished ((engine.inboundAdmitted turn flow segment wgId synSource (before.sessions.lookup flow)
      (before.checkpoint (before.sessions.lookup flow))).engine.sessions.lookup flow) := by
  have kept : WasEstablished (engine.sessions.lookup flow) := by
    rw [same.sessions]
    exact ⟨session, found, established⟩
  simp only [inboundAdmitted]
  split
  · rename_i missing
    rw [found] at missing
    cases missing
  rename_i held here
  cases found.symm.trans here
  split
  · exact kept
  split
  · exact kept
  · refine inboundKnown_stays same found established ?_ present
    exact established

theorem inbound_stays (found : before.sessions.lookup flow = some session)
    (established : session.state = .established) (free : session.pendingDelete = none)
    (present : turn.lookup flow ≠ some none) (wgId : UInt32) :
    WasEstablished ((before.inbound turn flow segment wgId).engine.sessions.lookup flow) := by
  have kept : WasEstablished (before.sessions.lookup flow) := ⟨session, found, established⟩
  rw [inbound]
  split
  · exact kept
  split
  · exact kept
  dsimp only
  split
  · rename_i deleting
    rw [found, Option.bind_some, free] at deleting
    cases deleting
  split
  · have observed := before.observeSyn_same flow turn.now
    split
    · rename_i result
      rw [result] at observed
      rw [observed.sessions]
      exact kept
    · rename_i result
      rw [result] at observed
      exact inboundAdmitted_stays observed found established present wgId _
  · exact inboundAdmitted_stays (.refl before) found established present wgId _

theorem closeRefused_engine {event : Event} {packet : Bytes} (refused : before.closeRefused event packet = true) :
    (before.inboundCapturedControl turn event packet).engine = before := by
  simp only [closeRefused, decide_eq_true_eq] at refused
  simp only [inboundCapturedControl]
  split
  · rfl
  split
  · rfl
  split
  · rfl
  split
  · rfl
  split
  · rfl
  · rename_i valid named identity type envelope
    tauto

/-- A captured close leaves an established session standing unless it validates against the entry and
the entry is deleted as it was looked up. -/
theorem control_stays {event : Event} {packet : Bytes} (found : before.sessions.lookup event.key = some session)
    (established : session.state = .established) (free : session.pendingDelete = none) :
    WasEstablished ((before.inboundCapturedControl turn event packet).engine.sessions.lookup event.key) ∨
      ∃ value, turn.lookup event.key = some (some value) ∧ validateIPv4TCPControl packet event value = true ∧
        before.controlUse turn event packet = .deletes ⟨value, .peerClose⟩ ∧
        ∃ result, turn.delete event.key value = some result ∧ result ≠ .different := by
  have kept : WasEstablished (before.sessions.lookup event.key) := ⟨session, found, established⟩
  cases refused : before.closeRefused event packet with
  | true =>
    rw [closeRefused_engine refused]
    exact .inl kept
  | false =>
    have admitted := refused
    simp only [closeRefused, decide_eq_false_iff_not, not_or] at refused
    obtain ⟨valid, named, identity, type, envelope⟩ := refused
    simp only [inboundCapturedControl, if_neg valid, if_neg named, if_neg (not_or.mpr identity), if_neg type]
    rw [if_neg (by tauto)]
    simp only [found, free]
    split
    · exact .inl kept
    rename_i owned
    rw [if_neg (not_not.mpr established)]
    split
    · exact .inl kept
    · exact .inl kept
    rename_i value refreshed looked
    have state := (lookup_carries established looked).1.established.mpr established
    split
    · exact .inl (wasEstablished_set (.refl before) state)
    rename_i accepted
    rw [Bool.not_eq_false] at accepted
    have used : before.controlUse turn event packet = .deletes ⟨value, .peerClose⟩ := by
      simp only [controlUse, admitted, Bool.false_eq_true, if_false, found, if_neg owned, free, lookUse, looked,
        established, ne_eq, not_true_eq_false, accepted, if_true, Option.elim_some]
    simp only [compareDeleteEstablished]
    cases answer : turn.delete event.key value with
    | none => exact .inl (wasEstablished_set (.refl before) state)
    | some result =>
      cases result with
      | different => exact .inl (wasEstablished_set (.refl before) state)
      | absent | removed =>
        exact .inr ⟨value, (lookupEstablished_found looked).2.1, accepted, used, _, answer, by decide⟩

theorem insertEstablished_refused (used : engine.insertUse turn flow session = .inserts value)
    (refused : turn.insert flow value = false) :
    ∃ stored cause, engine.insertEstablished turn flow session = (stored, some cause) := by
  rw [insertUse] at used
  split at used
  · rename_i nowMonotonic sessionId clock chosen
    cases used
    simp only [insertEstablished, clock, chosen, refused]
    exact ⟨_, _, rfl⟩
  · cases used

/-- A handshake whose insert is refused leaves the session as it was. -/
theorem completeHandshake_refused (original : Session) (same : SameSessions before engine)
    (entry : SameEntry session original)
    (used : before.insertUse turn flow (completed original segment) = .inserts value)
    (refused : turn.insert flow value = false) :
    (engine.completeHandshake turn flow session segment
      (before.checkpoint (before.sessions.lookup flow))).engine.sessions.lookup flow =
        before.sessions.lookup flow := by
  have released := same.trans (release_spec engine flow (completed session segment)).1
  have carried := (release_entry engine flow (completed session segment)).trans (completed_entry entry segment)
  rw [← insertUse_entry released carried] at used
  obtain ⟨stored, cause, answered⟩ := insertEstablished_refused used refused
  simp only [completeHandshake, answered]
  exact (leaves_restore released).here

theorem inbound_refused (used : before.inboundUse turn flow segment wgId = .inserts value)
    (refused : turn.insert flow value = false) :
    (before.inbound turn flow segment wgId).engine.sessions.lookup flow = before.sessions.lookup flow := by
  rw [inboundUse] at used
  split at used
  · cases used
  rename_i admitted
  rw [not_or] at admitted
  split at used
  · cases used
  rename_i session found
  split at used
  · cases used
  rename_i free
  split at used
  · cases used
  rename_i opened
  simp only [not_or] at opened
  obtain ⟨_, owner, opened⟩ := opened
  split at used
  · rename_i done
    have known (engine : Engine) (same : SameSessions before engine) (synSource : SynSourceKey) :
        (engine.inboundAdmitted turn flow segment wgId synSource (some session)
          (before.checkpoint (some session))).engine.sessions.lookup flow = some session := by
      simp only [inboundAdmitted, if_neg owner, if_neg opened, inboundKnown]
      rw [if_pos (by exact done), ← found]
      exact completeHandshake_refused session same ⟨rfl, rfl, rfl, rfl, rfl, rfl⟩ used refused
    simp only [inbound, if_neg admitted.1, if_neg admitted.2, found, free, Option.bind_some, Option.map_none]
    split
    · have observed := before.observeSyn_same flow turn.now
      split
      · rename_i result
        rw [result] at observed
        rw [observed.sessions]
        exact found
      · rename_i result
        rw [result] at observed
        exact known _ observed _
    · exact known before (.refl before) _
  · split at used <;> cases used

/-- The validator rejects only what the lookup has found. -/
theorem control_rejects {event : Event} {packet : Bytes}
    (rejected : .drop event.key .invalidCloseControl ∈ (before.inboundCapturedControl turn event packet).actions) :
    ∃ value, turn.lookup event.key = some (some value) ∧ validateIPv4TCPControl packet event value = false := by
  have other {actions : List Action} (member : .drop event.key .invalidCloseControl ∈ actions)
      (absent : Action.drop event.key .invalidCloseControl ∉ actions) :
      ∃ value, turn.lookup event.key = some (some value) ∧ validateIPv4TCPControl packet event value = false :=
    absurd member absent
  simp only [inboundCapturedControl] at rejected
  split at rejected
  · exact other rejected (by simp)
  split at rejected
  · exact other rejected (by simp)
  split at rejected
  · exact other rejected (by simp)
  split at rejected
  · exact other rejected (by simp)
  split at rejected
  · exact other rejected (by simp)
  split at rejected
  · exact other rejected (by simp)
  split at rejected
  · exact other rejected (by simp)
  split at rejected
  · simp only [retryPendingDelete] at rejected
    split at rejected <;> exact other rejected (by simp)
  split at rejected
  · exact other rejected (by simp)
  split at rejected
  · exact other rejected (by simp)
  · exact other rejected (by simp)
  rename_i value refreshed looked
  split at rejected
  · rename_i refused
    exact ⟨value, (lookupEstablished_found looked).2.1, refused⟩
  · split at rejected <;> exact other rejected (by simp)

end Calls
end Engine

namespace EngineCall
variable {engine : Engine} {turn : Turn} {call : EngineCall} {session : Session}

/-- A session that waits for a deletion is retried or left alone. -/
theorem pending_kept (turn : Turn) (found : engine.sessions.lookup call.flow = some session)
    (established : session.state = .established) (retained : session.pendingDelete = some request) :
    call.use engine turn = .retries request ∨
      (call.run engine turn).engine.sessions.lookup call.flow = engine.sessions.lookup call.flow := by
  cases call with
  | outbound flow packet alreadyDropped =>
    rw [EngineCall.flow] at found
    by_cases valid : engine.validateFlow flow = false
    · simp only [run, Engine.outbound, if_pos valid, EngineCall.flow, or_true]
    by_cases foreign : packet.wgId ≠ flow.wgId
    · simp only [run, Engine.outbound, if_neg valid, if_pos foreign, EngineCall.flow, or_true]
    · left
      simp only [use, Engine.outboundUse, if_neg (not_or.mpr ⟨valid, foreign⟩), found, established, ne_eq,
        not_true_eq_false, if_false, retained]
  | inbound flow segment wgId =>
    rw [EngineCall.flow] at found
    by_cases valid : engine.validateFlow flow = false
    · simp only [run, Engine.inbound, if_pos valid, EngineCall.flow, or_true]
    by_cases foreign : wgId ≠ flow.wgId
    · simp only [run, Engine.inbound, if_neg valid, if_pos foreign, EngineCall.flow, or_true]
    · left
      simp only [use, Engine.inboundUse, if_neg (not_or.mpr ⟨valid, foreign⟩), found, retained]
  | control event packet =>
    rw [EngineCall.flow] at found
    cases refused : engine.closeRefused event packet with
    | true =>
      right
      rw [run, Engine.closeRefused_engine refused]
    | false =>
      by_cases foreign : event.wgId = 0 ∨ session.wgId = 0 ∨ event.wgId ≠ session.wgId
      · right
        simp only [Engine.closeRefused, decide_eq_false_iff_not, not_or] at refused
        obtain ⟨valid, named, identity, type, envelope⟩ := refused
        simp only [run, Engine.inboundCapturedControl, if_neg valid, if_neg named, if_neg (not_or.mpr identity),
          if_neg type]
        rw [if_neg (by tauto)]
        simp only [found, if_pos foreign, EngineCall.flow]
      · left
        simp only [use, Engine.controlUse, refused, Bool.false_eq_true, if_false, found, if_neg foreign, retained]
  | tick flow nowMonotonic =>
    rw [EngineCall.flow] at found
    left
    simp only [use, Engine.tickUse, found, established, ne_eq, not_true_eq_false, if_false, retained]

/-- Only an inbound segment inserts. -/
theorem insert_refused (used : call.use engine turn = .inserts value)
    (refused : turn.insert call.flow value = false) :
    (call.run engine turn).engine.sessions.lookup call.flow = engine.sessions.lookup call.flow := by
  cases call with
  | inbound flow segment wgId => exact Engine.inbound_refused used refused
  | outbound flow packet alreadyDropped =>
    simp only [use, Engine.outboundUse] at used
    repeat' split at used
    all_goals cases used
  | control event packet =>
    simp only [use, Engine.controlUse, Engine.lookUse] at used
    repeat' split at used
    all_goals cases used
  | tick flow nowMonotonic =>
    simp only [use, Engine.tickUse, Engine.lookUse] at used
    repeat' split at used
    all_goals cases used

end EngineCall

namespace StoreWorld
variable {world : StoreWorld} {turn : Turn} {call : EngineCall} {script : StoreScript} {flow : SessionKey}
  {session : Session}

/-- What holds between calls. An established session that waits for no deletion has its entry. -/
structure Attended (world : StoreWorld) : Prop where
  sound : world.Sound
  handshaking : ∀ flow, Handshaking (world.engine.sessions.lookup flow)
  backed : ∀ flow session, world.engine.sessions.lookup flow = some session → session.state = .established →
    session.pendingDelete = none → world.ledger.sessions flow ≠ none

theorem reached_present (script : StoreScript) (present : world.ledger.sessions flow ≠ none) :
    (world.reached script).sessions flow ≠ none := writes_present present script.beforeAccess

/-- A call that neither inserts nor deletes finds an established session that it leaves so. -/
theorem plain_backed (kept : world.Attended)
    (idle : call.use world.engine (world.asking turn script) = .idle ∨
      call.use world.engine (world.asking turn script) = .looks)
    (found : (world.act turn call script).engine.sessions.lookup call.flow = some session)
    (established : session.state = .established) (free : session.pendingDelete = none) :
    world.ledger.sessions call.flow ≠ none := by
  rw [(world.act_engine turn call script).1] at found
  have use := world.answered_use turn call script
  have proceeds := Handshake.call_proceeds call world.engine (world.answered turn call script)
    (kept.handshaking call.flow)
  rcases proceeds.established session found established with ⟨original, here, held⟩ | ⟨_, _, _, _, _, _, completes⟩
  · cases retained : original.pendingDelete with
    | none => exact kept.backed call.flow original here held retained
    | some request =>
      rcases EngineCall.pending_kept (world.answered turn call script) here held retained with retried | same
      · rw [use] at retried
        rcases idle with idle | idle <;> cases idle.symm.trans retried
      · cases here.symm.trans (same.symm.trans found)
        cases retained.symm.trans free
  · have inserted := completes.inserted
    rw [use] at inserted
    rcases idle with idle | idle
    · rw [idle] at inserted
      cases inserted
    · rw [idle] at inserted
      cases inserted

theorem delete_backed {ledger : SessionLedger} (sound : world.Sound)
    (deleting : call.use world.engine (world.asking turn script) = .deletes request ∨
      call.use world.engine (world.asking turn script) = .retries request)
    (found : (world.delete turn call script ledger request).engine.sessions.lookup call.flow = some session)
    (free : session.pendingDelete = none) :
    (world.delete turn call script ledger request).ledger.sessions call.flow ≠ none := by
  have here := (delete_answered call script request ledger (sound.only call.flow) deleting).here
  rw [found] at here
  cases answer : (ledger.deleteEstablishedIfUnchanged world.generation call.flow request.expected script).2 with
  | none =>
    simp only [UseAnswered, Turn.deleting, answer] at here
    obtain ⟨_, ⟨⟩, _, retained⟩ := here
    cases retained.symm.trans free
  | some result =>
    cases result with
    | different => exact delete_different answer
    | absent | removed =>
      simp only [UseAnswered, Turn.deleting, answer] at here
      cases here

theorem insert_backed (kept : world.Attended)
    (inserting : call.use world.engine (world.asking turn script) = .inserts value)
    (found : (world.act turn call script).engine.sessions.lookup call.flow = some session)
    (established : session.state = .established) (free : session.pendingDelete = none) :
    (world.insert turn call script value).ledger.sessions call.flow ≠ none := by
  cases answer : ((world.reached script).insertEstablished world.generation call.flow value script).2 with
  | true =>
    obtain ⟨held, present, _⟩ := insert_backs answer
    intro gone
    cases present.symm.trans gone
  | false =>
    have use := (world.answered_use turn call script).trans inserting
    have refused : (world.answered turn call script).insert call.flow value = false := by
      simp only [StoreWorld.answered, inserting]
      exact answer
    rw [(world.act_engine turn call script).1, EngineCall.insert_refused use refused] at found
    have present := reached_present script (kept.backed call.flow session found established free)
    simp only [insert, finish, insertEstablished]
    split
    · exact present
    · intro gone
      have stored : Function.update (world.reached script).sessions call.flow (some value) call.flow = none := gone
      rw [Function.update_self] at stored
      cases stored

theorem Attended.act (kept : world.Attended) (nonzero : world.generation ≠ 0) (turn : Turn) (call : EngineCall)
    (script : StoreScript) : (world.act turn call script).Attended where
  sound := act_sound kept.sound nonzero turn call script
  handshaking := by
    intro flow
    rw [(world.act_engine turn call script).1]
    by_cases same : flow = call.flow
    · subst same
      exact (Handshake.call_proceeds call world.engine (world.answered turn call script)
        (kept.handshaking call.flow)).handshaking
    · rw [(call.answered world.engine (world.answered turn call script) (kept.sound.only call.flow)).frame flow same]
      exact kept.handshaking flow
  backed := by
    intro flow session found established free
    by_cases same : flow = call.flow
    · subst same
      have here := found
      cases use : call.use world.engine (world.asking turn script) with
      | idle =>
        have present := plain_backed kept (.inl use) found established free
        simp only [StoreWorld.act, use]
        exact reached_present script present
      | looks =>
        have present := plain_backed kept (.inr use) found established free
        simp only [StoreWorld.act, use, finish, looked_sessions]
        exact reached_present script present
      | deletes request =>
        simp only [StoreWorld.act, use] at here ⊢
        exact delete_backed kept.sound (.inl use) here free
      | retries request =>
        simp only [StoreWorld.act, use] at here ⊢
        exact delete_backed kept.sound (.inr use) here free
      | inserts value =>
        simp only [StoreWorld.act, use]
        exact insert_backed kept use found established free
    · rw [(world.act_engine turn call script).1,
        (call.answered world.engine (world.answered turn call script) (kept.sound.only call.flow)).frame flow same]
        at found
      obtain ⟨packets, written⟩ := world.act_frame turn call script same
      rw [written]
      exact writes_present (kept.backed flow session found established free) packets

theorem Attended.step (kept : world.Attended) (nonzero : world.generation ≠ 0) (input : StoreInput) :
    (world.step input).Attended := by
  cases input with
  | packet write =>
    refine ⟨step_sound kept.sound nonzero (.packet write), kept.handshaking, ?_⟩
    intro flow session found established free
    exact writes_present (kept.backed flow session found established free) [write]
  | call turn call script => exact kept.act nonzero turn call script

end StoreWorld

/-- The calls that input from the peer makes. -/
def EngineCall.fromPeer : EngineCall → Bool
  | .inbound .. | .control .. => true
  | .outbound .. | .tick .. => false

/-- A close that is fit for the session with the entry `value`. -/
structure Teardown (event : Event) (packet : Bytes) (value : SessionValue) : Prop where
  length : packet.length = 40
  flags : packet.byteAt 33 = flagRst ||| flagAck ∨ packet.byteAt 33 = flagFin ||| flagAck
  ipChecksum : checksumValid (packet.take 20) = true
  tcpChecksum : transportChecksumValid (packet.slice 12 8) 6 (packet.drop 20) = true
  addresses : packet.le32 12 = event.key.remoteIpv4 ∧ packet.le32 16 = event.key.localIpv4
  ports : packet.be16 20 = event.key.remotePort.toNat ∧ packet.be16 22 = event.key.localPort.toNat
  sequence : packet.be32 24 = value.rxSequence.toNat
  acknowledgement : packet.be32 28 = value.txSequence.toNat
  window : packet.be16 34 = value.window.toNat
  revision : event.sessionRevision = value.revision
  sessionId : event.sessionId = value.sessionId
  incarnation : event.runtimeIncarnation = value.runtimeIncarnation

theorem teardown_of_valid (accepted : Engine.validateIPv4TCPControl packet event value = true) :
    Teardown event packet value := by
  simp only [Engine.validateIPv4TCPControl, decide_eq_true_eq, Bytes.byteAt_drop, Bytes.be16_drop,
    Bytes.be32_drop] at accepted
  obtain ⟨_, _, _, _, _, _, revision, sessionId, incarnation, length, _, _, _, _, _, ipChecksum, remote, here, _,
    remotePort, localPort, tcpChecksum, flags, _, sequence, acknowledgement, window, _⟩ := accepted
  refine ⟨length, flags, ipChecksum, tcpChecksum, ⟨remote, here⟩, ⟨remotePort, localPort⟩, ?_, ?_, ?_, revision,
    sessionId, incarnation⟩
  · rw [← sequence, UInt32.toNat_ofNat', Nat.mod_eq_of_lt (Bytes.be32_lt ..)]
  · rw [← acknowledgement, UInt32.toNat_ofNat', Nat.mod_eq_of_lt (Bytes.be32_lt ..)]
  · rw [← window, UInt16.toNat_ofNat', Nat.mod_eq_of_lt (Bytes.be16_lt ..)]

/-- How a call from the peer ended the session of `flow`: with a close that fits the entry it looked
up, which was deleted as it stood. -/
structure StoreWorld.TornDown (world : StoreWorld) (call : EngineCall) (script : StoreScript) (flow : SessionKey)
    (event : Event) (packet : Bytes) (value : SessionValue) : Prop where
  received : call = .control event packet
  named : event.key = flow
  teardown : Teardown event packet value
  looked : (world.reached script).lookupEstablished world.generation flow script = some (some value)
  deleted : ((world.looked flow script).deleteEstablishedIfUnchanged world.generation flow value script).2 =
    some .removed

namespace StoreWorld
variable {world : StoreWorld} {turn : Turn} {call : EngineCall} {script : StoreScript} {flow : SessionKey}
  {session : Session}

theorem answered_lookup (world : StoreWorld) (turn : Turn) (call : EngineCall) (script : StoreScript) :
    (world.answered turn call script).lookup =
      fun key => (world.reached script).lookupEstablished world.generation key script := by
  simp only [StoreWorld.answered]
  split <;> rfl

theorem act_tornDown (kept : world.Attended) (peer : call.fromPeer = true)
    (found : world.engine.sessions.lookup flow = some session) (established : session.state = .established)
    (free : session.pendingDelete = none)
    (ended : ¬WasEstablished ((world.act turn call script).engine.sessions.lookup flow)) :
    ∃ event packet value, world.TornDown call script flow event packet value := by
  have engine := (world.act_engine turn call script).1
  rw [engine] at ended
  have here : flow = call.flow := by
    by_contra other
    rw [(call.answered world.engine (world.answered turn call script) (kept.sound.only call.flow)).frame flow other]
      at ended
    exact ended ⟨session, found, established⟩
  have present := reached_present script (kept.backed flow session found established free)
  subst here
  cases call with
  | outbound | tick => cases peer
  | inbound flow segment wgId =>
    refine absurd (Engine.inbound_stays found established free ?_ wgId) ended
    rw [answered_lookup]
    exact fun missing => present (lookup_missing missing)
  | control event packet =>
    rcases Engine.control_stays found established free with stays | ⟨value, looked, accepted, used, result, answer,
      matched⟩
    · exact absurd stays ended
    have use := (world.answered_use turn (.control event packet) script).symm.trans used
    rw [answered_lookup] at looked
    simp only [StoreWorld.answered, use] at answer
    have held : (world.looked event.key script).sessions event.key ≠ none := by
      rw [looked_sessions]
      exact present
    have removed := delete_present held answer matched
    subst removed
    exact ⟨event, packet, value, rfl, rfl, teardown_of_valid accepted, looked, answer⟩

end StoreWorld

/-- An established session is closed by its peer with a packet that fits its entry and with nothing
else; and a close that has passed the packet program's gate for an entry is rejected only on another. -/
theorem validated_teardown :
    (∀ (generation : UInt64) (engine : Engine) (sessions : SessionMap) (inputs : List StoreInput) (turn : Turn)
      (call : EngineCall) (script : StoreScript) (flow : SessionKey) (session : Session), generation ≠ 0 →
      engine.sessions = ∅ → call.fromPeer = true →
      (run StoreWorld.step ⟨generation, engine, ⟨sessions, []⟩⟩ inputs).engine.sessions.lookup flow = some session →
      session.state = .established → session.pendingDelete = none →
      ¬WasEstablished (((run StoreWorld.step ⟨generation, engine, ⟨sessions, []⟩⟩ inputs).act turn call
        script).engine.sessions.lookup flow) →
      ∃ event packet value, (run StoreWorld.step ⟨generation, engine, ⟨sessions, []⟩⟩ inputs).TornDown call script
        flow event packet value) ∧
    ∀ (build : Build) (maps : PolicyMaps) (kernel : Kernel) (env : Env) (ctx : Xdp.Context) (generation : UInt64)
      (output : RingOutput) (event : Event) (packet : Bytes), output ∈ emitted build maps kernel env ctx generation →
      decodeBorrowedEventSample output.record = .ok ⟨event, packet⟩ → closeEvent event.type = true →
      ∃ value, kernel.sessions event.key = some value ∧
        Engine.validateIPv4TCPControl packet event value = true ∧
        ∀ (world : StoreWorld) (turn : Turn) (script : StoreScript),
          .drop event.key .invalidCloseControl ∈ world.actions turn (.control event packet) script →
          ∃ current, (world.reached script).sessions event.key = some current ∧ current ≠ value := by
  constructor
  · intro generation engine sessions inputs turn call script flow session nonzero fresh peer found established free
      ended
    have initial : (⟨generation, engine, ⟨sessions, []⟩⟩ : StoreWorld).Attended := by
      have none (flow : SessionKey) : engine.sessions.lookup flow = none := by
        rw [fresh]
        rfl
      refine ⟨⟨.nil, ?_, ?_⟩, ?_, ?_⟩
      · intro flow session request found
        cases (none flow).symm.trans found
      · intro flow session request found
        cases (none flow).symm.trans found
      · intro flow session found
        cases (none flow).symm.trans found
      · intro flow session found
        cases (none flow).symm.trans found
    have kept : ∀ (world : StoreWorld) (input : StoreInput), world.Attended ∧ world.generation = generation →
        (world.step input).Attended ∧ (world.step input).generation = generation := by
      rintro world input ⟨attended, rfl⟩
      exact ⟨attended.step nonzero input, world.step_generation input⟩
    obtain ⟨attended, _⟩ := always kept ⟨initial, rfl⟩ inputs
    exact StoreWorld.act_tornDown attended peer found established free ended
  · intro build maps kernel env ctx generation output event packet handed decoded closing
    obtain ⟨value, found, valid⟩ := CloseGate.record_validates handed decoded closing
    refine ⟨value, found, valid, ?_⟩
    intro world turn script rejected
    obtain ⟨current, looked, refused⟩ := Engine.control_rejects rejected
    rw [StoreWorld.answered_lookup] at looked
    refine ⟨current, (lookup_found looked).2.1, ?_⟩
    rintro rfl
    cases valid.symm.trans refused

section Sample

/-- The peer's reset of the flow once it is established. -/
def sampleClose : Bytes :=
  [0x45, 0, 0, 40, 0, 1, 0x40, 0, 64, 6, 0x4e, 0x91, 198, 51, 100, 9, 192, 0, 2, 1] ++
    [0x9c, 0x40, 0xca, 0x6c, 0, 0, 1, 0xf5, 0, 0, 0, 0x65, 0x50, 0x14, 0xff, 0xff, 0x5a, 0x8b, 0, 0]

def sampleCloseFrame : Xdp.Context where
  frame := [2, 0, 0, 0, 0, 1, 2, 0, 0, 0, 0, 2, 0x08, 0x00] ++ sampleClose
  ingressIfindex := 2

def sampleOpened : StoreWorld := run StoreWorld.step ⟨7, sampleEngine, ⟨fun _ => none, []⟩⟩ (sampleInputs.take 2)

def sampleOpenedKernel : Kernel := { exampleKernel with sessions := sampleOpened.ledger.sessions }

def sampleCloseEvent : Event where
  key := samplePeer
  timestampNanos := 1000
  runtimeIncarnation := Xdp.sampleIncarnation
  sessionRevision := 1
  sessionId := 1
  sequence := 501
  acknowledgement := 101
  wgId := 1
  packetLength := 40
  eventAbiVersion := Bpf.eventAbiVersion
  type := EventType.rst.code
  tcpFlags := flagRst ||| flagAck

/-- The packet program captures the reset, and it closes the session. -/
theorem sample_teardown :
    (∃ output ∈ emitted .default Xdp.sampleMaps sampleOpenedKernel { now := 1000 } sampleCloseFrame 7,
      decodeBorrowedEventSample output.record = .ok ⟨sampleCloseEvent, sampleClose⟩ ∧
      ∃ value, sampleOpened.ledger.sessions samplePeer = some value ∧
        Engine.validateIPv4TCPControl sampleClose sampleCloseEvent value = true) ∧
    ∃ event packet value, sampleOpened.TornDown (.control sampleCloseEvent sampleClose) {} samplePeer event
      packet value := by
  have record : (emitted .default Xdp.sampleMaps sampleOpenedKernel { now := 1000 } sampleCloseFrame 7).map
      RingOutput.record = [sampleCloseEvent.encode ++ sampleClose] := by
    decide +kernel
  obtain ⟨output, handed, same⟩ : ∃ output ∈ emitted .default Xdp.sampleMaps sampleOpenedKernel { now := 1000 }
      sampleCloseFrame 7, output.record = sampleCloseEvent.encode ++ sampleClose := by
    rw [← List.mem_map, record]
    exact List.mem_singleton.mpr rfl
  have decoded : decodeBorrowedEventSample output.record = .ok ⟨sampleCloseEvent, sampleClose⟩ := by
    rw [same]
    decide +kernel
  obtain ⟨value, found, valid, _⟩ := validated_teardown.2 .default Xdp.sampleMaps sampleOpenedKernel { now := 1000 }
    sampleCloseFrame 7 output sampleCloseEvent sampleClose handed decoded rfl
  have opened : (sampleOpened.engine.sessions.lookup samplePeer).map (fun session =>
      (session.state, session.pendingDelete.isNone)) = some (.established, true) := by
    decide +kernel
  have closed : (sampleOpened.act (sampleTurn 5 103) (.control sampleCloseEvent sampleClose)
      {}).engine.sessions.lookup samplePeer = none := by
    decide +kernel
  obtain ⟨session, here, fields⟩ := Option.map_eq_some_iff.mp opened
  obtain ⟨established, free⟩ := Prod.mk.inj fields
  refine ⟨⟨output, handed, decoded, value, found, valid⟩, ?_⟩
  refine validated_teardown.1 7 sampleEngine (fun _ => none) (sampleInputs.take 2) (sampleTurn 5 103) _ {}
    samplePeer session (by decide) rfl rfl here established (Option.isNone_iff_eq_none.mp free) ?_
  rintro ⟨left, still, _⟩
  cases closed.symm.trans still

end Sample

end WgMix.FakeTcp
