import WgMix.FakeTcp.Handshake
import WgMix.FakeTcp.StoreUse

/-! When the two ends of a flow agree on their initial numbers. A session that
sent the SYN learns the peer's number from the segment that completes it; one
that received the SYN completes on any acknowledgement of its own number. -/
namespace WgMix.FakeTcp.Handshake
open Bpf Runs

/-- The numbers of a session that is still half open. -/
def Handshaking (found : Option Session) : Prop :=
  ∀ session, found = some session → session.Numbered

/-- What a control segment says about the session that sends it. -/
structure Announces (control : ControlPacket) (reason : Reason) (session : Session) : Prop where
  flags : control.flags = flagSyn ∨ control.flags = flagSyn ||| flagAck ∨ control.flags = flagAck
  synAck : control.flags = flagSyn ||| flagAck → control.sequence = session.localIsn
  completion : reason = .completeHandshake → control.sequence = session.localIsn + 1

def Faithful (flow : SessionKey) (found : Option Session) : Action → Prop
  | .sendControl target _ control reason =>
    target = flow ∧ ∃ session, found = some session ∧ Announces control reason session
  | _ => True

def WasEstablished (found : Option Session) : Prop :=
  ∃ session, found = some session ∧ session.state = .established

/-- One call for `flow`; `newly` is what it takes to become established. -/
structure Proceeds (before : Engine) (flow : SessionKey) (newly : Session → Prop) (outcome : Outcome) : Prop where
  handshaking : Handshaking (outcome.engine.sessions.lookup flow)
  faithful : ∀ action ∈ outcome.actions, Faithful flow (outcome.engine.sessions.lookup flow) action
  established : ∀ session, outcome.engine.sessions.lookup flow = some session →
    session.state = .established → WasEstablished (before.sessions.lookup flow) ∨ newly session

section Calls
open Engine
variable {before engine : Engine} {turn : Turn} {flow : SessionKey} {newly : Session → Prop}

theorem handshaking_none : Handshaking none := by
  intro session found
  cases found

/-- A call that sends nothing and leaves the session as it was, or none. -/
theorem proceeds_quiet (handshaking : Handshaking (before.sessions.lookup flow))
    (leaves : Leaves before flow (before.sessions.lookup flow) outcome.engine)
    (quiet : ∀ action ∈ outcome.actions, ∀ found, Faithful flow found action) :
    Proceeds before flow newly outcome where
  handshaking := by
    rw [leaves.here]
    exact handshaking
  faithful := fun action member => quiet action member _
  established := by
    intro session found state
    rw [leaves.here] at found
    exact .inl ⟨session, found, state⟩

theorem proceeds_gone (leaves : Leaves before flow none outcome.engine)
    (quiet : ∀ action ∈ outcome.actions, ∀ found, Faithful flow found action) :
    Proceeds before flow newly outcome where
  handshaking := by
    rw [leaves.here]
    exact handshaking_none
  faithful := fun action member => quiet action member _
  established := by
    intro session found
    rw [leaves.here] at found
    cases found

theorem quiet_nil : ∀ action ∈ ([] : List Action), ∀ found, Faithful flow found action := by
  intro action member
  cases member

theorem quiet_one {action : Action} (quiet : ∀ found, Faithful flow found action) :
    ∀ each ∈ [action], ∀ found, Faithful flow found each := by
  intro each member
  rw [List.mem_singleton.mp member]
  exact quiet

/-- A call that writes `session` and sends `actions` for it. -/
theorem proceeds_set (same : SameSessions before engine) (error : Option EngineError)
    (handshaking : Handshaking (some session))
    (faithful : ∀ action ∈ actions, Faithful flow (some session) action)
    (established : session.state = .established →
      WasEstablished (before.sessions.lookup flow) ∨ newly session) :
    Proceeds before flow newly ⟨engine.setSession flow session, actions, error⟩ := by
  have here : (engine.setSession flow session).sessions.lookup flow = some session :=
    (leaves_set same session).here
  constructor
  · rw [here]
    exact handshaking
  · rw [here]
    exact faithful
  · intro after found state
    rw [here] at found
    cases found
    exact established state

theorem handshaking_entry {other : Session} (handshaking : Handshaking (some session))
    (entry : SameEntry other session) : Handshaking (some other) := by
  obtain ⟨sent, received⟩ := handshaking session rfl
  rintro _ ⟨⟩
  rw [Session.Numbered, entry.state, entry.txSequence, entry.rxSequence, entry.localIsn, entry.remoteIsn]
  exact ⟨sent, received⟩

theorem drop_quiet (reason : Reason) :
    ∀ action ∈ [Action.drop flow reason], ∀ found, Faithful flow found action := quiet_one fun _ => trivial

theorem enqueue_entry (queued : engine.enqueue session packet = some (after, longer)) :
    SameEntry longer session := by
  simp only [enqueue] at queued
  split_ifs at queued <;> cases queued <;> exact ⟨rfl, rfl, rfl, rfl, rfl, rfl⟩

/-- A SYN or SYN+ACK announces the number of its session. -/
theorem control_faithful (engine : Engine) (flow : SessionKey) (session : Session) {flags : UInt8} {reason : Reason}
    (kind : flags = flagSyn ∨ flags = flagSyn ||| flagAck) (other : reason ≠ .completeHandshake) (ack : UInt32)
    {after : Session} (same : after.localIsn = session.localIsn) :
    Faithful flow (some after) (engine.control flow session flags session.localIsn ack reason) := by
  refine ⟨rfl, after, rfl, ?_, fun _ => same.symm, fun completing => absurd completing other⟩
  rcases kind with syn | synAck
  · exact .inl syn
  · exact .inr (.inl synAck)

theorem reply_faithful (reply : Reply turn engine flow brought use next actions) :
    ∀ action ∈ actions, Faithful flow (some next) action := by
  intro action member
  cases reply with
  | silent said =>
    rw [said] at member
    cases member
  | dropped said =>
    rw [said] at member
    exact drop_quiet _ action member _
  | forwarded said =>
    rw [said] at member
    cases List.mem_singleton.mp member
    trivial
  | spoke flags ack said own kind other =>
    rw [said] at member
    cases List.mem_singleton.mp member
    exact control_faithful engine flow next kind other ack rfl
  | alive ack said =>
    rw [said] at member
    cases List.mem_singleton.mp member
    refine ⟨rfl, next, rfl, .inr (.inr rfl), ?_, ?_⟩
    · intro both
      cases both
    · intro completing
      cases completing

theorem opening_faithful (engine : Engine) {session after : Session} (same : after.localIsn = session.localIsn)
    (created : Bool) : ∀ action ∈ engine.opening flow session created, Faithful flow (some after) action := by
  intro action member
  rw [opening] at member
  split at member
  · cases List.mem_singleton.mp member
    exact control_faithful engine flow session (.inl rfl) (by decide) 0 same
  · cases member

theorem starts_numbered (starts : Starts engine flow found counted session created)
    (handshaking : Handshaking found) : session.Numbered := by
  cases starts with
  | held unchanged old held halfOpen carries => exact carries.numbered (handshaking _ held)
  | opened => assumption

theorem handshaking_some (numbered : session.Numbered) : Handshaking (some session) := by
  rintro _ ⟨⟩
  exact numbered

theorem Proceeds.mono {holds : Session → Prop} (proceeds : Proceeds before flow newly outcome)
    (weaken : ∀ session, newly session → holds session) : Proceeds before flow holds outcome where
  handshaking := proceeds.handshaking
  faithful := proceeds.faithful
  established := by
    intro session found state
    rcases proceeds.established session found state with was | new
    · exact .inl was
    · exact .inr (weaken session new)

section Courses
variable {segment : Segment} {original seen stored : Session}

/-- The handshake that `segment` completes for `original`, as the store is asked to take it over. -/
structure Completes (use : StoreUse) (original : Session) (segment : Segment) (session : Session) : Prop where
  completes : completes original segment = true
  localIsn : session.localIsn = original.localIsn
  remoteIsn : session.remoteIsn = (completed original segment).remoteIsn
  inserted : insertedRx use = some (completed original segment).rxSequence

/-- The session of the flow before the call, completed by this segment. -/
def Newly (before : Engine) (flow : SessionKey) (use : StoreUse) (segment : Segment) (session : Session) : Prop :=
  ∃ original, before.sessions.lookup flow = some original ∧ Completes use original segment session

/-- The handshake of `seen` was completed and its insert answered. -/
theorem finished_proceeds (same : SameSessions before engine) (found : before.sessions.lookup flow = some original)
    (numbered : seen.Numbered) (entry : SameEntry seen original) (done : completes original segment = true)
    (inserted : (engine.release flow (completed seen segment)).1.insertEstablished turn flow
      (engine.release flow (completed seen segment)).2.1 = (stored, none)) :
    Proceeds before flow (Newly before flow (engine.insertUse turn flow (completed original segment)) segment)
      ⟨((engine.release flow (completed seen segment)).1.releaseHalfOpen stored (turn.releasedAt flow)).setSession
          flow { stored with halfOpenHeld := false },
        engine.completionAck flow seen (completed seen segment) ++
          (engine.release flow (completed seen segment)).2.2, none⟩ := by
  have released := (release_spec engine flow (completed seen segment)).1
  have kept := completed_entry entry segment
  have carried := (release_entry engine flow (completed seen segment)).trans kept
  obtain ⟨nowMonotonic, sessionId, used, _⟩ := insertEstablished_done inserted
  rw [insertUse_entry released carried] at used
  obtain ⟨_, stays⟩ := insertEstablished_keeps inserted
  obtain ⟨_, _, counts⟩ := completed_keeps original segment
  have localIsn : stored.localIsn = (completed seen segment).localIsn := by
    rw [stays, kept.localIsn]
    exact carried.localIsn
  refine proceeds_set ((same.trans released).trans (releaseHalfOpen_same _ stored _)) none ?_ ?_ fun _ => .inr ?_
  · exact handshaking_some (Session.numbered_established (stored_keeps inserted).2.2.1)
  · intro action member
    rcases List.mem_append.mp member with acked | released
    · simp only [completionAck] at acked
      split at acked
      · rename_i sent
        rw [List.mem_singleton.mp acked]
        have numbers : (completed seen segment).txSequence = (completed seen segment).localIsn + 1 := by
          simp only [completed, sent]
          exact numbered.1 sent
        refine ⟨rfl, _, rfl, .inr (.inr rfl), ?_, fun _ => ?_⟩
        · intro both
          cases both
        · exact numbers.trans (congrArg (· + 1) localIsn.symm)
      · cases acked
    · simp only [release] at released
      split at released
      · cases released
      · rw [List.mem_singleton.mp released]
        trivial
  · refine ⟨original, found, done, ?_, ?_, ?_⟩
    · rw [show ({ stored with halfOpenHeld := false } : Session).localIsn = stored.localIsn from rfl, localIsn,
        kept.localIsn, counts]
    · rw [stays]
      exact carried.remoteIsn
    · rw [used]
      exact congrArg some carried.rxSequence

theorem course_proceeds (course : engine.Course turn flow (before.checkpoint (before.sessions.lookup flow)) brought
      arrived use (before.sessions.lookup flow) outcome)
    (same : SameSessions before engine) (handshaking : Handshaking (before.sessions.lookup flow)) :
    Proceeds before flow (fun session => ∃ segment, arrived = some segment ∧ Newly before flow use segment session)
      outcome := by
  cases course with
  | idle result => exact result ▸ proceeds_quiet handshaking (leaves_same same) quiet_nil
  | refused result => exact result ▸ proceeds_quiet handshaking (leaves_same same) (drop_quiet _)
  | set result held carries answered reply =>
    exact result ▸ proceeds_set same _ (handshaking_some (carries.numbered (handshaking _ held)))
      (reply_faithful reply) fun state => .inl ⟨_, held, carries.established.mp state⟩
  | removed result =>
    exact result ▸ proceeds_gone (leaves_remove same turn flow _) (quiet_one fun _ => trivial)
  | restored result => exact result ▸ proceeds_quiet handshaking (leaves_restore same) (drop_quiet _)
  | passed result arriving held established carries =>
    refine result ▸ proceeds_set same _ (handshaking_some (carries.numbered (handshaking _ held))) ?_
      fun _ => .inl ⟨_, held, established⟩
    intro action member
    rw [List.mem_singleton.mp member]
    trivial
  | queued result arriving starts enqueued =>
    have entry := enqueue_entry enqueued
    have unchanged := (same.trans starts.same).trans (enqueue_spec enqueued).1
    refine result ▸ proceeds_set unchanged none ?_ (opening_faithful _ entry.localIsn _) ?_
    · exact handshaking_entry (handshaking_some (starts_numbered starts handshaking)) entry
    · exact fun state => absurd (entry.state.symm.trans state) starts.halfOpen
  | full result starts =>
    refine result ▸ proceeds_set (same.trans starts.same) none ?_ ?_ fun state => absurd state starts.halfOpen
    · exact handshaking_some (starts_numbered starts handshaking)
    · intro action member
      rcases List.mem_append.mp member with opened | dropped
      · exact opening_faithful _ rfl _ action opened
      · exact drop_quiet _ action dropped _
  | accepted result own missing valid owner room reserved opens received numbered =>
    refine result ▸ proceeds_set (same.trans (reserve_same engine reserved)) none (handshaking_some numbered) ?_ ?_
    · intro action member
      rw [List.mem_singleton.mp member]
      exact control_faithful _ flow _ (.inr rfl) (by decide) _ rfl
    · intro state
      cases received.symm.trans state
  | finished segment result own arriving held carries entry done asked inserted =>
    have proceeds := finished_proceeds same held (carries.numbered (handshaking _ held)) entry done inserted
    rw [← asked, ← result] at proceeds
    exact proceeds.mono fun session newly => ⟨segment, arriving, newly⟩

end Courses

end Calls

/-- What becoming established takes, by the call. -/
def Establishes (engine : Engine) (turn : Turn) (call : EngineCall) (session : Session) : Prop :=
  ∃ flow segment wgId, call = .inbound flow segment wgId ∧ Newly engine flow (call.use engine turn) segment session

theorem call_proceeds (call : EngineCall) (engine : Engine) (turn : Turn)
    (handshaking : Handshaking (engine.sessions.lookup call.flow)) :
    Proceeds engine call.flow (Establishes engine turn call) (call.run engine turn) := by
  refine (course_proceeds (call.course engine turn) (call.admitted_same engine turn) handshaking).mono ?_
  rintro session ⟨segment, arriving, newly⟩
  cases call with
  | inbound flow arrived wgId =>
    cases arriving
    exact ⟨flow, segment, wgId, rfl, newly⟩
  | _ => cases arriving

/-- The peer has had a session with the number that this side took for it, and
that session has acknowledged this side's number; the entry given to the store
starts behind the peer's SYN. -/
def Agreed (before : List Occurrence) : Occurrence → Prop
  | .established side localIsn remoteIsn inserted =>
    (∃ segment, .sent segment ∈ before ∧ segment.sender = side.peer ∧ segment.localIsn = remoteIsn ∧
      segment.control.acknowledgement = localIsn + 1) ∧ inserted = some (remoteIsn + 1)
  | .sent _ => True

/-- The segment carries the number that a session which received a SYN expects
next: a SYN+ACK the peer's own, the last segment of a handshake the one behind it. -/
def Answers (session : Session) (segment : Sent) : Prop :=
  (segment.control.flags = flagSyn ||| flagAck ∧ segment.control.sequence = session.remoteIsn) ∨
  (segment.reason = .completeHandshake ∧ segment.control.sequence = session.rxSequence)

instance (session : Session) (segment : Sent) : Decidable (Answers session segment) :=
  inferInstanceAs (Decidable (_ ∨ _))

/-- A session in SYN_RECV is completed only by segments that answer it. -/
def Answered (path : Path) (parties : Parties) (input : Input) : Prop :=
  ∀ segment ∈ parties.delivered input.side input.call,
    ∀ session ∈ (parties.engine input.side).sessions.lookup (path.flow input.side),
      session.state = .synRecv → Engine.completes session segment.segment = true → Answers session segment

instance (path : Path) (parties : Parties) (input : Input) : Decidable (Answered path parties input) :=
  inferInstanceAs (Decidable (∀ segment ∈ parties.delivered input.side input.call, _))

structure Sound (path : Path) (parties : Parties) : Prop where
  handshaking : ∀ side, Handshaking ((parties.engine side).sessions.lookup (path.flow side))
  announced : ∀ segment, .sent segment ∈ parties.history → ∃ session : Session,
    session.localIsn = segment.localIsn ∧ Announces segment.control segment.reason session
  agreed : Permitted Agreed parties.history

section Steps
variable {path : Path} {parties : Parties} {side : Side} {turn : Turn} {call : EngineCall}

theorem received_sent {segment : Sent} (member : segment ∈ parties.received side) :
    .sent segment ∈ parties.history ∧ segment.sender = side.peer := by
  obtain ⟨occurrence, held, chosen⟩ := List.mem_filterMap.mp member
  cases occurrence with
  | established => cases chosen
  | sent other =>
    simp only at chosen
    split at chosen
    · rename_i sender
      cases chosen
      exact ⟨held, sender⟩
    · cases chosen

theorem sent_received {segment : Sent} (member : .sent segment ∈ parties.history)
    (sender : segment.sender = side.peer) : segment ∈ parties.received side :=
  List.mem_filterMap.mpr ⟨_, member, if_pos sender⟩

theorem becomesEstablished_some (became : becomesEstablished before after = some session) :
    after = some session ∧ session.state = .established ∧ ¬WasEstablished before := by
  obtain ⟨found, new⟩ := Option.filter_eq_some_iff.mp became
  simp only [decide_eq_true_eq] at new
  refine ⟨found, new.1, ?_⟩
  rintro ⟨earlier, held, state⟩
  exact new.2 (by simp [held, state])

theorem engineCall_flow (made : parties.engineCall path side call' = some call) : call.flow = path.flow side := by
  cases call' with
  | outbound packet alreadyDropped =>
    cases made
    rfl
  | tick nowMonotonic =>
    cases made
    rfl
  | close event packet =>
    cases made
    rfl
  | deliver index =>
    obtain ⟨segment, _, rfl⟩ := Option.map_eq_some_iff.mp made
    rfl

/-- An inbound call delivers a segment of the peer. -/
theorem engineCall_inbound {segment : Segment}
    (made : parties.engineCall path side call' = some (.inbound flow segment wgId)) :
    ∃ sent ∈ parties.received side, sent ∈ parties.delivered side call' ∧ segment = sent.segment ∧
      flow = path.flow side := by
  cases call' with
  | outbound packet alreadyDropped => cases made
  | tick nowMonotonic => cases made
  | close event packet => cases made
  | deliver index =>
    obtain ⟨sent, found, same⟩ := Option.map_eq_some_iff.mp made
    cases same
    exact ⟨sent, List.mem_of_getElem? found, found, rfl, rfl⟩

/-- The segment that completes a handshake was sent by a session with the number taken for the peer. -/
theorem completion_agrees (sound : Sound path parties) (member : sent ∈ parties.received side)
    {original : Session} (halfOpen : Handshaking (some original))
    (completes : Engine.completes original sent.segment = true)
    (answers : original.state = .synRecv → Answers original sent) :
    sent.localIsn = (Engine.completed original sent.segment).remoteIsn ∧
      sent.control.acknowledgement = original.localIsn + 1 ∧
      (Engine.completed original sent.segment).rxSequence =
        (Engine.completed original sent.segment).remoteIsn + 1 := by
  obtain ⟨session, same, announces⟩ := sound.announced sent (received_sent member).1
  obtain ⟨opened, accepted⟩ := halfOpen original rfl
  cases state : original.state with
  | synSent =>
    simp only [Engine.completes, state, decide_eq_true_eq] at completes
    simp only [Engine.completed, state]
    obtain ⟨flags, acknowledged⟩ := completes
    have both : sent.control.flags = flagSyn ||| flagAck := by
      rcases announces.flags with syn | both | ack
      · rw [show sent.segment.flags = flagSyn from syn] at flags
        cases flags
      · exact both
      · rw [show sent.segment.flags = flagAck from ack] at flags
        cases flags
    refine ⟨same.symm.trans (announces.synAck both).symm, ?_, trivial⟩
    exact Eq.trans acknowledged (opened state)
  | synRecv =>
    simp only [Engine.completes, state, decide_eq_true_eq] at completes
    simp only [Engine.completed, state]
    obtain ⟨tx, rx⟩ := accepted state
    refine ⟨?_, Eq.trans completes.2.2 tx, rx⟩
    rcases answers state with ⟨flags, sequence⟩ | ⟨reason, sequence⟩
    · rw [← same, ← announces.synAck flags, sequence]
    · have next := announces.completion reason
      rw [sequence, rx, same] at next
      exact (UInt32.add_left_inj 1).mp next.symm
  | idle => simp only [Engine.completes, state, Bool.false_eq_true] at completes
  | established => simp only [Engine.completes, state, Bool.false_eq_true] at completes
  | deleteClaimed => simp only [Engine.completes, state, Bool.false_eq_true] at completes

/-- Everything a call sends, it sends for the session it leaves. -/
theorem occurrences_sent {flow : SessionKey} {engine : Engine} {segment : Sent}
    (proceeds : Proceeds engine flow newly (call.run engine turn))
    (member : .sent segment ∈ occurrences side flow engine turn call) : ∃ session : Session,
      session.localIsn = segment.localIsn ∧ Announces segment.control segment.reason session := by
  simp only [occurrences, List.mem_append, Option.mem_toList] at member
  rcases member with established | sends
  · obtain ⟨session, _, same⟩ := Option.map_eq_some_iff.mp established
    cases same
  · obtain ⟨action, held, sent⟩ := List.mem_filterMap.mp sends
    have faithful := proceeds.faithful action held
    cases action with
    | sendControl target wgId control reason =>
      simp only at sent
      split at sent
      · obtain ⟨session, found, same⟩ := Option.map_eq_some_iff.mp sent
        cases same
        obtain ⟨_, announcer, here, announces⟩ := faithful
        cases here.symm.trans found
        exact ⟨session, rfl, announces⟩
      · cases sent
    | drop | forward | releasePending | close => cases sent

theorem occurrences_agreed (sound : Sound path parties) (input : Input)
    (answered : Answered path parties input)
    (made : parties.engineCall path input.side input.call = some call)
    (proceeds : Proceeds (parties.engine input.side) (path.flow input.side)
      (Establishes (parties.engine input.side) input.turn call) (call.run (parties.engine input.side) input.turn)) :
    Permitted Agreed (parties.history ++
      occurrences input.side (path.flow input.side) (parties.engine input.side) input.turn call) := by
  have free : ∀ occurrence ∈ (call.run (parties.engine input.side) input.turn).actions.filterMap (fun
      | .sendControl target _ control reason =>
        if target = path.flow input.side then
          ((call.run (parties.engine input.side) input.turn).engine.sessions.lookup (path.flow input.side)).map
            fun session => .sent ⟨input.side, session.localIsn, control, reason⟩
        else none
      | _ => none), ∀ before, Agreed before occurrence := by
    intro occurrence member before
    cases occurrence with
    | sent => trivial
    | established =>
      obtain ⟨action, _, sent⟩ := List.mem_filterMap.mp member
      cases action with
      | sendControl target wgId control reason =>
        simp only at sent
        split at sent
        · obtain ⟨session, _, same⟩ := Option.map_eq_some_iff.mp sent
          cases same
        · cases sent
      | drop | forward | releasePending | close => cases sent
  simp only [occurrences]
  rw [← List.append_assoc]
  refine Permitted.append_free ?_ free
  cases became : becomesEstablished ((parties.engine input.side).sessions.lookup (path.flow input.side))
      ((call.run (parties.engine input.side) input.turn).engine.sessions.lookup (path.flow input.side)) with
  | none => simpa using sound.agreed
  | some session =>
    obtain ⟨found, state, fresh⟩ := becomesEstablished_some became
    obtain was | ⟨flow, segment, wgId, rfl, original, held, completion⟩ :=
      proceeds.established session found state
    · exact absurd was fresh
    obtain ⟨sent, member, delivered, rfl, rfl⟩ := engineCall_inbound made
    have halfOpen : Handshaking (some original) := held ▸ sound.handshaking input.side
    obtain ⟨peerIsn, acknowledged, behind⟩ := completion_agrees sound member halfOpen completion.completes
      fun state => answered sent delivered original held state completion.completes
    refine sound.agreed.snoc ⟨⟨sent, (received_sent member).1, (received_sent member).2, ?_, ?_⟩, ?_⟩
    · exact peerIsn.trans completion.remoteIsn.symm
    · rw [completion.localIsn]
      exact acknowledged
    · rw [completion.inserted, completion.remoteIsn, behind]

theorem step_sound (sound : Sound path parties) (input : Input) (answered : Answered path parties input) :
    Sound path (step path parties input) := by
  simp only [step]
  split
  · exact sound
  · rename_i call made
    have flow := engineCall_flow made
    have proceeds := call_proceeds call (parties.engine input.side) input.turn
      (by rw [flow]; exact sound.handshaking input.side)
    rw [flow] at proceeds
    constructor
    · intro side
      by_cases same : side = input.side
      · subst same
        simp only [Function.update_self]
        exact proceeds.handshaking
      · simp only [Function.update_of_ne same]
        exact sound.handshaking side
    · intro segment member
      rcases List.mem_append.mp member with early | late
      · exact sound.announced segment early
      · exact occurrences_sent proceeds late
    · exact occurrences_agreed sound input answered made proceeds

end Steps

/-- Both ends agree on their numbers in every run in which a session that
received a SYN is completed only by segments that carry the number it expects. -/
theorem handshake_agreement (path : Path) (engine : Side → Engine)
    (fresh : ∀ side, (engine side).sessions.lookup (path.flow side) = none) (inputs : List Input)
    (answered : Along (step path) (Answered path) ⟨engine, []⟩ inputs) :
    Permitted Agreed (run (step path) ⟨engine, []⟩ inputs).history := by
  have initial : Sound path ⟨engine, []⟩ := by
    refine ⟨?_, ?_, .nil⟩
    · intro side
      rw [fresh side]
      exact handshaking_none
    · intro segment member
      cases member
  have sound : Sound path (run (step path) ⟨engine, []⟩ inputs) :=
    invariant (P := Sound path) (fun _ input sound met => step_sound sound input met) initial answered
  exact sound.agreed

section Sample

def samplePath : Path where
  flow
    | .client => samplePeer
    | .server => ⟨7, 0x096433c6, 0x010200c0, 3, 40000, 51820, 1, FixedBytes.zero 4⟩
  mirrored side := by cases side <;> exact ⟨rfl, rfl⟩

/-- SYN, SYN+ACK, ACK. -/
def sampleOpening : List Input := [
  ⟨.client, sampleTurn 0 100, .outbound samplePacket true⟩,
  ⟨.server, sampleTurn 1 200, .deliver 0⟩,
  ⟨.client, sampleTurn 2 101, .deliver 0⟩,
  ⟨.server, sampleTurn 3 201, .deliver 1⟩]

/-- Both ends open the flow. The client's first session dies unanswered; its
second, opened by the server's late SYN, acknowledges the server's number. -/
def sampleCrossing : List Input := [
  ⟨.client, sampleTurn 0 100, .outbound samplePacket true⟩,
  ⟨.client, sampleTurn 10 101, .tick 0⟩,
  ⟨.client, sampleTurn 20 102, .tick 0⟩,
  ⟨.server, sampleTurn 21 200, .outbound samplePacket true⟩,
  ⟨.server, sampleTurn 22 201, .deliver 0⟩,
  ⟨.client, sampleTurn 30 103, .tick 0⟩,
  ⟨.client, sampleTurn 31 300, .deliver 0⟩,
  ⟨.server, sampleTurn 32 202, .deliver 3⟩]

end Sample

theorem sample_handshake_agreement :
    Along (step samplePath) (Answered samplePath) ⟨fun _ => sampleEngine, []⟩ sampleOpening ∧
      Permitted Agreed (run (step samplePath) ⟨fun _ => sampleEngine, []⟩ sampleOpening).history ∧
      .established .server 200 100 (some 101) ∈
        (run (step samplePath) ⟨fun _ => sampleEngine, []⟩ sampleOpening).history := by
  have answered : Along (step samplePath) (Answered samplePath) ⟨fun _ => sampleEngine, []⟩ sampleOpening := by
    decide +kernel
  exact ⟨answered, handshake_agreement samplePath _ (fun _ => rfl) sampleOpening answered, by decide +kernel⟩

/-- The server takes 100 for the client's number, but only the client's session
with number 300 has acknowledged the server's 200. -/
theorem crossing_disagrees :
    (sampleCrossing.map fun input => input.turn.initialSequence).Nodup ∧
      ¬Permitted Agreed (run (step samplePath) ⟨fun _ => sampleEngine, []⟩ sampleCrossing).history := by
  refine ⟨by decide +kernel, ?_⟩
  intro permitted
  have ends : (run (step samplePath) ⟨fun _ => sampleEngine, []⟩ sampleCrossing).history =
      (run (step samplePath) ⟨fun _ => sampleEngine, []⟩ sampleCrossing).history.dropLast ++
        [.established .server 200 100 (some 101)] := by decide +kernel
  have acknowledging : ∀ segment ∈
      (run (step samplePath) ⟨fun _ => sampleEngine, []⟩ sampleCrossing).received .server,
        segment.control.acknowledgement = 201 → segment.localIsn = 300 := by decide +kernel
  obtain ⟨⟨segment, member, sender, isn, acknowledged⟩, _⟩ := permitted _ _ _ ends
  have received := sent_received (List.dropLast_subset _ member) sender
  have other := acknowledging segment received acknowledged
  rw [isn] at other
  cases other

end WgMix.FakeTcp.Handshake
