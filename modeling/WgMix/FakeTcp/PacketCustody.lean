import WgMix.FakeTcp.AccountingRuns
import WgMix.Foundation.Custody

/-! Where a captured packet is. A call either leaves a flow's queue alone, appends the packet it
brought, hands the whole queue over on establishment, or loses it with its session. -/
namespace WgMix.FakeTcp
open Bpf

/-- The packets that a call hands over for a flow. -/
def Outcome.emittedFor (outcome : Outcome) (flow : SessionKey) : List PendingPacket :=
  outcome.actions.flatMap fun
    | .releasePending target _ packets => if target = flow then packets else []
    | _ => []

def Action.isDrop : Action → Bool
  | .drop .. => true
  | _ => false

def Action.isForward : Action → Bool
  | .forward _ => true
  | _ => false

/-- A captured packet is answered without an error and without a drop. -/
def Outcome.accepts (outcome : Outcome) : Bool :=
  outcome.error.isNone && outcome.actions.all (!·.isDrop)

/-- The packet that a call brought was not taken, or it is the caller that forwards it. -/
def Outcome.refuses (outcome : Outcome) : Bool :=
  !outcome.accepts || outcome.actions.any (·.isForward)

namespace Engine

/-- What a call does with the packets of its flow. -/
inductive Handled (before : Engine) (flow : SessionKey) (arriving : Option PendingPacket) (outcome : Outcome) :
    Prop where
  | kept (queue : outcome.engine.pendingOf flow = before.pendingOf flow)
      (silent : ∀ action ∈ outcome.actions, action.Plain flow) (refused : arriving = none ∨ outcome.refuses = true)
  | queued (packet : PendingPacket) (brought : arriving = some packet)
      (queue : outcome.engine.pendingOf flow = before.pendingOf flow ++ [packet])
      (silent : ∀ action ∈ outcome.actions, action.Plain flow) (taken : outcome.refuses = false)
  | passed (packet : PendingPacket) (brought : arriving = some packet) (empty : before.pendingOf flow = [])
      (queue : outcome.engine.pendingOf flow = [])
      (actions : outcome.actions = [.releasePending flow flow.wgId [packet]]) (clean : outcome.error = none)
      (live : ∃ session, outcome.engine.sessions.lookup flow = some session ∧ session.state = .established)
  | released (acks : List Action) (own : arriving = none) (queue : outcome.engine.pendingOf flow = [])
      (actions : outcome.actions = acks ++ [.releasePending flow flow.wgId (before.pendingOf flow)])
      (silent : ∀ action ∈ acks, action.Plain flow)
      (live : ∃ session, outcome.engine.sessions.lookup flow = some session ∧ session.state = .established)
  | removed (gone : outcome.engine.sessions.lookup flow = none)
      (silent : ∀ action ∈ outcome.actions, action.Plain flow)
      (taken : arriving = none ∨ outcome.refuses = false)

section Calls
variable {before engine : Engine} {turn : Turn} {flow : SessionKey} {session : Session}
  {arriving : Option PendingPacket} {checkpoint : Checkpoint}

theorem pendingOf_set (engine : Engine) (flow : SessionKey) (session : Session) :
    (engine.setSession flow session).pendingOf flow = session.pending :=
  pendingOf_some (AList.lookup_insert _)

theorem lookup_remove (engine : Engine) (turn : Turn) (flow : SessionKey) (session : Session) :
    (engine.remove turn flow session).sessions.lookup flow = none := by
  rw [(remove_fields (.refl engine) turn flow session).1, AList.lookup_erase]

theorem Handled.unchanged (same : SameSessions before outcome.engine)
    (silent : ∀ action ∈ outcome.actions, action.Plain flow)
    (refused : arriving = none ∨ outcome.refuses = true) : Handled before flow arriving outcome :=
  .kept (by simp only [pendingOf, same.sessions]) silent refused

theorem pendingOf_restore (checkpoint : Checkpoint) (taken : checkpoint.session = before.sessions.lookup flow) :
    (engine.restore flow checkpoint).pendingOf flow = before.pendingOf flow := by
  rw [pendingOf, pendingOf, ← taken, restore]
  cases checkpoint.session with
  | none => rw [AList.lookup_erase]
  | some session => rw [AList.lookup_insert]

theorem refuses_error (failed : error ≠ none) : Outcome.refuses ⟨engine, actions, error⟩ = true := by
  obtain ⟨cause, rfl⟩ := Option.ne_none_iff_exists'.mp failed
  rfl

theorem refuses_drop (engine : Engine) (flow : SessionKey) (reason : Reason) (error : Option EngineError) :
    Outcome.refuses ⟨engine, [.drop flow reason], error⟩ = true := by
  simp [Outcome.refuses, Outcome.accepts, Action.isDrop]

theorem Reply.refuses {counted : Engine} (reply : Reply turn counted flow arriving use session actions)
    (error : Option EngineError) : arriving = none ∨ Outcome.refuses ⟨engine, actions, error⟩ = true := by
  cases reply with
  | silent said own => exact .inl own
  | dropped said => exact .inr (said ▸ refuses_drop engine flow _ error)
  | forwarded said =>
    refine .inr ?_
    simp [said, Outcome.refuses, Action.isForward]
  | spoke flags ack said own => exact .inl own
  | alive ack said own => exact .inl own

/-- What a call does with its packets, from its course. -/
theorem Course.handled
    (course : engine.Course turn flow checkpoint arriving arrived use (before.sessions.lookup flow) outcome)
    (owned : Owned before) (settled : arriving ≠ none → before.Settled) (same : SameSessions before engine)
    (taken : checkpoint.session = before.sessions.lookup flow) : Handled before flow arriving outcome := by
  cases course with
  | idle result refused =>
    exact result ▸ .unchanged same (plain_nil flow) (refused.imp id refuses_error)
  | refused result => exact result ▸ .unchanged same (plain_one rfl) (.inr (refuses_drop engine flow _ _))
  | set result held carries answered reply =>
    have queue := carries.pending.trans (pendingOf_some held).symm
    exact result ▸ .kept ((pendingOf_set ..).trans queue) (reply.plain (owned.carried held carries).2) (reply.refuses _)
  | removed result => exact result ▸ .removed (lookup_remove ..) (plain_one rfl) (.inr rfl)
  | restored result own => exact result ▸ .kept (pendingOf_restore checkpoint taken) (plain_one rfl) (.inl own)
  | passed result brought held established carries =>
    have settledHere : before.Settled := settled (by simp [brought])
    have empty := (settledHere flow _ held established).1
    have owner := (owned.carried held carries).2
    subst result
    refine .passed _ brought ((pendingOf_some held).trans empty) ?_ ?_ rfl ?_
    · rw [pendingOf_set, carries.pending, empty]
    · rw [owner]
    · exact ⟨_, AList.lookup_insert _, carries.established.mpr established⟩
  | @queued packet counted session created after next result brought starts enqueued =>
    obtain ⟨_, owner, queue⟩ := starts.queue owned same
    obtain ⟨_, pending, _, _⟩ := enqueue_spec enqueued
    subst result
    refine .queued _ brought ?_ (opening_plain _ owner _) ?_
    · rw [pendingOf_set, pending, queue]
    · cases created <;> rfl
  | @full counted session created reason result starts =>
    obtain ⟨_, owner, queue⟩ := starts.queue owned same
    subst result
    refine .kept ((pendingOf_set ..).trans queue) (plain_append (opening_plain _ owner _) (plain_one rfl)) (.inr ?_)
    cases created <;> rfl
  | accepted result own missing valid owner room reserved opens =>
    subst result
    refine .kept ?_ (plain_one ⟨rfl, owner, .inr (.inl rfl)⟩) (.inl own)
    rw [pendingOf_set, opens.empty, pendingOf_none missing]
  | @finished seen stored original segment result own arriving held carries entry done asked inserted =>
    have owner := (owned.carried held carries).2
    obtain ⟨_, _, _, queue⟩ := release_spec engine flow (completed seen segment)
    obtain ⟨drained, _, state, _⟩ := stored_keeps inserted
    obtain ⟨doneOwner, waiting⟩ : (completed seen segment).wgId = flow.wgId ∧
        before.pendingOf flow = (completed seen segment).pending := by
      obtain ⟨_, _, done⟩ := completed_keeps seen segment
      rw [done, pendingOf_some held]
      exact ⟨owner, carries.pending.symm⟩
    have acks := completionAck_plain engine seen doneOwner
    subst result
    rcases queue with ⟨none, actions⟩ | ⟨some, actions⟩
    · refine .kept ?_ ?_ (.inl own)
      · rw [pendingOf_set, waiting, none]
        exact drained
      · simpa only [actions, List.append_nil] using acks
    · refine .released _ own ?_ ?_ acks ⟨_, AList.lookup_insert _, state⟩
      · rw [pendingOf_set]
        exact drained
      · rw [actions, doneOwner, waiting]

theorem call_handled (owned : Owned before) (call : EngineCall) (settled : call.brought ≠ none → before.Settled)
    (turn : Turn) :
    Handled before call.flow call.brought (call.run before turn) :=
  (call.course before turn).handled owned settled (call.admitted_same before turn) rfl

section Tick

/-- A flow's queue is as it was, or its session is gone. -/
def Retains (before after : Engine) (flow : SessionKey) : Prop :=
  after.pendingOf flow = before.pendingOf flow ∨ after.sessions.lookup flow = none

/-- A call that brings no packet and hands none over. -/
theorem Handled.retains (handled : Handled before flow none outcome)
    (silent : ∀ action ∈ outcome.actions, ∃ target, action.Plain target) : Retains before outcome.engine flow := by
  cases handled with
  | kept queue => exact .inl queue
  | queued packet brought => cases brought
  | passed packet brought => cases brought
  | released acks own queue actions =>
    rw [actions] at silent
    obtain ⟨_, plain⟩ := silent _ (List.mem_append_right acks (List.mem_singleton_self _))
    exact plain.elim
  | removed gone => exact .inr gone

theorem sweep_retains (owned : Owned before) (turn : Turn) (nowMonotonic : UInt64) (flows : List SessionKey)
    (flow : SessionKey) : Retains before (sweep turn nowMonotonic before flows).engine flow := by
  induction flows generalizing before with
  | nil => exact .inl rfl
  | cons first rest ih =>
    have swept := tickSession_swept owned turn nowMonotonic first
    have others := ih swept.owned
    have here : Retains before (before.tickSession turn nowMonotonic first).engine flow := by
      by_cases same : flow = first
      · subst same
        refine (call_handled owned (.tick flow nowMonotonic) (absurd rfl) turn).retains ?_
        intro action member
        obtain ⟨target, _, plain⟩ := swept.plain action member
        exact ⟨target, plain⟩
      · obtain ⟨queue, touched⟩ := (call_effect owned (.tick first nowMonotonic) turn).touched
        exact .inl (touched.pendingOf_ne same)
    rcases others with same | gone
    · rcases here with unchanged | gone
      · exact .inl (same.trans unchanged)
      · refine .inr ?_
        by_contra present
        exact (sweep_swept swept.owned turn nowMonotonic rest).held flow present gone
    · exact .inr gone

theorem tick_retains (owned : Owned before) (turn : Turn) (flow : SessionKey) :
    Retains before (before.tick turn).engine flow := by
  unfold tick
  split
  · exact .inl rfl
  · exact sweep_retains owned turn _ _ flow

end Tick

end Calls

section Runs
variable {engine after : Engine} {flow : SessionKey}

/-- The answer to a call. -/
def respond (engine : Engine) (input : Turn × Request) : Outcome :=
  match input.2 with
  | .outbound flow packet alreadyDropped => engine.outbound input.1 flow packet alreadyDropped
  | .captured event packet fingerprint => engine.handleOwnedCapturedPacket input.1 event packet fingerprint
  | .inbound flow segment wgId => engine.inbound input.1 flow segment wgId
  | .control event packet => engine.inboundCapturedControl input.1 event packet
  | .tick => engine.tick input.1

theorem respond_engine (engine : Engine) (input : Turn × Request) :
    (engine.respond input).engine = engine.perform input := by
  obtain ⟨turn, request⟩ := input
  cases request <;> rfl

/-- The packets that a call takes into custody for a flow: a captured one unless it is answered by an
error or a drop, the caller's copy of a datagram unless it is also forwarded. -/
def acceptedFor (flow : SessionKey) (engine : Engine) (input : Turn × Request) : List PendingPacket :=
  match input.2 with
  | .captured event packet fingerprint =>
    if event.key = flow ∧ (engine.respond input).accepts then [capturedPacket event packet fingerprint] else []
  | .outbound target packet _ =>
    if target = flow ∧ (engine.respond input).refuses = false then [packet] else []
  | _ => []

def emittedFor (flow : SessionKey) (engine : Engine) (input : Turn × Request) : List PendingPacket :=
  (engine.respond input).emittedFor flow

/-- What is lost because the flow has no session after the call. -/
def discardedFor (flow : SessionKey) (engine : Engine) (input : Turn × Request) : List PendingPacket :=
  if (engine.respond input).engine.sessions.lookup flow = none then
    engine.pendingOf flow ++ acceptedFor flow engine input
  else []

theorem emittedFor_silent {outcome : Outcome} (silent : ∀ action ∈ outcome.actions, ∃ target, action.Plain target) :
    outcome.emittedFor flow = [] := by
  rw [Outcome.emittedFor, List.flatMap_eq_nil_iff]
  intro action member
  obtain ⟨target, plain⟩ := silent action member
  cases action with
  | releasePending => exact absurd plain id
  | _ => rfl

theorem emittedFor_plain {actions : List Action} (silent : ∀ action ∈ actions, action.Plain target) :
    Outcome.emittedFor ⟨engine, actions, error⟩ flow = [] :=
  emittedFor_silent fun action member => ⟨target, silent action member⟩

/-- The packets of a single call for a flow that are taken. -/
def takenFrom (arriving : Option PendingPacket) (outcome : Outcome) : List PendingPacket :=
  if outcome.refuses then [] else arriving.toList

theorem Handled.turnover (handled : Handled before flow arriving outcome) :
    Turnover (takenFrom arriving outcome) (outcome.emittedFor flow)
      (if outcome.engine.sessions.lookup flow = none then before.pendingOf flow ++ takenFrom arriving outcome else [])
      (before.pendingOf flow) (outcome.engine.pendingOf flow) := by
  cases handled with
  | kept queue silent refused =>
    have none : takenFrom arriving outcome = [] := by
      rw [takenFrom]
      rcases refused with rfl | refused
      · split <;> rfl
      · rw [if_pos refused]
    have lost : (if outcome.engine.sessions.lookup flow = Option.none then before.pendingOf flow ++ ([] : List _)
        else []) = [] := by
      split
      · rename_i absent
        rw [← queue, pendingOf_none absent]
        rfl
      · rfl
    rw [none, lost, emittedFor_plain silent, queue]
    exact .keep _
  | queued packet brought queue silent taken =>
    have present : outcome.engine.sessions.lookup flow ≠ none := by
      intro absent
      rw [pendingOf_none absent] at queue
      exact absurd queue.symm (by simp)
    rw [takenFrom, taken, brought, if_neg present, emittedFor_plain silent, queue]
    exact .enqueue _ _
  | passed packet brought empty queue actions clean live =>
    obtain ⟨session, found, _⟩ := live
    have taken : outcome.refuses = false := by
      rw [Outcome.refuses, Outcome.accepts, clean, actions]
      rfl
    have emitted : outcome.emittedFor flow = [packet] := by
      rw [Outcome.emittedFor, actions]
      simp
    rw [takenFrom, taken, brought, found, emitted, empty, queue]
    exact .pass packet
  | released acks own queue actions silent live =>
    obtain ⟨session, found, _⟩ := live
    have emitted : outcome.emittedFor flow = before.pendingOf flow := by
      have quiet : Outcome.emittedFor ⟨before, acks, none⟩ flow = [] := emittedFor_plain silent
      rw [Outcome.emittedFor] at quiet ⊢
      rw [actions, List.flatMap_append, quiet]
      simp
    rw [takenFrom, own, found, emitted, queue]
    rw [Option.toList_none, ite_self]
    exact .release _
  | removed gone silent taken =>
    rw [if_pos gone, emittedFor_plain silent, pendingOf_none gone]
    exact .discard _ _

/-- A call for another flow. -/
theorem Handled.emittedFor_other (handled : Handled before target arriving outcome) (apart : flow ≠ target) :
    outcome.emittedFor flow = [] := by
  have release (id : UInt32) (packets : List PendingPacket) :
      Outcome.emittedFor ⟨before, [.releasePending target id packets], none⟩ flow = [] := by
    simp [Outcome.emittedFor, Ne.symm apart]
  cases handled with
  | kept _ silent _ => exact emittedFor_plain silent
  | queued _ _ _ silent _ => exact emittedFor_plain silent
  | removed _ silent _ => exact emittedFor_plain silent
  | passed packet _ _ _ actions _ _ =>
    have quiet := release target.wgId [packet]
    rw [Outcome.emittedFor] at quiet ⊢
    rwa [actions]
  | released acks _ _ actions silent _ =>
    have quiet := release target.wgId (before.pendingOf target)
    have acked : Outcome.emittedFor ⟨before, acks, none⟩ flow = [] := emittedFor_plain silent
    rw [Outcome.emittedFor] at quiet acked ⊢
    rw [actions, List.flatMap_append, acked, quiet]
    rfl

theorem turnover_same (queue : after.pendingOf flow = engine.pendingOf flow) :
    Turnover [] [] (if after.sessions.lookup flow = none then engine.pendingOf flow ++ [] else [])
      (engine.pendingOf flow) (after.pendingOf flow) := by
  have lost : (if after.sessions.lookup flow = none then engine.pendingOf flow ++ [] else []) = [] := by
    split
    · rename_i absent
      rw [← queue, pendingOf_none absent]
      rfl
    · rfl
  rw [lost, queue]
  exact .keep _

/-- One call for one flow, seen from any flow. -/
theorem call_turnover (handled : Handled engine target arriving outcome)
    (touched : ∃ queue, Touched engine target queue outcome.engine) (flow : SessionKey) :
    Turnover (if target = flow then takenFrom arriving outcome else []) (outcome.emittedFor flow)
      (if outcome.engine.sessions.lookup flow = none then
        engine.pendingOf flow ++ (if target = flow then takenFrom arriving outcome else []) else [])
      (engine.pendingOf flow) (outcome.engine.pendingOf flow) := by
  by_cases here : target = flow
  · subst here
    simp only [if_true]
    exact handled.turnover
  · obtain ⟨queue, touched⟩ := touched
    simp only [if_neg here]
    rw [handled.emittedFor_other (Ne.symm here)]
    exact turnover_same (touched.pendingOf_ne (Ne.symm here))

/-- A packet that was dropped already is never forwarded. -/
theorem outbound_forward (engine : Engine) (turn : Turn) (flow target : SessionKey) (packet : PendingPacket) :
    .forward target ∉ (engine.outbound turn flow packet true).actions := by
  have queue (base : Engine) (session : Session) (created : Bool) :
      .forward target ∉ (base.queueOutbound flow session packet created).actions := by
    rw [queueOutbound]
    split
    · simp
    · dsimp only
      generalize (if session.wgId = 0 then { session with wgId := packet.wgId } else session) = named
      split
      · cases created <;> simp [control]
      · cases created <;> simp [control]
  rw [outbound]
  split
  · simp
  split
  · simp
  split
  · split
    · rw [outboundEstablished]
      split
      · rw [retryPendingDelete]
        split <;> simp
      · split
        · simp
        · dsimp only
          split <;> simp
    · exact queue _ _ _
  · split
    · simp
    · split
      · simp
      · exact queue _ _ _

theorem refuses_direct {outcome : Outcome} (direct : ∀ target, .forward target ∉ outcome.actions) :
    outcome.refuses = !outcome.accepts := by
  have none : outcome.actions.any (·.isForward) = false := by
    rw [List.any_eq_false]
    intro action member forwards
    cases action with
    | forward target => exact direct target member
    | _ => contradiction
  rw [Outcome.refuses, none, Bool.or_false]

/-- A captured packet is refused by an error, or it is an outbound packet that was dropped already. -/
theorem captured_handled (owned : Owned engine) (settled : engine.Settled) (turn : Turn) (event : Event)
    (packet : Bytes) (fingerprint : Digest) :
    Handled engine event.key (some (capturedPacket event packet fingerprint))
      (engine.handleOwnedCapturedPacket turn event packet fingerprint) := by
  rcases captured_cases engine turn event packet fingerprint with ⟨cause, refused⟩ | taken
  · rw [refused]
    exact .unchanged (.refl engine) (plain_nil _) (.inr rfl)
  · rw [taken]
    exact call_handled owned (.outbound event.key _ true) (fun _ => settled) turn

theorem captured_refuses (engine : Engine) (turn : Turn) (event : Event) (packet : Bytes) (fingerprint : Digest) :
    (engine.handleOwnedCapturedPacket turn event packet fingerprint).refuses =
      !(engine.handleOwnedCapturedPacket turn event packet fingerprint).accepts := by
  rcases captured_cases engine turn event packet fingerprint with ⟨cause, refused⟩ | taken
  · rw [refused]
    rfl
  · rw [taken]
    exact refuses_direct fun target => outbound_forward engine turn event.key target _

theorem captured_touched (owned : Owned engine) (turn : Turn) (event : Event) (packet : Bytes)
    (fingerprint : Digest) :
    ∃ queue, Touched engine event.key queue
      (engine.handleOwnedCapturedPacket turn event packet fingerprint).engine := by
  rcases captured_cases engine turn event packet fingerprint with ⟨cause, refused⟩ | taken
  · rw [refused]
    exact ⟨_, touched_same owned (.refl engine)⟩
  · rw [taken]
    exact (call_effect owned (.outbound event.key _ true) turn).touched

theorem takenFrom_some (outcome : Outcome) (target flow : SessionKey) (packet : PendingPacket) :
    (if target = flow then takenFrom (some packet) outcome else []) =
      if target = flow ∧ outcome.refuses = false then [packet] else [] := by
  by_cases here : target = flow
  · cases refuses : outcome.refuses <;> simp [takenFrom, here, refuses]
  · simp [here]

theorem takenFrom_none (outcome : Outcome) (target flow : SessionKey) :
    (if target = flow then takenFrom none outcome else []) = [] := by
  rw [takenFrom, Option.toList_none, ite_self, ite_self]

/-- Every call turns the custody of every flow over. -/
theorem perform_turnover (owned : Owned engine) (settled : engine.Settled) (input : Turn × Request)
    (flow : SessionKey) :
    Turnover (acceptedFor flow engine input) (emittedFor flow engine input) (discardedFor flow engine input)
      (engine.pendingOf flow) ((engine.perform input).pendingOf flow) := by
  rw [emittedFor, discardedFor, ← respond_engine]
  obtain ⟨turn, request⟩ := input
  cases request with
  | captured event packet fingerprint =>
    have turned := call_turnover (captured_handled owned settled turn event packet fingerprint)
      (captured_touched owned turn event packet fingerprint) flow
    rw [takenFrom_some, captured_refuses] at turned
    simp only [Bool.not_eq_false'] at turned
    exact turned
  | outbound target packet alreadyDropped =>
    have handled : Handled engine target (some packet) (engine.outbound turn target packet alreadyDropped) :=
      call_handled owned (.outbound target packet alreadyDropped) (fun _ => settled) turn
    have touched := (call_effect owned (.outbound target packet alreadyDropped) turn).touched
    have turned := call_turnover handled touched flow
    rw [takenFrom_some] at turned
    exact turned
  | inbound target segment wgId =>
    have handled : Handled engine target none (engine.inbound turn target segment wgId) :=
      call_handled owned (.inbound target segment wgId) (absurd rfl) turn
    have turned := call_turnover handled (call_effect owned (.inbound target segment wgId) turn).touched flow
    rw [takenFrom_none] at turned
    exact turned
  | control event packet =>
    have handled : Handled engine event.key none (engine.inboundCapturedControl turn event packet) :=
      call_handled owned (.control event packet) (absurd rfl) turn
    have turned := call_turnover handled (call_effect owned (.control event packet) turn).touched flow
    rw [takenFrom_none] at turned
    exact turned
  | tick =>
    have swept := tick_swept owned turn
    have quiet : (engine.tick turn).emittedFor flow = [] := by
      apply emittedFor_silent
      intro action member
      obtain ⟨target, _, plain⟩ := swept.plain action member
      exact ⟨target, plain⟩
    dsimp only [acceptedFor, respond]
    rw [quiet]
    rcases tick_retains owned turn flow with kept | gone
    · exact turnover_same kept
    · simp only [gone, if_true]
      rw [pendingOf_none gone]
      exact .discard _ _

/-- What a call may hand over: the packets of an established flow, under its own identity. -/
def Delivers (outcome : Outcome) : Prop :=
  ∀ target id packets, .releasePending target id packets ∈ outcome.actions →
    id = target.wgId ∧
      ∃ session, outcome.engine.sessions.lookup target = some session ∧ session.state = .established

theorem delivers_silent {outcome : Outcome} (silent : ∀ action ∈ outcome.actions, ∃ target, action.Plain target) :
    Delivers outcome := by
  intro target id packets member
  obtain ⟨_, plain⟩ := silent _ member
  exact plain.elim

theorem Handled.delivers (handled : Handled before flow arriving outcome) : Delivers outcome := by
  cases handled with
  | kept _ silent _ => exact delivers_silent fun action member => ⟨flow, silent action member⟩
  | queued _ _ _ silent _ => exact delivers_silent fun action member => ⟨flow, silent action member⟩
  | removed _ silent _ => exact delivers_silent fun action member => ⟨flow, silent action member⟩
  | passed packet _ _ _ actions _ live =>
    intro target id packets member
    rw [actions, List.mem_singleton] at member
    cases member
    exact ⟨rfl, live⟩
  | released acks _ _ actions silent live =>
    intro target id packets member
    rw [actions, List.mem_append] at member
    rcases member with member | member
    · exact (silent _ member).elim
    · rw [List.mem_singleton] at member
      cases member
      exact ⟨rfl, live⟩

theorem respond_delivers (owned : Owned engine) (settled : engine.Settled) (input : Turn × Request) :
    Delivers (engine.respond input) := by
  obtain ⟨turn, request⟩ := input
  cases request with
  | outbound target packet alreadyDropped =>
    exact (call_handled owned (.outbound target packet alreadyDropped) (fun _ => settled) turn).delivers
  | captured event packet fingerprint =>
    exact (captured_handled owned settled turn event packet fingerprint).delivers
  | inbound target segment wgId =>
    exact (call_handled owned (.inbound target segment wgId) (absurd rfl) turn).delivers
  | control event packet => exact (call_handled owned (.control event packet) (absurd rfl) turn).delivers
  | tick =>
    apply delivers_silent
    intro action member
    obtain ⟨target, _, plain⟩ := (tick_swept owned turn).plain action member
    exact ⟨target, plain⟩

theorem perform_owned (owned : Owned engine) (input : Turn × Request) : Owned (engine.perform input) := by
  obtain ⟨turn, request⟩ := input
  cases request with
  | outbound target packet alreadyDropped =>
    obtain ⟨_, touched⟩ := (call_effect owned (.outbound target packet alreadyDropped) turn).touched
    exact touched.owned owned
  | captured event packet fingerprint =>
    obtain ⟨_, touched⟩ := captured_touched owned turn event packet fingerprint
    exact touched.owned owned
  | inbound target segment wgId =>
    obtain ⟨_, touched⟩ := (call_effect owned (.inbound target segment wgId) turn).touched
    exact touched.owned owned
  | control event packet =>
    obtain ⟨_, touched⟩ := (call_effect owned (.control event packet) turn).touched
    exact touched.owned owned
  | tick => exact (tick_swept owned turn).owned

/-- A packet of another tunnel is dropped, whatever the session. -/
theorem outbound_own (taken : (engine.outbound turn target packet alreadyDropped).refuses = false) :
    packet.wgId = target.wgId := by
  rw [outbound] at taken
  split at taken
  · cases taken
  split at taken
  · cases taken
  · rename_i same
    exact Decidable.not_not.mp same

theorem accepted_own (engine : Engine) (input : Turn × Request) (member : packet ∈ acceptedFor flow engine input) :
    packet.wgId = flow.wgId := by
  obtain ⟨turn, request⟩ := input
  cases request with
  | outbound target arriving alreadyDropped =>
    obtain ⟨⟨rfl, taken⟩, here⟩ := List.mem_ite_nil_right.mp member
    rw [List.mem_singleton.mp here]
    exact outbound_own taken
  | captured event bytes fingerprint =>
    obtain ⟨⟨rfl, taken⟩, here⟩ := List.mem_ite_nil_right.mp member
    rw [List.mem_singleton.mp here]
    have clean := captured_refuses engine turn event bytes fingerprint
    dsimp only [respond] at taken
    rcases captured_cases engine turn event bytes fingerprint with ⟨cause, refused⟩ | direct
    · rw [refused] at taken
      exact nomatch (show false = true from taken)
    · rw [taken, direct] at clean
      exact outbound_own clean
  | _ => exact absurd member List.not_mem_nil

/-- Where the packets of a flow are after a run, and what each of its calls handed over. -/
structure Conserved (start : Engine) (inputs : List (Turn × Request)) : Prop where
  custody : ∀ flow, Custody (Runs.collect perform (acceptedFor flow) start inputs)
    (Runs.collect perform (emittedFor flow) start inputs) (Runs.collect perform (discardedFor flow) start inputs)
    ((Runs.run perform start inputs).pendingOf flow)
  delivered : ∀ earlier input later, inputs = earlier ++ input :: later →
    ∀ target id packets,
      .releasePending target id packets ∈ ((Runs.run perform start earlier).respond input).actions →
      id = target.wgId ∧ (∀ packet ∈ packets, packet.wgId = id) ∧
        ∃ session, (Runs.run perform start (earlier ++ [input])).sessions.lookup target = some session ∧
          session.state = .established

theorem run_owned (owned : Owned start) (books : start.Books) (settled : start.Settled)
    (inputs : List (Turn × Request)) :
    Owned (Runs.run perform start inputs) ∧ (Runs.run perform start inputs).Settled := by
  have kept : Owned (Runs.run perform start inputs) ∧ (Runs.run perform start inputs).Books ∧
      (Runs.run perform start inputs).Settled := by
    refine Runs.always (P := fun state : Engine => Owned state ∧ state.Books ∧ state.Settled) ?_
      ⟨owned, books, settled⟩ inputs
    rintro state input ⟨ownedHere, booksHere, settledHere⟩
    have accounted := perform_accounted booksHere settledHere input
    exact ⟨perform_owned ownedHere input, accounted.books, accounted.settled⟩
  exact ⟨kept.1, kept.2.2⟩

/-- The custody of a flow over a run, by what each of its calls turned over. -/
theorem run_custody (owned : Owned start) (books : start.Books) (settled : start.Settled)
    (inputs : List (Turn × Request)) (flow : SessionKey) (empty : start.pendingOf flow = []) :
    Custody (Runs.collect perform (acceptedFor flow) start inputs)
      (Runs.collect perform (emittedFor flow) start inputs) (Runs.collect perform (discardedFor flow) start inputs)
      ((Runs.run perform start inputs).pendingOf flow) := by
  induction inputs using List.reverseRecOn with
  | nil =>
    rw [Runs.run, List.foldl_nil, empty]
    exact .nil
  | append_singleton earlier input ih =>
    obtain ⟨ownedHere, settledHere⟩ := run_owned owned books settled earlier
    rw [Runs.collect_snoc, Runs.collect_snoc, Runs.collect_snoc, Runs.run_append]
    exact ih.turnover (perform_turnover ownedHere settledHere input flow)

theorem run_accepted_own (member : packet ∈ Runs.collect perform (acceptedFor flow) start inputs) :
    packet.wgId = flow.wgId := by
  obtain ⟨earlier, input, _, _, here⟩ := Runs.mem_collect member
  exact accepted_own _ input here

theorem mem_emittedFor {outcome : Outcome} (release : .releasePending target wgId packets ∈ outcome.actions)
    (member : packet ∈ packets) : packet ∈ outcome.emittedFor target := by
  rw [Outcome.emittedFor, List.mem_flatMap]
  refine ⟨_, release, ?_⟩
  dsimp only
  rw [if_pos rfl]
  exact member

theorem newEngine_owned {runtime : RuntimeIdentity} (made : newEngine options runtime now = .ok engine) :
    Owned engine ∧ ∀ flow, engine.pendingOf flow = [] := by
  rw [newEngine] at made
  split at made
  · cases made
  cases made
  refine ⟨?_, ?_⟩
  · intro flow session found
    rw [AList.lookup_empty] at found
    cases found
  · intro flow
    exact pendingOf_none (AList.lookup_empty flow)

/-- After every sequence of calls on a new engine, each packet that was accepted for a flow waits in the
session of that flow, was handed over once, or was lost with the session. -/
theorem packet_conservation (options : Options) (identity : RuntimeIdentity) (now : Nat) (engine : Engine)
    (made : newEngine options identity now = .ok engine) (inputs : List (Turn × Request)) :
    Conserved engine inputs := by
  obtain ⟨books, settled, _⟩ := newEngine_books made
  obtain ⟨owned, empty⟩ := newEngine_owned made
  have custody (flow : SessionKey) := run_custody owned books settled inputs flow (empty flow)
  refine ⟨custody, ?_⟩
  intro earlier input later split target id packets release
  obtain ⟨ownedHere, settledHere⟩ := run_owned owned books settled earlier
  obtain ⟨own, live⟩ := respond_delivers ownedHere settledHere input target id packets release
  refine ⟨own, ?_, ?_⟩
  · intro packet member
    have emitted : packet ∈ Runs.collect perform (emittedFor target) engine inputs := by
      rw [split]
      exact Runs.collect_mem (mem_emittedFor release member)
    rw [own]
    exact run_accepted_own ((custody target).emitted_accepted emitted)
  · rw [Runs.run_append]
    rw [respond_engine] at live
    exact live

/-- A capture of a runtime that was replaced. -/
def staleCapture : Event where
  key := samplePeer
  timestampNanos := 5
  runtimeIncarnation := .fill 16 0x5a
  captureSequence := 1
  wgId := samplePeer.wgId
  packetLength := 3
  eventAbiVersion := Bpf.eventAbiVersion
  type := EventType.needHandshake.code
  tcpFlags := 0

def staleRequest : Turn × Request := (sampleTurn 5 0, .captured staleCapture [1, 2, 3] (FixedBytes.zero 32))

/-- It is answered by an error and without a drop, and then the packet is nowhere. -/
theorem stale_capture_nowhere :
    (sampleEngine.respond staleRequest).actions.all (!·.isDrop) = true ∧
      ¬ Custody [capturedPacket staleCapture [1, 2, 3] (FixedBytes.zero 32)]
        (Runs.collect perform (emittedFor samplePeer) sampleEngine [staleRequest])
        (Runs.collect perform (discardedFor samplePeer) sampleEngine [staleRequest])
        ((Runs.run perform sampleEngine [staleRequest]).pendingOf samplePeer) := by
  refine ⟨by decide +kernel, ?_⟩
  intro custody
  exact absurd custody.length_eq (by decide +kernel)

/-- Of two queued packets of a flow both are handed over, in their order, once its SYN is answered. -/
def answeredRequests : List (Turn × Request) := [
  (sampleTurn 0 100, .outbound samplePeer samplePacket true),
  (sampleTurn 5 200, .outbound samplePeer { samplePacket with fwmark := 9 } true),
  (sampleTurn 6 300, .inbound samplePeer ⟨flagSyn ||| flagAck, 500, 101, 0⟩ 1)]

theorem answered_conservation :
    (Runs.collect perform (emittedFor samplePeer) sampleEngine answeredRequests).map (·.fwmark) =
        [samplePacket.fwmark, 9] ∧
      Conserved sampleEngine answeredRequests :=
  ⟨by decide +kernel, packet_conservation sampleOptions ⟨7, .fill 16 0xa5⟩ 0 sampleEngine rfl
    answeredRequests⟩

end Runs
end Engine
end WgMix.FakeTcp
