import WgMix.FakeTcp.EngineCourse

/-! What one engine call can do: it touches the session of a single flow, and
that flow's queue is kept, extended, dropped or released whole. -/
namespace WgMix.FakeTcp
open Bpf

/-- Actions about `flow` that write no captured packet; controls are those the
raw backend can marshal. -/
def Action.Plain (flow : SessionKey) : Action → Prop
  | .drop target _ | .forward target | .close target _ => target = flow
  | .sendControl target wgId control _ => target = flow ∧ wgId = flow.wgId ∧
      (control.flags = flagSyn ∨ control.flags = flagSyn ||| flagAck ∨ control.flags = flagAck)
  | .releasePending .. => False

namespace Engine

/-- The packets a flow still waits to send. -/
def pendingOf (engine : Engine) (flow : SessionKey) : List PendingPacket :=
  ((engine.sessions.lookup flow).map Session.pending).getD []

/-- Every session belongs to the WireGuard identity of its flow. -/
def Owned (engine : Engine) : Prop :=
  ∀ flow session, engine.sessions.lookup flow = some session →
    engine.validateFlow flow = true ∧ session.wgId = flow.wgId

structure Touched (before : Engine) (flow : SessionKey) (queue : List PendingPacket) (after : Engine) :
    Prop where
  frame : ∀ other, other ≠ flow → after.sessions.lookup other = before.sessions.lookup other
  owner : ∀ session, after.sessions.lookup flow = some session →
    before.validateFlow flow = true ∧ session.wgId = flow.wgId
  queue : after.pendingOf flow = queue
  opts : after.opts = before.opts
  identity : after.identity = before.identity

section Touching
variable {before engine after : Engine} {flow : SessionKey}

theorem pendingOf_some (found : engine.sessions.lookup flow = some session) :
    engine.pendingOf flow = session.pending := by
  simp only [pendingOf, found, Option.map_some, Option.getD_some]

theorem pendingOf_none (missing : engine.sessions.lookup flow = none) : engine.pendingOf flow = [] := by
  simp only [pendingOf, missing, Option.map_none, Option.getD_none]

theorem touched_same (owned : Owned before) (same : SameSessions before after) :
    Touched before flow (before.pendingOf flow) after where
  frame _ _ := by rw [same.sessions]
  owner session found := owned flow session (same.sessions ▸ found)
  queue := by simp only [pendingOf, same.sessions]
  opts := same.opts
  identity := same.identity

theorem touched_set (same : SameSessions before engine) (valid : before.validateFlow flow = true)
    (owner : session.wgId = flow.wgId) (queue : session.pending = packets) :
    Touched before flow packets (engine.setSession flow session) where
  frame other distinct := by
    simp only [setSession, AList.lookup_insert_ne distinct, same.sessions]
  owner found held := by
    simp only [setSession, AList.lookup_insert, Option.some.injEq] at held
    exact held ▸ ⟨valid, owner⟩
  queue := by
    rw [← queue]
    apply pendingOf_some
    simp only [setSession, AList.lookup_insert]
  opts := same.opts
  identity := same.identity

theorem Touched.owned (touched : Touched before flow packets after) (owned : Owned before) : Owned after := by
  intro other session found
  rw [validateFlow_opts touched.opts]
  by_cases here : other = flow
  · subst here
    exact touched.owner session found
  · rw [touched.frame other here] at found
    exact owned other session found

theorem Touched.pendingOf_ne (touched : Touched before flow packets after) (distinct : other ≠ flow) :
    after.pendingOf other = before.pendingOf other := by
  simp only [pendingOf, touched.frame other distinct]

end Touching

/-- Removing a session changes no other, nor the engine's options. -/
theorem remove_fields (same : SameSessions before engine) (turn : Turn) (flow : SessionKey) (session : Session) :
    (engine.remove turn flow session).sessions = before.sessions.erase flow ∧
      (engine.remove turn flow session).opts = before.opts ∧
      (engine.remove turn flow session).identity = before.identity := by
  have released := same.trans (engine.releaseHalfOpen_same session (turn.releasedAt flow))
  unfold remove
  dsimp only
  split
  · exact ⟨by rw [released.sessions], released.opts, released.identity⟩
  · exact ⟨by dsimp only; rw [released.sessions], released.opts, released.identity⟩

theorem touched_remove (same : SameSessions before engine) (turn : Turn) (flow : SessionKey)
    (session : Session) : Touched before flow [] (engine.remove turn flow session) := by
  obtain ⟨sessions, opts, identity⟩ := remove_fields same turn flow session
  have gone : (engine.remove turn flow session).sessions.lookup flow = none := by
    rw [sessions, AList.lookup_erase]
  exact {
    frame := fun other distinct => by rw [sessions, AList.lookup_erase_ne distinct]
    owner := fun found held => by rw [gone] at held; contradiction
    queue := pendingOf_none gone
    opts := opts
    identity := identity }

/-- One call for `flow`. `incoming` is the packet it brought, `completing`
whether it may complete the flow's handshake. -/
inductive Effect (before : Engine) (flow : SessionKey) (incoming : Option PendingPacket)
    (completing : Prop) (outcome : Outcome) : Prop where
  | kept : Touched before flow (before.pendingOf flow) outcome.engine →
      (∀ action ∈ outcome.actions, action.Plain flow) → Effect before flow incoming completing outcome
  | dropped : Touched before flow [] outcome.engine →
      (∀ action ∈ outcome.actions, action.Plain flow) → Effect before flow incoming completing outcome
  | queued (packet : PendingPacket) : incoming = some packet → packet.data ≠ [] →
      Touched before flow (before.pendingOf flow ++ [packet]) outcome.engine →
      (∀ action ∈ outcome.actions, action.Plain flow) → Effect before flow incoming completing outcome
  | direct (packet : PendingPacket) : incoming = some packet →
      Touched before flow (before.pendingOf flow) outcome.engine →
      outcome.actions = [.releasePending flow flow.wgId [packet]] → outcome.error = none →
      Effect before flow incoming completing outcome
  | released (acks : List Action) : completing → before.pendingOf flow ≠ [] →
      Touched before flow [] outcome.engine →
      outcome.actions = acks ++ [.releasePending flow flow.wgId (before.pendingOf flow)] →
      (∀ action ∈ acks, action.Plain flow) → outcome.error = none →
      Effect before flow incoming completing outcome

section Calls
variable {before engine : Engine} {turn : Turn} {flow : SessionKey}

theorem plain_nil (flow : SessionKey) : ∀ action ∈ ([] : List Action), action.Plain flow := by simp

theorem plain_one {action : Action} (plain : action.Plain flow) :
    ∀ each ∈ [action], each.Plain flow := by
  intro each member
  exact List.mem_singleton.mp member ▸ plain

theorem Effect.unchanged (owned : Owned before) (same : SameSessions before outcome.engine)
    (plain : ∀ action ∈ outcome.actions, action.Plain flow) :
    Effect before flow incoming completing outcome := .kept (touched_same owned same) plain

/-- Whatever a call does, it touches one flow. -/
theorem Effect.touched (effect : Effect before flow incoming completing outcome) :
    ∃ queue, Touched before flow queue outcome.engine := by
  cases effect with
  | kept touched => exact ⟨_, touched⟩
  | dropped touched => exact ⟨_, touched⟩
  | queued _ _ _ touched => exact ⟨_, touched⟩
  | direct _ _ touched => exact ⟨_, touched⟩
  | released _ _ _ touched => exact ⟨_, touched⟩

/-- Rewriting a session without touching its queue or owner. -/
theorem kept_set (owned : Owned before) (same : SameSessions before engine)
    (found : before.sessions.lookup flow = some session)
    (kept : after.pending = session.pending ∧ after.wgId = session.wgId) :
    Touched before flow (before.pendingOf flow) (engine.setSession flow after) := by
  obtain ⟨valid, owner⟩ := owned flow session found
  exact touched_set same valid (kept.2.trans owner) (kept.1.trans (pendingOf_some found).symm)

theorem enqueue_spec (queued : engine.enqueue session packet = some (after, longer)) :
    SameSessions engine after ∧ longer.pending = session.pending ++ [packet] ∧
      longer.wgId = session.wgId ∧ packet.data ≠ [] := by
  unfold enqueue at queued
  split at queued
  · contradiction
  · rename_i accepted
    split at queued
    · contradiction
    · cases queued
      refine ⟨⟨rfl, rfl, rfl⟩, rfl, rfl, fun empty => accepted (.inl ?_)⟩
      rw [empty, List.length_nil]

theorem release_spec (engine : Engine) (flow : SessionKey) (session : Session) :
    SameSessions engine (engine.release flow session).1 ∧
      (engine.release flow session).2.1.pending = [] ∧
      (engine.release flow session).2.1.wgId = session.wgId ∧
      (session.pending = [] ∧ (engine.release flow session).2.2 = [] ∨
        session.pending ≠ [] ∧ (engine.release flow session).2.2 =
          [.releasePending flow session.wgId session.pending]) := by
  unfold release
  split
  · rename_i empty
    exact ⟨.refl engine, empty, rfl, .inl ⟨empty, rfl⟩⟩
  · rename_i full
    exact ⟨⟨rfl, rfl, rfl⟩, rfl, rfl, .inr ⟨full, rfl⟩⟩

theorem touched_restore (owned : Owned before) (same : SameSessions before engine)
    (checkpoint : Checkpoint) (taken : checkpoint.session = before.sessions.lookup flow) :
    Touched before flow (before.pendingOf flow) (engine.restore flow checkpoint) := by
  cases found : before.sessions.lookup flow with
  | none =>
    rw [found] at taken
    have gone : (engine.restore flow checkpoint).sessions.lookup flow = none := by
      simp only [restore, taken, AList.lookup_erase]
    exact {
      frame := fun other distinct => by
        simp only [restore, taken, AList.lookup_erase_ne distinct, same.sessions]
      owner := fun session held => by rw [gone] at held; contradiction
      queue := by rw [pendingOf_none gone, pendingOf_none found]
      opts := same.opts
      identity := same.identity }
  | some session =>
    rw [found] at taken
    have kept : Touched before flow (before.pendingOf flow) (engine.setSession flow session) :=
      kept_set owned same found ⟨rfl, rfl⟩
    have held : (engine.restore flow checkpoint).sessions = (engine.setSession flow session).sessions := by
      simp only [restore, taken, setSession]
    exact {
      frame := fun other distinct => by rw [held, kept.frame other distinct]
      owner := fun other found => kept.owner other (held ▸ found)
      queue := by simpa only [pendingOf, held] using kept.queue
      opts := same.opts
      identity := same.identity }

theorem completionAck_plain (engine : Engine) (session : Session) (owner : after.wgId = flow.wgId) :
    ∀ action ∈ engine.completionAck flow session after, action.Plain flow := by
  unfold completionAck
  split
  · exact plain_one ⟨rfl, owner, .inr (.inr rfl)⟩
  · exact plain_nil flow

/-- A session completes on this segment. -/
def Completing (engine : Engine) (flow : SessionKey) (segment : Segment) : Prop :=
  ∃ session, engine.sessions.lookup flow = some session ∧ completes session segment = true

section Courses
variable {checkpoint : Checkpoint} {arrived : Option Segment} {use : StoreUse} {counted : Engine}

theorem Owned.carried (owned : Owned before) (held : before.sessions.lookup flow = some session)
    (carries : session.Carries next) : next.wgId = session.wgId ∧ next.wgId = flow.wgId := by
  obtain ⟨valid, owner⟩ := owned flow session held
  have kept := carries.owner (owner ▸ wgId_ne_zero valid)
  exact ⟨kept, kept.trans owner⟩

theorem Reply.plain (reply : Reply turn engine flow brought use next actions) (owner : next.wgId = flow.wgId) :
    ∀ action ∈ actions, action.Plain flow := by
  cases reply with
  | silent said => exact said ▸ plain_nil flow
  | dropped said => exact said ▸ plain_one rfl
  | forwarded said => exact said ▸ plain_one rfl
  | spoke flags ack said own kind =>
    rw [said]
    refine plain_one ⟨rfl, owner, ?_⟩
    rcases kind with rfl | rfl
    · exact .inl rfl
    · exact .inr (.inl rfl)
  | alive ack said => exact said ▸ plain_one ⟨rfl, owner, .inr (.inr rfl)⟩

/-- A packet waits on a session of its flow, with what was queued before. -/
theorem Starts.queue (starts : Starts engine flow (before.sessions.lookup flow) counted session created)
    (owned : Owned before) (same : SameSessions before engine) :
    before.validateFlow flow = true ∧ session.wgId = flow.wgId ∧ session.pending = before.pendingOf flow := by
  cases starts with
  | held unchanged old held halfOpen carries =>
    subst unchanged
    exact ⟨(owned flow _ held).1, (owned.carried held carries).2, carries.pending.trans (pendingOf_some held).symm⟩
  | opened slotted new missing valid owner room slot opens =>
    rw [validateFlow_opts same.opts] at valid
    exact ⟨valid, owner, opens.empty.trans (pendingOf_none missing).symm⟩

theorem opening_plain (engine : Engine) (owner : session.wgId = flow.wgId) (created : Bool) :
    ∀ action ∈ engine.opening flow session created, action.Plain flow := by
  rw [opening]
  split
  · exact plain_one ⟨rfl, owner, .inl rfl⟩
  · exact plain_nil flow

theorem plain_append {first second : List Action} (one : ∀ action ∈ first, action.Plain flow)
    (two : ∀ action ∈ second, action.Plain flow) : ∀ action ∈ first ++ second, action.Plain flow := by
  intro action member
  rcases List.mem_append.mp member with early | late
  · exact one action early
  · exact two action late

theorem Course.effect
    (course : engine.Course turn flow checkpoint brought arrived use (before.sessions.lookup flow) outcome)
    (owned : Owned before) (same : SameSessions before engine)
    (taken : checkpoint.session = before.sessions.lookup flow) :
    Effect before flow brought (∃ segment, arrived = some segment ∧ Completing before flow segment) outcome := by
  cases course with
  | idle result => exact result ▸ .unchanged owned same (plain_nil flow)
  | refused result => exact result ▸ .unchanged owned same (plain_one rfl)
  | set result held carries answered reply =>
    obtain ⟨kept, owner⟩ := owned.carried held carries
    exact result ▸ .kept (kept_set owned same held ⟨carries.pending, kept⟩) (reply.plain owner)
  | removed result => exact result ▸ .dropped (touched_remove same turn flow _) (plain_one rfl)
  | restored result => exact result ▸ .kept (touched_restore owned same checkpoint taken) (plain_one rfl)
  | passed result arriving held established carries =>
    obtain ⟨kept, owner⟩ := owned.carried held carries
    subst result
    exact .direct _ arriving (kept_set owned same held ⟨carries.pending, kept⟩) (by rw [owner]) rfl
  | queued result arriving starts enqueued =>
    obtain ⟨valid, owner, queue⟩ := starts.queue owned same
    obtain ⟨unchanged, pending, wgId, full⟩ := enqueue_spec enqueued
    have touched := touched_set ((same.trans starts.same).trans unchanged) valid (wgId.trans owner) pending
    rw [queue] at touched
    exact result ▸ .queued _ arriving full touched (opening_plain _ owner _)
  | full result starts =>
    obtain ⟨valid, owner, queue⟩ := starts.queue owned same
    exact result ▸ .kept (touched_set (same.trans starts.same) valid owner queue)
      (plain_append (opening_plain _ owner _) (plain_one rfl))
  | accepted result own missing valid owner room reserved opens =>
    rw [validateFlow_opts same.opts] at valid
    exact result ▸ .kept (touched_set (same.trans (reserve_same engine reserved)) valid owner
      (opens.empty.trans (pendingOf_none missing).symm)) (plain_one ⟨rfl, owner, .inr (.inl rfl)⟩)
  | @finished seen stored original segment result own arriving held carries entry done asked inserted =>
    obtain ⟨kept, owner⟩ := owned.carried held carries
    obtain ⟨released, _, _, queue⟩ := release_spec engine flow (completed seen segment)
    obtain ⟨drained, storedWgId, _⟩ := stored_keeps inserted
    obtain ⟨doneOwner, waiting⟩ : (completed seen segment).wgId = flow.wgId ∧
        (completed seen segment).pending = before.pendingOf flow := by
      obtain ⟨_, _, done⟩ := completed_keeps seen segment
      rw [done, pendingOf_some held]
      exact ⟨owner, carries.pending⟩
    have acks := completionAck_plain engine seen doneOwner
    have freed := (same.trans released).trans (releaseHalfOpen_same _ stored (turn.releasedAt flow))
    have touched := touched_set freed (owned flow original held).1
      (show ({ stored with halfOpenHeld := false } : Session).wgId = flow.wgId from storedWgId.trans owner) drained
    subst result
    rcases queue with ⟨none, actions⟩ | ⟨some, actions⟩
    · refine .dropped touched ?_
      simpa only [actions, List.append_nil] using acks
    · refine .released _ ⟨segment, arriving, original, held, done⟩ ?_ touched ?_ acks rfl
      · rwa [← waiting]
      · rw [actions, doneOwner, waiting]

end Courses

/-- Whatever a call brings, it touches one flow, and hands packets over only as `Effect` allows. -/
theorem call_effect (owned : Owned before) (call : EngineCall) (turn : Turn) :
    Effect before call.flow call.brought
      (∃ segment, call.arrived = some segment ∧ Completing before call.flow segment) (call.run before turn) :=
  (call.course before turn).effect owned (call.admitted_same before turn) rfl

/-- A sweep over sessions opens none, releases none and speaks only of flows
that had one. -/
structure Swept (before : Engine) (outcome : Outcome) : Prop where
  owned : Owned outcome.engine
  opts : outcome.engine.opts = before.opts
  identity : outcome.engine.identity = before.identity
  held : ∀ flow, outcome.engine.sessions.lookup flow ≠ none → before.sessions.lookup flow ≠ none
  queues : ∀ flow, outcome.engine.pendingOf flow = before.pendingOf flow ∨
    outcome.engine.pendingOf flow = []
  plain : ∀ action ∈ outcome.actions, ∃ flow, before.sessions.lookup flow ≠ none ∧ action.Plain flow

theorem swept_refl (owned : Owned before) (error : Option EngineError) : Swept before ⟨before, [], error⟩ where
  owned := owned
  opts := rfl
  identity := rfl
  held _ present := present
  queues _ := .inl rfl
  plain := by simp

theorem tickSession_swept (owned : Owned before) (turn : Turn) (nowMonotonic : UInt64)
    (flow : SessionKey) : Swept before (before.tickSession turn nowMonotonic flow) := by
  cases found : before.sessions.lookup flow with
  | none =>
    have idle : before.tickSession turn nowMonotonic flow = ⟨before, [], none⟩ := by
      simp only [tickSession, found]
    exact idle ▸ swept_refl owned none
  | some session =>
    have present : before.sessions.lookup flow ≠ none := by simp [found]
    -- Without an incoming packet and a completing segment only two cases remain.
    have cases : ∃ packets, (packets = before.pendingOf flow ∨ packets = []) ∧
        Touched before flow packets (before.tickSession turn nowMonotonic flow).engine ∧
        ∀ action ∈ (before.tickSession turn nowMonotonic flow).actions, action.Plain flow := by
      cases call_effect owned (.tick flow nowMonotonic) turn with
      | kept touched plain => exact ⟨_, .inl rfl, touched, plain⟩
      | dropped touched plain => exact ⟨_, .inr rfl, touched, plain⟩
      | queued packet brought => contradiction
      | direct packet brought => contradiction
      | released acks completing =>
        obtain ⟨segment, arriving, _⟩ := completing
        contradiction
    obtain ⟨packets, queue, touched, plain⟩ := cases
    exact {
      owned := touched.owned owned
      opts := touched.opts
      identity := touched.identity
      held := fun other held => by
        by_cases here : other = flow
        · exact here ▸ present
        · rwa [touched.frame other here] at held
      queues := fun other => by
        by_cases here : other = flow
        · subst here
          rw [touched.queue]
          exact queue
        · exact .inl (touched.pendingOf_ne here)
      plain := fun action member => ⟨flow, present, plain action member⟩ }

theorem sweep_swept (owned : Owned before) (turn : Turn) (nowMonotonic : UInt64)
    (flows : List SessionKey) : Swept before (sweep turn nowMonotonic before flows) := by
  induction flows generalizing before with
  | nil => exact swept_refl owned none
  | cons flow rest ih =>
    have first := tickSession_swept owned turn nowMonotonic flow
    have others := ih first.owned
    exact {
      owned := others.owned
      opts := others.opts.trans first.opts
      identity := others.identity.trans first.identity
      held := fun other held => first.held other (others.held other held)
      queues := fun other => by
        rcases others.queues other with same | gone
        · rcases first.queues other with unchanged | gone
          · exact .inl (same.trans unchanged)
          · exact .inr (same.trans gone)
        · exact .inr gone
      plain := fun action member => by
        rcases List.mem_append.mp member with early | late
        · exact first.plain action early
        · obtain ⟨other, present, plain⟩ := others.plain action late
          exact ⟨other, first.held other present, plain⟩ }

theorem tick_swept (owned : Owned before) (turn : Turn) : Swept before (before.tick turn) := by
  unfold tick
  split
  · exact swept_refl owned _
  · exact sweep_swept owned turn _ _

end Calls

/-- Sessions and queued packets that meet conditions on them. -/
structure Tenants (flows : SessionKey → Prop) (packets : SessionKey → PendingPacket → Prop) (engine : Engine) :
    Prop where
  owned : engine.Owned
  flows : ∀ flow, engine.sessions.lookup flow ≠ none → flows flow
  packets : ∀ flow, ∀ packet ∈ engine.pendingOf flow, packets flow packet

section Tenants
variable {flows : SessionKey → Prop} {packets : SessionKey → PendingPacket → Prop} {before after : Engine}

theorem Tenants.touched (tenants : Tenants flows packets before) (serves : flows flow)
    (touched : before.Touched flow queue after) (each : ∀ packet ∈ queue, packets flow packet) :
    Tenants flows packets after where
  owned := touched.owned tenants.owned
  flows other present := by
    by_cases here : other = flow
    · exact here ▸ serves
    · rw [touched.frame other here] at present
      exact tenants.flows other present
  packets other packet member := by
    by_cases here : other = flow
    · subst here
      rw [touched.queue] at member
      exact each packet member
    · rw [touched.pendingOf_ne here] at member
      exact tenants.packets other packet member

theorem Tenants.swept (tenants : Tenants flows packets before) (swept : Swept before outcome) :
    Tenants flows packets outcome.engine where
  owned := swept.owned
  flows flow present := tenants.flows flow (swept.held flow present)
  packets flow packet member := by
    rcases swept.queues flow with same | gone
    · exact tenants.packets flow packet (same ▸ member)
    · rw [gone] at member
      contradiction

end Tenants

end Engine
end WgMix.FakeTcp
