import WgMix.FakeTcp.AccountingRuns

/-! The map of sessions is only ever asked for a flow and for its size, so engines whose maps hold the
same sessions answer every call alike. -/
namespace WgMix.FakeTcp
open Bpf

namespace Engine

/-- Engines that hold the same sessions; the representation of the map is not observable. -/
structure Alike (left right : Engine) : Prop where
  sessions : ∀ flow, right.sessions.lookup flow = left.sessions.lookup flow
  rest : right = { left with sessions := right.sessions }

structure AlikeOutcome (left right : Outcome) : Prop where
  engine : Alike left.engine right.engine
  actions : right.actions = left.actions
  error : right.error = left.error

theorem Alike.refl (engine : Engine) : Alike engine engine := ⟨fun _ => rfl, rfl⟩

/-- The same engine with another map of sessions. -/
abbrev withSessions (engine : Engine) (sessions : Table SessionKey Session) : Engine := { engine with sessions }

section Aside
variable (engine : Engine) (sessions : Table SessionKey Session)

/-! What SYN admission and the queues do is independent of the map of sessions. -/

theorem identity_aside : (engine.withSessions sessions).identity = engine.identity := rfl

theorem validateFlow_aside (flow : SessionKey) :
    (engine.withSessions sessions).validateFlow flow = engine.validateFlow flow := rfl

theorem lookupEstablished_aside (turn : Turn) (flow : SessionKey) (session : Session) :
    (engine.withSessions sessions).lookupEstablished turn flow session =
      engine.lookupEstablished turn flow session := rfl

theorem prune_aside (now budget : Nat) : (engine.withSessions sessions).pruneExpiredSynSources now budget =
    (engine.pruneExpiredSynSources now budget).withSessions sessions := by
  induction budget generalizing engine with
  | zero => rfl
  | succ budget ih =>
    rw [pruneExpiredSynSources, pruneExpiredSynSources]
    conv_lhs => dsimp only [withSessions]
    split
    · rfl
    · rename_i key _
      dsimp only
      split
      · exact ih { engine with synSourceLru := engine.synSourceLru.dropLast }
      · rename_i source _
        by_cases fresh : now < source.lastActivity + engine.opts.synSourceLedgerTtl
        · simp only [if_pos fresh]
        · by_cases idle : source.halfOpen = 0
          · simp only [if_neg fresh, if_pos idle]
            exact ih { engine with
              synSources := engine.synSources.erase key, synSourceLru := engine.synSourceLru.dropLast }
          · simp only [if_neg fresh, if_neg idle]
            exact ih (engine.touchSynSource key source now)

theorem lookupOrCreate_aside (key : SynSourceKey) (now : Nat) :
    (engine.withSessions sessions).lookupOrCreateSynSource key now =
      ((engine.lookupOrCreateSynSource key now).1.withSessions sessions,
        (engine.lookupOrCreateSynSource key now).2) := by
  rw [lookupOrCreateSynSource, lookupOrCreateSynSource, prune_aside]
  conv_lhs => dsimp only [withSessions]
  dsimp only
  split
  · rfl
  · by_cases full : (engine.pruneExpiredSynSources now synSourcePruneBudget).synSources.keys.length ≥
        (engine.pruneExpiredSynSources now synSourcePruneBudget).opts.synSourceLedgerCapacity
    · simp only [if_pos full]
    · simp only [if_neg full]

theorem observeSyn_aside (flow : SessionKey) (now : Nat) : (engine.withSessions sessions).observeSyn flow now =
    ((engine.observeSyn flow now).1.withSessions sessions, (engine.observeSyn flow now).2) := by
  have aside (global : TokenBucket) :
      { engine.withSessions sessions with globalSyns := global }.lookupOrCreateSynSource
          ⟨flow.remoteIpv4, flow.underlayIndex⟩ now =
        (({ engine with globalSyns := global }.lookupOrCreateSynSource ⟨flow.remoteIpv4, flow.underlayIndex⟩
            now).1.withSessions sessions,
          ({ engine with globalSyns := global }.lookupOrCreateSynSource ⟨flow.remoteIpv4, flow.underlayIndex⟩
            now).2) :=
    lookupOrCreate_aside { engine with globalSyns := global } sessions _ now
  rw [observeSyn, observeSyn]
  dsimp only
  rw [aside]
  generalize engine.globalSyns.refill now engine.opts.synRateInterval engine.opts.synBurst = global
  by_cases spent : global.tokens = 0
  · simp only [if_pos spent]
  · simp only [if_neg spent]
    cases looked : { engine with globalSyns := { global with tokens := global.tokens - 1 } }.lookupOrCreateSynSource
        ⟨flow.remoteIpv4, flow.underlayIndex⟩ now with
    | mk after answer =>
      simp only
      cases answer with
      | error reason => rfl
      | ok source =>
        dsimp only
        generalize source.bucket.refill now after.opts.synRateInterval after.opts.synBurstPerSource = bucket
        by_cases spent : bucket.tokens = 0
        · simp only [if_pos spent]
        · simp only [if_neg spent]

theorem reserve_aside (key : SynSourceKey) : (engine.withSessions sessions).reserveInboundHalfOpen key =
    (engine.reserveInboundHalfOpen key).map (withSessions · sessions) := by
  rw [reserveInboundHalfOpen, reserveInboundHalfOpen]
  conv_lhs => dsimp only [withSessions]
  by_cases full : engine.halfOpen ≥ engine.opts.maxHalfOpenSessions
  · simp only [if_pos full]
    rfl
  · simp only [if_neg full]
    split
    · rfl
    · rename_i source _
      by_cases crowded : source.halfOpen ≥ engine.opts.maxHalfOpenPerSource
      · simp only [if_pos crowded]
        rfl
      · simp only [if_neg crowded]
        rfl

theorem releaseHalfOpen_aside (session : Session) (releasedAt : Nat) :
    (engine.withSessions sessions).releaseHalfOpen session releasedAt =
      (engine.releaseHalfOpen session releasedAt).withSessions sessions := by
  rw [releaseHalfOpen, releaseHalfOpen]
  conv_lhs => dsimp only [withSessions]
  dsimp only
  by_cases free : session.halfOpenHeld = false
  · simp only [if_pos free]
  · simp only [if_neg free]
    by_cases outbound : session.synSource.remoteIpv4 = 0
    · simp only [if_pos outbound]
    · simp only [if_neg outbound]
      split
      · rfl
      · rfl

theorem enqueue_aside (session : Session) (packet : PendingPacket) :
    (engine.withSessions sessions).enqueue session packet =
      (engine.enqueue session packet).map fun queued => (queued.1.withSessions sessions, queued.2) := by
  rw [enqueue, enqueue]
  conv_lhs => dsimp only [withSessions]
  by_cases refused : packet.data.length = 0 ∨ session.pending.length ≥ engine.opts.maxPendingPacketsPerFlow ∨
      engine.pendingBytes + packet.data.length > engine.opts.maxPendingBytes
  · simp only [if_pos refused]
    rfl
  · simp only [if_neg refused]
    by_cases crowded : session.pending = [] ∧ engine.pendingFlows ≥ engine.opts.maxPendingFlows
    · simp only [if_pos crowded]
      rfl
    · simp only [if_neg crowded]
      rfl

theorem release_aside (flow : SessionKey) (session : Session) : (engine.withSessions sessions).release flow session =
    ((engine.release flow session).1.withSessions sessions, (engine.release flow session).2) := by
  rw [release, release]
  by_cases empty : session.pending = []
  · simp only [if_pos empty]
  · simp only [if_neg empty]

theorem remove_aside (turn : Turn) (flow : SessionKey) (session : Session) :
    (engine.withSessions sessions).remove turn flow session =
      (engine.remove turn flow session).withSessions (sessions.erase flow) := by
  rw [remove, remove, releaseHalfOpen_aside]
  dsimp only
  by_cases empty : session.pending = []
  · simp only [if_pos empty]
  · simp only [if_neg empty]

end Aside

section Congruence
variable {engine after : Engine} {sessions : Table SessionKey Session} {turn : Turn} {flow : SessionKey}

def Agrees (engine : Engine) (sessions : Table SessionKey Session) : Prop :=
  ∀ flow, sessions.lookup flow = engine.sessions.lookup flow

variable (agrees : Agrees engine sessions)
include agrees

theorem Agrees.same (same : SameSessions engine after) : Agrees after sessions := by
  intro flow
  rw [same.sessions]
  exact agrees flow

theorem Agrees.keys : sessions.keys.Perm engine.sessions.keys := by
  have perm : sessions.entries.Perm engine.sessions.entries :=
    List.lookup_ext sessions.nodupKeys engine.sessions.nodupKeys fun flow session =>
      Eq.to_iff (congrArg (session ∈ ·) (agrees flow))
  exact perm.map Sigma.fst

theorem Agrees.alike : Alike engine (engine.withSessions sessions) := ⟨agrees, rfl⟩

theorem Agrees.set (flow : SessionKey) (session : Session) :
    Alike (engine.setSession flow session) ((engine.withSessions sessions).setSession flow session) := by
  refine ⟨fun other => ?_, rfl⟩
  by_cases here : other = flow
  · subst here
    simp only [setSession, AList.lookup_insert]
  · simp only [setSession, AList.lookup_insert_ne here]
    exact agrees other

theorem Agrees.remove (turn : Turn) (flow : SessionKey) (session : Session) :
    Alike (engine.remove turn flow session) ((engine.withSessions sessions).remove turn flow session) := by
  obtain ⟨erased, _, _⟩ := remove_fields (.refl engine) turn flow session
  rw [remove_aside engine sessions]
  refine ⟨fun other => ?_, rfl⟩
  by_cases here : other = flow
  · subst here
    simp only [erased, AList.lookup_erase]
  · simp only [erased, AList.lookup_erase_ne here]
    exact agrees other

theorem retry_alike (session : Session) (request : PendingDelete) :
    AlikeOutcome (engine.retryPendingDelete turn flow session request)
      ((engine.withSessions sessions).retryPendingDelete turn flow session request) := by
  rw [retryPendingDelete, retryPendingDelete]
  split
  · exact ⟨agrees.set _ _, rfl, rfl⟩
  · exact ⟨agrees.set _ _, rfl, rfl⟩
  · exact ⟨agrees.remove _ _ _, rfl, rfl⟩

theorem outboundEstablished_alike (session : Session) (packet : PendingPacket) (alreadyDropped : Bool) :
    AlikeOutcome (engine.outboundEstablished turn flow session packet alreadyDropped)
      ((engine.withSessions sessions).outboundEstablished turn flow session packet alreadyDropped) := by
  rw [outboundEstablished, outboundEstablished]
  split
  · exact retry_alike agrees _ _
  split
  · exact ⟨agrees.alike, rfl, rfl⟩
  · dsimp only
    rw [lookupEstablished_aside engine sessions]
    split
    · exact ⟨agrees.set _ _, rfl, rfl⟩
    · exact ⟨agrees.remove _ _ _, rfl, rfl⟩
    · exact ⟨agrees.set _ _, rfl, rfl⟩

theorem queueOutbound_alike (session : Session) (packet : PendingPacket) (created : Bool) :
    AlikeOutcome (engine.queueOutbound flow session packet created)
      ((engine.withSessions sessions).queueOutbound flow session packet created) := by
  rw [queueOutbound, queueOutbound]
  split
  · exact ⟨agrees.set _ _, rfl, rfl⟩
  · dsimp only
    rw [enqueue_aside engine sessions]
    split
    · rename_i after longer queued
      rw [queued]
      exact ⟨(agrees.same (enqueue_spec queued).1).set _ _, rfl, rfl⟩
    · rename_i refused
      rw [refused]
      exact ⟨agrees.set _ _, rfl, rfl⟩

theorem outbound_alike (flow : SessionKey) (packet : PendingPacket) (alreadyDropped : Bool) :
    AlikeOutcome (engine.outbound turn flow packet alreadyDropped)
      ((engine.withSessions sessions).outbound turn flow packet alreadyDropped) := by
  have count : (engine.withSessions sessions).sessions.keys.length = engine.sessions.keys.length :=
    agrees.keys.length_eq
  rw [outbound, outbound, agrees flow, count, validateFlow_aside engine sessions]
  split
  · exact ⟨agrees.alike, rfl, rfl⟩
  split
  · exact ⟨agrees.alike, rfl, rfl⟩
  split
  · split
    · exact outboundEstablished_alike agrees _ _ _
    · exact queueOutbound_alike agrees _ _ _
  · split
    · exact ⟨agrees.alike, rfl, rfl⟩
    · split
      · exact ⟨agrees.alike, rfl, rfl⟩
      · have counted : Agrees { engine with halfOpen := engine.halfOpen + 1 } sessions := agrees
        exact queueOutbound_alike counted _ _ _

theorem captured_alike (event : Event) (packet : Bytes) (fingerprint : Digest) :
    AlikeOutcome (engine.handleOwnedCapturedPacket turn event packet fingerprint)
      ((engine.withSessions sessions).handleOwnedCapturedPacket turn event packet fingerprint) := by
  rw [handleOwnedCapturedPacket, handleOwnedCapturedPacket, identity_aside engine sessions]
  split
  · exact ⟨agrees.alike, rfl, rfl⟩
  split
  · exact ⟨agrees.alike, rfl, rfl⟩
  split
  · exact ⟨agrees.alike, rfl, rfl⟩
  split
  · exact ⟨agrees.alike, rfl, rfl⟩
  split
  · exact ⟨agrees.alike, rfl, rfl⟩
  · exact outbound_alike agrees _ _ _

theorem Agrees.restore (flow : SessionKey) (checkpoint : Checkpoint) :
    Alike (engine.restore flow checkpoint) ((engine.withSessions sessions).restore flow checkpoint) := by
  obtain ⟨held, flows, bytes⟩ := checkpoint
  refine ⟨fun other => ?_, rfl⟩
  cases held with
  | none =>
    by_cases here : other = flow
    · subst here
      simp only [Engine.restore, AList.lookup_erase]
    · simp only [Engine.restore, AList.lookup_erase_ne here]
      exact agrees other
  | some session =>
    by_cases here : other = flow
    · subst here
      simp only [Engine.restore, AList.lookup_insert]
    · simp only [Engine.restore, AList.lookup_insert_ne here]
      exact agrees other

theorem inboundUnknown_alike (segment : Segment) (wgId : UInt32) (synSource : SynSourceKey) :
    AlikeOutcome (engine.inboundUnknown turn flow segment wgId synSource)
      ((engine.withSessions sessions).inboundUnknown turn flow segment wgId synSource) := by
  have count : (engine.withSessions sessions).sessions.keys.length = engine.sessions.keys.length :=
    agrees.keys.length_eq
  rw [inboundUnknown, inboundUnknown, count, reserve_aside engine sessions]
  split
  · exact ⟨agrees.alike, rfl, rfl⟩
  split
  · exact ⟨agrees.alike, rfl, rfl⟩
  split
  · rename_i reason refused
    rw [refused]
    exact ⟨agrees.alike, rfl, rfl⟩
  · rename_i after reserved
    rw [reserved]
    exact ⟨(agrees.same (engine.reserve_same reserved)).set _ _, rfl, rfl⟩

theorem completeHandshake_alike (session : Session) (segment : Segment) (checkpoint : Checkpoint) :
    AlikeOutcome (engine.completeHandshake turn flow session segment checkpoint)
      ((engine.withSessions sessions).completeHandshake turn flow session segment checkpoint) := by
  have released : SameSessions engine (engine.release flow (completed session segment)).1 := by
    rw [release]
    split
    · exact ⟨rfl, rfl, rfl⟩
    · exact ⟨rfl, rfl, rfl⟩
  have inserts (middle : Engine) (session : Session) :
      (middle.withSessions sessions).insertEstablished turn flow session =
        middle.insertEstablished turn flow session := rfl
  rw [completeHandshake, completeHandshake, release_aside engine sessions]
  dsimp only
  rw [inserts]
  split
  · exact ⟨(agrees.same released).restore _ _, rfl, rfl⟩
  · rename_i stored inserted
    rw [releaseHalfOpen_aside _ sessions]
    refine ⟨?_, rfl, rfl⟩
    exact (agrees.same (released.trans (releaseHalfOpen_same _ _ _))).set _ _

theorem inboundKnown_alike (session : Session) (segment : Segment) (checkpoint : Checkpoint) :
    AlikeOutcome (engine.inboundKnown turn flow session segment checkpoint)
      ((engine.withSessions sessions).inboundKnown turn flow session segment checkpoint) := by
  rw [inboundKnown, inboundKnown, lookupEstablished_aside engine sessions]
  split
  · exact completeHandshake_alike agrees _ _ _
  split
  · split
    · exact ⟨agrees.set _ _, rfl, rfl⟩
    · exact ⟨agrees.set _ _, rfl, rfl⟩
  · split
    · exact ⟨agrees.set _ _, rfl, rfl⟩
    · exact ⟨agrees.set _ _, rfl, rfl⟩
  · split
    · exact ⟨agrees.set _ _, rfl, rfl⟩
    · split
      · exact ⟨agrees.restore _ _, rfl, rfl⟩
      · exact ⟨agrees.remove _ _ _, rfl, rfl⟩
      · exact ⟨agrees.set _ _, rfl, rfl⟩
  · exact ⟨agrees.set _ _, rfl, rfl⟩

theorem inboundAdmitted_alike (segment : Segment) (wgId : UInt32) (synSource : SynSourceKey)
    (session : Option Session) (checkpoint : Checkpoint) :
    AlikeOutcome (engine.inboundAdmitted turn flow segment wgId synSource session checkpoint)
      ((engine.withSessions sessions).inboundAdmitted turn flow segment wgId synSource session checkpoint) := by
  cases session with
  | none =>
    simp only [inboundAdmitted]
    split
    · exact ⟨agrees.alike, rfl, rfl⟩
    · exact inboundUnknown_alike agrees _ _ _
  | some session =>
    simp only [inboundAdmitted]
    split
    · exact ⟨agrees.alike, rfl, rfl⟩
    split
    · split
      · exact ⟨agrees.alike, rfl, rfl⟩
      · exact ⟨agrees.remove _ _ _, rfl, rfl⟩
    · exact inboundKnown_alike agrees _ _ _

theorem inbound_alike (flow : SessionKey) (segment : Segment) (wgId : UInt32) :
    AlikeOutcome (engine.inbound turn flow segment wgId)
      ((engine.withSessions sessions).inbound turn flow segment wgId) := by
  have saved (session : Option Session) :
      (engine.withSessions sessions).checkpoint session = engine.checkpoint session := rfl
  rw [inbound, inbound, validateFlow_aside engine sessions]
  dsimp only
  rw [agrees flow, saved, observeSyn_aside engine sessions]
  split
  · exact ⟨agrees.alike, rfl, rfl⟩
  split
  · exact ⟨agrees.alike, rfl, rfl⟩
  split
  · exact retry_alike agrees _ _
  split
  · have same := engine.observeSyn_same flow turn.now
    split
    · rename_i after reason refused
      rw [refused] at same ⊢
      exact ⟨(agrees.same same).alike, rfl, rfl⟩
    · rename_i after source admitted
      rw [admitted] at same ⊢
      exact inboundAdmitted_alike (agrees.same same) _ _ _ _ _
  · exact inboundAdmitted_alike agrees _ _ _ _ _

theorem control_alike (event : Event) (packet : Bytes) :
    AlikeOutcome (engine.inboundCapturedControl turn event packet)
      ((engine.withSessions sessions).inboundCapturedControl turn event packet) := by
  rw [inboundCapturedControl, inboundCapturedControl]
  dsimp only
  rw [validateFlow_aside engine sessions, identity_aside engine sessions, agrees event.key]
  split
  · exact ⟨agrees.alike, rfl, rfl⟩
  split
  · exact ⟨agrees.alike, rfl, rfl⟩
  split
  · exact ⟨agrees.alike, rfl, rfl⟩
  split
  · exact ⟨agrees.alike, rfl, rfl⟩
  split
  · exact ⟨agrees.alike, rfl, rfl⟩
  split
  · exact ⟨agrees.alike, rfl, rfl⟩
  split
  · exact ⟨agrees.alike, rfl, rfl⟩
  split
  · exact retry_alike agrees _ _
  split
  · exact ⟨agrees.alike, rfl, rfl⟩
  · rw [lookupEstablished_aside engine sessions]
    split
    · exact ⟨agrees.alike, rfl, rfl⟩
    · exact ⟨agrees.alike, rfl, rfl⟩
    split
    · exact ⟨agrees.set _ _, rfl, rfl⟩
    split
    · exact ⟨agrees.set _ _, rfl, rfl⟩
    · exact ⟨agrees.set _ _, rfl, rfl⟩
    · exact ⟨agrees.remove _ _ _, rfl, rfl⟩

theorem tickHalfOpen_alike (session : Session) : AlikeOutcome (engine.tickHalfOpen turn flow session)
      ((engine.withSessions sessions).tickHalfOpen turn flow session) := by
  rw [tickHalfOpen, tickHalfOpen]
  split
  · exact ⟨agrees.alike, rfl, rfl⟩
  split
  · exact ⟨agrees.remove _ _ _, rfl, rfl⟩
  · exact ⟨agrees.set _ _, rfl, rfl⟩

theorem tickEstablished_alike (nowMonotonic : UInt64) (session : Session) :
    AlikeOutcome (engine.tickEstablished turn nowMonotonic flow session)
      ((engine.withSessions sessions).tickEstablished turn nowMonotonic flow session) := by
  rw [tickEstablished, tickEstablished, lookupEstablished_aside engine sessions]
  split
  · exact retry_alike agrees _ _
  split
  · exact ⟨agrees.alike, rfl, rfl⟩
  · exact ⟨agrees.remove _ _ _, rfl, rfl⟩
  split
  · split
    · exact ⟨agrees.set _ _, rfl, rfl⟩
    · exact ⟨agrees.set _ _, rfl, rfl⟩
    · exact ⟨agrees.remove _ _ _, rfl, rfl⟩
  · split
    · exact ⟨agrees.set _ _, rfl, rfl⟩
    · exact ⟨agrees.set _ _, rfl, rfl⟩

theorem tickSession_alike (nowMonotonic : UInt64) (flow : SessionKey) :
    AlikeOutcome (engine.tickSession turn nowMonotonic flow)
      ((engine.withSessions sessions).tickSession turn nowMonotonic flow) := by
  rw [tickSession, tickSession, agrees flow]
  split
  · exact ⟨agrees.alike, rfl, rfl⟩
  split
  · exact tickHalfOpen_alike agrees _
  · exact tickHalfOpen_alike agrees _
  · exact tickEstablished_alike agrees _ _
  · exact ⟨agrees.alike, rfl, rfl⟩

end Congruence

section Runs
variable {left right : Engine} {turn : Turn}

theorem Alike.exists_sessions (alike : Alike left right) :
    ∃ sessions, Agrees left sessions ∧ right = left.withSessions sessions :=
  ⟨right.sessions, alike.sessions, alike.rest⟩

theorem sweep_alike (nowMonotonic : UInt64) (flows : List SessionKey) (alike : Alike left right) :
    AlikeOutcome (sweep turn nowMonotonic left flows) (sweep turn nowMonotonic right flows) := by
  induction flows generalizing left right with
  | nil => exact ⟨alike, rfl, rfl⟩
  | cons flow rest ih =>
    obtain ⟨sessions, agrees, rfl⟩ := alike.exists_sessions
    have first : AlikeOutcome (left.tickSession turn nowMonotonic flow) _ :=
      tickSession_alike agrees nowMonotonic flow
    have others := ih first.engine
    rw [sweep, sweep]
    refine ⟨others.engine, ?_, ?_⟩
    · dsimp only
      rw [first.actions, others.actions]
    · dsimp only
      rw [first.error, others.error]

/-- The order in which a map is iterated depends on what it holds, not on how it came to hold it. -/
def OrderFree (turn : Turn) : Prop :=
  ∀ keys others : List SessionKey, keys.Perm others → turn.order keys = turn.order others

theorem tick_alike (alike : Alike left right) (free : OrderFree turn) :
    AlikeOutcome (left.tick turn) (right.tick turn) := by
  have keys : turn.order right.sessions.keys = turn.order left.sessions.keys :=
    free _ _ (Agrees.keys alike.sessions)
  rw [tick, tick, keys]
  split
  · exact ⟨alike, rfl, rfl⟩
  · exact sweep_alike _ _ alike

theorem perform_alike (alike : Alike left right) (input : Turn × Request) (free : OrderFree input.1) :
    Alike (left.perform input) (right.perform input) := by
  obtain ⟨turn, request⟩ := input
  obtain ⟨sessions, agrees, rfl⟩ := alike.exists_sessions
  cases request with
  | outbound flow packet alreadyDropped => exact (outbound_alike agrees flow packet alreadyDropped).engine
  | captured event packet fingerprint => exact (captured_alike agrees event packet fingerprint).engine
  | inbound flow segment wgId => exact (inbound_alike agrees flow segment wgId).engine
  | control event packet => exact (control_alike agrees event packet).engine
  | tick => exact (tick_alike alike free).engine

theorem run_alike (inputs : List (Turn × Request)) (free : ∀ input ∈ inputs, OrderFree input.1)
    (alike : Alike left right) : Alike (Runs.run perform left inputs) (Runs.run perform right inputs) := by
  induction inputs generalizing left right with
  | nil => exact alike
  | cons input rest ih =>
    refine ih (fun later member => free later (List.mem_cons_of_mem _ member)) ?_
    exact perform_alike alike input (free input List.mem_cons_self)

end Runs
end Engine
end WgMix.FakeTcp
