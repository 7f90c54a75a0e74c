import WgMix.FakeTcp.SessionStore

/-! The course of an engine call. A call for a flow refuses, writes the flow's session back, removes it
or opens one, queues a packet or hands packets over, and each course also says what it asked of the
session store. What holds on every course holds of every call. -/
namespace WgMix.FakeTcp
open Bpf

/-- No deletion is waiting to be retried. -/
def Unpending (found : Option Session) : Prop := ∀ session, found = some session → session.pendingDelete = none

/-- Only an established session waits for a deletion. -/
def OnlyEstablished (found : Option Session) : Prop :=
  ∀ session request, found = some session → session.pendingDelete = some request → session.state = .established

/-- The session after a deletion was answered: kept with its request, kept
without one, or gone. -/
def DeleteAnswered (request : PendingDelete) (found : Option Session) : Option SessionDeleteResult → Prop
  | none => ∃ session, found = some session ∧ session.state = .established ∧
      session.pendingDelete = some request
  | some .different => ∃ session, found = some session ∧ session.pendingDelete = none
  | some _ => found = none

def UseAnswered (turn : Turn) (flow : SessionKey) (before after : Option Session) : StoreUse → Prop
  | .idle => after = before ∨ Unpending after
  | .looks | .inserts _ => Unpending after
  | .deletes request | .retries request => DeleteAnswered request after (turn.delete flow request.expected)

/-- Nothing is deleted. -/
inductive StoreUse.Plain : StoreUse → Prop where
  | idle : StoreUse.Plain .idle
  | looks : StoreUse.Plain .looks
  | inserts (value : SessionValue) : StoreUse.Plain (.inserts value)

namespace Session

/-- The two sessions count alike. -/
structure SameAccount (left right : Session) : Prop where
  pending : right.pending = left.pending
  pendingBytes : right.pendingBytes = left.pendingBytes
  halfOpenHeld : right.halfOpenHeld = left.halfOpenHeld
  synSource : right.synSource = left.synSource

theorem SameAccount.trans {first second third : Session} (one : first.SameAccount second)
    (two : second.SameAccount third) : first.SameAccount third :=
  ⟨two.pending.trans one.pending, two.pendingBytes.trans one.pendingBytes,
    two.halfOpenHeld.trans one.halfOpenHeld, two.synSource.trans one.synSource⟩

/-- The numbers of a session that is still half open. -/
def Numbered (session : Session) : Prop :=
  (session.state = .synSent → session.txSequence = session.localIsn + 1) ∧
    (session.state = .synRecv → session.txSequence = session.localIsn + 1 ∧
      session.rxSequence = session.remoteIsn + 1)

/-- What a call keeps of a session that it writes back. -/
structure Carries (session next : Session) : Prop extends SameAccount session next where
  owner : session.wgId ≠ 0 → next.wgId = session.wgId
  established : next.state = .established ↔ session.state = .established
  numbered : session.Numbered → next.Numbered

theorem Carries.trans {session next last : Session} (first : session.Carries next) (second : next.Carries last) :
    session.Carries last where
  toSameAccount := first.toSameAccount.trans second.toSameAccount
  owner nonzero := by
    have kept := first.owner nonzero
    exact (second.owner (kept ▸ nonzero)).trans kept
  established := second.established.trans first.established
  numbered numbers := second.numbered (first.numbered numbers)

theorem numbered_established {session : Session} (established : session.state = .established) :
    session.Numbered := by
  rw [Numbered, established]
  exact ⟨SessionState.noConfusion, SessionState.noConfusion⟩

/-- A session without an owner takes the packet's. -/
theorem adopt_carries (session : Session) (wgId : UInt32) :
    session.Carries (if session.wgId = 0 then { session with wgId } else session) := by
  split
  · rename_i zero
    exact ⟨⟨rfl, rfl, rfl, rfl⟩, fun nonzero => absurd zero nonzero, .rfl, fun numbers => numbers⟩
  · exact ⟨⟨rfl, rfl, rfl, rfl⟩, fun _ => rfl, .rfl, fun numbers => numbers⟩

theorem adopt_pendingDelete (session : Session) (wgId : UInt32) :
    (if session.wgId = 0 then { session with wgId } else session).pendingDelete = session.pendingDelete := by
  split <;> rfl

end Session

theorem StoreUse.Plain.answered {use : StoreUse} (plain : use.Plain) (free : Unpending after) :
    UseAnswered turn flow before after use := by
  cases plain with
  | idle => exact .inr free
  | looks => exact free
  | inserts value => exact free

namespace Engine

theorem unpending_none : Unpending none := by
  intro session found
  cases found

theorem unpending_some {session : Session} (free : session.pendingDelete = none) : Unpending (some session) := by
  rintro _ ⟨⟩
  exact free

/-- A new session that holds a slot and no queue. -/
structure Opens (session : Session) : Prop where
  held : session.halfOpenHeld = true
  empty : session.pending = []
  bytes : session.pendingBytes = 0

/-- At most admission state and counters differ. -/
structure SameSessions (before after : Engine) : Prop where
  sessions : after.sessions = before.sessions
  opts : after.opts = before.opts
  identity : after.identity = before.identity

section Same
variable {before engine after : Engine} {flow : SessionKey}

theorem SameSessions.refl (engine : Engine) : SameSessions engine engine := ⟨rfl, rfl, rfl⟩

theorem SameSessions.trans (first : SameSessions before engine) (second : SameSessions engine after) :
    SameSessions before after :=
  ⟨second.sessions.trans first.sessions, second.opts.trans first.opts,
    second.identity.trans first.identity⟩

theorem validateFlow_opts (same : after.opts = before.opts) (flow : SessionKey) :
    after.validateFlow flow = before.validateFlow flow := by
  simp only [validateFlow, same]

theorem wgId_ne_zero (valid : before.validateFlow flow = true) : flow.wgId ≠ 0 := by
  simp only [validateFlow, decide_eq_true_eq] at valid
  exact valid.2.2.2.2.2.2.1

end Same

section Ledger
variable (engine : Engine)

theorem touchSynSource_same : SameSessions engine (engine.touchSynSource key source now) := ⟨rfl, rfl, rfl⟩

theorem prune_same (engine : Engine) (now budget : Nat) :
    SameSessions engine (engine.pruneExpiredSynSources now budget) := by
  induction budget generalizing engine with
  | zero => exact .refl engine
  | succ budget ih =>
    unfold pruneExpiredSynSources
    split
    · exact .refl engine
    · dsimp only
      split
      · refine .trans ?_ (ih _)
        exact ⟨rfl, rfl, rfl⟩
      · split
        · exact .refl engine
        · split
          · refine .trans ?_ (ih _)
            exact ⟨rfl, rfl, rfl⟩
          · exact .trans engine.touchSynSource_same (ih _)

theorem lookupOrCreate_same (key : SynSourceKey) (now : Nat) :
    SameSessions engine (engine.lookupOrCreateSynSource key now).1 := by
  unfold lookupOrCreateSynSource
  have pruned := engine.prune_same now synSourcePruneBudget
  dsimp only
  split
  · exact pruned.trans (touchSynSource_same _)
  · split
    · exact pruned
    · exact pruned.trans ⟨rfl, rfl, rfl⟩

theorem observeSyn_same (flow : SessionKey) (now : Nat) :
    SameSessions engine (engine.observeSyn flow now).1 := by
  unfold observeSyn
  dsimp only
  split
  · exact ⟨rfl, rfl, rfl⟩
  · have looked := lookupOrCreate_same
      { engine with globalSyns :=
          { engine.globalSyns.refill now engine.opts.synRateInterval engine.opts.synBurst with
            tokens := (engine.globalSyns.refill now engine.opts.synRateInterval engine.opts.synBurst).tokens - 1 } }
      ⟨flow.remoteIpv4, flow.underlayIndex⟩ now
    split
    · rename_i result
      rw [result] at looked
      exact ⟨looked.sessions, looked.opts, looked.identity⟩
    · rename_i result
      rw [result] at looked
      split <;> exact ⟨looked.sessions, looked.opts, looked.identity⟩

theorem reserve_same (reserved : engine.reserveInboundHalfOpen key = .ok after) :
    SameSessions engine after := by
  unfold reserveInboundHalfOpen at reserved
  split at reserved
  · contradiction
  · split at reserved
    · contradiction
    · split at reserved
      · contradiction
      · cases reserved
        exact ⟨rfl, rfl, rfl⟩

theorem releaseHalfOpen_same (session : Session) (releasedAt : Nat) :
    SameSessions engine (engine.releaseHalfOpen session releasedAt) := by
  unfold releaseHalfOpen
  split
  · exact .refl engine
  · dsimp only
    split
    · exact ⟨rfl, rfl, rfl⟩
    · split <;> exact ⟨rfl, rfl, rfl⟩

end Ledger

section Entry
variable {engine : Engine} {turn : Turn} {flow : SessionKey} {session original : Session}

/-- The fields an inserted entry takes from its session. -/
structure SameEntry (left right : Session) : Prop where
  txSequence : left.txSequence = right.txSequence
  rxSequence : left.rxSequence = right.rxSequence
  localIsn : left.localIsn = right.localIsn
  remoteIsn : left.remoteIsn = right.remoteIsn
  state : left.state = right.state
  sessionId : left.sessionId = right.sessionId

theorem insertUse_entry {other : Session} (same : SameSessions engine after) (entry : SameEntry session other) :
    after.insertUse turn flow session = engine.insertUse turn flow other := by
  obtain ⟨txSequence, rxSequence, localIsn, remoteIsn, state, sessionId⟩ := entry
  simp only [insertUse, establishedValue, txSequence, rxSequence, localIsn, remoteIsn, state, sessionId,
    same.opts, same.identity]

theorem completed_entry {other : Session} (entry : SameEntry session other) (segment : Segment) :
    SameEntry (completed session segment) (completed other segment) := by
  obtain ⟨txSequence, rxSequence, localIsn, remoteIsn, state, sessionId⟩ := entry
  unfold completed
  rw [state]
  split <;> constructor <;> first | assumption | rfl

theorem release_entry (engine : Engine) (flow : SessionKey) (session : Session) :
    SameEntry (engine.release flow session).2.1 session := by
  unfold release
  split <;> constructor <;> rfl

theorem SameEntry.trans {other last : Session} (first : SameEntry session other) (second : SameEntry other last) :
    SameEntry session last :=
  ⟨first.txSequence.trans second.txSequence, first.rxSequence.trans second.rxSequence,
    first.localIsn.trans second.localIsn, first.remoteIsn.trans second.remoteIsn,
    first.state.trans second.state, first.sessionId.trans second.sessionId⟩

theorem completes_entry (entry : SameEntry session original) (segment : Segment) :
    completes session segment = completes original segment := by
  simp only [completes, entry.state, entry.txSequence, entry.remoteIsn]

theorem insertUse_plain (engine : Engine) (turn : Turn) (flow : SessionKey) (session : Session) :
    (engine.insertUse turn flow session).Plain := by
  unfold insertUse
  split
  · exact .inserts _
  · exact .idle

theorem release_restore (flow : SessionKey) (session : Session) (checkpoint : Checkpoint) :
    (engine.release flow session).1.restore flow checkpoint = engine.restore flow checkpoint := by
  rw [release]
  split
  · rfl
  · rfl

end Entry

/-- What a call says when it writes a session back; with a packet it brought, that it did not take it. -/
inductive Reply (turn : Turn) (engine : Engine) (flow : SessionKey) (brought : Option PendingPacket) (use : StoreUse)
    (next : Session) (actions : List Action) : Prop where
  | silent (said : actions = []) (own : brought = none)
  | dropped (said : actions = [.drop flow reason])
  | forwarded (said : actions = [.forward flow])
  | spoke (flags : UInt8) (ack : UInt32) (said : actions = [engine.control flow next flags next.localIsn ack reason])
      (own : brought = none) (kind : flags = flagSyn ∨ flags = flagSyn ||| flagAck) (other : reason ≠ .completeHandshake)
  | alive (ack : UInt32) (said : actions = [engine.controlEstablished flow next value flagAck seq ack .keepalive])
      (own : brought = none) (used : use = .looks) (looked : turn.lookup flow = some (some value))
      (incarnation : value.runtimeIncarnation = engine.identity.incarnation)

/-- The session that an outbound packet waits on, and the engine that counts it. -/
inductive Starts (engine : Engine) (flow : SessionKey) (found : Option Session) (counted : Engine) (next : Session)
    (created : Bool) : Prop where
  | held (same : counted = engine) (old : created = false) (held : found = some session)
      (halfOpen : session.state ≠ .established) (carries : session.Carries next)
      (kept : next.pendingDelete = session.pendingDelete)
  | opened (slotted : counted = { engine with halfOpen := engine.halfOpen + 1 }) (new : created = true)
      (missing : found = none) (valid : engine.validateFlow flow = true) (owner : next.wgId = flow.wgId)
      (room : engine.sessions.keys.length < engine.opts.sessionCapacity)
      (slot : engine.halfOpen < engine.opts.maxHalfOpenSessions) (opens : Opens next)
      (unsourced : next.synSource = {}) (sent : next.state = .synSent) (numbered : next.Numbered)
      (free : next.pendingDelete = none)

/-- The SYN of a new outbound session. -/
def opening (engine : Engine) (flow : SessionKey) (session : Session) (created : Bool) : List Action :=
  if created then [engine.control flow session flagSyn session.localIsn 0 .initialHandshake] else []

/-- What a call for `flow` does that found the session `found` after SYN admission. It may have brought a
packet to send or a segment that arrived; `use` is what it asked of the store. -/
inductive Course (engine : Engine) (turn : Turn) (flow : SessionKey) (checkpoint : Checkpoint)
    (brought : Option PendingPacket) (arrived : Option Segment) (use : StoreUse) (found : Option Session)
    (outcome : Outcome) : Prop where
  | idle (result : outcome = ⟨engine, [], error⟩) (refused : brought = none ∨ error ≠ none)
      (answered : UseAnswered turn flow found found use)
  | refused (result : outcome = ⟨engine, [.drop flow reason], error⟩)
      (answered : UseAnswered turn flow found found use)
  | set (result : outcome = ⟨engine.setSession flow next, actions, error⟩) (held : found = some session)
      (carries : session.Carries next)
      (answered : OnlyEstablished found → UseAnswered turn flow found (some next) use)
      (reply : Reply turn engine flow brought use next actions)
  | removed (result : outcome = ⟨engine.remove turn flow next, [.close flow reason], none⟩)
      (held : found = some session) (account : session.SameAccount next)
      (answered : UseAnswered turn flow found none use)
  | restored (result : outcome = ⟨engine.restore flow checkpoint, [.drop flow .sessionStoreUnavailable], some cause⟩)
      (own : brought = none) (held : found = some session) (answered : UseAnswered turn flow found found use)
  | passed (result : outcome = ⟨engine.setSession flow next, [.releasePending flow next.wgId [packet]], none⟩)
      (arriving : brought = some packet) (held : found = some session) (established : session.state = .established)
      (carries : session.Carries next) (answered : UseAnswered turn flow found (some next) use)
  | queued (result : outcome = ⟨after.setSession flow next, counted.opening flow session created, none⟩)
      (arriving : brought = some packet) (starts : Starts engine flow found counted session created)
      (enqueued : counted.enqueue session packet = some (after, next)) (idle : use = .idle)
  | full (result : outcome =
        ⟨counted.setSession flow session, counted.opening flow session created ++ [.drop flow reason], none⟩)
      (starts : Starts engine flow found counted session created) (idle : use = .idle)
  | accepted (result : outcome = ⟨after.setSession flow next,
        [after.control flow next (flagSyn ||| flagAck) next.localIsn next.rxSequence .acceptSyn], none⟩)
      (own : brought = none) (missing : found = none) (valid : engine.validateFlow flow = true)
      (owner : next.wgId = flow.wgId) (room : engine.sessions.keys.length < engine.opts.sessionCapacity)
      (reserved : engine.reserveInboundHalfOpen next.synSource = .ok after) (opens : Opens next)
      (received : next.state = .synRecv) (numbered : next.Numbered)
      (answered : UseAnswered turn flow found (some next) use)
  | finished (segment : Segment) (result : outcome =
        ⟨((engine.release flow (completed seen segment)).1.releaseHalfOpen stored (turn.releasedAt flow)).setSession
            flow { stored with halfOpenHeld := false },
          engine.completionAck flow seen (completed seen segment) ++
            (engine.release flow (completed seen segment)).2.2, none⟩)
      (own : brought = none) (arriving : arrived = some segment) (held : found = some original)
      (carries : original.Carries seen) (entry : SameEntry seen original) (done : completes original segment = true)
      (asked : use = engine.insertUse turn flow (completed original segment))
      (inserted : (engine.release flow (completed seen segment)).1.insertEstablished turn flow
        (engine.release flow (completed seen segment)).2.1 = (stored, none))
      (answered : UseAnswered turn flow found (some { stored with halfOpenHeld := false }) use)

theorem Starts.same (starts : Starts engine flow found counted session created) : SameSessions engine counted := by
  cases starts with
  | held unchanged => exact unchanged ▸ .refl engine
  | opened slotted => exact slotted ▸ ⟨rfl, rfl, rfl⟩

theorem Starts.halfOpen (starts : Starts engine flow found counted session created) :
    session.state ≠ .established := by
  cases starts with
  | held unchanged old held halfOpen carries => exact mt carries.established.mp halfOpen
  | opened slotted new missing valid owner room slot opens unsourced sent =>
    rw [sent]
    exact SessionState.noConfusion

section Courses
variable {turn : Turn} {engine : Engine} {flow : SessionKey} {checkpoint : Checkpoint}
  {brought : Option PendingPacket} {arrived : Option Segment} {use : StoreUse} {found : Option Session}
  {session original : Session}

theorem lookupEstablished_found
    (looked : engine.lookupEstablished turn flow session = .ok (some (value, refreshed))) :
    refreshed = { session with txSequence := value.txSequence, rxSequence := value.rxSequence } ∧
      turn.lookup flow = some (some value) ∧ value.runtimeIncarnation = engine.identity.incarnation := by
  rw [lookupEstablished] at looked
  split at looked
  · contradiction
  · cases looked
  · rename_i answer
    split_ifs at looked with _ _ identity
    cases looked
    rw [not_or, not_not, not_not] at identity
    exact ⟨rfl, answer, identity.2⟩

theorem lookup_carries (established : session.state = .established)
    (looked : engine.lookupEstablished turn flow session = .ok (some (value, refreshed))) :
    session.Carries refreshed ∧ refreshed.pendingDelete = session.pendingDelete := by
  obtain ⟨rfl, _⟩ := lookupEstablished_found looked
  exact ⟨⟨⟨rfl, rfl, rfl, rfl⟩, fun _ => rfl, .rfl, fun _ => Session.numbered_established established⟩, rfl⟩

/-- The answer to a deletion; `dropped` is what is said when the value had changed. -/
theorem deleted_course (held : found = some original) (carries : original.Carries session)
    (established : OnlyEstablished found → session.state = .established) (request : PendingDelete)
    (used : use = .retries request ∨ use = .deletes request) (dropped : List Action) (closed : Reason)
    (reply : ∀ next, Reply turn engine flow brought use next dropped) :
    engine.Course turn flow checkpoint brought arrived use found
      (match compareDeleteEstablished turn flow session request with
        | (session, none) =>
          ⟨engine.setSession flow session, [.drop flow .sessionStoreUnavailable], some .store⟩
        | (session, some .different) => ⟨engine.setSession flow session, dropped, none⟩
        | (session, some _) => ⟨engine.remove turn flow session, [.close flow closed], none⟩) := by
  have answers (after : Option Session) (here : DeleteAnswered request after (turn.delete flow request.expected)) :
      UseAnswered turn flow found after use := by
    rcases used with rfl | rfl
    · exact here
    · exact here
  have kept (pendingDelete : Option PendingDelete) : original.Carries { session with pendingDelete } :=
    carries.trans ⟨⟨rfl, rfl, rfl, rfl⟩, fun _ => rfl, .rfl, fun numbers => numbers⟩
  simp only [compareDeleteEstablished]
  cases answer : turn.delete flow request.expected with
  | none =>
    refine .set rfl held (kept _) (fun only => answers _ ?_) (.dropped rfl)
    rw [answer]
    exact ⟨_, rfl, established only, rfl⟩
  | some result =>
    cases result with
    | different =>
      refine .set rfl held (kept _) (fun _ => answers _ ?_) (reply _)
      rw [answer]
      exact ⟨_, rfl, rfl⟩
    | absent | removed =>
      refine .removed rfl held (kept _).toSameAccount (answers _ ?_)
      rw [answer]
      rfl

theorem retry_course (held : found = some session) (waits : session.pendingDelete = some request) :
    engine.Course turn flow checkpoint brought arrived (.retries request) found
      (engine.retryPendingDelete turn flow session request) := by
  have same : session.Carries session := ⟨⟨rfl, rfl, rfl, rfl⟩, fun _ => rfl, .rfl, fun numbers => numbers⟩
  exact deleted_course held same (fun only => only session request held waits) request (.inl rfl) _ _
    fun _ => .dropped rfl

theorem outboundEstablished_course (held : found = some session) (established : session.state = .established)
    (waits : session.pendingDelete = none) (packet : PendingPacket) (alreadyDropped : Bool) :
    engine.Course turn flow checkpoint (some packet) arrived
      (if packet.wgId ≠ 0 ∧ session.wgId ≠ 0 ∧ packet.wgId ≠ session.wgId then .idle else .looks) found
      (engine.outboundEstablished turn flow session packet alreadyDropped) := by
  unfold outboundEstablished
  split
  · split
    · rename_i retained
      cases waits.symm.trans retained
    · exact .refused rfl (.inl rfl)
  split
  · rename_i retained
    cases waits.symm.trans retained
  have adopted := session.adopt_carries packet.wgId
  have unasked := (session.adopt_pendingDelete packet.wgId).trans waits
  dsimp only
  split
  · exact .set rfl held adopted (fun _ => unpending_some unasked) (.dropped rfl)
  · exact .removed rfl held adopted.toSameAccount unpending_none
  · rename_i value refreshed looked
    obtain ⟨carries, kept⟩ := lookup_carries (adopted.established.mpr established) looked
    have later : session.Carries { refreshed with nextKeepalive := turn.now + engine.opts.keepaliveInterval } :=
      (adopted.trans carries).trans ⟨⟨rfl, rfl, rfl, rfl⟩, fun _ => rfl, .rfl, fun numbers => numbers⟩
    have still := kept.trans unasked
    cases alreadyDropped with
    | true => exact .passed rfl rfl held established later (unpending_some still)
    | false => exact .set rfl held later (fun _ => unpending_some still) (.forwarded rfl)

theorem queueOutbound_course (starts : Starts engine flow found counted
      (if session.wgId = 0 then { session with wgId := packet.wgId } else session) created)
    (foreign : packet.wgId ≠ session.wgId → Starts engine flow found counted session false) :
    engine.Course turn flow checkpoint (some packet) arrived .idle found
      (counted.queueOutbound flow session packet created) := by
  unfold queueOutbound
  split
  · rename_i mismatch
    exact .full rfl (foreign mismatch.2.2) rfl
  · dsimp only
    split
    · rename_i enqueued
      exact .queued rfl rfl starts enqueued rfl
    · exact .full rfl starts rfl

theorem outbound_course (engine : Engine) (turn : Turn) (flow : SessionKey) (packet : PendingPacket)
    (alreadyDropped : Bool) :
    engine.Course turn flow checkpoint (some packet) arrived (engine.outboundUse flow packet)
      (engine.sessions.lookup flow) (engine.outbound turn flow packet alreadyDropped) := by
  unfold outbound outboundUse
  by_cases valid : engine.validateFlow flow = false
  · rw [if_pos valid, if_pos (.inl valid)]
    exact .idle rfl (.inr (Option.some_ne_none _)) (.inl rfl)
  by_cases foreign : packet.wgId ≠ flow.wgId
  · rw [if_neg valid, if_pos foreign, if_pos (.inr foreign)]
    exact .refused rfl (.inl rfl)
  rw [if_neg valid, if_neg foreign, if_neg (not_or.mpr ⟨valid, foreign⟩)]
  rw [Bool.not_eq_false] at valid
  rw [not_not] at foreign
  cases held : engine.sessions.lookup flow with
  | none =>
    dsimp only
    split
    · exact .refused rfl (.inl rfl)
    rename_i room
    split
    · exact .refused rfl (.inl rfl)
    rename_i slot
    refine queueOutbound_course ?_ fun other => absurd rfl other
    split <;> exact .opened rfl rfl rfl valid foreign (Nat.lt_of_not_le room) (Nat.lt_of_not_le slot)
      ⟨rfl, rfl, rfl⟩ rfl rfl ⟨fun _ => rfl, SessionState.noConfusion⟩ rfl
  | some session =>
    dsimp only
    by_cases established : session.state = .established
    · rw [if_pos established, if_neg (not_not.mpr established)]
      cases waits : session.pendingDelete with
      | some request =>
        have retried : engine.outboundEstablished turn flow session packet alreadyDropped =
            engine.retryPendingDelete turn flow session request := by
          simp only [outboundEstablished, waits]
        rw [retried]
        exact retry_course rfl waits
      | none => exact outboundEstablished_course rfl established waits packet alreadyDropped
    · rw [if_neg established, if_pos established]
      refine queueOutbound_course ?_ fun _ => ?_
      · exact .held rfl rfl rfl established (session.adopt_carries _) (session.adopt_pendingDelete _)
      · exact .held rfl rfl rfl established ⟨⟨rfl, rfl, rfl, rfl⟩, fun _ => rfl, .rfl, fun numbers => numbers⟩ rfl

section Inbound
variable {segment : Segment}

theorem completed_keeps (session : Session) (segment : Segment) : ∃ remoteIsn rxSequence,
    completed session segment = { session with remoteIsn, rxSequence, state := .established } := by
  rw [completed]
  split <;> exact ⟨_, _, rfl⟩

theorem release_keeps (engine : Engine) (flow : SessionKey) (session : Session) : ∃ pendingBytes,
    (engine.release flow session).2.1 = { session with pending := [], pendingBytes } := by
  rw [release]
  split
  · rename_i empty
    exact ⟨_, by rw [← empty]⟩
  · exact ⟨_, rfl⟩

theorem insertEstablished_keeps (inserted : engine.insertEstablished turn flow session = (after, error)) :
    ∃ sessionId, after = { session with sessionId } := by
  rw [insertEstablished] at inserted
  split at inserted
  · cases inserted
    exact ⟨_, rfl⟩
  · split at inserted <;> cases inserted <;> exact ⟨_, rfl⟩

/-- A successful insert gave the store the entry of its session. -/
theorem insertEstablished_done (inserted : engine.insertEstablished turn flow session = (stored, none)) :
    ∃ nowMonotonic sessionId,
      engine.insertUse turn flow session = .inserts (engine.establishedValue flow session nowMonotonic sessionId) ∧
        turn.insert flow (engine.establishedValue flow session nowMonotonic sessionId) = true := by
  rw [insertEstablished] at inserted
  split at inserted
  · cases inserted
  rename_i nowMonotonic clock
  split at inserted
  · cases inserted
  rename_i sessionId chosen
  refine ⟨nowMonotonic, sessionId, by rw [insertUse, clock, chosen], ?_⟩
  have answer := (Prod.mk.inj inserted).2
  by_contra refused
  rw [Bool.not_eq_true] at refused
  rw [refused] at answer
  cases answer

/-- The session of a completed handshake, as it was given to the store. -/
theorem stored_keeps (inserted : (engine.release flow (completed session segment)).1.insertEstablished turn flow
      (engine.release flow (completed session segment)).2.1 = (stored, error)) :
    stored.pending = [] ∧ stored.wgId = session.wgId ∧ stored.state = .established ∧
      stored.pendingDelete = session.pendingDelete := by
  obtain ⟨_, rfl⟩ := insertEstablished_keeps inserted
  obtain ⟨_, kept⟩ := release_keeps engine flow (completed session segment)
  obtain ⟨_, _, done⟩ := completed_keeps session segment
  rw [kept, done]
  exact ⟨rfl, rfl, rfl, rfl⟩

theorem completeHandshake_course (held : found = some original) (carries : original.Carries session)
    (entry : SameEntry session original) (free : original.pendingDelete = none)
    (unasked : session.pendingDelete = none) (done : completes original segment = true) (plain : use.Plain)
    (asked : use = engine.insertUse turn flow (completed original segment)) :
    engine.Course turn flow checkpoint none (some segment) use found
      (engine.completeHandshake turn flow session segment checkpoint) := by
  unfold completeHandshake
  dsimp only
  split
  · rw [release_restore]
    exact .restored rfl rfl held (plain.answered (held ▸ unpending_some free))
  · rename_i stored inserted
    have kept := (stored_keeps inserted).2.2.2.trans unasked
    exact .finished segment rfl rfl rfl held carries entry done asked inserted (plain.answered (unpending_some kept))

theorem inboundKnown_course (held : found = some original) (carries : original.Carries session)
    (entry : SameEntry session original) (free : original.pendingDelete = none)
    (unasked : session.pendingDelete = none) (plain : use.Plain)
    (asked : completes original segment = true → use = engine.insertUse turn flow (completed original segment)) :
    engine.Course turn flow checkpoint none (some segment) use found
      (engine.inboundKnown turn flow session segment checkpoint) := by
  have answered (next : Session) (free : next.pendingDelete = none) :
      OnlyEstablished found → UseAnswered turn flow found (some next) use :=
    fun _ => plain.answered (unpending_some free)
  have dropped (reason : Reason) : engine.Course turn flow checkpoint none (some segment) use found
      ⟨engine.setSession flow session, [.drop flow reason], none⟩ :=
    .set rfl held carries (answered session unasked) (.dropped rfl)
  unfold inboundKnown
  split
  · rename_i done
    rw [completes_entry entry] at done
    exact completeHandshake_course held carries entry free unasked done plain (asked done)
  split
  · rename_i sent
    split
    · refine .set rfl held (carries.trans ⟨⟨rfl, rfl, rfl, rfl⟩, fun _ => rfl, ?_, fun numbers => ?_⟩)
        (answered _ unasked) (.spoke _ _ rfl rfl (.inr rfl) (by decide))
      · rw [sent]
        exact ⟨SessionState.noConfusion, SessionState.noConfusion⟩
      · exact ⟨SessionState.noConfusion, fun _ => ⟨numbers.1 sent, rfl⟩⟩
    · exact dropped _
  · split
    · exact .set rfl held carries (answered session unasked) (.spoke _ _ rfl rfl (.inr rfl) (by decide))
    · exact dropped _
  · rename_i established
    split
    · exact dropped _
    split
    · exact .restored rfl rfl held (plain.answered (held ▸ unpending_some free))
    · exact .removed rfl held carries.toSameAccount (plain.answered unpending_none)
    · rename_i value refreshed looked
      obtain ⟨later, kept⟩ := lookup_carries established looked
      exact .set rfl held (carries.trans later) (answered _ (kept.trans unasked)) (.forwarded rfl)
  · exact dropped _

theorem inboundUnknown_course (missing : found = none) (valid : engine.validateFlow flow = true)
    (plain : use.Plain) (synSource : SynSourceKey) :
    engine.Course turn flow checkpoint none arrived use found
      (engine.inboundUnknown turn flow segment flow.wgId synSource) := by
  have refused (reason : Reason) : engine.Course turn flow checkpoint none arrived use found
      ⟨engine, [.drop flow reason], none⟩ := .refused rfl (plain.answered (missing ▸ unpending_none))
  unfold inboundUnknown
  split
  · exact refused _
  split
  · exact refused _
  rename_i room
  split
  · exact refused _
  · rename_i reserved
    exact .accepted rfl rfl missing valid rfl (Nat.lt_of_not_le room) reserved ⟨rfl, rfl, rfl⟩ rfl
      ⟨SessionState.noConfusion, fun _ => ⟨rfl, rfl⟩⟩ (plain.answered (unpending_some rfl))

/-- After SYN admission, for a flow that no deletion waits for. -/
theorem inboundAdmitted_course (valid : engine.validateFlow flow = true) (free : Unpending found) (plain : use.Plain)
    (synSource : SynSourceKey)
    (asked : ∀ session, found = some session → ¬(flow.wgId ≠ 0 ∧ session.wgId ≠ 0 ∧ flow.wgId ≠ session.wgId) →
      ¬(segment.flags &&& (flagRst ||| flagFin) ≠ 0) → completes session segment = true →
      use = engine.insertUse turn flow (completed session segment)) :
    engine.Course turn flow checkpoint none (some segment) use found
      (engine.inboundAdmitted turn flow segment flow.wgId synSource found checkpoint) := by
  have refused (reason : Reason) : engine.Course turn flow checkpoint none (some segment) use found
      ⟨engine, [.drop flow reason], none⟩ := .refused rfl (plain.answered free)
  unfold inboundAdmitted
  split
  · split
    · exact refused _
    · exact inboundUnknown_course rfl valid plain synSource
  · rename_i session
    have unasked := free session rfl
    split
    · exact refused _
    rename_i owner
    split
    · split
      · exact refused _
      · exact .removed rfl rfl ⟨rfl, rfl, rfl, rfl⟩ (plain.answered unpending_none)
    · rename_i opening
      refine inboundKnown_course rfl ?_ ⟨rfl, rfl, rfl, rfl, rfl, rfl⟩ unasked unasked plain
        (asked session rfl owner opening)
      exact ⟨⟨rfl, rfl, rfl, rfl⟩, fun nonzero => if_neg nonzero, .rfl, fun numbers => numbers⟩

theorem inboundUse_plain (free : Unpending (engine.sessions.lookup flow)) (turn : Turn) (segment : Segment)
    (wgId : UInt32) : (engine.inboundUse turn flow segment wgId).Plain := by
  unfold inboundUse
  split
  · exact .idle
  split
  · exact .idle
  rename_i session held
  split
  · rename_i waits
    cases (free session held).symm.trans waits
  split
  · exact .idle
  split
  · exact insertUse_plain engine turn flow _
  split
  · exact .looks
  · exact .idle

/-- A segment that completes the flow's session asks the store to take it over. -/
theorem inboundUse_completes (admitted : ¬(engine.validateFlow flow = false ∨ wgId ≠ flow.wgId))
    (accepted : ¬(segment.flags = flagSyn ∧ (engine.observeSyn flow turn.now).2.isOk = false))
    (held : engine.sessions.lookup flow = some session) (free : session.pendingDelete = none)
    (ours : ¬(wgId ≠ 0 ∧ session.wgId ≠ 0 ∧ wgId ≠ session.wgId))
    (opening : ¬(segment.flags &&& (flagRst ||| flagFin) ≠ 0)) (done : completes session segment = true) :
    engine.inboundUse turn flow segment wgId = engine.insertUse turn flow (completed session segment) := by
  simp only [inboundUse, if_neg admitted, held, free, if_pos done]
  exact if_neg (not_or.mpr ⟨accepted, not_or.mpr ⟨ours, opening⟩⟩)

/-- The engine after SYN admission, if the segment comes to it. -/
def observing (engine : Engine) (turn : Turn) (flow : SessionKey) (segment : Segment) (wgId : UInt32) : Engine :=
  if engine.validateFlow flow = true ∧ wgId = flow.wgId ∧
      ((engine.sessions.lookup flow).bind (·.pendingDelete)).isNone ∧ segment.flags = flagSyn then
    (engine.observeSyn flow turn.now).1
  else engine

theorem inbound_course (engine : Engine) (turn : Turn) (flow : SessionKey) (segment : Segment) (wgId : UInt32) :
    (engine.observing turn flow segment wgId).Course turn flow (engine.checkpoint (engine.sessions.lookup flow)) none
      (some segment) (engine.inboundUse turn flow segment wgId) (engine.sessions.lookup flow)
      (engine.inbound turn flow segment wgId) := by
  by_cases valid : engine.validateFlow flow = false
  · rw [observing, inbound, inboundUse, if_neg (by simp [valid]), if_pos valid, if_pos (.inl valid)]
    exact .idle rfl (.inl rfl) (.inl rfl)
  by_cases foreign : wgId ≠ flow.wgId
  · rw [observing, inbound, inboundUse, if_neg (by simp [foreign]), if_neg valid, if_pos foreign,
      if_pos (.inr foreign)]
    exact .refused rfl (.inl rfl)
  have admitted := not_or.mpr ⟨valid, foreign⟩
  rw [not_not] at foreign
  subst foreign
  rw [Bool.not_eq_false] at valid
  cases deleting : (engine.sessions.lookup flow).bind (·.pendingDelete) with
  | some request =>
    obtain ⟨session, held, waits⟩ := Option.bind_eq_some_iff.mp deleting
    simp only [observing, inbound, inboundUse, held, waits, Option.bind_some, Option.map_some,
      Option.isNone_some, Bool.false_eq_true, false_and, and_false, if_false, valid, ne_eq, not_true_eq_false]
    exact retry_course rfl waits
  | none =>
    have free : Unpending (engine.sessions.lookup flow) := fun session held => by
      rwa [held, Option.bind_some] at deleting
    have waiting : ((engine.sessions.lookup flow).bind fun session =>
        session.pendingDelete.map fun request => (session, request)) = none := by
      rw [Option.bind_eq_none_iff] at deleting ⊢
      exact fun session held => Option.map_eq_none_iff.mpr (deleting session held)
    have plain := inboundUse_plain free turn segment flow.wgId
    simp only [observing, inbound, deleting, waiting, valid, Bool.true_eq_false, if_false, ne_eq, not_true_eq_false,
      Option.isNone_none, true_and]
    have same := engine.observeSyn_same flow turn.now
    split
    · rename_i syn
      split
      · rename_i after reason result
        rw [result]
        exact .refused rfl (plain.answered free)
      · rename_i after synSource result
        rw [result] at same ⊢
        refine inboundAdmitted_course ((validateFlow_opts same.opts flow).trans valid) free plain synSource ?_
        intro session held ours opening done
        rw [insertUse_entry same ⟨rfl, rfl, rfl, rfl, rfl, rfl⟩]
        refine inboundUse_completes admitted ?_ held (free session held) ours opening done
        rw [result]
        exact fun refused => Bool.false_ne_true refused.2.symm
    · rename_i other
      exact inboundAdmitted_course valid free plain {} fun session held ours opening done =>
        inboundUse_completes admitted (fun syn => other syn.1) held (free session held) ours opening done

end Inbound

theorem control_course (engine : Engine) (turn : Turn) (event : Event) (packet : Bytes) :
    engine.Course turn event.key checkpoint none arrived (engine.controlUse turn event packet)
      (engine.sessions.lookup event.key) (engine.inboundCapturedControl turn event packet) := by
  have shut (reply : List Action) (error : Option EngineError) (quiet : reply = [] ∨ ∃ reason,
      reply = [.drop event.key reason]) (refused : engine.closeRefused event packet = true) :
      engine.Course turn event.key checkpoint none arrived (engine.controlUse turn event packet)
        (engine.sessions.lookup event.key) ⟨engine, reply, error⟩ := by
    rw [controlUse, if_pos refused]
    rcases quiet with rfl | ⟨reason, rfl⟩
    · exact .idle rfl (.inl rfl) (.inl rfl)
    · exact .refused rfl (.inl rfl)
  simp only [inboundCapturedControl]
  split
  · exact shut _ _ (.inl rfl) (by simp [closeRefused, *])
  split
  · exact shut _ _ (.inr ⟨_, rfl⟩) (by simp [closeRefused, *])
  split
  · exact shut _ _ (.inl rfl) (by simp [closeRefused, *])
  split
  · exact shut _ _ (.inl rfl) (by simp [closeRefused, *])
  split
  · exact shut _ _ (.inr ⟨_, rfl⟩) (by simp [closeRefused, *])
  rename_i valid named identity type envelope
  rw [controlUse, if_neg (by simp [closeRefused, *])]
  cases held : engine.sessions.lookup event.key with
  | none => exact .refused rfl (.inl rfl)
  | some session =>
    dsimp only
    split
    · exact .refused rfl (.inl rfl)
    cases waits : session.pendingDelete with
    | some request => exact retry_course rfl waits
    | none =>
      dsimp only
      split
      · exact .refused rfl (.inl rfl)
      rename_i halfOpen
      have established : session.state = .established := not_not.mp halfOpen
      dsimp only [lookUse]
      cases looked : engine.lookupEstablished turn event.key session with
      | error cause => exact .refused rfl (unpending_some waits)
      | ok result =>
        cases result with
        | none => exact .refused rfl (unpending_some waits)
        | some pair =>
          obtain ⟨value, refreshed⟩ := pair
          obtain ⟨carries, kept⟩ := lookup_carries established looked
          dsimp only
          cases accepted : validateIPv4TCPControl packet event value with
          | false =>
            simp only [if_true, Bool.false_eq_true, if_false, Option.elim_none]
            exact .set rfl rfl carries (fun _ => unpending_some (kept.trans waits)) (.dropped rfl)
          | true =>
            simp only [Bool.true_eq_false, if_false, if_true, Option.elim_some]
            exact deleted_course rfl carries (fun _ => carries.established.mpr established) _ (.inr rfl) _ _
              fun _ => .dropped rfl

theorem tickHalfOpen_course (held : found = some session) (halfOpen : session.state ≠ .established) :
    engine.Course turn flow checkpoint none arrived .idle found (engine.tickHalfOpen turn flow session) := by
  unfold tickHalfOpen
  split
  · exact .idle rfl (.inl rfl) (.inl rfl)
  split
  · exact .removed rfl held ⟨rfl, rfl, rfl, rfl⟩ (.inr unpending_none)
  · refine .set rfl held ⟨⟨rfl, rfl, rfl, rfl⟩, fun _ => rfl, .rfl, fun numbers => numbers⟩ (fun only => ?_)
      (.spoke _ _ rfl rfl ?_ (by decide))
    · refine .inr (unpending_some ?_)
      rw [Option.eq_none_iff_forall_ne_some]
      exact fun request waits => halfOpen (only session request held waits)
    · dsimp only
      split
      · exact .inr rfl
      · exact .inl rfl

theorem tickEstablished_course (held : found = some session) (established : session.state = .established)
    (waits : session.pendingDelete = none) (nowMonotonic : UInt64) :
    engine.Course turn flow checkpoint none arrived
      (engine.lookUse turn flow session fun value =>
        if value.lastSeenNanos ≤ nowMonotonic ∧
            (nowMonotonic - value.lastSeenNanos).toNat ≥ engine.opts.idleTimeout then
          some ⟨value, .idleTimeout⟩
        else none)
      found (engine.tickEstablished turn nowMonotonic flow session) := by
  rw [tickEstablished, waits]
  dsimp only [lookUse]
  cases looked : engine.lookupEstablished turn flow session with
  | error cause => exact .refused rfl (held ▸ unpending_some waits)
  | ok result =>
    cases result with
    | none => exact .removed rfl held ⟨rfl, rfl, rfl, rfl⟩ unpending_none
    | some pair =>
      obtain ⟨value, refreshed⟩ := pair
      obtain ⟨carries, kept⟩ := lookup_carries established looked
      have free := unpending_some (kept.trans waits)
      dsimp only
      split
      · exact deleted_course held carries (fun _ => carries.established.mpr established) _ (.inr rfl) [] _
          fun _ => .silent rfl rfl
      split
      · obtain ⟨_, answer, incarnation⟩ := lookupEstablished_found looked
        refine .set rfl held (carries.trans ⟨⟨rfl, rfl, rfl, rfl⟩, fun _ => rfl, .rfl, fun numbers => numbers⟩)
          (fun _ => ?_) (.alive _ rfl rfl rfl answer incarnation)
        exact unpending_some (kept.trans waits)
      · exact .set rfl held carries (fun _ => free) (.silent rfl rfl)

theorem tickSession_course (engine : Engine) (turn : Turn) (nowMonotonic : UInt64) (flow : SessionKey) :
    engine.Course turn flow checkpoint none arrived (engine.tickUse turn nowMonotonic flow)
      (engine.sessions.lookup flow) (engine.tickSession turn nowMonotonic flow) := by
  unfold tickSession tickUse
  cases held : engine.sessions.lookup flow with
  | none => exact .idle rfl (.inl rfl) (.inl rfl)
  | some session =>
    dsimp only
    by_cases established : session.state = .established
    · simp only [established, ne_eq, not_true_eq_false, if_false]
      cases waits : session.pendingDelete with
      | some request =>
        have retried : engine.tickEstablished turn nowMonotonic flow session =
            engine.retryPendingDelete turn flow session request := by
          simp only [tickEstablished, waits]
        rw [retried]
        exact retry_course rfl waits
      | none => exact tickEstablished_course rfl established waits nowMonotonic
    · rw [if_pos established]
      split
      · exact tickHalfOpen_course rfl established
      · exact tickHalfOpen_course rfl established
      · contradiction
      · exact .idle rfl (.inl rfl) (.inl rfl)

def capturedPacket (event : Event) (packet : Bytes) (fingerprint : Digest) : PendingPacket where
  data := packet
  fwmark := event.fwmark
  wgId := event.wgId
  captureNanos := event.timestampNanos
  captureId := captureIdentityFromEvent event
  captureFingerprint := fingerprint

theorem captured_cases (engine : Engine) (turn : Turn) (event : Event) (packet : Bytes) (fingerprint : Digest) :
    (∃ cause, engine.handleOwnedCapturedPacket turn event packet fingerprint = ⟨engine, [], some cause⟩) ∨
      engine.handleOwnedCapturedPacket turn event packet fingerprint =
        engine.outbound turn event.key (capturedPacket event packet fingerprint) true := by
  rw [handleOwnedCapturedPacket]
  split
  · exact .inl ⟨_, rfl⟩
  split
  · exact .inl ⟨_, rfl⟩
  split
  · exact .inl ⟨_, rfl⟩
  split
  · exact .inl ⟨_, rfl⟩
  split
  · exact .inl ⟨_, rfl⟩
  · exact .inr rfl

end Courses
end Engine

namespace EngineCall

/-- The packet that a call brings to send. -/
def brought : EngineCall → Option PendingPacket
  | .outbound _ packet _ => some packet
  | _ => none

def arrived : EngineCall → Option Segment
  | .inbound _ segment _ => some segment
  | _ => none

/-- The engine after SYN admission, which only a segment comes to. -/
def admitted (engine : Engine) (turn : Turn) : EngineCall → Engine
  | .inbound flow segment wgId => engine.observing turn flow segment wgId
  | _ => engine

theorem admitted_same (call : EngineCall) (engine : Engine) (turn : Turn) :
    engine.SameSessions (call.admitted engine turn) := by
  cases call with
  | inbound flow segment wgId =>
    rw [admitted, Engine.observing]
    split
    · exact engine.observeSyn_same flow turn.now
    · exact .refl engine
  | _ => exact .refl engine

/-- Every call takes one of the courses. -/
theorem course (call : EngineCall) (engine : Engine) (turn : Turn) :
    (call.admitted engine turn).Course turn call.flow (engine.checkpoint (engine.sessions.lookup call.flow))
      call.brought call.arrived (call.use engine turn) (engine.sessions.lookup call.flow) (call.run engine turn) := by
  cases call with
  | outbound flow packet alreadyDropped => exact engine.outbound_course turn flow packet alreadyDropped
  | inbound flow segment wgId => exact engine.inbound_course turn flow segment wgId
  | control event packet => exact engine.control_course turn event packet
  | tick flow nowMonotonic => exact engine.tickSession_course turn nowMonotonic flow

end EngineCall
end WgMix.FakeTcp
