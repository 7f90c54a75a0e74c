import WgMix.FakeTcp.Accounting
import WgMix.Foundation.Runs

/-! Engine calls against the books: each call leaves them balanced and within the
limits, and no source with half-open slots loses its ledger entry. -/
namespace WgMix.FakeTcp
open Bpf

namespace Engine

/-- A state that `before` may come to. -/
structure Accounted (before after : Engine) : Prop where
  books : after.Books
  settled : after.Settled
  retained : ∀ source, 0 < before.ledgerHalfOpen source → source ∈ after.synSources
  opts : after.opts = before.opts

theorem mem_of_ledgerHalfOpen {engine : Engine} (positive : 0 < engine.ledgerHalfOpen source) :
    source ∈ engine.synSources := by
  by_contra absent
  rw [ledgerHalfOpen, Table.weightAt_none (AList.lookup_eq_none.mpr absent)] at positive
  exact absurd positive (Nat.lt_irrefl 0)

theorem Settled.set {engine : Engine} (settled : engine.Settled) (mine : session.Settles) :
    (engine.setSession flow session).Settled := by
  intro other held found
  by_cases here : other = flow
  · subst here
    rw [setSession, AList.lookup_insert] at found
    cases found
    exact mine
  · rw [setSession, AList.lookup_insert_ne here] at found
    exact settled other held found

theorem Settled.same {engine after : Engine} (settled : engine.Settled) (same : SameSessions engine after) :
    after.Settled := by
  intro flow session found
  rw [same.sessions] at found
  exact settled flow session found

namespace Accounted
variable {before engine after : Engine} {turn : Turn} {flow : SessionKey} {session next : Session}

theorem refl (books : engine.Books) (settled : engine.Settled) : Accounted engine engine :=
  ⟨books, settled, fun _ => mem_of_ledgerHalfOpen, rfl⟩

theorem trans (first : Accounted before engine)
    (second : ∀ source, source ∈ engine.synSources → source ∈ after.synSources)
    (books : after.Books) (settled : after.Settled) (opts : after.opts = engine.opts) : Accounted before after :=
  ⟨books, settled, fun source held => second source (first.retained source held), opts.trans first.opts⟩

theorem settles (accounted : Accounted before engine) (found : engine.sessions.lookup flow = some session)
    (same : session.SameAccount next) (state : next.state = .established → session.state = .established) :
    next.Settles := by
  intro established
  rw [same.pending, same.halfOpenHeld]
  exact accounted.settled flow session found (state established)

/-- A session is rewritten in fields that nothing counts. -/
theorem set (accounted : Accounted before engine) (found : engine.sessions.lookup flow = some session)
    (same : session.SameAccount next) (state : next.state = .established → session.state = .established) :
    Accounted before (engine.setSession flow next) :=
  accounted.trans (fun _ member => member) ((accounted.books.found found).same same)
    (accounted.settled.set (accounted.settles found same state)) rfl

theorem releaseHalfOpen_mem (engine : Engine) (session : Session) (releasedAt : Nat)
    (member : source ∈ engine.synSources) : source ∈ (engine.releaseHalfOpen session releasedAt).synSources := by
  simp only [releaseHalfOpen]
  split
  · exact member
  split
  · exact member
  split
  · exact member
  · exact (AList.mem_insert _).mpr (.inr member)

theorem remove_mem (engine : Engine) (turn : Turn) (flow : SessionKey) (session : Session)
    (member : source ∈ engine.synSources) : source ∈ (engine.remove turn flow session).synSources := by
  have kept := releaseHalfOpen_mem engine session (turn.releasedAt flow) member
  simp only [Engine.remove]
  split <;> exact kept

theorem remove (accounted : Accounted before engine) (found : engine.sessions.lookup flow = some session)
    (same : session.SameAccount next) (turn : Turn) : Accounted before (engine.remove turn flow next) := by
  obtain ⟨sessions, opts, _⟩ := remove_fields (.refl engine) turn flow next
  refine accounted.trans (fun source => remove_mem engine turn flow next)
    (((accounted.books.found found).same same).remove turn) ?_ opts
  intro other held present
  rw [sessions] at present
  by_cases here : other = flow
  · rw [here, AList.lookup_erase] at present
    cases present
  · rw [AList.lookup_erase_ne here] at present
    exact accounted.settled other held present

end Accounted

section Calls
variable {before engine : Engine} {turn : Turn} {flow : SessionKey} {session : Session}

theorem enqueue_kept (queued : engine.enqueue session packet = some (after, next)) :
    next.state = session.state ∧ after.synSources = engine.synSources := by
  simp only [enqueue] at queued
  split at queued
  · cases queued
  split at queued
  · cases queued
  · cases queued
    exact ⟨rfl, rfl⟩

/-- The session that a packet waits on is counted, and its source's ledger is as it was. -/
theorem Starts.books (starts : Starts engine flow (engine.sessions.lookup flow) counted session created)
    (books : engine.Books) :
    (counted.setSession flow session).Books ∧ counted.synSources = engine.synSources := by
  cases starts with
  | held unchanged old held halfOpen carries =>
    subst unchanged
    exact ⟨(books.found held).same carries.toSameAccount, rfl⟩
  | opened slotted new missing valid owner room slot opens unsourced =>
    subst slotted
    exact ⟨books.openOutbound missing room slot opens (unsourced ▸ rfl), rfl⟩

theorem reserve_mem (reserved : engine.reserveInboundHalfOpen key = .ok after) (member : source ∈ engine.synSources) :
    source ∈ after.synSources := by
  rw [reserveInboundHalfOpen] at reserved
  split at reserved
  · cases reserved
  split at reserved
  · cases reserved
  split at reserved
  · cases reserved
  · cases reserved
    exact (AList.mem_insert _).mpr (.inr member)

theorem Course.accounted (course : engine.Course turn flow (engine.checkpoint (engine.sessions.lookup flow)) brought
      arrived use (engine.sessions.lookup flow) outcome) (accounted : Accounted before engine) :
    Accounted before outcome.engine := by
  have opens (next : Session) (halfOpen : next.state ≠ .established) : next.Settles := fun established =>
    absurd established halfOpen
  cases course with
  | idle result => exact result ▸ accounted
  | refused result => exact result ▸ accounted
  | set result held carries =>
    exact result ▸ accounted.set held carries.toSameAccount carries.established.mp
  | removed result held account => exact result ▸ accounted.remove held account turn
  | @restored cause session result own held =>
    have unchanged : engine.restore flow (engine.checkpoint (engine.sessions.lookup flow)) =
        engine.setSession flow session := by
      rw [held]
      rfl
    rw [result, unchanged]
    exact accounted.set held ⟨rfl, rfl, rfl, rfl⟩ id
  | passed result arriving held established carries =>
    exact result ▸ accounted.set held carries.toSameAccount carries.established.mp
  | queued result arriving starts enqueued =>
    obtain ⟨books, ledger⟩ := starts.books accounted.books
    obtain ⟨state, kept⟩ := enqueue_kept enqueued
    have same := starts.same.trans (enqueue_spec enqueued).1
    refine result ▸ accounted.trans (fun source member => ?_) (books.enqueue enqueued)
      ((accounted.settled.same same).set (opens _ (state ▸ starts.halfOpen))) same.opts
    rw [show (setSession _ flow _).synSources = engine.synSources from kept.trans ledger]
    exact member
  | full result starts =>
    obtain ⟨books, ledger⟩ := starts.books accounted.books
    refine result ▸ accounted.trans (fun source member => ?_) books
      ((accounted.settled.same starts.same).set (opens _ starts.halfOpen)) starts.same.opts
    rw [show (setSession _ flow _).synSources = engine.synSources from ledger]
    exact member
  | accepted result own missing valid owner room reserved new received =>
    have same := reserve_same engine reserved
    rw [result]
    refine accounted.trans (fun source member => (reserve_mem reserved member :))
      (accounted.books.openInbound missing room reserved new rfl) ((accounted.settled.same same).set (opens _ ?_))
      same.opts
    rw [received]
    exact SessionState.noConfusion
  | @finished seen stored original segment result own arriving held carries entry done asked inserted =>
    obtain ⟨drained, _, _, _⟩ := stored_keeps inserted
    obtain ⟨_, _, counts⟩ := completed_keeps seen segment
    obtain ⟨_, stays⟩ := insertEstablished_keeps inserted
    have account : original.SameAccount (completed seen segment) := by
      rw [counts]
      exact ⟨carries.pending, carries.pendingBytes, carries.halfOpenHeld, carries.synSource⟩
    have unchanged := (release_spec engine flow (completed seen segment)).1
    have freed := releaseHalfOpen_same (engine.release flow (completed seen segment)).1 stored (turn.releasedAt flow)
    have released := ((accounted.books.found held).same account).release flow
    have kept : (engine.release flow (completed seen segment)).2.1.SameAccount stored := by
      rw [stays]
      exact ⟨rfl, rfl, rfl, rfl⟩
    refine result ▸ accounted.trans ?_ ((released.same kept).releaseHalfOpen (turn.releasedAt flow)) ?_ ?_
    · intro source member
      apply Accounted.releaseHalfOpen_mem
      simp only [release]
      split <;> exact member
    · exact (accounted.settled.same (unchanged.trans freed)).set fun _ => ⟨drained, rfl⟩
    · exact freed.opts.trans unchanged.opts

theorem remoteIpv4_ne_zero (valid : engine.validateFlow flow = true) : flow.remoteIpv4 ≠ 0 := by
  simp only [validateFlow, decide_eq_true_eq] at valid
  exact valid.2.2.1

/-- SYN admission forgets no source that holds slots. -/
theorem call_accounted (books : engine.Books) (settled : engine.Settled) (call : EngineCall) :
    Accounted engine (call.run engine turn).engine := by
  have accounted := Accounted.refl books settled
  have course := call.course engine turn
  have same := call.admitted_same engine turn
  suffices observed : Accounted engine (call.admitted engine turn) ∧
      engine.checkpoint (engine.sessions.lookup call.flow) =
        (call.admitted engine turn).checkpoint (engine.sessions.lookup call.flow) by
    rw [observed.2, ← same.sessions] at course
    exact course.accounted observed.1
  cases call with
  | inbound flow segment wgId =>
    simp only [EngineCall.admitted, observing] at same ⊢
    split
    · rename_i reached
      have step := (observeSyn_step engine turn.now (remoteIpv4_ne_zero reached.1)).1
      rw [if_pos reached] at same
      refine ⟨⟨books.observed same step, settled.same same, fun source held => ?_, same.opts⟩, ?_⟩
      · apply mem_of_ledgerHalfOpen
        rwa [step.halfOpens]
      · simp only [checkpoint, step.flows, step.bytes]
    · exact ⟨accounted, rfl⟩
  | _ => exact ⟨accounted, rfl⟩

theorem sweep_accounted (accounted : Accounted before engine) (nowMonotonic : UInt64) (flows : List SessionKey) :
    Accounted before (sweep turn nowMonotonic engine flows).engine := by
  induction flows generalizing engine with
  | nil => exact accounted
  | cons flow rest ih =>
    have course := (EngineCall.tick flow nowMonotonic).course engine turn
    exact ih (Course.accounted course accounted)

end Calls

/-- The calls that move the counters. An outbound packet is a captured one or the
caller's copy of a datagram. -/
inductive Request where
  | outbound (flow : SessionKey) (packet : PendingPacket) (alreadyDropped : Bool)
  | captured (event : Event) (packet : Bytes) (fingerprint : Digest)
  | inbound (flow : SessionKey) (segment : Segment) (wgId : UInt32)
  | control (event : Event) (packet : Bytes)
  | tick

def perform (engine : Engine) (input : Turn × Request) : Engine :=
  match input.2 with
  | .outbound flow packet alreadyDropped => (engine.outbound input.1 flow packet alreadyDropped).engine
  | .captured event packet fingerprint =>
    (engine.handleOwnedCapturedPacket input.1 event packet fingerprint).engine
  | .inbound flow segment wgId => (engine.inbound input.1 flow segment wgId).engine
  | .control event packet => (engine.inboundCapturedControl input.1 event packet).engine
  | .tick => (engine.tick input.1).engine

theorem perform_accounted {engine : Engine} (books : engine.Books) (settled : engine.Settled)
    (input : Turn × Request) : Accounted engine (engine.perform input) := by
  have accounted := Accounted.refl books settled
  obtain ⟨turn, request⟩ := input
  cases request with
  | outbound flow packet alreadyDropped => exact call_accounted books settled (.outbound flow packet alreadyDropped)
  | captured event packet fingerprint =>
    simp only [perform]
    rcases captured_cases engine turn event packet fingerprint with ⟨cause, refused⟩ | taken
    · rw [refused]
      exact accounted
    · rw [taken]
      exact call_accounted books settled (.outbound event.key _ true)
  | inbound flow segment wgId => exact call_accounted books settled (.inbound flow segment wgId)
  | control event packet => exact call_accounted books settled (.control event packet)
  | tick =>
    simp only [perform, tick]
    split
    · exact accounted
    · exact sweep_accounted accounted _ _

/-- What the counters say, in the limits of the options. -/
structure Accounts (options : Options) (engine : Engine) : Prop where
  halfOpen : engine.halfOpen = engine.sessions.total Session.held ∧
    engine.halfOpen ≤ options.maxHalfOpenSessions
  sources : ∀ source state, engine.synSources.lookup source = some state →
    state.halfOpen = engine.sessions.total (Session.heldFor source) ∧
      state.halfOpen ≤ options.maxHalfOpenPerSource
  pendingFlows : engine.pendingFlows = engine.sessions.total Session.queued ∧
    engine.pendingFlows ≤ options.maxPendingFlows
  pendingBytes : engine.pendingBytes = engine.sessions.total Session.queuedBytes ∧
    engine.pendingBytes ≤ options.maxPendingBytes
  queues : ∀ flow session, engine.sessions.lookup flow = some session →
    session.pending.length ≤ options.maxPendingPacketsPerFlow
  capacity : engine.sessions.keys.length ≤ options.sessionCapacity
  ledgerCapacity : engine.synSources.keys.length ≤ options.synSourceLedgerCapacity
  recency : engine.synSourceLru.Nodup ∧ ∀ source, source ∈ engine.synSourceLru ↔ source ∈ engine.synSources
  established : ∀ flow session, engine.sessions.lookup flow = some session → session.state = .established →
    session.pending = [] ∧ session.halfOpenHeld = false

theorem Books.accounts {engine : Engine} (books : engine.Books) (settled : engine.Settled) :
    Accounts engine.opts engine where
  halfOpen := ⟨Int.ofNat_inj.mp (books.balanced .slots trivial), Int.ofNat_le.mp (books.bounded .slots)⟩
  sources source state found := by
    have present : source ∈ engine.synSources := AList.lookup_isSome.mp (by rw [found]; rfl)
    have recordedEq : engine.ledgerHalfOpen source = state.halfOpen := Table.weightAt_some found
    rw [← recordedEq]
    exact ⟨Int.ofNat_inj.mp (books.balanced (.sourceSlots source) (books.ledger.addressed source present)),
      Int.ofNat_le.mp (books.bounded (.sourceSlots source))⟩
  pendingFlows := ⟨books.balanced .flows trivial, books.bounded .flows⟩
  pendingBytes := ⟨books.balanced .bytes trivial, books.bounded .bytes⟩
  queues flow session found := (books.queues flow session found).2
  capacity := books.capacity
  ledgerCapacity := books.ledger.bounded
  recency := ⟨books.ledger.unique, books.ledger.listed⟩
  established := settled

/-- The engine is created with empty tables, and with the options but for a default window. -/
theorem newEngine_books {runtime : RuntimeIdentity} (made : newEngine options runtime now = .ok engine) :
    engine.Books ∧ engine.Settled ∧ ∀ reached, Accounts engine.opts reached → Accounts options reached := by
  rw [newEngine] at made
  split at made
  · cases made
  cases made
  refine ⟨⟨⟨List.nodup_nil, ?_, ?_, Nat.zero_le _⟩, ?_, ?_, ?_, Nat.zero_le _⟩, ?_, ?_⟩
  · intro source
    exact ⟨fun member => (List.not_mem_nil member).elim, fun member => (AList.notMem_empty source member).elim⟩
  · intro source member
    exact absurd member (AList.notMem_empty source)
  · intro item _
    cases item <;> rfl
  · intro item
    cases item <;> exact Int.natCast_nonneg _
  · intro flow session found
    rw [AList.lookup_empty] at found
    cases found
  · intro flow session found
    rw [AList.lookup_empty] at found
    cases found
  · intro reached accounts
    dsimp only at accounts
    split at accounts
    · exact ⟨accounts.halfOpen, accounts.sources, accounts.pendingFlows, accounts.pendingBytes, accounts.queues,
        accounts.capacity, accounts.ledgerCapacity, accounts.recency, accounts.established⟩
    · exact accounts

/-- After every sequence of calls on a new engine the counters are exact and within
the limits, and the next call deletes no source that still holds half-open slots. -/
theorem engine_accounting (options : Options) (identity : RuntimeIdentity) (now : Nat) (engine : Engine)
    (made : newEngine options identity now = .ok engine) (inputs : List (Turn × Request)) :
    Accounts options (Runs.run perform engine inputs) ∧
      ∀ next source state, (Runs.run perform engine inputs).synSources.lookup source = some state →
        0 < state.halfOpen → source ∈ ((Runs.run perform engine inputs).perform next).synSources := by
  obtain ⟨books, settled, limits⟩ := newEngine_books made
  obtain ⟨booksNow, settledNow, optsNow⟩ : (Runs.run perform engine inputs).Books ∧
      (Runs.run perform engine inputs).Settled ∧ (Runs.run perform engine inputs).opts = engine.opts := by
    refine Runs.always (P := fun state : Engine => state.Books ∧ state.Settled ∧ state.opts = engine.opts) ?_
      ⟨books, settled, rfl⟩ inputs
    rintro state input ⟨booksHere, settledHere, optsHere⟩
    have accounted := perform_accounted booksHere settledHere input
    exact ⟨accounted.books, accounted.settled, accounted.opts.trans optsHere⟩
  refine ⟨limits _ (optsNow ▸ booksNow.accounts settledNow), ?_⟩
  intro next source state found positive
  apply (perform_accounted booksNow settledNow next).retained
  rw [ledgerHalfOpen, Table.weightAt_some found]
  exact positive

/-- A queued packet, a SYN of the same source for another port, and a tick. -/
def sampleRequests : List (Turn × Request) := [
  (sampleTurn 0 100, .outbound samplePeer samplePacket true),
  (sampleTurn 5 200, .inbound { samplePeer with remotePort := 40001 } ⟨flagSyn, 500, 0, 0⟩ 1),
  (sampleTurn 12 300, .tick)]

/-- Two half-open sessions, one of them on its source, and one queue. -/
theorem sample_accounting :
    (Runs.run perform sampleEngine sampleRequests).halfOpen = 2 ∧
      Accounts sampleOptions (Runs.run perform sampleEngine sampleRequests) :=
  ⟨by decide +kernel, (engine_accounting sampleOptions ⟨7, .fill 16 0xa5⟩ 0 sampleEngine rfl
    sampleRequests).1⟩

end Engine
end WgMix.FakeTcp
