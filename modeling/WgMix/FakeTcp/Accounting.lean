import WgMix.FakeTcp.EngineSpec
import WgMix.Foundation.Tally

/-! The engine's counters against what they count: half-open slots, the sources of
inbound SYNs, pending queues and table sizes, through every call. -/
namespace WgMix.FakeTcp
open Bpf

namespace Session

def held (session : Session) : Nat := if session.halfOpenHeld then 1 else 0

def heldFor (source : SynSourceKey) (session : Session) : Nat :=
  if session.halfOpenHeld = true ∧ session.synSource = source then 1 else 0

def queued (session : Session) : Nat := if session.pending = [] then 0 else 1

def queuedBytes (session : Session) : Nat := (session.pending.map fun packet => packet.data.length).sum

/-- Nothing of the handshake is left on an established session. -/
def Settles (session : Session) : Prop :=
  session.state = .established → session.pending = [] ∧ session.halfOpenHeld = false

end Session

namespace Engine

/-- Half-open slots that the ledger has on a source. -/
def ledgerHalfOpen (engine : Engine) (source : SynSourceKey) : Nat :=
  engine.synSources.weightAt SynSourceState.halfOpen source

/-- The ledger of SYN sources and its recency list. -/
structure LedgerBooks (engine : Engine) : Prop where
  unique : engine.synSourceLru.Nodup
  listed : ∀ source, source ∈ engine.synSourceLru ↔ source ∈ engine.synSources
  addressed : ∀ source ∈ engine.synSources, source.remoteIpv4 ≠ 0
  bounded : engine.synSources.keys.length ≤ engine.opts.synSourceLedgerCapacity

/-- What the engine keeps a running count of. -/
inductive Item where
  | slots
  | sourceSlots (source : SynSourceKey)
  | flows
  | bytes

/-- Outbound sessions hold their slot on no source. -/
def Item.Real : Item → Prop
  | .sourceSlots source => source.remoteIpv4 ≠ 0
  | _ => True

def recorded (engine : Engine) : Item → Int
  | .slots => engine.halfOpen
  | .sourceSlots source => engine.ledgerHalfOpen source
  | .flows => engine.pendingFlows
  | .bytes => engine.pendingBytes

end Engine

def Options.limit (options : Options) : Engine.Item → Nat
  | .slots => options.maxHalfOpenSessions
  | .sourceSlots _ => options.maxHalfOpenPerSource
  | .flows => options.maxPendingFlows
  | .bytes => options.maxPendingBytes

def Session.amount (item : Engine.Item) (session : Session) : Nat :=
  match item with
  | .slots => session.held
  | .sourceSlots source => session.heldFor source
  | .flows => session.queued
  | .bytes => session.queuedBytes

namespace Engine

structure Books (engine : Engine) : Prop where
  ledger : engine.LedgerBooks
  balanced : ∀ item : Item, item.Real → engine.recorded item = engine.sessions.total (Session.amount item)
  bounded : ∀ item : Item, engine.recorded item ≤ engine.opts.limit item
  queues : ∀ flow session, engine.sessions.lookup flow = some session →
    session.pendingBytes = session.queuedBytes ∧ session.pending.length ≤ engine.opts.maxPendingPacketsPerFlow
  capacity : engine.sessions.keys.length ≤ engine.opts.sessionCapacity

def Settled (engine : Engine) : Prop :=
  ∀ flow session, engine.sessions.lookup flow = some session → session.Settles

section Ledger
variable {engine : Engine}

theorem ledgerHalfOpen_insert (engine : Engine) (key : SynSourceKey) (state : SynSourceState) (source : SynSourceKey) :
    { engine with synSources := engine.synSources.insert key state }.ledgerHalfOpen source =
      if source = key then state.halfOpen else engine.ledgerHalfOpen source := by
  simp only [ledgerHalfOpen, Table.weightAt]
  split
  · rename_i here
    rw [here, AList.lookup_insert, Option.map_some, Option.getD_some]
  · rename_i elsewhere
    rw [AList.lookup_insert_ne elsewhere]

theorem ledgerHalfOpen_touch (engine : Engine) (key : SynSourceKey) (state : SynSourceState) (now : Nat)
    (source : SynSourceKey) : (engine.touchSynSource key state now).ledgerHalfOpen source =
      if source = key then state.halfOpen else engine.ledgerHalfOpen source :=
  ledgerHalfOpen_insert engine key { state with lastActivity := now } source

/-- A known source is rewritten, and may come to the front of the list. -/
theorem LedgerBooks.touch (books : engine.LedgerBooks) (present : key ∈ engine.synSources)
    (source : SynSourceState) (now : Nat) : (engine.touchSynSource key source now).LedgerBooks := by
  have listed := (books.listed key).mpr present
  constructor
  · rw [touchSynSource, List.nodup_cons]
    exact ⟨books.unique.not_mem_erase, books.unique.erase key⟩
  · intro other
    simp only [touchSynSource, List.mem_cons, books.unique.mem_erase_iff, AList.mem_insert, books.listed]
    by_cases here : other = key <;> simp [here]
  · intro other member
    rcases (AList.mem_insert _).mp member with rfl | old
    · exact books.addressed other present
    · exact books.addressed other old
  · simp only [touchSynSource, AList.keys_insert, List.length_cons]
    rw [List.length_erase_of_mem (AList.mem_keys.mp present)]
    have positive := List.length_pos_of_mem (AList.mem_keys.mp present)
    have bounded := books.bounded
    omega

theorem LedgerBooks.rewrite (books : engine.LedgerBooks) (present : key ∈ engine.synSources)
    (source : SynSourceState) :
    LedgerBooks { engine with synSources := engine.synSources.insert key source } := by
  have touched := books.touch present source source.lastActivity
  refine ⟨books.unique, ?_, touched.addressed, touched.bounded⟩
  intro other
  simp only [AList.mem_insert, books.listed]
  constructor
  · exact .inr
  · rintro (rfl | old)
    · exact present
    · exact old

theorem LedgerBooks.carry {after : Engine} (books : engine.LedgerBooks)
    (list : after.synSourceLru = engine.synSourceLru) (table : after.synSources = engine.synSources)
    (opts : after.opts = engine.opts) : after.LedgerBooks := by
  refine ⟨?_, ?_, ?_, ?_⟩
  · rw [list]
    exact books.unique
  · rw [list, table]
    exact books.listed
  · rw [table]
    exact books.addressed
  · rw [table, opts]
    exact books.bounded

/-- What ledger maintenance keeps: every source's slots, and all other counters. -/
structure LedgerStep (before after : Engine) : Prop where
  books : before.LedgerBooks → after.LedgerBooks
  halfOpens : ∀ source, after.ledgerHalfOpen source = before.ledgerHalfOpen source
  slots : after.halfOpen = before.halfOpen
  flows : after.pendingFlows = before.pendingFlows
  bytes : after.pendingBytes = before.pendingBytes

theorem LedgerStep.refl (engine : Engine) : LedgerStep engine engine := ⟨id, fun _ => rfl, rfl, rfl, rfl⟩

theorem LedgerStep.trans (first : LedgerStep before engine) (second : LedgerStep engine after) :
    LedgerStep before after where
  books books := second.books (first.books books)
  halfOpens source := (second.halfOpens source).trans (first.halfOpens source)
  slots := second.slots.trans first.slots
  flows := second.flows.trans first.flows
  bytes := second.bytes.trans first.bytes

theorem touchSynSource_halfOpens (found : engine.synSources.lookup key = some source)
    (same : state.halfOpen = source.halfOpen) (now : Nat) (other : SynSourceKey) :
    (engine.touchSynSource key state now).ledgerHalfOpen other = engine.ledgerHalfOpen other := by
  rw [ledgerHalfOpen_touch]
  split
  · rename_i here
    rw [here, ledgerHalfOpen, Table.weightAt_some found]
    exact same
  · rfl

theorem touchSynSource_step (found : engine.synSources.lookup key = some source) (now : Nat) :
    LedgerStep engine (engine.touchSynSource key source now) where
  books books := books.touch (AList.lookup_isSome.mp (by rw [found]; rfl)) source now
  halfOpens := touchSynSource_halfOpens found rfl now
  slots := rfl
  flows := rfl
  bytes := rfl

/-- The tail of the list leaves it, with its ledger entry. -/
theorem evict_step (last : engine.synSourceLru.getLast? = some key)
    (unused : engine.ledgerHalfOpen key = 0) :
    LedgerStep engine { engine with
      synSources := engine.synSources.erase key
      synSourceLru := engine.synSourceLru.dropLast } where
  books books := by
    obtain ⟨front, list⟩ := List.getLast?_eq_some_iff.mp last
    have unique := books.unique
    rw [list, List.nodup_append] at unique
    have listed := books.listed
    simp only [list, List.mem_append, List.mem_singleton] at listed
    refine ⟨?_, ?_, ?_, ?_⟩
    · simpa only [list, List.dropLast_concat] using unique.1
    · intro other
      simp only [list, List.dropLast_concat, AList.mem_erase, ← listed]
      constructor
      · intro member
        exact ⟨unique.2.2 other member key (List.mem_singleton_self key), .inl member⟩
      · rintro ⟨distinct, member | same⟩
        · exact member
        · exact absurd same distinct
    · intro other member
      exact books.addressed other (AList.mem_erase.mp member).2
    · simp only [AList.keys_erase]
      exact (List.length_erase_le ..).trans books.bounded
  halfOpens source := by
    simp only [ledgerHalfOpen, Table.weightAt]
    by_cases here : source = key
    · rw [here, AList.lookup_erase]
      exact unused.symm
    · rw [AList.lookup_erase_ne here]
  slots := rfl
  flows := rfl
  bytes := rfl

/-- A listed key without an entry, which sound books exclude, is only unlisted. -/
theorem unlist_step (last : engine.synSourceLru.getLast? = some key) (missing : engine.synSources.lookup key = none) :
    LedgerStep engine { engine with synSourceLru := engine.synSourceLru.dropLast } where
  books books := by
    have member := (books.listed key).mp (List.mem_of_getLast? last)
    exact absurd member (AList.lookup_eq_none.mp missing)
  halfOpens _ := rfl
  slots := rfl
  flows := rfl
  bytes := rfl

theorem prune_step (engine : Engine) (now budget : Nat) :
    LedgerStep engine (engine.pruneExpiredSynSources now budget) := by
  induction budget generalizing engine with
  | zero => exact .refl engine
  | succ budget ih =>
    simp only [pruneExpiredSynSources]
    split
    · exact .refl engine
    rename_i key last
    split
    · rename_i missing
      exact (unlist_step last missing).trans (ih _)
    rename_i source found
    split
    · exact .refl engine
    split
    · rename_i unused
      exact (evict_step last ((Table.weightAt_some found).trans unused)).trans (ih _)
    · exact (touchSynSource_step found now).trans (ih _)

/-- A source without slots enters at the front. -/
theorem create_step (missing : engine.synSources.lookup key = none) (addressed : key.remoteIpv4 ≠ 0)
    (room : engine.synSources.keys.length < engine.opts.synSourceLedgerCapacity) (source : SynSourceState)
    (unused : source.halfOpen = 0) :
    LedgerStep engine { engine with
      synSources := engine.synSources.insert key source
      synSourceLru := key :: engine.synSourceLru } where
  books books := by
    have absent : key ∉ engine.synSources := AList.lookup_eq_none.mp missing
    refine ⟨?_, ?_, ?_, ?_⟩
    · rw [List.nodup_cons, books.listed]
      exact ⟨absent, books.unique⟩
    · intro other
      simp only [List.mem_cons, AList.mem_insert, books.listed]
    · intro other member
      rcases (AList.mem_insert _).mp member with rfl | old
      · exact addressed
      · exact books.addressed other old
    · rw [Table.length_insert_new missing]
      exact room
  halfOpens other := by
    have inserted := ledgerHalfOpen_insert engine key source other
    simp only [ledgerHalfOpen] at inserted ⊢
    rw [inserted]
    split
    · rename_i here
      rw [here, Table.weightAt_none missing, unused]
    · rfl
  slots := rfl
  flows := rfl
  bytes := rfl

theorem lookupOrCreate_step (engine : Engine) (now : Nat) (addressed : key.remoteIpv4 ≠ 0) :
    LedgerStep engine (engine.lookupOrCreateSynSource key now).1 ∧
      ∀ source, (engine.lookupOrCreateSynSource key now).2 = .ok source →
        (engine.lookupOrCreateSynSource key now).1.synSources.lookup key = some source := by
  have pruned := engine.prune_step now synSourcePruneBudget
  simp only [lookupOrCreateSynSource]
  split
  · rename_i source found
    refine ⟨pruned.trans (touchSynSource_step found now), ?_⟩
    intro other same
    cases same
    exact AList.lookup_insert _
  · rename_i missing
    split
    · exact ⟨pruned, fun _ refused => nomatch refused⟩
    · rename_i room
      refine ⟨pruned.trans (create_step missing addressed (Nat.lt_of_not_le room) _ rfl), ?_⟩
      intro source same
      cases same
      exact AList.lookup_insert _

/-- Rewriting a bucket. -/
theorem bucket_step (found : engine.synSources.lookup key = some source) (bucket : TokenBucket) :
    LedgerStep engine { engine with synSources := engine.synSources.insert key { source with bucket } } where
  books books := books.rewrite (AList.lookup_isSome.mp (by rw [found]; rfl)) _
  halfOpens other := by
    rw [ledgerHalfOpen_insert]
    split
    · rename_i here
      rw [here, ledgerHalfOpen, Table.weightAt_some found]
    · rfl
  slots := rfl
  flows := rfl
  bytes := rfl

/-- Admission never takes a slot, and an admitted source is in the ledger. -/
theorem observeSyn_step (engine : Engine) (now : Nat) {flow : SessionKey} (addressed : flow.remoteIpv4 ≠ 0) :
    LedgerStep engine (engine.observeSyn flow now).1 ∧
      ∀ source, (engine.observeSyn flow now).2 = .ok source →
        source.remoteIpv4 ≠ 0 ∧ source ∈ (engine.observeSyn flow now).1.synSources := by
  simp only [observeSyn]
  split
  · exact ⟨⟨fun books => books.carry rfl rfl rfl, fun _ => rfl, rfl, rfl, rfl⟩,
      fun _ refused => nomatch refused⟩
  have looked := lookupOrCreate_step { engine with globalSyns :=
    { engine.globalSyns.refill now engine.opts.synRateInterval engine.opts.synBurst with
      tokens := (engine.globalSyns.refill now engine.opts.synRateInterval engine.opts.synBurst).tokens - 1 } } now
    (show (⟨flow.remoteIpv4, flow.underlayIndex⟩ : SynSourceKey).remoteIpv4 ≠ 0 from addressed)
  have spent (after : Engine) (step : LedgerStep { engine with globalSyns :=
    { engine.globalSyns.refill now engine.opts.synRateInterval engine.opts.synBurst with
      tokens := (engine.globalSyns.refill now engine.opts.synRateInterval engine.opts.synBurst).tokens - 1 } }
      after) : LedgerStep engine after :=
    ⟨fun books => step.books (books.carry rfl rfl rfl), step.halfOpens, step.slots, step.flows, step.bytes⟩
  split
  · rename_i result
    rw [result] at looked
    exact ⟨spent _ looked.1, fun _ refused => nomatch refused⟩
  · rename_i middle source result
    rw [result] at looked
    have found := looked.2 source rfl
    split
    · exact ⟨(spent _ looked.1).trans (bucket_step found _), fun _ refused => nomatch refused⟩
    · refine ⟨(spent _ looked.1).trans (bucket_step found _), ?_⟩
      intro key same
      cases same
      exact ⟨addressed, (AList.mem_insert _).mpr (.inl rfl)⟩

end Ledger

section Sessions
variable {engine after : Engine} {flow : SessionKey} {session next : Session}

theorem Books.found (books : engine.Books) (present : engine.sessions.lookup flow = some session) :
    (engine.setSession flow session).Books where
  ledger := books.ledger.carry rfl rfl rfl
  balanced item real := by
    rw [setSession, Table.total_reinsert present]
    exact books.balanced item real
  bounded := books.bounded
  queues other held found := by
    by_cases here : other = flow
    · subst here
      rw [setSession, AList.lookup_insert] at found
      cases found
      exact books.queues other session present
    · rw [setSession, AList.lookup_insert_ne here] at found
      exact books.queues other held found
  capacity := by
    rw [Table.length_keys, setSession, Table.total_reinsert present, ← Table.length_keys]
    exact books.capacity

/-- The session of one flow changes together with the counters. -/
structure Posts (engine : Engine) (session : Session) (after : Engine) (next : Session) : Prop where
  sessions : after.sessions = engine.sessions
  opts : after.opts = engine.opts
  posted : ∀ item : Item, item.Real →
    after.recorded item + session.amount item = engine.recorded item + next.amount item

section
variable (books : (engine.setSession flow session).Books)
include books

theorem Books.post (posts : Posts engine session after next) (ledger : after.LedgerBooks)
    (bounded : ∀ item : Item, after.recorded item ≤ after.opts.limit item)
    (bytes : next.pendingBytes = next.queuedBytes)
    (queue : next.pending.length ≤ after.opts.maxPendingPacketsPerFlow) :
    (after.setSession flow next).Books where
  ledger := ledger.carry rfl rfl rfl
  balanced item real := by
    have before := books.balanced item real
    have moved := posts.posted item real
    rw [setSession, Table.total_insert_erase] at before ⊢
    rw [posts.sessions]
    change engine.recorded item = _ at before
    change after.recorded item = _
    omega
  bounded := bounded
  queues other held found := by
    by_cases here : other = flow
    · subst here
      rw [setSession, AList.lookup_insert] at found
      cases found
      exact ⟨bytes, queue⟩
    · have same : (engine.setSession flow session).sessions.lookup other = some held := by
        rw [setSession, AList.lookup_insert_ne here, posts.sessions] at found
        rw [setSession, AList.lookup_insert_ne here, found]
      have kept := books.queues other held same
      rw [show (engine.setSession flow session).opts = after.opts from posts.opts.symm] at kept
      exact kept
  capacity := by
    have same : (after.setSession flow next).sessions.keys = (engine.setSession flow session).sessions.keys := by
      rw [setSession, setSession, AList.keys_insert, AList.keys_insert, posts.sessions]
    rw [same, show (after.setSession flow next).opts = (engine.setSession flow session).opts from posts.opts]
    exact books.capacity

theorem Books.here :
    session.pendingBytes = session.queuedBytes ∧ session.pending.length ≤ engine.opts.maxPendingPacketsPerFlow :=
  books.queues flow session (AList.lookup_insert _)

/-- One session is part of what is counted. -/
theorem Books.amount_le {item : Item} (real : item.Real) : (session.amount item : Int) ≤ engine.recorded item := by
  have balanced := books.balanced item real
  rw [setSession, Table.total_insert_erase] at balanced
  change engine.recorded item = _ at balanced
  omega

theorem Books.same (same : session.SameAccount next) : (engine.setSession flow next).Books := by
  have here := books.here
  refine books.post ⟨rfl, rfl, ?_⟩ (books.ledger.carry rfl rfl rfl) books.bounded ?_ ?_
  · intro item _
    cases item <;>
      simp only [Session.amount, Session.held, Session.heldFor, Session.queued, Session.queuedBytes, same.pending,
        same.halfOpenHeld, same.synSource]
  · rw [same.pendingBytes, Session.queuedBytes, same.pending]
    exact here.1
  · rw [same.pending]
    exact here.2

theorem Books.enqueue (queued : engine.enqueue session packet = some (after, next)) :
    (after.setSession flow next).Books := by
  have here := books.here
  have bounded := books.bounded
  simp only [Engine.enqueue] at queued
  split at queued
  · cases queued
  rename_i fits
  simp only [not_or, Nat.not_le, Int.not_lt] at fits
  split at queued
  · cases queued
  rename_i free
  cases queued
  refine books.post ⟨rfl, rfl, ?_⟩ ?_ ?_ ?_ ?_
  · intro item _
    cases item with
    | slots => rfl
    | sourceSlots source => rfl
    | flows =>
      by_cases empty : session.pending = [] <;>
        simp [recorded, Session.amount, Session.queued, empty]
    | bytes =>
      simp only [recorded, Session.amount, Session.queuedBytes, List.map_append, List.sum_append, List.map_cons,
        List.map_nil, List.sum_cons, List.sum_nil]
      omega
  · exact books.ledger.carry rfl rfl rfl
  · intro item
    cases item with
    | slots => exact bounded .slots
    | sourceSlots source => exact bounded (.sourceSlots source)
    | flows =>
      have before : engine.pendingFlows ≤ engine.opts.maxPendingFlows := bounded .flows
      simp only [recorded, Options.limit]
      split
      · rename_i empty
        simp only [empty, true_and, ge_iff_le, Int.not_le] at free
        omega
      · exact before
    | bytes => exact fits.2.2
  · simp only [Session.queuedBytes, List.map_append, List.sum_append, List.map_cons, List.map_nil, List.sum_cons,
      List.sum_nil, here.1]
    omega
  · simp only [List.length_append, List.length_cons, List.length_nil]
    omega

/-- Releasing a queue, and the counters of a removal. -/
theorem Books.release (target : SessionKey) :
    ((engine.release target session).1.setSession flow (engine.release target session).2.1).Books := by
  have here := books.here
  simp only [Engine.release]
  split
  · exact books
  rename_i nonempty
  have one : session.queued = 1 := if_neg nonempty
  have flowsLe := books.amount_le (show Item.flows.Real from trivial)
  have bytesLe := books.amount_le (show Item.bytes.Real from trivial)
  simp only [Session.amount, recorded, one, ← here.1] at flowsLe bytesLe
  refine books.post ⟨rfl, rfl, ?_⟩ ?_ ?_ rfl (Nat.zero_le _)
  · intro item _
    cases item with
    | slots => rfl
    | sourceSlots source => rfl
    | flows =>
      have none : ({ session with pending := [], pendingBytes := 0 } : Session).queued = 0 := rfl
      simp only [recorded, Session.amount, one, none]
      omega
    | bytes =>
      have none : ({ session with pending := [], pendingBytes := 0 } : Session).queuedBytes = 0 := rfl
      simp only [recorded, Session.amount, none, here.1]
      omega
  · exact books.ledger.carry rfl rfl rfl
  · intro item
    have bounded := books.bounded item
    cases item with
    | slots => exact bounded
    | sourceSlots source => exact bounded
    | flows =>
      change engine.pendingFlows ≤ engine.opts.maxPendingFlows at bounded
      simp only [recorded, Options.limit]
      omega
    | bytes =>
      change engine.pendingBytes ≤ engine.opts.maxPendingBytes at bounded
      simp only [recorded, Options.limit]
      omega

/-- A session without slot and queue leaves no trace in the counters. -/
theorem Books.erase (unheld : session.halfOpenHeld = false) (empty : session.pending = []) :
    Books { engine with sessions := engine.sessions.erase flow } where
  ledger := books.ledger.carry rfl rfl rfl
  balanced item real := by
    have balanced := books.balanced item real
    have nothing : session.amount item = 0 := by
      cases item <;> simp [Session.amount, Session.held, Session.heldFor, Session.queued, Session.queuedBytes, unheld,
        empty]
    rw [setSession, Table.total_insert_erase, nothing, Nat.zero_add] at balanced
    exact balanced
  bounded := books.bounded
  queues other held found := by
    by_cases here : other = flow
    · rw [here, AList.lookup_erase] at found
      cases found
    · rw [AList.lookup_erase_ne here] at found
      apply books.queues other held
      rw [setSession, AList.lookup_insert_ne here, found]
  capacity := by
    have capacity := books.capacity
    rw [setSession, AList.keys_insert, List.length_cons] at capacity
    rw [AList.keys_erase]
    exact (Nat.le_succ _).trans capacity

/-- Where a session holds its slot. -/
theorem Books.sourced (held : session.halfOpenHeld = true) (inbound : session.synSource.remoteIpv4 ≠ 0) :
    ∃ source, engine.synSources.lookup session.synSource = some source ∧ 0 < source.halfOpen := by
  have counted := books.amount_le (show (Item.sourceSlots session.synSource).Real from inbound)
  have one : session.heldFor session.synSource = 1 := if_pos ⟨held, rfl⟩
  simp only [Session.amount, one, recorded, ledgerHalfOpen] at counted
  cases found : engine.synSources.lookup session.synSource with
  | none =>
    rw [Table.weightAt_none found] at counted
    omega
  | some source =>
    rw [Table.weightAt_some found] at counted
    exact ⟨source, rfl, by omega⟩

end

/-- What giving a slot back does to the ledger. -/
structure GivesBack (engine : Engine) (session : Session) (after : Engine) : Prop where
  ledger : after.LedgerBooks
  kept : ∀ source ∈ engine.synSources, source ∈ after.synSources
  fewer : ∀ source, after.ledgerHalfOpen source ≤ engine.ledgerHalfOpen source
  exact : ∀ source, source.remoteIpv4 ≠ 0 →
    after.ledgerHalfOpen source + session.heldFor source = engine.ledgerHalfOpen source

theorem Books.givesBack (books : (engine.setSession flow session).Books) (held : session.halfOpenHeld = true)
    (releasedAt : Nat) : GivesBack engine session (engine.releaseHalfOpen session releasedAt) := by
  have ledger : engine.LedgerBooks := books.ledger.carry rfl rfl rfl
  simp only [Engine.releaseHalfOpen, held, Bool.true_eq_false, if_false]
  split
  · rename_i outbound
    refine ⟨ledger.carry rfl rfl rfl, fun _ member => member, fun _ => Nat.le_refl _, ?_⟩
    intro source real
    have elsewhere : session.heldFor source = 0 := if_neg fun ⟨_, same⟩ => real (same ▸ outbound)
    rw [elsewhere]
    rfl
  · rename_i inbound
    obtain ⟨source, found, positive⟩ := books.sourced held inbound
    have present : session.synSource ∈ engine.synSources := AList.lookup_isSome.mp (by rw [found]; rfl)
    have balance (other : SynSourceKey) : (engine.touchSynSource session.synSource
        { source with halfOpen := source.halfOpen - 1 } releasedAt).ledgerHalfOpen other + session.heldFor other =
        engine.ledgerHalfOpen other := by
      rw [ledgerHalfOpen_touch]
      by_cases same : other = session.synSource
      · have mine : session.heldFor other = 1 := if_pos ⟨held, same.symm⟩
        rw [if_pos same, mine, same, ledgerHalfOpen, Table.weightAt_some found]
        exact Nat.sub_add_cancel positive
      · have notMine : session.heldFor other = 0 := if_neg fun ⟨_, equal⟩ => same equal.symm
        rw [if_neg same, notMine, Nat.add_zero]
    rw [found]
    refine ⟨?_, ?_, ?_, fun other _ => balance other⟩
    · have carried : LedgerBooks { engine with halfOpen := engine.halfOpen - 1 } := ledger.carry rfl rfl rfl
      exact carried.touch present _ releasedAt
    · intro other member
      exact (AList.mem_insert _).mpr (.inr member)
    · intro other
      have balanced := balance other
      exact Nat.le_of_add_right_le (Nat.le_of_eq balanced)

theorem releaseHalfOpen_counters (engine : Engine) (held : session.halfOpenHeld = true) (releasedAt : Nat) :
    (engine.releaseHalfOpen session releasedAt).halfOpen = engine.halfOpen - 1 ∧
      (engine.releaseHalfOpen session releasedAt).pendingFlows = engine.pendingFlows ∧
      (engine.releaseHalfOpen session releasedAt).pendingBytes = engine.pendingBytes := by
  simp only [Engine.releaseHalfOpen, held, Bool.true_eq_false, if_false]
  split
  · exact ⟨rfl, rfl, rfl⟩
  · split <;> exact ⟨rfl, rfl, rfl⟩

theorem Books.releaseHalfOpen (books : (engine.setSession flow session).Books) (releasedAt : Nat) :
    ((engine.releaseHalfOpen session releasedAt).setSession flow { session with halfOpenHeld := false }).Books := by
  have here := books.here
  have same := engine.releaseHalfOpen_same session releasedAt
  by_cases held : session.halfOpenHeld = true
  · have slot := books.amount_le (show Item.slots.Real from trivial)
    have one : session.held = 1 := if_pos held
    have none : ({ session with halfOpenHeld := false } : Session).held = 0 := rfl
    simp only [Session.amount, one, recorded] at slot
    have back := books.givesBack held releasedAt
    obtain ⟨fewer, flows, bytes⟩ := releaseHalfOpen_counters engine held releasedAt
    refine books.post ⟨same.sessions, same.opts, ?_⟩ back.ledger ?_ here.1 ?_
    · intro item real
      cases item with
      | slots =>
        simp only [recorded, fewer, Session.amount, one, none]
        omega
      | sourceSlots source =>
        have gone : ({ session with halfOpenHeld := false } : Session).heldFor source = 0 := by
          simp [Session.heldFor]
        have exact := back.exact source real
        simp only [recorded, Session.amount, gone]
        omega
      | flows =>
        simp only [recorded, flows]
        rfl
      | bytes =>
        simp only [recorded, bytes]
        rfl
    · intro item
      have before := books.bounded item
      rw [same.opts]
      cases item with
      | slots =>
        simp only [recorded, fewer, setSession] at before ⊢
        omega
      | sourceSlots source =>
        have smaller := back.fewer source
        simp only [recorded] at before ⊢
        exact (Int.ofNat_le.mpr smaller).trans before
      | flows =>
        simp only [recorded, flows]
        exact before
      | bytes =>
        simp only [recorded, bytes]
        exact before
    · rw [same.opts]
      exact here.2
  · have unheld : session.halfOpenHeld = false := Bool.eq_false_of_not_eq_true held
    have unchanged : engine.releaseHalfOpen session releasedAt = engine := if_pos unheld
    rw [unchanged]
    exact books.same ⟨rfl, rfl, unheld.symm, rfl⟩

theorem Books.remove (books : (engine.setSession flow session).Books) (turn : Turn) :
    (engine.remove turn flow session).Books := by
  have released := (books.releaseHalfOpen (turn.releasedAt flow)).release flow
  have empty : ((engine.releaseHalfOpen session (turn.releasedAt flow)).release flow
      { session with halfOpenHeld := false }).2.1.pending = [] := by
    simp only [Engine.release]
    split
    · assumption
    · rfl
  have unheld : ((engine.releaseHalfOpen session (turn.releasedAt flow)).release flow
      { session with halfOpenHeld := false }).2.1.halfOpenHeld = false := by
    simp only [Engine.release]
    split <;> rfl
  have erased := released.erase unheld empty
  have removed : engine.remove turn flow session =
      { ((engine.releaseHalfOpen session (turn.releasedAt flow)).release flow
        { session with halfOpenHeld := false }).1 with
        sessions := ((engine.releaseHalfOpen session (turn.releasedAt flow)).release flow
          { session with halfOpenHeld := false }).1.sessions.erase flow } := by
    simp only [Engine.remove, Engine.release]
    split <;> rfl
  rw [removed]
  exact erased

/-- A flow without a session gets one, with its slots taken. -/
theorem Books.opened (books : engine.Books) (missing : engine.sessions.lookup flow = none)
    (room : engine.sessions.keys.length < engine.opts.sessionCapacity) (opens : Opens next)
    (sessions : after.sessions = engine.sessions) (opts : after.opts = engine.opts) (ledger : after.LedgerBooks)
    (posted : ∀ item : Item, item.Real → after.recorded item = engine.recorded item + next.amount item)
    (bounded : ∀ item : Item, after.recorded item ≤ engine.opts.limit item) :
    (after.setSession flow next).Books where
  ledger := ledger.carry rfl rfl rfl
  balanced item real := by
    have before := books.balanced item real
    have moved := posted item real
    have inserted := Table.total_insert (Session.amount item) engine.sessions flow next
    rw [Table.weightAt_none missing] at inserted
    change after.recorded item = (Table.total (Session.amount item) (after.sessions.insert flow next) : Int)
    rw [sessions]
    omega
  bounded item := by
    rw [show (after.setSession flow next).opts = engine.opts from opts]
    exact bounded item
  queues other held found := by
    rw [show (after.setSession flow next).opts = engine.opts from opts]
    by_cases here : other = flow
    · subst here
      rw [setSession, AList.lookup_insert] at found
      cases found
      rw [opens.bytes, Session.queuedBytes, opens.empty]
      exact ⟨rfl, Nat.zero_le _⟩
    · rw [setSession, AList.lookup_insert_ne here, sessions] at found
      exact books.queues other held found
  capacity := by
    rw [show (after.setSession flow next).opts = engine.opts from opts, setSession, sessions,
      Table.length_insert_new missing]
    exact room

theorem Opens.amount (opens : Opens next) : next.held = 1 ∧ next.queued = 0 ∧ next.queuedBytes = 0 :=
  ⟨if_pos opens.held, if_pos opens.empty, by rw [Session.queuedBytes, opens.empty]; rfl⟩

/-- The slot of an outbound session, which no source is charged for. -/
theorem Books.openOutbound (books : engine.Books) (missing : engine.sessions.lookup flow = none)
    (room : engine.sessions.keys.length < engine.opts.sessionCapacity)
    (slot : engine.halfOpen < engine.opts.maxHalfOpenSessions) (opens : Opens next)
    (unsourced : next.synSource.remoteIpv4 = 0) :
    ({ engine with halfOpen := engine.halfOpen + 1 }.setSession flow next).Books := by
  obtain ⟨held, queued, bytes⟩ := opens.amount
  refine books.opened missing room opens rfl rfl (books.ledger.carry rfl rfl rfl) ?_ ?_
  · intro item real
    cases item with
    | slots =>
      simp only [recorded, Session.amount, held]
      rfl
    | sourceSlots source =>
      have elsewhere : next.heldFor source = 0 := if_neg fun ⟨_, same⟩ => real (same ▸ unsourced)
      simp only [Session.amount, elsewhere]
      rfl
    | flows =>
      simp only [Session.amount, queued]
      exact (Int.add_zero _).symm
    | bytes =>
      simp only [Session.amount, bytes]
      exact (Int.add_zero _).symm
  · intro item
    cases item with
    | slots => exact Int.ofNat_le.mpr slot
    | sourceSlots source => exact books.bounded (.sourceSlots source)
    | flows => exact books.bounded .flows
    | bytes => exact books.bounded .bytes

/-- The slot of an inbound session, charged to the source of its SYN. -/
theorem Books.openInbound (books : engine.Books) (missing : engine.sessions.lookup flow = none)
    (room : engine.sessions.keys.length < engine.opts.sessionCapacity)
    (reserved : engine.reserveInboundHalfOpen key = .ok after) (opens : Opens next)
    (sourced : next.synSource = key) : (after.setSession flow next).Books := by
  obtain ⟨held, queued, bytes⟩ := opens.amount
  rw [reserveInboundHalfOpen] at reserved
  split at reserved
  · cases reserved
  rename_i slot
  split at reserved
  · cases reserved
  rename_i source found
  split at reserved
  · cases reserved
  rename_i share
  cases reserved
  have present : key ∈ engine.synSources := AList.lookup_isSome.mp (by rw [found]; rfl)
  have slotsOf (other : SynSourceKey) : ledgerHalfOpen { engine with
      synSources := engine.synSources.insert key { source with halfOpen := source.halfOpen + 1 }
      halfOpen := engine.halfOpen + 1 } other =
      if other = key then source.halfOpen + 1 else engine.ledgerHalfOpen other :=
    ledgerHalfOpen_insert engine key { source with halfOpen := source.halfOpen + 1 } other
  have before : engine.ledgerHalfOpen key = source.halfOpen := Table.weightAt_some found
  refine books.opened missing room opens rfl rfl ?_ ?_ ?_
  · have rewritten := books.ledger.rewrite present { source with halfOpen := source.halfOpen + 1 }
    exact rewritten.carry rfl rfl rfl
  · intro item real
    cases item with
    | slots =>
      simp only [recorded, Session.amount, held]
      rfl
    | sourceSlots other =>
      simp only [recorded, Session.amount, slotsOf]
      by_cases same : other = key
      · have mine : next.heldFor other = 1 := if_pos ⟨opens.held, sourced.trans same.symm⟩
        rw [if_pos same, mine, same, before]
        omega
      · have notMine : next.heldFor other = 0 := if_neg fun ⟨_, equal⟩ => same (equal.symm.trans sourced)
        rw [if_neg same, notMine]
        omega
    | flows =>
      simp only [Session.amount, queued]
      exact (Int.add_zero _).symm
    | bytes =>
      simp only [Session.amount, bytes]
      exact (Int.add_zero _).symm
  · intro item
    cases item with
    | slots => exact Int.ofNat_le.mpr (Nat.lt_of_not_le slot)
    | sourceSlots other =>
      have limit : engine.ledgerHalfOpen other ≤ engine.opts.maxHalfOpenPerSource :=
        Int.ofNat_le.mp (books.bounded (.sourceSlots other))
      simp only [recorded, slotsOf, Options.limit]
      split <;> omega
    | flows => exact books.bounded .flows
    | bytes => exact books.bounded .bytes

/-- Ledger maintenance leaves the counts alone. -/
theorem Books.observed (books : engine.Books) (same : SameSessions engine after) (step : LedgerStep engine after) :
    after.Books := by
  have counters (item : Item) : after.recorded item = engine.recorded item := by
    cases item with
    | slots => simp only [recorded, step.slots]
    | sourceSlots source => simp only [recorded, step.halfOpens]
    | flows => simp only [recorded, step.flows]
    | bytes => simp only [recorded, step.bytes]
  refine ⟨step.books books.ledger, ?_, ?_, ?_, ?_⟩
  · intro item real
    rw [counters, same.sessions]
    exact books.balanced item real
  · intro item
    rw [counters, same.opts]
    exact books.bounded item
  · rw [same.sessions, same.opts]
    exact books.queues
  · rw [same.sessions, same.opts]
    exact books.capacity

end Sessions
end Engine
end WgMix.FakeTcp
