import WgMix.FakeTcp.CompareClaim

/-! Every interleaving of engine calls with packet programs keeps each retained
deletion tracked; exactness of compare-claim deletion follows. -/
namespace WgMix.FakeTcp
open Bpf Runs SessionLedger

namespace StoreWorld

/-- What every step keeps. -/
structure Sound (world : StoreWorld) : Prop where
  permitted : Permitted StoreEvent.Allowed world.ledger.history
  only : ∀ flow, OnlyEstablished (world.engine.sessions.lookup flow)
  tracked : ∀ flow session request, world.engine.sessions.lookup flow = some session →
    session.pendingDelete = some request →
    ∃ since, Tracked world.generation world.ledger flow request.expected since

section Steps
variable {world : StoreWorld} {flow : SessionKey} {ledger : SessionLedger} {outcome : Outcome} {turn : Turn}
  {use : StoreUse}

/-- A call keeps the world sound when the ledger follows every other flow and
whatever request the call leaves at its own. -/
theorem finish_sound (sound : world.Sound) (answered : world.engine.Answered turn flow use outcome.engine)
    (permitted : Permitted StoreEvent.Allowed ledger.history)
    (others : ∀ other expected since, other ≠ flow → Tracked world.generation world.ledger other expected since →
      ∃ since, Tracked world.generation ledger other expected since)
    (here : ∀ session request, outcome.engine.sessions.lookup flow = some session →
      session.pendingDelete = some request → session.state = .established ∧
        ∃ since, Tracked world.generation ledger flow request.expected since) :
    (world.finish ledger outcome).Sound where
  permitted := permitted
  only := by
    intro other session request found retained
    by_cases same : other = flow
    · subst same
      exact (here session request found retained).1
    · have before := (answered.frame other same).symm.trans found
      exact sound.only other session request before retained
  tracked := by
    intro other session request found retained
    by_cases same : other = flow
    · subst same
      exact (here session request found retained).2
    · have before := (answered.frame other same).symm.trans found
      obtain ⟨since, tracked⟩ := sound.tracked other session request before retained
      exact others other request.expected since same tracked

theorem reached_tracked (script : StoreScript) (tracked : Tracked world.generation world.ledger flow expected since) :
    ∃ since, Tracked world.generation (world.reached script) flow expected since :=
  tracked.writes script.beforeAccess

/-- A call that leaves its flow without a retained request. -/
theorem unpending_here {generation : UInt64} (free : Unpending (outcome.engine.sessions.lookup flow)) :
    ∀ session request, outcome.engine.sessions.lookup flow = some session →
      session.pendingDelete = some request → session.state = .established ∧
        ∃ since, Tracked generation ledger flow request.expected since := by
  intro session request found retained
  rw [free session found] at retained
  cases retained

theorem looked_other (script : StoreScript) {other : SessionKey} (distinct : other ≠ flow)
    (tracked : Tracked world.generation world.ledger other expected since) :
    ∃ since, Tracked world.generation (world.looked flow script) other expected since := by
  obtain ⟨now, reached⟩ := reached_tracked script tracked
  unfold looked
  split
  · exact ⟨now, reached.other rfl (Ne.symm distinct) rfl⟩
  · exact ⟨now, reached⟩

theorem looked_permitted (sound : world.Sound) (flow : SessionKey) (script : StoreScript) :
    Permitted StoreEvent.Allowed (world.looked flow script).history := by
  have reached := permitted_writes sound.permitted script.beforeAccess
  unfold looked
  split
  · exact reached.snoc trivial
  · exact reached

/-- A value that was just looked up is tracked. -/
theorem looked_tracked {script : StoreScript} (found : (world.reached script).lookupEstablished world.generation
    flow script = some (some value)) : Tracked world.generation (world.looked flow script) flow value [] := by
  have ledger : world.looked flow script = (world.reached script).note (.looked flow value) := by
    simp only [looked, found]
  rw [ledger]
  obtain ⟨bound, here, valid⟩ := lookup_found found
  exact ⟨bound, valid, (snapshotOf_snoc ..).trans (if_pos rfl), here ▸ .fresh rfl⟩

/-- The engine after a deletion, by the store's answer. -/
theorem delete_answered (call : EngineCall) (script : StoreScript) (request : PendingDelete)
    (ledger : SessionLedger) (only : OnlyEstablished (world.engine.sessions.lookup call.flow))
    (made : call.use world.engine (world.asking turn script) = .deletes request ∨
      call.use world.engine (world.asking turn script) = .retries request) :
    world.engine.Answered ((world.asking turn script).deleting fun key expected =>
        (ledger.deleteEstablishedIfUnchanged world.generation key expected script).2) call.flow
      (.retries request) (world.delete turn call script ledger request).engine := by
  have answered := call.answered world.engine ((world.asking turn script).deleting fun key expected =>
    (ledger.deleteEstablishedIfUnchanged world.generation key expected script).2) only
  rw [call.use_deleting] at answered
  rcases made with made | made
  · rw [made] at answered
    exact ⟨answered.frame, answered.here⟩
  · rw [made] at answered
    exact answered

/-- A deletion on a tracked value leaves a request only while it stays tracked. -/
theorem delete_sound (sound : world.Sound) (nonzero : world.generation ≠ 0) (call : EngineCall)
    (script : StoreScript) (request : PendingDelete)
    (made : call.use world.engine (world.asking turn script) = .deletes request ∨
      call.use world.engine (world.asking turn script) = .retries request)
    (permitted : Permitted StoreEvent.Allowed ledger.history)
    (tracked : Tracked world.generation ledger call.flow request.expected since)
    (others : ∀ other expected since, other ≠ call.flow →
      Tracked world.generation world.ledger other expected since →
      ∃ since, Tracked world.generation ledger other expected since) :
    (world.delete turn call script ledger request).Sound := by
  have answered := delete_answered call script request ledger (sound.only call.flow) made
  obtain ⟨follows, kept⟩ := delete_tracked nonzero tracked permitted script
  refine finish_sound sound answered kept ?_ ?_
  · intro other expected since distinct before
    obtain ⟨now, kept⟩ := others other expected since distinct before
    exact delete_other kept (Ne.symm distinct) request.expected script
  · intro session retained found pending
    have here : DeleteAnswered request _
      (ledger.deleteEstablishedIfUnchanged world.generation call.flow request.expected script).2 := answered.here
    rw [show (world.delete turn call script ledger request).engine.sessions.lookup call.flow = some session
      from found] at here
    cases answer : (ledger.deleteEstablishedIfUnchanged world.generation call.flow request.expected script).2 with
    | none =>
      rw [answer] at here
      obtain ⟨_, ⟨⟩, established, same⟩ := here
      cases pending.symm.trans same
      exact ⟨established, follows⟩
    | some result =>
      rw [answer] at here
      cases result with
      | different =>
        obtain ⟨_, ⟨⟩, cleared⟩ := here
        cases pending.symm.trans cleared
      | absent | removed => cases here

theorem insert_other {generation : UInt64} {other : SessionKey}
    (tracked : Tracked generation ledger other expected since) (distinct : other ≠ flow) (value : SessionValue)
    (script : StoreScript) :
    Tracked generation (ledger.insertEstablished generation flow value script).1 other expected since := by
  unfold insertEstablished
  split
  · exact tracked
  · exact tracked.other rfl (Ne.symm distinct) (Function.update_of_ne distinct ..)

theorem insert_permitted {generation : UInt64} (permitted : Permitted StoreEvent.Allowed ledger.history)
    (flow : SessionKey) (value : SessionValue) (script : StoreScript) :
    Permitted StoreEvent.Allowed (ledger.insertEstablished generation flow value script).1.history := by
  unfold insertEstablished
  split
  · exact permitted
  · exact permitted.snoc trivial

theorem act_sound (sound : world.Sound) (nonzero : world.generation ≠ 0) (turn : Turn) (call : EngineCall)
    (script : StoreScript) : (world.act turn call script).Sound := by
  have reached := permitted_writes sound.permitted script.beforeAccess
  have answered := call.answered world.engine (world.asking turn script) (sound.only call.flow)
  have origin := call.use_origin world.engine (world.asking turn script)
  unfold act
  dsimp only
  cases made : call.use world.engine (world.asking turn script) with
  | idle =>
    rw [made] at answered
    refine finish_sound sound answered reached ?_ ?_
    · intro other expected since _ tracked
      exact reached_tracked script tracked
    · intro session request found retained
      rcases answered.here with same | free
      · rw [same] at found
        obtain ⟨since, tracked⟩ := sound.tracked call.flow session request found retained
        exact ⟨sound.only call.flow session request found retained, reached_tracked script tracked⟩
      · exact unpending_here free session request found retained
  | looks =>
    rw [made] at answered
    refine finish_sound sound answered (looked_permitted sound call.flow script) ?_ (unpending_here answered.here)
    intro other expected since distinct tracked
    exact looked_other script distinct tracked
  | deletes request =>
    rw [made] at origin
    cases origin with
    | plain deleting => cases deleting
    | looked found =>
      refine delete_sound sound nonzero call script request (.inl made) (looked_permitted sound call.flow script)
        (looked_tracked found) ?_
      intro other expected since distinct tracked
      exact looked_other script distinct tracked
  | retries request =>
    rw [made] at origin
    cases origin with
    | plain retrying => cases retrying
    | retained found retained =>
      obtain ⟨since, tracked⟩ := sound.tracked _ _ _ found retained
      obtain ⟨now, current⟩ := reached_tracked script tracked
      refine delete_sound sound nonzero call script request (.inr made) reached current ?_
      intro other expected since _ before
      exact reached_tracked script before
  | inserts value =>
    have inserting := call.answered world.engine ((world.asking turn script).inserting fun key value =>
      ((world.reached script).insertEstablished world.generation key value script).2) (sound.only call.flow)
    rw [call.use_inserting, made] at inserting
    refine finish_sound sound inserting (insert_permitted reached call.flow value script) ?_
      (unpending_here inserting.here)
    intro other expected since distinct tracked
    obtain ⟨now, current⟩ := reached_tracked script tracked
    exact ⟨now, insert_other current distinct value script⟩

theorem step_sound (sound : world.Sound) (nonzero : world.generation ≠ 0) (input : StoreInput) :
    (world.step input).Sound := by
  cases input with
  | packet write =>
    refine ⟨permitted_writes sound.permitted [write], sound.only, ?_⟩
    intro flow session request found retained
    obtain ⟨since, tracked⟩ := sound.tracked flow session request found retained
    exact tracked.write write
  | call turn call script => exact act_sound sound nonzero turn call script

theorem step_generation (world : StoreWorld) (input : StoreInput) :
    (world.step input).generation = world.generation := by
  cases input with
  | packet write => rfl
  | call turn call script =>
    simp only [step, act]
    split <;> rfl

theorem looked_sessions (world : StoreWorld) (flow : SessionKey) (script : StoreScript) :
    (world.looked flow script).sessions = (world.reached script).sessions := by
  rw [looked]
  split <;> rfl

/-- A call does to the entries of other flows what the packets do meanwhile. -/
theorem act_frame (world : StoreWorld) (turn : Turn) (call : EngineCall) (script : StoreScript)
    (distinct : other ≠ call.flow) : ∃ packets,
      (world.act turn call script).ledger.sessions other = (world.ledger.writes packets).sessions other := by
  have looked := congrFun (world.looked_sessions call.flow script) other
  have deleted (ledger : SessionLedger) (expected : SessionValue)
      (same : ledger.sessions other = (world.reached script).sessions other) :
      ∃ packets, (ledger.deleteEstablishedIfUnchanged world.generation call.flow expected script).1.sessions other =
        (world.ledger.writes packets).sessions other := by
    obtain ⟨packets, written⟩ := ledger.delete_frame world.generation expected script distinct
    refine ⟨script.beforeAccess ++ packets, ?_⟩
    rw [written, writes_pointwise same packets, reached, writes_append]
  simp only [act]
  split
  · exact ⟨script.beforeAccess, rfl⟩
  · exact ⟨script.beforeAccess, looked⟩
  · exact deleted _ _ looked
  · exact deleted _ _ rfl
  · refine ⟨script.beforeAccess, ?_⟩
    simp only [insert, finish, insertEstablished]
    split
    · rfl
    · exact Function.update_of_ne distinct ..

/-- A step changes the map as packet programs and deletions do, or it inserts
where nothing was. -/
inductive Advances (before after : SessionLedger) : Prop where
  | evolves : Evolves before after → Advances before after
  | inserts (key : SessionKey) (value : SessionValue) (packets : List PacketWrite) :
      (before.writes packets).sessions key = none →
      after = ⟨Function.update (before.writes packets).sessions key (some value),
        (before.writes packets).history ++ [.inserted key value]⟩ → Advances before after

theorem step_advances (world : StoreWorld) (input : StoreInput) :
    Advances world.ledger (world.step input).ledger := by
  cases input with
  | packet write => exact .evolves (world.ledger.evolves_write write)
  | call turn call script =>
    have reached := world.ledger.evolves_writes script.beforeAccess
    have looked : Evolves world.ledger (world.looked call.flow script) := by
      unfold looked
      split
      · exact reached.trans (evolves_note ..)
      · exact reached
    simp only [step, act]
    split
    · exact .evolves reached
    · exact .evolves looked
    · exact .evolves (looked.trans (evolves_delete ..))
    · exact .evolves (reached.trans (evolves_delete ..))
    · rename_i value made
      simp only [insert, finish, insertEstablished]
      split
      · exact .evolves reached
      · rename_i accepted
        simp only [not_or, Bool.not_eq_true, Option.isSome_eq_false_iff, Option.isNone_iff_eq_none] at accepted
        exact .inserts call.flow value script.beforeAccess accepted.2.2.2.1 rfl

theorem Advances.logged {before after : SessionLedger} (advances : Advances before after) (key : SessionKey)
    (present : before.sessions key ≠ none) (absent : after.sessions key = none) :
    ∃ new expected, after.history = before.history ++ new ∧ .removed key expected ∈ new := by
  cases advances with
  | evolves evolves =>
    obtain ⟨new, history, removed⟩ := evolves.logged
    obtain ⟨expected, member⟩ := removed key present absent
    exact ⟨new, expected, history, member⟩
  | inserts written value packets vacant inserted =>
    subst inserted
    obtain ⟨new, history, removed⟩ := (before.evolves_writes packets).logged
    have distinct : key ≠ written := by
      rintro rfl
      cases (Function.update_self ..).symm.trans absent
    obtain ⟨expected, member⟩ := removed key present ((Function.update_of_ne distinct ..).symm.trans absent)
    refine ⟨new ++ [.inserted written value], expected, ?_, List.mem_append_left _ member⟩
    dsimp only
    rw [history, List.append_assoc]

theorem writes_fenced {ledger : SessionLedger} (found : ledger.sessions key = some value)
    (tombstone : value.state = .deleteClaimed) (packets : List PacketWrite) :
    (ledger.writes packets).sessions key = some value := by
  induction packets generalizing ledger with
  | nil => exact found
  | cons packet rest ih =>
    apply ih
    rcases ledger.write_cases packet with same | ⟨held, moved, here, established, _, _, written⟩
    · rw [same]
      exact found
    · have distinct : key ≠ packet.key := by
        rintro rfl
        rw [found] at here
        cases here
        rw [established] at tombstone
        cases tombstone
      rw [written]
      exact (Function.update_of_ne distinct ..).trans found

/-- A tombstone stays as it is until it is removed. -/
theorem Advances.fenced {before after : SessionLedger} (advances : Advances before after)
    (found : before.sessions key = some value) (tombstone : value.state = .deleteClaimed) :
    after.sessions key = some value ∨ after.sessions key = none := by
  cases advances with
  | evolves evolves => exact evolves.fenced key value found tombstone
  | inserts written fresh packets vacant inserted =>
    subst inserted
    have kept := writes_fenced found tombstone packets
    have distinct : key ≠ written := by
      rintro rfl
      rw [kept] at vacant
      cases vacant
    exact .inl ((Function.update_of_ne distinct ..).trans kept)

/-- A retry that meets no failure ends the deletion its request stands for. -/
theorem retry_settles (sound : world.Sound) (nonzero : world.generation ≠ 0) {call : EngineCall}
    {script : StoreScript} {request : PendingDelete} (calm : script.Calm)
    (retrying : call.use world.engine (world.asking turn script) = .retries request)
    (current : snapshotOf call.flow (world.ledger.writes (script.beforeAccess ++ script.beforeClaim)).history =
      some (request.expected, since)) :
    (.claimed call.flow request.expected ∈ since →
      (world.act turn call script).ledger.sessions call.flow = none ∧
        (world.act turn call script).engine.sessions.lookup call.flow = none) ∧
    (.claimed call.flow request.expected ∉ since → .mutated call.flow ∈ since →
      (world.act turn call script).ledger =
          world.ledger.writes (script.beforeAccess ++ script.beforeClaim) ∧
        ∃ session, (world.act turn call script).engine.sessions.lookup call.flow = some session ∧
          session.pendingDelete = none) := by
  have origin := call.use_origin world.engine (world.asking turn script)
  rw [retrying] at origin
  cases origin with
  | plain plain => cases plain
  | retained found retained =>
    obtain ⟨_, tracked⟩ := sound.tracked _ _ _ found retained
    obtain ⟨early, reached⟩ := reached_tracked script tracked
    obtain ⟨late, claiming⟩ := reached.writes script.beforeClaim
    rw [← writes_append] at current ⊢
    cases claiming.snapshot.symm.trans current
    have answered := delete_answered call script request (world.reached script) (sound.only call.flow)
      (.inr retrying)
    have act : world.act turn call script = world.delete turn call script (world.reached script) request := by
      simp only [act, retrying]
    rw [act]
    have here : DeleteAnswered request _ ((world.reached script).deleteEstablishedIfUnchanged world.generation
      call.flow request.expected script).2 := answered.here
    constructor
    · intro took
      obtain ⟨gone, answer⟩ := calm_claimed nonzero calm reached claiming took
      refine ⟨gone, ?_⟩
      rcases answer with answer | answer
      · rw [answer] at here
        exact here
      · rw [answer] at here
        exact here
    · intro untaken advanced
      have answer := calm_moved nonzero calm reached claiming advanced untaken
      rw [answer] at here
      exact ⟨congrArg Prod.fst answer, here⟩

/-- What the deletion protocol guarantees in a reachable world. -/
structure Exact (world : StoreWorld) : Prop where
  /-- An entry goes only on a snapshot that a claim found unchanged, and only
  such claims happened to the entry since. -/
  removal : Permitted StoreEvent.Allowed world.ledger.history
  logged : ∀ input key, world.ledger.sessions key ≠ none → (world.step input).ledger.sessions key = none →
    ∃ new expected, (world.step input).ledger.history = world.ledger.history ++ new ∧
      .removed key expected ∈ new
  matched : ∀ key expected, (world.ledger.claim key expected).2 = .claimed →
    world.ledger.sessions key = some expected ∨ world.ledger.sessions key = some expected.claimed
  fenced : ∀ key value, world.ledger.sessions key = some value → value.state = .deleteClaimed →
    value.Fenced ∧ ∀ input, (world.step input).ledger.sessions key = some value ∨
      (world.step input).ledger.sessions key = none
  /-- A retained request names the flow's last snapshot and is tried again by
  every tick; a retry without failures finishes a claim that took effect and
  gives up an entry that was advanced instead. -/
  retry : ∀ flow session request, world.engine.sessions.lookup flow = some session →
    session.pendingDelete = some request →
    (∃ since, snapshotOf flow world.ledger.history = some (request.expected, since)) ∧
    (∀ turn nowMonotonic, (EngineCall.tick flow nowMonotonic).use world.engine turn = .retries request) ∧
    ∀ turn call script since, call.flow = flow →
      call.use world.engine (world.asking turn script) = .retries request → script.Calm →
      snapshotOf flow (world.ledger.writes (script.beforeAccess ++ script.beforeClaim)).history =
        some (request.expected, since) →
      (.claimed flow request.expected ∈ since →
        (world.step (.call turn call script)).ledger.sessions flow = none ∧
          (world.step (.call turn call script)).engine.sessions.lookup flow = none) ∧
      (.claimed flow request.expected ∉ since → .mutated flow ∈ since →
        (world.step (.call turn call script)).ledger =
            world.ledger.writes (script.beforeAccess ++ script.beforeClaim) ∧
          ∃ session, (world.step (.call turn call script)).engine.sessions.lookup flow = some session ∧
            session.pendingDelete = none)

theorem exact_of_sound (sound : world.Sound) (nonzero : world.generation ≠ 0) : world.Exact where
  removal := sound.permitted
  logged := fun input key => (step_advances world input).logged key
  matched := by
    intro key expected claimed
    cases answered : world.ledger.claim key expected with
    | mk after result =>
      rw [answered] at claimed
      rcases claim_cases answered with ⟨_, rfl, _⟩ | ⟨_, rfl, _⟩ | ⟨_, rfl, _⟩ | ⟨_, matching, _⟩
      · cases claimed
      · cases claimed
      · cases claimed
      · exact matching
  fenced := fun key value found tombstone =>
    ⟨SessionValue.fenced tombstone, fun input => (step_advances world input).fenced found tombstone⟩
  retry := by
    intro flow session request found retained
    obtain ⟨since, tracked⟩ := sound.tracked flow session request found retained
    refine ⟨⟨since, tracked.snapshot⟩, ?_, ?_⟩
    · intro turn nowMonotonic
      have established := sound.only flow session request found retained
      simp only [EngineCall.use, Engine.tickUse, found, established, retained, ne_eq, not_true_eq_false, if_false]
    · rintro turn call script now rfl retrying calm current
      exact retry_settles sound nonzero calm retrying current

end Steps

end StoreWorld

/-- Compare-claim deletion is exact in every interleaving of engine calls with
the packet programs, whatever fails before or after its effect. -/
theorem compare_claim_exact (generation : UInt64) (nonzero : generation ≠ 0) (engine : Engine)
    (fresh : engine.sessions = ∅) (sessions : SessionMap) (inputs : List StoreInput) :
    (run StoreWorld.step ⟨generation, engine, ⟨sessions, []⟩⟩ inputs).Exact := by
  have initial : (⟨generation, engine, ⟨sessions, []⟩⟩ : StoreWorld).Sound := by
    refine ⟨.nil, ?_, ?_⟩
    · intro flow session request found
      rw [fresh] at found
      cases found
    · intro flow session request found
      rw [fresh] at found
      cases found
  have kept : ∀ (world : StoreWorld) (input : StoreInput), world.Sound ∧ world.generation = generation →
      (world.step input).Sound ∧ (world.step input).generation = generation := by
    rintro world input ⟨sound, rfl⟩
    exact ⟨StoreWorld.step_sound sound nonzero input, world.step_generation input⟩
  obtain ⟨sound, same⟩ := always kept ⟨initial, rfl⟩ inputs
  refine StoreWorld.exact_of_sound sound ?_
  rw [same]
  exact nonzero

section Sample

/-- The flow is opened and goes idle; the claim of its deletion takes effect but
is reported as failed. -/
def sampleInputs : List StoreInput := [
  .call (sampleTurn 0 100) (.outbound samplePeer samplePacket true) {},
  .call (sampleTurn 1 101) (.inbound samplePeer ⟨flagSyn ||| flagAck, 500, 101, 0⟩ 1) {},
  .call (sampleTurn 70 102) (.tick samplePeer 1070) { claim := .lost }]

/-- The next tick removes the tombstone and the session. -/
theorem sample_compare_claim :
    (run StoreWorld.step ⟨7, sampleEngine, ⟨fun _ => none, []⟩⟩ sampleInputs).Exact ∧
      ((run StoreWorld.step ⟨7, sampleEngine, ⟨fun _ => none, []⟩⟩ sampleInputs).ledger.sessions
        samplePeer).map SessionValue.state = some .deleteClaimed ∧
      ((run StoreWorld.step ⟨7, sampleEngine, ⟨fun _ => none, []⟩⟩
        (sampleInputs ++ [.call (sampleTurn 71 103) (.tick samplePeer 1071) {}])).ledger.sessions
        samplePeer) = none :=
  ⟨compare_claim_exact 7 (by decide) sampleEngine rfl (fun _ => none) sampleInputs,
    by decide +kernel, by decide +kernel⟩

end Sample

end WgMix.FakeTcp
