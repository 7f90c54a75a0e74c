import WgMix.FakeTcp.StoreUse
import WgMix.Foundation.Runs

/-! Compare-claim deletion is exact. An entry goes only on a snapshot that it
still equals, a tombstone refuses everything, and the retained request is
enough to finish an interrupted deletion. -/
namespace WgMix.FakeTcp
open Bpf

/-- How an event moves the engine's last snapshot of `key` and what has
happened to that entry since. -/
def StoreEvent.record (key : SessionKey) (kept : Option (SessionValue × List StoreEvent)) (event : StoreEvent) :
    Option (SessionValue × List StoreEvent) :=
  if event.key = key then
    match event with
    | .looked _ value => some (value, [])
    | _ => kept.map fun snapshot => (snapshot.1, snapshot.2 ++ [event])
  else kept

/-- The value last looked up for `key`, with the events on the entry since. -/
def snapshotOf (key : SessionKey) (history : List StoreEvent) : Option (SessionValue × List StoreEvent) :=
  history.foldl (StoreEvent.record key) none

/-- A removal needs a snapshot that was claimed and that nothing else followed. -/
def StoreEvent.Allowed (before : List StoreEvent) : StoreEvent → Prop
  | .removed key expected => ∃ since, snapshotOf key before = some (expected, since) ∧ since ≠ [] ∧
      ∀ event ∈ since, event = .claimed key expected
  | _ => True

/-- The entry of a key by what happened since it was looked up as `expected`. -/
inductive Phase (key : SessionKey) (expected : SessionValue) : List StoreEvent → Option SessionValue → Prop where
  | fresh : value = expected → Phase key expected [] (some value)
  | moved : since ≠ [] → (∀ event ∈ since, event = .mutated key) → value.state = .established →
      expected.revision < value.revision → Phase key expected since (some value)
  | claimed : since ≠ [] → (∀ event ∈ since, event = .claimed key expected) → value = expected.claimed →
      Phase key expected since (some value)
  | gone : .claimed key expected ∈ since → .mutated key ∉ since → Phase key expected since none

/-- The store holds what it must for a retained request on `expected`. -/
structure Tracked (generation : UInt64) (ledger : SessionLedger) (key : SessionKey)
    (expected : SessionValue) (since : List StoreEvent) : Prop where
  bound : validateBoundSessionKey key generation = true
  valid : Engine.validateEstablishedSessionValue expected generation = true
  snapshot : snapshotOf key ledger.history = some (expected, since)
  phase : Phase key expected since (ledger.sessions key)

theorem snapshotOf_snoc (key : SessionKey) (history : List StoreEvent) (event : StoreEvent) :
    snapshotOf key (history ++ [event]) = event.record key (snapshotOf key history) := by
  simp only [snapshotOf, List.foldl_append, List.foldl_cons, List.foldl_nil]

/-- What no store operation but an insert can break. -/
structure Evolves (before after : SessionLedger) : Prop where
  logged : ∃ new, after.history = before.history ++ new ∧
    ∀ key, before.sessions key ≠ none → after.sessions key = none → ∃ expected, .removed key expected ∈ new
  absent : ∀ key, before.sessions key = none → after.sessions key = none
  fenced : ∀ key value, before.sessions key = some value → value.state = .deleteClaimed →
    after.sessions key = some value ∨ after.sessions key = none

theorem Evolves.refl (ledger : SessionLedger) : Evolves ledger ledger where
  logged := ⟨[], (List.append_nil _).symm, fun _ present absent => absurd absent present⟩
  absent _ none := none
  fenced _ _ found _ := .inl found

theorem Evolves.trans {before middle after : SessionLedger} (first : Evolves before middle)
    (second : Evolves middle after) : Evolves before after := by
  obtain ⟨early, earlyHistory, earlyRemoved⟩ := first.logged
  obtain ⟨late, lateHistory, lateRemoved⟩ := second.logged
  constructor
  · refine ⟨early ++ late, by rw [lateHistory, earlyHistory, List.append_assoc], ?_⟩
    intro key present absent
    by_cases gone : middle.sessions key = none
    · obtain ⟨expected, member⟩ := earlyRemoved key present gone
      exact ⟨expected, List.mem_append_left _ member⟩
    · obtain ⟨expected, member⟩ := lateRemoved key gone absent
      exact ⟨expected, List.mem_append_right _ member⟩
  · intro key none
    exact second.absent key (first.absent key none)
  · intro key value found tombstone
    rcases first.fenced key value found tombstone with kept | gone
    · exact second.fenced key value kept tombstone
    · exact .inr (second.absent key gone)

namespace SessionLedger
variable {ledger after : SessionLedger} {key : SessionKey} {expected : SessionValue}

/-- What a packet program's write does to the map. -/
theorem write_cases (ledger : SessionLedger) (packet : PacketWrite) :
    ledger.write packet = ledger ∨ ∃ value moved, ledger.sessions packet.key = some value ∧
      value.state = .established ∧ moved.state = .established ∧ value.revision < moved.revision ∧
      ledger.write packet = ⟨Function.update ledger.sessions packet.key (some moved),
        ledger.history ++ [.mutated packet.key]⟩ := by
  unfold write
  split
  · exact .inl rfl
  · rename_i value found
    split
    · exact .inl rfl
    · rename_i moved result done
      obtain ⟨established, kept, later⟩ := SessionValue.mutate_spec done
      exact .inr ⟨value, moved, found, established, kept, later, rfl⟩

theorem claim_cases (done : ledger.claim key expected = (after, result)) :
    (after = ledger ∧ result = .malformed ∧ claimRequestValid key expected = false) ∨
    (after = ledger ∧ result = .absent ∧ ledger.sessions key = none) ∨
    (after = ledger ∧ result = .different ∧ ∃ session, ledger.sessions key = some session ∧
      session ≠ expected ∧ session ≠ expected.claimed) ∨
    (result = .claimed ∧ (ledger.sessions key = some expected ∨ ledger.sessions key = some expected.claimed) ∧
      after = ⟨Function.update ledger.sessions key (some expected.claimed),
        ledger.history ++ [.claimed key expected]⟩) := by
  unfold claim at done
  cases answered : sessionClaim ledger.sessions key expected with
  | mk sessions verdict =>
    rw [answered] at done
    rcases sessionClaim_cases answered with ⟨rfl, rfl, invalid⟩ | ⟨rfl, rfl, missing⟩ |
      ⟨rfl, rfl, differs⟩ | ⟨rfl, matching, rfl⟩
    · cases done
      exact .inl ⟨rfl, rfl, invalid⟩
    · cases done
      exact .inr (.inl ⟨rfl, rfl, missing⟩)
    · cases done
      exact .inr (.inr (.inl ⟨rfl, rfl, differs⟩))
    · cases done
      exact .inr (.inr (.inr ⟨rfl, matching, rfl⟩))

section Frame
variable {first second : SessionLedger} {other : SessionKey}

/-- A packet moves an entry by that entry alone. -/
theorem write_pointwise (same : first.sessions key = second.sessions key) (packet : PacketWrite) :
    (first.write packet).sessions key = (second.write packet).sessions key := by
  by_cases here : key = packet.key
  · subst here
    rw [write, write, same]
    split
    · exact same
    · split
      · exact same
      · simp only [note, Function.update_self]
  · have elsewhere (ledger : SessionLedger) : (ledger.write packet).sessions key = ledger.sessions key := by
      rw [write]
      split
      · rfl
      · split
        · rfl
        · exact Function.update_of_ne here ..
    rw [elsewhere, elsewhere, same]

theorem writes_pointwise (same : first.sessions key = second.sessions key) (packets : List PacketWrite) :
    (first.writes packets).sessions key = (second.writes packets).sessions key := by
  induction packets generalizing first second with
  | nil => exact same
  | cons packet rest ih => exact ih (write_pointwise same packet)

theorem writes_append (ledger : SessionLedger) (early late : List PacketWrite) :
    (ledger.writes early).writes late = ledger.writes (early ++ late) := List.foldl_append.symm

theorem claim_frame (distinct : other ≠ key) (done : ledger.claim key expected = (after, result)) :
    after.sessions other = ledger.sessions other := by
  rcases claim_cases done with ⟨rfl, _, _⟩ | ⟨rfl, _, _⟩ | ⟨rfl, _, _⟩ | ⟨_, _, rfl⟩
  · rfl
  · rfl
  · rfl
  · exact Function.update_of_ne distinct ..

/-- A deletion does to the other entries what the packets do meanwhile. -/
theorem delete_frame (ledger : SessionLedger) (generation : UInt64) (expected : SessionValue)
    (script : StoreScript) (distinct : other ≠ key) :
    ∃ packets, (ledger.deleteEstablishedIfUnchanged generation key expected script).1.sessions other =
      (ledger.writes packets).sessions other := by
  rw [deleteEstablishedIfUnchanged]
  split
  · exact ⟨[], rfl⟩
  rw [compareDeleteEstablished]
  split
  · exact ⟨[], rfl⟩
  dsimp only
  split
  · exact ⟨script.beforeClaim, rfl⟩
  · exact ⟨script.beforeClaim, claim_frame distinct rfl⟩
  split
  · exact ⟨script.beforeClaim, claim_frame distinct ‹_›⟩
  · exact ⟨script.beforeClaim, claim_frame distinct ‹_›⟩
  · exact ⟨script.beforeClaim, claim_frame distinct ‹_›⟩
  · rename_i claimed
    have written := writes_pointwise (claim_frame distinct claimed) script.beforeDelete
    rw [writes_append] at written
    refine ⟨script.beforeClaim ++ script.beforeDelete, ?_⟩
    simp only [← written, deleteSession]
    split
    · rfl
    · exact Function.update_of_ne distinct ..

/-- A write takes no entry away. -/
theorem writes_present (present : ledger.sessions key ≠ none) (packets : List PacketWrite) :
    (ledger.writes packets).sessions key ≠ none := by
  induction packets generalizing ledger with
  | nil => exact present
  | cons packet rest ih =>
    apply ih
    rcases ledger.write_cases packet with same | ⟨value, moved, _, _, _, _, written⟩
    · rw [same]
      exact present
    · rw [written]
      by_cases here : key = packet.key
      · subst here
        exact fun gone => nomatch (Function.update_self ..).symm.trans gone
      · exact fun gone => present ((Function.update_of_ne here ..).symm.trans gone)

/-- A deletion that is refused ends with the claim's verdict. -/
theorem delete_refused (answer : (ledger.deleteEstablishedIfUnchanged generation key expected script).2 = some result)
    (kept : result ≠ .removed) :
    ∃ verdict, (ledger.writes script.beforeClaim).claim key expected =
        ((ledger.deleteEstablishedIfUnchanged generation key expected script).1, verdict) ∧
      (result = .absent ∧ verdict = .absent ∨ result = .different ∧ verdict = .different) := by
  rw [deleteEstablishedIfUnchanged] at answer ⊢
  split at answer
  · cases answer
  rename_i bound
  rw [if_neg bound]
  rw [compareDeleteEstablished] at answer ⊢
  split at answer
  · cases answer
  rename_i valid
  rw [if_neg valid]
  dsimp only at answer ⊢
  split at answer
  · cases answer
  · cases answer
  split at answer
  · rename_i after claimed
    cases answer
    exact ⟨_, claimed, .inl ⟨rfl, rfl⟩⟩
  · rename_i after claimed
    cases answer
    exact ⟨_, claimed, .inr ⟨rfl, rfl⟩⟩
  · cases answer
  · simp only [deleteSession] at answer
    split at answer
    · cases answer
    · dsimp only at answer
      split at answer
      · cases answer
        exact absurd rfl kept
      · cases answer

/-- An entry that differs is still there. -/
theorem delete_different (answer : (ledger.deleteEstablishedIfUnchanged generation key expected script).2 =
    some .different) :
    (ledger.deleteEstablishedIfUnchanged generation key expected script).1.sessions key ≠ none := by
  obtain ⟨verdict, claimed, ⟨⟨⟩, _⟩ | ⟨_, rfl⟩⟩ := delete_refused answer (by decide)
  rcases claim_cases claimed with ⟨_, ⟨⟩, _⟩ | ⟨_, ⟨⟩, _⟩ | ⟨same, _, session, found, _⟩ | ⟨⟨⟩, _⟩
  rw [same]
  intro gone
  cases found.symm.trans gone

/-- Meanwhile no packet can make an entry absent. -/
theorem delete_present (present : ledger.sessions key ≠ none)
    (answer : (ledger.deleteEstablishedIfUnchanged generation key expected script).2 = some result)
    (matched : result ≠ .different) : result = .removed := by
  by_contra kept
  obtain ⟨verdict, claimed, ⟨_, rfl⟩ | ⟨differs, _⟩⟩ := delete_refused answer kept
  · rcases claim_cases claimed with ⟨_, ⟨⟩, _⟩ | ⟨_, _, gone⟩ | ⟨_, ⟨⟩, _⟩ | ⟨⟨⟩, _⟩
    exact writes_present present script.beforeClaim gone
  · exact matched differs

theorem lookup_found (found : ledger.lookupEstablished generation key script = some (some value)) :
    validateBoundSessionKey key generation = true ∧ ledger.sessions key = some value ∧
      Engine.validateEstablishedSessionValue value generation = true := by
  rw [lookupEstablished] at found
  split at found
  · cases found
  rename_i bound
  rw [not_or, Bool.not_eq_false] at bound
  split at found
  · cases found
  rename_i here
  split at found
  · rename_i valid
    cases found
    exact ⟨bound.1, here, valid⟩
  · cases found

theorem lookup_missing (missing : ledger.lookupEstablished generation key script = some none) :
    ledger.sessions key = none := by
  rw [lookupEstablished] at missing
  split at missing
  · cases missing
  split at missing
  · assumption
  · split at missing <;> cases missing

end Frame

section Evolving

/-- Replacing a present entry that is no tombstone, or by its own value. -/
theorem evolves_update {value written : SessionValue} (event : StoreEvent)
    (found : ledger.sessions key = some value) (kept : value.state = .deleteClaimed → written = value) :
    Evolves ledger ⟨Function.update ledger.sessions key (some written), ledger.history ++ [event]⟩ := by
  constructor
  · refine ⟨[event], rfl, ?_⟩
    intro other present absent
    by_cases same : other = key
    · subst same
      cases (Function.update_self ..).symm.trans absent
    · exact absurd ((Function.update_of_ne same ..).symm.trans absent) present
  · intro other none
    have distinct : other ≠ key := by
      rintro rfl
      rw [found] at none
      cases none
    exact (Function.update_of_ne distinct ..).trans none
  · intro other held here tombstone
    by_cases same : other = key
    · subst same
      rw [found] at here
      cases here
      exact .inl ((Function.update_self ..).trans (congrArg some (kept tombstone)))
    · exact .inl ((Function.update_of_ne same ..).trans here)

theorem evolves_write (ledger : SessionLedger) (packet : PacketWrite) : Evolves ledger (ledger.write packet) := by
  rcases ledger.write_cases packet with same | ⟨value, moved, found, established, _, _, written⟩
  · rw [same]
    exact .refl ledger
  · rw [written]
    refine evolves_update _ found ?_
    intro tombstone
    rw [established] at tombstone
    cases tombstone

theorem evolves_writes (ledger : SessionLedger) (packets : List PacketWrite) :
    Evolves ledger (ledger.writes packets) := by
  induction packets generalizing ledger with
  | nil => exact .refl ledger
  | cons packet rest ih => exact (ledger.evolves_write packet).trans (ih _)

theorem evolves_claim (done : ledger.claim key expected = (after, result)) : Evolves ledger after := by
  rcases claim_cases done with ⟨rfl, _, _⟩ | ⟨rfl, _, _⟩ | ⟨rfl, _, _⟩ | ⟨_, matching, rfl⟩
  · exact .refl _
  · exact .refl _
  · exact .refl _
  · rcases matching with found | found
    · refine evolves_update _ found ?_
      intro tombstone
      cases expected
      cases tombstone
      rfl
    · exact evolves_update _ found fun _ => rfl

theorem evolves_remove (ledger : SessionLedger) (key : SessionKey) (expected : SessionValue) :
    Evolves ledger (ledger.remove key expected) := by
  constructor
  · refine ⟨[.removed key expected], rfl, ?_⟩
    intro other present absent
    by_cases same : other = key
    · subst same
      exact ⟨expected, List.mem_singleton.mpr rfl⟩
    · exact absurd ((Function.update_of_ne same ..).symm.trans absent) present
  · intro other none
    by_cases same : other = key
    · subst same
      exact Function.update_self ..
    · exact (Function.update_of_ne same ..).trans none
  · intro other value found _
    by_cases same : other = key
    · subst same
      exact .inr (Function.update_self ..)
    · exact .inl ((Function.update_of_ne same ..).trans found)

theorem evolves_deleteSession (ledger : SessionLedger) (key : SessionKey) (expected : SessionValue)
    (script : StoreScript) : Evolves ledger (ledger.deleteSession key expected script).1 := by
  unfold deleteSession
  dsimp only
  have written := ledger.evolves_writes script.beforeDelete
  split
  · exact written
  · exact written.trans (evolves_remove _ key expected)

theorem evolves_compareDelete (ledger : SessionLedger) (key : SessionKey) (expected : SessionValue)
    (script : StoreScript) : Evolves ledger (ledger.compareDeleteEstablished key expected script).1 := by
  unfold compareDeleteEstablished
  split
  · exact .refl ledger
  · dsimp only
    have written := ledger.evolves_writes script.beforeClaim
    split
    · exact written
    · exact written.trans (evolves_claim rfl)
    · split
      · exact written.trans (evolves_claim ‹_›)
      · exact written.trans (evolves_claim ‹_›)
      · exact written.trans (evolves_claim ‹_›)
      · exact (written.trans (evolves_claim ‹_›)).trans (evolves_deleteSession ..)

theorem evolves_delete (ledger : SessionLedger) (generation : UInt64) (key : SessionKey)
    (expected : SessionValue) (script : StoreScript) :
    Evolves ledger (ledger.deleteEstablishedIfUnchanged generation key expected script).1 := by
  unfold deleteEstablishedIfUnchanged
  split
  · exact .refl ledger
  · exact evolves_compareDelete ..

theorem evolves_note (ledger : SessionLedger) (event : StoreEvent) : Evolves ledger (ledger.note event) where
  logged := ⟨[event], rfl, fun _ present absent => absurd absent present⟩
  absent _ none := none
  fenced _ _ found _ := .inl found

end Evolving

end SessionLedger

namespace Tracked
open SessionLedger
variable {ledger after : SessionLedger} {key : SessionKey} {expected : SessionValue} {generation : UInt64}
  {since : List StoreEvent}

/-- Events on other entries do not touch what is tracked. -/
theorem other {event : StoreEvent} (tracked : Tracked generation ledger key expected since)
    (history : after.history = ledger.history ++ [event]) (distinct : event.key ≠ key)
    (same : after.sessions key = ledger.sessions key) : Tracked generation after key expected since where
  bound := tracked.bound
  valid := tracked.valid
  snapshot := by
    rw [history, snapshotOf_snoc, StoreEvent.record.eq_def, if_neg distinct]
    exact tracked.snapshot
  phase := by
    rw [same]
    exact tracked.phase

/-- An event on the entry itself that is no lookup. -/
theorem note {event : StoreEvent} (tracked : Tracked generation ledger key expected since)
    (history : after.history = ledger.history ++ [event])
    (recorded : ∀ kept, event.record key kept = kept.map fun snapshot => (snapshot.1, snapshot.2 ++ [event]))
    (phase : Phase key expected (since ++ [event]) (after.sessions key)) :
    Tracked generation after key expected (since ++ [event]) where
  bound := tracked.bound
  valid := tracked.valid
  snapshot := by
    rw [history, snapshotOf_snoc, recorded, tracked.snapshot, Option.map_some]
  phase := phase

/-- One more event of the same kind. -/
theorem all_snoc {event : StoreEvent} (all : ∀ each ∈ since, each = event) :
    ∀ each ∈ since ++ [event], each = event := by
  intro each member
  rcases List.mem_append.mp member with early | last
  · exact all each early
  · exact List.mem_singleton.mp last

theorem write (tracked : Tracked generation ledger key expected since) (packet : PacketWrite) :
    ∃ since, Tracked generation (ledger.write packet) key expected since := by
  rcases ledger.write_cases packet with same | ⟨value, moved, found, established, kept, later, written⟩
  · rw [same]
    exact ⟨since, tracked⟩
  · have history : (ledger.write packet).history = ledger.history ++ [.mutated packet.key] := by rw [written]
    by_cases here : packet.key = key
    · subst here
      have phase := tracked.phase
      rw [found] at phase
      refine ⟨since ++ [.mutated packet.key], tracked.note history (fun _ => by exact if_pos rfl) ?_⟩
      rw [written]
      dsimp only
      rw [Function.update_self]
      have nonempty : since ++ [StoreEvent.mutated packet.key] ≠ [] := List.append_ne_nil_of_right_ne_nil _ (by simp)
      cases phase with
      | fresh same => exact .moved nonempty (by simp) kept (same ▸ later)
      | moved _ all _ earlier => exact .moved nonempty (all_snoc all) kept (UInt64.lt_trans earlier later)
      | claimed _ _ same =>
        rw [same] at established
        cases established
    · refine ⟨since, tracked.other history here ?_⟩
      rw [written]
      exact Function.update_of_ne (Ne.symm here) ..

theorem writes (tracked : Tracked generation ledger key expected since) (packets : List PacketWrite) :
    ∃ since, Tracked generation (ledger.writes packets) key expected since := by
  induction packets generalizing ledger since with
  | nil => exact ⟨since, tracked⟩
  | cons packet rest ih =>
    obtain ⟨later, written⟩ := tracked.write packet
    exact ih written

/-- A tracked request passes the checks of the claim program. -/
theorem requestValid (tracked : Tracked generation ledger key expected since)
    (nonzero : generation ≠ 0) : claimRequestValid key expected = true := by
  have bound := tracked.bound
  have valid := tracked.valid
  simp only [validateBoundSessionKey, decide_eq_true_eq] at bound
  simp only [Engine.validateEstablishedSessionValue, decide_eq_true_eq] at valid
  obtain ⟨keyGeneration, localIpv4, remoteIpv4, underlay, localPort, remotePort, wgId, pad⟩ := bound
  obtain ⟨valueGeneration, state, flags, valuePad, reserved, revision, sessionId, incarnation⟩ := valid
  simp only [claimRequestValid, SessionKey.valid, decide_eq_true_eq, FixedBytes.aggregate_eq_zero]
  refine ⟨⟨?_, localIpv4, remoteIpv4, underlay, localPort, remotePort, wgId, pad⟩, ?_, state, flags, valuePad,
    reserved, revision, sessionId, ?_⟩
  · rw [keyGeneration]
    exact nonzero
  · rw [keyGeneration, valueGeneration]
  · rw [ne_eq, FixedBytes.aggregate_eq_zero]
    exact incarnation

theorem established (tracked : Tracked generation ledger key expected since) :
    expected.state = .established := by
  have valid := tracked.valid
  simp only [Engine.validateEstablishedSessionValue, decide_eq_true_eq] at valid
  exact valid.2.1

/-- The claim run on a tracked entry: an untouched or already claimed entry is
claimed, a moved one is left as it is. -/
theorem claim (nonzero : generation ≠ 0) (tracked : Tracked generation ledger key expected since)
    (done : ledger.claim key expected = (after, result)) :
    (result = .absent ∧ after = ledger ∧ ledger.sessions key = none) ∨
    (result = .different ∧ after = ledger ∧ .claimed key expected ∉ since ∧ .mutated key ∈ since) ∨
    (result = .claimed ∧ (∀ event ∈ since, event = .claimed key expected) ∧
      after.sessions key = some expected.claimed ∧ after.history = ledger.history ++ [.claimed key expected] ∧
      Tracked generation after key expected (since ++ [.claimed key expected])) := by
  have valid := tracked.requestValid nonzero
  have established := tracked.established
  have tombstone : expected ≠ expected.claimed := by
    intro same
    have state := congrArg SessionValue.state same
    rw [established] at state
    cases state
  rcases claim_cases done with ⟨_, _, invalid⟩ | ⟨rfl, rfl, missing⟩ | ⟨rfl, rfl, session, found, differs⟩ |
    ⟨rfl, matching, rfl⟩
  · rw [valid] at invalid
    cases invalid
  · exact .inl ⟨rfl, rfl, missing⟩
  · have phase := tracked.phase
    rw [found] at phase
    cases phase with
    | fresh same => exact absurd same differs.1
    | moved nonempty all _ _ =>
      refine .inr (.inl ⟨rfl, rfl, ?_, ?_⟩)
      · intro member
        cases all _ member
      · obtain ⟨event, member⟩ := List.exists_mem_of_ne_nil _ nonempty
        rw [all event member] at member
        exact member
    | claimed _ _ same => exact absurd same differs.2
  · have all : ∀ event ∈ since, event = .claimed key expected := by
      have phase := tracked.phase
      rcases matching with found | found
      · rw [found] at phase
        cases phase with
        | fresh _ => simp
        | moved _ _ _ later => exact absurd later (UInt64.lt_irrefl _)
        | claimed _ _ same => exact absurd same tombstone
      · rw [found] at phase
        cases phase with
        | fresh same => exact absurd same.symm tombstone
        | moved _ _ state _ => cases state
        | claimed _ all _ => exact all
    have written : Function.update ledger.sessions key (some expected.claimed) key = some expected.claimed :=
      Function.update_self ..
    refine .inr (.inr ⟨rfl, all, written, rfl, tracked.note rfl (fun _ => if_pos rfl) ?_⟩)
    dsimp only
    rw [written]
    exact .claimed (List.append_ne_nil_of_right_ne_nil _ (by simp)) (all_snoc all) rfl

/-- A tombstone is not moved, so nothing is added to what happened to it. -/
theorem writes_tombstone (tracked : Tracked generation ledger key expected since)
    (found : ledger.sessions key = some expected.claimed) (packets : List PacketWrite) :
    Tracked generation (ledger.writes packets) key expected since ∧
      (ledger.writes packets).sessions key = some expected.claimed := by
  induction packets generalizing ledger with
  | nil => exact ⟨tracked, found⟩
  | cons packet rest ih =>
    rcases ledger.write_cases packet with same | ⟨value, moved, held, established, _, _, written⟩
    · simp only [SessionLedger.writes, List.foldl_cons, same]
      exact ih tracked found
    · have distinct : packet.key ≠ key := by
        rintro rfl
        rw [found] at held
        cases held
        cases established
      have same : (ledger.write packet).sessions key = ledger.sessions key := by
        rw [written]
        exact Function.update_of_ne (Ne.symm distinct) ..
      have history : (ledger.write packet).history = ledger.history ++ [.mutated packet.key] := by rw [written]
      exact ih (tracked.other history distinct same) (same.trans found)

/-- Removing the tombstone of a tracked entry. -/
theorem remove (tracked : Tracked generation ledger key expected since) (claims : since ≠ [])
    (all : ∀ event ∈ since, event = .claimed key expected) :
    Tracked generation (ledger.remove key expected) key expected (since ++ [.removed key expected]) := by
  refine tracked.note rfl (fun _ => if_pos rfl) ?_
  have removed : (ledger.remove key expected).sessions key = none := Function.update_self ..
  rw [removed]
  obtain ⟨event, member⟩ := List.exists_mem_of_ne_nil _ claims
  rw [all event member] at member
  refine .gone (List.mem_append_left _ member) ?_
  intro mutated
  rcases List.mem_append.mp mutated with early | last
  · cases all _ early
  · cases List.mem_singleton.mp last

end Tracked

open Runs in
theorem permitted_writes {ledger : SessionLedger} (permitted : Permitted StoreEvent.Allowed ledger.history)
    (packets : List PacketWrite) : Permitted StoreEvent.Allowed (ledger.writes packets).history := by
  induction packets generalizing ledger with
  | nil => exact permitted
  | cons packet rest ih =>
    apply ih
    rcases ledger.write_cases packet with same | ⟨_, _, _, _, _, _, written⟩
    · rw [same]
      exact permitted
    · rw [written]
      exact permitted.snoc trivial

section Deleting
open Runs SessionLedger
variable {ledger : SessionLedger} {key other : SessionKey} {expected : SessionValue} {generation : UInt64}
  {since : List StoreEvent}

/-- Reclaiming a claimed entry. -/
theorem deleteSession_tracked (tracked : Tracked generation ledger key expected since)
    (found : ledger.sessions key = some expected.claimed) (claims : since ≠ [])
    (all : ∀ event ∈ since, event = .claimed key expected)
    (permitted : Permitted StoreEvent.Allowed ledger.history) (script : StoreScript) :
    (∃ since, Tracked generation (ledger.deleteSession key expected script).1 key expected since) ∧
      Permitted StoreEvent.Allowed (ledger.deleteSession key expected script).1.history := by
  obtain ⟨written, _⟩ := tracked.writes_tombstone found script.beforeDelete
  have kept := permitted_writes permitted script.beforeDelete
  unfold deleteSession
  dsimp only
  split
  · exact ⟨⟨since, written⟩, kept⟩
  · exact ⟨⟨_, written.remove claims all⟩, kept.snoc ⟨since, written.snapshot, claims, all⟩⟩

theorem compareDelete_tracked (nonzero : generation ≠ 0) (tracked : Tracked generation ledger key expected since)
    (permitted : Permitted StoreEvent.Allowed ledger.history) (script : StoreScript) :
    (∃ since, Tracked generation (ledger.compareDeleteEstablished key expected script).1 key expected since) ∧
      Permitted StoreEvent.Allowed (ledger.compareDeleteEstablished key expected script).1.history := by
  unfold compareDeleteEstablished
  split
  · exact ⟨⟨since, tracked⟩, permitted⟩
  obtain ⟨now, written⟩ := tracked.writes script.beforeClaim
  have kept := permitted_writes permitted script.beforeClaim
  dsimp only
  cases answered : (ledger.writes script.beforeClaim).claim key expected with
  | mk after result =>
    have claim := written.claim nonzero answered
    -- the ledger right after the claim run
    have settled : (∃ since, Tracked generation after key expected since) ∧
        Permitted StoreEvent.Allowed after.history := by
      rcases claim with ⟨_, rfl, _⟩ | ⟨_, rfl, _⟩ | ⟨_, _, _, history, claimed⟩
      · exact ⟨⟨now, written⟩, kept⟩
      · exact ⟨⟨now, written⟩, kept⟩
      · refine ⟨⟨_, claimed⟩, ?_⟩
        rw [history]
        exact kept.snoc trivial
    split
    · exact ⟨⟨now, written⟩, kept⟩
    · exact settled
    · rcases claim with ⟨rfl, _, _⟩ | ⟨rfl, _, _⟩ | ⟨rfl, all, found, _, claimed⟩
      · exact settled
      · exact settled
      · exact deleteSession_tracked claimed found (List.append_ne_nil_of_right_ne_nil _ (by simp))
          (Tracked.all_snoc all) settled.2 script

theorem delete_tracked (nonzero : generation ≠ 0) (tracked : Tracked generation ledger key expected since)
    (permitted : Permitted StoreEvent.Allowed ledger.history) (script : StoreScript) :
    (∃ since, Tracked generation
        (ledger.deleteEstablishedIfUnchanged generation key expected script).1 key expected since) ∧
      Permitted StoreEvent.Allowed
        (ledger.deleteEstablishedIfUnchanged generation key expected script).1.history := by
  unfold deleteEstablishedIfUnchanged
  split
  · exact ⟨⟨since, tracked⟩, permitted⟩
  · exact compareDelete_tracked nonzero tracked permitted script

section Others
variable {tracedValue : SessionValue}

variable (tracked : Tracked generation ledger other tracedValue since) (distinct : key ≠ other)
  (expected : SessionValue) (script : StoreScript)
include tracked distinct

theorem claim_other : Tracked generation (ledger.claim key expected).1 other tracedValue since := by
  cases answered : ledger.claim key expected with
  | mk after result =>
    rcases claim_cases answered with ⟨rfl, _, _⟩ | ⟨rfl, _, _⟩ | ⟨rfl, _, _⟩ | ⟨_, _, rfl⟩
    · exact tracked
    · exact tracked
    · exact tracked
    · exact tracked.other rfl distinct (Function.update_of_ne (Ne.symm distinct) ..)

theorem deleteSession_other :
    ∃ since, Tracked generation (ledger.deleteSession key expected script).1 other tracedValue since := by
  obtain ⟨now, written⟩ := tracked.writes script.beforeDelete
  unfold deleteSession
  dsimp only
  split
  · exact ⟨now, written⟩
  · exact ⟨now, written.other rfl distinct (Function.update_of_ne (Ne.symm distinct) ..)⟩

theorem compareDelete_other :
    ∃ since, Tracked generation (ledger.compareDeleteEstablished key expected script).1 other tracedValue since := by
  obtain ⟨now, written⟩ := tracked.writes script.beforeClaim
  have claimed := claim_other written distinct expected
  unfold compareDeleteEstablished
  split
  · exact ⟨since, tracked⟩
  dsimp only
  cases answered : (ledger.writes script.beforeClaim).claim key expected with
  | mk after result =>
    rw [answered] at claimed
    split
    · exact ⟨now, written⟩
    · exact ⟨now, claimed⟩
    · cases result with
      | malformed | absent | different => exact ⟨now, claimed⟩
      | claimed => exact deleteSession_other claimed distinct expected script

theorem delete_other : ∃ since, Tracked generation
      (ledger.deleteEstablishedIfUnchanged generation key expected script).1 other tracedValue since := by
  unfold deleteEstablishedIfUnchanged
  split
  · exact ⟨since, tracked⟩
  · exact compareDelete_other tracked distinct expected script

end Others

end Deleting

/-- No store operation of the call fails. -/
structure StoreScript.Calm (script : StoreScript) : Prop where
  storeBound : script.storeBound = true
  claimBound : script.claimBound = true
  claim : script.claim = .done
  reclaimBound : script.reclaimBound = true
  delete : script.delete = .done

section Retrying
open SessionLedger
variable {ledger : SessionLedger} {key : SessionKey} {expected : SessionValue} {generation : UInt64}
  {since : List StoreEvent} {script : StoreScript}

/-- Without failures a deletion is the claim run and what follows from its answer. -/
theorem calm_delete (calm : script.Calm) (tracked : Tracked generation ledger key expected since) :
    ledger.deleteEstablishedIfUnchanged generation key expected script =
      match (ledger.writes script.beforeClaim).claim key expected with
      | (ledger, .absent) => (ledger, some .absent)
      | (ledger, .different) => (ledger, some .different)
      | (ledger, .malformed) => (ledger, none)
      | (ledger, .claimed) => ledger.deleteSession key expected script := by
  have bound := tracked.bound
  have valid := tracked.valid
  have keyGeneration : key.generation = generation := by
    simp only [validateBoundSessionKey, decide_eq_true_eq] at bound
    exact bound.1
  have valueGeneration : expected.generation = generation := by
    simp only [Engine.validateEstablishedSessionValue, decide_eq_true_eq] at valid
    exact valid.1
  cases answered : (ledger.writes script.beforeClaim).claim key expected with
  | mk after result =>
    cases result <;>
      simp only [deleteEstablishedIfUnchanged, compareDeleteEstablished, keyGeneration, valueGeneration, bound,
        valid, calm.storeBound, calm.claimBound, calm.claim, Bool.true_eq_false, or_self, if_false, answered]

theorem calm_deleteSession (calm : script.Calm) (tracked : Tracked generation ledger key expected since)
    (found : ledger.sessions key = some expected.claimed) :
    (ledger.deleteSession key expected script).1.sessions key = none ∧
      (ledger.deleteSession key expected script).2 = some .removed := by
  obtain ⟨_, present⟩ := tracked.writes_tombstone found script.beforeDelete
  unfold deleteSession
  simp only [calm.reclaimBound, calm.delete, present, Option.isNone_some, Bool.true_eq_false, reduceCtorEq,
    Bool.false_eq_true, or_self, if_false, if_true, and_true]
  exact Function.update_self ..

/-- A claim that took effect is carried to its end. -/
theorem calm_claimed (nonzero : generation ≠ 0) (calm : script.Calm)
    (tracked : Tracked generation ledger key expected earlier)
    (current : Tracked generation (ledger.writes script.beforeClaim) key expected since)
    (took : .claimed key expected ∈ since) :
    (ledger.deleteEstablishedIfUnchanged generation key expected script).1.sessions key = none ∧
      ((ledger.deleteEstablishedIfUnchanged generation key expected script).2 = some .absent ∨
        (ledger.deleteEstablishedIfUnchanged generation key expected script).2 = some .removed) := by
  rw [calm_delete calm tracked]
  cases answered : (ledger.writes script.beforeClaim).claim key expected with
  | mk after result =>
    rcases current.claim nonzero answered with ⟨rfl, rfl, missing⟩ | ⟨rfl, rfl, untaken, _⟩ |
      ⟨rfl, _, found, _, claimed⟩
    · exact ⟨missing, .inl rfl⟩
    · exact absurd took untaken
    · obtain ⟨gone, removed⟩ := calm_deleteSession calm claimed found
      exact ⟨gone, .inr removed⟩

/-- An entry the packet programs have advanced is left to them. -/
theorem calm_moved (nonzero : generation ≠ 0) (calm : script.Calm)
    (tracked : Tracked generation ledger key expected earlier)
    (current : Tracked generation (ledger.writes script.beforeClaim) key expected since)
    (advanced : .mutated key ∈ since) (untaken : .claimed key expected ∉ since) :
    ledger.deleteEstablishedIfUnchanged generation key expected script =
      (ledger.writes script.beforeClaim, some .different) := by
  rw [calm_delete calm tracked]
  cases answered : (ledger.writes script.beforeClaim).claim key expected with
  | mk after result =>
    rcases current.claim nonzero answered with ⟨rfl, rfl, missing⟩ | ⟨rfl, rfl, _, _⟩ | ⟨rfl, all, _, _, _⟩
    · have phase := current.phase
      rw [missing] at phase
      cases phase with
      | gone took _ => exact absurd took untaken
    · rfl
    · cases all _ advanced

end Retrying

end WgMix.FakeTcp
