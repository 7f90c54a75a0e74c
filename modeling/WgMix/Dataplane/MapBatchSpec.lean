import WgMix.Dataplane.MapBatch

/-! A batched update or deletion is a transaction: it is applied as a whole or, once its rollback
went through, leaves the map as it was. -/
namespace WgMix.Dataplane.MapBatch
variable {K V : Type} {answers : Nat → Answer} {operation : Operation} {entries chunk : List (Entry K V)}
  {initial : K → Option V} {world : World K V}

def keys (entries : List (Entry K V)) : List K := entries.map (·.key)

theorem mem_keys_of_mem {entry : Entry K V} (member : entry ∈ entries) : entry.key ∈ keys entries :=
  List.mem_map_of_mem member

/-- Which calls may follow: on keys of the entries only, a rollback only of what was attempted, and
a single call only after the first batch call applied nothing because there is no such call. -/
structure Allowed (entries : List (Entry K V)) (before : List (Call K)) (call : Call K) : Prop where
  known : ∀ key ∈ call.keys, key ∈ keys entries
  attempted : call.rollback = true →
    ∀ key ∈ call.keys, ∃ earlier ∈ before, earlier.rollback = false ∧ key ∈ earlier.keys
  fallback : call.rollback = false → call.batch = false →
    ∃ first later, before = first :: later ∧ first.batch = true ∧ first.completed = 0 ∧
      first.error = some .notSupported

/-- Every call was allowed by the calls before it, and, if every call of a rollback succeeded, the run returned with all
entries written or failed with the map as it was. -/
structure Transactional (operation : Operation) (entries : List (Entry K V)) (initial : K → Option V)
    (outcome : World K V × Option MapBatchError) : Prop where
  calls : Runs.Permitted (Allowed entries) outcome.1.calls
  whole : (∀ call ∈ outcome.1.calls, call.rollback = true → call.Succeeded) →
    (outcome.2 = none ∧ (∀ entry ∈ entries, outcome.1.map entry.key = operation.outcome entry) ∧
      ∀ key, key ∉ keys entries → outcome.1.map key = initial key) ∨
    (outcome.2 ≠ none ∧ outcome.1.map = initial)

/-- A state in which at most the first `count` entries have been attempted. -/
structure Reached (entries : List (Entry K V)) (initial : K → Option V) (count : Nat) (world : World K V) : Prop where
  outside : ∀ key, key ∉ keys (entries.take count) → world.map key = initial key
  attempted : ∀ key ∈ keys (entries.take count), ∃ call ∈ world.calls, call.rollback = false ∧ key ∈ call.keys
  permitted : Runs.Permitted (Allowed entries) world.calls

theorem applied_subset {answer : Answer} : answer.applied chunk ⊆ chunk := by
  intro entry member
  rw [Answer.applied] at member
  split at member
  · exact List.mem_of_mem_take member
  · obtain ⟨pair, kept, rfl⟩ := List.mem_map.mp member
    exact List.fst_mem_of_mem_zipIdx (List.mem_filter.mp kept).1

theorem applied_valid {answer : Answer} (valid : validMapBatchCompletion answer.completed chunk.length = true) :
    answer.applied chunk = chunk.take answer.completed.toNat := if_pos valid

/-- The first `count` entries are in place. -/
def Applied (operation : Operation) (entries : List (Entry K V)) (count : Nat) (world : World K V) : Prop :=
  ∀ entry ∈ entries.take count, world.map entry.key = operation.outcome entry

/-- All entries are in place. -/
theorem done_transactional (all : entries.take count = entries) (reached : Reached entries initial count world)
    (applied : Applied operation entries count world) :
    Transactional operation entries initial (world, none) := by
  refine ⟨reached.permitted, fun _ => .inl ⟨rfl, ?_, ?_⟩⟩
  · intro entry member
    exact applied entry (all.symm ▸ member)
  · intro key apart
    exact reached.outside key (all.symm ▸ apart)

/-- An entry further on has a key of its own. -/
theorem key_apart {entry other : Entry K V} (distinct : (keys entries).Nodup) (next : entries[count]? = some entry)
    (before : other ∈ entries.take count) : other.key ≠ entry.key := by
  intro same
  have nodup := distinct.sublist ((List.take_sublist (count + 1) entries).map Entry.key)
  rw [List.take_add_one, next, Option.toList_some, List.map_append, List.nodup_append] at nodup
  exact nodup.2.2 other.key (mem_keys_of_mem before) entry.key List.mem_cons_self same

/-- A chunk is what follows the entries before it. -/
theorem take_chunk (entries : List (Entry K V)) (start size : Nat) :
    entries.take (start + size) =
      entries.take start ++ (entries.take (min (start + size) entries.length)).drop start := by
  rw [List.drop_take, List.take_add]
  congr 1
  rw [List.take_eq_take_iff, List.length_drop]
  omega

/-- The entries of an unfinished chunk that a valid count stands for. -/
theorem take_partial (window : entries.take (start + size) = entries.take start ++ chunk)
    (before : start < entries.length) (within : count ≤ chunk.length) :
    entries.take (start + count) = entries.take start ++ chunk.take count := by
  have lengths := congrArg List.length window
  simp only [List.length_append, List.length_take] at lengths
  have sized : (entries.take start).length = start := by
    rw [List.length_take]
    omega
  have narrowed : entries.take (start + count) = (entries.take (start + size)).take (start + count) := by
    rw [List.take_take]
    congr 1
    omega
  have cut : (entries.take start ++ chunk).take ((entries.take start).length + count) = _ :=
    List.take_length_add_append count
  rw [sized] at cut
  rw [narrowed, window, cut]

section Calls
variable [DecidableEq K]

theorem single_outside {entry : Entry K V} (other : key ≠ entry.key) :
    (world.single answers operation undoing entry).map key = world.map key := by
  simp only [World.single]
  split
  · exact Function.update_of_ne other _ _
  · rfl

theorem single_settled {entry : Entry K V} (settled : operation.settled (world.answer answers).error = true) :
    (world.single answers operation undoing entry).map entry.key = operation.outcome entry := by
  simp only [World.single, settled, true_or, if_true]
  exact Function.update_self _ _ _

theorem foldl_apply_outside (outside : key ∉ keys entries) (map : K → Option V) :
    entries.foldl operation.apply map key = map key := by
  induction entries generalizing map with
  | nil => rfl
  | cons entry rest ih =>
    simp only [keys, List.map_cons, List.mem_cons, not_or] at outside
    rw [List.foldl_cons, ih outside.2, Operation.apply, Function.update_of_ne outside.1]

theorem foldl_apply_inside (distinct : (keys entries).Nodup) {entry : Entry K V} (member : entry ∈ entries)
    (map : K → Option V) : entries.foldl operation.apply map entry.key = operation.outcome entry := by
  induction entries generalizing map with
  | nil => cases member
  | cons first rest ih =>
    obtain ⟨apart, distinct⟩ := List.nodup_cons.mp distinct
    rw [List.foldl_cons]
    rcases List.mem_cons.mp member with rfl | later
    · rw [foldl_apply_outside apart, Operation.apply, Function.update_self]
    · exact ih distinct later _

end Calls

section Rollback
variable [DecidableEq K]

theorem undo_extends (answers : Nat → Answer) (operation : Operation) (list : List (Entry K V × Nat))
    (world : World K V) :
    world.calls ⊆ (undo answers operation list world).1.calls := by
  induction list generalizing world with
  | nil => exact List.Subset.refl _
  | cons pair rest ih =>
    refine List.Subset.trans ?_ (ih (world.single answers operation.inverse true pair.1))
    exact List.subset_append_left _ _

/-- Each undone key has its old value again, and no other key changes. -/
theorem undo_restores (list : List (Entry K V × Nat))
    (ready : ∀ pair ∈ list, initial pair.1.key = operation.inverse.outcome pair.1)
    (succeeded : ∀ call ∈ (undo answers operation list world).1.calls, call.rollback = true → call.Succeeded)
    (key : K) : (undo answers operation list world).1.map key =
      if key ∈ list.map (·.1.key) then initial key else world.map key := by
  induction list generalizing world with
  | nil => rfl
  | cons pair rest ih =>
    obtain ⟨entry, index⟩ := pair
    have called := undo_extends answers operation rest (world.single answers operation.inverse true entry)
      (List.mem_append_right world.calls List.mem_cons_self)
    have settled : operation.inverse.settled (world.answer answers).error = true := succeeded _ called rfl
    have later := @ih (world.single answers operation.inverse true entry)
      (fun pair member => ready pair (List.mem_cons_of_mem _ member)) succeeded
    rw [undo]
    dsimp only
    rw [later, List.map_cons]
    by_cases again : key ∈ rest.map (·.1.key)
    · rw [if_pos again, if_pos (List.mem_cons_of_mem _ again)]
    · rw [if_neg again]
      by_cases same : key = entry.key
      · subst same
        rw [if_pos List.mem_cons_self, single_settled settled]
        exact (ready (entry, index) List.mem_cons_self).symm
      · rw [if_neg (by simpa [same] using again), single_outside same]

theorem undo_permitted (list : List (Entry K V × Nat)) (permitted : Runs.Permitted (Allowed entries) world.calls)
    (attempted : ∀ pair ∈ list, pair.1.key ∈ keys entries ∧
      ∃ call ∈ world.calls, call.rollback = false ∧ pair.1.key ∈ call.keys) :
    Runs.Permitted (Allowed entries) (undo answers operation list world).1.calls := by
  induction list generalizing world with
  | nil => exact permitted
  | cons pair rest ih =>
    obtain ⟨known, call, held, forward, passed⟩ := attempted pair List.mem_cons_self
    refine @ih (world.single answers operation.inverse true pair.1) (permitted.snoc ?_) ?_
    · refine ⟨?_, fun _ => ?_, fun forward => Bool.noConfusion forward⟩
      · intro key member
        obtain rfl := List.mem_singleton.mp member
        exact known
      · intro key member
        obtain rfl := List.mem_singleton.mp member
        exact ⟨call, held, forward, passed⟩
    · intro other member
      obtain ⟨known, call, held, rest⟩ := attempted other (List.mem_cons_of_mem _ member)
      exact ⟨known, call, List.mem_append_left _ held, rest⟩

/-- A failure after at most `count` attempted entries leaves the map as it was. -/
theorem fail_transactional (ready : ∀ entry ∈ entries, initial entry.key = operation.inverse.outcome entry)
    (reached : Reached entries initial count world) :
    Transactional operation entries initial (fail answers operation cause (entries.take count) world) := by
  have listed (pair : Entry K V × Nat) (member : pair ∈ (entries.take count).zipIdx.reverse) :
      pair.1 ∈ entries.take count := List.fst_mem_of_mem_zipIdx (List.mem_reverse.mp member)
  refine ⟨undo_permitted _ reached.permitted ?_, fun succeeded => .inr ⟨Option.some_ne_none _, ?_⟩⟩
  · intro pair member
    have taken := listed pair member
    exact ⟨mem_keys_of_mem (List.mem_of_mem_take taken), reached.attempted _ (mem_keys_of_mem taken)⟩
  · funext key
    have restored := undo_restores (entries.take count).zipIdx.reverse
      (fun pair member => ready pair.1 (List.mem_of_mem_take (listed pair member))) succeeded key
    refine restored.trans ?_
    split
    · rfl
    · rename_i apart
      apply reached.outside
      intro inside
      apply apart
      obtain ⟨entry, member, rfl⟩ := List.mem_map.mp inside
      rw [← List.zipIdx_map_fst 0 (entries.take count)] at member
      obtain ⟨pair, placed, rfl⟩ := List.mem_map.mp member
      exact List.mem_map.mpr ⟨pair, List.mem_reverse.mpr placed, rfl⟩

end Rollback

section Forward
variable [DecidableEq K]

/-- A batch call that applied only entries among the first `count`, all attempted by now. -/
theorem Reached.batch (reached : Reached entries initial start world) (within : chunk ⊆ entries)
    (earlier : entries.take start ⊆ entries.take count)
    (applied : (world.answer answers).applied chunk ⊆ entries.take count)
    (covered : ∀ entry ∈ entries.take count, entry ∈ entries.take start ∨ entry ∈ chunk) :
    Reached entries initial count (world.batch answers operation chunk) := by
  refine ⟨?_, ?_, reached.permitted.snoc
    ⟨?_, fun back => Bool.noConfusion back, fun _ single => Bool.noConfusion single⟩⟩
  · intro key apart
    have untouched : key ∉ keys ((world.answer answers).applied chunk) :=
      fun inside => apart (List.map_subset _ applied inside)
    refine (foldl_apply_outside untouched _).trans (reached.outside key fun inside => apart ?_)
    exact List.map_subset _ earlier inside
  · intro key inside
    obtain ⟨entry, member, rfl⟩ := List.mem_map.mp inside
    rcases covered entry member with before | now
    · obtain ⟨call, held, rest⟩ := reached.attempted _ (mem_keys_of_mem before)
      exact ⟨call, List.mem_append_left _ held, rest⟩
    · exact ⟨_, List.mem_append_right _ List.mem_cons_self, rfl, mem_keys_of_mem now⟩
  · intro key inside
    exact List.map_subset _ within inside

/-- A single call on the next entry. -/
theorem Reached.single {entry : Entry K V} (reached : Reached entries initial count world)
    (next : entries[count]? = some entry)
    (first : ∃ head tail, world.calls = head :: tail ∧ head.batch = true ∧ head.completed = 0 ∧
      head.error = some .notSupported) :
    Reached entries initial (count + 1) (world.single answers operation false entry) := by
  have member : entry ∈ entries := List.mem_of_getElem? next
  have grown : entries.take (count + 1) = entries.take count ++ [entry] := by
    rw [List.take_add_one, next, Option.toList_some]
  have split (key : K) :
      key ∈ keys (entries.take (count + 1)) ↔ key ∈ keys (entries.take count) ∨ key = entry.key := by
    rw [grown, keys, List.map_append, List.mem_append]
    simp only [keys, List.map_cons, List.map_nil, List.mem_singleton]
  refine ⟨?_, ?_, reached.permitted.snoc ⟨?_, fun back => Bool.noConfusion back, fun _ _ => first⟩⟩
  · intro key apart
    rw [split, not_or] at apart
    exact (single_outside apart.2).trans (reached.outside key apart.1)
  · intro key inside
    rcases (split key).mp inside with before | rfl
    · obtain ⟨call, held, rest⟩ := reached.attempted key before
      exact ⟨call, List.mem_append_left _ held, rest⟩
    · exact ⟨_, List.mem_append_right _ List.mem_cons_self, rfl, List.mem_cons_self⟩
  · intro key inside
    obtain rfl := List.mem_singleton.mp inside
    exact mem_keys_of_mem member

theorem individually_transactional (distinct : (keys entries).Nodup)
    (ready : ∀ entry ∈ entries, initial entry.key = operation.inverse.outcome entry)
    (rest : List (Entry K V)) (left : entries.drop index = rest) (reached : Reached entries initial index world)
    (applied : Applied operation entries index world)
    (first : ∃ head tail, world.calls = head :: tail ∧ head.batch = true ∧ head.completed = 0 ∧
      head.error = some .notSupported) :
    Transactional operation entries initial (individually answers operation entries index rest world) := by
  induction rest generalizing index world with
  | nil => exact done_transactional (List.take_of_length_le (List.drop_eq_nil_iff.mp left)) reached applied
  | cons entry rest ih =>
    have next : entries[index]? = some entry := by
      rw [← List.head?_drop, left, List.head?_cons]
    have further : Reached entries initial (index + 1) (world.single answers operation false entry) :=
      reached.single next first
    rw [individually]
    split
    · rename_i settled
      refine ih ?_ further ?_ ?_
      · rw [← List.tail_drop, left, List.tail_cons]
      · intro other member
        rw [List.take_add_one, next, Option.toList_some, List.mem_append, List.mem_singleton] at member
        rcases member with before | rfl
        · exact (single_outside (key_apart distinct next before)).trans (applied other before)
        · exact single_settled settled
      · obtain ⟨head, tail, calls, rest⟩ := first
        exact ⟨head, _, congrArg (· ++ _) calls, rest⟩
    · exact fail_transactional ready further

/-- A complete chunk extends what is in place. -/
theorem Applied.batch (applied : Applied operation entries start world) (distinct : (keys entries).Nodup)
    (window : entries.take (start + size) = entries.take start ++ chunk)
    (complete : (world.answer answers).completed = chunk.length) :
    Applied operation entries (start + size) (world.batch answers operation chunk) := by
  have all : (world.answer answers).applied chunk = chunk := by
    have valid : validMapBatchCompletion (world.answer answers).completed chunk.length = true := by
      simp only [validMapBatchCompletion, complete, decide_eq_true_eq]
      omega
    rw [applied_valid valid, complete, Int.toNat_natCast, List.take_length]
  have nodup := distinct.sublist ((List.take_sublist (start + size) entries).map Entry.key)
  rw [window, List.map_append, List.nodup_append] at nodup
  intro entry member
  simp only [World.batch, all]
  rw [window] at member
  rcases List.mem_append.mp member with before | now
  · have apart : entry.key ∉ keys chunk := fun inside => nodup.2.2 _ (mem_keys_of_mem before) _ inside rfl
    exact (foldl_apply_outside apart _).trans (applied entry before)
  · exact foldl_apply_inside nodup.2.1 now _

theorem chunks_transactional (distinct : (keys entries).Nodup)
    (ready : ∀ entry ∈ entries, initial entry.key = operation.inverse.outcome entry) (positive : 0 < size)
    (fuel : Nat) (enough : entries.length ≤ start + fuel) (reached : Reached entries initial start world)
    (applied : Applied operation entries start world) (fresh : start = 0 → world.calls = []) :
    Transactional operation entries initial (chunks answers operation entries size fuel start index world) := by
  induction fuel generalizing start index world with
  | zero => exact done_transactional (List.take_of_length_le enough) reached applied
  | succ fuel ih =>
    rw [chunks]
    split
    · rename_i before
      have window := take_chunk entries start size
      have stops : entries.take (min (start + size) entries.length) = entries.take (start + size) :=
        List.take_eq_take_iff.mpr (by omega)
      dsimp only
      generalize (entries.take (min (start + size) entries.length)).drop start = chunk at window ⊢
      have within : chunk ⊆ entries := fun entry member =>
        List.mem_of_mem_take (window.symm ▸ List.mem_append_right _ member : entry ∈ entries.take (start + size))
      have covered (entry : Entry K V) (member : entry ∈ entries.take (start + size)) :
          entry ∈ entries.take start ∨ entry ∈ chunk := List.mem_append.mp (window ▸ member)
      have whole : Reached entries initial (start + size) (world.batch answers operation chunk) := by
        refine reached.batch within ?_ ?_ covered
        · exact window.symm ▸ List.subset_append_left _ _
        · exact fun entry member => window.symm ▸ List.mem_append_right _ (applied_subset member)
      split
      · rename_i complete
        exact ih (by omega) whole (applied.batch distinct window complete.2) (by omega)
      · split
        · rw [stops]
          exact fail_transactional ready whole
        · rename_i valid
          rw [Bool.not_eq_false] at valid
          have counted : (world.answer answers).completed.toNat ≤ chunk.length := by
            simp only [validMapBatchCompletion, decide_eq_true_eq] at valid
            omega
          have part := take_partial window before counted
          have cut : Reached entries initial (start + (world.answer answers).completed.toNat)
              (world.batch answers operation chunk) := by
            refine reached.batch within ?_ ?_ ?_
            · exact part.symm ▸ List.subset_append_left _ _
            · rw [applied_valid valid, part]
              exact List.subset_append_right _ _
            · intro entry member
              rw [part] at member
              exact (List.mem_append.mp member).imp_right List.mem_of_mem_take
          split
          · rename_i unsupported
            obtain ⟨rfl, none_, refused⟩ := unsupported
            refine individually_transactional distinct ready entries rfl ?_ (fun _ member => ?_) ?_
            · simpa only [none_, Int.toNat_zero] using cut
            · simp only [List.take_zero, List.not_mem_nil] at member
            · exact ⟨_, [], congrArg (· ++ _) (fresh rfl), rfl, none_, refused⟩
          · exact fail_transactional ready cut
    · rename_i ended
      exact done_transactional (List.take_of_length_le (Nat.not_lt.mp ended)) reached applied

end Forward

section
variable [DecidableEq K]

theorem mapBatchChunked_transactional (distinct : (keys entries).Nodup)
    (ready : ∀ entry ∈ entries, initial entry.key = operation.inverse.outcome entry) (positive : 0 < chunkSize) :
    Transactional operation entries initial
      (mapBatchChunked answers operation entries chunkSize { map := initial }) := by
  rw [mapBatchChunked, if_neg (by omega)]
  refine chunks_transactional distinct ready (by omega) _ (by omega) ⟨fun _ _ => rfl, ?_, .nil⟩ ?_ fun _ => rfl
  · intro key inside
    cases inside
  · intro entry inside
    cases inside

/-- Both batches, on absent entries and on present ones. -/
theorem map_batches_transactional (answers : Nat → Answer) (initial : K → Option V) (entries : List (Entry K V))
    (distinct : (entries.map (·.key)).Nodup) (chunkSize : Int) (positive : 0 < chunkSize) :
    ((∀ entry ∈ entries, initial entry.key = none) →
      Transactional .update entries initial (updateMapBatchChunked answers entries chunkSize { map := initial })) ∧
    ((∀ entry ∈ entries, initial entry.key = some entry.value) →
      Transactional .delete entries initial (deleteMapBatchChunked answers entries chunkSize { map := initial })) :=
  ⟨fun absent => mapBatchChunked_transactional distinct absent positive,
    fun present => mapBatchChunked_transactional distinct present positive⟩

end

def sampleEntries : List (Entry Nat Nat) := [⟨1, 10⟩, ⟨2, 20⟩, ⟨3, 30⟩]

/-- The first chunk goes through, the second reports five of one entries. -/
def sampleAnswers : Nat → Answer
  | 0 => { completed := 2 }
  | 1 => { completed := 5, error := some .failed, takes := fun _ => true }
  | _ => {}

/-- A failure in the second of two chunks takes all three entries back. -/
theorem map_batches_transactional_sample :
    (∀ entry ∈ sampleEntries, (fun _ => none : Nat → Option Nat) entry.key = none) ∧
      (updateMapBatchChunked sampleAnswers sampleEntries 2 { map := fun _ => none }).2 ≠ none ∧
      (updateMapBatchChunked sampleAnswers sampleEntries 2 { map := fun _ => none }).1.map = fun _ => none := by
  have absent : ∀ entry ∈ sampleEntries, (fun _ => none : Nat → Option Nat) entry.key = none := fun _ _ => rfl
  have transactional :=
    (map_batches_transactional sampleAnswers (fun _ => none) sampleEntries (by decide) 2 (by decide)).1 absent
  have failed : (updateMapBatchChunked sampleAnswers sampleEntries 2 { map := fun _ => none }).2 ≠ none := by decide
  refine ⟨absent, failed, ?_⟩
  rcases transactional.whole (by simp only [Call.Succeeded]; decide) with ⟨done, _⟩ | ⟨_, restored⟩
  · exact absurd done failed
  · exact restored

end WgMix.Dataplane.MapBatch
