import WgMix.Foundation.Runs
import WgMix.Reconcile.Transaction

/-! The order of a startup-guard transaction. The flags that decide a failed reload are records of its
history, so what each call needs is a condition on the calls before it. -/
namespace WgMix.Reconcile
open Control Dataplane Guard Effects

def Event.observation : Event → Observation
  | .observed outcome | .guardApplied outcome _ | .cleaned _ outcome _ => outcome.observation
  | _ => .unchanged

/-- The last guard observation that is not retained from an earlier one. -/
def lastObservation (history : List Event) : Observation :=
  history.foldl (fun last event => StartupGuardTxn.effectiveGuardObservation last event.observation) .unknown

/-- The loader applied, the status was healthy and the attach state was saved. -/
structure Validated (history : List Event) : Prop where
  applied : .applied true ∈ history
  healthy : .healthChecked true ∈ history
  saved : .attachStateSaved true ∈ history

/-- The cleanup of the body proved the guard absent. -/
def ProvedAbsent (history : List Event) : Prop :=
  ∃ outcome done, .cleaned .body outcome done ∈ history ∧ outcome.observation = .absent

/-- An `Apply` of this call made the guard active after the guard was observed absent. -/
def Created (history : List Event) : Prop :=
  ∃ before first outcome done after, history = before ++ .guardApplied outcome done :: after ∧
    .observed first ∈ before ∧ first.observation = .absent ∧ outcome.observation = .active ∧ outcome.mutated = true

/-- What the calls before must be for a call of a reload. -/
def Orderly (guarded : Bool) (earlier : List Event) : Event → Prop
  | .resumed lease _ => (∀ other, .resumed other true ∉ earlier) ∧ lastObservation earlier = .absent ∧
      (Validated earlier ∧ ProvedAbsent earlier ∨
        .quiesced lease ∈ earlier ∧ lease.acquired = true ∧ .applyStarted ∉ earlier)
  | .cleaned half _ _ => (∀ before after, earlier = before ++ .applyStarted :: after → .attachStateSaved true ∈ after) ∧
      (half = .deferred → Created earlier ∧ .applyStarted ∉ earlier)
  | .applyStarted => .applyStarted ∉ earlier ∧ (guarded = true → lastObservation earlier = .active)
  | .attachStateSaved _ => .applyStarted ∈ earlier
  | _ => True

theorem lastObservation_snoc (history : List Event) (event : Event) : lastObservation (history ++ [event]) =
    StartupGuardTxn.effectiveGuardObservation (lastObservation history) event.observation := by
  rw [lastObservation, List.foldl_append]
  rfl

/-- The one start comes before every save. -/
theorem saved_after_start (orderly : Runs.Permitted (Orderly guarded) history)
    (saved : .attachStateSaved done ∈ history) (split : history = before ++ .applyStarted :: rest) :
    .attachStateSaved done ∈ rest := by
  rw [split] at saved
  rcases List.mem_append.mp saved with early | late
  · obtain ⟨first, second, rfl⟩ := List.append_of_mem early
    have started : .applyStarted ∈ first := orderly first (.attachStateSaved done) (second ++ .applyStarted :: rest)
      (by simp [split])
    exact absurd (List.mem_append_left _ started) (orderly _ _ _ split).1
  · simpa using late

theorem Validated.snoc (validated : Validated history) (event : Event) : Validated (history ++ [event]) :=
  ⟨List.mem_append_left _ validated.applied, List.mem_append_left _ validated.healthy,
    List.mem_append_left _ validated.saved⟩

theorem ProvedAbsent.snoc (proved : ProvedAbsent history) (event : Event) : ProvedAbsent (history ++ [event]) := by
  obtain ⟨outcome, done, member, absent⟩ := proved
  exact ⟨outcome, done, List.mem_append_left _ member, absent⟩

theorem Created.snoc (created : Created history) (event : Event) : Created (history ++ [event]) := by
  obtain ⟨before, first, outcome, done, after, rfl, rest⟩ := created
  exact ⟨before, first, outcome, done, after ++ [event], by rw [List.append_assoc, List.cons_append], rest⟩

namespace Transaction
variable {S : Type} {guarded : Bool} {transaction : Transaction S}

/-- The flags of a transaction are facts of its history, and the history is in order. -/
structure Records (guarded : Bool) (transaction : Transaction S) : Prop where
  observation : transaction.txn.observation = lastObservation transaction.history
  kernel : transaction.kernelState = .active → transaction.txn.observation = .active
  initial : transaction.txn.initialObservation = .absent →
    ∃ first, .observed first ∈ transaction.history ∧ first.observation = .absent
  created : transaction.txn.guardCreated = true → Created transaction.history
  started : .applyStarted ∈ transaction.history → transaction.txn.dataplaneMutationStarted = true
  validated : transaction.txn.dataplaneValidated = true → Validated transaction.history
  attempted : transaction.txn.normalCleanup = true → transaction.txn.cleanupAttempted = true
  proved : transaction.txn.normalCleanup = true → transaction.txn.cleanupProvedAbsent = true →
    ProvedAbsent transaction.history ∧ transaction.txn.observation = .absent
  fresh : ∀ lease, transaction.txn.lease = some lease → .quiesced lease ∈ transaction.history
  once : transaction.txn.resumed = false → ∀ other, .resumed other true ∉ transaction.history
  orderly : Runs.Permitted (Orderly guarded) transaction.history

/-- One more event, with the flags that it may change. -/
theorem Records.snoc (records : Records guarded transaction) (left : Transaction S) (event : Event)
    (extended : left.history = transaction.history ++ [event])
    (orderly : Orderly guarded transaction.history event)
    (observation : left.txn.observation =
      StartupGuardTxn.effectiveGuardObservation transaction.txn.observation event.observation)
    (kernel : left.kernelState = .active → left.txn.observation = .active)
    (kept : left.txn.initialObservation = transaction.txn.initialObservation ∧
      left.txn.dataplaneValidated = transaction.txn.dataplaneValidated ∧ left.txn.lease = transaction.txn.lease)
    (created : left.txn.guardCreated = true → Created left.history)
    (started : event = .applyStarted ∨ transaction.txn.dataplaneMutationStarted = true →
      left.txn.dataplaneMutationStarted = true)
    (attempted : left.txn.normalCleanup = true → left.txn.cleanupAttempted = true)
    (proved : left.txn.normalCleanup = true → left.txn.cleanupProvedAbsent = true →
      ProvedAbsent left.history ∧ left.txn.observation = .absent)
    (once : left.txn.resumed = false → transaction.txn.resumed = false ∧ ∀ other, event ≠ .resumed other true) :
    Records guarded left := by
  obtain ⟨sameInitial, sameValidated, sameLease⟩ := kept
  constructor
  case observation => rw [extended, lastObservation_snoc, ← records.observation, observation]
  case kernel => exact kernel
  case initial =>
    intro absent
    rw [sameInitial] at absent
    obtain ⟨first, member, seen⟩ := records.initial absent
    exact ⟨first, extended ▸ List.mem_append_left _ member, seen⟩
  case created => exact created
  case started =>
    intro member
    rw [extended] at member
    rcases List.mem_append.mp member with earlier | now
    · exact started (.inr (records.started earlier))
    · exact started (.inl (List.mem_singleton.mp now).symm)
  case validated =>
    intro validated
    rw [sameValidated] at validated
    exact extended ▸ (records.validated validated).snoc event
  case attempted => exact attempted
  case proved => exact proved
  case fresh =>
    intro lease held
    rw [sameLease] at held
    exact extended ▸ List.mem_append_left _ (records.fresh lease held)
  case once =>
    intro unresumed other member
    obtain ⟨unresumedYet, apart⟩ := once unresumed
    rw [extended] at member
    rcases List.mem_append.mp member with earlier | now
    · exact records.once unresumedYet other earlier
    · exact apart other (List.mem_singleton.mp now).symm
  case orderly => exact extended ▸ records.orderly.snoc orderly

/-- An event that the flags do not tell of. -/
theorem Records.note (records : Records guarded transaction) (world : S) {event : Event}
    (orderly : Orderly guarded transaction.history event) (retained : event.observation = .unchanged)
    (apart : event ≠ .applyStarted ∧ ∀ other, event ≠ .resumed other true) :
    Records guarded (transaction.note world event) := by
  apply records.snoc (transaction.note world event) event rfl orderly
  case observation =>
    rw [retained]
    rfl
  case kernel => exact records.kernel
  case kept => exact ⟨rfl, rfl, rfl⟩
  case created => exact fun created => (records.created created).snoc event
  case started => exact fun either => either.elim (fun same => absurd same apart.1) id
  case attempted => exact records.attempted
  case proved =>
    intro normal absent
    obtain ⟨proved, seen⟩ := records.proved normal absent
    exact ⟨proved.snoc event, seen⟩
  case once => exact fun unresumed => ⟨unresumed, apart.2⟩

/-- The kernel state of the status and the observation of the transaction move together. -/
theorem Records.kernel_answer (records : Records guarded transaction) (outcome : Outcome)
    (active : projectGuardOutcome transaction.kernelState outcome = .active) :
    StartupGuardTxn.effectiveGuardObservation transaction.txn.observation outcome.observation = .active := by
  rw [projectGuardOutcome] at active
  rw [StartupGuardTxn.effectiveGuardObservation]
  cases seen : outcome.observation with
  | unchanged =>
    rw [seen] at active
    exact records.kernel active
  | active => rfl
  | absent =>
    rw [seen] at active
    contradiction
  | unknown =>
    rw [seen] at active
    contradiction

/-- The flags that no event tells of. -/
theorem Records.world (records : Records guarded transaction) (world : S) :
    Records guarded { transaction with world } := { records with }

theorem Records.unstarted (records : Records guarded transaction)
    (unstarted : transaction.txn.dataplaneMutationStarted = false) : .applyStarted ∉ transaction.history := by
  intro member
  rw [records.started member] at unstarted
  contradiction

section Steps
variable (setup : Setup) (operations : Operations S)

theorem start_records (guarded : Bool) (world : S) :
    Records guarded (start setup operations world) ∧ (start setup operations world).txn.normalCleanup = false ∧
      (start setup operations world).txn.resumed = false ∧
      (start setup operations world).txn.dataplaneMutationStarted = false := by
  rw [start]
  split
  · exact ⟨⟨rfl, nofun, nofun, nofun, nofun, nofun, nofun, nofun, nofun, nofun, .nil⟩, rfl, rfl, rfl⟩
  · generalize operations.observe world = observed
    refine ⟨?_, rfl, rfl, rfl⟩
    constructor
    case observation =>
      dsimp only [StartupGuardTxn.new]
      rw [projectGuardOutcome]
      cases seen : observed.2.observation <;> simp [lastObservation, Event.observation, seen,
        StartupGuardTxn.effectiveGuardObservation, guardObservationFromStatus]
    case kernel =>
      dsimp only [StartupGuardTxn.new]
      intro active
      rw [active]
      rfl
    case initial =>
      dsimp only [StartupGuardTxn.new]
      intro absent
      refine ⟨observed.2, List.mem_singleton.mpr rfl, ?_⟩
      rw [projectGuardOutcome] at absent
      cases seen : observed.2.observation with
      | absent => rfl
      | _ =>
        rw [seen] at absent
        contradiction
    case created => exact nofun
    case started => simp
    case validated => exact nofun
    case attempted => exact nofun
    case proved => exact nofun
    case fresh => exact nofun
    case once => simp
    case orderly => exact Runs.Permitted.nil.snoc trivial

/-- The guard executor's `Apply`, whatever it answers. -/
theorem applyGuard_records (records : Records guarded transaction)
    (uncleaned : transaction.txn.normalCleanup = false) (site : GuardApply) (plan : NftPlan) :
    Records guarded (after (applyGuard operations site plan) transaction) := by
  rw [applyGuard, after_perform]
  generalize operations.applyGuard site plan transaction.world = applied
  apply records.snoc _ (.guardApplied applied.2.1 applied.2.2) rfl trivial rfl
  case kernel => exact records.kernel_answer applied.2.1
  case kept => exact ⟨rfl, rfl, rfl⟩
  case created =>
    intro created
    simp only [StartupGuardTxn.recordApply, Bool.or_eq_true, decide_eq_true_eq] at created
    rcases created with earlier | ⟨active, mutated, absent⟩
    · exact (records.created earlier).snoc _
    · obtain ⟨first, member, seen⟩ := records.initial absent
      exact ⟨transaction.history, first, applied.2.1, applied.2.2, [], rfl, member, seen, active, mutated⟩
  case started => exact fun either => either.elim nofun id
  case attempted => exact records.attempted
  case proved =>
    intro normal _
    exact absurd (uncleaned.symm.trans normal) Bool.false_ne_true
  case once => exact fun unresumed => ⟨unresumed, by simp⟩

/-- A `Cleanup` that is in order. -/
theorem cleaned_records (records : Records guarded transaction) (half : Half) (world : S) (outcome : Outcome)
    (done normal : Bool) (orderly : Orderly guarded transaction.history (.cleaned half outcome done))
    (body : normal = true → half = .body) :
    Records guarded
      { world
        kernelState := projectGuardOutcome transaction.kernelState outcome
        txn := { transaction.txn with normalCleanup := normal }.recordCleanupOutcome outcome
        history := transaction.history ++ [.cleaned half outcome done] } := by
  apply records.snoc _ (.cleaned half outcome done) rfl orderly rfl
  case kernel => exact records.kernel_answer outcome
  case kept => exact ⟨rfl, rfl, rfl⟩
  case created => exact fun created => (records.created created).snoc _
  case started => exact fun either => either.elim nofun id
  case attempted => exact fun _ => rfl
  case proved =>
    intro isNormal proves
    have absent : outcome.observation = .absent := by
      simpa only [StartupGuardTxn.recordCleanupOutcome, decide_eq_true_eq] using proves
    refine ⟨⟨outcome, done, ?_, absent⟩, ?_⟩
    · rw [body isNormal]
      exact List.mem_append_right _ (List.mem_singleton.mpr rfl)
    · simp only [StartupGuardTxn.recordCleanupOutcome, absent, StartupGuardTxn.effectiveGuardObservation]
      rfl
  case once => exact fun unresumed => ⟨unresumed, by simp⟩

/-- A call of `ResumeAfterStartupGuard` that is in order. -/
theorem resume_records (records : Records guarded transaction) (half : Half)
    (orderly : ∀ lease, transaction.txn.lease = some lease → ∀ done,
      Orderly guarded transaction.history (.resumed lease done)) :
    Records guarded (after (resume operations half) transaction) := by
  rw [resume, after_perform]
  cases held : transaction.txn.lease with
  | none => exact records
  | some lease =>
    dsimp only
    cases answer : (operations.resume half lease transaction.world).2 with
    | some cause =>
      dsimp only
      exact records.note _ (orderly lease held false) rfl ⟨by simp, by simp⟩
    | none =>
      dsimp only
      apply records.snoc _ (.resumed lease true) rfl (orderly lease held true)
      case observation => rfl
      case kernel => exact records.kernel
      case kept => exact ⟨rfl, rfl, rfl⟩
      case created => exact fun created => (records.created created).snoc _
      case started => exact fun either => either.elim nofun id
      case attempted => exact records.attempted
      case proved =>
        intro normal absent
        obtain ⟨proved, seen⟩ := records.proved normal absent
        exact ⟨proved.snoc _, seen⟩
      case once => exact nofun

/-- What the failure of a reload undoes is in order. -/
theorem rollbackGuard_records (records : Records guarded transaction) :
    Records guarded (rollbackGuard operations transaction) := by
  rw [rollbackGuard]
  split
  · rename_i rolls
    simp only [StartupGuardTxn.shouldRollbackGuardOnFailure, Bool.decide_and, Bool.and_eq_true,
      decide_eq_true_eq] at rolls
    obtain ⟨unstarted, created, unattempted, _⟩ := rolls
    have uncleaned : transaction.txn.normalCleanup = false := by
      by_contra normal
      rw [records.attempted (Bool.not_eq_false _ ▸ normal)] at unattempted
      contradiction
    have absent := records.unstarted unstarted
    have cleaned := cleaned_records records .deferred (operations.cleanup .deferred transaction.world).1
      (operations.cleanup .deferred transaction.world).2.1 (operations.cleanup .deferred transaction.world).2.2 false
      ⟨fun before after split => absurd (by simp [split]) absent, fun _ => ⟨records.created created, absent⟩⟩ nofun
    rw [← uncleaned] at cleaned
    exact cleaned
  · exact records

theorem resumeAfterFailure_records (records : Records guarded transaction) :
    Records guarded (resumeAfterFailure operations transaction) := by
  rw [resumeAfterFailure]
  split
  · rename_i resumes
    apply resume_records operations records
    intro lease held done
    simp only [StartupGuardTxn.shouldResumeAfterFailure, held] at resumes
    split at resumes
    · contradiction
    rename_i unresumed
    refine ⟨records.once (by simpa using unresumed), ?_⟩
    split at resumes
    · rename_i finished
      obtain ⟨validated, normal, proved⟩ := finished
      obtain ⟨absence, absent⟩ := records.proved normal proved
      exact ⟨records.observation ▸ absent, .inl ⟨records.validated validated, absence⟩⟩
    · simp only [Bool.decide_and, Bool.and_eq_true, decide_eq_true_eq] at resumes
      obtain ⟨acquired, unstarted, absent⟩ := resumes
      exact ⟨records.observation ▸ absent, .inr ⟨records.fresh lease held, acquired, records.unstarted unstarted⟩⟩
  · exact records

end Steps

section Body
variable (setup : Setup) (operations : Operations S)

/-- In front of the cleanup: nothing is cleaned and nothing resumed. -/
structure Guarding (guarded : Bool) (transaction : Transaction S) : Prop where
  records : Records guarded transaction
  uncleaned : transaction.txn.normalCleanup = false
  unresumed : transaction.txn.resumed = false

/-- In front of `loader.Apply`. -/
structure Early (guarded : Bool) (transaction : Transaction S) : Prop extends Guarding guarded transaction where
  unstarted : transaction.txn.dataplaneMutationStarted = false

/-- The guard is active if it is to be applied at all. -/
structure Shielded (guarded : Bool) (transaction : Transaction S) : Prop extends Early guarded transaction where
  active : guarded = true → transaction.kernelState = .active

/-- From the start of `loader.Apply` on, with the successes so far. -/
structure Changing (guarded : Bool) (successes : List Event) (transaction : Transaction S) : Prop
    extends Guarding guarded transaction where
  succeeded : ∀ event ∈ successes, event ∈ transaction.history

theorem Guarding.world (guarding : Guarding guarded transaction) (world : S) :
    Guarding guarded { transaction with world } :=
  ⟨guarding.records.world world, guarding.uncleaned, guarding.unresumed⟩

theorem Early.world (early : Early guarded transaction) (world : S) : Early guarded { transaction with world } :=
  ⟨early.toGuarding.world world, early.unstarted⟩

theorem Shielded.world (shielded : Shielded guarded transaction) (world : S) :
    Shielded guarded { transaction with world } :=
  ⟨shielded.toEarly.world world, shielded.active⟩

theorem Changing.world {successes : List Event} (changing : Changing guarded successes transaction) (world : S) :
    Changing guarded successes { transaction with world } :=
  ⟨changing.toGuarding.world world, changing.succeeded⟩

/-- A phase of the body that operations without an event do not leave. -/
structure Phase (guarded : Bool) (P : Transaction S → Prop) : Prop where
  records : ∀ transaction, P transaction → Records guarded transaction
  world : ∀ transaction world, P transaction → P { transaction with world }

theorem early_phase : Phase guarded (Early (S := S) guarded) :=
  ⟨fun _ early => early.records, fun _ world early => early.world world⟩

theorem shielded_phase : Phase guarded (Shielded (S := S) guarded) :=
  ⟨fun _ shielded => shielded.records, fun _ world shielded => shielded.world world⟩

theorem changing_phase (successes : List Event) : Phase guarded (Changing (S := S) guarded successes) :=
  ⟨fun _ changing => changing.records, fun _ world changing => changing.world world⟩

namespace Phase
variable {P : Transaction S → Prop} (phase : Phase guarded P)
include phase

theorem demand (failing : Option ReloadError) :
    Ensures P (demand failing : Step S Unit) (fun _ => P) (Records guarded) :=
  .perform (fun _ holds _ => holds) phase.records

theorem check (failing : Bool) (cause : ReloadError) :
    Ensures P (check failing cause : Step S Unit) (fun _ => P) (Records guarded) :=
  .check phase.records fun _ _ holds => holds

theorem preflightNoNft (again : Bool) :
    Ensures P (preflightNoNft setup operations again) (fun _ => P) (Records guarded) := by
  apply Ensures.perform
  · intro transaction holds _
    split
    · exact phase.world _ _ holds
    · exact holds
  · intro transaction holds
    split
    · exact (phase.records _ holds).world _
    · exact phase.records _ holds

theorem build (operation : S → S × Option State) (cause : ReloadError) :
    Ensures P (build operation cause) (fun _ => P) (Records guarded) :=
  .obtained (fun _ _ holds _ => phase.world _ _ holds) (fun _ holds => (phase.records _ holds).world _)

theorem observedFwmarks : Ensures P (observedFwmarks setup operations) (fun _ => P) (Records guarded) :=
  .obtained (fun _ _ holds _ => phase.world _ _ holds) (fun _ holds => (phase.records _ holds).world _)

theorem detachPrevious (state : State) :
    Ensures P (detachPrevious setup operations state) (fun _ => P) (Records guarded) := by
  have loaded : Ensures P (loadAttachState operations) (fun _ => P) (Records guarded) :=
    .obtained (fun _ _ holds _ => phase.world _ _ holds) (fun _ holds => (phase.records _ holds).world _)
  refine .bind loaded fun previous => ?_
  cases previous with
  | missing => exact .pure fun _ holds => holds
  | failed => exact .throw phase.records
  | loaded =>
    dsimp only
    split
    · exact .perform (fun _ holds _ => phase.world _ _ holds) (fun _ holds => (phase.records _ holds).world _)
    · exact .pure fun _ holds => holds

end Phase

theorem prepare_ensures :
    Ensures (Early guarded) (prepare setup operations) (fun _ => Early guarded) (Records guarded) := by
  refine .bind (early_phase.preflightNoNft setup operations false) fun _ => ?_
  refine .bind (early_phase.build _ _) fun guardState => ?_
  refine .bind (early_phase.demand _) fun _ => ?_
  refine .bind (early_phase.check _ _) fun _ => ?_
  refine .bind (early_phase.check _ _) fun _ => ?_
  exact .pure fun _ early => early

theorem quiesce_early (early : Early guarded transaction) :
    Early guarded (after (quiesce setup operations) transaction) := by
  have noted (world : S) (lease : Lease) : Early guarded (transaction.note world (.quiesced lease)) :=
    ⟨⟨early.records.note world trivial rfl ⟨by simp, by simp⟩, early.uncleaned, early.unresumed⟩, early.unstarted⟩
  rw [quiesce, after_perform]
  dsimp only
  split
  · split
    · exact early.world _
    split
    · exact noted _ _
    · rename_i lease _ _
      have recorded := noted (operations.quiesce transaction.world).1 lease
      have records := recorded.records
      refine ⟨⟨{ records with fresh := ?_ }, recorded.uncleaned, recorded.unresumed⟩, recorded.unstarted⟩
      intro held same
      cases same
      exact List.mem_append_right _ (List.mem_singleton.mpr rfl)
  · exact early

theorem quiesce_ensures :
    Ensures (Early guarded) (quiesce setup operations) (fun _ => Early guarded) (Records guarded) := by
  have kept {transaction : Transaction S} (early : Early guarded transaction) := quiesce_early setup operations early
  simp only [quiesce, after_perform] at kept
  exact .perform (fun _ early _ => kept early) fun _ early => (kept early).records

theorem applyGuard_ensures (site : GuardApply) (plan : NftPlan) :
    Ensures (Early guarded) (applyGuard operations site plan) (fun _ => Shielded guarded) (Records guarded) := by
  have applied {transaction : Transaction S} (early : Early guarded transaction) :=
    applyGuard_records operations early.records early.uncleaned site plan
  simp only [applyGuard, after_perform] at applied
  apply Ensures.perform
  · intro transaction early passes
    refine ⟨⟨⟨applied early, early.uncleaned, early.unresumed⟩, early.unstarted⟩, fun _ => ?_⟩
    dsimp only at passes ⊢
    split at passes
    · contradiction
    split at passes
    · contradiction
    · rename_i active
      exact Decidable.not_not.mp active
  · exact fun _ early => applied early

theorem expandGuard_ensures (site : GuardApply) (active : Option NftPlan) (plan : NftPlan) :
    Ensures (Shielded guarded) (expandGuard operations site active plan) (fun _ => Shielded guarded)
      (Records guarded) := by
  cases active with
  | none => exact .pure fun _ shielded => shielded
  | some active =>
    simp only [expandGuard]
    split
    · exact .pure fun _ shielded => shielded
    · exact .weaken (fun _ shielded => shielded.toEarly) (applyGuard_ensures operations site plan)

theorem startGuard_ensures (guardState : State) :
    Ensures (Early guarded) (startGuard setup operations guardState) (fun _ => Shielded guarded)
      (Records guarded) := by
  refine .bind (quiesce_ensures setup operations) fun _ => ?_
  refine .bind (applyGuard_ensures operations .initial _) fun _ => ?_
  split
  · exact .pure fun _ shielded => shielded
  · refine .bind (shielded_phase.observedFwmarks setup operations) fun marks => ?_
    refine .bind (expandGuard_ensures operations .observed _ _) fun _ => ?_
    exact .pure fun _ shielded => shielded

theorem beforeApply_ensures (active : Option NftPlan) :
    Ensures (Shielded guarded) (beforeApply setup operations active) (fun _ => Shielded guarded)
      (Records guarded) := by
  refine .bind (shielded_phase.build _ _) fun state => ?_
  refine .bind (shielded_phase.demand _) fun _ => ?_
  refine .bind (expandGuard_ensures operations .runtime active _) fun _ => ?_
  refine .bind (shielded_phase.preflightNoNft setup operations true) fun _ => ?_
  exact .pure fun _ shielded => shielded

theorem startApply_ensures :
    Ensures (Shielded guarded) (startApply : Step S Unit) (fun _ => Changing guarded [.applyStarted]) (Records guarded) := by
  have started {transaction : Transaction S} (shielded : Shielded guarded transaction) :
      Records guarded { transaction.note transaction.world .applyStarted with
        txn := { transaction.txn with dataplaneMutationStarted := true } } := by
    have active (guards : guarded = true) : lastObservation transaction.history = .active :=
      shielded.records.observation ▸ shielded.records.kernel (shielded.active guards)
    apply shielded.records.snoc _ .applyStarted rfl ⟨shielded.records.unstarted shielded.unstarted, active⟩
    case observation => rfl
    case kernel => exact shielded.records.kernel
    case kept => exact ⟨rfl, rfl, rfl⟩
    case created => exact fun created => (shielded.records.created created).snoc _
    case started => exact fun _ => rfl
    case attempted => exact shielded.records.attempted
    case proved => exact fun normal _ => absurd (shielded.uncleaned.symm.trans normal) Bool.false_ne_true
    case once => exact fun unresumed => ⟨unresumed, by simp⟩
  apply Ensures.perform
  · exact fun _ shielded _ => ⟨⟨started shielded, shielded.uncleaned, shielded.unresumed⟩, by simp [note]⟩
  · exact fun _ shielded => started shielded

/-- An operation of the dataplane change whose success is an event. -/
theorem noted_ensures (successes : List Event) (event : Bool → Event) (act : S → S) (done : S → Bool)
    (failing : S → Option ReloadError) (tells : ∀ world, failing world = none → done world = true)
    (orderly : ∀ success earlier, (∀ event ∈ successes, event ∈ earlier) → Orderly guarded earlier (event success))
    (quiet : ∀ success, (event success).observation = .unchanged ∧ event success ≠ .applyStarted ∧
      ∀ other, event success ≠ .resumed other true) :
    Ensures (Changing guarded successes)
      (perform fun transaction =>
        (transaction.note (act transaction.world) (event (done transaction.world)), failing transaction.world))
      (fun _ => Changing guarded (event true :: successes)) (Records guarded) := by
  have noted {transaction : Transaction S} (changing : Changing guarded successes transaction) (world : S)
      (success : Bool) : Records guarded (transaction.note world (event success)) :=
    changing.records.note world (orderly success _ changing.succeeded) (quiet success).1 (quiet success).2
  apply Ensures.perform
  · intro transaction changing passes
    refine ⟨⟨noted changing _ _, changing.uncleaned, changing.unresumed⟩, ?_⟩
    rw [tells _ passes]
    intro success member
    rcases List.mem_cons.mp member with rfl | earlier
    · exact List.mem_append_right _ (List.mem_singleton.mpr rfl)
    · exact List.mem_append_left _ (changing.succeeded success earlier)
  · exact fun _ changing => noted changing _ _

/-- The dataplane was validated, and the cleanup has not begun. -/
structure Settled (guarded : Bool) (transaction : Transaction S) : Prop extends Guarding guarded transaction where
  validated : transaction.txn.dataplaneValidated = true

theorem changeDataplane_ensures (state : State) :
    Ensures (Shielded guarded) (changeDataplane setup operations state) (fun _ => Settled guarded)
      (Records guarded) := by
  refine .bind startApply_ensures fun _ => ?_
  refine .bind (noted_ensures _ .applied (fun world => (operations.loaderApply state world).1)
    (fun world => (operations.loaderApply state world).2.isNone)
    (fun world => (operations.loaderApply state world).2.map .loader)
    (fun _ passes => Option.isNone_iff_eq_none.mpr (Option.map_eq_none_iff.mp passes)) (fun _ _ _ => trivial)
    fun _ => ⟨rfl, by simp, by simp⟩) fun _ => ?_
  refine .bind (noted_ensures _ .healthChecked (fun world => (operations.productionStatus state world).1)
    (fun world => (operations.productionStatus state world).2)
    (fun world => if (operations.productionStatus state world).2 then none else some .health)
    (fun _ passes => by simpa using passes) (fun _ _ _ => trivial) fun _ => ⟨rfl, by simp, by simp⟩) fun _ => ?_
  refine .bind ((changing_phase _).detachPrevious setup operations state) fun _ => ?_
  refine .bind (noted_ensures _ .attachStateSaved (fun world => (operations.saveAttachState state world).1)
    (fun world => (operations.saveAttachState state world).2)
    (fun world => if (operations.saveAttachState state world).2 then none else some .attachState)
    (fun _ passes => by simpa using passes) (fun _ _ succeeded => succeeded _ (by simp)) fun _ =>
      ⟨rfl, by simp, by simp⟩) fun _ => ?_
  have validated {transaction : Transaction S}
      (changing : Changing guarded [.attachStateSaved true, .healthChecked true, .applied true, .applyStarted]
        transaction) :
      Records guarded { transaction with txn := { transaction.txn with dataplaneValidated := true } } := by
    have succeeded : Validated transaction.history :=
      ⟨changing.succeeded _ (by simp), changing.succeeded _ (by simp), changing.succeeded _ (by simp)⟩
    exact { changing.records with validated := fun _ => succeeded }
  apply Ensures.perform
  · exact fun _ changing _ => ⟨⟨validated changing, changing.uncleaned, changing.unresumed⟩, rfl⟩
  · exact fun _ changing => validated changing

/-- The validated dataplane has lost its guard. -/
structure Released (guarded : Bool) (transaction : Transaction S) : Prop where
  records : Records guarded transaction
  unresumed : transaction.txn.resumed = false
  validated : transaction.txn.dataplaneValidated = true
  normal : transaction.txn.normalCleanup = true
  proved : transaction.txn.cleanupProvedAbsent = true

theorem cleanupGuard_ensures :
    Ensures (Settled guarded) (cleanupGuard operations) (fun _ => Released guarded) (Records guarded) := by
  have cleaned {transaction : Transaction S} (settled : Settled guarded transaction) (world : S) (outcome : Outcome)
      (done : Bool) := cleaned_records settled.records .body world outcome done true
    ⟨fun _ _ => saved_after_start settled.records.orderly (settled.records.validated settled.validated).saved, nofun⟩
    (fun _ => rfl)
  apply Ensures.perform
  · intro transaction settled passes
    refine ⟨cleaned settled _ _ _, settled.unresumed, settled.validated, rfl, ?_⟩
    dsimp only at passes ⊢
    split at passes
    · contradiction
    split at passes
    · contradiction
    · rename_i proved
      simpa using proved
  · exact fun _ settled => cleaned settled _ _ _

theorem resume_ensures :
    Ensures (Released guarded) (resume operations .body) (fun _ => Records guarded) (Records guarded) := by
  apply Ensures.of_after
  intro transaction released
  obtain ⟨absence, absent⟩ := released.records.proved released.normal released.proved
  apply resume_records operations released.records
  intro lease _ _
  exact ⟨released.records.once released.unresumed, released.records.observation ▸ absent,
    .inl ⟨released.records.validated released.validated, absence⟩⟩

theorem reloadBody_ensures :
    Ensures (Early (shouldApplyStartupGuard setup.config)) (reloadBody setup operations)
      (fun _ => Records (shouldApplyStartupGuard setup.config))
      (Records (shouldApplyStartupGuard setup.config)) := by
  refine .bind (prepare_ensures setup operations) fun guardState => ?_
  have applied (active : Option NftPlan) : Ensures (Shielded (shouldApplyStartupGuard setup.config))
      (applyDataplane setup operations active) (fun _ => Settled (shouldApplyStartupGuard setup.config))
      (Records (shouldApplyStartupGuard setup.config)) :=
    .bind (beforeApply_ensures setup operations active) fun state => changeDataplane_ensures setup operations state
  split
  · refine .bind (startGuard_ensures setup operations guardState) fun active => ?_
    refine .bind (applied (some active)) fun _ => ?_
    refine .bind (cleanupGuard_ensures operations) fun _ => ?_
    exact resume_ensures operations
  · rename_i unguarded
    refine .weaken ?_ ((applied none).relax fun _ _ settled => settled.records)
    exact fun _ early => ⟨early, fun guarded => absurd guarded unguarded⟩

end Body

/-- Over any operations, with any answers, every call of a reload is in order. -/
theorem startup_guard_order (setup : Setup) (operations : Operations S) (world : S) :
    Runs.Permitted (Orderly (shouldApplyStartupGuard setup.config))
      (reloadUnlocked setup operations world).1.history := by
  obtain ⟨records, uncleaned, unresumed, unstarted⟩ :=
    start_records setup operations (shouldApplyStartupGuard setup.config) world
  have ran := reloadBody_ensures setup operations _ ⟨⟨records, uncleaned, unresumed⟩, unstarted⟩
  rw [reloadUnlocked]
  cases ended : reloadBody setup operations (start setup operations world) with
  | ok _ transaction =>
    rw [ended] at ran
    exact ran.orderly
  | error cause transaction =>
    rw [ended] at ran
    exact (resumeAfterFailure_records operations (rollbackGuard_records operations ran)).orderly

section Example

def outcomeOf : Event → Option Outcome
  | .observed outcome | .guardApplied outcome _ | .cleaned _ outcome _ => some outcome
  | _ => none

def lastOutcome (history : List Event) : Option Outcome := (history.filterMap outcomeOf).getLast?

def guardedSetup : Setup where
  config :=
    { mode := .nftTemporaryDrop
      startupFailMode := .failClosedForManagedFlows
      wireGuards := [⟨"wg0", .udp⟩]
      fakeTcpFailsClosed := by simp }
  pausable := false

def guardedState : State where
  wireGuards := [{ name := "wg0", transportMode := .udp, configFwMark := 51820 }]
  underlays := []
  egressRules := []
  ingressListeners := []

/-- The guard is still active from an earlier reload, and the executor has nothing to change. -/
def retainingOperations : Operations Unit where
  observe world := (world, ⟨.active, false, false⟩)
  preflight _ world := (world, true)
  buildGuardState world := (world, some guardedState)
  activation _ := true
  quiesce world := (world, .error .context)
  applyGuard _ _ world := (world, ⟨.unchanged, false, false⟩, true)
  devices world := (world, fun _ => none)
  buildState world := (world, some guardedState)
  loaderApply _ world := (world, none)
  productionStatus _ world := (world, true)
  loadAttachState world := (world, .missing)
  detachStale _ world := (world, none)
  saveAttachState _ world := (world, true)
  cleanup _ world := (world, ⟨.absent, true, false⟩, true)
  resume _ _ world := (world, none)

/-- `loader.Apply` then starts under an outcome that is not active, only retained as such. -/
theorem retained_outcome_starts_apply :
    shouldApplyStartupGuard guardedSetup.config = true ∧
      ∃ earlier later, (reloadUnlocked guardedSetup retainingOperations ()).1.history =
          earlier ++ .applyStarted :: later ∧
        lastOutcome earlier = some ⟨.unchanged, false, false⟩ :=
  ⟨rfl, [.observed ⟨.active, false, false⟩, .guardApplied ⟨.unchanged, false, false⟩ true],
    [.applied true, .healthChecked true, .attachStateSaved true, .cleaned .body ⟨.absent, true, false⟩ true],
    by decide +kernel, rfl⟩

end Example
end Transaction
end WgMix.Reconcile
