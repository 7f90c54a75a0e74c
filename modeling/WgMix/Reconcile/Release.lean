import WgMix.Dataplane.Barrier
import WgMix.Foundation.Runs
import WgMix.Guard.Ownership
import WgMix.Reconcile.Reload

/-! When a successful reload leaves neither the guard table nor the barrier behind. A
reload that applies the guard takes down whatever an earlier one left; one that does
not apply it takes down nothing. -/
namespace WgMix.Reconcile
open Control Dataplane Guard Effects

variable {σ : Type} {start left : Transaction (Process σ)}

/-- The owned table is absent and the resident runtime is not held. -/
def Process.Released (process : Process σ) : Prop :=
  process.guard.OwnedTableAbsent ∧ process.coordinator.pause = .opened

namespace Transaction

/-- The lease is kept and, unless the guard is in use, neither guard nor barrier moved. -/
structure Steady (guarded : Bool) (start left : Transaction (Process σ)) : Prop where
  lease : left.txn.lease = start.txn.lease
  guard : guarded = false → left.world.guard = start.world.guard
  pause : guarded = false → left.world.coordinator.pause = start.world.coordinator.pause

section Returns
variable {guarded : Bool}

theorem demand_steady (failing : Option ReloadError) : Keeps (Steady guarded start) (demand failing) :=
  .perform fun _ steady => steady

theorem build_steady (state : Option State) (cause : ReloadError) :
    Keeps (Steady guarded start) (build (fun process => (process, state)) cause) :=
  .obtained fun _ steady => { steady with }

variable [DecidableEq σ] (call : Call σ)

theorem observedFwmarks_steady : Keeps (Steady guarded start) (observedFwmarks call.setup call.operations) :=
  .obtained fun _ steady => { steady with }

theorem preflightNoNft_steady (again : Bool) :
    Keeps (Steady guarded start) (preflightNoNft call.setup call.operations again) := by
  refine .perform fun transaction steady => ?_
  split
  · exact { steady with }
  · exact steady

theorem applyGuard_steady (site : GuardApply) (plan : NftPlan) :
    Keeps (Steady true start) (applyGuard call.operations site plan) :=
  .perform fun _ steady => ⟨steady.lease, nofun, nofun⟩

theorem expandGuard_steady (site : GuardApply) (active : Option NftPlan) (plan : NftPlan) :
    Keeps (Steady active.isSome start) (expandGuard call.operations site active plan) := by
  cases active with
  | none => exact .pure ()
  | some active =>
    rw [expandGuard]
    split
    · exact .pure ()
    · exact applyGuard_steady call site plan

theorem loaderApply_steady (state : State) : Keeps (Steady guarded start) (loaderApply call.operations state) :=
  .perform fun _ steady => { steady with pause := fun plain => (Coordinator.apply_pause ..).trans (steady.pause plain) }

theorem detachPrevious_steady (state : State) :
    Keeps (Steady guarded start) (detachPrevious call.setup call.operations state) := by
  refine .bind (.obtained fun _ steady => { steady with }) fun previous => ?_
  cases previous with
  | missing => exact .pure ()
  | failed => exact .throw _
  | loaded =>
    exact .perform fun _ steady =>
      { steady with pause := fun plain => (Coordinator.detachStale_pause ..).trans (steady.pause plain) }

theorem prepare_steady : Keeps (Steady guarded start) (prepare call.setup call.operations) :=
  .bind (preflightNoNft_steady call false) fun _ => .bind (build_steady _ _) fun guardState =>
    .bind (demand_steady _) fun _ => .bind (.check _ _) fun _ => .bind (.check _ _) fun _ => .pure guardState

/-- The dataplane half of a reload moves the guard only to expand an active one. -/
theorem applyDataplane_steady (active : Option NftPlan) :
    Keeps (Steady active.isSome start) (applyDataplane call.setup call.operations active) := by
  refine .bind ?_ fun state => ?_
  · exact .bind (build_steady _ _) fun state => .bind (demand_steady _) fun _ =>
      .bind (expandGuard_steady call _ _ _) fun _ => .bind (preflightNoNft_steady call true) fun _ => .pure state
  · exact .bind (.perform fun _ steady => { steady with }) fun _ => .bind (loaderApply_steady call state) fun _ =>
      .bind (.perform fun _ steady => { steady with }) fun _ => .bind (detachPrevious_steady call state) fun _ =>
        .bind (.perform fun _ steady => { steady with }) fun _ => .perform fun _ steady => { steady with }

theorem quiesce_ok (done : quiesce call.setup call.operations start = .ok () left) :
    ∃ lease, left.txn.lease = some lease := by
  have ran := perform_ok done
  rw [if_pos (show call.setup.pausable = true from rfl)] at ran
  dsimp only at ran
  split at ran
  · cases (Prod.ext_iff.mp ran).2
  split at ran
  · cases (Prod.ext_iff.mp ran).2
  · cases ran
    exact ⟨_, rfl⟩

theorem startGuard_ok (done : startGuard call.setup call.operations guardState start = .ok active left) :
    ∃ lease, left.txn.lease = some lease := by
  obtain ⟨_, quiesced, quiesces, done⟩ := seq_ok done
  obtain ⟨lease, recorded⟩ := quiesce_ok call quiesces
  refine ⟨lease, (Keeps.ok (P := Steady true quiesced) ?_ ⟨rfl, nofun, nofun⟩ done).lease.trans recorded⟩
  refine .bind (applyGuard_steady call _ _) fun _ => ?_
  split
  · exact .pure _
  · exact .bind (observedFwmarks_steady call) fun _ => .bind (expandGuard_steady call _ (some _) _) fun _ => .pure _

theorem cleanupGuard_ok (done : cleanupGuard call.operations start = .ok () left) :
    left.world.guard.projectTables = [] ∧ left.txn.lease = start.txn.lease := by
  obtain ⟨rfl, passes⟩ := Prod.ext_iff.mp (perform_ok done)
  refine ⟨Host.cleanup_absent rfl ?_, rfl⟩
  dsimp only at passes
  split at passes
  · contradiction
  split at passes
  · contradiction
  · rename_i proved
    exact of_decide_eq_true (Bool.eq_true_of_not_eq_false proved)

theorem resume_ok {lease : Lease} (quiesced : start.txn.lease = some lease)
    (done : resume call.operations .body start = .ok () left) :
    left.world.guard = start.world.guard ∧ left.world.coordinator.pause = .opened := by
  have ran := perform_ok done
  rw [quiesced] at ran
  dsimp only at ran
  split at ran
  · cases (Prod.ext_iff.mp ran).2
  · rename_i resumed
    cases ran
    exact ⟨rfl, Supervisor.resume_opens rfl (Call.failed_none resumed)⟩

/-- A reload that returns has taken the guard and the barrier down, if it applied them,
and has not moved them otherwise. -/
theorem reloadBody_ok (done : reloadBody call.setup call.operations start = .ok () left) :
    if shouldApplyStartupGuard call.config then
      left.world.guard.projectTables = [] ∧ left.world.coordinator.pause = .opened
    else Steady false start left := by
  obtain ⟨guardState, prepared, prepares, done⟩ := seq_ok done
  split at done
  · obtain ⟨active, guarded, starts, done⟩ := seq_ok done
    obtain ⟨lease, recorded⟩ := startGuard_ok call starts
    obtain ⟨_, applied, applies, done⟩ := seq_ok done
    obtain ⟨_, cleaned, cleans, resumes⟩ := seq_ok done
    obtain ⟨empty, kept⟩ := cleanupGuard_ok call cleans
    have steady : Steady true guarded applied :=
      (applyDataplane_steady call (some active)).ok ⟨rfl, nofun, nofun⟩ applies
    have quiesced : cleaned.txn.lease = some lease := by rw [kept, steady.lease, recorded]
    obtain ⟨guard, opened⟩ := resume_ok call quiesced resumes
    rw [if_pos ‹_›]
    exact ⟨guard ▸ empty, opened⟩
  · rw [if_neg ‹_›]
    have steady := (prepare_steady call).ok (⟨rfl, fun _ => rfl, fun _ => rfl⟩ : Steady false start start) prepares
    exact (applyDataplane_steady call none).ok steady done

theorem start_world (process : Process σ) : (Transaction.start call.setup call.operations process).world = process := by
  rw [Transaction.start]
  split <;> rfl

end Returns
end Transaction

section Runs
variable [DecidableEq σ]

/-- The process after a sequence of reloads, each with its own configuration. -/
def reloads (process : Process σ) (calls : List (Call σ)) : Process σ :=
  Runs.run (fun process call => (reloadUnlocked process call).1) process calls

/-- After any sequence of reloads, one that returns leaves nothing held exactly when
its own configuration applies the guard or nothing was held when it began. -/
theorem successful_reload_releases_iff (process : Process σ) (calls : List (Call σ)) (call : Call σ)
    (returned : (reloadUnlocked (reloads process calls) call).2 = none) :
    (reloadUnlocked (reloads process calls) call).1.Released ↔
      shouldApplyStartupGuard call.config ∨ (reloads process calls).Released := by
  have began := Transaction.start_world call (reloads process calls)
  unfold reloadUnlocked Transaction.reloadUnlocked at returned ⊢
  split at returned
  · rename_i left ran
    have ended := Transaction.reloadBody_ok call ran
    split at ended
    · rename_i guarded
      exact iff_of_true ⟨.of_empty ended.1, ended.2⟩ (.inl guarded)
    · rename_i unguarded
      have same : left.world.Released ↔ (reloads process calls).Released := by
        rw [Process.Released, ended.guard rfl, ended.pause rfl, began, Process.Released]
      simp only [same, unguarded, Bool.false_eq_true, false_or]
  · contradiction

end Runs

section Example

def operatorConfig (startupFailMode : StartupFailMode) : Config where
  mode := .nftTemporaryDrop
  startupFailMode := startupFailMode
  wireGuards := [⟨"wg0", .udp⟩]
  fakeTcpFailsClosed := by simp

def operatorState : State where
  wireGuards := [{ name := "wg0", transportMode := .udp, configFwMark := 51820 }]
  underlays := [⟨"wan", .ethernet, 2, .transform, true⟩]
  egressRules := []
  ingressListeners := []

/-- Every operation succeeds but, if asked, the baseline loader. -/
def operatorEnv (baseline : Bool) : CallEnv Unit where
  ctx := ⟨none⟩
  activation := true
  scope := some ()
  recoverClassic := true
  baseline := baseline
  plan := none
  retirement := ⟨true, .returned (some .canceled), true⟩
  ensure := ⟨true, ⟨true, .returned (some .canceled), true⟩, true⟩

def operatorCall (startupFailMode : StartupFailMode) (baseline : Bool) : Call Unit where
  config := operatorConfig startupFailMode
  guardState := some operatorState
  state := some operatorState
  firstApply := { publication := .fresh (List.replicate 64 'a') }
  apply := operatorEnv baseline
  detachStale := operatorEnv true

def guardedFailure : Call Unit := operatorCall .failClosedForManagedFlows false

/-- The retry under the guarded configuration releases what the failure held. -/
theorem guarded_retry_releases :
    ¬(reloads {} [guardedFailure]).Released ∧
      (reloadUnlocked (reloads {} [guardedFailure]) (operatorCall .failClosedForManagedFlows true)).1.Released := by
  constructor
  · rintro ⟨_, opened⟩
    revert opened
    decide +kernel
  · exact (successful_reload_releases_iff {} [guardedFailure] _ (by decide +kernel)).mpr (.inl rfl)

/-- A guarded reload fails in the loader and keeps guard and barrier. The operator then
chooses best effort: the next reload returns, with the table still dropping the managed
traffic and the runtime still held. -/
theorem best_effort_reload_keeps_guard :
    let reloaded := reloadUnlocked (reloads {} [guardedFailure]) (operatorCall .bestEffort true)
    reloaded.2 = none ∧ ¬reloaded.1.guard.OwnedTableAbsent ∧ reloaded.1.coordinator.pause = .held := by
  refine ⟨by decide +kernel, fun absent => ?_, by decide +kernel⟩
  exact absent ⟨List.replicate 64 'a'⟩ (by decide +kernel) (by decide +kernel)

end Example
end WgMix.Reconcile
