import WgMix.Dataplane.Coordinator
import WgMix.Dataplane.SupervisorMoves

/-! The startup-guard barrier across the coordinator's calls: only quiescing closes it
and only resuming opens it; replacing or stopping a runtime leaves it as it is. -/
namespace WgMix.Dataplane
open Control

namespace Supervisor
variable {supervisor : Supervisor}

/-- A successful resume leaves the barrier open. -/
theorem resume_opens {step : Step Unit} {lease : Lease}
    (resumes : supervisor.resumeAfterStartupGuard ctx instant lease resumed = step)
    (done : step.result = .ok ()) : step.supervisor.pause = .opened := by
  unfold resumeAfterStartupGuard at resumes
  split at resumes
  case isTrue opened =>
    split at resumes <;> (subst resumes; exact opened)
  case isFalse closed =>
    split at resumes
    · subst resumes
      contradiction
    split at resumes
    · subst resumes
      contradiction
    split at resumes
    · subst resumes
      contradiction
    dsimp only at resumes
    split at resumes
    · subst resumes
      rfl
    split at resumes
    · subst resumes
      contradiction
    · subst resumes
      rfl

end Supervisor

namespace Coordinator
variable {σ : Type} {coordinator : Coordinator σ}

/-- The barrier's phase, as seen through the coordinator. -/
def pause (coordinator : Coordinator σ) : PausePhase := coordinator.supervisor.pause

theorem stopForBaseline_pause (coordinator : Coordinator σ) (env : CallEnv σ) :
    (coordinator.stopForBaseline env).1.pause = coordinator.pause := by
  have stopped := (coordinator.supervisor.stop_keeps env.ctx 2 env.retirement).barrier.pause
  unfold stopForBaseline
  dsimp only
  split
  · exact stopped
  split
  · exact stopped
  split <;> exact stopped

theorem applyBaseline_pause (coordinator : Coordinator σ) (env : CallEnv σ) :
    (coordinator.applyBaseline env).1.pause = coordinator.pause := by
  have stopped := coordinator.stopForBaseline_pause env
  unfold applyBaseline
  split
  all_goals
    rename_i same
    rwa [same] at stopped

theorem rollbackPlan_pause (coordinator : Coordinator σ) (plan : Plan) :
    (coordinator.rollbackPlan plan).pause = coordinator.pause := by
  unfold rollbackPlan
  split <;> rfl

theorem detachForExperimental_pause (coordinator : Coordinator σ) (env : CallEnv σ) :
    (coordinator.detachForExperimental env).1.pause = coordinator.pause := by
  simp only [detachForExperimental]
  split
  · rfl
  split
  · rfl
  split <;> rfl

theorem applyExperimental_pause (coordinator : Coordinator σ) (env : CallEnv σ) :
    (coordinator.applyExperimental env).1.pause = coordinator.pause := by
  unfold applyExperimental
  split
  · rfl
  split
  · exact coordinator.rollbackPlan_pause _
  split
  · exact coordinator.rollbackPlan_pause _
  split
  · exact coordinator.rollbackPlan_pause _
  have detached := coordinator.detachForExperimental_pause env
  split
  · rename_i same
    rw [same] at detached
    exact (rollbackPlan_pause _ _).trans detached
  · rename_i plan _ _ _ _ _ left same
    rw [same] at detached
    dsimp only
    split
    · exact (rollbackPlan_pause _ _).trans detached
    · have ensured := (left.supervisor.ensure_keeps env.ctx 4 plan.key plan.build env.ensure).barrier.pause
      split
      · exact ensured.trans detached
      · exact (rollbackPlan_pause _ _).trans (ensured.trans detached)

variable [DecidableEq σ]

theorem bindScope_pause {bound : Coordinator σ} (binds : coordinator.bindScope resolved = .ok bound) :
    bound.pause = coordinator.pause := by
  unfold bindScope at binds
  split at binds
  · contradiction
  split at binds
  · split at binds
    · contradiction
    · cases binds
      rfl
  · split at binds
    · contradiction
    · cases binds
      rfl

/-- Applying a state leaves the barrier as it is, also when it fails. -/
theorem apply_pause (coordinator : Coordinator σ) (state : State) (env : CallEnv σ) :
    (coordinator.apply state env).1.pause = coordinator.pause := by
  unfold apply
  split
  · rfl
  split
  · rfl
  split
  · rfl
  split
  · rfl
  split
  · rfl
  · rename_i bound binds
    have same := bindScope_pause binds
    split
    · exact (bound.applyExperimental_pause env).trans same
    · exact (bound.applyBaseline_pause env).trans same

theorem detachStale_pause (coordinator : Coordinator σ) (current : State) (env : CallEnv σ) :
    (coordinator.detachStale current env).1.pause = coordinator.pause := by
  unfold detachStale
  split
  · rfl
  split
  · rfl
  split
  · rfl
  split
  · rfl
  split
  · rfl
  · rename_i bound binds
    have same := bindScope_pause binds
    split
    · exact same
    · have stopped := bound.stopForBaseline_pause env
      split
      all_goals
        rename_i left
        rw [left] at stopped
        exact stopped.trans same

end Coordinator
end WgMix.Dataplane
