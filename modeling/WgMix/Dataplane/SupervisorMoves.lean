import Mathlib.Logic.Relation
import WgMix.Dataplane.Supervisor

/-! What the supervisor's calls are made of. Apart from quiescing and resuming, every call is a sequence of
moves of the one entry that is owned, and leaves the startup-guard barrier as it is. -/
namespace WgMix.Dataplane
open Relation

/-- The entry that is owned, the number of the next runtime, and what has left the supervisor so far. -/
structure Owner where
  current : Option Supervised
  next : Nat
  events : List RuntimeEvent

inductive Move (pause : PausePhase) : Owner → Owner → Prop where
  | asked (answer : Bool) : Move pause ⟨some entry, next, events⟩ ⟨some (entry.requestStop answer).1, next, events⟩
  | returned (err : Option RunError) (running : entry.finished = false)
      (due : entry.stopRequested = true ∨ entry.runStarted = true) :
      Move pause ⟨some entry, next, events⟩ ⟨some (entry.finish err), next, events ++ [.returned entry.runtime]⟩
  | closed (closed : Bool) (finished : entry.finished = true) : Move pause ⟨some entry, next, events⟩
      ⟨if closed then none else some entry, next, events ++ [.close entry.runtime closed]⟩
  | builtNothing : Move pause ⟨none, next, events⟩ ⟨none, next, events ++ [.build none]⟩
  | built (numbered : entry.runtime = next) (unstarted : entry.runStarted = false)
      (idle : entry.stopRequested = true → entry.finished = true) :
      Move pause ⟨none, next, events⟩ ⟨some entry, next + 1, events ++ [.build (some next)]⟩
  | started (idle : entry.runStarted = false) (live : entry.finished = false) (kept : entry.stopRequested = false)
      (opened : pause = .opened) : Move pause ⟨some entry, next, events⟩
        ⟨some { entry with runStarted := true }, next, events ++ [.run entry.runtime]⟩

abbrev Moves (pause : PausePhase) : Owner → Owner → Prop := ReflTransGen (Move pause)

theorem Moves.invariant {P : Owner → Prop} (preserves : ∀ before after, Move pause before after → P before → P after)
    (moves : Moves pause start final) (initial : P start) : P final := by
  induction moves with
  | refl => exact initial
  | tail _ move ih => exact preserves _ _ move ih

namespace Supervisor
variable {supervisor middle after : Supervisor} {entry : Supervised} {current : Option Supervised}
  {events more : List RuntimeEvent}

/-- The phase of the barrier and the token that opens it. -/
structure SameBarrier (before after : Supervisor) : Prop where
  pause : after.pause = before.pause
  lease : after.lease = before.lease

/-- From this owned entry on, behind whatever was told before. -/
structure Keeps (supervisor : Supervisor) (current : Option Supervised) (events : List RuntimeEvent)
    (after : Supervisor) : Prop where
  moves : ∀ past, Moves supervisor.pause ⟨current, supervisor.nextRuntime, past⟩
    ⟨after.current, after.nextRuntime, past ++ events⟩
  barrier : SameBarrier supervisor after

theorem Keeps.idle (same : supervisor.current = current) : supervisor.Keeps current [] supervisor :=
  ⟨fun past => by rw [same, List.append_nil], rfl, rfl⟩

theorem Keeps.move (barrier : SameBarrier supervisor after)
    (move : ∀ past, Move supervisor.pause ⟨current, supervisor.nextRuntime, past⟩
      ⟨after.current, after.nextRuntime, past ++ events⟩) : supervisor.Keeps current events after :=
  ⟨fun past => .single (move past), barrier⟩

theorem Keeps.trans (first : supervisor.Keeps current events middle) (second : middle.Keeps middle.current more after) :
    supervisor.Keeps current (events ++ more) after := by
  refine ⟨fun past => ?_, second.barrier.pause.trans first.barrier.pause,
    second.barrier.lease.trans first.barrier.lease⟩
  have rest := second.moves (past ++ events)
  rw [first.barrier.pause, List.append_assoc] at rest
  exact (first.moves past).trans rest

theorem closeEntry_keeps (finished : entry.finished = true) (clean closed : Bool) :
    supervisor.Keeps (some entry) (supervisor.closeEntry entry clean closed).events
      (supervisor.closeEntry entry clean closed).supervisor := by
  cases closed with
  | false => exact .move ⟨rfl, rfl⟩ fun _ => .closed false finished
  | true =>
    simp only [closeEntry, if_true, clearCurrent]
    split <;> exact .move ⟨rfl, rfl⟩ fun _ => .closed true finished

theorem closeEntry_ok (clean closed : Bool)
    (done : (supervisor.closeEntry entry clean closed).result.isOk = true) :
    (supervisor.closeEntry entry clean closed).supervisor.current = none := by
  simp only [closeEntry] at done ⊢
  split at done
  · rename_i succeeded
    rw [if_pos succeeded.2.2, clearCurrent]
    split <;> rfl
  · cases done

theorem requestStop_asked (entry : Supervised) (answer : Bool) :
    (entry.requestStop answer).1.stopRequested = true := by
  rw [Supervised.requestStop]
  split
  · assumption
  · rfl

/-- The wait for `done` ends with an entry whose `Run` has returned or was never called. -/
theorem await_keeps (asked : entry.stopRequested = true)
    (done : entry.await cancelled wait = some (waited, events)) : waited.finished = true ∧
      supervisor.Keeps (some entry) events (supervisor.storeCurrent waited) := by
  have returns (err : Option RunError) (running : ¬entry.finished = true) :
      supervisor.Keeps (some entry) [.returned entry.runtime] (supervisor.storeCurrent (entry.finish err)) :=
    .move ⟨rfl, rfl⟩ fun _ => .returned err (Bool.eq_false_of_not_eq_true running) (.inl asked)
  have stays : supervisor.Keeps (some entry) [] (supervisor.storeCurrent entry) :=
    ⟨fun past => by rw [List.append_nil]; exact .refl, rfl, rfl⟩
  cases wait with
  | interrupted =>
    simp only [Supervised.await] at done
    split_ifs at done with cancelled finished <;> cases done
    · exact ⟨finished, stays⟩
    · exact ⟨rfl, returns none finished⟩
  | returned err =>
    simp only [Supervised.await] at done
    split_ifs at done with finished <;> cases done
    · exact ⟨finished, stays⟩
    · exact ⟨rfl, returns err finished⟩

theorem stopAndRetire_keeps (supervisor : Supervisor) (entry : Supervised) (ctx : Context) (instant : Nat)
    (env : Retirement) : supervisor.Keeps (some entry) (supervisor.stopAndRetire ctx instant entry env).events
      (supervisor.stopAndRetire ctx instant entry env).supervisor := by
  have asked : supervisor.Keeps (some entry) [] (supervisor.storeCurrent (entry.requestStop env.requestStop).1) :=
    .move ⟨rfl, rfl⟩ fun past => by rw [List.append_nil]; exact .asked env.requestStop
  simp only [stopAndRetire]
  split
  · exact asked
  · rename_i waited events done
    obtain ⟨finished, waits⟩ := await_keeps (requestStop_asked entry env.requestStop) done
    have closes : (supervisor.storeCurrent waited).Keeps (some waited)
        (supervisor.closeEntry waited (entry.requestStop env.requestStop).2 env.close).events
        (supervisor.closeEntry waited (entry.requestStop env.requestStop).2 env.close).supervisor :=
      closeEntry_keeps finished _ _
    exact (asked.trans waits).trans closes

theorem stopAndRetire_ok (ctx : Context) (instant : Nat) (entry : Supervised) (env : Retirement)
    (done : (supervisor.stopAndRetire ctx instant entry env).result.isOk = true) :
    (supervisor.stopAndRetire ctx instant entry env).supervisor.current = none := by
  simp only [stopAndRetire] at done ⊢
  split at done
  · cases done
  · exact closeEntry_ok _ _ done

theorem stop_keeps (supervisor : Supervisor) (ctx : Context) (base : Nat) (env : Retirement) :
    supervisor.Keeps supervisor.current (supervisor.stop ctx base env).events
      (supervisor.stop ctx base env).supervisor := by
  simp only [stop]
  split
  · exact .idle rfl
  split
  · exact .idle rfl
  split
  · exact .idle rfl
  · rename_i entry found
    rw [found]
    exact supervisor.stopAndRetire_keeps entry ctx (base + 2) env

theorem discard_keeps (missing : supervisor.current = none) (key : DesiredKey) (pausable closed : Bool)
    (cause : SupervisorError) : supervisor.Keeps none (supervisor.discard key pausable closed cause).events
      (supervisor.discard key pausable closed cause).supervisor := by
  have built : supervisor.Keeps none [.build (some supervisor.nextRuntime)]
      ({ supervisor with nextRuntime := supervisor.nextRuntime + 1 }.storeCurrent
        (newQuarantined key supervisor.nextRuntime pausable)) :=
    .move ⟨rfl, rfl⟩ fun _ => .built rfl rfl fun _ => rfl
  refine built.trans ?_
  cases closed with
  | true => exact .move ⟨rfl, rfl⟩ fun _ => missing ▸ .closed true rfl
  | false => exact .move ⟨rfl, rfl⟩ fun _ => .closed false rfl

/-- A replacement under a held barrier is staged behind it. -/
theorem buildAndStart_keeps (missing : supervisor.current = none) (ctx : Context) (base : Nat) (key : DesiredKey)
    (build : Build) (env : EnsureEnv) :
    supervisor.Keeps none (supervisor.buildAndStart ctx base key build env).events
      (supervisor.buildAndStart ctx base key build env).supervisor := by
  simp only [buildAndStart]
  split
  · exact .idle missing
  split
  · refine .move ⟨rfl, rfl⟩ fun _ => ?_
    rw [missing]
    exact .builtNothing
  rename_i pausable _
  split
  · exact discard_keeps missing key pausable _ _
  split
  · exact discard_keeps missing key pausable _ _
  · have built : supervisor.Keeps none [.build (some supervisor.nextRuntime)]
        ({ supervisor with nextRuntime := supervisor.nextRuntime + 1 }.storeCurrent
          { key, runtime := supervisor.nextRuntime, pausable, runnable := true }) :=
      .move ⟨rfl, rfl⟩ fun _ => .built rfl rfl fun asked => absurd asked Bool.false_ne_true
    split
    · exact built
    · rename_i open_
      have opened : supervisor.pause = .opened := by simpa [barrierHeld] using open_
      exact built.trans (.move ⟨rfl, rfl⟩ fun _ => .started rfl rfl rfl opened)

theorem retireCurrent_keeps (found : supervisor.current = some entry) (ctx : Context) (base : Nat) (key : DesiredKey)
    (env : EnsureEnv) :
    supervisor.Keeps (some entry) (supervisor.retireCurrent ctx base key env entry).1.events
        (supervisor.retireCurrent ctx base key env entry).1.supervisor ∧
      ((supervisor.retireCurrent ctx base key env entry).2 = true →
        (supervisor.retireCurrent ctx base key env entry).1.supervisor.current = none) := by
  simp only [retireCurrent]
  split
  · split
    · exact ⟨.idle found, fun continues => nomatch continues⟩
    split
    · exact ⟨.idle found, fun continues => nomatch continues⟩
    · exact ⟨supervisor.stopAndRetire_keeps entry ctx (base + 3) env.retirement, stopAndRetire_ok _ _ _ _⟩
  · rename_i finished
    rw [Bool.not_eq_false] at finished
    exact ⟨closeEntry_keeps finished true env.retirement.close, closeEntry_ok _ _⟩

theorem ensure_keeps (supervisor : Supervisor) (ctx : Context) (base : Nat) (key : DesiredKey)
    (builder : Option Build) (env : EnsureEnv) :
    supervisor.Keeps supervisor.current (supervisor.ensure ctx base key builder env).events
      (supervisor.ensure ctx base key builder env).supervisor := by
  simp only [ensure]
  split
  · exact .idle rfl
  split
  · exact .idle rfl
  split
  · exact .idle rfl
  split
  · exact .idle rfl
  split
  · rename_i missing
    rw [missing]
    exact buildAndStart_keeps missing ctx base key _ env
  · rename_i entry found
    obtain ⟨retired, empty⟩ := retireCurrent_keeps found ctx base key env
    rw [found]
    split
    · rename_i same
      rwa [same] at retired
    · rename_i same
      rw [same] at retired empty
      refine retired.trans ?_
      rw [empty rfl]
      exact buildAndStart_keeps (empty rfl) ctx base key _ env

theorem runReturns_keeps (supervisor : Supervisor) (err : Option RunError) :
    supervisor.Keeps supervisor.current (supervisor.runReturns err).2 (supervisor.runReturns err).1 := by
  rw [runReturns]
  split
  · exact .idle rfl
  · rename_i entry found
    split
    · exact .idle rfl
    · rename_i running
      rw [not_or, Bool.not_eq_false, Bool.not_eq_true] at running
      rw [found]
      exact .move ⟨rfl, rfl⟩ fun _ => .returned err running.2 (.inr running.1)

end Supervisor
end WgMix.Dataplane
