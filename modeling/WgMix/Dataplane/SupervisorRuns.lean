import Mathlib.Data.List.Induction
import WgMix.Dataplane.CoreExclusion

/-! Whole runs of the supervisor: every sequence of its calls, with runtimes that return on their
own in between and whatever the environment answers. One runtime at a time is owned, run once and
closed after its `Run` has returned; while a startup-guard lease is out nothing is started or
resumed. -/
namespace WgMix.Dataplane
open Runs

inductive SupervisorCall where
  | ensure (ctx : Context) (base : Nat) (key : DesiredKey) (builder : Option Build) (env : EnsureEnv)
  | stop (ctx : Context) (base : Nat) (env : Retirement)
  | quiesce (ctx : Context) (instant : Nat) (answer : PauseAnswer)
  | resume (ctx : Context) (instant : Nat) (lease : Lease) (resumed : Bool)
  | finishes (err : Option RunError)

/-- What a call did to runtimes, the token of the lease it returned and the token it succeeded to
resume with. -/
structure CallRecord where
  events : List RuntimeEvent
  leased : Option Nat := none
  released : Option Nat := none
  deriving DecidableEq

namespace Supervisor

def serve (supervisor : Supervisor) : SupervisorCall → Supervisor × CallRecord
  | .ensure ctx base key builder env =>
    let step := supervisor.ensure ctx base key builder env
    (step.supervisor, { events := step.events })
  | .stop ctx base env =>
    let step := supervisor.stop ctx base env
    (step.supervisor, { events := step.events })
  | .quiesce ctx instant answer =>
    let step := supervisor.quiesceForStartupGuard ctx instant answer
    (step.supervisor, { events := step.events, leased := step.result.toOption.bind Lease.token })
  | .resume ctx instant lease resumed =>
    let step := supervisor.resumeAfterStartupGuard ctx instant lease resumed
    (step.supervisor, { events := step.events, released := step.result.toOption.bind fun _ => lease.token })
  | .finishes err =>
    let returned := supervisor.runReturns err
    (returned.1, { events := returned.2 })

end Supervisor

structure Watched where
  supervisor : Supervisor := {}
  records : List CallRecord := []

namespace Watched

def step (watched : Watched) (call : SupervisorCall) : Watched :=
  let served := watched.supervisor.serve call
  ⟨served.1, watched.records ++ [served.2]⟩

end Watched

def told (records : List CallRecord) : List RuntimeEvent := records.flatMap CallRecord.events

/-- A builder runs when nothing is left to close and makes something new; only the runtime that was
built last is run, once; `Run` returns after it was called; what was run is closed after that. -/
def Owns (before : List RuntimeEvent) : RuntimeEvent → Prop
  | .build service => before.foldl track [] = [] ∧ ∀ runtime ∈ service, .build (some runtime) ∉ before
  | .run runtime => before.foldl track [] = [runtime] ∧ .run runtime ∉ before
  | .returned runtime => .run runtime ∈ before ∧ .returned runtime ∉ before
  | .close runtime _ => before.foldl track [] = [runtime] ∧ (.run runtime ∈ before → .returned runtime ∈ before)
  | .paused _ => True
  | .resumed _ => True

/-- The last word on the runtime's pause is that it is paused. -/
def Paused (runtime : Nat) (events : List RuntimeEvent) : Prop :=
  ∃ before after, events = before ++ .paused runtime :: after ∧ .resumed runtime ∉ after

theorem Paused.last (events : List RuntimeEvent) (runtime : Nat) : Paused runtime (events ++ [.paused runtime]) :=
  ⟨events, [], rfl, List.not_mem_nil⟩

/-- The events say of the current entry what the entry says of itself. -/
structure Supervised.Told (entry : Supervised) (events : List RuntimeEvent) : Prop where
  started : .run entry.runtime ∈ events ↔ entry.runStarted = true
  returned : .returned entry.runtime ∈ events ↔ entry.runStarted = true ∧ entry.finished = true
  idle : entry.stopRequested = true → entry.runStarted = false → entry.finished = true

/-- The supervisor's own state against everything that left it so far. -/
structure Ledger (current : Option Supervised) (next : Nat) (pause : PausePhase)
    (events : List RuntimeEvent) : Prop where
  permitted : Permitted Owns events
  unclosed : events.foldl track [] = current.toList.map Supervised.runtime
  built : ∀ runtime, .build (some runtime) ∈ events → runtime < next
  ran : ∀ runtime, .run runtime ∈ events → runtime < next
  below : ∀ entry ∈ current, entry.runtime < next
  told : ∀ entry ∈ current, entry.Told events
  settled : ∀ runtime, .run runtime ∈ events →
    .returned runtime ∈ events ∨ ∃ entry ∈ current, entry.runtime = runtime
  guarded : pause ≠ .opened → ∀ entry ∈ current, entry.runStarted = true → entry.finished = false →
    Paused entry.runtime events

namespace Ledger
variable {entry : Supervised} {events : List RuntimeEvent}

theorem nil : Ledger none 0 .opened [] where
  permitted := .nil
  unclosed := rfl
  built _ member := absurd member List.not_mem_nil
  ran _ member := absurd member List.not_mem_nil
  below _ member := nomatch member
  told _ member := nomatch member
  settled _ member := absurd member List.not_mem_nil
  guarded _ _ member := nomatch member

section Events
variable (ledger : Ledger current next pause events)
include ledger

theorem ran_of_returned (returned : .returned runtime ∈ events) : .run runtime ∈ events := by
  obtain ⟨before, after, rfl⟩ := List.append_of_mem returned
  have ran := (ledger.permitted before _ after rfl).1
  exact List.mem_append_left _ ran

theorem opens : Ledger current next .opened events :=
  { ledger with guarded := fun closed => absurd rfl closed }

/-- A barrier may close in front of a runtime that is not running. -/
theorem holds (idle : ∀ entry ∈ current, entry.runStarted = true → entry.finished = true) (phase : PausePhase) :
    Ledger current next phase events :=
  { ledger with
    guarded := fun _ entry member started running => by
      rw [idle entry member started] at running
      contradiction }

end Events

section Entry
variable (ledger : Ledger (some entry) next pause events)
include ledger

theorem requestStop (answer : Bool) : Ledger (some (entry.requestStop answer).1) next pause events := by
  have told := ledger.told entry rfl
  rw [Supervised.requestStop]
  split
  · exact ledger
  · refine { ledger with
      below := ?_, told := ?_, settled := ?_, guarded := ?_ }
    · rintro _ ⟨⟩
      exact ledger.below entry rfl
    · rintro _ ⟨⟩
      refine ⟨told.started, told.returned.trans ?_, ?_⟩
      · cases entry.runStarted <;> simp
      · intro _ (idle : entry.runStarted = false)
        simp only [idle, Bool.not_false, Bool.or_true]
    · intro runtime ran
      refine (ledger.settled runtime ran).imp_right ?_
      rintro ⟨_, ⟨⟩, same⟩
      exact ⟨_, rfl, same⟩
    · rintro closed _ ⟨⟩ started running
      refine ledger.guarded closed entry rfl started ?_
      rw [Bool.or_eq_false_iff] at running
      exact running.1

theorem finish (started : entry.runStarted = true) (running : entry.finished = false) (err : Option RunError) :
    Ledger (some (entry.finish err)) next pause (events ++ [.returned entry.runtime]) := by
  have told := ledger.told entry rfl
  refine ⟨ledger.permitted.snoc ⟨told.started.mpr started, ?_⟩, ?_, ?_, ?_, ?_, ?_, ?_, ?_⟩
  · rw [told.returned, running]
    simp
  · rw [List.foldl_append, ledger.unclosed]
    rfl
  · intro runtime member
    exact ledger.built runtime (by simpa using member)
  · intro runtime member
    exact ledger.ran runtime (by simpa using member)
  · rintro _ ⟨⟩
    exact ledger.below entry rfl
  · rintro _ ⟨⟩
    refine ⟨?_, ?_, fun _ _ => rfl⟩
    · simpa [Supervised.finish] using told.started
    · simp [Supervised.finish, started]
  · intro runtime member
    rcases ledger.settled runtime (by simpa using member) with returned | ⟨_, ⟨⟩, same⟩
    · exact .inl (List.mem_append_left _ returned)
    · exact .inr ⟨_, rfl, same⟩
  · rintro _ _ ⟨⟩ _ running
    cases running

theorem close (finished : entry.finished = true) (closed : Bool) :
    Ledger (if closed then none else some entry) next pause (events ++ [.close entry.runtime closed]) := by
  have told := ledger.told entry rfl
  have returned (ran : .run entry.runtime ∈ events) : .returned entry.runtime ∈ events :=
    told.returned.mpr ⟨told.started.mp ran, finished⟩
  have current (owner : Supervised) (member : owner ∈ if closed then none else some entry) : owner = entry := by
    cases closed with
    | true => cases member
    | false => exact (Option.some.inj member).symm
  refine ⟨ledger.permitted.snoc ⟨ledger.unclosed, returned⟩, ?_, ?_, ?_, ?_, ?_, ?_, ?_⟩
  · rw [List.foldl_append, ledger.unclosed]
    cases closed with
    | true => simp [track]
    | false => rfl
  · intro runtime member
    exact ledger.built runtime (by simpa using member)
  · intro runtime member
    exact ledger.ran runtime (by simpa using member)
  · intro owner member
    rw [current owner member]
    exact ledger.below entry rfl
  · intro owner member
    rw [current owner member]
    exact ⟨by simpa using told.started, by simpa using told.returned, told.idle⟩
  · intro runtime member
    have ran : .run runtime ∈ events := by simpa using member
    rcases ledger.settled runtime ran with before | ⟨_, ⟨⟩, rfl⟩
    · exact .inl (List.mem_append_left _ before)
    · exact .inl (List.mem_append_left _ (returned ran))
  · intro _ owner member _ running
    rw [current owner member, finished] at running
    contradiction

/-- Starting a runtime opens the barrier, or it was open. -/
theorem start (idle : entry.runStarted = false) (live : entry.finished = false)
    (kept : entry.stopRequested = false) :
    Ledger (some { entry with runStarted := true }) next .opened (events ++ [.run entry.runtime]) := by
  have told := ledger.told entry rfl
  have fresh : .run entry.runtime ∉ events := by
    rw [told.started, idle]
    simp
  have silent : .returned entry.runtime ∉ events := fun returned => fresh (ledger.ran_of_returned returned)
  refine ⟨ledger.permitted.snoc ⟨ledger.unclosed, fresh⟩, ?_, ?_, ?_, ?_, ?_, ?_, fun closed => absurd rfl closed⟩
  · rw [List.foldl_append, ledger.unclosed]
    rfl
  · intro runtime member
    exact ledger.built runtime (by simpa using member)
  · intro runtime member
    rw [List.mem_append, List.mem_singleton] at member
    rcases member with before | here
    · exact ledger.ran runtime before
    · cases here
      exact ledger.below entry rfl
  · rintro _ ⟨⟩
    exact ledger.below entry rfl
  · rintro _ ⟨⟩
    exact ⟨by simp, by simpa [live] using silent, fun asked => absurd asked (by simp [kept])⟩
  · intro runtime member
    rw [List.mem_append, List.mem_singleton] at member
    rcases member with before | here
    · rcases ledger.settled runtime before with returned | ⟨_, ⟨⟩, same⟩
      · exact .inl (List.mem_append_left _ returned)
      · exact .inr ⟨_, rfl, same⟩
    · cases here
      exact .inr ⟨_, rfl, rfl⟩

end Entry

/-- Pausing and resuming do not change what is owned. -/
theorem remark (ledger : Ledger current next pause events) {event : RuntimeEvent}
    (word : ∃ runtime, event = .paused runtime ∨ event = .resumed runtime)
    (guarded : phase ≠ .opened → ∀ entry ∈ current, entry.runStarted = true → entry.finished = false →
      Paused entry.runtime (events ++ [event])) : Ledger current next phase (events ++ [event]) := by
  obtain ⟨runtime, rfl | rfl⟩ := word
  all_goals
    refine ⟨ledger.permitted.snoc trivial, ?_, ?_, ?_, ledger.below, ?_, ?_, guarded⟩
    · rw [List.foldl_append, ledger.unclosed]
      rfl
    · intro runtime member
      exact ledger.built runtime (by simpa using member)
    · intro runtime member
      exact ledger.ran runtime (by simpa using member)
    · intro entry member
      have told := ledger.told entry member
      exact ⟨by simpa using told.started, by simpa using told.returned, told.idle⟩
    · intro runtime member
      exact (ledger.settled runtime (by simpa using member)).imp_left (List.mem_append_left _)

theorem pauses (ledger : Ledger (some entry) next pause events) (phase : PausePhase) :
    Ledger (some entry) next phase (events ++ [.paused entry.runtime]) := by
  refine ledger.remark ⟨_, .inl rfl⟩ ?_
  rintro _ _ ⟨⟩ _ _
  exact .last events entry.runtime

theorem resumes (ledger : Ledger current next pause events) (runtime : Nat) :
    Ledger current next .opened (events ++ [.resumed runtime]) :=
  ledger.remark ⟨runtime, .inr rfl⟩ fun closed => absurd rfl closed

section Builder
variable (ledger : Ledger none next pause events)
include ledger

theorem buildNothing : Ledger none next pause (events ++ [.build none]) := by
  refine ⟨ledger.permitted.snoc ⟨ledger.unclosed, ?_⟩, ?_, ?_, ?_, ledger.below, ?_, ?_, ?_⟩
  · rintro _ ⟨⟩
  · rw [List.foldl_append, ledger.unclosed]
    rfl
  · intro runtime member
    exact ledger.built runtime (by simpa using member)
  · intro runtime member
    exact ledger.ran runtime (by simpa using member)
  · rintro _ ⟨⟩
  · intro runtime member
    exact (ledger.settled runtime (by simpa using member)).imp_left (List.mem_append_left _)
  · rintro _ _ ⟨⟩

/-- Whatever is built is new and has not run. -/
theorem build (numbered : entry.runtime = next) (unstarted : entry.runStarted = false)
    (idle : entry.stopRequested = true → entry.finished = true) :
    Ledger (some entry) (next + 1) pause (events ++ [.build (some next)]) := by
  have silent : .run next ∉ events := fun ran => Nat.lt_irrefl next (ledger.ran next ran)
  refine ⟨ledger.permitted.snoc ⟨ledger.unclosed, ?_⟩, ?_, ?_, ?_, ?_, ?_, ?_, ?_⟩
  · rintro _ ⟨⟩ again
    exact Nat.lt_irrefl next (ledger.built next again)
  · rw [List.foldl_append, ledger.unclosed, ← numbered]
    rfl
  · intro runtime member
    rw [List.mem_append, List.mem_singleton] at member
    rcases member with before | here
    · exact Nat.lt_succ_of_lt (ledger.built runtime before)
    · cases here
      exact Nat.lt_succ_self next
  · intro runtime member
    exact Nat.lt_succ_of_lt (ledger.ran runtime (by simpa using member))
  · rintro _ ⟨⟩
    rw [numbered]
    exact Nat.lt_succ_self next
  · rintro _ ⟨⟩
    refine ⟨?_, ?_, fun asked _ => idle asked⟩
    · simpa [numbered, unstarted] using silent
    · simpa [numbered, unstarted] using fun returned => silent (ledger.ran_of_returned returned)
  · intro runtime member
    rcases ledger.settled runtime (by simpa using member) with returned | ⟨_, ⟨⟩, _⟩
    exact .inl (List.mem_append_left _ returned)
  · rintro _ _ ⟨⟩ started
    rw [unstarted] at started
    contradiction

end Builder
end Ledger

namespace Supervisor
variable {supervisor : Supervisor} {events : List RuntimeEvent} {entry : Supervised}

def Balanced (supervisor : Supervisor) (events : List RuntimeEvent) : Prop :=
  Ledger supervisor.current supervisor.nextRuntime supervisor.pause events

theorem Keeps.balanced {after : Supervisor} {more : List RuntimeEvent}
    (keeps : supervisor.Keeps supervisor.current more after) (balanced : supervisor.Balanced events) :
    after.Balanced (events ++ more) := by
  have kept : Ledger after.current after.nextRuntime supervisor.pause (events ++ more) := by
    refine (keeps.moves events).invariant (P := fun owner => Ledger owner.current owner.next supervisor.pause
      owner.events) ?_ balanced
    intro before after move ledger
    cases move with
    | asked answer => exact ledger.requestStop answer
    | @returned entry _ _ err running due =>
      refine ledger.finish (due.elim (fun asked => ?_) id) running err
      by_contra unstarted
      have finished := (ledger.told entry rfl).idle asked (Bool.eq_false_of_not_eq_true unstarted)
      rw [running] at finished
      contradiction
    | closed closed finished => exact ledger.close finished closed
    | builtNothing => exact ledger.buildNothing
    | built numbered unstarted idle => exact ledger.build numbered unstarted idle
    | started idle live kept opened => exact opened ▸ ledger.start idle live kept
  rw [Balanced, keeps.barrier.pause]
  exact kept

/-- A new pause that is taken back leaves an open barrier. -/
theorem rollback_opened (supervisor : Supervisor) (acquired : Bool) :
    ((supervisor.acquireStartupGuardPause).rollbackNewStartupGuardPause
      (supervisor.acquireStartupGuardPause).revision ⟨acquired, some supervisor.nextToken⟩).pause = .opened := by
  simp [rollbackNewStartupGuardPause, acquireStartupGuardPause]

theorem rollback_owner (supervisor : Supervisor) (expected : Nat) (lease : Lease) :
    (supervisor.rollbackNewStartupGuardPause expected lease).current = supervisor.current ∧
      (supervisor.rollbackNewStartupGuardPause expected lease).nextRuntime = supervisor.nextRuntime := by
  rw [rollbackNewStartupGuardPause]
  split <;> exact ⟨rfl, rfl⟩

theorem quiesce_balanced (balanced : supervisor.Balanced events) (ctx : Context) (instant : Nat)
    (answer : PauseAnswer) :
    (supervisor.quiesceForStartupGuard ctx instant answer).supervisor.Balanced
      (events ++ (supervisor.quiesceForStartupGuard ctx instant answer).events) := by
  have rolledBack : ((supervisor.acquireStartupGuardPause).rollbackNewStartupGuardPause
      (supervisor.acquireStartupGuardPause).revision ⟨true, some supervisor.nextToken⟩).Balanced (events ++ []) := by
    have owner := rollback_owner supervisor.acquireStartupGuardPause supervisor.acquireStartupGuardPause.revision
      ⟨true, some supervisor.nextToken⟩
    rw [Balanced, rollback_opened, owner.1, owner.2, List.append_nil]
    exact balanced.opens
  simp only [quiesceForStartupGuard]
  split
  · split <;> rwa [List.append_nil]
  split
  · rwa [List.append_nil]
  split
  · rwa [List.append_nil]
  split
  · rename_i missing
    rw [List.append_nil]
    refine balanced.holds ?_ .held
    intro entry member
    have none : supervisor.current = none := missing
    rw [none] at member
    cases member
  · rename_i entry found
    have owner : supervisor.current = some entry := found
    split
    · rename_i idle
      rw [List.append_nil]
      refine balanced.holds ?_ .held
      intro other member started
      rw [owner] at member
      cases member
      rcases idle with idle | finished
      · rw [idle] at started
        contradiction
      · exact finished
    have ledger := balanced
    rw [Balanced, owner] at ledger
    have paused := ledger.pauses .held
    rw [← owner] at paused
    split
    · exact rolledBack
    split
    · exact rolledBack
    · exact paused
    · exact paused

/-- What resuming the entry can do: nothing, let a paused runtime go on, or start a staged one. -/
inductive ResumesEntry (supervisor : Supervisor) (entry : Supervised) : Step Unit → Prop
  | refused (cause : SupervisorError) : ResumesEntry supervisor entry ⟨supervisor, [], .error cause⟩
  | resumed : ResumesEntry supervisor entry
      ⟨{ supervisor with pausedRuntime := none, innerLease := none }, [.resumed entry.runtime], .ok ()⟩
  | started (idle : entry.runStarted = false) (live : entry.finished = false) (kept : entry.stopRequested = false) :
      ResumesEntry supervisor entry
        ⟨supervisor.storeCurrent { entry with runStarted := true }, [.run entry.runtime], .ok ()⟩

theorem resumeEntry_cases (supervisor : Supervisor) (found : supervisor.current = some entry) (resumed : Bool) :
    ResumesEntry supervisor entry (supervisor.resumeEntry entry resumed) := by
  have same : supervisor.storeCurrent entry = supervisor := by
    rw [storeCurrent, ← found]
  simp only [resumeEntry]
  split
  · exact .refused _
  rename_i live
  rw [not_or, Bool.not_eq_true, Bool.not_eq_true] at live
  split
  · split
    · exact .refused _
    split
    · exact .refused _
    split
    · exact .refused _
    · exact .resumed
  · rename_i unstarted
    rw [Supervised.start, if_neg unstarted, if_neg (ne_true_of_eq_false live.2)]
    rw [Bool.not_eq_true] at unstarted
    split
    · rw [same]
      exact .refused _
    · exact .started unstarted live.1 live.2

/-- What a resume can do: nothing but a change of revision, or release the barrier. -/
inductive Resumes (supervisor : Supervisor) (lease : Lease) : Step Unit → Prop
  | refused (revision : Nat) (cause : SupervisorError) :
      Resumes supervisor lease ⟨{ supervisor with revision }, [], .error cause⟩
  | released (opened : supervisor.pause = .opened) : Resumes supervisor lease ⟨supervisor, [], .ok ()⟩
  | empty (held : supervisor.pause = .held) (matches_ : supervisor.lease = lease.token)
      (missing : supervisor.current = none) (revision : Nat) :
      Resumes supervisor lease ⟨{ supervisor with revision }.releaseStartupGuardPause, [], .ok ()⟩
  | owner {owner : Supervised} {step : Step Unit} (held : supervisor.pause = .held)
      (matches_ : supervisor.lease = lease.token) (found : supervisor.current = some owner) (revision : Nat)
      (tried : ResumesEntry { supervisor with pause := .resuming, revision } owner step)
      (done : step.result = .ok ()) :
      Resumes supervisor lease ⟨step.supervisor.releaseStartupGuardPause, step.events, .ok ()⟩

theorem resume_cases (supervisor : Supervisor) (ctx : Context) (instant : Nat) (lease : Lease) (resumed : Bool) :
    Resumes supervisor lease (supervisor.resumeAfterStartupGuard ctx instant lease resumed) := by
  rw [resumeAfterStartupGuard]
  split
  · rename_i opened
    split
    · exact .released opened
    · exact .refused supervisor.revision _
  split
  · exact .refused supervisor.revision _
  rename_i held
  rw [not_not] at held
  split
  · exact .refused supervisor.revision _
  rename_i same
  rw [not_or, not_not] at same
  split
  · exact .refused supervisor.revision _
  dsimp only
  split
  · rename_i missing
    exact .empty held same.2 missing (supervisor.revision + 1)
  · rename_i entry found
    have tried := resumeEntry_cases { supervisor with pause := .resuming, revision := supervisor.revision + 1 }
      found resumed
    split
    · rename_i cause failed
      generalize resumeEntry _ entry resumed = step at tried failed ⊢
      cases tried with
      | refused =>
        simp only [restoreStartupGuardPause, ne_eq, not_true_eq_false, or_self, if_false, ← held]
        exact .refused _ _
      | resumed => cases failed
      | started => cases failed
    · rename_i done
      exact .owner held same.2 found (supervisor.revision + 1) tried done

theorem resume_balanced (balanced : supervisor.Balanced events) (ctx : Context) (instant : Nat) (lease : Lease)
    (resumed : Bool) :
    (supervisor.resumeAfterStartupGuard ctx instant lease resumed).supervisor.Balanced
      (events ++ (supervisor.resumeAfterStartupGuard ctx instant lease resumed).events) := by
  have resumes := supervisor.resume_cases ctx instant lease resumed
  generalize supervisor.resumeAfterStartupGuard ctx instant lease resumed = step at resumes ⊢
  cases resumes with
  | refused | released =>
    rw [List.append_nil]
    exact balanced
  | empty =>
    rw [List.append_nil]
    exact balanced.opens
  | owner _ _ found _ tried done =>
    have ledger := balanced
    rw [Balanced, found] at ledger
    cases tried with
    | refused => cases done
    | resumed =>
      have kept := ledger.resumes
      rw [← found] at kept
      exact kept _
    | started idle live kept => exact ledger.start idle live kept

theorem serve_balanced (balanced : supervisor.Balanced events) (call : SupervisorCall) :
    (supervisor.serve call).1.Balanced (events ++ (supervisor.serve call).2.events) := by
  cases call with
  | ensure ctx base key builder env => exact (supervisor.ensure_keeps ctx base key builder env).balanced balanced
  | stop ctx base env => exact (supervisor.stop_keeps ctx base env).balanced balanced
  | quiesce ctx instant answer => exact quiesce_balanced balanced ctx instant answer
  | resume ctx instant lease resumed => exact resume_balanced balanced ctx instant lease resumed
  | finishes err => exact (supervisor.runReturns_keeps err).balanced balanced

section Held

/-- Nothing is started and nothing is let go on. -/
def Still (events : List RuntimeEvent) : Prop :=
  ∀ event ∈ events, ∀ runtime, event ≠ .run runtime ∧ event ≠ .resumed runtime

theorem Still.append {first second : List RuntimeEvent} (one : Still first) (two : Still second) :
    Still (first ++ second) := by
  intro event member
  rcases List.mem_append.mp member with here | there
  · exact one event here
  · exact two event there

theorem Still.nil : Still [] := fun _ member => absurd member List.not_mem_nil

/-- Behind a closed barrier nothing starts. -/
theorem Keeps.still {after : Supervisor} (keeps : supervisor.Keeps supervisor.current events after)
    (closed : supervisor.pause ≠ .opened) : Still events := by
  refine (keeps.moves []).invariant (P := fun owner => Still owner.events) ?_ .nil
  intro before after move still
  cases move with
  | asked => exact still
  | returned | closed | builtNothing | built => exact still.append (by simp [Still])
  | started _ _ _ opened => exact absurd opened closed

/-- The barrier is held under this token. -/
structure Holds (supervisor : Supervisor) (token : Nat) : Prop where
  pause : supervisor.pause = .held
  lease : supervisor.lease = some token

theorem Holds.closed (holds : supervisor.Holds token) : supervisor.pause ≠ .opened := by
  rw [holds.pause]
  decide

theorem Holds.kept {after : Supervisor} (holds : supervisor.Holds token)
    (keeps : supervisor.Keeps supervisor.current events after) : after.Holds token ∧ Still events :=
  ⟨⟨keeps.barrier.pause.trans holds.pause, keeps.barrier.lease.trans holds.lease⟩, keeps.still holds.closed⟩

/-- Only a resume that succeeds with the token ends the hold. -/
theorem serve_holds (holds : supervisor.Holds token) (call : SupervisorCall)
    (unreleased : (supervisor.serve call).2.released ≠ some token) :
    (supervisor.serve call).1.Holds token ∧ Still (supervisor.serve call).2.events := by
  cases call with
  | ensure ctx base key builder env => exact holds.kept (supervisor.ensure_keeps ctx base key builder env)
  | stop ctx base env => exact holds.kept (supervisor.stop_keeps ctx base env)
  | finishes err => exact holds.kept (supervisor.runReturns_keeps err)
  | quiesce ctx instant answer =>
    simp only [serve, quiesceForStartupGuard, holds.pause, holds.lease, if_true]
    exact ⟨holds, .nil⟩
  | resume ctx instant lease resumed =>
    have resumes := supervisor.resume_cases ctx instant lease resumed
    simp only [serve] at unreleased ⊢
    generalize supervisor.resumeAfterStartupGuard ctx instant lease resumed = step at resumes unreleased ⊢
    cases resumes with
    | refused => exact ⟨⟨holds.pause, holds.lease⟩, .nil⟩
    | released opened => exact absurd opened holds.closed
    | empty _ same => exact absurd (same.symm.trans holds.lease) unreleased
    | owner _ same => exact absurd (same.symm.trans holds.lease) unreleased

/-- A call that returns a lease leaves the barrier held under its token. -/
theorem serve_leases (supervisor : Supervisor) (call : SupervisorCall)
    (leased : (supervisor.serve call).2.leased = some token) : (supervisor.serve call).1.Holds token := by
  cases call with
  | ensure | stop | resume | finishes => cases leased
  | quiesce ctx instant answer =>
    revert leased
    simp only [serve, quiesceForStartupGuard]
    split
    · rename_i held
      split
      · exact fun leased => nomatch leased
      · rename_i lease found
        rintro ⟨⟩
        exact ⟨held, found⟩
    split
    · exact fun leased => nomatch leased
    split
    · exact fun leased => nomatch leased
    split
    · rintro ⟨⟩
      exact ⟨rfl, rfl⟩
    split
    · rintro ⟨⟩
      exact ⟨rfl, rfl⟩
    split
    · exact fun leased => nomatch leased
    split
    · exact fun leased => nomatch leased
    · exact fun leased => nomatch leased
    · rintro ⟨⟩
      exact ⟨rfl, rfl⟩

end Held

end Supervisor
/-- Ownership that is taken only when nothing is owned is of one runtime at most. -/
theorem unclosed_le_one {events : List RuntimeEvent} (permitted : Permitted Owns events) :
    (events.foldl track []).length ≤ 1 := by
  induction events using List.reverseRecOn with
  | nil => exact Nat.zero_le 1
  | append_singleton before last ih =>
    have owns := permitted before last [] rfl
    have fewer := ih permitted.earlier
    rw [List.foldl_append]
    cases last with
    | build service =>
      rw [owns.1]
      cases service with
      | none => exact Nat.zero_le 1
      | some runtime => exact Nat.le_refl 1
    | close runtime closed =>
      cases closed with
      | true => exact List.length_erase_le.trans fewer
      | false => exact fewer
    | run | returned | paused | resumed => exact fewer

namespace Watched

theorem step_balanced {watched : Watched} (balanced : watched.supervisor.Balanced (told watched.records))
    (call : SupervisorCall) :
    (watched.step call).supervisor.Balanced (told (watched.step call).records) := by
  have served := Supervisor.serve_balanced balanced call
  simpa [told, step] using served

/-- While a lease is out nothing starts, nothing is let go on, and what runs is paused. -/
structure Guarded (before middle : List CallRecord) : Prop where
  still : Supervisor.Still (told middle)
  paused : ∀ runtime, .run runtime ∈ told (before ++ middle) → .returned runtime ∉ told (before ++ middle) →
    Paused runtime (told (before ++ middle))

/-- The books agree, and every lease that was ever returned guarded its time. -/
structure Kept (watched : Watched) : Prop where
  balanced : watched.supervisor.Balanced (told watched.records)
  leases : ∀ before record middle after token, watched.records = (before ++ [record]) ++ middle ++ after →
    record.leased = some token → (∀ later ∈ middle, later.released ≠ some token) →
    Guarded (before ++ [record]) middle ∧ (after = [] → watched.supervisor.Holds token)

theorem guarded_of_holds {watched : Watched} (balanced : watched.supervisor.Balanced (told watched.records))
    (holds : watched.supervisor.Holds token) (split : watched.records = before ++ middle)
    (still : Supervisor.Still (told middle)) : Guarded before middle := by
  refine ⟨still, ?_⟩
  rw [← split]
  intro runtime ran unreturned
  rcases balanced.settled runtime ran with returned | ⟨entry, member, rfl⟩
  · exact absurd returned unreturned
  · have told := balanced.told entry member
    have started := told.started.mp ran
    refine balanced.guarded holds.closed entry member started ?_
    rw [told.returned, not_and, Bool.not_eq_true] at unreturned
    exact unreturned started

theorem step_kept {watched : Watched} (kept : watched.Kept) (call : SupervisorCall) : (watched.step call).Kept := by
  have balanced := step_balanced kept.balanced call
  refine ⟨balanced, ?_⟩
  intro before record middle after token split leased unreleased
  rcases List.eq_nil_or_concat after with rfl | ⟨earlier, last, rfl⟩
  · -- the new record is the last one of the lease's time, or returned the lease itself
    have holds : (watched.step call).supervisor.Holds token ∧ Supervisor.Still (told middle) := by
      rw [List.append_nil] at split
      rcases List.eq_nil_or_concat middle with rfl | ⟨front, last, rfl⟩
      · rw [List.append_nil] at split
        obtain ⟨_, same⟩ := List.append_inj' split rfl
        cases same
        exact ⟨watched.supervisor.serve_leases call leased, .nil⟩
      · rw [List.concat_eq_append, ← List.append_assoc] at split
        obtain ⟨same, here⟩ := List.append_inj' split rfl
        cases here
        rw [List.concat_eq_append] at unreleased ⊢
        obtain ⟨guarded, held⟩ := kept.leases before record front [] token
          (by rw [List.append_nil]; exact same) leased
          fun later member => unreleased later (List.mem_append_left _ member)
        obtain ⟨holds, still⟩ := Supervisor.serve_holds (held rfl) call
          (unreleased _ (List.mem_append_right _ List.mem_cons_self))
        refine ⟨holds, ?_⟩
        simp only [told, List.flatMap_append, List.flatMap_singleton]
        exact guarded.still.append still
    refine ⟨guarded_of_holds balanced holds.1 ?_ holds.2, fun _ => holds.1⟩
    rw [split, List.append_nil]
  · rw [List.concat_eq_append, ← List.append_assoc] at split
    obtain ⟨same, _⟩ := List.append_inj' split rfl
    refine ⟨(kept.leases before record middle earlier token same leased unreleased).1, ?_⟩
    intro empty
    simp at empty

theorem run_kept (calls : List SupervisorCall) : (run step {} calls).Kept := by
  have initial : Kept {} := by
    refine ⟨Ledger.nil, ?_⟩
    intro before record middle after token split
    simp at split
  exact always (P := Kept) (fun _ call kept => step_kept kept call) initial calls

/-- Over any calls: events are as owners may cause them, at no time is more than one runtime left to
close, and from a returned lease to a resume with its token the barrier guards. -/
theorem supervisor_ownership (calls : List SupervisorCall) :
    Permitted Owns (told (run step {} calls).records) ∧
      (∀ events, events <+: told (run step {} calls).records → (events.foldl track []).length ≤ 1) ∧
      ∀ before record middle after token, (run step {} calls).records = (before ++ [record]) ++ middle ++ after →
        record.leased = some token → (∀ later ∈ middle, later.released ≠ some token) →
        Guarded (before ++ [record]) middle := by
  have kept := run_kept calls
  refine ⟨kept.balanced.permitted, ?_, ?_⟩
  · rintro events ⟨rest, whole⟩
    have permitted := kept.balanced.permitted
    rw [← whole] at permitted
    exact unclosed_le_one permitted.earlier
  · intro before record middle after token split leased unreleased
    exact (kept.leases before record middle after token split leased unreleased).1

def sampleRetirement : Retirement := ⟨true, .returned (some .canceled), true⟩

/-- A runtime starts and is paused; its replacement is staged behind the barrier and starts with the
resume. -/
def sampleCalls : List SupervisorCall :=
  [.ensure ⟨none⟩ 0 (.fill 32 1) (some ⟨false, some true⟩) ⟨true, sampleRetirement, true⟩,
    .quiesce ⟨none⟩ 0 (.lease 7),
    .ensure ⟨none⟩ 0 (.fill 32 2) (some ⟨false, some true⟩) ⟨true, sampleRetirement, true⟩,
    .resume ⟨none⟩ 0 { token := some 0 } true]

theorem supervisor_ownership_sample :
    (run step {} sampleCalls).records =
        [{ events := [.build (some 0), .run 0] }, { events := [.paused 0], leased := some 0 },
          { events := [.returned 0, .close 0 true, .build (some 1)] }, { events := [.run 1], released := some 0 }] ∧
      Guarded [{ events := [.build (some 0), .run 0] }, { events := [.paused 0], leased := some 0 }]
        [{ events := [.returned 0, .close 0 true, .build (some 1)] }] := by
  have ran : (run step {} sampleCalls).records =
      [{ events := [.build (some 0), .run 0] }, { events := [.paused 0], leased := some 0 },
        { events := [.returned 0, .close 0 true, .build (some 1)] }, { events := [.run 1], released := some 0 }] := by
    decide +kernel
  refine ⟨ran, ?_⟩
  exact (supervisor_ownership sampleCalls).2.2 [_] _ [_] [_] 0 ran rfl (by decide)

end Watched
end WgMix.Dataplane
