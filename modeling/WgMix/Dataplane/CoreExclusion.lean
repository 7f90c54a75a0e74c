import WgMix.Foundation.Guard
import WgMix.Foundation.Runs
import WgMix.Dataplane.Coordinator
import WgMix.Dataplane.SupervisorMoves

/-! Baseline and experimental cores exclude each other. The supervisor's current
entry is the only runtime not yet closed; the recorded owner is right about the
baseline as long as no cancellation hits `Stop` under an attached baseline. -/
namespace WgMix.Dataplane
open Control Runs

theorem Context.err_mono {ctx : Context} (later : earlier ≤ instant) (live : ctx.err instant = false) :
    ctx.err earlier = false := by
  unfold Context.err at live ⊢
  cases from_ : ctx.cancelledFrom with
  | none => rfl
  | some moment =>
    simp only [from_, Option.any_some, decide_eq_false_iff_not] at live ⊢
    omega

/-- The runtimes built and not successfully closed, after one more event. -/
def track (opened : List Nat) : RuntimeEvent → List Nat
  | .build (some runtime) => runtime :: opened
  | .close runtime true => opened.erase runtime
  | _ => opened

namespace Supervisor

/-- The runtime that the supervisor answers for. -/
def owned (supervisor : Supervisor) : List Nat := supervisor.current.toList.map Supervised.runtime

theorem owned_none {supervisor : Supervisor} (missing : supervisor.current = none) :
    supervisor.owned = [] := by
  rw [owned, missing]
  rfl

section Steps
variable (supervisor : Supervisor)

/-- The events account for every runtime the step took or gave up. -/
def Accounts (step : Step α) : Prop := step.events.foldl track supervisor.owned = step.supervisor.owned

variable {supervisor}

theorem Keeps.accounts {after : Supervisor} (keeps : supervisor.Keeps supervisor.current events after) :
    events.foldl track supervisor.owned = after.owned := by
  refine (keeps.moves []).invariant (P := fun owner => owner.events.foldl track supervisor.owned =
    owner.current.toList.map Supervised.runtime) ?_ rfl
  intro before after move accounts
  cases move with
  | asked answer =>
    rw [accounts, Supervised.requestStop]
    dsimp only
    split <;> rfl
  | closed closed finished =>
    rw [List.foldl_append, accounts]
    cases closed with
    | true => simp [track]
    | false => rfl
  | returned | builtNothing | started =>
    rw [List.foldl_append, accounts]
    rfl
  | built numbered =>
    rw [List.foldl_append, accounts, ← numbered]
    rfl

theorem stop_ok (ctx : Context) (base : Nat) (env : Retirement)
    (done : (supervisor.stop ctx base env).result = .ok ()) :
    (supervisor.stop ctx base env).supervisor.current = none := by
  revert done
  rw [stop]
  split
  · intro done
    contradiction
  split
  · intro done
    contradiction
  split
  · rename_i missing
    exact fun _ => missing
  · rename_i entry found
    exact fun done => stopAndRetire_ok ctx (base + 2) entry env (by rw [done]; rfl)

/-- With nothing to stop, only the context can make `Stop` fail. -/
theorem stop_idle (missing : supervisor.current = none) (ctx : Context) (base : Nat) (env : Retirement)
    (live : ctx.err (base + 1) = false) :
    supervisor.stop ctx base env = ⟨supervisor, [], .ok ()⟩ := by
  have earlier : ctx.err base = false := ctx.err_mono (Nat.le_succ base) live
  simp only [stop, earlier, live, missing, Bool.false_eq_true, if_false]

end Steps

end Supervisor

section Histories

/-- Whether an apply of the baseline may still be in effect. -/
def attach (attached : Bool) : CoreEvent → Bool
  | .baselineApply _ => true
  | .baselineDetach true => false
  | _ => attached

def attached (history : List CoreEvent) : Bool := history.foldl attach false

def trackCore (opened : List Nat) : CoreEvent → List Nat
  | .runtime event => track opened event
  | _ => opened

/-- The runtimes built and not successfully closed. -/
def unclosed (history : List CoreEvent) : List Nat := history.foldl trackCore []

/-- Builders and baseline applies wait for the other core to be gone. -/
def ExcludesOther (before : List CoreEvent) : CoreEvent → Prop
  | .runtime (.build _) => attached before = false
  | .baselineApply _ => unclosed before = []
  | _ => True

def Exclusive (history : List CoreEvent) : Prop := Permitted ExcludesOther history

variable {history : List CoreEvent}

theorem attached_runtime (history : List CoreEvent) (events : List RuntimeEvent) :
    attached (history ++ events.map .runtime) = attached history := by
  have fixed (flag : Bool) : (events.map CoreEvent.runtime).foldl attach flag = flag := by
    induction events with
    | nil => rfl
    | cons event rest ih => exact ih
  rw [attached, List.foldl_append, fixed, attached]

theorem unclosed_runtime (history : List CoreEvent) (events : List RuntimeEvent) :
    unclosed (history ++ events.map .runtime) = events.foldl track (unclosed history) := by
  have folded (opened : List Nat) :
      (events.map CoreEvent.runtime).foldl trackCore opened = events.foldl track opened := by
    induction events generalizing opened with
    | nil => rfl
    | cons event rest ih => exact ih _
  rw [unclosed, List.foldl_append, folded, unclosed]

theorem exclusive_runtime (exclusive : Exclusive history) (detached : attached history = false)
    (events : List RuntimeEvent) : Exclusive (history ++ events.map .runtime) := by
  induction events generalizing history with
  | nil => simpa using exclusive
  | cons event rest ih =>
    rw [List.map_cons, ← List.singleton_append, ← List.append_assoc]
    apply ih
    · apply exclusive.snoc
      cases event with
      | build service => exact detached
      | run | returned | paused | resumed | close => trivial
    · exact (attached_runtime history [event]).trans detached

end Histories

namespace Coordinator
variable {σ : Type} {coordinator : Coordinator σ}

/-- The history excludes, and the coordinator's own fields agree with it. -/
structure Excluding (coordinator : Coordinator σ) : Prop where
  exclusive : Exclusive coordinator.history
  accounted : unclosed coordinator.history = coordinator.supervisor.owned
  baseline : attached coordinator.history = true →
    coordinator.owner ≠ .experimental ∧ coordinator.supervisor.current = none

section
variable (excluding : coordinator.Excluding)
include excluding

/-- Recording an event that neither core is concerned with. -/
theorem Excluding.record (event : CoreEvent) (free : ∀ before, ExcludesOther before event)
    (inert : ∀ opened, trackCore opened event = opened) (still : ∀ flag, attach flag event = true → flag = true) :
    (coordinator.record [event]).Excluding where
  exclusive := excluding.exclusive.snoc (free _)
  accounted := by
    rw [Coordinator.record, unclosed, List.foldl_append]
    exact (inert _).trans excluding.accounted
  baseline held := by
    rw [Coordinator.record, attached, List.foldl_append] at held
    exact excluding.baseline (still _ held)

theorem Excluding.own (owner : CoreOwner) (honest : owner = .experimental → attached coordinator.history = false) :
    (coordinator.own owner).Excluding where
  exclusive := excluding.exclusive
  accounted := excluding.accounted
  baseline held := by
    refine ⟨fun experimental => ?_, (excluding.baseline held).2⟩
    have detached := honest experimental
    rw [Coordinator.own] at held
    rw [held] at detached
    contradiction

/-- A supervisor step that builds only while the baseline is detached. -/
theorem Excluding.adopt {step : Step Unit} (accounts : coordinator.supervisor.Accounts step)
    (exclusive : Exclusive (coordinator.history ++ step.events.map .runtime))
    (idle : attached coordinator.history = true → step.supervisor.current = none) :
    (coordinator.adopt step).Excluding where
  exclusive := exclusive
  accounted := by
    rw [Coordinator.adopt, unclosed_runtime, excluding.accounted]
    exact accounts
  baseline held := by
    rw [Coordinator.adopt, attached_runtime] at held
    exact ⟨(excluding.baseline held).1, idle held⟩

theorem Excluding.recoverClassic (succeeded : Bool) : (coordinator.record [.recoverClassic succeeded]).Excluding :=
  excluding.record _ (fun _ => trivial) (fun _ => rfl) (fun _ same => same)

theorem Excluding.baselineDetach (succeeded : Bool) : (coordinator.record [.baselineDetach succeeded]).Excluding := by
  apply excluding.record
  · exact fun _ => trivial
  · exact fun _ => rfl
  · intro flag held
    cases succeeded with
    | true => contradiction
    | false => exact held

theorem Excluding.rollbackPlan (plan : Plan) : (coordinator.rollbackPlan plan).Excluding := by
  unfold Coordinator.rollbackPlan
  split
  · exact excluding.record _ (fun _ => trivial) (fun _ => rfl) (fun _ same => same)
  · exact excluding

/-- In front of a baseline call, `Stop` hands over an empty supervisor. -/
theorem stopForBaseline_excluding (env : CallEnv σ)
    (live : attached coordinator.history = true → env.ctx.err 3 = false) :
    (coordinator.stopForBaseline env).1.Excluding ∧
      ((coordinator.stopForBaseline env).2 = .ok () →
        (coordinator.stopForBaseline env).1.supervisor.current = none) := by
  have idle (held : attached coordinator.history = true) :
      coordinator.supervisor.stop env.ctx 2 env.retirement = ⟨coordinator.supervisor, [], .ok ()⟩ :=
    Supervisor.stop_idle (excluding.baseline held).2 env.ctx 2 env.retirement (live held)
  have adopted : (coordinator.adopt (coordinator.supervisor.stop env.ctx 2 env.retirement)).Excluding := by
    apply excluding.adopt
    · exact (coordinator.supervisor.stop_keeps env.ctx 2 env.retirement).accounts
    · cases held : attached coordinator.history with
      | false => exact exclusive_runtime excluding.exclusive held _
      | true =>
        rw [idle held, List.map_nil, List.append_nil]
        exact excluding.exclusive
    · intro held
      rw [idle held]
      exact (excluding.baseline held).2
  unfold stopForBaseline
  dsimp only
  split
  · rename_i cause failed
    refine ⟨adopted.own _ fun _ => ?_, by simp⟩
    rw [Coordinator.adopt, attached_runtime]
    by_contra held
    rw [idle (Bool.eq_true_of_not_eq_false held)] at failed
    contradiction
  · rename_i stopped
    have empty := Supervisor.stop_ok env.ctx 2 env.retirement stopped
    have unowned := adopted.own .none (by simp)
    split
    · exact ⟨unowned, fun _ => empty⟩
    · split
      · exact ⟨unowned.recoverClassic _, fun _ => empty⟩
      · exact ⟨unowned.recoverClassic _, fun _ => empty⟩

theorem applyBaseline_excluding (env : CallEnv σ)
    (live : attached coordinator.history = true → env.ctx.err 3 = false) :
    (coordinator.applyBaseline env).1.Excluding := by
  obtain ⟨stopped, empty⟩ := stopForBaseline_excluding excluding env live
  unfold applyBaseline
  split
  · rename_i after cause result
    rw [result] at stopped
    exact stopped
  · rename_i after result
    rw [result] at stopped empty
    have missing : after.supervisor.current = none := empty rfl
    have closed : unclosed after.history = [] := by
      rw [stopped.accounted, Supervisor.owned_none missing]
    exact {
      exclusive := stopped.exclusive.snoc closed
      accounted := by
        simp only [Coordinator.own, Coordinator.record, unclosed, List.foldl_append]
        exact stopped.accounted
      baseline := fun _ => ⟨by simp [Coordinator.own], missing⟩ }

theorem detachForExperimental_excluding (env : CallEnv σ) : (coordinator.detachForExperimental env).1.Excluding ∧
      ((coordinator.detachForExperimental env).2 = .ok () →
        attached (coordinator.detachForExperimental env).1.history = false) := by
  unfold detachForExperimental
  split
  · rename_i experimental
    refine ⟨excluding, fun _ => ?_⟩
    by_contra held
    exact (excluding.baseline (Bool.eq_true_of_not_eq_false held)).1 experimental
  · dsimp only
    have recovered := excluding.recoverClassic env.recoverClassic
    split
    · exact ⟨recovered, by simp⟩
    · have detached := recovered.baselineDetach env.baseline
      split
      · rename_i succeeded
        refine ⟨detached, fun _ => ?_⟩
        rw [succeeded, Coordinator.record, attached, List.foldl_append]
        rfl
      · exact ⟨detached.own .baseline (by simp), by simp⟩

theorem applyExperimental_excluding (env : CallEnv σ) : (coordinator.applyExperimental env).1.Excluding := by
  unfold applyExperimental
  split
  · exact excluding
  rename_i plan planned
  split
  · exact excluding.rollbackPlan plan
  split
  · exact excluding.rollbackPlan plan
  split
  · exact excluding.rollbackPlan plan
  obtain ⟨kept, detached⟩ := detachForExperimental_excluding excluding env
  split
  · rename_i after cause result
    rw [result] at kept
    exact kept.rollbackPlan plan
  · rename_i after result
    rw [result] at kept detached
    have detached : attached after.history = false := detached rfl
    have unowned := kept.own .none (by simp)
    dsimp only
    split
    · exact unowned.rollbackPlan plan
    · have ensured := unowned.adopt (Supervisor.ensure_keeps _ env.ctx 4 plan.key plan.build env.ensure).accounts
        (exclusive_runtime kept.exclusive detached _)
        (fun held => by rw [Coordinator.own, detached] at held; contradiction)
      have owned := ensured.own .experimental fun _ => by
        rw [Coordinator.adopt, attached_runtime]
        exact detached
      split
      · exact owned
      · exact owned.rollbackPlan plan

/-- Binding a scope changes nothing else. -/
theorem bindScope_excluding [DecidableEq σ] (bound : coordinator.bindScope resolved = .ok after) :
    after.Excluding ∧ after.history = coordinator.history := by
  unfold bindScope at bound
  split at bound
  · contradiction
  split at bound
  · obtain ⟨_, same⟩ := guard_ok bound
    cases same
    exact ⟨⟨excluding.exclusive, excluding.accounted, excluding.baseline⟩, rfl⟩
  · obtain ⟨_, same⟩ := guard_ok bound
    cases same
    exact ⟨excluding, rfl⟩

end

section Runs
variable [DecidableEq σ]

/-- Calls of the production loader, and a runtime's `Run` returning by itself
between two of them. -/
inductive Input (σ : Type) where
  | apply (state : State) (env : CallEnv σ)
  | detach (env : CallEnv σ)
  | detachStale (current : State) (env : CallEnv σ)
  | runReturns (err : Option RunError)

def step (coordinator : Coordinator σ) : Input σ → Coordinator σ
  | .apply state env => (coordinator.apply state env).1
  | .detach env => (coordinator.detach env).1
  | .detachStale current env => (coordinator.detachStale current env).1
  | .runReturns err =>
    let returned := coordinator.supervisor.runReturns err
    { coordinator with
      supervisor := returned.1
      history := coordinator.history ++ returned.2.map .runtime }

/-- The call passes the coordinator's own checks and comes to `Stop`. -/
def reachesStop (coordinator : Coordinator σ) : Input σ → Bool
  | .apply state env | .detachStale state env =>
    env.ctx.err 0 = false ∧ preflightProductionUnderlayParsers state = .ok () ∧ env.ctx.err 1 = false ∧
      env.activation ∧ (coordinator.bindScope env.scope).isOk ∧ referencesFakeTCP state = false
  | .detach env => env.ctx.err 0 = false ∧ env.ctx.err 1 = false ∧ (coordinator.bindScope env.scope).isOk
  | .runReturns _ => false

/-- A call that comes to `Stop` under an attached baseline is not cancelled before the checks of `Stop`. -/
def StopUncancelled (coordinator : Coordinator σ) (input : Input σ) : Prop :=
  coordinator.reachesStop input = true → attached coordinator.history = true →
    match input with
    | .apply _ env | .detachStale _ env | .detach env => env.ctx.err 3 = false
    | .runReturns _ => True

section
variable (excluding : coordinator.Excluding)
include excluding

theorem apply_excluding (state : State) (env : CallEnv σ) (live : coordinator.StopUncancelled (.apply state env)) :
    (coordinator.apply state env).1.Excluding := by
  unfold Coordinator.apply
  split
  · exact excluding
  rename_i early
  split
  · exact excluding
  rename_i parsed
  split
  · exact excluding
  rename_i uncancelled
  split
  · exact excluding
  rename_i active
  split
  · exact excluding
  rename_i after bound
  obtain ⟨kept, same⟩ := bindScope_excluding excluding bound
  split
  · exact applyExperimental_excluding kept env
  · rename_i plain
    apply applyBaseline_excluding kept env
    intro held
    refine live ?_ (same ▸ held)
    simp [reachesStop, early, parsed, uncancelled, active, bound, plain, Except.isOk, Except.toBool]

theorem detach_excluding (env : CallEnv σ) (live : coordinator.StopUncancelled (.detach env)) :
    (coordinator.detach env).1.Excluding := by
  unfold Coordinator.detach
  split
  · exact excluding
  rename_i early
  split
  · exact excluding
  rename_i uncancelled
  split
  · exact excluding
  rename_i bound' bound
  obtain ⟨kept, same⟩ := bindScope_excluding excluding bound
  have reaches : coordinator.reachesStop (.detach env) = true := by
    simp [reachesStop, early, uncancelled, bound, Except.isOk, Except.toBool]
  obtain ⟨stopped, _⟩ := stopForBaseline_excluding kept env fun held => live reaches (same ▸ held)
  split
  · rename_i after cause result
    rw [result] at stopped
    exact stopped
  · rename_i after result
    rw [result] at stopped
    have detached := stopped.baselineDetach env.baseline
    dsimp only
    split
    · have unowned := detached.own .none (by simp)
      exact ⟨unowned.exclusive, unowned.accounted, unowned.baseline⟩
    · exact detached.own .baseline (by simp)

theorem detachStale_excluding (current : State) (env : CallEnv σ)
    (live : coordinator.StopUncancelled (.detachStale current env)) :
    (coordinator.detachStale current env).1.Excluding := by
  unfold Coordinator.detachStale
  split
  · exact excluding
  rename_i early
  split
  · exact excluding
  rename_i parsed
  split
  · exact excluding
  rename_i uncancelled
  split
  · exact excluding
  rename_i active
  split
  · exact excluding
  rename_i bound' bound
  obtain ⟨kept, same⟩ := bindScope_excluding excluding bound
  split
  · exact kept
  rename_i plain
  have reaches : coordinator.reachesStop (.detachStale current env) = true := by
    simp [reachesStop, early, parsed, uncancelled, active, bound, plain, Except.isOk, Except.toBool]
  obtain ⟨stopped, _⟩ := stopForBaseline_excluding kept env fun held => live reaches (same ▸ held)
  split
  · rename_i after cause result
    rw [result] at stopped
    exact stopped
  · rename_i after result
    rw [result] at stopped
    have pruned : (after.record [.baselineDetachStale env.baseline]).Excluding :=
      stopped.record _ (fun _ => trivial) (fun _ => rfl) (fun _ same => same)
    exact pruned.own .baseline (by simp)

theorem runReturns_excluding (err : Option RunError) : (coordinator.step (.runReturns err)).Excluding := by
  cases held : attached coordinator.history with
  | true =>
    obtain ⟨_, missing⟩ := excluding.baseline held
    have idle : coordinator.supervisor.runReturns err = (coordinator.supervisor, []) := by
      rw [Supervisor.runReturns, missing]
    simp only [step, idle, List.map_nil, List.append_nil]
    exact excluding
  | false =>
    refine ⟨exclusive_runtime excluding.exclusive held _, ?_, fun later => ?_⟩
    · simp only [step]
      rw [unclosed_runtime, excluding.accounted]
      exact (coordinator.supervisor.runReturns_keeps err).accounts
    · simp only [step, attached_runtime, held] at later
      contradiction

theorem step_excluding (input : Input σ) (live : coordinator.StopUncancelled input) :
    (coordinator.step input).Excluding := by
  cases input with
  | apply state env => exact apply_excluding excluding state env live
  | detach env => exact detach_excluding excluding env live
  | detachStale current env => exact detachStale_excluding excluding current env live
  | runReturns err => exact runReturns_excluding excluding err

end

/-- No builder runs under an attached baseline and no baseline apply under an
unclosed runtime, in any run that no cancellation strikes inside `Stop` while
the baseline is attached. -/
theorem cores_exclude_each_other (start : Coordinator σ) (unknown : start.owner = .unknown)
    (idle : start.supervisor.current = none) (fresh : start.history = []) (calls : List (Input σ))
    (live : Along step StopUncancelled start calls) : Exclusive (run step start calls).history := by
  have initial : start.Excluding := by
    refine ⟨?_, ?_, ?_⟩
    · rw [fresh]
      exact .nil
    · rw [fresh, Supervisor.owned_none idle]
      rfl
    · rw [unknown]
      exact fun _ => ⟨by decide, idle⟩
  have excluding : (run step start calls).Excluding := by
    refine Runs.invariant ?_ initial live
    intro coordinator input excluding live
    exact step_excluding excluding input live
  exact excluding.exclusive

section Example

def udpState : State where
  wireGuards := [{ name := "wg0", transportMode := .udp }]
  underlays := [⟨"wan", .ethernet, 2, .transform, true⟩]
  egressRules := [{ wgId := 1, transportMode := .udp }]
  ingressListeners := [{ wgId := 1, transportMode := .udp }]

def fakeTcpState : State where
  wireGuards := [{ name := "wg0", transportMode := .faketcp }]
  underlays := [⟨"wan", .ethernet, 2, .transform, true⟩]
  egressRules := [{ wgId := 1, transportMode := .faketcp }]
  ingressListeners := [{ wgId := 1, transportMode := .faketcp }]

/-- Everything succeeds and `Run` ends as cancelled. -/
def smoothCall (ctx : Context) : CallEnv Unit where
  ctx := ctx
  activation := true
  scope := some ()
  recoverClassic := true
  baseline := true
  plan := some ⟨.fill 32 1, some ⟨false, some true⟩, true⟩
  retirement := ⟨true, .returned (some .canceled), true⟩
  ensure := ⟨true, ⟨true, .returned (some .canceled), true⟩, true⟩

def switchingRun : List (Input Unit) :=
  [.apply udpState (smoothCall ⟨none⟩), .apply fakeTcpState (smoothCall ⟨none⟩),
    .apply udpState (smoothCall ⟨none⟩)]

theorem cores_exclude_each_other_switching :
    (run step ({} : Coordinator Unit) switchingRun).history =
      [.recoverClassic true, .baselineApply true, .recoverClassic true, .baselineDetach true,
        .runtime (.build (some 0)), .runtime (.run 0), .runtime (.returned 0), .runtime (.close 0 true),
        .recoverClassic true, .baselineApply true] ∧
      Exclusive (run step ({} : Coordinator Unit) switchingRun).history :=
  ⟨by decide, cores_exclude_each_other {} rfl rfl rfl switchingRun
    ⟨fun _ _ => rfl, fun _ _ => rfl, fun _ _ => rfl, trivial⟩⟩

/-- A detach whose context ends while its scope is resolved. -/
def cancelledDetachRun : List (Input Unit) :=
  [.apply udpState (smoothCall ⟨none⟩), .detach (smoothCall ⟨some 2⟩),
    .apply fakeTcpState (smoothCall ⟨none⟩)]

theorem cancelled_stop_breaks_exclusion :
    (run step ({} : Coordinator Unit) cancelledDetachRun).history =
      [.recoverClassic true, .baselineApply true, .runtime (.build (some 0)), .runtime (.run 0)] ∧
      ¬Exclusive (run step ({} : Coordinator Unit) cancelledDetachRun).history := by
  have history : (run step ({} : Coordinator Unit) cancelledDetachRun).history =
      [.recoverClassic true, .baselineApply true, .runtime (.build (some 0)), .runtime (.run 0)] := by decide
  refine ⟨history, fun exclusive => ?_⟩
  have detached : attached [.recoverClassic true, .baselineApply true] = false :=
    exclusive [.recoverClassic true, .baselineApply true] (.runtime (.build (some 0))) [.runtime (.run 0)]
      history
  contradiction

end Example

end Runs

end Coordinator

end WgMix.Dataplane
