import WgMix.Foundation.Interleaving

/-! The startup-guard barrier of the event runtime. Every section under the runtime's lock is one step, and the calls
of any number of goroutines interleave; a waiting call may look again at any time, which allows every order of the
state-change signals. -/
namespace WgMix.FakeTcp.StartupGuard
open Interleaving

inductive Phase where
  | open_
  | draining
  | held
  | resuming
  | stopped
  deriving DecidableEq, Repr

inductive Reason where
  | none_
  | startupGuard
  | runtimeStopping
  | runtimeStopped
  | runtimeClosed
  deriving DecidableEq, Repr

/-- The number under which a lease was minted; every mint has its own. -/
abbrev Token := Nat

structure Lease where
  acquired : Bool
  token : Token
  deriving DecidableEq, Repr

/-- Who closed admission for which barrier, and the releases that succeeded. -/
inductive Event where
  | closed (call : Nat) (token : Token)
  | resumed (token : Token)
  deriving DecidableEq, Repr

structure Guard where
  phase : Phase := .open_
  reason : Reason := .none_
  revision : UInt64 := 0
  lease : Option Token := none
  released : Option Token := none
  activeWork : Nat := 0
  minted : Nat := 0
  history : List Event := []
  deriving DecidableEq, Repr

structure Runtime extends Guard where
  runStarted : Bool := false
  running : Bool := false
  stopAsked : Bool := false
  shutdown : Bool := false
  closing : Bool := false
  closed : Bool := false
  deriving DecidableEq, Repr

inductive CallError where
  | closed
  | context
  | noLease
  | mismatch
  deriving DecidableEq, Repr

inductive Work where
  | sample
  | tick
  deriving DecidableEq, Repr

/-- The two local variables of a pause that closed admission itself. -/
structure Acquired where
  token : Token
  revision : UInt64
  deriving DecidableEq, Repr

/-- Where a call stands, in front of its next step. -/
inductive Location where
  | run
  | reading
  | begin (work : Work)
  | beginWait (work : Work)
  | working (work : Work)
  | checkStop
  | finishing
  | pause (acquired : Option Acquired)
  | pauseWait (acquired : Option Acquired)
  | paused (result : Except CallError Lease)
  | resume (token : Option Token)
  | resumeWait (token : Option Token)
  | resumed (result : Except CallError Unit)
  | requestStop
  | close
  | closeJoin
  | returned

/-- What the step does not decide: whether the call's context is done, whether the reader, the handler or an owner's
release failed, and whether a sample has arrived or the tick is due. -/
structure Choice where
  cancelled : Bool := false
  failed : Bool := false
  ready : Bool := true
  deriving DecidableEq, Repr

namespace Guard

variable (guard : Guard)

def setPause (phase : Phase) (reason : Reason) : Guard :=
  if guard.phase = phase ∧ guard.reason = reason then guard
  else { guard with phase := phase, reason := reason, revision := guard.revision + 1 }

/-- `invalidateStartupGuardLeasesLocked` and the terminal phase. -/
def stop (reason : Reason) : Guard :=
  { guard with lease := none, released := none }.setPause .stopped reason

def leaseForCaller (acquired : Option Acquired) : Except CallError Lease :=
  match guard.lease with
  | none => .error .noLease
  | some token => .ok ⟨acquired.any (·.token = token), token⟩

/-- The end of a pass of the loop in `PauseForStartupGuard`. -/
def drain (acquired : Option Acquired) : Guard × Location :=
  if guard.phase = .draining ∧ guard.activeWork = 0 then
    (guard.setPause .held .startupGuard, .paused ((guard.setPause .held .startupGuard).leaseForCaller acquired))
  else (guard, .pauseWait acquired)

/-- A new lease on a barrier that is not up yet. -/
def acquire (call : Nat) : Guard :=
  let minted : Guard := { guard with
    lease := some guard.minted, released := none, minted := guard.minted + 1,
    history := guard.history ++ [.closed call guard.minted] }
  minted.setPause .draining .startupGuard

def pause (call : Nat) (cancelled : Bool) (acquired : Option Acquired) : Guard × Location :=
  match guard.phase with
  | .held => (guard, .paused (guard.leaseForCaller acquired))
  | .open_ =>
    if cancelled then (guard, .paused (.error .context))
    else (guard.acquire call).drain (some ⟨guard.minted, (guard.acquire call).revision⟩)
  | .draining | .resuming => guard.drain acquired
  | .stopped => (guard, .paused (.error .closed))

/-- The branch of the select for a context that is done. -/
def cancelPause (acquired : Option Acquired) : Guard × Location :=
  if guard.phase = .held then (guard, .paused (guard.leaseForCaller acquired))
  else
    match acquired with
    | none => (guard, .paused (.error .context))
    | some own =>
      if own.revision ≠ 0 ∧ guard.phase = .draining ∧ guard.revision = own.revision ∧
          guard.lease = some own.token then
        ({ guard with lease := none }.setPause .open_ .none_, .paused (.error .context))
      else (guard, .paused (.error .context))

def release (token : Token) : Guard :=
  { (guard.setPause .resuming .startupGuard).setPause .open_ .none_ with
    released := guard.lease, lease := none, history := guard.history ++ [.resumed token] }

def resume (cancelled : Bool) : Option Token → Guard × Location
  | none => (guard, .resumed (.error (if guard.phase = .stopped then .closed else .mismatch)))
  | some token =>
    match guard.phase with
    | .open_ =>
      if guard.released ≠ some token then (guard, .resumed (.error .mismatch))
      else ({ guard with history := guard.history ++ [.resumed token] }, .resumed (.ok ()))
    | .held =>
      if guard.lease ≠ some token then (guard, .resumed (.error .mismatch))
      else if cancelled then (guard, .resumed (.error .context))
      else (guard.release token, .resumed (.ok ()))
    | .draining | .resuming =>
      if guard.lease ≠ some token then (guard, .resumed (.error .mismatch))
      else if cancelled then (guard, .resumed (.error .context))
      else (guard, .resumeWait (some token))
    | .stopped => (guard, .resumed (.error .closed))

/-- `beginGuardableWork` under the lock. -/
def beginWork (work : Work) : Guard × Location :=
  if guard.phase = .open_ then ({ guard with activeWork := guard.activeWork + 1 }, .working work)
  else if guard.phase = .stopped then (guard, .finishing)
  else (guard, .beginWait work)

end Guard

namespace Runtime

/-- The test in front of every admission. -/
def fenced (runtime : Runtime) : Bool := runtime.shutdown || runtime.closing || runtime.closed || runtime.stopAsked

def on (runtime : Runtime) (result : Guard × Location) : Runtime × Location :=
  ({ runtime with toGuard := result.1 }, result.2)

/-- One step of the call with this number. -/
def act (choice : Nat × Choice) (runtime : Runtime) : Location → Runtime × Location
  | .run =>
    if runtime.shutdown || runtime.closing || runtime.closed || runtime.runStarted then (runtime, .returned)
    else ({ runtime with runStarted := true, running := true }, if runtime.stopAsked then .finishing else .reading)
  | .reading =>
    if choice.2.cancelled || choice.2.failed then (runtime, .finishing)
    else (runtime, if choice.2.ready then .begin .sample else .checkStop)
  | .begin work =>
    if choice.2.cancelled || runtime.fenced then (runtime, .finishing) else runtime.on (runtime.beginWork work)
  | .beginWait work => (runtime, if choice.2.cancelled then .finishing else .begin work)
  | .working work =>
    ({ runtime with activeWork := runtime.activeWork - 1 },
      if choice.2.failed then .finishing else if work = .sample then .checkStop else .reading)
  | .checkStop =>
    (runtime, if runtime.fenced then .finishing else if choice.2.ready then .begin .tick else .reading)
  | .finishing =>
    let runtime := { runtime with running := false }
    if runtime.phase = .stopped then (runtime, .returned) else runtime.on (runtime.stop .runtimeStopped, .returned)
  | .pause acquired =>
    if runtime.fenced then (runtime, .paused (.error .closed))
    else runtime.on (runtime.pause choice.1 choice.2.cancelled acquired)
  | .pauseWait acquired =>
    if choice.2.cancelled then runtime.on (runtime.cancelPause acquired) else (runtime, .pause acquired)
  | .resume token =>
    if runtime.fenced then (runtime, .resumed (.error .closed))
    else runtime.on (runtime.resume choice.2.cancelled token)
  | .resumeWait token => (runtime, .resume token)
  | .requestStop =>
    if runtime.shutdown || runtime.closed || runtime.stopAsked then (runtime, .returned)
    else { runtime with stopAsked := true }.on (runtime.stop .runtimeStopping, .returned)
  | .close =>
    if runtime.closed || runtime.closing then (runtime, .returned)
    else
      { runtime with shutdown := true, stopAsked := true, closing := true }.on
        (runtime.stop .runtimeClosed, .closeJoin)
  | .closeJoin =>
    -- joins the run, then releases the reader and the controller
    if runtime.running then (runtime, .closeJoin)
    else ({ runtime with closing := false, closed := !choice.2.failed }, .returned)
  | other => (runtime, other)

end Runtime

abbrev World := System Runtime Location

def Location.starts : Location → Bool
  | .run | .pause none | .resume _ | .requestStop | .close => true
  | _ => false

def start : World := ⟨{}, []⟩

/-- A new call, or one step of a call; the calls are numbered in the order in which they began. -/
def step (world : World) : Turn Location Choice → World
  | .spawn call => if call.starts then Interleaving.step Runtime.act world (.spawn call) else world
  | .act index choice => Interleaving.step Runtime.act world (.act index (index, choice))

def Location.isWorking : Location → Bool
  | .working _ => true
  | _ => false

/-- The barrier of a lease is up, was released by that lease, or the runtime is over. -/
def Guard.Fences (guard : Guard) (token : Token) : Prop :=
  (guard.phase = .held ∧ guard.lease = some token) ∨ guard.phase = .stopped ∨ .resumed token ∈ guard.history

structure Guard.Sound (guard : Guard) : Prop where
  drained : guard.phase = .held → guard.activeWork = 0
  released : ∀ token, guard.released = some token → .resumed token ∈ guard.history
  fresh : ∀ call token, .closed call token ∈ guard.history → token < guard.minted
  once : ∀ call other token, .closed call token ∈ guard.history → .closed other token ∈ guard.history → call = other

/-- What a call at this location may rely on. -/
def Location.Serves (guard : Guard) (call : Nat) : Location → Prop
  | .pause (some own) | .pauseWait (some own) => .closed call own.token ∈ guard.history
  | .paused (.ok lease) => guard.Fences lease.token
  | _ => True

/-- What one step of a call can do to the guard. -/
inductive Change (call : Nat) (thread : Location) (before : Guard) : Guard → Prop where
  | same : Change call thread before before
  | admitted (open_ : before.phase = .open_) :
      Change call thread before { before with activeWork := before.activeWork + 1 }
  | finished : Change call thread before { before with activeWork := before.activeWork - 1 }
  | acquired (open_ : before.phase = .open_) (drains : phase = .draining ∨ phase = .held ∧ before.activeWork = 0) :
      Change call thread before
        { before with phase, reason, revision, lease := some before.minted, released := none,
                      minted := before.minted + 1, history := before.history ++ [.closed call before.minted] }
  | drained (draining : before.phase = .draining) (idle : before.activeWork = 0) :
      Change call thread before { before with phase := .held, reason, revision }
  | reopened (draining : before.phase = .draining) (mine : before.lease = some token)
      (own : .closed call token ∈ before.history) :
      Change call thread before { before with phase := .open_, reason, revision, lease := none }
  | released (resumes : thread = .resume (some token)) (held : before.phase = .held)
      (mine : before.lease = some token) :
      Change call thread before
        { before with phase := .open_, reason, revision, lease := none, released := some token,
                      history := before.history ++ [.resumed token] }
  | again : Change call thread before { before with history := before.history ++ [.resumed token] }
  | stopped : Change call thread before { before with phase := .stopped, reason, revision, lease := none, released := none }

namespace Change
variable {call : Nat} {thread : Location} {before after : Guard}

variable (change : Change call thread before after)
include change

theorem history : before.history ⊆ after.history := by
  cases change with
  | acquired open_ drains => exact List.subset_append_left _ _
  | released resumes held mine => exact List.subset_append_left _ _
  | again => exact List.subset_append_left _ _
  | _ => exact List.Subset.refl _

theorem stays_stopped (stopped : before.phase = .stopped) : after.phase = .stopped := by
  cases change with
  | acquired open_ drains => cases stopped.symm.trans open_
  | drained draining idle => cases stopped.symm.trans draining
  | reopened draining mine own => cases stopped.symm.trans draining
  | released resumes held mine => cases stopped.symm.trans held
  | stopped => rfl
  | _ => exact stopped

/-- A barrier that is up changes only by its own release and by the end of the runtime. -/
theorem keeps_fence (fences : before.Fences token) : after.Fences token := by
  rcases fences with ⟨held, mine⟩ | stopped | released
  · cases change with
    | acquired open_ drains => cases held.symm.trans open_
    | drained draining idle => cases held.symm.trans draining
    | reopened draining same own => cases held.symm.trans draining
    | released resumes _ same =>
      cases mine.symm.trans same
      exact .inr (.inr (List.mem_append_right _ (List.mem_singleton.mpr rfl)))
    | stopped => exact .inr (.inl rfl)
    | _ => exact .inl ⟨held, mine⟩
  · exact .inr (.inl (change.stays_stopped stopped))
  · exact .inr (.inr (change.history released))

theorem serves_other {location : Location} (serves : location.Serves before other) : location.Serves after other := by
  revert serves
  rw [Location.Serves.eq_def, Location.Serves.eq_def]
  split
  · exact fun own => change.history own
  · exact fun own => change.history own
  · exact fun fences => change.keeps_fence fences
  · exact fun known => known

/-- Only a release by its own lease, or the very call that closed it, opens admission again. -/
theorem reopened_by (closed : before.phase ≠ .open_) (opened : after.phase = .open_) :
    ∃ token, before.lease = some token ∧ (thread = .resume (some token) ∨ .closed call token ∈ before.history) := by
  cases change with
  | acquired open_ drains => exact absurd open_ closed
  | drained draining idle => cases opened
  | reopened draining mine own => exact ⟨_, mine, .inr own⟩
  | released resumes held mine => exact ⟨_, mine, .inl resumes⟩
  | stopped => cases opened
  | _ => exact absurd opened closed

theorem sound (sound : before.Sound) : after.Sound := by
  -- nobody closes admission, so that only the phase and the releases matter
  have alike {after : Guard} (drained : after.phase = .held → after.activeWork = 0)
      (released : ∀ token, after.released = some token → .resumed token ∈ after.history)
      (same : ∀ call token, .closed call token ∈ after.history → .closed call token ∈ before.history)
      (minted : after.minted = before.minted) : after.Sound :=
    ⟨drained, released, fun call token member => minted ▸ sound.fresh call token (same call token member),
      fun call other token first second => sound.once call other token (same _ _ first) (same _ _ second)⟩
  cases change with
  | same => exact sound
  | admitted open_ =>
    refine alike (fun held => ?_) sound.released (fun _ _ member => member) rfl
    cases open_.symm.trans held
  | finished =>
    refine alike (fun held => ?_) sound.released (fun _ _ member => member) rfl
    rw [sound.drained held]
  | acquired open_ drains =>
    have earlier {caller token : Nat} (member : Event.closed caller token ∈ before.history ++ [.closed call before.minted]) :
        .closed caller token ∈ before.history ∧ token < before.minted ∨ caller = call ∧ token = before.minted := by
      rcases List.mem_append.mp member with old | new
      · exact .inl ⟨old, sound.fresh caller token old⟩
      · exact .inr (Event.closed.inj (List.mem_singleton.mp new))
    refine ⟨fun held => ?_, fun _ released => ?_, fun caller token member => ?_, fun caller other token first second => ?_⟩
    · rcases drains with draining | ⟨_, idle⟩
      · cases draining.symm.trans held
      · exact idle
    · cases released
    · dsimp only
      rcases earlier member with ⟨_, old⟩ | ⟨_, rfl⟩ <;> omega
    · rcases earlier first with ⟨one, below⟩ | ⟨rfl, rfl⟩ <;> rcases earlier second with ⟨two, under⟩ | ⟨rfl, same⟩
      · exact sound.once caller other token one two
      · omega
      · omega
      · rfl
  | drained draining idle => exact alike (fun _ => idle) sound.released (fun _ _ member => member) rfl
  | reopened draining mine own => exact alike (by simp) sound.released (fun _ _ member => member) rfl
  | released resumes held mine => exact alike (by simp) (by simp) (by simp) rfl
  | again =>
    refine alike sound.drained (fun token found => ?_) (by simp) rfl
    exact List.mem_append_left _ (sound.released token found)
  | stopped => exact alike (by simp) (by simp) (fun _ _ member => member) rfl

end Change

/-- A step of a call: what it does to the guard, what the call then relies on, and that the count follows the work. -/
structure Moves (call : Nat) (guard : Guard) (thread : Location) (next : Guard × Location) : Prop where
  change : Change call thread guard next.1
  serves : next.2.Serves next.1 call
  work : (thread.isWorking = true → 0 < guard.activeWork) →
    next.1.activeWork + (if thread.isWorking then 1 else 0) = guard.activeWork + (if next.2.isWorking then 1 else 0)

section Steps
variable {call : Nat} {guard : Guard} {thread : Location}

theorem Moves.calm {next : Guard × Location} (change : Change call thread guard next.1)
    (serves : next.2.Serves next.1 call) (same : next.1.activeWork = guard.activeWork)
    (idle : thread.isWorking = false) (rest : next.2.isWorking = false) : Moves call guard thread next :=
  ⟨change, serves, fun _ => by rw [same, idle, rest]⟩

theorem Moves.stay {next : Location} (idle : thread.isWorking = false) (rest : next.isWorking = false)
    (serves : next.Serves guard call) : Moves call guard thread (guard, next) := .calm .same serves rfl idle rest

theorem setPause_fields (guard : Guard) (phase : Phase) (reason : Reason) : ∃ revision,
    guard.setPause phase reason = { guard with phase, reason, revision } := by
  rw [Guard.setPause]
  split
  · rename_i same
    obtain ⟨rfl, rfl⟩ := same
    exact ⟨guard.revision, rfl⟩
  · exact ⟨guard.revision + 1, rfl⟩

theorem stop_moves (idle : thread.isWorking = false) (rest : next.isWorking = false)
    (serves : ∀ guard, next.Serves guard call) : Moves call guard thread (guard.stop reason, next) := by
  obtain ⟨revision, fields⟩ := setPause_fields { guard with lease := none, released := none } .stopped reason
  rw [Guard.stop, fields]
  exact .calm .stopped (serves _) rfl idle rest

theorem lease_serves {guard : Guard} (acquired : Option Acquired) (held : guard.phase = .held) :
    (Location.paused (guard.leaseForCaller acquired)).Serves guard call := by
  rw [Guard.leaseForCaller]
  split
  · trivial
  · rename_i mine
    exact .inl ⟨held, mine⟩

theorem drain_moves (acquired : Option Acquired) (idle : thread.isWorking = false)
    (serves : (Location.pauseWait acquired).Serves guard call) :
    Moves call guard thread (guard.drain acquired) := by
  rw [Guard.drain]
  split
  · rename_i drained
    obtain ⟨revision, fields⟩ := setPause_fields guard .held .startupGuard
    rw [fields]
    exact .calm (.drained drained.1 drained.2) (lease_serves acquired rfl) rfl idle rfl
  · exact .stay idle rfl serves

theorem acquire_moves (open_ : guard.phase = .open_) (idle : thread.isWorking = false) :
    Moves call guard thread
      ((guard.acquire call).drain (some ⟨guard.minted, (guard.acquire call).revision⟩)) := by
  obtain ⟨revision, fields⟩ := setPause_fields { guard with
    lease := some guard.minted, released := none, minted := guard.minted + 1,
    history := guard.history ++ [.closed call guard.minted] } .draining .startupGuard
  rw [Guard.acquire, fields, Guard.drain]
  split
  · rename_i drained
    obtain ⟨later, held⟩ := setPause_fields { guard with
      phase := .draining, reason := .startupGuard, revision, lease := some guard.minted, released := none,
      minted := guard.minted + 1, history := guard.history ++ [.closed call guard.minted] } .held .startupGuard
    rw [held]
    exact .calm (.acquired open_ (.inr ⟨rfl, drained.2⟩)) (lease_serves _ rfl) rfl idle rfl
  · exact .calm (.acquired open_ (.inl rfl)) (List.mem_append_right _ (List.mem_singleton.mpr rfl)) rfl idle rfl

theorem pause_moves (cancelled : Bool) (acquired : Option Acquired)
    (serves : (Location.pauseWait acquired).Serves guard call) (idle : thread.isWorking = false) :
    Moves call guard thread (guard.pause call cancelled acquired) := by
  rw [Guard.pause]
  split
  · rename_i held
    exact .stay idle rfl (lease_serves acquired held)
  · rename_i open_
    split
    · exact .stay idle rfl trivial
    · exact acquire_moves open_ idle
  · exact drain_moves acquired idle serves
  · exact drain_moves acquired idle serves
  · exact .stay idle rfl trivial

theorem cancelPause_moves (acquired : Option Acquired) (serves : (Location.pauseWait acquired).Serves guard call)
    (idle : thread.isWorking = false) : Moves call guard thread (guard.cancelPause acquired) := by
  rw [Guard.cancelPause.eq_def]
  split
  · rename_i held
    exact .stay idle rfl (lease_serves acquired held)
  split
  · exact .stay idle rfl trivial
  split
  · rename_i mine
    obtain ⟨revision, fields⟩ := setPause_fields { guard with lease := none } .open_ .none_
    rw [fields]
    exact .calm (.reopened mine.2.1 mine.2.2.2 serves) trivial rfl idle rfl
  · exact .stay idle rfl trivial

/-- A release fails, waits for the barrier it holds, or succeeds in one of two ways. -/
theorem resume_cases (guard : Guard) (cancelled : Bool) (token : Option Token) :
    (∃ cause, guard.resume cancelled token = (guard, .resumed (.error cause))) ∨
    guard.resume cancelled token = (guard, .resumeWait token) ∨
    ∃ own, token = some own ∧
      (guard.phase = .held ∧ guard.lease = some own ∧
          guard.resume cancelled token = (guard.release own, .resumed (.ok ())) ∨
        guard.released = some own ∧ guard.resume cancelled token =
          ({ guard with history := guard.history ++ [.resumed own] }, .resumed (.ok ()))) := by
  cases token with
  | none => exact .inl ⟨_, rfl⟩
  | some token =>
    rw [Guard.resume.eq_def]
    dsimp only
    split
    · split
      · exact .inl ⟨_, rfl⟩
      · rename_i before
        exact .inr (.inr ⟨token, rfl, .inr ⟨Decidable.not_not.mp before, rfl⟩⟩)
    · rename_i held
      split
      · exact .inl ⟨_, rfl⟩
      rename_i mine
      split
      · exact .inl ⟨_, rfl⟩
      · exact .inr (.inr ⟨token, rfl, .inl ⟨held, Decidable.not_not.mp mine, rfl⟩⟩)
    · split
      · exact .inl ⟨_, rfl⟩
      split
      · exact .inl ⟨_, rfl⟩
      · exact .inr (.inl rfl)
    · split
      · exact .inl ⟨_, rfl⟩
      split
      · exact .inl ⟨_, rfl⟩
      · exact .inr (.inl rfl)
    · exact .inl ⟨_, rfl⟩

theorem resume_moves (cancelled : Bool) (token : Option Token) :
    Moves call guard (.resume token) (guard.resume cancelled token) := by
  rcases resume_cases guard cancelled token with ⟨cause, failed⟩ | waits | ⟨own, rfl, ⟨held, mine, done⟩ | ⟨_, done⟩⟩
  · rw [failed]
    exact .stay rfl rfl trivial
  · rw [waits]
    exact .stay rfl rfl trivial
  · obtain ⟨revision, fields⟩ := setPause_fields (guard.setPause .resuming .startupGuard) .open_ .none_
    obtain ⟨earlier, resuming⟩ := setPause_fields guard .resuming .startupGuard
    rw [done, Guard.release, fields, resuming, mine]
    exact .calm (.released rfl held mine) trivial rfl rfl rfl
  · rw [done]
    exact .calm .again trivial rfl rfl rfl

theorem act_moves (choice : Choice) (runtime : Runtime) (serves : thread.Serves runtime.toGuard call) :
    Moves call runtime.toGuard thread
      ((runtime.act (call, choice) thread).1.toGuard, (runtime.act (call, choice) thread).2) := by
  cases thread with
  | run =>
    rw [Runtime.act]
    split
    · exact .stay rfl rfl trivial
    · dsimp only
      split <;> exact .stay rfl rfl trivial
  | reading =>
    rw [Runtime.act]
    split
    · exact .stay rfl rfl trivial
    · dsimp only
      split <;> exact .stay rfl rfl trivial
  | begin work =>
    rw [Runtime.act]
    split
    · exact .stay rfl rfl trivial
    rw [Runtime.on, Guard.beginWork]
    split
    · rename_i open_
      exact ⟨.admitted open_, trivial, fun _ => rfl⟩
    split <;> exact .stay rfl rfl trivial
  | beginWait work =>
    rw [Runtime.act]
    dsimp only
    split <;> exact .stay rfl rfl trivial
  | working work =>
    rw [Runtime.act]
    dsimp only
    have done (next : Location) (rest : next.isWorking = false) (serves : next.Serves
        { runtime.toGuard with activeWork := runtime.activeWork - 1 } call) : Moves call runtime.toGuard (.working work)
        ({ runtime.toGuard with activeWork := runtime.activeWork - 1 }, next) := by
      refine ⟨.finished, serves, fun room => ?_⟩
      have positive := room rfl
      rw [rest]
      simp only [Location.isWorking, if_true, Bool.false_eq_true, if_false]
      omega
    split
    · exact done _ rfl trivial
    · split <;> exact done _ rfl trivial
  | checkStop =>
    rw [Runtime.act]
    dsimp only
    split
    · exact .stay rfl rfl trivial
    · split <;> exact .stay rfl rfl trivial
  | finishing =>
    rw [Runtime.act]
    dsimp only
    split
    · exact .stay rfl rfl trivial
    · exact stop_moves rfl rfl fun _ => trivial
  | pause acquired =>
    rw [Runtime.act]
    split
    · exact .stay rfl rfl trivial
    · exact pause_moves _ acquired (by cases acquired <;> exact serves) rfl
  | pauseWait acquired =>
    rw [Runtime.act]
    split
    · exact cancelPause_moves acquired serves rfl
    · exact .stay rfl rfl (by cases acquired <;> exact serves)
  | resume token =>
    rw [Runtime.act]
    split
    · exact .stay rfl rfl trivial
    · exact resume_moves _ token
  | requestStop =>
    rw [Runtime.act]
    split
    · exact .stay rfl rfl trivial
    · exact stop_moves rfl rfl fun _ => trivial
  | close =>
    rw [Runtime.act]
    split
    · exact .stay rfl rfl trivial
    · exact stop_moves rfl rfl fun _ => trivial
  | closeJoin =>
    rw [Runtime.act]
    split <;> exact .stay rfl rfl trivial
  | paused result => exact .stay rfl rfl serves
  | resumed result => exact .stay rfl rfl trivial
  | resumeWait token => exact .stay rfl rfl trivial
  | returned => exact .stay rfl rfl trivial

end Steps

structure Sound (world : World) : Prop where
  guard : world.shared.toGuard.Sound
  counted : world.shared.activeWork = world.threads.countP Location.isWorking
  serves : ∀ (index : Nat) thread, world.threads[index]? = some thread → thread.Serves world.shared.toGuard index

theorem starts_facts {location : Location} (starts : location.starts = true) (guard : Guard) (call : Nat) :
    location.isWorking = false ∧ location.Serves guard call := by
  revert starts
  rw [Location.starts.eq_def]
  split <;> simp [Location.isWorking, Location.Serves]

theorem step_sound (world : World) (turn : Turn Location Choice) (sound : Sound world) :
    Sound (step world turn) ∧ (world.shared.phase = .stopped → (step world turn).shared.phase = .stopped) := by
  cases turn with
  | spawn call =>
    rw [step]
    split
    · rename_i starts
      refine ⟨⟨sound.guard, ?_, fun index thread found => ?_⟩, fun stopped => stopped⟩
      · rw [Interleaving.step, List.countP_append, List.countP_singleton, (starts_facts starts {} 0).1]
        exact sound.counted
      · rw [Interleaving.step, List.getElem?_append] at found
        split at found
        · exact sound.serves index thread found
        · cases List.mem_singleton.mp (List.mem_of_getElem? found)
          exact (starts_facts starts _ _).2
    · exact ⟨sound, fun stopped => stopped⟩
  | act index choice =>
    rw [step]
    rcases step_cases Runtime.act world (.act index (index, choice)) with
      same | ⟨thread, turn, _⟩ | ⟨_, _, thread, turn, at_, moved⟩
    · rw [same]
      exact ⟨sound, fun stopped => stopped⟩
    · cases turn
    cases turn
    rw [moved]
    obtain ⟨change, serves, work⟩ := act_moves choice world.shared (sound.serves index thread at_)
    have balance := countP_set Location.isWorking at_ (world.shared.act (index, choice) thread).2
    have moved := work fun working => sound.counted ▸ countP_pos at_ working
    refine ⟨⟨change.sound sound.guard, ?_, fun other waiting found => ?_⟩, change.stays_stopped⟩
    · have counted := sound.counted
      dsimp only at moved ⊢
      omega
    · by_cases here : index = other
      · subst here
        rw [List.getElem?_set_self (List.getElem?_eq_some_iff.mp at_).1] at found
        cases found
        exact serves
      · rw [List.getElem?_set_ne here] at found
        exact change.serves_other (sound.serves other waiting found)

theorem reachable_sound (turns : List (Turn Location Choice)) : Sound (Runs.run step start turns) := by
  refine Runs.always (fun world turn sound => (step_sound world turn sound).1) ⟨?_, rfl, ?_⟩ turns
  · exact ⟨by simp [start], by simp [start], by simp [start], by simp [start]⟩
  · intro index thread found
    cases found

/-- A success names the barrier that is up or one that was released, and another token changes nothing. -/
theorem act_resume {runtime : Runtime} (choice : Nat × Choice) (token : Option Token)
    (sound : runtime.toGuard.Sound) :
    ((runtime.act choice (.resume token)).2 = .resumed (.ok ()) → ∃ own, token = some own ∧
      (runtime.phase = .held ∧ runtime.lease = some own ∨ .resumed own ∈ runtime.history)) ∧
    (token ≠ runtime.lease → (runtime.act choice (.resume token)).1.phase = runtime.phase) := by
  rw [Runtime.act]
  split
  · exact ⟨by simp, fun _ => rfl⟩
  rw [Runtime.on]
  rcases resume_cases runtime.toGuard choice.2.cancelled token with
    ⟨cause, failed⟩ | waits | ⟨own, rfl, ⟨held, mine, done⟩ | ⟨released, done⟩⟩
  · rw [failed]
    exact ⟨by simp, fun _ => rfl⟩
  · rw [waits]
    exact ⟨by simp, fun _ => rfl⟩
  · exact ⟨fun _ => ⟨own, rfl, .inl ⟨held, mine⟩⟩, fun wrong => absurd mine.symm wrong⟩
  · rw [done]
    exact ⟨fun _ => ⟨own, rfl, .inr (sound.released own released)⟩, fun _ => rfl⟩

theorem startup_guard_barrier (turns : List (Turn Location Choice)) :
    let world := Runs.run step start turns
    let guard := world.shared.toGuard
    (∀ (index : Nat) lease, world.threads[index]? = some (.paused (.ok lease)) →
      .resumed lease.token ∉ guard.history → guard.phase ≠ .stopped →
        (∀ thread ∈ world.threads, thread.isWorking = false) ∧
        ∀ work, (guard.beginWork work).2.isWorking = false) ∧
    (∀ (index : Nat) choice token, world.threads[index]? = some (.resume token) →
      ((world.shared.act (index, choice) (.resume token)).2 = .resumed (.ok ()) → ∃ own, token = some own ∧
        (guard.phase = .held ∧ guard.lease = some own ∨ .resumed own ∈ guard.history)) ∧
      (token ≠ guard.lease → (world.shared.act (index, choice) (.resume token)).1.phase = guard.phase)) ∧
    (∀ (index : Nat) choice thread, world.threads[index]? = some thread → guard.phase ≠ .open_ →
      (world.shared.act (index, choice) thread).1.phase = .open_ →
        ∃ token, guard.lease = some token ∧ (thread = .resume (some token) ∨
          .closed index token ∈ guard.history ∧ ∀ other, .closed other token ∈ guard.history → other = index)) ∧
    ∀ turn, guard.phase = .stopped → (step world turn).shared.phase = .stopped := by
  intro world guard
  have sound : Sound world := reachable_sound turns
  refine ⟨?_, ?_, ?_, fun turn => (step_sound world turn sound).2⟩
  · intro index lease found unreleased running
    rcases sound.serves index _ found with ⟨held, _⟩ | stopped | released
    · have none : world.threads.countP Location.isWorking = 0 := sound.counted ▸ sound.guard.drained held
      refine ⟨fun thread member => eq_false_of_ne_true (List.countP_eq_zero.mp none thread member), fun work => ?_⟩
      simp [Guard.beginWork, guard, held, Location.isWorking]
    · exact absurd stopped running
    · exact absurd released unreleased
  · intro index choice token _
    exact act_resume (index, choice) token sound.guard
  · intro index choice thread found closed opened
    obtain ⟨token, mine, resumes | own⟩ :=
      (act_moves choice world.shared (sound.serves index thread found)).change.reopened_by closed opened
    · exact ⟨token, mine, .inl resumes⟩
    · exact ⟨token, mine, .inr ⟨own, fun other also => sound.guard.once other index token also own⟩⟩

end WgMix.FakeTcp.StartupGuard
