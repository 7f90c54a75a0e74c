import Mathlib.Data.List.Perm.Basic
import Mathlib.Logic.Function.Basic
import WgMix.Foundation.Runs

/-! The lifecycle lease and the maintenance gate in front of it. Callers of any number of processes take turns at
two lock files. What those paths name, and every attribute of the files, may be changed by others at any time, so
each inspection is answered from outside; only `flock` ownership is state here, and what a call inspects between
two changes of it belongs to the later one. -/
namespace WgMix.Lockfile
open Runs

structure LockIdentity where
  device : UInt64
  inode : UInt64
  mountId : UInt64
  mode : UInt32
  uid : UInt32
  gid : UInt32
  links : UInt64
  deriving DecidableEq

namespace LockIdentity
variable (identity other : LockIdentity)

def sameObject : Bool :=
  identity.device = other.device ∧ identity.inode = other.inode ∧ identity.mountId = other.mountId ∧
    identity.mode &&& 0o170000 = other.mode &&& 0o170000

def sameSecuredDirectory : Bool :=
  identity.sameObject other ∧ identity.uid = other.uid ∧ identity.gid = other.gid ∧
    identity.mode &&& 0o7777 = other.mode &&& 0o7777

def sameSecuredFile : Bool := identity.sameSecuredDirectory other ∧ identity.links = other.links

def validateFile (euid : UInt32) : Bool :=
  identity.mode &&& 0o170000 = 0o100000 ∧ identity.uid = euid ∧ identity.mode &&& 0o7777 = 0o600 ∧
    identity.links = 1

def validateDirectory (euid : UInt32) : Bool :=
  identity.mode &&& 0o170000 = 0o040000 ∧ identity.uid = euid ∧ identity.mode &&& 0o022 = 0

/-- The object that `flock` locks. -/
def file : UInt64 × UInt64 := (identity.device, identity.inode)

end LockIdentity

abbrev File := UInt64 × UInt64

structure AnchoredLock where
  parentIdentity : LockIdentity
  fileIdentity : LockIdentity
  deriving DecidableEq

/-- The answers to the four inspections of one validation; `none` is a failed one. -/
structure Inspection where
  parentHeld : Option LockIdentity
  parentNamed : Option LockIdentity
  fileHeld : Option LockIdentity
  fileNamed : Option LockIdentity

namespace AnchoredLock

def file (lock : AnchoredLock) : File := lock.fileIdentity.file

def validate (euid : UInt32) (lock : AnchoredLock) (seen : Inspection) : Bool :=
  match seen.parentHeld, seen.parentNamed, seen.fileHeld, seen.fileNamed with
  | some parent, some namedParent, some file, some named =>
    parent.validateDirectory euid ∧ lock.parentIdentity.sameSecuredDirectory parent ∧
      parent.sameSecuredDirectory namedParent ∧ file.validateFile euid ∧
      lock.fileIdentity.sameSecuredFile file ∧ file.sameSecuredFile named
  | _, _, _, _ => false

theorem validate_named {lock : AnchoredLock} (valid : lock.validate euid seen = true) :
    seen.fileNamed.map LockIdentity.file = some lock.file := by
  rw [validate] at valid
  split at valid
  · rename_i named _ _ _ found
    simp only [LockIdentity.sameSecuredFile, LockIdentity.sameSecuredDirectory, LockIdentity.sameObject,
      decide_eq_true_eq] at valid
    obtain ⟨_, _, _, _, held, there⟩ := valid
    rw [found, Option.map_some, file, LockIdentity.file, LockIdentity.file, held.1.1.1, there.1.1.1,
      held.1.1.2.1, there.1.1.2.1]
  · cases valid

end AnchoredLock

/-- The answers while a lock file is opened; `secured` says that the mode of a new file was set and synced. -/
structure Opening where
  parent : Option LockIdentity
  file : Option LockIdentity
  secured : Bool
  named : Option LockIdentity
  inspection : Inspection

def openAnchoredLifecycleLock (euid : UInt32) (seen : Opening) : Option AnchoredLock :=
  match seen.parent, seen.file, seen.named with
  | some parent, some file, some named =>
    if parent.validateDirectory euid ∧ seen.secured ∧ file.validateFile euid ∧ file.sameSecuredFile named ∧
        AnchoredLock.validate euid ⟨parent, file⟩ seen.inspection then some ⟨parent, file⟩
    else none
  | _, _, _ => none

/-- A lock that `flock` granted. Its open file description is numbered by `acquisition`; a retained lease has
the description of the lease it was made from. -/
structure Lock extends AnchoredLock where
  acquisition : Nat
  deriving DecidableEq

inductive Stage where
  | gate
  | lease
  deriving DecidableEq

/-- `hand` has the locks of the calls under way and of the open maintenances; `leases` are the open leases of all
processes, duplicates included. -/
structure Locks where
  holder : File → Option Nat := fun _ => none
  taken : Nat := 0
  hand : Nat × Stage → Option Lock := fun _ => none
  leases : List Lock := []

namespace Locks
variable (locks : Locks)

def take (place : Nat × Stage) (lock : AnchoredLock) : Locks :=
  { locks with
    holder := Function.update locks.holder lock.file (some locks.taken)
    taken := locks.taken + 1
    hand := Function.update locks.hand place (some ⟨lock, locks.taken⟩) }

/-- The last descriptor of a description is closed, or its lock is given up before that. -/
def unlock (lock : Lock) : Locks :=
  { locks with holder := if locks.holder lock.file = some lock.acquisition
      then Function.update locks.holder lock.file none else locks.holder }

def release (place : Nat × Stage) (lock : Lock) : Locks :=
  { locks.unlock lock with hand := Function.update locks.hand place none }

/-- A call returns the lease that it acquired. -/
def giveOut (id : Nat) (lease : Lock) : Locks :=
  { locks with leases := lease :: locks.leases, hand := Function.update locks.hand (id, .lease) none }

def retain (euid : UInt32) (first second : Inspection) (index : Nat) : Locks :=
  match locks.leases[index]? with
  | none => locks
  | some lease =>
    if lease.validate euid first ∧ lease.validate euid second then { locks with leases := lease :: locks.leases }
    else locks

def close (index : Nat) : Locks :=
  match locks.leases[index]? with
  | none => locks
  | some lease =>
    let rest := locks.leases.eraseIdx index
    if lease.acquisition ∈ rest.map (·.acquisition) then { locks with leases := rest }
    else { locks.unlock lease with leases := rest }

/-- Every acquisition is at one place, every lock that is somewhere is held, and no other is. -/
structure Sound : Prop where
  handFresh : locks.hand place = some lock → lock.acquisition < locks.taken
  leaseFresh : lock ∈ locks.leases → lock.acquisition < locks.taken
  alone : locks.hand place = some lock → locks.hand place' = some lock' → lock.acquisition = lock'.acquisition →
    place = place'
  inside : locks.hand place = some lock → lock' ∈ locks.leases → lock.acquisition ≠ lock'.acquisition
  twins : lock ∈ locks.leases → lock' ∈ locks.leases → lock.acquisition = lock'.acquisition → lock = lock'
  handLocked : locks.hand place = some lock → locks.holder lock.file = some lock.acquisition
  leaseLocked : lock ∈ locks.leases → locks.holder lock.file = some lock.acquisition
  used : locks.holder file = some number → ∃ lock : Lock, lock.file = file ∧ lock.acquisition = number ∧
    (lock ∈ locks.leases ∨ ∃ place, locks.hand place = some lock)

/-- What one step of a caller can do to the locks. -/
inductive Change (euid : UInt32) (opening : Opening) (id : Nat) : Locks → Prop where
  | keep : Change euid opening id locks
  | take (stage : Stage) (lock : AnchoredLock) (found : openAnchoredLifecycleLock euid opening = some lock)
      (free : locks.holder lock.file = none) (empty : locks.hand (id, stage) = none)
      (ready : stage = .lease → ∃ gate, locks.hand (id, .gate) = some gate) :
      Change euid opening id (locks.take (id, stage) lock)
  | release (stage : Stage) (lock : Lock) (held : locks.hand (id, stage) = some lock) :
      Change euid opening id (locks.release (id, stage) lock)
  | giveOut (lease : Lock) (held : locks.hand (id, .lease) = some lease) :
      Change euid opening id (locks.giveOut id lease)
  | retain (first second : Inspection) (index : Nat) : Change euid opening id (locks.retain euid first second index)
  | close (index : Nat) : Change euid opening id (locks.close index)

theorem unlock_held {locks : Locks} {lock : Lock} (held : locks.holder lock.file = some lock.acquisition) :
    locks.unlock lock = { locks with holder := Function.update locks.holder lock.file none } := by
  rw [unlock, if_pos held]

theorem Sound.initial : Sound {} := ⟨nofun, nofun, nofun, nofun, nofun, nofun, nofun, nofun⟩

/-- No lock is taken, and no hand but the caller's changes. -/
structure Shrinks (id : Nat) (after : Locks) : Prop where
  hand : after.hand place = some lock → locks.hand place = some lock
  others : place.1 ≠ id → after.hand place = locks.hand place
  holder : after.holder file = some number → locks.holder file = some number

theorem Change.shrinks {locks : Locks} {id : Nat} (change : locks.Change euid opening id after) :
    locks.Shrinks id after ∨ ∃ stage lock, openAnchoredLifecycleLock euid opening = some lock ∧
      locks.holder lock.file = none ∧ locks.hand (id, stage) = none ∧
      (stage = .lease → ∃ gate, locks.hand (id, .gate) = some gate) ∧ after = locks.take (id, stage) lock := by
  have freed {lock : Lock} {file : File} {number : Nat} (found : (locks.unlock lock).holder file = some number) :
      locks.holder file = some number := by
    simp only [unlock] at found
    split at found
    · rw [Function.update_apply] at found
      exact (Option.ite_none_left_eq_some.mp found).2
    · exact found
  cases change with
  | keep => exact .inl ⟨fun same => same, fun _ => rfl, fun same => same⟩
  | take stage lock found free empty ready => exact .inr ⟨stage, lock, found, free, empty, ready, rfl⟩
  | release stage lock held =>
    left
    constructor <;> simp only [Locks.release, Function.update_apply] <;> grind
  | giveOut lease held =>
    left
    constructor <;> simp only [Locks.giveOut, Function.update_apply] <;> grind
  | retain first second index =>
    left
    constructor <;> grind [Locks.retain]
  | close index =>
    left
    constructor <;> grind [Locks.close, unlock]

section Sound
variable {locks : Locks} {id : Nat} (sound : locks.Sound)
include sound

theorem Sound.retain (index : Nat) : (locks.retain euid first second index).Sound := by
  rw [Locks.retain]
  split
  · exact sound
  · rename_i lease found
    have member := List.mem_of_getElem? found
    split
    · cases sound
      constructor <;> simp only [List.mem_cons] <;> grind
    · exact sound

theorem Sound.close (index : Nat) : (locks.close index).Sound := by
  rw [Locks.close]
  split
  · exact sound
  · rename_i lease found
    have rest (other : Lock) : other ∈ locks.leases ↔ other = lease ∨ other ∈ locks.leases.eraseIdx index := by
      obtain ⟨inside, rfl⟩ := List.getElem?_eq_some_iff.mp found
      exact (List.getElem_cons_eraseIdx_perm inside).mem_iff.symm.trans List.mem_cons
    have freed := unlock_held (sound.leaseLocked ((rest lease).mpr (.inl rfl)))
    cases sound
    dsimp only
    generalize locks.leases.eraseIdx index = others at *
    split
    · constructor <;> grind
    · constructor <;> simp only [freed, Function.update_apply] <;> grind

theorem Sound.change (changed : locks.Change euid opening id after) : after.Sound := by
  have ⟨handFresh, leaseFresh, alone, inside, twins, handLocked, leaseLocked, used⟩ := sound
  cases changed with
  | keep => exact sound
  | take stage lock found free empty ready =>
    constructor <;> simp only [Locks.take, Function.update_apply]
    case used =>
      intro file number found
      split at found
      · exact ⟨⟨lock, locks.taken⟩, by grind, by grind, .inr ⟨_, if_pos rfl⟩⟩
      · grind
    all_goals grind
  | release stage lock held =>
    constructor <;> simp only [Locks.release, unlock_held (handLocked held), Function.update_apply] <;> grind
  | giveOut lease held =>
    constructor <;> simp only [Locks.giveOut, Function.update_apply, List.mem_cons] <;> grind
  | retain first second index => exact sound.retain index
  | close index => exact sound.close index

end Sound
end Locks

/-- Where a caller stands: its last lock is to be validated and recorded, it has the gate, or it gives the gate
and then the lease out of its hands. -/
inductive Location where
  | idle
  | settlingGate
  | gated
  | settlingLease
  | closing
  | handing (clean : Bool)

/-- `once`: the caller runs `AcquireLifecycleAt`, which gives the gate back at its end. -/
structure Caller where
  once : Bool := false
  location : Location := .idle

inductive Command where
  | begin (once : Bool)
  | tryAcquire
  | closeGate
  | retain (index : Nat)
  | close (index : Nat)

structure Choice where
  crash : Bool
  command : Command
  opening : Opening
  fault : Bool
  recorded : Bool
  first : Inspection
  second : Inspection
  third : Inspection
  fourth : Inspection

structure World extends Locks where
  caller : Nat → Caller := fun _ => {}

namespace World
variable (euid : UInt32) (world : World) (id : Nat)

def move (locks : Locks) (location : Location) : World :=
  ⟨locks, Function.update world.caller id { world.caller id with location }⟩

/-- An open lock file and `flock` in its exclusive, non-blocking form. -/
def acquireAnchoredLifecycleLock (choice : Choice) : Option AnchoredLock :=
  (openAnchoredLifecycleLock euid choice.opening).filter fun lock => ¬choice.fault ∧ world.holder lock.file = none

/-- The lease is refused: `AcquireLifecycleAt` ends with it, a maintenance stays open. -/
def refuse (locks : Locks) : World := world.move id locks (if (world.caller id).once then .closing else .gated)

def tryAcquireLifecycle (choice : Choice) (gate : Lock) : World :=
  match if gate.validate euid choice.first then world.acquireAnchoredLifecycleLock euid choice else none with
  | none => world.refuse id world.toLocks
  | some lock => world.move id (world.take (id, .lease) lock) .settlingLease

/-- A crash closes the caller's files one after the other. -/
def exit (gate lease : Option Lock) : World :=
  match lease, gate with
  | some lease, some _ => world.move id (world.release (id, .lease) lease) .closing
  | some lease, none => world.move id (world.release (id, .lease) lease) .idle
  | none, some gate => world.move id (world.release (id, .gate) gate) .idle
  | none, none => world.move id world.toLocks .idle

/-- What a caller does next, with what it has in hand. Between its calls it may use any open lease. -/
def act (choice : Choice) (gate lease : Option Lock) : World :=
  match (world.caller id).location, gate, lease with
  | .idle, none, none =>
    match choice.command with
    | .begin once =>
      match world.acquireAnchoredLifecycleLock euid choice with
      | none => world
      | some lock => ⟨world.take (id, .gate) lock, Function.update world.caller id ⟨once, .settlingGate⟩⟩
    | .retain index => { world with toLocks := world.retain euid choice.first choice.second index }
    | .close index => { world with toLocks := world.close index }
    | .tryAcquire | .closeGate => world
  | .settlingGate, some gate, none =>
    if gate.validate euid choice.first ∧ choice.recorded ∧ gate.validate euid choice.second then
      world.move id world.toLocks .gated
    else world.move id (world.release (id, .gate) gate) .idle
  | .gated, some gate, none =>
    match (world.caller id).once, choice.command with
    | true, _ | false, .tryAcquire => world.tryAcquireLifecycle euid id choice gate
    | false, .closeGate => world.move id (world.release (id, .gate) gate) .idle
    | false, _ => world
  | .settlingLease, some gate, some lease =>
    if lease.validate euid choice.first ∧ choice.recorded ∧ lease.validate euid choice.second ∧
        gate.validate euid choice.third ∧ lease.validate euid choice.fourth then
      if (world.caller id).once then world.move id world.toLocks .closing
      else world.move id (world.giveOut id lease) .gated
    else world.refuse id (world.release (id, .lease) lease)
  | .closing, some gate, lease =>
    world.move id (world.release (id, .gate) gate)
      (if lease.isSome then .handing (gate.validate euid choice.first ∧ ¬choice.fault) else .idle)
  | .handing clean, none, some lease =>
    if clean then world.move id (world.giveOut id lease) .idle
    else world.move id (world.release (id, .lease) lease) .idle
  | _, _, _ => world

def step (input : Nat × Choice) : World :=
  let gate := world.hand (input.1, .gate)
  let lease := world.hand (input.1, .lease)
  if input.2.crash then world.exit input.1 gate lease else world.act euid input.1 input.2 gate lease

theorem acquire_change {choice : Choice} (stage : Stage)
    (acquired : world.acquireAnchoredLifecycleLock euid choice = some lock) (empty : world.hand (id, stage) = none)
    (ready : stage = .lease → ∃ gate, world.hand (id, .gate) = some gate) :
    world.Change euid choice.opening id (world.take (id, stage) lock) := by
  obtain ⟨found, free⟩ := Option.filter_eq_some_iff.mp acquired
  exact .take stage lock found (of_decide_eq_true free).2 empty ready

theorem act_change (choice : Choice) (hasGate : world.hand (id, .gate) = gate)
    (hasLease : world.hand (id, .lease) = lease) :
    world.Change euid choice.opening id (world.act euid id choice gate lease).toLocks := by
  unfold act
  split
  · split
    · split
      · exact .keep
      · exact world.acquire_change euid id .gate ‹_› hasGate nofun
    · exact .retain _ _ _
    · exact .close _
    · exact .keep
    · exact .keep
  · split
    · exact .keep
    · exact .release .gate _ hasGate
  · rename_i gate _
    have attempt : world.Change euid choice.opening id (world.tryAcquireLifecycle euid id choice gate).toLocks := by
      rw [tryAcquireLifecycle]
      split
      · exact .keep
      · rename_i acquired
        have acquired := (Option.ite_none_right_eq_some.mp acquired).2
        exact world.acquire_change euid id .lease acquired hasLease fun _ => ⟨gate, hasGate⟩
    split
    · exact attempt
    · exact attempt
    · exact .release .gate _ hasGate
    · exact .keep
  · split_ifs
    · exact .keep
    · exact .giveOut _ hasLease
    · exact .release .lease _ hasLease
  · exact .release .gate _ hasGate
  · split
    · exact .giveOut _ hasLease
    · exact .release .lease _ hasLease
  · exact .keep

theorem step_change (input : Nat × Choice) :
    world.Change euid input.2.opening input.1 (step euid world input).toLocks := by
  rw [step]
  split
  · unfold exit
    split
    · exact .release .lease _ ‹_›
    · exact .release .lease _ ‹_›
    · exact .release .gate _ ‹_›
    · exact .keep
  · exact world.act_change euid _ _ rfl rfl

theorem run_sound (inputs : List (Nat × Choice)) : (run (step euid) {} inputs).Sound :=
  always (P := fun world : World => world.Sound) (fun world input sound => sound.change (world.step_change euid input))
    Locks.Sound.initial inputs

/-- Two leases that are found in place while the path names one file are of one acquisition, and a file is locked
exactly as long as an open lease or the hand of a caller has a lock on it. -/
theorem lease_exclusive (inputs : List (Nat × Choice)) :
    let world := run (step euid) {} inputs
    (∀ first ∈ world.leases, ∀ second ∈ world.leases, ∀ seen seen', first.validate euid seen = true →
      second.validate euid seen' = true →
      seen.fileNamed.map LockIdentity.file = seen'.fileNamed.map LockIdentity.file → first = second) ∧
    ∀ file number, world.holder file = some number ↔ ∃ lock : Lock, lock.file = file ∧ lock.acquisition = number ∧
      (lock ∈ world.leases ∨ ∃ place, world.hand place = some lock) := by
  intro world
  have sound : world.Sound := run_sound euid inputs
  refine ⟨fun first one second two seen seen' valid valid' named => ?_, fun file number => ⟨sound.used, ?_⟩⟩
  · have file := (AnchoredLock.validate_named valid).symm.trans (named.trans (AnchoredLock.validate_named valid'))
    have number := (sound.leaseLocked one).symm.trans (Option.some.inj file ▸ sound.leaseLocked two)
    exact sound.twins one two (Option.some.inj number)
  · rintro ⟨lock, rfl, rfl, open_ | ⟨place, held⟩⟩
    · exact sound.leaseLocked open_
    · exact sound.handLocked held

/-- The maintenance path names this file when a caller without a gate opens a lock file. -/
def opensGate (file : File) (input : Nat × Choice) : Bool :=
  match world.hand (input.1, .gate), openAnchoredLifecycleLock euid input.2.opening with
  | none, some lock => lock.file = file
  | _, _ => true

/-- Every gate in a caller's hands is a lock on one file. -/
structure Guarded (file : File) : Prop where
  sound : world.Sound
  gates : world.hand (other, .gate) = some lock → lock.file = file

section Guarded
variable {euid} {world} {id} {file : File} {gate : Lock} {input : Nat × Choice} (guarded : world.Guarded file)
  (opens : world.opensGate euid file input = true)
include guarded opens

theorem Guarded.step : (step euid world input).Guarded file := by
  obtain ⟨sound, gates⟩ := guarded
  have change := world.step_change euid input
  refine ⟨sound.change change, fun {other lock} held => ?_⟩
  rcases change.shrinks with shrinks | ⟨stage, new, found, free, empty, ready, taken⟩
  · exact gates (shrinks.hand held)
  · simp only [taken, Locks.take, Function.update_apply] at held
    simp only [opensGate, found] at opens
    grind

/-- Nobody but its holder gets past a held gate, so no other caller takes a lock. -/
theorem Guarded.reserves (held : world.hand (id, .gate) = some gate) (other : input.1 ≠ id) :
    world.Shrinks input.1 (World.step euid world input).toLocks := by
  obtain ⟨sound, gates⟩ := guarded
  rcases (world.step_change euid input).shrinks with shrinks | ⟨stage, lock, found, free, empty, ready, taken⟩
  · exact shrinks
  · exfalso
    have locked := gates held ▸ sound.handLocked held
    simp only [opensGate, found] at opens
    cases stage with
    | gate => grind
    | lease =>
      obtain ⟨mine, own⟩ := ready rfl
      have number := (gates own ▸ sound.handLocked own).symm.trans locked
      exact other (Prod.mk.inj (sound.alone own held (Option.some.inj number))).1

end Guarded

/-- As long as the maintenance path names one file: while a caller has the gate and does nothing itself, whatever
all others do, it keeps the gate and no lock is taken, so a lease that was given up stays free for it. -/
theorem gate_reserves_lease (file : File) (gate : Lock) (first second : List (Nat × Choice))
    (opens : Along (step euid) (fun world input => world.opensGate euid file input = true) {} (first ++ second))
    (held : (run (step euid) {} first).hand (id, .gate) = some gate) (rests : ∀ input ∈ second, input.1 ≠ id) :
    (run (step euid) {} (first ++ second)).hand (id, .gate) = some gate ∧
      ∀ named number, (run (step euid) {} (first ++ second)).holder named = some number →
        (run (step euid) {} first).holder named = some number := by
  obtain ⟨early, late⟩ := opens.append
  have guarded : (run (step euid) {} first).Guarded file :=
    invariant (P := fun world => world.Guarded file) (fun _ _ guarded opens => guarded.step opens)
      ⟨Locks.Sound.initial, nofun⟩ early
  rw [run_append]
  clear opens early
  generalize run (step euid) {} first = world at guarded held late
  induction second generalizing world with
  | nil => exact ⟨held, fun _ _ same => same⟩
  | cons input rest ih =>
    obtain ⟨here, later⟩ := late
    have other := rests input List.mem_cons_self
    have shrinks := guarded.reserves here held other
    obtain ⟨stays, more⟩ := ih (fun next member => rests next (List.mem_cons_of_mem _ member)) _
      (guarded.step here) ((shrinks.others other.symm).trans held) later
    exact ⟨stays, fun named number found => shrinks.holder (more named number found)⟩

/-- A maintenance that has the gate, and the start of another caller that is turned away. -/
theorem gate_reserves_lease_once :
    let parent : LockIdentity := ⟨1, 2, 1, 0o040755, 0, 0, 2⟩
    let file : LockIdentity := ⟨1, 7, 1, 0o100600, 0, 0, 1⟩
    let seen : Inspection := ⟨some parent, some parent, some file, some file⟩
    let choice : Choice :=
      ⟨false, .begin false, ⟨some parent, some file, true, some file, seen⟩, false, true, seen, seen, seen, seen⟩
    let world := run (step 0) {} ([(0, choice), (0, choice)] ++ [(1, choice)])
    world.hand (0, .gate) = some ⟨⟨parent, file⟩, 0⟩ ∧ world.holder (1, 7) = some 0 := by
  intro parent file seen choice world
  have reserved := gate_reserves_lease 0 0 (1, 7) ⟨⟨parent, file⟩, 0⟩ [(0, choice), (0, choice)] [(1, choice)]
    ⟨by decide +kernel, by decide +kernel, by decide +kernel, trivial⟩ (by decide +kernel) (by decide)
  exact ⟨reserved.1, by decide +kernel⟩

end World

end WgMix.Lockfile
