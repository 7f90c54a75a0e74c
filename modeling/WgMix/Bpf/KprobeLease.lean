import Mathlib.Logic.Function.Basic
import WgMix.Bpf.FakeTcpEgressSpec

/-! The kernel module for kernels without the helper functions: it issues a cookie to each open file of its device,
and takes over a rejected helper call whose packet carries the cookie of an open file. A section under the lease
lock is one step. The handlers read and write packets without a lock, so each of their accesses and each of their
cookie checks is a step of its own; opens, releases, other calls and writers of the packet come in between. -/
namespace WgMix.Bpf.Kprobe
open ChecksumModule Runs

def maxLeases : Nat := 64
def cookieAttempts : Nat := 128
def prepareMagic : Nat := 0x57475031
def commitProtoMagic : Nat := 0x5747
def einval : Int := -22

structure Lease where
  cookie : UInt64
  slot : Nat
  deriving DecidableEq

/-- An open file, or one that is being opened after so many attempts at a cookie. -/
inductive Device where
  | closed
  | opening (attempt : Nat)
  | opened (lease : Lease)

inductive Scan where
  | duplicate
  | free (slot : Nat)
  | full

/-- The loop over the active cookies, which remembers the first free slot. -/
def scan (cookie : UInt64) : (index : Nat) → (freeSlot : Option Nat) → List UInt64 → Scan
  | _, none, [] => .full
  | _, some slot, [] => .free slot
  | index, freeSlot, active :: rest =>
    if active = cookie then .duplicate
    else scan cookie (index + 1) (if active = 0 ∧ freeSlot = none then some index else freeSlot) rest

/-- The helper that was called, with its arguments. -/
inductive Trigger where
  | changeType (type : Nat)
  | changeProto (proto : Nat) (flags : UInt64)

def Trigger.ours : Trigger → Bool
  | .changeType type => type = prepareMagic
  | .changeProto proto flags => proto = commitProtoMagic ∧ flags ≠ 0

structure Packet where
  skb : Skb
  hidden : SkbMeta

def word (cb : Fin 5 → Nat) (index : Nat) : Nat := (List.ofFn cb).getD index 0

/-- The cookie in the first two words of a packet's control block. -/
def cookieOf (cb : Fin 5 → Nat) : UInt64 := UInt64.ofNat (word cb 0 + 2 ^ 32 * word cb 1)

/-- What an entry handler leaves for the return handler. -/
structure Instance where
  packet : Nat
  trigger : Trigger
  rawCb : Fin 5 → Nat

/-- The last step of a helper call's handlers: snapshot and cookie check on entry; comparison, cookie check and
clearing of the descriptor on return. -/
inductive Phase where
  | snapshot
  | entered
  | compared
  | checked
  | cleared
  deriving DecidableEq

structure Bridge where
  active : List UInt64 := List.replicate maxLeases 0
  device : Nat → Device := fun _ => .closed
  packet : Nat → Packet
  pending : Nat → Option (Phase × Instance) := fun _ => none
  errors : Nat := 0

inductive Event where
  | open_ (file : Nat) (allocated : Bool)
  | attempt (file : Nat) (cookie : UInt64)
  | release (file : Nat)
  | enter (call packet : Nat) (trigger : Trigger)
  | proceed (call : Nat) (returned : Int) (allocation : ChecksumModule.Allocation)
  | touch (packet : Nat) (contents : Packet)

namespace Bridge
variable (bridge : Bridge)

def set (file : Nat) (device : Device) : Bridge := { bridge with device := Function.update bridge.device file device }

def cookieActive (cookie : UInt64) : Bool := cookie ≠ 0 ∧ cookie ∈ bridge.active

def again (file attempt : Nat) : Bridge :=
  bridge.set file (if attempt + 1 < cookieAttempts then .opening (attempt + 1) else .closed)

def insertCookie (file attempt : Nat) (cookie : UInt64) : Bridge :=
  if cookie = 0 then bridge.again file attempt
  else
    match scan cookie 0 none bridge.active with
    | .duplicate => bridge.again file attempt
    | .free slot => { bridge with active := bridge.active.set slot cookie }.set file (.opened ⟨cookie, slot⟩)
    | .full => bridge.set file .closed

def deviceRelease (file : Nat) (lease : Lease) : Bridge :=
  if bridge.active[lease.slot]? = some lease.cookie then
    { bridge with active := bridge.active.set lease.slot 0 }.set file .closed
  else { bridge with errors := bridge.errors + 1 }.set file .closed

/-- The bridge function behind a trigger; a rejection leaves the packet alone. -/
def serve (allocation : ChecksumModule.Allocation) (packet : Packet) (rawCb : Fin 5 → Nat) : Trigger → Packet
  | .changeType _ =>
    match prepareUdp allocation packet.skb packet.hidden (word rawCb 2) (word rawCb 3) (word rawCb 4) with
    | .ok (_, skb, hidden) => ⟨skb, hidden⟩
    | .error _ => packet
  | .changeProto _ flags =>
    match commitUdpGso packet.skb packet.hidden (word rawCb 2) (word rawCb 3) (UInt32.ofNat (word rawCb 4)) flags with
    | .ok (skb, hidden) => ⟨skb, hidden⟩
    | .error _ => packet

def move (call : Nat) (next : Option (Phase × Instance)) : Bridge :=
  { bridge with pending := Function.update bridge.pending call next }

def write (packet : Nat) (contents : Packet) : Bridge :=
  { bridge with packet := Function.update bridge.packet packet contents }

/-- The return handler leaves the helper's answer as it is. -/
def decline (call : Nat) : Bridge := { bridge.move call none with errors := bridge.errors + 1 }

/-- The next step of a call's handlers; `returned` is what the helper itself returned. -/
def proceed (call : Nat) (returned : Int) (allocation : ChecksumModule.Allocation) (instance_ : Instance) :
    Phase → Bridge
  | .snapshot =>
    if bridge.cookieActive (cookieOf instance_.rawCb) then bridge.move call (some (.entered, instance_))
    else bridge.move call none
  | .entered =>
    if returned ≠ einval then bridge.move call none
    else if (bridge.packet instance_.packet).skb.cb = instance_.rawCb then
      bridge.move call (some (.compared, instance_))
    else bridge.decline call
  | .compared =>
    if bridge.cookieActive (cookieOf instance_.rawCb) then bridge.move call (some (.checked, instance_))
    else bridge.decline call
  | .checked =>
    let before := bridge.packet instance_.packet
    (bridge.move call (some (.cleared, instance_))).write instance_.packet
      { before with skb := { before.skb with cb := fun _ => 0 } }
  | .cleared =>
    (bridge.move call none).write instance_.packet
      (serve allocation (bridge.packet instance_.packet) instance_.rawCb instance_.trigger)

def step (bridge : Bridge) : Event → Bridge
  | .open_ file allocated =>
    match bridge.device file with
    | .closed => if allocated then bridge.set file (.opening 0) else bridge
    | _ => bridge
  | .attempt file cookie =>
    match bridge.device file with
    | .opening attempt => bridge.insertCookie file attempt cookie
    | _ => bridge
  | .release file =>
    match bridge.device file with
    | .opened lease => bridge.deviceRelease file lease
    | _ => bridge
  | .enter call packet trigger =>
    if bridge.pending call = none ∧ trigger.ours then
      bridge.move call (some (.snapshot, ⟨packet, trigger, (bridge.packet packet).skb.cb⟩))
    else bridge
  | .proceed call returned allocation =>
    match bridge.pending call with
    | none => bridge
    | some (phase, instance_) => bridge.proceed call returned allocation instance_ phase
  | .touch packet contents => bridge.write packet contents

/-- As many files are open as there are slots. -/
def Full : Prop :=
  ∃ files : List Nat, files.Nodup ∧ files.length = maxLeases ∧
    ∀ file ∈ files, ∃ lease, bridge.device file = .opened lease

/-- A slot holds a cookie exactly if it is the slot of the open file that the cookie was issued to. -/
structure Leased : Prop where
  size : bridge.active.length = maxLeases
  named : bridge.device file = .opened lease → lease.cookie ≠ 0 ∧ bridge.active[lease.slot]? = some lease.cookie
  owned {slot : Nat} : bridge.active[slot]? = some cookie → cookie ≠ 0 →
    ∃ file, bridge.device file = .opened ⟨cookie, slot⟩
  single : bridge.device file = .opened lease → bridge.device other = .opened lease' →
    lease.slot = lease'.slot → file = other
  distinct {slot slot' : Nat} : bridge.active[slot]? = some cookie → bridge.active[slot']? = some cookie →
    cookie ≠ 0 → slot = slot'

theorem scan_spec (cookie : UInt64) (index : Nat) (freeSlot : Option Nat) (rest : List UInt64) :
    match scan cookie index freeSlot rest with
    | .duplicate => cookie ∈ rest
    | .free slot => cookie ∉ rest ∧ (freeSlot = some slot ∨ index ≤ slot ∧ rest[slot - index]? = some 0)
    | .full => cookie ∉ rest ∧ 0 ∉ rest ∧ freeSlot = none := by
  fun_induction scan with
  | case1 => simp
  | case2 => simp
  | case3 index freeSlot rest => simp
  | case4 index freeSlot active rest other ih =>
    have next (slot : Nat) (after : index + 1 ≤ slot) :
        (active :: rest)[slot - index]? = rest[slot - (index + 1)]? := by
      rw [show slot - index = slot - (index + 1) + 1 by omega, List.getElem?_cons_succ]
    grind

section Leases
variable {bridge : Bridge} {file slot : Nat} {lease : Lease} {cookie : UInt64} {next : Device}

theorem Leased.initial (packet : Nat → Packet) : Leased { packet } := by
  have zero {slot : Nat} {cookie : UInt64} (found : (List.replicate maxLeases (0 : UInt64))[slot]? = some cookie) :
      cookie = 0 := List.eq_of_mem_replicate (List.mem_of_getElem? found)
  exact ⟨List.length_replicate, nofun, fun found real => absurd (zero found) real, nofun,
    fun found _ real => absurd (zero found) real⟩

/-- A file that has no lease moves on without one. -/
theorem Leased.unleased (leased : bridge.Leased) (before : ∀ lease, bridge.device file ≠ .opened lease)
    (after : ∀ lease, next ≠ .opened lease) : (bridge.set file next).Leased := by
  cases leased
  constructor <;> simp only [set, Function.update_apply] <;> grind

theorem Leased.insert (leased : bridge.Leased) (before : ∀ lease, bridge.device file ≠ .opened lease)
    (real : cookie ≠ 0) (absent : cookie ∉ bridge.active) (free : bridge.active[slot]? = some 0) :
    ({ bridge with active := bridge.active.set slot cookie }.set file (.opened ⟨cookie, slot⟩)).Leased := by
  cases leased
  have elsewhere {slot'} (found : bridge.active[slot']? = some cookie) : False :=
    absent (List.mem_of_getElem? found)
  constructor <;> simp only [set, Function.update_apply, List.getElem?_set] <;> grind

theorem Leased.release (leased : bridge.Leased) (held : bridge.device file = .opened lease) :
    ({ bridge with active := bridge.active.set lease.slot 0 }.set file .closed).Leased := by
  cases leased
  constructor <;> simp only [set, Function.update_apply, List.getElem?_set] <;> grind

theorem Leased.step (leased : bridge.Leased) (event : Event) : (bridge.step event).Leased := by
  cases event with
  | open_ file allocated =>
    rw [Bridge.step]
    split
    · rename_i closed
      split
      · exact leased.unleased (by simp [closed]) nofun
      · exact leased
    · exact leased
  | attempt file cookie =>
    rw [Bridge.step]
    split
    · rename_i attempt opening
      have before (lease : Lease) : bridge.device file ≠ .opened lease := by simp [opening]
      have again : (bridge.again file attempt).Leased :=
        leased.unleased before fun lease => by split <;> exact nofun
      rw [insertCookie]
      split
      · exact again
      · rename_i real
        have spec := scan_spec cookie 0 none bridge.active
        cases found : scan cookie 0 none bridge.active with
        | duplicate => exact again
        | free slot =>
          simp only [found, reduceCtorEq, false_or] at spec
          exact leased.insert before real spec.1 spec.2.2
        | full => exact leased.unleased before nofun
    · exact leased
  | release file =>
    rw [Bridge.step]
    split
    · rename_i lease held
      rw [deviceRelease, if_pos (leased.named held).2]
      exact leased.release held
    · exact leased
  | enter call packet trigger =>
    simp only [Bridge.step]
    split
    · exact { leased with }
    · exact leased
  | proceed call returned allocation =>
    simp only [Bridge.step]
    split
    · exact leased
    · rename_i phase instance_ _
      cases phase <;> simp only [proceed] <;> repeat' split
      all_goals exact { leased with }
  | touch packet contents => exact { leased with }

theorem Leased.active_iff (leased : bridge.Leased) (cookie : UInt64) :
    bridge.cookieActive cookie = true ↔ ∃ file slot, bridge.device file = .opened ⟨cookie, slot⟩ := by
  simp only [cookieActive, decide_eq_true_eq, List.mem_iff_getElem?]
  constructor
  · rintro ⟨real, slot, found⟩
    obtain ⟨file, held⟩ := leased.owned found real
    exact ⟨file, slot, held⟩
  · rintro ⟨file, slot, held⟩
    obtain ⟨real, found⟩ := leased.named held
    exact ⟨real, slot, found⟩

end Leases

theorem run_leased (packet : Nat → Packet) (events : List Event) : (run step { packet } events).Leased :=
  always (fun _ event leased => leased.step event) (Leased.initial packet) events

theorem Leased.issues {bridge : Bridge} (leased : bridge.Leased) (opening : bridge.device file = .opening attempt)
    (real : cookie ≠ 0) (absent : bridge.cookieActive cookie = false) :
    (∃ slot, (bridge.step (.attempt file cookie)).device file = .opened ⟨cookie, slot⟩) ∨ bridge.Full := by
  have spec := scan_spec cookie 0 none bridge.active
  simp only [cookieActive, decide_eq_false_iff_not] at absent
  cases found : scan cookie 0 none bridge.active with
  | duplicate =>
    rw [found] at spec
    exact absurd ⟨real, spec⟩ absent
  | free slot => exact .inl ⟨slot, by simp [Bridge.step, opening, insertCookie, real, found, set]⟩
  | full =>
    simp only [found] at spec
    have owner (slot : Fin maxLeases) : ∃ other cookie, bridge.device other = .opened ⟨cookie, slot⟩ := by
      have inside : slot < bridge.active.length := by rw [leased.size]; exact slot.isLt
      obtain ⟨other, held⟩ := leased.owned (List.getElem?_eq_getElem inside)
        fun zero => spec.2.1 (zero ▸ List.getElem_mem inside)
      exact ⟨other, _, held⟩
    choose other cookie held using owner
    have apart : Function.Injective other := fun one two same => by
      have leases := (held one).symm.trans (same ▸ held two)
      simp only [Device.opened.injEq, Lease.mk.injEq] at leases
      exact Fin.ext leases.2
    exact .inr ⟨List.ofFn other, List.nodup_ofFn.mpr apart, List.length_ofFn, by simp [held]⟩

/-- Whatever the order of all events: the active cookies are those of the open files, no two open files share one,
a release takes back its own cookie and no other, without an error, and no slot is lost: a new cookie is issued
unless all slots are those of open files. -/
theorem cookies_of_open_files (packet : Nat → Packet) (events : List Event) :
    let bridge := run step { packet } events
    (∀ cookie, bridge.cookieActive cookie = true ↔ ∃ file slot, bridge.device file = .opened ⟨cookie, slot⟩) ∧
    (∀ file lease, bridge.device file = .opened lease →
      (∀ other lease', bridge.device other = .opened lease' → lease'.cookie = lease.cookie → other = file) ∧
      (bridge.step (.release file)).errors = bridge.errors ∧
      ∀ cookie, (bridge.step (.release file)).cookieActive cookie = true ↔
        bridge.cookieActive cookie = true ∧ cookie ≠ lease.cookie) ∧
    ∀ file attempt cookie, bridge.device file = .opening attempt → cookie ≠ 0 → bridge.cookieActive cookie = false →
      (∃ slot, (bridge.step (.attempt file cookie)).device file = .opened ⟨cookie, slot⟩) ∨ bridge.Full := by
  intro bridge
  have leased : bridge.Leased := run_leased packet events
  refine ⟨leased.active_iff, fun file lease held => ?_, fun _ _ _ => leased.issues⟩
  have alone (other : Nat) (lease' : Lease) (there : bridge.device other = .opened lease')
      (same : lease'.cookie = lease.cookie) : other = file := by
    obtain ⟨real, found⟩ := leased.named held
    exact leased.single there held (leased.distinct (same ▸ (leased.named there).2) found real)
  refine ⟨alone, ?_, fun cookie => ?_⟩
  · simp only [step, held, deviceRelease, if_pos (leased.named held).2]
    rfl
  · rw [(leased.step (.release file)).active_iff, leased.active_iff]
    simp only [step, held, deviceRelease, if_pos (leased.named held).2, set, Function.update_apply]
    grind

section Handlers
variable {bridge : Bridge} {event : Event} {call target : Nat} {instance_ : Instance} {phase : Phase}

def Phase.previous : Phase → Option Phase
  | .snapshot => none
  | .entered => some .snapshot
  | .compared => some .entered
  | .checked => some .compared
  | .cleared => some .checked

/-- What a call found when it came to a phase. -/
def Found (bridge : Bridge) (instance_ : Instance) : Phase → Prop
  | .snapshot | .compared => (bridge.packet instance_.packet).skb.cb = instance_.rawCb
  | .entered | .checked => bridge.cookieActive (cookieOf instance_.rawCb) = true
  | .cleared => True

theorem proceed_pending (bridge : Bridge) (call : Nat) (returned : Int) (allocation : ChecksumModule.Allocation)
    (instance_ : Instance) (phase : Phase) :
    ∃ next, (bridge.proceed call returned allocation instance_ phase).pending =
        Function.update bridge.pending call next ∧
      ∀ place, next = some place → place.2 = instance_ ∧ Phase.previous place.1 = some phase ∧
        bridge.Found instance_ place.1 := by
  cases phase <;> simp only [proceed] <;> repeat' split
  all_goals refine ⟨_, rfl, ?_⟩
  all_goals grind [Phase.previous, Found]

/-- A call comes to a phase from the one before, and only with what that step has to find. -/
theorem step_reaches (reached : (bridge.step event).pending call = some (phase, instance_)) :
    bridge.pending call = some (phase, instance_) ∨
      bridge.pending call = (Phase.previous phase).map (·, instance_) ∧ bridge.Found instance_ phase := by
  cases event with
  | enter other packet trigger =>
    simp only [step] at reached
    split at reached
    · simp only [move, Function.update_apply] at reached
      grind [Phase.previous, Found]
    · exact .inl reached
  | proceed other returned allocation =>
    cases waiting : bridge.pending other with
    | none => exact .inl (by simpa only [step, waiting] using reached)
    | some place =>
      obtain ⟨before, held⟩ := place
      obtain ⟨next, moved, found⟩ := bridge.proceed_pending other returned allocation held before
      simp only [step, waiting, moved, Function.update_apply] at reached
      grind
  | _ => grind [step, set, again, insertCookie, deviceRelease, write]

/-- The packet that an event takes over: the descriptor is cleared, and the bridge function answers. -/
def takeover (bridge : Bridge) : Event → List Nat
  | .proceed call _ _ =>
    match bridge.pending call with
    | some (.checked, instance_) => [instance_.packet]
    | _ => []
  | _ => []

/-- A call has compared a packet's descriptor and not yet cleared it. -/
def comparing (bridge : Bridge) (target call : Nat) : Bool :=
  match bridge.pending call with
  | some (.compared, instance_) | some (.checked, instance_) => instance_.packet = target
  | _ => false

/-- At most so many calls are that far with a packet. -/
def Few (bridge : Bridge) (target count : Nat) : Prop :=
  ∀ calls : List Nat, calls.Nodup → (∀ call ∈ calls, bridge.comparing target call = true) → calls.length ≤ count

/-- Behind its entry handler a call has a real cookie. -/
def Real (bridge : Bridge) : Prop :=
  ∀ call phase instance_, bridge.pending call = some (phase, instance_) → phase ≠ .snapshot →
    cookieOf instance_.rawCb ≠ 0

theorem Real.step (real : bridge.Real) (event : Event) : (bridge.step event).Real := by
  intro call phase instance_ reached entered
  rcases step_reaches reached with before | ⟨before, found⟩
  · exact real call phase instance_ before entered
  · cases phase with
    | snapshot => contradiction
    | entered =>
      simp only [Found, cookieActive, decide_eq_true_eq] at found
      exact found.1
    | _ => exact real call _ instance_ before (by simp)

/-- A take-over spends the cookie in the packet, and its call is done with the packet. -/
theorem takeover_spends (taken : target ∈ takeover bridge event) :
    cookieOf ((bridge.step event).packet target).skb.cb = 0 ∧ (takeover bridge event).count target = 1 ∧
      ∃ call, bridge.comparing target call = true ∧ ∀ other, (bridge.step event).comparing target other = true →
        other ≠ call ∧ bridge.comparing target other = true := by
  cases event with
  | proceed call returned allocation =>
    simp only [takeover] at taken ⊢
    split at taken
    · rename_i instance_ waiting
      obtain rfl := List.mem_singleton.mp taken
      simp only [step, waiting, proceed, move, write, comparing, Function.update_self, Function.update_apply]
      refine ⟨by simp [cookieOf, word], by simp, call, by simp [waiting], fun other later => ?_⟩
      grind
    · cases taken
  | _ => cases taken

theorem Few.taken (few : bridge.Few target count) (taken : target ∈ takeover bridge event) :
    0 < count ∧ (bridge.step event).Few target (count - 1) := by
  obtain ⟨_, _, call, comparing, others⟩ := takeover_spends taken
  have one : [call].length ≤ count := few [call] (List.nodup_singleton call) (by simpa using comparing)
  refine ⟨one, fun calls distinct all => ?_⟩
  have more : (call :: calls).length ≤ count := by
    apply few
    · exact List.nodup_cons.mpr ⟨fun member => (others call (all call member)).1 rfl, distinct⟩
    · simp only [List.mem_cons, forall_eq_or_imp]
      exact ⟨comparing, fun other member => (others other (all other member)).2⟩
  exact Nat.le_sub_one_of_lt more

end Handlers

def samplePacket : Packet :=
  ⟨⟨[], 0, 0, 0, 0, 0, false, fun index => if index.val = 0 then 5 else 0⟩,
    { networkOffset := none, transportOffset := none, ipSummed := .none, device := none, route := none }⟩

/-- The file has a cookie, and these calls on the packet have entered. -/
def sampleEntries (calls : List Nat) : List Event :=
  [.open_ 0 true, .attempt 0 5] ++
    calls.flatMap fun call => [.enter call 0 (.changeType prepareMagic), .proceed call 0 {}]

def returns (call : Nat) : Event := .proceed call einval {}

/-- Two calls that have both compared both take the packet over. -/
example : (collect step takeover (run step { packet := fun _ => samplePacket } (sampleEntries [0, 1]))
    [returns 0, returns 1, returns 0, returns 1, returns 0, returns 1]).count 0 = 2 := by
  decide +kernel

end Bridge
end WgMix.Bpf.Kprobe
