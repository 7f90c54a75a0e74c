import WgMix.FakeTcp.EngineMoves
import WgMix.Foundation.Credit

/-! How many bare SYNs get a token of the global limiter. A bucket is a credit that grows with the clock;
of all that a call does only SYN admission touches the buckets. -/
namespace WgMix.FakeTcp
open Bpf

namespace TokenBucket

/-- A bucket at some time, with the times at which tokens were taken from it. -/
structure Credited (interval burst epoch clock : Nat) (bucket : TokenBucket) (grants : List Nat) : Prop where
  initialized : bucket.initialized = true
  reached : bucket.lastRefill ≤ clock
  credit : Credit interval burst epoch bucket.tokens bucket.lastRefill grants

namespace Credited
variable {bucket : TokenBucket}

theorem start (interval burst epoch : Nat) : Credited interval burst epoch epoch { lastRefill := epoch } [] :=
  ⟨rfl, Nat.le_refl _, Credit.start interval burst epoch⟩

theorem later (credited : Credited interval burst epoch clock bucket grants) (on : clock ≤ now) :
    Credited interval burst epoch now bucket grants :=
  ⟨credited.initialized, Nat.le_trans credited.reached on, credited.credit⟩

/-- A refill accounts for all growth up to now. -/
theorem refill (credited : Credited interval burst epoch clock bucket grants) (positive : 0 < interval)
    (on : clock ≤ now) :
    Credited interval burst epoch now (bucket.refill now interval burst) grants ∧
      now < (bucket.refill now interval burst).lastRefill + interval := by
  have reached := Nat.le_trans credited.reached on
  have exactly := Nat.div_add_mod (now - bucket.lastRefill) interval
  have below := Nat.mod_lt (now - bucket.lastRefill) positive
  rw [Nat.mul_comm] at exactly
  rw [TokenBucket.refill, if_neg (by simp [credited.initialized])]
  by_cases early : now < bucket.lastRefill + interval
  · rw [if_pos early]
    exact ⟨credited.later on, early⟩
  · rw [if_neg early]
    dsimp only
    by_cases full : (now - bucket.lastRefill) / interval ≥ burst
    · rw [if_pos full]
      refine ⟨⟨credited.initialized, Nat.le_refl _, credited.credit.refill (Nat.le_refl _) ?_⟩,
        Nat.lt_add_of_pos_right positive⟩
      have enough := Nat.mul_le_mul_right interval full
      dsimp only
      omega
    · rw [if_neg full]
      refine ⟨⟨credited.initialized, ?_, credited.credit.refill (Nat.min_le_left _ _) ?_⟩, ?_⟩
      · dsimp only
        omega
      · have most := Nat.mul_le_mul_right interval
          (Nat.min_le_right burst (bucket.tokens + (now - bucket.lastRefill) / interval))
        rw [Nat.add_mul] at most
        dsimp only
        omega
      · dsimp only
        omega

/-- A token that is taken at once. -/
theorem take (credited : Credited interval burst epoch now bucket grants) (held : bucket.tokens ≠ 0)
    (recent : now < bucket.lastRefill + interval) :
    Credited interval burst epoch now { bucket with tokens := bucket.tokens - 1 } (now :: grants) := by
  obtain ⟨tokens, count⟩ := Nat.exists_eq_succ_of_ne_zero held
  have credit := credited.credit
  rw [count] at credit
  refine ⟨credited.initialized, credited.reached, ?_⟩
  dsimp only
  rw [count, Nat.succ_sub_one]
  exact credit.grant credited.reached recent

end Credited
end TokenBucket

namespace Engine

/-- Clock readings never go back: those of a call come after those of the calls before it. -/
def Clocked : Nat → List (Turn × Request) → Prop
  | _, [] => True
  | clock, (turn, _) :: rest => clock ≤ turn.now ∧
      ∃ last, turn.now ≤ last ∧ (∀ flow, turn.now ≤ turn.releasedAt flow ∧ turn.releasedAt flow ≤ last) ∧
        Clocked last rest

section Admission
variable {engine : Engine}

/-- The limits and the global bucket, which no source work touches. -/
structure SameLimits (before after : Engine) : Prop where
  global : after.globalSyns = before.globalSyns
  epoch : after.admissionEpoch = before.admissionEpoch
  opts : after.opts = before.opts

theorem SameLimits.refl (engine : Engine) : SameLimits engine engine := ⟨rfl, rfl, rfl⟩

theorem SameLimits.trans (first : SameLimits before engine) (second : SameLimits engine after) :
    SameLimits before after :=
  ⟨second.global.trans first.global, second.epoch.trans first.epoch, second.opts.trans first.opts⟩

theorem prune_limits (engine : Engine) (now budget : Nat) :
    SameLimits engine (engine.pruneExpiredSynSources now budget) := by
  induction budget generalizing engine with
  | zero => exact .refl engine
  | succ budget ih =>
    rw [pruneExpiredSynSources]
    split
    · exact .refl engine
    · dsimp only
      split
      · refine .trans ?_ (ih _)
        exact ⟨rfl, rfl, rfl⟩
      · split
        · exact .refl engine
        · split
          · refine .trans ?_ (ih _)
            exact ⟨rfl, rfl, rfl⟩
          · refine .trans ?_ (ih _)
            exact ⟨rfl, rfl, rfl⟩

theorem lookupOrCreate_limits (engine : Engine) (key : SynSourceKey) (now : Nat) :
    SameLimits engine (engine.lookupOrCreateSynSource key now).1 := by
  have pruned := engine.prune_limits now synSourcePruneBudget
  simp only [lookupOrCreateSynSource]
  split
  · exact pruned.trans ⟨rfl, rfl, rfl⟩
  · split
    · exact pruned
    · exact pruned.trans ⟨rfl, rfl, rfl⟩

theorem lookupOrCreate_refused (engine : Engine) (key : SynSourceKey) (now : Nat) :
    (engine.lookupOrCreateSynSource key now).2 ≠ .error .synRateGlobal := by
  simp only [lookupOrCreateSynSource]
  split
  · simp
  · split <;> simp

/-- The global limiter decides before any source work, and its token is gone whatever follows. -/
theorem observeSyn_global (engine : Engine) (flow : SessionKey) (now : Nat) :
    (engine.observeSyn flow now).1.admissionEpoch = engine.admissionEpoch ∧
      (engine.observeSyn flow now).1.opts = engine.opts ∧
      (((engine.globalSyns.refill now engine.opts.synRateInterval engine.opts.synBurst).tokens = 0 ∧
          (engine.observeSyn flow now).2 = .error .synRateGlobal ∧
          (engine.observeSyn flow now).1.globalSyns =
            engine.globalSyns.refill now engine.opts.synRateInterval engine.opts.synBurst ∧
          (engine.observeSyn flow now).1.synSources = engine.synSources) ∨
        ((engine.globalSyns.refill now engine.opts.synRateInterval engine.opts.synBurst).tokens ≠ 0 ∧
          (engine.observeSyn flow now).2 ≠ .error .synRateGlobal ∧
          (engine.observeSyn flow now).1.globalSyns =
            { engine.globalSyns.refill now engine.opts.synRateInterval engine.opts.synBurst with
              tokens :=
                (engine.globalSyns.refill now engine.opts.synRateInterval engine.opts.synBurst).tokens - 1 })) := by
  simp only [observeSyn]
  generalize engine.globalSyns.refill now engine.opts.synRateInterval engine.opts.synBurst = refilled
  by_cases spent : refilled.tokens = 0
  · rw [if_pos spent]
    exact ⟨rfl, rfl, .inl ⟨spent, rfl, rfl, rfl⟩⟩
  · rw [if_neg spent]
    have looked := lookupOrCreate_limits
      { engine with globalSyns := { refilled with tokens := refilled.tokens - 1 } }
      ⟨flow.remoteIpv4, flow.underlayIndex⟩ now
    have refused := lookupOrCreate_refused
      { engine with globalSyns := { refilled with tokens := refilled.tokens - 1 } }
      ⟨flow.remoteIpv4, flow.underlayIndex⟩ now
    split
    · rename_i result
      rw [result] at looked refused
      exact ⟨looked.epoch, looked.opts, .inr ⟨spent, by simpa using refused, looked.global⟩⟩
    · rename_i result
      rw [result] at looked
      split
      · exact ⟨looked.epoch, looked.opts, .inr ⟨spent, by simp, looked.global⟩⟩
      · exact ⟨looked.epoch, looked.opts, .inr ⟨spent, by simp, looked.global⟩⟩

end Admission

section Moves

/-- An entry of the ledger keeps its bucket; its activity is not older than it was or than some time. -/
def SameSource (floor : Nat) : Option SynSourceState → Option SynSourceState → Prop
  | none, none => True
  | some before, some after => after.bucket = before.bucket ∧ min floor before.lastActivity ≤ after.lastActivity
  | _, _ => False

structure Calm (floor : Nat) (before after : Engine) : Prop where
  limits : SameLimits before after
  sources : ∀ key, SameSource floor (before.synSources.lookup key) (after.synSources.lookup key)

theorem SameSource.refl (floor : Nat) (source : Option SynSourceState) : SameSource floor source source := by
  cases source with
  | none => trivial
  | some state => exact ⟨rfl, Nat.min_le_right _ _⟩

theorem SameSource.trans (first : SameSource floor one two) (second : SameSource floor two three) :
    SameSource floor one three := by
  match one, two, three, first, second with
  | none, none, none, _, _ => trivial
  | some _, some _, some _, ⟨kept, before⟩, ⟨same, after⟩ => exact ⟨same.trans kept, by omega⟩

theorem Calm.refl (floor : Nat) (engine : Engine) : Calm floor engine engine :=
  ⟨.refl engine, fun _ => .refl floor _⟩

theorem Calm.trans (first : Calm floor before engine) (second : Calm floor engine after) :
    Calm floor before after :=
  ⟨first.limits.trans second.limits, fun key => (first.sources key).trans (second.sources key)⟩

/-- An entry is rewritten with its bucket. -/
theorem calm_insert (engine : Engine) (found : engine.synSources.lookup key = some source) (state : SynSourceState)
    (same : state.bucket = source.bucket) (active : min floor source.lastActivity ≤ state.lastActivity)
    (limits : SameLimits engine after) (sources : after.synSources = engine.synSources.insert key state) :
    Calm floor engine after := by
  refine ⟨limits, fun other => ?_⟩
  rw [sources]
  by_cases here : other = key
  · rw [here, found, AList.lookup_insert]
    exact ⟨same, active⟩
  · rw [AList.lookup_insert_ne here]
    exact .refl floor _

theorem Move.calm {turn : Turn} (ordered : ∀ flow, turn.now ≤ turn.releasedAt flow) (move : Move turn before after) :
    Calm turn.now before after := by
  cases move with
  | session flow session => exact ⟨⟨rfl, rfl, rfl⟩, fun _ => .refl _ _⟩
  | forget flow => exact ⟨⟨rfl, rfl, rfl⟩, fun _ => .refl _ _⟩
  | count halfOpen pendingFlows pendingBytes => exact ⟨⟨rfl, rfl, rfl⟩, fun _ => .refl _ _⟩
  | release flow session =>
    simp only [releaseHalfOpen]
    split
    · exact .refl _ _
    split
    · exact ⟨⟨rfl, rfl, rfl⟩, fun _ => .refl _ _⟩
    split
    · exact ⟨⟨rfl, rfl, rfl⟩, fun _ => .refl _ _⟩
    · rename_i source found
      refine calm_insert before found { source with
        halfOpen := source.halfOpen - 1, lastActivity := turn.releasedAt flow } rfl ?_ ⟨rfl, rfl, rfl⟩ rfl
      exact Nat.le_trans (Nat.min_le_left _ _) (ordered flow)
  | reserve _ key reserved =>
    simp only [reserveInboundHalfOpen] at reserved
    split at reserved
    · cases reserved
    split at reserved
    · cases reserved
    · rename_i source found
      split at reserved
      · cases reserved
      · cases reserved
        exact calm_insert before found { source with halfOpen := source.halfOpen + 1 } rfl (Nat.min_le_right _ _)
          ⟨rfl, rfl, rfl⟩ rfl

theorem Moves.calm {turn : Turn} (ordered : ∀ flow, turn.now ≤ turn.releasedAt flow)
    (moves : Moves turn before after) : Calm turn.now before after := by
  induction moves with
  | refl => exact .refl _ _
  | tail _ move ih => exact ih.trans (move.calm ordered)

end Moves

section Global
variable {engine : Engine}

/-- The call is a bare SYN that the global limiter let through. -/
def takesGlobal (engine : Engine) (input : Turn × Request) : Bool :=
  match engine.observed input.2 with
  | none => false
  | some flow =>
    match (engine.observeSyn flow input.1.now).2 with
    | .error .synRateGlobal => false
    | _ => true

/-- When global tokens were taken, in order. -/
def globalTakes (engine : Engine) : List (Turn × Request) → List Nat
  | [] => []
  | input :: rest =>
    (if engine.takesGlobal input then [input.1.now] else []) ++ (engine.perform input).globalTakes rest

/-- The global bucket after a call: one token less than the refilled bucket had, or as it was, or refilled
and still empty. -/
theorem perform_global (engine : Engine) (input : Turn × Request)
    (ordered : ∀ flow, input.1.now ≤ input.1.releasedAt flow) :
    (engine.perform input).admissionEpoch = engine.admissionEpoch ∧
      (engine.perform input).opts = engine.opts ∧
      ((engine.takesGlobal input = true ∧
          (engine.globalSyns.refill input.1.now engine.opts.synRateInterval engine.opts.synBurst).tokens ≠ 0 ∧
          (engine.perform input).globalSyns =
            { engine.globalSyns.refill input.1.now engine.opts.synRateInterval engine.opts.synBurst with
              tokens := (engine.globalSyns.refill input.1.now engine.opts.synRateInterval
                engine.opts.synBurst).tokens - 1 }) ∨
        (engine.takesGlobal input = false ∧
          ((engine.perform input).globalSyns = engine.globalSyns ∨
            ((engine.perform input).globalSyns =
              engine.globalSyns.refill input.1.now engine.opts.synRateInterval engine.opts.synBurst ∧
              (engine.perform input).globalSyns.tokens = 0)))) := by
  have calm := ((engine.perform_moves input).calm ordered).limits
  rw [calm.epoch, calm.opts, calm.global, takesGlobal, admission]
  cases engine.observed input.2 with
  | none => exact ⟨rfl, rfl, .inr ⟨rfl, .inl rfl⟩⟩
  | some flow =>
    obtain ⟨epoch, opts, result⟩ := engine.observeSyn_global flow input.1.now
    refine ⟨epoch, opts, ?_⟩
    dsimp only
    rcases result with ⟨empty, rejected, global, _⟩ | ⟨held, passed, global⟩
    · right
      rw [rejected, global]
      exact ⟨rfl, .inr ⟨rfl, empty⟩⟩
    · left
      refine ⟨?_, held, global⟩
      split
      · contradiction
      · rfl

/-- What is taken from the global bucket over a whole run. -/
theorem globalTakes_credit {interval burst epoch clock : Nat} {grants : List Nat} (positive : 0 < interval)
    (inputs : List (Turn × Request)) (clocked : Clocked clock inputs)
    (limits : engine.opts.synRateInterval = interval ∧ engine.opts.synBurst = burst)
    (credited : engine.globalSyns.Credited interval burst epoch clock grants) :
    ∃ bucket later, TokenBucket.Credited interval burst epoch later bucket
      ((engine.globalTakes inputs).reverse ++ grants) := by
  induction inputs generalizing engine clock grants with
  | nil => exact ⟨_, _, credited⟩
  | cons input rest ih =>
    obtain ⟨on, last, _, ordered, later⟩ := clocked
    obtain ⟨refilled, recent⟩ := credited.refill positive on
    obtain ⟨_, opts, result⟩ := engine.perform_global input fun flow => (ordered flow).1
    have same : (engine.perform input).opts.synRateInterval = interval ∧
        (engine.perform input).opts.synBurst = burst := by rw [opts]; exact limits
    have reached : input.1.now ≤ last := by assumption
    rw [limits.1, limits.2] at result
    rw [globalTakes, List.reverse_append]
    rcases result with ⟨taken, held, after⟩ | ⟨kept, after⟩
    · have spent := (refilled.take held recent).later reached
      rw [← after] at spent
      obtain ⟨bucket, end_, final⟩ := ih later same spent
      rw [if_pos taken]
      exact ⟨bucket, end_, by simpa using final⟩
    · rw [if_neg (by simp [kept])]
      have next : (engine.perform input).globalSyns.Credited interval burst epoch last grants := by
        rcases after with after | ⟨after, _⟩
        · rw [after]
          exact credited.later (Nat.le_trans on reached)
        · rw [after]
          exact refilled.later reached
      obtain ⟨bucket, end_, final⟩ := ih later same next
      exact ⟨bucket, end_, by simpa using final⟩

theorem Clocked.ordered {earlier later : List (Turn × Request)}
    (clocked : Clocked clock (earlier ++ input :: later)) :
    ∀ flow, input.1.now ≤ input.1.releasedAt flow := by
  induction earlier generalizing clock with
  | nil =>
    obtain ⟨_, _, _, ordered, _⟩ := clocked
    exact fun flow => (ordered flow).1
  | cons first rest ih =>
    obtain ⟨_, _, _, _, after⟩ := clocked
    exact ih after

/-- A new engine has no tokens, and the limits of its options. -/
structure Fresh (options : Options) (epoch : Nat) (engine : Engine) : Prop where
  interval : engine.opts.synRateInterval = options.synRateInterval
  burst : engine.opts.synBurst = options.synBurst
  burstPerSource : engine.opts.synBurstPerSource = options.synBurstPerSource
  ttl : engine.opts.synSourceLedgerTtl = options.synSourceLedgerTtl
  positive : 0 < options.synRateInterval
  someTokens : 0 < options.synBurstPerSource
  global : engine.globalSyns = { lastRefill := epoch }
  epoch : engine.admissionEpoch = epoch
  sources : engine.synSources = ∅

theorem newEngine_fresh {runtime : RuntimeIdentity} (made : newEngine options runtime epoch = .ok engine) :
    Fresh options epoch engine := by
  rw [newEngine] at made
  split at made
  · cases made
  rename_i accepted
  have positive : 0 < options.synRateInterval ∧ 0 < options.synBurstPerSource := by
    have valid : options.accepted = true := by
      by_contra refused
      exact accepted (.inl (Bool.not_eq_true _ ▸ refused))
    simp only [Options.accepted, decide_eq_true_eq] at valid
    tauto
  cases made
  constructor
  case positive => exact positive.1
  case someTokens => exact positive.2
  all_goals first | rfl | (dsimp only; split <;> rfl)

theorem globalTakes_fresh (fresh : Fresh options epoch engine) (clocked : Clocked epoch inputs) :
    ∃ bucket later, TokenBucket.Credited options.synRateInterval options.synBurst epoch later bucket
      (engine.globalTakes inputs).reverse := by
  have credited : engine.globalSyns.Credited options.synRateInterval options.synBurst epoch epoch [] := by
    rw [fresh.global]
    exact .start _ _ epoch
  have final := globalTakes_credit fresh.positive inputs clocked ⟨fresh.interval, fresh.burst⟩ credited
  rwa [List.append_nil] at final

/-- A call keeps what it took. -/
def NoRefund (engine : Engine) (input : Turn × Request) : Prop :=
  if engine.takesGlobal input then
    (engine.perform input).globalSyns.tokens + 1 =
      (engine.globalSyns.refill input.1.now engine.opts.synRateInterval engine.opts.synBurst).tokens
  else (engine.perform input).globalSyns = engine.globalSyns ∨ (engine.perform input).globalSyns.tokens = 0

theorem perform_noRefund (engine : Engine) (input : Turn × Request)
    (ordered : ∀ flow, input.1.now ≤ input.1.releasedAt flow) : engine.NoRefund input := by
  obtain ⟨_, _, ⟨taken, held, after⟩ | ⟨kept, after⟩⟩ := engine.perform_global input ordered
  · rw [NoRefund, if_pos taken, after]
    exact Nat.sub_add_cancel (Nat.pos_of_ne_zero held)
  · rw [NoRefund, if_neg (by simp [kept])]
    exact after.imp id And.right

structure GlobalLimit (options : Options) (epoch : Nat) (engine : Engine) (inputs : List (Turn × Request)) :
    Prop where
  window : ∀ from_ width : Nat,
    (engine.globalTakes inputs).countP (fun time => decide (from_ ≤ time ∧ time ≤ from_ + width)) ≤
      options.synBurst + width / options.synRateInterval + 1
  total : ∀ elapsed : Nat,
    (engine.globalTakes inputs).countP (fun time => decide (time ≤ epoch + elapsed)) ≤
      elapsed / options.synRateInterval
  kept : ∀ earlier input later, inputs = earlier ++ input :: later → (Runs.run perform engine earlier).NoRefund input

/-- The global limiter over every run. -/
theorem global_syn_limit (options : Options) (identity : RuntimeIdentity) (epoch : Nat) (engine : Engine)
    (made : newEngine options identity epoch = .ok engine) (inputs : List (Turn × Request))
    (clocked : Clocked epoch inputs) : GlobalLimit options epoch engine inputs := by
  have fresh := newEngine_fresh made
  obtain ⟨bucket, later, final⟩ := globalTakes_fresh fresh clocked
  constructor
  case window =>
    intro from_ width
    rw [← List.countP_reverse]
    exact final.credit.window_le fresh.positive from_ width
  case total =>
    intro elapsed
    rw [← List.countP_reverse]
    exact final.credit.total_le fresh.positive elapsed
  case kept =>
    rintro earlier input rest rfl
    exact perform_noRefund _ input clocked.ordered

/-- Calls during which the clock stands still. -/
theorem clocked_steady {inputs : List (Turn × Request)}
    (steady : ∀ input ∈ inputs, ∀ flow, input.1.releasedAt flow = input.1.now)
    (ordered : (clock :: inputs.map (·.1.now)).IsChain (· ≤ ·)) : Clocked clock inputs := by
  induction inputs generalizing clock with
  | nil => trivial
  | cons input rest ih =>
    obtain ⟨on, later⟩ := List.isChain_cons_cons.mp ordered
    refine ⟨on, input.1.now, Nat.le_refl _, fun flow => ?_, ih (fun other member => ?_) later⟩
    · have here := steady input List.mem_cons_self flow
      omega
    · exact steady other (List.mem_cons_of_mem _ member)

def sampleSource : SynSourceKey := ⟨samplePeer.remoteIpv4, samplePeer.underlayIndex⟩

/-- Three SYNs at once, of which the burst of two passes. -/
def sampleSyns : List (Turn × Request) :=
  List.replicate 3 (sampleTurn 5 100, .inbound samplePeer ⟨flagSyn, 500, 0, 0⟩ 1)

theorem sampleSyns_clocked : Clocked 0 sampleSyns := by
  refine clocked_steady ?_ (by decide)
  intro input member flow
  rw [List.eq_of_mem_replicate member]
  rfl

theorem sample_global_limit :
    sampleEngine.globalTakes sampleSyns = [5, 5, 5] ∧ GlobalLimit sampleOptions 0 sampleEngine sampleSyns :=
  ⟨by decide +kernel, global_syn_limit sampleOptions ⟨7, .fill 16 0xa5⟩ 0 sampleEngine rfl sampleSyns
    sampleSyns_clocked⟩

end Global
end Engine
end WgMix.FakeTcp
