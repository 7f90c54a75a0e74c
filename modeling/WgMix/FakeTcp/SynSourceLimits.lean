import WgMix.FakeTcp.SynLimits

/-! How many bare SYNs of one source are let through. The bucket of a source lives in a ledger from which
silent sources are pruned, and a source that comes back starts again from the engine's epoch: as long as
the ledger keeps a source for the time in which its burst grows back, that makes no difference. -/
namespace WgMix.FakeTcp.Engine
open Bpf

variable {engine : Engine} {virtual : TokenBucket}

/-- The entry of a source stands for a bucket that was never pruned: it holds that bucket, or it is missing
and creating it anew comes to the same. -/
def Tracked (interval burst epoch clock : Nat) (virtual : TokenBucket) : Option SynSourceState → Prop
  | some source => source.bucket = virtual ∧ virtual.lastRefill ≤ source.lastActivity
  | none => ∀ now, clock ≤ now →
      virtual.refill now interval burst = ({ lastRefill := epoch } : TokenBucket).refill now interval burst

theorem Tracked.later (tracked : Tracked interval burst epoch clock virtual held) (on : clock ≤ now) :
    Tracked interval burst epoch now virtual held := by
  cases held with
  | none => exact fun time reached => tracked time (Nat.le_trans on reached)
  | some source => exact tracked

/-- After a pause in which the whole burst grows back, nothing is left of the past. -/
theorem refill_full {bucket : TokenBucket} (initialized : bucket.initialized = true) (positive : 0 < interval)
    (some_ : 0 < burst) (long : bucket.lastRefill + burst * interval ≤ now) :
    bucket.refill now interval burst = ⟨burst, now, true⟩ := by
  have whole := Nat.le_mul_of_pos_left interval some_
  have steps : (now - bucket.lastRefill) / interval ≥ burst := (Nat.le_div_iff_mul_le positive).mpr (by omega)
  rw [TokenBucket.refill, if_neg (by simp [initialized]), if_neg (by omega)]
  dsimp only
  rw [if_pos steps, initialized]

theorem Tracked.pruned (credited : virtual.Credited interval burst epoch clock grants) (positive : 0 < interval)
    (some_ : 0 < burst) (long : virtual.lastRefill + burst * interval ≤ now) :
    Tracked interval burst epoch now virtual none := by
  intro time reached
  have earned := credited.credit.earned
  rw [refill_full credited.initialized positive some_ (Nat.le_trans long reached),
    refill_full rfl positive some_ (by dsimp only; omega)]

theorem prune_tracked (credited : virtual.Credited interval burst epoch now grants) (positive : 0 < interval)
    (some_ : 0 < burst) (long : burst * interval ≤ engine.opts.synSourceLedgerTtl) (budget : Nat)
    (tracked : Tracked interval burst epoch now virtual (engine.synSources.lookup key)) :
    Tracked interval burst epoch now virtual ((engine.pruneExpiredSynSources now budget).synSources.lookup key) := by
  induction budget generalizing engine with
  | zero => exact tracked
  | succ budget ih =>
    rw [pruneExpiredSynSources]
    split
    · exact tracked
    rename_i oldest _
    dsimp only
    split
    · exact ih long tracked
    rename_i source found
    split
    · exact tracked
    rename_i expired
    split
    · refine ih (by exact long) ?_
      by_cases here : key = oldest
      · subst here
        rw [found] at tracked
        rw [AList.lookup_erase]
        have active := tracked.2
        exact .pruned credited positive some_ (by omega)
      · rwa [AList.lookup_erase_ne here]
    · refine ih (by exact long) ?_
      by_cases here : key = oldest
      · subst here
        rw [found] at tracked
        rw [touchSynSource, AList.lookup_insert]
        exact ⟨tracked.1, credited.reached⟩
      · rwa [touchSynSource, AList.lookup_insert_ne here]

/-- The ledger after a source was looked up, in terms of the pruned one. -/
theorem lookupOrCreate_sources (engine : Engine) (key : SynSourceKey) (now : Nat) :
    (∀ other, other ≠ key → (engine.lookupOrCreateSynSource key now).1.synSources.lookup other =
        (engine.pruneExpiredSynSources now synSourcePruneBudget).synSources.lookup other) ∧
      ((∃ reason, (engine.lookupOrCreateSynSource key now).2 = .error reason ∧
          (engine.lookupOrCreateSynSource key now).1 = engine.pruneExpiredSynSources now synSourcePruneBudget) ∨
        ∃ source, (engine.lookupOrCreateSynSource key now).2 = .ok source ∧ source.lastActivity = now ∧
          source.bucket =
            match (engine.pruneExpiredSynSources now synSourcePruneBudget).synSources.lookup key with
            | some held => held.bucket
            | none => { lastRefill := engine.admissionEpoch }) := by
  have limits := engine.prune_limits now synSourcePruneBudget
  simp only [lookupOrCreateSynSource]
  cases (engine.pruneExpiredSynSources now synSourcePruneBudget).synSources.lookup key with
  | some source =>
    refine ⟨fun other distinct => ?_, .inr ⟨_, rfl, rfl, rfl⟩⟩
    simp only [touchSynSource, AList.lookup_insert_ne distinct]
  | none =>
    dsimp only
    split
    · exact ⟨fun _ _ => rfl, .inl ⟨_, rfl, rfl⟩⟩
    · refine ⟨fun other distinct => ?_, .inr ⟨_, rfl, rfl, ?_⟩⟩
      · rw [AList.lookup_insert_ne distinct]
      · rw [limits.epoch]

/-- The source that a call was let through for. -/
def passesSyn (engine : Engine) (input : Turn × Request) : Option SynSourceKey :=
  match engine.observed input.2 with
  | none => none
  | some flow =>
    match (engine.observeSyn flow input.1.now).2 with
    | .ok key => some key
    | .error _ => none

/-- When SYNs of a source were let through, in order. -/
def sourcePasses (source : SynSourceKey) (engine : Engine) : List (Turn × Request) → List Nat
  | [] => []
  | input :: rest =>
    (if engine.passesSyn input = some source then [input.1.now] else []) ++
      sourcePasses source (engine.perform input) rest

/-- How the bucket that a source stands for moves with a call. -/
inductive Advances (interval burst now : Nat) (virtual : TokenBucket) : Bool → TokenBucket → Prop where
  | same : Advances interval burst now virtual false virtual
  | refilled : Advances interval burst now virtual false (virtual.refill now interval burst)
  | taken (held : (virtual.refill now interval burst).tokens ≠ 0) : Advances interval burst now virtual true
      { virtual.refill now interval burst with tokens := (virtual.refill now interval burst).tokens - 1 }

theorem observeSyn_tracked (credited : virtual.Credited interval burst epoch now grants) (positive : 0 < interval)
    (some_ : 0 < burst) (long : burst * interval ≤ engine.opts.synSourceLedgerTtl)
    (limits : engine.opts.synRateInterval = interval ∧ engine.opts.synBurstPerSource = burst ∧
      engine.admissionEpoch = epoch)
    (tracked : Tracked interval burst epoch now virtual (engine.synSources.lookup source)) (flow : SessionKey) :
    ∃ passed after, Tracked interval burst epoch now after ((engine.observeSyn flow now).1.synSources.lookup source) ∧
      ((engine.observeSyn flow now).2 = .ok source ↔ passed = true) ∧
      Advances interval burst now virtual passed after := by
  simp only [observeSyn]
  generalize engine.globalSyns.refill now engine.opts.synRateInterval engine.opts.synBurst = refilled
  by_cases empty : refilled.tokens = 0
  · rw [if_pos empty]
    exact ⟨false, virtual, tracked, by simp, .same⟩
  rw [if_neg empty]
  generalize begun : ({ engine with globalSyns := { refilled with tokens := refilled.tokens - 1 } } : Engine) = paid
  have opts : paid.opts = engine.opts := by rw [← begun]
  have epochs : paid.admissionEpoch = engine.admissionEpoch := by rw [← begun]
  have sources : paid.synSources = engine.synSources := by rw [← begun]
  rw [← sources] at tracked
  rw [← opts] at long
  have pruned := prune_tracked credited positive some_ long synSourcePruneBudget tracked
  obtain ⟨others, outcome⟩ := paid.lookupOrCreate_sources ⟨flow.remoteIpv4, flow.underlayIndex⟩ now
  have looked := paid.lookupOrCreate_limits ⟨flow.remoteIpv4, flow.underlayIndex⟩ now
  rcases lookup : paid.lookupOrCreateSynSource ⟨flow.remoteIpv4, flow.underlayIndex⟩ now with ⟨made, answer⟩
  rw [lookup] at others outcome looked
  rcases outcome with ⟨reason, refused, kept⟩ | ⟨state, found, active, bucket⟩
  · cases refused
    dsimp only at kept ⊢
    rw [kept]
    exact ⟨false, virtual, pruned, by simp, .same⟩
  cases found
  have rate : made.opts.synRateInterval = interval := by rw [looked.opts, opts, limits.1]
  have most : made.opts.synBurstPerSource = burst := by rw [looked.opts, opts, limits.2.1]
  dsimp only
  rw [rate, most]
  by_cases here : source = ⟨flow.remoteIpv4, flow.underlayIndex⟩
  · -- The entry and the bucket it stands for come out of a refill alike.
    have alike : state.bucket.refill now interval burst = virtual.refill now interval burst := by
      rw [bucket, ← here]
      cases held : (paid.pruneExpiredSynSources now synSourcePruneBudget).synSources.lookup source with
      | some entry =>
        rw [held] at pruned
        rw [← pruned.1]
      | none =>
        rw [held] at pruned
        rw [epochs, limits.2.2]
        exact (pruned now (Nat.le_refl _)).symm
    have reached := (credited.refill positive (Nat.le_refl _)).1.reached
    rw [alike, ← here]
    by_cases none : (virtual.refill now interval burst).tokens = 0
    · rw [if_pos none]
      refine ⟨false, _, ?_, by simp, .refilled⟩
      rw [AList.lookup_insert]
      exact ⟨rfl, by rw [active]; exact reached⟩
    · rw [if_neg none]
      refine ⟨true, _, ?_, by simp, .taken none⟩
      rw [AList.lookup_insert]
      exact ⟨rfl, by rw [active]; exact reached⟩
  · rw [← others source here] at pruned
    refine ⟨false, virtual, ?_, ?_, .same⟩
    · split
      · rwa [AList.lookup_insert_ne here]
      · rwa [AList.lookup_insert_ne here]
    · split
      · simp
      · simpa using Ne.symm here

theorem Tracked.calm (tracked : Tracked interval burst epoch clock virtual before)
    (reached : virtual.lastRefill ≤ floor) (same : SameSource floor before after) :
    Tracked interval burst epoch clock virtual after := by
  match before, after, same with
  | none, none, _ => exact tracked
  | some _, some _, ⟨bucket, active⟩ =>
    have before := tracked.2
    exact ⟨bucket.trans tracked.1, by omega⟩

theorem Advances.credited (advances : Advances interval burst now virtual passed after)
    (credited : virtual.Credited interval burst epoch clock grants) (positive : 0 < interval) (on : clock ≤ now) :
    after.Credited interval burst epoch now ((if passed then [now] else []) ++ grants) := by
  obtain ⟨refilled, recent⟩ := credited.refill positive on
  cases advances with
  | same => exact credited.later on
  | refilled => exact refilled
  | taken held => exact refilled.take held recent

/-- One call: the ledger goes on standing for the bucket of the source. -/
theorem perform_tracked (credited : virtual.Credited interval burst epoch clock grants) (positive : 0 < interval)
    (some_ : 0 < burst) (long : burst * interval ≤ engine.opts.synSourceLedgerTtl)
    (limits : engine.opts.synRateInterval = interval ∧ engine.opts.synBurstPerSource = burst ∧
      engine.admissionEpoch = epoch)
    (tracked : Tracked interval burst epoch clock virtual (engine.synSources.lookup source)) (input : Turn × Request)
    (on : clock ≤ input.1.now) (ordered : ∀ flow, input.1.now ≤ input.1.releasedAt flow) :
    ∃ passed after, Tracked interval burst epoch input.1.now after ((engine.perform input).synSources.lookup source) ∧
      (engine.passesSyn input = some source ↔ passed = true) ∧
      Advances interval burst input.1.now virtual passed after := by
  have calm := ((engine.perform_moves input).calm ordered).sources source
  rw [admission] at calm
  rw [passesSyn]
  cases observed : engine.observed input.2 with
  | none =>
    rw [observed] at calm
    refine ⟨false, virtual, (tracked.later on).calm (Nat.le_trans credited.reached on) calm, by simp, .same⟩
  | some flow =>
    rw [observed] at calm
    obtain ⟨passed, after, held, answer, advances⟩ :=
      observeSyn_tracked (credited.later on) positive some_ long limits (tracked.later on) flow
    have reached := (advances.credited credited positive on).reached
    refine ⟨passed, after, held.calm reached calm, ?_, advances⟩
    rw [← answer]
    dsimp only
    split <;> simp_all

theorem sourcePasses_credit {interval burst epoch clock : Nat} {grants : List Nat} (source : SynSourceKey)
    (positive : 0 < interval) (some_ : 0 < burst) (inputs : List (Turn × Request)) (clocked : Clocked clock inputs)
    (long : burst * interval ≤ engine.opts.synSourceLedgerTtl)
    (limits : engine.opts.synRateInterval = interval ∧ engine.opts.synBurstPerSource = burst ∧
      engine.admissionEpoch = epoch)
    (credited : virtual.Credited interval burst epoch clock grants)
    (tracked : Tracked interval burst epoch clock virtual (engine.synSources.lookup source)) :
    ∃ bucket later, TokenBucket.Credited interval burst epoch later bucket
      ((sourcePasses source engine inputs).reverse ++ grants) := by
  induction inputs generalizing engine virtual clock grants with
  | nil => exact ⟨_, _, credited⟩
  | cons input rest ih =>
    obtain ⟨on, last, reached, ordered, later⟩ := clocked
    obtain ⟨passed, after, held, answer, advances⟩ :=
      perform_tracked credited positive some_ long limits tracked input on fun flow => (ordered flow).1
    obtain ⟨epochs, opts, _⟩ := engine.perform_global input fun flow => (ordered flow).1
    have next := (advances.credited credited positive on).later reached
    obtain ⟨bucket, end_, final⟩ :=
      ih later (by rwa [opts]) (by rw [opts, epochs]; exact limits) next (held.later reached)
    refine ⟨bucket, end_, ?_⟩
    rw [sourcePasses, List.reverse_append]
    cases passed with
    | false =>
      rw [if_neg (by simp [answer])]
      simpa using final
    | true =>
      rw [if_pos (by simp [answer])]
      simpa using final

/-- A source that was let through had taken a global token first. -/
theorem sourcePasses_sublist (source : SynSourceKey) (engine : Engine) (inputs : List (Turn × Request)) :
    (sourcePasses source engine inputs).Sublist (engine.globalTakes inputs) := by
  induction inputs generalizing engine with
  | nil => exact .slnil
  | cons input rest ih =>
    refine List.Sublist.append ?_ (ih _)
    by_cases passed : engine.passesSyn input = some source
    · have taken : engine.takesGlobal input = true := by
        rw [passesSyn] at passed
        rw [takesGlobal]
        cases observed : engine.observed input.2 with
        | none => simp [observed] at passed
        | some flow =>
          simp only [observed] at passed ⊢
          split at passed
          · rename_i answer
            simp [answer]
          · cases passed
      rw [if_pos passed, if_pos taken]
    · rw [if_neg passed]
      exact List.nil_sublist _

/-- The limiter of one source over every run, when a pruned source has had the time to earn its burst again,
or when the global limiter alone is as strict. -/
theorem source_syn_limit (options : Options) (identity : RuntimeIdentity) (epoch : Nat) (engine : Engine)
    (made : newEngine options identity epoch = .ok engine) (inputs : List (Turn × Request))
    (clocked : Clocked epoch inputs) (source : SynSourceKey)
    (guarded : options.synBurstPerSource * options.synRateInterval ≤ options.synSourceLedgerTtl ∨
      options.synBurst * options.synRateInterval ≤ options.synBurstPerSource * options.synRateInterval + 1)
    (from_ width : Nat) :
    (sourcePasses source engine inputs).countP (fun time => decide (from_ ≤ time ∧ time ≤ from_ + width)) ≤
      options.synBurstPerSource + width / options.synRateInterval + 1 := by
  have fresh := newEngine_fresh made
  rcases guarded with long | strict
  · obtain ⟨bucket, later, final⟩ := sourcePasses_credit source fresh.positive fresh.someTokens inputs clocked
      (by rw [fresh.ttl]; exact long) ⟨fresh.interval, fresh.burstPerSource, fresh.epoch⟩
      (.start options.synRateInterval options.synBurstPerSource epoch)
      (by rw [fresh.sources, AList.lookup_empty]; exact fun _ _ => rfl)
    rw [List.append_nil] at final
    rw [← List.countP_reverse]
    exact final.credit.window_le fresh.positive from_ width
  · obtain ⟨bucket, later, final⟩ := globalTakes_fresh fresh clocked
    refine Nat.le_trans (sourcePasses_sublist source engine inputs).countP_le ?_
    rw [← List.countP_reverse]
    exact final.credit.window_within fresh.positive strict from_ width

theorem sample_source_limit :
    sourcePasses sampleSource sampleEngine sampleSyns = [5, 5] ∧
      (sourcePasses sampleSource sampleEngine sampleSyns).countP (fun time => decide (5 ≤ time ∧ time ≤ 5 + 0)) ≤
        2 + 0 / 1 + 1 :=
  ⟨by decide +kernel, source_syn_limit sampleOptions ⟨7, .fill 16 0xa5⟩ 0 sampleEngine rfl sampleSyns
    sampleSyns_clocked sampleSource (.inl (by decide)) 5 0⟩

/-- A configuration that the static validation accepts as well: the ledger forgets a source after one
interval, long before a burst of eight has grown back. -/
def shortTtlOptions : Options where
  generation := 7
  sessionCapacity := 16384
  maxHalfOpenSessions := 1024
  maxHalfOpenPerSource := 64
  synRateInterval := 10000000
  synBurst := 64
  synBurstPerSource := 8
  synSourceLedgerCapacity := 4096
  synSourceLedgerTtl := 10000000
  maxPendingFlows := 1024
  maxPendingPacketsPerFlow := 4
  maxPendingBytes := 1048576
  handshakeTimeout := 1000000000
  handshakeRetries := 3
  keepaliveInterval := 20000000000
  idleTimeout := 60000000000
  window := 65535

def shortTtlEngine : Engine := { sampleEngine with opts := shortTtlOptions }

/-- Eight SYNs and a reset after one second, and eight more SYNs one interval later. -/
def repeatedBurst : List (Turn × Request) :=
  List.replicate 8 (sampleTurn 1000000000 100, .inbound samplePeer ⟨flagSyn, 500, 0, 0⟩ 1) ++
    [(sampleTurn 1000000000 100, .inbound samplePeer ⟨flagRst, 501, 0, 0⟩ 1)] ++
    List.replicate 8 (sampleTurn 1010000000 100, .inbound samplePeer ⟨flagSyn, 500, 0, 0⟩ 1)

/-- Sixteen SYNs of one source in one interval, against a limit of ten. -/
theorem repeated_burst_passes :
    newEngine shortTtlOptions ⟨7, .fill 16 0xa5⟩ 0 = .ok shortTtlEngine ∧
      Clocked 0 repeatedBurst ∧
      ¬(sourcePasses sampleSource shortTtlEngine repeatedBurst).countP
          (fun time => decide (1000000000 ≤ time ∧ time ≤ 1000000000 + 10000000)) ≤
        shortTtlOptions.synBurstPerSource + 10000000 / shortTtlOptions.synRateInterval + 1 := by
  refine ⟨rfl, clocked_steady ?_ (by decide), by decide +kernel⟩
  intro input member flow
  simp only [repeatedBurst, List.mem_append, List.mem_replicate, List.mem_singleton] at member
  rcases member with (⟨_, rfl⟩ | rfl) | ⟨_, rfl⟩ <;> rfl

end WgMix.FakeTcp.Engine
