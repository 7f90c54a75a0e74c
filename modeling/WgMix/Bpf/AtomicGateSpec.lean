import WgMix.Bpf.AtomicGate

/-! What holds at every point of every interleaving at the generation gate: the
shape of its word, where executions can stand, and what is final. -/
namespace WgMix.Bpf.AtomicGate
open Location

/-- A successful enter whose decrement is still to come. -/
def Location.isEntered : Location → Bool
  | .entered => true
  | _ => false

def Location.weight (location : Location) : Nat := if location.isEntered then 1 else 0

/-- A packet execution on its way. -/
def Location.live : Location → Bool
  | .enterBound | .enterRebound | .enterUnbound | .enterLoad _ | .enterSwap .. | .entered | .exitCheck _
  | .wake | .disarm | .poison => true
  | _ => false

/-- An enter that found the gate unbound and has still to read its state. -/
def Location.unbound : Location → Bool
  | .enterRebound | .enterUnbound => true
  | _ => false

/-- The four states of the word, by the number of executions inside. -/
def Shape (state inside : Nat) : Prop :=
  (state = 0 ∧ inside = 0) ∨ state = stateOpen + inside ∨ state = stateSealed + stateWakeArmed + inside ∨
    (state = stateSealed ∧ inside = 0)

/-- The two of them with the sealed flag. -/
def Sealed (state : Nat) : Prop :=
  state = stateSealed ∨ ∃ count, count < stateWakeArmed ∧ state = stateSealed + stateWakeArmed + count

def Bound (generation : Nat) (identity : Bool) (gate : Gate) : Prop :=
  gate.generation = generation ∧ generation ≠ 0 ∧ identity = true

/-- What a control run may be about to write. -/
def Swaps (operation : Operation) (old next : Nat) (result : Result) : Prop :=
  (operation = .open_ ∧ old = 0 ∧ next = stateOpen ∧ result = .opened) ∨
    (operation = .close ∧
      ((next = stateSealed ∧ result = .idle ∧ (old = 0 ∨ old = stateOpen ∨ old = stateSealed + stateWakeArmed)) ∨
        ∃ count, 0 < count ∧ count < stateWakeArmed ∧ old = stateOpen + count ∧
          next = stateSealed + stateWakeArmed + count ∧ result = .wait))

/-- The barrier waits for the result of CLOSE runs only. -/
def Fits (operation : Operation) (caller : Caller) : Prop :=
  caller = .quiesce ∨ caller = .confirm → operation = .close

/-- What is known at a location. -/
def Ok (generation : Nat) (identity : Bool) (gate : Gate) : Location → Prop
  | .enterRebound | .enterUnbound => gate.generation = 0
  | .enterLoad _ | .entered => Bound generation identity gate
  | .enterSwap _ old => Bound generation identity gate ∧
      ∃ count, count + 1 < stateWakeArmed ∧ old = stateOpen + count
  | .exitCheck old => Bound generation identity gate ∧ ∃ count, 0 < count ∧ count < stateWakeArmed ∧
      (old = stateOpen + count ∨ old = stateSealed + stateWakeArmed + count)
  | .wake => identity = true
  | .poison | .controlPoison .. => False
  | .control operation caller => Fits operation caller
  | .assertLoad caller bound => Fits .assertClosed caller ∧ (bound = 0 ∨ bound = generation)
  | .controlLoad operation caller _ => Fits operation caller ∧ Bound generation identity gate ∧
      operation ≠ .assertClosed
  | .controlSwap operation caller _ old next result => Fits operation caller ∧ Bound generation identity gate ∧
      Swaps operation old next result
  | .returned operation result => operation = .close → result = .idle → gate.state = stateSealed
  | .verifyBound | .verifyState => gate.state = stateSealed
  | .quiesced ok => ok = true → gate.state = stateSealed
  | .enterBound | .disarm | .packetDone | .asserted _ | .activated _ | .readWake => True

/-- The flags in units of the armed bit. -/
theorem flag_words : stateOpen = 8 * stateWakeArmed ∧ stateSealed = 4 * stateWakeArmed ∧ 0 < stateWakeArmed := by
  decide

/-- The parts of a word in shape. -/
theorem Shape.parts (shape : Shape state inside) (small : inside < stateWakeArmed) :
    inflight state = inside ∧ flags state + inside = state ∧ poisoned (flags state) = false := by
  simp only [Shape, inflight, flags, poisoned, Nat.testBit_eq_decide_div_mod_eq, decide_eq_false_iff_not, stateOpen,
    stateSealed, stateWakeArmed] at *
  omega

/-- Result of a step: where it leads and how the gate moves. -/
structure Advance (generation : Nat) (identity : Bool) (gate : Gate) (inside : Nat) (location : Location)
    (next : Gate × Location) : Prop where
  ok : Ok generation identity next.1 next.2
  shape : ∀ after, after + location.weight = inside + next.2.weight →
    Shape next.1.state after ∧ after < stateWakeArmed
  bound : (next.1.generation = 0 ∧ next.1.state = 0) ∨ Bound generation identity next.1
  kept : next.1.generation = gate.generation ∨ (gate.generation = 0 ∧
    ∃ operation caller, operation ≠ .assertClosed ∧ location = .control operation caller)
  quiet : gate.state = stateSealed → next.1.state = stateSealed
  closed : Sealed gate.state → Sealed next.1.state

/-- A known place outside the gate. -/
def Leads (generation : Nat) (identity : Bool) (gate : Gate) (location : Location) : Prop :=
  Ok generation identity gate location ∧ location.weight = 0

section Steps
variable {generation : Nat} {identity : Bool} {gate : Gate} {inside : Nat} {operation : Operation} {result : Result}
  {caller : Caller}

theorem weight_answer (operation : Operation) (result : Result) (caller : Caller) :
    (answer operation result caller).weight = 0 := by
  cases caller with
  | direct | assertInactive | activate => rfl
  | quiesce => cases result <;> rfl
  | confirm =>
    rw [answer]
    split <;> rfl

theorem leads_answer (fits : Fits operation caller)
    (idle : operation = .close → result = .idle → gate.state = stateSealed) :
    Leads generation identity gate (answer operation result caller) := by
  refine ⟨?_, weight_answer operation result caller⟩
  cases caller with
  | direct => exact idle
  | assertInactive | activate => trivial
  | quiesce =>
    cases result with
    | idle => exact idle (fits (.inl rfl)) rfl
    | wait => trivial
    | malformed | opened | poison | mismatch => exact fun ok => nomatch ok
  | confirm =>
    rw [answer]
    split
    · rename_i isIdle
      exact idle (fits (.inr rfl)) isIdle
    · exact fun ok => nomatch ok

theorem exitOn_leads {old : Nat} (ok : Ok generation identity gate (.exitCheck old)) :
    Leads generation identity gate (exitOn generation gate.generation old) := by
  obtain ⟨⟨same, _, installed⟩, count, positive, small, old⟩ := ok
  have words := flag_words
  obtain ⟨inflight, flags, clean⟩ := Shape.parts (old.elim (.inr ∘ .inl) (.inr ∘ .inr ∘ .inl)) small
  rw [exitOn, clean, if_neg (by omega), if_neg Bool.false_ne_true, if_neg (by omega)]
  split
  · exact ⟨trivial, rfl⟩
  · exact ⟨installed, rfl⟩

section Shaped
variable (shape : Shape gate.state inside) (small : inside < stateWakeArmed)
include shape small

/-- The loop body of an enter never meets a state it would poison. -/
theorem enterOn_leads (attempt : Nat) (room : inside + 1 < stateWakeArmed) (bound : Bound generation identity gate) :
    Leads generation identity gate (enterOn attempt gate.state) := by
  have words := flag_words
  obtain ⟨inflight, flags, clean⟩ := shape.parts small
  rw [Shape] at shape
  rw [enterOn, clean, if_neg Bool.false_ne_true]
  split
  · exact ⟨trivial, rfl⟩
  rw [if_neg (by omega), if_neg (by rw [inflightMask]; omega)]
  exact ⟨⟨bound, inside, room, by omega⟩, rfl⟩

theorem assertOn_leads {bound : Nat} (ok : Ok generation identity gate (.assertLoad caller bound)) :
    Leads generation identity gate (assertOn caller generation bound gate.state) := by
  obtain ⟨fits, known⟩ := ok
  have words := flag_words
  obtain ⟨inflight, flags, clean⟩ := shape.parts small
  rw [Shape] at shape
  rw [assertOn, clean, if_neg Bool.false_ne_true, if_neg (by omega)]
  split
  · exact leads_answer fits fun other => nomatch other
  rw [if_pos (by omega)]
  exact leads_answer fits fun other => nomatch other

theorem openOn_leads (attempt : Nat) (fits : Fits .open_ caller) (bound : Bound generation identity gate) :
    Leads generation identity gate (openOn caller attempt gate.state) := by
  have words := flag_words
  obtain ⟨inflight, flags, clean⟩ := shape.parts small
  rw [Shape] at shape
  rw [openOn, clean, if_neg Bool.false_ne_true]
  split
  · exact leads_answer fits fun other => nomatch other
  split
  · exact leads_answer fits fun other => nomatch other
  rw [if_neg (by omega)]
  exact ⟨⟨fits, bound, .inl ⟨rfl, rfl, rfl, rfl⟩⟩, rfl⟩

theorem closeOn_leads (attempt : Nat) (fits : Fits .close caller) (bound : Bound generation identity gate) :
    Leads generation identity gate (closeOn caller attempt gate.state) := by
  have swaps {old next : Nat} {result : Result} (written : (next = stateSealed ∧ result = .idle ∧
      (old = 0 ∨ old = stateOpen ∨ old = stateSealed + stateWakeArmed)) ∨ ∃ count, 0 < count ∧ count < stateWakeArmed ∧
        old = stateOpen + count ∧ next = stateSealed + stateWakeArmed + count ∧ result = .wait) :
      Leads generation identity gate (.controlSwap .close caller attempt old next result) :=
    ⟨⟨fits, bound, .inr ⟨rfl, written⟩⟩, rfl⟩
  have words := flag_words
  obtain ⟨inflight, flags, clean⟩ := shape.parts small
  rw [Shape] at shape
  rw [closeOn, clean, if_neg Bool.false_ne_true]
  split
  · exact swaps (.inl ⟨rfl, rfl, .inl rfl⟩)
  split
  · split
    · exact swaps (.inl ⟨rfl, rfl, .inr (.inl (by omega))⟩)
    · exact swaps (.inr ⟨inside, by omega, small, by omega, by omega, rfl⟩)
  split
  · exact leads_answer fits fun _ _ => by omega
  rw [if_pos (by omega)]
  split
  · exact leads_answer fits fun _ other => nomatch other
  · exact swaps (.inl ⟨rfl, rfl, .inr (.inr (by omega))⟩)

/-- The gate keeps its word and the count. -/
theorem Advance.unmoved {location after : Location} {next : Gate} (word : next.state = gate.state)
    (bound : (next.generation = 0 ∧ next.state = 0) ∨ Bound generation identity next)
    (kept : next.generation = gate.generation ∨ (gate.generation = 0 ∧
      ∃ operation caller, operation ≠ .assertClosed ∧ location = .control operation caller))
    (same : after.weight = location.weight) (ok : Ok generation identity next after) :
    Advance generation identity gate inside location (next, after) where
  ok := ok
  shape count balance := by
    obtain rfl : count = inside := by
      simp only at balance
      omega
    exact ⟨word ▸ shape, small⟩
  bound := bound
  kept := kept
  quiet := word.trans
  closed closed := (congrArg Sealed word).mpr closed

/-- A successful or lost compare-and-swap of a state that is not sealed idle. -/
theorem Advance.swap {location won lost : Location} {old next : Nat} (bound : Bound generation identity gate)
    (awake : old ≠ stateSealed) (closed : Sealed old → Sealed next) (outside : location.weight = 0)
    (taken : gate.state = old → Ok generation identity { gate with state := next } won ∧
      Shape next (inside + won.weight) ∧ inside + won.weight < stateWakeArmed)
    (missed : Leads generation identity gate lost) :
    Advance generation identity gate inside location
      (gate.swap old next, if gate.state = old then won else lost) := by
  by_cases here : gate.state = old
  · obtain ⟨ok, written⟩ := taken here
    rw [Gate.swap, if_pos here, if_pos here]
    refine ⟨ok, ?_, .inr bound, .inl rfl, fun quiet => absurd (here.symm.trans quiet) awake, fun was => ?_⟩
    · rintro after balance
      obtain rfl : after = inside + won.weight := by
        rw [outside] at balance
        exact balance
      exact written
    · exact closed (here ▸ was)
  · rw [Gate.swap, if_neg here, if_neg here]
    exact .unmoved shape small rfl (.inr bound) (.inl rfl) (missed.2.trans outside.symm) missed.1

theorem enterSwap_advance {attempt old : Nat} (ok : Ok generation identity gate (.enterSwap attempt old))
    (choice : Bool) :
    Advance generation identity gate inside (.enterSwap attempt old)
      (gate.act generation identity choice (.enterSwap attempt old)) := by
  obtain ⟨bound, count, room, rfl⟩ := ok
  have words := flag_words
  have lost : Leads generation identity gate (enterAgain attempt) := by
    rw [enterAgain]
    split
    · exact ⟨bound, rfl⟩
    · exact ⟨trivial, rfl⟩
  have opened : ¬Sealed (stateOpen + count) := by
    rintro (idle | ⟨other, bounded, armed⟩) <;> omega
  refine .swap shape small bound (by omega) (fun closed => absurd closed opened) rfl (fun here => ⟨bound, ?_⟩) lost
  rw [Shape] at shape
  obtain rfl : inside = count := by omega
  exact ⟨.inr (.inl (Nat.add_assoc ..)), room⟩

theorem entered_advance (bound : Bound generation identity gate) (present : 0 < inside) (choice : Bool) :
    Advance generation identity gate inside .entered (gate.act generation identity choice .entered) := by
  have left : (gate.state + (2 ^ 64 - 1)) % 2 ^ 64 = gate.state - 1 ∧
      (gate.state = stateOpen + inside ∨ gate.state = stateSealed + stateWakeArmed + inside) := by
    simp only [Shape, stateOpen, stateSealed, stateWakeArmed] at *
    omega
  have words := flag_words
  simp only [Gate.act, left.1]
  refine ⟨⟨bound, inside, present, small, left.2⟩, ?_, .inr bound, .inl rfl, fun quiet => by omega, ?_⟩
  · intro after balance
    obtain rfl : inside = after + 1 := balance.symm
    refine ⟨?_, by omega⟩
    rw [Shape]
    dsimp only
    omega
  · rintro (idle | ⟨count, bounded, armed⟩)
    · omega
    · exact .inr ⟨inside - 1, by omega, by dsimp only; omega⟩

theorem disarm_advance (bound : (gate.generation = 0 ∧ gate.state = 0) ∨ Bound generation identity gate)
    (choice : Bool) :
    Advance generation identity gate inside .disarm (gate.act generation identity choice .disarm) := by
  have words := flag_words
  simp only [Gate.act, Gate.swap]
  split
  · refine ⟨trivial, ?_, bound.imp_left fun free => by omega, .inl rfl, fun _ => rfl, fun _ => .inl rfl⟩
    intro after balance
    rw [Shape] at shape
    obtain rfl : after = inside := balance
    exact ⟨.inr (.inr (.inr ⟨rfl, by omega⟩)), small⟩
  · exact .unmoved shape small rfl bound (.inl rfl) rfl trivial

theorem control_advance (bound : (gate.generation = 0 ∧ gate.state = 0) ∨ Bound generation identity gate)
    (fits : Fits operation caller) (choice : Bool) :
    Advance generation identity gate inside (.control operation caller)
      (gate.act generation identity choice (.control operation caller)) := by
  simp only [Gate.act]
  split
  · have refused : Leads generation identity gate (answer operation .malformed caller) :=
      leads_answer fits fun _ other => nomatch other
    exact .unmoved shape small rfl bound (.inl rfl) refused.2 refused.1
  rename_i accepted
  obtain ⟨nonzero, missing⟩ := not_or.mp accepted
  split
  · rename_i asserts
    subst asserts
    exact .unmoved shape small rfl bound (.inl rfl) rfl ⟨fits, bound.imp And.left And.left⟩
  rename_i writes
  split
  · rename_i unbound
    have now : Bound generation identity { gate with generation } := ⟨rfl, nonzero, Bool.not_eq_false _ ▸ missing⟩
    exact .unmoved shape small rfl (.inr now) (.inr ⟨unbound, operation, caller, writes, rfl⟩) rfl ⟨fits, now, writes⟩
  · rename_i held
    have bound : Bound generation identity gate := bound.resolve_left fun free => held free.1
    rw [if_neg (fun other => other bound.1)]
    exact .unmoved shape small rfl (.inr bound) (.inl rfl) rfl ⟨fits, bound, writes⟩

theorem controlSwap_advance {attempt old next : Nat}
    (ok : Ok generation identity gate (.controlSwap operation caller attempt old next result)) (choice : Bool) :
    Advance generation identity gate inside (.controlSwap operation caller attempt old next result)
      (gate.act generation identity choice (.controlSwap operation caller attempt old next result)) := by
  obtain ⟨fits, bound, swaps⟩ := ok
  have words := flag_words
  have lost : Leads generation identity gate (controlAgain operation caller attempt) := by
    rw [controlAgain]
    split
    · refine ⟨⟨fits, bound, ?_⟩, rfl⟩
      rcases swaps with ⟨rfl, _⟩ | ⟨rfl, _⟩ <;> exact fun other => nomatch other
    · exact leads_answer fits fun _ other => nomatch other
  have awake : old ≠ stateSealed := by
    rcases swaps with ⟨_, old, _⟩ | ⟨_, ⟨_, _, old⟩ | ⟨count, _, _, old, _⟩⟩ <;> omega
  have closed (was : Sealed old) : Sealed next := by
    rcases swaps with ⟨_, rfl, _⟩ | ⟨_, ⟨rfl, _⟩ | ⟨count, _, bounded, _, rfl, _⟩⟩
    · rcases was with idle | ⟨count, bounded, armed⟩ <;> omega
    · exact .inl rfl
    · exact .inr ⟨count, bounded, rfl⟩
  refine .swap shape small bound awake closed rfl (fun here => ⟨(leads_answer fits ?_).1, ?_⟩) lost
  · intro close idle
    rcases swaps with ⟨rfl, _⟩ | ⟨_, ⟨rfl, _⟩ | ⟨_, _, _, _, _, rfl⟩⟩
    · contradiction
    · rfl
    · contradiction
  · rw [weight_answer, Nat.add_zero]
    refine ⟨?_, small⟩
    rw [Shape] at shape ⊢
    rcases swaps with ⟨_, old, next, _⟩ | ⟨_, ⟨next, _, old⟩ | ⟨count, _, bounded, old, next, _⟩⟩ <;> omega

/-- Every atomic step keeps the gate in shape and leads to a known place. -/
theorem act_advance {location : Location}
    (bound : (gate.generation = 0 ∧ gate.state = 0) ∨ Bound generation identity gate)
    (ok : Ok generation identity gate location) (present : location.weight ≤ inside)
    (room : ∀ attempt, location = .enterLoad attempt → inside + 1 < stateWakeArmed) (choice : Bool) :
    Advance generation identity gate inside location (gate.act generation identity choice location) := by
  have stay {next : Location} (same : next.weight = location.weight) (known : Ok generation identity gate next) :
      Advance generation identity gate inside location (gate, next) :=
    .unmoved shape small rfl bound (.inl rfl) same known
  cases location with
  | enterBound =>
    simp only [Gate.act]
    split
    · exact stay rfl trivial
    rename_i issued
    split
    · rename_i other
      exact stay rfl (bound.resolve_right fun bound => other bound.1).1
    · rename_i same
      exact stay rfl (bound.resolve_left fun free => issued ((Decidable.not_not.mp same).symm.trans free.1))
  | enterRebound =>
    rw [Gate.act, if_neg (fun differs => differs ok)]
    exact stay rfl ok
  | enterUnbound =>
    have free := bound.resolve_right fun bound => bound.2.1 (bound.1.symm.trans ok)
    rw [Gate.act, if_neg (fun differs => differs free.2)]
    exact stay rfl trivial
  | enterLoad attempt =>
    obtain ⟨known, weightless⟩ := enterOn_leads shape small attempt (room attempt rfl) ok
    exact stay weightless known
  | enterSwap attempt old => exact enterSwap_advance shape small ok choice
  | entered => exact entered_advance shape small ok present choice
  | exitCheck old =>
    obtain ⟨known, weightless⟩ := exitOn_leads ok
    exact stay weightless known
  | wake =>
    rw [Gate.act, if_neg (fun missing => Bool.false_ne_true (missing.symm.trans ok))]
    split
    · exact .unmoved shape small rfl bound (.inl rfl) rfl trivial
    · exact stay rfl trivial
  | disarm => exact disarm_advance shape small bound choice
  | poison | controlPoison operation caller => exact ok.elim
  | control operation caller => exact control_advance shape small bound ok choice
  | assertLoad caller known =>
    obtain ⟨answered, weightless⟩ := assertOn_leads shape small ok
    exact stay weightless answered
  | controlLoad operation caller attempt =>
    obtain ⟨fits, bound, known⟩ := ok
    cases operation with
    | assertClosed => exact absurd rfl known
    | open_ =>
      obtain ⟨answered, weightless⟩ := openOn_leads shape small attempt fits bound
      exact stay weightless answered
    | close =>
      obtain ⟨answered, weightless⟩ := closeOn_leads shape small attempt fits bound
      exact stay weightless answered
  | controlSwap operation caller attempt old next result => exact controlSwap_advance shape small ok choice
  | readWake =>
    simp only [Gate.act]
    split
    · exact .unmoved shape small rfl bound (.inl rfl) rfl fun _ => rfl
    · exact stay rfl fun other => nomatch other
  | verifyBound =>
    simp only [Gate.act]
    split
    · exact stay rfl ok
    · exact stay rfl fun other => nomatch other
  | verifyState => exact stay rfl fun _ => ok
  | packetDone | asserted answer | activated answer => exact stay rfl trivial
  | returned operation result => exact stay rfl ok
  | quiesced answer => exact stay rfl ok

end Shaped
end Steps

section Opening
variable {generation : Nat} {identity : Bool} {gate : Gate} {inside : Nat}

/-- An OPEN run, or an activation, that has returned with success. -/
def Location.reportsOpen : Location → Bool
  | .returned .open_ .opened => true
  | .activated ok => ok
  | _ => false

theorem answer_reportsOpen {operation : Operation} {result : Result} (caller : Caller)
    (other : result ≠ .opened) : (answer operation result caller).reportsOpen = false := by
  cases caller with
  | direct =>
    cases operation <;> cases result <;> first | rfl | exact absurd rfl other
  | assertInactive => rfl
  | activate => exact decide_eq_false other
  | quiesce => cases result <;> rfl
  | confirm =>
    rw [answer]
    split <;> rfl

theorem openOn_sealed {caller : Caller} {attempt state : Nat} (closed : Sealed state) :
    openOn caller attempt state = answer .open_ .mismatch caller := by
  have words := flag_words
  obtain ⟨inside, small, word⟩ : ∃ inside, inside < stateWakeArmed ∧
      (state = stateSealed ∧ inside = 0 ∨ state = stateSealed + stateWakeArmed + inside) := by
    rcases closed with idle | ⟨count, small, armed⟩
    · exact ⟨0, words.2.2, .inl ⟨idle, rfl⟩⟩
    · exact ⟨count, small, .inr armed⟩
  obtain ⟨inflight, flags, clean⟩ := Shape.parts (.inr (.inr word.symm)) small
  rw [openOn, clean, if_neg Bool.false_ne_true, if_neg (by omega), if_pos (by omega)]

/-- On a sealed gate a run that has not yet reported success does not do so. -/
theorem act_sealed {location : Location} (closed : Sealed gate.state)
    (ok : Ok generation identity gate location) (choice : Bool) (silent : location.reportsOpen = false) :
    (gate.act generation identity choice location).2.reportsOpen = false := by
  cases location with
  | enterBound | enterRebound | enterUnbound | wake | readWake | verifyBound =>
    simp only [Gate.act]
    repeat' split
    all_goals rfl
  | enterLoad attempt =>
    simp only [Gate.act, enterOn]
    repeat' split
    all_goals rfl
  | enterSwap attempt old =>
    simp only [Gate.act, enterAgain]
    repeat' split
    all_goals rfl
  | exitCheck old =>
    simp only [Gate.act, exitOn]
    repeat' split
    all_goals rfl
  | control operation caller =>
    simp only [Gate.act]
    repeat' split
    all_goals first | rfl | exact answer_reportsOpen caller (by decide)
  | assertLoad caller bound =>
    simp only [Gate.act, assertOn]
    repeat' split
    all_goals first | rfl | exact answer_reportsOpen caller (by decide)
  | controlLoad operation caller attempt =>
    simp only [Gate.act]
    split
    · rw [openOn_sealed closed]
      exact answer_reportsOpen caller (by decide)
    · rw [closeOn]
      repeat' split
      all_goals first | rfl | exact answer_reportsOpen caller (by decide)
  | controlSwap operation caller attempt old next result =>
    obtain ⟨_, _, swaps⟩ := ok
    have words := flag_words
    simp only [Gate.act]
    split
    · rename_i here
      apply answer_reportsOpen
      rintro rfl
      rcases swaps with ⟨_, old, _⟩ | ⟨_, ⟨_, idle, _⟩ | ⟨_, _, _, _, _, wait⟩⟩
      · rcases closed with idle | ⟨count, bounded, armed⟩ <;> omega
      · cases idle
      · cases wait
    · rw [controlAgain]
      split
      · rfl
      · exact answer_reportsOpen caller (by decide)
  | controlPoison operation caller => exact answer_reportsOpen caller (by decide)
  | returned operation result => exact silent
  | activated answer => exact silent
  | entered | disarm | poison | packetDone | asserted answer | verifyState | quiesced answer => rfl

end Opening

section Runs
variable (generation : Nat) (identity : Bool)

/-- The gate and all executions, at any point of an interleaving. -/
structure Sound (world : World) : Prop where
  shape : Shape world.shared.state (world.threads.countP Location.isEntered)
  small : world.threads.countP Location.isEntered < stateWakeArmed
  bound : (world.shared.generation = 0 ∧ world.shared.state = 0) ∨ Bound generation identity world.shared
  threads : ∀ location ∈ world.threads, Ok generation identity world.shared location

/-- A control run is about to bind the gate. -/
def binds (world : World) : Turn → Bool
  | .spawn _ => false
  | .act index _ =>
    match world.threads[index]? with
    | some (.control operation _) => operation ≠ .assertClosed ∧ world.shared.generation = 0
    | _ => false

/-- Turns the statements are about: fewer than 2^60 packet executions are under
way, and no control run binds the gate between the two reads of an enter that
found it unbound. -/
def Admissible (world : World) (turn : Turn) : Prop :=
  world.threads.countP Location.live < stateWakeArmed ∧
    (binds world turn = true → ∀ location ∈ world.threads, location.unbound = false)

instance (world : World) (turn : Turn) : Decidable (Admissible world turn) :=
  inferInstanceAs (Decidable (_ ∧ (_ → _)))

/-- What is known elsewhere survives a step. -/
theorem Ok.mono {gate next : Gate} {location : Location} (ok : Ok generation identity gate location)
    (kept : next.generation = gate.generation ∨ (gate.generation = 0 ∧ location.unbound = false))
    (quiet : gate.state = stateSealed → next.state = stateSealed) : Ok generation identity next location := by
  have bound (was : Bound generation identity gate) : Bound generation identity next := by
    refine ⟨?_, was.2⟩
    rcases kept with same | ⟨unbound, _⟩
    · exact same.trans was.1
    · exact absurd (was.1.symm.trans unbound) was.2.1
  cases location with
  | enterRebound | enterUnbound => exact (kept.resolve_right fun other => nomatch other.2).trans ok
  | enterLoad attempt => exact bound ok
  | entered => exact bound ok
  | enterSwap attempt old => exact ⟨bound ok.1, ok.2⟩
  | exitCheck old => exact ⟨bound ok.1, ok.2⟩
  | controlLoad operation caller attempt => exact ⟨ok.1, bound ok.2.1, ok.2.2⟩
  | controlSwap operation caller attempt old written result => exact ⟨ok.1, bound ok.2.1, ok.2.2⟩
  | returned operation result => exact fun close idle => quiet (ok close idle)
  | verifyBound | verifyState => exact quiet ok
  | quiesced answer => exact fun done => quiet (ok done)
  | wake | poison => exact ok
  | control operation caller => exact ok
  | assertLoad caller bound => exact ok
  | controlPoison operation caller => exact ok
  | enterBound | disarm | packetDone | asserted answer | activated answer | readWake => trivial

theorem ok_start {gate : Gate} {location : Location} (starts : start location = true) :
    Ok generation identity gate location ∧ location.weight = 0 := by
  unfold start at starts
  split at starts
  · exact ⟨trivial, rfl⟩
  · exact ⟨(fun waits => nomatch waits), rfl⟩
  · exact ⟨(fun waits => nomatch waits), rfl⟩
  · exact ⟨fun _ => rfl, rfl⟩
  · exact ⟨(fun waits => nomatch waits), rfl⟩
  · contradiction

/-- An execution inside and one in front of its load are two of those under way. -/
theorem room_of_live {threads : List Location} {index attempt : Nat}
    (at_ : threads[index]? = some (.enterLoad attempt)) :
    threads.countP Location.isEntered < threads.countP Location.live := by
  refine Interleaving.countP_lt ?_ at_ rfl rfl
  intro location inside
  cases location with
  | entered => rfl
  | _ => contradiction

variable {generation identity}

/-- One execution takes its turn. -/
theorem Sound.advance {world : World} (sound : Sound generation identity world) {index : Nat} {choice : Bool}
    {location : Location} (at_ : world.threads[index]? = some location)
    (admissible : Admissible world (.act index choice)) :
    Advance generation identity world.shared (world.threads.countP Location.isEntered) location
      (world.shared.act generation identity choice location) := by
  have member : location ∈ world.threads := List.mem_of_getElem? at_
  refine act_advance sound.shape sound.small sound.bound (sound.threads location member) ?_ ?_ choice
  · rw [Location.weight]
    split
    · rename_i inside
      exact Interleaving.countP_pos at_ inside
    · exact Nat.zero_le _
  · rintro attempt rfl
    have live := room_of_live at_
    have few := admissible.1
    omega

/-- A turn does nothing, starts an execution or lets one take its step. -/
theorem step_cases (generation : Nat) (identity : Bool) (world : World) (turn : Turn) :
    step generation identity world turn = world ∨
      (∃ location, start location = true ∧ step generation identity world turn =
        ⟨world.shared, world.threads ++ [location]⟩) ∨
      ∃ index choice location, turn = .act index choice ∧ world.threads[index]? = some location ∧
        step generation identity world turn = ⟨(world.shared.act generation identity choice location).1,
          world.threads.set index (world.shared.act generation identity choice location).2⟩ := by
  cases turn with
  | spawn location =>
    rw [step]
    split
    · rename_i starts
      exact .inr (.inl ⟨location, starts, rfl⟩)
    · exact .inl rfl
  | act index choice =>
    rcases Interleaving.step_cases (Gate.act generation identity) world (.act index choice) with
      same | ⟨_, spawns, _⟩ | moved
    · exact .inl same
    · cases spawns
    · exact .inr (.inr moved)

theorem step_sound (world : World) (turn : Turn) (sound : Sound generation identity world)
    (admissible : Admissible world turn) : Sound generation identity (step generation identity world turn) := by
  rcases step_cases generation identity world turn with same | ⟨location, starts, spawned⟩ |
    ⟨index, choice, location, rfl, at_, moved⟩
  · rw [same]
    exact sound
  · obtain ⟨ok, weightless⟩ := ok_start generation identity starts
    have same : (world.threads ++ [location]).countP Location.isEntered =
        world.threads.countP Location.isEntered := by
      rw [List.countP_append, List.countP_singleton]
      exact congrArg _ weightless
    rw [spawned]
    refine ⟨same.symm ▸ sound.shape, same.symm ▸ sound.small, sound.bound, ?_⟩
    intro other member
    rcases List.mem_append.mp member with old | new
    · exact sound.threads other old
    · rw [List.mem_singleton.mp new]
      exact ok
  · rw [moved]
    have advance := sound.advance at_ admissible
    have balance := Interleaving.countP_set Location.isEntered at_
      (world.shared.act generation identity choice location).2
    obtain ⟨shape, small⟩ := advance.shape _ balance
    refine ⟨shape, small, advance.bound, ?_⟩
    intro other member
    rcases List.mem_or_eq_of_mem_set member with old | rfl
    · refine (sound.threads other old).mono generation identity ?_ advance.quiet
      rcases advance.kept with same | ⟨unbound, operation, caller, writes, rfl⟩
      · exact .inl same
      · have binding : binds world (.act index choice) = true := by
          simp only [binds, at_]
          exact decide_eq_true ⟨writes, unbound⟩
        exact .inr ⟨unbound, admissible.2 binding other old⟩
    · exact advance.ok

theorem run_sound {turns : List Turn} {world : World} (sound : Sound generation identity world)
    (along : Runs.Along (step generation identity) Admissible world turns) :
    Sound generation identity (Runs.run (step generation identity) world turns) :=
  Runs.invariant (fun world turn sound admissible => step_sound world turn sound admissible) sound along

theorem initial_sound : Sound generation identity initial := by
  refine ⟨.inl ⟨rfl, rfl⟩, by decide, .inl ⟨rfl, rfl⟩, ?_⟩
  intro location member
  cases member

/-- The sealed flag is the bit it is in the word. -/
theorem Sound.sealed_iff {world : World} (sound : Sound generation identity world) :
    world.shared.state.testBit 62 = true ↔ Sealed world.shared.state := by
  have shape := sound.shape
  have small := sound.small
  simp only [Nat.testBit_eq_decide_div_mod_eq, decide_eq_true_eq, Shape, Sealed, stateOpen, stateSealed,
    stateWakeArmed] at *
  constructor
  · intro bit
    rcases shape with zero | opened | armed | idle
    · omega
    · omega
    · exact .inr ⟨_, small, armed⟩
    · exact .inl idle.1
  · rintro (idle | ⟨count, bounded, armed⟩)
    · omega
    · omega

/-- A sealed word stays sealed, and so does an idle one. -/
theorem step_word (world : World) (turn : Turn) (sound : Sound generation identity world)
    (admissible : Admissible world turn) :
    (world.shared.state = stateSealed → (step generation identity world turn).shared.state = stateSealed) ∧
      (Sealed world.shared.state → Sealed (step generation identity world turn).shared.state) := by
  rcases step_cases generation identity world turn with same | ⟨location, starts, spawned⟩ |
    ⟨index, choice, location, rfl, at_, moved⟩
  · rw [same]
    exact ⟨id, id⟩
  · rw [spawned]
    exact ⟨id, id⟩
  · rw [moved]
    have advance := sound.advance at_ admissible
    exact ⟨advance.quiet, advance.closed⟩

/-- At a sealed gate no run that is under way reports it open. -/
theorem step_sealed (world : World) (turn : Turn) (sound : Sound generation identity world)
    (closed : Sealed world.shared.state) {index : Nat} {location : Location}
    (found : (step generation identity world turn).threads[index]? = some location)
    (reports : location.reportsOpen = true) :
    ∃ before : Location, world.threads[index]? = some before ∧ before.reportsOpen = true := by
  rcases step_cases generation identity world turn with same | ⟨spawned, starts, same⟩ |
    ⟨taken, choice, running, _, at_, moved⟩
  · rw [same] at found
    exact ⟨location, found, reports⟩
  · rw [same, List.getElem?_append] at found
    split at found
    · exact ⟨location, found, reports⟩
    · obtain rfl : location = spawned := List.mem_singleton.mp (List.mem_of_getElem? found)
      unfold start at starts
      split at starts <;> contradiction
  · rw [moved] at found
    by_cases same : taken = index
    · subst same
      refine ⟨running, at_, ?_⟩
      by_contra silent
      have quiet := act_sealed closed (sound.threads running (List.mem_of_getElem? at_)) choice
        (Bool.not_eq_true _ ▸ silent)
      rw [List.getElem?_set_self (List.getElem?_eq_some_iff.mp at_).1] at found
      rw [← Option.some.inj found, quiet] at reports
      contradiction
    · rw [List.getElem?_set_ne same] at found
      exact ⟨location, found, reports⟩

end Runs

/-- The generation gate over every interleaving of packet executions, control runs
and barrier calls: the count in the word is the number of executions between their
enter and their decrement, the gate is never poisoned, nobody is inside from the
moment a CLOSE run returns IDLE or a quiescence succeeds, and a sealed gate is
never again reported open. -/
theorem gate_quiesces (generation : Nat) (identity : Bool) (turns later : List Turn)
    (along : Runs.Along (step generation identity) Admissible initial (turns ++ later)) :
    let world := Runs.run (step generation identity) initial turns
    let final := Runs.run (step generation identity) initial (turns ++ later)
    inflight world.shared.state = world.threads.countP Location.isEntered ∧
      poisoned (flags world.shared.state) = false ∧
      ((.returned .close .idle ∈ world.threads ∨ .quiesced true ∈ world.threads) →
        final.threads.countP Location.isEntered = 0) ∧
      ∀ turn, Admissible final turn → world.shared.state.testBit 62 = true →
        ∀ (index : Nat) (location : Location),
          (step generation identity final turn).threads[index]? = some location →
          location.reportsOpen = true → ∃ before : Location, final.threads[index]? = some before ∧
            before.reportsOpen = true := by
  intro world final
  obtain ⟨first, second⟩ := Runs.Along.append along
  have sound : Sound generation identity world := run_sound initial_sound first
  have finalEq : final = Runs.run (step generation identity) world later := Runs.run_append _ _ _ _
  obtain ⟨counted, _, clean⟩ := sound.shape.parts sound.small
  -- what the word keeps, it keeps to the end of the run
  have still (holds : Nat → Prop) (kept : ∀ (world : World) (turn : Turn), Sound generation identity world →
      Admissible world turn → holds world.shared.state → holds (step generation identity world turn).shared.state)
      (now : holds world.shared.state) : Sound generation identity final ∧ holds final.shared.state := by
    rw [finalEq]
    exact Runs.invariant (P := fun world => Sound generation identity world ∧ holds world.shared.state)
      (fun world turn both admissible =>
        ⟨step_sound world turn both.1 admissible, kept world turn both.1 admissible both.2⟩) ⟨sound, now⟩ second
  refine ⟨counted, clean, ?_, ?_⟩
  · intro finished
    have idle : world.shared.state = stateSealed := by
      rcases finished with closed | quiesced
      · exact sound.threads _ closed rfl rfl
      · exact sound.threads _ quiesced rfl
    obtain ⟨ended, sealed⟩ := still (· = stateSealed)
      (fun world turn sound admissible => (step_word world turn sound admissible).1) idle
    obtain ⟨counted, _⟩ := ended.shape.parts ended.small
    rw [← counted, sealed]
    rfl
  · intro turn _ bit index location
    obtain ⟨ended, closed⟩ := still Sealed
      (fun world turn sound admissible => (step_word world turn sound admissible).2) (sound.sealed_iff.mp bit)
    exact step_sealed final turn ended closed

section Example

/-- The gate of generation 91 is opened, one packet enters, and CLOSE has to wait
for it. -/
def sampleTurns : List Turn :=
  [.spawn (.control .open_ .activate), .act 0 true, .act 0 true, .act 0 true,
    .spawn .enterBound, .act 1 true, .act 1 true, .act 1 true,
    .spawn (.control .close .quiesce), .act 2 true, .act 2 true, .act 2 true]

/-- The packet leaves and wakes the barrier, which confirms. -/
def sampleExit : List Turn :=
  [.act 1 true, .act 1 true, .act 1 true, .act 1 true, .act 2 true, .act 2 true, .act 2 true, .act 2 true, .act 2 true]

/-- An enter reads the unbound generation; the gate is bound and opened before it
reads the state. -/
def sampleRace : List Turn :=
  [.spawn .enterBound, .spawn (.control .open_ .direct), .act 0 true, .act 0 true,
    .act 1 true, .act 1 true, .act 1 true, .act 0 true, .act 0 true]

end Example

/-- One packet in flight while the gate closes, and nobody once it has left. -/
theorem sample_gate_quiesces :
    inflight (Runs.run (step 91 true) initial sampleTurns).shared.state = 1 ∧
      (Runs.run (step 91 true) initial (sampleTurns ++ sampleExit)).threads.countP Location.isEntered = 0 := by
  have along : Runs.Along (step 91 true) Admissible initial (sampleTurns ++ sampleExit) := by decide +kernel
  have rest : Runs.Along (step 91 true) Admissible initial ((sampleTurns ++ sampleExit) ++ []) := by decide +kernel
  constructor
  · rw [(gate_quiesces 91 true sampleTurns sampleExit along).1]
    decide +kernel
  · have done := (gate_quiesces 91 true (sampleTurns ++ sampleExit) [] rest).2.2.1 (.inr (by decide +kernel))
    rwa [List.append_nil] at done

/-- An enter that overlaps the first OPEN run poisons the gate. -/
theorem enter_races_open_poisons :
    poisoned (flags (Runs.run (step 91 true) initial sampleRace).shared.state) = true ∧
      .returned .open_ .opened ∈ (Runs.run (step 91 true) initial sampleRace).threads := by
  decide +kernel

end WgMix.Bpf.AtomicGate
