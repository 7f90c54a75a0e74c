import WgMix.FakeTcp.ActionRecovery

/-! The write-ahead discipline: what the events of every run have in common,
however often calls fail, processes end and recoveries repeat. -/
namespace WgMix.FakeTcp.WriteAhead
open Effects

def ActionStep.reinjects : ActionStep → Bool
  | .sendControl .. => false
  | .reinject .. => true

/-- The lifetime of one checkpoint: its steps and the events since its creation. -/
def opened : Option (List ActionStep × List Event) → Event → Option (List ActionStep × List Event)
  | _, .created steps => some (steps, [])
  | _, .deleted => none
  | held, event => held.map fun lifetime => (lifetime.1, lifetime.2 ++ [event])

def current (history : List Event) : Option (List ActionStep × List Event) := history.foldl opened none

/-- A step that recovery may pass over. A control has been sent; a reinjection has
been tried, or counted as skipped, or the move past it took effect unseen. -/
def Settled (later : List Event) (index : Nat) : ActionStep → Prop
  | .sendControl flow wgId control => .called index (.sendControl flow wgId control) ∈ later
  | .reinject flow packet => .called index (.reinject flow packet) ∈ later ∨ .skipped index ∈ later ∨
      .moved .prepared (index + 1) false ∈ later

/-- When an event may follow a history. -/
def Allowed (before : List Event) : Event → Prop
  | .created _ => current before = none
  | .called index step => ∃ steps later, current before = some (steps, later) ∧ steps[index]? = some step ∧
      (∀ earlier < index, ∀ other, steps[earlier]? = some other → Settled later earlier other) ∧
      (∀ behind other, .called behind other ∈ later → behind ≤ index) ∧
      (ActionStep.reinjects step = true → ∀ other, .called index other ∉ later)
  | .deleted => ∃ steps later, current before = some (steps, later) ∧
      ∀ index step, steps[index]? = some step → Settled later index step
  | .moved .. | .skipped _ => True

theorem Settled.mono (settled : Settled later index step) (more : List Event) :
    Settled (later ++ more) index step := by
  cases step with
  | sendControl flow wgId control => exact List.mem_append_left _ settled
  | reinject flow packet =>
    rcases settled with tried | counted | unseen
    · exact .inl (List.mem_append_left _ tried)
    · exact .inr (.inl (List.mem_append_left _ counted))
    · exact .inr (.inr (List.mem_append_left _ unseen))

theorem Settled.of_called (called : .called index step ∈ later) : Settled later index step := by
  cases step with
  | sendControl flow wgId control => exact called
  | reinject flow packet => exact .inl called

theorem current_snoc (history : List Event) (event : Event) :
    current (history ++ [event]) = opened (current history) event := by
  rw [current, List.foldl_append]
  rfl

/-- The step at the position has not been reinjected. -/
def Fresh (checkpoint : ActionCheckpoint) (later : List Event) : Prop :=
  ∀ step, checkpoint.steps[checkpoint.nextStep]? = some step → ActionStep.reinjects step = true →
    ∀ other, .called checkpoint.nextStep other ∉ later

/-- How far the events of a lifetime are, by its checkpoint. -/
structure Progress (checkpoint : ActionCheckpoint) (later : List Event) : Prop where
  called : ∀ index step, .called index step ∈ later → index ≤ checkpoint.nextStep
  fresh : checkpoint.phase = .prepared → Fresh checkpoint later
  settled : ∀ index < checkpoint.nextStep, ∀ step, checkpoint.steps[index]? = some step →
    Settled later index step

/-- A move ahead, with events that are no calls. -/
theorem Progress.move (progress : Progress checkpoint later) (same : moved.steps = checkpoint.steps)
    (ahead : checkpoint.nextStep ≤ moved.nextStep)
    (quiet : ∀ index step, .called index step ∈ later ++ events → .called index step ∈ later)
    (fresh : moved.phase = .prepared → checkpoint.nextStep < moved.nextStep ∨ Fresh moved later)
    (settled : ∀ index step, checkpoint.nextStep ≤ index → index < moved.nextStep →
      checkpoint.steps[index]? = some step → Settled (later ++ events) index step) :
    Progress moved (later ++ events) := by
  constructor
  · intro index step member
    exact (progress.called index step (quiet index step member)).trans ahead
  · intro prepared step at_ reinjects other member
    rcases fresh prepared with past | fresh
    · have bound := progress.called _ _ (quiet _ _ member)
      omega
    · exact fresh step at_ reinjects other (quiet _ _ member)
  · intro index below step at_
    rw [same] at at_
    by_cases old : index < checkpoint.nextStep
    · exact (progress.settled index old step at_).mono events
    · exact settled index step (by omega) below at_

theorem Progress.call (progress : Progress checkpoint later) (attempting : checkpoint.phase = .attempting) :
    Progress checkpoint (later ++ [.called checkpoint.nextStep step]) := by
  constructor
  · intro index other member
    rcases List.mem_append.mp member with old | new
    · exact progress.called index other old
    · cases List.mem_singleton.mp new
      exact Nat.le_refl _
  · intro prepared
    rw [attempting] at prepared
    contradiction
  · intro index below other at_
    exact (progress.settled index below other at_).mono _

/-- The store holds this checkpoint, whose lifetime has these events. -/
structure Holds (checkpoint : ActionCheckpoint) (later : List Event) (state : State) : Prop where
  stored : state.store.checkpoint = some checkpoint
  permitted : Runs.Permitted Allowed state.history
  lifetime : current state.history = some (checkpoint.steps, later)

/-- What every call finds and leaves. -/
structure Sound (store : ActionCheckpointStore) (history : List Event) : Prop where
  permitted : Runs.Permitted Allowed history
  idle : store.checkpoint = none → current history = none
  held : ∀ checkpoint, store.checkpoint = some checkpoint →
    ∃ later, current history = some (checkpoint.steps, later) ∧ Progress checkpoint later

def Safe (state : State) : Prop := Sound state.store state.history

theorem Holds.safe (holds : Holds checkpoint later state) (progress : Progress checkpoint later) : Safe state where
  permitted := holds.permitted
  idle none := by
    rw [holds.stored] at none
    contradiction
  held other stored := by
    rw [holds.stored] at stored
    cases stored
    exact ⟨later, holds.lifetime, progress⟩

section Writes
variable {pre : State → Prop} {post : α → State → Prop}
  {apply : ActionCheckpointStore → Except Cause (ActionCheckpointStore × α)}

/-- A write fails with nothing changed or with its effect, or returns with it. -/
theorem write_ensures (answer : Answer) (wrap : Cause → Stop) (event : Bool → Event)
    (kept : ∀ state, pre state → Safe state)
    (unseen : ∀ state store value, pre state → apply state.store = .ok (store, value) →
      Safe (state.put store (event false)))
    (seen : ∀ state store value, pre state → apply state.store = .ok (store, value) →
      post value (state.put store (event true))) :
    Ensures pre (write answer wrap event apply) post Safe := by
  intro state holds
  cases applied : apply state.store with
  | error cause =>
    rcases answer with _ | _ | _ | _ | _
    all_goals
      simp only [write, applied]
      exact kept state holds
  | ok result =>
    obtain ⟨store, value⟩ := result
    rcases answer with _ | _ | _ | _ | _
    all_goals simp only [write, applied]
    · exact seen state store value holds applied
    · exact kept state holds
    · exact unseen state store value holds applied
    · exact kept state holds
    · exact unseen state store value holds applied

end Writes

theorem allocateRevision_ok {α : Type} {value : α} {written : Except ExecError α}
    (done : allocateRevision store written = .ok value) : written = .ok value := by
  cases written with
  | error cause => contradiction
  | ok result =>
    exact congrArg Except.ok (Except.ok.inj (guard_ok done).2)

/-- Either contract moves the stored checkpoint and nothing else of it. -/
theorem updateCheckpoint_ok (host : Host) (contract : UpdateContract)
    {phase : ActionCheckpointPhase} {nextStep : Nat} (stored : store.checkpoint = some checkpoint)
    (done : updateCheckpoint host contract checkpoint phase nextStep store = .ok (left, moved)) :
    left.checkpoint = some moved ∧ moved.steps = checkpoint.steps ∧ moved.phase = phase ∧
      moved.nextStep = nextStep := by
  cases contract with
  | transition =>
    have written := allocateRevision_ok done
    simp only [ActionCheckpointStore.transition, stored] at written
    obtain ⟨_, written⟩ := guard_ok written
    obtain ⟨_, written⟩ := guard_ok written
    obtain ⟨_, written⟩ := guard_ok written
    cases written
    exact ⟨rfl, rfl, rfl, rfl⟩
  | update =>
    obtain ⟨_, written⟩ := guard_ok (allocateRevision_ok done)
    split at written
    · contradiction
    simp only [stored] at written
    obtain ⟨_, written⟩ := guard_ok written
    cases written
    exact ⟨rfl, rfl, rfl, rfl⟩

theorem createActionCheckpoint_ok (host : Host)
    (done : createActionCheckpoint host checkpoint store = .ok (left, created)) :
    store.checkpoint = none ∧ left.checkpoint = some created ∧ created.steps = checkpoint.steps ∧
      created.phase = checkpoint.phase ∧ created.nextStep = checkpoint.nextStep := by
  have written := allocateRevision_ok done
  simp only [ActionCheckpointStore.create] at written
  obtain ⟨_, written⟩ := guard_ok written
  obtain ⟨_, _, written⟩ := bind_ok written
  obtain ⟨free, written⟩ := guard_ok written
  cases written
  exact ⟨Option.not_isSome_iff_eq_none.mp free, rfl, rfl, rfl, rfl⟩

theorem quiet_snoc (later : List Event) {event : Event} (quiet : ∀ index step, event ≠ .called index step)
    (index : Nat) (step : ActionStep) (member : .called index step ∈ later ++ [event]) :
    .called index step ∈ later := by
  rcases List.mem_append.mp member with old | new
  · exact old
  · exact absurd (List.mem_singleton.mp new).symm (quiet index step)

section Calls
variable (host : Host) (contract : UpdateContract) (script : Script)

/-- A move: what is known of the lifetime stays known, and a failed caller has
left a store that the next call may find. -/
theorem moveTo_ensures {P : List Event → Prop} (answer : Answer) {checkpoint : ActionCheckpoint}
    {phase : ActionCheckpointPhase} {nextStep : Nat} (kept : ∀ later, P later → Progress checkpoint later)
    (unseen : ∀ later moved, P later → moved.steps = checkpoint.steps → moved.phase = phase →
      moved.nextStep = nextStep → Progress moved (later ++ [.moved phase nextStep false])) :
    Ensures (fun state => ∃ later, Holds checkpoint later state ∧ P later)
      (moveTo host contract answer checkpoint phase nextStep)
      (fun moved state => moved.steps = checkpoint.steps ∧ moved.phase = phase ∧ moved.nextStep = nextStep ∧
        ∃ later, Holds moved (later ++ [.moved phase nextStep true]) state ∧ P later) Safe := by
  have holds_moved {later state store moved} (seen : Bool) (holds : Holds checkpoint later state)
      (done : updateCheckpoint host contract checkpoint phase nextStep state.store = .ok (store, moved)) :
      Holds moved (later ++ [.moved phase nextStep seen]) (state.put store (.moved phase nextStep seen)) := by
    obtain ⟨stored, same, _, _⟩ := updateCheckpoint_ok host contract holds.stored done
    refine ⟨stored, holds.permitted.snoc trivial, ?_⟩
    simp only [State.put, current_snoc, holds.lifetime, opened, Option.map_some, same]
  apply write_ensures
  · rintro state ⟨later, holds, known⟩
    exact holds.safe (kept later known)
  · rintro state store moved ⟨later, holds, known⟩ done
    obtain ⟨_, same, inPhase, at_⟩ := updateCheckpoint_ok host contract holds.stored done
    exact (holds_moved false holds done).safe (unseen later moved known same inPhase at_)
  · rintro state store moved ⟨later, holds, known⟩ done
    obtain ⟨_, same, inPhase, at_⟩ := updateCheckpoint_ok host contract holds.stored done
    exact ⟨same, inPhase, at_, later, holds_moved true holds done, known⟩

/-- A held checkpoint between two moves. -/
def Prepared (checkpoint : ActionCheckpoint) (state : State) : Prop :=
  checkpoint.phase = .prepared ∧ ∃ later, Holds checkpoint later state ∧ Progress checkpoint later

def Attempting (checkpoint : ActionCheckpoint) (state : State) : Prop :=
  ∃ later, Holds checkpoint later state ∧ Progress checkpoint later

theorem Attempting.safe (attempting : Attempting checkpoint state) : Safe state := by
  obtain ⟨later, holds, progress⟩ := attempting
  exact holds.safe progress

theorem resume_reinject {checkpoint : ActionCheckpoint} (phase : checkpoint.phase = .attempting)
    (at_ : checkpoint.steps[checkpoint.nextStep]? = some (.reinject flow packet)) :
    Ensures (Attempting checkpoint) (resumeAttempting host contract script checkpoint true) Prepared Safe := by
  simp only [resumeAttempting, phase, at_]
  -- the ambiguous reinjection is passed over
  have past (later : List Event) (progress : Progress checkpoint later) (moved : ActionCheckpoint)
      (same : moved.steps = checkpoint.steps) (next : moved.nextStep = checkpoint.nextStep + 1)
      (events : List Event)
      (quiet : ∀ index step, .called index step ∈ later ++ events → .called index step ∈ later)
      (settled : Settled (later ++ events) checkpoint.nextStep (.reinject flow packet)) :
      Progress moved (later ++ events) := by
    apply progress.move same (by omega) quiet (fun _ => .inl (by omega))
    intro index step from_ below found
    obtain rfl : index = checkpoint.nextStep := by omega
    rw [at_] at found
    cases found
    exact settled
  refine Ensures.bind (moveTo_ensures host contract script.resume (fun _ progress => progress) ?_)
    fun moved => Ensures.bind ?_ fun _ => Ensures.pure fun _ holds => holds
  · intro later moved progress same _ next
    exact past later progress moved same next _ (quiet_snoc later (by simp))
      (.inr (.inr (List.mem_append_right _ List.mem_cons_self)))
  · rintro state ⟨same, prepared, next, later, holds, progress⟩
    refine ⟨prepared, later ++ ([.moved .prepared (checkpoint.nextStep + 1) true] ++
      [.skipped checkpoint.nextStep]), ?_, ?_⟩
    · refine ⟨holds.stored, holds.permitted.snoc trivial, ?_⟩
      simp only [State.note, current_snoc, holds.lifetime, opened, Option.map_some, List.append_assoc]
    · apply past later progress moved same next
      · intro index step member
        rw [← List.append_assoc] at member
        exact quiet_snoc _ (by simp) index step (quiet_snoc _ (by simp) index step member)
      · exact .inr (.inl (by simp))

theorem resume_control {checkpoint : ActionCheckpoint} {control : ControlPacket} (phase : checkpoint.phase = .attempting)
    (at_ : checkpoint.steps[checkpoint.nextStep]? = some (.sendControl flow wgId control)) :
    Ensures (Attempting checkpoint) (resumeAttempting host contract script checkpoint true) Prepared Safe := by
  simp only [resumeAttempting, phase, at_]
  have again (later : List Event) (progress : Progress checkpoint later) (moved : ActionCheckpoint)
      (same : moved.steps = checkpoint.steps) (next : moved.nextStep = checkpoint.nextStep) (seen : Bool) :
      Progress moved (later ++ [.moved .prepared checkpoint.nextStep seen]) := by
    apply progress.move same (by omega) (quiet_snoc later (by simp))
    · intro _
      refine .inr fun step found reinjects => ?_
      rw [same, next, at_] at found
      cases found
      contradiction
    · intro index step from_ below
      omega
  refine Ensures.bind (moveTo_ensures host contract script.resume (fun _ progress => progress) ?_)
    fun moved => Ensures.bind ?_ fun _ => Ensures.pure fun _ holds => holds
  · intro later moved progress same _ next
    exact again later progress moved same next false
  · rintro state ⟨same, prepared, next, later, holds, progress⟩
    exact ⟨prepared, _, ⟨holds.stored, holds.permitted, holds.lifetime⟩,
      again later progress moved same next true⟩

theorem resumeAttempting_ensures (checkpoint : ActionCheckpoint) (recovering : Bool) :
    Ensures (Attempting checkpoint) (resumeAttempting host contract script checkpoint recovering) Prepared Safe := by
  cases phase : checkpoint.phase with
  | prepared =>
    simp only [resumeAttempting, phase]
    exact Ensures.pure fun state holds => ⟨phase, holds⟩
  | attempting =>
    cases at_ : checkpoint.steps[checkpoint.nextStep]? with
    | none =>
      simp only [resumeAttempting, phase, at_]
      exact Ensures.throw fun state holds => holds.safe
    | some step =>
      cases recovering with
      | false =>
        simp only [resumeAttempting, phase, at_]
        exact Ensures.throw fun state holds => holds.safe
      | true =>
        cases step with
        | reinject flow packet => exact resume_reinject host contract script phase at_
        | sendControl flow wgId control => exact resume_control host contract script phase at_

/-- The step at the position is marked before it is run. -/
def Marked (checkpoint marked : ActionCheckpoint) (state : State) : Prop :=
  marked.steps = checkpoint.steps ∧ marked.phase = .attempting ∧ marked.nextStep = checkpoint.nextStep ∧
    ∃ later, Holds marked later state ∧ Progress marked later ∧ Fresh marked later

theorem attempt_ensures (answer : Answer) (checkpoint : ActionCheckpoint) :
    Ensures (Prepared checkpoint) (moveTo host contract answer checkpoint .attempting checkpoint.nextStep)
      (Marked checkpoint) Safe := by
  have mark (seen : Bool) (later : List Event) (moved : ActionCheckpoint)
      (known : Progress checkpoint later ∧ Fresh checkpoint later) (same : moved.steps = checkpoint.steps)
      (attempting : moved.phase = .attempting) (here : moved.nextStep = checkpoint.nextStep) :
      Progress moved (later ++ [.moved .attempting checkpoint.nextStep seen]) := by
    apply known.1.move same (by omega) (quiet_snoc later (by simp))
    · intro prepared
      rw [attempting] at prepared
      contradiction
    · intro index step from_ below
      omega
  have moving := moveTo_ensures host contract answer (fun _ known => And.left known) (mark false)
  intro state holds
  have ran := moving state ⟨_, holds.2.choose_spec.1, holds.2.choose_spec.2,
    holds.2.choose_spec.2.fresh holds.1⟩
  split at ran
  · obtain ⟨same, attempting, here, later, held, known⟩ := ran
    refine ⟨same, attempting, here, _, held, mark true later _ known same attempting here, ?_⟩
    intro step at_ reinjects other member
    rw [same, here] at at_
    rw [here] at member
    exact known.2 step at_ reinjects other (quiet_snoc later (by simp) _ _ member)
  · exact ran

/-- A call of the marked step, which is the first one if it is a reinjection. -/
theorem executeActionStep_ensures (reply : Reply) {checkpoint marked : ActionCheckpoint}
    (at_ : checkpoint.steps[checkpoint.nextStep]? = some step) :
    Ensures (Marked checkpoint marked) (executeActionStep checkpoint.nextStep step reply)
      (fun _ state => marked.steps = checkpoint.steps ∧ marked.nextStep = checkpoint.nextStep ∧
        ∃ later, Holds marked later state ∧
          (Progress marked later ∧ .called checkpoint.nextStep step ∈ later)) Safe := by
  rintro state ⟨same, attempting, here, later, holds, progress, fresh⟩
  rw [← same, ← here] at at_
  rw [← here]
  have called : Holds marked (later ++ [.called marked.nextStep step])
      (state.note (.called marked.nextStep step)) := by
    refine ⟨holds.stored, holds.permitted.snoc ?_, ?_⟩
    · exact ⟨marked.steps, later, holds.lifetime, at_, progress.settled, progress.called, fresh step at_⟩
    · simp only [State.note, current_snoc, holds.lifetime, opened, Option.map_some]
  cases reply with
  | done => exact ⟨same, rfl, _, called, progress.call attempting, List.mem_append_right _ List.mem_cons_self⟩
  | failed => exact called.safe (progress.call attempting)
  | died => exact called.safe (progress.call attempting)

theorem complete_ensures (answer : Answer) {checkpoint marked : ActionCheckpoint}
    (at_ : checkpoint.steps[checkpoint.nextStep]? = some step) :
    Ensures (fun state => marked.steps = checkpoint.steps ∧ marked.nextStep = checkpoint.nextStep ∧
        ∃ later, Holds marked later state ∧ (Progress marked later ∧ .called checkpoint.nextStep step ∈ later))
      (moveTo host contract answer marked .prepared (checkpoint.nextStep + 1))
      (fun moved state => moved.steps = checkpoint.steps ∧ moved.nextStep = checkpoint.nextStep + 1 ∧
        Prepared moved state) Safe := by
  rintro state ⟨same, here, holding⟩
  have complete (seen : Bool) (later : List Event) (moved : ActionCheckpoint)
      (known : Progress marked later ∧ .called checkpoint.nextStep step ∈ later)
      (kept : moved.steps = marked.steps) (next : moved.nextStep = checkpoint.nextStep + 1) :
      Progress moved (later ++ [.moved .prepared (checkpoint.nextStep + 1) seen]) := by
    apply known.1.move kept (by omega) (quiet_snoc later (by simp)) (fun _ => .inl (by omega))
    intro index other from_ below found
    obtain rfl : index = checkpoint.nextStep := by omega
    rw [same, at_] at found
    cases found
    exact (Settled.of_called known.2).mono _
  have ran := moveTo_ensures host contract answer (fun _ known => And.left known)
    (fun later moved known kept _ next => complete false later moved known kept next) state holding
  split at ran
  · obtain ⟨kept, prepared, next, later, held, known⟩ := ran
    exact ⟨kept.trans same, next, prepared, _, held, complete true later _ known kept next⟩
  · exact ran

theorem runSteps_ensures (steps : List ActionStep) {checkpoint : ActionCheckpoint}
    (rest : checkpoint.steps.drop checkpoint.nextStep = steps) :
    Ensures (Prepared checkpoint) (runSteps host contract script steps checkpoint)
      (fun final state => Prepared final state ∧ final.steps.length ≤ final.nextStep) Safe := by
  induction steps generalizing checkpoint with
  | nil => exact Ensures.pure fun state holds => ⟨holds, List.drop_eq_nil_iff.mp rest⟩
  | cons step others ih =>
    have at_ : checkpoint.steps[checkpoint.nextStep]? = some step := by
      rw [← List.head?_drop, rest, List.head?_cons]
    have behind : checkpoint.steps.drop (checkpoint.nextStep + 1) = others := by
      rw [← List.tail_drop, rest, List.tail_cons]
    have uncancelled : Ensures (Prepared checkpoint)
        (check (script.cancelled checkpoint.nextStep) (required .cancelled)) (fun _ => Prepared checkpoint) Safe :=
      Ensures.check (fun state holds => Attempting.safe holds.2) fun state _ holds => holds
    refine Ensures.bind uncancelled fun _ => ?_
    refine Ensures.bind (attempt_ensures host contract _ checkpoint) fun marked => ?_
    refine Ensures.bind (executeActionStep_ensures _ at_) fun _ => ?_
    refine Ensures.bind (complete_ensures host contract _ at_) fun moved => ?_
    rintro state ⟨kept, next, holds⟩
    have remaining : moved.steps.drop moved.nextStep = others := by rw [kept, next, behind]
    exact ih remaining _ ⟨holds.1, holds.2.imp fun _ held => ⟨⟨held.1.stored, held.1.permitted, held.1.lifetime⟩,
      held.2⟩⟩

/-- The checkpoint is deleted once every step is settled. -/
theorem delete_ensures (answer : Answer) (checkpoint : ActionCheckpoint) :
    Ensures (fun state => Prepared checkpoint state ∧ checkpoint.steps.length ≤ checkpoint.nextStep)
      (write answer required (fun _ => .deleted) (deleteActionCheckpoint checkpoint.revision))
      (fun _ => Safe) Safe := by
  have deleted (state : State) (store : ActionCheckpointStore) (value : Unit)
      (holding : Prepared checkpoint state ∧ checkpoint.steps.length ≤ checkpoint.nextStep)
      (done : deleteActionCheckpoint checkpoint.revision state.store = .ok (store, value)) :
      Safe (state.put store .deleted) := by
    obtain ⟨⟨_, later, holds, progress⟩, finished⟩ := holding
    have empty : store.checkpoint = none := by
      simp only [deleteActionCheckpoint, ActionCheckpointStore.delete, holds.stored] at done
      split at done
      · contradiction
      · rename_i left same
        cases done
        obtain ⟨_, same⟩ := guard_ok same
        obtain ⟨_, same⟩ := guard_ok same
        cases same
        rfl
    have gone : current (state.put store .deleted).history = none := by
      simp only [State.put, current_snoc, opened]
    refine ⟨holds.permitted.snoc ⟨checkpoint.steps, later, holds.lifetime, ?_⟩, fun _ => gone, ?_⟩
    · intro index step at_
      have below : index < checkpoint.steps.length := (List.getElem?_eq_some_iff.mp at_).1
      exact progress.settled index (by omega) step at_
    · intro other stored
      exact absurd (stored.symm.trans empty) (by simp)
  exact write_ensures answer required _ (fun state holding => Attempting.safe holding.1.2) deleted deleted

theorem continueLocked_ensures (checkpoint : ActionCheckpoint) (recovering : Bool) :
    Ensures (Attempting checkpoint) (continueLocked host contract script checkpoint recovering)
      (fun _ => Safe) Safe := by
  refine Ensures.bind (resumeAttempting_ensures host contract script checkpoint recovering) fun resumed => ?_
  refine Ensures.bind (runSteps_ensures host contract script _ rfl) fun final => ?_
  exact delete_ensures script.delete final

theorem safe_check (failing : Bool) (cause : Stop) :
    Ensures Safe (check failing cause) (fun _ => Safe) Safe :=
  Ensures.check (fun _ safe => safe) fun _ _ safe => safe

theorem createCheckpoint_ensures (identity : RuntimeIdentity) (steps : List ActionStep) :
    Ensures Safe (createCheckpoint host script identity steps) Attempting Safe := by
  have created (store : ActionCheckpointStore) (operation : Nat) (checkpoint : ActionCheckpoint) (state : State)
      (safe : Safe state) (done : createActionCheckpoint host ⟨0, operation, identity, .prepared, 0, steps⟩
        state.store = .ok (store, checkpoint)) :
      Attempting checkpoint (state.put store (.created steps)) := by
    obtain ⟨free, stored, same, _, first⟩ := createActionCheckpoint_ok host done
    refine ⟨[], ⟨stored, safe.permitted.snoc (safe.idle free), ?_⟩, ?_, ?_, ?_⟩
    · simp only [State.put, current_snoc, opened, same]
    · intro index step member
      cases member
    · intro _ step _ _ other member
      cases member
    · intro index below
      rw [first] at below
      exact absurd below (Nat.not_lt_zero _)
  refine Ensures.bind (fun state safe => safe : Ensures Safe get (fun _ => Safe) Safe) fun read => ?_
  refine Ensures.bind (safe_check _ _) fun _ => ?_
  refine Ensures.bind (write_ensures script.create createFailure _ (fun _ safe => safe)
    (fun state store checkpoint safe done => (created store _ checkpoint state safe done).safe)
    (fun state store checkpoint safe done => created store _ checkpoint state safe done)) fun checkpoint => ?_
  rintro state ⟨later, holds, progress⟩
  exact ⟨later, ⟨holds.stored, holds.permitted, holds.lifetime⟩, progress⟩

theorem load_ensures (reply : Reply) :
    Ensures Safe (load reply) (fun found state => Safe state ∧ found = state.store.checkpoint) Safe := by
  intro state safe
  cases reply with
  | done => exact ⟨safe, rfl⟩
  | failed => exact safe
  | died => exact safe

theorem execute_ensures (identity : RuntimeIdentity) (actions : List Action) :
    Ensures Safe (execute host contract script identity actions) (fun _ => Safe) Safe := by
  rw [execute]
  split
  · exact Ensures.throw fun _ safe => safe
  split
  · exact Ensures.pure fun _ safe => safe
  refine Ensures.bind (safe_check _ _) fun _ => Ensures.bind (load_ensures script.load) fun found => ?_
  split
  · exact Ensures.throw fun _ held => held.1
  refine Ensures.weaken (fun _ held => held.1) ?_
  refine Ensures.bind (createCheckpoint_ensures host script identity _) fun checkpoint => ?_
  exact continueLocked_ensures host contract script checkpoint false

theorem recover_ensures (identity : RuntimeIdentity) :
    Ensures Safe (recover host contract script identity) (fun _ => Safe) Safe := by
  refine Ensures.bind (safe_check _ _) fun _ => Ensures.bind (load_ensures script.load) fun found => ?_
  cases found with
  | none => exact Ensures.pure fun _ held => held.1
  | some checkpoint =>
    have guarded (failing : Bool) (cause : Stop) :
        Ensures (Attempting checkpoint) (check failing cause) (fun _ => Attempting checkpoint) Safe :=
      Ensures.check (fun _ held => held.safe) fun _ _ held => held
    have held (state : State) (found : Safe state ∧ some checkpoint = state.store.checkpoint) :
        Attempting checkpoint state := by
      obtain ⟨later, lifetime, progress⟩ := found.1.held checkpoint found.2.symm
      exact ⟨later, ⟨found.2.symm, found.1.permitted, lifetime⟩, progress⟩
    refine Ensures.weaken held ?_
    refine Ensures.bind (guarded _ _) fun _ => Ensures.bind (guarded _ _) fun _ => ?_
    exact continueLocked_ensures host contract script checkpoint true

end Calls

section Counts

def Event.isSkipped : Event → Bool
  | .skipped _ => true
  | _ => false

/-- The report counts the skips that were noted since `before`. -/
def Counts (before : List Event) (state : State) : Prop :=
  ∃ events, state.history = before ++ events ∧
    state.report.skippedAmbiguousReinjections = events.countP Event.isSkipped

variable {before : List Event}

theorem counts_note (counts : Counts before state) {event : Event} (other : event.isSkipped = false)
    (same : left.report.skippedAmbiguousReinjections = state.report.skippedAmbiguousReinjections)
    (noted : left.history = state.history ++ [event]) : Counts before left := by
  obtain ⟨events, history, counted⟩ := counts
  refine ⟨events ++ [event], ?_, ?_⟩
  · rw [noted, history, List.append_assoc]
  · rw [same, counted, List.countP_append, List.countP_singleton, other]
    rfl

theorem write_counts (answer : Answer) (wrap : Cause → Stop) (event : Bool → Event)
    (apply : ActionCheckpointStore → Except Cause (ActionCheckpointStore × α))
    (other : ∀ seen, (event seen).isSkipped = false) : Keeps (Counts before) (write answer wrap event apply) := by
  intro state counts
  have put (store : ActionCheckpointStore) (seen : Bool) : Counts before (state.put store (event seen)) :=
    counts_note counts (other seen) rfl rfl
  cases applied : apply state.store with
  | error cause =>
    rcases answer with _ | _ | _ | _ | _
    all_goals
      simp only [after, write, applied]
      exact counts
  | ok result =>
    rcases answer with _ | _ | _ | _ | _
    all_goals simp only [after, write, applied]
    · exact put result.1 true
    · exact counts
    · exact put result.1 false
    · exact counts
    · exact put result.1 false

theorem countSkip_counts (index : Nat) : Keeps (Counts before) (countSkip index) := by
  rintro state ⟨events, history, counted⟩
  refine ⟨events ++ [.skipped index], ?_, ?_⟩
  · rw [← List.append_assoc, ← history]
    rfl
  · rw [List.countP_append, ← counted]
    rfl

variable (host : Host) (contract : UpdateContract) (script : Script)

theorem moveTo_counts (answer : Answer) (checkpoint : ActionCheckpoint) (phase : ActionCheckpointPhase)
    (nextStep : Nat) : Keeps (Counts before) (moveTo host contract answer checkpoint phase nextStep) :=
  write_counts answer required _ _ fun _ => rfl

theorem resumeAttempting_counts (checkpoint : ActionCheckpoint) (recovering : Bool) :
    Keeps (Counts before) (resumeAttempting host contract script checkpoint recovering) := by
  unfold resumeAttempting
  split
  · exact Keeps.pure _
  split
  · exact Keeps.throw _
  · exact Keeps.throw _
  · exact Keeps.bind (moveTo_counts host contract _ _ _ _) fun _ =>
      Keeps.bind (countSkip_counts _) fun _ => Keeps.pure _
  · exact Keeps.bind (moveTo_counts host contract _ _ _ _) fun _ =>
      Keeps.bind (fun _ counts => counts) fun _ => Keeps.pure _

theorem runSteps_counts (steps : List ActionStep) (checkpoint : ActionCheckpoint) :
    Keeps (Counts before) (runSteps host contract script steps checkpoint) := by
  induction steps generalizing checkpoint with
  | nil => exact Keeps.pure _
  | cons step rest ih =>
    have called (index : Nat) (reply : Reply) :
        Keeps (Counts before) (executeActionStep index step reply) := by
      intro state counts
      cases reply with
      | done => exact counts_note counts rfl rfl rfl
      | failed => exact counts_note counts rfl rfl rfl
      | died => exact counts_note counts rfl rfl rfl
    exact Keeps.bind (Keeps.check _ _) fun _ => Keeps.bind (moveTo_counts host contract _ _ _ _) fun _ =>
      Keeps.bind (called _ _) fun _ => Keeps.bind (moveTo_counts host contract _ _ _ _) fun moved =>
        Keeps.bind (fun _ counts => counts) fun _ => ih moved

theorem recover_counts (identity : RuntimeIdentity) :
    Keeps (Counts before) (recover host contract script identity) := by
  have loaded : Keeps (Counts before) (load script.load) := by
    intro state counts
    cases script.load with
    | done => exact counts
    | failed => exact counts
    | died => exact counts
  refine Keeps.bind (Keeps.check _ _) fun _ => Keeps.bind loaded fun found => ?_
  cases found with
  | none => exact Keeps.pure _
  | some checkpoint =>
    refine Keeps.bind (Keeps.check _ _) fun _ => Keeps.bind (Keeps.check _ _) fun _ => ?_
    refine Keeps.bind (resumeAttempting_counts host contract script checkpoint true) fun resumed => ?_
    refine Keeps.bind (runSteps_counts host contract script _ resumed) fun final => ?_
    exact write_counts script.delete required _ _ fun _ => rfl

end Counts

section Runs
variable (host : Host) (contract : UpdateContract)

/-- However a call ends, the world has the store and the history it left. -/
theorem settle_left (world : World) (process : Process) (reporting : Bool) (program : Program Unit)
    (state : State) :
    (world.settle process reporting (program state)).store = (after program state).store ∧
      (world.settle process reporting (program state)).history = (after program state).history := by
  rw [after]
  cases program state with
  | ok value left => exact ⟨rfl, rfl⟩
  | error cause left =>
    cases cause with
    | died => exact ⟨rfl, rfl⟩
    | failed _ => exact ⟨rfl, rfl⟩
    | recoveryRequired _ => exact ⟨rfl, rfl⟩

theorem step_sound (world : World) (call : Call) (sound : Sound world.store world.history) :
    Sound (world.step host contract call).store (world.step host contract call).history := by
  have settled (process : Process) (reporting : Bool) (program : Program Unit)
      (ensured : Ensures Safe program (fun _ => Safe) Safe) :
      Sound (world.settle process reporting (program (world.begin process))).store
        (world.settle process reporting (program (world.begin process))).history := by
    obtain ⟨store, history⟩ := settle_left world process reporting program (world.begin process)
    rw [store, history]
    exact ensured.after (show Safe (world.begin process) from sound)
  cases call with
  | start identity load => exact sound
  | execute actions script =>
    rw [World.step]
    split
    · exact sound
    · exact settled _ false _ (execute_ensures host contract script _ actions)
  | recover script =>
    rw [World.step]
    split
    · exact sound
    · exact settled _ true _ (recover_ensures host contract script _)

theorem run_sound (calls : List Call) :
    Sound (Runs.run (World.step host contract) {} calls).store (Runs.run (World.step host contract) {} calls).history := by
  have initial : Sound ({} : World).store ({} : World).history := by
    refine ⟨Runs.Permitted.nil, fun _ => rfl, ?_⟩
    intro checkpoint stored
    contradiction
  exact Runs.always (step_sound host contract) initial calls

theorem load_found {state : State} (held : state.store.checkpoint = some checkpoint) (reply : Reply)
    (next : Option ActionCheckpoint → Program Unit) :
    after (load reply >>= next) state = state ∨
      after (load reply >>= next) state = after (next (some checkpoint)) state := by
  cases reply with
  | done =>
    right
    simp only [after, bind, EStateM.bind, load, held]
  | failed => exact .inl rfl
  | died => exact .inl rfl

/-- A retained checkpoint stops an execution before any effect. -/
theorem execute_fenced (script : Script) (identity : RuntimeIdentity) (actions : List Action) {state : State}
    (held : state.store.checkpoint = some checkpoint) :
    after (execute host contract script identity actions) state = state := by
  rw [execute]
  split
  · rfl
  split
  · rfl
  cases script.entryCancelled with
  | true => rfl
  | false =>
    rcases load_found held script.load _ with stopped | found
    · exact stopped
    · exact found

/-- A checkpoint of another identity is left alone. -/
theorem recover_foreign (script : Script) (identity : RuntimeIdentity) {state : State}
    (held : state.store.checkpoint = some checkpoint) (foreign : checkpoint.identity ≠ identity) :
    after (recover host contract script identity) state = state := by
  rw [recover]
  cases script.entryCancelled with
  | true => rfl
  | false =>
    rcases load_found held script.load _ with stopped | found
    · exact stopped
    · refine Eq.trans found ?_
      simp only [foreign, ne_eq, not_false_eq_true, decide_true]
      cases storedBad host checkpoint with
      | true => rfl
      | false => rfl

end Runs

/-- Over every sequence of process starts, executions and recoveries, with every
failure of the store, the backend and the process: calls follow the order of the
steps, a reinjection is tried at most once, and a checkpoint is deleted when every
step is settled; a retained checkpoint fences execution, and a checkpoint of
another identity is left alone. A recovery that returns reports what it skipped. -/
theorem write_ahead_discipline (host : Host) (contract : UpdateContract) (calls : List Call) :
    let world := Runs.run (World.step host contract) {} calls
    Runs.Permitted Allowed world.history ∧
      (∀ actions script, world.store.checkpoint.isSome = true →
        (world.step host contract (.execute actions script)).store = world.store ∧
          (world.step host contract (.execute actions script)).history = world.history) ∧
      (∀ script process checkpoint, world.process = some process → world.store.checkpoint = some checkpoint →
        checkpoint.identity ≠ process.identity →
        (world.step host contract (.recover script)).store = world.store ∧
          (world.step host contract (.recover script)).history = world.history) ∧
      ∀ script process, world.process = some process →
        (world.step host contract (.recover script)).process = none ∨
          ∃ report events, (world.step host contract (.recover script)).reports = world.reports ++ [report] ∧
            (world.step host contract (.recover script)).history = world.history ++ events ∧
            report.skippedAmbiguousReinjections = events.countP Event.isSkipped := by
  intro world
  refine ⟨(run_sound host contract calls).permitted, ?_, ?_, ?_⟩
  · intro actions script held
    obtain ⟨checkpoint, stored⟩ := Option.isSome_iff_exists.mp held
    cases running : world.process with
    | none =>
      simp only [World.step, running]
      exact ⟨trivial, trivial⟩
    | some process =>
      simp only [World.step, running]
      obtain ⟨store, history⟩ := settle_left world process false
        (execute host contract script process.identity actions) (world.begin process)
      rw [store, history, execute_fenced host contract script process.identity actions
        (show (world.begin process).store.checkpoint = some checkpoint from stored)]
      exact ⟨rfl, rfl⟩
  · intro script process checkpoint running stored foreign
    simp only [World.step, running]
    obtain ⟨store, history⟩ := settle_left world process true
      (recover host contract script process.identity) (world.begin process)
    rw [store, history, recover_foreign host contract script process.identity
      (show (world.begin process).store.checkpoint = some checkpoint from stored) foreign]
    exact ⟨rfl, rfl⟩
  · intro script process running
    simp only [World.step, running]
    have counts : Counts world.history (after (recover host contract script process.identity)
        (world.begin process)) :=
      recover_counts host contract script process.identity _ ⟨[], (List.append_nil _).symm, rfl⟩
    rw [after] at counts
    cases ran : recover host contract script process.identity (world.begin process) with
    | ok value left =>
      rw [ran] at counts
      obtain ⟨events, history, counted⟩ := counts
      exact .inr ⟨left.report, events, rfl, history, counted⟩
    | error cause left =>
      rw [ran] at counts
      obtain ⟨events, history, counted⟩ := counts
      cases cause with
      | died => exact .inl rfl
      | failed cause => exact .inr ⟨left.report, events, rfl, history, counted⟩
      | recoveryRequired cause => exact .inr ⟨left.report, events, rfl, history, counted⟩

section Example
open Bpf

def sampleIdentity : RuntimeIdentity := ⟨7, .fill 16 0xa5⟩

def samplePacket : PendingPacket where
  data := [0x45, 0, 0, 29]
  wgId := 1
  captureId := ⟨sampleIdentity, 0, 1⟩
  captureFingerprint := .fill 32 1

def sampleHost : Host := ⟨fun data => .fill 32 (data.byteAt 0)⟩

/-- One released packet. The mark in front of it takes effect although it is
reported as failed, and so does the move with which recovery passes over it. -/
def sampleCalls : List Call :=
  [.start sampleIdentity .done, .execute [.releasePending samplePeer 1 [samplePacket]] { attempt := fun _ => .unseen },
    .recover { resume := .unseen }, .recover {}]

end Example

/-- The reinjection is neither tried nor counted before its checkpoint is deleted. -/
theorem reinjection_lost_unreported :
    (Runs.run (World.step sampleHost .transition) {} sampleCalls).history =
        [.created [.reinject Bpf.samplePeer samplePacket], .moved .attempting 0 false, .moved .prepared 1 false,
          .deleted] ∧
      (Runs.run (World.step sampleHost .transition) {} sampleCalls).reports = [{}, {}] := by
  decide +kernel

end WgMix.FakeTcp.WriteAhead
