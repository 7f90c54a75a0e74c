import WgMix.FakeTcp.CompareClaimRuns
import WgMix.FakeTcp.ControlPacket

/-! The controls that an engine asks to send, over whole runs on its session store: each is
marshalled to a canonical packet, and an ACK is never asked for before its session is in the map. -/
namespace WgMix.FakeTcp
open Bpf Runs

def Action.Silent : Action → Prop
  | .sendControl .. => False
  | _ => True

/-- What the store told a call that asks for an ACK. -/
def AckBacked (incarnation : Incarnation) (turn : Turn) (flow : SessionKey) : StoreUse → Prop
  | .looks => ∃ value, turn.lookup flow = some (some value) ∧ value.runtimeIncarnation = incarnation
  | .inserts value => turn.insert flow value = true ∧ value.runtimeIncarnation = incarnation
  | _ => False

namespace Engine

/-- A control that a call for `flow` asks to send. -/
structure Spoken (before : Engine) (turn : Turn) (flow : SessionKey) (use : StoreUse) (control : ControlPacket) :
    Prop where
  valid : before.validateFlow flow = true
  supported : control.Supported
  window : control.window ≠ 0
  backed : control.flags = flagAck → AckBacked before.identity.incarnation turn flow use

def Speaks (before : Engine) (turn : Turn) (flow : SessionKey) (use : StoreUse) (actions : List Action) : Prop :=
  ∀ target wgId control reason, .sendControl target wgId control reason ∈ actions →
    target = flow ∧ before.Spoken turn flow use control

section Calls
variable {before engine : Engine} {turn : Turn} {flow : SessionKey} {use : StoreUse}

theorem speaks_silent {actions : List Action} (silent : ∀ action ∈ actions, action.Silent) :
    before.Speaks turn flow use actions := by
  intro target wgId control reason member
  exact (silent _ member).elim

theorem speaks_nil : before.Speaks turn flow use [] := speaks_silent (by simp)

theorem speaks_one {action : Action} (silent : action.Silent) : before.Speaks turn flow use [action] :=
  speaks_silent (by simpa using silent)

theorem Speaks.append {first second : List Action} (one : before.Speaks turn flow use first)
    (two : before.Speaks turn flow use second) : before.Speaks turn flow use (first ++ second) := by
  intro target wgId control reason member
  rcases List.mem_append.mp member with here | there
  · exact one target wgId control reason here
  · exact two target wgId control reason there

theorem speaks_control {control : ControlPacket} (spoken : before.Spoken turn flow use control) (wgId : UInt32)
    (reason : Reason) :
    before.Speaks turn flow use [.sendControl flow wgId control reason] := by
  intro target wgId control reason member
  cases List.mem_singleton.mp member
  exact ⟨rfl, spoken⟩

/-- A SYN or SYN+ACK needs no session. -/
theorem speaks_handshake (valid : before.validateFlow flow = true) (window : before.opts.window ≠ 0)
    (opts : engine.opts = before.opts) {flags : UInt8} (kind : flags = flagSyn ∨ flags = flagSyn ||| flagAck)
    (session : Session) (seq ack : UInt32) (reason : Reason) :
    before.Speaks turn flow use [engine.control flow session flags seq ack reason] := by
  have other : flags ≠ flagAck := by
    rcases kind with rfl | rfl
    · decide
    · decide
  refine speaks_control ⟨valid, ?_, ?_, fun same => absurd same other⟩ _ _
  · rcases kind with same | same
    · exact .inl same
    · exact .inr (.inl same)
  · rw [opts]
    exact window

theorem Reply.speaks (reply : Reply turn engine flow brought use next actions)
    (valid : before.validateFlow flow = true) (window : before.opts.window ≠ 0) (same : SameSessions before engine) :
    before.Speaks turn flow use actions := by
  cases reply with
  | silent said => exact said ▸ speaks_nil
  | dropped said => exact said ▸ speaks_one trivial
  | forwarded said => exact said ▸ speaks_one trivial
  | spoke flags ack said own kind => exact said ▸ speaks_handshake valid window same.opts kind next _ ack _
  | alive ack said own used looked incarnation =>
    subst said used
    refine speaks_control ⟨valid, .inr (.inr rfl), ?_, fun _ => ?_⟩ _ _
    · dsimp only
      split
      · exact same.opts ▸ window
      · assumption
    · exact ⟨_, looked, incarnation.trans (congrArg RuntimeIdentity.incarnation same.identity)⟩

theorem opening_speaks (valid : before.validateFlow flow = true) (window : before.opts.window ≠ 0)
    (opts : engine.opts = before.opts) (session : Session) (created : Bool) :
    before.Speaks turn flow use (engine.opening flow session created) := by
  rw [opening]
  split
  · exact speaks_handshake valid window opts (.inl rfl) _ _ _ _
  · exact speaks_nil

/-- An acknowledgement is asked for after the store has answered. -/
theorem Course.speaks {checkpoint : Checkpoint}
    (course : engine.Course turn flow checkpoint brought arrived use (before.sessions.lookup flow) outcome)
    (owned : Owned before) (same : SameSessions before engine) (window : before.opts.window ≠ 0) :
    before.Speaks turn flow use outcome.actions := by
  cases course with
  | idle result => exact result ▸ speaks_nil
  | refused result => exact result ▸ speaks_one trivial
  | set result held carries answered reply => exact result ▸ reply.speaks (owned flow _ held).1 window same
  | removed result => exact result ▸ speaks_one trivial
  | restored result => exact result ▸ speaks_one trivial
  | passed result => exact result ▸ speaks_one trivial
  | queued result arriving starts =>
    exact result ▸ opening_speaks (starts.queue owned same).1 window (same.trans starts.same).opts _ _
  | full result starts =>
    exact result ▸ (opening_speaks (starts.queue owned same).1 window (same.trans starts.same).opts _ _).append
      (speaks_one trivial)
  | accepted result own missing valid owner room reserved =>
    rw [validateFlow_opts same.opts] at valid
    exact result ▸ speaks_handshake valid window (same.trans (reserve_same engine reserved)).opts (.inr rfl) _ _ _ _
  | @finished seen stored original segment result own arriving held carries entry done asked inserted =>
    have released := (release_spec engine flow (completed seen segment)).1
    have carried := (release_entry engine flow (completed seen segment)).trans (completed_entry entry segment)
    obtain ⟨nowMonotonic, sessionId, used, taken⟩ := insertEstablished_done inserted
    rw [insertUse_entry released carried, ← asked] at used
    refine result ▸ .append ?_ ?_
    · rw [completionAck]
      split
      · refine speaks_control ⟨(owned flow _ held).1, .inr (.inr rfl), same.opts ▸ window, fun _ => ?_⟩ _ _
        rw [used]
        exact ⟨taken, congrArg RuntimeIdentity.incarnation (same.trans released).identity⟩
      · exact speaks_nil
    · rw [release]
      split
      · exact speaks_nil
      · exact speaks_one trivial

end Calls
end Engine

/-- A call speaks as its use of the store allows. -/
theorem EngineCall.run_speaks {engine : Engine} (owned : engine.Owned) (window : engine.opts.window ≠ 0)
    (turn : Turn) (call : EngineCall) :
    engine.Speaks turn call.flow (call.use engine turn) (call.run engine turn).actions :=
  (call.course engine turn).speaks owned (call.admitted_same engine turn) window

/-- The map holds an established entry of the incarnation for the flow. -/
def SessionLedger.Backs (ledger : SessionLedger) (generation : UInt64) (incarnation : Incarnation)
    (flow : SessionKey) : Prop :=
  ∃ value, ledger.sessions flow = some value ∧
    Engine.validateEstablishedSessionValue value generation = true ∧ value.runtimeIncarnation = incarnation

namespace SessionLedger
variable {ledger : SessionLedger} {flow : SessionKey}

/-- A packet moves an entry's numbers, never what makes it an established one. -/
theorem mutate_valid {session moved : SessionValue} {operation : SessionMutation}
    (done : session.mutate current now operation argument authority projection = some (moved, result))
    (valid : Engine.validateEstablishedSessionValue session generation = true) :
    Engine.validateEstablishedSessionValue moved generation = true ∧
      moved.runtimeIncarnation = session.runtimeIncarnation := by
  rw [SessionValue.mutate] at done
  split at done
  · rename_i admitted
    cases done
    refine ⟨?_, rfl⟩
    simp only [Engine.validateEstablishedSessionValue, decide_eq_true_eq] at valid ⊢
    obtain ⟨sameGeneration, state, flags, pad, reserved, _, rest⟩ := valid
    refine ⟨sameGeneration, state, flags, pad, reserved, ?_, rest⟩
    intro wrapped
    refine admitted.2 ?_
    have below := session.revision.toNat_lt
    have zero := congrArg UInt64.toNat wrapped
    rw [UInt64.toNat_add] at zero
    have one : (1 : UInt64).toNat = 1 := rfl
    have none : (0 : UInt64).toNat = 0 := rfl
    have top : (0xffffffffffffffff : UInt64).toNat = 2 ^ 64 - 1 := rfl
    apply UInt64.toNat_inj.mp
    omega
  · cases done

theorem Backs.write (backs : ledger.Backs generation incarnation flow) (packet : PacketWrite) :
    (ledger.write packet).Backs generation incarnation flow := by
  obtain ⟨value, found, valid, same⟩ := backs
  rw [SessionLedger.write]
  split
  · exact ⟨value, found, valid, same⟩
  rename_i session here
  split
  · exact ⟨value, found, valid, same⟩
  rename_i moved result done
  by_cases key : flow = packet.key
  · subst key
    rw [found] at here
    cases here
    obtain ⟨kept, incarnation⟩ := mutate_valid done valid
    exact ⟨moved, Function.update_self .., kept, incarnation.trans same⟩
  · exact ⟨value, (Function.update_of_ne key ..).trans found, valid, same⟩

theorem Backs.writes (backs : ledger.Backs generation incarnation flow) (packets : List PacketWrite) :
    (ledger.writes packets).Backs generation incarnation flow := by
  induction packets generalizing ledger with
  | nil => exact backs
  | cons packet rest ih => exact ih (backs.write packet)

end SessionLedger

namespace StoreWorld
variable {world : StoreWorld} {turn : Turn} {call : EngineCall} {script : StoreScript} {control : ControlPacket}

section
variable (world : StoreWorld) (turn : Turn) (call : EngineCall) (script : StoreScript)

/-- The turn of a call, with everything that its use of the store is told. -/
def answered : Turn :=
  let asked := world.asking turn script
  match call.use world.engine asked with
  | .idle | .looks => asked
  | .deletes _ => asked.deleting fun key expected =>
      ((world.looked call.flow script).deleteEstablishedIfUnchanged world.generation key expected script).2
  | .retries _ => asked.deleting fun key expected =>
      ((world.reached script).deleteEstablishedIfUnchanged world.generation key expected script).2
  | .inserts _ => asked.inserting fun key value =>
      ((world.reached script).insertEstablished world.generation key value script).2

/-- What a call returns. -/
def actions : List Action :=
  (call.run world.engine (world.answered turn call script)).actions

theorem act_engine :
    (world.act turn call script).engine = (call.run world.engine (world.answered turn call script)).engine ∧
      (world.act turn call script).generation = world.generation := by
  simp only [act, answered]
  cases call.use world.engine (world.asking turn script) <;> exact ⟨rfl, rfl⟩

theorem answered_use :
    call.use world.engine (world.answered turn call script) = call.use world.engine (world.asking turn script) := by
  simp only [answered]
  split
  · rfl
  · rfl
  · exact call.use_deleting ..
  · exact call.use_deleting ..
  · exact call.use_inserting ..

end

/-- What the controls of an engine rest on. -/
structure Ready (world : StoreWorld) : Prop where
  owned : world.engine.Owned
  window : world.engine.opts.window ≠ 0
  generation : world.engine.opts.generation ≠ 0

theorem Ready.act (ready : world.Ready) (turn : Turn) (call : EngineCall) (script : StoreScript) :
    (world.act turn call script).Ready ∧ (world.act turn call script).engine.identity = world.engine.identity := by
  obtain ⟨queue, touched⟩ := (Engine.call_effect ready.owned call (world.answered turn call script)).touched
  rw [← (world.act_engine turn call script).1] at touched
  refine ⟨⟨touched.owned ready.owned, ?_, ?_⟩, touched.identity⟩
  · rw [touched.opts]
    exact ready.window
  · rw [touched.opts]
    exact ready.generation

theorem Ready.step (ready : world.Ready) (input : StoreInput) : (world.step input).Ready := by
  cases input with
  | packet write => exact ⟨ready.owned, ready.window, ready.generation⟩
  | call turn call script => exact (ready.act turn call script).1

/-- An entry of another flow outlives the call. -/
theorem act_backs_other {generation : UInt64} (world : StoreWorld) (turn : Turn) (call : EngineCall)
    (script : StoreScript) (backs : world.ledger.Backs generation incarnation flow) (other : call.flow ≠ flow) :
    (world.act turn call script).ledger.Backs generation incarnation flow := by
  obtain ⟨packets, same⟩ := world.act_frame turn call script other.symm
  rw [SessionLedger.Backs, same]
  exact backs.writes packets

/-- The entry that a lookup found. -/
theorem lookup_backs {ledger : SessionLedger} {generation : UInt64}
    (found : ledger.lookupEstablished generation flow script = some (some value)) :
    ledger.Backs generation value.runtimeIncarnation flow := by
  obtain ⟨_, here, valid⟩ := SessionLedger.lookup_found found
  exact ⟨value, here, valid, rfl⟩

/-- The entry that an insert made. -/
theorem insert_backs {ledger : SessionLedger} {generation : UInt64}
    (done : (ledger.insertEstablished generation flow value script).2 = true) :
    (ledger.insertEstablished generation flow value script).1.Backs generation value.runtimeIncarnation flow := by
  rw [SessionLedger.insertEstablished] at done ⊢
  split at done
  · cases done
  · rename_i accepted
    rw [if_neg accepted]
    simp only [not_or, Bool.not_eq_false] at accepted
    exact ⟨value, Function.update_self .., accepted.2.1, rfl⟩

/-- A call asks for controls of its own flow; for an ACK the entry is in the map when it returns. -/
theorem act_speaks (ready : world.Ready)
    (member : .sendControl target wgId control reason ∈ world.actions turn call script) :
    target = call.flow ∧ target.valid = true ∧ control.Supported ∧ control.window ≠ 0 ∧
      (control.flags = flagAck → (world.act turn call script).ledger.Backs world.generation
        world.engine.identity.incarnation target) := by
  obtain ⟨rfl, spoken⟩ := call.run_speaks ready.owned ready.window (world.answered turn call script)
    target wgId control reason member
  have valid := spoken.valid
  refine ⟨rfl, ?_, spoken.supported, spoken.window, ?_⟩
  · simp only [Engine.validateFlow, SessionKey.valid, decide_eq_true_eq, FixedBytes.aggregate_eq_zero] at valid ⊢
    refine ⟨?_, valid.2⟩
    rw [valid.1]
    exact ready.generation
  intro ack
  have backed := spoken.backed ack
  rw [answered_use] at backed
  simp only [answered] at backed
  simp only [act]
  cases used : call.use world.engine (world.asking turn script) with
  | idle | deletes | retries =>
    rw [used] at backed
    exact backed.elim
  | looks =>
    simp only [used] at backed ⊢
    obtain ⟨value, found, incarnation⟩ := backed
    obtain ⟨held, here, validated, same⟩ := lookup_backs found
    rw [← incarnation]
    simp only [finish, looked]
    split <;> exact ⟨held, here, validated, same⟩
  | inserts value =>
    simp only [used] at backed ⊢
    obtain ⟨done, incarnation⟩ := backed
    rw [← incarnation]
    exact insert_backs done

/-- The sweep of `Tick` over the flows in turn, each with what the store does meanwhile. -/
def sweep (turn : Turn) (nowMonotonic : UInt64) (scripts : SessionKey → StoreScript) :
    StoreWorld → List SessionKey → StoreWorld × List Action
  | world, [] => (world, [])
  | world, flow :: rest =>
    let others := sweep turn nowMonotonic scripts (world.act turn (.tick flow nowMonotonic) (scripts flow)) rest
    (others.1, world.actions turn (.tick flow nowMonotonic) (scripts flow) ++ others.2)

/-- `Tick` on the store. -/
def tick (world : StoreWorld) (turn : Turn) (scripts : SessionKey → StoreScript) : StoreWorld × List Action :=
  match turn.monotonic with
  | none => (world, [])
  | some nowMonotonic => sweep turn nowMonotonic scripts world (turn.order world.engine.sessions.keys)

/-- A control on its way out of the engine, and the map at that moment. -/
structure Sent (after : StoreWorld) (flow : SessionKey) (control : ControlPacket) : Prop where
  packet : ∃ packet, marshalIPv4TCPControl flow control = .ok packet ∧ CanonicalControl flow control packet
  session : control.flags = flagAck →
    after.ledger.Backs after.generation after.engine.identity.incarnation flow

theorem act_sent (ready : world.Ready)
    (member : .sendControl target wgId control reason ∈ world.actions turn call script) :
    (world.act turn call script).Sent target control := by
  obtain ⟨_, valid, supported, window, backs⟩ := act_speaks ready member
  refine ⟨marshal_canonical valid supported window, ?_⟩
  rw [(world.act_engine turn call script).2, (ready.act turn call script).2]
  exact backs

/-- The rest of a sweep does not touch the entries of flows it does not visit. -/
theorem sweep_keeps (ready : world.Ready) (turn : Turn) (nowMonotonic : UInt64) (scripts : SessionKey → StoreScript)
    (flows : List SessionKey) (absent : flow ∉ flows)
    (backs : world.ledger.Backs world.generation world.engine.identity.incarnation flow) :
    (sweep turn nowMonotonic scripts world flows).1.ledger.Backs
      (sweep turn nowMonotonic scripts world flows).1.generation
      (sweep turn nowMonotonic scripts world flows).1.engine.identity.incarnation flow := by
  induction flows generalizing world with
  | nil => exact backs
  | cons first rest ih =>
    rw [List.mem_cons, not_or] at absent
    have kept := world.act_backs_other turn (.tick first nowMonotonic) (scripts first) backs
      fun same => absent.1 same.symm
    obtain ⟨still, identity⟩ := ready.act turn (.tick first nowMonotonic) (scripts first)
    refine ih still absent.2 ?_
    rw [(world.act_engine ..).2, identity]
    exact kept

theorem sweep_sent (ready : world.Ready) (turn : Turn) (nowMonotonic : UInt64) (scripts : SessionKey → StoreScript)
    (flows : List SessionKey) (distinct : flows.Nodup)
    (member : .sendControl target wgId control reason ∈ (sweep turn nowMonotonic scripts world flows).2) :
    (sweep turn nowMonotonic scripts world flows).1.Sent target control := by
  induction flows generalizing world with
  | nil => cases member
  | cons first rest ih =>
    rw [List.nodup_cons] at distinct
    have still := (ready.act turn (.tick first nowMonotonic) (scripts first)).1
    rcases List.mem_append.mp member with here | later
    · have sent := act_sent ready here
      obtain ⟨same, _⟩ := act_speaks ready here
      refine ⟨sent.packet, fun ack => ?_⟩
      refine sweep_keeps still turn nowMonotonic scripts rest ?_ (sent.session ack)
      rw [same]
      exact distinct.1
    · exact ih still distinct.2 later

theorem tick_sent (ready : world.Ready) (turn : Turn) (scripts : SessionKey → StoreScript)
    (member : .sendControl target wgId control reason ∈ (world.tick turn scripts).2) :
    (world.tick turn scripts).1.Sent target control := by
  rw [tick] at member ⊢
  split at member
  · cases member
  · rename_i nowMonotonic clock
    refine sweep_sent ready turn nowMonotonic scripts _ ?_ member
    exact (turn.order_perm _).nodup_iff.mpr world.engine.sessions.keys_nodup

end StoreWorld

/-- A new engine has a window, a generation and no session. -/
theorem newEngine_ready (created : newEngine options identity now = .ok engine) (generation : UInt64)
    (ledger : SessionLedger) : (⟨generation, engine, ledger⟩ : StoreWorld).Ready := by
  rw [newEngine] at created
  split at created
  · cases created
  rename_i accepted
  rw [not_or, Bool.not_eq_false, Options.accepted, decide_eq_true_eq] at accepted
  cases created
  refine ⟨?_, ?_, ?_⟩
  · intro flow session found
    cases found
  · dsimp only
    split
    · exact (by decide : (65535 : UInt16) ≠ 0)
    · assumption
  · dsimp only
    split <;> exact accepted.1.1

/-- Every control that an engine asks to send, after any calls and packets, is marshalled to a packet
that all its readers accept and decode to the same fields, and an ACK has its session in the map. -/
theorem userspace_controls_canonical (options : Options) (identity : RuntimeIdentity) (now : Nat) (engine : Engine)
    (created : newEngine options identity now = .ok engine) (generation : UInt64) (ledger : SessionLedger)
    (inputs : List StoreInput) :
    (∀ turn call script target wgId control reason,
      .sendControl target wgId control reason ∈
        (run StoreWorld.step ⟨generation, engine, ledger⟩ inputs).actions turn call script →
      ((run StoreWorld.step ⟨generation, engine, ledger⟩ inputs).act turn call script).Sent target control) ∧
    ∀ turn scripts target wgId control reason,
      .sendControl target wgId control reason ∈
        ((run StoreWorld.step ⟨generation, engine, ledger⟩ inputs).tick turn scripts).2 →
      ((run StoreWorld.step ⟨generation, engine, ledger⟩ inputs).tick turn scripts).1.Sent target control := by
  have ready : (run StoreWorld.step ⟨generation, engine, ledger⟩ inputs).Ready :=
    always (P := StoreWorld.Ready) (fun _ input kept => kept.step input)
      (newEngine_ready created generation ledger) inputs
  refine ⟨?_, ?_⟩
  · intro turn call script target wgId control reason member
    exact StoreWorld.act_sent ready member
  · intro turn scripts target wgId control reason member
    exact StoreWorld.tick_sent ready turn scripts member

section Sample

/-- The flow is opened, and the peer's SYN+ACK completes it. -/
theorem sample_controls_canonical :
    newEngine sampleOptions sampleEngine.identity 0 = .ok sampleEngine ∧
      .sendControl samplePeer 1 ⟨flagAck, 101, 501, 65535⟩ .completeHandshake ∈
        (run StoreWorld.step ⟨7, sampleEngine, ⟨fun _ => none, []⟩⟩ (sampleInputs.take 1)).actions (sampleTurn 1 101)
          (.inbound samplePeer ⟨flagSyn ||| flagAck, 500, 101, 0⟩ 1) {} ∧
      ((run StoreWorld.step ⟨7, sampleEngine, ⟨fun _ => none, []⟩⟩ (sampleInputs.take 1)).act (sampleTurn 1 101)
        (.inbound samplePeer ⟨flagSyn ||| flagAck, 500, 101, 0⟩ 1) {}).Sent samplePeer
          ⟨flagAck, 101, 501, 65535⟩ := by
  have created : newEngine sampleOptions sampleEngine.identity 0 = .ok sampleEngine := rfl
  have spoken : .sendControl samplePeer 1 ⟨flagAck, 101, 501, 65535⟩ .completeHandshake ∈
      (run StoreWorld.step ⟨7, sampleEngine, ⟨fun _ => none, []⟩⟩ (sampleInputs.take 1)).actions (sampleTurn 1 101)
        (.inbound samplePeer ⟨flagSyn ||| flagAck, 500, 101, 0⟩ 1) {} := by
    decide +kernel
  exact ⟨created, spoken, (userspace_controls_canonical sampleOptions sampleEngine.identity 0 sampleEngine created 7
    ⟨fun _ => none, []⟩ (sampleInputs.take 1)).1 _ _ _ _ _ _ _ spoken⟩

/-- No interface has this index, but a session key may carry it. -/
def farFlow : SessionKey := { samplePeer with underlayIndex := 0x80000000 }

/-- The raw socket refuses an interface index that the engine accepts. -/
theorem underlay_index_beyond_int32 :
    (sampleEngine.outbound (sampleTurn 0 100) farFlow samplePacket true).actions =
        [.sendControl farFlow 1 ⟨flagSyn, 100, 0, 65535⟩ .initialHandshake] ∧
      (marshalIPv4TCPControl farFlow ⟨flagSyn, 100, 0, 65535⟩).toOption.map
          (fun packet => (validateRawIPv4Write ⟨packet, farFlow.underlayIndex, 0⟩).isOk) = some false := by
  decide +kernel

end Sample

end WgMix.FakeTcp
