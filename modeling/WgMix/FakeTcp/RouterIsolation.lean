import WgMix.Foundation.Isolation
import WgMix.FakeTcp.Controller
import WgMix.FakeTcp.RouterSpec

/-! The engines behind one router: what one WireGuard identity does and becomes depends on the events
selected for it, on its ticks and on what it is told from outside, not on the other identities. -/
namespace WgMix.FakeTcp
open Bpf

section Locality

/-- The answers of a turn as far as they concern one flow, without a session identifier. -/
def Turn.only (turn : Turn) (flow : SessionKey) : Turn where
  now := turn.now
  releasedAt _ := turn.releasedAt flow
  monotonic := turn.monotonic
  initialSequence := turn.initialSequence
  sessionId := none
  insert _ := turn.insert flow
  lookup _ := turn.lookup flow
  delete _ := turn.delete flow
  order keys := keys
  order_perm _ := .refl _

def Turn.withSession (turn : Turn) (sessionId : Option UInt64) : Turn := { turn with sessionId }

/-- An event is handled with the answers for its own flow alone. -/
theorem engineOutcome_only (turn : Turn) (drawn : Option UInt64) (engine : Engine) (owned : OwnedDecodedEvent) :
    Controller.engineOutcome (turn.withSession drawn) engine owned =
      Controller.engineOutcome ((turn.only owned.event.key).withSession drawn) engine owned := rfl

theorem tickSession_only (engine : Engine) (turn : Turn) (nowMonotonic : UInt64) (flow : SessionKey) :
    engine.tickSession turn nowMonotonic flow = engine.tickSession (turn.only flow) nowMonotonic flow := rfl

/-- Two turns give one WireGuard identity the same clock readings, sequence number, store answers and
order of its sessions. -/
structure Turn.Agree (wgId : UInt32) (first second : Turn) : Prop where
  now : first.now = second.now
  monotonic : first.monotonic = second.monotonic
  initialSequence : first.initialSequence = second.initialSequence
  releasedAt : ∀ flow, flow.wgId = wgId → first.releasedAt flow = second.releasedAt flow
  insert : ∀ flow, flow.wgId = wgId → first.insert flow = second.insert flow
  lookup : ∀ flow, flow.wgId = wgId → first.lookup flow = second.lookup flow
  delete : ∀ flow, flow.wgId = wgId → first.delete flow = second.delete flow
  order : ∀ flows, (∀ flow ∈ flows, flow.wgId = wgId) → first.order flows = second.order flows

theorem Turn.Agree.only (agree : Turn.Agree wgId first second) (named : flow.wgId = wgId) :
    first.only flow = second.only flow := by
  simp only [Turn.only, agree.now, agree.monotonic, agree.initialSequence, agree.releasedAt flow named,
    agree.insert flow named, agree.lookup flow named, agree.delete flow named]

theorem engineOutcome_agree (agree : Turn.Agree wgId first second) (drawn : Option UInt64) (engine : Engine)
    (owned : OwnedDecodedEvent) (named : owned.event.key.wgId = wgId) :
    Controller.engineOutcome (first.withSession drawn) engine owned =
      Controller.engineOutcome (second.withSession drawn) engine owned := by
  rw [engineOutcome_only first, engineOutcome_only second, agree.only named]

theorem sweep_agree (agree : Turn.Agree wgId first second) (nowMonotonic : UInt64) (flows : List SessionKey)
    (named : ∀ flow ∈ flows, flow.wgId = wgId) (engine : Engine) :
    Engine.sweep first nowMonotonic engine flows = Engine.sweep second nowMonotonic engine flows := by
  induction flows generalizing engine with
  | nil => rfl
  | cons flow rest ih =>
    have here : engine.tickSession first nowMonotonic flow = engine.tickSession second nowMonotonic flow := by
      rw [tickSession_only engine first, tickSession_only engine second,
        agree.only (named flow List.mem_cons_self)]
    simp only [Engine.sweep, here]
    rw [ih fun other member => named other (List.mem_cons_of_mem _ member)]

theorem tick_agree (agree : Turn.Agree wgId first second) (engine : Engine)
    (named : ∀ flow, engine.sessions.lookup flow ≠ none → flow.wgId = wgId) :
    engine.tick first = engine.tick second := by
  have keys : ∀ flow ∈ engine.sessions.keys, flow.wgId = wgId := by
    intro flow member
    refine named flow fun none => ?_
    exact (AList.lookup_eq_none.mp none) (AList.mem_keys.mpr member)
  simp only [Engine.tick, ← agree.monotonic, ← agree.order _ keys]
  cases first.monotonic with
  | none => rfl
  | some nowMonotonic =>
    refine sweep_agree agree nowMonotonic _ (fun flow member => ?_) engine
    exact keys flow ((first.order_perm _).mem_iff.mp member)

end Locality

/-- A router with the session identifiers that its engines share. -/
structure RoutedDomain where
  router : EngineRouter
  nextSession : UInt64 := 0

inductive RouterInput where
  | event (turn : Turn) (owned : OwnedDecodedEvent)
  | tick (turns : UInt32 → Turn)

def allocate (next : UInt64) : Option UInt64 := if next = 0xffffffffffffffff then none else some (next + 1)

/-- An event that takes a session identifier fails for want of one. -/
def allocates (turn : Turn) (engine : Engine) (owned : OwnedDecodedEvent) : Bool :=
  match Controller.engineOutcome (turn.withSession none) engine owned with
  | .ok outcome => outcome.error = some .sessionIds
  | .error _ => false

section Drawing
variable {engine : Engine} {turn : Turn} {flow : SessionKey} {drawn : Option UInt64}

/-- The outcome with an identifier is the one without, unless that one failed for want of it. -/
def Spared (given without : Outcome) : Prop := without.error ≠ some .sessionIds → given = without

theorem Spared.same (outcome : Outcome) : Spared outcome outcome := fun _ => rfl

theorem Spared.ite [Decidable condition] (yes : Spared given without) (no : Spared given' without') :
    Spared (if condition then given else given') (if condition then without else without') := by
  split
  · exact yes
  · exact no

theorem insertEstablished_spared (session : Session) (drawn : Option UInt64)
    (spared : (engine.insertEstablished (turn.withSession none) flow session).2 ≠ some .sessionIds) :
    engine.insertEstablished (turn.withSession drawn) flow session =
      engine.insertEstablished (turn.withSession none) flow session := by
  revert spared
  simp only [Engine.insertEstablished, Turn.withSession]
  cases turn.monotonic with
  | none => exact fun _ => rfl
  | some nowMonotonic =>
    by_cases fresh : session.sessionId = 0
    · simp only [if_pos fresh]
      exact fun spared => absurd rfl spared
    · simp only [if_neg fresh]
      exact fun _ => rfl

theorem completeHandshake_spared (session : Session) (segment : Segment) (checkpoint : Engine.Checkpoint) :
    Spared (engine.completeHandshake (turn.withSession drawn) flow session segment checkpoint)
      (engine.completeHandshake (turn.withSession none) flow session segment checkpoint) := by
  intro spared
  simp only [Engine.completeHandshake] at spared ⊢
  rw [insertEstablished_spared _ drawn]
  · rfl
  · intro missing
    generalize Engine.insertEstablished _ _ _ _ = result at spared missing
    obtain ⟨stored, failed⟩ := result
    cases missing
    exact spared rfl

theorem inboundAdmitted_spared (engine : Engine) (segment : Segment) (wgId : UInt32) (synSource : SynSourceKey)
    (found : Option Session) (checkpoint : Engine.Checkpoint) :
    Spared (engine.inboundAdmitted (turn.withSession drawn) flow segment wgId synSource found checkpoint)
      (engine.inboundAdmitted (turn.withSession none) flow segment wgId synSource found checkpoint) := by
  cases found with
  | none => exact .same _
  | some session =>
    refine .ite (.same _) (.ite (.same _) ?_)
    exact .ite (completeHandshake_spared _ segment checkpoint) (.same _)

theorem inbound_spared (segment : Segment) (wgId : UInt32) :
    Spared (engine.inbound (turn.withSession drawn) flow segment wgId)
      (engine.inbound (turn.withSession none) flow segment wgId) := by
  refine .ite (.same _) (.ite (.same _) ?_)
  dsimp only
  split
  · exact .same _
  · refine .ite ?_ (inboundAdmitted_spared engine segment wgId _ _ _)
    simp only [Turn.withSession]
    split
    · exact .same _
    · exact inboundAdmitted_spared _ segment wgId _ _ _

/-- An event that takes no session identifier is handled alike whichever is next. -/
theorem engineOutcome_spared (owned : OwnedDecodedEvent) (spared : allocates turn engine owned = false) :
    Controller.engineOutcome (turn.withSession drawn) engine owned =
      Controller.engineOutcome (turn.withSession none) engine owned := by
  unfold allocates Controller.engineOutcome at *
  by_cases captured : owned.event.type = EventType.needHandshake.code
  · simp only [captured, if_true]
    rfl
  · by_cases closing : owned.event.type = EventType.rst.code ∨ owned.event.type = EventType.fin.code
    · simp only [captured, closing, if_true, if_false]
      rfl
    · simp only [captured, closing, if_false, decide_eq_false_iff_not] at spared ⊢
      rw [inbound_spared _ _ spared]

end Drawing

namespace RoutedDomain

/-- Selection, the selected engine's call and the fence; then one tick of all engines. -/
def step (domain : RoutedDomain) : RouterInput → RoutedDomain × List Action
  | .event turn owned =>
    match (Dispatcher.routed domain.router).selectEngine owned.event with
    | .error _ => (domain, [])
    | .ok wgId =>
      match domain.router.engines.lookup wgId with
      | none => (domain, [])
      | some engine =>
        match Controller.engineOutcome (turn.withSession (allocate domain.nextSession)) engine owned with
        | .error _ => (domain, [])
        | .ok outcome =>
          ({ router := { domain.router with engines := domain.router.engines.insert wgId outcome.engine }
             nextSession := if allocates turn engine owned then (allocate domain.nextSession).getD domain.nextSession
               else domain.nextSession },
            match (Dispatcher.routed domain.router).validateActions wgId outcome.actions with
            | .error _ => []
            | .ok () => outcome.actions)
  | .tick turns =>
    let ticked := Dispatcher.tickEngines domain.router turns domain.router.wgIds domain.router.engines
    ({ domain with router := { domain.router with engines := ticked.1 } },
      if ticked.2.2.isSome then [] else ticked.2.1)

def engine (wgId : UInt32) (domain : RoutedDomain) : Option Engine := domain.router.engines.lookup wgId

/-- What an engine is given to react to; with an event the session identifier that it draws, if it draws one. -/
inductive Message where
  | event (turn : Turn) (drawn : Option UInt64) (owned : OwnedDecodedEvent)
  | tick (turn : Turn)

def drawn (wgId : UInt32) (domain : RoutedDomain) (turn : Turn) (owned : OwnedDecodedEvent) : Option UInt64 :=
  if (domain.engine wgId).any (allocates turn · owned) then allocate domain.nextSession else none

/-- Events that select the identity, and every tick. -/
def selecting (router : EngineRouter) (wgId : UInt32) : RouterInput → Bool
  | .event _ owned => (Dispatcher.routed router).selectEngine owned.event = .ok wgId
  | .tick _ => true

def delivered (wgId : UInt32) (domain : RoutedDomain) : RouterInput → Message
  | .event turn owned => .event turn (domain.drawn wgId turn owned) owned
  | .tick turns => .tick (turns wgId)

def hears (wgId : UInt32) (domain : RoutedDomain) (input : RouterInput) : Option Message :=
  if selecting domain.router wgId input then some (domain.delivered wgId input) else none

/-- An engine on its own. -/
def react (engine : Option Engine) : Message → Option Engine × List Action
  | .event turn drawn owned =>
    match engine with
    | none => (none, [])
    | some engine =>
      match Controller.engineOutcome (turn.withSession drawn) engine owned with
      | .error _ => (some engine, [])
      | .ok outcome => (some outcome.engine, outcome.actions)
  | .tick turn =>
    match engine with
    | none => (none, [])
    | some engine => (some (engine.tick turn).engine, (engine.tick turn).actions)

def own (wgId : UInt32) (action : Action) : Bool := action.flow.wgId = wgId

/-- The same event or tick, with the same answers for the identity and the same session identifier
where one is drawn. -/
def Message.Agree (wgId : UInt32) : Message → Message → Prop
  | .event first drawn owned, .event second drawn' other =>
    owned = other ∧ drawn = drawn' ∧ first.Agree wgId second
  | .tick first, .tick second => first.Agree wgId second
  | _, _ => False

end RoutedDomain

section Calls
variable {router : EngineRouter} {owned : OwnedDecodedEvent} {outcome : Outcome} {before : Engine}

/-- An event is one call about its own flow; only a capture brings a packet. -/
theorem engineOutcome_call (tidy : before.Owned)
    (handled : Controller.engineOutcome turn before owned = .ok outcome) :
    ∃ incoming completing, Engine.Effect before owned.event.key incoming completing outcome ∧
      ∀ packet, incoming = some packet → owned.event.type = EventType.needHandshake.code ∧
        packet.wgId = owned.event.wgId ∧ packet.fwmark = owned.event.fwmark := by
  simp only [Controller.engineOutcome] at handled
  split at handled
  case isTrue captured =>
    split at handled
    · contradiction
    case h_2 packet _ =>
      cases handled
      rcases before.captured_cases turn owned.event packet owned.fingerprint with ⟨cause, refused⟩ | taken
      · exact ⟨none, False, refused ▸ .unchanged tidy (.refl before) (Engine.plain_nil _), nofun⟩
      · rw [taken]
        refine ⟨some _, _, Engine.call_effect tidy (.outbound owned.event.key _ true) turn, fun brought same => ?_⟩
        cases same
        exact ⟨captured, rfl, rfl⟩
  case isFalse =>
    split at handled
    · cases handled
      exact ⟨none, _, Engine.call_effect tidy (.control owned.event owned.packet) turn, nofun⟩
    · cases handled
      exact ⟨none, _, Engine.call_effect tidy (.inbound owned.event.key _ owned.event.wgId) turn, nofun⟩

/-- An event selected for an engine keeps it within its routes, and the fence passes its actions. -/
theorem engineOutcome_within (holds : router.routes.Holds wgId before)
    (selected : (Dispatcher.routed router).selectEngine owned.event = .ok wgId)
    (handled : Controller.engineOutcome turn before owned = .ok outcome) :
    router.routes.Holds wgId outcome.engine ∧
      (Dispatcher.routed router).validateActions wgId outcome.actions = .ok () ∧
      ∀ action ∈ outcome.actions, action.flow.wgId = wgId := by
  obtain ⟨target, selects⟩ := selects_of_selectEngine selected
  obtain ⟨incoming, completing, effect, brought⟩ := engineOutcome_call holds.owned handled
  have matching (packet : PendingPacket) (came : incoming = some packet) :
      packet.wgId = target.wgId ∧ packet.fwmark = target.fwmark := by
    obtain ⟨captured, wgId, mark⟩ := brought packet came
    exact ⟨wgId.trans selects.named, mark.trans (selects.marked captured)⟩
  refine ⟨effect.holds holds selects.found selects.owner matching, ?_, fun action member => ?_⟩
  · exact forM_ok (effect.fence selects.found selects.owner (holds.packets _) matching)
  · have named : owned.event.key.wgId = wgId := (router.routes.coherent _ _ selects.found).symm.trans selects.owner
    rw [effect.speaks action member, named]

theorem tick_within (holds : router.routes.Holds wgId before) (turn : Turn) :
    router.routes.Holds wgId (before.tick turn).engine ∧
      (Dispatcher.routed router).validateActions wgId (before.tick turn).actions = .ok () ∧
      ∀ action ∈ (before.tick turn).actions, action.flow.wgId = wgId := by
  have swept := Engine.tick_swept holds.owned turn
  refine ⟨Engine.Tenants.swept holds swept, forM_ok fun action member => ?_, fun action member => ?_⟩
  · obtain ⟨flow, present, plain⟩ := swept.plain action member
    obtain ⟨target, found, same⟩ := holds.flows flow present
    exact fence_plain found same plain
  · obtain ⟨flow, present, plain⟩ := swept.plain action member
    rw [plain.flow_eq]
    exact (holds.flows flow present).named

end Calls

/-- Every engine is within the routes of its identity, and each is listed once for ticking. -/
structure EngineRouter.Sound (router : EngineRouter) : Prop where
  holds : ∀ wgId engine, router.engines.lookup wgId = some engine → router.routes.Holds wgId engine
  distinct : router.wgIds.Nodup
  listed : ∀ wgId, wgId ∈ router.wgIds ↔ router.engines.lookup wgId ≠ none

section Ticking
variable {router : EngineRouter} (turns : UInt32 → Turn)

/-- Each listed engine is ticked once and on its own. -/
theorem tickEngines_each (wgIds : List UInt32) (engines : Table UInt32 Engine) (distinct : wgIds.Nodup)
    (holds : ∀ wgId engine, engines.lookup wgId = some engine → router.routes.Holds wgId engine) :
    let ticked := Dispatcher.tickEngines router turns wgIds engines
    ticked.2.2 = none ∧ ∀ wgId,
      (if wgId ∈ wgIds then RoutedDomain.react (engines.lookup wgId) (.tick (turns wgId))
        else (engines.lookup wgId, [])) =
        (ticked.1.lookup wgId, ticked.2.1.filter (RoutedDomain.own wgId)) := by
  induction wgIds generalizing engines with
  | nil => exact ⟨rfl, fun _ => rfl⟩
  | cons first rest ih =>
    rw [List.nodup_cons] at distinct
    cases found : engines.lookup first with
    | none =>
      simp only [Dispatcher.tickEngines, found]
      obtain ⟨clean, each⟩ := ih engines distinct.2 holds
      refine ⟨clean, fun wgId => ?_⟩
      rw [← each wgId]
      by_cases here : wgId = first
      · subst here
        rw [if_pos List.mem_cons_self, if_neg distinct.1, found]
        rfl
      · simp only [List.mem_cons, here, false_or]
    | some engine =>
      obtain ⟨within, passes, flows⟩ := tick_within (holds first engine found) (turns first)
      have replaced : ∀ wgId held, (engines.insert first (engine.tick (turns first)).engine).lookup wgId = some held →
          router.routes.Holds wgId held := by
        intro wgId held looked
        by_cases here : wgId = first
        · subst here
          rw [AList.lookup_insert] at looked
          exact Option.some.inj looked ▸ within
        · rw [AList.lookup_insert_ne here] at looked
          exact holds wgId held looked
      obtain ⟨clean, each⟩ := ih _ distinct.2 replaced
      have passes : (engine.tick (turns first)).actions.forM (Dispatcher.validateAction router first) = .ok () :=
        passes
      simp only [Dispatcher.tickEngines, found, passes, List.filter_append]
      refine ⟨clean, fun wgId => ?_⟩
      have later := each wgId
      by_cases here : wgId = first
      · subst here
        have mine : (engine.tick (turns wgId)).actions.filter (RoutedDomain.own wgId) =
            (engine.tick (turns wgId)).actions := by
          rw [List.filter_eq_self]
          exact fun action member => decide_eq_true (flows action member)
        rw [if_neg distinct.1, AList.lookup_insert] at later
        obtain ⟨kept, quiet⟩ := Prod.mk.inj later
        rw [if_pos List.mem_cons_self, found, ← kept, ← quiet, mine, List.append_nil]
        rfl
      · have foreign : (engine.tick (turns first)).actions.filter (RoutedDomain.own wgId) = [] := by
          rw [List.filter_eq_nil_iff]
          intro action member same
          exact here ((of_decide_eq_true same).symm.trans (flows action member))
        rw [AList.lookup_insert_ne here] at later
        rw [foreign, List.nil_append, ← later]
        simp only [List.mem_cons, here, false_or]

theorem EngineRouter.Sound.ticks (sound : router.Sound) (wgId : UInt32) :
    let ticked := Dispatcher.tickEngines router turns router.wgIds router.engines
    RoutedDomain.react (router.engines.lookup wgId) (.tick (turns wgId)) =
      (ticked.1.lookup wgId, ticked.2.1.filter (RoutedDomain.own wgId)) := by
  have each := (tickEngines_each turns router.wgIds router.engines sound.distinct sound.holds).2 wgId
  split at each
  · exact each
  · rename_i outside
    have missing : router.engines.lookup wgId = none := by
      by_contra present
      exact outside ((sound.listed wgId).mpr present)
    rw [missing] at each ⊢
    exact each

end Ticking

theorem EngineRouter.Sound.insert {router : EngineRouter} (sound : router.Sound)
    (present : router.engines.lookup wgId = some before) (within : router.routes.Holds wgId after) :
    EngineRouter.Sound { router with engines := router.engines.insert wgId after } where
  holds other engine found := by
    by_cases here : other = wgId
    · subst here
      rw [AList.lookup_insert] at found
      exact Option.some.inj found ▸ within
    · rw [AList.lookup_insert_ne here] at found
      exact sound.holds other engine found
  distinct := sound.distinct
  listed other := by
    rw [sound.listed other]
    by_cases here : other = wgId
    · subst here
      simp [present]
    · rw [AList.lookup_insert_ne here]

theorem EngineRouter.Sound.tick {router : EngineRouter} (sound : router.Sound) (turns : UInt32 → Turn) :
    EngineRouter.Sound { router with
      engines := (Dispatcher.tickEngines router turns router.wgIds router.engines).1 } := by
  have each (wgId : UInt32) :
      (Dispatcher.tickEngines router turns router.wgIds router.engines).1.lookup wgId =
        (router.engines.lookup wgId).map fun engine => (engine.tick (turns wgId)).engine := by
    refine (congrArg Prod.fst (sound.ticks turns wgId)).symm.trans ?_
    cases router.engines.lookup wgId <;> rfl
  refine ⟨fun wgId engine found => ?_, sound.distinct, fun wgId => ?_⟩
  · rw [each, Option.map_eq_some_iff] at found
    obtain ⟨before, held, rfl⟩ := found
    exact (tick_within (sound.holds wgId before held) (turns wgId)).1
  · rw [sound.listed wgId, each, ne_eq, ne_eq, Option.map_eq_none_iff]

namespace RoutedDomain

/-- A sound router with these routes. -/
structure Sound (routes : RouteTable) (domain : RoutedDomain) : Prop where
  router : domain.router.Sound
  routes : domain.router.routes = routes

/-- What one event does: nothing, or one call of the selected engine. -/
inductive Handled (domain : RoutedDomain) (turn : Turn) (owned : OwnedDecodedEvent) :
    RoutedDomain × List Action → Prop where
  | unselected : (∀ wgId, (Dispatcher.routed domain.router).selectEngine owned.event ≠ .ok wgId) →
      Handled domain turn owned (domain, [])
  | refused (wgId : UInt32) : (Dispatcher.routed domain.router).selectEngine owned.event = .ok wgId →
      react (domain.engine wgId) (.event turn (domain.drawn wgId turn owned) owned) = (domain.engine wgId, []) →
      Handled domain turn owned (domain, [])
  | called (wgId : UInt32) (before : Engine) (outcome : Outcome) (nextSession : UInt64) :
      (Dispatcher.routed domain.router).selectEngine owned.event = .ok wgId →
      domain.router.engines.lookup wgId = some before →
      Controller.engineOutcome (turn.withSession (domain.drawn wgId turn owned)) before owned = .ok outcome →
      Handled domain turn owned
        (⟨{ domain.router with engines := domain.router.engines.insert wgId outcome.engine }, nextSession⟩,
          outcome.actions)

/-- The selected engine does not notice an identifier that it would not draw. -/
theorem engineOutcome_drawn {domain : RoutedDomain} (found : domain.router.engines.lookup wgId = some before)
    (turn : Turn) (owned : OwnedDecodedEvent) :
    Controller.engineOutcome (turn.withSession (allocate domain.nextSession)) before owned =
      Controller.engineOutcome (turn.withSession (domain.drawn wgId turn owned)) before owned := by
  simp only [drawn, engine, found, Option.any_some]
  cases draws : allocates turn before owned with
  | true => rfl
  | false => exact engineOutcome_spared owned draws

theorem step_event (sound : domain.router.Sound) (turn : Turn) (owned : OwnedDecodedEvent) :
    Handled domain turn owned (domain.step (.event turn owned)) := by
  simp only [step]
  split
  case h_1 cause rejected => exact .unselected fun wgId => by simp [rejected]
  case h_2 wgId selected =>
    split
    case h_1 missing => exact .refused wgId selected (by simp only [engine, react, missing])
    case h_2 before found =>
      rw [engineOutcome_drawn found]
      split
      case h_1 cause failed =>
        refine .refused wgId selected ?_
        simp only [engine, react, found, failed]
      case h_2 outcome handled =>
        have passes := (engineOutcome_within (sound.holds wgId before found) selected handled).2.1
        simp only [passes]
        exact .called wgId before outcome _ selected found handled

theorem Sound.step {table : RouteTable} (sound : Sound table domain) (input : RouterInput) :
    Sound table (domain.step input).1 := by
  cases input with
  | tick turns => exact ⟨sound.router.tick turns, sound.routes⟩
  | event turn owned =>
    have handled := step_event sound.router turn owned
    generalize domain.step (.event turn owned) = result at handled ⊢
    cases handled with
    | unselected => exact sound
    | refused => exact sound
    | called wgId before outcome nextSession selected found handled =>
      have within := engineOutcome_within (sound.router.holds wgId before found) selected handled
      exact ⟨sound.router.insert found within.1, sound.routes⟩

/-- Each identity is a component of the domain. -/
theorem component (routes : RouteTable) (wgId : UInt32) :
    Isolation.Component step (Sound routes) (engine wgId) (own wgId) (hears wgId) react where
  keeps _ input sound := sound.step input
  silent domain input sound unheard := by
    cases input with
    | tick turns => contradiction
    | event turn owned =>
      have elsewhere : (Dispatcher.routed domain.router).selectEngine owned.event ≠ .ok wgId := by
        intro selected
        simp [hears, selecting, selected] at unheard
      have handled := step_event sound.router turn owned
      generalize domain.step (.event turn owned) = result at handled ⊢
      cases handled with
      | unselected => exact ⟨rfl, rfl⟩
      | refused => exact ⟨rfl, rfl⟩
      | called other before outcome nextSession selected found handled =>
        have apart : wgId ≠ other := by
          rintro rfl
          exact elsewhere selected
        obtain ⟨_, _, flows⟩ := engineOutcome_within (sound.router.holds other before found) selected handled
        refine ⟨AList.lookup_insert_ne apart, ?_⟩
        rw [List.filter_eq_nil_iff]
        intro action member same
        exact apart ((of_decide_eq_true same).symm.trans (flows action member))
  reacts domain input message sound heard := by
    cases input with
    | tick turns =>
      cases heard
      have clean := (tickEngines_each turns domain.router.wgIds domain.router.engines sound.router.distinct
        sound.router.holds).1
      simp only [step, clean, Option.isSome_none, Bool.false_eq_true, if_false]
      exact sound.router.ticks turns wgId
    | event turn owned =>
      simp only [hears, selecting, decide_eq_true_eq] at heard
      split at heard
      case isFalse => contradiction
      case isTrue selected =>
        cases heard
        have handled := step_event sound.router turn owned
        generalize domain.step (.event turn owned) = result at handled ⊢
        cases handled with
        | unselected none => exact absurd selected (none wgId)
        | refused other chosen refused =>
          rw [selected] at chosen
          cases chosen
          exact refused
        | called other before outcome nextSession chosen found handled =>
          rw [selected] at chosen
          cases chosen
          obtain ⟨_, _, flows⟩ := engineOutcome_within (sound.router.holds wgId before found) selected handled
          have mine : outcome.actions.filter (own wgId) = outcome.actions := by
            rw [List.filter_eq_self]
            exact fun action member => decide_eq_true (flows action member)
          simp only [react, delivered, engine, found, handled, mine, AList.lookup_insert]

/-- A message as the identity hears it: an event that selects it. -/
def Message.Proper (router : EngineRouter) (wgId : UInt32) : Message → Prop
  | .event _ _ owned => (Dispatcher.routed router).selectEngine owned.event = .ok wgId
  | .tick _ => True

theorem hears_proper {router : EngineRouter} (same : domain.router.routes = router.routes)
    (heard : hears wgId domain input = some message) : message.Proper router wgId := by
  cases input with
  | tick turns =>
    cases heard
    trivial
  | event turn owned =>
    simp only [hears, selecting, decide_eq_true_eq] at heard
    split at heard
    case isFalse => contradiction
    case isTrue selected =>
      cases heard
      simp only [Dispatcher.selectEngine, same] at selected
      exact selected

/-- Messages that agree for the identity have the same effect on its engine, which stays within its
routes. -/
theorem react_agree {router : EngineRouter} (fit : ∀ engine, seen = some engine → router.routes.Holds wgId engine)
    (proper : message.Proper router wgId) (agree : Message.Agree wgId message other) :
    react seen message = react seen other ∧
      ∀ engine, (react seen message).1 = some engine → router.routes.Holds wgId engine := by
  cases seen with
  | none => cases message <;> cases other <;> exact ⟨rfl, nofun⟩
  | some engine =>
    have holds := fit engine rfl
    cases message with
    | event turn drawn owned =>
      cases other with
      | tick => contradiction
      | event second _ _ =>
        obtain ⟨rfl, rfl, agree⟩ := agree
        obtain ⟨target, selects⟩ := selects_of_selectEngine proper
        have named : owned.event.key.wgId = wgId :=
          (router.routes.coherent _ _ selects.found).symm.trans selects.owner
        refine ⟨by simp only [react, engineOutcome_agree agree drawn engine owned named], fun after reached => ?_⟩
        cases handled : Controller.engineOutcome (turn.withSession drawn) engine owned with
        | error cause =>
          simp only [react, handled, Option.some.injEq] at reached
          exact reached ▸ holds
        | ok outcome =>
          simp only [react, handled, Option.some.injEq] at reached
          exact reached ▸ (engineOutcome_within holds proper handled).1
    | tick turn =>
      cases other with
      | event => contradiction
      | tick second =>
        refine ⟨?_, fun after reached => ?_⟩
        · simp only [react, tick_agree agree engine fun flow present => (holds.flows flow present).named]
        · simp only [react, Option.some.injEq] at reached
          exact reached ▸ (tick_within holds turn).1

end RoutedDomain

section Construction

theorem holds_fresh (routes : RouteTable) (wgId : UInt32) (fresh : engine.sessions = ∅) :
    routes.Holds wgId engine := by
  have empty (flow : SessionKey) : engine.sessions.lookup flow = none := by
    rw [fresh]
    exact AList.lookup_empty flow
  refine ⟨fun flow session found => ?_, fun flow present => absurd (empty flow) present, fun flow packet member => ?_⟩
  · rw [empty] at found
    contradiction
  · rw [Engine.pendingOf_none (empty flow)] at member
    contradiction

theorem bindEngines_sessions {P : Engine → Prop} (bindings : List (UInt32 × Engine))
    (start engines : Table UInt32 Engine) (bound : bindEngines identity bindings start = .ok engines)
    (each : ∀ binding ∈ bindings, P binding.2)
    (initial : ∀ wgId engine, start.lookup wgId = some engine → P engine) :
    ∀ wgId engine, engines.lookup wgId = some engine → P engine := by
  induction bindings generalizing start with
  | nil =>
    cases bound
    exact initial
  | cons binding rest ih =>
    simp only [bindEngines] at bound
    split_ifs at bound
    refine ih _ bound (fun other member => each other (List.mem_cons_of_mem _ member)) ?_
    intro wgId engine found
    by_cases here : wgId = binding.1
    · subst here
      rw [AList.lookup_insert] at found
      exact Option.some.inj found ▸ each binding List.mem_cons_self
    · rw [AList.lookup_insert_ne here] at found
      exact initial wgId engine found

theorem newEngineRouter_sound (built : newEngineRouter identity bindings routes = .ok router)
    (fresh : ∀ binding ∈ bindings, binding.2.sessions = ∅) : router.Sound := by
  simp only [newEngineRouter] at built
  split at built
  · contradiction
  split at built
  · contradiction
  case h_2 engines bound =>
    split at built
    · contradiction
    split at built
    · contradiction
    cases built
    have empty := bindEngines_sessions (P := fun engine => engine.sessions = ∅) bindings ∅ engines bound fresh nofun
    have sorted := List.mergeSort_perm engines.keys (fun left right => decide (left ≤ right))
    refine ⟨fun wgId engine found => holds_fresh _ wgId (empty wgId engine found), ?_, fun wgId => ?_⟩
    · exact sorted.nodup_iff.mpr engines.keys_nodup
    · rw [sorted.mem_iff, ← AList.mem_keys, ← AList.lookup_isSome, Option.isSome_iff_ne_none]

theorem planEngines_fresh (planned : planEngines identity plans = .ok (bindings, routes)) :
    ∀ binding ∈ bindings, binding.2.sessions = ∅ := by
  induction plans generalizing bindings routes with
  | nil =>
    cases planned
    exact nofun
  | cons plan rest ih =>
    simp only [planEngines] at planned
    split at planned
    · contradiction
    split at planned
    · contradiction
    case h_2 engine made =>
      split at planned
      · contradiction
      split at planned
      · contradiction
      case h_2 others otherRoutes further =>
        cases planned
        intro binding member
        rcases List.mem_cons.mp member with rfl | member
        · simp only [newEngine] at made
          split at made
          · contradiction
          · cases made
            rfl
        · exact ih further binding member

/-- A router of either constructor, over engines that have not been used. -/
inductive EngineRouter.Built (router : EngineRouter) : Prop where
  | plans (identity : RuntimeIdentity) (plans : List WgEnginePlan) :
      newEngineRouterFromPlans identity plans = .ok router → Built router
  | bindings (identity : RuntimeIdentity) (bindings : List (UInt32 × Engine)) (routes : List EngineRoute) :
      newEngineRouter identity bindings routes = .ok router → (∀ binding ∈ bindings, binding.2.sessions = ∅) →
      Built router

theorem EngineRouter.Built.sound (built : EngineRouter.Built router) : router.Sound := by
  cases built with
  | bindings identity bindings routes made fresh => exact newEngineRouter_sound made fresh
  | plans identity plans made =>
    simp only [newEngineRouterFromPlans] at made
    split at made
    · contradiction
    split at made
    · contradiction
    case h_2 bindings routes planned =>
      cases routed : newEngineRouter identity bindings routes with
      | error cause =>
        rw [routed] at made
        contradiction
      | ok other =>
        rw [routed] at made
        cases made
        exact newEngineRouter_sound routed (planEngines_fresh planned)

end Construction

open RoutedDomain in
/-- One identity behind a router, over any two histories. -/
theorem router_isolation {router : EngineRouter} (built : router.Built) (nextSession : UInt64) (wgId : UInt32) :
    (∀ first second : List RouterInput,
      List.Forall₂ (Message.Agree wgId) (Isolation.heard step (hears wgId) ⟨router, nextSession⟩ first)
        (Isolation.heard step (hears wgId) ⟨router, nextSession⟩ second) →
      (Isolation.run step ⟨router, nextSession⟩ first).2.filter (own wgId) =
        (Isolation.run step ⟨router, nextSession⟩ second).2.filter (own wgId) ∧
      engine wgId (Isolation.run step ⟨router, nextSession⟩ first).1 =
        engine wgId (Isolation.run step ⟨router, nextSession⟩ second).1) ∧
    ∀ (history : List RouterInput) (current : Engine),
      engine wgId (Isolation.run step ⟨router, nextSession⟩ history).1 = some current →
      (∀ flow, current.sessions.lookup flow ≠ none → flow.wgId = wgId ∧ router.routes.Sends wgId flow) ∧
      (∀ turn owned outcome, (Dispatcher.routed router).selectEngine owned.event = .ok wgId →
        Controller.engineOutcome turn current owned = .ok outcome →
        (Dispatcher.routed router).validateActions wgId outcome.actions = .ok ()) ∧
      ∀ turn, (Dispatcher.routed router).validateActions wgId (current.tick turn).actions = .ok () := by
  have start : Sound router.routes ⟨router, nextSession⟩ := ⟨built.sound, rfl⟩
  have component := component router.routes wgId
  refine ⟨fun first second agree => ?_, fun history current found => ?_⟩
  · exact component.isolated (fun _ _ _ sound heard => hears_proper sound.routes heard)
      (fun _ _ _ fit proper alike => react_agree fit proper alike) start (built.sound.holds wgId) agree
  · have sound := Isolation.run_invariant component.keeps start history
    have holds : router.routes.Holds wgId current := sound.routes ▸ sound.router.holds wgId current found
    refine ⟨fun flow present => ?_, fun turn owned outcome selected handled => ?_, fun turn => ?_⟩
    · have sends := holds.flows flow present
      exact ⟨sends.named, sends⟩
    · exact (engineOutcome_within holds selected handled).2.1
    · exact (tick_within holds turn).2.1

section Sample
open RoutedDomain

def samplePlan (wgId : UInt32) (port : UInt16) : WgEnginePlan :=
  ⟨wgId, sampleOptions, [⟨7, 2, port, wgId, 0x10, .rewrite⟩], 0⟩

def samplePlans : List WgEnginePlan := [samplePlan 1 51820, samplePlan 2 51821]

theorem samplePlans_accepted :
    (newEngineRouterFromPlans sampleEngine.identity samplePlans).toOption.isSome = true := by
  decide +kernel

def sampleRouter : EngineRouter :=
  (newEngineRouterFromPlans sampleEngine.identity samplePlans).toOption.get samplePlans_accepted

theorem ok_get {made : Except PlanError EngineRouter} (accepted : made.toOption.isSome = true) :
    made = .ok (made.toOption.get accepted) := by
  cases made with
  | error cause => simp [Except.toOption] at accepted
  | ok router => rfl

theorem sampleRouter_built : sampleRouter.Built :=
  .plans sampleEngine.identity samplePlans (ok_get samplePlans_accepted)

def samplePeerOf (wgId : UInt32) (port : UInt16) : SessionKey :=
  ⟨7, 0x010200c0, 0x096433c6, 2, port, 40000, wgId, FixedBytes.zero 4⟩

def sampleSegment (flow : SessionKey) (type flags : UInt8) (acknowledgement : UInt32) : OwnedDecodedEvent where
  event := {
    key := flow
    timestampNanos := 0
    runtimeIncarnation := sampleEngine.identity.incarnation
    sequence := 1000
    acknowledgement
    wgId := flow.wgId
    eventAbiVersion := Bpf.eventAbiVersion
    type
    tcpFlags := flags }
  packet := []

def sampleSyn (flow : SessionKey) : RouterInput :=
  .event (sampleTurn 5 500) (sampleSegment flow EventType.syn.code flagSyn 0)

/-- A peer opens a session and completes the handshake. -/
def passiveOpen (wgId : UInt32) (port : UInt16) : List RouterInput :=
  [sampleSyn (samplePeerOf wgId port),
    .event (sampleTurn 6 500) (sampleSegment (samplePeerOf wgId port) EventType.ack.code flagAck 501)]

/-- Two peers of the second identity, and a tick. -/
def twoPeers (turn : Turn) : List RouterInput :=
  [sampleSyn (samplePeerOf 2 51821), sampleSyn { samplePeerOf 2 51821 with remotePort := 40001 }, .tick fun _ => turn]

def Message.drawn : Message → Option UInt64
  | .event _ drawn _ => drawn
  | .tick _ => none

/-- Along the same inputs the identity draws the same from two domains. -/
def alike (wgId : UInt32) : RoutedDomain → RoutedDomain → List RouterInput → Bool
  | _, _, [] => true
  | first, second, input :: rest =>
    (hears wgId first input).map Message.drawn = (hears wgId second input).map Message.drawn ∧
      alike wgId (first.step input).1 (second.step input).1 rest

theorem Turn.Agree.refl (turn : Turn) : turn.Agree wgId turn :=
  ⟨rfl, rfl, rfl, fun _ _ => rfl, fun _ _ => rfl, fun _ _ => rfl, fun _ _ => rfl, fun _ _ => rfl⟩

theorem heard_alike {first second : RoutedDomain} (inputs : List RouterInput)
    (same : alike wgId first second inputs = true) :
    List.Forall₂ (Message.Agree wgId) (Isolation.heard step (hears wgId) first inputs)
      (Isolation.heard step (hears wgId) second inputs) := by
  induction inputs generalizing first second with
  | nil => exact .nil
  | cons input rest ih =>
    simp only [alike, decide_eq_true_eq] at same
    refine List.rel_append ?_ (ih same.2)
    obtain ⟨here, _⟩ := same
    simp only [hears] at here ⊢
    split_ifs at here ⊢
    · refine .cons ?_ .nil
      cases input with
      | event turn owned => exact ⟨rfl, Option.some.inj here, .refl turn⟩
      | tick turns => exact .refl (turns wgId)
    · contradiction
    · contradiction
    · exact .nil

theorem router_isolation_sample :
    sampleRouter.Built ∧
    (Isolation.run step ⟨sampleRouter, 0⟩ (passiveOpen 2 51821)).1.nextSession = 1 ∧
    (Isolation.run step ⟨sampleRouter, 0⟩ (passiveOpen 2 51821 ++ passiveOpen 1 51820)).1.nextSession = 2 ∧
    engine 2 (Isolation.run step ⟨sampleRouter, 0⟩
      (passiveOpen 2 51821 ++ (passiveOpen 1 51820 ++ twoPeers (sampleTurn 50 500)))).1 =
      engine 2 (Isolation.run step ⟨sampleRouter, 0⟩ (passiveOpen 2 51821 ++ twoPeers (sampleTurn 50 500))).1 := by
  refine ⟨sampleRouter_built, by decide +kernel, by decide +kernel,
    ((router_isolation sampleRouter_built 0 2).1 _ _ ?_).2⟩
  have quiet : Isolation.heard step (hears 2) (Isolation.run step ⟨sampleRouter, 0⟩ (passiveOpen 2 51821)).1
      (passiveOpen 1 51820) = [] := List.eq_nil_of_length_eq_zero (by decide +kernel)
  rw [Isolation.heard_append, Isolation.heard_append, Isolation.heard_append, quiet, List.nil_append]
  exact List.rel_append (heard_alike _ (by decide +kernel)) (heard_alike _ (by decide +kernel))

def sessionIdOf (domain : RoutedDomain) (flow : SessionKey) : Option UInt64 :=
  ((domain.engine flow.wgId).bind fun engine => engine.sessions.lookup flow).map (·.sessionId)

/-- An engine that served another identity before it was bound to the first. -/
def usedEngine : Engine :=
  (sampleEngine.inbound (sampleTurn 5 500) (samplePeerOf 9 51820) ⟨flagSyn, 1000, 0, 0⟩ 9).engine

/-- The identifiers of sessions are drawn by all identities, a tick takes the sessions in any order, and
nothing keeps a used engine from being bound to an identity that its sessions are not of. -/
theorem shared_identifiers_and_used_engines :
    (passiveOpen 1 51820 ++ passiveOpen 2 51821).filter (selecting sampleRouter 2) = passiveOpen 2 51821 ∧
    sessionIdOf (Isolation.run step ⟨sampleRouter, 0⟩ (passiveOpen 1 51820 ++ passiveOpen 2 51821)).1
      (samplePeerOf 2 51821) = some 2 ∧
    sessionIdOf (Isolation.run step ⟨sampleRouter, 0⟩ (passiveOpen 2 51821)).1 (samplePeerOf 2 51821) = some 1 ∧
    (Isolation.run step ⟨sampleRouter, 0⟩ (twoPeers (sampleTurn 50 500))).2.filter (own 2) ≠
      (Isolation.run step ⟨sampleRouter, 0⟩ (twoPeers
        { sampleTurn 50 500 with order := List.reverse, order_perm := List.reverse_perm })).2.filter (own 2) ∧
    (newEngineRouter sampleEngine.identity [(1, usedEngine)] (samplePlan 1 51820).routes).toOption.any
      (fun router =>
        ((Dispatcher.routed router).validateActions 1 (usedEngine.tick (sampleTurn 50 500)).actions).isOk) = false ∧
    (newEngineRouter sampleEngine.identity [(1, usedEngine)] (samplePlan 1 51820).routes).toOption.isSome = true := by
  refine ⟨?_, by decide +kernel, by decide +kernel, ?_, by decide +kernel, by decide +kernel⟩
  · simp only [passiveOpen, List.filter_append]
    rw [List.filter_eq_nil_iff.mpr (by decide +kernel), List.filter_eq_self.mpr (by decide +kernel), List.nil_append]
  · -- The engine on its own: the order in which the engines are ticked does not compute.
    have sound : Sound sampleRouter.routes ⟨sampleRouter, 0⟩ := ⟨sampleRouter_built.sound, rfl⟩
    have alone (turn : Turn) := congrArg Prod.snd ((component sampleRouter.routes 2).run sound (twoPeers turn))
    intro same
    have ports := congrArg (List.map fun action => action.flow.remotePort)
      ((alone _).trans (same.trans (alone _).symm))
    revert ports
    decide +kernel

end Sample
end WgMix.FakeTcp
