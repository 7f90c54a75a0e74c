import WgMix.FakeTcp.Router

/-! The route fence and what it guards: engines keep to the routes of their WireGuard identity, and the
fence lets everything through that such an engine decides. -/
namespace WgMix.FakeTcp
open Bpf

def Action.flow : Action → SessionKey
  | .drop flow _ | .forward flow | .sendControl flow .. | .releasePending flow .. | .close flow _ => flow

theorem Action.Plain.flow_eq {flow : SessionKey} {action : Action} (plain : action.Plain flow) :
    action.flow = flow := by
  cases action with
  | drop | forward | close => exact plain
  | sendControl => exact plain.1
  | releasePending => contradiction

namespace RouteTable

/-- The flow has a route of this WireGuard identity. -/
def Sends (routes : RouteTable) (wgId : UInt32) (flow : SessionKey) : Prop :=
  ∃ target, routes.table.lookup (routeKey flow) = some target ∧ target.wgId = wgId

/-- A captured packet belongs to the route of its flow. -/
def Carries (routes : RouteTable) (flow : SessionKey) (packet : PendingPacket) : Prop :=
  ∃ target, routes.table.lookup (routeKey flow) = some target ∧ packet.wgId = target.wgId ∧
    packet.fwmark = target.fwmark

theorem Sends.named {routes : RouteTable} (sends : routes.Sends owner flow) : flow.wgId = owner := by
  obtain ⟨target, found, same⟩ := sends
  exact (routes.coherent _ _ found).symm.trans same

/-- An engine within the routes of its WireGuard identity. -/
def Holds (routes : RouteTable) (wgId : UInt32) (engine : Engine) : Prop :=
  engine.Tenants (routes.Sends wgId) routes.Carries

end RouteTable

section Fence
variable {router : EngineRouter} {owner : UInt32} {flow : SessionKey} {target : RouteTarget}

theorem fence_plain (found : router.routes.table.lookup (routeKey flow) = some target)
    (same : target.wgId = owner) (plain : action.Plain flow) :
    Dispatcher.validateAction router owner action = .ok () := by
  have named : target.wgId = flow.wgId := router.routes.coherent _ _ found
  cases action with
  | drop _ _ | forward _ | close _ _ =>
    cases plain
    simp only [Dispatcher.validateAction, found, same, ne_eq, not_true, if_false]
  | sendControl other wgId control reason =>
    obtain ⟨rfl, rfl, _⟩ := plain
    simp only [Dispatcher.validateAction, found, same, ← named, ne_eq, not_true, if_false]
  | releasePending => contradiction

theorem fence_release (found : router.routes.table.lookup (routeKey flow) = some target)
    (same : target.wgId = owner) (full : packets ≠ [])
    (matching : ∀ packet ∈ packets, packet.wgId = target.wgId ∧ packet.fwmark = target.fwmark) :
    Dispatcher.validateAction router owner (.releasePending flow flow.wgId packets) = .ok () := by
  subst same
  have named : target.wgId = flow.wgId := router.routes.coherent _ _ found
  have clean : packets.any (fun packet =>
      decide (packet.wgId ≠ target.wgId ∨ packet.fwmark ≠ target.fwmark)) = false := by
    rw [List.any_eq_false]
    intro packet member
    obtain ⟨wgId, mark⟩ := matching packet member
    simp only [wgId, mark, ne_eq, not_true, or_self, decide_false, Bool.false_eq_true, not_false_eq_true]
  simp only [Dispatcher.validateAction, found, clean, ← named, full, ne_eq, not_true, or_self, if_false,
    Bool.false_eq_true]

/-- What an event says about the engine that the router selects for it. -/
structure Selects (router : EngineRouter) (event : Event) (wgId : UInt32) (target : RouteTarget) : Prop where
  found : router.routes.table.lookup (routeKey event.key) = some target
  owner : target.wgId = wgId
  named : event.wgId = target.wgId
  marked : event.type = EventType.needHandshake.code → event.fwmark = target.fwmark

theorem selects_of_selectEngine {event : Event}
    (selected : (Dispatcher.routed router).selectEngine event = .ok wgId) :
    ∃ target, Selects router event wgId target := by
  simp only [Dispatcher.selectEngine] at selected
  split at selected
  · contradiction
  case h_2 target found =>
    split_ifs at selected with named marked _
    cases selected
    refine ⟨target, found, rfl, of_not_not named, fun captured => ?_⟩
    by_contra different
    exact marked ⟨captured, different⟩

/-- The fence passes whatever one call of an engine within its routes decides. -/
theorem Engine.Effect.fence {incoming : Option PendingPacket}
    (effect : Engine.Effect before flow incoming completing outcome)
    (found : router.routes.table.lookup (routeKey flow) = some target) (same : target.wgId = owner)
    (queued : ∀ packet ∈ before.pendingOf flow, router.routes.Carries flow packet)
    (brought : ∀ packet, incoming = some packet → packet.wgId = target.wgId ∧ packet.fwmark = target.fwmark) :
    ∀ action ∈ outcome.actions, Dispatcher.validateAction router owner action = .ok () := by
  have matching : ∀ packet ∈ before.pendingOf flow,
      packet.wgId = target.wgId ∧ packet.fwmark = target.fwmark := by
    intro packet member
    obtain ⟨other, held, matches_⟩ := queued packet member
    rw [found] at held
    cases held
    exact matches_
  intro action member
  cases effect with
  | kept _ plain => exact fence_plain found same (plain action member)
  | dropped _ plain => exact fence_plain found same (plain action member)
  | queued _ _ _ _ plain => exact fence_plain found same (plain action member)
  | direct packet came _ actions _ =>
    rw [actions, List.mem_singleton] at member
    subst member
    refine fence_release found same (List.cons_ne_nil _ _) fun each only => ?_
    rw [List.mem_singleton.mp only]
    exact brought packet came
  | released acks _ full _ actions plain _ =>
    rw [actions, List.mem_append, List.mem_singleton] at member
    rcases member with early | rfl
    · exact fence_plain found same (plain action early)
    · exact fence_release found same full matching

/-- One call speaks of its own flow only. -/
theorem Engine.Effect.speaks (effect : Engine.Effect before flow incoming completing outcome) :
    ∀ action ∈ outcome.actions, action.flow = flow := by
  intro action member
  cases effect with
  | kept _ plain => exact (plain action member).flow_eq
  | dropped _ plain => exact (plain action member).flow_eq
  | queued _ _ _ _ plain => exact (plain action member).flow_eq
  | direct packet _ _ actions _ =>
    rw [actions, List.mem_singleton] at member
    subst member
    rfl
  | released acks _ _ _ actions plain _ =>
    rw [actions, List.mem_append, List.mem_singleton] at member
    rcases member with early | rfl
    · exact (plain action early).flow_eq
    · rfl

/-- Whatever one call does, the engine stays within its routes. -/
theorem Engine.Effect.holds {incoming : Option PendingPacket} {routes : RouteTable}
    (effect : Engine.Effect before flow incoming completing outcome) (holds : routes.Holds owner before)
    (found : routes.table.lookup (routeKey flow) = some target) (same : target.wgId = owner)
    (brought : ∀ packet, incoming = some packet → packet.wgId = target.wgId ∧ packet.fwmark = target.fwmark) :
    routes.Holds owner outcome.engine := by
  have sends : routes.Sends owner flow := ⟨target, found, same⟩
  cases effect with
  | kept touched _ => exact Engine.Tenants.touched holds sends touched (holds.packets flow)
  | dropped touched _ => exact Engine.Tenants.touched holds sends touched nofun
  | queued packet came _ touched _ =>
    refine Engine.Tenants.touched holds sends touched fun each member => ?_
    rcases List.mem_append.mp member with before | now
    · exact holds.packets flow each before
    · rw [List.mem_singleton.mp now]
      exact ⟨target, found, brought packet came⟩
  | direct _ _ touched _ _ => exact Engine.Tenants.touched holds sends touched (holds.packets flow)
  | released _ _ _ touched _ _ _ => exact Engine.Tenants.touched holds sends touched nofun

end Fence
end WgMix.FakeTcp
