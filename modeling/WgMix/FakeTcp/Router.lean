import WgMix.FakeTcp.EngineSpec

/-! Dispatch of events to per-WireGuard engines over an immutable exact route
table, and the single-engine variant of it. -/
namespace WgMix.FakeTcp
open Bpf

structure RouteKey where
  generation : UInt64
  underlayIndex : UInt32
  localPort : UInt16
  wgId : UInt32
  deriving DecidableEq

structure RouteTarget where
  wgId : UInt32
  fwmark : UInt32
  deriving DecidableEq

structure EngineRoute where
  generation : UInt64
  underlayIndex : UInt32
  localPort : UInt16
  wgId : UInt32
  fwmark : UInt32
  action : Bpf.Action

inductive RouteError where
  | invalid
  | conflict
  | unavailable
  | unknownFlow
  | wgId
  | mark
  | controlMark
  | owner
  | pendingWgId
  | packet
  deriving DecidableEq, Repr

def routeKey (flow : SessionKey) : RouteKey :=
  ⟨flow.generation, flow.underlayIndex, flow.localPort, flow.wgId⟩

/-- A frozen table sends every key to the WireGuard identity in it. -/
structure RouteTable where
  table : Table RouteKey RouteTarget
  coherent : ∀ key target, table.lookup key = some target → target.wgId = key.wgId

namespace RouteTable

def empty : RouteTable := ⟨∅, fun _ _ found => by simp at found⟩

def insert (routes : RouteTable) (route : EngineRoute) : RouteTable where
  table := routes.table.insert ⟨route.generation, route.underlayIndex, route.localPort, route.wgId⟩
    ⟨route.wgId, route.fwmark⟩
  coherent key target found := by
    by_cases here : key = ⟨route.generation, route.underlayIndex, route.localPort, route.wgId⟩
    · subst here
      rw [AList.lookup_insert] at found
      cases found
      rfl
    · rw [AList.lookup_insert_ne here] at found
      exact routes.coherent key target found

end RouteTable

structure EngineRouter where
  identity : RuntimeIdentity
  engines : Table UInt32 Engine
  routes : RouteTable
  wgIds : List UInt32

/-- Engine instances are values here, so no two bindings can share one. -/
def bindEngines (identity : RuntimeIdentity) :
    List (UInt32 × Engine) → Table UInt32 Engine → Except RouteError (Table UInt32 Engine)
  | [], engines => .ok engines
  | (wgId, engine) :: rest, engines =>
    if wgId = 0 then .error .invalid
    else if (engines.lookup wgId).isSome then .error .conflict
    else if engine.identity ≠ identity then .error .invalid
    else bindEngines identity rest (engines.insert wgId engine)

def freezeRoutes (identity : RuntimeIdentity) (engines : Table UInt32 Engine) :
    List EngineRoute → RouteTable → Table UInt32 UInt32 → Except RouteError (RouteTable × Table UInt32 UInt32)
  | [], routes, marks => .ok (routes, marks)
  | route :: rest, routes, marks =>
    if route.generation ≠ identity.generation ∨ route.underlayIndex = 0 ∨ route.localPort = 0 ∨
        route.wgId = 0 ∨ route.fwmark = 0 ∨ route.action ≠ .rewrite ∨
        (engines.lookup route.wgId).isNone then .error .invalid
    else if (marks.lookup route.wgId).any (· ≠ route.fwmark) then .error .conflict
    else if (routes.table.lookup ⟨route.generation, route.underlayIndex, route.localPort, route.wgId⟩).isSome then
      .error .conflict
    else freezeRoutes identity engines rest (routes.insert route) (marks.insert route.wgId route.fwmark)

def newEngineRouter (identity : RuntimeIdentity) (bindings : List (UInt32 × Engine))
    (routes : List EngineRoute) : Except RouteError EngineRouter :=
  if bindings = [] ∨ routes = [] then .error .invalid
  else
    match bindEngines identity bindings ∅ with
    | .error cause => .error cause
    | .ok engines =>
      match freezeRoutes identity engines routes .empty ∅ with
      | .error cause => .error cause
      | .ok (table, marks) =>
        if engines.keys.any fun wgId => (marks.lookup wgId).isNone then .error .invalid
        else .ok ⟨identity, engines, table, engines.keys.mergeSort⟩

/-- What one WireGuard engine is built from; `now` is the reading of its clock. -/
structure WgEnginePlan where
  wgId : UInt32
  options : Options
  routes : List EngineRoute
  now : Nat

inductive PlanError where
  | route (cause : RouteError)
  | engine (cause : EngineError)
  deriving DecidableEq

def planEngines (identity : RuntimeIdentity) :
    List WgEnginePlan → Except PlanError (List (UInt32 × Engine) × List EngineRoute)
  | [] => .ok ([], [])
  | plan :: rest =>
    if plan.wgId = 0 ∨ plan.options.generation ≠ identity.generation ∨ plan.routes = [] then
      .error (.route .invalid)
    else
      match newEngine plan.options identity plan.now with
      | .error cause => .error (.engine cause)
      | .ok engine =>
        if plan.routes.any fun route => route.wgId ≠ plan.wgId ∨ route.generation ≠ identity.generation then
          .error (.route .invalid)
        else
          match planEngines identity rest with
          | .error cause => .error cause
          | .ok (bindings, routes) => .ok ((plan.wgId, engine) :: bindings, plan.routes ++ routes)

def newEngineRouterFromPlans (identity : RuntimeIdentity) (plans : List WgEnginePlan) :
    Except PlanError EngineRouter :=
  if plans = [] then .error (.route .invalid)
  else
    match planEngines identity plans with
    | .error cause => .error cause
    | .ok (bindings, routes) => (newEngineRouter identity bindings routes).mapError .route

inductive Dispatcher where
  | single (engine : Engine)
  | routed (router : EngineRouter)

namespace Dispatcher

def identity : Dispatcher → RuntimeIdentity
  | .single engine => engine.identity
  | .routed router => router.identity

def selectEngine (dispatcher : Dispatcher) (event : Event) : Except RouteError UInt32 :=
  match dispatcher with
  | .single _ =>
    if event.wgId = 0 ∨ event.wgId ≠ event.key.wgId then .error .wgId else .ok event.key.wgId
  | .routed router =>
    match router.routes.table.lookup (routeKey event.key) with
    | none => .error .unknownFlow
    | some target =>
      if event.wgId ≠ target.wgId then .error .wgId
      else if event.type = EventType.needHandshake.code ∧ event.fwmark ≠ target.fwmark then .error .mark
      else if event.type ≠ EventType.needHandshake.code ∧ event.fwmark ≠ 0 then .error .controlMark
      else .ok target.wgId

def validateAction (router : EngineRouter) (owner : UInt32) (action : Action) : Except RouteError Unit :=
  let flow := match action with
    | .drop flow _ | .forward flow | .sendControl flow .. | .releasePending flow .. | .close flow _ => flow
  match router.routes.table.lookup (routeKey flow) with
  | none => .error .unknownFlow
  | some target =>
    if target.wgId ≠ owner then .error .owner
    else
      match action with
      | .sendControl _ wgId .. => if wgId ≠ target.wgId then .error .wgId else .ok ()
      | .releasePending _ wgId packets =>
        if wgId ≠ target.wgId ∨ packets = [] then .error .pendingWgId
        else if packets.any fun packet => packet.wgId ≠ target.wgId ∨ packet.fwmark ≠ target.fwmark then
          .error .packet
        else .ok ()
      | _ => .ok ()

def validateActions (dispatcher : Dispatcher) (owner : UInt32) (actions : List Action) :
    Except RouteError Unit :=
  match dispatcher with
  | .single _ => .ok ()
  | .routed router => actions.forM (validateAction router owner)

/-- Engines are ticked in the order of their identities; actions that fail the
route fence are withheld. -/
def tickEngines (router : EngineRouter) (turns : UInt32 → Turn) :
    List UInt32 → Table UInt32 Engine → Table UInt32 Engine × List Action × Option RouteError
  | [], engines => (engines, [], none)
  | wgId :: rest, engines =>
    match engines.lookup wgId with
    | none => tickEngines router turns rest engines
    | some engine =>
      let outcome := engine.tick (turns wgId)
      let checked := outcome.actions.forM (validateAction router wgId)
      let others := tickEngines router turns rest (engines.insert wgId outcome.engine)
      match checked with
      | .error cause => (others.1, others.2.1, some cause)
      | .ok () => (others.1, outcome.actions ++ others.2.1, others.2.2)

end Dispatcher

end WgMix.FakeTcp
