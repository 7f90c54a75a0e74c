import WgMix.Control.State
import WgMix.Dataplane.Supervisor

/-! The production coordinator, which owns either the baseline core or the
experimental one. `history` records every call it makes on either of them. -/
namespace WgMix.Dataplane
open Control

/-- The conservative view of which core may be attached. -/
inductive CoreOwner where
  | unknown
  | none
  | baseline
  | experimental
  deriving DecidableEq, Repr

inductive CoreEvent where
  | baselineApply (succeeded : Bool)
  | baselineDetach (succeeded : Bool)
  | baselineDetachStale (succeeded : Bool)
  | recoverClassic (succeeded : Bool)
  | planRollback
  | runtime (event : RuntimeEvent)
  deriving DecidableEq, Repr

inductive CoordinatorError where
  | context
  | parser (underlay : String)
  | activation
  | scopeUnresolved
  | scopeUnboundOwner (owner : CoreOwner)
  | scopeMismatch
  | stop (cause : SupervisorError)
  | recoverClassic
  | baseline
  | detachBaseline
  | plan
  | emptyKey
  | noBuilder
  | ensure (cause : SupervisorError)
  deriving DecidableEq

/-- `scope` is `none` while unbound. -/
structure Coordinator (σ : Type) where
  supervisor : Supervisor := {}
  owner : CoreOwner := .unknown
  scope : Option σ := none
  history : List CoreEvent := []

/-- A planner's answer; a nil plan counts as a failed one. -/
structure Plan where
  key : DesiredKey
  build : Option Build
  rollback : Bool

/-- What one call meets. `scope` is the resolved and validated scope, `none` when
that failed; `baseline` is whether the baseline loader's call succeeds. -/
structure CallEnv (σ : Type) where
  ctx : Context
  activation : Bool
  scope : Option σ
  recoverClassic : Bool
  baseline : Bool
  plan : Option Plan
  retirement : Retirement
  ensure : EnsureEnv

def productionUnderlayIsAttachable (underlay : UnderlayState) : Bool :=
  underlay.resolved ∧ underlay.role ≠ .parseOnly ∧ underlay.role ≠ .disabled

def preflightProductionUnderlayParsers (state : State) : Except CoordinatorError Unit :=
  match state.underlays.find? fun underlay =>
      productionUnderlayIsAttachable underlay ∧ underlay.parser = .ambiguous with
  | some underlay => .error (.parser underlay.name)
  | none => .ok ()

/-- Whether `fakeTCPStateReferences` is nonempty. -/
def referencesFakeTCP (state : State) : Bool :=
  state.wireGuards.any (·.transportMode = .faketcp) ∨ state.egressRules.any (·.transportMode = .faketcp) ∨
    state.ingressListeners.any (·.transportMode = .faketcp)

namespace Coordinator
variable {σ : Type} (coordinator : Coordinator σ)

def record (events : List CoreEvent) : Coordinator σ :=
  { coordinator with history := coordinator.history ++ events }

def own (owner : CoreOwner) : Coordinator σ := { coordinator with owner }

/-- A supervisor call becomes part of the history. -/
def adopt (step : Step α) : Coordinator σ :=
  { coordinator with
    supervisor := step.supervisor
    history := coordinator.history ++ step.events.map .runtime }

def bindScope [DecidableEq σ] (resolved : Option σ) : Except CoordinatorError (Coordinator σ) :=
  match resolved with
  | none => .error .scopeUnresolved
  | some scope =>
    match coordinator.scope with
    | none =>
      if coordinator.owner ≠ .unknown ∧ coordinator.owner ≠ .none then
        .error (.scopeUnboundOwner coordinator.owner)
      else .ok { coordinator with scope := some scope }
    | some retained => if retained ≠ scope then .error .scopeMismatch else .ok coordinator

/-- `Stop` in front of a baseline call: on failure the experimental core counts
as the owner. Uses the instants 2 to 5. -/
def stopForBaseline (env : CallEnv σ) : Coordinator σ × Except CoordinatorError Unit :=
  let stopped := coordinator.supervisor.stop env.ctx 2 env.retirement
  let coordinator := coordinator.adopt stopped
  match stopped.result with
  | .error cause => (coordinator.own .experimental, .error (.stop cause))
  | .ok () =>
    let coordinator := coordinator.own .none
    if env.ctx.err 5 then (coordinator, .error .context)
    else
      let coordinator := coordinator.record [.recoverClassic env.recoverClassic]
      if env.recoverClassic then (coordinator, .ok ()) else (coordinator, .error .recoverClassic)

def applyBaseline (env : CallEnv σ) : Coordinator σ × Except CoordinatorError Unit :=
  match coordinator.stopForBaseline env with
  | (coordinator, .error cause) => (coordinator, .error cause)
  | (coordinator, .ok ()) =>
    -- A failed apply may have restored a prior generation.
    let coordinator := (coordinator.record [.baselineApply env.baseline]).own .baseline
    (coordinator, if env.baseline then .ok () else .error .baseline)

/-- The unclaimed plan is rolled back when the builder was never called. -/
def rollbackPlan (plan : Plan) : Coordinator σ :=
  if plan.rollback then coordinator.record [.planRollback] else coordinator

/-- The baseline detach in front of an experimental start, which is left out for
a core that is already experimental. -/
def detachForExperimental (env : CallEnv σ) : Coordinator σ × Except CoordinatorError Unit :=
  if coordinator.owner = .experimental then (coordinator, .ok ())
  else
    let coordinator := coordinator.record [.recoverClassic env.recoverClassic]
    if env.recoverClassic = false then (coordinator, .error .recoverClassic)
    else
      let coordinator := coordinator.record [.baselineDetach env.baseline]
      if env.baseline then (coordinator, .ok ()) else (coordinator.own .baseline, .error .detachBaseline)

def claimed (events : List RuntimeEvent) : Bool := events.any fun
  | .build _ => true
  | _ => false

/-- Uses the instants 2, 3 and, in `Ensure`, 4 to 9. -/
def applyExperimental (env : CallEnv σ) : Coordinator σ × Except CoordinatorError Unit :=
  match env.plan with
  | none => (coordinator, .error .plan)
  | some plan =>
    if plan.key = FixedBytes.zero 32 then (coordinator.rollbackPlan plan, .error .emptyKey)
    else if plan.build.isNone then (coordinator.rollbackPlan plan, .error .noBuilder)
    else if env.ctx.err 2 then (coordinator.rollbackPlan plan, .error .context)
    else
      match coordinator.detachForExperimental env with
      | (coordinator, .error cause) => (coordinator.rollbackPlan plan, .error cause)
      | (coordinator, .ok ()) =>
        let coordinator := coordinator.own .none
        if env.ctx.err 3 then (coordinator.rollbackPlan plan, .error .context)
        else
          let ensured := coordinator.supervisor.ensure env.ctx 4 plan.key plan.build env.ensure
          let coordinator := (coordinator.adopt ensured).own .experimental
          let coordinator := if claimed ensured.events then coordinator else coordinator.rollbackPlan plan
          (coordinator, ensured.result.mapError .ensure)

variable [DecidableEq σ]

/-- Uses the instants 0 and 1 before the core-specific ones. -/
def apply (state : State) (env : CallEnv σ) : Coordinator σ × Except CoordinatorError Unit :=
  if env.ctx.err 0 then (coordinator, .error .context)
  else
    match preflightProductionUnderlayParsers state with
    | .error cause => (coordinator, .error cause)
    | .ok () =>
      if env.ctx.err 1 then (coordinator, .error .context)
      else if env.activation = false then (coordinator, .error .activation)
      else
        match coordinator.bindScope env.scope with
        | .error cause => (coordinator, .error cause)
        | .ok coordinator =>
          if referencesFakeTCP state then coordinator.applyExperimental env else coordinator.applyBaseline env

def detach (env : CallEnv σ) : Coordinator σ × Except CoordinatorError Unit :=
  if env.ctx.err 0 then (coordinator, .error .context)
  else if env.ctx.err 1 then (coordinator, .error .context)
  else
    match coordinator.bindScope env.scope with
    | .error cause => (coordinator, .error cause)
    | .ok coordinator =>
      match coordinator.stopForBaseline env with
      | (coordinator, .error cause) => (coordinator, .error cause)
      | (coordinator, .ok ()) =>
        let coordinator := coordinator.record [.baselineDetach env.baseline]
        if env.baseline then ({ coordinator.own .none with scope := none }, .ok ())
        else (coordinator.own .baseline, .error .baseline)

def detachStale (current : State) (env : CallEnv σ) : Coordinator σ × Except CoordinatorError Unit :=
  if env.ctx.err 0 then (coordinator, .error .context)
  else
    match preflightProductionUnderlayParsers current with
    | .error cause => (coordinator, .error cause)
    | .ok () =>
      if env.ctx.err 1 then (coordinator, .error .context)
      else if env.activation = false then (coordinator, .error .activation)
      else
        match coordinator.bindScope env.scope with
        | .error cause => (coordinator, .error cause)
        | .ok coordinator =>
          if referencesFakeTCP current then (coordinator, .ok ())
          else
            match coordinator.stopForBaseline env with
            | (coordinator, .error cause) => (coordinator, .error cause)
            | (coordinator, .ok ()) =>
              let coordinator := (coordinator.record [.baselineDetachStale env.baseline]).own .baseline
              (coordinator, if env.baseline then .ok () else .error .baseline)

end Coordinator

end WgMix.Dataplane
