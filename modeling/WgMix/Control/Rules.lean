import WgMix.Control.State

/-! The rules that a control state derives from its WireGuard interfaces and underlays. -/
namespace WgMix.Control

/-- A WireGuard interface with what its rules are made of. -/
structure RuledWireGuard extends WireGuardState where
  id : UInt32
  profileId : UInt32
  cipherId : UInt32 := 0
  icmpRole : IcmpRole := .none
  icmpId : UInt16 := 0
  deriving DecidableEq

def icmpListenerFlagWildcardId : UInt32 := 1

namespace RuledWireGuard

variable (wg : RuledWireGuard) (underlay : UnderlayState) (family : Family)

def managedFwmarkRule (managedEgressMapMiss : Action) (underlay : UnderlayState) : ManagedFwmarkRule :=
  ⟨wg.runtimeFirewallMark, underlay.ifIndex, managedEgressMapMiss⟩

/-- FakeTCP is IPv4 only; its IPv6 packets meet the miss policy. -/
def families : List Family := if wg.transportMode = .faketcp then [.ipv4] else [.ipv4, .ipv6]

def egressRule : EgressRule where
  family
  fwMark := wg.runtimeFirewallMark
  sourcePort := wg.runtimeListenPort
  underlayIfIndex := underlay.ifIndex
  profileId := wg.profileId
  cipherId := wg.cipherId
  wgId := wg.id
  action := .rewrite
  transportMode := wg.transportMode
  icmpRole := wg.icmpRole
  icmpId := wg.icmpId

/-- The Echo transport has no IPv6 rule. -/
def egressRules : List EgressRule :=
  if wg.transportMode = .icmp ∧ family = .ipv6 then [] else [wg.egressRule underlay family]

/-- Native UDP to the port of an Echo interface is dropped. -/
def ingressListener : IngressListener where
  family
  destinationPort := wg.runtimeListenPort
  underlayIfIndex := underlay.ifIndex
  profileId := wg.profileId
  cipherId := wg.cipherId
  wgId := wg.id
  action := if wg.transportMode = .icmp then .drop else .rewrite
  transportMode := wg.transportMode

def icmpListener : IcmpListener where
  family
  underlayIfIndex := underlay.ifIndex
  icmpType := if wg.icmpRole = .client then 0 else 8
  icmpId := if wg.icmpRole = .server then 0 else wg.icmpId
  listenPort := wg.runtimeListenPort
  profileId := wg.profileId
  wgId := wg.id
  action := .rewrite
  role := wg.icmpRole
  flags := if wg.icmpRole = .server then icmpListenerFlagWildcardId else 0

def icmpListeners : List IcmpListener :=
  if wg.transportMode = .icmp ∧ family ≠ .ipv6 then [wg.icmpListener underlay family] else []

end RuledWireGuard

def rulesUnderlay (underlay : UnderlayState) : Bool :=
  underlay.resolved ∧ underlay.role ≠ .parseOnly ∧ underlay.role ≠ .disabled

/-- The loops over interfaces and underlays. -/
def ruledPairs (wireGuards : List RuledWireGuard) (underlays : List UnderlayState) :
    List (RuledWireGuard × UnderlayState) :=
  (wireGuards.filter (·.runtimeStateAvailable)).flatMap fun wg => (underlays.filter rulesUnderlay).map (wg, ·)

def buildRules (managedEgressMapMiss : Action) (profiles : List ProfileState) (ciphers : List CipherState)
    (wireGuards : List RuledWireGuard) (underlays : List UnderlayState) : State :=
  let pairs := ruledPairs wireGuards underlays
  let each {α : Type} (rules : RuledWireGuard → UnderlayState → Family → List α) : List α :=
    pairs.flatMap fun pair => pair.1.families.flatMap (rules pair.1 pair.2)
  { profiles
    ciphers
    wireGuards := wireGuards.map (·.toWireGuardState)
    underlays
    managedFwmarks := pairs.map fun pair => pair.1.managedFwmarkRule managedEgressMapMiss pair.2
    egressRules := each RuledWireGuard.egressRules
    ingressListeners := each fun wg underlay family => [wg.ingressListener underlay family]
    icmpListeners := each RuledWireGuard.icmpListeners }

theorem mem_ruledPairs (member : pair ∈ ruledPairs wireGuards underlays) : pair.1 ∈ wireGuards := by
  obtain ⟨wg, held, paired⟩ := List.mem_flatMap.mp member
  obtain ⟨underlay, _, rfl⟩ := List.mem_map.mp paired
  exact (List.mem_filter.mp held).1

/-- Every rule stands for one of the interfaces. -/
theorem mem_egressRules (member : rule ∈ (buildRules miss profiles ciphers wireGuards underlays).egressRules) :
    ∃ wg ∈ wireGuards, ∃ underlay family, rule = wg.egressRule underlay family := by
  obtain ⟨pair, paired, inner⟩ := List.mem_flatMap.mp member
  obtain ⟨family, _, inner⟩ := List.mem_flatMap.mp inner
  rw [RuledWireGuard.egressRules] at inner
  split at inner
  · cases inner
  · exact ⟨pair.1, mem_ruledPairs paired, pair.2, family, List.mem_singleton.mp inner⟩

theorem mem_icmpListeners
    (member : listener ∈ (buildRules miss profiles ciphers wireGuards underlays).icmpListeners) :
    ∃ wg ∈ wireGuards, ∃ underlay family, listener = wg.icmpListener underlay family ∧ wg.transportMode = .icmp := by
  obtain ⟨pair, paired, inner⟩ := List.mem_flatMap.mp member
  obtain ⟨family, _, inner⟩ := List.mem_flatMap.mp inner
  rw [RuledWireGuard.icmpListeners] at inner
  split at inner
  · rename_i echo
    exact ⟨pair.1, mem_ruledPairs paired, pair.2, family, List.mem_singleton.mp inner, echo.1⟩
  · cases inner

end WgMix.Control
