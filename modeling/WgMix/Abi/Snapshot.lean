import WgMix.Bpf.Maps
import WgMix.Control.State
import WgMix.Foundation.Guard
import WgMix.Foundation.Table

/-! The map contents that a control state stands for in one generation. -/
namespace WgMix.Abi
open Bpf

inductive SnapshotError where
  | keyLen (cipher : String) (keyLen : UInt32)
  | keyMask (cipher : String) (keyMask want : UInt32)
  | icmpRole (name : String)
  deriving DecidableEq, Repr

/-- Profiles, ciphers and underlays are keyed by generation and index. -/
structure Snapshot where
  control : ControlValue
  profiles : Table (UInt64 × UInt32) ProfileValue
  ciphers : Table (UInt64 × UInt32) CipherValue
  underlays : Table (UInt64 × UInt32) UnderlayConfigValue
  managedFwmarks : Table ManagedFwmarkKey ManagedFwmarkValue
  egressRules : Table EgressRuleKey EgressRuleValue
  ingressListeners : Table IngressListenerKey IngressListenerValue
  icmpListeners : Table IcmpListenerKey IcmpListenerValue

def parseCipherMode : Control.CipherMode → CipherMode
  | .none => .none
  | .xor => .xor

def parseFamily : Control.Family → Family
  | .any => .unset
  | .ipv4 => .ipv4
  | .ipv6 => .ipv6

def parseParser : Control.Parser → ParserMode
  | .ambiguous => .auto
  | .ethernet => .ethernet
  | .l3 => .l3

def parseAction : Control.Action → Action
  | .pass => .pass
  | .drop => .drop
  | .rewrite => .rewrite

def parseTransport : Control.TransportMode → TransportMode
  | .udp => .udp
  | .icmp => .icmp
  | .faketcp => .faketcp

def parseICMPRole : Control.IcmpRole → IcmpRole
  | .none => .none
  | .client => .client
  | .server => .server
  | .other _ => .none

/-- The error of a role that stands for none of the constants. -/
def checkICMPRole : Control.IcmpRole → Except SnapshotError Unit
  | .other name => .error (.icmpRole name)
  | _ => .ok ()

def profileEntry (generation : UInt64) (profile : Control.ProfileState) : (UInt64 × UInt32) × ProfileValue :=
  ((generation, profile.id),
    { generation, standardToMixed := profile.standardToMixed, mixedToStandard := profile.mixedToStandard })

/-- The key material fills the 256 bytes that the datapath indexes. -/
def expandKey (key : Fin 256 → UInt8) (keyLen : Nat) (i : Fin 256) : UInt8 :=
  if i.val < keyLen then key i else key (CipherValue.keyIndex (i.val % keyLen))

def cipherEntry (generation : UInt64) (cipher : Control.CipherState) :
    Except SnapshotError ((UInt64 × UInt32) × CipherValue) :=
  if cipher.keyLen ≠ 16 ∧ cipher.keyLen ≠ 32 ∧ cipher.keyLen ≠ 64 ∧ cipher.keyLen ≠ 256 then
    .error (.keyLen cipher.name cipher.keyLen)
  else if cipher.keyMask ≠ cipher.keyLen - 1 then
    .error (.keyMask cipher.name cipher.keyMask (cipher.keyLen - 1))
  else .ok ((generation, cipher.id), {
    generation
    key := expandKey cipher.key cipher.keyLen.toNat
    maxBytes := cipher.maxBytes
    flags := cipher.flags
    mode := parseCipherMode cipher.mode })

def skipsUnderlay (underlay : Control.UnderlayState) : Bool :=
  underlay.resolved = false ∨ underlay.ifIndex = 0 ∨ underlay.role = .parseOnly ∨ underlay.role = .disabled

def underlayEntry (generation : UInt64) (underlay : Control.UnderlayState) :
    (UInt64 × UInt32) × UnderlayConfigValue :=
  ((generation, UInt32.ofInt underlay.ifIndex), ⟨generation, parseParser underlay.parser⟩)

def managedEntry (generation : UInt64) (rule : Control.ManagedFwmarkRule) :
    ManagedFwmarkKey × ManagedFwmarkValue :=
  (⟨generation, rule.fwMark, UInt32.ofInt rule.underlayIfIndex⟩, ⟨generation, parseAction rule.actionOnMiss⟩)

def egressEntry (generation : UInt64) (rule : Control.EgressRule) : EgressRuleKey × EgressRuleValue :=
  (⟨generation, rule.fwMark, UInt32.ofInt rule.underlayIfIndex, rule.sourcePort, parseFamily rule.family⟩, {
    generation
    profileId := rule.profileId
    wgId := rule.wgId
    cipherId := rule.cipherId
    icmpId := rule.icmpId
    action := parseAction rule.action
    transportMode := parseTransport rule.transportMode
    icmpRole := parseICMPRole rule.icmpRole })

def ingressEntry (generation : UInt64) (rule : Control.IngressListener) :
    IngressListenerKey × IngressListenerValue :=
  (⟨generation, UInt32.ofInt rule.underlayIfIndex, rule.destinationPort, parseFamily rule.family⟩, {
    generation
    profileId := rule.profileId
    wgId := rule.wgId
    cipherId := rule.cipherId
    action := parseAction rule.action
    transportMode := parseTransport rule.transportMode })

def icmpEntry (generation : UInt64) (rule : Control.IcmpListener) : IcmpListenerKey × IcmpListenerValue :=
  (⟨generation, UInt32.ofInt rule.underlayIfIndex, rule.icmpId, parseFamily rule.family, rule.icmpType⟩, {
    generation
    profileId := rule.profileId
    wgId := rule.wgId
    listenPort := rule.listenPort
    action := parseAction rule.action
    role := parseICMPRole rule.role
    flags := rule.flags })

def fromStateWithGeneration (state : Control.State) (generation : UInt64) : Except SnapshotError Snapshot := do
  let ciphers ← state.ciphers.mapM (cipherEntry generation)
  state.egressRules.forM (checkICMPRole ·.icmpRole)
  state.icmpListeners.forM (checkICMPRole ·.role)
  return {
    control := ⟨generation, abiVersion⟩
    profiles := Table.fill (state.profiles.map (profileEntry generation))
    ciphers := Table.fill ciphers
    underlays := Table.fill ((state.underlays.filter (skipsUnderlay · = false)).map (underlayEntry generation))
    managedFwmarks := Table.fill (state.managedFwmarks.map (managedEntry generation))
    egressRules := Table.fill (state.egressRules.map (egressEntry generation))
    ingressListeners := Table.fill (state.ingressListeners.map (ingressEntry generation))
    icmpListeners := Table.fill (state.icmpListeners.map (icmpEntry generation)) }

/-- The canonical maps once the loader has published the snapshot. -/
def Snapshot.maps (snapshot : Snapshot) : PolicyMaps where
  control := some snapshot.control
  profiles generation id := snapshot.profiles.lookup (generation, id)
  ciphers generation id := snapshot.ciphers.lookup (generation, id)
  underlays generation index := snapshot.underlays.lookup (generation, index)
  managedFwmarks key := snapshot.managedFwmarks.lookup key
  egressRules key := snapshot.egressRules.lookup key
  ingressListeners key := snapshot.ingressListeners.lookup key
  icmpListeners key := snapshot.icmpListeners.lookup key

section
variable {state : Control.State} {generation : UInt64} {snapshot : Snapshot}

/-- The tables of a snapshot, one assignment for each item of the state. -/
structure Snapshot.Stores (snapshot : Snapshot) (state : Control.State) (generation : UInt64) : Prop where
  control : snapshot.control = ⟨generation, abiVersion⟩
  profiles : snapshot.profiles = Table.fill (state.profiles.map (profileEntry generation))
  ciphers : ∃ entries, state.ciphers.mapM (cipherEntry generation) = .ok entries ∧ snapshot.ciphers = Table.fill entries
  underlays : snapshot.underlays =
    Table.fill ((state.underlays.filter (skipsUnderlay · = false)).map (underlayEntry generation))
  managedFwmarks : snapshot.managedFwmarks = Table.fill (state.managedFwmarks.map (managedEntry generation))
  egressRules : snapshot.egressRules = Table.fill (state.egressRules.map (egressEntry generation))
  ingressListeners : snapshot.ingressListeners = Table.fill (state.ingressListeners.map (ingressEntry generation))
  icmpListeners : snapshot.icmpListeners = Table.fill (state.icmpListeners.map (icmpEntry generation))

theorem fromState_stores (built : fromStateWithGeneration state generation = .ok snapshot) :
    snapshot.Stores state generation := by
  obtain ⟨entries, ciphers, built⟩ := bind_ok built
  obtain ⟨_, _, built⟩ := bind_ok built
  obtain ⟨_, _, built⟩ := bind_ok built
  cases built
  exact ⟨rfl, rfl, ⟨entries, ciphers, rfl⟩, rfl, rfl, rfl, rfl, rfl⟩

theorem activeGeneration_maps (built : fromStateWithGeneration state generation = .ok snapshot)
    (nonzero : generation ≠ 0) : snapshot.maps.activeGeneration = some generation := by
  simp [PolicyMaps.activeGeneration, Snapshot.maps, (fromState_stores built).control, nonzero]

/-- An exact entry or the wildcard one answers a lookup. -/
theorem filter_orElse_some {α : Type} {first second : Option α} {keep : α → Bool} {value : α}
    (found : ((first.filter keep).orElse fun _ => second.filter keep) = some value) :
    first = some value ∨ second = some value := by
  cases kept : first.filter keep with
  | none =>
    rw [kept] at found
    exact .inr (Option.eq_some_of_filter_eq_some found)
  | some other =>
    rw [kept] at found
    cases found
    exact .inl (Option.eq_some_of_filter_eq_some kept)

theorem lookupEgressRule_maps (built : fromStateWithGeneration state generation = .ok snapshot)
    (found : snapshot.maps.lookupEgressRule mark ifindex srcPort family generation = some value) :
    ∃ rule ∈ state.egressRules, value = (egressEntry generation rule).2 := by
  have held := filter_orElse_some found
  simp only [Snapshot.maps, (fromState_stores built).egressRules] at held
  rcases held with exact | wildcard
  · obtain ⟨rule, member, _, rfl⟩ := Table.lookup_fill_map exact
    exact ⟨rule, member, rfl⟩
  · obtain ⟨rule, member, _, rfl⟩ := Table.lookup_fill_map wildcard
    exact ⟨rule, member, rfl⟩

end
end WgMix.Abi
