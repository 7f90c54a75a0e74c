import WgMix.Foundation.Bytes

/-! The compiled control state, as far as the dataplane reads it. Names that the
configuration spells as strings are enumerations here. -/
namespace WgMix.Control

inductive TransportMode where
  | udp
  | icmp
  | faketcp
  deriving DecidableEq, Repr

inductive Parser where
  | ethernet
  | l3
  | ambiguous
  deriving DecidableEq, Repr

/-- A resolver may answer any role. -/
inductive Role where
  | transform
  | parseOnly
  | disabled
  | other (name : String)
  deriving DecidableEq, Repr

inductive Family where
  | any
  | ipv4
  | ipv6
  deriving DecidableEq, Repr

inductive Action where
  | pass
  | drop
  | rewrite
  deriving DecidableEq, Repr

/-- Only an Echo interface has its role checked before it is compiled. -/
inductive IcmpRole where
  | none
  | client
  | server
  | other (name : String)
  deriving DecidableEq, Repr

inductive CipherMode where
  | none
  | xor
  deriving DecidableEq, Repr

structure ProfileState where
  id : UInt32
  name : String
  standardToMixed : Fin 4 → UInt32
  mixedToStandard : Fin 4 → UInt32

structure CipherState where
  id : UInt32
  name : String
  mode : CipherMode
  keyLen : UInt32
  keyMask : UInt32
  maxBytes : UInt32
  flags : UInt32
  key : Fin 256 → UInt8

structure WireGuardState where
  name : String
  transportMode : TransportMode
  configFwMark : UInt32 := 0
  configListenPort : UInt16 := 0
  runtimeStateAvailable : Bool := false
  runtimeFirewallMark : UInt32 := 0
  runtimeListenPort : UInt16 := 0
  deriving DecidableEq

structure UnderlayState where
  name : String
  parser : Parser
  ifIndex : Int
  role : Role
  resolved : Bool
  deriving DecidableEq

structure ManagedFwmarkRule where
  fwMark : UInt32
  underlayIfIndex : Int
  actionOnMiss : Action
  deriving DecidableEq

structure EgressRule where
  family : Family := .any
  fwMark : UInt32 := 0
  sourcePort : UInt16 := 0
  underlayIfIndex : Int := 0
  profileId : UInt32 := 0
  cipherId : UInt32 := 0
  wgId : UInt32
  action : Action := .rewrite
  transportMode : TransportMode
  icmpRole : IcmpRole := .none
  icmpId : UInt16 := 0
  deriving DecidableEq

structure IngressListener where
  generation : UInt64 := 1
  family : Family := .any
  destinationPort : UInt16 := 0
  underlayIfIndex : Int := 0
  profileId : UInt32 := 0
  cipherId : UInt32 := 0
  wgId : UInt32
  action : Action := .rewrite
  transportMode : TransportMode
  deriving DecidableEq

structure IcmpListener where
  family : Family
  underlayIfIndex : Int
  icmpType : UInt8
  icmpId : UInt16
  listenPort : UInt16
  profileId : UInt32
  wgId : UInt32
  action : Action
  role : IcmpRole
  flags : UInt32
  deriving DecidableEq

/-- A compiled state is of the first generation, and so are its rules. -/
structure State where
  generation : UInt64 := 1
  profiles : List ProfileState := []
  ciphers : List CipherState := []
  wireGuards : List WireGuardState
  underlays : List UnderlayState
  managedFwmarks : List ManagedFwmarkRule := []
  egressRules : List EgressRule
  ingressListeners : List IngressListener
  icmpListeners : List IcmpListener := []

end WgMix.Control
