import WgMix.Bpf.L3

/-! Map keys, values and the read-only policy lookups of the packet programs.
A map is a function from keys, so every content the loader can install is
covered; a lookup repeats the generation test of the source. -/
namespace WgMix.Bpf

inductive Action where
  | pass
  | drop
  | rewrite
  deriving DecidableEq, Repr

inductive TransportMode where
  | udp
  | icmp
  | faketcp
  deriving DecidableEq, Repr

inductive ParserMode where
  | auto
  | ethernet
  | l3
  deriving DecidableEq, Repr

inductive CipherMode where
  | none
  | xor
  deriving DecidableEq, Repr

inductive IcmpRole where
  | none
  | client
  | server
  deriving DecidableEq, Repr

def abiVersion : UInt32 := 10
def underlayWildcard : UInt32 := 0
def maxXorBytes : Nat := 2048
def cipherPrefixFlag : UInt32 := 1

abbrev Incarnation := FixedBytes 16

structure ControlValue where
  activeGeneration : UInt64
  abiVersion : UInt32

structure ProfileValue where
  generation : UInt64
  standardToMixed : Fin 4 → UInt32
  mixedToStandard : Fin 4 → UInt32
  policyFlags : UInt32 := 0

structure CipherValue where
  generation : UInt64
  key : Fin 256 → UInt8
  maxBytes : UInt32
  flags : UInt32
  mode : CipherMode

structure UnderlayConfigValue where
  generation : UInt64
  parserMode : ParserMode

structure IngressListenerKey where
  generation : UInt64
  underlayIndex : UInt32
  destinationPort : UInt16
  family : Family
  deriving DecidableEq

structure IngressListenerValue where
  generation : UInt64
  profileId : UInt32
  wgId : UInt32
  cipherId : UInt32
  action : Action
  transportMode : TransportMode

structure ManagedFwmarkKey where
  generation : UInt64
  fwmark : UInt32
  underlayIndex : UInt32
  deriving DecidableEq

structure ManagedFwmarkValue where
  generation : UInt64
  actionOnMiss : Action

structure EgressRuleKey where
  generation : UInt64
  fwmark : UInt32
  underlayIndex : UInt32
  sourcePort : UInt16
  family : Family
  deriving DecidableEq

structure EgressRuleValue where
  generation : UInt64
  profileId : UInt32
  wgId : UInt32
  cipherId : UInt32
  icmpId : UInt16
  action : Action
  transportMode : TransportMode
  icmpRole : IcmpRole

structure IcmpListenerKey where
  generation : UInt64
  underlayIndex : UInt32
  icmpId : UInt16
  family : Family
  icmpType : UInt8
  deriving DecidableEq

structure IcmpListenerValue where
  generation : UInt64
  profileId : UInt32
  wgId : UInt32
  listenPort : UInt16
  action : Action
  role : IcmpRole
  flags : UInt32

structure ManagedPortKey where
  generation : UInt64
  underlayIndex : UInt32
  destinationPort : UInt16
  deriving DecidableEq

structure ManagedPortValue where
  generation : UInt64
  wgId : UInt32
  action : Action

def eventAbiVersion : UInt16 := 3

structure RuntimeIdentityValue where
  generation : UInt64
  incarnation : Incarnation
  eventAbiVersion : UInt16

/-- Everything the loader and the policy stage publish for the datapath.
Profiles, ciphers, underlays and managed interfaces are keyed by a generation
and one 32-bit index. -/
structure PolicyMaps where
  control : Option ControlValue := none
  profiles : UInt64 → UInt32 → Option ProfileValue := fun _ _ => none
  ciphers : UInt64 → UInt32 → Option CipherValue := fun _ _ => none
  underlays : UInt64 → UInt32 → Option UnderlayConfigValue := fun _ _ => none
  managedFwmarks : ManagedFwmarkKey → Option ManagedFwmarkValue := fun _ => none
  egressRules : EgressRuleKey → Option EgressRuleValue := fun _ => none
  ingressListeners : IngressListenerKey → Option IngressListenerValue := fun _ => none
  icmpListeners : IcmpListenerKey → Option IcmpListenerValue := fun _ => none
  managedInterfaces : UInt64 → UInt32 → Option UInt64 := fun _ _ => none
  managedPorts : ManagedPortKey → Option ManagedPortValue := fun _ => none
  runtimeIdentity : Option RuntimeIdentityValue := none

namespace PolicyMaps

variable (maps : PolicyMaps)

def activeGeneration : Option UInt64 :=
  match maps.control with
  | some control =>
    if control.abiVersion ≠ Bpf.abiVersion ∨ control.activeGeneration = 0 then none
    else some control.activeGeneration
  | none => none

def lookupParserMode (ifindex : UInt32) (generation : UInt64) : ParserMode :=
  match (maps.underlays generation ifindex).filter (·.generation = generation) with
  | some value => value.parserMode
  | none =>
    match (maps.underlays generation underlayWildcard).filter (·.generation = generation) with
    | some value => value.parserMode
    | none => .auto

def lookupProfile (generation : UInt64) (profileId : UInt32) : Option ProfileValue :=
  (maps.profiles generation profileId).filter (·.generation = generation)

def lookupCipher (cipherId : UInt32) (generation : UInt64) : Option CipherValue :=
  if cipherId = 0 then none
  else (maps.ciphers generation cipherId).filter
    fun cipher => cipher.generation = generation ∧ cipher.mode = .xor

def lookupManagedFwmark (mark ifindex : UInt32) (generation : UInt64) : Option ManagedFwmarkValue :=
  ((maps.managedFwmarks ⟨generation, mark, ifindex⟩).filter (·.generation = generation)).orElse fun _ =>
    (maps.managedFwmarks ⟨generation, mark, underlayWildcard⟩).filter (·.generation = generation)

def lookupEgressRule (mark ifindex : UInt32) (srcPort : UInt16) (family : Family) (generation : UInt64) :
    Option EgressRuleValue :=
  let key : EgressRuleKey := ⟨generation, mark, ifindex, srcPort, family⟩
  ((maps.egressRules key).filter (·.generation = generation)).orElse fun _ =>
    (maps.egressRules { key with underlayIndex := underlayWildcard }).filter (·.generation = generation)

def lookupIngressListener (ifindex : UInt32) (dstPort : UInt16) (family : Family) (generation : UInt64) :
    Option IngressListenerValue :=
  let key : IngressListenerKey := ⟨generation, ifindex, dstPort, family⟩
  ((maps.ingressListeners key).filter (·.generation = generation)).orElse fun _ =>
    (maps.ingressListeners { key with underlayIndex := underlayWildcard }).filter
      (·.generation = generation)

def xdpManagedInterface (ifindex : UInt32) (generation : UInt64) : Bool :=
  maps.managedInterfaces generation ifindex = some generation

def xdpManagedPort (ifindex : UInt32) (port : UInt16) (generation : UInt64) : Option ManagedPortValue :=
  (maps.managedPorts ⟨generation, ifindex, port⟩).filter (·.generation = generation)

/-- The identity counts only with the running generation, this event ABI and a
nonzero incarnation. -/
def lookupRuntimeIdentity (generation : UInt64) : Option RuntimeIdentityValue :=
  maps.runtimeIdentity.filter fun identity =>
    identity.generation = generation ∧ identity.eventAbiVersion = Bpf.eventAbiVersion ∧
      identity.incarnation.aggregate ≠ 0

end PolicyMaps

def incarnationsEqual (left right : Incarnation) : Bool := left.difference right = 0

/-- WireGuard message types 1 to 4 are the kinds 0 to 3. -/
def kindFromStandard (typeWord : UInt32) : Option (Fin 4) :=
  if typeWord = 1 then some 0
  else if typeWord = 2 then some 1
  else if typeWord = 3 then some 2
  else if typeWord = 4 then some 3
  else none

namespace ProfileValue

def mixedFromKind (profile : ProfileValue) (kind : Fin 4) : UInt32 := profile.standardToMixed kind

/-- The first slot holding the mixed word decides, as in the source's chain. -/
def decodeMixed (profile : ProfileValue) (mixed : UInt32) : Option (Fin 4 × UInt32) :=
  if profile.standardToMixed 0 = mixed then some (0, profile.mixedToStandard 0)
  else if profile.standardToMixed 1 = mixed then some (1, profile.mixedToStandard 1)
  else if profile.standardToMixed 2 = mixed then some (2, profile.mixedToStandard 2)
  else if profile.standardToMixed 3 = mixed then some (3, profile.mixedToStandard 3)
  else none

end ProfileValue

def validateLen (kind : Fin 4) (payloadLen : Nat) : Bool :=
  match kind with
  | 0 => payloadLen = 148
  | 1 => payloadLen = 92
  | 2 => payloadLen = 64
  | 3 => payloadLen ≥ 32

namespace CipherValue

/-- Offsets are taken modulo the size of the key array. -/
def keyIndex (offset : Nat) : Fin 256 := Fin.ofNat 256 offset

def keyByte (cipher : CipherValue) (offset : Nat) : UInt8 :=
  cipher.key (keyIndex offset)

/-- Byte-wise over the word in memory, which on the little-endian hosts the
programs are built for is its least significant byte first. -/
def xorTypeWordCopy (cipher : CipherValue) (wire : UInt32) : UInt32 :=
  UInt32.ofNat (Bytes.leNat (List.zipWith (· ^^^ ·) (Bytes.leBytes 4 wire.toNat)
    [cipher.keyByte 0, cipher.keyByte 1, cipher.keyByte 2, cipher.keyByte 3]))

/-- How many payload bytes the cipher covers; `none` is the source's `-4`. -/
def payloadTarget (cipher : CipherValue) (payloadLen : Nat) : Option Nat :=
  let maxBytes := cipher.maxBytes.toNat
  if maxBytes = 0 ∨ maxBytes > maxXorBytes then none
  else if payloadLen > maxBytes then
    if cipher.flags &&& cipherPrefixFlag ≠ 0 then some maxBytes else none
  else if payloadLen = 0 ∨ payloadLen > maxXorBytes then none
  else some payloadLen

end CipherValue

end WgMix.Bpf
