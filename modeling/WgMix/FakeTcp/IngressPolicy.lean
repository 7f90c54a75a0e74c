import WgMix.FakeTcp.L3Parser

/-! The userspace oracle for the managed-port policy of the XDP program. `none` is a panic. -/
namespace WgMix.FakeTcp

inductive IngressDisposition where
  | pass
  | decodeIpv4
  | drop
  deriving DecidableEq, Repr

/-- One attachment's policy: whether the interface is managed, and its managed ports. -/
structure ManagedIngressPolicy where
  interfaceManaged : Bool
  ports : UInt16 → Bool

namespace IngressPolicy
open L3Parser

def ethernetHeaderLength : Nat := 14
def vlanHeaderLength : Nat := 4
def etherTypeIpv4 : Nat := 0x0800
def etherTypeIpv6 : Nat := 0x86dd
def etherTypeVlan : Nat := 0x8100
def etherTypeQinQ : Nat := 0x88a8

def managedIngressPort (policy : ManagedIngressPolicy) (port : UInt16) : Bool := policy.ports port

def managedFakeTcpTransformStatus (info : L3Info) (transport : UInt8) : L3ParseStatus :=
  if info.family ≠ l3FamilyIpv4 ∨ info.l3HeaderLength ≠ 20 ∨ info.transportProtocol ≠ transport then .unsupported
  else if (transport = l3ProtocolUdp ∧ info.l4HeaderLength = 8) ∨
      (transport = l3ProtocolTcp ∧ info.l4HeaderLength = 20) then .ok
  else .unsupported

def managedFakeTcpDisposition (l3 : Bytes) (info : L3Info) (status : L3ParseStatus)
    (policy : ManagedIngressPolicy) : Option IngressDisposition :=
  if status = .safeBypass then some .pass
  else if status ≠ .ok then some (if policy.interfaceManaged then .drop else .pass)
  else if info.l4Offset + 4 > l3.length then some (if policy.interfaceManaged then .drop else .pass)
  else (l3.read16 (info.l4Offset + 2)).bind fun port =>
    if managedIngressPort policy (UInt16.ofNat port) = false then some .pass
    else if managedFakeTcpTransformStatus info info.transportProtocol ≠ .ok then some .drop
    else if info.transportProtocol = l3ProtocolUdp then some .drop
    else some .decodeIpv4

/-- The tag loop, `remaining` turns before its bound; the inner `none` is a tag cut short. -/
def skipTags (frame : Bytes) : (remaining offset etherType : Nat) → Option (Option (Nat × Nat))
  | 0, offset, etherType => some (some (offset, etherType))
  | remaining + 1, offset, etherType =>
    if ¬(etherType = etherTypeVlan ∨ etherType = etherTypeQinQ) then some (some (offset, etherType))
    else if frame.length < offset + vlanHeaderLength then some none
    else (frame.read16 (offset + 2)).bind fun inner => skipTags frame remaining (offset + vlanHeaderLength) inner

/-- `frame[offset:]`. -/
def sliceFrom (frame : Bytes) (offset : Nat) : Option Bytes :=
  if offset ≤ frame.length then some (frame.drop offset) else none

def classifyManagedIngressFrame (frame : Bytes) (policy : ManagedIngressPolicy) : Option IngressDisposition :=
  if frame.length < ethernetHeaderLength then managedFakeTcpDisposition [] {} .truncated policy
  else (frame.read16 12).bind fun etherType =>
    (skipTags frame 2 ethernetHeaderLength etherType).bind fun
      | none => managedFakeTcpDisposition [] {} .truncated policy
      | some (offset, etherType) =>
        if etherType = etherTypeVlan ∨ etherType = etherTypeQinQ then
          managedFakeTcpDisposition [] {} .unsupported policy
        else if etherType ≠ etherTypeIpv4 ∧ etherType ≠ etherTypeIpv6 then some .pass
        else (sliceFrom frame offset).bind fun l3 => (parseL3 l3).bind fun parsed =>
          managedFakeTcpDisposition l3 parsed.1.1 parsed.1.2 policy

end IngressPolicy
end WgMix.FakeTcp
