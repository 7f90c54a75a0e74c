import WgMix.Foundation.Bytes

/-! The Ethernet header and its VLAN tags, as every packet program skips them. -/
namespace WgMix.Bpf

def ethhdrSize : Nat := 14
def vlanSize : Nat := 4
def ethPIp : Nat := 0x0800
def ethPIpv6 : Nat := 0x86dd

def isVlan (protocol : Nat) : Bool := protocol = 0x8100 ∨ protocol = 0x88a8

/-- At most two tags; `none` is a tag cut short by the end of the frame. -/
def skipVlan (data : Bytes) : (fuel offset protocol : Nat) → Option (Nat × Nat)
  | 0, offset, protocol => some (offset, protocol)
  | fuel + 1, offset, protocol =>
    if isVlan protocol = false then some (offset, protocol)
    else if offset + vlanSize > data.length then none
    else skipVlan data fuel (offset + vlanSize) (data.be16 (offset + 2))

end WgMix.Bpf
