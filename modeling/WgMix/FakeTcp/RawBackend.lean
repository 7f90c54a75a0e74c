import WgMix.FakeTcp.Engine

/-! The raw IPv4 backend: control packets in wire form, what the raw socket checks before it writes
one, and the binding of a captured packet to its identity. -/
namespace WgMix.FakeTcp
open Bpf

structure RawIPv4Write where
  data : Bytes
  underlayIndex : UInt32
  fwmark : UInt32
  deriving DecidableEq

/-- The complete immutable value bound to one capture identity. -/
structure CapturedPacketBinding where
  flow : SessionKey
  fwmark : UInt32
  wgId : UInt32
  captureNanos : UInt64
  captureFingerprint : Digest
  dataFingerprint : Digest
  deriving DecidableEq

inductive SendError where
  | flow (cause : FlowError)
  | flags
  deriving DecidableEq

inductive RawWriteError where
  | zeroUnderlayIndex
  | underlayIndexRange (index : UInt32)
  | incomplete
  | headerLength (length : Nat)
  | totalLength
  | fragment
  | protocol (protocol : UInt8)
  | source
  | destination
  | ipChecksum
  | truncatedTransport
  | transportChecksum
  | udpChecksumAbsent
  deriving DecidableEq

/-- The digest function of the host. -/
structure Host where
  sha256 : Bytes → Digest

variable (host : Host)

def bindCapturedPacket (flow : SessionKey) (packet : PendingPacket) : CapturedPacketBinding where
  flow := flow
  fwmark := packet.fwmark
  wgId := packet.wgId
  captureNanos := packet.captureNanos
  captureFingerprint := packet.captureFingerprint
  dataFingerprint := host.sha256 packet.data

/-- What the raw socket checks before it writes. -/
def validateRawIPv4Write (write : RawIPv4Write) : Except RawWriteError Unit :=
  let packet := write.data
  let headerLength := (packet.byteAt 0).toNat % 16 * 4
  let transport : Bytes := packet.drop headerLength
  if write.underlayIndex = 0 then .error .zeroUnderlayIndex
  else if write.underlayIndex.toNat > 2 ^ 31 - 1 then .error (.underlayIndexRange write.underlayIndex)
  else if packet.length < materializedIPv4HeaderLength ∨ (packet.byteAt 0).toNat / 16 ≠ 4 then .error .incomplete
  else if headerLength ≠ materializedIPv4HeaderLength ∨ packet.length < headerLength then
    .error (.headerLength headerLength)
  else if packet.be16 2 ≠ packet.length ∨ packet.length > 0xffff then .error .totalLength
  else if packet.be16 6 &&& 0xbfff ≠ 0 then .error .fragment
  else if packet.byteAt 9 ≠ 6 ∧ packet.byteAt 9 ≠ 17 then .error (.protocol (packet.byteAt 9))
  else if packet.slice 12 4 = [0, 0, 0, 0] then .error .source
  else if packet.slice 16 4 = [0, 0, 0, 0] then .error .destination
  else if checksumValid (packet.take headerLength) = false then .error .ipChecksum
  else if transport.length < 20 ∧ (packet.byteAt 9 = 6 ∨ transport.length < udpHeaderLength) then
    .error .truncatedTransport
  else if transportChecksumValid (packet.slice 12 8) (packet.byteAt 9) transport = false then
    .error .transportChecksum
  else if packet.byteAt 9 = 17 ∧ transport.be16 6 = 0 then .error .udpChecksumAbsent
  else .ok ()

def controlIPv4Identification : Nat := 0x5747

/-- A payload-free, options-free IPv4/TCP packet with both checksums. -/
def marshalIPv4TCPControl (flow : SessionKey) (control : ControlPacket) : Except SendError Bytes :=
  match validatePacketFlow flow with
  | .error cause => .error (.flow cause)
  | .ok () =>
    if control.flags ≠ flagSyn ∧ control.flags ≠ flagSyn ||| flagAck ∧ control.flags ≠ flagAck then
      .error .flags
    else
      let addresses := Bytes.leBytes 4 flow.localIpv4.toNat ++ Bytes.leBytes 4 flow.remoteIpv4.toNat
      let be32 (value : UInt32) := Bytes.beBytes16 (value.toNat / 65536) ++ Bytes.beBytes16 (value.toNat % 65536)
      let tcp (check : Nat) : Bytes := Bytes.beBytes16 flow.localPort.toNat ++
        Bytes.beBytes16 flow.remotePort.toNat ++ be32 control.sequence ++ be32 control.acknowledgement ++
        [0x50, control.flags] ++ Bytes.beBytes16 control.window.toNat ++ Bytes.beBytes16 check ++ [0, 0]
      let header (check : Nat) : Bytes := [0x45, 0] ++ Bytes.beBytes16 40 ++
        Bytes.beBytes16 controlIPv4Identification ++ [0, 0, 64, 6] ++ Bytes.beBytes16 check ++ addresses
      .ok (header (finishChecksum (addChecksumBytes 0 (header 0))) ++
        tcp (transportChecksum addresses 6 (tcp 0)))

end WgMix.FakeTcp
