import WgMix.Bpf.Egress
import WgMix.Bpf.Events

/-! The plain FakeTCP encoder of the TC egress programs: a UDP datagram becomes a
TCP segment of the established session by growing the tail, moving the first
twelve payload bytes there and completing both checksums. -/
namespace WgMix.Bpf
open L3

/-- The packet helpers of this program, with the one that changes the length. -/
structure EncodeHelpers extends Helpers where
  changeTailFails : Bytes → Nat → Bool := fun _ _ => false

/-- Growing appends zeros and makes the whole buffer linear. -/
def Skb.changeTail (helpers : EncodeHelpers) (skb : Skb) (length : Nat) : Option Skb :=
  if helpers.changeTailFails skb.data length then none
  else
    let data := skb.data.take length ++ List.replicate (length - skb.data.length) 0
    some { skb with data, linear := data.length }

namespace Encoder

def maxIpv4TotalLen : Nat := 2304
def checksumChunkBytes : Nat := 32
def checksumChunkCount : Nat := (maxIpv4TotalLen + checksumChunkBytes - 1) / checksumChunkBytes

/-- The adjacent IPv4 and UDP headers. -/
def loadIpv4UdpSnapshot (helpers : Helpers) (skb : Skb) (networkOff transportOff payloadOff : Nat) :
    Option Bytes :=
  if transportOff < networkOff ∨ payloadOff < transportOff ∨ transportOff - networkOff ≠ iphdrSize ∨
      payloadOff - transportOff ≠ udphdrSize ∨ networkOff > skb.data.length ∨
      iphdrSize + udphdrSize > skb.data.length - networkOff then none
  else skb.loadBytes helpers networkOff (iphdrSize + udphdrSize)

/-- The last chunk is padded with zeros to a whole one. -/
def checksumRemainder (helpers : Helpers) (skb : Skb) (payloadOff payloadLen processed sum : Nat) :
    Option (Nat × Nat) :=
  if processed < payloadLen then
    let remaining := payloadLen - processed
    if remaining > checksumChunkBytes then none
    else
      match skb.loadBytes helpers (payloadOff + processed) remaining with
      | none => none
      | some last =>
        (csumDiff [] (last ++ List.replicate (checksumChunkBytes - remaining) 0) sum).map (payloadLen, ·)
  else some (processed, sum)

/-- The TCP header with its complete checksum over the final payload. -/
def materializeTcpChecksum (helpers : Helpers) (skb : Skb) (addresses tcp : Bytes)
    (payloadOff payloadLen : Nat) : Option Bytes :=
  if payloadLen > maxIpv4TotalLen - iphdrSize - udphdrSize then none
  else
    let cleared := tcp.store 16 [0, 0]
    match csumDiff [] (addresses ++ ([0, ipprotoTcp] ++ Bytes.beBytes16 (tcphdrSize + payloadLen))) 0 with
    | none => none
    | some sum =>
      match csumDiff [] cleared sum with
      | none => none
      | some sum =>
        match Tc.icmpChunks helpers skb payloadOff payloadLen checksumChunkBytes checksumChunkCount 0 sum with
        | none => none
        | some (processed, sum) =>
          match checksumRemainder helpers skb payloadOff payloadLen processed sum with
          | none => none
          | some (processed, sum) =>
            if processed ≠ payloadLen then none
            else
              let check := foldCsum sum
              some (cleared.store 16 (Bytes.leBytes 2 (if check = 0 then 0xffff else check)))

/-- The header of a data segment: ACK and PSH, no options. -/
def tcpHeader (ports : Bytes) (mutation : SessionMutationResult) : Bytes :=
  ports ++ (Bytes.beBytes32 mutation.sequence.toNat ++ (Bytes.beBytes32 mutation.acknowledgement.toNat ++
    ([0x50, flagAck ||| flagPsh] ++
      (Bytes.beBytes16 (if mutation.window = 0 then 65535 else mutation.window.toNat) ++ [0, 0, 0, 0]))))

/-- Total length, protocol and the incremental header checksum of both. -/
def rewriteIpv4 (helpers : Helpers) (skb : Skb) (ipOff oldTotalLen : Nat) : Option Skb :=
  let newTotalLen := oldTotalLen + headerDelta
  match skb.l3CsumReplace helpers (ipOff + 10) (Bytes.leNat (Bytes.beBytes16 oldTotalLen))
      (Bytes.leNat (Bytes.beBytes16 newTotalLen)) with
  | none => none
  | some skb =>
    match skb.storeBytes helpers (ipOff + 2) (Bytes.beBytes16 newTotalLen) with
    | none => none
    | some skb => (Tc.updateIpv4Protocol helpers skb ipOff ipprotoUdp ipprotoTcp).toOption

/-- The bytes of the segment, once the session has given its numbers. -/
def writeSegment (helpers : Helpers) (skb : Skb) (info : PacketInfo) (headers : Bytes)
    (mutation : SessionMutationResult) : Except (Stat ⊕ TcStat) Skb :=
  let tcp := tcpHeader (headers.slice 20 4) mutation
  match materializeTcpChecksum helpers skb (headers.slice 12 8) tcp (info.udpOff + tcphdrSize)
      info.payloadLen with
  | none => .error (.inl .checksumError)
  | some tcp =>
    match skb.storeBytes helpers info.udpOff tcp with
    | none => .error (.inr .skbStoreError)
    | some skb =>
      match rewriteIpv4 helpers skb info.ipOff (headers.be16 2) with
      | none => .error (.inl .checksumError)
      | some skb => .ok skb

/-- The first twelve payload bytes, copied behind the grown tail. -/
def rotateTail (helpers : EncodeHelpers) (skb : Skb) (info : PacketInfo) : Except TcStat Skb :=
  match skb.loadBytes helpers.toHelpers info.payloadOff headerDelta with
  | none => .error .skbLoadError
  | some head =>
    match skb.changeTail helpers (skb.data.length + headerDelta) with
    | none => .error .skbStoreError
    | some grown =>
      match grown.storeBytes helpers.toHelpers (grown.data.length - headerDelta) head with
      | none => .error .skbStoreError
      | some skb => .ok skb

def lengthsBad (skb : Skb) (info : PacketInfo) (udpLen oldTotalLen : Nat) : Bool :=
  udpLen ≠ info.payloadLen + udphdrSize ∨ oldTotalLen ≠ iphdrSize + udpLen ∨
    oldTotalLen > maxIpv4TotalLen ∨ oldTotalLen > 0xffff - headerDelta ∨
    info.ipOff > skb.data.length ∨ oldTotalLen ≠ skb.data.length - info.ipOff ∨
    skb.data.length > 0xffffffff - headerDelta

/-- `faketcp_encode_established_authorized`. The session numbers are taken by the
single locked mutation after the packet has room for them. -/
def encodeEstablishedAuthorized (helpers : EncodeHelpers) (env : Env) (kernel : Kernel) (tc : Tc)
    (info : PacketInfo) (generation : UInt64) (key : SessionKey) (authority : SessionAuthority)
    (projection : SessionProjection) : Kernel × Tc × TcVerdict :=
  if env.scratch = false ∨ key.generation ≠ generation then
    (kernel.incStat .admissionBypassReject, tc, .shot)
  else
    match loadIpv4UdpSnapshot helpers.toHelpers tc.skb info.ipOff info.udpOff info.payloadOff with
    | none => (kernel.incStat .admissionBypassReject, tc, .shot)
    | some headers =>
      if headers.le32 12 ≠ key.localIpv4 ∨ headers.le32 16 ≠ key.remoteIpv4 ∨
          headers.be16 20 ≠ key.localPort.toNat ∨ headers.be16 22 ≠ key.remotePort.toNat then
        (kernel.incStat .admissionBypassReject, tc, .shot)
      else
        match (kernel.sessions key).map env.racing with
        | none => (kernel.incStat .sessionMiss, tc, .shot)
        | some held =>
          if lengthsBad tc.skb info (headers.be16 24) (headers.be16 2) then
            (kernel.incStat .badPacket, tc, .shot)
          else
            match rotateTail helpers tc.skb info with
            | .error stat => (kernel, tc.incStat stat, .shot)
            | .ok skb =>
              match held.mutate generation env.now .tx (UInt32.ofNat info.payloadLen) authority projection with
              | none => (kernel.incStat .badState, { tc with skb }, .shot)
              | some (value, mutation) =>
                let kernel := (kernel.setSession key value).incStat .admissionAccept
                match writeSegment helpers.toHelpers skb info headers mutation with
                | .error (.inl stat) => (kernel.incStat stat, { tc with skb }, .shot)
                | .error (.inr stat) => (kernel, { tc with skb }.incStat stat, .shot)
                | .ok skb => (kernel.incStat .egressOk, { tc with skb }.incStat .egressRewriteOk, .ok)

end Encoder
end WgMix.Bpf
