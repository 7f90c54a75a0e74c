import WgMix.Bpf.Skb

/-! Payload rewriting in the TC programs: the type word and the segmented XOR
cipher with its context in `skb->cb`. A failed call drops the packet, so the bytes
it had already written are not carried. -/
namespace WgMix.Bpf
open L3

/-- The negative codes -1 to -6 of the rewriting functions. -/
inductive RewriteError where
  | checksum
  | store
  | checksumDiff
  | length
  | load
  | key
  deriving DecidableEq, Repr

def typeWordBytes (wire : UInt32) : Bytes := Bytes.leBytes 4 wire.toNat

namespace Tc

/-- IPv4 leaves the checksum to `BPF_F_RECOMPUTE_CSUM`, IPv6 patches it first. -/
def updateTypeWord (helpers : Helpers) (skb : Skb) (info : PacketInfo) (oldWire newWire : UInt32)
    (recomputeChecksum : Bool) : Except RewriteError Skb :=
  let patched : Option Skb :=
    if recomputeChecksum ∧ info.family ≠ .ipv6 then some skb
    else if info.family = .ipv4 ∧ info.ipv4UdpCsumZero then some skb
    else
      match csumDiff (typeWordBytes oldWire) (typeWordBytes newWire) 0 with
      | none => none
      | some diff => skb.l4CsumReplace helpers (info.udpOff + 6) diff
  match patched with
  | none => .error .checksum
  | some skb =>
    match skb.storeBytes helpers info.payloadOff (typeWordBytes newWire) with
    | none => .error .store
    | some skb => .ok skb

def xorSegmentBytes : Nat := 256
def xorSegmentCount : Nat := 8

/-- Where a segment starts and ends, and whether another one follows. -/
def xorSegmentBounds (target segment startOffset : Nat) : Except RewriteError (Nat × Nat × Bool) :=
  if segment ≥ xorSegmentCount then .error .length
  else
    let segmentStart := segment * xorSegmentBytes
    let segmentEnd := segmentStart + xorSegmentBytes
    if target ≤ segmentStart then .error .length
    else
      let processed := if segmentStart < startOffset then startOffset else segmentStart
      if target < processed then .error .length
      else .ok (processed, if target < segmentEnd then target else segmentEnd, segmentEnd < target)

structure XorProgress where
  skb : Skb
  processed : Nat
  csumDiff : Nat := 0

def padWord (bytes : Bytes) : Bytes := bytes ++ List.replicate ((4 - bytes.length % 4) % 4) 0

/-- Load, combine, account for the checksum when it is kept by hand, and store. -/
def xorChunk (helpers : Helpers) (cipher : CipherValue) (payloadOff : Nat) (manual : Bool)
    (progress : XorProgress) (width : Nat) : Except RewriteError XorProgress :=
  match progress.skb.loadBytes helpers (payloadOff + progress.processed) width with
  | none => .error .load
  | some old =>
    let new := old.mapIdx fun i byte => byte ^^^ cipher.keyByte (progress.processed + i)
    match if manual then csumDiff (padWord old) (padWord new) progress.csumDiff
        else some progress.csumDiff with
    | none => .error .checksumDiff
    | some diff =>
      match progress.skb.storeBytes helpers (payloadOff + progress.processed) new with
      | none => .error .store
      | some skb => .ok ⟨skb, progress.processed + width, diff⟩

/-- An unrolled loop of whole chunks that stops before the segment's end. -/
def xorChunks (helpers : Helpers) (cipher : CipherValue) (payloadOff : Nat) (manual : Bool)
    (segmentTarget width : Nat) : (fuel : Nat) → XorProgress → Except RewriteError XorProgress
  | 0, progress => .ok progress
  | fuel + 1, progress =>
    if progress.processed + width > segmentTarget then .ok progress
    else
      match xorChunk helpers cipher payloadOff manual progress width with
      | .error cause => .error cause
      | .ok progress => xorChunks helpers cipher payloadOff manual segmentTarget width fuel progress

/-- A last word of one to three bytes. -/
def xorTail (helpers : Helpers) (cipher : CipherValue) (payloadOff : Nat) (manual : Bool)
    (segmentTarget : Nat) (progress : XorProgress) : Except RewriteError XorProgress :=
  if progress.processed < segmentTarget then
    if segmentTarget - progress.processed > 3 then .error .length
    else xorChunk helpers cipher payloadOff manual progress (segmentTarget - progress.processed)
  else .ok progress

/-- Chunks, then words, then the tail of one segment. -/
def xorBody (helpers : Helpers) (manual : Bool) (chunkSize : Nat) (cipher : CipherValue)
    (payloadOff segmentTarget : Nat) (start : XorProgress) : Except RewriteError XorProgress := do
  let chunks ← xorChunks helpers cipher payloadOff manual segmentTarget chunkSize
    (xorSegmentBytes / chunkSize) start
  let words ← xorChunks helpers cipher payloadOff manual segmentTarget 4 (chunkSize / 4 - 1) chunks
  xorTail helpers cipher payloadOff manual segmentTarget words

/-- One tail-called segment; the flag asks for the next one. -/
def xorSegment (helpers : Helpers) (manual : Bool) (chunkSize : Nat) (skb : Skb) (cipher : CipherValue)
    (payloadOff target segment startOffset : Nat) : Except RewriteError (Skb × Bool) :=
  match xorSegmentBounds target segment startOffset with
  | .error cause => .error cause
  | .ok (processed, segmentTarget, hasMore) =>
    if processed = segmentTarget then .ok (skb, hasMore)
    else
      match xorBody helpers manual chunkSize cipher payloadOff segmentTarget { skb, processed } with
      | .error cause => .error cause
      | .ok done =>
        if done.processed ≠ segmentTarget then .error .length
        else if manual = false then .ok (done.skb, hasMore)
        else
          match done.skb.l4CsumReplace helpers (payloadOff - udphdrSize + 6) done.csumDiff with
          | none => .error .checksumDiff
          | some skb => .ok (skb, hasMore)

def xorSegmentStoreOnly (helpers : Helpers) (skb : Skb) (cipher : CipherValue)
    (payloadOff target segment startOffset : Nat) : Except RewriteError (Skb × Bool) :=
  xorSegment helpers false 64 skb cipher payloadOff target segment startOffset

def xorSegmentManualDiff (helpers : Helpers) (skb : Skb) (cipher : CipherValue)
    (payloadOff target segment startOffset : Nat) : Except RewriteError (Skb × Bool) :=
  xorSegment helpers true 32 skb cipher payloadOff target segment startOffset

inductive XorChecksum where
  | none
  | recompute
  | manual
  deriving DecidableEq, Repr

def XorChecksum.code : XorChecksum → Nat
  | .none => 0
  | .recompute => 1
  | .manual => 2

def XorChecksum.ofCode : Nat → Option XorChecksum
  | 0 => some .none
  | 1 => some .recompute
  | 2 => some .manual
  | _ => Option.none

/-- The variant that a checksum mode selects. -/
def xorSegmentFor (helpers : Helpers) (mode : XorChecksum) (skb : Skb) (cipher : CipherValue)
    (payloadOff target segment startOffset : Nat) : Except RewriteError (Skb × Bool) :=
  match mode with
  | .manual => xorSegmentManualDiff helpers skb cipher payloadOff target segment startOffset
  | .none | .recompute => xorSegmentStoreOnly helpers skb cipher payloadOff target segment startOffset

structure XorContext where
  generation : UInt64 := 0
  cipherId : UInt32 := 0
  payloadOff : Nat := 0
  target : Nat := 0
  checksumMode : XorChecksum := .none
  continueFakeTcp : Bool := false
  admissionNonce : UInt64 := 0

def xorContextMagic : Nat := 0x584f0000

def setXorContext (skb : Skb) (generation : UInt64) (cipherId : UInt32) (payloadOff target : Nat)
    (checksumMode : XorChecksum) : Skb :=
  { skb with cb := fun
    | 0 => generation.toNat % 2 ^ 32
    | 1 => generation.toNat / 2 ^ 32
    | 2 => cipherId.toNat
    | 3 => payloadOff
    | 4 => xorContextMagic ||| checksumMode.code <<< 12 ||| target }

/-- A continuation of a FakeTCP admission carries only its nonce. -/
def loadXorContext (skb : Skb) : Option XorContext :=
  let metadata := skb.cb 4
  let nonce := UInt64.ofNat (skb.cb 1 <<< 32 ||| skb.cb 0)
  let continueFakeTcp : Bool := metadata &&& 0x4000 ≠ 0
  if metadata &&& 0xffff0000 ≠ xorContextMagic ∨ metadata &&& 0x8000 ≠ 0 then none
  else if continueFakeTcp then
    if nonce = 0 ∨ skb.cb 2 ≠ 0 ∨ skb.cb 3 ≠ 0 ∨ metadata ≠ xorContextMagic ||| 0x4000 then none
    else some { admissionNonce := nonce, continueFakeTcp }
  else
    let target := metadata &&& 0x0fff
    match XorChecksum.ofCode ((metadata &&& 0x3000) >>> 12) with
    | none => none
    | some checksumMode =>
      if nonce = 0 ∨ skb.cb 2 = 0 ∨ skb.cb 3 < udphdrSize ∨ skb.cb 3 + target ≥ 2 ^ 32 ∨
          target < 4 ∨ target > maxXorBytes then none
      else some {
        generation := nonce
        cipherId := UInt32.ofNat (skb.cb 2)
        payloadOff := skb.cb 3
        target
        checksumMode
        continueFakeTcp
        admissionNonce := nonce }

def clearXorContext (skb : Skb) : Skb := { skb with cb := fun _ => 0 }

def prepareXorContextById (maps : PolicyMaps) (skb : Skb) (info : PacketInfo) (cipherId : UInt32)
    (generation : UInt64) (checksumMode : XorChecksum) : Except RewriteError Skb :=
  if info.payloadOff < udphdrSize then .error .length
  else
    match maps.lookupCipher cipherId generation with
    | none => .error .key
    | some cipher =>
      match cipher.payloadTarget info.payloadLen with
      | none => .error .length
      | some target => .ok (setXorContext skb generation cipherId info.payloadOff target checksumMode)

def xorProgramIndex (generation : UInt64) (segment : Nat) : Nat :=
  generation.toNat % 2 * xorSegmentCount + segment

end Tc
end WgMix.Bpf
