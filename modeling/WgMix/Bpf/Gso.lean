import WgMix.Bpf.ChecksumModule
import WgMix.Foundation.Runs

/-! A UDP aggregate as the FakeTCP egress program sees it: the projection that admits
its logical datagrams one by one, the loops that retag and mask each of them, and
the packets into which the TCP layer splits the committed aggregate. -/
namespace WgMix.Bpf.Gso
open L3

def maxPayload : Nat := 0xffff - iphdrSize - udphdrSize - headerDelta
def xorChunkBytes : Nat := 32

/-- What the callbacks of one aggregate share. -/
structure LoopContext where
  cipher : Option CipherValue
  mixedType : Fin 4 → UInt32
  payloadOffset : Nat
  payloadLength : Nat
  gsoSize : Nat
  gsoSegments : Nat

namespace LoopContext

def segmentLength (context : LoopContext) (index : Nat) : Nat :=
  min (context.payloadLength - index * context.gsoSize) context.gsoSize

def segmentOffset (context : LoopContext) (index : Nat) : Nat :=
  context.payloadOffset + index * context.gsoSize

end LoopContext

/-- What validation accumulates over the segments. -/
structure Validation where
  segmentContract : UInt64 := 1469598103934665603
  maxXorTarget : Nat := 0

def contractWord (contract : UInt64) (word : UInt32) : UInt64 :=
  (contract ^^^ word.toUInt64) * 1099511628211

/-- How many bytes of a segment the cipher covers; `none` is a segment that only a
prefix cipher could cover. -/
def xorTarget (cipher : Option CipherValue) (segmentLength : Nat) : Option Nat :=
  match cipher with
  | none => some 0
  | some cipher =>
    if segmentLength > cipher.maxBytes.toNat ∧ cipher.flags &&& cipherPrefixFlag = 0 then none
    else some (min segmentLength cipher.maxBytes.toNat)

def validateSegment (helpers : Helpers) (skb : Skb) (context : LoopContext) (index : Nat)
    (seen : Validation) : Option Validation :=
  let length := context.segmentLength index
  if index ≥ context.gsoSegments ∨ length < headerDelta then none
  else
    match skb.loadBytes helpers (context.segmentOffset index) 4 with
    | none => none
    | some word =>
      match kindFromStandard (word.le32 0) with
      | none => none
      | some kind =>
        if validateLen kind length = false then none
        else
          match xorTarget context.cipher length with
          | none => none
          | some target =>
            let words := [UInt32.ofNat index, UInt32.ofNat length, word.le32 0, context.mixedType kind,
              UInt32.ofNat target]
            some ⟨words.foldl contractWord seen.segmentContract, max target seen.maxXorTarget⟩

structure Projection where
  segmentContract : UInt64 := 0
  gsoSize : Nat := 0
  rawGsoSegs : Nat := 0
  logicalSegments : Nat := 0
  deriving DecidableEq

def contextOf (skb : Skb) (info : PacketInfo) (profile : ProfileValue) (cipher : Option CipherValue)
    (segments : Nat) : LoopContext where
  cipher := cipher
  mixedType := profile.standardToMixed
  payloadOffset := info.payloadOff
  payloadLength := info.payloadLen
  gsoSize := skb.gsoSize
  gsoSegments := segments

/-- The geometry and every segment of an admitted aggregate, with the widest cipher
target; `gsoSegs` is the count that the buffer itself declares. -/
def buildProjection (helpers : Helpers) (skb : Skb) (gsoSegs : Nat) (info : PacketInfo)
    (profile : ProfileValue) (cipher : Option CipherValue) : Option (Projection × Nat) :=
  if info.payloadLen > maxPayload ∨ info.payloadLen ≤ skb.gsoSize ∨ skb.gsoSize < 32 ∨
      info.payloadOff > skb.data.length ∨ info.payloadLen > skb.data.length - info.payloadOff ∨
      cipher.any (fun cipher => cipher.maxBytes = 0 ∨ cipher.maxBytes.toNat > maxXorBytes) then none
  else
    let expectedSegments := (info.payloadLen + skb.gsoSize - 1) / skb.gsoSize
    if expectedSegments < 2 ∨ gsoSegs ≠ expectedSegments ∨
        info.payloadLen - (expectedSegments - 1) * skb.gsoSize < 32 then none
    else
      (Runs.loop (validateSegment helpers skb (contextOf skb info profile cipher expectedSegments))
        expectedSegments {}).map fun seen =>
          (⟨seen.segmentContract, skb.gsoSize, gsoSegs, expectedSegments⟩, seen.maxXorTarget)

def rewriteType (helpers : Helpers) (context : LoopContext) (index : Nat) (skb : Skb) : Option Skb :=
  if index ≥ context.gsoSegments then none
  else
    match skb.loadBytes helpers (context.segmentOffset index) 4 with
    | none => none
    | some word =>
      match kindFromStandard (word.le32 0) with
      | none => none
      | some kind =>
        skb.storeBytes helpers (context.segmentOffset index) (typeWordBytes (context.mixedType kind))

/-- One chunk, whole or as words and a last part of a word. -/
def maskChunk (helpers : Helpers) (cipher : CipherValue) (segmentOffset chunkOffset chunkLength : Nat)
    (skb : Skb) : Except RewriteError Tc.XorProgress :=
  let start : Tc.XorProgress := { skb, processed := chunkOffset }
  if chunkLength = xorChunkBytes then Tc.xorChunk helpers cipher segmentOffset false start chunkLength
  else do
    let words ← Tc.xorChunks helpers cipher segmentOffset false (chunkOffset + chunkLength) 4
      (xorChunkBytes / 4) start
    Tc.xorTail helpers cipher segmentOffset false (chunkOffset + chunkLength) words

/-- The keystream restarts with every segment. -/
def xorChunk (helpers : Helpers) (scratch : Bool) (context : LoopContext) (chunksPerSegment index : Nat)
    (skb : Skb) : Option Skb :=
  match context.cipher with
  | none => none
  | some cipher =>
    let segmentIndex := index / chunksPerSegment
    if chunksPerSegment = 0 ∨ segmentIndex ≥ context.gsoSegments then none
    else
      let chunkOffset := index % chunksPerSegment * xorChunkBytes
      let targetLength := min (context.segmentLength segmentIndex) cipher.maxBytes.toNat
      if chunkOffset ≥ targetLength then some skb
      else
        let chunkLength := min (targetLength - chunkOffset) xorChunkBytes
        if scratch = false then none
        else
          match maskChunk helpers cipher (context.segmentOffset segmentIndex) chunkOffset chunkLength skb with
          | .error _ => none
          | .ok progress => if progress.processed ≠ chunkOffset + chunkLength then none else some progress.skb

def xorChunksPerSegment (context : LoopContext) (cipher : CipherValue) : Nat :=
  (min context.gsoSize cipher.maxBytes.toNat + xorChunkBytes - 1) / xorChunkBytes

def rewriteTypes (helpers : Helpers) (context : LoopContext) (skb : Skb) : Option Skb :=
  Runs.loop (rewriteType helpers context) context.gsoSegments skb

def xorSegments (helpers : Helpers) (scratch : Bool) (context : LoopContext) (cipher : CipherValue)
    (skb : Skb) : Option Skb :=
  let chunks := xorChunksPerSegment context cipher
  Runs.loop (xorChunk helpers scratch context chunks) (chunks * context.gsoSegments) skb

end WgMix.Bpf.Gso
