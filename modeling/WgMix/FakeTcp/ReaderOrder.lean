import Mathlib.Data.List.Induction
import WgMix.FakeTcp.EventReader
import WgMix.Foundation.Runs

/-! The order that the production reader guarantees over a whole stream: each CPU's captures are
delivered as 1, 2, 3, ... with exact repetitions only, and whatever points to a loss delivers
nothing. -/
namespace WgMix.FakeTcp
open Bpf

/-- What one call of `Read` gets from the ring reader and from the loss counter. -/
structure ReaderInput where
  raw : EventRecord
  readErr : Option ReadError := none
  count : Option UInt64

/-- A delivered capture: its sequence number and the bytes of its record. -/
structure CaptureSample where
  sequence : UInt64
  bytes : Bytes

namespace ProductionEventReader
variable (sha256 : Bytes → Digest)

def start (identity : RuntimeIdentity) (possibleCPUs : Nat) (initialLoss : UInt64) : ProductionEventReader :=
  ⟨identity, List.replicate possibleCPUs {}, initialLoss⟩

def step (reader : ProductionEventReader) (input : ReaderInput) : ProductionEventReader :=
  (reader.read sha256 input.raw input.readErr input.count).1

def answer (reader : ProductionEventReader) (input : ReaderInput) : Except ReadError EventRecord :=
  (reader.read sha256 input.raw input.readErr input.count).2

/-- The usable NEED_HANDSHAKE sample of one CPU in an answer, if it is one. -/
def captured (cpu : UInt32) : Except ReadError EventRecord → List CaptureSample
  | .error _ => []
  | .ok record =>
    match record.ownedSample with
    | none => []
    | some owned =>
      if record.lostSamples = 0 ∧ owned.event.type = EventType.needHandshake.code ∧ owned.event.captureCpu = cpu then
        [⟨owned.event.captureSequence, record.rawSample⟩]
      else []

def delivered (cpu : UInt32) : ProductionEventReader → List ReaderInput → List CaptureSample :=
  Runs.collect (step sha256) fun reader input => captured cpu (reader.answer sha256 input)

/-- Neither the ring nor the counter reports a loss. -/
structure Quiet (reader : ProductionEventReader) (input : ReaderInput) : Prop where
  ring : input.raw.lostSamples = 0
  counter : input.count = some reader.lastLoss

/-- A capture of a possible CPU, with what is known of that CPU. -/
structure Captures (reader : ProductionEventReader) (input : ReaderInput) (decoded : DecodedEvent)
    (state : CaptureSequenceState) : Prop where
  decodes : decodeBorrowedEventSample input.raw.rawSample = .ok decoded
  type : decoded.event.type = EventType.needHandshake.code
  found : reader.sequences[decoded.event.captureCpu.toNat]? = some state

/-- An error, or a loss record that carries no sample. -/
def Lossy (answer : Except ReadError EventRecord) : Prop :=
  (∃ cause, answer = .error cause) ∨ ∃ samples, 0 < samples ∧ answer = .ok { lostSamples := samples }

/-- All that a call can do. -/
inductive Reads (reader : ProductionEventReader) (input : ReaderInput) :
    List CaptureSequenceState → Except ReadError EventRecord → Prop where
  | lossy {answer : Except ReadError EventRecord} (lossy : Lossy answer) : Reads reader input reader.sequences answer
  | passed (quiet : reader.Quiet input) (decoded : DecodedEvent)
      (decodes : decodeBorrowedEventSample input.raw.rawSample = .ok decoded)
      (other : decoded.event.type ≠ EventType.needHandshake.code) :
      Reads reader input reader.sequences
        (.ok { input.raw with ownedSample := some { event := decoded.event, packet := decoded.packet } })
  | repeated (quiet : reader.Quiet input) (decoded : DecodedEvent) (state : CaptureSequenceState)
      (captures : reader.Captures input decoded state) (again : decoded.event.captureSequence = state.sequence)
      (numbered : state.sequence ≠ 0) (identical : sha256 input.raw.rawSample = state.fingerprint) :
      Reads reader input reader.sequences
        (.ok { input.raw with ownedSample := some ⟨decoded.event, decoded.packet, sha256 input.raw.rawSample⟩ })
  | advanced (quiet : reader.Quiet input) (decoded : DecodedEvent) (state : CaptureSequenceState)
      (captures : reader.Captures input decoded state)
      (next : decoded.event.captureSequence.toNat = state.sequence.toNat + 1) :
      Reads reader input
        (reader.sequences.set decoded.event.captureCpu.toNat
          ⟨decoded.event.captureSequence, sha256 input.raw.rawSample⟩)
        (.ok { input.raw with ownedSample := some ⟨decoded.event, decoded.packet, sha256 input.raw.rawSample⟩ })

variable {sha256}

theorem sequence_next {sequence last : UInt64} (above : ¬ sequence ≤ last) :
    (sequence = last + 1 ↔ sequence.toNat = last.toNat + 1) ∧ (sequence ≠ last + 1 → 0 < sequence - last - 1) := by
  have bound := sequence.toNat_lt
  rw [UInt64.not_le, UInt64.lt_iff_toNat_lt] at above
  have sum : (last + 1).toNat = last.toNat + 1 := by
    rw [UInt64.toNat_add, UInt64.toNat_one]
    omega
  refine ⟨by rw [← UInt64.toNat_inj, sum], fun apart => ?_⟩
  rw [ne_eq, ← UInt64.toNat_inj, sum] at apart
  have difference : (sequence - last).toNat = sequence.toNat - last.toNat :=
    UInt64.toNat_sub_of_le _ _ (UInt64.le_iff_toNat_le.mpr (by omega))
  rw [UInt64.lt_iff_toNat_lt, UInt64.toNat_sub_of_le, difference, UInt64.toNat_one, UInt64.toNat_zero]
  · omega
  · rw [UInt64.le_iff_toNat_le, difference, UInt64.toNat_one]
    omega

/-- Unless they overflow, two loss counts add up to none only when both are none. -/
theorem loss_zero {before current lost : UInt64} (grown : ¬ current < before)
    (fits : ¬ current - before > 0xffffffffffffffff - lost) (none : current - before + lost = 0) :
    current = before ∧ lost = 0 := by
  have lostBound := lost.toNat_lt
  have bound := (current - before).toNat_lt
  have room : (0xffffffffffffffff - lost).toNat = 0xffffffffffffffff - lost.toNat :=
    UInt64.toNat_sub_of_le _ _ (UInt64.le_iff_toNat_le.mpr (Nat.le_of_lt_succ lostBound))
  rw [gt_iff_lt, UInt64.lt_iff_toNat_lt, room] at fits
  rw [← UInt64.toNat_inj, UInt64.toNat_add, UInt64.toNat_zero] at none
  have difference : (current - before).toNat = current.toNat - before.toNat :=
    UInt64.toNat_sub_of_le _ _ (UInt64.not_lt.mp grown)
  rw [UInt64.lt_iff_toNat_lt] at grown
  constructor
  · apply UInt64.toNat_inj.mp
    omega
  · apply UInt64.toNat_inj.mp
    rw [UInt64.toNat_zero]
    omega

theorem readCapture_reads {reader current : ProductionEventReader} {input : ReaderInput} {decoded : DecodedEvent}
    (same : current.sequences = reader.sequences) (quiet : reader.Quiet input)
    (decodes : decodeBorrowedEventSample input.raw.rawSample = .ok decoded)
    (type : decoded.event.type = EventType.needHandshake.code) :
    Reads sha256 reader input (current.readCapture sha256 input.raw decoded).1.sequences
      (current.readCapture sha256 input.raw decoded).2 := by
  have failed (cause : ReadError) : Reads sha256 reader input current.sequences (.error cause) :=
    same ▸ .lossy (.inl ⟨cause, rfl⟩)
  rw [readCapture]
  dsimp only
  split
  · exact failed _
  rename_i state found
  have captures : reader.Captures input decoded state := ⟨decodes, type, same ▸ found⟩
  split
  · rename_i again
    split
    · exact failed _
    · rename_i identical
      rw [same]
      exact .repeated quiet decoded state captures again.1 (again.1 ▸ again.2) (Decidable.not_not.mp identical)
  split
  · exact failed _
  rename_i above
  obtain ⟨next, positive⟩ := sequence_next above
  split
  · rename_i apart
    exact same ▸ .lossy (.inr ⟨_, positive apart, rfl⟩)
  · rename_i reached
    rw [same]
    exact .advanced quiet decoded state captures (next.mp (Decidable.not_not.mp reached))

theorem read_reads (reader : ProductionEventReader) (input : ReaderInput) :
    Reads sha256 reader input (reader.step sha256 input).sequences (reader.answer sha256 input) := by
  have failed (cause : ReadError) : Reads sha256 reader input reader.sequences (.error cause) :=
    .lossy (.inl ⟨cause, rfl⟩)
  -- as a hypothesis, so that nothing evaluates the sums of the loss counts
  generalize result : reader.read sha256 input.raw input.readErr input.count = outcome
  rw [step, answer, result]
  rw [read.eq_def] at result
  split at result
  · exact result ▸ failed _
  rename_i currentLoss counted
  split at result
  · exact result ▸ failed _
  rename_i grown
  dsimp only at result
  split at result
  · exact result ▸ failed _
  rename_i fits
  split at result
  · rename_i lost
    exact result ▸ .lossy (.inr ⟨_, UInt64.pos_iff_ne_zero.mpr lost, rfl⟩)
  rename_i none
  obtain ⟨rfl, ring⟩ := loss_zero grown fits (Decidable.not_not.mp none)
  have quiet : reader.Quiet input := ⟨ring, counted⟩
  split at result
  · exact result ▸ failed _
  split at result
  · exact result ▸ failed _
  rename_i decoded decodes
  split at result
  · exact result ▸ failed _
  split at result
  · rename_i other
    exact result ▸ .passed quiet decoded decodes other
  · rename_i type
    exact result ▸ readCapture_reads rfl quiet decodes (Decidable.not_not.mp type)

theorem captured_owned {raw : EventRecord} {owned : OwnedDecodedEvent} (ring : raw.lostSamples = 0) :
    captured cpu (.ok { raw with ownedSample := some owned }) =
      if owned.event.type = EventType.needHandshake.code ∧ owned.event.captureCpu = cpu then
        [⟨owned.event.captureSequence, raw.rawSample⟩] else [] := by
  simp only [captured, ring, true_and]

theorem captured_lossy (lossy : Lossy outcome) : captured cpu outcome = [] := by
  rcases lossy with ⟨cause, rfl⟩ | ⟨samples, _, rfl⟩ <;> rfl

/-- Whether a sample is the newest one again, or the next one. -/
inductive Delivers (sha256 : Bytes → Digest) (before after : List CaptureSequenceState) (cpu : UInt32)
    (sample : CaptureSample) : Prop where
  | again (state : CaptureSequenceState) (found : before[cpu.toNat]? = some state)
      (same : sample.sequence = state.sequence) (numbered : state.sequence ≠ 0)
      (identical : sha256 sample.bytes = state.fingerprint) (unmoved : after = before)
  | next (state : CaptureSequenceState) (found : before[cpu.toNat]? = some state)
      (next : sample.sequence.toNat = state.sequence.toNat + 1)
      (moved : after = before.set cpu.toNat ⟨sample.sequence, sha256 sample.bytes⟩)

/-- A call delivers at most one capture, and moves no other CPU's state. -/
theorem captured_cases (reader : ProductionEventReader) (input : ReaderInput) (cpu : UInt32) :
    (captured cpu (reader.answer sha256 input) = [] ∧
        (reader.step sha256 input).sequences[cpu.toNat]? = reader.sequences[cpu.toNat]?) ∨
      ∃ sample, captured cpu (reader.answer sha256 input) = [sample] ∧ sample.bytes = input.raw.rawSample ∧
        Delivers sha256 reader.sequences (reader.step sha256 input).sequences cpu sample := by
  have reads := @read_reads sha256 reader input
  revert reads
  generalize reader.answer sha256 input = outcome
  generalize (reader.step sha256 input).sequences = after
  intro reads
  cases reads with
  | lossy lossy => exact .inl ⟨captured_lossy lossy, rfl⟩
  | passed quiet decoded decodes other =>
    rw [captured_owned quiet.ring, if_neg fun usable => other usable.1]
    exact .inl ⟨rfl, rfl⟩
  | repeated quiet decoded state captures again numbered identical =>
    rw [captured_owned quiet.ring]
    by_cases here : decoded.event.captureCpu = cpu
    · subst here
      rw [if_pos ⟨captures.type, rfl⟩]
      exact .inr ⟨_, rfl, rfl, .again state captures.found again numbered identical rfl⟩
    · rw [if_neg fun usable => here usable.2]
      exact .inl ⟨rfl, rfl⟩
  | advanced quiet decoded state captures next =>
    rw [captured_owned quiet.ring]
    by_cases here : decoded.event.captureCpu = cpu
    · subst here
      rw [if_pos ⟨captures.type, rfl⟩]
      exact .inr ⟨_, rfl, rfl, .next state captures.found next rfl⟩
    · rw [if_neg fun usable => here usable.2, List.getElem?_set_ne fun same => here (UInt32.toNat_inj.mp same)]
      exact .inl ⟨rfl, rfl⟩

/-- The newest number again with the same bytes, or the next number. -/
def Follows (earlier : List CaptureSample) (sample : CaptureSample) : Prop :=
  match earlier.getLast? with
  | none => sample.sequence = 1
  | some last =>
    sample.sequence.toNat = last.sequence.toNat + 1 ∨
      (sample.sequence = last.sequence ∧ sample.bytes = last.bytes)

/-- The reader remembers a CPU's newest capture. -/
def Remembers (sha256 : Bytes → Digest) (state : CaptureSequenceState) (samples : List CaptureSample) : Prop :=
  match samples.getLast? with
  | none => state.sequence = 0
  | some last => state.sequence = last.sequence ∧ state.fingerprint = sha256 last.bytes

theorem delivers_follows {samples : List CaptureSample}
    (remembers : ∀ state, before[cpu.toNat]? = some state → Remembers sha256 state samples)
    (distinct : ∀ last ∈ samples, sha256 sample.bytes = sha256 last.bytes → sample.bytes = last.bytes)
    (delivers : Delivers sha256 before after cpu sample) :
    Follows samples sample ∧
      ∀ state, after[cpu.toNat]? = some state → Remembers sha256 state (samples ++ [sample]) := by
  cases delivers with
  | again state found same numbered identical unmoved =>
    have known := remembers state found
    rw [Remembers] at known
    rw [Follows, unmoved, found]
    cases newest : samples.getLast? with
    | none =>
      rw [newest] at known
      exact absurd known numbered
    | some last =>
      rw [newest] at known
      have bytes : sample.bytes = last.bytes :=
        distinct last (List.mem_of_getLast? newest) (identical.trans known.2)
      refine ⟨.inr ⟨same.trans known.1, bytes⟩, ?_⟩
      rintro _ ⟨⟩
      rw [Remembers, List.getLast?_concat]
      exact ⟨same.symm, identical.symm⟩
  | next state found next moved =>
    have known := remembers state found
    rw [Remembers] at known
    constructor
    · rw [Follows]
      cases newest : samples.getLast? with
      | none =>
        rw [newest] at known
        rw [known] at next
        exact UInt64.toNat_inj.mp next
      | some last =>
        rw [newest] at known
        exact .inl (known.1 ▸ next)
    · intro now there
      rw [moved, List.getElem?_set_self (List.getElem?_eq_some_iff.mp found).1] at there
      cases there
      rw [Remembers, List.getLast?_concat]
      exact ⟨rfl, rfl⟩

theorem mem_delivered {reader : ProductionEventReader} (member : sample ∈ delivered sha256 cpu reader inputs) :
    ∃ input ∈ inputs, sample.bytes = input.raw.rawSample := by
  obtain ⟨earlier, input, later, rfl, here⟩ := Runs.mem_collect member
  refine ⟨input, List.mem_append_right _ List.mem_cons_self, ?_⟩
  rcases captured_cases (Runs.run (step sha256) reader earlier) input cpu with ⟨none, _⟩ | ⟨found, one, bytes, _⟩
  · rw [none] at here
    exact absurd here List.not_mem_nil
  · rw [one] at here
    rw [List.mem_singleton.mp here, bytes]

/-- The induction over the stream, from its end. -/
theorem delivered_ordered {opened : ProductionEventReader} (fresh : ∀ state ∈ opened.sequences, state.sequence = 0)
    (cpu : UInt32) (inputs : List ReaderInput)
    (distinct : ∀ first ∈ inputs, ∀ second ∈ inputs,
      sha256 first.raw.rawSample = sha256 second.raw.rawSample → first.raw.rawSample = second.raw.rawSample) :
    Runs.Permitted Follows (delivered sha256 cpu opened inputs) ∧
      ∀ state, (Runs.run (step sha256) opened inputs).sequences[cpu.toNat]? = some state →
        Remembers sha256 state (delivered sha256 cpu opened inputs) := by
  induction inputs using List.reverseRecOn with
  | nil => exact ⟨.nil, fun state found => fresh state (List.mem_of_getElem? found)⟩
  | append_singleton inputs input ih =>
    have within {item : ReaderInput} (member : item ∈ inputs) : item ∈ inputs ++ [input] :=
      List.mem_append_left _ member
    have last : input ∈ inputs ++ [input] := List.mem_append_right _ List.mem_cons_self
    obtain ⟨ordered, remembers⟩ := ih fun first here second there =>
      distinct first (within here) second (within there)
    rw [delivered, Runs.collect_snoc, ← delivered, Runs.run_append]
    rcases captured_cases (Runs.run (step sha256) opened inputs) input cpu with
      ⟨nothing, same⟩ | ⟨sample, one, bytes, delivers⟩
    · rw [nothing, List.append_nil]
      exact ⟨ordered, fun state found => remembers state (same ▸ found)⟩
    · have unlike : ∀ earlier ∈ delivered sha256 cpu opened inputs,
          sha256 sample.bytes = sha256 earlier.bytes → sample.bytes = earlier.bytes := by
        intro earlier member equal
        obtain ⟨source, there, same⟩ := mem_delivered member
        rw [bytes, same] at equal ⊢
        exact distinct input last source (within there) equal
      obtain ⟨follows, after⟩ := delivers_follows remembers unlike delivers
      rw [one]
      exact ⟨ordered.snoc follows, after⟩

/-- A capture that is more than one ahead of its CPU. -/
def Gap (reader : ProductionEventReader) (input : ReaderInput) : Prop :=
  ∃ decoded state, reader.Captures input decoded state ∧
    state.sequence.toNat + 1 < decoded.event.captureSequence.toNat

/-- Each of the three signals of a loss. -/
def Signals (reader : ProductionEventReader) (input : ReaderInput) : Prop :=
  reader.Gap input ∨ (∃ count, input.count = some count ∧ reader.lastLoss < count) ∨ input.raw.lostSamples ≠ 0

theorem signal_lossy {reader : ProductionEventReader} {input : ReaderInput} (signals : reader.Signals input) :
    Lossy (reader.answer sha256 input) := by
  have reads := @read_reads sha256 reader input
  have loud (quiet : reader.Quiet input) : reader.Gap input := by
    rcases signals with gap | ⟨count, counted, more⟩ | lost
    · exact gap
    · cases counted.symm.trans quiet.counter
      exact absurd more (UInt64.lt_irrefl _)
    · exact absurd quiet.ring lost
  revert reads
  generalize reader.answer sha256 input = outcome
  generalize (reader.step sha256 input).sequences = after
  intro reads
  cases reads with
  | lossy lossy => exact lossy
  | passed quiet decoded decodes other =>
    obtain ⟨seen, state, captures, _⟩ := loud quiet
    cases decodes.symm.trans captures.decodes
    exact absurd captures.type other
  | repeated quiet decoded state captures again numbered identical =>
    obtain ⟨seen, known, gap, ahead⟩ := loud quiet
    cases captures.decodes.symm.trans gap.decodes
    cases captures.found.symm.trans gap.found
    rw [again] at ahead
    omega
  | advanced quiet decoded state captures next =>
    obtain ⟨seen, known, gap, ahead⟩ := loud quiet
    cases captures.decodes.symm.trans gap.decodes
    cases captures.found.symm.trans gap.found
    omega

theorem lossy_unmoved {reader : ProductionEventReader} {input : ReaderInput}
    (lossy : Lossy (reader.answer sha256 input)) : (reader.step sha256 input).sequences = reader.sequences := by
  have reads := @read_reads sha256 reader input
  have owned {raw : EventRecord} {sample : OwnedDecodedEvent}
      (lossy : Lossy (.ok { raw with ownedSample := some sample })) : False := by
    rcases lossy with ⟨_, failed⟩ | ⟨_, _, lost⟩
    · cases failed
    · cases congrArg EventRecord.ownedSample (Except.ok.inj lost)
  revert lossy reads
  generalize reader.answer sha256 input = outcome
  generalize (reader.step sha256 input).sequences = after
  intro lossy reads
  cases reads with
  | lossy _ => rfl
  | passed quiet decoded decodes other => rfl
  | repeated quiet decoded state captures again numbered identical => rfl
  | advanced quiet decoded state captures next => exact (owned lossy).elim

/-- SHA-256 identifies the samples of one stream: what a repetition is compared by. -/
theorem ordered_event_reader (sha256 : Bytes → Digest) (identity : RuntimeIdentity) (possibleCPUs : Nat)
    (initialLoss : UInt64) (inputs : List ReaderInput)
    (distinct : ∀ first ∈ inputs, ∀ second ∈ inputs,
      sha256 first.raw.rawSample = sha256 second.raw.rawSample → first.raw.rawSample = second.raw.rawSample) :
    (∀ cpu, Runs.Permitted Follows (delivered sha256 cpu (start identity possibleCPUs initialLoss) inputs)) ∧
    ∀ (reader : ProductionEventReader) (input : ReaderInput),
      (reader.Signals input → Lossy (reader.answer sha256 input)) ∧
      (Lossy (reader.answer sha256 input) → (reader.step sha256 input).sequences = reader.sequences) := by
  refine ⟨fun cpu => (delivered_ordered ?_ cpu inputs distinct).1, fun reader input => ⟨signal_lossy, lossy_unmoved⟩⟩
  intro state member
  rw [List.eq_of_mem_replicate member]

section Sample

def sampleCapturePacket : Bytes :=
  [0x45, 0, 0, 32, 0, 1, 0x40, 0, 64, 17, 0x4e, 0x91, 192, 0, 2, 1, 198, 51, 100, 9] ++
    [0xca, 0x6c, 0x9c, 0x40, 0, 12, 0, 0, 1, 0, 0, 0]

/-- The first or a later capture of CPU 1 of generation 7. -/
def sampleCapture (sequence : UInt64) : ReaderInput where
  raw := {
    rawSample := Event.encode {
      key := samplePeer
      timestampNanos := 1000
      runtimeIncarnation := .fill 16 0xa5
      captureSequence := sequence
      captureCpu := 1
      payloadLength := 4
      wgId := 1
      packetLength := 32
      eventAbiVersion := Bpf.eventAbiVersion
      type := EventType.needHandshake.code
      tcpFlags := 0 } ++ sampleCapturePacket }
  count := some 0

def sampleStream : List ReaderInput := [sampleCapture 1, sampleCapture 1, sampleCapture 3, sampleCapture 2]

/-- The SHA-256 values of the three records. -/
def sampleDigest (data : Bytes) : Digest :=
  let value :=
    if data = (sampleCapture 1).raw.rawSample then
      0x6cae5ec8f2fc63bdd2889d7941c04daf0caad30c367af42a5ea8a8bf1e062697
    else if data = (sampleCapture 2).raw.rawSample then
      0x222e204684451358cc36593df94d30ec61251e6bb16c0d9f49a49d1f1119ad4a
    else 0x11c4d38d71e70454724e51a38f9e802229e8374c2d6fc46350511d5332dc6194
  ⟨(Bytes.leBytes 32 value).reverse, by simp⟩

/-- The repetition is delivered, the third capture ahead of the second is not. -/
theorem ordered_event_reader_sample :
    ((delivered sampleDigest 1 (start ⟨7, .fill 16 0xa5⟩ 2 0) sampleStream).map CaptureSample.sequence = [1, 1, 2]) ∧
    Runs.Permitted Follows (delivered sampleDigest 1 (start ⟨7, .fill 16 0xa5⟩ 2 0) sampleStream) := by
  refine ⟨by decide +kernel, (ordered_event_reader sampleDigest ⟨7, .fill 16 0xa5⟩ 2 0 sampleStream ?_).1 1⟩
  decide +kernel

end Sample

end ProductionEventReader
end WgMix.FakeTcp
