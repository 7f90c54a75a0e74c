import Mathlib.Data.Fin.VecNotation
import WgMix.Bpf.Xdp

/-! Inversion of the XDP program: what each stage can do, stated once. Later
invariants of ring records, sessions and frames follow from these cases. -/
namespace WgMix.Bpf

/-- Only a counter may have moved. -/
def Kernel.StatsOnly (before after : Kernel) : Prop :=
  after = before ∨ ∃ stat, after = before.incStat stat

namespace Kernel.StatsOnly

theorem outputs (moved : StatsOnly before after) : after.outputs = before.outputs := by
  rcases moved with rfl | ⟨stat, rfl⟩ <;> rfl

theorem sessions (moved : StatsOnly before after) : after.sessions = before.sessions := by
  rcases moved with rfl | ⟨stat, rfl⟩ <;> rfl

end Kernel.StatsOnly

namespace SessionValue

/-- A snapshot exists only for an entry with valid established metadata. -/
theorem snapshot_cases {generation : UInt64} (taken : snapshotEstablished entry generation = some snapshot) :
    ∃ session, entry = some session ∧ session.metadataValid generation = true ∧
      snapshot = ⟨session.authority, session.projection, session.revision, session.txSequence,
        session.rxSequence⟩ := by
  unfold snapshotEstablished at taken
  split at taken
  · contradiction
  · rename_i session
    split at taken
    · rename_i valid
      exact ⟨session, rfl, valid, (Option.some.inj taken).symm⟩
    · contradiction

theorem metadataValid_iff (session : SessionValue) (generation : UInt64) :
    session.metadataValid generation = true ↔
      session.generation = generation ∧ session.state = .established ∧ session.flags = 0 ∧
      session.pad.aggregate = 0 ∧ session.kernelReserved = 0 ∧ session.revision ≠ 0 ∧
      session.sessionId ≠ 0 ∧ session.runtimeIncarnation.aggregate ≠ 0 := by
  simp only [metadataValid, decide_eq_true_eq]

end SessionValue

theorem PolicyMaps.lookupRuntimeIdentity_some {maps : PolicyMaps}
    (found : maps.lookupRuntimeIdentity generation = some identity) :
    maps.runtimeIdentity = some identity ∧ identity.generation = generation ∧
      identity.eventAbiVersion = Bpf.eventAbiVersion ∧ identity.incarnation.aggregate ≠ 0 := by
  obtain ⟨present, kept⟩ := Option.filter_eq_some_iff.mp found
  exact ⟨present, by simpa only [decide_eq_true_eq] using kept⟩

theorem incarnationsEqual_iff (left right : Incarnation) :
    incarnationsEqual left right = true ↔ left = right := by
  simp only [incarnationsEqual, decide_eq_true_eq, FixedBytes.difference_eq_zero]

namespace Xdp
open L3

variable {build : Build} {maps : PolicyMaps} {kernel : Kernel} {env : Env} {ctx : Context}
  {headers : Envelope} {l3 : L3Info} {managed : ManagedPortValue} {generation : UInt64}
  {managedInterface : Bool}

/-- The established-session facts shared by every decision that carries a
snapshot. -/
structure Established (maps : PolicyMaps) (kernel : Kernel) (generation : UInt64)
    (admission : IngressAdmission) (snapshot : SessionSnapshot) : Prop where
  taken : SessionValue.snapshotEstablished (kernel.sessions admission.key) generation = some snapshot
  identity : ∃ identity, maps.lookupRuntimeIdentity generation = some identity ∧
    identity.incarnation = snapshot.authority.runtimeIncarnation

/-- Which decision the session classification can reach, with its guards. -/
def Classified (build : Build) (maps : PolicyMaps) (kernel : Kernel) (frame : Bytes) (l3Off : Nat)
    (profile : ProfileValue) (cipher : Option CipherValue) (generation : UInt64)
    (admission : IngressAdmission) : Decision → Prop
  | .drop => True
  | .control bound => bound = admission ∧ closeControl admission.tcpFlags = false ∧
      (SessionValue.snapshotEstablished (kernel.sessions admission.key) generation = none ∨
        admission.tcpFlags &&& flagSyn ≠ 0)
  | .close bound snapshot => bound = admission ∧ closeControl admission.tcpFlags = true ∧
      Established maps kernel generation admission snapshot
  | .keepalive bound snapshot => bound = admission ∧ admission.payloadLen = 0 ∧
      admission.tcpFlags = flagAck ∧ Established maps kernel generation admission snapshot
  | .transform bound snapshot => bound = admission ∧ closeControl admission.tcpFlags = false ∧
      headerDelta ≤ admission.payloadLen ∧
      typeWordAdmitted build frame l3Off profile cipher admission = true ∧
      Established maps kernel generation admission snapshot

theorem classifySession_cases (build : Build) (maps : PolicyMaps) (kernel : Kernel) (frame : Bytes)
    (l3Off : Nat) (profile : ProfileValue) (cipher : Option CipherValue) (generation : UInt64)
    (admission : IngressAdmission) :
    let result := classifySession build maps kernel frame l3Off profile cipher generation admission
    kernel.StatsOnly result.1 ∧
      Classified build maps kernel frame l3Off profile cipher generation admission result.2 := by
  simp only [classifySession]
  cases taken : SessionValue.snapshotEstablished (kernel.sessions admission.key) generation with
  | none =>
    refine ⟨.inr ⟨_, rfl⟩, ?_⟩
    cases closing : closeControl admission.tcpFlags with
    | true => trivial
    | false => exact ⟨rfl, closing, .inl taken⟩
  | some snapshot =>
    cases found : maps.lookupRuntimeIdentity generation with
    | none => exact ⟨.inr ⟨_, rfl⟩, trivial⟩
    | some identity =>
      by_cases same : incarnationsEqual identity.incarnation snapshot.authority.runtimeIncarnation = true
      · have established : Established maps kernel generation admission snapshot :=
          ⟨taken, identity, found, (incarnationsEqual_iff _ _).mp same⟩
        simp only [same, Bool.true_eq_false, if_false]
        by_cases closing : closeControl admission.tcpFlags = true
        · rw [if_pos closing]
          exact ⟨.inl rfl, rfl, closing, established⟩
        rw [if_neg closing]
        by_cases syn : admission.tcpFlags &&& flagSyn ≠ 0
        · rw [if_pos syn]
          exact ⟨.inl rfl, rfl, by simpa using closing, .inr syn⟩
        rw [if_neg syn]
        split
        · rename_i idle
          exact ⟨.inl rfl, rfl, idle.1, idle.2, established⟩
        split
        · exact ⟨.inr ⟨_, rfl⟩, trivial⟩
        · rename_i shape
          split
          · rename_i admitted
            exact ⟨.inl rfl, rfl, by simpa using closing, by omega, admitted, established⟩
          · exact ⟨.inr ⟨_, rfl⟩, trivial⟩
      · simp only [Bool.not_eq_true] at same
        simp only [same, if_true]
        exact ⟨.inr ⟨_, rfl⟩, trivial⟩

/-- Everything the checkpoint has verified before it looks at the session. -/
structure Admitted (maps : PolicyMaps) (ctx : Context) (headers : Envelope) (l3 : L3Info)
    (managed : ManagedPortValue) (policyListener : Option IngressListenerValue)
    (managedInterface : Bool) (generation : UInt64) (policy : IngressListenerValue)
    (profile : ProfileValue) (cipher : Option CipherValue) : Prop where
  listener : policyListener = some policy
  coherent : listenersCoherent managed policy managedInterface generation = true
  profile : maps.lookupProfile generation policy.profileId = some profile
  shape : managedTransformStatus l3 ipprotoTcp = .ok
  adjacent : l3.l4Off = l3.l3Off + iphdrSize
  minimum : iphdrSize + tcphdrSize ≤ headers.totalLen
  maximum : headers.totalLen ≤ maxIpv4TotalLen + headerDelta
  exactLen : headers.totalLen = l3.l3Len
  ports : headers.dest ≠ 0 ∧ headers.source ≠ 0 ∧ ctx.ingressIfindex ≠ 0
  cipher : cipherFor maps policy generation (admissionOf ctx headers policy generation) = some cipher

theorem checkpoint_cases (build : Build) (maps : PolicyMaps) (kernel : Kernel) (ctx : Context)
    (headers : Envelope) (l3 : L3Info) (managed : ManagedPortValue)
    (policyListener : Option IngressListenerValue) (managedInterface : Bool) (generation : UInt64) :
    let result := admissionCheckpoint build maps kernel ctx headers l3 managed policyListener
      managedInterface generation
    kernel.StatsOnly result.1 ∧ (result.2 = .drop ∨ ∃ policy profile cipher,
      Admitted maps ctx headers l3 managed policyListener managedInterface generation policy profile
        cipher ∧
      Classified build maps kernel ctx.frame l3.l3Off profile cipher generation
        (admissionOf ctx headers policy generation) result.2) := by
  have dropped (stat : Stat) : kernel.StatsOnly (kernel.incStat stat) := .inr ⟨stat, rfl⟩
  simp only [admissionCheckpoint]
  cases policyListener with
  | none => exact ⟨dropped _, .inl rfl⟩
  | some policy =>
    dsimp only
    by_cases coherent : listenersCoherent managed policy managedInterface generation = false
    · rw [if_pos coherent]
      exact ⟨dropped _, .inl rfl⟩
    · rw [if_neg coherent]
      cases found : maps.lookupProfile generation policy.profileId with
      | none => exact ⟨dropped _, .inl rfl⟩
      | some profile =>
        dsimp only
        split
        · exact ⟨dropped _, .inl rfl⟩
        rename_i shape
        split
        · exact ⟨dropped _, .inl rfl⟩
        rename_i lengths
        split
        · exact ⟨dropped _, .inl rfl⟩
        rename_i ports
        simp only [not_or, ne_eq, Decidable.not_not, Nat.not_lt, gt_iff_lt] at shape lengths
        simp only [admissionOf, not_or] at ports
        cases chosen : cipherFor maps policy generation (admissionOf ctx headers policy generation) with
        | none => exact ⟨dropped _, .inl rfl⟩
        | some cipher =>
          have cases := classifySession_cases build maps kernel ctx.frame l3.l3Off profile cipher
            generation (admissionOf ctx headers policy generation)
          exact ⟨cases.1, .inr ⟨policy, profile, cipher,
            ⟨rfl, by simpa using coherent, found, shape.1, shape.2, lengths.1, lengths.2.1, lengths.2.2, ports,
              chosen⟩, cases.2⟩⟩

/-- The intermediate frames of a completed transform, in write order. -/
structure Transformed (build : Build) (kernel : Kernel) (env : Env) (ctx : Context)
    (headers : Envelope) (l3 : L3Info) (generation : UInt64) (admission : IngressAdmission)
    (session : SessionSnapshot) (outcome : Outcome) (tail udp ip withUdp withTail withIp : Bytes)
    (after : Kernel) : Prop where
  rotated : loadBytes build ctx.frame (l3.l3Off + admission.wireTotalLen - headerDelta) headerDelta = some tail
  decoded : decodedUdp headers tail admission.payloadLen = some udp
  storedUdp : storeBytes build ctx.frame l3.l4Off udp = some withUdp
  storedTail : storeBytes build withUdp (l3.l4Off + udphdrSize) tail = some withTail
  rewritten : decodedIp headers (admission.wireTotalLen - headerDelta) = some ip
  storedIp : storeBytes build withTail l3.l3Off ip = some withIp
  mutated : mutateSession kernel env generation .rx
    (admission.sequence + UInt32.ofNat admission.payloadLen) admission session = some after
  passed : outcome = ⟨.pass, after.incStat .ingressOk,
    if build = .default then withIp.take (withIp.length - headerDelta) else withIp,
    some (ingressMetadata session)⟩

/-- A transform either drops, moving counters only, or has gone all the way. -/
theorem transform_cases (build : Build) (kernel : Kernel) (env : Env) (ctx : Context)
    (headers : Envelope) (l3 : L3Info) (generation : UInt64) (admission : IngressAdmission)
    (session : SessionSnapshot) :
    let result := transformBranch build kernel env ctx headers l3 generation admission session
    (result.action = .drop ∧ kernel.StatsOnly result.kernel) ∨
      ∃ tail udp ip withUdp withTail withIp after, Transformed build kernel env ctx headers l3
        generation admission session result tail udp ip withUdp withTail withIp after := by
  have dropped (stat : Stat) : kernel.StatsOnly (kernel.incStat stat) := .inr ⟨stat, rfl⟩
  simp only [transformBranch]
  cases tail : loadBytes build ctx.frame (l3.l3Off + admission.wireTotalLen - headerDelta) headerDelta with
  | none => exact .inl ⟨rfl, dropped _⟩
  | some tailBytes =>
    dsimp only
    cases udp : decodedUdp headers tailBytes admission.payloadLen with
    | none => exact .inl ⟨rfl, dropped _⟩
    | some udpBytes =>
      dsimp only
      split
      · exact .inl ⟨rfl, dropped _⟩
      cases first : storeBytes build ctx.frame l3.l4Off udpBytes with
      | none => exact .inl ⟨rfl, dropped _⟩
      | some withUdp =>
        dsimp only
        cases second : storeBytes build withUdp (l3.l4Off + udphdrSize) tailBytes with
        | none => exact .inl ⟨rfl, dropped _⟩
        | some withTail =>
          dsimp only
          cases ip : decodedIp headers (admission.wireTotalLen - headerDelta) with
          | none => exact .inl ⟨rfl, dropped _⟩
          | some ipBytes =>
            dsimp only
            cases third : storeBytes build withTail l3.l3Off ipBytes with
            | none => exact .inl ⟨rfl, dropped _⟩
            | some withIp =>
              dsimp only
              split
              · exact .inl ⟨rfl, dropped _⟩
              cases mutated : mutateSession kernel env generation .rx
                  (admission.sequence + UInt32.ofNat admission.payloadLen) admission session with
              | none => exact .inl ⟨rfl, dropped _⟩
              | some after => exact .inr ⟨tailBytes, udpBytes, ipBytes, withUdp, withTail, withIp, after,
                  tail, udp, first, second, ip, third, mutated, rfl⟩

/-- A mutation writes one session entry and nothing else. -/
theorem mutateSession_cases (mutated : mutateSession kernel env generation operation argument
    admission session = some after) :
    ∃ value, after = kernel.setSession admission.key value := by
  unfold mutateSession at mutated
  split at mutated
  · contradiction
  split at mutated
  · contradiction
  exact ⟨_, (Option.some.inj mutated).symm⟩

section Sample

def sampleIncarnation : Incarnation := .fill 16 0xa5

/-- One FakeTCP listener of generation 7 on port 51820 of interface 2. -/
def sampleMaps : PolicyMaps where
  control := some ⟨7, abiVersion⟩
  profiles generation id := if generation = 7 ∧ id = 1 then
    some { generation := 7, standardToMixed := ![0x11aa, 0x22bb, 0x33cc, 0x44dd],
           mixedToStandard := ![1, 2, 3, 4] } else none
  underlays generation ifindex := if generation = 7 ∧ ifindex = 2 then some ⟨7, .ethernet⟩ else none
  ingressListeners key := if key = ⟨7, 2, 51820, .ipv4⟩ then some ⟨7, 1, 1, 0, .rewrite, .faketcp⟩ else none
  managedInterfaces generation ifindex := if generation = 7 ∧ ifindex = 2 then some 7 else none
  managedPorts key := if key = ⟨7, 2, 51820⟩ then some ⟨7, 1, .rewrite⟩ else none
  runtimeIdentity := some ⟨7, sampleIncarnation, eventAbiVersion⟩

end Sample

end Xdp
end WgMix.Bpf
