import WgMix.Abi.Snapshot
import WgMix.Bpf.EgressSpec
import WgMix.Control.Profile

/-! Which managed packets leave with every datagram they carry obfuscated. A socket
buffer with a segment size stands for one datagram per segment, and the program
rewrites the first one only. -/
namespace WgMix.Bpf.Tc
open L3

def payloadOf (skb : Skb) (info : PacketInfo) : Bytes := skb.data.slice info.payloadOff info.payloadLen

/-- The datagrams of a payload: one per started segment, or the payload itself. -/
def Carries (gsoSize : Nat) (payload : Bytes) (i : Nat) : Prop :=
  i = 0 ∨ (gsoSize ≠ 0 ∧ i * gsoSize < payload.length)

def datagram (gsoSize : Nat) (payload : Bytes) (i : Nat) : Bytes :=
  if gsoSize = 0 then payload else payload.slice (i * gsoSize) gsoSize

section
variable (profile : ProfileValue) (cipher : Option CipherValue)

/-- What a datagram of a message type starts with on the wire. -/
def wireWord (kind : Fin 4) : Bytes :=
  match cipher with
  | none => typeWordBytes (profile.mixedFromKind kind)
  | some cipher => (typeWordBytes (profile.mixedFromKind kind)).mapIdx fun i byte => byte ^^^ cipher.keyByte i

/-- A datagram that starts with a standard word leaves with the wire word of its type, and none leaves with a
standard one. -/
def Hidden (before after : Bytes) : Prop :=
  (∀ kind, before.take 4 = standardWord kind → after.take 4 = wireWord profile cipher kind) ∧
    ∀ other, after.take 4 ≠ standardWord other

def Obfuscated (gsoSize : Nat) (before after : Bytes) : Prop :=
  ∀ i, Carries gsoSize before i → Hidden profile cipher (datagram gsoSize before i) (datagram gsoSize after i)

/-- No datagram behind the first starts with a standard word; or, under a cipher, the key stream happens to hide
those that do. -/
def Obfuscatable (gsoSize payloadLen : Nat) (payload : Bytes) : Prop :=
  match cipher with
  | none =>
    ∀ i kind, 0 < i → Carries gsoSize payload i → (datagram gsoSize payload i).take 4 ≠ standardWord kind
  | some cipher =>
    (∀ kind other, (datagram gsoSize payload 0).take 4 = standardWord kind →
      wireWord profile (some cipher) kind ≠ standardWord other) ∧
    ∀ i, 0 < i → Carries gsoSize payload i → Hidden profile (some cipher) (datagram gsoSize payload i)
      (datagram gsoSize (applyCipher (some cipher) payloadLen payload) i)

end

theorem length_standardWord (kind : Fin 4) : (standardWord kind).length = 4 := length_typeWordBytes _

theorem standardWord_injective : ∀ one two, standardWord one = standardWord two → one = two := by decide

/-- A datagram that starts with a whole word is at least that long. -/
theorem whole_of_starts (starts : (datagram gsoSize payload i).take 4 = standardWord kind) :
    gsoSize = 0 ∨ 4 ≤ gsoSize := by
  by_cases unsegmented : gsoSize = 0
  · exact .inl unsegmented
  · have sized := congrArg List.length starts
    rw [length_standardWord, datagram, if_neg unsegmented, Bytes.slice] at sized
    simp only [List.length_take] at sized
    omega

theorem Hidden.narrow (narrow : ¬(gsoSize = 0 ∨ 4 ≤ gsoSize)) :
    Hidden profile cipher (datagram gsoSize before i) (datagram gsoSize after i) :=
  ⟨fun _ starts => absurd (whole_of_starts starts) narrow, fun _ starts => absurd (whole_of_starts starts) narrow⟩

theorem Carries.wide (carried : Carries gsoSize payload i) (later : 0 < i) (whole : gsoSize = 0 ∨ 4 ≤ gsoSize) :
    4 ≤ gsoSize := by
  rcases carried with zero | ⟨segmented, _⟩ <;> omega

theorem typeWordBytes_injective (same : typeWordBytes one = typeWordBytes two) : one = two := by
  have values := congrArg Bytes.leNat same
  simp only [typeWordBytes, Bytes.leNat_leBytes] at values
  have bound (word : UInt32) : word.toNat < 256 ^ 4 := word.toNat_lt
  rw [Nat.mod_eq_of_lt (bound one), Nat.mod_eq_of_lt (bound two)] at values
  exact UInt32.toNat.inj values

section
variable {profile : ProfileValue} {cipher : Option CipherValue} {tail payload out : Bytes}

/-- The first datagram carries its wire word. -/
theorem take_applyCipher (kind : Fin 4) (present : 4 ≤ tail.length)
    (covers : ∀ held, cipher = some held → 4 ≤ (held.payloadTarget payloadLen).getD 0) :
    (applyCipher cipher payloadLen
      (tail.store 0 (typeWordBytes (profile.mixedFromKind kind)))).take 4 = wireWord profile cipher kind := by
  have sized := length_typeWordBytes (profile.mixedFromKind kind)
  have stored (i : Nat) (inside : i < 4) : (tail.store 0 (typeWordBytes (profile.mixedFromKind kind)))[i]? =
      (typeWordBytes (profile.mixedFromKind kind))[i]? := by
    rw [Bytes.getElem?_store (by omega), if_pos (by omega), Nat.sub_zero]
  apply List.ext_getElem?
  intro i
  rw [List.getElem?_take]
  by_cases inside : i < 4
  · rw [if_pos inside]
    cases cipher with
    | none => exact stored i inside
    | some held =>
      have reached : i < (held.payloadTarget payloadLen).getD 0 := by
        have wide := covers held rfl
        omega
      simp only [applyCipher, wireWord, Bytes.getElem?_mask, stored i inside, List.getElem?_mapIdx,
        Nat.zero_le, reached, and_self, if_true]
  · rw [if_neg inside]
    have wide : (wireWord profile cipher kind).length = 4 := by
      cases cipher with
      | none => exact sized
      | some held => rw [wireWord, List.length_mapIdx, sized]
    exact (List.getElem?_eq_none (by omega)).symm

/-- Behind the first word only the cipher acts. -/
theorem getElem?_behind_word {word : Bytes} (sized : word.length = 4) (present : 4 ≤ tail.length)
    (beyond : 4 ≤ i) : ((applyCipher cipher payloadLen (tail.store 0 word)).take payloadLen)[i]? =
      (applyCipher cipher payloadLen (tail.take payloadLen))[i]? := by
  have stored : (tail.store 0 word)[i]? = tail[i]? := by
    rw [Bytes.getElem?_store (by omega), if_neg (by omega)]
  cases cipher with
  | none => simp only [applyCipher, List.getElem?_take, stored]
  | some held =>
    simp only [applyCipher, List.getElem?_take, Bytes.getElem?_mask, stored]
    split <;> rfl

theorem datagram_behind_word {other : Bytes} (same : ∀ i, 4 ≤ i → payload[i]? = other[i]?)
    (later : 0 < i) (wide : 4 ≤ gsoSize) : datagram gsoSize payload i = datagram gsoSize other i := by
  have start : 4 ≤ i * gsoSize := Nat.le_trans wide (Nat.le_mul_of_pos_left gsoSize later)
  rw [datagram, datagram, if_neg (by omega), if_neg (by omega)]
  apply List.ext_getElem?
  intro j
  rw [Bytes.getElem?_slice, Bytes.getElem?_slice, same _ (by omega)]

theorem datagram_first (whole : gsoSize = 0 ∨ 4 ≤ gsoSize) :
    (datagram gsoSize payload 0).take 4 = payload.take 4 := by
  unfold datagram
  split
  · rfl
  · rw [Nat.zero_mul, Bytes.slice, List.drop_zero, List.take_take, Nat.min_eq_left (by omega)]

end

/-- What one run makes of a payload: its first word becomes the wire word of its
type, and behind it only the cipher acts. -/
structure Emission (profile : ProfileValue) (cipher : Option CipherValue) (gsoSize payloadLen : Nat)
    (kind : Fin 4) (before after : Bytes) : Prop where
  input : before.take 4 = standardWord kind
  first : after.take 4 = wireWord profile cipher kind
  later : ∀ i, 0 < i → 4 ≤ gsoSize →
    datagram gsoSize after i = datagram gsoSize (applyCipher cipher payloadLen before) i
  foreign : ∀ slot other, typeWordBytes (profile.mixedFromKind slot) ≠ standardWord other

namespace Emission
variable {profile : ProfileValue} {cipher : Option CipherValue} {before after : Bytes}

theorem obfuscatable (emission : Emission profile cipher gsoSize payloadLen kind before after)
    (obfuscated : Obfuscated profile cipher gsoSize before after) :
    Obfuscatable profile cipher gsoSize payloadLen before := by
  cases cipher with
  | none =>
    intro i slot positive carried starts
    -- a later datagram keeps its standard word
    have wide := carried.wide positive (whole_of_starts starts)
    refine (obfuscated i carried).2 slot ?_
    rw [emission.later i positive wide, applyCipher, starts]
  | some held =>
    refine ⟨fun slot other starts => ?_, fun i positive carried => ?_⟩
    · obtain ⟨wire, mixed⟩ := obfuscated 0 (.inl rfl)
      rw [← wire slot starts]
      exact mixed other
    · by_cases whole : gsoSize = 0 ∨ 4 ≤ gsoSize
      · rw [← emission.later i positive (carried.wide positive whole)]
        exact obfuscated i carried
      · exact .narrow whole

theorem obfuscated (emission : Emission profile cipher gsoSize payloadLen kind before after)
    (obfuscatable : Obfuscatable profile cipher gsoSize payloadLen before) :
    Obfuscated profile cipher gsoSize before after := by
  intro i carried
  by_cases whole : gsoSize = 0 ∨ 4 ≤ gsoSize
  case neg => exact .narrow whole
  rcases Nat.eq_zero_or_pos i with rfl | positive
  · have input : (datagram gsoSize before 0).take 4 = standardWord kind := by
      rw [datagram_first whole, emission.input]
    rw [Hidden, input, datagram_first whole, emission.first]
    refine ⟨fun slot same => by rw [standardWord_injective _ _ same], fun other => ?_⟩
    cases cipher with
    | none => exact emission.foreign kind other
    | some held => exact obfuscatable.1 kind other input
  · rw [emission.later i positive (carried.wide positive whole)]
    cases cipher with
    | none =>
      have plain (slot : Fin 4) := obfuscatable i slot positive carried
      exact ⟨fun slot starts => absurd starts (plain slot), plain⟩
    | some held => exact obfuscatable.2 i positive carried

end Emission

theorem Rewritten.emission {info : PacketInfo} {before after : Skb} (long : 4 ≤ info.payloadLen)
    (typed : (before.behind info.payloadOff).take 4 = standardWord kind)
    (foreign : ∀ slot other, typeWordBytes (profile.mixedFromKind slot) ≠ standardWord other)
    (rewritten : Rewritten maps generation info rule (profile.mixedFromKind kind) before after) :
    Emission profile (maps.lookupCipher rule.cipherId generation) before.gsoSize info.payloadLen kind
      (payloadOf before info) (payloadOf after info) := by
  have present : 4 ≤ (before.behind info.payloadOff).length := by
    have fits := rewritten.present
    rw [Skb.behind, List.length_drop]
    omega
  refine ⟨?_, ?_, ?_, foreign⟩
  · rw [payloadOf, Bytes.slice, List.take_take, Nat.min_eq_left long]
    exact typed
  · rw [payloadOf, Bytes.slice, List.take_take, Nat.min_eq_left long, ← Skb.behind, rewritten.payload]
    exact take_applyCipher kind present rewritten.covers
  · intro i positive wide
    apply datagram_behind_word _ positive wide
    intro j beyond
    rw [payloadOf, Bytes.slice, ← Skb.behind, rewritten.payload]
    exact getElem?_behind_word (length_typeWordBytes _) present beyond

/-- A profile of the state that was compiled without passthrough. -/
def Strict (profile : Control.ProfileState) : Prop :=
  ∃ cfg compiled, cfg.allowPassthrough = false ∧ Control.Profile.compile profile.name cfg = .ok compiled ∧
    profile.standardToMixed = compiled.standardToMixed

theorem Strict.foreign {profile : Control.ProfileState} (strict : Strict profile) (slot other : Fin 4) :
    typeWordBytes (profile.standardToMixed slot) ≠ standardWord other := by
  obtain ⟨cfg, compiled, disallowed, done, same⟩ := strict
  intro equal
  have mixed := (Control.Profile.compile_ok done).2.2 disallowed slot
  rw [← same, typeWordBytes_injective equal] at mixed
  exact Bool.false_ne_true (mixed.symm.trans (Control.Profile.isStandard_standard other))

end WgMix.Bpf.Tc
