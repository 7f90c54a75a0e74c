import Mathlib.Data.Fintype.Basic
import Mathlib.Tactic.FinCases
import WgMix.Control.Profile
import WgMix.Foundation.Text

/-! Profile tokens: a prefix, the encoded payload and its checksum, separated by dots. The token carries the four
type words and the index mode of a profile, and neither its preset nor whether it may pass standard words through. -/
namespace WgMix.Control

structure TokenPayload where
  version : Int
  typeWord : Fin 4 → UInt32
  indexMode : String

/-- JSON of the payload and unpadded URL base64, as far as the tokens rely on them. -/
structure TokenCodec where
  marshal : TokenPayload → Bytes
  unmarshal : Bytes → Option TokenPayload
  encode64 : Bytes → Bytes
  decode64 : Bytes → Option Bytes
  unmarshal_marshal : ∀ typeWord, unmarshal (marshal ⟨1, typeWord, "none"⟩) = some ⟨1, typeWord, "none"⟩
  decode_encode : ∀ data, decode64 (encode64 data) = some data
  dotless : ∀ data, 46 ∉ encode64 data

inductive TokenError where
  | format
  | base64
  | checksum
  | parse
  | version (found : Int)
  | profile (cause : ProfileError)
  deriving DecidableEq, Repr

/-- One byte of the IEEE CRC-32, least significant bit first. -/
def crcByte (crc : UInt32) (byte : UInt8) : UInt32 :=
  (List.range 8).foldl (fun crc _ => if crc &&& 1 = 1 then (crc >>> 1) ^^^ 0xedb88320 else crc >>> 1)
    (crc ^^^ byte.toUInt32)

def checksumIEEE (data : Bytes) : UInt32 := data.foldl crcByte 0xffffffff ^^^ 0xffffffff

def hexDigit (value : Nat) : UInt8 := if value < 10 then UInt8.ofNat (48 + value) else UInt8.ofNat (87 + value)

/-- The format `%08x`. -/
def hex8 (value : UInt32) : Bytes :=
  [7, 6, 5, 4, 3, 2, 1, 0].map fun place => hexDigit (value.toNat / 16 ^ place % 16)

/-- The bytes of `wgmix1`. -/
def tokenPrefix : Bytes := [119, 103, 109, 105, 120, 49]

def splitToken (token : Bytes) : List Bytes := token.splitOn 46

def encodeToken (codec : TokenCodec) (cfg : Profile) : Except TokenError Bytes :=
  match cfg.compile "token", cfg.mixedValues "token" with
  | .error cause, _ => .error (.profile cause)
  | .ok _, .error cause => .error (.profile cause)
  | .ok _, .ok values =>
    let data := codec.marshal ⟨1, values, "none"⟩
    .ok (tokenPrefix ++ [46] ++ codec.encode64 data ++ [46] ++ hex8 (checksumIEEE data))

def decodeTokenParts (codec : TokenCodec) (encoded checksum : Bytes) : Except TokenError Profile :=
  match codec.decode64 encoded with
  | none => .error .base64
  | some data =>
    if checksum ≠ hex8 (checksumIEEE data) then .error .checksum
    else
      match codec.unmarshal data with
      | none => .error .parse
      | some payload =>
        if payload.version ≠ 1 then .error (.version payload.version)
        else
          let indexMode := if payload.indexMode = "" then "none" else payload.indexMode
          let cfg : Profile := { typeWord := payload.typeWord, indexMode }
          match cfg.compile "token" with
          | .error cause => .error (.profile cause)
          | .ok _ => .ok cfg

def decodeToken (codec : TokenCodec) (token : Bytes) : Except TokenError Profile :=
  match splitToken token with
  | [label, encoded, checksum] =>
    if label ≠ tokenPrefix then .error .format else decodeTokenParts codec encoded checksum
  | _ => .error .format

namespace Profile

/-- What compiling asks of a profile with these values, under whatever name. -/
structure Compiles (cfg : Profile) (mixed : Fin 4 → UInt32) : Prop where
  index : cfg.indexMode = "" ∨ cfg.indexMode = "none"
  values : ∀ name, cfg.mixedValues name = .ok mixed
  distinct : ((List.finRange 4).map mixed).Nodup
  foreign : cfg.allowPassthrough = false → ∀ slot, isStandard (mixed slot) = false

theorem mixedValues_ok {cfg : Profile} (values : cfg.mixedValues name = .ok mixed) :
    (∀ other, cfg.mixedValues other = .ok mixed) ∧ ∀ slot, mixed slot ≠ 0 := by
  by_cases set : cfg.preset ≠ ""
  · by_cases known : cfg.preset = "wireguard-mix-wire-values-v1"
    · simp only [mixedValues, if_pos set, if_pos known, Except.ok.injEq] at values ⊢
      subst values
      exact ⟨fun _ => rfl, by decide⟩
    · simp only [mixedValues, if_pos set, if_neg known, reduceCtorEq] at values
  · cases found : (List.finRange 4).find? fun slot => cfg.typeWord slot = 0 with
    | some slot => simp only [mixedValues, if_neg set, found, reduceCtorEq] at values
    | none =>
      simp only [mixedValues, if_neg set, found, Except.ok.injEq] at values ⊢
      subst values
      refine ⟨fun _ => rfl, fun slot zero => ?_⟩
      have tested := List.find?_eq_none.mp found slot (List.mem_finRange slot)
      exact tested (decide_eq_true zero)

theorem mixedValues_plain {cfg : Profile} (plain : cfg.preset = "") (values : cfg.mixedValues name = .ok mixed) :
    cfg.typeWord = mixed := by
  rw [mixedValues, if_neg fun set => set plain] at values
  split at values
  · cases values
  · exact Except.ok.inj values

theorem validateMixed_passes {passthrough : Bool} {seen words : List UInt32} (apart : ∀ word ∈ words, word ∉ seen)
    (distinct : words.Nodup) (foreign : passthrough = false → ∀ word ∈ words, isStandard word = false) :
    validateMixed name passthrough seen words = .ok () := by
  induction words generalizing seen with
  | nil => rfl
  | cons word rest ih =>
    obtain ⟨fresh, distinct⟩ := List.nodup_cons.mp distinct
    rw [validateMixed, if_neg (apart word List.mem_cons_self), if_neg]
    · refine ih ?_ distinct fun strict other member => foreign strict other (List.mem_cons_of_mem _ member)
      intro other member earlier
      rcases List.mem_cons.mp earlier with rfl | earlier
      · exact fresh member
      · exact apart other (List.mem_cons_of_mem _ member) earlier
    · rintro ⟨strict, standard⟩
      exact Bool.false_ne_true ((foreign strict word List.mem_cons_self).symm.trans standard)

theorem compile_iff (named : name ≠ "") {cfg : Profile} :
    cfg.compile name = .ok compiled ↔ ∃ mixed, cfg.Compiles mixed ∧ compiled = ⟨name, mixed, standard⟩ := by
  constructor
  · intro done
    obtain ⟨_, foreign, strict⟩ := compile_ok done
    obtain ⟨_, done⟩ := guard_ok done
    obtain ⟨index, done⟩ := guard_ok done
    cases values : mixedValues name cfg with
    | error cause => simp [values] at done
    | ok mixed =>
      simp only [values] at done
      split at done
      · cases done
      · rename_i checked
        cases done
        refine ⟨mixed, ⟨?_, (mixedValues_ok values).1, (validateMixed_ok checked).2.1, strict⟩, rfl⟩
        by_cases empty : cfg.indexMode = ""
        · exact .inl empty
        · rw [if_neg empty] at index
          exact .inr (Decidable.not_not.mp index)
  · rintro ⟨mixed, compiles, rfl⟩
    have mode : ¬ (if cfg.indexMode = "" then "none" else cfg.indexMode) ≠ "none" := by
      rcases compiles.index with empty | none <;> simp [*]
    have checked : validateMixed name cfg.allowPassthrough [] ((List.finRange 4).map mixed) = .ok () := by
      refine validateMixed_passes (fun _ _ => List.not_mem_nil) compiles.distinct fun strict word member => ?_
      obtain ⟨slot, _, rfl⟩ := List.mem_map.mp member
      exact compiles.foreign strict slot
    simp only [compile, if_neg named, if_neg mode, compiles.values name, checked]

/-- The profile a token carries. -/
def carried (mixed : Fin 4 → UInt32) : Profile := { typeWord := mixed, indexMode := "none" }

theorem carried_values (nonzero : ∀ slot, mixed slot ≠ 0) (name : String) :
    (carried mixed).mixedValues name = .ok mixed := by
  have none : (List.finRange 4).find? (fun slot => (carried mixed).typeWord slot = 0) = none :=
    List.find?_eq_none.mpr fun slot _ zero => nonzero slot (of_decide_eq_true zero)
  rw [mixedValues, if_neg fun set => set rfl, none]
  rfl

/-- Without the original's options, a carried profile compiles just when it has no standard word. -/
theorem carried_compiles (compiles : Compiles cfg mixed) :
    (carried mixed).Compiles mixed ↔ ∀ slot, isStandard (mixed slot) = false := by
  constructor
  · intro carried
    exact carried.foreign rfl
  · intro foreign
    exact ⟨.inr rfl, carried_values (mixedValues_ok (compiles.values "token")).2, compiles.distinct, fun _ => foreign⟩

end Profile

theorem hexDigit_dotless : ∀ value < 16, 46 ≠ hexDigit value := by decide

theorem splitToken_parts (codec : TokenCodec) (data : Bytes) (sum : UInt32) :
    splitToken (tokenPrefix ++ [46] ++ codec.encode64 data ++ [46] ++ hex8 sum) =
      [tokenPrefix, codec.encode64 data, hex8 sum] := by
  have joined : tokenPrefix ++ [46] ++ codec.encode64 data ++ [46] ++ hex8 sum =
      [46].intercalate [tokenPrefix, codec.encode64 data, hex8 sum] := by
    simp [List.intercalate]
  rw [splitToken, joined]
  apply List.splitOn_intercalate
  · intro part member
    rcases List.mem_cons.mp member with rfl | member
    · decide
    rcases List.mem_cons.mp member with rfl | member
    · exact codec.dotless data
    obtain rfl := List.mem_singleton.mp member
    intro dot
    obtain ⟨place, _, digit⟩ := List.mem_map.mp dot
    exact hexDigit_dotless _ (Nat.mod_lt _ (by decide)) digit.symm
  · exact List.cons_ne_nil _ _

/-- The token that carries these values. -/
def tokenOf (codec : TokenCodec) (mixed : Fin 4 → UInt32) : Bytes :=
  let data := codec.marshal ⟨1, mixed, "none"⟩
  tokenPrefix ++ [46] ++ codec.encode64 data ++ [46] ++ hex8 (checksumIEEE data)

theorem encodeToken_iff (codec : TokenCodec) (cfg : Profile) :
    encodeToken codec cfg = .ok token ↔ ∃ mixed, cfg.Compiles mixed ∧ token = tokenOf codec mixed := by
  have named : "token" ≠ "" := by decide
  constructor
  · intro encoded
    rw [encodeToken] at encoded
    split at encoded
    · cases encoded
    · cases encoded
    · rename_i values done same
      obtain ⟨mixed, compiles, _⟩ := (Profile.compile_iff named).mp done
      cases same.symm.trans (compiles.values "token")
      exact ⟨values, compiles, (Except.ok.inj encoded).symm⟩
  · rintro ⟨mixed, compiles, rfl⟩
    simp only [encodeToken, (Profile.compile_iff named).mpr ⟨mixed, compiles, rfl⟩, compiles.values, tokenOf]

theorem decodeToken_of (codec : TokenCodec) (mixed : Fin 4 → UInt32) :
    decodeToken codec (tokenOf codec mixed) =
      match (Profile.carried mixed).compile "token" with
      | .error cause => .error (.profile cause)
      | .ok _ => .ok (Profile.carried mixed) := by
  simp only [decodeToken, tokenOf, splitToken_parts, decodeTokenParts, codec.decode_encode, codec.unmarshal_marshal,
    ne_eq, not_true, if_false]
  rfl

theorem decodeToken_carried {codec : TokenCodec} (decoded : decodeToken codec token = .ok cfg) :
    ∃ mixed, cfg.Compiles mixed ∧ cfg = Profile.carried mixed := by
  rw [decodeToken] at decoded
  split at decoded
  · obtain ⟨_, decoded⟩ := guard_ok decoded
    rw [decodeTokenParts] at decoded
    split at decoded
    · cases decoded
    obtain ⟨_, decoded⟩ := guard_ok decoded
    split at decoded
    · cases decoded
    rename_i payload _
    obtain ⟨_, decoded⟩ := guard_ok decoded
    dsimp only at decoded
    split at decoded
    · cases decoded
    rename_i done
    cases decoded
    obtain ⟨mixed, compiles, _⟩ := (Profile.compile_iff (by decide)).mp done
    refine ⟨mixed, compiles, ?_⟩
    have mode : (if payload.indexMode = "" then "none" else payload.indexMode) = "none" := by
      rcases compiles.index with empty | none
      · dsimp only at empty
        split at empty
        · simp at empty
        · contradiction
      · exact none
    have words : payload.typeWord = mixed := Profile.mixedValues_plain rfl (compiles.values "token")
    rw [mode, words, Profile.carried]
  · cases decoded

/-- The token decodes, and the decoded profile compiles to the tables of the original. -/
def RoundTrips (codec : TokenCodec) (cfg : Profile) (token : Bytes) : Prop :=
  ∃ decoded, decodeToken codec token = .ok decoded ∧
    ∀ name ≠ "", ∃ original again, cfg.compile name = .ok original ∧ decoded.compile name = .ok again ∧
      again.standardToMixed = original.standardToMixed ∧ again.mixedToStandard = original.mixedToStandard

/-- None of the words a profile stands for is a standard type word. -/
def Profile.Foreign (cfg : Profile) : Prop :=
  ∀ mixed, cfg.mixedValues "token" = .ok mixed → ∀ slot, isStandard (mixed slot) = false

theorem roundTrips_iff (codec : TokenCodec) (encoded : encodeToken codec cfg = .ok token) :
    RoundTrips codec cfg token ↔ cfg.Foreign := by
  obtain ⟨mixed, compiles, rfl⟩ := (encodeToken_iff codec cfg).mp encoded
  have named : "token" ≠ "" := by decide
  constructor
  · rintro ⟨decoded, accepted, _⟩ values found
    cases found.symm.trans (compiles.values "token")
    rw [decodeToken_of] at accepted
    split at accepted
    · cases accepted
    · rename_i done
      obtain ⟨again, carried, _⟩ := (Profile.compile_iff named).mp done
      obtain rfl : mixed = again := Profile.mixedValues_plain rfl (carried.values "token")
      exact carried.foreign rfl
  · intro foreign
    have carried := (Profile.carried_compiles compiles).mpr (foreign mixed (compiles.values "token"))
    refine ⟨Profile.carried mixed, ?_, fun name set => ?_⟩
    · rw [decodeToken_of, (Profile.compile_iff named).mpr ⟨mixed, carried, rfl⟩]
    · exact ⟨_, _, (Profile.compile_iff set).mpr ⟨mixed, compiles, rfl⟩,
        (Profile.compile_iff set).mpr ⟨mixed, carried, rfl⟩, rfl, rfl⟩

theorem profile_token_round_trip (codec : TokenCodec) :
    (∀ cfg token, encodeToken codec cfg = .ok token → (RoundTrips codec cfg token ↔ cfg.Foreign)) ∧
    ∀ token cfg, decodeToken codec token = .ok cfg →
      ∃ again decoded, encodeToken codec cfg = .ok again ∧ decodeToken codec again = .ok decoded ∧
        decoded.typeWord = cfg.typeWord := by
  refine ⟨fun cfg token encoded => roundTrips_iff codec encoded, fun token cfg decoded => ?_⟩
  obtain ⟨mixed, compiles, rfl⟩ := decodeToken_carried decoded
  have done := (Profile.compile_iff (by decide : "token" ≠ "")).mpr ⟨mixed, compiles, rfl⟩
  refine ⟨_, Profile.carried mixed, (encodeToken_iff codec _).mpr ⟨mixed, compiles, rfl⟩, ?_, rfl⟩
  rw [decodeToken_of, done]

section Sample
open Text

def wordName : Fin 4 → String
  | 0 => "i"
  | 1 => "r"
  | 2 => "c"
  | 3 => "t"

def wordMember (slot : Fin 4) (word : UInt32) : Bytes :=
  ascii ("\"" ++ wordName slot ++ "\":") ++ decimal word.toNat

/-- The JSON text of a payload, cut at its commas. -/
def payloadMembers (payload : TokenPayload) : List Bytes :=
  [ascii ("\x7b\"v\":" ++ toString payload.version)] ++
    (List.finRange 4).map (fun slot => wordMember slot (payload.typeWord slot)) ++
    [ascii ("\"x\":\"" ++ payload.indexMode ++ "\"\x7d")]

theorem payloadMembers_commaless (member : part ∈ payloadMembers ⟨1, typeWord, "none"⟩) : 44 ∉ part := by
  have names : ∀ slot, 44 ∉ ascii ("\"" ++ wordName slot ++ "\":") := by decide +kernel
  have ends : 44 ∉ ascii ("\x7b\"v\":" ++ toString (1 : Int)) ∧ 44 ∉ ascii ("\"x\":\"" ++ "none" ++ "\"\x7d") := by
    decide +kernel
  rcases List.mem_append.mp member with member | member
  · rcases List.mem_append.mp member with member | member
    · rw [List.mem_singleton.mp member]
      exact ends.1
    · obtain ⟨slot, _, rfl⟩ := List.mem_map.mp member
      intro comma
      rcases List.mem_append.mp comma with name | digit
      · exact names slot name
      · exact absurd (decimal_digits digit) (by decide)
  · rw [List.mem_singleton.mp member]
    exact ends.2

/-- The JSON and base64 that the program writes; nothing else is read back. -/
def sampleTokenCodec : TokenCodec where
  marshal payload := [44].intercalate (payloadMembers payload)
  unmarshal data :=
    let word (slot : Fin 4) := readDecimal (((data.splitOn 44).getD (slot.val + 1) []).drop 4)
    let payload : TokenPayload := ⟨1, fun slot => UInt32.ofNat (word slot), "none"⟩
    if [44].intercalate (payloadMembers payload) = data then some payload else none
  encode64 := encode64
  decode64 := decode64
  unmarshal_marshal typeWord := by
    have word (slot : Fin 4) : UInt32.ofNat (readDecimal
        (((payloadMembers ⟨1, typeWord, "none"⟩).getD (slot.val + 1) []).drop 4)) = typeWord slot := by
      have here : (payloadMembers ⟨1, typeWord, "none"⟩).getD (slot.val + 1) [] = wordMember slot (typeWord slot) := by
        fin_cases slot <;> rfl
      have named : ∀ slot, (ascii ("\"" ++ wordName slot ++ "\":")).length = 4 := by decide +kernel
      rw [here, wordMember, List.drop_left' (named slot), readDecimal_decimal, UInt32.ofNat_toNat]
    have split := List.splitOn_intercalate 44 (fun _ member => payloadMembers_commaless member)
      (List.cons_ne_nil _ _ : payloadMembers ⟨1, typeWord, "none"⟩ ≠ [])
    simp only [split, word, if_true]
  decode_encode := decode64_encode64
  dotless _ := letters_dotless _ _

/-- Standard words that the configuration explicitly passes through. -/
def samplePassthrough : Profile := { typeWord := Profile.standard, allowPassthrough := true }

/-- The program prints a token for the profile and does not accept it. -/
theorem passthrough_token_rejected :
    Nonempty TokenCodec ∧ ∀ codec, ∃ token, encodeToken codec samplePassthrough = .ok token ∧
      decodeToken codec token = .error (.profile (.standard "token" 1)) := by
  refine ⟨⟨sampleTokenCodec⟩, fun codec => ⟨tokenOf codec Profile.standard, rfl, ?_⟩⟩
  rw [decodeToken_of]
  rfl

def samplePreset : Profile := { preset := "wireguard-mix-wire-values-v1", indexMode := "none" }

/-- The token of the preset stands for its values. -/
theorem preset_token_round_trips :
    let text := ascii
      "\x7b\"v\":1,\"i\":4133012198,\"r\":109490640,\"c\":123397600,\"t\":333443179,\"x\":\"none\"\x7d"
    let encoded := ascii
      "eyJ2IjoxLCJpIjo0MTMzMDEyMTk4LCJyIjoxMDk0OTA2NDAsImMiOjEyMzM5NzYwMCwidCI6MzMzNDQzMTc5LCJ4Ijoibm9uZSJ9"
    let token := tokenPrefix ++ [46] ++ encoded ++ [46] ++ hex8 (checksumIEEE text)
    encodeToken sampleTokenCodec samplePreset = .ok token ∧ RoundTrips sampleTokenCodec samplePreset token := by
  intro text encoded token
  have marshalled : sampleTokenCodec.marshal ⟨1, Profile.wireguardMixWireValuesV1, "none"⟩ = text := by decide +kernel
  have written : sampleTokenCodec.encode64 text = encoded := by decide +kernel
  have printed : encodeToken sampleTokenCodec samplePreset = .ok token := by
    change _ = Except.ok (tokenPrefix ++ [46] ++ encoded ++ [46] ++ hex8 (checksumIEEE text))
    rw [← written, ← marshalled]
    rfl
  refine ⟨printed, ((profile_token_round_trip sampleTokenCodec).1 samplePreset token printed).mpr ?_⟩
  rintro mixed ⟨⟩
  decide

end Sample

end WgMix.Control
