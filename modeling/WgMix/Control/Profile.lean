import Mathlib.Data.List.Nodup
import WgMix.Control.State
import WgMix.Foundation.Guard

/-! Compiling a configured profile into its type-word table. -/
namespace WgMix.Control

structure Profile where
  preset : String := ""
  typeWord : Fin 4 → UInt32 := fun _ => 0
  indexMode : String := ""
  allowPassthrough : Bool := false

inductive ProfileError where
  | nameRequired
  | indexMode (name mode : String)
  | unsupportedPreset (name preset : String)
  | zeroTypeWord (name : String) (slot : Fin 4)
  | duplicated (name : String) (word : UInt32)
  | standard (name : String) (word : UInt32)
  deriving DecidableEq, Repr

structure Compiled where
  name : String
  standardToMixed : Fin 4 → UInt32
  mixedToStandard : Fin 4 → UInt32

namespace Profile

/-- Initiation, response, cookie reply and transport data. -/
def standard (slot : Fin 4) : UInt32 := UInt32.ofNat (slot.val + 1)

def wireguardMixWireValuesV1 : Fin 4 → UInt32
  | 0 => 0xf658c2e6
  | 1 => 0x0686b1d0
  | 2 => 0x075ae5e0
  | 3 => 0x13dff06b

def isStandard (word : UInt32) : Bool := (List.finRange 4).any fun slot => word = standard slot

def mixedValues (name : String) (cfg : Profile) : Except ProfileError (Fin 4 → UInt32) :=
  if cfg.preset ≠ "" then
    if cfg.preset = "wireguard-mix-wire-values-v1" then .ok wireguardMixWireValuesV1
    else .error (.unsupportedPreset name cfg.preset)
  else
    match (List.finRange 4).find? fun slot => cfg.typeWord slot = 0 with
    | some slot => .error (.zeroTypeWord name slot)
    | none => .ok cfg.typeWord

/-- One pass over the values; `seen` holds those already visited. -/
def validateMixed (name : String) (allowPassthrough : Bool) :
    (seen rest : List UInt32) → Except ProfileError Unit
  | _, [] => .ok ()
  | seen, word :: rest =>
    if word ∈ seen then .error (.duplicated name word)
    else if allowPassthrough = false ∧ isStandard word then .error (.standard name word)
    else validateMixed name allowPassthrough (word :: seen) rest

def compile (name : String) (cfg : Profile) : Except ProfileError Compiled :=
  let indexMode := if cfg.indexMode = "" then "none" else cfg.indexMode
  if name = "" then .error .nameRequired
  else if indexMode ≠ "none" then .error (.indexMode name indexMode)
  else
    match mixedValues name cfg with
    | .error cause => .error cause
    | .ok mixed =>
      match validateMixed name cfg.allowPassthrough [] ((List.finRange 4).map mixed) with
      | .error cause => .error cause
      | .ok () => .ok { name, standardToMixed := mixed, mixedToStandard := standard }

theorem isStandard_standard : ∀ slot, isStandard (standard slot) = true := by decide

theorem validateMixed_ok {passthrough : Bool} {seen words : List UInt32}
    (valid : validateMixed name passthrough seen words = .ok ()) :
    (∀ word ∈ words, word ∉ seen) ∧ words.Nodup ∧
      (passthrough = false → ∀ word ∈ words, isStandard word = false) := by
  induction words generalizing seen with
  | nil => simp
  | cons word rest ih =>
    obtain ⟨fresh, valid⟩ := guard_ok valid
    obtain ⟨foreign, valid⟩ := guard_ok valid
    obtain ⟨apart, distinct, mixed⟩ := ih valid
    refine ⟨?_, ?_, ?_⟩
    · rintro other (_ | ⟨_, member⟩)
      · exact fresh
      · exact fun earlier => apart other member (List.mem_cons_of_mem _ earlier)
    · exact List.nodup_cons.mpr ⟨fun again => apart word again List.mem_cons_self, distinct⟩
    · rintro strict other (_ | ⟨_, member⟩)
      · simpa [strict] using foreign
      · exact mixed strict other member

/-- The words of a compiled profile are distinct, and without passthrough none
is a standard type word. -/
theorem compile_ok {cfg : Profile} (done : compile name cfg = .ok compiled) :
    Function.Injective compiled.standardToMixed ∧ compiled.mixedToStandard = standard ∧
      (cfg.allowPassthrough = false → ∀ slot, isStandard (compiled.standardToMixed slot) = false) := by
  obtain ⟨_, done⟩ := guard_ok done
  obtain ⟨_, done⟩ := guard_ok done
  cases values : mixedValues name cfg with
  | error cause => simp [values] at done
  | ok mixed =>
    simp only [values] at done
    cases checked : validateMixed name cfg.allowPassthrough [] ((List.finRange 4).map mixed) with
    | error cause => simp [checked] at done
    | ok _ =>
      simp only [checked, Except.ok.injEq] at done
      subst done
      obtain ⟨_, distinct, foreign⟩ := validateMixed_ok checked
      refine ⟨?_, rfl, ?_⟩
      · intro one two same
        exact List.inj_on_of_nodup_map distinct (List.mem_finRange _) (List.mem_finRange _) same
      · intro strict slot
        exact foreign strict _ (List.mem_map_of_mem (List.mem_finRange slot))

end Profile
end WgMix.Control
