/-
# The load on core 1 (`ble_transfer_powerbank/powerbank_load.c`)

The second core of a beacon computes without end, to keep a load on its power bank.  The loop works
on two words; if they ever stopped changing there would be nothing left to compute.

The result: one round can be undone, so the words go round a cycle through their first values.  They
change in every round and are never both zero.
-/
import GettingThere.Xorshift
import Mathlib.Data.Finite.Prod

open Xorshift

namespace PowerbankLoad

/-- The words `a` and `b` of `powerbank_load_core1`. -/
structure Words where
  a : UInt32
  b : UInt32
  deriving DecidableEq, Repr

/-- The words before the loop. -/
def Words.start : Words := ⟨0x12345678, 0x9e3779b9⟩

/-- A round of the loop of `powerbank_load_core1`. -/
def round (s : Words) : Words :=
  let a := s.a
  let b := s.b
  let a := a ^^^ (a <<< 13)
  let a := a ^^^ (a >>> 17)
  let a := a ^^^ (a <<< 5)
  let b := (b + a) * 33
  let a := a ^^^ b
  ⟨a, b⟩

/-- The words after so many rounds. -/
def words (n : ℕ) : Words := round^[n] .start

/-! ## A round can be undone -/

theorem xor_13_injective : Function.Injective fun a : UInt32 => a ^^^ (a <<< 13) :=
  fun _ _ h => UInt32.toBitVec_inj.mp
    (xor_shiftLeft_injective (k := 13) (by decide) (congrArg UInt32.toBitVec h))

theorem xor_17_injective : Function.Injective fun a : UInt32 => a ^^^ (a >>> 17) :=
  fun _ _ h => UInt32.toBitVec_inj.mp
    (xor_shiftRight_injective (k := 17) (by decide) (congrArg UInt32.toBitVec h))

theorem xor_5_injective : Function.Injective fun a : UInt32 => a ^^^ (a <<< 5) :=
  fun _ _ h => UInt32.toBitVec_inj.mp
    (xor_shiftLeft_injective (k := 5) (by decide) (congrArg UInt32.toBitVec h))

/-- The three shifts of a round. -/
def mix (a : UInt32) : UInt32 :=
  let a := a ^^^ (a <<< 13)
  let a := a ^^^ (a >>> 17)
  a ^^^ (a <<< 5)

theorem mix_injective : Function.Injective mix :=
  xor_5_injective.comp (xor_17_injective.comp xor_13_injective)

theorem round_eq (s : Words) :
    round s = ⟨mix s.a ^^^ (s.b + mix s.a) * 33, (s.b + mix s.a) * 33⟩ := rfl

/-- 33 is odd. -/
theorem mul_33_injective : Function.Injective fun b : UInt32 => b * 33 := by
  have hinverse (b : UInt32) : b * 33 * 1041204193 = b := by
    rw [UInt32.mul_assoc, show (33 * 1041204193 : UInt32) = 1 from by decide, UInt32.mul_one]
  intro b b' h
  rw [← hinverse b, ← hinverse b']
  exact congrArg (· * 1041204193) h

theorem round_injective : Function.Injective round := by
  rintro ⟨a, b⟩ ⟨a', b'⟩ h
  rw [round_eq, round_eq, Words.mk.injEq] at h
  obtain ⟨ha, hb⟩ := h
  rw [hb] at ha
  have hmix : mix a = mix a' := UInt32.xor_left_inj _ |>.mp ha
  have hsum : b + mix a = b' + mix a' := mul_33_injective hb
  rw [hmix] at hsum
  rw [mix_injective hmix, (UInt32.add_left_inj _).mp hsum]

/-! ## The loop -/

instance : Finite Words :=
  Finite.of_injective (fun s : Words => (s.a.toFin, s.b.toFin)) (by
    rintro ⟨a, b⟩ ⟨a', b'⟩ h
    obtain ⟨ha, hb⟩ := Prod.mk.inj h
    exact congrArg₂ Words.mk (UInt32.toFin_inj.mp ha) (UInt32.toFin_inj.mp hb))

/-- The load never stands still: the words change in every round, they are never both zero, and
they come back to every value they had. -/
theorem words_cycle :
    (∀ n, words (n + 1) ≠ words n ∧ words n ≠ ⟨0, 0⟩) ∧ ∃ p > 0, ∀ n, words (n + p) = words n := by
  refine ⟨fun n => ⟨?_, ?_⟩, exists_period round_injective _⟩
  · exact iterate_succ_ne round_injective (by decide) n
  · exact iterate_ne round_injective (by decide) (by decide) n

end PowerbankLoad
