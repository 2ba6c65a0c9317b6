/-
# Packed words (`getting_there/packed_bits.h`: `packed_get`, `packed_put`)

Fields of a 32-bit word, each given by its shift and its width, and single bits given by masks.
`bit` is a bit of the word; the lemmas `bit_…` say what each function does to these bits, and
the ones about fields and masks follow: a field is read back, and fields and masks without a
common bit do not disturb each other.
-/
import GettingThere.BitArray

namespace PackedBits

/-- `FIELD_MAX`. -/
def fieldMax (bits : UInt32) : UInt32 := (1 <<< bits) - 1

/-- `packed_get`. -/
def packedGet (word shift bits : UInt32) : UInt32 := (word >>> shift) &&& fieldMax bits

/-- `packed_put`. -/
def packedPut (word shift bits value : UInt32) : UInt32 :=
  let mask := fieldMax bits <<< shift
  (word &&& ~~~mask) ||| ((value <<< shift) &&& mask)

/-- `packed_set_bits`. -/
def packedSetBits (word mask : UInt32) : UInt32 := word ||| mask

/-- `packed_clear_bits`. -/
def packedClearBits (word mask : UInt32) : UInt32 := word &&& ~~~mask

/-! ## Bits -/

/-- A bit of a word. -/
def bit (word : UInt32) (k : ℕ) : Bool := word.toBitVec.getLsbD k

/-- A word is its bits. -/
theorem eq_of_bit {word word' : UInt32} (h : ∀ k < 32, bit word k = bit word' k) : word = word' :=
  UInt32.toBitVec_inj.mp (BitVec.eq_of_getLsbD_eq h)

theorem bit_of_le (word : UInt32) {k : ℕ} (hk : 32 ≤ k) : bit word k = false :=
  BitVec.getLsbD_of_ge _ _ hk

theorem bit_and (a b : UInt32) (k : ℕ) : bit (a &&& b) k = (bit a k && bit b k) := by
  unfold bit
  rw [UInt32.toBitVec_and, BitVec.getLsbD_and]

theorem bit_or (a b : UInt32) (k : ℕ) : bit (a ||| b) k = (bit a k || bit b k) := by
  unfold bit
  rw [UInt32.toBitVec_or, BitVec.getLsbD_or]

theorem bit_not (a : UInt32) {k : ℕ} (hk : k < 32) : bit (~~~a) k = !bit a k := by
  unfold bit
  rw [UInt32.toBitVec_not, BitVec.getLsbD_not, decide_eq_true hk, Bool.true_and]

theorem bit_zero (k : ℕ) : bit 0 k = false := BitVec.getLsbD_zero

theorem bit_shiftLeft (a : UInt32) {shift : UInt32} (hshift : shift.toNat < 32) {k : ℕ}
    (hk : k < 32) :
    bit (a <<< shift) k = (decide (shift.toNat ≤ k) && bit a (k - shift.toNat)) := by
  have hword := word_shiftLeft a hshift
  rw [UInt32.ofNat_toNat] at hword
  unfold bit
  rw [hword, BitVec.getLsbD_shiftLeft, decide_eq_true hk, Bool.true_and]
  by_cases hle : shift.toNat ≤ k
  · rw [decide_eq_true hle, decide_eq_false (by omega), Bool.not_false]
  · rw [decide_eq_false hle, decide_eq_true (by omega), Bool.not_true]

theorem bit_shiftRight (a : UInt32) {shift : UInt32} (hshift : shift.toNat < 32) (k : ℕ) :
    bit (a >>> shift) k = bit a (shift.toNat + k) := by
  have hword := word_shiftRight a hshift
  rw [UInt32.ofNat_toNat] at hword
  unfold bit
  rw [hword, BitVec.getLsbD_ushiftRight]

/-- A mask of the lowest bits. -/
theorem bit_fieldMax {bits : UInt32} (hbits : bits.toNat < 32) (k : ℕ) :
    bit (fieldMax bits) k = decide (k < bits.toNat) := by
  have hone : ((1 : UInt32) <<< bits).toNat = 2 ^ bits.toNat := by
    have hunit : UInt32.toNat 1 = 1 := rfl
    rw [UInt32.toNat_shiftLeft, Nat.mod_eq_of_lt hbits, hunit, Nat.one_shiftLeft]
    exact Nat.mod_eq_of_lt (Nat.pow_lt_pow_right (by decide) hbits)
  have hpos := Nat.two_pow_pos bits.toNat
  have hmax : (fieldMax bits).toNat = 2 ^ bits.toNat - 1 := by
    unfold fieldMax
    rw [UInt32.toNat_sub_of_le _ _ (by rw [UInt32.le_iff_toNat_le, hone]; exact hpos), hone]
    rfl
  show (fieldMax bits).toNat.testBit k = _
  rw [hmax, Nat.testBit_two_pow_sub_one]

/-! ## Fields -/

/-- The bit belongs to the field. -/
def InField (shift bits : UInt32) (k : ℕ) : Prop :=
  shift.toNat ≤ k ∧ k < shift.toNat + bits.toNat

instance (shift bits : UInt32) (k : ℕ) : Decidable (InField shift bits k) := by
  unfold InField; infer_instance

/-- The field is a proper part of the word. -/
def Proper (shift bits : UInt32) : Prop :=
  shift.toNat < 32 ∧ bits.toNat < 32 ∧ shift.toNat + bits.toNat ≤ 32

instance (shift bits : UInt32) : Decidable (Proper shift bits) := by
  unfold Proper; infer_instance

section Fields

variable {shift bits : UInt32}

/-- **A put** changes the bits of its field. -/
theorem bit_packedPut (word value : UInt32) (h : Proper shift bits) {k : ℕ} (hk : k < 32) :
    bit (packedPut word shift bits value) k =
      if InField shift bits k then bit value (k - shift.toNat) else bit word k := by
  obtain ⟨hshift, hbits, -⟩ := h
  have hmask : bit (fieldMax bits <<< shift) k = decide (InField shift bits k) := by
    rw [bit_shiftLeft _ hshift hk, bit_fieldMax hbits, ← Bool.decide_and, decide_eq_decide]
    unfold InField
    omega
  unfold packedPut
  rw [bit_or, bit_and, bit_and, bit_not _ hk, hmask, bit_shiftLeft value hshift hk]
  by_cases hin : InField shift bits k
  · rw [if_pos hin, decide_eq_true hin, decide_eq_true hin.1]
    simp
  · rw [if_neg hin, decide_eq_false hin]
    simp

theorem bit_packedGet (word : UInt32) (hshift : shift.toNat < 32) (hbits : bits.toNat < 32)
    (k : ℕ) :
    bit (packedGet word shift bits) k =
      (decide (k < bits.toNat) && bit word (shift.toNat + k)) := by
  unfold packedGet
  rw [bit_and, bit_shiftRight word hshift, bit_fieldMax hbits, Bool.and_comm]

/-- Words that agree on a field have the same value there. -/
theorem packedGet_congr {word word' : UInt32} (h : Proper shift bits)
    (hbits : ∀ k < 32, InField shift bits k → bit word k = bit word' k) :
    packedGet word shift bits = packedGet word' shift bits := by
  obtain ⟨hshift, hwidth, hend⟩ := h
  apply eq_of_bit
  intro k hk
  rw [bit_packedGet word hshift hwidth, bit_packedGet word' hshift hwidth]
  by_cases hlt : k < bits.toNat
  · rw [hbits _ (by omega) ⟨by omega, by omega⟩]
  · rw [decide_eq_false hlt, Bool.false_and, Bool.false_and]

/-- **A field is read back**, cut to its width. -/
theorem packedGet_put_self (word value : UInt32) (h : Proper shift bits) :
    packedGet (packedPut word shift bits value) shift bits = value &&& fieldMax bits := by
  obtain ⟨hshift, hwidth, hend⟩ := h
  apply eq_of_bit
  intro k hk
  rw [bit_packedGet _ hshift hwidth, bit_and, bit_fieldMax hwidth, Bool.and_comm]
  by_cases hlt : k < bits.toNat
  · rw [bit_packedPut word value ⟨hshift, hwidth, hend⟩ (by omega), if_pos ⟨by omega, by omega⟩,
      Nat.add_sub_cancel_left]
  · rw [decide_eq_false hlt, Bool.and_false, Bool.and_false]

/-- **Another field is left alone.** -/
theorem packedGet_put_of_disjoint {shift' bits' : UInt32} (word value : UInt32)
    (h : Proper shift bits) (h' : Proper shift' bits')
    (hdisjoint : ∀ k < 32, InField shift' bits' k → ¬ InField shift bits k) :
    packedGet (packedPut word shift bits value) shift' bits' = packedGet word shift' bits' := by
  apply packedGet_congr h'
  intro k hk hin
  rw [bit_packedPut word value h hk, if_neg (hdisjoint k hk hin)]

end Fields

/-! ## Masks -/

theorem bit_packedSetBits (word mask : UInt32) (k : ℕ) :
    bit (packedSetBits word mask) k = (bit word k || bit mask k) := bit_or word mask k

theorem bit_packedClearBits (word mask : UInt32) {k : ℕ} (hk : k < 32) :
    bit (packedClearBits word mask) k = (bit word k && !bit mask k) := by
  unfold packedClearBits
  rw [bit_and, bit_not mask hk]

/-- A word and a mask have a common bit. -/
theorem and_ne_zero_iff (word mask : UInt32) :
    word &&& mask ≠ 0 ↔ ∃ k < 32, bit word k = true ∧ bit mask k = true := by
  constructor
  · intro hne
    by_contra hnone
    push Not at hnone
    apply hne
    apply eq_of_bit
    intro k hk
    rw [bit_and, bit_zero, Bool.and_eq_false_iff]
    cases hword : bit word k with
    | false => exact .inl rfl
    | true => exact .inr (Bool.eq_false_of_not_eq_true (hnone k hk hword))
  · rintro ⟨k, -, hword, hmask⟩ hzero
    have hbit := bit_and word mask k
    rw [hzero, bit_zero, hword, hmask] at hbit
    cases hbit

end PackedBits
