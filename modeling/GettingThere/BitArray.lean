/-
# Packed fields (`getting_there/packed_bits.h`: `bitarray_get`, `bitarray_put`)

Fields of equal width lie in an array of bytes one behind the other, with no padding between
them.  Both functions go over the bits of a field, the lowest one first.

`bitAt` is a bit of the array; `bitAt_bitarrayPut` and `getLsbD_bitarrayGet` say what the two
functions do to these bits.
-/
import GettingThere.Buffer
import Mathlib.Data.Nat.Bitwise

namespace PackedBits

variable {size : ℕ}

/-- `BITARRAY_BYTES`. -/
def bitarrayBytes (count width : ℕ) : ℕ := (count * width + 7) / 8

/-- The bits of `bitarray_get` from `bit` on, `n` of them. -/
def bitarrayGetFrom (buffer : Buffer UInt8 size) : ℕ → ℕ → ℕ → UInt32 → UInt32
  | _, _, 0, value => value
  | position, bit, n + 1, value =>
    let byte := buffer.cells.getD (position / 8) 0
    bitarrayGetFrom buffer (position + 1) (bit + 1) n
      (value ||| ((byte >>> UInt8.ofNat (position % 8)) &&& 1).toUInt32 <<< UInt32.ofNat bit)

/-- `bitarray_get`. -/
def bitarrayGet (buffer : Buffer UInt8 size) (index width : ℕ) : UInt32 :=
  bitarrayGetFrom buffer (index * width) 0 width 0

/-- The bits of `bitarray_put` from `bit` on, `n` of them. -/
def bitarrayPutFrom (value : UInt32) : ℕ → ℕ → ℕ → Buffer UInt8 size → Buffer UInt8 size
  | _, _, 0, buffer => buffer
  | position, bit, n + 1, buffer =>
    let mask : UInt8 := 1 <<< UInt8.ofNat (position % 8)
    let byte := buffer.cells.getD (position / 8) 0
    let byte := if (value >>> UInt32.ofNat bit) &&& 1 ≠ 0 then byte ||| mask else byte &&& ~~~mask
    bitarrayPutFrom value (position + 1) (bit + 1) n (buffer.write (position / 8) [byte])

/-- `bitarray_put`. -/
def bitarrayPut (buffer : Buffer UInt8 size) (index width : ℕ) (value : UInt32) :
    Buffer UInt8 size :=
  bitarrayPutFrom value (index * width) 0 width buffer

/-! ## Bits -/

/-- A bit of the array. -/
def bitAt (buffer : Buffer UInt8 size) (q : ℕ) : Bool :=
  (buffer.cells.getD (q / 8) 0).toBitVec.getLsbD (q % 8)

/-- Shifts by less than the width of the word are the ones of bit vectors. -/
theorem byte_shiftLeft (a : UInt8) {k : ℕ} (hk : k < 8) :
    (a <<< UInt8.ofNat k).toBitVec = a.toBitVec <<< k := by
  have hmod : ((UInt8.ofNat k).toBitVec % 8).toNat = k := by
    show k % 2 ^ 8 % 8 = k
    omega
  rw [UInt8.toBitVec_shiftLeft, BitVec.shiftLeft_eq', hmod]

theorem byte_shiftRight (a : UInt8) {k : ℕ} (hk : k < 8) :
    (a >>> UInt8.ofNat k).toBitVec = a.toBitVec >>> k := by
  have hmod : ((UInt8.ofNat k).toBitVec % 8).toNat = k := by
    show k % 2 ^ 8 % 8 = k
    omega
  rw [UInt8.toBitVec_shiftRight, BitVec.ushiftRight_eq', hmod]

theorem word_shiftLeft (a : UInt32) {k : ℕ} (hk : k < 32) :
    (a <<< UInt32.ofNat k).toBitVec = a.toBitVec <<< k := by
  have hmod : ((UInt32.ofNat k).toBitVec % 32).toNat = k := by
    show k % 2 ^ 32 % 32 = k
    omega
  rw [UInt32.toBitVec_shiftLeft, BitVec.shiftLeft_eq', hmod]

theorem word_shiftRight (a : UInt32) {k : ℕ} (hk : k < 32) :
    (a >>> UInt32.ofNat k).toBitVec = a.toBitVec >>> k := by
  have hmod : ((UInt32.ofNat k).toBitVec % 32).toNat = k := by
    show k % 2 ^ 32 % 32 = k
    omega
  rw [UInt32.toBitVec_shiftRight, BitVec.ushiftRight_eq', hmod]

/-- The lowest bit of a byte that was shifted. -/
theorem byte_bit (a : UInt8) {k : ℕ} (hk : k < 8) :
    ((a >>> UInt8.ofNat k) &&& 1).toBitVec =
      BitVec.setWidth 8 (BitVec.ofBool (a.toBitVec.getLsbD k)) := by
  rw [UInt8.toBitVec_and, byte_shiftRight a hk]
  show a.toBitVec >>> k &&& 1#8 = _
  rw [BitVec.and_one_eq_setWidth_ofBool_getLsbD, BitVec.getLsbD_ushiftRight, Nat.add_zero]

/-- A byte with one bit changed. -/
theorem getLsbD_mask (byte : UInt8) {k : ℕ} (hk : k < 8) (j : ℕ) :
    (byte ||| 1 <<< UInt8.ofNat k).toBitVec.getLsbD j =
        (if j = k then true else byte.toBitVec.getLsbD j) ∧
      (byte &&& ~~~(1 <<< UInt8.ofNat k)).toBitVec.getLsbD j =
        (if j = k then false else byte.toBitVec.getLsbD j) := by
  have hmask : ((1 : UInt8) <<< UInt8.ofNat k).toBitVec.getLsbD j = decide (j = k) := by
    have hshift : ((1 : UInt8) <<< UInt8.ofNat k).toBitVec = 1#8 <<< k := byte_shiftLeft 1 hk
    rw [hshift, BitVec.getLsbD_shiftLeft, BitVec.getLsbD_one]
    by_cases hjk : j = k
    · subst hjk
      simp [hk]
    · by_cases hlt : j < k
      · simp [hlt, hjk]
      · simp [hjk, show j - k ≠ 0 by omega]
  rw [UInt8.toBitVec_or, UInt8.toBitVec_and, UInt8.toBitVec_not, BitVec.getLsbD_or,
    BitVec.getLsbD_and, BitVec.getLsbD_not, hmask]
  by_cases hjk : j = k
  · simp [hjk]
  · have hbyte : j ≥ 8 → byte.toBitVec.getLsbD j = false := BitVec.getLsbD_of_ge _ _
    by_cases hj : j < 8
    · simp [hjk, hj]
    · simp [hjk, hbyte (by omega)]

/-- A byte of the array is replaced. -/
theorem getD_write (buffer : Buffer UInt8 size) {i : ℕ} (hi : i < size) (byte : UInt8) (j : ℕ) :
    (buffer.write i [byte]).cells.getD j 0 = if j = i then byte else buffer.cells.getD j 0 := by
  have hcells : i < buffer.cells.length := by
    rw [buffer.length_cells]
    exact hi
  rw [Buffer.cells_write_one buffer hi, List.getD_eq_getElem?_getD, List.getD_eq_getElem?_getD]
  split
  · rename_i hij
    rw [hij, List.getElem?_set_self hcells]
    rfl
  · rename_i hij
    rw [List.getElem?_set_ne (Ne.symm hij)]

/-- One round of the loop changes one bit. -/
theorem bitAt_write (buffer : Buffer UInt8 size) {p : ℕ} (hp : p / 8 < size) (b : Bool) (q : ℕ) :
    bitAt (buffer.write (p / 8) [if b then
        buffer.cells.getD (p / 8) 0 ||| 1 <<< UInt8.ofNat (p % 8)
      else buffer.cells.getD (p / 8) 0 &&& ~~~(1 <<< UInt8.ofNat (p % 8))]) q =
      if q = p then b else bitAt buffer q := by
  obtain ⟨hset, hclear⟩ :=
    getLsbD_mask (buffer.cells.getD (p / 8) 0) (Nat.mod_lt p (by decide : 0 < 8)) (q % 8)
  unfold bitAt
  rw [getD_write buffer hp]
  by_cases hbyte : q / 8 = p / 8
  · rw [if_pos hbyte]
    have hsame : q % 8 = p % 8 ↔ q = p := by omega
    cases b with
    | true =>
      rw [if_pos rfl, hset, hbyte]
      by_cases hqp : q = p
      · rw [if_pos (hsame.mpr hqp), if_pos hqp]
      · rw [if_neg fun h => hqp (hsame.mp h), if_neg hqp]
    | false =>
      rw [if_neg Bool.false_ne_true, hclear, hbyte]
      by_cases hqp : q = p
      · rw [if_pos (hsame.mpr hqp), if_pos hqp]
      · rw [if_neg fun h => hqp (hsame.mp h), if_neg hqp]
  · have hqp : q ≠ p := fun h => hbyte (by rw [h])
    rw [if_neg hbyte, if_neg hqp]

/-- The bit of a word that the loop looks at. -/
theorem shift_ne_zero_iff (value : UInt32) {bit : ℕ} (hbit : bit < 32) :
    (value >>> UInt32.ofNat bit) &&& 1 ≠ 0 ↔ value.toBitVec.getLsbD bit = true := by
  have hbits : ((value >>> UInt32.ofNat bit) &&& 1).toBitVec =
      BitVec.setWidth 32 (BitVec.ofBool (value.toBitVec.getLsbD bit)) := by
    rw [UInt32.toBitVec_and, word_shiftRight value hbit]
    show value.toBitVec >>> bit &&& 1#32 = _
    rw [BitVec.and_one_eq_setWidth_ofBool_getLsbD, BitVec.getLsbD_ushiftRight, Nat.add_zero]
  rw [Ne, ← UInt32.toBitVec_inj, hbits]
  cases value.toBitVec.getLsbD bit
  · exact iff_of_false (by decide) Bool.false_ne_true
  · exact iff_of_true (by decide) rfl

/-- The loop of `bitarray_put`. -/
theorem bitAt_bitarrayPutFrom (value : UInt32) {n position bit : ℕ} (buffer : Buffer UInt8 size)
    (hroom : position + n ≤ 8 * size) (hbit : bit + n ≤ 32) (q : ℕ) :
    bitAt (bitarrayPutFrom value position bit n buffer) q =
      if position ≤ q ∧ q < position + n then value.toBitVec.getLsbD (bit + (q - position))
      else bitAt buffer q := by
  induction n generalizing position bit buffer with
  | zero =>
    rw [if_neg (by omega)]
    rfl
  | succ n ih =>
    unfold bitarrayPutFrom
    rw [ih _ (by omega) (by omega)]
    have hround := bitAt_write buffer (show position / 8 < size by omega)
      (value.toBitVec.getLsbD bit) q
    simp only [shift_ne_zero_iff value (show bit < 32 by omega)]
    rw [hround]
    by_cases hq : q = position
    · rw [if_neg (by omega), if_pos hq, if_pos (by omega), hq, Nat.sub_self, Nat.add_zero]
    · rw [if_neg hq]
      by_cases hin : position + 1 ≤ q ∧ q < position + 1 + n
      · rw [if_pos hin, if_pos (by omega)]
        congr 1
        omega
      · rw [if_neg hin, if_neg (by omega)]

/-- **`bitarray_put`** changes the bits of its field, and no others. -/
theorem bitAt_bitarrayPut (buffer : Buffer UInt8 size) {index width : ℕ} (value : UInt32)
    (hroom : (index + 1) * width ≤ 8 * size) (hwidth : width ≤ 32) (q : ℕ) :
    bitAt (bitarrayPut buffer index width value) q =
      if index * width ≤ q ∧ q < index * width + width then
        value.toBitVec.getLsbD (q - index * width)
      else bitAt buffer q := by
  rw [Nat.succ_mul] at hroom
  unfold bitarrayPut
  rw [bitAt_bitarrayPutFrom value buffer hroom (by omega), Nat.zero_add]

/-- The loop of `bitarray_get`. -/
theorem getLsbD_bitarrayGetFrom (buffer : Buffer UInt8 size) {n position bit : ℕ} (value : UInt32)
    (hbit : bit + n ≤ 32) (j : ℕ) :
    (bitarrayGetFrom buffer position bit n value).toBitVec.getLsbD j =
      (value.toBitVec.getLsbD j ||
        (decide (bit ≤ j ∧ j < bit + n) && bitAt buffer (position + (j - bit)))) := by
  induction n generalizing position bit value with
  | zero =>
    rw [decide_eq_false (by omega), Bool.false_and, Bool.or_false]
    rfl
  | succ n ih =>
    unfold bitarrayGetFrom
    rw [ih _ (by omega)]
    -- the bit that this round reads
    have hread : (((buffer.cells.getD (position / 8) 0 >>> UInt8.ofNat (position % 8)) &&&
        1).toUInt32 <<< UInt32.ofNat bit).toBitVec.getLsbD j =
          (decide (j = bit) && bitAt buffer position) := by
      have hmod : position % 8 < 8 := Nat.mod_lt _ (by decide)
      generalize hcell : buffer.cells.getD (position / 8) 0 = byte
      have hword : ((((byte >>> UInt8.ofNat (position % 8)) &&& 1).toUInt32 <<<
          UInt32.ofNat bit)).toBitVec =
          BitVec.setWidth 32 (BitVec.setWidth 8
            (BitVec.ofBool (byte.toBitVec.getLsbD (position % 8)))) <<< bit := by
        rw [word_shiftLeft _ (show bit < 32 by omega), UInt8.toBitVec_toUInt32,
          byte_bit byte hmod]
      have hat : bitAt buffer position = byte.toBitVec.getLsbD (position % 8) := by
        unfold bitAt
        rw [hcell]
      rw [hword, hat, BitVec.getLsbD_shiftLeft, BitVec.getLsbD_setWidth, BitVec.getLsbD_setWidth]
      cases byte.toBitVec.getLsbD (position % 8) with
      | false => simp
      | true =>
        by_cases hj : j = bit
        · subst hj
          simp
          omega
        · by_cases hlt : j < bit
          · simp [hlt, hj]
          · simp [hj, show j - bit ≠ 0 by omega]
    rw [UInt32.toBitVec_or, BitVec.getLsbD_or, hread, Bool.or_assoc]
    congr 1
    by_cases hj : j = bit
    · subst hj
      rw [decide_eq_true rfl, decide_eq_false (by omega), decide_eq_true (by omega), Bool.true_and,
        Bool.false_and, Bool.true_and, Bool.or_false, Nat.sub_self, Nat.add_zero]
    · rw [decide_eq_false hj, Bool.false_and, Bool.false_or]
      by_cases hin : bit ≤ j ∧ j < bit + (n + 1)
      · rw [decide_eq_true hin, decide_eq_true (by omega), Bool.true_and, Bool.true_and]
        congr 1
        omega
      · rw [decide_eq_false hin, decide_eq_false (by omega), Bool.false_and, Bool.false_and]

/-- **`bitarray_get`** reads the bits of its field. -/
theorem getLsbD_bitarrayGet (buffer : Buffer UInt8 size) (index : ℕ) {width : ℕ}
    (hwidth : width ≤ 32) (j : ℕ) :
    (bitarrayGet buffer index width).toBitVec.getLsbD j =
      (decide (j < width) && bitAt buffer (index * width + j)) := by
  unfold bitarrayGet
  rw [getLsbD_bitarrayGetFrom buffer 0 (by omega)]
  have hzero : (0 : UInt32).toBitVec.getLsbD j = false := BitVec.getLsbD_zero
  rw [hzero, Bool.false_or, Nat.sub_zero]
  congr 1
  rw [decide_eq_decide]
  omega

/-- **What was put is read back**, cut to the width. -/
theorem bitarrayGet_put_self (buffer : Buffer UInt8 size) {index width : ℕ} (value : UInt32)
    (hroom : (index + 1) * width ≤ 8 * size) (hwidth : width ≤ 32) :
    (bitarrayGet (bitarrayPut buffer index width value) index width).toNat =
      value.toNat % 2 ^ width := by
  apply Nat.eq_of_testBit_eq
  intro j
  have hget := getLsbD_bitarrayGet (bitarrayPut buffer index width value) index hwidth j
  rw [bitAt_bitarrayPut buffer value hroom hwidth] at hget
  rw [Nat.testBit_mod_two_pow]
  show (bitarrayGet _ index width).toBitVec.getLsbD j = (_ && value.toBitVec.getLsbD j)
  rw [hget]
  by_cases hj : j < width
  · rw [if_pos (by omega), Nat.add_sub_cancel_left]
  · rw [decide_eq_false hj, Bool.false_and, Bool.false_and]

/-- **Another field is left as it was.** -/
theorem bitarrayGet_put_of_ne (buffer : Buffer UInt8 size) {index other width : ℕ}
    (value : UInt32) (hroom : (index + 1) * width ≤ 8 * size) (hwidth : width ≤ 32)
    (hne : other ≠ index) :
    bitarrayGet (bitarrayPut buffer index width value) other width =
      bitarrayGet buffer other width := by
  refine UInt32.toBitVec_inj.mp (BitVec.eq_of_getLsbD_eq ?_)
  intro j _
  rw [getLsbD_bitarrayGet _ _ hwidth, getLsbD_bitarrayGet _ _ hwidth,
    bitAt_bitarrayPut buffer value hroom hwidth]
  by_cases hj : j < width
  · have houtside : ¬ (index * width ≤ other * width + j ∧
        other * width + j < index * width + width) := by
      rintro ⟨hlow, hhigh⟩
      rcases Nat.lt_or_gt_of_ne hne with hlt | hgt
      · have := Nat.mul_le_mul_right width hlt
        rw [Nat.succ_mul] at this
        omega
      · have := Nat.mul_le_mul_right width hgt
        rw [Nat.succ_mul] at this
        omega
    rw [if_neg houtside]
  · rw [decide_eq_false hj, Bool.false_and, Bool.false_and]

end PackedBits
