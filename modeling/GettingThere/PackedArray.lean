/-
# Packed arrays (`getting_there/packed_bits.h`: `bitarray_get`, `bitarray_put`)

The two functions with the `unsigned` index, width and position of the source, which wrap at
`2 ^ 32`.  As long as the offset of a field stays below that they are the ones of `BitArray`, and
an array of packed fields is a plain array: what is read is what was written there last, cut to
the width.
-/
import GettingThere.BitArray
import Mathlib.Logic.Function.Basic

namespace PackedBits

variable {size : ℕ}

namespace Unsigned

/-- The loop of `bitarray_get`, for `n` more bits. -/
def bitarrayGetFrom (buffer : Buffer UInt8 size) : ℕ → UInt32 → UInt32 → UInt32 → UInt32
  | 0, _, _, value => value
  | n + 1, position, bit, value =>
    let byte := buffer.cells.getD (position >>> 3).toNat 0
    let one := ((byte >>> (position &&& 7).toUInt8) &&& 1).toUInt32
    bitarrayGetFrom buffer n (position + 1) (bit + 1) (value ||| one <<< bit)

/-- `bitarray_get`. -/
def bitarrayGet (buffer : Buffer UInt8 size) (index width : UInt32) : UInt32 :=
  bitarrayGetFrom buffer width.toNat (index * width) 0 0

/-- The loop of `bitarray_put`, for `n` more bits. -/
def bitarrayPutFrom (value : UInt32) :
    ℕ → UInt32 → UInt32 → Buffer UInt8 size → Buffer UInt8 size
  | 0, _, _, buffer => buffer
  | n + 1, position, bit, buffer =>
    let mask : UInt8 := 1 <<< (position &&& 7).toUInt8
    let byte := buffer.cells.getD (position >>> 3).toNat 0
    let byte := if (value >>> bit) &&& 1 ≠ 0 then byte ||| mask else byte &&& ~~~mask
    bitarrayPutFrom value n (position + 1) (bit + 1)
      (buffer.write (position >>> 3).toNat [byte])

/-- `bitarray_put`. -/
def bitarrayPut (buffer : Buffer UInt8 size) (index width value : UInt32) : Buffer UInt8 size :=
  bitarrayPutFrom value width.toNat (index * width) 0 buffer

/-- The field lies in a buffer of `size` bytes, and its offsets are below `2 ^ 32`. -/
def InRange (size : ℕ) (width index : UInt32) : Prop :=
  (index.toNat + 1) * width.toNat ≤ 8 * size ∧ (index.toNat + 1) * width.toNat ≤ 2 ^ 32

instance (size : ℕ) (width index : UInt32) : Decidable (InRange size width index) := by
  unfold InRange; infer_instance

/-! ## Positions -/

/-- `position >> 3`. -/
theorem toNat_byteOf (position : UInt32) : (position >>> 3).toNat = position.toNat / 8 := by
  rw [UInt32.toNat_shiftRight, Nat.shiftRight_eq_div_pow]
  rfl

/-- `position & 7`. -/
theorem toUInt8_bitOf (position : UInt32) :
    (position &&& 7).toUInt8 = UInt8.ofNat (position.toNat % 8) := by
  have hmask : position.toNat &&& 7 = position.toNat % 8 := Nat.and_two_pow_sub_one_eq_mod _ 3
  apply UInt8.toNat_inj.mp
  rw [UInt32.toNat_toUInt8, UInt32.toNat_and, UInt8.toNat_ofNat']
  exact congrArg (· % 2 ^ 8) hmask

/-- The position after one more bit, as long as it does not wrap. -/
theorem toNat_next (position : UInt32) (h : position.toNat + 1 < 2 ^ 32) :
    (position + 1).toNat = position.toNat + 1 := by
  rw [UInt32.toNat_add]
  exact Nat.mod_eq_of_lt h

/-- The offset of a field, as long as it does not wrap. -/
theorem InRange.toNat_offset {width index : UInt32} (h : InRange size width index)
    (hwidth : 0 < width.toNat) : (index * width).toNat = index.toNat * width.toNat := by
  have hend := h.2
  rw [Nat.succ_mul] at hend
  rw [UInt32.toNat_mul]
  exact Nat.mod_eq_of_lt (by omega)

/-! ## The loops -/

theorem bitarrayGetFrom_eq (buffer : Buffer UInt8 size) {n : ℕ} {position bit : UInt32}
    (value : UInt32) (hposition : position.toNat + n ≤ 2 ^ 32) (hbit : bit.toNat + n ≤ 32) :
    bitarrayGetFrom buffer n position bit value =
      PackedBits.bitarrayGetFrom buffer position.toNat bit.toNat n value := by
  induction n generalizing position bit value with
  | zero => rfl
  | succ n ih =>
    unfold bitarrayGetFrom PackedBits.bitarrayGetFrom
    rw [toNat_byteOf, toUInt8_bitOf, UInt32.ofNat_toNat]
    cases n with
    | zero => rfl
    | succ n =>
      have hnext := toNat_next position (by omega)
      have hup := toNat_next bit (by omega)
      rw [ih _ (by omega) (by omega), hnext, hup]

theorem bitarrayPutFrom_eq (value : UInt32) {n : ℕ} {position bit : UInt32}
    (buffer : Buffer UInt8 size) (hposition : position.toNat + n ≤ 2 ^ 32)
    (hbit : bit.toNat + n ≤ 32) :
    bitarrayPutFrom value n position bit buffer =
      PackedBits.bitarrayPutFrom value position.toNat bit.toNat n buffer := by
  induction n generalizing position bit buffer with
  | zero => rfl
  | succ n ih =>
    unfold bitarrayPutFrom PackedBits.bitarrayPutFrom
    rw [toNat_byteOf, toUInt8_bitOf, UInt32.ofNat_toNat]
    cases n with
    | zero => rfl
    | succ n =>
      have hnext := toNat_next position (by omega)
      have hup := toNat_next bit (by omega)
      rw [ih _ (by omega) (by omega), hnext, hup]

/-! ## Fields in range -/

section Fields

variable {width index : UInt32}

/-- **Below `2 ^ 32` the position does not wrap.** -/
theorem bitarrayGet_eq (buffer : Buffer UInt8 size) (hpos : 0 < width.toNat)
    (hwidth : width.toNat ≤ 32) (h : InRange size width index) :
    bitarrayGet buffer index width = PackedBits.bitarrayGet buffer index.toNat width.toNat := by
  have hoffset := h.toNat_offset hpos
  have hend := h.2
  rw [Nat.succ_mul] at hend
  unfold bitarrayGet PackedBits.bitarrayGet
  rw [bitarrayGetFrom_eq buffer 0 (by omega) (by simpa using hwidth), hoffset]
  rfl

theorem bitarrayPut_eq (buffer : Buffer UInt8 size) (value : UInt32) (hpos : 0 < width.toNat)
    (hwidth : width.toNat ≤ 32) (h : InRange size width index) :
    bitarrayPut buffer index width value =
      PackedBits.bitarrayPut buffer index.toNat width.toNat value := by
  have hoffset := h.toNat_offset hpos
  have hend := h.2
  rw [Nat.succ_mul] at hend
  unfold bitarrayPut PackedBits.bitarrayPut
  rw [bitarrayPutFrom_eq value buffer (by omega) (by simpa using hwidth), hoffset]
  rfl

/-- The bytes of a field lie below `BITARRAY_BYTES`. -/
theorem lt_bitarrayBytes {count i w bit : ℕ} (hi : i < count) (hbit : bit < w) :
    (i * w + bit) / 8 < bitarrayBytes count w := by
  have hend := Nat.mul_le_mul_right w hi
  rw [Nat.succ_mul] at hend
  unfold bitarrayBytes
  omega

/-- A put leaves the bytes it does not index as they are. -/
theorem getElem?_bitarrayPutFrom (value : UInt32) {n position bit byte : ℕ}
    (buffer : Buffer UInt8 size) (hroom : position + n ≤ 8 * size)
    (hbyte : ∀ k < n, (position + k) / 8 ≠ byte) :
    (PackedBits.bitarrayPutFrom value position bit n buffer).cells[byte]? =
      buffer.cells[byte]? := by
  induction n generalizing position bit buffer with
  | zero => rfl
  | succ n ih =>
    unfold PackedBits.bitarrayPutFrom
    rw [ih _ (by omega) fun k hk => by
      have := hbyte (k + 1) (by omega)
      rwa [Nat.add_comm k 1, ← Nat.add_assoc] at this]
    rw [Buffer.cells_write_one buffer (show position / 8 < size by omega)]
    exact List.getElem?_set_ne (hbyte 0 (Nat.succ_pos n))

end Fields

/-! ## A plain array -/

/-- The values in the fields. -/
def values (buffer : Buffer UInt8 size) (width : UInt32) (index : UInt32) : ℕ :=
  (bitarrayGet buffer index width).toNat

/-- The puts of a list, one after the other: index and value. -/
def putAll (width : UInt32) (puts : List (UInt32 × UInt32)) (buffer : Buffer UInt8 size) :
    Buffer UInt8 size :=
  puts.foldl (fun buffer put => bitarrayPut buffer put.1 width put.2) buffer

/-- The same puts on a plain array, whose values are cut to the width. -/
def setAll (width : UInt32) (puts : List (UInt32 × UInt32)) (array : UInt32 → ℕ) : UInt32 → ℕ :=
  puts.foldl (fun array put => Function.update array put.1 (put.2.toNat % 2 ^ width.toNat)) array

section Plain

variable {width : UInt32}

theorem values_put_self (buffer : Buffer UInt8 size) (hpos : 0 < width.toNat)
    (hwidth : width.toNat ≤ 32) {i : UInt32} (hi : InRange size width i) (value : UInt32) :
    values (bitarrayPut buffer i width value) width i = value.toNat % 2 ^ width.toNat := by
  unfold values
  rw [bitarrayGet_eq _ hpos hwidth hi, bitarrayPut_eq buffer value hpos hwidth hi]
  exact bitarrayGet_put_self buffer value hi.1 hwidth

theorem values_put_of_ne (buffer : Buffer UInt8 size) (hpos : 0 < width.toNat)
    (hwidth : width.toNat ≤ 32) {i j : UInt32} (hi : InRange size width i)
    (hj : InRange size width j) (hne : j ≠ i) (value : UInt32) :
    values (bitarrayPut buffer i width value) width j = values buffer width j := by
  unfold values
  rw [bitarrayGet_eq _ hpos hwidth hj, bitarrayGet_eq _ hpos hwidth hj,
    bitarrayPut_eq buffer value hpos hwidth hi]
  have hnat : j.toNat ≠ i.toNat := fun h => hne (UInt32.toNat_inj.mp h)
  rw [bitarrayGet_put_of_ne buffer value hi.1 hwidth hnat]

/-- **Puts in any order and number** act on the fields as on a plain array. -/
theorem values_putAll (hpos : 0 < width.toNat) (hwidth : width.toNat ≤ 32)
    {puts : List (UInt32 × UInt32)} (hputs : ∀ put ∈ puts, InRange size width put.1)
    {j : UInt32} (hj : InRange size width j) (buffer : Buffer UInt8 size) {array : UInt32 → ℕ}
    (harray : ∀ k, InRange size width k → values buffer width k = array k) :
    values (putAll width puts buffer) width j = setAll width puts array j := by
  induction puts generalizing buffer array with
  | nil => exact harray j hj
  | cons put puts ih =>
    have hput := hputs put List.mem_cons_self
    refine ih (fun other hother => hputs other (List.mem_cons_of_mem _ hother)) _ ?_
    intro k hk
    dsimp only
    by_cases hki : k = put.1
    · rw [hki, Function.update_self]
      exact values_put_self buffer hpos hwidth hput put.2
    · rw [Function.update_of_ne hki, values_put_of_ne buffer hpos hwidth hput hk hki]
      exact harray k hk

end Plain

/-- **An array of packed fields is a plain array.**  A put is read back, cut to the width; it
leaves every other field, every bit outside its own and every byte from `BITARRAY_BYTES` on as
they were, and indexes only bytes below; and after any number of puts each field holds what was
put there last. -/
theorem bitarray_plain (buffer : Buffer UInt8 size) (width : UInt32) (hpos : 1 ≤ width.toNat)
    (hwidth : width.toNat ≤ 32) :
    (∀ i value, InRange size width i →
      (bitarrayGet (bitarrayPut buffer i width value) i width).toNat =
          value.toNat % 2 ^ width.toNat ∧
        (∀ j, InRange size width j → j ≠ i →
          bitarrayGet (bitarrayPut buffer i width value) j width = bitarrayGet buffer j width) ∧
        (∀ q, ¬ (i.toNat * width.toNat ≤ q ∧ q < i.toNat * width.toNat + width.toNat) →
          bitAt (bitarrayPut buffer i width value) q = bitAt buffer q) ∧
        ∀ count, i.toNat < count →
          (∀ bit < width.toNat,
            (i.toNat * width.toNat + bit) / 8 < bitarrayBytes count width.toNat) ∧
          ∀ byte, bitarrayBytes count width.toNat ≤ byte →
            (bitarrayPut buffer i width value).cells[byte]? = buffer.cells[byte]?) ∧
    ∀ puts : List (UInt32 × UInt32), (∀ put ∈ puts, InRange size width put.1) →
      ∀ j, InRange size width j →
        values (putAll width puts buffer) width j = setAll width puts (values buffer width) j := by
  refine ⟨?_, ?_⟩
  · intro i value hi
    have hput := bitarrayPut_eq buffer value hpos hwidth hi
    refine ⟨values_put_self buffer hpos hwidth hi value, ?_, ?_, ?_⟩
    · intro j hj hne
      exact UInt32.toNat_inj.mp (values_put_of_ne buffer hpos hwidth hi hj hne value)
    · intro q hq
      rw [hput, bitAt_bitarrayPut buffer value hi.1 hwidth, if_neg hq]
    · intro count hcount
      refine ⟨fun bit hbit => lt_bitarrayBytes hcount hbit, ?_⟩
      intro byte hbyte
      have hroom := hi.1
      rw [Nat.succ_mul] at hroom
      rw [hput]
      apply getElem?_bitarrayPutFrom value buffer hroom
      intro k hk
      have hlow := lt_bitarrayBytes hcount hk
      omega
  · intro puts hputs j hj
    exact values_putAll hpos hwidth hputs hj buffer fun _ _ => rfl

/-- Twelve readings of seven bits fit into eleven bytes; the sixth is replaced, its neighbours
stay. -/
theorem bitarray_plain_readings :
    bitarrayBytes 12 7 = 11 ∧
      let readings := putAll 7 [(4, 41), (5, 51), (6, 61), (5, 126)] (.filled 11 0)
      values readings 7 4 = 41 ∧ values readings 7 5 = 126 ∧ values readings 7 6 = 61 := by
  have hputs : ∀ put ∈ [((4 : UInt32), (41 : UInt32)), (5, 51), (6, 61), (5, 126)],
      InRange 11 7 put.1 := by
    simp only [List.forall_mem_cons]
    exact ⟨by decide, by decide, by decide, by decide, List.forall_mem_nil _⟩
  have hplain := (bitarray_plain (.filled 11 0) 7 (by decide) (by decide)).2 _ hputs
  refine ⟨rfl, ?_, ?_, ?_⟩
  · exact (hplain 4 (by decide)).trans rfl
  · exact (hplain 5 (by decide)).trans rfl
  · exact (hplain 6 (by decide)).trans rfl

end Unsigned

end PackedBits
