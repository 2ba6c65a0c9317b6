/-
# Cyclic codes of bit strings

A string of bits is a polynomial over the field of two elements, its first bit the highest
coefficient (`poly`).  A register that holds the remainder by a polynomial `g` is shifted and,
when a one falls out, reduced by `g` (`shiftOut`); in the ring of remainders that is
multiplication by `X`.

`not_dvd_burst`: two strings that differ, but only inside a window not longer than the degree of
`g`, have different remainders, if `g` has a constant coefficient.
-/
import Mathlib.Algebra.Field.ZMod
import Mathlib.Algebra.Polynomial.FieldDivision
import Mathlib.Data.ZMod.Basic
import Mathlib.RingTheory.AdjoinRoot
import Mathlib.RingTheory.Polynomial.Basic

open Polynomial

namespace CyclicCode

/-- The field of two elements. -/
abbrev F2 := ZMod 2

/-- The coefficient of a bit. -/
def bit (b : Bool) : F2 := if b then 1 else 0

theorem bit_xor (a b : Bool) : bit (a ^^ b) = bit a + bit b := by
  cases a <;> cases b <;> decide

theorem bit_injective : Function.Injective bit := by
  intro a b h
  cases a <;> cases b <;> first | rfl | exact absurd h (by decide)

/-- A string of bits as a polynomial. -/
noncomputable def poly : List Bool → F2[X]
  | [] => 0
  | b :: bits => C (bit b) * X ^ bits.length + poly bits

@[simp] theorem poly_nil : poly [] = 0 := rfl

theorem poly_cons (b : Bool) (bits : List Bool) :
    poly (b :: bits) = C (bit b) * X ^ bits.length + poly bits := rfl

/-- One string behind another. -/
theorem poly_append (xs ys : List Bool) : poly (xs ++ ys) = poly xs * X ^ ys.length + poly ys := by
  induction xs with
  | nil => rw [List.nil_append, poly_nil, zero_mul, zero_add]
  | cons b xs ih =>
    rw [List.cons_append, poly_cons, poly_cons, ih, List.length_append, pow_add]
    ring

/-- Zeros in front change nothing. -/
theorem poly_replicate_false (n : ℕ) : poly (List.replicate n false) = 0 := by
  induction n with
  | zero => rfl
  | succ n ih =>
    rw [List.replicate_succ, poly_cons, ih]
    simp [bit]

/-- The sum of two strings is bit by bit. -/
theorem poly_zipWith {xs ys : List Bool} (h : xs.length = ys.length) :
    poly (List.zipWith xor xs ys) = poly xs + poly ys := by
  induction xs generalizing ys with
  | nil =>
    rw [List.eq_nil_of_length_eq_zero h.symm]
    exact (add_zero _).symm
  | cons a xs ih =>
    cases ys with
    | nil => exact absurd h (Nat.succ_ne_zero _)
    | cons b ys =>
      have hlen : xs.length = ys.length := Nat.succ_injective h
      rw [List.zipWith_cons_cons, poly_cons, poly_cons, poly_cons, ih hlen, List.length_zipWith,
        hlen, Nat.min_self, bit_xor, C_add]
      ring

theorem degree_poly_lt (bits : List Bool) : (poly bits).degree < bits.length := by
  induction bits with
  | nil =>
    rw [poly_nil, degree_zero]
    exact WithBot.bot_lt_coe _
  | cons b bits ih =>
    rw [poly_cons, List.length_cons]
    refine lt_of_le_of_lt (degree_add_le _ _) (max_lt ?_ ?_)
    · apply lt_of_le_of_lt (degree_C_mul_X_pow_le _ _)
      exact_mod_cast Nat.lt_succ_self _
    · apply lt_trans ih
      exact_mod_cast Nat.lt_succ_self _

/-- The highest coefficient is the first bit. -/
theorem coeff_poly_cons (b : Bool) (bits : List Bool) :
    (poly (b :: bits)).coeff bits.length = bit b := by
  rw [poly_cons, coeff_add, coeff_C_mul_X_pow, if_pos rfl,
    coeff_eq_zero_of_degree_lt (degree_poly_lt bits), add_zero]

/-- The coefficients are the bits, from behind. -/
theorem coeff_poly {bits : List Bool} {i : ℕ} (h : i < bits.length) :
    (poly bits).coeff (bits.length - 1 - i) = bit bits[i] := by
  induction bits generalizing i with
  | nil => exact absurd h (Nat.not_lt_zero _)
  | cons b bits ih =>
    cases i with
    | zero => exact coeff_poly_cons b bits
    | succ i =>
      have hi : i < bits.length := Nat.lt_of_succ_lt_succ h
      have hindex : (b :: bits).length - 1 - (i + 1) = bits.length - 1 - i := by
        rw [List.length_cons]
        omega
      rw [hindex, poly_cons, coeff_add, coeff_C_mul_X_pow, if_neg (by omega), zero_add, ih hi]
      rfl

/-- Strings of the same length with the same polynomial. -/
theorem poly_inj {xs ys : List Bool} (hlen : xs.length = ys.length) (h : poly xs = poly ys) :
    xs = ys := by
  induction xs generalizing ys with
  | nil => exact (List.eq_nil_of_length_eq_zero hlen.symm).symm
  | cons a xs ih =>
    cases ys with
    | nil => exact absurd hlen (Nat.succ_ne_zero _)
    | cons b ys =>
      have hlen' : xs.length = ys.length := Nat.succ_injective hlen
      have hhead : a = b := by
        apply bit_injective
        rw [← coeff_poly_cons a xs, h, hlen', coeff_poly_cons]
      have htail : poly xs = poly ys := by
        rw [poly_cons, poly_cons, hlen', hhead] at h
        exact add_left_cancel h
      rw [hhead, ih hlen' htail]

/-! ## The register -/

/-- One step of a register whose first bit is the highest coefficient: it is shifted, and `low`
is added when a one falls out. -/
def shiftOut (low : List Bool) : List Bool → List Bool
  | [] => []
  | b :: bits => if b then List.zipWith xor (bits ++ [false]) low else bits ++ [false]

theorem shiftOut_false (low bits : List Bool) :
    shiftOut low (false :: bits) = bits ++ [false] := rfl

theorem shiftOut_true (low bits : List Bool) :
    shiftOut low (true :: bits) = List.zipWith xor (bits ++ [false]) low := rfl

/-- The generator with the coefficients of `low` below its leading one. -/
noncomputable def generator (low : List Bool) : F2[X] := X ^ low.length + poly low

theorem monic_generator (low : List Bool) : (generator low).Monic :=
  monic_X_pow_add (degree_poly_lt low)

theorem degree_generator (low : List Bool) : (generator low).degree = low.length := by
  unfold generator
  rw [degree_add_eq_left_of_degree_lt, degree_X_pow]
  rw [degree_X_pow]
  exact degree_poly_lt low

/-- **A step of the register multiplies by `X`**, in the ring of remainders. -/
theorem mk_shiftOut {low bits : List Bool} (h : bits.length = low.length) :
    AdjoinRoot.mk (generator low) (poly (shiftOut low bits)) =
      AdjoinRoot.mk (generator low) (poly bits * X) := by
  rw [AdjoinRoot.mk_eq_mk]
  cases bits with
  | nil => simp [shiftOut]
  | cons b bits =>
    have hshift : poly (bits ++ [false]) = poly bits * X := by
      rw [poly_append, poly_cons, poly_nil]
      simp [bit]
    have hlen : bits.length + 1 = low.length := h
    cases b with
    | false =>
      rw [shiftOut_false, hshift, poly_cons]
      simp [bit]
    | true =>
      rw [shiftOut_true, poly_zipWith (by rw [List.length_append, ← hlen]; rfl), hshift, poly_cons]
      refine ⟨1, ?_⟩
      unfold generator
      rw [← hlen]
      -- the leading coefficient is its own negative
      have htwo : (X : F2[X]) ^ (bits.length + 1) + X ^ (bits.length + 1) = 0 :=
        CharTwo.add_self_eq_zero _
      show _ = _
      have hbit : C (bit true) = (1 : F2[X]) := C_1
      rw [hbit]
      linear_combination -htwo

/-! ## Bursts -/

/-- The strings differ, but only inside a window of `w` bits. -/
structure Burst (w : ℕ) (xs ys : List Bool) : Prop where
  length : xs.length = ys.length
  differ : xs ≠ ys
  window : ∃ k, ∀ i, i < k ∨ k + w ≤ i → xs[i]? = ys[i]?

/-- A string is what is before the window, what is inside, and what is behind. -/
theorem eq_window (xs : List Bool) (k w : ℕ) :
    xs = xs.take k ++ ((xs.drop k).take w ++ xs.drop (k + w)) := by
  rw [← List.drop_drop, List.take_append_drop, List.take_append_drop]

/-- The polynomials of such strings differ by a short one, shifted. -/
theorem Burst.sub_eq {w : ℕ} {xs ys : List Bool} (h : Burst w xs ys) :
    ∃ (d : F2[X]) (m : ℕ), d ≠ 0 ∧ d.degree < w ∧ poly xs - poly ys = d * X ^ m := by
  obtain ⟨hlen, hne, k, hwindow⟩ := h
  have hfront : xs.take k = ys.take k := by
    apply List.ext_getElem?
    intro i
    rw [List.getElem?_take, List.getElem?_take]
    split
    · rename_i hi
      exact hwindow i (.inl hi)
    · rfl
  have hback : xs.drop (k + w) = ys.drop (k + w) := by
    apply List.ext_getElem?
    intro i
    rw [List.getElem?_drop, List.getElem?_drop]
    exact hwindow _ (.inr (Nat.le_add_right _ _))
  have hinside : ((xs.drop k).take w).length = ((ys.drop k).take w).length := by
    rw [List.length_take, List.length_take, List.length_drop, List.length_drop, hlen]
  have hsub : poly xs - poly ys =
      (poly ((xs.drop k).take w) - poly ((ys.drop k).take w)) * X ^ (ys.drop (k + w)).length := by
    conv_lhs => rw [eq_window xs k w, eq_window ys k w]
    rw [poly_append, poly_append, poly_append, poly_append, hfront, hback, List.length_append,
      List.length_append, hinside]
    ring
  have hshort (zs : List Bool) : (poly ((zs.drop k).take w)).degree < w := by
    apply lt_of_lt_of_le (degree_poly_lt _)
    exact_mod_cast List.length_take_le _ _
  refine ⟨_, _, ?_, ?_, hsub⟩
  · intro hzero
    have hsame := poly_inj hinside (sub_eq_zero.mp hzero)
    apply hne
    rw [eq_window xs k w, eq_window ys k w, hfront, hback, hsame]
  · exact lt_of_le_of_lt (degree_sub_le _ _) (max_lt (hshort xs) (hshort ys))

/-- **A burst changes the remainder.** -/
theorem not_dvd_burst {g : F2[X]} (hcoeff : g.coeff 0 ≠ 0) {w : ℕ} (hg : (w : WithBot ℕ) ≤ g.degree)
    {xs ys : List Bool} (h : Burst w xs ys) : ¬ g ∣ poly xs - poly ys := by
  obtain ⟨d, m, hne, hdegree, hsub⟩ := h.sub_eq
  rw [hsub]
  intro hdvd
  have hcoprime : IsCoprime g (X ^ m) := by
    refine IsCoprime.pow_right (IsCoprime.symm ?_)
    exact irreducible_X.coprime_iff_not_dvd.mpr fun hX => hcoeff (X_dvd_iff.mp hX)
  have hd := hcoprime.dvd_of_dvd_mul_right hdvd
  exact hne (eq_zero_of_dvd_of_degree_lt hd (lt_of_lt_of_le hdegree hg))

end CyclicCode
