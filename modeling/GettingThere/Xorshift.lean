/-
# Steps that lose nothing

A loop over words whose step can be undone goes round a cycle of states.

* `xor_shiftLeft_injective`, `xor_shiftRight_injective`: a word xored with its own shift determines
  the word.  The difference of two such words would be its own shift, however far.
* `iterate_ne`, `iterate_succ_ne`: an injective step that moves the first state never reaches a
  state that it does not move, and it never stands still;
* `exists_period`: over finitely many states it comes back to the first one, again and again.
-/
import Mathlib.Dynamics.PeriodicPts.Lemmas

namespace Xorshift

variable {w k : ℕ}

/-- A word that is its own shift is zero. -/
theorem eq_zero_of_shiftLeft {z : BitVec w} (hk : 0 < k) (h : z <<< k = z) : z = 0#w := by
  have hshift (n : ℕ) : z <<< (k * n) = z := by
    induction n with
    | zero => simp
    | succ n ih => rw [Nat.mul_succ, BitVec.shiftLeft_add, ih, h]
  rw [← hshift w]
  exact BitVec.shiftLeft_eq_zero (Nat.le_mul_of_pos_left w hk)

theorem eq_zero_of_shiftRight {z : BitVec w} (hk : 0 < k) (h : z >>> k = z) : z = 0#w := by
  have hshift (n : ℕ) : z >>> (k * n) = z := by
    induction n with
    | zero => simp
    | succ n ih => rw [Nat.mul_succ, BitVec.shiftRight_add, ih, h]
  rw [← hshift w]
  exact BitVec.ushiftRight_eq_zero (Nat.le_mul_of_pos_left w hk)

/-- Two words with the same image differ by a word that is its own image. -/
theorem xor_eq_of_xor {x y p q : BitVec w} (h : x ^^^ p = y ^^^ q) : p ^^^ q = x ^^^ y := by
  have hx : x ^^^ (x ^^^ p) = p := by rw [← BitVec.xor_assoc, BitVec.xor_self, BitVec.zero_xor]
  calc p ^^^ q = x ^^^ (y ^^^ q) ^^^ q := by rw [← h, hx]
    _ = x ^^^ y := by
      rw [BitVec.xor_assoc, BitVec.xor_assoc, BitVec.xor_self, BitVec.xor_zero]

theorem xor_shiftLeft_injective (hk : 0 < k) :
    Function.Injective fun x : BitVec w => x ^^^ (x <<< k) := by
  intro x y h
  have hself : (x ^^^ y) <<< k = x ^^^ y := by
    rw [BitVec.shiftLeft_xor_distrib]
    exact xor_eq_of_xor h
  exact BitVec.xor_eq_zero_iff.mp (eq_zero_of_shiftLeft hk hself)

theorem xor_shiftRight_injective (hk : 0 < k) :
    Function.Injective fun x : BitVec w => x ^^^ (x >>> k) := by
  intro x y h
  have hself : (x ^^^ y) >>> k = x ^^^ y := by
    rw [BitVec.ushiftRight_xor_distrib]
    exact xor_eq_of_xor h
  exact BitVec.xor_eq_zero_iff.mp (eq_zero_of_shiftRight hk hself)

/-! ## Iteration -/

variable {α : Type} {f : α → α} {x z : α}

/-- A state that the step does not move is not reached from another one. -/
theorem iterate_ne (hf : Function.Injective f) (hz : f z = z) (hx : x ≠ z) (n : ℕ) :
    f^[n] x ≠ z := by
  intro h
  rw [← Function.iterate_fixed hz n] at h
  exact hx (hf.iterate n h)

/-- If the first step moves the state, every step does. -/
theorem iterate_succ_ne (hf : Function.Injective f) (hx : f x ≠ x) (n : ℕ) :
    f^[n + 1] x ≠ f^[n] x := by
  intro h
  rw [Function.iterate_succ_apply] at h
  exact hx (hf.iterate n h)

/-- Over finitely many states the first one comes back. -/
theorem exists_period [Finite α] (hf : Function.Injective f) (x : α) :
    ∃ p > 0, ∀ n, f^[n + p] x = f^[n] x := by
  obtain ⟨p, hp, hperiod⟩ := Function.mem_periodicPts.mp (hf.mem_periodicPts x)
  refine ⟨p, hp, fun n => ?_⟩
  rw [Function.iterate_add_apply]
  exact congrArg _ hperiod

end Xorshift
