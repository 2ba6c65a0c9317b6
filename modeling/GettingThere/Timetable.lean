/-
# Steps that each last for a while

A list of steps may be gone through once, or its last part over and over (`place`).  When every
step lasts for a given time, `starts` says when each begins, and `stepAt` which step a moment
belongs to.
-/
import Mathlib.Algebra.BigOperators.Group.Finset.Basic
import Mathlib.Algebra.Order.BigOperators.Group.Finset

namespace Timetable

/-! ## Going round -/

/-- The place after `i` steps, in a list of `count` places whose part from `loop` on repeats. -/
def place (count loop i : ℕ) : ℕ :=
  if i < count then i else loop + (i - count) % (count - loop)

variable {count loop : ℕ}

@[simp] theorem place_of_lt {i : ℕ} (h : i < count) : place count loop i = i := if_pos h

/-- The next place is the one behind it, or the first one that repeats. -/
theorem place_succ (hloop : loop < count) (i : ℕ) :
    place count loop (i + 1) =
      if place count loop i + 1 < count then place count loop i + 1 else loop := by
  rcases Nat.lt_trichotomy (i + 1) count with hi | hi | hi
  · rw [place_of_lt hi, place_of_lt (by omega), if_pos hi]
  · rw [place_of_lt (show i < count by omega), if_neg (by omega), place, if_neg (by omega), hi,
      Nat.sub_self, Nat.zero_mod, Nat.add_zero]
  · have hmod := Nat.mod_lt (i - count) (show 0 < count - loop by omega)
    have hnext : i + 1 - count =
        (count - loop) * ((i - count) / (count - loop)) + ((i - count) % (count - loop) + 1) := by
      have := Nat.div_add_mod (i - count) (count - loop)
      omega
    have hplace : place count loop i = loop + (i - count) % (count - loop) := if_neg (by omega)
    rw [hplace, place, if_neg (by omega), hnext, Nat.mul_add_mod]
    split
    · rw [Nat.mod_eq_of_lt (by omega), Nat.add_assoc]
    · have hround : (i - count) % (count - loop) + 1 = count - loop := by omega
      rw [hround, Nat.mod_self, Nat.add_zero]

/-! ## Time -/

/-- When a step begins; step `j` lasts `d j`. -/
def starts (d : ℕ → ℕ) (i : ℕ) : ℕ := ∑ j ∈ Finset.range i, d j

variable {d : ℕ → ℕ}

@[simp] theorem starts_zero : starts d 0 = 0 := rfl

theorem starts_succ (i : ℕ) : starts d (i + 1) = starts d i + d i := Finset.sum_range_succ d i

theorem starts_mono {i j : ℕ} (h : i ≤ j) : starts d i ≤ starts d j :=
  Finset.sum_le_sum_of_subset (Finset.range_subset_range.mpr h)

/-- Steps that take time come to an end. -/
theorem le_starts (hd : ∀ j, 0 < d j) (i : ℕ) : i ≤ starts d i := by
  induction i with
  | zero => exact Nat.zero_le _
  | succ i ih =>
    have := hd i
    rw [starts_succ]
    omega

/-- The step a moment belongs to. -/
def stepAt (d : ℕ → ℕ) (t : ℕ) : ℕ := Nat.findGreatest (fun i => starts d i ≤ t) t

/-- A step begins, and the next one has not. -/
theorem stepAt_eq (hd : ∀ j, 0 < d j) {i t : ℕ} (hbegun : starts d i ≤ t)
    (hnext : t < starts d (i + 1)) : stepAt d t = i := by
  apply le_antisymm
  · by_contra hlt
    have hlater : starts d (i + 1) ≤ starts d (stepAt d t) := starts_mono (by omega)
    have hbound : starts d (stepAt d t) ≤ t :=
      Nat.findGreatest_spec (P := fun i => starts d i ≤ t) (Nat.zero_le t) (Nat.zero_le t)
    omega
  · exact Nat.le_findGreatest ((le_starts hd i).trans hbegun) hbegun

end Timetable
