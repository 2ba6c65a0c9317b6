/-
# A queue in a ring of cells

A queue is kept in an array of `n` cells, from cell `pos` on and past the end at the beginning
again.  `window` reads cells out of the ring and `fill` writes cells into it; `window_fill` says
that what is written behind a window is queued behind it, as long as there is room.
-/
import Mathlib.Data.List.Basic
import Mathlib.Data.Nat.ModEq
import Mathlib.Tactic.Common

namespace RingQueue

variable {α : Type*} {n : ℕ}

/-- The `len` cells of a ring from position `pos` on. -/
def window (n : ℕ) (a : α) (cells : List α) (pos len : ℕ) : List α :=
  (List.range len).map fun i => cells.getD ((pos + i) % n) a

/-- Writes into a ring from position `pos` on. -/
def fill (n : ℕ) : List α → ℕ → List α → List α
  | cells, _, [] => cells
  | cells, pos, b :: bs => fill n (cells.set (pos % n) b) (pos + 1) bs

@[simp] theorem length_window (a : α) (cells : List α) (pos len : ℕ) :
    (window n a cells pos len).length = len := by
  unfold window
  rw [List.length_map, List.length_range]

@[simp] theorem length_fill (cells : List α) (pos : ℕ) (bs : List α) :
    (fill n cells pos bs).length = cells.length := by
  induction bs generalizing cells pos with
  | nil => rfl
  | cons b bs ih =>
    unfold fill
    rw [ih, List.length_set]

/-! ## Windows -/

/-- Two windows, one behind the other. -/
theorem window_add (a : α) (cells : List α) (pos len more : ℕ) :
    window n a cells pos (len + more) =
      window n a cells pos len ++ window n a cells (pos + len) more := by
  unfold window
  rw [List.range_add, List.map_append, List.map_map]
  refine congrArg (_ ++ ·) (List.map_congr_left ?_)
  intro i _
  rw [Function.comp_apply, Nat.add_assoc]

/-- A position is one modulo `n`. -/
theorem window_mod (a : α) (cells : List α) (pos len : ℕ) :
    window n a cells (pos % n) len = window n a cells pos len := by
  unfold window
  apply List.map_congr_left
  intro i _
  rw [Nat.mod_add_mod]

/-- What is taken from the front of a window. -/
theorem take_window (a : α) (cells : List α) (pos : ℕ) {k len : ℕ} (h : k ≤ len) :
    (window n a cells pos len).take k = window n a cells pos k := by
  obtain ⟨more, rfl⟩ := Nat.exists_eq_add_of_le h
  rw [window_add]
  exact List.take_left' (length_window a cells pos k)

/-- What is left of it. -/
theorem drop_window (a : α) (cells : List α) (pos : ℕ) {k len : ℕ} (h : k ≤ len) :
    (window n a cells pos len).drop k = window n a cells (pos + k) (len - k) := by
  obtain ⟨more, rfl⟩ := Nat.exists_eq_add_of_le h
  rw [window_add, Nat.add_sub_cancel_left]
  exact List.drop_left' (length_window a cells pos k)

/-! ## Writing -/

/-- Positions less than `n` apart are different cells. -/
theorem mod_ne {pos i j : ℕ} (hij : i < j) (hj : j < i + n) : (pos + i) % n ≠ (pos + j) % n := by
  intro heq
  have hdvd : n ∣ pos + j - (pos + i) := (Nat.modEq_iff_dvd' (by omega)).mp heq
  have hle := Nat.le_of_dvd (by omega) hdvd
  omega

/-- A write beside a window does not change it. -/
theorem window_fill_before (a : α) (cells : List α) (pos : ℕ) {len gap : ℕ} {bs : List α}
    (hgap : len ≤ gap) (hroom : gap + bs.length ≤ n) :
    window n a (fill n cells (pos + gap) bs) pos len = window n a cells pos len := by
  induction bs generalizing cells gap with
  | nil => rfl
  | cons b bs ih =>
    rw [List.length_cons] at hroom
    unfold fill
    rw [Nat.add_assoc, ih _ (by omega) (by omega)]
    unfold window
    apply List.map_congr_left
    intro i hi
    rw [List.mem_range] at hi
    have hne : (pos + gap) % n ≠ (pos + i) % n := (mod_ne (by omega) (by omega)).symm
    rw [List.getD_eq_getElem?_getD, List.getD_eq_getElem?_getD, List.getElem?_set_ne hne]

/-- What was written is read back. -/
theorem window_fill_self (a : α) {cells : List α} (hlen : cells.length = n) (pos : ℕ)
    {bs : List α} (hroom : bs.length ≤ n) :
    window n a (fill n cells pos bs) pos bs.length = bs := by
  induction bs generalizing cells pos with
  | nil => rfl
  | cons b bs ih =>
    rw [List.length_cons] at hroom ⊢
    unfold fill
    have hset : (cells.set (pos % n) b).length = n := by rw [List.length_set, hlen]
    have hcell : pos % n < cells.length := by
      rw [hlen]
      exact Nat.mod_lt _ (by omega)
    have hfirst : window n a (fill n (cells.set (pos % n) b) (pos + 1) bs) pos 1 = [b] := by
      rw [window_fill_before a _ pos (Nat.le_refl 1) (by omega)]
      unfold window
      rw [List.range_one, List.map_singleton, Nat.add_zero, List.getD_eq_getElem?_getD,
        List.getElem?_set_self hcell]
      rfl
    rw [Nat.add_comm bs.length 1, window_add, hfirst, ih hset (pos + 1) (by omega)]
    rfl

/-- **What is written behind a window is queued behind it.** -/
theorem window_fill (a : α) {cells : List α} (hlen : cells.length = n) (pos : ℕ) {len : ℕ}
    {bs : List α} (hroom : len + bs.length ≤ n) :
    window n a (fill n cells (pos + len) bs) pos (len + bs.length) =
      window n a cells pos len ++ bs := by
  rw [window_add, window_fill_before a cells pos (Nat.le_refl len) hroom,
    window_fill_self a hlen (pos + len) (by omega)]

end RingQueue
