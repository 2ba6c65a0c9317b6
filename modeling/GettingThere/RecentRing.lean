/-
# A ring of the most recent values

An array whose next slot moves on with every value and starts again at the end keeps the values
pushed last.  The values pushed so far are a list, newest first; once the ring is full, its slots
are the newest values in some order.
-/
import Mathlib.Data.List.Rotate
import Mathlib.Data.Nat.ModEq
import Mathlib.Tactic.Common

/-- `slots` is a ring of `n` slots after `pushed`, newest first, with `count` of them in use and
`next` the one to be used next. -/
structure RecentRing {α : Type*} (n : ℕ) (slots : List α) (count next : ℕ) (pushed : List α) :
    Prop where
  length : slots.length = n
  count_eq : count = min n pushed.length
  next_eq : next = pushed.length % n
  slot : ∀ i, i < n → i < pushed.length → slots[(pushed.length - 1 - i) % n]? = pushed[i]?

namespace RecentRing

variable {α : Type*} {n : ℕ} {slots : List α} {count next : ℕ} {pushed : List α}

/-- Different recent values are in different slots. -/
theorem mod_ne {len i : ℕ} (hi : i + 1 < n) (hlen : i < len) : len % n ≠ (len - 1 - i) % n := by
  intro heq
  have hn : 0 < n := by omega
  have hdvd : n ∣ len - (len - 1 - i) := (Nat.modEq_iff_dvd' (by omega)).mp heq.symm
  have hle := Nat.le_of_dvd (by omega) hdvd
  omega

/-- **A push** overwrites the oldest value. -/
theorem push (h : RecentRing n slots count next pushed) (hn : 0 < n) (a : α) :
    RecentRing n (slots.set next a) (min n (count + 1)) ((next + 1) % n) (a :: pushed) where
  length := by rw [List.length_set, h.length]
  count_eq := by
    rw [h.count_eq, List.length_cons]
    omega
  next_eq := by rw [h.next_eq, List.length_cons, Nat.mod_add_mod]
  slot i hi hlen := by
    have hnext : next < slots.length := by
      rw [h.next_eq, h.length]
      exact Nat.mod_lt _ hn
    cases i with
    | zero =>
      rw [List.length_cons, Nat.add_sub_cancel, Nat.sub_zero, ← h.next_eq,
        List.getElem?_set_self hnext]
      rfl
    | succ i =>
      rw [List.length_cons] at hlen
      have hother : (pushed.length + 1 - 1 - (i + 1)) % n = (pushed.length - 1 - i) % n := by
        congr 1
        omega
      rw [List.length_cons, hother, List.getElem?_set_ne, List.getElem?_cons_succ]
      · exact h.slot i (by omega) (by omega)
      · rw [h.next_eq]
        exact mod_ne hi (by omega)

/-- **A full ring** holds the newest values. -/
theorem perm (h : RecentRing n slots count next pushed) (hfull : count = n) :
    n ≤ pushed.length ∧ slots.Perm (pushed.take n) := by
  have hlen : n ≤ pushed.length := by
    have := h.count_eq
    omega
  refine ⟨hlen, ?_⟩
  have hrotate : slots.rotate next = (pushed.take n).reverse := by
    apply List.ext_getElem?
    intro j
    rcases Nat.lt_or_ge j n with hj | hj
    · rw [List.getElem?_rotate (by rw [h.length]; exact hj), h.length, h.next_eq,
        List.getElem?_reverse (by rw [List.length_take]; omega), List.length_take,
        Nat.min_eq_left hlen, List.getElem?_take_of_lt (by omega),
        ← h.slot (n - 1 - j) (by omega) (by omega)]
      congr 1
      -- the oldest value of the ring is in the next slot
      have hindex : j + pushed.length = pushed.length - 1 - (n - 1 - j) + n := by omega
      rw [Nat.add_mod_mod, hindex, Nat.add_mod_right]
    · rw [List.getElem?_eq_none, List.getElem?_eq_none]
      · rw [List.length_reverse, List.length_take]
        omega
      · rw [List.length_rotate, h.length]
        exact hj
  have hslots : slots.Perm (slots.rotate next) := (List.rotate_perm slots next).symm
  rw [hrotate] at hslots
  exact hslots.trans (List.reverse_perm _)

end RecentRing
