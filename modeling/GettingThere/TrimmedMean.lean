/-
# Trimmed means of sorted readings

Readings are put in order by insertion into the front of an array, as a C loop does it
(`insertAt`); the outer ones are dropped on both sides (`trimmed`) and the others averaged.

* `front_insertAt`: the front of the array stays sorted, with one more item.
* `trimmed_between`: `t` items that are dropped on each side outweigh any `t` items of the list,
  so what is kept lies between the smallest and the largest of the others.
* `round_mean`, `roundAway_mean`: division of integers that rounds a mean.
-/
import Mathlib.Algebra.BigOperators.Group.List.Basic
import Mathlib.Algebra.Order.BigOperators.Group.List
import Mathlib.Algebra.Order.Round
import Mathlib.Data.List.Sort
import Mathlib.Data.Rat.Floor
import Mathlib.Logic.Function.Basic
import Mathlib.Tactic.FieldSimp
import Mathlib.Tactic.Linarith

namespace TrimmedMean

/-! ## Insertion into the front of an array -/

section Insertion

variable {α : Type}

/-- The first `n` items. -/
def front (a : ℕ → α) (n : ℕ) : List α := (List.range n).map a

theorem front_succ (a : ℕ → α) (n : ℕ) : front a (n + 1) = front a n ++ [a n] := by
  unfold front
  rw [List.range_succ, List.map_append]
  rfl

/-- A change behind the front. -/
theorem front_update_of_le (a : ℕ → α) {n k : ℕ} (h : n ≤ k) (x : α) :
    front (Function.update a k x) n = front a n := by
  unfold front
  apply List.map_congr_left
  intro i hi
  have := List.mem_range.mp hi
  exact Function.update_of_ne (by omega) _ _

variable [LinearOrder α]

/-- Moves the larger ones of the first `n` items up by one, and puts `x` where there is room. -/
def insertAt (x : α) : ℕ → (ℕ → α) → ℕ → α
  | 0, a => Function.update a 0 x
  | n + 1, a =>
    if x < a n then insertAt x n (Function.update a (n + 1) (a n))
    else Function.update a (n + 1) x

/-- Insertion leaves what is behind the front alone. -/
theorem insertAt_of_lt (x : α) {n k : ℕ} (h : n < k) (a : ℕ → α) : insertAt x n a k = a k := by
  induction n generalizing a with
  | zero => exact Function.update_of_ne (by omega) _ _
  | succ n ih =>
    unfold insertAt
    split
    · rw [ih (by omega)]
      exact Function.update_of_ne (by omega) _ _
    · exact Function.update_of_ne (by omega) _ _

/-- **Insertion** adds an item to the front of the array, and keeps the front sorted. -/
theorem front_insertAt (x : α) (n : ℕ) (a : ℕ → α) (hsorted : (front a n).Pairwise (· ≤ ·)) :
    (front (insertAt x n a) (n + 1)).Pairwise (· ≤ ·) ∧
      (front (insertAt x n a) (n + 1)).Perm (x :: front a n) := by
  induction n generalizing a with
  | zero =>
    have hone : front (insertAt x 0 a) 1 = [x] := by
      show [Function.update a 0 x 0] = [x]
      rw [Function.update_self]
    rw [hone]
    exact ⟨List.pairwise_singleton _ _, List.Perm.refl _⟩
  | succ n ih =>
    rw [front_succ] at hsorted
    obtain ⟨hfront, -, hlast⟩ := List.pairwise_append.mp hsorted
    have hle (y : α) (hy : y ∈ front a n) : y ≤ a n := hlast y hy (a n) (List.mem_singleton_self _)
    unfold insertAt
    split
    · -- the last item moves up, and `x` goes before it
      rename_i hlt
      have hkeep : front (Function.update a (n + 1) (a n)) n = front a n :=
        front_update_of_le a (by omega) _
      obtain ⟨hs, hp⟩ := ih (Function.update a (n + 1) (a n)) (by rw [hkeep]; exact hfront)
      rw [hkeep] at hp
      have hbehind : insertAt x n (Function.update a (n + 1) (a n)) (n + 1) = a n := by
        rw [insertAt_of_lt x (by omega), Function.update_self]
      rw [front_succ _ (n + 1), hbehind]
      refine ⟨List.pairwise_append.mpr ⟨hs, List.pairwise_singleton _ _, ?_⟩, ?_⟩
      · intro y hy z hz
        rw [List.mem_singleton.mp hz]
        rcases List.mem_cons.mp (hp.subset hy) with rfl | hy
        · exact hlt.le
        · exact hle y hy
      · rw [front_succ a n, ← List.cons_append]
        exact hp.append_right _
    · -- `x` is the largest
      rename_i hnot
      rw [front_succ _ (n + 1), Function.update_self, front_update_of_le a (by omega)]
      refine ⟨List.pairwise_append.mpr ⟨?_, List.pairwise_singleton _ _, ?_⟩, ?_⟩
      · rw [front_succ]
        exact hsorted
      · intro y hy z hz
        rw [List.mem_singleton.mp hz]
        rw [front_succ] at hy
        rcases List.mem_append.mp hy with hy | hy
        · exact le_trans (hle y hy) (not_lt.mp hnot)
        · rw [List.mem_singleton.mp hy]
          exact not_lt.mp hnot
      · exact List.perm_append_comm

/-- Sorts the items from `i` on into the sorted front, `n` of them. -/
def sortFrom (i : ℕ) : ℕ → (ℕ → α) → ℕ → α
  | 0, a => a
  | n + 1, a => sortFrom (i + 1) n (insertAt (a i) i a)

/-- The loop sorts the array. -/
theorem front_sortFrom (n i : ℕ) (a : ℕ → α) (hsorted : (front a i).Pairwise (· ≤ ·)) :
    (front (sortFrom i n a) (i + n)).Pairwise (· ≤ ·) ∧
      (front (sortFrom i n a) (i + n)).Perm (front a (i + n)) := by
  induction n generalizing i a with
  | zero => exact ⟨hsorted, List.Perm.refl _⟩
  | succ n ih =>
    obtain ⟨hs, hp⟩ := front_insertAt (a i) i a hsorted
    obtain ⟨hs', hp'⟩ := ih (i + 1) (insertAt (a i) i a) hs
    have hsum : i + 1 + n = i + (n + 1) := by omega
    rw [hsum] at hs' hp'
    refine ⟨hs', hp'.trans ?_⟩
    -- behind the front nothing has changed
    have hsplit (b : ℕ → α) : front b (i + (n + 1)) =
        front b (i + 1) ++ (List.range' (i + 1) n).map b := by
      unfold front
      rw [← hsum, List.range_eq_range', List.range_eq_range', ← List.range'_append_1,
        List.map_append, Nat.zero_add]
    rw [hsplit, hsplit]
    have hrest : (List.range' (i + 1) n).map (insertAt (a i) i a) =
        (List.range' (i + 1) n).map a := by
      apply List.map_congr_left
      intro k hk
      rw [List.mem_range'_1] at hk
      exact insertAt_of_lt _ (by omega) a
    rw [hrest]
    refine List.Perm.append_right _ (hp.trans ?_)
    rw [front_succ]
    exact (List.perm_append_singleton _ _).symm

/-- A sorted arrangement is the one `insertionSort` gives. -/
theorem eq_insertionSort {xs ys : List α} (hs : xs.Pairwise (· ≤ ·)) (hp : xs.Perm ys) :
    xs = ys.insertionSort (· ≤ ·) := by
  apply List.Perm.eq_of_pairwise' hs (List.pairwise_insertionSort _ ys)
  exact hp.trans (List.perm_insertionSort _ ys).symm

end Insertion

/-! ## Trimming -/

section Trimming

variable {α : Type}

/-- The items of a list without the first and the last `t`. -/
def trimmed (t : ℕ) (l : List α) : List α := (l.drop t).take (l.length - 2 * t)

theorem length_trimmed (t : ℕ) (l : List α) : (trimmed t l).length = l.length - 2 * t := by
  unfold trimmed
  rw [List.length_take, List.length_drop]
  omega

theorem mem_of_mem_trimmed {t : ℕ} {l : List α} {x : α} (h : x ∈ trimmed t l) : x ∈ l :=
  List.mem_of_mem_drop (List.mem_of_mem_take h)

/-- A list is what is dropped in front, what is kept, and what is dropped behind. -/
theorem eq_trimmed_append {t : ℕ} {l : List α} (ht : 2 * t ≤ l.length) :
    l = l.take t ++ (trimmed t l ++ l.drop (l.length - t)) := by
  have hlast : l.drop (l.length - t) = (l.drop t).drop (l.length - 2 * t) := by
    rw [List.drop_drop]
    congr 1
    omega
  unfold trimmed
  rw [hlast, List.take_append_drop, List.take_append_drop]

/-- More items than there are in `odd` have the property: one of the others has it. -/
theorem exists_of_length_lt {l odd rest : List α} (hp : l.Perm (odd ++ rest)) {t : ℕ}
    (ht : odd.length ≤ t) (p : α → Bool) (hcount : t < l.countP p) : ∃ r ∈ rest, p r = true := by
  have hodd := odd.countP_le_length (p := p)
  rw [hp.countP_eq, List.countP_append] at hcount
  exact List.countP_pos_iff.mp (by omega)

variable [LinearOrder α]

/-- **What is kept of a sorted list** lies between items of `rest`, when there are no more others
than are dropped on each side. -/
theorem trimmed_between {l odd rest : List α} {t : ℕ} (hsorted : l.Pairwise (· ≤ ·))
    (hp : l.Perm (odd ++ rest)) (hodd : odd.length ≤ t) (ht : 2 * t ≤ l.length) {x : α}
    (hx : x ∈ trimmed t l) : (∃ r ∈ rest, r ≤ x) ∧ ∃ r ∈ rest, x ≤ r := by
  have hsplit := eq_trimmed_append ht
  have hfront : (l.take t).length = t := by
    rw [List.length_take]
    omega
  have hback : (l.drop (l.length - t)).length = t := by
    rw [List.length_drop]
    omega
  rw [hsplit] at hsorted
  obtain ⟨-, hrest, hbelow⟩ := List.pairwise_append.mp hsorted
  obtain ⟨-, -, habove⟩ := List.pairwise_append.mp hrest
  have hself : 0 < (trimmed t l).countP fun y => decide (y ≤ x) :=
    List.countP_pos_iff.mpr ⟨x, hx, decide_eq_true le_rfl⟩
  have hself' : 0 < (trimmed t l).countP fun y => decide (x ≤ y) :=
    List.countP_pos_iff.mpr ⟨x, hx, decide_eq_true le_rfl⟩
  have hlow : t < l.countP fun y => decide (y ≤ x) := by
    have hall : (l.take t).countP (fun y => decide (y ≤ x)) = t := by
      rw [List.countP_eq_length.mpr, hfront]
      exact fun y hy => decide_eq_true (hbelow y hy x (List.mem_append_left _ hx))
    rw [hsplit, List.countP_append, List.countP_append, hall]
    omega
  have hhigh : t < l.countP fun y => decide (x ≤ y) := by
    have hall : (l.drop (l.length - t)).countP (fun y => decide (x ≤ y)) = t := by
      rw [List.countP_eq_length.mpr, hback]
      exact fun y hy => decide_eq_true (habove x hx y hy)
    rw [hsplit, List.countP_append, List.countP_append, hall]
    omega
  obtain ⟨r, hr, hle⟩ := exists_of_length_lt hp hodd _ hlow
  obtain ⟨r', hr', hle'⟩ := exists_of_length_lt hp hodd _ hhigh
  exact ⟨⟨r, hr, of_decide_eq_true hle⟩, ⟨r', hr', of_decide_eq_true hle'⟩⟩

end Trimming

/-! ## Means -/

/-- The mean of items between two bounds, times their number. -/
theorem sum_between {l : List ℤ} {a b : ℤ} (h : ∀ x ∈ l, a ≤ x ∧ x ≤ b) :
    l.length * a ≤ l.sum ∧ l.sum ≤ l.length * b := by
  induction l with
  | nil => exact ⟨by simp, by simp⟩
  | cons x l ih =>
    obtain ⟨hlow, hhigh⟩ := ih fun y hy => h y (List.mem_cons_of_mem _ hy)
    obtain ⟨ha, hb⟩ := h x List.mem_cons_self
    rw [List.sum_cons, List.length_cons]
    push_cast
    constructor
    · linarith
    · linarith

/-- Halves away from zero. -/
def roundAway (x : ℚ) : ℤ := if 0 ≤ x then round x else -round (-x)

/-- **The mean of naturals, rounded**: half of the number is added before the division. -/
theorem round_mean (sum : ℕ) {k : ℕ} (hk : 0 < k) :
    round ((sum : ℚ) / k) = ((sum + k / 2) / k : ℕ) := by
  have hdiv := Nat.div_add_mod (sum + k / 2) k
  have hmod := Nat.mod_lt (sum + k / 2) hk
  generalize (sum + k / 2) / k = q at hdiv ⊢
  have hpos : (0 : ℚ) < k := by exact_mod_cast hk
  have hlow : 2 * (k * q) ≤ 2 * sum + k := by omega
  have hhigh : 2 * sum < 2 * (k * q) + k := by omega
  have hlow' : 2 * ((k : ℚ) * q) ≤ 2 * sum + k := by exact_mod_cast hlow
  have hhigh' : 2 * (sum : ℚ) < 2 * (k * q) + k := by exact_mod_cast hhigh
  rw [round_eq_iff, Set.mem_Ico, le_div_iff₀ hpos, div_lt_iff₀ hpos]
  push_cast
  constructor
  · linarith
  · linarith

/-- **The mean of negative integers, rounded**: with a division that truncates, half of the number
is taken away first. -/
theorem roundAway_mean {sum : ℤ} (hsum : sum ≤ 0) {k : ℕ} (hk : 0 < k) :
    roundAway ((sum : ℚ) / k) = (sum - k / 2).tdiv k := by
  obtain ⟨m, rfl⟩ : ∃ m : ℕ, sum = -m := ⟨sum.natAbs, by omega⟩
  have hquot : (-(m : ℤ) - (k : ℤ) / 2).tdiv k = -((m + k / 2) / k : ℕ) := by
    have hneg : -(m : ℤ) - (k : ℤ) / 2 = -((m + k / 2 : ℕ) : ℤ) := by
      push_cast
      ring
    rw [hneg, Int.neg_tdiv, Int.tdiv_eq_ediv_of_nonneg (by omega)]
    rfl
  rw [hquot, ← round_mean m hk]
  unfold roundAway
  push_cast
  have hpos : (0 : ℚ) < k := by exact_mod_cast hk
  have hm : (0 : ℚ) ≤ m := by exact_mod_cast Nat.zero_le m
  rw [neg_div, neg_neg]
  split
  · -- only zero is not negative
    rename_i h0
    have hzero : (m : ℚ) / k = 0 := le_antisymm (by linarith) (div_nonneg hm hpos.le)
    rw [hzero]
    simp
  · rfl

end TrimmedMean
