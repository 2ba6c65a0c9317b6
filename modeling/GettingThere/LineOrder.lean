/-
# The order of the pairs (`line_compare`)

A pair is `Better` than another one when `line_compare` says so.  That is a strict partial order
although the margin depends on both pairs, and `line_compare` is its sign.  Neither it nor any
other verdict on two pairs depends on which of its two batches a pair was measured with first.
-/
import GettingThere.LineVerdicts
import Mathlib.Order.Defs.Unbundled

open PackedBits

namespace LinePair

/-- The pair with its batches swapped. -/
def swap (p : LinePair) : LinePair := ⟨p.second, p.first⟩

@[simp] theorem valid_swap (p : LinePair) : p.swap.valid = p.valid := Bool.and_comm _ _

@[simp] theorem strongest_swap (p : LinePair) : p.swap.strongest = p.strongest := Nat.min_comm _ _

@[simp] theorem weakest_swap (p : LinePair) : p.swap.weakest = p.weakest := Nat.max_comm _ _

@[simp] theorem spread_swap (p : LinePair) : p.swap.spread = p.spread := Nat.max_comm _ _

/-- The second pair is better than the first one. -/
def Better (p q : LinePair) : Prop := lineCompare p q = 1

instance decidableBetter (p q : LinePair) : Decidable (Better p q) :=
  inferInstanceAs (Decidable (_ = _))

end LinePair

open LinePair

/-- A verdict that does not depend on the order of the batches, in either pair. -/
def SwapsAway {α : Type} (verdict : LinePair → LinePair → α) : Prop :=
  ∀ p q, verdict p.swap q = verdict p q ∧ verdict p q.swap = verdict p q

/-! ## A strict order and its sign -/

theorem returnMargin_comm (x y : WifiSample) : returnMargin x y = returnMargin y x := by
  unfold returnMargin
  rw [Nat.add_comm x.spread]

theorem linePairMargin_comm (p q : LinePair) : linePairMargin p q = linePairMargin q p := by
  unfold linePairMargin
  rw [Nat.max_comm p.spread]

/-- No pair is better than itself: its weaker batch is not stronger than its stronger one. -/
theorem not_better_self (p : LinePair) : ¬ Better p p := by
  intro h
  exact lt_irrefl _ (weakest_lt_of_gain (gain_of_lineCompare h))

instance strictOrder_better : IsStrictOrder LinePair Better where
  irrefl := not_better_self
  trans := fun _ _ _ => lineCompare_trans

/-- **`line_compare` is the sign of being better.** -/
theorem lineCompare_eq_sign (p q : LinePair) :
    lineCompare p q = if Better p q then 1 else if Better q p then -1 else 0 := by
  by_cases hbetter : Better p q
  · rw [if_pos hbetter]
    exact hbetter
  rw [if_neg hbetter]
  cases hv : p.valid && q.valid with
  | false =>
    have hnot : ¬ Better q p := fun h => by
      obtain ⟨hq, hp, -⟩ := lineCompare_eq_one.mp h
      rw [hp, hq] at hv
      exact absurd hv (by decide)
    rw [if_neg hnot]
    unfold lineCompare
    rw [hv]
    rfl
  | true =>
    obtain ⟨hp, hq⟩ := (Bool.and_eq_true _ _).mp hv
    have hback : Better q p ↔ p.weakest + linePairMargin p q ≤ q.strongest := by
      rw [linePairMargin_comm]
      exact lineCompare_eq_one.trans ⟨fun h => h.2.2, fun h => ⟨hq, hp, h⟩⟩
    have hforth : ¬ q.weakest + linePairMargin p q ≤ p.strongest :=
      fun h => hbetter (lineCompare_eq_one.mpr ⟨hp, hq, h⟩)
    unfold lineCompare
    rw [hv, lineConfirmedGain_eq hp hq, lineConfirmedGain_eq hq hp, if_neg (by decide),
      if_neg (by omega)]
    by_cases hle : p.weakest + linePairMargin p q ≤ q.strongest
    · rw [if_pos (hback.mpr hle), if_pos (by omega)]
    · rw [if_neg (fun h => hle (hback.mp h)), if_neg (by omega)]

/-- The other way round the sign changes. -/
theorem lineCompare_neg (p q : LinePair) : lineCompare q p = -lineCompare p q := by
  rw [lineCompare_eq_sign p q, lineCompare_eq_sign q p]
  by_cases hpq : Better p q
  · have hqp : ¬ Better q p := asymm hpq
    rw [if_neg hqp, if_pos hpq, if_pos hpq]
  · rw [if_neg hpq, if_neg hpq]
    by_cases hqp : Better q p
    · rw [if_pos hqp, if_pos hqp]
      rfl
    · rw [if_neg hqp, if_neg hqp]
      rfl

/-! ## Batches swapped -/

theorem swapsAway_linePairMargin : SwapsAway linePairMargin := by
  intro p q
  unfold linePairMargin
  rw [spread_swap, spread_swap]
  exact ⟨rfl, rfl⟩

theorem swapsAway_lineConfirmedGain : SwapsAway lineConfirmedGain := by
  intro p q
  unfold lineConfirmedGain
  rw [valid_swap, valid_swap, strongest_swap, weakest_swap]
  exact ⟨rfl, rfl⟩

theorem swapsAway_lineCompare : SwapsAway lineCompare := by
  intro p q
  unfold lineCompare
  rw [valid_swap, valid_swap, (swapsAway_linePairMargin p q).1, (swapsAway_linePairMargin p q).2,
    (swapsAway_lineConfirmedGain p q).1, (swapsAway_lineConfirmedGain p q).2,
    (swapsAway_lineConfirmedGain q p).1, (swapsAway_lineConfirmedGain q p).2]
  exact ⟨rfl, rfl⟩

theorem swapsAway_lineReferenceDeclined : SwapsAway lineReferenceDeclined := by
  intro p q
  unfold lineReferenceDeclined
  rw [valid_swap, valid_swap, (swapsAway_linePairMargin p q).1, (swapsAway_linePairMargin p q).2,
    (swapsAway_lineConfirmedGain q p).1, (swapsAway_lineConfirmedGain q p).2]
  exact ⟨rfl, rfl⟩

theorem lineReference_swap (p : LinePair) : lineReference p.swap = lineReference p := by
  unfold lineReference
  rw [valid_swap, weakest_swap, spread_swap, strongest_swap]

/-- Of the pair measured after the return both batches are compared with the reference, and with
each other. -/
theorem swapsAway_lineReturnConsistent : SwapsAway lineReturnConsistent := by
  intro p q
  constructor
  · unfold lineReturnConsistent
    rw [valid_swap, lineReference_swap]
  · unfold lineReturnConsistent
    rw [valid_swap, weakest_swap, strongest_swap]
    show (_ && decide (_ ≤ (returnMargin q.second q.first : ℕ)) && _ && _) = _
    rw [returnMargin_comm q.second q.first]
    exact Bool.and_right_comm _ _ _

/-- **The comparison of two pairs** is a strict partial order with its sign, and like the other
verdicts it does not depend on the order of the batches. -/
theorem lineCompare_orders :
    IsStrictOrder LinePair Better ∧
      (∀ p q, lineCompare p q = if Better p q then 1 else if Better q p then -1 else 0) ∧
      (∀ p, lineCompare p p = 0) ∧
      (∀ p q, lineCompare q p = -lineCompare p q) ∧
      (∀ p q r, lineCompare p q = 1 → lineCompare q r = 1 → lineCompare p r = 1) ∧
      SwapsAway lineCompare ∧ SwapsAway lineConfirmedGain ∧ SwapsAway linePairMargin ∧
      SwapsAway lineReferenceDeclined ∧ SwapsAway lineReturnConsistent := by
  refine ⟨strictOrder_better, lineCompare_eq_sign, ?_, lineCompare_neg,
    fun p q r => lineCompare_trans, swapsAway_lineCompare, swapsAway_lineConfirmedGain,
    swapsAway_linePairMargin, swapsAway_lineReferenceDeclined, swapsAway_lineReturnConsistent⟩
  intro p
  have hneg := lineCompare_neg p p
  omega
