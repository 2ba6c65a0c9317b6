/-
# Verdicts on pairs of readings

Two pairs are compared by the strongest reading of one and the weakest of the other
(`line_confirmed_gain`), beyond a margin for their noise.  The comparison is transitive although
the margin is not the same for every two pairs, and a pair that is stronger has a stronger weaker
batch.

`line_reference_declined` and `line_return_consistent` judge a pair against the same reference
with different margins: one takes the largest spread once, the other adds the spreads up.
-/
import GettingThere.LineSearch

open PackedBits

namespace LinePair

/-- Codes and spreads as the Wi-Fi sampler gives them. -/
structure Measured (p : LinePair) : Prop where
  first : 1 ≤ p.first.code ∧ p.first.code ≤ 126 ∧ p.first.spread ≤ 125
  second : 1 ≤ p.second.code ∧ p.second.code ≤ 126 ∧ p.second.spread ≤ 125

instance (p : LinePair) : Decidable p.Measured :=
  decidable_of_iff ((1 ≤ p.first.code ∧ p.first.code ≤ 126 ∧ p.first.spread ≤ 125) ∧
    (1 ≤ p.second.code ∧ p.second.code ≤ 126 ∧ p.second.spread ≤ 125))
    ⟨fun h => ⟨h.1, h.2⟩, fun h => ⟨h.first, h.second⟩⟩

theorem valid_iff {p : LinePair} : p.valid = true ↔ p.first.code ≠ 127 ∧ p.second.code ≠ 127 := by
  unfold valid rssiMissingCode
  rw [Bool.and_eq_true, decide_eq_true_iff, decide_eq_true_iff]

theorem Measured.valid {p : LinePair} (h : p.Measured) : p.valid = true := by
  rw [valid_iff]
  have := h.first
  have := h.second
  omega

theorem strongest_le_weakest (p : LinePair) : p.strongest ≤ p.weakest :=
  le_trans (min_le_left _ _) (le_max_left _ _)

end LinePair

/-! ## Gains -/

section Gain

variable {p q r : LinePair}

theorem lineConfirmedGain_eq (hp : p.valid = true) (hq : q.valid = true) :
    lineConfirmedGain p q = (p.strongest : ℤ) - q.weakest := by
  unfold lineConfirmedGain
  rw [hp, hq]
  rfl

/-- A gain is one of valid pairs: both new batches are stronger than the strongest old one. -/
theorem lineConfirmedGain_pos :
    0 < lineConfirmedGain p q ↔ p.valid = true ∧ q.valid = true ∧ q.weakest < p.strongest := by
  by_cases hv : p.valid = true ∧ q.valid = true
  · rw [lineConfirmedGain_eq hv.1 hv.2]
    exact ⟨fun h => ⟨hv.1, hv.2, by omega⟩, fun h => by have := h.2.2; omega⟩
  · have hzero : lineConfirmedGain p q = 0 := by
      unfold lineConfirmedGain
      rw [Bool.eq_false_iff.mpr fun h => hv ((Bool.and_eq_true _ _).mp h)]
      rfl
    rw [hzero]
    exact ⟨fun h => absurd h (lt_irrefl 0), fun h => absurd ⟨h.1, h.2.1⟩ hv⟩

/-- A gain lowers the weaker code. -/
theorem weakest_lt_of_gain (h : 0 < lineConfirmedGain p q) : q.weakest < p.weakest :=
  lt_of_lt_of_le (lineConfirmedGain_pos.mp h).2.2 p.strongest_le_weakest

theorem three_le_linePairMargin (p q : LinePair) : 3 ≤ linePairMargin p q := le_max_left _ _

/-- One pair is better than another one. -/
theorem lineCompare_eq_one : lineCompare p q = 1 ↔
    p.valid = true ∧ q.valid = true ∧ q.weakest + linePairMargin p q ≤ p.strongest := by
  unfold lineCompare
  by_cases hv : p.valid = true ∧ q.valid = true
  · rw [hv.1, hv.2, lineConfirmedGain_eq hv.1 hv.2]
    simp only [Bool.and_self, Bool.not_true, Bool.false_eq_true, if_false]
    split
    · exact ⟨fun _ => ⟨trivial, trivial, by omega⟩, fun _ => rfl⟩
    · rename_i hle
      have hnot : ¬ q.weakest + linePairMargin p q ≤ p.strongest := by omega
      split
      · exact ⟨fun h => absurd h (by decide), fun h => absurd h.2.2 hnot⟩
      · exact ⟨fun h => absurd h (by decide), fun h => absurd h.2.2 hnot⟩
  · rw [Bool.eq_false_iff.mpr fun h => hv ((Bool.and_eq_true _ _).mp h)]
    simp only [Bool.not_false, if_true]
    exact ⟨fun h => absurd h (by decide), fun h => absurd ⟨h.1, h.2.1⟩ hv⟩

theorem lineCompare_pos : 0 < lineCompare p q ↔ lineCompare p q = 1 := by
  have hcases : lineCompare p q = 1 ∨ lineCompare p q = -1 ∨ lineCompare p q = 0 := by
    unfold lineCompare
    split
    · exact .inr (.inr rfl)
    · split
      · exact .inl rfl
      · split
        · exact .inr (.inl rfl)
        · exact .inr (.inr rfl)
  omega

theorem gain_of_lineCompare (h : lineCompare p q = 1) : 0 < lineConfirmedGain p q := by
  obtain ⟨hp, hq, hle⟩ := lineCompare_eq_one.mp h
  have := three_le_linePairMargin p q
  exact lineConfirmedGain_pos.mpr ⟨hp, hq, by omega⟩

/-- **Being better is transitive**: the margins of both steps are more than the margin of
both. -/
theorem lineCompare_trans (h : lineCompare p q = 1) (h' : lineCompare q r = 1) :
    lineCompare p r = 1 := by
  obtain ⟨hp, hq, hpq⟩ := lineCompare_eq_one.mp h
  obtain ⟨-, hr, hqr⟩ := lineCompare_eq_one.mp h'
  have hmargin : linePairMargin p r ≤ linePairMargin p q + linePairMargin q r := by
    unfold linePairMargin minProgressDb
    omega
  have := q.strongest_le_weakest
  exact lineCompare_eq_one.mpr ⟨hp, hr, by omega⟩

end Gain

/-! ## Declines and recoveries -/

section Verdicts

variable {reference current : LinePair}

theorem lineReferenceDeclined_iff : lineReferenceDeclined reference current = true ↔
    reference.valid = true ∧ current.valid = true ∧
      reference.weakest + linePairMargin reference current < current.strongest := by
  unfold lineReferenceDeclined
  rw [Bool.and_eq_true, Bool.and_eq_true, decide_eq_true_iff]
  constructor
  · intro ⟨⟨hr, hc⟩, hgain⟩
    rw [lineConfirmedGain_eq hc hr] at hgain
    exact ⟨hr, hc, by omega⟩
  · intro ⟨hr, hc, hlt⟩
    rw [lineConfirmedGain_eq hc hr]
    exact ⟨⟨hr, hc⟩, by omega⟩

theorem lineReference_code (h : reference.valid = true) :
    (lineReference reference).code = reference.weakest := by
  unfold lineReference
  rw [if_pos h]

theorem lineReturnConsistent_iff : lineReturnConsistent reference current = true ↔
    reference.valid = true ∧ current.valid = true ∧
      current.weakest ≤ current.strongest + returnMargin current.first current.second ∧
      current.first.code ≤
        reference.weakest + returnMargin (lineReference reference) current.first ∧
      current.second.code ≤
        reference.weakest + returnMargin (lineReference reference) current.second := by
  unfold lineReturnConsistent
  simp only [Bool.and_eq_true, decide_eq_true_iff]
  constructor
  · intro ⟨⟨⟨⟨hr, hc⟩, hd⟩, hf⟩, hs⟩
    rw [lineReference_code hr] at hf hs
    exact ⟨hr, hc, by omega, by omega, by omega⟩
  · intro ⟨hr, hc, hd, hf, hs⟩
    rw [lineReference_code hr]
    exact ⟨⟨⟨⟨hr, hc⟩, by omega⟩, by omega⟩, by omega⟩

/-- **A decline that counts as a recovery** exists, for a reference and given spreads of the
readings, exactly if both tolerances of the return are wider than the margin of the decline. -/
theorem declined_and_consistent_iff (hr : reference.Measured) (a b : ℕ) :
    (∃ c d, 1 ≤ c ∧ c ≤ 126 ∧ 1 ≤ d ∧ d ≤ 126 ∧
      lineReferenceDeclined reference ⟨⟨c, a⟩, ⟨d, b⟩⟩ = true ∧
      lineReturnConsistent reference ⟨⟨c, a⟩, ⟨d, b⟩⟩ = true) ↔
    linePairMargin reference ⟨⟨1, a⟩, ⟨1, b⟩⟩ < returnMargin (lineReference reference) ⟨1, a⟩ ∧
    linePairMargin reference ⟨⟨1, a⟩, ⟨1, b⟩⟩ < returnMargin (lineReference reference) ⟨1, b⟩ ∧
    reference.weakest + linePairMargin reference ⟨⟨1, a⟩, ⟨1, b⟩⟩ < 126 := by
  -- the margins are about spreads
  have hmargin : ∀ c d, linePairMargin reference ⟨⟨c, a⟩, ⟨d, b⟩⟩ =
      linePairMargin reference ⟨⟨1, a⟩, ⟨1, b⟩⟩ := fun _ _ => rfl
  have hreturn : ∀ c s, returnMargin (lineReference reference) ⟨c, s⟩ =
      returnMargin (lineReference reference) ⟨1, s⟩ := fun _ _ => rfl
  constructor
  · intro ⟨c, d, _, hc, _, _, hdeclined, hconsistent⟩
    obtain ⟨-, -, hlt⟩ := lineReferenceDeclined_iff.mp hdeclined
    obtain ⟨-, -, -, hfirst, hsecond⟩ := lineReturnConsistent_iff.mp hconsistent
    rw [hmargin] at hlt
    rw [hreturn] at hfirst hsecond
    have hle : LinePair.strongest ⟨⟨c, a⟩, ⟨d, b⟩⟩ ≤ c := min_le_left _ _
    have hle' : LinePair.strongest ⟨⟨c, a⟩, ⟨d, b⟩⟩ ≤ d := min_le_right _ _
    dsimp only at hfirst hsecond
    exact ⟨by omega, by omega, by omega⟩
  · intro ⟨hfirst, hsecond, hroom⟩
    -- both batches just beyond the margin of the decline
    let c := reference.weakest + linePairMargin reference ⟨⟨1, a⟩, ⟨1, b⟩⟩ + 1
    have hc : 1 ≤ c ∧ c ≤ 126 := ⟨Nat.le_add_left _ _, hroom⟩
    have hstrongest : LinePair.strongest ⟨⟨c, a⟩, ⟨c, b⟩⟩ = c := min_self c
    have hweakest : LinePair.weakest ⟨⟨c, a⟩, ⟨c, b⟩⟩ = c := max_self c
    have hvalid : LinePair.valid ⟨⟨c, a⟩, ⟨c, b⟩⟩ = true :=
      LinePair.valid_iff.mpr ⟨by dsimp only; omega, by dsimp only; omega⟩
    refine ⟨c, c, hc.1, hc.2, hc.1, hc.2, ?_, ?_⟩
    · rw [lineReferenceDeclined_iff, hmargin, hstrongest]
      exact ⟨hr.valid, hvalid, Nat.lt_succ_self _⟩
    · rw [lineReturnConsistent_iff, hweakest, hstrongest]
      refine ⟨hr.valid, hvalid, Nat.le_add_right _ _, ?_, ?_⟩
      · rw [hreturn]
        show reference.weakest + _ + 1 ≤ _
        omega
      · rw [hreturn]
        show reference.weakest + _ + 1 ≤ _
        omega

/-- Two batches of -60 dBm with a spread of 5 dB leave such readings. -/
theorem spread_declined_and_consistent :
    ∃ c d, 1 ≤ c ∧ c ≤ 126 ∧ 1 ≤ d ∧ d ≤ 126 ∧
      lineReferenceDeclined ⟨⟨60, 5⟩, ⟨60, 5⟩⟩ ⟨⟨c, 5⟩, ⟨d, 5⟩⟩ = true ∧
      lineReturnConsistent ⟨⟨60, 5⟩, ⟨60, 5⟩⟩ ⟨⟨c, 5⟩, ⟨d, 5⟩⟩ = true :=
  (@declined_and_consistent_iff ⟨⟨60, 5⟩, ⟨60, 5⟩⟩ (by decide) 5 5).mpr (by decide)

/-- The verdicts do not exclude each other. -/
theorem verdicts_overlap : ¬ ∀ reference current : LinePair, reference.Measured →
    current.Measured → ¬ (lineReferenceDeclined reference current = true ∧
      lineReturnConsistent reference current = true) := by
  intro h
  exact h ⟨⟨60, 5⟩, ⟨60, 5⟩⟩ ⟨⟨70, 5⟩, ⟨70, 5⟩⟩ (by decide) (by decide) (by decide)

end Verdicts
