/-
# What the calibration summary says

`Line.Tells readings line`: the line says the truth about the readings behind the statistics.  A row
has their number, the means (rounded down), the least and the greatest values and whether one was
saturated; no sum of at most 20 readings leaves its 32 bits.  Two surfaces are "separate" in a
quantity if and only if all readings of the darker one are below all of the lighter one, and
"distinguishable" if and only if in one of the two quantities all readings of one are below all of
the other.
-/
import GettingThere.Calibration
import GettingThere.RunningRange
import Mathlib.Algebra.GroupWithZero.Nat
import Mathlib.Algebra.Order.BigOperators.Group.List
import Mathlib.Algebra.Order.Group.Nat
import Mathlib.Data.List.FinRange

open RunningRange

namespace Calibration

/-! ## Quantities of a reading -/

/-- A ratio times 1000, rounded down and at most 65535; a divisor of zero counts as one. -/
def ratio (num den : UInt16) : ℕ := min 65535 (1000 * num.toNat / max den.toNat 1)

/-- Clear, red, green, blue, and the ratios of green and blue to red. -/
def Rgbc.clear (s : Rgbc) : ℕ := s.c.toNat
def Rgbc.red (s : Rgbc) : ℕ := s.r.toNat
def Rgbc.green (s : Rgbc) : ℕ := s.g.toNat
def Rgbc.blue (s : Rgbc) : ℕ := s.b.toNat
def Rgbc.gr (s : Rgbc) : ℕ := ratio s.g s.r
def Rgbc.br (s : Rgbc) : ℕ := ratio s.b s.r

theorem ratioX1000_toNat (num den : UInt16) : (ratioX1000 num den).toNat = ratio num den := by
  have hnum : num.toNat < 2 ^ 16 := num.toNat_lt
  have hvalue : (num.toUInt32 * 1000 / (if den ≠ 0 then den.toUInt32 else 1)).toNat =
      1000 * num.toNat / max den.toNat 1 := by
    have hprod : (num.toUInt32 * 1000).toNat = 1000 * num.toNat := by
      rw [UInt32.toNat_mul, UInt16.toNat_toUInt32, Nat.mul_comm]
      exact Nat.mod_eq_of_lt (by simp; omega)
    have hden : (if den ≠ 0 then den.toUInt32 else 1).toNat = max den.toNat 1 := by
      split_ifs with hzero
      · have : den.toNat ≠ 0 := fun h => hzero (UInt16.toNat_inj.mp h)
        rw [UInt16.toNat_toUInt32]
        omega
      · rw [not_not.mp hzero]
        rfl
    rw [UInt32.toNat_div, hprod, hden]
  rw [ratio, ← hvalue, ratioX1000]
  generalize num.toUInt32 * 1000 / (if den ≠ 0 then den.toUInt32 else 1) = value
  by_cases hbig : value > 65535
  · have hlt : 65535 < value.toNat := hbig
    rw [if_pos hbig]
    exact (min_eq_left (Nat.le_of_lt hlt)).symm
  · have hle : value.toNat ≤ 65535 := Nat.le_of_not_lt hbig
    rw [if_neg hbig, UInt32.toNat_toUInt16, min_eq_right hle]
    exact Nat.mod_eq_of_lt (by omega)

/-! ## Truth -/

/-- The mean, rounded down. -/
def mean (values : List ℕ) : ℕ := values.sum / values.length

/-- The row is that of the readings. -/
structure Row.Tells (row : Row) (readings : List Rgbc) : Prop where
  n : row.n.toNat = readings.length
  cMean : row.cMean.toNat = mean (readings.map Rgbc.clear)
  c : Extremes (readings.map Rgbc.clear) row.cMin.toNat row.cMax.toNat
  rMean : row.rMean.toNat = mean (readings.map Rgbc.red)
  gMean : row.gMean.toNat = mean (readings.map Rgbc.green)
  bMean : row.bMean.toNat = mean (readings.map Rgbc.blue)
  grMean : row.grMean.toNat = mean (readings.map Rgbc.gr)
  gr : Extremes (readings.map Rgbc.gr) row.grMin.toNat row.grMax.toNat
  brMean : row.brMean.toNat = mean (readings.map Rgbc.br)
  br : Extremes (readings.map Rgbc.br) row.brMin.toNat row.brMax.toNat
  saturated : row.saturated = true ↔ ∃ s ∈ readings, 44031 ≤ s.clear

/-- The values of a quantity. -/
def Quantity.of : Quantity → Rgbc → ℕ
  | .c => Rgbc.clear
  | .gr => Rgbc.gr

/-- All values of one list are below all values of the other. -/
def Apart (values values' : List ℕ) : Prop := Below values values' ∨ Below values' values

/-- The line is true of the readings of the surfaces. -/
def Line.Tells (readings : Label → List Rgbc) : Line → Prop
  | .csv label row => ∃ r, row = some r ∧ r.Tells (readings label)
  | .gap lighter darker quantity d separate =>
    (∃ v ∈ (readings lighter).map quantity.of, ∃ w ∈ (readings darker).map quantity.of,
      d = v - w) ∧
    (∀ v ∈ (readings lighter).map quantity.of, ∀ w ∈ (readings darker).map quantity.of,
      d ≤ v - w) ∧
    (separate = true ↔
      Below ((readings darker).map quantity.of) ((readings lighter).map quantity.of))
  | .distinguish x y _ _ distinguishable =>
    distinguishable = true ↔
      Apart ((readings x).map Rgbc.clear) ((readings y).map Rgbc.clear) ∨
      Apart ((readings x).map Rgbc.gr) ((readings y).map Rgbc.gr)

/-- What a line is about. -/
inductive Subject
  | row (label : Label)
  | gap (lighter darker : Label) (quantity : Quantity)
  | pair (x y : Label)

def Line.subject : Line → Subject
  | .csv label _ => .row label
  | .gap lighter darker quantity _ _ => .gap lighter darker quantity
  | .distinguish x y _ _ _ => .pair x y

/-- The lines of a full summary: every surface, both quantities of neighbouring surfaces of the mat,
and the floor and the other surface against every surface of the mat. -/
def subjects : List Subject :=
  (List.finRange 8).map .row ++
    (mat.zip mat.tail).flatMap (fun i => [.gap i.1 i.2 .c, .gap i.1 i.2 .gr]) ++
    mat.map (.pair floorLabel) ++
    mat.map (.pair otherLabel)

/-! ## Statistics -/

/-- A sum that has not left its 32 bits. -/
def Sums (sum : UInt32) (values : List ℕ) : Prop := sum.toNat = values.sum

/-- The statistics are those of at most 20 readings. -/
structure Stats.Of (st : Stats) (readings : List Rgbc) : Prop where
  n : st.n.toNat = readings.length
  atMost : readings.length ≤ 20
  sumC : Sums st.sumC (readings.map Rgbc.clear)
  sumR : Sums st.sumR (readings.map Rgbc.red)
  sumG : Sums st.sumG (readings.map Rgbc.green)
  sumB : Sums st.sumB (readings.map Rgbc.blue)
  sumGr : Sums st.sumGr (readings.map Rgbc.gr)
  sumBr : Sums st.sumBr (readings.map Rgbc.br)
  c : Running 65535 0 (readings.map Rgbc.clear) st.minC.toNat st.maxC.toNat
  gr : Running 65535 0 (readings.map Rgbc.gr) st.minGr.toNat st.maxGr.toNat
  br : Running 65535 0 (readings.map Rgbc.br) st.minBr.toNat st.maxBr.toNat
  saturated : st.saturated = true ↔ ∃ s ∈ readings, 44031 ≤ s.clear

theorem Stats.Of.fresh : Stats.fresh.Of [] := by
  constructor
  all_goals first
    | rfl
    | exact Running.start
    | simp [Stats.fresh]

/-- One more value of 16 bits fits into the sum of less than 20. -/
theorem Sums.add {sum : UInt32} {readings : List Rgbc} {f : Rgbc → ℕ}
    (h : Sums sum (readings.map f)) (hf : ∀ s, f s ≤ 65535) (hlen : readings.length < 20)
    {value : UInt16} {s : Rgbc} (hvalue : value.toNat = f s) :
    Sums (sum + value.toUInt32) ((s :: readings).map f) := by
  have hle : (readings.map f).sum ≤ (readings.map f).length * 65535 :=
    List.sum_le_card_nsmul _ _ (by
      intro v hv
      obtain ⟨s, -, rfl⟩ := List.mem_map.mp hv
      exact hf s)
  have hs := hf s
  rw [List.length_map] at hle
  unfold Sums at h ⊢
  rw [UInt32.toNat_add, UInt16.toNat_toUInt32, h, hvalue, List.map_cons, List.sum_cons,
    Nat.mod_eq_of_lt (by omega), Nat.add_comm]

/-- One more value of 16 bits, in the words of the code. -/
theorem running_add {readings : List Rgbc} {f : Rgbc → ℕ} {lo hi : UInt16}
    (h : Running 65535 0 (readings.map f) lo.toNat hi.toNat) {value : UInt16} {s : Rgbc}
    (hvalue : value.toNat = f s) :
    Running 65535 0 ((s :: readings).map f) (if value < lo then value else lo).toNat
      (if value > hi then value else hi).toNat := by
  have hle : f s ≤ 65535 := hvalue ▸ Nat.le_of_lt_succ value.toNat_lt
  have hadd := h.add (Nat.zero_le (f s)) hle
  rw [← hvalue] at hadd
  rw [apply_ite UInt16.toNat, apply_ite UInt16.toNat, List.map_cons, ← hvalue]
  exact hadd

theorem toNat_le (value : UInt16) : value.toNat ≤ 65535 := Nat.le_of_lt_succ value.toNat_lt

theorem ratio_le (num den : UInt16) : ratio num den ≤ 65535 := min_le_left _ _

/-- One more reading. -/
theorem Stats.Of.add {st : Stats} {readings : List Rgbc} (h : st.Of readings)
    (hlen : readings.length < 20) (s : Rgbc) : (st.add s).Of (s :: readings) where
  n := by
    show (st.n + 1).toNat = _
    rw [UInt32.toNat_add, h.n, List.length_cons]
    exact Nat.mod_eq_of_lt (by simp; omega)
  atMost := hlen
  sumC := h.sumC.add (fun s => toNat_le s.c) hlen rfl
  sumR := h.sumR.add (fun s => toNat_le s.r) hlen rfl
  sumG := h.sumG.add (fun s => toNat_le s.g) hlen rfl
  sumB := h.sumB.add (fun s => toNat_le s.b) hlen rfl
  sumGr := h.sumGr.add (fun s => ratio_le s.g s.r) hlen (ratioX1000_toNat _ _)
  sumBr := h.sumBr.add (fun s => ratio_le s.b s.r) hlen (ratioX1000_toNat _ _)
  c := running_add h.c rfl
  gr := running_add h.gr (ratioX1000_toNat _ _)
  br := running_add h.br (ratioX1000_toNat _ _)
  saturated := by
    have hfull : s.c ≥ fullScale - 1 ↔ 44031 ≤ s.clear := Iff.rfl
    simp only [Stats.add, Bool.or_eq_true, decide_eq_true_eq, h.saturated, hfull, List.mem_cons,
      exists_eq_or_imp]
    exact or_comm

/-! ## Lines -/

section

variable {st : Stats} {readings : List Rgbc}

/-- A mean of the code is the mean of the values. -/
theorem Sums.mean {sum : UInt32} {f : Rgbc → ℕ} (h : Sums sum (readings.map f))
    (hst : st.Of readings) : (sum / st.n).toNat = Calibration.mean (readings.map f) := by
  rw [UInt32.toNat_div, hst.n, h, Calibration.mean, List.length_map]

theorem Stats.Of.extremes (hne : readings ≠ []) {f : Rgbc → ℕ} {lo hi : ℕ}
    (h : Running 65535 0 (readings.map f) lo hi) : Extremes (readings.map f) lo hi :=
  h.extremes fun hnil => hne (List.map_eq_nil_iff.mp hnil)

theorem Stats.Of.n_ne (h : st.Of readings) : st.n ≠ 0 ↔ readings ≠ [] := by
  have hn : st.n = 0 ↔ readings.length = 0 := by
    rw [← h.n]
    exact UInt32.toNat_inj.symm
  rw [Ne, hn, List.length_eq_zero_iff]

theorem Stats.Of.row_tells (h : st.Of readings) (hne : readings ≠ []) : st.row.Tells readings where
  n := h.n
  cMean := h.sumC.mean h
  c := extremes hne h.c
  rMean := h.sumR.mean h
  gMean := h.sumG.mean h
  bMean := h.sumB.mean h
  grMean := h.sumGr.mean h
  gr := extremes hne h.gr
  brMean := h.sumBr.mean h
  br := extremes hne h.br
  saturated := h.saturated

end

section

variable {results : Label → Stats} {readings : Label → List Rgbc}

/-- Every surface is captured. -/
def Captured (results : Label → Stats) (readings : Label → List Rgbc) : Prop :=
  ∀ label, (results label).Of (readings label) ∧ readings label ≠ []

/-- A verdict of `print_gap`. -/
theorem printGap_tells {lighter darker : Label} (quantity : Quantity) {lo hi lo' hi' : UInt16}
    (h : Extremes ((readings lighter).map quantity.of) lo.toNat hi.toNat)
    (h' : Extremes ((readings darker).map quantity.of) lo'.toNat hi'.toNat) :
    (printGap lighter darker quantity lo hi').Tells readings := by
  refine ⟨⟨_, h.least, _, h'.greatest, rfl⟩, ?_, ?_⟩
  · intro v hv w hw
    have hlo := (h.bounds v hv).1
    have hhi := (h'.bounds w hw).2
    omega
  · rw [decide_eq_true_eq, ← h'.lt_iff h]
    omega

/-- `range_gap` is positive if and only if the two ranges have nothing in common. -/
theorem rangeGap_pos {values values' : List ℕ} {lo hi lo' hi' : ℕ} (h : Extremes values lo hi)
    (h' : Extremes values' lo' hi') : rangeGap lo hi lo' hi' > 0 ↔ Apart values values' := by
  rw [Apart, ← h.lt_iff h', ← h'.lt_iff h, rangeGap]
  split_ifs with habove
  · omega
  · omega

theorem csv_tells (h : Captured results readings) (label : Label) :
    (csv results label).Tells readings := by
  obtain ⟨hst, hne⟩ := h label
  refine ⟨_, ?_, hst.row_tells hne⟩
  rw [if_neg (hst.n_ne.mpr hne)]

theorem compare_tells (h : Captured results readings) (lighter darker : Label) :
    (compare results lighter darker).map Line.subject =
        [.gap lighter darker .c, .gap lighter darker .gr] ∧
      ∀ line ∈ compare results lighter darker, line.Tells readings := by
  obtain ⟨hst, hne⟩ := h lighter
  obtain ⟨hst', hne'⟩ := h darker
  have hboth : ¬ ((results lighter).n = 0 ∨ (results darker).n = 0) :=
    not_or.mpr ⟨hst.n_ne.mpr hne, hst'.n_ne.mpr hne'⟩
  rw [compare, if_neg hboth]
  refine ⟨rfl, ?_⟩
  have hc := printGap_tells .c (Stats.Of.extremes hne hst.c) (Stats.Of.extremes hne' hst'.c)
  have hgr := printGap_tells .gr (Stats.Of.extremes hne hst.gr) (Stats.Of.extremes hne' hst'.gr)
  simpa using ⟨hc, hgr⟩

theorem distinguish_tells (h : Captured results readings) (x y : Label) :
    (distinguish results x y).map Line.subject = [.pair x y] ∧
      ∀ line ∈ distinguish results x y, line.Tells readings := by
  obtain ⟨hst, hne⟩ := h x
  obtain ⟨hst', hne'⟩ := h y
  have hboth : ¬ ((results x).n = 0 ∨ (results y).n = 0) :=
    not_or.mpr ⟨hst.n_ne.mpr hne, hst'.n_ne.mpr hne'⟩
  rw [distinguish, if_neg hboth]
  refine ⟨rfl, ?_⟩
  intro line hline
  rw [List.mem_singleton.mp hline, Line.Tells, decide_eq_true_eq,
    rangeGap_pos (Stats.Of.extremes hne hst.c) (Stats.Of.extremes hne' hst'.c),
    rangeGap_pos (Stats.Of.extremes hne hst.gr) (Stats.Of.extremes hne' hst'.gr)]

/-- When every surface is captured, the summary says everything it is about, and tells the truth. -/
theorem printSummary_tells (h : Captured results readings) :
    (printSummary results).map Line.subject = subjects ∧
      ∀ line ∈ printSummary results, line.Tells readings := by
  constructor
  · have hpairs (x : Label) : mat.map (Subject.pair x) = mat.flatMap fun y => [.pair x y] :=
      List.map_eq_flatMap
    simp only [printSummary, subjects, hpairs, List.map_append, List.map_map, List.map_flatMap,
      (compare_tells h _ _).1, (distinguish_tells h _ _).1]
    rfl
  · intro line hline
    simp only [printSummary, List.mem_append, List.mem_map, List.mem_flatMap] at hline
    obtain ((⟨label, -, rfl⟩ | ⟨i, -, hi⟩) | ⟨y, -, hy⟩) | ⟨y, -, hy⟩ := hline
    · exact csv_tells h label
    · exact (compare_tells h i.1 i.2).2 line hi
    · exact (distinguish_tells h floorLabel y).2 line hy
    · exact (distinguish_tells h otherLabel y).2 line hy

end

end Calibration
