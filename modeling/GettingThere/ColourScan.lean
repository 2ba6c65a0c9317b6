/-
# What a colour scan reports (`colour_scan_estimate`)

The fields of a scan have meanings of their own (`Reports`): the greatest depth of the readings
whose zone is known, or -1 without any; the range of their depths; the angle of the darkest
reading; whether two depths occur.  One pass over the readings finds the least and the greatest
depth and the first of the darkest readings (`scanned_foldl`), and readings of an unknown zone
show nothing.

Without any known zone the function returns before it stores the greatest depth, so that it
reports 0, the depth of the floor.
-/
import GettingThere.ColourMat
import Mathlib.Data.List.Induction
import Mathlib.Order.Bounds.Basic
import Mathlib.Order.MinMax

/-! ## The meaning of the fields -/

/-- A reading at an angle. -/
abbrev AngleReading := ℤ × ColourReading

namespace AngleReading

/-- The depth of a reading, -1 when its zone is unknown. -/
def depth (x : AngleReading) : ℤ := (colourClassify x.2).depth

/-- The G/R ratio of a reading. -/
def ratio (x : AngleReading) : ℕ := colourGrX1000 x.2

end AngleReading

/-- The depths of the readings whose zone is known. -/
def knownDepths (readings : List AngleReading) : List ℤ :=
  (readings.map AngleReading.depth).filter fun d => 0 ≤ d

/-- The reading is the first one of this depth with the lowest ratio. -/
def Darkest (readings : List AngleReading) (depth : ℤ) (x : AngleReading) : Prop :=
  ∃ before after, readings = before ++ x :: after ∧ x.depth = depth ∧
    (∀ y ∈ before, y.depth = depth → x.ratio < y.ratio) ∧
    ∀ y ∈ after, y.depth = depth → x.ratio ≤ y.ratio

/-- **The meaning of the fields of a scan.** -/
structure Reports (readings : List AngleReading) (r : ColourScanResult) : Prop where
  maxDepth : r.maxDepth = ((knownDepths readings).max?).getD (-1)
  depthRange : r.depthRange =
    ((knownDepths readings).max?).getD 0 - ((knownDepths readings).min?).getD 0
  darkestAngle : knownDepths readings ≠ [] →
    ∃ x, Darkest readings r.maxDepth x ∧ r.darkestAngle = x.1
  valid : r.valid = true ↔ ∃ a ∈ knownDepths readings, ∃ b ∈ knownDepths readings, a ≠ b

/-! ## Depths -/

namespace AngleReading

theorem depth_le (x : AngleReading) : x.depth ≤ 6 := by
  unfold depth
  cases colourClassify x.2 <;> decide

/-- Only an unknown zone has a negative depth. -/
theorem depth_nonneg_iff (x : AngleReading) : 0 ≤ x.depth ↔ colourClassify x.2 ≠ .unknown := by
  unfold depth
  cases colourClassify x.2 <;> decide

end AngleReading

theorem knownDepths_append (xs ys : List AngleReading) :
    knownDepths (xs ++ ys) = knownDepths xs ++ knownDepths ys := by
  unfold knownDepths
  rw [List.map_append, List.filter_append]

theorem knownDepths_known {x : AngleReading} (h : 0 ≤ x.depth) : knownDepths [x] = [x.depth] :=
  List.filter_cons_of_pos (decide_eq_true h)

theorem knownDepths_unknown {x : AngleReading} (h : x.depth < 0) : knownDepths [x] = [] :=
  List.filter_cons_of_neg (by simpa using h)

theorem mem_knownDepths {readings : List AngleReading} {d : ℤ} :
    d ∈ knownDepths readings ↔ 0 ≤ d ∧ ∃ x ∈ readings, x.depth = d := by
  unfold knownDepths
  rw [List.mem_filter, List.mem_map, decide_eq_true_iff, and_comm]

theorem knownDepths_ne_nil {readings : List AngleReading} :
    knownDepths readings ≠ [] ↔ ∃ x ∈ readings, colourClassify x.2 ≠ .unknown := by
  constructor
  · intro h
    obtain ⟨d, hd⟩ := List.exists_mem_of_ne_nil _ h
    obtain ⟨hpos, x, hx, rfl⟩ := mem_knownDepths.mp hd
    exact ⟨x, hx, x.depth_nonneg_iff.mp hpos⟩
  · rintro ⟨x, hx, hknown⟩
    exact List.ne_nil_of_mem (mem_knownDepths.mpr ⟨x.depth_nonneg_iff.mpr hknown, x, hx, rfl⟩)

/-! ## One pass -/

/-- What the first loop starts with. -/
def DepthRange.start : DepthRange := ⟨7, -1, 0xFFFF, 0⟩

/-- What the first loop knows after it has seen a known zone. -/
structure Scanned (seen : List AngleReading) (d : DepthRange) : Prop where
  least : IsLeast {δ | δ ∈ knownDepths seen} d.minDepth
  greatest : IsGreatest {δ | δ ∈ knownDepths seen} d.maxDepth
  darkest : ∃ x, Darkest seen d.maxDepth x ∧ d.darkestGr = x.ratio ∧ d.darkestAngle = x.1

theorem DepthRange.add_unknown {x : AngleReading} (h : x.depth < 0) (d : DepthRange) :
    d.add x = d := if_pos h

/-- The reading replaces the darkest one. -/
def DepthRange.Darker (d : DepthRange) (x : AngleReading) : Prop :=
  d.maxDepth < x.depth ∨ (x.depth = d.maxDepth ∧ x.ratio < d.darkestGr)

theorem DepthRange.add_darker {x : AngleReading} (h : 0 ≤ x.depth) {d : DepthRange}
    (hdarker : d.Darker x) : d.add x = ⟨min d.minDepth x.depth, x.depth, x.ratio, x.1⟩ := by
  unfold add
  apply (if_neg (not_lt.mpr h)).trans
  rw [DepthRange.mk.injEq]
  exact ⟨rfl, if_pos hdarker, if_pos hdarker, if_pos hdarker⟩

theorem DepthRange.add_lighter {x : AngleReading} (h : 0 ≤ x.depth) {d : DepthRange}
    (hlighter : ¬ d.Darker x) :
    d.add x = ⟨min d.minDepth x.depth, d.maxDepth, d.darkestGr, d.darkestAngle⟩ := by
  unfold add
  apply (if_neg (not_lt.mpr h)).trans
  rw [DepthRange.mk.injEq]
  exact ⟨rfl, if_neg hlighter, if_neg hlighter, if_neg hlighter⟩

/-- A reading of another depth, or one that is not darker, comes behind the darkest one. -/
theorem Darkest.append {seen : List AngleReading} {depth : ℤ} {x y : AngleReading}
    (h : Darkest seen depth x) (hy : y.depth = depth → x.ratio ≤ y.ratio) :
    Darkest (seen ++ [y]) depth x := by
  obtain ⟨before, after, rfl, hdepth, hbefore, hafter⟩ := h
  refine ⟨before, after ++ [y], ?_, hdepth, hbefore, ?_⟩
  · rw [List.append_assoc, List.cons_append]
  · intro z hz
    rcases List.mem_append.mp hz with hz | hz
    · exact hafter z hz
    · rw [List.mem_singleton.mp hz]
      exact hy

/-- A new darkest reading: those before are less deep, or lighter. -/
theorem Darkest.last {seen : List AngleReading} {x : AngleReading}
    (h : ∀ y ∈ seen, y.depth = x.depth → x.ratio < y.ratio) :
    Darkest (seen ++ [x]) x.depth x :=
  ⟨seen, [], rfl, rfl, h, fun _ hy => absurd hy List.not_mem_nil⟩

/-- The first known zone. -/
theorem Scanned.first {seen : List AngleReading} (hseen : knownDepths seen = [])
    {x : AngleReading} (h : 0 ≤ x.depth) :
    Scanned (seen ++ [x]) (DepthRange.start.add x) := by
  have hdarker : DepthRange.start.Darker x := .inl (by
    show -1 < x.depth
    omega)
  have hdepths : knownDepths (seen ++ [x]) = [x.depth] := by
    rw [knownDepths_append, hseen, knownDepths_known h]
    rfl
  have hmin : min DepthRange.start.minDepth x.depth = x.depth :=
    min_eq_right (le_trans x.depth_le (by decide))
  rw [DepthRange.add_darker h hdarker, hmin]
  refine ⟨?_, ?_, x, Darkest.last fun y hy hdepth => ?_, rfl, rfl⟩
  · rw [hdepths]
    exact ⟨List.mem_singleton_self _, fun d hd => (List.mem_singleton.mp hd).ge⟩
  · rw [hdepths]
    exact ⟨List.mem_singleton_self _, fun d hd => (List.mem_singleton.mp hd).le⟩
  · have hmem : y.depth ∈ knownDepths seen :=
      mem_knownDepths.mpr ⟨by rw [hdepth]; exact h, y, hy, rfl⟩
    rw [hseen] at hmem
    exact absurd hmem List.not_mem_nil

/-- One more reading of a known zone. -/
theorem Scanned.add {seen : List AngleReading} {d : DepthRange} (hd : Scanned seen d)
    {x : AngleReading} (h : 0 ≤ x.depth) : Scanned (seen ++ [x]) (d.add x) := by
  have hdepths : knownDepths (seen ++ [x]) = knownDepths seen ++ [x.depth] := by
    rw [knownDepths_append, knownDepths_known h]
  have hleast : IsLeast {δ | δ ∈ knownDepths (seen ++ [x])} (min d.minDepth x.depth) := by
    rw [hdepths]
    constructor
    · rcases min_choice d.minDepth x.depth with hmin | hmin
      · rw [hmin]
        exact List.mem_append_left _ hd.least.1
      · rw [hmin]
        exact List.mem_append_right _ (List.mem_singleton_self _)
    · intro δ hδ
      rcases List.mem_append.mp hδ with hδ | hδ
      · exact le_trans (min_le_left _ _) (hd.least.2 hδ)
      · rw [List.mem_singleton.mp hδ]
        exact min_le_right _ _
  -- the greatest depth and the darkest reading change together, or stay
  obtain ⟨first, hfirst, hratio, hangle⟩ := hd.darkest
  have hbelow (y : AngleReading) (hy : y ∈ seen) (hpos : 0 ≤ y.depth) : y.depth ≤ d.maxDepth :=
    hd.greatest.2 (mem_knownDepths.mpr ⟨hpos, y, hy, rfl⟩)
  by_cases hdarker : d.Darker x
  · rw [DepthRange.add_darker h hdarker]
    have hge : d.maxDepth ≤ x.depth := by
      rcases hdarker with hlt | ⟨heq, -⟩
      · exact hlt.le
      · exact heq.ge
    refine ⟨hleast, ⟨?_, ?_⟩, x, Darkest.last fun y hy hdepth => ?_, rfl, rfl⟩
    · rw [hdepths]
      exact List.mem_append_right _ (List.mem_singleton_self _)
    · rw [hdepths]
      intro δ hδ
      rcases List.mem_append.mp hδ with hδ | hδ
      · exact le_trans (hd.greatest.2 hδ) hge
      · exact (List.mem_singleton.mp hδ).le
    · -- the darkest one before was of the same depth, and lighter
      have hle := hbelow y hy (by omega)
      obtain ⟨heq, hlt⟩ : x.depth = d.maxDepth ∧ x.ratio < d.darkestGr := by
        rcases hdarker with hlt | h'
        · omega
        · exact h'
      rw [hratio] at hlt
      obtain ⟨before, after, rfl, -, hbefore, hafter⟩ := hfirst
      rcases List.mem_append.mp hy with hy | hy
      · exact lt_trans hlt (hbefore y hy (by omega))
      · rcases List.mem_cons.mp hy with rfl | hy
        · exact hlt
        · exact lt_of_lt_of_le hlt (hafter y hy (by omega))
  · rw [DepthRange.add_lighter h hdarker]
    -- of two readings of one depth and ratio the first one stays
    have hle : x.depth ≤ d.maxDepth := not_lt.mp fun hlt => hdarker (.inl hlt)
    refine ⟨hleast, ⟨?_, ?_⟩, first, hfirst.append fun heq => ?_, hratio, hangle⟩
    · rw [hdepths]
      exact List.mem_append_left _ hd.greatest.1
    · rw [hdepths]
      intro δ hδ
      rcases List.mem_append.mp hδ with hδ | hδ
      · exact hd.greatest.2 hδ
      · rw [List.mem_singleton.mp hδ]
        exact hle
    · rw [← hratio]
      exact not_lt.mp fun hlt => hdarker (.inr ⟨heq, hlt⟩)

/-- A reading of an unknown zone is of no concern. -/
theorem Scanned.skip {seen : List AngleReading} {d : DepthRange} (hd : Scanned seen d)
    {x : AngleReading} (h : x.depth < 0) : Scanned (seen ++ [x]) d := by
  have hdepths : knownDepths (seen ++ [x]) = knownDepths seen := by
    rw [knownDepths_append, knownDepths_unknown h, List.append_nil]
  obtain ⟨first, hfirst, hratio, hangle⟩ := hd.darkest
  have hpos := (mem_knownDepths.mp hd.greatest.1).1
  refine ⟨?_, ?_, first, hfirst.append fun heq => ?_, hratio, hangle⟩
  · rw [hdepths]
    exact hd.least
  · rw [hdepths]
    exact hd.greatest
  · omega

/-- **The pass over the readings**: it has seen nothing, or knows what it has seen. -/
theorem scanned_foldl (readings : List AngleReading) :
    (knownDepths readings = [] ∧ readings.foldl DepthRange.add DepthRange.start = DepthRange.start) ∨
      Scanned readings (readings.foldl DepthRange.add DepthRange.start) := by
  induction readings using List.reverseRecOn with
  | nil => exact .inl ⟨rfl, rfl⟩
  | append_singleton seen x ih =>
    rw [List.foldl_append, List.foldl_cons, List.foldl_nil]
    by_cases hx : 0 ≤ x.depth
    · rcases ih with ⟨hseen, hstart⟩ | hd
      · rw [hstart]
        exact .inr (Scanned.first hseen hx)
      · exact .inr (hd.add hx)
    · have hneg := not_le.mp hx
      rw [DepthRange.add_unknown hneg]
      rcases ih with ⟨hseen, hstart⟩ | hd
      · refine .inl ⟨?_, hstart⟩
        rw [knownDepths_append, hseen, knownDepths_unknown hneg]
        rfl
      · exact .inr (hd.skip hneg)

/-! ## The fields -/

theorem max?_eq_of_isGreatest {l : List ℤ} {a : ℤ} (h : IsGreatest {x | x ∈ l} a) :
    l.max? = some a := by
  rw [List.max?_eq_some_iff]
  exact ⟨h.1, fun b hb => h.2 hb⟩

theorem min?_eq_of_isLeast {l : List ℤ} {a : ℤ} (h : IsLeast {x | x ∈ l} a) :
    l.min? = some a := by
  rw [List.min?_eq_some_iff]
  exact ⟨h.1, fun b hb => h.2 hb⟩

/-- What the function makes of the pass. -/
theorem colourScanEstimate_of_scanned {readings : List AngleReading} {d : DepthRange}
    (hfold : readings.foldl DepthRange.add DepthRange.start = d) (hd : Scanned readings d) :
    (colourScanEstimate readings).maxDepth = d.maxDepth ∧
      (colourScanEstimate readings).depthRange = d.maxDepth - d.minDepth ∧
      (colourScanEstimate readings).darkestAngle = d.darkestAngle ∧
      ((colourScanEstimate readings).valid = true ↔ 1 ≤ d.maxDepth - d.minDepth) := by
  have hpos : ¬ d.maxDepth < 0 := not_lt.mpr (mem_knownDepths.mp hd.greatest.1).1
  have heq : colourScanEstimate readings =
      if d.maxDepth - d.minDepth < 1 then
        ⟨false, d.darkestAngle, 0, d.maxDepth - d.minDepth, d.maxDepth⟩
      else
        ⟨true, d.darkestAngle, vectorDegrees (readings.foldl (addVector d.minDepth) (0, 0)),
          d.maxDepth - d.minDepth, d.maxDepth⟩ := by
    rw [← hfold] at hpos ⊢
    exact if_neg hpos
  rw [heq]
  by_cases hone : d.maxDepth - d.minDepth < 1
  · rw [if_pos hone]
    exact ⟨rfl, rfl, rfl, fun h => absurd h Bool.false_ne_true,
      fun h => absurd h (not_le.mpr hone)⟩
  · rw [if_neg hone]
    exact ⟨rfl, rfl, rfl, fun _ => not_lt.mp hone, fun _ => rfl⟩

/-- Two depths occur when the least and the greatest differ. -/
theorem Scanned.two_depths {readings : List AngleReading} {d : DepthRange}
    (hd : Scanned readings d) : 1 ≤ d.maxDepth - d.minDepth ↔
      ∃ a ∈ knownDepths readings, ∃ b ∈ knownDepths readings, a ≠ b := by
  constructor
  · intro h
    exact ⟨_, hd.greatest.1, _, hd.least.1, by omega⟩
  · rintro ⟨a, ha, b, hb, hne⟩
    have hla : d.minDepth ≤ a := hd.least.2 ha
    have hlb : d.minDepth ≤ b := hd.least.2 hb
    have hga : a ≤ d.maxDepth := hd.greatest.2 ha
    have hgb : b ≤ d.maxDepth := hd.greatest.2 hb
    omega

/-- With a known zone every field has its meaning. -/
theorem reports_of_known {readings : List AngleReading} (h : knownDepths readings ≠ []) :
    Reports readings (colourScanEstimate readings) := by
  rcases scanned_foldl readings with ⟨hnil, -⟩ | hd
  · exact absurd hnil h
  obtain ⟨hmax, hrange, hangle, hvalid⟩ := colourScanEstimate_of_scanned rfl hd
  have hgreatest := max?_eq_of_isGreatest hd.greatest
  have hleast := min?_eq_of_isLeast hd.least
  obtain ⟨x, hx, -, hangle'⟩ := hd.darkest
  refine ⟨?_, ?_, fun _ => ⟨x, ?_, hangle.trans hangle'⟩, hvalid.trans hd.two_depths⟩
  · rw [hmax, hgreatest]
    rfl
  · rw [hrange, hgreatest, hleast]
    rfl
  · rw [hmax]
    exact hx

/-- Without a known zone the greatest depth is 0. -/
theorem colourScanEstimate_unknown {readings : List AngleReading} (h : knownDepths readings = []) :
    colourScanEstimate readings = ⟨false, 0, 0, 0, 0⟩ := by
  have hstart : readings.foldl DepthRange.add DepthRange.start = DepthRange.start := by
    rcases scanned_foldl readings with ⟨-, hstart⟩ | hd
    · exact hstart
    · have hmem : _ ∈ knownDepths readings := hd.least.1
      rw [h] at hmem
      exact absurd hmem List.not_mem_nil
  have hneg : (readings.foldl DepthRange.add DepthRange.start).maxDepth < 0 := by
    rw [hstart]
    decide
  exact if_pos hneg

/-! ## Unknown readings -/

/-- Nor does an unknown reading weigh anything in the second loop. -/
theorem addVector_unknown {x : AngleReading} (h : x.depth < 0) {m : ℤ} (hm : 0 ≤ m)
    (v : Float32 × Float32) : addVector m v x = v :=
  if_pos (le_trans h.le hm)

/-- **Unknown readings change nothing**, wherever they are. -/
theorem colourScanEstimate_insert (before after : List AngleReading) {x : AngleReading}
    (h : colourClassify x.2 = .unknown) :
    colourScanEstimate (before ++ x :: after) = colourScanEstimate (before ++ after) := by
  have hneg : x.depth < 0 := not_le.mp fun hpos => x.depth_nonneg_iff.mp hpos h
  have hfold : (before ++ x :: after).foldl DepthRange.add DepthRange.start =
      (before ++ after).foldl DepthRange.add DepthRange.start := by
    rw [List.foldl_append, List.foldl_append, List.foldl_cons, DepthRange.add_unknown hneg]
  rcases scanned_foldl (before ++ after) with ⟨-, hstart⟩ | hd
  · have hnone : ((before ++ after).foldl DepthRange.add DepthRange.start).maxDepth < 0 := by
      rw [hstart]
      decide
    have hnone' : ((before ++ x :: after).foldl DepthRange.add DepthRange.start).maxDepth < 0 := by
      rw [hfold]
      exact hnone
    exact (if_pos hnone').trans (if_pos hnone).symm
  · have hpos := (mem_knownDepths.mp hd.least.1).1
    have hvector (m : ℤ) (hm : 0 ≤ m) : (before ++ x :: after).foldl (addVector m) (0, 0) =
        (before ++ after).foldl (addVector m) (0, 0) := by
      rw [List.foldl_append, List.foldl_append, List.foldl_cons, addVector_unknown hneg hm]
    unfold DepthRange.start at hfold hpos
    unfold colourScanEstimate
    rw [hfold]
    dsimp only
    rw [hvector _ hpos]

/-- The documented behaviour of the function. -/
structure Documented (readings : List AngleReading) : Prop where
  reports : Reports readings (colourScanEstimate readings)
  unknown : ∀ before after x, readings = before ++ x :: after → colourClassify x.2 = .unknown →
    colourScanEstimate readings = colourScanEstimate (before ++ after)

/-- **A scan is reported as documented** when the zone of some reading is known, and only
then. -/
theorem documented_iff (readings : List AngleReading) :
    Documented readings ↔ ∃ x ∈ readings, colourClassify x.2 ≠ .unknown := by
  rw [← knownDepths_ne_nil]
  constructor
  · intro h hnil
    have hmax := h.reports.maxDepth
    rw [colourScanEstimate_unknown hnil, hnil] at hmax
    exact absurd hmax (by decide)
  · intro h
    refine ⟨reports_of_known h, ?_⟩
    rintro before after x rfl hunknown
    exact colourScanEstimate_insert before after hunknown

/-- A full turn with the sensor lifted from the floor. -/
def liftedScan : List AngleReading :=
  (List.range 12).map fun i : ℕ => (30 * i, ⟨100, 40, 30, 20⟩)

/-- No zone is known, and the greatest depth is that of the floor. -/
theorem liftedScan_undocumented :
    ((colourScanEstimate liftedScan).maxDepth = 0 ∧
      ∀ x ∈ liftedScan, colourClassify x.2 = .unknown) ∧ ¬ Documented liftedScan := by
  have hunknown : ∀ x ∈ liftedScan, colourClassify x.2 = .unknown := by decide
  refine ⟨⟨by decide +kernel, hunknown⟩, ?_⟩
  intro h
  have hmax := h.reports.maxDepth
  revert hmax
  decide +kernel
