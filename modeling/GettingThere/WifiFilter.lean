/-
# The filter of the scans (`wifi_filter`)

`wifi_filter` sorts the valid codes of a sample into an array of five cells while it reads them
(`wifiFilterLoop`); what comes out is the trimmed mean of `wifiFilter`, whatever the array held
before.  The mean lies among the codes that are kept, and with four valid codes or more no single
one can move it past the others.
-/
import GettingThere.TrimmedMean
import GettingThere.WifiSampler
import Mathlib.Algebra.Group.Action.Defs

open PackedBits TrimmedMean

/-! ## The loop -/

/-- A code that `wifi_filter` does not skip. -/
def validCode (c : ℕ) : Bool := decide (c < rssiMissingCode ∧ c ≠ 0)

/-- The codes that count. -/
def validCodes (codes : List ℕ) : List ℕ := (codes.take scansPerSample).filter validCode

/-- The first loop of `wifi_filter`: the array, and the number of valid codes. -/
def filterLoop : List ℕ → (ℕ → ℕ) → ℕ → (ℕ → ℕ) × ℕ
  | [], sorted, valid => (sorted, valid)
  | code :: codes, sorted, valid =>
    if rssiMissingCode ≤ code ∨ code = 0 then filterLoop codes sorted valid
    else filterLoop codes (insertAt code valid sorted) (valid + 1)

/-- The second loop, from index `i` on, `n` times. -/
def sumLoop (sorted : ℕ → ℕ) : ℕ → ℕ → ℕ → ℕ
  | _, 0, sum => sum
  | i, n + 1, sum => sumLoop sorted (i + 1) n (sum + sorted i)

/-- `wifi_filter` as its loops compute it, with an array that is not initialised and fields of
seven bits. -/
def wifiFilterLoop (uninitialised : ℕ → ℕ) (codes : List ℕ) : WifiSample :=
  let (sorted, valid) := filterLoop (codes.take scansPerSample) uninitialised 0
  if valid < minValidScans then .missing
  else
    let trim := valid / 4
    let kept := valid - 2 * trim
    let sum := sumLoop sorted trim (valid - trim - trim) 0
    ⟨(sum + kept / 2) / kept % 2 ^ 7, (sorted (valid - trim - 1) - sorted trim) % 2 ^ 7⟩

theorem validCode_iff {c : ℕ} : validCode c = true ↔ 1 ≤ c ∧ c ≤ 126 := by
  unfold validCode rssiMissingCode
  rw [decide_eq_true_iff]
  omega

theorem mem_validCodes {codes : List ℕ} {c : ℕ} (h : c ∈ validCodes codes) : 1 ≤ c ∧ c ≤ 126 :=
  validCode_iff.mp (List.mem_filter.mp h).2

theorem length_validCodes_le (codes : List ℕ) : (validCodes codes).length ≤ 5 :=
  le_trans (List.length_filter_le _ _) (List.length_take_le _ _)

theorem length_sortedCodes (codes : List ℕ) :
    (sortedCodes codes).length = (validCodes codes).length := List.length_insertionSort _ _

theorem sortedCodes_perm (codes : List ℕ) : (sortedCodes codes).Perm (validCodes codes) :=
  List.perm_insertionSort _ _

theorem sortedCodes_sorted (codes : List ℕ) : (sortedCodes codes).Pairwise (· ≤ ·) :=
  List.pairwise_insertionSort _ _

/-- The front of the array is sorted, and the valid codes are added to it. -/
theorem front_filterLoop (codes : List ℕ) (sorted : ℕ → ℕ) (valid : ℕ)
    (hsorted : (front sorted valid).Pairwise (· ≤ ·)) :
    (front (filterLoop codes sorted valid).1 (filterLoop codes sorted valid).2).Pairwise (· ≤ ·) ∧
      (front (filterLoop codes sorted valid).1 (filterLoop codes sorted valid).2).Perm
        (front sorted valid ++ codes.filter validCode) := by
  induction codes generalizing sorted valid with
  | nil => exact ⟨hsorted, by simp [filterLoop]⟩
  | cons code codes ih =>
    unfold filterLoop
    by_cases hskip : rssiMissingCode ≤ code ∨ code = 0
    · have hnot : ¬ validCode code = true := by
        unfold validCode
        rw [decide_eq_true_iff]
        omega
      rw [if_pos hskip, List.filter_cons_of_neg hnot]
      exact ih sorted valid hsorted
    · have hvalid : validCode code = true := by
        unfold validCode
        rw [decide_eq_true_iff]
        omega
      obtain ⟨hs, hp⟩ := front_insertAt code valid sorted hsorted
      obtain ⟨hs', hp'⟩ := ih (insertAt code valid sorted) (valid + 1) hs
      rw [if_neg hskip, List.filter_cons_of_pos hvalid]
      refine ⟨hs', hp'.trans ?_⟩
      apply (hp.append_right _).trans
      exact List.perm_middle.symm

/-- The loop leaves the sorted codes in the array. -/
theorem front_filterLoop_eq (uninitialised : ℕ → ℕ) (codes : List ℕ) :
    front (filterLoop (codes.take scansPerSample) uninitialised 0).1
        (filterLoop (codes.take scansPerSample) uninitialised 0).2 = sortedCodes codes := by
  obtain ⟨hs, hp⟩ :=
    front_filterLoop (codes.take scansPerSample) uninitialised 0 List.Pairwise.nil
  exact eq_insertionSort hs hp

theorem sumLoop_eq (a : ℕ → ℕ) (n i sum : ℕ) :
    sumLoop a i n sum = sum + ((List.range' i n).map a).sum := by
  induction n generalizing i sum with
  | zero => simp [sumLoop]
  | succ n ih =>
    unfold sumLoop
    rw [ih, List.range'_succ, List.map_cons, List.sum_cons, Nat.add_assoc]

/-- A slice of the front. -/
theorem map_range'_eq (a : ℕ → ℕ) (n t : ℕ) :
    (List.range' t (n - 2 * t)).map a = trimmed t (front a n) := by
  unfold trimmed front
  rw [← List.map_drop, ← List.map_take, List.length_map, List.length_range,
    List.range_eq_range', List.drop_range', List.take_range'_of_length_ge (by omega)]
  congr 2
  omega

/-! ## What the filter gives -/

/-- The codes that are kept: a quarter is dropped on each side. -/
def keptCodes (codes : List ℕ) : List ℕ :=
  trimmed ((sortedCodes codes).length / 4) (sortedCodes codes)

theorem wifiFilter_few {codes : List ℕ} (h : (validCodes codes).length < 3) :
    wifiFilter codes = .missing := by
  unfold wifiFilter
  exact if_pos (by rw [length_sortedCodes]; exact h)

/-- The readings of a full sample. -/
theorem wifiFilter_eq {codes : List ℕ} (h : 3 ≤ (validCodes codes).length) :
    wifiFilter codes =
      ⟨((keptCodes codes).sum + (keptCodes codes).length / 2) / (keptCodes codes).length,
        (sortedCodes codes).getD
          ((sortedCodes codes).length - (sortedCodes codes).length / 4 - 1) 0 -
          (sortedCodes codes).getD ((sortedCodes codes).length / 4) 0⟩ := by
  have hlen : ¬ (sortedCodes codes).length < minValidScans := by
    rw [length_sortedCodes]
    exact Nat.not_lt.mpr h
  unfold wifiFilter keptCodes
  rw [if_neg hlen, length_trimmed]
  rfl

/-- Only the codes that count decide, in any order. -/
theorem wifiFilter_perm {codes codes' : List ℕ} (h : (validCodes codes).Perm (validCodes codes')) :
    wifiFilter codes = wifiFilter codes' := by
  have hsorted : sortedCodes codes = sortedCodes codes' :=
    eq_insertionSort (sortedCodes_sorted codes) ((sortedCodes_perm codes).trans h)
  unfold wifiFilter
  rw [hsorted]

theorem mem_keptCodes {codes : List ℕ} {c : ℕ} (h : c ∈ keptCodes codes) : 1 ≤ c ∧ c ≤ 126 :=
  mem_validCodes ((sortedCodes_perm codes).subset (mem_of_mem_trimmed h))

theorem length_keptCodes (codes : List ℕ) : (keptCodes codes).length =
    (validCodes codes).length - 2 * ((validCodes codes).length / 4) := by
  unfold keptCodes
  rw [length_trimmed, length_sortedCodes]

theorem keptCodes_sorted (codes : List ℕ) : (keptCodes codes).Pairwise (· ≤ ·) :=
  (sortedCodes_sorted codes).sublist
    ((List.take_sublist _ _).trans (List.drop_sublist _ _))

/-- The kept codes are a slice of the sorted ones. -/
theorem getD_keptCodes (codes : List ℕ) {i : ℕ} (h : i < (keptCodes codes).length) :
    (keptCodes codes).getD i 0 =
      (sortedCodes codes).getD ((sortedCodes codes).length / 4 + i) 0 := by
  unfold keptCodes at h ⊢
  rw [length_trimmed] at h
  unfold trimmed
  rw [List.getD_eq_getElem?_getD, List.getD_eq_getElem?_getD, List.getElem?_take_of_lt h,
    List.getElem?_drop]

/-- The outer ones of the kept codes are the smallest and the largest. -/
theorem keptCodes_bounds {codes : List ℕ} (h : 3 ≤ (validCodes codes).length) :
    IsLeast {c | c ∈ keptCodes codes} ((sortedCodes codes).getD ((sortedCodes codes).length / 4) 0) ∧
      IsGreatest {c | c ∈ keptCodes codes} ((sortedCodes codes).getD
        ((sortedCodes codes).length - (sortedCodes codes).length / 4 - 1) 0) := by
  have hlen := length_keptCodes codes
  have hsort := length_sortedCodes codes
  have hfirst := getD_keptCodes codes (i := 0) (by omega)
  have hlast := getD_keptCodes codes (i := (keptCodes codes).length - 1) (by omega)
  have hindex : (sortedCodes codes).length / 4 + ((keptCodes codes).length - 1) =
      (sortedCodes codes).length - (sortedCodes codes).length / 4 - 1 := by omega
  rw [hindex] at hlast
  rw [Nat.add_zero] at hfirst
  rw [← hfirst, ← hlast]
  -- the kept codes are in order, so their ends are the bounds
  have hpair := List.pairwise_iff_getElem.mp (keptCodes_sorted codes)
  have hget (i : ℕ) (hi : i < (keptCodes codes).length) :
      (keptCodes codes).getD i 0 = (keptCodes codes)[i] := by
    rw [List.getD_eq_getElem?_getD, List.getElem?_eq_getElem hi]
    rfl
  refine ⟨⟨?_, ?_⟩, ?_, ?_⟩
  · show _ ∈ keptCodes codes
    rw [hget 0 (by omega)]
    exact List.getElem_mem _
  · intro c hc
    obtain ⟨i, hi, rfl⟩ := List.getElem_of_mem hc
    rw [hget 0 (by omega)]
    rcases Nat.eq_zero_or_pos i with rfl | hpos
    · exact le_rfl
    · exact hpair 0 i (by omega) hi hpos
  · show _ ∈ keptCodes codes
    rw [hget _ (by omega)]
    exact List.getElem_mem _
  · intro c hc
    obtain ⟨i, hi, rfl⟩ := List.getElem_of_mem hc
    rw [hget _ (by omega)]
    rcases Nat.eq_or_lt_of_le (Nat.le_sub_one_of_lt hi) with heq | hlt
    · exact le_of_eq (by congr 1)
    · exact hpair i _ hi (by omega) hlt

/-- The mean of the kept codes, rounded. -/
theorem wifiFilter_round {codes : List ℕ} (h : 3 ≤ (validCodes codes).length) :
    ((wifiFilter codes).code : ℤ) =
      round (((keptCodes codes).sum : ℚ) / (keptCodes codes).length) := by
  have hlen := length_keptCodes codes
  rw [wifiFilter_eq h, round_mean _ (by omega)]

/-- A mean of kept codes between two bounds lies between them. -/
theorem wifiFilter_between {codes : List ℕ} (h : 3 ≤ (validCodes codes).length) {a b : ℕ}
    (hkept : ∀ c ∈ keptCodes codes, a ≤ c ∧ c ≤ b) :
    a ≤ (wifiFilter codes).code ∧ (wifiFilter codes).code ≤ b := by
  have hlen := length_keptCodes codes
  have hpos : 0 < (keptCodes codes).length := by omega
  have hlow : (keptCodes codes).length * a ≤ (keptCodes codes).sum := by
    have := List.card_nsmul_le_sum (keptCodes codes) a fun c hc => (hkept c hc).1
    rwa [smul_eq_mul] at this
  have hhigh : (keptCodes codes).sum ≤ (keptCodes codes).length * b := by
    have := List.sum_le_card_nsmul (keptCodes codes) b fun c hc => (hkept c hc).2
    rwa [smul_eq_mul] at this
  rw [wifiFilter_eq h]
  constructor
  · rw [Nat.le_div_iff_mul_le hpos, Nat.mul_comm]
    omega
  · refine Nat.le_of_lt_succ ((Nat.div_lt_iff_lt_mul hpos).mpr ?_)
    rw [Nat.succ_mul, Nat.mul_comm]
    omega

/-! ## The filter -/

/-- The loops compute the trimmed mean, whatever the array holds at first. -/
theorem wifiFilterLoop_eq (uninitialised : ℕ → ℕ) (codes : List ℕ) :
    wifiFilterLoop uninitialised codes = wifiFilter codes := by
  have hfront := front_filterLoop_eq uninitialised codes
  unfold wifiFilterLoop
  generalize filterLoop (codes.take scansPerSample) uninitialised 0 = loop at hfront ⊢
  obtain ⟨sorted, valid⟩ := loop
  change front sorted valid = sortedCodes codes at hfront
  -- the loop has sorted the valid codes into the first cells
  have hvalid : (validCodes codes).length = valid := by
    rw [← length_sortedCodes, ← hfront]
    unfold front
    rw [List.length_map, List.length_range]
  by_cases hfew : valid < minValidScans
  · rw [wifiFilter_few (by rw [hvalid]; exact hfew)]
    exact if_pos hfew
  have hthree : 3 ≤ (validCodes codes).length := by
    rw [hvalid]
    exact Nat.not_lt.mp hfew
  have hlen := length_keptCodes codes
  -- the second loop adds the cells in the middle
  have hsum : sumLoop sorted (valid / 4) (valid - valid / 4 - valid / 4) 0 =
      (keptCodes codes).sum := by
    unfold keptCodes
    rw [sumLoop_eq, length_sortedCodes, hvalid, ← hfront, ← map_range'_eq, Nat.zero_add]
    congr 3
    omega
  have hcell (i : ℕ) (hi : i < valid) : (sortedCodes codes).getD i 0 = sorted i := by
    rw [← hfront]
    unfold front
    rw [List.getD_eq_getElem?_getD, List.getElem?_map, List.getElem?_range hi]
    rfl
  -- both fields of the sample are wide enough for what is stored in them
  have hcode := (wifiFilter_between hthree fun c hc => mem_keptCodes hc).2
  rw [wifiFilter_eq hthree] at hcode ⊢
  rw [hvalid] at hlen hthree
  apply (if_neg hfew).trans
  rw [length_sortedCodes, hvalid, hcell _ (by omega), hcell _ (by omega)]
  dsimp only at hcode ⊢
  rw [hsum, ← hlen, Nat.mod_eq_of_lt (by omega), Nat.mod_eq_of_lt]
  have hmem : sorted (valid - valid / 4 - 1) ∈ sortedCodes codes := by
    rw [← hfront]
    exact List.mem_map_of_mem (List.mem_range.mpr (by omega))
  have := mem_validCodes ((sortedCodes_perm codes).subset hmem)
  omega

/-- With four codes or more one of them cannot move the mean past the others. -/
theorem wifiFilter_robust {codes rest : List ℕ} {c : ℕ} (hp : (validCodes codes).Perm (c :: rest))
    (h : 3 ≤ rest.length) :
    ∃ low ∈ rest, ∃ high ∈ rest, low ≤ (wifiFilter codes).code ∧ (wifiFilter codes).code ≤ high := by
  have hlen : (validCodes codes).length = rest.length + 1 := hp.length_eq
  have hfive := length_validCodes_le codes
  have hsort := length_sortedCodes codes
  have hbetween (x : ℕ) (hx : x ∈ keptCodes codes) : (∃ r ∈ rest, r ≤ x) ∧ ∃ r ∈ rest, x ≤ r := by
    have hperm : (sortedCodes codes).Perm ([c] ++ rest) := (sortedCodes_perm codes).trans hp
    refine trimmed_between (sortedCodes_sorted codes) hperm ?_ (by omega) hx
    show 1 ≤ _
    omega
  have hpos : rest ≠ [] := by
    rintro rfl
    exact absurd h (by decide)
  have hleast := List.min_mem hpos
  have hgreatest := List.max_mem hpos
  refine ⟨rest.min hpos, hleast, rest.max hpos, hgreatest, ?_⟩
  apply wifiFilter_between (by omega)
  intro x hx
  obtain ⟨⟨r, hr, hle⟩, r', hr', hle'⟩ := hbetween x hx
  exact ⟨le_trans (List.min_le_of_mem hr) hle, le_trans hle' (List.le_max_of_mem hr')⟩

/-- A valid code replaced by another one. -/
theorem validCodes_set {codes : List ℕ} {i c : ℕ} (hi : i < codes.length) (hfive : i < 5)
    (hold : validCode codes[i] = true) (hnew : validCode c = true) :
    (validCodes (codes.set i c)).Perm (c :: (validCodes codes).erase codes[i]) := by
  have hi' : i < (codes.take scansPerSample).length := by
    rw [List.length_take]
    exact lt_min hfive hi
  have hget : (codes.take scansPerSample)[i] = codes[i] := List.getElem_take
  have hbefore := (List.getElem_cons_eraseIdx_perm hi').filter validCode
  rw [hget, List.filter_cons_of_pos hold] at hbefore
  have hafter := (List.set_perm_cons_eraseIdx hi' c).filter validCode
  rw [List.filter_cons_of_pos hnew] at hafter
  unfold validCodes
  rw [List.take_set]
  refine hafter.trans (List.Perm.cons c ?_)
  have herase := hbefore.erase codes[i]
  rw [List.erase_cons_head] at herase
  exact herase

/-- **`wifi_filter`.**  Its loops compute a function of the valid codes among the first five, in
any order.  With fewer than three there is no reading; otherwise it is the rounded mean of the
codes left after a quarter is dropped on each side, between the smallest and the largest of them,
and the spread is their difference.  Of four codes or more any one can be replaced, and the
reading stays between the others. -/
theorem wifiFilter_correct (codes : List ℕ) :
    (∀ uninitialised, wifiFilterLoop uninitialised codes = wifiFilter codes) ∧
      (∀ codes', (validCodes codes).Perm (validCodes codes') →
        wifiFilter codes = wifiFilter codes') ∧
      ((validCodes codes).length < 3 → wifiFilter codes = .missing) ∧
      (3 ≤ (validCodes codes).length →
        ((wifiFilter codes).code : ℤ) =
            round (((keptCodes codes).sum : ℚ) / (keptCodes codes).length) ∧
          1 ≤ (wifiFilter codes).code ∧ (wifiFilter codes).code ≤ 126 ∧
          ∃ low high, IsLeast {c | c ∈ keptCodes codes} low ∧
            IsGreatest {c | c ∈ keptCodes codes} high ∧ low ≤ (wifiFilter codes).code ∧
            (wifiFilter codes).code ≤ high ∧ (wifiFilter codes).spread = high - low ∧
            (wifiFilter codes).spread < 2 ^ 7) ∧
      (4 ≤ (validCodes codes).length → ∀ (i c : ℕ) (hi : i < codes.length), i < 5 →
        validCode codes[i] = true → validCode c = true →
        ∃ low ∈ (validCodes codes).erase codes[i], ∃ high ∈ (validCodes codes).erase codes[i],
          low ≤ (wifiFilter (codes.set i c)).code ∧
            (wifiFilter (codes.set i c)).code ≤ high) := by
  refine ⟨fun _ => wifiFilterLoop_eq _ codes, fun _ => wifiFilter_perm, wifiFilter_few, ?_, ?_⟩
  · intro h
    obtain ⟨hmin, hmax⟩ := wifiFilter_between h fun c hc => mem_keptCodes hc
    obtain ⟨hleast, hgreatest⟩ := keptCodes_bounds h
    obtain ⟨hlow, hhigh⟩ := wifiFilter_between h fun c hc => ⟨hleast.2 hc, hgreatest.2 hc⟩
    refine ⟨wifiFilter_round h, hmin, hmax, _, _, hleast, hgreatest, hlow, hhigh, ?_, ?_⟩
    · rw [wifiFilter_eq h]
    · have hlargest := mem_keptCodes hgreatest.1
      rw [wifiFilter_eq h]
      show _ - _ < _
      omega
  · intro h i c hi hfive hold hnew
    -- the others are the valid codes without the one that is replaced
    have hp := validCodes_set hi hfive hold hnew
    have hmem : codes[i] ∈ validCodes codes := by
      refine List.mem_filter.mpr ⟨?_, hold⟩
      exact List.mem_take_iff_getElem.mpr ⟨i, lt_min hfive hi, rfl⟩
    apply wifiFilter_robust hp
    rw [List.length_erase_of_mem hmem]
    omega

/-- A reading of one scan that is far off does not count. -/
example : wifiFilter [70, 70, 10, 70, 70] = ⟨70, 0⟩ := by decide
