/-
# The proximity gate as a sliding window

While the client scans, it takes the readings of the target beacon and decides on a connection.
`Near` is the decision as it is meant: three averages in a row, each over the last twelve
readings without the three lowest and the three highest, are not below the threshold.
`Scanned` relates the packed ring and its counters to the list of all readings.

So the scan is left at the first reading with `Near`, for the beacon of its report.
-/
import GettingThere.PackedReadings
import GettingThere.PayloadAttempt
import GettingThere.RecentRing

namespace PayloadClient

open PackedBits TrimmedMean

/-! ## The gate as it is meant -/

/-- The mean of twelve readings without the three lowest and the three highest, rounded to the
nearest integer, halves away from zero. -/
def windowMean (w : List ℤ) : ℤ :=
  roundAway (((trimmed 3 (w.insertionSort (· ≤ ·))).sum : ℚ) / 6)

/-- The filtered value after `k` readings, of the last twelve. -/
def filtered (v : List ℤ) (k : ℕ) : ℤ := windowMean ((v.take k).drop (k - 12))

/-- Three filtered values in a row, the last one after `n` readings, are close. -/
def Near (threshold : ℤ) (v : List ℤ) (n : ℕ) : Prop :=
  14 ≤ n ∧ n ≤ v.length ∧ ∀ k, n - 2 ≤ k → k ≤ n → threshold ≤ filtered v k

/-- A reading of the target beacon, from -126 to -1. -/
def reading : Event → Option ℤ
  | .advertisingReport report =>
    if targetAdvertisement report = true ∧ -127 < report.rssi.toInt ∧ report.rssi.toInt < 0 then
      some report.rssi.toInt
    else none
  | _ => none

/-- The readings of a scan, in order. -/
def readings (events : List (Env × Event)) : List ℤ := events.filterMap fun x => reading x.2

/-- A packet that does not end the scan by itself. -/
def ScanEvent : Event → Prop
  | .advertisingReport _ => True
  | .stackState _ => True
  | .commandComplete scanEnable status => scanEnable = true → status = 0
  | _ => False

/-- The packets of a scan are handled one after the other. -/
def PackedClient.scan (events : List (Env × Event)) (p : PackedClient) : PackedClient :=
  events.foldl (fun p x => p.hciHandler x.1 x.2) p

/-! ## Windows -/

theorem rssiDecode_encode {x : ℤ} (hlow : -127 < x) (hhigh : x < 0) :
    rssiDecode (rssiEncode x) = x := by
  unfold rssiDecode rssiEncode
  rw [if_pos ⟨hhigh, hlow⟩]
  omega

theorem insertionSort_congr {xs ys : List ℤ} (h : xs.Perm ys) :
    xs.insertionSort (· ≤ ·) = ys.insertionSort (· ≤ ·) :=
  eq_insertionSort (List.pairwise_insertionSort _ xs) ((List.perm_insertionSort _ xs).trans h)

theorem length_kept {w : List ℤ} (hlen : w.length = 12) :
    (trimmed 3 (w.insertionSort (· ≤ ·))).length = 6 := by
  rw [length_trimmed, List.length_insertionSort, hlen]

/-- The readings that are kept come from the window. -/
theorem mem_of_mem_kept {w : List ℤ} {x : ℤ} (h : x ∈ trimmed 3 (w.insertionSort (· ≤ ·))) :
    x ∈ w :=
  (List.perm_insertionSort _ w).subset (mem_of_mem_trimmed h)

theorem sum_kept_nonpos {w : List ℤ} (hneg : ∀ x ∈ w, x < 0) :
    (trimmed 3 (w.insertionSort (· ≤ ·))).sum ≤ 0 := by
  have hle := List.sum_le_card_nsmul _ 0 fun x hx => (hneg x (mem_of_mem_kept hx)).le
  rwa [nsmul_zero] at hle

/-- The mean of negative readings in integers. -/
theorem windowMean_eq {w : List ℤ} (hneg : ∀ x ∈ w, x < 0) :
    windowMean w = ((trimmed 3 (w.insertionSort (· ≤ ·))).sum - 3).tdiv 6 :=
  roundAway_mean (sum_kept_nonpos hneg) (show 0 < 6 by decide)

/-- The mean is between any bounds of what is kept. -/
theorem windowMean_between {w : List ℤ} (hlen : w.length = 12) (hneg : ∀ x ∈ w, x < 0) {a b : ℤ}
    (h : ∀ x ∈ trimmed 3 (w.insertionSort (· ≤ ·)), a ≤ x ∧ x ≤ b) :
    a ≤ windowMean w ∧ windowMean w ≤ b := by
  have hsum := sum_between h
  rw [length_kept hlen] at hsum
  have hneg' := sum_kept_nonpos hneg
  rw [windowMean_eq hneg]
  generalize (trimmed 3 (w.insertionSort (· ≤ ·))).sum = sum at hsum hneg' ⊢
  obtain ⟨hlow, hhigh⟩ := hsum
  push_cast at hlow hhigh
  -- the division truncates, and the sum is negative
  have hdiv : (sum - 3).tdiv 6 = -((3 - sum) / 6) := by
    rw [← neg_sub, Int.neg_tdiv, Int.tdiv_eq_ediv_of_nonneg (by omega)]
  rw [hdiv]
  omega

/-- **The fourth lowest and the fourth highest** reading bound the mean. -/
theorem windowMean_middle {w : List ℤ} (hlen : w.length = 12) (hneg : ∀ x ∈ w, x < 0) :
    ∃ low high, (w.insertionSort (· ≤ ·))[3]? = some low ∧
      (w.insertionSort (· ≤ ·))[8]? = some high ∧ low ≤ windowMean w ∧ windowMean w ≤ high := by
  have hsorted := List.pairwise_insertionSort (· ≤ ·) w
  have hlength : (w.insertionSort (· ≤ ·)).length = 12 := by
    rw [List.length_insertionSort, hlen]
  generalize hs : w.insertionSort (· ≤ ·) = s at hsorted hlength
  refine ⟨s[3], s[8], List.getElem?_eq_getElem _, List.getElem?_eq_getElem _, ?_⟩
  apply windowMean_between hlen hneg
  intro x hx
  rw [hs] at hx
  unfold trimmed at hx
  rw [hlength] at hx
  obtain ⟨i, hi, rfl⟩ := List.mem_iff_getElem.mp hx
  rw [List.length_take, List.length_drop, hlength] at hi
  rw [List.getElem_take, List.getElem_drop]
  have hmono {j k : ℕ} (hj : j < s.length) (hk : k < s.length) (hjk : j ≤ k) : s[j] ≤ s[k] := by
    rcases Nat.eq_or_lt_of_le hjk with rfl | hlt
    · exact le_rfl
    · exact List.pairwise_iff_getElem.mp hsorted j k hj hk hlt
  exact ⟨hmono _ _ (by omega), hmono _ _ (by omega)⟩

/-- **Three readings cannot move it** outside the others. -/
theorem windowMean_robust {w odd rest : List ℤ} (hlen : w.length = 12) (hneg : ∀ x ∈ w, x < 0)
    (hp : w.Perm (odd ++ rest)) (hodd : odd.length ≤ 3) :
    ∃ low ∈ rest, ∃ high ∈ rest, low ≤ windowMean w ∧ windowMean w ≤ high := by
  have hrest : rest ≠ [] := by
    rintro rfl
    have hlength := hp.length_eq
    rw [List.append_nil] at hlength
    omega
  have hlength : (w.insertionSort (· ≤ ·)).length = 12 := by
    rw [List.length_insertionSort, hlen]
  have hbetween (x : ℤ) (hx : x ∈ trimmed 3 (w.insertionSort (· ≤ ·))) :
      rest.min hrest ≤ x ∧ x ≤ rest.max hrest := by
    obtain ⟨⟨r, hr, hle⟩, r', hr', hle'⟩ := trimmed_between (List.pairwise_insertionSort _ w)
      ((List.perm_insertionSort _ w).trans hp) hodd (by omega) hx
    exact ⟨le_trans (List.min_le_of_mem hr) hle, le_trans hle' (List.le_max_of_mem hr')⟩
  exact ⟨_, List.min_mem hrest, _, List.max_mem hrest, windowMean_between hlen hneg hbetween⟩

/-! ## The ring and the readings -/

/-- The filtered values so far do not depend on later readings. -/
theorem filtered_append (v more : List ℤ) {k : ℕ} (h : k ≤ v.length) :
    filtered (v ++ more) k = filtered v k := by
  unfold filtered
  rw [List.take_append_of_le_length h]

theorem Near.append {threshold : ℤ} {v more : List ℤ} {n : ℕ} (h : Near threshold (v ++ more) n)
    (hn : n ≤ v.length) : Near threshold v n := by
  obtain ⟨hlow, -, hclose⟩ := h
  refine ⟨hlow, hn, ?_⟩
  intro k hk hkn
  rw [← filtered_append v more (hkn.trans hn)]
  exact hclose k hk hkn

/-- **The state of a scan** after the readings `v`: the ring holds the last of them, and the count
of close averages is their number at the end. -/
structure Scanned (threshold : ℤ) (v : List ℤ) (c : Client) : Prop where
  scanning : c.bleState = .scanning
  abort : c.abortRequested = false
  gate : c.closeRssiDbm = threshold
  ring : RecentRing 12 c.rssiSamples.cells c.sampleCount c.sampleIndex (v.map rssiEncode).reverse
  range : ∀ x ∈ v, -127 < x ∧ x < 0
  near : c.closeCount < 3
  streak : ∀ k, v.length < k + c.closeCount → k ≤ v.length → 12 ≤ k ∧ threshold ≤ filtered v k
  broken : ∀ k, k + c.closeCount = v.length → 12 ≤ k → filtered v k < threshold
  never : ∀ n, ¬ Near threshold v n

/-- The scan is over: the beacon of the report is close. -/
structure Opened (report : Advertisement) (c : Client) : Prop where
  stopping : c.bleState = .stoppingForConnect
  confirmed : c.closeConfirmed = true
  address : c.beaconAddress = report.address
  addressType : c.beaconAddressType = report.addressType

variable {threshold : ℤ} {v : List ℤ} {c : Client} {env : Env} {report : Advertisement}

/-- The ring takes a reading. -/
theorem Scanned.push_ring (h : Scanned threshold v c) (x : ℤ) :
    RecentRing 12 (c.push x).rssiSamples.cells (c.push x).sampleCount (c.push x).sampleIndex
      ((v ++ [x]).map rssiEncode).reverse := by
  have hring := h.ring.push (by decide) (rssiEncode x)
  have hindex : c.sampleIndex < 12 := by
    rw [h.ring.next_eq]
    exact Nat.mod_lt _ (by decide)
  have hcount : (c.push x).sampleCount = min 12 (c.sampleCount + 1) := by
    have hle := h.ring.count_eq
    unfold Client.push
    dsimp only
    split
    · omega
    · omega
  have hcells : (c.push x).rssiSamples.cells =
      c.rssiSamples.cells.set c.sampleIndex (rssiEncode x) :=
    Buffer.cells_write_one _ hindex _
  have hpushed : ((v ++ [x]).map rssiEncode).reverse =
      rssiEncode x :: (v.map rssiEncode).reverse := by
    rw [List.map_append, List.reverse_append]
    rfl
  rw [hcells, hcount, hpushed]
  exact hring

/-- **The filter of a full ring** is the mean of the last twelve readings. -/
theorem filteredRssi_ring {samples : Buffer ℕ 12} {count next : ℕ}
    (hring : RecentRing 12 samples.cells count next (v.map rssiEncode).reverse)
    (hfull : count = 12) (hrange : ∀ x ∈ v, -127 < x ∧ x < 0) (hsamples : c.rssiSamples = samples) :
    filteredRssi c = filtered v v.length := by
  obtain ⟨hlen, hperm⟩ := hring.perm hfull
  rw [List.length_reverse, List.length_map] at hlen
  have hlast : ((v.map rssiEncode).reverse.take 12).map rssiDecode =
      (v.drop (v.length - 12)).reverse := by
    have hcodes : ((v.map rssiEncode).reverse).map rssiDecode = v.reverse := by
      rw [List.map_reverse, List.map_map]
      apply congrArg List.reverse
      conv_rhs => rw [← List.map_id v]
      exact List.map_congr_left fun x hx => rssiDecode_encode (hrange x hx).1 (hrange x hx).2
    rw [List.map_take, hcodes, List.take_reverse]
  have hsorted : (samples.cells.map rssiDecode).insertionSort (· ≤ ·) =
      (v.drop (v.length - 12)).insertionSort (· ≤ ·) := by
    apply insertionSort_congr
    have hmapped := hperm.map rssiDecode
    rw [hlast] at hmapped
    exact hmapped.trans (List.reverse_perm _)
  have hneg : ∀ x ∈ v.drop (v.length - 12), x < 0 :=
    fun x hx => (hrange x (List.mem_of_mem_drop hx)).2
  unfold filteredRssi filtered
  rw [List.take_length, windowMean_eq hneg, hsamples]
  dsimp only
  rw [hsorted]
  unfold trimmed
  rw [List.length_insertionSort, List.length_drop]
  have hsix : v.length - (v.length - 12) - 2 * 3 = 6 := by omega
  rw [hsix]

/-- The end of `advertisement_received` leaves the rest as it is. -/
theorem confirm_low {near : ℕ} (hnear : near < 3) (c : Client) :
    c.confirm env report near = { c with closeCount := near } := if_pos hnear

theorem opened_confirm (c : Client) : Opened report (c.confirm env report 3) :=
  ⟨rfl, rfl, rfl, rfl⟩

/-- **A reading** goes into the window: with `Near` the scan is over, and otherwise it goes on. -/
theorem Scanned.reading (h : Scanned threshold v c) {x : ℤ} (hlow : -127 < x) (hhigh : x < 0) :
    (Near threshold (v ++ [x]) (v.length + 1) → Opened report ((c.push x).judge env report)) ∧
      (¬ Near threshold (v ++ [x]) (v.length + 1) →
        Scanned threshold (v ++ [x]) ((c.push x).judge env report)) := by
  have hring := h.push_ring x
  have hlength : (v ++ [x]).length = v.length + 1 := by
    rw [List.length_append]
    rfl
  have hrange : ∀ y ∈ v ++ [x], -127 < y ∧ y < 0 := by
    intro y hy
    rcases List.mem_append.mp hy with hy | hy
    · exact h.range y hy
    · rw [List.mem_singleton.mp hy]
      exact ⟨hlow, hhigh⟩
  have hcount : (c.push x).sampleCount = min 12 (v.length + 1) := by
    rw [hring.count_eq, List.length_reverse, List.length_map, hlength]
  have hgate : (c.push x).closeRssiDbm = threshold := h.gate
  have hclose : (c.push x).closeCount = c.closeCount := rfl
  -- earlier readings are not near, so only the new one can be
  have hnever (hnot : ¬ Near threshold (v ++ [x]) (v.length + 1)) (n : ℕ) :
      ¬ Near threshold (v ++ [x]) n := by
    intro hn
    have hle := hn.2.1
    rw [hlength] at hle
    rcases Nat.lt_or_eq_of_le hle with hlt | rfl
    · exact h.never n (hn.append (by omega))
    · exact hnot hn
  unfold Client.judge
  by_cases hfew : (c.push x).sampleCount < 12
  · -- the window is not full yet
    rw [if_pos hfew]
    have hzero : c.closeCount = 0 := by
      by_contra hpos
      have := (h.streak v.length (by omega) le_rfl).1
      omega
    constructor
    · intro hn
      have := hn.1
      omega
    · intro hnot
      refine ⟨h.scanning, h.abort, h.gate, hring, hrange, h.near, ?_, ?_, hnever hnot⟩
      · intro k hk hkv
        rw [hclose] at hk
        omega
      · intro k hk htwelve
        rw [hclose] at hk
        omega
  rw [if_neg hfew]
  have hfull : (c.push x).sampleCount = 12 := by omega
  have htwelve : 12 ≤ v.length + 1 := by omega
  have hfilter := filteredRssi_ring hring hfull hrange rfl
  rw [hlength] at hfilter
  rw [hfilter, hgate, hclose]
  have hold {k : ℕ} (hk : k ≤ v.length) : filtered (v ++ [x]) k = filtered v k :=
    filtered_append v [x] hk
  have hnear := h.near
  by_cases hthis : threshold ≤ filtered (v ++ [x]) (v.length + 1)
  · rw [if_pos hthis, Nat.mod_eq_of_lt (by omega)]
    -- all values of the longer streak are close
    have hstreak (k : ℕ) (hk : v.length < k + c.closeCount) (hkv : k ≤ v.length + 1) :
        12 ≤ k ∧ threshold ≤ filtered (v ++ [x]) k := by
      rcases Nat.lt_or_eq_of_le hkv with hlt | rfl
      · rw [hold (by omega)]
        exact h.streak k hk (by omega)
      · exact ⟨htwelve, hthis⟩
    by_cases hthree : c.closeCount = 2
    · rw [hthree]
      refine ⟨fun _ => opened_confirm _, fun hnot => absurd ?_ hnot⟩
      have hfirst := (hstreak (v.length - 1) (by omega) (by omega)).1
      refine ⟨by omega, hlength.ge, ?_⟩
      intro k hk hkn
      exact (hstreak k (by omega) hkn).2
    · rw [confirm_low (by omega)]
      constructor
      · intro hn
        -- the value before the streak was not close
        obtain ⟨hfourteen, -, hall⟩ := hn
        have hlt := h.broken (v.length - c.closeCount) (by omega) (by omega)
        have hge := hall (v.length - c.closeCount) (by omega) (by omega)
        rw [hold (by omega)] at hge
        exact absurd hge (not_le.mpr hlt)
      · intro hnot
        refine ⟨h.scanning, h.abort, h.gate, hring, hrange, ?_, ?_, ?_, hnever hnot⟩
        · show c.closeCount + 1 < 3
          omega
        · intro k hk hkv
          rw [hlength] at hk hkv
          change v.length + 1 < k + (c.closeCount + 1) at hk
          exact hstreak k (by omega) hkv
        · intro k hk hk12
          rw [hlength] at hk
          change k + (c.closeCount + 1) = v.length + 1 at hk
          rw [hold (by omega)]
          exact h.broken k (by omega) hk12
  · rw [if_neg hthis, confirm_low (by decide)]
    refine ⟨fun hn => absurd (hn.2.2 _ (by omega) le_rfl) hthis, ?_⟩
    intro hnot
    refine ⟨h.scanning, h.abort, h.gate, hring, hrange, ?_, ?_, ?_, hnever hnot⟩
    · show 0 < 3
      decide
    · intro k hk hkv
      rw [hlength] at hk hkv
      change v.length + 1 < k + 0 at hk
      omega
    · intro k hk _
      rw [hlength] at hk
      change k + 0 = v.length + 1 at hk
      have hk' : k = v.length + 1 := hk
      rw [hk']
      exact not_le.mp hthis

/-! ## A scan -/

/-- The packed client scans. -/
structure PackedClient.Scanned (threshold : ℤ) (v : List ℤ) (p : PackedClient) : Prop where
  counters : p.Counters
  scanned : PayloadClient.Scanned threshold v p.unpacked

namespace PackedClient

variable {p : PackedClient} {event : Event}

/-- `advertisement_received` of a report that counts. -/
theorem unpacked_reading (h : p.Scanned threshold v) {x : ℤ}
    (hx : reading (.advertisingReport report) = some x) :
    (p.hciHandler env (.advertisingReport report)).unpacked =
        (p.unpacked.push x).judge env report ∧
      (p.hciHandler env (.advertisingReport report)).Counters ∧ -127 < x ∧ x < 0 := by
  unfold reading at hx
  dsimp only at hx
  split at hx
  · rename_i hreport
    obtain ⟨htarget, hlow, hhigh⟩ := hreport
    cases hx
    have hhandler : p.hciHandler env (.advertisingReport report) =
        p.advertisementReceived env report := if_pos h.scanned.scanning
    obtain ⟨hunpacked, hcounters⟩ := unpacked_advertisementReceived env h.counters report
    have habort : ¬ (p.unpacked.abortRequested = true ∨ targetAdvertisement report = false) := by
      rw [h.scanned.abort, htarget]
      decide
    rw [advertisementReceived_eq, if_neg habort, if_neg (by omega)] at hunpacked
    rw [hhandler]
    exact ⟨hunpacked, hcounters, hlow, hhigh⟩
  · cases hx

/-- The scan was confirmed by the controller. -/
theorem scanEnableComplete_scanning {c : Client} (hstate : c.bleState = .scanning) :
    scanEnableComplete env 0 c = { c with scanConfirmed := true } := by
  unfold scanEnableComplete
  rw [if_neg (not_not.mpr rfl)]
  split
  · rfl
  · rename_i hother
    exact absurd (hstate.symm.trans hother) (by decide)
  · rename_i hother
    exact absurd (hstate.symm.trans hother) (by decide)
  · rename_i hother _ _
    exact absurd hstate hother

/-- A packet that brings no reading. -/
theorem Scanned.other (h : p.Scanned threshold v) (hevent : ScanEvent event)
    (hnone : reading event = none) : (p.hciHandler env event).Scanned threshold v := by
  cases event with
  | advertisingReport report =>
    -- a report from elsewhere, or with an RSSI out of range, changes nothing
    have hskip : p.advertisementReceived env report = p := by
      unfold reading at hnone
      dsimp only at hnone
      unfold advertisementReceived
      dsimp only
      split at hnone
      · cases hnone
      · rename_i hreport
        split
        · rfl
        · rename_i htarget
          rw [not_or, Bool.not_eq_false] at htarget
          have hrange : 0 ≤ report.rssi.toInt ∨ report.rssi.toInt ≤ -127 := by
            by_contra hcon
            exact hreport ⟨htarget.2, by omega, by omega⟩
          rw [if_pos hrange]
    have hhandler : p.hciHandler env (.advertisingReport report) =
        p.advertisementReceived env report := if_pos h.scanned.scanning
    rw [hhandler, hskip]
    exact h
  | stackState working =>
    obtain ⟨hcounters, hs⟩ := h
    exact ⟨⟨hcounters.index, hcounters.count⟩, ⟨hs.scanning, hs.abort, hs.gate, hs.ring, hs.range,
      hs.near, hs.streak, hs.broken, hs.never⟩⟩
  | commandComplete scanEnable status =>
    cases scanEnable with
    | false => exact h
    | true =>
      -- the start of the scan is confirmed
      have hstatus : status = 0 := hevent rfl
      subst hstatus
      obtain ⟨hcounters, hs⟩ := h
      have hstate : p.client.bleState = .scanning := hs.scanning
      have hhandler : p.hciHandler env (.commandComplete true 0) =
          { p with client := { p.client with scanConfirmed := true } } :=
        congrArg (PackedClient.mk · p.samples) (scanEnableComplete_scanning hstate)
      rw [hhandler]
      exact ⟨⟨hcounters.index, hcounters.count⟩, ⟨hs.scanning, hs.abort, hs.gate, hs.ring,
        hs.range, hs.near, hs.streak, hs.broken, hs.never⟩⟩
  | connectionComplete status handle => exact hevent.elim
  | disconnectionComplete handle => exact hevent.elim
  | notification handle valueHandle value => exact hevent.elim
  | serviceQueryResult handle => exact hevent.elim
  | characteristicQueryResult handle valueHandle => exact hevent.elim
  | queryComplete handle status => exact hevent.elim

/-- **While no reading is near the scan goes on.** -/
theorem Scanned.scan (h : p.Scanned threshold v) (events : List (Env × Event))
    (hevents : ∀ x ∈ events, ScanEvent x.2)
    (hnever : ∀ n, ¬ Near threshold (v ++ readings events) n) :
    (p.scan events).Scanned threshold (v ++ readings events) := by
  induction events generalizing p v with
  | nil =>
    have hnil : v ++ readings [] = v := List.append_nil v
    rw [hnil]
    exact h
  | cons x events ih =>
    have hrest : ∀ y ∈ events, ScanEvent y.2 := fun y hy => hevents y (List.mem_cons_of_mem _ hy)
    have hevent := hevents x List.mem_cons_self
    obtain ⟨env, event⟩ := x
    cases hreading : reading event with
    | none =>
      have hsame : readings ((env, event) :: events) = readings events :=
        List.filterMap_cons_none hreading
      rw [hsame] at hnever ⊢
      exact ih (h.other hevent hreading) hrest hnever
    | some value =>
      have hcons : readings ((env, event) :: events) = value :: readings events :=
        List.filterMap_cons_some hreading
      have hmore : v ++ readings ((env, event) :: events) = (v ++ [value]) ++ readings events := by
        rw [hcons, List.append_assoc]
        rfl
      rw [hmore] at hnever ⊢
      cases event with
      | advertisingReport report =>
        obtain ⟨hunpacked, hcounters, hlow, hhigh⟩ := unpacked_reading h hreading
        refine ih ⟨hcounters, ?_⟩ hrest hnever
        rw [hunpacked]
        refine (h.scanned.reading hlow hhigh).2 fun hnear => hnever (v.length + 1) ?_
        -- what is near now is near in the whole scan
        obtain ⟨hfourteen, hle, hall⟩ := hnear
        refine ⟨hfourteen, hle.trans ?_, fun k hk hkn => ?_⟩
        · exact (List.sublist_append_left (v ++ [value]) (readings events)).length_le
        · rw [filtered_append _ _ (hkn.trans hle)]
          exact hall k hk hkn
      | _ => cases hreading

/-- The start of an attempt is the start of a scan. -/
theorem scanned_start (env : Env) (p : PackedClient) (habort : p.client.abortRequested = false)
    (hreconnect : p.client.reconnectRequested = false) :
    (p.startAttemptCallback env).Scanned p.client.closeRssiDbm [] := by
  have hclient : (p.startAttemptCallback env).client =
      (Client.setState env .scanning { p.client with
        closeConfirmed := false
        scanConfirmed := false
        payloadVerified := false
        pendingLength := 0
        replyLength := 0
        replyOffset := 0
        sampleCount := 0
        sampleIndex := 0
        closeCount := 0
        rssiSamples := .filled 12 0 }).call .startScan := by
    obtain ⟨c, samples⟩ := p
    cases c
    dsimp only at habort hreconnect
    subst habort hreconnect
    rfl
  have hsamples : (p.startAttemptCallback env).samples = .filled 11 0 := by
    show (if p.client.abortRequested then p.samples else .filled 11 0) = _
    rw [habort]
    rfl
  generalize p.startAttemptCallback env = q at hclient hsamples ⊢
  obtain ⟨c, samples⟩ := q
  change c = _ at hclient
  change samples = _ at hsamples
  subst hclient hsamples
  -- nothing has been heard: the ring is empty and no filtered value exists
  refine ⟨⟨Nat.succ_pos 11, Nat.zero_le 12⟩,
    ⟨rfl, habort, rfl, ?_, ?_, Nat.succ_pos 2, ?_, ?_, ?_⟩⟩
  · refine ⟨?_, rfl, rfl, fun i _ hlen => absurd hlen (Nat.not_lt_zero i)⟩
    exact (unpack (.filled 11 0)).length_cells
  · intro x hx
    cases hx
  · intro k hk hkv
    exact absurd hkv (Nat.not_le.mpr hk)
  · intro k hk htwelve
    have hzero : k = 0 := hk
    omega
  · intro n hn
    exact absurd (hn.1.trans hn.2.1) (by decide)

end PackedClient

/-- **The proximity gate.**  In a scan that is not aborted, the client scans as long as no reading
is `Near`, and with the first one that is it leaves for the connection, to the beacon of that
report.  The filtered values lie between the fourth lowest and the fourth highest reading of their
window, and no three readings can move them outside the others. -/
theorem proximity_window :
    (∀ (env : Env) (p : PackedClient) (events : List (Env × Event)),
      p.client.abortRequested = false → p.client.reconnectRequested = false →
      (∀ x ∈ events, ScanEvent x.2) →
      ((∀ n, ¬ Near p.client.closeRssiDbm (readings events) n) →
        ((p.startAttemptCallback env).scan events).client.bleState = .scanning) ∧
      ∀ (before : List (Env × Event)) (env' : Env) (event : Event) (n : ℕ),
        events = before ++ [(env', event)] →
        (∀ m, ¬ Near p.client.closeRssiDbm (readings before) m) →
        Near p.client.closeRssiDbm (readings events) n →
        n = (readings events).length ∧ ∃ report, event = .advertisingReport report ∧
          reading event = (readings events).getLast? ∧
          Opened report ((p.startAttemptCallback env).scan events).client) ∧
    (∀ w : List ℤ, w.length = 12 → (∀ x ∈ w, x < 0) →
      ∃ low high, (w.insertionSort (· ≤ ·))[3]? = some low ∧
        (w.insertionSort (· ≤ ·))[8]? = some high ∧ low ≤ windowMean w ∧ windowMean w ≤ high) ∧
    (∀ w odd rest : List ℤ, w.length = 12 → (∀ x ∈ w, x < 0) → w.Perm (odd ++ rest) →
      odd.length ≤ 3 →
      ∃ low ∈ rest, ∃ high ∈ rest, low ≤ windowMean w ∧ windowMean w ≤ high) := by
  refine ⟨?_, fun w hlen hneg => windowMean_middle hlen hneg, ?_⟩
  · intro env p events habort hreconnect hevents
    have hstart := PackedClient.scanned_start env p habort hreconnect
    constructor
    · intro hnever
      exact (hstart.scan events hevents hnever).scanned.scanning
    · intro before env' event n hsplit hbefore hnear
      subst hsplit
      -- before the last report no reading was near, so the scan has gone on
      have hscan := hstart.scan before (fun x hx => hevents x (List.mem_append_left _ hx)) hbefore
      rw [List.nil_append] at hscan
      have hrun : (p.startAttemptCallback env).scan (before ++ [(env', event)]) =
          ((p.startAttemptCallback env).scan before).hciHandler env' event := by
        unfold PackedClient.scan
        rw [List.foldl_append]
        rfl
      have happend : readings (before ++ [(env', event)]) =
          readings before ++ readings [(env', event)] := List.filterMap_append
      rw [hrun]
      rw [happend] at hnear ⊢
      cases hreading : reading event with
      | none =>
        have hnone : readings [(env', event)] = [] := List.filterMap_cons_none hreading
        rw [hnone, List.append_nil] at hnear
        -- an event without a reading adds nothing
        exact absurd hnear (hbefore n)
      | some x =>
        have hone : readings [(env', event)] = [x] := List.filterMap_cons_some hreading
        rw [hone] at hnear ⊢
        have hlength : (readings before ++ [x]).length = (readings before).length + 1 := by
          rw [List.length_append]
          rfl
        -- a reading that was near before would have ended the scan
        have hn : n = (readings before).length + 1 := by
          have hle := hnear.2.1
          rw [hlength] at hle
          by_contra hne
          exact hbefore n (hnear.append (by omega))
        cases event with
        | advertisingReport report =>
          obtain ⟨hunpacked, -, hlow, hhigh⟩ :=
            @PackedClient.unpacked_reading _ _ env' report _ hscan x hreading
          refine ⟨hn.trans hlength.symm, report, rfl, ?_, ?_⟩
          · rw [List.getLast?_append]
            rfl
          · rw [hn] at hnear
            have hopened := (@Scanned.reading _ _ _ env' report hscan.scanned x hlow hhigh).1 hnear
            rw [← hunpacked] at hopened
            exact ⟨hopened.stopping, hopened.confirmed, hopened.address, hopened.addressType⟩
        | _ => cases hreading
  · intro w odd rest hlen hneg hp hodd
    exact windowMean_robust hlen hneg hp hodd

/-- A report of the target beacon at -30 dBm. -/
def nearReport : Advertisement := ⟨[(0x16, [0x20, 0xFF, 1, 1])], List.replicate 6 0, 0, -30⟩

/-- It is received `n` times, and the chip grants every request. -/
def nearScan (n : ℕ) : List (Env × Event) :=
  List.replicate n (⟨0, 0, 0, 0, 0, false, false, false⟩, .advertisingReport nearReport)

/-- The client when the first scan begins. -/
def scanStart : PackedClient :=
  PackedClient.startAttemptCallback ⟨0, 0, 0, 0, 0, false, false, false⟩ ⟨.boot, .filled 11 0⟩

/-- The client leaves a scan with the fourteenth report, and three readings far off do not move
a filtered value. -/
theorem proximity_window_fourteen :
    (scanStart.scan (nearScan 13)).client.bleState = .scanning ∧
      Opened nearReport (scanStart.scan (nearScan 14)).client ∧
      windowMean (List.replicate 3 (-1) ++ List.replicate 9 (-30)) = -30 := by
  have hscan (n : ℕ) : ∀ x ∈ nearScan n, ScanEvent x.2 := by
    intro x hx
    rw [List.eq_of_mem_replicate hx]
    trivial
  have hbefore : ∀ m, ¬ Near ap1CloseRssiDbm (readings (nearScan 13)) m := by
    rintro m ⟨hlow, hhigh, -⟩
    have hlength : (readings (nearScan 13)).length = 13 := by decide +kernel
    omega
  have hnear : Near ap1CloseRssiDbm (readings (nearScan 14)) 14 := by
    refine ⟨by decide, by decide +kernel, fun k hlow hhigh => ?_⟩
    have hthree : ∀ i < 3, ap1CloseRssiDbm ≤ filtered (readings (nearScan 14)) (12 + i) := by
      decide +kernel
    obtain ⟨i, rfl⟩ := Nat.exists_eq_add_of_le hlow
    exact hthree i (by omega)
  obtain ⟨hgate, -, hrobust⟩ := proximity_window
  obtain ⟨hfirst, -⟩ := hgate ⟨0, 0, 0, 0, 0, false, false, false⟩ ⟨.boot, .filled 11 0⟩
    (nearScan 13) rfl rfl (hscan 13)
  have hlast := (hgate ⟨0, 0, 0, 0, 0, false, false, false⟩ ⟨.boot, .filled 11 0⟩
    (nearScan 14) rfl rfl (hscan 14)).2 (nearScan 13) _ (.advertisingReport nearReport) 14
    List.replicate_succ' hbefore hnear
  obtain ⟨-, report, hreport, -, hopened⟩ := hlast
  rw [← Event.advertisingReport.inj hreport] at hopened
  unfold scanStart
  refine ⟨hfirst hbefore, hopened, ?_⟩
  -- between the remaining readings, which are all the same
  obtain ⟨low, hlow, high, hhigh, hle, hge⟩ :=
    hrobust (List.replicate 3 (-1) ++ List.replicate 9 (-30)) (List.replicate 3 (-1))
      (List.replicate 9 (-30)) rfl (by decide) (List.Perm.refl _) (by decide)
  rw [List.eq_of_mem_replicate hlow] at hle
  rw [List.eq_of_mem_replicate hhigh] at hge
  exact le_antisymm hge hle

end PayloadClient
