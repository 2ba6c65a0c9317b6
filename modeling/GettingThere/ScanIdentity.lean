/-
# Whose readings are recorded (`getting_there/wifi_sampler.c`)

The callbacks of a scan write one shared record and one BSSID; the collector reads them when the
scan is over, and locks the identity then.  `Sound` says what the record stands for at every
moment: the loudest acceptable result of the scan that runs, and of no other.

The general part is `LoudestSource`: results are readings, BSSIDs their sources.
-/
import GettingThere.LoudestSource
import GettingThere.Transition
import GettingThere.WifiScans

open CrashLogic PackedBits

namespace WifiScans

/-! ## Results and scans -/

/-- The SSID of a result. -/
def ScanResult.name (r : ScanResult) : List UInt8 := r.ssid.prefixOf r.ssidLen.toNat

/-- The dBm of a result. -/
def ScanResult.dbm (r : ScanResult) : ℤ := r.rssi.toInt

/-- AP1 was heard: exactly its SSID, at -126 to -1 dBm. -/
def ScanResult.Acceptable (r : ScanResult) : Prop := r.name = ap1Ssid ∧ -127 < r.dbm ∧ r.dbm < 0

instance decidableAcceptable (r : ScanResult) : Decidable r.Acceptable := by
  unfold ScanResult.Acceptable
  infer_instance

attribute [local instance] Int.instLinearOrder

/-- The acceptable results of a scan, as they came. -/
def Scan.heard (scan : Scan) : List ScanResult := scan.results.filter fun r => r.Acceptable

/-- The result of a scan that counts for a target: the first strongest one. -/
def Scan.strongest (target : Option (Buffer UInt8 6)) (scan : Scan) : Option ScanResult :=
  LoudestSource.loudest ScanResult.bssid ScanResult.dbm target scan.heard

/-- The code of a result, or the missing code. -/
def codeOf : Option ScanResult → ℕ
  | some r => rssiEncode r.dbm
  | none => rssiMissingCode

/-- The target that some scans fix, the latest first. -/
def targetAfter (scans : List Scan) : Option (Buffer UInt8 6) :=
  LoudestSource.targetOf ScanResult.bssid ScanResult.dbm (scans.map Scan.heard)

/-- The target BSSID, once it is locked. -/
def Scanner.target (s : Scanner) : Option (Buffer UInt8 6) :=
  if s.identityLocked then some s.targetBssid else none

/-- The scans that are over, the latest first. -/
def Scanner.finished (s : Scanner) : List Scan := s.scans.filter fun scan => scan.code.isSome

/-- The test of the driver's callback: eleven bytes of SSID and a level in range. -/
theorem acceptable_iff (r : ScanResult) :
    r.Acceptable ↔ r.ssidLen = 11 ∧ r.ssid.prefixOf 11 = ap1Ssid ∧ -127 < r.dbm ∧ r.dbm < 0 := by
  unfold ScanResult.Acceptable ScanResult.name
  constructor
  · rintro ⟨hname, hdbm⟩
    have hlen := congrArg List.length hname
    have hcells := r.ssid.length_cells
    have heleven : r.ssidLen.toNat = 11 := by
      unfold Buffer.prefixOf at hlen
      rw [List.length_take, hcells] at hlen
      change min r.ssidLen.toNat 32 = 11 at hlen
      omega
    refine ⟨UInt8.toNat_inj.mp heleven, ?_, hdbm⟩
    rw [heleven] at hname
    exact hname
  · rintro ⟨hlen, hname, hdbm⟩
    rw [hlen]
    exact ⟨hname, hdbm⟩

/-- `sampler_result` looks at the results that are acceptable and from the target. -/
theorem ignored_iff (r : ScanResult) (s : Scanner) :
    ignored r s ↔ ¬ (r.Acceptable ∧ LoudestSource.Audible ScanResult.bssid s.target r) := by
  have haudible : LoudestSource.Audible ScanResult.bssid s.target r ↔
      ¬ (s.identityLocked = true ∧ r.bssid ≠ s.targetBssid) := by
    unfold Scanner.target
    cases s.identityLocked <;> simp
  rw [haudible, acceptable_iff, ignored]
  unfold ScanResult.dbm
  constructor
  · rintro (h | h | h | h | h) ⟨⟨hlen, hname, hlow, hhigh⟩, hmine⟩
    · exact h hlen
    · omega
    · omega
    · exact h hname
    · exact hmine h
  · intro h
    by_contra hno
    push Not at hno
    obtain ⟨hlen, hhigh, hlow, hname, hmine⟩ := hno
    exact h ⟨⟨hlen, hname, hlow, hhigh⟩, fun hother => hother.2 (hmine hother.1)⟩

/-- Codes of acceptable results, compared as `sampler_result` does. -/
theorem code_le_iff {c r : ScanResult} (hc : c.Acceptable) (hr : r.Acceptable) :
    rssiEncode c.dbm ≤ rssiEncode r.dbm ↔ ¬ c.dbm < r.dbm := by
  have encode {x : ScanResult} (h : x.Acceptable) : rssiEncode x.dbm = (-x.dbm).toNat :=
    if_pos ⟨h.2.2, h.2.1⟩
  rw [encode hc, encode hr]
  have := hc.2
  have := hr.2
  omega

/-- The code of an acceptable level is never the missing code. -/
theorem code_lt_missing {r : ScanResult} (hr : r.Acceptable) :
    rssiEncode r.dbm < rssiMissingCode := by
  have : rssiEncode r.dbm = (-r.dbm).toNat := if_pos ⟨hr.2.2, hr.2.1⟩
  have := hr.2
  unfold rssiMissingCode
  omega

/-! ## The invariant -/

/-- Each scan has been recorded with its strongest result, for the target of the scans before. -/
def Coded : List Scan → Prop
  | [] => True
  | scan :: older => scan.code = some (codeOf (scan.strongest (targetAfter older))) ∧ Coded older

/-- `scans` are over, and some of them have been before `base`: the target is the one they fix, and
the records that have not been reported are their latest codes. -/
structure Filed (base scans : List Scan) (s : Scanner) : Prop where
  coded : Coded scans
  target : s.target = targetAfter scans
  filed : ∃ reported, scans.reverse.map (fun scan => (scan.id, scan.code)) =
    reported ++ s.records.map fun record => (record.scanId, some record.code)
  since : base <:+ scans

/-- No scan runs. -/
structure Settled (base : List Scan) (s : Scanner) : Prop where
  quiet : s.active = false
  closed : s.scanOpen = false
  filed : Filed base s.scans s

/-- `scan` runs, or is over and not yet collected: what is pending is its strongest result so
far. -/
structure Flying (base : List Scan) (scan : Scan) (older : List Scan) (s : Scanner) : Prop where
  scans : s.scans = scan :: older
  running : scan.code = none
  opened : s.scanOpen = true
  room : s.records.length < Robot.wifiRecordCapacity
  id : s.pendingResult.scanId = scan.id
  number : s.scanId = scan.id
  code : s.pendingResult.code = codeOf (scan.strongest s.target)
  bssid : ∀ r ∈ scan.strongest s.target, s.pendingBssid = r.bssid
  filed : Filed base older s

/-- What holds at every moment between two calls, and when a wait is cut off. -/
def Sound (base : List Scan) (s : Scanner) : Prop :=
  Settled base s ∨ ∃ scan older, Flying base scan older s

variable {base older : List Scan} {scan : Scan} {s t : Scanner}

/-- The same scan, record and target; the rest of the sampler is about moving scans. -/
structure Same (s t : Scanner) : Prop where
  active : t.active = s.active
  opened : t.scanOpen = s.scanOpen
  scans : t.scans = s.scans
  pending : t.pendingResult = s.pendingResult
  pendingBssid : t.pendingBssid = s.pendingBssid
  locked : t.identityLocked = s.identityLocked
  bssid : t.targetBssid = s.targetBssid
  records : t.records = s.records
  number : t.scanId = s.scanId

/-- What is the same to a scan has the same target. -/
theorem Same.target (h : Same s t) : t.target = s.target := by
  rw [Scanner.target, Scanner.target, h.locked, h.bssid]

/-- The target and the records are all that the files depend on. -/
theorem Filed.of_eq {scans : List Scan} (h : Filed base scans s) (htarget : t.target = s.target)
    (hrecords : t.records = s.records) : Filed base scans t := by
  refine ⟨h.coded, htarget.trans h.target, ?_, h.since⟩
  rw [hrecords]
  exact h.filed

/-- No scan runs in a sampler that is the same to the scans. -/
theorem Settled.same (h : Settled base s) (hsame : Same s t) : Settled base t := by
  refine ⟨hsame.active.trans h.quiet, hsame.opened.trans h.closed, ?_⟩
  rw [hsame.scans]
  exact h.filed.of_eq hsame.target hsame.records

/-- The driver's side does not matter to a scan that flies. -/
theorem Flying.of_eq (h : Flying base scan older s) (hopen : t.scanOpen = s.scanOpen)
    (hscans : t.scans = s.scans) (hpending : t.pendingResult = s.pendingResult)
    (hbssid : t.pendingBssid = s.pendingBssid) (htarget : t.target = s.target)
    (hrecords : t.records = s.records) (hnumber : t.scanId = s.scanId) :
    Flying base scan older t := by
  refine ⟨hscans.trans h.scans, h.running, hopen.trans h.opened, ?_, ?_,
    hnumber.trans h.number, ?_, ?_, h.filed.of_eq htarget hrecords⟩
  · rw [hrecords]
    exact h.room
  · rw [hpending]
    exact h.id
  · rw [hpending, htarget]
    exact h.code
  · rw [hbssid, htarget]
    exact h.bssid

/-- A scan runs on in a sampler that is the same to it. -/
theorem Flying.same (h : Flying base scan older s) (hsame : Same s t) :
    Flying base scan older t :=
  h.of_eq hsame.opened hsame.scans hsame.pending hsame.pendingBssid hsame.target hsame.records
    hsame.number

/-! ## The driver -/

/-- The scan with one more result. -/
def Scan.hear (scan : Scan) (r : ScanResult) : Scan :=
  { scan with results := scan.results ++ [r] }

/-- A result is heard if it is acceptable. -/
theorem heard_hear (scan : Scan) (r : ScanResult) :
    (scan.hear r).heard = if r.Acceptable then scan.heard ++ [r] else scan.heard := by
  unfold Scan.heard Scan.hear
  rw [List.filter_append, List.filter_singleton]
  by_cases h : r.Acceptable
  · rw [if_pos h, decide_eq_true h]
    rfl
  · rw [if_neg h, decide_eq_false h]
    exact List.append_nil _

/-- A result that `sampler_result` ignores does not count. -/
theorem strongest_hear_ignored {r : ScanResult} (scan : Scan) (h : ignored r s) :
    (scan.hear r).strongest s.target = scan.strongest s.target := by
  unfold Scan.strongest
  rw [heard_hear]
  split
  · rename_i hr
    apply LoudestSource.loudest_concat_deaf
    intro haudible
    exact (ignored_iff r s).mp h ⟨hr, haudible⟩
  · rfl

/-- Any other one counts if it is stronger than all before it. -/
theorem strongest_hear {r : ScanResult} (scan : Scan) (h : ¬ ignored r s) :
    (scan.hear r).strongest s.target =
      match scan.strongest s.target with
      | none => some r
      | some c => if c.dbm < r.dbm then some r else some c := by
  rw [ignored_iff, not_not] at h
  unfold Scan.strongest
  rw [heard_hear, if_pos h.1]
  have hconcat :
      LoudestSource.loudest ScanResult.bssid ScanResult.dbm s.target (scan.heard ++ [r]) = _ :=
    LoudestSource.loudest_concat h.2
  apply hconcat.trans
  cases LoudestSource.loudest ScanResult.bssid ScanResult.dbm s.target scan.heard with
  | none => rfl
  | some c => exact if_congr Iff.rfl rfl rfl

/-- The strongest result of a scan is one of the acceptable ones. -/
theorem acceptable_of_strongest {c : ScanResult} {target : Option (Buffer UInt8 6)}
    (h : scan.strongest target = some c) : c.Acceptable := by
  unfold Scan.strongest at h
  have hmem := (LoudestSource.loudest_spec h).1
  exact of_decide_eq_true (List.mem_filter.mp hmem).2

/-- **One result** of the scan that runs. -/
theorem Flying.result (h : Flying base scan older s) (r : ScanResult) :
    Flying base (scan.hear r) older (callBack s (some r)) := by
  have noted (u : Scanner) (hu : u.scans = s.scans) :
      noteResult (some r) u = { u with scans := scan.hear r :: older } := by
    unfold noteResult
    rw [hu, h.scans]
    rfl
  unfold callBack samplerResult
  dsimp only
  split
  · -- not for us
    rename_i hignored
    rw [noted s rfl]
    refine ⟨rfl, h.running, h.opened, h.room, h.id, h.number, ?_, ?_, h.filed.of_eq rfl rfl⟩
    · exact h.code.trans (congrArg codeOf (strongest_hear_ignored scan hignored).symm)
    · intro c hc
      exact h.bssid c ((strongest_hear_ignored scan hignored).symm.trans hc)
  rename_i hheard
  have hstrongest := strongest_hear scan hheard
  have hr : r.Acceptable := by
    rw [ignored_iff, not_not] at hheard
    exact hheard.1
  have hcode := h.code
  split
  · -- no stronger than what is pending
    rename_i hweak
    rw [noted s rfl]
    have hkept : (scan.hear r).strongest s.target = scan.strongest s.target := by
      rw [hstrongest]
      cases hc : scan.strongest s.target with
      | none =>
        rw [hcode, hc] at hweak
        exact absurd hweak (Nat.not_le.mpr (code_lt_missing hr))
      | some c =>
        rw [hcode, hc] at hweak
        exact if_neg ((code_le_iff (acceptable_of_strongest hc) hr).mp hweak)
    refine ⟨rfl, h.running, h.opened, h.room, h.id, h.number, ?_, ?_, h.filed.of_eq rfl rfl⟩
    · exact hcode.trans (congrArg codeOf hkept.symm)
    · intro c hc
      exact h.bssid c (hkept.symm.trans hc)
  · -- the strongest so far
    rename_i hstrong
    rw [noted _ (by rfl)]
    have hnew : (scan.hear r).strongest s.target = some r := by
      rw [hstrongest]
      cases hc : scan.strongest s.target with
      | none => rfl
      | some c =>
        rw [hcode, hc] at hstrong
        have := (code_le_iff (acceptable_of_strongest hc) hr).not.mp hstrong
        exact if_pos (not_not.mp this)
    refine ⟨rfl, h.running, h.opened, h.room, h.id, h.number, ?_, ?_, h.filed.of_eq rfl rfl⟩
    · exact congrArg codeOf hnew.symm
    · intro c hc
      have hsame : some r = some c := hnew.symm.trans hc
      cases hsame
      rfl

/-- All results before a moment, and then perhaps the end of the scan. -/
theorem Flying.passed (h : Flying base scan older s) :
    ∃ scan', Flying base scan' older (passed s) ∧ scan'.id = scan.id := by
  have calls (results : List (Option ScanResult)) : ∀ {u : Scanner} {scan : Scan},
      Flying base scan older u →
        ∃ scan', Flying base scan' older (results.foldl callBack u) ∧ scan'.id = scan.id := by
    induction results with
    | nil => exact fun hu => ⟨_, hu, rfl⟩
    | cons result results ih =>
      intro u scan hu
      cases result with
      | none =>
        have hsame : Flying base scan older (callBack u none) := hu
        exact ih hsame
      | some r =>
        obtain ⟨scan', h', hid⟩ := ih (hu.result r)
        exact ⟨scan', h', hid⟩
  unfold WifiScans.passed radio
  split
  · obtain ⟨scan', h', hid⟩ := calls (s.surroundings.results s.tick) h
    exact ⟨scan', h'.of_eq rfl rfl rfl rfl rfl rfl rfl, hid⟩
  · exact ⟨scan, h.of_eq rfl rfl rfl rfl rfl rfl rfl, rfl⟩

/-- No moment changes anything while no scan is active. -/
theorem passed_quiet (h : s.active = false) : passed s = { s with tick := s.tick + 1 } := by
  have hradio : radio s = s := by
    unfold radio
    rw [h]
    rfl
  unfold passed
  rw [hradio]

/-- A moment that passes starts no scan. -/
theorem Settled.passed (h : Settled base s) : Settled base (passed s) := by
  rw [passed_quiet h.quiet]
  exact h.same ⟨rfl, rfl, rfl, rfl, rfl, rfl, rfl, rfl, rfl⟩

/-- Whatever the driver delivers in a moment, the sampler stays sound. -/
theorem Sound.passed (h : Sound base s) : Sound base (passed s) := by
  rcases h with h | ⟨scan, older, h⟩
  · exact .inl h.passed
  · obtain ⟨scan', h', -⟩ := h.passed
    exact .inr ⟨scan', older, h'⟩

/-! ## Rules for commands -/

variable {α : Type} {Q : α → Scanner → Prop} {R : Scanner → Prop}

/-- A question is put after a moment has passed. -/
@[simp] theorem wp_ask {answer : Scanner → α} :
    wp (ask answer) Q R s ↔ Q (answer (passed s)) (passed s) := by
  unfold ask
  simp only [wp_bind, wp_modify, wp_get, wp_pure]

/-- A question to the surroundings is put after a moment, too. -/
@[simp] theorem wp_askOutside {answer : Surroundings → ℕ → α} :
    wp (askOutside answer) Q R s ↔
      Q (answer (passed s).surroundings (passed s).tick) (passed s) := wp_ask

/-- A condition on the scan, the record and the target, which moments keep. -/
structure Steady (P : Scanner → Prop) : Prop where
  same : ∀ {s t}, P s → Same s t → P t
  passed : ∀ {s}, P s → P (passed s)

/-- Soundness is kept by moments, and depends on the scans only. -/
theorem steady_sound (base : List Scan) : Steady (Sound base) where
  same := by
    rintro s t (h | ⟨scan, older, h⟩) hsame
    · exact .inl (h.same hsame)
    · exact .inr ⟨scan, older, h.same hsame⟩
  passed := Sound.passed

/-- A scan with this number runs or waits to be collected, and `older` are over. -/
def Running (base older : List Scan) (number : UInt32) (s : Scanner) : Prop :=
  ∃ scan, Flying base scan older s ∧ scan.id = number

/-- That the scan with this number runs is kept by moments. -/
theorem steady_running (base older : List Scan) (number : UInt32) :
    Steady (Running base older number) where
  same := fun ⟨scan, h, hid⟩ hsame => ⟨scan, h.same hsame, hid⟩
  passed := by
    rintro s ⟨scan, h, rfl⟩
    exact h.passed

/-- No scan runs, `scans` are over, and the code of the last one has not been touched. -/
structure Rested (base scans : List Scan) (number : UInt32) (code : ℕ) (s : Scanner) : Prop where
  settled : Settled base s
  scans : s.scans = scans
  number : s.scanId = number
  code : s.pendingResult.code = code

/-- That no scan runs and the last code has not been touched is kept by moments. -/
theorem steady_rested (base scans : List Scan) (number : UInt32) (code : ℕ) :
    Steady (Rested base scans number code) where
  same h hsame := ⟨h.settled.same hsame, hsame.scans.trans h.scans, hsame.number.trans h.number,
    (congrArg WifiRecord.code hsame.pending).trans h.code⟩
  passed h := by
    rw [passed_quiet h.settled.quiet]
    exact ⟨h.settled.same ⟨rfl, rfl, rfl, rfl, rfl, rfl, rfl, rfl, rfl⟩, h.scans, h.number, h.code⟩

section

variable {P : Scanner → Prop} (hP : Steady P)

include hP

/-- The age of a scan is read without touching it. -/
theorem steady_scanAge (h : P s) : wp scanAge (fun _ t => P t) R s := by
  unfold scanAge samplerNowMs
  simp only [wp_bind, wp_askOutside, wp_get, wp_pure]
  exact hP.passed h

/-- Asking whether the wait is over does not touch the scan. -/
theorem steady_waitOver (h : P s) : wp waitOver (fun _ t => P t) R s := by
  unfold waitOver samplerCanContinue
  rw [wp_bind, wp_askOutside]
  have hpassed := hP.passed h
  split
  · exact hpassed
  · rw [wp_bind]
    exact wp_mono (steady_scanAge hP hpassed) (fun _ _ ht => ht) fun _ ht => ht

/-- A slow scan is reported without touching it. -/
theorem steady_scanSlow (h : P s) : wp scanSlow (fun _ t => P t) R s := by
  unfold scanSlow
  rw [wp_bind, wp_get]
  split
  · exact h
  · rw [wp_bind]
    exact wp_mono (steady_scanAge hP h) (fun _ _ ht => ht) fun _ ht => ht

/-- A lost scan is reported without touching it. -/
theorem steady_scanLost (code : ℕ) (h : P s) : wp (scanLost code) (fun _ t => P t) R s := by
  unfold scanLost samplerNowMs
  split
  · exact h
  · simp only [wp_bind, wp_askOutside, wp_get, wp_pure]
    exact hP.passed h

/-- The records of moving scans are none of the identity's concern. -/
theorem steady_collectMoving (record : WifiRecord) (h : P s) :
    wp (collectMoving record) (fun _ t => P t) R s := by
  unfold collectMoving
  rw [wp_bind]
  refine wp_mono (steady_scanLost hP record.code h) ?_ fun _ ht => ht
  intro lost t ht
  split
  · exact hP.same ht ⟨rfl, rfl, rfl, rfl, rfl, rfl, rfl, rfl, rfl⟩
  split
  · exact hP.same ht ⟨rfl, rfl, rfl, rfl, rfl, rfl, rfl, rfl, rfl⟩
  · simp only [wp_bind, wp_modify, wp_get]
    have hadded : P { t with movingCodes := t.movingCodes ++ [record.code] } :=
      hP.same ht ⟨rfl, rfl, rfl, rfl, rfl, rfl, rfl, rfl, rfl⟩
    split
    · unfold samplerNowMs
      simp only [wp_bind, wp_askOutside, wp_modify]
      exact hP.same (hP.passed hadded) ⟨rfl, rfl, rfl, rfl, rfl, rfl, rfl, rfl, rfl⟩
    · exact hadded

/-- The wait is over once no scan is open or none is active. -/
theorem steady_awaitScan (hR : ∀ t, P t → R t) (h : P s) :
    wp awaitScan (fun b t => P t ∧ (b = true → t.scanOpen = false ∨ t.active = false)) R s := by
  unfold awaitScan loop
  rw [wp_bind, wp_get]
  refine wp_iterate (I := fun _ t => P t) ?_ (fun _ t ht => hR t ht) _ _ _ h
  intro _ u hu
  unfold waitRound
  rw [wp_bind, wp_get]
  split
  · rename_i hclosed
    exact ⟨hu, fun _ => .inl (by simpa using hclosed)⟩
  unfold scanActive
  rw [wp_bind, wp_ask]
  have hpassed := hP.passed hu
  split
  · rename_i hquiet
    exact ⟨hpassed, fun _ => .inr (by simpa using hquiet)⟩
  rw [wp_bind]
  refine wp_mono (steady_waitOver hP hpassed) ?_ fun _ ht => ht
  intro late t ht
  split
  · refine ⟨hP.same ht ⟨rfl, rfl, rfl, rfl, rfl, rfl, rfl, rfl, rfl⟩, ?_⟩
    intro hb
    cases hb
  · exact ht

end

/-! ## Collecting a scan -/

/-- The target after the scan that runs. -/
def lockedBy (scan : Scan) (target : Option (Buffer UInt8 6)) : Option (Buffer UInt8 6) :=
  LoudestSource.lock ScanResult.bssid ScanResult.dbm target scan.heard

/-- A scan without a reading leaves the target. -/
theorem lockedBy_none {target : Option (Buffer UInt8 6)} (h : scan.strongest target = none) :
    lockedBy scan target = target := by
  unfold lockedBy LoudestSource.lock
  show target.or ((scan.strongest target).map ScanResult.bssid) = target
  rw [h]
  cases target <;> rfl

/-- A scan with a reading fixes it. -/
theorem lockedBy_some {target : Option (Buffer UInt8 6)} {c : ScanResult}
    (h : scan.strongest target = some c) : lockedBy scan target = some c.bssid := by
  unfold lockedBy
  unfold Scan.strongest at h
  exact LoudestSource.source_eq_lock h

/-- What the collector has made of the pending record. -/
structure Settling (base : List Scan) (scan : Scan) (older : List Scan) (record : WifiRecord)
    (s : Scanner) : Prop where
  quiet : s.active = false
  scans : s.scans = scan :: older
  room : s.records.length < Robot.wifiRecordCapacity
  id : record.scanId = scan.id
  number : s.scanId = scan.id
  code : record.code = codeOf (scan.strongest (targetAfter older))
  pending : s.pendingResult.code = record.code
  target : s.target = lockedBy scan (targetAfter older)
  coded : Coded older
  filed : ∃ reported, older.reverse.map (fun scan => (scan.id, scan.code)) =
    reported ++ s.records.map fun record => (record.scanId, some record.code)
  since : base <:+ older

/-- The record of `sampler_collect`: a scan without a reading is recorded as missing; the first
reading locks the identity. -/
theorem wp_settleRecord (h : Flying base scan older s) (hquiet : s.active = false) :
    wp settleRecord (fun record t => Settling base scan older record t) R s := by
  have htarget := h.filed.target
  have hcode := h.code
  rw [htarget] at hcode
  have hpassed := passed_quiet hquiet
  unfold settleRecord
  rw [wp_bind, wp_get]
  split
  · -- nothing was heard
    rename_i hmissing
    have hnone : scan.strongest (targetAfter older) = none := by
      cases hc : scan.strongest (targetAfter older) with
      | none => rfl
      | some c =>
        rw [hcode, hc] at hmissing
        exact absurd hmissing (code_lt_missing (acceptable_of_strongest hc)).ne
    unfold motionDriveActive
    rw [wp_bind, wp_askOutside, wp_pure, hpassed]
    refine ⟨hquiet, h.scans, h.room, h.id, h.number, hcode, rfl, ?_, h.filed.coded, h.filed.filed,
      h.filed.since⟩
    rw [lockedBy_none hnone]
    exact htarget
  · rename_i hmissing
    obtain ⟨c, hc⟩ : ∃ c, scan.strongest (targetAfter older) = some c := by
      cases hc : scan.strongest (targetAfter older) with
      | none =>
        rw [hcode, hc] at hmissing
        exact absurd rfl hmissing
      | some c => exact ⟨c, rfl⟩
    have hbssid : s.pendingBssid = c.bssid := h.bssid c (by rw [htarget]; exact hc)
    dsimp only
    split
    · -- the first reading
      rw [wp_bind, wp_modify, wp_pure]
      refine ⟨hquiet, h.scans, h.room, h.id, h.number, hcode, rfl, ?_, h.filed.coded, h.filed.filed,
        h.filed.since⟩
      rw [lockedBy_some hc, ← hbssid]
      rfl
    · rename_i hlocked
      rw [wp_pure]
      refine ⟨hquiet, h.scans, h.room, h.id, h.number, hcode, rfl, ?_, h.filed.coded, h.filed.filed,
        h.filed.since⟩
      rw [lockedBy_some hc]
      have hlock : s.identityLocked = true := by simpa using hlocked
      have hmine : s.target = some s.targetBssid := by
        rw [Scanner.target, hlock]
        rfl
      -- what counts is from the target
      have haudible := (LoudestSource.loudest_spec hc).2.1
      rw [← htarget, hmine, LoudestSource.audible_some] at haudible
      rw [hmine, haudible]

/-- The record is filed, and the scan is over. -/
theorem Settling.settled {record : WifiRecord} (h : Settling base scan older record s)
    (hscans : t.scans = { scan with code := some record.code } :: older)
    (hquiet : t.active = s.active) (hclosed : t.scanOpen = false)
    (hrecords : t.records = s.records ++ [record]) (htarget : t.target = s.target) :
    Settled base t := by
  refine ⟨hquiet.trans h.quiet, hclosed, ?_⟩
  rw [hscans]
  refine ⟨⟨?_, h.coded⟩, ?_, ?_, h.since.trans (List.suffix_cons _ _)⟩
  · exact congrArg some h.code
  · exact htarget.trans h.target
  · obtain ⟨reported, hfiled⟩ := h.filed
    refine ⟨reported, ?_⟩
    rw [List.reverse_cons, List.map_append, hfiled, hrecords, List.map_append, List.append_assoc]
    show _ ++ (_ ++ [(scan.id, some record.code)]) =
      _ ++ (_ ++ [(record.scanId, some record.code)])
    rw [h.id]

/-- The scan with this number has just been collected, and `older` were over before it. -/
def Collected (base older : List Scan) (number : UInt32) (s : Scanner) : Prop :=
  ∃ done : Scan, Rested base (done :: older) number s.pendingResult.code s ∧
    done.id = number ∧ done.code = some s.pendingResult.code

/-- A scan that is over with this code has been collected. -/
theorem Rested.collected {done : Scan} {code : ℕ} (h : Rested base (done :: older) done.id code s)
    (hdone : done.code = some code) : Collected base older done.id s :=
  ⟨done, ⟨h.settled, h.scans, h.number, rfl⟩, rfl, hdone.trans (congrArg some h.code.symm)⟩

/-- `sampler_collect` after the end of the scan. -/
theorem wp_fileRecord (h : Flying base scan older s) (hquiet : s.active = false) :
    wp fileRecord (fun b t => b = true ∧ Collected base older scan.id t) R s := by
  unfold fileRecord
  rw [wp_bind]
  refine wp_mono (wp_settleRecord h hquiet) ?_ fun _ ht => ht
  intro record u hu
  rw [wp_bind, wp_get]
  split
  · rename_i hfull
    exact absurd hu.room (Nat.not_lt.mpr hfull)
  rw [wp_bind, wp_modify]
  have hscans : noteCode record.code u.scans = { scan with code := some record.code } :: older := by
    rw [hu.scans]
    rfl
  have hfiled : Rested base ({ scan with code := some record.code } :: older) scan.id record.code
      { u with
        records := u.records ++ [record], scanOpen := false,
        scans := noteCode record.code u.scans } :=
    ⟨hu.settled hscans rfl rfl rfl rfl, hscans, hu.number, hu.pending⟩
  split
  · rw [wp_bind]
    refine wp_mono (steady_collectMoving (steady_rested _ _ _ _) record hfiled) ?_ fun _ ht => ht
    intro _ v hv
    exact ⟨rfl, hv.collected rfl⟩
  · exact ⟨rfl, hfiled.collected rfl⟩

/-- `sampler_collect` for a scan that is over. -/
theorem wp_samplerCollect_ended (h : Flying base scan older s) (hquiet : s.active = false) :
    wp samplerCollect (fun b t => b = true ∧ Collected base older scan.id t) R s := by
  have htick : Flying base scan older { s with tick := s.tick + 1 } :=
    h.of_eq rfl rfl rfl rfl rfl rfl rfl
  unfold samplerCollect scanActive
  rw [wp_bind, wp_get, h.opened]
  show wp (ask (fun s => s.active) >>= _) _ _ _
  rw [wp_bind, wp_ask, passed_quiet hquiet]
  split
  · rename_i hactive
    rw [hquiet] at hactive
    cases hactive
  · exact wp_fileRecord htick hquiet

/-- `sampler_collect` at any time. -/
theorem wp_samplerCollect (h : Sound base s) :
    wp samplerCollect (fun _ t => Sound base t) R s := by
  unfold samplerCollect
  rw [wp_bind, wp_get]
  split
  · exact h
  rename_i hopen
  rcases h with h | ⟨scan, older, h⟩
  · rw [h.closed] at hopen
    exact absurd rfl hopen
  obtain ⟨scan', h', -⟩ := h.passed
  unfold scanActive
  rw [wp_bind, wp_ask]
  split
  · exact .inr ⟨scan', older, h'⟩
  · rename_i hactive
    refine wp_mono (wp_fileRecord h' (by simpa using hactive)) ?_ fun _ ht => ht
    intro b t ht
    obtain ⟨-, done, hrested, -, -⟩ := ht
    exact .inl hrested.settled

/-! ## The other functions -/

/-- `sampler_flush`: what is reported is no longer in the records. -/
theorem wp_samplerFlush {scans : List Scan} {number : UInt32} {code : ℕ}
    (h : Rested base scans number code s) :
    wp samplerFlush (fun _ t => Rested base scans number code t) R s := by
  have hsteady := steady_rested base scans number code
  unfold samplerFlush motionDriveActive scanActive
  rw [wp_bind, wp_askOutside]
  have h₁ := hsteady.passed h
  split
  · exact h₁
  rw [wp_bind, wp_get]
  split
  · exact h₁
  rw [wp_bind, wp_ask]
  have h₂ := hsteady.passed h₁
  split
  · exact h₂
  rw [wp_bind, wp_modify, wp_askOutside]
  refine hsteady.passed ⟨⟨h₂.settled.quiet, h₂.settled.closed, ?_⟩, h₂.scans, h₂.number, h₂.code⟩
  have hfiled := h₂.settled.filed
  exact ⟨hfiled.coded, hfiled.target, ⟨_, (List.append_nil _).symm⟩, hfiled.since⟩

/-- `wifi_sampler_quiesce` with no scan open. -/
theorem wp_quiesce_rested {scans : List Scan} {number : UInt32} {code : ℕ}
    (h : Rested base scans number code s) (hR : ∀ t, Sound base t → R t) :
    wp wifiSamplerQuiesce (fun _ t => Rested base scans number code t) R s := by
  unfold wifiSamplerQuiesce
  rw [wp_bind, wp_get]
  split
  · exact h
  rw [wp_bind]
  refine wp_mono (steady_awaitScan (steady_rested base scans number code)
    (fun t ht => hR t (.inl ht.settled)) h) ?_ fun _ ht => ht
  intro b t ht
  split
  · exact ht.1
  unfold samplerCollect
  simp only [wp_bind, wp_get, ht.1.settled.closed]
  exact wp_samplerFlush ht.1

/-- `wifi_sampler_quiesce` with a scan: when it succeeds the scan has been collected. -/
theorem wp_quiesce_running {number : UInt32} (h : Running base older number s)
    (hR : ∀ t, Sound base t → R t) :
    wp wifiSamplerQuiesce
      (fun b t => Sound base t ∧ (b = true → Collected base older number t)) R s := by
  unfold wifiSamplerQuiesce
  rw [wp_bind, wp_get]
  split
  · obtain ⟨scan, h, -⟩ := h
    exact ⟨.inr ⟨scan, older, h⟩, by rintro ⟨⟩⟩
  rw [wp_bind]
  refine wp_mono (steady_awaitScan (steady_running base older number)
    (fun t ⟨scan, ht, _⟩ => hR t (.inr ⟨scan, older, ht⟩)) h) ?_ fun _ ht => ht
  intro b t ht
  obtain ⟨⟨scan, hflying, rfl⟩, hover⟩ := ht
  split
  · exact ⟨.inr ⟨scan, older, hflying⟩, by rintro ⟨⟩⟩
  rename_i hb
  have hquiet : t.active = false := by
    rcases hover (by simpa using hb) with hclosed | hquiet
    · rw [hflying.opened] at hclosed
      cases hclosed
    · exact hquiet
  rw [wp_bind]
  refine wp_mono (wp_samplerCollect_ended hflying hquiet) ?_ fun _ ht => ht
  intro collected u hu
  obtain ⟨rfl, done, hrested, hid, hdone⟩ := hu
  rw [← hid] at hrested ⊢
  refine wp_mono (wp_samplerFlush hrested) ?_ fun _ ht => ht
  intro flushed v hv
  exact ⟨.inl hv.settled, fun _ => hv.collected hdone⟩

/-! ## Beginning a scan -/

/-- The record of the next scan is set up, and the driver has not been called. -/
structure Starting (base older : List Scan) (number : UInt32) (s : Scanner) : Prop where
  quiet : s.active = false
  opened : s.scanOpen = true
  room : s.records.length < Robot.wifiRecordCapacity
  id : s.pendingResult.scanId = number
  code : s.pendingResult.code = rssiMissingCode
  filed : Filed base older s
  scans : s.scans = older
  number : s.scanId = number

/-- `cyw43_wifi_scan`: a scan of which nothing has been heard, or an error. -/
theorem wp_cyw43WifiScan {number : UInt32} (h : Starting base older number s) :
    wp cyw43WifiScan (fun error t =>
      if error then Starting base older number t else Running base older number t) R s := by
  unfold cyw43WifiScan
  rw [wp_bind, wp_askOutside, passed_quiet h.quiet]
  dsimp only
  cases s.surroundings.scanError (s.tick + 1) with
  | true =>
    exact ⟨h.quiet, h.opened, h.room, h.id, h.code, h.filed.of_eq rfl rfl, h.scans, h.number⟩
  | false =>
    refine ⟨⟨s.scanId, [], none⟩, ?_, h.number⟩
    refine ⟨congrArg _ h.scans, rfl, h.opened, h.room, h.id.trans h.number.symm, rfl, h.code, ?_,
      h.filed.of_eq rfl rfl⟩
    rintro r ⟨⟩

/-- That a scan is about to start is kept by moments. -/
theorem steady_starting (base older : List Scan) (number : UInt32) :
    Steady (Starting base older number) where
  same h hsame := by
    refine ⟨hsame.active.trans h.quiet, hsame.opened.trans h.opened, ?_, ?_, ?_,
      h.filed.of_eq hsame.target hsame.records, hsame.scans.trans h.scans,
      hsame.number.trans h.number⟩
    · rw [hsame.records]
      exact h.room
    · rw [hsame.pending]
      exact h.id
    · rw [hsame.pending]
      exact h.code
  passed h := by
    rw [passed_quiet h.quiet]
    exact ⟨h.quiet, h.opened, h.room, h.id, h.code, h.filed.of_eq rfl rfl, h.scans, h.number⟩

/-- A scan that could not be started was none. -/
theorem Starting.settled {number : UInt32} (h : Starting base older number s)
    (hquiet : t.active = s.active) (hscans : t.scans = s.scans) (hclosed : t.scanOpen = false)
    (htarget : t.target = s.target) (hrecords : t.records = s.records) : Settled base t := by
  refine ⟨hquiet.trans h.quiet, hclosed, ?_⟩
  rw [hscans, h.scans]
  exact h.filed.of_eq htarget hrecords

/-- What `sampler_begin` leaves behind: it has refused, or a scan runs. -/
def Begun (base : List Scan) (s : Scanner) (began : Bool) (t : Scanner) : Prop :=
  Sound base t ∧ (began = true → Running base s.scans (s.scanId + 1) t)

/-- A sampler at rest has refused. -/
theorem Settled.begun (h : Settled base t) : Begun base s false t := ⟨.inl h, by rintro ⟨⟩⟩

/-- A scan that runs has begun. -/
theorem Running.begun (h : Running base s.scans (s.scanId + 1) t) : Begun base s true t := by
  obtain ⟨scan, hscan, hid⟩ := h
  exact ⟨.inr ⟨scan, _, hscan⟩, fun _ => ⟨scan, hscan, hid⟩⟩

/-- `sampler_begin` with no scan open. -/
theorem wp_samplerBegin_settled (moving : Bool) (h : Settled base s) :
    wp (samplerBegin moving) (Begun base s) R s := by
  have hsettled : Settled base { s with tick := s.tick + 1 } :=
    h.same ⟨rfl, rfl, rfl, rfl, rfl, rfl, rfl, rfl, rfl⟩
  unfold samplerBegin samplerCanContinue samplerNowMs
  rw [wp_bind, wp_get]
  split
  · exact h.begun
  rw [wp_bind, wp_askOutside, passed_quiet h.quiet]
  split
  · exact hsettled.begun
  rw [wp_bind, wp_get]
  split
  · apply Settled.begun
    exact hsettled.same ⟨rfl, rfl, rfl, rfl, rfl, rfl, rfl, rfl, rfl⟩
  rename_i hroom
  rw [wp_bind, wp_modify, wp_bind, wp_askOutside, passed_quiet (by exact h.quiet), wp_bind,
    wp_modify, wp_bind]
  refine wp_mono (@wp_cyw43WifiScan base s.scans _ _ (s.scanId + 1) ?_) (fun error t ht => ?_)
    fun _ ht => ht
  · exact ⟨h.quiet, rfl, Nat.not_le.mp hroom, rfl, rfl, h.filed.of_eq rfl rfl, rfl, rfl⟩
  rw [wp_bind]
  cases error with
  | true =>
    -- the driver has refused
    refine wp_mono (steady_scanAge (steady_starting base s.scans _) ht) ?_ fun _ ht => ht
    intro _ u hu
    apply Settled.begun
    exact hu.settled rfl rfl rfl rfl rfl
  | false =>
    have hsteady := steady_running base s.scans (s.scanId + 1)
    refine wp_mono (steady_scanAge hsteady ht) ?_ fun _ ht => ht
    intro elapsed u hu
    have htimed := hsteady.same hu (t := { u with maxStartMs := max u.maxStartMs elapsed })
      ⟨rfl, rfl, rfl, rfl, rfl, rfl, rfl, rfl, rfl⟩
    rw [wp_bind, wp_modify]
    simp only [Bool.false_eq_true, if_false]
    split
    · apply Running.begun
      exact hsteady.same htimed ⟨rfl, rfl, rfl, rfl, rfl, rfl, rfl, rfl, rfl⟩
    · exact htimed.begun

end WifiScans
