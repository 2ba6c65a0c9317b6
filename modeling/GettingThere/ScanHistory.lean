/-
# Runs of the Wi-Fi sampler (`getting_there/wifi_sampler.c`)

A run is any sequence of calls, with whatever the driver calls back meanwhile.  `Sound` holds
after each of them, so the history of a run is what `Filed` says: each scan that is over has been
recorded with its own strongest result, and the scans alone decide whose results count.
-/
import GettingThere.ScanIdentity

open CrashLogic PackedBits

namespace WifiScans

variable {base older : List Scan} {scan : Scan} {s t : Scanner} {R : Scanner → Prop}

/-! ## The history -/

theorem finished_of_coded : ∀ {scans : List Scan}, Coded scans →
    scans.filter (fun scan => scan.code.isSome) = scans
  | [], _ => rfl
  | scan :: older, h => by
    rw [List.filter_cons, h.1, finished_of_coded h.2]
    rfl

theorem Settled.finished (h : Settled base s) : s.finished = s.scans :=
  finished_of_coded h.filed.coded

theorem Flying.finished (h : Flying base scan older s) : s.finished = older := by
  unfold Scanner.finished
  rw [h.scans, List.filter_cons, h.running]
  exact finished_of_coded h.filed.coded

/-- What is over is filed. -/
theorem Sound.filed (h : Sound base s) : Filed base s.finished s := by
  rcases h with h | ⟨scan, older, h⟩
  · rw [h.finished]
    exact h.filed
  · rw [h.finished]
    exact h.filed

theorem Filed.rebase {scans : List Scan} (h : Filed base scans s) : Filed scans scans s :=
  ⟨h.coded, h.target, h.filed, List.suffix_rfl⟩

/-- The scans that are over now have been before what comes. -/
theorem Sound.rebase (h : Sound base s) : Sound s.finished s := by
  rcases h with h | ⟨scan, older, h⟩
  · rw [h.finished]
    exact .inl ⟨h.quiet, h.closed, h.filed.rebase⟩
  · rw [h.finished]
    exact .inr ⟨scan, older, { h with filed := h.filed.rebase }⟩

/-- Each scan has its own code, for the target of the scans before it. -/
theorem Coded.code_eq {newer : List Scan} (h : Coded (newer ++ scan :: older)) :
    scan.code = some (codeOf (scan.strongest (targetAfter older))) := by
  induction newer with
  | nil => exact h.1
  | cons _ newer ih => exact ih h.2

/-! ## The functions -/

/-- `sampler_begin` does nothing while a scan is open. -/
theorem wp_samplerBegin (moving : Bool) (h : Sound base s) :
    wp (samplerBegin moving) (fun _ t => Sound base t) R s := by
  rcases h with h | ⟨scan, older, h⟩
  · exact wp_mono (wp_samplerBegin_settled moving h) (fun _ _ ht => ht.1) fun _ ht => ht
  · unfold samplerBegin
    rw [wp_bind, wp_get]
    split
    · exact .inr ⟨scan, older, h⟩
    · rename_i hclosed
      rw [h.opened, Bool.or_true] at hclosed
      exact absurd rfl hclosed

/-- `wifi_sampler_quiesce`: when it succeeds, no scan runs. -/
theorem wp_quiesce (h : Sound base s) (hR : ∀ t, Sound base t → R t) :
    wp wifiSamplerQuiesce (fun b t => Sound base t ∧ (b = true → Settled base t)) R s := by
  rcases h with h | ⟨scan, older, h⟩
  · refine wp_mono (wp_quiesce_rested ⟨h, rfl, rfl, rfl⟩ hR) ?_ fun _ ht => ht
    intro b t ht
    exact ⟨.inl ht.settled, fun _ => ht.settled⟩
  · refine wp_mono (wp_quiesce_running ⟨scan, h, rfl⟩ hR) (fun b t ht => ⟨ht.1, ?_⟩) fun _ ht => ht
    intro hb
    obtain ⟨done, hrested, -, -⟩ := ht.2 hb
    exact hrested.settled

/-- `wifi_sampler_poll_moving`. -/
theorem wp_pollMoving (h : Sound base s) :
    wp wifiSamplerPollMoving (fun _ t => Sound base t) R s := by
  have hsteady := steady_sound base
  unfold wifiSamplerPollMoving samplerCanContinue motionDriveActive
  rw [wp_bind, wp_askOutside]
  have h₁ := hsteady.passed h
  split
  · exact h₁
  rw [wp_bind, wp_get]
  split
  · exact h₁
  rw [wp_bind]
  refine wp_mono (steady_scanSlow hsteady h₁) ?_ fun _ ht => ht
  intro slow t ht
  split
  · exact hsteady.same ht ⟨rfl, rfl, rfl, rfl, rfl, rfl, rfl, rfl, rfl⟩
  rw [wp_bind]
  refine wp_mono (wp_samplerCollect ht) ?_ fun _ ht => ht
  intro collected u hu
  split
  · exact hu
  rw [wp_bind, wp_askOutside, wp_bind, wp_get]
  have h₂ := hsteady.passed hu
  split
  · exact wp_samplerBegin true h₂
  · exact h₂

/-- `wifi_sampler_set_position`. -/
theorem wp_setPosition (h : Sound base s) :
    wp wifiSamplerSetPosition (fun _ t => Sound base t) R s := by
  have hsteady := steady_sound base
  unfold wifiSamplerSetPosition samplerNowMs
  rw [wp_bind, wp_askOutside, wp_modify]
  exact hsteady.same (hsteady.passed h) ⟨rfl, rfl, rfl, rfl, rfl, rfl, rfl, rfl, rfl⟩

/-- `wifi_sampler_init`, before the radio scans. -/
theorem wp_init (h : s.active = false) : wp wifiSamplerInit (fun _ t => Sound [] t) R s :=
  .inl ⟨h, rfl, trivial, rfl, ⟨[], rfl⟩, List.suffix_rfl⟩

/-! ## A sample -/

/-- `n` scans are over since `earlier`, when `first` was the number of the latest: the next `n`
numbers are theirs, and `codes` their codes. -/
structure Sampled (base earlier : List Scan) (first : UInt32) (n : ℕ) (codes : List ℕ)
    (s : Scanner) : Prop where
  settled : Settled base s
  number : s.scanId = first + UInt32.ofNat n
  recent : ∃ recent, s.scans = recent ++ earlier ∧
    recent.reverse.map Scan.id = (List.range n).map (fun i => first + UInt32.ofNat (i + 1)) ∧
    recent.reverse.map Scan.code = codes.map some

theorem steady_sampled (base earlier : List Scan) (first : UInt32) (n : ℕ) (codes : List ℕ) :
    Steady (Sampled base earlier first n codes) where
  same h hsame := by
    refine ⟨h.settled.same hsame, hsame.number.trans h.number, ?_⟩
    rw [hsame.scans]
    exact h.recent
  passed h := by
    have hsettled := h.settled.passed
    rw [passed_quiet h.settled.quiet] at hsettled ⊢
    exact ⟨hsettled, h.number, h.recent⟩

/-- One more scan of a sample. -/
theorem Sampled.next {earlier : List Scan} {first : UInt32} {n : ℕ} {codes : List ℕ}
    (h : Sampled base earlier first n codes s) (ht : Collected base s.scans (s.scanId + 1) t) :
    Sampled base earlier first (n + 1) (codes ++ [t.pendingResult.code]) t := by
  obtain ⟨done, hrested, hid, hcode⟩ := ht
  obtain ⟨recent, hscans, hids, hcodes⟩ := h.recent
  have hnumber : s.scanId + 1 = first + UInt32.ofNat (n + 1) := by
    rw [h.number, UInt32.add_assoc, UInt32.ofNat_add]
    rfl
  refine ⟨hrested.settled, hrested.number.trans hnumber, done :: recent, ?_, ?_, ?_⟩
  · rw [hrested.scans, hscans]
    rfl
  · rw [List.reverse_cons, List.map_append, hids, List.range_succ, List.map_append]
    exact congrArg (_ ++ [·]) (hid.trans hnumber)
  · rw [List.reverse_cons, List.map_append, List.map_append, hcodes]
    exact congrArg (_ ++ [·]) hcode

/-- Each round of a sample adds one scan, and its code. -/
theorem wp_sampleScans {earlier : List Scan} {first : UInt32} (hR : ∀ t, Sound base t → R t) :
    ∀ (n k : ℕ) {codes : List ℕ} {s : Scanner}, Sampled base earlier first k codes s →
      wp (sampleScans n codes) (fun result t => Sound base t ∧
        ∀ codes', result = some codes' → Sampled base earlier first (k + n) codes' t) R s
  | 0, k, codes, s, h => by
    refine ⟨.inl h.settled, ?_⟩
    intro codes' hcodes
    cases hcodes
    exact h
  | n + 1, k, codes, s, h => by
    have failed {t : Scanner} (ht : Sound base t) : Sound base t ∧
        ∀ codes', none = some codes' → Sampled base earlier first (k + (n + 1)) codes' t :=
      ⟨ht, by rintro codes' ⟨⟩⟩
    unfold sampleScans
    rw [wp_bind]
    refine wp_mono (wp_samplerBegin_settled false h.settled) ?_ fun _ ht => ht
    intro began t ht
    split
    · exact failed ht.1
    rename_i hbegan
    rw [wp_bind]
    refine wp_mono (wp_quiesce_running (ht.2 (by simpa using hbegan)) hR) ?_ fun _ ht => ht
    intro quiet u hu
    split
    · exact failed hu.1
    rename_i hquiet
    have hnext := h.next (hu.2 (by simpa using hquiet))
    rw [wp_bind, wp_get]
    refine wp_mono (wp_sampleScans hR n (k + 1) hnext) ?_ fun _ ht => ht
    intro result v hv
    refine ⟨hv.1, ?_⟩
    intro codes' hcodes
    have hsampled := hv.2 codes' hcodes
    rw [Nat.add_right_comm] at hsampled
    exact hsampled

/-- The qualification of the moving acquisition is about no scan. -/
theorem steady_qualify {P : Scanner → Prop} (hP : Steady P) (codes : List ℕ) (elapsed : UInt32)
    (h : P s) : wp (qualify codes elapsed) (fun _ t => P t) R s := by
  unfold qualify
  rw [wp_modify]
  split
  · exact hP.same h ⟨rfl, rfl, rfl, rfl, rfl, rfl, rfl, rfl, rfl⟩
  · exact hP.same h ⟨rfl, rfl, rfl, rfl, rfl, rfl, rfl, rfl, rfl⟩

/-- `wifi_sampler_sample`: when it succeeds, its readings are the codes of five scans since. -/
theorem wp_sample (h : Sound base s) (hR : ∀ t, Sound base t → R t) :
    wp wifiSamplerSample (fun result t => Sound base t ∧
      ∀ codes sample, result = some (codes, sample) → sample = wifiFilter codes ∧
        ∃ earlier first, base <:+ earlier ∧
          Sampled base earlier first scansPerSample codes t) R s := by
  have failed {t : Scanner} (ht : Sound base t) : Sound base t ∧
      ∀ codes sample, none = some (codes, sample) → sample = wifiFilter codes ∧
        ∃ earlier first, base <:+ earlier ∧
          Sampled base earlier first scansPerSample codes t :=
    ⟨ht, by rintro codes sample ⟨⟩⟩
  unfold wifiSamplerSample samplerNowMs samplerCanContinue
  rw [wp_bind]
  refine wp_mono (wp_quiesce h hR) ?_ fun _ ht => ht
  intro quiet t ht
  split
  · exact failed ht.1
  rename_i hquiet
  have hrest := (ht.2 (by simpa using hquiet)).passed
  rw [wp_bind, wp_askOutside, wp_bind]
  have hbefore : Sampled base (passed t).scans (passed t).scanId 0 [] (passed t) :=
    ⟨hrest, (UInt32.add_zero _).symm, [], rfl, rfl, rfl⟩
  refine wp_mono (wp_sampleScans hR scansPerSample 0 hbefore) ?_ fun _ ht => ht
  intro result u hu
  cases result with
  | none => exact failed hu.1
  | some codes =>
    have hsampled := hu.2 codes rfl
    rw [Nat.zero_add] at hsampled
    have hsteady := steady_sampled base (passed t).scans (passed t).scanId scansPerSample codes
    have h₁ := hsteady.passed hsampled
    dsimp only
    rw [wp_bind, wp_askOutside, wp_bind]
    refine wp_mono (steady_qualify hsteady codes _ h₁) ?_ fun _ ht => ht
    intro _ v hv
    rw [wp_bind, wp_askOutside]
    have h₂ := hsteady.passed hv
    split
    · exact failed (.inl h₂.settled)
    rw [wp_bind, wp_askOutside]
    have h₃ := hsteady.passed h₂
    split
    · exact failed (.inl h₃.settled)
    · refine ⟨.inl h₃.settled, ?_⟩
      rintro codes' sample ⟨⟩
      exact ⟨rfl, _, _, hrest.filed.since, h₃⟩

/-! ## Calls -/

/-- Before `wifi_sampler_init`: the statics are zero. -/
def powerOn (surroundings : Surroundings) : Scanner where
  surroundings
  tick := 0
  active := false
  records := []
  pendingResult := ⟨0, 0, false⟩
  pendingBssid := Buffer.filled 6 0
  targetBssid := Buffer.filled 6 0
  identityLocked := false
  scanOpen := false
  movingScan := false
  fallback := false
  samplerFailed := false
  qualificationWindows := 0
  scanStartedMs := 0
  scanId := 0
  maxStartMs := 0
  movingReference := ⟨0, 0⟩
  movingCodes := []
  movingWindowStartedMs := 0
  scans := []

/-- `approach_beacon` calls `wifi_sampler_init` once, when the radio has just come up; so no scan is
active then. -/
def Call.possible : Call → Scanner → Bool
  | .init, s => !s.active
  | _, _ => true

/-- The state a call leaves behind, when it returns or as far as it is observed. -/
def after (call : Call) (s : Scanner) : Scanner := (exec (perform call) s).2

/-- A call of a run; one that does not return is the last. -/
def callStep (s : Scanner) (call : Call) : Option Scanner :=
  match call.possible s, exec (perform call) s with
  | true, (some _, t) => some t
  | _, _ => none

theorem callStep_eq_some {call : Call} (h : callStep s call = some t) :
    call.possible s = true ∧ t = after call s := by
  unfold callStep at h
  unfold after
  split at h
  · rename_i hpossible hexec
    rw [hexec]
    cases h
    exact ⟨hpossible, rfl⟩
  · cases h

/-- Every call but `wifi_sampler_init` keeps what has been. -/
theorem Sound.after {call : Call} (h : Sound base s) (hinit : call ≠ .init) :
    Sound base (after call s) := by
  have hR (t : Scanner) (ht : Sound base t) : Sound base t := ht
  apply always
  cases call with
  | init => exact absurd rfl hinit
  | setPosition => exact wp_setPosition h
  | setReference reference =>
    exact (steady_sound base).same h ⟨rfl, rfl, rfl, rfl, rfl, rfl, rfl, rfl, rfl⟩
  | quiesce =>
    show wp (wifiSamplerQuiesce >>= fun _ => pure ()) _ _ _
    rw [wp_bind]
    exact wp_mono (wp_quiesce h hR) (fun _ _ ht => ht.1) hR
  | pollMoving =>
    show wp (wifiSamplerPollMoving >>= fun _ => pure ()) _ _ _
    rw [wp_bind]
    exact wp_mono (wp_pollMoving h) (fun _ _ ht => ht) hR
  | sample =>
    show wp (wifiSamplerSample >>= fun _ => pure ()) _ _ _
    rw [wp_bind]
    exact wp_mono (wp_sample h hR) (fun _ _ ht => ht.1) hR

theorem sound_after {call : Call} (h : Sound [] s) (hpossible : call.possible s = true) :
    Sound [] (after call s) := by
  by_cases hinit : call = .init
  · subst hinit
    unfold Call.possible at hpossible
    exact @wp_init s (Sound []) (by simpa using hpossible)
  · exact h.after hinit

/-! ## Runs -/

theorem sound_powerOn (surroundings : Surroundings) : Sound [] (powerOn surroundings) :=
  .inl ⟨rfl, rfl, trivial, rfl, ⟨[], rfl⟩, List.suffix_rfl⟩

/-- After any calls. -/
theorem sound_run {surroundings : Surroundings} {calls : List Call}
    (hrun : Transition.run callStep (powerOn surroundings) calls = some s) : Sound [] s := by
  refine Transition.run_invariant ?_ (sound_powerOn surroundings) hrun
  intro s call t hs hstep
  obtain ⟨hpossible, rfl⟩ := callStep_eq_some hstep
  exact sound_after hs hpossible

/-- After any calls but `wifi_sampler_init`, what has been is part of what is. -/
theorem Sound.run {calls : List Call} (h : Sound base s) (hinit : .init ∉ calls)
    (hrun : Transition.run callStep s calls = some t) : Sound base t := by
  have hcalls : Transition.Along callStep (fun _ call => call ≠ .init) s calls := by
    apply Transition.along_of_forall
    intro pre call post _ hsplit _
    rintro rfl
    exact hinit (by rw [hsplit]; simp)
  refine Transition.run_invariant_along ?_ calls s t h hcalls hrun
  intro s call t hs hcall hstep
  obtain ⟨-, rfl⟩ := callStep_eq_some hstep
  exact hs.after hcall

/-! ## What the records say -/

/-- The BSSID of the first strongest acceptable result of the first scan that had one. -/
def firstHeard (scans : List Scan) : Option (Buffer UInt8 6) :=
  scans.reverse.findSome? fun scan => (scan.strongest none).map ScanResult.bssid

theorem targetAfter_eq (scans : List Scan) : targetAfter scans = firstHeard scans := by
  unfold targetAfter firstHeard
  rw [LoudestSource.targetOf_eq_findSome, ← List.map_reverse, List.findSome?_map]
  congr 1
  funext scan
  exact congrArg (Option.map ScanResult.bssid) (LoudestSource.loudest_none scan.heard).symm

/-- What holds of the scans that are over since `wifi_sampler_init`. -/
structure History (s : Scanner) : Prop where
  /-- the first scan that had an acceptable result has fixed the target -/
  target : s.target = firstHeard s.finished
  /-- the code of a scan is its strongest result, from the target that earlier scans have fixed -/
  code : ∀ newer scan older, s.finished = newer ++ scan :: older →
    scan.code = some (codeOf (scan.strongest (firstHeard older)))
  /-- the records are what has not been reported of these codes -/
  recorded : ∃ reported, s.finished.reverse.map (fun scan => (scan.id, scan.code)) =
    reported ++ s.records.map fun record => (record.scanId, some record.code)

theorem Sound.history (h : Sound base s) : History s := by
  have hfiled := h.filed
  refine ⟨hfiled.target.trans (targetAfter_eq _), ?_, hfiled.filed⟩
  intro newer scan older hsplit
  have hcoded := hfiled.coded
  rw [hsplit] at hcoded
  rw [← targetAfter_eq]
  exact hcoded.code_eq

/-- The target stays. -/
theorem Sound.target {bssid : Buffer UInt8 6} (h : Sound s.finished t)
    (hs : s.target = targetAfter s.finished) (hlocked : s.target = some bssid) :
    t.target = some bssid := by
  obtain ⟨newer, hnewer⟩ := h.filed.since
  rw [h.filed.target, ← hnewer]
  rw [hs] at hlocked
  unfold targetAfter at hlocked ⊢
  rw [List.map_append]
  exact LoudestSource.targetOf_append _ hlocked

/-- A reading is a result of its own scan, from the target. -/
theorem Coded.source {newer : List Scan} (h : Coded (newer ++ scan :: older))
    (hcode : scan.code ≠ some rssiMissingCode) :
    ∃ r ∈ scan.results, r.Acceptable ∧ scan.code = some (rssiEncode r.dbm) ∧
      targetAfter (newer ++ scan :: older) = some r.bssid := by
  have hcoded := h.code_eq
  cases hr : scan.strongest (targetAfter older) with
  | none =>
    rw [hr] at hcoded
    exact absurd hcoded hcode
  | some r =>
    rw [hr] at hcoded
    have hheard := List.mem_filter.mp (LoudestSource.loudest_spec hr).1
    refine ⟨r, hheard.1, acceptable_of_strongest hr, hcoded, ?_⟩
    have hlock : targetAfter (scan :: older) = some r.bssid := lockedBy_some hr
    unfold targetAfter at hlock ⊢
    rw [List.map_append]
    exact LoudestSource.targetOf_append _ hlock

/-- Where the readings of a sample come from, that was begun in `s` and has ended in `t`. -/
structure Sampling (s t : Scanner) (codes : List ℕ) (recent : List Scan) : Prop where
  /-- from five scans, begun since -/
  five : recent.length = 5
  fresh : ∃ earlier, t.finished = recent ++ earlier ∧ s.finished <:+ earlier
  distinct : (recent.map Scan.id).Nodup
  /-- each is the code of its scan -/
  codes : recent.reverse.map Scan.code = codes.map some
  /-- from one access point -/
  source : ∀ scan ∈ recent, scan.code ≠ some rssiMissingCode →
    ∃ r ∈ scan.results, r.Acceptable ∧ scan.code = some (rssiEncode r.dbm) ∧
      t.target = some r.bssid

/-- The numbers of the next five scans. -/
theorem nodup_numbers (first : UInt32) :
    ((List.range scansPerSample).map fun i => first + UInt32.ofNat (i + 1)).Nodup := by
  refine List.Nodup.map_on ?_ List.nodup_range
  intro i hi j hj hij
  rw [List.mem_range] at hi hj
  unfold scansPerSample at hi hj
  have hnat := congrArg UInt32.toNat ((UInt32.add_right_inj first).mp hij)
  rw [UInt32.toNat_ofNat', UInt32.toNat_ofNat'] at hnat
  omega

theorem Sampled.sampling {earlier : List Scan} {first : UInt32} {codes : List ℕ}
    (h : Sampled s.finished earlier first scansPerSample codes t) (hs : s.finished <:+ earlier) :
    ∃ recent, Sampling s t codes recent := by
  obtain ⟨recent, hscans, hids, hcodes⟩ := h.recent
  have hfinished : t.finished = recent ++ earlier := h.settled.finished.trans hscans
  have hfiled := (Sound.filed (.inl h.settled : Sound s.finished t))
  refine ⟨recent, ?_, ⟨earlier, hfinished, hs⟩, ?_, hcodes, fun scan hscan hcode => ?_⟩
  · have hlength := congrArg List.length hids
    rw [List.length_map, List.length_map, List.length_reverse, List.length_range] at hlength
    exact hlength
  · rw [← List.nodup_reverse, ← List.map_reverse, hids]
    exact nodup_numbers first
  · obtain ⟨newer, older, rfl⟩ := List.append_of_mem hscan
    have hcoded := hfiled.coded
    have htarget := hfiled.target
    rw [hfinished, List.append_assoc, List.cons_append] at hcoded htarget
    rw [htarget]
    exact hcoded.source hcode

/-- **Whose readings are recorded.**  In every run, at every moment: the target is the BSSID of the
first strongest acceptable result of the first scan that had one, it stays until
`wifi_sampler_init`, and each scan is recorded with its own strongest result from the target; the
readings of a sample come from five scans, and from one access point. -/
theorem readings_from_one_source (surroundings : Surroundings) (calls : List Call) (s : Scanner)
    (hrun : Transition.run callStep (powerOn surroundings) calls = some s) :
    (∀ call, call.possible s = true → History (after call s)) ∧
    (∀ later t call bssid, Transition.run callStep s later = some t →
      .init ∉ later ++ [call] → s.target = some bssid → (after call t).target = some bssid) ∧
    (∀ codes sample t, exec wifiSamplerSample s = (some (some (codes, sample)), t) →
      sample = wifiFilter codes ∧ ∃ recent, Sampling s t codes recent) := by
  have hsound := sound_run hrun
  refine ⟨fun call hpossible => ?_, fun later t call bssid hlater hinit hlocked => ?_,
    fun codes sample t hsample => ?_⟩
  · exact (sound_after hsound hpossible).history
  · have hbefore : .init ∉ later := fun h => hinit (List.mem_append_left _ h)
    have hcall : call ≠ .init := by
      rintro rfl
      exact hinit (by simp)
    have hlast := (hsound.rebase.run hbefore hlater).after hcall
    exact hlast.target hsound.filed.target hlocked
  · have hwp := @wp_sample _ s (Sound s.finished) hsound.rebase fun _ ht => ht
    unfold wp at hwp
    rw [hsample] at hwp
    obtain ⟨hfilter, earlier, first, hearlier, hsampled⟩ := hwp.2 codes sample rfl
    exact ⟨hfilter, hsampled.sampling hearlier⟩

/-- A result of the access point with this last byte in its BSSID. -/
def resultOf (point : UInt8) (ssidLen : UInt8) (rssi : Int16) : Option ScanResult :=
  some ⟨ssidLen, (Buffer.filled 32 0).write 0 ap1Ssid, (Buffer.filled 6 0).write 5 [point], rssi⟩

/-- Two access points of the name: the second one is the first to be the strongest, and the first
one is stronger later.  A third one has a longer name. -/
def twoPoints : Surroundings where
  results tick :=
    if tick < 12 then [resultOf 1 11 (-60), resultOf 3 12 (-20), none, resultOf 2 11 (-50)]
    else [resultOf 1 11 (-30), resultOf 2 11 (-55), resultOf 2 11 0]
  ends tick := tick % 2 == 0
  scanError _ := false
  driveActive _ := false
  canContinue _ := true
  reportOk _ := true
  nowMs _ := 0
  rounds := 4
  movingSamples := false

/-- All readings are from the second point, which is not the strongest any more. -/
theorem readings_from_second_point :
    ∃ s t recent, Transition.run callStep (powerOn twoPoints) [.init] = some s ∧
      exec wifiSamplerSample s = (some (some ([50, 55, 55, 55, 55], ⟨55, 0⟩)), t) ∧
      t.target = some ((Buffer.filled 6 0).write 5 [2]) ∧
      Sampling s t [50, 55, 55, 55, 55] recent := by
  have hrun : Transition.run callStep (powerOn twoPoints) [.init] =
    some (after .init (powerOn twoPoints)) := rfl
  have hsample : (exec wifiSamplerSample (after .init (powerOn twoPoints))).1 =
    some (some ([50, 55, 55, 55, 55], ⟨55, 0⟩)) := by decide +kernel
  have htarget : (exec wifiSamplerSample (after .init (powerOn twoPoints))).2.target =
    some ((Buffer.filled 6 0).write 5 [2]) := by decide +kernel
  obtain ⟨-, -, hreadings⟩ := readings_from_one_source twoPoints [.init] _ hrun
  rcases hexec : exec wifiSamplerSample (after .init (powerOn twoPoints)) with ⟨result, t⟩
  rw [hexec] at hsample htarget
  dsimp only at hsample
  subst hsample
  obtain ⟨-, recent, hsampling⟩ := hreadings _ _ _ hexec
  exact ⟨_, t, recent, hrun, hexec, htarget, hsampling⟩

end WifiScans
