/-
# What the scans keep

`With B K` is a condition `B` together with `K` of the statics of the sampler.  The functions of
`wifi_sampler.c` lead from a sampler that is `Busy` to one whose scan was `Read`, and after the
records were reported back to one that is `Resting`; when they fail `B` is left.  What `B`, `Busy`
and `Read` need for this is said by `ScanRules`: a full buffer of records, and a failure of the
sampler, must be allowed by `B`, or be excluded by `Busy`.

A scan may be open while the robot moves, but a sampler that fails turns the motors off first.
-/
import GettingThere.DriveTriples

open CrashLogic PackedBits

namespace Robot

/-- The condition, together with one of the sampler. -/
def With (B : Robot → Prop) (K : Sampler → Prop) (s : Robot) : Prop := B s ∧ K s.sampler

/-- There are no records, and no scan is open. -/
structure Resting (Busy : Sampler → Prop) (q : Sampler) : Prop where
  busy : Busy q
  records : q.recordCount = 0
  closed : q.scanOpen = false

/-- `B` is left in any case, and under `q` the sampler has `K`. -/
def Gives (B : Robot → Prop) (K : Sampler → Prop) (p q : Prop) (s : Robot) : Prop :=
  Held B p s ∧ (q → Held (With B K) p s)

section With

variable {B : Robot → Prop} {K K' : Sampler → Prop} {p q : Prop} {s : Robot}

/-- Nothing is said of the sampler. -/
theorem Held.drop (h : Held (With B K) p s) : Held B p s := h.less fun _ h => h.1

/-- Less is said of the sampler. -/
theorem Held.relax (h : Held (With B K) p s) (hK : ∀ q, K q → K' q) : Held (With B K') p s :=
  h.less fun _ h => ⟨h.1, hK _ h.2⟩

theorem Held.busy (h : Held (With B (Resting K)) p s) : Held (With B K) p s :=
  h.relax fun _ h => h.busy

/-- The command has failed. -/
theorem Held.fails (h : Held B p s) (hq : ¬ q) : Gives B K p q s := ⟨h, fun hq' => absurd hq' hq⟩

/-- The command has done what it should. -/
theorem Held.gives (h : Held (With B K) p s) : Gives B K p q s := ⟨h.drop, fun _ => h⟩

end With

theorem Discipline.with {J B : Robot → Prop} (hB : Discipline J B) (K : Sampler → Prop) :
    Discipline J (With B K) where
  safe s h := hB.safe s h.1
  alike s t hst h := ⟨hB.alike s t hst h.1, hst.sampler ▸ h.2⟩
  write s pin n h := ⟨hB.write s pin n h.1, h.2⟩
  line s hoff h := ⟨hB.line s hoff h.1, h.2⟩
  gap s hfew h := ⟨hB.gap s hfew h.1, h.2⟩

/-- **What the scans need** of a condition. -/
structure ScanRules (J B : Robot → Prop) (Busy Read : Sampler → Prop) : Prop extends
    Discipline J B where
  /-- no failure of the sampler is forgotten -/
  sampler : ∀ s q, (s.sampler.samplerFailed = true → q.samplerFailed = true) → B s →
    B { s with sampler := q }
  /-- a sampler that is set up anew -/
  anew : ∀ s q, Busy s.sampler → q.recordCount = 0 → q.samplerFailed = false → B s →
    With B Busy { s with sampler := q }
  full : ∀ q, Busy q → wifiRecordCapacity ≤ q.recordCount → ∀ s, B s →
    B { s with faults := s.faults.raise .profile }
  busy : ∀ q q', q'.recordCount = q.recordCount → q'.samplerFailed = q.samplerFailed → Busy q →
    Busy q'
  collected : ∀ q q', q'.samplerFailed = q.samplerFailed → Busy q → Read q'
  read : ∀ q q', q'.samplerFailed = q.samplerFailed → Read q → Read q'
  flushed : ∀ q q', q'.samplerFailed = q.samplerFailed → q'.recordCount = 0 → Read q → Busy q'

section Scans

theorem neutral_scanAge : Neutral scanAge :=
  neutral_nowMs.bind fun _ => Steps.look fun _ => Steps.pure _

theorem neutral_scanLost (code : ℕ) : Neutral (scanLost code) :=
  Steps.ite (Steps.pure _) (neutral_nowMs.bind fun _ => Steps.look fun _ => Steps.pure _)

theorem neutral_scanSlow : Neutral scanSlow := Steps.look fun _ => Steps.ite (Steps.pure _)
  (neutral_scanAge.bind fun _ => Steps.pure _)

theorem neutral_noteSample (sample : WifiSample) : Neutral (noteSample sample) :=
  Steps.ite (neutral_faultRaise (by decide)) (neutral_faultClear _)

/-- `n` lines of the report. -/
theorem triple_reportLines {J B : Robot → Prop} (hB : Discipline J B) (n : ℕ) :
    Triple J (Held B True) (reportLines n) fun _ => Held B True := by
  induction n with
  | zero => exact triple_return _
  | succ n ih => exact hB.afterLine ih

variable {J B : Robot → Prop} {Busy Read K K' : Sampler → Prop} {p : Prop}
  (hS : ScanRules J B Busy Read)
include hS

/-- The statics of the sampler are changed. -/
theorem triple_setSampler {g : Sampler → Sampler}
    (hfailed : ∀ q, K q → q.samplerFailed = true → (g q).samplerFailed = true)
    (hg : ∀ q, K q → K' (g q)) :
    Triple J (Held (With B K) p) (setSampler g) fun _ => Held (With B K') p :=
  fun s h => ⟨⟨hS.sampler s _ (hfailed _ h.base.2) h.base.1, hg _ h.base.2⟩, h.off⟩

/-- A change that leaves a condition of the sampler as it is. -/
theorem triple_tune {g : Sampler → Sampler} (hfailed : ∀ q, (g q).samplerFailed = q.samplerFailed)
    (hg : ∀ q, K q → K (g q)) :
    Triple J (Held (With B K) p) (setSampler g) fun _ => Held (With B K) p :=
  triple_setSampler hS (fun q _ hq => (hfailed q).trans hq) hg

/-- Such a change, and then something else. -/
theorem afterTune {α : Type} {Q : α → Robot → Prop} {g : Sampler → Sampler} {rest : Cmd Robot α}
    (hfailed : ∀ q, (g q).samplerFailed = q.samplerFailed) (hg : ∀ q, K q → K (g q))
    (hrest : Triple J (Held (With B K) p) rest Q) :
    Triple J (Held (With B K) p) (setSampler g >>= fun _ => rest) Q :=
  (triple_tune hS hfailed hg).bind fun _ => hrest

/-- **The sampler fails**, with the motors off. -/
theorem triple_failSampler {f : Fault} (hf : ∀ s, B s → B { s with faults := s.faults.raise f }) :
    Triple J (Held B p) (failSampler f) fun _ => Held B True := by
  refine (cuts_motionStop hS.toDiscipline).andThen fun _ => ?_
  exact fun s h => ⟨hS.sampler _ _ (fun _ => rfl) (hf s h.base), h.off⟩

theorem triple_fallBack (hK : ∀ q, K q → K { q with fallback := true }) :
    Triple J (Held (With B K) p) fallBack fun _ => Held (With B K) p :=
  afterTune hS (fun _ => rfl) hK
    ((cuts_motionStop (hS.toDiscipline.with K) p).after fun _ _ h => h.any)

/-- A sampler that rests is changed in something else. -/
theorem triple_rest {g : Sampler → Sampler}
    (hg : ∀ q, (g q).recordCount = q.recordCount ∧ (g q).scanOpen = q.scanOpen ∧
      (g q).samplerFailed = q.samplerFailed) :
    Triple J (Held (With B (Resting Busy)) p) (setSampler g) fun _ =>
      Held (With B (Resting Busy)) p := by
  refine triple_tune hS (fun q => (hg q).2.2) fun q hq => ?_
  exact ⟨hS.busy q _ (hg q).1 (hg q).2.2 hq.busy, (hg q).1.trans hq.records,
    (hg q).2.1.trans hq.closed⟩

variable {c : Cmd Robot Bool}
  (hc : ∀ K p, Triple J (Held (With B K) p) c fun _ => Held (With B K) p)

include hc in
/-- **A scan** is started. -/
theorem triple_samplerBegin (moving : Bool) :
    Triple J (Held (With B Busy) p) (samplerBegin c moving) fun ok =>
      Gives B Busy p (ok = true) := by
  have hB := hS.toDiscipline
  have hD := hB.with Busy
  have hfalse {p : Prop} : Triple J (Held (With B Busy) p) (pure false) fun ok =>
      Gives B Busy p (ok = true) := Triple.pure _ fun s h => h.drop.fails nofun
  have htrue : Triple J (Held (With B Busy) p) (pure true) fun ok =>
      Gives B Busy p (ok = true) := Triple.pure _ fun s h => h.gives
  have hfailed : Triple J (Held B True) (pure false) fun ok =>
      Gives B Busy p (ok = true) := Triple.pure _ fun s h => h.any.fails nofun
  refine triple_look fun s _ => Triple.ite (fun _ => hfalse) fun _ => ?_
  refine (hc Busy p).bind fun _ => Triple.ite (fun _ => hfalse) fun _ => triple_look fun t ht => ?_
  refine Triple.ite (fun hfull => ?_) fun _ => hD.andThen neutral_nowMs fun started => ?_
  · have hraise := hS.full _ ht.base.2 hfull
    exact Triple.before (fun s h => h.drop) <|
      Triple.bind (triple_failSampler hS hraise) fun _ => hfailed
  refine afterTune hS (fun _ => rfl) (fun _ => hS.busy _ _ rfl rfl) ?_
  refine hD.andThen (neutral_ask _) fun error => hD.andThen neutral_scanAge fun elapsed => ?_
  refine afterTune hS (fun _ => rfl) (fun _ => hS.busy _ _ rfl rfl) (Triple.ite (fun _ => ?_) ?_)
  · -- the failure is reported after the cut
    refine afterTune hS (fun _ => rfl) (fun _ => hS.busy _ _ rfl rfl) ?_
    refine Triple.before (fun s h => h.drop) (Triple.bind (triple_failSampler hS ?_) fun _ => ?_)
    · exact fun s h => hB.alike s _ (neutral_faultRaise (by decide) s) h
    · exact hB.afterLine hfailed
  · refine fun _ => Triple.ite (fun _ => ?_) fun _ => htrue
    exact (triple_fallBack (K := Busy) hS fun _ => hS.busy _ _ rfl rfl).bind fun _ => htrue

/-- A scan that was started while the robot moved may end the drive. -/
theorem triple_collectMoving (code : ℕ) (stopped : Bool) :
    Triple J (Held (With B Read) p) (collectMoving code stopped) fun _ =>
      Held (With B Read) p := by
  have hD := hS.toDiscipline.with Read
  have hrestart {p : Prop} : Triple J (Held (With B Read) p) (do
      let now ← nowMs
      setSampler fun q => { q with movingCodes := [], movingWindowStartedMs := now })
      fun _ => Held (With B Read) p :=
    hD.andThen neutral_nowMs fun now => triple_tune hS (fun _ => rfl) fun _ => hS.read _ _ rfl
  refine hD.andThen (neutral_scanLost code) fun lost => Triple.ite (fun _ => ?_) fun _ => ?_
  · exact triple_fallBack hS fun _ => hS.read _ _ rfl
  refine Triple.ite (fun _ => triple_tune hS (fun _ => rfl) fun _ => hS.read _ _ rfl) fun _ => ?_
  refine afterTune hS (fun _ => rfl) (fun _ => hS.read _ _ rfl) (triple_look fun s _ => ?_)
  refine Triple.ite (fun _ => Triple.ite (fun _ => ?_) fun _ => hrestart) fun _ => triple_return _
  exact (cuts_motionStop hD).andThen fun _ => hrestart.after fun _ _ h => h.any

/-- **A scan is collected.** -/
theorem triple_samplerCollect : Triple J (Held (With B Busy) p) samplerCollect fun ok =>
    Gives B Read p (ok = true) := by
  have hD := hS.toDiscipline.with Busy
  have hopen : Triple J (Held (With B Busy) p) (pure true) fun ok => Gives B Read p (ok = true) :=
    Triple.pure _ fun s h => (h.relax fun q => hS.collected q q rfl).gives
  refine Triple.look fun t ht => Triple.before (fun s h => h.1) ?_
  refine Triple.ite (fun _ => hopen) fun _ => hD.andThen (neutral_ask _) fun active => ?_
  refine Triple.ite (fun _ => hopen) fun _ => hD.andThen (neutral_ask _) fun result => ?_
  refine afterTune hS (fun _ => rfl) (fun _ => hS.busy _ _ rfl rfl) ?_
  refine hD.andThen neutral_motionDriveActive fun active => Triple.ite (fun hfull => ?_) fun _ => ?_
  · refine Triple.before (fun s h => h.drop) (Triple.bind (triple_failSampler hS ?_) fun _ => ?_)
    · exact hS.full _ ht.base.2 hfull
    · exact Triple.pure _ fun s h => h.any.fails nofun
  have hread : Triple J (Held (With B Read) p) (pure true) fun ok => Gives B Read p (ok = true) :=
    Triple.pure _ fun s h => h.gives
  refine Triple.bind (M := fun _ => Held (With B Read) p)
    (triple_setSampler hS (fun q _ hq => hq) fun q => hS.collected q _ rfl) fun _ => ?_
  exact Triple.ite (fun _ => (triple_collectMoving hS _ _).bind fun _ => hread) fun _ => hread

/-- **The records are reported**, with no scan open. -/
theorem triple_samplerFlush : Triple J (Held (With B Read) True) samplerFlush fun ok =>
    Gives B (Resting Busy) True (ok = true) := by
  let Shut (q : Sampler) : Prop := Read q ∧ q.scanOpen = false
  have hD := hS.toDiscipline.with Shut
  refine Triple.look fun t ht => Triple.ite (fun _ => ?_) fun hclosed => ?_
  · exact Triple.pure _ fun s h => h.1.drop.fails nofun
  have hopen : t.sampler.scanOpen = false := by
    cases hscan : t.sampler.scanOpen with
    | false => rfl
    | true => simp [hscan] at hclosed
  refine Triple.before (P := Held (With B Shut) True) ?_ ?_
  · exact fun s h => ⟨⟨h.1.base.1, h.1.base.2, h.2 ▸ hopen⟩, h.1.off⟩
  refine hD.andThen (neutral_ask _) fun active => Triple.ite (fun _ => ?_) fun _ => ?_
  · exact Triple.pure _ fun s h => h.drop.fails nofun
  refine (triple_reportLines hD _).bind fun _ => ?_
  refine Triple.bind (M := fun _ => Held (With B (Resting Busy)) True)
    (triple_setSampler hS (fun q _ hq => hq) fun q hq => ?_) fun _ => ?_
  · exact ⟨hS.flushed q _ rfl rfl hq.1, rfl, hq.2⟩
  · exact ((hS.toDiscipline.with _).neutral (neutral_ask _)).after fun ok s h => h.gives

include hc

theorem triple_waitOver :
    Triple J (Held (With B K) p) (waitOver c) fun _ => Held (With B K) p :=
  (hc K p).bind fun _ => Triple.ite (fun _ => triple_return _) fun _ =>
    (hS.toDiscipline.with K).neutral (neutral_scanAge.bind fun _ => Steps.pure _)

/-- **The wait for a scan** that runs; one that does not end is a failure of the sampler. -/
theorem triple_awaitScan : Triple J (Held (With B Busy) True) (awaitScan c) fun ok =>
    Gives B Busy True (ok = true) := by
  have hD := hS.toDiscipline.with Busy
  have hdone : Triple J (Held (With B Busy) True) (pure (Sum.inr true : Unit ⊕ Bool)) fun r s =>
      r.elim (fun _ => Held (With B Busy) True s) fun ok => Gives B Busy True (ok = true) s :=
    Triple.pure _ fun s h => h.gives
  refine triple_loop (I := fun _ => Held (With B Busy) True) (fun _ s h => hD.safe s h.base)
    (fun _ => ?_) ()
  refine triple_look fun s _ => Triple.ite (fun _ => hdone) fun _ => ?_
  refine hD.andThen (neutral_ask _) fun active => Triple.ite (fun _ => hdone) fun _ => ?_
  refine (triple_waitOver hS hc).bind fun _ => Triple.ite (fun _ => ?_) fun _ => ?_
  · refine hD.andThen (neutral_faultRaise (by decide)) fun _ => ?_
    have hfailed : Triple J (Held (With B Busy) True)
        (setSampler fun q => { q with samplerFailed := true }) fun _ => Held B True :=
      fun s h => ⟨hS.sampler s _ (fun _ => rfl) h.base.1, h.off⟩
    refine hfailed.bind fun _ => hS.toDiscipline.afterLine ?_
    exact Triple.pure _ fun s h => h.fails nofun
  · exact hD.andThen neutral_sleepMs fun _ => Triple.pure _ fun s h => h

/-- **After a quiesce that succeeds** there are no records, and no scan is open. -/
theorem triple_wifiSamplerQuiesce (hK : ∀ q, K q → q.samplerFailed = false → Busy q) :
    Triple J (Held (With B K) p) (wifiSamplerQuiesce c) fun ok =>
      Gives B (Resting Busy) True (ok = true) := by
  refine (cuts_motionStop (hS.toDiscipline.with K)).andThen fun _ => Triple.look fun t ht => ?_
  refine Triple.ite (fun _ => Triple.pure _ fun s h => h.1.drop.fails nofun) fun hworks => ?_
  refine Triple.before (P := Held (With B Busy) True) ?_ ?_
  · rintro s ⟨h, rfl⟩
    exact ⟨⟨h.base.1, hK _ h.base.2 (Bool.eq_false_iff.mpr hworks)⟩, h.off⟩
  apply (triple_awaitScan hS hc).bind
  rintro (_ | _)
  · exact Triple.pure _ fun s h => h.1.fails nofun
  refine Triple.before (fun s h => h.2 rfl) ((triple_samplerCollect hS).bind ?_)
  rintro (_ | _)
  · exact Triple.pure _ fun s h => h.1.fails nofun
  · exact (triple_samplerFlush hS).before fun s h => h.2 rfl

theorem triple_sampleScans (n : ℕ) (codes : List ℕ) :
    Triple J (Held (With B (Resting Busy)) True) (sampleScans c n codes) fun r =>
      Gives B (Resting Busy) True (r ≠ none) := by
  induction n generalizing codes with
  | zero => exact Triple.pure _ fun s h => h.gives
  | succ n ih =>
    apply ((triple_samplerBegin hS hc false).before fun s h => h.busy).bind
    rintro (_ | _)
    · exact Triple.pure _ fun s h => h.1.fails (not_not.mpr rfl)
    refine Triple.before (fun s h => h.2 rfl) (Triple.bind (triple_wifiSamplerQuiesce hS hc ?_) ?_)
    · exact fun _ h _ => h
    rintro (_ | _)
    · exact Triple.pure _ fun s h => h.1.fails (not_not.mpr rfl)
    · exact Triple.before (fun s h => h.2 rfl) (triple_look fun s _ => ih _)

/-- **A sample.** -/
theorem triple_wifiSamplerSample (hK : ∀ q, K q → q.samplerFailed = false → Busy q) :
    Triple J (Held (With B K) True) (wifiSamplerSample c) fun r =>
      Gives B (Resting Busy) True (r ≠ none) := by
  have hD := hS.toDiscipline.with (Resting Busy)
  have hnone : Triple J (Held (With B (Resting Busy)) True) (pure (none : Option WifiSample))
      fun r => Gives B (Resting Busy) True (r ≠ none) :=
    Triple.pure _ fun s h => h.drop.fails (not_not.mpr rfl)
  apply (triple_wifiSamplerQuiesce hS hc hK).bind
  rintro (_ | _)
  · exact Triple.pure _ fun s h => h.1.fails (not_not.mpr rfl)
  refine Triple.before (fun s h => h.2 rfl) (hD.afterLine (hD.andThen neutral_nowMs ?_))
  intro start
  apply (triple_sampleScans hS hc _ _).bind
  rintro (_ | codes)
  · exact Triple.pure _ fun s h => h.1.fails (not_not.mpr rfl)
  refine Triple.before (fun s h => h.2 nofun) (hD.andThen neutral_nowMs fun now => ?_)
  have hqualify : Triple J (Held (With B (Resting Busy)) True) (qualify codes (now - start))
      fun _ => Held (With B (Resting Busy)) True :=
    triple_look fun s _ => Triple.ite (fun _ => triple_rest hS fun _ => ⟨rfl, rfl, rfl⟩)
      fun _ => triple_rest hS fun _ => ⟨rfl, rfl, rfl⟩
  refine hqualify.bind fun _ => hD.andThen (neutral_noteSample _) fun _ => hD.afterLine ?_
  refine (hc _ True).bind fun _ => Triple.ite (fun _ => hnone) fun _ => ?_
  refine hD.andThen (neutral_ask _) fun _ => Triple.ite (fun _ => hnone) fun _ => ?_
  exact Triple.pure _ fun s h => h.gives

omit hc

/-- **The sampler is set up.** -/
theorem triple_wifiSamplerInit : Triple J (Held (With B Busy) True) wifiSamplerInit fun _ =>
    Held (With B (Resting Busy)) True := by
  intro s h
  have hanew := hS.anew s { s.sampler with
    recordCount := 0
    scanOpen := false
    movingScan := false
    fallback := false
    samplerFailed := false
    qualificationWindows := 0
    maxStartMs := 0
    movingReference := .missing
    movingCodes := [] } h.base.2 rfl rfl h.base.1
  exact (hS.toDiscipline.with _).reportPrintf _ ⟨⟨hanew.1, hanew.2, rfl, rfl⟩, h.off⟩

theorem triple_wifiSamplerSetPosition :
    Triple J (Held (With B (Resting Busy)) True) wifiSamplerSetPosition fun _ =>
      Held (With B (Resting Busy)) True :=
  (hS.toDiscipline.with _).andThen neutral_nowMs fun _ => triple_rest hS fun _ => ⟨rfl, rfl, rfl⟩

theorem triple_wifiSamplerSetReference (reference : WifiSample) :
    Triple J (Held (With B (Resting Busy)) True) (wifiSamplerSetReference reference) fun _ =>
      Held (With B (Resting Busy)) True := triple_rest hS fun _ => ⟨rfl, rfl, rfl⟩

end Scans

/-! ## During a drive -/

section Polls

variable {J B : Robot → Prop} {Busy Read K : Sampler → Prop} {c : Cmd Robot Bool}

/-- **A poll** while the robot moves, when a scan may be started again once one was read. -/
theorem triple_wifiSamplerPollMoving (hS : ScanRules J B Busy Read) (hread : ∀ q, Read q → Busy q)
    (hc : ∀ K p, Triple J (Held (With B K) p) c fun _ => Held (With B K) p) :
    Triple J (Held (With B Busy) False) (wifiSamplerPollMoving c) fun ok =>
      Gives B Busy False (ok = true) := by
  have hD := hS.toDiscipline.with Busy
  have htrue {p : Prop} : Triple J (Held (With B Busy) p) (pure true) fun ok =>
      Gives B Busy False (ok = true) := Triple.pure _ fun s h => h.on.gives
  refine (hc Busy False).bind fun _ => Triple.ite (fun _ => ?_) fun _ => ?_
  · exact (cuts_motionStop hD).andThen fun _ => Triple.pure _ fun s h => h.drop.any.fails nofun
  refine triple_look fun s _ => Triple.ite (fun _ => htrue) fun _ => ?_
  refine hD.andThen neutral_scanSlow fun _ => Triple.ite (fun _ => ?_) fun _ => ?_
  · exact (triple_fallBack (K := Busy) hS fun _ => hS.busy _ _ rfl rfl).bind fun _ => htrue
  apply (triple_samplerCollect hS).bind
  rintro (_ | _)
  · exact Triple.pure _ fun s h => h.1.fails nofun
  refine Triple.before (fun s h => (h.2 rfl).relax hread) (triple_look fun s _ => Triple.ite ?_ ?_)
  · exact fun _ => triple_samplerBegin hS hc true
  · exact fun _ => htrue

/-- **A poll** does nothing in the default build, unless the run must stop. -/
theorem triple_pollStationary (hB : Discipline J B)
    (hstill : ∀ s, B s → s.outside.movingSamples = false)
    (hc : Triple J (Held B False) c fun _ => Held B False) :
    Triple J (Held B False) (wifiSamplerPollMoving c) fun _ => Held B False := by
  refine hc.bind fun _ => Triple.ite (fun _ => ?_) fun _ => triple_look fun s hs => Triple.ite ?_ ?_
  · exact (cuts_motionStop hB).andThen fun _ => Triple.pure _ fun s h => h.on
  · exact fun _ => triple_return _
  · intro henabled
    rw [movingEnabled, hstill s hs.base] at henabled
    exact absurd rfl henabled

end Polls

end Robot
