/-
# The profile buffers are large enough

In the default build no run of `main` finds a profile full, neither the profile of a line nor the
records of the Wi-Fi sampler.  A line would need three blocks that were cut short without ending
the run (`ProfileTally`).  A block is cut short by a recovered gap of the gyro, and a run recovers
two of these.
-/
import GettingThere.RunGuard

open CrashLogic

namespace MainRun

open Robot Navigation Guard

variable (w : Ambient)

/-- What holds at a stop of a run that may go on. -/
abbrev CleanStop : Robot → Prop := With Clean (Resting Flushed)

/-- **What a run of the default build keeps**: while it may go on, the motors are off at every
stop and the sampler has no records. -/
def profileGuard : Guard Robot where
  always := Clean
  good := Held CleanStop True
  left := Held Clean True
  worn := Held Default True
  full events := 3 ≤ shortBlocks events
  left_of_good _ h := h.drop
  always_of_left _ h := h.base
  full_cons e events h := h.trans (shortBlocks_le_cons e events)

theorem regime_cleanStop : Regime Clean CleanStop := gapCount_clean.regime _

/-- The checks of a run keep a condition on the sampler. -/
theorem triple_cleanChecks (start : UInt32) (K : Sampler → Prop) (p : Prop) :
    Triple Clean (Held (With Clean K) p) (robotMotion.runCanContinue start) fun _ =>
      Held (With Clean K) p := triple_runCanContinue (gapCount_clean.discipline.with K) start

/-- The scans are brought to an end. -/
theorem tells_quiesce (start : UInt32) :
    profileGuard.Tells (wifiSamplerQuiesce (robotMotion.runCanContinue start)) (· = true) :=
  triple_wifiSamplerQuiesce gapCount_clean.scanRules (triple_cleanChecks start) fun _ h _ => h.busy

/-- A block ends with its scans brought to an end. -/
theorem tells_driveBlock (start : UInt32) (forwards : Bool) (duration : UInt32) (heading : Float32)
    (acquireMoving : Bool) :
    profileGuard.Tells (robotMotion.driveBlock start forwards duration heading acquireMoving)
      fun b => ∃ block, b = some block ∧ block.quiesced = true := by
  have hD := regime_cleanStop.toDiscipline
  have hpoll := triple_pollStationary hD (fun _ h => h.1.stationary)
    (triple_runCanContinue hD start)
  refine (triple_driveBlock hD hD (fun _ h => h) regime_cleanStop.powers
    (hpoll.after fun _ _ h => ⟨h.base, fun _ => h.base⟩) forwards duration heading
    (tells_quiesce start)).after ?_
  rintro (_ | block) s h
  · exact ⟨h.drop, fun ⟨_, hb, _⟩ => nomatch hb⟩
  · refine ⟨h.1, ?_⟩
    rintro ⟨_, hb, hquiesced⟩
    exact h.2 (Option.some.inj hb ▸ hquiesced)

theorem tells_runAttempt (reconnect : Bool) :
    profileGuard.Tells (runAttempt w reconnect) fun e => e.result ≠ .fatal :=
  triple_runAttempt w regime_cleanStop.toDiscipline regime_cleanStop.toDiscipline
    (gapCount_clean.attempts _) reconnect

/-- **The firmware keeps it.** -/
theorem profileGuard_kept : RunKeeps w profileGuard where
  nowMs := regime_cleanStop.logs logs_nowMs
  samplerInit := (triple_wifiSamplerInit gapCount_clean.scanRules).before fun _ h => h.busy
  canContinue t := triple_cleanChecks t _ True
  stop := cuts_motionStop regime_cleanStop.toDiscipline True
  faultRaise f hf := regime_cleanStop.logs (logs_faultRaise hf)
  reportPrintf r hr := regime_cleanStop.toDiscipline.reportPrintf r hr
  reportCheckpoint := regime_cleanStop.logs (logs_reportCheckpoint w)
  turnToHeading d := triple_turnToHeading regime_cleanStop.toDiscipline regime_cleanStop.powers d
  learnDirection :=
    triple_motionLearnDirection regime_cleanStop.toDiscipline regime_cleanStop.powers
  heading := regime_cleanStop.logs neutral_motionHeading.logs
  pauseMs d := triple_pauseChecked regime_cleanStop.toDiscipline d
  setPosition _ _ _ := triple_wifiSamplerSetPosition gapCount_clean.scanRules
  setReference s := triple_wifiSamplerSetReference gapCount_clean.scanRules s
  readFresh := regime_cleanStop.logs (logs_readFresh w)
  quiesce := tells_quiesce
  sample t := triple_wifiSamplerSample gapCount_clean.scanRules (triple_cleanChecks t)
    fun _ h _ => h.busy
  payloadAttempt _ := tells_runAttempt w false
  payloadRetry _ := tells_runAttempt w true
  driveBlock := tells_driveBlock
  profileFull := by
    refine Triple.bind (cuts_motionStop regime_cleanStop.toDiscipline True) fun _ => ?_
    exact fun s h => ⟨⟨h.base.1.stationary, h.base.1.gaps⟩, h.off⟩
  profileLine r hr := gapCount_default.discipline.reportPrintf r hr
  full _ h := h
  logs := regime_cleanStop.logs
  awaitRelease := triple_awaitRelease w regime_cleanStop
  calibrate := triple_calibrate regime_cleanStop
  startRadio := triple_startRadio w regime_cleanStop

/-! ## The run -/

section Run

/-- What holds wherever a run is cut off. -/
def ProfileFits (s : Robot × Nav) : Prop :=
  Clean s.1 ∨ 3 ≤ shortBlocks s.2.events ∧ Default s.1

/-- The end of the run keeps what the run has left. -/
theorem triple_ending {B : Robot → Prop} (hB : GapCount B) (completed : Option Bool)
    (recording : Bool) (n : Nav) :
    Triple (fun s => B s.1 ∧ s.2 = n) (fun s => Held B True s.1 ∧ s.2 = n) (do
      onFirst (reportResult w completed)
      onFirst (endRun w recording)) fun _ s => B s.1 ∧ s.2 = n := by
  have hend : Triple B (Held B True) (endRun w recording) fun _ => Held B True :=
    triple_endRun w hB.discipline hB.discipline hB.flashes (fun s h => hB.same s _ rfl rfl id h) _
  refine ((triple_reportResult w hB.discipline completed).onFirst n).bind fun _ => ?_
  exact (hend.onFirst n).after fun _ _ h => ⟨h.1.base, h.2⟩

/-- **A run** of the default build, wherever it is cut off. -/
theorem triple_profileFits : Triple ProfileFits (fun s => Held CleanStop False s.1)
    (main w) fun _ => ProfileFits := by
  refine triple_main (profileGuard_kept w) (P := Held CleanStop False) ?_ ?_ ?_
  · exact fun s hs => hs.imp_right fun h => ⟨h.1, h.2.base⟩
  · exact triple_powerUp w regime_cleanStop
  rintro completed recording ⟨r, n⟩ (hr | ⟨hfull, hr⟩)
  · have hend := triple_ending w gapCount_clean completed recording n (r, n) ⟨hr, rfl⟩
    exact wp_mono hend (fun _ _ h => .inl h.1) fun _ h => .inl h.1
  · have hend := triple_ending w gapCount_default completed recording n (r, n) ⟨hr, rfl⟩
    exact wp_mono hend (fun _ s h => .inr ⟨h.2 ▸ hfull, h.1⟩) fun s h => .inr ⟨h.2 ▸ hfull, h.1⟩

/-- Each block that was cut short, and did not end the run, has used up one of the gaps of the
gyro that the run recovered. -/
def CutByGaps (s : Robot × Nav) : Prop := shortBlocks s.2.events ≤ s.1.movingRecoveries

instance (s : Robot × Nav) : Decidable (CutByGaps s) := inferInstanceAs (Decidable (_ ≤ _))

/-- **No profile is found full** in a run of the default build, however it goes and wherever it is
cut off, if only recovered gaps cut its blocks short. -/
theorem main_profile (outside : Outside) (hbuild : outside.movingSamples = false)
    (levels : Pin → ℕ) (colour : ColourSensor)
    (hgaps : CutByGaps (exec (main w) (Robot.powerOn outside levels, Nav.boot colour)).2) :
    Fault.profile ∉
      (exec (main w) (Robot.powerOn outside levels, Nav.boot colour)).2.1.faults := by
  have hstart : Held CleanStop False (Robot.powerOn outside levels) :=
    ⟨⟨⟨⟨hbuild, Nat.zero_le 2⟩, Finset.notMem_empty _⟩, rfl, rfl, rfl⟩, False.elim⟩
  have hrun := triple_profileFits w (Robot.powerOn outside levels, Nav.boot colour) hstart
  rcases always hrun with hclean | ⟨hfull, hworn⟩
  · exact hclean.faults
  · -- a full profile takes three short blocks, and a run recovers two gaps
    have hthree := (show 3 ≤ shortBlocks _ from hfull).trans hgaps
    exact absurd (hthree.trans hworn.gaps) (by decide)

/-- The robot is started near the beacon: it comes close with its second block. -/
def nearBeacon : Ambient where
  startPressed tick := decide (tick < 10)
  replayPressed _ := false
  cueBusy _ := false
  flashOk _ := true
  pendingPages _ := 1
  storeActive _ := true
  colourFound _ := false
  colourEnabled _ := false
  colour _ := none
  radioError _ := false
  bluetoothReady _ := true
  startFailed _ := false
  reconnectable _ := false
  attemptRuns _ := false
  attemptResult tick := if tick < 2000 then .notClose else .complete
  bleState _ := .idle
  phaseStartedMs _ := 0
  fmod x _ := x
  scanTest := false

/-- A gyro that cannot be read once, in the first block.  Before that it has seen the robot turn by
10 degrees a second, to learn the direction, and back.  From one moment to the next the clock
advances by 20 ms, then by 1.8 ms on the line, and by 0.4 ms around the gap. -/
def oneGap : Outside where
  gp21 _ := false
  gp21Callback _ := false
  timeUs tick :=
    (20000 * min tick 1400 + 1800 * (tick - 1400) - 1400 * min (tick - 1686) 40).toUInt64
  imuInit _ := true
  gyroZ tick :=
    if tick = 1706 then none
    else if 1109 ≤ tick ∧ tick < 1189 then some 10
    else if 1222 ≤ tick ∧ tick < 1300 then some (-10)
    else some 0
  verifyConfig _ := true
  reportOk _ := true
  scanError _ := false
  scanActive _ := false
  scanResult _ := (60, false)
  rounds := 40
  movingSamples := false

/-- The run of this robot. -/
def oneGapRun : Option Unit × Robot × Nav :=
  exec (main nearBeacon) (Robot.powerOn oneGap fun _ => 0, Nav.boot ⟨false, false, false, -1, 0⟩)

/-- **Two blocks of a line**, the first one cut short by the gap, which is recovered: the run
returns, and no profile was found full. -/
theorem main_profile_oneGap :
    (oneGapRun.1 = some () ∧ oneGapRun.2.2.translationMs = 863 ∧
      oneGapRun.2.2.profileCount = 2 ∧ shortBlocks oneGapRun.2.2.events = 1 ∧
      oneGapRun.2.1.movingRecoveries = 1) ∧
    Fault.profile ∉ oneGapRun.2.1.faults := by
  have hrun : oneGapRun.1 = some () ∧ oneGapRun.2.2.translationMs = 863 ∧
      oneGapRun.2.2.profileCount = 2 ∧ shortBlocks oneGapRun.2.2.events = 1 ∧
      oneGapRun.2.1.movingRecoveries = 1 := by decide +kernel
  have hgaps : CutByGaps oneGapRun.2 := by
    unfold CutByGaps
    rw [hrun.2.2.2.1, hrun.2.2.2.2]
  refine ⟨hrun, ?_⟩
  unfold oneGapRun at hgaps ⊢
  exact main_profile nearBeacon oneGap rfl (fun _ => 0) _ hgaps

end Run

end MainRun
