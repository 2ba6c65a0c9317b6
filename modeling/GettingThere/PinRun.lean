/-
# The motor pins of a run

What `main` does besides moving keeps the pins as they are, so the robot stands still between the
parts of the approach; this is the guard under which the approach passes.  `main_wellWired` is about
every run, however it goes and wherever it is cut off.
-/
import GettingThere.PinScans
import GettingThere.ProfileTally
import GettingThere.MainRun

open CrashLogic

namespace MainRun

open Robot Navigation Guard

variable (w : Ambient)

/-- Asking the outside writes no pin. -/
theorem stays_consult {α : Type} (answer : ℕ → α) : Stays (consult answer) := stays_ask _

/-- A line of the report writes no pin. -/
theorem stays_reportWhen (b : Bool) : Stays (reportWhen b) :=
  Stays.ite stays_reportPrintf (Stays.pure _)

/-! ## The report -/

/-- Programming pages writes no pin. -/
theorem stays_programPages (n : ℕ) : Stays (programPages w n) := by
  induction n with
  | zero => exact Stays.pure _
  | succ n ih =>
    exact (stays_act _).bind fun _ => (stays_consult _).bind fun _ => Stays.ite ih (Stays.pure _)

/-- A checkpoint writes no pin. -/
theorem stays_reportCheckpoint : Stays (reportCheckpoint w) :=
  stays_reportPrintf.bind fun _ => (stays_consult _).bind fun _ =>
    (stays_programPages w _).bind fun _ => Stays.ite (stays_ask _) (Stays.pure _)

/-- Erasing sectors writes no pin. -/
theorem stays_eraseSectors (n : ℕ) : Stays (eraseSectors w n) := by
  induction n with
  | zero => exact Stays.pure _
  | succ n ih =>
    refine (stays_act _).bind fun _ => (stays_consult _).bind fun _ => Stays.ite ?_ ?_
    · exact stays_reportPrintf.bind fun _ => Stays.pure _
    · exact stays_stopPressed.bind fun _ => stays_sleepMs.bind fun _ =>
        (stays_reportWhen _).bind fun _ => ih

/-- Beginning a report writes no pin. -/
theorem stays_reportBegin : Stays (reportBegin w) := by
  have herase : Stays (reportFlashErase w) :=
    stays_reportPrintf.bind fun _ => stays_eraseSectors w _
  have hstore : Stays (reportStoreBegin w) :=
    herase.bind fun _ => Stays.ite (stays_programPages w _) (Stays.pure _)
  refine hstore.bind fun _ => Stays.ite (stays_reportCheckpoint w) ?_
  exact stays_reportPrintf.bind fun _ => Stays.pure _

/-- Finishing a report writes no pin. -/
theorem stays_reportFinish : Stays (reportFinish w) := by
  have hstore : Stays (reportStoreFinish w) :=
    (stays_consult _).bind fun _ => Stays.ite (stays_programPages w _) (Stays.pure _)
  exact (stays_reportCheckpoint w).bind fun _ => Stays.ite hstore (Stays.pure _)

/-! ## A payload attempt -/

/-- The entry tests of an attempt write no pin. -/
theorem stays_attemptRefused (reconnect : Bool) : Stays (attemptRefused w reconnect) := by
  refine (stays_consult _).bind fun _ => Stays.ite (Stays.pure _) (Stays.look fun s => ?_)
  refine Stays.ite (Stays.pure _) (stays_stopPressed.bind fun _ => Stays.ite (Stays.pure _) ?_)
  exact (stays_consult _).bind fun _ => Stays.pure _

/-- Asking for an abort writes no pin. -/
theorem stays_abortStarted (start elapsed : UInt32) (aborted : Option UInt32) :
    Stays (abortStarted w start elapsed aborted) := by
  have hdue : Stays (abortDue w start elapsed) := by
    refine (stays_consult _).bind fun _ => stays_stopPressed.bind fun _ => ?_
    refine Stays.ite (Stays.pure _) (Stays.ite (Stays.pure _) ?_)
    exact stays_nowMs.bind fun _ => Stays.pure _
  cases aborted with
  | some aborted => exact Stays.pure _
  | none =>
    exact hdue.bind fun _ => Stays.ite (stays_nowMs.bind fun _ => Stays.pure _) (Stays.pure _)

/-- An abort that is overdue writes no pin. -/
theorem stays_abortOverdue (aborted : Option UInt32) : Stays (abortOverdue aborted) := by
  cases aborted with
  | none => exact Stays.pure _
  | some aborted => exact stays_nowMs.bind fun _ => Stays.pure _

/-- A round of an attempt keeps the course, or stops. -/
theorem stays_attemptRound (start : UInt32) (aborted : Option UInt32) :
    Stays (attemptRound w start aborted) := by
  have hreturns : Stays (attemptReturns w) := stays_stopPressed.bind fun _ =>
    Stays.ite (Stays.pure _) ((stays_consult _).bind fun _ => Stays.pure _)
  have hgiveUp :
      Stays (do return .inr (← giveUpAttempt) : Cmd Robot (Option UInt32 ⊕ AttemptEnd)) :=
    ((stays_faultRaise _).bind fun _ => Stays.pure _).bind fun _ => Stays.pure _
  have hover (elapsed : UInt32) : Stays (cleanupOverdue w elapsed) :=
    (stays_consult _).bind fun _ => Stays.pure _
  refine (stays_consult _).bind fun _ => Stays.ite ?_ ?_
  · refine Stays.bind (stays_modify ?_) fun _ => hreturns.bind fun _ => Stays.pure _
    exact fun _ => ⟨rfl, rfl, rfl⟩
  refine stays_reportPrintf.bind fun _ => stays_nowMs.bind fun now => ?_
  refine (stays_consult _).bind fun phase => (hover _).bind fun _ => Stays.ite hgiveUp ?_
  refine (stays_abortStarted w _ _ _).bind fun aborted => (stays_abortOverdue aborted).bind ?_
  exact fun _ => Stays.ite hgiveUp (stays_sleepMs.bind fun _ => Stays.pure _)

/-- **An attempt** is made standing still. -/
theorem stays_runAttempt (reconnect : Bool) : Stays (runAttempt w reconnect) := by
  have hbegin : Stays (beginAttempt w reconnect) := by
    refine (stays_attemptRefused w reconnect).bind fun _ => Stays.ite ?_ ?_
    · exact Stays.look fun _ => Stays.pure _
    refine (stays_act _).bind fun _ => Stays.bind (stays_modify ?_) fun _ => ?_
    · exact fun _ => ⟨rfl, rfl, rfl⟩
    exact stays_nowMs.bind fun start => Stays.loop (fun _ => stays_attemptRound w start _) _
  refine halts_motionStop.stays.bind fun _ => hbegin.bind fun finish => ?_
  have hnote : Stays (noteDelivered finish) := Stays.ite (stays_act _) (Stays.pure _)
  refine hnote.bind fun _ => Stays.bind (stays_modify ?_) fun _ => Stays.pure _
  exact fun _ => ⟨rfl, rfl, rfl⟩

/-! ## Startup -/

/-- A fresh reading of the colour writes no pin. -/
theorem stays_readFresh : Stays (readFresh w) := stays_sleepMs.bind fun _ => stays_consult _

/-- Waiting for START writes no pin. -/
theorem stays_awaitStart : Stays (awaitStart w) := by
  have hasked : Stays (startAsked w) :=
    (stays_consult _).bind fun _ => Stays.ite (Stays.pure _) (stays_consult _)
  refine Stays.loop (fun _ => stays_reportPrintf.bind fun _ => hasked.bind fun _ => ?_) _
  exact Stays.ite (Stays.pure _) (stays_sleepMs.bind fun _ => Stays.pure _)

/-- Preparing the log writes no pin. -/
theorem stays_prepareLog : Stays (prepareLog w) := by
  refine stays_stopPressed.bind fun _ => Stays.ite ?_ ?_
  · exact stays_reportPrintf.bind fun _ => Stays.pure _
  refine stays_reportPrintf.bind fun _ => (stays_reportBegin w).bind fun _ => ?_
  exact Stays.ite (Stays.pure _) ((stays_faultRaise _).bind fun _ => Stays.pure _)

/-- Waiting for the release of START keeps the course, or stops. -/
theorem stays_awaitRelease (ready recording : Bool) : Stays (awaitRelease w ready recording) := by
  have hrelease : Stays (waitStartRelease w) := by
    refine stays_reportPrintf.bind fun _ => stays_nowMs.bind fun start => Stays.bind ?_ fun _ => ?_
    · refine Stays.loop (fun _ => (stays_consult _).bind fun _ => Stays.ite (Stays.pure _) ?_) _
      refine stays_stopPressed.bind fun _ => Stays.ite (Stays.pure _) (stays_nowMs.bind ?_)
      intro now
      exact Stays.ite (stays_fault _ _) (stays_sleepMs.bind fun _ => Stays.pure _)
    · exact Stays.ite (Stays.pure _) (stays_stopPressed.bind fun _ => Stays.pure _)
  have hretry : Stays (retryImu ready) := Stays.ite (Stays.pure _) <|
    stays_reportPrintf.bind fun _ => halts_motionInit.stays
  refine Stays.ite (Stays.pure _) (hrelease.bind fun _ => Stays.ite (Stays.pure _) ?_)
  refine stays_reportPrintf.bind fun _ => hretry.bind fun _ => Stays.ite (Stays.pure _) ?_
  exact stays_stopPressed.bind fun _ => Stays.pure _

/-- Setting up the colour sensor writes no pin. -/
theorem stays_colourSensorInit : Stays (colourSensorInit w) := by
  refine (stays_consult _).bind fun _ => Stays.ite ?_ ?_
  · exact stays_reportPrintf.bind fun _ => Stays.pure _
  refine stays_sleepMs.bind fun _ => (stays_consult _).bind fun _ => ?_
  exact stays_reportPrintf.bind fun _ => Stays.pure _

/-- The calibration keeps the course, or stops. -/
theorem stays_calibrate : Stays calibrate := by
  refine stays_reportPrintf.bind fun _ => halts_motionCalibrate.stays.bind fun _ => ?_
  exact Stays.ite (Stays.pure _) (stays_reportPrintf.bind fun _ => Stays.pure _)

/-- Waiting for Bluetooth writes no pin. -/
theorem stays_awaitBluetooth (start : UInt32) : Stays (awaitBluetooth w start) := by
  have hpending : Stays (bluetoothPending w start) := by
    refine (stays_consult _).bind fun _ => Stays.ite (Stays.pure _) ((stays_consult _).bind ?_)
    refine fun _ => Stays.ite (Stays.pure _) (stays_stopPressed.bind fun _ => ?_)
    exact Stays.ite (Stays.pure _) (stays_nowMs.bind fun _ => Stays.pure _)
  have hprogress (last : UInt32) : Stays (reportProgress last) :=
    stays_nowMs.bind fun _ => Stays.ite (Stays.pure _) <|
      stays_reportPrintf.bind fun _ => stays_nowMs
  refine Stays.loop (fun last => hpending.bind fun _ => Stays.ite (Stays.pure _) ?_) _
  exact stays_reportPrintf.bind fun _ => (hprogress _).bind fun _ =>
    stays_sleepMs.bind fun _ => Stays.pure _

/-- **The start of the radio.** -/
theorem stays_startRadio : Stays (startRadio w) := by
  have hup : Stays (bluetoothUp w) := by
    refine (stays_consult _).bind fun _ => Stays.ite (Stays.pure _) ((stays_consult _).bind ?_)
    exact fun _ => Stays.ite (Stays.pure _) (stays_stopPressed.bind fun _ => Stays.pure _)
  have hfail : Stays failBluetooth := by
    have hend : Stays (do let _ ← stopPressed; reportPrintf) :=
      stays_stopPressed.bind fun _ => stays_reportPrintf
    exact stays_stopPressed.bind fun _ => Stays.ite ((stays_faultRaise _).bind fun _ => hend) hend
  refine stays_reportPrintf.bind fun _ => (stays_consult _).bind fun _ => Stays.ite ?_ ?_
  · exact stays_fault _ _
  refine Stays.bind (stays_modify ?_) fun _ => stays_reportPrintf.bind fun _ => ?_
  · exact fun _ => ⟨rfl, rfl, rfl⟩
  refine stays_nowMs.bind fun start => (stays_awaitBluetooth w start).bind fun _ => ?_
  refine hup.bind fun _ => Stays.ite (stays_reportPrintf.bind fun _ => Stays.pure _) ?_
  exact hfail.bind fun _ => Stays.pure _

/-! ## The end -/

/-- Reporting the result keeps the course, or stops. -/
theorem stays_reportResult (completed : Option Bool) : Stays (reportResult w completed) := by
  have hbeeps : Stays (waitBeeps w) := by
    refine Stays.loop (fun _ => (stays_consult _).bind fun _ => Stays.ite (Stays.pure _) ?_) _
    exact (stays_pauseChecked 10).bind fun _ => Stays.ite (Stays.pure _) (Stays.pure _)
  have hsound : Stays (completionSound w) := by
    refine halts_motionStop.stays.bind fun _ => stays_stopPressed.bind fun _ => ?_
    refine Stays.ite stays_reportPrintf (stays_reportPrintf.bind fun _ => hbeeps.bind fun _ => ?_)
    exact stays_stopPressed.bind fun _ => stays_reportPrintf
  cases completed with
  | none => exact stays_reportPrintf
  | some completed =>
    refine halts_motionStop.stays.bind fun _ => Stays.ite ?_ stays_reportPrintf
    exact hsound.bind fun _ => stays_reportPrintf

/-- The end of a run keeps the course, or stops. -/
theorem stays_endRun (recording : Bool) : Stays (endRun w recording) := by
  have hfaults : Stays reportFaults :=
    stays_reportPrintf.bind fun _ => Stays.look fun _ => stays_reportLines _
  refine halts_motionStop.stays.bind fun _ => Stays.bind (stays_modify ?_) fun _ => ?_
  · exact fun _ => ⟨rfl, rfl, rfl⟩
  refine hfaults.bind fun _ => stays_stopPressed.bind fun _ => (stays_reportWhen _).bind fun _ => ?_
  refine stays_reportPrintf.bind fun _ => Stays.ite ?_ (Stays.pure _)
  exact (stays_reportFinish w).bind fun _ => Stays.ite (stays_faultRaise _) (Stays.pure _)

/-! ## The approach -/

/-- **What the approach keeps**: the robot stands still between its parts. -/
def pinGuard : Guard Robot where
  always := Lawfully
  good := Still
  left := Still
  worn := Still
  full _ := True
  left_of_good _ h := h
  always_of_left _ h := h.law
  full_cons _ _ h := h

/-- What the firmware does standing still. -/
theorem tells_of_settles {α : Type} {c : Cmd Robot α} {ok : α → Prop} (h : Settles c) :
    pinGuard.Tells c ok := Triple.after h fun _ _ hs => ⟨hs, fun _ => hs⟩

/-- **The firmware keeps the law of the pins.** -/
theorem pinGuard_kept : (robotLayer w).Keeps pinGuard where
  nowMs := stays_nowMs.settles
  samplerInit := stays_wifiSamplerInit.settles
  canContinue t := (stays_runCanContinue t).settles
  stop := halts_motionStop.stays.settles
  faultRaise f _ := (stays_faultRaise f).settles
  reportPrintf r hr := hr.imp fun speed h => stays_reportPrintf .stop speed r h
  reportCheckpoint := (stays_reportCheckpoint w).settles
  turnToHeading d := (rests_turnToHeading d).settles
  learnDirection := rests_motionLearnDirection.settles
  heading := stays_motionHeading.settles
  pauseMs d := (stays_pauseChecked d).settles
  setPosition _ _ _ := stays_wifiSamplerSetPosition.settles
  setReference s := (stays_wifiSamplerSetReference s).settles
  readFresh := (stays_readFresh w).settles
  quiesce t := tells_of_settles (halts_wifiSamplerQuiesce (stays_runCanContinue t)).stays.settles
  sample t := tells_of_settles (stays_wifiSamplerSample (stays_runCanContinue t)).settles
  payloadAttempt _ := tells_of_settles (stays_runAttempt w false).settles
  payloadRetry _ := tells_of_settles (stays_runAttempt w true).settles
  driveBlock t forwards duration heading acquire :=
    tells_of_settles (settles_driveBlock t forwards duration heading acquire)
  profileFull := (halts_motionStop.stays.bind fun _ => stays_faultRaise _).settles
  profileLine r hr := hr.imp fun speed h => stays_reportPrintf .stop speed r h

/-! ## The run -/

/-- The command leads from a robot that stands still to one that does, whatever the statics of
`getting_there.c` are. -/
def Quiets {α : Type} (c : Cmd (Robot × Nav) α) : Prop :=
  Triple (fun s : Robot × Nav => Lawfully s.1) (fun s => Still s.1) c fun _ s => Still s.1

section Quiets

variable {α β : Type} {c : Cmd (Robot × Nav) α} {f : α → Cmd (Robot × Nav) β}

theorem Quiets.pure (a : α) : Quiets (pure a : Cmd (Robot × Nav) α) :=
  Triple.pure a fun _ h => h

/-- From one standstill to the next. -/
theorem Quiets.bind (h : Quiets c) (hf : ∀ a, Quiets (f a)) : Quiets (c >>= f) := Triple.bind h hf

/-- Both ways lead to a standstill. -/
theorem Quiets.ite {p : Prop} [Decidable p] {a b : Cmd (Robot × Nav) α} (ha : Quiets a)
    (hb : Quiets b) : Quiets (if p then a else b) := Triple.ite (fun _ => ha) fun _ => hb

/-- A command of the robot settles whatever the statics are. -/
theorem quiets_onFirst {c : Cmd Robot α} (h : Settles c) : Quiets (onFirst c) := by
  rintro ⟨r, n⟩ hr
  exact wp_onFirst.mpr (wp_mono (h r hr) (fun _ _ ht => ht) fun _ ht => ht)

/-- The statics are none of the pins' concern. -/
theorem quiets_setNav (g : Nav → Nav) : Quiets (setNav g) := fun _ h => h

/-- A command that passes the guard. -/
theorem quiets_of_passes {ok : α → Prop} (h : pinGuard.Passes Any ok c) : Quiets c := by
  intro s hs
  refine wp_mono (h s ⟨hs, trivial⟩) (fun _ t ht => ?_) fun t ht => ?_
  · exact ht.1.elim id And.right
  · exact ht.elim id fun h => h.2.law

end Quiets

/-- The rounds of a colour scan turn on the spot and stand still between the turns. -/
theorem quiets_scanRounds (origin : Float32) (n : ℕ) (allValid : Bool) :
    Quiets (scanRounds w origin n allValid) := by
  induction n generalizing allValid with
  | zero => exact Quiets.pure _
  | succ n ih =>
    refine (quiets_of_passes (passes_scanSteps (pinGuard_kept w).toBears origin 12 [])).bind fun scan => ?_
    refine (quiets_onFirst (stays_reportWhen _).settles).bind fun _ => Quiets.ite (Quiets.pure _) ?_
    refine (quiets_onFirst (rests_turnToHeading origin).settles).bind fun _ => ?_
    exact Quiets.ite (Quiets.pure _) (ih _)

/-- **The test build.** -/
theorem quiets_colourScanRun : Quiets (colourScanRun w) := by
  refine (quiets_onFirst stays_nowMs.settles).bind fun _ => (quiets_setNav _).bind fun _ => ?_
  refine Quiets.bind (fun _ h => h) fun n => Quiets.ite ?_ ?_
  · exact (quiets_onFirst stays_reportPrintf.settles).bind fun _ => Quiets.pure _
  refine (quiets_onFirst rests_motionLearnDirection.settles).bind fun _ => ?_
  refine Quiets.ite (Quiets.pure _) ((quiets_onFirst stays_motionHeading.settles).bind fun _ => ?_)
  exact (quiets_onFirst stays_reportPrintf.settles).bind fun _ => quiets_scanRounds w _ _ _

/-- **A whole drive** leads from a standstill to one. -/
theorem quiets_drive (ready recording : Bool) : Quiets (drive w ready recording) := by
  have hmission : Quiets (mission w) := by
    have hstop : Quiets (onFirst stopPressed) := quiets_onFirst stays_stopPressed.settles
    refine Quiets.ite (hstop.bind fun _ => Quiets.ite (Quiets.pure _) ?_) ?_
    · exact (quiets_colourScanRun w).bind fun _ => Quiets.pure _
    refine (quiets_onFirst (stays_startRadio w).settles).bind fun _ => Quiets.ite (Quiets.pure _) ?_
    refine hstop.bind fun _ => Quiets.ite (Quiets.pure _) (Quiets.bind ?_ fun _ => Quiets.pure _)
    exact quiets_of_passes (passes_approachBeacon (pinGuard_kept w) fun _ _ => trivial)
  have hsensors : Quiets (prepareSensors w) :=
    (quiets_onFirst (stays_colourSensorInit w).settles).bind fun _ =>
      (quiets_setNav _).bind fun _ => quiets_onFirst stays_calibrate.settles
  refine (quiets_onFirst (stays_awaitRelease w ready recording).settles).bind fun _ => ?_
  refine Quiets.ite (Quiets.pure _) (hsensors.bind fun _ => Quiets.ite (Quiets.pure _) hmission)

/-- **Every write to a motor pin is allowed**, in every run, however it goes and wherever it is cut
off, and whatever the pins were at its start: never is a pin given a level while the other one of
its motor has one, no level but zero is outside 20 to 43 per cent, and whenever the robot sleeps the
pins are those of a stop, of a drive or of a turn on the spot. -/
theorem main_wellWired (outside : Outside) (levels : Pin → ℕ) (colour : ColourSensor) :
    Event.WellWired
      (exec (main w) (Robot.powerOn outside levels, Nav.boot colour)).2.1.events := by
  have hpower : Triple (fun s : Robot × Nav => Lawfully s.1) (fun s => Ruled 0 s.1)
      (onFirst (powerUp w)) fun _ s => Still s.1 := by
    rintro ⟨r, n⟩ hr
    have hup : Triple Lawfully (Ruled 0) (powerUp w) fun _ => Wired .stop 0 := by
      refine (halts_motionInit 0).bind fun ready => ?_
      refine (stays_sleepMs.bind fun _ => (stays_reportLines _).bind fun _ => ?_) .stop 0
      exact (stays_awaitStart w).bind fun _ => stays_motionArmStop.bind fun _ => Stays.pure _
    exact wp_onFirst.mpr (wp_mono (hup r hr) (fun _ _ ht => ⟨0, ht⟩) fun _ ht => ht)
  have hmain : Triple (fun s : Robot × Nav => Lawfully s.1) (fun s => Ruled 0 s.1) (main w)
      fun _ s => Still s.1 := by
    refine hpower.bind fun ready => ?_
    refine (quiets_onFirst (stays_prepareLog w).settles).bind fun recording => ?_
    refine (quiets_drive w ready recording).bind fun completed => ?_
    refine (quiets_onFirst (stays_reportResult w completed).settles).bind fun _ => ?_
    exact quiets_onFirst (stays_endRun w recording).settles
  have hrun := hmain (Robot.powerOn outside levels, Nav.boot colour) (ruled_powerOn outside levels)
  exact always (wp_mono hrun (fun _ _ ht => ht.law) fun _ ht => ht)

end MainRun
