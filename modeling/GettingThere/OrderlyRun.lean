/-
# Every act of a run is allowed

At each stop of a run the motors are off, no scan is open, no attempt is running and nothing has
failed; then a page may be written, and the next block or attempt may begin.  A failure of the
sampler, and an attempt that was given up, end the run: what follows are a few lines, with the
motors off, the shutdown of the radio, and the last pages of the report.
-/
import GettingThere.ActRules
import GettingThere.RunGuard

open CrashLogic

namespace MainRun

open Robot Navigation Guard

variable (w : Ambient)

/-- What holds at a stop of a run that may go on. -/
abbrev AtStop : Robot → Prop := With (Ordered RadioFlags.Idle) (Resting Works)

/-- **What a run keeps**, in either build. -/
def actGuard : Guard Robot where
  always := Orderly
  good := Held AtStop True
  left := Held (Ordered RadioFlags.Any) True
  worn := Held (Ordered RadioFlags.Any) True
  full _ := True
  left_of_good _ h := h.less fun _ h => h.1.any
  always_of_left _ h := h.base.1
  full_cons _ _ h := h

theorem regime_atStop : Regime Orderly AtStop where
  toDiscipline := (discipline_ordered _).with _
  powers := powers_ordered (fun _ h => h.2) fun _ h => h.busy
  resets := resets_ordered
  flashes s hoff h := by
    refine ⟨⟨h.1.1.act (a := .flash) ⟨hoff, fun _ => ?_⟩, h.1.2⟩, h.2⟩
    exact ⟨h.2.closed, h.1.2.1, h.2.busy, h.1.2.2⟩
  radio s on h := ⟨h.1.turn on id, h.2⟩

/-- An attempt starts when nothing has failed, and one that is given up may be lost. -/
theorem attempts_atStop : Attempts AtStop (With (Ordered RadioFlags.Sound) (Resting Works))
    (Ordered RadioFlags.Any) where
  starts s h := by
    have hact := h.1.1.act (a := .attempt) ⟨h.2.busy, h.1.2.2⟩
    exact ⟨⟨hact.of_lasting rfl ⟨id, id⟩, h.1.2.2⟩, h.2⟩
  ends s h := ⟨h.1.run false fun hsound => ⟨rfl, hsound⟩, h.2⟩
  delivers s hoff h := ⟨⟨h.1.1.act (a := .delivered) ⟨hoff, h.1.2.1⟩, h.1.2⟩, h.2⟩
  leaves s lost h := by
    have horderly : s.Orderly := h.elim (fun h => h.1.1) fun h => h.1.1
    refine ⟨horderly.of_lasting rfl ⟨id, fun hlost => ?_⟩, trivial⟩
    change (s.attemptLost || lost) = true
    rw [show s.attemptLost = true from hlost, Bool.true_or]

/-- The checks of a run keep what is known of the sampler. -/
theorem triple_checks (start : UInt32) (K : Sampler → Prop) (p : Prop) :
    Triple Orderly (Held (With (Ordered RadioFlags.Idle) K) p) (robotMotion.runCanContinue start)
      fun _ => Held (With (Ordered RadioFlags.Idle) K) p :=
  triple_runCanContinue ((discipline_ordered _).with K) start

/-- What a command of the sampler leaves. -/
theorem tells_of_gives {α : Type} {c : Cmd Robot α} {ok : α → Prop}
    (h : Triple Orderly (Held AtStop True) c fun a =>
      Gives (Ordered RadioFlags.Idle) (Resting Works) True (ok a)) : actGuard.Tells c ok :=
  h.after fun _ _ hs => ⟨hs.1.less fun _ h => h.any, hs.2⟩

/-- **A block**: while it is under way a scan may be open, and the sampler may fail. -/
theorem tells_block (start : UInt32) (forwards : Bool) (duration : UInt32) (heading : Float32)
    (acquireMoving : Bool) :
    actGuard.Tells (robotMotion.driveBlock start forwards duration heading acquireMoving)
      fun b => ∃ block, b = some block ∧ block.quiesced = true := by
  have hS := scanRules_ordered RadioFlags.Idle
  have hpoll := triple_wifiSamplerPollMoving hS (fun _ h => h) (triple_checks start)
  have hquiesce := triple_wifiSamplerQuiesce (p := True) (K := fun _ => True) hS
    (triple_checks start) fun _ _ h => h
  refine Triple.before (P := Held (With (Ordered RadioFlags.Idle) Works) True)
    (fun _ h => h.busy) ?_
  refine (triple_driveBlock (hS.toDiscipline.with Works) hS.toDiscipline (fun _ h => h.1)
    (powers_ordered (fun _ h => h.2) fun _ h => h)
    (hpoll.after fun _ _ h => ⟨h.1.base, fun hok => (h.2 hok).base⟩) forwards duration heading
    (hquiesce.before fun _ h => h.less fun _ h => ⟨h, trivial⟩)).after ?_
  rintro (_ | block) s h
  · exact ⟨h.less fun _ h => h.1.any, fun ⟨_, hb, _⟩ => nomatch hb⟩
  · refine ⟨h.1.less fun _ h => h.any, ?_⟩
    rintro ⟨_, hb, hquiesced⟩
    exact h.2 (Option.some.inj hb ▸ hquiesced)

theorem tells_attempt (reconnect : Bool) :
    actGuard.Tells (runAttempt w reconnect) fun e => e.result ≠ .fatal :=
  triple_runAttempt w regime_atStop.toDiscipline ((discipline_ordered _).with _) attempts_atStop
    reconnect

/-- **The firmware keeps the order of the acts.** -/
theorem actGuard_kept : RunKeeps w actGuard where
  nowMs := regime_atStop.logs logs_nowMs
  samplerInit := (triple_wifiSamplerInit (scanRules_ordered _)).before fun _ h => h.busy
  canContinue t := triple_checks t _ True
  stop := cuts_motionStop regime_atStop.toDiscipline True
  faultRaise f hf := regime_atStop.logs (logs_faultRaise hf)
  reportPrintf r hr := regime_atStop.toDiscipline.reportPrintf r hr
  reportCheckpoint := regime_atStop.logs (logs_reportCheckpoint w)
  turnToHeading d := triple_turnToHeading regime_atStop.toDiscipline regime_atStop.powers d
  learnDirection := triple_motionLearnDirection regime_atStop.toDiscipline regime_atStop.powers
  heading := regime_atStop.logs neutral_motionHeading.logs
  pauseMs d := triple_pauseChecked regime_atStop.toDiscipline d
  setPosition _ _ _ := triple_wifiSamplerSetPosition (scanRules_ordered _)
  setReference s := triple_wifiSamplerSetReference (scanRules_ordered _) s
  readFresh := regime_atStop.logs (logs_readFresh w)
  quiesce t := tells_of_gives <|
    triple_wifiSamplerQuiesce (scanRules_ordered _) (triple_checks t) fun _ h _ => h.busy
  sample t := tells_of_gives <|
    triple_wifiSamplerSample (scanRules_ordered _) (triple_checks t) fun _ h _ => h.busy
  payloadAttempt _ := tells_attempt w false
  payloadRetry _ := tells_attempt w true
  driveBlock := tells_block
  profileFull := by
    refine Triple.bind (cuts_motionStop regime_atStop.toDiscipline True) fun _ s h => ?_
    exact ⟨⟨h.base.1.1.of_lasting rfl ⟨id, id⟩, trivial⟩, h.off⟩
  profileLine r hr := (discipline_ordered _).reportPrintf r hr
  full _ _ := trivial
  logs := regime_atStop.logs
  awaitRelease := triple_awaitRelease w regime_atStop
  calibrate := triple_calibrate regime_atStop
  startRadio := triple_startRadio w regime_atStop

/-- The end of the run: the radio is shut down before the last pages are written. -/
theorem triple_finish (completed : Option Bool) (recording : Bool) (n : Nav) :
    Triple (fun s => s.1.Orderly ∧ s.2 = n)
      (fun s => Held (Ordered RadioFlags.Any) True s.1 ∧ s.2 = n) (do
        onFirst (reportResult w completed)
        onFirst (endRun w recording)) fun _ s => s.1.Orderly ∧ s.2 = n := by
  have hL := discipline_ordered RadioFlags.Any
  have hend : Triple Orderly (Held (Ordered RadioFlags.Any) True) (endRun w recording) fun _ =>
      Held (Ordered RadioFlags.Down) True :=
    triple_endRun w hL (discipline_ordered _) flashes_down (fun _ h => h.turn false fun _ => rfl) _
  refine ((triple_reportResult w hL completed).onFirst n).bind fun _ => ?_
  exact (hend.onFirst n).after fun _ _ h => ⟨h.1.base.1, h.2⟩

/-- **A run**, wherever it is cut off. -/
theorem triple_orderly : Triple (fun s => s.1.Orderly) (fun s => Held AtStop False s.1) (main w)
    fun _ s => s.1.Orderly := by
  refine triple_main (actGuard_kept w) (P := Held AtStop False) ?_ ?_ ?_
  · exact fun s hs => hs.elim id fun h => h.2.base.1
  · exact triple_powerUp w regime_atStop
  rintro completed recording ⟨r, n⟩ hr
  have hr : Held (Ordered RadioFlags.Any) True r := hr.elim id fun h => h.2
  have hend := triple_finish w completed recording n (r, n) ⟨hr, rfl⟩
  exact wp_mono hend (fun _ _ h => h.1) fun _ h => h.1

/-- **All acts of a run are allowed**, in either build, however the run goes and wherever it is cut
off. -/
theorem main_orderly (outside : Outside) (levels : Pin → ℕ) (colour : ColourSensor) :
    (exec (main w) (Robot.powerOn outside levels, Nav.boot colour)).2.1.Orderly := by
  have hstart : Held AtStop False (Robot.powerOn outside levels) :=
    ⟨⟨⟨orderly_powerOn outside levels, rfl, rfl⟩, rfl, rfl, rfl⟩, False.elim⟩
  exact always (triple_orderly w (Robot.powerOn outside levels, Nav.boot colour) hstart)

end MainRun
