/-
# The STOP latch on every path

Some places poll GP21 and cut the power at once, others leave that to their caller.  One rule
for each function of `motion.c` and `wifi_sampler.c` says where the motors are secured:
reading the gyro, stopping the drive and `run_can_continue` lead from `Inv` to `Safe`, and in
each loop one of them comes before the sleep.

`performAll_lawful` puts the rules together, for any list of operations.
-/
import GettingThere.StopRules

open CrashLogic

namespace Robot

open Event

/-! ## Pauses and angles -/

/-- A checked pause polls STOP; the motors are off in it once the press has been observed. -/
theorem leads_pauseChecked (duration : UInt32) : Leads Inv (pauseChecked duration) Inv := by
  apply Leads.silent steady_inv silent_nowMs
  intro start
  refine Leads.loop steady_inv ?_ ()
  intro _
  apply Leads.silent steady_inv silent_nowMs
  intro now
  apply Leads.ite (fun _ => Leads.pure _ fun s hs => hs)
  intro _
  refine Leads.ifStopped ?_ ?_
  · refine leads_motorsStop.bind fun _ => Leads.pure _ fun s hs => hs.toInv
  · apply (leads_sleepMs.mono (fun s hs => hs.safe) fun s hs => hs).bind
    intro _
    exact Leads.pure _ fun s hs => hs.toInv

/-- An angle is normalised without a note. -/
theorem silent_normaliseDegrees (angle : Float32) : Silent (normaliseDegrees angle) := by
  refine (Silent.loop (fun a => ?_) angle).bind fun a => Silent.loop (fun a => ?_) a
  · split
    · exact Silent.pure _
    · exact Silent.pure _
  · split
    · exact Silent.pure _
    · exact Silent.pure _

/-! ## Gyro -/

/-- The gyro is read without a note. -/
theorem silent_readGyroDps : Silent readGyroDps :=
  (silent_ask _).bind fun _ => Silent.get fun _ => Silent.pure _

/-- The retries poll GP21 and leave the rest to the caller, who has stopped the motors. -/
theorem leads_recoverAttempts {P : Robot → Prop} (hP : Steady P) (hpoll : Leads P stopPressed P)
    (timed : Bool) (n : ℕ) : Leads P (recoverAttempts timed n) P := by
  induction n with
  | zero => exact Leads.pure _ fun s hs => hs
  | succ n ih =>
    refine hpoll.bind fun _ => Leads.ite (fun _ => Leads.pure _ fun s hs => hs) ?_
    intro _
    apply Leads.silent hP (silent_ask _)
    intro verified
    refine hpoll.bind fun _ => Leads.ite (fun _ => Leads.pure _ fun s hs => hs) ?_
    intro _
    refine Leads.ite (fun _ => ?_) fun _ => ?_
    · exact ih
    apply Leads.silent hP silent_readGyroDps
    intro z
    cases z with
    | none => exact ih
    | some z =>
      have htime : Silent (sampleTime timed) := by
        unfold sampleTime
        split
        · exact silent_ask _
        · exact Silent.pure _
      apply Leads.silent hP htime
      intro us
      refine hpoll.bind fun _ => Leads.ite (fun _ => ?_) fun _ => ?_
      · exact Leads.pure _ fun s hs => hs
      · exact Leads.pure _ fun s hs => hs

/-- Cutting the power leaves the motors off. -/
theorem leads_cutPower : Leads Inv cutPower Idle :=
  Leads.get fun s hs =>
    Leads.ite (fun _ => leads_stopDrive) (fun _ => leads_motorsStop) s hs

/-- Accepting a gap of the gyro is not noted. -/
theorem silent_acceptGap (z : Float32) (gap : UInt64) : Silent (acceptGap z gap) := by
  apply Silent.get
  intro s
  refine Silent.bind (silent_modify fun _ => ⟨rfl, rfl, rfl, rfl⟩) ?_
  intro _
  split
  · refine Silent.bind (silent_faultRaise nofun) ?_
    intro _
    exact silent_reportPrintf.bind fun _ => Silent.pure _
  · exact Silent.bind (silent_modify fun _ => ⟨rfl, rfl, rfl, rfl⟩) fun _ => Silent.pure _

/-- A fault that is reported. -/
theorem silent_fail {α : Type} {fault : Fault} (hf : fault ≠ .stopLatched) (a : α) :
    Silent (do
      faultRaise fault
      reportPrintf
      pure a) :=
  (silent_faultRaise hf).bind fun _ => silent_reportPrintf.bind fun _ => Silent.pure _

/-- **A failed read** turns the motors off before the sensor is asked again. -/
theorem leads_recoverMotionGyro (motion : Movement) (previousUs : UInt64) :
    Leads Inv (recoverMotionGyro motion previousUs) Idle := by
  refine leads_cutPower.bind fun _ => Leads.get ?_
  intro s hs
  refine Leads.ite (P := Idle) (fun _ => ?_) (fun _ => ?_) s hs
  · exact (silent_fail (by decide) _).leads steady_idle
  apply (leads_recoverAttempts steady_idle leads_stopPressed_idle true 2).bind
  intro sample
  cases sample with
  | none => exact (silent_fail (by decide) _).leads steady_idle
  | some sample =>
    refine Leads.ite ?_ fun _ => Leads.pure _ fun s hs => hs
    intro _
    apply Leads.silent steady_idle (silent_acceptGap _ _)
    intro ok
    refine Leads.ite (fun _ => ?_) fun _ => ?_
    · exact Leads.pure _ fun s hs => hs
    · exact Leads.pure _ fun s hs => hs

/-- **Reading the gyro** secures the motors. -/
theorem leads_readMotionGyro (previousUs : UInt64) (motion : Movement) :
    Leads Inv (readMotionGyro previousUs motion) Safe := by
  have hsample : Leads Free (sampleMotionGyro previousUs motion) Safe := by
    apply Leads.silent steady_free silent_readGyroDps
    intro z
    cases z with
    | some z =>
      apply Leads.silent steady_free (silent_ask _)
      intro us
      exact Leads.pure _ fun s hs => hs.safe
    | none =>
      exact (leads_recoverMotionGyro motion previousUs).mono (fun s hs => hs.toInv)
        fun s hs => hs.safe
  refine Leads.ifStopped ?_ (hsample.bind fun sample => ?_)
  · exact leads_motorsStop.bind fun _ => Leads.pure _ fun s hs => hs.safe
  cases sample with
  | none => exact Leads.pure _ fun s hs => hs
  | some sample =>
    refine Leads.ite (fun _ => ?_) fun _ => ?_
    · apply (leads_motorsStop.mono (fun s hs => hs.toInv) fun s hs => hs).bind
      intro _
      exact ((silent_fail (by decide) _).leads steady_idle).mono (fun s hs => hs) fun s hs => hs.safe
    · refine Leads.silent steady_safe (silent_modify fun _ => ⟨rfl, rfl, rfl, rfl⟩) ?_
      intro _
      exact Leads.pure _ fun s hs => hs

/-- The settling after a movement keeps the law: it powers nothing. -/
theorem leads_settleMotion (motion : Movement) (previousUs : UInt64) :
    Leads Inv (settleMotion motion previousUs) Inv := by
  apply Leads.silent steady_inv silent_nowMs
  intro start
  have hloop : Leads Inv (settleFrom start motion previousUs) Inv := by
    refine Leads.loop steady_inv ?_ previousUs
    intro us
    apply Leads.silent steady_inv silent_nowMs
    intro now
    apply Leads.ite (fun _ => Leads.pure _ fun s hs => hs)
    intro _
    apply (leads_readMotionGyro us motion).bind
    intro sample
    cases sample with
    | none => exact Leads.pure _ fun s hs => hs.toInv
    | some sample => exact leads_sleepMs.bind fun _ => Leads.pure _ fun s hs => hs.toInv
  apply hloop.bind
  intro settled
  apply Leads.ite (fun _ => Leads.pure _ fun s hs => hs)
  intro _
  apply (leads_readMotionGyro _ motion).bind
  intro sample
  cases sample with
  | none => exact Leads.pure _ fun s hs => hs.toInv
  | some sample => exact Leads.pure _ fun s hs => hs.toInv

/-! ## Straight drives -/

/-- A refused drive keeps the law. -/
theorem leads_driveRefused (durationMs : UInt32) : Leads Inv (driveRefused durationMs) Inv := by
  apply Leads.get
  intro s hs
  refine Leads.ite (fun _ => Leads.pure _ fun s hs => hs) ?_ s hs
  intro _
  refine leads_stopPressed.bind fun _ => Leads.ite (fun _ => ?_) fun _ => ?_
  · exact Leads.pure _ fun s hs => hs
  · exact Leads.pure _ fun s hs => hs

/-- Starting a drive powers the motors only after STOP was polled and not seen. -/
theorem leads_motionDriveStart (forwards : Bool) (durationMs : UInt32) (headingDegrees : Float32) :
    Leads Inv (motionDriveStart forwards durationMs headingDegrees) Inv := by
  refine (leads_driveRefused durationMs).bind fun refused => Leads.ite (fun _ => ?_) fun _ => ?_
  · exact leads_stopDrive.bind fun _ => Leads.pure _ fun s hs => hs.toInv
  apply Leads.silent steady_inv (silent_ask _)
  intro preflightUs
  apply (leads_readMotionGyro preflightUs .preDrive).bind
  intro sample
  cases sample with
  | none => exact Leads.pure _ fun s hs => hs.toInv
  | some sample =>
    refine Leads.mono ?_ (fun s hs => hs.toInv) fun s hs => hs
    apply Leads.get
    intro s hs
    refine (Leads.silent steady_inv (silent_normaliseDegrees _) ?_) s hs
    intro error
    refine Leads.ite (fun _ => ?_) fun _ => ?_
    · exact (silent_fail (by decide) _).leads steady_inv
    apply Leads.silent steady_inv silent_reportPrintf
    intro _
    apply Leads.silent steady_inv silent_nowMs
    intro startedMs
    apply Leads.silent steady_inv (silent_ask _)
    intro previousUs
    refine Leads.silent steady_inv (silent_modify fun _ => ⟨rfl, rfl, rfl, rfl⟩) ?_
    intro _
    exact (leads_motorsSet _ _).bind fun _ => Leads.pure _ fun s hs => hs.toInv

/-- A failed drive ends with the motors off. -/
theorem leads_failDrive : Leads Inv failDrive Idle :=
  leads_stopDrive.bind fun _ =>
    Silent.leads (silent_modify fun _ => ⟨rfl, rfl, rfl, rfl⟩) steady_idle

/-- **One step of a drive** secures the motors. -/
theorem leads_driveStep : Leads Inv driveStep Safe := by
  apply Leads.get
  intro s hs
  refine ((leads_readMotionGyro _ .drive).bind ?_) s hs
  intro sample
  cases sample with
  | none =>
    apply (leads_failDrive.mono (fun s hs => hs.toInv) fun s hs => hs).bind
    intro _
    exact Leads.pure _ fun s hs => hs.safe
  | some sample =>
    refine Leads.silent steady_safe (silent_modify fun _ => ⟨rfl, rfl, rfl, rfl⟩) ?_
    intro _
    apply Leads.get
    intro s hs
    refine (Leads.silent steady_safe (silent_normaliseDegrees _) ?_) s hs
    intro yawError
    refine Leads.ite (fun _ => ?_) fun _ => Leads.ite (fun _ => ?_) fun _ => ?_
    · apply (leads_failDrive.mono (fun s hs => hs.toInv) fun s hs => hs).bind
      intro _
      exact ((silent_fail (by decide) _).leads steady_idle).mono (fun s hs => hs) fun s hs => hs.safe
    · exact Leads.pure _ fun s hs => hs
    apply Leads.silent steady_safe silent_nowMs
    intro now
    refine Leads.ite (fun _ => ?_) fun _ => ?_
    · apply (leads_stopDrive.mono (fun s hs => hs.toInv) fun s hs => hs).bind
      intro _
      exact Leads.pure _ fun s hs => hs.safe
    refine Leads.silent steady_safe (silent_modify fun _ => ⟨rfl, rfl, rfl, rfl⟩) ?_
    intro _
    apply ((leads_motorsSet _ _).mono (fun s hs => hs.toInv) fun s hs => hs).bind
    intro _
    exact Leads.pure _ fun s hs => hs

/-- **`motion_drive_update`** secures the motors of an active drive. -/
theorem wp_motionDriveUpdate {s : Robot} (hs : Inv s) (hactive : s.drive.active = true) :
    wp motionDriveUpdate (fun _ t => Safe t) Inv s := by
  unfold motionDriveUpdate
  rw [wp_bind, wp_get, if_pos hactive]
  exact leads_driveStep s hs

/-- An update of a drive keeps the law: it is one step of the drive, or nothing. -/
theorem leads_motionDriveUpdate : Leads Inv motionDriveUpdate Inv := by
  refine Leads.get fun s hs => Leads.ite (fun _ => ?_) (fun _ => ?_) s hs
  · exact leads_driveStep.mono (fun s hs => hs) fun s hs => hs.toInv
  · exact Leads.pure _ fun s hs => hs

/-- Finishing a drive keeps the law. -/
theorem leads_motionDriveFinish : Leads Inv motionDriveFinish Inv := by
  apply leads_stopDrive.bind
  intro _
  refine Leads.mono ?_ (fun s hs => hs.toInv) fun s hs => hs
  apply Leads.get
  intro s hs
  refine Leads.ite (fun _ => Leads.pure _ fun s hs => hs) ?_ s hs
  intro _
  refine Leads.silent steady_inv (silent_modify fun _ => ⟨rfl, rfl, rfl, rfl⟩) ?_
  intro _
  apply Leads.ite (fun _ => Leads.pure _ fun s hs => hs)
  intro _
  refine leads_stopPressed.bind fun _ => Leads.ite (fun _ => ?_) fun _ => ?_
  · exact Leads.pure _ fun s hs => hs
  apply (leads_settleMotion .drive _).bind
  intro settled
  refine Leads.silent steady_inv (silent_modify fun _ => ⟨rfl, rfl, rfl, rfl⟩) ?_
  intro _
  apply Leads.ite (fun _ => Leads.pure _ fun s hs => hs)
  intro _
  apply Leads.get
  intro s hs
  refine (Leads.silent steady_inv (silent_normaliseDegrees _) ?_) s hs
  intro yawError
  refine Leads.ite (fun _ => ?_) fun _ => ?_
  · exact (silent_fail (by decide) _).leads steady_inv
  · exact Leads.silent steady_inv silent_reportPrintf fun _ => Leads.pure _ fun s hs => hs

/-- Whether a drive is active is read off the state. -/
theorem wp_motionDriveActive {s : Robot} {Q : Bool → Robot → Prop} {R : Robot → Prop} :
    wp motionDriveActive Q R s ↔ Q s.drive.active s := Iff.rfl

/-- Asking whether a drive is active is not noted. -/
theorem silent_motionDriveActive : Silent motionDriveActive :=
  Silent.get fun _ => Silent.pure _

/-- A whole drive keeps the law. -/
theorem leads_motionDrive (forwards : Bool) (durationMs : UInt32) (headingDegrees : Float32) :
    Leads Inv (motionDrive forwards durationMs headingDegrees) Inv := by
  apply (leads_motionDriveStart forwards durationMs headingDegrees).bind
  intro started
  apply Leads.ite (fun _ => Leads.pure _ fun s hs => hs)
  intro _
  refine Leads.bind (Leads.loop steady_inv ?_ ()) fun _ => leads_motionDriveFinish
  intro _ s hs
  refine wp_bind.mpr (wp_motionDriveActive.mpr ?_)
  cases hactive : s.drive.active with
  | false => exact hs
  | true =>
    simp only [Bool.not_true, Bool.false_eq_true, if_false]
    rw [wp_bind]
    refine wp_mono (wp_motionDriveUpdate hs hactive) ?_ fun t ht => ht
    intro ok t ht
    refine (Leads.ite (fun _ => ?_) fun _ => ?_) t ht
    · exact Leads.pure _ fun s hs => hs.toInv
    apply Leads.silent steady_safe silent_motionDriveActive
    intro active
    refine Leads.ite ?_ fun _ => Leads.pure _ fun s hs => hs.toInv
    intro _
    exact leads_sleepMs.bind fun _ => Leads.pure _ fun s hs => hs.toInv

/-! ## Turns -/

/-- A failed turn ends with the motors off. -/
theorem leads_failTurn {f : Fault} (hf : f ≠ .stopLatched) : Leads Inv (failTurn f) Idle :=
  leads_motorsStop.bind fun _ =>
    Leads.silent steady_idle (silent_faultRaise hf) fun _ => silent_reportPrintf.leads steady_idle

/-- Learning the sign of the turning direction is not noted. -/
theorem silent_learnSign (g : Segment) (z : Float32) : Silent (learnSign g z) := by
  apply Silent.get
  intro s
  split
  · exact Silent.pure _
  dsimp only
  split
  · exact Silent.bind (silent_modify fun _ => ⟨rfl, rfl, rfl, rfl⟩) fun _ => Silent.pure _
  · exact Silent.pure _

/-- A turn that fails, and leaves its loop. -/
theorem leads_failTurn_none {P : Robot → Prop} (hP : Steady P) {f : Fault} (hf : f ≠ .stopLatched) :
    Leads P (do
      failTurn f
      pure (.inr none : Segment ⊕ Option UInt64)) Inv :=
  ((leads_failTurn hf).mono hP.inv fun _ hs => hs.toInv).bind fun _ => Leads.pure _ fun _ hs => hs

/-- A step of a powered turn polls STOP before it goes on. -/
theorem leads_turnStep (g : Segment) : Leads Inv (turnStep g) Inv := by
  apply Leads.silent steady_inv silent_nowMs
  intro now
  refine Leads.ite (fun _ => leads_failTurn_none steady_inv nofun) ?_
  intro _
  apply (leads_readMotionGyro g.previousUs .turn).bind
  intro sample
  cases sample with
  | none => exact Leads.pure _ fun s hs => hs.toInv
  | some sample =>
    apply Leads.silent steady_safe (silent_learnSign _ _)
    intro g
    apply Leads.get
    intro s hs
    refine (Leads.ite (fun _ => ?_) fun _ => Leads.ite (fun _ => ?_) fun _ => ?_) s hs
    · exact Leads.pure _ fun s hs => hs.toInv
    · exact leads_failTurn_none steady_safe nofun
    apply Leads.silent steady_safe silent_nowMs
    intro now
    refine Leads.ite (fun _ => leads_failTurn_none steady_safe nofun) ?_
    intro _
    -- the motors are set for the next sample
    have hset (left right : ℤ) : Leads Safe (do
        motorsSet left right
        sleepMs
        pure (.inl g : Segment ⊕ Option UInt64)) Inv := by
      apply ((leads_motorsSet left right).mono (fun s hs => hs.toInv) fun s hs => hs).bind
      intro _
      exact leads_sleepMs.bind fun _ => Leads.pure _ fun s hs => hs.toInv
    refine Leads.ite ?_ fun _ => hset _ _
    intro _
    apply Leads.silent steady_safe silent_nowMs
    intro now
    exact Leads.ite (fun _ => Leads.pure _ fun s hs => hs.toInv) fun _ => hset _ _

/-- The error of a turn is computed without a note. -/
theorem silent_turnError (degrees startHeading : Float32) : Silent (turnError degrees startHeading) :=
  Silent.get fun _ => Silent.pure _

/-- Every attempt of a turn keeps the law, by induction on the attempts that are left. -/
theorem leads_turnAttempts (degrees startHeading : Float32) (startMs : UInt32) (n attempt : ℕ)
    (previousUs : UInt64) :
    Leads Inv (turnAttempts degrees startHeading startMs n attempt previousUs) Inv := by
  induction n generalizing attempt previousUs with
  | zero =>
    refine Leads.bind (leads_failTurn nofun) ?_
    intro _
    exact Leads.pure _ fun s hs => hs.toInv
  | succ n ih =>
    apply Leads.silent steady_inv (silent_turnError _ _)
    intro error
    apply Leads.get
    intro s hs
    refine (Leads.ite (fun _ => Leads.pure _ fun s hs => hs) ?_) s hs
    intro _
    apply Leads.silent steady_inv silent_nowMs
    intro segmentMs
    apply ((leads_motorsSet _ _).mono (fun s hs => hs) fun s hs => hs.toInv).bind
    intro _
    apply Leads.bind (Leads.loop steady_inv leads_turnStep _)
    intro left
    cases left with
    | none => exact Leads.pure _ fun s hs => hs
    | some us =>
      apply (leads_motorsStop.mono (fun s hs => hs) fun s hs => hs.toInv).bind
      intro _
      apply (leads_settleMotion .turn us).bind
      intro settled
      apply Leads.ite (fun _ => Leads.pure _ fun s hs => hs)
      intro _
      apply Leads.silent steady_inv (silent_turnError _ _)
      intro error
      apply Leads.silent steady_inv silent_reportPrintf
      intro _
      exact Leads.ite (fun _ => Leads.pure _ fun s hs => hs) fun _ => ih _ _

/-- A turn by an angle keeps the law. -/
theorem leads_turnDegrees (degrees : Float32) : Leads Inv (turnDegrees degrees) Inv := by
  refine leads_stopPressed.bind fun _ => Leads.ite (fun _ => ?_) fun _ => ?_
  · exact leads_motorsStop.bind fun _ => Leads.pure _ fun s hs => hs.toInv
  apply Leads.ite (fun _ => Leads.pure _ fun s hs => hs)
  intro _
  apply Leads.silent steady_inv (silent_ask _)
  intro preflightUs
  apply (leads_readMotionGyro preflightUs .preTurn).bind
  intro sample
  cases sample with
  | none => exact Leads.pure _ fun s hs => hs.toInv
  | some sample =>
    refine Leads.mono ?_ (fun s hs => hs.toInv) fun s hs => hs
    apply Leads.get
    intro s hs
    refine (Leads.silent steady_inv silent_nowMs ?_) s hs
    intro startMs
    exact Leads.silent steady_inv (silent_ask _) fun previousUs => leads_turnAttempts _ _ _ _ _ _

/-- A turn to a heading keeps the law. -/
theorem leads_turnToHeading (headingDegrees : Float32) :
    Leads Inv (turnToHeading headingDegrees) Inv := by
  apply Leads.get
  intro s hs
  refine (Leads.ite (fun _ => Leads.pure _ fun s hs => hs) ?_) s hs
  intro _
  exact Leads.silent steady_inv (silent_normaliseDegrees _) fun error => leads_turnDegrees error

/-- Learning the turning direction keeps the law. -/
theorem leads_motionLearnDirection : Leads Inv motionLearnDirection Inv := by
  have hturns : Leads Inv learnTurns Inv := by
    refine (leads_turnDegrees 15).bind fun _ => Leads.ite (fun _ => ?_) fun _ => ?_
    · exact Leads.pure _ fun s hs => hs
    · exact leads_turnToHeading 0
  refine Leads.silent steady_inv silent_reportPrintf fun _ => hturns.bind ?_
  intro ok
  apply (leads_motorsStop.mono (fun s hs => hs) fun s hs => hs.toInv).bind
  intro _
  refine Leads.ite ?_ fun _ => Leads.pure _ fun s hs => hs
  intro _
  exact Leads.silent steady_inv silent_reportPrintf fun _ => Leads.pure _ fun s hs => hs

/-! ## Startup -/

/-- The readings of the calibration keep the law. -/
theorem leads_calibrateReadings (n : ℕ) (sum : Float32) :
    Leads Inv (calibrateReadings n sum) Inv := by
  induction n generalizing sum with
  | zero =>
    refine Leads.silent steady_inv (silent_modify fun _ => ⟨rfl, rfl, rfl, rfl⟩) ?_
    intro _
    exact Leads.silent steady_inv silent_reportPrintf fun _ => Leads.pure _ fun s hs => hs
  | succ n ih =>
    have hreading : Leads Inv calibrateReading Inv := by
      apply Leads.silent steady_inv silent_readGyroDps
      intro z
      cases z with
      | some z => exact Leads.pure _ fun s hs => hs
      | none =>
        apply (leads_recoverAttempts steady_inv leads_stopPressed false 2).bind
        intro _
        exact Leads.pure _ fun s hs => hs
    apply hreading.bind
    intro z
    cases z with
    | none =>
      exact Leads.silent steady_inv (silent_faultRaise nofun) fun _ => Leads.pure _ fun s hs => hs
    | some z =>
      refine (leads_pauseChecked 10).bind fun _ => Leads.ite ?_ fun _ => ih _
      intro _
      exact Leads.pure _ fun s hs => hs

/-- The calibration keeps the law. -/
theorem leads_motionCalibrate : Leads Inv motionCalibrate Inv := by
  apply (leads_motionStop.mono (fun s hs => hs) fun s hs => hs.toInv).bind
  intro _
  refine Leads.silent steady_inv (silent_modify fun _ => ⟨rfl, rfl, rfl, rfl⟩) ?_
  intro _
  apply Leads.silent steady_inv silent_reportPrintf
  intro _
  refine Leads.silent steady_inv (silent_modify fun _ => ⟨rfl, rfl, rfl, rfl⟩) ?_
  intro _
  exact leads_calibrateReadings 200 0

/-- `motion_init` keeps the law. -/
theorem leads_motionInit : Leads Inv motionInit Inv := by
  have hzero (pin : Pin) : Leads Inv (pwmSetGpioLevel pin 0) Inv :=
    fun s hs => hs.write pin (absurd rfl)
  have hinit : Leads Inv motorsInit Inv := by
    refine (hzero _).bind fun _ => (hzero _).bind fun _ => (hzero _).bind ?_
    intro _
    apply (hzero _).bind
    intro _
    exact leads_motorsStop.mono (fun s hs => hs) fun s hs => hs.toInv
  apply hinit.bind
  intro _
  refine Leads.silent steady_inv (silent_modify fun _ => ⟨rfl, rfl, rfl, rfl⟩) ?_
  intro _
  refine Leads.silent steady_inv (silent_ask _) fun ok => Leads.ite (fun _ => ?_) fun _ => ?_
  · exact (silent_fail (by decide) _).leads steady_inv
  apply Leads.silent steady_inv silent_reportPrintf
  intro _
  refine Leads.silent steady_inv (silent_faultClear nofun) ?_
  intro _
  exact Leads.silent steady_inv silent_reportPrintf fun _ => Leads.pure _ fun s hs => hs

/-- Arming STOP is noted before anything may be powered. -/
theorem leads_motionArmStop : Leads Inv motionArmStop Inv := by
  intro s hs
  unfold motionArmStop
  rw [wp_bind, wp_modify, wp_bind]
  unfold note
  rw [wp_modify, wp_bind]
  have harmed : Inv { s with stopArmed := true, events := .armed :: s.events } := by
    refine ⟨⟨True.intro, hs.law⟩, ?_, fun _ => List.mem_cons_self⟩
    exact fun ho => hs.latched (observed_cons (e := .armed) (fun _ heq => nomatch heq) ho)
  exact leads_stopPressed _ harmed

/-! ## The sampler -/

/-- What `run_can_continue` does for the motors. -/
theorem leads_runCanContinue (started : UInt32) :
    Leads Inv (robotMotion.runCanContinue started) Safe := by
  have hfor {f : Fault} (hf : f ≠ .stopLatched) : Leads Free (robotMotion.stopFor f) Idle := by
    apply (leads_motionStop.mono (fun s hs => hs.toInv) fun s hs => hs).bind
    intro _
    exact (silent_faultRaise hf).leads steady_idle
  refine Leads.ifStopped ?_ ?_
  · exact leads_motionStop.bind fun _ => Leads.pure _ fun s hs => hs.safe
  apply Leads.silent steady_free (silent_ask _)
  intro ok
  refine Leads.ite (fun _ => ?_) fun _ => ?_
  · exact (hfor (f := .report) nofun).bind fun _ => Leads.pure _ fun s hs => hs.safe
  apply Leads.silent steady_free silent_nowMs
  intro now
  refine Leads.ite ?_ fun _ => Leads.pure _ fun s hs => hs.safe
  intro _
  apply (hfor (f := .runLimit) nofun).bind
  intro _
  exact Leads.silent steady_idle silent_reportPrintf fun _ => Leads.pure _ fun s hs => hs.safe

section Sampler

variable {canContinue : Cmd Robot Bool} (hcan : Leads Inv canContinue Safe)

/-- The sampler's state is none of the law's concern. -/
theorem silent_setSampler (f : Sampler → Sampler) : Silent (setSampler f) :=
  silent_modify fun _ => ⟨rfl, rfl, rfl, rfl⟩

/-- The age of a scan is read without a note. -/
theorem silent_scanAge : Silent scanAge :=
  silent_nowMs.bind fun _ => Silent.get fun _ => Silent.pure _

/-- Falling back to stationary samples stops the motors. -/
theorem leads_fallBack : Leads Safe fallBack Safe := by
  apply Leads.silent steady_safe (silent_setSampler _)
  intro _
  exact leads_motionStop.mono (fun s hs => hs.toInv) fun s hs => hs.safe

/-- A sampler that fails stops the motors. -/
theorem leads_failSampler {f : Fault} (hf : f ≠ .stopLatched) : Leads Safe (failSampler f) Safe := by
  refine Leads.bind (T := Safe) ?_ fun _ => ?_
  · exact leads_motionStop.mono (fun s hs => hs.toInv) fun s hs => hs.safe
  apply Leads.silent steady_safe (silent_faultRaise hf)
  intro _
  exact (silent_setSampler _).leads steady_safe

include hcan in
/-- Beginning a scan keeps the law. -/
theorem leads_samplerBegin (moving : Bool) : Leads Safe (samplerBegin canContinue moving) Safe := by
  apply Leads.get
  intro s hs
  refine (Leads.ite (fun _ => Leads.pure _ fun s hs => hs) ?_) s hs
  intro _
  apply (hcan.mono (fun s hs => hs.toInv) fun s hs => hs).bind
  intro _
  apply Leads.ite (fun _ => Leads.pure _ fun s hs => hs)
  intro _
  apply Leads.get
  intro s hs
  refine (Leads.ite (fun _ => ?_) fun _ => ?_) s hs
  · exact Leads.bind (leads_failSampler nofun) fun _ => Leads.pure _ fun s hs => hs
  apply Leads.silent steady_safe silent_nowMs
  intro started
  apply Leads.silent steady_safe (silent_setSampler _)
  intro _
  apply Leads.silent steady_safe (silent_ask _)
  intro error
  apply Leads.silent steady_safe silent_scanAge
  intro elapsed
  apply Leads.silent steady_safe (silent_setSampler _)
  intro _
  refine Leads.ite (fun _ => ?_) fun _ => ?_
  · apply Leads.silent steady_safe (silent_setSampler _)
    intro _
    refine Leads.bind (leads_failSampler nofun) ?_
    intro _
    exact Leads.silent steady_safe silent_reportPrintf fun _ => Leads.pure _ fun s hs => hs
  refine Leads.ite ?_ fun _ => Leads.pure _ fun s hs => hs
  intro _
  exact leads_fallBack.bind fun _ => Leads.pure _ fun s hs => hs

/-- A lost scan is recorded without a note. -/
theorem silent_scanLost (code : ℕ) : Silent (scanLost code) := by
  unfold scanLost
  split
  · exact Silent.pure _
  · exact silent_nowMs.bind fun _ => Silent.get fun _ => Silent.pure _

/-- Collecting a scan in motion keeps the law. -/
theorem leads_collectMoving (code : ℕ) (stopped : Bool) :
    Leads Safe (collectMoving code stopped) Safe := by
  apply Leads.silent steady_safe (silent_scanLost code)
  intro lost
  refine Leads.ite (fun _ => leads_fallBack) fun _ => Leads.ite (fun _ => ?_) fun _ => ?_
  · exact (silent_setSampler _).leads steady_safe
  refine Leads.silent steady_safe (silent_setSampler _) fun _ => Leads.get ?_
  intro s hs
  refine (Leads.ite ?_ fun _ => Leads.pure _ fun s hs => hs) s hs
  intro _
  have hwindow : Leads Safe (nowMs >>= fun now => setSampler fun p =>
      { p with movingCodes := [], movingWindowStartedMs := now }) Safe :=
    Leads.silent steady_safe silent_nowMs fun now => (silent_setSampler _).leads steady_safe
  refine Leads.ite ?_ fun _ => hwindow
  intro _
  refine Leads.bind (T := Safe) ?_ fun _ => hwindow
  exact leads_motionStop.mono (fun s hs => hs.toInv) fun s hs => hs.safe

/-- Collecting a scan keeps the law. -/
theorem leads_samplerCollect : Leads Safe samplerCollect Safe := by
  apply Leads.get
  intro s hs
  refine (Leads.ite (fun _ => Leads.pure _ fun s hs => hs) ?_) s hs
  intro _
  apply Leads.silent steady_safe (silent_ask _)
  intro running
  apply Leads.ite (fun _ => Leads.pure _ fun s hs => hs)
  intro _
  apply Leads.silent steady_safe (silent_ask _)
  intro result
  apply Leads.silent steady_safe (silent_setSampler _)
  intro _
  apply Leads.silent steady_safe silent_motionDriveActive
  intro active
  refine Leads.ite (fun _ => ?_) fun _ => ?_
  · exact Leads.bind (leads_failSampler nofun) fun _ => Leads.pure _ fun s hs => hs
  apply Leads.silent steady_safe (silent_setSampler _)
  intro _
  refine Leads.ite ?_ fun _ => Leads.pure _ fun s hs => hs
  intro _
  exact (leads_collectMoving _ _).bind fun _ => Leads.pure _ fun s hs => hs

/-- Lines of the report are not noted. -/
theorem silent_reportLines (n : ℕ) : Silent (reportLines n) := by
  induction n with
  | zero => exact Silent.pure _
  | succ n ih => exact silent_reportPrintf.bind fun _ => ih

/-- Flushing the records is not noted. -/
theorem silent_samplerFlush : Silent samplerFlush := by
  apply Silent.get
  intro s
  split
  · exact Silent.pure _
  apply (silent_ask _).bind
  intro running
  split
  · exact Silent.pure _
  · apply (silent_reportLines _).bind
    intro _
    exact (silent_setSampler _).bind fun _ => silent_ask _

include hcan in
/-- Waiting for a scan polls STOP in every round. -/
theorem leads_awaitScan : Leads Safe (awaitScan canContinue) Safe := by
  refine Leads.loop steady_safe (fun _ => Leads.get ?_) ()
  intro s hs
  refine (Leads.ite (fun _ => Leads.pure _ fun s hs => hs) ?_) s hs
  intro _
  apply Leads.silent steady_safe (silent_ask _)
  intro running
  apply Leads.ite (fun _ => Leads.pure _ fun s hs => hs)
  intro _
  have hwait : Leads Safe (waitOver canContinue) Safe := by
    apply (hcan.mono (fun s hs => hs.toInv) fun s hs => hs).bind
    intro _
    apply Leads.ite (fun _ => Leads.pure _ fun s hs => hs)
    intro _
    exact Leads.silent steady_safe silent_scanAge fun age => Leads.pure _ fun s hs => hs
  refine hwait.bind fun expired => Leads.ite (fun _ => ?_) fun _ => ?_
  · refine Leads.silent steady_safe (silent_faultRaise nofun) ?_
    intro _
    apply Leads.silent steady_safe (silent_setSampler _)
    intro _
    exact Leads.silent steady_safe silent_reportPrintf fun _ => Leads.pure _ fun s hs => hs
  · exact leads_sleepMs.bind fun _ => Leads.pure _ fun s hs => hs

include hcan in
/-- **`wifi_sampler_quiesce`** stops the robot first. -/
theorem leads_wifiSamplerQuiesce : Leads Inv (wifiSamplerQuiesce canContinue) Safe := by
  apply (leads_motionStop.mono (fun s hs => hs) fun s hs => hs.safe).bind
  intro _
  apply Leads.get
  intro s hs
  refine (Leads.ite (fun _ => Leads.pure _ fun s hs => hs) ?_) s hs
  intro _
  apply (leads_awaitScan hcan).bind
  intro _
  apply Leads.ite (fun _ => Leads.pure _ fun s hs => hs)
  intro _
  apply leads_samplerCollect.bind
  intro _
  apply Leads.ite (fun _ => Leads.pure _ fun s hs => hs)
  intro _
  exact silent_samplerFlush.leads steady_safe

/-- A slow scan is recorded without a note. -/
theorem silent_scanSlow : Silent scanSlow := by
  apply Silent.get
  intro s
  split
  · exact Silent.pure _
  · exact silent_scanAge.bind fun _ => Silent.pure _

include hcan in
/-- **`wifi_sampler_poll_moving`** secures the motors through `canContinue`. -/
theorem leads_wifiSamplerPollMoving : Leads Inv (wifiSamplerPollMoving canContinue) Safe := by
  refine hcan.bind fun _ => Leads.ite (fun _ => ?_) fun _ => ?_
  · apply (leads_motionStop.mono (fun s hs => hs.toInv) fun s hs => hs.safe).bind
    intro _
    exact Leads.pure _ fun s hs => hs
  apply Leads.get
  intro s hs
  refine (Leads.ite (fun _ => Leads.pure _ fun s hs => hs) ?_) s hs
  intro _
  refine Leads.silent steady_safe silent_scanSlow fun slow => Leads.ite (fun _ => ?_) fun _ => ?_
  · exact leads_fallBack.bind fun _ => Leads.pure _ fun s hs => hs
  apply leads_samplerCollect.bind
  intro _
  apply Leads.ite (fun _ => Leads.pure _ fun s hs => hs)
  intro _
  apply Leads.get
  intro s hs
  exact Leads.ite (fun _ => leads_samplerBegin hcan true)
    (fun _ => Leads.pure _ fun s hs => hs) s hs

include hcan in
/-- The scans of a sample keep the law, by induction on the scans that are left. -/
theorem leads_sampleScans (n : ℕ) (codes : List ℕ) :
    Leads Safe (sampleScans canContinue n codes) Safe := by
  induction n generalizing codes with
  | zero => exact Leads.pure _ fun s hs => hs
  | succ n ih =>
    apply (leads_samplerBegin hcan false).bind
    intro _
    apply Leads.ite (fun _ => Leads.pure _ fun s hs => hs)
    intro _
    refine Leads.bind (T := Safe) ?_ fun _ => ?_
    · exact (leads_wifiSamplerQuiesce hcan).mono (fun s hs => hs.toInv) fun s hs => hs
    apply Leads.ite (fun _ => Leads.pure _ fun s hs => hs)
    intro _
    exact Leads.get fun s hs => ih _ s hs

/-- Judging the codes of a sample is not noted. -/
theorem silent_qualify (codes : List ℕ) (elapsed : UInt32) : Silent (qualify codes elapsed) := by
  apply Silent.get
  intro s
  split
  · exact silent_setSampler _
  · exact silent_setSampler _

/-- A finished sample is recorded without a note. -/
theorem silent_noteSample (sample : WifiSample) : Silent (noteSample sample) := by
  unfold noteSample
  split
  · exact silent_faultRaise nofun
  · exact silent_faultClear nofun

include hcan in
/-- A whole sample ends with the motors off once the press has been observed. -/
theorem leads_wifiSamplerSample : Leads Inv (wifiSamplerSample canContinue) Safe := by
  apply (leads_wifiSamplerQuiesce hcan).bind
  intro _
  apply Leads.ite (fun _ => Leads.pure _ fun s hs => hs)
  intro _
  apply Leads.silent steady_safe silent_reportPrintf
  intro _
  apply Leads.silent steady_safe silent_nowMs
  intro start
  apply (leads_sampleScans hcan _ _).bind
  intro codes
  cases codes with
  | none => exact Leads.pure _ fun s hs => hs
  | some codes =>
    apply Leads.silent steady_safe silent_nowMs
    intro now
    apply Leads.silent steady_safe (silent_qualify _ _)
    intro _
    apply Leads.silent steady_safe (silent_noteSample _)
    intro _
    apply Leads.silent steady_safe silent_reportPrintf
    intro _
    apply (hcan.mono (fun s hs => hs.toInv) fun s hs => hs).bind
    intro _
    apply Leads.ite (fun _ => Leads.pure _ fun s hs => hs)
    intro _
    refine Leads.silent steady_safe (silent_ask _) fun ok => Leads.ite (fun _ => ?_) fun _ => ?_
    · exact Leads.pure _ fun s hs => hs
    · exact Leads.pure _ fun s hs => hs

end Sampler

/-! ## A block -/

/-- **A round of the loop of `translate_block`**: the update secures the motors, and so do the
checks after it, before the robot sleeps. -/
theorem wp_driveRound (started : UInt32) (acquireMoving : Bool) {s : Robot} (hs : Inv s)
    (hactive : s.drive.active = true) :
    wp (robotMotion.driveRound started acquireMoving) (fun _ t => Inv t) Inv s := by
  unfold MotionLayer.driveRound
  rw [wp_bind]
  refine wp_mono (wp_motionDriveUpdate hs hactive) ?_ fun t ht => ht
  intro ok t ht
  have hsleep : Leads Safe (robotMotion.driveActive >>= fun active =>
      if active = true then robotMotion.sleepMs >>= fun _ => pure (none : Option Bool)
      else pure none) Inv := by
    apply Leads.silent steady_safe silent_motionDriveActive
    intro active
    refine Leads.ite ?_ fun _ => Leads.pure _ fun s hs => hs.toInv
    intro _
    exact leads_sleepMs.bind fun _ => Leads.pure _ fun s hs => hs.toInv
  refine (Leads.ite (fun _ => Leads.pure _ fun s hs => hs.toInv) ?_) t ht
  intro _
  apply ((leads_runCanContinue started).mono (fun s hs => hs.toInv) fun s hs => hs).bind
  intro _
  apply Leads.ite (fun _ => Leads.pure _ fun s hs => hs.toInv)
  intro _
  refine Leads.ite ?_ fun _ => hsleep
  intro _
  have hpoll := leads_wifiSamplerPollMoving (leads_runCanContinue started)
  apply (hpoll.mono (fun s hs => hs.toInv) fun s hs => hs).bind
  intro _
  exact Leads.ite (fun _ => Leads.pure _ fun s hs => hs.toInv) fun _ => hsleep

/-- The loop of a block polls STOP between the updates of its drive. -/
theorem leads_driveLoop (started : UInt32) (acquireMoving : Bool) :
    Leads Inv (robotMotion.driveLoop started acquireMoving) Inv := by
  refine Leads.loop steady_inv ?_ ()
  intro _ s hs
  refine wp_bind.mpr (wp_motionDriveActive.mpr ?_)
  cases hactive : s.drive.active with
  | false => exact hs
  | true =>
    simp only [Bool.not_true, Bool.false_eq_true, if_false]
    rw [wp_bind]
    refine wp_mono (wp_driveRound started acquireMoving hs hactive) ?_ fun t ht => ht
    intro result t ht
    cases result with
    | none => exact ht
    | some ok => exact ht

/-- **`translate_block`** drives and settles under the law. -/
theorem leads_driveBlock (started : UInt32) (forwards : Bool) (duration : UInt32)
    (heading : Float32) (acquireMoving : Bool) :
    Leads Inv (robotMotion.driveBlock started forwards duration heading acquireMoving) Inv := by
  apply (leads_motionDriveStart forwards duration heading).bind
  intro _
  apply Leads.ite (fun _ => Leads.pure _ fun s hs => hs)
  intro _
  apply (leads_driveLoop started acquireMoving).bind
  intro ok
  apply (leads_motionStop.mono (fun s hs => hs) fun s hs => hs.toInv).bind
  intro _
  refine Leads.bind (T := Inv) ?_ fun actual => leads_motionDriveFinish.bind fun finished => ?_
  · apply Leads.get
    intro s hs
    refine (Leads.ite ?_ fun _ => Leads.pure _ fun s hs => hs) s hs
    intro _
    exact Leads.silent steady_inv silent_nowMs fun now => Leads.pure _ fun s hs => hs
  have hquiesce := leads_wifiSamplerQuiesce (leads_runCanContinue started)
  exact hquiesce.bind fun _ => Leads.pure _ fun s hs => hs.toInv

/-! ## Every run -/

/-- What the firmware does with the motors. -/
inductive Operation
  | init
  | armStop
  | stop
  | stopRequested
  | calibrate
  | learnDirection
  | turnTo (heading : Float32)
  | turnBy (degrees : Float32)
  | pause (duration : UInt32)
  | drive (forwards : Bool) (duration : UInt32) (heading : Float32)
  | driveStart (forwards : Bool) (duration : UInt32) (heading : Float32)
  | driveUpdate
  | driveFinish
  | canContinue (started : UInt32)
  | block (started : UInt32) (forwards : Bool) (duration : UInt32) (heading : Float32)
      (acquireMoving : Bool)
  | sample (started : UInt32)
  | quiesce (started : UInt32)

/-- One operation, whatever its result. -/
def Operation.perform : Operation → Cmd Robot Unit
  | .init => motionInit >>= fun _ => pure ()
  | .armStop => motionArmStop
  | .stop => motionStop
  | .stopRequested => stopPressed >>= fun _ => pure ()
  | .calibrate => motionCalibrate >>= fun _ => pure ()
  | .learnDirection => motionLearnDirection >>= fun _ => pure ()
  | .turnTo heading => turnToHeading heading >>= fun _ => pure ()
  | .turnBy degrees => turnDegrees degrees >>= fun _ => pure ()
  | .pause duration => pauseChecked duration >>= fun _ => pure ()
  | .drive forwards duration heading => motionDrive forwards duration heading >>= fun _ => pure ()
  | .driveStart forwards duration heading =>
    motionDriveStart forwards duration heading >>= fun _ => pure ()
  | .driveUpdate => motionDriveUpdate >>= fun _ => pure ()
  | .driveFinish => motionDriveFinish >>= fun _ => pure ()
  | .canContinue started => robotMotion.runCanContinue started >>= fun _ => pure ()
  | .block started forwards duration heading acquireMoving =>
    robotMotion.driveBlock started forwards duration heading acquireMoving >>= fun _ => pure ()
  | .sample started => wifiSamplerSample (robotMotion.runCanContinue started) >>= fun _ => pure ()
  | .quiesce started => wifiSamplerQuiesce (robotMotion.runCanContinue started) >>= fun _ => pure ()

/-- One operation after the other. -/
def performAll : List Operation → Cmd Robot Unit
  | [] => pure ()
  | op :: ops => do
    op.perform
    performAll ops

/-- The robot is switched on: STOP is not armed, no fault is raised, and nothing is noted. -/
def boot (s : Robot) : Robot := { s with stopArmed := false, faults := ∅, events := [] }

/-- **Every operation** keeps the invariant. -/
theorem leads_perform (op : Operation) : Leads Inv op.perform Inv := by
  -- the result does not matter
  have ignore {α : Type} {c : Cmd Robot α} (hc : Leads Inv c Inv) :
      Leads Inv (c >>= fun _ => (pure () : Cmd Robot Unit)) Inv :=
    hc.bind fun _ => Leads.pure _ fun s hs => hs
  have secured {α : Type} {c : Cmd Robot α} (hc : Leads Inv c Safe) : Leads Inv c Inv :=
    hc.mono (fun s hs => hs) fun s hs => hs.toInv
  cases op with
  | init => exact ignore leads_motionInit
  | armStop => exact leads_motionArmStop
  | stop => exact leads_motionStop.mono (fun s hs => hs) fun s hs => hs.toInv
  | stopRequested => exact ignore leads_stopPressed
  | calibrate => exact ignore leads_motionCalibrate
  | learnDirection => exact ignore leads_motionLearnDirection
  | turnTo heading => exact ignore (leads_turnToHeading heading)
  | turnBy degrees => exact ignore (leads_turnDegrees degrees)
  | pause duration => exact ignore (leads_pauseChecked duration)
  | drive forwards duration heading => exact ignore (leads_motionDrive forwards duration heading)
  | driveStart forwards duration heading =>
    exact ignore (leads_motionDriveStart forwards duration heading)
  | driveUpdate => exact ignore leads_motionDriveUpdate
  | driveFinish => exact ignore leads_motionDriveFinish
  | canContinue started => exact ignore (secured (leads_runCanContinue started))
  | block started forwards duration heading acquireMoving =>
    exact ignore (leads_driveBlock started forwards duration heading acquireMoving)
  | sample started =>
    exact ignore (secured (leads_wifiSamplerSample (leads_runCanContinue started)))
  | quiesce started =>
    exact ignore (secured (leads_wifiSamplerQuiesce (leads_runCanContinue started)))

/-- Any list of operations keeps the law, by induction on the list. -/
theorem leads_performAll (ops : List Operation) : Leads Inv (performAll ops) Inv := by
  induction ops with
  | nil => exact Leads.pure _ fun s hs => hs
  | cons op ops ih => exact (leads_perform op).bind fun _ => ih

/-- The law holds at boot. -/
theorem inv_boot (s : Robot) : Inv (boot s) := by
  refine ⟨True.intro, ?_, fun harmed => absurd harmed nofun⟩
  rintro ⟨low, hmem⟩
  cases hmem

/-- **The STOP latch**: in every run of the operations, whenever GP21 is pressed and for however
long, the notes obey the law, and the latch remembers a press that has been observed. -/
theorem performAll_lawful (ops : List Operation) (s : Robot) :
    let run := (exec (performAll ops) (boot s)).2
    Lawful run.events ∧ (Observed run.events → Fault.stopLatched ∈ run.faults) := by
  intro run
  have hinv : Inv run := always (leads_performAll ops (boot s) (inv_boot s))
  exact ⟨hinv.law, hinv.latched⟩

end Robot
