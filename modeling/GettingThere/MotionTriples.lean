/-
# What the functions of `motion.c` keep

Every function of `motion.c` keeps a condition (`Discipline`), and those that drive or turn keep
it if it allows power.  The motors are powered by `motors_set` only, and every line of the report
comes after a cut: a failed read of the gyro turns the motors off before anything is said about
it, and so does each way in which a drive or a turn can fail.
-/
import GettingThere.MotionRules

open CrashLogic

namespace Robot

/-! ## Gyro -/

section Gyro

/-- Normalising an angle is neutral. -/
theorem neutral_normaliseDegrees (angle : Float32) : Neutral (normaliseDegrees angle) := by
  have hstep {b : Prop} [Decidable b] (x y : Float32) :
      Neutral (if b then pure (.inl x) else pure (.inr y) : Cmd Robot (Float32 ⊕ Float32)) :=
    Steps.ite (Steps.pure _) (Steps.pure _)
  exact (steps_loop (fun _ => hstep _ _) _).bind fun _ => steps_loop (fun _ => hstep _ _) _

/-- Reading the gyro is neutral. -/
theorem neutral_readGyroDps : Neutral readGyroDps :=
  (neutral_ask _).bind fun _ => Steps.look fun _ => Steps.pure _

/-- A sensor is asked again without a word of the report. -/
theorem neutral_recoverAttempts (timed : Bool) (n : ℕ) : Neutral (recoverAttempts timed n) := by
  induction n with
  | zero => exact Steps.pure _
  | succ n ih =>
    refine neutral_stopPressed.bind fun _ => Steps.ite (Steps.pure _) ?_
    refine (neutral_ask _).bind fun verified => neutral_stopPressed.bind fun _ => ?_
    apply Steps.ite (Steps.pure _)
    apply Steps.ite ih
    apply neutral_readGyroDps.bind
    rintro (_ | z)
    · exact ih
    · have htime : Neutral (sampleTime timed) := by
        cases timed with
        | true => exact neutral_ask _
        | false => exact Steps.pure _
      refine htime.bind fun us => neutral_stopPressed.bind fun _ => ?_
      exact Steps.ite (Steps.pure _) (Steps.pure _)

variable {J B : Robot → Prop} {p : Prop} (hB : Discipline J B)
include hB

/-- Cutting the power turns the motors off. -/
theorem cuts_cutPower : Cuts J B cutPower := by
  intro p
  refine triple_look fun s _ => Triple.ite (fun _ => ?_) fun _ => ?_
  · exact cuts_stopDrive hB p
  · exact cuts_motorsStop hB p

/-- **A recovered gap** is counted, and there are two at most. -/
theorem triple_acceptGap (z : Float32) (gap : UInt64) :
    Triple J (fun s => Held B True s ∧ s.movingRecoveries < 2) (acceptGap z gap) fun _ =>
      Held B True := by
  intro s hs
  have halike : Alike s { s with gyroUncertaintyDegrees :=
      s.gyroUncertaintyDegrees + (1000 + magnitude z) * gap.toFloat32 / 1000000 } :=
    ⟨rfl, rfl, rfl, rfl, rfl, rfl, rfl, rfl, id⟩
  unfold acceptGap
  rw [wp_bind, wp_get, wp_bind, wp_modify]
  have hheld := hB.held halike hs.1
  split
  · exact hB.fault (by decide) false _ hheld
  · exact ⟨hB.gap _ hs.2 hheld.base, hheld.off⟩

/-- **A sensor asked again**: only a drive counts a gap, and it has checked their number. -/
theorem triple_retryMotionGyro (motion : Movement) (previousUs : UInt64) :
    Triple J (fun s => Held B True s ∧ (motion = .drive → s.movingRecoveries < 2))
      (retryMotionGyro motion previousUs) fun _ => Held B True := by
  intro s hs
  unfold retryMotionGyro
  rw [wp_bind]
  refine wp_mono (neutral_recoverAttempts true 2 s) ?_ fun t ht =>
    hB.safe t (hB.alike s t ht hs.1.base)
  intro r t ht
  have hheld := hB.held ht hs.1
  rcases r with _ | ⟨z, us⟩
  · exact hB.fault (by decide) none t hheld
  dsimp only
  split
  · rename_i hdrive
    have hfew : t.movingRecoveries < 2 := ht.movingRecoveries ▸ hs.2 hdrive
    refine ((triple_acceptGap hB z _).bind fun ok => Triple.ite (fun _ => ?_) fun _ => ?_) t
      ⟨hheld, hfew⟩
    · exact triple_return none
    · exact triple_return _
  · exact hheld

/-- **A failed read** turns the motors off before anything is reported. -/
theorem cuts_recoverMotionGyro (motion : Movement) (previousUs : UInt64) :
    Cuts J B (recoverMotionGyro motion previousUs) := by
  intro p
  refine (cuts_cutPower hB).andThen fun _ => Triple.look fun s _ => Triple.ite (fun _ => ?_) ?_
  · exact (hB.fault (by decide) none).before fun _ h => h.1
  · intro hgo
    refine (triple_retryMotionGyro hB motion previousUs).before ?_
    rintro t ⟨ht, rfl⟩
    exact ⟨ht, fun hdrive => Nat.lt_of_not_le fun htwo => hgo (.inr ⟨hdrive, htwo⟩)⟩

/-- **A sample**: without one the motors are off. -/
theorem triple_readMotionGyro (previousUs : UInt64) (motion : Movement) :
    Triple J (Held B p) (readMotionGyro previousUs motion) fun r => Held B (p ∨ r = none) := by
  have hnone {α : Type} : Triple J (Held B True) (pure (none : Option α)) fun r =>
      Held B (p ∨ r = none) := Triple.pure _ fun _ h => h.any
  have hsome {α : Type} {r : α} {s : Robot} (h : Held B p s) : Held B (p ∨ some r = none) s := by
    refine ⟨h.base, ?_⟩
    rintro (hp | hfalse)
    · exact h.off hp
    · cases hfalse
  refine hB.andThen neutral_stopPressed fun stopped => Triple.ite (fun _ => ?_) fun _ => ?_
  · exact (cuts_motorsStop hB).andThen fun _ => hnone
  have hsample : Triple J (Held B p) (sampleMotionGyro previousUs motion) fun r =>
      Held B (p ∨ r = none) := by
    apply hB.andThen neutral_readGyroDps
    rintro (_ | z)
    · exact (cuts_recoverMotionGyro hB motion previousUs p).after fun _ _ h => h.any
    · exact hB.andThen (neutral_ask _) fun us => Triple.pure _ fun _ h => hsome h
  apply hsample.bind
  rintro (_ | ⟨z, us⟩)
  · exact Triple.pure _ fun _ h => h
  refine Triple.ite (fun _ => ?_) fun _ => ?_
  · refine (cuts_motorsStop hB).andThen fun _ => hB.andThen (neutral_faultRaise (by decide)) ?_
    exact fun _ => hB.afterLine hnone
  · refine hB.change (fun _ => ?_) fun _ => Triple.pure _ fun _ h => ?_
    · exact ⟨rfl, rfl, rfl, rfl, rfl, rfl, rfl, rfl, id⟩
    · exact ⟨h.base, fun hp => h.off (hp.imp_right fun hfalse => nomatch hfalse)⟩

/-- With the motors off they stay off. -/
theorem triple_readStopped (previousUs : UInt64) (motion : Movement) :
    Triple J (Held B True) (readMotionGyro previousUs motion) fun _ => Held B True :=
  (triple_readMotionGyro hB previousUs motion).after fun _ _ h =>
    ⟨h.base, fun _ => h.off (.inl trivial)⟩

/-- The settling after a movement keeps the condition. -/
theorem triple_settleMotion (motion : Movement) (previousUs : UInt64) :
    Triple J (Held B True) (settleMotion motion previousUs) fun _ => Held B True := by
  refine hB.andThen neutral_nowMs fun start => ?_
  have hloop : Triple J (Held B True) (settleFrom start motion previousUs) fun _ =>
      Held B True := by
    refine hB.loop (fun us => hB.andThen neutral_nowMs fun now => Triple.ite ?_ ?_) _
    · exact fun _ => triple_return _
    intro _
    apply (triple_readStopped hB us motion).bind
    rintro (_ | ⟨z, us⟩)
    · exact triple_return _
    · exact hB.andThen neutral_sleepMs fun _ => triple_return _
  apply hloop.bind
  rintro ⟨us, ok⟩
  refine Triple.ite (fun _ => triple_return _) fun _ => ?_
  apply (triple_readStopped hB us motion).bind
  rintro (_ | ⟨z, us⟩)
  · exact triple_return _
  · exact triple_return _

end Gyro

/-! ## Drives -/

section Drives

/-- A refused drive is neutral. -/
theorem neutral_driveRefused (durationMs : UInt32) : Neutral (driveRefused durationMs) := by
  refine Steps.look fun _ => Steps.ite (Steps.pure _) ?_
  exact neutral_stopPressed.bind fun _ => Steps.ite (Steps.pure _) (Steps.pure _)

/-- Asking whether a drive is active is neutral. -/
theorem neutral_motionDriveActive : Neutral motionDriveActive := Steps.look fun _ => Steps.pure _

/-- Asking how long a drive has run is neutral. -/
theorem neutral_motionDriveElapsedMs : Neutral motionDriveElapsedMs :=
  Steps.look fun _ => Steps.ite (neutral_nowMs.bind fun _ => Steps.pure _) (Steps.pure _)

variable {J B : Robot → Prop} {p : Prop} (hB : Discipline J B)
include hB

/-- **The start of a drive** from a robot that stands still: a drive that does not start leaves
it so. -/
theorem triple_motionDriveStart (hpower : Powers B) (forwards : Bool) (durationMs : UInt32)
    (headingDegrees : Float32) :
    Triple J (Held B True) (motionDriveStart forwards durationMs headingDegrees) fun ok =>
      Held B (ok = false) := by
  have hrefuse : Triple J (Held B True) (pure false) fun ok => Held B (ok = false) :=
    Triple.pure _ fun _ h => h.any
  refine hB.andThen (neutral_driveRefused durationMs) fun refused => Triple.ite (fun _ => ?_) ?_
  · exact (cuts_stopDrive hB).andThen fun _ => hrefuse
  intro _
  refine hB.andThen (neutral_ask _) fun us => (triple_readStopped hB us .preDrive).bind ?_
  rintro (_ | r)
  · exact hrefuse
  refine triple_look fun s _ => hB.andThen (neutral_normaliseDegrees _) fun error => ?_
  refine Triple.ite (fun _ => ?_) fun _ => ?_
  · exact hB.andThen (neutral_faultRaise (by decide)) fun _ => hB.afterLine hrefuse
  refine hB.afterLine (hB.andThen neutral_nowMs fun startedMs => hB.andThen (neutral_ask _) ?_)
  intro previousUs
  refine hB.change (fun _ => ?_) fun _ => (triple_motorsSet hB hpower _ _).bind fun _ => ?_
  · exact ⟨rfl, rfl, rfl, rfl, rfl, rfl, rfl, rfl, id⟩
  · exact Triple.pure _ fun _ h => ⟨h.base, fun hok => absurd hok (by decide)⟩

/-- A failed drive turns the motors off. -/
theorem cuts_failDrive : Cuts J B failDrive := fun _ =>
  (cuts_stopDrive hB).andThen fun _ => hB.neutral
    (Steps.modify fun _ => ⟨rfl, rfl, rfl, rfl, rfl, rfl, rfl, rfl, id⟩)

/-- **A step of a drive**: whatever fails, the motors are off before it is reported. -/
theorem triple_motionDriveUpdate (hpower : Powers B) :
    Triple J (Held B False) motionDriveUpdate fun _ => Held B False := by
  have hcut (ok : Bool) : Triple J (Held B True) (pure ok) fun _ => Held B False :=
    Triple.pure _ fun _ h => h.any
  refine triple_look fun s _ => Triple.ite (fun _ => ?_) fun _ => triple_return _
  refine triple_look fun s _ => (triple_readMotionGyro hB _ .drive).bind ?_
  rintro (_ | ⟨z, us⟩)
  · exact (cuts_failDrive hB _).bind fun _ => hcut false
  refine Triple.before (fun _ h => h.on) ?_
  refine hB.change (fun _ => ?_) fun _ => triple_look fun s _ => ?_
  · exact ⟨rfl, rfl, rfl, rfl, rfl, rfl, rfl, rfl, id⟩
  refine hB.andThen (neutral_normaliseDegrees _) fun yawError => Triple.ite (fun _ => ?_) ?_
  · refine (cuts_failDrive hB).andThen fun _ => hB.andThen (neutral_faultRaise (by decide)) ?_
    exact fun _ => hB.afterLine (hcut false)
  intro _
  refine Triple.ite (fun _ => triple_return _) fun _ => hB.andThen neutral_nowMs fun now => ?_
  refine Triple.ite (fun _ => (cuts_stopDrive hB).andThen fun _ => hcut true) fun _ => ?_
  refine hB.change (fun _ => ?_) fun _ => (triple_motorsSet hB hpower _ _).bind fun _ => ?_
  · exact ⟨rfl, rfl, rfl, rfl, rfl, rfl, rfl, rfl, id⟩
  · exact triple_return true

/-- **The end of a drive** is a cut. -/
theorem cuts_motionDriveFinish : Cuts J B motionDriveFinish := by
  intro p
  refine (cuts_stopDrive hB).andThen fun _ => triple_look fun s _ => Triple.ite ?_ ?_
  · exact fun _ => triple_return _
  intro _
  refine hB.change (fun _ => ?_) fun _ => Triple.ite (fun _ => triple_return _) fun _ => ?_
  · exact ⟨rfl, rfl, rfl, rfl, rfl, rfl, rfl, rfl, id⟩
  refine hB.andThen neutral_stopPressed fun _ => Triple.ite (fun _ => triple_return _) fun _ => ?_
  refine (triple_settleMotion hB .drive _).bind fun settled => ?_
  refine hB.change (fun _ => ?_) fun _ => Triple.ite (fun _ => triple_return _) fun _ => ?_
  · exact ⟨rfl, rfl, rfl, rfl, rfl, rfl, rfl, rfl, id⟩
  refine triple_look fun s _ => hB.andThen (neutral_normaliseDegrees _) fun yawError => ?_
  exact Triple.ite (fun _ => hB.fault (by decide) _) fun _ => hB.afterLine (triple_return true)

end Drives

/-! ## Turns -/

section Turns

/-- Learning the sign is neutral. -/
theorem neutral_learnSign (g : Segment) (z : Float32) : Neutral (learnSign g z) := by
  refine Steps.look fun _ => Steps.ite (Steps.pure _) (Steps.ite ?_ (Steps.pure _))
  refine Steps.bind (Steps.modify fun _ => ?_) fun _ => Steps.pure _
  exact ⟨rfl, rfl, rfl, rfl, rfl, rfl, rfl, rfl, id⟩

/-- Computing the error of a turn is neutral. -/
theorem neutral_turnError (degrees startHeading : Float32) :
    Neutral (turnError degrees startHeading) := Steps.look fun _ => Steps.pure _

/-- Asking for the heading is neutral. -/
theorem neutral_motionHeading : Neutral motionHeading := Steps.look fun _ => Steps.pure _

variable {J B : Robot → Prop} {p : Prop} (hB : Discipline J B)
include hB

/-- **A turn that fails** is a cut. -/
theorem cuts_failTurn {f : Fault} (hf : f ≠ .profile) : Cuts J B (failTurn f) := fun _ =>
  (cuts_motorsStop hB).andThen fun _ => hB.andThen (neutral_faultRaise hf) fun _ => hB.reportPrintf

/-- **A round of a turn**: a turn that is given up has been cut. -/
theorem triple_turnStep (hpower : Powers B) (g : Segment) :
    Triple J (Held B False) (turnStep g) fun r => Held B (r = .inr none) := by
  have hgo (r : Segment ⊕ Option UInt64) (hr : r ≠ .inr none) :
      Triple J (Held B False) (pure r) fun r => Held B (r = .inr none) :=
    Triple.pure r fun _ h => ⟨h.base, fun hnone => absurd hnone hr⟩
  have hfail {f : Fault} (hf : f ≠ .profile) :
      Triple J (Held B False) (do failTurn f; return .inr none)
        fun r : Segment ⊕ Option UInt64 => Held B (r = .inr none) :=
    (cuts_failTurn hB hf).andThen fun _ => Triple.pure _ fun _ h => h.any
  refine hB.andThen neutral_nowMs fun now => Triple.ite (fun _ => hfail (by decide)) fun _ => ?_
  apply (triple_readMotionGyro hB g.previousUs .turn).bind
  rintro (_ | ⟨z, us⟩)
  · exact Triple.pure _ fun _ h => ⟨h.base, fun _ => h.off (.inr rfl)⟩
  refine Triple.before (fun _ h => h.on) ?_
  refine hB.andThen (neutral_learnSign _ z) fun g => triple_look fun s _ => ?_
  refine Triple.ite (fun _ => hgo _ (by simp)) fun _ => Triple.ite (fun _ => hfail (by decide)) ?_
  intro _
  refine hB.andThen neutral_nowMs fun now => Triple.ite (fun _ => hfail (by decide)) fun _ => ?_
  have hpowered (duty : ℤ) : Triple J (Held B False) (do
      motorsSet (-g.direction * duty) (g.direction * duty)
      sleepMs
      return .inl g) fun r : Segment ⊕ Option UInt64 => Held B (r = .inr none) :=
    (triple_motorsSet hB hpower _ _).bind fun _ =>
      hB.andThen neutral_sleepMs fun _ => hgo _ (by simp)
  refine Triple.ite (fun _ => hB.andThen neutral_nowMs fun now => ?_) fun _ => hpowered _
  exact Triple.ite (fun _ => hgo _ (by simp)) fun _ => hpowered _

/-- **The attempts of a turn**: after the last one the motors are off. -/
theorem triple_turnAttempts (hpower : Powers B) (degrees startHeading : Float32)
    (startMs : UInt32) (n attempt : ℕ) (previousUs : UInt64) :
    Triple J (Held B True) (turnAttempts degrees startHeading startMs n attempt previousUs)
      fun _ => Held B True := by
  induction n generalizing attempt previousUs with
  | zero => exact (cuts_failTurn hB (by decide)).andThen fun _ => triple_return _
  | succ n ih =>
    refine hB.andThen (neutral_turnError _ _) fun error => triple_look fun s _ => ?_
    refine Triple.ite (fun _ => triple_return _) fun _ => hB.andThen neutral_nowMs ?_
    refine fun segmentMs => (triple_motorsSet hB hpower _ _).bind fun _ => ?_
    have hloop (g : Segment) : Triple J (Held B False) (loop turnStep g) fun left =>
        Held B (left = none) := by
      apply triple_loop (I := fun _ => Held B False) fun _ s h => hB.safe s h.base
      intro g
      apply (triple_turnStep hB hpower g).after
      rintro (g | left) s hs
      · exact hs.on
      · exact ⟨hs.base, fun hleft => hs.off (by rw [hleft])⟩
    apply (hloop _).bind
    rintro (_ | us)
    · exact Triple.pure _ fun _ h => ⟨h.base, fun _ => h.off rfl⟩
    refine (cuts_motorsStop hB).andThen fun _ => (triple_settleMotion hB .turn us).bind ?_
    intro settled
    refine Triple.ite (fun _ => triple_return _) fun _ => hB.andThen (neutral_turnError _ _) ?_
    intro error
    exact hB.afterLine (Triple.ite (fun _ => triple_return true) fun _ => ih _ _)

/-- A turn by an angle keeps a condition that allows power. -/
theorem triple_turnDegrees (hpower : Powers B) (degrees : Float32) :
    Triple J (Held B True) (turnDegrees degrees) fun _ => Held B True := by
  refine hB.andThen neutral_stopPressed fun _ => Triple.ite (fun _ => ?_) fun _ => ?_
  · exact (cuts_motorsStop hB).andThen fun _ => triple_return _
  refine Triple.ite (fun _ => triple_return _) fun _ => hB.andThen (neutral_ask _) ?_
  intro preflightUs
  apply (triple_readStopped hB preflightUs .preTurn).bind
  rintro (_ | r)
  · exact triple_return _
  refine triple_look fun s _ => hB.andThen neutral_nowMs fun startMs => ?_
  exact hB.andThen (neutral_ask _) fun previousUs => triple_turnAttempts hB hpower _ _ _ _ _ _

/-- A turn to a heading keeps such a condition. -/
theorem triple_turnToHeading (hpower : Powers B) (headingDegrees : Float32) :
    Triple J (Held B True) (turnToHeading headingDegrees) fun _ => Held B True := by
  refine triple_look fun s _ => Triple.ite (fun _ => triple_return _) fun _ => ?_
  exact hB.andThen (neutral_normaliseDegrees _) fun error => triple_turnDegrees hB hpower error

/-- Learning the direction keeps such a condition. -/
theorem triple_motionLearnDirection (hpower : Powers B) :
    Triple J (Held B True) motionLearnDirection fun _ => Held B True := by
  have hturns : Triple J (Held B True) learnTurns fun _ => Held B True :=
    (triple_turnDegrees hB hpower 15).bind fun _ =>
      Triple.ite (fun _ => triple_return _) fun _ => triple_turnToHeading hB hpower 0
  refine hB.afterLine (hturns.bind fun ok => (cuts_motorsStop hB).andThen fun _ => Triple.ite ?_ ?_)
  · exact fun _ => hB.afterLine (triple_return _)
  · exact fun _ => triple_return _

end Turns

/-! ## Startup -/

section Startup

/-- A reading of the calibration is neutral. -/
theorem neutral_calibrateReading : Neutral calibrateReading := by
  apply neutral_readGyroDps.bind
  rintro (_ | z)
  · exact (neutral_recoverAttempts false 2).bind fun _ => Steps.pure _
  · exact Steps.pure _

/-- Arming STOP is neutral. -/
theorem neutral_motionArmStop : Neutral motionArmStop := by
  refine Steps.bind (Steps.modify fun _ => ?_) fun _ => (neutral_note _).bind fun _ => ?_
  · exact ⟨rfl, rfl, rfl, rfl, rfl, rfl, rfl, rfl, id⟩
  · exact neutral_stopPressed.bind fun _ => Steps.pure _

variable {J B : Robot → Prop} {p : Prop} (hB : Discipline J B)
include hB

/-- The readings of the calibration keep the condition, by induction on the readings that are left.
-/
theorem triple_calibrateReadings (n : ℕ) (sum : Float32) :
    Triple J (Held B True) (calibrateReadings n sum) fun _ => Held B True := by
  induction n generalizing sum with
  | zero =>
    refine hB.change (fun _ => ?_) fun _ => hB.afterLine (triple_return _)
    exact ⟨rfl, rfl, rfl, rfl, rfl, rfl, rfl, rfl, id⟩
  | succ n ih =>
    apply hB.andThen neutral_calibrateReading
    rintro (_ | z)
    · exact hB.andThen (neutral_faultRaise (by decide)) fun _ => triple_return _
    · refine (triple_pauseChecked hB 10).bind fun _ => Triple.ite (fun _ => triple_return _) ?_
      exact fun _ => ih _

/-- The count of the recovered gaps is set back, with other statics. -/
theorem triple_reset (hreset : Resets B) {g : Robot → Robot}
    (hg : ∀ s, Alike { s with movingRecoveries := 0 } (g s)) :
    Triple J (Held B p) (modify g) fun _ => Held B p :=
  fun s h => hB.held (hg s) ⟨hreset s h.base, h.off⟩

/-- The calibration turns the motors off first. -/
theorem cuts_motionCalibrate (hreset : Resets B) : Cuts J B motionCalibrate := by
  intro p
  refine (cuts_motionStop hB).andThen fun _ => (triple_reset hB hreset fun _ => ?_).bind fun _ => ?_
  · exact ⟨rfl, rfl, rfl, rfl, rfl, rfl, rfl, rfl, id⟩
  refine hB.afterLine (hB.change (fun _ => ?_) fun _ => triple_calibrateReadings hB _ _)
  exact ⟨rfl, rfl, rfl, rfl, rfl, rfl, rfl, rfl, id⟩

/-- **The motors are off** from the first command of `main` on. -/
theorem cuts_motionInit (hreset : Resets B) : Cuts J B motionInit := by
  intro p
  have hinit : Triple J (Held B False) motorsInit fun _ => Held B True :=
    (triple_pwmSetGpioLevel hB _ 0).bind fun _ => (triple_pwmSetGpioLevel hB _ 0).bind fun _ =>
      (triple_pwmSetGpioLevel hB _ 0).bind fun _ => (triple_pwmSetGpioLevel hB _ 0).bind fun _ =>
        cuts_motorsStop hB _
  refine (hinit.before fun _ h => h.on).bind fun _ => (triple_reset hB hreset fun _ => ?_).bind ?_
  · exact ⟨rfl, rfl, rfl, rfl, rfl, rfl, rfl, rfl, id⟩
  refine fun _ => hB.andThen (neutral_ask _) fun ok => Triple.ite (fun _ => ?_) fun _ => ?_
  · exact hB.fault (by decide) _
  · refine hB.afterLine (hB.andThen (neutral_faultClear _) fun _ => ?_)
    exact hB.afterLine (triple_return _)

end Startup

end Robot
