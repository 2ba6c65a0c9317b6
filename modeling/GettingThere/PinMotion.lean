/-
# The motor pins under `motion.c`

One rule for each function of `motion.c`: a drive leads from a stop to a drive and stays there, its
steering never reverses a wheel, and its end halts; a turn leads from a stop to a stop, and between
them it has one direction for each attempt.
-/
import GettingThere.PinLaw

open CrashLogic

namespace Robot

variable {c : Course} {speed : ℤ}

/-! ## Gyro -/

/-- An angle is normalised without a write to the pins. -/
theorem stays_normaliseDegrees (angle : Float32) : Stays (normaliseDegrees angle) := by
  refine (Stays.loop (fun a => ?_) angle).bind fun a => Stays.loop (fun a => ?_) a
  · exact Stays.ite (Stays.pure _) (Stays.pure _)
  · exact Stays.ite (Stays.pure _) (Stays.pure _)

/-- Reading the gyro writes no pin. -/
theorem stays_readGyroDps : Stays readGyroDps :=
  (stays_ask _).bind fun _ => Stays.look fun _ => Stays.pure _

/-- The attempts to recover the gyro write no pin. -/
theorem stays_recoverAttempts (timed : Bool) (n : ℕ) : Stays (recoverAttempts timed n) := by
  induction n with
  | zero => exact Stays.pure _
  | succ n ih =>
    refine stays_stopPressed.bind fun _ => Stays.ite (Stays.pure _) ?_
    refine (stays_ask _).bind fun _ => stays_stopPressed.bind fun _ => Stays.ite (Stays.pure _) ?_
    refine Stays.ite ih (stays_readGyroDps.bind fun z => ?_)
    cases z with
    | none => exact ih
    | some z =>
      have htime : Stays (sampleTime timed) := Stays.ite (stays_ask _) (Stays.pure _)
      exact htime.bind fun _ => stays_stopPressed.bind fun _ =>
        Stays.ite (Stays.pure _) (Stays.pure _)

/-- Cutting the power stops the motors. -/
theorem halts_cutPower : Halts cutPower := fun speed =>
  Triple.look fun _ _ => Triple.before (fun _ h => h.1) <|
    Triple.ite (fun _ => halts_stopDrive speed) fun _ => halts_motorsStop speed

/-- Accepting a gap writes no pin. -/
theorem stays_acceptGap (z : Float32) (gap : UInt64) : Stays (acceptGap z gap) := by
  refine Stays.look fun s => (stays_modify ?_).bind fun _ => Stays.ite (stays_fault _ _) ?_
  · exact fun _ => ⟨rfl, rfl, rfl⟩
  · refine (stays_modify ?_).bind fun _ => Stays.pure _
    exact fun _ => ⟨rfl, rfl, rfl⟩

/-- A retry of the gyro keeps the course, or stops. -/
theorem stays_retryMotionGyro (motion : Movement) (previousUs : UInt64) :
    Stays (retryMotionGyro motion previousUs) := by
  refine (stays_recoverAttempts true 2).bind fun sample => ?_
  cases sample with
  | none => exact stays_fault _ _
  | some sample =>
    refine Stays.ite ?_ (Stays.pure _)
    exact (stays_acceptGap _ _).bind fun _ => Stays.ite (Stays.pure _) (Stays.pure _)

/-- **A failed read** stops the motors before the sensor is asked again. -/
theorem halts_recoverMotionGyro (motion : Movement) (previousUs : UInt64) :
    Halts (recoverMotionGyro motion previousUs) :=
  halts_cutPower.bind fun _ => Stays.look fun _ =>
    Stays.ite (stays_fault _ _) (stays_retryMotionGyro motion previousUs)

/-- **A sample** keeps the course; without one the motors are stopped. -/
theorem wired_readMotionGyro (previousUs : UInt64) (motion : Movement) :
    Triple Lawfully (Wired c speed) (readMotionGyro previousUs motion) fun r s =>
      Wired c speed s ∧ (r = none → Wired .stop speed s) := by
  have hnone {s : Robot} (h : Wired .stop speed s) {p : Prop} :
      Wired c speed s ∧ (p → Wired .stop speed s) := ⟨h.any, fun _ => h⟩
  have hsample : Triple Lawfully (Wired c speed) (sampleMotionGyro previousUs motion) fun r s =>
      Wired c speed s ∧ (r = none → Wired .stop speed s) := by
    apply (stays_readGyroDps c speed).bind
    rintro (_ | z)
    · exact (halts_recoverMotionGyro motion previousUs).from.after fun _ _ h => hnone h
    · exact (stays_ask _ c speed).bind fun us => Triple.pure _ fun _ h => ⟨h, nofun⟩
  refine (stays_stopPressed c speed).bind fun stopped => Triple.ite (fun _ => ?_) fun _ => ?_
  · exact halts_motorsStop.from.bind fun _ => Triple.pure _ fun _ h => hnone h
  apply hsample.bind
  rintro (_ | ⟨z, us⟩)
  · exact Triple.pure _ fun _ h => h
  refine Triple.ite (fun _ => ?_) fun _ => ?_
  · exact (halts_motorsStop.from.bind fun _ => stays_fault .gyroSaturated none .stop speed).before
      (fun _ h => h.1) |>.after fun _ _ h => hnone h
  · refine Triple.before (fun _ h => h.1) ((stays_modify ?_ c speed).bind fun _ => ?_)
    · exact fun _ => ⟨rfl, rfl, rfl⟩
    · exact Triple.pure _ fun _ h => ⟨h, nofun⟩

/-- A reading during a movement keeps the course, or stops. -/
theorem stays_readMotionGyro (previousUs : UInt64) (motion : Movement) :
    Stays (readMotionGyro previousUs motion) := fun _ _ =>
  (wired_readMotionGyro previousUs motion).after fun _ _ h => h.1

/-- The settling after a movement keeps the course, or stops. -/
theorem stays_settleMotion (motion : Movement) (previousUs : UInt64) :
    Stays (settleMotion motion previousUs) := by
  have hread (us : UInt64) {α : Type} {f : Option (Float32 × UInt64) → Cmd Robot α}
      (hf : ∀ r, Stays (f r)) : Stays (readMotionGyro us motion >>= f) :=
    (stays_readMotionGyro us motion).bind hf
  refine stays_nowMs.bind fun start => Stays.bind (Stays.loop (fun us => ?_) _) fun settled => ?_
  · refine stays_nowMs.bind fun now => Stays.ite (Stays.pure _) (hread us fun sample => ?_)
    cases sample with
    | none => exact Stays.pure _
    | some sample => exact stays_sleepMs.bind fun _ => Stays.pure _
  · refine Stays.ite (Stays.pure _) (hread _ fun sample => ?_)
    cases sample with
    | none => exact Stays.pure _
    | some sample => exact Stays.pure _

/-! ## Straight drives -/

/-- A refused drive keeps the course. -/
theorem stays_driveRefused (durationMs : UInt32) : Stays (driveRefused durationMs) := by
  refine Stays.look fun _ => Stays.ite (Stays.pure _) (stays_stopPressed.bind fun _ => ?_)
  exact Stays.ite (Stays.pure _) (Stays.pure _)

/-- Asking whether a drive is active writes no pin. -/
theorem stays_motionDriveActive : Stays motionDriveActive := Stays.look fun _ => Stays.pure _

/-- Asking how long it has run writes no pin. -/
theorem stays_motionDriveElapsedMs : Stays motionDriveElapsedMs :=
  Stays.look fun _ => Stays.ite (stays_nowMs.bind fun _ => Stays.pure _) (Stays.pure _)

/-- The duties at the start of a drive. -/
theorem duties_start (forwards : Bool) : Course.drive.Duties
    (if forwards then driveDutyPercent else -driveDutyPercent)
    (if forwards then driveDutyPercent else -driveDutyPercent)
    (if forwards then driveDutyPercent else -driveDutyPercent) := by
  unfold driveDutyPercent
  cases forwards with
  | true => exact ⟨.inl rfl, by decide, by decide, by decide⟩
  | false => exact ⟨.inr rfl, by decide, by decide, by decide⟩

/-- The steering takes 8 per cent at most. -/
theorem steeringAdjustment_bounds (v : ℤ) (yawError yawRate sign : Float32) :
    -8 ≤ steeringAdjustment v yawError yawRate sign ∧
      steeringAdjustment v yawError yawRate sign ≤ 8 := by
  unfold steeringAdjustment maxSteeringAdjustment
  dsimp only
  omega

/-- **The steering of a drive** keeps its course. -/
theorem duties_steered {v adjustment : ℤ} (hv : v = 35 ∨ v = -35) (hlow : -8 ≤ adjustment)
    (hhigh : adjustment ≤ 8) : Course.drive.Duties v (v + adjustment) (v - adjustment) := by
  refine ⟨hv, ?_, ?_, ?_⟩ <;> omega

/-- **The start of a drive** from a stop: a drive that does not start leaves the robot there. -/
theorem wired_motionDriveStart (forwards : Bool) (durationMs : UInt32) (headingDegrees : Float32) :
    Triple Lawfully (Wired .stop speed) (motionDriveStart forwards durationMs headingDegrees)
      fun ok s =>
        ∃ v, Wired (if ok then .drive else .stop) v s ∧ (ok = true → v = 35 ∨ v = -35) := by
  have hrefuse : Triple Lawfully (Wired .stop speed) (pure false) fun ok s =>
      ∃ v, Wired (if ok then .drive else .stop) v s ∧ (ok = true → v = 35 ∨ v = -35) :=
    Triple.pure _ fun _ h => ⟨speed, h, nofun⟩
  have hstop {α : Type} {cmd : Cmd Robot α} (h : Stays cmd) := h .stop speed
  refine (hstop (stays_driveRefused durationMs)).bind fun refused => Triple.ite (fun _ => ?_) ?_
  · exact (hstop halts_stopDrive.stays).bind fun _ => hrefuse
  refine fun _ => (hstop (stays_ask _)).bind fun us => ?_
  refine (hstop (stays_readMotionGyro us .preDrive)).bind fun sample => ?_
  cases sample with
  | none => exact hrefuse
  | some sample =>
    refine Triple.look fun s _ => Triple.before (fun _ h => h.1) ?_
    refine (hstop (stays_normaliseDegrees _)).bind fun error => Triple.ite (fun _ => ?_) fun _ => ?_
    · exact (hstop (stays_faultRaise _)).bind fun _ => (hstop stays_reportPrintf).bind fun _ =>
        hrefuse
    refine (hstop stays_reportPrintf).bind fun _ => (hstop stays_nowMs).bind fun startedMs => ?_
    refine (hstop (stays_ask _)).bind fun previousUs => ?_
    refine Triple.bind (M := fun _ => Wired .stop _) ?_ fun _ =>
      (wired_motorsSet_stop (duties_start forwards)).bind fun _ => ?_
    · exact fun _ h => ⟨h.law, h.known, h.pins, rfl⟩
    · refine Triple.pure _ fun _ h => ⟨_, h, fun _ => ?_⟩
      cases forwards with
      | true => exact .inl rfl
      | false => exact .inr rfl

/-- A failed drive stops the motors. -/
theorem halts_failDrive : Halts failDrive := by
  refine halts_stopDrive.bind fun _ => stays_modify ?_
  exact fun _ => ⟨rfl, rfl, rfl⟩

/-- **A step of a drive** keeps its course. -/
theorem wired_driveStep (hspeed : speed = 35 ∨ speed = -35) :
    Triple Lawfully (Wired .drive speed) driveStep fun _ => Wired .drive speed := by
  have hfail : Stays failDrive := halts_failDrive.stays
  have hdrive {α : Type} {cmd : Cmd Robot α} (h : Stays cmd) := h .drive speed
  have hend (ok : Bool) : Triple Lawfully (Wired .drive speed) (pure ok) fun _ =>
      Wired .drive speed := hdrive (Stays.pure ok)
  refine Triple.look fun s _ => Triple.before (fun _ h => h.1) ?_
  refine (hdrive (stays_readMotionGyro _ .drive)).bind fun sample => ?_
  cases sample with
  | none => exact (hdrive hfail).bind fun _ => hend false
  | some sample =>
    refine Triple.bind (hdrive (stays_modify ?_)) fun _ => Triple.look fun s hs => ?_
    · exact fun _ => ⟨rfl, rfl, rfl⟩
    refine Triple.before (fun _ h => h.1) ((hdrive (stays_normaliseDegrees _)).bind fun error => ?_)
    refine Triple.ite (fun _ => ?_) fun _ => Triple.ite (fun _ => hend true) fun _ => ?_
    · exact (hdrive hfail).bind fun _ => hdrive (stays_fault .heading false)
    refine (hdrive stays_nowMs).bind fun now => Triple.ite (fun _ => ?_) fun _ => ?_
    · exact (hdrive halts_stopDrive.stays).bind fun _ => hend true
    refine Triple.bind (hdrive (stays_modify ?_)) fun _ => ?_
    · exact fun _ => ⟨rfl, rfl, rfl⟩
    obtain ⟨hlow, hhigh⟩ :=
      steeringAdjustment_bounds s.drive.speed error sample.1 s.turnSign.toFloat
    rw [hs.speed_eq] at hlow hhigh ⊢
    exact (wired_motorsSet (duties_steered hspeed hlow hhigh)).bind fun _ => hend true

/-- An update of a drive keeps its speed, and corrects both sides by as much. -/
theorem wired_motionDriveUpdate (hspeed : speed = 35 ∨ speed = -35) :
    Triple Lawfully (Wired .drive speed) motionDriveUpdate fun _ => Wired .drive speed :=
  Triple.look fun _ _ => Triple.before (fun _ h => h.1) <|
    Triple.ite (fun _ => wired_driveStep hspeed) fun _ => Triple.pure _ fun _ h => h

/-- **The end of a drive** halts. -/
theorem halts_motionDriveFinish : Halts motionDriveFinish := by
  refine halts_stopDrive.bind fun _ => Stays.look fun s => Stays.ite (Stays.pure _) ?_
  refine Stays.bind (stays_modify ?_) fun _ => Stays.ite (Stays.pure _) ?_
  · exact fun _ => ⟨rfl, rfl, rfl⟩
  refine stays_stopPressed.bind fun _ => Stays.ite (Stays.pure _) ?_
  refine (stays_settleMotion .drive _).bind fun settled => Stays.bind (stays_modify ?_) fun _ => ?_
  · exact fun _ => ⟨rfl, rfl, rfl⟩
  refine Stays.ite (Stays.pure _) (Stays.look fun s => (stays_normaliseDegrees _).bind fun _ => ?_)
  exact Stays.ite (stays_fault _ _) (stays_reportPrintf.bind fun _ => Stays.pure _)

/-! ## Turns -/

/-- The command leads from a stop to a stop. -/
def Rests {α : Type} (cmd : Cmd Robot α) : Prop :=
  ∀ speed, Triple Lawfully (Wired .stop speed) cmd fun _ => Wired .stop speed

section Rests

variable {α β : Type} {cmd : Cmd Robot α} {f : α → Cmd Robot β}

/-- What keeps every course keeps a stop. -/
theorem Stays.rests (h : Stays cmd) : Rests cmd := h .stop

/-- From stop to stop, and on from there. -/
theorem Rests.bind (h : Rests cmd) (hf : ∀ a, Rests (f a)) : Rests (cmd >>= f) := fun speed =>
  (h speed).bind fun a => hf a speed

/-- Both ways lead from a stop to a stop. -/
theorem Rests.ite {p : Prop} [Decidable p] {a b : Cmd Robot α} (ha : Rests a) (hb : Rests b) :
    Rests (if p then a else b) := fun speed => Triple.ite (fun _ => ha speed) fun _ => hb speed

/-- The state is only looked at. -/
theorem Rests.look {f : Robot → Cmd Robot β} (hf : ∀ s, Rests (f s)) : Rests (get >>= f) :=
  fun speed => Triple.look fun t _ => (hf t speed).before fun _ h => h.1

end Rests

/-- A failed turn stops the motors. -/
theorem halts_failTurn (f : Fault) : Halts (failTurn f) :=
  halts_motorsStop.bind fun _ => (stays_faultRaise f).bind fun _ => stays_reportPrintf

/-- Computing the error of a turn writes no pin. -/
theorem stays_turnError (degrees startHeading : Float32) : Stays (turnError degrees startHeading) :=
  Stays.look fun _ => Stays.pure _

/-- The sign of the gyro is learnt, and the direction of the turn is kept. -/
theorem wired_learnSign (g : Segment) (z : Float32) :
    Triple Lawfully (Wired c speed) (learnSign g z) fun g' s =>
      Wired c speed s ∧ g'.direction = g.direction := by
  have hobserve : (g.observe z).direction = g.direction := by
    unfold Segment.observe
    dsimp only
    generalize (if 5 < z then (1 : ℤ) else if z < -5 then -1 else 0) = candidate
    split
    · rfl
    · split
      · rfl
      · rfl
  refine Triple.look fun s _ => Triple.before (fun _ h => h.1) ?_
  refine Triple.ite (fun _ => Triple.pure _ fun _ h => ⟨h, rfl⟩) fun _ => ?_
  have hend : Triple Lawfully (Wired c speed) (pure (g.observe z)) fun g' s =>
      Wired c speed s ∧ g'.direction = g.direction := Triple.pure _ fun _ h => ⟨h, hobserve⟩
  refine Triple.ite (fun _ => Triple.bind (stays_modify ?_ c speed) fun _ => hend) fun _ => hend
  exact fun _ => ⟨rfl, rfl, rfl⟩

/-- The duties of a turn. -/
theorem duties_turn {direction : ℤ} (h : direction = 1 ∨ direction = -1) (remaining : Float32) :
    (Course.turn direction).Duties speed (-direction * turnDuty remaining)
      (direction * turnDuty remaining) := by
  refine ⟨h, ?_, Int.neg_mul _ _⟩
  unfold turnDuty turnSlowDutyPercent turnDutyPercent
  split
  · exact .inl (Int.mul_comm _ _)
  · exact .inr (Int.mul_comm _ _)

/-- What a round of a turn leaves: the course, or, when the loop is left, at least the law; a turn
that is given up is stopped. -/
def TurnLeaves (g : Segment) (speed : ℤ) : Segment ⊕ Option UInt64 → Robot → Prop
  | .inl g', s => Wired (.turn g.direction) speed s ∧ g'.direction = g.direction
  | .inr left, s => Ruled speed s ∧ (left = none → Wired .stop speed s)

/-- **A round of a turn** keeps its direction. -/
theorem wired_turnStep (g : Segment) (hdirection : g.direction = 1 ∨ g.direction = -1) :
    Triple Lawfully (Wired (.turn g.direction) speed) (turnStep g) (TurnLeaves g speed) := by
  have hfail (f : Fault) : Triple Lawfully (Wired (.turn g.direction) speed)
      (do failTurn f; return .inr none) (TurnLeaves g speed) :=
    (halts_failTurn f).from.bind fun _ => Triple.pure _ fun _ h => ⟨h.ruled, fun _ => h⟩
  have hleave (us : UInt64) : Triple Lawfully (Wired (.turn g.direction) speed)
      (pure (.inr (some us))) (TurnLeaves g speed) :=
    Triple.pure _ fun _ h => ⟨h.ruled, nofun⟩
  have hturn {α : Type} {cmd : Cmd Robot α} (h : Stays cmd) := h (.turn g.direction) speed
  refine (hturn stays_nowMs).bind fun now => Triple.ite (fun _ => hfail .turn) fun _ => ?_
  apply (wired_readMotionGyro g.previousUs .turn).bind
  rintro (_ | ⟨z, us⟩)
  · exact Triple.pure _ fun _ h => ⟨h.1.ruled, fun _ => h.2 rfl⟩
  refine Triple.before (fun _ h => h.1) ((wired_learnSign _ z).bind fun g' => Triple.given ?_)
  intro hg'
  have hg' : g'.direction = g.direction := hg'
  refine Triple.look fun s _ => Triple.before (fun _ h => h.1) ?_
  refine Triple.ite (fun _ => hleave us) fun _ => Triple.ite (fun _ => hfail .heading) fun _ => ?_
  refine (hturn stays_nowMs).bind fun now => Triple.ite (fun _ => hfail .turn) fun _ => ?_
  have hpowered (remaining : Float32) : Triple Lawfully (Wired (.turn g.direction) speed) (do
      motorsSet (-g'.direction * turnDuty remaining) (g'.direction * turnDuty remaining)
      sleepMs
      return .inl g') (TurnLeaves g speed) := by
    rw [hg']
    refine (wired_motorsSet (duties_turn hdirection remaining)).bind fun _ => ?_
    exact (hturn stays_sleepMs).bind fun _ => Triple.pure _ fun _ h => ⟨h, hg'⟩
  refine Triple.ite (fun _ => (hturn stays_nowMs).bind fun now => ?_) fun _ => hpowered _
  exact Triple.ite (fun _ => hleave us) fun _ => hpowered _

/-- **The attempts of a turn** lead from a stop to a stop. -/
theorem rests_turnAttempts (degrees startHeading : Float32) (startMs : UInt32) (n attempt : ℕ)
    (previousUs : UInt64) :
    Rests (turnAttempts degrees startHeading startMs n attempt previousUs) := by
  induction n generalizing attempt previousUs with
  | zero => exact (halts_failTurn _).stays.rests.bind fun _ => (Stays.pure _).rests
  | succ n ih =>
    refine (stays_turnError _ _).rests.bind fun error => Rests.look fun s => ?_
    refine Rests.ite (Stays.pure _).rests (stays_nowMs.rests.bind fun segmentMs speed => ?_)
    have hdirection : (if 0 < error then (1 : ℤ) else -1) = 1 ∨
        (if 0 < error then (1 : ℤ) else -1) = -1 := by
      split
      · exact .inl rfl
      · exact .inr rfl
    generalize hdir : (if 0 < error then (1 : ℤ) else -1) = direction at hdirection
    dsimp only
    have hloop (g : Segment) (hg : g.direction = direction) :
        Triple Lawfully (Wired (.turn direction) speed) (loop turnStep g) fun left s =>
          Ruled speed s ∧ (left = none → Wired .stop speed s) := by
      refine Triple.look fun t _ => Triple.before ?_ (Triple.iterate
        (I := fun g s => Wired (.turn direction) speed s ∧ g.direction = direction)
        (fun _ _ h => h.1.law) ?_ _ g)
      · exact fun _ h => ⟨h.1, hg⟩
      intro g
      refine Triple.given fun hg => ?_
      subst hg
      apply (wired_turnStep g hdirection).after
      rintro (g' | left) s hs
      · exact hs
      · exact hs
    refine (wired_motorsSet_stop (duties_turn hdirection _)).bind fun _ => ?_
    apply (hloop _ rfl).bind
    rintro (_ | us)
    · exact Triple.pure _ fun _ h => h.2 rfl
    refine ((halts_motorsStop speed).before fun _ h => h.1).bind fun _ => ?_
    refine (stays_settleMotion .turn us .stop speed).bind fun settled => ?_
    refine Triple.ite (fun _ => Triple.pure _ fun _ h => h) fun _ => ?_
    refine (stays_turnError _ _ .stop speed).bind fun error => ?_
    refine (stays_reportPrintf .stop speed).bind fun _ => Triple.ite (fun _ => ?_) fun _ => ?_
    · exact Triple.pure _ fun _ h => h
    · exact ih _ _ speed

/-- **A turn** leads from a stop to a stop. -/
theorem rests_turnDegrees (degrees : Float32) : Rests (turnDegrees degrees) := by
  refine stays_stopPressed.rests.bind fun _ => Rests.ite ?_ (Rests.ite (Stays.pure _).rests ?_)
  · exact halts_motorsStop.stays.rests.bind fun _ => (Stays.pure _).rests
  refine (stays_ask _).rests.bind fun us => (stays_readMotionGyro us .preTurn).rests.bind ?_
  intro sample
  cases sample with
  | none => exact (Stays.pure _).rests
  | some sample =>
    exact Rests.look fun s => stays_nowMs.rests.bind fun _ => (stays_ask _).rests.bind fun _ =>
      rests_turnAttempts _ _ _ _ _ _

/-- A turn to a heading starts and ends stopped. -/
theorem rests_turnToHeading (headingDegrees : Float32) : Rests (turnToHeading headingDegrees) :=
  Rests.look fun _ => Rests.ite (Stays.pure _).rests <|
    (stays_normaliseDegrees _).rests.bind fun _ => rests_turnDegrees _

/-- Learning the direction starts and ends stopped. -/
theorem rests_motionLearnDirection : Rests motionLearnDirection := by
  have hturns : Rests learnTurns := (rests_turnDegrees 15).bind fun _ =>
    Rests.ite (Stays.pure _).rests (rests_turnToHeading 0)
  refine stays_reportPrintf.rests.bind fun _ => hturns.bind fun ok =>
    halts_motorsStop.stays.rests.bind fun _ => Rests.ite ?_ (Stays.pure _).rests
  exact stays_reportPrintf.rests.bind fun _ => (Stays.pure _).rests

/-- Asking for the heading writes no pin. -/
theorem stays_motionHeading : Stays motionHeading := Stays.look fun _ => Stays.pure _

/-! ## Startup -/

/-- A reading of the calibration writes no pin. -/
theorem stays_calibrateReading : Stays calibrateReading := by
  refine stays_readGyroDps.bind fun z => ?_
  cases z with
  | some z => exact Stays.pure _
  | none => exact (stays_recoverAttempts false 2).bind fun _ => Stays.pure _

/-- The readings of the calibration write no pin. -/
theorem stays_calibrateReadings (n : ℕ) (sum : Float32) : Stays (calibrateReadings n sum) := by
  induction n generalizing sum with
  | zero =>
    refine Stays.bind (stays_modify ?_) fun _ => stays_reportPrintf.bind fun _ => Stays.pure _
    exact fun _ => ⟨rfl, rfl, rfl⟩
  | succ n ih =>
    refine stays_calibrateReading.bind fun z => ?_
    cases z with
    | none => exact (stays_faultRaise _).bind fun _ => Stays.pure _
    | some z => exact (stays_pauseChecked 10).bind fun _ => Stays.ite (Stays.pure _) (ih _)

/-- The calibration stops the motors first. -/
theorem halts_motionCalibrate : Halts motionCalibrate := by
  refine halts_motionStop.bind fun _ => Stays.bind (stays_modify ?_) fun _ => ?_
  · exact fun _ => ⟨rfl, rfl, rfl⟩
  refine stays_reportPrintf.bind fun _ => Stays.bind (stays_modify ?_) fun _ => ?_
  · exact fun _ => ⟨rfl, rfl, rfl⟩
  · exact stays_calibrateReadings 200 0

/-- **`motors_init`** writes zero to each pin, so that all of them are known. -/
theorem halts_motorsInit : Halts motorsInit := by
  have hwrite (pin : Pin) (speed : ℤ) :
      Triple Lawfully (Ruled speed) (pwmSetGpioLevel pin 0) fun _ => Ruled speed :=
    fun _ h => ⟨⟨absurd rfl, h.1⟩, h.2⟩
  intro speed
  refine (hwrite .m1A speed).bind fun _ => (hwrite .m1B speed).bind fun _ => ?_
  refine (hwrite .m2A speed).bind fun _ => (hwrite .m2B speed).bind fun _ => ?_
  exact halts_motorsStop speed

/-- `motion_init` ends with the motors stopped. -/
theorem halts_motionInit : Halts motionInit := by
  refine halts_motorsInit.bind fun _ => Stays.bind (stays_modify ?_) fun _ => ?_
  · exact fun _ => ⟨rfl, rfl, rfl⟩
  refine (stays_ask _).bind fun _ => Stays.ite (stays_fault _ _) ?_
  exact stays_reportPrintf.bind fun _ => (stays_faultClear _).bind fun _ =>
    stays_reportPrintf.bind fun _ => Stays.pure _

/-- Arming STOP writes no pin. -/
theorem stays_motionArmStop : Stays motionArmStop := by
  refine Stays.bind (stays_modify ?_) fun _ => Stays.bind ?_ fun _ =>
    stays_stopPressed.bind fun _ => Stays.pure _
  · exact fun _ => ⟨rfl, rfl, rfl⟩
  · exact fun _ _ _ h => ⟨⟨trivial, h.law⟩, h.known, h.pins, h.speed_eq⟩

end Robot
