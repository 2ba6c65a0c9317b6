/-
# Motion (`getting_there/motion.c`)

The motors, the STOP latch, the gyro and the two control loops: straight drives and turns on
the spot.  Angles and rates are single-precision floats, duties and signs are integers.

`previous_us` of the source is a pointer to the time of the last gyro sample; here the time is
passed in, and the new one is returned.  `motion_drive_finish` and `motion_drive_update` point
it at the time in `drive`.
-/
import GettingThere.Robot

open CrashLogic

namespace Robot

/-! ## Motors and STOP -/

/-- `DRIVE_DUTY_PERCENT`. -/
def driveDutyPercent : ℤ := 35

/-- `TURN_DUTY_PERCENT` and `TURN_SLOW_DUTY_PERCENT`. -/
def turnDutyPercent : ℤ := 25
def turnSlowDutyPercent : ℤ := 20

/-- `MAX_STEERING_ADJUSTMENT`. -/
def maxSteeringAdjustment : ℤ := 8

/-- `stop_pressed`. GP21 can be polled from any context: a callback may have latched STOP. -/
def stopPressed : Cmd Robot Bool := do
  let byCallback ← ask Outside.gp21Callback
  let low ← ask Outside.gp21
  let s ← get
  if s.stopArmed && (byCallback || low) then
    faultRaise .stopLatched
  let s ← get
  let result := decide (Fault.stopLatched ∈ s.faults)
  note (.polled (s.stopArmed && low) result)
  return result

/-- `motor_write`. -/
def motorWrite (pinA pinB : Pin) (speed : ℤ) (forwardUsesA : Bool) : Cmd Robot Unit := do
  let speed := max (-100) (min 100 speed)
  let useA := if 0 ≤ speed then forwardUsesA else !forwardUsesA
  let level := speed.natAbs * 100
  pwmSetGpioLevel pinA (if speed ≠ 0 ∧ useA = true then level else 0)
  pwmSetGpioLevel pinB (if speed ≠ 0 ∧ useA = false then level else 0)

/-- The writes of `motors_set` and `motors_stop`. -/
def motorsWrite (left right : ℤ) : Cmd Robot Unit := do
  motorWrite .m1A .m1B left true
  motorWrite .m2A .m2B right false
  modify fun s => { s with motorsPowered := decide (left ≠ 0 ∨ right ≠ 0) }

/-- `motors_stop`. -/
def motorsStop : Cmd Robot Unit := motorsWrite 0 0

/-- `motors_set`. -/
def motorsSet (left right : ℤ) : Cmd Robot Unit := do
  let s ← get
  if !s.stopArmed then
    motorsWrite 0 0
  else if ← stopPressed then
    motorsWrite 0 0
  else
    act .power
    motorsWrite left right

/-- `stop_drive`. -/
def stopDrive : Cmd Robot Unit := do
  let s ← get
  motorsStop
  if s.drive.active then
    let now ← nowMs
    let elapsed := now - s.drive.startedMs
    let elapsed := if s.motorsPowered && elapsed == 0 then 1 else elapsed
    modify fun s => { s with drive := { s.drive with elapsedMs := elapsed, active := false } }

/-- `motion_stop`. -/
def motionStop : Cmd Robot Unit := stopDrive

/-- `motion_arm_stop`. -/
def motionArmStop : Cmd Robot Unit := do
  modify fun s => { s with stopArmed := true }
  note .armed
  let _ ← stopPressed

/-- A wait of `pause_checked` from `start` on. -/
def pauseFrom (start duration : UInt32) : Cmd Robot Bool :=
  loop (fun _ => do
    let now ← nowMs
    if duration ≤ now - start then
      return .inr true
    if ← stopPressed then
      motorsStop
      return .inr false
    sleepMs
    return .inl ()) ()

/-- `pause_checked`. -/
def pauseChecked (duration : UInt32) : Cmd Robot Bool := do
  let start ← nowMs
  pauseFrom start duration

/-! ## Angles -/

/-- The conversion of an `int` to a `float`. -/
def intToFloat (n : ℤ) : Float32 :=
  if 0 ≤ n then n.toNat.toUInt32.toFloat32 else -(-n).toNat.toUInt32.toFloat32

/-- The conversion of a `float` to an `int`, towards zero. -/
def floatToInt (x : Float32) : ℤ := if x < 0 then -(-x).toUInt32.toNat else x.toUInt32.toNat

/-- `set_turn_sign`. -/
def setTurnSign (sign : ℤ) : Cmd Robot Unit :=
  modify fun s => { s with
    turnSign := if 0 < sign then .positive else if sign < 0 then .negative else .unknown }

/-- `normalise_degrees`. -/
def normaliseDegrees (angle : Float32) : Cmd Robot Float32 := do
  let angle ← loop (fun angle : Float32 =>
    if 180 < angle then pure (.inl (angle - 360)) else pure (.inr angle)) angle
  loop (fun angle : Float32 =>
    if angle < -180 then pure (.inl (angle + 360)) else pure (.inr angle)) angle

/-- The amount of an angle or a rate. -/
def magnitude (x : Float32) : Float32 := if x < 0 then -x else x

/-- `steering_adjustment`. -/
def steeringAdjustment (speed : ℤ) (yawError yawRate turnGyroSign : Float32) : ℤ :=
  let correction := turnGyroSign * (0.65 * yawError + 0.10 * yawRate)
  let adjustment := floatToInt (correction + (if 0 ≤ correction then 0.5 else -0.5))
  let limit := min maxSteeringAdjustment (max 0 ((speed.natAbs : ℤ) - 1))
  max (-limit) (min limit adjustment)

/-! ## Gyro -/

/-- The text that names a movement. -/
inductive Movement
  | preDrive
  | drive
  | preTurn
  | turn
  deriving DecidableEq, Repr

/-- `mpu9250_read_gyro_dps_status`, the Z axis. -/
def readGyroDps : Cmd Robot (Option Float32) := do
  let z ← ask Outside.gyroZ
  let s ← get
  return z.map fun z => z - s.gyroBiasDps

/-- The time of a recovered sample, when it is asked for. -/
def sampleTime (timed : Bool) : Cmd Robot UInt64 :=
  if timed then ask Outside.timeUs else pure 0

/-- The loop of `recover_gyro_stopped`, for `n` attempts more: the rate, and the time when
`sample_us` is asked for. -/
def recoverAttempts (timed : Bool) : ℕ → Cmd Robot (Option (Float32 × UInt64))
  | 0 => return none
  | n + 1 => do
    if ← stopPressed then
      return none
    let verified ← ask Outside.verifyConfig
    if ← stopPressed then
      return none
    if !verified then
      return ← recoverAttempts timed n
    match ← readGyroDps with
    | none => recoverAttempts timed n
    | some z =>
      let us ← sampleTime timed
      if ← stopPressed then
        return none
      return some (z, us)

/-- `recover_gyro_stopped`. -/
def recoverGyroStopped (timed : Bool) : Cmd Robot (Option (Float32 × UInt64)) :=
  recoverAttempts timed 2

/-- Stops the movement under way. -/
def cutPower : Cmd Robot Unit := do
  let s ← get
  if s.drive.active then
    stopDrive
  else
    motorsStop

/-- The check of a recovered sensor during a drive: the time without a sample makes the heading
uncertain. -/
def acceptGap (z : Float32) (gap : UInt64) : Cmd Robot Bool := do
  let s ← get
  let total := s.gyroUncertaintyDegrees + (1000 + magnitude z) * gap.toFloat32 / 1000000
  modify fun s => { s with gyroUncertaintyDegrees := total }
  if gap > 20000 ∨ total > 20 then
    faultRaise .imu
    reportPrintf
    return false
  modify fun s => { s with movingRecoveries := s.movingRecoveries + 1 }
  return true

/-- Asks the sensor again, with the motors off. -/
def retryMotionGyro (motion : Movement) (previousUs : UInt64) :
    Cmd Robot (Option (Float32 × UInt64)) := do
  match ← recoverGyroStopped true with
  | none =>
    faultRaise .imu
    reportPrintf
    return none
  | some (z, us) =>
    if motion = .drive then
      if !(← acceptGap z (us - previousUs)) then
        return none
    return some (z, us)

/-- The part of `read_motion_gyro` after a failed read. A missed sample during a turn
invalidates its angle, and a drive recovers twice at most. -/
def recoverMotionGyro (motion : Movement) (previousUs : UInt64) :
    Cmd Robot (Option (Float32 × UInt64)) := do
  cutPower
  let s ← get
  if motion = .turn ∨ (motion = .drive ∧ 2 ≤ s.movingRecoveries) then
    faultRaise .imu
    reportPrintf
    return none
  retryMotionGyro motion previousUs

/-- A sample, from the sensor or after a recovery. -/
def sampleMotionGyro (previousUs : UInt64) (motion : Movement) :
    Cmd Robot (Option (Float32 × UInt64)) := do
  match ← readGyroDps with
  | some z =>
    let us ← ask Outside.timeUs
    return some (z, us)
  | none => recoverMotionGyro motion previousUs

/-- `read_motion_gyro`: the rate and the time of the sample. -/
def readMotionGyro (previousUs : UInt64) (motion : Movement) :
    Cmd Robot (Option (Float32 × UInt64)) := do
  if ← stopPressed then
    motorsStop
    return none
  match ← sampleMotionGyro previousUs motion with
  | none => return none
  | some (z, us) =>
    if 980 ≤ z ∨ z ≤ -980 then
      motorsStop
      faultRaise .gyroSaturated
      reportPrintf
      return none
    modify fun s => { s with
      gyroHeadingDegrees := s.gyroHeadingDegrees + z * (us - previousUs).toFloat32 / 1000000 }
    return some (z, us)

/-- The loop of `settle_motion`: the time of the last sample, and whether all went well. -/
def settleFrom (start : UInt32) (motion : Movement) (previousUs : UInt64) :
    Cmd Robot (UInt64 × Bool) :=
  loop (fun previousUs => do
    let now ← nowMs
    if 300 ≤ now - start then
      return .inr (previousUs, true)
    match ← readMotionGyro previousUs motion with
    | none => return .inr (previousUs, false)
    | some (_, us) =>
      sleepMs
      return .inl us) previousUs

/-- `settle_motion`. -/
def settleMotion (motion : Movement) (previousUs : UInt64) : Cmd Robot (UInt64 × Bool) := do
  let start ← nowMs
  let (previousUs, ok) ← settleFrom start motion previousUs
  if !ok then
    return (previousUs, false)
  -- the final interval before the next movement or scan
  match ← readMotionGyro previousUs motion with
  | none => return (previousUs, false)
  | some (_, us) => return (us, true)

/-! ## Straight drives -/

/-- Whether a heading error and the uncertainty of the gyro are too much for a straight line. -/
def tooFarOff (yawMagnitude uncertainty : Float32) : Bool :=
  decide (25 < yawMagnitude + uncertainty)

/-- The checks of `motion_drive_start` that refuse a drive at once. -/
def driveRefused (durationMs : UInt32) : Cmd Robot Bool := do
  let s ← get
  if s.drive.pending || !s.stopArmed then
    return true
  if ← stopPressed then
    return true
  return decide (s.turnSign = .unknown) || durationMs == 0

/-- `motion_drive_start`. -/
def motionDriveStart (forwards : Bool) (durationMs : UInt32) (headingDegrees : Float32) :
    Cmd Robot Bool := do
  if ← driveRefused durationMs then
    stopDrive
    return false
  let preflightUs ← ask Outside.timeUs
  match ← readMotionGyro preflightUs .preDrive with
  | none => return false
  | some _ =>
    let s ← get
    let target := headingDegrees * s.turnSign.toFloat
    let error ← normaliseDegrees (s.gyroHeadingDegrees - target)
    if tooFarOff (magnitude error) s.gyroUncertaintyDegrees then
      faultRaise .heading
      reportPrintf
      return false
    let speed := if forwards then driveDutyPercent else -driveDutyPercent
    reportPrintf
    let startedMs ← nowMs
    let previousUs ← ask Outside.timeUs
    modify fun s => { s with drive :=
      { active := true, pending := true, failed := false, speed := speed, peakAdjustment := 0,
        startedMs := startedMs, elapsedMs := 0, durationMs := durationMs, previousUs := previousUs,
        targetHeading := target, startHeading := s.gyroHeadingDegrees } }
    motorsSet speed speed
    return true

/-- `motion_drive_active`. -/
def motionDriveActive : Cmd Robot Bool := do
  let s ← get
  return s.drive.active

/-- `motion_drive_elapsed_ms`. -/
def motionDriveElapsedMs : Cmd Robot UInt32 := do
  let s ← get
  if s.drive.active then
    let now ← nowMs
    return now - s.drive.startedMs
  else
    return s.drive.elapsedMs

/-- A drive ends in an error. -/
def failDrive : Cmd Robot Unit := do
  stopDrive
  modify fun s => { s with drive := { s.drive with failed := true } }

/-- `motion_drive_update` while the drive is active. -/
def driveStep : Cmd Robot Bool := do
  let s ← get
  match ← readMotionGyro s.drive.previousUs .drive with
  | none =>
    failDrive
    return false
  | some (z, us) =>
    modify fun s => { s with drive := { s.drive with previousUs := us } }
    let s ← get
    let yawError ← normaliseDegrees (s.gyroHeadingDegrees - s.drive.targetHeading)
    if tooFarOff (magnitude yawError) s.gyroUncertaintyDegrees then
      failDrive
      faultRaise .heading
      reportPrintf
      return false
    if !s.drive.active then
      return true
    let now ← nowMs
    if s.drive.durationMs ≤ now - s.drive.startedMs then
      stopDrive
      return true
    let adjustment := steeringAdjustment s.drive.speed yawError z s.turnSign.toFloat
    modify fun s => { s with
      drive := { s.drive with peakAdjustment := max s.drive.peakAdjustment adjustment.natAbs } }
    motorsSet (s.drive.speed + adjustment) (s.drive.speed - adjustment)
    return true

/-- `motion_drive_update`. -/
def motionDriveUpdate : Cmd Robot Bool := do
  let s ← get
  if s.drive.active then
    driveStep
  else
    return !s.drive.failed

/-- `motion_drive_finish`. -/
def motionDriveFinish : Cmd Robot Bool := do
  stopDrive
  let s ← get
  if !s.drive.pending then
    return !s.drive.failed
  modify fun s => { s with drive := { s.drive with pending := false } }
  if s.drive.failed then
    return false
  if ← stopPressed then
    return false
  let (previousUs, ok) ← settleMotion .drive s.drive.previousUs
  modify fun s => { s with drive := { s.drive with previousUs := previousUs } }
  if !ok then
    return false
  let s ← get
  let yawError ← normaliseDegrees (s.gyroHeadingDegrees - s.drive.targetHeading)
  if tooFarOff (magnitude yawError) s.gyroUncertaintyDegrees then
    faultRaise .heading
    reportPrintf
    return false
  reportPrintf
  return true

/-- `motion_drive`. -/
def motionDrive (forwards : Bool) (durationMs : UInt32) (headingDegrees : Float32) :
    Cmd Robot Bool := do
  if !(← motionDriveStart forwards durationMs headingDegrees) then
    return false
  loop (fun _ => do
    if !(← motionDriveActive) then
      return .inr ()
    if !(← motionDriveUpdate) then
      return .inr ()
    if ← motionDriveActive then
      sleepMs
    return .inl ()) ()
  motionDriveFinish

/-! ## Turns -/

/-- A turn under way: where it started, the sample before, and what has been seen of the sign
of the gyro. -/
structure Segment where
  degrees : Float32
  attempt : ℕ
  startHeading : Float32
  startMs : UInt32
  segmentHeading : Float32
  segmentMs : UInt32
  direction : ℤ
  signCandidate : ℤ
  signSamples : ℕ
  previousUs : UInt64

/-- `duty` for an error that remains. -/
def turnDuty (remaining : Float32) : ℤ :=
  if remaining ≤ 25 then turnSlowDutyPercent else turnDutyPercent

/-- A turn ends in an error. -/
def failTurn (f : Fault) : Cmd Robot Unit := do
  motorsStop
  faultRaise f
  reportPrintf

/-- `sign_candidate` and `sign_samples` after a rate. -/
def Segment.observe (g : Segment) (z : Float32) : Segment :=
  let candidate : ℤ := if 5 < z then 1 else if z < -5 then -1 else 0
  if candidate = 0 then { g with signSamples := 0 }
  else if candidate = g.signCandidate then { g with signSamples := g.signSamples + 1 }
  else { g with signCandidate := candidate, signSamples := 1 }

/-- Learns the sign of the gyro, as long as it is not known. -/
def learnSign (g : Segment) (z : Float32) : Cmd Robot Segment := do
  let s ← get
  if s.turnSign ≠ .unknown then
    return g
  let g := g.observe z
  if 3 ≤ g.signSamples then
    setTurnSign (g.direction * g.signCandidate)
  return g

/-- One round of the powered loop of `turn_degrees`. It goes on; or it leaves the loop, and the
turn goes on, from the time of the last sample, or fails. -/
def turnStep (g : Segment) : Cmd Robot (Segment ⊕ Option UInt64) := do
  let now ← nowMs
  if 6000 ≤ now - g.startMs then
    failTurn .turn
    return .inr none
  match ← readMotionGyro g.previousUs .turn with
  | none => return .inr none
  | some (z, us) =>
    let g ← learnSign { g with previousUs := us } z
    let s ← get
    let sign := s.turnSign.toFloat
    let direction := intToFloat g.direction
    let remaining := direction * (g.degrees - sign * (s.gyroHeadingDegrees - g.startHeading))
    let projected := direction * sign * z
    let coastAngle := (if projected < 0 then 0 else projected) * 0.03
    if s.turnSign ≠ .unknown ∧ (remaining ≤ 2 ∨ (g.attempt = 0 ∧ remaining ≤ coastAngle)) then
      return .inr (some us)
    let segmentProgress := direction * sign * (s.gyroHeadingDegrees - g.segmentHeading)
    if segmentProgress < -3 then
      failTurn .heading
      return .inr none
    let now ← nowMs
    if 1000 ≤ now - g.segmentMs ∧ segmentProgress < 1 then
      failTurn .turn
      return .inr none
    if 0 < g.attempt then
      let now ← nowMs
      if 200 ≤ now - g.segmentMs then
        return .inr (some us)
    let duty := turnDuty remaining
    motorsSet (-g.direction * duty) (g.direction * duty)
    sleepMs
    return .inl g

/-- The part of a turn that still misses. -/
def turnError (degrees startHeading : Float32) : Cmd Robot Float32 := do
  let s ← get
  return degrees - s.turnSign.toFloat * (s.gyroHeadingDegrees - startHeading)

/-- The attempts of `turn_degrees`, for `n` more. -/
def turnAttempts (degrees startHeading : Float32) (startMs : UInt32) :
    ℕ → ℕ → UInt64 → Cmd Robot Bool
  | 0, _, _ => do
    failTurn .turn
    return false
  | n + 1, attempt, previousUs => do
    let error ← turnError degrees startHeading
    let s ← get
    if s.turnSign ≠ .unknown ∧ error ≤ 2 ∧ -2 ≤ error then
      return true
    let direction : ℤ := if 0 < error then 1 else -1
    let segmentMs ← nowMs
    let duty := turnDuty (intToFloat direction * error)
    motorsSet (-direction * duty) (direction * duty)
    let left ← loop turnStep
      { degrees := degrees, attempt := attempt, startHeading := startHeading, startMs := startMs,
        segmentHeading := s.gyroHeadingDegrees, segmentMs := segmentMs, direction := direction,
        signCandidate := 0, signSamples := 0, previousUs := previousUs }
    match left with
    | none => return false
    | some us =>
      motorsStop
      let (us, ok) ← settleMotion .turn us
      if !ok then
        return false
      let error ← turnError degrees startHeading
      reportPrintf
      if error ≤ 2 ∧ -2 ≤ error then
        return true
      turnAttempts degrees startHeading startMs n (attempt + 1) us

/-- `turn_degrees`. -/
def turnDegrees (degrees : Float32) : Cmd Robot Bool := do
  if ← stopPressed then
    motorsStop
    return false
  if degrees == 0 then
    return true
  let preflightUs ← ask Outside.timeUs
  match ← readMotionGyro preflightUs .preTurn with
  | none => return false
  | some _ =>
    let s ← get
    let startMs ← nowMs
    let previousUs ← ask Outside.timeUs
    turnAttempts degrees s.gyroHeadingDegrees startMs 3 0 previousUs

/-- `turn_to_heading`. -/
def turnToHeading (headingDegrees : Float32) : Cmd Robot Bool := do
  let s ← get
  if s.turnSign = .unknown then
    return false
  let error ← normaliseDegrees (headingDegrees - s.turnSign.toFloat * s.gyroHeadingDegrees)
  turnDegrees error

/-- The turn of `motion_learn_direction`, and back. -/
def learnTurns : Cmd Robot Bool := do
  if !(← turnDegrees 15) then
    return false
  turnToHeading 0

/-- `motion_learn_direction`. -/
def motionLearnDirection : Cmd Robot Bool := do
  reportPrintf
  let ok ← learnTurns
  motorsStop
  if ok then
    reportPrintf
  return ok

/-- `motion_heading`. -/
def motionHeading : Cmd Robot Float32 := do
  let s ← get
  return s.turnSign.toFloat * s.gyroHeadingDegrees

/-! ## Startup -/

/-- A reading of `calibrate_gyro`. -/
def calibrateReading : Cmd Robot (Option Float32) := do
  match ← readGyroDps with
  | some z => return some z
  | none =>
    let recovered ← recoverGyroStopped false
    return recovered.map Prod.fst

/-- The readings of `calibrate_gyro`, `n` more. -/
def calibrateReadings : ℕ → Float32 → Cmd Robot Bool
  | 0, sum => do
    modify fun s => { s with gyroBiasDps := sum / 200 }
    reportPrintf
    return true
  | n + 1, sum => do
    match ← calibrateReading with
    | none =>
      faultRaise .imu
      return false
    | some z =>
      if !(← pauseChecked 10) then
        return false
      calibrateReadings n (sum + z)

/-- `motion_calibrate`. -/
def motionCalibrate : Cmd Robot Bool := do
  motionStop
  modify fun s => { s with
    drive := { s.drive with pending := false, failed := false }
    gyroHeadingDegrees := 0
    movingRecoveries := 0
    gyroUncertaintyDegrees := 0
    turnSign := .unknown }
  reportPrintf
  modify fun s => { s with gyroBiasDps := 0 }
  calibrateReadings 200 0

/-- `motors_init`. -/
def motorsInit : Cmd Robot Unit := do
  pwmSetGpioLevel .m1A 0
  pwmSetGpioLevel .m1B 0
  pwmSetGpioLevel .m2A 0
  pwmSetGpioLevel .m2B 0
  motorsStop

/-- `motion_init`. -/
def motionInit : Cmd Robot Bool := do
  motorsInit
  modify fun s => { s with movingRecoveries := 0, gyroUncertaintyDegrees := 0 }
  if !(← ask Outside.imuInit) then
    faultRaise .imu
    reportPrintf
    return false
  reportPrintf
  faultClear .imu
  reportPrintf
  return true

end Robot
