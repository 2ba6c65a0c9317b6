/-
# Turns with an exact gyro (`getting_there/motion.c`)

`turn_degrees` once more, with the rates and headings of the gyro as rationals instead of
single-precision floats.  The motors, the STOP latch, the faults and the clock are those of the
robot; what is exact stands beside it, with notes on the turn, the latest first.
-/
import GettingThere.Motion
import Mathlib.Algebra.Order.Ring.Rat

open CrashLogic Robot

namespace ExactTurn

/-! ## The gyro -/

/-- What is noted of a turn. -/
inductive Note
  /-- `start_heading` -/
  | started (headingDegrees : ℚ)
  /-- the motors go from off to on -/
  | powered
  /-- `settle_motion` has ended well, at this heading -/
  | settled (headingDegrees : ℚ)
  deriving DecidableEq

/-- The gyro, and the notes on the turn. -/
structure Gyro where
  /-- the Z rate that is read at a moment, if it can be read -/
  rate : ℕ → Option ℚ
  headingDegrees : ℚ
  uncertaintyDegrees : ℚ
  /-- the moments before which the robot has slept -/
  sleeps : List ℕ
  notes : List Note

/-- The robot and its gyro. -/
abbrev Turner : Type := Robot × Gyro

/-- Notes something of the turn. -/
def note (n : Note) : Cmd Turner Unit :=
  modify fun x => (x.1, { x.2 with notes := n :: x.2.notes })

/-- Repeats `body` until it has a result. -/
def loop {β γ : Type} (body : β → Cmd Turner (β ⊕ γ)) (b : β) : Cmd Turner γ := do
  let x ← get
  iterate x.1.outside.rounds body b

/-- `sleep_ms`. -/
def sleepMs : Cmd Turner Unit := do
  onFirst Robot.sleepMs
  modify fun x => (x.1, { x.2 with sleeps := x.1.tick :: x.2.sleeps })

/-- Both motors are off. -/
def stopped (s : Robot) : Bool :=
  s.levels .m1A == 0 && s.levels .m1B == 0 && s.levels .m2A == 0 && s.levels .m2B == 0

/-- `motors_set`, with a note when it powers motors that were off. -/
def motorsSet (left right : ℤ) : Cmd Turner Unit := do
  let before ← get
  onFirst (Robot.motorsSet left right)
  let after ← get
  if stopped before.1 && !stopped after.1 then
    note .powered

/-- `turn_sign`. -/
def turnSign : TurnSign → ℚ
  | .unknown => 0
  | .positive => 1
  | .negative => -1

/-- The amount of an angle or a rate. -/
def magnitude (r : ℚ) : ℚ := if r < 0 then -r else r

/-- `mpu9250_read_gyro_dps_status`, the Z axis. -/
def readGyroDps : Cmd Turner (Option ℚ) := do
  let moment ← onFirst (ask fun _ k => k)
  let x ← get
  return x.2.rate moment

/-- The loop of `recover_gyro_stopped`, for `n` attempts more. -/
def recoverAttempts : ℕ → Cmd Turner (Option (ℚ × UInt64))
  | 0 => return none
  | n + 1 => do
    if ← onFirst stopPressed then
      return none
    let verified ← onFirst (ask Outside.verifyConfig)
    if ← onFirst stopPressed then
      return none
    if !verified then
      return ← recoverAttempts n
    match ← readGyroDps with
    | none => recoverAttempts n
    | some z =>
      let us ← onFirst (ask Outside.timeUs)
      if ← onFirst stopPressed then
        return none
      return some (z, us)

/-- `recover_gyro_stopped`. -/
def recoverGyroStopped : Cmd Turner (Option (ℚ × UInt64)) := recoverAttempts 2

/-- The check of a recovered sensor during a drive. -/
def acceptGap (z : ℚ) (gap : UInt64) : Cmd Turner Bool := do
  let x ← get
  let total := x.2.uncertaintyDegrees + (1000 + magnitude z) * gap.toNat / 1000000
  modify fun x => (x.1, { x.2 with uncertaintyDegrees := total })
  if gap > 20000 ∨ total > 20 then
    onFirst (faultRaise .imu)
    onFirst reportPrintf
    return false
  onFirst (modify fun s => { s with movingRecoveries := s.movingRecoveries + 1 })
  return true

/-- Asks the sensor again, with the motors off. -/
def retryMotionGyro (motion : Movement) (previousUs : UInt64) :
    Cmd Turner (Option (ℚ × UInt64)) := do
  match ← recoverGyroStopped with
  | none =>
    onFirst (faultRaise .imu)
    onFirst reportPrintf
    return none
  | some (z, us) =>
    if motion = .drive then
      if !(← acceptGap z (us - previousUs)) then
        return none
    return some (z, us)

/-- The part of `read_motion_gyro` after a failed read. -/
def recoverMotionGyro (motion : Movement) (previousUs : UInt64) :
    Cmd Turner (Option (ℚ × UInt64)) := do
  onFirst cutPower
  let x ← get
  if motion = .turn ∨ (motion = .drive ∧ 2 ≤ x.1.movingRecoveries) then
    onFirst (faultRaise .imu)
    onFirst reportPrintf
    return none
  retryMotionGyro motion previousUs

/-- A sample, from the sensor or after a recovery. -/
def sampleMotionGyro (motion : Movement) (previousUs : UInt64) :
    Cmd Turner (Option (ℚ × UInt64)) := do
  match ← readGyroDps with
  | some z =>
    let us ← onFirst (ask Outside.timeUs)
    return some (z, us)
  | none => recoverMotionGyro motion previousUs

/-- `read_motion_gyro`: the rate and the time of the sample. -/
def readMotionGyro (motion : Movement) (previousUs : UInt64) :
    Cmd Turner (Option (ℚ × UInt64)) := do
  if ← onFirst stopPressed then
    onFirst motorsStop
    return none
  match ← sampleMotionGyro motion previousUs with
  | none => return none
  | some (z, us) =>
    if 980 ≤ z ∨ z ≤ -980 then
      onFirst motorsStop
      onFirst (faultRaise .gyroSaturated)
      onFirst reportPrintf
      return none
    modify fun x => (x.1, { x.2 with
      headingDegrees := x.2.headingDegrees + z * (us - previousUs).toNat / 1000000 })
    return some (z, us)

/-- A round of the loop of `settle_motion`: it ends with the time of the last sample, and
whether all went well. -/
def settleStep (motion : Movement) (start : UInt32) (previousUs : UInt64) :
    Cmd Turner (UInt64 ⊕ UInt64 × Bool) := do
  let now ← onFirst nowMs
  if 300 ≤ now - start then
    return .inr (previousUs, true)
  match ← readMotionGyro motion previousUs with
  | none => return .inr (previousUs, false)
  | some (_, us) =>
    sleepMs
    return .inl us

/-- `settle_motion`. -/
def settleMotion (motion : Movement) (previousUs : UInt64) : Cmd Turner (UInt64 × Bool) := do
  let start ← onFirst nowMs
  let (previousUs, ok) ← loop (settleStep motion start) previousUs
  if !ok then
    return (previousUs, false)
  match ← readMotionGyro motion previousUs with
  | none => return (previousUs, false)
  | some (_, us) =>
    let x ← get
    note (.settled x.2.headingDegrees)
    return (us, true)

/-! ## Turns -/

/-- A turn under way. -/
structure Segment where
  degrees : ℚ
  attempt : ℕ
  startHeading : ℚ
  startMs : UInt32
  segmentHeading : ℚ
  segmentMs : UInt32
  direction : ℤ
  signCandidate : ℤ
  signSamples : ℕ
  previousUs : UInt64

/-- `duty` for an error that remains. -/
def turnDuty (remaining : ℚ) : ℤ := if remaining ≤ 25 then turnSlowDutyPercent else turnDutyPercent

/-- `candidate`: the sign a rate speaks for. -/
def candidate (z : ℚ) : ℤ := if 5 < z then 1 else if z < -5 then -1 else 0

/-- `sign_candidate` and `sign_samples` after a rate. -/
def Segment.observe (g : Segment) (z : ℚ) : Segment :=
  if candidate z = 0 then { g with signSamples := 0 }
  else if candidate z = g.signCandidate then { g with signSamples := g.signSamples + 1 }
  else { g with signCandidate := candidate z, signSamples := 1 }

/-- Learns the sign of the gyro, as long as it is not known. -/
def learnSign (g : Segment) (z : ℚ) : Cmd Turner Segment := do
  let x ← get
  if x.1.turnSign ≠ .unknown then
    return g
  let g := g.observe z
  if 3 ≤ g.signSamples then
    onFirst (setTurnSign (g.direction * g.signCandidate))
  return g

/-- `coast_angle`, from `projected_rate`. -/
def coastAngle (projected : ℚ) : ℚ := (if projected < 0 then 0 else projected) * (3 / 100)

/-- The duty for what remains, and a pause. -/
def powerTurn (g : Segment) (remaining : ℚ) : Cmd Turner (Segment ⊕ Option UInt64) := do
  let duty := turnDuty remaining
  motorsSet (-g.direction * duty) (g.direction * duty)
  sleepMs
  return .inl g

/-- A round of the powered loop of `turn_degrees` after its sample. -/
def steerTurn (g : Segment) (z : ℚ) : Cmd Turner (Segment ⊕ Option UInt64) := do
  let g ← learnSign g z
  let x ← get
  let sign := turnSign x.1.turnSign
  let remaining := g.direction * (g.degrees - sign * (x.2.headingDegrees - g.startHeading))
  if x.1.turnSign ≠ .unknown ∧
      (remaining ≤ 2 ∨ (g.attempt = 0 ∧ remaining ≤ coastAngle (g.direction * sign * z))) then
    return .inr (some g.previousUs)
  let segmentProgress := g.direction * sign * (x.2.headingDegrees - g.segmentHeading)
  if segmentProgress < -3 then
    onFirst (failTurn .heading)
    return .inr none
  let now ← onFirst nowMs
  if 1000 ≤ now - g.segmentMs ∧ segmentProgress < 1 then
    onFirst (failTurn .turn)
    return .inr none
  if 0 < g.attempt then
    let now ← onFirst nowMs
    if 200 ≤ now - g.segmentMs then
      return .inr (some g.previousUs)
  powerTurn g remaining

/-- A round of the powered loop of `turn_degrees`. It goes on; or it leaves the loop, and the
turn goes on, from the time of the last sample, or fails. -/
def turnStep (g : Segment) : Cmd Turner (Segment ⊕ Option UInt64) := do
  let now ← onFirst nowMs
  if 6000 ≤ now - g.startMs then
    onFirst (failTurn .turn)
    return .inr none
  match ← readMotionGyro .turn g.previousUs with
  | none => return .inr none
  | some (z, us) => steerTurn { g with previousUs := us } z

/-- The part of a turn that still misses. -/
def turnError (degrees startHeading : ℚ) (x : Turner) : ℚ :=
  degrees - turnSign x.1.turnSign * (x.2.headingDegrees - startHeading)

/-- A powered segment of a turn, and settling after it: the time of the last sample. -/
def turnSegment (degrees startHeading : ℚ) (startMs : UInt32) (attempt : ℕ) (previousUs : UInt64) :
    Cmd Turner (Option UInt64) := do
  let x ← get
  let error := turnError degrees startHeading x
  let direction : ℤ := if 0 < error then 1 else -1
  let segmentMs ← onFirst nowMs
  let duty := turnDuty (direction * error)
  motorsSet (-direction * duty) (direction * duty)
  let left ← loop turnStep
    { degrees := degrees, attempt := attempt, startHeading := startHeading, startMs := startMs,
      segmentHeading := x.2.headingDegrees, segmentMs := segmentMs, direction := direction,
      signCandidate := 0, signSamples := 0, previousUs := previousUs }
  match left with
  | none => return none
  | some us =>
    onFirst motorsStop
    let (us, ok) ← settleMotion .turn us
    return if ok then some us else none

/-- The attempts of `turn_degrees`, for `n` more. -/
def turnAttempts (degrees startHeading : ℚ) (startMs : UInt32) : ℕ → ℕ → UInt64 → Cmd Turner Bool
  | 0, _, _ => do
    onFirst (failTurn .turn)
    return false
  | n + 1, attempt, previousUs => do
    let x ← get
    let error := turnError degrees startHeading x
    if x.1.turnSign ≠ .unknown ∧ error ≤ 2 ∧ -2 ≤ error then
      return true
    match ← turnSegment degrees startHeading startMs attempt previousUs with
    | none => return false
    | some us =>
      let x ← get
      let error := turnError degrees startHeading x
      onFirst reportPrintf
      if error ≤ 2 ∧ -2 ≤ error then
        return true
      turnAttempts degrees startHeading startMs n (attempt + 1) us

/-- `turn_degrees`. -/
def turnDegrees (degrees : ℚ) : Cmd Turner Bool := do
  if ← onFirst stopPressed then
    onFirst motorsStop
    return false
  if degrees = 0 then
    return true
  let preflightUs ← onFirst (ask Outside.timeUs)
  match ← readMotionGyro .preTurn preflightUs with
  | none => return false
  | some _ =>
    let x ← get
    note (.started x.2.headingDegrees)
    let startMs ← onFirst nowMs
    let previousUs ← onFirst (ask Outside.timeUs)
    turnAttempts degrees x.2.headingDegrees startMs 3 0 previousUs

end ExactTurn
