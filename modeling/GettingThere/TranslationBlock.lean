/-
# One powered block (`getting_there.c`, `run_can_continue` and the drive of `translate_block`)

`getting_there.c` uses the motors and the Wi-Fi sampler through their headers.  `MotionLayer`
is what it uses of them to drive one block, over any state; `robotMotion` is the firmware's
own.
-/
import GettingThere.WifiSampler

open CrashLogic

/-- What a powered block needs from `motion.h`, `wifi_sampler.h` and the rest. -/
structure MotionLayer (ρ : Type) where
  nowMs : Cmd ρ UInt32
  sleepMs : Cmd ρ Unit
  faultRaise : Fault → Cmd ρ Unit
  reportOk : Cmd ρ Bool
  /-- what `report_printf` does; it always returns -/
  reportPrintf : ρ → ρ
  stopRequested : Cmd ρ Bool
  stop : Cmd ρ Unit
  driveStart : Bool → UInt32 → Float32 → Cmd ρ Bool
  driveUpdate : Cmd ρ Bool
  driveActive : Cmd ρ Bool
  driveElapsedMs : Cmd ρ UInt32
  driveFinish : Cmd ρ Bool
  pollMoving : Cmd ρ Bool → Cmd ρ Bool
  quiesce : Cmd ρ Bool → Cmd ρ Bool
  /-- how long a loop is observed -/
  rounds : ρ → ℕ

namespace MotionLayer

variable {ρ : Type} (L : MotionLayer ρ)

/-- Stops the robot because of a fault. -/
def stopFor (f : Fault) : Cmd ρ Unit := do
  L.stop
  L.faultRaise f

/-- `run_can_continue`. -/
def runCanContinue (runStartedMs : UInt32) : Cmd ρ Bool := do
  if ← L.stopRequested then
    L.stop
    return false
  if !(← L.reportOk) then
    L.stopFor .report
    return false
  let now ← L.nowMs
  if 900000 ≤ now - runStartedMs then
    L.stopFor .runLimit
    modify L.reportPrintf
    return false
  return true

/-- How a block went. -/
structure Block where
  ok : Bool
  actual : UInt32
  finished : Bool
  quiesced : Bool
  deriving DecidableEq, Repr

/-- One round of the loop of `translate_block` while the drive is active. -/
def driveRound (runStartedMs : UInt32) (acquireMoving : Bool) : Cmd ρ (Option Bool) := do
  if !(← L.driveUpdate) then
    return some false
  if !(← L.runCanContinue runStartedMs) then
    return some false
  if acquireMoving then
    if !(← L.pollMoving (L.runCanContinue runStartedMs)) then
      return some false
  if ← L.driveActive then
    L.sleepMs
  return none

/-- The loop of `translate_block`; its result is `ok`. -/
def driveLoop (runStartedMs : UInt32) (acquireMoving : Bool) : Cmd ρ Bool := do
  let s ← get
  iterate (L.rounds s) (fun _ => do
    if !(← L.driveActive) then
      return .inr true
    match ← L.driveRound runStartedMs acquireMoving with
    | some ok => return .inr ok
    | none => return .inl ()) ()

/-- `translate_block` from `motion_drive_start` to `wifi_sampler_quiesce`: nothing when the
drive does not start. -/
def driveBlock (runStartedMs : UInt32) (forwards : Bool) (duration : UInt32) (heading : Float32)
    (acquireMoving : Bool) : Cmd ρ (Option Block) := do
  if !(← L.driveStart forwards duration heading) then
    return none
  let ok ← L.driveLoop runStartedMs acquireMoving
  L.stop
  let actual ← L.driveElapsedMs
  let finished ← L.driveFinish
  let quiesced ← L.quiesce (L.runCanContinue runStartedMs)
  return some ⟨ok, actual, finished, quiesced⟩

end MotionLayer

/-- The firmware's own motion. -/
def robotMotion : MotionLayer Robot where
  nowMs := Robot.nowMs
  sleepMs := Robot.sleepMs
  faultRaise := Robot.faultRaise
  reportOk := Robot.ask Outside.reportOk
  reportPrintf := Robot.acted .line
  stopRequested := Robot.stopPressed
  stop := Robot.motionStop
  driveStart := Robot.motionDriveStart
  driveUpdate := Robot.motionDriveUpdate
  driveActive := Robot.motionDriveActive
  driveElapsedMs := Robot.motionDriveElapsedMs
  driveFinish := Robot.motionDriveFinish
  pollMoving := Robot.wifiSamplerPollMoving
  quiesce := Robot.wifiSamplerQuiesce
  rounds s := s.outside.rounds
