/-
# A run, from power-on to the end of the report (`getting_there.c`, `main`)

`main` up to `report_finish`, over the firmware's own motion and sampler, with what it calls of
the report (`run_report.c`, `report_store.c`, `report_flash.c`), of the payload client
(`run_attempt`) and of the colour sensor.

What these files read that is not in `Robot` is answered by `Ambient`, for each moment:
buttons, the flash, the radio, and the flags which the radio callbacks set.  The bytes of the
report are left out: of a page only the moment when it is programmed is kept.  Sounds are left
out too, but for the waits for their end.
-/
import GettingThere.Navigation
import Mathlib.Data.Finset.Card

open CrashLogic
open PayloadClient (PayloadResult BleState phaseTimeout cleanupTimeoutMs attemptTimeoutMs)

/-- What the rest of the hardware and the radio callbacks answer, for each moment. -/
structure Ambient where
  /-- GP20 reads low, and GP21 for the replay -/
  startPressed : ℕ → Bool
  replayPressed : ℕ → Bool
  cueBusy : ℕ → Bool
  /-- an operation on the flash succeeds -/
  flashOk : ℕ → Bool
  /-- the pages the report waits to be saved in, and whether its end can be marked -/
  pendingPages : ℕ → ℕ
  storeActive : ℕ → Bool
  colourFound : ℕ → Bool
  colourEnabled : ℕ → Bool
  colour : ℕ → Option ColourReading
  radioError : ℕ → Bool
  /-- `F_BLUETOOTH_READY` and `F_STARTUP_FAILED` -/
  bluetoothReady : ℕ → Bool
  startFailed : ℕ → Bool
  /-- `F_CLOSE_CONFIRMED`, and the last attempt is over and is to be retried -/
  reconnectable : ℕ → Bool
  /-- `F_ATTEMPT_RUNNING` during an attempt, and `result_get` after it -/
  attemptRuns : ℕ → Bool
  attemptResult : ℕ → PayloadResult
  bleState : ℕ → BleState
  phaseStartedMs : ℕ → UInt32
  /-- `fmodf` -/
  fmod : Float32 → Float32 → Float32
  /-- the build option `COLOUR_SCAN_TEST` -/
  scanTest : Bool

namespace MainRun

open Robot

variable (w : Ambient)

/-- Asks the rest of the hardware, or for a flag of a callback. -/
def consult {α : Type} (answer : ℕ → α) : Cmd Robot α := ask fun _ tick => answer tick

/-- `report_printf` under a condition. -/
def reportWhen (b : Bool) : Cmd Robot Unit := if b then reportPrintf else return

/-! ## The report -/

/-- Programs `n` pages, as long as all goes well. -/
def programPages : ℕ → Cmd Robot Bool
  | 0 => return true
  | n + 1 => do
    act .flash
    if ← consult w.flashOk then
      programPages n
    else
      return false

/-- `report_checkpoint`. -/
def reportCheckpoint : Cmd Robot Bool := do
  reportFlushUsb
  let pages ← consult w.pendingPages
  if ← programPages w pages then
    ask Outside.reportOk
  else
    return false

/-- The sectors of `report_flash_erase`, `n` more. -/
def eraseSectors : ℕ → Cmd Robot Bool
  | 0 => return true
  | n + 1 => do
    act .flash
    if !(← consult w.flashOk) then
      reportPrintf
      return false
    -- a press during the preparation of the log is remembered
    let _ ← stopPressed
    sleepMs
    reportWhen (n % 16 == 0)
    eraseSectors n

/-- `report_flash_erase`. -/
def reportFlashErase : Cmd Robot Bool := do
  reportPrintf
  eraseSectors w 128

/-- `report_store_begin`. -/
def reportStoreBegin : Cmd Robot Bool := do
  if ← reportFlashErase w then
    programPages w 1
  else
    return false

/-- `report_begin`. -/
def reportBegin : Cmd Robot Bool := do
  if ← reportStoreBegin w then
    reportCheckpoint w
  else
    -- the report has failed, and there is only the flush of `report_checkpoint`
    reportFlushUsb
    return false

/-- `report_store_finish`. -/
def reportStoreFinish : Cmd Robot Bool := do
  if ← consult w.storeActive then
    programPages w 1
  else
    return false

/-- `report_finish`. -/
def reportFinish : Cmd Robot Bool := do
  if ← reportCheckpoint w then
    reportStoreFinish w
  else
    return false

/-! ## A payload attempt -/

/-- `run_attempt` refuses to start. -/
def attemptRefused (reconnect : Bool) : Cmd Robot Bool := do
  if !(← consult w.bluetoothReady) then
    return true
  let s ← get
  if s.attemptRunning then
    return true
  if ← stopPressed then
    return true
  let reconnectable ← consult w.reconnectable
  return reconnect && !reconnectable

/-- An attempt that was given up: it may still run. -/
def attemptStuck : AttemptEnd := ⟨.fatal, true, fun h => absurd rfl h⟩

/-- The end of an attempt that does not run any more. -/
def attemptOver (result : PayloadResult) : AttemptEnd := ⟨result, false, fun _ => rfl⟩

/-- An attempt whose cleanup takes too long. -/
def giveUpAttempt : Cmd Robot AttemptEnd := do
  faultRaise .bleRadio
  return attemptStuck

/-- The cleanup of the attempt takes too long. -/
def cleanupOverdue (elapsed : UInt32) : Cmd Robot Bool := do
  let state ← consult w.bleState
  return decide (state = .closing ∨ state = .stoppingScan) && decide (cleanupTimeoutMs ≤ elapsed)

/-- The attempt is to be aborted now. -/
def abortDue (start elapsed : UInt32) : Cmd Robot Bool := do
  let state ← consult w.bleState
  if ← stopPressed then
    return true
  if phaseTimeout state ≤ elapsed then
    return true
  let now ← nowMs
  return decide (attemptTimeoutMs ≤ now - start)

/-- The time of the abort, once the attempt is aborted. -/
def abortStarted (start elapsed : UInt32) : Option UInt32 → Cmd Robot (Option UInt32)
  | some aborted => return some aborted
  | none => do
    if ← abortDue w start elapsed then
      let now ← nowMs
      return some now
    else
      return none

/-- The abort takes too long. -/
def abortOverdue : Option UInt32 → Cmd Robot Bool
  | none => return false
  | some aborted => do
    let now ← nowMs
    return decide (cleanupTimeoutMs ≤ now - aborted)

/-- The return of `run_attempt` after its loop. -/
def attemptReturns : Cmd Robot AttemptEnd := do
  if ← stopPressed then
    return attemptOver .fatal
  let result ← consult w.attemptResult
  return attemptOver result

/-- A round of the loop of `run_attempt`. -/
def attemptRound (start : UInt32) (aborted : Option UInt32) :
    Cmd Robot (Option UInt32 ⊕ AttemptEnd) := do
  if !(← consult w.attemptRuns) then
    modify fun s => { s with attemptRunning := false }
    return .inr (← attemptReturns w)
  reportFlushUsb
  let now ← nowMs
  let phaseStarted ← consult w.phaseStartedMs
  if ← cleanupOverdue w (now - phaseStarted) then
    return .inr (← giveUpAttempt)
  let aborted ← abortStarted w start (now - phaseStarted) aborted
  if ← abortOverdue aborted then
    return .inr (← giveUpAttempt)
  sleepMs
  return .inl aborted

/-- Notes that the attempt has completed. -/
def noteDelivered (finish : AttemptEnd) : Cmd Robot Unit :=
  if finish.result = .complete then act .delivered else return

/-- Notes that the attempt is still running at its return. -/
def noteLost (finish : AttemptEnd) : Cmd Robot Unit :=
  modify fun s => { s with attemptLost := s.attemptLost || finish.running }

/-- `run_attempt` with the motors off. -/
def beginAttempt (reconnect : Bool) : Cmd Robot AttemptEnd := do
  if ← attemptRefused w reconnect then
    let s ← get
    return ⟨.fatal, s.attemptRunning, fun h => absurd rfl h⟩
  act .attempt
  modify fun s => { s with attemptRunning := true }
  let start ← nowMs
  loop (attemptRound w start) none

/-- `run_attempt`. -/
def runAttempt (reconnect : Bool) : Cmd Robot AttemptEnd := do
  motionStop
  let finish ← beginAttempt w reconnect
  noteDelivered finish
  noteLost finish
  return finish

/-! ## What the approach uses -/

/-- `read_fresh`. -/
def readFresh : Cmd Robot (Option ColourReading) := do
  sleepMs
  consult w.colour

/-- The firmware's own headers. -/
def robotLayer : Layer Robot where
  toMotionLayer := robotMotion
  samplerInit := wifiSamplerInit
  reportCheckpoint := reportCheckpoint w
  turnToHeading := Robot.turnToHeading
  learnDirection := motionLearnDirection
  heading := motionHeading
  pauseMs := pauseChecked
  setPosition _ _ _ := wifiSamplerSetPosition
  setReference := wifiSamplerSetReference
  sample := wifiSamplerSample
  readFresh := readFresh w
  payloadAttempt _ := runAttempt w false
  payloadRetry _ := runAttempt w true
  fmod := w.fmod

/-! ## Startup -/

/-- GP20 is pressed, and GP21 is not: the replay has precedence. -/
def startAsked : Cmd Robot Bool := do
  if ← consult w.replayPressed then
    return false
  consult w.startPressed

/-- The wait for GP20; until then GP21 replays the previous run. -/
def awaitStart : Cmd Robot Unit :=
  loop (fun _ => do
    reportFlushUsb
    if ← startAsked w then
      return .inr ()
    sleepMs
    return .inl ()) ()

/-- The log of the new run is prepared, unless GP21 is pressed: `recording`. -/
def prepareLog : Cmd Robot Bool := do
  if ← stopPressed then
    reportPrintf
    return false
  reportPrintf
  if ← reportBegin w then
    return true
  faultRaise .report
  return false

/-- The loop of `wait_start_release`. -/
def releaseFrom (start : UInt32) : Cmd Robot Bool :=
  loop (fun _ => do
    if !(← consult w.startPressed) then
      return .inr true
    if ← stopPressed then
      return .inr false
    let now ← nowMs
    if 10000 ≤ now - start then
      faultRaise .startButton
      reportPrintf
      return .inr false
    sleepMs
    return .inl ()) ()

/-- `wait_start_release`. -/
def waitStartRelease : Cmd Robot Bool := do
  reportPrintf
  let start ← nowMs
  if !(← releaseFrom w start) then
    return false
  return !(← stopPressed)

/-- The IMU is tried again, if it was not ready. -/
def retryImu (ready : Bool) : Cmd Robot Bool := do
  if ready then
    return true
  reportPrintf
  motionInit

/-- From the log to a robot that may be calibrated. -/
def awaitRelease (ready recording : Bool) : Cmd Robot Bool := do
  if !recording then
    return false
  if !(← waitStartRelease w) then
    return false
  reportPrintf
  if !(← retryImu ready) then
    return false
  return !(← stopPressed)

/-- `colour_sensor_init`: whether the sensor is available. -/
def colourSensorInit : Cmd Robot Bool := do
  if !(← consult w.colourFound) then
    reportPrintf
    return false
  sleepMs
  let enabled ← consult w.colourEnabled
  reportPrintf
  return enabled

/-- The calibration of the gyro. -/
def calibrate : Cmd Robot Bool := do
  reportPrintf
  if ← motionCalibrate then
    return true
  reportPrintf
  return false

/-- The wait for Bluetooth goes on. -/
def bluetoothPending (start : UInt32) : Cmd Robot Bool := do
  if ← consult w.bluetoothReady then
    return false
  if ← consult w.startFailed then
    return false
  if ← stopPressed then
    return false
  let now ← nowMs
  return decide (now - start < 10000)

/-- A line for each second of the wait, after the time of the last one. -/
def reportProgress (last : UInt32) : Cmd Robot UInt32 := do
  let now ← nowMs
  if now - last < 1000 then
    return last
  reportPrintf
  nowMs

/-- The wait for Bluetooth. -/
def awaitBluetooth (start : UInt32) : Cmd Robot Unit :=
  loop (fun last => do
    if !(← bluetoothPending w start) then
      return .inr ()
    reportFlushUsb
    let last ← reportProgress last
    sleepMs
    return .inl last) start

/-- Bluetooth has started, and STOP is not pressed. -/
def bluetoothUp : Cmd Robot Bool := do
  if !(← consult w.bluetoothReady) then
    return false
  if ← consult w.startFailed then
    return false
  return !(← stopPressed)

/-- Bluetooth has not started. -/
def failBluetooth : Cmd Robot Unit := do
  if !(← stopPressed) then
    faultRaise .bleRadio
  let _ ← stopPressed
  reportPrintf

/-- Wi-Fi and Bluetooth are started. -/
def startRadio : Cmd Robot Bool := do
  reportPrintf
  if ← consult w.radioError then
    faultRaise .bleRadio
    reportPrintf
    return false
  modify fun s => { s with radioOn := true }
  reportPrintf
  let start ← nowMs
  awaitBluetooth w start
  if ← bluetoothUp w then
    reportPrintf
    return true
  failBluetooth
  return false

/-! ## The end -/

/-- The wait for the completion beeps. -/
def waitBeeps : Cmd Robot Unit :=
  loop (fun _ => do
    if !(← consult w.cueBusy) then
      return .inr ()
    if !(← pauseChecked 10) then
      return .inr ()
    return .inl ()) ()

/-- `completion_sound`. -/
def completionSound : Cmd Robot Unit := do
  motionStop
  if ← stopPressed then
    reportPrintf
  else
    reportPrintf
    waitBeeps w
    let _ ← stopPressed
    reportPrintf

/-- The result of the run: whether it was completed, if it began at all. -/
def reportResult : Option Bool → Cmd Robot Unit
  | none => reportPrintf
  | some completed => do
    motionStop
    if completed then
      completionSound w
    reportPrintf

/-- `report_faults`. -/
def reportFaults : Cmd Robot Unit := do
  reportPrintf
  let s ← get
  reportLines s.faults.card

/-- The end of the run: the radio is shut down, and the report is finished. -/
def endRun (recording : Bool) : Cmd Robot Unit := do
  motionStop
  modify fun s => { s with radioOn := false }
  reportFaults
  reportWhen (← stopPressed)
  reportPrintf
  if recording then
    if !(← reportFinish w) then
      faultRaise .report

/-! ## The run -/

/-- The lines before the wait for GP20; the test build has one more. -/
def bootLines : ℕ := if w.scanTest then 8 else 7

/-- Before the log: whether the IMU is ready. -/
def powerUp : Cmd Robot Bool := do
  let ready ← motionInit
  sleepMs
  reportLines (bootLines w)
  awaitStart w
  motionArmStop
  return ready

/-- The colour sensor and the gyro are made ready, on the way from the log to the radio. -/
def prepareSensors : Cmd (Robot × Navigation.Nav) Bool := do
  let found ← onFirst (colourSensorInit w)
  Navigation.setNav fun n => { n with colour := { n.colour with available := found } }
  onFirst calibrate

/-- The rounds of `colour_scan_run`, `n` more. -/
def scanRounds (origin : Float32) : ℕ → Bool → Cmd (Robot × Navigation.Nav) Bool
  | 0, allValid => return allValid
  | n + 1, allValid => do
    let (status, readings) ← Navigation.scanSteps (robotLayer w) origin 12 []
    onFirst (reportWhen (decide (status = .readFailed)))
    if status ≠ .done then
      return false
    let allValid := allValid && (colourScanEstimate readings).valid
    if !(← onFirst (Robot.turnToHeading origin)) then
      return false
    scanRounds origin n allValid

/-- `colour_scan_run`, of the test build. -/
def colourScanRun : Cmd (Robot × Navigation.Nav) Bool := do
  let now ← onFirst nowMs
  Navigation.setNav fun n => { n with runStartedMs := now }
  let n ← Navigation.getNav
  if !n.colour.available then
    onFirst reportPrintf
    return false
  if !(← onFirst motionLearnDirection) then
    return false
  let origin ← onFirst motionHeading
  onFirst reportPrintf
  scanRounds w origin 2 true

/-- The radio and the approach, or the test of the colour scan: whether it was completed, if it
began at all. -/
def mission : Cmd (Robot × Navigation.Nav) (Option Bool) := do
  if w.scanTest then
    if ← onFirst stopPressed then
      return none
    let scanned ← colourScanRun w
    return some scanned
  else
    if !(← onFirst (startRadio w)) then
      return none
    if ← onFirst stopPressed then
      return none
    let completed ← Navigation.approachBeacon (robotLayer w)
    return some completed

/-- Everything between the preparation of the log and the result. -/
def drive (ready recording : Bool) : Cmd (Robot × Navigation.Nav) (Option Bool) := do
  if !(← onFirst (awaitRelease w ready recording)) then
    return none
  if !(← prepareSensors w) then
    return none
  mission w

/-- `main`, up to `report_finish`. -/
def main : Cmd (Robot × Navigation.Nav) Unit := do
  let ready ← onFirst (powerUp w)
  let recording ← onFirst (prepareLog w)
  let completed ← drive w ready recording
  onFirst (reportResult w completed)
  onFirst (endRun w recording)

end MainRun
