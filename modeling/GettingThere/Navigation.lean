/-
# The approach to the beacon (`getting_there.c`)

`approach_beacon` and everything under it: the payload check at every stop, the powered
blocks, the Wi-Fi line search with its dips and returns, and the steering by colour scans on
the mat.

The hardware is used through the headers (`Layer`), over any state; the colour of the mat is
read there, and judged here.  A command works on the state of the layer and the statics of
this file (`Nav`).  Three of them are notes for the statements, newest first: `events` says
which checks were made where and what came of them, which blocks were started and how the
colour scans went; `log` is about the lines; `gate` says what the payload attempts rest on.
-/
import GettingThere.TranslationBlock
import GettingThere.ColourMat
import GettingThere.FollowLine
import GettingThere.PayloadAttempt

open CrashLogic PackedBits
open PayloadClient (PayloadResult ap1CloseRssiDbm colourArrivalBleDbm)

/-- How `payload_client_attempt` or `payload_client_retry` returns: only a fatal end may leave
the attempt running. -/
structure AttemptEnd where
  result : PayloadResult
  running : Bool
  cleaned : result ≠ .fatal → running = false

/-- What the approach needs from the headers. -/
structure Layer (ρ : Type) extends MotionLayer ρ where
  samplerInit : Cmd ρ Unit
  reportCheckpoint : Cmd ρ Bool
  turnToHeading : Float32 → Cmd ρ Bool
  learnDirection : Cmd ρ Bool
  heading : Cmd ρ Float32
  pauseMs : UInt32 → Cmd ρ Bool
  setPosition : Float32 → UInt32 → Bool → Cmd ρ Unit
  setReference : WifiSample → Cmd ρ Unit
  sample : Cmd ρ Bool → Cmd ρ (Option WifiSample)
  readFresh : Cmd ρ (Option ColourReading)
  /-- `payload_client_attempt` and `payload_client_retry` with the close threshold that was
  set -/
  payloadAttempt : ℤ → Cmd ρ AttemptEnd
  payloadRetry : ℤ → Cmd ρ AttemptEnd
  /-- `fmodf` -/
  fmod : Float32 → Float32 → Float32

namespace Navigation

/-! ## Statics and notes -/

/-- Where `check_payload` is called. -/
inductive Place
  | start
  | steering
  | follow
  | followWifi
  | dip
  | probe
  | returning
  deriving DecidableEq, Repr

/-- What is noted of a run. -/
inductive Event
  /-- a `check_payload`: where, `colour_arrived`, its result, and the scans used so far -/
  | checked (place : Place) (arrived : Bool) (result : PayloadResult) (scans : ℕ)
  /-- a colour scan: whether it gives a direction to steer in -/
  | scanned (ok : Bool)
  /-- a `translate_block`: whether it passes the test of the budget -/
  | block (forwards fits : Bool)
  /-- a drive: its duration and the powered time reported for it -/
  | driven (duration actual : UInt32)
  deriving DecidableEq, Repr

/-- What is noted for the payload attempts. -/
inductive GateNote
  /-- a turn or a drive is asked for -/
  | moved
  /-- an arrival check whose readings all succeeded -/
  | checked (zones : List Zone)
  /-- a colour scan that was completed -/
  | scan (zones : List Zone)
  /-- an attempt: its close threshold, and whether the colour sensor is available -/
  | attempt (dbm : ℤ) (available : Bool)
  | retry (dbm : ℤ)
  deriving DecidableEq, Repr

/-- The statics of `getting_there.c` and of `colour_sensor.c`, and the close threshold and the
flag `F_ATTEMPT_RUNNING` of `payload_client.c`. -/
structure Nav where
  runStartedMs : UInt32
  translationMs : UInt32
  wifiQuiescent : Bool
  colourArrived : Bool
  stepOnMat : Bool
  profileCount : ℕ
  matScansUsed : ℕ
  colour : ColourSensor
  closeRssiDbm : ℤ
  attemptRunning : Bool
  events : List Event
  log : List LineNote
  gate : List GateNote

/-- `MAX_PAYLOAD_ATTEMPTS`, `MAX_MISSING_SAMPLES`, `MAT_MAX_SCANS`, `MAT_ARRIVED_RETRIES`,
`MAT_STEPS_PER_SCAN`, `SEARCH_DIRECTIONS`. -/
def maxPayloadAttempts : ℕ := 3
def maxMissingSamples : ℕ := 3
def matMaxScans : ℕ := 6
def matArrivedRetries : ℕ := 3
def matStepsPerScan : ℕ := 4

/-- `LINE_TRANSLATION_MS`, `LINE_BLOCK_MS`, `BLOCK_RESERVE_MS`. -/
def lineTranslationMs : UInt32 := 60000
def lineBlockMs : UInt32 := 750
def blockReserveMs : UInt32 := 25

/-- `LINE_FORWARD_BLOCK_MS`, `LINE_MAT_BLOCK_MS`, `LINE_DIP_PROBE_MS`,
`LINE_DIRECTION_TEST_MS`, `LINE_SWEEP_MS`. -/
def lineForwardBlockMs : UInt32 := 500
def lineMatBlockMs : UInt32 := 250
def lineDipProbeMs : UInt32 := 250
def lineDirectionTestMs : UInt32 := 2400
def lineSweepMs : UInt32 := 6000

/-- `LINE_DIP_MAX_PROBES`, `LINE_PROFILE_CAPACITY`. -/
def lineDipMaxProbes : ℕ := 2
def lineProfileCapacity : ℕ := 32

variable {ρ : Type} (L : Layer ρ)

/-- Changes the statics. -/
def setNav (f : Nav → Nav) : Cmd (ρ × Nav) Unit := modify fun s => (s.1, f s.2)

/-- Looks at the statics. -/
def getNav : Cmd (ρ × Nav) Nav := do
  let s ← get
  return s.2

/-- Notes an event. -/
def note (e : Event) : Cmd (ρ × Nav) Unit := setNav fun n => { n with events := e :: n.events }

/-- Notes something about a line. -/
def noteLine (e : LineNote) : Cmd (ρ × Nav) Unit := setNav fun n => { n with log := e :: n.log }

/-- Notes something for the payload attempts. -/
def noteGate (e : GateNote) : Cmd (ρ × Nav) Unit :=
  setNav fun n => { n with gate := e :: n.gate }

/-- `report_printf`. -/
def reportPrintf : Cmd (ρ × Nav) Unit := modify fun s => (L.reportPrintf s.1, s.2)

/-- `report_printf` under a condition. -/
def reportIf (b : Bool) : Cmd (ρ × Nav) Unit := if b then reportPrintf L else return

/-- `motion_turn_to_heading`. -/
def turnToHeading (heading : Float32) : Cmd (ρ × Nav) Bool := do
  noteGate .moved
  onFirst (L.turnToHeading heading)

/-- Repeats `body` until it has a result. -/
def repeatRounds {β γ : Type} (body : β → Cmd (ρ × Nav) (β ⊕ γ)) (b : β) : Cmd (ρ × Nav) γ := do
  let s ← get
  iterate (L.rounds s.1) body b

/-! ## Stops -/

/-- `run_can_continue`. -/
def runCanContinue : Cmd (ρ × Nav) Bool := do
  let n ← getNav
  onFirst (L.runCanContinue n.runStartedMs)

/-- `save_checkpoint`. -/
def saveCheckpoint : Cmd (ρ × Nav) Bool := do
  onFirst L.stop
  let n ← getNav
  if !n.wifiQuiescent then
    return false
  if !(← onFirst (L.quiesce (L.runCanContinue n.runStartedMs))) then
    return false
  if ← onFirst L.reportCheckpoint then
    return true
  onFirst (L.faultRaise .report)
  return false

/-- The readings of `colour_arrival_check`, `n` more: their zones, unless one fails. -/
def readZones : ℕ → List Zone → Cmd (ρ × Nav) (Option (List Zone))
  | 0, zones => return some zones
  | n + 1, zones => do
    match ← onFirst L.readFresh with
    | none => return none
    | some reading => readZones n (zones ++ [colourClassify reading])

/-- `colour_arrival_check`. -/
def colourArrivalCheck : Cmd (ρ × Nav) Bool := do
  let n ← getNav
  if !n.colour.available then
    return false
  setNav fun n => { n with colour := n.colour.startCheck }
  match ← readZones L 3 [] with
  | none =>
    setNav fun n => { n with colour := n.colour.failCheck }
    reportPrintf L
    return false
  | some zones =>
    noteGate (.checked zones)
    let n ← getNav
    let (colour, arrived) := n.colour.finishCheck zones
    setNav fun n => { n with colour := colour }
    reportPrintf L
    return arrived

/-- `payload_client_set_close_threshold`. -/
def setCloseThreshold (dbm : ℤ) : Cmd (ρ × Nav) Unit :=
  setNav fun n => if n.attemptRunning then n else { n with closeRssiDbm := dbm }

/-- `payload_client_attempt`. -/
def payloadClientAttempt : Cmd (ρ × Nav) PayloadResult := do
  let n ← getNav
  noteGate (.attempt n.closeRssiDbm n.colour.available)
  let finish ← onFirst (L.payloadAttempt n.closeRssiDbm)
  setNav fun n => { n with attemptRunning := finish.running }
  return finish.result

/-- `payload_client_retry`. -/
def payloadClientRetry : Cmd (ρ × Nav) PayloadResult := do
  let n ← getNav
  noteGate (.retry n.closeRssiDbm)
  let finish ← onFirst (L.payloadRetry n.closeRssiDbm)
  setNav fun n => { n with attemptRunning := finish.running }
  return finish.result

/-- The part of `check_payload` before the first attempt: whether the robot may be close. -/
def closeGate : Cmd (ρ × Nav) Bool := do
  let onMat ← colourArrivalCheck L
  setNav fun n => { n with colourArrived := onMat }
  let n ← getNav
  if !onMat && n.colour.available then
    reportPrintf L
    return false
  setCloseThreshold (if onMat then colourArrivalBleDbm else ap1CloseRssiDbm)
  reportIf L onMat
  return true

/-- An attempt of `check_payload`: its result, unless it waits for the colour mat. -/
def payloadTry (wasClose : Bool) : Cmd (ρ × Nav) (Option PayloadResult) := do
  if wasClose then
    let result ← payloadClientRetry L
    return some result
  if ← closeGate L then
    let result ← payloadClientAttempt L
    return some result
  return none

/-- The attempts of `check_payload`, `n` more; close range is kept once it was found. -/
def payloadAttempts : ℕ → Bool → Cmd (ρ × Nav) PayloadResult
  | 0, _ => do
    onFirst (L.faultRaise .payload)
    reportPrintf L
    return .fatal
  | n + 1, wasClose => do
    if !(← runCanContinue L) then
      return .fatal
    if !(← saveCheckpoint L) then
      return .fatal
    match ← payloadTry L wasClose with
    | none => return .notClose
    | some .fatal => return .fatal
    | some result =>
      if !(← saveCheckpoint L) then
        return .fatal
      if result = .complete ∨ (result = .notClose ∧ wasClose = false) then
        return result
      if n = 0 then
        payloadAttempts n true
      else
        reportPrintf L
        if ← onFirst (L.pauseMs 200) then
          payloadAttempts n true
        else
          return .fatal

/-- `check_payload`. -/
def checkPayload (place : Place) : Cmd (ρ × Nav) PayloadResult := do
  setNav fun n => { n with colourArrived := false }
  let result ← payloadAttempts L maxPayloadAttempts false
  let n ← getNav
  note (.checked place n.colourArrived result n.matScansUsed)
  return result

/-- `wait_for_wifi`, `n` samples more: a sample, or the result that ends the run. -/
def waitForWifi (place : Place) : ℕ → Cmd (ρ × Nav) (Except PayloadResult WifiSample)
  | 0 => do
    reportPrintf L
    return .error .fatal
  | n + 1 => do
    let s ← getNav
    match ← onFirst (L.sample (L.runCanContinue s.runStartedMs)) with
    | none => return .error .fatal
    | some sample =>
      if !(← saveCheckpoint L) then
        return .error .fatal
      if sample.code ≠ rssiMissingCode then
        return .ok sample
      reportPrintf L
      let result ← checkPayload L place
      if result = .complete ∨ result = .fatal then
        return .error result
      if !(← onFirst (L.pauseMs 500)) then
        return .error .fatal
      waitForWifi place n

/-- `measure_pair`. -/
def measurePair (place : Place) : Cmd (ρ × Nav) (Except PayloadResult LinePair) := do
  match ← waitForWifi L place maxMissingSamples with
  | .error result => return .error result
  | .ok first =>
    match ← waitForWifi L place maxMissingSamples with
    | .error result => return .error result
    | .ok second => return .ok ⟨first, second⟩

/-! ## Blocks -/

/-- `translation_cost`. -/
def translationCost (duration : UInt32) : UInt32 :=
  duration + (duration + lineBlockMs - 1) / lineBlockMs * blockReserveMs

/-- The test of `reserve_translation`. -/
def fits (used required : UInt32) : Bool :=
  decide (used ≤ lineTranslationMs) && decide (required ≤ lineTranslationMs - used)

/-- `reserve_translation`. -/
def reserveTranslation (required : UInt32) : Cmd (ρ × Nav) Bool := do
  let n ← getNav
  if fits n.translationMs required then
    return ← runCanContinue L
  onFirst (L.stopFor .translationLimit)
  reportPrintf L
  return false

/-- `line_normalise_heading`. -/
def lineNormaliseHeading (heading : Float32) : Float32 :=
  let heading := L.fmod heading 360
  if heading < 0 then heading + 360 else heading

/-- The end of `translate_block`: the powered time is charged and checked. -/
def chargeBlock (place : Place) (duration : UInt32) (block : MotionLayer.Block) :
    Cmd (ρ × Nav) PayloadResult := do
  note (.driven duration block.actual)
  setNav fun n => { n with
    translationMs := n.translationMs + block.actual
    wifiQuiescent := block.quiesced }
  if !block.quiesced then
    return .fatal
  if !block.ok || !block.finished then
    return .fatal
  if !(← runCanContinue L) then
    return .fatal
  let n ← getNav
  if block.actual = 0 ∨ duration + blockReserveMs < block.actual ∨
      lineTranslationMs < n.translationMs then
    onFirst (L.faultRaise .translationLimit)
    reportPrintf L
    return .fatal
  checkPayload L place

/-- `translate_block`: its result, and the powered time. -/
def translateBlock (place : Place) (forwards : Bool) (duration : UInt32) (heading : Float32)
    (position reservedReturn : UInt32) (acquireMoving : Bool) :
    Cmd (ρ × Nav) (PayloadResult × UInt32) := do
  let required := translationCost duration + reservedReturn
  let n ← getNav
  note (.block forwards (fits n.translationMs required))
  noteGate .moved
  if !(← reserveTranslation L required) then
    return (.fatal, 0)
  if !(← saveCheckpoint L) then
    return (.fatal, 0)
  onFirst (L.setPosition heading position forwards)
  match ← onFirst (L.driveBlock n.runStartedMs forwards duration heading acquireMoving) with
  | none => return (.fatal, 0)
  | some block =>
    let result ← chargeBlock L place duration block
    return (result, block.actual)

/-- One block of `return_along_line`: what remains, or the result that ends the run. -/
def returnBlock (target : UInt32) (heading : Float32) (remaining : UInt32) :
    Cmd (ρ × Nav) (UInt32 ⊕ PayloadResult) := do
  if remaining = 0 then
    return .inr .notClose
  let block := min lineBlockMs remaining
  let (result, actual) ← translateBlock L .returning false block heading (target + remaining)
    (translationCost (remaining - block)) false
  if result ≠ .notClose then
    return .inr result
  return .inl (if actual < remaining then remaining - actual else 0)

/-- `return_along_line`. -/
def returnAlongLine (position target : UInt32) (heading : Float32) :
    Cmd (ρ × Nav) PayloadResult := do
  reportPrintf L
  let result ← repeatRounds L (returnBlock L target heading) (position - target)
  if result = .notClose then
    onFirst (L.setPosition heading target true)
  return result

/-- `record_point`. -/
def recordPoint : Cmd (ρ × Nav) Bool := do
  let n ← getNav
  if lineProfileCapacity ≤ n.profileCount then
    onFirst (L.stopFor .profile)
    reportPrintf L
    return false
  setNav fun n => { n with profileCount := n.profileCount + 1 }
  reportPrintf L
  saveCheckpoint L

/-- `forward_block_ms`. -/
def forwardBlockMs : Cmd (ρ × Nav) UInt32 := do
  let n ← getNav
  let onMat := n.colour.colourOnMat
  if onMat ≠ n.stepOnMat then
    setNav fun n => { n with stepOnMat := onMat }
    reportPrintf L
  return if onMat then lineMatBlockMs else lineForwardBlockMs

/-! ## Steering on the mat -/

/-- `scan_status_t`. -/
inductive ScanStatus
  | done
  | readFailed
  | stopped
  deriving DecidableEq, Repr

/-- `colour_sensor_read`. -/
def colourSensorRead : Cmd (ρ × Nav) (Option ColourReading) := do
  let n ← getNav
  if n.colour.available then
    onFirst L.readFresh
  else
    return none

/-- `scan_read`: the median of three readings. -/
def scanRead : Cmd (ρ × Nav) (Option ColourReading) := do
  match ← colourSensorRead L with
  | none => return none
  | some a =>
    match ← colourSensorRead L with
    | none => return none
    | some b =>
      match ← colourSensorRead L with
      | none => return none
      | some c =>
        let sorted := [a, b, c].insertionSort fun x y => colourGrX1000 x ≤ colourGrX1000 y
        return sorted[1]?

/-- The steps of `colour_scan_turn`, `n` more, after the readings so far. -/
def scanSteps (origin : Float32) : ℕ → List (ℤ × ColourReading) →
    Cmd (ρ × Nav) (ScanStatus × List (ℤ × ColourReading))
  | 0, readings => do
    reportPrintf L
    return (.done, readings)
  | n + 1, readings => do
    if !(← runCanContinue L) then
      return (.stopped, readings)
    let angle : ℤ := readings.length * 30
    if !(← turnToHeading L (origin + Robot.intToFloat angle)) then
      return (.stopped, readings)
    if !(← onFirst (L.pauseMs 200)) then
      return (.stopped, readings)
    match ← scanRead L with
    | none =>
      reportPrintf L
      return (.readFailed, readings)
    | some reading =>
      reportPrintf L
      if !(← onFirst L.reportCheckpoint) then
        onFirst (L.faultRaise .report)
        return (.stopped, readings)
      scanSteps origin n (readings ++ [(angle, reading)])

/-- A scan gives a direction to steer in. -/
def steerable (est : ColourScanResult) : Bool :=
  est.valid && decide (Zone.ring1.depth ≤ est.maxDepth)

/-- A scan that saw the ring pattern lets a robot started on ring 4 arrive. -/
def noteLighter (readings : List (ℤ × ColourReading)) : Cmd (ρ × Nav) Unit := setNav fun n =>
  if readings.any fun x => (colourClassify x.2).lighterMat then
    { n with colour := n.colour.noteLighterMat }
  else n

/-- The scan of `mat_approach`: the angle to turn to, or the result with which it ends. -/
def matScan (origin : Float32) : Cmd (ρ × Nav) (PayloadResult ⊕ ℤ) := do
  let (status, readings) ← scanSteps L origin 12 []
  if status = .stopped then
    return .inl .fatal
  if status = .readFailed then
    note (.scanned false)
    reportPrintf L
    return .inl .notClose
  noteGate (.scan (readings.map fun x => colourClassify x.2))
  noteLighter readings
  let est := colourScanEstimate readings
  note (.scanned (steerable est))
  if !steerable est then
    reportPrintf L
    return .inl .notClose
  return .inr est.vectorAngle

/-- `mat_wait_on_arrival`, `n` retries more. -/
def matWaitOnArrival : ℕ → Cmd (ρ × Nav) PayloadResult
  | 0 => do
    onFirst (L.faultRaise .payload)
    reportPrintf L
    return .fatal
  | n + 1 => do
    reportPrintf L
    if !(← onFirst (L.pauseMs 1000)) then
      return .fatal
    let result ← checkPayload L .steering
    if result ≠ .notClose then
      return result
    let s ← getNav
    if !s.colourArrived then
      return .notClose
    matWaitOnArrival n

/-- Waits if the check has found the arrival. -/
def waitIfArrived : Cmd (ρ × Nav) PayloadResult := do
  let s ← getNav
  if s.colourArrived then
    matWaitOnArrival L matArrivedRetries
  else
    return .notClose

/-- The steps of `mat_approach` after a scan, `n` more. -/
def matSteps (heading : Float32) : ℕ → ℤ → Cmd (ρ × Nav) PayloadResult
  | 0, _ => return .notClose
  | n + 1, previous => do
    let (result, _) ← translateBlock L .steering true lineMatBlockMs heading 0 0 false
    if result ≠ .notClose then
      return result
    let s ← getNav
    let depth := s.colour.colourLastDepth
    reportPrintf L
    let result ← waitIfArrived L
    if result ≠ .notClose then
      return result
    if depth < previous then
      return .notClose
    matSteps heading n depth

/-- A scan of `mat_approach` and what follows it; it goes on to the next scan, or ends. -/
def matRound : Cmd (ρ × Nav) (Unit ⊕ PayloadResult) := do
  if !(← runCanContinue L) then
    return .inr .fatal
  setNav fun n => { n with matScansUsed := n.matScansUsed + 1 }
  let origin ← onFirst L.heading
  match ← matScan L origin with
  | .inl result => return .inr result
  | .inr angle =>
    let heading := lineNormaliseHeading L (origin + Robot.intToFloat angle)
    reportPrintf L
    if !(← turnToHeading L heading) then
      return .inr .fatal
    let result ← checkPayload L .steering
    if result ≠ .notClose then
      return .inr result
    let result ← waitIfArrived L
    if result ≠ .notClose then
      return .inr result
    let s ← getNav
    let result ← matSteps L heading matStepsPerScan s.colour.colourLastDepth
    if result ≠ .notClose then
      return .inr result
    return .inl ()

/-- The loop of `mat_approach`. -/
def matLoop : Cmd (ρ × Nav) PayloadResult :=
  repeatRounds L (fun _ => do
    let n ← getNav
    if n.matScansUsed < matMaxScans then
      matRound L
    else
      reportPrintf L
      return .inr .notClose) ()

/-- `mat_approach`. -/
def matApproach : Cmd (ρ × Nav) PayloadResult := do
  reportPrintf L
  matLoop L

/-- `mat_steering_ready`. -/
def matSteeringReady : Cmd (ρ × Nav) Bool := do
  let n ← getNav
  return n.colour.colourOnMat && decide (n.matScansUsed < matMaxScans)

/-! ## Following a line -/

/-- `follow_end_t`. -/
inductive FollowEnd
  | noGain
  | decline
  | mat
  deriving DecidableEq, Repr

/-- `follow_result_t`. -/
structure FollowResult where
  heading : Float32
  progress : Bool
  consistent : Bool
  ending : FollowEnd
  position : UInt32
  baseline : LinePair

/-- The result of `follow_direction` at the end of a line. -/
def lineResult (l : Line) (ending : FollowEnd) (consistent : Bool) : FollowResult :=
  ⟨lineNormaliseHeading L l.heading, l.progress, consistent, ending, l.position, l.baseline⟩

/-- The forward probes of `recheck_and_probe_dip`, `n` more: whether the signal recovered, the
position, and the readings there. -/
def probeDip (heading : Float32) (bestPosition : UInt32) (reference : LinePair) :
    ℕ → UInt32 → LinePair → Cmd (ρ × Nav) (Except PayloadResult (Bool × UInt32 × LinePair))
  | 0, position, current => do
    reportPrintf L
    return .ok (false, position, current)
  | n + 1, position, _ => do
    reportPrintf L
    let (result, actual) ← translateBlock L .probe true lineDipProbeMs heading position
      (translationCost (position + lineDipProbeMs + blockReserveMs - bestPosition)) false
    let position := position + actual
    if result ≠ .notClose then
      return .error result
    onFirst (L.setPosition heading position true)
    match ← measurePair L .followWifi with
    | .error result => return .error result
    | .ok current =>
      reportPrintf L
      if !(← saveCheckpoint L) then
        return .error .fatal
      noteLine (.dip (lineDipMaxProbes - n) bestPosition reference position current)
      if lineReturnConsistent reference current then
        return .ok (true, position, current)
      probeDip heading bestPosition reference n position current

/-- `recheck_and_probe_dip`. -/
def recheckAndProbeDip (heading : Float32) (bestPosition : UInt32) (reference : LinePair)
    (position : UInt32) : Cmd (ρ × Nav) (Except PayloadResult (Bool × UInt32 × LinePair)) := do
  onFirst L.stop
  reportPrintf L
  let result ← checkPayload L .dip
  if result ≠ .notClose then
    return .error result
  match ← measurePair L .followWifi with
  | .error result => return .error result
  | .ok current =>
    reportPrintf L
    if !(← saveCheckpoint L) then
      return .error .fatal
    noteLine (.dip 0 bestPosition reference position current)
    if lineReturnConsistent reference current then
      return .ok (true, position, current)
    probeDip L heading bestPosition reference lineDipMaxProbes position current

/-- What a part of `follow_direction` leads to: the line goes on, or the function returns. -/
abbrev FollowStep (α : Type) := α ⊕ Except PayloadResult FollowResult

/-- A block of `follow_direction`, and the readings behind it. -/
def followBlock (l : Line) (step : UInt32) : Cmd (ρ × Nav) (FollowStep (Line × LinePair)) := do
  let block := l.block step
  onFirst (L.setReference (lineReference l.best))
  let (result, actual) ← translateBlock L .follow true block l.heading l.position
    (translationCost (l.position + block + blockReserveMs - l.bestPosition)) true
  let l := { l with position := l.position + actual }
  if result ≠ .notClose then
    return .inr (.error result)
  if ← matSteeringReady then
    reportPrintf L
    return .inr (.ok (lineResult L l .mat false))
  onFirst (L.setPosition l.heading l.position true)
  match ← measurePair L .followWifi with
  | .error result => return .inr (.error result)
  | .ok current =>
    if !(← recordPoint L) then
      return .inr (.error .fatal)
    noteLine (.visited l step current)
    reportPrintf L
    return .inl (l, current)

/-- The end of a line whose decline has persisted: the return to the best position. -/
def endDecline (l : Line) : Cmd (ρ × Nav) (Except PayloadResult FollowResult) := do
  noteLine (.reversed l.position l.bestPosition)
  reportPrintf L
  let result ← returnAlongLine L l.position l.bestPosition l.heading
  if result ≠ .notClose then
    return .error result
  match ← measurePair L .followWifi with
  | .error result => return .error result
  | .ok returned =>
    reportPrintf L
    return .ok (lineResult L l .decline (lineReturnConsistent l.best returned))

/-- The decline of a line, after the readings at its position. -/
def followDecline (l : Line) (step : UInt32) (current : LinePair) :
    Cmd (ρ × Nav) (FollowStep (Line × LinePair)) := do
  if !lineReferenceDeclined l.declineReference current then
    reportIf L (l.dipActive && l.declinePositions ≠ 0)
    return .inl (l.clear current, current)
  reportIf L !l.dipActive
  let l := l.decline step
  reportPrintf L
  if l.declinePositions < lineDeclinePositions then
    return .inl (l, current)
  match ← recheckAndProbeDip L l.heading l.bestPosition l.declineReference l.position with
  | .error result => return .inr (.error result)
  | .ok (recovered, position, current) =>
    if recovered then
      reportPrintf L
      return .inl (l.recover position, current)
    let result ← endDecline L { l with position := position }
    return .inr result

/-- The end of a round of `follow_direction`: a trial may end, and so may an interval. -/
def followEnd (l : Line) : Cmd (ρ × Nav) (FollowStep Line) := do
  if l.trialMs ≠ 0 ∧ l.progress = false ∧ l.trialMs ≤ l.position ∧ l.declinePositions = 0 then
    reportPrintf L
    return .inr (.ok (lineResult L l .noGain false))
  if l.position - l.segmentStart < lineSweepMs then
    return .inl l
  reportPrintf L
  setNav fun n => { n with profileCount := 0 }
  if ← recordPoint L then
    return .inl { l with segmentStart := l.position }
  return .inr (.error .fatal)

/-- The lines about a new best position and about a new reference. -/
def reportJudged (l : Line) (current : LinePair) : Cmd (ρ × Nav) Unit := do
  reportIf L (l.stronger current && !l.progress)
  reportIf L (l.stronger current)
  reportIf L ((l.keepBest current).strengthens current)

/-- A round of `follow_direction`. -/
def followRound (l : Line) : Cmd (ρ × Nav) (FollowStep Line) := do
  noteLine (.head l)
  if !(← runCanContinue L) then
    return .inr (.error .fatal)
  let step ← forwardBlockMs L
  match ← followBlock L l step with
  | .inr result => return .inr result
  | .inl (l, current) =>
    match ← followDecline L l step current with
    | .inr result => return .inr result
    | .inl (l, current) =>
      noteLine (.judged l current)
      reportJudged L l current
      followEnd L ((l.keepBest current).keepReference current)

/-- `follow_direction`. -/
def followDirection (heading : Float32) (trialMs : UInt32) :
    Cmd (ρ × Nav) (Except PayloadResult FollowResult) := do
  setNav fun n => { n with profileCount := 0 }
  if !(← turnToHeading L heading) then
    return .error .fatal
  onFirst (L.setPosition heading 0 true)
  match ← measurePair L .followWifi with
  | .error result => return .error result
  | .ok best =>
    if !(← recordPoint L) then
      return .error .fatal
    noteLine (.began best)
    reportPrintf L
    repeatRounds L (followRound L) (Line.first heading trialMs best)

/-! ## The approach -/

/-- The return of `check_directions` after a trial without gain. -/
def endTrial (heading : Float32) (followed : FollowResult) :
    Cmd (ρ × Nav) (Except PayloadResult FollowResult) := do
  reportPrintf L
  let result ← returnAlongLine L followed.position 0 heading
  if result ≠ .notClose then
    return .error result
  match ← measurePair L .followWifi with
  | .error result => return .error result
  | .ok returned =>
    reportPrintf L
    return .ok { followed with consistent := lineReturnConsistent followed.baseline returned }

/-- The trials of `check_directions` for the offsets that remain: the last direction followed,
and whether it was found. -/
def checkDirections (origin : Float32) : List Float32 → FollowResult →
    Cmd (ρ × Nav) (Except PayloadResult (FollowResult × Bool))
  | [], followed => return .ok (followed, false)
  | offset :: offsets, _ => do
    let heading := lineNormaliseHeading L (origin + offset)
    match ← followDirection L heading lineDirectionTestMs with
    | .error result => return .error result
    | .ok followed =>
      if followed.progress = true ∨ followed.ending = .mat then
        return .ok (followed, true)
      if followed.ending = .noGain then
        match ← endTrial L heading followed with
        | .error result => return .error result
        | .ok followed => checkDirections origin offsets followed
      else
        checkDirections origin offsets followed

/-- The offsets of `check_directions`: both perpendiculars, then straight back. -/
def searchOffsets : List Float32 := [-90, 90, 180]

/-- Follows the heading the robot has. -/
def followAhead : Cmd (ρ × Nav) (Except PayloadResult FollowResult) := do
  let heading ← onFirst L.heading
  followDirection L heading 0

/-- A round of `approach_beacon` on the mat. -/
def approachMat : Cmd (ρ × Nav) (FollowResult ⊕ Bool) := do
  let result ← matApproach L
  if result ≠ .notClose then
    return .inr (decide (result = .complete))
  reportPrintf L
  match ← followAhead L with
  | .error result => return .inr (decide (result = .complete))
  | .ok followed => return .inl followed

/-- A round of `approach_beacon` after a line that has declined. -/
def approachSearch (followed : FollowResult) : Cmd (ρ × Nav) (FollowResult ⊕ Bool) := do
  reportIf L !followed.consistent
  reportPrintf L
  match ← checkDirections L followed.heading searchOffsets followed with
  | .error result => return .inr (decide (result = .complete))
  | .ok (followed, found) =>
    if found then
      return .inl followed
    onFirst (L.faultRaise .noDirection)
    reportPrintf L
    return .inr false

/-- A round of the loop of `approach_beacon`. -/
def approachRound (followed : FollowResult) : Cmd (ρ × Nav) (FollowResult ⊕ Bool) := do
  if !(← runCanContinue L) then
    return .inr false
  match followed.ending with
  | .mat => approachMat L
  | .decline => approachSearch L followed
  | .noGain =>
    onFirst (L.faultRaise .noDirection)
    reportPrintf L
    return .inr false

/-- The first line of `approach_beacon`, unless the robot was started on the mat. -/
def approachStart : Cmd (ρ × Nav) (Except PayloadResult FollowResult) := do
  if ← matSteeringReady then
    return .ok ⟨0, false, false, .mat, 0, ⟨⟨0, 0⟩, ⟨0, 0⟩⟩⟩
  followAhead L

/-- The statics before a run, with what is known of the colour sensor. -/
def Nav.boot (colour : ColourSensor) : Nav where
  runStartedMs := 0
  translationMs := 0
  wifiQuiescent := true
  colourArrived := false
  stepOnMat := false
  profileCount := 0
  matScansUsed := 0
  colour := colour
  closeRssiDbm := ap1CloseRssiDbm
  attemptRunning := false
  events := []
  log := []
  gate := []

/-- The statics at the start of `approach_beacon`. -/
def Nav.start (now : UInt32) (n : Nav) : Nav :=
  { n with
    runStartedMs := now
    translationMs := 0
    wifiQuiescent := true
    colour := n.colour.reset
    stepOnMat := false
    matScansUsed := 0
    events := []
    log := []
    gate := [] }

/-- `approach_beacon`: whether the payload was delivered. -/
def approachBeacon : Cmd (ρ × Nav) Bool := do
  let now ← onFirst L.nowMs
  onFirst L.samplerInit
  setNav (Nav.start now)
  let result ← checkPayload L .start
  if result ≠ .notClose then
    return decide (result = .complete)
  match ← waitForWifi L .start maxMissingSamples with
  | .error result => return decide (result = .complete)
  | .ok _ =>
    noteGate .moved
    if !(← onFirst L.learnDirection) then
      return false
    reportPrintf L
    match ← approachStart L with
    | .error result => return decide (result = .complete)
    | .ok followed => repeatRounds L (approachRound L) followed

end Navigation
