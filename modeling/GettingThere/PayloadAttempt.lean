/-
# One attempt after another (`run_attempt` and `check_payload`)

The main thread runs `check_payload` and, inside it, `run_attempt`; the BTstack run loop
runs the callbacks of `PayloadClient` between any two of its instructions.  A main step
touches the shared statics once at most: reading or writing a flag, polling STOP or handing
a callback to the run loop is a step of its own, and arithmetic on locals goes with the
step before it.

* `Main` is the program counter of the main thread with the locals of the two functions.
* `Sys` adds the client's statics and the callbacks waiting in the run loop.
* `step` lets the main thread, the run loop or the radio move.

One thing stands for code around these functions: `check_payload` is not called again once
it has returned anything but `PAYLOAD_NOT_CLOSE`, since its callers end the approach.  When
the run loop gets to a registered callback is left open; `Sys.Prompt` names the runs in
which it has run the callbacks of one attempt before the next one begins.
-/
import GettingThere.PayloadClient
import GettingThere.Transition

namespace PayloadClient

open TransferProtocol

/-! ## Time limits -/

/-- `CLEANUP_TIMEOUT_MS`. -/
def cleanupTimeoutMs : UInt32 := 3000

/-- `ATTEMPT_TIMEOUT_MS`. -/
def attemptTimeoutMs : UInt32 := 30000

/-- `phase_timeout`. -/
def phaseTimeout : BleState → UInt32
  | .scanning => 5000
  | .connecting | .discoverService | .discoverCharacteristic | .enableNotifications => 15000
  | .stoppingScan | .closing => cleanupTimeoutMs
  | _ => 5000

/-- `MAX_PAYLOAD_ATTEMPTS`. -/
def maxPayloadAttempts : ℕ := 3

/-- `AP1_CLOSE_RSSI_DBM`. -/
def ap1CloseRssiDbm : ℤ := -58

/-- `COLOUR_ARRIVAL_BLE_DBM`. -/
def colourArrivalBleDbm : ℤ := -85

/-! ## The main thread -/

/-- Where the main thread stands: outside `check_payload`, in its loop, or at one of the
accesses `run_attempt` makes to the shared statics. -/
inductive Pc
  | driving
  | checking
  | testReady
  | testRunning
  | testStop
  | testConfirmed
  | testIdle
  | testRetry
  | setReconnect
  | clearAbort
  | clearConfirmed
  | setRunning
  | stampPhase
  | setStarting
  | queueStart
  | loopHead
  | announce
  | elapsed
  | readClock
  | readPhase
  | testClosing
  | testStopping
  | failCleanup
  | raiseRadio
  | readTimeout
  | testAbort
  | pollStop
  | setAbort
  | queueAbort
  | testDeadline
  | finalStop
  | readResult
  | returned
  deriving DecidableEq, Repr

/-- The main thread. `reconnect` is `was_close` of `check_payload`, which picks
`payload_client_retry()`; `confirmed` notes whether an attempt of this `check_payload` call
had close range confirmed, and `returned` what the last `return` handed over. -/
structure Main where
  pc : Pc
  attempt : ℕ
  reconnect : Bool
  confirmed : Bool
  returned : PayloadResult
  start : UInt32
  abortStarted : UInt32
  clock : UInt32
  elapsed : UInt32
  timeout : UInt32
  closeAnnounced : Bool
  deriving DecidableEq, Repr

/-- The callbacks `run_attempt` registers with the run loop. -/
inductive Callback
  | start
  | abort
  deriving DecidableEq, Repr

/-- The whole client: statics, main thread and run loop. -/
structure Sys where
  client : Client
  main : Main
  queue : List Callback
  deriving DecidableEq

/-- What the outside answers during one step of the main thread: the clock, GP21, the
colour sensor, whether `run_can_continue` and `save_checkpoint` succeed (`granted`), which
fault the code outside `run_attempt` raises, and whether `check_payload` is called now. -/
structure World where
  now : UInt32
  pressed : Bool
  granted : Bool
  onMat : Bool
  colourAvailable : Bool
  phaseFirst : Bool
  called : Bool
  raised : Option Fault
  deriving DecidableEq, Repr

/-- The moves: the main thread's next access, the oldest callback in the run loop, or a
packet from the radio. -/
inductive Action
  | main (world : World)
  | callback (env : Env)
  | packet (event : Event) (env : Env)
  deriving DecidableEq, Repr

/-- `btstack_run_loop_execute_on_main_thread`: a registration already waiting stays where
it is. -/
def enqueue (callback : Callback) (queue : List Callback) : List Callback :=
  if callback ∈ queue then queue else queue ++ [callback]

variable (world : World)

/-- The main thread goes on at `pc`. -/
def Sys.goto (pc : Pc) (s : Sys) : Sys := { s with main := { s.main with pc := pc } }

/-- `run_attempt` returns. -/
def Sys.attemptReturns (r : PayloadResult) (s : Sys) : Sys :=
  { s with main := { s.main with pc := .returned, returned := r } }

/-- `check_payload` returns. -/
def Sys.checkReturns (r : PayloadResult) (s : Sys) : Sys :=
  { s with main := { s.main with pc := .driving, returned := r } }

/-- The client's statics change, and the main thread goes on at `pc`. -/
def Sys.update (f : Client → Client) (pc : Pc) (s : Sys) : Sys :=
  Sys.goto pc { s with client := f s.client }

/-- A fault raised by other code of the main thread. -/
def Client.raiseOther (c : Client) : Client :=
  match world.raised with
  | some f => { c with faults := c.faults.raise f }
  | none => c

/-- Outside `check_payload`: other code runs, or `check_payload` is called. -/
def driving (s : Sys) : Option Sys :=
  if world.called then
    if s.main.returned = .notClose then
      some { s with main := { s.main with
        pc := .checking, attempt := 0, reconnect := false, confirmed := false } }
    else none
  else some (Sys.update (Client.raiseOther world) .driving s)

/-- `payload_client_set_close_threshold`. -/
def Client.setCloseThreshold (dbm : ℤ) (c : Client) : Client :=
  if c.attemptRunning then c else { c with closeRssiDbm := dbm }

/-- The loop of `check_payload` up to the attempt, which starts with an empty log. -/
def checking (s : Sys) : Sys :=
  let s := { s with client := (s.client.raiseOther world).pollStop world.pressed }
  if s.client.stopLatched ∨ world.granted = false then s.checkReturns .fatal
  else
    let attempt (c : Client) : Client := { c with calls := [] }
    if s.main.reconnect then s.update attempt .testReady
    else if world.onMat = false ∧ world.colourAvailable then s.checkReturns .notClose
    else
      let dbm := if world.onMat then colourArrivalBleDbm else ap1CloseRssiDbm
      s.update (fun c => attempt (c.setCloseThreshold dbm)) .testReady

/-- `check_payload` after an attempt. -/
def afterAttempt (s : Sys) : Sys :=
  let r := s.main.returned
  let s := { s with
    client := s.client.raiseOther world
    main := { s.main with
      confirmed := s.main.confirmed || s.main.reconnect || s.client.closeConfirmed } }
  if r ≠ .fatal ∧ world.granted = false then s.checkReturns .fatal
  else if r = .complete ∨ r = .fatal then s.checkReturns r
  else if r = .notClose ∧ s.main.reconnect = false then s.checkReturns .notClose
  else if s.main.attempt + 1 < maxPayloadAttempts then
    -- motion_pause_ms(200), which fails once STOP is latched
    let s := { s with client := s.client.pollStop world.pressed }
    if s.client.stopLatched then s.checkReturns .fatal
    else { s with main := { s.main with
      pc := .checking, attempt := s.main.attempt + 1, reconnect := true } }
  else Sys.checkReturns .fatal { s with client := { s.client with
    faults := s.client.faults.raise .payload } }

/-- The cleanup test of the loop, once `cleanup` is known. -/
def afterCleanup (cleanup : Bool) (s : Sys) : Sys :=
  if cleanup ∧ cleanupTimeoutMs ≤ s.main.elapsed then s.goto .failCleanup
  else s.goto .readTimeout

/-- The next access of the main thread. -/
def mainStep (s : Sys) : Option Sys :=
  let c := s.client
  match s.main.pc with
  | .driving => driving world s
  | .checking => some (checking world s)
  -- the entry tests of `run_attempt`
  | .testReady => some (if c.bluetoothReady then s.goto .testRunning else s.attemptReturns .fatal)
  | .testRunning => some (if c.attemptRunning then s.attemptReturns .fatal else s.goto .testStop)
  | .testStop =>
    let s := { s with client := c.pollStop world.pressed }
    some (if s.client.stopLatched then s.attemptReturns .fatal
      else if s.main.reconnect then s.goto .testConfirmed else s.goto .setReconnect)
  | .testConfirmed =>
    some (if c.closeConfirmed then s.goto .testIdle else s.attemptReturns .fatal)
  | .testIdle => some (if c.bleState = .idle then s.goto .testRetry else s.attemptReturns .fatal)
  | .testRetry =>
    some (if c.result = .retry then s.goto .setReconnect else s.attemptReturns .fatal)
  -- a new attempt is set up
  | .setReconnect =>
    some (s.update (fun c => { c with reconnectRequested := s.main.reconnect }) .clearAbort)
  | .clearAbort =>
    some (s.update (fun c => { c with abortRequested := false })
      (if s.main.reconnect then .setRunning else .clearConfirmed))
  | .clearConfirmed => some (s.update (fun c => { c with closeConfirmed := false }) .setRunning)
  | .setRunning => some (s.update (fun c => { c with attemptRunning := true }) .stampPhase)
  | .stampPhase => some (s.update (fun c => { c with phaseStartedMs := world.now }) .setStarting)
  | .setStarting => some (s.update (fun c => { c with bleState := .starting }) .queueStart)
  | .queueStart =>
    some (Sys.goto .loopHead { s with
      queue := enqueue .start s.queue
      main := { s.main with start := world.now, abortStarted := 0, closeAnnounced := false } })
  -- the loop
  | .loopHead =>
    some (if c.attemptRunning then
        (if s.main.closeAnnounced then s.goto .elapsed else s.goto .announce)
      else s.goto .finalStop)
  | .announce =>
    some (Sys.goto .elapsed { s with main := { s.main with closeAnnounced := c.closeConfirmed } })
  -- `now_ms() - phase_started_ms`: C leaves the order of the two reads open
  | .elapsed =>
    some (if world.phaseFirst then
        Sys.goto .readClock { s with main := { s.main with clock := c.phaseStartedMs } }
      else Sys.goto .readPhase { s with main := { s.main with clock := world.now } })
  | .readClock =>
    some (Sys.goto .testClosing { s with main := { s.main with
      elapsed := world.now - s.main.clock } })
  | .readPhase =>
    some (Sys.goto .testClosing { s with main := { s.main with
      elapsed := s.main.clock - c.phaseStartedMs } })
  | .testClosing =>
    some (if c.bleState = .closing then afterCleanup true s else s.goto .testStopping)
  | .testStopping => some (afterCleanup (c.bleState = .stoppingScan) s)
  | .failCleanup => some (s.update (fun c => { c with abortRequested := true }) .raiseRadio)
  | .raiseRadio =>
    some (Sys.attemptReturns .fatal { s with client := { c with
      faults := c.faults.raise .bleRadio } })
  | .readTimeout =>
    some (Sys.goto .testAbort { s with main := { s.main with timeout := phaseTimeout c.bleState } })
  | .testAbort => some (if c.abortRequested then s.goto .testDeadline else s.goto .pollStop)
  | .pollStop =>
    let s := { s with client := c.pollStop world.pressed }
    some (if s.client.stopLatched ∨ s.main.timeout ≤ s.main.elapsed ∨
        attemptTimeoutMs ≤ world.now - s.main.start
      then s.goto .setAbort else s.goto .testDeadline)
  | .setAbort => some (s.update (fun c => { c with abortRequested := true }) .queueAbort)
  | .queueAbort =>
    some (Sys.goto .testDeadline { s with
      queue := enqueue .abort s.queue
      main := { s.main with abortStarted := world.now } })
  | .testDeadline =>
    some (if c.abortRequested ∧ cleanupTimeoutMs ≤ world.now - s.main.abortStarted
      then s.goto .raiseRadio else s.goto .loopHead)
  -- the attempt has ended
  | .finalStop =>
    let s := { s with client := c.pollStop world.pressed }
    some (if s.client.stopLatched then s.attemptReturns .fatal else s.goto .readResult)
  | .readResult => some (s.attemptReturns c.result)
  | .returned => some (afterAttempt world s)

/-! ## The system -/

variable (robotFile : Bytes)

/-- The run loop runs its oldest callback. -/
def runCallback (env : Env) (s : Sys) : Option Sys :=
  match s.queue with
  | [] => none
  | .start :: rest =>
    some { s with client := startAttemptCallback env s.client, queue := rest }
  | .abort :: rest =>
    some { s with client := abortAttemptCallback env s.client, queue := rest }

/-- One move of the system. -/
def step (s : Sys) : Action → Option Sys
  | .main world => mainStep world s
  | .callback env => runCallback env s
  | .packet event env => some { s with client := handle robotFile env event s.client }

/-- The run loop is prompt: by the time `check_payload` comes to an attempt, the callbacks
that earlier attempts registered have run. `check_payload` saves a checkpoint before each
attempt and pauses 200 ms before each retry, and BTstack runs a registered callback as soon
as the run loop gets control. -/
def Sys.Prompt (s : Sys) : Action → Prop
  | .main _ => s.main.pc = .checking → s.queue = []
  | _ => True

instance (s : Sys) (action : Action) : Decidable (s.Prompt action) := by
  cases action <;> unfold Sys.Prompt <;> infer_instance

/-- The statics after `payload_client_init`. -/
def Client.boot : Client where
  bleState := .idle
  result := .notClose
  closingResult := .notClose
  bluetoothReady := false
  attemptRunning := false
  abortRequested := false
  closeConfirmed := false
  scanConfirmed := false
  payloadVerified := false
  listening := false
  serviceFound := false
  characteristicFound := false
  startupFailed := false
  reconnectRequested := false
  phaseStartedMs := 0
  closeRssiDbm := ap1CloseRssiDbm
  sampleCount := 0
  sampleIndex := 0
  closeCount := 0
  pendingLength := 0
  robotOffset := 0
  replyOffset := 0
  replyLength := 0
  beaconAddress := List.replicate 6 0
  beaconAddressType := 0
  connectionHandle := none
  valueHandle := 0
  rssiSamples := .filled 12 0
  txPacket := .filled 20 0
  robotSequence := 0
  robotCrc := 0
  replyFile := .filled 256 0
  replySequence := 0
  replyCrc := 0
  pendingNotification := .filled 20 0
  faults := ∅
  calls := []

/-- The main thread before the first `check_payload`; `returned` holds nothing yet. -/
def Main.boot : Main where
  pc := .driving
  attempt := 0
  reconnect := false
  confirmed := false
  returned := .notClose
  start := 0
  abortStarted := 0
  clock := 0
  elapsed := 0
  timeout := 0
  closeAnnounced := false

/-- The system when the robot starts to drive. -/
def Sys.boot : Sys := ⟨.boot, .boot, []⟩

/-! ## Pieces of concrete runs -/

/-- A step of the main thread at time `now`, on the mat with nothing pressed. -/
def mainAt (now : UInt32) : Action :=
  .main ⟨now, false, true, true, true, false, true, none⟩

/-- A callback or packet in which BTstack takes every request. -/
def accepting : Env := ⟨0, 0, 0, 0, 0, false, false, false⟩

/-- Bluetooth comes up, and `check_payload` gets as far as the loop of its first attempt. -/
def attemptBegun : List Action :=
  .packet (.stackState true) accepting :: List.replicate 12 (mainAt 0)

/-- A report of the target beacon close by. -/
def closeReport : Advertisement := ⟨[(0x16, [0x20, 0xFF, 1, 1])], List.replicate 6 7, 0, -50⟩

/-- The scan starts, fourteen reports confirm close range and the connection is asked for. -/
def closeRangeConfirmed : List Action :=
  [.callback accepting, .packet (.commandComplete true 0) accepting] ++
    List.replicate 14 (.packet (.advertisingReport closeReport) accepting) ++
    [.packet (.commandComplete true 0) accepting]

end PayloadClient
