/-
# The robot's BLE client (`getting_there/payload_client.c`): the callbacks

The statics of the client and every function BTstack can enter: `hci_handler`,
`gatt_handler`, `start_attempt_callback` and `abort_attempt_callback`, with the functions
they call.  The main loop of `run_attempt` is in `PayloadAttempt`.

* The packed status word is the record of its fields and flags.
* `calls` lists what has been handed to BTstack and the failures reported, in order.  The
  marker `Call.accepted` is not a call: it records the notification values that passed the
  checks of their case in `handle_notification`.
* `Env` is what the outside answers during one callback: the clock, the status each BTstack
  function returns (a callback calls each of them at most once) and the level of GP21 at
  the polls of `motion_stop_requested`.
* Progress lines that only describe a step are left out; the reason of a failure is kept.
-/
import GettingThere.Buffer
import GettingThere.Faults
import GettingThere.PackedBits
import GettingThere.TransferProtocol
import Mathlib.Algebra.Ring.Int.Defs
import Mathlib.Data.List.Sort

namespace PayloadClient

open TransferProtocol PackedBits

/-! ## State -/

/-- `ble_state_t`. -/
inductive BleState
  | idle
  | starting
  | scanning
  | stoppingForConnect
  | connecting
  | discoverService
  | discoverCharacteristic
  | enableNotifications
  | writeHello
  | waitHelloAck
  | writeFileStart
  | waitFileReady
  | writeFileData
  | writeFileEnd
  | waitFileReceived
  | writeReplyRequest
  | waitReplyStart
  | writeReplyNext
  | waitReplyPiece
  | writeComplete
  | waitCompleteAck
  | stoppingScan
  | closing
  deriving DecidableEq, Repr

/-- `payload_result_t`. -/
inductive PayloadResult
  | notClose
  | retry
  | complete
  | fatal
  deriving DecidableEq, Repr

/-- `TARGET_BEACON_ID`. -/
def targetBeaconId : UInt8 := 1

/-- `BEACON_SERVICE_UUID`. -/
def beaconServiceUuid : UInt16 := 0xFF20

/-- `robot_file` without its final zero: "Robot test file delivered to beacon AP1". -/
def robotTestFile : Bytes :=
  [0x52, 0x6F, 0x62, 0x6F, 0x74, 0x20, 0x74, 0x65, 0x73, 0x74, 0x20, 0x66, 0x69, 0x6C, 0x65, 0x20,
    0x64, 0x65, 0x6C, 0x69, 0x76, 0x65, 0x72, 0x65, 0x64, 0x20, 0x74, 0x6F, 0x20, 0x62, 0x65, 0x61,
    0x63, 0x6F, 0x6E, 0x20, 0x41, 0x50, 0x31]

/-- What the client hands to BTstack, and the failures it reports. -/
inductive Call
  | stopListening
  | listen
  | startScan
  | stopScan
  | connect (address : Bytes) (addressType : UInt8)
  | connectCancel
  | disconnect (handle : ConHandle)
  | discoverServices (handle : Option ConHandle)
  | discoverCharacteristics (handle : Option ConHandle)
  | enableNotifications (handle : Option ConHandle)
  | write (handle : Option ConHandle) (valueHandle : UInt16) (value : Bytes)
  | failed (reason : String)
  | accepted (value : Bytes)
  deriving DecidableEq, Repr

/-- The statics of `payload_client.c`, with the shared fault mask. -/
structure Client where
  bleState : BleState
  result : PayloadResult
  closingResult : PayloadResult
  bluetoothReady : Bool
  attemptRunning : Bool
  abortRequested : Bool
  closeConfirmed : Bool
  scanConfirmed : Bool
  payloadVerified : Bool
  listening : Bool
  serviceFound : Bool
  characteristicFound : Bool
  startupFailed : Bool
  reconnectRequested : Bool
  phaseStartedMs : UInt32
  closeRssiDbm : ℤ
  sampleCount : ℕ
  sampleIndex : ℕ
  closeCount : ℕ
  pendingLength : ℕ
  robotOffset : ℕ
  replyOffset : ℕ
  replyLength : ℕ
  beaconAddress : Bytes
  beaconAddressType : UInt8
  connectionHandle : Option ConHandle
  valueHandle : UInt16
  rssiSamples : Buffer ℕ 12
  txPacket : Buffer UInt8 20
  robotSequence : UInt8
  robotCrc : UInt32
  replyFile : Buffer UInt8 256
  replySequence : UInt8
  replyCrc : UInt32
  pendingNotification : Buffer UInt8 20
  faults : Faults
  calls : List Call
  deriving DecidableEq

/-- What the outside answers during one callback. -/
structure Env where
  now : UInt32
  connect : UInt8
  disconnect : UInt8
  query : UInt8
  write : UInt8
  stopAtReport : Bool
  stopAtFault : Bool
  stopAtClose : Bool
  deriving DecidableEq, Repr

/-- An advertising report: its AD structures (type and data), address and RSSI. -/
structure Advertisement where
  fields : List (UInt8 × Bytes)
  address : Bytes
  addressType : UInt8
  rssi : Int8
  deriving DecidableEq, Repr

/-- The packets BTstack delivers to `hci_handler` and `gatt_handler`. -/
inductive Event
  | stackState (working : Bool)
  | commandComplete (scanEnable : Bool) (status : UInt8)
  | advertisingReport (report : Advertisement)
  | connectionComplete (status : UInt8) (handle : ConHandle)
  | disconnectionComplete (handle : ConHandle)
  | notification (handle : ConHandle) (valueHandle : UInt16) (value : Bytes)
  | serviceQueryResult (handle : ConHandle)
  | characteristicQueryResult (handle : ConHandle) (valueHandle : UInt16)
  | queryComplete (handle : ConHandle) (status : UInt8)
  deriving DecidableEq, Repr

variable (robotFile : Bytes) (env : Env)

/-- A call is recorded behind the earlier ones. -/
def Client.call (x : Call) (c : Client) : Client := { c with calls := c.calls ++ [x] }

/-- `set_state`. -/
def Client.setState (state : BleState) (c : Client) : Client :=
  { c with phaseStartedMs := env.now, bleState := state }

/-- `motion_stop_requested`, polled with GP21 low (`pressed`) or high: a press latches. -/
def Client.pollStop (pressed : Bool) (c : Client) : Client :=
  if pressed then { c with faults := c.faults.raise .stopLatched } else c

/-- The STOP latch. -/
def Client.stopLatched (c : Client) : Bool := .stopLatched ∈ c.faults

/-! ## Ending an attempt -/

/-- `finish_attempt`. -/
def finishAttempt (c : Client) : Client :=
  let c := if c.listening then { c.call .stopListening with listening := false } else c
  let c := Client.setState env .idle { c with connectionHandle := none }
  { c with result := c.closingResult, attemptRunning := false }

/-- The scan branch of `close_attempt`. An unacknowledged scan start allows no further
movement or radio operation. -/
def closeScan (c : Client) : Client :=
  let alreadyStopping := c.bleState = .stoppingForConnect
  let c := Client.setState env .stoppingScan c
  let c := if alreadyStopping then c else c.call .stopScan
  if c.scanConfirmed then c
  else finishAttempt env { c with closingResult := .fatal }

/-- `close_attempt`. -/
def closeAttempt (result : PayloadResult) (c : Client) : Client :=
  let c := { c with closingResult := result, pendingLength := 0 }
  if c.bleState = .scanning ∨ c.bleState = .stoppingForConnect then closeScan env c
  else match c.connectionHandle with
    | some handle =>
      let c := (Client.setState env .closing c).call (.disconnect handle)
      -- a refused disconnect holds the robot still: the connection may remain live
      if env.disconnect ≠ 0 then { c with closingResult := .fatal } else c
    | none =>
      if c.bleState = .connecting then (Client.setState env .closing c).call .connectCancel
      else finishAttempt env c

/-- `transfer_failed`. -/
def transferFailed (reason : String) (c : Client) : Client :=
  let c := { c.call (.failed reason) with
    faults := c.faults.raise .payload, payloadVerified := false }
  closeAttempt env (if c.closeConfirmed then .retry else .notClose) c

/-! ## Starting connections and writes -/

/-- `begin_connection`. -/
def beginConnection (c : Client) : Client :=
  let c := (Client.setState env .connecting c).call
    (.connect c.beaconAddress c.beaconAddressType)
  if env.connect ≠ 0 then
    transferFailed env "BLE connection could not start" (Client.setState env .idle c)
  else c

/-- `writing_state`. -/
def writingState : BleState → Bool
  | .writeHello | .writeFileStart | .writeFileData | .writeFileEnd | .writeReplyRequest
  | .writeReplyNext | .writeComplete => true
  | _ => false

/-- `write_packet`, with the packet its caller has put into `tx_packet`. -/
def writePacket (packet : Bytes) (state : BleState) (c : Client) : Client :=
  let c := Client.setState env state { c with txPacket := c.txPacket.write 0 packet }
  let c := c.call (.write c.connectionHandle c.valueHandle (c.txPacket.prefixOf packet.length))
  if env.write ≠ 0 then transferFailed env "could not start GATT write" c else c

/-- `write_simple`. -/
def writeSimple (type : MessageType) (state : BleState) (c : Client) : Client :=
  writePacket env [type.code] state c

/-- The size of the next chunk of the robot's file. -/
def robotChunkLength (c : Client) : ℕ := min (robotFile.length - c.robotOffset) transferDataBytes

/-- The bytes of the next chunk of the robot's file. -/
def robotChunk (c : Client) : Bytes :=
  (robotFile.drop c.robotOffset).take (robotChunkLength robotFile c)

/-- `write_next_robot_chunk`. -/
def writeNextRobotChunk (c : Client) : Client :=
  if c.robotOffset = robotFile.length then writeSimple env .fileEnd .writeFileEnd c
  else
    writePacket env
      (MessageType.fileData.code :: c.robotSequence ::
        UInt8.ofNat (robotChunkLength robotFile c) :: robotChunk robotFile c)
      .writeFileData
      { c with
        robotSequence := c.robotSequence + 1
        robotOffset := (c.robotOffset + robotChunkLength robotFile c) % 512 }

/-! ## Notifications -/

/-- The `MSG_HELLO_ACK` case. -/
def receiveHelloAck (value : Bytes) (c : Client) : Client :=
  if c.bleState ≠ .waitHelloAck then c
  else if value.length ≠ 2 ∨ byteAt value 1 ≠ targetBeaconId then
    transferFailed env "wrong beacon identity" c
  else
    let crc := transferCrc32 robotFile
    writePacket env
      (MessageType.fileStart.code :: (transferWriteU16 (UInt16.ofNat robotFile.length) ++
        transferWriteU32 crc))
      .writeFileStart
      { c.call (.accepted value) with robotOffset := 0, robotSequence := 0, robotCrc := crc }

/-- The `MSG_FILE_READY` case. -/
def receiveFileReady (value : Bytes) (c : Client) : Client :=
  if c.bleState ≠ .waitFileReady then c
  else if value.length ≠ 2 ∨ byteAt value 1 ≠ targetBeaconId then
    transferFailed env "invalid FILE_READY" c
  else writeNextRobotChunk robotFile env (c.call (.accepted value))

/-- The `MSG_FILE_RECEIVED` case. -/
def receiveFileReceived (value : Bytes) (c : Client) : Client :=
  if c.bleState ≠ .waitFileReceived then c
  else if value.length ≠ 6 ∨ byteAt value 1 ≠ 0 ∨ transferReadU32 value 2 ≠ c.robotCrc then
    transferFailed env "robot file CRC rejected" c
  else writeSimple env .replyRequest .writeReplyRequest (c.call (.accepted value))

/-- The `MSG_REPLY_START` case. The 16-bit length is checked before it is narrowed. -/
def receiveReplyStart (value : Bytes) (c : Client) : Client :=
  let announced := (transferReadU16 value 1).toNat
  if c.bleState ≠ .waitReplyStart then c
  else if value.length ≠ 7 then transferFailed env "invalid reply metadata" c
  else if announced = 0 ∨ transferMaxFileSize < announced then
    transferFailed env "reply payload length outside 1..256 bytes" c
  else
    writeSimple env .replyNext .writeReplyNext
      { c.call (.accepted value) with
        replyLength := announced % 512
        replyCrc := transferReadU32 value 3
        replyOffset := 0
        replySequence := 0 }

/-- The checks of `MSG_REPLY_DATA` after its own length. -/
def replyDataFits (value : Bytes) (c : Client) : Bool :=
  let chunk := (byteAt value 2).toNat
  byteAt value 1 = c.replySequence ∧ chunk ≠ 0 ∧ chunk ≤ transferDataBytes ∧
    value.length = 3 + chunk ∧ c.replyOffset + chunk ≤ c.replyLength

/-- The `MSG_REPLY_DATA` case. -/
def receiveReplyData (value : Bytes) (c : Client) : Client :=
  if c.bleState ≠ .waitReplyPiece then c
  else if value.length < 3 then transferFailed env "short reply chunk" c
  else if replyDataFits value c then
    writeSimple env .replyNext .writeReplyNext
      { c.call (.accepted value) with
        replyFile := c.replyFile.write c.replyOffset (value.drop 3)
        replyOffset := (c.replyOffset + (byteAt value 2).toNat) % 512
        replySequence := c.replySequence + 1 }
  else transferFailed env "invalid reply chunk sequence or length" c

/-- The checks of `MSG_REPLY_END`: every byte received, and both CRCs. -/
def replyVerified (value : Bytes) (c : Client) : Bool :=
  value.length = 5 ∧ c.replyOffset = c.replyLength ∧
    transferCrc32 (c.replyFile.prefixOf c.replyLength) = c.replyCrc ∧
    transferReadU32 value 1 = c.replyCrc

/-- The `MSG_REPLY_END` case. -/
def receiveReplyEnd (value : Bytes) (c : Client) : Client :=
  if c.bleState ≠ .waitReplyPiece then c
  else if replyVerified value c then
    writeSimple env .complete .writeComplete (c.call (.accepted value))
  else transferFailed env "reply payload CRC or length failed" c

/-- The `MSG_COMPLETE_ACK` case. -/
def receiveCompleteAck (value : Bytes) (c : Client) : Client :=
  if c.bleState ≠ .waitCompleteAck then c
  else if value.length ≠ 2 ∨ byteAt value 1 ≠ targetBeaconId then
    transferFailed env "invalid final acknowledgement" c
  else
    closeAttempt env .complete
      { c.call (.accepted value) with
        payloadVerified := true, faults := c.faults.clear .payload }

/-- The `switch (value[0])` of `handle_notification`. -/
def receiveMessage (value : Bytes) (c : Client) : Client :=
  match MessageType.ofCode? (byteAt value 0) with
  | some .helloAck => receiveHelloAck robotFile env value c
  | some .fileReady => receiveFileReady robotFile env value c
  | some .fileReceived => receiveFileReceived env value c
  | some .replyStart => receiveReplyStart env value c
  | some .replyData => receiveReplyData env value c
  | some .replyEnd => receiveReplyEnd env value c
  | some .completeAck => receiveCompleteAck env value c
  | _ => c

/-- `handle_notification`. While a write is under way the value is parked, once. -/
def handleNotification (value : Bytes) (c : Client) : Client :=
  if value = [] ∨ c.bleState = .closing ∨ c.bleState = .idle then c
  else if byteAt value 0 = MessageType.error.code then
    transferFailed env "beacon reported protocol error" c
  else if writingState c.bleState then
    if transferPacketSize < value.length ∨ c.pendingLength ≠ 0 then
      transferFailed env "unexpected notification while write is pending" c
    else
      { c with
        pendingNotification := c.pendingNotification.write 0 value
        pendingLength := value.length % 32 }
  else receiveMessage robotFile env value c

/-! ## GATT events -/

/-- The tail of `gatt_handler`: a value parked during the write is handled now. -/
def replayPending (c : Client) : Client :=
  if c.pendingLength ≠ 0 ∧ writingState c.bleState = false then
    handleNotification robotFile env (c.pendingNotification.prefixOf c.pendingLength)
      { c with pendingLength := 0 }
  else c

/-- A GATT setup call has been made: an error status fails the transfer. -/
def setupStarted (c : Client) : Client :=
  if env.query ≠ 0 then transferFailed env "GATT setup could not start" c
  else replayPending robotFile env c

/-- The `switch (current_state())` of `gatt_handler` after a successful query. -/
def queryCompleted (c : Client) : Client :=
  let wait (state : BleState) : Client := replayPending robotFile env (c.setState env state)
  match c.bleState with
  | .discoverService =>
    if c.serviceFound then
      setupStarted robotFile env <|
        (Client.setState env .discoverCharacteristic { c with characteristicFound := false }).call
          (.discoverCharacteristics c.connectionHandle)
    else transferFailed env "transfer service missing" c
  | .discoverCharacteristic =>
    if c.characteristicFound then
      setupStarted robotFile env <|
        (Client.setState env .enableNotifications { c.call .listen with listening := true }).call
          (.enableNotifications c.connectionHandle)
    else transferFailed env "transfer characteristic missing" c
  | .enableNotifications =>
    replayPending robotFile env <| writePacket env
      [MessageType.hello.code, beaconProtocolVersion, targetBeaconId] .writeHello c
  | .writeHello => wait .waitHelloAck
  | .writeFileStart => wait .waitFileReady
  | .writeFileData => replayPending robotFile env (writeNextRobotChunk robotFile env c)
  | .writeFileEnd => wait .waitFileReceived
  | .writeReplyRequest => wait .waitReplyStart
  | .writeReplyNext => wait .waitReplyPiece
  | .writeComplete => wait .waitCompleteAck
  | _ => c

/-- `gatt_handler`. -/
def gattHandler (event : Event) (c : Client) : Client :=
  if c.abortRequested ∨ c.bleState = .closing ∨ c.bleState = .idle then c
  else match event with
    | .notification handle valueHandle value =>
      if c.connectionHandle = some handle ∧ c.valueHandle = valueHandle then
        handleNotification robotFile env value c
      else c
    | .serviceQueryResult handle =>
      if c.bleState = .discoverService ∧ c.connectionHandle = some handle then
        { c with serviceFound := true }
      else c
    | .characteristicQueryResult handle valueHandle =>
      if c.bleState = .discoverCharacteristic ∧ c.connectionHandle = some handle then
        { c with valueHandle := valueHandle, characteristicFound := true }
      else c
    | .queryComplete handle status =>
      if c.connectionHandle ≠ some handle then c
      else if status ≠ 0 then transferFailed env "GATT operation rejected" c
      else queryCompleted robotFile env c
    | _ => c

/-! ## HCI events -/

/-- `target_advertisement`: a service data field of the target beacon. -/
def targetAdvertisement (report : Advertisement) : Bool :=
  report.fields.any fun (type, field) =>
    -- BLUETOOTH_DATA_TYPE_SERVICE_DATA
    type = 0x16 ∧ 4 ≤ field.length ∧ transferReadU16 field 0 = beaconServiceUuid ∧
      byteAt field 2 = beaconProtocolVersion ∧ byteAt field 3 = targetBeaconId

/-- `filtered_rssi`: the mean of the six middle readings, halves away from zero (C's
division truncates, and every reading is negative). -/
def filteredRssi (c : Client) : ℤ :=
  let sorted := (c.rssiSamples.cells.map rssiDecode).insertionSort (· ≤ ·)
  ((((sorted.drop 3).take 6).sum - 3).tdiv 6)

/-- `advertisement_received`. -/
def advertisementReceived (report : Advertisement) (c : Client) : Client :=
  let rssi := report.rssi.toInt
  if c.abortRequested ∨ targetAdvertisement report = false then c
  else if 0 ≤ rssi ∨ rssi ≤ -127 then c
  else
    let c := { c with
      rssiSamples := c.rssiSamples.write c.sampleIndex [rssiEncode rssi]
      sampleIndex := (c.sampleIndex + 1) % 12
      sampleCount := if c.sampleCount < 12 then c.sampleCount + 1 else c.sampleCount }
    if c.sampleCount < 12 then c
    else
      let c := { c with
        closeCount := if c.closeRssiDbm ≤ filteredRssi c then (c.closeCount + 1) % 4 else 0 }
      if c.closeCount < 3 then c
      else
        (Client.setState env .stoppingForConnect { c with
          closeConfirmed := true
          beaconAddress := report.address
          beaconAddressType := report.addressType }).call .stopScan

/-- `connection_complete`. -/
def connectionComplete (status : UInt8) (handle : ConHandle) (c : Client) : Client :=
  if c.bleState ≠ .connecting ∧ c.bleState ≠ .closing then c
  else if status ≠ 0 then
    let c := { c with connectionHandle := none }
    if c.bleState = .closing then finishAttempt env c
    else transferFailed env "BLE connection failed" (Client.setState env .idle c)
  else
    let c := { c with connectionHandle := some handle }
    if c.abortRequested ∨ c.bleState = .closing then
      -- ST_CLOSING is not written here
      (Client.setState env .closing c).call (.disconnect handle)
    else
      let c := (Client.setState env .discoverService { c with serviceFound := false }).call
        (.discoverServices (some handle))
      if env.query ≠ 0 then transferFailed env "service discovery could not start" c else c

/-- The scan-enable completion of `hci_handler`. -/
def scanEnableComplete (status : UInt8) (c : Client) : Client :=
  if status ≠ 0 then
    finishAttempt env { c with faults := c.faults.raise .bleRadio, closingResult := .fatal }
  else match c.bleState with
    | .scanning => { c with scanConfirmed := true }
    | .stoppingForConnect =>
      if c.abortRequested then finishAttempt env { c with closingResult := .fatal }
      else beginConnection env c
    | .stoppingScan => finishAttempt env c
    | _ => c

/-- The disconnection case of `hci_handler`. -/
def disconnectionComplete (handle : ConHandle) (c : Client) : Client :=
  if c.connectionHandle ≠ some handle then c
  else
    let c := { c with connectionHandle := none }
    if c.bleState ≠ .closing then
      finishAttempt env { c with
        faults := c.faults.raise .payload
        payloadVerified := false
        closingResult := if c.closeConfirmed then .retry else .notClose }
    else finishAttempt env c

/-- `hci_handler`. -/
def hciHandler (event : Event) (c : Client) : Client :=
  match event with
  | .stackState working => { c with bluetoothReady := working }
  | .commandComplete scanEnable status =>
    if scanEnable then scanEnableComplete env status c else c
  | .advertisingReport report =>
    if c.bleState = .scanning then advertisementReceived env report c else c
  | .connectionComplete status handle => connectionComplete env status handle c
  | .disconnectionComplete handle => disconnectionComplete env handle c
  | _ => c

/-! ## Run-loop callbacks -/

/-- `start_attempt_callback`. -/
def startAttemptCallback (c : Client) : Client :=
  if c.abortRequested then finishAttempt env { c with closingResult := .fatal }
  else
    let reconnect := c.reconnectRequested
    let c := { c with
      closeConfirmed := if reconnect then c.closeConfirmed else false
      scanConfirmed := false
      payloadVerified := false
      pendingLength := 0
      replyLength := 0
      replyOffset := 0
      sampleCount := 0
      sampleIndex := 0
      closeCount := 0
      rssiSamples := .filled 12 0 }
    if reconnect then beginConnection env c
    else (Client.setState env .scanning c).call .startScan

/-- `abort_attempt_callback`. -/
def abortAttemptCallback (c : Client) : Client :=
  if c.attemptRunning = false ∨ c.bleState = .stoppingScan ∨ c.bleState = .closing then c
  else
    let c := (c.pollStop env.stopAtReport).pollStop env.stopAtFault
    let c := if c.stopLatched = false ∧ c.closeConfirmed then
      { c with faults := c.faults.raise .payload } else c
    let c := c.pollStop env.stopAtClose
    closeAttempt env
      (if c.stopLatched then .fatal else if c.closeConfirmed then .retry else .notClose) c

/-- `payload_client_data`. -/
def payloadClientData (c : Client) : Option Bytes :=
  if c.payloadVerified then some (c.replyFile.prefixOf c.replyLength) else none

/-- One packet from BTstack, offered to both handlers. -/
def handle (event : Event) (c : Client) : Client :=
  match event with
  | .notification .. | .serviceQueryResult .. | .characteristicQueryResult ..
  | .queryComplete .. => gattHandler robotFile env event c
  | _ => hciHandler env event c

end PayloadClient
