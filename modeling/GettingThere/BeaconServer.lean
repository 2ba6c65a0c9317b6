/-
# The beacon's transfer server (`ble_transfer_powerbank/beacon_server.c`)

The statics of the beacon, the handlers BTstack calls (`att_write_callback` and
`packet_handler`) and what they hand back to BTstack (`Effect`).  The console text, the
Wi-Fi access point and the power-bank load play no part in a transfer and are left out.

A copy into `received_file` is reported as an `Effect.copyReceived`, so that a statement
about a run can speak of where the bytes went; the buffer itself never grows.
-/
import GettingThere.Buffer
import GettingThere.TransferProtocol

namespace BeaconServer

open TransferProtocol

/-- `beacon_status_t`. -/
inductive BeaconStatus
  | starting
  | advertising
  | connected
  | ready
  | handshake
  | receivingFile
  | fileVerified
  | sendingReply
  | complete
  | error
  deriving DecidableEq, Repr

/-- What is fixed when a beacon's firmware is built: its `BEACON_ID` and the reply text
its `snprintf` produces, which fits `reply_file`. -/
structure Config where
  beaconId : UInt8
  reply : Bytes
  reply_le : reply.length ≤ 64

/-- The firmware of beacon AP1, whose reply is "Reply file from beacon AP1". -/
def Config.ap1 : Config where
  beaconId := 1
  reply := [0x52, 0x65, 0x70, 0x6C, 0x79, 0x20, 0x66, 0x69, 0x6C, 0x65, 0x20, 0x66, 0x72, 0x6F,
    0x6D, 0x20, 0x62, 0x65, 0x61, 0x63, 0x6F, 0x6E, 0x20, 0x41, 0x50, 0x31]
  reply_le := by decide

/-- The statics of `beacon_server.c`. -/
structure Beacon where
  beaconStatus : BeaconStatus
  connectedCueOn : Bool
  connectionHandle : Option ConHandle
  notificationsEnabled : Bool
  pendingNotification : Buffer UInt8 20
  pendingNotificationLength : ℕ
  receivedFile : Buffer UInt8 256
  expectedFileLength : ℕ
  receivedFileLength : ℕ
  expectedFileCrc : UInt32
  expectedSequence : UInt8
  replyFile : Buffer UInt8 64
  replyLength : ℕ
  replyOffset : ℕ
  replySequence : UInt8
  deriving DecidableEq

/-- The statics at power-up. -/
def Beacon.boot : Beacon where
  beaconStatus := .starting
  connectedCueOn := false
  connectionHandle := none
  notificationsEnabled := false
  pendingNotification := .filled 20 0
  pendingNotificationLength := 0
  receivedFile := .filled 256 0
  expectedFileLength := 0
  receivedFileLength := 0
  expectedFileCrc := 0
  expectedSequence := 0
  replyFile := .filled 64 0
  replyLength := 0
  replyOffset := 0
  replySequence := 0

/-- What a handler asks of BTstack and of the buzzer, and where it copies file bytes. -/
inductive Effect
  | requestCanSendNow (con : ConHandle)
  | notify (con : Option ConHandle) (value : Bytes)
  | copyReceived (offset : ℕ) (bytes : Bytes)
  | advertise
  | playAlive
  | playConnected
  | playComplete
  | buzzerStop
  deriving DecidableEq, Repr

/-- The attributes of `file_transfer.gatt` a peer can write. -/
inductive AttHandle
  | clientConfiguration
  | value
  | other
  deriving DecidableEq, Repr

/-- The events BTstack delivers to the beacon. -/
inductive Event
  | stackState (working : Bool)
  | leConnectionComplete (con : ConHandle)
  | disconnectionComplete
  | canSendNow
  | attWrite (con : ConHandle) (attHandle : AttHandle) (buffer : Bytes)
  | other
  deriving DecidableEq, Repr

variable (cfg : Config)

/-! ## Answers -/

/-- `queue_notification`: the one-slot buffer is overwritten. -/
def queueNotification (data : Bytes) (b : Beacon) : Beacon × List Effect :=
  match b.notificationsEnabled, b.connectionHandle with
  | true, some con =>
    let value := data.take transferPacketSize
    ({ b with
        pendingNotification := b.pendingNotification.write 0 value
        pendingNotificationLength := value.length }, [.requestCanSendNow con])
  | _, _ => (b, [])

/-- `send_simple`. -/
def sendSimple (type : MessageType) (value : UInt8) (b : Beacon) : Beacon × List Effect :=
  queueNotification [type.code, value] b

/-- The error answer every rejected write gets, with the status it leaves. -/
def sendError (reason : UInt8) (b : Beacon) : Beacon × List Effect :=
  sendSimple .error reason { b with beaconStatus := .error }

/-- `reset_transfer`. -/
def resetTransfer (b : Beacon) : Beacon :=
  { b with
    expectedFileLength := 0
    receivedFileLength := 0
    expectedFileCrc := 0
    expectedSequence := 0
    replyOffset := 0
    replySequence := 0 }

/-- `transfer_crc32(reply_file, reply_length)`. -/
def replyCrc (b : Beacon) : UInt32 := transferCrc32 (b.replyFile.prefixOf b.replyLength)

/-- The size of the next reply chunk. -/
def replyChunkLength (b : Beacon) : ℕ := min (b.replyLength - b.replyOffset) transferDataBytes

/-- The reply bytes the next data packet carries. -/
def replyChunk (b : Beacon) : Bytes :=
  (b.replyFile.cells.drop b.replyOffset).take (replyChunkLength b)

/-- `send_reply_piece`: announcement, data chunk or end. -/
def sendReplyPiece (b : Beacon) : Beacon × List Effect :=
  if b.replyOffset = 0 ∧ b.replySequence = 0 then
    queueNotification
      (MessageType.replyStart.code :: (transferWriteU16 (UInt16.ofNat b.replyLength) ++
        transferWriteU32 (replyCrc b)))
      { b with replySequence := 1 }
  else if b.replyOffset < b.replyLength then
    queueNotification
      (MessageType.replyData.code :: (b.replySequence - 1) ::
        UInt8.ofNat (replyChunkLength b) :: replyChunk b)
      { b with
        replyOffset := (b.replyOffset + replyChunkLength b) % 65536
        replySequence := b.replySequence + 1 }
  else
    queueNotification (MessageType.replyEnd.code :: transferWriteU32 (replyCrc b)) b

/-! ## Writes to the transfer characteristic -/

/-- `MSG_HELLO` is valid: this protocol version and this beacon. -/
def helloValid (buffer : Bytes) : Bool :=
  3 ≤ buffer.length ∧ byteAt buffer 1 = beaconProtocolVersion ∧ byteAt buffer 2 = cfg.beaconId

/-- The `MSG_HELLO` case. -/
def receiveHello (buffer : Bytes) (b : Beacon) : Beacon × List Effect :=
  if helloValid cfg buffer then
    sendSimple .helloAck cfg.beaconId { resetTransfer b with beaconStatus := .handshake }
  else sendError 1 b

/-- The length a `MSG_FILE_START` announces. -/
def announcedLength (buffer : Bytes) : ℕ := (transferReadU16 buffer 1).toNat

/-- The `MSG_FILE_START` case. The announcement is stored before it is judged. -/
def receiveFileStart (buffer : Bytes) (b : Beacon) : Beacon × List Effect :=
  if buffer.length < 7 then sendError 2 b
  else
    let b := { b with
      expectedFileLength := announcedLength buffer
      expectedFileCrc := transferReadU32 buffer 3
      receivedFileLength := 0
      expectedSequence := 0 }
    if transferMaxFileSize < b.expectedFileLength then sendError 3 b
    else sendSimple .fileReady cfg.beaconId { b with beaconStatus := .receivingFile }

/-- The chunk length a `MSG_FILE_DATA` states. -/
def chunkLength (buffer : Bytes) : ℕ := (byteAt buffer 2).toNat

/-- The checks of `MSG_FILE_DATA` after its own length: sequence number, chunk size, packet
length and announced length. -/
def fileDataFits (buffer : Bytes) (b : Beacon) : Bool :=
  byteAt buffer 1 = b.expectedSequence ∧ chunkLength buffer ≤ transferDataBytes ∧
    buffer.length = 3 + chunkLength buffer ∧
    b.receivedFileLength + chunkLength buffer ≤ b.expectedFileLength

/-- The `MSG_FILE_DATA` case. -/
def receiveFileData (buffer : Bytes) (b : Beacon) : Beacon × List Effect :=
  if buffer.length < 3 then sendError 4 b
  else if fileDataFits buffer b then
    let chunk := buffer.drop 3
    ({ b with
        receivedFile := b.receivedFile.write b.receivedFileLength chunk
        receivedFileLength := (b.receivedFileLength + chunkLength buffer) % 65536
        expectedSequence := b.expectedSequence + 1 },
      [.copyReceived b.receivedFileLength chunk])
  else sendError 5 b

/-- `transfer_crc32(received_file, received_file_length)`. -/
def receivedCrc (b : Beacon) : UInt32 :=
  transferCrc32 (b.receivedFile.prefixOf b.receivedFileLength)

/-- The verdict of `MSG_FILE_END`. -/
def fileVerified (b : Beacon) : Bool :=
  b.receivedFileLength = b.expectedFileLength ∧ receivedCrc b = b.expectedFileCrc

/-- The `MSG_FILE_END` case. -/
def receiveFileEnd (b : Beacon) : Beacon × List Effect :=
  queueNotification
    (MessageType.fileReceived.code :: (if fileVerified b then 0 else 1) ::
      transferWriteU32 (receivedCrc b))
    { b with beaconStatus := if fileVerified b then .fileVerified else .error }

/-- The `MSG_REPLY_REQUEST` case: the reply text is put into `reply_file` and announced. -/
def receiveReplyRequest (b : Beacon) : Beacon × List Effect :=
  sendReplyPiece { b with
    replyFile := b.replyFile.write 0 cfg.reply
    replyLength := cfg.reply.length
    replyOffset := 0
    replySequence := 0
    beaconStatus := .sendingReply }

/-- The `MSG_COMPLETE` case. -/
def receiveComplete (b : Beacon) : Beacon × List Effect :=
  let (b, effects) := sendSimple .completeAck cfg.beaconId
    { b with beaconStatus := .complete, connectedCueOn := false }
  (b, .playComplete :: effects)

/-- The `switch (buffer[0])` of `att_write_callback`. -/
def receiveMessage (buffer : Bytes) (b : Beacon) : Beacon × List Effect :=
  match MessageType.ofCode? (byteAt buffer 0) with
  | some .hello => receiveHello cfg buffer b
  | some .fileStart => receiveFileStart cfg buffer b
  | some .fileData => receiveFileData buffer b
  | some .fileEnd => receiveFileEnd b
  | some .replyRequest => receiveReplyRequest cfg b
  | some .replyNext => sendReplyPiece b
  | some .complete => receiveComplete cfg b
  | _ => sendError 6 b

/-- A write to the client configuration descriptor. -/
def writeConfiguration (con : ConHandle) (buffer : Bytes) (b : Beacon) : Beacon :=
  let enabled : Bool := 2 ≤ buffer.length ∧ transferReadU16 buffer 0 = 1
  { b with
    notificationsEnabled := enabled
    connectionHandle := some con
    beaconStatus := if enabled then .ready else .connected }

/-- `att_write_callback`. -/
def attWriteCallback (con : ConHandle) (attHandle : AttHandle) (buffer : Bytes) (b : Beacon) :
    Beacon × List Effect :=
  match attHandle with
  | .clientConfiguration => (writeConfiguration con buffer b, [])
  | .value => if buffer = [] then (b, []) else receiveMessage cfg buffer b
  | .other => (b, [])

/-! ## Events -/

/-- The disconnection case of `packet_handler`. -/
def disconnected (b : Beacon) : Beacon × List Effect :=
  let b' := resetTransfer { b with
    connectionHandle := none
    notificationsEnabled := false
    pendingNotificationLength := 0 }
  ({ b' with beaconStatus := .advertising, connectedCueOn := false },
    if b.connectedCueOn then [.buzzerStop] else [])

/-- The can-send-now case of `packet_handler`: the slot is sent and emptied. -/
def sendPending (b : Beacon) : Beacon × List Effect :=
  if b.pendingNotificationLength ≠ 0 then
    ({ b with pendingNotificationLength := 0 },
      [.notify b.connectionHandle (b.pendingNotification.prefixOf b.pendingNotificationLength)])
  else (b, [])

/-- One event: `packet_handler` and `att_write_callback`. -/
def handle (b : Beacon) : Event → Beacon × List Effect
  | .stackState working =>
    if working then ({ b with beaconStatus := .advertising }, [.advertise, .playAlive])
    else (b, [])
  | .leConnectionComplete con =>
    ({ b with connectionHandle := some con, beaconStatus := .connected, connectedCueOn := true },
      [.playConnected])
  | .disconnectionComplete => disconnected b
  | .canSendNow => sendPending b
  | .attWrite con attHandle buffer => attWriteCallback cfg con attHandle buffer b
  | .other => (b, [])

end BeaconServer
