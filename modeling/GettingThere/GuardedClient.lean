/-
# The client with checked accesses

The callbacks of the client once more, with every access to a received value, to `tx_packet`,
`pending_notification`, `reply_file`, `rssi_samples` and the local copy of a parked value
written out in the order of the source, and every assignment to a packed counter narrowed to
the width of its field (an assignment of the constant 0 fits any width).  Such an access may
be a violation; the functions of `PayloadClient` cannot say so.

While the counters are in bounds there is none: each of these functions computes what its
counterpart computes (`guarded_move`), and the counters stay in bounds along every order of
moves (`ClientBounds`).
-/
import GettingThere.BoundedAccess
import GettingThere.ClientBounds

namespace PayloadClient

open TransferProtocol PackedBits BoundedAccess Transition

namespace Guarded

variable (robotFile : Bytes) (env : Env)

/-! ## Reading a value -/

/-- `transfer_read_u16`. -/
def transferReadU16 (p : Bytes) (i : ℕ) : Except Violation UInt16 := do
  let low ← fetch p i
  let high ← fetch p (i + 1)
  return low.toUInt16 ||| (high.toUInt16 <<< 8)

/-- `transfer_read_u32`. -/
def transferReadU32 (p : Bytes) (i : ℕ) : Except Violation UInt32 := do
  let b0 ← fetch p i
  let b1 ← fetch p (i + 1)
  let b2 ← fetch p (i + 2)
  let b3 ← fetch p (i + 3)
  return b0.toUInt32 ||| (b1.toUInt32 <<< 8) ||| (b2.toUInt32 <<< 16) ||| (b3.toUInt32 <<< 24)

/-- `length != 2 || value[1] != TARGET_BEACON_ID`. -/
def notFromTarget (value : Bytes) : Except Violation Bool :=
  either (value.length ≠ 2) do
    let beacon ← fetch value 1
    return beacon ≠ targetBeaconId

/-! ## Writes -/

/-- `write_packet`: BTstack reads `length` bytes of `tx_packet`. -/
def writePacket (length : ℕ) (state : BleState) (c : Client) : Except Violation Client := do
  let c := Client.setState env state c
  let value ← slice c.txPacket.cells 0 length
  let c := c.call (.write c.connectionHandle c.valueHandle value)
  return if env.write ≠ 0 then transferFailed env "could not start GATT write" c else c

/-- `write_simple`. -/
def writeSimple (type : MessageType) (state : BleState) (c : Client) :
    Except Violation Client := do
  let tx ← store c.txPacket 0 [type.code]
  writePacket env 1 state { c with txPacket := tx }

/-- `write_next_robot_chunk`. -/
def writeNextRobotChunk (c : Client) : Except Violation Client :=
  if c.robotOffset = robotFile.length then writeSimple env .fileEnd .writeFileEnd c
  else do
    let chunk := robotChunkLength robotFile c
    let tx ← store c.txPacket 0 [MessageType.fileData.code]
    let tx ← store tx 1 [c.robotSequence]
    let tx ← store tx 2 [UInt8.ofNat chunk]
    let bytes ← slice robotFile c.robotOffset chunk
    let tx ← store tx 3 bytes
    let offset ← narrow 9 (c.robotOffset + chunk)
    writePacket env (3 + chunk) .writeFileData
      { c with txPacket := tx, robotSequence := c.robotSequence + 1, robotOffset := offset }

/-! ## Notifications -/

/-- The `MSG_HELLO_ACK` case. -/
def receiveHelloAck (value : Bytes) (c : Client) : Except Violation Client :=
  if c.bleState ≠ .waitHelloAck then .ok c
  else do
    if ← notFromTarget value then return transferFailed env "wrong beacon identity" c
    else
      let crc := transferCrc32 robotFile
      let tx ← store c.txPacket 0 [MessageType.fileStart.code]
      let tx ← store tx 1 (transferWriteU16 (UInt16.ofNat robotFile.length))
      let tx ← store tx 3 (transferWriteU32 crc)
      writePacket env 7 .writeFileStart
        { c.call (.accepted value) with
          txPacket := tx, robotOffset := 0, robotSequence := 0, robotCrc := crc }

/-- The `MSG_FILE_READY` case. -/
def receiveFileReady (value : Bytes) (c : Client) : Except Violation Client :=
  if c.bleState ≠ .waitFileReady then .ok c
  else do
    if ← notFromTarget value then return transferFailed env "invalid FILE_READY" c
    else writeNextRobotChunk robotFile env (c.call (.accepted value))

/-- The `MSG_FILE_RECEIVED` case. -/
def receiveFileReceived (value : Bytes) (c : Client) : Except Violation Client :=
  if c.bleState ≠ .waitFileReceived then .ok c
  else do
    let refused ← either (value.length ≠ 6) do
      let status ← fetch value 1
      either (status ≠ 0) do
        let crc ← transferReadU32 value 2
        return crc ≠ c.robotCrc
    if refused then return transferFailed env "robot file CRC rejected" c
    else writeSimple env .replyRequest .writeReplyRequest (c.call (.accepted value))

/-- The `MSG_REPLY_START` case. -/
def receiveReplyStart (value : Bytes) (c : Client) : Except Violation Client :=
  if c.bleState ≠ .waitReplyStart then .ok c
  else if value.length ≠ 7 then .ok (transferFailed env "invalid reply metadata" c)
  else do
    let announced ← transferReadU16 value 1
    if announced.toNat = 0 ∨ transferMaxFileSize < announced.toNat then
      return transferFailed env "reply payload length outside 1..256 bytes" c
    else
      let length ← narrow 9 announced.toNat
      let crc ← transferReadU32 value 3
      writeSimple env .replyNext .writeReplyNext
        { c.call (.accepted value) with
          replyLength := length, replyCrc := crc, replyOffset := 0, replySequence := 0 }

/-- The `MSG_REPLY_DATA` case. -/
def receiveReplyData (value : Bytes) (c : Client) : Except Violation Client :=
  if c.bleState ≠ .waitReplyPiece then .ok c
  else if value.length < 3 then .ok (transferFailed env "short reply chunk" c)
  else do
    let chunk ← fetch value 2
    let sequence ← fetch value 1
    if sequence ≠ c.replySequence ∨ chunk.toNat = 0 ∨ transferDataBytes < chunk.toNat ∨
        value.length ≠ 3 + chunk.toNat ∨ c.replyLength < c.replyOffset + chunk.toNat then
      return transferFailed env "invalid reply chunk sequence or length" c
    else
      let bytes ← slice value 3 chunk.toNat
      let file ← store c.replyFile c.replyOffset bytes
      let offset ← narrow 9 (c.replyOffset + chunk.toNat)
      writeSimple env .replyNext .writeReplyNext
        { c.call (.accepted value) with
          replyFile := file, replyOffset := offset, replySequence := c.replySequence + 1 }

/-- The `MSG_REPLY_END` case. -/
def receiveReplyEnd (value : Bytes) (c : Client) : Except Violation Client :=
  if c.bleState ≠ .waitReplyPiece then .ok c
  else do
    let refused ← either (value.length ≠ 5 ∨ c.replyOffset ≠ c.replyLength) do
      let data ← slice c.replyFile.cells 0 c.replyLength
      either (transferCrc32 data ≠ c.replyCrc) do
        let crc ← transferReadU32 value 1
        return crc ≠ c.replyCrc
    if refused then return transferFailed env "reply payload CRC or length failed" c
    else writeSimple env .complete .writeComplete (c.call (.accepted value))

/-- The `MSG_COMPLETE_ACK` case. -/
def receiveCompleteAck (value : Bytes) (c : Client) : Except Violation Client :=
  if c.bleState ≠ .waitCompleteAck then .ok c
  else do
    if ← notFromTarget value then return transferFailed env "invalid final acknowledgement" c
    else
      return closeAttempt env .complete
        { c.call (.accepted value) with
          payloadVerified := true, faults := c.faults.clear .payload }

/-- The `switch (value[0])` of `handle_notification`. -/
def receiveMessage (value : Bytes) (c : Client) : Except Violation Client := do
  let type ← fetch value 0
  match MessageType.ofCode? type with
  | some .helloAck => receiveHelloAck robotFile env value c
  | some .fileReady => receiveFileReady robotFile env value c
  | some .fileReceived => receiveFileReceived env value c
  | some .replyStart => receiveReplyStart env value c
  | some .replyData => receiveReplyData env value c
  | some .replyEnd => receiveReplyEnd env value c
  | some .completeAck => receiveCompleteAck env value c
  | _ => return c

/-- `handle_notification`. -/
def handleNotification (value : Bytes) (c : Client) : Except Violation Client :=
  if value = [] ∨ c.bleState = .closing ∨ c.bleState = .idle then .ok c
  else do
    let type ← fetch value 0
    if type = MessageType.error.code then
      return transferFailed env "beacon reported protocol error" c
    else if writingState c.bleState then
      if transferPacketSize < value.length ∨ c.pendingLength ≠ 0 then
        return transferFailed env "unexpected notification while write is pending" c
      else
        let bytes ← slice value 0 value.length
        let parked ← store c.pendingNotification 0 bytes
        let length ← narrow 5 value.length
        return { c with pendingNotification := parked, pendingLength := length }
    else receiveMessage robotFile env value c

/-! ## GATT events -/

/-- The tail of `gatt_handler`, with its local copy of the parked value. -/
def replayPending (c : Client) : Except Violation Client :=
  if c.pendingLength ≠ 0 ∧ writingState c.bleState = false then do
    let bytes ← slice c.pendingNotification.cells 0 c.pendingLength
    let value ← store (.filled transferPacketSize 0) 0 bytes
    handleNotification robotFile env (value.prefixOf c.pendingLength) { c with pendingLength := 0 }
  else .ok c

/-- A GATT setup call has been made: an error status fails the transfer. -/
def setupStarted (c : Client) : Except Violation Client :=
  if env.query ≠ 0 then .ok (transferFailed env "GATT setup could not start" c)
  else replayPending robotFile env c

/-- The `switch (current_state())` of `gatt_handler` after a successful query. -/
def queryCompleted (c : Client) : Except Violation Client :=
  let wait (state : BleState) : Except Violation Client :=
    replayPending robotFile env (c.setState env state)
  match c.bleState with
  | .discoverService =>
    if c.serviceFound then
      setupStarted robotFile env <|
        (Client.setState env .discoverCharacteristic { c with characteristicFound := false }).call
          (.discoverCharacteristics c.connectionHandle)
    else .ok (transferFailed env "transfer service missing" c)
  | .discoverCharacteristic =>
    if c.characteristicFound then
      setupStarted robotFile env <|
        (Client.setState env .enableNotifications { c.call .listen with listening := true }).call
          (.enableNotifications c.connectionHandle)
    else .ok (transferFailed env "transfer characteristic missing" c)
  | .enableNotifications => do
    let tx ← store c.txPacket 0 [MessageType.hello.code]
    let tx ← store tx 1 [beaconProtocolVersion]
    let tx ← store tx 2 [targetBeaconId]
    let c ← writePacket env 3 .writeHello { c with txPacket := tx }
    replayPending robotFile env c
  | .writeHello => wait .waitHelloAck
  | .writeFileStart => wait .waitFileReady
  | .writeFileData => do
    let c ← writeNextRobotChunk robotFile env c
    replayPending robotFile env c
  | .writeFileEnd => wait .waitFileReceived
  | .writeReplyRequest => wait .waitReplyStart
  | .writeReplyNext => wait .waitReplyPiece
  | .writeComplete => wait .waitCompleteAck
  | _ => .ok c

/-- `gatt_handler`. -/
def gattHandler (event : Event) (c : Client) : Except Violation Client :=
  if c.abortRequested ∨ c.bleState = .closing ∨ c.bleState = .idle then .ok c
  else match event with
    | .notification handle valueHandle value =>
      if c.connectionHandle = some handle ∧ c.valueHandle = valueHandle then
        handleNotification robotFile env value c
      else .ok c
    | .serviceQueryResult handle =>
      if c.bleState = .discoverService ∧ c.connectionHandle = some handle then
        .ok { c with serviceFound := true }
      else .ok c
    | .characteristicQueryResult handle valueHandle =>
      if c.bleState = .discoverCharacteristic ∧ c.connectionHandle = some handle then
        .ok { c with valueHandle := valueHandle, characteristicFound := true }
      else .ok c
    | .queryComplete handle status =>
      if c.connectionHandle ≠ some handle then .ok c
      else if status ≠ 0 then .ok (transferFailed env "GATT operation rejected" c)
      else queryCompleted robotFile env c
    | _ => .ok c

/-! ## HCI events -/

/-- `advertisement_received`. -/
def advertisementReceived (report : Advertisement) (c : Client) : Except Violation Client :=
  let rssi := report.rssi.toInt
  if c.abortRequested ∨ targetAdvertisement report = false then .ok c
  else if 0 ≤ rssi ∨ rssi ≤ -127 then .ok c
  else do
    let samples ← store c.rssiSamples c.sampleIndex [rssiEncode rssi]
    let index ← narrow 4 ((c.sampleIndex + 1) % 12)
    let count ← narrow 4 (if c.sampleCount < 12 then c.sampleCount + 1 else c.sampleCount)
    let c := { c with rssiSamples := samples, sampleIndex := index, sampleCount := count }
    if c.sampleCount < 12 then return c
    else
      let near ← narrow 2 (if c.closeRssiDbm ≤ filteredRssi c then c.closeCount + 1 else 0)
      let c := { c with closeCount := near }
      if c.closeCount < 3 then return c
      else
        return (Client.setState env .stoppingForConnect { c with
          closeConfirmed := true
          beaconAddress := report.address
          beaconAddressType := report.addressType }).call .stopScan

/-- One packet from BTstack, offered to both handlers. -/
def handle (event : Event) (c : Client) : Except Violation Client :=
  match event with
  | .notification .. | .serviceQueryResult .. | .characteristicQueryResult ..
  | .queryComplete .. => gattHandler robotFile env event c
  | .advertisingReport report =>
    if c.bleState = .scanning then advertisementReceived env report c else .ok c
  | _ => .ok (hciHandler env event c)

/-- What a move does. -/
def move (c : Client) : Move → Except Violation Client
  | .packet event env => handle robotFile env event c
  | m => .ok (PayloadClient.move robotFile c m)

end Guarded

/-! ## The checks never fail -/

section Agreement

variable {robotFile : Bytes} {env : Env} {c : Client} {value : Bytes}

/-- A byte of a value that is long enough. -/
theorem fetch_byteAt {i : ℕ} (h : i < value.length) : fetch value i = .ok (byteAt value i) :=
  fetch_eq h 0

/-- Two bytes within a value are read without a violation. -/
theorem guarded_transferReadU16 {i : ℕ} (h : i + 2 ≤ value.length) :
    Guarded.transferReadU16 value i = .ok (transferReadU16 value i) := by
  unfold Guarded.transferReadU16
  rw [fetch_byteAt (by omega : i < value.length), fetch_byteAt (by omega : i + 1 < value.length)]
  rfl

/-- Four bytes within a value are read without a violation. -/
theorem guarded_transferReadU32 {i : ℕ} (h : i + 4 ≤ value.length) :
    Guarded.transferReadU32 value i = .ok (transferReadU32 value i) := by
  unfold Guarded.transferReadU32
  rw [fetch_byteAt (by omega : i < value.length), fetch_byteAt (by omega : i + 1 < value.length),
    fetch_byteAt (by omega : i + 2 < value.length), fetch_byteAt (by omega : i + 3 < value.length)]
  rfl

/-- The beacon of an acknowledgement is read only when its length is right. -/
theorem guarded_notFromTarget (value : Bytes) :
    Guarded.notFromTarget value =
      .ok (decide (value.length ≠ 2 ∨ byteAt value 1 ≠ targetBeaconId)) := by
  unfold Guarded.notFromTarget
  rw [either_eq (b := decide (byteAt value 1 ≠ targetBeaconId)), Bool.decide_or]
  intro hlen
  rw [decide_eq_false_iff_not, not_not] at hlen
  rw [fetch_byteAt (by omega : 1 < value.length)]
  rfl

/-- A packet that fits `tx_packet` goes out as it was put there. -/
theorem guarded_writePacket {packet : Bytes} (state : BleState) (h : packet.length ≤ 20) :
    Guarded.writePacket env packet.length state { c with txPacket := c.txPacket.write 0 packet } =
      .ok (writePacket env packet state c) := by
  have hread : 0 + packet.length ≤ (c.txPacket.write 0 packet).cells.length := by
    rw [(c.txPacket.write 0 packet).length_cells]
    omega
  unfold Guarded.writePacket
  exact bind_ok (slice_eq hread) _

/-- A simple packet fits `tx_packet`. -/
theorem guarded_writeSimple (type : MessageType) (state : BleState) (c : Client) :
    Guarded.writeSimple env type state c = .ok (writeSimple env type state c) := by
  have hone : [type.code].length ≤ 20 := by simp
  unfold Guarded.writeSimple
  rw [bind_ok (store_eq c.txPacket (Nat.le_trans (Nat.zero_add _).le hone))]
  exact guarded_writePacket state hone

/-- Pieces put into `tx_packet` one behind the other are one packet. -/
theorem store_behind (buf : Buffer UInt8 20) {front : Bytes} (bs : Bytes) {off : ℕ}
    (hoff : off = front.length) (h : off + bs.length ≤ 20) :
    store (buf.write 0 front) off bs = .ok (buf.write 0 (front ++ bs)) := by
  rw [store_eq _ h]
  subst hoff
  have hfits : Buffer.Fits 20 0 (front ++ bs) := by
    unfold Buffer.Fits
    rw [List.length_append]
    omega
  have hwrite := buf.write_write hfits
  rw [Nat.zero_add] at hwrite
  rw [hwrite]

/-- The three bytes in front of a packet. -/
theorem store_head (buf : Buffer UInt8 20) (a b d : UInt8) :
    store buf 0 [a] = .ok (buf.write 0 [a]) ∧
      store (buf.write 0 [a]) 1 [b] = .ok (buf.write 0 [a, b]) ∧
      store (buf.write 0 [a, b]) 2 [d] = .ok (buf.write 0 [a, b, d]) :=
  ⟨store_eq buf (by simp), store_behind buf [b] rfl (by simp),
    @store_behind buf [a, b] [d] 2 rfl (by simp)⟩

/-- A chunk is read from within the file, and fits behind its header. -/
theorem guarded_writeNextRobotChunk (hrobot : c.robotOffset ≤ robotFile.length)
    (hfile : robotFile.length ≤ 256) :
    Guarded.writeNextRobotChunk robotFile env c = .ok (writeNextRobotChunk robotFile env c) := by
  have hend := robotChunk_le hrobot
  have hchunk : robotChunkLength robotFile c ≤ 17 := Nat.min_le_right _ _
  have hlength : (robotChunk robotFile c).length = robotChunkLength robotFile c := by
    rw [robotChunk, List.length_take, List.length_drop]
    omega
  have hoffset : c.robotOffset + robotChunkLength robotFile c < 2 ^ 9 := by omega
  unfold Guarded.writeNextRobotChunk writeNextRobotChunk
  split
  · exact guarded_writeSimple _ _ c
  · obtain ⟨htype, hsequence, hcount⟩ := store_head c.txPacket MessageType.fileData.code
      c.robotSequence (UInt8.ofNat (robotChunkLength robotFile c))
    have hbytes : slice robotFile c.robotOffset (robotChunkLength robotFile c) =
        .ok (robotChunk robotFile c) := slice_eq hend
    have hdata := @store_behind c.txPacket [MessageType.fileData.code, c.robotSequence,
      UInt8.ofNat (robotChunkLength robotFile c)] (robotChunk robotFile c) 3 rfl (by omega)
    simp only
    rw [bind_ok htype, bind_ok hsequence, bind_ok hcount, bind_ok hbytes, bind_ok hdata,
      bind_ok (narrow_eq hoffset), ← hlength, Nat.add_comm 3]
    exact @guarded_writePacket env { c with
        robotSequence := c.robotSequence + 1
        robotOffset := (c.robotOffset + (robotChunk robotFile c).length) % 512 }
      (MessageType.fileData.code :: c.robotSequence ::
        UInt8.ofNat (robotChunk robotFile c).length :: robotChunk robotFile c) .writeFileData
      (by simp only [List.length_cons]; omega)

/-! ### Messages -/

/-- The length of the value is tested before its bytes are read. -/
theorem guarded_receiveHelloAck (value : Bytes) (c : Client) :
    Guarded.receiveHelloAck robotFile env value c = .ok (receiveHelloAck robotFile env value c) := by
  unfold Guarded.receiveHelloAck receiveHelloAck
  split
  · rfl
  rw [bind_ok (guarded_notFromTarget value)]
  by_cases hvalid : value.length ≠ 2 ∨ byteAt value 1 ≠ targetBeaconId
  · simp only [hvalid, decide_true, if_true]
    rfl
  · simp only [hvalid, decide_false, Bool.false_eq_true, if_false]
    have htype := (store_head c.txPacket MessageType.fileStart.code 0 0).1
    have hsize := @store_behind c.txPacket [MessageType.fileStart.code]
      (transferWriteU16 (UInt16.ofNat robotFile.length)) 1 rfl (by simp [transferWriteU16])
    have hcrc := @store_behind c.txPacket
      (MessageType.fileStart.code :: transferWriteU16 (UInt16.ofNat robotFile.length))
      (transferWriteU32 (transferCrc32 robotFile)) 3 rfl (by simp [transferWriteU32])
    rw [bind_ok htype, bind_ok hsize, List.singleton_append, bind_ok hcrc]
    exact @guarded_writePacket env { c.call (.accepted value) with
        robotOffset := 0, robotSequence := 0, robotCrc := transferCrc32 robotFile }
      (MessageType.fileStart.code :: (transferWriteU16 (UInt16.ofNat robotFile.length) ++
        transferWriteU32 (transferCrc32 robotFile))) .writeFileStart
      (by simp [transferWriteU16, transferWriteU32])

/-- The first chunk is read from within the file. -/
theorem guarded_receiveFileReady (hrobot : c.robotOffset ≤ robotFile.length)
    (hfile : robotFile.length ≤ 256) (value : Bytes) :
    Guarded.receiveFileReady robotFile env value c =
      .ok (receiveFileReady robotFile env value c) := by
  unfold Guarded.receiveFileReady receiveFileReady
  split
  · rfl
  rw [bind_ok (guarded_notFromTarget value)]
  by_cases hvalid : value.length ≠ 2 ∨ byteAt value 1 ≠ targetBeaconId
  · simp only [hvalid, decide_true, if_true]
    rfl
  · simp only [hvalid, decide_false, Bool.false_eq_true, if_false]
    exact guarded_writeNextRobotChunk (c := c.call (.accepted value)) hrobot hfile

/-- The length is tested before the status and the CRC are read. -/
theorem guarded_receiveFileReceived (value : Bytes) (c : Client) :
    Guarded.receiveFileReceived env value c = .ok (receiveFileReceived env value c) := by
  have hrefused : (either (value.length ≠ 6) do
      let status ← fetch value 1
      either (status ≠ 0) do
        let crc ← Guarded.transferReadU32 value 2
        return crc ≠ c.robotCrc) =
      .ok (decide (value.length ≠ 6 ∨ byteAt value 1 ≠ 0 ∨
        transferReadU32 value 2 ≠ c.robotCrc)) := by
    rw [either_eq (b := decide (byteAt value 1 ≠ 0) || decide (transferReadU32 value 2 ≠ c.robotCrc)),
      Bool.decide_or, Bool.decide_or]
    intro hlen
    rw [decide_eq_false_iff_not, not_not] at hlen
    rw [bind_ok (fetch_byteAt (by omega))]
    apply either_eq
    intro _
    rw [bind_ok (guarded_transferReadU32 (by omega))]
    rfl
  unfold Guarded.receiveFileReceived receiveFileReceived
  split
  · rfl
  rw [bind_ok hrefused]
  by_cases hvalid : value.length ≠ 6 ∨ byteAt value 1 ≠ 0 ∨ transferReadU32 value 2 ≠ c.robotCrc
  · simp only [hvalid, decide_true, if_true]
    rfl
  · simp only [hvalid, decide_false, Bool.false_eq_true, if_false]
    exact guarded_writeSimple _ _ _

/-- The length is tested before the announcement is read, which fits the packed counter. -/
theorem guarded_receiveReplyStart (value : Bytes) (c : Client) :
    Guarded.receiveReplyStart env value c = .ok (receiveReplyStart env value c) := by
  unfold Guarded.receiveReplyStart receiveReplyStart
  simp only
  split
  · rfl
  split
  · rfl
  rename_i hlen
  rw [not_not] at hlen
  rw [bind_ok (guarded_transferReadU16 (by omega))]
  split
  · rfl
  rename_i hannounced
  rw [not_or, Nat.not_lt] at hannounced
  have hfits : (transferReadU16 value 1).toNat < 2 ^ 9 :=
    Nat.lt_of_le_of_lt hannounced.2 (by decide)
  rw [bind_ok (narrow_eq hfits), bind_ok (guarded_transferReadU32 (by omega))]
  exact guarded_writeSimple _ _ _

/-- The checks of a reply chunk, each made in the source before what it protects. -/
theorem replyData_refused (value : Bytes) (c : Client) :
    (byteAt value 1 ≠ c.replySequence ∨ (byteAt value 2).toNat = 0 ∨
        transferDataBytes < (byteAt value 2).toNat ∨ value.length ≠ 3 + (byteAt value 2).toNat ∨
        c.replyLength < c.replyOffset + (byteAt value 2).toNat) ↔
      ¬ replyDataFits value c = true := by
  simp only [replyDataFits, decide_eq_true_eq]
  rw [not_and_or, not_and_or, not_and_or, not_and_or, not_not, Nat.not_le, Nat.not_le]

/-- A piece is tested against the announced length before it is copied to `reply_file`. -/
theorem guarded_receiveReplyData (h : InBounds robotFile c) (value : Bytes) :
    Guarded.receiveReplyData env value c = .ok (receiveReplyData env value c) := by
  unfold Guarded.receiveReplyData receiveReplyData
  split
  · rfl
  split
  · rfl
  rename_i hshort
  rw [bind_ok (fetch_byteAt (by omega)), bind_ok (fetch_byteAt (by omega))]
  by_cases hfits : replyDataFits value c = true
  · rw [if_neg (fun hrefused => (replyData_refused value c).mp hrefused hfits), if_pos hfits]
    simp only [replyDataFits, decide_eq_true_eq] at hfits
    obtain ⟨-, -, -, hlen, hend⟩ := hfits
    have hreply : c.replyLength ≤ 256 := h.counters.reply
    -- the chunk is all that follows its three bytes
    have hrest : (value.drop 3).take (byteAt value 2).toNat = value.drop 3 := by
      apply List.take_of_length_le
      rw [List.length_drop]
      omega
    have hcopy : c.replyOffset + (value.drop 3).length ≤ 256 := by
      rw [List.length_drop]
      omega
    have hoffset : c.replyOffset + (byteAt value 2).toNat < 2 ^ 9 := by omega
    rw [bind_ok (slice_eq (by omega)), hrest, bind_ok (store_eq c.replyFile hcopy),
      bind_ok (narrow_eq hoffset)]
    exact guarded_writeSimple _ _ _
  · rw [if_pos ((replyData_refused value c).mpr hfits), if_neg hfits]
    rfl

/-- The CRC is taken over the part of `reply_file` that was filled. -/
theorem guarded_receiveReplyEnd (h : InBounds robotFile c) (value : Bytes) :
    Guarded.receiveReplyEnd env value c = .ok (receiveReplyEnd env value c) := by
  have hread : 0 + c.replyLength ≤ c.replyFile.cells.length := by
    rw [c.replyFile.length_cells, Nat.zero_add]
    exact h.counters.reply
  have hrefused : (either (value.length ≠ 5 ∨ c.replyOffset ≠ c.replyLength) do
      let data ← slice c.replyFile.cells 0 c.replyLength
      either (transferCrc32 data ≠ c.replyCrc) do
        let crc ← Guarded.transferReadU32 value 1
        return crc ≠ c.replyCrc) = .ok (!replyVerified value c) := by
    rw [either_eq (b := decide (transferCrc32 (c.replyFile.prefixOf c.replyLength) ≠ c.replyCrc) ||
      decide (transferReadU32 value 1 ≠ c.replyCrc))]
    · rw [replyVerified, ← decide_not]
      congr 1
      grind
    intro hlen
    rw [decide_eq_false_iff_not, not_or, not_not, not_not] at hlen
    rw [bind_ok (slice_eq hread)]
    apply either_eq
    intro _
    rw [bind_ok (guarded_transferReadU32 (by omega))]
    rfl
  unfold Guarded.receiveReplyEnd receiveReplyEnd
  split
  · rfl
  rw [bind_ok hrefused]
  cases replyVerified value c with
  | true => exact guarded_writeSimple _ _ _
  | false => rfl

/-- The length is tested before the beacon's number is read. -/
theorem guarded_receiveCompleteAck (value : Bytes) (c : Client) :
    Guarded.receiveCompleteAck env value c = .ok (receiveCompleteAck env value c) := by
  unfold Guarded.receiveCompleteAck receiveCompleteAck
  split
  · rfl
  rw [bind_ok (guarded_notFromTarget value)]
  by_cases hvalid : value.length ≠ 2 ∨ byteAt value 1 ≠ targetBeaconId
  · simp only [hvalid, decide_true, if_true]
    rfl
  · simp only [hvalid, decide_false, Bool.false_eq_true, if_false]
    rfl

/-- **A received message** makes no violation. -/
theorem guarded_receiveMessage (h : InBounds robotFile c) (hfile : robotFile.length ≤ 256)
    (hvalue : value ≠ []) :
    Guarded.receiveMessage robotFile env value c = .ok (receiveMessage robotFile env value c) := by
  have hrobot : c.robotOffset ≤ robotFile.length := h.counters.robot
  unfold Guarded.receiveMessage receiveMessage
  rw [bind_ok (fetch_byteAt (List.length_pos_of_ne_nil hvalue))]
  generalize MessageType.ofCode? (byteAt value 0) = type
  cases type with
  | none => rfl
  | some type =>
    cases type with
    | helloAck => exact guarded_receiveHelloAck value c
    | fileReady => exact guarded_receiveFileReady hrobot hfile value
    | fileReceived => exact guarded_receiveFileReceived value c
    | replyStart => exact guarded_receiveReplyStart value c
    | replyData => exact guarded_receiveReplyData h value
    | replyEnd => exact guarded_receiveReplyEnd h value
    | completeAck => exact guarded_receiveCompleteAck value c
    | _ => rfl

/-- A notification that is parked fits `pending_notification`, and the packed length. -/
theorem guarded_handleNotification (h : InBounds robotFile c) (hfile : robotFile.length ≤ 256)
    (value : Bytes) :
    Guarded.handleNotification robotFile env value c =
      .ok (handleNotification robotFile env value c) := by
  unfold Guarded.handleNotification handleNotification
  split
  · rfl
  rename_i hopen
  have hvalue : value ≠ [] := fun hnil => hopen (.inl hnil)
  rw [bind_ok (fetch_byteAt (List.length_pos_of_ne_nil hvalue))]
  split
  · rfl
  split
  · split
    · rfl
    rename_i hparked
    rw [not_or, Nat.not_lt] at hparked
    have hlength : value.length ≤ 20 := hparked.1
    have hfits : value.length < 2 ^ 5 := Nat.lt_of_le_of_lt hlength (by decide)
    have hwhole : (value.drop 0).take value.length = value := by
      rw [List.drop_zero, List.take_length]
    rw [bind_ok (slice_eq (by omega)), hwhole,
      bind_ok (store_eq c.pendingNotification (by omega)), bind_ok (narrow_eq hfits)]
    rfl
  · exact guarded_receiveMessage h hfile hvalue

/-! ### Events -/

/-- The local copy has room for what was parked. -/
theorem guarded_replayPending (h : InBounds robotFile c) (hfile : robotFile.length ≤ 256) :
    Guarded.replayPending robotFile env c = .ok (replayPending robotFile env c) := by
  have hpending : c.pendingLength ≤ 20 := h.counters.pending
  unfold Guarded.replayPending replayPending
  split
  · have hread : 0 + c.pendingLength ≤ c.pendingNotification.cells.length := by
      rw [c.pendingNotification.length_cells]
      omega
    have hbytes : slice c.pendingNotification.cells 0 c.pendingLength =
        .ok (c.pendingNotification.prefixOf c.pendingLength) := slice_eq hread
    have hlength := c.pendingNotification.length_prefixOf hpending
    have hcopy : 0 + (c.pendingNotification.prefixOf c.pendingLength).length ≤ transferPacketSize := by
      rw [hlength, Nat.zero_add]
      exact hpending
    have hread_back : ((Buffer.filled transferPacketSize (0 : UInt8)).write 0
        (c.pendingNotification.prefixOf c.pendingLength)).prefixOf
          (c.pendingNotification.prefixOf c.pendingLength).length =
        c.pendingNotification.prefixOf c.pendingLength :=
      Buffer.prefixOf_write_zero _ (by omega)
    rw [hlength] at hread_back
    rw [bind_ok hbytes, bind_ok (store_eq _ hcopy), hread_back]
    obtain ⟨hsamples, hindex, hclose, -, hrobot, hoffset, hreply⟩ := h.counters
    refine guarded_handleNotification (c := { c with pendingLength := 0 }) ⟨?_, h.scanning⟩ hfile _
    exact ⟨hsamples, hindex, hclose, Nat.zero_le _, hrobot, hoffset, hreply⟩
  · rfl

/-- A GATT setup call makes no violation. -/
theorem guarded_setupStarted (h : InBounds robotFile c) (hfile : robotFile.length ≤ 256) :
    Guarded.setupStarted robotFile env c = .ok (setupStarted robotFile env c) := by
  unfold Guarded.setupStarted setupStarted
  split
  · rfl
  · exact guarded_replayPending h hfile

/-- The completion of a query makes none. -/
theorem guarded_queryCompleted (h : InBounds robotFile c) (hfile : robotFile.length ≤ 256) :
    Guarded.queryCompleted robotFile env c = .ok (queryCompleted robotFile env c) := by
  have hwithin : c.counters.Within robotFile.length := h.counters
  have wait {state : BleState} (hstate : state ≠ .scanning) :
      Guarded.replayPending robotFile env (c.setState env state) =
        .ok (replayPending robotFile env (c.setState env state)) :=
    guarded_replayPending (.quiet hwithin hstate) hfile
  unfold Guarded.queryCompleted queryCompleted
  cases c.bleState with
  | discoverService =>
    simp only
    split
    · exact guarded_setupStarted (.quiet hwithin nofun) hfile
    · rfl
  | discoverCharacteristic =>
    simp only
    split
    · exact guarded_setupStarted (.quiet hwithin nofun) hfile
    · rfl
  | enableNotifications =>
    simp only
    obtain ⟨htype, hversion, hbeacon⟩ := store_head c.txPacket MessageType.hello.code
      beaconProtocolVersion targetBeaconId
    have hwrite := @guarded_writePacket env c
      [MessageType.hello.code, beaconProtocolVersion, targetBeaconId] .writeHello (by simp)
    rw [bind_ok htype, bind_ok hversion, bind_ok hbeacon]
    exact (bind_ok hwrite _).trans
      (guarded_replayPending (inBounds_writePacket hwithin nofun) hfile)
  | writeHello =>
    simp only
    exact wait nofun
  | writeFileStart =>
    simp only
    exact wait nofun
  | writeFileData =>
    simp only
    rw [bind_ok (guarded_writeNextRobotChunk hwithin.robot hfile)]
    exact guarded_replayPending (inBounds_writeNextRobotChunk h) hfile
  | writeFileEnd =>
    simp only
    exact wait nofun
  | writeReplyRequest =>
    simp only
    exact wait nofun
  | writeReplyNext =>
    simp only
    exact wait nofun
  | writeComplete =>
    simp only
    exact wait nofun
  | _ =>
    simp only

/-- No GATT event makes one. -/
theorem guarded_gattHandler (h : InBounds robotFile c) (hfile : robotFile.length ≤ 256)
    (event : Event) :
    Guarded.gattHandler robotFile env event c = .ok (gattHandler robotFile env event c) := by
  unfold Guarded.gattHandler gattHandler
  split
  · rfl
  cases event with
  | notification handle valueHandle value =>
    simp only
    split
    · exact guarded_handleNotification h hfile value
    · rfl
  | serviceQueryResult handle =>
    simp only
    split <;> rfl
  | characteristicQueryResult handle valueHandle =>
    simp only
    split <;> rfl
  | queryComplete handle status =>
    simp only
    split
    · rfl
    split
    · rfl
    · exact guarded_queryCompleted h hfile
  | _ => rfl

/-- The sample is written within the ring, and the counters take its next values. -/
theorem guarded_advertisementReceived (h : InBounds robotFile c) (hstate : c.bleState = .scanning)
    (report : Advertisement) :
    Guarded.advertisementReceived env report c = .ok (advertisementReceived env report c) := by
  have hsamples : c.sampleCount ≤ 12 := h.counters.samples
  have hindex : c.sampleIndex < 12 := h.counters.index
  have hlow : c.closeCount < 3 := h.scanning hstate
  have hnext : (c.sampleIndex + 1) % 12 < 2 ^ 4 :=
    Nat.lt_trans (Nat.mod_lt _ (by decide)) (by decide : 12 < 2 ^ 4)
  unfold Guarded.advertisementReceived advertisementReceived
  simp only
  generalize hcount : (if c.sampleCount < 12 then c.sampleCount + 1 else c.sampleCount) = count
  have hcount' : count < 2 ^ 4 := by
    rw [← hcount]
    split <;> omega
  split
  · rfl
  split
  · rfl
  rw [bind_ok (store_eq c.rssiSamples (by simp only [List.length_singleton]; omega)),
    bind_ok (narrow_eq hnext), bind_ok (narrow_eq hcount'), Nat.mod_eq_of_lt hnext,
    Nat.mod_eq_of_lt hcount']
  split
  · rfl
  split
  · have hnear : narrow 2 (c.closeCount + 1) = .ok ((c.closeCount + 1) % 4) :=
      narrow_eq (by omega)
    rw [bind_ok hnear]
    split <;> rfl
  · rw [bind_ok (narrow_eq (by decide : 0 < 2 ^ 2))]
    rfl

/-- **No packet makes a violation.** -/
theorem guarded_handle (h : InBounds robotFile c) (hfile : robotFile.length ≤ 256)
    (event : Event) :
    Guarded.handle robotFile env event c = .ok (handle robotFile env event c) := by
  cases event with
  | notification handle valueHandle value =>
    exact guarded_gattHandler h hfile (.notification handle valueHandle value)
  | serviceQueryResult handle =>
    exact @guarded_gattHandler robotFile env c h hfile (.serviceQueryResult handle)
  | characteristicQueryResult handle valueHandle =>
    exact @guarded_gattHandler robotFile env c h hfile (.characteristicQueryResult handle valueHandle)
  | queryComplete handle status =>
    exact guarded_gattHandler h hfile (.queryComplete handle status)
  | advertisingReport report =>
    show (if c.bleState = .scanning then _ else _) =
      Except.ok (if c.bleState = .scanning then _ else _)
    split
    · rename_i hstate
      exact guarded_advertisementReceived h hstate report
    · rfl
  | stackState working => rfl
  | commandComplete scanEnable status => rfl
  | connectionComplete status handle => rfl
  | disconnectionComplete handle => rfl

/-- **No move violates anything** while the counters are in bounds. -/
theorem guarded_move (h : InBounds robotFile c) (hfile : robotFile.length ≤ 256) (m : Move) :
    Guarded.move robotFile c m = .ok (move robotFile c m) := by
  cases m with
  | packet event env => exact guarded_handle h hfile event
  | startCallback env => rfl
  | abortCallback env => rfl
  | mainWrite w => rfl

end Agreement

/-- **The client keeps inside its buffers and counters**: over every order of packets,
callbacks and writes of the main thread, whatever the values hold and however long they are,
every counter stays in its range, and the next move reads no byte behind a value, writes
inside its buffers only, and assigns to every counter a value its field can hold. -/
theorem client_inBounds {ms : List Move} {c : Client}
    (hrun : run (moves robotTestFile) Client.boot ms = some c) :
    (c.sampleCount ≤ 12 ∧ c.sampleIndex < 12 ∧ c.closeCount ≤ 3 ∧
      (c.bleState = .scanning → c.closeCount < 3) ∧ c.pendingLength ≤ 20 ∧
      c.robotOffset ≤ robotTestFile.length ∧ c.replyOffset ≤ c.replyLength ∧
      c.replyLength ≤ 256) ∧
    ∀ m, Guarded.move robotTestFile c m = .ok (move robotTestFile c m) := by
  have h : InBounds robotTestFile c := inBounds_run hrun
  obtain ⟨hsamples, hindex, hclose, hpending, hrobot, hoffset, hreply⟩ := h.counters
  have hfile : robotTestFile.length ≤ 256 := by decide
  exact ⟨⟨hsamples, hindex, hclose, h.scanning, hpending, hrobot, hoffset, hreply⟩,
    fun m => guarded_move h hfile m⟩

/-- An attempt that hears fourteen close reports, connects, and parks a value behind `HELLO`. -/
def parkedMoves : List Move :=
  [.mainWrite .running, .mainWrite .starting, .startCallback accepting,
      .packet (.commandComplete true 0) accepting] ++
    List.replicate 14 (.packet (.advertisingReport closeReport) accepting) ++
    [.packet (.commandComplete true 0) accepting, .packet (.connectionComplete 0 1) accepting,
      .packet (.serviceQueryResult 1) accepting, .packet (.queryComplete 1 0) accepting,
      .packet (.characteristicQueryResult 1 25) accepting, .packet (.queryComplete 1 0) accepting,
      .packet (.queryComplete 1 0) accepting, .packet (.notification 1 25 [2, 1]) accepting]

/-- In this run twelve samples and three close averages are counted, and two bytes are parked. -/
theorem parkedMoves_inBounds :
    ∃ c, run (moves robotTestFile) Client.boot parkedMoves = some c ∧
      (c.sampleCount, c.closeCount, c.pendingLength) = (12, 3, 2) ∧
      ((c.sampleCount ≤ 12 ∧ c.sampleIndex < 12 ∧ c.closeCount ≤ 3 ∧
        (c.bleState = .scanning → c.closeCount < 3) ∧ c.pendingLength ≤ 20 ∧
        c.robotOffset ≤ robotTestFile.length ∧ c.replyOffset ≤ c.replyLength ∧
        c.replyLength ≤ 256) ∧
      ∀ m, Guarded.move robotTestFile c m = .ok (move robotTestFile c m)) := by
  have hend : (run (moves robotTestFile) Client.boot parkedMoves).map
      (fun c => (c.sampleCount, c.closeCount, c.pendingLength)) = some (12, 3, 2) := by
    decide +kernel
  obtain ⟨c, hrun, hc⟩ := Option.map_eq_some_iff.mp hend
  exact ⟨c, hrun, hc, client_inBounds hrun⟩

end PayloadClient
