/-
# The beacon with checked accesses

The handlers of the beacon once more, with every access to a written value, to the packets built
on the stack, to `pending_notification`, `received_file` and `reply_file` written out in the order
of the source.  Such an access may be a violation; the functions of `BeaconServer` cannot say so.

There is exactly one: the copy of a chunk past the end of `received_file`, under an announcement
that was rejected (`fileDataPastRejected`).  A run without such an event computes what the functions
of `BeaconServer` compute, and a run with one stops there.
-/
import GettingThere.BeaconBounds
import GettingThere.GuardedClient

namespace BeaconServer

open TransferProtocol BoundedAccess Transition
open PayloadClient (fetch_byteAt guarded_transferReadU16 guarded_transferReadU32 store_head
  store_behind)
open PayloadClient.Guarded (transferReadU16 transferReadU32)

/-- What a handler leaves behind. -/
abbrev Outcome := Except Violation (Beacon × List Effect)

namespace Guarded

variable (cfg : Config)

/-! ## Answers -/

/-- `queue_notification`. -/
def queueNotification (data : Bytes) (length : ℕ) (b : Beacon) : Outcome :=
  match b.notificationsEnabled, b.connectionHandle with
  | true, some con => do
    let length := min length transferPacketSize
    let value ← slice data 0 length
    let pending ← store b.pendingNotification 0 value
    return ({ b with pendingNotification := pending, pendingNotificationLength := length },
      [.requestCanSendNow con])
  | _, _ => .ok (b, [])

/-- `send_simple`. -/
def sendSimple (type : MessageType) (value : UInt8) (b : Beacon) : Outcome :=
  queueNotification [type.code, value] 2 b

/-- The error answer every rejected write gets, with the status it leaves. -/
def sendError (reason : UInt8) (b : Beacon) : Outcome :=
  sendSimple .error reason { b with beaconStatus := .error }

/-- `transfer_crc32(reply_file, reply_length)`. -/
def replyCrc (b : Beacon) : Except Violation UInt32 := do
  let bytes ← slice b.replyFile.cells 0 b.replyLength
  return transferCrc32 bytes

/-- `send_reply_piece`. -/
def sendReplyPiece (b : Beacon) : Outcome := do
  let packet : Buffer UInt8 20 := .filled 20 0
  if b.replyOffset = 0 ∧ b.replySequence = 0 then
    let packet ← store packet 0 [MessageType.replyStart.code]
    let packet ← store packet 1 (transferWriteU16 (UInt16.ofNat b.replyLength))
    let crc ← replyCrc b
    let packet ← store packet 3 (transferWriteU32 crc)
    queueNotification packet.cells 7 { b with replySequence := 1 }
  else if b.replyOffset < b.replyLength then
    let chunk := replyChunkLength b
    let packet ← store packet 0 [MessageType.replyData.code]
    let packet ← store packet 1 [b.replySequence - 1]
    let packet ← store packet 2 [UInt8.ofNat chunk]
    let bytes ← slice b.replyFile.cells b.replyOffset chunk
    let packet ← store packet 3 bytes
    let offset ← narrow 16 (b.replyOffset + chunk)
    queueNotification packet.cells (3 + chunk)
      { b with replyOffset := offset, replySequence := b.replySequence + 1 }
  else
    let packet ← store packet 0 [MessageType.replyEnd.code]
    let crc ← replyCrc b
    let packet ← store packet 1 (transferWriteU32 crc)
    queueNotification packet.cells 5 b

/-! ## Writes to the transfer characteristic -/

/-- The `MSG_HELLO` case. -/
def receiveHello (buffer : Bytes) (b : Beacon) : Outcome := do
  let invalid ← either (buffer.length < 3) do
    let version ← fetch buffer 1
    either (version ≠ beaconProtocolVersion) do
      let beacon ← fetch buffer 2
      return beacon ≠ cfg.beaconId
  if invalid then
    sendError 1 b
  else
    sendSimple .helloAck cfg.beaconId { resetTransfer b with beaconStatus := .handshake }

/-- The `MSG_FILE_START` case. -/
def receiveFileStart (buffer : Bytes) (b : Beacon) : Outcome :=
  if buffer.length < 7 then
    sendError 2 b
  else do
    let announced ← transferReadU16 buffer 1
    let crc ← transferReadU32 buffer 3
    let b := { b with
      expectedFileLength := announced.toNat
      expectedFileCrc := crc
      receivedFileLength := 0
      expectedSequence := 0 }
    if transferMaxFileSize < b.expectedFileLength then
      sendError 3 b
    else
      sendSimple .fileReady cfg.beaconId { b with beaconStatus := .receivingFile }

/-- The `MSG_FILE_DATA` case. -/
def receiveFileData (buffer : Bytes) (b : Beacon) : Outcome :=
  if buffer.length < 3 then
    sendError 4 b
  else do
    let sequence ← fetch buffer 1
    let chunk ← fetch buffer 2
    if sequence ≠ b.expectedSequence ∨ transferDataBytes < chunk.toNat ∨
        buffer.length ≠ 3 + chunk.toNat ∨
        b.expectedFileLength < b.receivedFileLength + chunk.toNat then
      sendError 5 b
    else
      let bytes ← slice buffer 3 chunk.toNat
      let file ← store b.receivedFile b.receivedFileLength bytes
      let length ← narrow 16 (b.receivedFileLength + chunk.toNat)
      return ({ b with
          receivedFile := file
          receivedFileLength := length
          expectedSequence := b.expectedSequence + 1 },
        [.copyReceived b.receivedFileLength bytes])

/-- The `MSG_FILE_END` case. -/
def receiveFileEnd (b : Beacon) : Outcome := do
  let file ← slice b.receivedFile.cells 0 b.receivedFileLength
  let crc := transferCrc32 file
  let valid : Bool := b.receivedFileLength = b.expectedFileLength ∧ crc = b.expectedFileCrc
  let response : Buffer UInt8 6 := .filled 6 0
  let response ← store response 0 [MessageType.fileReceived.code, 0]
  let response ← store response 1 [if valid then 0 else 1]
  let response ← store response 2 (transferWriteU32 crc)
  queueNotification response.cells 6
    { b with beaconStatus := if valid then .fileVerified else .error }

/-- The `MSG_REPLY_REQUEST` case. -/
def receiveReplyRequest (b : Beacon) : Outcome := do
  let file ← store b.replyFile 0 cfg.reply
  sendReplyPiece { b with
    replyFile := file
    replyLength := cfg.reply.length
    replyOffset := 0
    replySequence := 0
    beaconStatus := .sendingReply }

/-- The `MSG_COMPLETE` case. -/
def receiveComplete (b : Beacon) : Outcome := do
  let (b, effects) ← sendSimple .completeAck cfg.beaconId
    { b with beaconStatus := .complete, connectedCueOn := false }
  return (b, .playComplete :: effects)

/-- The `switch (buffer[0])` of `att_write_callback`. -/
def receiveMessage (buffer : Bytes) (b : Beacon) : Outcome := do
  let code ← fetch buffer 0
  match MessageType.ofCode? code with
  | some .hello => receiveHello cfg buffer b
  | some .fileStart => receiveFileStart cfg buffer b
  | some .fileData => receiveFileData buffer b
  | some .fileEnd => receiveFileEnd b
  | some .replyRequest => receiveReplyRequest cfg b
  | some .replyNext => sendReplyPiece b
  | some .complete => receiveComplete cfg b
  | _ => sendError 6 b

/-- A write to the client configuration descriptor. -/
def writeConfiguration (con : ConHandle) (buffer : Bytes) (b : Beacon) : Outcome := do
  let disabled ← either (buffer.length < 2) do
    let value ← transferReadU16 buffer 0
    return value ≠ 1
  return ({ b with
      notificationsEnabled := !disabled
      connectionHandle := some con
      beaconStatus := if disabled then .connected else .ready }, [])

/-- `att_write_callback`. -/
def attWriteCallback (con : ConHandle) (attHandle : AttHandle) (buffer : Bytes) (b : Beacon) :
    Outcome :=
  match attHandle with
  | .clientConfiguration => writeConfiguration con buffer b
  | .value => if buffer = [] then .ok (b, []) else receiveMessage cfg buffer b
  | .other => .ok (b, [])

/-! ## Events -/

/-- The can-send-now case of `packet_handler`. -/
def sendPending (b : Beacon) : Outcome :=
  if b.pendingNotificationLength ≠ 0 then do
    let value ← slice b.pendingNotification.cells 0 b.pendingNotificationLength
    return ({ b with pendingNotificationLength := 0 }, [.notify b.connectionHandle value])
  else
    .ok (b, [])

/-- One event; the others touch no buffer. -/
def handle (b : Beacon) : Event → Outcome
  | .canSendNow => sendPending b
  | .attWrite con attHandle buffer => attWriteCallback cfg con attHandle buffer b
  | e => .ok (BeaconServer.handle cfg b e)

/-- A run from `b`: its events and what they ask of BTstack. -/
def run (b : Beacon) : List Event → Outcome
  | [] => .ok (b, [])
  | e :: es => do
    let (b, effects) ← handle cfg b e
    let (b, later) ← run b es
    return (b, effects ++ later)

end Guarded

/-! ## The checks that never fail -/

section Agreement

variable {cfg : Config} {b : Beacon} {buffer : Bytes}

/-- What a handler reads and counts is in bounds. -/
structure InBounds (b : Beacon) : Prop where
  received : b.receivedFileLength ≤ 256
  expected : b.expectedFileLength < 65536
  pending : b.pendingNotificationLength ≤ 20
  replyLength : b.replyLength ≤ 64
  replyOffset : b.replyOffset ≤ b.replyLength

/-- A packet goes out as it stands at the start of its array. -/
theorem guarded_queueNotification {data : Bytes} (value : Bytes)
    (hdata : data.take value.length = value) (hlen : value.length ≤ 20) (b : Beacon) :
    Guarded.queueNotification data value.length b = .ok (queueNotification value b) := by
  have hmin : min value.length transferPacketSize = value.length := min_eq_left hlen
  have hread : slice data 0 value.length = .ok value := by
    have hle : value.length ≤ data.length := by
      have := congrArg List.length hdata
      rw [List.length_take] at this
      omega
    rw [slice_eq (by omega), List.drop_zero, hdata]
  have htake : value.take transferPacketSize = value := List.take_of_length_le hlen
  unfold Guarded.queueNotification queueNotification
  cases hen : b.notificationsEnabled with
  | false => rfl
  | true =>
    cases hcon : b.connectionHandle with
    | none => rfl
    | some con =>
      simp only [hmin, htake]
      rw [bind_ok hread, bind_ok (store_eq _ (by omega))]
      rfl

/-- A packet that was built from the start of an array. -/
theorem guarded_queuePacket {size : ℕ} (buf : Buffer UInt8 size) (value : Bytes)
    (hfits : value.length ≤ size) (hlen : value.length ≤ 20) (b : Beacon) :
    Guarded.queueNotification (buf.write 0 value).cells value.length b =
      .ok (queueNotification value b) :=
  guarded_queueNotification value (buf.prefixOf_write_zero hfits) hlen b

/-- Two bytes fit a notification. -/
theorem guarded_sendSimple (type : MessageType) (value : UInt8) (b : Beacon) :
    Guarded.sendSimple type value b = .ok (sendSimple type value b) :=
  guarded_queueNotification [type.code, value] rfl (by simp) b

/-- An error answer fits a notification. -/
theorem guarded_sendError (reason : UInt8) (b : Beacon) :
    Guarded.sendError reason b = .ok (sendError reason b) := guarded_sendSimple _ _ _

/-- The start of an array. -/
theorem slice_prefixOf {size n : ℕ} (buf : Buffer UInt8 size) (h : n ≤ size) :
    slice buf.cells 0 n = .ok (buf.prefixOf n) := by
  rw [slice_eq (by rw [buf.length_cells]; omega), List.drop_zero]
  rfl

/-- The CRC is taken within `reply_file`. -/
theorem guarded_replyCrc (h : b.replyLength ≤ 64) : Guarded.replyCrc b = .ok (replyCrc b) := by
  unfold Guarded.replyCrc
  rw [bind_ok (slice_prefixOf _ h)]
  rfl

/-- The code of a packet, and what follows it. -/
theorem store_code (type : MessageType) (rest : Bytes) (h : rest.length ≤ 19) :
    store (.filled 20 0 : Buffer UInt8 20) 0 [type.code] =
        .ok ((Buffer.filled 20 0).write 0 [type.code]) ∧
      store ((Buffer.filled 20 0).write 0 [type.code]) 1 rest =
        .ok ((Buffer.filled 20 0 : Buffer UInt8 20).write 0 (type.code :: rest)) :=
  ⟨store_eq _ (by simp), store_behind _ rest rfl (by omega)⟩

/-- A piece is read from within the reply, and fits the packet. -/
theorem guarded_sendReplyPiece (hlength : b.replyLength ≤ 64)
    (hoffset : b.replyOffset ≤ b.replyLength) :
    Guarded.sendReplyPiece b = .ok (sendReplyPiece b) := by
  have hchunk : replyChunkLength b ≤ 17 := Nat.min_le_right _ _
  have hrest : b.replyOffset + replyChunkLength b ≤ 64 := by
    have : replyChunkLength b ≤ b.replyLength - b.replyOffset := Nat.min_le_left _ _
    omega
  have hbytes : slice b.replyFile.cells b.replyOffset (replyChunkLength b) = .ok (replyChunk b) :=
    slice_eq (by rw [b.replyFile.length_cells]; exact hrest)
  have hlen : (replyChunk b).length = replyChunkLength b := by
    rw [replyChunk, List.length_take, List.length_drop, b.replyFile.length_cells]
    omega
  unfold Guarded.sendReplyPiece sendReplyPiece
  simp only
  split_ifs
  · -- the announcement
    obtain ⟨hcode, hsize⟩ := store_code .replyStart
      (transferWriteU16 (UInt16.ofNat b.replyLength)) (by simp [transferWriteU16])
    have hcrc := @store_behind (.filled 20 0)
      (MessageType.replyStart.code :: transferWriteU16 (UInt16.ofNat b.replyLength))
      (transferWriteU32 (replyCrc b)) 3 rfl (by simp [transferWriteU32])
    rw [bind_ok hcode, bind_ok hsize, bind_ok (guarded_replyCrc hlength), bind_ok hcrc]
    have hlen : (MessageType.replyStart.code :: (transferWriteU16 (UInt16.ofNat b.replyLength) ++
        transferWriteU32 (replyCrc b))).length ≤ 20 := by simp [transferWriteU16, transferWriteU32]
    exact guarded_queuePacket _ _ hlen hlen _
  · -- a chunk
    obtain ⟨hcode, hsequence, hcount⟩ := store_head (.filled 20 0) MessageType.replyData.code
      (b.replySequence - 1) (UInt8.ofNat (replyChunkLength b))
    have hdata := @store_behind (.filled 20 0) [MessageType.replyData.code, b.replySequence - 1,
      UInt8.ofNat (replyChunkLength b)] (replyChunk b) 3 rfl (by omega)
    have hnarrow : b.replyOffset + replyChunkLength b < 2 ^ 16 := by omega
    rw [bind_ok hcode, bind_ok hsequence, bind_ok hcount, bind_ok hbytes, bind_ok hdata,
      bind_ok (narrow_eq hnarrow)]
    have hpacket := guarded_queuePacket (.filled 20 0) (MessageType.replyData.code ::
      (b.replySequence - 1) :: UInt8.ofNat (replyChunkLength b) :: replyChunk b)
      (by simp only [List.length_cons]; omega) (by simp only [List.length_cons]; omega)
      { b with
        replyOffset := (b.replyOffset + replyChunkLength b) % 65536
        replySequence := b.replySequence + 1 }
    rw [← hpacket]
    congr 1
    simp only [List.length_cons]
    omega
  · -- the end
    obtain ⟨hcode, hcrc⟩ := store_code .replyEnd (transferWriteU32 (replyCrc b))
      (by simp [transferWriteU32])
    rw [bind_ok hcode, bind_ok (guarded_replyCrc hlength), bind_ok hcrc]
    have hlen : (MessageType.replyEnd.code :: transferWriteU32 (replyCrc b)).length ≤ 20 := by
      simp [transferWriteU32]
    exact guarded_queuePacket _ _ hlen hlen b

/-! ### Messages -/

/-- The order of C's `<` and of the model's `≤`. -/
theorem not_decide_le (m n : ℕ) : (!decide (m ≤ n)) = decide (n < m) := by
  by_cases h : n < m
  · simp [h]
  · simp [Nat.not_lt.mp h]

/-- The length is tested before the version and the beacon's number are read. -/
theorem guarded_receiveHello (buffer : Bytes) (b : Beacon) :
    Guarded.receiveHello cfg buffer b = .ok (receiveHello cfg buffer b) := by
  have hinvalid : (either (buffer.length < 3) do
      let version ← fetch buffer 1
      either (version ≠ beaconProtocolVersion) do
        let beacon ← fetch buffer 2
        return beacon ≠ cfg.beaconId) = .ok (!helloValid cfg buffer) := by
    rw [either_eq (b := decide (byteAt buffer 1 ≠ beaconProtocolVersion) ||
      decide (byteAt buffer 2 ≠ cfg.beaconId))]
    · rw [helloValid, ← not_decide_le]
      simp [Bool.decide_and]
    · intro hlen
      rw [decide_eq_false_iff_not, Nat.not_lt] at hlen
      rw [bind_ok (fetch_byteAt (by omega))]
      apply either_eq
      intro _
      rw [bind_ok (fetch_byteAt (by omega))]
      rfl
  unfold Guarded.receiveHello receiveHello
  rw [bind_ok hinvalid]
  cases helloValid cfg buffer with
  | true => exact guarded_sendSimple _ _ _
  | false => exact guarded_sendError _ _

/-- The length is tested before the announcement is read. -/
theorem guarded_receiveFileStart (buffer : Bytes) (b : Beacon) :
    Guarded.receiveFileStart cfg buffer b = .ok (receiveFileStart cfg buffer b) := by
  unfold Guarded.receiveFileStart receiveFileStart
  split_ifs with hlen
  · exact guarded_sendError _ _
  rw [bind_ok (guarded_transferReadU16 (by omega)), bind_ok (guarded_transferReadU32 (by omega))]
  simp only [announcedLength]
  by_cases hbig : transferMaxFileSize < (TransferProtocol.transferReadU16 buffer 1).toNat
  · simp only [hbig, if_true]
    exact guarded_sendError _ _
  · simp only [hbig, if_false]
    exact guarded_sendSimple _ _ _

/-- The CRC is taken over a length within `received_file`. -/
theorem guarded_receiveFileEnd (h : b.receivedFileLength ≤ 256) :
    Guarded.receiveFileEnd b = .ok (receiveFileEnd b) := by
  have hpacket (status : UInt8) (b' : Beacon) := guarded_queuePacket (.filled 6 0)
    (MessageType.fileReceived.code :: status :: transferWriteU32 (receivedCrc b))
    (by simp [transferWriteU32]) (by simp [transferWriteU32]) b'
  unfold Guarded.receiveFileEnd receiveFileEnd
  rw [bind_ok (slice_prefixOf _ h)]
  exact hpacket _ _

/-- A reply of 64 bytes fits `reply_file`. -/
theorem guarded_receiveReplyRequest (b : Beacon) :
    Guarded.receiveReplyRequest cfg b = .ok (receiveReplyRequest cfg b) := by
  unfold Guarded.receiveReplyRequest
  have hle := cfg.reply_le
  rw [bind_ok (store_eq _ (by omega))]
  exact guarded_sendReplyPiece hle (Nat.zero_le _)

/-- The acknowledgement fits a notification. -/
theorem guarded_receiveComplete (b : Beacon) :
    Guarded.receiveComplete cfg b = .ok (receiveComplete cfg b) := by
  unfold Guarded.receiveComplete
  rw [bind_ok (guarded_sendSimple _ _ _)]
  rfl

/-- A configuration write reads what it has tested for. -/
theorem guarded_writeConfiguration (con : ConHandle) (buffer : Bytes) (b : Beacon) :
    Guarded.writeConfiguration con buffer b = .ok (writeConfiguration con buffer b, []) := by
  have hdisabled : (either (buffer.length < 2) do
      let value ← transferReadU16 buffer 0
      return value ≠ 1) =
      .ok (!decide (2 ≤ buffer.length ∧ TransferProtocol.transferReadU16 buffer 0 = 1)) := by
    rw [either_eq (b := decide (TransferProtocol.transferReadU16 buffer 0 ≠ 1))]
    · rw [← not_decide_le]
      simp [Bool.decide_and]
    · intro hlen
      rw [decide_eq_false_iff_not, Nat.not_lt] at hlen
      rw [bind_ok (guarded_transferReadU16 (by omega))]
      rfl
  unfold Guarded.writeConfiguration writeConfiguration
  rw [bind_ok hdisabled]
  cases decide (2 ≤ buffer.length ∧ TransferProtocol.transferReadU16 buffer 0 = 1) with
  | true => rfl
  | false => rfl

/-- What is pending fits a notification. -/
theorem guarded_sendPending (h : b.pendingNotificationLength ≤ 20) :
    Guarded.sendPending b = .ok (sendPending b) := by
  unfold Guarded.sendPending sendPending
  split_ifs
  · rw [bind_ok (slice_prefixOf _ h)]
    rfl
  · rfl

/-- A chunk is stored, or it is the one that goes wrong. -/
theorem guarded_receiveFileData (h : InBounds b) (buffer : Bytes) :
    Guarded.receiveFileData buffer b =
      if 3 ≤ buffer.length ∧ fileDataFits buffer b = true ∧
          256 < b.receivedFileLength + chunkLength buffer then
        .error .writtenOutside
      else .ok (receiveFileData buffer b) := by
  unfold Guarded.receiveFileData receiveFileData
  by_cases hlen : buffer.length < 3
  · rw [if_pos hlen, if_pos hlen, if_neg fun hbad => absurd hbad.1 (by omega)]
    exact guarded_sendError _ _
  have hlong : 3 ≤ buffer.length := Nat.le_of_not_lt hlen
  have hcheck : (byteAt buffer 1 ≠ b.expectedSequence ∨
      transferDataBytes < (byteAt buffer 2).toNat ∨
      buffer.length ≠ 3 + (byteAt buffer 2).toNat ∨
      b.expectedFileLength < b.receivedFileLength + (byteAt buffer 2).toNat) ↔
      ¬ fileDataFits buffer b = true := by
    simp only [fileDataFits, decide_eq_true_eq]
    simp only [chunkLength, not_and_or, Nat.not_le, ne_eq]
  rw [if_neg hlen, if_neg hlen, bind_ok (fetch_byteAt (by omega)),
    bind_ok (fetch_byteAt (by omega))]
  by_cases hfits : fileDataFits buffer b = true
  · have hsum : b.receivedFileLength + chunkLength buffer ≤ b.expectedFileLength := by
      simp only [fileDataFits, decide_eq_true_eq] at hfits
      exact hfits.2.2.2
    have hdrop := length_chunk hfits
    have hbytes : slice buffer 3 (byteAt buffer 2).toNat = .ok (buffer.drop 3) := by
      rw [List.length_drop, chunkLength] at hdrop
      rw [slice_eq (by omega), ← hdrop, ← List.length_drop, List.take_length]
    rw [if_neg fun hreject => hcheck.mp hreject hfits, bind_ok hbytes]
    by_cases hover : 256 < b.receivedFileLength + chunkLength buffer
    · have hstore : store b.receivedFile b.receivedFileLength (buffer.drop 3) =
          .error .writtenOutside := if_neg (by unfold Buffer.Fits; omega)
      rw [if_pos ⟨hlong, hfits, hover⟩, hstore]
      rfl
    · have hnarrow : b.receivedFileLength + (byteAt buffer 2).toNat < 2 ^ 16 :=
        Nat.lt_of_le_of_lt hsum h.expected
      rw [if_neg fun hbad => hover hbad.2.2, bind_ok (store_eq _ (by omega)),
        bind_ok (narrow_eq hnarrow), if_pos hfits]
      rfl
  · rw [if_pos (hcheck.mpr hfits), if_neg fun hbad => hfits hbad.2.1, if_neg hfits]
    exact guarded_sendError _ _

/-- Only a chunk can go wrong. -/
theorem fileDataPastRejected_iff (con : ConHandle) (buffer : Bytes) :
    fileDataPastRejected b (.attWrite con .value buffer) = true ↔
      MessageType.ofCode? (byteAt buffer 0) = some .fileData ∧ 3 ≤ buffer.length ∧
        fileDataFits buffer b = true ∧ 256 < b.receivedFileLength + chunkLength buffer := by
  simp only [fileDataPastRejected, acceptsFileData, Bool.and_eq_true, decide_eq_true_eq]
  constructor
  · rintro ⟨⟨⟨hcode, hlen, hfits⟩, -⟩, hover⟩
    exact ⟨hcode, hlen, hfits, hover⟩
  · rintro ⟨hcode, hlen, hfits, hover⟩
    refine ⟨⟨⟨hcode, hlen, hfits⟩, ?_⟩, hover⟩
    simp only [fileDataFits, decide_eq_true_eq] at hfits
    omega

/-- **A written message** makes a violation exactly when it is a chunk past the end under a rejected
announcement. -/
theorem guarded_receiveMessage (h : InBounds b) (con : ConHandle) (hne : buffer ≠ []) :
    Guarded.receiveMessage cfg buffer b =
      if fileDataPastRejected b (.attWrite con .value buffer) = true then .error .writtenOutside
      else .ok (receiveMessage cfg buffer b) := by
  have hlen : 0 < buffer.length := List.length_pos_iff.mpr hne
  have hother (hcode : MessageType.ofCode? (byteAt buffer 0) ≠ some .fileData) :
      ¬ fileDataPastRejected b (.attWrite con .value buffer) = true :=
    fun hbad => hcode ((fileDataPastRejected_iff con buffer).mp hbad).1
  unfold Guarded.receiveMessage receiveMessage
  rw [bind_ok (fetch_byteAt hlen)]
  rcases hcode : MessageType.ofCode? (byteAt buffer 0) with _ | type
  · rw [if_neg (hother (by rw [hcode]; decide))]
    exact guarded_sendError 6 b
  by_cases htype : type = .fileData
  · subst htype
    simp only [fileDataPastRejected_iff, hcode, true_and]
    exact guarded_receiveFileData h buffer
  rw [if_neg (hother fun hdata => htype (Option.some.inj (hcode.symm.trans hdata)))]
  cases type with
  | hello => exact guarded_receiveHello buffer b
  | fileStart => exact guarded_receiveFileStart buffer b
  | fileData => exact absurd rfl htype
  | fileEnd => exact guarded_receiveFileEnd h.received
  | replyRequest => exact guarded_receiveReplyRequest b
  | replyNext => exact guarded_sendReplyPiece h.replyLength h.replyOffset
  | complete => exact guarded_receiveComplete b
  | _ => exact guarded_sendError 6 b

/-- An event goes through, or it is the one that goes wrong. -/
theorem guarded_handle (h : InBounds b) (e : Event) :
    Guarded.handle cfg b e =
      if fileDataPastRejected b e = true then .error .writtenOutside else .ok (handle cfg b e) := by
  cases e with
  | canSendNow =>
    exact guarded_sendPending h.pending
  | attWrite con attHandle buffer =>
    cases attHandle with
    | clientConfiguration => exact guarded_writeConfiguration con buffer b
    | other => rfl
    | value =>
      unfold Guarded.handle Guarded.attWriteCallback handle attWriteCallback
      by_cases hempty : buffer = []
      · have hgood : ¬ fileDataPastRejected b (.attWrite con .value buffer) = true := by
          rw [fileDataPastRejected_iff, hempty]
          rintro ⟨-, hlen, -⟩
          exact absurd hlen (by decide)
        simp only [if_neg hgood, if_pos hempty]
      · simp only [if_neg hempty]
        exact guarded_receiveMessage h con hempty
  | _ => rfl

end Agreement

/-! ## Bounds along a run -/

section Runs

variable {cfg : Config} {b : Beacon}

/-- The bounds that no event can break. -/
structure Slots (b : Beacon) : Prop where
  pending : b.pendingNotificationLength ≤ 20
  replyLength : b.replyLength ≤ 64
  replyOffset : b.replyOffset ≤ b.replyLength

/-- Queuing a notification keeps its length within the slot. -/
theorem Slots.queueNotification (h : Slots b) (data : Bytes) :
    Slots (queueNotification data b).1 := by
  unfold BeaconServer.queueNotification
  split
  · exact ⟨List.length_take_le _ _, h.replyLength, h.replyOffset⟩
  · exact h

/-- Sending a piece keeps the slots. -/
theorem Slots.sendReplyPiece (h : Slots b) : Slots (sendReplyPiece b).1 := by
  have hrest : replyChunkLength b ≤ b.replyLength - b.replyOffset := Nat.min_le_left _ _
  have hlength := h.replyLength
  have hoffset := h.replyOffset
  unfold BeaconServer.sendReplyPiece
  split_ifs
  · apply Slots.queueNotification
    exact ⟨h.pending, hlength, hoffset⟩
  · apply Slots.queueNotification
    refine ⟨h.pending, hlength, ?_⟩
    show (b.replyOffset + replyChunkLength b) % 65536 ≤ b.replyLength
    omega
  · exact h.queueNotification _

/-- An error answer keeps them. -/
theorem Slots.sendError (h : Slots b) (reason : UInt8) : Slots (sendError reason b).1 := by
  apply Slots.queueNotification
  exact ⟨h.pending, h.replyLength, h.replyOffset⟩

/-- Every message keeps them. -/
theorem Slots.receiveMessage (h : Slots b) (buffer : Bytes) :
    Slots (receiveMessage cfg buffer b).1 := by
  unfold BeaconServer.receiveMessage
  split
  · unfold receiveHello
    split_ifs
    · apply Slots.queueNotification
      exact ⟨h.pending, h.replyLength, Nat.zero_le _⟩
    · exact h.sendError 1
  · unfold receiveFileStart
    simp only
    split_ifs
    · exact h.sendError 2
    · apply Slots.sendError
      exact ⟨h.pending, h.replyLength, h.replyOffset⟩
    · apply Slots.queueNotification
      exact ⟨h.pending, h.replyLength, h.replyOffset⟩
  · unfold receiveFileData
    split_ifs
    · exact h.sendError 4
    · exact ⟨h.pending, h.replyLength, h.replyOffset⟩
    · exact h.sendError 5
  · apply Slots.queueNotification
    exact ⟨h.pending, h.replyLength, h.replyOffset⟩
  · apply Slots.sendReplyPiece
    exact ⟨h.pending, cfg.reply_le, Nat.zero_le _⟩
  · exact h.sendReplyPiece
  · apply Slots.queueNotification
    exact ⟨h.pending, h.replyLength, h.replyOffset⟩
  · exact h.sendError 6

/-- Every event keeps them. -/
theorem Slots.handle (h : Slots b) (e : Event) : Slots (handle cfg b e).1 := by
  cases e with
  | stackState working =>
    cases working
    · exact h
    · exact ⟨h.pending, h.replyLength, h.replyOffset⟩
  | leConnectionComplete con => exact ⟨h.pending, h.replyLength, h.replyOffset⟩
  | disconnectionComplete => exact ⟨Nat.zero_le _, h.replyLength, Nat.zero_le _⟩
  | canSendNow =>
    unfold BeaconServer.handle sendPending
    split_ifs
    · exact ⟨Nat.zero_le _, h.replyLength, h.replyOffset⟩
    · exact h
  | attWrite con attHandle buffer =>
    cases attHandle with
    | clientConfiguration => exact ⟨h.pending, h.replyLength, h.replyOffset⟩
    | other => exact h
    | value =>
      unfold BeaconServer.handle attWriteCallback
      simp only
      split_ifs
      · exact h
      · exact h.receiveMessage buffer
  | other => exact h

/-- The event that does not go wrong keeps the bounds. -/
theorem InBounds.handle (h : InBounds b) {e : Event} (hgood : fileDataPastRejected b e = false) :
    InBounds (handle cfg b e).1 := by
  have hslots := @Slots.handle cfg b ⟨h.pending, h.replyLength, h.replyOffset⟩ e
  exact ⟨(staysInside_of cfg h.received h.expected hgood).2.1, handle_expected_lt cfg e h.expected,
    hslots.pending, hslots.replyLength, hslots.replyOffset⟩

/-- The lengths are in bounds at boot. -/
theorem inBounds_boot : InBounds Beacon.boot := by
  constructor
  all_goals decide

/-- A run: its last state, and what its events ask of BTstack. -/
def play (cfg : Config) (b : Beacon) : List Event → Beacon × List Effect
  | [] => (b, [])
  | e :: es =>
    let (b, effects) := handle cfg b e
    let (b, later) := play cfg b es
    (b, effects ++ later)

/-- No event goes wrong. -/
def Harmless (cfg : Config) (b : Beacon) (es : List Event) : Prop :=
  Along (step cfg) (fun b e => fileDataPastRejected b e = false) b es

/-- By induction on the run: without such an event the runs agree, and with one the guarded run
stops. -/
theorem guarded_run_from (h : InBounds b) (es : List Event) :
    (Harmless cfg b es → Guarded.run cfg b es = .ok (play cfg b es)) ∧
      (¬ Harmless cfg b es → Guarded.run cfg b es = .error .writtenOutside) := by
  induction es generalizing b with
  | nil => exact ⟨fun _ => rfl, fun hbad => absurd trivial hbad⟩
  | cons e es ih =>
    have hharmless : Harmless cfg b (e :: es) ↔
        fileDataPastRejected b e = false ∧ Harmless cfg (handle cfg b e).1 es := by
      simp [Harmless, Along, step]
    cases hbad : fileDataPastRejected b e with
    | true =>
      have hrun : Guarded.run cfg b (e :: es) = .error .writtenOutside := by
        rw [Guarded.run, guarded_handle h, hbad]
        rfl
      rw [hharmless, hbad]
      exact ⟨fun hgood => absurd hgood.1 (by simp), fun _ => hrun⟩
    | false =>
      have hrun : Guarded.run cfg b (e :: es) =
          (Guarded.run cfg (handle cfg b e).1 es >>= fun r =>
            .ok (r.1, (handle cfg b e).2 ++ r.2)) := by
        rw [Guarded.run, guarded_handle h, hbad]
        rfl
      obtain ⟨hgood, herror⟩ := ih (@InBounds.handle cfg b h e hbad)
      rw [hharmless, hrun]
      constructor
      · rintro ⟨-, hes⟩
        rw [hgood hes]
        rfl
      · intro hes
        rw [herror fun hes' => hes ⟨hbad, hes'⟩]
        rfl

/-- Every access of the beacon's handlers, in every run since power-up, is inside its object, with
one exception: the copy of a chunk past the end of `received_file` under a rejected announcement. -/
theorem guarded_run (cfg : Config) (es : List Event) :
    (Harmless cfg Beacon.boot es →
        Guarded.run cfg Beacon.boot es = .ok (play cfg Beacon.boot es)) ∧
      (¬ Harmless cfg Beacon.boot es →
        Guarded.run cfg Beacon.boot es = .error .writtenOutside) :=
  guarded_run_from inBounds_boot es

end Runs

end BeaconServer
