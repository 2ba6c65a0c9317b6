/-
# The rounds of an exchange

An exchange goes through rounds: in each the client writes one request and waits for at
most one answer (a file chunk has none).  `Round.request` and `Round.answer` are the two
packets, as functions of the robot's file and the beacon's reply; `ClientAt` and `BeaconAt`
say what either side keeps while the request of a round is under way.

* `beacon_takes` : the beacon answers the request of a round and is ready for the next;
* `client_hears` : the client takes the answer of a round and writes the next request, or
  hangs up after the last one;
* `client_goesOn` : after a request without an answer the client writes the next one.
-/
import GettingThere.Connection

namespace Connection

open TransferProtocol PayloadClient

/-- The requests of an exchange: `fileData k` carries chunk `k` of the robot's file, and
`replyNext k` asks for what follows the first `k` chunks of the reply. -/
inductive Round
  | hello
  | fileStart
  | fileData (k : ℕ)
  | fileEnd
  | replyRequest
  | replyNext (k : ℕ)
  | complete
  deriving DecidableEq, Repr

/-- Chunk `k` of a file. -/
def chunk (file : Bytes) (k : ℕ) : Bytes := (file.drop (17 * k)).take 17

/-- How much of a file its first `k` chunks hold. -/
def sent (file : Bytes) (k : ℕ) : ℕ := min file.length (17 * k)

/-- The round that sends chunk `k` of the robot's file, or ends the file. -/
def fileRound (robotFile : Bytes) (k : ℕ) : Round :=
  if 17 * k < robotFile.length then .fileData k else .fileEnd

/-- The packet of the `k`-th chunk of a file. -/
def chunkPacket (type : MessageType) (file : Bytes) (k : ℕ) : Bytes :=
  type.code :: UInt8.ofNat k :: UInt8.ofNat (chunk file k).length :: chunk file k

namespace Round

variable (robotFile reply : Bytes)

/-- What the client writes. -/
def request : Round → Bytes
  | hello => [MessageType.hello.code, beaconProtocolVersion, targetBeaconId]
  | fileStart => MessageType.fileStart.code ::
      (transferWriteU16 (UInt16.ofNat robotFile.length) ++ transferWriteU32 (transferCrc32 robotFile))
  | fileData k => chunkPacket .fileData robotFile k
  | fileEnd => [MessageType.fileEnd.code]
  | replyRequest => [MessageType.replyRequest.code]
  | replyNext _ => [MessageType.replyNext.code]
  | complete => [MessageType.complete.code]

/-- What the beacon answers. -/
def answer : Round → Option Bytes
  | hello => some [MessageType.helloAck.code, targetBeaconId]
  | fileStart => some [MessageType.fileReady.code, targetBeaconId]
  | fileData _ => none
  | fileEnd => some (MessageType.fileReceived.code :: 0 :: transferWriteU32 (transferCrc32 robotFile))
  | replyRequest => some (MessageType.replyStart.code ::
      (transferWriteU16 (UInt16.ofNat reply.length) ++ transferWriteU32 (transferCrc32 reply)))
  | replyNext k =>
    if 17 * k < reply.length then some (chunkPacket .replyData reply k)
    else some (MessageType.replyEnd.code :: transferWriteU32 (transferCrc32 reply))
  | complete => some [MessageType.completeAck.code, targetBeaconId]

/-- The client's state while the request is being written. -/
def writing : Round → BleState
  | hello => .writeHello
  | fileStart => .writeFileStart
  | fileData _ => .writeFileData
  | fileEnd => .writeFileEnd
  | replyRequest => .writeReplyRequest
  | replyNext _ => .writeReplyNext
  | complete => .writeComplete

/-- The client's state while it waits for the answer; a file chunk has no such state. -/
def waiting : Round → BleState
  | hello => .waitHelloAck
  | fileStart => .waitFileReady
  | fileData _ => .writeFileData
  | fileEnd => .waitFileReceived
  | replyRequest => .waitReplyStart
  | replyNext _ => .waitReplyPiece
  | complete => .waitCompleteAck

/-- The round after this one. -/
def next : Round → Option Round
  | hello => some fileStart
  | fileStart => some (fileRound robotFile 0)
  | fileData k => some (fileRound robotFile (k + 1))
  | fileEnd => some replyRequest
  | replyRequest => some (replyNext 0)
  | replyNext k => some (if 17 * k < reply.length then replyNext (k + 1) else complete)
  | complete => none

/-- A bound on the number of rounds after this one. -/
def left : Round → ℕ
  | hello => reply.length + robotFile.length + 5
  | fileStart => reply.length + robotFile.length + 4
  | fileData k => reply.length + 3 + (robotFile.length - 17 * k)
  | fileEnd => reply.length + 3
  | replyRequest => reply.length + 2
  | replyNext k => reply.length - 17 * k + 1
  | complete => 0

/-- A chunk round has a chunk to send. -/
def Valid : Round → Prop
  | fileData k => 17 * k < robotFile.length
  | replyNext k => 17 * k < reply.length + 17
  | _ => True

variable {robotFile reply}

/-- The rounds come to an end. -/
theorem left_next {ρ ρ' : Round} (hvalid : ρ.Valid robotFile reply)
    (hnext : ρ.next robotFile reply = some ρ') :
    ρ'.left robotFile reply < ρ.left robotFile reply := by
  cases ρ with
  | fileStart =>
    cases hnext
    unfold fileRound
    split <;> simp only [left] <;> omega
  | fileData k =>
    cases hnext
    unfold fileRound
    simp only [Valid] at hvalid
    split <;> simp only [left] <;> omega
  | replyNext k =>
    cases hnext
    split <;> simp only [left] <;> omega
  | complete => cases hnext
  | hello => cases hnext; simp only [left]; omega
  | fileEnd => cases hnext; simp only [left]; omega
  | replyRequest => cases hnext; simp only [left]; omega

theorem valid_next {ρ ρ' : Round} (hnext : ρ.next robotFile reply = some ρ') :
    ρ'.Valid robotFile reply := by
  have file (k : ℕ) : (fileRound robotFile k).Valid robotFile reply := by
    unfold fileRound
    split
    · assumption
    · trivial
  cases ρ with
  | fileStart => cases hnext; exact file 0
  | fileData k => cases hnext; exact file (k + 1)
  | replyNext k =>
    cases hnext
    split
    · simp only [Valid]; omega
    · trivial
  | complete => cases hnext
  | hello => cases hnext; trivial
  | fileEnd => cases hnext; trivial
  | replyRequest => cases hnext; simp only [Valid]; omega

/-- Only a file chunk goes unanswered. -/
theorem answer_eq_none_iff (ρ : Round) : ρ.answer robotFile reply = none ↔ ∃ k, ρ = fileData k := by
  constructor
  · intro h
    cases ρ with
    | fileData k => exact ⟨k, rfl⟩
    | replyNext k =>
      simp only [answer] at h
      split at h <;> simp at h
    | hello => cases h
    | fileStart => cases h
    | fileEnd => cases h
    | replyRequest => cases h
    | complete => cases h
  · rintro ⟨k, rfl⟩
    rfl

end Round

/-! ## Chunks -/

theorem length_chunk (file : Bytes) (k : ℕ) :
    (chunk file k).length = min 17 (file.length - 17 * k) := by
  rw [chunk, List.length_take, List.length_drop]

@[simp] theorem sent_zero (file : Bytes) : sent file 0 = 0 := by
  rw [sent, Nat.mul_zero, Nat.min_zero]

/-- The next chunk extends what has been sent. -/
theorem sent_succ (file : Bytes) (k : ℕ) : sent file k + (chunk file k).length = sent file (k + 1) := by
  rw [length_chunk, sent, sent]
  omega

/-- While there is a chunk to send, only whole chunks have been sent. -/
theorem sent_of_lt {file : Bytes} {k : ℕ} (h : 17 * k < file.length) : sent file k = 17 * k := by
  rw [sent]
  omega

/-- Past the last chunk everything has been sent. -/
theorem sent_of_not_lt {file : Bytes} {k : ℕ} (h : ¬ 17 * k < file.length) :
    sent file k = file.length := by
  rw [sent]
  omega

theorem take_sent_succ {file : Bytes} {k : ℕ} (h : 17 * k < file.length) :
    file.take (sent file k) ++ chunk file k = file.take (sent file (k + 1)) := by
  have hk : sent file (k + 1) = min file.length (17 * k + 17) := by
    rw [sent, Nat.mul_succ]
  rw [hk, sent_of_lt h, chunk, Nat.min_comm, ← List.take_take, List.take_length, ← List.take_add]

/-! ## The beacon's side -/

/-- The beacon has the whole of the robot's file. -/
def Delivered (robotFile : Bytes) (b : BeaconServer.Beacon) : Prop :=
  b.receivedFileLength = robotFile.length ∧ b.receivedFile.prefixOf robotFile.length = robotFile

/-- What the beacon keeps when the request of a round is still to come; after the last
round it keeps the file. -/
def BeaconAt (robotFile reply : Bytes) (b : BeaconServer.Beacon) : Option Round → Prop
  | some (.fileData k) =>
    b.expectedFileLength = robotFile.length ∧ b.expectedFileCrc = transferCrc32 robotFile ∧
      b.expectedSequence = UInt8.ofNat k ∧ b.receivedFileLength = sent robotFile k ∧
      b.receivedFile.prefixOf (sent robotFile k) = robotFile.take (sent robotFile k)
  | some .fileEnd =>
    b.expectedFileLength = robotFile.length ∧ b.expectedFileCrc = transferCrc32 robotFile ∧
      Delivered robotFile b
  | some .replyRequest => Delivered robotFile b
  | some (.replyNext k) =>
    Delivered robotFile b ∧ b.replyLength = reply.length ∧
      b.replyFile.prefixOf reply.length = reply ∧ b.replyOffset = sent reply k ∧
      b.replySequence = UInt8.ofNat (k + 1)
  | some .complete => Delivered robotFile b
  | none => Delivered robotFile b
  | _ => True

/-- The connection of the beacon, open for notifications. -/
structure Serving (names : Names) (b : BeaconServer.Beacon) : Prop where
  enabled : b.notificationsEnabled = true
  handle : b.connectionHandle = some names.beaconCon

/-- What is in the beacon's slot: an answer that has not been sent. -/
def slot (b : BeaconServer.Beacon) : Option Bytes :=
  if b.pendingNotificationLength = 0 then none
  else some (b.pendingNotification.prefixOf b.pendingNotificationLength)

variable {names : Names} {robotFile : Bytes} {cfg : BeaconServer.Config}
  {b : BeaconServer.Beacon}

/-- What the beacon keeps of an exchange does not depend on its slot. -/
theorem BeaconAt.withSlot {reply : Bytes} {ρ : Option Round} (h : BeaconAt robotFile reply b ρ)
    (buffer : Buffer UInt8 20) (n : ℕ) :
    BeaconAt robotFile reply
      { b with pendingNotification := buffer, pendingNotificationLength := n } ρ := by
  rcases ρ with _ | ρ
  · exact h
  · cases ρ <;> exact h

/-- What a handler that has taken the request of a round leaves behind. -/
structure Took (names : Names) (robotFile : Bytes) (cfg : BeaconServer.Config) (ρ : Round)
    (r : BeaconServer.Beacon × List BeaconServer.Effect) : Prop where
  serving : Serving names r.1
  kept : BeaconAt robotFile cfg.reply r.1 (ρ.next robotFile cfg.reply)
  slot : slot r.1 = ρ.answer robotFile cfg.reply
  requested : requested names r.2 = if (ρ.answer robotFile cfg.reply).isSome then 1 else 0
  notified : notified names r.2 = []

/-- An answer that fits the slot is queued. -/
theorem took_of_queue {ρ : Round} {data : Bytes} (hserving : Serving names b)
    (hkept : BeaconAt robotFile cfg.reply b (ρ.next robotFile cfg.reply))
    (hanswer : ρ.answer robotFile cfg.reply = some data) (hne : data ≠ [])
    (hlen : data.length ≤ 20) :
    Took names robotFile cfg ρ (BeaconServer.queueNotification data b) := by
  have hqueue : BeaconServer.queueNotification data b =
      ({ b with
          pendingNotification := b.pendingNotification.write 0 data
          pendingNotificationLength := data.length }, [.requestCanSendNow names.beaconCon]) := by
    unfold BeaconServer.queueNotification
    rw [hserving.enabled, hserving.handle, transferPacketSize, List.take_of_length_le hlen]
  rw [hqueue]
  refine ⟨⟨hserving.enabled, hserving.handle⟩, hkept.withSlot _ _, ?_, ?_, rfl⟩
  · have hpos : data.length ≠ 0 := by
      intro h
      exact hne (List.length_eq_zero_iff.mp h)
    rw [slot, if_neg hpos, Buffer.prefixOf_write_zero _ hlen, hanswer]
  · rw [hanswer]
    simp [requested]

/-- A request reaches the case of its message type. -/
theorem handle_write (type : MessageType) (rest : Bytes) :
    BeaconServer.handle cfg b (.attWrite names.beaconCon .value (type.code :: rest)) =
      match type with
      | .hello => BeaconServer.receiveHello cfg (type.code :: rest) b
      | .fileStart => BeaconServer.receiveFileStart cfg (type.code :: rest) b
      | .fileData => BeaconServer.receiveFileData (type.code :: rest) b
      | .fileEnd => BeaconServer.receiveFileEnd b
      | .replyRequest => BeaconServer.receiveReplyRequest cfg b
      | .replyNext => BeaconServer.sendReplyPiece b
      | .complete => BeaconServer.receiveComplete cfg b
      | _ => BeaconServer.sendError 6 b := by
  show BeaconServer.receiveMessage cfg (type.code :: rest) b = _
  unfold BeaconServer.receiveMessage
  rw [show byteAt (type.code :: rest) 0 = type.code from rfl, MessageType.ofCode?_code]
  cases type <;> rfl

theorem takes_hello (hid : cfg.beaconId = targetBeaconId) (hserving : Serving names b) :
    Took names robotFile cfg .hello (BeaconServer.handle cfg b
      (.attWrite names.beaconCon .value (Round.request robotFile .hello))) := by
  rw [Round.request, handle_write]
  have hvalid : BeaconServer.helloValid cfg
      [MessageType.hello.code, beaconProtocolVersion, targetBeaconId] = true := by
    simp [BeaconServer.helloValid, byteAt, hid]
  simp only
  rw [BeaconServer.receiveHello, if_pos hvalid, hid]
  exact took_of_queue ⟨hserving.enabled, hserving.handle⟩ trivial rfl (by simp) (by simp)

theorem takes_fileStart (hid : cfg.beaconId = targetBeaconId) (hmax : robotFile.length ≤ 256)
    (hserving : Serving names b) :
    Took names robotFile cfg .fileStart (BeaconServer.handle cfg b
      (.attWrite names.beaconCon .value (Round.request robotFile .fileStart))) := by
  rw [Round.request, handle_write]
  simp only
  generalize hpacket : MessageType.fileStart.code ::
    (transferWriteU16 (UInt16.ofNat robotFile.length) ++
      transferWriteU32 (transferCrc32 robotFile)) = packet
  have hlen : packet.length = 7 := by
    rw [← hpacket]
    simp [transferWriteU16, transferWriteU32]
  have hannounced : BeaconServer.announcedLength packet = robotFile.length := by
    have hread := transferReadU16_write [MessageType.fileStart.code]
      (transferWriteU32 (transferCrc32 robotFile)) (UInt16.ofNat robotFile.length)
    rw [List.singleton_append, hpacket] at hread
    rw [BeaconServer.announcedLength, show transferReadU16 packet 1 = _ from hread,
      UInt16.toNat_ofNat']
    omega
  have hcrc : transferReadU32 packet 3 = transferCrc32 robotFile := by
    have hread := transferReadU32_write (MessageType.fileStart.code ::
      transferWriteU16 (UInt16.ofNat robotFile.length)) [] (transferCrc32 robotFile)
    rw [List.append_nil, List.cons_append, hpacket] at hread
    exact hread
  rw [BeaconServer.receiveFileStart, if_neg (by omega)]
  simp only
  rw [if_neg (by rw [hannounced, transferMaxFileSize]; omega), hannounced, hcrc]
  refine took_of_queue ⟨hserving.enabled, hserving.handle⟩ ?_ ?_ (by simp) (by simp)
  · rw [Round.next, fileRound]
    split
    · refine ⟨rfl, rfl, rfl, ?_, ?_⟩
      · rw [sent_zero]
      · rw [sent_zero]
        exact Buffer.prefixOf_zero _
    · have hnil : robotFile = [] := List.length_eq_zero_iff.mp (by omega)
      subst hnil
      exact ⟨rfl, rfl, rfl, rfl⟩
  · rw [hid]
    rfl

/-- A chunk length survives its byte. -/
theorem toNat_length_chunk (file : Bytes) (k : ℕ) :
    (UInt8.ofNat (chunk file k).length).toNat = (chunk file k).length := by
  have := length_chunk file k
  rw [UInt8.toNat_ofNat']
  omega

theorem takes_fileData {k : ℕ} (hmax : robotFile.length ≤ 256) (hserving : Serving names b)
    (hslot : slot b = none) (hvalid : 17 * k < robotFile.length)
    (h : BeaconAt robotFile cfg.reply b (some (.fileData k))) :
    Took names robotFile cfg (.fileData k) (BeaconServer.handle cfg b
      (.attWrite names.beaconCon .value (Round.request robotFile (.fileData k)))) := by
  obtain ⟨hexpected, hcrc, hsequence, hreceived, hpre⟩ := h
  have hlen : (chunk robotFile k).length ≤ 17 := by
    rw [length_chunk]
    omega
  have hsent : sent robotFile k + (chunk robotFile k).length = sent robotFile (k + 1) :=
    sent_succ robotFile k
  have hle : sent robotFile (k + 1) ≤ robotFile.length := Nat.min_le_left _ _
  rw [Round.request, chunkPacket, handle_write]
  simp only
  generalize hpacket : MessageType.fileData.code :: UInt8.ofNat k ::
    UInt8.ofNat (chunk robotFile k).length :: chunk robotFile k = packet
  have hdrop : packet.drop 3 = chunk robotFile k := by
    rw [← hpacket]
    rfl
  have hpacketLen : packet.length = 3 + (chunk robotFile k).length := by
    rw [← hpacket]
    simp only [List.length_cons]
    omega
  have hstated : BeaconServer.chunkLength packet = (chunk robotFile k).length := by
    rw [← hpacket]
    exact toNat_length_chunk robotFile k
  have hnumber : byteAt packet 1 = UInt8.ofNat k := by
    rw [← hpacket]
    rfl
  -- the packet has the number and the length the beacon waits for
  have hfits : BeaconServer.fileDataFits packet b = true := by
    rw [BeaconServer.fileDataFits, decide_eq_true_eq, hstated, hnumber, hsequence, hreceived,
      hexpected]
    exact ⟨rfl, hlen, hpacketLen, by omega⟩
  rw [BeaconServer.receiveFileData, if_neg (by omega), if_pos hfits, hdrop, hstated, hreceived,
    hsent]
  -- the file grows by the chunk
  have hkept : (b.receivedFile.write (sent robotFile k) (chunk robotFile k)).prefixOf
      (sent robotFile (k + 1)) = robotFile.take (sent robotFile (k + 1)) := by
    rw [← hsent, Buffer.prefixOf_write, hpre, take_sent_succ hvalid, hsent]
    unfold Buffer.Fits
    omega
  have hmod : sent robotFile (k + 1) % 65536 = sent robotFile (k + 1) :=
    Nat.mod_eq_of_lt (by omega)
  have hnext : b.expectedSequence + 1 = UInt8.ofNat (k + 1) := by
    rw [hsequence, UInt8.ofNat_add]
    rfl
  refine ⟨⟨hserving.enabled, hserving.handle⟩, ?_, hslot,
    by simp [Connection.requested, Round.answer], rfl⟩
  -- the next round sends another chunk, or the end of the file
  rw [Round.next, fileRound]
  split
  · exact ⟨hexpected, hcrc, hnext, hmod, hkept⟩
  · rename_i hlast
    rw [sent_of_not_lt hlast] at hkept hmod
    rw [List.take_length] at hkept
    rw [sent_of_not_lt hlast]
    exact ⟨hexpected, hcrc, hmod, hkept⟩

theorem takes_fileEnd (hserving : Serving names b)
    (h : BeaconAt robotFile cfg.reply b (some .fileEnd)) :
    Took names robotFile cfg .fileEnd (BeaconServer.handle cfg b
      (.attWrite names.beaconCon .value (Round.request robotFile .fileEnd))) := by
  obtain ⟨hexpected, hcrc, hlength, hpre⟩ := h
  have hreceivedCrc : BeaconServer.receivedCrc b = transferCrc32 robotFile := by
    rw [BeaconServer.receivedCrc, hlength, hpre]
  have hverified : BeaconServer.fileVerified b = true := by
    rw [BeaconServer.fileVerified, decide_eq_true_eq, hlength, hexpected, hreceivedCrc, hcrc]
    exact ⟨rfl, rfl⟩
  rw [Round.request, handle_write]
  simp only
  rw [BeaconServer.receiveFileEnd, hverified, hreceivedCrc]
  exact took_of_queue ⟨hserving.enabled, hserving.handle⟩ ⟨hlength, hpre⟩ rfl (by simp)
    (by simp [transferWriteU32])

/-- The reply the beacon has put into its buffer. -/
theorem replyCrc_eq (hlength : b.replyLength = cfg.reply.length)
    (hpre : b.replyFile.prefixOf cfg.reply.length = cfg.reply) :
    BeaconServer.replyCrc b = transferCrc32 cfg.reply := by
  rw [BeaconServer.replyCrc, hlength, hpre]

theorem takes_replyRequest (hserving : Serving names b)
    (h : BeaconAt robotFile cfg.reply b (some .replyRequest)) :
    Took names robotFile cfg .replyRequest (BeaconServer.handle cfg b
      (.attWrite names.beaconCon .value (Round.request robotFile .replyRequest))) := by
  have hpre : (b.replyFile.write 0 cfg.reply).prefixOf cfg.reply.length = cfg.reply :=
    Buffer.prefixOf_write_zero _ cfg.reply_le
  rw [Round.request, handle_write]
  simp only
  rw [BeaconServer.receiveReplyRequest, BeaconServer.sendReplyPiece, if_pos ⟨rfl, rfl⟩,
    replyCrc_eq rfl hpre]
  refine took_of_queue ⟨hserving.enabled, hserving.handle⟩ ⟨h, rfl, hpre, ?_, rfl⟩ rfl (by simp)
    (by simp [transferWriteU16, transferWriteU32])
  rw [sent_zero]

theorem takes_replyNext {k : ℕ} (hserving : Serving names b)
    (hvalid : 17 * k < cfg.reply.length + 17)
    (h : BeaconAt robotFile cfg.reply b (some (.replyNext k))) :
    Took names robotFile cfg (.replyNext k) (BeaconServer.handle cfg b
      (.attWrite names.beaconCon .value (Round.request robotFile (.replyNext k)))) := by
  obtain ⟨hdelivered, hlength, hpre, hoffset, hsequence⟩ := h
  have hmax := cfg.reply_le
  -- a reply of at most 256 bytes has too few chunks for the number to wrap
  have hnumber : b.replySequence ≠ 0 := by
    rw [hsequence]
    intro hzero
    have := congrArg UInt8.toNat hzero
    rw [UInt8.toNat_ofNat', UInt8.toNat_zero] at this
    omega
  rw [Round.request, handle_write]
  simp only
  rw [BeaconServer.sendReplyPiece, if_neg (fun hboth => hnumber hboth.2)]
  by_cases hmore : 17 * k < cfg.reply.length
  · -- the chunk the beacon sends is the one that was asked for
    have hchunkLength : BeaconServer.replyChunkLength b = (chunk cfg.reply k).length := by
      rw [BeaconServer.replyChunkLength, hlength, hoffset, length_chunk, sent_of_lt hmore,
        transferDataBytes]
      omega
    have hchunk : BeaconServer.replyChunk b = chunk cfg.reply k := by
      rw [BeaconServer.replyChunk, hchunkLength, length_chunk, hoffset, sent_of_lt hmore, chunk]
      conv_rhs => rw [← hpre, Buffer.prefixOf, List.drop_take, List.take_take]
    have hnext : (b.replyOffset + BeaconServer.replyChunkLength b) % 65536 =
        sent cfg.reply (k + 1) := by
      rw [hchunkLength, hoffset, sent_succ]
      have : sent cfg.reply (k + 1) ≤ cfg.reply.length := Nat.min_le_left _ _
      exact Nat.mod_eq_of_lt (by omega)
    have hprevious : b.replySequence - 1 = UInt8.ofNat k := by
      rw [hsequence, UInt8.ofNat_add]
      exact UInt8.add_sub_cancel _ _
    rw [if_pos (by rw [hoffset, hlength, sent_of_lt hmore]; exact hmore), hnext, hprevious, hchunk,
      hchunkLength]
    refine took_of_queue ⟨hserving.enabled, hserving.handle⟩ ?_ ?_ (by simp) ?_
    · rw [Round.next, if_pos hmore]
      refine ⟨hdelivered, hlength, hpre, rfl, ?_⟩
      rw [hsequence, UInt8.ofNat_add (k + 1)]
      rfl
    · rw [Round.answer, if_pos hmore]
      rfl
    · have := length_chunk cfg.reply k
      simp only [List.length_cons]
      omega
  · rw [if_neg (by rw [hoffset, hlength, sent_of_not_lt hmore]; omega), replyCrc_eq hlength hpre]
    refine took_of_queue hserving ?_ ?_ (by simp) (by simp [transferWriteU32])
    · rw [Round.next, if_neg hmore]
      exact hdelivered
    · rw [Round.answer, if_neg hmore]

theorem takes_complete (hid : cfg.beaconId = targetBeaconId) (hserving : Serving names b)
    (h : BeaconAt robotFile cfg.reply b (some .complete)) :
    Took names robotFile cfg .complete (BeaconServer.handle cfg b
      (.attWrite names.beaconCon .value (Round.request robotFile .complete))) := by
  rw [Round.request, handle_write]
  simp only
  rw [BeaconServer.receiveComplete, hid]
  have htook : Took names robotFile cfg .complete
      (BeaconServer.sendSimple .completeAck targetBeaconId
        { b with beaconStatus := .complete, connectedCueOn := false }) :=
    took_of_queue ⟨hserving.enabled, hserving.handle⟩ h rfl (by simp) (by simp)
  -- the buzzer's cue comes before the answer
  refine ⟨htook.serving, htook.kept, htook.slot, ?_, ?_⟩
  · rw [← htook.requested]
    exact List.count_cons_of_ne (by simp)
  · rw [← htook.notified]
    rfl

/-- **The beacon takes the request of a round**: its answer waits in the slot, and it is
ready for the next round. -/
theorem beacon_takes {ρ : Round} (hid : cfg.beaconId = targetBeaconId)
    (hmax : robotFile.length ≤ 256) (hvalid : ρ.Valid robotFile cfg.reply)
    (hserving : Serving names b) (hslot : slot b = none)
    (h : BeaconAt robotFile cfg.reply b (some ρ)) :
    Took names robotFile cfg ρ (BeaconServer.handle cfg b
      (.attWrite names.beaconCon .value (ρ.request robotFile))) := by
  cases ρ with
  | hello => exact takes_hello hid hserving
  | fileStart => exact takes_fileStart hid hmax hserving
  | fileData k => exact takes_fileData hmax hserving hslot hvalid h
  | fileEnd => exact takes_fileEnd hserving h
  | replyRequest => exact takes_replyRequest hserving h
  | replyNext k => exact takes_replyNext hserving hvalid h
  | complete => exact takes_complete hid hserving h

end Connection
