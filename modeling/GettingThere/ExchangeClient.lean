/-
# The client's side of a round

`ClientAt` says what the client keeps while the request of a round is under way.  The
answer of the round may come before the completion of the request or after it:

* `client_waits`, then `client_hears` : the completion first;
* `client_parks`, then `client_replays` : the answer first;
* `client_goesOn` : a file chunk has no answer, and the completion alone moves the client on;
* `client_opens`, `client_ends` : the configuration write, and the end of the link.
-/
import GettingThere.AttemptLife
import GettingThere.ExchangeRounds

namespace Connection

open TransferProtocol PayloadClient

/-- The connection of the client, while its attempt goes on. -/
structure Joined (names : Names) (c : Client) : Prop where
  handle : c.connectionHandle = some names.robotCon
  value : c.valueHandle = names.valueHandle
  abort : c.abortRequested = false

/-- What the client keeps while the request of a round is under way. -/
def ClientAt (robotFile reply : Bytes) (c : Client) : Round → Prop
  | .fileStart =>
    c.robotOffset = 0 ∧ c.robotSequence = 0 ∧ c.robotCrc = transferCrc32 robotFile
  | .fileData k =>
    c.robotOffset = sent robotFile (k + 1) ∧ c.robotSequence = UInt8.ofNat (k + 1) ∧
      c.robotCrc = transferCrc32 robotFile
  | .fileEnd => c.robotCrc = transferCrc32 robotFile
  | .replyNext k =>
    c.replyLength = reply.length ∧ c.replyCrc = transferCrc32 reply ∧
      c.replyOffset = sent reply k ∧ c.replySequence = UInt8.ofNat k ∧
      c.replyFile.prefixOf (sent reply k) = reply.take (sent reply k)
  | .complete => c.replyLength = reply.length ∧ c.replyFile.prefixOf reply.length = reply
  | _ => True

/-- Between `c` and `d` the client wrote `values`, perhaps hung up, and reported no failure. -/
def Asked (names : Names) (c d : Client) (values : List Bytes) (ended : Bool) : Prop :=
  ∃ asked, d.calls = c.calls ++ asked ∧ written names asked = values ∧
    hungUp names asked = ended ∧ ∀ reason, .failed reason ∉ asked

/-- The client has written the request of a round. -/
structure Wrote (names : Names) (robotFile reply : Bytes) (ρ : Round) (c d : Client) : Prop where
  joined : Joined names d
  state : d.bleState = ρ.writing
  pending : d.pendingLength = 0
  kept : ClientAt robotFile reply d ρ
  asked : Asked names c d [ρ.request robotFile] false

/-- The client has the reply and has hung up. -/
structure Ended (names : Names) (reply : Bytes) (c d : Client) : Prop where
  state : d.bleState = .closing
  handle : d.connectionHandle = some names.robotCon
  result : d.closingResult = .complete
  kept : d.replyLength = reply.length ∧ d.replyFile.prefixOf reply.length = reply
  asked : Asked names c d [] true

variable {names : Names} {robotFile reply : Bytes} {c d e : Client} {now : UInt32}

/-- A client that makes no call has written nothing. -/
theorem Asked.refl (h : d.calls = c.calls) : Asked names c d [] false := by
  refine ⟨[], ?_, rfl, ?_, ?_⟩
  · rw [List.append_nil, h]
  · simp [hungUp]
  · intro reason
    simp

/-- What was written in two stretches is written one after the other. -/
theorem Asked.trans {values values' : List Bytes} {ended ended' : Bool}
    (h : Asked names c d values ended) (h' : Asked names d e values' ended') :
    Asked names c e (values ++ values') (ended || ended') := by
  obtain ⟨asked, hcalls, hvalues, hended, hfailed⟩ := h
  obtain ⟨asked', hcalls', hvalues', hended', hfailed'⟩ := h'
  refine ⟨asked ++ asked', ?_, ?_, ?_, ?_⟩
  · rw [hcalls', hcalls, List.append_assoc]
  · rw [← hvalues, ← hvalues']
    exact List.filterMap_append
  · rw [← hended, ← hended']
    simp [hungUp]
  · intro reason hmem
    rcases List.mem_append.mp hmem with hm | hm
    · exact hfailed reason hm
    · exact hfailed' reason hm

/-- What the client keeps of an exchange does not depend on the state of its link. -/
theorem ClientAt.congr {ρ : Round} (h : ClientAt robotFile reply c ρ)
    (hrobot : d.robotOffset = c.robotOffset ∧ d.robotSequence = c.robotSequence ∧
      d.robotCrc = c.robotCrc)
    (hreply : d.replyLength = c.replyLength ∧ d.replyCrc = c.replyCrc ∧
      d.replyOffset = c.replyOffset ∧ d.replySequence = c.replySequence ∧
      d.replyFile = c.replyFile) : ClientAt robotFile reply d ρ := by
  obtain ⟨hoffset, hsequence, hcrc⟩ := hrobot
  obtain ⟨hlength, hreplyCrc, hreplyOffset, hreplySequence, hfile⟩ := hreply
  cases ρ with
  | fileStart => exact ⟨hoffset.trans h.1, hsequence.trans h.2.1, hcrc.trans h.2.2⟩
  | fileData k => exact ⟨hoffset.trans h.1, hsequence.trans h.2.1, hcrc.trans h.2.2⟩
  | fileEnd => exact hcrc.trans h
  | replyNext k =>
    obtain ⟨h₁, h₂, h₃, h₄, h₅⟩ := h
    exact ⟨hlength.trans h₁, hreplyCrc.trans h₂, hreplyOffset.trans h₃, hreplySequence.trans h₄,
      hfile ▸ h₅⟩
  | complete => exact ⟨hlength.trans h.1, hfile ▸ h.2⟩
  | hello => trivial
  | replyRequest => trivial

/-- Every request fits a packet. -/
theorem length_request_le (ρ : Round) : (ρ.request robotFile).length ≤ 20 := by
  cases ρ with
  | fileData k =>
    have := length_chunk robotFile k
    simp only [Round.request, chunkPacket, List.length_cons]
    omega
  | fileStart => simp [Round.request, transferWriteU16, transferWriteU32]
  | hello => simp [Round.request]
  | fileEnd => simp [Round.request]
  | replyRequest => simp [Round.request]
  | replyNext k => simp [Round.request]
  | complete => simp [Round.request]

/-- A write that BTstack takes puts the request of a round under way. -/
theorem wrote_writePacket {ρ : Round} {packet : Bytes} {state : BleState}
    (hpacket : packet = ρ.request robotFile) (hstate : state = ρ.writing) (hjoined : Joined names c)
    (hpending : c.pendingLength = 0) (hkept : ClientAt robotFile reply c ρ) :
    Wrote names robotFile reply ρ c (writePacket (granted now) packet state c) := by
  subst hpacket hstate
  have hvalue : (c.txPacket.write 0 (ρ.request robotFile)).prefixOf (ρ.request robotFile).length =
      ρ.request robotFile := Buffer.prefixOf_write_zero _ (length_request_le ρ)
  unfold writePacket
  simp only
  rw [if_neg (by simp [granted])]
  refine ⟨⟨hjoined.handle, hjoined.value, hjoined.abort⟩, rfl, hpending,
    hkept.congr ⟨rfl, rfl, rfl⟩ ⟨rfl, rfl, rfl, rfl, rfl⟩,
    [.write c.connectionHandle c.valueHandle (ρ.request robotFile)], ?_, ?_, ?_, ?_⟩
  · show c.calls ++ [.write c.connectionHandle c.valueHandle
      ((c.txPacket.write 0 (ρ.request robotFile)).prefixOf (ρ.request robotFile).length)] = _
    rw [hvalue]
  · simp [written, hjoined.handle, hjoined.value]
  · simp [hungUp]
  · simp

/-- A write that follows the acceptance of an answer. -/
theorem Wrote.after_accept {ρ : Round} {value : Bytes}
    (hcalls : d.calls = (c.call (.accepted value)).calls)
    (h : Wrote names robotFile reply ρ d e) : Wrote names robotFile reply ρ c e := by
  refine ⟨h.joined, h.state, h.pending, h.kept, ?_⟩
  have haccept : Asked names c d [] false :=
    ⟨[.accepted value], hcalls, by simp [written], by simp [hungUp], by simp⟩
  exact haccept.trans h.asked

/-- The next chunk of the robot's file, or its end. -/
theorem wrote_nextRobotChunk {k : ℕ} (hmax : robotFile.length ≤ 256) (hjoined : Joined names c)
    (hpending : c.pendingLength = 0) (hoffset : c.robotOffset = sent robotFile k)
    (hsequence : c.robotSequence = UInt8.ofNat k) (hcrc : c.robotCrc = transferCrc32 robotFile) :
    Wrote names robotFile reply (fileRound robotFile k) c
      (writeNextRobotChunk robotFile (granted now) c) := by
  unfold writeNextRobotChunk fileRound
  by_cases hmore : 17 * k < robotFile.length
  · have hne : c.robotOffset ≠ robotFile.length := by
      rw [hoffset, sent_of_lt hmore]
      omega
    have hlength : robotChunkLength robotFile c = (chunk robotFile k).length := by
      rw [robotChunkLength, hoffset, sent_of_lt hmore, length_chunk, transferDataBytes]
      omega
    have hchunk : robotChunk robotFile c = chunk robotFile k := by
      rw [robotChunk, hlength, length_chunk, hoffset, sent_of_lt hmore, chunk,
        List.take_eq_take_iff, List.length_drop]
      omega
    have hnext : (c.robotOffset + robotChunkLength robotFile c) % 512 = sent robotFile (k + 1) := by
      rw [hlength, hoffset, sent_succ]
      have : sent robotFile (k + 1) ≤ robotFile.length := Nat.min_le_left _ _
      exact Nat.mod_eq_of_lt (by omega)
    rw [if_neg hne, if_pos hmore, hchunk, hlength, hsequence, ← hlength, hnext, hlength]
    have hafter : UInt8.ofNat k + 1 = UInt8.ofNat (k + 1) := by
      rw [UInt8.ofNat_add]
      rfl
    rw [hafter]
    have h := @wrote_writePacket names robotFile reply
      { c with robotSequence := UInt8.ofNat (k + 1), robotOffset := sent robotFile (k + 1) } now
      (.fileData k) _ _ rfl rfl ⟨hjoined.handle, hjoined.value, hjoined.abort⟩ hpending
      ⟨rfl, rfl, hcrc⟩
    exact ⟨h.joined, h.state, h.pending, h.kept, h.asked⟩
  · have heq : c.robotOffset = robotFile.length := by rw [hoffset, sent_of_not_lt hmore]
    rw [if_pos heq, if_neg hmore]
    exact wrote_writePacket rfl rfl hjoined hpending hcrc

/-- What the client makes of the answer of a round: it writes the next request, or hangs up
after the last. -/
def Advanced (names : Names) (robotFile reply : Bytes) (ρ : Round) (c d : Client) : Prop :=
  match ρ.next robotFile reply with
  | some ρ' => Wrote names robotFile reply ρ' c d
  | none => Ended names reply c d

/-- The client waits for the answer of a round, with nothing parked. -/
structure Waits (names : Names) (robotFile reply : Bytes) (ρ : Round) (c : Client) : Prop where
  joined : Joined names c
  state : c.bleState = ρ.waiting
  pending : c.pendingLength = 0
  kept : ClientAt robotFile reply c ρ

/-- A value that arrives while no write is under way reaches the case of its message type. -/
theorem handleNotification_waiting {env : Env} (type : MessageType) (rest : Bytes)
    (htype : type ≠ .error)
    (hstate : c.bleState ≠ .closing ∧ c.bleState ≠ .idle ∧ writingState c.bleState = false) :
    handleNotification robotFile env (type.code :: rest) c =
      match type with
      | .helloAck => receiveHelloAck robotFile env (type.code :: rest) c
      | .fileReady => receiveFileReady robotFile env (type.code :: rest) c
      | .fileReceived => receiveFileReceived env (type.code :: rest) c
      | .replyStart => receiveReplyStart env (type.code :: rest) c
      | .replyData => receiveReplyData env (type.code :: rest) c
      | .replyEnd => receiveReplyEnd env (type.code :: rest) c
      | .completeAck => receiveCompleteAck env (type.code :: rest) c
      | _ => c := by
  obtain ⟨hclosing, hidle, hwriting⟩ := hstate
  have hcode : byteAt (type.code :: rest) 0 = type.code := rfl
  have herror : type.code ≠ MessageType.error.code := by
    intro heq
    have hsame := congrArg MessageType.ofCode? heq
    rw [MessageType.ofCode?_code, MessageType.ofCode?_code] at hsame
    exact htype (Option.some.inj hsame)
  unfold handleNotification
  rw [if_neg (by simp [hclosing, hidle]), hcode, if_neg herror, if_neg (by simp [hwriting])]
  unfold receiveMessage
  rw [hcode, MessageType.ofCode?_code]
  cases type <;> rfl

/-- `MSG_HELLO_ACK` is answered with `MSG_FILE_START`. -/
theorem hears_hello (h : Waits names robotFile reply .hello c) :
    Advanced names robotFile reply .hello c (handleNotification robotFile (granted now)
      [MessageType.helloAck.code, targetBeaconId] c) := by
  have hstate : c.bleState = .waitHelloAck := h.state
  rw [handleNotification_waiting .helloAck _ nofun (by rw [hstate]; decide)]
  simp only
  rw [receiveHelloAck, if_neg (by simp [hstate]), if_neg (by simp [byteAt])]
  refine Wrote.after_accept (d := { c.call (.accepted [MessageType.helloAck.code, targetBeaconId])
    with robotOffset := 0, robotSequence := 0, robotCrc := transferCrc32 robotFile }) rfl ?_
  exact wrote_writePacket rfl rfl ⟨h.joined.handle, h.joined.value, h.joined.abort⟩ h.pending
    ⟨rfl, rfl, rfl⟩

/-- `MSG_FILE_READY` is answered with the first chunk, or with the end of an empty file. -/
theorem hears_fileStart (hmax : robotFile.length ≤ 256)
    (h : Waits names robotFile reply .fileStart c) :
    Advanced names robotFile reply .fileStart c (handleNotification robotFile (granted now)
      [MessageType.fileReady.code, targetBeaconId] c) := by
  have hstate : c.bleState = .waitFileReady := h.state
  obtain ⟨hoffset, hsequence, hcrc⟩ := h.kept
  rw [handleNotification_waiting .fileReady _ nofun (by rw [hstate]; decide)]
  simp only
  rw [receiveFileReady, if_neg (by simp [hstate]), if_neg (by simp [byteAt])]
  refine Wrote.after_accept (d := c.call (.accepted [MessageType.fileReady.code, targetBeaconId]))
    rfl ?_
  refine wrote_nextRobotChunk hmax ⟨h.joined.handle, h.joined.value, h.joined.abort⟩ h.pending ?_
    hsequence hcrc
  rw [sent_zero]
  exact hoffset

/-- `MSG_FILE_RECEIVED` with the CRC of the file is answered with the request for the reply. -/
theorem hears_fileEnd (h : Waits names robotFile reply .fileEnd c) :
    Advanced names robotFile reply .fileEnd c (handleNotification robotFile (granted now)
      (MessageType.fileReceived.code :: 0 :: transferWriteU32 (transferCrc32 robotFile)) c) := by
  have hstate : c.bleState = .waitFileReceived := h.state
  have hcrc : c.robotCrc = transferCrc32 robotFile := h.kept
  have hread := transferReadU32_write [MessageType.fileReceived.code, 0] [] (transferCrc32 robotFile)
  rw [List.append_nil] at hread
  rw [handleNotification_waiting .fileReceived _ nofun (by rw [hstate]; decide)]
  simp only
  rw [receiveFileReceived, if_neg (by simp [hstate]), if_neg]
  · refine Wrote.after_accept (d := c.call (.accepted (MessageType.fileReceived.code :: 0 ::
      transferWriteU32 (transferCrc32 robotFile)))) rfl ?_
    exact wrote_writePacket rfl rfl ⟨h.joined.handle, h.joined.value, h.joined.abort⟩ h.pending
      trivial
  · rintro (hlen | hstatus | hother)
    · exact hlen (by simp [transferWriteU32])
    · exact hstatus rfl
    · exact hother (hcrc ▸ hread)

/-- `MSG_REPLY_START` of a reply that fits is answered with the request for its first piece. -/
theorem hears_replyRequest (hpos : 1 ≤ reply.length) (hmax : reply.length ≤ 256)
    (h : Waits names robotFile reply .replyRequest c) :
    Advanced names robotFile reply .replyRequest c (handleNotification robotFile (granted now)
      (MessageType.replyStart.code ::
        (transferWriteU16 (UInt16.ofNat reply.length) ++ transferWriteU32 (transferCrc32 reply)))
      c) := by
  have hstate : c.bleState = .waitReplyStart := h.state
  rw [handleNotification_waiting .replyStart _ nofun (by rw [hstate]; decide)]
  simp only
  generalize hvalue : MessageType.replyStart.code ::
    (transferWriteU16 (UInt16.ofNat reply.length) ++ transferWriteU32 (transferCrc32 reply)) = value
  have hlen : value.length = 7 := by
    rw [← hvalue]
    simp [transferWriteU16, transferWriteU32]
  have hannounced : (transferReadU16 value 1).toNat = reply.length := by
    have hread := transferReadU16_write [MessageType.replyStart.code]
      (transferWriteU32 (transferCrc32 reply)) (UInt16.ofNat reply.length)
    rw [List.singleton_append, hvalue] at hread
    rw [show transferReadU16 value 1 = _ from hread, UInt16.toNat_ofNat']
    omega
  have hcrc : transferReadU32 value 3 = transferCrc32 reply := by
    have hread := transferReadU32_write (MessageType.replyStart.code ::
      transferWriteU16 (UInt16.ofNat reply.length)) [] (transferCrc32 reply)
    rw [List.append_nil, List.cons_append, hvalue] at hread
    exact hread
  rw [receiveReplyStart]
  simp only
  rw [if_neg (by simp [hstate]), if_neg (by simp [hlen]), hannounced,
    if_neg (by rw [transferMaxFileSize]; omega), hcrc, Nat.mod_eq_of_lt (by omega)]
  refine Wrote.after_accept (d := { c.call (.accepted value) with
    replyLength := reply.length, replyCrc := transferCrc32 reply, replyOffset := 0
    replySequence := 0 }) rfl ?_
  refine wrote_writePacket rfl rfl ⟨h.joined.handle, h.joined.value, h.joined.abort⟩ h.pending
    ⟨rfl, rfl, ?_, rfl, ?_⟩
  · rw [sent_zero]
  · rw [sent_zero]
    exact Buffer.prefixOf_zero _

/-- The next piece of the reply is kept, and the one after it is asked for. -/
theorem hears_replyData {k : ℕ} (hmax : reply.length ≤ 256) (hmore : 17 * k < reply.length)
    (h : Waits names robotFile reply (.replyNext k) c) :
    Wrote names robotFile reply (.replyNext (k + 1)) c (handleNotification robotFile (granted now)
      (chunkPacket .replyData reply k) c) := by
  have hstate : c.bleState = .waitReplyPiece := h.state
  obtain ⟨hlength, hcrc, hoffset, hsequence, hpre⟩ := h.kept
  have hchunkLen := length_chunk reply k
  have hsent : sent reply k + (chunk reply k).length = sent reply (k + 1) := sent_succ reply k
  have hle : sent reply (k + 1) ≤ reply.length := Nat.min_le_left _ _
  rw [chunkPacket, handleNotification_waiting .replyData _ (by decide) (by rw [hstate]; decide)]
  simp only
  generalize hvalue : MessageType.replyData.code :: UInt8.ofNat k ::
    UInt8.ofNat (chunk reply k).length :: chunk reply k = value
  have hdrop : value.drop 3 = chunk reply k := by
    rw [← hvalue]
    rfl
  have hvalueLen : value.length = 3 + (chunk reply k).length := by
    rw [← hvalue]
    simp only [List.length_cons]
    omega
  have hstated : (byteAt value 2).toNat = (chunk reply k).length := by
    rw [← hvalue]
    exact toNat_length_chunk reply k
  have hfits : replyDataFits value c = true := by
    rw [replyDataFits, decide_eq_true_eq, hstated, hoffset, hlength, hsequence, transferDataBytes]
    refine ⟨?_, by omega, by omega, hvalueLen, by omega⟩
    rw [← hvalue]
    rfl
  have hnext : UInt8.ofNat k + 1 = UInt8.ofNat (k + 1) := by
    rw [UInt8.ofNat_add]
    rfl
  rw [receiveReplyData, if_neg (by simp [hstate]), if_neg (by omega), if_pos hfits, hdrop, hstated,
    hoffset, hsent, Nat.mod_eq_of_lt (by omega), hsequence, hnext]
  refine Wrote.after_accept (d := { c.call (.accepted value) with
    replyFile := c.replyFile.write (sent reply k) (chunk reply k)
    replyOffset := sent reply (k + 1)
    replySequence := UInt8.ofNat (k + 1) }) rfl ?_
  refine wrote_writePacket rfl rfl ⟨h.joined.handle, h.joined.value, h.joined.abort⟩ h.pending
    ⟨hlength, hcrc, rfl, rfl, ?_⟩
  show (c.replyFile.write (sent reply k) (chunk reply k)).prefixOf (sent reply (k + 1)) = _
  rw [← hsent, Buffer.prefixOf_write, hpre, take_sent_succ hmore, hsent]
  unfold Buffer.Fits
  omega

/-- `MSG_REPLY_END` after the last piece, with the CRC that was announced, is answered with
`MSG_COMPLETE`. -/
theorem hears_replyEnd {k : ℕ} (hlast : ¬ 17 * k < reply.length)
    (h : Waits names robotFile reply (.replyNext k) c) :
    Wrote names robotFile reply .complete c (handleNotification robotFile (granted now)
      (MessageType.replyEnd.code :: transferWriteU32 (transferCrc32 reply)) c) := by
  have hstate : c.bleState = .waitReplyPiece := h.state
  obtain ⟨hlength, hcrc, hoffset, hsequence, hpre⟩ := h.kept
  rw [sent_of_not_lt hlast] at hoffset hpre
  rw [List.take_length] at hpre
  have hread := transferReadU32_write [MessageType.replyEnd.code] [] (transferCrc32 reply)
  rw [List.append_nil] at hread
  have hverified : replyVerified
      (MessageType.replyEnd.code :: transferWriteU32 (transferCrc32 reply)) c = true := by
    rw [replyVerified, decide_eq_true_eq, hoffset, hlength, hpre, hcrc]
    exact ⟨by simp [transferWriteU32], rfl, rfl, hread⟩
  rw [handleNotification_waiting .replyEnd _ (by decide) (by rw [hstate]; decide)]
  simp only
  rw [receiveReplyEnd, if_neg (by simp [hstate]), if_pos hverified]
  refine Wrote.after_accept (d := c.call (.accepted
    (MessageType.replyEnd.code :: transferWriteU32 (transferCrc32 reply)))) rfl ?_
  exact wrote_writePacket rfl rfl ⟨h.joined.handle, h.joined.value, h.joined.abort⟩ h.pending
    ⟨hlength, hpre⟩

/-- After `MSG_COMPLETE_ACK` the client hangs up. -/
theorem hears_complete (h : Waits names robotFile reply .complete c) :
    Advanced names robotFile reply .complete c (handleNotification robotFile (granted now)
      [MessageType.completeAck.code, targetBeaconId] c) := by
  have hstate : c.bleState = .waitCompleteAck := h.state
  obtain ⟨hlength, hpre⟩ := h.kept
  rw [handleNotification_waiting .completeAck _ (by decide) (by rw [hstate]; decide)]
  simp only
  rw [receiveCompleteAck, if_neg (by simp [hstate]), if_neg (by simp [byteAt])]
  unfold closeAttempt
  simp only
  rw [if_neg]
  swap
  · show ¬ (c.bleState = .scanning ∨ c.bleState = .stoppingForConnect)
    rw [hstate]
    decide
  split
  · rename_i handle hhandle
    have hsame : some handle = some names.robotCon := hhandle.symm.trans h.joined.handle
    cases hsame
    rw [if_neg (by simp [granted])]
    exact ⟨rfl, h.joined.handle, rfl, ⟨hlength, hpre⟩,
      [.accepted [MessageType.completeAck.code, targetBeaconId], .disconnect names.robotCon],
      by simp [Client.call, Client.setState], by simp [written], by simp [hungUp], by simp⟩
  · rename_i hhandle
    cases hhandle.symm.trans h.joined.handle

/-- **The client takes the answer of a round** and goes on to the next one. -/
theorem client_hears {ρ : Round} {value : Bytes} (hfile : robotFile.length ≤ 256)
    (hpos : 1 ≤ reply.length) (hmax : reply.length ≤ 256)
    (hanswer : ρ.answer robotFile reply = some value) (h : Waits names robotFile reply ρ c) :
    Advanced names robotFile reply ρ c (handleNotification robotFile (granted now) value c) := by
  cases ρ with
  | hello =>
    cases hanswer
    exact hears_hello h
  | fileStart =>
    cases hanswer
    exact hears_fileStart hfile h
  | fileData k => cases hanswer
  | fileEnd =>
    cases hanswer
    exact hears_fileEnd h
  | replyRequest =>
    cases hanswer
    exact hears_replyRequest hpos hmax h
  | replyNext k =>
    unfold Advanced
    by_cases hmore : 17 * k < reply.length
    · rw [Round.answer, if_pos hmore] at hanswer
      cases hanswer
      rw [Round.next, if_pos hmore]
      exact hears_replyData hmax hmore h
    · rw [Round.answer, if_neg hmore] at hanswer
      cases hanswer
      rw [Round.next, if_neg hmore]
      exact hears_replyEnd hmore h
  | complete =>
    cases hanswer
    exact hears_complete h

/-! ## Completions -/

/-- The value the client has parked, if any. -/
def parkedValue (c : Client) : Option Bytes :=
  if c.pendingLength = 0 then none else some (c.pendingNotification.prefixOf c.pendingLength)

/-- The request of a round is being written, with `early` parked. -/
structure Writes (names : Names) (robotFile reply : Bytes) (ρ : Round) (early : Option Bytes)
    (c : Client) : Prop where
  joined : Joined names c
  state : c.bleState = ρ.writing
  parked : parkedValue c = early
  kept : ClientAt robotFile reply c ρ

/-- A request that has been written is on its way, with nothing parked. -/
theorem Wrote.writes {ρ : Round} (h : Wrote names robotFile reply ρ c d) :
    Writes names robotFile reply ρ none d :=
  ⟨h.joined, h.state, by rw [parkedValue, if_pos h.pending], h.kept⟩

/-- Nothing is parked when no length is pending. -/
theorem pending_of_parked (h : parkedValue c = none) : c.pendingLength = 0 := by
  unfold parkedValue at h
  split at h
  · assumption
  · cases h

/-- Every state in which a request is written is a writing state. -/
theorem writingState_writing (ρ : Round) : writingState ρ.writing = true := by cases ρ <;> rfl

/-- A client that writes a request is neither closing nor idle. -/
theorem writing_ne (ρ : Round) :
    ρ.writing ≠ .closing ∧ ρ.writing ≠ .idle := by cases ρ <;> exact ⟨nofun, nofun⟩

/-- No state in which an answer is awaited is a writing state. -/
theorem writingState_waiting {ρ : Round} (h : ρ.answer robotFile reply ≠ none) :
    writingState ρ.waiting = false ∧ ρ.waiting ≠ .closing ∧ ρ.waiting ≠ .idle := by
  cases ρ with
  | fileData k => exact absurd rfl h
  | _ => exact ⟨rfl, nofun, nofun⟩

/-- A successful completion on the open connection reaches the `switch` of `gatt_handler`. -/
theorem handle_completion (hjoined : Joined names c) (hstate : c.bleState ≠ .closing)
    (hidle : c.bleState ≠ .idle) :
    handle robotFile (granted now) (.queryComplete names.robotCon 0) c =
      queryCompleted robotFile (granted now) c := by
  show gattHandler robotFile (granted now) (.queryComplete names.robotCon 0) c = _
  unfold gattHandler
  rw [if_neg (by simp [hjoined.abort, hstate, hidle])]
  simp only
  rw [if_neg (by simp [hjoined.handle]), if_neg (by simp)]

/-- A notification of the transfer characteristic reaches `handle_notification`. -/
theorem handle_notified (hjoined : Joined names c) (hstate : c.bleState ≠ .closing)
    (hidle : c.bleState ≠ .idle) (value : Bytes) :
    handle robotFile (granted now) (.notification names.robotCon names.valueHandle value) c =
      handleNotification robotFile (granted now) value c := by
  show gattHandler robotFile (granted now)
    (.notification names.robotCon names.valueHandle value) c = _
  unfold gattHandler
  rw [if_neg (by simp [hjoined.abort, hstate, hidle])]
  simp only
  rw [if_pos ⟨hjoined.handle, hjoined.value⟩]

/-- With nothing parked there is nothing to replay. -/
theorem replayPending_none (h : c.pendingLength = 0) :
    replayPending robotFile (granted now) c = c := by
  rw [replayPending, if_neg (by simp [h])]

/-- **The configuration write completes**: the client says hello. -/
theorem client_opens (hjoined : Joined names c) (hstate : c.bleState = .enableNotifications)
    (hpending : c.pendingLength = 0) :
    Wrote names robotFile reply .hello c
      (handle robotFile (granted now) (.queryComplete names.robotCon 0) c) := by
  have hwrote := @wrote_writePacket names robotFile reply c now .hello _ _ rfl rfl hjoined hpending
    trivial
  rw [handle_completion hjoined (by rw [hstate]; nofun) (by rw [hstate]; nofun), queryCompleted]
  simp only [hstate]
  rw [replayPending_none]
  · exact hwrote
  · exact hwrote.pending

/-- **The write of a file chunk completes**: the client writes the next one. -/
theorem client_goesOn {k : ℕ} (hmax : robotFile.length ≤ 256)
    (h : Writes names robotFile reply (.fileData k) none c) :
    Advanced names robotFile reply (.fileData k) c
      (handle robotFile (granted now) (.queryComplete names.robotCon 0) c) := by
  have hstate : c.bleState = .writeFileData := h.state
  obtain ⟨hoffset, hsequence, hcrc⟩ := h.kept
  have hwrote := @wrote_nextRobotChunk names robotFile reply c now (k + 1) hmax h.joined
    (pending_of_parked h.parked) hoffset hsequence hcrc
  rw [handle_completion h.joined (by rw [hstate]; nofun) (by rw [hstate]; nofun), queryCompleted]
  simp only [hstate]
  rw [replayPending_none hwrote.pending]
  exact hwrote

/-- A completed write of an answered round: the client waits, and then hears what it has
parked. -/
theorem queryCompleted_waiting {ρ : Round} (hanswer : ρ.answer robotFile reply ≠ none)
    (hstate : c.bleState = ρ.writing) :
    queryCompleted robotFile (granted now) c =
      replayPending robotFile (granted now) (c.setState (granted now) ρ.waiting) := by
  unfold queryCompleted
  simp only [hstate]
  cases ρ with
  | fileData k => exact absurd rfl hanswer
  | _ => rfl

/-- **The write of a request completes early**: the client waits for the answer. -/
theorem client_waits {ρ : Round} (hanswer : ρ.answer robotFile reply ≠ none)
    (h : Writes names robotFile reply ρ none c) :
    Waits names robotFile reply ρ (handle robotFile (granted now) (.queryComplete names.robotCon 0) c) ∧
      Asked names c (handle robotFile (granted now) (.queryComplete names.robotCon 0) c) [] false := by
  have hpending := pending_of_parked h.parked
  have hne := writing_ne ρ
  rw [handle_completion h.joined (h.state ▸ hne.1) (h.state ▸ hne.2),
    queryCompleted_waiting hanswer h.state,
    @replayPending_none robotFile (Client.setState (granted now) ρ.waiting c) now hpending]
  refine ⟨⟨⟨h.joined.handle, h.joined.value, h.joined.abort⟩, rfl, hpending, ?_⟩, Asked.refl rfl⟩
  exact h.kept.congr ⟨rfl, rfl, rfl⟩ ⟨rfl, rfl, rfl, rfl, rfl⟩

/-- The answer of a round is a short packet and not an error. -/
theorem answer_fits {ρ : Round} {value : Bytes} (hanswer : ρ.answer robotFile reply = some value) :
    value ≠ [] ∧ value.length ≤ 20 ∧ byteAt value 0 ≠ MessageType.error.code := by
  cases ρ with
  | fileData k => cases hanswer
  | hello => cases hanswer; exact ⟨by simp, by simp, by decide⟩
  | fileStart => cases hanswer; exact ⟨by simp, by simp, by decide⟩
  | complete => cases hanswer; exact ⟨by simp, by simp, by decide⟩
  | fileEnd =>
    cases hanswer
    refine ⟨by simp, by simp [transferWriteU32], ?_⟩
    show MessageType.fileReceived.code ≠ _
    decide
  | replyRequest =>
    cases hanswer
    refine ⟨by simp, by simp [transferWriteU16, transferWriteU32], ?_⟩
    show MessageType.replyStart.code ≠ _
    decide
  | replyNext k =>
    rw [Round.answer] at hanswer
    split at hanswer
    · cases hanswer
      have := length_chunk reply k
      refine ⟨by simp [chunkPacket], ?_, ?_⟩
      · simp only [chunkPacket, List.length_cons]
        omega
      · show MessageType.replyData.code ≠ _
        decide
    · cases hanswer
      refine ⟨by simp, by simp [transferWriteU32], ?_⟩
      show MessageType.replyEnd.code ≠ _
      decide

/-- **The answer overtakes the completion**: the client parks it. -/
theorem client_parks {ρ : Round} {value : Bytes} (hanswer : ρ.answer robotFile reply = some value)
    (h : Writes names robotFile reply ρ none c) :
    Writes names robotFile reply ρ (some value)
        (handle robotFile (granted now) (.notification names.robotCon names.valueHandle value) c) ∧
      Asked names c
        (handle robotFile (granted now) (.notification names.robotCon names.valueHandle value) c)
        [] false := by
  have hpending := pending_of_parked h.parked
  have hne := writing_ne ρ
  obtain ⟨hvalue, hlen, herror⟩ := answer_fits hanswer
  rw [handle_notified h.joined (h.state ▸ hne.1) (h.state ▸ hne.2)]
  unfold handleNotification
  rw [if_neg (by simp [hvalue, h.state, hne]), if_neg herror,
    if_pos (by rw [h.state]; exact writingState_writing ρ),
    if_neg (by rw [transferPacketSize]; omega)]
  refine ⟨⟨⟨h.joined.handle, h.joined.value, h.joined.abort⟩, h.state, ?_, ?_⟩, Asked.refl rfl⟩
  · have hmod : value.length % 32 = value.length := Nat.mod_eq_of_lt (by omega)
    have hpos : value.length ≠ 0 := fun hzero => hvalue (List.length_eq_zero_iff.mp hzero)
    unfold parkedValue
    simp only [hmod]
    rw [if_neg hpos, Buffer.prefixOf_write_zero _ hlen]
  · exact h.kept.congr ⟨rfl, rfl, rfl⟩ ⟨rfl, rfl, rfl, rfl, rfl⟩

/-- **The completion comes after the answer**: the client hears what it has parked. -/
theorem client_replays {ρ : Round} {value : Bytes} (hfile : robotFile.length ≤ 256)
    (hpos : 1 ≤ reply.length) (hmax : reply.length ≤ 256)
    (hanswer : ρ.answer robotFile reply = some value)
    (h : Writes names robotFile reply ρ (some value) c) :
    Advanced names robotFile reply ρ c
      (handle robotFile (granted now) (.queryComplete names.robotCon 0) c) := by
  have hsome : ρ.answer robotFile reply ≠ none := by rw [hanswer]; nofun
  have hne := writing_ne ρ
  have hparked := h.parked
  unfold parkedValue at hparked
  split at hparked
  · cases hparked
  rename_i hpending
  have hvalue : c.pendingNotification.prefixOf c.pendingLength = value := Option.some.inj hparked
  rw [handle_completion h.joined (h.state ▸ hne.1) (h.state ▸ hne.2),
    queryCompleted_waiting hsome h.state, replayPending, if_pos]
  swap
  · exact ⟨hpending, (writingState_waiting hsome).1⟩
  have hheard := @client_hears names robotFile reply
    { Client.setState (granted now) ρ.waiting c with pendingLength := 0 } now ρ value hfile hpos hmax
    hanswer ⟨⟨h.joined.handle, h.joined.value, h.joined.abort⟩, rfl, rfl,
      h.kept.congr ⟨rfl, rfl, rfl⟩ ⟨rfl, rfl, rfl, rfl, rfl⟩⟩
  rw [show (Client.setState (granted now) ρ.waiting c).pendingNotification.prefixOf
    (Client.setState (granted now) ρ.waiting c).pendingLength = value from hvalue]
  -- the call log is the same on both sides of the replay
  unfold Advanced at hheard ⊢
  cases hnext : ρ.next robotFile reply with
  | some ρ' =>
    rw [hnext] at hheard
    exact ⟨hheard.joined, hheard.state, hheard.pending, hheard.kept, hheard.asked⟩
  | none =>
    rw [hnext] at hheard
    exact ⟨hheard.state, hheard.handle, hheard.result, hheard.kept, hheard.asked⟩

/-! ## The way to the configuration write -/

/-- The states an attempt goes through until its configuration write has completed. -/
def settingUp : BleState → Bool
  | .starting | .scanning | .stoppingForConnect | .connecting | .discoverService
  | .discoverCharacteristic | .enableNotifications => true
  | _ => false

/-- Nothing is parked on the way. -/
def Unparked (c : Client) : Prop := settingUp c.bleState = true → c.pendingLength = 0

variable {env : Env}

/-- Without a pending length nothing is parked. -/
theorem unparked_of_pending (h : c.pendingLength = 0) : Unparked c := fun _ => h

/-- Beyond the setup there is nothing to show. -/
theorem unparked_of_state (h : settingUp c.bleState = false) : Unparked c := by
  intro hup
  rw [h] at hup
  cases hup

/-- The state and the pending length are all that matters. -/
theorem Unparked.congr (h : Unparked c) (hstate : d.bleState = c.bleState)
    (hpending : d.pendingLength = c.pendingLength) : Unparked d := by
  unfold Unparked
  rw [hstate, hpending]
  exact h

/-- A finished attempt is beyond the setup. -/
theorem unparked_finishAttempt (c : Client) : Unparked (finishAttempt env c) := by
  apply unparked_of_state
  unfold finishAttempt
  split <;> rfl

/-- A failed transfer forgets what was parked. -/
theorem unparked_transferFailed (reason : String) (c : Client) :
    Unparked (transferFailed env reason c) :=
  unparked_of_pending (transferFailed_pendingLength env reason c)

/-- A write leads out of these states, or the transfer has failed. -/
theorem unparked_writePacket (packet : Bytes) {state : BleState} (hstate : settingUp state = false)
    (c : Client) : Unparked (writePacket env packet state c) := by
  unfold writePacket
  simp only
  split
  · exact unparked_transferFailed _ _
  · exact unparked_of_state hstate

/-- A client that writes a chunk is beyond the setup. -/
theorem unparked_writeNextRobotChunk (c : Client) :
    Unparked (writeNextRobotChunk robotFile env c) := by
  unfold writeNextRobotChunk
  split
  · exact unparked_writePacket _ rfl _
  · exact unparked_writePacket _ rfl _

/-- A message that is received leaves nothing parked on the way. -/
theorem unparked_receiveMessage {value : Bytes} (h : Unparked c) :
    Unparked (receiveMessage robotFile env value c) := by
  unfold receiveMessage
  split
  · unfold receiveHelloAck
    split_ifs
    · exact h
    · exact unparked_transferFailed _ _
    · exact unparked_writePacket _ rfl _
  · unfold receiveFileReady
    split_ifs
    · exact h
    · exact unparked_transferFailed _ _
    · exact unparked_writeNextRobotChunk _
  · unfold receiveFileReceived
    split_ifs
    · exact h
    · exact unparked_transferFailed _ _
    · exact unparked_writePacket _ rfl _
  · unfold receiveReplyStart
    simp only
    split_ifs
    · exact h
    · exact unparked_transferFailed _ _
    · exact unparked_transferFailed _ _
    · exact unparked_writePacket _ rfl _
  · unfold receiveReplyData
    split_ifs
    · exact h
    · exact unparked_transferFailed _ _
    · exact unparked_writePacket _ rfl _
    · exact unparked_transferFailed _ _
  · unfold receiveReplyEnd
    split_ifs
    · exact h
    · exact unparked_writePacket _ rfl _
    · exact unparked_transferFailed _ _
  · unfold receiveCompleteAck
    split_ifs
    · exact h
    · exact unparked_transferFailed _ _
    · exact unparked_of_pending (closeAttempt_pendingLength env _ _)
  · exact h

/-- A notification is parked in a writing state only, and these come after the setup. -/
theorem unparked_handleNotification {value : Bytes} (h : Unparked c) :
    Unparked (handleNotification robotFile env value c) := by
  unfold handleNotification
  split_ifs with _ _ hwriting
  · exact h
  · exact unparked_transferFailed _ _
  · exact unparked_transferFailed _ _
  · -- a value is parked while a request is being written
    apply unparked_of_state
    show settingUp c.bleState = false
    revert hwriting
    cases c.bleState <;> simp [writingState, settingUp]
  · exact unparked_receiveMessage h

/-- What is replayed is not parked again. -/
theorem unparked_replayPending (h : Unparked c) : Unparked (replayPending robotFile env c) := by
  unfold replayPending
  split
  · exact unparked_handleNotification (unparked_of_pending rfl)
  · exact h

/-- A GATT setup call leaves nothing parked. -/
theorem unparked_setupStarted (h : Unparked c) : Unparked (setupStarted robotFile env c) := by
  unfold setupStarted
  split
  · exact unparked_transferFailed _ _
  · exact unparked_replayPending h

/-- The completion of a query leaves nothing parked during the setup. -/
theorem unparked_queryCompleted (h : Unparked c) : Unparked (queryCompleted robotFile env c) := by
  have waiting (state : BleState) (hstate : settingUp state = false) :
      Unparked (replayPending robotFile env (c.setState env state)) :=
    unparked_replayPending (unparked_of_state hstate)
  unfold queryCompleted
  simp only
  split <;> rename_i hstate
  · have hpending : c.pendingLength = 0 := h (by rw [hstate]; rfl)
    split
    · exact unparked_setupStarted (unparked_of_pending hpending)
    · exact unparked_transferFailed _ _
  · have hpending : c.pendingLength = 0 := h (by rw [hstate]; rfl)
    split
    · exact unparked_setupStarted (unparked_of_pending hpending)
    · exact unparked_transferFailed _ _
  · exact unparked_replayPending (unparked_writePacket _ rfl _)
  · exact waiting _ rfl
  · exact waiting _ rfl
  · exact unparked_replayPending (unparked_writeNextRobotChunk _)
  · exact waiting _ rfl
  · exact waiting _ rfl
  · exact waiting _ rfl
  · exact waiting _ rfl
  · exact h

/-- No GATT event parks anything during the setup. -/
theorem unparked_gattHandler {event : PayloadClient.Event} (h : Unparked c) :
    Unparked (gattHandler robotFile env event c) := by
  unfold gattHandler
  split
  · exact h
  split
  · split
    · exact unparked_handleNotification h
    · exact h
  · split
    · exact h.congr rfl rfl
    · exact h
  · split
    · exact h.congr rfl rfl
    · exact h
  · split
    · exact h
    split
    · exact unparked_transferFailed _ _
    · exact unparked_queryCompleted h
  · exact h

/-- Asking for a connection parks nothing. -/
theorem unparked_beginConnection (hpending : c.pendingLength = 0) :
    Unparked (beginConnection env c) := by
  unfold beginConnection
  simp only
  split
  · exact unparked_transferFailed _ _
  · exact unparked_of_pending hpending

/-- An advertisement parks nothing. -/
theorem unparked_advertisementReceived {report : Advertisement} (hpending : c.pendingLength = 0) :
    Unparked (advertisementReceived env report c) := by
  unfold advertisementReceived
  simp only
  split_ifs
  all_goals exact unparked_of_pending hpending

/-- No HCI event parks anything. -/
theorem unparked_hciHandler {event : PayloadClient.Event} (h : Unparked c) :
    Unparked (hciHandler env event c) := by
  unfold hciHandler
  split
  · exact h.congr rfl rfl
  · split
    · unfold scanEnableComplete
      split
      · exact unparked_finishAttempt _
      split
      · exact h.congr rfl rfl
      · rename_i hstate
        split
        · exact unparked_finishAttempt _
        · exact unparked_beginConnection (h (by rw [hstate]; rfl))
      · exact unparked_finishAttempt _
      · exact h
    · exact h
  · split
    · rename_i hstate
      exact unparked_advertisementReceived (h (by rw [hstate]; rfl))
    · exact h
  · unfold connectionComplete
    split
    · exact h
    rename_i hstate
    simp only
    split_ifs with hstatus hclosing hlate
    · exact unparked_finishAttempt _
    · exact unparked_transferFailed _ _
    · exact unparked_of_state rfl
    · exact unparked_transferFailed _ _
    · have hconnecting : c.bleState = .connecting := by
        by_contra hne
        exact hstate ⟨hne, fun hclosing => hlate (.inr hclosing)⟩
      exact unparked_of_pending (h (by rw [hconnecting]; rfl))
  · unfold disconnectionComplete
    split
    · exact h
    simp only
    split
    · exact unparked_finishAttempt _
    · exact unparked_finishAttempt _
  · exact h

/-- **No packet parks anything during the setup.** -/
theorem unparked_handle {event : PayloadClient.Event} (h : Unparked c) :
    Unparked (handle robotFile env event c) := by
  unfold handle
  split
  · exact unparked_gattHandler h
  · exact unparked_gattHandler h
  · exact unparked_gattHandler h
  · exact unparked_gattHandler h
  · exact unparked_hciHandler h

/-- **Nothing is parked when the configuration write completes**, whatever an earlier
attempt has left behind. -/
theorem unparked_attempted (packets : List (PayloadClient.Event × Env)) (c : Client) :
    Unparked (attempted robotFile env packets c) := by
  have hstart : Unparked (startAttemptCallback env c) := by
    unfold startAttemptCallback
    split
    · exact unparked_finishAttempt _
    simp only
    split
    · exact unparked_beginConnection rfl
    · exact unparked_of_pending rfl
  unfold attempted
  revert hstart
  generalize startAttemptCallback env c = start
  induction packets generalizing start with
  | nil => exact fun h => h
  | cons packet packets ih => exact fun h => ih _ (unparked_handle h)

/-! ## The end -/

/-- The client has been told that the link has ended. -/
structure Over (names : Names) (reply : Bytes) (c d : Client) : Prop where
  state : d.bleState = .idle
  result : d.result = .complete
  running : d.attemptRunning = false
  kept : d.replyLength = reply.length ∧ d.replyFile.prefixOf reply.length = reply
  asked : Asked names c d [] false

/-- **The end of the link**: the attempt ends with the result that was stored for it. -/
theorem client_ends (hstate : c.bleState = .closing)
    (hhandle : c.connectionHandle = some names.robotCon) (hresult : c.closingResult = .complete)
    (hkept : c.replyLength = reply.length ∧ c.replyFile.prefixOf reply.length = reply) :
    Over names reply c
      (handle robotFile (granted now) (.disconnectionComplete names.robotCon) c) := by
  show Over names reply c (disconnectionComplete (granted now) names.robotCon c)
  unfold disconnectionComplete
  rw [if_neg (by simp [hhandle])]
  simp only
  rw [if_neg (by simp [hstate])]
  unfold finishAttempt
  simp only
  split
  · exact ⟨rfl, hresult, rfl, hkept, [.stopListening], rfl, rfl, by simp [hungUp], by simp⟩
  · exact ⟨rfl, hresult, rfl, hkept, Asked.refl rfl⟩

end Connection
