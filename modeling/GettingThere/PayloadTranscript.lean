/-
# What the client has accepted from the peer

The peer may send anything at any time.  `Progress` says, for each BLE state, which messages
the client has accepted since the attempt began and what it has kept of them; a result
`PAYLOAD_COMPLETE` is only stored at its last step, so it stands for one whole exchange of
this attempt (`Exchanged`).  Every packet keeps the progress (`progress_handle`).

`Client.exchange` is the part of the client the exchange depends on; ending an attempt
leaves it alone.
-/
import GettingThere.AttemptRun

namespace PayloadClient

open TransferProtocol Transition

/-! ## A whole exchange -/

/-- The packet of the `i`-th reply chunk. -/
def dataPacket (i : ℕ) (chunk : Bytes) : Bytes :=
  MessageType.replyData.code :: UInt8.ofNat i :: UInt8.ofNat chunk.length :: chunk

/-- A `MSG_FILE_RECEIVED` with status 0 and the CRC of the robot's file. -/
def IsFileReceived (robotFile value : Bytes) : Prop :=
  value.length = 6 ∧ byteAt value 0 = MessageType.fileReceived.code ∧ byteAt value 1 = 0 ∧
    transferReadU32 value 2 = transferCrc32 robotFile

/-- A `MSG_REPLY_START` that announces `n` bytes with CRC `crc`. -/
def IsReplyStart (n : ℕ) (crc : UInt32) (value : Bytes) : Prop :=
  value.length = 7 ∧ byteAt value 0 = MessageType.replyStart.code ∧
    (transferReadU16 value 1).toNat = n ∧ transferReadU32 value 3 = crc

/-- A `MSG_REPLY_END` that repeats `crc`. -/
def IsReplyEnd (crc : UInt32) (value : Bytes) : Prop :=
  value.length = 5 ∧ byteAt value 0 = MessageType.replyEnd.code ∧ transferReadU32 value 1 = crc

/-- The acknowledgements of beacon 1. -/
def ackOf (type : MessageType) : Bytes := [type.code, targetBeaconId]

/-- The messages of one whole exchange, in order, that deliver `data`. -/
def Exchanged (robotFile : Bytes) (accepted : List Bytes) (data : Bytes) : Prop :=
  ∃ (received start ending : Bytes) (chunks : List Bytes) (crc : UInt32),
    accepted = [ackOf .helloAck, ackOf .fileReady, received, start] ++
      chunks.mapIdx dataPacket ++ [ending, ackOf .completeAck] ∧
    IsFileReceived robotFile received ∧ IsReplyStart data.length crc start ∧
    1 ≤ data.length ∧ data.length ≤ 256 ∧ (∀ chunk ∈ chunks, chunk ≠ []) ∧
    chunks.flatten = data ∧ IsReplyEnd crc ending ∧ transferCrc32 data = crc

/-! ## The part of the client an exchange depends on -/

/-- What has been accepted, and what is kept of it. -/
structure Exchange where
  accepted : List Bytes
  robotCrc : UInt32
  replyFile : Buffer UInt8 256
  replyOffset : ℕ
  replyLength : ℕ
  replySequence : UInt8
  replyCrc : UInt32
  verified : Bool

/-- The values accepted so far, from the log of an attempt. -/
def acceptedValues (calls : List Call) : List Bytes :=
  calls.filterMap fun
    | .accepted value => some value
    | _ => none

/-- The exchange of a client. -/
def Client.exchange (c : Client) : Exchange where
  accepted := acceptedValues c.calls
  robotCrc := c.robotCrc
  replyFile := c.replyFile
  replyOffset := c.replyOffset
  replyLength := c.replyLength
  replySequence := c.replySequence
  replyCrc := c.replyCrc
  verified := c.payloadVerified

variable (robotFile : Bytes) (env : Env)

/-- The accepted values of a longer log are those of its parts. -/
@[simp] theorem acceptedValues_append (calls calls' : List Call) :
    acceptedValues (calls ++ calls') = acceptedValues calls ++ acceptedValues calls' :=
  List.filterMap_append

/-- A call that is not the acceptance of a message leaves the exchange alone. -/
theorem exchange_call {x : Call} (h : acceptedValues [x] = []) (c : Client) :
    (c.call x).exchange = c.exchange := by
  simp [Client.exchange, Client.call, h]

/-- `set_state` is none of the exchange. -/
@[simp] theorem exchange_setState (state : BleState) (c : Client) :
    (Client.setState env state c).exchange = c.exchange := rfl

/-- Finishing an attempt keeps what has been accepted. -/
@[simp] theorem exchange_finishAttempt (c : Client) :
    (finishAttempt env c).exchange = c.exchange := by
  unfold finishAttempt
  split
  · exact exchange_call rfl c
  · rfl

/-- Closing a scan keeps what has been accepted. -/
@[simp] theorem exchange_closeScan (c : Client) : (closeScan env c).exchange = c.exchange := by
  have ending (d : Client) (hd : d.exchange = c.exchange) :
      (if d.scanConfirmed then d
        else finishAttempt env { d with closingResult := .fatal }).exchange = c.exchange := by
    split
    · exact hd
    · rw [exchange_finishAttempt]
      exact hd
  unfold closeScan
  by_cases hstop : c.bleState = .stoppingForConnect
  · simp only [hstop, if_true]
    exact ending _ rfl
  · simp only [hstop]
    exact ending _ (exchange_call rfl _)

/-- Closing an attempt leaves the exchange alone. -/
@[simp] theorem exchange_closeAttempt (r : PayloadResult) (c : Client) :
    (closeAttempt env r c).exchange = c.exchange := by
  unfold closeAttempt
  simp only
  split
  · rw [exchange_closeScan]
    rfl
  split
  · split
    · exact exchange_call rfl _
    · exact exchange_call rfl _
  · split
    · exact exchange_call rfl _
    · rw [exchange_finishAttempt]
      rfl

/-! ## Progress -/

/-- How far an exchange has come in a BLE state. -/
inductive Point
  | greeting
  | greeted
  | offered
  | delivered
  | replying
  | replied
  | ending
  deriving DecidableEq, Repr

/-- The point a BLE state belongs to. -/
def BleState.point : BleState → Point
  | .writeFileStart | .waitFileReady => .greeted
  | .writeFileData | .writeFileEnd | .waitFileReceived => .offered
  | .writeReplyRequest | .waitReplyStart => .delivered
  | .writeReplyNext | .waitReplyPiece => .replying
  | .writeComplete | .waitCompleteAck => .replied
  | .idle | .stoppingScan | .closing => .ending
  | _ => .greeting

/-- The reply received so far: `chunks` of it, kept at the front of `reply_file`. -/
def Receiving (robotFile : Bytes) (x : Exchange) (received start : Bytes) (chunks : List Bytes) :
    Prop :=
  IsFileReceived robotFile received ∧ IsReplyStart x.replyLength x.replyCrc start ∧
    1 ≤ x.replyLength ∧ x.replyLength ≤ 256 ∧ (∀ chunk ∈ chunks, chunk ≠ []) ∧
    x.replyFile.prefixOf x.replyOffset = chunks.flatten ∧
    x.replyOffset = chunks.flatten.length ∧ x.replyOffset ≤ x.replyLength ∧
    x.replySequence = UInt8.ofNat chunks.length

/-- The messages up to the reply chunks. -/
def replyLog (received start : Bytes) (chunks : List Bytes) : List Bytes :=
  [ackOf .helloAck, ackOf .fileReady, received, start] ++ chunks.mapIdx dataPacket

/-- What the client has accepted at each point. -/
def ProgressAt (robotFile : Bytes) (closing : PayloadResult) (x : Exchange) : Point → Prop
  | .greeting => x.accepted = [] ∧ closing ≠ .complete
  | .greeted => x.accepted = [ackOf .helloAck] ∧ x.robotCrc = transferCrc32 robotFile
  | .offered =>
    x.accepted = [ackOf .helloAck, ackOf .fileReady] ∧ x.robotCrc = transferCrc32 robotFile
  | .delivered =>
    ∃ received, x.accepted = [ackOf .helloAck, ackOf .fileReady, received] ∧
      IsFileReceived robotFile received
  | .replying =>
    ∃ received start chunks, x.accepted = replyLog received start chunks ∧
      Receiving robotFile x received start chunks
  | .replied =>
    ∃ received start chunks ending, x.accepted = replyLog received start chunks ++ [ending] ∧
      Receiving robotFile x received start chunks ∧ x.replyOffset = x.replyLength ∧
      IsReplyEnd x.replyCrc ending ∧ transferCrc32 (x.replyFile.prefixOf x.replyLength) = x.replyCrc
  | .ending =>
    closing = .complete → x.verified = true ∧
      Exchanged robotFile x.accepted (x.replyFile.prefixOf x.replyLength)

/-- What the client has accepted in its state. -/
def Progress (robotFile : Bytes) (c : Client) : Prop :=
  ProgressAt robotFile c.closingResult c.exchange c.bleState.point

variable {robotFile} {env} {c d : Client}

/-- The point, the closing result and the exchange are all that matters. -/
theorem Progress.congr (h : Progress robotFile c) (hpoint : d.bleState.point = c.bleState.point)
    (hclosing : d.closingResult = c.closingResult) (hexchange : d.exchange = c.exchange) :
    Progress robotFile d := by
  unfold Progress at h ⊢
  rw [hpoint, hclosing, hexchange]
  exact h

/-- An attempt that ends otherwise than complete has nothing to show. -/
theorem progress_ended (hpoint : d.bleState.point = .ending) (h : d.closingResult ≠ .complete) :
    Progress robotFile d := by
  unfold Progress
  rw [hpoint]
  exact fun hc => absurd hc h

/-- The phases in which an attempt ends. -/
theorem point_ending_iff (c : Client) :
    c.bleState.point = .ending ↔
      c.life.phase = .idle ∨ c.life.phase = .stoppingScan ∨ c.life.phase = .closing := by
  show _ ↔ c.bleState.phase = _ ∨ c.bleState.phase = _ ∨ c.bleState.phase = _
  cases c.bleState <;> decide

/-- Closing with another result than `PAYLOAD_COMPLETE` promises nothing. -/
theorem progress_closeAttempt {r : PayloadResult} (hr : r ≠ .complete) (c : Client) :
    Progress robotFile (closeAttempt env r c) := by
  obtain ⟨hphase, hclosing⟩ := Life.close_ends env.refuses r c.life
  rw [← life_closeAttempt] at hphase hclosing
  apply progress_ended ((point_ending_iff _).mpr hphase)
  show (closeAttempt env r c).life.closing ≠ .complete
  rcases hclosing with h | h
  · rw [h]
    exact hr
  · rw [h]
    nofun

/-- A failed transfer promises nothing. -/
theorem progress_transferFailed (reason : String) (c : Client) :
    Progress robotFile (transferFailed env reason c) := by
  refine progress_closeAttempt ?_ _
  split <;> nofun

/-- An attempt that ends keeps what it had to show. -/
theorem Progress.finish (h : Progress robotFile c) (hpoint : c.bleState.point = .ending) :
    Progress robotFile (finishAttempt env c) := by
  have hstate : (finishAttempt env c).bleState.point = c.bleState.point := by
    rw [hpoint, point_ending_iff, life_finishAttempt]
    exact .inl rfl
  have hclosing : (finishAttempt env c).closingResult = c.closingResult := by
    unfold finishAttempt
    split <;> rfl
  exact h.congr hstate hclosing (exchange_finishAttempt env c)

/-- A write that goes out leads to its state; one that BTstack refuses ends the attempt. -/
theorem progress_writePacket {packet : Bytes} {state : BleState}
    (h : Progress robotFile { c with bleState := state }) :
    Progress robotFile (writePacket env packet state c) := by
  unfold writePacket
  simp only
  split
  · exact progress_transferFailed _ _
  · exact h.congr rfl rfl (exchange_call rfl _)

/-! ## Messages -/

/-- In a given state the client has accepted what belongs to its point. -/
theorem Progress.at (h : Progress robotFile c) {state : BleState} (hstate : c.bleState = state) :
    ProgressAt robotFile c.closingResult c.exchange state.point := hstate ▸ h

/-- A two-byte value of the target beacon. -/
theorem eq_ackOf {value : Bytes} {type : MessageType} (hcode : byteAt value 0 = type.code)
    (hvalid : ¬ (value.length ≠ 2 ∨ byteAt value 1 ≠ targetBeaconId)) : value = ackOf type := by
  rw [not_or, not_not, not_not] at hvalid
  obtain ⟨hlen, hbeacon⟩ := hvalid
  obtain ⟨a, b, rfl⟩ := List.length_eq_two.mp hlen
  simp only [byteAt, List.getD_cons_zero, List.getD_cons_succ] at hcode hbeacon
  rw [hcode, hbeacon, ackOf]

/-- Accepting a value appends it to the log. -/
theorem acceptedValues_accept (calls : List Call) (value : Bytes) :
    acceptedValues (calls ++ [.accepted value]) = acceptedValues calls ++ [value] :=
  acceptedValues_append _ _

variable {value : Bytes}

/-- An accepted `MSG_HELLO_ACK` is the first message. -/
theorem progress_receiveHelloAck (h : Progress robotFile c)
    (hcode : byteAt value 0 = MessageType.helloAck.code) :
    Progress robotFile (receiveHelloAck robotFile env value c) := by
  unfold receiveHelloAck
  split_ifs with hstate hvalid
  · exact h
  · exact progress_transferFailed _ _
  · have hgreeting := h.at (not_not.mp hstate)
    refine progress_writePacket ⟨?_, rfl⟩
    show acceptedValues (c.calls ++ [.accepted value]) = [ackOf .helloAck]
    rw [acceptedValues_accept, show acceptedValues c.calls = [] from hgreeting.1,
      eq_ackOf hcode hvalid]
    rfl

/-- Writing the file accepts nothing. -/
theorem progress_writeNextRobotChunk (h : ProgressAt robotFile c.closingResult c.exchange .offered) :
    Progress robotFile (writeNextRobotChunk robotFile env c) := by
  unfold writeNextRobotChunk
  split
  · exact progress_writePacket h
  · exact progress_writePacket h

/-- An accepted `MSG_FILE_READY` is the second message. -/
theorem progress_receiveFileReady (h : Progress robotFile c)
    (hcode : byteAt value 0 = MessageType.fileReady.code) :
    Progress robotFile (receiveFileReady robotFile env value c) := by
  unfold receiveFileReady
  split_ifs with hstate hvalid
  · exact h
  · exact progress_transferFailed _ _
  · obtain ⟨haccepted, hcrc⟩ := h.at (not_not.mp hstate)
    refine progress_writeNextRobotChunk ⟨?_, hcrc⟩
    show acceptedValues (c.calls ++ [.accepted value]) = _
    rw [acceptedValues_accept, show acceptedValues c.calls = _ from haccepted,
      eq_ackOf hcode hvalid]
    rfl

/-- An accepted `MSG_FILE_RECEIVED` repeats the CRC of the file. -/
theorem progress_receiveFileReceived (h : Progress robotFile c)
    (hcode : byteAt value 0 = MessageType.fileReceived.code) :
    Progress robotFile (receiveFileReceived env value c) := by
  unfold receiveFileReceived
  split_ifs with hstate hvalid
  · exact h
  · exact progress_transferFailed _ _
  · obtain ⟨haccepted, hcrc⟩ := h.at (not_not.mp hstate)
    simp only [not_or, not_not] at hvalid
    refine progress_writePacket ⟨value, ?_, hvalid.1, hcode, hvalid.2.1, hvalid.2.2.trans hcrc⟩
    show acceptedValues (c.calls ++ [.accepted value]) = _
    rw [acceptedValues_accept, show acceptedValues c.calls = _ from haccepted]
    rfl

/-- An accepted `MSG_REPLY_START` announces a reply that fits. -/
theorem progress_receiveReplyStart (h : Progress robotFile c)
    (hcode : byteAt value 0 = MessageType.replyStart.code) :
    Progress robotFile (receiveReplyStart env value c) := by
  unfold receiveReplyStart
  simp only
  split_ifs with hstate hlen hannounced
  · exact h
  · exact progress_transferFailed _ _
  · exact progress_transferFailed _ _
  · obtain ⟨received, haccepted, hreceived⟩ := h.at (not_not.mp hstate)
    rw [not_not] at hlen
    rw [not_or, transferMaxFileSize] at hannounced
    have hmod : (transferReadU16 value 1).toNat % 512 = (transferReadU16 value 1).toNat :=
      Nat.mod_eq_of_lt (by omega)
    refine progress_writePacket ⟨received, value, [], ?_, hreceived, ⟨hlen, hcode, hmod.symm, rfl⟩,
      ?_, ?_, nofun, Buffer.prefixOf_zero _, rfl, Nat.zero_le _, rfl⟩
    · show acceptedValues (c.calls ++ [.accepted value]) = _
      rw [acceptedValues_accept, show acceptedValues c.calls = _ from haccepted]
      rfl
    · show 1 ≤ (transferReadU16 value 1).toNat % 512
      omega
    · show (transferReadU16 value 1).toNat % 512 ≤ 256
      omega

/-- A reply chunk that passes the checks is the packet of the next chunk. -/
theorem eq_dataPacket {i : ℕ} (hcode : byteAt value 0 = MessageType.replyData.code)
    (hsequence : byteAt value 1 = UInt8.ofNat i)
    (hlen : value.length = 3 + (byteAt value 2).toNat) :
    value = dataPacket i (value.drop 3) := by
  match value, hlen with
  | a :: b :: k :: chunk, hlen =>
    simp only [byteAt, List.getD_cons_zero, List.getD_cons_succ, List.length_cons] at *
    have hk : UInt8.ofNat chunk.length = k := by
      rw [show chunk.length = k.toNat by omega, UInt8.ofNat_toNat]
    simp only [dataPacket, List.drop_succ_cons, List.drop_zero, hk, hcode, hsequence]
  | [], hlen => simp [byteAt] at hlen
  | [a], hlen => simp [byteAt] at hlen
  | [a, b], hlen => simp [byteAt] at hlen

/-- An accepted `MSG_REPLY_DATA` is the next piece, and its bytes go behind the ones before. -/
theorem progress_receiveReplyData (h : Progress robotFile c)
    (hcode : byteAt value 0 = MessageType.replyData.code) :
    Progress robotFile (receiveReplyData env value c) := by
  unfold receiveReplyData
  split_ifs with hstate hlen hfits
  · exact h
  · exact progress_transferFailed _ _
  · obtain ⟨received, start, chunks, haccepted, hreceived, hstart, hpos, hmax, hchunks, hpre,
      hoffset, hle, hsequence⟩ := h.at (not_not.mp hstate)
    simp only [replyDataFits, decide_eq_true_eq] at hfits
    obtain ⟨hseq, hne, hmaxChunk, hlength, hroom⟩ := hfits
    have hsequence' : c.replySequence = UInt8.ofNat chunks.length := hsequence
    have hroom' : c.replyOffset + (byteAt value 2).toNat ≤ c.replyLength := hroom
    have hmax' : c.replyLength ≤ 256 := hmax
    have hoffset' : c.replyOffset = chunks.flatten.length := hoffset
    -- the chunk is as long as it says, and it fits behind the ones before it
    have hchunk : (value.drop 3).length = (byteAt value 2).toNat := by
      rw [List.length_drop]
      omega
    have hmod : (c.replyOffset + (byteAt value 2).toNat) % 512 =
        c.replyOffset + (value.drop 3).length := by
      rw [hchunk]
      exact Nat.mod_eq_of_lt (by omega)
    have hfit : Buffer.Fits 256 c.replyOffset (value.drop 3) := by
      unfold Buffer.Fits
      omega
    refine progress_writePacket ⟨received, start, chunks ++ [value.drop 3], ?_, hreceived, hstart,
      hpos, hmax, ?_, ?_, ?_, ?_, ?_⟩
    · show acceptedValues (c.calls ++ [.accepted value]) = _
      rw [acceptedValues_accept, show acceptedValues c.calls = _ from haccepted, replyLog, replyLog,
        List.mapIdx_append]
      rw [List.append_assoc]
      congr 2
      simp only [List.mapIdx_cons, List.mapIdx_nil, Nat.zero_add]
      rw [← eq_dataPacket hcode (hseq.trans hsequence') hlength]
    · intro chunk hmem
      rcases List.mem_append.mp hmem with h | h
      · exact hchunks chunk h
      · rw [List.mem_singleton.mp h]
        intro hnil
        rw [hnil] at hchunk
        exact hne hchunk.symm
    · show (c.replyFile.write c.replyOffset (value.drop 3)).prefixOf
        ((c.replyOffset + (byteAt value 2).toNat) % 512) = _
      rw [hmod, Buffer.prefixOf_write _ hfit, show c.replyFile.prefixOf c.replyOffset = _ from hpre]
      simp
    · show (c.replyOffset + (byteAt value 2).toNat) % 512 = _
      rw [hmod]
      simp [hoffset']
    · show (c.replyOffset + (byteAt value 2).toNat) % 512 ≤ c.replyLength
      rw [hmod, hchunk]
      exact hroom'
    · show c.replySequence + 1 = _
      rw [hsequence', List.length_append, List.length_singleton, UInt8.ofNat_add]
      rfl
  · exact progress_transferFailed _ _

/-- An accepted `MSG_REPLY_END` comes after the last piece and repeats the CRC. -/
theorem progress_receiveReplyEnd (h : Progress robotFile c)
    (hcode : byteAt value 0 = MessageType.replyEnd.code) :
    Progress robotFile (receiveReplyEnd env value c) := by
  unfold receiveReplyEnd
  split_ifs with hstate hverified
  · exact h
  · obtain ⟨received, start, chunks, haccepted, hreceiving⟩ := h.at (not_not.mp hstate)
    simp only [replyVerified, decide_eq_true_eq] at hverified
    obtain ⟨hlen, hoffset, hcrc, hrepeat⟩ := hverified
    refine progress_writePacket ⟨received, start, chunks, value, ?_, hreceiving, hoffset,
      ⟨hlen, hcode, hrepeat⟩, hcrc⟩
    show acceptedValues (c.calls ++ [.accepted value]) = _
    rw [acceptedValues_accept, show acceptedValues c.calls = _ from haccepted]
  · exact progress_transferFailed _ _

/-- The last step: the reply in `reply_file` is the announced one. -/
theorem exchanged_of_replied
    (h : ProgressAt robotFile c.closingResult c.exchange .replied) :
    Exchanged robotFile (c.exchange.accepted ++ [ackOf .completeAck])
      (c.exchange.replyFile.prefixOf c.exchange.replyLength) := by
  obtain ⟨received, start, chunks, ending, haccepted, ⟨hreceived, hstart, hpos, hmax, hchunks,
    hpre, hoffset, hle, hsequence⟩, hall, hend, hcrc⟩ := h
  have hlength := Buffer.length_prefixOf c.exchange.replyFile hmax
  refine ⟨received, start, ending, chunks, c.exchange.replyCrc, ?_, hreceived, ?_, ?_, ?_, hchunks,
    ?_, hend, hcrc⟩
  · rw [haccepted, replyLog]
    simp
  · rw [hlength]
    exact hstart
  · rw [hlength]
    exact hpos
  · rw [hlength]
    exact hmax
  · rw [← hall]
    exact hpre.symm

/-- An accepted `MSG_COMPLETE_ACK` is the last message of a whole exchange. -/
theorem progress_receiveCompleteAck (h : Progress robotFile c)
    (hcode : byteAt value 0 = MessageType.completeAck.code) :
    Progress robotFile (receiveCompleteAck env value c) := by
  unfold receiveCompleteAck
  split_ifs with hstate hvalid
  · exact h
  · exact progress_transferFailed _ _
  · have hexchanged := exchanged_of_replied (h.at (not_not.mp hstate))
    obtain ⟨hphase, -⟩ := Life.close_ends env.refuses .complete (Client.life { c.call (.accepted value)
      with payloadVerified := true, faults := c.faults.clear .payload })
    rw [← life_closeAttempt] at hphase
    unfold Progress
    rw [(point_ending_iff _).mpr hphase, exchange_closeAttempt]
    refine fun _ => ⟨rfl, ?_⟩
    show Exchanged robotFile (acceptedValues (c.calls ++ [.accepted value])) _
    rw [acceptedValues_accept, eq_ackOf hcode hvalid]
    exact hexchanged

/-- **Every message** keeps the progress. -/
theorem progress_receiveMessage (h : Progress robotFile c) :
    Progress robotFile (receiveMessage robotFile env value c) := by
  unfold receiveMessage
  split
  · rename_i hcode
    exact progress_receiveHelloAck h (MessageType.code_of_ofCode? hcode)
  · rename_i hcode
    exact progress_receiveFileReady h (MessageType.code_of_ofCode? hcode)
  · rename_i hcode
    exact progress_receiveFileReceived h (MessageType.code_of_ofCode? hcode)
  · rename_i hcode
    exact progress_receiveReplyStart h (MessageType.code_of_ofCode? hcode)
  · rename_i hcode
    exact progress_receiveReplyData h (MessageType.code_of_ofCode? hcode)
  · rename_i hcode
    exact progress_receiveReplyEnd h (MessageType.code_of_ofCode? hcode)
  · rename_i hcode
    exact progress_receiveCompleteAck h (MessageType.code_of_ofCode? hcode)
  · exact h

/-! ## Packets -/

/-- A notification keeps the progress, whatever it says. -/
theorem progress_handleNotification (h : Progress robotFile c) :
    Progress robotFile (handleNotification robotFile env value c) := by
  unfold handleNotification
  split_ifs
  · exact h
  · exact progress_transferFailed _ _
  · exact progress_transferFailed _ _
  · exact h.congr rfl rfl rfl
  · exact progress_receiveMessage h

/-- A parked notification keeps the progress like one that arrives. -/
theorem progress_replayPending (h : Progress robotFile c) :
    Progress robotFile (replayPending robotFile env c) := by
  unfold replayPending
  split
  · exact progress_handleNotification (h.congr rfl rfl rfl)
  · exact h

/-- A GATT setup call accepts nothing but what was parked. -/
theorem progress_setupStarted (h : Progress robotFile c) :
    Progress robotFile (setupStarted robotFile env c) := by
  unfold setupStarted
  split
  · exact progress_transferFailed _ _
  · exact progress_replayPending h

/-- The completion of a query accepts nothing but what was parked. -/
theorem progress_queryCompleted (h : Progress robotFile c) :
    Progress robotFile (queryCompleted robotFile env c) := by
  have waiting (state : BleState) (hpoint : state.point = c.bleState.point) :
      Progress robotFile (replayPending robotFile env (c.setState env state)) :=
    progress_replayPending (h.congr hpoint rfl rfl)
  unfold queryCompleted
  simp only
  split <;> rename_i hstate
  · split
    · exact progress_setupStarted (h.congr (by rw [hstate]; rfl) rfl (exchange_call rfl _))
    · exact progress_transferFailed _ _
  · split
    · refine progress_setupStarted (h.congr (by rw [hstate]; rfl) rfl ?_)
      rw [exchange_call rfl]
      exact exchange_call rfl _
    · exact progress_transferFailed _ _
  · refine progress_replayPending (progress_writePacket (h.congr ?_ rfl rfl))
    rw [hstate]
    rfl
  · exact waiting .waitHelloAck (by rw [hstate]; rfl)
  · exact waiting .waitFileReady (by rw [hstate]; rfl)
  · exact progress_replayPending (progress_writeNextRobotChunk (h.at hstate))
  · exact waiting .waitFileReceived (by rw [hstate]; rfl)
  · exact waiting .waitReplyStart (by rw [hstate]; rfl)
  · exact waiting .waitReplyPiece (by rw [hstate]; rfl)
  · exact waiting .waitCompleteAck (by rw [hstate]; rfl)
  · exact h

/-- Every GATT event keeps the progress. -/
theorem progress_gattHandler {event : Event} (h : Progress robotFile c) :
    Progress robotFile (gattHandler robotFile env event c) := by
  unfold gattHandler
  split
  · exact h
  split
  · split
    · exact progress_handleNotification h
    · exact h
  · split
    · exact h.congr rfl rfl rfl
    · exact h
  · split
    · exact h.congr rfl rfl rfl
    · exact h
  · split
    · exact h
    split
    · exact progress_transferFailed _ _
    · exact progress_queryCompleted h
  · exact h

/-- Asking for a connection accepts nothing. -/
theorem progress_beginConnection (haccepted : c.exchange.accepted = [])
    (hclosing : c.closingResult ≠ .complete) : Progress robotFile (beginConnection env c) := by
  unfold beginConnection
  simp only
  split
  · exact progress_transferFailed _ _
  · refine ⟨?_, hclosing⟩
    rw [exchange_call rfl]
    exact haccepted

/-- An advertisement accepts nothing. -/
theorem progress_advertisementReceived {report : Advertisement} (h : Progress robotFile c)
    (hstate : c.bleState = .scanning) :
    Progress robotFile (advertisementReceived env report c) := by
  have hgreeting : ProgressAt robotFile c.closingResult c.exchange .greeting := h.at hstate
  have same (d : Client) (hpoint : d.bleState.point = .greeting)
      (hclosing : d.closingResult = c.closingResult) (hexchange : d.exchange = c.exchange) :
      Progress robotFile d := by
    unfold Progress
    rw [hpoint, hclosing, hexchange]
    exact hgreeting
  have hpoint : c.bleState.point = .greeting := by rw [hstate]; rfl
  unfold advertisementReceived
  simp only
  split_ifs
  all_goals first
    | exact h
    | exact same _ hpoint rfl rfl
    | exact same _ rfl rfl (exchange_call rfl _)

/-- A connection that completes accepts nothing. -/
theorem progress_connectionComplete {status : UInt8} {handle : ConHandle}
    (h : Progress robotFile c) : Progress robotFile (connectionComplete env status handle c) := by
  unfold connectionComplete
  split
  · exact h
  rename_i hstate
  push Not at hstate
  simp only
  split
  · split
    · rename_i hclose
      refine Progress.finish (h.congr rfl rfl rfl) ?_
      show c.bleState.point = .ending
      rw [hclose]
      rfl
    · exact progress_transferFailed _ _
  · split
    · -- the closing result is an earlier attempt's, or already this one's
      by_cases hclose : c.bleState = .closing
      · refine h.congr ?_ rfl (exchange_call rfl _)
        rw [hclose]
        rfl
      · have hconnecting : c.bleState = .connecting := by
          by_contra hne
          exact hclose (hstate hne)
        have hgreeting : ProgressAt robotFile c.closingResult c.exchange .greeting :=
          h.at hconnecting
        exact progress_ended rfl hgreeting.2
    · rename_i hlate
      rw [not_or] at hlate
      have hconnecting : c.bleState = .connecting := by
        by_contra hne
        exact hlate.2 (hstate hne)
      split
      · exact progress_transferFailed _ _
      · refine h.congr ?_ rfl (exchange_call rfl _)
        rw [hconnecting]
        rfl

/-- A finish that does not report `PAYLOAD_COMPLETE` promises nothing. -/
theorem progress_finish_other (hclosing : c.closingResult ≠ .complete) :
    Progress robotFile (finishAttempt env c) := by
  refine progress_ended ?_ ?_
  · rw [point_ending_iff, life_finishAttempt]
    exact .inl rfl
  · show (finishAttempt env c).life.closing ≠ .complete
    rw [life_finishAttempt]
    exact hclosing

/-- The answer to a scan command accepts nothing. -/
theorem progress_scanEnableComplete {status : UInt8} (h : Progress robotFile c) :
    Progress robotFile (scanEnableComplete env status c) := by
  unfold scanEnableComplete
  split
  · exact progress_finish_other nofun
  split
  · exact h.congr rfl rfl rfl
  · rename_i hstate
    split
    · exact progress_finish_other nofun
    · have hgreeting : ProgressAt robotFile c.closingResult c.exchange .greeting := h.at hstate
      exact progress_beginConnection hgreeting.1 hgreeting.2
  · rename_i hstate
    exact h.finish (by rw [hstate]; rfl)
  · exact h

/-- A disconnection reports `PAYLOAD_COMPLETE` only where closing has stored it. -/
theorem progress_disconnectionComplete {handle : ConHandle} (h : Progress robotFile c) :
    Progress robotFile (disconnectionComplete env handle c) := by
  unfold disconnectionComplete
  split
  · exact h
  simp only
  split
  · apply progress_finish_other
    show (if c.closeConfirmed then PayloadResult.retry else .notClose) ≠ .complete
    split <;> nofun
  · rename_i hstate
    rw [not_not] at hstate
    refine Progress.finish (h.congr rfl rfl rfl) ?_
    show c.bleState.point = .ending
    rw [hstate]
    rfl

/-- **Every packet** keeps the progress. -/
theorem progress_handle {event : Event} (h : Progress robotFile c) :
    Progress robotFile (handle robotFile env event c) := by
  unfold handle
  split
  · exact progress_gattHandler h
  · exact progress_gattHandler h
  · exact progress_gattHandler h
  · exact progress_gattHandler h
  unfold hciHandler
  split
  · exact h.congr rfl rfl rfl
  · split
    · exact progress_scanEnableComplete h
    · exact h
  · split
    · rename_i hstate
      exact progress_advertisementReceived h hstate
    · exact h
  · exact progress_connectionComplete h
  · exact progress_disconnectionComplete h
  · exact h

end PayloadClient
