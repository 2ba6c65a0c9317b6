/-
# A client that hears only genuine answers

The client writes the requests of an exchange in their order, and after each it waits for an
answer.  What it hears may be late or old, but if every value is the answer of some round
(`Genuine`), then none of them can take the client anywhere but to the next round: either it stays
where it is, or it goes on with what it should keep there, or its attempt ends (`Outcome`).

The state of the other side plays no part here.
-/
import GettingThere.ExchangeClient
import GettingThere.LossyLink

namespace LossyLink

open TransferProtocol PayloadClient
open Connection (Names written Round ClientAt chunk chunkPacket sent fileRound length_chunk
  sent_zero sent_succ sent_of_lt sent_of_not_lt take_sent_succ toNat_length_chunk
  length_request_le handleNotification_waiting)

/-! ## Where the client stands -/

/-- The round that follows; the first one follows the configuration write. -/
def follow (robotFile reply : Bytes) : Option Round → Option Round
  | none => some .hello
  | some ρ => ρ.next robotFile reply

/-- The value is the answer of a round. -/
def Genuine (robotFile reply v : Bytes) : Prop :=
  ∃ ρ : Round, ρ.Valid robotFile reply ∧ ρ.answer robotFile reply = some v

/-- The last answer of an exchange. -/
def completeAck : Bytes := [MessageType.completeAck.code, targetBeaconId]

/-- The state of the client in a round, or before the first one. -/
def Stage (robotFile reply : Bytes) (c : Client) : Option Round → Prop
  | none => c.bleState = .enableNotifications
  | some ρ => (c.bleState = ρ.writing ∨ c.bleState = ρ.waiting) ∧ ClientAt robotFile reply c ρ

/-- The client takes part in the exchange; `Heard` is what it may have heard so far. -/
structure Engaged (names : Names) (robotFile reply : Bytes) (Heard : Bytes → Prop)
    (p : Option Round) (c : Client) : Prop where
  handle : c.connectionHandle = some names.robotCon
  value : c.valueHandle = names.valueHandle
  stage : Stage robotFile reply c p
  unverified : c.payloadVerified = false
  parked : c.pendingLength ≠ 0 → Heard (c.pendingNotification.prefixOf c.pendingLength)

/-- Between `c` and `d` the client wrote `values`. -/
def Adds (names : Names) (values : List Bytes) (c d : Client) : Prop :=
  ∃ asked, d.calls = c.calls ++ asked ∧ written names asked = values

/-- The client has left the exchange. -/
def Left (c : Client) : Prop := c.bleState = .closing ∨ c.bleState = .idle

/-- What can become of the client. -/
inductive Outcome (names : Names) (robotFile reply : Bytes) (Heard : Bytes → Prop)
    (p : Option Round) (env : Env) (c d : Client) : Prop
  | stays (h : Engaged names robotFile reply Heard p d) (hadds : Adds names [] c d)
  | advances {ρ : Round} (hnext : follow robotFile reply p = some ρ) (hwrite : env.write = 0)
      (h : Engaged names robotFile reply Heard (some ρ) d)
      (hadds : Adds names [ρ.request robotFile] c d)
  | ends (hleft : Left d) (hadds : env.write = 0 → Adds names [] c d)
      (hreply : p = some .complete → d.replyLength = c.replyLength ∧ d.replyFile = c.replyFile)
      (hverified : d.payloadVerified = true → p = some .complete ∧ Heard completeAck)

variable {names : Names} {robotFile reply : Bytes} {Heard Heard' : Bytes → Prop} {p : Option Round}
  {env : Env} {c d e : Client} {values values' : List Bytes}

/-- A client that makes no call writes nothing. -/
theorem Adds.of_eq (h : d.calls = c.calls) : Adds names [] c d := ⟨[], by simp [h], rfl⟩

/-- What is written in two stretches is written one after the other. -/
theorem Adds.trans (h : Adds names values c d) (h' : Adds names values' d e) :
    Adds names (values ++ values') c e := by
  obtain ⟨asked, hcalls, hvalues⟩ := h
  obtain ⟨asked', hcalls', hvalues'⟩ := h'
  refine ⟨asked ++ asked', ?_, ?_⟩
  · rw [hcalls', hcalls, List.append_assoc]
  · rw [← hvalues, ← hvalues']
    exact List.filterMap_append

/-- A call that is not a write. -/
theorem Adds.call {x : Call} (hx : written names [x] = []) (h : d.calls = c.calls ++ [x]) :
    Adds names [] c d := ⟨[x], h, hx⟩

/-- What was added are the values behind those of before. -/
theorem Adds.drop (h : Adds names values c d) :
    written names (d.calls.drop c.calls.length) = values := by
  obtain ⟨asked, hcalls, hvalues⟩ := h
  rw [hcalls, List.drop_left]
  exact hvalues

/-- A client that may have heard more is engaged as well. -/
theorem Engaged.mono (h : Engaged names robotFile reply Heard p c) (hH : ∀ v, Heard v → Heard' v) :
    Engaged names robotFile reply Heard' p c :=
  ⟨h.handle, h.value, h.stage, h.unverified, fun hp => hH _ (h.parked hp)⟩

/-! ## Leaving the exchange -/

/-- The client leaves the exchange, and keeps what it has of the reply. -/
structure Leaves (names : Names) (c d : Client) : Prop where
  left : Left d
  adds : Adds names [] c d
  reply : d.replyLength = c.replyLength ∧ d.replyFile = c.replyFile
  verified : d.payloadVerified = true → c.payloadVerified = true

section Leaving

variable (names env)

/-- A client that finishes has left the exchange. -/
theorem leaves_finishAttempt (c : Client) : Leaves names c (finishAttempt env c) := by
  unfold finishAttempt
  simp only
  split
  · exact ⟨.inr rfl, .call rfl rfl, ⟨rfl, rfl⟩, id⟩
  · exact ⟨.inr rfl, .of_eq rfl, ⟨rfl, rfl⟩, id⟩

/-- A client that closes has left it, unless it scans. -/
theorem leaves_closeAttempt (r : PayloadResult)
    (hstate : ¬ (c.bleState = .scanning ∨ c.bleState = .stoppingForConnect)) :
    Leaves names c (closeAttempt env r c) := by
  unfold closeAttempt
  simp only
  rw [if_neg hstate]
  split
  · split
    · exact ⟨.inl rfl, .call rfl rfl, ⟨rfl, rfl⟩, id⟩
    · exact ⟨.inl rfl, .call rfl rfl, ⟨rfl, rfl⟩, id⟩
  · split
    · exact ⟨.inl rfl, .call rfl rfl, ⟨rfl, rfl⟩, id⟩
    · obtain ⟨hleft, hadds, hreply, hverified⟩ := leaves_finishAttempt names env
        { c with closingResult := r, pendingLength := 0 }
      exact ⟨hleft, hadds, hreply, hverified⟩

/-- A transfer that fails has verified nothing. -/
theorem leaves_transferFailed (reason : String)
    (hstate : ¬ (c.bleState = .scanning ∨ c.bleState = .stoppingForConnect)) :
    Leaves names c (transferFailed env reason c) := by
  unfold transferFailed
  obtain ⟨hleft, hadds, hreply, hverified⟩ := leaves_closeAttempt names env
    (if c.closeConfirmed then .retry else .notClose)
    (c := { c.call (.failed reason) with
      faults := c.faults.raise .payload, payloadVerified := false }) hstate
  refine ⟨hleft, ?_, hreply, fun h => ?_⟩
  · have hfailed : Adds names [] c (c.call (.failed reason)) := .call rfl rfl
    exact hfailed.trans hadds
  · exact absurd (hverified h) (by simp)

end Leaving

/-- The states of an exchange. -/
def exchanging : BleState → Bool
  | .idle | .starting | .scanning | .stoppingForConnect | .connecting | .discoverService
  | .discoverCharacteristic | .stoppingScan | .closing => false
  | _ => true

/-- A client within the exchange is in none of the other states. -/
theorem Stage.ne (h : Stage robotFile reply c p) {state : BleState}
    (hstate : exchanging state = false) : c.bleState ≠ state := by
  rintro rfl
  rcases p with _ | ρ
  · rw [show c.bleState = _ from h] at hstate
    cases hstate
  · obtain ⟨h | h, -⟩ := h
    · rw [h] at hstate
      cases ρ <;> cases hstate
    · rw [h] at hstate
      cases ρ <;> cases hstate

/-- In particular it does not scan. -/
theorem Stage.not_scanning (h : Stage robotFile reply c p) :
    ¬ (c.bleState = .scanning ∨ c.bleState = .stoppingForConnect) := by
  rintro (hstate | hstate)
  · exact h.ne rfl hstate
  · exact h.ne rfl hstate

/-- The stage depends on the state and on what is kept of file and reply. -/
theorem Stage.congr (h : Stage robotFile reply c p) (hstate : d.bleState = c.bleState)
    (hrobot : d.robotOffset = c.robotOffset ∧ d.robotSequence = c.robotSequence ∧
      d.robotCrc = c.robotCrc)
    (hreply : d.replyLength = c.replyLength ∧ d.replyCrc = c.replyCrc ∧
      d.replyOffset = c.replyOffset ∧ d.replySequence = c.replySequence ∧
      d.replyFile = c.replyFile) : Stage robotFile reply d p := by
  rcases p with _ | ρ
  · exact hstate.trans h
  · refine ⟨?_, h.2.congr hrobot hreply⟩
    rw [hstate]
    exact h.1

/-- A client that leaves the exchange unverified. -/
theorem Outcome.of_leaves (hunverified : c.payloadVerified = false) (h : Leaves names c d) :
    Outcome names robotFile reply Heard p env c d :=
  .ends h.left (fun _ => h.adds) (fun _ => h.reply) fun hd => by
    rw [h.verified hd] at hunverified
    cases hunverified

/-- A transfer that fails is one of the outcomes. -/
theorem Engaged.fails (h : Engaged names robotFile reply Heard p c) (reason : String) :
    Outcome names robotFile reply Heard p env c (transferFailed env reason c) :=
  .of_leaves h.unverified (leaves_transferFailed names env reason h.stage.not_scanning)

/-- A client that stays where it is is one of the outcomes. -/
theorem Engaged.stays (h : Engaged names robotFile reply Heard p c) :
    Outcome names robotFile reply Heard p env c c := .stays h (.of_eq rfl)

/-! ## Writing the next request -/

/-- **The next request** goes out, unless BTstack refuses it; `d` is the client that has taken what
led to it. -/
theorem outcome_writePacket {ρ : Round} {packet : Bytes} {state : BleState}
    (hnext : follow robotFile reply p = some ρ) (hpacket : packet = ρ.request robotFile)
    (hstate : state = ρ.writing) (hadds : Adds names [] c d)
    (hhandle : d.connectionHandle = some names.robotCon)
    (hvalue : d.valueHandle = names.valueHandle)
    (hkept : ClientAt robotFile reply d ρ) (hunverified : d.payloadVerified = false)
    (hparked : d.pendingLength ≠ 0 → Heard (d.pendingNotification.prefixOf d.pendingLength)) :
    Outcome names robotFile reply Heard p env c (writePacket env packet state d) := by
  subst hpacket hstate
  have hrequest : (d.txPacket.write 0 (ρ.request robotFile)).prefixOf (ρ.request robotFile).length =
      ρ.request robotFile := Buffer.prefixOf_write_zero _ (length_request_le ρ)
  have hcomplete : p ≠ some .complete := by
    rintro rfl
    cases hnext
  unfold writePacket
  simp only
  split
  · rename_i hrefused
    have hfail := leaves_transferFailed names env "could not start GATT write"
      (c := (Client.setState env ρ.writing
        { d with txPacket := d.txPacket.write 0 (ρ.request robotFile) }).call
          (.write d.connectionHandle d.valueHandle
            ((d.txPacket.write 0 (ρ.request robotFile)).prefixOf (ρ.request robotFile).length)))
      (show ¬ (ρ.writing = .scanning ∨ ρ.writing = .stoppingForConnect) by
        cases ρ <;> simp [Round.writing])
    refine .ends hfail.left (fun h => absurd h hrefused) (fun h => absurd h hcomplete) ?_
    intro h
    rw [show d.payloadVerified = true from hfail.verified h] at hunverified
    cases hunverified
  · rename_i hwrite
    refine .advances hnext (not_not.mp hwrite)
      ⟨hhandle, hvalue, ⟨.inl rfl, ?_⟩, hunverified, hparked⟩
      (hadds.trans ⟨[.write d.connectionHandle d.valueHandle (ρ.request robotFile)], ?_, ?_⟩)
    · exact hkept.congr ⟨rfl, rfl, rfl⟩ ⟨rfl, rfl, rfl, rfl, rfl⟩
    · show d.calls ++ [.write d.connectionHandle d.valueHandle
        ((d.txPacket.write 0 (ρ.request robotFile)).prefixOf (ρ.request robotFile).length)] = _
      rw [hrequest]
    · simp [written, hhandle, hvalue]

/-- The next chunk of the robot's file, or its end. -/
theorem outcome_nextRobotChunk {k : ℕ} (hmax : robotFile.length ≤ 256)
    (hnext : follow robotFile reply p = some (fileRound robotFile k)) (hadds : Adds names [] c d)
    (hhandle : d.connectionHandle = some names.robotCon)
    (hvalue : d.valueHandle = names.valueHandle)
    (hoffset : d.robotOffset = sent robotFile k) (hsequence : d.robotSequence = UInt8.ofNat k)
    (hcrc : d.robotCrc = transferCrc32 robotFile) (hunverified : d.payloadVerified = false)
    (hparked : d.pendingLength ≠ 0 → Heard (d.pendingNotification.prefixOf d.pendingLength)) :
    Outcome names robotFile reply Heard p env c (writeNextRobotChunk robotFile env d) := by
  unfold writeNextRobotChunk
  unfold fileRound at hnext
  by_cases hmore : 17 * k < robotFile.length
  · have hne : d.robotOffset ≠ robotFile.length := by
      rw [hoffset, sent_of_lt hmore]
      omega
    have hlength : robotChunkLength robotFile d = (chunk robotFile k).length := by
      rw [robotChunkLength, hoffset, sent_of_lt hmore, length_chunk, transferDataBytes]
      omega
    have hchunk : robotChunk robotFile d = chunk robotFile k := by
      rw [robotChunk, hlength, length_chunk, hoffset, sent_of_lt hmore, chunk,
        List.take_eq_take_iff, List.length_drop]
      omega
    have hafter : (d.robotOffset + robotChunkLength robotFile d) % 512 =
        sent robotFile (k + 1) := by
      rw [hlength, hoffset, sent_succ]
      have : sent robotFile (k + 1) ≤ robotFile.length := Nat.min_le_left _ _
      exact Nat.mod_eq_of_lt (by omega)
    rw [if_pos hmore] at hnext
    rw [if_neg hne, hchunk, hafter, hlength]
    refine outcome_writePacket hnext ?_ rfl hadds hhandle hvalue ⟨rfl, ?_, hcrc⟩ hunverified hparked
    · rw [hsequence]
      rfl
    · show d.robotSequence + 1 = _
      rw [hsequence, UInt8.ofNat_add]
      rfl
  · have heq : d.robotOffset = robotFile.length := by rw [hoffset, sent_of_not_lt hmore]
    rw [if_neg hmore] at hnext
    rw [if_pos heq]
    exact outcome_writePacket hnext rfl rfl hadds hhandle hvalue hcrc hunverified hparked

/-! ## Answers -/

/-- The round whose answer the client waits for. -/
theorem Stage.round {ρ : Round} (h : Stage robotFile reply c p) (hstate : c.bleState = ρ.waiting)
    (hwaits : writingState ρ.waiting = false) :
    ∃ ρ', p = some ρ' ∧ ρ'.waiting = ρ.waiting ∧ ClientAt robotFile reply c ρ' := by
  rcases p with _ | ρ'
  · have hnone : c.bleState = .enableNotifications := h
    rw [hnone] at hstate
    cases ρ <;> cases hstate
  · refine ⟨ρ', rfl, ?_, h.2⟩
    rcases h.1 with h | h
    · rw [← hstate, h] at hwaits
      cases ρ' <;> cases hwaits
    · rw [← h, hstate]

/-- An accepted value is in the log, but it is not a write. -/
theorem Adds.accepted (v : Bytes) : Adds names [] c (c.call (.accepted v)) := .call rfl rfl

section Hears

variable (h : Engaged names robotFile reply Heard p c) {v : Bytes}
include h

/-- `MSG_HELLO_ACK` takes the client to the next round, or nowhere. -/
theorem hears_helloAck : Outcome names robotFile reply Heard p env c
    (receiveHelloAck robotFile env v c) := by
  unfold receiveHelloAck
  split_ifs with hstate hvalid
  · exact h.stays
  · exact h.fails _
  · obtain ⟨ρ, rfl, hρ, -⟩ := h.stage.round (ρ := .hello) (not_not.mp hstate) rfl
    cases ρ <;> cases hρ
    exact outcome_writePacket rfl rfl rfl (.accepted v) h.handle h.value ⟨rfl, rfl, rfl⟩
      h.unverified h.parked

/-- `MSG_FILE_READY` takes the client to the next round, or nowhere. -/
theorem hears_fileReady (hmax : robotFile.length ≤ 256) :
    Outcome names robotFile reply Heard p env c (receiveFileReady robotFile env v c) := by
  unfold receiveFileReady
  split_ifs with hstate hvalid
  · exact h.stays
  · exact h.fails _
  · obtain ⟨ρ, rfl, hρ, hkept⟩ := h.stage.round (ρ := .fileStart) (not_not.mp hstate) rfl
    cases ρ <;> cases hρ
    obtain ⟨hoffset, hsequence, hcrc⟩ := hkept
    refine outcome_nextRobotChunk (k := 0) hmax rfl (.accepted v) h.handle h.value ?_ hsequence hcrc
      h.unverified h.parked
    rw [sent_zero]
    exact hoffset

/-- `MSG_FILE_RECEIVED` takes the client to the next round, or nowhere. -/
theorem hears_fileReceived : Outcome names robotFile reply Heard p env c
    (receiveFileReceived env v c) := by
  unfold receiveFileReceived
  split_ifs with hstate hvalid
  · exact h.stays
  · exact h.fails _
  · obtain ⟨ρ, rfl, hρ, -⟩ := h.stage.round (ρ := .fileEnd) (not_not.mp hstate) rfl
    cases ρ <;> cases hρ
    exact outcome_writePacket rfl rfl rfl (.accepted v) h.handle h.value trivial
      h.unverified h.parked

/-- `MSG_REPLY_START` with the announcement of the reply takes it to the next round, or nowhere. -/
theorem hears_replyStart (hreply : reply.length ≤ 256)
    (hv : v = MessageType.replyStart.code ::
      (transferWriteU16 (UInt16.ofNat reply.length) ++ transferWriteU32 (transferCrc32 reply))) :
    Outcome names robotFile reply Heard p env c (receiveReplyStart env v c) := by
  have hannounced : (transferReadU16 v 1).toNat = reply.length := by
    have hread := transferReadU16_write [MessageType.replyStart.code]
      (transferWriteU32 (transferCrc32 reply)) (UInt16.ofNat reply.length)
    rw [List.singleton_append, ← hv] at hread
    rw [show transferReadU16 v 1 = _ from hread, UInt16.toNat_ofNat']
    omega
  have hcrc : transferReadU32 v 3 = transferCrc32 reply := by
    have hread := transferReadU32_write (MessageType.replyStart.code ::
      transferWriteU16 (UInt16.ofNat reply.length)) [] (transferCrc32 reply)
    rw [List.append_nil, List.cons_append, ← hv] at hread
    exact hread
  unfold receiveReplyStart
  simp only
  split_ifs with hstate hlen hrange
  · exact h.stays
  · exact h.fails _
  · exact h.fails _
  · obtain ⟨ρ, rfl, hρ, -⟩ := h.stage.round (ρ := .replyRequest) (not_not.mp hstate) rfl
    cases ρ <;> cases hρ
    rw [hannounced, hcrc, Nat.mod_eq_of_lt (by omega)]
    refine outcome_writePacket rfl rfl rfl (.accepted v) h.handle h.value ⟨rfl, rfl, ?_, rfl, ?_⟩
      h.unverified h.parked
    · rw [sent_zero]
    · rw [sent_zero]
      exact Buffer.prefixOf_zero _

/-- A chunk of the reply is taken only if its number is the next one. -/
theorem hears_replyData {k : ℕ} (hreply : reply.length ≤ 256) (hmore : 17 * k < reply.length)
    (hv : v = chunkPacket .replyData reply k)
    (hrounds : ∀ k', p = some (.replyNext k') → 17 * k' < reply.length + 17) :
    Outcome names robotFile reply Heard p env c (receiveReplyData env v c) := by
  have hchunkLen := length_chunk reply k
  have hdrop : v.drop 3 = chunk reply k := by rw [hv]; rfl
  have hstated : (byteAt v 2).toNat = (chunk reply k).length := by
    rw [hv]
    exact toNat_length_chunk reply k
  unfold receiveReplyData
  split_ifs with hstate hlen hfits
  · exact h.stays
  · exact h.fails _
  · obtain ⟨ρ, rfl, hρ, hkept⟩ := h.stage.round (ρ := .replyNext k) (not_not.mp hstate) rfl
    cases ρ <;> cases hρ
    rename_i k'
    obtain ⟨hlength, hcrc, hoffset, hsequence, hpre⟩ := hkept
    have hk' := hrounds k' rfl
    -- the number of the chunk is the number the client expects
    have hnumber : k = k' := by
      rw [replyDataFits, decide_eq_true_eq] at hfits
      have hbyte := hfits.1
      rw [hsequence, hv] at hbyte
      have := congrArg UInt8.toNat (show UInt8.ofNat k = UInt8.ofNat k' from hbyte)
      rw [UInt8.toNat_ofNat', UInt8.toNat_ofNat'] at this
      omega
    subst hnumber
    have hsent : sent reply k + (chunk reply k).length = sent reply (k + 1) := sent_succ reply k
    have hle : sent reply (k + 1) ≤ reply.length := Nat.min_le_left _ _
    rw [hdrop, hstated, hoffset, hsent, Nat.mod_eq_of_lt (by omega), hsequence]
    refine outcome_writePacket (ρ := .replyNext (k + 1)) ?_ rfl rfl (.accepted v) h.handle h.value
      ⟨hlength, hcrc, rfl, ?_, ?_⟩ h.unverified h.parked
    · rw [follow, Round.next, if_pos hmore]
    · show UInt8.ofNat k + 1 = _
      rw [UInt8.ofNat_add]
      rfl
    · show (c.replyFile.write (sent reply k) (chunk reply k)).prefixOf (sent reply (k + 1)) = _
      rw [← hsent, Buffer.prefixOf_write, hpre, take_sent_succ hmore, hsent]
      unfold Buffer.Fits
      omega
  · exact h.fails _

/-- The end of the reply is taken only behind its last chunk. -/
theorem hears_replyEnd : Outcome names robotFile reply Heard p env c (receiveReplyEnd env v c) := by
  unfold receiveReplyEnd
  split_ifs with hstate hverified
  · exact h.stays
  · obtain ⟨ρ, rfl, hρ, hkept⟩ := h.stage.round (ρ := .replyNext 0) (not_not.mp hstate) rfl
    cases ρ <;> cases hρ
    rename_i k
    obtain ⟨hlength, hcrc, hoffset, hsequence, hpre⟩ := hkept
    rw [replyVerified, decide_eq_true_eq] at hverified
    have hall : sent reply k = reply.length := by rw [← hoffset, ← hlength, hverified.2.1]
    have hlast : ¬ 17 * k < reply.length := by
      intro hmore
      rw [sent_of_lt hmore] at hall
      omega
    rw [hall, List.take_length] at hpre
    refine outcome_writePacket (ρ := .complete) ?_ rfl rfl (.accepted v) h.handle h.value
      ⟨hlength, hpre⟩ h.unverified h.parked
    rw [follow, Round.next, if_neg hlast]
  · exact h.fails _

/-- The final acknowledgement. -/
theorem hears_completeAck (hv : v = completeAck) (hheard : Heard v) :
    Outcome names robotFile reply Heard p env c (receiveCompleteAck env v c) := by
  unfold receiveCompleteAck
  split_ifs with hstate hvalid
  · exact h.stays
  · exact h.fails _
  · obtain ⟨ρ, rfl, hρ, -⟩ := h.stage.round (ρ := .complete) (not_not.mp hstate) rfl
    cases ρ <;> cases hρ
    have hclose := leaves_closeAttempt names env .complete
      (c := { c.call (.accepted v) with
        payloadVerified := true, faults := c.faults.clear .payload }) h.stage.not_scanning
    refine .ends hclose.left (fun _ => ?_) (fun _ => hclose.reply) fun _ => ⟨rfl, hv ▸ hheard⟩
    have haccepted : Adds names [] c (c.call (.accepted v)) := .accepted v
    exact haccepted.trans hclose.adds

end Hears

/-! ## Packets -/

/-- What a client did that differs from `c` in nothing that matters here. -/
theorem Outcome.congr (h : Outcome names robotFile reply Heard p env c d)
    (hcalls : c.calls = e.calls)
    (hreply : c.replyLength = e.replyLength ∧ c.replyFile = e.replyFile) :
    Outcome names robotFile reply Heard p env e d := by
  have hadds {values : List Bytes} (h : Adds names values c d) : Adds names values e d := by
    unfold Adds
    rw [← hcalls]
    exact h
  cases h with
  | stays h hd => exact .stays h (hadds hd)
  | advances hnext hwrite h hd => exact .advances hnext hwrite h (hadds hd)
  | ends hleft hd hkept hverified =>
    exact .ends hleft (fun hw => hadds (hd hw))
      (fun hp => ⟨(hkept hp).1.trans hreply.1, (hkept hp).2.trans hreply.2⟩) hverified

/-- A genuine answer fits a packet, and it does not report an error. -/
theorem Genuine.packet {v : Bytes} (h : Genuine robotFile reply v) :
    ∃ (type : MessageType) (rest : Bytes),
      v = type.code :: rest ∧ type ≠ .error ∧ v.length ≤ 20 := by
  obtain ⟨ρ, -, hanswer⟩ := h
  cases ρ with
  | fileData k => cases hanswer
  | replyNext k =>
    rw [Round.answer] at hanswer
    split at hanswer
    · cases hanswer
      have := length_chunk reply k
      refine ⟨.replyData, _, rfl, by decide, ?_⟩
      simp only [chunkPacket, List.length_cons]
      omega
    · cases hanswer
      exact ⟨.replyEnd, _, rfl, by decide, by simp [transferWriteU32]⟩
  | hello => cases hanswer; exact ⟨.helloAck, _, rfl, by decide, by simp⟩
  | fileStart => cases hanswer; exact ⟨.fileReady, _, rfl, by decide, by simp⟩
  | fileEnd => cases hanswer; exact ⟨.fileReceived, _, rfl, by decide, by simp [transferWriteU32]⟩
  | replyRequest =>
    cases hanswer
    exact ⟨.replyStart, _, rfl, by decide, by simp [transferWriteU16, transferWriteU32]⟩
  | complete => cases hanswer; exact ⟨.completeAck, _, rfl, by decide, by simp⟩

section Packets

variable (hmax : robotFile.length ≤ 256) (hreply : reply.length ≤ 256)
  (hvalid : ∀ ρ, p = some ρ → ρ.Valid robotFile reply)
  (hgenuine : ∀ v, Heard v → Genuine robotFile reply v)
include hmax hreply hvalid hgenuine

/-- **A genuine answer**, perhaps one that is late or was heard before. -/
theorem outcome_notification {v : Bytes} (h : Engaged names robotFile reply Heard p c)
    (hheard : Heard v) :
    Outcome names robotFile reply Heard p env c (handleNotification robotFile env v c) := by
  obtain ⟨type, rest, hv, herror, hlen⟩ := (hgenuine v hheard).packet
  have hclosing : c.bleState ≠ .closing := h.stage.ne rfl
  have hidle : c.bleState ≠ .idle := h.stage.ne rfl
  cases hwriting : writingState c.bleState with
  | true =>
    have hcode : byteAt v 0 ≠ MessageType.error.code := by
      rw [hv]
      intro heq
      have hsame := congrArg MessageType.ofCode? (show type.code = MessageType.error.code from heq)
      rw [MessageType.ofCode?_code, MessageType.ofCode?_code] at hsame
      exact herror (Option.some.inj hsame)
    unfold handleNotification
    rw [if_neg (by simp [hv, hclosing, hidle]), if_neg hcode, if_pos hwriting]
    split
    · exact h.fails _
    · refine .stays ⟨h.handle, h.value, ?_, h.unverified, fun _ => ?_⟩ (.of_eq rfl)
      · exact h.stage.congr rfl ⟨rfl, rfl, rfl⟩ ⟨rfl, rfl, rfl, rfl, rfl⟩
      · show Heard ((c.pendingNotification.write 0 v).prefixOf (v.length % 32))
        rw [Nat.mod_eq_of_lt (by omega), Buffer.prefixOf_write_zero _ hlen]
        exact hheard
  | false =>
    obtain ⟨ρ, hρ, hanswer⟩ := hgenuine v hheard
    cases ρ with
    | hello =>
      cases hanswer
      rw [handleNotification_waiting .helloAck _ (by decide) ⟨hclosing, hidle, hwriting⟩]
      exact hears_helloAck h
    | fileStart =>
      cases hanswer
      rw [handleNotification_waiting .fileReady _ (by decide) ⟨hclosing, hidle, hwriting⟩]
      exact hears_fileReady h hmax
    | fileData k => cases hanswer
    | fileEnd =>
      cases hanswer
      rw [handleNotification_waiting .fileReceived _ (by decide) ⟨hclosing, hidle, hwriting⟩]
      exact hears_fileReceived h
    | replyRequest =>
      cases hanswer
      rw [handleNotification_waiting .replyStart _ (by decide) ⟨hclosing, hidle, hwriting⟩]
      exact hears_replyStart h hreply rfl
    | replyNext k =>
      rw [Round.answer] at hanswer
      split at hanswer
      · rename_i hmore
        cases hanswer
        rw [chunkPacket,
          handleNotification_waiting .replyData _ (by decide) ⟨hclosing, hidle, hwriting⟩]
        exact hears_replyData h hreply hmore rfl fun k' hk' => hvalid _ hk'
      · cases hanswer
        rw [handleNotification_waiting .replyEnd _ (by decide) ⟨hclosing, hidle, hwriting⟩]
        exact hears_replyEnd h
    | complete =>
      cases hanswer
      rw [handleNotification_waiting .completeAck _ (by decide) ⟨hclosing, hidle, hwriting⟩]
      exact hears_completeAck h rfl hheard

/-- A write has completed: the client waits, and takes what was parked. -/
theorem outcome_wait {ρ : Round} (h : Engaged names robotFile reply Heard (some ρ) c)
    (hp : p = some ρ) : Outcome names robotFile reply Heard p env c
      (replayPending robotFile env (c.setState env ρ.waiting)) := by
  subst hp
  have hkept : ClientAt robotFile reply (c.setState env ρ.waiting) ρ :=
    h.stage.2.congr ⟨rfl, rfl, rfl⟩ ⟨rfl, rfl, rfl, rfl, rfl⟩
  unfold replayPending
  split
  · rename_i hpending
    have hwaits : Engaged names robotFile reply Heard (some ρ)
        { c.setState env ρ.waiting with pendingLength := 0 } :=
      ⟨h.handle, h.value, ⟨.inr rfl, hkept.congr ⟨rfl, rfl, rfl⟩ ⟨rfl, rfl, rfl, rfl, rfl⟩⟩,
        h.unverified, fun hzero => absurd rfl hzero⟩
    exact (outcome_notification hmax hreply hvalid hgenuine hwaits (h.parked hpending.1)).congr
      rfl ⟨rfl, rfl⟩
  · exact .stays ⟨h.handle, h.value, ⟨.inr rfl, hkept⟩, h.unverified, h.parked⟩ (.of_eq rfl)

/-- **A completion**, whether its write is under way or not. -/
theorem outcome_queryCompleted (h : Engaged names robotFile reply Heard p c) :
    Outcome names robotFile reply Heard p env c (queryCompleted robotFile env c) := by
  have hstage := h.stage
  rcases p with _ | ρ
  · have hstate : c.bleState = .enableNotifications := hstage
    unfold queryCompleted
    simp only [hstate]
    rw [replayPending_writePacket robotFile env _ c rfl]
    exact outcome_writePacket rfl rfl rfl (.of_eq rfl) h.handle h.value trivial h.unverified
      h.parked
  by_cases hwriting : c.bleState = ρ.writing
  · have hwait : Outcome names robotFile reply Heard (some ρ) env c
        (replayPending robotFile env (c.setState env ρ.waiting)) :=
      outcome_wait hmax hreply hvalid hgenuine h rfl
    unfold queryCompleted
    cases ρ with
    | fileData k =>
      have hstate : c.bleState = .writeFileData := hwriting
      obtain ⟨hoffset, hsequence, hcrc⟩ := hstage.2
      simp only [hstate]
      rw [replayPending_writeNextRobotChunk]
      exact outcome_nextRobotChunk hmax rfl (.of_eq rfl) h.handle h.value hoffset hsequence hcrc
        h.unverified h.parked
    | hello => simp only [hwriting, Round.writing]; exact hwait
    | fileStart => simp only [hwriting, Round.writing]; exact hwait
    | fileEnd => simp only [hwriting, Round.writing]; exact hwait
    | replyRequest => simp only [hwriting, Round.writing]; exact hwait
    | replyNext k => simp only [hwriting, Round.writing]; exact hwait
    | complete => simp only [hwriting, Round.writing]; exact hwait
  · have hwaiting : c.bleState = ρ.waiting := hstage.1.resolve_left hwriting
    have hsame : queryCompleted robotFile env c = c := by
      unfold queryCompleted
      cases ρ <;> simp_all [Round.waiting, Round.writing]
    rw [hsame]
    exact h.stays

/-- What `gatt_handler` is given: for a value of the transfer characteristic it was heard. -/
theorem outcome_gattHandler {event : PayloadClient.Event}
    (h : Engaged names robotFile reply Heard p c)
    (hevent : ∀ v, event = .notification names.robotCon names.valueHandle v → Heard v) :
    Outcome names robotFile reply Heard p env c (gattHandler robotFile env event c) := by
  unfold gattHandler
  split_ifs
  · exact h.stays
  · cases event with
    | notification con handle v =>
      simp only
      split_ifs with hours
      · obtain ⟨hcon, hhandle⟩ := hours
        rw [h.handle, Option.some.injEq] at hcon
        exact outcome_notification hmax hreply hvalid hgenuine h
          (hevent v (by rw [hcon, ← hhandle, h.value]))
      · exact h.stays
    | serviceQueryResult con =>
      simp only
      split_ifs with hours
      · exact absurd hours.1 (h.stage.ne rfl)
      · exact h.stays
    | characteristicQueryResult con handle =>
      simp only
      split_ifs with hours
      · exact absurd hours.1 (h.stage.ne rfl)
      · exact h.stays
    | queryComplete con status =>
      simp only
      split_ifs
      · exact h.stays
      · exact h.fails _
      · exact outcome_queryCompleted hmax hreply hvalid hgenuine h
    | stackState working => exact h.stays
    | commandComplete scanEnable status => exact h.stays
    | advertisingReport report => exact h.stays
    | connectionComplete status con => exact h.stays
    | disconnectionComplete con => exact h.stays

end Packets

/-- A scan command completes while there is no scan. -/
theorem scanEnableComplete_cases {status : UInt8} (hscanning : c.bleState ≠ .scanning)
    (hstopping : c.bleState ≠ .stoppingForConnect) (hstop : c.bleState ≠ .stoppingScan) :
    scanEnableComplete env status c = c ∨ Leaves names c (scanEnableComplete env status c) := by
  unfold scanEnableComplete
  split
  · have hend := leaves_finishAttempt names env
      { c with faults := c.faults.raise .bleRadio, closingResult := .fatal }
    exact .inr ⟨hend.left, hend.adds, hend.reply, hend.verified⟩
  · split
    · rename_i hstate
      exact absurd hstate hscanning
    · rename_i hstate
      exact absurd hstate hstopping
    · rename_i hstate
      exact absurd hstate hstop
    · exact .inl rfl

/-- The end of a link, which ends the attempt if the link was the client's. -/
theorem disconnectionComplete_cases (con : ConHandle) :
    disconnectionComplete env con c = c ∨ Leaves names c (disconnectionComplete env con c) := by
  unfold disconnectionComplete
  split
  · exact .inl rfl
  right
  simp only
  split
  · have hend := leaves_finishAttempt names env
      { c with
        connectionHandle := none
        faults := c.faults.raise .payload
        payloadVerified := false
        closingResult := if c.closeConfirmed then .retry else .notClose }
    exact ⟨hend.left, hend.adds, hend.reply, fun hd => absurd (hend.verified hd) (by simp)⟩
  · have hend := leaves_finishAttempt names env { c with connectionHandle := none }
    exact ⟨hend.left, hend.adds, hend.reply, hend.verified⟩

/-- A client that does nothing, or leaves the exchange unverified. -/
theorem Engaged.staysOr (h : Engaged names robotFile reply Heard p c)
    (hd : d = c ∨ Leaves names c d) : Outcome names robotFile reply Heard p env c d := by
  rcases hd with rfl | hd
  · exact h.stays
  · exact .of_leaves h.unverified hd

/-- What `hci_handler` is given. -/
theorem outcome_hciHandler {event : PayloadClient.Event}
    (h : Engaged names robotFile reply Heard p c) :
    Outcome names robotFile reply Heard p env c (hciHandler env event c) := by
  cases event with
  | stackState working =>
    refine .stays ⟨h.handle, h.value, ?_, h.unverified, h.parked⟩ (.of_eq rfl)
    exact h.stage.congr rfl ⟨rfl, rfl, rfl⟩ ⟨rfl, rfl, rfl, rfl, rfl⟩
  | commandComplete scanEnable status =>
    unfold hciHandler
    simp only
    split
    · exact h.staysOr (scanEnableComplete_cases (h.stage.ne rfl) (h.stage.ne rfl) (h.stage.ne rfl))
    · exact h.stays
  | advertisingReport report =>
    unfold hciHandler
    simp only
    rw [if_neg (h.stage.ne rfl)]
    exact h.stays
  | connectionComplete status con =>
    unfold hciHandler connectionComplete
    simp only
    rw [if_pos ⟨h.stage.ne rfl, h.stage.ne rfl⟩]
    exact h.stays
  | disconnectionComplete con => exact h.staysOr (disconnectionComplete_cases con)
  | notification con handle v => exact h.stays
  | serviceQueryResult con => exact h.stays
  | characteristicQueryResult con handle => exact h.stays
  | queryComplete con status => exact h.stays

/-- **Any packet**, if a value of the transfer characteristic was heard. -/
theorem outcome_handle {event : PayloadClient.Event} (hmax : robotFile.length ≤ 256)
    (hreply : reply.length ≤ 256) (hvalid : ∀ ρ, p = some ρ → ρ.Valid robotFile reply)
    (hgenuine : ∀ v, Heard v → Genuine robotFile reply v)
    (h : Engaged names robotFile reply Heard p c)
    (hevent : ∀ v, event = .notification names.robotCon names.valueHandle v → Heard v) :
    Outcome names robotFile reply Heard p env c (handle robotFile env event c) := by
  unfold handle
  split
  · exact outcome_gattHandler hmax hreply hvalid hgenuine h hevent
  · exact outcome_gattHandler hmax hreply hvalid hgenuine h hevent
  · exact outcome_gattHandler hmax hreply hvalid hgenuine h hevent
  · exact outcome_gattHandler hmax hreply hvalid hgenuine h hevent
  · exact outcome_hciHandler h

/-- The abort callback does nothing, or closes the attempt. -/
theorem abortAttemptCallback_cases (hscan : ¬ (c.bleState = .scanning ∨
    c.bleState = .stoppingForConnect)) :
    abortAttemptCallback env c = c ∨ Leaves names c (abortAttemptCallback env c) := by
  unfold abortAttemptCallback
  split
  · exact .inl rfl
  obtain ⟨faults, hpolls⟩ := abortPolls_eq env c
  right
  show Leaves names c (closeAttempt env _ (abortPolls env c))
  rw [hpolls]
  have hclose {r : PayloadResult} : Leaves names { c with faults := faults }
      (closeAttempt env r { c with faults := faults }) :=
    leaves_closeAttempt names env r hscan
  exact ⟨hclose.left, hclose.adds, hclose.reply, hclose.verified⟩

/-- The abort of the attempt. -/
theorem outcome_abort (h : Engaged names robotFile reply Heard p c) :
    Outcome names robotFile reply Heard p env c (abortAttemptCallback env c) := by
  exact h.staysOr (abortAttemptCallback_cases h.stage.not_scanning)

/-! ## A client that has left -/

/-- A client that has left the exchange stays out of it. -/
theorem Left.leaves (h : Left c) : Leaves names c c := ⟨h, .of_eq rfl, ⟨rfl, rfl⟩, id⟩

/-- A client that has left stays out, whether it changes nothing or leaves again. -/
theorem Left.staysOr (h : Left c) (hd : d = c ∨ Leaves names c d) : Leaves names c d := by
  rcases hd with rfl | hd
  · exact h.leaves
  · exact hd

/-- A client that has left is in none of the states before. -/
theorem Left.ne (h : Left c) (state : BleState) (hclosing : state ≠ .closing)
    (hidle : state ≠ .idle) : c.bleState ≠ state := by
  rintro rfl
  exact h.elim hclosing hidle

/-- **It stays away**, whatever it is given. -/
theorem Left.handle {event : PayloadClient.Event} (h : Left c) :
    Leaves names c (handle robotFile env event c) := by
  have hgatt (event : PayloadClient.Event) : gattHandler robotFile env event c = c := by
    unfold gattHandler
    rw [if_pos]
    exact .inr h
  unfold PayloadClient.handle
  cases event with
  | stackState working => exact ⟨h, .of_eq rfl, ⟨rfl, rfl⟩, id⟩
  | commandComplete scanEnable status =>
    unfold hciHandler
    simp only
    split
    · exact h.staysOr (scanEnableComplete_cases (h.ne .scanning nofun nofun)
        (h.ne .stoppingForConnect nofun nofun) (h.ne .stoppingScan nofun nofun))
    · exact h.leaves
  | advertisingReport report =>
    unfold hciHandler
    simp only
    rw [if_neg (h.ne .scanning nofun nofun)]
    exact h.leaves
  | connectionComplete status con =>
    unfold hciHandler connectionComplete
    simp only
    split_ifs with hstate hstatus hclosing hlate
    · exact h.leaves
    · have hend := leaves_finishAttempt names env { c with connectionHandle := none }
      exact ⟨hend.left, hend.adds, hend.reply, hend.verified⟩
    · rcases h with h | h
      · exact absurd h hclosing
      · exact absurd ⟨by rw [h]; nofun, by rw [h]; nofun⟩ hstate
    · exact ⟨.inl rfl, .call rfl rfl, ⟨rfl, rfl⟩, id⟩
    · rcases h with h | h
      · exact absurd (.inr h) hlate
      · exact absurd ⟨by rw [h]; nofun, by rw [h]; nofun⟩ hstate
    · rcases h with h | h
      · exact absurd (.inr h) hlate
      · exact absurd ⟨by rw [h]; nofun, by rw [h]; nofun⟩ hstate
  | disconnectionComplete con => exact h.staysOr (disconnectionComplete_cases con)
  | notification con handle v =>
    show Leaves names c (gattHandler robotFile env _ c)
    rw [hgatt]
    exact h.leaves
  | serviceQueryResult con =>
    show Leaves names c (gattHandler robotFile env _ c)
    rw [hgatt]
    exact h.leaves
  | characteristicQueryResult con handle =>
    show Leaves names c (gattHandler robotFile env _ c)
    rw [hgatt]
    exact h.leaves
  | queryComplete con status =>
    show Leaves names c (gattHandler robotFile env _ c)
    rw [hgatt]
    exact h.leaves

/-- An abort does not bring a client back. -/
theorem Left.abort (h : Left c) : Leaves names c (abortAttemptCallback env c) := by
  have hscan : ¬ (c.bleState = .scanning ∨ c.bleState = .stoppingForConnect) := by
    rcases h with h | h <;> simp [h]
  exact h.staysOr (abortAttemptCallback_cases hscan)

end LossyLink
