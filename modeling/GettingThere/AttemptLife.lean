/-
# The life of an attempt

What decides how an attempt ends is a small part of the client's state: the phase it is in,
the result it will report, and a few flags.  `Life` is that part.  Its operations say in
its own terms what ending, closing and failing an attempt mean; every function of
`PayloadClient` is shown to act on the projection `Client.life` by one of them, and
`LifeStep` lists all that a packet can do.
-/
import GettingThere.PayloadClient

namespace PayloadClient

open TransferProtocol

/-! ## Phases -/

/-- The part of an attempt a BLE state belongs to. -/
inductive Phase
  | idle
  | starting
  | scanning
  | stoppingForConnect
  | connecting
  | connected
  | stoppingScan
  | closing
  deriving DecidableEq, Repr

/-- The phase of a BLE state; from service discovery on it is the connected one. -/
def BleState.phase : BleState → Phase
  | .idle => .idle
  | .starting => .starting
  | .scanning => .scanning
  | .stoppingForConnect => .stoppingForConnect
  | .connecting => .connecting
  | .stoppingScan => .stoppingScan
  | .closing => .closing
  | _ => .connected

/-- The part of the client an attempt's end depends on. -/
structure Life where
  phase : Phase
  closing : PayloadResult
  result : PayloadResult
  running : Bool
  abort : Bool
  confirmed : Bool
  scanConfirmed : Bool
  reconnect : Bool
  linked : Bool
  faults : Faults

/-- The life of a client. -/
def Client.life (c : Client) : Life where
  phase := c.bleState.phase
  closing := c.closingResult
  result := c.result
  running := c.attemptRunning
  abort := c.abortRequested
  confirmed := c.closeConfirmed
  scanConfirmed := c.scanConfirmed
  reconnect := c.reconnectRequested
  linked := c.connectionHandle.isSome
  faults := c.faults

namespace Life

/-! ## Ending an attempt -/

/-- The attempt is over and reports what closing it has stored. -/
def finish (l : Life) : Life :=
  { l with phase := .idle, linked := false, result := l.closing, running := false }

/-- The attempt is over and reports `PAYLOAD_FATAL`. -/
def die (l : Life) : Life := finish { l with closing := .fatal }

/-- The attempt is to report `r` once the radio is quiet; `refused` says that BTstack does
not take the disconnect. -/
def close (refused : Bool) (r : PayloadResult) (l : Life) : Life :=
  match l.phase with
  | .scanning | .stoppingForConnect =>
    if l.scanConfirmed then { l with phase := .stoppingScan, closing := r } else l.die
  | .connecting =>
    { l with phase := .closing, closing := if l.linked && refused then .fatal else r }
  | _ =>
    if l.linked then { l with phase := .closing, closing := if refused then .fatal else r }
    else finish { l with closing := r }

/-- Closing without a link, outside the phases that use the radio. -/
theorem close_unlinked {l : Life} (refused : Bool) (r : PayloadResult) (hlinked : l.linked = false)
    (hscanning : l.phase ≠ .scanning) (hstopping : l.phase ≠ .stoppingForConnect)
    (hconnecting : l.phase ≠ .connecting) : l.close refused r = finish { l with closing := r } := by
  unfold close
  split <;> simp_all

/-- Closing while a connection is being set up. -/
theorem close_connecting {l : Life} (refused : Bool) (r : PayloadResult)
    (hlinked : l.linked = false) (hconnecting : l.phase = .connecting) :
    l.close refused r = { l with phase := .closing, closing := r } := by
  simp [close, hconnecting, hlinked]

/-- Closing a link. -/
theorem close_linked {l : Life} (refused : Bool) (r : PayloadResult) (hlinked : l.linked = true)
    (hscanning : l.phase ≠ .scanning) (hstopping : l.phase ≠ .stoppingForConnect) :
    l.close refused r =
      { l with phase := .closing, closing := if refused then .fatal else r } := by
  unfold close
  split <;> simp_all

/-- Closing an attempt does not change whether close range is confirmed. -/
@[simp] theorem close_confirmed (refused : Bool) (r : PayloadResult) (l : Life) :
    (l.close refused r).confirmed = l.confirmed := by
  unfold close
  split <;> split <;> rfl

/-- Closing an attempt leaves `F_RECONNECT_REQUESTED` alone. -/
@[simp] theorem close_reconnect (refused : Bool) (r : PayloadResult) (l : Life) :
    (l.close refused r).reconnect = l.reconnect := by
  unfold close
  split <;> split <;> rfl

/-- Closing never starts an attempt. -/
theorem close_running {l : Life} (refused : Bool) (r : PayloadResult) (h : l.running = false) :
    (l.close refused r).running = false := by
  unfold close
  split <;> split <;> first | exact h | rfl

/-- Closing an attempt raises and clears no fault. -/
@[simp] theorem close_faults (refused : Bool) (r : PayloadResult) (l : Life) :
    (l.close refused r).faults = l.faults := by
  unfold close
  split <;> split <;> rfl

/-- An attempt that is closed is over or ending, and reports at most what was asked for. -/
theorem close_ends (refused : Bool) (r : PayloadResult) (l : Life) :
    ((l.close refused r).phase = .idle ∨ (l.close refused r).phase = .stoppingScan ∨
      (l.close refused r).phase = .closing) ∧
    ((l.close refused r).closing = r ∨ (l.close refused r).closing = .fatal) := by
  unfold close
  split
  · split
    · exact ⟨.inr (.inl rfl), .inl rfl⟩
    · exact ⟨.inl rfl, .inr rfl⟩
  · split
    · exact ⟨.inr (.inl rfl), .inl rfl⟩
    · exact ⟨.inl rfl, .inr rfl⟩
  · refine ⟨.inr (.inr rfl), ?_⟩
    split
    · exact .inr rfl
    · exact .inl rfl
  · split
    · refine ⟨.inr (.inr rfl), ?_⟩
      split
      · exact .inr rfl
      · exact .inl rfl
    · exact ⟨.inl rfl, .inl rfl⟩

/-- What a failure reports: another attempt may follow once close range is confirmed. -/
def failure (l : Life) : PayloadResult := if l.confirmed then .retry else .notClose

/-- The transfer has failed. -/
def fail (refused : Bool) (l : Life) : Life :=
  close refused l.failure { l with faults := l.faults.raise .payload }

/-- The link was lost without being closed. -/
def drop (l : Life) : Life :=
  finish { l with faults := l.faults.raise .payload, closing := l.failure }

/-- The final acknowledgement has arrived. -/
def complete (refused : Bool) (l : Life) : Life :=
  close refused .complete { l with faults := l.faults.clear .payload }

/-- A connection to the qualified address is asked for; `started` says that BTstack takes
the request. -/
def connect (started refused : Bool) (l : Life) : Life :=
  if started then { l with phase := .connecting } else fail refused { l with phase := .idle }

end Life

variable (robotFile : Bytes) (env : Env)

/-- BTstack does not take a disconnect. -/
def Env.refuses (env : Env) : Bool := env.disconnect ≠ 0

/-! ## What the client's functions do to the life -/

/-- Recording a call to BTstack changes no life. -/
@[simp] theorem life_call (x : Call) (c : Client) : (c.call x).life = c.life := rfl

/-- `set_state` changes the phase of a life only. -/
@[simp] theorem life_setState (state : BleState) (c : Client) :
    (Client.setState env state c).life = { c.life with phase := state.phase } := rfl

/-- `finish_attempt` finishes the life. -/
theorem life_finishAttempt (c : Client) : (finishAttempt env c).life = c.life.finish := by
  unfold finishAttempt
  split <;> rfl

/-- The scan branch of `close_attempt` waits for the scan to stop when it was confirmed, and else
ends the attempt as fatal. -/
theorem life_closeScan (c : Client) :
    (closeScan env c).life =
      if c.scanConfirmed then { c.life with phase := .stoppingScan } else c.life.die := by
  have ending (d : Client) (hlife : d.life = { c.life with phase := .stoppingScan })
      (hscan : d.scanConfirmed = c.scanConfirmed) :
      (if d.scanConfirmed then d else finishAttempt env { d with closingResult := .fatal }).life =
        if c.scanConfirmed then { c.life with phase := .stoppingScan } else c.life.die := by
    have hdie : Life.die d.life = c.life.die := by rw [hlife]; rfl
    by_cases h : c.scanConfirmed
    · rw [if_pos h, if_pos (hscan.trans h), hlife]
    · rw [if_neg h, if_neg (by rw [hscan]; exact h), life_finishAttempt]
      exact hdie
  unfold closeScan
  by_cases hstop : c.bleState = .stoppingForConnect
  · simp only [hstop, if_true]
    exact ending _ rfl rfl
  · simp only [hstop]
    exact ending _ rfl rfl

/-- Three of the phases are single states. -/
theorem phase_eq_iff (c : Client) :
    (c.life.phase = .scanning ↔ c.bleState = .scanning) ∧
      (c.life.phase = .stoppingForConnect ↔ c.bleState = .stoppingForConnect) ∧
      (c.life.phase = .connecting ↔ c.bleState = .connecting) := by
  show (c.bleState.phase = _ ↔ _) ∧ (c.bleState.phase = _ ↔ _) ∧ (c.bleState.phase = _ ↔ _)
  cases c.bleState <;> decide

/-- `close_attempt` closes the life. -/
theorem life_closeAttempt (r : PayloadResult) (c : Client) :
    (closeAttempt env r c).life = c.life.close env.refuses r := by
  obtain ⟨hscanning, hstopping, hconnecting⟩ := phase_eq_iff c
  unfold closeAttempt
  simp only
  split
  · rename_i h
    rw [life_closeScan]
    unfold Life.close
    rcases h with h | h
    · rw [hscanning.mpr h]
      rfl
    · rw [hstopping.mpr h]
      rfl
  rename_i hscan
  rw [not_or, ← hscanning, ← hstopping] at hscan
  split
  · -- a link is there to be closed
    rename_i handle hcon
    have hlinked : c.life.linked = true := by simp only [Client.life, hcon, Option.isSome_some]
    rw [Life.close_linked env.refuses r hlinked hscan.1 hscan.2]
    unfold Env.refuses
    split
    · rename_i h
      rw [if_pos (by simpa using h)]
      rfl
    · rename_i h
      rw [if_neg (by simpa using h)]
      rfl
  · rename_i hcon
    have hlinked : c.life.linked = false := by simp only [Client.life, hcon, Option.isSome_none]
    split
    · rename_i h
      rw [Life.close_connecting env.refuses r hlinked (hconnecting.mpr h)]
      rfl
    · rename_i h
      rw [← hconnecting] at h
      rw [life_finishAttempt, Life.close_unlinked env.refuses r hlinked hscan.1 hscan.2 h]
      rfl

/-- `transfer_failed` fails the life, whatever its reason. -/
theorem life_transferFailed (reason : String) (c : Client) :
    (transferFailed env reason c).life = c.life.fail env.refuses := by
  rw [transferFailed, life_closeAttempt]
  rfl

/-- `begin_connection` connects the life when `gap_connect` takes the request. -/
theorem life_beginConnection (c : Client) :
    (beginConnection env c).life = c.life.connect (env.connect = 0) env.refuses := by
  unfold beginConnection Life.connect
  by_cases h : env.connect = 0
  · simp only [h, ne_eq, not_true_eq_false, if_false, decide_true, if_true]
    rfl
  · simp only [h, ne_eq, not_false_eq_true, if_true, decide_false]
    rw [life_transferFailed]
    rfl

/-! ## Messages -/

/-- A `MSG_COMPLETE_ACK` of the target beacon. -/
def completeAckValid (value : Bytes) : Bool :=
  MessageType.ofCode? (byteAt value 0) = some .completeAck ∧ value.length = 2 ∧
    byteAt value 1 = targetBeaconId

/-- What a notification can do to a connected attempt; `acked` says that it is the final
acknowledgement the client waits for. -/
inductive Talk (acked : Prop) (refused : Bool) (l : Life) : Life → Prop
  | quiet : Talk acked refused l l
  | failed : Talk acked refused l (l.fail refused)
  | completed (h : acked) : Talk acked refused l (l.complete refused)

/-- A weaker reason for the final acknowledgement keeps what a handler said. -/
theorem Talk.imp {acked acked' : Prop} {refused : Bool} {l l' : Life}
    (htalk : Talk acked refused l l') (h : acked → acked') : Talk acked' refused l l' := by
  cases htalk with
  | quiet => exact .quiet
  | failed => exact .failed
  | completed hack => exact .completed (h hack)

/-- A change of state within the connected phase is none of the life. -/
theorem life_setState_connected {state : BleState} {c : Client} (hc : c.life.phase = .connected)
    (hstate : state.phase = .connected) : (Client.setState env state c).life = c.life := by
  rw [life_setState, hstate, ← hc]

/-- Every state in which the client writes a packet belongs to the connected phase. -/
theorem phase_of_writing {state : BleState} (h : writingState state = true) :
    state.phase = .connected := by
  cases state <;> first | rfl | cases h

/-- A write goes out, or the transfer fails. -/
theorem writePacket_talk {acked : Prop} (packet : Bytes) {state : BleState} {c : Client}
    (hc : c.life.phase = .connected) (hstate : writingState state = true) :
    Talk acked env.refuses c.life (writePacket env packet state c).life := by
  have hlife : ((Client.setState env state
      { c with txPacket := c.txPacket.write 0 packet }).call (.write c.connectionHandle c.valueHandle
        ((c.txPacket.write 0 packet).prefixOf packet.length))).life = c.life := by
    rw [life_call]
    exact life_setState_connected env hc (phase_of_writing hstate)
  unfold writePacket
  simp only
  split
  · rw [life_transferFailed]
    have := @Talk.failed acked env.refuses c.life
    rw [← hlife] at this ⊢
    exact this
  · have := @Talk.quiet acked env.refuses c.life
    rw [← hlife] at this ⊢
    exact this

/-- A failed transfer is one of the ways a conversation can go. -/
theorem transferFailed_talk {acked : Prop} (reason : String) (c : Client) :
    Talk acked env.refuses c.life (transferFailed env reason c).life := by
  rw [life_transferFailed]
  exact .failed

/-- Writing the next chunk, or the end of the file, moves the life within the connected phase or
fails it. -/
theorem writeNextRobotChunk_talk {acked : Prop} {c : Client} (hc : c.life.phase = .connected) :
    Talk acked env.refuses c.life (writeNextRobotChunk robotFile env c).life := by
  unfold writeNextRobotChunk
  split
  · exact writePacket_talk env _ hc rfl
  · exact writePacket_talk env _ (c := { c with
      robotSequence := c.robotSequence + 1
      robotOffset := (c.robotOffset + robotChunkLength robotFile c) % 512 }) hc rfl

/-- A message of the peer: only the awaited final acknowledgement completes the attempt. -/
theorem receiveMessage_talk (value : Bytes) {c : Client} (hc : c.life.phase = .connected) :
    Talk (c.bleState = .waitCompleteAck ∧ completeAckValid value = true) env.refuses c.life
      (receiveMessage robotFile env value c).life := by
  unfold receiveMessage
  split
  · unfold receiveHelloAck
    split_ifs
    · exact .quiet
    · exact transferFailed_talk env _ c
    · exact writePacket_talk env _ (c := { c.call (.accepted value) with
        robotOffset := 0, robotSequence := 0, robotCrc := transferCrc32 robotFile }) hc rfl
  · unfold receiveFileReady
    split_ifs
    · exact .quiet
    · exact transferFailed_talk env _ c
    · exact writeNextRobotChunk_talk robotFile env (c := c.call (.accepted value)) hc
  · unfold receiveFileReceived
    split_ifs
    · exact .quiet
    · exact transferFailed_talk env _ c
    · exact writePacket_talk env _ (c := c.call (.accepted value)) hc rfl
  · unfold receiveReplyStart
    simp only
    split_ifs
    · exact .quiet
    · exact transferFailed_talk env _ c
    · exact transferFailed_talk env _ c
    · exact writePacket_talk env _ (c := { c.call (.accepted value) with
        replyLength := (transferReadU16 value 1).toNat % 512
        replyCrc := transferReadU32 value 3
        replyOffset := 0
        replySequence := 0 }) hc rfl
  · unfold receiveReplyData
    split_ifs
    · exact .quiet
    · exact transferFailed_talk env _ c
    · exact writePacket_talk env _ (c := { c.call (.accepted value) with
        replyFile := c.replyFile.write c.replyOffset (value.drop 3)
        replyOffset := (c.replyOffset + (byteAt value 2).toNat) % 512
        replySequence := c.replySequence + 1 }) hc rfl
    · exact transferFailed_talk env _ c
  · unfold receiveReplyEnd
    split_ifs
    · exact .quiet
    · exact writePacket_talk env _ (c := c.call (.accepted value)) hc rfl
    · exact transferFailed_talk env _ c
  · rename_i hcode
    unfold receiveCompleteAck
    split_ifs with hstate hvalid
    · exact .quiet
    · exact transferFailed_talk env _ c
    · rw [life_closeAttempt]
      refine .completed ⟨not_not.mp hstate, ?_⟩
      rw [not_or, not_not, not_not] at hvalid
      simp only [completeAckValid, hcode, hvalid.1, hvalid.2, and_self, decide_true]
  · exact .quiet

/-- A notification completes the attempt only as a valid acknowledgement in `BLE_WAIT_COMPLETE_ACK`.
-/
theorem handleNotification_talk (value : Bytes) {c : Client} (hc : c.life.phase = .connected) :
    Talk (c.bleState = .waitCompleteAck ∧ completeAckValid value = true) env.refuses c.life
      (handleNotification robotFile env value c).life := by
  unfold handleNotification
  split_ifs
  · exact .quiet
  · exact transferFailed_talk env _ c
  · exact transferFailed_talk env _ c
  · exact .quiet
  · exact receiveMessage_talk robotFile env value hc

/-! ## GATT events -/

/-- The value parked during a write. -/
def parked (c : Client) : Bytes := c.pendingNotification.prefixOf c.pendingLength

/-- A parked notification is treated as one that arrives now. -/
theorem replayPending_talk {c : Client} (hc : c.life.phase = .connected) :
    Talk (c.bleState = .waitCompleteAck ∧ c.pendingLength ≠ 0 ∧ completeAckValid (parked c) = true)
      env.refuses c.life (replayPending robotFile env c).life := by
  unfold replayPending
  split_ifs with h
  · have htalk := handleNotification_talk robotFile env (parked c)
      (c := { c with pendingLength := 0 }) hc
    exact htalk.imp fun hack => ⟨hack.1, h.1, hack.2⟩
  · exact .quiet

/-- `finish_attempt` keeps the length of a parked notification. -/
@[simp] theorem finishAttempt_pendingLength (c : Client) :
    (finishAttempt env c).pendingLength = c.pendingLength := by
  unfold finishAttempt
  split <;> rfl

/-- `close_scan` keeps the length of a parked notification. -/
@[simp] theorem closeScan_pendingLength (c : Client) :
    (closeScan env c).pendingLength = c.pendingLength := by
  have ending (d : Client) (hd : d.pendingLength = c.pendingLength) :
      (if d.scanConfirmed then d
        else finishAttempt env { d with closingResult := .fatal }).pendingLength =
          c.pendingLength := by
    split
    · exact hd
    · rw [finishAttempt_pendingLength]
      exact hd
  unfold closeScan
  by_cases hstop : c.bleState = .stoppingForConnect
  · simp only [hstop, if_true]
    exact ending _ rfl
  · simp only [hstop]
    exact ending _ rfl

/-- Closing an attempt forgets a parked value. -/
@[simp] theorem closeAttempt_pendingLength (r : PayloadResult) (c : Client) :
    (closeAttempt env r c).pendingLength = 0 := by
  unfold closeAttempt
  simp only
  split
  · rw [closeScan_pendingLength]
  split
  · split <;> rfl
  · split
    · rfl
    · rw [finishAttempt_pendingLength]

/-- A failed transfer forgets the parked notification. -/
@[simp] theorem transferFailed_pendingLength (reason : String) (c : Client) :
    (transferFailed env reason c).pendingLength = 0 :=
  closeAttempt_pendingLength env _ _

/-- Behind a write there is nothing to replay: it is under way, or the transfer failed. -/
theorem replayPending_writePacket (packet : Bytes) {state : BleState} (c : Client)
    (hstate : writingState state = true) :
    replayPending robotFile env (writePacket env packet state c) =
      writePacket env packet state c := by
  unfold replayPending
  rw [if_neg]
  rintro ⟨hpending, hwriting⟩
  unfold writePacket at hpending hwriting
  simp only at hpending hwriting
  split at hpending
  · simp at hpending
  · rename_i hwrite
    rw [if_neg hwrite] at hwriting
    change writingState state = false at hwriting
    simp [hstate] at hwriting

/-- After a chunk was written there is nothing left to replay. -/
theorem replayPending_writeNextRobotChunk (c : Client) :
    replayPending robotFile env (writeNextRobotChunk robotFile env c) =
      writeNextRobotChunk robotFile env c := by
  unfold writeNextRobotChunk
  split
  · exact replayPending_writePacket robotFile env _ c rfl
  · exact replayPending_writePacket robotFile env _ _ rfl

/-- A GATT setup call does not complete the attempt; a refused one fails it. -/
theorem setupStarted_talk {acked : Prop} {c : Client} (hc : c.life.phase = .connected)
    (hstate : c.bleState ≠ .waitCompleteAck) :
    Talk acked env.refuses c.life (setupStarted robotFile env c).life := by
  unfold setupStarted
  split
  · exact transferFailed_talk env _ c
  · exact (replayPending_talk robotFile env hc).imp fun hack => absurd hack.1 hstate

/-- A query completed successfully. -/
theorem queryCompleted_talk {c : Client} (hc : c.life.phase = .connected) :
    Talk (c.bleState = .writeComplete ∧ c.pendingLength ≠ 0 ∧ completeAckValid (parked c) = true)
      env.refuses c.life (queryCompleted robotFile env c).life := by
  have waiting {acked : Prop} (state : BleState) (hstate : state.phase = .connected)
      (hacked : state = .waitCompleteAck →
        c.pendingLength ≠ 0 ∧ completeAckValid (parked c) = true → acked) :
      Talk acked env.refuses c.life
        (replayPending robotFile env (c.setState env state)).life := by
    have htalk := replayPending_talk robotFile env (c := c.setState env state) hstate
    rw [life_setState_connected env hc hstate] at htalk
    exact htalk.imp fun hack => hacked hack.1 hack.2
  have setup {acked : Prop} (d : Client) (hd : d.life = c.life)
      (hstate : d.bleState ≠ .waitCompleteAck) :
      Talk acked env.refuses c.life (setupStarted robotFile env d).life := by
    rw [← hd] at hc ⊢
    exact setupStarted_talk robotFile env hc hstate
  unfold queryCompleted
  simp only
  split
  · split
    · exact setup _ (life_setState_connected env (c := { c with characteristicFound := false })
        hc rfl) nofun
    · exact transferFailed_talk env _ c
  · split
    · exact setup _ (life_setState_connected env (c := { c.call .listen with listening := true })
        hc rfl) nofun
    · exact transferFailed_talk env _ c
  · rw [replayPending_writePacket robotFile env _ c rfl]
    exact writePacket_talk env _ hc rfl
  · exact waiting .waitHelloAck rfl nofun
  · exact waiting .waitFileReady rfl nofun
  · rw [replayPending_writeNextRobotChunk]
    exact writeNextRobotChunk_talk robotFile env hc
  · exact waiting .waitFileReceived rfl nofun
  · exact waiting .waitReplyStart rfl nofun
  · exact waiting .waitReplyPiece rfl nofun
  · rename_i hstate
    exact waiting .waitCompleteAck rfl fun _ hack => ⟨hstate, hack⟩
  · exact .quiet

/-- The packets `gatt_handler` takes for its own: not while the attempt ends, and only those
of its connection and characteristic. -/
def heard (c : Client) : Event → Bool
  | .notification handle valueHandle _ =>
    c.abortRequested = false ∧ c.connectionHandle = some handle ∧ c.valueHandle = valueHandle
  | .queryComplete handle status =>
    c.abortRequested = false ∧ c.connectionHandle = some handle ∧ status = 0
  | _ => false

/-- The packets that make the client accept `MSG_COMPLETE_ACK`: the notification itself, or
the completion of the write during which it was parked. -/
def completes (c : Client) (event : Event) : Bool :=
  heard c event && match event with
    | .notification _ _ value => c.bleState = .waitCompleteAck ∧ completeAckValid value
    | .queryComplete _ _ =>
      c.bleState = .writeComplete ∧ c.pendingLength ≠ 0 ∧ completeAckValid (parked c)
    | _ => false

/-- A connected attempt hears a GATT event. -/
theorem gattHandler_talk (event : Event) {c : Client}
    (hlinked : c.connectionHandle.isSome → c.bleState ≠ .closing → c.bleState ≠ .idle →
      c.life.phase = .connected) :
    (gattHandler robotFile env event c).life = c.life ∨
      c.life.phase = .connected ∧ c.connectionHandle.isSome ∧
        Talk (completes c event = true) env.refuses c.life
          (gattHandler robotFile env event c).life := by
  unfold gattHandler
  split
  · exact .inl rfl
  rename_i hopen
  push Not at hopen
  have habort : c.abortRequested = false := by simpa using hopen.1
  split
  · split
    · rename_i handle valueHandle value hmine
      have hc := hlinked (by simp [hmine.1]) hopen.2.1 hopen.2.2
      refine .inr ⟨hc, by simp [hmine.1], ?_⟩
      apply (handleNotification_talk robotFile env value hc).imp
      intro hack
      simp [completes, heard, habort, hmine, hack]
    · exact .inl rfl
  · split
    · exact .inl rfl
    · exact .inl rfl
  · split
    · exact .inl rfl
    · exact .inl rfl
  · split
    · exact .inl rfl
    rename_i handle status hmine
    rw [not_not] at hmine
    have hc := hlinked (by simp [hmine]) hopen.2.1 hopen.2.2
    split
    · exact .inr ⟨hc, by simp [hmine], transferFailed_talk env _ c⟩
    · rename_i hstatus
      refine .inr ⟨hc, by simp [hmine], ?_⟩
      apply (queryCompleted_talk robotFile env hc).imp
      intro hack
      rw [not_not] at hstatus
      simp [completes, heard, habort, hmine, hstatus, hack]
  · exact .inl rfl

/-! ## Packets -/

/-- All that a packet can do to the life of an attempt. -/
inductive LifeStep (event : Event) (done refused : Bool) (l : Life) : Life → Prop
  | quiet : LifeStep event done refused l l
  | scanFailed : LifeStep event done refused l
      (Life.die { l with faults := l.faults.raise .bleRadio })
  | scanStarted (h : l.phase = .scanning) :
      LifeStep event done refused l { l with scanConfirmed := true }
  | inRange (h : l.phase = .scanning) (habort : l.abort = false) :
      LifeStep event done refused l { l with confirmed := true, phase := .stoppingForConnect }
  | scanStopped (h : l.phase = .stoppingScan) : LifeStep event done refused l l.finish
  | connectAborted (h : l.phase = .stoppingForConnect) (habort : l.abort = true)
      (hevent : event = .commandComplete true 0) :
      LifeStep event done refused l l.die
  | connecting (h : l.phase = .stoppingForConnect) (habort : l.abort = false) (started : Bool) :
      LifeStep event done refused l (l.connect started refused)
  | linkFailed (h : l.phase = .connecting) :
      LifeStep event done refused l (Life.fail refused { l with linked := false, phase := .idle })
  | linkCancelled (h : l.phase = .closing) : LifeStep event done refused l l.finish
  | linkUp (h : l.phase = .connecting) (habort : l.abort = false) :
      LifeStep event done refused l { l with linked := true, phase := .connected }
  | linkUseless (h : l.phase = .connecting) (habort : l.abort = false) :
      LifeStep event done refused l (Life.fail refused { l with linked := true, phase := .connected })
  | linkLate (h : l.phase = .closing) :
      LifeStep event done refused l { l with linked := true, phase := .closing }
  | linkAborted (h : l.phase = .connecting) (habort : l.abort = true) (handle : ConHandle)
      (hevent : event = .connectionComplete 0 handle) :
      LifeStep event done refused l { l with linked := true, phase := .closing }
  | linkLost (h : l.linked = true) (hphase : l.phase ≠ .closing) :
      LifeStep event done refused l l.drop
  | linkClosed (h : l.phase = .closing) : LifeStep event done refused l l.finish
  | failed (h : l.phase = .connected) (hlinked : l.linked = true) :
      LifeStep event done refused l (l.fail refused)
  | completed (h : l.phase = .connected) (hlinked : l.linked = true) (hdone : done = true) :
      LifeStep event done refused l (l.complete refused)

/-- The closing phase is the one state `BLE_CLOSING`. -/
theorem closing_iff (c : Client) : c.life.phase = .closing ↔ c.bleState = .closing := by
  show c.bleState.phase = _ ↔ _
  cases c.bleState <;> decide

/-- The idle phase is the one state `BLE_IDLE`. -/
theorem idle_iff (c : Client) : c.life.phase = .idle ↔ c.bleState = .idle := by
  show c.bleState.phase = _ ↔ _
  cases c.bleState <;> decide

/-- The phase that stops a scan is the one state `BLE_STOPPING_SCAN`. -/
theorem stoppingScan_iff (c : Client) :
    c.life.phase = .stoppingScan ↔ c.bleState = .stoppingScan := by
  show c.bleState.phase = _ ↔ _
  cases c.bleState <;> decide

/-- An advertisement heard while scanning is a step of the life. -/
theorem advertisementReceived_life {event : Event} {done : Bool} (report : Advertisement) {c : Client}
    (hstate : c.bleState = .scanning) :
    LifeStep event done env.refuses c.life (advertisementReceived env report c).life := by
  have hphase := (phase_eq_iff c).1.mpr hstate
  unfold advertisementReceived
  simp only
  split_ifs with hearing
  · exact .quiet
  all_goals
    have habort : c.life.abort = false := by
      rw [not_or, Bool.not_eq_true] at hearing
      exact hearing.1
    first | exact .quiet | exact .inRange hphase habort

/-- A connection that completes, with whatever status, is a step of the life. -/
theorem connectionComplete_life {done : Bool} (status : UInt8) (handle : ConHandle) (c : Client) :
    LifeStep (.connectionComplete status handle) done env.refuses c.life
      (connectionComplete env status handle c).life := by
  obtain ⟨-, -, hconnecting⟩ := phase_eq_iff c
  have hclosing := closing_iff c
  unfold connectionComplete
  split
  · exact .quiet
  rename_i hstate
  push Not at hstate
  simp only
  split
  · split
    · rename_i hclose
      rw [life_finishAttempt]
      exact .linkCancelled (hclosing.mpr hclose)
    · rename_i hclose
      have h : c.bleState = .connecting := by
        by_contra hne
        exact hclose (hstate hne)
      rw [life_transferFailed]
      exact .linkFailed (hconnecting.mpr h)
  · rename_i hstatus
    rw [not_not] at hstatus
    split
    · rename_i hlate
      rcases Decidable.em (c.bleState = .closing) with hclose | hclose
      · exact .linkLate (hclosing.mpr hclose)
      · have habort : c.abortRequested = true := by
          rcases hlate with h | h
          · exact h
          · exact absurd h hclose
        have h : c.bleState = .connecting := by
          by_contra hne
          exact hclose (hstate hne)
        exact .linkAborted (hconnecting.mpr h) habort handle (by rw [hstatus])
    · rename_i hlate
      rw [not_or] at hlate
      have habort : c.abortRequested = false := by simpa using hlate.1
      have h : c.bleState = .connecting := by
        by_contra hne
        exact hlate.2 (hstate hne)
      split
      · rw [life_transferFailed]
        exact .linkUseless (hconnecting.mpr h) habort
      · exact .linkUp (hconnecting.mpr h) habort

/-- The answer to a scan command is a step of the life. -/
theorem scanEnableComplete_life {done : Bool} (status : UInt8) (c : Client) :
    LifeStep (.commandComplete true status) done env.refuses c.life
      (scanEnableComplete env status c).life := by
  obtain ⟨hscanning, hstopping, -⟩ := phase_eq_iff c
  unfold scanEnableComplete
  split
  · rw [life_finishAttempt]
    exact .scanFailed
  rename_i hstatus
  rw [not_not] at hstatus
  split
  · rename_i hstate
    exact .scanStarted (hscanning.mpr hstate)
  · rename_i hstate
    split
    · rename_i habort
      rw [life_finishAttempt]
      exact .connectAborted (hstopping.mpr hstate) habort (by rw [hstatus])
    · rename_i habort
      rw [life_beginConnection]
      exact .connecting (hstopping.mpr hstate) (Bool.eq_false_of_not_eq_true habort) _
  · rename_i hstate
    rw [life_finishAttempt]
    exact .scanStopped ((stoppingScan_iff c).mpr hstate)
  · exact .quiet

/-- A disconnection is a step of the life. -/
theorem disconnectionComplete_life {event : Event} {done : Bool} (handle : ConHandle) (c : Client) :
    LifeStep event done env.refuses c.life (disconnectionComplete env handle c).life := by
  unfold disconnectionComplete
  split
  · exact .quiet
  rename_i hmine
  rw [not_not] at hmine
  simp only
  split
  · rename_i hstate
    rw [life_finishAttempt]
    refine .linkLost ?_ ?_
    · simp [Client.life, hmine]
    · rw [Ne, closing_iff]
      exact hstate
  · rename_i hstate
    rw [not_not] at hstate
    rw [life_finishAttempt]
    exact .linkClosed ((closing_iff c).mpr hstate)

/-- **Every packet** does one of these things to the life of an attempt. -/
theorem handle_life (event : Event) {c : Client}
    (hlinked : c.connectionHandle.isSome → c.bleState ≠ .closing → c.bleState ≠ .idle →
      c.life.phase = .connected) :
    LifeStep event (completes c event) env.refuses c.life (handle robotFile env event c).life := by
  have gatt : LifeStep event (completes c event) env.refuses c.life
      (gattHandler robotFile env event c).life := by
    rcases gattHandler_talk robotFile env event hlinked with h | ⟨hc, hsome, htalk⟩
    · rw [h]
      exact .quiet
    · generalize (gattHandler robotFile env event c).life = l at htalk
      cases htalk with
      | quiet => exact .quiet
      | failed => exact .failed hc hsome
      | completed hdone => exact .completed hc hsome hdone
  unfold handle
  split
  · exact gatt
  · exact gatt
  · exact gatt
  · exact gatt
  unfold hciHandler
  split
  · exact .quiet
  · split
    · rename_i hscan
      rw [hscan]
      exact scanEnableComplete_life env _ c
    · exact .quiet
  · split
    · rename_i hstate
      exact advertisementReceived_life env _ hstate
    · exact .quiet
  · exact connectionComplete_life env _ _ c
  · exact disconnectionComplete_life env _ c
  · exact .quiet

/-! ## Run-loop callbacks -/

/-- The start of an attempt: a scan, or for a retry the connection itself. -/
def Life.start (started refused : Bool) (l : Life) : Life :=
  if l.abort then l.die
  else if l.reconnect then
    Life.connect started refused { l with scanConfirmed := false }
  else { l with confirmed := false, scanConfirmed := false, phase := .scanning }

/-- The start callback starts the life. -/
theorem life_startAttemptCallback (c : Client) :
    (startAttemptCallback env c).life = c.life.start (env.connect = 0) env.refuses := by
  unfold startAttemptCallback Life.start
  show _ = if c.abortRequested then _ else if c.reconnectRequested then _ else _
  split
  · rw [life_finishAttempt]
    rfl
  simp only
  split
  · rw [life_beginConnection]
    rfl
  · rfl

/-- GP21 is low at one of the polls of `abort_attempt_callback`. -/
def Env.stops (env : Env) : Bool := env.stopAtReport || env.stopAtFault || env.stopAtClose

/-- A poll of STOP raises `FAULT_STOP_LATCHED` when it reads the button pressed. -/
@[simp] theorem pollStop_faults (pressed : Bool) (c : Client) :
    (c.pollStop pressed).faults =
      if pressed then c.faults.raise .stopLatched else c.faults := by
  unfold Client.pollStop
  split <;> rfl

/-- The client as `abort_attempt_callback` closes it: polled three times, and with a fault
raised in between. -/
def abortPolls (c : Client) : Client :=
  let c := (c.pollStop env.stopAtReport).pollStop env.stopAtFault
  let c := if c.stopLatched = false ∧ c.closeConfirmed then
    { c with faults := c.faults.raise .payload } else c
  c.pollStop env.stopAtClose

/-- The polls of the abort callback change the fault mask only. -/
theorem abortPolls_eq (c : Client) : ∃ faults, abortPolls env c = { c with faults := faults } := by
  unfold abortPolls Client.pollStop
  cases env.stopAtReport <;> cases env.stopAtFault <;> cases env.stopAtClose <;>
    simp only [Bool.false_eq_true, if_false, if_true] <;> split <;> exact ⟨_, rfl⟩

/-- The polls made while an abort is under way change the fault mask only. -/
theorem abortPolls_life (c : Client) :
    (abortPolls env c).life = { c.life with faults := (abortPolls env c).faults } := by
  unfold abortPolls Client.pollStop
  cases env.stopAtReport <;> cases env.stopAtFault <;> cases env.stopAtClose <;>
    simp only [Bool.false_eq_true, if_false, if_true] <;> split <;> rfl

/-- These polls clear nothing; they raise the latch exactly when STOP was pressed, and with close
range confirmed leave a fault behind. -/
theorem abortPolls_faults (c : Client) :
    c.faults ⊆ (abortPolls env c).faults ∧
      (.stopLatched ∈ (abortPolls env c).faults ↔
        .stopLatched ∈ c.faults ∨ env.stops = true) ∧
      (c.closeConfirmed = true →
        .stopLatched ∈ (abortPolls env c).faults ∨ .payload ∈ (abortPolls env c).faults) := by
  unfold abortPolls Client.pollStop Env.stops Client.stopLatched
  cases env.stopAtReport <;> cases env.stopAtFault <;> cases env.stopAtClose <;>
    simp only [Bool.false_eq_true, if_false, if_true, Bool.or_false, Bool.or_true, or_false,
      or_true, iff_true] <;> split <;>
    grind [Faults.mem_raise]

/-- The abort callback: nothing while no attempt runs or one is being closed already; else
the attempt is closed, with a fault once close range is confirmed. -/
theorem life_abortAttemptCallback (c : Client) :
    (abortAttemptCallback env c).life = c.life ∨
      c.life.running = true ∧ c.life.phase ≠ .stoppingScan ∧ c.life.phase ≠ .closing ∧
        (abortAttemptCallback env c).life =
          Life.close env.refuses
            (if .stopLatched ∈ (abortPolls env c).faults then .fatal else c.life.failure)
            { c.life with faults := (abortPolls env c).faults } := by
  unfold abortAttemptCallback
  split
  · exact .inl rfl
  rename_i hopen
  simp only [not_or, Bool.not_eq_false] at hopen
  refine .inr ⟨hopen.1, by rw [Ne, stoppingScan_iff]; exact hopen.2.1,
    by rw [Ne, closing_iff]; exact hopen.2.2, ?_⟩
  show (closeAttempt env (if (abortPolls env c).stopLatched then .fatal
    else (abortPolls env c).life.failure) (abortPolls env c)).life = _
  rw [life_closeAttempt, abortPolls_life]
  congr 1
  by_cases hstop : Fault.stopLatched ∈ (abortPolls env c).faults
  · simp [Client.stopLatched, hstop]
  · simp [Client.stopLatched, hstop, Life.failure]

end PayloadClient
