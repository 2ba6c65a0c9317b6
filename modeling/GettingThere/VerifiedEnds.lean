/-
# A verified payload ends the exchange

`F_PAYLOAD_VERIFIED` is cleared when an attempt starts and set with the final acknowledgement,
which also ends the attempt.  So a client that is still in its attempt has verified nothing, and
whatever led it to the configuration write, it starts its exchange unverified.
-/
import GettingThere.PayloadTranscript
import GettingThere.ScriptedClient

namespace LossyLink

open TransferProtocol PayloadClient
open Connection (Names Round attempted)

variable {names : Names} {robotFile : Bytes} {env : Env} {c d : Client}

/-- The payload is verified at the end of an attempt only. -/
def Fresh (c : Client) : Prop := c.payloadVerified = true → Left c

/-- While nothing is verified there is nothing to show. -/
theorem fresh_of_unverified (h : c.payloadVerified = false) : Fresh c := fun hc => by
  rw [h] at hc
  cases hc

/-- Once the attempt has ended there is nothing to show either. -/
theorem fresh_of_left (h : Left c) : Fresh c := fun _ => h

/-- In every state but the last two nothing is verified. -/
theorem Fresh.unverified (h : Fresh c) {state : BleState} (hstate : c.bleState = state)
    (hclosing : state ≠ .closing) (hidle : state ≠ .idle) : c.payloadVerified = false := by
  by_contra hne
  subst hstate
  exact (h (by simpa using hne)).elim hclosing hidle

/-- The state and `F_PAYLOAD_VERIFIED` are all that matters. -/
theorem Fresh.congr (h : Fresh c) (hstate : d.bleState = c.bleState)
    (hverified : d.payloadVerified = c.payloadVerified) : Fresh d := by
  unfold Fresh Left
  rw [hstate, hverified]
  exact h

/-! ## Ends -/

/-- A finished attempt has ended. -/
theorem fresh_finishAttempt (c : Client) : Fresh (finishAttempt env c) :=
  fresh_of_left (leaves_finishAttempt ⟨0, 0, 0⟩ env c).left

/-- Closing an attempt verifies nothing. -/
theorem verified_closeAttempt (r : PayloadResult) (c : Client) :
    (closeAttempt env r c).payloadVerified = c.payloadVerified :=
  congrArg Exchange.verified (exchange_closeAttempt env r c)

/-- A failed transfer has nothing verified. -/
theorem fresh_transferFailed (reason : String) (c : Client) :
    Fresh (transferFailed env reason c) :=
  fresh_of_unverified (verified_closeAttempt _ _)

/-- Closing beyond the scan ends the attempt. -/
theorem fresh_closeAttempt (r : PayloadResult)
    (hstate : ¬ (c.bleState = .scanning ∨ c.bleState = .stoppingForConnect)) :
    Fresh (closeAttempt env r c) :=
  fresh_of_left (leaves_closeAttempt ⟨0, 0, 0⟩ env r hstate).left

/-- A packet is written while nothing is verified. -/
theorem fresh_writePacket (packet : Bytes) (state : BleState) (h : c.payloadVerified = false) :
    Fresh (writePacket env packet state c) := by
  unfold writePacket
  simp only
  split
  · exact fresh_transferFailed _ _
  · exact fresh_of_unverified h

/-- A chunk is written while nothing is verified. -/
theorem fresh_writeNextRobotChunk (h : c.payloadVerified = false) :
    Fresh (writeNextRobotChunk robotFile env c) := by
  unfold writeNextRobotChunk
  split
  · exact fresh_writePacket _ _ h
  · exact fresh_writePacket _ _ h

/-! ## Packets -/

/-- Only the final acknowledgement verifies, and it closes the attempt. -/
theorem fresh_receiveMessage {value : Bytes} (h : Fresh c) :
    Fresh (receiveMessage robotFile env value c) := by
  unfold receiveMessage
  split
  · unfold receiveHelloAck
    split_ifs with hstate
    · exact h
    · exact fresh_transferFailed _ _
    · exact fresh_writePacket _ _ (h.unverified (not_not.mp hstate) nofun nofun)
  · unfold receiveFileReady
    split_ifs with hstate
    · exact h
    · exact fresh_transferFailed _ _
    · exact fresh_writeNextRobotChunk (h.unverified (not_not.mp hstate) nofun nofun)
  · unfold receiveFileReceived
    split_ifs with hstate
    · exact h
    · exact fresh_transferFailed _ _
    · exact fresh_writePacket _ _ (h.unverified (not_not.mp hstate) nofun nofun)
  · unfold receiveReplyStart
    simp only
    split_ifs with hstate
    · exact h
    · exact fresh_transferFailed _ _
    · exact fresh_transferFailed _ _
    · exact fresh_writePacket _ _ (h.unverified (not_not.mp hstate) nofun nofun)
  · unfold receiveReplyData
    split_ifs with hstate
    · exact h
    · exact fresh_transferFailed _ _
    · exact fresh_writePacket _ _ (h.unverified (not_not.mp hstate) nofun nofun)
    · exact fresh_transferFailed _ _
  · unfold receiveReplyEnd
    split_ifs with hstate
    · exact h
    · exact fresh_writePacket _ _ (h.unverified (not_not.mp hstate) nofun nofun)
    · exact fresh_transferFailed _ _
  · -- the one place that sets the flag closes the attempt
    unfold receiveCompleteAck
    split_ifs with hstate
    · exact h
    · exact fresh_transferFailed _ _
    · refine fresh_closeAttempt _ ?_
      show ¬ (c.bleState = .scanning ∨ c.bleState = .stoppingForConnect)
      rw [not_not.mp hstate]
      nofun
  · exact h

/-- A notification is a message, or it is parked. -/
theorem fresh_handleNotification {value : Bytes} (h : Fresh c) :
    Fresh (handleNotification robotFile env value c) := by
  unfold handleNotification
  split_ifs
  · exact h
  · exact fresh_transferFailed _ _
  · exact fresh_transferFailed _ _
  · exact h.congr rfl rfl
  · exact fresh_receiveMessage h

/-- A parked one is a message, too. -/
theorem fresh_replayPending (h : Fresh c) : Fresh (replayPending robotFile env c) := by
  unfold replayPending
  split
  · exact fresh_handleNotification (h.congr rfl rfl)
  · exact h

/-- A GATT setup call verifies nothing without ending the attempt. -/
theorem fresh_setupStarted (h : Fresh c) : Fresh (setupStarted robotFile env c) := by
  unfold setupStarted
  split
  · exact fresh_transferFailed _ _
  · exact fresh_replayPending h

/-- The completion of a query verifies nothing without ending the attempt. -/
theorem fresh_queryCompleted (h : Fresh c) : Fresh (queryCompleted robotFile env c) := by
  have waiting {before : BleState} (state : BleState) (hbefore : c.bleState = before)
      (hclosing : before ≠ .closing) (hidle : before ≠ .idle) :
      Fresh (replayPending robotFile env (c.setState env state)) :=
    fresh_replayPending (fresh_of_unverified (h.unverified hbefore hclosing hidle))
  unfold queryCompleted
  simp only
  split <;> rename_i hstate
  · split
    · exact fresh_setupStarted (fresh_of_unverified (h.unverified hstate nofun nofun))
    · exact fresh_transferFailed _ _
  · split
    · exact fresh_setupStarted (fresh_of_unverified (h.unverified hstate nofun nofun))
    · exact fresh_transferFailed _ _
  · exact fresh_replayPending (fresh_writePacket _ _ (h.unverified hstate nofun nofun))
  · exact waiting _ hstate nofun nofun
  · exact waiting _ hstate nofun nofun
  · exact fresh_replayPending (fresh_writeNextRobotChunk (h.unverified hstate nofun nofun))
  · exact waiting _ hstate nofun nofun
  · exact waiting _ hstate nofun nofun
  · exact waiting _ hstate nofun nofun
  · exact waiting _ hstate nofun nofun
  · exact h

/-- No GATT event verifies without ending the attempt. -/
theorem fresh_gattHandler {event : PayloadClient.Event} (h : Fresh c) :
    Fresh (gattHandler robotFile env event c) := by
  unfold gattHandler
  split
  · exact h
  split
  · split
    · exact fresh_handleNotification h
    · exact h
  · split
    · exact h.congr rfl rfl
    · exact h
  · split
    · exact h.congr rfl rfl
    · exact h
  · split
    · exact h
    split
    · exact fresh_transferFailed _ _
    · exact fresh_queryCompleted h
  · exact h

/-- Asking for a connection verifies nothing. -/
theorem fresh_beginConnection (h : c.payloadVerified = false) : Fresh (beginConnection env c) := by
  unfold beginConnection
  simp only
  split
  · exact fresh_transferFailed _ _
  · exact fresh_of_unverified h

/-- An advertisement verifies nothing. -/
theorem fresh_advertisementReceived {report : Advertisement} (h : c.payloadVerified = false) :
    Fresh (advertisementReceived env report c) := by
  unfold advertisementReceived
  simp only
  split_ifs
  all_goals exact fresh_of_unverified h

/-- No HCI event verifies anything. -/
theorem fresh_hciHandler {event : PayloadClient.Event} (h : Fresh c) :
    Fresh (hciHandler env event c) := by
  unfold hciHandler
  split
  · exact h.congr rfl rfl
  · split
    · unfold scanEnableComplete
      split
      · exact fresh_finishAttempt _
      split
      · exact h.congr rfl rfl
      · rename_i hstate
        split
        · exact fresh_finishAttempt _
        · exact fresh_beginConnection (h.unverified hstate nofun nofun)
      · exact fresh_finishAttempt _
      · exact h
    · exact h
  · split
    · rename_i hstate
      exact fresh_advertisementReceived (h.unverified hstate nofun nofun)
    · exact h
  · unfold connectionComplete
    split
    · exact h
    rename_i hstate
    simp only
    split_ifs with hstatus hclosing hlate
    · exact fresh_finishAttempt _
    · exact fresh_transferFailed _ _
    · exact fresh_of_left (.inl rfl)
    · exact fresh_transferFailed _ _
    · have hconnecting : c.bleState = .connecting := by
        by_contra hne
        exact hstate ⟨hne, fun hclosing => hlate (.inr hclosing)⟩
      exact fresh_of_unverified (h.unverified hconnecting nofun nofun)
  · unfold disconnectionComplete
    split
    · exact h
    simp only
    split
    · exact fresh_finishAttempt _
    · exact fresh_finishAttempt _
  · exact h

/-- **No packet verifies a payload** without ending the attempt. -/
theorem fresh_handle {event : PayloadClient.Event} (h : Fresh c) :
    Fresh (handle robotFile env event c) := by
  unfold handle
  split
  · exact fresh_gattHandler h
  · exact fresh_gattHandler h
  · exact fresh_gattHandler h
  · exact fresh_gattHandler h
  · exact fresh_hciHandler h

/-- **An attempt starts unverified**, and it stays so for as long as it goes on. -/
theorem fresh_attempted (packets : List (PayloadClient.Event × Env)) (c : Client) :
    Fresh (attempted robotFile env packets c) := by
  have hstart : Fresh (startAttemptCallback env c) := by
    unfold startAttemptCallback
    split
    · exact fresh_finishAttempt _
    simp only
    split
    · exact fresh_beginConnection rfl
    · exact fresh_of_unverified rfl
  unfold attempted
  revert hstart
  generalize startAttemptCallback env c = start
  induction packets generalizing start with
  | nil => exact fun h => h
  | cons packet packets ih => exact fun h => ih _ (fresh_handle h)

end LossyLink
