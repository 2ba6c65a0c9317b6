/-
# The packed counters of the client

The bit fields of `counters` hold exactly the legal range, so a bound that is missed would
wrap.  `InBounds` is the range of every field, and every way the statics of the client are
touched keeps it: the packets, the two run-loop callbacks and the writes of the main thread,
in any order (`Move`).  The moves need not come from `run_attempt`; each step of the whole
system is one or two of them.
-/
import GettingThere.AttemptRun

namespace PayloadClient

open TransferProtocol Transition

/-! ## The counters -/

/-- The packed `counters`. -/
structure Counters where
  sampleCount : ℕ
  sampleIndex : ℕ
  closeCount : ℕ
  pendingLength : ℕ
  robotOffset : ℕ
  replyOffset : ℕ
  replyLength : ℕ

/-- The counters of a client. -/
def Client.counters (c : Client) : Counters where
  sampleCount := c.sampleCount
  sampleIndex := c.sampleIndex
  closeCount := c.closeCount
  pendingLength := c.pendingLength
  robotOffset := c.robotOffset
  replyOffset := c.replyOffset
  replyLength := c.replyLength

/-- The range of every counter, for a file of `file` bytes. -/
structure Counters.Within (file : ℕ) (x : Counters) : Prop where
  samples : x.sampleCount ≤ 12
  index : x.sampleIndex < 12
  close : x.closeCount ≤ 3
  pending : x.pendingLength ≤ 20
  robot : x.robotOffset ≤ file
  offset : x.replyOffset ≤ x.replyLength
  reply : x.replyLength ≤ 256

/-- Every counter is in its range, and a scan that is still going on has not counted three
close averages. -/
structure InBounds (robotFile : Bytes) (c : Client) : Prop where
  counters : c.counters.Within robotFile.length
  scanning : c.bleState = .scanning → c.closeCount < 3

variable {robotFile : Bytes} {env : Env} {c d : Client}

/-- The scan's bound where no scan is going on. -/
theorem InBounds.quiet (h : c.counters.Within robotFile.length) (hstate : c.bleState ≠ .scanning) :
    InBounds robotFile c := ⟨h, fun hs => absurd hs hstate⟩

/-- What leaves the counters alone and starts no scan keeps the bounds. -/
theorem InBounds.frame (h : InBounds robotFile c) (hcounters : d.counters = c.counters)
    (hstate : d.bleState = .scanning → c.bleState = .scanning) : InBounds robotFile d := by
  constructor
  · rw [hcounters]
    exact h.counters
  · intro hs
    have hclose : d.closeCount = c.closeCount := congrArg Counters.closeCount hcounters
    rw [hclose]
    exact h.scanning (hstate hs)

/-! ## Ending an attempt -/

/-- Finishing an attempt touches no counter. -/
@[simp] theorem counters_finishAttempt (c : Client) :
    (finishAttempt env c).counters = c.counters := by
  unfold finishAttempt
  split <;> rfl

/-- A finished attempt does not scan. -/
theorem finishAttempt_not_scanning (c : Client) :
    (finishAttempt env c).bleState ≠ .scanning := by
  unfold finishAttempt
  split <;> nofun

/-- Closing a scan touches no counter. -/
@[simp] theorem counters_closeScan (c : Client) : (closeScan env c).counters = c.counters := by
  have ending (d : Client) (hd : d.counters = c.counters) :
      (if d.scanConfirmed then d
        else finishAttempt env { d with closingResult := .fatal }).counters = c.counters := by
    split
    · exact hd
    · rw [counters_finishAttempt]
      exact hd
  unfold closeScan
  by_cases hstop : c.bleState = .stoppingForConnect
  · simp only [hstop, if_true]
    exact ending _ rfl
  · simp only [hstop]
    exact ending _ rfl

/-- Closing an attempt forgets a parked value and no other counter. -/
theorem counters_closeAttempt (r : PayloadResult) (c : Client) :
    (closeAttempt env r c).counters = { c.counters with pendingLength := 0 } := by
  unfold closeAttempt
  simp only
  split
  · rw [counters_closeScan]
    rfl
  split
  · split <;> rfl
  · split
    · rfl
    · rw [counters_finishAttempt]
      rfl

/-- Closing an attempt ends its scanning state, whatever it reports. -/
theorem closeAttempt_not_scanning (r : PayloadResult) (c : Client) :
    (closeAttempt env r c).bleState ≠ .scanning := by
  intro hs
  obtain ⟨hends, -⟩ := Life.close_ends env.refuses r c.life
  rw [← life_closeAttempt, (phase_eq_iff _).1.mpr hs] at hends
  rcases hends with h | h | h <;> cases h

/-- Closing an attempt keeps the counters in bounds. -/
theorem inBounds_closeAttempt (r : PayloadResult) (h : InBounds robotFile c) :
    InBounds robotFile (closeAttempt env r c) := by
  refine .quiet ?_ (closeAttempt_not_scanning r c)
  obtain ⟨hsamples, hindex, hclose, -, hrobot, hoffset, hreply⟩ := h.counters
  rw [counters_closeAttempt]
  exact ⟨hsamples, hindex, hclose, Nat.zero_le _, hrobot, hoffset, hreply⟩

/-- Finishing an attempt keeps them in bounds. -/
theorem inBounds_finishAttempt (h : InBounds robotFile c) :
    InBounds robotFile (finishAttempt env c) := by
  refine .quiet ?_ (finishAttempt_not_scanning c)
  rw [counters_finishAttempt]
  exact h.counters

/-- A failed transfer only takes counters back to zero. -/
theorem inBounds_transferFailed (reason : String) (h : InBounds robotFile c) :
    InBounds robotFile (transferFailed env reason c) :=
  inBounds_closeAttempt _ ⟨h.counters, h.scanning⟩

/-- Asking for a connection keeps the counters in bounds. -/
theorem inBounds_beginConnection (h : InBounds robotFile c) :
    InBounds robotFile (beginConnection env c) := by
  unfold beginConnection
  split
  · exact inBounds_transferFailed _ (.quiet h.counters nofun)
  · exact .quiet h.counters nofun

/-! ## Messages -/

/-- Writing a packet leads to a state that does not scan. -/
theorem inBounds_writePacket {packet : Bytes} {state : BleState}
    (h : c.counters.Within robotFile.length) (hstate : state ≠ .scanning) :
    InBounds robotFile (writePacket env packet state c) := by
  unfold writePacket
  simp only
  split
  · exact inBounds_transferFailed _ (.quiet h hstate)
  · exact .quiet h hstate

/-- The next chunk of the robot's file ends where the file ends, at most. -/
theorem robotChunk_le (h : c.robotOffset ≤ robotFile.length) :
    c.robotOffset + robotChunkLength robotFile c ≤ robotFile.length := by
  unfold robotChunkLength
  omega

/-- A chunk takes the offset no further than the end of the file. -/
theorem inBounds_writeNextRobotChunk (h : InBounds robotFile c) :
    InBounds robotFile (writeNextRobotChunk robotFile env c) := by
  unfold writeNextRobotChunk
  split
  · exact inBounds_writePacket h.counters nofun
  · obtain ⟨hsamples, hindex, hclose, hpending, hrobot, hoffset, hreply⟩ := h.counters
    have hend := robotChunk_le hrobot
    refine inBounds_writePacket ⟨hsamples, hindex, hclose, hpending, ?_, hoffset, hreply⟩ nofun
    exact Nat.le_trans (Nat.mod_le _ _) hend

/-- A received message keeps the counters in bounds: the reply is announced with 256 bytes at most,
and no piece goes past its end. -/
theorem inBounds_receiveMessage (value : Bytes) (h : InBounds robotFile c) :
    InBounds robotFile (receiveMessage robotFile env value c) := by
  obtain ⟨hsamples, hindex, hclose, hpending, hrobot, hoffset, hreply⟩ := h.counters
  have hwithin : c.counters.Within robotFile.length := h.counters
  unfold receiveMessage
  split
  · unfold receiveHelloAck
    split_ifs
    · exact h
    · exact inBounds_transferFailed _ h
    · exact inBounds_writePacket
        ⟨hsamples, hindex, hclose, hpending, Nat.zero_le _, hoffset, hreply⟩ nofun
  · unfold receiveFileReady
    split_ifs
    · exact h
    · exact inBounds_transferFailed _ h
    · exact inBounds_writeNextRobotChunk ⟨hwithin, h.scanning⟩
  · unfold receiveFileReceived
    split_ifs
    · exact h
    · exact inBounds_transferFailed _ h
    · exact inBounds_writePacket hwithin nofun
  · unfold receiveReplyStart
    simp only
    split_ifs with hstate hlength hannounced
    · exact h
    · exact inBounds_transferFailed _ h
    · exact inBounds_transferFailed _ h
    · -- the length has been checked before it is narrowed
      have hle : (transferReadU16 value 1).toNat ≤ 256 := by
        rw [not_or, Nat.not_lt] at hannounced
        exact hannounced.2
      refine inBounds_writePacket ?_ nofun
      exact ⟨hsamples, hindex, hclose, hpending, hrobot, Nat.zero_le _,
        Nat.le_trans (Nat.mod_le _ _) hle⟩
  · unfold receiveReplyData
    split_ifs with hstate hshort hfits
    · exact h
    · exact inBounds_transferFailed _ h
    · have hend : c.replyOffset + (byteAt value 2).toNat ≤ c.replyLength := by
        simp only [replyDataFits, decide_eq_true_eq] at hfits
        exact hfits.2.2.2.2
      refine inBounds_writePacket ?_ nofun
      exact ⟨hsamples, hindex, hclose, hpending, hrobot, Nat.le_trans (Nat.mod_le _ _) hend,
        hreply⟩
    · exact inBounds_transferFailed _ h
  · unfold receiveReplyEnd
    split_ifs
    · exact h
    · exact inBounds_writePacket hwithin nofun
    · exact inBounds_transferFailed _ h
  · unfold receiveCompleteAck
    split_ifs
    · exact h
    · exact inBounds_transferFailed _ h
    · exact inBounds_closeAttempt _ ⟨hwithin, h.scanning⟩
  · exact h

/-- A notification is parked only if it has 20 bytes at most. -/
theorem inBounds_handleNotification (value : Bytes) (h : InBounds robotFile c) :
    InBounds robotFile (handleNotification robotFile env value c) := by
  unfold handleNotification
  split_ifs with hclosed herror hwriting hparked
  · exact h
  · exact inBounds_transferFailed _ h
  · exact inBounds_transferFailed _ h
  · obtain ⟨hsamples, hindex, hclose, -, hrobot, hoffset, hreply⟩ := h.counters
    have hlength : value.length ≤ 20 := by
      rw [not_or, Nat.not_lt] at hparked
      exact hparked.1
    exact ⟨⟨hsamples, hindex, hclose, Nat.le_trans (Nat.mod_le _ _) hlength, hrobot, hoffset,
      hreply⟩, h.scanning⟩
  · exact inBounds_receiveMessage value h

/-! ## GATT events -/

/-- Replaying takes the pending length back to zero. -/
theorem inBounds_replayPending (h : InBounds robotFile c) :
    InBounds robotFile (replayPending robotFile env c) := by
  unfold replayPending
  split
  · obtain ⟨hsamples, hindex, hclose, -, hrobot, hoffset, hreply⟩ := h.counters
    refine inBounds_handleNotification _ ⟨?_, h.scanning⟩
    exact ⟨hsamples, hindex, hclose, Nat.zero_le _, hrobot, hoffset, hreply⟩
  · exact h

/-- A GATT setup call keeps the counters in bounds, accepted or refused. -/
theorem inBounds_setupStarted (h : InBounds robotFile c) :
    InBounds robotFile (setupStarted robotFile env c) := by
  unfold setupStarted
  split
  · exact inBounds_transferFailed _ h
  · exact inBounds_replayPending h

/-- The completion of a query keeps them in bounds. -/
theorem inBounds_queryCompleted (h : InBounds robotFile c) :
    InBounds robotFile (queryCompleted robotFile env c) := by
  have hwithin : c.counters.Within robotFile.length := h.counters
  have wait {state : BleState} (hstate : state ≠ .scanning) :
      InBounds robotFile (replayPending robotFile env (c.setState env state)) :=
    inBounds_replayPending (.quiet hwithin hstate)
  unfold queryCompleted
  simp only
  split
  · split
    · exact inBounds_setupStarted (.quiet hwithin nofun)
    · exact inBounds_transferFailed _ h
  · split
    · exact inBounds_setupStarted (.quiet hwithin nofun)
    · exact inBounds_transferFailed _ h
  · exact inBounds_replayPending (inBounds_writePacket hwithin nofun)
  · exact wait nofun
  · exact wait nofun
  · exact inBounds_replayPending (inBounds_writeNextRobotChunk h)
  · exact wait nofun
  · exact wait nofun
  · exact wait nofun
  · exact wait nofun
  · exact h

/-- Every GATT event keeps them in bounds. -/
theorem inBounds_gattHandler (event : Event) (h : InBounds robotFile c) :
    InBounds robotFile (gattHandler robotFile env event c) := by
  unfold gattHandler
  split
  · exact h
  split
  · split
    · exact inBounds_handleNotification _ h
    · exact h
  · split
    · exact ⟨h.counters, h.scanning⟩
    · exact h
  · split
    · exact ⟨h.counters, h.scanning⟩
    · exact h
  · split
    · exact h
    split
    · exact inBounds_transferFailed _ h
    · exact inBounds_queryCompleted h
  · exact h

/-! ## HCI events -/

/-- One more reading: the sample counters stay in range, and so does the count of close
averages, which ends the scan when it reaches three. -/
theorem inBounds_advertisementReceived (report : Advertisement) (h : InBounds robotFile c)
    (hstate : c.bleState = .scanning) :
    InBounds robotFile (advertisementReceived env report c) := by
  obtain ⟨hsamples, -, -, hpending, hrobot, hoffset, hreply⟩ := h.counters
  have hlow : c.closeCount < 3 := h.scanning hstate
  unfold advertisementReceived
  simp only
  generalize hcount : (if c.sampleCount < 12 then c.sampleCount + 1 else c.sampleCount) = count
  have hcount' : count ≤ 12 := by
    rw [← hcount]
    split
    · rename_i hlt
      exact hlt
    · exact hsamples
  have hindex : (c.sampleIndex + 1) % 12 < 12 := Nat.mod_lt _ (by decide)
  split
  · exact h
  split
  · exact h
  split
  · exact ⟨⟨hcount', hindex, Nat.le_of_lt hlow, hpending, hrobot, hoffset, hreply⟩, fun _ => hlow⟩
  split
  · -- one more average is close enough
    have hclose : (c.closeCount + 1) % 4 ≤ 3 := Nat.le_trans (Nat.mod_le _ _) hlow
    split
    · rename_i hlt
      exact ⟨⟨hcount', hindex, hclose, hpending, hrobot, hoffset, hreply⟩, fun _ => hlt⟩
    · exact .quiet ⟨hcount', hindex, hclose, hpending, hrobot, hoffset, hreply⟩ nofun
  · exact ⟨⟨hcount', hindex, Nat.zero_le _, hpending, hrobot, hoffset, hreply⟩,
      fun _ => (by decide : 0 < 3)⟩

/-- A connection that completes keeps them in bounds. -/
theorem inBounds_connectionComplete (status : UInt8) (handle : ConHandle)
    (h : InBounds robotFile c) : InBounds robotFile (connectionComplete env status handle c) := by
  have hwithin : c.counters.Within robotFile.length := h.counters
  unfold connectionComplete
  split
  · exact h
  simp only
  split
  · split
    · exact inBounds_finishAttempt ⟨hwithin, h.scanning⟩
    · exact inBounds_transferFailed _ (.quiet hwithin nofun)
  split
  · exact .quiet hwithin nofun
  split
  · exact inBounds_transferFailed _ (.quiet hwithin nofun)
  · exact .quiet hwithin nofun

/-- The answer to a scan command keeps them in bounds. -/
theorem inBounds_scanEnableComplete (status : UInt8) (h : InBounds robotFile c) :
    InBounds robotFile (scanEnableComplete env status c) := by
  unfold scanEnableComplete
  split
  · exact inBounds_finishAttempt ⟨h.counters, h.scanning⟩
  split
  · exact ⟨h.counters, h.scanning⟩
  · split
    · exact inBounds_finishAttempt ⟨h.counters, h.scanning⟩
    · exact inBounds_beginConnection h
  · exact inBounds_finishAttempt h
  · exact h

/-- A disconnection keeps them in bounds. -/
theorem inBounds_disconnectionComplete (handle : ConHandle) (h : InBounds robotFile c) :
    InBounds robotFile (disconnectionComplete env handle c) := by
  unfold disconnectionComplete
  split
  · exact h
  simp only
  split
  · exact inBounds_finishAttempt ⟨h.counters, h.scanning⟩
  · exact inBounds_finishAttempt ⟨h.counters, h.scanning⟩

/-- **Every packet keeps the counters in bounds.** -/
theorem inBounds_handle (event : Event) (h : InBounds robotFile c) :
    InBounds robotFile (handle robotFile env event c) := by
  unfold handle
  split
  · exact inBounds_gattHandler _ h
  · exact inBounds_gattHandler _ h
  · exact inBounds_gattHandler _ h
  · exact inBounds_gattHandler _ h
  unfold hciHandler
  split
  · exact ⟨h.counters, h.scanning⟩
  · split
    · exact inBounds_scanEnableComplete _ h
    · exact h
  · split
    · rename_i hstate
      exact inBounds_advertisementReceived _ h hstate
    · exact h
  · exact inBounds_connectionComplete _ _ h
  · exact inBounds_disconnectionComplete _ h
  · exact h

/-! ## Run-loop callbacks -/

/-- Counters at zero are in range; the offset in the robot's file is set later. -/
theorem within_zero {file robot : ℕ} (h : robot ≤ file) :
    Counters.Within file ⟨0, 0, 0, 0, robot, 0, 0⟩ :=
  ⟨Nat.zero_le _, (by decide : 0 < 12), Nat.zero_le _, Nat.zero_le _, h, Nat.le_refl _,
    Nat.zero_le _⟩

/-- A new attempt starts with its counters at zero. -/
theorem inBounds_startAttemptCallback (h : InBounds robotFile c) :
    InBounds robotFile (startAttemptCallback env c) := by
  have hrobot : c.robotOffset ≤ robotFile.length := h.counters.robot
  unfold startAttemptCallback
  split
  · exact inBounds_finishAttempt ⟨h.counters, h.scanning⟩
  simp only
  split
  · exact inBounds_beginConnection ⟨within_zero hrobot, fun _ => (by decide : 0 < 3)⟩
  · exact ⟨within_zero hrobot, fun _ => (by decide : 0 < 3)⟩

/-- The polls of an abort touch neither a counter nor the state. -/
theorem counters_abortPolls (c : Client) :
    (abortPolls env c).counters = c.counters ∧ (abortPolls env c).bleState = c.bleState := by
  unfold abortPolls Client.pollStop
  cases env.stopAtReport <;> cases env.stopAtFault <;> cases env.stopAtClose <;>
    simp only [Bool.false_eq_true, if_false, if_true] <;> split <;> exact ⟨rfl, rfl⟩

/-- The abort callback keeps the counters in bounds. -/
theorem inBounds_abortAttemptCallback (h : InBounds robotFile c) :
    InBounds robotFile (abortAttemptCallback env c) := by
  unfold abortAttemptCallback
  split
  · exact h
  · obtain ⟨hcounters, hstate⟩ := @counters_abortPolls env c
    refine inBounds_closeAttempt _ (h.frame hcounters ?_)
    intro hs
    rw [← hstate]
    exact hs

/-! ## Every order of moves -/

/-- The single writes the main thread makes to the statics: those of `run_attempt` and
`payload_client_set_close_threshold`, and the fault mask other code shares. -/
inductive MainWrite
  | reconnect (value : Bool)
  | abort (value : Bool)
  | notConfirmed
  | running
  | stamp (now : UInt32)
  | starting
  | threshold (dbm : ℤ)
  | faults (mask : Faults)
  | newLog
  deriving DecidableEq

/-- One write of the main thread. -/
def Client.mainWrite (w : MainWrite) (c : Client) : Client :=
  match w with
  | .reconnect value => { c with reconnectRequested := value }
  | .abort value => { c with abortRequested := value }
  | .notConfirmed => { c with closeConfirmed := false }
  | .running => { c with attemptRunning := true }
  | .stamp now => { c with phaseStartedMs := now }
  | .starting => { c with bleState := .starting }
  | .threshold dbm => { c with closeRssiDbm := dbm }
  | .faults mask => { c with faults := mask }
  | .newLog => { c with calls := [] }

/-- Everything that touches the statics of the client. -/
inductive Move
  | packet (event : Event) (env : Env)
  | startCallback (env : Env)
  | abortCallback (env : Env)
  | mainWrite (w : MainWrite)
  deriving DecidableEq

/-- What a move does. -/
def move (robotFile : Bytes) (c : Client) : Move → Client
  | .packet event env => handle robotFile env event c
  | .startCallback env => startAttemptCallback env c
  | .abortCallback env => abortAttemptCallback env c
  | .mainWrite w => c.mainWrite w

/-- The statics as a machine: any move, at any time. -/
def moves (robotFile : Bytes) (c : Client) (m : Move) : Option Client := some (move robotFile c m)

/-- **Every move keeps the counters in bounds.** -/
theorem inBounds_move (h : InBounds robotFile c) (m : Move) :
    InBounds robotFile (move robotFile c m) := by
  cases m with
  | packet event env => exact inBounds_handle event h
  | startCallback env => exact inBounds_startAttemptCallback h
  | abortCallback env => exact inBounds_abortAttemptCallback h
  | mainWrite w =>
    cases w with
    | starting => exact .quiet h.counters nofun
    | _ => exact ⟨h.counters, h.scanning⟩

/-- The counters are in bounds at boot. -/
theorem inBounds_boot : InBounds robotFile Client.boot := .quiet (within_zero (Nat.zero_le _)) nofun

/-- **Every order of moves** keeps the counters in bounds. -/
theorem inBounds_run {ms : List Move}
    (hrun : run (moves robotFile) Client.boot ms = some c) : InBounds robotFile c := by
  refine run_invariant (I := InBounds robotFile) ?_ inBounds_boot hrun
  intro c m d h hstep
  cases hstep
  exact inBounds_move h m

/-! ## The moves of the whole system -/

/-- Writes of the main thread, one after the other. -/
theorem run_mainWrites (ws : List MainWrite) (c : Client) :
    run (moves robotFile) c (ws.map .mainWrite) =
      some (ws.foldl (fun c w => c.mainWrite w) c) := by
  induction ws generalizing c with
  | nil => rfl
  | cons w ws ih => exact ih (c.mainWrite w)

/-- Each step of the main thread is made of such writes. -/
theorem mainStep_writes {s t : Sys} (h : MainStep s t) :
    ∃ ws : List MainWrite, t.client = ws.foldl (fun c w => c.mainWrite w) s.client := by
  cases h with
  | drive faults => exact ⟨[.faults faults], rfl⟩
  | call => exact ⟨[], rfl⟩
  | stop faults => exact ⟨[.faults faults], rfl⟩
  | far faults => exact ⟨[.faults faults], rfl⟩
  | begin faults dbm => exact ⟨[.faults faults, .threshold dbm, .newLog], rfl⟩
  | refuse faults => exact ⟨[.faults faults], rfl⟩
  | test faults => exact ⟨[.faults faults], rfl⟩
  | setReconnect => exact ⟨[.reconnect s.main.reconnect], rfl⟩
  | clearAbort => exact ⟨[.abort false], rfl⟩
  | clearConfirmed => exact ⟨[.notConfirmed], rfl⟩
  | setRunning => exact ⟨[.running], rfl⟩
  | stamp now => exact ⟨[.stamp now], rfl⟩
  | starting => exact ⟨[.starting], rfl⟩
  | queueStart => exact ⟨[], rfl⟩
  | loop faults abort => exact ⟨[.faults faults, .abort abort], rfl⟩
  | giveUp faults => exact ⟨[.faults faults], rfl⟩
  | result => exact ⟨[], rfl⟩
  | done faults => exact ⟨[.faults faults], rfl⟩
  | again faults => exact ⟨[.faults faults], rfl⟩

/-- **Each step of the system** is a sequence of moves. -/
theorem step_moves {s t : Sys} {action : Action} (hstep : step robotFile s action = some t) :
    ∃ ms : List Move, run (moves robotFile) s.client ms = some t.client := by
  cases action with
  | packet event env =>
    cases hstep
    exact ⟨[.packet event env], rfl⟩
  | callback env =>
    change runCallback env s = some t at hstep
    cases runCallback_cases hstep with
    | start =>
      exact ⟨[.startCallback env], rfl⟩
    | abort =>
      exact ⟨[.abortCallback env], rfl⟩
  | main world =>
    obtain ⟨ws, hws⟩ := mainStep_writes (mainStep_cases world hstep)
    refine ⟨ws.map .mainWrite, ?_⟩
    rw [run_mainWrites, hws]

/-- In every run of the system the counters stay in bounds. -/
theorem inBounds_system {actions : List Action} {s : Sys}
    (hrun : run (step robotFile) Sys.boot actions = some s) : InBounds robotFile s.client := by
  have hmoves : ∃ ms : List Move, run (moves robotFile) Client.boot ms = some s.client := by
    refine run_invariant
      (I := fun s : Sys => ∃ ms, run (moves robotFile) Client.boot ms = some s.client)
      ?_ ⟨[], rfl⟩ hrun
    rintro s action t ⟨ms, hms⟩ hstep
    obtain ⟨ms', hms'⟩ := step_moves hstep
    refine ⟨ms ++ ms', ?_⟩
    rw [run_append, hms]
    exact hms'
  obtain ⟨ms, hms⟩ := hmoves
  exact inBounds_run hms

end PayloadClient
