/-
# The words the loop of `run_attempt` times with

The loop reads the clock, `phase_started_ms`, the BLE state and the abort flag, and the
callbacks of the stack may run between any two of these reads.

* `Keeps` is what a callback may do to these words: it leaves the abort flag alone, and a state
  that it sets comes with the time of the callback.
* `LoopStep` lists what the main thread does from the cleared abort flag to the end of an
  iteration, access by access.
* `clockedStep` is a step of the system at a time: whatever reads the clock then reads `clockAt`.
-/
import GettingThere.AttemptRun
import GettingThere.TimedRun

namespace PayloadClient

open Transition TransferProtocol

/-! ## Callbacks -/

/-- What a callback at time `now` may do to the abort flag and to the words `set_state`
writes. -/
structure Keeps (now : UInt32) (c d : Client) : Prop where
  abort : d.abortRequested = c.abortRequested
  phase : d.bleState = c.bleState ∧ d.phaseStartedMs = c.phaseStartedMs ∨ d.phaseStartedMs = now

variable {robotFile : Bytes} {env : Env} {now : UInt32} {c d e : Client}

theorem Keeps.refl (c : Client) : Keeps now c c := ⟨rfl, .inl ⟨rfl, rfl⟩⟩

/-- What is done at one time may be done in two pieces. -/
theorem Keeps.trans (h : Keeps now c d) (h' : Keeps now d e) : Keeps now c e := by
  refine ⟨h'.abort.trans h.abort, ?_⟩
  rcases h'.phase with ⟨hstate, hphase⟩ | hnow
  · rw [hstate, hphase]
    exact h.phase
  · exact .inr hnow

/-- Other statics may change as they like. -/
theorem Keeps.of_eq (habort : d.abortRequested = c.abortRequested) (hstate : d.bleState = c.bleState)
    (hphase : d.phaseStartedMs = c.phaseStartedMs) : Keeps now c d :=
  ⟨habort, .inl ⟨hstate, hphase⟩⟩

/-- `set_state`, whatever else is written along with it. -/
theorem Keeps.of_now (habort : d.abortRequested = c.abortRequested)
    (hnow : d.phaseStartedMs = now) : Keeps now c d :=
  ⟨habort, .inr hnow⟩

/-- Finishing an attempt stamps the state it sets. -/
theorem keeps_finishAttempt (c : Client) : Keeps env.now c (finishAttempt env c) := by
  unfold finishAttempt
  split
  · exact .of_now rfl rfl
  · exact .of_now rfl rfl

/-- Closing a scan keeps the words or stamps them. -/
theorem keeps_closeScan (c : Client) : Keeps env.now c (closeScan env c) := by
  have finished (d : Client) (h : Keeps env.now c d) : Keeps env.now c (finishAttempt env d) :=
    h.trans (keeps_finishAttempt d)
  unfold closeScan
  dsimp only
  split_ifs
  · exact .of_now rfl rfl
  · exact finished _ (.of_now rfl rfl)
  · exact .of_now rfl rfl
  · exact finished _ (.of_now rfl rfl)

/-- Closing an attempt keeps them or stamps them. -/
theorem keeps_closeAttempt (r : PayloadResult) (c : Client) :
    Keeps env.now c (closeAttempt env r c) := by
  unfold closeAttempt
  dsimp only
  split
  · refine .trans ?_ (keeps_closeScan _)
    exact .of_eq rfl rfl rfl
  split
  · split
    · exact .of_now rfl rfl
    · exact .of_now rfl rfl
  split
  · exact .of_now rfl rfl
  · refine .trans ?_ (keeps_finishAttempt _)
    exact .of_eq rfl rfl rfl

/-- A failed transfer closes the attempt. -/
theorem keeps_transferFailed (reason : String) (c : Client) :
    Keeps env.now c (transferFailed env reason c) := by
  refine .trans ?_ (keeps_closeAttempt _ _)
  exact .of_eq rfl rfl rfl

/-- Asking for a connection stamps `BLE_CONNECTING`, or the failure. -/
theorem keeps_beginConnection (c : Client) : Keeps env.now c (beginConnection env c) := by
  unfold beginConnection
  dsimp only
  split
  · refine .trans ?_ (keeps_transferFailed _ _)
    exact .of_now rfl rfl
  · exact .of_now rfl rfl

/-! ### The exchange -/

/-- A packet that is written comes with a new state and its time. -/
theorem keeps_writePacket (packet : Bytes) (state : BleState) (c : Client) :
    Keeps env.now c (writePacket env packet state c) := by
  unfold writePacket
  dsimp only
  split
  · refine .trans ?_ (keeps_transferFailed _ _)
    exact .of_now rfl rfl
  · exact .of_now rfl rfl

/-- A chunk of the file is a packet that is written. -/
theorem keeps_writeNextRobotChunk (c : Client) :
    Keeps env.now c (writeNextRobotChunk robotFile env c) := by
  unfold writeNextRobotChunk
  split
  · exact keeps_writePacket _ _ _
  · refine .trans ?_ (keeps_writePacket _ _ _)
    exact .of_eq rfl rfl rfl

/-- **Every accepted or rejected message**: one case of the protocol each. -/
theorem keeps_receiveMessage (value : Bytes) (c : Client) :
    Keeps env.now c (receiveMessage robotFile env value c) := by
  have written (packet : Bytes) (state : BleState) (d : Client) (hd : Keeps env.now c d) :
      Keeps env.now c (writePacket env packet state d) := hd.trans (keeps_writePacket _ _ _)
  unfold receiveMessage
  split
  · -- a refused packet fails the transfer, an accepted one writes the next packet
    unfold receiveHelloAck
    split_ifs
    · exact .refl c
    · exact keeps_transferFailed _ c
    · exact written _ _ _ (.of_eq rfl rfl rfl)
  · unfold receiveFileReady
    split_ifs
    · exact .refl c
    · exact keeps_transferFailed _ c
    · refine .trans ?_ (keeps_writeNextRobotChunk _)
      exact .of_eq rfl rfl rfl
  · unfold receiveFileReceived
    split_ifs
    · exact .refl c
    · exact keeps_transferFailed _ c
    · exact written _ _ _ (.of_eq rfl rfl rfl)
  · unfold receiveReplyStart
    dsimp only
    split_ifs
    · exact .refl c
    · exact keeps_transferFailed _ c
    · exact keeps_transferFailed _ c
    · exact written _ _ _ (.of_eq rfl rfl rfl)
  · unfold receiveReplyData
    split_ifs
    · exact .refl c
    · exact keeps_transferFailed _ c
    · exact written _ _ _ (.of_eq rfl rfl rfl)
    · exact keeps_transferFailed _ c
  · unfold receiveReplyEnd
    split_ifs
    · exact .refl c
    · exact written _ _ _ (.of_eq rfl rfl rfl)
    · exact keeps_transferFailed _ c
  · unfold receiveCompleteAck
    split_ifs
    · exact .refl c
    · exact keeps_transferFailed _ c
    · refine .trans ?_ (keeps_closeAttempt _ _)
      exact .of_eq rfl rfl rfl
  · exact .refl c

/-- A notification changes the state through `set_state` only. -/
theorem keeps_handleNotification (value : Bytes) (c : Client) :
    Keeps env.now c (handleNotification robotFile env value c) := by
  unfold handleNotification
  split_ifs
  · exact .refl c
  · exact keeps_transferFailed _ c
  · exact keeps_transferFailed _ c
  · exact .of_eq rfl rfl rfl
  · exact keeps_receiveMessage value c

/-- A parked notification is handled like one that arrives. -/
theorem keeps_replayPending (c : Client) : Keeps env.now c (replayPending robotFile env c) := by
  unfold replayPending
  split
  · refine .trans ?_ (keeps_handleNotification _ _)
    exact .of_eq rfl rfl rfl
  · exact .refl c

/-- A GATT setup call that was refused closes the attempt. -/
theorem keeps_setupStarted (c : Client) : Keeps env.now c (setupStarted robotFile env c) := by
  unfold setupStarted
  split
  · exact keeps_transferFailed _ c
  · exact keeps_replayPending c

/-- The completion of a query keeps the words, or stamps the next state. -/
theorem keeps_queryCompleted (c : Client) : Keeps env.now c (queryCompleted robotFile env c) := by
  have wait (state : BleState) :
      Keeps env.now c (replayPending robotFile env (c.setState env state)) := by
    refine .trans ?_ (keeps_replayPending _)
    exact .of_now rfl rfl
  unfold queryCompleted
  dsimp only
  split
  · split
    · refine .trans ?_ (keeps_setupStarted _)
      exact .of_now rfl rfl
    · exact keeps_transferFailed _ c
  · split
    · refine .trans ?_ (keeps_setupStarted _)
      exact .of_now rfl rfl
    · exact keeps_transferFailed _ c
  · exact (keeps_writePacket _ _ c).trans (keeps_replayPending _)
  · exact wait _
  · exact wait _
  · exact (keeps_writeNextRobotChunk c).trans (keeps_replayPending _)
  · exact wait _
  · exact wait _
  · exact wait _
  · exact wait _
  · exact .refl c

/-- Every GATT event keeps the words or stamps them. -/
theorem keeps_gattHandler (event : Event) (c : Client) :
    Keeps env.now c (gattHandler robotFile env event c) := by
  unfold gattHandler
  split
  · exact .refl c
  split
  · split
    · exact keeps_handleNotification _ c
    · exact .refl c
  · split
    · exact .of_eq rfl rfl rfl
    · exact .refl c
  · split
    · exact .of_eq rfl rfl rfl
    · exact .refl c
  · split_ifs
    · exact .refl c
    · exact keeps_transferFailed _ c
    · exact keeps_queryCompleted c
  · exact .refl c

/-! ### The link -/

/-- An advertisement keeps the words, or stamps the end of the scan. -/
theorem keeps_advertisementReceived (report : Advertisement) (c : Client) :
    Keeps env.now c (advertisementReceived env report c) := by
  unfold advertisementReceived
  dsimp only
  split_ifs
  · exact .refl c
  · exact .refl c
  all_goals first | exact .of_eq rfl rfl rfl | exact .of_now rfl rfl

/-- A connection that completes keeps them or stamps them. -/
theorem keeps_connectionComplete (status : UInt8) (handle : ConHandle) (c : Client) :
    Keeps env.now c (connectionComplete env status handle c) := by
  have failed (reason : String) (d : Client) (h : Keeps env.now c d) :
      Keeps env.now c (transferFailed env reason d) := h.trans (keeps_transferFailed reason d)
  unfold connectionComplete
  dsimp only
  split_ifs
  · exact .refl c
  · refine .trans ?_ (keeps_finishAttempt _)
    exact .of_eq rfl rfl rfl
  · exact failed _ _ (.of_now rfl rfl)
  · exact .of_now rfl rfl
  · exact failed _ _ (.of_now rfl rfl)
  · exact .of_now rfl rfl

/-- The answer to a scan command keeps them or stamps them. -/
theorem keeps_scanEnableComplete (status : UInt8) (c : Client) :
    Keeps env.now c (scanEnableComplete env status c) := by
  unfold scanEnableComplete
  split
  · refine .trans ?_ (keeps_finishAttempt _)
    exact .of_eq rfl rfl rfl
  split
  · exact .of_eq rfl rfl rfl
  · split
    · refine .trans ?_ (keeps_finishAttempt _)
      exact .of_eq rfl rfl rfl
    · exact keeps_beginConnection c
  · exact keeps_finishAttempt c
  · exact .refl c

/-- A disconnection stamps the end of the attempt. -/
theorem keeps_disconnectionComplete (handle : ConHandle) (c : Client) :
    Keeps env.now c (disconnectionComplete env handle c) := by
  unfold disconnectionComplete
  dsimp only
  split_ifs
  · exact .refl c
  all_goals
    refine .trans ?_ (keeps_finishAttempt _)
    exact .of_eq rfl rfl rfl

/-- **Every packet** of the radio keeps the abort flag and the timing of the phase. -/
theorem keeps_handle (event : Event) (c : Client) : Keeps env.now c (handle robotFile env event c) := by
  unfold handle
  split
  · exact keeps_gattHandler _ c
  · exact keeps_gattHandler _ c
  · exact keeps_gattHandler _ c
  · exact keeps_gattHandler _ c
  unfold hciHandler
  split
  · exact .of_eq rfl rfl rfl
  · split
    · exact keeps_scanEnableComplete _ c
    · exact .refl c
  · split
    · exact keeps_advertisementReceived _ c
    · exact .refl c
  · exact keeps_connectionComplete _ _ c
  · exact keeps_disconnectionComplete _ c
  · exact .refl c

/-- The start callback stamps what it sets. -/
theorem keeps_startAttemptCallback (c : Client) : Keeps env.now c (startAttemptCallback env c) := by
  unfold startAttemptCallback
  dsimp only
  split
  · refine .trans ?_ (keeps_finishAttempt _)
    exact .of_eq rfl rfl rfl
  split
  · refine .trans ?_ (keeps_beginConnection _)
    exact .of_eq rfl rfl rfl
  · exact .of_now rfl rfl

/-- The abort callback leaves the abort flag alone. -/
theorem keeps_abortAttemptCallback (c : Client) :
    Keeps env.now c (abortAttemptCallback env c) := by
  have polls : Keeps env.now c (abortPolls env c) := by
    obtain ⟨faults, heq⟩ : ∃ faults, abortPolls env c = { c with faults := faults } :=
      abortPolls_eq env c
    rw [heq]
    exact .of_eq rfl rfl rfl
  unfold abortAttemptCallback
  split
  · exact .refl c
  · exact polls.trans (keeps_closeAttempt _ _)

/-! ## The system at a time -/

/-- The same move with the clock at `now`. -/
def Action.clocked (now : UInt32) : Action → Action
  | .main world => .main { world with now := now }
  | .callback env => .callback { env with now := now }
  | .packet event env => .packet event { env with now := now }

/-- The move is one of the main thread. -/
def Action.ofMain : Action → Bool
  | .main _ => true
  | .callback _ | .packet _ _ => false

variable (robotFile)

/-- A move of the system at a time: the clock reads `clockAt` throughout the move. -/
def clockedStep (time : ℕ) (s : Sys) (action : Action) : Option Sys :=
  step robotFile s (action.clocked (clockAt time))

variable {robotFile} {time : ℕ} {s t : Sys}

/-- A move of the main thread. -/
theorem clockedStep_main {action : Action} (hmain : action.ofMain = true)
    (h : clockedStep robotFile time s action = some t) :
    ∃ world : World, world.now = clockAt time ∧ mainStep world s = some t := by
  cases action with
  | main world => exact ⟨{ world with now := clockAt time }, rfl, h⟩
  | callback env => cases hmain
  | packet event env => cases hmain

/-- **Every callback of the run loop** keeps the words, and the main thread stays where it is. -/
theorem runCallback_keeps (h : runCallback env s = some t) :
    t.main = s.main ∧ Keeps env.now s.client t.client := by
  cases runCallback_cases h with
  | start =>
    exact ⟨rfl, keeps_startAttemptCallback s.client⟩
  | abort =>
    exact ⟨rfl, keeps_abortAttemptCallback s.client⟩

/-- **A callback or a packet** leaves the main thread where it is, and keeps the words its loop
times with. -/
theorem clockedStep_keeps {action : Action} (hmain : action.ofMain = false)
    (h : clockedStep robotFile time s action = some t) :
    t.main = s.main ∧ Keeps (clockAt time) s.client t.client := by
  cases action with
  | main world => cases hmain
  | callback env => exact runCallback_keeps h
  | packet event env =>
    cases h
    exact ⟨rfl, @keeps_handle robotFile { env with now := clockAt time } event s.client⟩

/-! ## The main thread -/

/-- The stretch of `run_attempt` from the cleared abort flag to the end of an iteration. -/
def Pc.timing : Pc → Bool
  | .clearConfirmed | .setRunning | .stampPhase | .setStarting | .queueStart | .loopHead
  | .announce | .elapsed | .readClock | .readPhase | .testClosing | .testStopping | .failCleanup
  | .readTimeout | .testAbort | .pollStop | .setAbort | .queueAbort | .testDeadline => true
  | _ => false

/-- The steps of the main thread into that stretch. -/
inductive LoopStep (world : World) (s : Sys) : Sys → Prop
  | clearAbort (pc : Pc) (hpc : s.main.pc = .clearAbort)
      (hpc' : pc = .setRunning ∨ pc = .clearConfirmed) :
      LoopStep world s (s.update (fun c => { c with abortRequested := false }) pc)
  | clearConfirmed (hpc : s.main.pc = .clearConfirmed) :
      LoopStep world s (s.update (fun c => { c with closeConfirmed := false }) .setRunning)
  | setRunning (hpc : s.main.pc = .setRunning) :
      LoopStep world s (s.update (fun c => { c with attemptRunning := true }) .stampPhase)
  | stampPhase (hpc : s.main.pc = .stampPhase) :
      LoopStep world s (s.update (fun c => { c with phaseStartedMs := world.now }) .setStarting)
  | setStarting (hpc : s.main.pc = .setStarting) :
      LoopStep world s (s.update (fun c => { c with bleState := .starting }) .queueStart)
  | queueStart (hpc : s.main.pc = .queueStart) :
      LoopStep world s { s with
        queue := enqueue .start s.queue
        main := { s.main with
          pc := .loopHead, start := world.now, abortStarted := 0, closeAnnounced := false } }
  | head (pc : Pc) (hpc : s.main.pc = .loopHead) (hpc' : pc = .announce ∨ pc = .elapsed) :
      LoopStep world s (s.goto pc)
  | announce (announced : Bool) (hpc : s.main.pc = .announce) :
      LoopStep world s { s with main := { s.main with
        pc := .elapsed, closeAnnounced := announced } }
  | phaseFirst (hpc : s.main.pc = .elapsed) :
      LoopStep world s { s with main := { s.main with
        pc := .readClock, clock := s.client.phaseStartedMs } }
  | clockFirst (hpc : s.main.pc = .elapsed) :
      LoopStep world s { s with main := { s.main with pc := .readPhase, clock := world.now } }
  | readClock (hpc : s.main.pc = .readClock) :
      LoopStep world s { s with main := { s.main with
        pc := .testClosing, elapsed := world.now - s.main.clock } }
  | readPhase (hpc : s.main.pc = .readPhase) :
      LoopStep world s { s with main := { s.main with
        pc := .testClosing, elapsed := s.main.clock - s.client.phaseStartedMs } }
  | notClosing (hpc : s.main.pc = .testClosing) : LoopStep world s (s.goto .testStopping)
  | unclean (hlimit : cleanupTimeoutMs ≤ s.main.elapsed)
      (hstate : s.main.pc = .testClosing ∧ s.client.bleState = .closing ∨
        s.main.pc = .testStopping ∧ s.client.bleState = .stoppingScan) :
      LoopStep world s (s.goto .failCleanup)
  | clean (hpc : s.main.pc = .testClosing ∨ s.main.pc = .testStopping) :
      LoopStep world s (s.goto .readTimeout)
  | readTimeout (hpc : s.main.pc = .readTimeout) :
      LoopStep world s { s with main := { s.main with
        pc := .testAbort, timeout := phaseTimeout s.client.bleState } }
  | aborting (hpc : s.main.pc = .testAbort) (habort : s.client.abortRequested = true) :
      LoopStep world s (s.goto .testDeadline)
  | polling (hpc : s.main.pc = .testAbort) (habort : s.client.abortRequested = false) :
      LoopStep world s (s.goto .pollStop)
  | late (faults : Faults) (hpc : s.main.pc = .pollStop)
      (hwhy : .stopLatched ∈ faults ∨ s.main.timeout ≤ s.main.elapsed ∨
        attemptTimeoutMs ≤ world.now - s.main.start) :
      LoopStep world s { s with
        client := { s.client with faults := faults }, main := { s.main with pc := .setAbort } }
  | inTime (faults : Faults) (hpc : s.main.pc = .pollStop)
      (hlimit : ¬ attemptTimeoutMs ≤ world.now - s.main.start) :
      LoopStep world s { s with
        client := { s.client with faults := faults }, main := { s.main with pc := .testDeadline } }
  | setAbort (hpc : s.main.pc = .setAbort) :
      LoopStep world s (s.update (fun c => { c with abortRequested := true }) .queueAbort)
  | queueAbort (hpc : s.main.pc = .queueAbort) :
      LoopStep world s { s with
        queue := enqueue .abort s.queue
        main := { s.main with pc := .testDeadline, abortStarted := world.now } }
  | sleep (hpc : s.main.pc = .testDeadline)
      (hlimit : s.client.abortRequested = true →
        ¬ cleanupTimeoutMs ≤ world.now - s.main.abortStarted) :
      LoopStep world s (s.goto .loopHead)

variable {world : World}

/-- Nothing outside `run_attempt` leads into that stretch. -/
theorem timing_of_outside (h : MainStep s t) (hstage : s.main.pc.stage = .outside) :
    t.main.pc.timing = false := by
  -- a step from inside an attempt does not begin outside
  have elsewhere {pc : Pc} (hpc : s.main.pc = pc) (hne : pc.stage ≠ .outside) :
      t.main.pc.timing = false := by
    rw [hpc] at hstage
    exact absurd hstage hne
  cases h with
  | drive faults hpc =>
    show s.main.pc.timing = false
    rw [hpc]
    rfl
  | call => rfl
  | stop faults main hpc hpc' =>
    show main.pc.timing = false
    rw [hpc']
    rfl
  | far => rfl
  | «begin» => rfl
  | refuse => rfl
  | test faults pc hpc =>
    rw [hstage] at hpc
    cases hpc
  | setReconnect hpc => exact elsewhere hpc (by decide)
  | clearAbort pc hpc => exact elsewhere hpc (by decide)
  | clearConfirmed hpc => exact elsewhere hpc (by decide)
  | setRunning hpc => exact elsewhere hpc (by decide)
  | stamp now hpc => exact elsewhere hpc (by decide)
  | starting hpc => exact elsewhere hpc (by decide)
  | queueStart main hpc => exact elsewhere hpc (by decide)
  | loop faults abort queue main hpc =>
    rw [hstage] at hpc
    cases hpc
  | giveUp => rfl
  | result => rfl
  | done faults main hpc hpc' =>
    show main.pc.timing = false
    rw [hpc']
    rfl
  | again faults main hpc hpc' =>
    show main.pc.timing = false
    rw [hpc']
    rfl

/-- **Every step into that stretch** is one of these. -/
theorem loopStep_of_timing (h : mainStep world s = some t) (htiming : t.main.pc.timing = true) :
    LoopStep world s t := by
  have outside (hstep : MainStep s t) (hstage : s.main.pc.stage = .outside) :
      LoopStep world s t := by
    rw [timing_of_outside hstep hstage] at htiming
    cases htiming
  unfold mainStep at h
  simp only at h
  split at h <;> rename_i hpc
  · exact outside (driving_step world hpc h) (by rw [hpc]; rfl)
  · cases h
    exact outside (checking_step world hpc) (by rw [hpc]; rfl)
  -- the entry tests lead to one another, out of the attempt or to its first write
  · cases h
    split at htiming <;> cases htiming
  · cases h
    split at htiming <;> cases htiming
  · cases h
    split_ifs at htiming <;> cases htiming
  · cases h
    split at htiming <;> cases htiming
  · cases h
    split at htiming <;> cases htiming
  · cases h
    split at htiming <;> cases htiming
  · cases h
    cases htiming
  · -- clearAbort
    cases h
    refine .clearAbort _ hpc ?_
    split
    · exact .inl rfl
    · exact .inr rfl
  · cases h
    exact .clearConfirmed hpc
  · cases h
    exact .setRunning hpc
  · cases h
    exact .stampPhase hpc
  · cases h
    exact .setStarting hpc
  · cases h
    exact .queueStart hpc
  · -- loopHead
    cases h
    revert htiming
    split
    · intro _
      split
      · exact .head _ hpc (.inr rfl)
      · exact .head _ hpc (.inl rfl)
    · intro htiming
      cases htiming
  · cases h
    exact .announce _ hpc
  · -- elapsed
    cases h
    split
    · exact .phaseFirst hpc
    · exact .clockFirst hpc
  · cases h
    exact .readClock hpc
  · cases h
    exact .readPhase hpc
  · -- testClosing
    cases h
    unfold afterCleanup
    split
    · rename_i hstate
      split
      · rename_i hlimit
        exact .unclean hlimit.2 (.inl ⟨hpc, hstate⟩)
      · exact .clean (.inl hpc)
    · exact .notClosing hpc
  · -- testStopping
    cases h
    unfold afterCleanup
    split
    · rename_i hlimit
      exact .unclean hlimit.2 (.inr ⟨hpc, of_decide_eq_true hlimit.1⟩)
    · exact .clean (.inr hpc)
  · cases h
    cases htiming
  · cases h
    cases htiming
  · cases h
    exact .readTimeout hpc
  · -- testAbort
    cases h
    split
    · rename_i habort
      exact .aborting hpc habort
    · rename_i habort
      exact .polling hpc (Bool.eq_false_of_not_eq_true habort)
  · -- pollStop
    obtain ⟨faults, hpoll, -⟩ := pollStop_eq world.pressed s.client
    rw [hpoll] at h
    cases h
    split
    · rename_i hwhy
      refine .late faults hpc ?_
      rw [stopLatched_iff] at hwhy
      exact hwhy
    · rename_i hwhy
      refine .inTime faults hpc fun hlimit => hwhy (.inr (.inr hlimit))
  · cases h
    exact .setAbort hpc
  · cases h
    exact .queueAbort hpc
  · -- testDeadline
    cases h
    split at htiming
    · cases htiming
    · rename_i hlimit
      rw [if_neg hlimit]
      exact .sleep hpc fun habort hlate => hlimit ⟨habort, hlate⟩
  -- after the loop
  · cases h
    split_ifs at htiming <;> cases htiming
  · cases h
    cases htiming
  · cases h
    exact outside (afterAttempt_step world hpc) (by rw [hpc]; rfl)

end PayloadClient
