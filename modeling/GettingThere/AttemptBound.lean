/-
# How long the loop of `run_attempt` lasts

Every change of state restarts the phase timer, so a stack that keeps changing states is never
late, and one that never answers may leave the abort callback undone.  The loop still ends: after
30 s an abort is requested, and 3 s after the request the main thread gives up.

An observer notes when the loop and its current iteration began, when the sleep of 10 ms is over
and when the abort was requested (`Rounds`).  `Paced` is what these notes say at every point of
the loop, and `Bounded` that they do so whenever the loop is under way.
-/
import GettingThere.AttemptClock

namespace PayloadClient

open Transition TransferProtocol

/-! ## Notes on the loop -/

/-- The loop of `run_attempt`, from one test of `F_ATTEMPT_RUNNING` to the next. -/
def Pc.looping : Pc → Bool
  | .loopHead | .announce | .elapsed | .readClock | .readPhase | .testClosing | .testStopping
  | .readTimeout | .testAbort | .pollStop | .setAbort | .queueAbort | .testDeadline => true
  | _ => false

/-- What an observer notes: when the loop began (`start` is read), when its current iteration
did, when the sleep after the last one is over, when the abort was requested, and how many
iterations have begun and how many moves the main thread has made in the loop. -/
structure Rounds where
  began : ℕ
  head : ℕ
  wake : ℕ
  abortedAt : Option ℕ
  rounds : ℕ
  moves : ℕ
  deriving DecidableEq, Repr

/-- The notes after a move of the main thread. -/
def Rounds.next (pc : Pc) (time : ℕ) (n : Rounds) : Rounds :=
  match pc with
  | .queueStart => ⟨time, time, time, none, 0, 0⟩
  | .loopHead => { n with head := time, rounds := n.rounds + 1, moves := n.moves + 1 }
  | .queueAbort => { n with abortedAt := some time, moves := n.moves + 1 }
  -- the test is followed by `sleep_ms(10)`
  | .testDeadline => { n with wake := time + 10, moves := n.moves + 1 }
  | _ => { n with moves := n.moves + 1 }

/-- The notes after a move; callbacks and packets are not noted. -/
def Rounds.observe (x : Timed Sys Rounds) (time : ℕ) (action : Action) (_ : Sys) : Rounds :=
  if action.ofMain then x.note.next x.state.main.pc time else x.note

/-- One move of the system at a time, with the notes on the loop. -/
def roundStep (robotFile : Bytes) : Timed Sys Rounds → ℕ × Action → Option (Timed Sys Rounds) :=
  timedStep (clockedStep robotFile) Rounds.observe

/-- The robot starts to drive. -/
def Rounds.boot : Timed Sys Rounds := ⟨0, .boot, ⟨0, 0, 0, none, 0, 0⟩⟩

/-- `sleep_ms(10)` lets at least 10 ms go by. -/
def Sleeps (x : Timed Sys Rounds) (move : ℕ × Action) : Prop :=
  move.2.ofMain = true → x.state.main.pc = .loopHead → x.note.wake ≤ move.1

/-- No iteration takes longer than `limit` ms: the main thread makes each of its moves, and is
back at the head of the loop, in that time. -/
def Punctual (limit : ℕ) (x : Timed Sys Rounds) (move : ℕ × Action) : Prop :=
  move.2.ofMain = true → x.state.main.pc.looping = true → move.1 ≤ x.note.head + limit

instance decidableSleeps (x : Timed Sys Rounds) (move : ℕ × Action) : Decidable (Sleeps x move) :=
  inferInstanceAs (Decidable (_ → _))

instance decidablePunctual (limit : ℕ) (x : Timed Sys Rounds) (move : ℕ × Action) :
    Decidable (Punctual limit x move) :=
  inferInstanceAs (Decidable (_ → _))

/-! ## The invariant -/

/-- An attempt is being set up, and its abort flag has been cleared. -/
def Pc.settingUp : Pc → Bool
  | .clearConfirmed | .setRunning | .stampPhase | .setStarting | .queueStart => true
  | _ => false

/-- How many moves into an iteration the main thread can be. -/
def Pc.place : Pc → ℕ
  | .announce => 1
  | .elapsed => 2
  | .readClock | .readPhase => 3
  | .testClosing => 4
  | .testStopping => 5
  | .readTimeout => 6
  | .testAbort => 7
  | .pollStop => 8
  | .setAbort => 9
  | .queueAbort => 10
  | .testDeadline => 11
  | _ => 12

/-- Between the test of a clear abort flag and the end of the request. -/
def Pc.requesting : Pc → Bool
  | .pollStop | .setAbort | .queueAbort => true
  | _ => false

/-- No abort has been requested: the iteration began in time. -/
structure Unaborted (limit : ℕ) (x : Timed Sys Rounds) : Prop where
  note : x.note.abortedAt = none
  flag : x.state.client.abortRequested = true ↔ x.state.main.pc = .queueAbort
  head : x.note.head < x.note.began + 30000 + limit
  tested : x.state.main.pc = .testDeadline ∨ x.state.main.pc = .loopHead →
    x.note.head < x.note.began + 30000

/-- The flag goes up a moment before the request. -/
theorem Unaborted.clear {limit : ℕ} {x : Timed Sys Rounds} (h : Unaborted limit x)
    (hpc : x.state.main.pc ≠ .queueAbort) : ¬ x.state.client.abortRequested = true :=
  fun hset => hpc (h.flag.mp hset)

/-- An abort was requested at `a`, in time. -/
structure Aborted (limit a : ℕ) (x : Timed Sys Rounds) : Prop where
  note : x.note.abortedAt = some a
  flag : x.state.client.abortRequested = true
  pc : x.state.main.pc.requesting = false
  started : x.state.main.abortStarted = clockAt a
  past : a ≤ x.time
  early : a < x.note.began + 30000 + 2 * limit
  head : x.note.head < a + 3000 + limit
  tested : x.state.main.pc = .loopHead → x.note.head < a + 3000

/-- What holds at every point of the loop: each iteration but the last has slept its 10 ms and
taken at most twelve moves. -/
structure Paced (limit : ℕ) (x : Timed Sys Rounds) : Prop where
  started : x.state.main.start = clockAt x.note.began
  past : x.note.began ≤ x.note.head ∧ x.note.head ≤ x.time
  slept : x.state.main.pc = .loopHead → x.note.began + 10 * x.note.rounds ≤ x.note.wake
  paced : x.note.began + 10 * x.note.rounds ≤ x.note.head + 10
  moves : x.note.moves + 12 ≤ 12 * x.note.rounds + x.state.main.pc.place
  request : Unaborted limit x ∨ ∃ a, Aborted limit a x

/-- The abort flag is clear when the loop begins, and the loop is paced. -/
structure Bounded (limit : ℕ) (x : Timed Sys Rounds) : Prop where
  clear : x.state.main.pc.settingUp = true → x.state.client.abortRequested = false
  loop : x.state.main.pc.looping = true → Paced limit x

variable {limit time : ℕ} {x : Timed Sys Rounds} {s t : Sys} {world : World}

/-- A callback or a packet. -/
theorem Bounded.keep (h : Bounded limit x) (htime : x.time ≤ time) (hmain : t.main = x.state.main)
    (habort : t.client.abortRequested = x.state.client.abortRequested) :
    Bounded limit ⟨time, t, x.note⟩ := by
  constructor
  · intro hpc
    dsimp only at hpc ⊢
    rw [hmain] at hpc
    rw [habort]
    exact h.clear hpc
  · intro hpc
    dsimp only at hpc
    rw [hmain] at hpc
    -- the notes are the same, and time has passed
    have hp := h.loop hpc
    refine ⟨?_, ⟨hp.past.1, hp.past.2.trans htime⟩, ?_, hp.paced, ?_, ?_⟩
    · dsimp only
      rw [hmain]
      exact hp.started
    · dsimp only
      rw [hmain]
      exact hp.slept
    · dsimp only
      rw [hmain]
      exact hp.moves
    · rcases hp.request with hu | ⟨a, ha⟩
      · refine .inl ⟨hu.note, ?_, hu.head, ?_⟩
        · dsimp only
          rw [hmain, habort]
          exact hu.flag
        · dsimp only
          rw [hmain]
          exact hu.tested
      · refine .inr ⟨a, ha.note, ?_, ?_, ?_, ha.past.trans htime, ha.early, ha.head, ?_⟩
        · dsimp only
          rw [habort]
          exact ha.flag
        · dsimp only
          rw [hmain]
          exact ha.pc
        · dsimp only
          rw [hmain]
          exact ha.started
        · dsimp only
          rw [hmain]
          exact ha.tested

/-- Only the first abort of an attempt is requested. -/
theorem Paced.unaborted (h : Paced limit x) (hpc : x.state.main.pc.requesting = true) :
    Unaborted limit x := by
  rcases h.request with hu | ⟨a, ha⟩
  · exact hu
  · rw [ha.pc] at hpc
    cases hpc

/-- A step inside an iteration: one more move, and the abort flag as it was. -/
theorem Paced.walk (h : Paced limit x) (htime : x.time ≤ time) (pc pc' : Pc)
    (hpc : x.state.main.pc = pc) (hpc' : t.main.pc = pc')
    (hstart : t.main.start = x.state.main.start)
    (hstarted : t.main.abortStarted = x.state.main.abortStarted)
    (habort : t.client.abortRequested = x.state.client.abortRequested)
    (hwalk : pc.place < pc'.place ∧ pc ≠ .loopHead ∧ pc ≠ .queueAbort ∧ pc' ≠ .loopHead ∧
      pc' ≠ .queueAbort)
    (hrequest : x.state.client.abortRequested = false ∨ pc'.requesting = false)
    (hdone : x.state.client.abortRequested = true ∨ pc' ≠ .testDeadline) :
    Paced limit ⟨time, t, { x.note with moves := x.note.moves + 1 }⟩ := by
  obtain ⟨hplace, hfrom, hqueue, hhead, hqueue'⟩ := hwalk
  subst hpc hpc'
  refine ⟨hstart.trans h.started, ⟨h.past.1, h.past.2.trans htime⟩,
    fun hloop => absurd hloop hhead, h.paced, ?_, ?_⟩
  · have := h.moves
    dsimp only
    omega
  · rcases h.request with hu | ⟨a, ha⟩
    · have hclear := hu.clear hqueue
      refine .inl ⟨hu.note, ?_, hu.head, fun htested => ?_⟩
      · dsimp only
        rw [habort]
        exact iff_of_false hclear hqueue'
      · rcases htested with htested | htested
        · rcases hdone with hdone | hdone
          · exact absurd hdone hclear
          · exact absurd htested hdone
        · exact absurd htested hhead
    · refine .inr ⟨a, ha.note, habort.trans ha.flag, ?_, hstarted.trans ha.started,
        ha.past.trans htime, ha.early, ha.head, fun hloop => absurd hloop hhead⟩
      rcases hrequest with hclear | hpc
      · rw [ha.flag] at hclear
        cases hclear
      · exact hpc

/-! ## Steps -/

theorem timing_of_looping {pc : Pc} (h : pc.looping = true ∨ pc.settingUp = true) :
    pc.timing = true := by
  revert h
  cases pc <;> decide

/-- The loop begins. -/
theorem paced_begins (hclear : s.client.abortRequested = false) (hnow : world.now = clockAt time) :
    Paced limit ⟨time, { s with
      queue := enqueue .start s.queue
      main := { s.main with
        pc := .loopHead, start := world.now, abortStarted := 0, closeAnnounced := false } },
      ⟨time, time, time, none, 0, 0⟩⟩ where
  started := hnow
  past := ⟨le_refl _, le_refl _⟩
  slept _ := le_refl _
  paced := Nat.le_add_right _ _
  moves := le_refl _
  request := by
    refine .inl ⟨rfl, ?_, ?_, fun _ => ?_⟩
    · dsimp only
      rw [hclear]
      exact iff_of_false (by decide) (by decide)
    · dsimp only
      omega
    · dsimp only
      omega

/-- An iteration begins: within `limit` of the one before it, and after its sleep. -/
theorem Paced.head (h : Paced limit x) (htime : x.time ≤ time)
    (hloop : x.state.main.pc = .loopHead) (hslept : x.note.wake ≤ time)
    (hpunctual : time ≤ x.note.head + limit) {pc : Pc} (hpc : pc = .announce ∨ pc = .elapsed) :
    Paced limit ⟨time, x.state.goto pc, { x.note with
      head := time, rounds := x.note.rounds + 1, moves := x.note.moves + 1 }⟩ := by
  have hne : pc ≠ .loopHead ∧ pc ≠ .testDeadline ∧ pc.requesting = false ∧ pc ≠ .queueAbort ∧
      1 ≤ pc.place := by
    rcases hpc with rfl | rfl <;> decide
  have hplace := h.moves
  have hwake := h.slept hloop
  have hpast := h.past
  rw [hloop] at hplace
  refine ⟨h.started, ⟨?_, le_refl _⟩, fun hhead => absurd hhead hne.1, ?_, ?_, ?_⟩
  · exact hpast.1.trans (hpast.2.trans htime)
  · dsimp only
    omega
  · show x.note.moves + 1 + 12 ≤ 12 * (x.note.rounds + 1) + pc.place
    change x.note.moves + 12 ≤ 12 * x.note.rounds + 12 at hplace
    omega
  · rcases h.request with hu | ⟨a, ha⟩
    · have hhead := hu.tested (.inr hloop)
      refine .inl ⟨hu.note, ?_, ?_, fun hdone => ?_⟩
      · exact iff_of_false (hu.clear (by rw [hloop]; decide)) hne.2.2.2.1
      · dsimp only
        omega
      · rcases hdone with hdone | hdone
        · exact absurd hdone hne.2.1
        · exact absurd hdone hne.1
    · have hhead := ha.tested hloop
      refine .inr ⟨a, ha.note, ha.flag, hne.2.2.1, ha.started,
        ha.past.trans htime, ha.early, ?_, fun hhead => absurd hhead hne.1⟩
      dsimp only
      omega

/-- The attempt limit is tested and not reached. -/
theorem Paced.inTime (h : Paced limit x) (hlimit : limit < 2 ^ 31 - 40000) (htime : x.time ≤ time)
    (hnow : world.now = clockAt time) (hpunctual : time ≤ x.note.head + limit)
    (hpc : x.state.main.pc = .pollStop)
    (htest : ¬ attemptTimeoutMs ≤ world.now - x.state.main.start) (faults : Faults) :
    Paced limit ⟨time, { x.state with
      client := { x.state.client with faults := faults }
      main := { x.state.main with pc := .testDeadline } },
      { x.note with moves := x.note.moves + 1 }⟩ := by
  have hpast := h.past
  have hplace := h.moves
  rw [hpc] at hplace
  have hu := h.unaborted (by rw [hpc]; rfl)
  have hhead := hu.head
  -- the clock has not come round since `start` was read
  have hpassed : time - x.note.began < 30000 := by
    rw [hnow, h.started, le_elapsed_iff attemptTimeoutMs (by omega) (by omega)] at htest
    exact Nat.lt_of_not_le htest
  refine ⟨h.started, ⟨hpast.1, hpast.2.trans htime⟩, fun hloop => ?_, h.paced, ?_, ?_⟩
  · cases hloop
  · show x.note.moves + 1 + 12 ≤ 12 * x.note.rounds + 11
    change x.note.moves + 12 ≤ 12 * x.note.rounds + 8 at hplace
    omega
  · refine .inl ⟨hu.note, iff_of_false (hu.clear (by rw [hpc]; decide)) (by rintro ⟨⟩), hhead, ?_⟩
    intro _
    · dsimp only
      omega

/-- The abort flag is set, a moment before the request. -/
theorem Paced.setAbort (h : Paced limit x) (htime : x.time ≤ time)
    (hpc : x.state.main.pc = .setAbort) :
    Paced limit ⟨time, x.state.update (fun c => { c with abortRequested := true }) .queueAbort,
      { x.note with moves := x.note.moves + 1 }⟩ := by
  have hplace := h.moves
  rw [hpc] at hplace
  have hu := h.unaborted (by rw [hpc]; rfl)
  refine ⟨h.started, ⟨h.past.1, h.past.2.trans htime⟩, fun hloop => ?_, h.paced, ?_, ?_⟩
  · cases hloop
  · show x.note.moves + 1 + 12 ≤ 12 * x.note.rounds + 10
    change x.note.moves + 12 ≤ 12 * x.note.rounds + 9 at hplace
    omega
  · refine .inl ⟨hu.note, iff_of_true rfl rfl, hu.head, ?_⟩
    intro hdone
    rcases hdone with hdone | hdone
    · cases hdone
    · cases hdone

/-- The abort is requested at `time`. -/
theorem Paced.request_abort (h : Paced limit x) (htime : x.time ≤ time)
    (hnow : world.now = clockAt time) (hpunctual : time ≤ x.note.head + limit)
    (hpc : x.state.main.pc = .queueAbort) :
    Paced limit ⟨time, { x.state with
      queue := enqueue .abort x.state.queue
      main := { x.state.main with pc := .testDeadline, abortStarted := world.now } },
      { x.note with abortedAt := some time, moves := x.note.moves + 1 }⟩ := by
  have hpast := h.past
  have hplace := h.moves
  rw [hpc] at hplace
  have hu := h.unaborted (by rw [hpc]; rfl)
  have hhead := hu.head
  refine ⟨h.started, ⟨hpast.1, hpast.2.trans htime⟩, fun hloop => ?_, h.paced, ?_, ?_⟩
  · cases hloop
  · show x.note.moves + 1 + 12 ≤ 12 * x.note.rounds + 11
    change x.note.moves + 12 ≤ 12 * x.note.rounds + 10 at hplace
    omega
  · refine .inr ⟨time, rfl, hu.flag.mpr hpc, rfl, hnow, le_refl _, ?_, ?_,
      fun hloop => ?_⟩
    · dsimp only
      omega
    · dsimp only
      omega
    · cases hloop

/-- The iteration ends with `sleep_ms(10)`. -/
theorem Paced.sleep (h : Paced limit x) (hlimit : limit < 2 ^ 31 - 40000) (htime : x.time ≤ time)
    (hnow : world.now = clockAt time) (hpunctual : time ≤ x.note.head + limit)
    (hpc : x.state.main.pc = .testDeadline)
    (htest : x.state.client.abortRequested = true →
      ¬ cleanupTimeoutMs ≤ world.now - x.state.main.abortStarted) :
    Paced limit ⟨time, x.state.goto .loopHead,
      { x.note with wake := time + 10, moves := x.note.moves + 1 }⟩ := by
  have hpast := h.past
  have hplace := h.moves
  rw [hpc] at hplace
  have hpaced := h.paced
  refine ⟨h.started, ⟨hpast.1, hpast.2.trans htime⟩, fun _ => ?_, hpaced, ?_, ?_⟩
  · dsimp only
    omega
  · show x.note.moves + 1 + 12 ≤ 12 * x.note.rounds + 12
    change x.note.moves + 12 ≤ 12 * x.note.rounds + 11 at hplace
    omega
  · rcases h.request with hu | ⟨a, ha⟩
    · exact .inl ⟨hu.note, iff_of_false (hu.clear (by rw [hpc]; decide)) (by rintro ⟨⟩), hu.head,
        fun _ => hu.tested (.inl hpc)⟩
    · have hhead := ha.head
      have hsince := ha.past
      -- the clock has not come round since the abort was requested
      have hpassed : time - a < 3000 := by
        have hlate := htest ha.flag
        rw [hnow, ha.started, le_elapsed_iff cleanupTimeoutMs (by omega) (by omega)] at hlate
        exact Nat.lt_of_not_le hlate
      refine .inr ⟨a, ha.note, ha.flag, rfl, ha.started, ha.past.trans htime, ha.early, hhead, ?_⟩
      intro _
      dsimp only
      omega

/-- A move of the main thread. -/
theorem Bounded.main (h : Bounded limit x) (hlimit : limit < 2 ^ 31 - 40000) (htime : x.time ≤ time)
    (hnow : world.now = clockAt time)
    (hsleeps : x.state.main.pc = .loopHead → x.note.wake ≤ time)
    (hpunctual : x.state.main.pc.looping = true → time ≤ x.note.head + limit)
    (hstep : mainStep world x.state = some t) :
    Bounded limit ⟨time, t, x.note.next x.state.main.pc time⟩ := by
  suffices hgoal : t.main.pc.timing = true →
      Bounded limit ⟨time, t, x.note.next x.state.main.pc time⟩ by
    constructor
    · intro hpc
      exact (hgoal (timing_of_looping (.inr hpc))).clear hpc
    · intro hpc
      exact (hgoal (timing_of_looping (.inl hpc))).loop hpc
  intro htiming
  obtain ⟨hclear, hloop⟩ := h
  have setUp (hc : t.client.abortRequested = false) (hpc : t.main.pc.looping = false) :
      Bounded limit ⟨time, t, x.note.next x.state.main.pc time⟩ := by
    refine ⟨fun _ => hc, ?_⟩
    intro hpc'
    rw [hpc] at hpc'
    cases hpc'
  have paced {n : Rounds} (hn : x.note.next x.state.main.pc time = n)
      (hpc : t.main.pc.settingUp = false) (hp : Paced limit ⟨time, t, n⟩) :
      Bounded limit ⟨time, t, x.note.next x.state.main.pc time⟩ := by
    constructor
    · intro hpc'
      rw [hpc] at hpc'
      cases hpc'
    · intro _
      rw [hn]
      exact hp
  -- a step that leaves the abort flag alone
  have walks (pc pc' : Pc) (hpc : x.state.main.pc = pc) (hpc' : t.main.pc = pc')
      (hstart : t.main.start = x.state.main.start)
      (hstarted : t.main.abortStarted = x.state.main.abortStarted)
      (habort : t.client.abortRequested = x.state.client.abortRequested)
      (hn : x.note.next pc time = { x.note with moves := x.note.moves + 1 })
      (hloops : pc.looping = true ∧ pc'.settingUp = false)
      (hwalk : pc.place < pc'.place ∧ pc ≠ .loopHead ∧ pc ≠ .queueAbort ∧ pc' ≠ .loopHead ∧
        pc' ≠ .queueAbort)
      (hrequest : x.state.client.abortRequested = false ∨ pc'.requesting = false)
      (hdone : x.state.client.abortRequested = true ∨ pc' ≠ .testDeadline) :
      Bounded limit ⟨time, t, x.note.next x.state.main.pc time⟩ := by
    apply paced (hpc ▸ hn) (hpc' ▸ hloops.2)
    exact (hloop (hpc ▸ hloops.1)).walk htime pc pc' hpc hpc' hstart hstarted habort hwalk hrequest
      hdone
  have reads (pc pc' : Pc) (hpc : x.state.main.pc = pc) (hpc' : t.main.pc = pc')
      (hstart : t.main.start = x.state.main.start)
      (hstarted : t.main.abortStarted = x.state.main.abortStarted)
      (habort : t.client.abortRequested = x.state.client.abortRequested)
      (hn : x.note.next pc time = { x.note with moves := x.note.moves + 1 })
      (hpcs : (pc.looping = true ∧ pc'.settingUp = false) ∧
        (pc.place < pc'.place ∧ pc ≠ .loopHead ∧ pc ≠ .queueAbort ∧ pc' ≠ .loopHead ∧
          pc' ≠ .queueAbort) ∧ pc'.requesting = false ∧ pc' ≠ .testDeadline) :
      Bounded limit ⟨time, t, x.note.next x.state.main.pc time⟩ :=
    walks pc pc' hpc hpc' hstart hstarted habort hn hpcs.1 hpcs.2.1 (.inr hpcs.2.2.1)
      (.inr hpcs.2.2.2)
  cases loopStep_of_timing hstep htiming with
  | clearAbort pc hpc hpc' =>
    apply setUp rfl
    rcases hpc' with rfl | rfl
    · rfl
    · rfl
  | clearConfirmed hpc => exact setUp (hclear (by rw [hpc]; rfl)) rfl
  | setRunning hpc => exact setUp (hclear (by rw [hpc]; rfl)) rfl
  | stampPhase hpc => exact setUp (hclear (by rw [hpc]; rfl)) rfl
  | setStarting hpc => exact setUp (hclear (by rw [hpc]; rfl)) rfl
  | queueStart hpc =>
    apply paced (by rw [hpc]) rfl
    exact paced_begins (hclear (by rw [hpc]; rfl)) hnow
  | head pc hpc hpc' =>
    refine paced (by rw [hpc]) ?_ ?_
    · rcases hpc' with rfl | rfl
      · rfl
      · rfl
    · have hp := hloop (by rw [hpc]; rfl)
      exact hp.head htime hpc (hsleeps hpc) (hpunctual (by rw [hpc]; rfl)) hpc'
  | announce announced hpc => exact reads .announce .elapsed hpc rfl rfl rfl rfl rfl (by decide)
  | phaseFirst hpc => exact reads .elapsed .readClock hpc rfl rfl rfl rfl rfl (by decide)
  | clockFirst hpc => exact reads .elapsed .readPhase hpc rfl rfl rfl rfl rfl (by decide)
  | readClock hpc => exact reads .readClock .testClosing hpc rfl rfl rfl rfl rfl (by decide)
  | readPhase hpc => exact reads .readPhase .testClosing hpc rfl rfl rfl rfl rfl (by decide)
  | notClosing hpc => exact reads .testClosing .testStopping hpc rfl rfl rfl rfl rfl (by decide)
  | unclean hdue hstate =>
    constructor
    · intro hpc
      cases hpc
    · intro hpc
      cases hpc
  | clean hpc =>
    rcases hpc with hpc | hpc
    · exact reads .testClosing .readTimeout hpc rfl rfl rfl rfl rfl (by decide)
    · exact reads .testStopping .readTimeout hpc rfl rfl rfl rfl rfl (by decide)
  | readTimeout hpc => exact reads .readTimeout .testAbort hpc rfl rfl rfl rfl rfl (by decide)
  | aborting hpc habort =>
    exact walks .testAbort .testDeadline hpc rfl rfl rfl rfl rfl (by decide) (by decide) (.inr rfl)
      (.inl habort)
  | polling hpc habort =>
    exact walks .testAbort .pollStop hpc rfl rfl rfl rfl rfl (by decide) (by decide) (.inl habort)
      (.inr (by decide))
  | late faults hpc hwhy =>
    have hu := (hloop (by rw [hpc]; rfl)).unaborted (by rw [hpc]; rfl)
    have hclear := Bool.eq_false_of_not_eq_true (hu.clear (by rw [hpc]; decide))
    exact walks .pollStop .setAbort hpc rfl rfl rfl rfl rfl (by decide) (by decide) (.inl hclear)
      (.inr (by decide))
  | inTime faults hpc hdue =>
    apply paced (by rw [hpc]) rfl
    have hp := hloop (by rw [hpc]; rfl)
    exact hp.inTime hlimit htime hnow (hpunctual (by rw [hpc]; rfl)) hpc hdue faults
  | setAbort hpc =>
    apply paced (by rw [hpc]) rfl
    exact (hloop (by rw [hpc]; rfl)).setAbort htime hpc
  | queueAbort hpc =>
    apply paced (by rw [hpc]) rfl
    have hp := hloop (by rw [hpc]; rfl)
    exact hp.request_abort htime hnow (hpunctual (by rw [hpc]; rfl)) hpc
  | sleep hpc hdue =>
    apply paced (by rw [hpc]) rfl
    have hp := hloop (by rw [hpc]; rfl)
    exact hp.sleep hlimit htime hnow (hpunctual (by rw [hpc]; rfl)) hpc hdue

/-- One move at a time. -/
theorem bounded_step {robotFile : Bytes} (hlimit : limit < 2 ^ 31 - 40000) (h : Bounded limit x)
    {move : ℕ × Action} (hsleeps : Sleeps x move) (hpunctual : Punctual limit x move)
    {y : Timed Sys Rounds} (hstep : roundStep robotFile x move = some y) : Bounded limit y := by
  obtain ⟨time, action⟩ := move
  obtain ⟨htime, t, ht, rfl⟩ := timedStep_eq_some.mp hstep
  unfold Rounds.observe
  cases hmain : action.ofMain with
  | true =>
    obtain ⟨world, hnow, hworld⟩ := clockedStep_main hmain ht
    exact h.main hlimit htime hnow (hsleeps hmain) (hpunctual hmain) hworld
  | false =>
    obtain ⟨hsame, hkeeps⟩ := clockedStep_keeps hmain ht
    exact h.keep htime hsame hkeeps.abort

theorem bounded_boot : Bounded limit Rounds.boot where
  clear _ := rfl
  loop hpc := by cases hpc

/-- In the loop the main thread can always make its next move. -/
theorem mainStep_looping (hpc : s.main.pc.looping = true) : (mainStep world s).isSome = true := by
  unfold mainStep
  split
  all_goals first | rfl | (rename_i h; rw [h] at hpc; cases hpc)

/-- **The loop of `run_attempt` ends**, whatever the stack does and whenever it does it. If
`sleep_ms(10)` takes at least 10 ms and no iteration takes longer than `limit` ms, no iteration
begins 30 s, 3 s and three times `limit` after the loop, also when the clock wraps; so there are
at most that many tens of milliseconds of iterations, of at most twelve moves each, and the main
thread is never stuck in one. -/
theorem runAttempt_ends (robotFile : Bytes) (limit : ℕ) (hlimit : limit < 2 ^ 31 - 40000)
    {moves : List (ℕ × Action)} {x : Timed Sys Rounds}
    (hsleeps : Along (roundStep robotFile) Sleeps Rounds.boot moves)
    (hpunctual : Along (roundStep robotFile) (Punctual limit) Rounds.boot moves)
    (hrun : run (roundStep robotFile) Rounds.boot moves = some x)
    (hloop : x.state.main.pc.looping = true) :
    x.note.head < x.note.began + (30000 + 3000 + 3 * limit) ∧
      10 * x.note.rounds < 30000 + 3000 + 3 * limit + 10 ∧ x.note.moves ≤ 12 * x.note.rounds ∧
      ∀ world, (mainStep world x.state).isSome = true := by
  have hbounded : Bounded limit x := run_invariant_along
    (fun x move y h hC hstep => bounded_step hlimit h hC.1 hC.2 hstep) moves _ _ bounded_boot
    (hsleeps.and hpunctual) hrun
  have hp := hbounded.loop hloop
  have hhead : x.note.head < x.note.began + (30000 + 3000 + 3 * limit) := by
    rcases hp.request with hu | ⟨a, ha⟩
    · have := hu.head
      omega
    · have hearly := ha.early
      have := ha.head
      omega
  have hplace : x.state.main.pc.place ≤ 12 := by
    cases x.state.main.pc <;> decide
  have hmoves := hp.moves
  have hpaced := hp.paced
  exact ⟨hhead, by omega, by omega, fun _ => mainStep_looping hloop⟩

/-- A stack that never answers, seen by a main thread that is slow to poll STOP: the first
iteration lasts past the attempt limit and requests the abort, and the second sees that it is
not over yet. -/
def silentStack : List (ℕ × Action) :=
  (attemptBegun ++ List.replicate 8 (mainAt 0)).map (fun action => (0, action)) ++
    List.replicate 3 (30000, mainAt 0) ++ [(30001, mainAt 0)] ++
    List.replicate 9 (30011, mainAt 0)

theorem runAttempt_ends_silent :
    ∃ x, run (roundStep robotTestFile) Rounds.boot silentStack = some x ∧
      (x.state.main.pc, x.note.head, x.note.rounds) = (.loopHead, 30011, 2) ∧
      x.note.head < x.note.began + (30000 + 3000 + 3 * 30011) ∧
      10 * x.note.rounds < 30000 + 3000 + 3 * 30011 + 10 ∧ x.note.moves ≤ 12 * x.note.rounds ∧
      ∀ world, (mainStep world x.state).isSome = true := by
  have hend : (run (roundStep robotTestFile) Rounds.boot silentStack).map
      (fun x => (x.state.main.pc, x.note.head, x.note.rounds)) = some (.loopHead, 30011, 2) := by
    decide +kernel
  obtain ⟨x, hrun, hx⟩ := Option.map_eq_some_iff.mp hend
  simp only [Prod.mk.injEq] at hx
  refine ⟨x, hrun, by rw [hx.1, hx.2.1, hx.2.2], runAttempt_ends robotTestFile 30011 (by decide)
    (by decide +kernel) (by decide +kernel) hrun ?_⟩
  rw [hx.1]
  rfl

end PayloadClient
