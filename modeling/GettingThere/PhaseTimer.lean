/-
# The phase timer of `run_attempt`

Each iteration of the loop computes `now_ms() - phase_started_ms` and then reads the BLE state to
see which limit applies.  A callback between these reads may set another state: the time of one
phase is then held against the limit of the next, or, when the clock was read first, the
difference is negative and wraps.

An observer notes since when the state has been current, and, whenever the loop tests the state,
which state that was and for how long it had been current (`Held`).  `Earned` says that a phase
timeout or a failed cleanup was due; `phaseTimeout_earned` proves it where no callback comes
between the reads, and `phaseTimeout_unearned` is a scan given up as it begins.
-/
import GettingThere.AttemptClock

namespace PayloadClient

open Transition TransferProtocol

/-! ## Notes on the state -/

/-- The main thread is about to read the BLE state and compare the elapsed time. -/
def Pc.tests : Pc → Bool
  | .testClosing | .testStopping | .readTimeout => true
  | _ => false

/-- The main thread has begun to read the elapsed time, and not yet read the state. -/
def Pc.sampling : Pc → Bool
  | .readClock | .readPhase | .testClosing | .testStopping | .readTimeout => true
  | _ => false

/-- What an observer notes: the time of the last change of the state, and, of the last test of
the state, the state and how long it had been current. -/
structure Held where
  since : ℕ
  tested : BleState
  held : ℕ
  deriving DecidableEq, Repr

/-- The notes after a move. -/
def Held.observe (x : Timed Sys Held) (time : ℕ) (action : Action) (s : Sys) : Held where
  since := if s.client.bleState = x.state.client.bleState then x.note.since else time
  tested :=
    if action.ofMain && x.state.main.pc.tests then x.state.client.bleState else x.note.tested
  held := if action.ofMain && x.state.main.pc.tests then time - x.note.since else x.note.held

/-- One move of the system at a time, with the notes on the state. -/
def phaseStep (robotFile : Bytes) : Timed Sys Held → ℕ × Action → Option (Timed Sys Held) :=
  timedStep (clockedStep robotFile) Held.observe

/-- The robot starts to drive. -/
def Held.boot : Timed Sys Held := ⟨0, .boot, ⟨0, .idle, 0⟩⟩

/-- The move requests an abort because the phase has lasted too long. -/
def PhaseAbort (x y : Timed Sys Held) : Prop :=
  x.state.main.pc = .pollStop ∧ y.state.main.pc = .setAbort ∧
    y.state.client.stopLatched = false ∧ x.state.main.timeout ≤ x.state.main.elapsed

/-- The move is on the way out with "BLE cleanup did not finish", and no abort was requested. -/
def CleanupFailed (y : Timed Sys Held) : Prop :=
  y.state.main.pc = .failCleanup ∧ y.state.client.abortRequested = false

/-- The state that was tested had been current for as long as its limit. -/
def Earned (x y : Timed Sys Held) : Prop :=
  (PhaseAbort x y → (phaseTimeout y.note.tested).toNat ≤ y.note.held) ∧
    (CleanupFailed y → cleanupTimeoutMs.toNat ≤ y.note.held)

/-- The move changes a word that `set_state` writes. -/
def setsState (robotFile : Bytes) (x : Timed Sys Held) (move : ℕ × Action) : Bool :=
  match clockedStep robotFile move.1 x.state move.2 with
  | some s => s.client.bleState ≠ x.state.client.bleState ∨
      s.client.phaseStartedMs ≠ x.state.client.phaseStartedMs
  | none => false

/-- The timer and the state belong together: no callback sets a state between the first read of
the elapsed time and the tests of the state, and `set_state(BLE_STARTING)` writes both of its
words in the same millisecond. -/
def Untorn (robotFile : Bytes) (x : Timed Sys Held) (move : ℕ × Action) : Prop :=
  (x.state.main.pc.sampling = true → move.2.ofMain = false →
    setsState robotFile x move = false) ∧
  (x.state.main.pc = .setStarting → move.2.ofMain = true →
    x.state.client.phaseStartedMs = clockAt move.1)

instance decidableUntorn (robotFile : Bytes) (x : Timed Sys Held) (move : ℕ × Action) :
    Decidable (Untorn robotFile x move) :=
  inferInstanceAs (Decidable ((_ → _ → _) ∧ (_ → _ → _)))

/-! ## The invariant -/

/-- The stretch of `run_attempt` in which `phase_started_ms` is that of the attempt. -/
def Pc.stamped : Pc → Bool
  | .clearConfirmed | .setRunning | .stampPhase => false
  | pc => pc.timing

/-- The main thread holds the elapsed time and the limit. -/
def Pc.compares : Pc → Bool
  | .testAbort | .pollStop => true
  | _ => false

theorem sampling_of_tests {pc : Pc} (h : pc.tests = true) : pc.sampling = true := by
  revert h
  cases pc <;> decide

/-- The time `stamp` of the last `set_state`, and what the loop has read so far. -/
structure Stamped (stamp : ℕ) (x : Timed Sys Held) : Prop where
  phase : x.state.client.phaseStartedMs = clockAt stamp
  since : x.note.since ≤ stamp
  past : stamp ≤ x.time
  readClock : x.state.main.pc = .readClock → x.state.main.clock = clockAt stamp
  readPhase : x.state.main.pc = .readPhase →
    ∃ read, stamp ≤ read ∧ read ≤ x.time ∧ x.state.main.clock = clockAt read
  elapsed : x.state.main.pc.tests = true → x.state.main.elapsed.toNat ≤ x.time - x.note.since
  tested : x.state.main.pc.compares = true →
    x.state.main.timeout = phaseTimeout x.note.tested ∧
      x.state.main.elapsed.toNat ≤ x.note.held
  unclean : x.state.main.pc = .failCleanup → cleanupTimeoutMs.toNat ≤ x.note.held

/-- What holds in every state. -/
structure Timely (x : Timed Sys Held) : Prop where
  since : x.note.since ≤ x.time
  stamped : x.state.main.pc.stamped = true → ∃ stamp, Stamped stamp x

variable {robotFile : Bytes} {time : ℕ} {x y : Timed Sys Held} {s t : Sys} {world : World}
  {action : Action}

/-- The state cannot have become current after the move. -/
theorem since_observe (hsince : x.note.since ≤ x.time) (htime : x.time ≤ time) :
    (Held.observe x time action t).since ≤ time := by
  unfold Held.observe
  dsimp only
  split
  · exact hsince.trans htime
  · exact le_refl _

/-- Callbacks and packets: those that set a state come with its time. -/
theorem Timely.keep (h : Timely x) (htime : x.time ≤ time) (hside : action.ofMain = false)
    (hstep : clockedStep robotFile time x.state action = some t)
    (huntorn : Untorn robotFile x (time, action)) :
    Timely ⟨time, t, Held.observe x time action t⟩ := by
  obtain ⟨hmain, hkeeps⟩ := clockedStep_keeps hside hstep
  refine ⟨since_observe h.since htime, ?_⟩
  intro hpc
  dsimp only at hpc
  rw [hmain] at hpc
  obtain ⟨stamp, hs⟩ := h.stamped hpc
  have hnote : Held.observe x time action t = ⟨if t.client.bleState = x.state.client.bleState then
      x.note.since else time, x.note.tested, x.note.held⟩ := by
    unfold Held.observe
    rw [hside]
    rfl
  rw [hnote]
  by_cases hsame : t.client.bleState = x.state.client.bleState ∧
      t.client.phaseStartedMs = x.state.client.phaseStartedMs
  · -- nothing is set: the reads so far stand
    rw [if_pos hsame.1]
    refine ⟨stamp, hsame.2.trans hs.phase, hs.since, hs.past.trans htime, ?_, ?_, ?_, ?_, ?_⟩
    all_goals
      dsimp only
      rw [hmain]
    · exact hs.readClock
    · intro hread
      obtain ⟨read, hle, hpast, hclock⟩ := hs.readPhase hread
      exact ⟨read, hle, hpast.trans htime, hclock⟩
    · intro htest
      exact (hs.elapsed htest).trans (Nat.sub_le_sub_right htime _)
    · exact hs.tested
    · exact hs.unclean
  · -- a state is set, and the loop is not reading
    have hquiet : ¬ x.state.main.pc.sampling = true := by
      intro hsampling
      have hset := huntorn.1 hsampling hside
      unfold setsState at hset
      rw [hstep] at hset
      exact hsame (by simpa using hset)
    have hphase : t.client.phaseStartedMs = clockAt time := hkeeps.phase.resolve_left hsame
    have absurd_pc {P : Prop} {pc : Pc} (hpc : x.state.main.pc = pc) (hsampling : pc.sampling = true) :
        P := absurd (hpc ▸ hsampling) hquiet
    refine ⟨time, hphase, ?_, le_refl _, ?_, ?_, ?_, ?_, ?_⟩
    · dsimp only
      split
      · exact h.since.trans htime
      · exact le_refl _
    all_goals
      dsimp only
      rw [hmain]
    · exact fun hread => absurd_pc hread rfl
    · exact fun hread => absurd_pc hread rfl
    · exact fun htest => absurd (sampling_of_tests htest) hquiet
    · exact hs.tested
    · exact hs.unclean

/-- What a step of the main thread that sets no state leaves of the stamp. -/
theorem Stamped.reads {stamp : ℕ} (h : Stamped stamp x) (htime : x.time ≤ time)
    (hstate : t.client.bleState = x.state.client.bleState)
    (hphase : t.client.phaseStartedMs = x.state.client.phaseStartedMs)
    (hreadClock : t.main.pc = .readClock → t.main.clock = clockAt stamp)
    (hreadPhase : t.main.pc = .readPhase →
      ∃ read, stamp ≤ read ∧ read ≤ time ∧ t.main.clock = clockAt read)
    (helapsed : t.main.pc.tests = true → t.main.elapsed.toNat ≤ time - x.note.since)
    (htested : t.main.pc.compares = true →
      t.main.timeout = phaseTimeout (Held.observe x time action t).tested ∧
        t.main.elapsed.toNat ≤ (Held.observe x time action t).held)
    (hunclean : t.main.pc = .failCleanup →
      cleanupTimeoutMs.toNat ≤ (Held.observe x time action t).held) :
    Timely ⟨time, t, Held.observe x time action t⟩ := by
  have hsince : (Held.observe x time action t).since = x.note.since := if_pos hstate
  have hpast := h.since.trans h.past
  refine ⟨since_observe hpast htime, fun _ => ⟨stamp, hphase.trans h.phase, ?_,
    h.past.trans htime, hreadClock, hreadPhase, ?_, htested, hunclean⟩⟩
  · dsimp only
    rw [hsince]
    exact h.since
  · dsimp only
    rw [hsince]
    exact helapsed

/-- A step of the main thread to where nothing read so far matters. -/
theorem Timely.elsewhere (h : Timely x) (htime : x.time ≤ time)
    (hbefore : x.state.main.pc.stamped = true) (hstate : t.client.bleState = x.state.client.bleState)
    (hphase : t.client.phaseStartedMs = x.state.client.phaseStartedMs)
    (hpc : t.main.pc.sampling = false ∧ t.main.pc.compares = false ∧ t.main.pc ≠ .failCleanup) :
    Timely ⟨time, t, Held.observe x time action t⟩ := by
  obtain ⟨stamp, hs⟩ := h.stamped hbefore
  obtain ⟨hsampling, hcompares, hclean⟩ := hpc
  have unread {P : Prop} {pc : Pc} (hread : t.main.pc = pc) (hpc : pc.sampling = true) : P := by
    rw [← hread, hsampling] at hpc
    cases hpc
  refine hs.reads htime hstate hphase (fun hread => unread hread rfl) (fun hread => unread hread rfl)
    (fun htest => unread rfl (sampling_of_tests htest)) ?_
    (fun hunclean => absurd hunclean hclean)
  intro htest
  rw [hcompares] at htest
  cases htest

/-- A move of the main thread. -/
theorem Timely.main (h : Timely x) (htime : x.time ≤ time) (hmain : action.ofMain = true)
    (hnow : world.now = clockAt time) (hstep : mainStep world x.state = some t)
    (huntorn : Untorn robotFile x (time, action)) :
    Timely ⟨time, t, Held.observe x time action t⟩ := by
  have hsince : (Held.observe x time action t).since ≤ time := since_observe h.since htime
  by_cases hstamped : t.main.pc.stamped = true
  swap
  · exact ⟨hsince, fun hpc => absurd hpc hstamped⟩
  have htested : (Held.observe x time action t).tested =
      if x.state.main.pc.tests then x.state.client.bleState else x.note.tested := by
    unfold Held.observe
    rw [hmain]
    rfl
  have hheld : (Held.observe x time action t).held =
      if x.state.main.pc.tests then time - x.note.since else x.note.held := by
    unfold Held.observe
    rw [hmain]
    rfl
  have htiming : t.main.pc.timing = true := by
    revert hstamped
    cases t.main.pc <;> decide
  cases loopStep_of_timing hstep htiming with
  | clearAbort pc hpc hpc' => rcases hpc' with rfl | rfl <;> cases hstamped
  | clearConfirmed hpc => cases hstamped
  | setRunning hpc => cases hstamped
  | stampPhase hpc =>
    refine ⟨hsince, fun _ => ⟨time, hnow, hsince, le_refl _, ?_, ?_, ?_, ?_, ?_⟩⟩
    · rintro ⟨⟩
    · rintro ⟨⟩
    · rintro ⟨⟩
    · rintro ⟨⟩
    · rintro ⟨⟩
  | setStarting hpc =>
    refine ⟨hsince, fun _ => ⟨time, huntorn.2 hpc hmain, hsince, le_refl _, ?_, ?_, ?_, ?_, ?_⟩⟩
    · rintro ⟨⟩
    · rintro ⟨⟩
    · rintro ⟨⟩
    · rintro ⟨⟩
    · rintro ⟨⟩
  | queueStart hpc =>
    exact h.elsewhere htime (by rw [hpc]; rfl) rfl rfl ⟨rfl, rfl, by rintro ⟨⟩⟩
  | head pc hpc hpc' =>
    refine h.elsewhere htime (by rw [hpc]; rfl) rfl rfl ?_
    show pc.sampling = false ∧ pc.compares = false ∧ pc ≠ .failCleanup
    rcases hpc' with rfl | rfl <;> decide
  | announce announced hpc =>
    exact h.elsewhere htime (by rw [hpc]; rfl) rfl rfl ⟨rfl, rfl, by rintro ⟨⟩⟩
  | phaseFirst hpc =>
    obtain ⟨stamp, hs⟩ := h.stamped (by rw [hpc]; rfl)
    exact hs.reads htime rfl rfl (fun _ => hs.phase) (by rintro ⟨⟩) (by rintro ⟨⟩)
      (by rintro ⟨⟩) (by rintro ⟨⟩)
  | clockFirst hpc =>
    obtain ⟨stamp, hs⟩ := h.stamped (by rw [hpc]; rfl)
    exact hs.reads htime rfl rfl (by rintro ⟨⟩)
      (fun _ => ⟨time, hs.past.trans htime, le_refl _, hnow⟩) (by rintro ⟨⟩)
      (by rintro ⟨⟩) (by rintro ⟨⟩)
  | readClock hpc =>
    obtain ⟨stamp, hs⟩ := h.stamped (by rw [hpc]; rfl)
    refine hs.reads htime rfl rfl (by rintro ⟨⟩) (by rintro ⟨⟩) ?_ (by rintro ⟨⟩) (by rintro ⟨⟩)
    intro _
    -- the stamp read first, the clock now
    dsimp only
    rw [hs.readClock hpc, hnow]
    exact (elapsed_le (hs.past.trans htime)).trans (Nat.sub_le_sub_left hs.since _)
  | readPhase hpc =>
    obtain ⟨stamp, hs⟩ := h.stamped (by rw [hpc]; rfl)
    obtain ⟨read, hle, hpast, hclock⟩ := hs.readPhase hpc
    refine hs.reads htime rfl rfl (by rintro ⟨⟩) (by rintro ⟨⟩) ?_ (by rintro ⟨⟩) (by rintro ⟨⟩)
    intro _
    -- the clock read first, the stamp now, and it is still the older one
    dsimp only
    rw [hclock, hs.phase]
    have := elapsed_le hle
    have := hs.since
    omega
  | notClosing hpc =>
    obtain ⟨stamp, hs⟩ := h.stamped (by rw [hpc]; rfl)
    have helapsed := hs.elapsed (by rw [hpc]; rfl)
    refine hs.reads htime rfl rfl (by rintro ⟨⟩) (by rintro ⟨⟩) ?_ (by rintro ⟨⟩) (by rintro ⟨⟩)
    intro _
    exact helapsed.trans (Nat.sub_le_sub_right htime _)
  | unclean hdue hpc =>
    have htests : x.state.main.pc.tests = true ∧ x.state.main.pc.stamped = true := by
      rcases hpc with ⟨hpc, -⟩ | ⟨hpc, -⟩
      · rw [hpc]
        decide
      · rw [hpc]
        decide
    obtain ⟨stamp, hs⟩ := h.stamped htests.2
    refine hs.reads htime rfl rfl (by rintro ⟨⟩) (by rintro ⟨⟩) (by rintro ⟨⟩) (by rintro ⟨⟩) ?_
    intro _
    rw [hheld, if_pos htests.1]
    have helapsed := hs.elapsed htests.1
    have := UInt32.le_iff_toNat_le.mp hdue
    omega
  | clean hpc =>
    have htests : x.state.main.pc.tests = true ∧ x.state.main.pc.stamped = true := by
      rcases hpc with hpc | hpc
      · rw [hpc]
        decide
      · rw [hpc]
        decide
    obtain ⟨stamp, hs⟩ := h.stamped htests.2
    refine hs.reads htime rfl rfl (by rintro ⟨⟩) (by rintro ⟨⟩) ?_ (by rintro ⟨⟩) (by rintro ⟨⟩)
    intro _
    exact (hs.elapsed htests.1).trans (Nat.sub_le_sub_right htime _)
  | readTimeout hpc =>
    obtain ⟨stamp, hs⟩ := h.stamped (by rw [hpc]; rfl)
    refine hs.reads htime rfl rfl (by rintro ⟨⟩) (by rintro ⟨⟩) (by rintro ⟨⟩) (fun _ => ⟨?_, ?_⟩)
      (by rintro ⟨⟩)
    · rw [htested, hpc]
      rfl
    · have helapsed := hs.elapsed (by rw [hpc]; rfl)
      rw [hheld, hpc]
      exact helapsed.trans (Nat.sub_le_sub_right htime _)
  | aborting hpc habort =>
    exact h.elsewhere htime (by rw [hpc]; rfl) rfl rfl ⟨rfl, rfl, by rintro ⟨⟩⟩
  | polling hpc habort =>
    obtain ⟨stamp, hs⟩ := h.stamped (by rw [hpc]; rfl)
    refine hs.reads htime rfl rfl (by rintro ⟨⟩) (by rintro ⟨⟩) (by rintro ⟨⟩) ?_ (by rintro ⟨⟩)
    intro _
    rw [htested, hheld, hpc]
    exact hs.tested (by rw [hpc]; rfl)
  | late faults hpc hwhy =>
    exact h.elsewhere htime (by rw [hpc]; rfl) rfl rfl ⟨rfl, rfl, by rintro ⟨⟩⟩
  | inTime faults hpc hdue =>
    exact h.elsewhere htime (by rw [hpc]; rfl) rfl rfl ⟨rfl, rfl, by rintro ⟨⟩⟩
  | setAbort hpc =>
    exact h.elsewhere htime (by rw [hpc]; rfl) rfl rfl ⟨rfl, rfl, by rintro ⟨⟩⟩
  | queueAbort hpc =>
    exact h.elsewhere htime (by rw [hpc]; rfl) rfl rfl ⟨rfl, rfl, by rintro ⟨⟩⟩
  | sleep hpc hdue =>
    exact h.elsewhere htime (by rw [hpc]; rfl) rfl rfl ⟨rfl, rfl, by rintro ⟨⟩⟩

/-! ## Runs -/

/-- One move at a time. -/
theorem timely_step {move : ℕ × Action} (h : Timely x) (huntorn : Untorn robotFile x move)
    (hstep : phaseStep robotFile x move = some y) : Timely y := by
  obtain ⟨time, action⟩ := move
  obtain ⟨htime, t, ht, rfl⟩ := timedStep_eq_some.mp hstep
  cases hmain : action.ofMain with
  | true =>
    obtain ⟨world, hnow, hworld⟩ := clockedStep_main hmain ht
    exact h.main htime hmain hnow hworld huntorn
  | false => exact h.keep htime hmain ht huntorn

theorem timely_boot : Timely Held.boot where
  since := le_refl _
  stamped hpc := by cases hpc

/-- The limit the main thread holds is that of the state it tested. -/
theorem Timely.earned {move : ℕ × Action} (h : Timely x) (h' : Timely y)
    (hstep : phaseStep robotFile x move = some y) : Earned x y := by
  obtain ⟨time, action⟩ := move
  obtain ⟨htime, t, ht, rfl⟩ := timedStep_eq_some.mp hstep
  constructor
  · rintro ⟨hpc, -, -, hdue⟩
    obtain ⟨stamp, hs⟩ := h.stamped (by rw [hpc]; rfl)
    obtain ⟨hlimit, hheld⟩ := hs.tested (by rw [hpc]; rfl)
    have hnote : (Held.observe x time action t).tested = x.note.tested ∧
        (Held.observe x time action t).held = x.note.held := by
      unfold Held.observe
      rw [hpc]
      cases action.ofMain <;> exact ⟨rfl, rfl⟩
    dsimp only
    rw [hnote.1, hnote.2, ← hlimit]
    exact (UInt32.le_iff_toNat_le.mp hdue).trans hheld
  · rintro ⟨hpc, -⟩
    obtain ⟨stamp, hs⟩ := h'.stamped (by rw [hpc]; rfl)
    exact hs.unclean hpc

/-- **Phase timeouts are earned** in every run in which timer and state are read together: an
abort is requested for a phase timeout, and a cleanup given up, only after the state that was
tested has been current for as long as its limit. -/
theorem phaseTimeout_earned (robotFile : Bytes) {moves : List (ℕ × Action)} {move : ℕ × Action}
    {x y : Timed Sys Held}
    (huntorn : Along (phaseStep robotFile) (Untorn robotFile) Held.boot (moves ++ [move]))
    (hrun : run (phaseStep robotFile) Held.boot moves = some x)
    (hstep : phaseStep robotFile x move = some y) : Earned x y := by
  have h : Timely x := run_invariant_along (fun x move y h hC hs => timely_step h hC hs) moves _ _
    timely_boot huntorn.append_left hrun
  exact h.earned (timely_step h (huntorn.at hrun) hstep) hstep

/-- A scan that hears nothing for five seconds. -/
def scanUnheard : List (ℕ × Action) :=
  attemptBegun.map (fun action => (0, action)) ++ [(0, .callback accepting)] ++
    List.replicate 8 (5000, mainAt 0)

theorem phaseTimeout_earned_scan :
    ∃ x y, run (phaseStep robotTestFile) Held.boot scanUnheard = some x ∧
      phaseStep robotTestFile x (5000, mainAt 0) = some y ∧
      (x.state.main.pc, y.state.main.pc, y.note.tested, y.note.held) =
        (.pollStop, .setAbort, .scanning, 5000) ∧ Earned x y := by
  have hend : ((run (phaseStep robotTestFile) Held.boot scanUnheard).bind fun x =>
      (phaseStep robotTestFile x (5000, mainAt 0)).map fun y =>
        (x.state.main.pc, y.state.main.pc, y.note.tested, y.note.held)) =
      some (.pollStop, .setAbort, .scanning, 5000) := by
    decide +kernel
  obtain ⟨x, hrun, hx⟩ := Option.bind_eq_some_iff.mp hend
  obtain ⟨y, hstep, hy⟩ := Option.map_eq_some_iff.mp hx
  exact ⟨x, y, hrun, hstep, hy,
    phaseTimeout_earned robotTestFile (by decide +kernel) hrun hstep⟩

/-- The loop reads the clock; a millisecond later the start callback begins the scan; the loop
reads the new stamp and then the new state. -/
def scanBegins : List (ℕ × Action) :=
  attemptBegun.map (fun action => (0, action)) ++ List.replicate 3 (0, mainAt 0) ++
    [(1, .callback accepting)] ++ List.replicate 5 (1, mainAt 0)

/-- The scan that has just begun is given up: the elapsed time was negative. -/
theorem phaseTimeout_unearned :
    ¬ ∀ (moves : List (ℕ × Action)) (move : ℕ × Action) (x y : Timed Sys Held),
      run (phaseStep robotTestFile) Held.boot moves = some x →
        phaseStep robotTestFile x move = some y → Earned x y := by
  intro hclaim
  have hend : ((run (phaseStep robotTestFile) Held.boot scanBegins).bind fun x =>
      (phaseStep robotTestFile x (1, mainAt 0)).map fun y =>
        (x.state.main.pc, y.state.main.pc, y.state.client.stopLatched,
          decide (x.state.main.timeout ≤ x.state.main.elapsed), y.note.tested, y.note.held)) =
      some (.pollStop, .setAbort, false, true, .scanning, 0) := by
    decide +kernel
  obtain ⟨x, hrun, hx⟩ := Option.bind_eq_some_iff.mp hend
  obtain ⟨y, hstep, hy⟩ := Option.map_eq_some_iff.mp hx
  simp only [Prod.mk.injEq, decide_eq_true_eq] at hy
  obtain ⟨hpoll, hset, hstop, hdue, htested, hheld⟩ := hy
  have hearned := (hclaim _ _ x y hrun hstep).1 ⟨hpoll, hset, hstop, hdue⟩
  rw [htested, hheld] at hearned
  exact absurd hearned (by decide)

end PayloadClient
