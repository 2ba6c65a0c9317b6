/-
# Attempts as they follow one another

`MainStep` lists what one step of the main thread does to the system, and `Live` is what
holds of every state in which another attempt may still follow, as long as the run loop has
run the callbacks of one attempt before the next one begins (`Sys.Prompt`): which phase goes
with which stage of `run_attempt`, and that an attempt which has begun is running or has
been stored as fatal until the radio is quiet again.
-/
import GettingThere.AttemptLife
import GettingThere.PayloadAttempt

namespace PayloadClient

open Transition

/-! ## Stages of the main thread -/

/-- The stages of `run_attempt`: outside it, its entry tests, the statics it writes before
and after `F_ATTEMPT_RUNNING`, and its loop. -/
inductive Stage
  | outside
  | tests
  | writes
  | setup
  | loop
  deriving DecidableEq, Repr

/-- The stage of a program counter. -/
def Pc.stage : Pc → Stage
  | .driving | .checking | .returned => .outside
  | .testReady | .testRunning | .testStop | .testConfirmed | .testIdle | .testRetry => .tests
  | .setReconnect | .clearAbort | .clearConfirmed | .setRunning => .writes
  | .stampPhase | .setStarting | .queueStart => .setup
  | _ => .loop

/-- The loop has been left: the attempt was seen to have ended. -/
def Pc.leaving : Pc → Bool
  | .finalStop | .readResult => true
  | _ => false

/-- What the entry tests passed so far have shown. -/
def Sys.Tested (s : Sys) : Prop :=
  match s.main.pc with
  | .testConfirmed => s.main.reconnect = true
  | .testIdle | .testRetry => s.main.reconnect = true ∧ s.client.closeConfirmed = true
  | .setReconnect => s.main.reconnect = true → s.client.closeConfirmed = true
  | .clearAbort =>
    s.client.reconnectRequested = s.main.reconnect ∧
      (s.main.reconnect = true → s.client.closeConfirmed = true)
  | .clearConfirmed =>
    s.client.reconnectRequested = s.main.reconnect ∧ s.main.reconnect = false
  | .setRunning =>
    s.client.reconnectRequested = s.main.reconnect ∧
      s.client.closeConfirmed = s.main.reconnect
  | _ => True

/-- Why an entry test turns an attempt down. -/
def Refused (s : Sys) (faults : Faults) : Prop :=
  (s.main.pc = .testReady ∧ s.client.bluetoothReady = false) ∨ s.client.attemptRunning = true ∨
    .stopLatched ∈ faults ∨
    (s.main.pc = .testConfirmed ∧ s.client.closeConfirmed = false) ∨
    (s.main.pc = .testIdle ∧ s.client.bleState ≠ .idle) ∨
    (s.main.pc = .testRetry ∧ s.client.result ≠ .retry)

/-! ## The steps of the main thread -/

/-- All that one step of the main thread can do. -/
inductive MainStep (s : Sys) : Sys → Prop
  | drive (faults : Faults) (hpc : s.main.pc = .driving) (hsub : s.client.faults ⊆ faults) :
      MainStep s { s with client := { s.client with faults := faults } }
  | call (hpc : s.main.pc = .driving) (hreturned : s.main.returned = .notClose) :
      MainStep s { s with main := { s.main with
        pc := .checking, attempt := 0, reconnect := false, confirmed := false } }
  | stop (faults : Faults) (main : Main) (hpc : s.main.pc = .checking ∨ s.main.pc = .returned)
      (hpc' : main.pc = .driving) (hreturned : main.returned = .fatal) :
      MainStep s { s with client := { s.client with faults := faults }, main := main }
  | far (faults : Faults) (hpc : s.main.pc = .checking) (hreconnect : s.main.reconnect = false)
      (hsub : s.client.faults ⊆ faults) :
      MainStep s { s with
        client := { s.client with faults := faults }
        main := { s.main with pc := .driving, returned := .notClose } }
  | begin (faults : Faults) (dbm : ℤ) (hpc : s.main.pc = .checking)
      (hsub : s.client.faults ⊆ faults) :
      MainStep s { s with
        client := { s.client with faults := faults, closeRssiDbm := dbm, calls := [] }
        main := { s.main with pc := .testReady } }
  | refuse (faults : Faults) (hpc : s.main.pc.stage = .tests)
      (hsub : s.client.faults ⊆ faults) (hwhy : Refused s faults) :
      MainStep s { s with
        client := { s.client with faults := faults }
        main := { s.main with pc := .returned, returned := .fatal } }
  | test (faults : Faults) (pc : Pc) (hpc : s.main.pc.stage = .tests)
      (hsub : s.client.faults ⊆ faults) (hpc' : pc.stage = .tests ∨ pc = .setReconnect)
      (htested : s.Tested → Sys.Tested { s with
        client := { s.client with faults := faults }, main := { s.main with pc := pc } }) :
      MainStep s { s with
        client := { s.client with faults := faults }, main := { s.main with pc := pc } }
  | setReconnect (hpc : s.main.pc = .setReconnect) :
      MainStep s { s with
        client := { s.client with reconnectRequested := s.main.reconnect }
        main := { s.main with pc := .clearAbort } }
  | clearAbort (pc : Pc) (hpc : s.main.pc = .clearAbort)
      (hpc' : s.main.reconnect = true ∧ pc = .setRunning ∨
        s.main.reconnect = false ∧ pc = .clearConfirmed) :
      MainStep s { s with
        client := { s.client with abortRequested := false }, main := { s.main with pc := pc } }
  | clearConfirmed (hpc : s.main.pc = .clearConfirmed) :
      MainStep s { s with
        client := { s.client with closeConfirmed := false }
        main := { s.main with pc := .setRunning } }
  | setRunning (hpc : s.main.pc = .setRunning) :
      MainStep s { s with
        client := { s.client with attemptRunning := true }
        main := { s.main with pc := .stampPhase } }
  | stamp (now : UInt32) (hpc : s.main.pc = .stampPhase) :
      MainStep s { s with
        client := { s.client with phaseStartedMs := now }
        main := { s.main with pc := .setStarting } }
  | starting (hpc : s.main.pc = .setStarting) :
      MainStep s { s with
        client := { s.client with bleState := .starting }
        main := { s.main with pc := .queueStart } }
  | queueStart (main : Main) (hpc : s.main.pc = .queueStart) (hpc' : main.pc = .loopHead)
      (hreconnect : main.reconnect = s.main.reconnect)
      (hconfirmed : main.confirmed = s.main.confirmed) :
      MainStep s { s with queue := enqueue .start s.queue, main := main }
  | loop (faults : Faults) (abort : Bool) (queue : List Callback) (main : Main)
      (hpc : s.main.pc.stage = .loop) (hpc' : main.pc.stage = .loop)
      (hleaving : main.pc.leaving = true →
        s.main.pc.leaving = true ∨ s.client.attemptRunning = false)
      (hsub : s.client.faults ⊆ faults)
      (hqueue : queue = s.queue ∨ queue = enqueue .abort s.queue)
      (hreconnect : main.reconnect = s.main.reconnect)
      (hconfirmed : main.confirmed = s.main.confirmed) :
      MainStep s { s with
        client := { s.client with faults := faults, abortRequested := abort }
        queue := queue
        main := main }
  | giveUp (faults : Faults) (hpc : s.main.pc.stage = .loop) (hsub : s.client.faults ⊆ faults)
      (hwhy : .stopLatched ∈ faults ∨ .bleRadio ∈ faults) :
      MainStep s { s with
        client := { s.client with faults := faults }
        main := { s.main with pc := .returned, returned := .fatal } }
  | result (hpc : s.main.pc = .readResult) :
      MainStep s { s with main := { s.main with
        pc := .returned, returned := s.client.result } }
  | done (faults : Faults) (main : Main) (hpc : s.main.pc = .returned)
      (hpc' : main.pc = .driving) (hreturned : main.returned = s.main.returned)
      (hr : main.returned = .complete ∨ main.returned = .notClose ∧ s.main.reconnect = false)
      (hconfirmed : main.confirmed =
        (s.main.confirmed || s.main.reconnect || s.client.closeConfirmed))
      (hsub : s.client.faults ⊆ faults) :
      MainStep s { s with client := { s.client with faults := faults }, main := main }
  | again (faults : Faults) (main : Main) (hpc : s.main.pc = .returned)
      (hpc' : main.pc = .checking) (hreturned : main.returned = s.main.returned)
      (hr : s.main.returned = .retry ∨ s.main.returned = .notClose ∧ s.main.reconnect = true)
      (hreconnect : main.reconnect = true) (hsub : s.client.faults ⊆ faults) :
      MainStep s { s with client := { s.client with faults := faults }, main := main }

variable (world : World) (robotFile : Bytes) (env : Env)

/-- A poll of STOP changes the fault mask only. -/
theorem pollStop_eq (pressed : Bool) (c : Client) :
    ∃ faults, c.pollStop pressed = { c with faults := faults } ∧ c.faults ⊆ faults := by
  unfold Client.pollStop
  split
  · exact ⟨_, rfl, Finset.subset_insert _ _⟩
  · exact ⟨_, rfl, Finset.Subset.refl _⟩

/-- The latch is read off the fault mask. -/
theorem stopLatched_iff {c : Client} : c.stopLatched = true ↔ .stopLatched ∈ c.faults := by
  simp [Client.stopLatched]

/-- Other code of the main thread changes the fault mask only. -/
theorem raiseOther_eq (c : Client) :
    ∃ faults, c.raiseOther world = { c with faults := faults } ∧ c.faults ⊆ faults := by
  unfold Client.raiseOther
  cases world.raised with
  | none => exact ⟨_, rfl, Finset.Subset.refl _⟩
  | some f => exact ⟨_, rfl, Finset.subset_insert _ _⟩

/-- Setting the close-range threshold changes that threshold only. -/
theorem setCloseThreshold_eq (dbm : ℤ) (c : Client) :
    ∃ dbm', c.setCloseThreshold dbm = { c with closeRssiDbm := dbm' } := by
  unfold Client.setCloseThreshold
  split
  · exact ⟨c.closeRssiDbm, rfl⟩
  · exact ⟨dbm, rfl⟩

/-- A step of the code outside the attempts is one of the listed ones. -/
theorem driving_step {s t : Sys} (hpc : s.main.pc = .driving) (h : driving world s = some t) :
    MainStep s t := by
  unfold driving at h
  split at h
  · split at h
    · rename_i hreturned
      cases h
      exact .call hpc hreturned
    · cases h
  · cases h
    obtain ⟨faults, heq, hsub⟩ := raiseOther_eq world s.client
    have ht : Sys.update (Client.raiseOther world) .driving s =
        { s with client := { s.client with faults := faults } } := by
      rw [Sys.update, heq, Sys.goto, ← hpc]
    rw [ht]
    exact .drive faults hpc hsub

/-- The test before an attempt is one of the listed steps. -/
theorem checking_step {s : Sys} (hpc : s.main.pc = .checking) : MainStep s (checking world s) := by
  obtain ⟨raised, hraise, hsub⟩ := raiseOther_eq world s.client
  obtain ⟨faults, hpoll, hsub'⟩ := pollStop_eq world.pressed (s.client.raiseOther world)
  rw [hraise] at hpoll hsub'
  replace hsub' := hsub.trans hsub'
  unfold checking
  rw [hraise, hpoll]
  simp only
  split
  · exact .stop faults _ (.inl hpc) rfl rfl
  split
  · exact .begin faults s.client.closeRssiDbm hpc hsub'
  rename_i hreconnect
  rw [Bool.not_eq_true] at hreconnect
  split
  · exact .far faults hpc hreconnect hsub'
  · obtain ⟨dbm, hdbm⟩ := setCloseThreshold_eq
      (if world.onMat then colourArrivalBleDbm else ap1CloseRssiDbm)
      { s.client with faults := faults }
    simp only [Sys.update, hdbm]
    exact .begin faults dbm hpc hsub'

/-- What is made of a returned result is one of the listed steps. -/
theorem afterAttempt_step {s : Sys} (hpc : s.main.pc = .returned) :
    MainStep s (afterAttempt world s) := by
  obtain ⟨raised, hraise, hsub⟩ := raiseOther_eq world s.client
  obtain ⟨faults, hpoll, hsub'⟩ := pollStop_eq world.pressed (s.client.raiseOther world)
  rw [hraise] at hpoll hsub'
  unfold afterAttempt
  simp only [hraise, hpoll]
  split
  · exact .stop _ _ (.inr hpc) rfl rfl
  split
  · rename_i hr
    rcases hr with hr | hr
    · exact .done _ _ hpc rfl rfl (.inl hr) rfl hsub
    · exact .stop _ _ (.inr hpc) rfl hr
  split
  · rename_i hr
    exact .done _ _ hpc rfl hr.1.symm (.inr ⟨rfl, hr.2⟩) rfl hsub
  rename_i hfatal hnear
  split
  · split
    · exact .stop _ _ (.inr hpc) rfl rfl
    · refine .again _ _ hpc rfl rfl ?_ rfl (hsub.trans hsub')
      rw [not_or] at hfatal
      rw [not_and, Bool.not_eq_false] at hnear
      cases hr : s.main.returned with
      | notClose => exact .inr ⟨rfl, hnear hr⟩
      | retry => exact .inl rfl
      | complete => exact absurd hr hfatal.1
      | fatal => exact absurd hr hfatal.2
  · exact .stop _ _ (.inr hpc) rfl rfl

/-- **Every step of the main thread** is one of the listed ones. -/
theorem mainStep_cases {s t : Sys} (h : mainStep world s = some t) : MainStep s t := by
  have polled (pressed : Bool) := pollStop_eq pressed s.client
  have same (main : Main) (hpc : s.main.pc.stage = .loop) (hpc' : main.pc.stage = .loop)
      (hleaving : main.pc.leaving = true →
        s.main.pc.leaving = true ∨ s.client.attemptRunning = false)
      (hreconnect : main.reconnect = s.main.reconnect)
      (hconfirmed : main.confirmed = s.main.confirmed) : MainStep s { s with main := main } :=
    .loop s.client.faults s.client.abortRequested s.queue main hpc hpc' hleaving
      (Finset.Subset.refl _) (.inl rfl) hreconnect hconfirmed
  have test (pc : Pc) (hpc : s.main.pc.stage = .tests)
      (hpc' : pc.stage = .tests ∨ pc = .setReconnect)
      (htested : s.Tested → Sys.Tested { s with main := { s.main with pc := pc } }) :
      MainStep s (s.goto pc) :=
    .test s.client.faults pc hpc (Finset.Subset.refl _) hpc' htested
  have refuse (hpc : s.main.pc.stage = .tests) (hwhy : Refused s s.client.faults) :
      MainStep s (s.attemptReturns .fatal) :=
    .refuse s.client.faults hpc (Finset.Subset.refl _) hwhy
  unfold mainStep at h
  simp only at h
  split at h <;> rename_i hpc
  · exact driving_step world hpc h
  · cases h
    exact checking_step world hpc
  · cases h
    split
    · exact test _ (by rw [hpc]; rfl) (.inl rfl) fun _ => trivial
    · rename_i hready
      exact refuse (by rw [hpc]; rfl) (.inl ⟨hpc, Bool.eq_false_of_not_eq_true hready⟩)
  · cases h
    split
    · rename_i hrunning
      exact refuse (by rw [hpc]; rfl) (.inr (.inl hrunning))
    · exact test _ (by rw [hpc]; rfl) (.inl rfl) fun _ => trivial
  · -- testStop
    obtain ⟨faults, hpoll, hsub⟩ := polled world.pressed
    rw [hpoll] at h
    cases h
    split
    · rename_i hstop
      exact .refuse faults (by rw [hpc]; rfl) hsub (.inr (.inr (.inl (stopLatched_iff.mp hstop))))
    split
    · rename_i hreconnect
      exact .test faults _ (by rw [hpc]; rfl) hsub (.inl rfl) fun _ => hreconnect
    · rename_i hreconnect
      exact .test faults _ (by rw [hpc]; rfl) hsub (.inr rfl) fun _ h => absurd h hreconnect
  · -- testConfirmed
    cases h
    split
    · rename_i hconfirmed
      refine test _ (by rw [hpc]; rfl) (.inl rfl) fun htested => ⟨?_, hconfirmed⟩
      rw [Sys.Tested, hpc] at htested
      exact htested
    · rename_i hconfirmed
      exact refuse (by rw [hpc]; rfl)
        (.inr (.inr (.inr (.inl ⟨hpc, Bool.eq_false_of_not_eq_true hconfirmed⟩))))
  · -- testIdle
    cases h
    split
    · apply test _ (by rw [hpc]; rfl) (.inl rfl)
      intro htested
      rw [Sys.Tested, hpc] at htested
      exact htested
    · rename_i hidle
      exact refuse (by rw [hpc]; rfl) (.inr (.inr (.inr (.inr (.inl ⟨hpc, hidle⟩)))))
  · -- testRetry
    cases h
    split
    · apply test _ (by rw [hpc]; rfl) (.inr rfl)
      intro htested
      rw [Sys.Tested, hpc] at htested
      exact fun _ => htested.2
    · rename_i hretry
      exact refuse (by rw [hpc]; rfl) (.inr (.inr (.inr (.inr (.inr ⟨hpc, hretry⟩)))))
  · cases h
    exact .setReconnect hpc
  · cases h
    split
    · rename_i hreconnect
      exact .clearAbort _ hpc (.inl ⟨hreconnect, rfl⟩)
    · rename_i hreconnect
      exact .clearAbort _ hpc (.inr ⟨Bool.eq_false_of_not_eq_true hreconnect, rfl⟩)
  · cases h
    exact .clearConfirmed hpc
  · cases h
    exact .setRunning hpc
  · cases h
    exact .stamp _ hpc
  · cases h
    exact .starting hpc
  · cases h
    exact .queueStart _ hpc rfl rfl rfl
  · -- loopHead
    cases h
    split
    · split
      · exact same _ (by rw [hpc]; rfl) rfl nofun rfl rfl
      · exact same _ (by rw [hpc]; rfl) rfl nofun rfl rfl
    · rename_i hrunning
      exact same _ (by rw [hpc]; rfl) rfl
        (fun _ => .inr (Bool.eq_false_of_not_eq_true hrunning)) rfl rfl
  · cases h
    exact same _ (by rw [hpc]; rfl) rfl nofun rfl rfl
  · -- elapsed
    cases h
    split
    · exact same _ (by rw [hpc]; rfl) rfl nofun rfl rfl
    · exact same _ (by rw [hpc]; rfl) rfl nofun rfl rfl
  · cases h
    exact same _ (by rw [hpc]; rfl) rfl nofun rfl rfl
  · cases h
    exact same _ (by rw [hpc]; rfl) rfl nofun rfl rfl
  · -- testClosing
    cases h
    unfold afterCleanup
    split
    · split
      · exact same _ (by rw [hpc]; rfl) rfl nofun rfl rfl
      · exact same _ (by rw [hpc]; rfl) rfl nofun rfl rfl
    · exact same _ (by rw [hpc]; rfl) rfl nofun rfl rfl
  · -- testStopping
    cases h
    unfold afterCleanup
    split
    · exact same _ (by rw [hpc]; rfl) rfl nofun rfl rfl
    · exact same _ (by rw [hpc]; rfl) rfl nofun rfl rfl
  · -- failCleanup
    cases h
    exact .loop s.client.faults true s.queue _ (by rw [hpc]; rfl) rfl nofun
      (Finset.Subset.refl _) (.inl rfl) rfl rfl
  · -- raiseRadio
    cases h
    exact .giveUp _ (by rw [hpc]; rfl) (Finset.subset_insert _ _) (.inr (by simp))
  · cases h
    exact same _ (by rw [hpc]; rfl) rfl nofun rfl rfl
  · -- testAbort
    cases h
    split
    · exact same _ (by rw [hpc]; rfl) rfl nofun rfl rfl
    · exact same _ (by rw [hpc]; rfl) rfl nofun rfl rfl
  · -- pollStop
    obtain ⟨faults, hpoll, hsub⟩ := polled world.pressed
    rw [hpoll] at h
    cases h
    split
    · exact .loop faults s.client.abortRequested s.queue _ (by rw [hpc]; rfl) rfl nofun hsub
        (.inl rfl) rfl rfl
    · exact .loop faults s.client.abortRequested s.queue _ (by rw [hpc]; rfl) rfl nofun hsub
        (.inl rfl) rfl rfl
  · -- setAbort
    cases h
    exact .loop s.client.faults true s.queue _ (by rw [hpc]; rfl) rfl nofun
      (Finset.Subset.refl _) (.inl rfl) rfl rfl
  · -- queueAbort
    cases h
    exact .loop s.client.faults s.client.abortRequested _ _ (by rw [hpc]; rfl) rfl nofun
      (Finset.Subset.refl _) (.inr rfl) rfl rfl
  · -- testDeadline
    cases h
    split
    · exact same _ (by rw [hpc]; rfl) rfl nofun rfl rfl
    · exact same _ (by rw [hpc]; rfl) rfl nofun rfl rfl
  · -- finalStop
    obtain ⟨faults, hpoll, hsub⟩ := polled world.pressed
    rw [hpoll] at h
    cases h
    split
    · rename_i hstop
      exact .giveUp faults (by rw [hpc]; rfl) hsub (.inl (stopLatched_iff.mp hstop))
    · exact .loop faults s.client.abortRequested s.queue _ (by rw [hpc]; rfl) rfl
        (fun _ => .inl (by rw [hpc]; rfl)) hsub (.inl rfl) rfl rfl
  · cases h
    exact .result hpc
  · cases h
    exact afterAttempt_step world hpc

/-! ## Between, before and during attempts -/

namespace Life

variable {l l' : Life} {event : Event} {done refused : Bool}

/-- Nothing is going on. -/
structure Idle (l : Life) : Prop where
  phase : l.phase = .idle
  linked : l.linked = false
  running : l.running = false

/-- An attempt has begun and its start callback has not run. A scan command that fails now
stores the attempt as fatal. -/
structure Waiting (l : Life) : Prop where
  phase : l.phase = .idle ∨ l.phase = .starting
  linked : l.linked = false
  alive : l.running = true ∨ l.result = .fatal
  confirmed : l.confirmed = l.reconnect

/-- The start callback has run. Close range is confirmed from the end of the scan on, and
from the start of a retry. -/
structure Active (l : Life) : Prop where
  phase : l.phase ≠ .starting
  linked : l.linked = true → l.phase = .connected ∨ l.phase = .closing
  idle : l.phase = .idle → l.running = false ∧ l.closing = l.result
  alive : l.phase = .idle ∨ l.running = true ∨ l.result = .fatal
  reconnect : l.reconnect = true → l.confirmed = true
  scanning : l.phase = .scanning → l.confirmed = false
  qualified : l.phase = .stoppingForConnect ∨ l.phase = .connecting ∨ l.phase = .connected →
    l.confirmed = true

/-- No packet gets an attempt going. -/
theorem Idle.step (h : Idle l) (hstep : LifeStep event done refused l l') : Idle l' := by
  obtain ⟨hphase, hlinked, hrunning⟩ := h
  cases hstep with
  | quiet => exact ⟨hphase, hlinked, hrunning⟩
  | scanFailed => exact ⟨rfl, rfl, rfl⟩
  | linkLost h => simp [hlinked] at h
  | _ => simp_all

/-- No packet gets a waiting attempt going, though one can fail it. -/
theorem Waiting.step (h : Waiting l) (hstep : LifeStep event done refused l l') : Waiting l' := by
  obtain ⟨hphase, hlinked, halive, hconfirmed⟩ := h
  cases hstep with
  | quiet => exact ⟨hphase, hlinked, halive, hconfirmed⟩
  | scanFailed => exact ⟨.inl rfl, rfl, .inr rfl, hconfirmed⟩
  | linkLost h => simp [hlinked] at h
  | _ => simp_all

/-- A finished attempt is still an active one that has reached `BLE_IDLE`. -/
theorem active_finish (hreconnect : l.reconnect = true → l.confirmed = true) :
    Active l.finish where
  phase := nofun
  linked := nofun
  idle := fun _ => ⟨rfl, rfl⟩
  alive := .inl rfl
  reconnect := hreconnect
  scanning := nofun
  qualified := by simp [finish]

/-- A scan being stopped, or a link being closed. -/
theorem active_ending {p : Phase} {r : PayloadResult}
    (hp : p = .stoppingScan ∧ l.linked = false ∨ p = .closing)
    (halive : l.running = true ∨ l.result = .fatal)
    (hreconnect : l.reconnect = true → l.confirmed = true) :
    Active { l with phase := p, closing := r } := by
  refine ⟨?_, fun hl => ?_, ?_, .inr halive, hreconnect, ?_, ?_⟩
  · rcases hp with ⟨rfl, -⟩ | rfl <;> nofun
  · rcases hp with ⟨-, h⟩ | rfl
    · exact absurd (h.symm.trans hl) nofun
    · exact .inr rfl
  · rcases hp with ⟨rfl, -⟩ | rfl <;> nofun
  · rcases hp with ⟨rfl, -⟩ | rfl <;> nofun
  · rcases hp with ⟨rfl, -⟩ | rfl <;> simp

/-- Closing an attempt that is alive leaves it closing or over. -/
theorem active_close (r : PayloadResult)
    (hlinked : l.linked = true → l.phase = .connected ∨ l.phase = .closing)
    (halive : l.running = true ∨ l.result = .fatal)
    (hreconnect : l.reconnect = true → l.confirmed = true) : Active (l.close refused r) := by
  have unlinked {p : Phase} (hp : l.phase = p) (hne : p ≠ .connected ∧ p ≠ .closing) :
      l.linked = false := by
    by_contra hl
    rcases hlinked (by simpa using hl) with h | h
    · exact hne.1 (hp.symm.trans h)
    · exact hne.2 (hp.symm.trans h)
  unfold close
  split
  · rename_i hphase
    split
    · exact active_ending (.inl ⟨rfl, unlinked hphase ⟨nofun, nofun⟩⟩) halive hreconnect
    · exact active_finish hreconnect
  · rename_i hphase
    split
    · exact active_ending (.inl ⟨rfl, unlinked hphase ⟨nofun, nofun⟩⟩) halive hreconnect
    · exact active_finish hreconnect
  · exact active_ending (.inr rfl) halive hreconnect
  · split
    · exact active_ending (.inr rfl) halive hreconnect
    · exact active_finish hreconnect

/-- An attempt in a phase other than idle is running or has reported `PAYLOAD_FATAL`. -/
theorem Active.alive_of_phase (h : Active l) {p : Phase} (hp : l.phase = p) (hne : p ≠ .idle) :
    l.running = true ∨ l.result = .fatal := by
  rcases h.alive with h | h
  · exact absurd (hp.symm.trans h) hne
  · exact h

/-- There is a link in the connected and the closing phase only. -/
theorem Active.unlinked (h : Active l) {p : Phase} (hp : l.phase = p)
    (hne : p ≠ .connected ∧ p ≠ .closing) : ¬ l.linked = true := by
  intro hl
  rcases h.linked hl with h | h
  · exact hne.1 (hp.symm.trans h)
  · exact hne.2 (hp.symm.trans h)

/-- A packet leaves an active attempt active. -/
theorem Active.step (h : Active l) (hstep : LifeStep event done refused l l') : Active l' := by
  have alive {p : Phase} (hp : l.phase = p) (hne : p ≠ .idle) := h.alive_of_phase hp hne
  cases hstep with
  | quiet => exact h
  | scanFailed => exact active_finish h.reconnect
  | scanStarted hp =>
    exact ⟨h.phase, h.linked, h.idle, h.alive, h.reconnect, h.scanning, h.qualified⟩
  | inRange hp habort =>
    exact ⟨nofun, fun hl => absurd hl (h.unlinked hp ⟨nofun, nofun⟩), nofun,
      .inr (alive hp nofun), fun _ => rfl, nofun, fun _ => rfl⟩
  | scanStopped hp => exact active_finish h.reconnect
  | connectAborted hp habort hevent => exact active_finish h.reconnect
  | connecting hp habort started =>
    have hunlinked := h.unlinked hp ⟨nofun, nofun⟩
    unfold connect
    split
    · exact ⟨nofun, fun hl => absurd hl hunlinked, nofun, .inr (alive hp nofun), h.reconnect,
        nofun, fun _ => h.qualified (.inl hp)⟩
    · exact active_close _ (fun hl => absurd hl hunlinked) (alive hp nofun) h.reconnect
  | linkFailed hp => exact active_close _ nofun (alive hp nofun) h.reconnect
  | linkCancelled hp => exact active_finish h.reconnect
  | linkUp hp habort =>
    exact ⟨nofun, fun _ => .inl rfl, nofun, .inr (alive hp nofun), h.reconnect, nofun,
      fun _ => h.qualified (.inr (.inl hp))⟩
  | linkUseless hp habort =>
    exact active_close _ (fun _ => .inl rfl) (alive hp nofun) h.reconnect
  | linkLate hp =>
    exact ⟨nofun, fun _ => .inr rfl, nofun, .inr (alive hp nofun), h.reconnect, nofun, by simp⟩
  | linkAborted hp habort handle hevent =>
    exact ⟨nofun, fun _ => .inr rfl, nofun, .inr (alive hp nofun), h.reconnect, nofun, by simp⟩
  | linkLost hl hp => exact active_finish h.reconnect
  | linkClosed hp => exact active_finish h.reconnect
  | failed hp hl => exact active_close _ h.linked (alive hp nofun) h.reconnect
  | completed hp hl hdone => exact active_close _ h.linked (alive hp nofun) h.reconnect

/-- The start callback turns a waiting attempt into an active one. -/
theorem Waiting.start (h : Waiting l) (started : Bool) : Active (l.start started refused) := by
  have hreconnect (hre : l.reconnect = true) : l.confirmed = true := h.confirmed.trans hre
  have hunlinked (hl : l.linked = true) : False := by simp [h.linked] at hl
  unfold Life.start
  split
  · exact active_finish hreconnect
  split
  · rename_i hre
    unfold connect
    split
    · exact ⟨nofun, fun hl => (hunlinked hl).elim, nofun, .inr h.alive, hreconnect, nofun,
        fun _ => hreconnect hre⟩
    · exact active_close _ (fun hl => (hunlinked hl).elim) h.alive hreconnect
  · rename_i hre
    exact ⟨nofun, fun hl => (hunlinked hl).elim, nofun, .inr h.alive, fun h => absurd h hre,
      fun _ => rfl, by simp⟩

/-- Only the main thread says whether an attempt is a retry. -/
theorem reconnect_step (hstep : LifeStep event done refused l l') : l'.reconnect = l.reconnect := by
  cases hstep with
  | connecting hp habort started =>
    unfold connect
    split
    · rfl
    · exact close_reconnect _ _ _
  | linkFailed => exact close_reconnect _ _ _
  | linkUseless => exact close_reconnect _ _ _
  | failed => exact close_reconnect _ _ _
  | completed => exact close_reconnect _ _ _
  | _ => rfl

/-- No packet starts an attempt. -/
theorem running_step (h : l.running = false) (hstep : LifeStep event done refused l l') :
    l'.running = false := by
  cases hstep with
  | connecting hp habort started =>
    unfold connect
    split
    · exact h
    · exact close_running _ _ h
  | linkFailed => exact close_running _ _ h
  | linkUseless => exact close_running _ _ h
  | failed => exact close_running _ _ h
  | completed => exact close_running _ _ h
  | scanFailed => rfl
  | connectAborted => rfl
  | scanStopped => rfl
  | linkCancelled => rfl
  | linkLost => rfl
  | linkClosed => rfl
  | _ => exact h

/-- The start callback leaves `F_RECONNECT_REQUESTED` alone. -/
@[simp] theorem start_reconnect (started : Bool) (l : Life) :
    (l.start started refused).reconnect = l.reconnect := by
  unfold Life.start connect
  split
  · rfl
  split
  · split
    · rfl
    · exact close_reconnect _ _ _
  · rfl

/-- The start callback does not set `F_ATTEMPT_RUNNING` either. -/
theorem start_running (started : Bool) (l : Life) (h : l.running = false) :
    (l.start started refused).running = false := by
  unfold Life.start connect
  split
  · rfl
  split
  · split
    · exact h
    · exact close_running _ _ h
  · exact h

/-- Between attempts no packet confirms close range. -/
theorem Idle.confirmed (h : Idle l) (hstep : LifeStep event done refused l l') :
    l'.confirmed = l.confirmed := by
  obtain ⟨hphase, hlinked, hrunning⟩ := h
  cases hstep with
  | quiet => rfl
  | scanFailed => rfl
  | linkLost h => rfl
  | _ => simp_all

end Life

/-! ## The invariant of a run -/

/-- The life of the system's client. -/
def Sys.life (s : Sys) : Life := s.client.life

/-- What holds while another attempt may follow. -/
def Live (s : Sys) : Prop :=
  match s.main.pc.stage with
  | .outside => s.life.Idle ∧ .start ∉ s.queue
  | .tests | .writes => s.life.Idle ∧ s.queue = [] ∧ s.Tested
  | .setup => s.life.Waiting ∧ s.queue = [] ∧ s.life.reconnect = s.main.reconnect
  | .loop =>
    (if .start ∈ s.queue then s.life.Waiting else s.life.Active) ∧ .start ∉ s.queue.tail ∧
      s.life.reconnect = s.main.reconnect ∧
      (s.main.pc.leaving = true → s.life.running = false)

/-- `PAYLOAD_FATAL` has been returned: no attempt follows. -/
def Dead (s : Sys) : Prop :=
  s.main.returned = .fatal ∧ (s.main.pc = .returned ∨ s.main.pc = .driving)

/-- Between attempts the client is idle and no start callback waits. -/
theorem live_outside {s : Sys} (h : s.main.pc.stage = .outside) :
    Live s ↔ s.life.Idle ∧ .start ∉ s.queue := by
  simp only [Live, h]

/-- During the entry tests and the first writes nothing is queued and the tests passed hold. -/
theorem live_tests {s : Sys} (h : s.main.pc.stage = .tests ∨ s.main.pc.stage = .writes) :
    Live s ↔ s.life.Idle ∧ s.queue = [] ∧ s.Tested := by
  rcases h with h | h <;> simp only [Live, h]

/-- During the setup the attempt waits and takes over the caller's request to reconnect. -/
theorem live_setup {s : Sys} (h : s.main.pc.stage = .setup) :
    Live s ↔ s.life.Waiting ∧ s.queue = [] ∧ s.life.reconnect = s.main.reconnect := by
  simp only [Live, h]

/-- In the loop the attempt waits as long as its start callback does, and is active after it. -/
theorem live_loop {s : Sys} (h : s.main.pc.stage = .loop) :
    Live s ↔ (if .start ∈ s.queue then s.life.Waiting else s.life.Active) ∧
      .start ∉ s.queue.tail ∧ s.life.reconnect = s.main.reconnect ∧
      (s.main.pc.leaving = true → s.life.running = false) := by
  simp only [Live, h]

/-- The invariant between attempts. -/
theorem Live.outside {s : Sys} (h : s.main.pc.stage = .outside) (hidle : s.life.Idle)
    (hqueue : .start ∉ s.queue) : Live s := (live_outside h).mpr ⟨hidle, hqueue⟩

/-- The invariant during the entry tests. -/
theorem Live.tests {s : Sys} (h : s.main.pc.stage = .tests ∨ s.main.pc.stage = .writes)
    (hidle : s.life.Idle) (hqueue : s.queue = []) (htested : s.Tested) : Live s :=
  (live_tests h).mpr ⟨hidle, hqueue, htested⟩

/-- The invariant during the setup. -/
theorem Live.setup {s : Sys} (h : s.main.pc.stage = .setup) (hwaiting : s.life.Waiting)
    (hqueue : s.queue = []) (hreconnect : s.life.reconnect = s.main.reconnect) : Live s :=
  (live_setup h).mpr ⟨hwaiting, hqueue, hreconnect⟩

/-- The invariant in the loop. -/
theorem Live.loop {s : Sys} (h : s.main.pc.stage = .loop)
    (halive : if .start ∈ s.queue then s.life.Waiting else s.life.Active)
    (htail : .start ∉ s.queue.tail) (hreconnect : s.life.reconnect = s.main.reconnect)
    (hleaving : s.main.pc.leaving = true → s.life.running = false) : Live s :=
  (live_loop h).mpr ⟨halive, htail, hreconnect, hleaving⟩

/-- In the loop, with no start callback left, the attempt is active. -/
theorem Live.active {s : Sys} (h : Live s) (hstage : s.main.pc.stage = .loop)
    (hstart : .start ∉ s.queue) : s.life.Active := by
  obtain ⟨halive, -⟩ := (live_loop hstage).mp h
  rw [if_neg hstart] at halive
  exact halive

/-- In the loop, with the start callback still queued, the attempt waits. -/
theorem Live.waiting {s : Sys} (h : Live s) (hstart : .start ∈ s.queue)
    (hstage : s.main.pc.stage = .loop) : s.life.Waiting := by
  obtain ⟨halive, -⟩ := (live_loop hstage).mp h
  rw [if_pos hstart] at halive
  exact halive

/-- A start callback waits in the loop only. -/
theorem Live.loop_of_start {s : Sys} (h : Live s) (hstart : .start ∈ s.queue) :
    s.main.pc.stage = .loop := by
  have empty {p : Prop} (h : s.queue = []) : p := by
    rw [h] at hstart
    cases hstart
  cases hstage : s.main.pc.stage with
  | outside => exact absurd hstart ((live_outside hstage).mp h).2
  | tests => exact empty ((live_tests (.inl hstage)).mp h).2.1
  | writes => exact empty ((live_tests (.inr hstage)).mp h).2.1
  | setup => exact empty ((live_setup hstage).mp h).2.1
  | loop => rfl

/-- Callbacks wait in the loop and, left over from it, between attempts. -/
theorem Live.stage_of_queue {s : Sys} (h : Live s) (hqueue : s.queue ≠ []) :
    s.main.pc.stage = .outside ∨ s.main.pc.stage = .loop := by
  cases hstage : s.main.pc.stage with
  | outside => exact .inl rfl
  | tests => exact absurd ((live_tests (.inl hstage)).mp h).2.1 hqueue
  | writes => exact absurd ((live_tests (.inr hstage)).mp h).2.1 hqueue
  | setup => exact absurd ((live_setup hstage).mp h).2.1 hqueue
  | loop => exact .inr rfl

/-- No GATT event is heard outside the connected phase. -/
theorem Live.hearing {s : Sys} (h : Live s) :
    s.client.connectionHandle.isSome → s.client.bleState ≠ .closing → s.client.bleState ≠ .idle →
      s.client.life.phase = .connected := by
  intro hlinked hclosing hidle
  have unlinked (h : s.life.linked = false) : s.client.life.phase = .connected := by
    rw [Sys.life, Client.life, hlinked] at h
    cases h
  unfold Live at h
  split at h
  · exact unlinked h.1.linked
  · exact unlinked h.1.linked
  · exact unlinked h.1.linked
  · exact unlinked h.1.linked
  · split at h
    · exact unlinked h.1.linked
    · rcases h.1.linked hlinked with h | h
      · exact h
      · exact absurd ((closing_iff s.client).mp h) hclosing

/-- Queuing an abort neither adds nor drops a start callback. -/
theorem start_mem_enqueue {queue : List Callback} :
    .start ∈ enqueue .abort queue ↔ .start ∈ queue := by
  unfold enqueue
  split
  · exact Iff.rfl
  · simp

/-- A queued abort puts no start callback behind another callback. -/
theorem not_start_mem_tail_enqueue {queue : List Callback} (h : .start ∉ queue.tail) :
    .start ∉ (enqueue .abort queue).tail := by
  unfold enqueue
  split
  · exact h
  · cases queue with
    | nil => simp
    | cons callback rest => simpa using h

variable {s t : Sys}

/-- The entry tests read only the flags. -/
theorem Sys.Tested.congr {c : Client} (h : s.Tested)
    (hconfirmed : c.closeConfirmed = s.client.closeConfirmed)
    (hreconnect : c.reconnectRequested = s.client.reconnectRequested) :
    Sys.Tested { s with client := c } := by
  unfold Sys.Tested at h ⊢
  simp only [hconfirmed, hreconnect]
  exact h

/-- Packets keep the invariant. -/
theorem live_packet (event : Event) (h : Live s) :
    Live { s with client := handle robotFile env event s.client } := by
  have hstep := handle_life robotFile env event h.hearing
  have hreconnect := Life.reconnect_step hstep
  have tests (hstage : s.main.pc.stage = .tests ∨ s.main.pc.stage = .writes) :
      Live { s with client := handle robotFile env event s.client } := by
    obtain ⟨hidle, hqueue, htested⟩ := (live_tests hstage).mp h
    exact .tests hstage (hidle.step hstep) hqueue
      (htested.congr (hidle.confirmed hstep) hreconnect)
  cases hstage : s.main.pc.stage with
  | outside =>
    obtain ⟨hidle, hqueue⟩ := (live_outside hstage).mp h
    exact .outside hstage (hidle.step hstep) hqueue
  | tests => exact tests (.inl hstage)
  | writes => exact tests (.inr hstage)
  | setup =>
    obtain ⟨hwaiting, hqueue, hre⟩ := (live_setup hstage).mp h
    exact .setup hstage (hwaiting.step hstep) hqueue (hreconnect.trans hre)
  | loop =>
    obtain ⟨halive, htail, hre, hleaving⟩ := (live_loop hstage).mp h
    refine .loop hstage ?_ htail (hreconnect.trans hre)
      fun hl => Life.running_step (hleaving hl) hstep
    by_cases hstart : .start ∈ s.queue
    · rw [if_pos hstart] at halive ⊢
      exact halive.step hstep
    · rw [if_neg hstart] at halive ⊢
      exact halive.step hstep

/-- What the callback at the head of the queue does. -/
inductive CallbackStep (env : Env) (s : Sys) : Sys → Prop
  | start (rest : List Callback) (hqueue : s.queue = .start :: rest) :
      CallbackStep env s { s with client := startAttemptCallback env s.client, queue := rest }
  | abort (rest : List Callback) (hqueue : s.queue = .abort :: rest) :
      CallbackStep env s { s with client := abortAttemptCallback env s.client, queue := rest }

/-- Every callback the run loop can run is one of the listed steps. -/
theorem runCallback_cases {env : Env} (h : runCallback env s = some t) : CallbackStep env s t := by
  unfold runCallback at h
  split at h
  · cases h
  · rename_i rest hqueue
    cases h
    exact .start rest hqueue
  · rename_i rest hqueue
    cases h
    exact .abort rest hqueue

/-- Callbacks keep the invariant. -/
theorem live_callback (h : Live s) (hstep : runCallback env s = some t) : Live t := by
  cases runCallback_cases hstep with
  | start rest hqueue =>
    have hmem : .start ∈ s.queue := by simp [hqueue]
    have hstage := h.loop_of_start hmem
    obtain ⟨-, htail, hre, hleaving⟩ := (live_loop hstage).mp h
    rw [hqueue, List.tail_cons] at htail
    -- the start callback begins the attempt that the loop waits for
    have hlife := life_startAttemptCallback env s.client
    refine .loop hstage ?_ (fun hm => htail (List.mem_of_mem_tail hm)) ?_ fun hl => ?_
    · rw [if_neg htail]
      show Life.Active (startAttemptCallback env s.client).life
      rw [hlife]
      exact (h.waiting hmem hstage).start _
    · show (startAttemptCallback env s.client).life.reconnect = _
      rw [hlife, Life.start_reconnect]
      exact hre
    · show (startAttemptCallback env s.client).life.running = false
      rw [hlife]
      exact Life.start_running _ _ (hleaving hl)
  | abort rest hqueue =>
    rcases h.stage_of_queue (by simp [hqueue]) with hstage | hstage
    · obtain ⟨hidle, hmem⟩ := (live_outside hstage).mp h
      -- a late abort finds no attempt running
      have hsame : (abortAttemptCallback env s.client).life = s.life := by
        rcases life_abortAttemptCallback env s.client with h | ⟨hrunning, -⟩
        · exact h
        · exact absurd (hidle.running.symm.trans hrunning) nofun
      refine .outside hstage ?_ fun hm => hmem (by simp [hqueue, hm])
      show Life.Idle (abortAttemptCallback env s.client).life
      rw [hsame]
      exact hidle
    · obtain ⟨-, htail, hre, hleaving⟩ := (live_loop hstage).mp h
      rw [hqueue, List.tail_cons] at htail
      have hactive := h.active hstage (by simp [hqueue, htail])
      have htail' : .start ∉ rest.tail := fun hm => htail (List.mem_of_mem_tail hm)
      -- the abort closes the attempt, unless it is closing already
      rcases life_abortAttemptCallback env s.client with hlife | ⟨hrunning, -, -, hlife⟩
      · refine .loop hstage ?_ htail' ?_ fun hl => ?_
        · rw [if_neg htail]
          show Life.Active (abortAttemptCallback env s.client).life
          rw [hlife]
          exact hactive
        · show (abortAttemptCallback env s.client).life.reconnect = _
          rw [hlife]
          exact hre
        · show (abortAttemptCallback env s.client).life.running = false
          rw [hlife]
          exact hleaving hl
      · refine .loop hstage ?_ htail' ?_ fun hl => ?_
        · rw [if_neg htail]
          show Life.Active (abortAttemptCallback env s.client).life
          rw [hlife]
          exact Life.active_close _ hactive.linked (.inl hrunning) hactive.reconnect
        · show (abortAttemptCallback env s.client).life.reconnect = _
          rw [hlife, Life.close_reconnect]
          exact hre
        · exact absurd ((hleaving hl).symm.trans hrunning) nofun

/-- A step of the main thread keeps the invariant, or was the last one that matters. An
attempt may only begin with an empty run loop. -/
theorem live_main (h : Live s) (hprompt : s.main.pc = .checking → s.queue = [])
    (hstep : MainStep s t) : Live t ∨ Dead t := by
  cases hstep with
  | drive faults hpc hsub =>
    have hstage : s.main.pc.stage = .outside := by rw [hpc]; rfl
    obtain ⟨hidle, hqueue⟩ := (live_outside hstage).mp h
    exact .inl (.outside hstage ⟨hidle.phase, hidle.linked, hidle.running⟩ hqueue)
  | call hpc hreturned =>
    obtain ⟨hidle, hqueue⟩ := (live_outside (by rw [hpc]; rfl)).mp h
    exact .inl (.outside rfl hidle hqueue)
  | stop faults main hpc hpc' hreturned => exact .inr ⟨hreturned, .inr hpc'⟩
  | far faults hpc hreconnect hsub =>
    obtain ⟨hidle, hqueue⟩ := (live_outside (by rw [hpc]; rfl)).mp h
    exact .inl (.outside rfl ⟨hidle.phase, hidle.linked, hidle.running⟩ hqueue)
  | begin faults dbm hpc hsub =>
    obtain ⟨hidle, -⟩ := (live_outside (by rw [hpc]; rfl)).mp h
    exact .inl (.tests (.inl rfl) ⟨hidle.phase, hidle.linked, hidle.running⟩ (hprompt hpc)
      trivial)
  | refuse faults hpc hsub hwhy => exact .inr ⟨rfl, .inl rfl⟩
  | test faults pc hpc hsub hpc' htested =>
    obtain ⟨hidle, hqueue, htests⟩ := (live_tests (.inl hpc)).mp h
    have hstage : pc.stage = .tests ∨ pc.stage = .writes := by
      rcases hpc' with h | h
      · exact .inl h
      · exact .inr (by rw [h]; rfl)
    exact .inl (.tests hstage ⟨hidle.phase, hidle.linked, hidle.running⟩ hqueue (htested htests))
  | setReconnect hpc =>
    obtain ⟨hidle, hqueue, htests⟩ := (live_tests (.inr (by rw [hpc]; rfl))).mp h
    rw [Sys.Tested, hpc] at htests
    exact .inl (.tests (.inr rfl) ⟨hidle.phase, hidle.linked, hidle.running⟩ hqueue ⟨rfl, htests⟩)
  | clearAbort pc hpc hpc' =>
    obtain ⟨hidle, hqueue, htests⟩ := (live_tests (.inr (by rw [hpc]; rfl))).mp h
    rw [Sys.Tested, hpc] at htests
    rcases hpc' with ⟨hreconnect, rfl⟩ | ⟨hreconnect, rfl⟩
    · exact .inl (.tests (.inr rfl) ⟨hidle.phase, hidle.linked, hidle.running⟩ hqueue
        ⟨htests.1, (htests.2 hreconnect).trans hreconnect.symm⟩)
    · exact .inl (.tests (.inr rfl) ⟨hidle.phase, hidle.linked, hidle.running⟩ hqueue
        ⟨htests.1, hreconnect⟩)
  | clearConfirmed hpc =>
    obtain ⟨hidle, hqueue, htests⟩ := (live_tests (.inr (by rw [hpc]; rfl))).mp h
    rw [Sys.Tested, hpc] at htests
    exact .inl (.tests (.inr rfl) ⟨hidle.phase, hidle.linked, hidle.running⟩ hqueue
      ⟨htests.1, htests.2.symm⟩)
  | setRunning hpc =>
    obtain ⟨hidle, hqueue, htests⟩ := (live_tests (.inr (by rw [hpc]; rfl))).mp h
    rw [Sys.Tested, hpc] at htests
    exact .inl (.setup rfl
      ⟨.inl hidle.phase, hidle.linked, .inl rfl, htests.2.trans htests.1.symm⟩ hqueue htests.1)
  | stamp now hpc =>
    obtain ⟨hwaiting, hqueue, hre⟩ := (live_setup (by rw [hpc]; rfl)).mp h
    exact .inl (.setup rfl
      ⟨hwaiting.phase, hwaiting.linked, hwaiting.alive, hwaiting.confirmed⟩ hqueue hre)
  | starting hpc =>
    obtain ⟨hwaiting, hqueue, hre⟩ := (live_setup (by rw [hpc]; rfl)).mp h
    exact .inl (.setup rfl
      ⟨.inr rfl, hwaiting.linked, hwaiting.alive, hwaiting.confirmed⟩ hqueue hre)
  | queueStart main hpc hpc' hreconnect hconfirmed =>
    obtain ⟨hwaiting, hqueue, hre⟩ := (live_setup (by rw [hpc]; rfl)).mp h
    refine .inl (.loop (by rw [hpc']; rfl) ?_ (by simp [hqueue, enqueue])
      (hre.trans hreconnect.symm) ?_)
    · rw [if_pos (by simp [hqueue, enqueue])]
      exact hwaiting
    · rw [hpc']
      nofun
  | loop faults abort queue main hpc hpc' hleaving hsub hqueue hreconnect hconfirmed =>
    obtain ⟨halive, htail, hre, hl⟩ := (live_loop hpc).mp h
    -- an abort that is queued comes behind the start
    have hstart : .start ∈ queue ↔ .start ∈ s.queue := by
      rcases hqueue with rfl | rfl
      · exact Iff.rfl
      · exact start_mem_enqueue
    have htail' : .start ∉ queue.tail := by
      rcases hqueue with rfl | rfl
      · exact htail
      · exact not_start_mem_tail_enqueue htail
    refine .inl (.loop hpc' ?_ htail' (hre.trans hreconnect.symm) fun hleave => ?_)
    · simp only [hstart]
      split at halive
      · rename_i hmem
        rw [if_pos hmem]
        exact ⟨halive.phase, halive.linked, halive.alive, halive.confirmed⟩
      · rename_i hmem
        rw [if_neg hmem]
        exact ⟨halive.phase, halive.linked, halive.idle, halive.alive, halive.reconnect,
          halive.scanning, halive.qualified⟩
    · rcases hleaving hleave with h | h
      · exact hl h
      · exact h
  | giveUp faults hpc hsub hwhy => exact .inr ⟨rfl, .inl rfl⟩
  | result hpc =>
    obtain ⟨halive, -, hre, hl⟩ := (live_loop (by rw [hpc]; rfl)).mp h
    have hrunning := hl (by rw [hpc]; rfl)
    -- without a fatal result the cleanup has left the client idle and without a link
    by_cases hfatal : s.client.result = .fatal
    · exact .inr ⟨hfatal, .inl rfl⟩
    split at halive
    · rcases halive.alive with h | h
      · rw [hrunning] at h
        cases h
      · exact absurd h hfatal
    · rename_i hmem
      have hphase : s.life.phase = .idle := by
        rcases halive.alive with h | h | h
        · exact h
        · rw [hrunning] at h
          cases h
        · exact absurd h hfatal
      refine .inl (.outside rfl ⟨hphase, ?_, hrunning⟩ hmem)
      by_contra hlinked
      rw [Bool.not_eq_false] at hlinked
      rcases halive.linked hlinked with h | h
      · rw [hphase] at h
        cases h
      · rw [hphase] at h
        cases h
  | done faults main hpc hpc' hreturned hr hconfirmed hsub =>
    obtain ⟨hidle, hqueue⟩ := (live_outside (by rw [hpc]; rfl)).mp h
    exact .inl (.outside (by rw [hpc']; rfl)
      ⟨hidle.phase, hidle.linked, hidle.running⟩ hqueue)
  | again faults main hpc hpc' hreturned hr hreconnect hsub =>
    obtain ⟨hidle, hqueue⟩ := (live_outside (by rw [hpc]; rfl)).mp h
    exact .inl (.outside (by rw [hpc']; rfl)
      ⟨hidle.phase, hidle.linked, hidle.running⟩ hqueue)

/-- After `PAYLOAD_FATAL` nothing but driving and packets goes on. -/
theorem dead_step (h : Dead s) {action : Action} (hstep : step robotFile s action = some t) :
    Dead t := by
  obtain ⟨hreturned, hpc⟩ := h
  cases action with
  | packet event env =>
    cases hstep
    exact ⟨hreturned, hpc⟩
  | callback env =>
    change runCallback env s = some t at hstep
    cases runCallback_cases hstep with
    | start =>
      exact ⟨hreturned, hpc⟩
    | abort =>
      exact ⟨hreturned, hpc⟩
  | main world =>
    change mainStep world s = some t at hstep
    rcases hpc with hpc | hpc
    · rw [mainStep, hpc] at hstep
      cases hstep
      unfold afterAttempt
      simp only [hreturned, ne_eq, not_true_eq_false, false_and, if_false, reduceCtorEq, or_true,
        if_true]
      exact ⟨rfl, .inr rfl⟩
    · rw [mainStep, hpc] at hstep
      change driving world s = some t at hstep
      rw [driving, hreturned] at hstep
      simp only [reduceCtorEq, if_false] at hstep
      split at hstep
      · cases hstep
      · cases hstep
        exact ⟨hreturned, .inr rfl⟩

/-- Every move of a run with a prompt run loop keeps the invariant, until an attempt has
ended as fatal. -/
theorem live_step {action : Action} (h : Live s) (hprompt : s.Prompt action)
    (hstep : step robotFile s action = some t) : Live t ∨ Dead t := by
  cases action with
  | packet event env =>
    cases hstep
    exact .inl (live_packet robotFile env event h)
  | callback env => exact .inl (live_callback env h hstep)
  | main world => exact live_main h hprompt (mainStep_cases world hstep)

/-- The invariant holds at boot. -/
theorem live_boot : Live Sys.boot := .outside rfl ⟨rfl, rfl, rfl⟩ nofun

end PayloadClient
