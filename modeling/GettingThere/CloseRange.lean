/-
# Close range decides what an attempt returns

`PAYLOAD_NOT_CLOSE` lets the robot drive on, so an attempt that confirmed close range must
not return it, and one that did not must not claim a retry or a transfer.  Every path into
the cleanup of an attempt stores a result that fits, with one exception: a connection that
completes after `F_ABORT_REQUESTED` was set and before the abort callback has run is closed
under whatever an earlier attempt has left in the closing result (`lateConnection`).
-/
import GettingThere.AttemptRun

namespace PayloadClient

open Transition

/-! ## Results that fit -/

/-- The result `r` may be reported of an attempt whose close-range flag is `confirmed`. -/
def Told (confirmed : Bool) (r : PayloadResult) : Prop :=
  (r = .notClose → confirmed = false) ∧ (r = .retry ∨ r = .complete → confirmed = true)

theorem told_fatal (confirmed : Bool) : Told confirmed .fatal := ⟨nofun, by simp⟩

namespace Life

variable {l l' : Life} {event : Event} {done refused : Bool}

theorem told_failure (l : Life) : Told l.confirmed l.failure := by
  unfold failure
  cases l.confirmed
  · exact ⟨fun _ => rfl, by simp⟩
  · exact ⟨by simp, fun _ => rfl⟩

/-- The result an ending attempt has stored, and the one of an attempt that is over. -/
structure Honest (l : Life) : Prop where
  closing : l.phase = .stoppingScan ∨ l.phase = .closing → Told l.confirmed l.closing
  result : l.phase = .idle → Told l.confirmed l.result

/-- No result is stored before an attempt ends. -/
theorem honest_of_phase (hidle : l.phase ≠ .idle) (hstopping : l.phase ≠ .stoppingScan)
    (hclosing : l.phase ≠ .closing) : Honest l where
  closing := by
    rintro (h | h)
    · exact absurd h hstopping
    · exact absurd h hclosing
  result := fun h => absurd h hidle

theorem honest_finish (h : Told l.confirmed l.closing) : Honest l.finish where
  closing := by simp [finish]
  result := fun _ => h

theorem honest_die : Honest l.die := honest_finish (told_fatal _)

/-- An attempt closed with a result that fits. -/
theorem honest_close {r : PayloadResult} (h : Told l.confirmed r) :
    Honest (l.close refused r) := by
  have ending {p : Phase} {r' : PayloadResult} (hp : p ≠ .idle) (hr : Told l.confirmed r') :
      Honest { l with phase := p, closing := r' } := ⟨fun _ => hr, fun h => absurd h hp⟩
  have choice (b : Bool) : Told l.confirmed (if b then .fatal else r) := by
    cases b
    · exact h
    · exact told_fatal _
  unfold close
  split
  · split
    · exact ending nofun h
    · exact honest_die
  · split
    · exact ending nofun h
    · exact honest_die
  · exact ending nofun (choice _)
  · split
    · exact ending nofun (choice _)
    · exact honest_finish h

/-- A connection completes under a closing result that does not fit it. -/
def LateConnection (l : Life) (event : Event) : Prop :=
  (∃ handle, event = .connectionComplete 0 handle) ∧ l.phase = .connecting ∧ l.abort = true ∧
    l.closing = .notClose

/-- Packets keep an attempt honest, the late connection apart. -/
theorem Honest.step (h : Honest l) (hactive : Active l) (hgood : ¬ LateConnection l event)
    (hstep : LifeStep event done refused l l') : Honest l' := by
  cases hstep with
  | quiet => exact h
  | scanFailed => exact honest_die
  | scanStarted hp => exact ⟨h.closing, h.result⟩
  | inRange hp habort => exact honest_of_phase nofun nofun nofun
  | scanStopped hp => exact honest_finish (h.closing (.inl hp))
  | connectAborted hp habort hevent => exact honest_die
  | connecting hp habort started =>
    unfold connect
    split
    · exact honest_of_phase nofun nofun nofun
    · exact honest_close (told_failure l)
  | linkFailed hp => exact honest_close (told_failure l)
  | linkCancelled hp => exact honest_finish (h.closing (.inr hp))
  | linkUp hp habort => exact honest_of_phase nofun nofun nofun
  | linkUseless hp habort => exact honest_close (told_failure l)
  | linkLate hp => exact ⟨fun _ => h.closing (.inr hp), nofun⟩
  | linkAborted hp habort handle hevent =>
    -- the closing result is an earlier attempt's; only PAYLOAD_NOT_CLOSE would not fit
    have hconfirmed : l.confirmed = true := hactive.qualified (.inr (.inl hp))
    have hclosing : l.closing ≠ .notClose := fun hc => hgood ⟨⟨handle, hevent⟩, hp, habort, hc⟩
    exact ⟨fun _ => ⟨fun hc => absurd hc hclosing, fun _ => hconfirmed⟩, nofun⟩
  | linkLost hl hp => exact honest_finish (told_failure l)
  | linkClosed hp => exact honest_finish (h.closing (.inr hp))
  | failed hp hl => exact honest_close (told_failure l)
  | completed hp hl hdone =>
    have hconfirmed : l.confirmed = true := hactive.qualified (.inr (.inr hp))
    exact honest_close ⟨nofun, fun _ => hconfirmed⟩

/-- The start callback begins an honest attempt. -/
theorem honest_start (started : Bool) : Honest (l.start started refused) := by
  unfold Life.start
  split
  · exact honest_die
  split
  · unfold connect
    split
    · exact honest_of_phase nofun nofun nofun
    · exact honest_close (told_failure l)
  · exact honest_of_phase nofun nofun nofun

end Life

/-! ## Every run -/

/-- What holds of the results along a run. -/
structure Faithful (s : Sys) : Prop where
  live : Live s
  honest : s.main.pc.stage = .loop → .start ∉ s.queue → s.life.Honest
  told : s.main.pc = .returned → s.main.returned ≠ .fatal →
    Told s.life.confirmed s.main.returned ∧
      (s.main.reconnect = true → s.life.confirmed = true)
  first : s.main.pc ≠ .driving → s.main.reconnect = false → s.main.confirmed = false
  driving : s.main.pc = .driving → s.main.returned = .notClose → s.main.confirmed = false

/-- The packet that goes wrong: a connection completes while an abort is requested and the
closing result is still `PAYLOAD_NOT_CLOSE` from before. -/
def lateConnection (s : Sys) : Action → Bool
  | .packet (.connectionComplete status _) _ =>
    status = 0 ∧ s.client.bleState = .connecting ∧ s.client.abortRequested ∧
      s.client.closingResult = .notClose
  | _ => false

variable {s t : Sys} (robotFile : Bytes) (env : Env)

theorem faithful_packet {event : Event} (h : Faithful s)
    (hgood : lateConnection s (.packet event env) = false) :
    Faithful { s with client := handle robotFile env event s.client } := by
  have hstep := handle_life robotFile env event h.live.hearing
  refine ⟨live_packet robotFile env event h.live, fun hstage hstart => ?_, fun hpc hr => ?_,
    h.first, h.driving⟩
  · refine (h.honest hstage hstart).step (h.live.active hstage hstart) ?_ hstep
    rintro ⟨⟨handle, rfl⟩, hphase, habort, hclosing⟩
    have hstate := (phase_eq_iff s.client).2.2.mp hphase
    have habort' : s.client.abortRequested = true := habort
    have hclosing' : s.client.closingResult = .notClose := hclosing
    simp [lateConnection, hstate, habort', hclosing'] at hgood
  · obtain ⟨hidle, -⟩ := (live_outside (by rw [hpc]; rfl)).mp h.live
    have hconfirmed := hidle.confirmed hstep
    obtain ⟨htold, hreconnect⟩ := h.told hpc hr
    show Told (handle robotFile env event s.client).life.confirmed _ ∧
      (_ → (handle robotFile env event s.client).life.confirmed = true)
    rw [hconfirmed]
    exact ⟨htold, hreconnect⟩

theorem faithful_callback (h : Faithful s) (hstep : runCallback env s = some t) : Faithful t := by
  have hlive := live_callback env h.live hstep
  cases runCallback_cases hstep with
  | start rest hqueue =>
    have hmem : .start ∈ s.queue := by simp [hqueue]
    have hlife := life_startAttemptCallback env s.client
    refine ⟨hlive, fun hstage _ => ?_, fun hpc => ?_, h.first, h.driving⟩
    · show Life.Honest (startAttemptCallback env s.client).life
      rw [hlife]
      exact Life.honest_start _
    · have hstage := h.live.loop_of_start hmem
      rw [show s.main.pc = .returned from hpc] at hstage
      cases hstage
  | abort rest hqueue =>
    have hconfirmed : (abortAttemptCallback env s.client).life.confirmed = s.life.confirmed := by
      rcases life_abortAttemptCallback env s.client with hlife | ⟨-, -, -, hlife⟩
      · rw [hlife]
        rfl
      · rw [hlife, Life.close_confirmed]
        rfl
    refine ⟨hlive, fun hstage hstart => ?_, fun hpc hr => ?_, h.first, h.driving⟩
    · change .start ∉ rest at hstart
      have hhonest := h.honest hstage (by simp [hqueue, hstart])
      show Life.Honest (abortAttemptCallback env s.client).life
      rcases life_abortAttemptCallback env s.client with hlife | ⟨-, -, -, hlife⟩
      · rw [hlife]
        exact hhonest
      · rw [hlife]
        apply Life.honest_close
        split
        · exact told_fatal _
        · exact Life.told_failure s.life
    · show Told (abortAttemptCallback env s.client).life.confirmed _ ∧
        (_ → (abortAttemptCallback env s.client).life.confirmed = true)
      rw [hconfirmed]
      exact h.told hpc hr

/-- Nothing is promised of a state outside the loop that has returned nothing but
`PAYLOAD_FATAL`. -/
theorem Faithful.begun (pc : Pc) (hlive : Live t) (hpc : t.main.pc = pc)
    (hbefore : pc.stage ≠ .loop ∧ pc ≠ .returned ∧ pc ≠ .driving)
    (hfirst : t.main.reconnect = false → t.main.confirmed = false) : Faithful t := by
  subst hpc
  obtain ⟨hstage, hreturned, hdriving⟩ := hbefore
  exact ⟨hlive, fun h => absurd h hstage, fun h => absurd h hreturned, fun _ => hfirst,
    fun h => absurd h hdriving⟩

theorem faithful_main (h : Faithful s) (hstep : MainStep s t) (hlive : Live t) : Faithful t := by
  have first {pc : Pc} (hpc : s.main.pc = pc) (hne : pc ≠ .driving) :
      s.main.reconnect = false → s.main.confirmed = false := h.first (by rw [hpc]; exact hne)
  cases hstep with
  | drive faults hpc hsub =>
    exact ⟨hlive, fun hs => absurd hs (by simp [hpc, Pc.stage]),
      fun hr => absurd (hpc.symm.trans hr) (by decide), fun hd => absurd hpc hd, h.driving⟩
  | call hpc hreturned =>
    -- the first attempt of a call begins without a reconnect
    exact .begun .checking hlive rfl (by decide) fun _ => rfl
  | stop faults main hpc hpc' hreturned =>
    refine ⟨hlive, fun hs => ?_, fun hr => ?_, fun hd => absurd hpc' hd, fun _ hn => ?_⟩
    · rw [hpc'] at hs
      cases hs
    · rw [hpc'] at hr
      cases hr
    · rw [hreturned] at hn
      cases hn
  | far faults hpc hreconnect hsub =>
    exact ⟨hlive, by rintro ⟨⟩, by rintro ⟨⟩, fun hd => absurd rfl hd,
      fun _ _ => first hpc (by decide) hreconnect⟩
  | begin faults dbm hpc hsub =>
    exact .begun .testReady hlive rfl (by decide) (first hpc (by decide))
  | refuse faults hpc hsub hwhy =>
    refine ⟨hlive, by rintro ⟨⟩, fun _ hr => absurd rfl hr, fun _ => h.first ?_, by rintro ⟨⟩⟩
    intro hd
    rw [hd] at hpc
    cases hpc
  | test faults pc hpc hsub hpc' htested =>
    have hne : pc.stage = .tests ∨ pc.stage = .writes := by
      rcases hpc' with h | h
      · exact .inl h
      · exact .inr (by rw [h]; rfl)
    refine .begun pc hlive rfl ⟨fun hs => ?_, fun hr => ?_, fun hd => ?_⟩ (h.first fun hd => ?_)
    · change pc.stage = .loop at hs
      rcases hne with h | h <;> rw [hs] at h <;> cases h
    · change pc = .returned at hr
      rw [hr] at hne
      rcases hne with h | h <;> cases h
    · change pc = .driving at hd
      rw [hd] at hne
      rcases hne with h | h <;> cases h
    · rw [hd] at hpc
      cases hpc
  | setReconnect hpc => exact .begun .clearAbort hlive rfl (by decide) (first hpc (by decide))
  | clearAbort pc hpc hpc' =>
    rcases hpc' with ⟨-, rfl⟩ | ⟨-, rfl⟩
    · exact .begun .setRunning hlive rfl (by decide) (first hpc (by decide))
    · exact .begun .clearConfirmed hlive rfl (by decide) (first hpc (by decide))
  | clearConfirmed hpc => exact .begun .setRunning hlive rfl (by decide) (first hpc (by decide))
  | setRunning hpc => exact .begun .stampPhase hlive rfl (by decide) (first hpc (by decide))
  | stamp now hpc => exact .begun .setStarting hlive rfl (by decide) (first hpc (by decide))
  | starting hpc => exact .begun .queueStart hlive rfl (by decide) (first hpc (by decide))
  | queueStart main hpc hpc' hreconnect hconfirmed =>
    refine ⟨hlive, fun _ hstart => absurd ?_ hstart, fun hr => ?_, fun _ => ?_, fun hd => ?_⟩
    · obtain ⟨-, hqueue, -⟩ := (live_setup (by rw [hpc]; rfl)).mp h.live
      simp [hqueue, enqueue]
    · rw [hpc'] at hr
      cases hr
    · rw [hreconnect, hconfirmed]
      exact first hpc (by decide)
    · rw [hpc'] at hd
      cases hd
  | loop faults abort queue main hpc hpc' hleaving hsub hqueue hreconnect hconfirmed =>
    refine ⟨hlive, fun _ hstart => ?_, fun hr => ?_, fun _ => ?_, fun hd => ?_⟩
    · -- the start has been taken, so the attempt is as its callbacks left it
      have hmem : .start ∉ s.queue := by
        rcases hqueue with rfl | rfl
        · exact hstart
        · exact fun hm => hstart (start_mem_enqueue.mpr hm)
      obtain ⟨hclosing, hresult⟩ := h.honest hpc hmem
      exact ⟨hclosing, hresult⟩
    · rw [hr] at hpc'
      cases hpc'
    · rw [hreconnect, hconfirmed]
      apply h.first
      intro hd
      rw [hd] at hpc
      cases hpc
    · rw [hd] at hpc'
      cases hpc'
  | giveUp faults hpc hsub hwhy =>
    refine ⟨hlive, by rintro ⟨⟩, fun _ hr => absurd rfl hr, fun _ => h.first ?_, by rintro ⟨⟩⟩
    intro hd
    rw [hd] at hpc
    cases hpc
  | result hpc =>
    refine ⟨hlive, by rintro ⟨⟩, ?_, fun _ => first hpc (by decide), by rintro ⟨⟩⟩
    intro _ hr
    change s.client.result ≠ .fatal at hr
    obtain ⟨halive, -, hre, hl⟩ := (live_loop (by rw [hpc]; rfl)).mp h.live
    have hidle := ((live_outside rfl).mp hlive).1
    have hmem := ((live_outside rfl).mp hlive).2
    have hhonest := h.honest (by rw [hpc]; rfl) hmem
    rw [if_neg hmem] at halive
    exact ⟨hhonest.result hidle.phase, fun hm => halive.reconnect (hre.trans hm)⟩
  | done faults main hpc hpc' hreturned hr hconfirmed hsub =>
    refine ⟨hlive, fun hs => ?_, fun hr => ?_, fun hd => absurd hpc' hd, fun _ hn => ?_⟩
    · rw [hpc'] at hs
      cases hs
    · rw [hpc'] at hr
      cases hr
    · have hreconnect : s.main.reconnect = false := by
        rcases hr with h | h
        · rw [hn] at h
          cases h
        · exact h.2
      have hr' : s.main.returned = .notClose := hreturned.symm.trans hn
      obtain ⟨htold, -⟩ := h.told hpc (by rw [hr']; rintro ⟨⟩)
      have hflag : s.client.closeConfirmed = false := htold.1 hr'
      show main.confirmed = false
      rw [hconfirmed, first hpc (by decide) hreconnect, hreconnect, hflag]
      rfl
  | again faults main hpc hpc' hreturned hr hreconnect hsub =>
    refine .begun _ hlive hpc' (by decide) ?_
    intro hf
    rw [hreconnect] at hf
    cases hf

/-- One move keeps the results faithful. -/
theorem faithful_step {action : Action} (h : Faithful s)
    (hprompt : s.Prompt action) (hgood : lateConnection s action = false)
    (hstep : step robotFile s action = some t) : Faithful t ∨ Dead t := by
  cases action with
  | packet event env =>
    cases hstep
    exact .inl (faithful_packet robotFile env h hgood)
  | callback env => exact .inl (faithful_callback env h hstep)
  | main world =>
    have hmain := mainStep_cases world hstep
    rcases live_main h.live hprompt hmain with hlive | hdead
    · exact .inl (faithful_main h hmain hlive)
    · exact .inr hdead

theorem faithful_boot : Faithful Sys.boot :=
  ⟨live_boot, nofun, nofun, fun _ _ => rfl, fun _ _ => rfl⟩

/-- **Close range decides the result**: in every run with a prompt run loop in which no connection
completes late, what `run_attempt` returns fits the close-range flag of its attempt, and
`check_payload` returns `PAYLOAD_NOT_CLOSE` only when none of its attempts has confirmed close
range. -/
theorem closeRange_decides_result {actions : List Action} {s : Sys}
    (hprompt : Along (step robotFile) Sys.Prompt Sys.boot actions)
    (hgood : Along (step robotFile) (fun s action => lateConnection s action = false)
      Sys.boot actions)
    (hrun : run (step robotFile) Sys.boot actions = some s) :
    (s.main.pc = .returned →
      ((s.main.reconnect = true ∨ s.client.closeConfirmed = true) →
        s.main.returned ≠ .notClose) ∧
      (¬ (s.main.reconnect = true ∨ s.client.closeConfirmed = true) →
        s.main.returned ≠ .retry ∧ s.main.returned ≠ .complete)) ∧
    (s.main.pc = .driving → s.main.returned = .notClose → s.main.confirmed = false) := by
  have hstep (s : Sys) (action : Action) (t : Sys) (h : Faithful s ∨ Dead s)
      (hallowed : s.Prompt action ∧ lateConnection s action = false)
      (hstep : step robotFile s action = some t) : Faithful t ∨ Dead t := by
    rcases h with h | h
    · exact faithful_step robotFile h hallowed.1 hallowed.2 hstep
    · exact .inr (dead_step robotFile h hstep)
  rcases run_invariant_along hstep actions _ _ (.inl faithful_boot) (hprompt.and hgood) hrun with
    h | ⟨hfatal, -⟩
  · refine ⟨?_, h.driving⟩
    intro hpc
    by_cases hfatal : s.main.returned = .fatal
    · rw [hfatal]
      exact ⟨fun _ => nofun, fun _ => ⟨nofun, nofun⟩⟩
    obtain ⟨⟨hnotClose, hclose⟩, hreconnect⟩ := h.told hpc hfatal
    refine ⟨fun hclosed hr => ?_, fun hopen => ⟨fun hr => ?_, fun hr => ?_⟩⟩
    · have hflag : s.client.closeConfirmed = false := hnotClose hr
      rcases hclosed with hre | hconfirmed
      · rw [show s.client.closeConfirmed = true from hreconnect hre] at hflag
        cases hflag
      · rw [hconfirmed] at hflag
        cases hflag
    · exact hopen (.inr (hclose (.inl hr)))
    · exact hopen (.inr (hclose (.inr hr)))
  · rw [hfatal]
    exact ⟨fun _ => ⟨fun _ => nofun, fun _ => ⟨nofun, nofun⟩⟩, fun _ => nofun⟩

/-- Close range is confirmed, and the connection to the beacon fails. -/
def connectionFailed : List Action :=
  attemptBegun ++ closeRangeConfirmed ++
    [.packet (.connectionComplete 0x3E 0) accepting] ++ List.replicate 3 (mainAt 0)

theorem connectionFailed_not_notClose :
    ∃ s, run (step robotTestFile) Sys.boot connectionFailed = some s ∧ s.main.pc = .returned ∧
      s.main.returned ≠ .notClose := by
  have hend : (run (step robotTestFile) Sys.boot connectionFailed).map
      (fun s => (s.main.pc, s.client.closeConfirmed)) = some (.returned, true) := by
    decide +kernel
  obtain ⟨s, hrun, hs⟩ := Option.map_eq_some_iff.mp hend
  rw [Prod.mk.injEq] at hs
  have hresult := closeRange_decides_result robotTestFile (by decide +kernel) (by decide +kernel)
    hrun
  exact ⟨s, hrun, hs.1, (hresult.1 hs.1).1 (.inr hs.2)⟩

/-- The setup of the connection times out: the main thread requests the abort, the connection
completes before the abort callback runs, and the link is closed again. -/
def connectedAfterTimeout : List Action :=
  attemptBegun ++ closeRangeConfirmed ++ List.replicate 10 (mainAt 20000) ++
    [.packet (.connectionComplete 0 1) accepting, mainAt 20000, .callback accepting,
      .packet (.disconnectionComplete 1) accepting] ++ List.replicate 4 (mainAt 20000)

/-- That attempt confirmed close range and returns `PAYLOAD_NOT_CLOSE`. -/
theorem connectedAfterTimeout_notClose :
    ¬ ∀ (actions : List Action) (s : Sys),
      run (step robotTestFile) Sys.boot actions = some s → s.main.pc = .returned →
        s.main.reconnect = true ∨ s.client.closeConfirmed = true →
          s.main.returned ≠ .notClose := by
  intro hclaim
  have hend : (run (step robotTestFile) Sys.boot connectedAfterTimeout).map
      (fun s => (s.main.pc, s.client.closeConfirmed, s.main.returned)) =
        some (.returned, true, .notClose) := by
    decide +kernel
  obtain ⟨s, hrun, hs⟩ := Option.map_eq_some_iff.mp hend
  simp only [Prod.mk.injEq] at hs
  exact hclaim connectedAfterTimeout s hrun hs.1 (.inr hs.2.1) hs.2.2

end PayloadClient
