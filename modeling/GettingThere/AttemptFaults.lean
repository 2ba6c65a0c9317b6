/-
# The fault behind `PAYLOAD_FATAL`

A run that the BLE client ends with `PAYLOAD_FATAL` should say why: STOP latched, a radio
fault or a payload fault.  Each place that stores `PAYLOAD_FATAL` either raises its fault
on the way or is one of four that do not (`silentFatal`): the start callback and the end of
the scan under a requested abort, an abort of a scan that was never acknowledged, and a
disconnect that BTstack refuses right after the final acknowledgement has cleared the fault.

STOP and the radio fault are never cleared here, the payload fault is cleared by the final
acknowledgement only: hence the two predicates `grave` and `named`.
-/
import GettingThere.AttemptRun

namespace PayloadClient

open Transition

/-! ## Faults that explain an end -/

/-- A fault that is never cleared by the client. -/
def grave (faults : Faults) : Bool := .stopLatched ∈ faults ∨ .bleRadio ∈ faults

/-- A fault that explains `PAYLOAD_FATAL`. -/
def named (faults : Faults) : Bool := grave faults || decide (.payload ∈ faults)

/-- STOP and a radio fault explain a fatal end. -/
theorem named_of_grave {faults : Faults} (h : grave faults = true) : named faults = true := by
  simp [named, h]

/-- A payload fault explains it, too. -/
theorem named_of_payload {faults : Faults} (h : .payload ∈ faults) : named faults = true := by
  simp [named, h]

/-- More faults explain more. -/
theorem grave_mono {faults faults' : Faults} (hsub : faults ⊆ faults')
    (h : grave faults = true) : grave faults' = true := by
  simp only [grave, decide_eq_true_eq] at h ⊢
  exact h.imp (fun h => hsub h) (fun h => hsub h)

/-- More faults explain more, the payload fault among them. -/
theorem named_mono {faults faults' : Faults} (hsub : faults ⊆ faults')
    (h : named faults = true) : named faults' = true := by
  simp only [named, Bool.or_eq_true, decide_eq_true_eq] at h ⊢
  exact h.imp (fun h => grave_mono hsub h) (fun h => hsub h)

/-- Clearing the payload fault clears neither STOP nor the radio fault. -/
@[simp] theorem grave_clear_payload (faults : Faults) :
    grave (faults.clear .payload) = grave faults := by
  simp [grave]

/-- A radio fault that is raised explains what follows. -/
theorem grave_raise_radio (faults : Faults) : grave (faults.raise .bleRadio) = true := by
  simp [grave]

namespace Life

variable {l l' : Life} {event : Event} {done refused : Bool}

/-- Between attempts and while one is set up, `PAYLOAD_FATAL` can only stand in the closing
result after a failed scan command. -/
structure Clean (l : Life) : Prop where
  closing : l.closing = .fatal → grave l.faults = true

/-- An attempt set up and not started: it runs, unless a scan command has failed. -/
structure Ready (l : Life) : Prop where
  closing : l.closing = .fatal → grave l.faults = true
  running : l.running = false → grave l.faults = true

/-- Every stored `PAYLOAD_FATAL` is explained, and so is an attempt that goes on although it
was stored as over. -/
structure Accounted (l : Life) : Prop where
  before : l.phase ≠ .idle → l.phase ≠ .stoppingScan → l.phase ≠ .closing →
    l.closing = .fatal → grave l.faults = true
  closing : l.phase ≠ .idle → l.closing = .fatal → named l.faults = true
  result : l.phase = .idle → l.result = .fatal → named l.faults = true
  ghost : l.phase ≠ .idle → l.running = false → grave l.faults = true

/-- Between attempts a packet stores `PAYLOAD_FATAL` with a radio fault only. -/
theorem Clean.step (h : Clean l) (hidle : Idle l) (hstep : LifeStep event done refused l l') :
    Clean l' := by
  obtain ⟨hphase, hlinked, hrunning⟩ := hidle
  cases hstep with
  | quiet => exact h
  | scanFailed => exact ⟨fun _ => grave_raise_radio _⟩
  | linkLost h => simp [hlinked] at h
  | _ => simp_all

/-- While an attempt is set up a packet that ends it leaves a radio fault. -/
theorem Ready.step (h : Ready l) (hwaiting : Waiting l)
    (hstep : LifeStep event done refused l l') : Ready l' := by
  obtain ⟨hphase, hlinked, halive, hconfirmed⟩ := hwaiting
  cases hstep with
  | quiet => exact h
  | scanFailed => exact ⟨fun _ => grave_raise_radio _, fun _ => grave_raise_radio _⟩
  | linkLost h => simp [hlinked] at h
  | _ => simp_all

/-- A finished attempt reports what closing it has stored. -/
theorem accounted_finish (h : l.closing = .fatal → named l.faults = true) :
    Accounted l.finish where
  before := fun hp => absurd rfl hp
  closing := fun hp => absurd rfl hp
  result := fun _ => h
  ghost := fun hp => absurd rfl hp

/-- An attempt that has stored `r` and waits for the radio. -/
theorem accounted_ending {p : Phase} {r : PayloadResult} (hp : p = .stoppingScan ∨ p = .closing)
    (h : r = .fatal → named l.faults = true)
    (hghost : l.running = false → grave l.faults = true) :
    Accounted { l with phase := p, closing := r } := by
  have hidle : p ≠ .idle := by rcases hp with rfl | rfl <;> nofun
  refine ⟨?_, fun _ => h, fun hi => absurd hi hidle, fun _ => hghost⟩
  intro _ hs hc
  rcases hp with rfl | rfl
  · exact absurd rfl hs
  · exact absurd rfl hc

/-- Closing an attempt is accounted for when each way it can store `PAYLOAD_FATAL` is. -/
theorem accounted_close {r : PayloadResult} (hr : r = .fatal → named l.faults = true)
    (hunacknowledged : l.phase = .scanning ∨ l.phase = .stoppingForConnect →
      l.scanConfirmed = false → named l.faults = true)
    (hrefused : l.linked = true → refused = true → named l.faults = true)
    (hlinked : l.linked = true → l.phase ≠ .idle)
    (hghost : l.phase ≠ .idle → l.running = false → grave l.faults = true) :
    Accounted (l.close refused r) := by
  have die (h : named l.faults = true) : Accounted l.die := accounted_finish fun _ => h
  have stopping (hp : l.phase = .scanning ∨ l.phase = .stoppingForConnect) :
      Accounted { l with phase := .stoppingScan, closing := r } := by
    refine accounted_ending (.inl rfl) hr (hghost ?_)
    rcases hp with h | h <;> rw [h] <;> nofun
  unfold close
  split
  · rename_i hp
    split
    · exact stopping (.inl hp)
    · rename_i hscan
      exact die (hunacknowledged (.inl hp) (Bool.eq_false_of_not_eq_true hscan))
  · rename_i hp
    split
    · exact stopping (.inr hp)
    · rename_i hscan
      exact die (hunacknowledged (.inr hp) (Bool.eq_false_of_not_eq_true hscan))
  · rename_i hp
    refine accounted_ending (.inr rfl) ?_ (hghost (by rw [hp]; nofun))
    intro hf
    split at hf
    · rename_i hlr
      rw [Bool.and_eq_true] at hlr
      exact hrefused hlr.1 hlr.2
    · exact hr hf
  · split
    · rename_i hl
      refine accounted_ending (.inr rfl) ?_ (hghost (hlinked hl))
      intro hf
      split at hf
      · rename_i hre
        exact hrefused hl hre
      · exact hr hf
    · exact accounted_finish hr

/-- A failure is accounted for: it raises the payload fault. -/
theorem accounted_fail (hlinked : l.linked = true → l.phase ≠ .idle)
    (hghost : l.phase ≠ .idle → l.running = false → grave l.faults = true) :
    Accounted (l.fail refused) := by
  have hnamed : named (l.faults.raise .payload) = true := named_of_payload (by simp)
  refine accounted_close (fun _ => hnamed) (fun _ _ => hnamed) (fun _ _ => hnamed) hlinked ?_
  exact fun hp hrunning => grave_mono (Finset.subset_insert _ _) (hghost hp hrunning)

/-- The state before a packet that stores `PAYLOAD_FATAL` without a fault: the scan ends
under a requested abort, or BTstack refuses the disconnect after the final acknowledgement. -/
def SilentPacket (l : Life) (event : Event) (done refused : Bool) : Prop :=
  event = .commandComplete true 0 ∧ l.phase = .stoppingForConnect ∧ l.abort = true ∧
      named l.faults = false ∨
    done = true ∧ refused = true ∧ grave l.faults = false

/-- Packets keep an attempt accounted for, those two apart. -/
theorem Accounted.step (h : Accounted l) (hactive : Active l)
    (hgood : ¬ SilentPacket l event done refused)
    (hstep : LifeStep event done refused l l') : Accounted l' := by
  have hlinked (hl : l.linked = true) : l.phase ≠ .idle := by
    rcases hactive.linked hl with h | h <;> rw [h] <;> nofun
  -- a step that goes on keeps what the result so far accounts for
  have going {p : Phase} {c b k : Bool} (hp : l.phase = p) (hidle : p ≠ .idle)
      (hstopping : p ≠ .stoppingScan) (hclosing : p ≠ .closing) (p' : Phase)
      (hidle' : p' ≠ .idle) :
      Accounted { l with phase := p', confirmed := c, scanConfirmed := b, linked := k } := by
    have hstale := h.before (by rw [hp]; exact hidle) (by rw [hp]; exact hstopping)
      (by rw [hp]; exact hclosing)
    exact ⟨fun _ _ _ => hstale, fun _ hf => named_of_grave (hstale hf),
      fun hi => absurd hi hidle', fun _ => h.ghost (by rw [hp]; exact hidle)⟩
  -- a step that ends the attempt returns the result of the closing
  have ended (hp : l.phase ≠ .idle) : Accounted l.finish := accounted_finish (h.closing hp)
  cases hstep with
  | quiet => exact h
  | scanFailed => exact accounted_finish fun _ => named_of_grave (grave_raise_radio _)
  | scanStarted hp => exact going hp nofun nofun nofun _ (by rw [hp]; nofun)
  | inRange hp habort => exact going hp nofun nofun nofun _ nofun
  | scanStopped hp => exact ended (by rw [hp]; nofun)
  | connectAborted hp habort hevent =>
    apply accounted_finish
    intro _
    by_contra hn
    exact hgood (.inl ⟨hevent, hp, habort, Bool.eq_false_of_not_eq_true hn⟩)
  | connecting hp habort started =>
    unfold connect
    split
    · exact going hp nofun nofun nofun _ nofun
    · have hunlinked := hactive.unlinked hp ⟨nofun, nofun⟩
      exact accounted_fail (fun hl => absurd hl hunlinked) (fun hi => absurd rfl hi)
  | linkFailed hp => exact accounted_fail nofun (fun hi => absurd rfl hi)
  | linkCancelled hp => exact ended (by rw [hp]; nofun)
  | linkUp hp habort => exact going hp nofun nofun nofun _ nofun
  | linkUseless hp habort =>
    exact accounted_fail (fun _ => nofun) (fun _ => h.ghost (by rw [hp]; nofun))
  | linkLate hp =>
    have hi : l.phase ≠ .idle := by rw [hp]; nofun
    exact ⟨fun _ _ hc => absurd rfl hc, fun _ => h.closing hi, nofun, fun _ => h.ghost hi⟩
  | linkAborted hp habort handle hevent => exact going hp nofun nofun nofun _ nofun
  | linkLost hl hp => exact accounted_finish fun _ => named_of_payload (by simp)
  | linkClosed hp => exact ended (by rw [hp]; nofun)
  | failed hp hl => exact accounted_fail hlinked (fun hi => h.ghost hi)
  | completed hp hl hdone =>
    -- the fault of the payload is cleared, and one that was refused is named otherwise
    have hgrave (hre : refused = true) : named (l.faults.clear .payload) = true := by
      apply named_of_grave
      rw [grave_clear_payload]
      by_contra hn
      exact hgood (.inr ⟨hdone, hre, Bool.eq_false_of_not_eq_true hn⟩)
    refine accounted_close nofun (fun hs => ?_) (fun _ => hgrave) hlinked fun hi hrunning => ?_
    · change l.phase = .scanning ∨ l.phase = .stoppingForConnect at hs
      rw [hp] at hs
      rcases hs with h | h <;> cases h
    · show grave (l.faults.clear .payload) = true
      rw [grave_clear_payload]
      exact h.ghost hi hrunning

/-- The start callback begins an attempt accounted for, unless it finds an abort requested. -/
theorem Ready.start (h : Ready l) (hwaiting : Waiting l) (started : Bool)
    (hgood : l.abort = true → named l.faults = true) :
    Accounted (l.start started refused) := by
  have hunlinked (hl : l.linked = true) : False := by simp [hwaiting.linked] at hl
  have begun {c b : Bool} (p : Phase) (hidle : p ≠ .idle) :
      Accounted { l with phase := p, confirmed := c, scanConfirmed := b } :=
    ⟨fun _ _ _ => h.closing, fun _ hf => named_of_grave (h.closing hf),
      fun hi => absurd hi hidle, fun _ => h.running⟩
  unfold Life.start
  split
  · rename_i habort
    exact accounted_finish fun _ => hgood habort
  split
  · unfold connect
    split
    · exact begun _ nofun
    · exact accounted_fail (fun hl => (hunlinked hl).elim) (fun hi => absurd rfl hi)
  · exact begun _ nofun

/-- More faults and a request to abort leave an attempt ready. -/
theorem Ready.raise {faults : Faults} (h : Ready l) (hsub : l.faults ⊆ faults) (abort : Bool) :
    Ready { l with faults := faults, abort := abort } :=
  ⟨fun hf => grave_mono hsub (h.closing hf), fun hr => grave_mono hsub (h.running hr)⟩

/-- More faults and a request to abort leave every end explained. -/
theorem Accounted.raise {faults : Faults} (h : Accounted l) (hsub : l.faults ⊆ faults)
    (abort : Bool) : Accounted { l with faults := faults, abort := abort } :=
  ⟨fun hi hs hc hf => grave_mono hsub (h.before hi hs hc hf),
    fun hi hf => named_mono hsub (h.closing hi hf), fun hi hf => named_mono hsub (h.result hi hf),
    fun hi hr => grave_mono hsub (h.ghost hi hr)⟩

/-- Between attempts a stored `PAYLOAD_RETRY` is only lost to a failed scan command. -/
theorem Idle.retried (hidle : Idle l) (hstep : LifeStep event done refused l l')
    (h : l.result = .retry ∨ grave l.faults = true) :
    l'.result = .retry ∨ grave l'.faults = true := by
  obtain ⟨hphase, hlinked, hrunning⟩ := hidle
  cases hstep with
  | quiet => exact h
  | scanFailed => exact .inr (grave_raise_radio _)
  | linkLost h => simp [hlinked] at h
  | _ => simp_all

end Life

/-! ## Every run -/

/-- What holds of the faults along a run. -/
structure Explained (s : Sys) : Prop where
  live : Live s
  clean : s.main.pc.stage = .outside ∨ s.main.pc.stage = .tests ∨ s.main.pc.stage = .writes →
    s.life.Clean
  tested : s.main.pc.stage = .tests → s.main.pc ≠ .testReady → s.main.reconnect = true →
    s.life.confirmed = true ∧ (s.life.result = .retry ∨ grave s.life.faults = true)
  ready : s.main.pc.stage = .setup ∨ s.main.pc.stage = .loop ∧ .start ∈ s.queue → s.life.Ready
  accounted : s.main.pc.stage = .loop → .start ∉ s.queue → s.life.Accounted

/-- An attempt starts while Bluetooth is ready and none is running, and a retry starts after
`PAYLOAD_RETRY`. -/
def startsReady (s : Sys) : Action → Bool
  | .main _ =>
    s.main.pc = .testReady → s.client.bluetoothReady ∧ s.client.attemptRunning = false ∧
      (s.main.reconnect → s.client.closeConfirmed ∧ s.client.bleState = .idle ∧
        s.client.result = .retry)
  | _ => true

/-- A packet that stores `PAYLOAD_FATAL` without a fault: the scan has been stopped under a
requested abort, or BTstack refuses the disconnect that follows the final acknowledgement. -/
def silentPacket (c : Client) (event : Event) (env : Env) : Bool :=
  (event = .commandComplete true 0 ∧ c.bleState = .stoppingForConnect ∧ c.abortRequested ∧
      named c.faults = false) ∨
    (completes c event ∧ env.refuses ∧ grave c.faults = false)

/-- The moves that store `PAYLOAD_FATAL` without a fault: those packets, the start callback
under a requested abort, and an abort of a scan that was never acknowledged. -/
def silentFatal (s : Sys) : Action → Bool
  | .main _ => false
  | .callback env =>
    match s.queue.head? with
    | some .start => s.client.abortRequested ∧ named s.client.faults = false
    | some .abort =>
      s.client.attemptRunning ∧ s.client.bleState = .scanning ∧ s.client.scanConfirmed = false ∧
        env.stops = false ∧ named s.client.faults = false
    | none => false
  | .packet event env => silentPacket s.client event env

variable {s t : Sys} (robotFile : Bytes) (env : Env)

/-- A packet that is not silent leaves every end explained. -/
theorem explained_packet {event : Event} (h : Explained s)
    (hgood : silentPacket s.client event env = false) :
    Explained { s with client := handle robotFile env event s.client } := by
  have hstep := handle_life robotFile env event h.live.hearing
  have idle (hstage : s.main.pc.stage = .outside ∨ s.main.pc.stage = .tests ∨
      s.main.pc.stage = .writes) : s.life.Idle := by
    rcases hstage with hs | hs | hs
    · exact ((live_outside hs).mp h.live).1
    · exact ((live_tests (.inl hs)).mp h.live).1
    · exact ((live_tests (.inr hs)).mp h.live).1
  refine ⟨live_packet robotFile env event h.live, fun hstage => ?_, fun hstage hpc hre => ?_,
    fun hstage => ?_, fun hstage hstart => ?_⟩
  · exact (h.clean hstage).step (idle hstage) hstep
  · have hidle := idle (.inr (.inl hstage))
    obtain ⟨hconfirmed, hresult⟩ := h.tested hstage hpc hre
    exact ⟨(hidle.confirmed hstep).trans hconfirmed, hidle.retried hstep hresult⟩
  · change s.main.pc.stage = _ ∨ s.main.pc.stage = _ ∧ .start ∈ s.queue at hstage
    have hwaiting : s.life.Waiting := by
      rcases hstage with hs | ⟨hs, hstart⟩
      · exact ((live_setup hs).mp h.live).1
      · exact h.live.waiting hstart hs
    exact (h.ready hstage).step hwaiting hstep
  · refine (h.accounted hstage hstart).step (h.live.active hstage hstart) ?_ hstep
    rintro (⟨rfl, hphase, habort, hnamed⟩ | ⟨hdone, hrefused, hgrave⟩)
    · have hstate := (phase_eq_iff s.client).2.1.mp hphase
      have habort' : s.client.abortRequested = true := habort
      have hnamed' : named s.client.faults = false := hnamed
      simp [silentPacket, hstate, habort', hnamed'] at hgood
    · have hgrave' : grave s.client.faults = false := hgrave
      simp [silentPacket, hdone, hrefused, hgrave'] at hgood

/-- An abort leaves every end explained, but for a scan that was never acknowledged. -/
theorem accounted_abort {rest : List Callback} (hqueue : s.queue = .abort :: rest)
    (hactive : s.life.Active) (haccounted : s.life.Accounted)
    (hgood : silentFatal s (.callback env) = false) :
    (abortAttemptCallback env s.client).life.Accounted := by
  rcases life_abortAttemptCallback env s.client with hlife | ⟨hrunning, hstopping, hclosing, hlife⟩
  · rw [hlife]
    exact haccounted
  obtain ⟨hsub, hstop, hpayload⟩ := abortPolls_faults env s.client
  rw [hlife]
  generalize (abortPolls env s.client).faults = faults at hsub hstop hpayload
  have hlinked (hl : s.life.linked = true) : s.life.phase = .connected := by
    rcases hactive.linked hl with h | h
    · exact h
    · exact absurd h hclosing
  have hghost (hr : s.life.running = false) : grave faults = true :=
    absurd (hrunning.symm.trans hr) (by decide)
  cases hnamed : named faults with
  | true =>
    refine Life.accounted_close (fun _ => hnamed) (fun _ _ => hnamed) (fun _ _ => hnamed)
      ?_ fun _ => hghost
    intro hl
    rw [show s.client.life.phase = _ from hlinked hl]
    rintro ⟨⟩
  | false =>
    -- no fault at all: close range is not confirmed, and only the scan is left to close
    simp only [named, grave, Bool.or_eq_false_iff, decide_eq_false_iff_not, not_or] at hnamed
    obtain ⟨⟨hnostop, hnoradio⟩, hnopayload⟩ := hnamed
    have hopen : ¬ s.life.confirmed = true := fun hc =>
      (hpayload hc).elim hnostop hnopayload
    have hunlinked (hl : s.life.linked = true) : False :=
      hopen (hactive.qualified (.inr (.inr (hlinked hl))))
    rw [if_neg hnostop]
    refine Life.accounted_close (fun hf => ?_) (fun hp hscan => ?_)
      (fun hl => (hunlinked hl).elim) (fun hl => (hunlinked hl).elim) fun _ => hghost
    · have hfailure : s.life.failure = .notClose := by
        rw [Life.failure, if_neg hopen]
      exact absurd (hfailure.symm.trans hf) (by decide)
    · rcases hp with hp | hp
      · have hstate := (phase_eq_iff s.client).1.mp hp
        have hrunning' : s.client.attemptRunning = true := hrunning
        have hscan' : s.client.scanConfirmed = false := hscan
        have hstops : env.stops = false := by
          by_contra hs
          exact hnostop (hstop.mpr (.inr (by simpa using hs)))
        have hbefore : named s.client.faults = false := by
          by_contra hb
          have := named_mono hsub (by simpa using hb)
          simp [named, grave, hnostop, hnoradio, hnopayload] at this
        simp [silentFatal, hqueue, hstate, hrunning', hscan', hstops, hbefore] at hgood
      · exact absurd (hactive.qualified (.inl hp)) hopen

/-- An attempt whose start callback has run. -/
theorem Explained.active (hlive : Live t) (hstage : t.main.pc.stage = .loop)
    (hstart : .start ∉ t.queue) (haccounted : t.life.Accounted) : Explained t := by
  refine ⟨hlive, ?_, fun hs => absurd (hstage.symm.trans hs) nofun, ?_, fun _ _ => haccounted⟩
  · rintro (hs | hs | hs) <;> exact absurd (hstage.symm.trans hs) nofun
  · rintro (hs | ⟨-, hm⟩)
    · exact absurd (hstage.symm.trans hs) nofun
    · exact absurd hm hstart

/-- Outside an attempt only the closing result matters. -/
theorem Explained.between (hlive : Live t) (hstage : t.main.pc.stage = .outside)
    (hclean : t.life.Clean) : Explained t :=
  ⟨hlive, fun _ => hclean, fun h => absurd (hstage.symm.trans h) nofun,
    fun h => h.elim (fun h => absurd (hstage.symm.trans h) nofun)
      fun h => absurd (hstage.symm.trans h.1) nofun,
    fun h => absurd (hstage.symm.trans h) nofun⟩

/-- A callback that is not silent leaves every end explained. -/
theorem explained_callback (h : Explained s) (hgood : silentFatal s (.callback env) = false)
    (hstep : runCallback env s = some t) : Explained t := by
  have hlive := live_callback env h.live hstep
  cases runCallback_cases hstep with
  | start rest hqueue =>
    have hmem : .start ∈ s.queue := by simp [hqueue]
    have hstage := h.live.loop_of_start hmem
    have htail := ((live_loop hstage).mp h.live).2.1
    rw [hqueue, List.tail_cons] at htail
    refine .active hlive hstage htail ?_
    show Life.Accounted (startAttemptCallback env s.client).life
    rw [life_startAttemptCallback]
    refine (h.ready (.inr ⟨hstage, hmem⟩)).start (h.live.waiting hmem hstage) _ ?_
    intro habort
    have habort' : s.client.abortRequested = true := habort
    by_contra hnamed
    have hnamed' : named s.client.faults = false := Bool.eq_false_of_not_eq_true hnamed
    simp [silentFatal, hqueue, habort', hnamed'] at hgood
  | abort rest hqueue =>
    rcases h.live.stage_of_queue (by simp [hqueue]) with hstage | hstage
    · obtain ⟨hidle, -⟩ := (live_outside hstage).mp h.live
      refine .between hlive hstage ?_
      show Life.Clean (abortAttemptCallback env s.client).life
      rcases life_abortAttemptCallback env s.client with hlife | ⟨hrunning, -⟩
      · rw [hlife]
        exact h.clean (.inl hstage)
      · exact absurd (hidle.running.symm.trans hrunning) nofun
    · have htail := ((live_loop hstage).mp h.live).2.1
      rw [hqueue, List.tail_cons] at htail
      have hmem : .start ∉ s.queue := by simp [hqueue, htail]
      exact .active hlive hstage htail
        (accounted_abort env hqueue (h.live.active hstage hmem) (h.accounted hstage hmem) hgood)

/-- The same holds while the entry tests have passed and nothing runs yet. -/
theorem Explained.writing (hlive : Live t) (hstage : t.main.pc.stage = .writes)
    (hclean : t.life.Clean) : Explained t :=
  ⟨hlive, fun _ => hclean, fun h => absurd (hstage.symm.trans h) nofun,
    fun h => h.elim (fun h => absurd (hstage.symm.trans h) nofun)
      fun h => absurd (hstage.symm.trans h.1) nofun,
    fun h => absurd (hstage.symm.trans h) nofun⟩

/-- An attempt being set up. -/
theorem Explained.setup (hlive : Live t) (hstage : t.main.pc.stage = .setup)
    (hready : t.life.Ready) : Explained t :=
  ⟨hlive, fun h => h.elim (fun h => absurd (hstage.symm.trans h) nofun)
      fun h => h.elim (fun h => absurd (hstage.symm.trans h) nofun)
        fun h => absurd (hstage.symm.trans h) nofun,
    fun h => absurd (hstage.symm.trans h) nofun, fun _ => hready,
    fun h => absurd (hstage.symm.trans h) nofun⟩

/-- The main thread leaves every end explained, unless it has returned `PAYLOAD_FATAL` for good. -/
theorem explained_main {world : World} (h : Explained s) (hstep : MainStep s t)
    (hprompt : s.Prompt (.main world)) (hready : startsReady s (.main world) = true) :
    Explained t ∨ Dead t := by
  have hlive := live_main h.live hprompt hstep
  have clean {pc : Pc} {faults : Faults} (hpc : s.main.pc = pc)
      (hstage : pc.stage = .outside ∨ pc.stage = .tests ∨ pc.stage = .writes)
      (hsub : s.client.faults ⊆ faults) (hf : s.life.closing = .fatal) : grave faults = true :=
    grave_mono hsub ((h.clean (by rw [hpc]; exact hstage)).closing hf)
  rcases hlive with hlive | hdead
  swap
  · exact .inr hdead
  cases hstep with
  | drive faults hpc hsub =>
    exact .inl (.between hlive (by rw [hpc]; rfl) ⟨clean hpc (.inl rfl) hsub⟩)
  | call hpc hreturned =>
    exact .inl (.between hlive rfl ⟨clean hpc (.inl rfl) (Finset.Subset.refl _)⟩)
  | stop faults main hpc hpc' hreturned => exact .inr ⟨hreturned, .inr hpc'⟩
  | far faults hpc hreconnect hsub =>
    exact .inl (.between hlive rfl ⟨clean hpc (.inl rfl) hsub⟩)
  | begin faults dbm hpc hsub =>
    refine .inl ⟨hlive, fun _ => ⟨clean hpc (.inl rfl) hsub⟩, fun _ hne => absurd rfl hne, ?_,
      nofun⟩
    rintro (h | ⟨h, -⟩)
    · cases h
    · cases h
  | refuse faults hpc hsub hwhy => exact .inr ⟨rfl, .inl rfl⟩
  | test faults pc hpc hsub hpc' htested =>
    have hclean : s.life.closing = .fatal → grave faults = true := fun hf =>
      grave_mono hsub ((h.clean (.inr (.inl hpc))).closing hf)
    rcases hpc' with hpc' | rfl
    · refine .inl ⟨hlive, fun _ => ⟨hclean⟩, fun _ _ hre => ?_, ?_, ?_⟩
      · by_cases hfirst : s.main.pc = .testReady
        · simp only [startsReady, hfirst, decide_eq_true_eq, true_implies] at hready
          exact ⟨(hready.2.2 hre).1, .inl (hready.2.2 hre).2.2⟩
        · obtain ⟨hconfirmed, hresult⟩ := h.tested hpc hfirst hre
          exact ⟨hconfirmed, hresult.imp id (grave_mono hsub)⟩
      · rintro (h | ⟨h, -⟩)
        · exact absurd (hpc'.symm.trans h) nofun
        · exact absurd (hpc'.symm.trans h) nofun
      · exact fun h => absurd (hpc'.symm.trans h) nofun
    · exact .inl (.writing hlive rfl ⟨hclean⟩)
  | setReconnect hpc =>
    exact .inl (.writing hlive rfl ⟨clean hpc (.inr (.inr rfl)) (Finset.Subset.refl _)⟩)
  | clearAbort pc hpc hpc' =>
    rcases hpc' with ⟨-, rfl⟩ | ⟨-, rfl⟩
    · exact .inl (.writing hlive rfl ⟨clean hpc (.inr (.inr rfl)) (Finset.Subset.refl _)⟩)
    · exact .inl (.writing hlive rfl ⟨clean hpc (.inr (.inr rfl)) (Finset.Subset.refl _)⟩)
  | clearConfirmed hpc =>
    exact .inl (.writing hlive rfl ⟨clean hpc (.inr (.inr rfl)) (Finset.Subset.refl _)⟩)
  | setRunning hpc =>
    exact .inl (.setup hlive rfl ⟨clean hpc (.inr (.inr rfl)) (Finset.Subset.refl _), nofun⟩)
  | stamp now hpc =>
    obtain ⟨hclosing, hrunning⟩ := h.ready (.inl (by rw [hpc]; rfl))
    exact .inl (.setup hlive rfl ⟨hclosing, hrunning⟩)
  | starting hpc =>
    obtain ⟨hclosing, hrunning⟩ := h.ready (.inl (by rw [hpc]; rfl))
    exact .inl (.setup hlive rfl ⟨hclosing, hrunning⟩)
  | queueStart main hpc hpc' hreconnect hconfirmed =>
    obtain ⟨-, hqueue, -⟩ := (live_setup (by rw [hpc]; rfl)).mp h.live
    have hmem : .start ∈ enqueue .start s.queue := by simp [hqueue, enqueue]
    refine .inl ⟨hlive, fun hs => ?_, fun hs => ?_, fun _ => ?_, fun _ hn => absurd hmem hn⟩
    · rw [hpc'] at hs
      rcases hs with h | h | h <;> cases h
    · rw [hpc'] at hs
      cases hs
    · exact h.ready (.inl (by rw [hpc]; rfl))
  | loop faults abort queue main hpc hpc' hleaving hsub hqueue hreconnect hconfirmed =>
    have hstart : .start ∈ queue ↔ .start ∈ s.queue := by
      rcases hqueue with rfl | rfl
      · exact Iff.rfl
      · exact start_mem_enqueue
    refine .inl ⟨hlive, fun hs => ?_, fun hs => ?_, fun hs => ?_, fun _ hn => ?_⟩
    · rw [hpc'] at hs
      rcases hs with h | h | h <;> cases h
    · rw [hpc'] at hs
      cases hs
    · rcases hs with hs | ⟨-, hmem⟩
      · rw [hpc'] at hs
        cases hs
      · exact (h.ready (.inr ⟨hpc, hstart.mp hmem⟩)).raise hsub abort
    · exact (h.accounted hpc fun hm => hn (hstart.mpr hm)).raise hsub abort
  | giveUp faults hpc hsub hwhy => exact .inr ⟨rfl, .inl rfl⟩
  | result hpc =>
    by_cases hfatal : s.client.result = .fatal
    · exact .inr ⟨hfatal, .inl rfl⟩
    obtain ⟨hidle, hmem⟩ := (live_outside rfl).mp hlive
    have hactive := h.live.active (by rw [hpc]; rfl) hmem
    refine .inl (.between hlive rfl ⟨fun hf => absurd ?_ hfatal⟩)
    exact (hactive.idle hidle.phase).2.symm.trans hf
  | done faults main hpc hpc' hreturned hr hconfirmed hsub =>
    exact .inl (.between hlive (by rw [hpc']; rfl) ⟨clean hpc (.inl rfl) hsub⟩)
  | again faults main hpc hpc' hreturned hr hreconnect hsub =>
    exact .inl (.between hlive (by rw [hpc']; rfl) ⟨clean hpc (.inl rfl) hsub⟩)

/-- **Every move** of a run with a prompt run loop leaves every end explained. -/
theorem explained_step {action : Action} (h : Explained s) (hprompt : s.Prompt action)
    (hgood : startsReady s action = true ∧ silentFatal s action = false)
    (hstep : step robotFile s action = some t) : Explained t ∨ Dead t := by
  cases action with
  | packet event env =>
    cases hstep
    exact .inl (explained_packet robotFile env h hgood.2)
  | callback env => exact .inl (explained_callback env h hgood.2 hstep)
  | main world => exact explained_main h (mainStep_cases world hstep) hprompt hgood.1

/-- At boot there is nothing to explain. -/
theorem explained_boot : Explained Sys.boot := .between live_boot rfl ⟨nofun⟩

/-- The step with which `run_attempt` returns `PAYLOAD_FATAL` leaves a fault behind. -/
theorem named_of_return {world : World} (h : Explained s ∨ Dead s) (hstep : MainStep s t)
    (hready : startsReady s (.main world) = true) (hpc : t.main.pc = .returned)
    (hfatal : t.main.returned = .fatal) : named t.client.faults = true := by
  have explained (hs : s.main.pc.stage = .tests ∨ s.main.pc.stage = .loop) : Explained s := by
    rcases h with h | ⟨-, hd | hd⟩
    · exact h
    · rw [hd] at hs
      rcases hs with hs | hs <;> cases hs
    · rw [hd] at hs
      rcases hs with hs | hs <;> cases hs
  cases hstep with
  | refuse faults htests hsub hwhy =>
    -- a test that refuses: each of the six reasons names a fault
    have h := explained (.inl htests)
    obtain ⟨hidle, -, -⟩ := (live_tests (.inl htests)).mp h.live
    rcases hwhy with ⟨hs, hbluetooth⟩ | hrunning | hstop | ⟨hs, hopen⟩ | ⟨hs, hstate⟩ | ⟨hs, hr⟩
    · simp [startsReady, hs, hbluetooth] at hready
    · exact absurd (hidle.running.symm.trans hrunning) (by decide)
    · exact named_of_grave (by simp [grave, hstop])
    · have htested := ((live_tests (.inl htests)).mp h.live).2.2
      rw [Sys.Tested, hs] at htested
      obtain ⟨hconfirmed, -⟩ := h.tested htests (by rw [hs]; rintro ⟨⟩) htested
      exact absurd (hopen.symm.trans hconfirmed) (by decide)
    · exact absurd ((idle_iff s.client).mp hidle.phase) hstate
    · have htested := ((live_tests (.inl htests)).mp h.live).2.2
      rw [Sys.Tested, hs] at htested
      obtain ⟨-, hresult⟩ := h.tested htests (by rw [hs]; rintro ⟨⟩) htested.1
      rcases hresult with hresult | hgrave
      · exact absurd hresult hr
      · exact named_of_grave (grave_mono hsub hgrave)
  | giveUp faults hloop hsub hwhy => exact named_of_grave (by simpa [grave] using hwhy)
  | result hs =>
    have hstage : s.main.pc.stage = .loop := by rw [hs]; rfl
    have h := explained (.inr hstage)
    -- the loop ends before the start was taken, with the client idle, or with a fatal fault
    have hrunning := ((live_loop hstage).mp h.live).2.2.2 (by rw [hs]; rfl)
    by_cases hmem : .start ∈ s.queue
    · exact named_of_grave ((h.ready (.inr ⟨hstage, hmem⟩)).running hrunning)
    · have haccounted := h.accounted hstage hmem
      by_cases hidle : s.life.phase = .idle
      · exact haccounted.result hidle hfatal
      · exact named_of_grave (haccounted.ghost hidle hrunning)
  | drive faults hs hsub => exact absurd (hs.symm.trans hpc) (by decide)
  | stop faults main hs hpc' hreturned => exact absurd (hpc'.symm.trans hpc) (by decide)
  | test faults pc hs hsub hpc' htested =>
    change pc = .returned at hpc
    rw [hpc] at hpc'
    rcases hpc' with h | h <;> cases h
  | clearAbort pc hs hpc' =>
    change pc = .returned at hpc
    rw [hpc] at hpc'
    rcases hpc' with ⟨-, h⟩ | ⟨-, h⟩ <;> cases h
  | queueStart main hs hpc' hreconnect hconfirmed => exact absurd (hpc'.symm.trans hpc) (by decide)
  | loop faults abort queue main hs hpc' hleaving hsub hqueue hreconnect hconfirmed =>
    change main.pc = .returned at hpc
    rw [hpc] at hpc'
    cases hpc'
  | done faults main hs hpc' hreturned hr hconfirmed hsub =>
    exact absurd (hpc'.symm.trans hpc) (by decide)
  | again faults main hs hpc' hreturned hr hreconnect hsub =>
    exact absurd (hpc'.symm.trans hpc) (by decide)
  | _ => cases hpc

/-- **Every `PAYLOAD_FATAL` has a fault**: in every run with a prompt run loop whose attempts start
ready and in which none of the four silent moves happens, `run_attempt` returns `PAYLOAD_FATAL` only
with STOP latched or a radio or payload fault in the mask. -/
theorem fatal_names_fault {actions : List Action} {world : World} {s : Sys}
    (hprompt : Along (step robotFile) Sys.Prompt Sys.boot (actions ++ [.main world]))
    (hgood : Along (step robotFile)
      (fun s action => startsReady s action = true ∧ silentFatal s action = false)
      Sys.boot (actions ++ [.main world]))
    (hrun : run (step robotFile) Sys.boot (actions ++ [.main world]) = some s)
    (hpc : s.main.pc = .returned) (hfatal : s.main.returned = .fatal) :
    .stopLatched ∈ s.client.faults ∨ .bleRadio ∈ s.client.faults ∨
      .payload ∈ s.client.faults := by
  rw [run_concat] at hrun
  obtain ⟨u, hu, hlast⟩ := Option.bind_eq_some_iff.mp hrun
  have hstep (s : Sys) (action : Action) (t : Sys) (h : Explained s ∨ Dead s)
      (hallowed : s.Prompt action ∧ startsReady s action = true ∧ silentFatal s action = false)
      (hstep : step robotFile s action = some t) : Explained t ∨ Dead t := by
    rcases h with h | h
    · exact explained_step robotFile h hallowed.1 hallowed.2 hstep
    · exact .inr (dead_step robotFile h hstep)
  have hinvariant : Explained u ∨ Dead u :=
    run_invariant_along hstep actions _ _ (.inl explained_boot)
      (hprompt.append_left.and hgood.append_left) hu
  have hready := (hgood.at hu).1
  have hnamed := named_of_return hinvariant (mainStep_cases world hlast) hready hpc hfatal
  simp only [named, grave, Bool.or_eq_true, decide_eq_true_eq] at hnamed
  exact or_assoc.mp hnamed

/-- GP21 is pressed during the scan of an attempt, and the scan is stopped. -/
def scanStopped : List Action :=
  attemptBegun ++ [.callback accepting, .packet (.commandComplete true 0) accepting] ++
    List.replicate 8 (mainAt 0) ++
    [.main ⟨0, true, true, true, true, false, true, none⟩] ++ List.replicate 2 (mainAt 0) ++
    [.callback accepting, .packet (.commandComplete true 0) accepting] ++
    List.replicate 2 (mainAt 0)

/-- A run that STOP ends during its scan reports the latch. -/
theorem scanStopped_names_fault :
    ∃ s, run (step robotTestFile) Sys.boot (scanStopped ++ [mainAt 0]) = some s ∧
      s.main.returned = .fatal ∧
      (.stopLatched ∈ s.client.faults ∨ .bleRadio ∈ s.client.faults ∨
        .payload ∈ s.client.faults) := by
  have hend : (run (step robotTestFile) Sys.boot (scanStopped ++ [mainAt 0])).map
      (fun s => (s.main.pc, s.main.returned)) = some (.returned, .fatal) := by
    decide +kernel
  obtain ⟨s, hrun, hs⟩ := Option.map_eq_some_iff.mp hend
  rw [Prod.mk.injEq] at hs
  exact ⟨s, hrun, hs.2,
    fatal_names_fault robotTestFile (by decide +kernel) (by decide +kernel) hrun hs.1 hs.2⟩

/-- The scan is never acknowledged: after five seconds the abort callback finds nothing it
could stop. -/
def scanUnacknowledged : List Action :=
  attemptBegun ++ [.callback accepting] ++ List.replicate 11 (mainAt 6000) ++
    [.callback accepting] ++ List.replicate 3 (mainAt 6000)

/-- That attempt starts ready and returns `PAYLOAD_FATAL` with an empty fault mask. -/
theorem scanUnacknowledged_no_fault :
    ¬ ∀ (actions : List Action) (world : World) (s : Sys),
      Along (step robotTestFile) (fun s action => startsReady s action = true) Sys.boot
        (actions ++ [.main world]) →
      run (step robotTestFile) Sys.boot (actions ++ [.main world]) = some s →
      s.main.pc = .returned → s.main.returned = .fatal →
        .stopLatched ∈ s.client.faults ∨ .bleRadio ∈ s.client.faults ∨
          .payload ∈ s.client.faults := by
  intro hclaim
  have hend : (run (step robotTestFile) Sys.boot (scanUnacknowledged ++ [mainAt 6000])).map
      (fun s => (s.main.pc, s.main.returned, s.client.faults)) =
        some (.returned, .fatal, ∅) := by
    decide +kernel
  obtain ⟨s, hrun, hs⟩ := Option.map_eq_some_iff.mp hend
  simp only [Prod.mk.injEq] at hs
  have hfault := hclaim scanUnacknowledged _ s (by decide +kernel) hrun hs.1 hs.2.1
  simp [hs.2.2] at hfault

end PayloadClient
