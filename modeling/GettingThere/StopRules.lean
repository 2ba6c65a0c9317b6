/-
# The law of the STOP latch

Once the main loop has seen GP21 pressed, no motor is powered again.  `Lawful` says so of the
notes on a run: after a `stop_pressed` that returned true every later one returns true, every
level written to a motor pin is zero, and the pins are zero whenever the robot sleeps; and
before `motion_arm_stop` every level is zero.

Three conditions on the robot go with it (`Inv`, `Safe`, `Idle`).  A command leads from one to
another (`Leads`): `stop_drive` turns the motors off, `motors_set` powers them only when it
may, and only a robot that is safe may sleep.  A command that touches nothing of this is
`Silent`.
-/
import GettingThere.CommandTriples
import GettingThere.TranslationBlock

open CrashLogic

/-! ## The law -/

namespace Event

/-- The press has been observed. -/
def Observed (events : List Event) : Prop := ∃ low, polled low true ∈ events

/-- What an event may be after the ones before it. -/
def Allowed (past : List Event) : Event → Prop
  | .polled low result => (low = true → result = true) ∧ (Observed past → result = true)
  | .level _ n => n ≠ 0 → armed ∈ past ∧ ¬ Observed past
  | .sleep levels => Observed past → ∀ pin, levels pin = 0
  | .armed => True

/-- **The law of the STOP latch**, for the notes on a run, the latest first. -/
def Lawful : List Event → Prop
  | [] => True
  | e :: past => e.Allowed past ∧ Lawful past

/-- Only a poll that returns true is a press observed. -/
theorem observed_cons {e : Event} {past : List Event} (he : ∀ low, e ≠ polled low true)
    (h : Observed (e :: past)) : Observed past := by
  obtain ⟨low, hmem⟩ := h
  rcases List.mem_cons.mp hmem with heq | hmem
  · exact absurd heq.symm (he low)
  · exact ⟨low, hmem⟩

end Event

namespace Robot

open Event

/-! ## Conditions -/

/-- The law holds, and the latch remembers what has been observed. -/
structure Inv (s : Robot) : Prop where
  law : Lawful s.events
  latched : Observed s.events → Fault.stopLatched ∈ s.faults
  armed : s.stopArmed = true → Event.armed ∈ s.events

/-- Both motors are off. -/
def Off (s : Robot) : Prop := ∀ pin, s.levels pin = 0

/-- The motors are off once the press has been observed. -/
structure Safe (s : Robot) : Prop extends Inv s where
  off : Observed s.events → s.Off

/-- The motors are off. -/
structure Idle (s : Robot) : Prop extends Inv s where
  off : s.Off

/-- The press has not been observed yet. -/
structure Free (s : Robot) : Prop extends Inv s where
  unobserved : ¬ Observed s.events

/-- Motors that are off are safe. -/
theorem Idle.safe {s : Robot} (h : Idle s) : Safe s := ⟨h.toInv, fun _ => h.off⟩

/-- While the press has not been observed the motors may be on. -/
theorem Free.safe {s : Robot} (h : Free s) : Safe s := ⟨h.toInv, fun ho => absurd ho h.unobserved⟩

/-- The states agree in what the conditions are about. -/
structure Same (s t : Robot) : Prop where
  events : t.events = s.events
  levels : t.levels = s.levels
  stopArmed : t.stopArmed = s.stopArmed
  latch : Fault.stopLatched ∈ t.faults ↔ Fault.stopLatched ∈ s.faults

/-- A condition that contains the invariant and depends on nothing else. -/
structure Steady (P : Robot → Prop) : Prop where
  inv : ∀ s, P s → Inv s
  same : ∀ s t, Same s t → P s → P t

/-- The invariant is a condition of this kind. -/
theorem steady_inv : Steady Inv := by
  refine ⟨fun s h => h, ?_⟩
  rintro s t h ⟨hlaw, hlatched, harmed⟩
  refine ⟨?_, ?_, ?_⟩
  · rw [h.events]
    exact hlaw
  · rw [h.events, h.latch]
    exact hlatched
  · rw [h.events, h.stopArmed]
    exact harmed

/-- Safety is a condition of this kind. -/
theorem steady_safe : Steady Safe := by
  refine ⟨fun s h => h.toInv, ?_⟩
  rintro s t h ⟨hinv, hoff⟩
  refine ⟨steady_inv.same s t h hinv, ?_⟩
  unfold Off
  rw [h.events, h.levels]
  exact hoff

/-- That the motors are off is a condition of this kind. -/
theorem steady_idle : Steady Idle := by
  refine ⟨fun s h => h.toInv, ?_⟩
  rintro s t h ⟨hinv, hoff⟩
  refine ⟨steady_inv.same s t h hinv, ?_⟩
  unfold Off
  rw [h.levels]
  exact hoff

/-- That the press has not been observed is a condition of this kind. -/
theorem steady_free : Steady Free := by
  refine ⟨fun s h => h.toInv, ?_⟩
  rintro s t h ⟨hinv, hun⟩
  refine ⟨steady_inv.same s t h hinv, ?_⟩
  rw [h.events]
  exact hun

/-! ## Rules -/

section Rules

variable {α β γ : Type} {c : Cmd Robot α} {f : α → Cmd Robot β} {P Q T : Robot → Prop}

/-- From `P` the command leads to `Q`; the invariant holds wherever it is cut off. -/
def Leads (P : Robot → Prop) (c : Cmd Robot α) (Q : Robot → Prop) : Prop :=
  ∀ s, P s → wp c (fun _ t => Q t) Inv s

/-- The command changes nothing the conditions are about. -/
def Silent (c : Cmd Robot α) : Prop := ∀ s, wp c (fun _ t => Same s t) (Same s) s

theorem Same.refl (s : Robot) : Same s s := ⟨rfl, rfl, rfl, Iff.rfl⟩

theorem Same.trans {s t u : Robot} (h : Same s t) (h' : Same t u) : Same s u :=
  ⟨h'.events.trans h.events, h'.levels.trans h.levels, h'.stopArmed.trans h.stopArmed,
    h'.latch.trans h.latch⟩

instance : IsPreorder Robot Same where
  refl := Same.refl
  trans _ _ _ := Same.trans

theorem Leads.pure (a : α) (h : ∀ s, P s → Q s) : Leads P (pure a) Q := h

/-- What the first command leads to, the second one starts from. -/
theorem Leads.bind (hc : Leads P c T) (hf : ∀ a, Leads T (f a) Q) : Leads P (c >>= f) Q :=
  Triple.bind hc hf

/-- A weaker condition before, a stronger one after. -/
theorem Leads.mono {P' Q' : Robot → Prop} (h : Leads P c Q) (hP : ∀ s, P' s → P s)
    (hQ : ∀ s, Q s → Q' s) : Leads P' c Q' := (Triple.before hP h).after fun _ => hQ

/-- The state is only looked at. -/
theorem Leads.get {f : Robot → Cmd Robot β} (hf : ∀ s, P s → wp (f s) (fun _ t => Q t) Inv s) :
    Leads P (get >>= f) Q := by
  refine Triple.look ?_
  rintro t ht s ⟨-, rfl⟩
  exact hf s ht

/-- One way or the other. -/
theorem Leads.ite {p : Prop} [Decidable p] {a b : Cmd Robot α} (ha : p → Leads P a Q)
    (hb : ¬ p → Leads P b Q) : Leads P (if p then a else b) Q := Triple.ite ha hb

/-- A loop keeps what each of its rounds keeps, with whatever fuel. -/
theorem Leads.loop {body : β → Cmd Robot (β ⊕ γ)} (hP : Steady P)
    (hbody : ∀ b, Leads P (body b) P) (b : β) : Leads P (loop body b) P := by
  apply Leads.get
  intro s hs
  refine Triple.iterate (I := fun _ => P) (fun _ => hP.inv) ?_ _ b s hs
  intro b
  refine Triple.after (hbody b) ?_
  rintro (b' | c) u hu
  · exact hu
  · exact hu

theorem Silent.pure (a : α) : Silent (pure a) := Steps.pure a

/-- Silent commands one after the other are silent. -/
theorem Silent.bind (hc : Silent c) (hf : ∀ a, Silent (f a)) : Silent (c >>= f) :=
  Steps.bind hc hf

/-- A look at the state is silent if what follows is so in every state. -/
theorem Silent.get {f : Robot → Cmd Robot β} (hf : ∀ s, Silent (f s)) : Silent (get >>= f) :=
  Steps.look hf

/-- A loop of the robot. -/
theorem steps_loop {R : Robot → Robot → Prop} [IsPreorder Robot R]
    {body : β → Cmd Robot (β ⊕ γ)} (hbody : ∀ b, Steps R (body b)) (b : β) :
    Steps R (loop body b) := Steps.look fun _ => Steps.iterate hbody _ b

/-- A loop of silent rounds is silent. -/
theorem Silent.loop {body : β → Cmd Robot (β ⊕ γ)} (hbody : ∀ b, Silent (body b)) (b : β) :
    Silent (loop body b) := steps_loop hbody b

/-- A silent command keeps every condition. -/
theorem Silent.leads (hc : Silent c) (hP : Steady P) : Leads P c P :=
  Steps.triple hc hP.same hP.inv

/-- A silent command, and then another one. -/
theorem Leads.silent (hP : Steady P) (hc : Silent c) (hf : ∀ a, Leads P (f a) Q) :
    Leads P (c >>= f) Q :=
  (hc.leads hP).bind hf

/-- A question to the outside is not noted. -/
theorem silent_ask (answer : Outside → ℕ → α) : Silent (ask answer) :=
  fun _ => ⟨rfl, rfl, rfl, Iff.rfl⟩

/-- Reading the clock is not noted. -/
theorem silent_nowMs : Silent nowMs := (silent_ask _).bind fun _ => Silent.pure _

/-- A fault other than the latch is raised without a note. -/
theorem silent_faultRaise {fault : Fault} (hf : fault ≠ .stopLatched) : Silent (faultRaise fault) :=
  fun _ => ⟨rfl, rfl, rfl, by simp [Faults.mem_raise, hf.symm]⟩

/-- A fault other than the latch is cleared without a note. -/
theorem silent_faultClear {fault : Fault} (hf : fault ≠ .stopLatched) : Silent (faultClear fault) :=
  fun _ => ⟨rfl, rfl, rfl, by simp [Faults.mem_clear, hf.symm]⟩

/-- The acts are of no concern. -/
theorem silent_act (a : Act) : Silent (act a) := fun _ => ⟨rfl, rfl, rfl, Iff.rfl⟩

/-- A line of the report is not noted. -/
theorem silent_reportPrintf : Silent reportPrintf := silent_act .line

/-- A change of other statics. -/
theorem silent_modify {g : Robot → Robot}
    (hg : ∀ s, (g s).events = s.events ∧ (g s).levels = s.levels ∧ (g s).stopArmed = s.stopArmed ∧
      (g s).faults = s.faults) : Silent (modify g) := by
  intro s
  obtain ⟨hevents, hlevels, harmed, hfaults⟩ := hg s
  exact ⟨hevents, hlevels, harmed, by rw [hfaults]⟩

end Rules

/-! ## Polling GP21 -/

/-- **`stop_pressed`** leaves the pins and earlier notes alone, and when it returns false
nothing has been observed. -/
theorem wp_stopPressed {s : Robot} (h : Inv s) :
    wp stopPressed
      (fun b t => Inv t ∧ t.levels = s.levels ∧ (∀ e ∈ s.events, e ∈ t.events) ∧
        (b = false → ¬ Observed t.events)) Inv s := by
  unfold stopPressed
  rw [wp_bind]
  refine wp_mono (silent_ask _ s) ?_ fun t ht => steady_inv.same s t ht h
  intro byCallback t ht
  rw [wp_bind]
  refine wp_mono (silent_ask _ t) ?_ fun u hu => steady_inv.same s u (ht.trans hu) h
  intro low u hu
  have hsame := ht.trans hu
  have hinv := steady_inv.same s u hsame h
  -- the poll itself, from a state with the latch set or as it was
  have polled (v : Robot) (hv : v.events = u.events) (hlevels : v.levels = u.levels)
      (harmed : v.stopArmed = u.stopArmed)
      (hkeep : Fault.stopLatched ∈ u.faults → Fault.stopLatched ∈ v.faults)
      (hlow : u.stopArmed = true → low = true → Fault.stopLatched ∈ v.faults) :
      wp (do
          let s ← get
          let result := decide (Fault.stopLatched ∈ s.faults)
          note (.polled (u.stopArmed && low) result)
          return result)
        (fun b t => Inv t ∧ t.levels = s.levels ∧ (∀ e ∈ s.events, e ∈ t.events) ∧
          (b = false → ¬ Observed t.events)) Inv v := by
    rw [wp_bind, wp_get, wp_bind]
    unfold note
    rw [wp_modify, wp_pure]
    have hobserved : Observed v.events → Fault.stopLatched ∈ v.faults := by
      rw [hv]
      exact fun ho => hkeep (hinv.latched ho)
    refine ⟨⟨⟨⟨?_, ?_⟩, ?_⟩, ?_, ?_⟩, hlevels.trans hsame.levels, ?_, ?_⟩
    · intro hand
      rw [Bool.and_eq_true] at hand
      exact decide_eq_true (hlow hand.1 hand.2)
    · exact fun ho => decide_eq_true (hobserved ho)
    · rw [hv]
      exact hinv.law
    · rintro ⟨low', hmem⟩
      rcases List.mem_cons.mp hmem with heq | hmem
      · injection heq with _ hresult
        exact of_decide_eq_true hresult.symm
      · exact hobserved ⟨low', hmem⟩
    · intro ha
      rw [hv]
      exact List.mem_cons_of_mem _ (hinv.armed (harmed ▸ ha))
    · intro e he
      rw [hv, hsame.events]
      exact List.mem_cons_of_mem _ he
    · rintro hfalse ⟨low', hmem⟩
      have hnot := of_decide_eq_false hfalse
      rcases List.mem_cons.mp hmem with heq | hmem
      · injection heq with _ hresult
        exact hnot (of_decide_eq_true hresult.symm)
      · exact hnot (hobserved ⟨low', hmem⟩)
  rw [wp_bind, wp_get]
  by_cases hpress : (u.stopArmed && (byCallback || low)) = true
  · rw [if_pos hpress, wp_bind]
    refine polled _ rfl rfl rfl ?_ ?_
    · exact fun hl => Faults.mem_raise.mpr (.inr hl)
    · exact fun _ _ => Faults.mem_raise.mpr (.inl rfl)
  · rw [if_neg hpress]
    apply polled u rfl rfl rfl (fun hl => hl)
    intro ha hl
    rw [ha, hl] at hpress
    simp at hpress

/-- A poll of STOP keeps the law: it latches what it returns. -/
theorem leads_stopPressed : Leads Inv stopPressed Inv :=
  fun _ hs => wp_mono (wp_stopPressed hs) (fun _ _ ht => ht.1) fun _ ht => ht

/-- A poll leaves motors off that are off. -/
theorem leads_stopPressed_idle : Leads Idle stopPressed Idle := by
  intro s hs
  refine wp_mono (wp_stopPressed hs.toInv) ?_ fun t ht => ht
  rintro b t ⟨hinv, hlevels, -, -⟩
  refine ⟨hinv, ?_⟩
  unfold Off
  rw [hlevels]
  exact hs.off

/-- One thing when the press has been observed, another when not. -/
theorem Leads.ifStopped {α : Type} {a b : Cmd Robot α} {Q : Robot → Prop} (ha : Leads Inv a Q)
    (hb : Leads Free b Q) : Leads Inv (stopPressed >>= fun r => if r = true then a else b) Q := by
  intro s hs
  rw [wp_bind]
  refine wp_mono (wp_stopPressed hs) ?_ fun t ht => ht
  rintro r t ⟨hinv, -, -, hfree⟩
  cases r with
  | true => exact ha t hinv
  | false => exact hb t ⟨hinv, hfree rfl⟩

/-! ## Motors -/

/-- The robot with a level written to a pin. -/
def write (s : Robot) (pin : Pin) (n : ℕ) : Robot :=
  { s with levels := Function.update s.levels pin n, events := .level pin n :: s.events }

/-- Power is allowed: STOP is armed, and the press has not been observed. -/
structure Ready (s : Robot) : Prop extends Free s where
  ready : Event.armed ∈ s.events

/-- That power is allowed is a condition of this kind. -/
theorem steady_ready : Steady Ready := by
  refine ⟨fun s h => h.toInv, ?_⟩
  rintro s t h ⟨hfree, hready⟩
  refine ⟨steady_free.same s t h hfree, ?_⟩
  rw [h.events]
  exact hready

/-- A level that is written observes no press. -/
theorem Observed.of_level {pin : Pin} {n : ℕ} {past : List Event}
    (h : Observed (.level pin n :: past)) : Observed past :=
  observed_cons (e := .level pin n) (fun _ heq => nomatch heq) h

/-- A sleep observes no press. -/
theorem Observed.of_sleep {levels : Pin → ℕ} {past : List Event}
    (h : Observed (.sleep levels :: past)) : Observed past :=
  observed_cons (e := .sleep levels) (fun _ heq => nomatch heq) h

/-- A level may be written if it is zero or power is allowed. -/
theorem Inv.write {s : Robot} (h : Inv s) (pin : Pin) {n : ℕ}
    (hn : n ≠ 0 → Event.armed ∈ s.events ∧ ¬ Observed s.events) : Inv (s.write pin n) := by
  refine ⟨⟨hn, h.law⟩, ?_, fun ha => List.mem_cons_of_mem _ (h.armed ha)⟩
  exact fun ho => h.latched (Observed.of_level ho)

/-- While power is allowed every level may be written. -/
theorem Ready.write {s : Robot} (h : Ready s) (pin : Pin) (n : ℕ) : Ready (s.write pin n) :=
  ⟨⟨h.toInv.write pin fun _ => ⟨h.ready, h.unobserved⟩,
    fun ho => h.unobserved (Observed.of_level ho)⟩, List.mem_cons_of_mem _ h.ready⟩

/-- Writing the two pins of a motor needs power to be allowed. -/
theorem leads_motorWrite {speed : ℤ} {pinA pinB : Pin} {forwardUsesA : Bool} :
    Leads Ready (motorWrite pinA pinB speed forwardUsesA) Ready :=
  fun _ hs => (hs.write _ _).write _ _

/-- Writing both motors may leave them on, as the press has not been observed. -/
theorem leads_motorsWrite (left right : ℤ) : Leads Ready (motorsWrite left right) Safe := by
  refine leads_motorWrite.bind fun _ => leads_motorWrite.bind ?_
  intro _ s hs
  exact steady_safe.same s _ ⟨rfl, rfl, rfl, Iff.rfl⟩ hs.toFree.safe

/-- A motor at speed zero has both of its pins at zero. -/
theorem motorWrite_zero (pinA pinB : Pin) (forwardUsesA : Bool) :
    motorWrite pinA pinB 0 forwardUsesA =
      (pwmSetGpioLevel pinA 0 >>= fun _ => pwmSetGpioLevel pinB 0) := by
  unfold motorWrite
  simp

/-- Writing zero to all pins turns the motors off. -/
theorem leads_motorsWrite_zero : Leads Inv (motorsWrite 0 0) Idle := by
  intro s hs
  have hzero (pin : Pin) {t : Robot} (ht : Inv t) : Inv (t.write pin 0) := ht.write pin (absurd rfl)
  have hidle : Idle ((((s.write .m1A 0).write .m1B 0).write .m2A 0).write .m2B 0) := by
    refine ⟨hzero .m2B (hzero .m2A (hzero .m1B (hzero .m1A hs))), ?_⟩
    intro pin
    cases pin <;> rfl
  unfold motorsWrite
  rw [motorWrite_zero, motorWrite_zero]
  refine steady_idle.same _ _ ?_ hidle
  exact ⟨rfl, rfl, rfl, Iff.rfl⟩

/-- `motors_stop` leaves the motors off. -/
theorem leads_motorsStop : Leads Inv motorsStop Idle := leads_motorsWrite_zero

/-- **`motors_set`** powers the motors only when it may. -/
theorem leads_motorsSet (left right : ℤ) : Leads Inv (motorsSet left right) Safe := by
  apply Leads.get
  intro s hs
  cases harmed : s.stopArmed with
  | false =>
    exact wp_mono (leads_motorsWrite_zero s hs) (fun _ t ht => ht.safe) fun t ht => ht
  | true =>
    simp only [Bool.not_true, Bool.false_eq_true, if_false]
    rw [wp_bind]
    have hready := hs.armed harmed
    refine wp_mono (wp_stopPressed hs) ?_ fun t ht => ht
    rintro pressed t ⟨hinv, -, hkeep, hfree⟩
    cases pressed with
    | true => exact wp_mono (leads_motorsWrite_zero t hinv) (fun _ u hu => hu.safe) fun u hu => hu
    | false =>
      have hmay : Ready t := ⟨⟨hinv, hfree rfl⟩, hkeep _ hready⟩
      exact (Leads.silent steady_ready (silent_act _) fun _ => leads_motorsWrite left right) t hmay

/-- **`stop_drive`** turns the motors off. -/
theorem leads_stopDrive : Leads Inv stopDrive Idle := by
  apply Leads.get
  intro s hs
  refine (leads_motorsStop.bind ?_) s hs
  intro _
  refine Leads.ite ?_ fun _ => Leads.pure _ fun t ht => ht
  intro _
  apply Leads.silent steady_idle silent_nowMs
  intro now
  refine Silent.leads (silent_modify ?_) steady_idle
  exact fun _ => ⟨rfl, rfl, rfl, rfl⟩

/-- `motion_stop` leaves the motors off. -/
theorem leads_motionStop : Leads Inv motionStop Idle := leads_stopDrive

/-- **A robot that is safe may sleep.** -/
theorem leads_sleepMs : Leads Safe sleepMs Safe := by
  intro s hs
  refine ⟨⟨⟨fun ho => hs.off ho, hs.law⟩, ?_, ?_⟩, ?_⟩
  · exact fun ho => hs.latched (Observed.of_sleep ho)
  · exact fun ha => List.mem_cons_of_mem _ (hs.armed ha)
  · exact fun ho => hs.off (Observed.of_sleep ho)

end Robot
