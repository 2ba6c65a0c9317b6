/-
# Conditions that `motion.c` keeps

A condition on the robot is kept by the functions of `motion.c` if it does not depend on what
they alone own, allows the levels of the motor pins to be written and a line of the report while
they are zero, and is kept when a recovered gap of the gyro is counted (`Discipline`).  The
functions that power the motors need one thing more, that it allows power (`Powers`).

`Held B p` is the condition `B` and, under `p`, that the motors are off; a command leads from one
such condition to another.  A command is `Neutral` when it changes nothing that a condition may
depend on, and it `Cuts` when the motors are off after it.
-/
import GettingThere.StopRules

open CrashLogic

namespace Robot

/-! ## Conditions -/

/-- The states agree in the motor pins, the acts and the number of recovered gaps, and in what
`motion.c` does not own; and no profile was found full. -/
structure Alike (s t : Robot) : Prop where
  outside : t.outside = s.outside
  levels : t.levels = s.levels
  acts : t.acts = s.acts
  movingRecoveries : t.movingRecoveries = s.movingRecoveries
  sampler : t.sampler = s.sampler
  radioOn : t.radioOn = s.radioOn
  attemptRunning : t.attemptRunning = s.attemptRunning
  attemptLost : t.attemptLost = s.attemptLost
  profile : Fault.profile ∈ t.faults → Fault.profile ∈ s.faults

instance : IsPreorder Robot Alike where
  refl _ := ⟨rfl, rfl, rfl, rfl, rfl, rfl, rfl, rfl, id⟩
  trans _ _ _ h h' := ⟨h'.outside.trans h.outside, h'.levels.trans h.levels, h'.acts.trans h.acts,
    h'.movingRecoveries.trans h.movingRecoveries, h'.sampler.trans h.sampler,
    h'.radioOn.trans h.radioOn, h'.attemptRunning.trans h.attemptRunning,
    h'.attemptLost.trans h.attemptLost, fun hf => h.profile (h'.profile hf)⟩

/-- A condition that `J` follows from and that the functions of `motion.c` keep. -/
structure Discipline (J B : Robot → Prop) : Prop where
  safe : ∀ s, B s → J s
  alike : ∀ s t, Alike s t → B s → B t
  write : ∀ s pin n, B s → B (s.write pin n)
  line : ∀ s, s.Off → B s → B (acted .line s)
  gap : ∀ s, s.movingRecoveries < 2 → B s →
    B { s with movingRecoveries := s.movingRecoveries + 1 }

/-- The condition allows power. -/
def Powers (B : Robot → Prop) : Prop := ∀ s, B s → B (acted .power s)

/-- The condition allows the count of the recovered gaps to be set back. -/
def Resets (B : Robot → Prop) : Prop := ∀ s, B s → B { s with movingRecoveries := 0 }

/-- `B` holds, and under `p` the motors are off. -/
structure Held (B : Robot → Prop) (p : Prop) (s : Robot) : Prop where
  base : B s
  off : p → s.Off

section Held

variable {B B' : Robot → Prop} {p q : Prop} {s : Robot}

/-- The motors may be on. -/
theorem Held.on (h : Held B p s) : Held B False s := ⟨h.base, False.elim⟩

/-- The motors are off in any case. -/
theorem Held.any (h : Held B True s) : Held B p s := ⟨h.base, fun _ => h.off trivial⟩

/-- Less is known. -/
theorem Held.less (h : Held B p s) (hB : ∀ s, B s → B' s) : Held B' p s := ⟨hB s h.base, h.off⟩

end Held

/-! ## Neutral commands -/

/-- The command changes nothing that a condition may depend on. -/
abbrev Neutral {α : Type} (c : Cmd Robot α) : Prop := Steps Alike c

section Neutral

variable {α : Type}

theorem neutral_ask (answer : Outside → ℕ → α) : Neutral (ask answer) :=
  fun _ => ⟨rfl, rfl, rfl, rfl, rfl, rfl, rfl, rfl, id⟩

theorem neutral_nowMs : Neutral nowMs := (neutral_ask _).bind fun _ => Steps.pure _

theorem neutral_note (e : Event) : Neutral (note e) :=
  fun _ => ⟨rfl, rfl, rfl, rfl, rfl, rfl, rfl, rfl, id⟩

theorem neutral_sleepMs : Neutral sleepMs := Steps.look fun _ => neutral_note _

theorem neutral_faultRaise {fault : Fault} (hf : fault ≠ .profile) :
    Neutral (faultRaise fault) := by
  intro s
  refine ⟨rfl, rfl, rfl, rfl, rfl, rfl, rfl, rfl, ?_⟩
  intro h
  exact (Faults.mem_raise.mp h).resolve_left hf.symm

theorem neutral_faultClear (fault : Fault) : Neutral (faultClear fault) := by
  intro s
  refine ⟨rfl, rfl, rfl, rfl, rfl, rfl, rfl, rfl, ?_⟩
  exact fun h => (Faults.mem_clear.mp h).2

/-- **The latch** is polled. -/
theorem neutral_stopPressed : Neutral stopPressed := by
  refine (neutral_ask _).bind fun byCallback => (neutral_ask _).bind fun low => Steps.look ?_
  intro s
  refine Steps.ite ((neutral_faultRaise (by decide)).bind fun _ => ?_) ?_
  · exact Steps.look fun _ => (neutral_note _).bind fun _ => Steps.pure _
  · exact Steps.look fun _ => (neutral_note _).bind fun _ => Steps.pure _

end Neutral

/-! ## Rules -/

/-- After the command the motors are off. -/
def Cuts {α : Type} (J B : Robot → Prop) (c : Cmd Robot α) : Prop :=
  ∀ p, Triple J (Held B p) c fun _ => Held B True

section Rules

variable {α β γ : Type} {J B : Robot → Prop} {p : Prop} {c : Cmd Robot α} {f : α → Cmd Robot β}
  {Q : β → Robot → Prop}

/-- The motors are turned off, and then something else is done. -/
theorem Cuts.andThen (hc : Cuts J B c) (hf : ∀ a, Triple J (Held B True) (f a) Q) :
    Triple J (Held B p) (c >>= f) Q := (hc p).bind hf

/-- The state is looked at. -/
theorem triple_look {f : Robot → Cmd Robot β}
    (hf : ∀ t, Held B p t → Triple J (Held B p) (f t) Q) : Triple J (Held B p) (get >>= f) Q :=
  Triple.look fun t ht => (hf t ht).before fun _ h => h.1

/-- A loop of the robot, from an invariant of one round. -/
theorem triple_loop {body : β → Cmd Robot (β ⊕ γ)} {I : β → Robot → Prop} {Q : γ → Robot → Prop}
    (hI : ∀ b s, I b s → J s)
    (hbody : ∀ b, Triple J (I b) (body b) fun r s => r.elim (fun b' => I b' s) fun c => Q c s)
    (b : β) : Triple J (I b) (loop body b) Q :=
  Triple.look fun _ _ => (Triple.iterate hI hbody _ b).before fun _ h => h.1

/-- A command that only returns. -/
theorem triple_return (a : α) : Triple J (Held B p) (pure a) fun _ => Held B p :=
  Triple.pure a fun _ h => h

end Rules

namespace Discipline

variable {α β : Type} {J B : Robot → Prop} {p : Prop} {c : Cmd Robot α} {f : α → Cmd Robot β}
  {Q : β → Robot → Prop} (hB : Discipline J B)
include hB

theorem held {s t : Robot} (hst : Alike s t) (h : Held B p s) : Held B p t := by
  refine ⟨hB.alike s t hst h.base, ?_⟩
  intro hp pin
  rw [hst.levels]
  exact h.off hp pin

/-- A neutral command keeps the condition. -/
theorem neutral (hc : Neutral c) : Triple J (Held B p) c fun _ => Held B p :=
  hc.triple (fun _ _ ht hs => hB.held ht hs) fun s hs => hB.safe s hs.base

/-- A neutral command, and then another one. -/
theorem andThen (hc : Neutral c) (hf : ∀ a, Triple J (Held B p) (f a) Q) :
    Triple J (Held B p) (c >>= f) Q := (hB.neutral hc).bind hf

/-- A change of what `motion.c` owns, and then something else. -/
theorem change {g : Robot → Robot} {f : Unit → Cmd Robot β} (hg : ∀ s, Alike s (g s))
    (hf : ∀ a, Triple J (Held B p) (f a) Q) : Triple J (Held B p) (modify g >>= f) Q :=
  hB.andThen (Steps.modify hg) hf

/-- A loop whose rounds keep the condition. -/
theorem loop {γ : Type} {body : β → Cmd Robot (β ⊕ γ)}
    (hbody : ∀ b, Triple J (Held B p) (body b) fun _ => Held B p) (b : β) :
    Triple J (Held B p) (Robot.loop body b) fun _ => Held B p := by
  apply triple_loop (I := fun _ => Held B p) (Q := fun _ => Held B p) fun _ s h => hB.safe s h.base
  intro b
  apply (hbody b).after
  rintro (b' | c) s hs
  · exact hs
  · exact hs

/-- **A line of the report** is written with the motors off. -/
theorem reportPrintf : Triple J (Held B True) reportPrintf fun _ => Held B True :=
  fun s h => ⟨hB.line s (h.off trivial) h.base, h.off⟩

/-- A line, and then something else. -/
theorem afterLine {rest : Cmd Robot β} (hrest : Triple J (Held B True) rest Q) :
    Triple J (Held B True) (Robot.reportPrintf >>= fun _ => rest) Q :=
  hB.reportPrintf.bind fun _ => hrest

/-- A fault is raised, and a line of the report gives its reason. -/
theorem fault {fault : Fault} (hf : fault ≠ .profile) (a : α) :
    Triple J (Held B True) (do faultRaise fault; Robot.reportPrintf; return a) fun _ =>
      Held B True :=
  hB.andThen (neutral_faultRaise hf) fun _ => hB.afterLine (triple_return a)

end Discipline

/-! ## Motors -/

section Motors

variable {J B : Robot → Prop} {p : Prop} (hB : Discipline J B)
include hB

/-- A level of a motor pin. -/
theorem triple_pwmSetGpioLevel (pin : Pin) (n : ℕ) :
    Triple J (Held B False) (pwmSetGpioLevel pin n) fun _ => Held B False :=
  fun s h => ⟨hB.write s pin n h.base, False.elim⟩

theorem triple_motorsWrite (left right : ℤ) :
    Triple J (Held B False) (motorsWrite left right) fun _ => Held B False := by
  have hmotor (pinA pinB : Pin) (speed : ℤ) (forwardUsesA : Bool) :
      Triple J (Held B False) (motorWrite pinA pinB speed forwardUsesA) fun _ => Held B False :=
    (triple_pwmSetGpioLevel hB pinA _).bind fun _ => triple_pwmSetGpioLevel hB pinB _
  refine (hmotor _ _ _ _).bind fun _ => (hmotor _ _ _ _).bind fun _ => hB.neutral ?_
  exact Steps.modify fun _ => ⟨rfl, rfl, rfl, rfl, rfl, rfl, rfl, rfl, id⟩

/-- Writing zero to all pins turns the motors off. -/
theorem cuts_motorsWrite : Cuts J B (motorsWrite 0 0) := by
  intro p s h
  have hfirst := hB.write _ .m1B 0 (hB.write s .m1A 0 h.base)
  have hwritten := hB.write _ .m2B 0 (hB.write _ .m2A 0 hfirst)
  have halike (t : Robot) :
      Alike t { t with motorsPowered := decide ((0 : ℤ) ≠ 0 ∨ (0 : ℤ) ≠ 0) } :=
    ⟨rfl, rfl, rfl, rfl, rfl, rfl, rfl, rfl, id⟩
  unfold motorsWrite
  rw [motorWrite_zero, motorWrite_zero]
  refine ⟨hB.alike _ _ (halike _) hwritten, fun _ => ?_⟩
  intro pin
  cases pin <;> rfl

theorem cuts_motorsStop : Cuts J B motorsStop := cuts_motorsWrite hB

/-- **Power** is given by `motors_set` only. -/
theorem triple_motorsSet (hpower : Powers B) (left right : ℤ) :
    Triple J (Held B p) (motorsSet left right) fun _ => Held B False := by
  have hzero : Triple J (Held B p) (motorsWrite 0 0) fun _ => Held B False :=
    (cuts_motorsWrite hB p).after fun _ _ h => h.on
  refine triple_look fun s _ => Triple.ite (fun _ => hzero) fun _ => ?_
  refine hB.andThen neutral_stopPressed fun stopped => Triple.ite (fun _ => hzero) fun _ => ?_
  have hact : Triple J (Held B p) (act .power) fun _ => Held B False :=
    fun t h => ⟨hpower t h.base, False.elim⟩
  exact hact.bind fun _ => triple_motorsWrite hB left right

/-- **`stop_drive`** turns the motors off. -/
theorem cuts_stopDrive : Cuts J B stopDrive := by
  intro p
  refine triple_look fun s _ => (cuts_motorsStop hB).andThen fun _ => ?_
  refine Triple.ite (fun _ => hB.andThen neutral_nowMs fun _ => hB.neutral ?_) fun _ =>
    triple_return _
  exact Steps.modify fun _ => ⟨rfl, rfl, rfl, rfl, rfl, rfl, rfl, rfl, id⟩

theorem cuts_motionStop : Cuts J B motionStop := cuts_stopDrive hB

/-- A pause may end with a cut. -/
theorem triple_pauseChecked (duration : UInt32) :
    Triple J (Held B p) (pauseChecked duration) fun _ => Held B p := by
  refine hB.andThen neutral_nowMs fun start => hB.loop (fun _ => ?_) _
  refine hB.andThen neutral_nowMs fun now => Triple.ite (fun _ => triple_return _) fun _ => ?_
  refine hB.andThen neutral_stopPressed fun stopped => Triple.ite (fun _ => ?_) fun _ => ?_
  · exact (cuts_motorsStop hB).andThen fun _ => Triple.pure _ fun _ h => h.any
  · exact hB.andThen neutral_sleepMs fun _ => triple_return _

end Motors

end Robot
