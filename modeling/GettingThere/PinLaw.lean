/-
# The motor pins, write by write

A motor hangs between two pins of its driver: one of them driven turns it, both of them brake it.
`motor_write` writes one pin and then the other, so it depends on what went before whether both are
driven for a moment, as when a motor is reversed without a stop.

`WellWired` says of the notes on a run that it never happens: a level other than zero is written
while the other pin of the motor is at zero, it is between 20 and 43 per cent, and whenever the
robot sleeps the pins are those of a stop, of a drive or of a turn on the spot (`Course`).

`Wired c speed` is the condition that goes with it while the robot is on the course `c`; a command
`Stays` when it may leave the course for a stop, but for no other one, and it `Halts` when it ends
in a stop, whatever the pins were before.
-/
import GettingThere.StopRules

open CrashLogic

/-- The other pin of the same motor. -/
def Pin.other : Pin → Pin
  | .m1A => .m1B
  | .m1B => .m1A
  | .m2A => .m2B
  | .m2B => .m2A

namespace Robot

/-- The levels of the pins for the duties of the left and the right motor, in per cent. -/
def duties (left right : ℤ) : Pin → ℕ
  | .m1A => left.toNat * 100
  | .m1B => (-left).toNat * 100
  | .m2A => (-right).toNat * 100
  | .m2B => right.toNat * 100

/-- What the robot is doing. -/
inductive Course
  | stop
  | drive
  | turn (direction : ℤ)

/-- The duties of a course: a drive has the same direction on both sides, and is steered by 8 per
cent at most; a turn is on the spot. -/
def Course.Duties (speed left right : ℤ) : Course → Prop
  | stop => left = 0 ∧ right = 0
  | drive => (speed = 35 ∨ speed = -35) ∧ left + right = 2 * speed ∧ speed - 8 ≤ left ∧
      left ≤ speed + 8
  | turn direction => (direction = 1 ∨ direction = -1) ∧
      (right = 20 * direction ∨ right = 25 * direction) ∧ left = -right

end Robot

/-! ## The law -/

namespace Event

/-- The level written last to a pin. -/
def lastLevel (pin : Pin) : List Event → Option ℕ
  | [] => none
  | .level p n :: past => if p = pin then some n else lastLevel pin past
  | _ :: past => lastLevel pin past

/-- What an event may be after the ones before it. -/
def Admitted (past : List Event) : Event → Prop
  | .level pin n => n ≠ 0 → 2000 ≤ n ∧ n ≤ 4300 ∧ lastLevel pin.other past = some 0
  | .sleep levels => ∃ (c : Robot.Course) (speed left right : ℤ), c.Duties speed left right ∧
      levels = Robot.duties left right
  | .polled _ _ => True
  | .armed => True

/-- **The law of the motor pins**, for the notes on a run, the latest first. -/
def WellWired : List Event → Prop
  | [] => True
  | e :: past => e.Admitted past ∧ WellWired past

/-- The level written last is the one just written. -/
theorem lastLevel_level_self {pin : Pin} {n : ℕ} {past : List Event} :
    lastLevel pin (.level pin n :: past) = some n := if_pos rfl

end Event

namespace Robot

open Event

/-! ## Conditions -/

/-- The law has been kept, with this speed of the latest drive. -/
def Ruled (speed : ℤ) (s : Robot) : Prop := WellWired s.events ∧ s.drive.speed = speed

/-- The law has been kept, and the pins are those of the course, or of a stop. -/
structure Wired (c : Course) (speed : ℤ) (s : Robot) : Prop where
  law : WellWired s.events
  known : ∀ pin, lastLevel pin s.events = some (s.levels pin)
  pins : ∃ left right, (Course.stop.Duties speed left right ∨ c.Duties speed left right) ∧
    s.levels = duties left right
  speed_eq : s.drive.speed = speed

/-- The law has been kept. -/
abbrev Lawfully (s : Robot) : Prop := WellWired s.events

variable {c : Course} {speed : ℤ} {s : Robot}

/-- Pins that are those of a course have kept the law. -/
theorem Wired.ruled (h : Wired c speed s) : Ruled speed s := ⟨h.law, h.speed_eq⟩

/-- A stop is allowed on every course. -/
theorem Wired.any (h : Wired .stop speed s) : Wired c speed s := by
  obtain ⟨hlaw, hknown, ⟨left, right, hduties, hlevels⟩, hspeed⟩ := h
  exact ⟨hlaw, hknown, ⟨left, right, .inl (hduties.elim id id), hlevels⟩, hspeed⟩

/-- The duties of one course are on the same sides. -/
theorem Course.Duties.sides {left right left' right' : ℤ} (h : c.Duties speed left right)
    (h' : c.Duties speed left' right') :
    (0 < left' → 0 ≤ left) ∧ (left' < 0 → left ≤ 0) ∧ (0 < right' → 0 ≤ right) ∧
      (right' < 0 → right ≤ 0) := by
  cases c with
  | stop =>
    obtain ⟨rfl, rfl⟩ := h
    omega
  | drive =>
    obtain ⟨hspeed, hsum, hlow, hhigh⟩ := h
    obtain ⟨-, hsum', hlow', hhigh'⟩ := h'
    omega
  | turn direction =>
    obtain ⟨hdirection, hright, hleft⟩ := h
    obtain ⟨-, hright', hleft'⟩ := h'
    omega

/-- The duties of a course are between 20 and 43 per cent, or zero. -/
theorem Course.Duties.range {left right : ℤ} (h : c.Duties speed left right) :
    (left = 0 ∨ 20 ≤ left.natAbs ∧ left.natAbs ≤ 43) ∧
      (right = 0 ∨ 20 ≤ right.natAbs ∧ right.natAbs ≤ 43) := by
  cases c with
  | stop => exact ⟨.inl h.1, .inl h.2⟩
  | drive =>
    obtain ⟨hspeed, hsum, hlow, hhigh⟩ := h
    omega
  | turn direction =>
    obtain ⟨hdirection, hright, hleft⟩ := h
    omega

/-! ## Commands that stay on the course -/

/-- The command keeps the course, or stops. -/
def Stays {α : Type} (cmd : Cmd Robot α) : Prop :=
  ∀ c speed, Triple Lawfully (Wired c speed) cmd fun _ => Wired c speed

/-- After the command the motors are stopped, whatever the pins were. -/
def Halts {α : Type} (cmd : Cmd Robot α) : Prop :=
  ∀ speed, Triple Lawfully (Ruled speed) cmd fun _ => Wired .stop speed

section Rules

variable {α β γ : Type} {cmd : Cmd Robot α} {f : α → Cmd Robot β}

/-- Stopping keeps every course. -/
theorem Halts.stays (h : Halts cmd) : Stays cmd := fun _ speed =>
  ((h speed).before fun _ hs => hs.ruled).after fun _ _ hs => hs.any

/-- From any course, a halt leads to a stop. -/
theorem Halts.from (h : Halts cmd) : Triple Lawfully (Wired c speed) cmd fun _ =>
    Wired .stop speed := (h speed).before fun _ hs => hs.ruled

/-- Once stopped, the motors stay so through what keeps every course. -/
theorem Halts.bind (h : Halts cmd) (hf : ∀ a, Stays (f a)) : Halts (cmd >>= f) := fun speed =>
  (h speed).bind fun a => hf a .stop speed

theorem Stays.pure (a : α) : Stays (pure a : Cmd Robot α) := fun _ _ => Triple.pure a fun _ h => h

/-- What keeps the course may be followed by what does. -/
theorem Stays.bind (h : Stays cmd) (hf : ∀ a, Stays (f a)) : Stays (cmd >>= f) := fun c speed =>
  (h c speed).bind fun a => hf a c speed

/-- One way or the other. -/
theorem Stays.ite {p : Prop} [Decidable p] {a b : Cmd Robot α} (ha : Stays a) (hb : Stays b) :
    Stays (if p then a else b) := fun c speed =>
  Triple.ite (fun _ => ha c speed) fun _ => hb c speed

/-- The state is looked at. -/
theorem Stays.look {f : Robot → Cmd Robot β} (hf : ∀ s, Stays (f s)) : Stays (get >>= f) :=
  fun c speed => Triple.look fun t _ => (hf t c speed).before fun _ h => h.1

/-- A loop whose rounds stay. -/
theorem Stays.loop {body : β → Cmd Robot (β ⊕ γ)} (hbody : ∀ b, Stays (body b)) (b : β) :
    Stays (loop body b) := fun c speed => by
  refine Triple.look fun t _ => Triple.before (fun _ h => h.1) ?_
  refine Triple.iterate (I := fun _ => Wired c speed) (Q := fun _ => Wired c speed)
    (fun _ _ h => h.law) (fun b => ?_) _ b
  apply (hbody b c speed).after
  rintro (b' | r) s hs
  · exact hs
  · exact hs

/-- A change of what the law is not about. -/
theorem stays_modify {g : Robot → Robot} (hg : ∀ s, (g s).events = s.events ∧
    (g s).levels = s.levels ∧ (g s).drive.speed = s.drive.speed) : Stays (modify g) := by
  intro c speed s hs
  obtain ⟨hevents, hlevels, hspeed⟩ := hg s
  refine ⟨?_, ?_, ?_, hspeed.trans hs.speed_eq⟩
  · rw [hevents]
    exact hs.law
  · rw [hevents, hlevels]
    exact hs.known
  · rw [hlevels]
    exact hs.pins

/-- A question writes no pin. -/
theorem stays_ask (answer : Outside → ℕ → α) : Stays (ask answer) := fun _ _ _ hs =>
  ⟨hs.law, hs.known, hs.pins, hs.speed_eq⟩

/-- Reading the clock writes no pin. -/
theorem stays_nowMs : Stays nowMs := (stays_ask _).bind fun _ => Stays.pure _

/-- An act that is noted writes no pin. -/
theorem stays_act (a : Act) : Stays (act a) := stays_modify fun _ => ⟨rfl, rfl, rfl⟩

/-- A line of the report writes no pin. -/
theorem stays_reportPrintf : Stays reportPrintf := stays_act .line

/-- Raising a fault writes no pin. -/
theorem stays_faultRaise (fault : Fault) : Stays (faultRaise fault) :=
  stays_modify fun _ => ⟨rfl, rfl, rfl⟩

/-- Clearing a fault writes no pin. -/
theorem stays_faultClear (fault : Fault) : Stays (faultClear fault) :=
  stays_modify fun _ => ⟨rfl, rfl, rfl⟩

/-- A fault that is reported. -/
theorem stays_fault (fault : Fault) (a : α) :
    Stays (do faultRaise fault; reportPrintf; return a) :=
  (stays_faultRaise fault).bind fun _ => stays_reportPrintf.bind fun _ => Stays.pure a

/-- **The latch** is polled. -/
theorem stays_stopPressed : Stays stopPressed := by
  have hnote (low result : Bool) : Stays (note (.polled low result)) := fun _ _ _ hs =>
    ⟨⟨trivial, hs.law⟩, hs.known, hs.pins, hs.speed_eq⟩
  refine (stays_ask _).bind fun _ => (stays_ask _).bind fun _ => Stays.look fun s => ?_
  refine Stays.ite ((stays_faultRaise _).bind fun _ => ?_) ?_
  · exact Stays.look fun _ => (hnote _ _).bind fun _ => Stays.pure _
  · exact Stays.look fun _ => (hnote _ _).bind fun _ => Stays.pure _

/-- **A sleep**: the pins are those of a course. -/
theorem stays_sleepMs : Stays sleepMs := by
  rintro c speed s ⟨hlaw, hknown, ⟨left, right, hduties, hlevels⟩, hspeed⟩
  refine ⟨⟨?_, hlaw⟩, hknown, ⟨left, right, hduties, hlevels⟩, hspeed⟩
  obtain hduties | hduties := hduties
  · exact ⟨.stop, speed, left, right, hduties, hlevels⟩
  · exact ⟨c, speed, left, right, hduties, hlevels⟩

end Rules

/-! ## Motors -/

/-- The levels `motor_write` writes, first to `pinA` and then to `pinB`. -/
theorem motorWrite_eq {duty : ℤ} (hlow : -100 ≤ duty) (hhigh : duty ≤ 100) (pinA pinB : Pin)
    (forwardUsesA : Bool) :
    motorWrite pinA pinB duty forwardUsesA =
      (pwmSetGpioLevel pinA ((if forwardUsesA then duty else -duty).toNat * 100) >>= fun _ =>
        pwmSetGpioLevel pinB ((if forwardUsesA then -duty else duty).toNat * 100)) := by
  have hclamp : max (-100) (min 100 duty) = duty := by omega
  have hA : (if duty ≠ 0 ∧ (if 0 ≤ duty then forwardUsesA else !forwardUsesA) = true then
      duty.natAbs * 100 else 0) = (if forwardUsesA then duty else -duty).toNat * 100 := by
    cases forwardUsesA <;> grind
  have hB : (if duty ≠ 0 ∧ (if 0 ≤ duty then forwardUsesA else !forwardUsesA) = false then
      duty.natAbs * 100 else 0) = (if forwardUsesA then -duty else duty).toNat * 100 := by
    cases forwardUsesA <;> grind
  unfold motorWrite
  rw [hclamp]
  simp only [hA, hB]

/-- **Writing zero to all pins** stops the motors, from any state. -/
theorem halts_motorsWrite : Halts (motorsWrite 0 0) := by
  rintro speed s ⟨hlaw, hspeed⟩
  unfold motorsWrite
  rw [motorWrite_zero, motorWrite_zero]
  refine ⟨?_, ?_, ⟨0, 0, .inl ⟨rfl, rfl⟩, ?_⟩, hspeed⟩
  · exact ⟨absurd rfl, absurd rfl, absurd rfl, absurd rfl, hlaw⟩
  · intro pin
    cases pin <;> rfl
  · funext pin
    cases pin <;> rfl

/-- `motors_stop` writes zero to every pin. -/
theorem halts_motorsStop : Halts motorsStop := halts_motorsWrite

/-- **New duties of the same course.**  Each pin that gets a level has its other pin at zero: either
it was at zero before, or it has just been written. -/
theorem wired_motorsWrite {left right : ℤ} (hduties : c.Duties speed left right) :
    Triple Lawfully (Wired c speed) (motorsWrite left right) fun _ => Wired c speed := by
  rintro s ⟨hlaw, hknown, ⟨left', right', hold, hlevels⟩, hspeed⟩
  obtain ⟨hl, hr⟩ := hduties.range
  have hsides : (0 < left' → 0 ≤ left) ∧ (left' < 0 → left ≤ 0) ∧ (0 < right' → 0 ≤ right) ∧
      (right' < 0 → right ≤ 0) := by
    obtain ⟨rfl, rfl⟩ | hold := hold
    · omega
    · exact hduties.sides hold
  have hbefore (pin : Pin) : lastLevel pin s.events = some (duties left' right' pin) := by
    rw [hknown, hlevels]
  unfold motorsWrite
  rw [motorWrite_eq (by omega) (by omega), motorWrite_eq (by omega) (by omega)]
  simp only [if_true, Bool.false_eq_true, if_false]
  refine ⟨⟨?_, ?_, ?_, ?_, hlaw⟩, ?_, ⟨left, right, .inr hduties, ?_⟩, hspeed⟩
  · intro hn
    refine ⟨by omega, by omega, lastLevel_level_self.trans (congrArg some ?_)⟩
    omega
  · intro hn
    refine ⟨by omega, by omega, ?_⟩
    have hother := hbefore .m2B
    rw [show duties left' right' .m2B = 0 by simp only [duties]; omega] at hother
    exact hother
  · intro hn
    refine ⟨by omega, by omega, lastLevel_level_self.trans (congrArg some ?_)⟩
    omega
  · intro hn
    refine ⟨by omega, by omega, ?_⟩
    have hother := hbefore .m1B
    rw [show duties left' right' .m1B = 0 by simp only [duties]; omega] at hother
    exact hother
  · intro pin
    cases pin <;> rfl
  · funext pin
    cases pin <;> rfl

/-- **Power** is given by `motors_set` only: on the course, or not at all. -/
theorem wired_motorsSet {left right : ℤ} (hduties : c.Duties speed left right) :
    Triple Lawfully (Wired c speed) (motorsSet left right) fun _ => Wired c speed := by
  have hzero := halts_motorsWrite.stays c speed
  refine Triple.look fun s _ => Triple.before (fun _ h => h.1) ?_
  refine Triple.ite (fun _ => hzero) fun _ => (stays_stopPressed c speed).bind fun _ => ?_
  refine Triple.ite (fun _ => hzero) fun _ => (stays_act .power c speed).bind fun _ => ?_
  exact wired_motorsWrite hduties

/-- From a stop, any course may be taken. -/
theorem wired_motorsSet_stop {left right : ℤ} (hduties : c.Duties speed left right) :
    Triple Lawfully (Wired .stop speed) (motorsSet left right) fun _ => Wired c speed :=
  (wired_motorsSet hduties).before fun _ h => h.any

/-- **`stop_drive`** stops the motors. -/
theorem halts_stopDrive : Halts stopDrive := by
  intro speed
  refine Triple.look fun s _ => Triple.before (fun _ h => h.1) ?_
  refine (halts_motorsStop speed).bind fun _ => ?_
  refine Triple.ite (fun _ => (stays_nowMs .stop speed).bind fun _ => ?_) fun _ =>
    Triple.pure _ fun _ h => h
  refine stays_modify ?_ .stop speed
  exact fun _ => ⟨rfl, rfl, rfl⟩

/-- `motion_stop` stops the motors. -/
theorem halts_motionStop : Halts motionStop := halts_stopDrive

/-- A pause may end with a stop. -/
theorem stays_pauseChecked (duration : UInt32) : Stays (pauseChecked duration) := by
  refine stays_nowMs.bind fun start => Stays.loop (fun _ => stays_nowMs.bind fun now => ?_) _
  refine Stays.ite (Stays.pure _) (stays_stopPressed.bind fun _ => Stays.ite ?_ ?_)
  · exact halts_motorsStop.stays.bind fun _ => Stays.pure _
  · exact stays_sleepMs.bind fun _ => Stays.pure _

/-- The law at the start, before the pins are known. -/
theorem ruled_powerOn (outside : Outside) (levels : Pin → ℕ) :
    Ruled 0 (Robot.powerOn outside levels) := ⟨trivial, rfl⟩

end Robot
