/-
# The commands of a turn

What each command of an exact turn leaves behind, up to `read_motion_gyro`.

* `Quiet` is what a command of the robot leaves alone, `Calm` the same for the turn, as long as
  no sign is learnt and nothing is noted;
* `wp_readMotionGyro`: a sample that fails has cut the power and has raised a fault.
-/
import GettingThere.ExactTurn
import GettingThere.StopRules

open CrashLogic Robot

namespace ExactTurn

/-! ## What follows what -/

/-- A later state of the robot, as far as the pins and the sign are left out. -/
structure Quiet (s t : Robot) : Prop where
  outside : t.outside = s.outside
  tick : s.tick ≤ t.tick
  stopArmed : t.stopArmed = s.stopArmed
  faults : s.faults ⊆ t.faults
  drive : t.drive = s.drive
  turnSign : t.turnSign = s.turnSign

theorem Quiet.refl (s : Robot) : Quiet s s := ⟨rfl, le_rfl, rfl, Finset.Subset.refl _, rfl, rfl⟩

theorem Quiet.trans {s t u : Robot} (h : Quiet s t) (h' : Quiet t u) : Quiet s u :=
  ⟨h'.outside.trans h.outside, h.tick.trans h'.tick, h'.stopArmed.trans h.stopArmed,
    fun _ hf => h'.faults (h.faults hf), h'.drive.trans h.drive, h'.turnSign.trans h.turnSign⟩

/-- A later state of a turn. -/
structure Onward (x y : Turner) : Prop where
  outside : y.1.outside = x.1.outside
  tick : x.1.tick ≤ y.1.tick
  stopArmed : y.1.stopArmed = x.1.stopArmed
  faults : x.1.faults ⊆ y.1.faults
  drive : y.1.drive = x.1.drive
  sign : x.1.turnSign ≠ .unknown → y.1.turnSign = x.1.turnSign
  sleeps : x.2.sleeps ⊆ y.2.sleeps

theorem Onward.refl (x : Turner) : Onward x x :=
  ⟨rfl, le_rfl, rfl, Finset.Subset.refl _, rfl, fun _ => rfl, List.Subset.refl _⟩

theorem Onward.trans {x y z : Turner} (h : Onward x y) (h' : Onward y z) : Onward x z := by
  refine ⟨h'.outside.trans h.outside, h.tick.trans h'.tick, h'.stopArmed.trans h.stopArmed,
    fun _ hf => h'.faults (h.faults hf), h'.drive.trans h.drive, ?_,
    fun _ hk => h'.sleeps (h.sleeps hk)⟩
  intro hknown
  have hsame := h.sign hknown
  rw [← hsame]
  exact h'.sign (hsame ▸ hknown)

/-- A later state, with the same sign and the same notes. -/
structure Calm (x y : Turner) : Prop extends Onward x y where
  turnSign : y.1.turnSign = x.1.turnSign
  notes : y.2.notes = x.2.notes

theorem Calm.refl (x : Turner) : Calm x x := ⟨Onward.refl x, rfl, rfl⟩

theorem Calm.trans {x y z : Turner} (h : Calm x y) (h' : Calm y z) : Calm x z :=
  ⟨h.toOnward.trans h'.toOnward, h'.turnSign.trans h.turnSign, h'.notes.trans h.notes⟩

/-- What the robot does quietly. -/
theorem Quiet.calm {s t : Robot} {g : Gyro} (h : Quiet s t) : Calm (s, g) (t, g) :=
  ⟨⟨h.outside, h.tick, h.stopArmed, h.faults, h.drive, fun _ => h.turnSign, List.Subset.refl _⟩,
    h.turnSign, rfl⟩

/-- STOP is latched or one of the faults of a turn is raised. -/
def Accounted (s : Robot) : Prop :=
  ∃ f ∈ [Fault.stopLatched, .imu, .gyroSaturated, .turn, .heading], f ∈ s.faults

/-- No motor can be powered. -/
def Blocked (s : Robot) : Prop := s.stopArmed = false ∨ Fault.stopLatched ∈ s.faults

/-- Motors that cannot be powered cannot be later on: STOP stays latched, or unarmed. -/
theorem Blocked.mono {s t : Robot} (h : Blocked s) (hq : Quiet s t) : Blocked t :=
  h.imp (fun ha => hq.stopArmed.trans ha) fun hl => hq.faults hl

/-! ## Commands of the robot -/

section Robot

variable {α : Type} {s : Robot}

/-- A question leaves the pins alone. -/
theorem wp_ask (answer : Outside → ℕ → α) :
    wp (ask answer) (fun _ t => Quiet s t ∧ t.levels = s.levels) (fun _ => False) s :=
  ⟨⟨rfl, Nat.le_succ _, rfl, Finset.Subset.refl _, rfl, rfl⟩, rfl⟩

/-- The clock is read at a moment, and the next one is later. -/
theorem wp_nowMs :
    wp nowMs (fun now t => Quiet s t ∧ t.levels = s.levels ∧ s.tick < t.tick ∧
      now = (s.outside.timeUs s.tick / 1000).toUInt32) (fun _ => False) s :=
  ⟨⟨rfl, Nat.le_succ _, rfl, Finset.Subset.refl _, rfl, rfl⟩, rfl, Nat.lt_succ_self _, rfl⟩

/-- A fault that is raised is there. -/
theorem wp_faultRaise (f : Fault) :
    wp (faultRaise f) (fun _ t => Quiet s t ∧ t.levels = s.levels ∧ f ∈ t.faults)
      (fun _ => False) s :=
  ⟨⟨rfl, le_rfl, rfl, Finset.subset_insert _ _, rfl, rfl⟩, rfl, Finset.mem_insert_self _ _⟩

/-- A line of the report leaves the pins alone. -/
theorem wp_reportPrintf :
    wp reportPrintf (fun _ t => Quiet s t ∧ t.levels = s.levels) (fun _ => False) s :=
  ⟨⟨rfl, le_rfl, rfl, Finset.Subset.refl _, rfl, rfl⟩, rfl⟩

/-- **`stop_pressed`** returns the latch. -/
theorem wp_poll :
    wp stopPressed
      (fun b t => Quiet s t ∧ t.levels = s.levels ∧ (b = true ↔ Fault.stopLatched ∈ t.faults))
      (fun _ => False) s := by
  unfold stopPressed
  rw [wp_bind]
  refine wp_mono (wp_ask _) ?_ fun _ h => h
  rintro byCallback t ⟨ht, htl⟩
  rw [wp_bind]
  refine wp_mono (wp_ask _) ?_ fun _ h => h
  rintro low u ⟨hu, hul⟩
  have hquiet := ht.trans hu
  have hlevels := hul.trans htl
  rw [wp_bind, wp_get]
  split
  · rw [wp_bind]
    refine ⟨⟨hquiet.outside, hquiet.tick, hquiet.stopArmed, ?_, hquiet.drive, hquiet.turnSign⟩,
      hlevels, decide_eq_true_iff⟩
    exact fun _ hf => Finset.mem_insert_of_mem (hquiet.faults hf)
  · exact ⟨⟨hquiet.outside, hquiet.tick, hquiet.stopArmed, hquiet.faults, hquiet.drive,
      hquiet.turnSign⟩, hlevels, decide_eq_true_iff⟩

/-- `motors_stop` turns both motors off. -/
theorem wp_motorsStop : wp motorsStop (fun _ t => Quiet s t ∧ t.Off) (fun _ => False) s := by
  unfold motorsStop motorsWrite
  rw [motorWrite_zero, motorWrite_zero]
  refine ⟨⟨rfl, le_rfl, rfl, Finset.Subset.refl _, rfl, rfl⟩, ?_⟩
  intro pin
  cases pin <;> rfl

/-- A duty powers one of the pins of a motor. -/
theorem wp_motorsWrite {left right : ℤ} (hleft : left ≠ 0) :
    wp (motorsWrite left right) (fun _ t => Quiet s t ∧ t.faults = s.faults ∧ ¬ t.Off)
      (fun _ => False) s := by
  refine ⟨⟨rfl, le_rfl, rfl, Finset.Subset.refl _, rfl, rfl⟩, rfl, fun hoff => ?_⟩
  have hspeed : max (-100) (min 100 left) ≠ 0 := by omega
  have hlevel : (max (-100) (min 100 left)).natAbs * 100 ≠ 0 := by omega
  have hpinA := hoff .m1A
  have hpinB := hoff .m1B
  simp only [Function.update, reduceCtorEq, dite_false, dite_true] at hpinA hpinB
  by_cases hpos : 0 ≤ max (-100) (min 100 left)
  · rw [if_pos ⟨hspeed, by rw [if_pos hpos]⟩] at hpinA
    exact hlevel hpinA
  · rw [if_pos ⟨hspeed, by rw [if_neg hpos]; rfl⟩] at hpinB
    exact hlevel hpinB

/-- **`motors_set`** powers the motors unless it is blocked. -/
theorem wp_motorsSet {left right : ℤ} (hleft : left ≠ 0) :
    wp (Robot.motorsSet left right) (fun _ t => Quiet s t ∧ (t.Off ↔ Blocked t))
      (fun _ => False) s := by
  have hzero (t : Robot) (ht : Quiet s t) (hblocked : Blocked t) :
      wp (motorsWrite 0 0) (fun _ u => Quiet s u ∧ (u.Off ↔ Blocked u)) (fun _ => False) t := by
    refine wp_mono wp_motorsStop ?_ fun _ h => h
    rintro - u ⟨hu, hoff⟩
    exact ⟨ht.trans hu, iff_of_true hoff (hblocked.mono hu)⟩
  unfold Robot.motorsSet
  rw [wp_bind, wp_get]
  cases harmed : s.stopArmed with
  | false => exact hzero s (Quiet.refl s) (.inl harmed)
  | true =>
    simp only [Bool.not_true, Bool.false_eq_true, if_false]
    rw [wp_bind]
    refine wp_mono wp_poll ?_ fun _ h => h
    rintro pressed t ⟨ht, -, hpressed⟩
    cases pressed with
    | true => exact hzero t ht (.inr (hpressed.mp rfl))
    | false =>
      have hfree : ¬ Blocked t := by
        rintro (ha | hl)
        · exact Bool.false_ne_true (ha.symm.trans (ht.stopArmed.trans harmed))
        · exact Bool.false_ne_true (hpressed.mpr hl)
      rw [if_neg Bool.false_ne_true, wp_bind]
      unfold act
      rw [wp_modify]
      refine wp_mono (wp_motorsWrite hleft) ?_ fun _ h => h
      rintro - u ⟨hu, hfaults, hon⟩
      refine ⟨ht.trans ⟨hu.outside, hu.tick, hu.stopArmed, hu.faults, hu.drive, hu.turnSign⟩,
        iff_of_false hon ?_⟩
      exact fun hb => hfree (hb.imp (fun ha => hu.stopArmed.symm.trans ha) fun hl => hfaults ▸ hl)

end Robot

/-! ## Commands of the turn -/

/-- A quiet command of the robot. -/
theorem wp_robot {α : Type} {c : Cmd Robot α} {P : α → Robot → Prop} {R : Turner → Prop}
    {x : Turner}
    (h : wp c (fun a t => Quiet x.1 t ∧ P a t) (fun _ => False) x.1) :
    wp (onFirst c) (fun a y => Calm x y ∧ P a y.1) R x := by
  obtain ⟨s, g⟩ := x
  rw [wp_onFirst]
  exact wp_mono h (fun _ _ ht => ⟨ht.1.calm, ht.2⟩) fun _ hf => hf.elim

/-- The motors are off, and no drive is under way. -/
structure Parked (s : Robot) : Prop where
  off : s.Off
  idle : s.drive.active = false

/-- `stopped` says that both motors are off. -/
theorem stopped_iff (s : Robot) : stopped s = true ↔ s.Off := by
  simp only [stopped, Bool.and_eq_true, beq_iff_eq]
  constructor
  · rintro ⟨⟨⟨h1, h2⟩, h3⟩, h4⟩ pin
    cases pin with
    | m1A => exact h1
    | m1B => exact h2
    | m2A => exact h3
    | m2B => exact h4
  · exact fun h => ⟨⟨⟨h .m1A, h .m1B⟩, h .m2A⟩, h .m2B⟩

section Commands

variable {x : Turner} {R : Turner → Prop}

/-- A failed turn has its fault raised, with the motors off. -/
theorem wp_failTurn {f : Fault}
    (hf : f ∈ [Fault.stopLatched, .imu, .gyroSaturated, .turn, .heading]) :
    wp (onFirst (failTurn f)) (fun _ y => Calm x y ∧ y.1.Off ∧ Accounted y.1) R x := by
  refine wp_robot (P := fun _ t => t.Off ∧ Accounted t) ?_
  unfold failTurn
  rw [wp_bind]
  refine wp_mono wp_motorsStop ?_ fun _ h => h
  rintro - t ⟨ht, hoff⟩
  rw [wp_bind]
  refine wp_mono (wp_faultRaise f) ?_ fun _ h => h
  rintro - u ⟨hu, hlevels, hmem⟩
  refine wp_mono wp_reportPrintf ?_ fun _ h => h
  rintro - v ⟨hv, hlevels'⟩
  refine ⟨ht.trans (hu.trans hv), ?_, f, hf, hv.faults hmem⟩
  unfold Off
  rw [hlevels', hlevels]
  exact hoff

/-- A fault is raised, and reported. -/
theorem wp_refuse {α : Type} {f : Fault} {a : α} (hoff : x.1.Off)
    (hf : f ∈ [Fault.stopLatched, .imu, .gyroSaturated, .turn, .heading]) :
    wp (do onFirst (faultRaise f); onFirst reportPrintf; pure a)
      (fun b y => b = a ∧ Calm x y ∧ y.1.Off ∧ Accounted y.1) R x := by
  rw [wp_bind]
  refine wp_mono (wp_robot (wp_faultRaise f)) ?_ fun _ h => h
  rintro - y ⟨hy, hlevels, hmem⟩
  rw [wp_bind]
  refine wp_mono (wp_robot wp_reportPrintf) ?_ fun _ h => h
  rintro - z ⟨hz, hlevels'⟩
  refine ⟨rfl, hy.trans hz, ?_, f, hf, hz.faults hmem⟩
  unfold Off
  rw [hlevels', hlevels]
  exact hoff

/-- Reading the gyro leaves pins, sign and notes alone. -/
theorem wp_readGyroDps :
    wp readGyroDps (fun _ y => Calm x y ∧ y.1.levels = x.1.levels) R x := by
  unfold readGyroDps
  rw [wp_bind]
  exact wp_mono (wp_robot (wp_ask _)) (fun _ _ h => h) fun _ h => h

/-- **`recover_gyro_stopped`** powers nothing. -/
theorem wp_recoverAttempts (n : ℕ) :
    ∀ x : Turner, wp (recoverAttempts n) (fun _ y => Calm x y ∧ y.1.levels = x.1.levels) R x := by
  induction n with
  | zero => exact fun x => ⟨Calm.refl x, rfl⟩
  | succ n ih =>
    intro x
    unfold recoverAttempts
    rw [wp_bind]
    refine wp_mono (wp_robot wp_poll) ?_ fun _ h => h
    rintro pressed y ⟨hy, hyl, -⟩
    split
    · exact ⟨hy, hyl⟩
    rw [wp_bind]
    refine wp_mono (wp_robot (wp_ask _)) ?_ fun _ h => h
    rintro verified z ⟨hz, hzl⟩
    rw [wp_bind]
    refine wp_mono (wp_robot wp_poll) ?_ fun _ h => h
    rintro pressed' w ⟨hw, hwl, -⟩
    have hcalm := hy.trans (hz.trans hw)
    have hlevels := hwl.trans (hzl.trans hyl)
    have hmore (v : Turner) (hv : Calm x v) (hvl : v.1.levels = x.1.levels) :
        wp (recoverAttempts n) (fun _ y => Calm x y ∧ y.1.levels = x.1.levels) R v :=
      wp_mono (ih v) (fun _ _ h => ⟨hv.trans h.1, h.2.trans hvl⟩) fun _ h => h
    split
    · exact ⟨hcalm, hlevels⟩
    split
    · exact hmore w hcalm hlevels
    rw [wp_bind]
    refine wp_mono wp_readGyroDps ?_ fun _ h => h
    rintro (_ | rate) v ⟨hv, hvl⟩
    · exact hmore v (hcalm.trans hv) (hvl.trans hlevels)
    · dsimp only
      rw [wp_bind]
      refine wp_mono (wp_robot (wp_ask _)) ?_ fun _ h => h
      rintro us u ⟨hu, hul⟩
      rw [wp_bind]
      refine wp_mono (wp_robot wp_poll) ?_ fun _ h => h
      rintro pressed'' r ⟨hr, hrl, -⟩
      have hcalm' := hcalm.trans (hv.trans (hu.trans hr))
      have hlevels' := hrl.trans (hul.trans (hvl.trans hlevels))
      split
      · exact ⟨hcalm', hlevels'⟩
      · exact ⟨hcalm', hlevels'⟩

/-- Without a drive under way `cutPower` turns the motors off. -/
theorem wp_cutPower (hidle : x.1.drive.active = false) :
    wp (onFirst cutPower) (fun _ y => Calm x y ∧ y.1.Off) R x := by
  refine wp_robot (P := fun _ t => t.Off) ?_
  unfold cutPower
  rw [wp_bind, wp_get, hidle]
  exact wp_motorsStop

/-- **A missed sample of a turn**, before it or during it: it has cut the power and raised a
fault, unless the sensor has been recovered. -/
theorem wp_recoverMotionGyro {motion : Movement} (hidle : x.1.drive.active = false)
    (hmotion : motion ≠ .drive) (previousUs : UInt64) :
    wp (recoverMotionGyro motion previousUs)
      (fun r y => Calm x y ∧ y.1.Off ∧ (r = none → Accounted y.1) ∧ (r ≠ none → motion ≠ .turn))
      R x := by
  unfold recoverMotionGyro
  rw [wp_bind]
  refine wp_mono (wp_cutPower hidle) ?_ fun _ h => h
  rintro - y ⟨hy, hoff⟩
  rw [wp_bind, wp_get]
  split
  · refine wp_mono (wp_refuse (a := none) hoff (f := .imu) (by decide)) ?_ fun _ h => h
    rintro _ z ⟨rfl, hz, hoff', hacc⟩
    exact ⟨hy.trans hz, hoff', fun _ => hacc, fun h => absurd rfl h⟩
  · rename_i hturn
    unfold retryMotionGyro recoverGyroStopped
    rw [wp_bind]
    refine wp_mono (wp_recoverAttempts 2 y) ?_ fun _ h => h
    rintro r z ⟨hz, hlevels⟩
    have hoff' : z.1.Off := by
      unfold Off
      rw [hlevels]
      exact hoff
    rcases r with _ | ⟨rate, us⟩
    · refine wp_mono (wp_refuse (a := none) hoff' (f := .imu) (by decide)) ?_ fun _ h => h
      rintro _ w ⟨rfl, hw, hoff'', hacc⟩
      exact ⟨hy.trans (hz.trans hw), hoff'', fun _ => hacc, fun h => absurd rfl h⟩
    · dsimp only
      rw [if_neg hmotion]
      refine ⟨hy.trans hz, hoff', fun h => (Option.some_ne_none _ h).elim, ?_⟩
      exact fun _ h => hturn (.inl h)

/-- A sample leaves the pins alone, except when it is missed before a turn. -/
theorem wp_sampleMotionGyro {motion : Movement} (hidle : x.1.drive.active = false)
    (hmotion : motion ≠ .drive) (previousUs : UInt64) :
    wp (sampleMotionGyro motion previousUs)
      (fun r y => Calm x y ∧ (r = none → y.1.Off ∧ Accounted y.1) ∧
        (r ≠ none → y.1.levels = x.1.levels ∨ (motion ≠ .turn ∧ y.1.Off))) R x := by
  unfold sampleMotionGyro
  rw [wp_bind]
  refine wp_mono wp_readGyroDps ?_ fun _ h => h
  rintro (_ | rate) y ⟨hy, hlevels⟩
  · have hidle' : y.1.drive.active = false := by
      rw [hy.drive]
      exact hidle
    refine wp_mono (wp_recoverMotionGyro hidle' hmotion previousUs) ?_ fun _ h => h
    rintro r z ⟨hz, hoff, hnone, hsome⟩
    exact ⟨hy.trans hz, fun h => ⟨hoff, hnone h⟩, fun h => .inr ⟨hsome h, hoff⟩⟩
  · dsimp only
    rw [wp_bind]
    refine wp_mono (wp_robot (wp_ask _)) ?_ fun _ h => h
    rintro us z ⟨hz, hlevels'⟩
    exact ⟨hy.trans hz, fun h => (Option.some_ne_none _ h).elim,
      fun _ => .inl (hlevels'.trans hlevels)⟩

/-- **`read_motion_gyro`** for a turn: when it fails the power is cut and a fault is raised. -/
theorem wp_readMotionGyro {motion : Movement} (hidle : x.1.drive.active = false)
    (hmotion : motion ≠ .drive) (previousUs : UInt64) :
    wp (readMotionGyro motion previousUs)
      (fun r y => Calm x y ∧ (r = none → y.1.Off ∧ Accounted y.1) ∧
        (r ≠ none → y.1.levels = x.1.levels ∨ (motion ≠ .turn ∧ y.1.Off))) R x := by
  unfold readMotionGyro
  rw [wp_bind]
  refine wp_mono (wp_robot wp_poll) ?_ fun _ h => h
  rintro pressed y ⟨hy, hlevels, hpressed⟩
  split
  · rename_i htrue
    rw [wp_bind]
    refine wp_mono (wp_robot (P := fun _ t => t.Off) wp_motorsStop) ?_ fun _ h => h
    rintro - z ⟨hz, hoff⟩
    refine ⟨hy.trans hz, fun _ => ⟨hoff, .stopLatched, by decide, ?_⟩, fun h => absurd rfl h⟩
    exact hz.faults (hpressed.mp htrue)
  · have hidle' : y.1.drive.active = false := by
      rw [hy.drive]
      exact hidle
    rw [wp_bind]
    refine wp_mono (wp_sampleMotionGyro hidle' hmotion previousUs) ?_ fun _ h => h
    rintro (_ | ⟨rate, us⟩) z ⟨hz, hnone, hsome⟩
    · exact ⟨hy.trans hz, fun _ => hnone rfl, fun h => absurd rfl h⟩
    · dsimp only
      split
      · refine wp_mono (Q := fun r w => r = none ∧ Calm z w ∧ w.1.Off ∧ Accounted w.1) ?_ ?_
          fun _ h => h
        · rw [wp_bind]
          refine wp_mono (wp_robot (P := fun _ t => t.Off) wp_motorsStop) ?_ fun _ h => h
          rintro - w ⟨hw, hoff⟩
          refine wp_mono (wp_refuse (a := none) hoff (f := .gyroSaturated) (by decide)) ?_
            fun _ h => h
          rintro _ v ⟨rfl, hv, hoff', hacc⟩
          exact ⟨rfl, hw.trans hv, hoff', hacc⟩
        · rintro _ w ⟨rfl, hw, hoff, hacc⟩
          exact ⟨hy.trans (hz.trans hw), fun _ => ⟨hoff, hacc⟩, fun h => absurd rfl h⟩
      · rw [wp_bind, wp_modify]
        have hcalm := hy.trans hz
        refine ⟨⟨⟨hcalm.outside, hcalm.tick, hcalm.stopArmed, hcalm.faults, hcalm.drive, hcalm.sign,
          hcalm.sleeps⟩, hcalm.turnSign, hcalm.notes⟩, fun h => (Option.some_ne_none _ h).elim, ?_⟩
        intro _
        exact (hsome (Option.some_ne_none _)).imp (fun h => h.trans hlevels) fun h => h

end Commands

end ExactTurn
