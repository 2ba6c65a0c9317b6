/-
# A turn ends, and its result is true

`turn_degrees`, called with the motors off, returns.  The two loops of an attempt, the powered one
and the one that settles, end by their time limits; there are three attempts at most.

* `wp_settleMotion`: settling ends, and a success is noted with the heading it ends at;
* `Driving` is the invariant of the powered loop (`wp_turnStep`): motors that are off cannot be
  powered again before the next attempt;
* `wp_turnSegment` and `wp_turnAttempts`: every attempt powers the motors once.
-/
import GettingThere.TurnClock
import Mathlib.Algebra.Order.Group.Abs
import Mathlib.Data.List.Count

open CrashLogic Robot

namespace ExactTurn

variable {o : Outside}

/-! ## Settling -/

/-- What `settle_motion` does while it goes on. -/
def Settling (x : Turner) (_ : UInt64) (y : Turner) : Prop := Calm x y ∧ y.1.Off

theorem wp_sleepMs {x : Turner} {R : Turner → Prop} :
    wp sleepMs (fun _ y => Calm x y ∧ y.1.levels = x.1.levels ∧ y.1.faults = x.1.faults ∧
      y.1.tick = x.1.tick ∧ y.1.tick ∈ y.2.sleeps) R x :=
  ⟨⟨⟨rfl, le_rfl, rfl, Finset.Subset.refl _, rfl, fun _ => rfl, List.subset_cons_self _ _⟩, rfl, rfl⟩,
    rfl, rfl, rfl, List.mem_cons_self⟩

/-- A round of settling. -/
theorem wp_settleStep {x y : Turner} {R : Turner → Prop} {start : UInt32} {previousUs : UInt64}
    (hidle : x.1.drive.active = false) (hy : Calm x y) (hoff : y.1.Off) :
    wp (settleStep .turn start previousUs)
      (fun r z => r.elim (fun b => Settling x b z ∧ Round start 300 y z)
        fun c => Calm x z ∧ z.1.Off ∧ (c.2 = false → Accounted z.1)) R y := by
  unfold settleStep
  rw [wp_bind]
  refine wp_mono (wp_robot wp_nowMs) ?_ fun _ h => h
  rintro now z ⟨hz, hlevels, htick, rfl⟩
  have hoff' : z.1.Off := by
    unfold Off
    rw [hlevels]
    exact hoff
  split
  · exact ⟨hy.trans hz, hoff', fun h => (Bool.false_ne_true h.symm).elim⟩
  · rename_i hchecked
    have hidle' : z.1.drive.active = false := by
      rw [hz.drive, hy.drive]
      exact hidle
    rw [wp_bind]
    refine wp_mono (wp_readMotionGyro hidle' (by decide) previousUs) ?_ fun _ h => h
    rintro (_ | ⟨rate, us⟩) w ⟨hw, hnone, hsome⟩
    · obtain ⟨hoff'', hacc⟩ := hnone rfl
      exact ⟨hy.trans (hz.trans hw), hoff'', fun _ => hacc⟩
    · have hlevels' : w.1.levels = z.1.levels :=
        (hsome (Option.some_ne_none _)).resolve_right fun h => h.1 rfl
      dsimp only
      rw [wp_bind]
      refine wp_mono wp_sleepMs ?_ fun _ h => h
      rintro - v ⟨hv, hlevels'', -, htick', hslept⟩
      have hcalm := hz.trans (hw.trans hv)
      refine ⟨⟨hy.trans hcalm, ?_⟩, hcalm.toOnward, UInt32.not_le.mp hchecked, ?_, hslept⟩
      · unfold Off
        rw [hlevels'', hlevels']
        exact hoff'
      · rw [htick']
        exact htick.trans_le hw.tick

/-- **`settle_motion`** ends; a failure has raised a fault, and a success is noted with the
heading it ends at. -/
theorem wp_settleMotion {x : Turner} {previousUs : UInt64} (ho : x.1.outside = o)
    (hrounds : 1200 < o.rounds) (hpark : Parked x.1) :
    wp (settleMotion .turn previousUs)
      (fun r y => Onward x y ∧ y.1.turnSign = x.1.turnSign ∧ y.1.Off ∧
        (r.2 = false → y.2.notes = x.2.notes ∧ Accounted y.1) ∧
        (r.2 = true → y.2.notes = .settled y.2.headingDegrees :: x.2.notes)) (Late o) x := by
  unfold settleMotion
  rw [wp_bind]
  refine wp_mono (wp_robot wp_nowMs) ?_ fun _ h => h
  rintro start y ⟨hy, hlevels, -⟩
  have hoff : y.1.Off := by
    unfold Off
    rw [hlevels]
    exact hpark.off
  have hidle : y.1.drive.active = false := by
    rw [hy.drive]
    exact hpark.idle
  rw [wp_bind]
  refine wp_mono (wp_loop (P := Settling y)
    (Q := fun c z => Calm y z ∧ z.1.Off ∧ (c.2 = false → Accounted z.1)) (hy.outside.trans ho)
    (by decide) hrounds (fun us => (settleStep_asks start us).mono (by decide))
    (fun _ _ hz => wp_settleStep hidle hz.1 hz.2) ⟨Calm.refl y, hoff⟩) ?_ fun _ h => h
  rintro ⟨us, ok⟩ z ⟨hz, hoff', hfail⟩
  cases ok with
  | false =>
    have hcalm := hy.trans hz
    exact ⟨hcalm.toOnward, hcalm.turnSign, hoff', fun _ => ⟨hcalm.notes, hfail rfl⟩,
      fun h => (Bool.false_ne_true h).elim⟩
  | true =>
    have hidle' : z.1.drive.active = false := by
      rw [hz.drive]
      exact hidle
    dsimp only
    rw [Bool.not_true, if_neg Bool.false_ne_true, wp_bind]
    refine wp_mono (wp_readMotionGyro hidle' (by decide) us) ?_ fun _ h => h
    rintro (_ | ⟨rate, us'⟩) w ⟨hw, hnone, hsome⟩
    · obtain ⟨hoff'', hacc⟩ := hnone rfl
      have hcalm := hy.trans (hz.trans hw)
      exact ⟨hcalm.toOnward, hcalm.turnSign, hoff'', fun _ => ⟨hcalm.notes, hacc⟩,
        fun h => (Bool.false_ne_true h).elim⟩
    · have hlevels' : w.1.levels = z.1.levels :=
        (hsome (Option.some_ne_none _)).resolve_right fun h => h.1 rfl
      have hcalm := hy.trans (hz.trans hw)
      refine ⟨⟨hcalm.outside, hcalm.tick, hcalm.stopArmed, hcalm.faults, hcalm.drive, hcalm.sign,
        hcalm.sleeps⟩, hcalm.turnSign, ?_, fun h => (Bool.false_ne_true h.symm).elim, fun _ => ?_⟩
      · unfold Off
        exact hlevels' ▸ hoff'
      · exact congrArg (List.cons _) hcalm.notes

/-! ## The powered loop -/

/-- **`motors_set`** with a duty powers the motors once, and not again. -/
theorem wp_motorsSet_noted {left right : ℤ} {x : Turner} {R : Turner → Prop} (hleft : left ≠ 0) :
    wp (motorsSet left right)
      (fun _ y => Onward x y ∧ y.1.turnSign = x.1.turnSign ∧ (y.1.Off → Blocked y.1) ∧
        (y.2.notes = x.2.notes ∨ (y.2.notes = .powered :: x.2.notes ∧ (x.1.Off → ¬ Blocked x.1)) ∧
          x.1.Off)) R x := by
  unfold motorsSet
  rw [wp_bind, wp_get, wp_bind]
  refine wp_mono (wp_robot (P := fun _ t => t.Off ↔ Blocked t) (wp_motorsSet hleft)) ?_ fun _ h => h
  rintro - y ⟨hy, hblocked⟩
  rw [wp_bind, wp_get]
  split
  · rename_i hedge
    rw [Bool.and_eq_true, Bool.not_eq_true', ← Bool.not_eq_true, stopped_iff, stopped_iff] at hedge
    refine ⟨⟨hy.outside, hy.tick, hy.stopArmed, hy.faults, hy.drive, hy.sign, hy.sleeps⟩, hy.turnSign,
      hblocked.mp, .inr ⟨⟨congrArg (List.cons _) hy.notes, fun _ hb => hedge.2 ?_⟩, hedge.1⟩⟩
    rw [hblocked]
    exact hb.imp (fun ha => hy.stopArmed.trans ha) fun hl => hy.faults hl
  · exact ⟨hy.toOnward, hy.turnSign, hblocked.mp, .inl hy.notes⟩

/-- The state in the powered loop of an attempt that started in `x`, in a turn that started at
`startMs`. -/
structure Driving (startMs : UInt32) (attempt : ℕ) (x : Turner) (g : Segment) (y : Turner) :
    Prop extends Onward x y where
  notes : y.2.notes = x.2.notes
  blocked : y.1.Off → Blocked y.1
  timer : g.startMs = startMs
  attempt_eq : g.attempt = attempt
  direction : g.direction ≠ 0
  known : 0 < attempt → y.1.turnSign ≠ .unknown

variable {startMs : UInt32}

/-- A command that leaves the pins and the sign alone keeps the invariant of the loop. -/
theorem Driving.of_calm {attempt : ℕ} {x y z : Turner} {g : Segment}
    (h : Driving startMs attempt x g y) (hyz : Calm y z) (hlevels : z.1.levels = y.1.levels) :
    Driving startMs attempt x g z := by
  refine ⟨h.toOnward.trans hyz.toOnward, hyz.notes.trans h.notes, ?_, h.timer, h.attempt_eq,
    h.direction, ?_⟩
  · unfold Off
    rw [hlevels]
    exact fun hoff =>
      (h.blocked hoff).imp (fun ha => hyz.stopArmed.trans ha) fun hl => hyz.faults hl
  · intro hpos
    rw [hyz.turnSign]
    exact h.known hpos

theorem turnDuty_ne_zero (remaining : ℚ) : turnDuty remaining ≠ 0 := by
  unfold turnDuty turnSlowDutyPercent turnDutyPercent
  split
  · decide
  · decide

theorem Segment.observe_startMs (g : Segment) (z : ℚ) : (g.observe z).startMs = g.startMs := by
  unfold Segment.observe
  split_ifs <;> rfl

theorem Segment.observe_attempt (g : Segment) (z : ℚ) : (g.observe z).attempt = g.attempt := by
  unfold Segment.observe
  split_ifs <;> rfl

theorem Segment.observe_direction (g : Segment) (z : ℚ) :
    (g.observe z).direction = g.direction := by
  unfold Segment.observe
  split_ifs <;> rfl

/-- **Learning the sign** changes nothing else. -/
theorem wp_learnSign {attempt : ℕ} {x y : Turner} {g : Segment} {R : Turner → Prop}
    (h : Driving startMs attempt x g y) (z : ℚ) :
    wp (learnSign g z)
      (fun g' w => Driving startMs attempt x g' w ∧ Onward y w ∧ w.1.tick = y.1.tick) R y := by
  have h' : Driving startMs attempt x (g.observe z) y :=
    ⟨h.toOnward, h.notes, h.blocked, (g.observe_startMs z).trans h.timer,
      (g.observe_attempt z).trans h.attempt_eq,
      (g.observe_direction z).symm ▸ h.direction, h.known⟩
  unfold learnSign
  rw [wp_bind, wp_get]
  split
  · exact ⟨h, Onward.refl y, rfl⟩
  · rename_i hunknown
    rw [not_not] at hunknown
    have hturn (sign : TurnSign) : Onward y ({ y.1 with turnSign := sign }, y.2) :=
      ⟨rfl, le_rfl, rfl, Finset.Subset.refl _, rfl, fun hknown => absurd hunknown hknown,
        List.Subset.refl _⟩
    dsimp only
    split
    · rw [wp_bind]
      refine ⟨⟨h.toOnward.trans (hturn _), h.notes, h.blocked, h'.timer, h'.attempt_eq,
        h'.direction, ?_⟩,
        hturn _, rfl⟩
      exact fun hpos => absurd hunknown (h.known hpos)
    · exact ⟨h', Onward.refl y, rfl⟩

/-- The powered loop has been left: it has failed, or the sign is known. -/
structure Left (x : Turner) (left : Option UInt64) (y : Turner) : Prop extends Onward x y where
  notes : y.2.notes = x.2.notes
  failed : left = none → y.1.Off ∧ Accounted y.1
  known : left ≠ none → y.1.turnSign ≠ .unknown

/-- What one round of the powered loop leads to, from `y` on. -/
def Turned (startMs : UInt32) (attempt : ℕ) (x y : Turner) (r : Segment ⊕ Option UInt64)
    (z : Turner) : Prop :=
  r.elim (fun g => Driving startMs attempt x g z ∧ Onward y z ∧ z.1.tick ∈ z.2.sleeps) fun left =>
    Left x left z

/-- A round that fails. -/
theorem wp_turned_fail {D : Segment → Turner → Prop} {x z : Turner} {f : Fault}
    {R : Turner → Prop} (hf : f ∈ [Fault.stopLatched, .imu, .gyroSaturated, .turn, .heading])
    (hxz : Onward x z) (hnotes : z.2.notes = x.2.notes) :
    wp (do onFirst (failTurn f); pure (.inr none) : Cmd Turner (Segment ⊕ Option UInt64))
      (fun r w => r.elim (fun g => D g w) fun left => Left x left w) R z := by
  rw [wp_bind]
  refine wp_mono (wp_failTurn hf) ?_ fun _ h => h
  rintro - w ⟨hw, hoff, hacc⟩
  exact ⟨hxz.trans hw.toOnward, hw.notes.trans hnotes, fun _ => ⟨hoff, hacc⟩, fun h => absurd rfl h⟩

/-- The motors go on. -/
theorem wp_powerTurn {attempt : ℕ} {x y z : Turner} {g : Segment} {R : Turner → Prop}
    (h : Driving startMs attempt x g z) (hyz : Onward y z) (remaining : ℚ) :
    wp (powerTurn g remaining) (Turned startMs attempt x y) R z := by
  have hduty : -g.direction * turnDuty remaining ≠ 0 :=
    mul_ne_zero (neg_ne_zero.mpr h.direction) (turnDuty_ne_zero remaining)
  unfold powerTurn
  rw [wp_bind]
  refine wp_mono (wp_motorsSet_noted hduty) ?_ fun _ h => h
  rintro - w ⟨hw, hsign, hblocked, hnotes⟩
  -- the motors are on already, or they cannot be powered
  have hsame : w.2.notes = z.2.notes := by
    rcases hnotes with heq | ⟨⟨-, hfree⟩, hoff⟩
    · exact heq
    · exact absurd (h.blocked hoff) (hfree hoff)
  rw [wp_bind]
  refine wp_mono wp_sleepMs ?_ fun _ h => h
  rintro - v ⟨hv, hlevels, hfaults, -, hslept⟩
  have hon := hw.trans hv.toOnward
  refine ⟨⟨h.toOnward.trans hon, hv.notes.trans (hsame.trans h.notes), ?_, h.timer, h.attempt_eq,
    h.direction, ?_⟩, hyz.trans hon, hslept⟩
  · unfold Off Blocked
    rw [hlevels, hfaults, hv.stopArmed]
    exact hblocked
  · intro hpos
    rw [hv.turnSign, hsign]
    exact h.known hpos

/-- **A round of the powered loop** after its sample. -/
theorem wp_steerTurn {attempt : ℕ} {x y : Turner} {g : Segment} {R : Turner → Prop}
    (h : Driving startMs attempt x g y) (z : ℚ) :
    wp (steerTurn g z) (Turned startMs attempt x y) R y := by
  unfold steerTurn
  rw [wp_bind]
  refine wp_mono (wp_learnSign h z) ?_ fun _ h => h
  rintro g w ⟨hw, hyw, -⟩
  rw [wp_bind, wp_get]
  dsimp only
  split
  · rename_i hreached
    exact ⟨hw.toOnward, hw.notes, fun h => (Option.some_ne_none _ h).elim, fun _ => hreached.1⟩
  split
  · exact wp_turned_fail (f := .heading) (by decide) hw.toOnward hw.notes
  rw [wp_bind]
  refine wp_mono (wp_robot wp_nowMs) ?_ fun _ h => h
  rintro now v ⟨hv, hlevels, -⟩
  have hdriving := hw.of_calm hv hlevels
  have hyv := hyw.trans hv.toOnward
  split
  · exact wp_turned_fail (f := .turn) (by decide) hdriving.toOnward hdriving.notes
  split
  · rename_i hpos
    rw [wp_bind]
    refine wp_mono (wp_robot wp_nowMs) ?_ fun _ h => h
    rintro now' u ⟨hu, hlevels', -⟩
    have hdriving' := hdriving.of_calm hu hlevels'
    split
    · refine ⟨hdriving'.toOnward, hdriving'.notes, fun h => (Option.some_ne_none _ h).elim, ?_⟩
      intro _
      exact hdriving'.known (hdriving.attempt_eq ▸ hpos)
    · exact wp_powerTurn hdriving' (hyv.trans hu.toOnward) _
  · exact wp_powerTurn hdriving hyv _

/-- **A round of the powered loop**. -/
theorem wp_turnStep {attempt : ℕ} {x y : Turner} {g : Segment} {R : Turner → Prop}
    (h : Driving startMs attempt x g y) (hidle : x.1.drive.active = false) :
    wp (turnStep g)
      (fun r z => r.elim (fun g => Driving startMs attempt x g z ∧ Round startMs 6000 y z)
        fun left => Left x left z) R y := by
  unfold turnStep
  rw [wp_bind]
  refine wp_mono (wp_robot wp_nowMs) ?_ fun _ h => h
  rintro now z ⟨hz, hlevels, htick, rfl⟩
  have hz' := h.of_calm hz hlevels
  split
  · exact wp_turned_fail (f := .turn) (by decide) hz'.toOnward hz'.notes
  · rename_i hchecked
    have hidle' : z.1.drive.active = false := by
      rw [hz'.drive]
      exact hidle
    rw [wp_bind]
    refine wp_mono (wp_readMotionGyro hidle' (by decide) _) ?_ fun _ h => h
    rintro (_ | ⟨rate, us⟩) w ⟨hw, hnone, hsome⟩
    · exact ⟨hz'.toOnward.trans hw.toOnward, hw.notes.trans hz'.notes, fun _ => hnone rfl,
        fun h => absurd rfl h⟩
    · have hlevels' : w.1.levels = z.1.levels :=
        (hsome (Option.some_ne_none _)).resolve_right fun h => h.1 rfl
      have hw' := hz'.of_calm hw hlevels'
      have hw'' : Driving startMs attempt x { g with previousUs := us } w :=
        ⟨hw'.toOnward, hw'.notes, hw'.blocked, hw'.timer, hw'.attempt_eq, hw'.direction, hw'.known⟩
      refine wp_mono (wp_steerTurn hw'' rate) ?_ fun _ h => h
      rintro (g' | left) v hv
      · obtain ⟨hdriving, hwv, hslept⟩ := hv
        have hyv := hz.toOnward.trans (hw.toOnward.trans hwv)
        refine ⟨hdriving, hyv, ?_, htick.trans_le (hw.tick.trans hwv.tick), hslept⟩
        rw [← h.timer]
        exact UInt32.not_le.mp hchecked
      · exact hv

/-! ## The attempts -/

/-- What an attempt starts from. -/
structure Attempting (degrees startHeading : ℚ) (attempt : ℕ) (x : Turner) : Prop where
  parked : Parked x.1
  known : 0 < attempt → x.1.turnSign ≠ .unknown
  missed : 0 < attempt →
    ¬ (turnError degrees startHeading x ≤ 2 ∧ -2 ≤ turnError degrees startHeading x)

/-- What a segment ends with: it is the last one, unless it has settled and the sign is known. -/
structure Segmented (x : Turner) (r : Option UInt64) (y : Turner) : Prop extends Onward x y where
  off : y.1.Off
  failed : r = none → Accounted y.1
  known : r ≠ none → y.1.turnSign ≠ .unknown
  noted : ∃ new, y.2.notes = new ++ x.2.notes ∧ new.count .powered ≤ 1 ∧
    (r ≠ none → ∃ past, new = .settled y.2.headingDegrees :: past)

/-- The end of a segment: the motors are cut, and the robot settles. -/
theorem wp_endSegment {x w : Turner} (ho : x.1.outside = o) (hrounds : 1200 < o.rounds)
    (hidle : x.1.drive.active = false) (hw : Onward x w) (hknown : w.1.turnSign ≠ .unknown)
    {powered : List Note} (hnotes : w.2.notes = powered ++ x.2.notes)
    (hcount : powered.count .powered ≤ 1)
    (hone : ∀ h, (Note.settled h :: powered).count .powered ≤ 1) (us : UInt64) :
    wp (do
      onFirst motorsStop
      let (us, ok) ← settleMotion .turn us
      return if ok then some us else none) (Segmented x) (Late o) w := by
  rw [wp_bind]
  refine wp_mono (wp_robot (P := fun _ t => t.Off) wp_motorsStop) ?_ fun _ h => h
  rintro - v ⟨hv, hoff⟩
  have hxv := hw.trans hv.toOnward
  have hpark : Parked v.1 := by
    refine ⟨hoff, ?_⟩
    rw [hxv.drive]
    exact hidle
  rw [wp_bind]
  refine wp_mono (wp_settleMotion (hxv.outside.trans ho) hrounds hpark) ?_ fun _ h => h
  rintro ⟨us', ok⟩ u ⟨hu, husign, huoff, hfailed, hsettled⟩
  have hnotes' : v.2.notes = powered ++ x.2.notes := hv.notes.trans hnotes
  cases ok with
  | false =>
    obtain ⟨hsame, hacc⟩ := hfailed rfl
    exact ⟨hxv.trans hu, huoff, fun _ => hacc, fun h => absurd rfl h,
      powered, hsame.trans hnotes', hcount, fun h => absurd rfl h⟩
  | true =>
    refine ⟨hxv.trans hu, huoff, fun h => (Option.some_ne_none _ h).elim, fun _ => ?_,
      .settled u.2.headingDegrees :: powered, ?_, hone _, fun _ => ⟨powered, rfl⟩⟩
    · rw [husign, hv.turnSign]
      exact hknown
    · rw [hsettled rfl, hnotes', List.cons_append]

/-- **A segment** powers the motors once, and ends with both motors off. -/
theorem wp_turnSegment {degrees startHeading : ℚ} {startMs : UInt32} {attempt : ℕ}
    {previousUs : UInt64} {x : Turner} (ho : x.1.outside = o) (hrounds : 1200 < o.rounds)
    (hx : Attempting degrees startHeading attempt x) :
    wp (turnSegment degrees startHeading startMs attempt previousUs) (Segmented x) (Late o) x := by
  unfold turnSegment
  rw [wp_bind, wp_get]
  dsimp only
  generalize hdirection : (if 0 < turnError degrees startHeading x then (1 : ℤ) else -1) = direction
  have hne : direction ≠ 0 := by
    rw [← hdirection]
    split
    · decide
    · decide
  rw [wp_bind]
  refine wp_mono (wp_robot wp_nowMs) ?_ fun _ h => h
  rintro segmentMs y ⟨hy, -, -⟩
  have hduty (r : ℚ) : -direction * turnDuty r ≠ 0 :=
    mul_ne_zero (neg_ne_zero.mpr hne) (turnDuty_ne_zero r)
  rw [wp_bind]
  refine wp_mono (wp_motorsSet_noted (hduty _)) ?_ fun _ h => h
  rintro - z ⟨hz, hsign, hblocked, hnotes⟩
  have hxz := hy.toOnward.trans hz
  obtain ⟨powered, hpowered, hcount, hone⟩ : ∃ new, z.2.notes = new ++ x.2.notes ∧
      new.count .powered ≤ 1 ∧ ∀ h, (Note.settled h :: new).count .powered ≤ 1 := by
    rw [hy.notes] at hnotes
    rcases hnotes with heq | ⟨⟨heq, -⟩, -⟩
    · exact ⟨[], heq, by decide, fun _ => by simp⟩
    · exact ⟨[.powered], heq, by decide, fun _ => by simp⟩
  have hidle : z.1.drive.active = false := by
    rw [hxz.drive]
    exact hx.parked.idle
  have hknown : 0 < attempt → z.1.turnSign ≠ .unknown := by
    rw [hsign, hy.turnSign]
    exact hx.known
  rw [wp_bind]
  refine wp_mono (wp_loop (P := Driving startMs attempt z) (Q := Left z) (hxz.outside.trans ho)
    (by decide) hrounds (fun g => (turnStep_asks g).mono (by decide))
    (fun _ _ hw => wp_turnStep hw hidle)
    ⟨Onward.refl z, rfl, hblocked, rfl, rfl, hne, hknown⟩) ?_ fun _ h => h
  rintro (_ | us) w hw
  · obtain ⟨hoff, hacc⟩ := hw.failed rfl
    exact ⟨hxz.trans hw.toOnward, hoff, fun _ => hacc, fun h => absurd rfl h,
      powered, hw.notes.trans hpowered, hcount, fun h => absurd rfl h⟩
  · exact wp_endSegment ho hrounds hx.parked.idle (hxz.trans hw.toOnward)
      (hw.known (Option.some_ne_none _)) (hw.notes.trans hpowered) hcount hone us

/-- A line of the report. -/
theorem wp_reportLine {R : Turner → Prop} (y : Turner) :
    wp (onFirst reportPrintf) (fun _ z => Calm y z ∧ z = (acted .line y.1, y.2)) R y :=
  ⟨⟨⟨rfl, le_rfl, rfl, Finset.Subset.refl _, rfl, fun _ => rfl, List.Subset.refl _⟩, rfl, rfl⟩, rfl⟩

/-- What the attempts end with. -/
structure Ended (degrees startHeading : ℚ) (attempt n : ℕ) (x : Turner) (ok : Bool) (y : Turner) :
    Prop where
  off : y.1.Off
  failed : ok = false → Accounted y.1
  known : ok = true → y.1.turnSign ≠ .unknown
  reached : ok = true → |turnError degrees startHeading y| ≤ 2
  noted : ∃ new, y.2.notes = new ++ x.2.notes ∧ new.count .powered ≤ n ∧
    (ok = true → (attempt = 0 ∧ new = []) ∨ ∃ past, new = .settled y.2.headingDegrees :: past)

/-- A turn that fails has raised a fault, and was powered `n` times at most. -/
theorem Ended.fail {degrees startHeading : ℚ} {attempt n : ℕ} {x y : Turner} (hoff : y.1.Off)
    (hacc : Accounted y.1) {new : List Note} (hnew : y.2.notes = new ++ x.2.notes)
    (hcount : new.count .powered ≤ n) : Ended degrees startHeading attempt n x false y :=
  ⟨hoff, fun _ => hacc, fun h => (Bool.false_ne_true h).elim,
    fun h => (Bool.false_ne_true h).elim, new, hnew, hcount,
    fun h => (Bool.false_ne_true h).elim⟩

/-- A segment that has settled, and the attempts after it. -/
theorem Ended.next {degrees startHeading : ℚ} {attempt n : ℕ} {x y z w : Turner} {us : UInt64}
    {ok : Bool} (hw : Ended degrees startHeading (attempt + 1) n z ok w)
    (hz : z.2.notes = y.2.notes) (hy : Segmented x (some us) y) :
    Ended degrees startHeading attempt (n + 1) x ok w := by
  obtain ⟨new, hnew, hcount, -⟩ := hy.noted
  obtain ⟨new', hnew', hcount', hlast⟩ := hw.noted
  refine ⟨hw.off, hw.failed, hw.known, hw.reached, new' ++ new, ?_, ?_, ?_⟩
  · rw [hnew', hz, hnew, List.append_assoc]
  · rw [List.count_append]
    omega
  · intro hok
    rcases hlast hok with ⟨hzero, -⟩ | ⟨past', hpast'⟩
    · exact absurd hzero (Nat.succ_ne_zero attempt)
    · exact .inr ⟨past' ++ new, by rw [hpast', List.cons_append]⟩

/-- **The attempts of a turn** power the motors once each. -/
theorem wp_turnAttempts (degrees startHeading : ℚ) (startMs : UInt32)
    (hrounds : 1200 < o.rounds) :
    ∀ (n attempt : ℕ) (previousUs : UInt64) (x : Turner), x.1.outside = o →
      Attempting degrees startHeading attempt x →
      wp (turnAttempts degrees startHeading startMs n attempt previousUs)
        (Ended degrees startHeading attempt n x) (Late o) x := by
  intro n
  induction n with
  | zero =>
    intro attempt previousUs x ho hx
    unfold turnAttempts
    rw [wp_bind]
    refine wp_mono (wp_failTurn (f := .turn) (by decide)) ?_ fun _ h => h
    rintro - y ⟨hy, hoff, hacc⟩
    have hsame : y.2.notes = [] ++ x.2.notes := hy.notes
    exact Ended.fail hoff hacc hsame (Nat.le_refl _)
  | succ n ih =>
    intro attempt previousUs x ho hx
    unfold turnAttempts
    rw [wp_bind, wp_get]
    dsimp only
    split
    · rename_i hreached
      have hfirst : attempt = 0 := by
        rcases Nat.eq_zero_or_pos attempt with hzero | hpos
        · exact hzero
        · exact absurd hreached.2 (hx.missed hpos)
      exact ⟨hx.parked.off, fun h => (Bool.false_ne_true h.symm).elim,
        fun _ => hreached.1, fun _ => abs_le.mpr ⟨hreached.2.2, hreached.2.1⟩,
        [], rfl, Nat.zero_le _, fun _ => .inl ⟨hfirst, rfl⟩⟩
    rw [wp_bind]
    refine wp_mono (wp_turnSegment ho hrounds hx) ?_ fun _ h => h
    rintro (_ | us) y hy
    · obtain ⟨new, hnew, hcount, -⟩ := hy.noted
      exact Ended.fail hy.off (hy.failed rfl) hnew (hcount.trans (Nat.le_add_left 1 n))
    · obtain ⟨new, hnew, hcount, hsettled⟩ := hy.noted
      obtain ⟨past, hpast⟩ := hsettled (Option.some_ne_none _)
      have hknown := hy.known (Option.some_ne_none _)
      dsimp only
      rw [wp_bind, wp_get, wp_bind]
      refine wp_mono (wp_reportLine y) ?_ fun _ h => h
      rintro - z ⟨hz, rfl⟩
      split
      · rename_i hreached
        exact ⟨hy.off, fun h => (Bool.false_ne_true h.symm).elim, fun _ => hknown,
          fun _ => abs_le.mpr ⟨hreached.2, hreached.1⟩,
          new, hnew, hcount.trans (Nat.le_add_left 1 n), fun _ => .inr ⟨past, hpast⟩⟩
      · rename_i hmissed
        have hnext : Attempting degrees startHeading (attempt + 1) (acted .line y.1, y.2) := by
          refine ⟨⟨hy.off, ?_⟩, fun _ => hknown, fun _ => hmissed⟩
          rw [hz.drive, hy.drive]
          exact hx.parked.idle
        refine wp_mono (ih (attempt + 1) us _ (hz.outside.trans (hy.outside.trans ho)) hnext) ?_
          fun _ h => h
        exact fun ok w hw => Ended.next (y := y) hw rfl hy

/-! ## The turn -/

/-- The turn has been made, `new` being its notes: there was nothing to turn; or, in the learnt
sign, the heading has changed by the commanded angle within 2 degrees, as it was measured before
any motion or after settling. -/
def Made (degrees : ℚ) (new : List Note) (y : Turner) : Prop :=
  (degrees = 0 ∧ new = []) ∨
    (y.1.turnSign ≠ .unknown ∧ ∃ startHeading,
      |degrees - turnSign y.1.turnSign * (y.2.headingDegrees - startHeading)| ≤ 2 ∧
        (new = [.started startHeading] ∨
          ∃ past, new = .settled y.2.headingDegrees :: past ++ [.started startHeading]))

/-- What `turn_degrees` ends with. -/
def Finished (degrees : ℚ) (x : Turner) (ok : Bool) (y : Turner) : Prop :=
  y.1.Off ∧ (ok = false → Accounted y.1) ∧
    ∃ new, y.2.notes = new ++ x.2.notes ∧ new.count .powered ≤ 3 ∧ (ok = true → Made degrees new y)

/-- The attempts of a turn end it. -/
theorem Ended.finished {degrees startHeading : ℚ} {x u t : Turner} {ok : Bool}
    (ht : Ended degrees startHeading 0 3 u ok t)
    (hnotes : u.2.notes = [.started startHeading] ++ x.2.notes) : Finished degrees x ok t := by
  obtain ⟨new, hnew, hcount, hlast⟩ := ht.noted
  refine ⟨ht.off, ht.failed, new ++ [.started startHeading], ?_, ?_, ?_⟩
  · rw [hnew, hnotes, List.append_assoc]
  · rw [List.count_append, List.count_singleton]
    simpa using hcount
  · intro hok
    refine .inr ⟨ht.known hok, startHeading, ht.reached hok, ?_⟩
    rcases hlast hok with ⟨-, rfl⟩ | ⟨past, rfl⟩
    · exact .inl rfl
    · exact .inr ⟨past, rfl⟩

theorem wp_turnDegrees (degrees : ℚ) {x : Turner} (hpark : Parked x.1)
    (hrounds : 1200 < x.1.outside.rounds) :
    wp (turnDegrees degrees) (Finished degrees x) (Late x.1.outside) x := by
  unfold turnDegrees
  rw [wp_bind]
  refine wp_mono (wp_robot wp_poll) ?_ fun _ h => h
  rintro pressed y ⟨hy, hlevels, hpressed⟩
  have hoff : y.1.Off := by
    unfold Off
    rw [hlevels]
    exact hpark.off
  split
  · rename_i htrue
    rw [wp_bind]
    refine wp_mono (wp_robot (P := fun _ t => t.Off) wp_motorsStop) ?_ fun _ h => h
    rintro - z ⟨hz, hoff'⟩
    refine ⟨hoff', fun _ => ⟨.stopLatched, by decide, hz.faults (hpressed.mp htrue)⟩, [],
      hz.notes.trans hy.notes, Nat.zero_le _, fun h => (Bool.false_ne_true h).elim⟩
  split
  · rename_i hzero
    exact ⟨hoff, fun h => (Bool.false_ne_true h.symm).elim, [], hy.notes, Nat.zero_le _,
      fun _ => .inl ⟨hzero, rfl⟩⟩
  rw [wp_bind]
  refine wp_mono (wp_robot (wp_ask _)) ?_ fun _ h => h
  rintro preflightUs z ⟨hz, hlevels'⟩
  have hxz := hy.trans hz
  have hidle : z.1.drive.active = false := by
    rw [hxz.drive]
    exact hpark.idle
  rw [wp_bind]
  refine wp_mono (wp_readMotionGyro hidle (by decide) preflightUs) ?_ fun _ h => h
  rintro (_ | sample) w ⟨hw, hnone, hsome⟩
  · obtain ⟨hoff', hacc⟩ := hnone rfl
    exact ⟨hoff', fun _ => hacc, [], hw.notes.trans hxz.notes, Nat.zero_le _,
      fun h => (Bool.false_ne_true h).elim⟩
  have hoff' : w.1.Off := by
    rcases hsome (Option.some_ne_none _) with hsame | ⟨-, hcut⟩
    · unfold Off
      rw [hsame, hlevels']
      exact hoff
    · exact hcut
  dsimp only
  unfold note
  rw [wp_bind, wp_get, wp_bind, wp_modify, wp_bind]
  refine wp_mono (wp_robot wp_nowMs) ?_ fun _ h => h
  rintro startMs v ⟨hv, hvl, -⟩
  rw [wp_bind]
  refine wp_mono (wp_robot (wp_ask _)) ?_ fun _ h => h
  rintro previousUs u ⟨hu, hul⟩
  have hwu := hv.trans hu
  have hstart : Attempting degrees w.2.headingDegrees 0 u := by
    refine ⟨⟨?_, ?_⟩, fun h => absurd h (Nat.lt_irrefl 0), fun h => absurd h (Nat.lt_irrefl 0)⟩
    · unfold Off
      rw [hul, hvl]
      exact hoff'
    · rw [hwu.drive]
      exact hw.drive.symm ▸ hidle
  have ho : u.1.outside = x.1.outside := hwu.outside.trans (hw.outside.trans hxz.outside)
  refine wp_mono (wp_turnAttempts degrees _ startMs hrounds 3 0 previousUs u ho hstart) ?_
    fun _ h => h
  have hnotes : u.2.notes = [.started w.2.headingDegrees] ++ x.2.notes := by
    rw [hwu.notes]
    exact congrArg (List.cons _) (hw.notes.trans hxz.notes)
  exact fun ok t ht => ht.finished hnotes

/-- **A turn ends, and its result is true.** `turn_degrees`, called with the motors off and no
drive under way, returns, and none of its loops takes more than 1201 rounds: it has powered the
motors three times at most and they are off; when it returns true the turn has been made, and when
it returns false STOP is latched or a fault is raised. -/
theorem turnDegrees_settles (degrees : ℚ) (x : Turner) (hoff : x.1.Off)
    (hidle : x.1.drive.active = false) (hrounds : 1200 < x.1.outside.rounds)
    (hclock : ClockAdvances x.1.outside (exec (turnDegrees degrees) x).2.2.sleeps) :
    ∃ ok y, exec (turnDegrees degrees) x = (some ok, y) ∧ y.1.Off ∧
      (ok = false → Accounted y.1) ∧
      ∃ new, y.2.notes = new ++ x.2.notes ∧ new.count .powered ≤ 3 ∧
        (ok = true → Made degrees new y) := by
  have hrun := wp_turnDegrees degrees ⟨hoff, hidle⟩ hrounds
  unfold wp at hrun
  rcases hexec : exec (turnDegrees degrees) x with ⟨_ | ok, y⟩
  · rw [hexec] at hrun hclock
    exact absurd hclock hrun
  · rw [hexec] at hrun
    exact ⟨ok, y, rfl, hrun⟩

/-! ## A turn of ten degrees -/

/-- A clock that takes 5 ms from one moment to the next, and a gyro that turns at 100 degrees a
second for the first 25 moments. -/
def tenDegrees : Turner :=
  ({ Robot.powerOn
      { gp21 := fun _ => false, gp21Callback := fun _ => false,
        timeUs := fun k => UInt64.ofNat (5000 * k), imuInit := fun _ => true,
        gyroZ := fun _ => none, verifyConfig := fun _ => true, reportOk := fun _ => true,
        scanError := fun _ => false, scanActive := fun _ => false, scanResult := fun _ => (0, true),
        rounds := 1201, movingSamples := false } (fun _ => 0) with
      stopArmed := true, turnSign := .positive },
    { rate := fun k => if k < 25 then some 100 else some 0, headingDegrees := 0,
      uncertaintyDegrees := 0, sleeps := [], notes := [] })

theorem elapsedUs_tenDegrees (k : ℕ) : elapsedUs tenDegrees.1.outside k (k + 1) = 5000 := by
  have hshown (n : ℕ) : (tenDegrees.1.outside.timeUs n).toNat = 5000 * n % 2 ^ 64 :=
    UInt64.toNat_ofNat'
  unfold elapsedUs
  rw [UInt64.toNat_sub, hshown, hshown]
  omega

/-- It is made with one powered segment. -/
theorem turnDegrees_settles_ten :
    ∃ y, exec (turnDegrees 10) tenDegrees = (some true, y) ∧ y.1.Off ∧
      ∃ new, y.2.notes = new ++ [] ∧ new.count .powered = 1 ∧ Made 10 new y := by
  have hclock : ClockAdvances tenDegrees.1.outside (exec (turnDegrees 10) tenDegrees).2.2.sleeps :=
    ⟨fun k => (elapsedUs_tenDegrees k).trans_le (by decide), fun k _ => (elapsedUs_tenDegrees k).ge⟩
  obtain ⟨ok, y, hexec, hoff, -, new, hnotes, -, hmade⟩ :=
    turnDegrees_settles 10 tenDegrees (fun _ => rfl) rfl (by decide) hclock
  have hrun : (exec (turnDegrees 10) tenDegrees).1 = some true ∧
      (exec (turnDegrees 10) tenDegrees).2.2.notes.count .powered = 1 := by
    decide +kernel
  rw [hexec, hnotes] at hrun
  obtain ⟨hok, hcount⟩ := hrun
  cases hok
  exact ⟨y, hexec, hoff, new, hnotes, (List.append_nil new) ▸ hcount, hmade rfl⟩

end ExactTurn
