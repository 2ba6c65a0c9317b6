/-
# The time limits of a turn

The two loops of a turn sleep 5 ms a round and begin each round with the clock, which they compare
with a limit: 6 s for the turn, 300 ms for settling.  A round that goes on has slept and has read
the clock a few times, so that from one check to the next the time that is shown grows by 5 ms at
least and by far less than the counter of milliseconds takes to come round.

* `ClockAdvances` is what is asked of the clock; it may wrap;
* `shownMs_grows`: two checks that both pass are 5 ms apart or more;
* `turnStep_asks` and `settleStep_asks`: how often a round asks the outside;
* `wp_loop`: a loop with a time limit ends.
-/
import GettingThere.TurnSteps
import GettingThere.Halting

open CrashLogic Robot

namespace ExactTurn

variable {o : Outside}

/-! ## The clock -/

/-- The time from a moment to a later one, in microseconds. -/
def elapsedUs (o : Outside) (k l : ℕ) : ℕ := (o.timeUs l - o.timeUs k).toNat

/-- From one moment to the next the clock advances by 2^30 us at most, which is seventeen minutes,
and over a sleep by 5 ms at least. -/
structure ClockAdvances (o : Outside) (sleeps : List ℕ) : Prop where
  step : ∀ k, elapsedUs o k (k + 1) ≤ 2 ^ 30
  sleep : ∀ k, k + 1 ∈ sleeps → 5000 ≤ elapsedUs o k (k + 1)

/-- What `now_ms` returns at a moment. -/
def shownMs (o : Outside) (k : ℕ) : UInt32 := (o.timeUs k / 1000).toUInt32

/-- Times add up as long as the counter does not come round. -/
theorem elapsedUs_add {k l m : ℕ} (h : elapsedUs o k l + elapsedUs o l m < 2 ^ 64) :
    elapsedUs o k m = elapsedUs o k l + elapsedUs o l m := by
  unfold elapsedUs at h ⊢
  rw [UInt64.toNat_sub, UInt64.toNat_sub] at h
  rw [UInt64.toNat_sub, UInt64.toNat_sub, UInt64.toNat_sub]
  have hk := (o.timeUs k).toNat_lt
  have hl := (o.timeUs l).toNat_lt
  have hm := (o.timeUs m).toNat_lt
  omega

/-- Over a few moments the clock advances by little. -/
theorem elapsedUs_le (hstep : ∀ k, elapsedUs o k (k + 1) ≤ 2 ^ 30) (k : ℕ) :
    ∀ n ≤ 32, elapsedUs o k (k + n) ≤ 2 ^ 30 * n := by
  intro n
  induction n with
  | zero =>
    intro _
    unfold elapsedUs
    rw [Nat.add_zero, UInt64.sub_self]
    exact Nat.zero_le _
  | succ n ih =>
    intro hn
    have hbefore := ih (by omega)
    have hlast := hstep (k + n)
    rw [← Nat.add_assoc, elapsedUs_add (l := k + n) (by omega)]
    omega

/-- Where the counter of microseconds does not wrap, the counter of milliseconds goes on. -/
theorem timer_grows {p q start limit : ℕ} (hlimit : limit ≤ 2 ^ 30)
    (hmin : p + 5 ≤ q) (hmax : q ≤ p + 2 ^ 26)
    (hp : (2 ^ 32 - start + p % 2 ^ 32) % 2 ^ 32 < limit) :
    (2 ^ 32 - start + p % 2 ^ 32) % 2 ^ 32 + 5 ≤ (2 ^ 32 - start + q % 2 ^ 32) % 2 ^ 32 := by
  rw [Nat.add_mod_mod] at hp ⊢
  rw [Nat.add_mod_mod]
  obtain ⟨e, rfl⟩ := Nat.exists_eq_add_of_le hmin
  have hsplit : 2 ^ 32 - start + (p + 5 + e) = 2 ^ 32 - start + p + (5 + e) := by omega
  rw [hsplit, Nat.add_mod _ (5 + e), Nat.mod_eq_of_lt (a := 5 + e) (by omega)]
  omega

/-- Where it wraps, the counter of milliseconds jumps. -/
theorem timer_jumps {p q start limit : ℕ} (hlimit : limit ≤ 2 ^ 30)
    (hp64 : p ≤ 2 ^ 64 / 1000) (hfar : 2 ^ 64 / 1000 ≤ p + 2 ^ 26) (hq : q ≤ 2 ^ 26)
    (hp : (2 ^ 32 - start + p % 2 ^ 32) % 2 ^ 32 < limit) :
    limit ≤ (2 ^ 32 - start + q % 2 ^ 32) % 2 ^ 32 := by
  omega

/-- **Two checks that pass**, with a sleep between them: what is shown has grown by 5 ms at
least. -/
theorem shownMs_grows {k l : ℕ} {start limit : UInt32} (hlimit : limit.toNat ≤ 2 ^ 30)
    (hmin : 5000 ≤ elapsedUs o k l) (hmax : elapsedUs o k l ≤ 2 ^ 35)
    (hk : shownMs o k - start < limit) (hl : shownMs o l - start < limit) :
    (shownMs o k - start).toNat + 5 ≤ (shownMs o l - start).toNat := by
  have hshown (m : ℕ) : (shownMs o m - start).toNat =
      (2 ^ 32 - start.toNat + (o.timeUs m).toNat / 1000 % 2 ^ 32) % 2 ^ 32 := by
    unfold shownMs
    rw [UInt32.toNat_sub, UInt64.toNat_toUInt32, UInt64.toNat_div]
    rfl
  unfold elapsedUs at hmin hmax
  rw [UInt64.toNat_sub] at hmin hmax
  rw [UInt32.lt_iff_toNat_lt, hshown] at hk hl
  rw [hshown, hshown]
  have hk64 := (o.timeUs k).toNat_lt
  have hl64 := (o.timeUs l).toNat_lt
  rcases Nat.le_total (o.timeUs k).toNat (o.timeUs l).toNat with hle | hle
  · exact timer_grows hlimit (by omega) (by omega) hk
  · have hjump := timer_jumps hlimit (q := (o.timeUs l).toNat / 1000)
      (by omega) (by omega) (by omega) hk
    exact absurd hl (Nat.not_lt.mpr hjump)

/-! ## How often the outside is asked -/

/-- The command asks the outside `n` times at most. -/
abbrev Asks {α : Type} (n : ℕ) (c : Cmd Turner α) : Prop := Costs (fun x => x.1.tick) n c

/-- A question asks once. -/
theorem ask_asks {α : Type} (answer : Outside → ℕ → α) : Costs Robot.tick 1 (ask answer) :=
  fun _ => Nat.le_refl _

/-- Reading the clock asks once. -/
theorem nowMs_asks : Costs Robot.tick 1 nowMs := fun _ => Nat.le_refl _

/-- A poll of STOP asks twice. -/
theorem stopPressed_asks : Costs Robot.tick 2 stopPressed := by
  refine .bind (m := 1) (n := 1) (ask_asks _) fun _ => ?_
  refine .bind (m := 1) (n := 0) (ask_asks _) fun _ => ?_
  refine .bind (m := 0) (n := 0) .get fun s => ?_
  split
  · exact fun _ => Nat.le_refl _
  · exact fun _ => Nat.le_refl _

/-- Writing the pins asks nothing. -/
theorem motorsWrite_asks (left right : ℤ) : Costs Robot.tick 0 (motorsWrite left right) :=
  fun _ => Nat.le_refl _

/-- `motors_set` asks twice at most. -/
theorem motorsSet_asks (left right : ℤ) : Costs Robot.tick 2 (Robot.motorsSet left right) := by
  refine .bind (m := 0) (n := 2) .get fun s => ?_
  split
  · exact (motorsWrite_asks 0 0).mono (Nat.zero_le _)
  · refine .bind (m := 2) (n := 0) stopPressed_asks fun pressed => ?_
    split
    · exact motorsWrite_asks 0 0
    · exact .bind (m := 0) (n := 0) (fun _ => Nat.le_refl _) fun _ => motorsWrite_asks left right

/-- Cutting the power asks once at most. -/
theorem cutPower_asks : Costs Robot.tick 1 cutPower := by
  refine .bind (m := 0) (n := 1) .get fun s => ?_
  split
  · refine .bind (m := 0) (n := 1) .get fun s => ?_
    refine .bind (m := 0) (n := 1) (motorsWrite_asks 0 0) fun _ => ?_
    split
    · exact .bind (m := 1) (n := 0) nowMs_asks fun _ => .modify fun _ => Nat.le_refl _
    · exact fun _ => Nat.le_succ _
  · exact (motorsWrite_asks 0 0).mono (Nat.zero_le _)

/-- Reading the gyro asks once at most. -/
theorem readGyroDps_asks : Asks 1 readGyroDps := fun _ => Nat.le_refl _

/-- A missed sample is not asked for again during a turn. -/
theorem recoverMotionGyro_asks (previousUs : UInt64) :
    Asks 1 (recoverMotionGyro .turn previousUs) := by
  refine .bind (m := 1) (n := 0) cutPower_asks.onFirst fun _ => .bind (m := 0) (n := 0) .get ?_
  intro x
  rw [if_pos (.inl rfl)]
  exact fun _ => Nat.le_refl _

/-- A reading of a movement asks four times at most. -/
theorem readMotionGyro_asks (previousUs : UInt64) :
    Asks 4 (readMotionGyro .turn previousUs) := by
  have hsample : Asks 2 (sampleMotionGyro .turn previousUs) := by
    refine .bind (m := 1) (n := 1) readGyroDps_asks fun rate => ?_
    cases rate with
    | none => exact recoverMotionGyro_asks previousUs
    | some z => exact .bind (m := 1) (n := 0) (ask_asks _).onFirst fun us => .pure _
  refine .bind (m := 2) (n := 2) stopPressed_asks.onFirst fun pressed => ?_
  refine .ite (fun _ => Nat.le_add_right _ _) (.bind (m := 2) (n := 0) hsample fun sample => ?_)
  rcases sample with _ | ⟨z, us⟩
  · exact .pure none
  · exact .ite (fun _ => Nat.le_refl _) fun _ => Nat.le_refl _

/-- A round of the settling asks five times at most. -/
theorem settleStep_asks (start : UInt32) (previousUs : UInt64) :
    Asks 5 (settleStep .turn start previousUs) := by
  refine .bind (m := 1) (n := 4) nowMs_asks.onFirst fun now => ?_
  refine .ite ((Costs.pure _).mono (Nat.zero_le _)) ?_
  refine .bind (m := 4) (n := 0) (readMotionGyro_asks previousUs) fun sample => ?_
  rcases sample with _ | ⟨z, us⟩
  · exact .pure _
  · exact fun _ => Nat.le_refl _

/-- Learning the sign asks nothing. -/
theorem learnSign_asks (g : Segment) (z : ℚ) : Asks 0 (learnSign g z) := by
  refine .bind (m := 0) (n := 0) .get fun x => .ite (.pure g) ?_
  dsimp only
  split
  · exact fun _ => Nat.le_refl _
  · exact fun _ => Nat.le_refl _

/-- `motors_set` with its note asks twice at most. -/
theorem motorsSet_noted_asks (left right : ℤ) : Asks 2 (motorsSet left right) := by
  refine .bind (m := 0) (n := 2) .get fun before => ?_
  refine .bind (m := 2) (n := 0) (motorsSet_asks left right).onFirst fun _ => ?_
  refine .bind (m := 0) (n := 0) .get fun after => ?_
  split
  · exact fun _ => Nat.le_refl _
  · exact fun _ => Nat.le_refl _

/-- Powering a turn asks twice at most. -/
theorem powerTurn_asks (g : Segment) (remaining : ℚ) : Asks 2 (powerTurn g remaining) :=
  .bind (m := 2) (n := 0) (motorsSet_noted_asks _ _) fun _ _ => Nat.le_refl _

/-- Steering a turn asks four times at most. -/
theorem steerTurn_asks (g : Segment) (z : ℚ) : Asks 4 (steerTurn g z) := by
  have hfail (f : Fault) : Asks 0 (do onFirst (failTurn f); pure (.inr none) :
      Cmd Turner (Segment ⊕ Option UInt64)) := fun _ => Nat.le_refl _
  refine .bind (m := 0) (n := 4) (learnSign_asks g z) fun g => .bind (m := 0) (n := 4) .get ?_
  intro x
  refine .ite ((Costs.pure _).mono (Nat.zero_le _)) (.ite ((hfail _).mono (Nat.zero_le _)) ?_)
  refine .bind (m := 1) (n := 3) nowMs_asks.onFirst fun now => ?_
  refine .ite ((hfail _).mono (Nat.zero_le _)) (.ite ?_ ((powerTurn_asks g _).mono (by decide)))
  refine .bind (m := 1) (n := 2) nowMs_asks.onFirst fun now => ?_
  exact .ite ((Costs.pure _).mono (Nat.zero_le _)) (powerTurn_asks g _)

/-- A round of a turn asks nine times at most. -/
theorem turnStep_asks (g : Segment) : Asks 9 (turnStep g) := by
  refine .bind (m := 1) (n := 8) nowMs_asks.onFirst fun now => ?_
  refine .ite (fun _ => Nat.le_add_right _ _) ?_
  refine .bind (m := 4) (n := 4) (readMotionGyro_asks _) fun sample => ?_
  rcases sample with _ | ⟨z, us⟩
  · exact (Costs.pure _).mono (Nat.zero_le _)
  · exact steerTurn_asks _ z

/-! ## Loops with a time limit -/

/-- The clock has not advanced as it should. -/
def Late (o : Outside) (x : Turner) : Prop := ¬ ClockAdvances o x.2.sleeps

/-- A clock that advances over later sleeps does so over the earlier ones. -/
theorem ClockAdvances.of_onward {x y : Turner} (h : ClockAdvances o y.2.sleeps) (hxy : Onward x y) :
    ClockAdvances o x.2.sleeps :=
  ⟨h.step, fun k hk => h.sleep k (hxy.sleeps hk)⟩

/-- A round has been made: the check of its time limit has passed, and after it the robot has
slept. -/
structure Round (start limit : UInt32) (x y : Turner) : Prop extends Onward x y where
  checked : shownMs x.1.outside x.1.tick - start < limit
  later : x.1.tick < y.1.tick
  slept : y.1.tick ∈ y.2.sleeps

/-- A round takes 5 ms, and not too long. -/
theorem Round.elapsed {start limit : UInt32} {x y : Turner} (h : Round start limit x y)
    (hsoon : y.1.tick ≤ x.1.tick + 32) (hclock : ClockAdvances o y.2.sleeps) :
    5000 ≤ elapsedUs o x.1.tick y.1.tick ∧ elapsedUs o x.1.tick y.1.tick ≤ 2 ^ 35 := by
  have hlater := h.later
  obtain ⟨n, hn⟩ : ∃ n, y.1.tick = x.1.tick + n + 1 := ⟨y.1.tick - x.1.tick - 1, by omega⟩
  have hslept := h.slept
  rw [hn] at hslept hsoon ⊢
  have hlast := hclock.sleep _ hslept
  have hstep := hclock.step (x.1.tick + n)
  have hbefore := elapsedUs_le hclock.step x.1.tick n (by omega)
  rw [elapsedUs_add (l := x.1.tick + n) (by omega)]
  omega

/-- **Loop rule.** A loop whose rounds begin with the check of a time limit, and sleep, ends: 1200
rounds fill the longest limit, and the next one fails the check. -/
theorem wp_loop {β γ : Type} {body : β → Cmd Turner (β ⊕ γ)} {P : β → Turner → Prop}
    {Q : γ → Turner → Prop} {b : β} {x : Turner} {start limit : UInt32} (ho : x.1.outside = o)
    (hlimit : limit ≤ 6000) (hrounds : 1200 < o.rounds)
    (hasks : ∀ b, Asks 32 (body b))
    (hbody : ∀ b y, P b y →
      wp (body b) (fun r z => r.elim (fun b' => P b' z ∧ Round start limit y z) fun c => Q c z)
        (Late o) y)
    (hstart : P b x) : wp (loop body b) Q (Late o) x := by
  have hmost : limit.toNat ≤ 6000 := UInt32.le_iff_toNat_le.mp hlimit
  -- with `m` rounds left, the last check has seen 5 ms for every round before it
  let I : ℕ → β → Turner → Prop := fun m b y =>
    P b y ∧ y.1.outside = o ∧ (o.rounds ≤ m ∨ ∃ v, Round start limit v y ∧
      v.1.outside = o ∧ y.1.tick ≤ v.1.tick + 32 ∧ (ClockAdvances o y.2.sleeps →
        5 * o.rounds ≤ 5 * (m + 1) + (shownMs o v.1.tick - start).toNat))
  unfold loop
  rw [wp_bind, wp_get, ho]
  refine wp_iterate_ranked (I := I) ?_ ?_ _ b x ⟨hstart, ho, .inl (Nat.le_refl _)⟩
  · rintro m b y ⟨hP, hy, htime⟩
    refine wp_mono ((hasks b).and (hbody b y hP)) ?_ fun _ h => h
    rintro (b' | c) z ⟨hz, hsoon⟩
    · obtain ⟨hP', hround⟩ := hz
      refine ⟨hP', hround.outside.trans hy, .inr ⟨y, hround, hy, hsoon, fun hclock => ?_⟩⟩
      rcases htime with hfirst | ⟨v, hv, hvo, hvsoon, hcount⟩
      · omega
      · have hclock' := hclock.of_onward hround.toOnward
        obtain ⟨hmin, hmax⟩ := hv.elapsed hvsoon hclock'
        have hchecked := hv.checked
        have hchecked' := hround.checked
        rw [hvo] at hchecked
        rw [hy] at hchecked'
        have hgrows := shownMs_grows (by omega) hmin hmax hchecked hchecked'
        have hbefore := hcount hclock'
        omega
    · exact hz
  · rintro b y ⟨-, -, htime⟩ hclock
    rcases htime with hnone | ⟨v, hv, hvo, -, hcount⟩
    · omega
    · have hchecked := hv.checked
      rw [hvo, UInt32.lt_iff_toNat_lt] at hchecked
      have hbefore := hcount hclock
      omega

end ExactTurn
