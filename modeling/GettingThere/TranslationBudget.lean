/-
# The budget for powered travel

A run may power its drives for 60 s, and every block forwards leaves enough of that to go back
to the best position.  A block may overrun by 25 ms, so a way is costed at 25 ms more for each
block of 750 ms in it (`wayCost`): whatever blocks the way back is driven in, and however long
each of them runs, the cost of what remains never grows.

`approachBeacon_budget` says that a run in which every block stops in time stays within its
budget, and that no block of a return is refused for it.
-/
import GettingThere.ApproachRules

open CrashLogic
open PayloadClient (PayloadResult)

namespace Navigation

/-! ## The cost of a way -/

/-- The powered time that a way may take. -/
def wayCost (d : ℕ) : ℕ := d + (d + 749) / 750 * 25

/-- A block that is driven pays for its overrun. -/
theorem add_reserve_le_wayCost {d : ℕ} (hd : 0 < d) : d + 25 ≤ wayCost d := by
  unfold wayCost
  omega

/-- A longer way costs no less. -/
theorem wayCost_mono {d e : ℕ} (h : d ≤ e) : wayCost d ≤ wayCost e := by
  unfold wayCost
  omega

/-- A way may be split after a whole block. -/
theorem wayCost_split (r : ℕ) : wayCost (min 750 r) + wayCost (r - min 750 r) = wayCost r := by
  unfold wayCost
  omega

/-- What was driven of a way is no longer costed. -/
theorem add_wayCost_sub_le {a r : ℕ} (h : a ≤ r) : a + wayCost (r - a) ≤ wayCost r := by
  unfold wayCost
  omega

/-- The cost of a way does not overflow. -/
theorem toNat_translationCost {d : UInt32} (hd : d.toNat ≤ 100000) :
    (translationCost d).toNat = wayCost d.toNat := by
  unfold translationCost wayCost lineBlockMs blockReserveMs
  simp only [UInt32.toNat_add, UInt32.toNat_sub, UInt32.toNat_mul, UInt32.toNat_div,
    UInt32.reduceToNat]
  omega

/-- A block within the budget leaves no room for overflow. -/
theorem fits_iff {used required : UInt32} :
    fits used required = true ↔ used.toNat + required.toNat ≤ 60000 := by
  unfold fits lineTranslationMs
  rw [Bool.and_eq_true, decide_eq_true_iff, decide_eq_true_iff, UInt32.le_iff_toNat_le,
    UInt32.le_iff_toNat_le, UInt32.toNat_sub]
  simp only [UInt32.reduceToNat]
  omega

/-! ## What holds of a run -/

/-- Every drive stops in time, with an overrun of at most 25 ms. -/
def InTime (events : List Event) : Prop :=
  ∀ duration actual, .driven duration actual ∈ events → actual.toNat ≤ duration.toNat + 25

/-- Every block of a return passes the test of the budget. -/
def ReturnsFit (events : List Event) : Prop := ∀ fits, .block false fits ∈ events → fits = true

/-- A drive that does not stop in time. -/
def Event.late : Event → Bool
  | .driven duration actual => decide (duration.toNat + 25 < actual.toNat)
  | _ => false

instance (events : List Event) : Decidable (InTime events) :=
  decidable_of_iff (∀ e ∈ events, e.late = false) <| by
  constructor
  · intro h duration actual hmem
    exact not_lt.mp (of_decide_eq_false (h _ hmem))
  · intro h e hmem
    cases e with
    | driven duration actual => exact decide_eq_false (not_lt.mpr (h duration actual hmem))
    | checked place arrived result scans => rfl
    | scanned ok => rfl
    | block forwards fits => rfl

/-- If every drive stopped in time the earlier ones did. -/
theorem InTime.tail {e : Event} {events : List Event} (h : InTime (e :: events)) :
    InTime events := fun d a hmem => h d a (List.mem_cons_of_mem _ hmem)

/-- Only a block of a return that does not fit breaks the rule. -/
theorem ReturnsFit.cons {e : Event} {events : List Event} (h : ReturnsFit events)
    (he : ∀ fits, e = .block false fits → fits = true) : ReturnsFit (e :: events) := by
  intro fits hmem
  rcases List.mem_cons.mp hmem with heq | hmem
  · exact he fits heq.symm
  · exact h fits hmem

/-- As long as the drives stop in time, the run is within its budget and the powered time is
as in `p`. -/
def Within (p : ℕ → Prop) (n : Nav) : Prop :=
  InTime n.events →
    ReturnsFit n.events ∧ n.translationMs.toNat ≤ 60000 ∧ p n.translationMs.toNat

/-- As long as the drives stop in time, the run is within its budget. -/
abbrev Budget : Nav → Prop := Within fun _ => True

section Within

variable {p q : ℕ → Prop} {n m : Nav}

/-- A run within its budget is so with a weaker condition on the powered time. -/
theorem Within.imp (h : Within p n) (hpq : ∀ t ≤ 60000, p t → q t) : Within q n :=
  fun hin => ⟨(h hin).1, (h hin).2.1, hpq _ (h hin).2.1 (h hin).2.2⟩

/-- Whatever the condition, the run is within its budget. -/
theorem Within.budget (h : Within p n) : Budget n := h.imp fun _ _ _ => trivial

/-- A note that is neither of a drive nor of a block changes nothing. -/
theorem Within.note {e : Event} (h : Within p n) (hevents : m.events = e :: n.events)
    (htime : m.translationMs = n.translationMs) (he : ∀ f fits, e ≠ .block f fits) :
    Within p m := by
  intro hin
  rw [hevents] at hin
  rw [hevents, htime]
  have hn := h hin.tail
  exact ⟨hn.1.cons fun fits heq => absurd heq (he false fits), hn.2⟩

/-- The notes of the run and the powered time are all that matters. -/
theorem Within.same (h : Within p n) (hevents : m.events = n.events)
    (htime : m.translationMs = n.translationMs) : Within p m := by
  unfold Within
  rw [hevents, htime]
  exact h

/-- The budget is kept wherever a run is cut off. -/
theorem loose_budget : Loose Budget where
  same _ _ hm h := h.same hm.events hm.translationMs
  checked _ _ _ _ hm h := h.note hm.events hm.translationMs nofun

/-- The budget is kept by what powers nothing, checks included. -/
theorem kept_within (place : Place) : Kept Budget place (Within p) where
  safe _ h := h.budget
  same _ _ hm h := h.same hm.events hm.translationMs
  moved _ h := h.same rfl rfl
  checked _ _ _ h hm := h.note hm.events hm.translationMs nofun

end Within

/-! ## Blocks -/

section Blocks

variable {ρ : Type} (L : Layer ρ)

/-- The budget after a drive that had been reserved and stops in time. -/
theorem Within.drive {p q : ℕ → Prop} {n : Nav} {duration required actual : UInt32}
    {forwards : Bool} (h : Within p n) (hfits : fits n.translationMs required = true)
    (hcost : ∀ t ≤ 60000, p t → duration.toNat + 25 ≤ required.toNat)
    (hq : ∀ t, p t → t + required.toNat ≤ 60000 → actual.toNat ≤ duration.toNat + 25 →
      q (t + actual.toNat)) :
    Within q (n.drive forwards duration actual) := by
  intro hin
  have hactual := hin duration actual List.mem_cons_self
  obtain ⟨hreturns, hused, hp⟩ := h hin.tail.tail
  have hroom := fits_iff.mp hfits
  have hpaid := hcost _ hused hp
  have hsum : (n.drive forwards duration actual).translationMs.toNat =
      n.translationMs.toNat + actual.toNat := by
    show (n.translationMs + actual).toNat = _
    rw [UInt32.toNat_add]
    omega
  rw [hsum]
  refine ⟨(hreturns.cons ?_).cons nofun, by omega, hq _ hp hroom hactual⟩
  intro fits heq
  cases heq
  rfl

/-- **A block** costs at least as much as it may take, and a block of a return is not refused. -/
theorem leads_block {p : ℕ → Prop} {q : UInt32 → ℕ → Prop} {place : Place} {forwards : Bool}
    {duration : UInt32} {heading : Float32} {position reservedReturn : UInt32}
    {acquireMoving : Bool}
    (hreturn : forwards = false → ∀ t ≤ 60000, p t →
      t + (translationCost duration + reservedReturn).toNat ≤ 60000)
    (hcost : ∀ t ≤ 60000, p t →
      duration.toNat + 25 ≤ (translationCost duration + reservedReturn).toNat)
    (hq : ∀ t actual, p t → t + (translationCost duration + reservedReturn).toNat ≤ 60000 →
      actual.toNat ≤ duration.toNat + 25 → q actual (t + actual.toNat)) :
    Leads Budget (Within p)
      (translateBlock L place forwards duration heading position reservedReturn acquireMoving)
      fun r => GoesOn Budget (Within (q r.2)) r.1 := by
  refine leads_translateBlock (P := Within p) (Q := fun a => Within (q a)) L loose_budget ?_ ?_ ?_
  · intro n hn hin
    obtain ⟨hreturns, hused, hp⟩ := hn hin.tail
    refine ⟨hreturns.cons ?_, hused, trivial⟩
    intro fits heq
    obtain ⟨hforwards, rfl⟩ := Event.block.inj heq
    exact fits_iff.mpr (hreturn hforwards _ hused hp)
  · intro n actual hn hfits
    exact (hn.drive hfits hcost fun t hp hroom ha => hq t actual hp hroom ha).budget
  · intro n m actual hn hdriven hm
    have hdrive : Within (q actual) (n.drive forwards duration actual) :=
      hn.drive hdriven.fits hcost fun t hp hroom ha => hq t actual hp hroom ha
    exact hdrive.note hm.events hm.translationMs nofun

/-- A block on the mat is refused rather than exceed the budget. -/
theorem leads_matBlock {heading : Float32} :
    Leads Budget Budget (translateBlock L .steering true lineMatBlockMs heading 0 0 false)
      fun r => GoesOn Budget Budget r.1 :=
  leads_block (p := fun _ => True) (q := fun _ _ => True) L nofun
    (fun _ _ _ => by decide) fun _ _ _ _ _ => trivial

/-! ## Ways back -/

/-- The first block of a way, and what remains of it, cost as much as the way. -/
theorem toNat_returnCost {remaining : UInt32} (h : remaining.toNat ≤ 60000) :
    (translationCost (min lineBlockMs remaining) +
      translationCost (remaining - min lineBlockMs remaining)).toNat = wayCost remaining.toNat := by
  have hblock : (min lineBlockMs remaining).toNat = min 750 remaining.toNat := toNat_min _ _
  have hrest : (remaining - min lineBlockMs remaining).toNat =
      remaining.toNat - min 750 remaining.toNat := by
    rw [UInt32.toNat_sub, hblock]
    omega
  have hcost : wayCost remaining.toNat ≤ 70000 := by
    unfold wayCost
    omega
  have hsplit := wayCost_split remaining.toNat
  rw [UInt32.toNat_add, toNat_translationCost (by omega), toNat_translationCost (by omega), hblock,
    hrest]
  omega

/-- **A block of a return** fits, and leaves enough for the rest. -/
theorem leads_returnBlock (target : UInt32) (heading : Float32) (remaining : UInt32) :
    Leads Budget (Within fun t => t + wayCost remaining.toNat ≤ 60000)
      (returnBlock L target heading remaining) fun r n =>
        r.elim (fun rest => Within (fun t => t + wayCost rest.toNat ≤ 60000) n)
          fun result => GoesOn Budget Budget result n := by
  refine Leads.ite (fun _ => ?_) fun hne => ?_
  · exact Leads.pure _ fun n hn => ⟨fun _ => hn.budget, fun h => absurd rfl h⟩
  have hpos : 0 < remaining.toNat := by
    rcases Nat.eq_zero_or_pos remaining.toNat with h | h
    · exact absurd (UInt32.toNat_inj.mp h) hne
    · exact h
  -- the way back fits the budget, so nothing wraps
  have hsize : ∀ {t}, t + wayCost remaining.toNat ≤ 60000 → remaining.toNat ≤ 60000 := by
    intro t ht
    unfold wayCost at ht
    omega
  have hblock : (min lineBlockMs remaining).toNat = min 750 remaining.toNat := toNat_min _ _
  let rest (actual : UInt32) := if actual < remaining then remaining - actual else 0
  -- what is left after a block, also after one that went too far
  have hrest : ∀ actual, (rest actual).toNat = remaining.toNat - actual.toNat := by
    intro actual
    unfold rest
    split
    · rename_i hlt
      exact UInt32.toNat_sub_of_le _ _ (UInt32.le_of_lt hlt)
    · rename_i hge
      exact (Nat.sub_eq_zero_of_le (UInt32.le_iff_toNat_le.mp (UInt32.not_lt.mp hge))).symm
  refine Leads.bind (leads_block (p := fun t => t + wayCost remaining.toNat ≤ 60000)
    (q := fun actual t => t + wayCost (rest actual).toNat ≤ 60000) L ?_ ?_ ?_) fun r => ?_
  · intro _ t _ ht
    rw [toNat_returnCost (hsize ht)]
    exact ht
  · intro t _ ht
    rw [toNat_returnCost (hsize ht), hblock]
    refine le_trans ?_ (wayCost_mono (min_le_right 750 remaining.toNat))
    exact add_reserve_le_wayCost (by omega)
  · intro t actual ht _ hactual
    rw [hrest]
    rcases Nat.le_total actual.toNat remaining.toNat with hle | hge
    · have := add_wayCost_sub_le hle
      omega
    · rw [hblock] at hactual
      -- the block went past the end, and its reserve pays for that
      have hpaid := add_reserve_le_wayCost hpos
      rw [Nat.sub_eq_zero_of_le hge]
      have : min 750 remaining.toNat ≤ remaining.toNat := min_le_right _ _
      unfold wayCost at *
      omega
  · refine Leads.goOn (fun hr n hn => ⟨fun h => absurd h hr, fun _ => hn⟩) ?_
    exact Leads.pure _ fun n hn => hn

/-- **A return** that was reserved stays within the budget. -/
theorem leads_returnAlongLine (position target : UInt32) (heading : Float32) :
    Leads Budget (Within fun t => t + wayCost (position - target).toNat ≤ 60000)
      (returnAlongLine L position target heading) (GoesOn Budget Budget) := by
  have hloop := Leads.loop (J := Budget) (L := L)
    (I := fun remaining => Within fun t => t + wayCost remaining.toNat ≤ 60000)
    (Q := GoesOn Budget Budget) (fun _ n hn => hn.budget) (leads_returnBlock L target heading)
    (position - target)
  refine Leads.report (hloop.bind ?_)
  intro result
  have hend : ∀ n, GoesOn Budget Budget result n → Budget n := fun n hn => by
    by_cases hr : result = .notClose
    · exact hn.1 hr
    · exact hn.2 hr
  have hpure : Leads Budget Budget (pure result : Cmd (ρ × Nav) PayloadResult)
      (GoesOn Budget Budget) := Leads.pure _ fun n hn => ⟨fun _ => hn, fun _ => hn⟩
  refine Leads.mono (P := Budget) (Leads.ite ?_ fun _ => hpure) hend fun _ _ hn => hn
  intro _
  exact Leads.quiet (kept_within .returning).toSteady (quiet_layer _) fun _ => hpure

end Blocks

/-! ## Lines -/

/-- The way back to the best position is reserved. -/
structure Way (best position : UInt32) (t : ℕ) : Prop where
  best_le : best.toNat ≤ position.toNat
  position_le : position.toNat ≤ t
  reserved : t + wayCost (position.toNat - best.toNat) ≤ 60000

/-- The way back is reserved; without progress it leads to the first position. -/
def Reserved (l : Line) (n : Nav) : Prop :=
  (l.progress = false → l.bestPosition = 0) ∧ Within (Way l.bestPosition l.position) n

/-- The end of a line that did not gain anything reserves the way back to its start. -/
def Ended (f : FollowResult) (t : ℕ) : Prop :=
  f.ending = .noGain → t + wayCost f.position.toNat ≤ 60000

section Line

variable {l : Line} {n : Nav}

/-- What is reserved depends on the position, the best position and the progress of a line. -/
theorem Reserved.congr {l' : Line} (h : Reserved l n) (hp : l'.position = l.position)
    (hb : l'.bestPosition = l.bestPosition) (hg : l'.progress = l.progress) : Reserved l' n := by
  unfold Reserved
  rw [hp, hb, hg]
  exact h

/-- Counting a decline leaves the way back reserved. -/
theorem Reserved.decline (h : Reserved l n) (step : UInt32) : Reserved (l.decline step) n := by
  unfold Line.decline
  dsimp only
  split
  · exact h.congr rfl rfl rfl
  · exact h.congr rfl rfl rfl

/-- Clearing a decline leaves it reserved. -/
theorem Reserved.clear (h : Reserved l n) (current : LinePair) : Reserved (l.clear current) n := by
  unfold Line.clear
  split
  · exact h.congr rfl rfl rfl
  · exact h

/-- A new reference leaves it reserved. -/
theorem Reserved.keepReference (h : Reserved l n) (current : LinePair) :
    Reserved (l.keepReference current) n := by
  unfold Line.keepReference
  split
  · exact h
  · exact h.congr rfl rfl rfl

/-- A new best position needs no way back. -/
theorem Reserved.keepBest (h : Reserved l n) (current : LinePair) :
    Reserved (l.keepBest current) n := by
  unfold Line.keepBest
  split
  · refine ⟨nofun, h.2.imp fun t ht hway => ⟨le_rfl, hway.position_le, ?_⟩⟩
    show t + wayCost (l.position.toNat - l.position.toNat) ≤ 60000
    rw [Nat.sub_self]
    exact ht
  · exact h

/-- What powers nothing keeps the way back reserved. -/
theorem steady_reserved (l : Line) : Steady Budget (Reserved l) :=
  ⟨fun _ h => h.2.budget, fun n m hm h => ⟨h.1, (kept_within .follow).same n m hm h.2⟩⟩

end Line

section Follow

variable {ρ : Type} (L : Layer ρ)

/-- **A block forwards** reserves the way back from where it ends at the latest. -/
theorem leads_forward {place : Place} {best position duration : UInt32} {heading : Float32}
    {start : UInt32} {acquireMoving : Bool} (hpos : 0 < duration.toNat)
    (hmax : duration.toNat ≤ 500) :
    Leads Budget (Within (Way best position))
      (translateBlock L place true duration heading start
        (translationCost (position + duration + blockReserveMs - best)) acquireMoving)
      fun r => GoesOn Budget (Within (Way best (position + r.2))) r.1 := by
  -- the way back from the end of the block, in machine arithmetic
  have hway : ∀ {t}, t ≤ 60000 → Way best position t →
      (position + duration + blockReserveMs - best).toNat =
        position.toNat + duration.toNat + 25 - best.toNat := by
    intro t ht hway
    have := hway.best_le
    have := hway.position_le
    rw [UInt32.toNat_sub, UInt32.toNat_add, UInt32.toNat_add]
    show (2 ^ 32 - best.toNat + ((position.toNat + duration.toNat) % 2 ^ 32 + 25) % 2 ^ 32) %
      2 ^ 32 = _
    omega
  have hrequired : ∀ {t}, t ≤ 60000 → Way best position t →
      (translationCost duration +
        translationCost (position + duration + blockReserveMs - best)).toNat =
        wayCost duration.toNat + wayCost (position.toNat + duration.toNat + 25 - best.toNat) := by
    intro t ht hw
    have hlen := hway ht hw
    have := hw.position_le
    rw [UInt32.toNat_add, toNat_translationCost (by omega), toNat_translationCost (by omega), hlen]
    unfold wayCost
    omega
  refine leads_block (p := Way best position) (q := fun a => Way best (position + a)) L nofun ?_ ?_
  · intro t ht hw
    rw [hrequired ht hw]
    exact le_trans (add_reserve_le_wayCost hpos) (Nat.le_add_right _ _)
  · intro t actual hw hroom hactual
    have ht : t ≤ 60000 := le_trans (Nat.le_add_right _ _) hroom
    rw [hrequired ht hw] at hroom
    have hbest := hw.best_le
    have hposition := hw.position_le
    have hpaid := add_reserve_le_wayCost hpos
    -- the block and its way back were reserved together
    have hsum : (position + actual).toNat = position.toNat + actual.toNat := by
      rw [UInt32.toNat_add]
      omega
    refine ⟨?_, ?_, ?_⟩
    · omega
    · omega
    · have hmono := wayCost_mono (d := (position + actual).toNat - best.toNat)
        (e := position.toNat + duration.toNat + 25 - best.toNat) (by omega)
      omega

/-- A condition on the powered time is kept by measuring. -/
theorem within_measurePair {p : ℕ → Prop} (place : Place) :
    Leads Budget (Within p) (measurePair L place) (Found Budget fun _ => Within p) :=
  leads_measurePair L (kept_within place).toSteady ((kept_within place).check L loose_budget)

/-- **The probes of a dip** keep the way back. -/
theorem within_probeDip (heading : Float32) (best : UInt32) (reference : LinePair) (k : ℕ)
    (position : UInt32) (current : LinePair) :
    Leads Budget (Within (Way best position)) (probeDip L heading best reference k position current)
      (Found Budget fun r => Within (Way best r.2.1)) := by
  induction k generalizing position current with
  | zero =>
    apply Leads.report
    exact Leads.pure _ fun n hn => hn
  | succ k ih =>
    apply Leads.report
    apply (leads_forward L (by decide) (by decide)).bind
    intro r
    refine Leads.goOn (fun _ n hn => hn) ?_
    have hsteady := (kept_within (p := Way best (position + r.2)) .followWifi).toSteady
    apply Leads.quiet hsteady (quiet_layer _)
    intro _
    apply (within_measurePair L .followWifi).bind
    intro current
    cases current with
    | error result => exact Leads.pure _ fun n hn => hn
    | ok current =>
      apply Leads.report
      refine Leads.quiet hsteady (quiet_saveCheckpoint L) fun ok =>
        Leads.ite (fun _ => ?_) fun _ => ?_
      · exact Leads.pure _ fun n hn => hn.budget
      refine Leads.bind (M := fun _ => Within (Way best (position + r.2))) ?_ fun _ => ?_
      · exact Leads.set fun n hn => hn.same rfl rfl
      refine Leads.ite ?_ fun _ => ih (position + r.2) current
      intro _
      exact Leads.pure _ fun n hn => hn

/-- A dip that was probed leaves the way back reserved. -/
theorem within_recheckAndProbeDip (heading : Float32) (best : UInt32) (reference : LinePair)
    (position : UInt32) :
    Leads Budget (Within (Way best position))
      (recheckAndProbeDip L heading best reference position)
      (Found Budget fun r => Within (Way best r.2.1)) := by
  have hsteady := (kept_within (p := Way best position) .followWifi).toSteady
  refine Leads.quiet hsteady (quiet_layer _) fun _ => Leads.report ?_
  refine (((kept_within .dip).check L loose_budget).goes (fun _ hn => hn.budget)).bind ?_
  intro result
  refine Leads.goOn (fun _ n hn => hn) ?_
  apply (within_measurePair L .followWifi).bind
  intro current
  cases current with
  | error result => exact Leads.pure _ fun n hn => hn
  | ok current =>
    apply Leads.report
    refine Leads.quiet hsteady (quiet_saveCheckpoint L) fun ok => Leads.ite (fun _ => ?_) fun _ => ?_
    · exact Leads.pure _ fun n hn => hn.budget
    refine Leads.bind (M := fun _ => Within (Way best position)) ?_ fun _ => ?_
    · exact Leads.set fun n hn => hn.same rfl rfl
    refine Leads.ite ?_ fun _ => within_probeDip L heading best reference _ position current
    intro _
    exact Leads.pure _ fun n hn => hn

/-- The next block of a line is not empty, and not longer than 500 ms. -/
theorem block_bounds (l : Line) {step : UInt32}
    (hstep : step = lineMatBlockMs ∨ step = lineForwardBlockMs) :
    0 < (l.block step).toNat ∧ (l.block step).toNat ≤ 500 := by
  have hsize : 0 < step.toNat ∧ step.toNat ≤ 500 := by
    rcases hstep with rfl | rfl
    · decide
    · decide
  unfold Line.block
  split
  · rename_i h
    have hlt := UInt32.lt_iff_toNat_lt.mp h.2
    rw [toNat_min, UInt32.toNat_sub_of_le _ _ (UInt32.le_of_lt h.2)]
    omega
  · exact hsize

/-- A block is driven only if the way back fits into what remains. -/
theorem within_followBlock (l : Line) {step : UInt32}
    (hstep : step = lineMatBlockMs ∨ step = lineForwardBlockMs) :
    Leads Budget (Reserved l) (followBlock L l step)
      (Stepped Budget (fun r => Reserved r.1) fun f => Within (Ended f)) := by
  obtain ⟨hpos, hmax⟩ := block_bounds l hstep
  apply Leads.given
  intro hfirst
  apply Leads.quiet (kept_within .follow).toSteady (quiet_layer _)
  intro _
  apply (leads_forward L hpos hmax).bind
  intro r
  refine Leads.goOn (fun _ n hn => hn) ?_
  have hsteady := (kept_within (p := Way l.bestPosition (l.position + r.2)) .follow).toSteady
  refine ((leads_matSteeringReady hsteady).mono (fun _ hn => hn) fun _ _ hn => hn.2).bind
    fun ready => Leads.ite (fun _ => ?_) fun _ => ?_
  · apply Leads.report
    exact Leads.pure _ fun n hn => hn.imp fun _ _ _ h => nomatch h
  apply Leads.quiet hsteady (quiet_layer _)
  intro _
  apply (within_measurePair L .followWifi).bind
  intro current
  cases current with
  | error result => exact Leads.pure _ fun n hn => hn
  | ok current =>
    refine Leads.quiet hsteady (quiet_recordPoint L) fun ok => Leads.ite (fun _ => ?_) fun _ => ?_
    · exact Leads.pure _ fun n hn => hn.budget
    refine Leads.bind (M := fun _ => Within (Way l.bestPosition (l.position + r.2))) ?_ fun _ => ?_
    · exact Leads.set fun n hn => hn.same rfl rfl
    · apply Leads.report
      exact Leads.pure _ fun n hn => ⟨hfirst, hn⟩

/-- **The return of a line** that has declined is within the budget. -/
theorem within_endDecline (l : Line) :
    Leads Budget (Within (Way l.bestPosition l.position)) (endDecline L l)
      (Found Budget fun f => Within (Ended f)) := by
  have hlength : ∀ t, Way l.bestPosition l.position t →
      t + wayCost (l.position - l.bestPosition).toNat ≤ 60000 := fun t hway => by
    rw [UInt32.toNat_sub_of_le _ _ (UInt32.le_iff_toNat_le.mpr hway.best_le)]
    exact hway.reserved
  refine Leads.bind (M := fun _ => Within fun t =>
    t + wayCost (l.position - l.bestPosition).toNat ≤ 60000) ?_ fun _ => ?_
  · exact Leads.set fun n hn => (hn.imp fun t _ hway => hlength t hway).same rfl rfl
  apply Leads.report
  apply (leads_returnAlongLine L _ _ _).bind
  intro result
  refine Leads.goOn (fun _ n hn => hn) ?_
  apply (within_measurePair L .followWifi).bind
  intro returned
  cases returned with
  | error result => exact Leads.pure _ fun n hn => hn
  | ok returned =>
    apply Leads.report
    exact Leads.pure _ fun n hn => Within.imp (p := fun _ => True) hn fun _ _ _ h => nomatch h

/-- What is made of a decline keeps the way back reserved, or takes it. -/
theorem within_followDecline (l : Line) (step : UInt32) (current : LinePair) :
    Leads Budget (Reserved l) (followDecline L l step current)
      (Stepped Budget (fun r => Reserved r.1) fun f => Within (Ended f)) := by
  refine Leads.ite (fun _ => ?_) fun _ => ?_
  · apply Leads.reportIf
    exact Leads.pure _ fun n hn => hn.clear current
  refine Leads.reportIf (Leads.report ?_)
  refine Leads.mono (P := Reserved (l.decline step)) ?_ (fun n hn => hn.decline step)
    fun _ _ hn => hn
  refine Leads.ite (fun _ => Leads.pure _ fun n hn => hn) fun _ => Leads.given ?_
  intro hfirst
  apply (within_recheckAndProbeDip L _ _ _ _).bind
  intro r
  match r with
  | .error result => exact Leads.pure _ fun n hn => hn
  | .ok (recovered, position, current) =>
    refine Leads.ite (fun _ => ?_) fun _ => ?_
    · apply Leads.report
      exact Leads.pure _ fun n hn => ⟨hfirst, hn⟩
    · have hend := within_endDecline L { l.decline step with position := position }
      exact hend.bind fun result => Leads.pure _ fun n hn => hn

/-- A comparison keeps the way back reserved, to the new best position if there is one. -/
theorem within_followEnd (l : Line) :
    Leads Budget (Reserved l) (followEnd L l)
      (Stepped Budget Reserved fun f => Within (Ended f)) := by
  have hsteady := steady_reserved l
  refine Leads.ite (fun hend => ?_) fun _ => Leads.ite (fun _ => ?_) fun _ => ?_
  · apply Leads.report
    refine Leads.pure _ fun n hn => hn.2.imp ?_
    intro t _ hway _
    have hreserved := hway.reserved
    rw [hn.1 hend.2.1] at hreserved
    exact hreserved
  · exact Leads.pure _ fun n hn => hn
  · apply Leads.report
    apply Leads.quiet hsteady (quiet_setNav fun n => Mute.profile n 0)
    intro _
    refine Leads.quiet hsteady (quiet_recordPoint L) fun ok => Leads.ite (fun _ => ?_) fun _ => ?_
    · exact Leads.pure _ fun n hn => hn
    · exact Leads.pure _ fun n hn => hn.2.budget

/-- **A round of a line** keeps the way back reserved. -/
theorem within_followRound (l : Line) :
    Leads Budget (Reserved l) (followRound L l)
      (Stepped Budget Reserved fun f => Within (Ended f)) := by
  have hsteady := steady_reserved l
  refine Leads.bind (M := fun _ => Reserved l) ?_ fun _ => ?_
  · exact Leads.set fun n hn => ⟨hn.1, hn.2.same rfl rfl⟩
  refine Leads.quiet hsteady (quiet_runCanContinue L) fun ok => Leads.ite (fun _ => ?_) fun _ => ?_
  · exact Leads.pure _ fun n hn => hn.2.budget
  apply (leads_forwardBlockMs L hsteady).bind
  intro step
  apply Leads.given
  intro hstep
  apply (within_followBlock L l hstep).bind
  intro r
  match r with
  | .inr result => exact Leads.pure _ fun n hn => hn
  | .inl (l, current) =>
    apply (within_followDecline L l step current).bind
    intro r
    match r with
    | .inr result => exact Leads.pure _ fun n hn => hn
    | .inl (l, current) =>
      refine Leads.bind (M := fun _ => Reserved l) ?_ fun _ => ?_
      · exact Leads.set fun n hn => ⟨hn.1, hn.2.same rfl rfl⟩
      apply Leads.reportJudged
      refine (within_followEnd L _).mono ?_ fun _ _ hn => hn
      intro n hn
      exact (Reserved.keepBest hn current).keepReference current

/-- At the start of a line there is no way back. -/
theorem reserved_first {heading : Float32} {trialMs : UInt32} {best : LinePair} {n : Nav}
    (h : Budget n) : Reserved (Line.first heading trialMs best) n :=
  ⟨fun _ => rfl, h.imp fun _ ht _ => ⟨le_rfl, Nat.zero_le _, by simpa [wayCost, Line.first] using ht⟩⟩

/-- **A line** reserves the way back at every block. -/
theorem within_followDirection (heading : Float32) (trialMs : UInt32) :
    Leads Budget Budget (followDirection L heading trialMs)
      (Found Budget fun f => Within (Ended f)) := by
  have hsteady := (kept_within (p := fun _ => True) .follow).toSteady
  apply Leads.quiet hsteady (quiet_setNav fun n => Mute.profile n 0)
  intro _
  refine (leads_turnToHeading L (kept_within .follow).toRoams heading).bind fun ok =>
    Leads.ite (fun _ => ?_) fun _ => ?_
  · exact Leads.pure _ fun n hn => hn
  apply Leads.quiet hsteady (quiet_layer _)
  intro _
  apply (within_measurePair L .followWifi).bind
  intro best
  cases best with
  | error result => exact Leads.pure _ fun n hn => hn
  | ok best =>
    refine Leads.quiet hsteady (quiet_recordPoint L) fun ok => Leads.ite (fun _ => ?_) fun _ => ?_
    · exact Leads.pure _ fun n hn => hn
    refine Leads.bind (M := fun _ => Budget) ?_ fun _ => ?_
    · exact Leads.set fun n (hn : Budget n) => hn.same rfl rfl
    have hloop := Leads.loop (L := L) (I := Reserved) (Q := Found Budget fun f => Within (Ended f))
      (fun l => (steady_reserved l).safe)
      (fun l => (within_followRound L l).mono (fun _ hn => hn) fun r n hn => by
        cases r with
        | inl l' => exact hn
        | inr result => exact hn) (Line.first heading trialMs best)
    apply Leads.report
    exact hloop.mono (fun n hn => reserved_first hn) fun _ _ hn => hn

/-- The return of a trial without gain is within the budget. -/
theorem within_endTrial (heading : Float32) (f : FollowResult) (hend : f.ending = .noGain) :
    Leads Budget (Within (Ended f)) (endTrial L heading f) (Found Budget fun _ => Budget) := by
  apply Leads.report
  have hreturn := leads_returnAlongLine L f.position 0 heading
  refine Leads.bind (hreturn.mono (fun n hn => hn.imp fun t _ h => ?_) fun _ _ hn => hn)
    fun result => ?_
  · rw [UInt32.sub_zero]
    exact h hend
  refine Leads.goOn (fun _ n hn => hn) ?_
  apply (within_measurePair L .followWifi).bind
  intro returned
  cases returned with
  | error result => exact Leads.pure _ fun n hn => hn
  | ok returned =>
    apply Leads.report
    exact Leads.pure _ fun n hn => hn

end Follow

/-! ## Runs -/

/-- The search stays within the budget, and a trial without gain has reserved its return. -/
theorem searches_budget {ρ : Type} (L : Layer ρ) :
    Searches L Budget Budget Budget Budget Budget Budget fun f => Within (Ended f) where
  enters := (kept_within .steering).toSteady
  scans := (kept_within .steering).toRoams
  holds := (kept_within .steering).toRoams
  frees := (kept_within .steering).toSteady
  again _ hn := hn
  spent _ hn _ := hn
  scan _ hn _ := hn.same rfl rfl
  scanned n m ok _ hn hm := by
    have hm' : Budget m := Within.note hn hm.events hm.translationMs nofun
    split
    · exact hm'
    · exact hm'
  steeringCheck := (kept_within .steering).check L loose_budget
  steeringBlock _ := leads_matBlock L
  settled _ hn _ := hn
  starts := (kept_within .start).toRoams
  startCheck := (kept_within .start).check L loose_budget
  ready n f hn _ _ hmat := hn.imp fun _ _ _ h => nomatch hmat.symm.trans h
  notReady _ hn _ := hn
  follow heading trialMs := within_followDirection L heading trialMs
  follows _ := (kept_within .follow).toSteady
  followedMat _ _ _ hn := hn.budget
  followedOther _ _ _ hn := hn.budget
  trial heading f hend := within_endTrial L heading f hend

/-- **The budget for powered travel**: however a run of `approach_beacon` goes and wherever it is
cut off, if every drive so far stopped in time, the powered time is at most 60 s and no block
of a return was refused for it. -/
theorem approachBeacon_budget {ρ : Type} (L : Layer ρ) (x : ρ) (colour : ColourSensor) :
    let n := (exec (approachBeacon L) (x, Nav.boot colour)).2.2
    InTime n.events → n.translationMs.toNat ≤ 60000 ∧ ReturnsFit n.events := by
  intro n hin
  have hboot : Budget (Nav.boot colour) := fun _ => ⟨nofun, Nat.zero_le _, trivial⟩
  have hrun := (searches_budget L).approachBeacon (kept_within .start).toSteady
    (fun _ _ _ _ => ⟨nofun, Nat.zero_le _, trivial⟩) x (Nav.boot colour) hboot
  obtain ⟨hreturns, hused, -⟩ := always hrun hin
  exact ⟨hused, hreturns⟩

/-- A line that declines at once, with three positions, a recheck and two probes: the return is
driven. -/
theorem recordedDecline_budget :
    let n := (exec (approachBeacon recorded)
      (⟨[], [60, 60, 60] ++ List.replicate 12 75, 0⟩, Nav.boot ⟨false, false, false, -1, 0⟩)).2.2
    Event.block false true ∈ n.events ∧ n.translationMs.toNat ≤ 60000 ∧ ReturnsFit n.events :=
  ⟨by decide +kernel, approachBeacon_budget recorded _ _ (by decide +kernel)⟩

end Navigation
