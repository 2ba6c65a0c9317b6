/-
# A guard over blocks and scans

A powered block passes a guard that the layer keeps: it notes what it asks for and what was driven,
charges the powered time, and ends with a payload check.  So do the ways back, and the steering by
colour scans on the mat, of which nothing is said but that the run may go on.
-/
import GettingThere.LayerGuard

open CrashLogic
open PayloadClient (PayloadResult)

namespace Navigation

open Guard

variable {ρ : Type} {G : Guard ρ} {L : Layer ρ} {N : Nav → Prop}

/-! ## Blocks -/

/-- Nothing is said of the statics. -/
abbrev Any : Nav → Prop := fun _ => True

theorem lasting_any : Lasting Any := ⟨fun _ _ _ h => h, fun _ _ h => h⟩

/-- The statics are changed, and then something else is done. -/
theorem goes_set {α : Type} {ok : α → Prop} {M : α → Nav → Prop} {g : Nav → Nav}
    {rest : Cmd (ρ × Nav) α} (hrest : G.Goes Any ok M rest) :
    G.Goes N ok M (setNav g >>= fun _ => rest) := Goes.set (fun _ _ => trivial) hrest

theorem plain_same (n : Nav) : Plain (Same n) := fun _ _ hm hn => hn.trans hm

/-- What a block leaves of the statics if the run goes on. -/
structure BlockDone (place : Place) (duration required : UInt32) (n : Nav) (actual : UInt32)
    (m : Nav) : Prop where
  driven : Driven duration required n actual
  events : ∃ arrived scans forwards, m.events = .checked place arrived .notClose scans ::
    .driven duration actual :: .block forwards true :: n.events
  translationMs : m.translationMs = n.translationMs + actual
  profileCount : m.profileCount = n.profileCount

section Blocks

variable (hL : L.Keeps G)
include hL

theorem goes_reserveTranslation (n : Nav) (required : UInt32) :
    G.Goes (Same n) (· = true) (fun _ m => Same n m ∧ fits n.translationMs required = true)
      (reserveTranslation L required) := by
  refine Goes.look fun m hm => Goes.ite (fun hfits => ?_) fun _ => ?_
  · rw [hm.translationMs] at hfits
    exact (passes_runCanContinue hL.toBears).less (fun _ ha => ha) fun _ _ _ hk => ⟨hk, hfits⟩
  · refine (passes_stopFor hL.toBears (by decide)).passes.andThen fun _ => passes_line hL.toBears ?_
    exact Goes.stop _ (by simp)

/-- **The end of a block**: the powered time is noted, charged and checked. -/
theorem triple_chargeBlock {place : Place} (forwards : Bool) {duration required : UInt32} {n : Nav}
    {block : MotionLayer.Block} (hfits : fits n.translationMs required = true) :
    Triple G.Safe (G.Upto (Same (n.block forwards true)) (block.quiesced = true))
      (chargeBlock L place duration block) fun r =>
        G.Upto (BlockDone place duration required n block.actual) (r = .notClose) := by
  -- the powered time is noted and charged, also when the run has ended
  let m := n.block forwards true
  refine Triple.bind (M := fun _ => G.Upto (Same { m with
    events := .driven duration block.actual :: m.events }) (block.quiesced = true))
    (triple_setNav (fun _ => .inr ⟨_, rfl⟩) fun k hk => ?_) fun _ => ?_
  · exact ⟨congrArg (List.cons _) hk.events, hk.translationMs, hk.profileCount⟩
  refine Triple.bind (M := fun _ => G.Upto (Same (n.drive forwards duration block.actual))
    (block.quiesced = true)) (triple_setNav (fun _ => .inl rfl) fun k hk => ?_) fun _ => ?_
  · exact ⟨hk.events, congrArg (· + block.actual) hk.translationMs, hk.profileCount⟩
  refine Triple.ite (fun _ => stop_pure _ nofun) fun hquiesced => Triple.before (fun s hs =>
    hs.2 (by simpa using hquiesced)) ?_
  refine Goes.ite (fun _ => Goes.stop _ nofun) fun _ => ?_
  refine (passes_runCanContinue hL.toBears).unless ?_ nofun
  refine Goes.look fun k hk => Goes.ite (fun _ => ?_) fun hbad => ?_
  · -- it took too long, or it was not within the budget
    exact (hL.faultRaise _ (by decide)).passes.andThen fun _ =>
      passes_line hL.toBears (Goes.stop _ nofun)
  have hdriven : Driven duration required n block.actual := by
    refine ⟨hfits, fun h => hbad (.inl h), UInt32.not_lt.mp fun h => hbad (.inr (.inl h)), ?_⟩
    rw [hk.translationMs] at hbad
    exact UInt32.not_lt.mp fun h => hbad (.inr (.inr h))
  refine (goes_checkPayload hL place).less (by simp) ?_
  rintro r l rfl ⟨m, arrived, scans, hm, hl⟩
  exact ⟨hdriven, ⟨arrived, scans, forwards, hl.events.trans (congrArg (List.cons _) hm.events)⟩,
    hl.translationMs.trans hm.translationMs, hl.profileCount.trans hm.profileCount⟩

/-- **A block**, from statics that are known. -/
theorem goes_translateBlock (place : Place) (forwards : Bool) (duration : UInt32)
    (heading : Float32) (position reservedReturn : UInt32) (acquireMoving : Bool) (n : Nav) :
    G.Goes (Same n) (fun r => r.1 = .notClose)
      (fun r => BlockDone place duration (translationCost duration + reservedReturn) n r.2)
      (translateBlock L place forwards duration heading position reservedReturn acquireMoving) := by
  let required := translationCost duration + reservedReturn
  refine Goes.look fun k hk => ?_
  rw [hk.translationMs]
  refine Goes.set (fun m hm => ?_) (?_ : G.Goes (Same (n.block forwards
    (fits n.translationMs required))) _ _ _)
  · exact ⟨congrArg (List.cons _) hm.events, hm.translationMs, hm.profileCount⟩
  refine Goes.change (plain_same _) (fun _ => ⟨rfl, rfl, rfl⟩) ?_
  refine (goes_reserveTranslation hL _ required).unless ?_ nofun
  refine Goes.given fun hfits => ?_
  change fits n.translationMs required = true at hfits
  rw [hfits]
  refine (passes_saveCheckpoint hL.toBears).unless ?_ nofun
  refine (hL.setPosition _ _ _).passes.andThen fun _ => ?_
  apply (hL.driveBlock _ _ _ _ _).passes.bind
  rintro (_ | block)
  · exact stop_pure _ nofun
  refine Triple.before (P := G.Upto (Same (n.block forwards true)) (block.quiesced = true)) ?_ ?_
  · exact fun s hs => hs.less fun hq => ⟨block, rfl, hq⟩
  · exact (triple_chargeBlock hL forwards hfits).bind fun r => Triple.pure _ fun s hs => hs

/-- A block, of which nothing is said but that the run may go on. -/
theorem passes_translateBlock (place : Place) (forwards : Bool) (duration : UInt32)
    (heading : Float32) (position reservedReturn : UInt32) (acquireMoving : Bool) :
    G.Passes Any (fun r => r.1 = .notClose)
      (translateBlock L place forwards duration heading position reservedReturn acquireMoving) := by
  intro s hs
  have hblock := goes_translateBlock hL place forwards duration heading position reservedReturn
    acquireMoving s.2
  exact (hblock.less (fun _ ha => ha) fun _ _ _ _ => trivial) s ⟨hs.1, Same.refl s.2⟩

/-! ## Ways back -/

theorem passes_returnBlock (target : UInt32) (heading : Float32) (remaining : UInt32) :
    G.Passes Any (fun r => r.elim (fun _ => True) (· = .notClose))
      (returnBlock L target heading remaining) := by
  refine Goes.ite (fun _ => Passes.pure _) fun _ => ?_
  apply (passes_translateBlock hL _ _ _ _ _ _ _).bind
  exact fun r => triple_goOn (fun hr => hr) (Passes.pure _)

/-- **A way back.** -/
theorem passes_returnAlongLine (position target : UInt32) (heading : Float32) :
    G.Passes Any (· = .notClose) (returnAlongLine L position target heading) := by
  have hround (remaining : UInt32) : G.Goes Any (fun r => r.elim (fun _ => True) (· = .notClose))
      (fun r => r.elim (fun _ => Any) fun _ => Any) (returnBlock L target heading remaining) :=
    (passes_returnBlock hL target heading remaining).less (fun _ h => h) fun r _ _ _ => by
      cases r <;> trivial
  refine passes_line hL.toBears (Goes.bind (Goes.loop hround _) fun result => ?_)
  by_cases hr : result = .notClose
  · rw [if_pos hr]
    exact ((hL.setPosition _ _ _).passes.andThen fun _ => Passes.pure _).go hr
  · rw [if_neg hr]
    exact stop_pure _ hr

end Blocks

/-! ## Steering on the mat -/

section Steering

section Scans

variable (hL : L.Bears G)
include hL

theorem passes_turnToHeading (hN : Plain N) {ok : Bool → Prop} (heading : Float32) :
    G.Passes N ok (turnToHeading L heading) :=
  Goes.change hN (fun _ => ⟨rfl, rfl, rfl⟩) (hL.turnToHeading heading).passes

theorem passes_scanRead {ok : Option ColourReading → Prop} : G.Passes Any ok (scanRead L) := by
  have hread : G.Passes Any (fun _ => True) (colourSensorRead L) :=
    Goes.look fun _ _ => Goes.ite (fun _ => hL.readFresh.passes) fun _ => Passes.pure _
  apply hread.andThen
  rintro (_ | a)
  · exact Passes.pure _
  apply hread.andThen
  rintro (_ | b)
  · exact Passes.pure _
  apply hread.andThen
  rintro (_ | c)
  · exact Passes.pure _
  · exact Passes.pure _

/-- A scan that cannot be finished is no reason to end the run, but one that must be stopped is. -/
theorem passes_scanSteps (origin : Float32) (k : ℕ) (readings : List (ℤ × ColourReading)) :
    G.Passes Any (fun r => r.1 ≠ .stopped) (scanSteps L origin k readings) := by
  induction k generalizing readings with
  | zero => exact passes_line hL (Passes.pure _)
  | succ k ih =>
    refine (passes_runCanContinue hL).unless ?_ (by simp)
    refine (passes_turnToHeading hL lasting_any.same _).unless ?_ (by simp)
    refine (hL.pauseMs 200).passes.unless ?_ (by simp)
    apply (passes_scanRead hL).andThen
    rintro (_ | reading)
    · exact passes_line hL (Passes.pure _)
    refine passes_line hL (hL.reportCheckpoint.passes.andThen fun saved => ?_)
    refine Goes.ite (fun _ => ?_) fun _ => ih _
    exact (hL.faultRaise _ (by decide)).passes.andThen fun _ => Passes.pure _

end Scans

variable (hL : L.Keeps G)
include hL

theorem passes_matScan (origin : Float32) :
    G.Passes Any (fun r => r ≠ .inl .fatal) (matScan L origin) := by
  refine (passes_scanSteps hL.toBears origin 12 []).bind fun r => ?_
  refine Triple.ite (fun _ => ?_) fun hgo => ?_
  · exact stop_pure _ (by simp)
  refine Goes.go (Goes.ite (fun _ => ?_) fun _ => ?_) hgo
  · exact goes_set (passes_line hL.toBears (Passes.pure _))
  refine goes_set (goes_set (goes_set ?_))
  exact Goes.ite (fun _ => passes_line hL.toBears (Passes.pure _)) fun _ => Passes.pure _

theorem passes_matWaitOnArrival (k : ℕ) :
    G.Passes Any (· = .notClose) (matWaitOnArrival L k) := by
  induction k with
  | zero => exact passes_fault hL.toBears (by decide) _
  | succ k ih =>
    refine passes_line hL.toBears ((hL.pauseMs 1000).passes.unless ?_ (by simp))
    refine (passes_check hL lasting_any .steering).bind fun result => triple_goOn (fun h => h) ?_
    exact Goes.look fun n _ => Goes.ite (fun _ => Passes.pure _) fun _ => ih

theorem passes_waitIfArrived : G.Passes Any (· = .notClose) (waitIfArrived L) :=
  Goes.look fun _ _ => Goes.ite (fun _ => passes_matWaitOnArrival hL _) fun _ => Passes.pure _

theorem passes_matSteps (heading : Float32) (k : ℕ) (previous : ℤ) :
    G.Passes Any (· = .notClose) (matSteps L heading k previous) := by
  induction k generalizing previous with
  | zero => exact Passes.pure _
  | succ k ih =>
    refine (passes_translateBlock hL _ _ _ _ _ _ _).bind fun r => triple_goOn (fun h => h) ?_
    refine Goes.look fun n _ => passes_line hL.toBears ?_
    refine (passes_waitIfArrived hL).bind fun result => triple_goOn (fun h => h) ?_
    exact Goes.ite (fun _ => Passes.pure _) fun _ => ih _

theorem passes_matRound : G.Passes Any (fun r => r.elim (fun _ => True) (· = .notClose))
    (matRound L) := by
  refine (passes_runCanContinue hL.toBears).unless (goes_set ?_) (by simp)
  refine hL.heading.passes.andThen fun origin => (passes_matScan hL origin).bind ?_
  rintro (result | angle)
  · exact fun s hs => ⟨hs.1, fun h => hs.2 (by simp_all)⟩
  refine Goes.go (passes_line hL.toBears ?_) (by simp)
  refine (passes_turnToHeading hL.toBears lasting_any.same _).unless ?_ (by simp)
  refine (passes_check hL lasting_any .steering).bind fun result => triple_goOn (fun h => h) ?_
  refine (passes_waitIfArrived hL).bind fun result => triple_goOn (fun h => h) ?_
  refine Goes.look fun n _ => (passes_matSteps hL _ _ _).bind fun result => ?_
  exact triple_goOn (fun h => h) (Passes.pure _)

/-- **Steering on the mat.** -/
theorem passes_matApproach : G.Passes Any (· = .notClose) (matApproach L) := by
  refine passes_line hL.toBears (Goes.loop (I := fun _ => Any) (fun _ => ?_) ())
  refine Goes.look fun n _ => Goes.ite (fun _ => ?_) fun _ =>
    passes_line hL.toBears (Goes.pure _ ?_)
  · refine (passes_matRound hL).less (fun _ h => h) fun r _ _ _ => ?_
    cases r <;> trivial
  · exact fun _ _ => trivial

end Steering

end Navigation
