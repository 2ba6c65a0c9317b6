/-
# Driving on after the arrival

On ring 4 with AP1 out of range the robot is meant to wait, not to drive on into the beacon box.
`mat_wait_on_arrival` does so, but only for the checks of the mat steering.  A check of the
Wi-Fi search that finds the same hands over to the steering if colour scans are left; from there
a scan that finds no ring hands back, and the search drives on.  The other checks (at a dip, at a
probe, on the way back, for a missing sample) are not looked at.

`approachBeacon_lawful` says that a run keeps the rule as long as none of this happens (`Handled`),
and `arrivedThenDriven` is a run in which it does not.
-/
import GettingThere.ApproachRules

open CrashLogic
open PayloadClient (PayloadResult)

namespace Navigation

/-! ## The rule -/

/-- The latest check found the robot on ring 4 or darker, and AP1 out of range. -/
def barred : List Event → Bool
  | [] => false
  | .checked _ arrived result _ :: _ => arrived && decide (result = .notClose)
  | .scanned _ :: events => barred events
  | .block _ _ :: events => barred events
  | .driven _ _ :: events => barred events

/-- No block forwards is started after such a check. -/
def Lawful : List Event → Prop
  | [] => True
  | .block forwards _ :: events => (forwards = true → barred events = false) ∧ Lawful events
  | .checked _ _ _ _ :: events => Lawful events
  | .scanned _ :: events => Lawful events
  | .driven _ _ :: events => Lawful events

/-- Such a check is made only where the steering takes over, and the scan that follows it gives
a direction. -/
def Handled : List Event → Prop
  | [] => True
  | .checked place arrived result scans :: events =>
    ((arrived && decide (result = .notClose)) = true →
      place = .start ∨ place = .steering ∨ (place = .follow ∧ scans < matMaxScans)) ∧
    Handled events
  | .scanned ok :: events => (barred events = true → ok = true) ∧ Handled events
  | .block _ _ :: events => Handled events
  | .driven _ _ :: events => Handled events

instance decidableLawful : (events : List Event) → Decidable (Lawful events)
  | [] => .isTrue trivial
  | .block forwards _ :: events =>
    have := decidableLawful events
    inferInstanceAs (Decidable ((forwards = true → barred events = false) ∧ Lawful events))
  | .checked _ _ _ _ :: events => decidableLawful events
  | .scanned _ :: events => decidableLawful events
  | .driven _ _ :: events => decidableLawful events

instance decidableHandled : (events : List Event) → Decidable (Handled events)
  | [] => .isTrue trivial
  | .checked place arrived result scans :: events =>
    have := decidableHandled events
    inferInstanceAs (Decidable (((arrived && decide (result = .notClose)) = true →
      place = .start ∨ place = .steering ∨ (place = .follow ∧ scans < matMaxScans)) ∧
      Handled events))
  | .scanned ok :: events =>
    have := decidableHandled events
    inferInstanceAs (Decidable ((barred events = true → ok = true) ∧ Handled events))
  | .block _ _ :: events => decidableHandled events
  | .driven _ _ :: events => decidableHandled events

/-- The rule, as long as the checks are handled. -/
def Ruled (n : Nav) : Prop := Handled n.events → Lawful n.events

/-- The robot may drive on. -/
def Free (n : Nav) : Prop := Handled n.events → Lawful n.events ∧ barred n.events = false

/-- If the robot may not drive on, it knows that it has arrived. -/
def Held (n : Nav) : Prop :=
  Handled n.events → Lawful n.events ∧
    (barred n.events = true → n.colourArrived = true ∧ n.colour.colourOnMat = true)

/-- If the robot may not drive on, the steering takes over. -/
def Entry (n : Nav) : Prop :=
  Handled n.events → Lawful n.events ∧ (barred n.events = true →
    n.colourArrived = true ∧ n.colour.colourOnMat = true ∧ n.matScansUsed < matMaxScans)

/-! ## Checks and blocks -/

theorem loose_ruled : Loose Ruled where
  same n m hm h := by
    unfold Ruled
    rw [hm.events]
    exact h
  checked n m place r hm h := by
    unfold Ruled
    rw [hm.events]
    exact fun hh => h hh.2

theorem Free.ruled {n : Nav} (h : Free n) : Ruled n := fun hh => (h hh).1

theorem Free.entry {n : Nav} (h : Free n) : Entry n := fun hh =>
  ⟨(h hh).1, fun hb => absurd ((h hh).2.symm.trans hb) nofun⟩

theorem roams_free : Roams Ruled Free where
  safe _ h := h.ruled
  same n m hm h := by
    unfold Free
    rw [hm.events]
    exact h
  moved _ h := h

theorem roams_held : Roams Ruled Held where
  safe _ h hh := (h hh).1
  same n m hm h := by
    unfold Held
    rw [hm.events, hm.colourArrived, hm.colour]
    exact h
  moved _ h := h

theorem steady_entry : Steady Ruled Entry where
  safe _ h hh := (h hh).1
  same n m hm h := by
    unfold Entry
    rw [hm.events, hm.colourArrived, hm.colour, hm.matScansUsed]
    exact h

/-- After a check the robot knows what it has found. -/
theorem Checked.held {place : Place} {n m : Nav} {r : PayloadResult} (hn : Ruled n)
    (h : Checked place n r m) : Held m := by
  intro hh
  rw [h.events] at hh ⊢
  refine ⟨hn hh.2, ?_⟩
  intro hb
  have harr : m.colourArrived = true := ((Bool.and_eq_true _ _).mp hb).1
  exact ⟨harr, h.onMat harr⟩

/-- Where such a check is not handled, there is none. -/
theorem Checked.free {place : Place} {n m : Nav} {r : PayloadResult} (hn : Ruled n)
    (h : Checked place n r m) (hplace : place = .followWifi ∨ place = .dip ∨ place = .probe ∨
      place = .returning) : Free m := by
  intro hh
  rw [h.events] at hh ⊢
  refine ⟨hn hh.2, Bool.eq_false_iff.mpr ?_⟩
  intro hb
  rcases hh.1 hb with h' | h' | ⟨h', -⟩
  all_goals
    subst h'
    rcases hplace with h'' | h'' | h'' | h'' <;> cases h''

section Parts

variable {ρ : Type} (L : Layer ρ)

theorem free_check {place : Place} (hplace : place = .followWifi ∨ place = .dip) :
    Leads Ruled Free (checkPayload L place) (Lasts Ruled Free) := by
  apply leads_checkPayload L loose_ruled roams_free.safe place
  intro n r m hn hm
  have hfree : Free m := hm.free hn.ruled (hplace.imp_right .inl)
  exact ⟨fun _ => hfree, fun _ => hfree.ruled⟩

theorem held_check (place : Place) :
    Leads Ruled Held (checkPayload L place) (Lasts Ruled Held) := by
  apply leads_checkPayload L loose_ruled roams_held.safe place
  intro n r m hn hm
  have hheld : Held m := hm.held (roams_held.safe n hn)
  exact ⟨fun _ => hheld, fun _ => roams_held.safe m hheld⟩

/-- **A block** is lawful where the robot may drive on. -/
theorem free_block {place : Place} {forwards : Bool} {duration : UInt32} {heading : Float32}
    {position reservedReturn : UInt32} {acquireMoving : Bool} {Q : Nav → Prop}
    (hQ : ∀ n m r, Ruled n → Checked place n r m → n.matScansUsed = m.matScansUsed → Q m) :
    Leads Ruled Free
      (translateBlock L place forwards duration heading position reservedReturn acquireMoving)
      fun r => GoesOn Ruled Q r.1 := by
  refine leads_translateBlock L (Q := fun _ => Q) loose_ruled ?_ ?_ ?_
  · exact fun n hn hh => ⟨fun _ => (hn hh).2, (hn hh).1⟩
  · exact fun n actual hn _ hh => ⟨fun _ => (hn hh).2, (hn hh).1⟩
  · intro n m actual hn _ hm
    refine hQ (n.drive forwards duration actual) m .notClose ?_ ?_ hm.matScansUsed.symm
    · exact fun hh => ⟨fun _ => (hn hh).2, (hn hh).1⟩
    · exact ⟨hm.events, hm.translationMs, hm.matScansUsed, hm.log, hm.onMat⟩

/-- **Steering** deals with an arrival before it drives on. -/
theorem steers_arrival : Steers L Ruled Entry Held Held Free where
  enters := steady_entry
  scans := roams_held
  holds := roams_held
  frees := roams_free.toSteady
  again _ hn := hn.entry
  spent n hn hused hh :=
    ⟨(hn hh).1, Bool.eq_false_iff.mpr fun hb => hused ((hn hh).2 hb).2.2⟩
  scan n hn _ hh := ⟨(hn hh).1, fun hb => ⟨((hn hh).2 hb).1, ((hn hh).2 hb).2.1⟩⟩
  scanned n m ok zones hn hm := by
    cases ok with
    | false =>
      intro hh
      rw [hm.events] at hh ⊢
      exact ⟨(hn hh.2).1, Bool.eq_false_iff.mpr fun hb => Bool.false_ne_true (hh.1 hb)⟩
    | true =>
      intro hh
      rw [hm.events] at hh ⊢
      rw [hm.colourArrived, hm.colourOnMat]
      exact hn hh.2
  steeringCheck := held_check L .steering
  steeringBlock _ := free_block L fun _ _ _ hn hm _ => hm.held hn
  settled n hn harr hh :=
    ⟨(hn hh).1, Bool.eq_false_iff.mpr fun hb => Bool.false_ne_true (harr.symm.trans ((hn hh).2 hb).1)⟩

theorem Entry.free {n : Nav} (h : Entry n)
    (hmat : ¬ (n.colour.colourOnMat = true ∧ n.matScansUsed < matMaxScans)) : Free n := fun hh =>
  ⟨(h hh).1, Bool.eq_false_iff.mpr fun hb => hmat ((h hh).2 hb).2⟩

/-- **A line** hands over to the steering when a block of it ends at the arrival. -/
theorem follows_arrival : Follows L Ruled Entry Free Entry where
  frees := roams_free
  stops := steady_entry
  enters := steady_entry
  logged _ _ hn := hn
  check _ hplace := free_check L hplace
  lineBlock _ _ _ _ _ := free_block L fun n m r hn hm hscans hh => by
    have hheld := hm.held hn hh
    refine ⟨hheld.1, fun hb => ⟨(hheld.2 hb).1, (hheld.2 hb).2, ?_⟩⟩
    rw [hm.events] at hh hb
    rcases hh.1 hb with h' | h' | ⟨-, h'⟩
    · cases h'
    · cases h'
    · exact hscans ▸ h'
  otherBlock _ _ _ _ _ _ hplace _ := free_block L fun n m r hn hm _ => hm.free hn (.inr (.inr hplace))
  mat _ hn _ _ := hn
  noMat _ hn hmat := hn.free hmat

/-- Before the first line no colour scan was used. -/
theorem searches_arrival :
    Searches L Ruled (fun n => n.matScansUsed = 0 ∧ Entry n) Entry Held Held Free
      (AfterLine Entry Free) := by
  refine (follows_arrival L).searches (steers_arrival L) ?_ ?_ ?_ ?_
  · refine ⟨⟨fun n hn => steady_entry.safe n hn.2, ?_⟩, fun n hn => hn⟩
    intro n m hm hn
    exact ⟨hm.matScansUsed.trans hn.1, steady_entry.same n m hm hn.2⟩
  · apply leads_checkPayload L loose_ruled (fun n hn => steady_entry.safe n hn.2) .start
    intro n r m hn hm
    have hheld : Held m := hm.held (steady_entry.safe n hn.2)
    have hscans : m.matScansUsed = 0 := hm.matScansUsed.trans hn.1
    refine ⟨fun _ => ⟨hscans, fun hh => ⟨(hheld hh).1, ?_⟩⟩, fun _ hh => (hheld hh).1⟩
    intro hb
    refine ⟨((hheld hh).2 hb).1, ((hheld hh).2 hb).2, ?_⟩
    rw [hscans]
    decide
  · exact fun n hn _ _ => hn.2
  · exact fun n hn hmat => hn.2.free hmat

end Parts

/-! ## Runs -/

/-- **Driving on after the arrival**: a run of `approach_beacon`, wherever it is cut off, starts no
block forwards while the latest check has found the arrival and AP1 out of range, as long as
every such check is handled by the mat steering. -/
theorem approachBeacon_lawful {ρ : Type} (L : Layer ρ) (x : ρ) (colour : ColourSensor) :
    let n := (exec (approachBeacon L) (x, Nav.boot colour)).2.2
    Handled n.events → Lawful n.events := by
  intro n
  have hboot : Free (Nav.boot colour) := fun _ => ⟨trivial, rfl⟩
  have hrun := (searches_arrival L).approachBeacon roams_free.toSteady
    (fun n now _ => ⟨rfl, fun _ => ⟨trivial, nofun⟩⟩) x (Nav.boot colour) hboot
  exact always hrun

-- a recorded run is evaluated by the kernel alone
attribute [irreducible] Lawful Handled

/-- Readings of ring 2, ring 4 and ring 5. -/
def onRing2 : ColourReading := ⟨1000, 100, 75, 50⟩
def onRing4 : ColourReading := ⟨1000, 100, 45, 50⟩
def onRing5 : ColourReading := ⟨1000, 100, 30, 50⟩

/-- A run that waits: a block of a line ends on ring 4, the scan finds the darker ring, and the
check after it still does not find AP1. -/
def waited : Recording where
  colours := List.replicate 3 (some onRing2) ++ [none] ++ List.replicate 36 (some onRing4) ++
    List.replicate 3 (some onRing5) ++ List.replicate 3 (some onRing4)
  codes := List.replicate 5 60
  driven := 0

theorem waited_lawful :
    Handled (exec (approachBeacon recorded)
      (waited, Nav.boot ⟨true, false, false, -1, 0⟩)).2.2.events ∧
    barred (exec (approachBeacon recorded)
      (waited, Nav.boot ⟨true, false, false, -1, 0⟩)).2.2.events = true ∧
    Lawful (exec (approachBeacon recorded)
      (waited, Nav.boot ⟨true, false, false, -1, 0⟩)).2.2.events := by
  have hhandled : Handled (exec (approachBeacon recorded)
      (waited, Nav.boot ⟨true, false, false, -1, 0⟩)).2.2.events := by decide +kernel
  have hbarred : barred (exec (approachBeacon recorded)
      (waited, Nav.boot ⟨true, false, false, -1, 0⟩)).2.2.events = true := by decide +kernel
  exact ⟨hhandled, hbarred, approachBeacon_lawful recorded waited _ hhandled⟩

/-- A run that drives on: the scan after the arrival cannot read the sensor, and the search is
resumed. -/
theorem arrivedThenDriven :
    ¬ Lawful (exec (approachBeacon recorded) (⟨List.replicate 3 (some onRing2) ++ [none] ++
      List.replicate 3 (some onRing4) ++ [none], List.replicate 5 60, 0⟩,
      Nav.boot ⟨true, false, false, -1, 0⟩)).2.2.events := by
  decide +kernel

end Navigation
