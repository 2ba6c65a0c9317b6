/-
# The transfer gate

An attempt to deliver the payload rests on what the robot knows at the stop: without the colour
sensor on the close threshold of the radio, and with it on a check that found nothing but the
dark rings where a lighter part of the mat was seen before.  The notes for the payload attempts
(`GateNote`) say what came before each attempt; a condition on every one of them (`Gated`) is
kept by the whole of `approach_beacon`.
-/
import GettingThere.ApproachRules

open CrashLogic
open PayloadClient (PayloadResult ap1CloseRssiDbm colourArrivalBleDbm)

namespace Navigation

/-! ## What an attempt rests on -/

/-- The zones of a reading that was recorded. -/
def GateNote.zones : GateNote → List Zone
  | .checked zones => zones
  | .scan zones => zones
  | .moved => []
  | .attempt _ _ => []
  | .retry _ => []

/-- A lighter part of the mat was recorded: the white edge, or one of the rings 1 to 3. -/
def LighterSeen (gate : List GateNote) : Prop :=
  ∃ e ∈ gate, ∃ z ∈ e.zones, z = .white ∨ z = .ring1 ∨ z = .ring2 ∨ z = .ring3

/-- The latest note is an arrival check with three readings of the rings 4 and 5, and a lighter
part of the mat was recorded before it. -/
def Arrived (gate : List GateNote) : Prop :=
  ∃ zones earlier, gate = .checked zones :: earlier ∧ zones.length = 3 ∧
    (∀ z ∈ zones, z = .ring4 ∨ z = .ring5) ∧ LighterSeen earlier

/-- The latest note is an attempt at this threshold, or a retry of one. -/
def Attempted (dbm : ℤ) (gate : List GateNote) : Prop :=
  ∃ k available earlier,
    gate = List.replicate k (.retry dbm) ++ .attempt dbm available :: earlier

/-- What holds of a note after the earlier ones. -/
def GateNote.Rests (earlier : List GateNote) : GateNote → Prop
  | .attempt dbm available =>
    (available = false ∧ dbm = ap1CloseRssiDbm) ∨ (dbm = colourArrivalBleDbm ∧ Arrived earlier)
  | .retry dbm => Attempted dbm earlier
  | .moved => True
  | .checked _ => True
  | .scan _ => True

/-- Every note does. -/
def Gated (n : Nav) : Prop := ∀ e earlier, e :: earlier <:+ n.gate → e.Rests earlier

theorem arrival_iff {z : Zone} : z.arrival = true ↔ z = .ring4 ∨ z = .ring5 := by
  cases z <;> decide

theorem lighterMat_iff {z : Zone} :
    z.lighterMat = true ↔ z = .white ∨ z = .ring1 ∨ z = .ring2 ∨ z = .ring3 := by
  cases z <;> decide

theorem LighterSeen.cons {gate : List GateNote} (h : LighterSeen gate) (e : GateNote) :
    LighterSeen (e :: gate) := by
  obtain ⟨e', hmem, hz⟩ := h
  exact ⟨e', List.mem_cons_of_mem e hmem, hz⟩

theorem lighterSeen_of_any {gate : List GateNote} {e : GateNote}
    (h : e.zones.any Zone.lighterMat = true) : LighterSeen (e :: gate) := by
  obtain ⟨z, hz, hlighter⟩ := List.any_eq_true.mp h
  exact ⟨e, List.mem_cons_self .., z, hz, lighterMat_iff.mp hlighter⟩

theorem Gated.note {n m : Nav} {e : GateNote} (h : Gated n) (he : e.Rests n.gate)
    (hm : m.gate = e :: n.gate) : Gated m := by
  intro e' earlier hsuffix
  rw [hm] at hsuffix
  rcases List.suffix_cons_iff.mp hsuffix with heq | hsuffix
  · obtain ⟨rfl, rfl⟩ := List.cons.inj heq
    exact he
  · exact h e' earlier hsuffix

theorem Gated.same {n m : Nav} (h : Gated n) (hm : m.gate = n.gate) : Gated m := by
  unfold Gated
  rw [hm]
  exact h

/-! ## Between the attempts -/

/-- Where no attempt is running: a lighter part of the mat that the sensor has seen is noted. -/
structure Ready (n : Nav) : Prop where
  gated : Gated n
  idle : n.attemptRunning = false
  seen : n.colour.lighterMatSeen = true → LighterSeen n.gate

theorem Ready.same {n m : Nav} (h : Ready n) (hgate : m.gate = n.gate)
    (hrunning : m.attemptRunning = n.attemptRunning)
    (hseen : m.colour.lighterMatSeen = n.colour.lighterMatSeen) : Ready m where
  gated := h.gated.same hgate
  idle := hrunning.trans h.idle
  seen hs := by
    rw [hgate]
    exact h.seen (hseen ▸ hs)

/-- A note that is not about an attempt. -/
theorem Ready.note {n m : Nav} {e : GateNote} (h : Ready n) (he : e.Rests n.gate)
    (hgate : m.gate = e :: n.gate) (hrunning : m.attemptRunning = n.attemptRunning)
    (hseen : m.colour.lighterMatSeen = true →
      n.colour.lighterMatSeen = true ∨ e.zones.any Zone.lighterMat = true) : Ready m where
  gated := h.gated.note he hgate
  idle := hrunning.trans h.idle
  seen hs := by
    rw [hgate]
    rcases hseen hs with hold | hnew
    · exact (h.seen hold).cons e
    · exact lighterSeen_of_any hnew

theorem roams_ready : Roams Gated Ready where
  safe _ h := h.gated
  same _ _ hm h := h.same hm.gate hm.attemptRunning (congrArg ColourSensor.lighterMatSeen hm.colour)
  moved _ h := h.note (e := .moved) trivial rfl rfl .inl

section Checks

variable {ρ : Type} (L : Layer ρ)

/-- **The arrival check**: an arrival rests on its own readings and on a lighter ring that was
recorded before it. -/
theorem ready_colourArrivalCheck :
    Leads Gated Ready (colourArrivalCheck L) fun arrived n =>
      Ready n ∧ (arrived = true → Arrived n.gate) := by
  have hreading : ∀ n m, Ready n → Reading n m → Ready m := fun n m hn hm =>
    hn.same hm.gate hm.attemptRunning (congrArg (fun s => s.lighterMatSeen) hm.colour)
  refine leads_colourArrivalCheck L (fun n m hn hm => (hreading n m hn hm).gated) ?_ ?_ ?_
  · intro n m hn _ hm
    exact ⟨roams_ready.same n m hm hn, nofun⟩
  · intro n m hn _ hm
    exact ⟨(hreading n m hn hm).same rfl rfl rfl, nofun⟩
  · intro n m zones hn _ hm hlen
    have hready := hreading n m hn hm
    refine ⟨hready.note (e := .checked zones) trivial rfl rfl fun hs => ?_, fun harr => ?_⟩
    · exact (Bool.or_eq_true _ _).mp hs
    · obtain ⟨hall, hseen⟩ := (Bool.and_eq_true _ _).mp harr
      refine ⟨zones, m.gate, rfl, hlen, ?_, hready.seen hseen⟩
      intro z hz
      exact arrival_iff.mp (List.all_eq_true.mp hall z hz)

/-- **The gate** of the first attempt at a stop. -/
theorem ready_closeGate :
    Leads Gated Ready (closeGate L) fun close n =>
      Ready n ∧ (close = true → (GateNote.attempt n.closeRssiDbm n.colour.available).Rests n.gate) := by
  apply (ready_colourArrivalCheck L).bind
  intro onMat
  let seen : Nav → Prop := fun n => Ready n ∧ (onMat = true → Arrived n.gate)
  refine Leads.bind (M := fun _ => seen) ?_ fun _ => ?_
  · exact Leads.set fun n hn => ⟨hn.1.same rfl rfl rfl, hn.2⟩
  apply Leads.look
  intro n hn
  have hsame : ∀ m, Mute n m → seen m := fun m hm =>
    ⟨roams_ready.same n m hm hn.1, fun harr => hm.gate ▸ hn.2 harr⟩
  refine Leads.ite (fun _ => ?_) fun hclose => ?_
  · apply Leads.report
    exact Leads.pure _ fun m hm => ⟨(hsame m hm).1, nofun⟩
  refine Leads.bind (M := fun _ m => Ready m ∧
    (GateNote.attempt m.closeRssiDbm m.colour.available).Rests m.gate) ?_ fun _ =>
      Leads.reportIf (Leads.pure _ fun m hm => ⟨hm.1, fun _ => hm.2⟩)
  apply Leads.set
  intro m hm
  obtain ⟨hready, harrived⟩ := hsame m hm
  -- no attempt is running, so the threshold is taken over
  rw [if_neg (by rw [hready.idle]; exact Bool.false_ne_true)]
  refine ⟨hready.same rfl rfl rfl, ?_⟩
  cases onMat with
  | true => exact .inr ⟨rfl, harrived rfl⟩
  | false =>
    refine .inl ⟨?_, rfl⟩
    have havail : n.colour.available = false := by simpa using hclose
    rw [← havail]
    exact congrArg ColourSensor.available hm.colour

/-- Between the attempts of a check: close range that was found was attempted. -/
def Trying (wasClose : Bool) (n : Nav) : Prop :=
  Ready n ∧ (wasClose = true → Attempted n.closeRssiDbm n.gate)

theorem steady_trying (wasClose : Bool) : Steady Gated (Trying wasClose) where
  safe _ h := h.1.gated
  same n m hm h := by
    refine ⟨roams_ready.same n m hm h.1, ?_⟩
    intro hc
    rw [hm.closeRssiDbm, hm.gate]
    exact h.2 hc

/-- **An attempt** that rests on the gate; only a fatal one may go on running. -/
theorem trying_attempt {n : Nav} {e : GateNote} (c : Cmd ρ AttemptEnd) (hn : Ready n)
    (hrests : e.Rests n.gate) (hattempted : Attempted n.closeRssiDbm (e :: n.gate)) :
    Leads Gated (Mute n) (do
      noteGate e
      let finish ← onFirst c
      setNav fun n => { n with attemptRunning := finish.running }
      return finish.result) (Lasts Gated (Trying true)) := by
  refine Leads.bind (M := fun _ => Trying true) ?_ fun _ => ?_
  · refine Leads.set fun m hm => ⟨?_, fun _ => ?_⟩
    · have hready := roams_ready.same n m hm hn
      exact hready.note (hm.gate.symm ▸ hrests) rfl rfl .inl
    · rw [hm.closeRssiDbm, hm.gate]
      exact hattempted
  apply Leads.quiet (steady_trying true) (quiet_layer _)
  intro finish x m hm
  refine ⟨fun hr => ⟨?_, hm.2⟩, fun _ => hm.1.gated⟩
  exact ⟨hm.1.gated, finish.cleaned hr, hm.1.seen⟩

theorem trying_payloadTry (wasClose : Bool) :
    Leads Gated (Trying wasClose) (payloadTry L wasClose) fun r n => match r with
      | none => Ready n
      | some .fatal => Gated n
      | some _ => Trying true n := by
  -- an attempt, with the result that it gives
  have hresult : ∀ (P : Nav → Prop) (c : Cmd (ρ × Nav) PayloadResult),
      Leads Gated P c (Lasts Gated (Trying true)) →
      Leads Gated P (do
        let result ← c
        return some result) fun r n => match r with
          | none => Ready n
          | some .fatal => Gated n
          | some _ => Trying true n := by
    intro P c hc
    refine hc.bind fun result => Leads.pure _ ?_
    intro n hn
    match result with
    | .fatal => exact hn.2 rfl
    | .complete => exact hn.1 nofun
    | .notClose => exact hn.1 nofun
    | .retry => exact hn.1 nofun
  refine Leads.ite (fun hclose => ?_) fun _ => ?_
  · refine hresult _ _ (Leads.look ?_)
    intro n hn
    obtain ⟨k, available, earlier, hgate⟩ := hn.2 hclose
    refine trying_attempt _ hn.1 ⟨k, available, earlier, hgate⟩ ⟨k + 1, available, earlier, ?_⟩
    rw [hgate]
    rfl
  · apply ((ready_closeGate L).mono (fun n hn => hn.1) fun _ _ hn => hn).bind
    intro close
    refine Leads.ite ?_ fun _ => Leads.pure _ fun n hn => hn.1
    intro hclose
    refine hresult _ _ (Leads.look ?_)
    intro n hn
    exact trying_attempt _ hn.1 (hn.2 hclose) ⟨0, _, _, rfl⟩

/-- **A payload check** keeps to the gate. -/
theorem ready_checkPayload (place : Place) :
    Leads Gated Ready (checkPayload L place) (Lasts Gated Ready) := by
  refine Leads.bind (M := fun _ => Trying false) ?_ fun _ => ?_
  · exact Leads.set fun n hn => ⟨hn.same rfl rfl rfl, nofun⟩
  have hattempts := leads_payloadAttempts (P := Trying) (Q := Lasts Gated Ready) L
    steady_trying (fun _ _ _ hn => ⟨fun _ => hn.1, fun _ => hn.1.gated⟩) ?_
    maxPayloadAttempts false
  · apply hattempts.bind
    intro result x n hn
    refine ⟨fun hr => (hn.1 hr).same rfl rfl rfl, fun hr => (hn.2 hr).same rfl⟩
  · intro wasClose
    apply (trying_payloadTry L wasClose).mono (fun n hn => hn)
    intro r n hn
    match r with
    | none => exact ⟨fun _ => hn, nofun⟩
    | some .fatal => exact ⟨fun h => absurd rfl h, fun _ => hn⟩
    | some .complete => exact hn
    | some .notClose => exact hn
    | some .retry => exact hn

/-- A block is a movement, and is followed by a check. -/
theorem ready_translateBlock {place : Place} {forwards : Bool} {duration : UInt32}
    {heading : Float32} {position reservedReturn : UInt32} {acquireMoving : Bool} :
    Leads Gated Ready
      (translateBlock L place forwards duration heading position reservedReturn acquireMoving)
      fun r => GoesOn Gated Ready r.1 := by
  have hmoved : ∀ n m, Ready n → m.gate = .moved :: n.gate →
      m.attemptRunning = n.attemptRunning → m.colour = n.colour → Ready m :=
    fun n m hn hgate hrunning hcolour => hn.note (e := .moved) trivial hgate hrunning
      fun hs => .inl (hcolour ▸ hs)
  refine leads_translateBlock_of (Q := fun _ => Ready) L ?_ ?_ ?_
  · intro n m hn hm
    exact (hmoved n m hn hm.gate hm.attemptRunning hm.colour).gated
  · intro n m actual hn _ hm
    exact (hmoved n m hn hm.gate hm.attemptRunning hm.colour).gated
  · intro n actual hn _
    refine ((ready_checkPayload L place).goes fun m hm => hm.gated).mono ?_ fun _ _ hm => hm
    intro m hm
    exact hmoved n m hn hm.gate hm.attemptRunning hm.colour

/-! ## Runs -/

/-- A completed colour scan is recorded, too. -/
theorem Scanned.ready {ok : Bool} {zones : Option (List Zone)} {n m : Nav}
    (h : Scanned ok zones n m) (hn : Ready n) : Ready m := by
  cases zones with
  | none => exact hn.same h.gate h.attemptRunning (congrArg ColourSensor.lighterMatSeen h.colour)
  | some zones =>
    apply hn.note (e := .scan zones) trivial h.gate h.attemptRunning
    intro hs
    have hcolour : m.colour =
        if zones.any Zone.lighterMat then n.colour.noteLighterMat else n.colour := h.colour
    by_cases hany : zones.any Zone.lighterMat = true
    · exact .inr hany
    · rw [if_neg hany] at hcolour
      exact .inl (hcolour ▸ hs)

theorem follows_gate : Follows L Gated Ready Ready Ready where
  frees := roams_ready
  stops := roams_ready.toSteady
  enters := roams_ready.toSteady
  logged _ _ hn := hn.same rfl rfl rfl
  check place _ := ready_checkPayload L place
  lineBlock _ _ _ _ _ := ready_translateBlock L
  otherBlock _ _ _ _ _ _ _ _ := ready_translateBlock L
  mat _ hn _ _ := hn
  noMat _ hn _ := hn

theorem steers_gate : Steers L Gated Ready Ready Ready Ready where
  enters := roams_ready.toSteady
  scans := roams_ready
  holds := roams_ready
  frees := roams_ready.toSteady
  again _ hn := hn
  spent _ hn _ := hn
  scan _ hn _ := hn.same rfl rfl rfl
  scanned n m ok zones hn hm := by
    split
    · exact hm.ready hn
    · exact hm.ready hn
  steeringCheck := ready_checkPayload L .steering
  steeringBlock _ := ready_translateBlock L
  settled _ hn _ := hn

theorem searches_gate : Searches L Gated Ready Ready Ready Ready Ready (AfterLine Ready Ready) :=
  (follows_gate L).searches (steers_gate L) roams_ready (ready_checkPayload L .start)
    (fun _ hn _ _ => hn) fun _ hn _ => hn

end Checks

/-- **The transfer gate**: in a run of `approach_beacon`, wherever it is cut off, every attempt
rests on the gate: the sensor is not available and the threshold is the one for that, or the
check just before it found only ring 4 and 5 where a lighter part of the mat had been recorded
earlier; and every retry is one of such an attempt, at the same threshold. -/
theorem approachBeacon_gated {ρ : Type} (L : Layer ρ) (x : ρ) (colour : ColourSensor) :
    Gated (exec (approachBeacon L) (x, Nav.boot colour)).2.2 := by
  -- before the run nothing is known of the mat
  let idle : Nav → Prop := fun n => Gated n ∧ n.attemptRunning = false
  have hidle : Steady Gated idle := ⟨fun n hn => hn.1, fun n m hm hn =>
    ⟨hn.1.same hm.gate, hm.attemptRunning.trans hn.2⟩⟩
  have hempty : ∀ n : Nav, n.gate = [] → Gated n := by
    intro n hn e earlier hsuffix
    rw [hn] at hsuffix
    exact absurd (List.suffix_nil.mp hsuffix) (List.cons_ne_nil _ _)
  have hrun := (searches_gate L).approachBeacon hidle
    (fun n now hn => ⟨hempty _ rfl, hn.2, nofun⟩) x (Nav.boot colour) ⟨hempty _ rfl, rfl⟩
  exact always hrun

end Navigation
