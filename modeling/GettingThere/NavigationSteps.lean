/-
# What the parts of the approach do to the notes

Most of the approach leaves alone what its promises are about (`Mute`, `Quiet`): the notes, the
powered time, the colour scans used and what the colour sensor has seen.  The rest adds notes:
a turn, a payload check, a powered block, a colour scan.  There is one rule for each of these.

`Leads J P c Q`: from `P` the command leads to `Q`, and `J` holds wherever it is cut off.
-/
import GettingThere.CommandTriples
import GettingThere.Navigation

open CrashLogic
open PayloadClient (PayloadResult)

namespace Navigation

/-! ## Rules -/

/-- The states agree in what the promises are about. -/
structure Mute (n m : Nav) : Prop where
  events : m.events = n.events
  translationMs : m.translationMs = n.translationMs
  matScansUsed : m.matScansUsed = n.matScansUsed
  colourArrived : m.colourArrived = n.colourArrived
  colour : m.colour = n.colour
  closeRssiDbm : m.closeRssiDbm = n.closeRssiDbm
  attemptRunning : m.attemptRunning = n.attemptRunning
  log : m.log = n.log
  gate : m.gate = n.gate

theorem Mute.refl (n : Nav) : Mute n n :=
  ⟨rfl, rfl, rfl, rfl, rfl, rfl, rfl, rfl, rfl⟩

theorem Mute.trans {n m k : Nav} (h : Mute n m) (h' : Mute m k) : Mute n k :=
  ⟨h'.events.trans h.events, h'.translationMs.trans h.translationMs,
    h'.matScansUsed.trans h.matScansUsed, h'.colourArrived.trans h.colourArrived,
    h'.colour.trans h.colour, h'.closeRssiDbm.trans h.closeRssiDbm,
    h'.attemptRunning.trans h.attemptRunning, h'.log.trans h.log, h'.gate.trans h.gate⟩

/-- The length of the profile is of no concern. -/
theorem Mute.profile (n : Nav) (k : ℕ) : Mute n { n with profileCount := k } :=
  ⟨rfl, rfl, rfl, rfl, rfl, rfl, rfl, rfl, rfl⟩

/-- So is what the last step was taken on. -/
theorem Mute.step (n : Nav) (b : Bool) : Mute n { n with stepOnMat := b } :=
  ⟨rfl, rfl, rfl, rfl, rfl, rfl, rfl, rfl, rfl⟩

section Rules

variable {ρ α β γ : Type} {J P P' : Nav → Prop} {c : Cmd (ρ × Nav) α} {f : α → Cmd (ρ × Nav) β}
  {M : α → Nav → Prop} {Q : β → Nav → Prop}

/-- From `P` the command leads to `Q`; `J` holds wherever it is cut off. -/
def Leads (J P : Nav → Prop) (c : Cmd (ρ × Nav) α) (Q : α → Nav → Prop) : Prop :=
  ∀ x n, P n → wp c (fun a s => Q a s.2) (fun s => J s.2) (x, n)

/-- The command is mute. -/
def Quiet (c : Cmd (ρ × Nav) α) : Prop :=
  ∀ x n, wp c (fun _ s => Mute n s.2) (fun s => Mute n s.2) (x, n)

/-- `Leads` is a triple on the statics. -/
theorem leads_iff :
    Leads J P c M ↔ Triple (fun s => J s.2) (fun s => P s.2) c fun a s => M a s.2 :=
  ⟨fun h s => h s.1 s.2, fun h x n => h (x, n)⟩

/-- A quiet command steps along `Mute`. -/
theorem quiet_iff : Quiet c ↔ Steps (fun s t => Mute s.2 t.2) c :=
  ⟨fun h s => h s.1 s.2, fun h x n => h (x, n)⟩

instance : IsPreorder (ρ × Nav) fun s t => Mute s.2 t.2 where
  refl s := Mute.refl s.2
  trans _ _ _ := Mute.trans

/-- A condition that gives `J` and is kept by a mute command. -/
structure Steady (J P : Nav → Prop) : Prop where
  safe : ∀ n, P n → J n
  same : ∀ n m, Mute n m → P n → P m

/-- The robot may move, too. -/
structure Roams (J P : Nav → Prop) : Prop extends Steady J P where
  moved : ∀ n, P n → P { n with gate := .moved :: n.gate }

theorem Leads.pure (a : α) (h : ∀ n, P n → M a n) :
    Leads J P (pure a : Cmd (ρ × Nav) α) M := fun _ n hn => h n hn

/-- What the first command leads to, the second one starts from. -/
theorem Leads.bind (hc : Leads J P c M) (hf : ∀ a, Leads J (M a) (f a) Q) :
    Leads J P (c >>= f) Q := by
  rw [leads_iff] at hc ⊢
  exact hc.bind fun a => leads_iff.mp (hf a)

/-- A weaker condition before, a stronger one after. -/
theorem Leads.mono {M' : α → Nav → Prop} (h : Leads J P c M) (hP : ∀ n, P' n → P n)
    (hM : ∀ a n, M a n → M' a n) : Leads J P' c M' := by
  rw [leads_iff] at h ⊢
  refine (Triple.before ?_ h).after ?_
  · exact fun s => hP s.2
  · exact fun a s => hM a s.2

/-- A fact about the data, whatever the state. -/
theorem Leads.given {p : Prop} (h : p → Leads J P c M) : Leads J (fun n => p ∧ P n) c M :=
  fun x n hn => h hn.1 x n hn.2

/-- One way or the other. -/
theorem Leads.ite {p : Prop} [Decidable p] {a b : Cmd (ρ × Nav) α} (ha : p → Leads J P a M)
    (hb : ¬ p → Leads J P b M) : Leads J P (if p then a else b) M :=
  leads_iff.mpr (Triple.ite (fun hp => leads_iff.mp (ha hp)) fun hp => leads_iff.mp (hb hp))

/-- The statics are looked at. -/
theorem Leads.look {f : Nav → Cmd (ρ × Nav) β} (hf : ∀ m, P m → Leads J (Mute m) (f m) Q) :
    Leads J P (getNav >>= f) Q := by
  intro x n hn
  rw [wp_bind]
  exact hf n hn x n (Mute.refl n)

/-- The statics are changed. -/
theorem Leads.set {g : Nav → Nav} {Q : Unit → Nav → Prop} (hg : ∀ n, P n → Q () (g n)) :
    Leads J P (setNav g : Cmd (ρ × Nav) Unit) Q := fun _ n hn => hg n hn

/-- A quiet command keeps every condition. -/
theorem Quiet.leads (hc : Quiet c) (hP : Steady J P) : Leads J P c fun _ => P := by
  rw [quiet_iff] at hc
  rw [leads_iff]
  exact hc.triple (fun s t => hP.same s.2 t.2) fun s => hP.safe s.2

/-- A quiet command, and then another one. -/
theorem Leads.quiet (hP : Steady J P) (hc : Quiet c) (hf : ∀ a, Leads J P (f a) Q) :
    Leads J P (c >>= f) Q :=
  (hc.leads hP).bind hf

/-- A loop, from an invariant of one round. -/
theorem Leads.loop {L : Layer ρ} {body : β → Cmd (ρ × Nav) (β ⊕ γ)} {I : β → Nav → Prop}
    {Q : γ → Nav → Prop} (hI : ∀ b n, I b n → J n)
    (hbody : ∀ b, Leads J (I b) (body b) fun r n => r.elim (fun b' => I b' n) fun c => Q c n)
    (b : β) : Leads J (I b) (repeatRounds L body b) Q := by
  rw [leads_iff]
  refine Triple.look ?_
  rintro t -
  refine (Triple.iterate (I := fun b s => I b s.2) (fun b s => hI b s.2) ?_ _ b).before ?_
  · exact fun b => leads_iff.mp (hbody b)
  · exact fun s hs => hs.1

/-- Agreeing with a state in which a steady condition holds is steady itself. -/
theorem steady_mute {n : Nav} (hP : Steady J P) (hn : P n) : Steady J (Mute n) :=
  ⟨fun m hm => hP.safe m (hP.same n m hm hn), fun _ _ h h' => h'.trans h⟩

theorem Quiet.pure (a : α) : Quiet (pure a : Cmd (ρ × Nav) α) := fun _ n => Mute.refl n

/-- Mute commands one after the other are mute. -/
theorem Quiet.bind (hc : Quiet c) (hf : ∀ a, Quiet (f a)) : Quiet (c >>= f) := by
  rw [quiet_iff] at hc ⊢
  exact hc.bind fun a => quiet_iff.mp (hf a)

/-- A look at the statics is mute if what follows is. -/
theorem Quiet.look {f : Nav → Cmd (ρ × Nav) β} (hf : ∀ m, Quiet (f m)) :
    Quiet (getNav >>= f) := by
  intro x n
  rw [wp_bind]
  exact hf n x n

/-- What the layer does leaves the statics alone. -/
theorem quiet_layer (c : Cmd ρ α) : Quiet (onFirst c : Cmd (ρ × Nav) α) := by
  intro x n
  rw [wp_onFirst]
  exact wp_of_forall (fun _ _ => Mute.refl n) fun _ => Mute.refl n

/-- A line of the report, and then something else. -/
theorem Leads.report {L : Layer ρ} {rest : Cmd (ρ × Nav) β} (hrest : Leads J P rest Q) :
    Leads J P (reportPrintf L >>= fun _ => rest) Q := fun x n hn => hrest (L.reportPrintf x) n hn

/-- A report does not change where the next command leads. -/
theorem Leads.reportIf {L : Layer ρ} {b : Bool} {rest : Cmd (ρ × Nav) β}
    (hrest : Leads J P rest Q) : Leads J P (reportIf L b >>= fun _ => rest) Q := by
  cases b with
  | true => exact hrest.report
  | false => exact hrest

/-- A report does not change whether the next command is mute. -/
theorem Quiet.report {L : Layer ρ} {rest : Cmd (ρ × Nav) β} (hrest : Quiet rest) :
    Quiet (reportPrintf L >>= fun _ => rest) := fun x n => hrest (L.reportPrintf x) n

/-- Reporting how a pair is judged does not change where the next command leads. -/
theorem Leads.reportJudged {L : Layer ρ} {l : Line} {current : LinePair} {rest : Cmd (ρ × Nav) β}
    (hrest : Leads J P rest Q) : Leads J P (reportJudged L l current >>= fun _ => rest) Q := by
  refine Leads.bind (M := fun _ => P) (Leads.reportIf (Leads.reportIf ?_)) fun _ => hrest
  intro x n hn
  cases hrises : (l.keepBest current).strengthens current with
  | true => exact hn
  | false => exact hn

/-- A write to other fields is mute. -/
theorem quiet_setNav {g : Nav → Nav} (hg : ∀ n, Mute n (g n)) :
    Quiet (setNav g : Cmd (ρ × Nav) Unit) := fun _ n => hg n

/-- A quiet command ends in one of two ways. -/
theorem Quiet.ite {p : Prop} [Decidable p] {a b : Cmd (ρ × Nav) α} (ha : Quiet a)
    (hb : Quiet b) : Quiet (if p then a else b) :=
  quiet_iff.mpr (Steps.ite (quiet_iff.mp ha) (quiet_iff.mp hb))

end Rules

/-! ## Quiet parts -/

section Quiet

variable {ρ : Type} (L : Layer ρ)

/-- The tests of STOP and of the report are mute. -/
theorem quiet_runCanContinue : Quiet (runCanContinue L) := Quiet.look fun _ => quiet_layer _

/-- A checkpoint is mute. -/
theorem quiet_saveCheckpoint : Quiet (saveCheckpoint L) := by
  refine (quiet_layer _).bind fun _ => Quiet.look ?_
  intro n
  apply Quiet.ite (Quiet.pure _)
  refine (quiet_layer _).bind fun _ => Quiet.ite (Quiet.pure _) ?_
  refine (quiet_layer _).bind fun _ => Quiet.ite (Quiet.pure _) ?_
  exact (quiet_layer _).bind fun _ => Quiet.pure _

/-- Noting a point is mute. -/
theorem quiet_recordPoint : Quiet (recordPoint L) := by
  refine Quiet.look fun n => Quiet.ite ?_ ?_
  · exact (quiet_layer _).bind fun _ => (Quiet.pure _).report
  · apply Quiet.bind (quiet_setNav fun n => Mute.profile n _)
    intro _
    exact (quiet_saveCheckpoint L).report

/-- Steering is ready on the mat, as long as there is a scan left. -/
theorem leads_matSteeringReady {J P : Nav → Prop} (hP : Steady J P) :
    Leads J P (matSteeringReady : Cmd (ρ × Nav) Bool) fun ready n =>
      (ready = true ↔ n.colour.colourOnMat = true ∧ n.matScansUsed < matMaxScans) ∧ P n := by
  refine Leads.look fun n hn => Leads.pure _ fun m hm => ⟨?_, hP.same n m hm hn⟩
  rw [hm.colour, hm.matScansUsed, Bool.and_eq_true, decide_eq_true_iff]

/-- A forward block has one of two lengths. -/
theorem leads_forwardBlockMs {J P : Nav → Prop} (hP : Steady J P) :
    Leads J P (forwardBlockMs L) fun step n =>
      (step = lineMatBlockMs ∨ step = lineForwardBlockMs) ∧ P n := by
  apply Leads.look
  intro n hn
  have hend : Leads J (Mute n)
      (pure (if n.colour.colourOnMat then lineMatBlockMs else lineForwardBlockMs) :
        Cmd (ρ × Nav) UInt32)
      fun step n => (step = lineMatBlockMs ∨ step = lineForwardBlockMs) ∧ P n := by
    refine Leads.pure _ fun m hm => ⟨?_, hP.same n m hm hn⟩
    cases n.colour.colourOnMat with
    | false => exact .inr rfl
    | true => exact .inl rfl
  refine Leads.ite ?_ fun _ => hend
  intro _
  apply Leads.quiet (steady_mute hP hn) (quiet_setNav fun n => Mute.step n _)
  intro _
  exact hend.report

/-- A reading of the sensor is mute. -/
theorem quiet_colourSensorRead : Quiet (colourSensorRead L) :=
  Quiet.look fun _ => Quiet.ite (quiet_layer _) (Quiet.pure _)

/-- A reading within a scan is mute. -/
theorem quiet_scanRead : Quiet (scanRead L) := by
  apply (quiet_colourSensorRead L).bind
  intro a
  cases a with
  | none => exact Quiet.pure _
  | some a =>
    apply (quiet_colourSensorRead L).bind
    intro b
    cases b with
    | none => exact Quiet.pure _
    | some b =>
      apply (quiet_colourSensorRead L).bind
      intro c
      cases c with
      | none => exact Quiet.pure _
      | some c => exact Quiet.pure _

/-- A turn is noted as a movement. -/
theorem leads_turnToHeading {J P : Nav → Prop} (hP : Roams J P) (heading : Float32) :
    Leads J P (turnToHeading L heading) fun _ => P :=
  Leads.bind (M := fun _ => P) (Leads.set hP.moved) fun _ => (quiet_layer _).leads hP.toSteady

/-- A scan turns and reads, by induction on the positions that are left. -/
theorem leads_scanSteps {J P : Nav → Prop} (hP : Roams J P) (origin : Float32) (n : ℕ)
    (readings : List (ℤ × ColourReading)) :
    Leads J P (scanSteps L origin n readings) fun _ => P := by
  have hend : ∀ r, Leads J P (pure r : Cmd (ρ × Nav) (ScanStatus × List (ℤ × ColourReading)))
      fun _ => P := fun r => Leads.pure r fun _ hm => hm
  induction n generalizing readings with
  | zero => exact (hend _).report
  | succ n ih =>
    refine Leads.quiet hP.toSteady (quiet_runCanContinue L) fun _ => Leads.ite (fun _ => hend _) ?_
    intro _
    refine (leads_turnToHeading L hP _).bind fun _ => Leads.ite (fun _ => hend _) ?_
    intro _
    refine Leads.quiet hP.toSteady (quiet_layer _) fun _ => Leads.ite (fun _ => hend _) ?_
    intro _
    apply Leads.quiet hP.toSteady (quiet_scanRead L)
    intro reading
    cases reading with
    | none => exact (hend _).report
    | some reading =>
      apply Leads.report
      refine Leads.quiet hP.toSteady (quiet_layer _) fun _ => Leads.ite ?_ fun _ => ih _
      intro _
      exact Leads.quiet hP.toSteady (quiet_layer _) fun _ => hend _

end Quiet

/-! ## Payload checks -/

/-- The states agree up to what a stop learns of the mat. -/
structure Still (n m : Nav) : Prop where
  events : m.events = n.events
  translationMs : m.translationMs = n.translationMs
  matScansUsed : m.matScansUsed = n.matScansUsed
  log : m.log = n.log

theorem Still.refl (n : Nav) : Still n n := ⟨rfl, rfl, rfl, rfl⟩

theorem Still.trans {n m k : Nav} (h : Still n m) (h' : Still m k) : Still n k :=
  ⟨h'.events.trans h.events, h'.translationMs.trans h.translationMs,
    h'.matScansUsed.trans h.matScansUsed, h'.log.trans h.log⟩

/-- A mute change learns nothing of the mat either. -/
theorem Mute.still {n m : Nav} (h : Mute n m) : Still n m :=
  ⟨h.events, h.translationMs, h.matScansUsed, h.log⟩

/-- An arrival has seen the mat. -/
structure Settled (n m : Nav) : Prop extends Still n m where
  onMat : m.colourArrived = true → m.colour.colourOnMat = true

/-- An arrival that has seen the mat is kept by mute commands. -/
theorem steady_settled (n : Nav) : Steady (Still n) (Settled n) := by
  refine ⟨fun m h => h.toStill, fun m k h hm => ⟨hm.toStill.trans h.still, ?_⟩⟩
  intro hk
  rw [h.colour]
  exact hm.onMat (h.colourArrived ▸ hk)

/-- What a `check_payload` leaves. -/
structure Checked (place : Place) (n : Nav) (result : PayloadResult) (m : Nav) : Prop where
  events : m.events = .checked place m.colourArrived result n.matScansUsed :: n.events
  translationMs : m.translationMs = n.translationMs
  matScansUsed : m.matScansUsed = n.matScansUsed
  log : m.log = n.log
  onMat : m.colourArrived = true → m.colour.colourOnMat = true

/-- A condition on the notes of the run and of its lines, the powered time and the scans used,
which checks keep. -/
structure Loose (J : Nav → Prop) : Prop where
  same : ∀ n m, Still n m → J n → J m
  checked : ∀ n m place r, Checked place n r m → J n → J m

section Checks

variable {ρ : Type} (L : Layer ρ)

/-- Readings that succeed are all there. -/
theorem leads_readZones {J P : Nav → Prop} (hP : Steady J P) (n : ℕ) (zones : List Zone) :
    Leads J P (readZones L n zones) fun r m =>
      P m ∧ ∀ zs, r = some zs → zs.length = zones.length + n := by
  induction n generalizing zones with
  | zero =>
    refine Leads.pure _ fun m hm => ⟨hm, ?_⟩
    intro zs h
    rw [← Option.some.inj h, Nat.add_zero]
  | succ n ih =>
    apply Leads.quiet hP (quiet_layer _)
    intro reading
    cases reading with
    | none => exact Leads.pure _ fun m hm => ⟨hm, nofun⟩
    | some reading =>
      apply (ih (zones ++ [colourClassify reading])).mono (fun m hm => hm)
      intro r m hm
      refine ⟨hm.1, ?_⟩
      intro zs h
      rw [hm.2 zs h, List.length_append, List.length_singleton]
      omega

/-- The state of an arrival check while it reads the sensor. -/
def Reading (n m : Nav) : Prop := Mute { n with colour := n.colour.startCheck } m

/-- **The arrival check**: without a sensor there is none; a failed reading counts against the
sensor, and readings that succeed are noted and judged. -/
theorem leads_colourArrivalCheck {J P : Nav → Prop} {Q : Bool → Nav → Prop}
    (hsafe : ∀ n m, P n → Reading n m → J m)
    (hnone : ∀ n m, P n → n.colour.available = false → Mute n m → Q false m)
    (hfail : ∀ n m, P n → n.colour.available = true → Reading n m →
      Q false { m with colour := m.colour.failCheck })
    (hdone : ∀ n m zones, P n → n.colour.available = true → Reading n m → zones.length = 3 →
      Q (m.colour.finishCheck zones).2 { m with
        colour := (m.colour.finishCheck zones).1
        gate := .checked zones :: m.gate }) :
    Leads J P (colourArrivalCheck L) Q := by
  refine Leads.look fun n hn => Leads.ite (fun havail => ?_) fun havail => ?_
  · exact Leads.pure _ fun m hm => hnone n m hn (by simpa using havail) hm
  have hsensor : n.colour.available = true := by simpa using havail
  have hsteady : Steady J (Reading n) := ⟨fun m hm => hsafe n m hn hm, fun _ _ h hm => hm.trans h⟩
  refine Leads.bind (M := fun _ => Reading n) ?_ fun _ => ?_
  · apply Leads.set
    intro m hm
    exact ⟨hm.events, hm.translationMs, hm.matScansUsed, hm.colourArrived,
      congrArg ColourSensor.startCheck hm.colour, hm.closeRssiDbm, hm.attemptRunning, hm.log, hm.gate⟩
  apply (leads_readZones L hsteady 3 []).bind
  intro zones
  cases zones with
  | none =>
    refine Leads.bind (M := fun _ => Q false) ?_ fun _ => ?_
    · exact Leads.set fun m hm => hfail n m hn hsensor hm.1
    · exact Leads.report (Leads.pure _ fun m hm => hm)
  | some zones =>
    intro x k hk
    exact hdone n k zones hn hsensor hk.1 (hk.2 zones rfl)

/-- A check that finds the arrival has seen the mat. -/
theorem settled_colourArrivalCheck (n : Nav) :
    Leads (Still n) (Still n) (colourArrivalCheck L) fun arrived m =>
      Still n m ∧ (arrived = true → m.colour.colourOnMat = true) := by
  have hreading : ∀ k m, Still n k → Reading k m → Still n m := fun k m hk hm =>
    hk.trans ⟨hm.events, hm.translationMs, hm.matScansUsed, hm.log⟩
  refine leads_colourArrivalCheck L hreading ?_ ?_ ?_
  · intro k m hk _ hm
    exact ⟨hk.trans hm.still, nofun⟩
  · intro k m hk _ hm
    have hstill := hreading k m hk hm
    exact ⟨⟨hstill.events, hstill.translationMs, hstill.matScansUsed, hstill.log⟩, nofun⟩
  · intro k m zones hk havail hm hlen
    have hstill := hreading k m hk hm
    refine ⟨⟨hstill.events, hstill.translationMs, hstill.matScansUsed, hstill.log⟩, ?_⟩
    intro harr
    have hsensor : m.colour.available = true := (congrArg ColourSensor.available hm.colour).trans havail
    have hne : zones ≠ [] := List.ne_nil_of_length_eq_add_one hlen
    show (m.colour.available && (m.colour.finishCheck zones).1.onMat) = true
    rw [ColourSensor.onMat_finishCheck hne harr, hsensor]
    rfl

/-- The Wi-Fi gate reads the colour at a stop, and an arrival has seen the mat. -/
theorem settled_closeGate (n : Nav) :
    Leads (Still n) (Still n) (closeGate L) fun _ => Settled n := by
  apply (settled_colourArrivalCheck L n).bind
  intro onMat
  refine Leads.bind (M := fun _ => Settled n) ?_ fun _ => ?_
  · refine Leads.set fun m hm => ⟨⟨hm.1.events, hm.1.translationMs, hm.1.matScansUsed, hm.1.log⟩, ?_⟩
    exact fun harr => hm.2 harr
  apply Leads.look
  intro m hm
  have hsame := fun k hk => (steady_settled n).same m k hk hm
  refine Leads.ite (fun _ => ?_) fun _ => ?_
  · apply Leads.report
    exact Leads.pure _ hsame
  refine Leads.bind (M := fun _ => Settled n) ?_ fun _ => ?_
  · apply Leads.set
    intro k hk
    have hset := hsame k hk
    split
    · exact hset
    · exact ⟨⟨hset.events, hset.translationMs, hset.matScansUsed, hset.log⟩, hset.onMat⟩
  · apply Leads.reportIf
    exact Leads.pure _ fun k hk => hk

/-- An attempt leaves alone what is not its own. -/
theorem settled_attempt (n : Nav) {e : GateNote} {c : Cmd ρ AttemptEnd} :
    Leads (Still n) (Settled n) (do
      noteGate e
      let finish ← onFirst c
      setNav fun n => { n with attemptRunning := finish.running }
      return finish.result) fun _ => Settled n := by
  refine Leads.bind (M := fun _ => Settled n) ?_ fun _ => ?_
  · exact Leads.set fun m hm => ⟨⟨hm.events, hm.translationMs, hm.matScansUsed, hm.log⟩, hm.onMat⟩
  apply Leads.quiet (steady_settled n) (quiet_layer _)
  intro finish
  refine Leads.bind (M := fun _ => Settled n) ?_ fun _ => Leads.pure _ fun m hm => hm
  exact Leads.set fun m hm => ⟨⟨hm.events, hm.translationMs, hm.matScansUsed, hm.log⟩, hm.onMat⟩

/-- An attempt changes nothing of what an arrival has seen. -/
theorem settled_payloadTry (n : Nav) (wasClose : Bool) :
    Leads (Still n) (Settled n) (payloadTry L wasClose) fun _ => Settled n := by
  refine Leads.ite (fun _ => ?_) fun _ => ?_
  · refine Leads.bind (M := fun _ => Settled n) ?_ fun _ => Leads.pure _ fun m hm => hm
    apply Leads.look
    intro m hm
    exact (settled_attempt n).mono (fun k hk => (steady_settled n).same m k hk hm) fun _ _ hk => hk
  apply ((settled_closeGate L n).mono (fun m hm => hm.toStill) fun _ _ hm => hm).bind
  intro close
  refine Leads.ite ?_ fun _ => Leads.pure _ fun m hm => hm
  intro _
  refine Leads.bind (M := fun _ => Settled n) ?_ fun _ => Leads.pure _ fun m hm => hm
  apply Leads.look
  intro m hm
  exact (settled_attempt n).mono (fun k hk => (steady_settled n).same m k hk hm) fun _ _ hk => hk

/-- **The attempts of a check**, from what one of them does. -/
theorem leads_payloadAttempts {J : Nav → Prop} {P : Bool → Nav → Prop}
    {Q : PayloadResult → Nav → Prop} (hP : ∀ b, Steady J (P b)) (hQ : ∀ b r n, P b n → Q r n)
    (htry : ∀ b, Leads J (P b) (payloadTry L b) fun r n => match r with
      | none => Q .notClose n
      | some .fatal => Q .fatal n
      | some _ => P true n) (k : ℕ) (wasClose : Bool) :
    Leads J (P wasClose) (payloadAttempts L k wasClose) Q := by
  have hend : ∀ b r, Leads J (P b) (pure r : Cmd (ρ × Nav) PayloadResult) Q :=
    fun b r => Leads.pure r (hQ b r)
  induction k generalizing wasClose with
  | zero => exact Leads.quiet (hP _) (quiet_layer _) fun _ => (hend _ _).report
  | succ k ih =>
    refine Leads.quiet (hP _) (quiet_runCanContinue L) fun ok => Leads.ite (fun _ => hend _ _) ?_
    intro _
    refine Leads.quiet (hP _) (quiet_saveCheckpoint L) fun ok => Leads.ite (fun _ => hend _ _) ?_
    intro _
    apply (htry wasClose).bind
    intro result
    -- after an attempt that is not fatal: return, or try again close to the beacon
    have hafter : ∀ r : PayloadResult, Leads J (P true) (do
        if !(← saveCheckpoint L) then
          return .fatal
        if r = .complete ∨ (r = .notClose ∧ wasClose = false) then
          return r
        if k = 0 then
          payloadAttempts L k true
        else
          reportPrintf L
          if ← onFirst (L.pauseMs 200) then
            payloadAttempts L k true
          else
            return .fatal) Q := by
      intro r
      refine Leads.quiet (hP _) (quiet_saveCheckpoint L) fun ok => Leads.ite (fun _ => hend _ _) ?_
      intro _
      refine Leads.ite (fun _ => hend _ _) fun _ => Leads.ite (fun _ => ih true) ?_
      intro _
      apply Leads.report
      exact Leads.quiet (hP _) (quiet_layer _) fun ok =>
        Leads.ite (fun _ => ih true) fun _ => hend _ _
    match result with
    | none => exact Leads.pure _ fun m hm => hm
    | some .fatal => exact Leads.pure _ fun m hm => hm
    | some .complete => exact hafter _
    | some .notClose => exact hafter _
    | some .retry => exact hafter _

/-- **A payload check** adds its note. -/
theorem leads_checkPayload {J P : Nav → Prop} {Q : PayloadResult → Nav → Prop} (hJ : Loose J)
    (hP : ∀ n, P n → J n) (place : Place)
    (hQ : ∀ n r m, P n → Checked place n r m → Q r m) :
    Leads J P (checkPayload L place) Q := by
  intro x n hn
  have hrun : Leads (Still n) (Still n) (checkPayload L place) (Checked place n) := by
    refine Leads.bind (M := fun _ => Settled n) ?_ fun _ => ?_
    · exact Leads.set fun m hm => ⟨⟨hm.events, hm.translationMs, hm.matScansUsed, hm.log⟩, nofun⟩
    have hattempts := leads_payloadAttempts (P := fun _ => Settled n) (Q := fun _ => Settled n) L
      (fun _ => steady_settled n) (fun _ _ _ hm => hm) fun b =>
        (settled_payloadTry L n b).mono (fun m hm => hm) fun r m hm => by
          split <;> exact hm
    apply (hattempts maxPayloadAttempts false).bind
    intro result y m hm
    have hnote : Event.checked place m.colourArrived result m.matScansUsed :: m.events =
        .checked place m.colourArrived result n.matScansUsed :: n.events := by
      rw [hm.events, hm.matScansUsed]
    exact ⟨hnote, hm.translationMs, hm.matScansUsed, hm.log, hm.onMat⟩
  apply wp_mono (hrun x n (Still.refl n)) (fun r s hs => hQ n r s.2 hn hs)
  intro s hs
  exact hJ.same n s.2 hs (hP n hn)

end Checks

/-! ## Samples, blocks and scans -/

/-- A condition that a check at `place` keeps, too. -/
structure Kept (J : Nav → Prop) (place : Place) (P : Nav → Prop) : Prop extends Roams J P where
  checked : ∀ n r m, P n → Checked place n r m → P m

/-- A fatal result ends the run; otherwise `P` holds. -/
def Lasts (J P : Nav → Prop) (result : PayloadResult) (n : Nav) : Prop :=
  (result ≠ .fatal → P n) ∧ (result = .fatal → J n)

/-- After `notClose` the run goes on with `Q`, and any other result ends it. -/
def GoesOn (J Q : Nav → Prop) (result : PayloadResult) (n : Nav) : Prop :=
  (result = .notClose → Q n) ∧ (result ≠ .notClose → J n)

/-- `Q` holds of what is found; without it the run ends. -/
def Found {α : Type} (J : Nav → Prop) (Q : α → Nav → Prop) :
    Except PayloadResult α → Nav → Prop
  | .error _, n => J n
  | .ok a, n => Q a n

/-- `Q` holds where a part of `follow_direction` goes on, and `F` of a line it returns. -/
def Stepped {α : Type} (J : Nav → Prop) (Q : α → Nav → Prop) (F : FollowResult → Nav → Prop) :
    FollowStep α → Nav → Prop
  | .inl a, n => Q a n
  | .inr result, n => Found J F result n

/-- The notes of a block that is asked for. -/
def Nav.block (forwards fits : Bool) (n : Nav) : Nav :=
  { n with events := .block forwards fits :: n.events, gate := .moved :: n.gate }

/-- The notes of a block that was driven, and its powered time. -/
def Nav.drive (forwards : Bool) (duration actual : UInt32) (n : Nav) : Nav :=
  { n with
    translationMs := n.translationMs + actual
    events := .driven duration actual :: .block forwards true :: n.events
    gate := .moved :: n.gate }

/-- The powered time of a block is as expected, and within the budget. -/
structure Driven (duration required : UInt32) (n : Nav) (actual : UInt32) : Prop where
  fits : fits n.translationMs required = true
  powered : actual ≠ 0
  inTime : actual ≤ duration + blockReserveMs
  inBudget : n.translationMs + actual ≤ lineTranslationMs

/-- What such a block spends. -/
theorem Driven.spends {duration required : UInt32} {n : Nav} {actual : UInt32}
    (h : Driven duration required n actual) (hmax : duration.toNat ≤ 750) :
    0 < actual.toNat ∧ actual.toNat ≤ duration.toNat + 25 ∧
      (n.translationMs + actual).toNat = n.translationMs.toNat + actual.toNat ∧
      (n.translationMs + actual).toNat ≤ 60000 := by
  have hused : n.translationMs.toNat ≤ 60000 :=
    UInt32.le_iff_toNat_le.mp (of_decide_eq_true ((Bool.and_eq_true _ _).mp h.fits).1)
  have hpositive : 0 < actual.toNat :=
    Nat.pos_of_ne_zero fun hzero => h.powered (UInt32.toNat_inj.mp hzero)
  have hlate : actual.toNat ≤ duration.toNat + 25 := by
    have hle := UInt32.le_iff_toNat_le.mp h.inTime
    rw [UInt32.toNat_add] at hle
    change actual.toNat ≤ (duration.toNat + 25) % 2 ^ 32 at hle
    omega
  have hsum : (n.translationMs + actual).toNat = n.translationMs.toNat + actual.toNat := by
    rw [UInt32.toNat_add]
    omega
  exact ⟨hpositive, hlate, hsum, UInt32.le_iff_toNat_le.mp h.inBudget⟩

/-- What a block leaves that was driven, and after which the run goes on. -/
structure Moved (place : Place) (forwards : Bool) (duration : UInt32) (n : Nav) (actual : UInt32)
    (m : Nav) : Prop where
  events : m.events = .checked place m.colourArrived .notClose n.matScansUsed ::
    .driven duration actual :: .block forwards true :: n.events
  translationMs : m.translationMs = n.translationMs + actual
  matScansUsed : m.matScansUsed = n.matScansUsed
  log : m.log = n.log
  onMat : m.colourArrived = true → m.colour.colourOnMat = true

/-- What a colour scan leaves, if the sensor could be read: its zones are noted first. -/
structure Scanned (ok : Bool) (zones : Option (List Zone)) (n m : Nav) : Prop where
  events : m.events = .scanned ok :: n.events
  translationMs : m.translationMs = n.translationMs
  matScansUsed : m.matScansUsed = n.matScansUsed
  colourArrived : m.colourArrived = n.colourArrived
  colour : m.colour =
    if (zones.getD []).any Zone.lighterMat then n.colour.noteLighterMat else n.colour
  closeRssiDbm : m.closeRssiDbm = n.closeRssiDbm
  attemptRunning : m.attemptRunning = n.attemptRunning
  log : m.log = n.log
  gate : m.gate = (zones.map GateNote.scan).toList ++ n.gate

/-- A scan does not change whether the robot is on the mat. -/
theorem Scanned.colourOnMat {ok : Bool} {zones : Option (List Zone)} {n m : Nav}
    (h : Scanned ok zones n m) : m.colour.colourOnMat = n.colour.colourOnMat := by
  rw [h.colour]
  split
  · rfl
  · rfl

section Steps

variable {ρ α : Type} (L : Layer ρ) {J P : Nav → Prop}

/-- A condition that checks keep holds after one, unless it was fatal. -/
theorem Kept.check (hJ : Loose J) {place : Place} (hP : Kept J place P) :
    Leads J P (checkPayload L place) (Lasts J P) :=
  leads_checkPayload L hJ hP.safe place fun n r m hn hm =>
    ⟨fun _ => hP.checked n r m hn hm, fun _ => hP.safe m (hP.checked n r m hn hm)⟩

/-- A check after which only `notClose` goes on. -/
theorem Leads.goes {c : Cmd (ρ × Nav) PayloadResult} (hP : ∀ n, P n → J n)
    (h : Leads J P c (Lasts J P)) : Leads J P c (GoesOn J P) := by
  refine h.mono (fun _ hn => hn) fun r n hn => ⟨fun hr => hn.1 (hr ▸ nofun), ?_⟩
  intro _
  by_cases hfatal : r = .fatal
  · exact hn.2 hfatal
  · exact hP n (hn.1 hfatal)

/-- The run ends here unless the result is `notClose`. -/
theorem Leads.goOn {Q : Nav → Prop} {M : α → Nav → Prop} {result : PayloadResult} {a : α}
    {rest : Cmd (ρ × Nav) α} (ha : result ≠ .notClose → ∀ n, J n → M a n)
    (hrest : Leads J Q rest M) :
    Leads J (GoesOn J Q result) (if result ≠ .notClose then Pure.pure a else rest) M := by
  refine Leads.ite (fun hr => ?_) fun hr => ?_
  · exact Leads.pure _ fun n hn => ha hr n (hn.2 hr)
  · exact hrest.mono (fun n hn => hn.1 (not_not.mp hr)) fun _ _ hm => hm

/-- **Waiting for Wi-Fi**, from what its checks do. -/
theorem leads_waitForWifi (hP : Steady J P) {place : Place}
    (hcheck : Leads J P (checkPayload L place) (Lasts J P)) (k : ℕ) :
    Leads J P (waitForWifi L place k) (Found J fun _ => P) := by
  have hend : ∀ r, Leads J P (pure (.error r) : Cmd (ρ × Nav) (Except PayloadResult WifiSample))
      (Found J fun _ => P) := fun r => Leads.pure _ hP.safe
  induction k with
  | zero => exact (hend _).report
  | succ k ih =>
    apply Leads.look
    intro n hn
    refine Leads.mono (P := P) ?_ (fun m hm => hP.same n m hm hn) fun _ _ hm => hm
    apply Leads.quiet hP (quiet_layer _)
    intro sample
    cases sample with
    | none => exact hend _
    | some sample =>
      refine Leads.quiet hP (quiet_saveCheckpoint L) fun ok =>
        Leads.ite (fun _ => hend _) fun _ => Leads.ite (fun _ => ?_) fun _ => ?_
      · exact Leads.pure _ fun n hn => hn
      apply Leads.report
      refine hcheck.bind fun result => Leads.ite (fun _ => ?_) fun hr => ?_
      · apply Leads.pure _
        intro n hn
        by_cases hfatal : result = .fatal
        · exact hn.2 hfatal
        · exact hP.safe n (hn.1 hfatal)
      refine Leads.mono (P := P) ?_ (fun n hn => hn.1 fun h => hr (.inr h)) fun _ _ hm => hm
      exact Leads.quiet hP (quiet_layer _) fun ok => Leads.ite (fun _ => hend _) fun _ => ih

/-- Measuring a pair keeps what the checks on the way keep. -/
theorem leads_measurePair (hP : Steady J P) {place : Place}
    (hcheck : Leads J P (checkPayload L place) (Lasts J P)) :
    Leads J P (measurePair L place) (Found J fun _ => P) := by
  apply (leads_waitForWifi L hP hcheck _).bind
  intro first
  cases first with
  | error result => exact Leads.pure _ fun n hn => hn
  | ok first =>
    apply (leads_waitForWifi L hP hcheck _).bind
    intro second
    cases second with
    | error result => exact Leads.pure _ fun n hn => hn
    | ok second => exact Leads.pure _ fun n hn => hn

/-- A reservation succeeds only within the budget. -/
theorem leads_reserveTranslation {n : Nav} (hn : ∀ m, Mute n m → J m) (required : UInt32) :
    Leads J (Mute n) (reserveTranslation L required) fun ok m =>
      Mute n m ∧ (ok = true → fits n.translationMs required = true) := by
  have hsteady : Steady J (Mute n) := ⟨hn, fun _ _ h h' => h'.trans h⟩
  apply Leads.look
  intro m hm
  have hmute := steady_mute hsteady hm
  refine Leads.ite (fun hfits => ?_) fun _ => ?_
  · rw [hm.translationMs] at hfits
    apply ((quiet_runCanContinue L).leads hmute).mono (fun k hk => hk)
    intro ok k hk
    exact ⟨hm.trans hk, fun _ => hfits⟩
  · apply Leads.quiet hmute (quiet_layer _)
    intro _
    apply Leads.report
    exact Leads.pure _ fun k hk => ⟨hm.trans hk, nofun⟩

/-- **The end of a block**: the powered time is noted, charged and checked. -/
theorem leads_chargeBlock {place : Place} {forwards : Bool} {duration required : UInt32} {n : Nav}
    {block : MotionLayer.Block} {Q : Nav → Prop} (hfits : fits n.translationMs required = true)
    (hdriven : ∀ m, Mute (n.drive forwards duration block.actual) m → J m)
    (hcheck : Driven duration required n block.actual →
      Leads J (Mute (n.drive forwards duration block.actual)) (checkPayload L place) (GoesOn J Q)) :
    Leads J (Mute (n.block forwards true)) (chargeBlock L place duration block) (GoesOn J Q) := by
  have hsteady : Steady J (Mute (n.drive forwards duration block.actual)) :=
    ⟨hdriven, fun _ _ h h' => h'.trans h⟩
  -- a result that ends the run
  have hend : Leads J (Mute (n.drive forwards duration block.actual))
      (pure .fatal : Cmd (ρ × Nav) PayloadResult) (GoesOn J Q) :=
    Leads.pure _ fun m hm => ⟨nofun, fun _ => hdriven m hm⟩
  have hcharged : ∀ m, Mute (n.block forwards true) m →
      Mute (n.drive forwards duration block.actual) { m with
        events := .driven duration block.actual :: m.events
        translationMs := m.translationMs + block.actual
        wifiQuiescent := block.quiesced } := fun m hm =>
    ⟨congrArg (List.cons _) hm.events, congrArg (· + block.actual) hm.translationMs,
      hm.matScansUsed, hm.colourArrived, hm.colour, hm.closeRssiDbm, hm.attemptRunning, hm.log,
      hm.gate⟩
  refine Leads.bind (M := fun _ m => ∃ k, Mute (n.block forwards true) k ∧
    m = { k with events := .driven duration block.actual :: k.events }) ?_ fun _ => ?_
  · exact Leads.set fun m hm => ⟨m, hm, rfl⟩
  refine Leads.bind (M := fun _ => Mute (n.drive forwards duration block.actual)) ?_ fun _ => ?_
  · apply Leads.set
    rintro m ⟨k, hk, hm⟩
    rw [hm]
    exact hcharged k hk
  refine Leads.ite (fun _ => hend) fun _ => Leads.ite (fun _ => hend) ?_
  intro _
  refine Leads.quiet hsteady (quiet_runCanContinue L) fun ok => Leads.ite (fun _ => hend) ?_
  intro _
  apply Leads.look
  intro m hm
  refine Leads.mono (P := Mute (n.drive forwards duration block.actual)) ?_
    (fun k hk => hm.trans hk) fun _ _ hk => hk
  refine Leads.ite (fun _ => ?_) fun hbad => ?_
  · exact Leads.quiet hsteady (quiet_layer _) fun _ => hend.report
  refine hcheck ⟨hfits, fun h => hbad (.inl h), ?_, ?_⟩
  · exact UInt32.not_lt.mp fun h => hbad (.inr (.inl h))
  · rw [hm.translationMs] at hbad
    exact UInt32.not_lt.mp fun h => hbad (.inr (.inr h))

/-- **A block** is noted before it is driven; then its powered time is charged, and the payload
is checked. -/
theorem leads_translateBlock_of {place : Place} {forwards : Bool} {duration : UInt32}
    {heading : Float32} {position reservedReturn : UInt32} {acquireMoving : Bool}
    {Q : UInt32 → Nav → Prop}
    (hblock : ∀ n m, P n → Mute (n.block forwards
      (fits n.translationMs (translationCost duration + reservedReturn))) m → J m)
    (hdriven : ∀ n m actual, P n →
      fits n.translationMs (translationCost duration + reservedReturn) = true →
      Mute (n.drive forwards duration actual) m → J m)
    (hcheck : ∀ n actual, P n →
      Driven duration (translationCost duration + reservedReturn) n actual →
      Leads J (Mute (n.drive forwards duration actual)) (checkPayload L place)
        (GoesOn J (Q actual))) :
    Leads J P (translateBlock L place forwards duration heading position reservedReturn
      acquireMoving) fun r => GoesOn J (Q r.2) r.1 := by
  apply Leads.look
  intro n hn
  let required := translationCost duration + reservedReturn
  have hsteady : Steady J (Mute (n.block forwards (fits n.translationMs required))) :=
    ⟨fun m hm => hblock n m hn hm, fun _ _ h h' => h'.trans h⟩
  have hend : Leads J (Mute (n.block forwards (fits n.translationMs required)))
      (pure (.fatal, 0) : Cmd (ρ × Nav) (PayloadResult × UInt32))
      fun r => GoesOn J (Q r.2) r.1 :=
    Leads.pure _ fun m hm => ⟨nofun, fun _ => hsteady.safe m hm⟩
  -- the block is noted, and then the reserve is tested
  refine Leads.bind (M := fun _ m => ∃ k, Mute n k ∧ m = { k with
    events := .block forwards (fits n.translationMs required) :: k.events }) ?_ fun _ => ?_
  · exact Leads.set fun k hk => ⟨k, hk, rfl⟩
  refine Leads.bind (M := fun _ => Mute (n.block forwards (fits n.translationMs required)))
    ?_ fun _ => ?_
  · apply Leads.set
    rintro m ⟨k, hk, hm⟩
    rw [hm]
    exact ⟨congrArg (List.cons _) hk.events, hk.translationMs, hk.matScansUsed, hk.colourArrived,
      hk.colour, hk.closeRssiDbm, hk.attemptRunning, hk.log, congrArg (List.cons _) hk.gate⟩
  apply (leads_reserveTranslation L hsteady.safe required).bind
  intro ok
  apply Leads.ite (fun _ => hend.mono (fun m hm => hm.1) fun _ _ hm => hm)
  intro hok x m hm
  -- the reserve was granted, so the block fits
  have hfits : fits n.translationMs required = true := hm.2 (by simpa using hok)
  revert x m
  refine Leads.mono (P := Mute (n.block forwards (fits n.translationMs required))) ?_
    (fun m hm => hm.1) fun _ _ hm => hm
  refine Leads.quiet hsteady (quiet_saveCheckpoint L) fun ok => Leads.ite (fun _ => hend) ?_
  intro _
  apply Leads.quiet hsteady (quiet_layer _)
  intro _
  apply Leads.quiet hsteady (quiet_layer _)
  intro block
  cases block with
  | none => exact hend
  | some block =>
    have hcharge := @leads_chargeBlock _ L J place forwards duration required n block
      (Q block.actual) hfits
      (fun m hm => hdriven n m block.actual hn hfits hm) (hcheck n block.actual hn)
    refine Leads.bind (hcharge.mono (fun m hm => ?_) fun _ _ hm => hm) fun result => ?_
    · exact hfits ▸ hm
    · exact Leads.pure _ fun m hm => hm

/-- A block, for a condition that checks keep. -/
theorem leads_translateBlock (hJ : Loose J) {place : Place} {forwards : Bool} {duration : UInt32}
    {heading : Float32} {position reservedReturn : UInt32} {acquireMoving : Bool}
    {Q : UInt32 → Nav → Prop}
    (hblock : ∀ n, P n → J (n.block forwards
      (fits n.translationMs (translationCost duration + reservedReturn))))
    (hdriven : ∀ n actual, P n →
      fits n.translationMs (translationCost duration + reservedReturn) = true →
      J (n.drive forwards duration actual))
    (hQ : ∀ n m actual, P n →
      Driven duration (translationCost duration + reservedReturn) n actual →
      Moved place forwards duration n actual m → Q actual m) :
    Leads J P (translateBlock L place forwards duration heading position reservedReturn
      acquireMoving) fun r => GoesOn J (Q r.2) r.1 := by
  have hsame : ∀ n m, J n → Mute n m → J m := fun n m hn hm =>
    hJ.same n m hm.still hn
  refine leads_translateBlock_of L (fun n m hn hm => hsame _ m (hblock n hn) hm)
    (fun n m actual hn hfits hm => hsame _ m (hdriven n actual hn hfits) hm) ?_
  intro n actual hn hdone
  have hafter : ∀ m, Mute (n.drive forwards duration actual) m → J m := fun m hm =>
    hsame _ m (hdriven n actual hn hdone.fits) hm
  refine leads_checkPayload L hJ hafter place fun k r l hk hl => ⟨?_, fun _ => ?_⟩
  · rintro rfl
    refine hQ n l actual hn hdone ⟨?_, hl.translationMs.trans hk.translationMs,
      hl.matScansUsed.trans hk.matScansUsed, hl.log.trans hk.log, hl.onMat⟩
    rw [hl.events, hk.events, hk.matScansUsed]
    rfl
  · exact hJ.checked k l place r hl (hafter k hk)

/-- **A colour scan** that could be read adds its note. -/
theorem leads_matScan {Q : Bool → Nav → Prop} (hP : Roams J P) (origin : Float32)
    (hQ : ∀ n m ok zones, P n → Scanned ok zones n m → Q ok m) :
    Leads J P (matScan L origin) fun r m =>
      r.elim (fun result => GoesOn J (Q false) result m) fun _ => Q true m := by
  apply (leads_scanSteps L hP origin 12 []).bind
  intro r
  refine Leads.ite (fun _ => ?_) fun _ => Leads.ite (fun _ => ?_) fun _ => ?_
  · exact Leads.pure _ fun n hn => ⟨nofun, fun _ => hP.safe n hn⟩
  · refine Leads.bind (M := fun _ => Q false) ?_ fun _ => ?_
    · refine Leads.set fun n hn => hQ n _ false none hn ?_
      exact ⟨rfl, rfl, rfl, rfl, rfl, rfl, rfl, rfl, rfl⟩
    · apply Leads.report
      exact Leads.pure _ fun n hn => ⟨fun _ => hn, fun h => absurd rfl h⟩
  refine Leads.bind (M := fun _ m => ∃ n, P n ∧
    m = { n with gate := .scan (r.2.map fun x => colourClassify x.2) :: n.gate }) ?_ fun _ => ?_
  · exact Leads.set fun n hn => ⟨n, hn, rfl⟩
  -- the ring pattern is noted before the scan is
  let zones := r.2.map fun x => colourClassify x.2
  have hany : (zones.any Zone.lighterMat) = r.2.any fun x => (colourClassify x.2).lighterMat :=
    List.any_map
  refine Leads.bind (M := fun _ m => ∃ n, P n ∧ m = { n with
      colour := if zones.any Zone.lighterMat then n.colour.noteLighterMat else n.colour
      gate := .scan zones :: n.gate }) ?_ fun _ => ?_
  · refine Leads.set fun m ⟨n, hn, hm⟩ => ⟨n, hn, ?_⟩
    rw [hm, hany]
    split
    · rfl
    · rfl
  refine Leads.bind (M := fun _ => Q (steerable (colourScanEstimate r.2))) ?_ fun _ => ?_
  · refine Leads.set fun m ⟨n, hn, hm⟩ => hQ n _ _ (some zones) hn ?_
    rw [hm]
    exact ⟨rfl, rfl, rfl, rfl, rfl, rfl, rfl, rfl, rfl⟩
  cases steerable (colourScanEstimate r.2) with
  | false =>
    apply Leads.report
    exact Leads.pure _ fun n hn => ⟨fun _ => hn, fun h => absurd rfl h⟩
  | true => exact Leads.pure _ fun n hn => hn

end Steps

end Navigation
