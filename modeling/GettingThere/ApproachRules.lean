/-
# Rules for steering and searching

What is known at a few places of `mat_approach` (`Steers`) and of `approach_beacon` (`Searches`)
is enough for the whole of them.  The plumbing between these places is dealt with here, once:

* `entry`, where the steering begins and where it goes on to the next scan;
* `scanning`, in a scan;
* `held`, after a payload check or a block on the mat, before the arrival is dealt with;
* `free`, after that, where the robot may drive on;
* `start`, before the first line, and `followed`, after a line.
-/
import GettingThere.NavigationSteps

open CrashLogic
open PayloadClient (PayloadResult)

namespace Navigation

/-! ## Mat steering -/

/-- What the parts of the mat steering do between the places of it. -/
structure Steers {ρ : Type} (L : Layer ρ) (J entry scanning held free : Nav → Prop) : Prop where
  enters : Steady J entry
  scans : Roams J scanning
  holds : Roams J held
  frees : Steady J free
  again : ∀ n, free n → entry n
  spent : ∀ n, entry n → ¬ n.matScansUsed < matMaxScans → free n
  scan : ∀ n, entry n → n.matScansUsed < matMaxScans →
    scanning { n with matScansUsed := n.matScansUsed + 1 }
  scanned : ∀ n m ok zones, scanning n → Scanned ok zones n m → if ok then held m else free m
  steeringCheck : Leads J held (checkPayload L .steering) (Lasts J held)
  steeringBlock : ∀ heading, Leads J free
    (translateBlock L .steering true lineMatBlockMs heading 0 0 false) fun r => GoesOn J held r.1
  settled : ∀ n, held n → n.colourArrived = false → free n

namespace Steers

variable {ρ : Type} {L : Layer ρ} {J entry scanning held free : Nav → Prop}

/-- Waiting on the mat ends where the robot may drive on, unless a check ends the run. -/
theorem matWaitOnArrival (h : Steers L J entry scanning held free) (k : ℕ) :
    Leads J held (matWaitOnArrival L k) (GoesOn J free) := by
  have hfatal : Leads J held (pure .fatal : Cmd (ρ × Nav) PayloadResult) (GoesOn J free) :=
    Leads.pure _ fun n hn => ⟨nofun, fun _ => h.holds.safe n hn⟩
  induction k with
  | zero => exact Leads.quiet h.holds.toSteady (quiet_layer _) fun _ => hfatal.report
  | succ k ih =>
    apply Leads.report
    refine Leads.quiet h.holds.toSteady (quiet_layer _) fun ok => Leads.ite (fun _ => hfatal) ?_
    intro _
    apply (h.steeringCheck.goes h.holds.safe).bind
    intro result
    refine Leads.goOn (fun hr n hn => ⟨fun h' => absurd h' hr, fun _ => hn⟩) ?_
    refine Leads.look fun n hn => Leads.ite (fun harr => ?_) fun _ => ?_
    · refine Leads.pure _ fun m hm => ⟨?_, fun h' => absurd rfl h'⟩
      intro _
      apply h.settled m (h.holds.same n m hm hn)
      rw [hm.colourArrived]
      simpa using harr
    · exact ih.mono (fun m hm => h.holds.same n m hm hn) fun _ _ hm => hm

/-- Waiting for an arrival, if the check has found one, ends where the robot may drive on. -/
theorem waitIfArrived (h : Steers L J entry scanning held free) :
    Leads J held (waitIfArrived L) (GoesOn J free) := by
  refine Leads.look fun n hn => Leads.ite (fun _ => ?_) fun harr => ?_
  · exact (h.matWaitOnArrival _).mono (fun m hm => h.holds.same n m hm hn) fun _ _ hm => hm
  · refine Leads.pure _ fun m hm => ⟨?_, fun h' => absurd rfl h'⟩
    intro _
    apply h.settled m (h.holds.same n m hm hn)
    rw [hm.colourArrived]
    simpa using harr

/-- The blocks towards the mat lead on from where the robot may drive. -/
theorem matSteps (h : Steers L J entry scanning held free) (heading : Float32) (k : ℕ) (previous : ℤ) :
    Leads J free (matSteps L heading k previous) (GoesOn J free) := by
  have hgo : Leads J free (pure .notClose : Cmd (ρ × Nav) PayloadResult) (GoesOn J free) :=
    Leads.pure _ fun n hn => ⟨fun _ => hn, fun h' => absurd rfl h'⟩
  induction k generalizing previous with
  | zero => exact hgo
  | succ k ih =>
    apply (h.steeringBlock heading).bind
    intro r
    refine Leads.goOn (fun hr n hn => ⟨fun h' => absurd h' hr, fun _ => hn⟩) ?_
    apply Leads.look
    intro n hn
    refine Leads.mono (P := held) ?_ (fun m hm => h.holds.same n m hm hn) fun _ _ hm => hm
    apply Leads.report
    apply h.waitIfArrived.bind
    intro result
    refine Leads.goOn (fun hr n hn => ⟨fun h' => absurd h' hr, fun _ => hn⟩) ?_
    exact Leads.ite (fun _ => hgo) fun _ => ih _

/-- A round of the steering leads back to where the steering goes on. -/
theorem matRound (h : Steers L J entry scanning held free) :
    Leads J (fun n => entry n ∧ n.matScansUsed < matMaxScans) (matRound L) fun r n =>
      r.elim (fun _ => free n) fun result => GoesOn J free result n := by
  have hsteady : Steady J fun n => entry n ∧ n.matScansUsed < matMaxScans :=
    ⟨fun n hn => h.enters.safe n hn.1,
      fun n m hm hn => ⟨h.enters.same n m hm hn.1, hm.matScansUsed ▸ hn.2⟩⟩
  refine Leads.quiet hsteady (quiet_runCanContinue L) fun ok => Leads.ite (fun _ => ?_) fun _ => ?_
  · exact Leads.pure _ fun n hn => ⟨nofun, fun _ => h.enters.safe n hn.1⟩
  apply Leads.bind (M := fun _ => scanning) (Leads.set fun n hn => h.scan n hn.1 hn.2)
  intro _
  apply Leads.quiet h.scans.toSteady (quiet_layer _)
  intro origin
  have hscan := leads_matScan L (J := J) (Q := fun ok m => if ok then held m else free m) h.scans
    origin h.scanned
  apply hscan.bind
  intro r
  cases r with
  | inl result => exact Leads.pure _ fun n hn => hn
  | inr angle =>
    apply Leads.report
    refine (leads_turnToHeading L h.holds _).bind fun ok => Leads.ite (fun _ => ?_) fun _ => ?_
    · exact Leads.pure _ fun n hn => ⟨nofun, fun _ => h.holds.safe n hn⟩
    apply (h.steeringCheck.goes h.holds.safe).bind
    intro result
    refine Leads.goOn (fun hr n hn => ⟨fun h' => absurd h' hr, fun _ => hn⟩) ?_
    apply h.waitIfArrived.bind
    intro result
    refine Leads.goOn (fun hr n hn => ⟨fun h' => absurd h' hr, fun _ => hn⟩) ?_
    apply Leads.look
    intro n hn
    refine Leads.mono (P := free) ?_ (fun m hm => h.frees.same n m hm hn) fun _ _ hm => hm
    apply (h.matSteps _ _ _).bind
    intro result
    refine Leads.goOn (fun hr n hn => ⟨fun h' => absurd h' hr, fun _ => hn⟩) ?_
    exact Leads.pure _ fun n hn => hn

/-- **Mat steering** leads to where the robot may drive on. -/
theorem matApproach (h : Steers L J entry scanning held free) :
    Leads J entry (matApproach L) (GoesOn J free) := by
  apply Leads.report
  refine Leads.loop (I := fun _ => entry) (fun _ => h.enters.safe) ?_ ()
  intro _
  refine Leads.look fun n hn => Leads.ite (fun hused => ?_) fun hused => ?_
  · refine h.matRound.mono (fun m hm => ⟨h.enters.same n m hm hn, hm.matScansUsed ▸ hused⟩) ?_
    intro r m hm
    cases r with
    | inl _ => exact h.again m hm
    | inr result => exact hm
  · apply Leads.report
    refine Leads.pure _ fun m hm => ⟨?_, fun h' => absurd rfl h'⟩
    intro _
    exact h.spent m (h.enters.same n m hm hn) (hm.matScansUsed ▸ hused)

end Steers

/-! ## Searching -/

/-- What the parts of the approach do between the places of it. -/
structure Searches {ρ : Type} (L : Layer ρ) (J start entry scanning held free : Nav → Prop)
    (followed : FollowResult → Nav → Prop) : Prop
    extends Steers L J entry scanning held free where
  starts : Roams J start
  startCheck : Leads J start (checkPayload L .start) (Lasts J start)
  ready : ∀ n f, start n → n.colour.colourOnMat = true → n.matScansUsed < matMaxScans →
    f.ending = .mat → followed f n
  notReady : ∀ n, start n → ¬ (n.colour.colourOnMat = true ∧ n.matScansUsed < matMaxScans) → free n
  follow : ∀ heading trialMs, Leads J free (followDirection L heading trialMs) (Found J followed)
  follows : ∀ f, Steady J (followed f)
  followedMat : ∀ f n, f.ending = .mat → followed f n → entry n
  followedOther : ∀ f n, f.ending ≠ .mat → followed f n → free n
  trial : ∀ heading f, f.ending = .noGain →
    Leads J (followed f) (endTrial L heading f) (Found J fun _ => free)

namespace Searches

variable {ρ : Type} {L : Layer ρ} {J start entry scanning held free : Nav → Prop}
  {followed : FollowResult → Nav → Prop}

/-- The line straight ahead leads to what is known after a line. -/
theorem followAhead (h : Searches L J start entry scanning held free followed) :
    Leads J free (followAhead L) (Found J followed) :=
  Leads.quiet h.frees (quiet_layer _) fun heading => h.follow heading 0

/-- The trials end with a line to go on with, unless there is none. -/
theorem checkDirections (h : Searches L J start entry scanning held free followed) (origin : Float32)
    (offsets : List Float32) (f : FollowResult) :
    Leads J free (checkDirections L origin offsets f)
      (Found J fun r n => if r.2 then followed r.1 n else free n) := by
  induction offsets generalizing f with
  | nil => exact Leads.pure _ fun n hn => hn
  | cons offset offsets ih =>
    apply (h.follow _ _).bind
    intro f
    cases f with
    | error result => exact Leads.pure _ fun n hn => hn
    | ok f =>
      refine Leads.ite (fun _ => Leads.pure _ fun n hn => hn) ?_
      intro hnot
      have hmat : f.ending ≠ .mat := fun h' => hnot (.inr h')
      refine Leads.ite (fun hend => ?_) fun _ => ?_
      · apply (h.trial _ f hend).bind
        intro f'
        cases f' with
        | error result => exact Leads.pure _ fun n hn => hn
        | ok f' => exact ih f'
      · exact (ih f).mono (fun n hn => h.followedOther f n hmat hn) fun _ _ hn => hn

/-- A round of the search leads from what is known after a line to that again. -/
theorem approachRound (h : Searches L J start entry scanning held free followed) (f : FollowResult) :
    Leads J (followed f) (approachRound L f) fun r n =>
      r.elim (fun f' => followed f' n) fun _ => J n := by
  refine Leads.quiet (h.follows f) (quiet_runCanContinue L) fun ok => Leads.ite (fun _ => ?_)
    fun _ => ?_
  · exact Leads.pure _ (h.follows f).safe
  cases hend : f.ending with
  | mat =>
    refine Leads.mono (P := entry) ?_ (fun n hn => h.followedMat f n hend hn) fun _ _ hn => hn
    apply h.matApproach.bind
    intro result
    refine Leads.goOn (fun _ n hn => hn) ?_
    apply Leads.report
    apply h.followAhead.bind
    intro f'
    cases f' with
    | error result => exact Leads.pure _ fun n hn => hn
    | ok f' => exact Leads.pure _ fun n hn => hn
  | decline =>
    have hne : f.ending ≠ .mat := hend ▸ nofun
    refine Leads.mono (P := free) ?_ (fun n hn => h.followedOther f n hne hn) fun _ _ hn => hn
    refine Leads.reportIf (Leads.report ?_)
    apply (h.checkDirections _ _ _).bind
    intro r
    match r with
    | .error result => exact Leads.pure _ fun n hn => hn
    | .ok (f', true) => exact Leads.pure _ fun n hn => hn
    | .ok (f', false) =>
      refine Leads.quiet h.frees (quiet_layer _) fun _ => Leads.report ?_
      exact Leads.pure _ h.frees.safe
  | noGain =>
    refine Leads.quiet (h.follows f) (quiet_layer _) fun _ => Leads.report ?_
    exact Leads.pure _ (h.follows f).safe

/-- **The approach** keeps to `J` if its lines, its checks and its steering do. -/
theorem approachBeacon (h : Searches L J start entry scanning held free followed) {P : Nav → Prop}
    (hP : Steady J P) (hstart : ∀ n now, P n → start (n.start now)) :
    Leads J P (approachBeacon L) fun _ => J := by
  have hend : ∀ b, Leads J start (pure b : Cmd (ρ × Nav) Bool) fun _ => J := fun b =>
    Leads.pure _ h.starts.safe
  apply Leads.quiet hP (quiet_layer _)
  intro now
  apply Leads.quiet hP (quiet_layer _)
  intro _
  apply Leads.bind (M := fun _ => start) (Leads.set fun n hn => hstart n now hn)
  intro _
  apply (h.startCheck.goes h.starts.safe).bind
  intro result
  refine Leads.goOn (fun _ n hn => hn) ?_
  apply (leads_waitForWifi L h.starts.toSteady h.startCheck _).bind
  intro sample
  cases sample with
  | error result => exact Leads.pure _ fun n hn => hn
  | ok sample =>
    apply Leads.bind (M := fun _ => start) (Leads.set h.starts.moved)
    intro _
    refine Leads.quiet h.starts.toSteady (quiet_layer _) fun ok =>
      Leads.ite (fun _ => hend _) fun _ => Leads.report ?_
    have hfirst : Leads J start (approachStart L) (Found J followed) := by
      refine (leads_matSteeringReady h.starts.toSteady).bind fun ready => Leads.ite (fun hr => ?_)
        fun hr => ?_
      · apply Leads.pure _
        intro n hn
        obtain ⟨hmat, hscans⟩ := hn.1.mp hr
        exact h.ready n _ hn.2 hmat hscans rfl
      · refine h.followAhead.mono ?_ fun _ _ hm => hm
        intro n hn
        exact h.notReady n hn.2 fun hmat => hr (hn.1.mpr hmat)
    apply hfirst.bind
    intro f
    cases f with
    | error result => exact Leads.pure _ fun n hn => hn
    | ok f => exact Leads.loop (I := followed) (fun f => (h.follows f).safe) h.approachRound f

end Searches

/-! ## Following a line -/

/-- What is known after a line: it may have ended on the mat. -/
def AfterLine (entry free : Nav → Prop) (f : FollowResult) (n : Nav) : Prop :=
  if f.ending = .mat then entry n else free n

/-- What the parts of `follow_direction` do, where nothing depends on the line; `stopped` is the
place after a block of it. -/
structure Follows {ρ : Type} (L : Layer ρ) (J entry free stopped : Nav → Prop) : Prop where
  frees : Roams J free
  stops : Steady J stopped
  enters : Steady J entry
  logged : ∀ n e, free n → free { n with log := e :: n.log }
  check : ∀ place, place = .followWifi ∨ place = .dip →
    Leads J free (checkPayload L place) (Lasts J free)
  lineBlock : ∀ (duration : UInt32) heading position reserved, duration.toNat ≤ 750 → Leads J free
    (translateBlock L .follow true duration heading position reserved true)
    fun r => GoesOn J stopped r.1
  otherBlock : ∀ place forwards (duration : UInt32) heading position reserved,
    place = .probe ∨ place = .returning → duration.toNat ≤ 750 → Leads J free
      (translateBlock L place forwards duration heading position reserved false)
      fun r => GoesOn J free r.1
  mat : ∀ n, stopped n → n.colour.colourOnMat = true → n.matScansUsed < matMaxScans → entry n
  noMat : ∀ n, stopped n → ¬ (n.colour.colourOnMat = true ∧ n.matScansUsed < matMaxScans) → free n

/-- A place before a line, from which its first block leads on. -/
structure Ahead {ρ : Type} (L : Layer ρ) (J ahead stopped : Nav → Prop) : Prop where
  roams : Roams J ahead
  logged : ∀ n e, ahead n → ahead { n with log := e :: n.log }
  check : Leads J ahead (checkPayload L .followWifi) (Lasts J ahead)
  lineBlock : ∀ (duration : UInt32) heading position reserved, duration.toNat ≤ 750 → Leads J ahead
    (translateBlock L .follow true duration heading position reserved true)
    fun r => GoesOn J stopped r.1

/-- A block of a return is a short one. -/
theorem min_block_le (remaining : UInt32) : (min lineBlockMs remaining).toNat ≤ 750 := by
  rw [toNat_min]
  exact Nat.min_le_left _ _

namespace Follows

variable {ρ : Type} {L : Layer ρ} {J entry free stopped ahead : Nav → Prop}

/-- Where a line goes on, it may begin. -/
theorem toAhead (h : Follows L J entry free stopped) : Ahead L J free stopped where
  roams := h.frees
  logged := h.logged
  check := h.check _ (.inl rfl)
  lineBlock := h.lineBlock

/-- Where the robot may drive on, a mute command changes nothing. -/
theorem steady (h : Follows L J entry free stopped) : Steady J free := h.frees.toSteady

/-- Measuring a pair keeps the place where the robot may drive on. -/
theorem measurePair (h : Follows L J entry free stopped) :
    Leads J free (measurePair L .followWifi) (Found J fun _ => free) :=
  leads_measurePair L h.steady (h.check _ (.inl rfl))

/-- A note on the line keeps the place where the robot may drive on. -/
theorem noteLine (h : Follows L J entry free stopped) (e : LineNote) :
    Leads J free (noteLine e : Cmd (ρ × Nav) Unit) fun _ => free :=
  Leads.set fun n hn => h.logged n e hn

/-- A return ends where the robot may drive on, unless a check ends the run. -/
theorem returnAlongLine (h : Follows L J entry free stopped) (position target : UInt32)
    (heading : Float32) :
    Leads J free (returnAlongLine L position target heading) (GoesOn J free) := by
  have hblock : ∀ remaining, Leads J free (returnBlock L target heading remaining) fun r n =>
      r.elim (fun _ => free n) fun result => GoesOn J free result n := by
    intro remaining
    refine Leads.ite (fun _ => ?_) fun _ => ?_
    · exact Leads.pure _ fun n hn => ⟨fun _ => hn, fun h' => absurd rfl h'⟩
    apply (h.otherBlock _ _ _ _ _ _ (.inr rfl) (min_block_le remaining)).bind
    intro r
    refine Leads.goOn (fun hr n hn => ⟨fun h' => absurd h' hr, fun _ => hn⟩) ?_
    exact Leads.pure _ fun n hn => hn
  apply Leads.report
  refine (Leads.loop (I := fun _ => free) (Q := GoesOn J free) (fun _ => h.steady.safe) hblock
    (position - target)).bind fun result => Leads.ite (fun hr => ?_) fun hr => ?_
  · refine Leads.mono (P := free) ?_ (fun n hn => hn.1 hr) fun _ _ hn => hn
    refine Leads.quiet h.steady (quiet_layer _) fun _ => Leads.pure _ ?_
    intro n hn
    exact ⟨fun _ => hn, fun h' => absurd hr h'⟩
  · exact Leads.pure _ fun n hn => ⟨fun h' => absurd h' hr, fun _ => hn.2 hr⟩

/-- The probe of a dip ends where the robot may drive on. -/
theorem probeDip (h : Follows L J entry free stopped) (heading : Float32) (best : UInt32)
    (reference : LinePair) (k : ℕ) (position : UInt32) (current : LinePair) :
    Leads J free (probeDip L heading best reference k position current)
      (Found J fun _ => free) := by
  induction k generalizing position current with
  | zero =>
    apply Leads.report
    exact Leads.pure _ fun n hn => hn
  | succ k ih =>
    apply Leads.report
    refine (h.otherBlock _ _ _ _ _ _ (.inl rfl) (by decide)).bind fun r =>
      Leads.goOn (fun _ n hn => hn) ?_
    refine Leads.quiet h.steady (quiet_layer _) fun _ => h.measurePair.bind ?_
    intro current
    cases current with
    | error result => exact Leads.pure _ fun n hn => hn
    | ok current =>
      apply Leads.report
      refine Leads.quiet h.steady (quiet_saveCheckpoint L) fun ok => Leads.ite (fun _ => ?_)
        fun _ => (h.noteLine _).bind fun _ => Leads.ite (fun _ => ?_) fun _ => ih _ _
      · exact Leads.pure _ h.steady.safe
      · exact Leads.pure _ fun n hn => hn

/-- A second measurement before the probe keeps that place. -/
theorem recheckAndProbeDip (h : Follows L J entry free stopped) (heading : Float32)
    (best : UInt32) (reference : LinePair) (position : UInt32) :
    Leads J free (recheckAndProbeDip L heading best reference position)
      (Found J fun _ => free) := by
  refine Leads.quiet h.steady (quiet_layer _) fun _ => Leads.report ?_
  refine ((h.check _ (.inr rfl)).goes h.steady.safe).bind ?_
  intro result
  refine Leads.goOn (fun _ n hn => hn) (h.measurePair.bind ?_)
  intro current
  cases current with
  | error result => exact Leads.pure _ fun n hn => hn
  | ok current =>
    apply Leads.report
    refine Leads.quiet h.steady (quiet_saveCheckpoint L) fun ok => Leads.ite (fun _ => ?_)
      fun _ => (h.noteLine _).bind fun _ => Leads.ite (fun _ => ?_) fun _ => h.probeDip _ _ _ _ _ _
    · exact Leads.pure _ h.steady.safe
    · exact Leads.pure _ fun n hn => hn

/-- A block leads to where the line goes on, or to what is known after it. -/
theorem followBlock (h : Follows L J entry free stopped) (hahead : Ahead L J ahead stopped)
    (l : Line) {step : UInt32} (hstep : step = lineMatBlockMs ∨ step = lineForwardBlockMs) :
    Leads J ahead (followBlock L l step) (Stepped J (fun _ => free) (AfterLine entry free)) := by
  have hmax : step.toNat ≤ 750 := by rcases hstep with rfl | rfl <;> decide
  apply Leads.quiet hahead.roams.toSteady (quiet_layer _)
  intro _
  refine (hahead.lineBlock _ _ _ _ (le_trans (l.block_le step) hmax)).bind fun r =>
    Leads.goOn (fun _ n hn => hn) ?_
  refine (leads_matSteeringReady h.stops).bind fun ready => Leads.ite (fun hr => ?_) fun hr => ?_
  · apply Leads.report
    apply Leads.pure _
    intro n hn
    obtain ⟨hmat, hscans⟩ := hn.1.mp hr
    exact h.mat n hn.2 hmat hscans
  refine Leads.mono (P := free) ?_ (fun n hn => h.noMat n hn.2 fun hmat => hr (hn.1.mpr hmat))
    fun _ _ hn => hn
  refine Leads.quiet h.steady (quiet_layer _) fun _ => h.measurePair.bind ?_
  intro current
  cases current with
  | error result => exact Leads.pure _ fun n hn => hn
  | ok current =>
    refine Leads.quiet h.steady (quiet_recordPoint L) fun ok => Leads.ite (fun _ => ?_) fun _ =>
      (h.noteLine _).bind fun _ => Leads.report ?_
    · exact Leads.pure _ h.steady.safe
    · exact Leads.pure _ fun n hn => hn

/-- A declining line ends where the robot may drive on. -/
theorem endDecline (h : Follows L J entry free stopped) (l : Line) :
    Leads J free (endDecline L l) (Found J (AfterLine entry free)) := by
  refine (h.noteLine _).bind fun _ => Leads.report ?_
  refine (h.returnAlongLine _ _ _).bind ?_
  intro result
  refine Leads.goOn (fun _ n hn => hn) (h.measurePair.bind ?_)
  intro returned
  cases returned with
  | error result => exact Leads.pure _ fun n hn => hn
  | ok returned =>
    apply Leads.report
    exact Leads.pure _ fun n hn => hn

/-- What is made of a decline goes on, or ends the line. -/
theorem followDecline (h : Follows L J entry free stopped) (l : Line) (step : UInt32)
    (current : LinePair) :
    Leads J free (followDecline L l step current)
      (Stepped J (fun _ => free) (AfterLine entry free)) := by
  refine Leads.ite (fun _ => Leads.reportIf (Leads.pure _ fun n hn => hn)) ?_
  intro _
  refine Leads.reportIf (Leads.report ?_)
  refine Leads.ite (fun _ => Leads.pure _ fun n hn => hn) ?_
  intro _
  apply (h.recheckAndProbeDip _ _ _ _).bind
  intro r
  match r with
  | .error result => exact Leads.pure _ fun n hn => hn
  | .ok (recovered, position, current) =>
    refine Leads.ite (fun _ => Leads.report (Leads.pure _ fun n hn => hn)) ?_
    intro _
    exact (h.endDecline _).bind fun result => Leads.pure _ fun n hn => hn

/-- A comparison goes on, or ends the line. -/
theorem followEnd (h : Follows L J entry free stopped) (l : Line) :
    Leads J free (followEnd L l) (Stepped J (fun _ => free) (AfterLine entry free)) := by
  refine Leads.ite (fun _ => Leads.report (Leads.pure _ fun n hn => hn)) ?_
  intro _
  refine Leads.ite (fun _ => Leads.pure _ fun n hn => hn) fun _ => Leads.report ?_
  apply Leads.quiet h.steady (quiet_setNav fun n => Mute.profile n 0)
  intro _
  refine Leads.quiet h.steady (quiet_recordPoint L) fun ok => Leads.ite (fun _ => ?_) fun _ => ?_
  · exact Leads.pure _ fun n hn => hn
  · exact Leads.pure _ h.steady.safe

/-- **A round of a line** ends behind its block. -/
theorem followRound (h : Follows L J entry free stopped) (hahead : Ahead L J ahead stopped)
    (l : Line) :
    Leads J ahead (followRound L l) (Stepped J (fun _ => free) (AfterLine entry free)) := by
  have hsteady := hahead.roams.toSteady
  refine Leads.bind (M := fun _ => ahead) ?_ fun _ => ?_
  · exact Leads.set fun n hn => hahead.logged n _ hn
  refine Leads.quiet hsteady (quiet_runCanContinue L) fun ok => Leads.ite (fun _ => ?_) fun _ => ?_
  · exact Leads.pure _ hsteady.safe
  refine (leads_forwardBlockMs L hsteady).bind fun step => Leads.given ?_
  intro hstep
  apply (h.followBlock hahead l hstep).bind
  intro r
  match r with
  | .inr result => exact Leads.pure _ fun n hn => hn
  | .inl (l, current) =>
    apply (h.followDecline l step current).bind
    intro r
    match r with
    | .inr result => exact Leads.pure _ fun n hn => hn
    | .inl (l, current) =>
      exact (h.noteLine _).bind fun _ => (h.followEnd _).reportJudged

/-- **A line** keeps what all of its parts keep, and ends behind a block. -/
theorem followDirection_of (h : Follows L J entry free stopped) (hahead : Ahead L J ahead stopped)
    (hfree : ∀ n, free n → ahead n) (heading : Float32) (trialMs : UInt32) :
    Leads J ahead (followDirection L heading trialMs) (Found J (AfterLine entry free)) := by
  have hsteady := hahead.roams.toSteady
  apply Leads.quiet hsteady (quiet_setNav fun n => Mute.profile n 0)
  intro _
  refine (leads_turnToHeading L hahead.roams heading).bind fun ok =>
    Leads.ite (fun _ => ?_) fun _ => ?_
  · exact Leads.pure _ hsteady.safe
  apply Leads.quiet hsteady (quiet_layer _)
  intro _
  apply (leads_measurePair L hsteady hahead.check).bind
  intro best
  cases best with
  | error result => exact Leads.pure _ fun n hn => hn
  | ok best =>
    refine Leads.quiet hsteady (quiet_recordPoint L) fun ok => Leads.ite (fun _ => ?_) fun _ => ?_
    · exact Leads.pure _ hsteady.safe
    refine Leads.bind (M := fun _ => ahead) ?_ fun _ => ?_
    · exact Leads.set fun n hn => hahead.logged n _ hn
    apply Leads.report
    refine Leads.loop (I := fun _ => ahead) (fun _ => hsteady.safe)
      (fun l => (h.followRound hahead l).mono (fun _ hn => hn) ?_) _
    intro r n hn
    cases r with
    | inl l' => exact hfree n hn
    | inr result => exact hn

/-- **A whole line** leads to what is known after a line. -/
theorem followDirection (h : Follows L J entry free stopped) (heading : Float32)
    (trialMs : UInt32) :
    Leads J free (followDirection L heading trialMs) (Found J (AfterLine entry free)) :=
  h.followDirection_of h.toAhead (fun _ hn => hn) heading trialMs

/-- The return from a trial keeps the place where the robot may drive on. -/
theorem endTrial (h : Follows L J entry free stopped) (heading : Float32) (f : FollowResult) :
    Leads J free (endTrial L heading f) (Found J fun _ => free) := by
  apply Leads.report
  apply (h.returnAlongLine _ _ _).bind
  intro result
  refine Leads.goOn (fun _ n hn => hn) (h.measurePair.bind ?_)
  intro returned
  cases returned with
  | error result => exact Leads.pure _ fun n hn => hn
  | ok returned =>
    apply Leads.report
    exact Leads.pure _ fun n hn => hn

/-- Lines and steering together. -/
theorem searches (h : Follows L J entry free stopped) {start scanning held : Nav → Prop}
    (hsteers : Steers L J entry scanning held free) (hstarts : Roams J start)
    (hcheck : Leads J start (checkPayload L .start) (Lasts J start))
    (hmat : ∀ n, start n → n.colour.colourOnMat = true → n.matScansUsed < matMaxScans → entry n)
    (hnoMat : ∀ n, start n → ¬ (n.colour.colourOnMat = true ∧ n.matScansUsed < matMaxScans) →
      free n) :
    Searches L J start entry scanning held free (AfterLine entry free) where
  toSteers := hsteers
  starts := hstarts
  startCheck := hcheck
  ready n f hn hon hscans hend := by
    unfold AfterLine
    rw [if_pos hend]
    exact hmat n hn hon hscans
  notReady := hnoMat
  follow := h.followDirection
  follows f := by
    by_cases hend : f.ending = .mat
    · have heq : AfterLine entry free f = entry := funext fun n => if_pos hend
      rw [heq]
      exact h.enters
    · have heq : AfterLine entry free f = free := funext fun n => if_neg hend
      rw [heq]
      exact h.steady
  followedMat f n hend hn := by
    unfold AfterLine at hn
    rwa [if_pos hend] at hn
  followedOther f n hend hn := by
    unfold AfterLine at hn
    rwa [if_neg hend] at hn
  trial heading f hend := by
    refine (h.endTrial heading f).mono ?_ fun _ _ hn => hn
    intro n hn
    unfold AfterLine at hn
    rwa [hend, if_neg nofun] at hn

end Follows

/-! ## Recorded runs -/

/-- What the sensors give in a run, which is cut off when it is used up, and the length of the
last drive. -/
structure Recording where
  colours : List (Option ColourReading)
  codes : List ℕ
  driven : UInt32

namespace Recording

def sample : Cmd Recording (Option WifiSample) := do
  let s ← get
  match s.codes with
  | [] => cut
  | code :: codes =>
    set { s with codes := codes }
    return some ⟨code, 0⟩

def readFresh : Cmd Recording (Option ColourReading) := do
  let s ← get
  match s.colours with
  | [] => cut
  | reading :: colours =>
    set { s with colours := colours }
    return reading

end Recording

/-- A recorded run in which every drive takes the time it was asked for, and AP1 is never
close. -/
def recorded : Layer Recording where
  nowMs := pure 0
  sleepMs := pure ()
  faultRaise _ := pure ()
  reportOk := pure true
  reportPrintf s := s
  stopRequested := pure false
  stop := pure ()
  driveStart _ duration _ := do
    modify fun s => { s with driven := duration }
    return true
  driveUpdate := pure true
  driveActive := pure false
  driveElapsedMs := do
    let s ← get
    return s.driven
  driveFinish := pure true
  pollMoving _ := pure true
  quiesce _ := pure true
  rounds _ := 20
  samplerInit := pure ()
  reportCheckpoint := pure true
  turnToHeading _ := pure true
  learnDirection := pure true
  heading := pure 0
  pauseMs _ := pure true
  setPosition _ _ _ := pure ()
  setReference _ := pure ()
  sample _ := Recording.sample
  readFresh := Recording.readFresh
  payloadAttempt _ := pure ⟨.notClose, false, fun _ => rfl⟩
  payloadRetry _ := pure ⟨.notClose, false, fun _ => rfl⟩
  fmod x _ := x

end Navigation
