/-
# The code follows lines as the state machine does

In every run of `approach_beacon` the notes on lines are a run of `LineStep`.  The powered time
bounds the position on a line, so no sum of powered times overflows.
-/
import GettingThere.ApproachRules
import GettingThere.LineTrace

open CrashLogic
open PayloadClient (PayloadResult)

namespace Navigation

/-! ## Places on a line -/

/-- The notes so far amount to something, and nothing that has to go on at once. -/
def Traced (n : Nav) : Prop := ∃ s : LineState, s.Rests ∧ LineRun n.log s

/-- The notes so far amount to `s`, at `position`. -/
structure On (s : LineState) (position : UInt32) (n : Nav) : Prop where
  run : LineRun n.log s
  used : n.translationMs.toNat ≤ 60000
  position_le : position.toNat ≤ n.translationMs.toNat

/-- Between lines, or wherever a line was given up. -/
def Between (n : Nav) : Prop := ∃ s : LineState, s.Rests ∧ On s 0 n

variable {s s' : LineState} {position : UInt32} {n m : Nav}

/-- Notes that amount to a place to rest amount to something. -/
theorem On.traced (h : On s position n) (hs : s.Rests) : Traced n := ⟨s, hs, h.run⟩

/-- Wherever a line may rest it may be given up. -/
theorem On.between (h : On s position n) (hs : s.Rests) : Between n :=
  ⟨s, hs, h.run, h.used, Nat.zero_le _⟩

/-- The notes between lines amount to something. -/
theorem Between.traced (h : Between n) : Traced n := by
  obtain ⟨s, hs, hn⟩ := h
  exact hn.traced hs

/-- The notes and the powered time are all that matters. -/
theorem On.same (h : On s position n) (hlog : m.log = n.log)
    (htime : m.translationMs = n.translationMs) : On s position m := by
  refine ⟨?_, ?_, ?_⟩
  · rw [hlog]
    exact h.run
  · rw [htime]
    exact h.used
  · rw [htime]
    exact h.position_le

/-- A note is a step of the line. -/
theorem On.note {e : LineNote} (h : On s position n) (he : LineStep s e s') :
    On s' position { n with log := e :: n.log } :=
  ⟨.step h.run he, h.used, h.position_le⟩

/-- Whatever notes nothing on lines may be cut off anywhere. -/
theorem loose_traced : Loose Traced where
  same n m hm h := by
    unfold Traced
    rw [hm.log]
    exact h
  checked n m place r hm h := by
    unfold Traced
    rw [hm.log]
    exact h

/-- A place on a line is kept by what notes nothing on lines. -/
theorem kept_on (place : Place) (hs : s.Rests) : Kept Traced place (On s position) where
  safe _ h := h.traced hs
  same _ _ hm h := h.same hm.log hm.translationMs
  moved _ h := h.same rfl rfl
  checked _ _ _ h hm := h.same hm.log hm.translationMs

/-- What holds from every place of the state machine holds from one of them. -/
theorem Leads.cases {ρ α : Type} {J : Nav → Prop} {P : LineState → Nav → Prop}
    {c : Cmd (ρ × Nav) α} {Q : α → Nav → Prop}
    (h : ∀ s : LineState, s.Rests → Leads J (P s) c Q) :
    Leads J (fun n => ∃ s : LineState, s.Rests ∧ P s n) c Q :=
  fun x n ⟨s, hs, hn⟩ => h s hs x n hn

section Parts

variable {ρ : Type} (L : Layer ρ)

/-- **A block** moves the robot along the line by its powered time. -/
theorem on_block (hs : s.Rests) {place : Place} {forwards : Bool} {duration : UInt32}
    {heading : Float32} {start reservedReturn : UInt32} {acquireMoving : Bool}
    (hmax : duration.toNat ≤ 750) :
    Leads Traced (On s position)
      (translateBlock L place forwards duration heading start reservedReturn acquireMoving)
      fun r => GoesOn Traced (fun n => (0 < r.2.toNat ∧ r.2.toNat ≤ duration.toNat + 25 ∧
        position.toNat + r.2.toNat ≤ 60000) ∧ On s (position + r.2) n) r.1 := by
  refine leads_translateBlock (P := On s position) (Q := fun actual n => (0 < actual.toNat ∧
    actual.toNat ≤ duration.toNat + 25 ∧ position.toNat + actual.toNat ≤ 60000) ∧
    On s (position + actual) n) L loose_traced (fun n hn => hn.traced hs)
    (fun n actual hn _ => hn.traced hs) ?_
  intro n m actual hn hdriven hm
  obtain ⟨hpositive, hlate, hsum, hbudget⟩ := hdriven.spends hmax
  have hposition := hn.position_le
  have hmoved : (position + actual).toNat = position.toNat + actual.toNat := by
    rw [UInt32.toNat_add]
    omega
  refine ⟨⟨hpositive, hlate, by omega⟩, hm.log ▸ hn.run, ?_, ?_⟩
  · rw [hm.translationMs]
    exact hbudget
  · rw [hm.translationMs]
    omega

/-- A pair is measured at one place of a line. -/
theorem on_measurePair (hs : s.Rests) (place : Place) :
    Leads Traced (On s position) (measurePair L place) (Found Traced fun _ => On s position) :=
  leads_measurePair L (kept_on place hs).toSteady ((kept_on place hs).check L loose_traced)

/-- Between lines the robot may drive, too. -/
theorem between_block {place : Place} {forwards : Bool} {duration : UInt32} {heading : Float32}
    {start reservedReturn : UInt32} {acquireMoving : Bool} (hmax : duration.toNat ≤ 750) :
    Leads Traced Between
      (translateBlock L place forwards duration heading start reservedReturn acquireMoving)
      fun r => GoesOn Traced (fun n => 0 < r.2.toNat ∧ Between n) r.1 := by
  refine Leads.cases fun s hs => (on_block L hs hmax).mono (fun n hn => hn) ?_
  intro r n hn
  exact ⟨fun hr => ⟨(hn.1 hr).1.1, (hn.1 hr).2.between hs⟩, hn.2⟩

/-- A place between lines is kept by what notes nothing on lines. -/
theorem kept_between (place : Place) : Kept Traced place Between where
  safe _ h := h.traced
  same n m hm h := by
    obtain ⟨s, hs, hn⟩ := h
    exact ⟨s, hs, hn.same hm.log hm.translationMs⟩
  moved n h := by
    obtain ⟨s, hs, hn⟩ := h
    exact ⟨s, hs, hn.same rfl rfl⟩
  checked n r m h hm := by
    obtain ⟨s, hs, hn⟩ := h
    exact ⟨s, hs, hn.same hm.log hm.translationMs⟩

/-- A pair is measured between lines, too. -/
theorem between_measurePair (place : Place) :
    Leads Traced Between (measurePair L place) (Found Traced fun _ => Between) :=
  leads_measurePair L (kept_between place).toSteady ((kept_between place).check L loose_traced)

/-- A return after a line stays between lines. -/
theorem between_returnAlongLine (start target : UInt32) (heading : Float32) :
    Leads Traced Between (returnAlongLine L start target heading) (GoesOn Traced Between) := by
  have hsteady := (kept_between .returning).toSteady
  have hblock : ∀ remaining, Leads Traced Between (returnBlock L target heading remaining)
      fun r n => r.elim (fun _ => Between n) fun result => GoesOn Traced Between result n := by
    intro remaining
    refine Leads.ite (fun _ => ?_) fun _ => ?_
    · exact Leads.pure _ fun n hn => ⟨fun _ => hn, fun h' => absurd rfl h'⟩
    apply (between_block L (min_block_le remaining)).bind
    intro r
    refine Leads.goOn (fun hr n hn => ⟨fun h' => absurd h' hr, fun _ => hn⟩) ?_
    exact Leads.pure _ fun n hn => hn.2
  apply Leads.report
  refine (Leads.loop (I := fun _ => Between) (Q := GoesOn Traced Between)
    (fun _ => hsteady.safe) hblock (start - target)).bind fun result =>
      Leads.ite (fun hr => ?_) fun hr => ?_
  · refine Leads.mono (P := Between) ?_ (fun n hn => hn.1 hr) fun _ _ hn => hn
    refine Leads.quiet hsteady (quiet_layer _) fun _ => Leads.pure _ ?_
    intro n hn
    exact ⟨fun _ => hn, fun h' => absurd hr h'⟩
  · exact Leads.pure _ fun n hn => ⟨fun h' => absurd h' hr, fun _ => hn.2 hr⟩

/-! ## Dips -/

/-- How a dip ends that was rechecked with `l`: it has recovered, or its probes are used up. -/
def DipEnded (l : Line) (r : Bool × UInt32 × LinePair) (n : Nav) : Prop :=
  ∃ probe, lineReturnConsistent l.declineReference r.2.2 = r.1 ∧ (r.1 = false → probe = 2) ∧
    On (.dip l probe r.2.1 r.2.2) r.2.1 n

/-- **The probes of a dip** follow each other until one of them finds the recovery. -/
theorem on_probeDip (l : Line) (heading : Float32) (k j : ℕ) (hkj : j + k = 2)
    (position : UInt32) (current : LinePair)
    (hweak : lineReturnConsistent l.declineReference current = false) :
    Leads Traced (On (.dip l j position current) position)
      (probeDip L heading l.bestPosition l.declineReference k position current)
      (Found Traced (DipEnded l)) := by
  induction k generalizing j position current with
  | zero =>
    apply Leads.report
    exact Leads.pure _ fun n hn => ⟨j, hweak, fun _ => hkj, hn⟩
  | succ k ih =>
    have hs : (LineState.dip l j position current).Rests := fun hj => by omega
    have hsteady : ∀ p, Steady Traced (On (.dip l j position current) p) := fun p =>
      (kept_on .probe hs).toSteady
    apply Leads.report
    refine (on_block L hs (by decide)).bind fun r => Leads.goOn (fun _ n hn => hn) ?_
    refine Leads.given ?_
    intro hmoved
    apply Leads.quiet (hsteady _) (quiet_layer _)
    intro _
    apply (on_measurePair L hs .followWifi).bind
    intro fresh
    cases fresh with
    | error result => exact Leads.pure _ fun n hn => hn
    | ok fresh =>
      apply Leads.report
      refine Leads.quiet (hsteady _) (quiet_saveCheckpoint L) fun ok => Leads.ite (fun _ => ?_)
        fun _ => ?_
      · exact Leads.pure _ (hsteady _).safe
      have hprobe : LineStep (.dip l j position current)
          (.dip (lineDipMaxProbes - k) l.bestPosition l.declineReference (position + r.2) fresh)
          (.dip l (j + 1) (position + r.2) fresh) := by
        have hnumber : lineDipMaxProbes - k = j + 1 := by
          unfold lineDipMaxProbes
          omega
        rw [hnumber]
        exact .probe l (by omega) hweak hmoved.1 hmoved.2.2 fresh
      refine Leads.bind (M := fun _ => On (.dip l (j + 1) (position + r.2) fresh) (position + r.2))
        (Leads.set fun n hn => hn.note hprobe) fun _ => Leads.ite (fun hr => ?_) fun hr => ?_
      · exact Leads.pure _ fun n hn => ⟨j + 1, hr, nofun, hn⟩
      · exact ih (j + 1) (by omega) _ _ (Bool.eq_false_iff.mpr hr)

/-- **A dip** is rechecked before it is probed. -/
theorem on_recheckAndProbeDip (l : Line) {step : UInt32} {current : LinePair}
    (hdeclined : lineReferenceDeclined l.declineReference current = true)
    (hmany : lineDeclinePositions ≤ (l.decline step).declinePositions) (heading : Float32) :
    Leads Traced (On (.stop l step current) l.position)
      (recheckAndProbeDip L heading (l.decline step).bestPosition
        (l.decline step).declineReference (l.decline step).position)
      (Found Traced (DipEnded (l.decline step))) := by
  have hs : (LineState.stop l step current).Rests := trivial
  have hkept : Kept Traced .dip (On (.stop l step current) l.position) := kept_on .dip hs
  refine Leads.quiet hkept.toSteady (quiet_layer _) fun _ => Leads.report ?_
  refine ((hkept.check L loose_traced).goes hkept.safe).bind ?_
  intro result
  refine Leads.goOn (fun _ n hn => hn) ?_
  apply (on_measurePair L hs .followWifi).bind
  intro fresh
  cases fresh with
  | error result => exact Leads.pure _ fun n hn => hn
  | ok fresh =>
    apply Leads.report
    refine Leads.quiet hkept.toSteady (quiet_saveCheckpoint L) fun ok => Leads.ite (fun _ => ?_)
      fun _ => ?_
    · exact Leads.pure _ hkept.safe
    have hrecheck := LineStep.recheck l hdeclined hmany fresh
    refine Leads.bind (M := fun _ => On (.dip (l.decline step) 0 (l.decline step).position fresh)
      (l.decline step).position) ?_ fun _ => Leads.ite (fun hr => ?_) fun hr => ?_
    · apply Leads.set
      intro n hn
      rw [Line.decline_position]
      exact Line.decline_position l step ▸ hn.note hrecheck
    · exact Leads.pure _ fun n hn => ⟨0, hr, nofun, hn⟩
    · exact on_probeDip L _ heading 2 0 rfl _ _ (Bool.eq_false_iff.mpr hr)

end Parts

/-! ## Lines -/

/-- The line may be compared with the readings. -/
def ToJudge (l : Line) (current : LinePair) (n : Nav) : Prop :=
  ∃ s : LineState, LineStep s (.judged l current) (.judged l current) ∧ On s l.position n

/-- The loop of `follow_direction` may go on with the line. -/
def ToFollow (l : Line) (n : Nav) : Prop :=
  ∃ s : LineState, s.Rests ∧ LineStep s (.head l) (.head l) ∧ On s l.position n

section Follow

variable {ρ : Type} (L : Layer ρ)

/-- Both lengths of a block are steps of the state machine. -/
theorem stepLength_of {step : UInt32} (h : step = lineMatBlockMs ∨ step = lineForwardBlockMs) :
    StepLength step := h

/-- No block of a line is longer than half a second. -/
theorem block_le (l : Line) {step : UInt32} (hstep : StepLength step) :
    (l.block step).toNat ≤ 500 := by
  apply le_trans (l.block_le step)
  rcases hstep with rfl | rfl
  · decide
  · decide

/-- A block leads from the head of the loop to a stop of the line. -/
theorem on_followBlock (l : Line) {step : UInt32} (hstep : StepLength step) :
    Leads Traced (On (.head l) l.position) (followBlock L l step)
      (Stepped Traced (fun r => On (.stop r.1 step r.2) r.1.position) fun _ => Between) := by
  have hs : (LineState.head l).Rests := trivial
  have hsteady : ∀ p, Steady Traced (On (.head l) p) := fun p => (kept_on .follow hs).toSteady
  apply Leads.quiet (hsteady _) (quiet_layer _)
  intro _
  have hmax : (l.block step).toNat ≤ 750 := le_trans (block_le l hstep) (by decide)
  refine (on_block L hs hmax).bind fun r => Leads.goOn (fun _ n hn => hn) ?_
  refine Leads.given ?_
  intro hmoved
  refine ((leads_matSteeringReady (hsteady _)).mono (fun _ hn => hn) fun _ _ hn => hn.2).bind
    fun ready => Leads.ite (fun _ => ?_) fun _ => ?_
  · apply Leads.report
    exact Leads.pure _ fun n hn => hn.between hs
  apply Leads.quiet (hsteady _) (quiet_layer _)
  intro _
  apply (on_measurePair L hs .followWifi).bind
  intro current
  cases current with
  | error result => exact Leads.pure _ fun n hn => hn
  | ok current =>
    refine Leads.quiet (hsteady _) (quiet_recordPoint L) fun ok => Leads.ite (fun _ => ?_)
      fun _ => ?_
    · exact Leads.pure _ (hsteady _).safe
    have hvisited := LineStep.visited l current hstep hmoved.1 hmoved.2.1 hmoved.2.2
    refine Leads.bind (M := fun _ => On (.stop (l.moveTo (l.position + r.2)) step current)
      (l.position + r.2)) ?_ fun _ => ?_
    · exact Leads.set fun n hn => hn.note hvisited
    · apply Leads.report
      exact Leads.pure _ fun n hn => hn

/-- The end of a declining line is a return from its dip. -/
theorem on_endDecline {l : Line} {position : UInt32} {current : LinePair}
    (hweak : lineReturnConsistent l.declineReference current = false) :
    Leads Traced (On (.dip l 2 position current) position)
      (endDecline L { l with position := position }) (Found Traced fun _ => Between) := by
  refine Leads.bind (M := fun _ => Between) ?_ fun _ => ?_
  · refine Leads.set fun n hn => @On.between .out position _ ?_ trivial
    exact hn.note (.reverse l position hweak)
  apply Leads.report
  apply (between_returnAlongLine L _ _ _).bind
  intro result
  refine Leads.goOn (fun _ n hn => hn) ?_
  apply (between_measurePair L .followWifi).bind
  intro returned
  cases returned with
  | error result => exact Leads.pure _ fun n hn => hn
  | ok returned =>
    apply Leads.report
    exact Leads.pure _ fun n hn => hn

/-- A stop leads to a comparison, or to the end of the line. -/
theorem on_followDecline (l : Line) (step : UInt32) (current : LinePair) :
    Leads Traced (On (.stop l step current) l.position) (followDecline L l step current)
      (Stepped Traced (fun r => ToJudge r.1 r.2) fun _ => Between) := by
  refine Leads.ite (fun hnot => ?_) fun hdeclined => ?_
  · apply Leads.reportIf
    refine Leads.pure _ fun n hn => ⟨_, .clear l step (by simpa using hnot), ?_⟩
    rw [Line.clear_position]
    exact hn
  have hdeclined' : lineReferenceDeclined l.declineReference current = true := by
    simpa using hdeclined
  refine Leads.reportIf (Leads.report ?_)
  refine Leads.ite (fun hfew => ?_) fun hmany => ?_
  · refine Leads.pure _ fun n hn => ⟨_, .decline l hdeclined' hfew, ?_⟩
    rw [Line.decline_position]
    exact hn
  apply (on_recheckAndProbeDip L l hdeclined' (not_lt.mp hmany) _).bind
  intro r
  match r with
  | .error result => exact Leads.pure _ fun n hn => hn
  | .ok (true, position, fresh) =>
    apply Leads.report
    exact Leads.pure _ fun n ⟨probe, hr, _, hn⟩ => ⟨_, .recover _ probe position hr, hn⟩
  | .ok (false, position, fresh) =>
    intro x n ⟨probe, hr, hprobe, hn⟩
    obtain rfl := hprobe rfl
    have hend := @on_endDecline _ L (l.decline step) position _ hr
    have hreturn : Leads Traced (On (.dip (l.decline step) 2 position fresh) position) (do
        let result ← endDecline L { l.decline step with position := position }
        return .inr result) (Stepped Traced (fun (r : Line × LinePair) => ToJudge r.1 r.2)
          fun _ => Between) :=
      hend.bind fun result => Leads.pure _ fun n hn => hn
    exact hreturn x n hn

/-- A comparison leads back to the head of the loop, or to the end of the line. -/
theorem on_followEnd (l : Line) (current : LinePair) :
    Leads Traced (On (.judged l current) l.position) (followEnd L (l.judge current))
      (Stepped Traced ToFollow fun _ => Between) := by
  have hs : (LineState.judged l current).Rests := trivial
  have hsteady : Steady Traced (On (.judged l current) l.position) := (kept_on .follow hs).toSteady
  have hposition : (l.judge current).position = l.position := by
    unfold Line.judge
    rw [Line.keepReference_position, Line.keepBest_position]
  refine Leads.ite (fun _ => ?_) fun _ => Leads.ite (fun _ => ?_) fun _ => ?_
  · apply Leads.report
    exact Leads.pure _ fun n hn => hn.between hs
  · exact Leads.pure _ fun n hn => ⟨_, hs, .again l current, hposition ▸ hn⟩
  apply Leads.report
  apply Leads.quiet hsteady (quiet_setNav fun n => Mute.profile n 0)
  intro _
  refine Leads.quiet hsteady (quiet_recordPoint L) fun ok => Leads.ite (fun _ => ?_) fun _ => ?_
  · exact Leads.pure _ fun n hn => ⟨_, hs, .interval l current, hposition ▸ hn⟩
  · exact Leads.pure _ hsteady.safe

/-- **A round of a line** takes it from one head of the loop to the next. -/
theorem on_followRound (l : Line) :
    Leads Traced (ToFollow l) (followRound L l) (Stepped Traced ToFollow fun _ => Between) := by
  have hs : (LineState.head l).Rests := trivial
  have hsteady : Steady Traced (On (.head l) l.position) := (kept_on .follow hs).toSteady
  refine Leads.bind (M := fun _ => On (.head l) l.position) ?_ fun _ => ?_
  · exact Leads.set fun n ⟨s, _, he, hn⟩ => hn.note he
  refine Leads.quiet hsteady (quiet_runCanContinue L) fun ok => Leads.ite (fun _ => ?_) fun _ => ?_
  · exact Leads.pure _ hsteady.safe
  refine (leads_forwardBlockMs L hsteady).bind fun step => Leads.given ?_
  intro hstep
  apply (on_followBlock L l (stepLength_of hstep)).bind
  intro r
  match r with
  | .inr result => exact Leads.pure _ fun n hn => hn
  | .inl (l, current) =>
    apply (on_followDecline L l step current).bind
    intro r
    match r with
    | .inr result => exact Leads.pure _ fun n hn => hn
    | .inl (l, current) =>
      refine Leads.bind (M := fun _ => On (.judged l current) l.position) ?_ fun _ => ?_
      · exact Leads.set fun n ⟨s, he, hn⟩ => hn.note he
      · exact (on_followEnd L l current).reportJudged

/-- **A line** is a run of the state machine. -/
theorem between_followDirection (heading : Float32) (trialMs : UInt32) :
    Leads Traced Between (followDirection L heading trialMs) (Found Traced fun _ => Between) := by
  have hsteady := (kept_between .follow).toSteady
  apply Leads.quiet hsteady (quiet_setNav fun n => Mute.profile n 0)
  intro _
  refine (leads_turnToHeading L (kept_between .follow).toRoams heading).bind fun ok =>
    Leads.ite (fun _ => ?_) fun _ => ?_
  · exact Leads.pure _ hsteady.safe
  apply Leads.quiet hsteady (quiet_layer _)
  intro _
  apply (between_measurePair L .followWifi).bind
  intro best
  cases best with
  | error result => exact Leads.pure _ fun n hn => hn
  | ok best =>
    refine Leads.quiet hsteady (quiet_recordPoint L) fun ok => Leads.ite (fun _ => ?_) fun _ => ?_
    · exact Leads.pure _ hsteady.safe
    refine Leads.bind (M := fun _ => On (.began best) 0) ?_ fun _ => ?_
    · exact Leads.set fun n ⟨s, hs, hn⟩ => hn.note (.began hs best)
    have hloop := Leads.loop (L := L) (I := ToFollow) (Q := Found Traced fun _ => Between)
      (fun l n ⟨s, hs, _, hn⟩ => hn.traced hs)
      (fun l => (on_followRound L l).mono (fun _ hn => hn) fun r n hn => by
        cases r with
        | inl l' => exact hn
        | inr result => exact hn) (Line.first heading trialMs best)
    have hs : (LineState.began best).Rests := trivial
    apply Leads.report
    exact hloop.mono (fun n hn => ⟨_, hs, .first heading trialMs best, hn⟩) fun _ _ hn => hn

/-- The end of a trial stays between lines. -/
theorem between_endTrial (heading : Float32) (f : FollowResult) :
    Leads Traced Between (endTrial L heading f) (Found Traced fun _ => Between) := by
  apply Leads.report
  apply (between_returnAlongLine L _ _ _).bind
  intro result
  refine Leads.goOn (fun _ n hn => hn) ?_
  apply (between_measurePair L .followWifi).bind
  intro returned
  cases returned with
  | error result => exact Leads.pure _ fun n hn => hn
  | ok returned =>
    apply Leads.report
    exact Leads.pure _ fun n hn => hn

end Follow

/-! ## Runs -/

/-- The search stays between lines, but for the lines that it follows. -/
theorem searches_between {ρ : Type} (L : Layer ρ) :
    Searches L Traced Between Between Between Between Between fun _ => Between where
  enters := (kept_between .steering).toSteady
  scans := (kept_between .steering).toRoams
  holds := (kept_between .steering).toRoams
  frees := (kept_between .steering).toSteady
  again _ hn := hn
  spent _ hn _ := hn
  scan _ hn _ := by
    obtain ⟨s, hs, hn⟩ := hn
    exact ⟨s, hs, hn.same rfl rfl⟩
  scanned n m ok _ hn hm := by
    obtain ⟨s, hs, hn⟩ := hn
    have hm' : Between m := ⟨s, hs, hn.same hm.log hm.translationMs⟩
    split
    · exact hm'
    · exact hm'
  steeringCheck := (kept_between .steering).check L loose_traced
  steeringBlock _ := (between_block L (by decide)).mono (fun _ hn => hn) fun r n hn =>
    ⟨fun hr => (hn.1 hr).2, hn.2⟩
  settled _ hn _ := hn
  starts := (kept_between .start).toRoams
  startCheck := (kept_between .start).check L loose_traced
  ready _ _ hn _ _ _ := hn
  notReady _ hn _ := hn
  follow heading trialMs := between_followDirection L heading trialMs
  follows _ := (kept_between .follow).toSteady
  followedMat _ _ _ hn := hn
  followedOther _ _ _ hn := hn
  trial heading f _ := between_endTrial L heading f

/-- **Refinement**: the notes on the lines of a run, wherever it is cut off, are a run of the
state machine, and never stop where it has to go on. -/
theorem approachBeacon_traced {ρ : Type} (L : Layer ρ) (x : ρ) (colour : ColourSensor) :
    Traced (exec (approachBeacon L) (x, Nav.boot colour)).2.2 := by
  have hboot : Between (Nav.boot colour) := ⟨.out, trivial, .start, Nat.zero_le _, le_rfl⟩
  have hrun := (searches_between L).approachBeacon (kept_between .start).toSteady
    (fun n now _ => ⟨.out, trivial, .start, Nat.zero_le _, le_rfl⟩) x (Nav.boot colour) hboot
  exact always hrun

end Navigation
