/-
# A line as a state machine

`follow_direction` is a loop with a dip inside; `LineStep` says what each of its notes means for
the state of the line, and `LineRun` what a list of notes amounts to.  This is all that the
decline rule, the best position and the reference are about: the commands in between, and how
a block or a measurement may fail, no longer matter.

That the code keeps to it is shown in `LineRefinement`.
-/
import GettingThere.FollowLine

namespace Navigation

/-! ## What the operations of a line leave alone -/

namespace Line

variable (l : Line) (step : UInt32) (current : LinePair)

@[simp] theorem decline_position : (l.decline step).position = l.position := by
  unfold decline
  dsimp only
  split <;> rfl

@[simp] theorem decline_best : (l.decline step).best = l.best := by
  unfold decline
  dsimp only
  split <;> rfl

@[simp] theorem decline_declineReference :
    (l.decline step).declineReference = l.declineReference := by
  unfold decline
  dsimp only
  split <;> rfl

@[simp] theorem clear_position : (l.clear current).position = l.position := by
  unfold clear
  split <;> rfl

@[simp] theorem clear_best : (l.clear current).best = l.best := by
  unfold clear
  split <;> rfl

@[simp] theorem clear_bestPosition : (l.clear current).bestPosition = l.bestPosition := by
  unfold clear
  split <;> rfl

@[simp] theorem clear_declineReference :
    (l.clear current).declineReference = l.declineReference := by
  unfold clear
  split <;> rfl

@[simp] theorem keepBest_position : (l.keepBest current).position = l.position := by
  unfold keepBest
  split <;> rfl

@[simp] theorem keepBest_declineReference :
    (l.keepBest current).declineReference = l.declineReference := by
  unfold keepBest
  split <;> rfl

@[simp] theorem keepReference_position : (l.keepReference current).position = l.position := by
  unfold keepReference
  split <;> rfl

@[simp] theorem keepReference_bestPosition :
    (l.keepReference current).bestPosition = l.bestPosition := by
  unfold keepReference
  split <;> rfl

end Line

/-! ## States and steps -/

/-- Where a line is. -/
inductive LineState
  /-- no line, or one that has ended with a reverse -/
  | out
  | began (baseline : LinePair)
  /-- at the head of the loop -/
  | head (l : Line)
  /-- at a stop, with the step that was in force and the readings there -/
  | stop (l : Line) (step : UInt32) (current : LinePair)
  /-- in a dip, which the line had when it was rechecked: the probes so far, the position and
  the readings there -/
  | dip (l : Line) (probe : ℕ) (position : UInt32) (current : LinePair)
  /-- the readings at the position are known not to end the line -/
  | judged (l : Line) (current : LinePair)

/-- The position of the robot on the line. -/
def LineState.position : LineState → UInt32
  | out => 0
  | began _ => 0
  | head l => l.position
  | stop l _ _ => l.position
  | dip _ _ position _ => position
  | judged l _ => l.position

/-- A dip whose probes are used up and that has not recovered is followed by the reverse at
once; anywhere else a line may be given up. -/
def LineState.Rests : LineState → Prop
  | dip l probe _ current =>
    probe = 2 → lineReturnConsistent l.declineReference current = true
  | _ => True

/-- The line at a position. -/
def Line.moveTo (l : Line) (position : UInt32) : Line := { l with position := position }

/-- The line after a comparison with the readings at its position. -/
def Line.judge (l : Line) (current : LinePair) : Line := (l.keepBest current).keepReference current

/-- The step in force is one of two. -/
def StepLength (step : UInt32) : Prop := step = 250 ∨ step = 500

/-- What a note means for a line. -/
inductive LineStep : LineState → LineNote → LineState → Prop
  | began {s : LineState} (hs : s.Rests) (baseline : LinePair) :
    LineStep s (.began baseline) (.began baseline)
  | first (heading : Float32) (trialMs : UInt32) (baseline : LinePair) :
    LineStep (.began baseline) (.head (Line.first heading trialMs baseline))
      (.head (Line.first heading trialMs baseline))
  | again (l : Line) (current : LinePair) :
    LineStep (.judged l current) (.head (l.judge current)) (.head (l.judge current))
  /-- the profile of an interval is full -/
  | interval (l : Line) (current : LinePair) :
    LineStep (.judged l current)
      (.head { l.judge current with segmentStart := (l.judge current).position })
      (.head { l.judge current with segmentStart := (l.judge current).position })
  | visited (l : Line) {step actual : UInt32} (current : LinePair) (hstep : StepLength step)
    (hpowered : 0 < actual.toNat) (hactual : actual.toNat ≤ (l.block step).toNat + 25)
    (hroom : l.position.toNat + actual.toNat ≤ 60000) :
    LineStep (.head l) (.visited (l.moveTo (l.position + actual)) step current)
      (.stop (l.moveTo (l.position + actual)) step current)
  | clear (l : Line) (step : UInt32) {current : LinePair}
    (hnot : lineReferenceDeclined l.declineReference current = false) :
    LineStep (.stop l step current) (.judged (l.clear current) current)
      (.judged (l.clear current) current)
  | decline (l : Line) {step : UInt32} {current : LinePair}
    (hdeclined : lineReferenceDeclined l.declineReference current = true)
    (hfew : (l.decline step).declinePositions < lineDeclinePositions) :
    LineStep (.stop l step current) (.judged (l.decline step) current)
      (.judged (l.decline step) current)
  | recheck (l : Line) {step : UInt32} {current : LinePair}
    (hdeclined : lineReferenceDeclined l.declineReference current = true)
    (hmany : lineDeclinePositions ≤ (l.decline step).declinePositions) (fresh : LinePair) :
    LineStep (.stop l step current)
      (.dip 0 (l.decline step).bestPosition (l.decline step).declineReference
        (l.decline step).position fresh)
      (.dip (l.decline step) 0 (l.decline step).position fresh)
  | probe (l : Line) {k : ℕ} {position actual : UInt32} {current : LinePair} (hk : k < 2)
    (hweak : lineReturnConsistent l.declineReference current = false)
    (hpowered : 0 < actual.toNat) (hroom : position.toNat + actual.toNat ≤ 60000)
    (fresh : LinePair) :
    LineStep (.dip l k position current)
      (.dip (k + 1) l.bestPosition l.declineReference (position + actual) fresh)
      (.dip l (k + 1) (position + actual) fresh)
  | recover (l : Line) (k : ℕ) (position : UInt32) {current : LinePair}
    (hrecovered : lineReturnConsistent l.declineReference current = true) :
    LineStep (.dip l k position current) (.judged (l.recover position) current)
      (.judged (l.recover position) current)
  | reverse (l : Line) (position : UInt32) {current : LinePair}
    (hweak : lineReturnConsistent l.declineReference current = false) :
    LineStep (.dip l 2 position current) (.reversed position l.bestPosition) .out

/-- What a list of notes, newest first, amounts to. -/
inductive LineRun : List LineNote → LineState → Prop
  | start : LineRun [] .out
  | step {log : List LineNote} {s s' : LineState} {e : LineNote} (h : LineRun log s)
    (he : LineStep s e s') : LineRun (e :: log) s'

/-! ## Runs -/

namespace LineRun

variable {log rest : List LineNote} {s : LineState} {e : LineNote}

theorem cons_inv (h : LineRun (e :: log) s) : ∃ s', LineRun log s' ∧ LineStep s' e s := by
  cases h with
  | step h he => exact ⟨_, h, he⟩

/-- A line that has begun has its first readings as the latest note. -/
theorem began {baseline : LinePair} (h : LineRun log (.began baseline)) :
    log.head? = some (.began baseline) := by
  cases h with
  | step h he => cases he; rfl

/-- A comparison is the latest note. -/
theorem judged {l : Line} {current : LinePair} (h : LineRun log (.judged l current)) :
    log.head? = some (.judged l current) := by
  cases h with
  | step h he => cases he <;> rfl

/-- Every note in a run was a step. -/
theorem suffix (h : LineRun log s) (hs : e :: rest <:+ log) :
    ∃ s₁ s₂, LineRun rest s₁ ∧ LineStep s₁ e s₂ := by
  induction h with
  | start =>
    have hlen := hs.length_le
    exact absurd hlen (Nat.not_succ_le_zero _)
  | step h he ih =>
    rcases List.suffix_cons_iff.mp hs with heq | hs'
    · obtain ⟨rfl, rfl⟩ := List.cons.inj heq
      exact ⟨_, _, h, he⟩
    · exact ih hs'

/-- **Invariants of a line**: what holds at the start and is kept by every step. -/
theorem invariant {P : List LineNote → LineState → Prop} (h : LineRun log s) (hstart : P [] .out)
    (hstep : ∀ log s s' e, LineRun log s → P log s → LineStep s e s' → P (e :: log) s') :
    P log s := by
  induction h with
  | start => exact hstart
  | step h he ih => exact hstep _ _ _ _ h ih he

end LineRun

end Navigation
