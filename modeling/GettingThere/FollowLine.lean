/-
# A line (`getting_there.c`, the variables of `follow_direction`)

A line is followed block by block; at each stop the signal is measured.  What `follow_direction`
keeps of it is a `Line`: the best position, the positions that were declined against a
reference, and the positions which that reference is the median of.  What it does with a new
pair of readings is here.
-/
import GettingThere.LineSearch

namespace Navigation

/-- `LINE_DECLINE_POSITIONS`, `LINE_REFERENCE_POSITIONS`. -/
def lineDeclinePositions : ℕ := 3
def lineReferencePositions : ℕ := 3

/-- The variables of `follow_direction`. -/
structure Line where
  heading : Float32
  trialMs : UInt32
  baseline : LinePair
  best : LinePair
  bestPosition : UInt32
  position : UInt32
  segmentStart : UInt32
  lastDeclinePosition : UInt32
  declinePositions : ℕ
  recent : List LinePair
  recentCount : ℕ
  recentNext : ℕ
  declineReference : LinePair
  dipActive : Bool
  progress : Bool

/-- A line with nothing but its first position. -/
def Line.first (heading : Float32) (trialMs : UInt32) (best : LinePair) : Line where
  heading := heading
  trialMs := trialMs
  baseline := best
  best := best
  bestPosition := 0
  position := 0
  segmentStart := 0
  lastDeclinePosition := 0
  declinePositions := 0
  recent := [best, ⟨⟨0, 0⟩, ⟨0, 0⟩⟩, ⟨⟨0, 0⟩, ⟨0, 0⟩⟩]
  recentCount := 1
  recentNext := 1
  declineReference := best
  dipActive := false
  progress := false

/-- The length of the next block of `follow_direction`. -/
def Line.block (l : Line) (step : UInt32) : UInt32 :=
  if l.progress = false ∧ l.position < l.trialMs then min step (l.trialMs - l.position) else step

theorem toNat_min (a b : UInt32) : (min a b).toNat = min a.toNat b.toNat := by
  show (if a ≤ b then a else b).toNat = _
  split
  · rename_i h
    exact (Nat.min_eq_left (UInt32.le_iff_toNat_le.mp h)).symm
  · rename_i h
    exact (Nat.min_eq_right (Nat.le_of_not_le fun h' => h (UInt32.le_iff_toNat_le.mpr h'))).symm

theorem Line.block_le (l : Line) (step : UInt32) : (l.block step).toNat ≤ step.toNat := by
  unfold Line.block
  split
  · rw [toNat_min]
    exact Nat.min_le_left _ _
  · exact le_rfl

/-- A position that is declined is counted, at most once in a step. -/
def Line.decline (l : Line) (step : UInt32) : Line :=
  let l := { l with dipActive := true }
  if l.declinePositions = 0 ∨ step ≤ l.position - l.lastDeclinePosition then
    { l with declinePositions := l.declinePositions + 1, lastDeclinePosition := l.position }
  else l

/-- A position that is not declined ends the sequence, and perhaps the dip. -/
def Line.clear (l : Line) (current : LinePair) : Line :=
  if l.dipActive then
    { l with
      declinePositions := 0
      dipActive := !lineReturnConsistent l.declineReference current }
  else l

/-- The recovery of a dip, at the position and readings where it was found. -/
def Line.recover (l : Line) (position : UInt32) : Line :=
  { l with position := position, dipActive := false, declinePositions := 0 }

/-- The readings confirm that the position is better than the best one. -/
def Line.stronger (l : Line) (current : LinePair) : Bool :=
  decide (0 < lineCompare l.best current) ||
    (l.progress && decide (0 < lineCompare l.baseline current) &&
      decide (0 < lineConfirmedGain l.best current))

/-- A position that is better becomes the best one. -/
def Line.keepBest (l : Line) (current : LinePair) : Line :=
  if l.stronger current then
    { l with
      dipActive := false
      declinePositions := 0
      best := current
      bestPosition := l.position
      progress := true }
  else l

/-- The median reference follows the recent positions, but never down. -/
def Line.keepReference (l : Line) (current : LinePair) : Line :=
  if l.dipActive then l
  else
    let recent := l.recent.set l.recentNext current
    let count := min lineReferencePositions (l.recentCount + 1)
    let candidate := lineMedianReference recent
    { l with
      recent := recent
      recentNext := (l.recentNext + 1) % lineReferencePositions
      recentCount := count
      declineReference :=
        if count = lineReferencePositions ∧ 0 < lineConfirmedGain l.declineReference candidate
        then candidate else l.declineReference }

/-- The median reference rises with these readings. -/
def Line.strengthens (l : Line) (current : LinePair) : Bool :=
  !l.dipActive && decide (min lineReferencePositions (l.recentCount + 1) = lineReferencePositions) &&
    decide (0 < lineConfirmedGain l.declineReference
      (lineMedianReference (l.recent.set l.recentNext current)))

/-- What is noted of a line, newest first in a list of notes. -/
inductive LineNote
  /-- the line begins with these readings -/
  | began (baseline : LinePair)
  /-- the head of the loop -/
  | head (l : Line)
  /-- a position was reached with a block, and the readings there are recorded -/
  | visited (l : Line) (step : UInt32) (current : LinePair)
  /-- the recheck of a dip (no probe yet) or one of its probes: the best position and the
  reference that it was called with, its position and its readings -/
  | dip (probe : ℕ) (bestPosition : UInt32) (reference : LinePair) (position : UInt32)
    (current : LinePair)
  /-- the line is compared with the readings at its position -/
  | judged (l : Line) (current : LinePair)
  /-- the line has declined, and the robot reverses from one position to another -/
  | reversed (start stop : UInt32)

end Navigation
