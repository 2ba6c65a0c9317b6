/-
# The decline of a line

A line is given up with a reverse only after three positions that were declined against one
reference, a step apart, and a dip that does not recover; and after such a dip the reverse is
what comes next.  The count of `follow_direction` is compared with the notes of the run: it is
the length of a sequence of declined positions (`Declining`) that no other reading interrupts.
-/
import GettingThere.LineInvariants

open CrashLogic

namespace Navigation

/-! ## Sequences of declined positions -/

/-- The latest positions are declined against `reference`; `n` of them are counted, the last one
at `position`, each at least the step in force beyond the one before it. -/
inductive Declining (reference : LinePair) : ℕ → UInt32 → List LineNote → Prop
  | first {l : Line} {step : UInt32} {current : LinePair} {rest : List LineNote}
    (href : l.declineReference = reference)
    (hdeclined : lineReferenceDeclined reference current = true) :
    Declining reference 1 l.position (.visited l step current :: rest)
  | count {n : ℕ} {position : UInt32} {l : Line} {step : UInt32} {current : LinePair}
    {rest : List LineNote} (h : Declining reference n position rest)
    (href : l.declineReference = reference)
    (hdeclined : lineReferenceDeclined reference current = true)
    (hle : position ≤ l.position) (hstep : step ≤ l.position - position) :
    Declining reference (n + 1) l.position (.visited l step current :: rest)
  /-- too close to the one before it -/
  | near {n : ℕ} {position : UInt32} {l : Line} {step : UInt32} {current : LinePair}
    {rest : List LineNote} (h : Declining reference n position rest)
    (href : l.declineReference = reference)
    (hdeclined : lineReferenceDeclined reference current = true) :
    Declining reference n position (.visited l step current :: rest)
  | judged {n : ℕ} {position : UInt32} {rest : List LineNote}
    (h : Declining reference n position rest) (l : Line) (current : LinePair) :
    Declining reference n position (.judged l current :: rest)
  | head {n : ℕ} {position : UInt32} {rest : List LineNote}
    (h : Declining reference n position rest) (l : Line) :
    Declining reference n position (.head l :: rest)

/-- What `follow_direction` has counted is such a sequence. -/
structure Line.Counts (l : Line) (log : List LineNote) : Prop where
  few : l.declinePositions < lineDeclinePositions
  declining : 0 < l.declinePositions →
    Declining l.declineReference l.declinePositions l.lastDeclinePosition log

/-- A dip after three such positions, the last one where the recheck is; no reading of it so far,
but perhaps the latest one, is consistent with the reference. -/
inductive Dipping (best : UInt32) (reference : LinePair) :
    ℕ → UInt32 → LinePair → List LineNote → Prop
  | recheck {l : Line} {step : UInt32} {current : LinePair} {rest : List LineNote}
    (h : Declining reference lineDeclinePositions l.position (.visited l step current :: rest))
    (hbest : l.bestPosition = best) (fresh : LinePair) :
    Dipping best reference 0 l.position fresh
      (.dip 0 best reference l.position fresh :: .visited l step current :: rest)
  | probe {k : ℕ} {position : UInt32} {current : LinePair} {log : List LineNote}
    (h : Dipping best reference k position current log)
    (hweak : lineReturnConsistent reference current = false) {position' : UInt32}
    (hle : position ≤ position') (fresh : LinePair) :
    Dipping best reference (k + 1) position' fresh
      (.dip (k + 1) best reference position' fresh :: log)

/-! ## The count of a line -/

namespace Line

variable {l : Line} {log : List LineNote}

theorem Counts.none (h : l.declinePositions = 0) : l.Counts log :=
  ⟨h ▸ Nat.zero_lt_succ 2, fun h' => absurd h (Nat.ne_of_gt h')⟩

/-- A declined position goes on with the sequence, or starts one. -/
theorem Counts.decline (h : l.Counts log) (hsound : l.Sound) {step : UInt32} {current : LinePair}
    (hdeclined : lineReferenceDeclined l.declineReference current = true) :
    (l.decline step).declinePositions ≤ lineDeclinePositions ∧
    Declining l.declineReference (l.decline step).declinePositions
      (l.decline step).lastDeclinePosition (.visited l step current :: log) ∧
    (lineDeclinePositions ≤ (l.decline step).declinePositions →
      (l.decline step).lastDeclinePosition = l.position) := by
  have hfew := h.few
  unfold Line.decline
  dsimp only
  split
  · rename_i hcount
    refine ⟨hfew, ?_, fun _ => rfl⟩
    rcases Nat.eq_zero_or_pos l.declinePositions with hzero | hpos
    · show Declining l.declineReference (l.declinePositions + 1) l.position _
      rw [hzero]
      exact .first rfl hdeclined
    · have hstep := hcount.resolve_left (Nat.ne_of_gt hpos)
      exact .count (h.declining hpos) rfl hdeclined hsound.decline_le hstep
  · rename_i hcount
    have hpos : 0 < l.declinePositions := Nat.pos_of_ne_zero fun h' => hcount (.inl h')
    refine ⟨Nat.le_of_lt hfew, .near (h.declining hpos) rfl hdeclined, ?_⟩
    intro hmany
    exact absurd hmany (Nat.not_le_of_lt hfew)

theorem Counts.cons {e : LineNote} (h : l.Counts log)
    (hcons : ∀ {n position}, Declining l.declineReference n position log →
      Declining l.declineReference n position (e :: log)) : l.Counts (e :: log) :=
  ⟨h.few, fun hpos => hcons (h.declining hpos)⟩

end Line

/-! ## Runs -/

/-- The notes bear out what a line has counted. -/
def LineState.Counts (log : List LineNote) : LineState → Prop
  | .out => True
  | .began _ => True
  | .head l => l.Counts log
  | .stop l step current => ∃ rest, log = .visited l step current :: rest ∧ l.Counts rest
  | .dip l k position current => Dipping l.bestPosition l.declineReference k position current log
  | .judged l _ => l.Counts log

end Navigation
