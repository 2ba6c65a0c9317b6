/-
# The best position of a line

What holds at every head of the loop of `follow_direction` (`Line.Sound`): no difference of
positions underflows, a line without progress has its first position as the best one, and with
progress the best readings are better than the first ones.  The best position changes only to
where stronger readings were just taken (`BestKept`).
-/
import GettingThere.LineRefinement
import GettingThere.LineVerdicts

open CrashLogic

namespace Navigation

/-! ## Sound lines -/

/-- What holds of the variables of `follow_direction`. -/
structure Line.Sound (l : Line) : Prop where
  best_le : l.bestPosition ≤ l.position
  decline_le : l.lastDeclinePosition ≤ l.position
  segment_le : l.segmentStart ≤ l.position
  first : l.progress = false ↔ l.best = l.baseline ∧ l.bestPosition = 0
  better : l.progress = true → lineCompare l.baseline l.best = 1
  dip : 0 < l.declinePositions → l.dipActive = true

namespace Line

/-- The part of `Sound` that is about the best position. -/
def SameBest (l l' : Line) : Prop :=
  l.baseline = l'.baseline ∧ l.best = l'.best ∧ l.bestPosition = l'.bestPosition ∧
    l.progress = l'.progress

theorem SameBest.refl (l : Line) : SameBest l l := ⟨rfl, rfl, rfl, rfl⟩

theorem SameBest.trans {l l' l'' : Line} (h : SameBest l l') (h' : SameBest l' l'') :
    SameBest l l'' :=
  ⟨h.1.trans h'.1, h.2.1.trans h'.2.1, h.2.2.1.trans h'.2.2.1, h.2.2.2.trans h'.2.2.2⟩

/-- Readings that are better than the first ones are not the first ones. -/
theorem ne_of_better {p q : LinePair} (h : lineCompare p q = 1) : q ≠ p := by
  rintro rfl
  exact lt_irrefl _ (weakest_lt_of_gain (gain_of_lineCompare h))

variable {l l' : Line}

/-- A change that leaves the best position alone. -/
theorem Sound.change (h : l.Sound) (hbest : SameBest l' l) (hposition : l.position ≤ l'.position)
    (hdecline : l'.lastDeclinePosition ≤ l'.position) (hsegment : l'.segmentStart ≤ l'.position)
    (hdip : 0 < l'.declinePositions → l'.dipActive = true) : l'.Sound := by
  obtain ⟨h1, h2, h3, h4⟩ := hbest
  refine ⟨?_, hdecline, hsegment, ?_, ?_, hdip⟩
  · rw [h3]
    exact UInt32.le_trans h.best_le hposition
  · rw [h1, h2, h3, h4]
    exact h.first
  · rw [h1, h2, h4]
    exact h.better

/-- A line begins soundly, with its first position as the best one. -/
theorem sound_first (heading : Float32) (trialMs : UInt32) (best : LinePair) :
    (first heading trialMs best).Sound where
  best_le := UInt32.le_refl 0
  decline_le := UInt32.le_refl 0
  segment_le := UInt32.le_refl 0
  first := ⟨fun _ => ⟨rfl, rfl⟩, fun _ => rfl⟩
  better := nofun
  dip h := absurd h (lt_irrefl 0)

/-- Counting a decline keeps the best position. -/
theorem sameBest_decline (l : Line) (step : UInt32) : SameBest (l.decline step) l := by
  unfold decline
  dsimp only
  split
  · exact ⟨rfl, rfl, rfl, rfl⟩
  · exact ⟨rfl, rfl, rfl, rfl⟩

/-- Clearing a decline keeps the best position. -/
theorem sameBest_clear (l : Line) (current : LinePair) : SameBest (l.clear current) l := by
  unfold clear
  split
  · exact ⟨rfl, rfl, rfl, rfl⟩
  · exact ⟨rfl, rfl, rfl, rfl⟩

/-- A new reference keeps the best position. -/
theorem sameBest_keepReference (l : Line) (current : LinePair) :
    SameBest (l.keepReference current) l := by
  unfold keepReference
  split
  · exact ⟨rfl, rfl, rfl, rfl⟩
  · exact ⟨rfl, rfl, rfl, rfl⟩

/-- A decline is counted at the position the line is at. -/
theorem Sound.decline (h : l.Sound) (step : UInt32) : (l.decline step).Sound := by
  have hbest := sameBest_decline l step
  unfold Line.decline at hbest ⊢
  dsimp only at hbest ⊢
  split
  · rename_i hcount
    rw [if_pos hcount] at hbest
    exact h.change hbest (UInt32.le_refl _) (UInt32.le_refl _) h.segment_le fun _ => rfl
  · rename_i hcount
    rw [if_neg hcount] at hbest
    exact h.change hbest (UInt32.le_refl _) h.decline_le h.segment_le fun _ => rfl

/-- A cleared decline leaves a sound line. -/
theorem Sound.clear (h : l.Sound) (current : LinePair) : (l.clear current).Sound := by
  unfold Line.clear
  split
  · exact h.change ⟨rfl, rfl, rfl, rfl⟩ (UInt32.le_refl _) h.decline_le h.segment_le
      fun h' => absurd h' (lt_irrefl 0)
  · exact h

/-- The robot moves on. -/
theorem Sound.moveTo (h : l.Sound) {position : UInt32} (hle : l.position ≤ position) :
    (l.moveTo position).Sound :=
  h.change ⟨rfl, rfl, rfl, rfl⟩ hle (UInt32.le_trans h.decline_le hle)
    (UInt32.le_trans h.segment_le hle) h.dip

/-- A line recovers at the position it was left at or beyond. -/
theorem Sound.recover (h : l.Sound) {position : UInt32} (hle : l.position ≤ position) :
    (l.recover position).Sound :=
  h.change ⟨rfl, rfl, rfl, rfl⟩ hle (UInt32.le_trans h.decline_le hle)
    (UInt32.le_trans h.segment_le hle) fun h' => absurd h' (lt_irrefl 0)

/-- A new reference is none of soundness. -/
theorem Sound.keepReference (h : l.Sound) (current : LinePair) :
    (l.keepReference current).Sound := by
  unfold Line.keepReference
  split
  · exact h
  · exact h.change ⟨rfl, rfl, rfl, rfl⟩ (UInt32.le_refl _) h.decline_le h.segment_le h.dip

/-- Readings replace the best ones if they are stronger than these or, after progress, stronger than
the first ones and with a gain in the weaker batch. -/
theorem stronger_iff {current : LinePair} : l.stronger current = true ↔
    lineCompare l.best current = 1 ∨ (l.progress = true ∧ lineCompare l.baseline current = 1 ∧
      0 < lineConfirmedGain l.best current) := by
  unfold stronger
  rw [Bool.or_eq_true, Bool.and_eq_true, Bool.and_eq_true, decide_eq_true_iff,
    decide_eq_true_iff, decide_eq_true_iff, lineCompare_pos, lineCompare_pos, and_assoc]

/-- Stronger readings become the best ones. -/
theorem keepBest_of_stronger {current : LinePair} (h : l.stronger current = true) :
    (l.keepBest current).baseline = l.baseline ∧ (l.keepBest current).best = current ∧
      (l.keepBest current).bestPosition = l.position := by
  unfold keepBest
  rw [if_pos h]
  exact ⟨rfl, rfl, rfl⟩

/-- Readings that become the best ones are stronger than the old ones. -/
theorem gain_of_stronger {current : LinePair} (h : l.stronger current = true) :
    0 < lineConfirmedGain l.best current := by
  rcases stronger_iff.mp h with h | ⟨_, _, h⟩
  · exact gain_of_lineCompare h
  · exact h

/-- Readings that become the best ones are better than the first ones. -/
theorem Sound.better_of_stronger (h : l.Sound) {current : LinePair}
    (hs : l.stronger current = true) : lineCompare l.baseline current = 1 := by
  rcases stronger_iff.mp hs with hbest | ⟨_, hbetter, _⟩
  · cases hp : l.progress with
    | false =>
      rw [← (h.first.mp hp).1]
      exact hbest
    | true => exact lineCompare_trans (h.better hp) hbest
  · exact hbetter

/-- A new best position is where the line is. -/
theorem Sound.keepBest (h : l.Sound) (current : LinePair) : (l.keepBest current).Sound := by
  unfold Line.keepBest
  split
  · rename_i hs
    have hbetter := h.better_of_stronger hs
    refine ⟨UInt32.le_refl _, h.decline_le, h.segment_le, ⟨nofun, ?_⟩, fun _ => hbetter,
      fun h' => absurd h' (lt_irrefl 0)⟩
    intro h'
    exact absurd h'.1 (ne_of_better hbetter)
  · exact h

/-- Judging readings keeps the line sound. -/
theorem Sound.judge (h : l.Sound) (current : LinePair) : (l.judge current).Sound :=
  (h.keepBest current).keepReference current

/-- Judging moves nothing. -/
theorem judge_position (l : Line) (current : LinePair) :
    (l.judge current).position = l.position := by
  unfold judge
  rw [keepReference_position, keepBest_position]

end Line

/-! ## Runs -/

/-- A line is sound wherever it is, and a dip lies beyond the stop it was found at. -/
def LineState.Sound : LineState → Prop
  | .out => True
  | .began _ => True
  | .head l => l.Sound
  | .stop l _ _ => l.Sound
  | .dip l _ position _ => l.Sound ∧ l.position ≤ position
  | .judged l _ => l.Sound

/-- Powered time that does not overflow leads on. -/
theorem le_add_powered {position actual : UInt32}
    (h : position.toNat + actual.toNat ≤ 60000) : position ≤ position + actual := by
  rw [UInt32.le_iff_toNat_le, UInt32.toNat_add]
  omega

/-- **A step keeps a line sound.** -/
theorem LineStep.sound {s s' : LineState} {e : LineNote} (he : LineStep s e s') (hs : s.Sound) :
    s'.Sound := by
  cases he with
  | began _ baseline => trivial
  | first heading trialMs baseline => exact Line.sound_first heading trialMs baseline
  | again l current => exact Line.Sound.judge hs current
  | interval l current =>
    have hjudge := Line.Sound.judge hs current
    exact hjudge.change ⟨rfl, rfl, rfl, rfl⟩ (UInt32.le_refl _) hjudge.decline_le
      (UInt32.le_refl _) hjudge.dip
  | visited l current hstep hpowered hactual hroom =>
    exact Line.Sound.moveTo hs (le_add_powered hroom)
  | clear l step hnot => exact Line.Sound.clear hs _
  | decline l hdeclined hfew => exact Line.Sound.decline hs _
  | recheck l hdeclined hmany fresh => exact ⟨Line.Sound.decline hs _, UInt32.le_refl _⟩
  | probe l hk hweak hpowered hroom fresh =>
    exact ⟨hs.1, UInt32.le_trans hs.2 (le_add_powered hroom)⟩
  | recover l k position hrecovered => exact Line.Sound.recover hs.1 hs.2
  | reverse l position hweak => trivial

/-- **Every line that is followed is sound**, wherever its run has got. -/
theorem LineRun.sound {log : List LineNote} {s : LineState} (h : LineRun log s) : s.Sound :=
  h.invariant trivial fun _ _ _ _ _ hs he => he.sound hs

/-- The latest head of the loop on this line. -/
def lastHead : List LineNote → Option Line
  | [] => none
  | .began _ :: _ => none
  | .head l :: _ => some l
  | .visited _ _ _ :: log => lastHead log
  | .dip _ _ _ _ _ :: log => lastHead log
  | .judged _ _ :: log => lastHead log
  | .reversed _ _ :: log => lastHead log

/-- The latest readings, and the position where they were taken. -/
def lastReadings : List LineNote → Option (UInt32 × LinePair)
  | [] => none
  | .began baseline :: _ => some (0, baseline)
  | .head _ :: log => lastReadings log
  | .visited l _ current :: _ => some (l.position, current)
  | .dip _ _ _ position current :: _ => some (position, current)
  | .judged _ _ :: log => lastReadings log
  | .reversed _ _ :: log => lastReadings log

/-- The line has the best position of the latest head. -/
def FromHead (log : List LineNote) (l : Line) : Prop := ∃ h, lastHead log = some h ∧ l.SameBest h

/-- What the notes say of the state. -/
def LineState.Noted (log : List LineNote) : LineState → Prop
  | .out => True
  | .began _ => True
  | .head l => lastHead log = some l
  | .stop l _ current => FromHead log l ∧ lastReadings log = some (l.position, current)
  | .dip l _ position current => FromHead log l ∧ lastReadings log = some (position, current)
  | .judged l current => FromHead log l ∧ lastReadings log = some (l.position, current)

/-- A line with the same best position is from the same head. -/
theorem FromHead.same {log : List LineNote} {l l' : Line} (h : FromHead log l)
    (hbest : l'.SameBest l) : FromHead log l' := by
  obtain ⟨h, hhead, hsame⟩ := h
  exact ⟨h, hhead, hbest.trans hsame⟩

/-- Each step notes what the state says. -/
theorem LineStep.noted {log : List LineNote} {s s' : LineState} {e : LineNote}
    (he : LineStep s e s') (hs : s.Noted log) : s'.Noted (e :: log) := by
  cases he with
  | began _ baseline => trivial
  | first heading trialMs baseline => rfl
  | again l current => rfl
  | interval l current => rfl
  | visited l current hstep hpowered hactual hroom => exact ⟨⟨l, hs, rfl, rfl, rfl, rfl⟩, rfl⟩
  | clear l step hnot =>
    refine ⟨FromHead.same hs.1 (l.sameBest_clear _), ?_⟩
    rw [Line.clear_position]
    exact hs.2
  | decline l hdeclined hfew =>
    refine ⟨FromHead.same hs.1 (l.sameBest_decline _), ?_⟩
    rw [Line.decline_position]
    exact hs.2
  | recheck l hdeclined hmany fresh => exact ⟨FromHead.same hs.1 (l.sameBest_decline _), rfl⟩
  | probe l hk hweak hpowered hroom fresh => exact ⟨hs.1, rfl⟩
  | recover l k position hrecovered => exact ⟨FromHead.same hs.1 ⟨rfl, rfl, rfl, rfl⟩, hs.2⟩
  | reverse l position hweak => trivial

/-- By induction the notes of a run say what its state does. -/
theorem LineRun.noted {log : List LineNote} {s : LineState} (h : LineRun log s) : s.Noted log :=
  h.invariant trivial fun _ _ _ _ _ hs he => he.noted hs

/-- What a comparison with the latest readings does to the best position of the latest head:
nothing, or the readings are stronger, with a stronger weaker batch, and their position becomes
the best one. -/
def BestKept (rest : List LineNote) (l : Line) (current : LinePair) : Prop :=
  FromHead rest l ∧ lastReadings rest = some (l.position, current) ∧
    ((l.judge current).SameBest l ∨
      (l.judge current).baseline = l.baseline ∧ (l.judge current).best = current ∧
      (l.judge current).bestPosition = l.position ∧ 0 < lineConfirmedGain l.best current ∧
      current.weakest < l.best.weakest)

/-- At a comparison the readings are the latest ones, and the best position is that of the head. -/
theorem bestKept_of_noted {rest : List LineNote} {l : Line} {current : LinePair}
    (hhead : FromHead rest l) (hread : lastReadings rest = some (l.position, current)) :
    BestKept rest l current := by
  refine ⟨hhead, hread, ?_⟩
  have hreference := (l.keepBest current).sameBest_keepReference current
  by_cases hs : l.stronger current = true
  · right
    obtain ⟨h1, h2, h3, -⟩ := hreference
    obtain ⟨hbaseline, hbest, hposition⟩ := Line.keepBest_of_stronger hs
    have hgain := Line.gain_of_stronger hs
    exact ⟨h1.trans hbaseline, h2.trans hbest, h3.trans hposition, hgain,
      weakest_lt_of_gain hgain⟩
  · left
    have hbest : l.keepBest current = l := if_neg hs
    unfold Line.judge
    rw [hbest] at hreference ⊢
    exact hreference

/-- **Lines in a run**: wherever a run of `approach_beacon` is cut off, every line is sound at
each head of the loop, at each stop and at each comparison; a dip lies beyond the best
position; a comparison keeps the best position or moves it to the latest readings, which are
stronger; and each head is the first one of a line or has the best position that the comparison
before it left. -/
theorem approachBeacon_bestKept {ρ : Type} (L : Layer ρ) (x : ρ) (colour : ColourSensor) :
    let log := (exec (approachBeacon L) (x, Nav.boot colour)).2.2.log
    (∀ l, .head l ∈ log → l.Sound) ∧
    (∀ l step current, .visited l step current ∈ log → l.Sound) ∧
    (∀ k best reference position current, .dip k best reference position current ∈ log →
      best ≤ position) ∧
    (∀ l current rest, .judged l current :: rest <:+ log → l.Sound ∧ BestKept rest l current) ∧
    (∀ l rest, .head l :: rest <:+ log →
      (∃ heading trialMs baseline, l = Line.first heading trialMs baseline ∧
        rest.head? = some (.began baseline)) ∨
      (∃ l₀ current, l.SameBest (l₀.judge current) ∧ l.position = l₀.position ∧
        rest.head? = some (.judged l₀ current))) := by
  intro log
  obtain ⟨s, _, hrun⟩ := approachBeacon_traced L x colour
  have hstep : ∀ e ∈ log, ∃ s₁ s₂, s₁.Sound ∧ s₂.Sound ∧ LineStep s₁ e s₂ := by
    intro e he
    obtain ⟨newer, rest, hlog⟩ := List.append_of_mem he
    have hsuffix : e :: rest <:+ log := ⟨newer, hlog.symm⟩
    obtain ⟨s₁, s₂, hrest, hs⟩ := LineRun.suffix hrun hsuffix
    exact ⟨s₁, s₂, hrest.sound, hs.sound hrest.sound, hs⟩
  refine ⟨?_, ?_, ?_, ?_, ?_⟩
  · intro l hl
    obtain ⟨s₁, s₂, _, hs₂, he⟩ := hstep _ hl
    cases he <;> exact hs₂
  · intro l step current hl
    obtain ⟨s₁, s₂, _, hs₂, he⟩ := hstep _ hl
    cases he
    exact hs₂
  · intro k best reference position current hl
    obtain ⟨s₁, s₂, _, hs₂, he⟩ := hstep _ hl
    cases he with
    | recheck l hdeclined hmany fresh => exact hs₂.1.best_le
    | probe l hk hweak hpowered hroom fresh => exact UInt32.le_trans hs₂.1.best_le hs₂.2
  · intro l current rest hl
    obtain ⟨s₁, s₂, hrest, he⟩ := LineRun.suffix hrun hl
    have hsound := he.sound hrest.sound
    have hnoted := he.noted hrest.noted
    cases he <;> exact ⟨hsound, bestKept_of_noted hnoted.1 hnoted.2⟩
  · intro l rest hl
    obtain ⟨s₁, s₂, hrest, he⟩ := LineRun.suffix hrun hl
    cases he with
    | first heading trialMs baseline => exact .inl ⟨heading, trialMs, baseline, rfl, hrest.began⟩
    -- after a comparison the loop goes on, perhaps in a new interval
    | again l₀ current =>
      exact .inr ⟨l₀, current, Line.SameBest.refl _, l₀.judge_position current, hrest.judged⟩
    | interval l₀ current =>
      exact .inr ⟨l₀, current, ⟨rfl, rfl, rfl, rfl⟩, l₀.judge_position current, hrest.judged⟩

end Navigation
