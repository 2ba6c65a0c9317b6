/-
# The reference of a line

A decline is judged against the median of three recent positions.  Which positions those are is
read off the notes of the run (`admitted`); the three slots of `follow_direction` are a ring of
them.  The reference starts with the first readings of the line, stays as it is in a dip, and
changes only to a median that is stronger than both batches of the one before it.
-/
import GettingThere.LineInvariants
import GettingThere.RecentRing

open CrashLogic

namespace Navigation

/-! ## The median -/

/-- The median of three pairs by their weaker batches. -/
def Median (samples : List LinePair) (m : LinePair) : Prop :=
  ∃ a b, samples.Perm [a, m, b] ∧ a.weakest ≤ m.weakest ∧ m.weakest ≤ b.weakest

/-- A pair that is strictly stronger than the two others is not the median. -/
theorem Median.ne_strongest {samples : List LinePair} {m c x y : LinePair}
    (h : Median samples m) (hsamples : samples.Perm [c, x, y]) (hx : c.weakest < x.weakest)
    (hy : c.weakest < y.weakest) : m ≠ c := by
  rintro rfl
  obtain ⟨a, b, hperm, hle, -⟩ := h
  have hothers : [a, b].Perm [x, y] := by
    have hfront : [a, m, b].Perm [m, a, b] := List.Perm.swap m a [b]
    exact List.Perm.cons_inv ((hfront.symm.trans hperm.symm).trans hsamples)
  have hmem : a ∈ [x, y] := hothers.subset (List.mem_cons_self ..)
  rw [List.mem_pair] at hmem
  rcases hmem with rfl | rfl
  · omega
  · omega

/-- The pairs in the order of their weaker batches. -/
theorem lineReference_code_le {p q : LinePair} (hp : p.valid = true) (hq : q.valid = true) :
    (lineReference p).code ≤ (lineReference q).code ↔ p.weakest ≤ q.weakest := by
  rw [lineReference_code hp, lineReference_code hq]

/-- **`line_median_reference`** of three valid pairs is their median. -/
theorem median_lineMedianReference {samples : List LinePair} (hlen : samples.length = 3)
    (hvalid : (lineMedianReference samples).valid = true) :
    Median samples (lineMedianReference samples) := by
  unfold lineMedianReference at hvalid ⊢
  split
  · rename_i hall
    let r : LinePair → LinePair → Prop := fun p q =>
      (lineReference p).code ≤ (lineReference q).code
    have htotal : Std.Total r := ⟨fun p q => Nat.le_total _ _⟩
    have htrans : IsTrans LinePair r := ⟨fun p q s h h' => le_trans h h'⟩
    have hsorted := List.pairwise_insertionSort r samples
    have hperm := List.perm_insertionSort r samples
    obtain ⟨a, m, b, hsort⟩ := List.length_eq_three.mp (hperm.length_eq.trans hlen)
    have hmem : ∀ p ∈ [a, m, b], p.valid = true := by
      intro p hp
      rw [← hsort] at hp
      exact List.all_eq_true.mp hall p (hperm.mem_iff.mp hp)
    rw [hsort] at hsorted hperm
    have hva := hmem a (by simp)
    have hvm := hmem m (by simp)
    have hvb := hmem b (by simp)
    have ham : r a m := List.rel_of_pairwise_cons hsorted (List.mem_cons_self ..)
    have hmb : r m b := List.rel_of_pairwise_cons hsorted.of_cons (List.mem_cons_self ..)
    show Median samples ((samples.insertionSort r).getD 1 _)
    rw [hsort]
    exact ⟨a, b, hperm.symm, (lineReference_code_le hva hvm).mp ham,
      (lineReference_code_le hvm hvb).mp hmb⟩
  · rename_i hnone
    rw [if_neg hnone] at hvalid
    exact absurd hvalid Bool.false_ne_true

/-! ## What a comparison does to the reference -/

/-- The pairs admitted to the history of the line, newest first: its first readings, and those
that a comparison finds outside a dip. -/
def admitted : List LineNote → List LinePair
  | [] => []
  | .began baseline :: _ => [baseline]
  | .head _ :: log => admitted log
  | .visited _ _ _ :: log => admitted log
  | .dip _ _ _ _ _ :: log => admitted log
  | .judged l current :: log =>
    if (l.keepBest current).dipActive then admitted log else current :: admitted log
  | .reversed _ _ :: log => admitted log

/-- The reference of the latest head of the loop. -/
def headReference (log : List LineNote) : Option LinePair :=
  (lastHead log).map Line.declineReference

/-- The three slots of a line are a ring of the pairs that were admitted. -/
def Line.Recent (l : Line) (pairs : List LinePair) : Prop :=
  RecentRing lineReferencePositions l.recent l.recentCount l.recentNext pairs

namespace Line

variable {l : Line} {pairs : List LinePair}

theorem recent_first (heading : Float32) (trialMs : UInt32) (baseline : LinePair) :
    (first heading trialMs baseline).Recent [baseline] where
  length := rfl
  count_eq := rfl
  next_eq := rfl
  slot i hi hlen := by
    have hzero : i = 0 := Nat.lt_one_iff.mp hlen
    subst hzero
    rfl

/-- What a change leaves of the history and the reference. -/
def SameReference (l l' : Line) : Prop :=
  l.recent = l'.recent ∧ l.recentCount = l'.recentCount ∧ l.recentNext = l'.recentNext ∧
    l.declineReference = l'.declineReference

theorem Recent.same {l' : Line} (h : l.Recent pairs) (hsame : l'.SameReference l) :
    l'.Recent pairs := by
  obtain ⟨h1, h2, h3, -⟩ := hsame
  unfold Recent
  rw [h1, h2, h3]
  exact h

theorem sameReference_decline (l : Line) (step : UInt32) : (l.decline step).SameReference l := by
  unfold decline
  dsimp only
  split <;> exact ⟨rfl, rfl, rfl, rfl⟩

theorem sameReference_clear (l : Line) (current : LinePair) :
    (l.clear current).SameReference l := by
  unfold clear
  split <;> exact ⟨rfl, rfl, rfl, rfl⟩

theorem sameReference_keepBest (l : Line) (current : LinePair) :
    (l.keepBest current).SameReference l := by
  unfold keepBest
  split <;> exact ⟨rfl, rfl, rfl, rfl⟩

/-- In a dip the history stays as it is; otherwise the readings are admitted. -/
theorem Recent.judge (h : l.Recent pairs) (current : LinePair) :
    (l.judge current).Recent
      (if (l.keepBest current).dipActive then pairs else current :: pairs) := by
  have hkeep := h.same (l.sameReference_keepBest current)
  unfold Line.judge keepReference
  split
  · exact hkeep
  · exact hkeep.push (Nat.zero_lt_succ 2) current

/-- A new reference: what the comparison that sets it has found. -/
structure Strengthened (l : Line) (current : LinePair) (pairs : List LinePair) : Prop where
  inactive : (l.keepBest current).dipActive = false
  gain : 0 < lineConfirmedGain l.declineReference (l.judge current).declineReference
  stronger : (l.judge current).declineReference.weakest < l.declineReference.strongest
  three : 3 ≤ pairs.length
  median : Median (pairs.take 3) (l.judge current).declineReference

/-- **The reference after a comparison** is the one before, or the median of the three pairs
admitted last. -/
theorem Recent.judge_reference (h : l.Recent pairs) (current : LinePair) :
    (l.judge current).declineReference = l.declineReference ∨
      l.Strengthened current
        (if (l.keepBest current).dipActive then pairs else current :: pairs) := by
  have hrecent := h.judge current
  have hkept := (l.sameReference_keepBest current).2.2.2
  cases hactive : (l.keepBest current).dipActive with
  | true =>
    left
    unfold Line.judge keepReference
    rw [if_pos hactive]
    exact hkept
  | false =>
    rw [hactive] at hrecent
    by_cases hset : (l.judge current).recentCount = lineReferencePositions ∧
        0 < lineConfirmedGain l.declineReference (lineMedianReference (l.judge current).recent)
    · right
      have href : (l.judge current).declineReference =
          lineMedianReference (l.judge current).recent := by
        unfold Line.judge keepReference at hset ⊢
        rw [hactive, hkept] at hset ⊢
        exact if_pos hset
      have hgain := hset.2
      obtain ⟨-, hvalid, hlt⟩ := lineConfirmedGain_pos.mp hgain
      obtain ⟨hthree, hperm⟩ := hrecent.perm hset.1
      obtain ⟨a, b, hmedian, hle⟩ := median_lineMedianReference hrecent.length hvalid
      refine ⟨hactive, ?_, ?_, hthree, ?_⟩
      · rw [href]
        exact hgain
      · rw [href]
        exact hlt
      · rw [href]
        exact ⟨a, b, hperm.symm.trans hmedian, hle⟩
    · left
      unfold Line.judge keepReference at hset ⊢
      rw [hactive, hkept] at hset ⊢
      exact if_neg hset

end Line

/-! ## Runs -/

/-- The history and the reference of a line, wherever it is; after a comparison they are those
of the next head. -/
def LineState.History (pairs : List LinePair) : LineState → Prop
  | .out => True
  | .began baseline => pairs = [baseline]
  | .head l => l.Recent pairs
  | .stop l _ _ => l.Recent pairs
  | .dip l _ _ _ => l.Recent pairs
  | .judged l current => (l.judge current).Recent pairs

/-- **A step keeps the history.** -/
theorem LineStep.history {log : List LineNote} {s s' : LineState} {e : LineNote}
    (he : LineStep s e s') (hs : s.History (admitted log)) : s'.History (admitted (e :: log)) := by
  cases he with
  | began _ baseline => rfl
  | first heading trialMs baseline =>
    show (Line.first heading trialMs baseline).Recent (admitted log)
    rw [show admitted log = [baseline] from hs]
    exact Line.recent_first heading trialMs baseline
  | again l current => exact hs
  | interval l current => exact hs
  | visited l current hstep hpowered hactual hroom => exact Line.Recent.same hs ⟨rfl, rfl, rfl, rfl⟩
  | clear l step hnot =>
    exact Line.Recent.judge (Line.Recent.same hs (l.sameReference_clear _)) _
  | decline l hdeclined hfew =>
    exact Line.Recent.judge (Line.Recent.same hs (l.sameReference_decline _)) _
  | recheck l hdeclined hmany fresh => exact Line.Recent.same hs (l.sameReference_decline _)
  | probe l hk hweak hpowered hroom fresh => exact hs
  | recover l k position hrecovered =>
    have hrecent : (l.recover position).Recent (admitted log) :=
      Line.Recent.same (l := l) hs ⟨rfl, rfl, rfl, rfl⟩
    exact hrecent.judge _
  | reverse l position hweak => trivial

/-- The readings of a comparison join the pairs that were admitted before, outside a dip. -/
theorem LineStep.recent {log : List LineNote} {s s' : LineState} {l : Line} {current : LinePair}
    (he : LineStep s (.judged l current) s') (hs : s.History (admitted log)) :
    ∃ pairs, l.Recent pairs ∧ admitted (.judged l current :: log) =
      if (l.keepBest current).dipActive then pairs else current :: pairs := by
  refine ⟨admitted log, ?_, rfl⟩
  cases he with
  | clear l step hnot => exact Line.Recent.same hs (l.sameReference_clear _)
  | decline l hdeclined hfew => exact Line.Recent.same hs (l.sameReference_decline _)
  | recover l k position hrecovered => exact Line.Recent.same (l := l) hs ⟨rfl, rfl, rfl, rfl⟩

theorem LineRun.history {log : List LineNote} {s : LineState} (h : LineRun log s) :
    s.History (admitted log) :=
  h.invariant (P := fun log s => s.History (admitted log)) trivial fun _ _ _ _ _ hs he =>
    he.history hs

/-- The reference is the one of the latest head; after a comparison, the one that the comparison
was made with. -/
def LineState.FromHead (log : List LineNote) : LineState → Prop
  | .out => True
  | .began _ => True
  | .head l => headReference log = some l.declineReference
  | .stop l _ _ => headReference log = some l.declineReference
  | .dip l _ _ _ => headReference log = some l.declineReference
  | .judged l _ => headReference log = some l.declineReference

theorem LineStep.fromHead {log : List LineNote} {s s' : LineState} {e : LineNote}
    (he : LineStep s e s') (hs : s.FromHead log) : s'.FromHead (e :: log) := by
  cases he with
  | began _ baseline => trivial
  | first heading trialMs baseline => rfl
  | again l current => rfl
  | interval l current => rfl
  | visited l current hstep hpowered hactual hroom => exact hs
  | clear l step hnot =>
    show headReference log = some (l.clear _).declineReference
    rw [Line.clear_declineReference]
    exact hs
  | decline l hdeclined hfew =>
    show headReference log = some (l.decline _).declineReference
    rw [Line.decline_declineReference]
    exact hs
  | recheck l hdeclined hmany fresh =>
    show headReference log = some (l.decline _).declineReference
    rw [Line.decline_declineReference]
    exact hs
  | probe l hk hweak hpowered hroom fresh => exact hs
  | recover l k position hrecovered => exact hs
  | reverse l position hweak => trivial

theorem LineRun.fromHead {log : List LineNote} {s : LineState} (h : LineRun log s) :
    s.FromHead log :=
  h.invariant (P := fun log s => s.FromHead log) trivial fun _ _ _ _ _ hs he => he.fromHead hs

/-! ## The reference never weakens -/

/-- A reference that is no weaker: the same one, or one with both batches stronger than the
strongest one of before. -/
def NoWeaker (old new : LinePair) : Prop := new = old ∨ new.weakest < old.strongest

theorem NoWeaker.trans {p q r : LinePair} (h : NoWeaker p q) (h' : NoWeaker q r) :
    NoWeaker p r := by
  rcases h with rfl | hpq
  · exact h'
  · right
    rcases h' with rfl | hqr
    · exact hpq
    · have := q.strongest_le_weakest
      omega

theorem Line.Recent.noWeaker {l : Line} {pairs : List LinePair} (h : l.Recent pairs)
    (current : LinePair) : NoWeaker l.declineReference (l.judge current).declineReference := by
  rcases h.judge_reference current with hsame | hnew
  · exact .inl hsame
  · exact .inr hnew.stronger

/-- The reference of the line has become no weaker than `old`. -/
def LineState.Held (old : LinePair) : LineState → Prop
  | .out => True
  | .began baseline => NoWeaker old baseline
  | .head l => NoWeaker old l.declineReference
  | .stop l _ _ => NoWeaker old l.declineReference
  | .dip l _ _ _ => NoWeaker old l.declineReference
  | .judged l current => NoWeaker old (l.judge current).declineReference

/-- A line before a comparison holds its reference in the comparison. -/
theorem Line.Recent.held {l l' : Line} {pairs : List LinePair} {old : LinePair}
    (h : l.Recent pairs) (hsame : l'.SameReference l) (hold : NoWeaker old l.declineReference)
    (current : LinePair) : NoWeaker old (l'.judge current).declineReference := by
  have hnext := (h.same hsame).noWeaker current
  rw [hsame.2.2.2] at hnext
  exact hold.trans hnext

/-- **A step never weakens the reference**, unless another line begins. -/
theorem LineStep.held {log : List LineNote} {s s' : LineState} {e : LineNote} {old : LinePair}
    (he : LineStep s e s') (hbegan : ∀ baseline, e ≠ .began baseline)
    (hhistory : s.History (admitted log)) (hs : s.Held old) : s'.Held old := by
  cases he with
  | began _ baseline => exact absurd rfl (hbegan baseline)
  | first heading trialMs baseline => exact hs
  | again l current => exact hs
  | interval l current => exact hs
  | visited l current hstep hpowered hactual hroom => exact hs
  | clear l step hnot => exact Line.Recent.held hhistory (l.sameReference_clear _) hs _
  | decline l hdeclined hfew => exact Line.Recent.held hhistory (l.sameReference_decline _) hs _
  | recheck l hdeclined hmany fresh =>
    show NoWeaker old (l.decline _).declineReference
    rw [Line.decline_declineReference]
    exact hs
  | probe l hk hweak hpowered hroom fresh => exact hs
  | recover l k position hrecovered =>
    have hsame : (l.recover position).SameReference l := ⟨rfl, rfl, rfl, rfl⟩
    exact Line.Recent.held hhistory hsame hs _
  | reverse l position hweak => trivial

/-- **Along a line** the reference never weakens. -/
theorem LineRun.held {log rest : List LineNote} {s : LineState} {l : Line} {newer : List LineNote}
    (h : LineRun log s) (hlog : log = newer ++ .head l :: rest)
    (hbegan : ∀ baseline, .began baseline ∉ newer) : s.Held l.declineReference := by
  induction h generalizing newer with
  | start => exact absurd hlog.symm (List.append_ne_nil_of_right_ne_nil _ (List.cons_ne_nil _ _))
  | step h he ih =>
    cases newer with
    | nil =>
      obtain ⟨rfl, rfl⟩ := List.cons.inj hlog
      cases he with
      | first => exact .inl rfl
      | again => exact .inl rfl
      | interval => exact .inl rfl
    | cons e newer =>
      obtain ⟨rfl, hrest⟩ := List.cons.inj (hlog.trans (List.cons_append ..))
      have hheld := ih hrest fun baseline hmem => hbegan baseline (List.mem_cons_of_mem _ hmem)
      refine he.held ?_ h.history hheld
      rintro baseline rfl
      exact hbegan baseline (List.mem_cons_self ..)

/-- **References in a run**: wherever a run of `approach_beacon` is cut off, every head of the
loop has the first readings of its line as the reference, or the reference that the comparison
before it left; in between nothing changes it.  A comparison keeps it, or it is outside a dip
and finds a median of the three pairs admitted last whose batches are both stronger than the
strongest one of before; that median is never a pair that is strictly the strongest of the
three.  No later head of the same line has a weaker reference. -/
theorem approachBeacon_reference {ρ : Type} (L : Layer ρ) (x : ρ) (colour : ColourSensor) :
    let log := (exec (approachBeacon L) (x, Nav.boot colour)).2.2.log
    (∀ l rest, .head l :: rest <:+ log →
      rest.head? = some (.began l.declineReference) ∨
      ∃ l₀ current, rest.head? = some (.judged l₀ current) ∧
        l.declineReference = (l₀.judge current).declineReference) ∧
    (∀ l step current rest, .visited l step current :: rest <:+ log →
      headReference rest = some l.declineReference) ∧
    (∀ k best reference position current rest,
      .dip k best reference position current :: rest <:+ log →
      headReference rest = some reference) ∧
    (∀ l current rest, .judged l current :: rest <:+ log →
      headReference rest = some l.declineReference ∧
      lastReadings rest = some (l.position, current) ∧
      ((l.judge current).declineReference = l.declineReference ∨
        l.Strengthened current (admitted (.judged l current :: rest)) ∧
        ∀ c x y, ((admitted (.judged l current :: rest)).take 3).Perm [c, x, y] →
          c.weakest < x.weakest → c.weakest < y.weakest →
          (l.judge current).declineReference ≠ c)) ∧
    (∀ l l' newer rest, .head l' :: newer ++ .head l :: rest <:+ log →
      (∀ baseline, .began baseline ∉ newer) →
      NoWeaker l.declineReference l'.declineReference) := by
  intro log
  -- each part is about one note; the notes before it are a run too
  obtain ⟨s, _, hrun⟩ := approachBeacon_traced L x colour
  refine ⟨?_, ?_, ?_, ?_, ?_⟩
  · intro l rest hl
    obtain ⟨s₁, s₂, hrest, he⟩ := LineRun.suffix hrun hl
    cases he with
    | first heading trialMs baseline => exact .inl hrest.began
    | again l₀ current => exact .inr ⟨l₀, current, hrest.judged, rfl⟩
    | interval l₀ current => exact .inr ⟨l₀, current, hrest.judged, rfl⟩
  · intro l step current rest hl
    obtain ⟨s₁, s₂, hrest, he⟩ := LineRun.suffix hrun hl
    cases he
    exact hrest.fromHead
  · intro k best reference position current rest hl
    obtain ⟨s₁, s₂, hrest, he⟩ := LineRun.suffix hrun hl
    have hfrom := he.fromHead hrest.fromHead
    cases he with
    | recheck => exact hfrom
    | probe => exact hfrom
  · intro l current rest hl
    obtain ⟨s₁, s₂, hrest, he⟩ := LineRun.suffix hrun hl
    have hfrom := he.fromHead hrest.fromHead
    have hnoted := he.noted hrest.noted
    -- the reference that is judged is the old one or the median of the latest pairs
    obtain ⟨pairs, hrecent, hpairs⟩ := he.recent hrest.history
    refine ⟨?_, ?_, ?_⟩
    · cases he <;> exact hfrom
    · cases he <;> exact hnoted.2
    · rcases hrecent.judge_reference current with hsame | hnew
      · exact .inl hsame
      · rw [← hpairs] at hnew
        exact .inr ⟨hnew, fun c x y => hnew.median.ne_strongest⟩
  · intro l l' newer rest hl hbegan
    obtain ⟨s₁, s₂, hrest, he⟩ := LineRun.suffix hrun hl
    -- while the line goes on the reference is held or raised
    have hheld := hrest.held rfl hbegan
    have hnext := he.held nofun hrest.history hheld
    cases he <;> exact hnext

end Navigation
