/-
# The profile of a line

While a line is followed, each stop records one point of its profile, and there is room for 32 of
them.  An interval ends after six seconds of powered travel and begins a new profile; a block
takes a quarter of a second at least, unless it is the last one of a trial or was cut short.  So
the points are counted against the way since the interval began (`Tally`), and a profile can only
be found full after several blocks that were cut short (`shortBlocks`).

With this the rest of the approach passes a guard: it only has to be told what holds when a
profile was found full.
-/
import GettingThere.BlockGuard

open CrashLogic
open PayloadClient (PayloadResult)

namespace Navigation

open Guard

/-! ## Blocks that are cut short -/

/-- The check comes after a block that took less than was asked for, and does not end the run. -/
def afterShort : Event → List Event → Bool
  | .checked _ _ .notClose _, .driven duration actual :: _ => decide (actual < duration)
  | _, _ => false

/-- The blocks of a run that took less than was asked for, and did not end it. -/
def shortBlocks : List Event → ℕ
  | [] => 0
  | e :: events => shortBlocks events + (afterShort e events).toNat

/-- Another event makes the short blocks no fewer. -/
theorem shortBlocks_le_cons (e : Event) (events : List Event) :
    shortBlocks events ≤ shortBlocks (e :: events) := Nat.le_add_right _ _

/-- A block that goes on adds a short one if it took less than was asked for. -/
theorem BlockDone.shortBlocks {place : Place} {duration required : UInt32} {n m : Nav}
    {actual : UInt32} (h : BlockDone place duration required n actual m) :
    shortBlocks m.events = shortBlocks n.events + (decide (actual < duration)).toNat := by
  obtain ⟨arrived, scans, forwards, hevents⟩ := h.events
  rw [hevents]
  rfl

/-! ## The points of a line -/

/-- The line at another position. -/
def Line.placed (l : Line) (position : UInt32) : Line := { l with position := position }

/-- The last block of a trial may be shorter than a step, and there is only one. -/
def Line.lastBlock (l : Line) : ℕ := if l.trialMs.toNat ≤ l.position.toNat then 1 else 0

/-- **The points of a profile** are paid for by the way since its interval began: all but the
first, one for each block that was cut short and one at the end of a trial. -/
structure Paid (l : Line) (powered short points : ℕ) : Prop where
  begun : l.segmentStart.toNat ≤ l.position.toNat
  powered : l.position.toNat ≤ powered
  points : 250 * points ≤ 250 * (1 + short + l.lastBlock) +
    (l.position.toNat - l.segmentStart.toNat)

/-- The points that were recorded are paid for. -/
def Tally (l : Line) (n : Nav) : Prop :=
  Paid l n.translationMs.toNat (shortBlocks n.events) n.profileCount

/-- A point is to be recorded: it is paid for, and if there is no room for it three blocks were
cut short. -/
structure Due (l : Line) (n : Nav) : Prop where
  paid : Paid l n.translationMs.toNat (shortBlocks n.events) (n.profileCount + 1)
  room : lineProfileCapacity ≤ n.profileCount → 3 ≤ shortBlocks n.events

/-- At the head of the loop the interval is not over yet. -/
def Head (l : Line) (n : Nav) : Prop :=
  Tally l n ∧ l.position.toNat - l.segmentStart.toNat < 6000

/-- There is only one last block. -/
theorem Line.lastBlock_le_one (l : Line) : l.lastBlock ≤ 1 := by
  unfold Line.lastBlock
  split <;> omega

/-- Farther on, a trial that was in its last block still is. -/
theorem Line.lastBlock_mono {l l' : Line} (hposition : l.position.toNat ≤ l'.position.toNat)
    (htrial : l'.trialMs = l.trialMs) : l.lastBlock ≤ l'.lastBlock := by
  unfold Line.lastBlock
  rw [htrial]
  split <;> split <;> omega

section Paid

variable {l l' : Line} {powered powered' short short' points : ℕ}

/-- The way only grows, and so does the number of blocks cut short. -/
theorem Paid.grow (h : Paid l powered short points)
    (hposition : l.position.toNat ≤ l'.position.toNat)
    (hstart : l'.segmentStart = l.segmentStart) (htrial : l'.trialMs = l.trialMs)
    (hpowered : l'.position.toNat ≤ powered') (hshort : short ≤ short') :
    Paid l' powered' short' points := by
  have hbegun := h.begun
  have hpoints := h.points
  have hlast := Line.lastBlock_mono hposition htrial
  constructor
  · rw [hstart]
    omega
  · exact hpowered
  · rw [hstart]
    omega

/-- The position, the start of the interval and the trial are all that is counted against. -/
theorem Tally.congr {n : Nav} (h : Tally l n) (hposition : l'.position = l.position)
    (hstart : l'.segmentStart = l.segmentStart) (htrial : l'.trialMs = l.trialMs) : Tally l' n :=
  Paid.grow h (hposition ▸ le_rfl) hstart htrial (hposition ▸ h.powered) le_rfl

/-- The position a line has is where it stands. -/
theorem Tally.placed {n : Nav} (h : Tally l n) : Tally (l.placed l.position) n :=
  h.congr rfl rfl rfl

/-- The recovery of a dip, where it was found. -/
theorem Tally.recover {n : Nav} {position : UInt32} (h : Tally (l.placed position) n) :
    Tally (l.recover position) n := h.congr rfl rfl rfl

/-- Clearing a decline leaves the points paid for. -/
theorem Tally.clear {n : Nav} (h : Tally l n) (current : LinePair) :
    Tally (l.clear current) n := by
  unfold Line.clear
  split
  · exact h.congr rfl rfl rfl
  · exact h

/-- Counting a decline leaves them paid for. -/
theorem Tally.decline {n : Nav} (h : Tally l n) (step : UInt32) : Tally (l.decline step) n := by
  unfold Line.decline
  dsimp only
  split
  · exact h.congr rfl rfl rfl
  · exact h.congr rfl rfl rfl

/-- A new best position leaves them paid for. -/
theorem Tally.keepBest {n : Nav} (h : Tally l n) (current : LinePair) :
    Tally (l.keepBest current) n := by
  unfold Line.keepBest
  split
  · exact h.congr rfl rfl rfl
  · exact h

/-- A new reference leaves them paid for. -/
theorem Tally.keepReference {n : Nav} (h : Tally l n) (current : LinePair) :
    Tally (l.keepReference current) n := by
  unfold Line.keepReference
  split
  · exact h
  · exact h.congr rfl rfl rfl

/-- Recorded points stay paid for. -/
theorem lasting_tally (l : Line) : Lasting (Tally l) where
  same n m hm h := by
    unfold Tally
    rw [hm.events, hm.translationMs, hm.profileCount]
    exact h
  note n e h := Paid.grow h le_rfl rfl rfl h.powered (shortBlocks_le_cons e n.events)

/-- An interval that is not over stays so while the line stands still. -/
theorem lasting_head (l : Line) : Lasting (Head l) where
  same n m hm h := ⟨(lasting_tally l).same n m hm h.1, h.2⟩
  note n e h := ⟨(lasting_tally l).note n e h.1, h.2⟩

/-- A point that is due stays due. -/
theorem lasting_due (l : Line) : Lasting (Due l) where
  same n m hm h := by
    constructor
    · rw [hm.events, hm.translationMs, hm.profileCount]
      exact h.paid
    · rw [hm.events, hm.profileCount]
      exact h.room
  note n e h := ⟨h.paid.grow le_rfl rfl rfl h.paid.powered (shortBlocks_le_cons e n.events),
    fun hfull => (h.room hfull).trans (shortBlocks_le_cons e n.events)⟩

/-- The first point of a profile. -/
theorem due_first {n : Nav} (hstart : l.segmentStart = l.position)
    (hpowered : l.position.toNat ≤ n.translationMs.toNat) (hzero : n.profileCount = 0) :
    Due l n := by
  refine ⟨⟨hstart ▸ le_rfl, hpowered, by omega⟩, fun hroom => ?_⟩
  rw [hzero] at hroom
  exact absurd hroom (by decide)

end Paid

/-! ## Blocks -/

section Blocks

variable {l : Line} {n m : Nav} {place : Place} {duration required actual : UInt32}

/-- The position after a block does not overflow. -/
theorem BlockDone.position (h : BlockDone place duration required n actual m)
    (hmax : duration.toNat ≤ 750) (hposition : l.position.toNat ≤ n.translationMs.toNat) :
    (l.position + actual).toNat = l.position.toNat + actual.toNat ∧
      l.position.toNat + actual.toNat ≤ m.translationMs.toNat := by
  obtain ⟨-, -, hsum, hbudget⟩ := h.driven.spends hmax
  rw [h.translationMs, hsum]
  rw [hsum] at hbudget
  refine ⟨?_, by omega⟩
  rw [UInt32.toNat_add]
  omega

/-- A probe, or any other block, leaves the points paid for. -/
theorem Tally.drive (h : Tally l n) (hblock : BlockDone place duration required n actual m)
    (hmax : duration.toNat ≤ 750) : Tally (l.placed (l.position + actual)) m := by
  obtain ⟨hsum, hpowered⟩ := hblock.position hmax h.powered
  unfold Tally
  rw [hblock.profileCount, hblock.shortBlocks]
  refine Paid.grow h ?_ rfl rfl ?_ (Nat.le_add_right _ _)
  · change l.position.toNat ≤ (l.position + actual).toNat
    omega
  · change (l.position + actual).toNat ≤ m.translationMs.toNat
    omega

/-- A block is a step, or it ends a trial. -/
theorem Line.block_cases (l : Line) {step : UInt32}
    (hstep : step = lineMatBlockMs ∨ step = lineForwardBlockMs) :
    250 ≤ (l.block step).toNat ∨
      l.position.toNat < l.trialMs.toNat ∧
        l.position.toNat + (l.block step).toNat = l.trialMs.toNat := by
  have hlong : 250 ≤ step.toNat := by
    rcases hstep with rfl | rfl <;> decide
  unfold Line.block
  split
  · rename_i htrial
    have hlt := UInt32.lt_iff_toNat_lt.mp htrial.2
    rw [toNat_min, UInt32.toNat_sub_of_le _ _ (UInt32.le_of_lt htrial.2)]
    omega
  · exact .inl hlong

/-- **A block of a line** pays for the point that is recorded behind it. -/
theorem Head.drive (h : Head l n) {step : UInt32}
    (hstep : step = lineMatBlockMs ∨ step = lineForwardBlockMs)
    (hblock : BlockDone place (l.block step) required n actual m) :
    Due (l.placed (l.position + actual)) m := by
  have hmax : (l.block step).toNat ≤ 750 := by
    refine (l.block_le step).trans ?_
    rcases hstep with rfl | rfl <;> decide
  obtain ⟨hsum, hpowered⟩ := hblock.position hmax h.1.powered
  obtain ⟨⟨hbegun, -, hpoints⟩, hshort⟩ := h
  have hone := l.lastBlock_le_one
  let l' : Line := l.placed (l.position + actual)
  have hlast : l.lastBlock ≤ l'.lastBlock := by
    refine Line.lastBlock_mono ?_ rfl
    change l.position.toNat ≤ (l.position + actual).toNat
    omega
  -- the block is a step, or cut short, or the last one of a trial
  have hpays : 250 ≤ 250 * (decide (actual < l.block step)).toNat +
      250 * (l'.lastBlock - l.lastBlock) + actual.toNat := by
    by_cases hcut : actual < l.block step
    · rw [decide_eq_true hcut, Bool.toNat_true]
      omega
    have hlong := UInt32.le_iff_toNat_le.mp (UInt32.not_lt.mp hcut)
    rcases l.block_cases hstep with hfull | ⟨hbefore, hends⟩
    · omega
    · have hzero : l.lastBlock = 0 := if_neg (by omega)
      have hafter : l'.lastBlock = 1 := if_pos (by
        change l.trialMs.toNat ≤ (l.position + actual).toNat
        omega)
      omega
  constructor
  · rw [hblock.profileCount, hblock.shortBlocks]
    refine ⟨?_, hsum ▸ hpowered, ?_⟩
    · change l.segmentStart.toNat ≤ (l.position + actual).toNat
      omega
    · change _ ≤ 250 * (1 + _ + l'.lastBlock) + ((l.position + actual).toNat - l.segmentStart.toNat)
      omega
  · rw [hblock.profileCount, hblock.shortBlocks]
    change 32 ≤ n.profileCount → _
    omega

end Blocks

/-! ## Following a line -/

/-- The line goes on, or its end is known. -/
def Continues {α : Type} : FollowStep α → Prop
  | .inl _ => True
  | .inr result => ∃ followed, result = .ok followed

/-- A line that ends with an error does not go on. -/
theorem not_continues_error {α : Type} (result : PayloadResult) :
    ¬ Continues (.inr (.error result) : FollowStep α) := nofun

/-- What holds when the line goes on. -/
def Next {α : Type} (P : α → Nav → Prop) : FollowStep α → Nav → Prop
  | .inl a, n => P a n
  | .inr _, _ => True

section Follow

variable {ρ : Type} {G : Guard ρ} {L : Layer ρ} {l : Line} (hL : L.Keeps G)
  (hfull : ∀ events, 3 ≤ shortBlocks events → G.full events)
include hL

include hfull in
/-- **A point** is recorded, unless there is no room. -/
theorem goes_recordPoint (l : Line) :
    G.Goes (Due l) (· = true) (fun _ => Tally l) (recordPoint L) := by
  have hsaved : G.Goes (Due l) (· = true) (fun _ => Tally l) (do
      setNav fun n => { n with profileCount := n.profileCount + 1 }
      reportPrintf L
      saveCheckpoint L) :=
    Goes.set (fun n h => h.paid) (passes_line hL.toBears (passes_saveCheckpoint hL.toBears))
  rintro ⟨r, n⟩ ⟨hr, hn⟩
  show wp (ite _ _ _) _ _ _
  split
  · rename_i hroom
    show wp (onFirst (L.stopFor .profile) >>= _) _ _ _
    rw [wp_bind, wp_onFirst]
    refine wp_mono (hL.profileFull r hr) ?_ fun t ht => .inl ht
    intro _ t ht
    exact ⟨.inr ⟨hfull _ (hn.room hroom), hL.profileLine t ht⟩, nofun⟩
  · exact hsaved (r, n) ⟨hr, hn⟩

/-- A block forwards has one of two lengths. -/
theorem goes_forwardBlockMs {N : Nav → Prop} (hN : Lasting N) {ok : UInt32 → Prop} :
    G.Goes N ok (fun step n => N n ∧ (step = lineMatBlockMs ∨ step = lineForwardBlockMs))
      (forwardBlockMs L) := by
  refine Goes.look fun n _ => ?_
  have hend : G.Goes N ok (fun step n => N n ∧ (step = lineMatBlockMs ∨ step = lineForwardBlockMs))
      (pure (if n.colour.colourOnMat then lineMatBlockMs else lineForwardBlockMs)) := by
    refine Goes.pure _ fun m hm => ⟨hm, ?_⟩
    cases n.colour.colourOnMat with
    | false => exact .inr rfl
    | true => exact .inl rfl
  refine Goes.ite (fun _ => ?_) fun _ => hend
  exact Goes.change hN.same (fun _ => ⟨rfl, rfl, rfl⟩) (passes_line hL.toBears hend)

/-- A block that the points of a line are counted against. -/
theorem goes_drive {N : Nav → Prop} {Q : UInt32 → Nav → Prop} {place : Place} {forwards : Bool}
    {duration : UInt32} {heading : Float32} {position reservedReturn : UInt32}
    {acquireMoving : Bool} (hQ : ∀ n m actual, N n → BlockDone place duration
      (translationCost duration + reservedReturn) n actual m → Q actual m) :
    G.Goes N (fun r => r.1 = .notClose) (fun r => Q r.2)
      (translateBlock L place forwards duration heading position reservedReturn acquireMoving) := by
  intro s hs
  have hblock := goes_translateBlock hL place forwards duration heading position reservedReturn
    acquireMoving s.2
  exact hblock.less (fun _ ha => ha) (fun r m _ hm => hQ s.2 m r.2 hs.2 hm) s ⟨hs.1, Same.refl s.2⟩

/-- **A probe** is paid for like any other block. -/
theorem goes_probeDip (heading : Float32) (bestPosition : UInt32) (reference : LinePair) (k : ℕ)
    (position : UInt32) (current : LinePair) :
    G.Goes (Tally (l.placed position)) (fun r => ∃ found, r = .ok found)
      (fun r n => ∀ found, r = .ok found → Tally (l.placed found.2.1) n)
      (probeDip L heading bestPosition reference k position current) := by
  induction k generalizing position current with
  | zero =>
    refine passes_line hL.toBears (Goes.pure _ fun n hn found hfound => ?_)
    rw [← Except.ok.inj hfound]
    exact hn
  | succ k ih =>
    have hprobe : G.Goes (Tally (l.placed position)) (fun r => r.1 = .notClose)
        (fun r => Tally (l.placed (position + r.2)))
        (translateBlock L .probe true lineDipProbeMs heading position
          (translationCost (position + lineDipProbeMs + blockReserveMs - bestPosition)) false) :=
      goes_drive hL fun n m actual hn hm => Tally.drive hn hm (by decide)
    refine passes_line hL.toBears (hprobe.bind fun r => ?_)
    refine triple_goOn (by simp) ((hL.setPosition _ _ _).passes.andThen fun _ => ?_)
    apply (passes_measurePair hL (lasting_tally _) .followWifi).bind
    rintro (result | current)
    · exact stop_pure _ nofun
    refine Goes.go (passes_line hL.toBears ?_) ⟨_, rfl⟩
    refine (passes_saveCheckpoint hL.toBears).unless ?_ nofun
    refine Goes.change (lasting_tally _).same (fun _ => ⟨rfl, rfl, rfl⟩) (Goes.ite (fun _ => ?_) ?_)
    · refine Goes.pure _ fun n hn found hfound => ?_
      rw [← Except.ok.inj hfound]
      exact hn
    · exact fun _ => ih _ _

/-- A dip that was probed leaves the points paid for, at the position it returned to. -/
theorem goes_recheckAndProbeDip (heading : Float32) (bestPosition : UInt32)
    (reference : LinePair) (position : UInt32) :
    G.Goes (Tally (l.placed position)) (fun r => ∃ found, r = .ok found)
      (fun r n => ∀ found, r = .ok found → Tally (l.placed found.2.1) n)
      (recheckAndProbeDip L heading bestPosition reference position) := by
  refine hL.stop.passes.andThen fun _ => passes_line hL.toBears ?_
  refine (passes_check hL (lasting_tally _) .dip).bind fun result => triple_goOn (by simp) ?_
  apply (passes_measurePair hL (lasting_tally _) .followWifi).bind
  rintro (result | current)
  · exact stop_pure _ nofun
  refine Goes.go (passes_line hL.toBears ?_) ⟨_, rfl⟩
  refine (passes_saveCheckpoint hL.toBears).unless ?_ nofun
  refine Goes.change (lasting_tally _).same (fun _ => ⟨rfl, rfl, rfl⟩) (Goes.ite (fun _ => ?_) ?_)
  · refine Goes.pure _ fun n hn found hfound => ?_
    rw [← Except.ok.inj hfound]
    exact hn
  · exact fun _ => goes_probeDip hL _ _ _ _ _ _

include hfull in
/-- **A block of a line**, and the readings behind it. -/
theorem goes_followBlock {step : UInt32}
    (hstep : step = lineMatBlockMs ∨ step = lineForwardBlockMs) :
    G.Goes (Head l) Continues (Next fun a => Tally a.1) (followBlock L l step) := by
  have hdrive : G.Goes (Head l) (fun r => r.1 = .notClose)
      (fun r => Due (l.placed (l.position + r.2)))
      (translateBlock L .follow true (l.block step) l.heading l.position
        (translationCost (l.position + l.block step + blockReserveMs - l.bestPosition)) true) :=
    goes_drive hL fun n m actual hn hm => Head.drive hn hstep hm
  refine (hL.setReference _).passes.andThen fun _ => hdrive.bind fun r => ?_
  refine triple_goOn (fun _ => not_continues_error _) ?_
  refine Goes.whether (Goes.look fun n _ => Passes.pure _) ?_ ?_
  · exact passes_line hL.toBears (Goes.pure _ fun _ _ => trivial)
  refine (hL.setPosition _ _ _).passes.andThen fun _ => ?_
  apply (passes_measurePair hL (lasting_due _) .followWifi).bind
  rintro (result | current)
  · exact stop_pure _ (not_continues_error _)
  refine Goes.go ((goes_recordPoint hL hfull _).unless ?_ (not_continues_error _)) ⟨_, rfl⟩
  refine Goes.change (lasting_tally _).same (fun _ => ⟨rfl, rfl, rfl⟩) (passes_line hL.toBears ?_)
  exact Goes.pure _ fun n hn => hn

/-- The end of a line whose decline has persisted. -/
theorem passes_endDecline (l : Line) :
    G.Passes Any (fun r => ∃ followed, r = .ok followed) (endDecline L l) := by
  refine goes_set (passes_line hL.toBears ((passes_returnAlongLine hL _ _ _).bind fun result => ?_))
  refine triple_goOn (by simp) ((passes_measurePair hL lasting_any .followWifi).bind ?_)
  rintro (result | returned)
  · exact stop_pure _ nofun
  · exact Goes.go (passes_line hL.toBears (Passes.pure _)) ⟨_, rfl⟩

/-- What is made of a decline keeps the points paid for. -/
theorem goes_followDecline (step : UInt32) (current : LinePair) :
    G.Goes (Tally l) Continues (Next fun a => Tally a.1)
      (followDecline L l step current) := by
  have hgo (l' : Line) (current : LinePair) (hl : ∀ n, Tally l n → Tally l' n) :
      G.Goes (Tally l) Continues (Next fun a => Tally a.1)
        (pure (.inl (l', current))) := Goes.pure _ hl
  refine Goes.ite (fun _ => ?_) fun _ => ?_
  · exact passes_reportIf hL.toBears _ (hgo _ _ fun n hn => hn.clear current)
  refine passes_reportIf hL.toBears _ (passes_line hL.toBears (Goes.ite ?_ fun _ => ?_))
  · exact fun _ => hgo _ _ fun n hn => hn.decline step
  have hdip := goes_recheckAndProbeDip (l := l.decline step) hL (l.decline step).heading
    (l.decline step).bestPosition (l.decline step).declineReference (l.decline step).position
  refine Goes.bind (hdip.strengthen fun n hn => (hn.decline step).placed) ?_
  rintro (result | ⟨recovered, position, current⟩)
  · exact stop_pure _ (not_continues_error _)
  refine Goes.go (Goes.ite (fun _ => ?_) fun _ => ?_) ⟨_, rfl⟩
  · exact passes_line hL.toBears (Goes.pure _ fun n hn => (hn _ rfl).recover)
  · exact ((passes_endDecline hL _).strengthen fun _ _ => trivial).bind fun result =>
      Triple.pure _ fun s hs => hs

include hfull in
/-- **The end of a round**: a new interval begins a new profile. -/
theorem goes_followEnd :
    G.Goes (Tally l) Continues (Next Head) (followEnd L l) := by
  refine Goes.ite (fun _ => passes_line hL.toBears (Goes.pure _ fun _ _ => trivial)) fun _ => ?_
  refine Goes.ite (fun hshort => Goes.pure _ fun n hn => ⟨hn, ?_⟩) fun _ => ?_
  · have hlt := UInt32.lt_iff_toNat_lt.mp hshort
    rw [UInt32.toNat_sub_of_le _ _ (UInt32.le_iff_toNat_le.mpr hn.begun)] at hlt
    exact hlt
  let l' : Line := { l with segmentStart := l.position }
  refine passes_line hL.toBears (Goes.set (fun n hn => ?_) (?_ : G.Goes (Due l') _ _ _))
  · exact due_first rfl hn.powered rfl
  apply (goes_recordPoint hL hfull l').bind
  rintro (_ | _)
  · exact stop_pure _ (not_continues_error _)
  · refine Goes.go (Goes.pure _ fun n hn => ⟨hn, ?_⟩) rfl
    exact (Nat.sub_self l.position.toNat).trans_lt (by decide)

/-- A report passes the guard. -/
theorem passes_reportJudged {N : Nav → Prop} (current : LinePair) :
    G.Passes N (fun _ => True) (reportJudged L l current) := by
  refine passes_reportIf hL.toBears _ (passes_reportIf hL.toBears _ ?_)
  cases hrises : (l.keepBest current).strengthens current with
  | true => exact fun s hs => Upto.of_good ⟨hL.reportPrintf s.1 hs.1, hs.2⟩
  | false => exact Passes.pure _

include hfull in
/-- **A round.** -/
theorem goes_followRound (l : Line) : G.Goes (Head l) Continues (Next Head) (followRound L l) := by
  refine Goes.change (lasting_head l).same (fun _ => ⟨rfl, rfl, rfl⟩) ?_
  refine (passes_runCanContinue hL.toBears).unless ?_ (not_continues_error _)
  refine (goes_forwardBlockMs hL (lasting_head l)).andThen fun step => Goes.given fun hstep => ?_
  apply (goes_followBlock hL hfull hstep).bind
  rintro (⟨l, current⟩ | result)
  swap
  · exact fun s hs => hs
  refine Goes.go ((goes_followDecline hL step current).bind ?_) trivial
  rintro (⟨l, current⟩ | result)
  swap
  · exact fun s hs => hs
  refine Goes.go (Goes.change (lasting_tally l).same (fun _ => ⟨rfl, rfl, rfl⟩) ?_) trivial
  refine (passes_reportJudged hL current).andThen fun _ => ?_
  exact (goes_followEnd hL hfull).strengthen fun n hn => (hn.keepBest current).keepReference current

include hfull in
/-- **A line.** -/
theorem passes_followDirection (heading : Float32) (trialMs : UInt32) :
    G.Passes Any (fun r => ∃ followed, r = .ok followed) (followDirection L heading trialMs) := by
  -- before the first point the profile is empty
  have hempty : Lasting fun n => n.profileCount = 0 :=
    ⟨fun n m hm h => hm.profileCount.trans h, fun _ _ h => h⟩
  refine Goes.set (fun n _ => rfl) (?_ : G.Goes (fun n => n.profileCount = 0) _ _ _)
  refine (passes_turnToHeading hL.toBears hempty.same heading).unless ?_ nofun
  refine (hL.setPosition _ _ _).passes.andThen fun _ => ?_
  apply (passes_measurePair hL hempty .followWifi).bind
  rintro (result | best)
  · exact stop_pure _ nofun
  have hfirst : G.Goes (fun n => n.profileCount = 0) (· = true)
      (fun _ => Tally (Line.first heading trialMs best)) (recordPoint L) :=
    (goes_recordPoint hL hfull _).strengthen fun n hn => due_first rfl (Nat.zero_le _) hn
  refine Goes.go (hfirst.unless ?_ nofun) ⟨_, rfl⟩
  refine Goes.change (lasting_tally _).same (fun _ => ⟨rfl, rfl, rfl⟩) (passes_line hL.toBears ?_)
  have hround (l : Line) : G.Goes (Head l)
      (fun r => r.elim (fun _ => True) fun r => ∃ followed, r = .ok followed)
      (fun r => r.elim Head fun _ => Any) (followRound L l) := by
    refine (goes_followRound hL hfull l).less ?_ ?_
    · rintro (l | result) h
      · trivial
      · exact h
    · rintro (l | result) n - h
      · exact h
      · trivial
  exact (Goes.loop hround _).strengthen fun n hn => ⟨hn, Nat.zero_lt_succ _⟩

/-! ## The approach -/

/-- The end of a trial passes the guard. -/
theorem passes_endTrial (heading : Float32) (followed : FollowResult) :
    G.Passes Any (fun r => ∃ followed, r = .ok followed) (endTrial L heading followed) := by
  refine passes_line hL.toBears ((passes_returnAlongLine hL _ _ _).bind fun result => ?_)
  refine triple_goOn (by simp) ((passes_measurePair hL lasting_any .followWifi).bind ?_)
  rintro (result | returned)
  · exact stop_pure _ nofun
  · exact Goes.go (passes_line hL.toBears (Passes.pure _)) ⟨_, rfl⟩

include hfull in
/-- The trial directions pass it, by induction on the offsets that are left. -/
theorem passes_checkDirections (origin : Float32) (offsets : List Float32)
    (followed : FollowResult) :
    G.Passes Any (fun r => ∃ found, r = .ok found) (checkDirections L origin offsets followed) := by
  induction offsets generalizing followed with
  | nil => exact Passes.pure _
  | cons offset offsets ih =>
    apply (passes_followDirection hL hfull _ _).bind
    rintro (result | followed)
    · exact stop_pure _ nofun
    refine Goes.go (Goes.ite (fun _ => Passes.pure _) fun _ => Goes.ite (fun _ => ?_) fun _ => ih _)
      ⟨_, rfl⟩
    apply (passes_endTrial hL _ _).bind
    rintro (result | followed)
    · exact stop_pure _ nofun
    · exact Goes.go (ih _) ⟨_, rfl⟩

include hfull in
/-- The line straight ahead passes it. -/
theorem passes_followAhead :
    G.Passes Any (fun r => ∃ followed, r = .ok followed) (followAhead L) :=
  hL.heading.passes.andThen fun _ => passes_followDirection hL hfull _ _

include hfull in
/-- A round of the search passes it. -/
theorem passes_approachRound (followed : FollowResult) :
    G.Passes Any (fun r => r.elim (fun _ => True) fun _ => False) (approachRound L followed) := by
  refine (passes_runCanContinue hL.toBears).unless ?_ (fun h => h)
  split
  · -- on the mat
    refine (passes_matApproach hL).bind fun result =>
      triple_goOn (fun _ h => h) (passes_line hL.toBears ?_)
    apply (passes_followAhead hL hfull).bind
    rintro (result | followed)
    · exact stop_pure _ fun h => h
    · exact Goes.go (Passes.pure _) ⟨_, rfl⟩
  · refine passes_reportIf hL.toBears _ (passes_line hL.toBears ?_)
    refine (passes_checkDirections hL hfull _ _ _).bind ?_
    rintro (result | ⟨followed, found⟩)
    · exact stop_pure _ fun h => h
    refine Goes.go (Goes.ite (fun _ => Passes.pure _) fun _ => ?_) ⟨_, rfl⟩
    exact (hL.faultRaise _ (by decide)).passes.andThen fun _ =>
      passes_line hL.toBears (Passes.pure _)
  · exact (hL.faultRaise _ (by decide)).passes.andThen fun _ =>
      passes_line hL.toBears (Passes.pure _)

include hfull in
/-- **The approach** ends as the guard says, also when a profile was found full. -/
theorem passes_approachBeacon : G.Passes Any (fun _ => False) (approachBeacon L) := by
  refine hL.nowMs.passes.andThen fun now => hL.samplerInit.passes.andThen fun _ => goes_set ?_
  refine (passes_check hL lasting_any .start).bind fun result => triple_goOn (fun _ h => h) ?_
  apply (passes_waitForWifi hL lasting_any .start _).bind
  rintro (result | sample)
  · exact stop_pure _ fun h => h
  refine Goes.go (goes_set (hL.learnDirection.passes.unless ?_ fun h => h)) ⟨_, rfl⟩
  apply passes_line hL.toBears
  have hstart : G.Passes Any (fun r => ∃ followed, r = .ok followed) (approachStart L) :=
    Goes.whether (Goes.look fun n _ => Passes.pure _) (Passes.pure _) (passes_followAhead hL hfull)
  apply hstart.bind
  rintro (result | followed)
  · exact stop_pure _ fun h => h
  refine Goes.go (Goes.loop (I := fun _ => Any) (fun followed => ?_) followed) ⟨_, rfl⟩
  refine (passes_approachRound hL hfull followed).less (fun _ h => h) fun r _ _ _ => ?_
  cases r <;> trivial

end Follow

end Navigation
