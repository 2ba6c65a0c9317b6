/-
# The approach ends

`approach_beacon` ends if the calls that it makes return, whatever they find and whatever the
clock says.  Every round of a line, of a return and of the search spends powered travel, of
which there is no more than `LINE_TRANSLATION_MS`, and every round of the steering uses one of
the colour scans; so no loop goes round more often than that.
-/
import GettingThere.ApproachRules
import GettingThere.Halting

open CrashLogic
open PayloadClient (PayloadResult)

/-- The calls that `approach_beacon` makes return: a sample, a turn, a pause, a payload attempt,
one powered block, and the rest. -/
structure Layer.Returns {ρ : Type} (L : Layer ρ) : Prop where
  nowMs : Halts L.nowMs
  faultRaise : ∀ fault, Halts (L.faultRaise fault)
  reportOk : Halts L.reportOk
  stopRequested : Halts L.stopRequested
  stop : Halts L.stop
  quiesce : ∀ started, Halts (L.quiesce (L.runCanContinue started))
  samplerInit : Halts L.samplerInit
  reportCheckpoint : Halts L.reportCheckpoint
  turnToHeading : ∀ heading, Halts (L.turnToHeading heading)
  learnDirection : Halts L.learnDirection
  heading : Halts L.heading
  pauseMs : ∀ ms, Halts (L.pauseMs ms)
  setPosition : ∀ heading position outward, Halts (L.setPosition heading position outward)
  setReference : ∀ sample, Halts (L.setReference sample)
  sample : ∀ started, Halts (L.sample (L.runCanContinue started))
  readFresh : Halts L.readFresh
  payloadAttempt : ∀ dbm, Halts (L.payloadAttempt dbm)
  payloadRetry : ∀ dbm, Halts (L.payloadRetry dbm)
  driveBlock : ∀ started forwards duration heading acquireMoving,
    Halts (L.driveBlock started forwards duration heading acquireMoving)

namespace Navigation

/-! ## What a round spends -/

section Spending

variable {ρ : Type} (L : Layer ρ)

/-- At least `t` ms of powered travel are spent. -/
def AtLeast (t : ℕ) (n : Nav) : Prop := t ≤ n.translationMs.toNat

/-- More than `t` ms of powered travel are spent, within the budget. -/
def Spent (t : ℕ) (n : Nav) : Prop := t < n.translationMs.toNat ∧ n.translationMs.toNat ≤ 60000

/-- Nothing has to hold where a run is cut off. -/
def Anywhere (_ : Nav) : Prop := True

variable {t : ℕ} {n m : Nav}

/-- More than `t` ms is at least `t` ms. -/
theorem Spent.atLeast (h : Spent t n) : AtLeast t n := Nat.le_of_lt h.1

/-- A condition that asks nothing is kept by whatever happens. -/
theorem loose_anywhere : Loose Anywhere := ⟨fun _ _ _ _ => trivial, fun _ _ _ _ _ _ => trivial⟩

/-- A condition on the powered time alone. -/
theorem kept_of_time {P : Nav → Prop} (place : Place)
    (hP : ∀ n m, m.translationMs = n.translationMs → P n → P m) : Kept Anywhere place P where
  safe _ _ := trivial
  same n m hm hn := hP n m hm.translationMs hn
  moved n hn := hP n _ rfl hn
  checked n _ m hn hm := hP n m hm.translationMs hn

/-- Only the powered time decides whether `t` ms are spent. -/
theorem AtLeast.same (n m : Nav) (hm : m.translationMs = n.translationMs) (hn : AtLeast t n) :
    AtLeast t m := by
  unfold AtLeast
  rw [hm]
  exact hn

/-- Only the powered time decides whether more than `t` ms are spent within the budget. -/
theorem Spent.same (n m : Nav) (hm : m.translationMs = n.translationMs) (hn : Spent t n) :
    Spent t m := by
  unfold Spent
  rw [hm]
  exact hn

/-- Whatever leaves the powered time alone keeps what is spent. -/
theorem kept_atLeast (place : Place) : Kept Anywhere place (AtLeast t) :=
  kept_of_time place AtLeast.same

/-- Whatever leaves the powered time alone keeps what is spent within the budget. -/
theorem kept_spent (place : Place) : Kept Anywhere place (Spent t) := kept_of_time place Spent.same

/-- **A block** that goes on has spent something. -/
theorem spent_translateBlock {place : Place} {forwards : Bool} {duration : UInt32}
    {heading : Float32} {position reservedReturn : UInt32} {acquireMoving : Bool}
    (hmax : duration.toNat ≤ 750) :
    Leads Anywhere (AtLeast t)
      (translateBlock L place forwards duration heading position reservedReturn acquireMoving)
      fun r => GoesOn Anywhere (Spent t) r.1 := by
  refine leads_translateBlock (Q := fun _ => Spent t) L loose_anywhere (fun _ _ => trivial)
    (fun _ _ _ _ => trivial) ?_
  intro n m actual hn hdriven hm
  obtain ⟨hpositive, -, hsum, hbudget⟩ := hdriven.spends hmax
  unfold Spent
  rw [hm.translationMs]
  refine ⟨?_, hbudget⟩
  rw [hsum]
  exact Nat.lt_of_le_of_lt hn (Nat.lt_add_of_pos_right hpositive)

/-- A further block keeps what the blocks before it have spent. -/
theorem spent_block {place : Place} {forwards : Bool} {duration : UInt32} {heading : Float32}
    {position reservedReturn : UInt32} {acquireMoving : Bool} (hmax : duration.toNat ≤ 750) :
    Leads Anywhere (Spent t)
      (translateBlock L place forwards duration heading position reservedReturn acquireMoving)
      fun r => GoesOn Anywhere (Spent t) r.1 :=
  (spent_translateBlock L hmax).mono (fun _ hn => hn.atLeast) fun _ _ hn => hn

/-- **A line** that has begun a block has spent something. -/
theorem follows_spent : Follows L Anywhere (Spent t) (Spent t) (Spent t) where
  frees := (kept_spent .follow).toRoams
  stops := (kept_spent .follow).toSteady
  enters := (kept_spent .follow).toSteady
  logged n _ hn := Spent.same n _ rfl hn
  check place _ := (kept_spent place).check L loose_anywhere
  lineBlock _ _ _ _ hmax := spent_block L hmax
  otherBlock _ _ _ _ _ _ _ hmax := spent_block L hmax
  mat _ hn _ _ := hn
  noMat _ hn _ := hn

/-- A block ahead, with the samples around it, spends something. -/
theorem ahead_atLeast : Ahead L Anywhere (AtLeast t) (Spent t) where
  roams := (kept_atLeast .follow).toRoams
  logged n _ hn := AtLeast.same n _ rfl hn
  check := (kept_atLeast .followWifi).check L loose_anywhere
  lineBlock _ _ _ _ hmax := spent_translateBlock L hmax

/-- A condition that a line keeps and re-establishes holds after it. -/
theorem afterLine_self {P : Nav → Prop} {f : FollowResult} {n : Nav} (h : AfterLine P P f n) :
    P n := by
  unfold AfterLine at h
  split at h
  · exact h
  · exact h

/-- A round of a line spends something. -/
theorem spent_followRound (l : Line) :
    Leads Anywhere (AtLeast t) (followRound L l)
      (Stepped Anywhere (fun _ => Spent t) (AfterLine (Spent t) (Spent t))) :=
  (follows_spent L).followRound (ahead_atLeast L) l

/-- A line that ends has spent something. -/
theorem spent_followDirection (heading : Float32) (trialMs : UInt32) :
    Leads Anywhere (AtLeast t) (followDirection L heading trialMs)
      (Found Anywhere fun _ => Spent t) := by
  refine ((follows_spent L).followDirection_of (ahead_atLeast L) (fun _ hn => hn.atLeast) heading
    trialMs).mono (fun _ hn => hn) ?_
  intro r n hn
  cases r with
  | error result => trivial
  | ok f => exact afterLine_self hn

/-- A block of a return spends something. -/
theorem spent_returnBlock (target : UInt32) (heading : Float32) (remaining : UInt32) :
    Leads Anywhere (AtLeast t) (returnBlock L target heading remaining) fun r n =>
      ∀ remaining', r = .inl remaining' → Spent t n := by
  apply Leads.ite (fun _ => Leads.pure _ fun n hn => nofun)
  intro _
  apply (spent_translateBlock L (min_block_le remaining)).bind
  intro r
  apply Leads.goOn (fun _ n _ => nofun)
  exact Leads.pure _ fun n hn _ _ => hn

/-- The steering never takes travel back. -/
theorem steers_atLeast : Steers L Anywhere (AtLeast t) (AtLeast t) (AtLeast t) (AtLeast t) where
  enters := (kept_atLeast .steering).toSteady
  scans := (kept_atLeast .steering).toRoams
  holds := (kept_atLeast .steering).toRoams
  frees := (kept_atLeast .steering).toSteady
  again _ hn := hn
  spent _ hn _ := hn
  scan n hn _ := AtLeast.same n _ rfl hn
  scanned n m ok _ hn hm := by
    have hm' : AtLeast t m := AtLeast.same n m hm.translationMs hn
    split
    · exact hm'
    · exact hm'
  steeringCheck := (kept_atLeast .steering).check L loose_anywhere
  steeringBlock _ := (spent_translateBlock L (by decide)).mono (fun _ hn => hn) fun r n hn =>
    ⟨fun hr => (hn.1 hr).atLeast, fun _ => trivial⟩
  settled _ hn _ := hn

/-- The search goes on only behind a line. -/
theorem searches_spent : Searches L Anywhere (Spent t) (AtLeast t) (AtLeast t) (AtLeast t)
    (AtLeast t) fun _ => Spent t where
  toSteers := steers_atLeast L
  starts := (kept_spent .start).toRoams
  startCheck := (kept_spent .start).check L loose_anywhere
  ready _ _ hn _ _ _ := hn
  notReady _ hn _ := hn.atLeast
  follow := spent_followDirection L
  follows _ := (kept_spent .follow).toSteady
  followedMat _ _ _ hn := hn.atLeast
  followedOther _ _ _ hn := hn.atLeast
  trial heading f _ := ((follows_spent L).endTrial heading f).mono (fun _ hn => hn) fun r n hn => by
    cases r with
    | error result => trivial
    | ok f' => exact hn.atLeast

/-- **A round of the search** spends something, if it goes on. -/
theorem spent_approachRound (f : FollowResult) :
    Leads Anywhere (AtLeast t) (approachRound L f) fun r n => ∀ f', r = .inl f' → Spent t n := by
  have hsteady : Steady Anywhere (AtLeast t) := (kept_atLeast .follow).toSteady
  have hend : ∀ b, Leads Anywhere (AtLeast t) (pure (.inr b) : Cmd (ρ × Nav) (FollowResult ⊕ Bool))
      fun r n => ∀ f', r = .inl f' → Spent t n := fun b => Leads.pure _ fun n _ => nofun
  refine Leads.quiet hsteady (quiet_runCanContinue L) fun ok => Leads.ite (fun _ => hend _) ?_
  intro _
  cases f.ending with
  | mat =>
    refine (steers_atLeast L).matApproach.bind fun result => Leads.goOn (fun _ n _ => nofun) ?_
    refine Leads.report ?_
    apply (searches_spent L).followAhead.bind
    intro f'
    cases f' with
    | error result => exact Leads.pure _ fun n _ => nofun
    | ok f' => exact Leads.pure _ fun n hn _ _ => hn
  | decline =>
    refine Leads.reportIf (Leads.report ?_)
    apply ((searches_spent L).checkDirections _ _ _).bind
    intro r
    match r with
    | .error result => exact Leads.pure _ fun n _ => nofun
    | .ok (f', true) => exact Leads.pure _ fun n hn _ _ => hn
    | .ok (f', false) =>
      exact Leads.quiet hsteady (quiet_layer _) fun _ => (hend _).report
  | noGain => exact Leads.quiet hsteady (quiet_layer _) fun _ => (hend _).report

end Spending

/-! ## The scans of a run -/

/-- The scans that a run has made. -/
def scansOf : List Event → ℕ
  | [] => 0
  | .scanned _ :: events => scansOf events + 1
  | .checked _ _ _ _ :: events => scansOf events
  | .block _ _ :: events => scansOf events
  | .driven _ _ :: events => scansOf events

/-- No more scans are made than are counted, and no more are counted than there may be. -/
def Counted (n : Nav) : Prop := scansOf n.events ≤ n.matScansUsed ∧ n.matScansUsed ≤ matMaxScans

/-- A scan that is counted is not made yet. -/
def Counting (n : Nav) : Prop := scansOf n.events < n.matScansUsed ∧ n.matScansUsed ≤ matMaxScans

section Scans

variable {ρ : Type} (L : Layer ρ) {k : ℕ} {P : Nav → Prop}

/-- A condition on the scans that were made and counted. -/
structure OfScans (J P : Nav → Prop) : Prop where
  safe : ∀ n, P n → J n
  same : ∀ n m, scansOf m.events = scansOf n.events → m.matScansUsed = n.matScansUsed → P n → P m

/-- A condition on the scans is kept by what neither makes nor counts one. -/
theorem OfScans.kept {J : Nav → Prop} (h : OfScans J P) (place : Place) : Kept J place P where
  safe := h.safe
  same n m hm hn := h.same n m (congrArg scansOf hm.events) hm.matScansUsed hn
  moved n hn := h.same n _ rfl rfl hn
  checked n r m hn hm := by
    refine h.same n m ?_ hm.matScansUsed hn
    rw [hm.events]
    rfl

/-- A condition on the scans is kept wherever a run is cut off. -/
theorem OfScans.loose (h : OfScans P P) : Loose P where
  same n m hm hn := h.same n m (congrArg scansOf hm.events) hm.matScansUsed hn
  checked n m place r hm hn := (h.kept place).checked n r m hn hm

/-- A block makes no scan. -/
theorem OfScans.block {J : Nav → Prop} (hJ : OfScans J J) (h : OfScans J P) {place : Place}
    {forwards : Bool} {duration : UInt32} {heading : Float32} {position reservedReturn : UInt32}
    {acquireMoving : Bool} :
    Leads J P
      (translateBlock L place forwards duration heading position reservedReturn acquireMoving)
      fun r => GoesOn J P r.1 := by
  refine leads_translateBlock (Q := fun _ => P) L hJ.loose ?_ ?_ ?_
  · exact fun n hn => h.safe _ (h.same n _ rfl rfl hn)
  · exact fun n _ hn _ => h.safe _ (h.same n _ rfl rfl hn)
  · intro n m actual hn _ hm
    refine h.same n m ?_ hm.matScansUsed hn
    rw [hm.events]
    rfl

/-- That every scan is counted is a condition on the scans. -/
theorem counted_scans : OfScans Counted Counted where
  safe _ hn := hn
  same n m hevents hused hn := by
    unfold Counted
    rw [hevents, hused]
    exact hn

/-- That a counted scan is not made yet is a condition on the scans. -/
theorem counting_scans : OfScans Counted Counting where
  safe _ hn := ⟨Nat.le_of_lt hn.1, hn.2⟩
  same n m hevents hused hn := by
    unfold Counting
    rw [hevents, hused]
    exact hn

/-- **Steering** counts a scan before it makes it. -/
theorem steers_counted : Steers L Counted Counted Counting Counted Counted where
  enters := (counted_scans.kept .steering).toSteady
  scans := (counting_scans.kept .steering).toRoams
  holds := (counted_scans.kept .steering).toRoams
  frees := (counted_scans.kept .steering).toSteady
  again _ hn := hn
  spent _ hn _ := hn
  scan n hn hused := ⟨Nat.lt_succ_of_le hn.1, hused⟩
  scanned n m ok _ hn hm := by
    have hm' : Counted m := by
      unfold Counted
      rw [hm.events, hm.matScansUsed]
      exact hn
    split
    · exact hm'
    · exact hm'
  steeringCheck := (counted_scans.kept .steering).check L counted_scans.loose
  steeringBlock _ := counted_scans.block L counted_scans
  settled _ hn _ := hn

/-- Following a line makes no scan that is not counted. -/
theorem follows_counted : Follows L Counted Counted Counted Counted where
  frees := (counted_scans.kept .follow).toRoams
  stops := (counted_scans.kept .follow).toSteady
  enters := (counted_scans.kept .follow).toSteady
  logged _ _ hn := hn
  check place _ := (counted_scans.kept place).check L counted_scans.loose
  lineBlock _ _ _ _ _ := counted_scans.block L counted_scans
  otherBlock _ _ _ _ _ _ _ _ := counted_scans.block L counted_scans
  mat _ hn _ _ := hn
  noMat _ hn _ := hn

/-- **The scans of a run** are counted. -/
theorem counted_approachBeacon (x : ρ) (colour : ColourSensor) :
    Counted (exec (approachBeacon L) (x, Nav.boot colour)).2.2 := by
  have hsearches := (follows_counted L).searches (steers_counted L)
    (counted_scans.kept .start).toRoams ((counted_scans.kept .start).check L counted_scans.loose)
    (fun _ hn _ _ => hn) fun _ hn _ => hn
  have hrun := hsearches.approachBeacon (counted_scans.kept .start).toSteady
    (fun n now _ => ⟨Nat.zero_le _, Nat.zero_le _⟩) x (Nav.boot colour)
    ⟨Nat.zero_le _, Nat.zero_le _⟩
  exact always hrun

/-- At least `k` scans are counted. -/
def Used (k : ℕ) (n : Nav) : Prop := k ≤ n.matScansUsed

/-- A condition that asks nothing is one on the scans. -/
theorem anywhere_scans : OfScans Anywhere Anywhere := ⟨fun _ _ => trivial, fun _ _ _ _ _ => trivial⟩

/-- How many scans are counted is a condition on the scans. -/
theorem used_scans : OfScans Anywhere (Used k) where
  safe _ _ := trivial
  same n m _ hused hn := by
    unfold Used
    rw [hused]
    exact hn

/-- Every round of the steering counts one more scan, while there is one left. -/
theorem steers_used (hk : k < matMaxScans) :
    Steers L Anywhere (Used k) (Used (k + 1)) (Used (k + 1)) (Used (k + 1)) where
  enters := (used_scans.kept .steering).toSteady
  scans := (used_scans.kept .steering).toRoams
  holds := (used_scans.kept .steering).toRoams
  frees := (used_scans.kept .steering).toSteady
  again _ hn := Nat.le_of_succ_le hn
  spent n _ hused := Nat.lt_of_lt_of_le hk (Nat.le_of_not_lt hused)
  scan _ hn _ := Nat.succ_le_succ hn
  scanned n m ok _ hn hm := by
    have hm' : Used (k + 1) m := by
      unfold Used
      rw [hm.matScansUsed]
      exact hn
    split
    · exact hm'
    · exact hm'
  steeringCheck := (used_scans.kept .steering).check L loose_anywhere
  steeringBlock _ := anywhere_scans.block L used_scans
  settled _ hn _ := hn

/-- **A round of the steering** uses a scan, if it goes on. -/
theorem used_matRound :
    Leads Anywhere (fun n => Used k n ∧ n.matScansUsed < matMaxScans) (matRound L) fun r n =>
      r = .inl () → Used (k + 1) n := by
  intro x n hn
  have hk : k < matMaxScans := Nat.lt_of_le_of_lt hn.1 hn.2
  refine wp_mono ((steers_used L hk).matRound x n hn) ?_ fun _ hs => hs
  intro r s hs hr
  rw [hr] at hs
  exact hs

end Scans

/-! ## Everything returns -/

section Returns

variable {ρ : Type} {L : Layer ρ}

/-- Reading the state ends. -/
theorem halts_getNav : Halts (getNav : Cmd (ρ × Nav) Nav) := Halts.get.bind fun _ => Halts.pure _

/-- Writing the state ends. -/
theorem halts_setNav (g : Nav → Nav) : Halts (setNav g : Cmd (ρ × Nav) Unit) := Halts.modify _

/-- What follows a look at the state ends if it does so in every state. -/
theorem halts_look {β : Type} {f : Nav → Cmd (ρ × Nav) β} (hf : ∀ n, Halts (f n)) :
    Halts (getNav >>= f) := halts_getNav.bind hf

/-- What follows a write to the state ends if it does. -/
theorem halts_set {β : Type} {g : Nav → Nav} {c : Cmd (ρ × Nav) β} (hc : Halts c) :
    Halts (setNav g >>= fun _ => c) := (halts_setNav g).bind fun _ => hc

/-- A result that may end what follows. -/
theorem halts_found {α β : Type} {c : Cmd (ρ × Nav) (Except PayloadResult α)}
    {f : Except PayloadResult α → Cmd (ρ × Nav) β} (hc : Halts c)
    (herror : ∀ r, Halts (f (.error r))) (hok : ∀ a, Halts (f (.ok a))) : Halts (c >>= f) := by
  apply hc.bind
  intro r
  cases r with
  | error r => exact herror r
  | ok a => exact hok a

/-- **A loop of the approach**, with a measure that starts no higher than the rounds for which
it is observed. -/
theorem halts_repeatRounds {β γ : Type} (hrounds : ∀ x, 60001 < L.rounds x)
    {body : β → Cmd (ρ × Nav) (β ⊕ γ)} (μ : Nav → ℕ) (hμ : ∀ n, μ n ≤ 60001)
    (hbody : ∀ b, Halts (body b))
    (hdown : ∀ b x n, wp (body b) (fun r s => ∀ b', r = .inl b' → μ s.2 < μ n) (fun _ => True)
      (x, n)) (b : β) : Halts (repeatRounds L body b) := by
  intro s
  exact Halts.iterate (fun _ s => μ s.2) hbody (fun b s => hdown b s.1 s.2) _ b s
    (Nat.lt_of_le_of_lt (hμ s.2) (hrounds s.1))

/-- A loop whose rounds spend powered travel. -/
theorem halts_spending {β γ : Type} (hrounds : ∀ x, 60001 < L.rounds x)
    {body : β → Cmd (ρ × Nav) (β ⊕ γ)} (hbody : ∀ b, Halts (body b))
    (hspent : ∀ b t, Leads Anywhere (AtLeast t) (body b) fun r n => ∀ b', r = .inl b' → Spent t n)
    (b : β) : Halts (repeatRounds L body b) := by
  refine halts_repeatRounds hrounds (fun n => 60001 - n.translationMs.toNat)
    (fun _ => Nat.sub_le _ _) hbody ?_ b
  intro b x n
  refine wp_mono (hspent b n.translationMs.toNat x n (Nat.le_refl _)) ?_ fun _ _ => trivial
  intro r s hs b' hr
  obtain ⟨hlt, hle⟩ := hs b' hr
  omega

/-- A line of the report, and then something else. -/
theorem halts_report {β : Type} {c : Cmd (ρ × Nav) β} (hc : Halts c) :
    Halts (reportPrintf L >>= fun _ => c) := (Halts.modify _).bind fun _ => hc

/-- A report changes nothing about what follows it. -/
theorem halts_reportIf {β : Type} (b : Bool) {c : Cmd (ρ × Nav) β} (hc : Halts c) :
    Halts (reportIf L b >>= fun _ => c) :=
  (Halts.ite (Halts.modify _) (Halts.pure _)).bind fun _ => hc

variable (hL : L.Returns)
include hL

/-- The tests of STOP and of the report end. -/
theorem halts_runCanContinue : Halts (runCanContinue L) := by
  refine halts_look fun n => Halts.onFirst ?_
  have hstopFor : ∀ f, Halts (L.stopFor f) := fun f => hL.stop.bind fun _ => hL.faultRaise f
  refine hL.stopRequested.bind fun _ => Halts.ite (hL.stop.bind fun _ => Halts.pure _) ?_
  refine hL.reportOk.bind fun _ => Halts.ite ((hstopFor _).bind fun _ => Halts.pure _) ?_
  refine hL.nowMs.bind fun _ => Halts.ite ((hstopFor _).bind ?_) (Halts.pure _)
  intro _
  exact (Halts.modify _).bind fun _ => Halts.pure _

/-- Stopping for a fault ends. -/
theorem halts_stopFor (f : Fault) : Halts (onFirst (L.stopFor f) : Cmd (ρ × Nav) Unit) :=
  Halts.onFirst (hL.stop.bind fun _ => hL.faultRaise f)

/-- A checkpoint ends. -/
theorem halts_saveCheckpoint : Halts (saveCheckpoint L) := by
  refine hL.stop.onFirst.bind fun _ => halts_look fun n => Halts.ite (Halts.pure _) ?_
  refine (hL.quiesce _).onFirst.bind fun _ => Halts.ite (Halts.pure _) ?_
  refine hL.reportCheckpoint.onFirst.bind fun _ => Halts.ite (Halts.pure _) ?_
  exact (hL.faultRaise _).onFirst.bind fun _ => Halts.pure _

/-- Reading the colour `k` times ends, by induction on `k`. -/
theorem halts_readZones (k : ℕ) (zones : List Zone) : Halts (readZones L k zones) := by
  induction k generalizing zones with
  | zero => exact Halts.pure _
  | succ k ih =>
    apply hL.readFresh.onFirst.bind
    intro reading
    cases reading with
    | none => exact Halts.pure _
    | some reading => exact ih _

/-- The colour check ends: its readings are a fixed number. -/
theorem halts_colourArrivalCheck : Halts (colourArrivalCheck L) := by
  refine halts_look fun n => Halts.ite (Halts.pure _) (halts_set ?_)
  apply (halts_readZones hL 3 []).bind
  intro zones
  cases zones with
  | none => exact halts_set (halts_report (Halts.pure _))
  | some zones =>
    exact halts_set (halts_look fun n => halts_set (halts_report (Halts.pure _)))

/-- The test of the Wi-Fi gate ends. -/
theorem halts_closeGate : Halts (closeGate L) := by
  refine (halts_colourArrivalCheck hL).bind fun onMat => halts_set (halts_look ?_)
  intro n
  refine Halts.ite (halts_report (Halts.pure _)) (halts_set ?_)
  exact halts_reportIf onMat (Halts.pure _)

/-- One payload attempt ends, a first one or a retry. -/
theorem halts_payloadTry (wasClose : Bool) : Halts (payloadTry L wasClose) := by
  -- an attempt, or a retry
  have hattempt : ∀ (e : Nav → GateNote) (c : ℤ → Cmd ρ AttemptEnd), (∀ dbm, Halts (c dbm)) →
      Halts (do
        let n ← getNav
        noteGate (e n)
        let finish ← onFirst (c n.closeRssiDbm)
        setNav fun n => { n with attemptRunning := finish.running }
        return finish.result : Cmd (ρ × Nav) PayloadResult) := fun e c hc =>
    halts_look fun n => halts_set ((hc _).onFirst.bind fun _ => halts_set (Halts.pure _))
  refine Halts.ite ?_ ?_
  · exact Halts.bind (hattempt _ _ hL.payloadRetry) fun _ => Halts.pure _
  · refine (halts_closeGate hL).bind fun close => Halts.ite ?_ (Halts.pure _)
    exact Halts.bind (hattempt _ _ hL.payloadAttempt) fun _ => Halts.pure _

/-- The payload attempts end, of which there are `k` at most. -/
theorem halts_payloadAttempts (k : ℕ) (wasClose : Bool) : Halts (payloadAttempts L k wasClose) := by
  induction k generalizing wasClose with
  | zero => exact (hL.faultRaise _).onFirst.bind fun _ => halts_report (Halts.pure _)
  | succ k ih =>
    refine (halts_runCanContinue hL).bind fun _ => Halts.ite (Halts.pure _) ?_
    refine (halts_saveCheckpoint hL).bind fun _ => Halts.ite (Halts.pure _) ?_
    apply (halts_payloadTry hL wasClose).bind
    intro r
    have hafter : ∀ result : PayloadResult, Halts (do
        if !(← saveCheckpoint L) then
          return .fatal
        if result = .complete ∨ (result = .notClose ∧ wasClose = false) then
          return result
        if k = 0 then
          payloadAttempts L k true
        else
          reportPrintf L
          if ← onFirst (L.pauseMs 200) then
            payloadAttempts L k true
          else
            return .fatal : Cmd (ρ × Nav) PayloadResult) := by
      intro result
      refine (halts_saveCheckpoint hL).bind fun _ => Halts.ite (Halts.pure _) ?_
      refine Halts.ite (Halts.pure _) (Halts.ite (ih true) (halts_report ?_))
      exact (hL.pauseMs _).onFirst.bind fun _ => Halts.ite (ih true) (Halts.pure _)
    match r with
    | none => exact Halts.pure _
    | some .fatal => exact Halts.pure _
    | some .complete => exact hafter _
    | some .notClose => exact hafter _
    | some .retry => exact hafter _

/-- A check ends, whether or not it lets an attempt through. -/
theorem halts_checkPayload (place : Place) : Halts (checkPayload L place) := by
  refine halts_set ((halts_payloadAttempts hL _ _).bind fun _ => halts_look ?_)
  intro n
  exact halts_set (Halts.pure _)

/-- Waiting for the Wi-Fi gives up after `k` samples. -/
theorem halts_waitForWifi (place : Place) (k : ℕ) : Halts (waitForWifi L place k) := by
  induction k with
  | zero => exact halts_report (Halts.pure _)
  | succ k ih =>
    refine halts_look fun n => (hL.sample _).onFirst.bind ?_
    intro sample
    cases sample with
    | none => exact Halts.pure _
    | some sample =>
      refine (halts_saveCheckpoint hL).bind fun _ => Halts.ite (Halts.pure _) ?_
      refine Halts.ite (Halts.pure _) (halts_report ?_)
      apply (halts_checkPayload hL place).bind
      intro result
      refine Halts.ite (Halts.pure _) ((hL.pauseMs _).onFirst.bind ?_)
      intro _
      exact Halts.ite (Halts.pure _) ih

/-- Measuring a pair ends: it waits for the Wi-Fi twice. -/
theorem halts_measurePair (place : Place) : Halts (measurePair L place) := by
  refine halts_found (halts_waitForWifi hL place _) (fun _ => Halts.pure _) ?_
  intro first
  exact halts_found (halts_waitForWifi hL place _) (fun _ => Halts.pure _) fun _ => Halts.pure _

/-- A block ends: the layer drives it, the rest is bookkeeping. -/
theorem halts_translateBlock (place : Place) (forwards : Bool) (duration : UInt32)
    (heading : Float32) (position reservedReturn : UInt32) (acquireMoving : Bool) :
    Halts (translateBlock L place forwards duration heading position reservedReturn
      acquireMoving) := by
  have hreserve : ∀ required, Halts (reserveTranslation L required) := fun required =>
    halts_look fun n => Halts.ite (halts_runCanContinue hL)
      ((halts_stopFor hL _).bind fun _ => halts_report (Halts.pure _))
  have hcharge : ∀ block, Halts (chargeBlock L place duration block) := by
    intro block
    refine halts_set (halts_set (Halts.ite (Halts.pure _) (Halts.ite (Halts.pure _) ?_)))
    refine (halts_runCanContinue hL).bind fun _ => Halts.ite (Halts.pure _) (halts_look ?_)
    intro n
    apply Halts.ite ((hL.faultRaise _).onFirst.bind fun _ => halts_report (Halts.pure _))
    exact halts_checkPayload hL place
  refine halts_look fun n => halts_set (halts_set ((hreserve _).bind ?_))
  intro _
  refine Halts.ite (Halts.pure _) ((halts_saveCheckpoint hL).bind ?_)
  intro _
  refine Halts.ite (Halts.pure _) ((hL.setPosition _ _ _).onFirst.bind ?_)
  intro _
  apply (hL.driveBlock _ _ _ _ _).onFirst.bind
  intro block
  cases block with
  | none => exact Halts.pure _
  | some block => exact (hcharge block).bind fun _ => Halts.pure _

/-- Noting a point of the line ends. -/
theorem halts_recordPoint : Halts (recordPoint L) := by
  refine halts_look fun n => Halts.ite ((halts_stopFor hL _).bind fun _ => ?_) ?_
  · exact halts_report (Halts.pure _)
  · exact halts_set (halts_report (halts_saveCheckpoint hL))

/-- A turn ends, and so does what a failed one stops. -/
theorem halts_turnToHeading (heading : Float32) : Halts (turnToHeading L heading) :=
  halts_set (hL.turnToHeading heading).onFirst

/-! ## Steering -/

/-- One reading of a scan ends. -/
theorem halts_scanRead : Halts (scanRead L) := by
  have hread : Halts (colourSensorRead L) :=
    halts_look fun n => Halts.ite hL.readFresh.onFirst (Halts.pure _)
  have hnext : ∀ f : Option ColourReading → Cmd (ρ × Nav) (Option ColourReading),
      Halts (f none) → (∀ reading, Halts (f (some reading))) →
      Halts (colourSensorRead L >>= f) := by
    intro f hnone hsome
    apply hread.bind
    intro reading
    cases reading with
    | none => exact hnone
    | some reading => exact hsome reading
  refine hnext _ (Halts.pure _) fun a => hnext _ (Halts.pure _) ?_
  intro b
  exact hnext _ (Halts.pure _) fun c => Halts.pure _

/-- A scan ends, by induction on the positions that are left. -/
theorem halts_scanSteps (origin : Float32) (k : ℕ) (readings : List (ℤ × ColourReading)) :
    Halts (scanSteps L origin k readings) := by
  induction k generalizing readings with
  | zero => exact halts_report (Halts.pure _)
  | succ k ih =>
    refine (halts_runCanContinue hL).bind fun _ => Halts.ite (Halts.pure _) ?_
    refine (halts_turnToHeading hL _).bind fun _ => Halts.ite (Halts.pure _) ?_
    refine (hL.pauseMs _).onFirst.bind fun _ => Halts.ite (Halts.pure _) ?_
    refine (halts_scanRead hL).bind ?_
    intro reading
    cases reading with
    | none => exact halts_report (Halts.pure _)
    | some reading =>
      apply halts_report
      refine hL.reportCheckpoint.onFirst.bind fun _ => Halts.ite ?_ (ih _)
      exact (hL.faultRaise _).onFirst.bind fun _ => Halts.pure _

/-- A scan over the sector in front ends. -/
theorem halts_matScan (origin : Float32) : Halts (matScan L origin) := by
  refine (halts_scanSteps hL origin 12 []).bind fun r => Halts.ite (Halts.pure _) ?_
  refine Halts.ite (halts_set (halts_report (Halts.pure _))) ?_
  refine halts_set (halts_set (halts_set ?_))
  exact Halts.ite (halts_report (Halts.pure _)) (Halts.pure _)

/-- Waiting on the mat ends: a check is made `k` times at most. -/
theorem halts_matWaitOnArrival (k : ℕ) : Halts (matWaitOnArrival L k) := by
  induction k with
  | zero => exact (hL.faultRaise _).onFirst.bind fun _ => halts_report (Halts.pure _)
  | succ k ih =>
    refine halts_report ((hL.pauseMs _).onFirst.bind fun _ => Halts.ite (Halts.pure _) ?_)
    refine (halts_checkPayload hL _).bind fun _ => Halts.ite (Halts.pure _) ?_
    exact halts_look fun _ => Halts.ite (Halts.pure _) ih

/-- Waiting on the mat, if the check has found the arrival, ends. -/
theorem halts_waitIfArrived : Halts (waitIfArrived L) :=
  halts_look fun _ => Halts.ite (halts_matWaitOnArrival hL _) (Halts.pure _)

/-- The blocks towards the mat end, of which there are `k` at most. -/
theorem halts_matSteps (heading : Float32) (k : ℕ) (previous : ℤ) :
    Halts (matSteps L heading k previous) := by
  induction k generalizing previous with
  | zero => exact Halts.pure _
  | succ k ih =>
    refine (halts_translateBlock hL _ _ _ _ _ _ _).bind fun r => Halts.ite (Halts.pure _) ?_
    refine halts_look fun n => halts_report ((halts_waitIfArrived hL).bind ?_)
    intro _
    apply Halts.ite (Halts.pure _)
    exact Halts.ite (Halts.pure _) (ih _)

/-- A round of the steering ends. -/
theorem halts_matRound : Halts (matRound L) := by
  refine (halts_runCanContinue hL).bind fun _ => Halts.ite (Halts.pure _) (halts_set ?_)
  refine hL.heading.onFirst.bind fun origin => (halts_matScan hL origin).bind ?_
  intro r
  cases r with
  | inl result => exact Halts.pure _
  | inr angle =>
    refine halts_report ((halts_turnToHeading hL _).bind fun _ => Halts.ite (Halts.pure _) ?_)
    refine (halts_checkPayload hL _).bind fun _ => Halts.ite (Halts.pure _) ?_
    refine (halts_waitIfArrived hL).bind fun _ => Halts.ite (Halts.pure _) (halts_look ?_)
    intro _
    exact (halts_matSteps hL _ _ _).bind fun _ => Halts.ite (Halts.pure _) (Halts.pure _)

/-! ## Lines and the search -/

/-- The probe of a dip ends, of which the blocks are `k` at most. -/
theorem halts_probeDip (heading : Float32) (best : UInt32) (reference : LinePair) (k : ℕ)
    (position : UInt32) (current : LinePair) :
    Halts (probeDip L heading best reference k position current) := by
  induction k generalizing position current with
  | zero => exact halts_report (Halts.pure _)
  | succ k ih =>
    apply halts_report
    refine (halts_translateBlock hL _ _ _ _ _ _ _).bind fun r => Halts.ite (Halts.pure _) ?_
    refine (hL.setPosition _ _ _).onFirst.bind ?_
    intro _
    refine halts_found (halts_measurePair hL _) (fun _ => Halts.pure _) ?_
    intro current
    apply halts_report
    refine (halts_saveCheckpoint hL).bind fun _ => Halts.ite (Halts.pure _) (halts_set ?_)
    exact Halts.ite (Halts.pure _) (ih _ _)

/-- A block of the line ends, with the pair measured after it. -/
theorem halts_followBlock (l : Line) (step : UInt32) : Halts (followBlock L l step) := by
  have hready : Halts (matSteeringReady : Cmd (ρ × Nav) Bool) := halts_look fun _ => Halts.pure _
  apply (hL.setReference _).onFirst.bind
  intro _
  refine (halts_translateBlock hL _ _ _ _ _ _ _).bind fun r => Halts.ite (Halts.pure _) ?_
  refine hready.bind fun _ => Halts.ite (halts_report (Halts.pure _)) ?_
  apply (hL.setPosition _ _ _).onFirst.bind
  intro _
  refine halts_found (halts_measurePair hL _) (fun _ => Halts.pure _) ?_
  intro current
  refine (halts_recordPoint hL).bind fun _ => Halts.ite (Halts.pure _) ?_
  exact halts_set (halts_report (Halts.pure _))

/-- The end of a line ends, its return included. -/
theorem halts_followEnd (l : Line) : Halts (followEnd L l) := by
  refine Halts.ite (halts_report (Halts.pure _)) (Halts.ite (Halts.pure _) ?_)
  refine halts_report (halts_set ?_)
  exact (halts_recordPoint hL).bind fun _ => Halts.ite (Halts.pure _) (Halts.pure _)

variable (hrounds : ∀ x, 60001 < L.rounds x)
include hrounds

/-- **The steering ends**: each of its rounds uses a scan. -/
theorem halts_matApproach : Halts (matApproach L) := by
  apply halts_report
  refine halts_repeatRounds hrounds (fun n => matMaxScans - n.matScansUsed) (fun n => ?_)
    (fun _ => halts_look fun n => Halts.ite (halts_matRound hL) (halts_report (Halts.pure _)))
    ?_ ()
  · exact le_trans (Nat.sub_le _ _) (by decide)
  intro _ x n
  have hround : Leads Anywhere (Mute n) (do
      let n ← getNav
      if n.matScansUsed < matMaxScans then
        matRound L
      else
        reportPrintf L
        return .inr .notClose : Cmd (ρ × Nav) (Unit ⊕ PayloadResult)) fun r m =>
      r = .inl () → n.matScansUsed < matMaxScans ∧ Used (n.matScansUsed + 1) m := by
    refine Leads.look fun k hk => Leads.ite (fun hused => ?_) fun _ => ?_
    · rw [hk.matScansUsed] at hused
      refine (used_matRound L (k := n.matScansUsed)).mono ?_ fun r m hm hr => ⟨hused, hm hr⟩
      intro m hm
      have hscans : m.matScansUsed = n.matScansUsed := hm.matScansUsed.trans hk.matScansUsed
      exact ⟨Nat.le_of_eq hscans.symm, hscans ▸ hused⟩
    · apply Leads.report
      exact Leads.pure _ fun _ _ => nofun
  refine wp_mono (hround x n (Mute.refl n)) ?_ fun _ _ => trivial
  intro r s hs _ hr
  obtain ⟨hlt, hused⟩ := hs hr
  unfold Used at hused
  omega

/-- **A return ends**: each of its blocks spends powered travel. -/
theorem halts_returnAlongLine (position target : UInt32) (heading : Float32) :
    Halts (returnAlongLine L position target heading) := by
  have hblock : ∀ remaining, Halts (returnBlock L target heading remaining) := fun remaining =>
    Halts.ite (Halts.pure _) ((halts_translateBlock hL _ _ _ _ _ _ _).bind fun r =>
      Halts.ite (Halts.pure _) (Halts.pure _))
  apply halts_report
  refine (halts_spending hrounds hblock (fun b t => spent_returnBlock L target heading b) _).bind
    fun result => Halts.ite ?_ (Halts.pure _)
  exact (hL.setPosition _ _ _).onFirst.bind fun _ => Halts.pure _

/-- What is made of a decline ends, the probe and the return included. -/
theorem halts_followDecline (l : Line) (step : UInt32) (current : LinePair) :
    Halts (followDecline L l step current) := by
  have hdip : ∀ heading best reference position,
      Halts (recheckAndProbeDip L heading best reference position) := by
    intro heading best reference position
    refine hL.stop.onFirst.bind fun _ => halts_report ?_
    refine (halts_checkPayload hL _).bind ?_
    intro _
    apply Halts.ite (Halts.pure _)
    refine halts_found (halts_measurePair hL _) (fun _ => Halts.pure _) ?_
    intro current
    apply halts_report
    refine (halts_saveCheckpoint hL).bind fun _ => Halts.ite (Halts.pure _) (halts_set ?_)
    exact Halts.ite (Halts.pure _) (halts_probeDip hL _ _ _ _ _ _)
  have hend : ∀ l, Halts (endDecline L l) := by
    intro l
    refine halts_set (halts_report ?_)
    refine (halts_returnAlongLine hL hrounds _ _ _).bind fun _ => Halts.ite (Halts.pure _) ?_
    exact halts_found (halts_measurePair hL _) (fun _ => Halts.pure _) fun _ =>
      halts_report (Halts.pure _)
  apply Halts.ite (halts_reportIf _ (Halts.pure _))
  refine halts_reportIf _ (halts_report (Halts.ite (Halts.pure _) ?_))
  refine halts_found (hdip _ _ _ _) (fun _ => Halts.pure _) ?_
  intro r
  apply Halts.ite (halts_report (Halts.pure _))
  exact (hend _).bind fun _ => Halts.pure _

/-- A round of a line ends. -/
theorem halts_followRound (l : Line) : Halts (followRound L l) := by
  have hstep : Halts (forwardBlockMs L) := halts_look fun _ =>
    Halts.ite (halts_set (halts_report (Halts.pure _))) (Halts.pure _)
  have hjudged : ∀ (l : Line) current, Halts (reportJudged L l current) := fun l current =>
    halts_reportIf _ (halts_reportIf _ (Halts.ite (Halts.modify _) (Halts.pure _)))
  refine halts_set ((halts_runCanContinue hL).bind fun _ => Halts.ite (Halts.pure _) ?_)
  refine hstep.bind fun step => (halts_followBlock hL l step).bind ?_
  intro r
  match r with
  | .inr result => exact Halts.pure _
  | .inl (l, current) =>
    apply (halts_followDecline hL hrounds l _ current).bind
    intro r
    match r with
    | .inr result => exact Halts.pure _
    | .inl (l, current) => exact halts_set ((hjudged _ _).bind fun _ => halts_followEnd hL _)

/-- **A line ends**: each of its blocks spends powered travel. -/
theorem halts_followDirection (heading : Float32) (trialMs : UInt32) :
    Halts (followDirection L heading trialMs) := by
  refine halts_set ((halts_turnToHeading hL heading).bind fun _ => Halts.ite (Halts.pure _) ?_)
  apply (hL.setPosition _ _ _).onFirst.bind
  intro _
  refine halts_found (halts_measurePair hL _) (fun _ => Halts.pure _) ?_
  intro best
  refine (halts_recordPoint hL).bind fun _ => Halts.ite (Halts.pure _) ?_
  refine halts_set (halts_report ?_)
  refine halts_spending hrounds (halts_followRound hL hrounds) ?_ _
  intro l t
  apply (spent_followRound L l).mono (fun _ hn => hn)
  intro r n hn l' hr
  rw [hr] at hn
  exact hn

/-- The trial directions end, by induction on the offsets that are left. -/
theorem halts_checkDirections (origin : Float32) (offsets : List Float32) (f : FollowResult) :
    Halts (checkDirections L origin offsets f) := by
  induction offsets generalizing f with
  | nil => exact Halts.pure _
  | cons offset offsets ih =>
    refine halts_found (halts_followDirection hL hrounds _ _) (fun _ => Halts.pure _) ?_
    intro f
    refine Halts.ite (Halts.pure _) (Halts.ite ?_ (ih f))
    have htrial : ∀ heading, Halts (endTrial L heading f) := by
      intro heading
      apply halts_report
      refine (halts_returnAlongLine hL hrounds _ _ _).bind fun _ => Halts.ite (Halts.pure _) ?_
      exact halts_found (halts_measurePair hL _) (fun _ => Halts.pure _) fun _ =>
        halts_report (Halts.pure _)
    exact halts_found (htrial _) (fun _ => Halts.pure _) ih

/-- The line straight ahead ends. -/
theorem halts_followAhead : Halts (followAhead L) :=
  hL.heading.onFirst.bind fun _ => halts_followDirection hL hrounds _ _

/-- A round of the search ends: the steering and a line with its trials. -/
theorem halts_approachRound (f : FollowResult) : Halts (approachRound L f) := by
  refine (halts_runCanContinue hL).bind fun _ => Halts.ite (Halts.pure _) ?_
  cases f.ending with
  | mat =>
    refine (halts_matApproach hL hrounds).bind fun _ => Halts.ite (Halts.pure _) ?_
    refine halts_report ?_
    exact halts_found (halts_followAhead hL hrounds) (fun _ => Halts.pure _) fun _ => Halts.pure _
  | decline =>
    refine halts_reportIf _ (halts_report ?_)
    refine halts_found (halts_checkDirections hL hrounds _ _ _) (fun _ => Halts.pure _) ?_
    intro r
    refine Halts.ite (Halts.pure _) ((hL.faultRaise _).onFirst.bind ?_)
    intro _
    exact halts_report (Halts.pure _)
  | noGain => exact (hL.faultRaise _).onFirst.bind fun _ => halts_report (Halts.pure _)

/-- **`approach_beacon` ends**, as the calls it makes do. -/
theorem halts_approachBeacon : Halts (approachBeacon L) := by
  refine hL.nowMs.onFirst.bind fun now => hL.samplerInit.onFirst.bind ?_
  intro _
  refine halts_set ((halts_checkPayload hL _).bind ?_)
  intro _
  apply Halts.ite (Halts.pure _)
  refine halts_found (halts_waitForWifi hL _ _) (fun _ => Halts.pure _) fun _ => halts_set ?_
  refine hL.learnDirection.onFirst.bind fun _ => Halts.ite (Halts.pure _) (halts_report ?_)
  have hstart : Halts (approachStart L) :=
    Halts.bind (halts_look fun n => Halts.pure _) fun _ =>
      Halts.ite (Halts.pure _) (halts_followAhead hL hrounds)
  refine halts_found hstart (fun _ => Halts.pure _) ?_
  intro f
  exact halts_spending hrounds (halts_approachRound hL hrounds) (fun f t => spent_approachRound L f) f

end Returns

/-! ## Runs -/

/-- **The approach ends**: no run makes more than six colour scans; a round of the search that goes
on has spent powered travel; and if the calls that `approach_beacon` makes return, so does
`approach_beacon`, whatever they find, with its loops observed for no more rounds than the budget
has milliseconds. -/
theorem approachBeacon_returns {ρ : Type} (L : Layer ρ) (x : ρ) (colour : ColourSensor) :
    let n := (exec (approachBeacon L) (x, Nav.boot colour)).2.2
    scansOf n.events ≤ n.matScansUsed ∧ n.matScansUsed ≤ 6 ∧
    (∀ f y m f' s, exec (approachRound L f) (y, m) = (some (.inl f'), s) →
      m.translationMs.toNat < s.2.translationMs.toNat ∧ s.2.translationMs.toNat ≤ 60000) ∧
    (L.Returns → (∀ y, 60001 < L.rounds y) →
      (exec (approachBeacon L) (x, Nav.boot colour)).1.isSome = true) := by
  intro n
  have hcounted : Counted n := counted_approachBeacon L x colour
  refine ⟨hcounted.1, hcounted.2, ?_, ?_⟩
  · intro f y m f' s hexec
    have hspent := spent_approachRound L f y m (Nat.le_refl m.translationMs.toNat)
    unfold wp at hspent
    rw [hexec] at hspent
    exact hspent f' rfl
  · intro hL hrounds
    exact halts_approachBeacon hL hrounds _

/-- A world in which nothing ever changes and the clock stands still: the floor, AP1 at -60 dBm and
never close, and drives that take the time they were asked for. -/
def unchanging : Layer UInt32 where
  nowMs := pure 0
  sleepMs := pure ()
  faultRaise _ := pure ()
  reportOk := pure true
  reportPrintf s := s
  stopRequested := pure false
  stop := pure ()
  driveStart _ duration _ := do
    set duration
    return true
  driveUpdate := pure true
  driveActive := pure false
  driveElapsedMs := get
  driveFinish := pure true
  pollMoving _ := pure true
  quiesce _ := pure true
  rounds _ := 60002
  samplerInit := pure ()
  reportCheckpoint := pure true
  turnToHeading _ := pure true
  learnDirection := pure true
  heading := pure 0
  pauseMs _ := pure true
  setPosition _ _ _ := pure ()
  setReference _ := pure ()
  sample _ := pure (some ⟨60, 0⟩)
  readFresh := pure (some ⟨1000, 100, 100, 50⟩)
  payloadAttempt _ := pure ⟨.notClose, false, fun _ => rfl⟩
  payloadRetry _ := pure ⟨.notClose, false, fun _ => rfl⟩
  fmod x _ := x

/-- In the unchanging world every call returns. -/
theorem unchanging_returns : unchanging.Returns where
  nowMs _ := rfl
  faultRaise _ _ := rfl
  reportOk _ := rfl
  stopRequested _ := rfl
  stop _ := rfl
  quiesce _ _ := rfl
  samplerInit _ := rfl
  reportCheckpoint _ := rfl
  turnToHeading _ _ := rfl
  learnDirection _ := rfl
  heading _ := rfl
  pauseMs _ _ := rfl
  setPosition _ _ _ _ := rfl
  setReference _ _ := rfl
  sample _ _ := rfl
  readFresh _ := rfl
  payloadAttempt _ _ := rfl
  payloadRetry _ _ := rfl
  driveBlock _ _ _ _ _ _ := rfl

/-- The approach ends there, too. -/
theorem unchanging_approachBeacon :
    (exec (approachBeacon unchanging)
      (0, Nav.boot ⟨true, false, false, -1, 0⟩)).1.isSome = true := by
  have hends := approachBeacon_returns unchanging 0 ⟨true, false, false, -1, 0⟩
  exact hends.2.2.2 unchanging_returns fun _ => Nat.lt_succ_self _

end Navigation
