/-
# Every summary of the calibration is about readings that were taken

The result: in every run of the program, whatever the sensor, the buttons and the clock answer and
however often surfaces are captured again, every summary that is printed says what it is to say and
the truth.  It is about all eight surfaces; behind each stand 1 to 20 valid readings of the sensor,
and those of one surface were taken before those of the next.
-/
import GettingThere.CalibrationRows
import GettingThere.CommandTriples

open CrashLogic RunningRange

namespace Calibration

/-! ## What a summary promises -/

/-- The sensor gave this reading, and called it valid. -/
def Sensed (outside : Outside) (p : Sample) : Prop :=
  ∃ k, p.1 = k + 3 ∧ (outside.transfers (k + 1) []).result = 1 ∧
    (outside.transfers (k + 1) []).data 0 &&& 0x01 ≠ 0 ∧
    (outside.transfers (k + 3) []).result = 8 ∧
    p.2 = rgbcOf (outside.transfers (k + 3) []).data

/-- The readings of the samples. -/
def readings (samples : Label → List Sample) (label : Label) : List Rgbc :=
  (samples label).map Prod.snd

/-- A summary that can be relied on. -/
structure Summary.Sound (outside : Outside) (s : Summary) : Prop where
  /-- nothing is missing -/
  subjects : s.lines.map Line.subject = subjects
  /-- every line is true -/
  tells : ∀ line ∈ s.lines, line.Tells (readings s.samples)
  number : ∀ label, 1 ≤ (s.samples label).length ∧ (s.samples label).length ≤ 20
  sensed : ∀ label, ∀ p ∈ s.samples label, Sensed outside p
  /-- the readings of a surface are listed from the latest to the first -/
  latest : ∀ label, (s.samples label).Pairwise fun p q => q.1 < p.1
  /-- the surfaces were captured in their order -/
  ordered : ∀ i j, i < j → ∀ p ∈ s.samples i, ∀ q ∈ s.samples j, p.1 < q.1

/-- Every summary printed can be relied on. -/
def Calib.Sound (s : Calib) : Prop := ∀ x ∈ s.summaries, x.Sound s.outside

/-! ## Accesses -/

/-- Only accesses in between: the statistics and the notes are the same. -/
structure OnlyAccesses (s t : Calib) : Prop where
  outside : t.outside = s.outside
  tick : s.tick ≤ t.tick
  results : t.results = s.results
  label : t.label = s.label
  samples : t.samples = s.samples
  summaries : t.summaries = s.summaries

instance : IsPreorder Calib OnlyAccesses where
  refl _ := ⟨rfl, le_refl _, rfl, rfl, rfl, rfl⟩
  trans _ _ _ hst htu :=
    ⟨htu.outside.trans hst.outside, le_trans hst.tick htu.tick, htu.results.trans hst.results,
      htu.label.trans hst.label, htu.samples.trans hst.samples, htu.summaries.trans hst.summaries⟩

/-- An access is one. -/
theorem access_accesses : Steps OnlyAccesses access := by
  refine Steps.look fun s => Steps.bind (Steps.modify fun s => ?_) fun _ => Steps.pure _
  exact ⟨rfl, Nat.le_succ _, rfl, rfl, rfl, rfl⟩

/-- A transfer on the bus is one. -/
theorem transfer_accesses (sent : List UInt8) : Steps OnlyAccesses (transfer sent) :=
  Steps.bind access_accesses fun _ => Steps.look fun _ => Steps.pure _

/-- Counting an error is none of the statistics. -/
theorem countError_accesses : Steps OnlyAccesses countError :=
  Steps.modify fun _ => ⟨rfl, le_refl _, rfl, rfl, rfl, rfl⟩

/-- Reading a register is a transfer or two. -/
theorem tcsRead_accesses (reg : UInt8) (len : ℕ) : Steps OnlyAccesses (tcsRead reg len) := by
  refine Steps.bind (transfer_accesses _) fun select => Steps.ite ?_ ?_
  · exact Steps.bind countError_accesses fun _ => Steps.pure _
  refine Steps.bind (transfer_accesses _) fun t => Steps.ite ?_ (Steps.pure _)
  exact Steps.bind countError_accesses fun _ => Steps.pure _

/-- Writing a register is one. -/
theorem tcsWrite_accesses (reg value : UInt8) : Steps OnlyAccesses (tcsWrite reg value) := by
  refine Steps.bind (transfer_accesses _) fun t => Steps.ite ?_ (Steps.pure _)
  exact Steps.bind countError_accesses fun _ => Steps.pure _

/-- Starting the sensor only accesses it. -/
theorem tcsStart_accesses : Steps OnlyAccesses tcsStart := by
  refine Steps.bind (tcsRead_accesses _ _) fun id => ?_
  rcases id with _ | id
  · exact Steps.pure _
  refine Steps.ite (Steps.pure _) ?_
  refine Steps.bind (tcsWrite_accesses _ _) fun _ => Steps.ite (Steps.pure _) ?_
  refine Steps.bind (tcsWrite_accesses _ _) fun _ => Steps.ite (Steps.pure _) ?_
  refine Steps.bind (tcsWrite_accesses _ _) fun _ => Steps.ite (Steps.pure _) ?_
  exact tcsWrite_accesses _ _

/-- Taking a reading only accesses it. -/
theorem tcsSample_accesses : Steps OnlyAccesses tcsSample := by
  refine Steps.bind (tcsRead_accesses _ _) fun status => ?_
  rcases status with _ | status
  · exact Steps.pure _
  refine Steps.ite (Steps.pure _) (Steps.bind (tcsRead_accesses _ _) fun d => ?_)
  rcases d with _ | d
  · exact Steps.pure _
  · exact Steps.pure _

/-- Reading a button is an access. -/
theorem gpioGet_accesses (pin : ℕ) : Steps OnlyAccesses (gpioGet pin) :=
  Steps.bind access_accesses fun _ => Steps.look fun _ => Steps.pure _

/-- Debouncing a button only reads it. -/
theorem pressed_accesses (n pin : ℕ) : Steps OnlyAccesses (pressed n pin) := by
  refine Steps.bind (gpioGet_accesses pin) fun _ => Steps.ite (Steps.pure _) ?_
  refine Steps.bind (gpioGet_accesses pin) fun _ => Steps.ite (Steps.pure _) ?_
  refine Steps.iterate (fun _ => ?_) n ()
  exact Steps.bind (gpioGet_accesses pin) fun _ => Steps.ite (Steps.pure _) (Steps.pure _)

/-- The live display only accesses the sensor. -/
theorem live_accesses : Steps OnlyAccesses live := by
  refine Steps.bind access_accesses fun _ => Steps.look fun s => Steps.ite ?_ (Steps.pure _)
  refine Steps.bind tcsSample_accesses fun _ => Steps.modify fun _ => ?_
  exact ⟨rfl, le_refl _, rfl, rfl, rfl, rfl⟩

variable {J : Calib → Prop}

/-- A transfer takes the next number. -/
theorem transfer_spec (s₀ : Calib) (sent : List UInt8) :
    Triple J (fun s => s = s₀) (transfer sent) fun t s =>
      t = s₀.outside.transfers s₀.tick sent ∧ s = { s₀ with tick := s₀.tick + 1 } := by
  rintro s rfl
  exact ⟨rfl, rfl⟩

/-- What was read is the answer to the second transfer. -/
theorem tcsRead_spec (s₀ : Calib) (reg : UInt8) (len : ℕ) :
    Triple J (fun s => s = s₀) (tcsRead reg len) fun d s =>
      ∀ data, d = some data → s = { s₀ with tick := s₀.tick + 2 } ∧
        (s₀.outside.transfers (s₀.tick + 1) []).result = len ∧
        data = (s₀.outside.transfers (s₀.tick + 1) []).data := by
  have hnone (t : Calib) : Triple J (fun s => s = t)
      (do countError; return none : Cmd Calib (Option (ℕ → UInt8))) fun d s =>
      ∀ data, d = some data → s = { s₀ with tick := s₀.tick + 2 } ∧
        (s₀.outside.transfers (s₀.tick + 1) []).result = len ∧
        data = (s₀.outside.transfers (s₀.tick + 1) []).data := by
    rintro s -
    exact fun _ h => absurd h (by simp)
  refine Triple.bind (transfer_spec s₀ _) fun select => Triple.before (fun _ hs => hs.2) ?_
  refine Triple.ite (fun _ => hnone _) fun _ => ?_
  refine Triple.bind (transfer_spec _ _) fun t => Triple.ite (fun _ => ?_) fun hlen => ?_
  · exact Triple.before (fun _ hs => hs.2) (hnone _)
  rintro s ⟨rfl, rfl⟩ data hdata
  exact ⟨rfl, not_not.mp hlen, (Option.some.inj hdata).symm⟩

/-- A reading is that of the last access. -/
theorem tcsSample_spec (s₀ : Calib) :
    Triple J (fun s => s = s₀) tcsSample fun a s => ∀ rgbc, a = some rgbc →
      s.tick = s₀.tick + 4 ∧ Sensed s₀.outside (s.tick - 1, rgbc) := by
  refine Triple.bind (tcsRead_spec s₀ _ _) fun status => ?_
  rcases status with _ | status
  · exact Triple.pure _ fun _ _ rgbc h => absurd h (by simp)
  refine Triple.ite (fun _ => Triple.pure _ fun _ _ rgbc h => absurd h (by simp)) fun hvalid => ?_
  intro s hs
  obtain ⟨rfl, hone, rfl⟩ := hs status rfl
  refine Triple.bind (tcsRead_spec _ _ _) (fun d => ?_) _ rfl
  rcases d with _ | d
  · exact Triple.pure _ fun _ _ rgbc h => absurd h (by simp)
  rintro s hs rgbc hrgbc
  obtain ⟨rfl, height, rfl⟩ := hs d rfl
  exact ⟨rfl, s₀.tick, rfl, hone, hvalid, height, (Option.some.inj hrgbc).symm⟩

/-! ## Surfaces -/

/-- The statistics of a surface are those of its samples, which came after those of the surfaces
before. -/
structure Calib.Surface (s : Calib) (label : Label) : Prop where
  tallied : (s.results label).Of (readings s.samples label)
  sensed : ∀ p ∈ s.samples label, Sensed s.outside p
  past : ∀ p ∈ s.samples label, p.1 < s.tick
  latest : (s.samples label).Pairwise fun p q => q.1 < p.1
  ordered : ∀ i < label, ∀ p ∈ s.samples i, ∀ q ∈ s.samples label, p.1 < q.1

/-- The invariant of the main loop: the surfaces before `label` are captured. -/
structure Calib.Inv (s : Calib) : Prop where
  sound : s.Sound
  surfaces : ∀ i : Label, i.val < s.label.val → s.Surface i ∧ s.samples i ≠ []

/-- A surface is being captured: so far it may have no sample. -/
structure Calib.Capturing (s : Calib) (label : Label) : Prop where
  inv : s.Inv
  current : s.label = label.castSucc
  surface : s.Surface label

variable {s t : Calib} {label : Label}

/-- A surface does not depend on those after it. -/
theorem Calib.Surface.congr (h : s.Surface label) (houtside : t.outside = s.outside)
    (htick : s.tick ≤ t.tick) (hresults : t.results label = s.results label)
    (hsamples : ∀ i ≤ label, t.samples i = s.samples i) : t.Surface label := by
  have hself := hsamples label (le_refl label)
  constructor
  · rw [hresults, readings, hself]
    exact h.tallied
  · rw [houtside, hself]
    exact h.sensed
  · rw [hself]
    exact fun p hp => lt_of_lt_of_le (h.past p hp) htick
  · rw [hself]
    exact h.latest
  · intro i hi
    rw [hself, hsamples i (le_of_lt hi)]
    exact h.ordered i hi

/-- Accesses keep the invariant of the main loop. -/
theorem Calib.Inv.accesses (hst : OnlyAccesses s t) (h : s.Inv) : t.Inv where
  sound := by
    rw [Calib.Sound, hst.summaries, hst.outside]
    exact h.sound
  surfaces := by
    intro i hi
    rw [hst.label] at hi
    obtain ⟨hsurface, hne⟩ := h.surfaces i hi
    rw [hst.samples]
    exact ⟨hsurface.congr hst.outside hst.tick (by rw [hst.results]) (by simp [hst.samples]), hne⟩

/-- Accesses keep the invariant while a surface is being captured, too. -/
theorem Calib.Capturing.accesses (hst : OnlyAccesses s t) (h : s.Capturing label) :
    t.Capturing label where
  inv := h.inv.accesses hst
  current := hst.label.trans h.current
  surface :=
    h.surface.congr hst.outside hst.tick (by rw [hst.results]) (by simp [hst.samples])

/-- What is done to one surface leaves those before it alone. -/
theorem Calib.Inv.change (h : s.Inv) (hlabel : s.label = label.castSucc) (st : Stats)
    (samples : List Sample) :
    Calib.Inv { s with
      results := Function.update s.results label st
      samples := Function.update s.samples label samples } where
  sound := h.sound
  surfaces := by
    intro i hi
    have hlt : i < label := by
      rw [hlabel] at hi
      exact hi
    obtain ⟨hsurface, hne⟩ := h.surfaces i (by rw [hlabel]; exact hlt)
    have hother (j : Label) (hj : j ≤ i) :
        Function.update s.samples label samples j = s.samples j :=
      Function.update_of_ne (ne_of_lt (lt_of_le_of_lt hj hlt)) _ _
    refine ⟨hsurface.congr rfl (le_refl _) ?_ hother, ?_⟩
    · exact Function.update_of_ne (ne_of_lt hlt) _ _
    · intro hnil
      exact hne ((hother i (le_refl i)).symm.trans hnil)

/-- A surface is cleared before it is captured. -/
theorem Calib.Inv.clear (h : s.Inv) (hlabel : s.label = label.castSucc) :
    (s.clear label).Capturing label where
  inv := h.change hlabel _ _
  current := hlabel
  surface := by
    have hnil : (s.clear label).samples label = [] := Function.update_self ..
    have hfresh : (s.clear label).results label = .fresh := Function.update_self ..
    constructor
    · rw [hfresh, readings, hnil]
      exact Stats.Of.fresh
    all_goals simp [hnil]

/-- One more sample, taken after all others. -/
theorem Calib.Capturing.addSample (h : s.Capturing label) (hst : OnlyAccesses s t)
    (hfew : (s.results label).n < UInt32.ofNat samplesPerCapture) {rgbc : Rgbc}
    (htick : t.tick = s.tick + 4) (hsensed : Sensed t.outside (t.tick - 1, rgbc)) :
    (t.addSample label rgbc).Capturing label := by
  have ht := h.accesses hst
  refine ⟨ht.inv.change ht.current _ _, ht.current, ?_⟩
  have hself : (t.addSample label rgbc).samples label = (t.tick - 1, rgbc) :: t.samples label :=
    Function.update_self ..
  have hother (i : Label) (hi : i < label) : (t.addSample label rgbc).samples i = t.samples i :=
    Function.update_of_ne (ne_of_lt hi) _ _
  have hlater (i : Label) (hi : i ≤ label) : ∀ p ∈ t.samples i, p.1 < t.tick - 1 := by
    intro p hp
    rw [hst.samples] at hp
    have hpast : p.1 < s.tick := by
      rcases eq_or_lt_of_le hi with rfl | hi
      · exact h.surface.past p hp
      · exact (h.inv.surfaces i (by rw [h.current]; exact hi)).1.past p hp
    omega
  constructor
  · rw [readings, hself]
    show (Function.update t.results label ((t.results label).add rgbc) label).Of _
    rw [Function.update_self]
    refine ht.surface.tallied.add ?_ rgbc
    rw [← ht.surface.tallied.n, hst.results]
    exact hfew
  · rw [hself]
    exact List.forall_mem_cons.mpr ⟨hsensed, ht.surface.sensed⟩
  · rw [hself]
    refine List.forall_mem_cons.mpr ⟨?_, ht.surface.past⟩
    show t.tick - 1 < t.tick
    omega
  · rw [hself]
    exact List.pairwise_cons.mpr ⟨hlater label (le_refl _), ht.surface.latest⟩
  · intro i hi p hp
    rw [hother i hi] at hp
    rw [hself]
    exact List.forall_mem_cons.mpr ⟨hlater i (le_of_lt hi) p hp, ht.surface.ordered i hi p hp⟩

/-! ## Main loop -/

/-- Each reading of the loop is tallied, by induction on the attempts that are left. -/
theorem captureLoop_capturing (label : Label) (attempts : ℕ) :
    Triple Calib.Sound (·.Capturing label) (captureLoop label attempts) fun _ s =>
      s.Capturing label := by
  induction attempts with
  | zero => exact Triple.pure _ fun _ hs => hs
  | succ attempts ih =>
    refine Triple.look fun s₀ hs₀ => Triple.before (fun _ hs => hs.2) ?_
    refine Triple.ite (fun hfew => ?_) fun _ => Triple.pure _ fun s hs => hs ▸ hs₀
    have hsample : Triple Calib.Sound (fun s => s = s₀) tcsSample fun a s => OnlyAccesses s₀ s ∧
        ∀ rgbc, a = some rgbc → s.tick = s₀.tick + 4 ∧
          Sensed s₀.outside (s.tick - 1, rgbc) := by
      have haccesses : Triple Calib.Sound (OnlyAccesses s₀) tcsSample fun _ => OnlyAccesses s₀ :=
        tcsSample_accesses.triple (fun _ _ hst h => trans_of OnlyAccesses h hst)
          fun _ h => (hs₀.inv.accesses h).sound
      refine Triple.within (fun _ h => h.1) (Triple.and ?_ (tcsSample_spec (J := Calib.Sound) s₀))
      exact haccesses.before fun s hs => hs ▸ refl_of OnlyAccesses s₀
    refine Triple.bind hsample fun a => ?_
    rcases a with _ | rgbc
    · exact ih.before fun s hs => hs₀.accesses hs.1
    · refine Triple.bind (M := fun _ s => s.Capturing label) ?_ fun _ => ih
      rintro s ⟨hs, hrgbc⟩
      obtain ⟨htick, hsensed⟩ := hrgbc rgbc rfl
      exact hs₀.addSample hs hfew htick (hs.outside ▸ hsensed)

/-- A capture ends with the surface tallied. -/
theorem capture_capturing (label : Label) :
    Triple Calib.Sound (fun s => s.Inv ∧ s.label = label.castSucc) (capture label) fun _ s =>
      s.Capturing label := by
  refine Triple.bind (M := fun _ s => s.Capturing label) ?_ fun _ => captureLoop_capturing label _
  intro s hs
  exact hs.1.clear hs.2

/-- A surface that was captured, with the label behind it. -/
theorem Calib.Capturing.captured (h : s.Capturing label) (hn : (s.results label).n ≠ 0) :
    Calib.Inv { s with label := label.succ } where
  sound := h.inv.sound
  surfaces := by
    intro i hi
    have hle : i.val ≤ label.val := Nat.le_of_lt_succ hi
    rcases eq_or_lt_of_le hle with heq | hlt
    · obtain rfl := Fin.ext heq
      refine ⟨⟨h.surface.tallied, h.surface.sensed, h.surface.past, h.surface.latest,
        h.surface.ordered⟩, fun hnil => ?_⟩
      refine h.surface.tallied.n_ne.mp hn ?_
      rw [readings, hnil]
      rfl
    · obtain ⟨hsurface, hne⟩ := h.inv.surfaces i (by rw [h.current]; exact hlt)
      exact ⟨hsurface.congr rfl (le_refl _) rfl fun _ _ => rfl, hne⟩

/-- With all surfaces captured, the summary can be relied on. -/
theorem Calib.Inv.summarise (h : s.Inv) (hlast : s.label = Fin.last 8) : s.summarise.Inv where
  sound := by
    have hsurfaces (i : Label) : s.Surface i ∧ s.samples i ≠ [] :=
      h.surfaces i (by rw [hlast]; exact i.isLt)
    have hcaptured : Captured s.results (readings s.samples) := by
      intro i
      refine ⟨(hsurfaces i).1.tallied, fun hnil => (hsurfaces i).2 ?_⟩
      exact List.map_eq_nil_iff.mp hnil
    refine List.forall_mem_cons.mpr ⟨?_, h.sound⟩
    constructor
    · exact (printSummary_tells hcaptured).1
    · exact (printSummary_tells hcaptured).2
    · intro i
      have hmost := (hsurfaces i).1.tallied.atMost
      rw [readings, List.length_map] at hmost
      exact ⟨List.length_pos_iff.mpr (hsurfaces i).2, hmost⟩
    · exact fun i => (hsurfaces i).1.sensed
    · exact fun i => (hsurfaces i).1.latest
    · exact fun i j hij => (hsurfaces j).1.ordered i hij
  surfaces := by
    intro i hi
    obtain ⟨hsurface, hne⟩ := h.surfaces i hi
    exact ⟨hsurface.congr rfl (le_refl _) rfl fun _ _ => rfl, hne⟩

/-- A new round: nothing is captured. -/
theorem Calib.Inv.newRound (h : s.Inv) : s.newRound.Inv where
  sound := h.sound
  surfaces := fun _ hi => absurd hi (Nat.not_lt_zero _)

/-- The button that captures keeps the invariant, with a reading or without. -/
theorem onCapture_inv : Triple Calib.Sound Calib.Inv onCapture fun _ => Calib.Inv := by
  refine Triple.look fun s₀ _ => ?_
  split
  · rename_i h
    have hlabel : s₀.label = Fin.castSucc ⟨s₀.label, h⟩ := rfl
    revert hlabel
    generalize (⟨s₀.label, h⟩ : Label) = label
    intro hlabel
    refine Triple.bind ((capture_capturing label).before ?_) fun _ => ?_
    · rintro s ⟨hs, rfl⟩
      exact ⟨hs, hlabel⟩
    refine Triple.look fun s₁ _ => Triple.ite (fun hn => ?_) fun _ =>
      Triple.pure _ fun _ hs => hs.1.inv
    refine Triple.bind (M := fun _ s => s.Inv ∧ s.label = label.succ) ?_ fun _ => ?_
    · rintro s ⟨hs, rfl⟩
      exact ⟨hs.captured hn, rfl⟩
    refine Triple.ite (fun hlast => ?_) fun _ => Triple.pure _ fun _ hs => hs.1
    intro s hs
    exact hs.1.summarise (hs.2.trans hlast)
  · rintro s ⟨hs, -⟩
    exact hs.newRound

/-- Without the last surface. -/
theorem Calib.Inv.back (h : s.Inv) (hlabel : s.label = label.succ) :
    Calib.Inv { s.drop label with label := label.castSucc } where
  sound := h.sound
  surfaces := by
    intro i hi
    have hlt : i < label := hi
    obtain ⟨hsurface, hne⟩ := h.surfaces i (by rw [hlabel]; exact Nat.lt_succ_of_lt hlt)
    refine ⟨hsurface.congr rfl (le_refl _) ?_ fun _ _ => rfl, hne⟩
    exact Function.update_of_ne (ne_of_lt hlt) _ _

/-- The button that goes back keeps the invariant: the surface before is to be captured again. -/
theorem onBack_inv : Triple Calib.Sound Calib.Inv onBack fun _ => Calib.Inv := by
  refine Triple.look fun s₀ _ => ?_
  split
  · rename_i h
    rintro s ⟨hs, rfl⟩
    have hlabel : s.label = (s.label.pred h).succ := (Fin.succ_pred _ h).symm
    exact hs.back hlabel
  · exact Triple.pure _ fun _ hs => hs.1

/-- Accesses keep the invariant. -/
theorem accesses_inv {α : Type} {c : Cmd Calib α} (h : Steps OnlyAccesses c) :
    Triple Calib.Sound Calib.Inv c fun _ => Calib.Inv :=
  h.triple (fun _ _ hst hs => hs.accesses hst) fun _ hs => hs.sound

/-- Every round of the main loop keeps the invariant. -/
theorem round_inv (n : ℕ) : Triple Calib.Sound Calib.Inv (round n) fun _ => Calib.Inv := by
  have hback : Triple Calib.Sound Calib.Inv
      (pressed n backButton >>= fun back => if back = true then onBack >>= fun _ => live else live)
      fun _ => Calib.Inv := by
    refine Triple.bind (accesses_inv (pressed_accesses n backButton)) fun _ => ?_
    refine Triple.ite (fun _ => ?_) fun _ => accesses_inv live_accesses
    exact Triple.bind onBack_inv fun _ => accesses_inv live_accesses
  refine Triple.bind (accesses_inv (pressed_accesses n captureButton)) fun _ => ?_
  exact Triple.ite (fun _ => Triple.bind onCapture_inv fun _ => hback) fun _ => hback

/-- The invariant holds at the start, with nothing captured. -/
theorem start_inv (outside : Outside) : (Calib.start outside).Inv where
  sound := by simp [Calib.Sound, Calib.start]
  surfaces := fun i hi => absurd hi (Nat.not_lt_zero _)

/-- In every run of the program, every summary that was printed can be relied on. -/
theorem main_sound (outside : Outside) (n : ℕ) :
    wp (main n) (fun _ _ => False) Calib.Sound (.start outside) := by
  have hmain : Triple Calib.Sound Calib.Inv (main n) fun _ _ => False := by
    refine Triple.bind (M := fun _ => Calib.Inv) ?_ fun _ => ?_
    · refine Triple.iterate (I := fun _ => Calib.Inv) (fun _ _ hs => hs.sound) (fun _ => ?_) n ()
      refine Triple.bind (accesses_inv tcsStart_accesses) fun _ => ?_
      exact Triple.ite (fun _ => Triple.pure _ fun _ hs => hs) fun _ => Triple.pure _ fun _ hs => hs
    · refine Triple.iterate (I := fun _ => Calib.Inv) (fun _ _ hs => hs.sound) (fun _ => ?_) n ()
      exact Triple.bind (round_inv n) fun _ => Triple.pure _ fun _ hs => hs
  exact hmain _ (start_inv outside)

end Calibration
