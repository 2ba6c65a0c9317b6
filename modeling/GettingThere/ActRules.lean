/-
# When the report, the flash, the motors and the radio may be used

A line of the report may wait for USB, so it is written with the motors off; so is a page of the
flash, and while the radio is on neither a scan nor an attempt may be under way then.  Once the
sampler has failed, or an attempt was given up while it ran, nothing is powered and no attempt
is made any more, and the flash waits until the radio is off (`Act.Allowed`).

A robot is `Orderly` when all its acts were allowed and no failure was forgotten.  `Ordered R` adds
what is known of the radio, and is a condition that the functions of `motion.c` keep.
-/
import GettingThere.RunTriples

open CrashLogic

/-! ## The law -/

/-- **What an act needs of its moment.** -/
def Act.Allowed : Act → Moment → Prop
  | .line, m => ∀ pin, m.levels pin = 0
  | .power, m => m.samplerFailed = false ∧ m.attemptLost = false
  | .attempt, m => m.samplerFailed = false ∧ m.attemptLost = false
  | .flash, m => (∀ pin, m.levels pin = 0) ∧
      -- without the radio there is no scan and no attempt
      (m.radioOn = true → m.scanOpen = false ∧ m.attemptRunning = false ∧
        m.samplerFailed = false ∧ m.attemptLost = false)
  | .delivered, m => (∀ pin, m.levels pin = 0) ∧ m.attemptRunning = false

/-- A failure is still there at the later moment. -/
structure Moment.Lasting (earlier later : Moment) : Prop where
  sampler : earlier.samplerFailed = true → later.samplerFailed = true
  attempt : earlier.attemptLost = true → later.attemptLost = true

theorem Moment.Lasting.refl (m : Moment) : m.Lasting m := ⟨id, id⟩

theorem Moment.Lasting.trans {a b c : Moment} (h : a.Lasting b) (h' : b.Lasting c) : a.Lasting c :=
  ⟨fun hf => h'.sampler (h.sampler hf), fun hl => h'.attempt (h.attempt hl)⟩

/-- What is known of the radio and of the payload client. -/
structure RadioFlags where
  radioOn : Bool
  attemptRunning : Bool
  attemptLost : Bool

namespace RadioFlags

/-- Nothing is known. -/
def Any (_ : RadioFlags) : Prop := True

/-- No attempt was lost. -/
def Sound (f : RadioFlags) : Prop := f.attemptLost = false

/-- Nor is one running. -/
def Idle (f : RadioFlags) : Prop := f.attemptRunning = false ∧ f.attemptLost = false

/-- The radio is off. -/
def Down (f : RadioFlags) : Prop := f.radioOn = false

end RadioFlags

namespace Robot

/-- The flags of the radio. -/
def radio (s : Robot) : RadioFlags := ⟨s.radioOn, s.attemptRunning, s.attemptLost⟩

/-- **All acts were allowed**, and the failures there were have lasted. -/
structure Orderly (s : Robot) : Prop where
  allowed : ∀ e ∈ s.acts, e.1.Allowed e.2
  lasting : s.acts.Pairwise fun later earlier => earlier.2.Lasting later.2
  latest : ∀ e ∈ s.acts, e.2.Lasting s.moment

/-- The robot is orderly, and `R` is known of the radio. -/
def Ordered (R : RadioFlags → Prop) (s : Robot) : Prop := s.Orderly ∧ R s.radio

theorem Alike.radio_eq {s t : Robot} (h : Alike s t) : t.radio = s.radio := by
  unfold radio
  rw [h.radioOn, h.attemptRunning, h.attemptLost]

theorem orderly_powerOn (outside : Outside) (levels : Pin → ℕ) :
    (powerOn outside levels).Orderly := ⟨nofun, List.Pairwise.nil, nofun⟩

section Orderly

variable {s t : Robot} {R R' : RadioFlags → Prop} {K : Sampler → Prop}

/-- A robot with the same acts is orderly too, as long as no failure is forgotten. -/
theorem Orderly.of_lasting (h : s.Orderly) (hacts : t.acts = s.acts)
    (hlast : s.moment.Lasting t.moment) : t.Orderly where
  allowed := hacts ▸ h.allowed
  lasting := hacts ▸ h.lasting
  latest e he := (h.latest e (hacts ▸ he)).trans hlast

/-- **An act that is allowed.** -/
theorem Orderly.act (h : s.Orderly) {a : Act} (ha : a.Allowed s.moment) : (acted a s).Orderly where
  allowed e he := by
    rcases List.mem_cons.mp he with rfl | he
    · exact ha
    · exact h.allowed e he
  lasting := List.pairwise_cons.mpr ⟨h.latest, h.lasting⟩
  latest e he := by
    rcases List.mem_cons.mp he with rfl | he
    · exact Moment.Lasting.refl _
    · exact h.latest e he

/-- **Order is kept by the functions of `motion.c`.** -/
theorem discipline_ordered (R : RadioFlags → Prop) : Discipline Orderly (Ordered R) where
  safe _ h := h.1
  alike _ _ hst h := by
    refine ⟨h.1.of_lasting hst.acts ?_, ?_⟩
    · rw [hst.moment_eq]
      exact Moment.Lasting.refl _
    · exact hst.radio_eq ▸ h.2
  write _ _ _ h := ⟨h.1.of_lasting rfl ⟨id, id⟩, h.2⟩
  line _ hoff h := ⟨h.1.act (a := .line) hoff, h.2⟩
  gap _ _ h := ⟨h.1.of_lasting rfl ⟨id, id⟩, h.2⟩

/-- Power needs that nothing has failed. -/
theorem powers_ordered (hR : ∀ f, R f → f.Sound) (hK : ∀ q, K q → q.samplerFailed = false) :
    Powers (With (Ordered R) K) :=
  fun _ h => ⟨⟨h.1.1.act (a := .power) ⟨hK _ h.2, hR _ h.1.2⟩, h.1.2⟩, h.2⟩

theorem resets_ordered : Resets (With (Ordered R) K) :=
  fun _ h => ⟨⟨h.1.1.of_lasting rfl ⟨id, id⟩, h.1.2⟩, h.2⟩

/-- The sampler has not failed. -/
def Works (q : Sampler) : Prop := q.samplerFailed = false

/-- **Order is kept by the scans**: a sampler that has failed never works again. -/
theorem scanRules_ordered (R : RadioFlags → Prop) :
    ScanRules Orderly (Ordered R) Works Works where
  toDiscipline := discipline_ordered R
  sampler _ _ hfailed h := ⟨h.1.of_lasting rfl ⟨hfailed, id⟩, h.2⟩
  anew _ _ hworks _ hanew h :=
    ⟨⟨h.1.of_lasting rfl ⟨fun hf => absurd (hworks.symm.trans hf) (by decide), id⟩, h.2⟩, hanew⟩
  full _ _ _ _ h := ⟨h.1.of_lasting rfl ⟨id, id⟩, h.2⟩
  busy _ _ _ hfailed hworks := hfailed.trans hworks
  collected _ _ hfailed hworks := hfailed.trans hworks
  read _ _ hfailed hworks := hfailed.trans hworks
  flushed _ _ hfailed _ hworks := hfailed.trans hworks

/-- While the radio is off the flash may be written. -/
theorem flashes_down : Flashes (Ordered RadioFlags.Down) := fun s hoff h =>
  ⟨h.1.act (a := .flash) ⟨hoff, fun hon => absurd (h.2.symm.trans hon) (by decide)⟩, h.2⟩

/-- The radio is turned on or off. -/
theorem Ordered.turn (h : Ordered R s) (on : Bool)
    (hR : R s.radio → R' { s.radio with radioOn := on }) :
    Ordered R' { s with radioOn := on } := ⟨h.1.of_lasting rfl ⟨id, id⟩, hR h.2⟩

/-- An attempt starts or ends. -/
theorem Ordered.run (h : Ordered R s) (running : Bool)
    (hR : R s.radio → R' { s.radio with attemptRunning := running }) :
    Ordered R' { s with attemptRunning := running } := ⟨h.1.of_lasting rfl ⟨id, id⟩, hR h.2⟩

/-- A condition on the radio is dropped. -/
theorem Ordered.any (h : Ordered R s) : Ordered RadioFlags.Any s := ⟨h.1, trivial⟩

end Orderly

end Robot
