/-
# The journal under power cuts

A robot is switched on, hands runs to the journal and loses power at any point, any number
of times (`history`).  `Run` notes what was handed over, `SavedOne` is the promise: replay
shows the text of one run, up to a point, and calls it complete only when it is all there.

The invariant of the store (`Kept`) is that an active store has written exactly the text it
was handed, and that nothing is written while it is not active.
-/
import GettingThere.StoreCommands

namespace ReportStore

open CrashLogic TransferProtocol

/-! ## What was handed to the journal -/

/-- One run: the start page that was on the flash when its `report_store_begin` was called,
the text handed to `report_store_append`, the text of the calls that returned true, and
whether the run has ended, by `report_store_finish` or a loss of power. -/
structure Run where
  start : LogPage
  text : Bytes
  acked : Bytes
  ended : Bool

/-- The calls of the journal. -/
inductive StoreCall
  | begin
  | append (data : Bytes)
  | finish
  deriving DecidableEq, Repr

/-- More text for the latest run, unless it has ended. -/
def handOver (data : Bytes) : List Run → List Run
  | [] => []
  | r :: rs => (if r.ended then r else { r with text := r.text ++ data }) :: rs

/-- The latest run has had a call that returned true. -/
def acknowledge (data : Bytes) : List Run → List Run
  | [] => []
  | r :: rs => (if r.ended then r else { r with acked := r.acked ++ data }) :: rs

/-- The latest run has ended. -/
def endRun : List Run → List Run
  | [] => []
  | r :: rs => { r with ended := true } :: rs

/-- One call, with a note of what was handed over: the runs, the latest first. -/
def perform : StoreCall → Cmd (Sys × List Run) Unit
  | .begin => do
    modify fun x => (x.1, ⟨x.1.flash 0, [], [], false⟩ :: x.2)
    discard <| onFirst reportStoreBegin
  | .append data => do
    modify fun x => (x.1, handOver data x.2)
    let ok ← onFirst (reportStoreAppend data)
    if ok then modify fun x => (x.1, acknowledge data x.2)
  | .finish => do
    modify fun x => (x.1, endRun x.2)
    discard <| onFirst reportStoreFinish

/-- A list of calls. -/
def performAll : List StoreCall → Cmd (Sys × List Run) Unit
  | [] => pure ()
  | call :: calls => do
    perform call
    performAll calls

/-- What happens while the robot is switched on once. -/
structure Session where
  calls : List StoreCall
  outcomes : List Outcome
  arrivals : List (List Bytes)
  connected : List Bool

/-- The robot is switched on: the statics are cleared, and the flash is as it was. -/
def switchOn (x : Session) (s : Sys) : Sys :=
  reportInit { s with
    store := ⟨0, false⟩
    outcomes := x.outcomes
    arrivals := x.arrivals
    connected := x.connected }

/-- The robot is switched on, performs calls, and loses power at the end or on the way. -/
def session (x : Session) (s : Sys × List Run) : Sys × List Run :=
  (exec (performAll x.calls) (switchOn x s.1, endRun s.2)).2

/-- The run a flash of unknown history shows. -/
def foundRun (flash : Flash) : Run where
  start := flash 0
  text := (((savedRun flash).map Prod.fst).getD []).flatten
  acked := []
  ended := true

/-- Any number of sessions on a robot of unknown history. -/
def history (sessions : List Session) (s : Sys) : Sys × List Run :=
  sessions.foldl (fun s x => session x s) (s, [foundRun s.flash])

/-! ## The promise -/

/-- What replay emits belongs to one run `r`: it is a beginning of the text handed over in
that run, and complete only if it is all of it and the run has ended.  Either `r` is the
latest run, and every text whose call returned true is there; or no text of a later run has
been acknowledged, and the start page is still the one their erase found. -/
def SavedOne (runs : List Run) (flash : Flash) : Prop :=
  match savedRun flash with
  | none => ∀ r ∈ runs.head?, r.acked = []
  | some (pieces, complete) =>
    ∃ later r earlier, runs = later ++ r :: earlier ∧
      pieces.flatten <+: r.text ∧
      (complete = true → pieces.flatten = r.text ∧ (later = [] → r.ended = true)) ∧
      (later = [] → r.acked <+: pieces.flatten) ∧
      ∀ x ∈ later, x.acked = [] ∧ flash 0 = x.start

/-- What the journal keeps between two calls. -/
structure Kept (x : Sys × List Run) : Prop where
  saved : SavedOne x.2 x.1.flash
  active : x.1.store.active = true → ∃ r earlier pieces, x.2 = r :: earlier ∧
    Log pieces x.1.flash x.1.store.next ∧ pieces.flatten = r.text ∧ r.acked = r.text ∧
    r.ended = false

variable {s t : Sys} {runs earlier : List Run} {r : Run} {pieces : List Bytes}

/-! ## The runs on a flash -/

/-- The run on the flash is the latest one. -/
theorem savedOne_latest {complete : Bool} {flash : Flash}
    (hsaved : savedRun flash = some (pieces, complete)) (hpre : pieces.flatten <+: r.text)
    (hcomplete : complete = true → pieces.flatten = r.text ∧ r.ended = true)
    (hacked : r.acked <+: pieces.flatten) : SavedOne (r :: earlier) flash := by
  unfold SavedOne
  rw [hsaved]
  refine ⟨[], r, earlier, rfl, hpre, ?_, fun _ => hacked, nofun⟩
  intro hc
  exact ⟨(hcomplete hc).1, fun _ => (hcomplete hc).2⟩

/-- Nothing of the latest run is on the flash, and nothing of it is acknowledged. -/
theorem savedOne_none {flash : Flash} (hsaved : savedRun flash = none) (hacked : r.acked = []) :
    SavedOne (r :: earlier) flash := by
  unfold SavedOne
  rw [hsaved]
  intro x hx
  cases hx
  exact hacked

/-- The promise survives a new run whose erase has worn the pages. -/
theorem SavedOne.worn {old flash : Flash} (h : SavedOne earlier old) (hworn : Worn old flash)
    (hstart : r.start = old 0) (hacked : r.acked = []) : SavedOne (r :: earlier) flash := by
  cases hsaved : savedRun flash with
  | none => exact savedOne_none hsaved hacked
  | some found =>
    obtain ⟨pieces, complete⟩ := found
    obtain ⟨hsame, ⟨pieces', complete'⟩, hold, hpre, hcomplete⟩ := savedRun_worn hworn hsaved
    unfold SavedOne at h ⊢
    rw [hold] at h
    rw [hsaved]
    obtain ⟨later, x, before, rfl, htext, hall, -, hlater⟩ := h
    have hflat : pieces.flatten <+: pieces'.flatten := by
      obtain ⟨more, rfl⟩ := hpre
      rw [List.flatten_append]
      exact List.prefix_append _ _
    refine ⟨r :: later, x, before, rfl, hflat.trans htext, ?_, nofun, ?_⟩
    · intro hc
      obtain ⟨hc', hequal⟩ := hcomplete hc
      have hequal' : pieces = pieces' := hequal
      rw [hequal']
      exact ⟨(hall hc').1, nofun⟩
    · intro y hy
      rcases List.mem_cons.mp hy with rfl | hy
      · exact ⟨hacked, by rw [hsame, hstart]⟩
      · exact ⟨(hlater y hy).1, by rw [hsame]; exact (hlater y hy).2⟩

/-- The promise survives more text for a run that is not complete, or that has ended. -/
theorem SavedOne.head {r' : Run} {flash : Flash} (h : SavedOne (r :: earlier) flash)
    (htext : r.text <+: r'.text) (hended : r.ended = true → r'.text = r.text ∧ r'.ended = true)
    (hacked : r'.acked = r.acked) (hstart : r'.start = r.start) :
    SavedOne (r' :: earlier) flash := by
  unfold SavedOne at h ⊢
  split at h
  · rename_i hsaved
    intro x hx
    cases hx
    rw [hacked]
    exact h r rfl
  · rename_i pieces complete hsaved
    obtain ⟨later, x, before, hruns, hpre, hcomplete, hfirst, hlater⟩ := h
    cases later with
    | nil =>
      obtain ⟨rfl, rfl⟩ := List.cons.inj hruns
      refine ⟨[], r', earlier, rfl, hpre.trans htext, ?_, ?_, nofun⟩
      · intro hc
        obtain ⟨hall, hover⟩ := hcomplete hc
        obtain ⟨hsame, hover'⟩ := hended (hover rfl)
        exact ⟨hsame ▸ hall, fun _ => hover'⟩
      · intro _
        rw [hacked]
        exact hfirst rfl
    | cons y later =>
      obtain ⟨rfl, rfl⟩ := List.cons.inj hruns
      refine ⟨r' :: later, x, before, rfl, hpre, ?_, nofun, ?_⟩
      · intro hc
        exact ⟨(hcomplete hc).1, nofun⟩
      · intro z hz
        rcases List.mem_cons.mp hz with rfl | hz
        · obtain ⟨h₁, h₂⟩ := hlater r List.mem_cons_self
          exact ⟨hacked.trans h₁, by rw [hstart]; exact h₂⟩
        · exact hlater z (List.mem_cons_of_mem _ hz)

/-- A run that goes on with more text, or has ended. -/
theorem SavedOne.handOver {flash : Flash} (h : SavedOne runs flash) (data : Bytes) :
    SavedOne (handOver data runs) flash := by
  cases runs with
  | nil => exact h
  | cons r earlier =>
    rw [ReportStore.handOver]
    by_cases hended : r.ended = true
    · rw [if_pos hended]
      exact h
    · rw [if_neg hended]
      exact h.head (List.prefix_append _ _) (fun he => absurd he hended) rfl rfl

theorem SavedOne.endRun {flash : Flash} (h : SavedOne runs flash) :
    SavedOne (endRun runs) flash := by
  cases runs with
  | nil => exact h
  | cons r earlier => exact h.head (List.prefix_refl _) (fun _ => ⟨rfl, rfl⟩) rfl rfl

/-! ## The calls -/

/-- The promise, for a state with its notes. -/
def Promised (x : Sys × List Run) : Prop := SavedOne x.2 x.1.flash

theorem wp_begin (h : Kept (s, runs)) :
    wp (perform .begin) (fun _ x => Kept x) Promised (s, runs) := by
  unfold perform
  rw [wp_bind, wp_modify]
  refine wp_bind.mpr (wp_onFirst.mpr ?_)
  -- what a failed or interrupted begin leaves behind
  have left (t : Sys) (ht : (t.erased = s.erased ∧ Worn s.flash t.flash) ∨ Unstarted t.flash) :
      SavedOne (⟨s.flash 0, [], [], false⟩ :: runs) t.flash := by
    rcases ht with ⟨-, hworn⟩ | hnone | hempty
    · exact h.saved.worn hworn rfl rfl
    · exact savedOne_none hnone rfl
    · exact savedOne_latest hempty List.nil_prefix nofun List.nil_prefix
  refine wp_mono (wp_reportStoreBegin (F := .trivial) True.intro) ?_ ?_
  · rintro ok t ⟨-, hactive, -, hok⟩
    cases ok with
    | false =>
      refine ⟨left t hok, ?_⟩
      intro hon
      exact absurd (hactive.symm.trans hon) nofun
    | true =>
      obtain ⟨-, hlog⟩ := hok
      refine ⟨savedOne_latest (savedRun_log hlog) List.nil_prefix nofun List.nil_prefix, ?_⟩
      intro _
      exact ⟨_, runs, [], rfl, hlog, rfl, rfl, rfl⟩
  · rintro t ⟨-, ht⟩
    exact left t ht

theorem wp_append (data : Bytes) (h : Kept (s, runs)) :
    wp (perform (.append data)) (fun _ x => Kept x) Promised (s, runs) := by
  unfold perform
  rw [wp_bind, wp_modify]
  refine wp_bind.mpr (wp_onFirst.mpr ?_)
  unfold reportStoreAppend
  rw [wp_bind, wp_get]
  by_cases hactive : s.store.active = true
  · obtain ⟨r, earlier, pieces, rfl, hlog, hflat, hacked, hended⟩ := h.active hactive
    have hrun : handOver data (r :: earlier) = { r with text := r.text ++ data } :: earlier := by
      rw [handOver, hended, if_neg (by decide)]
    -- a beginning of the new text is on the flash
    have partly (t : Sys) (ht : Holds pieces data t.flash) :
        SavedOne ({ r with text := r.text ++ data } :: earlier) t.flash := by
      obtain ⟨more, hsaved, hmore⟩ := ht
      refine savedOne_latest hsaved ?_ nofun ?_
      · rw [List.flatten_append, hflat]
        exact (List.prefix_append_right_inj _).mpr hmore
      · show r.acked <+: _
        rw [List.flatten_append, hflat, hacked]
        exact List.prefix_append _ _
    rw [hactive]
    simp only [Bool.not_true, Bool.false_eq_true, if_false, hrun]
    refine wp_mono (wp_appendPages (F := .trivial) (Nat.le_refl _) hlog True.intro) ?_ ?_
    · rintro ok t ⟨-, hholds, hok⟩
      cases ok with
      | false =>
        refine ⟨partly t hholds, ?_⟩
        intro hon
        exact absurd (hok.symm.trans hon) nofun
      | true =>
        obtain ⟨-, more, hlog', hmore⟩ := hok
        have htext : (pieces ++ more).flatten = r.text ++ data := by
          rw [List.flatten_append, hflat, hmore]
        have hack : acknowledge data ({ r with text := r.text ++ data } :: earlier) =
            { r with text := r.text ++ data, acked := r.acked ++ data } :: earlier := by
          rw [acknowledge, hended, if_neg (by decide)]
        rw [if_pos rfl, wp_modify, hack]
        refine ⟨savedOne_latest (savedRun_log hlog') ?_ nofun ?_, ?_⟩
        · rw [htext]
        · rw [htext, hacked]
        · intro _
          refine ⟨_, earlier, pieces ++ more, rfl, hlog', htext, ?_, hended⟩
          show r.acked ++ data = r.text ++ data
          rw [hacked]
    · rintro t ⟨-, hholds⟩
      exact partly t hholds
  · rw [Bool.not_eq_true] at hactive
    rw [hactive]
    refine ⟨h.saved.handOver data, ?_⟩
    intro hon
    exact absurd (hactive.symm.trans hon) nofun

theorem wp_finish (h : Kept (s, runs)) :
    wp (perform .finish) (fun _ x => Kept x) Promised (s, runs) := by
  unfold perform
  rw [wp_bind, wp_modify]
  refine wp_bind.mpr (wp_onFirst.mpr ?_)
  by_cases hactive : s.store.active = true
  · obtain ⟨r, earlier, pieces, rfl, hlog, hflat, hacked, hended⟩ := h.active hactive
    have ends (t : Sys) {complete : Bool} (ht : savedRun t.flash = some (pieces, complete)) :
        SavedOne (endRun (r :: earlier)) t.flash := by
      refine savedOne_latest ht ?_ (fun _ => ⟨hflat, rfl⟩) ?_
      · rw [hflat]
      · show r.acked <+: _
        rw [hflat, hacked]
    refine wp_mono (wp_reportStoreFinish (F := .trivial) hactive hlog True.intro) ?_ ?_
    · rintro ok t ⟨-, hoff, complete, hsaved, -⟩
      refine ⟨ends t hsaved, ?_⟩
      intro hon
      exact absurd (hoff.symm.trans hon) nofun
    · rintro t ⟨-, complete, hsaved⟩
      exact ends t hsaved
  · rw [Bool.not_eq_true] at hactive
    unfold reportStoreFinish
    rw [wp_bind, wp_get, hactive]
    refine ⟨h.saved.endRun, ?_⟩
    intro hon
    exact absurd (hactive.symm.trans hon) nofun

/-- **Every call** keeps the invariant, and the promise holds wherever it is cut off. -/
theorem wp_perform (call : StoreCall) (h : Kept (s, runs)) :
    wp (perform call) (fun _ x => Kept x) Promised (s, runs) := by
  cases call with
  | begin => exact wp_begin h
  | append data => exact wp_append data h
  | finish => exact wp_finish h

theorem wp_performAll (calls : List StoreCall) (x : Sys × List Run) (h : Kept x) :
    wp (performAll calls) (fun _ x => Kept x) Promised x := by
  induction calls generalizing x with
  | nil => exact h
  | cons call calls ih =>
    unfold performAll
    rw [wp_bind]
    exact wp_mono (wp_perform call h) (fun _ y hy => ih y hy) fun y hy => hy

/-! ## Every history -/

/-- Switching the robot on starts from the promise. -/
theorem kept_switchOn (x : Session) {y : Sys × List Run} (h : Promised y) :
    Kept (switchOn x y.1, endRun y.2) :=
  ⟨SavedOne.endRun h, nofun⟩

/-- A session keeps the promise. -/
theorem promised_session (x : Session) {y : Sys × List Run} (h : Promised y) :
    Promised (session x y) :=
  always (wp_mono (wp_performAll x.calls _ (kept_switchOn x h)) (fun _ _ hz => hz.saved)
    fun _ hz => hz)

/-- A flash of unknown history shows the run it shows. -/
theorem promised_found (s : Sys) : Promised (s, [foundRun s.flash]) := by
  unfold Promised SavedOne
  cases hsaved : savedRun s.flash with
  | none =>
    rintro r hr
    cases hr
    rfl
  | some found =>
    have htext : (foundRun s.flash).text = found.1.flatten := by
      rw [foundRun, hsaved]
      rfl
    refine ⟨[], foundRun s.flash, [], rfl, ?_, fun _ => ⟨htext.symm, fun _ => rfl⟩, ?_, nofun⟩
    · rw [htext]
    · exact fun _ => List.nil_prefix

/-- Every session keeps the promise. -/
theorem promised_history (sessions : List Session) (s : Sys) : Promised (history sessions s) := by
  have hrun : ∀ (sessions : List Session) (x : Sys × List Run), Promised x →
      Promised (sessions.foldl (fun x session' => session session' x) x) := by
    intro sessions
    induction sessions with
    | nil => exact fun x hx => hx
    | cons x sessions ih => exact fun y hy => ih _ (promised_session x hy)
  exact hrun sessions _ (promised_found s)

/-- **Power cuts and run isolation**: whatever the flash held, whatever is handed to the
journal, and wherever power is lost, replay shows a beginning of one run. -/
theorem history_savedOne (sessions : List Session) (s : Sys) :
    SavedOne (history sessions s).2 (history sessions s).1.flash :=
  promised_history sessions s

/-! ## A first run -/

/-- A run begins, and two letters are stored; the flash does what it is told. -/
def firstRun : Session := ⟨[.begin, .append (ascii "ok")], List.replicate 131 .done, [], []⟩

end ReportStore
