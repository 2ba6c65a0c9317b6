/-
# What a run does besides moving

The report, the colour sensor and the start of the radio only write lines and pages of the log
(`Logs`); a condition of `motion.c` which allows that is kept by them.  A condition that is to hold
at every stop allows power too, and it depends neither on the count of the recovered gaps nor on
the radio (`Regime`); it is kept by all that `main` does before the radio is shut down, but for the
sampler and the payload client.

An attempt of the payload client leads from one condition to another one while it runs, and back
unless it is given up (`Runs`, `Attempts`).
-/
import GettingThere.MainRun
import GettingThere.ScanTriples

open CrashLogic

namespace Robot

/-! ## Lines and pages -/

/-- The states are alike but for lines of the report and pages of the flash, all of this moment. -/
structure Logs (s t : Robot) : Prop where
  alike : Alike s { t with acts := s.acts }
  acts : ∃ written : List Act, (∀ a ∈ written, a = .line ∨ a = .flash) ∧
    t.acts = written.map (·, s.moment) ++ s.acts

/-- Nothing that a moment tells has changed. -/
theorem Alike.moment_eq {s t : Robot} (h : Alike s t) : t.moment = s.moment := by
  unfold moment
  rw [h.levels, h.radioOn, h.sampler, h.attemptRunning, h.attemptLost]

/-- Nothing written is a way to write lines and pages. -/
theorem Alike.logs {s t : Robot} (h : Alike s t) : Logs s t where
  alike := ⟨h.outside, h.levels, rfl, h.movingRecoveries, h.sampler, h.radioOn, h.attemptRunning,
    h.attemptLost, h.profile⟩
  acts := ⟨[], nofun, h.acts⟩

/-- Writing lines and pages changes nothing that a moment tells. -/
theorem Logs.moment_eq {s t : Robot} (h : Logs s t) : t.moment = s.moment := h.alike.moment_eq

instance : IsPreorder Robot Logs where
  refl s := Alike.logs (refl_of Alike s)
  trans s t u h h' := by
    obtain ⟨first, hfirst, hacts⟩ := h.acts
    obtain ⟨second, hsecond, hacts'⟩ := h'.acts
    refine ⟨?_, second ++ first, ?_, ?_⟩
    · exact ⟨h'.alike.outside.trans h.alike.outside, h'.alike.levels.trans h.alike.levels, rfl,
        h'.alike.movingRecoveries.trans h.alike.movingRecoveries,
        h'.alike.sampler.trans h.alike.sampler, h'.alike.radioOn.trans h.alike.radioOn,
        h'.alike.attemptRunning.trans h.alike.attemptRunning,
        h'.alike.attemptLost.trans h.alike.attemptLost,
        fun hf => h.alike.profile (h'.alike.profile hf)⟩
    · intro a ha
      exact (List.mem_append.mp ha).elim (hsecond a) (hfirst a)
    · rw [hacts', hacts, h.moment_eq, List.map_append, List.append_assoc]

/-- Neutral commands write nothing. -/
theorem Neutral.logs {α : Type} {c : Cmd Robot α} (hc : Neutral c) : Steps Logs c :=
  hc.mono fun _ _ h => h.logs

/-- An act that may be written. -/
theorem logs_act {a : Act} (ha : a = .line ∨ a = .flash) : Steps Logs (act a) := by
  intro s
  refine ⟨⟨rfl, rfl, rfl, rfl, rfl, rfl, rfl, rfl, id⟩, [a], ?_, rfl⟩
  intro b hb
  rw [List.mem_singleton.mp hb]
  exact ha

/-- A line of the report writes one line. -/
theorem logs_reportPrintf : Steps Logs reportPrintf := logs_act (.inl rfl)

/-- Several lines of the report write as many. -/
theorem logs_reportLines (n : ℕ) : Steps Logs (reportLines n) := by
  induction n with
  | zero => exact Steps.pure _
  | succ n ih => exact logs_reportPrintf.bind fun _ => ih

/-- The condition allows the flash while the motors are off. -/
def Flashes (B : Robot → Prop) : Prop := ∀ s, s.Off → B s → B (acted .flash s)

/-- **Lines and pages** are written with the motors off. -/
theorem Discipline.logs {α : Type} {J B : Robot → Prop} (hB : Discipline J B) (hflash : Flashes B)
    {c : Cmd Robot α} (hc : Steps Logs c) : Triple J (Held B True) c fun _ => Held B True := by
  have hwritten {s : Robot} (hoff : s.Off) (hs : B s) (written : List Act)
      (hw : ∀ a ∈ written, a = .line ∨ a = .flash) :
      B { s with acts := written.map (·, s.moment) ++ s.acts } := by
    induction written with
    | nil => exact hs
    | cons a written ih =>
      let t : Robot := { s with acts := written.map (·, s.moment) ++ s.acts }
      have hrest : B t := ih fun b hb => hw b (List.mem_cons_of_mem _ hb)
      obtain rfl | rfl := hw a List.mem_cons_self
      · exact hB.line t hoff hrest
      · exact hflash t hoff hrest
  refine hc.triple (fun s t hst h => ?_) fun s h => hB.safe s h.base
  obtain ⟨written, hw, hacts⟩ := hst.acts
  have halike := hst.alike
  refine ⟨hB.alike _ t ?_ (hwritten (h.off trivial) h.base written hw), fun _ pin => ?_⟩
  · exact ⟨halike.outside, halike.levels, hacts, halike.movingRecoveries, halike.sampler,
      halike.radioOn, halike.attemptRunning, halike.attemptLost, halike.profile⟩
  · rw [show t.levels = s.levels from halike.levels]
    exact h.off trivial pin

/-- **A condition that a run keeps** at its stops, until the radio is shut down. -/
structure Regime (J B : Robot → Prop) : Prop extends Discipline J B where
  powers : Powers B
  resets : Resets B
  flashes : Flashes B
  radio : ∀ s on, B s → B { s with radioOn := on }

/-- What is written in a run. -/
theorem Regime.logs {α : Type} {J B : Robot → Prop} (hB : Regime J B) {c : Cmd Robot α}
    (hc : Steps Logs c) : Triple J (Held B True) c fun _ => Held B True :=
  hB.toDiscipline.logs hB.flashes hc

/-- **The conditions of an attempt**: `B` before it and after it, and `R` while it runs. -/
structure Runs (B R : Robot → Prop) : Prop where
  starts : ∀ s, B s → R { acted .attempt s with attemptRunning := true }
  ends : ∀ s, R s → B { s with attemptRunning := false }

/-- `B` is left by an attempt that is over, and `L` in any case. -/
structure Attempts (B R L : Robot → Prop) : Prop extends Runs B R where
  delivers : ∀ s, s.Off → B s → B (acted .delivered s)
  leaves : ∀ s lost, B s ∨ R s → L { s with attemptLost := s.attemptLost || lost }

/-! ## Conditions on the build, the gaps and the faults -/

/-- A condition that depends on the build, the number of recovered gaps and the faults only, and
allows the two gaps of a run. -/
structure GapCount (B : Robot → Prop) : Prop where
  same : ∀ s t, t.outside = s.outside → t.movingRecoveries = s.movingRecoveries →
    (Fault.profile ∈ t.faults → Fault.profile ∈ s.faults) → B s → B t
  gap : ∀ s, s.movingRecoveries < 2 → B s →
    B { s with movingRecoveries := s.movingRecoveries + 1 }
  reset : ∀ s, B s → B { s with movingRecoveries := 0 }

/-- The sampler has no records. -/
def Flushed (q : Sampler) : Prop := q.recordCount = 0

/-- The default build, with two recovered gaps at most. -/
structure Default (s : Robot) : Prop where
  stationary : s.outside.movingSamples = false
  gaps : s.movingRecoveries ≤ 2

/-- No profile was found full. -/
structure Clean (s : Robot) : Prop extends Default s where
  faults : Fault.profile ∉ s.faults

/-- The default build is a condition on the gaps and the build. -/
theorem gapCount_default : GapCount Default where
  same _ _ houtside hgaps _ h := ⟨houtside ▸ h.stationary, hgaps ▸ h.gaps⟩
  gap _ hfew h := ⟨h.stationary, hfew⟩
  reset _ h := ⟨h.stationary, Nat.zero_le 2⟩

/-- That no profile was found full is such a condition, too. -/
theorem gapCount_clean : GapCount Clean where
  same s t houtside hgaps hfaults h :=
    ⟨gapCount_default.same s t houtside hgaps hfaults h.toDefault, fun hf => h.faults (hfaults hf)⟩
  gap s hfew h := ⟨gapCount_default.gap s hfew h.toDefault, h.faults⟩
  reset s h := ⟨gapCount_default.reset s h.toDefault, h.faults⟩

namespace GapCount

variable {B : Robot → Prop} (hB : GapCount B)
include hB

/-- Such a condition is kept by everything `motion.c` does. -/
theorem discipline : Discipline B B where
  safe _ h := h
  alike s t hst h := hB.same s t hst.outside hst.movingRecoveries hst.profile h
  write s _ _ h := hB.same s _ rfl rfl id h
  line s _ h := hB.same s _ rfl rfl id h
  gap := hB.gap

/-- Such a condition is kept by pages of the flash. -/
theorem flashes : Flashes B := fun s _ h => hB.same s _ rfl rfl id h

/-- With any condition on the sampler it is kept by a run at its stops. -/
theorem regime (K : Sampler → Prop) : Regime B (With B K) where
  toDiscipline := hB.discipline.with K
  powers s h := ⟨hB.same s _ rfl rfl id h.1, h.2⟩
  resets s h := ⟨hB.reset s h.1, h.2⟩
  flashes s _ h := ⟨hB.same s _ rfl rfl id h.1, h.2⟩
  radio s _ h := ⟨hB.same s _ rfl rfl id h.1, h.2⟩

/-- While there are no records when a scan is collected, their buffer is not full. -/
theorem scanRules : ScanRules B B Flushed fun _ => True where
  toDiscipline := hB.discipline
  sampler s _ _ h := hB.same s _ rfl rfl id h
  anew s _ _ hcount _ h := ⟨hB.same s _ rfl rfl id h, hcount⟩
  full _ hq hfull := absurd (hq ▸ hfull) (by decide)
  busy _ _ hcount _ hq := hcount.trans hq
  collected _ _ _ _ := trivial
  read _ _ _ _ := trivial
  flushed _ _ _ hcount _ := hcount

/-- Such a condition holds before, during and after an attempt. -/
theorem attempts (K : Sampler → Prop) : Attempts (With B K) (With B K) B where
  starts s h := ⟨hB.same s _ rfl rfl id h.1, h.2⟩
  ends s h := ⟨hB.same s _ rfl rfl id h.1, h.2⟩
  delivers s _ h := ⟨hB.same s _ rfl rfl id h.1, h.2⟩
  leaves s _ h := hB.same s _ rfl rfl id (h.elim And.left And.left)

end GapCount

end Robot

namespace MainRun

open Robot

variable (w : Ambient)

/-- Asking the outside writes nothing. -/
theorem logs_consult {α : Type} (answer : ℕ → α) : Steps Logs (consult answer) :=
  (neutral_ask _).logs

/-- A line is written or not. -/
theorem logs_reportWhen (b : Bool) : Steps Logs (reportWhen b) :=
  Steps.ite logs_reportPrintf (Steps.pure _)

/-- Raising a fault writes nothing; only `FAULT_PROFILE` is of concern. -/
theorem logs_faultRaise {f : Fault} (hf : f ≠ .profile) : Steps Logs (Robot.faultRaise f) :=
  (neutral_faultRaise hf).logs

/-- Polling STOP writes nothing. -/
theorem logs_stopPressed : Steps Logs stopPressed := neutral_stopPressed.logs

/-- Reading the clock writes nothing. -/
theorem logs_nowMs : Steps Logs Robot.nowMs := neutral_nowMs.logs

/-- Sleeping writes nothing. -/
theorem logs_sleepMs : Steps Logs Robot.sleepMs := neutral_sleepMs.logs

/-! ## The report -/

/-- Flushing the USB queue writes nothing to the log. -/
theorem logs_flushUsb : Steps Logs reportFlushUsb := logs_reportPrintf

/-- Every page that is programmed is written. -/
theorem logs_programPages (n : ℕ) : Steps Logs (programPages w n) := by
  induction n with
  | zero => exact Steps.pure _
  | succ n ih =>
    exact (logs_act (.inr rfl)).bind fun _ => (logs_consult _).bind fun _ =>
      Steps.ite ih (Steps.pure _)

/-- A checkpoint writes pages only. -/
theorem logs_reportCheckpoint : Steps Logs (reportCheckpoint w) :=
  logs_flushUsb.bind fun _ => (logs_consult _).bind fun _ => (logs_programPages w _).bind fun _ =>
    Steps.ite (neutral_ask _).logs (Steps.pure _)

/-- Erasing sectors counts as writing the flash. -/
theorem logs_eraseSectors (n : ℕ) : Steps Logs (eraseSectors w n) := by
  induction n with
  | zero => exact Steps.pure _
  | succ n ih =>
    refine (logs_act (.inr rfl)).bind fun _ => (logs_consult _).bind fun _ => Steps.ite ?_ ?_
    · exact logs_reportPrintf.bind fun _ => Steps.pure _
    · exact logs_stopPressed.bind fun _ => logs_sleepMs.bind fun _ =>
        (logs_reportWhen _).bind fun _ => ih

/-- Beginning a report writes pages and lines only. -/
theorem logs_reportBegin : Steps Logs (reportBegin w) := by
  have herase : Steps Logs (reportFlashErase w) :=
    logs_reportPrintf.bind fun _ => logs_eraseSectors w _
  have hstore : Steps Logs (reportStoreBegin w) :=
    herase.bind fun _ => Steps.ite (logs_programPages w _) (Steps.pure _)
  refine hstore.bind fun _ => Steps.ite (logs_reportCheckpoint w) ?_
  exact logs_flushUsb.bind fun _ => Steps.pure _

/-- Finishing a report writes pages and lines only. -/
theorem logs_reportFinish : Steps Logs (reportFinish w) := by
  have hstore : Steps Logs (reportStoreFinish w) :=
    (logs_consult _).bind fun _ => Steps.ite (logs_programPages w _) (Steps.pure _)
  exact (logs_reportCheckpoint w).bind fun _ => Steps.ite hstore (Steps.pure _)

/-! ## Startup -/

/-- A fresh reading of the colour writes nothing. -/
theorem logs_readFresh : Steps Logs (readFresh w) := logs_sleepMs.bind fun _ => logs_consult _

/-- Waiting for START writes nothing to the log. -/
theorem logs_awaitStart : Steps Logs (awaitStart w) := by
  have hasked : Steps Logs (startAsked w) :=
    (logs_consult _).bind fun _ => Steps.ite (Steps.pure _) (logs_consult _)
  refine steps_loop (fun _ => logs_flushUsb.bind fun _ => hasked.bind fun _ => ?_) _
  exact Steps.ite (Steps.pure _) (logs_sleepMs.bind fun _ => Steps.pure _)

/-- Preparing the log writes pages and lines only. -/
theorem logs_prepareLog : Steps Logs (prepareLog w) := by
  refine logs_stopPressed.bind fun _ => Steps.ite (logs_reportPrintf.bind fun _ => Steps.pure _) ?_
  refine logs_reportPrintf.bind fun _ => (logs_reportBegin w).bind fun _ => ?_
  exact Steps.ite (Steps.pure _) <| (logs_faultRaise (by decide)).bind fun _ => Steps.pure _

/-- Waiting for the release of START writes lines only. -/
theorem logs_waitStartRelease : Steps Logs (waitStartRelease w) := by
  refine logs_reportPrintf.bind fun _ => logs_nowMs.bind fun start => Steps.bind ?_ fun _ => ?_
  · refine steps_loop (fun _ => (logs_consult _).bind fun _ => Steps.ite (Steps.pure _) ?_) _
    refine logs_stopPressed.bind fun _ => Steps.ite (Steps.pure _) (logs_nowMs.bind fun now => ?_)
    refine Steps.ite ((logs_faultRaise (by decide)).bind fun _ => ?_) ?_
    · exact logs_reportPrintf.bind fun _ => Steps.pure _
    · exact logs_sleepMs.bind fun _ => Steps.pure _
  · exact Steps.ite (Steps.pure _) (logs_stopPressed.bind fun _ => Steps.pure _)

/-- Setting up the colour sensor writes lines only. -/
theorem logs_colourSensorInit : Steps Logs (colourSensorInit w) := by
  refine (logs_consult _).bind fun _ => Steps.ite (logs_reportPrintf.bind fun _ => Steps.pure _) ?_
  refine logs_sleepMs.bind fun _ => (logs_consult _).bind fun _ => ?_
  exact logs_reportPrintf.bind fun _ => Steps.pure _

/-- Waiting for Bluetooth writes lines only. -/
theorem logs_awaitBluetooth (start : UInt32) : Steps Logs (awaitBluetooth w start) := by
  have hpending : Steps Logs (bluetoothPending w start) := by
    refine (logs_consult _).bind fun _ => Steps.ite (Steps.pure _) ?_
    refine (logs_consult _).bind fun _ => ?_
    refine Steps.ite (Steps.pure _) (logs_stopPressed.bind fun _ => Steps.ite (Steps.pure _) ?_)
    exact logs_nowMs.bind fun _ => Steps.pure _
  have hprogress (last : UInt32) : Steps Logs (reportProgress last) :=
    logs_nowMs.bind fun _ => Steps.ite (Steps.pure _) (logs_reportPrintf.bind fun _ => logs_nowMs)
  refine steps_loop (fun last => hpending.bind fun _ => Steps.ite (Steps.pure _) ?_) _
  exact logs_flushUsb.bind fun _ => (hprogress _).bind fun _ =>
    logs_sleepMs.bind fun _ => Steps.pure _

/-- Asking whether Bluetooth is up writes nothing to the log. -/
theorem logs_bluetoothUp : Steps Logs (bluetoothUp w) := by
  refine (logs_consult _).bind fun _ => Steps.ite (Steps.pure _) ?_
  refine (logs_consult _).bind fun _ => ?_
  exact Steps.ite (Steps.pure _) (logs_stopPressed.bind fun _ => Steps.pure _)

/-- A radio that did not come up leaves a line behind. -/
theorem logs_failBluetooth : Steps Logs failBluetooth := by
  have hend : Steps Logs (do let _ ← stopPressed; reportPrintf) :=
    logs_stopPressed.bind fun _ => logs_reportPrintf
  refine logs_stopPressed.bind fun _ => Steps.ite ?_ hend
  exact (logs_faultRaise (by decide)).bind fun _ => hend

/-- Every fault is a line of the report. -/
theorem logs_reportFaults : Steps Logs reportFaults :=
  logs_reportPrintf.bind fun _ => Steps.look fun _ => logs_reportLines _

/-! ## A payload attempt -/

section Attempt

/-- Asking the outside is neutral. -/
theorem neutral_consult {α : Type} (answer : ℕ → α) : Neutral (consult answer) := neutral_ask _

/-- The entry tests of an attempt are neutral. -/
theorem neutral_attemptRefused (reconnect : Bool) : Neutral (attemptRefused w reconnect) := by
  refine (neutral_consult _).bind fun _ => Steps.ite (Steps.pure _) (Steps.look fun s => ?_)
  refine Steps.ite (Steps.pure _) (neutral_stopPressed.bind fun _ => Steps.ite (Steps.pure _) ?_)
  exact (neutral_consult _).bind fun _ => Steps.pure _

/-- Asking for an abort is neutral. -/
theorem neutral_abortStarted (start elapsed : UInt32) (aborted : Option UInt32) :
    Neutral (abortStarted w start elapsed aborted) := by
  have hdue : Neutral (abortDue w start elapsed) := by
    refine (neutral_consult _).bind fun _ => neutral_stopPressed.bind fun _ => ?_
    refine Steps.ite (Steps.pure _) (Steps.ite (Steps.pure _) ?_)
    exact neutral_nowMs.bind fun _ => Steps.pure _
  cases aborted with
  | some aborted => exact Steps.pure _
  | none =>
    exact hdue.bind fun _ => Steps.ite (neutral_nowMs.bind fun _ => Steps.pure _) (Steps.pure _)

/-- Finding an abort overdue is neutral. -/
theorem neutral_abortOverdue (aborted : Option UInt32) : Neutral (abortOverdue aborted) := by
  cases aborted with
  | none => exact Steps.pure _
  | some aborted => exact neutral_nowMs.bind fun _ => Steps.pure _

variable {J B R L : Robot → Prop} (hB : Discipline J B) (hR : Discipline J R)

section Runs

variable (hrules : Runs B R)
include hB hR hrules

/-- **A round of an attempt**: the attempt is over, or it runs, whether or not it is given up. -/
theorem triple_attemptRound (start : UInt32) (aborted : Option UInt32) :
    Triple J (Held R True) (attemptRound w start aborted) fun r s =>
      r.elim (fun _ => Held R True s) fun e => s.Off ∧ (B s ∨ R s ∧ e.result = .fatal) := by
  let Q (r : Option UInt32 ⊕ AttemptEnd) (s : Robot) : Prop :=
    r.elim (fun _ => Held R True s) fun e => s.Off ∧ (B s ∨ R s ∧ e.result = .fatal)
  have hgiveUp : Triple J (Held R True) (do return .inr (← giveUpAttempt)) Q := by
    intro s hs
    have hraise : Neutral (Robot.faultRaise .bleRadio) := neutral_faultRaise (by decide)
    have h := hR.held (hraise s) hs
    exact ⟨h.off trivial, .inr ⟨h.base, rfl⟩⟩
  refine hR.andThen (neutral_consult _) fun runs => Triple.ite (fun _ => ?_) fun _ => ?_
  · -- the attempt has ended
    have hend : Triple J (Held R True) (modify fun s => { s with attemptRunning := false })
        fun _ => Held B True := fun s h => ⟨hrules.ends s h.base, h.off⟩
    have hreturns : Neutral (attemptReturns w) := neutral_stopPressed.bind fun _ =>
      Steps.ite (Steps.pure _) ((neutral_consult _).bind fun _ => Steps.pure _)
    refine hend.bind fun _ => hB.andThen hreturns fun e => Triple.pure _ fun s h => ?_
    exact ⟨h.off trivial, .inl h.base⟩
  refine hR.afterLine (hR.andThen neutral_nowMs fun now => hR.andThen (neutral_consult _) ?_)
  intro phaseStarted
  have hover : Neutral (cleanupOverdue w (now - phaseStarted)) :=
    (neutral_consult _).bind fun _ => Steps.pure _
  refine hR.andThen hover fun _ => Triple.ite (fun _ => hgiveUp) fun _ => ?_
  refine hR.andThen (neutral_abortStarted w _ _ _) fun aborted => ?_
  refine hR.andThen (neutral_abortOverdue aborted) fun _ => Triple.ite (fun _ => hgiveUp) ?_
  intro _
  exact hR.andThen neutral_sleepMs fun _ => Triple.pure _ fun s h => h

/-- An attempt ends with the motors off; it has left its condition if it was given up as fatal. -/
theorem triple_beginAttempt (reconnect : Bool) :
    Triple J (Held B True) (beginAttempt w reconnect) fun e s =>
      s.Off ∧ (B s ∨ R s ∧ e.result = .fatal) := by
  refine hB.andThen (neutral_attemptRefused w reconnect) fun _ => Triple.ite (fun _ => ?_) ?_
  · exact triple_look fun s _ => Triple.pure _ fun t h => ⟨h.off trivial, .inl h.base⟩
  intro _
  have hstart : Triple J (Held B True) (do
      act .attempt
      modify fun s => { s with attemptRunning := true }) fun _ => Held R True :=
    fun s h => ⟨hrules.starts s h.base, h.off⟩
  have hloop (start : UInt32) : Triple J (Held R True) (loop (attemptRound w start) none)
      fun e s => s.Off ∧ (B s ∨ R s ∧ e.result = .fatal) :=
    triple_loop (I := fun _ => Held R True) (fun _ s h => hR.safe s h.base)
      (triple_attemptRound w hB hR hrules start) none
  have hrun := hstart.bind fun _ => hR.andThen neutral_nowMs hloop
  simpa only [bind_assoc] using hrun

end Runs

include hB hR in
/-- **An attempt** that does not end fatally is over. -/
theorem triple_runAttempt (hrules : Attempts B R L) (reconnect : Bool) :
    Triple J (Held B True) (runAttempt w reconnect) fun e s =>
      Held L True s ∧ (e.result ≠ .fatal → Held B True s) := by
  refine (cuts_motionStop hB).andThen fun _ => ?_
  refine (triple_beginAttempt w hB hR hrules.toRuns reconnect).bind fun e => ?_
  have hnote : Triple J (fun s => s.Off ∧ (B s ∨ R s ∧ e.result = .fatal)) (noteDelivered e)
      fun _ s => s.Off ∧ (B s ∨ R s ∧ e.result = .fatal) := by
    refine Triple.ite (fun hdone => ?_) fun _ => Triple.pure _ fun _ h => h
    rintro s ⟨hoff, hs⟩
    have hbase : B s := hs.resolve_right fun h => nomatch hdone.symm.trans h.2
    exact ⟨hoff, .inl (hrules.delivers s hoff hbase)⟩
  refine hnote.bind ?_
  rintro _ s ⟨hoff, hs⟩
  refine ⟨⟨hrules.leaves s _ (hs.imp_right And.left), fun _ => hoff⟩, fun hresult => ?_⟩
  have hbase : B s := hs.resolve_right fun h => hresult h.2
  refine ⟨hB.alike s _ ⟨rfl, rfl, rfl, rfl, rfl, rfl, rfl, ?_, id⟩ hbase, fun _ => hoff⟩
  -- an attempt that does not end fatally has been cleaned up
  change (s.attemptLost || e.running) = s.attemptLost
  rw [e.cleaned hresult, Bool.or_false]

end Attempt

/-! ## The parts of `main` -/

section Parts

variable {J B L S : Robot → Prop} {p : Prop}

/-- **Before the log** the motors are turned off. -/
theorem triple_powerUp (hB : Regime J B) :
    Triple J (Held B False) (powerUp w) fun _ => Held B True := by
  refine (cuts_motionInit hB.toDiscipline hB.resets).andThen fun ready => hB.logs ?_
  refine logs_sleepMs.bind fun _ => (logs_reportLines _).bind fun _ => (logs_awaitStart w).bind ?_
  exact fun _ => neutral_motionArmStop.logs.bind fun _ => Steps.pure _

/-- Waiting for the release of START keeps the conditions. -/
theorem triple_awaitRelease (hB : Regime J B) (ready recording : Bool) :
    Triple J (Held B True) (awaitRelease w ready recording) fun _ => Held B True := by
  have hretry : Triple J (Held B True) (retryImu ready) fun _ => Held B True :=
    Triple.ite (fun _ => triple_return _) fun _ => (hB.logs logs_reportPrintf).bind fun _ =>
      cuts_motionInit hB.toDiscipline hB.resets True
  refine Triple.ite (fun _ => triple_return _) fun _ => ?_
  refine (hB.logs (logs_waitStartRelease w)).bind fun _ => Triple.ite (fun _ => triple_return _) ?_
  refine fun _ => (hB.logs logs_reportPrintf).bind fun _ => hretry.bind fun _ => ?_
  refine Triple.ite (fun _ => triple_return _) fun _ => hB.logs ?_
  exact logs_stopPressed.bind fun _ => Steps.pure _

/-- The calibration keeps the conditions. -/
theorem triple_calibrate (hB : Regime J B) :
    Triple J (Held B True) calibrate fun _ => Held B True := by
  refine (hB.logs logs_reportPrintf).bind fun _ => ?_
  refine Triple.bind (cuts_motionCalibrate hB.toDiscipline hB.resets True) fun _ => ?_
  refine Triple.ite (fun _ => triple_return _) fun _ => hB.logs ?_
  exact logs_reportPrintf.bind fun _ => Steps.pure _

/-- **The start of the radio.** -/
theorem triple_startRadio (hB : Regime J B) :
    Triple J (Held B True) (startRadio w) fun _ => Held B True := by
  have hrest : Steps Logs (do
      reportPrintf
      let start ← Robot.nowMs
      awaitBluetooth w start
      if ← bluetoothUp w then
        reportPrintf
        return true
      failBluetooth
      return false) := by
    refine logs_reportPrintf.bind fun _ => logs_nowMs.bind fun start => ?_
    refine (logs_awaitBluetooth w start).bind fun _ => (logs_bluetoothUp w).bind fun _ => ?_
    refine Steps.ite ?_ (logs_failBluetooth.bind fun _ => Steps.pure _)
    exact logs_reportPrintf.bind fun _ => Steps.pure _
  refine (hB.logs logs_reportPrintf).bind fun _ => (hB.logs (logs_consult _)).bind fun _ => ?_
  refine Triple.ite (fun _ => hB.logs ?_) fun _ => ?_
  · exact (logs_faultRaise (by decide)).bind fun _ => logs_reportPrintf.bind fun _ => Steps.pure _
  · exact Triple.bind (M := fun _ => Held B True) (fun s h => ⟨hB.radio s true h.base, h.off⟩)
      fun _ => hB.logs hrest

/-- The beeps keep the conditions. -/
theorem triple_waitBeeps (hL : Discipline J L) :
    Triple J (Held L True) (waitBeeps w) fun _ => Held L True := by
  refine hL.loop (fun _ => hL.andThen (neutral_consult _) fun _ => ?_) _
  refine Triple.ite (fun _ => triple_return _) fun _ => ?_
  exact (triple_pauseChecked hL 10).bind fun _ =>
    Triple.ite (fun _ => triple_return _) fun _ => triple_return _

/-- The completion sound keeps the conditions; it stops the motors first. -/
theorem triple_completionSound (hL : Discipline J L) :
    Triple J (Held L True) (completionSound w) fun _ => Held L True := by
  refine (cuts_motionStop hL).andThen fun _ => hL.andThen neutral_stopPressed fun _ => ?_
  refine Triple.ite (fun _ => hL.reportPrintf) fun _ => hL.afterLine ?_
  refine (triple_waitBeeps w hL).bind fun _ => hL.andThen neutral_stopPressed fun _ => ?_
  exact hL.reportPrintf

/-- **The result of the run.** -/
theorem triple_reportResult (hL : Discipline J L) (completed : Option Bool) :
    Triple J (Held L True) (reportResult w completed) fun _ => Held L True := by
  cases completed with
  | none => exact hL.reportPrintf
  | some completed =>
    refine (cuts_motionStop hL).andThen fun _ => ?_
    cases completed with
    | true => exact (triple_completionSound w hL).bind fun _ => hL.reportPrintf
    | false => exact hL.reportPrintf

/-- **The end of the run**: once the radio is off the flash may be written. -/
theorem triple_endRun (hL : Discipline J L) (hS : Discipline J S) (hflash : Flashes S)
    (hoff : ∀ s, L s → S { s with radioOn := false }) (recording : Bool) :
    Triple J (Held L p) (endRun w recording) fun _ => Held S True := by
  have hrest : Steps Logs (do
      reportFaults
      reportWhen (← stopPressed)
      reportPrintf
      if recording then
        if !(← reportFinish w) then
          Robot.faultRaise .report) := by
    refine logs_reportFaults.bind fun _ => logs_stopPressed.bind fun _ => ?_
    refine (logs_reportWhen _).bind fun _ => logs_reportPrintf.bind fun _ => ?_
    refine Steps.ite ((logs_reportFinish w).bind fun _ => ?_) (Steps.pure _)
    exact Steps.ite (logs_faultRaise (by decide)) (Steps.pure _)
  refine (cuts_motionStop hL).andThen fun _ => ?_
  exact Triple.bind (M := fun _ => Held S True) (fun s h => ⟨hoff s h.base, h.off⟩) fun _ =>
    hS.logs hflash hrest

end Parts

end MainRun
