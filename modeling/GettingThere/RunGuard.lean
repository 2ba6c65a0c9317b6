/-
# A guard over a run

`RunKeeps w G`: the firmware keeps the guard `G` in the approach, and so do the other parts of
`main` between the preparation of the log and the result.  Then the state is good until the result
is known, and what is left of it must allow the report of the result and the end of the run.
-/
import GettingThere.RunTriples
import GettingThere.ProfileTally

open CrashLogic

namespace MainRun

open Robot Navigation Guard

/-- **The firmware keeps the guard** from the log to the result. -/
structure RunKeeps (w : Ambient) (G : Guard Robot) : Prop extends (robotLayer w).Keeps G where
  full : ∀ events, 3 ≤ shortBlocks events → G.full events
  logs : ∀ {α : Type} {c : Cmd Robot α}, Steps Logs c → G.Holds c
  awaitRelease : ∀ ready recording, G.Holds (awaitRelease w ready recording)
  calibrate : G.Holds calibrate
  startRadio : G.Holds (startRadio w)

variable {w : Ambient} {G : Guard Robot} (hG : RunKeeps w G)
include hG

theorem passes_scanRounds (origin : Float32) (n : ℕ) (allValid : Bool) :
    G.Passes Any (fun _ => False) (scanRounds w origin n allValid) := by
  induction n generalizing allValid with
  | zero => exact Passes.pure _
  | succ n ih =>
    apply (passes_scanSteps hG.toKeeps.toBears origin 12 []).bind
    rintro ⟨status, readings⟩
    cases status with
    | stopped => exact fun s hs => ⟨hs.1, False.elim⟩
    | readFailed =>
      refine Goes.go ((hG.logs (logs_reportWhen _)).passes.andThen fun _ => ?_) (by simp)
      exact Passes.pure _
    | done =>
      refine Goes.go ((hG.logs (logs_reportWhen _)).passes.andThen fun _ => ?_) (by simp)
      refine Goes.andThen (hG.turnToHeading origin).passes fun _ => ?_
      exact Goes.ite (fun _ => Passes.pure _) fun _ => ih _

/-- **The test build.** -/
theorem passes_colourScanRun : G.Passes Any (fun _ => False) (colourScanRun w) := by
  refine (hG.logs logs_nowMs).passes.andThen fun _ => goes_set (Goes.look fun n _ => ?_)
  refine Goes.ite (fun _ => ?_) fun _ => ?_
  · exact (hG.logs logs_reportPrintf).passes.andThen fun _ => Passes.pure _
  refine Goes.andThen hG.learnDirection.passes fun _ => ?_
  refine Goes.ite (fun _ => Passes.pure _) fun _ => ?_
  refine Goes.andThen hG.heading.passes fun _ => ?_
  exact (hG.logs logs_reportPrintf).passes.andThen fun _ => passes_scanRounds hG _ _ _

/-- **The mission** of a run, or of the test build. -/
theorem passes_mission : G.Passes Any (fun _ => False) (mission w) := by
  have hstop : G.Passes Any (fun _ => True) (onFirst stopPressed) :=
    (hG.logs logs_stopPressed).passes
  refine Goes.ite (fun _ => hstop.whether (Passes.pure _) ?_) fun _ => ?_
  · exact (passes_colourScanRun hG).bind fun _ => stop_pure _ id
  · refine hG.startRadio.passes.andThen fun _ => ?_
    refine Goes.ite (fun _ => Passes.pure _) fun _ => hstop.whether (Passes.pure _) ?_
    exact (passes_approachBeacon hG.toKeeps hG.full).bind fun _ => stop_pure _ id

theorem passes_drive (ready recording : Bool) :
    G.Passes Any (fun _ => False) (drive w ready recording) := by
  have hsensors : G.Passes Any (fun _ => True) (prepareSensors w) :=
    (hG.logs (logs_colourSensorInit w)).passes.andThen fun _ => goes_set hG.calibrate.passes
  refine (hG.awaitRelease ready recording).passes.andThen fun _ => ?_
  refine Goes.ite (fun _ => Passes.pure _) fun _ => ?_
  exact hsensors.andThen fun _ => Goes.ite (fun _ => Passes.pure _) fun _ => passes_mission hG

/-- **A run**, from its start and its end: `Q` holds wherever it is cut off. -/
theorem triple_main {P : Robot → Prop} {Q : Robot × Nav → Prop} (hQ : ∀ s, G.Safe s → Q s)
    (hstart : Triple G.always P (powerUp w) fun _ => G.good)
    (hend : ∀ completed recording, Triple Q G.Ended (do
      onFirst (reportResult w completed)
      onFirst (endRun w recording)) fun _ => Q) :
    Triple Q (fun s => P s.1) (main w) fun _ => Q := by
  have hpower : Triple G.Safe (fun s => P s.1) (onFirst (powerUp w)) fun _ s =>
      G.good s.1 ∧ Any s.2 := by
    rintro ⟨r, n⟩ h
    refine wp_onFirst.mpr (wp_mono (hstart r h) (fun _ _ ht => ?_) fun _ ht => .inl ht)
    exact ⟨ht, trivial⟩
  have hlog : G.Passes Any (fun _ => True) (onFirst (prepareLog w)) :=
    (hG.logs (logs_prepareLog w)).passes
  have hresult (ready : Bool) : Triple G.Safe (fun s => G.good s.1 ∧ Any s.2) (do
      let recording ← onFirst (prepareLog w)
      let completed ← drive w ready recording
      return (recording, completed)) fun _ => G.Ended :=
    Triple.bind hlog fun recording => Triple.bind ((passes_drive hG ready recording).go trivial)
      fun completed => Triple.pure _ fun s hs => hs.1
  refine (hpower.within hQ).bind fun ready => ?_
  have hrun := Triple.bind ((hresult ready).within hQ) fun r => hend r.2 r.1
  simpa only [bind_assoc, pure_bind] using hrun

end MainRun
