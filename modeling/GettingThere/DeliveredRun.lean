/-
# Nothing moves after the delivery

Once an attempt has completed, the motors are not powered any more and no other attempt is
started, until the report is finished: the check returns, and so does the approach, and what `main`
still does writes lines, waits for the sound, shuts the radio down and writes the last pages.

The delivery is noted among the acts (`Act.delivered`), so that what follows it can be told from
what came before.  Until then the robot is `Undelivered`, and nothing but an attempt that completes
ends this; afterwards it is `Settled`, and nothing that follows a delivery in a run breaks it.
-/
import GettingThere.Conclusion
import GettingThere.ProfileBuffer
import GettingThere.RunTriples

open CrashLogic
open PayloadClient (PayloadResult)

/-- A line of the report, or a page of the flash. -/
def Act.writes : Act → Bool
  | .line => true
  | .flash => true
  | .power => false
  | .attempt => false
  | .delivered => false

namespace Robot

/-- Nothing was delivered. -/
def Undelivered (s : Robot) : Prop := ∀ e ∈ s.acts, e.1 ≠ .delivered

/-- **Whatever follows a delivery** writes a line or a page. -/
def Settled (s : Robot) : Prop :=
  s.acts.Pairwise fun later earlier => earlier.1 = .delivered → later.1.writes = true

/-- The robot is settled, and under `p` there was a delivery. -/
structure SettledIf (p : Prop) (s : Robot) : Prop where
  settled : s.Settled
  delivered : p → ∃ e ∈ s.acts, e.1 = .delivered

section Settled

variable {s : Robot} {a : Act} {p : Prop}

/-- Where nothing was delivered nothing follows a delivery. -/
theorem Undelivered.settled (h : s.Undelivered) : s.Settled :=
  List.pairwise_of_forall_mem_list fun _ _ e he hdone => absurd hdone (h e he)

/-- An act other than a delivery. -/
theorem Undelivered.act (h : s.Undelivered) (ha : a ≠ .delivered) : (acted a s).Undelivered := by
  intro e he
  rcases List.mem_cons.mp he with rfl | he
  · exact ha
  · exact h e he

/-- **The delivery** is the first one. -/
theorem Undelivered.deliver (h : s.Undelivered) : SettledIf True (acted .delivered s) where
  settled := List.pairwise_cons.mpr ⟨fun e he hdone => absurd hdone (h e he), h.settled⟩
  delivered _ := ⟨_, List.mem_cons_self, rfl⟩

/-- A line or a page. -/
theorem SettledIf.act (h : SettledIf p s) (ha : a.writes = true) : SettledIf p (acted a s) where
  settled := List.pairwise_cons.mpr ⟨fun _ _ _ => ha, h.settled⟩
  delivered hp :=
    have ⟨e, he, hdone⟩ := h.delivered hp
    ⟨e, List.mem_cons_of_mem _ he, hdone⟩

end Settled

/-- That nothing was delivered is kept by a run at its stops. -/
theorem regime_undelivered : Regime Settled Undelivered where
  safe _ h := h.settled
  alike s t hst h := by
    unfold Undelivered
    rw [hst.acts]
    exact h
  write _ _ _ h := h
  line _ _ h := h.act nofun
  gap _ _ h := h
  powers _ h := h.act nofun
  resets _ h := h
  flashes _ _ h := h.act nofun
  radio _ _ h := h

/-- A condition on the acts is not concerned with the sampler. -/
theorem scanRules_acts {J B : Robot → Prop} (hB : Discipline J B)
    (hsampler : ∀ s q, B s → B { s with sampler := q })
    (hfaults : ∀ s f, B s → B { s with faults := f }) :
    ScanRules J B (fun _ => True) fun _ => True where
  toDiscipline := hB
  sampler s q _ h := hsampler s q h
  anew s q _ _ _ h := ⟨hsampler s q h, trivial⟩
  full _ _ _ s h := hfaults s _ h
  busy _ _ _ _ _ := trivial
  collected _ _ _ _ := trivial
  read _ _ _ _ := trivial
  flushed _ _ _ _ _ := trivial

/-- The sampler keeps that nothing was delivered. -/
theorem scanRules_undelivered :
    ScanRules Settled Undelivered (fun _ => True) fun _ => True :=
  scanRules_acts regime_undelivered.toDiscipline (fun _ _ h => h) fun _ _ h => h

/-- An attempt that runs has not delivered yet. -/
theorem runs_undelivered : Runs Undelivered Undelivered where
  starts _ h := h.act (a := .attempt) nofun
  ends _ h := h

/-- After a delivery the condition is kept by what powers nothing. -/
theorem discipline_settledIf (p : Prop) : Discipline (SettledIf p) (SettledIf p) where
  safe _ h := h
  alike s t hst h := by
    refine ⟨?_, fun hp => ?_⟩
    · unfold Settled
      rw [hst.acts]
      exact h.settled
    · rw [hst.acts]
      exact h.delivered hp
  write _ _ _ h := ⟨h.settled, h.delivered⟩
  line _ _ h := h.act rfl
  gap _ _ h := ⟨h.settled, h.delivered⟩

/-- After a delivery the sampler keeps the condition at a stop. -/
theorem scanRules_settledIf (p : Prop) :
    ScanRules (SettledIf p) (SettledIf p) (fun _ => True) fun _ => True :=
  scanRules_acts (discipline_settledIf p) (fun _ _ h => ⟨h.settled, h.delivered⟩) fun _ _ h =>
    ⟨h.settled, h.delivered⟩

/-- Pages of the flash may follow a delivery. -/
theorem flashes_settledIf (p : Prop) : Flashes (SettledIf p) := fun _ _ h => h.act rfl

/-- **The delivery of the payload.** -/
def delivery : Delivery Robot where
  always := Settled
  before := Held Undelivered True
  after := Held (SettledIf True) True
  always_of_before _ h := h.base.settled
  always_of_after _ h := h.base.settled

end Robot

namespace MainRun

open Robot Navigation

variable (w : Ambient)

/-! ## The firmware's own headers -/

/-- **An attempt** delivers if it completes. -/
theorem triple_attempted (reconnect : Bool) :
    Triple delivery.always delivery.before (runAttempt w reconnect) delivery.Attempted := by
  have hD := regime_undelivered.toDiscipline
  refine (cuts_motionStop hD).andThen fun _ => ?_
  refine (triple_beginAttempt w hD hD runs_undelivered reconnect).bind fun finish => ?_
  have hnote : Triple Settled (fun s => s.Off ∧ s.Undelivered) (noteDelivered finish)
      fun _ => delivery.Attempted finish := by
    refine Triple.ite (fun hdone => ?_) fun hgo => Triple.pure _ ?_
    · exact fun s hs => ⟨fun _ => ⟨hs.2.deliver, fun _ => hs.1⟩, fun h => absurd hdone h⟩
    · exact fun s hs => ⟨fun h => absurd h hgo, fun _ => ⟨hs.2, fun _ => hs.1⟩⟩
  refine Triple.before (fun s hs => ⟨hs.1, hs.2.elim id And.left⟩) (hnote.bind fun _ => ?_)
  intro s hs
  refine ⟨fun hdone => ?_, fun hgo => ?_⟩
  · have hafter := hs.after hdone
    exact ⟨⟨hafter.base.settled, hafter.base.delivered⟩, hafter.off⟩
  · exact ⟨(hs.before hgo).base, (hs.before hgo).off⟩

/-- The checks of a run deliver nothing. -/
theorem triple_undelivered (start : UInt32) (K : Sampler → Prop) (p : Prop) :
    Triple Settled (Held (With Undelivered K) p) (robotMotion.runCanContinue start) fun _ =>
      Held (With Undelivered K) p :=
  triple_runCanContinue (regime_undelivered.toDiscipline.with K) start

/-- A command of the sampler delivers nothing. -/
theorem tells_sampler {α : Type} {c : Cmd Robot α} {ok : α → Prop} {K : Sampler → Prop}
    (h : Triple Settled (Held (With Undelivered fun _ => True) True) c fun a =>
      Gives Undelivered K True (ok a)) : delivery.guard.Tells c ok :=
  (h.before fun _ hs => hs.less fun _ hs => ⟨hs, trivial⟩).after fun _ _ hs => ⟨hs.1, fun _ => hs.1⟩

/-- A block delivers nothing, driven in full or not. -/
theorem tells_undelivered (start : UInt32) (forwards : Bool) (duration : UInt32)
    (heading : Float32) (acquireMoving : Bool) :
    delivery.guard.Tells (robotMotion.driveBlock start forwards duration heading acquireMoving)
      fun b => ∃ block, b = some block ∧ block.quiesced = true := by
  have hD := regime_undelivered.toDiscipline
  have hS := scanRules_undelivered
  have hpoll := triple_wifiSamplerPollMoving hS (fun _ h => h) (triple_undelivered start)
  have hquiesce := triple_wifiSamplerQuiesce (p := True) (K := fun _ => True) hS
    (triple_undelivered start) fun _ _ _ => trivial
  refine (triple_driveBlock hD hD (fun _ h => h) regime_undelivered.powers ?_ forwards duration
    heading (hquiesce.before fun _ h => h.less fun _ h => ⟨h, trivial⟩)).after ?_
  · refine (hpoll.before fun _ h => h.less fun _ h => ⟨h, trivial⟩).after fun _ _ h => ?_
    exact ⟨h.1.base, fun _ => h.1.base⟩
  rintro (_ | block) s h
  · exact ⟨h, fun _ => h⟩
  · exact ⟨h.1, fun _ => h.1⟩

/-- **Only an attempt that completes delivers.** -/
theorem delivers_robot : (robotLayer w).Delivers delivery where
  nowMs := regime_undelivered.logs logs_nowMs
  samplerInit := by
    refine (Triple.before ?_ (triple_wifiSamplerInit scanRules_undelivered)).after ?_
    · exact fun _ h => h.less fun _ h => ⟨h, trivial⟩
    · exact fun _ _ h => h.drop
  canContinue t := triple_runCanContinue regime_undelivered.toDiscipline t
  stop := cuts_motionStop regime_undelivered.toDiscipline True
  faultRaise f hf := regime_undelivered.logs (logs_faultRaise hf)
  reportPrintf r hr := regime_undelivered.toDiscipline.reportPrintf r hr
  reportCheckpoint := regime_undelivered.logs (logs_reportCheckpoint w)
  turnToHeading d :=
    triple_turnToHeading regime_undelivered.toDiscipline regime_undelivered.powers d
  learnDirection :=
    triple_motionLearnDirection regime_undelivered.toDiscipline regime_undelivered.powers
  heading := regime_undelivered.logs neutral_motionHeading.logs
  pauseMs d := triple_pauseChecked regime_undelivered.toDiscipline d
  setPosition _ _ _ := by
    have hset (g : Sampler → Sampler) :
        Triple Settled (Held Undelivered True) (setSampler g) fun _ => Held Undelivered True :=
      fun _ h => ⟨h.base, h.off⟩
    exact regime_undelivered.toDiscipline.andThen neutral_nowMs fun _ => hset _
  setReference _ _ h := ⟨h.base, h.off⟩
  readFresh := regime_undelivered.logs (logs_readFresh w)
  quiesce t := tells_sampler <|
    triple_wifiSamplerQuiesce scanRules_undelivered (triple_undelivered t) fun _ _ _ => trivial
  sample t := tells_sampler <|
    triple_wifiSamplerSample scanRules_undelivered (triple_undelivered t) fun _ _ _ => trivial
  driveBlock := tells_undelivered
  profileFull :=
    Triple.bind (cuts_motionStop regime_undelivered.toDiscipline True) fun _ _ h => ⟨h.base, h.off⟩
  profileLine r hr := regime_undelivered.toDiscipline.reportPrintf r hr
  attempt _ := triple_attempted w false
  retry _ := triple_attempted w true
  stopped := (cuts_motionStop (discipline_settledIf True) True).within fun _ h => h.settled
  quiesced t := by
    have hchecks (K : Sampler → Prop) (p : Prop) : Triple (SettledIf True)
        (Held (With (SettledIf True) K) p) (robotMotion.runCanContinue t) fun _ =>
          Held (With (SettledIf True) K) p :=
      triple_runCanContinue ((discipline_settledIf True).with K) t
    have hquiesce := triple_wifiSamplerQuiesce (p := True) (scanRules_settledIf True) hchecks
      (K := fun _ => True) fun _ _ _ => trivial
    refine (Triple.before ?_ (hquiesce.within fun _ h => h.settled)).after fun _ _ h => h.1
    exact fun _ h => h.less fun _ h => ⟨h, trivial⟩
  saved := by
    have hlogs := (discipline_settledIf True).logs (flashes_settledIf True)
      (logs_reportCheckpoint w)
    exact hlogs.within fun _ h => h.settled
  faulted := by
    have hneutral : Neutral (faultRaise .report) := neutral_faultRaise (by decide)
    have hraise := (discipline_settledIf True).neutral (p := True) hneutral
    exact hraise.within fun _ h => h.settled

/-! ## The run -/

/-- Lines and pages deliver nothing. -/
theorem proceeds_logs {α : Type} {c : Cmd Robot α} (hc : Steps Logs c) :
    Proceeds delivery (onFirst c : Cmd (Robot × Nav) α) :=
  proceeds_layer (regime_undelivered.logs hc)

/-- The rounds of a colour scan deliver nothing. -/
theorem proceeds_scanRounds (origin : Float32) (n : ℕ) (allValid : Bool) :
    Proceeds delivery (scanRounds w origin n allValid) := by
  have hL := delivers_robot w
  induction n generalizing allValid with
  | zero => exact Concludes.pure _ nofun
  | succ n ih =>
    have hscan := leads_scanSteps (robotLayer w) undecided_roams origin 12 []
    apply (proceeds_of_leads hscan (passes_scanSteps hL.toBears origin 12 [])).andThen
    rintro ⟨status, readings⟩
    refine (proceeds_logs (logs_reportWhen _)).andThen fun _ =>
      Triple.ite (fun _ => Concludes.pure _ nofun) fun _ => ?_
    exact (proceeds_layer (hL.turnToHeading origin)).unless nofun (ih _)

/-- **The test build** makes no payload check. -/
theorem proceeds_colourScanRun : Proceeds delivery (colourScanRun w) := by
  have hL := delivers_robot w
  refine (proceeds_logs logs_nowMs).andThen fun now => Proceeds.andThen (proceeds_set ?_) ?_
  · exact fun _ hn => hn
  refine fun _ => Concludes.look fun n => Triple.ite (fun _ => ?_) fun _ => ?_
  · exact (proceeds_logs logs_reportPrintf).andThen fun _ => Concludes.pure _ nofun
  refine (proceeds_layer hL.learnDirection).unless nofun ?_
  refine (proceeds_layer hL.heading).andThen fun origin => ?_
  exact (proceeds_logs logs_reportPrintf).andThen fun _ => proceeds_scanRounds w origin 2 true

/-- Where the approach ends, or the run ends without it. -/
def Over (s : Robot × Nav) : Prop := ∃ result, Stands delivery result s

/-- A run may end without a delivery. -/
theorem over_of_open {s : Robot × Nav} (h : Open delivery s) : Over s :=
  ⟨.fatal, stands_of_open nofun h⟩

/-- The mission ends where the approach does, or delivers nothing. -/
theorem triple_mission :
    Triple (Reached delivery) (Open delivery) (mission w) fun _ => Over := by
  have hnone : Triple (Reached delivery) (Open delivery)
      (pure none : Cmd (Robot × Nav) (Option Bool)) fun _ => Over :=
    Triple.pure _ fun _ hs => over_of_open hs
  have hstop := proceeds_logs logs_stopPressed
  refine Triple.ite (fun _ => ?_) fun _ => ?_
  · refine hstop.andThen fun _ => Triple.ite (fun _ => hnone) fun _ => ?_
    exact (proceeds_colourScanRun w).andThen fun _ => Triple.pure _ fun _ hs => over_of_open hs
  have hradio : delivery.guard.Holds (startRadio w) := triple_startRadio w regime_undelivered
  refine (proceeds_layer hradio).andThen fun _ => ?_
  refine Triple.ite (fun _ => hnone) fun _ => hstop.andThen fun _ => ?_
  refine Triple.ite (fun _ => hnone) fun _ => ?_
  refine Triple.bind (concludes_approachBeacon (robotLayer w) (delivers_robot w)) ?_
  exact fun completed => Triple.pure _ fun _ hs => ⟨_, hs⟩

/-- A whole drive ends where its mission does, or delivers nothing. -/
theorem triple_drive (ready recording : Bool) :
    Triple (Reached delivery) (Open delivery) (drive w ready recording) fun _ => Over := by
  have hnone : Triple (Reached delivery) (Open delivery)
      (pure none : Cmd (Robot × Nav) (Option Bool)) fun _ => Over :=
    Triple.pure _ fun _ hs => over_of_open hs
  have hsensors : Proceeds delivery (prepareSensors w) := by
    refine (proceeds_logs (logs_colourSensorInit w)).andThen fun found => ?_
    refine Proceeds.andThen (proceeds_set fun _ hn => hn) fun _ => ?_
    exact proceeds_layer (triple_calibrate regime_undelivered)
  have hrelease : delivery.guard.Holds (awaitRelease w ready recording) :=
    triple_awaitRelease w regime_undelivered ready recording
  refine (proceeds_layer hrelease).andThen fun _ => Triple.ite (fun _ => hnone) fun _ => ?_
  exact hsensors.andThen fun _ => Triple.ite (fun _ => hnone) fun _ => triple_mission w

/-- What is left of a run, wherever it is cut off. -/
structure Concluded (s : Robot × Nav) : Prop where
  robot : SettledIf (completed s.2.events = true) s.1
  earlier : ∀ e ∈ s.2.events.tail, e.decides = false

/-- Wherever a drive is cut off, a check that has completed was the last one and has delivered. -/
theorem concluded_reached {s : Robot × Nav} (h : Reached delivery s) : Concluded s :=
  ⟨⟨h.always, fun hdone => (h.delivered hdone).left.base.delivered trivial⟩, h.earlier⟩

/-- **The end of the run** keeps what the approach has left. -/
theorem triple_over (completed : Option Bool) (recording : Bool) :
    Triple Concluded Over (do
      onFirst (reportResult w completed)
      onFirst (endRun w recording)) fun _ => Concluded := by
  rintro ⟨r, n⟩ ⟨result, h⟩
  let p : Prop := Navigation.completed n.events = true
  have hearlier := h.reached.earlier
  have hrobot : Held (SettledIf p) True r := by
    refine ⟨⟨h.reached.always, ?_⟩, ?_⟩
    · exact fun hdone => (h.reached.delivered hdone).left.base.delivered trivial
    · exact h.either.elim Held.off Held.off
  have hresult := (triple_reportResult w (discipline_settledIf p) completed).onFirst n
  have hend : Triple (SettledIf p) (Held (SettledIf p) True) (endRun w recording)
      fun _ => Held (SettledIf p) True :=
    triple_endRun w (discipline_settledIf p) (discipline_settledIf p) (flashes_settledIf p)
      (fun _ h => ⟨h.settled, h.delivered⟩) recording
  have hrest := (hresult.bind fun _ => hend.onFirst n) (r, n) ⟨hrobot, rfl⟩
  refine wp_mono hrest (fun _ s hs => ?_) fun s hs => ?_
  · exact ⟨hs.2 ▸ hs.1.base, hs.2 ▸ hearlier⟩
  · exact ⟨hs.2 ▸ hs.1, hs.2 ▸ hearlier⟩

/-- **A run** ends where its approach has led, and wherever it is cut off it has not left there. -/
theorem triple_concluded :
    Triple Concluded (fun s => Held Undelivered False s.1 ∧ Undecided s.2) (main w)
      fun _ => Concluded := by
  have hpower : Triple (Reached delivery) (fun s => Held Undelivered False s.1 ∧ Undecided s.2)
      (onFirst (powerUp w)) fun _ => Open delivery := by
    rintro ⟨r, n⟩ ⟨hr, hn⟩
    refine wp_onFirst.mpr (wp_mono (triple_powerUp w regime_undelivered r hr) ?_ ?_)
    · exact fun _ _ ht => ⟨ht, hn⟩
    · exact fun t ht => Undecided.reached (s := (t, n)) hn ht
  have hdrive (ready : Bool) : Triple (Reached delivery) (Open delivery) (do
      let recording ← onFirst (prepareLog w)
      let completed ← drive w ready recording
      return (recording, completed)) fun _ => Over :=
    (proceeds_logs (logs_prepareLog w)).andThen fun recording =>
      (triple_drive w ready recording).bind fun _ => Triple.pure _ fun _ hs => hs
  have hrun := (hpower.bind hdrive).within fun _ hs => concluded_reached hs
  have hmain := hrun.bind fun r => triple_over w r.2 r.1
  unfold main
  simpa only [bind_assoc, pure_bind] using hmain

/-- **After the delivery** nothing stirs, in every run, however it goes and wherever it is cut off:
no event follows a payload check that has decided the run; if one has completed, an attempt has
returned `PAYLOAD_COMPLETE`; and whatever the run does after an attempt has returned it, is to
write lines of the report and pages of the log, so no motor is powered and no attempt is started. -/
theorem main_concludes (outside : Outside) (levels : Pin → ℕ) (colour : ColourSensor) :
    let run := (exec (main w) (Robot.powerOn outside levels, Nav.boot colour)).2
    (∀ e ∈ run.2.events.tail, e.decides = false) ∧
      (completed run.2.events = true → ∃ e ∈ run.1.acts, e.1 = .delivered) ∧
      run.1.acts.Pairwise fun later earlier =>
        earlier.1 = .delivered → later.1.writes = true := by
  intro run
  have hrun : Concluded run :=
    always (triple_concluded w (Robot.powerOn outside levels, Nav.boot colour)
      ⟨⟨nofun, False.elim⟩, nofun⟩)
  exact ⟨hrun.earlier, hrun.robot.delivered, hrun.robot.settled⟩

/-- **The robot near the beacon** delivers after its second block; the ten acts after the delivery
are lines and pages. -/
theorem main_concludes_nearBeacon :
    (∃ e ∈ oneGapRun.2.1.acts, e.1 = .delivered) ∧
    (oneGapRun.2.1.acts.takeWhile fun e => e.1 ≠ .delivered).length = 10 ∧
    oneGapRun.2.1.acts.Pairwise fun later earlier =>
      earlier.1 = .delivered → later.1.writes = true := by
  have hrun : completed oneGapRun.2.2.events = true ∧
      (oneGapRun.2.1.acts.takeWhile fun e => e.1 ≠ .delivered).length = 10 := by decide +kernel
  obtain ⟨hcompleted, hacts⟩ := hrun
  unfold oneGapRun at hcompleted hacts ⊢
  obtain ⟨-, hdelivered, hsettled⟩ :=
    main_concludes nearBeacon oneGap (fun _ => 0) ⟨false, false, false, -1, 0⟩
  exact ⟨hdelivered hcompleted, hacts, hsettled⟩

end MainRun
