/-
# The motor pins under the sampler and a block

The sampler stops the motors when it fails or falls back, and touches them in no other way; so a
scan keeps the course, whoever drives.  A block leads from a stop over a drive to a stop.
-/
import GettingThere.PinMotion
import GettingThere.TranslationBlock

open CrashLogic PackedBits

namespace Robot

/-! ## Scans -/

/-- The sampler's state has no pins. -/
theorem stays_setSampler (f : Sampler → Sampler) : Stays (setSampler f) :=
  stays_modify fun _ => ⟨rfl, rfl, rfl⟩

/-- The age of a scan is read without a write. -/
theorem stays_scanAge : Stays scanAge :=
  stays_nowMs.bind fun _ => Stays.look fun _ => Stays.pure _

/-- Falling back to stationary samples stops the motors. -/
theorem stays_fallBack : Stays fallBack :=
  (stays_setSampler _).bind fun _ => halts_motionStop.stays

/-- A sampler that fails stops the motors. -/
theorem halts_failSampler (f : Fault) : Halts (failSampler f) :=
  halts_motionStop.bind fun _ => (stays_faultRaise f).bind fun _ => stays_setSampler _

/-- Lines of the report write no pin. -/
theorem stays_reportLines (n : ℕ) : Stays (reportLines n) := by
  induction n with
  | zero => exact Stays.pure _
  | succ n ih => exact stays_reportPrintf.bind fun _ => ih

/-- Setting up the sampler writes no pin. -/
theorem stays_wifiSamplerInit : Stays wifiSamplerInit :=
  (stays_setSampler _).bind fun _ => stays_reportPrintf

/-- Setting the position writes no pin. -/
theorem stays_wifiSamplerSetPosition : Stays wifiSamplerSetPosition :=
  stays_nowMs.bind fun _ => stays_setSampler _

/-- Setting the reference writes no pin. -/
theorem stays_wifiSamplerSetReference (reference : WifiSample) :
    Stays (wifiSamplerSetReference reference) := stays_setSampler _

/-- A lost scan is counted without a write to the pins. -/
theorem stays_scanLost (code : ℕ) : Stays (scanLost code) :=
  Stays.ite (Stays.pure _) (stays_nowMs.bind fun _ => Stays.look fun _ => Stays.pure _)

/-- A slow scan is noticed without a write to the pins. -/
theorem stays_scanSlow : Stays scanSlow :=
  Stays.look fun _ => Stays.ite (Stays.pure _) (stays_scanAge.bind fun _ => Stays.pure _)

/-- Collecting a scan in motion keeps the course, or stops. -/
theorem stays_collectMoving (code : ℕ) (stopped : Bool) : Stays (collectMoving code stopped) := by
  have hwindow : Stays (do
      let now ← nowMs
      setSampler fun p => { p with movingCodes := [], movingWindowStartedMs := now }) :=
    stays_nowMs.bind fun _ => stays_setSampler _
  refine (stays_scanLost code).bind fun _ => Stays.ite stays_fallBack ?_
  refine Stays.ite (stays_setSampler _) ((stays_setSampler _).bind fun _ => Stays.look fun s => ?_)
  refine Stays.ite ?_ (Stays.pure _)
  exact Stays.ite (halts_motionStop.stays.bind fun _ => hwindow) hwindow

/-- Collecting any scan does. -/
theorem stays_samplerCollect : Stays samplerCollect := by
  refine Stays.look fun s => Stays.ite (Stays.pure _) ((stays_ask _).bind fun _ => ?_)
  refine Stays.ite (Stays.pure _) ((stays_ask _).bind fun result => ?_)
  refine (stays_setSampler _).bind fun _ => stays_motionDriveActive.bind fun _ => ?_
  refine Stays.ite ((halts_failSampler _).stays.bind fun _ => Stays.pure _) ?_
  refine (stays_setSampler _).bind fun _ => Stays.ite ?_ (Stays.pure _)
  exact (stays_collectMoving _ _).bind fun _ => Stays.pure _

/-- Flushing the records writes no pin. -/
theorem stays_samplerFlush : Stays samplerFlush := by
  refine Stays.look fun s => Stays.ite (Stays.pure _) ((stays_ask _).bind fun _ => ?_)
  refine Stays.ite (Stays.pure _) ((stays_reportLines _).bind fun _ => ?_)
  exact (stays_setSampler _).bind fun _ => stays_ask _

/-- Judging the codes of a sample writes no pin. -/
theorem stays_qualify (codes : List ℕ) (elapsed : UInt32) : Stays (qualify codes elapsed) :=
  Stays.look fun _ => Stays.ite (stays_setSampler _) (stays_setSampler _)

/-- A finished sample is noted without a write. -/
theorem stays_noteSample (sample : WifiSample) : Stays (noteSample sample) :=
  Stays.ite (stays_faultRaise _) (stays_faultClear _)

section Checks

variable {canContinue : Cmd Robot Bool} (hcan : Stays canContinue)
include hcan

/-- Beginning a scan keeps the course, or stops. -/
theorem stays_samplerBegin (moving : Bool) : Stays (samplerBegin canContinue moving) := by
  refine Stays.look fun s => Stays.ite (Stays.pure _) (hcan.bind fun _ => ?_)
  refine Stays.ite (Stays.pure _) (Stays.look fun s => Stays.ite ?_ ?_)
  · exact (halts_failSampler _).stays.bind fun _ => Stays.pure _
  refine stays_nowMs.bind fun started => (stays_setSampler _).bind fun _ => ?_
  refine (stays_ask _).bind fun error => stays_scanAge.bind fun elapsed => ?_
  refine (stays_setSampler _).bind fun _ => Stays.ite ?_ (Stays.ite ?_ (Stays.pure _))
  · exact (stays_setSampler _).bind fun _ => (halts_failSampler _).stays.bind fun _ =>
      stays_reportPrintf.bind fun _ => Stays.pure _
  · exact stays_fallBack.bind fun _ => Stays.pure _

/-- Waiting for a scan does, too. -/
theorem stays_awaitScan : Stays (awaitScan canContinue) := by
  have hwait : Stays (waitOver canContinue) := hcan.bind fun _ =>
    Stays.ite (Stays.pure _) (stays_scanAge.bind fun _ => Stays.pure _)
  refine Stays.loop (fun _ => Stays.look fun s => Stays.ite (Stays.pure _) ?_) _
  refine (stays_ask _).bind fun _ => Stays.ite (Stays.pure _) (hwait.bind fun _ => Stays.ite ?_ ?_)
  · exact (stays_faultRaise _).bind fun _ => (stays_setSampler _).bind fun _ =>
      stays_reportPrintf.bind fun _ => Stays.pure _
  · exact stays_sleepMs.bind fun _ => Stays.pure _

/-- Quiescing the sampler stops the motors. -/
theorem halts_wifiSamplerQuiesce : Halts (wifiSamplerQuiesce canContinue) := by
  refine halts_motionStop.bind fun _ => Stays.look fun s => Stays.ite (Stays.pure _) ?_
  refine (stays_awaitScan hcan).bind fun _ => Stays.ite (Stays.pure _) ?_
  exact stays_samplerCollect.bind fun _ => Stays.ite (Stays.pure _) stays_samplerFlush

/-- Polling the sampler in motion keeps the course, or stops. -/
theorem stays_wifiSamplerPollMoving : Stays (wifiSamplerPollMoving canContinue) := by
  refine hcan.bind fun _ => Stays.ite (halts_motionStop.stays.bind fun _ => Stays.pure _) ?_
  refine Stays.look fun s => Stays.ite (Stays.pure _) (stays_scanSlow.bind fun _ => ?_)
  refine Stays.ite (stays_fallBack.bind fun _ => Stays.pure _) ?_
  refine stays_samplerCollect.bind fun _ => Stays.ite (Stays.pure _) (Stays.look fun s => ?_)
  exact Stays.ite (stays_samplerBegin hcan true) (Stays.pure _)

/-- The scans of a sample keep the course, by induction on the scans that are left. -/
theorem stays_sampleScans (n : ℕ) (codes : List ℕ) : Stays (sampleScans canContinue n codes) := by
  induction n generalizing codes with
  | zero => exact Stays.pure _
  | succ n ih =>
    refine (stays_samplerBegin hcan false).bind fun _ => Stays.ite (Stays.pure _) ?_
    refine (halts_wifiSamplerQuiesce hcan).stays.bind fun _ => Stays.ite (Stays.pure _) ?_
    exact Stays.look fun _ => ih _

/-- A whole sample keeps the course, or stops. -/
theorem stays_wifiSamplerSample : Stays (wifiSamplerSample canContinue) := by
  refine (halts_wifiSamplerQuiesce hcan).stays.bind fun _ => Stays.ite (Stays.pure _) ?_
  refine stays_reportPrintf.bind fun _ => stays_nowMs.bind fun start => ?_
  refine (stays_sampleScans hcan _ _).bind fun codes => ?_
  cases codes with
  | none => exact Stays.pure _
  | some codes =>
    refine stays_nowMs.bind fun now => (stays_qualify _ _).bind fun _ => ?_
    refine (stays_noteSample _).bind fun _ => stays_reportPrintf.bind fun _ => hcan.bind fun _ => ?_
    exact Stays.ite (Stays.pure _) <| (stays_ask _).bind fun _ =>
      Stays.ite (Stays.pure _) (Stays.pure _)

end Checks

/-! ## Blocks -/

/-- **The checks of a run** may stop the motors. -/
theorem stays_runCanContinue (start : UInt32) : Stays (robotMotion.runCanContinue start) := by
  have hstop (f : Fault) : Stays (robotMotion.stopFor f) :=
    halts_motionStop.stays.bind fun _ => stays_faultRaise f
  refine stays_stopPressed.bind fun _ => Stays.ite ?_ ((stays_ask _).bind fun _ => ?_)
  · exact halts_motionStop.stays.bind fun _ => Stays.pure _
  refine Stays.ite ((hstop _).bind fun _ => Stays.pure _) (stays_nowMs.bind fun now => ?_)
  refine Stays.ite ((hstop _).bind fun _ => ?_) (Stays.pure _)
  exact (stays_act .line).bind fun _ => Stays.pure _

/-- The robot stands still, whatever its latest drive was. -/
def Still (s : Robot) : Prop := ∃ speed, Wired .stop speed s

/-- A robot that stands still has kept the law. -/
theorem Still.law {s : Robot} (h : Still s) : Lawfully s := by
  obtain ⟨_, h⟩ := h
  exact h.law

/-- The command leads from a robot that stands still to one that does. -/
def Settles {α : Type} (cmd : Cmd Robot α) : Prop := Triple Lawfully Still cmd fun _ => Still

/-- From stop to stop is from standstill to standstill. -/
theorem Rests.settles {α : Type} {cmd : Cmd Robot α} (h : Rests cmd) : Settles cmd := by
  rintro s ⟨speed, hs⟩
  exact wp_mono (h speed s hs) (fun _ _ ht => ⟨speed, ht⟩) fun _ ht => ht

/-- What keeps every course keeps a standstill. -/
theorem Stays.settles {α : Type} {cmd : Cmd Robot α} (h : Stays cmd) : Settles cmd :=
  h.rests.settles

/-- **A block** leads over a drive to a stop. -/
theorem settles_driveBlock (start : UInt32) (forwards : Bool) (duration : UInt32)
    (heading : Float32) (acquireMoving : Bool) :
    Settles (robotMotion.driveBlock start forwards duration heading acquireMoving) := by
  have hcan := stays_runCanContinue start
  have hround {v : ℤ} (hv : v = 35 ∨ v = -35) :
      Triple Lawfully (Wired .drive v) (robotMotion.driveRound start acquireMoving) fun _ =>
        Wired .drive v := by
    have hend : Stays (do
        if ← robotMotion.driveActive then
          robotMotion.sleepMs
        return (none : Option Bool)) := stays_motionDriveActive.bind fun _ =>
      Stays.ite (stays_sleepMs.bind fun _ => Stays.pure _) (Stays.pure _)
    have hrest : Stays (do
        if !(← robotMotion.runCanContinue start) then
          return some false
        if acquireMoving then
          if !(← robotMotion.pollMoving (robotMotion.runCanContinue start)) then
            return some false
        if ← robotMotion.driveActive then
          robotMotion.sleepMs
        return none) := by
      refine hcan.bind fun _ => Stays.ite (Stays.pure _) (Stays.ite ?_ hend)
      exact (stays_wifiSamplerPollMoving hcan).bind fun _ => Stays.ite (Stays.pure _) hend
    refine (wired_motionDriveUpdate hv).bind fun ok => ?_
    exact (Stays.ite (Stays.pure _) hrest) .drive v
  have hloop {v : ℤ} (hv : v = 35 ∨ v = -35) :
      Triple Lawfully (Wired .drive v) (robotMotion.driveLoop start acquireMoving) fun _ =>
        Wired .drive v := by
    refine Triple.look fun t _ => Triple.before (fun _ h => h.1) ?_
    refine Triple.iterate (I := fun _ => Wired .drive v) (fun _ _ h => h.law) (fun _ => ?_) _ ()
    refine (stays_motionDriveActive .drive v).bind fun active => ?_
    refine Triple.ite (fun _ => ?_) fun _ => ?_
    · exact Triple.pure _ fun _ h => h
    apply (hround hv).bind
    rintro (_ | ok)
    · exact Triple.pure _ fun _ h => h
    · exact Triple.pure _ fun _ h => h
  rintro s ⟨speed, hs⟩
  refine ((wired_motionDriveStart forwards duration heading).bind ?_) s hs
  rintro (_ | _)
  · exact Triple.pure _ fun _ h => h.imp fun _ h => h.1
  rintro t ⟨v, ht, hv⟩
  refine (((hloop (hv rfl)).bind fun ok => halts_motionStop.from.bind fun _ => ?_).after
    fun _ _ h => ⟨v, h⟩) t ht
  refine (stays_motionDriveElapsedMs .stop v).bind fun actual => ?_
  refine (halts_motionDriveFinish.stays .stop v).bind fun finished => ?_
  exact ((halts_wifiSamplerQuiesce hcan).stays .stop v).bind fun quiesced =>
    Triple.pure _ fun _ h => h

end Robot
