/-
# A powered block on the robot

`run_can_continue` and the block of `translate_block` on the firmware's own motion: what the
functions of `motion.c` keep is kept by them too.  While the drive is under way the condition
`B` allows power; a poll of the moving sampler that fails may leave less (`B'`), and from then on
the motors stay off.
-/
import GettingThere.MotionTriples
import GettingThere.TranslationBlock

open CrashLogic

namespace Robot

section Blocks

variable {J B B' : Robot → Prop} {p : Prop} (hB : Discipline J B)
include hB

/-- **The checks of a run** may end with a cut, and say so only after it. -/
theorem triple_runCanContinue (start : UInt32) :
    Triple J (Held B p) (robotMotion.runCanContinue start) fun _ => Held B p := by
  have hstop {f : Fault} (hf : f ≠ .profile) {α : Type} {c : Cmd Robot α}
      (hc : Triple J (Held B True) c fun _ => Held B p) :
      Triple J (Held B p) (robotMotion.stopFor f >>= fun _ => c) fun _ => Held B p :=
    ((cuts_motionStop hB).andThen fun _ => hB.neutral (neutral_faultRaise hf)).bind fun _ => hc
  have hfalse : Triple J (Held B True) (pure false) fun _ => Held B p :=
    Triple.pure _ fun _ h => h.any
  refine hB.andThen neutral_stopPressed fun _ => Triple.ite (fun _ => ?_) fun _ => ?_
  · exact (cuts_motionStop hB).andThen fun _ => hfalse
  refine hB.andThen (neutral_ask _) fun _ => Triple.ite (fun _ => hstop (by decide) hfalse) ?_
  intro _
  refine hB.andThen neutral_nowMs fun now => Triple.ite (fun _ => hstop (by decide) ?_) fun _ => ?_
  · exact hB.afterLine hfalse
  · exact triple_return _

variable (hB' : Discipline J B') (hless : ∀ s, B s → B' s) (hpower : Powers B)
  {start : UInt32} {acquireMoving : Bool}
  (hpoll : Triple J (Held B False) (robotMotion.pollMoving (robotMotion.runCanContinue start))
    fun ok s => B' s ∧ (ok = true → B s))
include hB' hless hpower hpoll

omit hB' in
/-- **A round of the drive.** -/
theorem triple_driveRound :
    Triple J (Held B False) (robotMotion.driveRound start acquireMoving) fun ok s =>
      B' s ∧ (ok = none → B s) := by
  have hgo : Triple J (Held B False) (do
      if ← robotMotion.driveActive then
        robotMotion.sleepMs
      return none) fun (ok : Option Bool) s => B' s ∧ (ok = none → B s) := by
    refine hB.andThen neutral_motionDriveActive fun active => ?_
    have hend : Triple J (Held B False) (pure none) fun (ok : Option Bool) s =>
        B' s ∧ (ok = none → B s) := Triple.pure _ fun s h => ⟨hless s h.base, fun _ => h.base⟩
    cases active with
    | true => exact hB.andThen neutral_sleepMs fun _ => hend
    | false => exact hend
  have hstop : Triple J (Held B False) (pure (some false)) fun (ok : Option Bool) s =>
      B' s ∧ (ok = none → B s) := Triple.pure _ fun s h => ⟨hless s h.base, nofun⟩
  refine (triple_motionDriveUpdate hB hpower).bind fun _ => Triple.ite (fun _ => hstop) fun _ => ?_
  refine (triple_runCanContinue hB start).bind fun _ => Triple.ite (fun _ => hstop) fun _ => ?_
  cases acquireMoving with
  | false => exact hgo
  | true =>
    apply hpoll.bind
    rintro (_ | _)
    · exact Triple.pure _ fun s h => ⟨h.1, nofun⟩
    · exact hgo.before fun s h => ⟨h.2 rfl, False.elim⟩

/-- **A block**: after the drive the motors are off, and the scans are brought to an end. -/
theorem triple_driveBlock (forwards : Bool) (duration : UInt32) (heading : Float32)
    {Q : Bool → Robot → Prop}
    (hquiesce : Triple J (Held B' True)
      (robotMotion.quiesce (robotMotion.runCanContinue start)) Q) :
    Triple J (Held B True)
      (robotMotion.driveBlock start forwards duration heading acquireMoving) fun b s =>
        b.elim (Held B True s) fun block => Q block.quiesced s := by
  apply (triple_motionDriveStart hB hpower forwards duration heading).bind
  rintro (_ | _)
  · exact Triple.pure _ fun s h => ⟨h.base, fun _ => h.off rfl⟩
  have hloop : Triple J (Held B False) (robotMotion.driveLoop start acquireMoving) fun _ =>
      Held B' False := by
    refine Triple.look fun t ht => Triple.before (fun _ h => h.1) ?_
    refine Triple.iterate (I := fun _ => Held B False) (fun _ s h => hB.safe s h.base) ?_ _ ()
    intro _
    refine hB.andThen neutral_motionDriveActive fun active => Triple.ite (fun _ => ?_) fun _ => ?_
    · exact Triple.pure _ fun s h => ⟨hless s h.base, False.elim⟩
    apply (triple_driveRound hB hless hpower hpoll).bind
    rintro (_ | ok)
    · exact Triple.pure _ fun s h => ⟨h.2 rfl, False.elim⟩
    · exact Triple.pure _ fun s h => ⟨h.1, False.elim⟩
  refine (hloop.before fun s h => h.on).bind fun ok => (cuts_motionStop hB').andThen fun _ => ?_
  refine hB'.andThen neutral_motionDriveElapsedMs fun actual => ?_
  refine (cuts_motionDriveFinish hB').andThen fun finished => ?_
  exact hquiesce.bind fun quiesced => Triple.pure _ fun s h => h

end Blocks

end Robot
