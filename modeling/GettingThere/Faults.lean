/-
# The fault mask (`getting_there/faults.c`)

One bit for each fault condition.  `fault_raise` and `fault_clear` are atomic, so the mask
is a finite set of faults.  The bit `stopLatched` is the STOP latch.
-/
import Mathlib.Data.Finset.Insert
import Mathlib.Data.Finset.Basic

/-- `fault_t`. -/
inductive Fault
  | imu
  | gyroSaturated
  | heading
  | turn
  | wifiLost
  | wifiScan
  | bleRadio
  | payload
  | stopLatched
  | runLimit
  | noDirection
  | translationLimit
  | report
  | profile
  | startButton
  deriving DecidableEq, Repr

/-- The fault mask. -/
abbrev Faults := Finset Fault

namespace Faults

/-- `fault_raise`. -/
def raise (faults : Faults) (f : Fault) : Faults := insert f faults

/-- `fault_clear`. -/
def clear (faults : Faults) (f : Fault) : Faults := faults.erase f

@[simp] theorem mem_raise {faults : Faults} {f g : Fault} :
    g ∈ faults.raise f ↔ g = f ∨ g ∈ faults := Finset.mem_insert

@[simp] theorem mem_clear {faults : Faults} {f g : Fault} :
    g ∈ faults.clear f ↔ g ≠ f ∧ g ∈ faults := Finset.mem_erase

end Faults
