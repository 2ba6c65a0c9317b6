/-
# Machines in time

`Transition` plays events one after another; here each comes at a time, no earlier than the
one before it, and an observer takes notes beside the state.  The machine itself sees the time
only through its clock, a 32-bit counter that wraps (`clockAt`).

* `timedStep` is one event at a time, with the observer's note;
* `le_elapsed_iff` compares two readings of the clock: their difference is the time between
  them as long as this is below 2^32, and never more than it.
-/
import GettingThere.Transition
import Mathlib.Data.Nat.ModEq

namespace Transition

/-! ## The clock -/

/-- What a 32-bit counter of milliseconds shows at a time. -/
def clockAt (time : ℕ) : UInt32 := UInt32.ofNat time

theorem toNat_elapsed {a b : ℕ} (h : a ≤ b) :
    (clockAt b - clockAt a).toNat = (b - a) % 2 ^ 32 := by
  unfold clockAt
  rw [UInt32.toNat_sub, UInt32.toNat_ofNat', UInt32.toNat_ofNat']
  omega

/-- The clock never shows more than the time that has passed. -/
theorem elapsed_le {a b : ℕ} (h : a ≤ b) : (clockAt b - clockAt a).toNat ≤ b - a := by
  rw [toNat_elapsed h]
  exact Nat.mod_le _ _

/-- Over less than 2^32 ms the clock shows the time that has passed, also across its wrap. -/
theorem le_elapsed_iff {a b : ℕ} (limit : UInt32) (h : a ≤ b) (hspan : b - a < 2 ^ 32) :
    limit ≤ clockAt b - clockAt a ↔ limit.toNat ≤ b - a := by
  rw [UInt32.le_iff_toNat_le, toNat_elapsed h, Nat.mod_eq_of_lt hspan]

/-! ## Runs in time -/

/-- A state of a machine, the time of its last event and what an observer has noted. -/
structure Timed (σ ν : Type*) where
  time : ℕ
  state : σ
  note : ν
  deriving DecidableEq

variable {σ ε ν : Type*}

/-- An event at a time; `observe` sees the state before it, the time, the event and the state
after it. -/
def timedStep (step : ℕ → σ → ε → Option σ) (observe : Timed σ ν → ℕ → ε → σ → ν)
    (x : Timed σ ν) (move : ℕ × ε) : Option (Timed σ ν) :=
  if x.time ≤ move.1 then
    (step move.1 x.state move.2).map fun s => ⟨move.1, s, observe x move.1 move.2 s⟩
  else none

variable {step : ℕ → σ → ε → Option σ} {observe : Timed σ ν → ℕ → ε → σ → ν}

theorem timedStep_eq_some {x y : Timed σ ν} {t : ℕ} {e : ε} :
    timedStep step observe x (t, e) = some y ↔
      x.time ≤ t ∧ ∃ s, step t x.state e = some s ∧ y = ⟨t, s, observe x t e s⟩ := by
  unfold timedStep
  dsimp only
  by_cases ht : x.time ≤ t
  · rw [if_pos ht, Option.map_eq_some_iff]
    constructor
    · rintro ⟨s, hs, rfl⟩
      exact ⟨ht, s, hs, rfl⟩
    · rintro ⟨-, s, hs, rfl⟩
      exact ⟨s, hs, rfl⟩
  · rw [if_neg ht]
    constructor
    · intro h
      cases h
    · intro h
      exact absurd h.1 ht

end Transition
