/-
# The least and the greatest value so far

A loop that keeps the least and the greatest of the values it sees starts from a pair that no value
can leave in place: `ceil`, which is above every value, and `floor`, below every value.

* `Running.add`: one more value;
* `Running.extremes`: once there is a value, the pair is the least and the greatest one;
* `Extremes.lt_iff`: two such pairs decide whether all values of one list
  are below all values of another.
-/
import Mathlib.Order.Lattice
import Mathlib.Tactic.Common

namespace RunningRange

variable {α : Type} [LinearOrder α]

/-- The least and the greatest of the values. -/
structure Extremes (values : List α) (lo hi : α) : Prop where
  least : lo ∈ values
  greatest : hi ∈ values
  bounds : ∀ v ∈ values, lo ≤ v ∧ v ≤ hi

/-- What the loop keeps: the two ends it starts from, or the least and the greatest value. -/
def Running (ceil floor : α) (values : List α) (lo hi : α) : Prop :=
  values = [] ∧ lo = ceil ∧ hi = floor ∨ Extremes values lo hi

variable {ceil floor lo hi v : α} {values : List α}

theorem Running.start : Running ceil floor [] ceil floor := Or.inl ⟨rfl, rfl, rfl⟩

theorem Running.extremes (h : Running ceil floor values lo hi) (hne : values ≠ []) :
    Extremes values lo hi := h.resolve_left fun h => hne h.1

/-- One more value. -/
theorem Running.add (h : Running ceil floor values lo hi) (hfloor : floor ≤ v) (hceil : v ≤ ceil) :
    Running ceil floor (v :: values) (if v < lo then v else lo) (if hi < v then v else hi) := by
  right
  obtain ⟨hnil, hlo, hhi⟩ | h := h
  · subst hnil hlo hhi
    have hlo : (if v < lo then v else lo) = v := by
      split_ifs with hv
      · rfl
      · exact le_antisymm (not_lt.mp hv) hceil
    have hhi : (if hi < v then v else hi) = v := by
      split_ifs with hv
      · rfl
      · exact le_antisymm hfloor (not_lt.mp hv)
    rw [hlo, hhi]
    exact ⟨List.mem_singleton_self v, List.mem_singleton_self v, by simp⟩
  · constructor
    · split_ifs
      · exact List.mem_cons_self
      · exact List.mem_cons_of_mem _ h.least
    · split_ifs
      · exact List.mem_cons_self
      · exact List.mem_cons_of_mem _ h.greatest
    · intro w hw
      rcases List.mem_cons.mp hw with rfl | hw
      · refine ⟨?_, ?_⟩
        · split_ifs with hlt
          · exact le_refl w
          · exact not_lt.mp hlt
        · split_ifs with hlt
          · exact le_refl w
          · exact not_lt.mp hlt
      · obtain ⟨hlo, hhi⟩ := h.bounds w hw
        refine ⟨?_, ?_⟩
        · split_ifs with hlt
          · exact le_trans (le_of_lt hlt) hlo
          · exact hlo
        · split_ifs with hlt
          · exact le_trans hhi (le_of_lt hlt)
          · exact hhi

/-- All values of one list are below all values of another. -/
def Below (values above : List α) : Prop := ∀ v ∈ values, ∀ w ∈ above, v < w

theorem Extremes.lt_iff {above : List α} {lo' hi' : α} (h : Extremes values lo hi)
    (h' : Extremes above lo' hi') : hi < lo' ↔ Below values above := by
  constructor
  · intro hlt v hv w hw
    exact lt_of_le_of_lt (h.bounds v hv).2 (lt_of_lt_of_le hlt (h'.bounds w hw).1)
  · intro hbelow
    exact hbelow hi h.greatest lo' h'.least

end RunningRange
