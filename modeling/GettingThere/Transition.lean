/-
# Machines driven by events

A machine is a partial step function `step : σ → ε → Option σ`: the state after
the event, or `none` when the event cannot happen in that state.  A run is a list
of events, each possible in the state the events before it have led to.

* `run` plays a list of events;
* `Along C` says that every event of a list is taken in a state where `C` allows it;
* `run_invariant` and `run_invariant_along` are the induction over a run, done once;
* `run_ranked` bounds a run by a rank that every step lowers.
-/
import Mathlib.Data.Option.Basic
import Mathlib.Data.List.Basic
import Mathlib.Order.Basic

namespace Transition

variable {σ ε : Type*}

/-- The state after a list of events, or `none` when one of them is not possible. -/
def run (step : σ → ε → Option σ) : σ → List ε → Option σ
  | s, [] => some s
  | s, e :: es => (step s e).bind fun t => run step t es

/-- Every event of the list is taken in a state where `C` allows it. -/
def Along (step : σ → ε → Option σ) (C : σ → ε → Prop) : σ → List ε → Prop
  | _, [] => True
  | s, e :: es => C s e ∧ ∀ t, step s e = some t → Along step C t es

instance decidableAlong (step : σ → ε → Option σ) (C : σ → ε → Prop)
    [∀ s e, Decidable (C s e)] : ∀ s es, Decidable (Along step C s es)
  | _, [] => .isTrue trivial
  | s, e :: es =>
    have : Decidable (∀ t, step s e = some t → Along step C t es) :=
      match step s e with
      | none => .isTrue (by simp)
      | some t =>
        have := decidableAlong step C t es
        decidable_of_iff (Along step C t es) (by simp)
    inferInstanceAs (Decidable (_ ∧ _))

variable {step : σ → ε → Option σ}

@[simp] theorem run_nil (s : σ) : run step s [] = some s := rfl

@[simp] theorem run_cons (s : σ) (e : ε) (es : List ε) :
    run step s (e :: es) = (step s e).bind fun t => run step t es := rfl

/-- A run of two lists is the run of the second from where the first ends. -/
theorem run_append (s : σ) (es fs : List ε) :
    run step s (es ++ fs) = (run step s es).bind fun t => run step t fs := by
  induction es generalizing s with
  | nil => rfl
  | cons e es ih =>
    rw [List.cons_append, run_cons, run_cons]
    cases step s e with
    | none => rfl
    | some t => exact ih t

/-- The last event of a run. -/
theorem run_concat (s : σ) (es : List ε) (e : ε) :
    run step s (es ++ [e]) = (run step s es).bind fun t => step t e := by
  rw [run_append]
  congr 1
  funext t
  cases h : step t e <;> simp [h]

/-- **Invariant rule** for the events a condition allows: what the start has and every
allowed step keeps holds at the end of every allowed run. -/
theorem run_invariant_along {C : σ → ε → Prop} {I : σ → Prop}
    (hstep : ∀ s e t, I s → C s e → step s e = some t → I t) :
    ∀ (es : List ε) (s t : σ), I s → Along step C s es → run step s es = some t → I t := by
  intro es
  induction es with
  | nil =>
    intro s t hs _ hrun
    rw [run_nil, Option.some.injEq] at hrun
    exact hrun ▸ hs
  | cons e es ih =>
    intro s t hs hC hrun
    obtain ⟨u, hu, hrest⟩ := Option.bind_eq_some_iff.mp hrun
    exact ih u t (hstep s e u hs hC.1 hu) (hC.2 u hu) hrest

/-- **Invariant rule**: what the start has and every step keeps holds at the end of
every run. -/
theorem run_invariant {I : σ → Prop}
    (hstep : ∀ s e t, I s → step s e = some t → I t)
    {es : List ε} {s t : σ} (hs : I s) (hrun : run step s es = some t) : I t := by
  have hall : Along step (fun _ _ => True) s es := by
    clear hrun hs
    induction es generalizing s with
    | nil => trivial
    | cons e es ih => exact ⟨trivial, fun u _ => ih⟩
  exact run_invariant_along (fun s e t h _ => hstep s e t h) es s t hs hall hrun

/-- Two conditions along one run. -/
theorem Along.and {C D : σ → ε → Prop} {s : σ} {es : List ε} (h : Along step C s es)
    (h' : Along step D s es) : Along step (fun s e => C s e ∧ D s e) s es := by
  induction es generalizing s with
  | nil => trivial
  | cons e es ih => exact ⟨⟨h.1, h'.1⟩, fun u hu => ih (h.2 u hu) (h'.2 u hu)⟩

/-- A condition that holds of a run holds of its beginning. -/
theorem Along.append_left {C : σ → ε → Prop} {s : σ} {es fs : List ε}
    (h : Along step C s (es ++ fs)) : Along step C s es := by
  induction es generalizing s with
  | nil => trivial
  | cons e es ih => exact ⟨h.1, fun u hu => ih (h.2 u hu)⟩

/-- The condition at one event in the middle of a run. -/
theorem Along.at {C : σ → ε → Prop} {s u : σ} {es fs : List ε} {e : ε}
    (h : Along step C s (es ++ e :: fs)) (hrun : run step s es = some u) : C u e := by
  induction es generalizing s with
  | nil =>
    rw [run_nil, Option.some.injEq] at hrun
    exact hrun ▸ h.1
  | cons d es ih =>
    obtain ⟨v, hv, hrest⟩ := Option.bind_eq_some_iff.mp hrun
    exact ih (h.2 v hv) hrest

/-- A condition that every event meets in the state it is taken in holds along the run. -/
theorem along_of_forall {C : σ → ε → Prop} {s : σ} {es : List ε}
    (h : ∀ pre e post u, es = pre ++ e :: post → run step s pre = some u → C u e) :
    Along step C s es := by
  induction es generalizing s with
  | nil => trivial
  | cons d es ih =>
    refine ⟨h [] d es s rfl rfl, fun v hv => ih ?_⟩
    intro pre e post u hes hrun
    apply h (d :: pre) e post u (by rw [hes, List.cons_append])
    rw [run_cons, hv]
    exact hrun

/-- **Ranked invariant rule**: when every step of a state of rank `n` leads to a state of a
smaller rank, a run from rank `n` has at most `n` events. -/
theorem run_ranked {I : σ → ℕ → Prop}
    (hstep : ∀ s e t n, I s n → step s e = some t → ∃ m, m < n ∧ I t m) :
    ∀ (es : List ε) (s t : σ) (n : ℕ), I s n → run step s es = some t →
      ∃ m, I t m ∧ es.length + m ≤ n := by
  intro es
  induction es with
  | nil =>
    intro s t n hs hrun
    rw [run_nil, Option.some.injEq] at hrun
    exact ⟨n, hrun ▸ hs, by simp⟩
  | cons e es ih =>
    intro s t n hs hrun
    obtain ⟨u, hu, hrest⟩ := Option.bind_eq_some_iff.mp hrun
    obtain ⟨m, hlt, hm⟩ := hstep s e u n hs hu
    obtain ⟨k, hk, hle⟩ := ih u t m hm hrest
    refine ⟨k, hk, ?_⟩
    rw [List.length_cons]
    omega

end Transition
