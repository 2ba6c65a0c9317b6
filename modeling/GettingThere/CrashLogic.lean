/-
# Commands that can be cut off

A command `Cmd σ α` changes a state and returns a result, unless it is cut off on the way:
then there is no result, and the state stays as it was at that point.  A cut stands for a
loss of power, and also for the point up to which a run that goes on is observed.

`wp c Q R s` says that from `s` the command `c` either returns `a` in a state with `Q a` or
is cut off in a state with `R`.  The rules below take a command apart:

* `wp_bind`, `wp_pure`, `wp_get`, `wp_modify`, `wp_cut` for the primitive commands;
* `wp_mono` for weaker conditions;
* `wp_iterate` for a loop, from an invariant of one round, and `wp_iterate_ranked` for a loop that
  ends before it is cut off.

What holds of every state in which a command returns or is cut off is `always`.
-/
import Mathlib.Logic.Basic
import Mathlib.Tactic.Common

namespace CrashLogic

variable {σ α β γ : Type}

/-- A command on states `σ` with results in `α`. -/
abbrev Cmd (σ α : Type) := OptionT (StateM σ) α

/-- Cuts the run off. -/
def cut : Cmd σ α := failure

/-- The result and the state a command leaves behind. -/
def exec (c : Cmd σ α) (s : σ) : Option α × σ := c.run.run s

/-- Repeats a command, at most `n` times, until it leaves the loop with a result; a loop
that has not ended by then is cut off. -/
def iterate : ℕ → (β → Cmd σ (β ⊕ γ)) → β → Cmd σ γ
  | 0, _, _ => cut
  | n + 1, body, b => do
    match ← body b with
    | .inl b => iterate n body b
    | .inr c => pure c

/-- A command on the first part of a state; the second part keeps notes on the run. -/
def onFirst {τ : Type} (c : Cmd σ α) : Cmd (σ × τ) α :=
  OptionT.mk fun s => ((exec c s.1).1, ((exec c s.1).2, s.2))

/-! ## Weakest preconditions -/

/-- From `s` the command returns with `Q` or is cut off with `R`. -/
def wp (c : Cmd σ α) (Q : α → σ → Prop) (R : σ → Prop) (s : σ) : Prop :=
  match exec c s with
  | (some a, t) => Q a t
  | (none, t) => R t

variable {c : Cmd σ α} {f : α → Cmd σ β} {Q Q' : α → σ → Prop} {R R' : σ → Prop} {s : σ}

@[simp] theorem exec_pure (a : α) (s : σ) : exec (pure a : Cmd σ α) s = (some a, s) := rfl

@[simp] theorem exec_get (s : σ) : exec (get : Cmd σ σ) s = (some s, s) := rfl

@[simp] theorem exec_modify (g : σ → σ) (s : σ) :
    exec (modify g : Cmd σ Unit) s = (some (), g s) := rfl

@[simp] theorem exec_cut (s : σ) : exec (cut : Cmd σ α) s = (none, s) := rfl

theorem exec_bind (c : Cmd σ α) (f : α → Cmd σ β) (s : σ) :
    exec (c >>= f) s =
      match exec c s with
      | (some a, t) => exec (f a) t
      | (none, t) => (none, t) := by
  unfold exec
  rw [OptionT.run_bind, Option.elimM, StateT.run_bind]
  rcases hc : c.run.run s with ⟨_ | a, t⟩
  · rfl
  · rfl

@[simp] theorem wp_pure {a : α} : wp (pure a) Q R s ↔ Q a s := Iff.rfl

@[simp] theorem wp_get {Q : σ → σ → Prop} : wp get Q R s ↔ Q s s := Iff.rfl

@[simp] theorem wp_modify {g : σ → σ} {Q : Unit → σ → Prop} : wp (modify g) Q R s ↔ Q () (g s) :=
  Iff.rfl

@[simp] theorem wp_set {t : σ} {Q : PUnit → σ → Prop} : wp (set t) Q R s ↔ Q ⟨⟩ t := Iff.rfl

@[simp] theorem wp_cut : wp (cut : Cmd σ α) Q R s ↔ R s := Iff.rfl

@[simp] theorem wp_bind {Q : β → σ → Prop} :
    wp (c >>= f) Q R s ↔ wp c (fun a t => wp (f a) Q R t) R s := by
  unfold wp
  rw [exec_bind]
  rcases exec c s with ⟨_ | a, t⟩
  · rfl
  · rfl

@[simp] theorem wp_onFirst {τ : Type} {n : τ} {Q : α → σ × τ → Prop} {R : σ × τ → Prop} :
    wp (onFirst c) Q R (s, n) ↔ wp c (fun a t => Q a (t, n)) (fun t => R (t, n)) s := by
  have hexec : exec (onFirst c : Cmd (σ × τ) α) (s, n) = ((exec c s).1, ((exec c s).2, n)) := rfl
  unfold wp
  rw [hexec]
  rcases exec c s with ⟨_ | a, t⟩
  · rfl
  · rfl

/-- A command meets weaker conditions too. -/
theorem wp_mono (h : wp c Q R s) (hQ : ∀ a t, Q a t → Q' a t) (hR : ∀ t, R t → R' t) :
    wp c Q' R' s := by
  unfold wp at h ⊢
  rcases hexec : exec c s with ⟨_ | a, t⟩
  · rw [hexec] at h
    exact hR t h
  · rw [hexec] at h
    exact hQ a t h

/-- Conditions that hold in any case. -/
theorem wp_of_forall (hQ : ∀ a t, Q a t) (hR : ∀ t, R t) : wp c Q R s := by
  unfold wp
  rcases exec c s with ⟨_ | a, t⟩
  · exact hR t
  · exact hQ a t

/-- What a command that has returned leaves behind. -/
theorem wp_returned {a : α} (h : wp c Q R s) (hreturned : (exec c s).1 = some a) :
    Q a (exec c s).2 := by
  unfold wp at h
  rcases hexec : exec c s with ⟨_ | b, t⟩
  · rw [hexec] at hreturned
    cases hreturned
  · rw [hexec] at h hreturned
    cases hreturned
    exact h

/-- A command that is not cut off, and has a known result. -/
theorem exists_exec {a : α} (h : wp c (fun b _ => b = a) (fun _ => False) s) :
    ∃ t, exec c s = (some a, t) := by
  unfold wp at h
  rcases hexec : exec c s with ⟨_ | b, t⟩
  · rw [hexec] at h
    exact h.elim
  · rw [hexec] at h
    exact ⟨t, by rw [h]⟩

/-- **Ranked loop rule**: a round lowers the rank by one, or leaves the loop with `Q`; at rank
zero the loop may be cut off. -/
theorem wp_iterate_ranked {body : β → Cmd σ (β ⊕ γ)} {I : ℕ → β → σ → Prop} {Q : γ → σ → Prop}
    (hbody : ∀ m b s, I (m + 1) b s →
      wp (body b) (fun r t => r.elim (fun b' => I m b' t) fun a => Q a t) R s)
    (hcut : ∀ b s, I 0 b s → R s) :
    ∀ (n : ℕ) (b : β) (s : σ), I n b s → wp (iterate n body b) Q R s := by
  intro n
  induction n with
  | zero => exact fun b s h => hcut b s h
  | succ n ih =>
    intro b s h
    rw [iterate, wp_bind]
    refine wp_mono (hbody n b s h) ?_ fun t ht => ht
    rintro (b' | a) t ht
    · exact ih b' t ht
    · exact ht

/-- **Loop rule**: a round that keeps the invariant, or leaves the loop with `Q`. -/
theorem wp_iterate {body : β → Cmd σ (β ⊕ γ)} {I : β → σ → Prop} {Q : γ → σ → Prop}
    (hbody : ∀ b s, I b s → wp (body b) (fun r t => r.elim (fun b' => I b' t) fun a => Q a t) R s)
    (hcut : ∀ b s, I b s → R s) :
    ∀ (n : ℕ) (b : β) (s : σ), I b s → wp (iterate n body b) Q R s :=
  wp_iterate_ranked (I := fun _ => I) (fun _ => hbody) hcut

/-! ## What a run leaves behind -/

/-- The state a command leaves behind has what returning and being cut off have in common. -/
theorem always (h : wp c (fun _ t => R t) R s) : R (exec c s).2 := by
  unfold wp at h
  rcases hexec : exec c s with ⟨_ | a, t⟩
  · rw [hexec] at h
    exact h
  · rw [hexec] at h
    exact h

end CrashLogic
