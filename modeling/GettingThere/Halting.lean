/-
# Commands that return

A command halts if it returns from every state.  A loop halts if each of its rounds does and a
measure of the state goes down from round to round: then it ends before the rounds are used up
for which it is observed.

What a round does to the measure is shown with `wp`, where the round may be cut off; that it is
not cut off is shown here.

A command costs `n` if it raises a measure by `n` at most.  Costs add up along a sequence of
commands, and `Costs.and` carries them beside what else is known of a command.
-/
import GettingThere.CrashLogic

namespace CrashLogic

variable {σ τ α β γ : Type} {c : Cmd σ α} {f : α → Cmd σ β}

/-- The command returns from every state. -/
def Halts (c : Cmd σ α) : Prop := ∀ s, (exec c s).1.isSome = true

namespace Halts

theorem pure (a : α) : Halts (pure a : Cmd σ α) := fun _ => rfl

theorem get : Halts (get : Cmd σ σ) := fun _ => rfl

theorem modify (g : σ → σ) : Halts (modify g : Cmd σ Unit) := fun _ => rfl

theorem bind (hc : Halts c) (hf : ∀ a, Halts (f a)) : Halts (c >>= f) := by
  intro s
  have hreturns := hc s
  rw [exec_bind]
  rcases hexec : exec c s with ⟨_ | a, t⟩
  · rw [hexec] at hreturns
    exact absurd hreturns Bool.false_ne_true
  · exact hf a t

theorem ite {p : Prop} [Decidable p] {a b : Cmd σ α} (ha : Halts a) (hb : Halts b) :
    Halts (if p then a else b) := by
  split
  · exact ha
  · exact hb

theorem onFirst (hc : Halts c) : Halts (onFirst c : Cmd (σ × τ) α) := fun s => hc s.1

/-- **A loop halts** if its rounds do and a measure goes down from one round to the next. -/
theorem iterate {body : β → Cmd σ (β ⊕ γ)} (μ : β → σ → ℕ) (hbody : ∀ b, Halts (body b))
    (hμ : ∀ b s, wp (body b) (fun r t => ∀ b', r = .inl b' → μ b' t < μ b s) (fun _ => True) s)
    (n : ℕ) (b : β) (s : σ) (hn : μ b s < n) : (exec (iterate n body b) s).1.isSome = true := by
  induction n generalizing b s with
  | zero => exact absurd hn (Nat.not_lt_zero _)
  | succ n ih =>
    have hreturns := hbody b s
    have hdown := hμ b s
    unfold wp at hdown
    rw [CrashLogic.iterate, exec_bind]
    rcases hexec : exec (body b) s with ⟨_ | r, t⟩
    · rw [hexec] at hreturns
      exact absurd hreturns Bool.false_ne_true
    · rw [hexec] at hdown
      cases r with
      | inl b' =>
        have hlt := hdown b' rfl
        exact ih b' t (by omega)
      | inr c => rfl

end Halts

/-! ## Costs -/

/-- The command raises the measure by `n` at most. -/
def Costs (μ : σ → ℕ) (n : ℕ) (c : Cmd σ α) : Prop :=
  ∀ s, wp c (fun _ t => μ t ≤ μ s + n) (fun _ => True) s

namespace Costs

variable {μ : σ → ℕ} {m n : ℕ}

theorem pure (a : α) : Costs μ 0 (pure a : Cmd σ α) := fun _ => Nat.le_refl _

theorem get : Costs μ 0 (get : Cmd σ σ) := fun _ => Nat.le_refl _

theorem modify {g : σ → σ} (hg : ∀ s, μ (g s) ≤ μ s) : Costs μ 0 (modify g : Cmd σ Unit) := hg

theorem mono (hc : Costs μ m c) (hmn : m ≤ n) : Costs μ n c :=
  fun s => wp_mono (hc s) (fun _ _ ht => Nat.le_trans ht (Nat.add_le_add_left hmn _)) fun _ _ =>
    trivial

/-- The costs of two commands add up. -/
theorem bind (hc : Costs μ m c) (hf : ∀ a, Costs μ n (f a)) : Costs μ (m + n) (c >>= f) := by
  intro s
  rw [wp_bind]
  refine wp_mono (hc s) ?_ fun _ _ => trivial
  intro a t ht
  refine wp_mono (hf a t) ?_ fun _ _ => trivial
  intro b u hu
  omega

theorem ite {p : Prop} [Decidable p] {a b : Cmd σ α} (ha : Costs μ n a) (hb : Costs μ n b) :
    Costs μ n (if p then a else b) := by
  split
  · exact ha
  · exact hb

theorem onFirst (hc : Costs μ n c) :
    Costs (fun x : σ × τ => μ x.1) n (CrashLogic.onFirst c) := by
  rintro ⟨s, note⟩
  rw [wp_onFirst]
  exact hc s

/-- What a command costs, beside what else it does. -/
theorem and {Q : α → σ → Prop} {R : σ → Prop} {s : σ} (hc : Costs μ n c) (h : wp c Q R s) :
    wp c (fun a t => Q a t ∧ μ t ≤ μ s + n) R s := by
  have hcost := hc s
  unfold wp at h hcost ⊢
  rcases hexec : exec c s with ⟨_ | a, t⟩
  · rw [hexec] at h
    exact h
  · rw [hexec] at h hcost
    exact ⟨h, hcost⟩

end Costs

end CrashLogic
