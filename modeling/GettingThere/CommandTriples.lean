/-
# Triples for commands that can be cut off

`Triple J P c Q`: from `P` the command `c` returns `a` in a state with `Q a`, and wherever it is
cut off `J` holds.  A triple is about all states, so that what a command does is said once and
used wherever it is called:

* `Triple.pure`, `Triple.bind`, `Triple.look`, `Triple.ite` take a command apart;
* `Triple.before`, `Triple.after` and `Triple.within` weaken its conditions, `Triple.and` joins two;
* `Triple.iterate` is the rule for a loop.

`Steps R c`: wherever the command comes to, the state is related by `R` to the one before.  For a
preorder this is closed under everything that commands are built from.
-/
import GettingThere.CrashLogic
import Mathlib.Order.Defs.Unbundled

namespace CrashLogic

variable {σ α β γ : Type}

/-- From `P` the command returns with `Q`, and `J` holds wherever it is cut off. -/
def Triple (J P : σ → Prop) (c : Cmd σ α) (Q : α → σ → Prop) : Prop := ∀ s, P s → wp c Q J s

namespace Triple

variable {J P P' : σ → Prop} {c : Cmd σ α} {f : α → Cmd σ β} {M M' : α → σ → Prop}
  {Q : β → σ → Prop}

theorem pure (a : α) (h : ∀ s, P s → M a s) : Triple J P (pure a) M := h

theorem bind (hc : Triple J P c M) (hf : ∀ a, Triple J (M a) (f a) Q) :
    Triple J P (c >>= f) Q := by
  intro s hs
  rw [wp_bind]
  exact wp_mono (hc s hs) (fun a t ht => hf a t ht) fun _ ht => ht

/-- A weaker condition before. -/
theorem before (hP : ∀ s, P' s → P s) (h : Triple J P c M) : Triple J P' c M :=
  fun s hs => h s (hP s hs)

/-- A weaker condition after. -/
theorem after (h : Triple J P c M) (hM : ∀ a s, M a s → M' a s) : Triple J P c M' :=
  fun s hs => wp_mono (h s hs) (fun a t ht => hM a t ht) fun _ ht => ht

/-- A weaker condition where it is cut off. -/
theorem within {J' : σ → Prop} (hJ : ∀ s, J s → J' s) (h : Triple J P c M) : Triple J' P c M :=
  fun s hs => wp_mono (h s hs) (fun _ _ ht => ht) hJ

/-- The state is looked at. -/
theorem look {f : σ → Cmd σ β} (hf : ∀ t, P t → Triple J (fun s => P s ∧ s = t) (f t) Q) :
    Triple J P (get >>= f) Q := by
  intro s hs
  rw [wp_bind]
  exact hf s hs s ⟨hs, rfl⟩

/-- One way or the other. -/
theorem ite {p : Prop} [Decidable p] {a b : Cmd σ α} (ha : p → Triple J P a M)
    (hb : ¬ p → Triple J P b M) : Triple J P (if p then a else b) M := by
  split
  · rename_i hp
    exact ha hp
  · rename_i hp
    exact hb hp

/-- Two results about one command. -/
theorem and {J' : σ → Prop} (h : Triple J P c M) (h' : Triple J' P c M') :
    Triple (fun s => J s ∧ J' s) P c fun a s => M a s ∧ M' a s := by
  intro s hs
  have hc := h s hs
  have hc' := h' s hs
  unfold wp at hc hc' ⊢
  rcases hexec : exec c s with ⟨_ | a, t⟩
  · rw [hexec] at hc hc'
    exact ⟨hc, hc'⟩
  · rw [hexec] at hc hc'
    exact ⟨hc, hc'⟩

/-- A fact about the data, whatever the state. -/
theorem given {q : Prop} (h : q → Triple J P c M) : Triple J (fun s => P s ∧ q) c M :=
  fun s hs => h hs.2 s hs.1

/-- A loop, from an invariant of one round. -/
theorem iterate {body : β → Cmd σ (β ⊕ γ)} {I : β → σ → Prop} {Q : γ → σ → Prop}
    (hI : ∀ b s, I b s → J s)
    (hbody : ∀ b, Triple J (I b) (body b) fun r s => r.elim (fun b' => I b' s) fun c => Q c s)
    (n : ℕ) (b : β) : Triple J (I b) (iterate n body b) Q :=
  wp_iterate (I := I) hbody hI n b

/-- A command on the first part leaves the second one alone. -/
theorem onFirst {τ : Type} (hc : Triple J P c M) (t : τ) :
    Triple (fun s : σ × τ => J s.1 ∧ s.2 = t) (fun s => P s.1 ∧ s.2 = t) (onFirst c)
      fun a s => M a s.1 ∧ s.2 = t := by
  rintro ⟨s, t⟩ ⟨hs, rfl⟩
  rw [wp_onFirst]
  exact wp_mono (hc s hs) (fun _ _ h => ⟨h, rfl⟩) fun _ h => ⟨h, rfl⟩

end Triple

/-! ## Steps along a relation -/

/-- The command leads to related states only, also where it is cut off. -/
def Steps (R : σ → σ → Prop) (c : Cmd σ α) : Prop := ∀ s, wp c (fun _ t => R s t) (R s) s

namespace Steps

variable {R R' : σ → σ → Prop} {c : Cmd σ α} {f : α → Cmd σ β}

theorem modify {g : σ → σ} (hg : ∀ s, R s (g s)) : Steps R (modify g) := hg

/-- One way or the other. -/
theorem ite {p : Prop} [Decidable p] {a b : Cmd σ α} (ha : Steps R a) (hb : Steps R b) :
    Steps R (if p then a else b) := by
  split
  · exact ha
  · exact hb

/-- A weaker relation. -/
theorem mono (h : Steps R c) (hR : ∀ s t, R s t → R' s t) : Steps R' c :=
  fun s => wp_mono (h s) (fun _ t ht => hR s t ht) fun t ht => hR s t ht

/-- A condition that related states share. -/
theorem triple {J P : σ → Prop} (h : Steps R c) (hP : ∀ s t, R s t → P s → P t)
    (hJ : ∀ s, P s → J s) : Triple J P c fun _ => P :=
  fun s hs => wp_mono (h s) (fun _ t ht => hP s t ht hs) fun t ht => hJ t (hP s t ht hs)

/-- The state is looked at. -/
theorem look {f : σ → Cmd σ β} (hf : ∀ s, Steps R (f s)) : Steps R (get >>= f) := by
  intro s
  rw [wp_bind]
  exact hf s s

variable [IsPreorder σ R]

theorem pure (a : α) : Steps R (pure a : Cmd σ α) := fun s => refl_of R s

theorem bind (hc : Steps R c) (hf : ∀ a, Steps R (f a)) : Steps R (c >>= f) := by
  intro s
  rw [wp_bind]
  refine wp_mono (hc s) ?_ fun _ ht => ht
  intro a t ht
  exact wp_mono (hf a t) (fun _ _ hu => trans_of R ht hu) fun _ hu => trans_of R ht hu

/-- A loop, from one round. -/
theorem iterate {body : β → Cmd σ (β ⊕ γ)} (hbody : ∀ b, Steps R (body b)) (n : ℕ) (b : β) :
    Steps R (iterate n body b) := by
  intro s
  refine wp_iterate (I := fun _ t => R s t) ?_ (fun _ _ ht => ht) n b s (refl_of R s)
  intro b t ht
  refine wp_mono (hbody b t) ?_ fun _ hu => trans_of R ht hu
  rintro (b' | c) u hu
  · exact trans_of R ht hu
  · exact trans_of R ht hu

end Steps

end CrashLogic
