/-
# The loudest source

Readings come in rounds and from several sources.  In a round the first of the loudest readings
counts; its source becomes the target, and from then on only the target is listened to.

* `loudest` is the reading of a round that counts, and `loudest_concat` how one more reading
  changes it;
* `targetOf` is the target after some rounds, and `targetOf_eq_findSome` says which round fixed it;
* `targetOf_append` says that it stays.
-/
import Mathlib.Data.List.MinMax
import Mathlib.Tactic.Common

namespace LoudestSource

variable {α ι β : Type*} (source : α → ι)

/-- A reading is listened to: any reading at first, later the target's. -/
def Audible (target : Option ι) (a : α) : Prop := ∀ i ∈ target, source a = i

@[simp] theorem audible_none {a : α} : Audible source none a := by
  rintro i ⟨⟩

@[simp] theorem audible_some {i : ι} {a : α} : Audible source (some i) a ↔ source a = i := by
  simp [Audible]

variable [DecidableEq ι]

instance decidableAudible (target : Option ι) (a : α) : Decidable (Audible source target a) :=
  match target with
  | none => .isTrue (audible_none source)
  | some i => decidable_of_iff (source a = i) (audible_some source).symm

variable [LinearOrder β] (level : α → β)

/-- The reading of a round that counts: the first loudest one that is listened to. -/
def loudest (target : Option ι) (round : List α) : Option α :=
  (round.filter fun a => Audible source target a).argmax level

/-- The target after a round. -/
def lock (target : Option ι) (round : List α) : Option ι :=
  target.or ((loudest source level target round).map source)

/-- The target after some rounds, the latest first. -/
def targetOf : List (List α) → Option ι
  | [] => none
  | round :: older => lock source level (targetOf older) round

variable {source level} {target : Option ι} {round : List α} {a b : α} {i : ι}

/-! ## A round -/

@[simp] theorem loudest_nil : loudest source level target [] = none := rfl

/-- A reading that is not listened to changes nothing. -/
theorem loudest_concat_deaf (h : ¬ Audible source target a) :
    loudest source level target (round ++ [a]) = loudest source level target round := by
  unfold loudest
  rw [List.filter_append, List.filter_singleton, decide_eq_false h]
  exact congrArg _ (List.append_nil _)

/-- A reading that is listened to counts if it is louder than all before it. -/
theorem loudest_concat (h : Audible source target a) :
    loudest source level target (round ++ [a]) =
      match loudest source level target round with
      | none => some a
      | some c => if level c < level a then some a else some c := by
  unfold loudest
  rw [List.filter_append, List.filter_singleton, decide_eq_true h]
  apply (List.argmax_concat level a _).trans
  cases (round.filter fun a => Audible source target a).argmax level with
  | none => rfl
  | some c => rfl

/-- What the reading of a round is: one of it, listened to, and no other one is louder. -/
theorem loudest_spec (h : loudest source level target round = some a) :
    a ∈ round ∧ Audible source target a ∧
      ∀ b ∈ round, Audible source target b → level b ≤ level a := by
  have hmem := List.mem_filter.mp (List.argmax_mem h)
  refine ⟨hmem.1, of_decide_eq_true hmem.2, ?_⟩
  intro b hb hheard
  exact List.le_of_mem_argmax (List.mem_filter.mpr ⟨hb, decide_eq_true hheard⟩) h

/-- Without a target every reading is listened to. -/
theorem loudest_none (round : List α) :
    loudest source level none round = round.argmax level := by
  unfold loudest
  rw [List.filter_eq_self.mpr fun a _ => decide_eq_true (audible_none source)]

/-! ## Rounds -/

/-- **Which round fixes the target**: the first one in which anything was heard. -/
theorem targetOf_eq_findSome (rounds : List (List α)) :
    targetOf source level rounds =
      rounds.reverse.findSome? fun round => (round.argmax level).map source := by
  induction rounds with
  | nil => rfl
  | cons round older ih =>
    rw [List.reverse_cons, List.findSome?_append, ← ih]
    show lock source level (targetOf source level older) round = _
    cases targetOf source level older with
    | none =>
      unfold lock
      rw [loudest_none]
      simp
    | some i => rfl

/-- **The target stays** whatever is heard later. -/
theorem targetOf_append (newer : List (List α)) {older : List (List α)}
    (h : targetOf source level older = some i) :
    targetOf source level (newer ++ older) = some i := by
  induction newer with
  | nil => exact h
  | cons round newer ih =>
    show lock source level (targetOf source level (newer ++ older)) round = some i
    rw [ih]
    rfl

/-- The reading that counts is the target's, once its round is over. -/
theorem source_eq_lock (h : loudest source level target round = some a) :
    lock source level target round = some (source a) := by
  unfold lock
  cases target with
  | none => rw [h]; rfl
  | some i =>
    have := (loudest_spec h).2.1
    rw [audible_some] at this
    rw [this]
    rfl

end LoudestSource
