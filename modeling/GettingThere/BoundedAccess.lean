/-
# Accesses that stay in bounds

C gives no meaning to a read past the end of an object or a write outside of it, and a bit
field silently keeps the low bits of a value that is too large.  Here each of the three is a
`Violation`: code written with these accesses either keeps inside its objects, and computes
what it computes without the checks, or stops.

* `fetch` and `slice` read, `store` copies into a `Buffer`, `narrow` assigns a bit field;
* `either` is C's `||`, whose right operand may only be looked at when the left one is false.
-/
import GettingThere.Buffer
import Mathlib.Algebra.Group.Nat.Defs

namespace BoundedAccess

/-- What an access can do wrong. -/
inductive Violation
  | readPast
  | writtenOutside
  | narrowed
  deriving DecidableEq, Repr

variable {α : Type*} {size : ℕ}

/-- `xs[i]`. -/
def fetch (xs : List α) (i : ℕ) : Except Violation α :=
  match xs[i]? with
  | some a => .ok a
  | none => .error .readPast

/-- The `n` items from position `off` on. -/
def slice (xs : List α) (off n : ℕ) : Except Violation (List α) :=
  if off + n ≤ xs.length then .ok ((xs.drop off).take n) else .error .readPast

/-- `memcpy(buf + off, bs, |bs|)`. -/
def store (buf : Buffer α size) (off : ℕ) (bs : List α) : Except Violation (Buffer α size) :=
  if Buffer.Fits size off bs then .ok (buf.write off bs) else .error .writtenOutside

/-- An assignment to a field of `bits` bits. -/
def narrow (bits value : ℕ) : Except Violation ℕ :=
  if value < 2 ^ bits then .ok value else .error .narrowed

/-- C's `a || b`. -/
def either (a : Bool) (b : Except Violation Bool) : Except Violation Bool :=
  if a then .ok true else b

/-! ## Accesses that are in bounds -/

theorem fetch_eq {xs : List α} {i : ℕ} (h : i < xs.length) (a : α) :
    fetch xs i = .ok (xs.getD i a) := by
  simp [fetch, List.getElem?_eq_getElem h, List.getD_eq_getElem?_getD]

theorem slice_eq {xs : List α} {off n : ℕ} (h : off + n ≤ xs.length) :
    slice xs off n = .ok ((xs.drop off).take n) := if_pos h

theorem store_eq {off : ℕ} {bs : List α} (buf : Buffer α size) (h : off + bs.length ≤ size) :
    store buf off bs = .ok (buf.write off bs) := if_pos h

/-- A value that fits a field is what the field keeps of it. -/
theorem narrow_eq {bits value : ℕ} (h : value < 2 ^ bits) :
    narrow bits value = .ok (value % 2 ^ bits) := by
  rw [narrow, if_pos h, Nat.mod_eq_of_lt h]

theorem either_eq {a b : Bool} {y : Except Violation Bool} (h : a = false → y = .ok b) :
    either a y = .ok (a || b) := by
  cases a with
  | true => rfl
  | false => exact h rfl

/-- Behind an access that is in bounds the code goes on with its value. -/
theorem bind_ok {β γ : Type} {x : Except Violation β} {b : β} (h : x = .ok b)
    (f : β → Except Violation γ) : (x >>= f) = f b := by
  rw [h]
  rfl

end BoundedAccess
