/-
# Fixed-size buffers

`Buffer α size` is an array of `size` cells; its length is part of the type, so no
operation can change it.  `write off bs` is `memcpy(buf + off, bs, |bs|)`: the items of
`bs` that fall inside the buffer replace what stood there, and what would fall outside is
not stored.  `Fits size off bs` is the bound that makes the copy the intended one.
-/
import Mathlib.Data.List.TakeDrop
import Mathlib.Tactic.Common

/-- An array of `size` cells. -/
structure Buffer (α : Type*) (size : ℕ) where
  cells : List α
  length_cells : cells.length = size
  deriving DecidableEq

namespace Buffer

variable {α : Type*} {size : ℕ}

/-- A buffer filled with one value (C's zeroed statics). -/
def filled (size : ℕ) (a : α) : Buffer α size := ⟨List.replicate size a, List.length_replicate⟩

/-- The copy of `bs` to position `off` stays inside a buffer of `size` cells. -/
def Fits (size off : ℕ) (bs : List α) : Prop := off + bs.length ≤ size

instance (size off : ℕ) (bs : List α) : Decidable (Fits size off bs) := by
  unfold Fits; infer_instance

/-- Copies `bs` to position `off`, cut off at the end of the buffer. -/
def write (buf : Buffer α size) (off : ℕ) (bs : List α) : Buffer α size where
  cells := (buf.cells.take off ++ bs ++ buf.cells.drop (off + bs.length)).take size
  length_cells := by
    have := buf.length_cells
    simp only [List.length_take, List.length_append, List.length_drop]
    omega

/-- The first `n` cells. -/
def prefixOf (buf : Buffer α size) (n : ℕ) : List α := buf.cells.take n

/-- Reading the first cells gives as many as asked for, while there are that many. -/
theorem length_prefixOf (buf : Buffer α size) {n : ℕ} (h : n ≤ size) :
    (buf.prefixOf n).length = n := by
  rw [prefixOf, List.length_take, buf.length_cells, Nat.min_eq_left h]

@[simp] theorem prefixOf_zero (buf : Buffer α size) : buf.prefixOf 0 = [] := List.take_zero

/-- A copy that fits is the three pieces one expects. -/
theorem cells_write (buf : Buffer α size) {off : ℕ} {bs : List α} (h : Fits size off bs) :
    (buf.write off bs).cells = buf.cells.take off ++ bs ++ buf.cells.drop (off + bs.length) := by
  unfold Fits at h
  have := buf.length_cells
  apply List.take_of_length_le
  simp only [List.length_append, List.length_take, List.length_drop]
  omega

/-- A copy of one item replaces one cell. -/
theorem cells_write_one (buf : Buffer α size) {i : ℕ} (hi : i < size) (a : α) :
    (buf.write i [a]).cells = buf.cells.set i a := by
  have hfits : Fits size i [a] := hi
  have hlen : i < buf.cells.length := by
    rw [buf.length_cells]
    exact hi
  rw [cells_write buf hfits, List.set_eq_take_append_cons_drop, if_pos hlen, List.append_assoc]
  rfl

/-- A buffer is its cells. -/
theorem eq_of_cells {buf buf' : Buffer α size} (h : buf.cells = buf'.cells) : buf = buf' := by
  cases buf
  cases buf'
  congr

/-- A copy that fits extends the cells written so far by the copied ones. -/
theorem prefixOf_write (buf : Buffer α size) {off : ℕ} {bs : List α} (h : Fits size off bs) :
    (buf.write off bs).prefixOf (off + bs.length) = buf.prefixOf off ++ bs := by
  have := buf.length_cells
  unfold prefixOf
  rw [cells_write buf h]
  apply List.take_left'
  unfold Fits at h
  simp only [List.length_append, List.length_take]
  omega

/-- Two copies, one behind the other, are one. -/
theorem write_write (buf : Buffer α size) {off : ℕ} {xs ys : List α}
    (h : Fits size off (xs ++ ys)) :
    (buf.write off xs).write (off + xs.length) ys = buf.write off (xs ++ ys) := by
  have hlen := buf.length_cells
  unfold Fits at h
  rw [List.length_append] at h
  have hxs : Fits size off xs := by unfold Fits; omega
  have hys : Fits size (off + xs.length) ys := by unfold Fits; omega
  have hboth : Fits size off (xs ++ ys) := by unfold Fits; rw [List.length_append]; omega
  have hfront : (buf.cells.take off ++ xs).length = off + xs.length := by
    rw [List.length_append, List.length_take]
    omega
  apply eq_of_cells
  rw [cells_write _ hys, cells_write _ hxs, cells_write _ hboth, List.take_left' hfront,
    List.drop_append, hfront, List.drop_of_length_le (by omega), List.drop_drop]
  simp only [List.nil_append, List.append_assoc, List.length_append]
  congr 4
  omega

/-- A copy to the start of a buffer is read back. -/
theorem prefixOf_write_zero (buf : Buffer α size) {bs : List α} (h : bs.length ≤ size) :
    (buf.write 0 bs).prefixOf bs.length = bs := by
  have hfit : Fits size 0 bs := by simpa [Fits] using h
  simpa using prefixOf_write buf hfit

end Buffer
