import Mathlib.Data.List.Basic
import Mathlib.Data.List.Range
import Mathlib.Tactic

/-!
# A flat memory

Cells addressed by offsets from some base, negative ones included, so that an access outside
a block can be spoken of.

* `read`: some cells in a row, with `read_add` to split a range at a point.
* `write`: a block copied into the memory; `read_write_self` reads it back and
  `read_write_disjoint` is the frame rule.
-/

namespace FrameRunner.Lib.Memory

variable {α : Type*} {mem : ℤ → α} {a b : ℤ} {m n : ℕ} {l : List α}

/-- The `n` cells from `a` on. -/
def read (mem : ℤ → α) (a : ℤ) (n : ℕ) : List α := (List.range n).map fun i : ℕ => mem (a + i)

/-- The memory after `l` is copied to `a`. -/
def write (mem : ℤ → α) (a : ℤ) (l : List α) : ℤ → α := fun i =>
  if h : a ≤ i ∧ i < a + l.length then l.get ⟨(i - a).toNat, by omega⟩ else mem i

@[simp] theorem length_read : (read mem a n).length = n := by simp [read]

theorem getElem_read {i : ℕ} (h : i < (read mem a n).length) :
    (read mem a n)[i] = mem (a + (i : ℤ)) := by
  simp [read]

@[simp] theorem read_zero : read mem a 0 = [] := rfl

/-- A range split at a point. -/
theorem read_add : read mem a (m + n) = read mem a m ++ read mem (a + m) n := by
  unfold read
  rw [List.range_add, List.map_append, List.map_map]
  refine congrArg (_ ++ ·) (List.map_congr_left fun i _ => ?_)
  simp only [Function.comp_apply, Nat.cast_add, add_assoc]

theorem take_read (h : m ≤ n) : (read mem a n).take m = read mem a m := by
  obtain ⟨k, rfl⟩ := Nat.exists_eq_add_of_le h
  rw [read_add, List.take_left' length_read]

theorem drop_read (h : m ≤ n) : (read mem a n).drop m = read mem (a + m) (n - m) := by
  obtain ⟨k, rfl⟩ := Nat.exists_eq_add_of_le h
  rw [read_add, List.drop_left' length_read, Nat.add_sub_cancel_left]

theorem read_congr {mem' : ℤ → α} (h : ∀ i, a ≤ i → i < a + n → mem i = mem' i) :
    read mem a n = read mem' a n := by
  refine List.map_congr_left fun i hi => h _ (by omega) ?_
  have := List.mem_range.mp hi
  omega

/-- The cells that a copy does not reach. -/
theorem write_of_outside {i : ℤ} (h : i < a ∨ a + l.length ≤ i) : write mem a l i = mem i :=
  dif_neg fun hin => by omega

/-- What was copied reads back. -/
theorem read_write_self (mem : ℤ → α) (a : ℤ) (l : List α) :
    read (write mem a l) a l.length = l := by
  refine List.ext_getElem length_read fun i h h' => ?_
  rw [getElem_read, write, dif_pos ⟨by omega, by omega⟩, List.get_eq_getElem]
  congr 1
  show (a + (i : ℤ) - a).toNat = i
  omega

/-- A copy leaves the other ranges as they are. -/
theorem read_write_disjoint (h : b + n ≤ a ∨ a + l.length ≤ b) :
    read (write mem a l) b n = read mem b n :=
  read_congr fun _ hlo hhi => write_of_outside (by omega)

end FrameRunner.Lib.Memory
