import Mathlib.Data.List.Basic

/-!
# Records of one width

A list of records, each written with the same number of elements, one after the
other: the `i`-th begins at `i` times the width.
-/

namespace FrameRunner.Lib.Records

variable {α β : Type*} {f : α → List β} {w : ℕ}

theorem length_flatMap (hf : ∀ a, (f a).length = w) (l : List α) :
    (l.flatMap f).length = l.length * w := by
  induction l with
  | nil => rw [List.flatMap_nil, List.length_nil, List.length_nil, Nat.zero_mul]
  | cons a l ih =>
    rw [List.flatMap_cons, List.length_append, hf, ih, List.length_cons, Nat.add_mul, Nat.one_mul,
      Nat.add_comm]

/-- What begins at a multiple of the width is what begins with that record. -/
theorem drop_flatMap (hf : ∀ a, (f a).length = w) (rest : List β) (l : List α) :
    ∀ i, i ≤ l.length → (l.flatMap f ++ rest).drop (i * w) = (l.drop i).flatMap f ++ rest := by
  induction l with
  | nil =>
    intro i hi
    obtain rfl : i = 0 := Nat.le_zero.mp hi
    rw [Nat.zero_mul, List.drop_zero, List.drop_zero]
  | cons a l ih =>
    intro i hi
    cases i with
    | zero => rw [Nat.zero_mul, List.drop_zero, List.drop_zero]
    | succ i =>
      rw [List.flatMap_cons, List.append_assoc, Nat.add_mul, Nat.one_mul, Nat.add_comm,
        ← List.drop_drop, List.drop_left' (hf a), ih i (Nat.le_of_succ_le_succ hi),
        List.drop_succ_cons]

/-- There begins the record itself. -/
theorem drop_flatMap_getElem (hf : ∀ a, (f a).length = w) (rest : List β) {l : List α} {i : ℕ}
    (hi : i < l.length) : (l.flatMap f ++ rest).drop (i * w) =
      f l[i] ++ ((l.drop (i + 1)).flatMap f ++ rest) := by
  rw [drop_flatMap hf rest l i (Nat.le_of_lt hi), List.drop_eq_getElem_cons hi, List.flatMap_cons,
    List.append_assoc]

end FrameRunner.Lib.Records
