import Mathlib.Data.Fintype.Card
import Mathlib.Data.Fintype.Basic
import Mathlib.Data.List.FinRange
import Mathlib.Tactic

/-!
# Fixed-size slot arrays

A C array of `n` records is a function `Fin n → α`, a store into slot `i` is
`Function.update`, "the first slot with …" is `Fin.find?`, and a counting or
scanning `for` loop is one of the two definitions below.

* `Slots.forall_update`: a property of all records after one store.
* `Slots.count`: the number of slots that satisfy a test, with `count_update`
  for one store and `exists_of_count_lt` ("an array that is not full has a
  free slot").
* `Slots.forEach`, `Slots.forEachM`: `for (i = 0; i < n; i++) body`, without
  and with a `return` in the body, and their induction rules; `forEach_until` for a
  body that stops the loop at the first failure.
-/

namespace FrameRunner.Lib

/-- An array of `n` slots. -/
abbrev Slots (n : ℕ) (α : Type*) := Fin n → α

namespace Slots

variable {n : ℕ} {α β σ : Type*}

/-! ## Stores -/

/-- What holds of every record still does after a store of one that it holds of. -/
theorem forall_update {p : α → Prop} {s : Slots n α} (hs : ∀ j, p (s j)) {x : α} (hx : p x)
    (i j : Fin n) : p (Function.update s i x j) :=
  (Function.forall_update_iff s fun _ => p).mpr ⟨hx, fun j _ => hs j⟩ j

/-! ## Counting -/

/-- How many slots satisfy `p`. -/
def count (p : α → Bool) (s : Slots n α) : ℕ :=
  (Finset.univ.filter fun i => p (s i) = true).card

theorem count_le (p : α → Bool) (s : Slots n α) : count p s ≤ n :=
  (Finset.card_filter_le _ _).trans (by simp)

theorem count_eq_zero {p : α → Bool} {s : Slots n α} :
    count p s = 0 ↔ ∀ i, p (s i) = false := by
  simp [count, Finset.filter_eq_empty_iff]

theorem count_congr {p : α → Bool} {q : β → Bool} {s : Slots n α} {t : Slots n β}
    (h : ∀ i, p (s i) = q (t i)) : count p s = count q t := by
  simp [count, h]

/-- One store moves the count by what it puts in and what it takes out. -/
theorem count_update (p : α → Bool) (s : Slots n α) (i : Fin n) (x : α) :
    count p (Function.update s i x) + (p (s i)).toNat = count p s + (p x).toNat := by
  have split : ∀ t : Slots n α, count p t =
      (Finset.univ.filter fun j => j ≠ i ∧ p (t j) = true).card + (p (t i)).toNat := by
    intro t
    have hone : (Finset.univ.filter fun j => j = i ∧ p (t j) = true).card = (p (t i)).toNat := by
      cases hp : p (t i)
      · have : (Finset.univ.filter fun j => j = i ∧ p (t j) = true) = ∅ :=
          Finset.filter_eq_empty_iff.mpr (by rintro j - ⟨rfl, h⟩; simp_all)
        rw [this]; rfl
      · have : (Finset.univ.filter fun j => j = i ∧ p (t j) = true) = {i} := by
          ext j; simp only [Finset.mem_filter, Finset.mem_univ, true_and, Finset.mem_singleton]
          exact ⟨And.left, fun h => ⟨h, h ▸ hp⟩⟩
        rw [this]; rfl
    rw [← hone, count, ← Finset.card_union_of_disjoint]
    · congr 1; ext j; simp only [Finset.mem_filter, Finset.mem_univ, true_and, Finset.mem_union]
      tauto
    · rw [Finset.disjoint_filter]; rintro j - ⟨h, -⟩ ⟨h', -⟩; exact h h'
  rw [split, split s]
  have : (Finset.univ.filter fun j => j ≠ i ∧ p (Function.update s i x j) = true) =
      Finset.univ.filter fun j => j ≠ i ∧ p (s j) = true := by
    apply Finset.filter_congr
    intro j _
    by_cases hj : j = i
    · simp [hj]
    · simp [Function.update_of_ne hj]
  rw [this, Function.update_self]
  omega

/-- One more record with `p`, or one rewritten. -/
theorem count_store (p : α → Bool) (s : Slots n α) (i : Fin n) {x : α} (hx : p x = true) :
    count p (Function.update s i x) = if p (s i) then count p s else count p s + 1 := by
  have hcount := count_update p s i x
  rw [hx] at hcount
  cases hi : p (s i) with
  | true =>
    rw [hi] at hcount
    simpa using hcount
  | false =>
    rw [hi] at hcount
    simpa using hcount

/-- One record with `p` less. -/
theorem count_drop (p : α → Bool) (s : Slots n α) (i : Fin n) {x : α} (hx : p x = false)
    (hi : p (s i) = true) : count p (Function.update s i x) + 1 = count p s := by
  have hcount := count_update p s i x
  rw [hx, hi] at hcount
  simpa using hcount

/-- The slots with `p` are those with `q` as well and those without. -/
theorem count_partition (p q : α → Bool) (s : Slots n α) :
    count p s = count (fun x => p x && q x) s + count (fun x => p x && !q x) s := by
  simp only [count, Bool.and_eq_true, Bool.not_eq_true']
  rw [← Finset.card_filter_add_card_filter_not (fun i => q (s i) = true), Finset.filter_filter,
    Finset.filter_filter]
  simp only [Bool.not_eq_true]

/-- An array that is not full has a slot that fails `p`. -/
theorem exists_of_count_lt {p : α → Bool} {s : Slots n α} (h : count p s < n) :
    ∃ i, p (s i) = false := by
  by_contra hall
  simp only [not_exists, Bool.not_eq_false] at hall
  have : count p s = n := by simp [count, hall]
  omega

theorem count_lt_of_exists {p : α → Bool} {s : Slots n α} {i : Fin n} (h : p (s i) = false) :
    count p s < n := by
  have hi : i ∉ Finset.univ.filter fun i => p (s i) = true := by simp [h]
  exact (Finset.card_lt_univ_of_notMem hi).trans_eq (Fintype.card_fin n)

/-! ## Loops -/

/-- A round before the one after `i` was before `i`, or was `i`. -/
theorem lt_or_eq_of_lt_succ {i j : Fin n} (h : j.val < i.val + 1) : j.val < i.val ∨ j = i :=
  (Nat.lt_succ_iff_lt_or_eq.mp h).imp_right Fin.ext

theorem lt_of_lt_succ_of_ne {i j : Fin n} (h : j.val < i.val + 1) (hne : j ≠ i) :
    j.val < i.val :=
  (lt_or_eq_of_lt_succ h).resolve_right hne

/-- `for (i = 0; i < n; i++) x = body(x, i)`. -/
@[irreducible] def forEach (n : ℕ) (body : σ → Fin n → σ) (x : σ) : σ :=
  (List.finRange n).foldl body x

/-- A loop over one slot runs its body once. -/
theorem forEach_one {f : σ → Fin 1 → σ} {x : σ} : forEach 1 f x = f x 0 := by
  unfold forEach
  rfl

theorem forEach_induction {f : σ → Fin n → σ} {x : σ} (P : ℕ → σ → Prop) (h0 : P 0 x)
    (hstep : ∀ (i : Fin n) (y : σ), P i y → P (i + 1) (f y i)) : P n (forEach n f x) := by
  -- the loop cut off after `k` rounds
  have hk : ∀ k, k ≤ n → P k (((List.finRange n).take k).foldl f x) := by
    intro k
    induction k with
    | zero => intro _; simpa using h0
    | succ k ih =>
      intro hlt
      have hget : (List.finRange n)[k]? = some ⟨k, by omega⟩ := by
        rw [List.getElem?_eq_getElem (by simpa using hlt), List.getElem_finRange]; rfl
      rw [List.take_add_one, hget]
      simpa using hstep ⟨k, by omega⟩ _ (ih (by omega))
  have := hk n le_rfl
  rw [List.take_of_length_le (by simp)] at this
  rwa [forEach]

/-- The induction on the indices that were visited. -/
theorem forEach_visited {f : σ → Fin n → σ} {x : σ} (P : List (Fin n) → σ → Prop) (h0 : P [] x)
    (hstep : ∀ is i y, P is y → P (is ++ [i]) (f y i)) : P (List.finRange n) (forEach n f x) := by
  unfold forEach
  induction List.finRange n using List.reverseRecOn with
  | nil => exact h0
  | append_singleton is i ih =>
    rw [List.foldl_concat]
    exact hstep is i _ ih

/-- A property every round keeps holds after the loop. -/
theorem forEach_invariant {f : σ → Fin n → σ} {x : σ} (P : σ → Prop) (h0 : P x)
    (hstep : ∀ i y, P y → P (f y i)) : P (forEach n f x) :=
  forEach_induction (fun _ => P) h0 hstep

/-- A loop that handles the elements with an `f`, in their order, until the first that is not
    `ok`: there it sets the flag and handles no more. -/
theorem foldl_until {γ : Type*} {f : α → Option β} {g : β → γ} {ok : β → Bool}
    {body : List γ × Bool → α → List γ × Bool}
    (hskip : ∀ acc x, acc.2 = true ∨ f x = none → body acc x = acc)
    (hbody : ∀ ys x y, f x = some y →
      body (ys, false) x = if ok y then (ys ++ [g y], false) else (ys, true)) (xs : List α) :
    ∀ ys, xs.foldl body (ys, false) = (ys ++ ((xs.filterMap f).takeWhile ok).map g,
      (xs.filterMap f).any fun y => !ok y) := by
  -- after the flag is set
  have hstopped : ∀ (xs : List α) (ys : List γ), xs.foldl body (ys, true) = (ys, true) := by
    intro xs ys
    induction xs with
    | nil => rfl
    | cons x xs ih => rw [List.foldl_cons, hskip _ _ (.inl rfl), ih]
  induction xs with
  | nil =>
    intro ys
    simp
  | cons x xs ih =>
    intro ys
    rw [List.foldl_cons]
    cases hf : f x with
    | none => rw [hskip _ _ (.inr hf), ih, List.filterMap_cons_none hf]
    | some y =>
      rw [hbody ys x y hf, List.filterMap_cons_some hf]
      cases hok : ok y with
      | true =>
        rw [if_pos rfl, ih, List.takeWhile_cons_of_pos hok, List.any_cons, hok, List.map_cons,
          List.append_assoc, List.singleton_append]
        rfl
      | false =>
        rw [if_neg Bool.false_ne_true, hstopped, List.takeWhile_cons_of_neg (by simp [hok]),
          List.any_cons, hok]
        simp

theorem takeWhile_congr {p q : α → Bool} {xs : List α} (h : ∀ x ∈ xs, p x = q x) :
    xs.takeWhile p = xs.takeWhile q := by
  induction xs with
  | nil => rfl
  | cons x xs ih =>
    rw [List.takeWhile_cons, List.takeWhile_cons, h x List.mem_cons_self,
      ih fun y hy => h y (List.mem_cons_of_mem x hy)]

/-- A loop that leaves out the slots without a `f`. -/
theorem forEach_filterMap {f : Fin n → Option β} {body : σ → Fin n → σ} {g : σ → β → σ} {x : σ}
    (hskip : ∀ x i, f i = none → body x i = x)
    (hbody : ∀ x i y, f i = some y → body x i = g x y) :
    forEach n body x = ((List.finRange n).filterMap f).foldl g x := by
  unfold forEach
  rw [List.foldl_filterMap]
  congr 1
  funext x i
  cases hi : f i with
  | none => exact hskip x i hi
  | some y => exact hbody x i y hi

/-- Such a loop over the slots. -/
theorem forEach_until {γ : Type*} {f : Fin n → Option β} {g : β → γ} {ok : β → Bool}
    {body : List γ × Bool → Fin n → List γ × Bool}
    (hskip : ∀ acc i, acc.2 = true ∨ f i = none → body acc i = acc)
    (hbody : ∀ ys i y, f i = some y →
      body (ys, false) i = if ok y then (ys ++ [g y], false) else (ys, true)) :
    forEach n body ([], false) = ((((List.finRange n).filterMap f).takeWhile ok).map g,
      ((List.finRange n).filterMap f).any fun y => !ok y) := by
  unfold forEach
  rw [foldl_until hskip hbody, List.nil_append]

/-- `for (i = 0; i < n; i++) body` with a `return` inside the body, which is
    `none`. -/
@[irreducible] def forEachM (n : ℕ) (body : σ → Fin n → Option σ) (x : σ) : Option σ :=
  (List.finRange n).foldlM body x

/-- A loop whose body never returns early. -/
theorem forEachM_induction {f : σ → Fin n → Option σ} {x : σ} (P : ℕ → σ → Prop) (h0 : P 0 x)
    (hstep : ∀ (i : Fin n) (y : σ), P i y → ∃ y', f y i = some y' ∧ P (i + 1) y') :
    ∃ z, forEachM n f x = some z ∧ P n z := by
  have hk : ∀ k, k ≤ n → ∃ z, ((List.finRange n).take k).foldlM f x = some z ∧ P k z := by
    intro k
    induction k with
    | zero => intro _; exact ⟨x, by simp, h0⟩
    | succ k ih =>
      intro hlt
      have hget : (List.finRange n)[k]? = some ⟨k, by omega⟩ := by
        rw [List.getElem?_eq_getElem (by simpa using hlt), List.getElem_finRange]; rfl
      obtain ⟨y, hy, hP⟩ := ih (by omega)
      obtain ⟨z, hz, hP'⟩ := hstep ⟨k, by omega⟩ y hP
      exact ⟨z, by rw [List.take_add_one, hget, List.foldlM_append, hy]; simpa using hz, hP'⟩
  obtain ⟨z, hz, hP⟩ := hk n le_rfl
  rw [List.take_of_length_le (by simp)] at hz
  exact ⟨z, by rwa [forEachM], hP⟩

end Slots

end FrameRunner.Lib
