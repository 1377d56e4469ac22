import FrameRunner.Lib.ShortestPath
import Mathlib.Data.List.Chain

/-!
# Hop by hop

Everybody on the way decides for himself where to go next. Where each takes the first edge of a
shortest walk, the distances fall by the weight of that edge, and the decisions fit together.

* `WalkVia.isDist`: the rest of a shortest walk is a shortest walk.
* `exists_descent`: where every step goes down in rank until the goal is reached, there is a way
  to the goal, with at most as many steps as the rank.
* `nodup_of_descent`: and it visits nothing twice.
-/

namespace FrameRunner.Lib

namespace ShortestPath

variable {V : Type*} {E : V → V → ℕ → Prop} {a b h : V} {d : ℕ}

/-- An edge in front of a walk. -/
theorem Walk.cons {w : ℕ} (e : E a h w) (p : Walk E h b d) : Walk E a b (w + d) := by
  induction p with
  | nil => simpa using Walk.nil.snoc e
  | snoc _ e' ih =>
    rw [← Nat.add_assoc]
    exact ih.snoc e'

/-- A walk of at least one edge is its first edge and the rest. -/
theorem WalkVia.split (p : WalkVia E a h b d) : ∃ w d', E a h w ∧ Walk E h b d' ∧ d = w + d' := by
  induction p with
  | first e => exact ⟨_, 0, e, .nil, rfl⟩
  | snoc _ e' ih =>
    obtain ⟨w, d', e, q, rfl⟩ := ih
    exact ⟨w, d' + _, e, q.snoc e', Nat.add_assoc ..⟩

/-- The rest of a shortest walk is a shortest walk. -/
theorem WalkVia.isDist (p : WalkVia E a h b d) (hd : IsDist E a b d) :
    ∃ w d', E a h w ∧ IsDist E h b d' ∧ d = w + d' := by
  obtain ⟨w, d', e, q, rfl⟩ := p.split
  refine ⟨w, d', e, ⟨q, fun d'' q' => ?_⟩, rfl⟩
  have hle := hd.2 _ (Walk.cons e q')
  omega

theorem IsDist.unique {d' : ℕ} (h : IsDist E a b d) (h' : IsDist E a b d') : d = d' :=
  le_antisymm (h.2 _ h'.1) (h'.2 _ h.1)

end ShortestPath

/-! ## Ways that go down -/

section

variable {α : Type*} {next : α → α → Prop} {rank : α → ℕ → Prop} {goal : α → Prop}

/-- A step on the way that goes down in rank. -/
def Down (next : α → α → Prop) (rank : α → ℕ → Prop) (a b : α) : Prop :=
  next a b ∧ ∃ n m, rank a n ∧ rank b m ∧ m < n

theorem exists_descent
    (hstep : ∀ a n, rank a n → goal a ∨ ∃ b m, next a b ∧ rank b m ∧ m < n) (n : ℕ) :
    ∀ a, rank a n → ∃ path b, List.IsChain (Down next rank) (a :: path) ∧
      (a :: path).getLast? = some b ∧ goal b ∧ path.length ≤ n := by
  induction n using Nat.strong_induction_on with
  | h n ih =>
    intro a ha
    rcases hstep a n ha with hgoal | ⟨b, m, hnext, hb, hlt⟩
    · exact ⟨[], a, List.isChain_singleton a, rfl, hgoal, Nat.zero_le _⟩
    · obtain ⟨path, c, hchain, hlast, hgoal, hlen⟩ := ih m hlt b hb
      refine ⟨b :: path, c, List.isChain_cons_cons.mpr ⟨⟨hnext, n, m, ha, hb, hlt⟩, hchain⟩, ?_,
        hgoal, ?_⟩
      · rw [List.getLast?_cons_cons]
        exact hlast
      · rw [List.length_cons]
        omega

theorem nodup_of_descent (hrank : ∀ a n m, rank a n → rank a m → n = m) {path : List α}
    (h : List.IsChain (Down next rank) path) : path.Nodup := by
  have hdown : List.IsChain (fun a b => ∃ n m, rank a n ∧ rank b m ∧ m < n) path :=
    h.imp fun _ _ hab => hab.2
  have htrans : ∀ a b c : α, (∃ n m, rank a n ∧ rank b m ∧ m < n) →
      (∃ n m, rank b n ∧ rank c m ∧ m < n) → ∃ n m, rank a n ∧ rank c m ∧ m < n := by
    rintro a b c ⟨n, m, ha, hb, hlt⟩ ⟨n', m', hb', hc, hlt'⟩
    obtain rfl := hrank b m n' hb hb'
    exact ⟨n, m', ha, hc, hlt'.trans hlt⟩
  have : IsTrans α fun a b => ∃ n m, rank a n ∧ rank b m ∧ m < n := ⟨htrans⟩
  refine (List.isChain_iff_pairwise.mp hdown).imp ?_
  rintro a b ⟨n, m, ha, hb, hlt⟩ rfl
  obtain rfl := hrank a n m ha hb
  exact lt_irrefl n hlt

end

end FrameRunner.Lib
