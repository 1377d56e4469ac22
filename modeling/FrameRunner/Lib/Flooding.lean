import FrameRunner.Lib.Newest
import Mathlib.Combinatorics.SimpleGraph.Connectivity.Connected

/-!
# Flooding

Stores at the nodes of a graph hold the newest record of every key. A node that gets a record
newer than its own passes it on to its neighbors, but for the one that it got it from. The
messages may take any time, overtake each other and come more than once; none is lost.

* `Covers`: one set of records is as new as another. `eq_newest_of_covers`: a store with one
  record per key that is as new as `A` and holds records of `A` holds the newest of `A`.
* `Flood.Ok`: what is newer at one end of an edge than at the other is on its way there.
* `Flood.Ok.learn`: the step of one node, whatever it gets.
* `Flood.Ok.quiet`: when nothing is under way, every node holds the newest of all records that
  came in anywhere in its part of the graph.
* `Flood.lag_learn`: a node can learn only so often.
-/

namespace FrameRunner.Lib

variable {α κ ρ : Type*} [LinearOrder ρ] (key : α → κ) (rank : α → ρ)

/-! ## As new as -/

/-- One of the records is of the same key as `a`, and not older. -/
def Covered (A : Set α) (a : α) : Prop := ∃ b ∈ A, key b = key a ∧ rank a ≤ rank b

/-- The records of `A` are as new as those of `B`. -/
def Covers (A B : Set α) : Prop := ∀ b ∈ B, Covered key rank A b

variable {key rank} {A B C : Set α} {a b : α}

theorem Covered.of_mem (ha : a ∈ A) : Covered key rank A a := ⟨a, ha, rfl, le_rfl⟩

theorem Covered.mono (h : Covered key rank A a) (hAB : A ⊆ B) : Covered key rank B a := by
  obtain ⟨b, hb, hkey, hle⟩ := h
  exact ⟨b, hAB hb, hkey, hle⟩

theorem Covers.covered (h : Covers key rank A B) (hb : Covered key rank B a) :
    Covered key rank A a := by
  obtain ⟨b, hb, hkey, hle⟩ := hb
  obtain ⟨c, hc, hkey', hle'⟩ := h b hb
  exact ⟨c, hc, hkey'.trans hkey, hle.trans hle'⟩

theorem Covers.trans (h : Covers key rank A B) (h' : Covers key rank B C) : Covers key rank A C :=
  fun c hc => h.covered (h' c hc)

theorem covers_of_subset (h : B ⊆ A) : Covers key rank A B := fun _ hb => .of_mem (h hb)

/-- The newest records are as new as all. -/
theorem covers_newest (hfin : A.Finite) : Covers key rank (Newest key rank A) A := by
  intro a ha
  have hkey : key a ∈ key '' Newest key rank A := by
    rw [image_key_newest hfin]
    exact ⟨a, ha, rfl⟩
  obtain ⟨b, hb, hkey⟩ := hkey
  exact ⟨b, hb, hkey, hb.2 a ha hkey.symm⟩

/-- A store with one record per key, all of them from `A`, that is as new as `A`. -/
theorem eq_newest_of_covers (hd : Distinguished key rank A)
    (hkeys : ∀ a ∈ B, ∀ b ∈ B, key a = key b → a = b) (hsub : B ⊆ A)
    (hcovers : Covers key rank B A) : B = Newest key rank A := by
  ext a
  constructor
  · intro ha
    refine ⟨hsub ha, fun b hb hkey => ?_⟩
    obtain ⟨c, hc, hkey', hle⟩ := hcovers b hb
    rwa [hkeys c hc a ha (hkey'.trans hkey)] at hle
  · rintro ⟨ha, hmax⟩
    obtain ⟨c, hc, hkey, hle⟩ := hcovers a ha
    rwa [hd a ha c (hsub hc) hkey.symm (le_antisymm hle (hmax c (hsub hc) hkey))]

/-! ## The flood -/

variable {R M : Type*}

/-- What the nodes hold, the messages under way, and the records that came in at each node from
    outside. -/
structure Flood (R M α : Type*) where
  known : R → Set α
  flight : List M
  origin : R → Set α

/-- The records that can reach `r`: those that all nodes had at first, and those that came in
    anywhere in its part of the graph. -/
def Flood.within (graph : SimpleGraph R) (base : Set α) (origin : R → Set α) (r : R) : Set α :=
  base ∪ {a | ∃ q, graph.Reachable r q ∧ a ∈ origin q}

/-- What is newer at one end of an edge than at the other is on its way there. -/
structure Flood.Ok (key : α → κ) (rank : α → ρ) (graph : SimpleGraph R) (src dst : M → R)
    (recs : M → Set α) (base : Set α) (s : Flood R M α) : Prop where
  edge : ∀ p q, graph.Adj p q → ∀ a ∈ s.known p, Covered key rank (s.known q) a ∨
    ∃ m ∈ s.flight, dst m = q ∧ Covered key rank (recs m) a
  sent : ∀ m ∈ s.flight, graph.Adj (src m) (dst m) ∧ Covers key rank (s.known (src m)) (recs m) ∧
    recs m ⊆ Flood.within graph base s.origin (dst m)
  sound : ∀ r, s.known r ⊆ Flood.within graph base s.origin r
  complete : ∀ r, Covers key rank (s.known r) (base ∪ s.origin r)

section
variable {graph : SimpleGraph R} {src dst : M → R} {recs : M → Set α} {base : Set α}
  {s : Flood R M α}

theorem Flood.within_mono {origin origin' : R → Set α} (h : ∀ r, origin r ⊆ origin' r) (r : R) :
    Flood.within graph base origin r ⊆ Flood.within graph base origin' r := by
  rintro a (ha | ⟨q, hq, ha⟩)
  · exact .inl ha
  · exact .inr ⟨q, hq, h q ha⟩

/-- Both ends of an edge are in the same part of the graph. -/
theorem Flood.within_adj {origin : R → Set α} {p q : R} (h : graph.Adj p q) :
    Flood.within graph base origin p ⊆ Flood.within graph base origin q := by
  rintro a (ha | ⟨x, hx, ha⟩)
  · exact .inl ha
  · exact .inr ⟨x, h.symm.reachable.trans hx, ha⟩

/-- All nodes hold the same at first, and nothing is under way. -/
theorem Flood.ok_start : Flood.Ok key rank graph src dst recs base ⟨fun _ => base, [], fun _ => ∅⟩ where
  edge _ _ _ _ ha := .inl (.of_mem ha)
  sent _ hm := absurd hm List.not_mem_nil
  sound _ _ ha := .inl ha
  complete _ := covers_of_subset (Set.union_subset (subset_refl base) (Set.empty_subset _))

/-- The node `d` gets the records `as` and holds `K` then. A message that is gone was for `d` and
    had some of `as`; a new one is from `d` and has some of `as`; and to each neighbor it passes
    on what was news to it, unless the neighbor has it. -/
theorem Flood.Ok.learn [DecidableEq R] (h : Flood.Ok key rank graph src dst recs base s) {d : R}
    {as K : Set α} {flight : List M} {origin : R → Set α}
    (hK : Covers key rank K (s.known d ∪ as)) (hsub : K ⊆ s.known d ∪ as)
    (hkept : ∀ m ∈ s.flight, m ∈ flight ∨ dst m = d ∧ recs m ⊆ as)
    (hnew : ∀ m ∈ flight, m ∈ s.flight ∨ src m = d ∧ graph.Adj d (dst m) ∧ recs m ⊆ as)
    (hpass : ∀ a ∈ as, Covered key rank (s.known d) a ∨ ∀ q, graph.Adj d q →
      Covered key rank (s.known q) a ∨ ∃ m ∈ flight, dst m = q ∧ Covered key rank (recs m) a)
    (horigin : ∀ r, s.origin r ⊆ origin r) (hothers : ∀ r, r ≠ d → origin r = s.origin r)
    (hhere : origin d ⊆ s.origin d ∪ as) (has : as ⊆ Flood.within graph base origin d) :
    Flood.Ok key rank graph src dst recs base ⟨Function.update s.known d K, flight, origin⟩ := by
  have hnewer : ∀ r, Covers key rank (Function.update s.known d K r) (s.known r) := by
    intro r
    by_cases hr : r = d
    · subst hr
      rw [Function.update_self]
      exact hK.trans (covers_of_subset Set.subset_union_left)
    · rw [Function.update_of_ne hr]
      exact covers_of_subset (subset_refl _)
  have hgot : Covers key rank K as := hK.trans (covers_of_subset Set.subset_union_right)
  -- what was covered at `q`, or on its way there, still is
  have hedge : ∀ p q, graph.Adj p q → ∀ a ∈ s.known p,
      Covered key rank (Function.update s.known d K q) a ∨
        ∃ m ∈ flight, dst m = q ∧ Covered key rank (recs m) a := by
    intro p q hpq a ha
    rcases h.edge p q hpq a ha with hq | ⟨m, hm, rfl, hcov⟩
    · exact .inl ((hnewer q).covered hq)
    · rcases hkept m hm with hm | ⟨hd, hm⟩
      · exact .inr ⟨m, hm, rfl, hcov⟩
      · subst hd
        rw [Function.update_self]
        exact .inl (hgot.covered (hcov.mono hm))
  refine ⟨fun p q hpq a ha => ?_, fun m hm => ?_, fun r => ?_, fun r => ?_⟩
  · dsimp only at ha ⊢
    by_cases hp : p = d
    · subst hp
      rw [Function.update_self] at ha
      rcases hsub ha with ha | ha
      · exact hedge p q hpq a ha
      · rcases hpass a ha with ⟨b, hb, hkey, hle⟩ | hpass
        · rcases hedge p q hpq b hb with ⟨c, hc, hkey', hle'⟩ | ⟨m, hm, hq, c, hc, hkey', hle'⟩
          · exact .inl ⟨c, hc, hkey'.trans hkey, hle.trans hle'⟩
          · exact .inr ⟨m, hm, hq, c, hc, hkey'.trans hkey, hle.trans hle'⟩
        · exact (hpass q hpq).imp_left (hnewer q).covered
    · rw [Function.update_of_ne hp] at ha
      exact hedge p q hpq a ha
  · rcases hnew m hm with hm | ⟨rfl, hadj, hm⟩
    · obtain ⟨hadj, hcov, hin⟩ := h.sent m hm
      exact ⟨hadj, (hnewer _).trans hcov, hin.trans (Flood.within_mono horigin _)⟩
    · dsimp only
      rw [Function.update_self]
      exact ⟨hadj, hgot.trans (covers_of_subset hm), (hm.trans has).trans (Flood.within_adj hadj)⟩
  · dsimp only
    by_cases hr : r = d
    · subst hr
      rw [Function.update_self]
      exact hsub.trans (Set.union_subset ((h.sound r).trans (Flood.within_mono horigin r)) has)
    · rw [Function.update_of_ne hr]
      exact (h.sound r).trans (Flood.within_mono horigin r)
  · dsimp only
    by_cases hr : r = d
    · subst hr
      rw [Function.update_self]
      rintro a (ha | ha)
      · exact hK.covered ((h.complete r a (.inl ha)).mono Set.subset_union_left)
      · rcases hhere ha with ha | ha
        · exact hK.covered ((h.complete r a (.inr ha)).mono Set.subset_union_left)
        · exact hgot a ha
    · rw [Function.update_of_ne hr, hothers r hr]
      exact h.complete r

/-- When nothing is under way, the nodes of a part of the graph are as new as each other. -/
theorem Flood.Ok.covers (h : Flood.Ok key rank graph src dst recs base s) (hquiet : s.flight = [])
    {p q : R} (hpq : graph.Reachable p q) : Covers key rank (s.known q) (s.known p) := by
  obtain ⟨walk⟩ := hpq
  induction walk with
  | nil => exact covers_of_subset (subset_refl _)
  | cons hadj _ ih =>
    refine ih.trans fun a ha => ?_
    rcases h.edge _ _ hadj a ha with hcov | ⟨m, hm, -⟩
    · exact hcov
    · rw [hquiet] at hm
      cases hm

/-- Then each holds the newest of all records that came in there. -/
theorem Flood.Ok.quiet (h : Flood.Ok key rank graph src dst recs base s) (hquiet : s.flight = [])
    (r : R) (hd : Distinguished key rank (Flood.within graph base s.origin r))
    (hkeys : ∀ a ∈ s.known r, ∀ b ∈ s.known r, key a = key b → a = b) :
    s.known r = Newest key rank (Flood.within graph base s.origin r) := by
  refine eq_newest_of_covers hd hkeys (h.sound r) ?_
  rintro a (ha | ⟨q, hq, ha⟩)
  · exact h.complete r a (.inl ha)
  · exact (h.covers hquiet hq.symm).covered (h.complete q a (.inr ha))

end

/-! ## How long it takes -/

section
variable [Fintype R] {known known' : R → Set α} {T : Set α}

/-- How many records of `T` would still be news to the nodes. -/
noncomputable def Flood.lag (key : α → κ) (rank : α → ρ) (T : Set α) (known : R → Set α) : ℕ :=
  ∑ r, {a ∈ T | ¬ Covered key rank (known r) a}.ncard

/-- No step makes this more, and news to a node makes it less. -/
theorem Flood.lag_learn (hfin : T.Finite) (hcovers : ∀ r, Covers key rank (known' r) (known r)) :
    Flood.lag key rank T known' ≤ Flood.lag key rank T known ∧
      ((∃ r, ∃ a ∈ T, ¬ Covered key rank (known r) a ∧ Covered key rank (known' r) a) →
        Flood.lag key rank T known' < Flood.lag key rank T known) := by
  have hsub : ∀ r, {a ∈ T | ¬ Covered key rank (known' r) a} ⊆
      {a ∈ T | ¬ Covered key rank (known r) a} :=
    fun r a ha => ⟨ha.1, fun hcov => ha.2 ((hcovers r).covered hcov)⟩
  have hfin' : ∀ r, {a ∈ T | ¬ Covered key rank (known r) a}.Finite :=
    fun r => hfin.subset (Set.sep_subset _ _)
  unfold Flood.lag
  refine ⟨Finset.sum_le_sum fun r _ => Set.ncard_le_ncard (hsub r) (hfin' r), ?_⟩
  rintro ⟨r, a, ha, hold, hnow⟩
  refine Finset.sum_lt_sum (fun q _ => Set.ncard_le_ncard (hsub q) (hfin' q))
    ⟨r, Finset.mem_univ r, Set.ncard_lt_ncard ⟨hsub r, fun hback => ?_⟩ (hfin' r)⟩
  exact (hback ⟨ha, hold⟩).2 hnow

end

end FrameRunner.Lib
