import FrameRunner.Lib.ShortestPath
import Mathlib.Logic.Function.Basic

/-!
# The result of Dijkstra's algorithm

`Dijkstra E root rank L L'` says that rounds of the algorithm lead from the labels
`L` to `L'`. A round settles the label that is least by distance and then by
`rank` (`Selects`) and relaxes its edges (`Relaxed`), in some order.

* `Relaxed.skip`, `Relaxed.update`: the edges may be relaxed one at a time.
* `Relaxed.unique`, `Dijkstra.unique`: the labels that come out, first hops
  included, do not depend on the order of the edges.
* `Dijkstra.image`: nor on the names of the vertices.
-/

namespace FrameRunner.Lib.ShortestPath

attribute [ext] Labels

/-- Only `root` has a label, and nothing is settled. -/
def Labels.start {V : Type*} [DecidableEq V] (root : V) : Labels V where
  dist v := if v = root then some 0 else none
  visited _ := False
  hop _ := none

/-! ## One round -/

section Round

variable {V : Type*} {E R : V → V → ℕ → Prop} {root s b h : V} {du w : ℕ} {L L₁ L₂ : Labels V}

/-- `L` with `s` settled. -/
def Labels.visit (L : Labels V) (s : V) : Labels V where
  dist := L.dist
  visited v := v = s ∨ L.visited v
  hop := L.hop

/-- The unsettled label `du` of `s` is the least one. -/
structure Selects (rank : V → ℕ) (L : Labels V) (s : V) (du : ℕ) : Prop where
  unsettled : ¬ L.visited s
  dist : L.dist s = some du
  least : ∀ v d, ¬ L.visited v → L.dist v = some d → du < d ∨ du = d ∧ rank s ≤ rank v

theorem Selects.unique {rank : V → ℕ} (hrank : Function.Injective rank) {s' : V} {du' : ℕ}
    (hs : Selects rank L s du) (hs' : Selects rank L s' du') : s = s' := by
  have h1 := hs.least s' du' hs'.unsettled hs'.dist
  have h2 := hs'.least s du hs.unsettled hs.dist
  exact hrank (by omega)

/-- The hop of a label that comes from `s`. -/
def HopFrom (root s : V) (L : Labels V) (b h : V) : Prop :=
  s = root ∧ h = b ∨ s ≠ root ∧ L.hop s = some h

/-- From `L` to `L'` the edges `R` of `s`, which is settled at `du`, were relaxed;
    every new label comes from an edge. -/
structure Relaxed (E R : V → V → ℕ → Prop) (root s : V) (du : ℕ) (L L' : Labels V) : Prop where
  visited : L'.visited = L.visited
  settled : ∀ v, L.visited v → L'.dist v = L.dist v ∧ L'.hop v = L.hop v
  le : ∀ v w, ¬ L.visited v → R s v w → ∃ d, L'.dist v = some d ∧ d ≤ du + w
  cases : ∀ v, ¬ L.visited v → (L'.dist v = L.dist v ∧ L'.hop v = L.hop v) ∨
    ∃ w h, E s v w ∧ L'.dist v = some (du + w) ∧ (∀ d, L.dist v = some d → du + w < d) ∧
      HopFrom root s L v h ∧ L'.hop v = some h

namespace Relaxed

/-- Nothing is relaxed yet. -/
theorem refl (hR : ∀ v w, ¬ R s v w) : Relaxed E R root s du L L where
  visited := rfl
  settled _ _ := ⟨rfl, rfl⟩
  le v w _ hr := absurd hr (hR v w)
  cases _ _ := .inl ⟨rfl, rfl⟩

theorem congr (I : Relaxed E R root s du L L₁) {R' : V → V → ℕ → Prop}
    (h : ∀ v w, R' s v w → R s v w) : Relaxed E R' root s du L L₁ :=
  { I with le := fun v w hv hr => I.le v w hv (h v w hr) }

/-- An edge that improves nothing. -/
theorem skip (I : Relaxed E R root s du L L₁)
    (hb : L.visited b ∨ ∃ d, L₁.dist b = some d ∧ d ≤ du + w) :
    Relaxed E (fun x y w' => R x y w' ∨ x = s ∧ y = b ∧ w' = w) root s du L L₁ := by
  refine { I with le := fun v w' hv hr => ?_ }
  rcases hr with hr | ⟨-, rfl, rfl⟩
  · exact I.le v w' hv hr
  · exact hb.resolve_left hv

/-- An edge that improves the label of its end. -/
theorem update (I : Relaxed E R root s du L L₁) (hs : L.visited s) (hb : ¬ L.visited b)
    (hE : E s b w) (himp : ∀ d, L₁.dist b = some d → du + w < d) (hhop : HopFrom root s L₁ b h)
    (hL : L₁.Updated L₂ b (du + w) h) :
    Relaxed E (fun x y w' => R x y w' ∨ x = s ∧ y = b ∧ w' = w) root s du L L₂ := by
  have hother : ∀ v, L.visited v → v ≠ b := by
    rintro v hv rfl
    exact hb hv
  have hhop : HopFrom root s L b h := by
    refine hhop.imp_right fun ⟨hne, hh⟩ => ⟨hne, ?_⟩
    rw [← (I.settled s hs).2]
    exact hh
  -- the label is below the one before the round
  have hfar : ∀ d, L.dist b = some d → du + w < d := by
    intro d hd
    rcases I.cases b hb with ⟨hd', -⟩ | ⟨w', -, -, hd', hlt, -⟩
    · exact himp d (hd'.trans hd)
    · exact lt_trans (himp _ hd') (hlt d hd)
  constructor
  · rw [hL.visited, I.visited]
  · intro v hv
    rw [hL.dist_other v (hother v hv), hL.hop_other v (hother v hv)]
    exact I.settled v hv
  · intro v w' hv hr
    by_cases hvb : v = b
    · subst hvb
      refine ⟨_, hL.dist_self, ?_⟩
      rcases hr with hr | ⟨-, -, rfl⟩
      · obtain ⟨d, hd, hle⟩ := I.le v w' hv hr
        exact (himp d hd).le.trans hle
      · exact le_rfl
    · rw [hL.dist_other v hvb]
      rcases hr with hr | ⟨-, rfl, -⟩
      · exact I.le v w' hv hr
      · exact absurd rfl hvb
  · intro v hv
    by_cases hvb : v = b
    · subst hvb
      exact .inr ⟨w, h, hE, hL.dist_self, hfar, hhop, hL.hop_self⟩
    · rw [hL.dist_other v hvb, hL.hop_other v hvb]
      exact I.cases v hv

/-- The labels after a round do not depend on the order of its edges. -/
theorem unique (I₁ : Relaxed E E root s du L L₁) (I₂ : Relaxed E E root s du L L₂) : L₁ = L₂ := by
  have hboth : ∀ v, L₁.dist v = L₂.dist v ∧ L₁.hop v = L₂.hop v := by
    intro v
    by_cases hv : L.visited v
    · obtain ⟨d1, h1⟩ := I₁.settled v hv
      obtain ⟨d2, h2⟩ := I₂.settled v hv
      exact ⟨d1.trans d2.symm, h1.trans h2.symm⟩
    -- an edge that one run took, the other one has seen
    have hsame : ∀ {L₁ L₂ : Labels V}, Relaxed E E root s du L L₂ →
        (L₂.dist v = L.dist v ∧ L₂.hop v = L.hop v) → ¬ ∃ w h, E s v w ∧
        L₁.dist v = some (du + w) ∧ (∀ d, L.dist v = some d → du + w < d) ∧
        HopFrom root s L v h ∧ L₁.hop v = some h := by
      rintro L₁ L₂ I ⟨hd, -⟩ ⟨w, h, hE, -, hlt, -⟩
      obtain ⟨d, hd', hle⟩ := I.le v w hv hE
      have := hlt d (hd.symm.trans hd')
      omega
    rcases I₁.cases v hv with h₁ | h₁ <;> rcases I₂.cases v hv with h₂ | h₂
    · exact ⟨h₁.1.trans h₂.1.symm, h₁.2.trans h₂.2.symm⟩
    · exact absurd h₂ (hsame I₁ h₁)
    · exact absurd h₁ (hsame I₂ h₂)
    · obtain ⟨w, h, hE, hd, -, hhop, hh⟩ := h₁
      obtain ⟨w', h', hE', hd', -, hhop', hh'⟩ := h₂
      obtain ⟨e, he, hle⟩ := I₁.le v w' hv hE'
      obtain ⟨e', he', hle'⟩ := I₂.le v w hv hE
      rw [hd, Option.some.injEq] at he
      rw [hd', Option.some.injEq] at he'
      have hw : w = w' := by omega
      refine ⟨by rw [hd, hd', hw], ?_⟩
      rw [hh, hh']
      rcases hhop with ⟨hs, rfl⟩ | ⟨hs, hhop⟩ <;> rcases hhop' with ⟨hs', rfl⟩ | ⟨hs', hhop'⟩
      · rfl
      · exact absurd hs hs'
      · exact absurd hs' hs
      · exact hhop.symm.trans hhop'
  refine Labels.ext (funext fun v => (hboth v).1) ?_ (funext fun v => (hboth v).2)
  rw [I₁.visited, I₂.visited]

end Relaxed

end Round

/-! ## Rounds -/

/-- Rounds until every label is settled. -/
inductive Dijkstra {V : Type*} (E : V → V → ℕ → Prop) (root : V) (rank : V → ℕ) :
    Labels V → Labels V → Prop
  | done {L : Labels V} : (∀ v d, L.dist v = some d → L.visited v) → Dijkstra E root rank L L
  | round {L L₁ L₂ : Labels V} {s : V} {du : ℕ} : Selects rank L s du →
      Relaxed E E root s du (L.visit s) L₁ → Dijkstra E root rank L₁ L₂ →
      Dijkstra E root rank L L₂

/-- The graph determines the result. -/
theorem Dijkstra.unique {V : Type*} {E : V → V → ℕ → Prop} {root : V} {rank : V → ℕ}
    (hrank : Function.Injective rank) {L L₁ : Labels V} (h₁ : Dijkstra E root rank L L₁) :
    ∀ {L₂ : Labels V}, Dijkstra E root rank L L₂ → L₁ = L₂ := by
  induction h₁ with
  | done hdone =>
    intro L₂ h₂
    cases h₂ with
    | done _ => rfl
    | round hs _ _ => exact absurd (hdone _ _ hs.dist) hs.unsettled
  | round hs hR _ ih =>
    intro L₂ h₂
    cases h₂ with
    | done hdone => exact absurd (hdone _ _ hs.dist) hs.unsettled
    | round hs' hR' hrest =>
      obtain rfl := hs.unique hrank hs'
      obtain rfl := Option.some.inj (hs.dist.symm.trans hs'.dist)
      obtain rfl := hR.unique hR'
      exact ih hrest

/-! ## Names -/

section Image

variable {V W : Type*} {E : V → V → ℕ → Prop} {F : W → W → ℕ → Prop} {f : V → W}

/-- The labels under new names; other names have no label. -/
noncomputable def Labels.image (f : V → W) (L : Labels V) : Labels W where
  dist := Function.extend f L.dist fun _ => none
  visited y := ∃ x, f x = y ∧ L.visited x
  hop := Function.extend f (fun x => (L.hop x).map f) fun _ => none

section Apply

variable (hf : Function.Injective f) (L : Labels V) (x : V)
include hf

theorem Labels.image_dist : (L.image f).dist (f x) = L.dist x :=
  hf.extend_apply L.dist (fun _ => none) x

theorem Labels.image_hop : (L.image f).hop (f x) = (L.hop x).map f :=
  hf.extend_apply (fun x => (L.hop x).map f) (fun _ => none) x

theorem Labels.image_visited : (L.image f).visited (f x) ↔ L.visited x :=
  ⟨fun ⟨_, e, hv⟩ => hf e ▸ hv, fun hv => ⟨x, rfl, hv⟩⟩

end Apply

theorem Labels.image_of_not_range (L : Labels V) {y : W} (hy : ¬ ∃ x, f x = y) :
    (L.image f).dist y = none ∧ (L.image f).hop y = none :=
  ⟨Function.extend_apply' L.dist (fun _ => none) y hy,
    Function.extend_apply' (fun x => (L.hop x).map f) (fun _ => none) y hy⟩

theorem Labels.image_dist_eq_some {L : Labels V} {y : W} {d : ℕ} (hf : Function.Injective f)
    (h : (L.image f).dist y = some d) : ∃ x, f x = y ∧ L.dist x = some d := by
  by_cases hy : ∃ x, f x = y
  · obtain ⟨x, rfl⟩ := hy
    exact ⟨x, rfl, (L.image_dist hf x).symm.trans h⟩
  · rw [(L.image_of_not_range hy).1] at h
    cases h

theorem Labels.image_start [DecidableEq V] [DecidableEq W] (hf : Function.Injective f) (a : V) :
    (Labels.start a).image f = Labels.start (f a) := by
  refine Labels.ext (funext fun y => ?_) (funext fun y => propext ?_) (funext fun y => ?_)
  · by_cases hy : ∃ x, f x = y
    · obtain ⟨x, rfl⟩ := hy
      rw [Labels.image_dist hf]
      simp only [start, hf.eq_iff]
    · rw [((Labels.start a).image_of_not_range hy).1]
      have hne : y ≠ f a := by
        rintro rfl
        exact hy ⟨a, rfl⟩
      simp only [start, if_neg hne]
  · simp [image, start]
  · by_cases hy : ∃ x, f x = y
    · obtain ⟨x, rfl⟩ := hy
      rw [Labels.image_hop hf]
      rfl
    · exact ((Labels.start a).image_of_not_range hy).2

theorem Labels.image_visit (L : Labels V) (s : V) :
    (L.visit s).image f = (L.image f).visit (f s) := by
  refine Labels.ext rfl (funext fun y => propext ?_) rfl
  constructor
  · rintro ⟨x, rfl, rfl | hx⟩
    · exact .inl rfl
    · exact .inr ⟨x, rfl, hx⟩
  · rintro (rfl | ⟨x, rfl, hx⟩)
    · exact ⟨s, rfl, .inl rfl⟩
    · exact ⟨x, rfl, .inr hx⟩

theorem Selects.image {rank : V → ℕ} {rank' : W → ℕ} (hf : Function.Injective f)
    (hrank : ∀ x, rank' (f x) = rank x) {L : Labels V} {s : V} {du : ℕ}
    (h : Selects rank L s du) : Selects rank' (L.image f) (f s) du := by
  refine ⟨(L.image_visited hf s).not.mpr h.unsettled, (L.image_dist hf s).trans h.dist, ?_⟩
  intro y d hy hd
  obtain ⟨x, rfl, hx⟩ := Labels.image_dist_eq_some hf hd
  rw [hrank, hrank]
  exact h.least x d ((L.image_visited hf x).not.mp hy) hx

theorem Relaxed.image (hE : Embeds E F f) {root s : V} {du : ℕ} {L L' : Labels V}
    (h : Relaxed E E root s du L L') :
    Relaxed F F (f root) (f s) du (L.image f) (L'.image f) := by
  have hf := hE.injective
  constructor
  · funext y
    simp only [Labels.image, h.visited]
  · rintro _ ⟨x, rfl, hx⟩
    obtain ⟨hd, hh⟩ := h.settled x hx
    simp only [Labels.image_dist hf, Labels.image_hop hf, hd, hh, and_self]
  · intro y w hy hF
    obtain ⟨x, rfl⟩ := hE.closed _ _ _ hF
    rw [L'.image_dist hf]
    exact h.le x w ((L.image_visited hf x).not.mp hy) ((hE.edge _ _ _).mpr hF)
  · intro y hy
    by_cases hx : ∃ x, f x = y
    · obtain ⟨x, rfl⟩ := hx
      simp only [Labels.image_dist hf, Labels.image_hop hf]
      refine (h.cases x ((L.image_visited hf x).not.mp hy)).imp
        (fun ⟨hd, hh⟩ => ⟨hd, by rw [hh]⟩) ?_
      rintro ⟨w, b, hEw, hd, hlt, hhop, hh⟩
      refine ⟨w, f b, (hE.edge _ _ _).mp hEw, hd, hlt, ?_, by rw [hh]; rfl⟩
      rcases hhop with ⟨rfl, rfl⟩ | ⟨hne, hs⟩
      · exact .inl ⟨rfl, rfl⟩
      · exact .inr ⟨hf.ne hne, by rw [Labels.image_hop hf, hs]; rfl⟩
    · obtain ⟨hd, hh⟩ := L.image_of_not_range hx
      obtain ⟨hd', hh'⟩ := L'.image_of_not_range hx
      exact .inl ⟨hd'.trans hd.symm, hh'.trans hh.symm⟩

/-- The algorithm does not see the names of the vertices. -/
theorem Dijkstra.image (hE : Embeds E F f) {root : V} {rank : V → ℕ} {rank' : W → ℕ}
    (hrank : ∀ x, rank' (f x) = rank x) {L L' : Labels V} (h : Dijkstra E root rank L L') :
    Dijkstra F (f root) rank' (L.image f) (L'.image f) := by
  induction h with
  | @done L hdone =>
    refine Dijkstra.done fun y d hd => ?_
    obtain ⟨x, rfl, hx⟩ := Labels.image_dist_eq_some hE.injective hd
    exact (L.image_visited hE.injective x).mpr (hdone x d hx)
  | @round L L₁ L₂ s du hs hR _ ih =>
    refine Dijkstra.round (hs.image hE.injective hrank) ?_ ih
    rw [← Labels.image_visit]
    exact hR.image hE

end Image

end FrameRunner.Lib.ShortestPath
