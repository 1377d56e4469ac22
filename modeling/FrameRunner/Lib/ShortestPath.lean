import Mathlib.Data.Set.Basic
import Mathlib.Tactic

/-!
# Shortest walks and Dijkstra's invariant

A weighted graph is a relation `E a b w`, "there is an edge from `a` to `b` of
weight `w`". Parallel edges, self loops and zero weights are allowed.

* `Walk`, `WalkVia`, `IsDist`: walks with their total weight, walks with a
  given first hop, and the least weight of a walk.
* `Labels`, `Inv`: tentative distances with a visited set and first hops, and
  what Dijkstra's algorithm keeps true of them. The rules `Inv.init`,
  `Inv.visit`, `Inv.skip`, `Inv.update` follow the algorithm edge by edge, and
  `Inv.isDist` and `Inv.hop_walk` read off the result when it stops.
-/

namespace FrameRunner.Lib.ShortestPath

variable {V : Type*} {E : V → V → ℕ → Prop}

/-! ## Walks -/

/-- A walk from `a` with its end and its total weight. -/
inductive Walk (E : V → V → ℕ → Prop) (a : V) : V → ℕ → Prop
  | nil : Walk E a a 0
  | snoc {b c : V} {d w : ℕ} : Walk E a b d → E b c w → Walk E a c (d + w)

/-- A walk of at least one edge from `a`, the first of them to `h`. -/
inductive WalkVia (E : V → V → ℕ → Prop) (a h : V) : V → ℕ → Prop
  | first {w : ℕ} : E a h w → WalkVia E a h h w
  | snoc {b c : V} {d w : ℕ} : WalkVia E a h b d → E b c w → WalkVia E a h c (d + w)

theorem WalkVia.first_edge {a h b : V} {d : ℕ} (p : WalkVia E a h b d) : ∃ w, E a h w := by
  induction p with
  | first e => exact ⟨_, e⟩
  | snoc _ _ ih => exact ih

/-- `d` is the least weight of a walk from `a` to `b`. -/
def IsDist (E : V → V → ℕ → Prop) (a b : V) (d : ℕ) : Prop :=
  Walk E a b d ∧ ∀ d', Walk E a b d' → d ≤ d'

/-- There is a walk from `a` to `b`. -/
def Reachable (E : V → V → ℕ → Prop) (a b : V) : Prop := ∃ d, Walk E a b d

section Map

variable {W : Type*} {F : W → W → ℕ → Prop} {f : V → W}

/-- `f` embeds the graph `E` in `F` and no edge of `F` leaves its image. -/
structure Embeds (E : V → V → ℕ → Prop) (F : W → W → ℕ → Prop) (f : V → W) : Prop where
  injective : Function.Injective f
  edge : ∀ a b w, E a b w ↔ F (f a) (f b) w
  closed : ∀ a y w, F (f a) y w → ∃ b, f b = y

theorem Embeds.walk (h : Embeds E F f) {a : V} {y : W} {d : ℕ} :
    Walk F (f a) y d ↔ ∃ b, f b = y ∧ Walk E a b d := by
  constructor
  · intro p
    induction p with
    | nil => exact ⟨a, rfl, Walk.nil⟩
    | snoc _ e ih =>
      obtain ⟨b, rfl, q⟩ := ih
      obtain ⟨c, rfl⟩ := h.closed _ _ _ e
      exact ⟨c, rfl, q.snoc ((h.edge _ _ _).mpr e)⟩
  · rintro ⟨b, rfl, p⟩
    induction p with
    | nil => exact Walk.nil
    | snoc _ e ih => exact ih.snoc ((h.edge _ _ _).mp e)

theorem Embeds.walkVia (h : Embeds E F f) {a c b : V} {d : ℕ} (p : WalkVia E a c b d) :
    WalkVia F (f a) (f c) (f b) d := by
  induction p with
  | first e => exact WalkVia.first ((h.edge _ _ _).mp e)
  | snoc _ e ih => exact ih.snoc ((h.edge _ _ _).mp e)

theorem Embeds.isDist (h : Embeds E F f) {a b : V} {d : ℕ} :
    IsDist F (f a) (f b) d ↔ IsDist E a b d := by
  have hw : ∀ d, Walk F (f a) (f b) d ↔ Walk E a b d := by
    intro d
    rw [h.walk]
    exact ⟨fun ⟨_, e, p⟩ => h.injective e ▸ p, fun p => ⟨b, rfl, p⟩⟩
  simp only [IsDist, hw]

end Map

/-! ## Labels -/

/-- Tentative distances, the settled vertices and the first hops. -/
structure Labels (V : Type*) where
  dist : V → Option ℕ
  visited : V → Prop
  hop : V → Option V

/-- `L'` is `L` with `v` reached at distance `d` through `h`. -/
structure Labels.Updated (L L' : Labels V) (v : V) (d : ℕ) (h : V) : Prop where
  visited : L'.visited = L.visited
  dist_self : L'.dist v = some d
  hop_self : L'.hop v = some h
  dist_other : ∀ x, x ≠ v → L'.dist x = L.dist x
  hop_other : ∀ x, x ≠ v → L'.hop x = L.hop x

/-- Dijkstra's invariant, the edges in `R` having been relaxed. -/
structure Inv (E : V → V → ℕ → Prop) (root : V) (R : V → V → ℕ → Prop) (L : Labels V) :
    Prop where
  dist_root : L.dist root = some 0
  /-- a label is the weight of a walk -/
  sound : ∀ v d, L.dist v = some d → Walk E root v d
  /-- of one that starts with the recorded hop -/
  via : ∀ v d, L.dist v = some d → v ≠ root →
    ∃ h, L.hop v = some h ∧ h ≠ root ∧ WalkVia E root h v d
  labelled : ∀ v, L.visited v → ∃ d, L.dist v = some d
  /-- edges are relaxed from settled vertices -/
  source : ∀ u v w, R u v w → L.visited u
  relaxed : ∀ u v w du, R u v w → L.dist u = some du → ∃ dv, L.dist v = some dv ∧ dv ≤ du + w
  /-- settled labels are below the others -/
  order : ∀ u v du dv, L.visited u → ¬ L.visited v → L.dist u = some du → L.dist v = some dv →
    du ≤ dv

namespace Inv

variable {root : V} {R : V → V → ℕ → Prop} {L L' : Labels V}

/-- Only the root is labelled and nothing is settled. -/
theorem init (hdist : L.dist root = some 0) (hother : ∀ v, v ≠ root → L.dist v = none)
    (hvis : ∀ v, ¬ L.visited v) : Inv E root (fun _ _ _ => False) L where
  dist_root := hdist
  sound v d hd := by
    by_cases hv : v = root
    · subst hv
      obtain rfl : 0 = d := by simpa [hdist] using hd
      exact Walk.nil
    · simp [hother v hv] at hd
  via v d hd hv := by simp [hother v hv] at hd
  labelled v hv := absurd hv (hvis v)
  source _ _ _ h := h.elim
  relaxed _ _ _ _ h := h.elim
  order u _ _ _ hu := absurd hu (hvis u)

/-- A least unsettled vertex is settled. -/
theorem visit (I : Inv E root R L) {u : V} {du : ℕ} (hu : ¬ L.visited u)
    (hdu : L.dist u = some du)
    (hmin : ∀ v dv, ¬ L.visited v → L.dist v = some dv → du ≤ dv)
    (hvis : ∀ v, L'.visited v ↔ v = u ∨ L.visited v) (hdist : L'.dist = L.dist)
    (hhop : L'.hop = L.hop) : Inv E root R L' where
  dist_root := hdist ▸ I.dist_root
  sound := by rw [hdist]; exact I.sound
  via := by rw [hdist, hhop]; exact I.via
  labelled v hv := by
    rw [hdist]
    rcases (hvis v).mp hv with rfl | hv
    · exact ⟨du, hdu⟩
    · exact I.labelled v hv
  source x v w hR := (hvis x).mpr (.inr (I.source x v w hR))
  relaxed := by rw [hdist]; exact I.relaxed
  order x v dx dv hx hv hdx hdv := by
    rw [hdist] at hdx hdv
    have hv' : ¬ L.visited v := fun h => hv ((hvis v).mpr (.inr h))
    rcases (hvis x).mp hx with rfl | hx
    · obtain rfl : du = dx := by simpa [hdu] using hdx
      exact hmin v dv hv' hdv
    · exact I.order x v dx dv hx hv' hdx hdv

/-- The vertex settled last has the largest settled label. -/
theorem le_of_visit (I : Inv E root R L) {u : V} {du : ℕ} (hu : ¬ L.visited u)
    (hdu : L.dist u = some du) {x : V} {dx : ℕ} (hx : x = u ∨ L.visited x)
    (hdx : L.dist x = some dx) : dx ≤ du := by
  rcases hx with rfl | hx
  · rw [hdu] at hdx
    exact (Option.some.inj hdx).ge
  · exact I.order x u dx du hx hu hdx hdu

/-- An edge that improves nothing. -/
theorem skip (I : Inv E root R L) {u v : V} {w du dv : ℕ} (hu : L.visited u)
    (hdu : L.dist u = some du) (hdv : L.dist v = some dv) (hle : dv ≤ du + w) :
    Inv E root (fun a b c => R a b c ∨ a = u ∧ b = v ∧ c = w) L where
  dist_root := I.dist_root
  sound := I.sound
  via := I.via
  labelled := I.labelled
  source a b c h := by
    rcases h with h | ⟨rfl, -, -⟩
    · exact I.source a b c h
    · exact hu
  relaxed a b c da h hda := by
    rcases h with h | ⟨rfl, rfl, rfl⟩
    · exact I.relaxed a b c da h hda
    · obtain rfl : du = da := by simpa [hdu] using hda
      exact ⟨dv, hdv, hle⟩
  order := I.order

/-- An edge that improves the label of its end. -/
theorem update (I : Inv E root R L) {u v h : V} {w du : ℕ} (hu : L.visited u)
    (hdu : L.dist u = some du) (hE : E u v w) (hv : ¬ L.visited v) (hroot : L.visited root)
    (hcap : ∀ x dx, L.visited x → L.dist x = some dx → dx ≤ du)
    (himp : ∀ dv, L.dist v = some dv → du + w < dv)
    (hhop : (u = root ∧ h = v) ∨ (u ≠ root ∧ L.hop u = some h))
    (hL : L.Updated L' v (du + w) h) :
    Inv E root (fun a b c => R a b c ∨ a = u ∧ b = v ∧ c = w) L' := by
  have hvr : v ≠ root := fun e => hv (e ▸ hroot)
  have huv : u ≠ v := fun e => hv (e ▸ hu)
  -- settled vertices keep their labels
  have keep : ∀ x, L.visited x → L'.dist x = L.dist x :=
    fun x hx => hL.dist_other x fun e => hv (e ▸ hx)
  constructor
  · rw [keep root hroot]
    exact I.dist_root
  · intro x d hd
    by_cases hx : x = v
    · subst hx
      obtain rfl : du + w = d := by simpa [hL.dist_self] using hd
      exact (I.sound u du hdu).snoc hE
    · rw [hL.dist_other x hx] at hd
      exact I.sound x d hd
  · intro x d hd hxr
    by_cases hx : x = v
    · subst hx
      obtain rfl : du + w = d := by simpa [hL.dist_self] using hd
      refine ⟨h, hL.hop_self, ?_⟩
      rcases hhop with ⟨rfl, rfl⟩ | ⟨hur, hh⟩
      · obtain rfl : du = 0 := by simpa [I.dist_root] using hdu.symm
        exact ⟨hvr, by simpa using WalkVia.first hE⟩
      · obtain ⟨h', hh', hne, hw⟩ := I.via u du hdu hur
        obtain rfl : h = h' := by simpa [hh] using hh'
        exact ⟨hne, hw.snoc hE⟩
    · rw [hL.dist_other x hx] at hd
      rw [hL.hop_other x hx]
      exact I.via x d hd hxr
  · intro x hx
    rw [hL.visited] at hx
    rw [keep x hx]
    exact I.labelled x hx
  · intro a b c hR
    rw [hL.visited]
    rcases hR with hR | ⟨rfl, -, -⟩
    · exact I.source a b c hR
    · exact hu
  · intro a b c da hR hda
    rcases hR with hR | ⟨rfl, rfl, rfl⟩
    · rw [keep a (I.source a b c hR)] at hda
      obtain ⟨db, hdb, hle⟩ := I.relaxed a b c da hR hda
      by_cases hb : b = v
      · subst hb
        exact ⟨du + w, hL.dist_self, (himp db hdb).le.trans hle⟩
      · exact ⟨db, by rw [hL.dist_other b hb]; exact hdb, hle⟩
    · rw [keep a hu, hdu] at hda
      obtain rfl := Option.some.inj hda
      exact ⟨_, hL.dist_self, le_rfl⟩
  · intro x y dx dy hx hy hdx hdy
    rw [hL.visited] at hx hy
    rw [keep x hx] at hdx
    by_cases hyv : y = v
    · subst hyv
      obtain rfl : du + w = dy := by simpa [hL.dist_self] using hdy
      exact (hcap x dx hx hdx).trans (Nat.le_add_right _ _)
    · rw [hL.dist_other y hyv] at hdy
      exact I.order x y dx dy hx hy hdx hdy

/-- The set of relaxed edges may be restated. -/
theorem congr (I : Inv E root R L) {R' : V → V → ℕ → Prop} (h : ∀ a b c, R' a b c → R a b c) :
    Inv E root R' L :=
  { I with
    source := fun a b c hR => I.source a b c (h a b c hR)
    relaxed := fun a b c da hR => I.relaxed a b c da (h a b c hR) }

/-- Every labelled vertex is settled and every edge of a settled vertex is
    relaxed. -/
def Done (E R : V → V → ℕ → Prop) (L : Labels V) : Prop :=
  (∀ v d, L.dist v = some d → L.visited v) ∧ ∀ u v w, L.visited u → E u v w → R u v w

theorem le_of_walk (I : Inv E root R L) (hdone : Done E R L) {v : V} {d : ℕ}
    (p : Walk E root v d) : ∃ dv, L.dist v = some dv ∧ dv ≤ d := by
  induction p with
  | nil => exact ⟨0, I.dist_root, le_rfl⟩
  | snoc _ e ih =>
    obtain ⟨db, hdb, hle⟩ := ih
    obtain ⟨dc, hdc, hle'⟩ := I.relaxed _ _ _ db (hdone.2 _ _ _ (hdone.1 _ _ hdb) e) hdb
    exact ⟨dc, hdc, by omega⟩

/-- At the end the labels are the distances. -/
theorem isDist (I : Inv E root R L) (hdone : Done E R L) (v : V) (d : ℕ) :
    L.dist v = some d ↔ IsDist E root v d := by
  constructor
  · intro hd
    refine ⟨I.sound v d hd, fun d' p => ?_⟩
    obtain ⟨dv, hdv, hle⟩ := I.le_of_walk hdone p
    obtain rfl : d = dv := by simpa [hd] using hdv
    exact hle
  · intro hd
    obtain ⟨dv, hdv, hle⟩ := I.le_of_walk hdone hd.1
    rw [hdv, le_antisymm hle (hd.2 _ (I.sound v dv hdv))]

/-- And the vertices with a label are the reachable ones. -/
theorem reachable_iff (I : Inv E root R L) (hdone : Done E R L) (v : V) :
    Reachable E root v ↔ ∃ d, L.dist v = some d := by
  constructor
  · rintro ⟨d, p⟩
    obtain ⟨dv, hdv, -⟩ := I.le_of_walk hdone p
    exact ⟨dv, hdv⟩
  · rintro ⟨d, hd⟩
    exact ⟨d, I.sound v d hd⟩

end Inv

end FrameRunner.Lib.ShortestPath
