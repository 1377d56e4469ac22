import FrameRunner.Lib.Dijkstra
import FrameRunner.Ospf.Spf

/-!
# The SPF tree is a shortest path tree

The graph of an LSDB has an edge for each P2P link of a valid router LSA
(`P2pLink`). `spfVertices` finds all its routers (`spfVertices_ok`), and the
loop of `ospf_run_spf` keeps Dijkstra's invariant on them, link by link
(`RelaxRun.link`), slot by slot (`RelaxRun.lsa`) and round by round
(`spfLoop_ok`). It never fails: every link end is a vertex, no distance comes
near `OSPF_INFINITY`, and every labelled vertex has a first hop.
-/

namespace FrameRunner

open FrameRunner.Lib FrameRunner.Lib.ShortestPath

/-! ## The graph of an LSDB -/

/-- Link `j` of LSDB slot `i` is a P2P link from `a` to `b` of metric `w`. -/
def P2pLinkAt (state : OspfState) (i : Fin ospfLsdbSize) (j : ℕ) (a b : UInt32) (w : ℕ) : Prop :=
  (state.lsdb i).isRouterLsa = true ∧ (state.lsdb i).advRouter = a ∧
    ∃ hj : j < (state.lsdb i).linkCount, ((state.lsdb i).link ⟨j, hj⟩).type = ospfLinkP2p ∧
      ((state.lsdb i).link ⟨j, hj⟩).linkId = b ∧ ((state.lsdb i).link ⟨j, hj⟩).metric.toNat = w

/-- The P2P links of the valid router LSAs. -/
def P2pLink (state : OspfState) (a b : UInt32) (w : ℕ) : Prop := ∃ i j, P2pLinkAt state i j a b w

/-! ## The vertices -/

theorem ospfSpfMaxNodes_eq : ospfSpfMaxNodes = 1281 := rfl

/-- A vertex as `ospf_ensure_spf_vertex` appends it. -/
def spfFresh (routerId : UInt32) : OspfSpfVertex where
  routerId := routerId
  distance := ospfInfinity
  predecessor := none
  firstHop := none
  visited := false

/-- The vertex list of the router itself and the others found. -/
def spfTable (state : OspfState) (others : List UInt32) : List OspfSpfVertex :=
  spfRoot state :: others.map spfFresh

@[simp] theorem length_spfTable (state : OspfState) (others : List UInt32) :
    (spfTable state others).length = others.length + 1 := by
  simp [spfTable]

@[simp] theorem routerId_spfTable (state : OspfState) (others : List UInt32) :
    (spfTable state others).map (·.routerId) = state.routerId :: others := by
  simp [spfTable, spfRoot, Function.comp_def, spfFresh]

/-- `ospf_ensure_spf_vertex` adds a router once. -/
theorem ospfEnsureSpfVertex_table {state : OspfState} {others : List UInt32}
    (hnodup : (state.routerId :: others).Nodup) (hlen : others.length + 1 < ospfSpfMaxNodes)
    (r : UInt32) :
    ∃ others' k, ospfEnsureSpfVertex (spfTable state others) r = some (spfTable state others', k) ∧
      (state.routerId :: others').Nodup ∧ r ∈ state.routerId :: others' ∧
      others ⊆ others' ∧ others'.length ≤ others.length + 1 := by
  unfold ospfEnsureSpfVertex
  split
  · rename_i i hi
    refine ⟨others, i, rfl, hnodup, ?_, List.Subset.refl _, Nat.le_succ _⟩
    obtain ⟨hlt, heq, -⟩ := List.findIdx?_eq_some_iff_getElem.mp hi
    have hmem : (spfTable state others)[i].routerId ∈ (spfTable state others).map (·.routerId) :=
      List.mem_map_of_mem (List.getElem_mem hlt)
    rw [routerId_spfTable, beq_iff_eq.mp heq] at hmem
    exact hmem
  · rename_i hnone
    have hr : r ∉ state.routerId :: others := by
      rw [← routerId_spfTable]
      intro hmem
      obtain ⟨v, hv, hvr⟩ := List.mem_map.mp hmem
      have := List.findIdx?_eq_none_iff.mp hnone v hv
      simp [hvr] at this
    rw [if_neg (by simp only [length_spfTable]; omega)]
    refine ⟨others ++ [r], _, by simp [spfTable, spfFresh]; rfl, ?_, by simp, by simp, by simp⟩
    rw [← List.cons_append]
    exact hnodup.append (List.nodup_singleton r) (by simpa using hr)

/-- The vertex table after the links that `done` chooses. -/
def VerticesOk (state : OspfState) (size : ℕ) (done : Fin ospfLsdbSize → ℕ → Prop)
    (vertices : List OspfSpfVertex) : Prop :=
  ∃ others, vertices = spfTable state others ∧ (state.routerId :: others).Nodup ∧
    others.length ≤ size ∧ ∀ i j a b w, done i j → P2pLinkAt state i j a b w →
      a ∈ state.routerId :: others ∧ b ∈ state.routerId :: others

theorem mem_cons_of_subset {α : Type*} {x a : α} {l l' : List α} (h : l ⊆ l')
    (hx : x ∈ a :: l) : x ∈ a :: l' :=
  List.cons_subset_cons a h hx

/-- One slot of the LSDB. -/
theorem spfAddLsa_ok {state : OspfState} {vertices : List OspfSpfVertex} (i : Fin ospfLsdbSize)
    (h : VerticesOk state (5 * i) (fun i' _ => i' < i) vertices) :
    ∃ vertices', spfAddLsa state vertices i = some vertices' ∧
      VerticesOk state (5 * (i + 1)) (fun i' _ => i'.val < i + 1) vertices' := by
  have hi : i.val < 256 := i.isLt
  obtain ⟨others, rfl, hnodup, hlen, hcov⟩ := h
  unfold spfAddLsa
  dsimp only
  split_ifs with hskip
  · -- not a valid router LSA: the slot has no link
    refine ⟨_, rfl, others, rfl, hnodup, by omega, fun i' j a b w hlt hl => ?_⟩
    rcases Slots.lt_or_eq_of_lt_succ hlt with hlt | rfl
    · exact hcov i' j a b w hlt hl
    · simp [hl.1] at hskip
  obtain ⟨others₁, k, he, hnodup₁, hadv, hsub, hlen₁⟩ := ospfEnsureSpfVertex_table hnodup
    (by rw [ospfSpfMaxNodes_eq]; omega) (state.lsdb i).advRouter
  -- the links of the slot, one after the other
  rw [he]
  change ∃ z, Slots.forEachM _ _ (spfTable state others₁) = some z ∧ _
  have hcount : (state.lsdb i).linkCount.val < 5 := (state.lsdb i).linkCount.isLt
  refine (Slots.forEachM_induction
    (fun m vertices => ∃ others', vertices = spfTable state others' ∧
      (state.routerId :: others').Nodup ∧ others₁ ⊆ others' ∧
      others'.length ≤ others₁.length + m ∧
      ∀ j a b w, j < m → P2pLinkAt state i j a b w → b ∈ state.routerId :: others')
    ⟨others₁, rfl, hnodup₁, List.Subset.refl _, by omega, fun j a b w hj => by omega⟩ ?_).imp
    fun z hz => ⟨hz.1, ?_⟩
  · rintro j _ ⟨others', rfl, hnd, hsub', hlen', hcov'⟩
    have hj := j.isLt
    split_ifs with htype
    · refine ⟨_, rfl, others', rfl, hnd, hsub', by omega, fun j' a b w hlt hl => ?_⟩
      rcases Nat.lt_succ_iff_lt_or_eq.mp hlt with hlt | rfl
      · exact hcov' j' a b w hlt hl
      · exact absurd hl.2.2.2.1 htype
    · obtain ⟨others'', k, he'', hnd'', hmem, hsub'', hlen''⟩ := ospfEnsureSpfVertex_table hnd
        (by rw [ospfSpfMaxNodes_eq]; omega) ((state.lsdb i).link j).linkId
      refine ⟨_, by rw [he'']; rfl, others'', rfl, hnd'', List.Subset.trans hsub' hsub'', by omega,
        fun j' a b w hlt hl => ?_⟩
      rcases Nat.lt_succ_iff_lt_or_eq.mp hlt with hlt | rfl
      · exact mem_cons_of_subset hsub'' (hcov' j' a b w hlt hl)
      · obtain ⟨-, -, _, -, rfl, -⟩ := hl
        exact hmem
  · obtain ⟨others', rfl, hnd, hsub', hlen', hcov'⟩ := hz.2
    refine ⟨others', rfl, hnd, by omega, fun i' j a b w hlt hl => ?_⟩
    rcases Slots.lt_or_eq_of_lt_succ hlt with hlt | rfl
    · obtain ⟨ha, hb⟩ := hcov i' j a b w hlt hl
      exact ⟨mem_cons_of_subset (List.Subset.trans hsub hsub') ha,
        mem_cons_of_subset (List.Subset.trans hsub hsub') hb⟩
    · obtain ⟨-, rfl, hj, -⟩ := id hl
      exact ⟨mem_cons_of_subset hsub' hadv, hcov' j _ b w hj hl⟩

/-- The vertices are the router and both ends of every link, each once. -/
theorem spfVertices_ok (state : OspfState) :
    ∃ others, spfVertices state = some (spfTable state others) ∧
      (state.routerId :: others).Nodup ∧ others.length < ospfSpfMaxNodes ∧
      ∀ a b w, P2pLink state a b w →
        a ∈ state.routerId :: others ∧ b ∈ state.routerId :: others := by
  obtain ⟨_, hz, others, rfl, hnodup, hlen, hcov⟩ :=
    Slots.forEachM_induction (f := spfAddLsa state) (x := [spfRoot state])
      (fun k => VerticesOk state (5 * k) fun i' _ => i'.val < k)
      ⟨[], rfl, List.nodup_singleton _, by simp, fun i j a b w h => by omega⟩
      fun i _ h => spfAddLsa_ok i h
  refine ⟨others, hz, hnodup, ?_, ?_⟩
  · rw [ospfSpfMaxNodes_eq]
    have : others.length ≤ 5 * 256 := hlen
    omega
  · rintro a b w ⟨i, j, hl⟩
    exact hcov i j a b w i.isLt hl

/-! ## The loop -/

section Loop

variable {n : ℕ}

/-- The vertex indices name the routers of the graph. -/
structure SpfIndex (state : OspfState) (ids : Fin n → UInt32) (root : Fin n) : Prop where
  root_val : root.val = 0
  ids_root : ids root = state.routerId
  injective : Function.Injective ids
  covers : ∀ a b w, P2pLink state a b w → (∃ i, ids i = a) ∧ ∃ i, ids i = b
  small : n ≤ ospfSpfMaxNodes

/-- The graph on the indices. -/
def SpfEdge (state : OspfState) (ids : Fin n → UInt32) (a b : Fin n) (w : ℕ) : Prop :=
  P2pLink state (ids a) (ids b) w

theorem SpfIndex.embeds {state : OspfState} {ids : Fin n → UInt32} {root : Fin n}
    (h : SpfIndex state ids root) : Embeds (SpfEdge state ids) (P2pLink state) ids where
  injective := h.injective
  edge _ _ _ := Iff.rfl
  closed _ _ _ e := (h.covers _ _ _ e).2

/-- What the vertex table says in terms of labels. -/
def spfLabels (vertices : Slots n OspfSpfVertex) : Labels (Fin n) where
  dist i := if (vertices i).distance = ospfInfinity then none
    else some (vertices i).distance.toNat
  visited i := (vertices i).visited = true
  hop i := spfFirstHop vertices i

theorem spfLabels_dist_eq_some {vertices : Slots n OspfSpfVertex} {i : Fin n} {d : ℕ} :
    (spfLabels vertices).dist i = some d ↔
      (vertices i).distance ≠ ospfInfinity ∧ (vertices i).distance.toNat = d := by
  simp only [spfLabels]
  split_ifs with h <;> simp [h]

/-- How many vertices are visited. -/
def spfVisited (vertices : Slots n OspfSpfVertex) : ℕ :=
  Slots.count (fun v : OspfSpfVertex => v.visited) vertices

/-- What holds whenever the loop looks at its table; the edges in `R` are
    relaxed. A label is below 65536 for each visited vertex. -/
structure SpfInv (state : OspfState) (ids : Fin n → UInt32) (root : Fin n)
    (R : Fin n → Fin n → ℕ → Prop) (vertices : Slots n OspfSpfVertex) : Prop where
  ids_eq : ∀ i, (vertices i).routerId = ids i
  inv : Inv (SpfEdge state ids) root R (spfLabels vertices)
  bound : ∀ i d, (spfLabels vertices).dist i = some d → d ≤ 65535 * spfVisited vertices

/-- While the links of the vertex `s`, at distance `du`, are relaxed; `vis` are
    the visited vertices, `s` included. -/
structure RelaxInv (state : OspfState) (ids : Fin n → UInt32) (root s : Fin n) (du : ℕ)
    (vis : Fin n → Bool) (R : Fin n → Fin n → ℕ → Prop) (vertices : Slots n OspfSpfVertex) : Prop
    extends SpfInv state ids root R vertices where
  visited_eq : ∀ x, (vertices x).visited = vis x
  self_visited : vis s = true
  self_dist : (spfLabels vertices).dist s = some du
  root_visited : vis root = true
  cap : ∀ x dx, vis x = true → (spfLabels vertices).dist x = some dx → dx ≤ du
  room : du + 65535 ≤ 65535 * spfVisited vertices

/-- The same, with what the links have done to the labels `L₀` so far. -/
structure RelaxRun (state : OspfState) (ids : Fin n → UInt32) (root s : Fin n) (du : ℕ)
    (vis : Fin n → Bool) (L₀ : Labels (Fin n)) (R : Fin n → Fin n → ℕ → Prop)
    (vertices : Slots n OspfSpfVertex) : Prop
    extends RelaxInv state ids root s du vis R vertices where
  relaxed : Relaxed (SpfEdge state ids) R root s du L₀ (spfLabels vertices)

variable {state : OspfState} {ids : Fin n → UInt32} {root s : Fin n} {du : ℕ}
  {vis : Fin n → Bool} {R : Fin n → Fin n → ℕ → Prop} {vertices : Slots n OspfSpfVertex}
  {L₀ : Labels (Fin n)}

theorem ospfFindSpfVertex_eq (hid : ∀ i, (vertices i).routerId = ids i)
    (hinj : Function.Injective ids) (b : Fin n) :
    ospfFindSpfVertex vertices (ids b) = some b := by
  rw [ospfFindSpfVertex, Fin.find?_eq_some_iff]
  refine ⟨by simp [hid], fun j hj => ?_⟩
  have : ids j ≠ ids b := fun h => hj.ne (hinj h)
  simpa [hid] using this

/-- The guard against overflow never fires. -/
theorem spf_no_overflow {d : UInt32} {w : UInt16} (h : d.toNat + 65535 ≤ 65535 * 1281) :
    ¬ d ≥ ospfInfinity - w.toUInt32 ∧ (d + w.toUInt32).toNat = d.toNat + w.toNat := by
  have hw := w.toNat_lt
  have h1 : w.toUInt32.toNat = w.toNat := UInt16.toNat_toUInt32 w
  have h2 : ospfInfinity.toNat = 4294967295 := rfl
  have h3 : w.toUInt32 ≤ ospfInfinity := by rw [UInt32.le_iff_toNat_le]; omega
  constructor
  · rw [ge_iff_le, UInt32.le_iff_toNat_le, UInt32.toNat_sub_of_le _ _ h3]
    omega
  · rw [UInt32.toNat_add, h1]
    exact Nat.mod_eq_of_lt (by omega)

/-- A vertex gets a distance and a first hop. -/
theorem spfLabels_update (vertices : Slots n OspfSpfVertex) (b h : Fin n) {distance : UInt32}
    {d : ℕ} (predecessor : ℕ) (hfin : distance ≠ ospfInfinity) (hd : distance.toNat = d) :
    let vertices' := Function.update vertices b
      { vertices b with
        distance := distance
        predecessor := some predecessor
        firstHop := some h.val }
    (spfLabels vertices).Updated (spfLabels vertices') b d h ∧
      ∀ x, (vertices' x).routerId = (vertices x).routerId ∧
        (vertices' x).visited = (vertices x).visited := by
  intro vertices'
  have hself : vertices' b =
      { vertices b with
        distance := distance
        predecessor := some predecessor
        firstHop := some h.val } := Function.update_self ..
  have hother : ∀ x, x ≠ b → vertices' x = vertices x := fun x hx => Function.update_of_ne hx ..
  have hsame : ∀ x, (vertices' x).routerId = (vertices x).routerId ∧
      (vertices' x).visited = (vertices x).visited := by
    intro x
    by_cases hx : x = b
    · subst hx
      rw [hself]
      exact ⟨rfl, rfl⟩
    · rw [hother x hx]
      exact ⟨rfl, rfl⟩
  refine ⟨⟨funext fun x => by simp only [spfLabels, (hsame x).2], ?_, ?_, ?_, ?_⟩, hsame⟩
  · rw [spfLabels_dist_eq_some, hself]
    exact ⟨hfin, hd⟩
  · simp [spfLabels, spfFirstHop, hself]
  · intro x hx
    simp only [spfLabels, hother x hx]
  · intro x hx
    simp only [spfLabels, spfFirstHop, hother x hx]

/-- What the relaxation of one link does to the table. -/
theorem RelaxInv.link_cases (ix : SpfIndex state ids root)
    (I : RelaxInv state ids root s du vis R vertices) {link : OspfLsaLink} {b : Fin n}
    (hp2p : link.type = ospfLinkP2p) (hb : link.linkId = ids b) :
    (spfRelaxLink s vertices link = some vertices ∧ ((vertices b).visited = true ∨
      ∃ dv, (spfLabels vertices).dist b = some dv ∧ dv ≤ du + link.metric.toNat)) ∨
    ∃ h vertices', spfRelaxLink s vertices link = some vertices' ∧
      ¬ (vertices b).visited = true ∧
      (∀ dv, (spfLabels vertices).dist b = some dv → du + link.metric.toNat < dv) ∧
      HopFrom root s (spfLabels vertices) b h ∧
      (spfLabels vertices).Updated (spfLabels vertices') b (du + link.metric.toNat) h ∧
      ∀ x, (vertices' x).routerId = (vertices x).routerId ∧
        (vertices' x).visited = (vertices x).visited := by
  have hroom : du + 65535 ≤ 65535 * 1281 := by
    have h1 : spfVisited vertices ≤ n := Slots.count_le _ _
    have h2 := ix.small
    have h3 := I.room
    rw [ospfSpfMaxNodes_eq] at h2
    omega
  have hmetric := link.metric.toNat_lt
  have hinfinity : ospfInfinity.toNat = 4294967295 := rfl
  obtain ⟨hsd, hsn⟩ := spfLabels_dist_eq_some.mp I.self_dist
  obtain ⟨hguard, hsum⟩ := spf_no_overflow (d := (vertices s).distance) (w := link.metric)
    (by omega)
  unfold spfRelaxLink
  rw [if_neg (by simpa using hp2p), hb, ospfFindSpfVertex_eq I.ids_eq ix.injective b]
  dsimp only
  by_cases hvis : (vertices b).visited = true
  · rw [if_pos hvis]
    exact .inl ⟨rfl, .inl hvis⟩
  rw [if_neg hvis, if_neg hguard]
  by_cases hge : (vertices s).distance + link.metric.toUInt32 ≥ (vertices b).distance
  · rw [if_pos hge]
    rw [ge_iff_le, UInt32.le_iff_toNat_le, hsum, hsn] at hge
    have hfin : (vertices b).distance ≠ ospfInfinity := by
      intro h
      rw [h] at hge
      omega
    exact .inl ⟨rfl, .inr ⟨_, spfLabels_dist_eq_some.mpr ⟨hfin, rfl⟩, hge⟩⟩
  rw [if_neg hge]
  rw [ge_iff_le, UInt32.le_iff_toNat_le, hsum, hsn] at hge
  refine .inr ?_
  have himp : ∀ dv, (spfLabels vertices).dist b = some dv → du + link.metric.toNat < dv := by
    intro dv hdv
    obtain ⟨-, rfl⟩ := spfLabels_dist_eq_some.mp hdv
    omega
  have hfin : (vertices s).distance + link.metric.toUInt32 ≠ ospfInfinity := by
    intro he
    rw [he] at hsum
    omega
  have hd : ((vertices s).distance + link.metric.toUInt32).toNat = du + link.metric.toNat := by
    rw [hsum, hsn]
  by_cases hroot : s.val = 0
  · rw [if_pos hroot]
    obtain ⟨hL, hsame⟩ := spfLabels_update vertices b b s.val hfin hd
    exact ⟨b, _, rfl, hvis, himp, .inl ⟨Fin.ext (hroot.trans ix.root_val.symm), rfl⟩, hL, hsame⟩
  · rw [if_neg hroot]
    have hne : s ≠ root := by
      rintro rfl
      exact hroot ix.root_val
    obtain ⟨h, hhop, -, -⟩ := I.inv.via s du I.self_dist hne
    have hfirst : (vertices s).firstHop = some h.val := by
      simp only [spfLabels, spfFirstHop] at hhop
      split at hhop
      · cases hhop
      · rename_i k hk
        split_ifs at hhop with hlt
        rw [hk, ← Option.some.inj hhop]
    rw [hfirst]
    dsimp only
    rw [if_neg (by have := h.isLt; omega)]
    obtain ⟨hL, hsame⟩ := spfLabels_update vertices b h s.val hfin hd
    exact ⟨h, _, rfl, hvis, himp, .inr ⟨hne, hhop⟩, hL, hsame⟩

/-- One link of the selected vertex is relaxed. -/
theorem RelaxRun.link (ix : SpfIndex state ids root)
    (I : RelaxRun state ids root s du vis L₀ R vertices)
    {link : OspfLsaLink} {b : Fin n} (hp2p : link.type = ospfLinkP2p) (hb : link.linkId = ids b)
    (hE : SpfEdge state ids s b link.metric.toNat) :
    ∃ vertices', spfRelaxLink s vertices link = some vertices' ∧
      RelaxRun state ids root s du vis L₀
        (fun x y w => R x y w ∨ x = s ∧ y = b ∧ w = link.metric.toNat) vertices' := by
  have hsv : (vertices s).visited = true := by rw [I.visited_eq, I.self_visited]
  have hsettled : ∀ x, L₀.visited x ↔ (vertices x).visited = true := by
    intro x
    rw [← I.relaxed.visited]
    rfl
  rcases I.link_cases ix hp2p hb with ⟨he, hskip⟩ |
    ⟨h, vertices', he, hvis, himp, hhop, hL, hsame⟩
  · obtain ⟨dv, hdv, hle⟩ : ∃ dv, (spfLabels vertices).dist b = some dv ∧
        dv ≤ du + link.metric.toNat := by
      rcases hskip with hvis | hskip
      · obtain ⟨dv, hdv⟩ := I.inv.labelled b hvis
        exact ⟨dv, hdv, (I.cap b dv (I.visited_eq b ▸ hvis) hdv).trans (Nat.le_add_right _ _)⟩
      · exact hskip
    exact ⟨_, he, { I with
      inv := I.inv.skip (u := s) hsv I.self_dist hdv hle
      relaxed := I.relaxed.skip (.inr ⟨dv, hdv, hle⟩) }⟩
  have hcount : spfVisited vertices' = spfVisited vertices := Slots.count_congr fun x => (hsame x).2
  have hdist : ∀ x, (vertices x).visited = true →
      (spfLabels vertices').dist x = (spfLabels vertices).dist x := by
    intro x hx
    refine hL.dist_other x ?_
    rintro rfl
    exact hvis hx
  have hrv : (vertices root).visited = true := by rw [I.visited_eq, I.root_visited]
  refine ⟨vertices', he, { ids_eq := ?_, inv := ?_, bound := ?_, visited_eq := ?_,
                           self_visited := I.self_visited, self_dist := ?_,
                           root_visited := I.root_visited, cap := ?_, room := ?_,
                           relaxed := ?_ }⟩
  · intro x
    rw [(hsame x).1]
    exact I.ids_eq x
  · exact I.inv.update (u := s) hsv I.self_dist hE hvis hrv
      (fun x dx hx => I.cap x dx (I.visited_eq x ▸ hx)) himp hhop hL
  · intro x d hd
    rw [hcount]
    by_cases hx : x = b
    · subst hx
      rw [hL.dist_self] at hd
      have h1 := link.metric.toNat_lt
      have h2 := I.room
      have h3 := Option.some.inj hd
      omega
    · rw [hL.dist_other x hx] at hd
      exact I.bound x d hd
  · intro x
    rw [(hsame x).2]
    exact I.visited_eq x
  · rw [hdist s hsv]
    exact I.self_dist
  · intro x dx hx hdx
    rw [hdist x (by rw [I.visited_eq, hx])] at hdx
    exact I.cap x dx hx hdx
  · rw [hcount]
    exact I.room
  · exact I.relaxed.update ((hsettled s).mpr hsv) ((hsettled b).not.mpr hvis) hE himp hhop hL

theorem RelaxRun.congr (I : RelaxRun state ids root s du vis L₀ R vertices)
    {R' : Fin n → Fin n → ℕ → Prop} (h : ∀ x y w, R' x y w → R x y w) :
    RelaxRun state ids root s du vis L₀ R' vertices :=
  { I with
    inv := I.inv.congr h
    relaxed := I.relaxed.congr fun y w => h s y w }

/-- One LSDB slot; the edges of `s` in the slots before it are relaxed. -/
theorem RelaxRun.lsa (ix : SpfIndex state ids root) (i : Fin ospfLsdbSize)
    (I : RelaxRun state ids root s du vis L₀
      (fun x y w => R x y w ∨ x = s ∧ ∃ i' : Fin ospfLsdbSize, ∃ j, i'.val < i ∧
        P2pLinkAt state i' j (ids x) (ids y) w) vertices) :
    ∃ vertices', spfRelaxLsa state s vertices i = some vertices' ∧
      RelaxRun state ids root s du vis L₀
        (fun x y w => R x y w ∨ x = s ∧ ∃ i' : Fin ospfLsdbSize, ∃ j, i'.val < i.val + 1 ∧
          P2pLinkAt state i' j (ids x) (ids y) w) vertices' := by
  unfold spfRelaxLsa
  dsimp only
  split_ifs with hskip
  · -- the slot has no link of `s`
    refine ⟨_, rfl, I.congr ?_⟩
    rintro x y w (hR | ⟨rfl, i', j, hlt, hl⟩)
    · exact .inl hR
    · rcases Slots.lt_or_eq_of_lt_succ hlt with hlt | rfl
      · exact .inr ⟨rfl, i', j, hlt, hl⟩
      · obtain ⟨h1, h2, -⟩ := hl
        simp [h1, h2, I.ids_eq] at hskip
  simp only [Bool.or_eq_true, Bool.not_eq_true', bne_iff_ne, ne_eq, not_or, not_not,
    Bool.not_eq_false] at hskip
  obtain ⟨hlsa, hadv⟩ := hskip
  have hadv : (state.lsdb i).advRouter = ids s := hadv.trans (I.ids_eq s)
  obtain ⟨z, hz, hI⟩ := Slots.forEachM_induction (n := (state.lsdb i).linkCount)
    (x := vertices)
    (f := fun vertices j => spfRelaxLink s vertices ((state.lsdb i).link j))
    (fun m => RelaxRun state ids root s du vis L₀
      (fun x y w => (R x y w ∨ x = s ∧ ∃ i' : Fin ospfLsdbSize, ∃ j, i'.val < i ∧
        P2pLinkAt state i' j (ids x) (ids y) w) ∨
        x = s ∧ ∃ j, j < m ∧ P2pLinkAt state i j (ids x) (ids y) w))
    (I.congr (by
      rintro x y w (h | ⟨-, j, hj, -⟩)
      · exact h
      · omega))
    (by
      intro j vertices₁ I₁
      by_cases hp2p : ((state.lsdb i).link j).type = ospfLinkP2p
      · have hat : P2pLinkAt state i j (ids s) ((state.lsdb i).link j).linkId
            ((state.lsdb i).link j).metric.toNat := ⟨hlsa, hadv, j.isLt, hp2p, rfl, rfl⟩
        obtain ⟨b, hb⟩ := (ix.covers _ _ _ ⟨i, j, hat⟩).2
        obtain ⟨z, hz, I₂⟩ := I₁.link ix hp2p hb.symm (by
          rw [SpfEdge, hb]; exact ⟨i, j, hat⟩)
        refine ⟨z, hz, I₂.congr ?_⟩
        rintro x y w (h | ⟨rfl, j', hj', hl⟩)
        · exact .inl (.inl h)
        · rcases Nat.lt_succ_iff_lt_or_eq.mp hj' with hj' | rfl
          · exact .inl (.inr ⟨rfl, j', hj', hl⟩)
          · obtain ⟨-, -, _, -, hy, hw⟩ := hl
            exact .inr ⟨rfl, ix.injective (hy.symm.trans hb.symm), hw.symm⟩
      · refine ⟨vertices₁, by simp [spfRelaxLink, hp2p], I₁.congr ?_⟩
        rintro x y w (h | ⟨rfl, j', hj', hl⟩)
        · exact .inl h
        · rcases Nat.lt_succ_iff_lt_or_eq.mp hj' with hj' | rfl
          · exact .inr ⟨rfl, j', hj', hl⟩
          · exact absurd hl.2.2.2.1 hp2p)
  refine ⟨z, hz, hI.congr ?_⟩
  rintro x y w (hR | ⟨rfl, i', j, hlt, hl⟩)
  · exact .inl (.inl hR)
  · rcases Slots.lt_or_eq_of_lt_succ hlt with hlt | rfl
    · exact .inl (.inr ⟨rfl, i', j, hlt, hl⟩)
    · obtain ⟨-, -, hj, -⟩ := id hl
      exact .inr ⟨rfl, j, hj, hl⟩

/-- The scan for the next vertex has kept a nearest one of the first `k`, of the
    least router id. -/
def SelectInv (vertices : Slots n OspfSpfVertex) (k : ℕ) : Option (Fin n) → Prop
  | none => ∀ i : Fin n, i.val < k → ∀ d, (spfLabels vertices).dist i = some d →
      (vertices i).visited = true
  | some s => (vertices s).visited = false ∧ (vertices s).distance ≠ ospfInfinity ∧
      ∀ i : Fin n, i.val < k → (vertices i).visited = false → ∀ d,
        (spfLabels vertices).dist i = some d → (vertices s).distance.toNat < d ∨
          (vertices s).distance.toNat = d ∧
            (vertices s).routerId.toNat ≤ (vertices i).routerId.toNat

theorem selectInv_step (vertices : Slots n OspfSpfVertex) (i : Fin n) (sel : Option (Fin n))
    (h : SelectInv vertices i sel) :
    SelectInv vertices (i + 1) (spfSelectStep vertices sel i) := by
  unfold spfSelectStep
  by_cases hskip : ((vertices i).visited || (vertices i).distance == ospfInfinity) = true
  · rw [if_pos hskip]
    simp only [Bool.or_eq_true, beq_iff_eq] at hskip
    cases sel with
    | none =>
      intro j hj d hd
      by_cases hne : j = i
      · subst hne
        rcases hskip with hv | hinf
        · exact hv
        · exact absurd hinf (spfLabels_dist_eq_some.mp hd).1
      · exact h j (Slots.lt_of_lt_succ_of_ne hj hne) d hd
    | some s =>
      refine ⟨h.1, h.2.1, fun j hj hv d hd => ?_⟩
      by_cases hne : j = i
      · subst hne
        rcases hskip with hv' | hinf
        · simp [hv'] at hv
        · exact absurd hinf (spfLabels_dist_eq_some.mp hd).1
      · exact h.2.2 j (Slots.lt_of_lt_succ_of_ne hj hne) hv d hd
  · rw [if_neg hskip]
    simp only [Bool.or_eq_true, beq_iff_eq, not_or, Bool.not_eq_true] at hskip
    cases sel with
    | none =>
      refine ⟨hskip.1, hskip.2, fun j hj hv d hd => ?_⟩
      by_cases hne : j = i
      · subst hne
        exact .inr ⟨(spfLabels_dist_eq_some.mp hd).2, le_rfl⟩
      · have := h j (Slots.lt_of_lt_succ_of_ne hj hne) d hd
        simp [hv] at this
    | some s =>
      obtain ⟨hs, hs', hmin⟩ := h
      dsimp only
      simp only [UInt32.lt_iff_toNat_lt, ← UInt32.toNat_inj]
      split_ifs with hlt
      · -- the candidate comes before the old one
        refine ⟨hskip.1, hskip.2, fun j hj hv d hd => ?_⟩
        by_cases hne : j = i
        · subst hne
          exact .inr ⟨(spfLabels_dist_eq_some.mp hd).2, le_rfl⟩
        · have := hmin j (Slots.lt_of_lt_succ_of_ne hj hne) hv d hd
          omega
      · refine ⟨hs, hs', fun j hj hv d hd => ?_⟩
        by_cases hne : j = i
        · subst hne
          rw [← (spfLabels_dist_eq_some.mp hd).2]
          omega
        · exact hmin j (Slots.lt_of_lt_succ_of_ne hj hne) hv d hd

theorem selectInv_scan (vertices : Slots n OspfSpfVertex) :
    SelectInv vertices n (spfSelect vertices) :=
  Slots.forEach_induction (SelectInv vertices) (fun i h => absurd h (by omega))
    fun i sel h => selectInv_step vertices i sel h

/-- The scan selects the next vertex of Dijkstra's algorithm. -/
theorem spfSelect_selects (hid : ∀ i, (vertices i).routerId = ids i)
    (hs : spfSelect vertices = some s) :
    Selects (fun i => (ids i).toNat) (spfLabels vertices) s (vertices s).distance.toNat := by
  have hsel := selectInv_scan vertices
  rw [hs] at hsel
  obtain ⟨hunvis, hfin, hmin⟩ := hsel
  refine ⟨by simp [spfLabels, hunvis], spfLabels_dist_eq_some.mpr ⟨hfin, rfl⟩, fun v d hv hd => ?_⟩
  have hv : (vertices v).visited = false := by simpa [spfLabels] using hv
  simpa only [hid] using hmin v v.isLt hv d hd

/-- Between two rounds all edges of the visited vertices are relaxed, and no
    vertex but the root is labelled before the root is visited. -/
structure LoopInv (state : OspfState) (ids : Fin n → UInt32) (root : Fin n)
    (vertices : Slots n OspfSpfVertex) : Prop
    extends SpfInv state ids root
      (fun x y w => (vertices x).visited = true ∧ SpfEdge state ids x y w) vertices where
  start : (vertices root).visited = true ∨ ∀ x d, (spfLabels vertices).dist x = some d → x = root

/-- One round of the loop. -/
theorem LoopInv.round (ix : SpfIndex state ids root) (I : LoopInv state ids root vertices)
    (hs : spfSelect vertices = some s) :
    ∃ vertices', Slots.forEachM ospfLsdbSize (spfRelaxLsa state s)
        (Function.update vertices s { vertices s with visited := true }) = some vertices' ∧
      LoopInv state ids root vertices' ∧ spfVisited vertices' = spfVisited vertices + 1 ∧
      Relaxed (SpfEdge state ids) (SpfEdge state ids) root s (vertices s).distance.toNat
        ((spfLabels vertices).visit s) (spfLabels vertices') := by
  obtain ⟨hunv, hdu, hleast⟩ := spfSelect_selects I.ids_eq hs
  have hunvis : (vertices s).visited = false := by simpa [spfLabels] using hunv
  have hmin : ∀ v dv, ¬ (spfLabels vertices).visited v → (spfLabels vertices).dist v = some dv →
      (vertices s).distance.toNat ≤ dv := by
    intro v dv hv hd
    have := hleast v dv hv hd
    omega
  set vertices₁ := Function.update vertices s { vertices s with visited := true } with hdef
  have hself : vertices₁ s = { vertices s with visited := true } := Function.update_self ..
  have hother : ∀ x, x ≠ s → vertices₁ x = vertices x := fun x hx => Function.update_of_ne hx ..
  have hvisited : ∀ x, (vertices₁ x).visited = true ↔ x = s ∨ (vertices x).visited = true := by
    intro x
    by_cases hx : x = s
    · subst hx; simp [hself]
    · simp [hother x hx, hx]
  have hdist : (spfLabels vertices₁).dist = (spfLabels vertices).dist := by
    funext x
    by_cases hx : x = s
    · subst hx; simp [spfLabels, hself]
    · simp [spfLabels, hother x hx]
  have hhop : (spfLabels vertices₁).hop = (spfLabels vertices).hop := by
    funext x
    by_cases hx : x = s
    · subst hx; simp [spfLabels, spfFirstHop, hself]
    · simp [spfLabels, spfFirstHop, hother x hx]
  have hcount : spfVisited vertices₁ = spfVisited vertices + 1 := by
    have := Slots.count_update (fun v : OspfSpfVertex => v.visited) vertices s
      { vertices s with visited := true }
    simpa [spfVisited, hdef, hunvis] using this
  -- the selected vertex is the root, or the root was visited before
  have hroot : (vertices₁ root).visited = true := by
    rcases I.start with h | h
    · exact (hvisited root).mpr (.inr h)
    · exact (hvisited root).mpr (.inl (h s _ hdu).symm)
  have hL₀ : spfLabels vertices₁ = (spfLabels vertices).visit s :=
    Labels.ext hdist (funext fun x => propext (hvisited x)) hhop
  have I₁ : RelaxRun state ids root s (vertices s).distance.toNat
      (fun x => (vertices₁ x).visited) ((spfLabels vertices).visit s)
      (fun x y w => ((vertices x).visited = true ∧ SpfEdge state ids x y w) ∨
        x = s ∧ ∃ i' : Fin ospfLsdbSize, ∃ j, i'.val < 0 ∧
          P2pLinkAt state i' j (ids x) (ids y) w) vertices₁ := by
    refine { ids_eq := ?_, inv := ?_, bound := ?_, visited_eq := fun _ => rfl,
             self_visited := ?_, self_dist := ?_, root_visited := hroot, cap := ?_, room := ?_,
             relaxed := ?_ }
    · intro x
      by_cases hx : x = s
      · subst hx; rw [hself]; exact I.ids_eq x
      · rw [hother x hx]; exact I.ids_eq x
    · refine (I.inv.visit hunv hdu hmin hvisited hdist hhop).congr ?_
      rintro x y w (h | ⟨-, i', j, hlt, -⟩)
      · exact h
      · omega
    · intro x d hd
      rw [hdist] at hd
      rw [hcount]
      have := I.bound x d hd
      omega
    · rw [hself]
    · rw [hdist]; exact hdu
    · intro x dx hx hdx
      rw [hdist] at hdx
      exact I.inv.le_of_visit hunv hdu ((hvisited x).mp hx) hdx
    · rw [hcount]
      have := I.bound s _ hdu
      omega
    · rw [hL₀]
      refine Relaxed.refl fun v w => ?_
      rintro (⟨hv, -⟩ | ⟨-, i', j, hlt, -⟩)
      · simp [hunvis] at hv
      · omega
  obtain ⟨vertices₂, hz, I₂⟩ := Slots.forEachM_induction
    (fun k => RelaxRun state ids root s (vertices s).distance.toNat
      (fun x => (vertices₁ x).visited) ((spfLabels vertices).visit s)
      (fun x y w => ((vertices x).visited = true ∧ SpfEdge state ids x y w) ∨
        x = s ∧ ∃ i' : Fin ospfLsdbSize, ∃ j, i'.val < k ∧
          P2pLinkAt state i' j (ids x) (ids y) w)) I₁
    fun i _ h => h.lsa ix i
  have hall : spfVisited vertices₂ = spfVisited vertices₁ := Slots.count_congr I₂.visited_eq
  refine ⟨vertices₂, hz, ⟨⟨I₂.ids_eq, I₂.inv.congr ?_, I₂.bound⟩, .inl ?_⟩, by rw [hall, hcount],
    I₂.relaxed.congr ?_⟩
  · rintro x y w ⟨hx, i, j, hl⟩
    rw [I₂.visited_eq] at hx
    rcases (hvisited x).mp hx with rfl | hx
    · exact .inr ⟨rfl, i, j, i.isLt, hl⟩
    · exact .inl ⟨hx, i, j, hl⟩
  · rw [I₂.visited_eq]; exact hroot
  · rintro y w ⟨i, j, hl⟩
    exact .inr ⟨rfl, i, j, i.isLt, hl⟩

/-- The loop stops within its rounds, with all labelled vertices visited. -/
theorem spfLoop_ok (ix : SpfIndex state ids root) (fuel : ℕ) :
    ∀ vertices : Slots n OspfSpfVertex, LoopInv state ids root vertices →
      n < fuel + spfVisited vertices →
      ∃ tree, spfLoop state fuel vertices = some tree ∧ LoopInv state ids root tree ∧
        spfSelect tree = none ∧ Dijkstra (SpfEdge state ids) root (fun i => (ids i).toNat)
          (spfLabels vertices) (spfLabels tree) := by
  induction fuel with
  | zero =>
    intro vertices _ hfuel
    have : spfVisited vertices ≤ n := Slots.count_le _ _
    omega
  | succ fuel ih =>
    intro vertices I hfuel
    unfold spfLoop
    cases hsel : spfSelect vertices with
    | none =>
      have hdone := selectInv_scan vertices
      rw [hsel] at hdone
      exact ⟨vertices, rfl, I, hsel, Dijkstra.done fun v d hd => hdone v v.isLt d hd⟩
    | some s =>
      obtain ⟨vertices', hz, I', hcount, hrelaxed⟩ := I.round ix hsel
      obtain ⟨tree, htree, hI, hnone, hrest⟩ := ih vertices' I' (by omega)
      exact ⟨tree, by dsimp only; rw [hz]; exact htree, hI, hnone,
        Dijkstra.round (spfSelect_selects I.ids_eq hsel) hrelaxed hrest⟩

/-- What the finished table says about the graph. -/
structure SpfTreeOk (state : OspfState) (ids : Fin n → UInt32) (root : Fin n)
    (tree : Slots n OspfSpfVertex) : Prop where
  ids_eq : ∀ i, (tree i).routerId = ids i
  isDist : ∀ i d, (spfLabels tree).dist i = some d ↔ IsDist (SpfEdge state ids) root i d
  reachable : ∀ i, Reachable (SpfEdge state ids) root i ↔ ∃ d, (spfLabels tree).dist i = some d
  via : ∀ i d, (spfLabels tree).dist i = some d → i ≠ root →
    ∃ h, spfFirstHop tree i = some h ∧ h ≠ root ∧ WalkVia (SpfEdge state ids) root h i d

/-- No two vertices are of one router. -/
theorem SpfTreeOk.injective {state : OspfState} {ids : Fin n → UInt32} {root : Fin n}
    {tree : Slots n OspfSpfVertex} (T : SpfTreeOk state ids root tree)
    (ix : SpfIndex state ids root) : Function.Injective fun v => (tree v).routerId := by
  simpa only [T.ids_eq] using ix.injective

theorem LoopInv.treeOk (I : LoopInv state ids root vertices) (hnone : spfSelect vertices = none) :
    SpfTreeOk state ids root vertices := by
  have hsel := selectInv_scan vertices
  rw [hnone] at hsel
  have hdone : Inv.Done (SpfEdge state ids)
      (fun x y w => (vertices x).visited = true ∧ SpfEdge state ids x y w)
      (spfLabels vertices) :=
    ⟨fun v d hd => hsel v v.isLt d hd, fun _ _ _ hu e => ⟨hu, e⟩⟩
  exact ⟨I.ids_eq, I.inv.isDist hdone, I.inv.reachable_iff hdone, I.inv.via⟩

end Loop

end FrameRunner
