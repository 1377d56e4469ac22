import FrameRunner.Ospf.Receive

/-!
# SPF and the order of its tables

`ospf_run_spf` numbers the routers as it meets them in the LSDB and relaxes their
links slot by slot. Named by router id, its labels are the result of Dijkstra's
algorithm on the graph of the LSDB (`spfRouteSet_labels`), which the graph
determines. So where an LSA, a link or a neighbor is stored has no effect on the
routes (`ospfRunSpf_permuted`).
-/

namespace FrameRunner

open FrameRunner.Lib FrameRunner.Lib.ShortestPath

/-! ## The routes by router id -/

/-- The routes of an SPF run are read off the labels that Dijkstra's algorithm
    computes on the graph of the LSDB. -/
theorem spfRouteSet_labels (state : OspfState) :
    ∃ L : Labels UInt32,
      Dijkstra (P2pLink state) state.routerId UInt32.toNat (Labels.start state.routerId) L ∧
      ∀ r, r ∈ spfRouteSet state ↔ r.dest ≠ state.routerId ∧ r.prefixLen = 32 ∧
        L.dist r.dest = some r.metric.toNat ∧
        ∃ h, L.hop r.dest = some h ∧ ospfHop state h = some (r.nextHop, r.iface) := by
  obtain ⟨vertices, ids, root, tree, hv, htree, ix, T, hrun⟩ := spfTree_ok state
  have hinj := ix.injective
  refine ⟨(spfLabels tree).image ids, ?_, fun r => ?_⟩
  · have himage : Dijkstra (P2pLink state) (ids root) UInt32.toNat
        ((Labels.start root).image ids) ((spfLabels tree).image ids) :=
      hrun.image ix.embeds fun _ => rfl
    rwa [Labels.image_start hinj, ix.ids_root] at himage
  constructor
  · rintro ⟨vertices', tree', k, hv', htree', hr⟩
    obtain rfl : vertices = vertices' := Option.some.inj (hv.symm.trans hv')
    obtain rfl : tree = tree' := Option.some.inj (htree.symm.trans htree')
    obtain ⟨h0, hinf, v, i, hh, hi, rfl⟩ := spfRoute_eq_some_iff.mp hr
    have hne : k ≠ root := fun e => h0 (e ▸ ix.root_val)
    refine ⟨?_, rfl, ?_, ids v, ?_, ?_⟩
    · show (tree k).routerId ≠ state.routerId
      rw [T.ids_eq, ← ix.ids_root]
      exact hinj.ne hne
    · show ((spfLabels tree).image ids).dist (tree k).routerId = some (tree k).distance.toNat
      rw [T.ids_eq, Labels.image_dist hinj]
      exact spfLabels_dist_eq_some.mpr ⟨hinf, rfl⟩
    · show ((spfLabels tree).image ids).hop (tree k).routerId = some (ids v)
      rw [T.ids_eq, Labels.image_hop hinj]
      exact congrArg (Option.map ids) hh
    · rw [T.ids_eq] at hi
      simp only [ospfHop, hi, Option.map_some]
  · rintro ⟨hdest, hlen, hdist, h, hhop, hnb⟩
    obtain ⟨k, hk, hd⟩ := Labels.image_dist_eq_some hinj hdist
    obtain ⟨hfin, hmetric⟩ := spfLabels_dist_eq_some.mp hd
    rw [← hk, Labels.image_hop hinj] at hhop
    obtain ⟨v, hh, rfl⟩ := Option.map_eq_some_iff.mp hhop
    obtain ⟨i, hi, he⟩ := Option.map_eq_some_iff.mp hnb
    obtain ⟨hn, hf⟩ := Prod.mk.inj he
    have h0 : k.val ≠ 0 := by
      intro h0
      obtain rfl : k = root := Fin.ext (h0.trans ix.root_val.symm)
      exact hdest (hk.symm.trans ix.ids_root)
    rw [← T.ids_eq v] at hi
    refine ⟨vertices, tree, k, hv, htree, spfRoute_eq_some_iff.mpr ⟨h0, hfin, v, i, hh, hi, ?_⟩⟩
    rw [hn, hf, T.ids_eq, hk, UInt32.toNat_inj.mp hmetric, ← hlen]

/-- The routes depend on the graph of the LSDB and on where the neighbors are. -/
theorem spfRouteSet_eq {state state' : OspfState} (hid : state'.routerId = state.routerId)
    (hlink : P2pLink state' = P2pLink state) (hhop : ospfHop state' = ospfHop state) :
    spfRouteSet state' = spfRouteSet state := by
  obtain ⟨L, hL, hroutes⟩ := spfRouteSet_labels state
  obtain ⟨L', hL', hroutes'⟩ := spfRouteSet_labels state'
  rw [hid, hlink] at hL'
  obtain rfl : L = L' := hL.unique (fun _ _ h => UInt32.toNat_inj.mp h) hL'
  ext r
  rw [hroutes, hroutes', hid, hhop]

/-! ## Reordered tables -/

/-- The same LSA with its links in another order. -/
structure OspfLsaEntry.Permuted (lsa lsa' : OspfLsaEntry) : Prop where
  lsaId : lsa'.lsaId = lsa.lsaId
  advRouter : lsa'.advRouter = lsa.advRouter
  seqNum : lsa'.seqNum = lsa.seqNum
  checksum : lsa'.checksum = lsa.checksum
  lsaType : lsa'.lsaType = lsa.lsaType
  valid : lsa'.valid = lsa.valid
  links : (List.ofFn lsa'.link).Perm (List.ofFn lsa.link)

/-- The same OSPF state with its LSDB slots, the links in them and its neighbor
    slots in another order. -/
structure OspfPermuted (state state' : OspfState) : Prop where
  routerId : state'.routerId = state.routerId
  lsdb : ∃ σ : Equiv.Perm (Fin ospfLsdbSize), ∀ i, (state.lsdb (σ i)).Permuted (state'.lsdb i)
  neighbors : ∃ τ : Equiv.Perm (Fin ospfMaxNeighbors), ∀ i,
    state'.neighbors i = state.neighbors (τ i)

/-- No two valid neighbors share a router id. -/
def UniqueNeighbors (state : OspfState) : Prop :=
  ∀ i j, (state.neighbors i).valid = true → (state.neighbors j).valid = true →
    (state.neighbors i).routerId = (state.neighbors j).routerId → i = j

/-- The links of the graph, without the slots that hold them. -/
theorem p2pLink_iff {state : OspfState} {a b : UInt32} {w : ℕ} :
    P2pLink state a b w ↔ ∃ i, (state.lsdb i).isRouterLsa = true ∧ (state.lsdb i).advRouter = a ∧
      ∃ link ∈ List.ofFn (state.lsdb i).link, link.type = ospfLinkP2p ∧ link.linkId = b ∧
        link.metric.toNat = w := by
  constructor
  · rintro ⟨i, j, hlsa, hadv, hj, hlink⟩
    exact ⟨i, hlsa, hadv, _, List.mem_ofFn.mpr ⟨⟨j, hj⟩, rfl⟩, hlink⟩
  · rintro ⟨i, hlsa, hadv, _, hmem, hlink⟩
    obtain ⟨j, rfl⟩ := List.mem_ofFn.mp hmem
    exact ⟨i, j, hlsa, hadv, j.isLt, hlink⟩

section Permuted

variable {state state' : OspfState}

theorem OspfPermuted.p2pLink (h : OspfPermuted state state') : P2pLink state' = P2pLink state := by
  obtain ⟨σ, hσ⟩ := h.lsdb
  have hlsa : ∀ i, (state'.lsdb i).isRouterLsa = (state.lsdb (σ i)).isRouterLsa := by
    intro i
    simp only [OspfLsaEntry.isRouterLsa, (hσ i).valid, (hσ i).lsaType]
  funext a b w
  rw [eq_iff_iff, p2pLink_iff, p2pLink_iff]
  constructor
  · rintro ⟨i, hr, rfl, link, hmem, hlink⟩
    exact ⟨σ i, hlsa i ▸ hr, (hσ i).advRouter.symm, link, (hσ i).links.mem_iff.mp hmem, hlink⟩
  · rintro ⟨i, hr, rfl, link, hmem, hlink⟩
    obtain ⟨i, rfl⟩ := σ.surjective i
    exact ⟨i, (hlsa i).trans hr, (hσ i).advRouter, link, (hσ i).links.mem_iff.mpr hmem, hlink⟩

/-- A hop is the place of the live neighbor of that router id. -/
theorem ospfHop_eq_some (huniq : UniqueNeighbors state) {h : UInt32}
    {p : UInt32 × Option IfaceRef} :
    ospfHop state h = some p ↔ ∃ i, (state.neighbors i).valid = true ∧
      (state.neighbors i).routerId = h ∧ (state.neighbors i).state ≠ .down ∧
      (state.neighbors i).iface.isSome = true ∧
      ((state.neighbors i).ipAddr, (state.neighbors i).iface) = p := by
  constructor
  · intro hp
    obtain ⟨i, hi, he⟩ := Option.map_eq_some_iff.mp hp
    obtain ⟨h1, h2, h3, h4⟩ := ospfLiveNeighbor_eq_some hi
    exact ⟨i, h1, h2, h3, h4, he⟩
  · rintro ⟨i, h1, h2, h3, h4, he⟩
    obtain ⟨k, hk⟩ := ospfLiveNeighbor_isSome h1 h2 h3 h4
    obtain ⟨k1, k2, -, -⟩ := ospfLiveNeighbor_eq_some hk
    obtain rfl : i = k := huniq i k h1 k1 (h2.trans k2.symm)
    rw [ospfHop, hk, Option.map_some, he]

theorem OspfPermuted.uniqueNeighbors (h : OspfPermuted state state')
    (huniq : UniqueNeighbors state) : UniqueNeighbors state' := by
  obtain ⟨τ, hτ⟩ := h.neighbors
  intro i j hi hj he
  simp only [hτ] at hi hj he
  exact τ.injective (huniq _ _ hi hj he)

theorem OspfPermuted.hop (h : OspfPermuted state state') (huniq : UniqueNeighbors state) :
    ospfHop state' = ospfHop state := by
  obtain ⟨τ, hτ⟩ := h.neighbors
  funext r
  ext p
  rw [ospfHop_eq_some huniq, ospfHop_eq_some (h.uniqueNeighbors huniq)]
  simp only [hτ]
  constructor
  · rintro ⟨i, hi⟩
    exact ⟨τ i, hi⟩
  · rintro ⟨i, hi⟩
    obtain ⟨i, rfl⟩ := τ.surjective i
    exact ⟨i, hi⟩

/-- Successful SPF runs on reordered tables install the same OSPF routes. -/
theorem ospfRunSpf_permuted {tbl tbl' : RouteTable} (h : OspfPermuted state state')
    (huniq : UniqueNeighbors state) (hrun : (ospfRunSpf state tbl).2 = 0)
    (hrun' : (ospfRunSpf state' tbl').2 = 0) :
    ospfRoutes (ospfRunSpf state' tbl').1 = ospfRoutes (ospfRunSpf state tbl).1 := by
  rw [ospfRunSpf_routeSet hrun, ospfRunSpf_routeSet hrun']
  exact spfRouteSet_eq h.routerId h.p2pLink (h.hop huniq)

end Permuted

/-- The link to a router, at cost 10. -/
def spfSquareLink (routerId : UInt32) : OspfLsaLink :=
  { linkId := routerId, type := ospfLinkP2p, metric := 10 }

/-- Router 1 with the live neighbors 2 and 3, both with a link to router 4: two shortest paths.
    Its own LSA has the links in the order given. -/
def spfSquare (a b : UInt32) : OspfState :=
  { ospfInit 1 with
    neighbors := fun i =>
      { routerId := UInt32.ofNat (2 + i.val), ipAddr := 0x0A000000 + UInt32.ofNat (2 + i.val),
        state := .full, iface := some i.val, valid := i.val < 2 }
    lsdb := fun i =>
      { advRouter := UInt32.ofNat (1 + i.val), lsaType := ospfLsaTypeRouter, valid := i.val < 3
        links := fun j => spfSquareLink (if i.val = 0 then if j.val = 0 then a else b else 4)
        linkCount := if i.val = 0 then ⟨2, by decide⟩ else ⟨1, one_lt_ospfMaxLsaLinks⟩ } }

/-- The same with the slots of both tables in the reverse order, and the links of router 1 too. -/
def spfSquareMoved : OspfState :=
  { spfSquare 3 2 with
    neighbors := fun i => (spfSquare 3 2).neighbors (Fin.revPerm i)
    lsdb := fun i => (spfSquare 3 2).lsdb (Fin.revPerm i) }

theorem spfSquare_permuted : OspfPermuted (spfSquare 2 3) spfSquareMoved := by
  refine ⟨rfl, ⟨Fin.revPerm, fun i => ⟨rfl, rfl, rfl, rfl, rfl, rfl, ?_⟩⟩, Fin.revPerm, fun _ => rfl⟩
  show (List.ofFn ((spfSquare 3 2).lsdb (Fin.revPerm i)).link).Perm _
  by_cases hi : (Fin.revPerm i).val = 0
  · have hlinks : ∀ a b, List.ofFn ((spfSquare a b).lsdb (Fin.revPerm i)).link =
        [spfSquareLink a, spfSquareLink b] := by
      intro a b
      rw [show Fin.revPerm i = 0 from Fin.ext hi]
      rfl
    rw [hlinks, hlinks]
    exact List.Perm.swap _ _ _
  · have hsame : (spfSquare 3 2).lsdb (Fin.revPerm i) = (spfSquare 2 3).lsdb (Fin.revPerm i) := by
      simp only [spfSquare, if_neg hi]
    rw [hsame]

theorem ospfRunSpf_permuted_spfSquare :
    ospfRoutes (ospfRunSpf spfSquareMoved routeTableInit).1 =
      ospfRoutes (ospfRunSpf (spfSquare 2 3) routeTableInit).1 := by
  have huniq : UniqueNeighbors (spfSquare 2 3) := by
    have h : ∀ i j : Fin ospfMaxNeighbors,
        UInt32.ofNat (2 + i.val) = UInt32.ofNat (2 + j.val) → i = j := by decide +kernel
    exact fun i j _ _ hid => h i j hid
  exact ospfRunSpf_permuted spfSquare_permuted huniq (by decide +kernel) (by decide +kernel)

end FrameRunner
