import FrameRunner.Ospf.SpfTree
import FrameRunner.Routing.Effect

/-!
# The routes of an SPF run

`ospf_run_spf` flushes the OSPF routes and installs one for each labelled
vertex whose first hop is a live neighbor. `InstallInv` is what holds after the
first vertices; together with the shortest path tree it gives
`ospfRunSpf_routes`, the meaning of a successful run, and `ospfRunSpf_routeSet`,
the routes of any successful run as a function of the OSPF state alone.
-/

namespace FrameRunner

open FrameRunner.Lib FrameRunner.Lib.ShortestPath

/-! ## The tree of a state -/

/-- Before the loop only the router itself has a label. -/
theorem spfTable_start {state : OspfState} {others : List UInt32}
    {root : Fin (spfTable state others).length} (hroot : root.val = 0) :
    spfLabels (spfTable state others).get = Labels.start root := by
  have hzero : (spfTable state others).get root = spfRoot state := by
    obtain ⟨k, hk⟩ := root
    obtain rfl : k = 0 := hroot
    rfl
  have hfresh : ∀ i, i ≠ root → ∃ r, (spfTable state others).get i = spfFresh r := by
    rintro ⟨k, hk⟩ hne
    cases k with
    | zero => exact absurd (Fin.ext hroot.symm) hne
    | succ k => exact ⟨_, by simp [spfTable]; rfl⟩
  generalize (spfTable state others).get = vertices at hzero hfresh
  refine Labels.ext (funext fun i => ?_) (funext fun i => propext ?_) (funext fun i => ?_)
  all_goals
    by_cases hi : i = root
    · subst hi
      simp [spfLabels, spfFirstHop, Labels.start, hzero, spfRoot, ospfInfinity]
    · obtain ⟨r, hr⟩ := hfresh i hi
      simp [spfLabels, spfFirstHop, Labels.start, hr, spfFresh, hi]

/-- The start of the loop. -/
theorem spfTable_loopInv {state : OspfState} {others : List UInt32}
    (ids : Fin (spfTable state others).length → UInt32)
    (hids : ∀ i, ((spfTable state others).get i).routerId = ids i)
    {root : Fin (spfTable state others).length} (hroot : root.val = 0) :
    LoopInv state ids root (spfTable state others).get := by
  have hstart : spfLabels (spfTable state others).get = Labels.start root := spfTable_start hroot
  have honly : ∀ i d, (spfLabels (spfTable state others).get).dist i = some d →
      i = root ∧ d = 0 := by
    intro i d hd
    rw [hstart] at hd
    simp only [Labels.start] at hd
    split_ifs at hd with hi
    exact ⟨hi, (Option.some.inj hd).symm⟩
  have hvis : ∀ i, ¬ (spfLabels (spfTable state others).get).visited i := by
    intro i
    rw [hstart]
    exact id
  refine ⟨⟨hids, (Inv.init ?_ (fun i hi => ?_) hvis).congr ?_, fun i d hd => ?_⟩,
    .inr fun i d hd => (honly i d hd).1⟩
  · rw [hstart]
    exact if_pos rfl
  · rw [hstart]
    exact if_neg hi
  · rintro x y w ⟨hx, -⟩
    exact hvis x hx
  · rw [(honly i d hd).2]
    exact Nat.zero_le _

/-- Every LSDB has a shortest path tree, which covers all its routers. -/
theorem spfTree_ok (state : OspfState) :
    ∃ (vertices : List OspfSpfVertex) (ids : Fin vertices.length → UInt32)
      (root : Fin vertices.length) (tree : Slots vertices.length OspfSpfVertex),
      spfVertices state = some vertices ∧
      spfLoop state (vertices.length + 1) vertices.get = some tree ∧
      SpfIndex state ids root ∧ SpfTreeOk state ids root tree ∧
      Dijkstra (SpfEdge state ids) root (fun i => (ids i).toNat) (Labels.start root)
        (spfLabels tree) := by
  obtain ⟨others, hv, hnodup, hlen, hcov⟩ := spfVertices_ok state
  set vertices := spfTable state others with hdef
  have hpos : 0 < vertices.length := by simp [hdef]
  let ids : Fin vertices.length → UInt32 := fun i => (vertices.get i).routerId
  have hmem : ∀ a, a ∈ state.routerId :: others → ∃ i, ids i = a := by
    intro a ha
    rw [← routerId_spfTable, List.mem_map] at ha
    obtain ⟨v, hv, rfl⟩ := ha
    obtain ⟨i, rfl⟩ := List.mem_iff_get.mp hv
    exact ⟨i, rfl⟩
  have ix : SpfIndex state ids ⟨0, hpos⟩ := by
    refine ⟨rfl, rfl, ?_, fun a b w e => ?_, ?_⟩
    · intro i j hij
      have hnd : (vertices.map (·.routerId)).Nodup := by rw [hdef, routerId_spfTable]; exact hnodup
      have := List.nodup_iff_injective_get.mp hnd
      have h' : (vertices.map (·.routerId)).get (i.cast (by simp)) =
          (vertices.map (·.routerId)).get (j.cast (by simp)) := by
        simpa [ids] using hij
      exact Fin.ext (by simpa using congrArg Fin.val (this h'))
    · obtain ⟨ha, hb⟩ := hcov a b w e
      exact ⟨hmem a ha, hmem b hb⟩
    · rw [hdef, length_spfTable]
      omega
  obtain ⟨tree, htree, I, hnone, hrun⟩ := spfLoop_ok ix (vertices.length + 1) vertices.get
    (spfTable_loopInv ids (fun _ => rfl) rfl) (by omega)
  have hstart : spfLabels vertices.get = Labels.start ⟨0, hpos⟩ := spfTable_start rfl
  rw [hstart] at hrun
  exact ⟨vertices, ids, ⟨0, hpos⟩, tree, hv, htree, ix, I.treeOk hnone, hrun⟩

/-! ## Installed routes -/

/-- What a RIB entry says about where packets go. -/
structure OspfRoute where
  dest : UInt32
  prefixLen : UInt8
  nextHop : UInt32
  iface : Option IfaceRef
  metric : UInt32
  deriving DecidableEq, Repr

def RouteRibEntry.route (e : RouteRibEntry) : OspfRoute where
  dest := e.pfx
  prefixLen := e.prefixLen
  nextHop := e.nextHop
  iface := e.iface
  metric := e.metric

/-- A valid RIB entry of OSPF. -/
def RouteRibEntry.IsOspf (e : RouteRibEntry) : Prop :=
  e.valid = true ∧ e.proto = routeProtoOspf

/-- The OSPF routes of a table. -/
def ospfRoutes (t : RouteTable) : Set OspfRoute :=
  {r | ∃ i, (t.rib i).IsOspf ∧ (t.rib i).route = r}

theorem RouteRibEntry.isOspf_congr {e e' : RouteRibEntry} (h : e.core = e'.core) :
    e.IsOspf ↔ e'.IsOspf := by
  obtain ⟨-, -, hp, hv, -⟩ := core_eq_iff.mp h
  rw [IsOspf, IsOspf, hp, hv]

theorem RouteRibEntry.route_congr {e e' : RouteRibEntry} (h : e.core = e'.core) :
    e.route = e'.route := by
  obtain ⟨h1, h2, -, -, h5, h6, h7, -⟩ := core_eq_iff.mp h
  simp [route, *]

section Install

variable {n : ℕ}

/-- The route that the installation adds for vertex `k`. -/
def spfRoute (state : OspfState) (tree : Slots n OspfSpfVertex) (k : Fin n) : Option OspfRoute :=
  if k.val = 0 then none
  else if (tree k).distance = ospfInfinity then none
  else
    (spfFirstHop tree k).bind fun h =>
      (ospfLiveNeighbor state (tree h).routerId).map fun i =>
        { dest := (tree k).routerId, prefixLen := 32, nextHop := (state.neighbors i).ipAddr,
          iface := (state.neighbors i).iface, metric := (tree k).distance }

variable {state : OspfState} {tree : Slots n OspfSpfVertex}

theorem spfRoute_eq_some_iff {k : Fin n} {r : OspfRoute} :
    spfRoute state tree k = some r ↔
      k.val ≠ 0 ∧ (tree k).distance ≠ ospfInfinity ∧
      ∃ h i, spfFirstHop tree k = some h ∧ ospfLiveNeighbor state (tree h).routerId = some i ∧
        r = { dest := (tree k).routerId, prefixLen := 32, nextHop := (state.neighbors i).ipAddr,
              iface := (state.neighbors i).iface, metric := (tree k).distance } := by
  constructor
  · intro hr
    unfold spfRoute at hr
    split_ifs at hr with h0 hinf
    obtain ⟨h, hh, hr⟩ := Option.bind_eq_some_iff.mp hr
    obtain ⟨i, hi, rfl⟩ := Option.map_eq_some_iff.mp hr
    exact ⟨h0, hinf, h, i, hh, hi, rfl⟩
  · rintro ⟨h0, hinf, h, i, hh, hi, rfl⟩
    rw [spfRoute, if_neg h0, if_neg hinf, hh, Option.bind_some, hi, Option.map_some]

theorem spfRoute_dest {k : Fin n} {r : OspfRoute} (h : spfRoute state tree k = some r) :
    r.dest = (tree k).routerId ∧ r.prefixLen = 32 := by
  obtain ⟨-, -, _, _, -, -, rfl⟩ := spfRoute_eq_some_iff.mp h
  exact ⟨rfl, rfl⟩

/-- A round that does not return early adds the route of its vertex, if any. -/
theorem spfInstallVertex_cases {acc : RouteTable × Int} {k : Fin n}
    (h : (spfInstallVertex state tree acc k).2 = 0) :
    acc.2 = 0 ∧ ((spfRoute state tree k = none ∧ spfInstallVertex state tree acc k = acc) ∨
      ∃ r, spfRoute state tree k = some r ∧
        (routeTableAdd acc.1 r.dest 32 r.nextHop r.iface r.metric routeProtoOspf).2 = 0 ∧
        (spfInstallVertex state tree acc k).1 =
          (routeTableAdd acc.1 r.dest 32 r.nextHop r.iface r.metric routeProtoOspf).1) := by
  unfold spfInstallVertex at h ⊢
  by_cases h0 : acc.2 = 0
  · rw [if_neg (not_not.mpr h0)] at h ⊢
    refine ⟨h0, ?_⟩
    unfold spfRoute
    split_ifs at h ⊢ with hk hd
    · exact .inl ⟨rfl, rfl⟩
    · exact .inl ⟨rfl, rfl⟩
    · cases hhop : spfFirstHop tree k with
      | none => simp [hhop] at h
      | some v =>
        cases hnb : ospfLiveNeighbor state (tree v).routerId with
        | none => exact .inl ⟨by simp [hnb], by simp [hnb]⟩
        | some i =>
          simp only [hhop, hnb] at h
          refine .inr ⟨_, by simp [hnb]; rfl, ?_, by simp [hnb]⟩
          by_contra hne
          rw [if_pos hne] at h
          exact absurd h (by decide)
  · rw [if_pos h0] at h
    exact absurd h h0

/-- After the first `k` vertices, starting from the table `t₀`. -/
structure InstallInv (state : OspfState) (tree : Slots n OspfSpfVertex) (t₀ : RouteTable) (k : ℕ)
    (t : RouteTable) : Prop where
  /-- the other protocols keep their routes -/
  kept : ∀ i, (t₀.rib i).valid = true → (t₀.rib i).proto ≠ routeProtoOspf →
    (t.rib i).core = (t₀.rib i).core
  /-- and get no new ones -/
  others : ∀ i, (t.rib i).valid = true → (t.rib i).proto ≠ routeProtoOspf →
    (t.rib i).core = (t₀.rib i).core
  sound : ∀ i, (t.rib i).IsOspf → ∃ v : Fin n, v.val < k ∧
    spfRoute state tree v = some (t.rib i).route
  complete : ∀ (v : Fin n) (r : OspfRoute), v.val < k → spfRoute state tree v = some r →
    ∃! i, (t.rib i).IsOspf ∧ (t.rib i).pfx = r.dest

theorem installInv_flush (state : OspfState) (tree : Slots n OspfSpfVertex) (t₀ : RouteTable) :
    InstallInv state tree t₀ 0 (routeTableFlushProto t₀ routeProtoOspf).1 := by
  have heff := routeTableFlushProto_effect t₀ (show routeProtoOspf ≠ 0 by decide)
  constructor
  · intro i hv hp
    have := heff i
    rwa [if_neg (fun h => hp h.2)] at this
  · intro i hv hp
    have := heff i
    split_ifs at this with h
    · rw [this] at hv; exact absurd hv (by decide)
    · exact this
  · intro i hi
    have := heff i
    split_ifs at this with h
    · rw [hi.1] at this; exact absurd this (by decide)
    · exact absurd ((RouteRibEntry.isOspf_congr this).mp hi) h
  · intro v r h
    omega

theorem InstallInv.step {t₀ : RouteTable} {acc : RouteTable × Int} {k : Fin n}
    (hinj : Function.Injective fun v => (tree v).routerId)
    (I : acc.2 = 0 → InstallInv state tree t₀ k acc.1)
    (h : (spfInstallVertex state tree acc k).2 = 0) :
    InstallInv state tree t₀ (k + 1) (spfInstallVertex state tree acc k).1 := by
  obtain ⟨h0, ⟨hnone, he⟩ | ⟨r, hr, hadd, he⟩⟩ := spfInstallVertex_cases h
  · rw [he]
    have I := I h0
    refine ⟨I.kept, I.others, fun i hi => ?_, fun v r hv hr => ?_⟩
    · obtain ⟨v, hv, hvr⟩ := I.sound i hi
      exact ⟨v, by omega, hvr⟩
    · rcases Slots.lt_or_eq_of_lt_succ hv with hv | rfl
      · exact I.complete v r hv hr
      · simp [hnone] at hr
  have I := I h0
  set t := acc.1
  set t' := (spfInstallVertex state tree acc k).1
  obtain ⟨i, hi, hother, hold⟩ := routeTableAdd_effect hadd
  rw [← he, and_ipv4PrefixMask_32] at hi
  rw [← he] at hother
  rw [and_ipv4PrefixMask_32] at hold
  obtain ⟨hdest, hlen⟩ := spfRoute_dest hr
  have hinew : (t'.rib i).IsOspf := ⟨hi.valid, hi.proto⟩
  -- no earlier vertex has installed a route to this one
  have hfresh : ∀ j, (t.rib j).IsOspf → (t.rib j).pfx ≠ r.dest := by
    intro j hj hp
    obtain ⟨v, hv, hvr⟩ := I.sound j hj
    have : (tree v).routerId = (tree k).routerId := by
      rw [← (spfRoute_dest hvr).1, ← hdest, ← hp]; rfl
    have := hinj this
    omega
  have hfree : (t.rib i).valid = false := by
    by_contra hv
    have hv : (t.rib i).valid = true := by simpa using hv
    exact hfresh i ⟨hv, (hold hv).1⟩ (hold hv).2
  constructor
  · intro j hv hp
    have hji : j ≠ i := by
      rintro rfl
      have := (RouteRibEntry.core_eq_iff.mp (I.kept j hv hp)).2.2.2.1
      simp [hfree, hv] at this
    rw [hother j hji]
    exact I.kept j hv hp
  · intro j hv hp
    have hji : j ≠ i := by rintro rfl; exact hp hi.proto
    have hc := hother j hji
    obtain ⟨-, -, hpr, hva, -⟩ := RouteRibEntry.core_eq_iff.mp hc
    rw [hc]
    exact I.others j (hva ▸ hv) (hpr ▸ hp)
  · intro j hj
    by_cases hji : j = i
    · subst hji
      refine ⟨k, by omega, ?_⟩
      rw [hr, RouteRibEntry.route, hi.pfx, hi.prefixLen, hi.nextHop, hi.iface, hi.metric]
      cases r
      simp_all
    · have hc := hother j hji
      obtain ⟨v, hv, hvr⟩ := I.sound j ((RouteRibEntry.isOspf_congr hc).mp hj)
      exact ⟨v, by omega, by rw [hvr, RouteRibEntry.route_congr hc]⟩
  · intro v r' hv hr'
    rcases Slots.lt_or_eq_of_lt_succ hv with hv | rfl
    · obtain ⟨j, ⟨hj, hjp⟩, huniq⟩ := I.complete v r' hv hr'
      have hji : j ≠ i := by rintro rfl; have := hj.1; simp [hfree] at this
      have hc := hother j hji
      refine ⟨j, ⟨(RouteRibEntry.isOspf_congr hc).mpr hj, ?_⟩, ?_⟩
      · rw [(RouteRibEntry.core_eq_iff.mp hc).1]; exact hjp
      · rintro x ⟨hx, hxp⟩
        by_cases hxi : x = i
        · subst hxi
          rw [hi.pfx, hdest, (spfRoute_dest hr').1] at hxp
          have := hinj hxp
          omega
        · have hc := hother x hxi
          exact huniq x ⟨(RouteRibEntry.isOspf_congr hc).mp hx, by
            rw [← (RouteRibEntry.core_eq_iff.mp hc).1]; exact hxp⟩
    · obtain rfl : r = r' := Option.some.inj (hr.symm.trans hr')
      refine ⟨i, ⟨hinew, hi.pfx⟩, ?_⟩
      rintro x ⟨hx, hxp⟩
      by_contra hxi
      have hc := hother x hxi
      exact hfresh x ((RouteRibEntry.isOspf_congr hc).mp hx) (by
        rw [← (RouteRibEntry.core_eq_iff.mp hc).1]; exact hxp)

/-- The whole installation. -/
theorem spfInstall_inv {t₀ : RouteTable} (hinj : Function.Injective fun v => (tree v).routerId)
    (h : (spfInstall state tree t₀).2 = 0) :
    InstallInv state tree t₀ n (spfInstall state tree t₀).1 := by
  have hall : (spfInstall state tree t₀).2 = 0 →
      InstallInv state tree t₀ n (spfInstall state tree t₀).1 :=
    Slots.forEach_induction
      (fun k (acc : RouteTable × Int) => acc.2 = 0 → InstallInv state tree t₀ k acc.1)
      (fun _ => installInv_flush state tree t₀)
      fun k acc I h => InstallInv.step hinj I h
  exact hall h

end Install

/-! ## Results -/

/-- The router id of the first hop that the run computes for router `r`. -/
def ospfFirstHop (state : OspfState) (r : UInt32) : Option UInt32 :=
  match spfVertices state with
  | none => none
  | some vertices =>
    match spfLoop state (vertices.length + 1) vertices.get with
    | none => none
    | some tree =>
      (ospfFindSpfVertex tree r).bind fun k => (spfFirstHop tree k).map fun h => (tree h).routerId

/-- The routes that the run computes, whatever the route table. -/
def spfRouteSet (state : OspfState) : Set OspfRoute :=
  {r | ∃ vertices tree k, spfVertices state = some vertices ∧
    spfLoop state (vertices.length + 1) vertices.get = some tree ∧
    spfRoute state tree k = some r}

section Results

variable {state : OspfState} {tbl : RouteTable}

section Tree

variable {vertices : List OspfSpfVertex} {ids : Fin vertices.length → UInt32}
  {root : Fin vertices.length} {tree : Slots vertices.length OspfSpfVertex}

theorem ospfRunSpf_eq (hv : spfVertices state = some vertices)
    (htree : spfLoop state (vertices.length + 1) vertices.get = some tree) :
    ospfRunSpf state tbl = spfInstall state tree tbl := by
  simp only [ospfRunSpf, hv, htree]

/-- The path to a labelled vertex, by router ids. -/
theorem SpfTreeOk.path (T : SpfTreeOk state ids root tree) (ix : SpfIndex state ids root)
    (hv : spfVertices state = some vertices)
    (htree : spfLoop state (vertices.length + 1) vertices.get = some tree)
    {v : Fin vertices.length} {d : ℕ} (hd : (spfLabels tree).dist v = some d) (hne : v ≠ root) :
    ∃ h, spfFirstHop tree v = some h ∧ ospfFirstHop state (ids v) = some (ids h) ∧
      IsDist (P2pLink state) state.routerId (ids v) d ∧
      WalkVia (P2pLink state) state.routerId (ids h) (ids v) d := by
  obtain ⟨h, hh, -, hvia⟩ := T.via v d hd hne
  refine ⟨h, hh, ?_, ?_, ?_⟩
  · simp only [ospfFirstHop, hv, htree, ospfFindSpfVertex_eq T.ids_eq ix.injective v,
      Option.bind_some, hh, Option.map_some, T.ids_eq]
  · rw [← ix.ids_root]
    exact ix.embeds.isDist.mpr ((T.isDist v d).mp hd)
  · rw [← ix.ids_root]
    exact ix.embeds.walkVia hvia

end Tree

/-- After a successful run the OSPF routes of the table are the computed ones. -/
theorem ospfRunSpf_routeSet (h : (ospfRunSpf state tbl).2 = 0) :
    ospfRoutes (ospfRunSpf state tbl).1 = spfRouteSet state := by
  obtain ⟨vertices, ids, root, tree, hv, htree, ix, T, -⟩ := spfTree_ok state
  have hinj : Function.Injective fun v => (tree v).routerId := T.injective ix
  rw [ospfRunSpf_eq hv htree] at h ⊢
  have I := spfInstall_inv hinj h
  ext r
  constructor
  · rintro ⟨i, hi, rfl⟩
    obtain ⟨v, -, hvr⟩ := I.sound i hi
    exact ⟨vertices, tree, v, hv, htree, hvr⟩
  · rintro ⟨vertices', tree', k, hv', htree', hr⟩
    obtain rfl : vertices = vertices' := Option.some.inj (hv.symm.trans hv')
    obtain rfl : tree = tree' := Option.some.inj (htree.symm.trans htree')
    obtain ⟨i, ⟨hi, hip⟩, -⟩ := I.complete k r k.isLt hr
    obtain ⟨v, -, hvr⟩ := I.sound i hi
    have : v = k := hinj (by
      show (tree v).routerId = (tree k).routerId
      rw [← (spfRoute_dest hvr).1, ← (spfRoute_dest hr).1, ← hip]; rfl)
    subst this
    exact ⟨i, hi, Option.some.inj (hvr.symm.trans hr)⟩

theorem ospfLiveNeighbor_eq_some {h : UInt32} {i : Fin ospfMaxNeighbors}
    (hi : ospfLiveNeighbor state h = some i) :
    (state.neighbors i).valid = true ∧ (state.neighbors i).routerId = h ∧
      (state.neighbors i).state ≠ .down ∧ (state.neighbors i).iface.isSome = true := by
  obtain ⟨hi, -⟩ := Fin.find?_eq_some_iff.mp hi
  simpa [and_assoc] using hi

theorem ospfLiveNeighbor_isSome {h : UInt32} {i : Fin ospfMaxNeighbors}
    (hv : (state.neighbors i).valid = true) (hr : (state.neighbors i).routerId = h)
    (hs : (state.neighbors i).state ≠ .down) (hf : (state.neighbors i).iface.isSome = true) :
    ∃ k, ospfLiveNeighbor state h = some k := by
  cases hk : ospfLiveNeighbor state h with
  | some k => exact ⟨k, rfl⟩
  | none =>
    have := Fin.find?_eq_none_iff.mp hk i
    simp [hv, hr, hs, hf] at this

/-- A successful run leaves one OSPF route for each router that a directed path
    of P2P links reaches and whose computed first hop is a live neighbor, with
    the least path metric and a first router of such a path, and touches no
    other route. -/
theorem ospfRunSpf_routes (h : (ospfRunSpf state tbl).2 = 0) :
    let t := (ospfRunSpf state tbl).1
    (∀ i, (t.rib i).valid = true → (t.rib i).proto = routeProtoOspf →
      (t.rib i).prefixLen = 32 ∧ (t.rib i).pfx ≠ state.routerId ∧
      IsDist (P2pLink state) state.routerId (t.rib i).pfx (t.rib i).metric.toNat ∧
      ∃ h k, ospfFirstHop state (t.rib i).pfx = some h ∧
        WalkVia (P2pLink state) state.routerId h (t.rib i).pfx (t.rib i).metric.toNat ∧
        (state.neighbors k).valid = true ∧ (state.neighbors k).routerId = h ∧
        (state.neighbors k).state ≠ .down ∧ (state.neighbors k).iface.isSome = true ∧
        (t.rib i).nextHop = (state.neighbors k).ipAddr ∧
        (t.rib i).iface = (state.neighbors k).iface) ∧
    (∀ r, r ≠ state.routerId → Reachable (P2pLink state) state.routerId r →
      ∃ h d, ospfFirstHop state r = some h ∧ IsDist (P2pLink state) state.routerId r d ∧
        WalkVia (P2pLink state) state.routerId h r d ∧
        ((∃ k, (state.neighbors k).valid = true ∧ (state.neighbors k).routerId = h ∧
            (state.neighbors k).state ≠ .down ∧ (state.neighbors k).iface.isSome = true) →
          ∃! i, ((t.rib i).valid = true ∧ (t.rib i).proto = routeProtoOspf) ∧
            (t.rib i).pfx = r)) ∧
    (∀ i, (tbl.rib i).valid = true → (tbl.rib i).proto ≠ routeProtoOspf →
      (t.rib i).core = (tbl.rib i).core) ∧
    ∀ i, (t.rib i).valid = true → (t.rib i).proto ≠ routeProtoOspf →
      (t.rib i).core = (tbl.rib i).core := by
  obtain ⟨vertices, ids, root, tree, hv, htree, ix, T, -⟩ := spfTree_ok state
  have hinj : Function.Injective fun v => (tree v).routerId := T.injective ix
  rw [ospfRunSpf_eq hv htree] at h ⊢
  intro t
  have I : InstallInv state tree tbl vertices.length t := spfInstall_inv hinj h
  have hroot : ∀ v : Fin vertices.length, v.val ≠ 0 ↔ v ≠ root := fun v =>
    not_congr ⟨fun hv => Fin.ext (hv.trans ix.root_val.symm), fun hv => hv ▸ ix.root_val⟩
  refine ⟨fun i hi hp => ?_, fun r hne hreach => ?_, I.kept, I.others⟩
  · obtain ⟨v, -, hvr⟩ := I.sound i ⟨hi, hp⟩
    obtain ⟨h0, hinf, h, k, hh, hk, hr⟩ := spfRoute_eq_some_iff.mp hvr
    have hdest : (t.rib i).pfx = ids v := (congrArg OspfRoute.dest hr).trans (T.ids_eq v)
    have hmetric : (t.rib i).metric = (tree v).distance := congrArg OspfRoute.metric hr
    have hvroot : v ≠ root := (hroot v).mp h0
    have hdist : (spfLabels tree).dist v = some (t.rib i).metric.toNat :=
      spfLabels_dist_eq_some.mpr ⟨hinf, by rw [hmetric]⟩
    obtain ⟨h', hh', hfirst, hleast, hvia⟩ := T.path ix hv htree hdist hvroot
    obtain rfl : h = h' := Option.some.inj (hh.symm.trans hh')
    rw [T.ids_eq] at hk
    obtain ⟨n1, n2, n3, n4⟩ := ospfLiveNeighbor_eq_some hk
    rw [hdest]
    refine ⟨congrArg OspfRoute.prefixLen hr, ?_, hleast, ids h, k, hfirst, hvia, n1, n2, n3, n4,
      congrArg OspfRoute.nextHop hr, congrArg OspfRoute.iface hr⟩
    rw [← ix.ids_root]
    exact fun e => hvroot (ix.injective e)
  · obtain ⟨d, p⟩ := hreach
    rw [← ix.ids_root] at p hne
    obtain ⟨v, rfl, q⟩ := ix.embeds.walk.mp p
    obtain ⟨dv, hdv⟩ := (T.reachable v).mp ⟨d, q⟩
    have hvroot : v ≠ root := fun e => hne (e ▸ rfl)
    obtain ⟨h, hh, hfirst, hleast, hvia⟩ := T.path ix hv htree hdv hvroot
    refine ⟨ids h, dv, hfirst, hleast, hvia, ?_⟩
    rintro ⟨k, n1, n2, n3, n4⟩
    obtain ⟨k', hk'⟩ := ospfLiveNeighbor_isSome n1 n2 n3 n4
    obtain ⟨hfin, -⟩ := spfLabels_dist_eq_some.mp hdv
    rw [← T.ids_eq h] at hk'
    obtain ⟨i, ⟨hi, hip⟩, huniq⟩ := I.complete v _ v.isLt
      (spfRoute_eq_some_iff.mpr ⟨(hroot v).mpr hvroot, hfin, h, k', hh, hk', rfl⟩)
    rw [T.ids_eq] at hip huniq
    exact ⟨i, ⟨hi, hip⟩, fun j hj => huniq j hj⟩

/-- Router 1 with one link to the live neighbor 2. -/
def spfExample : OspfState :=
  { ospfInit 1 with
    neighbors := fun i =>
      if i.val = 0 then
        { routerId := 2, ipAddr := 0x0A000002, state := .full, iface := some 0, valid := true }
      else (ospfInit 1).neighbors i
    lsdb := fun i =>
      if i.val = 0 then
        { advRouter := 1, lsaType := ospfLsaTypeRouter, valid := true,
          links := fun _ => { linkId := 2, type := ospfLinkP2p, metric := 10 },
          linkCount := ⟨1, one_lt_ospfMaxLsaLinks⟩ }
      else (ospfInit 1).lsdb i }

theorem ospfRunSpf_routes_spfExample :
    (ospfRunSpf spfExample routeTableInit).2 = 0 ∧
      IsDist (P2pLink spfExample) 1 2 10 := by
  have h : (ospfRunSpf spfExample routeTableInit).2 = 0 := by decide +kernel
  have hp : ((ospfRunSpf spfExample routeTableInit).1.rib 0).pfx = 2 := by decide +kernel
  have hm : ((ospfRunSpf spfExample routeTableInit).1.rib 0).metric.toNat = 10 := by decide +kernel
  have hdist := ((ospfRunSpf_routes h).1 0 (by decide +kernel) (by decide +kernel)).2.2.1
  rw [hp, hm] at hdist
  exact ⟨h, hdist⟩

end Results

end FrameRunner
