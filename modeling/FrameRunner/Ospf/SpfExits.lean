import FrameRunner.Ospf.SpfRoutes

/-!
# The exits of an SPF run (`ospf_run_spf`)

The calculation returns early when the vertex table is full, when a link's vertex is missing
or when a first hop is out of range, and the `while (1)` loop has no bound of its own. None
of these exits can be taken and the loop ends: what is left is a route that the router
refuses.

* `spfLoop_eq_some_iff`: the loop as a number of rounds, after which no vertex is selected.
* `spfInstall_status`: the status of the installation.
* `ospfRunSpf_exits`: how a run ends, for every state and route table.
-/

namespace FrameRunner

open FrameRunner.Lib FrameRunner.Lib.ShortestPath

/-! ## Rounds of the loop -/

section Rounds

variable {n : ℕ} {state : OspfState} {vertices tree : Slots n OspfSpfVertex}

/-- One round of the loop after its selection (lines 793–851). -/
def spfRound (state : OspfState) (s : Fin n) (vertices : Slots n OspfSpfVertex) :
    Option (Slots n OspfSpfVertex) :=
  Slots.forEachM ospfLsdbSize (spfRelaxLsa state s)
    (Function.update vertices s { vertices s with visited := true })

/-- `k` rounds of the loop, each of which selects a vertex and takes no exit. -/
inductive SpfRounds (state : OspfState) :
    ℕ → Slots n OspfSpfVertex → Slots n OspfSpfVertex → Prop
  | refl (vertices : Slots n OspfSpfVertex) : SpfRounds state 0 vertices vertices
  | round {k : ℕ} {s : Fin n} {vertices vertices' tree : Slots n OspfSpfVertex}
      (select : spfSelect vertices = some s) (relax : spfRound state s vertices = some vertices')
      (rest : SpfRounds state k vertices' tree) : SpfRounds state (k + 1) vertices tree

/-- The loop returns a table exactly if some rounds lead to it and no vertex is left. -/
theorem spfLoop_eq_some_iff (fuel : ℕ) : ∀ vertices : Slots n OspfSpfVertex,
    spfLoop state fuel vertices = some tree ↔
      ∃ k < fuel, SpfRounds state k vertices tree ∧ spfSelect tree = none := by
  induction fuel with
  | zero => exact fun _ => iff_of_false (by simp [spfLoop]) (by simp)
  | succ fuel ih =>
    intro vertices
    unfold spfLoop
    cases hselect : spfSelect vertices with
    | none =>
      refine ⟨fun h => ?_, ?_⟩
      · cases h
        exact ⟨0, Nat.zero_lt_succ _, .refl _, hselect⟩
      · rintro ⟨k, -, hrounds, -⟩
        cases hrounds with
        | refl => rfl
        | round select =>
          rw [hselect] at select
          cases select
    | some s =>
      have hbind : (do
          let vertices ← Slots.forEachM ospfLsdbSize (spfRelaxLsa state s)
            (Function.update vertices s { vertices s with visited := true })
          spfLoop state fuel vertices) = (spfRound state s vertices).bind (spfLoop state fuel) := rfl
      dsimp only
      rw [hbind, Option.bind_eq_some_iff]
      constructor
      · rintro ⟨vertices', hround, hrest⟩
        obtain ⟨k, hk, hrounds, hnone⟩ := (ih vertices').mp hrest
        exact ⟨k + 1, Nat.succ_lt_succ hk, .round hselect hround hrounds, hnone⟩
      · rintro ⟨k, hk, hrounds, hnone⟩
        cases hrounds with
        | refl =>
          rw [hselect] at hnone
          cases hnone
        | round select relax rest =>
          obtain rfl := Option.some.inj (hselect.symm.trans select)
          exact ⟨_, relax, (ih _).mpr ⟨_, Nat.lt_of_succ_lt_succ hk, rest, hnone⟩⟩

/-- The addition of a relaxation (line 833) is reached for a link of the selected vertex. -/
def SpfAdds (s : Fin n) (vertices : Slots n OspfSpfVertex) (link : OspfLsaLink) : Prop :=
  link.type = ospfLinkP2p ∧ (∃ v, ospfFindSpfVertex vertices link.linkId = some v ∧
    (vertices v).visited = false) ∧ ¬ (vertices s).distance ≥ ospfInfinity - link.metric.toUInt32

/-- The guard before the addition keeps it from wrapping. -/
theorem SpfAdds.toNat_add {s : Fin n} {link : OspfLsaLink} (h : SpfAdds s vertices link) :
    ((vertices s).distance + link.metric.toUInt32).toNat =
      (vertices s).distance.toNat + link.metric.toNat := by
  have hmetric := link.metric.toNat_lt
  have hwide : link.metric.toUInt32.toNat = link.metric.toNat := UInt16.toNat_toUInt32 _
  have hinf : ospfInfinity.toNat = 4294967295 := rfl
  have hle : link.metric.toUInt32 ≤ ospfInfinity := by
    rw [UInt32.le_iff_toNat_le]
    omega
  have hguard := h.2.2
  rw [ge_iff_le, UInt32.le_iff_toNat_le, UInt32.toNat_sub_of_le _ _ hle] at hguard
  rw [UInt32.toNat_add, hwide]
  exact Nat.mod_eq_of_lt (by omega)

/-! ## The installation -/

/-- `router_add_route` refuses the route of a vertex, and `t` is the table it leaves. -/
def SpfInsertFails (state : OspfState) (tree : Slots n OspfSpfVertex) (t : RouteTable) : Prop :=
  ∃ (before : RouteTable) (k h : Fin n) (i : Fin ospfMaxNeighbors),
    spfFirstHop tree k = some h ∧ ospfLiveNeighbor state (tree h).routerId = some i ∧
    let res := routeTableAdd before (tree k).routerId 32 (state.neighbors i).ipAddr
      (state.neighbors i).iface (tree k).distance routeProtoOspf
    res.2 ≠ 0 ∧ res.1 = t

/-- Where every labelled vertex has a first hop, only a refused route ends the installation
    early. -/
theorem spfInstall_status (tbl : RouteTable)
    (hhop : ∀ k : Fin n, k.val ≠ 0 → (tree k).distance ≠ ospfInfinity →
      (spfFirstHop tree k).isSome = true) :
    let res := spfInstall state tree tbl
    res.2 = 0 ∨ res.2 = -1 ∧ SpfInsertFails state tree res.1 := by
  refine Slots.forEach_invariant (f := spfInstallVertex state tree)
    (fun acc => acc.2 = 0 ∨ acc.2 = -1 ∧ SpfInsertFails state tree acc.1) (.inl rfl) ?_
  intro k acc hacc
  unfold spfInstallVertex
  by_cases hstop : acc.2 ≠ 0
  · rw [if_pos hstop]
    exact hacc
  rw [if_neg hstop]
  by_cases hroot : k.val = 0
  · rw [if_pos hroot]
    exact hacc
  rw [if_neg hroot]
  by_cases hinf : (tree k).distance = ospfInfinity
  · rw [if_pos hinf]
    exact hacc
  rw [if_neg hinf]
  obtain ⟨h, hh⟩ := Option.isSome_iff_exists.mp (hhop k hroot hinf)
  rw [hh]
  dsimp only
  cases hi : ospfLiveNeighbor state (tree h).routerId with
  | none => exact hacc
  | some i =>
    dsimp only
    split
    · exact .inr ⟨rfl, acc.1, k, h, i, hh, hi, by assumption, rfl⟩
    · exact .inl rfl

end Rounds

/-! ## Result -/

/-- What a calculation ends with. -/
structure SpfCalculated (state : OspfState) (vertices : List OspfSpfVertex)
    (tree : Slots vertices.length OspfSpfVertex) : Prop where
  found : spfVertices state = some vertices
  size : vertices.length ≤ ospfSpfMaxNodes
  distinct : (vertices.map OspfSpfVertex.routerId).Nodup
  rounds : ∃ k ≤ vertices.length, SpfRounds state k vertices.get tree ∧ spfSelect tree = none
  hops : ∀ k : Fin vertices.length, k.val ≠ 0 → (tree k).distance ≠ ospfInfinity →
    (spfFirstHop tree k).isSome = true

theorem spfCalculated (state : OspfState) :
    ∃ vertices tree, SpfCalculated state vertices tree ∧
      spfLoop state (vertices.length + 1) vertices.get = some tree := by
  obtain ⟨vertices, ids, root, tree, hv, htree, ix, T, -⟩ := spfTree_ok state
  obtain ⟨others, htable, hnodup, hlen, -⟩ := spfVertices_ok state
  have hids : vertices.map OspfSpfVertex.routerId = state.routerId :: others := by
    rw [Option.some.inj (hv.symm.trans htable)]
    exact routerId_spfTable state others
  obtain ⟨k, hk, hrounds, hnone⟩ := (spfLoop_eq_some_iff _ _).mp htree
  refine ⟨vertices, tree, ⟨hv, ix.small, hids ▸ hnodup,
    ⟨k, Nat.lt_succ_iff.mp hk, hrounds, hnone⟩, fun v hroot hinf => ?_⟩, htree⟩
  obtain ⟨h, hh, -⟩ := T.via v _ (spfLabels_dist_eq_some.mpr ⟨hinf, rfl⟩)
    fun e => hroot (e ▸ ix.root_val)
  exact Option.isSome_iff_exists.mpr ⟨h, hh⟩

/-- The vertices fit their table and are distinct, the loop ends after at most as many rounds
    as there are vertices, no distance wraps, and `-1` means that a route was refused: the
    calculation itself has no failing exit. -/
theorem ospfRunSpf_exits (state : OspfState) (tbl : RouteTable) :
    ∃ (vertices : List OspfSpfVertex) (tree : Slots vertices.length OspfSpfVertex),
      SpfCalculated state vertices tree ∧
      (∀ (s : Fin vertices.length) (table : Slots vertices.length OspfSpfVertex) link,
        SpfAdds s table link → ((table s).distance + link.metric.toUInt32).toNat =
          (table s).distance.toNat + link.metric.toNat) ∧
      ospfRunSpf state tbl = spfInstall state tree tbl ∧
      ((ospfRunSpf state tbl).2 = 0 ∨
        (ospfRunSpf state tbl).2 = -1 ∧ SpfInsertFails state tree (ospfRunSpf state tbl).1) := by
  obtain ⟨vertices, tree, hcalc, htree⟩ := spfCalculated state
  have hrun : ospfRunSpf state tbl = spfInstall state tree tbl := ospfRunSpf_eq hcalc.found htree
  refine ⟨vertices, tree, hcalc, fun s table link h => h.toNat_add, hrun, ?_⟩
  rw [hrun]
  exact spfInstall_status tbl hcalc.hops

end FrameRunner
