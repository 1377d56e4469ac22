import FrameRunner.Lib.SlotMap
import FrameRunner.Ospf.Protocol
import FrameRunner.Ospf.SpfRoutes

/-!
# What the OSPF calls change

The routes of an SPF run depend on the LSDB and on the live neighbors at the end
of the router's own links (`spfRouteSet_congr`). For each call: it leaves both as
they are, or schedules an SPF run, or is a Hello that fills one neighbor slot
(`ospfReceive_cases`). `ospfReceive_switch` and `ospfReceiveHello_eq` say which
state a packet leaves.
-/

namespace FrameRunner

open FrameRunner.Lib FrameRunner.Lib.ShortestPath

/-! ## What the routes depend on -/

/-- Where the live neighbor `h` is. -/
def ospfHop (state : OspfState) (h : UInt32) : Option (UInt32 × Option IfaceRef) :=
  (ospfLiveNeighbor state h).map fun i => ((state.neighbors i).ipAddr, (state.neighbors i).iface)

/-- The router has a P2P link to `h`. -/
def ospfLinksTo (state : OspfState) (h : UInt32) : Bool :=
  (Fin.find? fun i => (state.lsdb i).isRouterLsa && (state.lsdb i).advRouter == state.routerId &&
    (Fin.find? fun j => ((state.lsdb i).link j).type == ospfLinkP2p &&
      ((state.lsdb i).link j).linkId == h).isSome).isSome

theorem ospfLinksTo_of_p2pLink {state : OspfState} {h : UInt32} {w : ℕ}
    (e : P2pLink state state.routerId h w) : ospfLinksTo state h = true := by
  obtain ⟨i, j, hlsa, hadv, hj, htype, hid, -⟩ := e
  have hlink : (Fin.find? fun j => ((state.lsdb i).link j).type == ospfLinkP2p &&
      ((state.lsdb i).link j).linkId == h).isSome = true :=
    Fin.isSome_find?_iff.mpr ⟨⟨j, hj⟩, by simp [htype, hid]⟩
  exact Fin.isSome_find?_iff.mpr ⟨i, by simp [hlsa, hadv, hlink]⟩

section Congr

variable {state state' : OspfState}

theorem spfVertices_congr (hid : state'.routerId = state.routerId)
    (hlsdb : state'.lsdb = state.lsdb) : spfVertices state' = spfVertices state := by
  have hstep : spfAddLsa state' = spfAddLsa state := by
    cases state
    cases state'
    cases hlsdb
    rfl
  have hroot : spfRoot state' = spfRoot state := by simp only [spfRoot, hid]
  simp only [spfVertices, hstep, hroot]

theorem spfLoop_congr {n : ℕ} (hlsdb : state'.lsdb = state.lsdb) (fuel : ℕ) :
    ∀ vertices : Slots n OspfSpfVertex, spfLoop state' fuel vertices = spfLoop state fuel vertices := by
  have hstep : ∀ s : Fin n, spfRelaxLsa state' s = spfRelaxLsa state s := by
    intro s
    cases state
    cases state'
    cases hlsdb
    rfl
  induction fuel with
  | zero => intro _; rfl
  | succ fuel ih =>
    intro vertices
    simp only [spfLoop, hstep, ih]

/-- A computed route goes through a live neighbor that the router has a link to. -/
theorem spfRouteSet_hop {r : OspfRoute} (h : r ∈ spfRouteSet state) :
    ∃ vertices tree k v, spfVertices state = some vertices ∧
      spfLoop state (vertices.length + 1) vertices.get = some tree ∧
      k.val ≠ 0 ∧ (tree k).distance ≠ ospfInfinity ∧ spfFirstHop tree k = some v ∧
      ospfLinksTo state (tree v).routerId = true ∧
      ospfHop state (tree v).routerId = some (r.nextHop, r.iface) ∧
      r.dest = (tree k).routerId ∧ r.prefixLen = 32 ∧ r.metric = (tree k).distance := by
  obtain ⟨vertices, tree, k, hv, htree, hr⟩ := h
  obtain ⟨vertices', ids, root, tree', hv', htree', ix, T, -⟩ := spfTree_ok state
  obtain rfl : vertices = vertices' := Option.some.inj (hv.symm.trans hv')
  obtain rfl : tree = tree' := Option.some.inj (htree.symm.trans htree')
  obtain ⟨h0, hinf, v, i, hh, hi, rfl⟩ := spfRoute_eq_some_iff.mp hr
  have hroot : k ≠ root := fun e => h0 (e ▸ ix.root_val)
  obtain ⟨v', hh', -, hvia⟩ := T.via k _ (spfLabels_dist_eq_some.mpr ⟨hinf, rfl⟩) hroot
  obtain rfl : v = v' := Option.some.inj (hh.symm.trans hh')
  obtain ⟨w, e⟩ := hvia.first_edge
  refine ⟨vertices, tree, k, v, hv, htree, h0, hinf, hh, ?_, ?_, rfl, rfl, rfl⟩
  · rw [T.ids_eq]
    exact ospfLinksTo_of_p2pLink (by rw [← ix.ids_root]; exact e)
  · simp only [ospfHop, hi, Option.map_some]

theorem spfRouteSet_subset (hid : state'.routerId = state.routerId)
    (hlsdb : state'.lsdb = state.lsdb)
    (hhop : ∀ h, ospfLinksTo state h = true → ospfHop state' h = ospfHop state h) :
    spfRouteSet state ⊆ spfRouteSet state' := by
  intro r hr
  obtain ⟨vertices, tree, k, v, hv, htree, h0, hinf, hh, hlink, hop, h1, h2, h3⟩ :=
    spfRouteSet_hop hr
  have hop' := (hhop _ hlink).trans hop
  obtain ⟨i, hi, he⟩ := Option.map_eq_some_iff.mp hop'
  refine ⟨vertices, tree, k, (spfVertices_congr hid hlsdb).trans hv,
    (spfLoop_congr hlsdb _ _).trans htree,
    spfRoute_eq_some_iff.mpr ⟨h0, hinf, v, i, hh, hi, ?_⟩⟩
  obtain ⟨hn, hf⟩ := Prod.mk.inj he
  rw [hn, hf, ← h1, ← h2, ← h3]

/-- The computed routes depend on the LSDB and on where the router's own links lead. -/
theorem spfRouteSet_congr (hid : state'.routerId = state.routerId)
    (hlsdb : state'.lsdb = state.lsdb)
    (hhop : ∀ h, ospfLinksTo state h = true → ospfHop state' h = ospfHop state h) :
    spfRouteSet state' = spfRouteSet state := by
  have hlinks : ospfLinksTo state' = ospfLinksTo state := by
    cases state
    cases state'
    cases hid
    cases hlsdb
    rfl
  refine Set.Subset.antisymm (spfRouteSet_subset hid.symm hlsdb.symm fun h hl => ?_)
    (spfRouteSet_subset hid hlsdb hhop)
  rw [hlinks] at hl
  exact (hhop h hl).symm

end Congr

/-! ## Hello -/

/-- The packet passes the checks of `ospf_receive` and of its Hello case, and the
    neighbor table has a slot for its sender. -/
def OspfHelloAccepted (env : OspfEnv) (state : OspfState) (iface : IfaceRef) (pkt : IpDatagram) :
    Prop :=
  env.prefixLen iface ≤ 32 ∧ ospfHeaderLen + ospfHelloLen ≤ pkt.data.length ∧
    pkt.protocol = ospfProtoNum ∧ getU8 pkt.data 0 = ospfVersion ∧
    getU8 pkt.data 1 = ospfTypeHello ∧ getU32 pkt.data 8 = state.areaId ∧
    (getU16 pkt.data 2).toNat = pkt.data.length ∧ getU16 pkt.data 12 = 0 ∧
    getU16 pkt.data 14 = 0 ∧ getU32 pkt.data 16 = 0 ∧ getU32 pkt.data 20 = 0 ∧
    (pkt.data.length - ospfHeaderLen - ospfHelloLen) % 4 = 0 ∧
    getU32 pkt.data 4 ≠ state.routerId ∧
    getU32 pkt.data 24 = ipv4PrefixMask (env.prefixLen iface) ∧
    (getU16 pkt.data 28).toNat = ospfHelloIntervalUs.toNat / 1000000 ∧
    (getU32 pkt.data 32).toNat = ospfDeadIntervalUs.toNat / 1000000 ∧
    (ospfHelloSlot state (getU32 pkt.data 4)).isSome

instance (env : OspfEnv) (state : OspfState) (iface : IfaceRef) (pkt : IpDatagram) :
    Decidable (OspfHelloAccepted env state iface pkt) := by
  unfold OspfHelloAccepted
  infer_instance

/-- The sender's record is alive and already has this address and interface. -/
def ospfHelloKeeps (state : OspfState) (iface : IfaceRef) (pkt : IpDatagram) : Bool :=
  match Fin.find? fun i =>
    (state.neighbors i).valid && (state.neighbors i).routerId == getU32 pkt.data 4 with
  | none => false
  | some i => (state.neighbors i).state != .down && (state.neighbors i).ipAddr == pkt.srcIp &&
      decide ((state.neighbors i).iface = some iface)

/-- The slot that a Hello fills: the sender's record, or a free one. -/
def IsHelloSlot (state : OspfState) (sender : UInt32) (i : Fin ospfMaxNeighbors) : Prop :=
  let record := Fin.find? fun i =>
    (state.neighbors i).valid && (state.neighbors i).routerId == sender
  record = some i ∨ record = none ∧ (state.neighbors i).valid = false

/-- A slot of the neighbor table after a Hello. -/
structure HelloEffect (state state' : OspfState) (sender senderIp : UInt32) (iface : IfaceRef)
    (i : Fin ospfMaxNeighbors) : Prop where
  routerId : state'.routerId = state.routerId
  lsdb : state'.lsdb = state.lsdb
  slot : (state.neighbors i).valid = false ∨ (state.neighbors i).routerId = sender
  live : (state'.neighbors i).valid = true ∧ (state'.neighbors i).routerId = sender ∧
    (state'.neighbors i).state ≠ .down ∧ (state'.neighbors i).ipAddr = senderIp ∧
    (state'.neighbors i).iface = some iface
  other : ∀ j, j ≠ i → state'.neighbors j = state.neighbors j

theorem ospfHelloSlot_eq_some {state st : OspfState} {sender : UInt32}
    {i : Fin ospfMaxNeighbors} (h : ospfHelloSlot state sender = some (st, i)) :
    st.routerId = state.routerId ∧ st.lsdb = state.lsdb ∧ st.neighbors = state.neighbors ∧
      IsHelloSlot state sender i := by
  unfold ospfHelloSlot at h
  split at h
  · rename_i j hj
    cases h
    exact ⟨rfl, rfl, rfl, .inl hj⟩
  · rename_i hnone
    split at h
    · rename_i j hj
      cases h
      refine ⟨rfl, rfl, rfl, .inr ⟨hnone, ?_⟩⟩
      simpa using (Fin.find?_eq_some_iff.mp hj).1
    · nomatch h

section Hop

variable {state state' : OspfState} {sender senderIp : UInt32} {iface : IfaceRef}
  {i : Fin ospfMaxNeighbors}

/-- Slots that agree on liveness and on where the neighbor is give the same hop. -/
theorem ospfHop_congr {h : UInt32}
    (hsame : ∀ j, ((state'.neighbors j).valid && (state'.neighbors j).routerId == h &&
        (state'.neighbors j).state != .down && (state'.neighbors j).iface.isSome) =
      ((state.neighbors j).valid && (state.neighbors j).routerId == h &&
        (state.neighbors j).state != .down && (state.neighbors j).iface.isSome))
    (hdata : ∀ j, (state.neighbors j).valid = true → (state.neighbors j).routerId = h →
      (state.neighbors j).state ≠ .down → (state'.neighbors j).ipAddr = (state.neighbors j).ipAddr ∧
      (state'.neighbors j).iface = (state.neighbors j).iface) :
    ospfHop state' h = ospfHop state h := by
  have hfind : ospfLiveNeighbor state' h = ospfLiveNeighbor state h := by
    unfold ospfLiveNeighbor
    rw [funext hsame]
  unfold ospfHop
  rw [hfind]
  cases hk : ospfLiveNeighbor state h with
  | none => rfl
  | some j =>
    obtain ⟨h1, h2, h3, -⟩ := ospfLiveNeighbor_eq_some hk
    obtain ⟨ha, hb⟩ := hdata j h1 h2 h3
    simp only [Option.map_some, ha, hb]

/-- A Hello does not move the other neighbors. -/
theorem HelloEffect.hop_other (E : HelloEffect state state' sender senderIp iface i) {h : UInt32}
    (hne : h ≠ sender) : ospfHop state' h = ospfHop state h := by
  have hi : (state.neighbors i).valid = true → (state.neighbors i).routerId ≠ h := by
    intro hv hr
    rcases E.slot with hs | hs
    · simp [hv] at hs
    · exact hne (hr.symm.trans hs)
  refine ospfHop_congr (fun j => ?_) fun j hv hr _ => ?_
  · by_cases hj : j = i
    · subst hj
      have hleft : ((state'.neighbors j).routerId == h) = false := by
        rw [E.live.2.1]
        simpa using hne.symm
      have hright : ((state.neighbors j).valid && (state.neighbors j).routerId == h) = false := by
        cases hv : (state.neighbors j).valid with
        | false => rfl
        | true => simpa using hi hv
      rw [hleft, hright]
      simp
    · rw [E.other j hj]
  · have hj : j ≠ i := by
      rintro rfl
      exact hi hv hr
    rw [E.other j hj]
    exact ⟨rfl, rfl⟩

/-- A Hello of a live neighbor in its place does not move it. -/
theorem HelloEffect.hop_kept (E : HelloEffect state state' sender senderIp iface i)
    (hv : (state.neighbors i).valid = true) (hr : (state.neighbors i).routerId = sender)
    (hs : (state.neighbors i).state ≠ .down) (hip : (state.neighbors i).ipAddr = senderIp)
    (hif : (state.neighbors i).iface = some iface) (h : UInt32) :
    ospfHop state' h = ospfHop state h := by
  obtain ⟨l1, l2, l3, l4, l5⟩ := E.live
  refine ospfHop_congr (fun j => ?_) fun j _ _ _ => ?_
  · by_cases hj : j = i
    · subst hj
      have e1 : ((state'.neighbors j).state != .down) = true := by simpa using l3
      have e2 : ((state.neighbors j).state != .down) = true := by simpa using hs
      rw [l1, l2, l5, hv, hr, hif, e1, e2]
    · rw [E.other j hj]
  · by_cases hj : j = i
    · subst hj
      exact ⟨l4.trans hip.symm, l5.trans hif.symm⟩
    · rw [E.other j hj]
      exact ⟨rfl, rfl⟩

/-- The routes after a Hello that changes no hop they may use. -/
theorem HelloEffect.routes (E : HelloEffect state state' sender senderIp iface i)
    (hsafe : ospfLinksTo state sender = false ∨
      (state.neighbors i).valid = true ∧ (state.neighbors i).routerId = sender ∧
        (state.neighbors i).state ≠ .down ∧ (state.neighbors i).ipAddr = senderIp ∧
        (state.neighbors i).iface = some iface) :
    spfRouteSet state' = spfRouteSet state := by
  refine spfRouteSet_congr E.routerId E.lsdb fun h hl => ?_
  rcases hsafe with hno | ⟨hv, hr, hs, hip, hif⟩
  · refine E.hop_other ?_
    rintro rfl
    simp [hno] at hl
  · exact E.hop_kept hv hr hs hip hif h

end Hop

/-! ## The calls -/

/-- An event that runs SPF. -/
def Event.IsSpf (e : OspfEvent) : Prop := e.type = .ospfSpf ∧ e.handler = some .spfTimer

theorem ospfApplyLsa_eq {acc : OspfState × List (Fin ospfLsdbSize)} {parsed : OspfLsaEntry}
    (h : (ospfApplyLsa acc parsed).2 = []) : ospfApplyLsa acc parsed = acc := by
  obtain ⟨state, changedSlots⟩ := acc
  unfold ospfApplyLsa at h ⊢
  dsimp only at h ⊢
  cases hslot : ospfLsaSlot state parsed with
  | none => rfl
  | some i =>
    simp only [hslot] at h
    by_cases hi : i ∈ changedSlots
    · rw [if_pos hi] at h
      subst h
      nomatch hi
    · simp [hi] at h

/-- An LSU that changes no slot changes nothing. -/
theorem foldl_ospfApplyLsa (parsed : List OspfLsaEntry) :
    ∀ acc, (parsed.foldl ospfApplyLsa acc).2 = [] → parsed.foldl ospfApplyLsa acc = acc := by
  induction parsed with
  | nil => intro acc _; rfl
  | cons p parsed ih =>
    intro acc h
    rw [List.foldl_cons] at h ⊢
    have hlast := ih _ h
    rw [hlast] at h ⊢
    exact ospfApplyLsa_eq h

theorem ospfReceiveLsu_cases (env : OspfEnv) (state : OspfState) (iface : IfaceRef)
    (data : List UInt8) :
    (ospfReceiveLsu env state iface data).1 = state ∨
      ∃ e ∈ (ospfReceiveLsu env state iface data).2.2.events, Event.IsSpf e := by
  unfold ospfReceiveLsu
  dsimp only
  split
  · exact .inl rfl
  split
  · exact .inl rfl
  split
  · exact .inl rfl
  split
  · exact .inl rfl
  rename_i parsedLsas _ _ _
  by_cases hchanged : (parsedLsas.foldl ospfApplyLsa (state, [])).2 = []
  · exact .inl (congrArg Prod.fst (foldl_ospfApplyLsa parsedLsas _ hchanged))
  · refine .inr ?_
    dsimp only
    rw [if_pos hchanged]
    exact ⟨_, List.mem_singleton_self _, rfl, rfl⟩

theorem ospfReceiveHello_cases (env : OspfEnv) (state : OspfState) (iface : IfaceRef)
    (senderIp : UInt32) (data : List UInt8) :
    (ospfReceiveHello env state iface senderIp data).1 = state ∨
    (ospfHeaderLen + ospfHelloLen ≤ data.length ∧
      (data.length - ospfHeaderLen - ospfHelloLen) % 4 = 0 ∧
      getU32 data 4 ≠ state.routerId ∧
      getU32 data 24 = ipv4PrefixMask (env.prefixLen iface) ∧
      (getU16 data 28).toNat = ospfHelloIntervalUs.toNat / 1000000 ∧
      (getU32 data 32).toNat = ospfDeadIntervalUs.toNat / 1000000 ∧
      (ospfHelloSlot state (getU32 data 4)).isSome) ∧
      ∃ i, HelloEffect state (ospfReceiveHello env state iface senderIp data).1 (getU32 data 4)
        senderIp iface i ∧ IsHelloSlot state (getU32 data 4) i := by
  unfold ospfReceiveHello
  dsimp only
  split
  · exact .inl rfl
  rename_i hlen
  split
  · exact .inl rfl
  rename_i hmod
  split
  · exact .inl rfl
  rename_i hfields
  split
  · exact .inl rfl
  rename_i st i hslot
  obtain ⟨hid, hlsdb, hnb, hi⟩ := ospfHelloSlot_eq_some hslot
  simp only [not_or, not_not] at hfields
  refine .inr ⟨⟨by omega, by omega, hfields.1, hfields.2.1, hfields.2.2.1, hfields.2.2.2,
    by rw [hslot]; rfl⟩, i, ⟨hid, hlsdb, ?_, ?_, fun j hj => ?_⟩, hi⟩
  · rcases hi with hi | ⟨-, hi⟩
    · have := (Fin.find?_eq_some_iff.mp hi).1
      simp only [Bool.and_eq_true, beq_iff_eq] at this
      exact .inr this.2
    · exact .inl hi
  · dsimp only
    rw [Function.update_self]
    refine ⟨rfl, rfl, ?_, rfl, rfl⟩
    dsimp only
    split <;> simp
  · dsimp only
    rw [Function.update_of_ne hj, hnb]

/-- What a received packet does to the LSDB, the neighbors and the events. -/
theorem ospfReceive_cases {env : OspfEnv} {state state' : OspfState} {iface : IfaceRef}
    {pkt : IpDatagram} {res : Int} {out : OspfOut}
    (h : ospfReceive env state iface pkt = (state', res, out)) :
    state' = state ∨ (∃ e ∈ out.events, Event.IsSpf e) ∨
    OspfHelloAccepted env state iface pkt ∧
      ∃ i, HelloEffect state state' (getU32 pkt.data 4) pkt.srcIp iface i ∧
        IsHelloSlot state (getU32 pkt.data 4) i := by
  unfold ospfReceive at h
  rcases ite_eq_iff.mp h with ⟨-, h⟩ | ⟨hpl, h⟩
  · cases h
    exact .inl rfl
  rcases ite_eq_iff.mp h with ⟨-, h⟩ | ⟨hlen, h⟩
  · cases h
    exact .inl rfl
  rcases ite_eq_iff.mp h with ⟨-, h⟩ | ⟨hproto, h⟩
  · cases h
    exact .inl rfl
  rcases ite_eq_iff.mp h with ⟨-, h⟩ | ⟨hversion, h⟩
  · cases h
    exact .inl rfl
  rcases ite_eq_iff.mp h with ⟨-, h⟩ | ⟨harea, h⟩
  · cases h
    exact .inl rfl
  rcases ite_eq_iff.mp h with ⟨-, h⟩ | ⟨hpktLen, h⟩
  · cases h
    exact .inl rfl
  rcases ite_eq_iff.mp h with ⟨-, h⟩ | ⟨hchecksum, h⟩
  · cases h
    exact .inl rfl
  rcases ite_eq_iff.mp h with ⟨-, h⟩ | ⟨hauth, h⟩
  · cases h
    exact .inl rfl
  dsimp only at h
  split at h
  · rename_i htype
    cases h
    rcases ospfReceiveHello_cases env state iface pkt.srcIp pkt.data with hs | ⟨ok, heff⟩
    · exact .inl hs
    · refine .inr (.inr ⟨?_, heff⟩)
      simp only [not_or, not_not] at hproto hversion harea hpktLen hchecksum hauth
      exact ⟨UInt8.not_lt.mp hpl, ok.1, hproto, hversion, htype, harea, hpktLen, hchecksum,
        hauth.1, hauth.2.1, hauth.2.2, ok.2⟩
  split at h
  · rcases ospfReceiveLsu_cases env state iface pkt.data with hs | hs
    · exact .inl ((congrArg Prod.fst h).symm.trans hs)
    · rw [h] at hs
      exact .inr (.inl hs)
  split at h
  · cases h
    exact .inl rfl
  · cases h
    exact .inl rfl

/-! ## The state after a packet -/

/-- How a neighbor record is read. -/
def nbrKeyed : Keyed OspfNeighbor UInt32 UInt64 where
  used neighbor := neighbor.valid
  key neighbor := neighbor.routerId
  val neighbor := neighbor.lastHelloTs

theorem ospfHelloSlot_eq (state : OspfState) (senderRouterId : UInt32) :
    ospfHelloSlot state senderRouterId =
      (nbrKeyed.slotFor state.neighbors senderRouterId).map fun i =>
        ({ state with neighborCount := if (state.neighbors i).valid then state.neighborCount
                                       else state.neighborCount + 1 }, i) := by
  have hfind : (Fin.find? fun i => (state.neighbors i).valid &&
      (state.neighbors i).routerId == senderRouterId) =
      nbrKeyed.find state.neighbors senderRouterId := by
    unfold Keyed.find
    congr 1
  unfold ospfHelloSlot Keyed.slotFor
  rw [hfind]
  cases hsome : nbrKeyed.find state.neighbors senderRouterId with
  | some i =>
    have hi : (state.neighbors i).valid = true := (Keyed.find_eq_some hsome).1
    simp only [Option.map_some, hi, if_true]
  | none =>
    have hused : (Fin.find? fun i => !nbrKeyed.used (state.neighbors i)) =
        Fin.find? fun i => !(state.neighbors i).valid := rfl
    rw [hused]
    dsimp only
    cases hfree : Fin.find? fun i => !(state.neighbors i).valid with
    | none => rfl
    | some i =>
      have hi : (state.neighbors i).valid = false := by
        simpa using (Fin.find?_eq_some_iff.mp hfree).1
      simp only [Option.map_some, hi, Bool.false_eq_true, if_false]

/-- The Hello lists this router id. -/
def ospfHelloLists (routerId : UInt32) (data : List UInt8) : Bool :=
  (List.range ((data.length - ospfHeaderLen - ospfHelloLen) / 4)).any fun k =>
    getU32 data (ospfHeaderLen + ospfHelloLen + 4 * k) == routerId

/-- The record that a Hello leaves. -/
def ospfHelloNeighbor (env : OspfEnv) (state : OspfState) (iface : IfaceRef) (senderIp : UInt32)
    (data : List UInt8) : OspfNeighbor where
  routerId := getU32 data 4
  ipAddr := senderIp
  iface := some iface
  lastHelloTs := env.now
  state := if ospfHelloLists state.routerId data then .full else .init
  valid := true

/-- A Hello is refused and changes nothing, or it is taken and fills a slot. -/
theorem ospfReceiveHello_eq (env : OspfEnv) (state : OspfState) (iface : IfaceRef)
    (senderIp : UInt32) (data : List UInt8) :
    ospfReceiveHello env state iface senderIp data = (state, -1) ∨
    ∃ i, nbrKeyed.slotFor state.neighbors (getU32 data 4) = some i ∧
      getU32 data 4 ≠ state.routerId ∧
      ospfReceiveHello env state iface senderIp data = ({ state with
        neighbors := Function.update state.neighbors i
          (ospfHelloNeighbor env state iface senderIp data)
        neighborCount := if (state.neighbors i).valid then state.neighborCount
                         else state.neighborCount + 1 }, 0) := by
  unfold ospfReceiveHello
  dsimp only
  split
  · exact .inl rfl
  split
  · exact .inl rfl
  split
  · exact .inl rfl
  rename_i hfields
  rw [ospfHelloSlot_eq]
  cases hslot : nbrKeyed.slotFor state.neighbors (getU32 data 4) with
  | none => exact .inl rfl
  | some i => exact .inr ⟨i, rfl, fun h => hfields (.inl h), rfl⟩

/-- The state after a packet: as before, or what the Hello or the LSU case left. -/
theorem ospfReceive_switch (env : OspfEnv) (state : OspfState) (iface : IfaceRef)
    (pkt : IpDatagram) :
    ospfReceive env state iface pkt = (state, -1, {}) ∨
    getU8 pkt.data 1 ≠ ospfTypeHello ∧ ((ospfReceive env state iface pkt).1 = state ∨
      (ospfReceive env state iface pkt).1 = (ospfReceiveLsu env state iface pkt.data).1) ∨
    getU8 pkt.data 1 = ospfTypeHello ∧
      (ospfReceive env state iface pkt).1 =
        (ospfReceiveHello env state iface pkt.srcIp pkt.data).1 ∧
      (ospfReceive env state iface pkt).2.1 =
        (ospfReceiveHello env state iface pkt.srcIp pkt.data).2 := by
  obtain ⟨r, hr⟩ : ∃ r, ospfReceive env state iface pkt = r := ⟨_, rfl⟩
  rw [hr]
  unfold ospfReceive at hr
  -- the eight tests of the header
  iterate 8
    rcases ite_eq_iff.mp hr with ⟨-, hr⟩ | ⟨-, hr⟩
    · exact .inl hr.symm
  dsimp only at hr
  rcases ite_eq_iff.mp hr with ⟨htype, hr⟩ | ⟨htype, hr⟩
  · rw [← hr]
    exact .inr (.inr ⟨htype, rfl, rfl⟩)
  refine .inr (.inl ⟨htype, ?_⟩)
  rcases ite_eq_iff.mp hr with ⟨-, hr⟩ | ⟨-, hr⟩
  · rw [← hr]
    exact .inr rfl
  rcases ite_eq_iff.mp hr with ⟨-, hr⟩ | ⟨-, hr⟩
  · rw [← hr]
    exact .inl rfl
  · rw [← hr]
    exact .inl rfl

end FrameRunner
