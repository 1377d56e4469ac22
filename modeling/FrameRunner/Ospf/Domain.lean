import FrameRunner.Lib.HopByHop
import FrameRunner.Network.Transit
import FrameRunner.Ospf.Receive

/-!
# An OSPF domain that has converged

Every router has run SPF on its own database and forwards by its own table. When the databases
have the same links, every link leads to a neighbor that is up and no link is for free, the
tables fit together: a packet for a router gets there on a shortest path and meets no router
twice (`OspfConverged.path`), and a datagram reaches the socket at the other end
(`ospfDomain_delivers`).
-/

namespace FrameRunner

open FrameRunner.Lib FrameRunner.Lib.ShortestPath

/-! ## The routes of one router -/

section
variable {state : OspfState} {tbl : RouteTable}

/-- A computed route is on a shortest path that starts with a live neighbor. -/
theorem spfRouteSet_sound {r : OspfRoute} (h : r ∈ spfRouteSet state) :
    ∃ hop k, IsDist (P2pLink state) state.routerId r.dest r.metric.toNat ∧
      WalkVia (P2pLink state) state.routerId hop r.dest r.metric.toNat ∧
      ospfLiveNeighbor state hop = some k ∧ r.nextHop = (state.neighbors k).ipAddr ∧
      r.iface = (state.neighbors k).iface := by
  obtain ⟨vertices, tree, v, hv, htree, hr⟩ := h
  obtain ⟨vertices', ids, root, tree', hv', htree', ix, T, -⟩ := spfTree_ok state
  obtain rfl : vertices = vertices' := Option.some.inj (hv.symm.trans hv')
  obtain rfl : tree = tree' := Option.some.inj (htree.symm.trans htree')
  obtain ⟨h0, hinf, hop, k, hhop, hk, rfl⟩ := spfRoute_eq_some_iff.mp hr
  have hroot : v ≠ root := fun e => h0 (e ▸ ix.root_val)
  obtain ⟨hop', hhop', -, hdist, hvia⟩ :=
    T.path ix hv htree (spfLabels_dist_eq_some.mpr ⟨hinf, rfl⟩) hroot
  obtain rfl : hop = hop' := Option.some.inj (hhop.symm.trans hhop')
  rw [T.ids_eq] at hk
  refine ⟨ids hop, k, ?_, ?_, hk, rfl, rfl⟩
  · show IsDist _ _ (tree v).routerId _
    rw [T.ids_eq]
    exact hdist
  · show WalkVia _ _ _ (tree v).routerId _
    rw [T.ids_eq]
    exact hvia

/-- A router that can be reached has one, if the router's own links lead to live neighbors. -/
theorem exists_spfRouteSet {dest : UInt32} {d : ℕ}
    (hlive : ∀ b w, P2pLink state state.routerId b w → (ospfLiveNeighbor state b).isSome)
    (hd : IsDist (P2pLink state) state.routerId dest d) (hne : dest ≠ state.routerId) :
    ∃ r ∈ spfRouteSet state, r.dest = dest ∧ r.prefixLen = 32 := by
  obtain ⟨vertices, ids, root, tree, hv, htree, ix, T, -⟩ := spfTree_ok state
  have p := hd.1
  rw [← ix.ids_root] at p hne
  obtain ⟨v, rfl, -⟩ := ix.embeds.walk.mp p
  have hroot : v ≠ root := fun e => hne (e ▸ rfl)
  rw [← ix.ids_root] at hd
  have hlabel := (T.isDist v d).mpr (ix.embeds.isDist.mp hd)
  obtain ⟨hop, hhop, -, -, hvia⟩ := T.path ix hv htree hlabel hroot
  obtain ⟨w, hedge⟩ := hvia.first_edge
  obtain ⟨k, hk⟩ := Option.isSome_iff_exists.mp (hlive _ w hedge)
  have hid : v.val ≠ 0 := fun e => hroot (Fin.ext (e.trans ix.root_val.symm))
  rw [← T.ids_eq hop] at hk
  exact ⟨_, ⟨vertices, tree, v, hv, htree, spfRoute_eq_some_iff.mpr
    ⟨hid, (spfLabels_dist_eq_some.mp hlabel).1, hop, k, hhop, hk, rfl⟩⟩, T.ids_eq v, rfl⟩

/-- The run leaves the table in order, -/
theorem TableOk.ospfRunSpf (h : TableOk tbl) : TableOk (ospfRunSpf state tbl).1 := by
  unfold FrameRunner.ospfRunSpf
  split
  · exact h
  split
  · exact h
  · rename_i tree _
    refine Slots.forEach_invariant (f := spfInstallVertex state tree)
      (fun acc : RouteTable × Int => TableOk acc.1) (h.flushProto _) fun k acc hacc => ?_
    unfold spfInstallVertex
    split
    · exact hacc
    split
    · exact hacc
    split
    · exact hacc
    split
    · exact hacc
    split
    · exact hacc
    · rename_i i _
      exact hacc.add (tree k).routerId 32 (state.neighbors i).ipAddr (state.neighbors i).iface
        (tree k).distance routeProtoOspf

/-- and gives no routes to other protocols. -/
theorem ospfRunSpf_others (h : (ospfRunSpf state tbl).2 = 0) {i : Fin routeRibSize}
    (hv : ((ospfRunSpf state tbl).1.rib i).valid = true)
    (hp : ((ospfRunSpf state tbl).1.rib i).proto ≠ routeProtoOspf) :
    ((ospfRunSpf state tbl).1.rib i).core = (tbl.rib i).core := by
  obtain ⟨vertices, ids, root, tree, hvertices, htree, ix, T, -⟩ := spfTree_ok state
  rw [ospfRunSpf_eq hvertices htree] at h hv hp ⊢
  exact (spfInstall_inv (T.injective ix) h).others i hv hp

/-- Nobody but OSPF has a route to this very address. -/
def OspfOwns (tbl : RouteTable) (dest : UInt32) : Prop :=
  ∀ i, (tbl.rib i).valid = true → (tbl.rib i).pfx = dest → (tbl.rib i).prefixLen = 32 →
    (tbl.rib i).proto = routeProtoOspf

/-- What the lookup finds for a router that can be reached. -/
theorem ospfRunSpf_lookup (htbl : TableOk tbl) (h : (ospfRunSpf state tbl).2 = 0) {dest : UInt32}
    {d : ℕ} (howns : OspfOwns tbl dest)
    (hlive : ∀ b w, P2pLink state state.routerId b w → (ospfLiveNeighbor state b).isSome)
    (hd : IsDist (P2pLink state) state.routerId dest d) (hne : dest ≠ state.routerId) :
    ∃ f hop k, routeTableLookup (ospfRunSpf state tbl).1 dest = some f ∧
      WalkVia (P2pLink state) state.routerId hop dest d ∧ ospfLiveNeighbor state hop = some k ∧
      f.nextHop = (state.neighbors k).ipAddr ∧ f.iface = (state.neighbors k).iface := by
  have hok : TableOk (ospfRunSpf state tbl).1 := htbl.ospfRunSpf
  obtain ⟨r, hr, hdest, hlen⟩ := exists_spfRouteSet hlive hd hne
  have hset := ospfRunSpf_routeSet h
  rw [← hset] at hr
  obtain ⟨j, hj, rfl⟩ := hr
  have hcontains : PrefixContains ((ospfRunSpf state tbl).1.rib j).pfx
      ((ospfRunSpf state tbl).1.rib j).prefixLen dest := by
    have hpfx : ((ospfRunSpf state tbl).1.rib j).pfx = dest := hdest
    have hplen : ((ospfRunSpf state tbl).1.rib j).prefixLen = 32 := hlen
    rw [PrefixContains, hpfx, hplen, and_ipv4PrefixMask_32]
  cases hf : routeTableLookup (ospfRunSpf state tbl).1 dest with
  | none => exact absurd hcontains (hok.lookup_eq_none_iff.mp hf j hj.1)
  | some f =>
    obtain ⟨-, hlongest, i, hv, hc, -, hl, -, hnext, hiface, -⟩ := hok.lookup_eq_some hf
    have hle : (32 : UInt8) ≤ f.prefixLen := by
      have := hlongest j hj.1 hcontains
      rwa [show ((ospfRunSpf state tbl).1.rib j).prefixLen = 32 from hlen] at this
    have h32 : ((ospfRunSpf state tbl).1.rib i).prefixLen = 32 :=
      UInt8.le_antisymm (hok.rib.prefixLen i) (hl ▸ hle)
    have hpfx : ((ospfRunSpf state tbl).1.rib i).pfx = dest := by
      rw [PrefixContains, h32, and_ipv4PrefixMask_32] at hc
      exact hc.symm
    have hospf : ((ospfRunSpf state tbl).1.rib i).IsOspf := by
      refine ⟨hv, ?_⟩
      by_contra hproto
      obtain ⟨hp, hl', hpr, hva, -⟩ :=
        RouteRibEntry.core_eq_iff.mp (ospfRunSpf_others h hv hproto)
      exact hproto (hpr.trans (howns i (hva ▸ hv) (hp ▸ hpfx) (hl' ▸ h32)))
    have hmem : ((ospfRunSpf state tbl).1.rib i).route ∈ spfRouteSet state := by
      rw [← hset]
      exact ⟨i, hospf, rfl⟩
    obtain ⟨hop, k, hdist, hvia, hk, hip, hif⟩ := spfRouteSet_sound hmem
    have hdest' : ((ospfRunSpf state tbl).1.rib i).route.dest = dest := hpfx
    rw [hdest'] at hdist hvia
    rw [hdist.unique hd] at hvia
    exact ⟨f, hop, k, rfl, hvia, hk, hnext.trans hip, hiface.trans hif⟩

end

/-! ## The domain -/

/-- A router of the domain: which one it is in the topology, its OSPF instance, and its table
    before the SPF run. -/
structure OspfNode where
  router : RouterRef
  state : OspfState
  before : RouteTable

variable {R : Type*}

/-- The interface belongs to the router. -/
structure OspfNode.Owns (t : Topology) (n : OspfNode) (a : IfaceRef) : Prop where
  handler : (t.iface a).rxHandler = some (.router n.router)
  enabled : (t.iface a).errDisabled = false

/-- The record of this neighbor leads to an interface of it. -/
def OspfNode.Reaches (t : Topology) (n n' : OspfNode) (k : Fin ospfMaxNeighbors) (b : IfaceRef) :
    Prop :=
  ∃ out, (n.state.neighbors k).iface = some out ∧ (n.state.neighbors k).ipAddr = (t.iface b).ipAddr ∧
    (t.iface b).ipAddr ≠ 0 ∧ (t.iface out).errDisabled = false ∧ LinksTo t out b ∧ n'.Owns t b

/-- All routers have the same links in their databases and use the table of their last SPF run.
    A link is never for free and leads to a neighbor that is up, whose record is right. The id of
    a router is an address of this router, and nobody but OSPF has a route to it. -/
structure OspfConverged (t : Topology) (node : R → OspfNode) : Prop where
  ids : Function.Injective fun r => (node r).state.routerId
  isLocal : ∀ r s, routerIpIsLocal t (t.router (node r).router) (node s).state.routerId =
    true ↔ r = s
  unicast : ∀ r, routerIpIsControlMulticast (node r).state.routerId = false
  ran : ∀ r, (ospfRunSpf (node r).state (node r).before).2 = 0
  table : ∀ r, (t.router (node r).router).routeTbl =
    (ospfRunSpf (node r).state (node r).before).1
  before : ∀ r, TableOk (node r).before
  owns : ∀ r s, OspfOwns (node r).before (node s).state.routerId
  synced : ∀ r s, P2pLink (node r).state = P2pLink (node s).state
  metric : ∀ r a b w, P2pLink (node r).state a b w → 0 < w
  adjacent : ∀ r b w, P2pLink (node r).state (node r).state.routerId b w →
    ∃ s, (node s).state.routerId = b ∧ (ospfLiveNeighbor (node r).state b).isSome
  hello : ∀ r s k, ospfLiveNeighbor (node r).state (node s).state.routerId = some k →
    ∃ b, (node r).Reaches t (node s) k b

/-- The ARP caches know the neighbors. -/
def OspfKnown (t : Topology) (node : R → OspfNode) (net : Net) : Prop :=
  ∀ r s k b, ospfLiveNeighbor (node r).state (node s).state.routerId = some k →
    (node r).Reaches t (node s) k b →
    arpCacheLookup (net.arp (t.router (node r).router).arpCache) (t.iface b).ipAddr =
      some (t.iface b).mac

section
variable {t : Topology} {node : R → OspfNode}

/-- Whatever interface of `r` a packet for `d` arrives on, it goes on to one of `s`. -/
def OspfHop (t : Topology) (node : R → OspfNode) (d r s : R) : Prop :=
  ∃ b, (node s).Owns t b ∧ ∀ a net, (node r).Owns t a → OspfKnown t node net →
    TransitHop t net (node d).state.routerId a b

/-- How far it is from `r` to `d`. -/
def OspfDist (node : R → OspfNode) (d r : R) (n : ℕ) : Prop :=
  IsDist (P2pLink (node r).state) (node r).state.routerId (node d).state.routerId n

/-- One hop: the next router is nearer. -/
theorem OspfConverged.hop (h : OspfConverged t node) {d r : R} {n : ℕ}
    (hd : OspfDist node d r n) : r = d ∨ ∃ s m, OspfHop t node d r s ∧ OspfDist node d s m ∧
      m < n := by
  by_cases hrd : r = d
  · exact .inl hrd
  refine .inr ?_
  have hne : (node d).state.routerId ≠ (node r).state.routerId := fun e => hrd (h.ids e).symm
  have hlive : ∀ b w, P2pLink (node r).state (node r).state.routerId b w →
      (ospfLiveNeighbor (node r).state b).isSome := fun b w e => (h.adjacent r b w e).choose_spec.2
  obtain ⟨f, hop, k, hlookup, hvia, hk, hnext, hiface⟩ :=
    ospfRunSpf_lookup (h.before r) (h.ran r) (h.owns r d) hlive hd hne
  obtain ⟨w, m, hedge, hrest, rfl⟩ := hvia.isDist hd
  obtain ⟨s, rfl, -⟩ := h.adjacent r hop w hedge
  obtain ⟨b, out, hout, hip, hzero, hup, hlinks, howns⟩ := h.hello r s k hk
  refine ⟨s, m, ⟨b, howns, fun a net ha hknown => ⟨ha.enabled, h.unicast d,
    (node r).router, f, out, ha.handler, ?_, ?_, hiface.trans hout, ?_, hup, hlinks⟩⟩, ?_, ?_⟩
  · rw [← Bool.not_eq_true, h.isLocal]
    exact hrd
  · rw [h.table]
    exact hlookup
  · rw [hnext, hip, if_pos hzero]
    exact hknown r s k b hk ⟨out, hout, hip, hzero, hup, hlinks, howns⟩
  · unfold OspfDist
    rw [h.synced s r]
    exact hrest
  · have := h.metric r _ _ w hedge
    omega

/-- A way from router to router is a way from interface to interface. -/
theorem transitPath_of_hops {d : R} {rs : List R} : ∀ {nets : ℕ → Net} {r : R} {a : IfaceRef},
      (∀ k, OspfKnown t node (nets k)) → (r :: rs).IsChain (OspfHop t node d) →
      (r :: rs).getLast? = some d → (node r).Owns t a → ∃ path b, path.length = rs.length ∧
        TransitPath t nets (node d).state.routerId (a :: path) ∧
        (a :: path).getLast? = some b ∧ (node d).Owns t b := by
  induction rs with
  | nil =>
    intro nets r a _ _ hlast ha
    obtain rfl : r = d := Option.some.inj hlast
    exact ⟨[], a, rfl, trivial, rfl, ha⟩
  | cons s rs ih =>
    intro nets r a hknown hchain hlast ha
    obtain ⟨⟨b, howns, hhop⟩, hrest⟩ := List.isChain_cons_cons.mp hchain
    rw [List.getLast?_cons_cons] at hlast
    obtain ⟨path, c, hlen, hpath, hend, hc⟩ :=
      ih (fun k => hknown (k + 1)) hrest hlast howns
    refine ⟨b :: path, c, by simp [hlen], ⟨hhop a (nets 0) ha (hknown 0), hpath⟩, ?_, hc⟩
    rw [List.getLast?_cons_cons]
    exact hend

/-- In a domain that has converged there is a way from every router to each router that its links
    reach: every hop is nearer, no router comes twice, and a packet for that router goes it
    from whatever interface it arrives on. -/
theorem OspfConverged.path (h : OspfConverged t node) {r d : R} {n : ℕ} (hd : OspfDist node d r n) :
    ∃ rs : List R, (r :: rs).Nodup ∧ rs.length ≤ n ∧
      ∀ nets : ℕ → Net, (∀ k, OspfKnown t node (nets k)) → ∀ a, (node r).Owns t a →
        ∃ path b, path.length = rs.length ∧
          TransitPath t nets (node d).state.routerId (a :: path) ∧
          (a :: path).getLast? = some b ∧ (node d).Owns t b := by
  have hnearer : ∀ r n, OspfDist node d r n →
      r = d ∨ ∃ s m, OspfHop t node d r s ∧ OspfDist node d s m ∧ m < n := fun r n hd => h.hop hd
  have hunique : ∀ r n m, OspfDist node d r n → OspfDist node d r m → n = m :=
    fun r n m hn hm => IsDist.unique hn hm
  obtain ⟨rs, d', hchain, hlast, rfl, hlen⟩ := exists_descent hnearer n r hd
  refine ⟨rs, nodup_of_descent hunique hchain, hlen, fun nets hknown a ha => ?_⟩
  exact transitPath_of_hops hknown (hchain.imp fun _ _ hab => hab.1) hlast ha

/-- So a datagram for the id of a router at the distance `n` is handed to the socket there, after
    at most `n` hops and fewer than there are routers, if the domain has at most 64. -/
theorem ospfDomain_delivers [Fintype R] (h : OspfConverged t node) (hsize : Fintype.card R ≤ 64)
    {r d : R} {n : ℕ} (hd : OspfDist node d r n) {nets : ℕ → Net}
    (hknown : ∀ k, OspfKnown t node (nets k)) {a : IfaceRef} (ha : (node r).Owns t a)
    {srcIp : UInt32} {srcPort dstPort : UInt16} {payload : List UInt8}
    (hlen : payload.length ≤ 65535 - udpHdrLen) {e : NetEvent}
    (hwire : OnWireTo t a ((ipSentHeader srcIp (node d).state.routerId ipprotoUdp
      (udpDatagram srcPort dstPort payload).length).bytes ++ udpDatagram srcPort dstPort payload) e)
    {ctx : UdpRef} {i : Fin udpMaxSockets}
    (hstack : t.ipStack (t.router (node d).router).ipStack ipprotoUdp = some (.udpReceive ctx))
    (hport : udpFind (t.udp ctx).sockets dstPort = some i) :
    ∃ (hops : ℕ) (b : IfaceRef) (events : ℕ → NetEvent), hops ≤ n ∧ hops < Fintype.card R ∧
      (node d).Owns t b ∧ events 0 = e ∧
      (∀ k < hops, Forwards t (nets k) (events k) (events (k + 1))) ∧
      ∀ net, ∃ frame pkt, pkt.bytes = payload ∧
        (netDispatch t net (events hops)).calls = net.calls ++
          [.rxHandler b frame ethertypeIpv4,
            .udpRecv ((t.udp ctx).sockets i).recvHandler b srcIp srcPort pkt] := by
  obtain ⟨rs, hnodup, hle, hway⟩ := h.path hd
  obtain ⟨path, b, hpath, htransit, hlast, hb⟩ := hway nets hknown a ha
  have hcard : (r :: rs).length ≤ Fintype.card R := hnodup.length_le_card
  rw [List.length_cons, ← hpath] at hcard
  rw [← hpath] at hle
  have hkeeps : KeepsLocal t b (node d).state.routerId (t.router (node d).router).ipStack :=
    ⟨hb.enabled, .inr ⟨_, hb.handler, (h.isLocal d d).mpr rfl, rfl⟩⟩
  obtain ⟨events, hfirst, hevents, hend⟩ := transitPath_carries htransit hlast hwire
    (ipSentHeader_valid ..) rfl (show path.length < 64 by omega)
  exact ⟨path.length, b, events, hle, by omega, hb, hfirst, hevents,
    fun net => netDispatch_udpLocal (by omega) hlen hend hkeeps hstack hport net⟩

end

/-- The ids of the two routers of a line; each is the address of the outer interface. -/
def exampleDomainId (r : ℕ) : UInt32 := if r = 0 then 0x0A000002 else 0x0A000005

/-- The LSAs of the two routers, with a link to each other. -/
def exampleDomainLsdb (i : Fin ospfLsdbSize) : OspfLsaEntry where
  lsaId := exampleDomainId i
  advRouter := exampleDomainId i
  seqNum := 1
  lsaType := ospfLsaTypeRouter
  valid := i.val < 2
  links := fun _ => { linkId := exampleDomainId (1 - i), type := ospfLinkP2p, metric := 10 }
  linkCount := ⟨1, one_lt_ospfMaxLsaLinks⟩

/-- The instance of router `r`: the interfaces 2 and 3 are on the link in the middle. -/
def exampleDomainState (r : ℕ) : OspfState :=
  { ospfInit (exampleDomainId r) with
    lsdb := exampleDomainLsdb
    neighbors := fun i =>
      { routerId := exampleDomainId (1 - r), ipAddr := if r = 0 then 0x0A000004 else 0x0A000003,
        state := .full, iface := some (if r = 0 then 2 else 3), valid := i.val = 0 } }

def exampleDomainNode (r : Fin 2) : OspfNode := ⟨r, exampleDomainState r, routeTableInit⟩

/-- The line of hosts and routers, with the routes of OSPF. -/
def exampleDomain : Topology :=
  { exampleLine with
    router := fun r =>
      { exampleLine.router r with
        routeTbl := (ospfRunSpf (exampleDomainState r) routeTableInit).1 } }

theorem p2pLink_exampleDomain {r : ℕ} {a b : UInt32} {w : ℕ}
    (h : P2pLink (exampleDomainState r) a b w) :
    ∃ i < 2, a = exampleDomainId i ∧ b = exampleDomainId (1 - i) ∧ w = 10 := by
  obtain ⟨i, j, hlsa, rfl, hj, -, rfl, rfl⟩ := h
  have hlt : i.val < 2 := by
    have hvalid : (decide (i.val < 2) && true) = true := hlsa
    simpa using hvalid
  exact ⟨i, hlt, rfl, rfl, rfl⟩

/-- The only live neighbor is the other router. -/
theorem ospfLiveNeighbor_exampleDomain {r s : Fin 2} {k : Fin ospfMaxNeighbors}
    (h : ospfLiveNeighbor (exampleDomainState r) (exampleDomainId s) = some k) :
    r = 0 ∧ s = 1 ∨ r = 1 ∧ s = 0 := by
  obtain ⟨-, hid, -⟩ := ospfLiveNeighbor_eq_some h
  have hother : ∀ r s : Fin 2, exampleDomainId (1 - r.val) = exampleDomainId s →
      r = 0 ∧ s = 1 ∨ r = 1 ∧ s = 0 := by decide
  exact hother r s hid

theorem ospfConverged_exampleDomain : OspfConverged exampleDomain exampleDomainNode where
  ids := by
    show Function.Injective fun r : Fin 2 => exampleDomainId r
    decide
  isLocal := by
    have h : ∀ r s : Fin 2, ((exampleLine.router r).interfaces.any fun i =>
        (exampleLine.iface i).ipAddr == exampleDomainId s) = true ↔ r = s := by decide
    exact h
  unicast := by decide
  ran := by decide +kernel
  table _ := rfl
  before _ := tableOk_init
  owns _ _ i hv := by cases hv
  synced _ _ := rfl
  metric r a b w h := by
    obtain ⟨-, -, -, -, rfl⟩ := p2pLink_exampleDomain h
    decide
  adjacent r b w h := by
    have hother : ∀ (r : Fin 2) (i : ℕ), i < 2 → exampleDomainId r = exampleDomainId i →
        exampleDomainId (1 - i) = exampleDomainId (1 - r : Fin 2) ∧
          (ospfLiveNeighbor (exampleDomainState r) (exampleDomainId (1 - i))).isSome := by
      decide +kernel
    obtain ⟨i, hi, hid, rfl, -⟩ := p2pLink_exampleDomain h
    obtain ⟨h1, h2⟩ := hother r i hi hid
    exact ⟨1 - r, h1.symm, h2⟩
  hello r s k h := by
    obtain ⟨rfl, rfl⟩ | ⟨rfl, rfl⟩ := ospfLiveNeighbor_exampleDomain h
    · exact ⟨3, 2, rfl, rfl, by decide, rfl, ⟨⟨1, rfl, rfl, rfl⟩, rfl⟩, ⟨rfl, rfl⟩⟩
    · exact ⟨2, 3, rfl, rfl, by decide, rfl, ⟨⟨1, rfl, rfl, rfl⟩, rfl⟩, ⟨rfl, rfl⟩⟩

/-- Both routers know each other's interface on the link. -/
theorem ospfKnown_exampleDomain : OspfKnown exampleDomain exampleDomainNode (exampleLineNet 3) := by
  intro r s k b h hreach
  obtain ⟨out, hout, -, -, -, hlinks, -⟩ := hreach
  obtain ⟨rfl, rfl⟩ | ⟨rfl, rfl⟩ := ospfLiveNeighbor_exampleDomain h
  · obtain rfl : out = 2 := (Option.some.inj hout).symm
    obtain rfl : b = 3 := hlinks.unique ⟨⟨1, rfl, rfl, rfl⟩, rfl⟩
    decide +kernel
  · obtain rfl : out = 3 := (Option.some.inj hout).symm
    obtain rfl : b = 2 := hlinks.unique ⟨⟨1, rfl, rfl, rfl⟩, rfl⟩
    decide +kernel

theorem ospfDist_exampleDomain : OspfDist exampleDomainNode 1 0 10 := by
  have hset : ospfRoutes (ospfRunSpf (exampleDomainState 0) routeTableInit).1 =
      spfRouteSet (exampleDomainState 0) := ospfRunSpf_routeSet (by decide +kernel)
  have hmem : ((ospfRunSpf (exampleDomainState 0) routeTableInit).1.rib 0).route ∈
      spfRouteSet (exampleDomainState 0) := by
    rw [← hset]
    exact ⟨0, ⟨by decide +kernel, by decide +kernel⟩, rfl⟩
  obtain ⟨-, -, hdist, -⟩ := spfRouteSet_sound hmem
  have hdest : ((ospfRunSpf (exampleDomainState 0) routeTableInit).1.rib 0).route.dest =
      exampleDomainId 1 := by decide +kernel
  have hmetric : ((ospfRunSpf (exampleDomainState 0) routeTableInit).1.rib 0).route.metric.toNat =
      10 := by decide +kernel
  rw [hdest, hmetric] at hdist
  exact hdist

theorem ospfDomain_delivers_exampleDomain :
    ∃ (hops : ℕ) (b : IfaceRef) (events : ℕ → NetEvent), hops < 2 ∧
      (exampleDomainNode 1).Owns exampleDomain b ∧ events 0 = exampleLineEvent 0x0A000005 ∧
      ∃ frame pkt, pkt.bytes = [1, 2, 3] ∧
        (netDispatch exampleDomain (exampleLineNet 3) (events hops)).calls =
          [.rxHandler b frame ethertypeIpv4, .udpRecv (.app 0) b 0x0A000001 4000 pkt] := by
  have hport : udpFind (exampleDomain.udp 1).sockets 4001 = some 0 := by
    show udpFind (fun _ => { port := 4001, valid := true }) 4001 = some 0
    decide +kernel
  have hwire : OnWireTo exampleDomain 1 ((ipSentHeader 0x0A000001 0x0A000005 ipprotoUdp
      (udpDatagram 4000 4001 [1, 2, 3]).length).bytes ++ udpDatagram 4000 4001 [1, 2, 3])
      (exampleLineEvent 0x0A000005) :=
    ⟨0, ⟨2, 0, 0, 0, 0, 1⟩, rfl, rfl, rfl, rfl, _, rfl, bytes_packetFill _ _, rfl⟩
  have howns : (exampleDomainNode 0).Owns exampleDomain 1 := ⟨rfl, rfl⟩
  obtain ⟨hops, b, events, -, hlt, hb, hfirst, -, hend⟩ :=
    ospfDomain_delivers ospfConverged_exampleDomain (by decide) ospfDist_exampleDomain
      (fun _ => ospfKnown_exampleDomain) howns (by decide) hwire rfl hport
  exact ⟨hops, b, events, hlt, hb, hfirst, hend (exampleLineNet 3)⟩

end FrameRunner
