import FrameRunner.Lib.Announce
import FrameRunner.Rip.Chunks
import FrameRunner.Rip.NextHop
import FrameRunner.Rip.Replacement
import FrameRunner.Rip.Timers

/-!
# The walks that RIP routes take

`rip_receive` adds one to the metric that it is told, and `rip_send_update` does not send an entry
on the interface that it was learned on. So an entry has come to a router along a walk over the
links that does not turn back on a link, and its metric counts the links of that walk. Where the
links form no cycle, that walk is the shortest one: nobody counts to infinity, and the routes to a
network never go round in a circle.

Two things are taken as given here. An update that reaches a router is handed to `rip_receive`,
whereas `router_receive` does so only where 224.0.0.9 is an address of the router. And a router
sends on interfaces whose address `ip_find_source_iface` finds: with two interfaces of one address
the update would leave on the first.

Main results:

* `ripRoute_walk`: the walk of every route of every router, in every run.
* `ripForest_routes`: the routes to a network where the links form no cycle.
-/

namespace FrameRunner

open FrameRunner.Lib

/-! ## One entry of an update -/

/-- All that an update schedules is on the wire, on the interface with the address. -/
theorem ripSendUpdate_wire (t : Topology) (net : Net) (state : RipState) (outIface : IfaceRef) :
    ∀ e, Made net (ripSendUpdate t net state outIface).1 (.schedule e) → RipOnWire t outIface e := by
  have I := ripSendEntries_inv t net state outIface
  unfold ripSendUpdate
  generalize Slots.forEach ripDbSize (ripSendEntry t state outIface) (net, [], false) = acc at I
  obtain ⟨net', entries, failed⟩ := acc
  dsimp only
  split
  · exact I.wire
  split
  · intro e he
    have hsends := ripSendPayload_sends t net' outIface entries
    rcases (I.sends.made_trans hsends _).mp he with he | he
    · exact I.wire e he
    · rcases ripSendPayload_cases t net' outIface (le_of_lt I.short) with
        ⟨-, hnone⟩ | ⟨-, e', hwire, hmade⟩
      · exact absurd he (hnone e)
      · rw [(hmade e).mp he]
        exact hwire
  · exact I.wire

/-- The database after one entry of an update: a slot is as before, or the entry is about it. -/
theorem ripReceiveEntry_told (iface : IfaceRef) (srcIp : UInt32) (now : UInt64) (s : RipRouter)
    (e : RipEntry) (j : Fin ripDbSize) :
    (ripReceiveEntry iface srcIp now s e).rip.db j = s.rip.db j ∨
      (e.Names (ripKeyed.key ((ripReceiveEntry iface srcIp now s e).rip.db j)) ∧
        ((ripReceiveEntry iface srcIp now s e).rip.db j).learnedOn = some iface ∧
        ((ripReceiveEntry iface srcIp now s e).rip.db j).metric = ripCandidateMetric e.metric) := by
  by_cases hn : e.Names (ripKeyed.key ((ripReceiveEntry iface srcIp now s e).rip.db j))
  swap
  · exact .inl (ripReceiveEntry_unnamed hn)
  rcases ripReceiveEntry_cases iface srcIp now s e with he | ⟨i, hi, he⟩ | ⟨k, i, -, he⟩
  · rw [he]
    exact .inl rfl
  · by_cases hji : j = i
    swap
    · rw [he]
      exact .inl (Function.update_of_ne hji _ _)
    subst hji
    have hkey : e.Names (ripKeyed.key (s.rip.db j)) := by
      rw [he] at hn
      simpa [RipRouter.retire, ripKeyed] using hn
    obtain ⟨j', hfind⟩ : ∃ j', ripFind s.rip (s.rip.db j).pfx (s.rip.db j).prefixLen = some j' := by
      rw [ripFind_eq]
      exact Option.ne_none_iff_exists'.mp fun hnone => Keyed.find_eq_none_iff.mp hnone j hi rfl
    have hknown : ripReceiveEntry iface srcIp now s e = s.replace iface srcIp now e _ j' :=
      ripReceiveEntry_known hkey hfind
    by_cases hmetric : ripCandidateMetric e.metric = ripInfinity
    · refine .inr ⟨hn, ?_⟩
      rw [he, hmetric]
      simp [RipRouter.retire]
    · unfold RipRouter.replace at hknown
      rw [if_neg hmetric] at hknown
      rw [hknown] at hn ⊢
      by_cases hjj : j = j'
      · subst hjj
        refine .inr ⟨hn, ?_⟩
        simp [RipRouter.install, RipEntry.route]
      · exact .inl (Function.update_of_ne hjj _ _)
  · rw [he] at hn ⊢
    by_cases hji : j = i
    · subst hji
      refine .inr ⟨hn, ?_⟩
      simp [RipRouter.install, RipEntry.route]
    · exact .inl (Function.update_of_ne hji _ _)

/-- The RIP routes after one entry of an update: those from before, and the one installed. -/
theorem ripReceiveEntry_routes {s : RipRouter} (h : TableOk s.rt) {iface : IfaceRef}
    {srcIp : UInt32} {now : UInt64} {e : RipEntry} {k : UInt32 × UInt8} {v : RibValue}
    (hv : protoRoutes (ripReceiveEntry iface srcIp now s e).rt routeProtoRip k = some v) :
    protoRoutes s.rt routeProtoRip k = some v ∨
      (e.Names k ∧ v.iface = some iface ∧ v.metric = ripCandidateMetric e.metric ∧
        v.metric.toNat ≤ 15) := by
  rcases ripReceiveEntry_cases iface srcIp now s e with he | ⟨i, -, he⟩ | ⟨k', i, hi, he⟩
  · rw [he] at hv
    exact .inl hv
  · rw [he] at hv
    exact .inl (protoRoutes_of_delete h hv)
  · rw [he] at hv
    have hadd := h.rib.protoRoutes_add routeProtoRip k'.1 (e.hop srcIp)
      (ripCandidateMetric e.metric) (Option.isSome_some (a := iface)) hi.names.prefixLen (by decide)
    rw [hi.names.normalized] at hadd
    rcases hadd with ⟨-, hroutes⟩ | ⟨hfull, -⟩
    · have hv := (congrFun hroutes k).symm.trans hv
      rw [Function.update_apply] at hv
      split at hv
      · rename_i hk
        rw [← Option.some.inj hv, hk]
        exact .inr ⟨hi.names, rfl, rfl, (ripCandidateMetric_range hi.metric).2⟩
      · exact .inl hv
    · have hrt : (s.install i (e.route iface srcIp now k')).rt = s.rt := congrArg Prod.fst hfull
      rw [hrt] at hv
      exact .inl hv

/-- A router that takes an entry has one hop more. -/
theorem ripCandidateMetric_succ {metric : UInt32} (h : ripCandidateMetric metric < ripInfinity) :
    metric < ripInfinity ∧ (ripCandidateMetric metric).toNat = metric.toNat + 1 := by
  have hinf : ripInfinity.toNat = 16 := rfl
  have hlt : (ripCandidateMetric metric).toNat < 16 := h
  unfold ripCandidateMetric at hlt ⊢
  dsimp only at hlt ⊢
  split_ifs at hlt ⊢ with hlarge hgt hgt'
  · omega
  · exact absurd hlt (by decide)
  · omega
  · have hle : metric.toNat ≤ 16 := by
      have := UInt32.not_lt.mp hlarge
      exact this
    have hadd : (metric + 1).toNat = metric.toNat + 1 := by
      rw [UInt32.toNat_add]
      exact Nat.mod_eq_of_lt (by show metric.toNat + 1 < 4294967296; omega)
    refine ⟨?_, hadd⟩
    show metric.toNat < 16
    omega

/-- An entry of an update is about the network of the entry that it was written from. -/
theorem RipEntryOk.names {now : UInt64} {entry : RipRouteInfo} (h : RipEntryOk now entry)
    {k : UInt32 × UInt8} (hn : entry.advert.Names k) : k = ripKeyed.key entry := by
  have hlen : k.2 = entry.prefixLen := by
    have hmask : ipMaskToPrefixLen entry.advert.subnetMask = some entry.prefixLen :=
      ipMaskToPrefixLen_mask h.prefixLen
    exact Option.some.inj (hn.mask.symm.trans hmask)
  have hpfx : k.1 = entry.pfx := by
    rw [hn.pfx, hlen]
    exact h.normalized
  exact Prod.ext hpfx hlen

/-! ## A network of routers -/

/-- RIP routers, the links between them, and the interface of each router on each of its links. -/
structure RipLinks where
  graph : SimpleGraph RipRef
  iface : RipRef → RipRef → IfaceRef

/-- The interface of `r` towards `q`, as `learned_on` names it. -/
def RipLinks.port (L : RipLinks) (r q : RipRef) : Option IfaceRef := some (L.iface r q)

/-- What a router was told from outside: it reaches the network with this metric, through the
    interface. -/
structure RipFact where
  router : RipRef
  iface : IfaceRef
  network : UInt32 × UInt8
  metric : UInt32

/-- What a payload tells a router. -/
def ripFacts (r : RipRef) (iface : IfaceRef) (payload : List UInt8) : Set RipFact :=
  {f | f.router = r ∧ f.iface = iface ∧
    ∃ e ∈ ripEntries payload, e.Names f.network ∧ f.metric = ripCandidateMetric e.metric}

/-- The packet path, the routers on it, and what they were told from outside. -/
structure RipArea where
  net : Net
  routers : RipRef → RipRouter
  told : Set RipFact

/-- The routers after `rip_init`. -/
def RipArea.start : RipArea := ⟨netInit, fun _ => ripRouterInit, ∅⟩

/-- A router sends an update on an interface; an event brings an update over the link from `r` to
    `q`; an update comes in from outside; something else happens to a router; or RIP is enabled on
    an interface. -/
inductive RipInput where
  | send (r : RipRef) (outIface : IfaceRef)
  | receive (e : NetEvent) (r q : RipRef) (srcIp : UInt32) (message : List UInt8) (now : UInt64)
  | outside (r : RipRef) (iface : IfaceRef) (srcIp : UInt32) (payload : List UInt8) (now : UInt64)
  | call (r : RipRef) (c : UInt64 × RipCall)
  | enable (r : RipRef) (iface : IfaceRef)

/-- The area with another state of a router. -/
def RipArea.put (s : RipArea) (r : RipRef) (router : RipRouter) : RipArea :=
  { s with routers := Function.update s.routers r router }

/-- One step. -/
def RipLinks.step (L : RipLinks) (t : Topology) (s : RipArea) : RipInput → RipArea
  | .send r outIface => { s with net := (ripSendUpdate t s.net (s.routers r).rip outIface).1 }
  | .receive _ r q srcIp message now =>
    s.put q (ripReceive (s.routers q) (L.iface q r) srcIp message now)
  | .outside r iface srcIp payload now =>
    { s.put r (ripReceive (s.routers r) iface srcIp payload now) with
      told := s.told ∪ ripFacts r iface payload }
  | .call r c => s.put r (ripStep (s.routers r) c)
  | .enable r iface => s.put r ⟨(ripEnableIface (s.routers r).rip iface).1, (s.routers r).rt⟩

/-- A router sends on interfaces of its own, which `ip_find_source_iface` finds by their address;
    what comes in over a link was sent, possibly long ago, and may come in again; and what comes from
    outside does not come over the links. -/
def RipLinks.Good (L : RipLinks) (t : Topology) (s : RipArea) : RipInput → Prop
  | .send r outIface => ipFindSourceIface t (t.iface outIface).ipAddr = some outIface ∧
      ∀ r' q, L.graph.Adj r' q → L.iface r' q = outIface → r' = r
  | .receive e r q srcIp message _ => .schedule e ∈ s.net.calls ∧ L.graph.Adj r q ∧
      OnWire (L.iface r q) (L.iface q r) (ripFrame t (L.iface r q) srcIp message) e
  | .outside _ iface _ _ _ => ∀ r q, L.graph.Adj r q → L.iface r q ≠ iface
  | .call _ c => ∀ iface srcIp payload, c.2 ≠ .receive iface srcIp payload
  | .enable _ _ => True

/-- An entry or a route of `r` for the network `k` stems from a fact that a router was told: it has
    come along a walk that does not turn back, and the metric counts its links. -/
def RipLinks.Stems (L : RipLinks) (told : Set RipFact) (r : RipRef) (k : UInt32 × UInt8)
    (learnedOn : Option IfaceRef) (metric : UInt32) : Prop :=
  ∃ f ∈ told, ∃ n, f.network = k ∧
    Announced L.graph L.port f.router (some f.iface) r learnedOn n ∧
    (metric < ripInfinity → f.metric.toNat + n = metric.toNat)

/-- All entries and RIP routes of `r` stem from facts. -/
structure RipLinks.NodeOk (L : RipLinks) (told : Set RipFact) (r : RipRef) (s : RipRouter) :
    Prop where
  ok : RipOk uint64Max s.rip
  table : TableOk s.rt
  db : ∀ i, (s.rip.db i).valid = true →
    L.Stems told r (ripKeyed.key (s.rip.db i)) (s.rip.db i).learnedOn (s.rip.db i).metric
  routes : ∀ k v, protoRoutes s.rt routeProtoRip k = some v →
    L.Stems told r k v.iface v.metric ∧ v.metric.toNat ≤ 15

/-- An entry of an update from `r` to `q` is about what `r` did not learn on that link. -/
def RipLinks.TellsOk (L : RipLinks) (told : Set RipFact) (r q : RipRef) (e : RipEntry) : Prop :=
  ∀ k, e.Names k → ∃ learnedOn, learnedOn ≠ L.port r q ∧ L.Stems told r k learnedOn e.metric

/-- The invariant of the area. -/
structure RipLinks.Ok (L : RipLinks) (t : Topology) (s : RipArea) : Prop where
  routers : ∀ r, L.NodeOk s.told r (s.routers r)
  updates : ∀ {e r q dst srcIp message}, .schedule e ∈ s.net.calls → L.graph.Adj r q →
    OnWire (L.iface r q) dst (ripFrame t (L.iface r q) srcIp message) e →
    ∀ entry ∈ ripEntries message, L.TellsOk s.told r q entry
  outside : ∀ f ∈ s.told, ∀ r q, L.graph.Adj r q → L.iface r q ≠ f.iface

/-! ## A router -/

section
variable {L : RipLinks} {t : Topology} {told told' : Set RipFact} {r q : RipRef}

theorem RipLinks.Stems.mono {k : UInt32 × UInt8} {learnedOn : Option IfaceRef} {metric : UInt32}
    (h : L.Stems told r k learnedOn metric) (hsub : told ⊆ told') :
    L.Stems told' r k learnedOn metric := by
  obtain ⟨f, hf, hrest⟩ := h
  exact ⟨f, hsub hf, hrest⟩

/-- What is no longer reachable has still come along its walk. -/
theorem RipLinks.Stems.poisoned {k : UInt32 × UInt8} {learnedOn : Option IfaceRef} {metric : UInt32}
    (h : L.Stems told r k learnedOn metric) : L.Stems told r k learnedOn ripInfinity := by
  obtain ⟨f, hf, n, hkey, hwalk, -⟩ := h
  exact ⟨f, hf, n, hkey, hwalk, fun hlt => absurd hlt (by decide)⟩

theorem RipLinks.NodeOk.mono {s : RipRouter} (h : L.NodeOk told r s) (hsub : told ⊆ told') :
    L.NodeOk told' r s where
  ok := h.ok
  table := h.table
  db i hi := (h.db i hi).mono hsub
  routes k v hv := ⟨(h.routes k v hv).1.mono hsub, (h.routes k v hv).2⟩

theorem RipLinks.nodeOk_init (r : RipRef) : L.NodeOk told r ripRouterInit where
  ok := ripOk_init _
  table := tableOk_init
  db i hi := by cases hi
  routes k v hv := by
    obtain ⟨i, hi, -⟩ := tableOk_init.rib.protoRoutes_eq_some_iff.mp hv
    cases hi

/-- The entry brings `q` what is known, through the interface. -/
def RipLinks.Brings (L : RipLinks) (told : Set RipFact) (q : RipRef) (iface : IfaceRef)
    (e : RipEntry) : Prop :=
  ∀ k, e.Names k → L.Stems told q k (some iface) (ripCandidateMetric e.metric)

/-- The receiver of an entry is one link further on. -/
theorem RipLinks.TellsOk.brings {e : RipEntry} (h : L.TellsOk told r q e)
    (hadj : L.graph.Adj r q) : L.Brings told q (L.iface q r) e := by
  intro k hn
  obtain ⟨learnedOn, honward, f, hf, n, hkey, hwalk, hcount⟩ := h k hn
  refine ⟨f, hf, n + 1, hkey, hwalk.pass hadj honward, fun hlt => ?_⟩
  obtain ⟨hsent, hsucc⟩ := ripCandidateMetric_succ hlt
  rw [hsucc, ← hcount hsent, Nat.add_assoc]

/-- An entry from outside is a fact of its own. -/
theorem ripFacts_brings {iface : IfaceRef} {payload : List UInt8} {e : RipEntry}
    (he : e ∈ ripEntries payload) : L.Brings (ripFacts q iface payload) q iface e :=
  fun k hn => ⟨⟨q, iface, k, ripCandidateMetric e.metric⟩, ⟨rfl, rfl, e, he, hn, rfl⟩, 0, rfl,
    .start, fun _ => rfl⟩

theorem RipLinks.NodeOk.receiveEntry {s : RipRouter} (h : L.NodeOk told q s) {e : RipEntry}
    {iface : IfaceRef} (he : L.Brings told q iface e) (srcIp : UInt32) (now : UInt64) :
    L.NodeOk told q (ripReceiveEntry iface srcIp now s e) := by
  refine ⟨h.ok.receiveEntry (le_uint64Max now) _ _ _, ?_, fun j hj => ?_, fun k v hv => ?_⟩
  · rcases ripReceiveEntry_cases iface srcIp now s e with he | ⟨i, -, he⟩ | ⟨k, i, -, he⟩
    · rw [he]
      exact h.table
    · rw [he]
      exact h.table.delete ..
    · rw [he]
      exact h.table.add ..
  · rcases ripReceiveEntry_told iface srcIp now s e j with hsame | ⟨hn, hiface, hmetric⟩
    · rw [hsame] at hj ⊢
      exact h.db j hj
    · rw [hiface, hmetric]
      exact he _ hn
  · rcases ripReceiveEntry_routes h.table hv with hv | ⟨hn, hiface, hmetric, hreach⟩
    · exact h.routes k v hv
    · rw [hiface, hmetric]
      exact ⟨he k hn, hmetric ▸ hreach⟩

theorem RipLinks.NodeOk.receive {s : RipRouter} (h : L.NodeOk told q s) {iface : IfaceRef}
    {payload : List UInt8} (he : ∀ e ∈ ripEntries payload, L.Brings told q iface e)
    (srcIp : UInt32) (now : UInt64) :
    L.NodeOk told q (ripReceive s iface srcIp payload now) :=
  run_invariant_mem (L.NodeOk told q) (fun _ e hmem hs => hs.receiveEntry (he e hmem) srcIp now) h

theorem RipLinks.NodeOk.timeoutEntry {s : RipRouter} (h : L.NodeOk told r s) (now : UInt64)
    (i : Fin ripDbSize) : L.NodeOk told r (ripTimeoutEntry now s i) := by
  have hok := h.ok.timeoutEntry (t := now) i
  rcases ripTimeoutEntry_cases now s i with ⟨he, -⟩ | ⟨hv, -, he⟩
  · rw [he]
    exact h
  · rw [he] at hok ⊢
    refine ⟨hok, h.table.delete .., fun j hj => ?_, fun k v hv => h.routes k v
      (protoRoutes_of_delete h.table hv)⟩
    exact Slots.forall_update (p := fun e : RipRouteInfo => e.valid = true →
      L.Stems told r (ripKeyed.key e) e.learnedOn e.metric) h.db (fun _ => (h.db i hv).poisoned) i j hj

theorem RipLinks.NodeOk.gcEntry {state : RipState} {rt : RouteTable}
    (h : L.NodeOk told r ⟨state, rt⟩) (now : UInt64) (i : Fin ripDbSize) :
    L.NodeOk told r ⟨ripGcEntry now state i, rt⟩ := by
  have hok := h.ok.gcEntry (t := now) i
  rcases ripGcEntry_cases now state i with he | ⟨-, -, -, he⟩
  · rw [he]
    exact h
  · rw [he] at hok ⊢
    refine ⟨hok, h.table, fun j hj => ?_, h.routes⟩
    exact Slots.forall_update (p := fun e : RipRouteInfo => e.valid = true →
      L.Stems told r (ripKeyed.key e) e.learnedOn e.metric) h.db
      (fun hcleared => absurd hcleared Bool.false_ne_true) i j hj

theorem RipLinks.NodeOk.call {s : RipRouter} (h : L.NodeOk told r s) {c : UInt64 × RipCall}
    (hc : ∀ iface srcIp payload, c.2 ≠ .receive iface srcIp payload) :
    L.NodeOk told r (ripStep s c) := by
  obtain ⟨now, call⟩ := c
  cases call with
  | receive iface srcIp payload => exact absurd rfl (hc iface srcIp payload)
  | timeout =>
    exact Slots.forEach_invariant (f := ripTimeoutEntry now) (x := s) (L.NodeOk told r) h
      fun i s' hs => hs.timeoutEntry now i
  | gc =>
    exact Slots.forEach_invariant (f := ripGcEntry now) (x := s.rip)
      (fun rip => L.NodeOk told r ⟨rip, s.rt⟩) h fun i rip hs => hs.gcEntry now i
  | other op hop =>
    refine ⟨h.ok, h.table.step op, h.db, fun k v hv => h.routes k v ?_⟩
    rwa [← h.table.rib.protoRoutes_other hop]

theorem RipLinks.NodeOk.enable {s : RipRouter} (h : L.NodeOk told r s) (iface : IfaceRef) :
    L.NodeOk told r ⟨(ripEnableIface s.rip iface).1, s.rt⟩ := by
  obtain ⟨hdb, hcount⟩ := ripEnableIface_frame s.rip iface
  refine ⟨⟨?_, hdb ▸ h.ok.distinct, fun i hi => ?_⟩, h.table, fun i hi => ?_, h.routes⟩
  · rw [hdb, hcount]
    exact h.ok.dbCount
  · rw [hdb] at hi ⊢
    exact h.ok.entries i hi
  · dsimp only at hi ⊢
    rw [hdb] at hi ⊢
    exact h.db i hi

/-- What a router sends of an entry that it did not learn on the link. -/
theorem RipLinks.NodeOk.tells {s : RipRouter} (h : L.NodeOk told r s) {i : Fin ripDbSize}
    (hi : (s.rip.db i).sentOn (L.iface r q) = true) :
    L.TellsOk told r q (s.rip.db i).advert := by
  intro k hn
  obtain ⟨hv, honward⟩ := sentOn_iff.mp hi
  obtain rfl := (h.ok.entries i hv).names hn
  refine ⟨_, honward, ?_⟩
  show L.Stems told r _ _ (if (s.rip.db i).metric > ripInfinity then ripInfinity
    else (s.rip.db i).metric)
  split
  · exact (h.db i hv).poisoned
  · exact h.db i hv

end

/-! ## The area -/

section
variable {L : RipLinks} {t : Topology} {s : RipArea}

theorem RipLinks.ok_start : L.Ok t RipArea.start where
  routers r := RipLinks.nodeOk_init r
  updates he := by cases he
  outside f hf := by cases hf

theorem RipLinks.Ok.put (h : L.Ok t s) {r : RipRef} {router : RipRouter}
    (hr : L.NodeOk s.told r router) : L.Ok t (s.put r router) := by
  refine ⟨fun r' => ?_, h.updates, h.outside⟩
  show L.NodeOk s.told r' (Function.update s.routers r router r')
  by_cases hr' : r' = r
  · subst hr'
    rw [Function.update_self]
    exact hr
  · rw [Function.update_of_ne hr']
    exact h.routers r'

theorem RipLinks.Ok.tell (h : L.Ok t s) {told : Set RipFact}
    (hout : ∀ f ∈ told, ∀ r q, L.graph.Adj r q → L.iface r q ≠ f.iface) :
    L.Ok t { s with told := s.told ∪ told } := by
  refine ⟨fun r => (h.routers r).mono Set.subset_union_left, fun he hadj hw entry hentry k hn => ?_,
    fun f hf => ?_⟩
  · obtain ⟨learnedOn, honward, hstems⟩ := h.updates he hadj hw entry hentry k hn
    exact ⟨learnedOn, honward, hstems.mono Set.subset_union_left⟩
  · rcases hf with hf | hf
    · exact h.outside f hf
    · exact hout f hf

/-- What `rip_send_update` has scheduled for a link. -/
theorem ripSendUpdate_over {state : RipState} {net : Net} {outIface src dst : IfaceRef}
    {e : NetEvent} {srcIp : UInt32} {message : List UInt8}
    (hfind : ipFindSourceIface t (t.iface outIface).ipAddr = some outIface)
    (hmade : Made net (ripSendUpdate t net state outIface).1 (.schedule e))
    (hw : OnWire src dst (ripFrame t src srcIp message) e) :
    src = outIface ∧ ∃ entries, entries.length ≤ ripMaxRoutes ∧ message = ripUpdate entries ∧
      ∀ entry ∈ entries, ∃ i, state.db i = entry ∧ entry.sentOn outIface = true := by
  obtain ⟨src', dst', entries, hmax, hdb, hwire⟩ :=
    (ripSendUpdate_sent t net state outIface).2 e hmade
  obtain ⟨found, dst'', message', hfound, -, -, hwire'⟩ :=
    ripSendUpdate_wire t net state outIface e hmade
  obtain rfl := Option.some.inj (hfind.symm.trans hfound)
  obtain rfl := Option.some.inj (hw.src.symm.trans hwire.src)
  obtain ⟨pkt, hpkt, hbytes, -⟩ := hw.packet
  obtain ⟨pkt', hpkt', hbytes', -⟩ := hwire.packet
  obtain rfl := Option.some.inj (hpkt.symm.trans hpkt')
  obtain ⟨-, rfl⟩ := ripFrame_injective (hbytes.symm.trans hbytes')
  exact ⟨Option.some.inj (hw.src.symm.trans hwire'.src), entries, hmax, rfl, hdb⟩

theorem RipLinks.Ok.send (h : L.Ok t s) {r : RipRef} {outIface : IfaceRef}
    (hfind : ipFindSourceIface t (t.iface outIface).ipAddr = some outIface)
    (hown : ∀ r' q, L.graph.Adj r' q → L.iface r' q = outIface → r' = r) :
    L.Ok t (L.step t s (.send r outIface)) := by
  obtain ⟨more, hcalls, -⟩ := (ripSendUpdate_sent t s.net (s.routers r).rip outIface).1.calls
  refine ⟨h.routers, fun {e r' q dst srcIp message} he hadj hw entry hentry => ?_, h.outside⟩
  have he : .schedule e ∈ (ripSendUpdate t s.net (s.routers r).rip outIface).1.calls := he
  rw [hcalls] at he
  rcases List.mem_append.mp he with he | he
  · exact h.updates he hadj hw entry hentry
  · obtain ⟨hsrc, entries, hmax, rfl, hdb⟩ := ripSendUpdate_over hfind ⟨more, hcalls, he⟩ hw
    obtain rfl := hown r' q hadj hsrc
    rw [ripEntries_update hmax] at hentry
    obtain ⟨_, hmem, rfl⟩ := List.mem_map.mp hentry
    obtain ⟨i, rfl, hi⟩ := hdb _ hmem
    rw [← hsrc] at hi
    exact (h.routers r').tells hi

theorem RipLinks.Ok.step (h : L.Ok t s) {input : RipInput} (hgood : L.Good t s input) :
    L.Ok t (L.step t s input) := by
  cases input with
  | send r outIface => exact h.send hgood.1 hgood.2
  | receive e r q srcIp message now =>
    obtain ⟨he, hadj, hw⟩ := hgood
    exact h.put ((h.routers q).receive
      (fun entry hentry => (h.updates he hadj hw entry hentry).brings hadj) srcIp now)
  | outside r iface srcIp payload now =>
    have houtside : ∀ f ∈ ripFacts r iface payload, ∀ r' q, L.graph.Adj r' q →
        L.iface r' q ≠ f.iface := by
      rintro f ⟨-, hiface, -⟩ r' q hadj
      rw [hiface]
      exact hgood r' q hadj
    have htold := h.tell houtside
    refine htold.put ((htold.routers r).receive (fun e he => ?_) srcIp now)
    exact fun k hn => (ripFacts_brings he k hn).mono Set.subset_union_right
  | call r c => exact h.put ((h.routers r).call hgood)
  | enable r iface => exact h.put ((h.routers r).enable iface)

theorem RipLinks.ok_run {inputs : List RipInput}
    (hgood : Guarded (L.step t) (L.Good t) RipArea.start inputs) :
    L.Ok t (run (L.step t) RipArea.start inputs) :=
  guarded_invariant (L.Ok t) (fun _ _ hg h => h.step hg) inputs _ hgood RipLinks.ok_start

/-- A RIP route of a router, as far as forwarding goes. -/
theorem RipLinks.Ok.route (h : L.Ok t s) {r : RipRef} {k : UInt32 × UInt8} {v : RibValue}
    (hv : protoRoutes (s.routers r).rt routeProtoRip k = some v) :
    ∃ f ∈ s.told, ∃ n, f.network = k ∧
      Announced L.graph L.port f.router (some f.iface) r v.iface n ∧
      f.metric.toNat + n = v.metric.toNat := by
  obtain ⟨⟨f, hf, n, hkey, hwalk, hcount⟩, hle⟩ := (h.routers r).routes k v hv
  have hlt : v.metric.toNat < 16 := by omega
  exact ⟨f, hf, n, hkey, hwalk, hcount hlt⟩

end

/-! ## Results -/

section
variable {L : RipLinks} {t : Topology}

/-- Every RIP route of a router stems from what some router was told of the network from outside:
    there is a walk over the links from that router, which does not turn back on a link and comes
    in on the interface of the route. The metric of the route is the metric told and the length of
    the walk, so it is never below the distance. -/
theorem ripRoute_walk {inputs : List RipInput}
    (hgood : Guarded (L.step t) (L.Good t) RipArea.start inputs) {r : RipRef}
    {k : UInt32 × UInt8} {v : RibValue} :
    let s := run (L.step t) RipArea.start inputs
    protoRoutes (s.routers r).rt routeProtoRip k = some v →
      ∃ f ∈ s.told, f.network = k ∧ ∃ w : L.graph.Walk f.router r,
        w.edges.IsChain (· ≠ ·) ∧
        (∀ e ∈ w.edges.getLast?, ∃ q, e = s(q, r) ∧ v.iface = some (L.iface r q)) ∧
        v.metric.toNat = f.metric.toNat + w.length ∧
        f.metric.toNat + L.graph.dist f.router r ≤ v.metric.toNat ∧ v.metric.toNat ≤ 15 := by
  intro s hv
  have hok := RipLinks.ok_run hgood
  obtain ⟨f, hf, n, hkey, hwalk, hcount⟩ := hok.route hv
  obtain ⟨w, rfl, hchain, hlast⟩ := hwalk.walk
  have hdist := hwalk.dist_le
  exact ⟨f, hf, hkey, w, hchain, hlast, hcount.symm, by omega, ((hok.routers r).routes k v hv).2⟩

/-- The RIP route of `r` for the network goes out on its link to `q`. -/
def RipLinks.Leads (L : RipLinks) (s : RipArea) (k : UInt32 × UInt8) (r q : RipRef) : Prop :=
  ∃ v, protoRoutes (s.routers r).rt routeProtoRip k = some v ∧ L.graph.Adj r q ∧
    v.iface = some (L.iface r q)

/-- Where the links form no cycle and one router alone is told of a network, every route to it has
    as its metric one that the router was told and the distance, in every state of every run. The
    route of another router goes to the neighbor that is closer, so the routes form no circle. -/
theorem ripForest_routes (hG : L.graph.IsAcyclic)
    (hown : ∀ {r q q'}, L.graph.Adj r q → L.graph.Adj r q' → L.iface r q = L.iface r q' → q = q')
    {inputs : List RipInput} (hgood : Guarded (L.step t) (L.Good t) RipArea.start inputs)
    {o : RipRef} {k : UInt32 × UInt8} :
    let s := run (L.step t) RipArea.start inputs
    (∀ f ∈ s.told, f.network = k → f.router = o) →
      (∀ r v, protoRoutes (s.routers r).rt routeProtoRip k = some v →
        ∃ f ∈ s.told, f.network = k ∧ v.metric.toNat = f.metric.toNat + L.graph.dist o r ∧
          (r = o ∧ v.iface = some f.iface ∨
            ∃ q, L.graph.Adj r q ∧ v.iface = some (L.iface r q) ∧
              L.graph.dist o r = L.graph.dist o q + 1)) ∧
        ∀ r, ¬ Relation.TransGen (L.Leads s k) r r := by
  intro s ho
  have hok := RipLinks.ok_run hgood
  have hroute : ∀ r v, protoRoutes (s.routers r).rt routeProtoRip k = some v →
      ∃ f ∈ s.told, f.network = k ∧ v.metric.toNat = f.metric.toNat + L.graph.dist o r ∧
        (r = o ∧ v.iface = some f.iface ∨
          ∃ q, L.graph.Adj r q ∧ v.iface = some (L.iface r q) ∧
            L.graph.dist o r = L.graph.dist o q + 1) := by
    intro r v hv
    obtain ⟨f, hf, n, hkey, hwalk, hcount⟩ := hok.route hv
    obtain rfl := ho f hf hkey
    refine ⟨f, hf, hkey, ?_, ?_⟩
    · rw [← hwalk.eq_dist hG, hcount]
    · rcases hwalk.port_closer hG with ⟨hr, hiface, -⟩ | ⟨q, hadj, hiface, hdist⟩
      · exact .inl ⟨hr, hiface⟩
      · exact .inr ⟨q, hadj, hiface, hdist⟩
  refine ⟨hroute, fun r hcircle => ?_⟩
  have hcloser : ∀ {a b}, L.Leads s k a b → L.graph.dist o b < L.graph.dist o a := by
    rintro a b ⟨v, hv, hadj, hiface⟩
    obtain ⟨f, hf, -, -, ⟨-, hlearned⟩ | ⟨q, hadj', hiface', hdist⟩⟩ := hroute a v hv
    · exact absurd (Option.some.inj (hiface.symm.trans hlearned)) (hok.outside f hf a b hadj)
    · obtain rfl := hown hadj hadj' (Option.some.inj (hiface.symm.trans hiface'))
      omega
  have hdown : ∀ {a b}, Relation.TransGen (L.Leads s k) a b →
      L.graph.dist o b < L.graph.dist o a := by
    intro a b hab
    induction hab with
    | single h => exact hcloser h
    | tail _ h ih => exact (hcloser h).trans ih
  exact lt_irrefl _ (hdown hcircle)

end

/-! ## Two routers -/

/-- Router 0 and router 1, on the interfaces 0 and 1. -/
def exampleRipLinks : RipLinks := ⟨SimpleGraph.edge 0 1, fun r _ => r⟩

theorem exampleRipLinks_acyclic : exampleRipLinks.graph.IsAcyclic := by
  have hfar : ¬ (⊥ : SimpleGraph RipRef).Reachable 0 1 := by
    rw [SimpleGraph.reachable_bot]
    decide
  have h := SimpleGraph.isAcyclic_bot.sup_edge_of_not_reachable hfar
  rwa [bot_sup_eq] at h

theorem exampleRipLinks_adj {r q : RipRef} (h : exampleRipLinks.graph.Adj r q) :
    r = 0 ∧ q = 1 ∨ r = 1 ∧ q = 0 := by
  rw [exampleRipLinks, SimpleGraph.edge_adj] at h
  exact h.1

/-- Router 0 is told of a network, and tells router 1. -/
def exampleRipLinksRun (e : NetEvent) : List RipInput :=
  [.outside 0 3 0xC0A80002 (ripUpdate [{ pfx := 0xAC100000, prefixLen := 16, metric := 1 }]) 0,
    .send 0 0, .receive e 0 1 0x0A000001 exampleRipChainMessage 1]

theorem exampleRipLinksRun_good {e : NetEvent} (he : .schedule e ∈ exampleRipChainNet.calls)
    (hw : OnWire 0 1 (ripFrame exampleRipChain 0 0x0A000001 exampleRipChainMessage) e) :
    Guarded (exampleRipLinks.step exampleRipChain) (exampleRipLinks.Good exampleRipChain)
      RipArea.start (exampleRipLinksRun e) := by
  refine ⟨fun r q hadj => ?_, ⟨by decide, fun r q hadj hr => hr⟩, ⟨?_, ?_, hw⟩, trivial⟩
  · rcases exampleRipLinks_adj hadj with ⟨rfl, -⟩ | ⟨rfl, -⟩
    · show (0 : ℕ) ≠ 3
      decide
    · show (1 : ℕ) ≠ 3
      decide
  · exact he
  · rw [exampleRipLinks, SimpleGraph.edge_adj]
    decide

theorem exampleRipLinksRun_told (e : NetEvent) :
    (run (exampleRipLinks.step exampleRipChain) RipArea.start (exampleRipLinksRun e)).told =
      {⟨0, 3, (0xAC100000, 16), 2⟩} := by
  have hentries : ripEntries (ripUpdate [{ pfx := 0xAC100000, prefixLen := 16, metric := 1 }]) =
      [⟨ripAfiIpv4, 0xAC100000, 0xFFFF0000, 0, 1⟩] := by decide +kernel
  have hmask : ipMaskToPrefixLen 0xFFFF0000 = some 16 := by decide +kernel
  show ∅ ∪ ripFacts 0 3 (ripUpdate [{ pfx := 0xAC100000, prefixLen := 16, metric := 1 }]) = _
  ext ⟨r, x, k, m⟩
  unfold ripFacts
  rw [hentries]
  constructor
  · rintro (hf | ⟨rfl, rfl, e, he, hn, hm⟩)
    · cases hf
    · obtain rfl := List.mem_singleton.mp he
      have hlen : k.2 = 16 := Option.some.inj (hn.mask.symm.trans hmask)
      have hpfx : k.1 = 0xAC100000 := by
        rw [hn.pfx, hlen]
        rfl
      obtain rfl : k = (0xAC100000, 16) := Prod.ext hpfx hlen
      obtain rfl : m = 2 := hm
      rfl
  · rintro ⟨⟩
    exact .inr ⟨rfl, rfl, _, List.mem_singleton_self _, ⟨rfl, hmask, rfl⟩, rfl⟩

theorem exampleRipLinksRun_route {e : NetEvent} (he : .schedule e ∈ exampleRipChainNet.calls)
    (hw : OnWire 0 1 (ripFrame exampleRipChain 0 0x0A000001 exampleRipChainMessage) e) :
    protoRoutes ((run (exampleRipLinks.step exampleRipChain) RipArea.start
      (exampleRipLinksRun e)).routers 1).rt routeProtoRip (0xAC100000, 16) =
      some ⟨0xC0A80002, some 1, 3⟩ := by
  have hrouter : (run (exampleRipLinks.step exampleRipChain) RipArea.start
      (exampleRipLinksRun e)).routers 1 =
      ripReceive ripRouterInit 1 0x0A000001 exampleRipChainMessage 1 := by
    have hother : (1 : RipRef) ≠ 0 := by decide
    simp only [exampleRipLinksRun, run_cons, run_nil, RipLinks.step, RipArea.put,
      Function.update_self, Function.update_of_ne hother]
    rfl
  have htable := ((RipLinks.ok_run (exampleRipLinksRun_good he hw)).routers 1).table
  rw [hrouter] at htable ⊢
  refine htable.rib.protoRoutes_eq_some_iff.mpr ⟨0, ?_⟩
  constructor <;> decide +kernel

theorem ripRoute_walk_exampleRipLinks :
    ∃ w : exampleRipLinks.graph.Walk 0 1, w.edges.IsChain (· ≠ ·) ∧ w.length = 1 := by
  obtain ⟨e, he, hw⟩ := exampleRipChain_sent
  obtain ⟨f, hf, -, w, hchain, -, hcount, -⟩ :=
    ripRoute_walk (exampleRipLinksRun_good he hw) (exampleRipLinksRun_route he hw)
  rw [exampleRipLinksRun_told] at hf
  obtain rfl := Set.mem_singleton_iff.mp hf
  have hlen : 3 = 2 + w.length := hcount
  exact ⟨w, hchain, by omega⟩

theorem ripForest_routes_exampleRipLinks :
    ∃ e, (∃ q, exampleRipLinks.graph.Adj 1 q ∧ exampleRipLinks.graph.dist 0 1 =
      exampleRipLinks.graph.dist 0 q + 1) ∧
      ∀ r, ¬ Relation.TransGen (exampleRipLinks.Leads (run (exampleRipLinks.step exampleRipChain)
        RipArea.start (exampleRipLinksRun e)) (0xAC100000, 16)) r r := by
  obtain ⟨e, he, hw⟩ := exampleRipChain_sent
  have hown : ∀ {r q q'}, exampleRipLinks.graph.Adj r q → exampleRipLinks.graph.Adj r q' →
      exampleRipLinks.iface r q = exampleRipLinks.iface r q' → q = q' := by
    intro r q q' hq hq' _
    rcases exampleRipLinks_adj hq with ⟨rfl, rfl⟩ | ⟨rfl, rfl⟩
    · rcases exampleRipLinks_adj hq' with ⟨-, rfl⟩ | ⟨h, -⟩
      · rfl
      · cases h
    · rcases exampleRipLinks_adj hq' with ⟨h, -⟩ | ⟨-, rfl⟩
      · cases h
      · rfl
  obtain ⟨hroutes, hcircle⟩ := ripForest_routes exampleRipLinks_acyclic hown
    (exampleRipLinksRun_good he hw) (o := 0) (k := (0xAC100000, 16)) (fun f hf _ => by
      rw [exampleRipLinksRun_told] at hf
      rw [Set.mem_singleton_iff.mp hf])
  refine ⟨e, ?_, hcircle⟩
  obtain ⟨-, -, -, -, ⟨h, -⟩ | ⟨q, hadj, -, hdist⟩⟩ := hroutes 1 _ (exampleRipLinksRun_route he hw)
  · cases h
  · exact ⟨q, hadj, hdist⟩

end FrameRunner
