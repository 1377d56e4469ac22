import FrameRunner.Lib.Records
import FrameRunner.Rip.Agreement
import FrameRunner.Rip.Update

/-!
# The next hops that RIP spreads

`rip_send_update` writes the next hop of a database entry into the update as it
stands, and `rip_receive` installs it on the interface that the update came in
on. So a route keeps, over any chain of routers, the next hop of the initial
entry that it stems from, which is on the subnet of another interface.

Main results:

* `ripEntries_update`: `rip_receive` reads the entries that were written.
* `ripRoute_stems`: where the next hop of a RIP route comes from.
* `not_ripRoutes_onLink`: a route whose next hop is not on its link.
-/

namespace FrameRunner

open FrameRunner.Lib

/-! ## Updates read back -/

/-- The entry of an update about this route, as `rip_receive` reads it. -/
def RipRouteInfo.advert (entry : RipRouteInfo) : RipEntry where
  afi := ripAfiIpv4
  ipAddr := entry.pfx
  subnetMask := ipv4PrefixMask entry.prefixLen
  nextHop := entry.nextHop
  metric := if entry.metric > ripInfinity then ripInfinity else entry.metric

/-- The payload with these entries. -/
def ripUpdate (entries : List RipRouteInfo) : List UInt8 :=
  ripHeader ++ entries.flatMap ripEntry

theorem length_ripUpdate (entries : List RipRouteInfo) :
    (ripUpdate entries).length = ripHdrLen + entries.length * ripEntryLen := by
  rw [ripUpdate, List.length_append, Records.length_flatMap length_ripEntry]
  rfl

theorem getRipEntry_of_drop {payload rest : List UInt8} {i : ℕ} {entry : RipRouteInfo}
    (h : payload.drop i = ripEntry entry ++ rest) : getRipEntry payload i = entry.advert := by
  have hdrop : ∀ k, payload.drop (i + k) = (ripEntry entry ++ rest).drop k := fun k => by
    rw [← List.drop_drop, h]
  unfold getRipEntry RipRouteInfo.advert
  rw [RipEntry.mk.injEq]
  exact ⟨getU16_of_drop h, getU32_of_drop (hdrop 4), getU32_of_drop (hdrop 8),
    getU32_of_drop (hdrop 12), getU32_of_drop (hdrop 16)⟩

/-- What `rip_send_update` writes is what `rip_receive` takes. -/
theorem ripEntries_update {entries : List RipRouteInfo} (hmax : entries.length ≤ ripMaxRoutes) :
    ripEntries (ripUpdate entries) = entries.map RipRouteInfo.advert := by
  have hlen := length_ripUpdate entries
  have hpos : 0 < ripEntryLen := by decide
  have hversion : getU8 (ripUpdate entries) 1 = ripVersion := getU8_of_drop rfl
  have hcommand : getU8 (ripUpdate entries) 0 = ripCmdResponse := getU8_of_drop rfl
  have hrest : (ripUpdate entries).length - ripHdrLen = entries.length * ripEntryLen := by
    rw [hlen, Nat.add_sub_cancel_left]
  unfold ripEntries
  rw [if_neg (by rw [hlen]; exact Nat.not_lt.mpr (Nat.le_add_right _ _)), hrest,
    if_neg (not_not.mpr (Nat.mul_mod_left _ _)), Nat.mul_div_cancel _ hpos]
  dsimp only
  rw [if_neg (Nat.not_lt.mpr hmax), if_neg (not_not.mpr hversion),
    if_neg (not_not.mpr hcommand)]
  refine List.ext_getElem (by simp) fun i hi hi' => ?_
  have hi : i < entries.length := by simpa using hi
  rw [List.getElem_map, List.getElem_map, List.getElem_range]
  have hheader : (ripHeader ++ entries.flatMap ripEntry).drop ripHdrLen =
      entries.flatMap ripEntry ++ [] := by rw [List.append_nil]; rfl
  have hdrop : (ripUpdate entries).drop (ripHdrLen + i * ripEntryLen) =
      ripEntry entries[i] ++ ((entries.drop (i + 1)).flatMap ripEntry ++ []) := by
    rw [ripUpdate, ← List.drop_drop, hheader, Records.drop_flatMap_getElem length_ripEntry [] hi]
  exact getRipEntry_of_drop hdrop

/-! ## What an update carries -/

/-- The event carries an update of `outIface` with entries of this database. -/
def RipSent (t : Topology) (state : RipState) (outIface : IfaceRef) (e : NetEvent) : Prop :=
  ∃ src dst entries, entries.length ≤ ripMaxRoutes ∧
    (∀ entry ∈ entries, ∃ i, state.db i = entry ∧ entry.sentOn outIface = true) ∧
    OnWire src dst (ripFrame t src (t.iface outIface).ipAddr (ripUpdate entries)) e

/-- The loop of `rip_send_update`: the buffer holds entries of the database, and what
    was scheduled carries such. -/
structure RipSentInv (t : Topology) (net : Net) (state : RipState) (outIface : IfaceRef)
    (acc : Net × List UInt8 × Bool) : Prop where
  sends : Sends NetCall.IsOutput net acc.1
  sent : ∀ e, Made net acc.1 (.schedule e) → RipSent t state outIface e
  buffer : ∃ entries : List RipRouteInfo, acc.2.1 = entries.flatMap ripEntry ∧
    entries.length < ripMaxRoutes ∧
    ∀ entry ∈ entries, ∃ i, state.db i = entry ∧ entry.sentOn outIface = true

section
variable {t : Topology} {net : Net} {state : RipState} {outIface : IfaceRef}

theorem ripSendPayload_sent {net' : Net} {entries : List RipRouteInfo}
    (hmax : entries.length ≤ ripMaxRoutes)
    (hdb : ∀ entry ∈ entries, ∃ i, state.db i = entry ∧ entry.sentOn outIface = true) {e : NetEvent}
    (h : Made net' (ripSendPayload t net' outIface (entries.flatMap ripEntry)).1 (.schedule e)) :
    RipSent t state outIface e := by
  have hmac : ipMulticastToMac ripMulticast = some ripMulticastMac := by decide
  rcases udpSend_multicast_cases t net' (t.iface outIface).ipAddr ripPort ripPort
      (ripUpdate entries) hmac with ⟨-, hnone⟩ | ⟨-, src, dst, e', -, -, hwire, hmade⟩
  · exact absurd h (hnone e)
  · rw [(hmade e).mp h]
    exact ⟨src, dst, entries, hmax, hdb, hwire⟩

theorem RipSentInv.step {acc : Net × List UInt8 × Bool} (I : RipSentInv t net state outIface acc)
    (i : Fin ripDbSize) :
    RipSentInv t net state outIface (ripSendEntry t state outIface acc i) := by
  obtain ⟨entries, hbuffer, hlt, hdb⟩ := I.buffer
  rcases ripSendEntry_cases t state outIface acc i with ⟨-, he⟩ | ⟨-, hsent, hentry⟩
  · rw [he]
    exact I
  have hnew : acc.2.1 ++ ripEntry (state.db i) = (entries ++ [state.db i]).flatMap ripEntry := by
    rw [List.flatMap_append, hbuffer, List.flatMap_singleton]
  have hdb' : ∀ entry ∈ entries ++ [state.db i],
      ∃ j, state.db j = entry ∧ entry.sentOn outIface = true := by
    intro entry hentry
    rcases List.mem_append.mp hentry with hentry | hentry
    · exact hdb entry hentry
    · rw [List.mem_singleton.mp hentry]
      exact ⟨i, rfl, hsent⟩
  have hmax : (entries ++ [state.db i]).length ≤ ripMaxRoutes := by
    rw [List.length_append]
    exact hlt
  rw [hnew] at hentry
  rcases hentry with ⟨-, he⟩ | ⟨hfull, he⟩
  · have hpayload := ripSendPayload_sends t acc.1 outIface
      ((entries ++ [state.db i]).flatMap ripEntry)
    rw [he]
    refine ⟨I.sends.trans hpayload, fun e he => ?_, [], rfl, by decide, by simp⟩
    rcases (I.sends.made_trans hpayload _).mp he with he | he
    · exact I.sent e he
    · exact ripSendPayload_sent hmax hdb' he
  · rw [he]
    refine ⟨I.sends, I.sent, entries ++ [state.db i], rfl, lt_of_le_of_ne hmax fun hlen => ?_, hdb'⟩
    rw [Records.length_flatMap length_ripEntry, hlen] at hfull
    exact hfull rfl

end

/-- All that an update schedules carries entries of the database. -/
theorem ripSendUpdate_sent (t : Topology) (net : Net) (state : RipState) (outIface : IfaceRef) :
    Sends NetCall.IsOutput net (ripSendUpdate t net state outIface).1 ∧
      ∀ e, Made net (ripSendUpdate t net state outIface).1 (.schedule e) →
        RipSent t state outIface e := by
  have I : RipSentInv t net state outIface
      (Slots.forEach ripDbSize (ripSendEntry t state outIface) (net, [], false)) :=
    Slots.forEach_invariant (RipSentInv t net state outIface)
      ⟨Sends.refl _ net, fun e he => absurd he (not_made rfl _), [], rfl, by decide, by simp⟩
      fun i _ I => I.step i
  unfold ripSendUpdate
  generalize Slots.forEach ripDbSize (ripSendEntry t state outIface) (net, [], false) = acc at I
  obtain ⟨net', buffer, failed⟩ := acc
  obtain ⟨entries, hbuffer, hlt, hdb⟩ := I.buffer
  have hbuffer : buffer = entries.flatMap ripEntry := hbuffer
  dsimp only
  split
  · exact ⟨I.sends, I.sent⟩
  split
  · have hpayload := ripSendPayload_sends t net' outIface buffer
    refine ⟨I.sends.trans hpayload, fun e he => ?_⟩
    rcases (I.sends.made_trans hpayload _).mp he with he | he
    · exact I.sent e he
    · rw [hbuffer] at he
      exact ripSendPayload_sent hlt.le hdb he
  · exact ⟨I.sends, I.sent⟩

/-- A frame carries one message only. -/
theorem ripFrame_injective {t : Topology} {src : IfaceRef} {srcIp srcIp' : UInt32}
    {message message' : List UInt8}
    (h : ripFrame t src srcIp message = ripFrame t src srcIp' message') :
    srcIp = srcIp' ∧ message = message' := by
  have hpacket := List.append_cancel_left h
  have hheader := congrArg getIpHeader hpacket
  rw [getIpHeader_append, getIpHeader_append] at hheader
  have hdatagram := congrArg (List.drop ipHdrLen) hpacket
  have hmessage : udpDatagram ripPort ripPort message = udpDatagram ripPort ripPort message' :=
    hdatagram
  exact ⟨congrArg IpHeader.srcIp hheader, congrArg (List.drop udpHdrLen) hmessage⟩

/-! ## A network of RIP routers -/

/-- The packet path and the RIP routers on it. -/
structure RipNet where
  net : Net
  routers : RipRef → RipRouter

/-- A router sends an update on an interface; an update that was sent comes in
    somewhere, possibly late, again or never; or something else happens to a router. -/
inductive RipNetStep (t : Topology) : RipNet → RipNet → Prop
  | send (s : RipNet) (rip : RipRef) (outIface : IfaceRef) : RipNetStep t s
      { s with net := (ripSendUpdate t s.net (s.routers rip).rip outIface).1 }
  | receive (s : RipNet) {e : NetEvent} {src dst : IfaceRef} {srcIp : UInt32} {message : List UInt8}
      (he : .schedule e ∈ s.net.calls) (hw : OnWire src dst (ripFrame t src srcIp message) e)
      (rip : RipRef) (iface : IfaceRef) (now : UInt64) : RipNetStep t s
      ⟨s.net, Function.update s.routers rip (ripReceive (s.routers rip) iface srcIp message now)⟩
  | call (s : RipNet) (rip : RipRef) {c : UInt64 × RipCall}
      (hc : ∀ iface srcIp payload, c.2 ≠ .receive iface srcIp payload) : RipNetStep t s
      ⟨s.net, Function.update s.routers rip (ripStep (s.routers rip) c)⟩

/-- Nothing was sent yet; each database entry has its next hop on the subnet of the
    interface that it was learned on, and each RIP route is one of them. -/
structure RipNetStart (t : Topology) (s : RipNet) : Prop where
  calls : s.net.calls = []
  table : ∀ rip, TableOk (s.routers rip).rt
  onLink : ∀ rip i, ((s.routers rip).rip.db i).valid = true →
    ∃ iface, ((s.routers rip).rip.db i).learnedOn = some iface ∧
      ipSameSubnet (t.iface iface).ipAddr ((s.routers rip).rip.db i).nextHop
        (t.iface iface).prefixLen = true
  routes : ∀ rip k v, protoRoutes (s.routers rip).rt routeProtoRip k = some v →
    ∃ i, ((s.routers rip).rip.db i).valid = true ∧
      ripKeyed.key ((s.routers rip).rip.db i) = k ∧ ripKeyed.val ((s.routers rip).rip.db i) = v

/-- The initial entry, a valid one, is about this network, and this is its next hop
    or, if that is zero, the address of an interface. -/
structure RipRouteInfo.Origin (t : Topology) (origin : RipRouteInfo) (pfx : UInt32)
    (prefixLen : UInt8) (nextHop : UInt32) : Prop where
  valid : origin.valid = true
  mask : ipv4PrefixMask prefixLen = ipv4PrefixMask origin.prefixLen
  pfx : pfx &&& ipv4PrefixMask prefixLen = origin.pfx &&& ipv4PrefixMask origin.prefixLen
  nextHop : nextHop = origin.nextHop ∨ origin.nextHop = 0 ∧ ∃ iface, nextHop = (t.iface iface).ipAddr

/-- A route with this next hop stems from an initial entry. -/
def StemsFrom (t : Topology) (s₀ : RipNet) (pfx : UInt32) (prefixLen : UInt8)
    (nextHop : UInt32) : Prop :=
  ∃ rip i, ((s₀.routers rip).rip.db i).Origin t pfx prefixLen nextHop

/-- The mask of a length reads as a length with the same mask. -/
theorem ipv4PrefixMask_of_maskToPrefixLen {l l' : UInt8}
    (h : ipMaskToPrefixLen (ipv4PrefixMask l) = some l') : ipv4PrefixMask l' = ipv4PrefixMask l := by
  by_cases hl : l ≤ 32
  · rw [ipMaskToPrefixLen_mask hl] at h
    rw [Option.some.inj h]
  · -- all lengths from 32 on have the full mask
    have hzero : ¬ l = 0 := by
      rintro rfl
      exact hl (by decide)
    have hfull : ipv4PrefixMask l = ipv4PrefixMask 32 := by
      unfold ipv4PrefixMask
      rw [if_neg hzero, if_pos (UInt8.le_of_lt (UInt8.not_le.mp hl))]
      rfl
    rw [hfull, ipMaskToPrefixLen_mask (by decide)] at h
    rw [← Option.some.inj h, hfull]

/-- The receiver of an entry installs a route with the origin of the entry. -/
theorem StemsFrom.advert {t : Topology} {s₀ : RipNet} {entry : RipRouteInfo}
    (h : StemsFrom t s₀ entry.pfx entry.prefixLen entry.nextHop) {k : UInt32 × UInt8}
    (hn : entry.advert.Names k) (outIface : IfaceRef) :
    StemsFrom t s₀ k.1 k.2 (entry.advert.hop (t.iface outIface).ipAddr) := by
  obtain ⟨rip, i, ho⟩ := h
  have hmask : ipv4PrefixMask k.2 = ipv4PrefixMask entry.prefixLen :=
    ipv4PrefixMask_of_maskToPrefixLen hn.mask
  refine ⟨rip, i, ho.valid, hmask.trans ho.mask, ?_, ?_⟩
  · rw [hn.normalized, hn.pfx, hmask]
    exact ho.pfx
  · unfold RipEntry.hop
    split
    · rename_i hzero
      have hzero : entry.nextHop = 0 := hzero
      refine .inr ⟨?_, outIface, rfl⟩
      rcases ho.nextHop with h | ⟨h, -⟩
      · exact h.symm.trans hzero
      · exact h
    · exact ho.nextHop

/-- The entries and the RIP routes of a router stem from initial entries. -/
structure RipStems (t : Topology) (s₀ : RipNet) (s : RipRouter) : Prop where
  table : TableOk s.rt
  db : ∀ i, (s.rip.db i).valid = true →
    StemsFrom t s₀ (s.rip.db i).pfx (s.rip.db i).prefixLen (s.rip.db i).nextHop
  routes : ∀ k v, protoRoutes s.rt routeProtoRip k = some v → StemsFrom t s₀ k.1 k.2 v.nextHop

section
variable {t : Topology} {s₀ : RipNet} {s : RipRouter}

/-- A deletion adds no route. -/
theorem protoRoutes_of_delete {rt : RouteTable} (h : TableOk rt) {pfx : UInt32} {prefixLen : UInt8}
    {k : UInt32 × UInt8} {v : RibValue}
    (hv : protoRoutes (routeTableDelete rt pfx prefixLen routeProtoRip).1 routeProtoRip k = some v) :
    protoRoutes rt routeProtoRip k = some v := by
  by_cases hlen : prefixLen ≤ 32
  · rw [h.rib.protoRoutes_delete routeProtoRip pfx hlen (by decide), Function.update_apply] at hv
    split at hv
    · cases hv
    · exact hv
  · rcases routeTableDelete_cases rt pfx prefixLen routeProtoRip with ⟨he, -⟩ | ⟨-, hle, -⟩
    · have hrt : (routeTableDelete rt pfx prefixLen routeProtoRip).1 = rt := congrArg Prod.fst he
      rw [hrt] at hv
      exact hv
    · exact absurd hle hlen

/-- The entries of a database stem from initial ones after a store of one that does. -/
theorem stemsFrom_update {db : Slots ripDbSize RipRouteInfo}
    (h : ∀ j, (db j).valid = true → StemsFrom t s₀ (db j).pfx (db j).prefixLen (db j).nextHop)
    {r : RipRouteInfo} (hr : r.valid = true → StemsFrom t s₀ r.pfx r.prefixLen r.nextHop)
    (i j : Fin ripDbSize) (hj : (Function.update db i r j).valid = true) :
    StemsFrom t s₀ (Function.update db i r j).pfx (Function.update db i r j).prefixLen
      (Function.update db i r j).nextHop :=
  Slots.forall_update
    (p := fun e : RipRouteInfo => e.valid = true → StemsFrom t s₀ e.pfx e.prefixLen e.nextHop)
    h hr i j hj

theorem RipStems.retire (h : RipStems t s₀ s) {i : Fin ripDbSize} {r : RipRouteInfo}
    (hi : (s.rip.db i).valid = true) (hp : r.pfx = (s.rip.db i).pfx)
    (hl : r.prefixLen = (s.rip.db i).prefixLen) (hn : r.nextHop = (s.rip.db i).nextHop) :
    RipStems t s₀ (s.retire i r) := by
  have hr : r.valid = true → StemsFrom t s₀ r.pfx r.prefixLen r.nextHop := by
    intro _
    rw [hp, hl, hn]
    exact h.db i hi
  exact ⟨h.table.delete .., stemsFrom_update h.db hr i,
    fun k v hv => h.routes k v (protoRoutes_of_delete h.table hv)⟩

theorem RipStems.install (h : RipStems t s₀ s) {e : RipEntry} {k : UInt32 × UInt8}
    {i : Fin ripDbSize} (hi : RipInstalls s.rip e k i) {srcIp : UInt32}
    (hstems : StemsFrom t s₀ k.1 k.2 (e.hop srcIp)) (iface : IfaceRef) (now : UInt64) :
    RipStems t s₀ (s.install i (e.route iface srcIp now k)) := by
  refine ⟨h.table.add .., stemsFrom_update h.db (fun _ => hstems) i, fun k' v hv => ?_⟩
  have hadd := h.table.rib.protoRoutes_add routeProtoRip k.1 (e.hop srcIp)
    (ripCandidateMetric e.metric) (Option.isSome_some (a := iface)) hi.names.prefixLen (by decide)
  rw [hi.names.normalized] at hadd
  rcases hadd with ⟨-, hroutes⟩ | ⟨he, -⟩
  · have hv := (congrFun hroutes k').symm.trans hv
    rw [Function.update_apply] at hv
    split at hv
    · rename_i hk
      rw [← Option.some.inj hv, hk]
      exact hstems
    · exact h.routes k' v hv
  · have hrt : (s.install i (e.route iface srcIp now k)).rt = s.rt := congrArg Prod.fst he
    rw [hrt] at hv
    exact h.routes k' v hv

theorem RipStems.receiveEntry (h : RipStems t s₀ s) {entry : RipRouteInfo}
    (hentry : StemsFrom t s₀ entry.pfx entry.prefixLen entry.nextHop) (iface outIface : IfaceRef)
    (now : UInt64) :
    RipStems t s₀ (ripReceiveEntry iface (t.iface outIface).ipAddr now s entry.advert) := by
  rcases ripReceiveEntry_cases iface (t.iface outIface).ipAddr now s entry.advert with
    he | ⟨i, hv, he⟩ | ⟨k, i, hi, he⟩
  · rw [he]
    exact h
  · rw [he]
    exact h.retire hv rfl rfl rfl
  · rw [he]
    exact h.install hi (hentry.advert hi.names outIface) iface now

theorem RipStems.receive (h : RipStems t s₀ s) {entries : List RipRouteInfo}
    (hmax : entries.length ≤ ripMaxRoutes)
    (hentries : ∀ entry ∈ entries, StemsFrom t s₀ entry.pfx entry.prefixLen entry.nextHop)
    (iface outIface : IfaceRef) (now : UInt64) :
    RipStems t s₀ (ripReceive s iface (t.iface outIface).ipAddr (ripUpdate entries) now) := by
  unfold ripReceive
  rw [ripEntries_update hmax]
  refine run_invariant_mem (RipStems t s₀) (fun s e he hs => ?_) h
  obtain ⟨entry, hentry, rfl⟩ := List.mem_map.mp he
  exact hs.receiveEntry (hentries entry hentry) iface outIface now

theorem RipStems.gcEntry {rip : RipState} {rt : RouteTable} (h : RipStems t s₀ ⟨rip, rt⟩)
    (now : UInt64) (i : Fin ripDbSize) : RipStems t s₀ ⟨ripGcEntry now rip i, rt⟩ := by
  rcases ripGcEntry_cases now rip i with he | ⟨-, -, -, he⟩
  · rw [he]
    exact h
  · rw [he]
    have hcleared : false = true → StemsFrom t s₀ (rip.db i).pfx (rip.db i).prefixLen
        (rip.db i).nextHop := fun hv => by cases hv
    exact ⟨h.table, stemsFrom_update h.db hcleared i, h.routes⟩

/-- What is not a received update adds no next hop. -/
theorem RipStems.call (h : RipStems t s₀ s) {c : UInt64 × RipCall}
    (hc : ∀ iface srcIp payload, c.2 ≠ .receive iface srcIp payload) :
    RipStems t s₀ (ripStep s c) := by
  obtain ⟨now, call⟩ := c
  cases call with
  | receive iface srcIp payload => exact absurd rfl (hc iface srcIp payload)
  | timeout =>
    refine Slots.forEach_invariant (f := ripTimeoutEntry now) (x := s) (RipStems t s₀) h
      fun i s' hs => ?_
    rcases ripTimeoutEntry_cases now s' i with ⟨he, -⟩ | ⟨hv, -, he⟩
    · rw [he]
      exact hs
    · rw [he]
      exact hs.retire hv rfl rfl rfl
  | gc =>
    exact Slots.forEach_invariant (f := ripGcEntry now) (x := s.rip)
      (fun rip => RipStems t s₀ ⟨rip, s.rt⟩) h fun i rip hs => hs.gcEntry now i
  | other op hop =>
    refine ⟨h.table.step op, h.db, fun k v hv => h.routes k v ?_⟩
    rwa [← h.table.rib.protoRoutes_other hop]

end

/-- The routers, and the updates under way. -/
structure RipNetStems (t : Topology) (s₀ s : RipNet) : Prop where
  routers : ∀ rip, RipStems t s₀ (s.routers rip)
  updates : ∀ e, .schedule e ∈ s.net.calls → ∃ src dst outIface entries,
    entries.length ≤ ripMaxRoutes ∧
    (∀ entry ∈ entries, StemsFrom t s₀ entry.pfx entry.prefixLen entry.nextHop) ∧
    OnWire src dst (ripFrame t src (t.iface outIface).ipAddr (ripUpdate entries)) e

theorem RipNetStart.stems {t : Topology} {s : RipNet} (h : RipNetStart t s) : RipNetStems t s s where
  routers rip := by
    have hdb : ∀ i, ((s.routers rip).rip.db i).valid = true → StemsFrom t s
        ((s.routers rip).rip.db i).pfx ((s.routers rip).rip.db i).prefixLen
        ((s.routers rip).rip.db i).nextHop := fun i hi => ⟨rip, i, hi, rfl, rfl, .inl rfl⟩
    refine ⟨h.table rip, hdb, fun k v hv => ?_⟩
    obtain ⟨i, hi, hkey, hval⟩ := h.routes rip k v hv
    rw [← hkey, ← hval]
    exact hdb i hi
  updates e he := by
    rw [h.calls] at he
    cases he

theorem RipNetStems.update {t : Topology} {s₀ s : RipNet} (h : RipNetStems t s₀ s) {rip : RipRef}
    {r : RipRouter} (hr : RipStems t s₀ r) :
    RipNetStems t s₀ ⟨s.net, Function.update s.routers rip r⟩ := by
  refine ⟨fun rip' => ?_, h.updates⟩
  dsimp only
  by_cases hrip : rip' = rip
  · subst hrip
    rw [Function.update_self]
    exact hr
  · rw [Function.update_of_ne hrip]
    exact h.routers rip'

theorem RipNetStems.step {t : Topology} {s₀ s s' : RipNet} (h : RipNetStems t s₀ s)
    (hstep : RipNetStep t s s') : RipNetStems t s₀ s' := by
  cases hstep with
  | send rip outIface =>
    obtain ⟨hsends, hsent⟩ := ripSendUpdate_sent t s.net (s.routers rip).rip outIface
    obtain ⟨more, hcalls, -⟩ := hsends.calls
    refine ⟨h.routers, fun e he => ?_⟩
    have he : .schedule e ∈ (ripSendUpdate t s.net (s.routers rip).rip outIface).1.calls := he
    rw [hcalls] at he
    rcases List.mem_append.mp he with he | he
    · exact h.updates e he
    · obtain ⟨src, dst, entries, hmax, hdb, hwire⟩ := hsent e ⟨more, hcalls, he⟩
      refine ⟨src, dst, outIface, entries, hmax, fun entry hentry => ?_, hwire⟩
      obtain ⟨i, rfl, hi⟩ := hdb entry hentry
      exact (h.routers rip).db i (sentOn_iff.mp hi).1
  | receive he hw rip iface now =>
    obtain ⟨src', dst', outIface, entries, hmax, hentries, hwire⟩ := h.updates _ he
    obtain rfl := Option.some.inj (hw.src.symm.trans hwire.src)
    obtain ⟨pkt, hpkt, hbytes, -⟩ := hw.packet
    obtain ⟨pkt', hpkt', hbytes', -⟩ := hwire.packet
    obtain rfl := Option.some.inj (hpkt.symm.trans hpkt')
    obtain ⟨rfl, rfl⟩ := ripFrame_injective (hbytes.symm.trans hbytes')
    exact h.update ((h.routers rip).receive hmax hentries iface outIface now)
  | call rip hc => exact h.update ((h.routers rip).call hc)

theorem ripNet_stems {t : Topology} {s₀ s : RipNet} (h₀ : RipNetStart t s₀)
    (hreach : Relation.ReflTransGen (RipNetStep t) s₀ s) : RipNetStems t s₀ s := by
  induction hreach with
  | refl => exact h₀.stems
  | tail _ hstep ih => exact ih.step hstep

/-- Every RIP route stems from an initial entry for its network: it has the next hop
    of that entry, which is on the subnet of the interface that the entry was learned
    on, or, if that is zero, the address of an interface. -/
theorem ripRoute_stems {t : Topology} {s₀ s : RipNet} (h₀ : RipNetStart t s₀)
    (hreach : Relation.ReflTransGen (RipNetStep t) s₀ s) (rip : RipRef)
    (i : Fin routeRibSize) (hv : ((s.routers rip).rt.rib i).valid = true)
    (hproto : ((s.routers rip).rt.rib i).proto = routeProtoRip) :
    ∃ rip₀ j learnedOn,
      ((s₀.routers rip₀).rip.db j).Origin t ((s.routers rip).rt.rib i).pfx
        ((s.routers rip).rt.rib i).prefixLen ((s.routers rip).rt.rib i).nextHop ∧
      ((s₀.routers rip₀).rip.db j).learnedOn = some learnedOn ∧
      ipSameSubnet (t.iface learnedOn).ipAddr ((s₀.routers rip₀).rip.db j).nextHop
        (t.iface learnedOn).prefixLen = true := by
  have hrouter := (ripNet_stems h₀ hreach).routers rip
  have hroute : protoRoutes (s.routers rip).rt routeProtoRip
      (((s.routers rip).rt.rib i).pfx, ((s.routers rip).rt.rib i).prefixLen) =
      some ⟨((s.routers rip).rt.rib i).nextHop, ((s.routers rip).rt.rib i).iface,
        ((s.routers rip).rt.rib i).metric⟩ :=
    hrouter.table.rib.protoRoutes_eq_some_iff.mpr ⟨i, hv, rfl, rfl, rfl, rfl, rfl, hproto⟩
  obtain ⟨rip₀, j, ho⟩ := hrouter.routes _ _ hroute
  obtain ⟨learnedOn, hlearned, hsubnet⟩ := h₀.onLink rip₀ j ho.valid
  exact ⟨rip₀, j, learnedOn, ho, hlearned, hsubnet⟩

/-! ## A next hop on another link -/

/-- The RIP routes of all routers can be resolved on their links. -/
def RipRoutesOnLink (t : Topology) (s : RipNet) : Prop :=
  ∀ rip i, ((s.routers rip).rt.rib i).valid = true →
    ((s.routers rip).rt.rib i).proto = routeProtoRip →
    ∃ iface, ((s.routers rip).rt.rib i).iface = some iface ∧
      ipSameSubnet (t.iface iface).ipAddr ((s.routers rip).rt.rib i).nextHop
        (t.iface iface).prefixLen = true

/-- A router in step may start: its RIP routes are entries of its database. -/
theorem RipSynced.routes {s : RipRouter} (h : RipSynced s) {k : UInt32 × UInt8} {v : RibValue}
    (hv : protoRoutes s.rt routeProtoRip k = some v) :
    ∃ i, (s.rip.db i).valid = true ∧ ripKeyed.key (s.rip.db i) = k ∧
      ripKeyed.val (s.rip.db i) = v := by
  rw [h.agree, (ripActive_distinct h.db.distinct).lookup_eq_some_iff] at hv
  obtain ⟨i, hi, hkey, hval⟩ := hv
  exact ⟨i, ripActive_used hi, hkey, hval⟩

/-- Router 0 with a second network, on the interface 3, and router 1 behind the
    interface 0. -/
def exampleRipChain : Topology where
  iface i := if i = 3 then
      { mac := ownMac 3, ipAddr := 0xC0A80001, prefixLen := 24, up := true, link := none,
        rxHandler := some (.router 0), arpCache := some 3 }
    else (exampleRipRouters [1, 2]).iface i
  link := (exampleRipRouters [1, 2]).link
  devices := [[0, 3], [1, 2]]
  router r := { interfaces := if r = 0 then [0, 3] else [1, 2], arpCache := r,
                routeTbl := routeTableInit, ipStack := r }
  ports := (exampleRipRouters [1, 2]).ports
  ipStack := (exampleRipRouters [1, 2]).ipStack
  udp := (exampleRipRouters [1, 2]).udp
  memory := (exampleRipRouters [1, 2]).memory

/-- The station 192.168.0.2 on the interface 3 has told router 0 of a network. -/
def exampleRipChainRouter : RipRouter :=
  ripStep ripRouterInit (0, .receive 3 0xC0A80002
    (ripUpdate [{ pfx := 0xAC100000, prefixLen := 16, metric := 1 }]))

def exampleRipChainStart : RipNet where
  net := netInit
  routers rip := if rip = 0 then exampleRipChainRouter else ripRouterInit

theorem ripSynced_exampleRipChainRouter : RipSynced exampleRipChainRouter := by
  have hentries : ripEntries (ripUpdate [{ pfx := 0xAC100000, prefixLen := 16, metric := 1 }]) =
      [⟨ripAfiIpv4, 0xAC100000, 0xFFFF0000, 0, 1⟩] := by decide +kernel
  refine ripSynced_init.step ?_
  unfold RipCallFits
  dsimp only
  rw [hentries]
  exact ⟨fun _ _ _ => .inr ⟨0, by decide +kernel⟩, trivial⟩

theorem exampleRipChain_start : RipNetStart exampleRipChain exampleRipChainStart := by
  have hsynced : ∀ rip, RipSynced (exampleRipChainStart.routers rip) := by
    intro rip
    unfold exampleRipChainStart
    dsimp only
    split
    · exact ripSynced_exampleRipChainRouter
    · exact ripSynced_init
  refine ⟨rfl, fun rip => (hsynced rip).table, fun rip i hi => ?_, fun rip k v hv =>
    (hsynced rip).routes hv⟩
  unfold exampleRipChainStart at hi ⊢
  dsimp only at hi ⊢
  split at hi
  · rename_i hrip
    rw [if_pos hrip]
    have hall : ∀ j, (exampleRipChainRouter.rip.db j).valid = true →
        (exampleRipChainRouter.rip.db j).learnedOn = some 3 ∧
          ipSameSubnet (exampleRipChain.iface 3).ipAddr (exampleRipChainRouter.rip.db j).nextHop
            (exampleRipChain.iface 3).prefixLen = true := by decide +kernel
    exact ⟨3, hall i hi⟩
  · cases hi

/-- The update of router 0 on the interface 0. -/
def exampleRipChainNet : Net :=
  (ripSendUpdate exampleRipChain netInit exampleRipChainRouter.rip 0).1

def exampleRipChainMessage : List UInt8 := ripUpdate [exampleRipChainRouter.rip.db 0]

theorem exampleRipChain_sent : ∃ e, .schedule e ∈ exampleRipChainNet.calls ∧
    OnWire 0 1 (ripFrame exampleRipChain 0 0x0A000001 exampleRipChainMessage) e :=
  Net.exists_of_carries (by decide +kernel)

/-- Router 1 is handed the update: it has the group's address. -/
example {e : NetEvent} (net : Net)
    (hw : OnWire 0 1 (ripFrame exampleRipChain 0 0x0A000001 exampleRipChainMessage) e) :
    ∃ pkt, pkt.bytes = exampleRipChainMessage ∧ Made net (netDispatch exampleRipChain net e)
      (.udpRecv (.ripReceive 1) 1 0x0A000001 ripPort pkt) := by
  have hport : RipPort exampleRipChain 1 1 1 := by
    obtain ⟨-, -, ctx, i, hstack, hfind, hhandler⟩ := ripPort_exampleRipRouters [1, 2]
    exact ⟨rfl, rfl, ctx, i, hstack, hfind, hhandler⟩
  exact delivered_of_local net hport hw (by decide +kernel) (by decide +kernel)

/-- The route that router 1 then installs has the next hop 192.168.0.2 on the
    interface 10.0.0.2/24. -/
theorem exampleRipChain_installed :
    let r := ripReceive ripRouterInit 1 0x0A000001 exampleRipChainMessage 1
    (r.rt.rib 0).valid = true ∧ (r.rt.rib 0).proto = routeProtoRip ∧
      (r.rt.rib 0).iface = some 1 ∧ ipSameSubnet (exampleRipChain.iface 1).ipAddr
        (r.rt.rib 0).nextHop (exampleRipChain.iface 1).prefixLen = false := by
  decide +kernel

/-- A run in which router 1 installs it. -/
theorem exampleRipChain_reach :
    ∃ s, Relation.ReflTransGen (RipNetStep exampleRipChain) exampleRipChainStart s ∧
      s.routers 1 = ripReceive ripRouterInit 1 0x0A000001 exampleRipChainMessage 1 := by
  obtain ⟨e, he, hw⟩ := exampleRipChain_sent
  have hsend := RipNetStep.send (t := exampleRipChain) exampleRipChainStart 0 0
  have hreceive := RipNetStep.receive ⟨exampleRipChainNet, exampleRipChainStart.routers⟩ he hw 1 1 1
  have hstart : exampleRipChainStart.routers 1 = ripRouterInit := by
    unfold exampleRipChainStart
    dsimp only
    rw [if_neg (by decide)]
  refine ⟨_, .tail (.single hsend) hreceive, ?_⟩
  dsimp only
  rw [Function.update_self, hstart]

theorem ripRoute_stems_exampleRipChain :
    ∃ rip₀ j learnedOn,
      ((exampleRipChainStart.routers rip₀).rip.db j).Origin exampleRipChain 0xAC100000 16 0xC0A80002 ∧
      ((exampleRipChainStart.routers rip₀).rip.db j).learnedOn = some learnedOn ∧
      ipSameSubnet (exampleRipChain.iface learnedOn).ipAddr
        ((exampleRipChainStart.routers rip₀).rip.db j).nextHop
        (exampleRipChain.iface learnedOn).prefixLen = true := by
  obtain ⟨s, hreach, hs⟩ := exampleRipChain_reach
  have hroute : ((s.routers 1).rt.rib 0).valid = true ∧
      ((s.routers 1).rt.rib 0).proto = routeProtoRip ∧ ((s.routers 1).rt.rib 0).pfx = 0xAC100000 ∧
      ((s.routers 1).rt.rib 0).prefixLen = 16 ∧ ((s.routers 1).rt.rib 0).nextHop = 0xC0A80002 := by
    rw [hs]
    decide +kernel
  obtain ⟨hv, hproto, hp, hl, hn⟩ := hroute
  have h := ripRoute_stems exampleRipChain_start hreach 1 0 hv hproto
  rw [hp, hl, hn] at h
  exact h

theorem not_ripRoutes_onLink :
    ¬ ∀ t s₀ s, RipNetStart t s₀ → Relation.ReflTransGen (RipNetStep t) s₀ s →
      RipRoutesOnLink t s := by
  intro h
  obtain ⟨s, hreach, hs⟩ := exampleRipChain_reach
  have hlink := h _ _ _ exampleRipChain_start hreach 1 0
  rw [hs] at hlink
  obtain ⟨hv, hproto, hiface, hsubnet⟩ := exampleRipChain_installed
  obtain ⟨iface, hiface', hsubnet'⟩ := hlink hv hproto
  obtain rfl := Option.some.inj (hiface.symm.trans hiface')
  rw [hsubnet] at hsubnet'
  cases hsubnet'

end FrameRunner
