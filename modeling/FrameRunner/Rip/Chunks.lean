import FrameRunner.Rip.NextHop

/-!
# The payloads of one update (`protocols/rip.c`)

`rip_send_update` fills one buffer with the entries that go out, sends it when it holds 25
of them and sends the rest at the end.

Main result:
* `ripSendUpdate_payloads`: `rip_receive` takes every payload, none is empty, and decoded one
  after the other they give the entries of the database that are not from this interface.
-/

namespace FrameRunner

open FrameRunner.Lib

/-! ## Decoding -/

/-- A route as `rip_receive` decodes it. -/
structure RipRoute where
  pfx : UInt32
  prefixLen : UInt8
  nextHop : UInt32
  metric : UInt32
  deriving DecidableEq, Repr

/-- The decoding of an entry (lines 162–186); `none` is `continue`. -/
def ripDecode (srcIp : UInt32) (pktEntry : RipEntry) : Option RipRoute :=
  if pktEntry.afi ≠ ripAfiIpv4 then none
  else
    match ipMaskToPrefixLen pktEntry.subnetMask with
    | none => none
    | some prefixLen => some {
        pfx := pktEntry.ipAddr &&& ipv4PrefixMask prefixLen
        prefixLen := prefixLen
        nextHop := if pktEntry.nextHop = 0 then srcIp else pktEntry.nextHop
        metric := if pktEntry.metric > ripInfinity then ripInfinity else pktEntry.metric }

/-- The routes that `rip_receive` decodes from a payload. -/
def ripDecodePayload (srcIp : UInt32) (payload : List UInt8) : List RipRoute :=
  (ripEntries payload).filterMap (ripDecode srcIp)

/-- The entry that decodes to the route. -/
def RipRoute.entry (route : RipRoute) : RipEntry where
  afi := ripAfiIpv4
  ipAddr := route.pfx
  subnetMask := ipv4PrefixMask route.prefixLen
  nextHop := route.nextHop
  metric := route.metric

/-- The payload passes the checks of `rip_receive` (lines 134–160), and has an entry. -/
structure RipPayloadOk (payload : List UInt8) : Prop where
  header : ripHdrLen ≤ payload.length
  whole : (payload.length - ripHdrLen) % ripEntryLen = 0
  numEntries : (payload.length - ripHdrLen) / ripEntryLen ≤ ripMaxRoutes
  version : getU8 payload 1 = ripVersion
  command : getU8 payload 0 = ripCmdResponse
  nonempty : 0 < (payload.length - ripHdrLen) / ripEntryLen

/-- A database entry is about a network, with a prefix of that length. -/
structure RipRouteInfo.Prefixed (entry : RipRouteInfo) : Prop where
  normalized : PrefixNormalized entry.pfx entry.prefixLen
  prefixLen : entry.prefixLen ≤ 32

/-- All entries of the database in use are. -/
def RipDbPrefixed (state : RipState) : Prop :=
  ∀ i, (state.db i).valid = true → (state.db i).Prefixed

/-- What an update of the interface is about: the entries in use that were not learned on it,
    in the order of their slots. -/
def ripSentEntries (state : RipState) (outIface : IfaceRef) : List RipRouteInfo :=
  ((List.finRange ripDbSize).map state.db).filter fun entry => entry.sentOn outIface

/-- The route that an entry stands for, with the metric that goes on the wire. -/
def RipRouteInfo.route (entry : RipRouteInfo) : RipRoute where
  pfx := entry.pfx
  prefixLen := entry.prefixLen
  nextHop := entry.nextHop
  metric := min entry.metric ripInfinity

/-! ## Entries -/

theorem ripCandidateMetric_clamp (metric : UInt32) :
    ripCandidateMetric (if metric > ripInfinity then ripInfinity else metric) =
      ripCandidateMetric metric := by
  unfold ripCandidateMetric
  dsimp only
  by_cases h : metric > ripInfinity
  · rw [if_pos h, if_neg (UInt32.lt_irrefl _)]
  · rw [if_neg h, if_neg h]

/-- `rip_receive` does nothing with an entry but what it decodes from it. -/
theorem ripReceiveEntry_decode (iface : IfaceRef) (srcIp : UInt32) (now : UInt64) (s : RipRouter)
    (e : RipEntry) : ripReceiveEntry iface srcIp now s e =
      match ripDecode srcIp e with
      | none => s
      | some route => ripReceiveEntry iface srcIp now s route.entry := by
  unfold ripDecode
  by_cases hafi : e.afi ≠ ripAfiIpv4
  · rw [if_pos hafi]
    exact if_pos hafi
  · rw [if_neg hafi]
    cases hmask : ipMaskToPrefixLen e.subnetMask with
    | none =>
      unfold ripReceiveEntry
      rw [if_neg hafi, hmask]
    | some prefixLen =>
      have hself := ipMaskToPrefixLen_mask (ipMaskToPrefixLen_le hmask)
      have hpfx : e.ipAddr &&& ipv4PrefixMask prefixLen &&& ipv4PrefixMask prefixLen =
          e.ipAddr &&& ipv4PrefixMask prefixLen := prefixNormalized_mask _ _
      have hhop : (if (if e.nextHop = 0 then srcIp else e.nextHop) = 0 then srcIp
          else if e.nextHop = 0 then srcIp else e.nextHop) =
          if e.nextHop = 0 then srcIp else e.nextHop := by
        by_cases hzero : e.nextHop = 0
        · rw [if_pos hzero, ite_self]
        · rw [if_neg hzero, if_neg hzero]
      have hafi' : ¬ ripAfiIpv4 ≠ ripAfiIpv4 := not_not.mpr rfl
      unfold ripReceiveEntry RipRoute.entry
      simp only [if_neg hafi, if_neg hafi', hmask, hself, hpfx, hhop, ripCandidateMetric_clamp]

/-- `rip_receive` handles what it decodes from the payload. -/
theorem ripReceive_decode (s : RipRouter) (iface : IfaceRef) (srcIp : UInt32)
    (payload : List UInt8) (now : UInt64) : ripReceive s iface srcIp payload now =
      run (fun s (route : RipRoute) => ripReceiveEntry iface srcIp now s route.entry) s
        (ripDecodePayload srcIp payload) := by
  unfold ripReceive ripDecodePayload
  induction ripEntries payload generalizing s with
  | nil => rfl
  | cons e es ih =>
    rw [run_cons, ripReceiveEntry_decode, List.filterMap_cons]
    cases ripDecode srcIp e with
    | none => exact ih s
    | some route => exact ih _

/-- An entry decodes to what it says. -/
theorem ripDecode_advert (srcIp : UInt32) {entry : RipRouteInfo} (h : entry.Prefixed)
    (hhop : entry.nextHop ≠ 0) : ripDecode srcIp entry.advert = some entry.route := by
  have hafi : ¬ entry.advert.afi ≠ ripAfiIpv4 := not_not.mpr rfl
  have hmask : ipMaskToPrefixLen entry.advert.subnetMask = some entry.prefixLen :=
    ipMaskToPrefixLen_mask h.prefixLen
  have hpfx : entry.advert.ipAddr &&& ipv4PrefixMask entry.prefixLen = entry.pfx := h.normalized
  have hhop' : ¬ entry.advert.nextHop = 0 := hhop
  have hclamp : (if entry.advert.metric > ripInfinity then ripInfinity
      else entry.advert.metric) = min entry.metric ripInfinity := by
    show (if (if entry.metric > ripInfinity then ripInfinity else entry.metric) > ripInfinity
      then ripInfinity else if entry.metric > ripInfinity then ripInfinity else entry.metric) =
      if entry.metric ≤ ripInfinity then entry.metric else ripInfinity
    by_cases hlarge : entry.metric > ripInfinity
    · rw [if_pos hlarge, ite_self, if_neg (UInt32.not_le.mpr hlarge)]
    · rw [if_neg hlarge, if_neg hlarge, if_pos (UInt32.not_lt.mp hlarge)]
  unfold ripDecode
  rw [if_neg hafi, hmask]
  dsimp only
  rw [hpfx, if_neg hhop', hclamp]
  rfl

/-! ## The payloads -/

/-- A payload with up to 25 entries is taken and decodes to them. -/
theorem ripPayloadOk_update {entries : List RipRouteInfo} (hne : entries ≠ [])
    (hmax : entries.length ≤ ripMaxRoutes) : RipPayloadOk (ripUpdate entries) := by
  have hlen := length_ripUpdate entries
  have hrest : (ripUpdate entries).length - ripHdrLen = entries.length * ripEntryLen := by
    rw [hlen, Nat.add_sub_cancel_left]
  have hcount : (ripUpdate entries).length - ripHdrLen = entries.length * ripEntryLen := hrest
  have hdiv : ((ripUpdate entries).length - ripHdrLen) / ripEntryLen = entries.length := by
    rw [hrest]
    exact Nat.mul_div_cancel _ (by decide : 0 < ripEntryLen)
  refine ⟨?_, ?_, by rw [hdiv]; exact hmax, getU8_of_drop rfl, getU8_of_drop rfl, ?_⟩
  · rw [hlen]
    exact Nat.le_add_right _ _
  · rw [hcount]
    exact Nat.mul_mod_left _ _
  · rw [hdiv]
    exact List.length_pos_iff.mpr hne

theorem ripDecodePayload_update (srcIp : UInt32) {entries : List RipRouteInfo}
    (hmax : entries.length ≤ ripMaxRoutes) (hok : ∀ entry ∈ entries, entry.Prefixed)
    (hhops : ∀ entry ∈ entries, entry.nextHop ≠ 0) :
    ripDecodePayload srcIp (ripUpdate entries) = entries.map RipRouteInfo.route := by
  unfold ripDecodePayload
  rw [ripEntries_update hmax, List.filterMap_map]
  clear hmax
  induction entries with
  | nil => rfl
  | cons entry entries ih =>
    have hentry : (ripDecode srcIp ∘ RipRouteInfo.advert) entry = some entry.route :=
      ripDecode_advert srcIp (hok entry List.mem_cons_self) (hhops entry List.mem_cons_self)
    rw [List.filterMap_cons_some hentry, List.map_cons,
      ih (fun e he => hok e (List.mem_cons_of_mem _ he)) fun e he =>
        hhops e (List.mem_cons_of_mem _ he)]

/-- The datagram of a payload, as `ip_output` is given it. -/
def ripDatagram (payload : List UInt8) : UInt32 × UInt8 × List UInt8 :=
  (ripMulticast, ipprotoUdp, udpDatagram ripPort ripPort payload)

theorem ipOutputs_ripSendPayload (t : Topology) (net : Net) (outIface : IfaceRef)
    {entries : List RipRouteInfo} (hmax : entries.length ≤ ripMaxRoutes) :
    ipOutputs (ripSendPayload t net outIface (entries.flatMap ripEntry)).1.calls =
      ipOutputs net.calls ++ [ripDatagram (ripUpdate entries)] := by
  have hlen := length_ripUpdate entries
  have hshort : ¬ (ripUpdate entries).length > 65535 - udpHdrLen := by
    rw [hlen]
    unfold ripHdrLen ripEntryLen udpHdrLen
    unfold ripMaxRoutes at hmax
    omega
  have hport : ¬ ripPort = 0 := by decide
  have hout := ipOutput_ipOutputs t net.alloc (t.iface outIface).ipAddr ripMulticast ipprotoUdp
    (packetFill (t.memory net.allocs) (udpDatagram ripPort ripPort (ripUpdate entries)))
  rw [bytes_packetFill] at hout
  show ipOutputs (udpSend t net (t.iface outIface).ipAddr ripMulticast ripPort ripPort
    (ripUpdate entries)).1.calls = _
  unfold udpSend
  rw [if_neg hport, if_neg hshort]
  exact hout

/-! ## The loop -/

/-- The loop of `rip_send_update`: the payloads with 25 entries that were sent, and the entries
    in the buffer. -/
structure RipChunks (net : Net) (acc : Net × List UInt8 × Bool) (full : List (List RipRouteInfo))
    (rest : List RipRouteInfo) : Prop where
  count : ∀ chunk ∈ full, chunk.length = ripMaxRoutes
  short : rest.length < ripMaxRoutes
  buffer : acc.2.1 = rest.flatMap ripEntry
  calls : ipOutputs acc.1.calls =
    ipOutputs net.calls ++ full.map fun chunk => ripDatagram (ripUpdate chunk)

section
variable {t : Topology} {net : Net} {state : RipState} {outIface : IfaceRef}

/-- An entry that goes out is put into the buffer, which is sent when it is full. -/
theorem RipChunks.step {acc : Net × List UInt8 × Bool} {full : List (List RipRouteInfo)}
    {rest : List RipRouteInfo} (h : RipChunks net acc full rest) {i : Fin ripDbSize}
    {r : Net × List UInt8 × Bool} (hentry :
      let entries := acc.2.1 ++ ripEntry (state.db i)
      let sent := ripSendPayload t acc.1 outIface entries
      entries.length = ripMaxRoutes * ripEntryLen ∧ r = (sent.1, [], sent.2 == -1) ∨
        entries.length ≠ ripMaxRoutes * ripEntryLen ∧ r = (acc.1, entries, false)) :
    ∃ full' rest', RipChunks net r full' rest' ∧
      full'.flatten ++ rest' = full.flatten ++ rest ++ [state.db i] := by
  have hnew : acc.2.1 ++ ripEntry (state.db i) = (rest ++ [state.db i]).flatMap ripEntry := by
    rw [List.flatMap_append, h.buffer, List.flatMap_singleton]
  have hmax : (rest ++ [state.db i]).length ≤ ripMaxRoutes := by
    rw [List.length_append]
    exact h.short
  dsimp only at hentry
  rw [hnew, Records.length_flatMap length_ripEntry] at hentry
  rcases hentry with ⟨hlen, rfl⟩ | ⟨hlen, rfl⟩
  · have hcount : (rest ++ [state.db i]).length = ripMaxRoutes :=
      Nat.eq_of_mul_eq_mul_right (by decide : 0 < ripEntryLen) hlen
    refine ⟨full ++ [rest ++ [state.db i]], [], ⟨fun chunk hchunk => ?_, by decide, rfl, ?_⟩, ?_⟩
    · rcases List.mem_append.mp hchunk with hchunk | hchunk
      · exact h.count chunk hchunk
      · rw [List.mem_singleton.mp hchunk]
        exact hcount
    · rw [List.map_append, ← List.append_assoc, ← h.calls]
      exact ipOutputs_ripSendPayload t acc.1 outIface hmax
    · simp
  · have hcount : (rest ++ [state.db i]).length ≠ ripMaxRoutes := fun hcount =>
      hlen (by rw [hcount])
    exact ⟨full, rest ++ [state.db i], ⟨h.count, lt_of_le_of_ne hmax hcount, rfl, h.calls⟩,
      (List.append_assoc _ _ _).symm⟩

/-- As long as no send has failed, what the loop has found is in the payloads sent and in the
    buffer, in its order. -/
theorem ripSendEntry_chunks (t : Topology) (net : Net) (state : RipState) (outIface : IfaceRef) :
    (Slots.forEach ripDbSize (ripSendEntry t state outIface) (net, [], false)).2.2 = false →
      ∃ full rest,
        RipChunks net (Slots.forEach ripDbSize (ripSendEntry t state outIface) (net, [], false))
          full rest ∧ full.flatten ++ rest = ripSentEntries state outIface := by
  refine Slots.forEach_visited (f := ripSendEntry t state outIface) (x := (net, [], false))
    (fun is acc => acc.2.2 = false → ∃ full rest, RipChunks net acc full rest ∧
      full.flatten ++ rest = (is.map state.db).filter fun entry => entry.sentOn outIface)
    (fun _ => ⟨[], [], ⟨by simp, by decide, rfl, by simp⟩, rfl⟩) fun is i acc ih hok => ?_
  rw [List.map_append, List.filter_append, List.map_singleton]
  rcases ripSendEntry_cases t state outIface acc i with ⟨hskip, he⟩ | ⟨hok', hsent, hentry⟩
  · rw [he] at hok ⊢
    have hsent : (state.db i).sentOn outIface = false :=
      hskip.resolve_left (ne_true_of_eq_false hok)
    obtain ⟨full, rest, hchunks, hfound⟩ := ih hok
    exact ⟨full, rest, hchunks, by simp [hfound, hsent]⟩
  · obtain ⟨full, rest, hchunks, hfound⟩ := ih hok'
    have hone : [state.db i].filter (fun entry => entry.sentOn outIface) = [state.db i] :=
      List.filter_cons_of_pos hsent
    rw [hone, ← hfound]
    exact hchunks.step hentry

end

/-- An update of which no send failed was sent in chunks with one to 25 entries. -/
theorem ripSendUpdate_chunks {t : Topology} {net : Net} {state : RipState} {outIface : IfaceRef}
    (hok : (ripSendUpdate t net state outIface).2 ≠ -1) :
    ∃ chunks : List (List RipRouteInfo),
      (∀ chunk ∈ chunks, chunk ≠ [] ∧ chunk.length ≤ ripMaxRoutes) ∧
      chunks.flatten = ripSentEntries state outIface ∧
      ipOutputs (ripSendUpdate t net state outIface).1.calls =
        ipOutputs net.calls ++ chunks.map fun chunk => ripDatagram (ripUpdate chunk) := by
  have hloop := ripSendEntry_chunks t net state outIface
  unfold ripSendUpdate at hok ⊢
  generalize Slots.forEach ripDbSize (ripSendEntry t state outIface) (net, [], false) = acc
    at hloop hok ⊢
  obtain ⟨net', buffer, failed⟩ := acc
  dsimp only at hloop hok ⊢
  cases failed with
  | true => exact absurd rfl hok
  | false =>
    obtain ⟨full, rest, hchunks, hfound⟩ := hloop rfl
    have hcalls : ipOutputs net'.calls =
        ipOutputs net.calls ++ full.map fun chunk => ripDatagram (ripUpdate chunk) := hchunks.calls
    have hbuffer : buffer = rest.flatMap ripEntry := hchunks.buffer
    have hfull : ∀ chunk ∈ full, chunk ≠ [] ∧ chunk.length ≤ ripMaxRoutes := by
      intro chunk hchunk
      have hcount := hchunks.count chunk hchunk
      refine ⟨fun hnil => ?_, hcount.le⟩
      rw [hnil] at hcount
      cases hcount
    rw [if_neg Bool.false_ne_true]
    by_cases hrest : rest = []
    · have hempty : buffer = [] := by rw [hbuffer, hrest, List.flatMap_nil]
      rw [if_neg (not_not.mpr hempty)]
      refine ⟨full, hfull, ?_, hcalls⟩
      rw [← hfound, hrest, List.append_nil]
    · have hne : buffer ≠ [] := by
        intro hempty
        have hlen := Records.length_flatMap length_ripEntry rest
        rw [← hbuffer, hempty] at hlen
        have hpos := List.length_pos_iff.mpr hrest
        unfold ripEntryLen at hlen
        rw [List.length_nil] at hlen
        omega
      rw [if_pos hne, hbuffer]
      refine ⟨full ++ [rest], fun chunk hchunk => ?_, ?_, ?_⟩
      · rcases List.mem_append.mp hchunk with hchunk | hchunk
        · exact hfull chunk hchunk
        · rw [List.mem_singleton.mp hchunk]
          exact ⟨hrest, hchunks.short.le⟩
      · rw [← hfound, List.flatten_append, List.flatten_singleton]
      · rw [List.map_append, ← List.append_assoc, ← hcalls]
        exact ipOutputs_ripSendPayload t net' outIface hchunks.short.le

/-! ## The database of a router -/

section
variable {s : RipRouter}

/-- A store of an entry about a network keeps the others. -/
theorem RipDbPrefixed.update {state state' : RipState} (h : RipDbPrefixed state)
    {i : Fin ripDbSize} {r : RipRouteInfo} (hdb : state'.db = Function.update state.db i r)
    (hr : r.valid = true → r.Prefixed) : RipDbPrefixed state' := by
  unfold RipDbPrefixed
  rw [hdb]
  exact Slots.forall_update (p := fun e : RipRouteInfo => e.valid = true → e.Prefixed) h hr i

theorem RipDbPrefixed.receiveEntry (h : RipDbPrefixed s.rip) (iface : IfaceRef) (srcIp : UInt32)
    (now : UInt64) (e : RipEntry) : RipDbPrefixed (ripReceiveEntry iface srcIp now s e).rip := by
  rcases ripReceiveEntry_cases iface srcIp now s e with he | ⟨i, hv, he⟩ | ⟨k, i, hi, he⟩
  · rw [he]
    exact h
  · rw [he]
    exact h.update rfl fun _ => ⟨(h i hv).normalized, (h i hv).prefixLen⟩
  · rw [he]
    exact h.update rfl fun _ => ⟨hi.names.normalized, hi.names.prefixLen⟩

theorem RipDbPrefixed.timeoutEntry (h : RipDbPrefixed s.rip) (now : UInt64) (i : Fin ripDbSize) :
    RipDbPrefixed (ripTimeoutEntry now s i).rip := by
  rcases ripTimeoutEntry_cases now s i with ⟨he, -⟩ | ⟨hv, -, he⟩
  · rw [he]
    exact h
  · rw [he]
    exact h.update rfl fun _ => ⟨(h i hv).normalized, (h i hv).prefixLen⟩

theorem RipDbPrefixed.gcEntry {state : RipState} (h : RipDbPrefixed state) (now : UInt64)
    (i : Fin ripDbSize) : RipDbPrefixed (ripGcEntry now state i) := by
  rcases ripGcEntry_cases now state i with he | ⟨-, -, -, he⟩
  · rw [he]
    exact h
  · rw [he]
    exact h.update rfl fun hv => by cases hv

theorem RipDbPrefixed.step (h : RipDbPrefixed s.rip) (c : UInt64 × RipCall) :
    RipDbPrefixed (ripStep s c).rip := by
  obtain ⟨now, call⟩ := c
  cases call with
  | receive iface srcIp payload =>
    exact run_invariant (fun s : RipRouter => RipDbPrefixed s.rip)
      (fun _ e hs => hs.receiveEntry iface srcIp now e) (ripEntries payload) s h
  | timeout =>
    exact Slots.forEach_invariant (fun s : RipRouter => RipDbPrefixed s.rip) h
      fun i _ hs => hs.timeoutEntry now i
  | gc =>
    exact Slots.forEach_invariant RipDbPrefixed h fun i _ hs => hs.gcEntry now i
  | other op hop => exact h

/-- Whatever a router receives, its database holds networks with a prefix length. -/
theorem ripDbPrefixed_run (calls : List (UInt64 × RipCall)) :
    RipDbPrefixed (run ripStep ripRouterInit calls).rip :=
  run_invariant (fun s : RipRouter => RipDbPrefixed s.rip) (fun _ c hs => hs.step c) calls
    ripRouterInit fun i hi => by cases hi

end

/-! ## Result -/

/-- The databases that a router can have hold networks with a prefix length. An update of such
    a database without a next hop 0, of which no send failed, is a sequence of payloads with 1 to
    25 entries that `rip_receive` takes; they decode, in their order, to the entries that were
    not learned on the interface, in the order of their slots. -/
theorem ripSendUpdate_payloads :
    (∀ calls, RipDbPrefixed (run ripStep ripRouterInit calls).rip) ∧
      ∀ (t : Topology) (net : Net) (state : RipState) (outIface : IfaceRef),
        RipDbPrefixed state → (∀ i, (state.db i).valid = true → (state.db i).nextHop ≠ 0) →
        (ripSendUpdate t net state outIface).2 ≠ -1 →
        ∃ payloads : List (List UInt8),
          ipOutputs (ripSendUpdate t net state outIface).1.calls =
            ipOutputs net.calls ++ payloads.map ripDatagram ∧
          (∀ payload ∈ payloads, RipPayloadOk payload) ∧
          ∀ srcIp, payloads.flatMap (ripDecodePayload srcIp) =
            (ripSentEntries state outIface).map RipRouteInfo.route := by
  refine ⟨ripDbPrefixed_run, fun t net state outIface hdb hhop hok => ?_⟩
  obtain ⟨chunks, hchunks, hflat, hcalls⟩ := ripSendUpdate_chunks hok
  have hentry : ∀ chunk ∈ chunks, ∀ entry ∈ chunk,
      ∃ i, state.db i = entry ∧ entry.valid = true := by
    intro chunk hchunk entry hmem
    have hsent : entry ∈ ripSentEntries state outIface := by
      rw [← hflat]
      exact List.mem_flatten_of_mem hchunk hmem
    obtain ⟨hdbEntry, hsentOn⟩ := List.mem_filter.mp hsent
    obtain ⟨i, -, hi⟩ := List.mem_map.mp hdbEntry
    exact ⟨i, hi, (sentOn_iff.mp hsentOn).1⟩
  refine ⟨chunks.map ripUpdate, ?_, fun payload hpayload => ?_, fun srcIp => ?_⟩
  · rw [List.map_map]
    exact hcalls
  · obtain ⟨chunk, hchunk, rfl⟩ := List.mem_map.mp hpayload
    exact ripPayloadOk_update (hchunks chunk hchunk).1 (hchunks chunk hchunk).2
  · rw [← hflat, List.map_flatten, List.flatMap_map, ← List.flatMap_def]
    refine List.flatMap_congr fun chunk hchunk => ?_
    refine ripDecodePayload_update srcIp (hchunks chunk hchunk).2 (fun entry hmem => ?_)
      fun entry hmem => ?_
    · obtain ⟨i, rfl, hi⟩ := hentry chunk hchunk entry hmem
      exact hdb i hi
    · obtain ⟨i, rfl, hi⟩ := hentry chunk hchunk entry hmem
      exact hhop i hi

/-- A database with 26 networks, one of which was learned on the interface 0. -/
def exampleRipNetworks : RipState where
  db i := if i.val < 26 then
      { pfx := UInt32.ofNat i.val <<< 16, prefixLen := 16, state := 1, valid := true,
        metric := 1, nextHop := 0x0A000001, learnedOn := if i.val = 3 then some 0 else none }
    else {}
  dbCount := 26
  ifaces _ := none
  ifaceCount := 0

theorem ripSendUpdate_payloads_exampleRipNetworks :
    ∃ payloads : List (List UInt8),
      ipOutputs (ripSendUpdate (exampleRipRouters [1, 2]) netInit exampleRipNetworks 1).1.calls =
        ipOutputs netInit.calls ++ payloads.map ripDatagram ∧
      (∀ payload ∈ payloads, RipPayloadOk payload) ∧
      ∀ srcIp, payloads.flatMap (ripDecodePayload srcIp) =
        (ripSentEntries exampleRipNetworks 1).map RipRouteInfo.route := by
  have hdb : RipDbPrefixed exampleRipNetworks := by
    have hall : ∀ i, (exampleRipNetworks.db i).valid = true →
        (exampleRipNetworks.db i).pfx &&& ipv4PrefixMask (exampleRipNetworks.db i).prefixLen =
          (exampleRipNetworks.db i).pfx ∧ (exampleRipNetworks.db i).prefixLen ≤ 32 := by
      decide +kernel
    exact fun i hi => ⟨(hall i hi).1, (hall i hi).2⟩
  exact ripSendUpdate_payloads.2 (exampleRipRouters [1, 2]) netInit exampleRipNetworks 1 hdb
    (by decide +kernel) (by decide +kernel)

/-- The update on the interface 1 has all 26, in two payloads; the one on the interface 0 has 25,
    in one. -/
example :
    (ripSentEntries exampleRipNetworks 1).length = 26 ∧
      (ipOutputs (ripSendUpdate (exampleRipRouters [1, 2]) netInit exampleRipNetworks 1).1.calls).length
        = 2 ∧
      (ripSentEntries exampleRipNetworks 0).length = 25 ∧
      (ipOutputs (ripSendUpdate (exampleRipRouters [1, 2]) netInit exampleRipNetworks 0).1.calls).length
        = 1 := by
  decide +kernel

end FrameRunner
