import FrameRunner.Network.Resolution
import FrameRunner.Routing.Lookup

/-!
# Forwarded packets

What `router_receive` does to a packet that it sends on or queues: one hop less,
the checksum with it, and nothing else; to the station that the longest matching
route names. A packet has only so many hops, whatever the routes are.

Main result: `routerReceive_forwards`.
-/

namespace FrameRunner

open FrameRunner.Lib

/-! ## The packet one hop on -/

/-- The packet `bytes'` is `bytes` one hop on. -/
structure OneHopOn (bytes bytes' : List UInt8) : Prop where
  hops : 2 ≤ (getU8 bytes 8).toNat
  ttl : (getU8 bytes' 8).toNat + 1 = (getU8 bytes 8).toNat
  length : bytes'.length = bytes.length
  same : ∀ i, i ≠ 8 → i ≠ 10 → i ≠ 11 → bytes'[i]? = bytes[i]?
  valid : ∀ p : Packet, p.bytes = bytes' → ipValidateHeader p = true

/-- Overwriting the header leaves the rest. -/
theorem bytes_packetOverwrite {p : Packet} {bytes : List UInt8} (h : bytes.length ≤ p.len) :
    (packetOverwrite p bytes).bytes = bytes ++ p.bytes.drop bytes.length := by
  have hbefore : p.before.length = p.data := p.length_before
  have htake : bytes.take p.len = bytes := List.take_of_length_le h
  unfold Packet.bytes packetOverwrite
  dsimp only
  rw [htake, List.append_assoc, List.drop_append_of_le_length (by omega),
    List.drop_of_length_le (by omega), List.nil_append, List.take_append, List.take_of_length_le h,
    List.drop_take, List.drop_drop]

theorem getElem_ipForwardedHeader (h : IpHeader) {i : ℕ} (hi : i < ipHdrLen) (h8 : i ≠ 8)
    (h10 : i ≠ 10) (h11 : i ≠ 11) : (ipForwardedHeader h).bytes[i]? = h.bytes[i]? := by
  have hi : i < 20 := hi
  interval_cases i <;> first | rfl | contradiction

/-- The bytes of a valid packet with hops left, after the header was rewritten. -/
theorem oneHopOn_overwrite {p : Packet} (hvalid : ipValidateHeader p = true)
    (httl : ¬ (getIpHeader p.bytes).ttl ≤ 1) :
    OneHopOn p.bytes (packetOverwrite p (ipForwardedHeader (getIpHeader p.bytes)).bytes).bytes := by
  obtain ⟨hlen, hfirst, -⟩ := ipValidateHeader_iff.mp hvalid
  have hbytes : ipHdrLen ≤ p.bytes.length := by
    rw [p.length_bytes]
    exact hlen
  have hover : (packetOverwrite p (ipForwardedHeader (getIpHeader p.bytes)).bytes).bytes =
      (ipForwardedHeader (getIpHeader p.bytes)).bytes ++ p.bytes.drop ipHdrLen :=
    bytes_packetOverwrite hlen
  have hsplit := bytes_getIpHeader hbytes
  have httl : 1 < (getU8 p.bytes 8).toNat := by
    have h := UInt8.not_le.mp httl
    exact UInt8.lt_iff_toNat_lt.mp h
  rw [hover]
  refine ⟨httl, ?_, ?_, fun i h8 h10 h11 => ?_, fun p' hp' => ?_⟩
  · have hnew : getU8 ((ipForwardedHeader (getIpHeader p.bytes)).bytes ++ p.bytes.drop ipHdrLen) 8 =
        getU8 p.bytes 8 - 1 := getU8_of_drop rfl
    have hone : (1 : UInt8).toNat ≤ (getU8 p.bytes 8).toNat := httl.le
    rw [hnew, UInt8.toNat_sub_of_le _ _ (UInt8.le_iff_toNat_le.mpr hone)]
    exact Nat.sub_add_cancel httl.le
  · rw [List.length_append, IpHeader.length_bytes, List.length_drop]
    omega
  · conv_rhs => rw [hsplit]
    by_cases hi : i < ipHdrLen
    · rw [List.getElem?_append_left (by rw [IpHeader.length_bytes]; exact hi),
        List.getElem?_append_left (by rw [IpHeader.length_bytes]; exact hi),
        getElem_ipForwardedHeader _ hi h8 h10 h11]
    · have hi : ipHdrLen ≤ i := Nat.le_of_not_lt hi
      rw [List.getElem?_append_right (by rw [IpHeader.length_bytes]; exact hi),
        List.getElem?_append_right (by rw [IpHeader.length_bytes]; exact hi),
        IpHeader.length_bytes, IpHeader.length_bytes]
  · rw [ipValidateHeader_iff, hp', getIpHeader_append]
    refine ⟨?_, ?_, ipChecksum_setChecksum _ rfl⟩
    · rw [← p'.length_bytes, hp', List.length_append, IpHeader.length_bytes]
      omega
    · have hnew : getU8 ((ipForwardedHeader (getIpHeader p.bytes)).bytes ++
          p.bytes.drop ipHdrLen) 0 = getU8 p.bytes 0 := getU8_of_drop rfl
      rw [hnew, hfirst]

/-! ## What a router forwards -/

/-- The call has put these bytes as an IPv4 packet for `dstMac` on the wire, and has
    handed nothing to `ip_output`. -/
def RouterSends (t : Topology) (net : Net) (router : Router) (iface : IfaceRef) (pkt : Packet)
    (out : IfaceRef) (dstMac : Mac) (bytes : List UInt8) : Prop :=
  let net' := (routerReceive t net router iface pkt).1
  ipOutputs net'.calls = ipOutputs net.calls ∧ ∃ dst e, Made net net' (.schedule e) ∧
    OnWire out dst (ethernetHeader dstMac (t.iface out).mac ethertypeIpv4 ++ bytes) e

/-- The call has put these bytes as an IPv4 packet into a free slot of the queue for
    the address `targetIp`, and has handed nothing to `ip_output`. -/
def RouterQueues (t : Topology) (net : Net) (router : Router) (iface : IfaceRef) (pkt : Packet)
    (out : IfaceRef) (targetIp : UInt32) (bytes : List UInt8) : Prop :=
  let net' := (routerReceive t net router iface pkt).1
  ipOutputs net'.calls = ipOutputs net.calls ∧ ∃ i packet,
    ((net.arp router.arpCache).pending i).valid = false ∧
    (net'.arp router.arpCache).pending i =
      ⟨targetIp, ethertypeIpv4, some out, some packet, true⟩ ∧ packet.bytes = bytes

/-- A router sends or queues the bytes `bytes'` for the packet `bytes`. -/
def RouterHop (t : Topology) (bytes bytes' : List UInt8) : Prop :=
  ∃ net router iface pkt out, pkt.bytes = bytes ∧
    ((∃ dstMac, RouterSends t net router iface pkt out dstMac bytes') ∨
      ∃ targetIp, RouterQueues t net router iface pkt out targetIp bytes')

/-- `router_receive` lets the packet pass: it forwards it as `fwd` on `out` to the
    station `targetIp`. -/
structure Passes (t : Topology) (router : Router) (pkt : Packet) (out : IfaceRef)
    (targetIp : UInt32) (fwd : Packet) : Prop where
  valid : ipValidateHeader pkt = true
  ttl : ¬ (getIpHeader pkt.bytes).ttl ≤ 1
  route : ∃ route, routeTableLookup router.routeTbl (getIpHeader pkt.bytes).dstIp = some route ∧
    route.iface = some out ∧
    targetIp = if route.nextHop ≠ 0 then route.nextHop else (getIpHeader pkt.bytes).dstIp
  fwd : fwd = packetOverwrite pkt (ipForwardedHeader (getIpHeader pkt.bytes)).bytes

/-- Nothing is sent or queued without a call of `ip_output`. -/
def SilentIfNoOutput (net net' : Net) : Prop :=
  ipOutputs net'.calls = ipOutputs net.calls →
    net'.arp = net.arp ∧ ∀ e, ¬ Made net net' (.schedule e)

theorem silent_of_eq {net net' : Net} (harp : net'.arp = net.arp) (hcalls : net'.calls = net.calls) :
    SilentIfNoOutput net net' :=
  fun _ => ⟨harp, fun _ => not_made hcalls _⟩

theorem icmpSendError_silentIfNoOutput (t : Topology) (net : Net) (iface : IfaceRef)
    (origPkt : Packet) (type code : UInt8) (nextHopMtu : UInt16) :
    SilentIfNoOutput net (icmpSendError t net iface origPkt type code nextHopMtu).1 := by
  by_cases hroom : ipHdrLen ≤ origPkt.data
  · cases hsup : icmpSuppressed (getIpHeader (origPkt.header ipHdrLen)) origPkt.bytes with
    | false =>
      intro hsame
      rw [icmpSendError_message t net iface type code nextHopMtu hroom hsup] at hsame
      exact absurd (congrArg List.length hsame) (by simp)
    | true =>
      unfold icmpSendError
      simp only [hsup, if_true]
      split
      · exact silent_of_eq rfl rfl
      · exact silent_of_eq rfl rfl
  · have hview : packetValidateView origPkt ipHdrLen 0 = false := by
      rw [← Bool.not_eq_true, packetValidateView_iff]
      exact fun h => hroom h.1
    unfold icmpSendError
    simp only [hview, Bool.not_false, if_true]
    exact silent_of_eq rfl rfl

theorem not_made_record (net : Net) {c : NetCall} (hc : ¬ c.IsSchedule) (e : NetEvent) :
    ¬ Made net (net.record c) (.schedule e) := by
  rw [made_iff (Net.record_calls net c), List.mem_singleton]
  rintro rfl
  exact hc trivial

theorem udpReceive_silentIfNoOutput (t : Topology) (net : Net) (iface : IfaceRef) (pkt : Packet)
    (ctx : UdpContext) : SilentIfNoOutput net (udpReceive t net iface pkt ctx).1 := by
  unfold udpReceive
  dsimp only
  split
  · exact silent_of_eq rfl rfl
  split
  · exact silent_of_eq rfl rfl
  split
  · exact silent_of_eq rfl rfl
  split
  · exact silent_of_eq rfl rfl
  split
  · split
    · exact silent_of_eq rfl rfl
    · exact fun _ => ⟨rfl, not_made_record net id⟩
  · split
    · exact icmpSendError_silentIfNoOutput t net iface pkt _ _ _
    · exact silent_of_eq rfl rfl

theorem ipReceive_silentIfNoOutput (t : Topology) (net : Net) (iface : IfaceRef) (frame : Packet)
    (stack : StackRef) : SilentIfNoOutput net (ipReceive t net iface frame stack).1 := by
  unfold ipReceive
  dsimp only
  split
  · exact silent_of_eq rfl rfl
  split
  · exact silent_of_eq rfl rfl
  split
  · exact silent_of_eq rfl rfl
  split
  · exact silent_of_eq rfl rfl
  split
  · exact silent_of_eq rfl rfl
  · exact udpReceive_silentIfNoOutput t (net.rxBytes iface frame.len) iface _ _
  · exact fun _ => ⟨rfl, not_made_record (net.rxBytes iface frame.len) id⟩

/-- `router_receive` forwards the packet, or sends and queues nothing but by
    `ip_output`. -/
theorem routerReceive_cases (t : Topology) (net : Net) (router : Router) (iface : IfaceRef)
    (pkt : Packet) :
    SilentIfNoOutput net (routerReceive t net router iface pkt).1 ∨
    ∃ out targetIp fwd, Passes t router pkt out targetIp fwd ∧
      ((∃ dstMac, arpCacheLookup (net.arp router.arpCache) targetIp = some dstMac ∧
          (routerReceive t net router iface pkt).1 =
            (ethernetSend t net out dstMac ethertypeIpv4 fwd).1) ∨
        (routerReceive t net router iface pkt).1 =
          (arpRequestAndQueue t net router.arpCache out targetIp fwd).1) := by
  unfold routerReceive
  dsimp only
  split
  · exact .inl (silent_of_eq rfl rfl)
  rename_i hvalid
  have hvalid : ipValidateHeader pkt = true := by simpa using hvalid
  split
  · exact .inl (ipReceive_silentIfNoOutput t net iface pkt router.ipStack)
  split
  · exact .inl (icmpSendError_silentIfNoOutput t net iface pkt _ _ _)
  rename_i httl
  split
  · exact .inl (icmpSendError_silentIfNoOutput t net iface pkt _ _ _)
  rename_i route hroute
  split
  · exact .inl (silent_of_eq rfl rfl)
  rename_i out hout
  have hpass : Passes t router pkt out
      (if route.nextHop ≠ 0 then route.nextHop else (getIpHeader pkt.bytes).dstIp)
      (packetOverwrite pkt (ipForwardedHeader (getIpHeader pkt.bytes)).bytes) :=
    ⟨hvalid, httl, ⟨route, hroute, hout, rfl⟩, rfl⟩
  split
  · rename_i dstMac hmac
    exact .inr ⟨out, _, _, hpass, .inl ⟨dstMac, hmac, rfl⟩⟩
  · exact .inr ⟨out, _, _, hpass, .inr rfl⟩

/-! ## What is on the wire, and in the queue -/

/-- An event carries one frame, and a frame one packet. -/
theorem OnWire.frame_unique {src src' dst dst' : IfaceRef} {dstMac dstMac' srcMac srcMac' : Mac}
    {ethertype ethertype' : UInt16} {bytes bytes' : List UInt8} {e : NetEvent}
    (h : OnWire src dst (ethernetHeader dstMac srcMac ethertype ++ bytes) e)
    (h' : OnWire src' dst' (ethernetHeader dstMac' srcMac' ethertype' ++ bytes') e) :
    src = src' ∧ dstMac = dstMac' ∧ ethertype = ethertype' ∧ bytes = bytes' := by
  obtain ⟨pkt, hpkt, hbytes, -⟩ := h.packet
  obtain ⟨pkt', hpkt', hbytes', -⟩ := h'.packet
  obtain rfl := Option.some.inj (hpkt.symm.trans hpkt')
  have heq := hbytes.symm.trans hbytes'
  obtain ⟨hheader, hrest⟩ := List.append_inj heq rfl
  have hmac := congrArg (fun header => getMac header 0) hheader
  have htype := congrArg (fun header => getU16 header 12) hheader
  have h12 := getU16_ethernetHeader dstMac srcMac ethertype []
  have h12' := getU16_ethernetHeader dstMac' srcMac' ethertype' []
  rw [List.append_nil] at h12 h12'
  refine ⟨Option.some.inj (h.src.symm.trans h'.src), hmac, ?_, hrest⟩
  exact h12.symm.trans (htype.trans h12')

/-- Asking for an address puts no IPv4 packet on the wire. -/
theorem arpRequestAndQueue_no_ipv4 {t : Topology} {net : Net} {cache : CacheRef}
    {out src dst : IfaceRef} {targetIp : UInt32} {fwd : Packet} {e : NetEvent} {dstMac srcMac : Mac}
    {bytes : List UInt8}
    (hmade : Made net (arpRequestAndQueue t net cache out targetIp fwd).1 (.schedule e)) :
    ¬ OnWire src dst (ethernetHeader dstMac srcMac ethertypeIpv4 ++ bytes) e := by
  intro hwire
  have hcalls : (arpRequestAndQueue t net cache out targetIp fwd).1.calls =
      (arpSendRequest t net out targetIp).1.calls := by
    unfold arpRequestAndQueue
    dsimp only
    split
    · rfl
    · split <;> rfl
  have hmade : Made net (arpSendRequest t net out targetIp).1 (.schedule e) := by
    obtain ⟨more, hmore, hc⟩ := hmade
    exact ⟨more, hcalls.symm.trans hmore, hc⟩
  by_cases h0 : targetIp = 0
  · unfold arpSendRequest at hmade
    rw [if_pos h0] at hmade
    exact not_made rfl _ hmade
  · rcases arpSendRequest_cases t net out h0 with ⟨-, hsame, -⟩ | ⟨-, dst', e', -, -, hwire', hsched⟩
    · exact not_made hsame.calls _ hmade
    · obtain rfl : e = e' := by simpa using (hsched.made_iff _).mp hmade
      have htype := (hwire.frame_unique hwire').2.2.1
      exact absurd htype (by decide)

/-- A slot of the queue that is filled holds the packet and the address. -/
theorem arpRequestAndQueue_pending {t : Topology} {net : Net} {cache : CacheRef}
    {out : IfaceRef} {targetIp : UInt32} {fwd : Packet} {i : Fin arpMaxPendingPackets}
    {slot : ArpPendingPacket} (hfree : ((net.arp cache).pending i).valid = false)
    (hslot : ((arpRequestAndQueue t net cache out targetIp fwd).1.arp cache).pending i = slot)
    (hvalid : slot.valid = true) : slot = ⟨targetIp, ethertypeIpv4, some out, some fwd, true⟩ := by
  have harp : (arpSendRequest t net out targetIp).1.arp = net.arp := by
    by_cases h0 : targetIp = 0
    · unfold arpSendRequest
      rw [if_pos h0]
    · rcases arpSendRequest_cases t net out h0 with ⟨-, hsame, -⟩ | ⟨-, dst, e, -, -, -, hsched⟩
      · exact hsame.arp
      · exact hsched.arp
  have hold : (net.arp cache).pending i ≠ slot := by
    rintro rfl
    rw [hfree] at hvalid
    cases hvalid
  unfold arpRequestAndQueue at hslot
  dsimp only at hslot
  split at hslot
  · rw [harp] at hslot
    exact absurd hslot hold
  · have hqueue : (arpPendingEnqueue (net.arp cache) out targetIp ethertypeIpv4 fwd).1.pending i =
        slot := by
      rw [harp] at hslot
      split at hslot <;> simpa [Net.setArp] using hslot
    unfold arpPendingEnqueue at hqueue
    split at hqueue
    · exact absurd hqueue hold
    split at hqueue
    · rename_i j hj
      by_cases hij : i = j
      · subst hij
        dsimp only at hqueue
        rw [Function.update_self] at hqueue
        exact hqueue.symm
      · dsimp only at hqueue
        rw [Function.update_of_ne hij] at hqueue
        exact absurd hqueue hold
    · exact absurd hqueue hold

theorem Passes.oneHopOn {t : Topology} {router : Router} {pkt fwd : Packet} {out : IfaceRef}
    {targetIp : UInt32} (h : Passes t router pkt out targetIp fwd) :
    OneHopOn pkt.bytes fwd.bytes := by
  rw [h.fwd]
  exact oneHopOn_overwrite h.valid h.ttl

/-- What is sent was let pass, and goes to the station that the cache has for the
    address. -/
theorem passes_of_sends {t : Topology} {net : Net} {router : Router} {iface out : IfaceRef}
    {pkt : Packet} {dstMac : Mac} {bytes : List UInt8}
    (h : RouterSends t net router iface pkt out dstMac bytes) :
    ∃ targetIp fwd, Passes t router pkt out targetIp fwd ∧ fwd.bytes = bytes ∧
      arpCacheLookup (net.arp router.arpCache) targetIp = some dstMac := by
  obtain ⟨hsame, dst, e, hmade, hwire⟩ := h
  rcases routerReceive_cases t net router iface pkt with
    hsilent | ⟨out', targetIp, fwd, hpass, ⟨dstMac', hmac, heq⟩ | heq⟩
  · exact absurd hmade ((hsilent hsame).2 e)
  · rw [heq] at hmade
    rcases ethernetSend_cases t net out' dstMac' ethertypeIpv4 fwd with
      ⟨-, hbut, -⟩ | ⟨-, dst', e', -, hwire', hsched⟩
    · exact absurd hmade (not_made hbut.calls _)
    · obtain rfl : e = e' := by simpa using (hsched.made_iff _).mp hmade
      obtain ⟨rfl, rfl, -, rfl⟩ := hwire.frame_unique hwire'
      exact ⟨targetIp, fwd, hpass, rfl, hmac⟩
  · rw [heq] at hmade
    exact absurd hwire (arpRequestAndQueue_no_ipv4 hmade)

/-- What is queued was let pass, and waits for the address. -/
theorem passes_of_queues {t : Topology} {net : Net} {router : Router} {iface out : IfaceRef}
    {pkt : Packet} {targetIp : UInt32} {bytes : List UInt8}
    (h : RouterQueues t net router iface pkt out targetIp bytes) :
    ∃ fwd, Passes t router pkt out targetIp fwd ∧ fwd.bytes = bytes := by
  obtain ⟨hsame, i, packet, hfree, hslot, rfl⟩ := h
  have hunchanged : (routerReceive t net router iface pkt).1.arp ≠ net.arp := by
    intro harp
    rw [harp] at hslot
    rw [hslot] at hfree
    cases hfree
  rcases routerReceive_cases t net router iface pkt with
    hsilent | ⟨out', targetIp', fwd, hpass, ⟨dstMac', -, heq⟩ | heq⟩
  · exact absurd (hsilent hsame).1 hunchanged
  · refine absurd ?_ hunchanged
    rw [heq]
    rcases ethernetSend_cases t net out' dstMac' ethertypeIpv4 fwd with
      ⟨-, hbut, -⟩ | ⟨-, dst, e, -, -, hsched⟩
    · exact hbut.arp
    · exact hsched.arp
  · rw [heq] at hslot
    have heq := arpRequestAndQueue_pending hfree hslot rfl
    simp only [ArpPendingPacket.mk.injEq, Option.some.injEq] at heq
    obtain ⟨rfl, -, rfl, rfl, -⟩ := heq
    exact ⟨packet, hpass, rfl⟩

theorem RouterHop.oneHopOn {t : Topology} {bytes bytes' : List UInt8} (h : RouterHop t bytes bytes') :
    OneHopOn bytes bytes' := by
  obtain ⟨net, router, iface, pkt, out, rfl, ⟨dstMac, h⟩ | ⟨targetIp, h⟩⟩ := h
  · obtain ⟨targetIp, fwd, hpass, rfl, -⟩ := passes_of_sends h
    exact hpass.oneHopOn
  · obtain ⟨fwd, hpass, rfl⟩ := passes_of_queues h
    exact hpass.oneHopOn

/-- A chain of hops uses up the hop limit. -/
theorem routerHops_le {t : Topology} {bytes : List UInt8} {hops : List (List UInt8)}
    (h : List.IsChain (RouterHop t) (bytes :: hops)) :
    hops.length ≤ (getU8 bytes 8).toNat - 1 := by
  induction hops generalizing bytes with
  | nil => exact Nat.zero_le _
  | cons bytes' hops ih =>
    rw [List.isChain_cons_cons] at h
    have hhop := h.1.oneHopOn
    have hrest := ih h.2
    have hhops := hhop.hops
    have httl := hhop.ttl
    rw [List.length_cons]
    omega

/-! ## The route -/

/-- The route for `dstIp`: the preferred one of those with the longest prefix that
    contains it. -/
def LongestMatch (t : RouteTable) (dstIp nextHop : UInt32) (iface : IfaceRef) : Prop :=
  ∃ i, (t.rib i).valid = true ∧ PrefixContains (t.rib i).pfx (t.rib i).prefixLen dstIp ∧
    (∀ k, (t.rib k).valid = true → PrefixContains (t.rib k).pfx (t.rib k).prefixLen dstIp →
      (t.rib k).prefixLen ≤ (t.rib i).prefixLen) ∧
    (∀ k, (t.rib k).valid = true → (t.rib k).pfx = (t.rib i).pfx →
      (t.rib k).prefixLen = (t.rib i).prefixLen → routeRank (t.rib i) i ≤ routeRank (t.rib k) k) ∧
    (t.rib i).nextHop = nextHop ∧ (t.rib i).iface = some iface

/-- The packet leaves on the interface of this route, for its next hop or, if that is
    zero, for its destination. -/
def RoutedTo (router : Router) (pkt : Packet) (out : IfaceRef) (targetIp : UInt32) : Prop :=
  ∃ nextHop, LongestMatch router.routeTbl (getIpHeader pkt.bytes).dstIp nextHop out ∧
    targetIp = if nextHop ≠ 0 then nextHop else (getIpHeader pkt.bytes).dstIp

theorem Passes.routedTo {t : Topology} {router : Router} {pkt fwd : Packet} {out : IfaceRef}
    {targetIp : UInt32} (h : Passes t router pkt out targetIp fwd)
    (htable : TableOk router.routeTbl) : RoutedTo router pkt out targetIp := by
  obtain ⟨route, hlookup, hiface, htarget⟩ := h.route
  obtain ⟨-, hlongest, i, hv, hc, -, hl, -, hnext, hif, -, hrank⟩ := htable.lookup_eq_some hlookup
  rw [hl] at hlongest
  exact ⟨route.nextHop, ⟨i, hv, hc, hlongest, hrank, hnext.symm, hif.symm.trans hiface⟩, htarget⟩

/-- Every packet that a router sends or queues is the received one with one hop less,
    still a valid packet, on the interface and for the address of the longest matching
    route; and a packet is forwarded less often than its hop limit says, along any
    chain of routers. -/
theorem routerReceive_forwards (t : Topology) :
    (∀ net router iface pkt out bytes ops, router.routeTbl = run routeOpStep routeTableInit ops →
      (∀ dstMac, RouterSends t net router iface pkt out dstMac bytes →
        OneHopOn pkt.bytes bytes ∧ ∃ targetIp, RoutedTo router pkt out targetIp ∧
          arpCacheLookup (net.arp router.arpCache) targetIp = some dstMac) ∧
      ∀ targetIp, RouterQueues t net router iface pkt out targetIp bytes →
        OneHopOn pkt.bytes bytes ∧ RoutedTo router pkt out targetIp) ∧
    ∀ bytes hops, List.IsChain (RouterHop t) (bytes :: hops) →
      hops.length ≤ (getU8 bytes 8).toNat - 1 := by
  refine ⟨fun net router iface pkt out bytes ops hops => ?_, fun bytes hops h => routerHops_le h⟩
  have htable : TableOk router.routeTbl := by
    rw [hops]
    exact tableOk_run ops
  constructor
  · intro dstMac h
    obtain ⟨targetIp, fwd, hpass, rfl, hmac⟩ := passes_of_sends h
    exact ⟨hpass.oneHopOn, targetIp, hpass.routedTo htable, hmac⟩
  · intro targetIp h
    obtain ⟨fwd, hpass, rfl⟩ := passes_of_queues h
    exact ⟨hpass.oneHopOn, hpass.routedTo htable⟩

/-- A router with a default route to the host 10.0.0.2. -/
def exampleForwarder : Router where
  interfaces := [0]
  arpCache := 0
  routeTbl := run routeOpStep routeTableInit [.add 0 0 0x0A000002 (some 0) 1 routeProtoStatic]
  ipStack := 0

/-- Nothing happened yet but that the router knows the host. -/
def exampleKnown : Net :=
  { netInit with arp := fun _ => arpCacheAdd arpCacheInit 0x0A000002 ⟨2, 0, 0, 0, 0, 2⟩ 0 }

/-- A packet to 10.9.9.9, and what is forwarded for it. -/
def exampleTransit : Packet :=
  packetFill (fun _ => 0) ((ipSentHeader 0x0A000003 0x0A090909 ipprotoUdp 8).bytes ++
    udpDatagram 4000 4001 [])

def exampleForwarded : Packet :=
  packetOverwrite exampleTransit (ipForwardedHeader (getIpHeader exampleTransit.bytes)).bytes

theorem routerQueues_exampleTransit : RouterQueues exampleHosts netInit exampleForwarder 0
    exampleTransit 0 0x0A000002 exampleForwarded.bytes :=
  ⟨by decide +kernel, 0, exampleForwarded, rfl, by decide +kernel, rfl⟩

theorem routerSends_exampleTransit : RouterSends exampleHosts exampleKnown exampleForwarder 0
    exampleTransit 0 ⟨2, 0, 0, 0, 0, 2⟩ exampleForwarded.bytes := by
  let net' := (routerReceive exampleHosts exampleKnown exampleForwarder 0 exampleTransit).1
  have hcarries : net'.carries 0 1 (ethernetHeader ⟨2, 0, 0, 0, 0, 2⟩ (exampleHosts.iface 0).mac
      ethertypeIpv4 ++ exampleForwarded.bytes) = true := by decide +kernel
  obtain ⟨e, he, hw⟩ := Net.exists_of_carries hcarries
  exact ⟨by decide +kernel, 1, e, ⟨net'.calls, rfl, he⟩, hw⟩

theorem routerReceive_forwards_exampleTransit :
    OneHopOn exampleTransit.bytes exampleForwarded.bytes ∧
      RoutedTo exampleForwarder exampleTransit 0 0x0A000002 ∧
      (∃ targetIp, RoutedTo exampleForwarder exampleTransit 0 targetIp ∧
        arpCacheLookup (exampleKnown.arp 0) targetIp = some ⟨2, 0, 0, 0, 0, 2⟩) ∧
      [exampleForwarded.bytes].length ≤ (getU8 exampleTransit.bytes 8).toNat - 1 := by
  obtain ⟨hone, hchain⟩ := routerReceive_forwards exampleHosts
  obtain ⟨hhop, hrouted⟩ := (hone _ _ _ _ _ _ _ rfl).2 _ routerQueues_exampleTransit
  refine ⟨hhop, hrouted, ((hone _ _ _ _ _ _ _ rfl).1 _ routerSends_exampleTransit).2,
    hchain _ _ (List.isChain_pair.mpr ?_)⟩
  exact ⟨_, _, _, _, _, rfl, .inr ⟨_, routerQueues_exampleTransit⟩⟩

end FrameRunner
