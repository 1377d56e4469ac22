import FrameRunner.Network.Udp

/-!
# Routers (`network/router.c`)

`router_receive` keeps what is addressed to the router, refuses what has no hop
left or no route with an ICMP error, and forwards the rest.

Main results:

* `routerReceive_message`: what a refused packet is answered with. The error is
  built from the 20 bytes *before* the header of the packet.
* `routerReceive_quotes_iff`: when these bytes make the answer the one that
  quotes the packet.
-/

namespace FrameRunner

open FrameRunner.Lib

/-- `router_ip_is_local` (lines 9–22). -/
def routerIpIsLocal (t : Topology) (router : Router) (dstIp : UInt32) : Bool :=
  router.interfaces.any fun iface => (t.iface iface).ipAddr == dstIp

/-- `router_ip_is_control_multicast` (lines 24–27). -/
def routerIpIsControlMulticast (dstIp : UInt32) : Bool :=
  dstIp == 0xE0000005 || dstIp == 0xE0000006

/-- The header of a forwarded packet (lines 170–172). -/
def ipForwardedHeader (ipHdr : IpHeader) : IpHeader :=
  let ipHdr := { ipHdr with ttl := ipHdr.ttl - 1, headerChecksum := 0 }
  { ipHdr with headerChecksum := ipChecksum ipHdr }

/-- `router_receive` (lines 119–200) of a router with a simulator. -/
def routerReceive (t : Topology) (net : Net) (router : Router) (iface : IfaceRef) (pkt : Packet) :
    Net × ℤ :=
  if !ipValidateHeader pkt then (net.rxErrors iface, -1)
  else
    let ipHdr := getIpHeader pkt.bytes
    let dstIp := ipHdr.dstIp
    if routerIpIsLocal t router dstIp || routerIpIsControlMulticast dstIp then
      ipReceive t net iface pkt router.ipStack
    else if ipHdr.ttl ≤ 1 then
      ((icmpSendTimeExceeded t net iface pkt).1.rxDropped iface, -1)
    else
      match routeTableLookup router.routeTbl dstIp with
      | none => ((icmpSendUnreachNet t net iface pkt).1.rxDropped iface, -1)
      | some route =>
        let arpTargetIp := if route.nextHop ≠ 0 then route.nextHop else dstIp
        let pkt := packetOverwrite pkt (ipForwardedHeader ipHdr).bytes
        match route.iface with
        | none => (net, -1)
        | some out =>
          match arpCacheLookup (net.arp router.arpCache) arpTargetIp with
          | some dstMac =>
            let (net, res, _) := ethernetSend t net out dstMac ethertypeIpv4 pkt
            (net, res)
          | none => arpRequestAndQueue t net router.arpCache out arpTargetIp pkt

/-- `router_rx_shim` (lines 29–56). -/
def routerRxShim (t : Topology) (net : Net) (router : Router) (iface : IfaceRef) (pkt : Packet)
    (ethertype : UInt16) : Net :=
  if ethertype ≠ ethertypeIpv4 then net.rxDropped iface
  else (routerReceive t net router iface pkt).1

/-- The router does not keep the packet. -/
def Transits (t : Topology) (router : Router) (pkt : Packet) : Prop :=
  routerIpIsLocal t router (getIpHeader pkt.bytes).dstIp = false ∧
    routerIpIsControlMulticast (getIpHeader pkt.bytes).dstIp = false

/-- A packet that the router does not keep is at most sent on, or answered. -/
theorem routerReceive_transit {t : Topology} (router : Router) {pkt : Packet} (net : Net)
    (iface : IfaceRef) (h : Transits t router pkt) :
    Sends NetCall.IsOutput net (routerReceive t net router iface pkt).1 := by
  have hout : ∀ {net net' : Net}, Sends NetCall.IsSchedule net net' →
      Sends NetCall.IsOutput net net' := fun h => h.mono fun _ => NetCall.IsSchedule.isOutput
  have herr : Sends NetCall.IsOutput net (net.rxErrors iface) := net.addStats_sends _ iface _
  have hdrop : ∀ net : Net, Sends NetCall.IsOutput net (net.rxDropped iface) :=
    fun net => net.addStats_sends _ iface _
  unfold routerReceive
  simp only [h.1, h.2, Bool.or_self, Bool.false_eq_true, if_false]
  split
  · exact herr
  · split
    · exact (icmpSendError_sends _ _ _ _ _ _ _).trans (hdrop _)
    · split
      · exact (icmpSendError_sends _ _ _ _ _ _ _).trans (hdrop _)
      · split
        · exact Sends.refl _ net
        · split
          · exact hout (ethernetSend_sends _ _ _ _ _ _)
          · exact hout (arpRequestAndQueue_sends _ _ _ _ _ _)

/-- And one that it keeps goes to its IP stack. -/
theorem routerReceive_local {t : Topology} {router : Router} {pkt : Packet} (net : Net)
    (iface : IfaceRef) (hvalid : ipValidateHeader pkt = true) (h : ¬ Transits t router pkt) :
    routerReceive t net router iface pkt = ipReceive t net iface pkt router.ipStack := by
  have hkeep : (routerIpIsLocal t router (getIpHeader pkt.bytes).dstIp ||
      routerIpIsControlMulticast (getIpHeader pkt.bytes).dstIp) = true := by
    rw [← Bool.not_eq_false, Bool.or_eq_false_iff]
    exact h
  unfold routerReceive
  simp only [hvalid, hkeep, Bool.not_true, Bool.false_eq_true, if_false, if_true]

theorem routerReceive_sends (t : Topology) (net : Net) (router : Router) (iface : IfaceRef)
    (pkt : Packet) : Sends NetCall.NotRx net (routerReceive t net router iface pkt).1 := by
  by_cases h : Transits t router pkt
  · exact (routerReceive_transit router net iface h).mono fun _ => NetCall.IsOutput.notRx
  · by_cases hvalid : ipValidateHeader pkt = true
    · rw [routerReceive_local net iface hvalid h]
      exact ipReceive_sends _ _ _ _ _
    · unfold routerReceive
      simp only [hvalid, Bool.not_false, if_true]
      exact net.addStats_sends _ iface _

/-! ## Refused packets -/

/-- The payload of an IPv4 packet. -/
def ipPayload (pkt : Packet) : List UInt8 := pkt.bytes.drop ipHdrLen

/-- The packet is an ICMP error. -/
def IsIcmpError (pkt : Packet) : Prop :=
  (getIpHeader pkt.bytes).protocol = ipprotoIcmp ∧ icmpHdrLen ≤ (ipPayload pkt).length ∧
    (getU8 (ipPayload pkt) 0 = icmpDestUnreach ∨ getU8 (ipPayload pkt) 0 = icmpTimeExceeded)

/-- `router_receive` drops the packet because its hop limit is used up or because
    no route matches, and the packet is no ICMP error. -/
structure Refuses (t : Topology) (router : Router) (pkt : Packet) : Prop where
  valid : ipValidateHeader pkt = true
  transit : Transits t router pkt
  why : (getIpHeader pkt.bytes).ttl ≤ 1 ∨
    routeTableLookup router.routeTbl (getIpHeader pkt.bytes).dstIp = none
  notError : ¬ IsIcmpError pkt

/-- A refused packet is answered with one of the two errors. -/
theorem routerReceive_refused {t : Topology} {router : Router} {pkt : Packet} (net : Net)
    (iface : IfaceRef) (h : Refuses t router pkt) :
    ∃ type code, (routerReceive t net router iface pkt).1 =
      (icmpSendError t net iface pkt type code 0).1.rxDropped iface := by
  unfold routerReceive
  simp only [h.valid, h.transit.1, h.transit.2, Bool.not_true, Bool.or_self, Bool.false_eq_true,
    if_false]
  by_cases httl : (getIpHeader pkt.bytes).ttl ≤ 1
  · rw [if_pos httl]
    exact ⟨icmpTimeExceeded, icmpCodeTtlExceeded, rfl⟩
  · rw [if_neg httl, h.why.resolve_left httl]
    exact ⟨icmpDestUnreach, icmpCodeNetUnreach, rfl⟩

/-- The first byte of an IPv4 header is not the type of an ICMP error. -/
theorem icmpSuppressed_of_valid {pkt : Packet} (h : ipValidateHeader pkt = true)
    (origIp : IpHeader) : icmpSuppressed origIp pkt.bytes = false := by
  obtain ⟨hlen, hfirst, -⟩ := ipValidateHeader_iff.mp h
  have hshort : decide (pkt.bytes.length < icmpHdrLen) = false := by
    rw [pkt.length_bytes, decide_eq_false_iff_not]
    unfold ipHdrLen at hlen
    unfold icmpHdrLen
    omega
  have hunreach : ((0x45 : UInt8) == icmpDestUnreach) = false := by decide
  have hexceeded : ((0x45 : UInt8) == icmpTimeExceeded) = false := by decide
  rw [icmpSuppressed, hshort, hfirst, hunreach, hexceeded, Bool.or_self, Bool.or_self,
    Bool.and_false]

/-- What `router_receive` hands to `ip_output` for a refused packet. -/
theorem routerReceive_message {t : Topology} {router : Router} {pkt : Packet} (net : Net)
    (iface : IfaceRef) (h : Refuses t router pkt) :
    ∃ type code, ipOutputs (routerReceive t net router iface pkt).1.calls =
      ipOutputs net.calls ++
        if ipHdrLen ≤ pkt.data then
          [((getIpHeader (pkt.header ipHdrLen)).srcIp, ipprotoIcmp,
            icmpErrorMessage type code 0 (icmpQuote pkt))]
        else [] := by
  obtain ⟨type, code, he⟩ := routerReceive_refused net iface h
  refine ⟨type, code, ?_⟩
  rw [he, Net.addStats_calls]
  split
  · rename_i hroom
    exact icmpSendError_message t net iface type code 0 hroom (icmpSuppressed_of_valid h.valid _)
  · rename_i hroom
    rw [List.append_nil]
    exact icmpSendError_silent t net iface type code 0 (by omega)

/-- Exactly one message was handed to `ip_output`: an ICMP message for the source
    of `pkt` that quotes the header and the first 8 bytes of the payload. -/
def Answered (pkt : Packet) (net net' : Net) : Prop :=
  ∃ icmp : List UInt8, icmp.length = icmpHdrLen ∧
    ipOutputs net'.calls = ipOutputs net.calls ++ [((getIpHeader pkt.bytes).srcIp, ipprotoIcmp,
      icmp ++ (pkt.bytes.take ipHdrLen ++ (ipPayload pkt).take 8))]

/-- The 20 bytes before the packet's data are a copy of its header, and its
    payload begins with the first 8 bytes of the header. -/
structure HeaderTwice (pkt : Packet) : Prop where
  room : ipHdrLen ≤ pkt.data
  before : pkt.header ipHdrLen = pkt.bytes.take ipHdrLen
  after : (ipPayload pkt).take 8 = pkt.bytes.take 8

instance (pkt : Packet) : Decidable (HeaderTwice pkt) :=
  decidable_of_iff (ipHdrLen ≤ pkt.data ∧ pkt.header ipHdrLen = pkt.bytes.take ipHdrLen ∧
      (ipPayload pkt).take 8 = pkt.bytes.take 8)
    ⟨fun h => ⟨h.1, h.2.1, h.2.2⟩, fun h => ⟨h.room, h.before, h.after⟩⟩

theorem icmpErrorMessage_eq (type code : UInt8) (nextHopMtu : UInt16) (quote : List UInt8) :
    ∃ icmp : List UInt8, icmp.length = icmpHdrLen ∧
      icmpErrorMessage type code nextHopMtu quote = icmp ++ quote :=
  ⟨_, rfl, rfl⟩

/-- An answer that quotes the packet was quoted from a copy of its header. -/
theorem headerTwice_of_answered {t : Topology} {router : Router} {pkt : Packet} {net : Net}
    {iface : IfaceRef} (h : Refuses t router pkt)
    (ha : Answered pkt net (routerReceive t net router iface pkt).1) : HeaderTwice pkt := by
  obtain ⟨type, code, hout⟩ := routerReceive_message net iface h
  obtain ⟨hlen, -, -⟩ := ipValidateHeader_iff.mp h.valid
  have htake : (pkt.bytes.take ipHdrLen).length = ipHdrLen := by
    rw [List.length_take, pkt.length_bytes]
    omega
  obtain ⟨icmp, hicmp, hmessage⟩ := icmpErrorMessage_eq type code 0 (icmpQuote pkt)
  obtain ⟨icmp', hicmp', hanswer⟩ := ha
  rw [hanswer] at hout
  have hone := List.append_cancel_left hout
  split at hone
  · rename_i hroom
    rw [hmessage] at hone
    simp only [List.cons.injEq, Prod.mk.injEq, true_and, and_true] at hone
    obtain ⟨-, hquote⟩ := List.append_inj hone.2 (hicmp'.trans hicmp.symm)
    obtain ⟨hbefore, hafter⟩ := List.append_inj hquote (htake.trans (pkt.length_header hroom).symm)
    exact ⟨hroom, hbefore.symm, hafter⟩
  · exact absurd hone (by simp)

/-- The answer to a refused packet quotes it exactly when the bytes before the
    packet's header happen to repeat it, and the payload its first 8 bytes. -/
theorem routerReceive_quotes_iff {t : Topology} {router : Router} {pkt : Packet} (net : Net)
    (iface : IfaceRef) (h : Refuses t router pkt) :
    Answered pkt net (routerReceive t net router iface pkt).1 ↔ HeaderTwice pkt := by
  refine ⟨headerTwice_of_answered h, fun hq => ?_⟩
  obtain ⟨type, code, hout⟩ := routerReceive_message net iface h
  obtain ⟨icmp, hicmp, hmessage⟩ := icmpErrorMessage_eq type code 0 (icmpQuote pkt)
  refine ⟨icmp, hicmp, ?_⟩
  rw [hout, if_pos hq.room, hmessage, icmpQuote, hq.before, hq.after, getIpHeader_take]

/-- A router with one interface and no route. -/
def exampleRouter : Router where
  interfaces := [0]
  arpCache := 0
  routeTbl := routeTableInit
  ipStack := 0

/-- The network of `exampleRouter`. -/
def exampleRouterTopology : Topology where
  iface _ := { mac := ⟨2, 0, 0, 0, 0, 1⟩, ipAddr := 0x0A000001, prefixLen := 24, up := true,
               link := none, rxHandler := some (.router 0), arpCache := some 0 }
  link _ := { endA := 0, endB := 1, delayMs := 1, up := true }
  devices := [[0]]
  router _ := exampleRouter
  ports _ := []
  ipStack _ _ := none
  udp _ := { sim := true, sockets := fun _ => {} }
  memory _ _ := 0

/-- Nothing happened yet. -/
def netInit : Net where
  sched := schedulerCreate
  arp _ := arpCacheInit
  macTbl _ := { entries := fun _ => {}, count := 0 }
  stats _ := {}
  allocs := 0
  calls := []

/-- A header from 10.0.0.2 to 10.9.9.9 with no hop left. -/
def exampleHeader : IpHeader :=
  ipForwardedHeader { ipSentHeader 0x0A000002 0x0A090909 ipprotoUdp 8 with ttl := 1 }

/-- A packet with this header as `ethernet_receive` leaves it: the memory before
    it holds the Ethernet header. -/
def examplePacket : Packet where
  buf := List.replicate pktHeadroom 0 ++
    ethernetHeader ⟨2, 0, 0, 0, 0, 1⟩ ⟨2, 0, 0, 0, 0, 2⟩ ethertypeIpv4 ++ exampleHeader.bytes ++
    udpDatagram 4000 4001 []
  data := pktHeadroom + ethHdrLen
  len := ipHdrLen + udpHdrLen
  fits := by decide

/-- A packet whose memory holds its header twice. -/
def exampleTwice : Packet where
  buf := exampleHeader.bytes ++ exampleHeader.bytes ++ exampleHeader.bytes.take 8
  data := ipHdrLen
  len := ipHdrLen + 8
  fits := by decide

theorem refuses_examplePacket : Refuses exampleRouterTopology exampleRouter examplePacket :=
  ⟨by decide +kernel, ⟨by decide +kernel, by decide +kernel⟩, .inl (by decide +kernel), fun h =>
    absurd h.1 (by decide +kernel)⟩

theorem refuses_exampleTwice : Refuses exampleRouterTopology exampleRouter exampleTwice :=
  ⟨by decide +kernel, ⟨by decide +kernel, by decide +kernel⟩, .inl (by decide +kernel), fun h =>
    absurd h.1 (by decide +kernel)⟩

theorem routerReceive_quotes_iff_exampleTwice :
    Answered exampleTwice netInit
      (routerReceive exampleRouterTopology netInit exampleRouter 0 exampleTwice).1 :=
  (routerReceive_quotes_iff netInit 0 refuses_exampleTwice).mpr (by decide +kernel)

/-- A packet that came in by Ethernet is refused, and the answer does not quote it. -/
theorem not_routerReceive_quotes :
    Refuses exampleRouterTopology exampleRouter examplePacket ∧
      ¬ Answered examplePacket netInit
        (routerReceive exampleRouterTopology netInit exampleRouter 0 examplePacket).1 :=
  ⟨refuses_examplePacket, fun h =>
    absurd (headerTwice_of_answered refuses_examplePacket h) (by decide +kernel)⟩

end FrameRunner
