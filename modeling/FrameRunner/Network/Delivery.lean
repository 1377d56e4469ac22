import FrameRunner.Network.Resolution

/-!
# A datagram between two hosts

From `udp_send` through `ip_output`, `ethernet_send` and the link to the handler
that the receiver has bound to the port: each layer puts its header before the
payload and takes it off again.

Main result: `udpSend_delivers`.
-/

namespace FrameRunner

/-- The host `a` has the address of `b`, which is on its subnet, in its ARP cache, and
    the link between them is up; no other interface has the address of `a`. -/
structure HostsLinked (t : Topology) (net : Net) (a b : IfaceRef) : Prop where
  listed : a ∈ t.devices.flatten
  unique : ∀ i ∈ t.devices.flatten, ∀ j ∈ t.devices.flatten,
    (t.iface i).ipAddr = (t.iface j).ipAddr → i = j
  up : (t.iface a).up = true
  links : LinksTo t a b
  enabled : (t.iface a).errDisabled = false
  enabled' : (t.iface b).errDisabled = false
  subnet : ipSameSubnet (t.iface a).ipAddr (t.iface b).ipAddr (t.iface a).prefixLen = true
  cached : ∃ cache, (t.iface a).arpCache = some cache ∧
    arpCacheLookup (net.arp cache) (t.iface b).ipAddr = some (t.iface b).mac

/-- UDP is registered in the IP stack of the host `b`, and `handler` bound to the port. -/
structure UdpBound (t : Topology) (b : IfaceRef) (port : UInt16) (handler : UdpRecvHandler) :
    Prop where
  ex : ∃ stack ctx i, (t.iface b).rxHandler = some (.ip stack) ∧
    t.ipStack stack ipprotoUdp = some (.udpReceive ctx) ∧
    udpFind (t.udp ctx).sockets port = some i ∧ ((t.udp ctx).sockets i).recvHandler = handler

/-- The address of a group is accepted by every interface. -/
theorem ethAccepts_of_group {ipAddr : UInt32} {dstMac : Mac} (mac : Mac)
    (h : ipMulticastToMac ipAddr = some dstMac) : EthAccepts mac dstMac ethertypeIpv4 := by
  unfold ipMulticastToMac at h
  split at h
  · cases h
  · have hmask : (0x80 : UInt8) = (0x80 : UInt32).toUInt8 := rfl
    have hbit : (ipAddr >>> 16 &&& 0x7f).toUInt8 &&& 0x80 = 0 := by
      rw [hmask, ← UInt32.toUInt8_and, UInt32.and_assoc]
      show (ipAddr >>> 16 &&& 0).toUInt8 = 0
      rw [UInt32.and_zero]
      rfl
    rw [← Option.some.inj h]
    refine .inr (.inr ?_)
    simp only [macIsIpv4Multicast, hbit, beq_self_eq_true, Bool.and_self]

/-- The source address is found at its owner. -/
theorem ipFindSourceIface_of_unique {t : Topology} {a : IfaceRef}
    (hlisted : a ∈ t.devices.flatten)
    (hunique : ∀ i ∈ t.devices.flatten, (t.iface i).ipAddr = (t.iface a).ipAddr → i = a) :
    ipFindSourceIface t (t.iface a).ipAddr = some a := by
  unfold ipFindSourceIface
  cases hfind : t.devices.flatten.find? fun iface => (t.iface iface).ipAddr == (t.iface a).ipAddr with
  | none =>
    have hne := List.find?_eq_none.mp hfind a hlisted
    exact absurd (beq_self_eq_true _) hne
  | some i =>
    have haddr : (t.iface i).ipAddr = (t.iface a).ipAddr :=
      beq_iff_eq.mp (List.find?_some (p := fun iface => (t.iface iface).ipAddr ==
        (t.iface a).ipAddr) hfind)
    rw [hunique i (List.mem_of_find?_eq_some hfind) haddr]

section
variable {t : Topology} {net : Net} {a b : IfaceRef}

theorem HostsLinked.source (h : HostsLinked t net a b) :
    ipFindSourceIface t (t.iface a).ipAddr = some a :=
  ipFindSourceIface_of_unique h.listed fun i hi => h.unique i hi a h.listed

theorem HostsLinked.alloc (h : HostsLinked t net a b) : HostsLinked t net.alloc a b :=
  ⟨h.listed, h.unique, h.up, h.links, h.enabled, h.enabled', h.subnet, h.cached⟩

/-- A packet with room for the two headers leaves for `b`. -/
theorem HostsLinked.ipOutput (h : HostsLinked t net a b) (protocol : UInt8) {payload : Packet}
    (hroom : ipHdrLen + ethHdrLen ≤ payload.data) :
    let r := FrameRunner.ipOutput t net (t.iface a).ipAddr (t.iface b).ipAddr protocol payload
    r.2.1 = 1 ∧ ∃ dstMac e, EthAccepts (t.iface b).mac dstMac ethertypeIpv4 ∧
      OnWire a b (ethernetHeader dstMac (t.iface a).mac ethertypeIpv4 ++
        ((ipSentHeader (t.iface a).ipAddr (t.iface b).ipAddr protocol payload.len).bytes ++
          payload.bytes)) e ∧
      r.1.calls = net.calls ++
        [.ipOutput (t.iface a).ipAddr (t.iface b).ipAddr protocol payload.bytes, .schedule e] := by
  obtain ⟨cache, hcache, hmac⟩ := h.cached
  have hhdr : (ipSentHeader (t.iface a).ipAddr (t.iface b).ipAddr protocol payload.len).bytes.length ≤
      payload.data := (Nat.le_add_right _ _).trans hroom
  obtain ⟨packet, hprepend⟩ := packetPrepend_isSome hhdr
  obtain ⟨-, hdata, hbytes⟩ := packetPrepend_eq_some hprepend
  have hcan : CanSend t a b packet := by
    refine ⟨h.enabled, ?_, h.links⟩
    rw [hdata, IpHeader.length_bytes]
    omega
  -- the packet goes to the group's MAC address, or to the cached one
  have hsend : ∃ dstMac, EthAccepts (t.iface b).mac dstMac ethertypeIpv4 ∧
      FrameRunner.ipOutput t net (t.iface a).ipAddr (t.iface b).ipAddr protocol payload =
        ethernetSend t ((net.record (.ipOutput (t.iface a).ipAddr (t.iface b).ipAddr protocol
          payload.bytes)).txBytes a packet.len) a dstMac ethertypeIpv4 packet := by
    unfold FrameRunner.ipOutput
    simp only [h.source, h.up, Bool.not_true, Bool.false_eq_true, if_false]
    split
    · rename_i hgroup
      obtain ⟨dstMac, hgroupMac⟩ : ∃ mac, ipMulticastToMac (t.iface b).ipAddr = some mac := by
        unfold ipMulticastToMac
        rw [hgroup]
        exact ⟨_, rfl⟩
      refine ⟨dstMac, ethAccepts_of_group _ hgroupMac, ?_⟩
      simp only [hgroupMac, ipPrependHeader, hprepend]
    · refine ⟨(t.iface b).mac, .inl rfl, ?_⟩
      simp only [hcache, h.subnet, ipPrependHeader, hprepend, Bool.not_true, Bool.false_eq_true,
        if_false]
      have hlookup : arpCacheLookup ((net.record (.ipOutput (t.iface a).ipAddr (t.iface b).ipAddr
          protocol payload.bytes)).arp cache) (t.iface b).ipAddr = some (t.iface b).mac := hmac
      rw [hlookup]
  obtain ⟨dstMac, haccepts, heq⟩ := hsend
  intro r
  have hr : FrameRunner.ipOutput t net (t.iface a).ipAddr (t.iface b).ipAddr protocol payload =
      r := rfl
  rw [heq] at hr
  rcases ethernetSend_cases t ((net.record (.ipOutput (t.iface a).ipAddr (t.iface b).ipAddr protocol
      payload.bytes)).txBytes a packet.len) a dstMac ethertypeIpv4 packet with
    ⟨-, -, hnot⟩ | ⟨hone, dst, e, hcan', hwire, hsched⟩
  · exact absurd hcan (hnot b)
  · rw [hr] at hone hsched
    obtain rfl := hcan'.links.unique h.links
    rw [hbytes] at hwire
    refine ⟨hone, dstMac, e, haccepts, hwire, ?_⟩
    rw [hsched.calls, Net.addStats_calls, Net.record_calls, List.append_assoc]
    rfl

end

/-- A datagram that `udp_send` takes is put on the wire in one event, and the handler
    bound to its port gets it, when the event is dispatched, once, with the sender's
    address and port and its bytes. -/
theorem udpSend_delivers {t : Topology} {net : Net} {a b : IfaceRef} {dstPort : UInt16}
    {handler : UdpRecvHandler} (h : HostsLinked t net a b) (hbound : UdpBound t b dstPort handler)
    (hport : dstPort ≠ 0) (srcPort : UInt16) (payload : List UInt8)
    (hlen : payload.length ≤ 65527) :
    let r := udpSend t net (t.iface a).ipAddr (t.iface b).ipAddr srcPort dstPort payload
    r.2 = 0 ∧ ∃ e, r.1.calls = net.calls ++ [.ipOutput (t.iface a).ipAddr (t.iface b).ipAddr
        ipprotoUdp (udpDatagram srcPort dstPort payload), .schedule e] ∧
      ∀ net₁, ∃ frame pkt, pkt.bytes = payload ∧ (netDispatch t net₁ e).calls = net₁.calls ++
        [.rxHandler b frame ethertypeIpv4, .udpRecv handler b (t.iface a).ipAddr srcPort pkt] := by
  have hmax : payload.length ≤ 65535 - udpHdrLen := hlen
  obtain ⟨hone, dstMac, e, haccepts, hwire, hcalls⟩ := h.alloc.ipOutput ipprotoUdp
    (show ipHdrLen + ethHdrLen ≤ (packetFill (t.memory net.allocs)
      (udpDatagram srcPort dstPort payload)).data from (by decide : 20 + 14 ≤ 64))
  obtain ⟨stack, ctx, i, hhandler, hstack, hfind, hrecv⟩ := hbound.ex
  rw [bytes_packetFill, len_packetFill] at hwire
  rw [bytes_packetFill] at hcalls
  intro r
  have hr : udpSend t net (t.iface a).ipAddr (t.iface b).ipAddr srcPort dstPort payload = r := rfl
  have hne : ¬ (1 : ℤ) = -1 := by decide
  unfold udpSend at hr
  rw [if_neg hport, if_neg (Nat.not_lt.mpr hmax)] at hr
  simp only [hone, if_neg hne] at hr
  rw [← hr]
  refine ⟨rfl, e, hcalls.trans (congrArg (· ++ _) net.alloc_calls), fun net₁ => ?_⟩
  obtain ⟨frame, hframe, -, -, hdisp⟩ := netDispatch_accept net₁ hwire h.enabled' haccepts
  obtain ⟨pkt, hpkt, hip⟩ := ipReceive_of_udp
    ((net₁.rxBytes b frame.len).record (.rxHandler b frame ethertypeIpv4)) b hmax hframe hstack hfind
  refine ⟨frame, pkt, hpkt, ?_⟩
  rw [hdisp, hhandler]
  show (ipReceive t _ b frame stack).1.calls = _
  rw [hip, hrecv]
  simp

/-- The two hosts, with UDP and a socket on port 4001; the first knows the second. -/
def exampleUdpHosts : Topology :=
  { exampleHosts with
    ipStack := fun stack protocol => if protocol = ipprotoUdp then some (.udpReceive stack) else none
    udp := fun _ => { sim := true, sockets := fun _ => { port := 4001, valid := true } } }

def exampleUdpNet : Net :=
  { netInit with arp := fun _ => arpCacheAdd arpCacheInit 0x0A000002 ⟨2, 0, 0, 0, 0, 2⟩ 0 }

theorem hostsLinked_exampleUdpHosts : HostsLinked exampleUdpHosts exampleUdpNet 0 1 :=
  ⟨by decide, by decide +kernel, rfl, ⟨⟨0, rfl, rfl, rfl⟩, rfl⟩, rfl, rfl, by decide +kernel,
    0, rfl, by decide +kernel⟩

theorem udpSend_delivers_exampleUdpHosts :
    let r := udpSend exampleUdpHosts exampleUdpNet 0x0A000001 0x0A000002 4000 4001 [1, 2, 3]
    r.2 = 0 ∧ ∃ e, r.1.calls = [.ipOutput 0x0A000001 0x0A000002 ipprotoUdp
        (udpDatagram 4000 4001 [1, 2, 3]), .schedule e] ∧
      ∀ net₁, ∃ frame pkt, pkt.bytes = [1, 2, 3] ∧
        (netDispatch exampleUdpHosts net₁ e).calls = net₁.calls ++ [.rxHandler 1 frame ethertypeIpv4,
          .udpRecv (exampleUdpHosts.udp 1 |>.sockets 0).recvHandler 1 0x0A000001 4000 pkt] := by
  have hbound : UdpBound exampleUdpHosts 1 4001
      (exampleUdpHosts.udp 1 |>.sockets 0).recvHandler := by
    refine ⟨1, 1, 0, rfl, rfl, ?_, rfl⟩
    show udpFind (fun _ => { port := 4001, valid := true }) 4001 = some 0
    decide +kernel
  have ha : (exampleUdpHosts.iface 0).ipAddr = 0x0A000001 := by decide +kernel
  have hb : (exampleUdpHosts.iface 1).ipAddr = 0x0A000002 := by decide +kernel
  have h := udpSend_delivers hostsLinked_exampleUdpHosts hbound (by decide) 4000 [1, 2, 3] (by decide)
  rw [ha, hb] at h
  exact h

end FrameRunner
