import FrameRunner.Network.Dispatch

/-!
# Address resolution between two stations

`ip_output` to an address that is not cached asks for it and queues the packet.
The request travels as an event of type `EVT_PACKET_RECEIVE` with
`ethernet_receive_event` as its handler: the peer's receive handler gets it, an
IP stack or a router, which knows no ARP. `arp_request_handler` waits for events
of another type, and no address is ever learned (`ipOutput_unresolved`).
-/

namespace FrameRunner

/-- The interface belongs to a host or a router. -/
def IsStation (t : Topology) (iface : IfaceRef) : Prop :=
  (∃ stack, (t.iface iface).rxHandler = some (.ip stack)) ∨
    ∃ router, (t.iface iface).rxHandler = some (.router router)

/-- Two stations on one subnet, joined by an up link between up interfaces. -/
structure Neighbors (t : Topology) (a b : IfaceRef) : Prop where
  station : IsStation t a
  station' : IsStation t b
  links : LinksTo t a b
  links' : LinksTo t b a
  enabled : (t.iface a).errDisabled = false
  enabled' : (t.iface b).errDisabled = false
  prefixLen : (t.iface a).prefixLen = (t.iface b).prefixLen
  subnet : ipSameSubnet (t.iface a).ipAddr (t.iface b).ipAddr (t.iface a).prefixLen = true

/-- After `arp_init`, a packet from `srcIp` to the neighbor `b` misses in the cache of `a`, where
    there is room for the address and for the packet. -/
structure Misses (t : Topology) (net : Net) (a b : IfaceRef) (srcIp : UInt32) (cache : CacheRef) :
    Prop extends Neighbors t a b where
  request : net.sched.handlers .arpRequest = some .arpRequestHandler
  reply : net.sched.handlers .arpReply = some .arpReplyHandler
  source : ipFindSourceIface t srcIp = some a
  nonzero : (t.iface b).ipAddr ≠ 0
  unicast : ipIsMulticast (t.iface b).ipAddr = false
  cached : (t.iface a).arpCache = some cache
  miss : arpCacheLookup (net.arp cache) (t.iface b).ipAddr = none
  room : ∃ i, ((net.arp cache).entries i).valid = false
  queueRoom : ∃ i, ((net.arp cache).pending i).valid = false

/-- After some steps the peer's address is in the cache of `a` and the packet has
    been sent to it. -/
def Resolved (t : Topology) (net : Net) (a b : IfaceRef) (srcIp : UInt32) (cache : CacheRef)
    (protocol : UInt8) (payload : Packet) : Prop :=
  ∃ n, let net' := netRun t n (ipOutput t net srcIp (t.iface b).ipAddr protocol payload).1
    arpCacheLookup (net'.arp cache) (t.iface b).ipAddr = some (t.iface b).mac ∧
      ∃ e, .schedule e ∈ net'.calls ∧
        OnWire a b (ethernetHeader (t.iface b).mac (t.iface a).mac ethertypeIpv4 ++
          ((ipSentHeader srcIp (t.iface b).ipAddr protocol payload.len).bytes ++ payload.bytes)) e

/-- The lookup reads the entries alone. -/
theorem arpCacheLookup_congr {c c' : ArpCache} (h : c'.entries = c.entries) (ipAddr : UInt32) :
    arpCacheLookup c' ipAddr = arpCacheLookup c ipAddr := by
  simp only [arpCacheLookup, arpCacheFind, h]

/-- An address that is not cached when `ip_output` asks for it is not cached after
    any number of steps. -/
theorem arpCacheLookup_netRun {t : Topology} {net : Net} (hq : PathQueue net) (srcIp dstIp : UInt32)
    (protocol : UInt8) (payload : Packet) (cache : CacheRef) (ipAddr : UInt32) (n : ℕ) :
    arpCacheLookup ((netRun t n (ipOutput t net srcIp dstIp protocol payload).1).arp cache) ipAddr =
      arpCacheLookup (net.arp cache) ipAddr := by
  have hout := ((ipOutput_sends t net srcIp dstIp protocol payload).mono
    fun _ _ => (trivial : True))
  have hsend := (net.record_sends (P := fun _ => True) trivial).trans hout
  have hrun := hsend.trans (netRun_sends (t := t) n (hsend.pathQueue hq))
  exact arpCacheLookup_congr (hrun.entries cache) ipAddr

theorem not_resolved {t : Topology} {net : Net} {a b : IfaceRef} {srcIp : UInt32}
    {cache : CacheRef} (protocol : UInt8) (payload : Packet)
    (hmiss : arpCacheLookup (net.arp cache) (t.iface b).ipAddr = none) (hq : PathQueue net) :
    ¬ Resolved t net a b srcIp cache protocol payload := by
  rintro ⟨n, hlookup, -⟩
  rw [arpCacheLookup_netRun hq, hmiss] at hlookup
  exact absurd hlookup (by simp)

/-- Between any two stations, whatever frames are under way, no packet that misses
    in the cache is ever resolved. -/
theorem ipOutput_unresolved {t : Topology} {net : Net} {a b : IfaceRef} {srcIp : UInt32}
    {cache : CacheRef} (protocol : UInt8) (payload : Packet) (h : Misses t net a b srcIp cache)
    (hq : PathQueue net) : ¬ Resolved t net a b srcIp cache protocol payload :=
  not_resolved protocol payload h.miss hq

/-- Two hosts, 10.0.0.1 and 10.0.0.2, on one link. -/
def exampleHosts : Topology where
  iface i := { mac := ⟨2, 0, 0, 0, 0, UInt8.ofNat (i + 1)⟩, ipAddr := 0x0A000001 + UInt32.ofNat i,
               prefixLen := 24, up := true, link := some 0, rxHandler := some (.ip i),
               arpCache := some i }
  link _ := { endA := 0, endB := 1, delayMs := 1, up := true }
  devices := [[0], [1]]
  router _ := exampleRouter
  ports _ := []
  ipStack _ _ := none
  udp _ := { sim := true, sockets := fun _ => {} }
  memory _ _ := 0

theorem misses_exampleHosts : Misses exampleHosts (arpInit netInit) 0 1 0x0A000001 0 where
  station := .inl ⟨0, rfl⟩
  station' := .inl ⟨1, rfl⟩
  links := ⟨⟨0, rfl, rfl, rfl⟩, rfl⟩
  links' := ⟨⟨0, rfl, rfl, rfl⟩, rfl⟩
  enabled := rfl
  enabled' := rfl
  prefixLen := rfl
  subnet := by decide +kernel
  request := rfl
  reply := rfl
  source := by decide +kernel
  nonzero := by decide
  unicast := by decide
  cached := rfl
  miss := by decide +kernel
  room := ⟨⟨0, by decide⟩, rfl⟩
  queueRoom := ⟨⟨0, by decide⟩, rfl⟩

theorem pathQueue_netInit : PathQueue (arpInit netInit) := by
  intro e he
  exact absurd he List.not_mem_nil

theorem ipOutput_unresolved_exampleHosts :
    ¬ Resolved exampleHosts (arpInit netInit) 0 1 0x0A000001 0 ipprotoUdp
      (packetFill (fun _ => 0) (udpDatagram 4000 4001 [1, 2, 3])) :=
  ipOutput_unresolved _ _ misses_exampleHosts pathQueue_netInit

/-- The first packet between the two hosts is taken and queued, and never sent. -/
theorem not_ipOutput_resolves :
    Misses exampleHosts (arpInit netInit) 0 1 0x0A000001 0 ∧
      (ipOutput exampleHosts (arpInit netInit) 0x0A000001 0x0A000002 ipprotoUdp
        (packetFill (fun _ => 0) (udpDatagram 4000 4001 [1, 2, 3]))).2.1 = 0 ∧
      ¬ Resolved exampleHosts (arpInit netInit) 0 1 0x0A000001 0 ipprotoUdp
        (packetFill (fun _ => 0) (udpDatagram 4000 4001 [1, 2, 3])) :=
  ⟨misses_exampleHosts, by decide +kernel,
    not_resolved _ _ misses_exampleHosts.miss pathQueue_netInit⟩

end FrameRunner
