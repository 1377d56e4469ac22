import FrameRunner.Network.Forwarding

/-!
# A packet across several routers

A packet that arrives at a router for somebody else goes on to the next one, with one hop less
and a new checksum, as long as there is a route, the ARP cache knows the next hop and the link is
up (`TransitHop`). What happens at one router is `netDispatch_transit`; along a path it is
`transitPath_carries`, whatever else happens between the dispatches, and at its end the datagram
is handed to the socket: `transitPath_delivers`.
-/

namespace FrameRunner

open FrameRunner.Lib

/-! ## Headers on the way -/

/-- A header that `ip_validate_header` accepts before any data. -/
structure IpHeader.Valid (h : IpHeader) : Prop where
  first : h.versionIhl = 0x45
  checksum : ipChecksum h = 0

theorem IpHeader.Valid.validates {h : IpHeader} (hh : h.Valid) {pkt : Packet} {data : List UInt8}
    (hbytes : pkt.bytes = h.bytes ++ data) : ipValidateHeader pkt = true := by
  have hlen : pkt.len = ipHdrLen + data.length := by
    rw [← pkt.length_bytes, hbytes, List.length_append, IpHeader.length_bytes]
  rw [ipValidateHeader_iff, hbytes, getIpHeader_append]
  exact ⟨by omega, hh.first, hh.checksum⟩

theorem ipSentHeader_valid (srcIp dstIp : UInt32) (protocol : UInt8) (len : ℕ) :
    (ipSentHeader srcIp dstIp protocol len).Valid :=
  ⟨rfl, ipChecksum_setChecksum _ rfl⟩

theorem IpHeader.Valid.forwarded {h : IpHeader} (hh : h.Valid) : (ipForwardedHeader h).Valid :=
  ⟨hh.first, ipChecksum_setChecksum _ rfl⟩

/-- The header after `n` routers. -/
def ipHopsOn (n : ℕ) (h : IpHeader) : IpHeader := ipForwardedHeader^[n] h

theorem ipHopsOn_succ (n : ℕ) (h : IpHeader) :
    ipHopsOn (n + 1) h = ipHopsOn n (ipForwardedHeader h) := rfl

theorem IpHeader.Valid.hopsOn {h : IpHeader} (hh : h.Valid) (n : ℕ) : (ipHopsOn n h).Valid := by
  induction n generalizing h with
  | zero => exact hh
  | succ n ih => exact ih hh.forwarded

/-- All but the number of hops and the checksum is as it was. -/
theorem ipHopsOn_fields (n : ℕ) (h : IpHeader) (hn : n ≤ h.ttl.toNat) :
    (ipHopsOn n h).ttl.toNat + n = h.ttl.toNat ∧ (ipHopsOn n h).srcIp = h.srcIp ∧
      (ipHopsOn n h).dstIp = h.dstIp ∧ (ipHopsOn n h).protocol = h.protocol ∧
      (ipHopsOn n h).totalLength = h.totalLength := by
  induction n generalizing h with
  | zero => exact ⟨rfl, rfl, rfl, rfl, rfl⟩
  | succ n ih =>
    have hone : (1 : UInt8).toNat ≤ h.ttl.toNat := le_trans (Nat.le_add_left 1 n) hn
    have httl : (ipForwardedHeader h).ttl.toNat = h.ttl.toNat - 1 :=
      UInt8.toNat_sub_of_le _ _ (UInt8.le_iff_toNat_le.mpr hone)
    obtain ⟨h1, h2, h3, h4, h5⟩ := ih (ipForwardedHeader h) (by omega)
    rw [ipHopsOn_succ]
    exact ⟨by omega, h2, h3, h4, h5⟩

/-! ## One router -/

/-- A packet for `dstIp` that arrives on `a` goes on to `b`, in this state of the network. -/
structure TransitHop (t : Topology) (net : Net) (dstIp : UInt32) (a b : IfaceRef) : Prop where
  enabled : (t.iface a).errDisabled = false
  unicast : routerIpIsControlMulticast dstIp = false
  hop : ∃ router route out, (t.iface a).rxHandler = some (.router router) ∧
    routerIpIsLocal t (t.router router) dstIp = false ∧
    routeTableLookup (t.router router).routeTbl dstIp = some route ∧ route.iface = some out ∧
    arpCacheLookup (net.arp (t.router router).arpCache)
      (if route.nextHop ≠ 0 then route.nextHop else dstIp) = some (t.iface b).mac ∧
    (t.iface out).errDisabled = false ∧ LinksTo t out b

/-- All that comes of the frame is one other frame, after the receive handler was called. -/
def Forwards (t : Topology) (net : Net) (e e' : NetEvent) : Prop :=
  ∃ a frame, (netDispatch t net e).calls = net.calls ++
    [.rxHandler a frame ethertypeIpv4, .schedule e']

/-- An IPv4 frame to the interface `b` with these bytes is on the wire. -/
def OnWireTo (t : Topology) (b : IfaceRef) (bytes : List UInt8) (e : NetEvent) : Prop :=
  ∃ a srcMac, OnWire a b (ethernetHeader (t.iface b).mac srcMac ethertypeIpv4 ++ bytes) e

section
variable {t : Topology} {net : Net} {dstIp : UInt32} {a b : IfaceRef} {e : NetEvent}
  {h : IpHeader} {data : List UInt8}

/-- What a router does with a packet in transit. -/
theorem netDispatch_transit (hop : TransitHop t net dstIp a b)
    (hwire : OnWireTo t a (h.bytes ++ data) e) (hvalid : h.Valid) (hdst : h.dstIp = dstIp)
    (httl : 2 ≤ h.ttl.toNat) :
    ∃ e', Forwards t net e e' ∧ OnWireTo t b ((ipForwardedHeader h).bytes ++ data) e' := by
  obtain ⟨router, route, out, hhandler, hlocal, hlookup, hout, hmac, hup, hlinks⟩ := hop.hop
  obtain ⟨src, srcMac, hwire⟩ := hwire
  obtain ⟨pkt, hbytes, -, hdata, hdisp⟩ := netDispatch_accept net hwire hop.enabled (.inl rfl)
  have hip : getIpHeader pkt.bytes = h := by rw [hbytes, getIpHeader_append]
  have hlen : h.bytes.length ≤ pkt.len := by
    rw [← pkt.length_bytes, hbytes, List.length_append]
    exact Nat.le_add_right _ _
  have hnot : ¬ h.ttl ≤ 1 := fun hle => by
    have hle : h.ttl.toNat ≤ 1 := hle
    omega
  have hkeep : ¬ (routerIpIsLocal t (t.router router) h.dstIp ||
      routerIpIsControlMulticast h.dstIp) = true := by
    rw [hdst, hlocal, hop.unicast]
    decide
  set net₁ := (net.rxBytes a pkt.len).record (.rxHandler a pkt ethertypeIpv4)
  set fwd := packetOverwrite pkt (ipForwardedHeader h).bytes
  have hfwd : fwd.bytes = (ipForwardedHeader h).bytes ++ data := by
    have hover := @bytes_packetOverwrite pkt (ipForwardedHeader h).bytes (by
      rw [IpHeader.length_bytes]
      rw [IpHeader.length_bytes] at hlen
      exact hlen)
    rw [hover, hbytes, IpHeader.length_bytes, List.drop_left' h.length_bytes]
  have hrun : netDispatch t net e =
      (ethernetSend t net₁ out (t.iface b).mac ethertypeIpv4 fwd).1 := by
    rw [hdisp, hhandler]
    show routerRxShim t net₁ (t.router router) a pkt ethertypeIpv4 = _
    unfold routerRxShim routerReceive
    dsimp only
    rw [if_neg (not_not.mpr rfl), hvalid.validates hbytes, hip, if_neg (by decide), if_neg hkeep,
      if_neg hnot, hdst, hlookup]
    dsimp only
    rw [hout]
    dsimp only
    have hmac' : arpCacheLookup (net₁.arp (t.router router).arpCache)
        (if route.nextHop ≠ 0 then route.nextHop else dstIp) = some (t.iface b).mac := hmac
    rw [hmac']
  have hroom : ethHdrLen ≤ fwd.data := by
    show ethHdrLen ≤ pkt.data
    rw [hdata]
    exact Nat.le_add_left ..
  rcases ethernetSend_cases t net₁ out (t.iface b).mac ethertypeIpv4 fwd with
    ⟨-, -, hnone⟩ | ⟨-, dst, e', hcan, hwire', hsched⟩
  · exact absurd ⟨hup, hroom, hlinks⟩ (hnone b)
  · obtain rfl := hcan.links.unique hlinks
    rw [hfwd] at hwire'
    refine ⟨e', ⟨a, pkt, ?_⟩, out, _, hwire'⟩
    rw [hrun, hsched.calls]
    simp [net₁]

end

/-! ## A path -/

/-- The interfaces at which a packet for `dstIp` arrives, one after the other; `nets k` is the
    state in which the `k`-th frame is dispatched. -/
def TransitPath (t : Topology) (nets : ℕ → Net) (dstIp : UInt32) : List IfaceRef → Prop
  | [] => True
  | [_] => True
  | a :: b :: path =>
    TransitHop t (nets 0) dstIp a b ∧ TransitPath t (fun k => nets (k + 1)) dstIp (b :: path)

/-- Whatever the states are in which the frames are dispatched, as long as every router knows the
    next hop: each dispatch sends one frame, and the last frame has the packet with `n` hops
    less. -/
theorem transitPath_carries {t : Topology} {dstIp : UInt32} {b : IfaceRef} {data : List UInt8}
    {path : List IfaceRef} : ∀ {nets : ℕ → Net} {a : IfaceRef} {h : IpHeader} {e : NetEvent},
      TransitPath t nets dstIp (a :: path) → (a :: path).getLast? = some b →
      OnWireTo t a (h.bytes ++ data) e → h.Valid → h.dstIp = dstIp → path.length < h.ttl.toNat →
      ∃ events : ℕ → NetEvent, events 0 = e ∧
        (∀ k < path.length, Forwards t (nets k) (events k) (events (k + 1))) ∧
        OnWireTo t b ((ipHopsOn path.length h).bytes ++ data) (events path.length) := by
  induction path with
  | nil =>
    intro nets a h e _ hlast hwire _ _ _
    obtain rfl : a = b := Option.some.inj hlast
    exact ⟨fun _ => e, rfl, fun k hk => absurd hk (Nat.not_lt_zero k), hwire⟩
  | cons c path ih =>
    intro nets a h e hpath hlast hwire hvalid hdst httl
    rw [List.length_cons] at httl
    obtain ⟨e', hforwards, hwire'⟩ := netDispatch_transit hpath.1 hwire hvalid hdst (by omega)
    obtain ⟨hless, -, hdst', -⟩ := ipHopsOn_fields 1 h (by omega)
    have hnext : (ipForwardedHeader h).ttl.toNat + 1 = h.ttl.toNat := hless
    obtain ⟨events, hfirst, hevents, hend⟩ := ih hpath.2 (by rw [← hlast, List.getLast?_cons_cons])
      hwire' hvalid.forwarded ((show (ipForwardedHeader h).dstIp = h.dstIp from hdst').trans hdst)
      (by omega)
    refine ⟨fun k => if k = 0 then e else events (k - 1), rfl, fun k hk => ?_, hend⟩
    cases k with
    | zero =>
      simp only [if_true, Nat.zero_add, Nat.one_ne_zero, if_false, Nat.sub_self, hfirst]
      exact hforwards
    | succ k => exact hevents k (Nat.lt_of_succ_lt_succ hk)

/-! ## The end of the path -/

/-- The device of `b` keeps what is for `dstIp`, and gives it to its IP stack. -/
structure KeepsLocal (t : Topology) (b : IfaceRef) (dstIp : UInt32) (stack : StackRef) : Prop where
  enabled : (t.iface b).errDisabled = false
  handler : (t.iface b).rxHandler = some (.ip stack) ∨
    ∃ router, (t.iface b).rxHandler = some (.router router) ∧
      routerIpIsLocal t (t.router router) dstIp = true ∧ (t.router router).ipStack = stack

theorem netDispatch_local {t : Topology} {b : IfaceRef} {dstIp : UInt32} {stack : StackRef}
    {e : NetEvent} {h : IpHeader} {data : List UInt8} (net : Net)
    (hkeeps : KeepsLocal t b dstIp stack) (hwire : OnWireTo t b (h.bytes ++ data) e)
    (hvalid : h.Valid) (hdst : h.dstIp = dstIp) :
    ∃ frame : Packet, frame.bytes = h.bytes ++ data ∧ netDispatch t net e = (ipReceive t
      ((net.rxBytes b frame.len).record (.rxHandler b frame ethertypeIpv4)) b frame stack).1 := by
  obtain ⟨src, srcMac, hwire⟩ := hwire
  obtain ⟨frame, hbytes, -, -, hdisp⟩ := netDispatch_accept net hwire hkeeps.enabled (.inl rfl)
  refine ⟨frame, hbytes, ?_⟩
  rw [hdisp]
  rcases hkeeps.handler with hhandler | ⟨router, hhandler, hlocal, rfl⟩
  · rw [hhandler]
    rfl
  · rw [hhandler]
    show routerRxShim t _ (t.router router) b frame ethertypeIpv4 = _
    unfold routerRxShim
    rw [if_neg (not_not.mpr rfl), routerReceive_local _ _ (hvalid.validates hbytes)]
    rintro ⟨htransit, -⟩
    rw [hbytes, getIpHeader_append, hdst, hlocal] at htransit
    cases htransit

/-- A datagram that arrives after `n` hops is handed to the socket that is bound to its port, with
    the address and the port of the sender and the payload. -/
theorem netDispatch_udpLocal {t : Topology} {b : IfaceRef} {n : ℕ} {srcIp dstIp : UInt32}
    {srcPort dstPort : UInt16} {payload : List UInt8} {e : NetEvent} {stack : StackRef}
    {ctx : UdpRef} {i : Fin udpMaxSockets} (hhops : n < 64)
    (hlen : payload.length ≤ 65535 - udpHdrLen)
    (hwire : OnWireTo t b ((ipHopsOn n (ipSentHeader srcIp dstIp ipprotoUdp
      (udpDatagram srcPort dstPort payload).length)).bytes ++ udpDatagram srcPort dstPort payload) e)
    (hkeeps : KeepsLocal t b dstIp stack) (hstack : t.ipStack stack ipprotoUdp = some (.udpReceive ctx))
    (hport : udpFind (t.udp ctx).sockets dstPort = some i) (net : Net) :
    ∃ frame pkt, pkt.bytes = payload ∧ (netDispatch t net e).calls = net.calls ++
      [.rxHandler b frame ethertypeIpv4,
        .udpRecv ((t.udp ctx).sockets i).recvHandler b srcIp srcPort pkt] := by
  have hvalid := ipSentHeader_valid srcIp dstIp ipprotoUdp (udpDatagram srcPort dstPort payload).length
  set h := ipSentHeader srcIp dstIp ipprotoUdp (udpDatagram srcPort dstPort payload).length
  have httl : h.ttl.toNat = 64 := rfl
  obtain ⟨hless, hsrc, hdst, hproto, -⟩ := ipHopsOn_fields n h (by omega)
  have hproto : (ipHopsOn n h).protocol = ipprotoUdp := hproto
  obtain ⟨frame, hbytes, hdisp⟩ := netDispatch_local net hkeeps hwire (hvalid.hopsOn _) hdst
  obtain ⟨pkt, hpkt, hroom, hheader, hip⟩ := ipReceive_of_header (t := t)
    ((net.rxBytes b frame.len).record (.rxHandler b frame ethertypeIpv4)) b stack hbytes
    ((hvalid.hopsOn _).validates hbytes) (fun h0 => by
      rw [h0] at hless
      have hzero : (0 : UInt8).toNat = 0 := rfl
      omega)
  rw [hproto, hstack] at hip
  obtain ⟨pkt', hpayload, hrecv⟩ := udpReceive_of_datagram t
    (((net.rxBytes b frame.len).record (.rxHandler b frame ethertypeIpv4)).rxBytes b frame.len) b
    hlen hroom hheader hproto hpkt
  rw [hport] at hrecv
  refine ⟨frame, pkt', hpayload, ?_⟩
  rw [hdisp, hip]
  dsimp only
  rw [hrecv, hsrc]
  simp
  rfl

/-- A UDP datagram that sets out on a path with fewer than 64 routers is handed to the socket
    that is bound to its port at the end of the path, once, with the address and the port of the
    sender and the payload; and each dispatch on the way sends one frame. -/
theorem transitPath_delivers {t : Topology} {nets : ℕ → Net} {a b : IfaceRef}
    {path : List IfaceRef} {srcIp dstIp : UInt32} {srcPort dstPort : UInt16}
    {payload : List UInt8} {e : NetEvent} {stack : StackRef} {ctx : UdpRef}
    {i : Fin udpMaxSockets} (hpath : TransitPath t nets dstIp (a :: path))
    (hlast : (a :: path).getLast? = some b) (hhops : path.length < 64)
    (hlen : payload.length ≤ 65535 - udpHdrLen)
    (hwire : OnWireTo t a ((ipSentHeader srcIp dstIp ipprotoUdp
      (udpDatagram srcPort dstPort payload).length).bytes ++ udpDatagram srcPort dstPort payload) e)
    (hkeeps : KeepsLocal t b dstIp stack) (hstack : t.ipStack stack ipprotoUdp = some (.udpReceive ctx))
    (hport : udpFind (t.udp ctx).sockets dstPort = some i) :
    ∃ events : ℕ → NetEvent, events 0 = e ∧
      (∀ k < path.length, Forwards t (nets k) (events k) (events (k + 1))) ∧
      ∀ net, ∃ frame pkt, pkt.bytes = payload ∧
        (netDispatch t net (events path.length)).calls = net.calls ++
          [.rxHandler b frame ethertypeIpv4,
            .udpRecv ((t.udp ctx).sockets i).recvHandler b srcIp srcPort pkt] := by
  obtain ⟨events, hfirst, hevents, hend⟩ := transitPath_carries hpath hlast hwire
    (ipSentHeader_valid ..) rfl hhops
  exact ⟨events, hfirst, hevents,
    fun net => netDispatch_udpLocal hhops hlen hend hkeeps hstack hport net⟩

/-- The hosts of the interfaces 0 and 5, with two routers in between. -/
def exampleLine : Topology where
  iface i := { mac := ⟨2, 0, 0, 0, 0, UInt8.ofNat (i + 1)⟩, ipAddr := 0x0A000001 + UInt32.ofNat i,
               prefixLen := 24, up := true, link := some (i / 2), arpCache := some i,
               rxHandler := if i = 0 ∨ i = 5 then some (.ip i) else some (.router ((i - 1) / 2)) }
  link l := { endA := 2 * l, endB := 2 * l + 1, delayMs := 1, up := true }
  devices := [[0], [1, 2], [3, 4], [5]]
  router r := { interfaces := [2 * r + 1, 2 * r + 2], arpCache := r, ipStack := r,
                routeTbl := run routeOpStep routeTableInit
                  [.add 0 0 (if r = 0 then 0x0A000004 else 0) (some (2 * r + 2)) 1 routeProtoStatic] }
  ports _ := []
  ipStack stack protocol := if protocol = ipprotoUdp then some (.udpReceive stack) else none
  udp _ := { sim := true, sockets := fun _ => { port := 4001, valid := true } }
  memory _ _ := 0

/-- The devices know the interfaces with the addresses 10.0.0.4 and 10.0.0.`n`. -/
def exampleLineNet (n : UInt8) : Net :=
  { netInit with
    arp := fun _ => arpCacheAdd (arpCacheAdd arpCacheInit 0x0A000004 ⟨2, 0, 0, 0, 0, 4⟩ 0)
      (0x0A000000 + n.toUInt32) ⟨2, 0, 0, 0, 0, n⟩ 0 }

/-- A datagram from the first host, on its way to the first router. -/
def exampleLineEvent (dstIp : UInt32) : NetEvent where
  type := .packetReceive
  timestamp := 1000
  handler := some .ethernetReceiveEvent
  payload :=
    { srcDevice := some 0, dstDevice := some 1,
      packet := some (packetFill (fun _ => 0) (ethernetHeader ⟨2, 0, 0, 0, 0, 2⟩ ⟨2, 0, 0, 0, 0, 1⟩
        ethertypeIpv4 ++ ((ipSentHeader 0x0A000001 dstIp ipprotoUdp 11).bytes ++
          udpDatagram 4000 4001 [1, 2, 3]))) }

theorem transitPath_exampleLine :
    TransitPath exampleLine (fun _ => exampleLineNet 6) 0x0A000006 [1, 3, 5] := by
  refine ⟨⟨rfl, by decide, 0, (exampleLine.router 0).routeTbl.fib 0, 2, rfl, ?_⟩,
    ⟨rfl, by decide, 1, (exampleLine.router 1).routeTbl.fib 0, 4, rfl, ?_⟩, trivial⟩
  · exact ⟨by decide +kernel, by decide +kernel, by decide +kernel, by decide +kernel, rfl,
      ⟨⟨1, rfl, rfl, rfl⟩, rfl⟩⟩
  · exact ⟨by decide +kernel, by decide +kernel, by decide +kernel, by decide +kernel, rfl,
      ⟨⟨2, rfl, rfl, rfl⟩, rfl⟩⟩

theorem transitPath_delivers_exampleLine :
    ∃ events : ℕ → NetEvent, events 0 = exampleLineEvent 0x0A000006 ∧
      ∃ frame pkt, pkt.bytes = [1, 2, 3] ∧
      (netDispatch exampleLine (exampleLineNet 6) (events 2)).calls =
        [.rxHandler 5 frame ethertypeIpv4, .udpRecv (.app 0) 5 0x0A000001 4000 pkt] := by
  have hport : udpFind (exampleLine.udp 5).sockets 4001 = some 0 := by
    show udpFind (fun _ => { port := 4001, valid := true }) 4001 = some 0
    decide +kernel
  have hwire : OnWireTo exampleLine 1 ((ipSentHeader 0x0A000001 0x0A000006 ipprotoUdp
      (udpDatagram 4000 4001 [1, 2, 3]).length).bytes ++ udpDatagram 4000 4001 [1, 2, 3])
      (exampleLineEvent 0x0A000006) :=
    ⟨0, ⟨2, 0, 0, 0, 0, 1⟩, rfl, rfl, rfl, rfl, _, rfl, bytes_packetFill _ _, rfl⟩
  have hkeeps : KeepsLocal exampleLine 5 0x0A000006 5 := ⟨rfl, .inl rfl⟩
  obtain ⟨events, hfirst, -, hend⟩ := transitPath_delivers transitPath_exampleLine rfl (by decide)
    (by decide) hwire hkeeps rfl hport
  exact ⟨events, hfirst, hend (exampleLineNet 6)⟩

end FrameRunner
