import FrameRunner.Network.Ethernet

/-!
# ARP (`protocols/arp_cache.c`, `protocols/arp.c`)

The cache of a host or router with its queue of packets that wait for an
address, the two messages, and the two event handlers. A request is a broadcast
frame (`arpSendRequest_cases`). The handlers are registered as the fallbacks of
`EVT_ARP_REQUEST` and `EVT_ARP_REPLY` (`arpInit`).
-/

namespace FrameRunner

open FrameRunner.Lib

/-! ## The cache -/

/-- `arp_cache_init` (lines 9–15). -/
def arpCacheInit : ArpCache where
  entries := fun _ => {}
  count := 0
  pending := fun _ => {}
  pendingCount := 0

/-- The slot that holds this address, the first loop of `arp_cache_add`. -/
def arpCacheFind (cache : ArpCache) (ipAddr : UInt32) : Option (Fin arpMaxCacheSize) :=
  Fin.find? fun i => (cache.entries i).valid && (cache.entries i).ipAddr == ipAddr

/-- `arp_cache_add` (lines 17–44). -/
def arpCacheAdd (cache : ArpCache) (ipAddr : UInt32) (macAddr : Mac) (timestamp : UInt64) :
    ArpCache :=
  if ipAddr = 0 then cache
  else
    match arpCacheFind cache ipAddr with
    | some i =>
      { cache with
        entries := Function.update cache.entries i
          { cache.entries i with macAddr := macAddr, timestamp := timestamp } }
    | none =>
      match Fin.find? fun i => !(cache.entries i).valid with
      | some i =>
        { cache with
          entries := Function.update cache.entries i
            { ipAddr := ipAddr, macAddr := macAddr, timestamp := timestamp, valid := true }
          count := cache.count + 1 }
      | none => cache

/-- `arp_cache_lookup` (lines 46–61); `none` is `-1`. -/
def arpCacheLookup (cache : ArpCache) (ipAddr : UInt32) : Option Mac :=
  if ipAddr = 0 then none
  else (arpCacheFind cache ipAddr).map fun i => (cache.entries i).macAddr

/-- `arp_pending_enqueue` (lines 63–85). -/
def arpPendingEnqueue (cache : ArpCache) (iface : IfaceRef) (targetIp : UInt32)
    (ethertype : UInt16) (packet : Packet) : ArpCache × ℤ :=
  if targetIp = 0 then (cache, -1)
  else
    match Fin.find? fun i => !(cache.pending i).valid with
    | some i =>
      ({ cache with
          pending := Function.update cache.pending i
            { targetIp := targetIp, ethertype := ethertype, iface := some iface,
              packet := some packet, valid := true }
          pendingCount := cache.pendingCount + 1 }, 0)
    | none => (cache, -1)

/-- Round `i` of the loop of `arp_pending_flush` (lines 96–123), on the network
    and `sent`. -/
def arpPendingFlushEntry (t : Topology) (cache : CacheRef) (targetIp : UInt32) (macAddr : Mac)
    (acc : Net × ℤ) (i : Fin arpMaxPendingPackets) : Net × ℤ :=
  let (net, sent) := acc
  let pending := (net.arp cache).pending i
  if !pending.valid || pending.targetIp != targetIp then acc
  else
    let c := net.arp cache
    let net := net.setArp cache
      { c with
        pending := Function.update c.pending i
          { pending with valid := false, packet := none, iface := none }
        pendingCount := c.pendingCount - 1 }
    match pending.iface, pending.packet with
    | some iface, some packet =>
      let (net, res, _) := ethernetSend t net iface macAddr pending.ethertype packet
      (net, if res ≥ 0 then sent + 1 else sent)
    | _, _ => (net, sent)

/-- `arp_pending_flush` (lines 87–126). -/
def arpPendingFlush (t : Topology) (net : Net) (cache : CacheRef) (targetIp : UInt32)
    (macAddr : Mac) : Net × ℤ :=
  if targetIp = 0 then (net, 0)
  else Slots.forEach arpMaxPendingPackets (arpPendingFlushEntry t cache targetIp macAddr) (net, 0)

/-! ## The messages -/

def arpOpcodeRequest : UInt16 := 1
def arpOpcodeReply : UInt16 := 2

/-- `sizeof(ArpPacket)`. -/
def arpPacketLen : ℕ := 28

/-- The bytes of an `ArpPacket` for IPv4 over Ethernet. -/
def arpPacket (opcode : UInt16) (senderMac : Mac) (senderIp : UInt32) (targetMac : Mac)
    (targetIp : UInt32) : List UInt8 :=
  be16 1 ++ be16 0x0800 ++ [6, 4] ++ be16 opcode ++ senderMac.bytes ++ be32 senderIp ++
    targetMac.bytes ++ be32 targetIp

/-- A fresh packet with this message before its empty data area. -/
def arpCreate (t : Topology) (net : Net) (message : List UInt8) : Packet :=
  let pkt := packetCreate (t.memory net.allocs) arpPacketLen
  (packetPrepend pkt message).getD pkt

/-- `arp_send_request` (`arp.c`, lines 128–167); the target is in host order. -/
def arpSendRequest (t : Topology) (net : Net) (iface : IfaceRef) (targetIp : UInt32) : Net × ℤ :=
  if targetIp = 0 then (net, -1)
  else
    let pkt := arpCreate t net (arpPacket arpOpcodeRequest (t.iface iface).mac (t.iface iface).ipAddr
      ⟨0, 0, 0, 0, 0, 0⟩ targetIp)
    let (net, res, _) := ethernetSend t net.alloc iface ethBroadcast ethertypeArp pkt
    (net, if res ≥ 0 then 0 else -1)

/-- `arp_send_reply` (lines 169–217). -/
def arpSendReply (t : Topology) (net : Net) (iface : IfaceRef) (reqPkt : Packet) : Net × ℤ :=
  if !packetValidateView reqPkt 0 arpPacketLen then (net, -1)
  else
    let dstMac := getMac reqPkt.bytes 8
    let dstIp := getU32 reqPkt.bytes 14
    let pkt := arpCreate t net (arpPacket arpOpcodeReply (t.iface iface).mac (t.iface iface).ipAddr
      dstMac dstIp)
    let (net, res, _) := ethernetSend t net.alloc iface dstMac ethertypeArp pkt
    (net, if res ≥ 0 then 0 else -1)

/-- A request for an address that is not cached, and the packet queued until the
    answer: `ip_output` (`ip.c`, lines 251–261) and `router_receive` (`router.c`,
    lines 182–198). -/
def arpRequestAndQueue (t : Topology) (net : Net) (cache : CacheRef) (iface : IfaceRef)
    (targetIp : UInt32) (packet : Packet) : Net × ℤ :=
  let (net, res) := arpSendRequest t net iface targetIp
  if res ≠ 0 then (net, -1)
  else
    let (c, queued) := arpPendingEnqueue (net.arp cache) iface targetIp ethertypeIpv4 packet
    let net := net.setArp cache c
    if queued ≠ 0 then (net, -1) else (net, 0)

/-! ## The handlers -/

/-- What both handlers do with the sender's address (lines 59–69 and 98–108). -/
def arpLearnSender (t : Topology) (net : Net) (iface : IfaceRef) (pkt : Packet)
    (timestamp : UInt64) : Net :=
  match (t.iface iface).arpCache with
  | none => net
  | some cache =>
    let senderIp := getU32 pkt.bytes 14
    let senderMac := getMac pkt.bytes 8
    let net := net.setArp cache (arpCacheAdd (net.arp cache) senderIp senderMac timestamp)
    (arpPendingFlush t net cache senderIp senderMac).1

/-- `arp_request_handler` (lines 7–77). -/
def arpRequestHandler (t : Topology) (net : Net) (e : NetEvent) : Net :=
  match e.payload.dstDevice, e.payload.packet with
  | some iface, some pkt =>
    if !packetValidateView pkt 0 arpPacketLen then net.rxErrors iface
    else if getU16 pkt.bytes 6 ≠ arpOpcodeRequest then net
    else if getU32 pkt.bytes 24 ≠ (t.iface iface).ipAddr then net
    else
      let (net, result) := arpSendReply t net iface pkt
      let net := arpLearnSender t net iface pkt e.timestamp
      if result = 0 then net else net.txErrors iface
  | _, _ => net

/-- `arp_reply_handler` (lines 79–111). -/
def arpReplyHandler (t : Topology) (net : Net) (e : NetEvent) : Net :=
  match e.payload.dstDevice, e.payload.packet with
  | some iface, some pkt =>
    if !packetValidateView pkt 0 arpPacketLen then net.rxErrors iface
    else if getU16 pkt.bytes 6 ≠ arpOpcodeReply then net
    else arpLearnSender t net iface pkt e.timestamp
  | _, _ => net

/-- `arp_init` (lines 113–126). -/
def arpInit (net : Net) : Net :=
  { net with
    sched := schedulerRegister (schedulerRegister net.sched .arpRequest (some .arpRequestHandler))
      .arpReply (some .arpReplyHandler) }

/-! ## What a request puts on the wire -/

@[simp] theorem length_arpPacket (opcode : UInt16) (senderMac targetMac : Mac)
    (senderIp targetIp : UInt32) :
    (arpPacket opcode senderMac senderIp targetMac targetIp).length = arpPacketLen := rfl

theorem arpCreate_eq (t : Topology) (net : Net) (message : List UInt8)
    (h : message.length = arpPacketLen) :
    (arpCreate t net message).bytes = message ∧
      (arpCreate t net message).data = pktHeadroom - arpPacketLen := by
  have hroom : message.length ≤ (packetCreate (t.memory net.allocs) arpPacketLen).data := by
    rw [h]
    show arpPacketLen ≤ pktHeadroom
    decide
  obtain ⟨p, hp⟩ := packetPrepend_isSome hroom
  obtain ⟨-, hdata, hbytes⟩ := packetPrepend_eq_some hp
  have hcreate : arpCreate t net message = p := by rw [arpCreate, hp, Option.getD_some]
  have hempty : (packetCreate (t.memory net.allocs) arpPacketLen).bytes = [] := List.take_zero
  rw [hcreate]
  exact ⟨by rw [hbytes, hempty, List.append_nil], by rw [hdata, h]; rfl⟩

/-- All that `arp_send_request` can do: fail, or broadcast the request. -/
theorem arpSendRequest_cases (t : Topology) (net : Net) (iface : IfaceRef) {targetIp : UInt32}
    (h0 : targetIp ≠ 0) :
    let r := arpSendRequest t net iface targetIp
    (r.2 = -1 ∧ SameButStats net r.1 ∧
        ((t.iface iface).errDisabled = true ∨ ∀ dst, ¬ LinksTo t iface dst)) ∨
      (r.2 = 0 ∧ ∃ dst e, (t.iface iface).errDisabled = false ∧ LinksTo t iface dst ∧
        OnWire iface dst (ethernetHeader ethBroadcast (t.iface iface).mac ethertypeArp ++
          arpPacket arpOpcodeRequest (t.iface iface).mac (t.iface iface).ipAddr
            ⟨0, 0, 0, 0, 0, 0⟩ targetIp) e ∧
        Schedules net r.1 e) := by
  intro r
  have hr : arpSendRequest t net iface targetIp = r := rfl
  clear_value r
  unfold arpSendRequest at hr
  rw [if_neg h0] at hr
  dsimp only at hr
  obtain ⟨hbytes, hdata⟩ := arpCreate_eq t net (arpPacket arpOpcodeRequest (t.iface iface).mac
    (t.iface iface).ipAddr ⟨0, 0, 0, 0, 0, 0⟩ targetIp) rfl
  generalize arpCreate t net (arpPacket arpOpcodeRequest (t.iface iface).mac (t.iface iface).ipAddr
    ⟨0, 0, 0, 0, 0, 0⟩ targetIp) = pkt at hr hbytes hdata
  rcases ethernetSend_cases t net.alloc iface ethBroadcast ethertypeArp pkt with
    ⟨h1, h2, h3⟩ | ⟨h1, dst, e, h2, h3, h4⟩
  · rw [h1] at hr
    cases hr
    refine .inl ⟨rfl, ⟨h2.sched, h2.arp, h2.macTbl, h2.calls⟩, ?_⟩
    by_cases herr : (t.iface iface).errDisabled = true
    · exact .inl herr
    · refine .inr fun dst hlinks => h3 dst ⟨by simpa using herr, ?_, hlinks⟩
      rw [hdata]
      decide
  · rw [h1] at hr
    cases hr
    rw [hbytes] at h3
    exact .inr ⟨rfl, dst, e, h2.enabled, h2.links, h3, ⟨h4.sched, h4.arp, h4.macTbl, h4.calls⟩⟩

theorem arpSendRequest_sends (t : Topology) (net : Net) (iface : IfaceRef) (targetIp : UInt32) :
    Sends NetCall.IsSchedule net (arpSendRequest t net iface targetIp).1 := by
  unfold arpSendRequest
  split
  · exact Sends.refl _ net
  · exact (net.alloc_sends _).trans (ethernetSend_sends _ _ _ _ _ _)

/-- A packet that waits changes no address of the cache. -/
theorem arpPendingEnqueue_entries (cache : ArpCache) (iface : IfaceRef) (targetIp : UInt32)
    (ethertype : UInt16) (packet : Packet) :
    (arpPendingEnqueue cache iface targetIp ethertype packet).1.entries = cache.entries := by
  unfold arpPendingEnqueue
  split
  · rfl
  · split <;> rfl

theorem Net.setArp_sends (net : Net) (P : NetCall → Prop) {cache : CacheRef} {c : ArpCache}
    (hc : c.entries = (net.arp cache).entries) : Sends P net (net.setArp cache c) := by
  refine ⟨fun c' => ?_, rfl, fun _ h => .inl h, [], (List.append_nil _).symm, by simp⟩
  by_cases h : c' = cache
  · subst h
    simp [hc]
  · simp [Function.update_of_ne h]

theorem arpRequestAndQueue_sends (t : Topology) (net : Net) (cache : CacheRef) (iface : IfaceRef)
    (targetIp : UInt32) (packet : Packet) :
    Sends NetCall.IsSchedule net (arpRequestAndQueue t net cache iface targetIp packet).1 := by
  have hreq := arpSendRequest_sends t net iface targetIp
  unfold arpRequestAndQueue
  generalize arpSendRequest t net iface targetIp = r at hreq
  obtain ⟨net', res⟩ := r
  dsimp only
  have hqueued := net'.setArp_sends NetCall.IsSchedule
    (arpPendingEnqueue_entries (net'.arp cache) iface targetIp ethertypeIpv4 packet)
  split
  · exact hreq
  · split <;> exact hreq.trans hqueued

end FrameRunner
