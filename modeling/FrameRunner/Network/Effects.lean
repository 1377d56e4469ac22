import FrameRunner.Network.Router

/-!
# What a call does with packets

A call creates packets, frees them, lets a structure keep them or hands them to a
callback that owns them. The functions below list these effects along the paths of the
sending functions, for the packet that the call was given and for those that it creates.
`link_transmit` takes a clone, so that a frame on the wire and the packet that it was
made of are two packets.

The packets created and the events scheduled are those of the calls themselves
(`Effected`).
-/

namespace FrameRunner

/-! ## Effects -/

/-- A packet of a call: the one that it was given, or the `n`-th one created. -/
inductive PacketId where
  | given
  | created (n : ℕ)
  deriving DecidableEq, Repr

/-- What keeps a packet after the call. -/
inductive PacketHolder where
  | receiveEvent | arpPending | tcpSendq
  deriving DecidableEq, Repr

/-- `packet_create` or `packet_clone`, `packet_free`, a pointer that a structure keeps,
    and a pointer that goes to a callback which owns the packet from there on. -/
inductive PacketEffect where
  | create (id : PacketId)
  | free (id : PacketId)
  | hold (id : PacketId) (holder : PacketHolder)
  | transfer (id : PacketId)
  deriving DecidableEq, Repr

/-- The effect disposes of the packet. -/
def PacketEffect.disposes (id : PacketId) : PacketEffect → Bool
  | .create _ => false
  | .free i => i == id
  | .hold i _ => i == id
  | .transfer i => i == id

/-- How often the packet was disposed of. -/
def disposals (id : PacketId) (effects : List PacketEffect) : ℕ :=
  effects.countP (PacketEffect.disposes id)

/-- Each packet that the call was given or created has one owner afterwards. -/
def OwnedOnce (given : List PacketId) (effects : List PacketEffect) : Prop :=
  ∀ id, id ∈ given ∨ .create id ∈ effects → disposals id effects = 1

/-! ## The sending path -/

/-- `link_transmit`: the event holds a clone of the frame. -/
def linkTransmitEffects (t : Topology) (net : Net) (link : Option LinkRef) (pkt : Packet)
    (src : IfaceRef) : List PacketEffect :=
  if (linkTransmit t net link pkt src .ethernetReceiveEvent).2 = 1 then
    [.create (.created net.allocs), .hold (.created net.allocs) .receiveEvent]
  else []

/-- `ethernet_send` neither frees the payload nor keeps it. -/
def ethernetSendEffects (t : Topology) (net : Net) (iface : IfaceRef) (dstMac : Mac)
    (ethertype : UInt16) (payload : Packet) : List PacketEffect :=
  if (t.iface iface).errDisabled then []
  else
    match packetPrepend payload (ethernetHeader dstMac (t.iface iface).mac ethertype) with
    | none => []
    | some frame =>
      linkTransmitEffects t (net.txBytes iface frame.len) (t.iface iface).link frame iface

/-- `arp_send_request`: the request is not freed. -/
def arpSendRequestEffects (t : Topology) (net : Net) (iface : IfaceRef) (targetIp : UInt32) :
    List PacketEffect :=
  if targetIp = 0 then []
  else
    let pkt := arpCreate t net (arpPacket arpOpcodeRequest (t.iface iface).mac (t.iface iface).ipAddr
      ⟨0, 0, 0, 0, 0, 0⟩ targetIp)
    .create (.created net.allocs) ::
      ethernetSendEffects t net.alloc iface ethBroadcast ethertypeArp pkt

/-- `arp_send_reply`: neither is the reply. -/
def arpSendReplyEffects (t : Topology) (net : Net) (iface : IfaceRef) (reqPkt : Packet) :
    List PacketEffect :=
  if !packetValidateView reqPkt 0 arpPacketLen then []
  else
    let dstMac := getMac reqPkt.bytes 8
    let pkt := arpCreate t net (arpPacket arpOpcodeReply (t.iface iface).mac (t.iface iface).ipAddr
      dstMac (getU32 reqPkt.bytes 14))
    .create (.created net.allocs) :: ethernetSendEffects t net.alloc iface dstMac ethertypeArp pkt

/-- `arp_pending_enqueue`: the slot holds the packet if there is one. -/
def arpPendingEnqueueEffects (cache : ArpCache) (iface : IfaceRef) (targetIp : UInt32)
    (ethertype : UInt16) (packet : Packet) (id : PacketId) : List PacketEffect :=
  if (arpPendingEnqueue cache iface targetIp ethertype packet).2 = 0 then [.hold id .arpPending]
  else []

/-- The packet `id` waits for an address, or is left to the caller. -/
def arpRequestAndQueueEffects (t : Topology) (net : Net) (cache : CacheRef) (iface : IfaceRef)
    (targetIp : UInt32) (packet : Packet) (id : PacketId) : List PacketEffect :=
  let (net', res) := arpSendRequest t net iface targetIp
  arpSendRequestEffects t net iface targetIp ++
    if res ≠ 0 then []
    else arpPendingEnqueueEffects (net'.arp cache) iface targetIp ethertypeIpv4 packet id

/-- `ip_output` on the packet `id`. -/
def ipOutputEffects (t : Topology) (net : Net) (srcIp dstIp : UInt32) (protocol : UInt8)
    (payload : Packet) (id : PacketId) : List PacketEffect :=
  let net := net.record (.ipOutput srcIp dstIp protocol payload.bytes)
  match ipFindSourceIface t srcIp with
  | none => []
  | some iface =>
    if !(t.iface iface).up then []
    else if ipIsMulticast dstIp then
      match ipMulticastToMac dstIp with
      | none => []
      | some dstMac =>
        match ipPrependHeader srcIp dstIp protocol payload with
        | none => []
        | some packet =>
          ethernetSendEffects t (net.txBytes iface packet.len) iface dstMac ethertypeIpv4 packet
    else
      match (t.iface iface).arpCache with
      | none => []
      | some cache =>
        if !ipSameSubnet (t.iface iface).ipAddr dstIp (t.iface iface).prefixLen then []
        else
          match ipPrependHeader srcIp dstIp protocol payload with
          | none => []
          | some packet =>
            match arpCacheLookup (net.arp cache) dstIp with
            | none => arpRequestAndQueueEffects t net cache iface dstIp packet id
            | some dstMac =>
              ethernetSendEffects t (net.txBytes iface packet.len) iface dstMac ethertypeIpv4 packet

/-- A packet is created for `ip_output`, and freed if that refuses it. -/
def sendCreatedEffects (t : Topology) (net : Net) (srcIp dstIp : UInt32) (protocol : UInt8)
    (pkt : Packet) : List PacketEffect :=
  .create (.created net.allocs) ::
    (ipOutputEffects t net.alloc srcIp dstIp protocol pkt (.created net.allocs) ++
      if (ipOutput t net.alloc srcIp dstIp protocol pkt).2.1 = -1 then [.free (.created net.allocs)]
      else [])

/-- `udp_send` (`udp.c`, lines 59–96). -/
def udpSendEffects (t : Topology) (net : Net) (srcIp dstIp : UInt32) (srcPort dstPort : UInt16)
    (payload : List UInt8) : List PacketEffect :=
  if dstPort = 0 then []
  else if payload.length > 65535 - udpHdrLen then []
  else
    sendCreatedEffects t net srcIp dstIp ipprotoUdp
      (packetFill (t.memory net.allocs) (udpDatagram srcPort dstPort payload))

/-- `icmp_send_echo_request` (`icmp.c`, lines 134–174). -/
def icmpSendEchoRequestEffects (t : Topology) (net : Net) (srcIp dstIp : UInt32) (id seq : UInt16)
    (payload : List UInt8) : List PacketEffect :=
  sendCreatedEffects t net srcIp dstIp ipprotoIcmp
    (packetFill (t.memory net.allocs) (icmpEchoMessage id seq payload))

/-- `icmp_send_error` (`icmp.c`, lines 4–69) reads the packet that caused the error and
    leaves it to the caller. -/
def icmpSendErrorEffects (t : Topology) (net : Net) (iface : IfaceRef) (origPkt : Packet)
    (type code : UInt8) (nextHopMtu : UInt16) : List PacketEffect :=
  if !packetValidateView origPkt ipHdrLen 0 then []
  else
    let origIp := getIpHeader (origPkt.header ipHdrLen)
    if icmpSuppressed origIp origPkt.bytes then []
    else
      sendCreatedEffects t net (t.iface iface).ipAddr origIp.srcIp ipprotoIcmp
        (packetFill (t.memory net.allocs)
          (icmpErrorMessage type code nextHopMtu (icmpQuote origPkt)))

/-- `router_receive` (`router.c`, lines 119–200). A packet for the router itself goes on
    to `ip_receive`. -/
def routerReceiveEffects (t : Topology) (net : Net) (router : Router) (iface : IfaceRef)
    (pkt : Packet) : List PacketEffect :=
  if !ipValidateHeader pkt then [.free .given]
  else
    let ipHdr := getIpHeader pkt.bytes
    let dstIp := ipHdr.dstIp
    if routerIpIsLocal t router dstIp || routerIpIsControlMulticast dstIp then [.transfer .given]
    else if ipHdr.ttl ≤ 1 then
      icmpSendErrorEffects t net iface pkt icmpTimeExceeded icmpCodeTtlExceeded 0 ++ [.free .given]
    else
      match routeTableLookup router.routeTbl dstIp with
      | none =>
        icmpSendErrorEffects t net iface pkt icmpDestUnreach icmpCodeNetUnreach 0 ++ [.free .given]
      | some route =>
        let arpTargetIp := if route.nextHop ≠ 0 then route.nextHop else dstIp
        let pkt := packetOverwrite pkt (ipForwardedHeader ipHdr).bytes
        match arpCacheLookup (net.arp router.arpCache) arpTargetIp, route.iface with
        | some _, none => []
        | some dstMac, some out => ethernetSendEffects t net out dstMac ethertypeIpv4 pkt
        | none, none => [.free .given]
        | none, some out =>
          arpRequestAndQueueEffects t net router.arpCache out arpTargetIp pkt .given ++
            if (arpRequestAndQueue t net router.arpCache out arpTargetIp pkt).2 ≠ 0 then
              [.free .given]
            else []

/-! ## The effects are those of the calls -/

variable {t : Topology}

/-- `packet_create` or `packet_clone`. -/
def PacketEffect.creates : PacketEffect → Bool
  | .create _ => true
  | _ => false

/-- An event on the scheduler holds a packet. -/
def PacketEffect.inEvent : PacketEffect → Bool
  | .hold _ .receiveEvent => true
  | _ => false

/-- The call was one of `scheduler_schedule`. -/
def NetCall.schedules : NetCall → Bool
  | .schedule _ => true
  | _ => false

/-- The packets created between the two states are those of the effects, and so are the
    events scheduled. -/
structure Effected (net net' : Net) (effects : List PacketEffect) : Prop where
  allocs : net'.allocs = net.allocs + effects.countP PacketEffect.creates
  events : net'.calls.countP NetCall.schedules =
    net.calls.countP NetCall.schedules + effects.countP PacketEffect.inEvent

section
variable {net net' net'' : Net} {effects effects' : List PacketEffect}

theorem Effected.refl (net : Net) : Effected net net [] := ⟨rfl, rfl⟩

theorem Effected.trans (h : Effected net net' effects) (h' : Effected net' net'' effects') :
    Effected net net'' (effects ++ effects') := by
  constructor
  · rw [h'.allocs, h.allocs, List.countP_append, Nat.add_assoc]
  · rw [h'.events, h.events, List.countP_append, Nat.add_assoc]

/-- A call that creates and schedules nothing. -/
theorem Effected.of_eq (hallocs : net'.allocs = net.allocs)
    (hcalls : net'.calls.countP NetCall.schedules = net.calls.countP NetCall.schedules) :
    Effected net net' [] := ⟨hallocs, hcalls⟩

theorem Effected.alloc (net : Net) (id : PacketId) : Effected net net.alloc [.create id] :=
  ⟨rfl, rfl⟩

/-- A packet that is freed, or kept by another structure than an event, is no part of
    the network. -/
theorem Effected.append (h : Effected net net' effects)
    (hc : effects'.countP PacketEffect.creates = 0)
    (he : effects'.countP PacketEffect.inEvent = 0) : Effected net net' (effects ++ effects') := by
  constructor
  · rw [h.allocs, List.countP_append, hc, Nat.add_zero]
  · rw [h.events, List.countP_append, he, Nat.add_zero]

end

theorem linkTransmit_effected (net : Net) (link : Option LinkRef) (pkt : Packet) (src : IfaceRef) :
    Effected net (linkTransmit t net link pkt src .ethernetReceiveEvent).1
      (linkTransmitEffects t net link pkt src) := by
  have hneg : ¬ (-1 : ℤ) = 1 := by decide
  unfold linkTransmitEffects linkTransmit
  cases link with
  | none => simp only [if_neg hneg, Effected.refl]
  | some l =>
    by_cases hup : (t.link l).up = true
    · simp only [hup, Bool.not_true, Bool.false_eq_true, if_false]
      cases hother : linkGetOtherInterface (t.link l) src with
      | none => simp only [if_neg hneg, Effected.refl]
      | some dst =>
        by_cases hdst : (t.iface dst).up = true
        · simp only [hdst, Bool.not_true, Bool.false_eq_true, if_false, if_true]
          constructor
          · rfl
          · show (net.calls ++ [_]).countP NetCall.schedules = _
            rw [List.countP_append]
            rfl
        · simp only [hdst, Bool.not_false, if_true, if_neg hneg, Effected.refl]
    · simp only [hup, Bool.not_false, if_true, if_neg hneg, Effected.refl]

theorem ethernetSend_effected (net : Net) (iface : IfaceRef) (dstMac : Mac) (ethertype : UInt16)
    (payload : Packet) :
    Effected net (ethernetSend t net iface dstMac ethertype payload).1
      (ethernetSendEffects t net iface dstMac ethertype payload) := by
  unfold ethernetSend ethernetSendEffects
  by_cases herr : (t.iface iface).errDisabled = true
  · simp only [herr, if_true, Effected.refl]
  · simp only [if_neg herr]
    cases packetPrepend payload (ethernetHeader dstMac (t.iface iface).mac ethertype) with
    | none => exact .of_eq rfl rfl
    | some frame =>
      have hcount : Effected net (net.txBytes iface frame.len) [] := .of_eq rfl rfl
      exact hcount.trans (linkTransmit_effected _ _ _ _)

theorem arpSendRequest_effected (net : Net) (iface : IfaceRef) (targetIp : UInt32) :
    Effected net (arpSendRequest t net iface targetIp).1
      (arpSendRequestEffects t net iface targetIp) := by
  unfold arpSendRequest arpSendRequestEffects
  split
  · exact .refl net
  · exact (Effected.alloc net _).trans (ethernetSend_effected _ _ _ _ _)

theorem arpSendReply_effected (net : Net) (iface : IfaceRef) (reqPkt : Packet) :
    Effected net (arpSendReply t net iface reqPkt).1 (arpSendReplyEffects t net iface reqPkt) := by
  unfold arpSendReply arpSendReplyEffects
  split
  · exact .refl net
  · exact (Effected.alloc net _).trans (ethernetSend_effected _ _ _ _ _)

theorem arpRequestAndQueue_effected (net : Net) (cache : CacheRef) (iface : IfaceRef)
    (targetIp : UInt32) (packet : Packet) (id : PacketId) :
    Effected net (arpRequestAndQueue t net cache iface targetIp packet).1
      (arpRequestAndQueueEffects t net cache iface targetIp packet id) := by
  have hreq := arpSendRequest_effected (t := t) net iface targetIp
  unfold arpRequestAndQueue arpRequestAndQueueEffects
  generalize arpSendRequest t net iface targetIp = r at hreq
  obtain ⟨net', res⟩ := r
  dsimp only
  have hwait : Effected net (net'.setArp cache
      (arpPendingEnqueue (net'.arp cache) iface targetIp ethertypeIpv4 packet).1)
      (arpSendRequestEffects t net iface targetIp ++
        arpPendingEnqueueEffects (net'.arp cache) iface targetIp ethertypeIpv4 packet id) := by
    have hset : Effected net (net'.setArp cache
        (arpPendingEnqueue (net'.arp cache) iface targetIp ethertypeIpv4 packet).1)
        (arpSendRequestEffects t net iface targetIp) := ⟨hreq.allocs, hreq.events⟩
    unfold arpPendingEnqueueEffects
    split
    · exact hset.append rfl rfl
    · exact hset.append rfl rfl
  split
  · rw [List.append_nil]
    exact hreq
  · split
    · exact hwait
    · exact hwait

theorem ipOutput_effected (net : Net) (srcIp dstIp : UInt32) (protocol : UInt8) (payload : Packet)
    (id : PacketId) :
    Effected net (ipOutput t net srcIp dstIp protocol payload).1
      (ipOutputEffects t net srcIp dstIp protocol payload id) := by
  have hrecord : Effected net (net.record (.ipOutput srcIp dstIp protocol payload.bytes)) [] := by
    refine .of_eq rfl ?_
    rw [Net.record_calls, List.countP_append]
    rfl
  unfold ipOutput ipOutputEffects
  dsimp only
  generalize net.record (.ipOutput srcIp dstIp protocol payload.bytes) = net' at hrecord
  have hsend : ∀ (iface : IfaceRef) (dstMac : Mac) (packet : Packet),
      Effected net (ethernetSend t (net'.txBytes iface packet.len) iface dstMac ethertypeIpv4 packet).1
        (ethernetSendEffects t (net'.txBytes iface packet.len) iface dstMac ethertypeIpv4 packet) := by
    intro iface dstMac packet
    have hcount : Effected net (net'.txBytes iface packet.len) [] := ⟨hrecord.allocs, hrecord.events⟩
    exact hcount.trans (ethernetSend_effected _ _ _ _ _)
  cases ipFindSourceIface t srcIp with
  | none => exact hrecord
  | some iface =>
    dsimp only
    split
    · exact hrecord
    · split
      · cases ipMulticastToMac dstIp with
        | none => exact hrecord
        | some dstMac =>
          cases ipPrependHeader srcIp dstIp protocol payload with
          | none => exact hrecord
          | some packet => exact hsend iface dstMac packet
      · cases (t.iface iface).arpCache with
        | none => exact hrecord
        | some cache =>
          dsimp only
          split
          · exact hrecord
          · cases ipPrependHeader srcIp dstIp protocol payload with
            | none => exact hrecord
            | some packet =>
              dsimp only
              cases arpCacheLookup (net'.arp cache) dstIp with
              | none => exact hrecord.trans (arpRequestAndQueue_effected _ _ _ _ _ _)
              | some dstMac => exact hsend iface dstMac packet

theorem sendCreated_effected (net : Net) (srcIp dstIp : UInt32) (protocol : UInt8) (pkt : Packet) :
    Effected net (ipOutput t net.alloc srcIp dstIp protocol pkt).1
      (sendCreatedEffects t net srcIp dstIp protocol pkt) := by
  have hout := (Effected.alloc net (.created net.allocs)).trans
    (ipOutput_effected (t := t) net.alloc srcIp dstIp protocol pkt (.created net.allocs))
  unfold sendCreatedEffects
  split
  · exact hout.append rfl rfl
  · exact hout.append rfl rfl

theorem udpSend_effected (net : Net) (srcIp dstIp : UInt32) (srcPort dstPort : UInt16)
    (payload : List UInt8) :
    Effected net (udpSend t net srcIp dstIp srcPort dstPort payload).1
      (udpSendEffects t net srcIp dstIp srcPort dstPort payload) := by
  unfold udpSend udpSendEffects
  split
  · exact .refl net
  · split
    · exact .refl net
    · exact sendCreated_effected net srcIp dstIp ipprotoUdp _

theorem icmpSendEchoRequest_effected (net : Net) (srcIp dstIp : UInt32) (id seq : UInt16)
    (payload : List UInt8) :
    Effected net (icmpSendEchoRequest t net srcIp dstIp id seq payload).1
      (icmpSendEchoRequestEffects t net srcIp dstIp id seq payload) :=
  sendCreated_effected net srcIp dstIp ipprotoIcmp _

theorem icmpSendError_effected (net : Net) (iface : IfaceRef) (origPkt : Packet) (type code : UInt8)
    (nextHopMtu : UInt16) :
    Effected net (icmpSendError t net iface origPkt type code nextHopMtu).1
      (icmpSendErrorEffects t net iface origPkt type code nextHopMtu) := by
  unfold icmpSendError icmpSendErrorEffects
  dsimp only
  split
  · exact .of_eq rfl rfl
  · split
    · exact .refl net
    · have hsent := sendCreated_effected (t := t) net (t.iface iface).ipAddr
        (getIpHeader (origPkt.header ipHdrLen)).srcIp ipprotoIcmp
        (packetFill (t.memory net.allocs)
          (icmpErrorMessage type code nextHopMtu (icmpQuote origPkt)))
      split
      · exact ⟨hsent.allocs, hsent.events⟩
      · exact hsent

theorem routerReceive_effected (net : Net) (router : Router) (iface : IfaceRef) {pkt : Packet}
    (h : Transits t router pkt) :
    Effected net (routerReceive t net router iface pkt).1
      (routerReceiveEffects t net router iface pkt) := by
  have hnone : ∀ net' : Net, net'.allocs = net.allocs → net'.calls = net.calls →
      Effected net net' [.free .given] := fun net' ha hc => ⟨ha, by rw [hc]; rfl⟩
  have herror : ∀ type code : UInt8,
      Effected net ((icmpSendError t net iface pkt type code 0).1.rxDropped iface)
        (icmpSendErrorEffects t net iface pkt type code 0 ++ [.free .given]) := by
    intro type code
    have hsent : Effected net (icmpSendError t net iface pkt type code 0).1
        (icmpSendErrorEffects t net iface pkt type code 0 ++ [.free .given]) :=
      (icmpSendError_effected net iface pkt type code 0).append rfl rfl
    exact ⟨hsent.allocs, hsent.events⟩
  unfold routerReceive routerReceiveEffects
  simp only [h.1, h.2, Bool.or_self, Bool.false_eq_true, if_false]
  split
  · exact hnone _ rfl rfl
  · split
    · exact herror _ _
    · cases routeTableLookup router.routeTbl (getIpHeader pkt.bytes).dstIp with
      | none => exact herror _ _
      | some route =>
        dsimp only
        generalize (if route.nextHop ≠ 0 then route.nextHop else (getIpHeader pkt.bytes).dstIp) =
          arpTargetIp
        generalize packetOverwrite pkt (ipForwardedHeader (getIpHeader pkt.bytes)).bytes = packet
        cases route.iface with
        | none =>
          cases arpCacheLookup (net.arp router.arpCache) arpTargetIp with
          | none => exact hnone _ rfl rfl
          | some mac => exact .refl net
        | some out =>
          dsimp only
          cases arpCacheLookup (net.arp router.arpCache) arpTargetIp with
          | none =>
            have hwait := arpRequestAndQueue_effected (t := t) net router.arpCache out arpTargetIp
              packet .given
            dsimp only
            split
            · exact hwait.append rfl rfl
            · exact hwait.append rfl rfl
          | some mac => exact ethernetSend_effected _ _ _ _ _

end FrameRunner
