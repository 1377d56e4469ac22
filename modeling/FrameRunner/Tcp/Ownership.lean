import FrameRunner.Network.Delivery
import FrameRunner.Network.Ownership
import FrameRunner.Tcp.Model

/-!
# Who owns a packet that was sent

TCP creates two packets for a segment that it may have to send again: one for
`ip_output` and a clone for the send queue. With that all functions that create a packet
and send it are together in `SendCall`.

Main result: `sendCall_owned_iff`. A frame on the wire is a clone, and nobody frees the
packet that it was cloned from; a message of ARP is never freed either.
-/

namespace FrameRunner

/-! ## TCP -/

/-- The packet of `tcp_send_segment` (lines 198–218). -/
def tcpSegmentPacket (t : Topology) (net : Net) (tcb : Tcb) (seq ack : UInt32) (flags : UInt8)
    (payload : List UInt8) : Packet :=
  packetFill (t.memory net.allocs)
    (tcpSegmentBytes tcb.localPort tcb.remotePort seq ack flags payload)

/-- What TCP sees of the network when it sends this segment: its packet and the clone are
    created before `ip_output` is called. -/
def tcpSegmentEnv (t : Topology) (net : Net) (tcb : Tcb) (seq ack : UInt32) (flags : UInt8)
    (payload : List UInt8) : IpEnv where
  now := some net.sched.now
  ipOk := decide ((ipOutput t net.alloc.alloc tcb.localIp tcb.remoteIp ipProtoTcp
    (tcpSegmentPacket t net tcb seq ack flags payload)).2.1 ≠ -1)

/-- `tcp_send_segment` (lines 171–240) with a clone. -/
def tcpSendSegmentEffects (t : Topology) (net : Net) (tcb : Tcb) (seq ack : UInt32) (flags : UInt8)
    (payload : List UInt8) : List PacketEffect :=
  if payload.length > tcpMss then []
  else
    let pkt := tcpSegmentPacket t net tcb seq ack flags payload
    let trackClone := PacketId.created net.alloc.allocs
    .create (.created net.allocs) :: .create trackClone ::
      (ipOutputEffects t net.alloc.alloc tcb.localIp tcb.remoteIp ipProtoTcp pkt
          (.created net.allocs) ++
        if (ipOutput t net.alloc.alloc tcb.localIp tcb.remoteIp ipProtoTcp pkt).2.1 = -1 then
          [.free (.created net.allocs), .free trackClone]
        else [])

/-- The clone of a segment that was sent is tracked, or freed if the queue is full. -/
def tcpTrackEffects (env : IpEnv) (tcb : Tcb) (seq ack : UInt32) (flags : UInt8)
    (payload : List UInt8) (seqEnd : UInt32) (trackClone : PacketId) : List PacketEffect :=
  match tcpSendSegment env tcb seq ack flags payload with
  | none => []
  | some pkt =>
    match tcpSendqTrack tcb pkt.data seq seqEnd flags env.time with
    | none => [.free trackClone]
    | some _ => [.hold trackClone .tcpSendq]

/-- A segment is sent and tracked. -/
def tcpTrackedEffects (t : Topology) (net : Net) (tcb : Tcb) (seq ack : UInt32) (flags : UInt8)
    (payload : List UInt8) (seqEnd : UInt32) : List PacketEffect :=
  tcpSendSegmentEffects t net tcb seq ack flags payload ++
    tcpTrackEffects (tcpSegmentEnv t net tcb seq ack flags payload) tcb seq ack flags payload seqEnd
      (.created net.alloc.allocs)

/-- `tcp_connect` (lines 392–459). -/
def tcpConnectEffects (t : Topology) (net : Net) (table : TcpTable) (localIp remoteIp : UInt32)
    (localPort remotePort : UInt16) : List PacketEffect :=
  if localIp == 0 || remoteIp == 0 || localPort == 0 || remotePort == 0 then []
  else if (tcpFindExact table localIp localPort remoteIp remotePort).isSome then []
  else
    match tcpAllocTcb table with
    | none => []
    | some (table, i) =>
      let tcb : Tcb :=
        { table.tcbs i with
          localIp := localIp, localPort := localPort, remoteIp := remoteIp,
          remotePort := remotePort, state := .synSent, sndUna := 0, sndNxt := 1, rcvNxt := 0 }
      tcpTrackedEffects t net tcb 0 0 tcpFlagSyn [] 1

/-- `tcp_send` (lines 929–994). -/
def tcpSendEffects (t : Topology) (net : Net) (table : TcpTable) (i : TcbIndex)
    (data : List UInt8) : List PacketEffect :=
  let tcb := table.tcbs i
  if !tcb.valid then []
  else if tcb.state ≠ .established then []
  else if data.length = 0 then []
  else
    let sendLen := if data.length > tcpMss then tcpMss else data.length
    if tcpSendqHasUnacked tcb then []
    else
      tcpTrackedEffects t net tcb tcb.sndNxt tcb.rcvNxt (tcpFlagAck ||| tcpFlagPsh)
        (data.take sendLen) (tcb.sndNxt + UInt32.ofNat sendLen)

/-- `tcp_close` (lines 997–1053). -/
def tcpCloseEffects (t : Topology) (net : Net) (table : TcpTable) (i : TcbIndex) :
    List PacketEffect :=
  let tcb := table.tcbs i
  if !tcb.valid then []
  else if tcb.state ≠ .established ∧ tcb.state ≠ .closeWait then []
  else if tcpSendqHasUnacked tcb then []
  else
    tcpTrackedEffects t net tcb tcb.sndNxt tcb.rcvNxt (tcpFlagFin ||| tcpFlagAck) []
      (tcb.sndNxt + 1)

section
variable {t : Topology}

/-- Tracking disposes of the clone alone. -/
theorem disposals_tcpTrackEffects (env : IpEnv) (tcb : Tcb) (seq ack : UInt32) (flags : UInt8)
    (payload : List UInt8) (seqEnd : UInt32) {trackClone id : PacketId} (hid : trackClone ≠ id) :
    disposals id (tcpTrackEffects env tcb seq ack flags payload seqEnd trackClone) = 0 := by
  unfold tcpTrackEffects
  split
  · rfl
  · split
    · simp [hid]
    · simp [hid]

/-- Without a segment on its way there is nothing to track. -/
theorem tcpTrackEffects_nil {env : IpEnv} (h : env.ipOk = false) (tcb : Tcb) (seq ack : UInt32)
    (flags : UInt8) (payload : List UInt8) (seqEnd : UInt32) (trackClone : PacketId) :
    tcpTrackEffects env tcb seq ack flags payload seqEnd trackClone = [] := by
  unfold tcpTrackEffects tcpSendSegment
  simp only [h, Bool.false_eq_true, if_false, ite_self]

/-- The clone is tracked or freed; the packet that left is not. -/
theorem tcpTracked_owned_iff (net : Net) (tcb : Tcb) (seq ack : UInt32) (flags : UInt8)
    {payload : List UInt8} (seqEnd : UInt32) (hlen : payload.length ≤ tcpMss) :
    OwnedOnce [] (tcpTrackedEffects t net tcb seq ack flags payload seqEnd) ↔
      ¬ IpEmits t net tcb.localIp tcb.remoteIp := by
  have hclone : PacketId.created net.alloc.allocs ≠ .created net.allocs := by
    rw [Ne, PacketId.created.injEq]
    exact Nat.ne_of_gt (Nat.lt_succ_self _)
  have hnew : ∀ n, n < net.alloc.alloc.allocs →
      PacketId.created n ≠ .created net.alloc.alloc.allocs := by
    intro n hn
    rw [Ne, PacketId.created.injEq]
    exact Nat.ne_of_lt hn
  have h0 := hnew net.allocs (Nat.lt_succ_of_lt (Nat.lt_succ_self _))
  have h1 := hnew net.alloc.allocs (Nat.lt_succ_self _)
  have hdata : (tcpSegmentPacket t net tcb seq ack flags payload).data = pktHeadroom :=
    data_packetFill _ _
  unfold tcpTrackedEffects tcpSendSegmentEffects
  rw [if_neg (Nat.not_lt.mpr hlen)]
  dsimp only
  rcases ipOutputEffects_cases (t := t) net.alloc.alloc tcb.localIp tcb.remoteIp ipProtoTcp hdata h0
    with ⟨hnot, hres, hnil⟩ | ⟨hemits, hlost⟩
  · have hfailed : (tcpSegmentEnv t net tcb seq ack flags payload).ipOk = false :=
      decide_eq_false (not_not.mpr hres)
    rw [tcpTrackEffects_nil hfailed, hres, hnil]
    refine ⟨fun _ => hnot, fun _ id hmem => ?_⟩
    simp at hmem
    rcases hmem with rfl | rfl
    · simp [hclone]
    · simp [hclone.symm]
  · refine ⟨fun howned => absurd howned ?_, fun h => absurd hemits h⟩
    rcases hlost with ⟨hres, hzero⟩ | ⟨hmem, hzero⟩
    · apply not_ownedOnce (.inr (List.mem_append_left _ List.mem_cons_self))
      rw [disposals_append, disposals_create, disposals_create, disposals_append, hzero, if_neg hres,
        disposals_tcpTrackEffects _ _ _ _ _ _ _ hclone]
      rfl
    · apply not_ownedOnce (.inr (List.mem_append_left _ (List.mem_cons_of_mem _
        (List.mem_cons_of_mem _ (List.mem_append_left _ hmem)))))
      rw [disposals_append, disposals_create, disposals_create, disposals_append, hzero,
        disposals_tcpTrackEffects _ _ _ _ _ _ _ h1]
      split
      · simp [h0, h1]
      · rfl

end

/-! ## The calls -/

/-- A call that creates packets and sends them, or is given one to send on. -/
inductive SendCall where
  | udpSend (srcIp dstIp : UInt32) (srcPort dstPort : UInt16) (payload : List UInt8)
  | icmpSendEchoRequest (srcIp dstIp : UInt32) (id seq : UInt16) (payload : List UInt8)
  | tcpConnect (localIp remoteIp : UInt32) (localPort remotePort : UInt16)
  | tcpSend (tcb : TcbIndex) (data : List UInt8)
  | tcpClose (tcb : TcbIndex)
  | arpSendRequest (iface : IfaceRef) (targetIp : UInt32)
  | arpSendReply (iface : IfaceRef) (reqPkt : Packet)
  | routerReceive (router : Router) (iface : IfaceRef) (pkt : Packet)

namespace SendCall

/-- What the call does with packets, in any state of the network and of the connections. -/
def effects (t : Topology) (net : Net) (table : TcpTable) : SendCall → List PacketEffect
  | udpSend srcIp dstIp srcPort dstPort payload =>
    udpSendEffects t net srcIp dstIp srcPort dstPort payload
  | icmpSendEchoRequest srcIp dstIp id seq payload =>
    icmpSendEchoRequestEffects t net srcIp dstIp id seq payload
  | tcpConnect localIp remoteIp localPort remotePort =>
    tcpConnectEffects t net table localIp remoteIp localPort remotePort
  | tcpSend tcb data => tcpSendEffects t net table tcb data
  | tcpClose tcb => tcpCloseEffects t net table tcb
  | arpSendRequest iface targetIp => arpSendRequestEffects t net iface targetIp
  | arpSendReply iface reqPkt => arpSendReplyEffects t net iface reqPkt
  | routerReceive router iface pkt => routerReceiveEffects t net router iface pkt

/-- The packet that the call has to dispose of besides those that it creates. -/
def given : SendCall → List PacketId
  | routerReceive .. => [.given]
  | _ => []

/-- What `router_receive` is given does not stay at the router. -/
def Transit (t : Topology) : SendCall → Prop
  | routerReceive router _ pkt => Transits t router pkt
  | _ => True

/-- The call creates no packet, or what it creates neither leaves nor is a message of
    ARP. -/
def KeepsOwners (t : Topology) (net : Net) (table : TcpTable) : SendCall → Prop
  | udpSend srcIp dstIp _ dstPort payload =>
    dstPort = 0 ∨ payload.length > 65535 - udpHdrLen ∨ ¬ IpEmits t net srcIp dstIp
  | icmpSendEchoRequest srcIp dstIp _ _ _ => ¬ IpEmits t net srcIp dstIp
  | tcpConnect localIp remoteIp localPort remotePort =>
    (localIp = 0 ∨ remoteIp = 0 ∨ localPort = 0 ∨ remotePort = 0) ∨
      (tcpFindExact table localIp localPort remoteIp remotePort).isSome = true ∨
      tcpAllocTcb table = none ∨ ¬ IpEmits t net localIp remoteIp
  | tcpSend i data =>
    let tcb := table.tcbs i
    tcb.valid = false ∨ tcb.state ≠ .established ∨ data = [] ∨ tcpSendqHasUnacked tcb = true ∨
      ¬ IpEmits t net tcb.localIp tcb.remoteIp
  | tcpClose i =>
    let tcb := table.tcbs i
    tcb.valid = false ∨ (tcb.state ≠ .established ∧ tcb.state ≠ .closeWait) ∨
      tcpSendqHasUnacked tcb = true ∨ ¬ IpEmits t net tcb.localIp tcb.remoteIp
  | arpSendRequest _ targetIp => targetIp = 0
  | arpSendReply _ reqPkt => reqPkt.len < arpPacketLen
  | routerReceive router iface pkt => RouterKeepsOwners t net router iface pkt

end SendCall

section
variable {t : Topology} {net : Net} {table : TcpTable}

theorem udpSend_owned_iff (srcIp dstIp : UInt32) (srcPort dstPort : UInt16)
    (payload : List UInt8) :
    OwnedOnce [] (udpSendEffects t net srcIp dstIp srcPort dstPort payload) ↔
      dstPort = 0 ∨ payload.length > 65535 - udpHdrLen ∨ ¬ IpEmits t net srcIp dstIp := by
  unfold udpSendEffects
  split_ifs with hport hlen
  · exact ⟨fun _ => .inl hport, fun _ => ownedOnce_nil⟩
  · exact ⟨fun _ => .inr (.inl hlen), fun _ => ownedOnce_nil⟩
  · rw [sendCreated_owned_iff net _ _ _ (data_packetFill _ _)]
    simp [hport, hlen]

theorem tcpConnect_owned_iff (localIp remoteIp : UInt32) (localPort remotePort : UInt16) :
    OwnedOnce [] (tcpConnectEffects t net table localIp remoteIp localPort remotePort) ↔
      (localIp = 0 ∨ remoteIp = 0 ∨ localPort = 0 ∨ remotePort = 0) ∨
        (tcpFindExact table localIp localPort remoteIp remotePort).isSome = true ∨
        tcpAllocTcb table = none ∨ ¬ IpEmits t net localIp remoteIp := by
  have hzero : (localIp == 0 || remoteIp == 0 || localPort == 0 || remotePort == 0) = true ↔
      localIp = 0 ∨ remoteIp = 0 ∨ localPort = 0 ∨ remotePort = 0 := by
    simp [or_assoc]
  rw [← hzero]
  unfold tcpConnectEffects
  split_ifs with hargs hknown
  · exact ⟨fun _ => .inl hargs, fun _ => ownedOnce_nil⟩
  · exact ⟨fun _ => .inr (.inl hknown), fun _ => ownedOnce_nil⟩
  · cases halloc : tcpAllocTcb table with
    | none => exact ⟨fun _ => .inr (.inr (.inl rfl)), fun _ => ownedOnce_nil⟩
    | some r =>
      obtain ⟨table', i⟩ := r
      dsimp only
      rw [tcpTracked_owned_iff net _ 0 0 tcpFlagSyn 1 (by decide)]
      simp [hargs, hknown]

theorem tcpSend_owned_iff (i : TcbIndex) (data : List UInt8) :
    OwnedOnce [] (tcpSendEffects t net table i data) ↔
      (table.tcbs i).valid = false ∨ (table.tcbs i).state ≠ .established ∨ data = [] ∨
        tcpSendqHasUnacked (table.tcbs i) = true ∨
        ¬ IpEmits t net (table.tcbs i).localIp (table.tcbs i).remoteIp := by
  unfold tcpSendEffects
  dsimp only
  split_ifs with hvalid hstate hempty hbusy hlong
  · exact ⟨fun _ => .inl (by simpa using hvalid), fun _ => ownedOnce_nil⟩
  · exact ⟨fun _ => .inr (.inl hstate), fun _ => ownedOnce_nil⟩
  · exact ⟨fun _ => .inr (.inr (.inl (List.eq_nil_of_length_eq_zero hempty))),
      fun _ => ownedOnce_nil⟩
  · exact ⟨fun _ => .inr (.inr (.inr (.inl hbusy))), fun _ => ownedOnce_nil⟩
  all_goals
    have hvalid : (table.tcbs i).valid = true := by simpa using hvalid
    have hempty : data ≠ [] := fun h => hempty (by rw [h]; rfl)
    rw [tcpTracked_owned_iff]
    · simp [hvalid, hstate, hempty, hbusy]
    · rw [List.length_take]
      omega

theorem tcpClose_owned_iff (i : TcbIndex) :
    OwnedOnce [] (tcpCloseEffects t net table i) ↔
      (table.tcbs i).valid = false ∨
        ((table.tcbs i).state ≠ .established ∧ (table.tcbs i).state ≠ .closeWait) ∨
        tcpSendqHasUnacked (table.tcbs i) = true ∨
        ¬ IpEmits t net (table.tcbs i).localIp (table.tcbs i).remoteIp := by
  unfold tcpCloseEffects
  dsimp only
  split_ifs with hvalid hstate hbusy
  · exact ⟨fun _ => .inl (by simpa using hvalid), fun _ => ownedOnce_nil⟩
  · exact ⟨fun _ => .inr (.inl hstate), fun _ => ownedOnce_nil⟩
  · exact ⟨fun _ => .inr (.inr (.inl hbusy)), fun _ => ownedOnce_nil⟩
  · have hvalid : (table.tcbs i).valid = true := by simpa using hvalid
    rw [tcpTracked_owned_iff net _ _ _ _ _ (by decide)]
    rw [or_iff_right (by simp [hvalid]), or_iff_right hstate, or_iff_right hbusy]

/-- When a call returns, each packet that it created or was given has one owner exactly if
    nothing that it created has left and it has built no message of ARP. -/
theorem sendCall_owned_iff (t : Topology) (net : Net) (table : TcpTable) (call : SendCall)
    (h : call.Transit t) :
    OwnedOnce call.given (call.effects t net table) ↔ call.KeepsOwners t net table := by
  cases call with
  | udpSend srcIp dstIp srcPort dstPort payload =>
    exact udpSend_owned_iff srcIp dstIp srcPort dstPort payload
  | icmpSendEchoRequest srcIp dstIp id seq payload =>
    exact sendCreated_owned_iff net srcIp dstIp ipprotoIcmp (data_packetFill _ _)
  | tcpConnect localIp remoteIp localPort remotePort =>
    exact tcpConnect_owned_iff localIp remoteIp localPort remotePort
  | tcpSend i data => exact tcpSend_owned_iff i data
  | tcpClose i => exact tcpClose_owned_iff i
  | arpSendRequest iface targetIp => exact arpSendRequest_owned_iff net iface targetIp
  | arpSendReply iface reqPkt => exact arpSendReply_owned_iff net iface reqPkt
  | routerReceive router iface pkt => exact routerReceive_owned_iff net router iface h

end

/-- A packet with no hop left, whose error has nowhere to go, is freed. -/
theorem sendCall_owned_iff_examplePacket :
    OwnedOnce [.given]
      (routerReceiveEffects exampleRouterTopology netInit exampleRouter 0 examplePacket) := by
  have hsource : (getIpHeader (examplePacket.header ipHdrLen)).srcIp = 0x02000000 := by
    decide +kernel
  have hkeeps : RouterKeepsOwners exampleRouterTopology netInit exampleRouter 0 examplePacket := by
    refine .inr ?_
    have httl : (getIpHeader examplePacket.bytes).ttl ≤ 1 := by decide +kernel
    rw [if_pos httl]
    rintro ⟨-, -, iface, -, -, hemits⟩
    rw [hsource, if_neg (by decide)] at hemits
    obtain ⟨cache, -, hsubnet, -⟩ := hemits
    have hfar : ipSameSubnet 0x0A000001 0x02000000 24 = false := by decide
    have hnear : ipSameSubnet 0x0A000001 0x02000000 24 = true := hsubnet
    rw [hfar] at hnear
    cases hnear
  exact (sendCall_owned_iff exampleRouterTopology netInit tcpInit
    (.routerReceive exampleRouter 0 examplePacket) refuses_examplePacket.transit).mpr hkeeps

/-- A datagram to a host whose address is cached is never freed. -/
theorem not_sendCall_owned :
    ¬ ∀ (t : Topology) (net : Net) (table : TcpTable) (call : SendCall), call.Transit t →
      OwnedOnce call.given (call.effects t net table) := by
  intro h
  have howned := h exampleUdpHosts exampleUdpNet tcpInit
    (.udpSend 0x0A000001 0x0A000002 4000 4001 [1, 2, 3]) trivial
  have hemits : IpEmits exampleUdpHosts exampleUdpNet 0x0A000001 0x0A000002 := by
    have hgroup : ipIsMulticast 0x0A000002 = false := by decide
    have hcached : arpCacheLookup (exampleUdpNet.arp 0) 0x0A000002 ≠ none := by decide +kernel
    refine ⟨0, by decide +kernel, rfl, ?_⟩
    rw [hgroup]
    refine ⟨0, rfl, by decide +kernel, ?_⟩
    rw [if_neg hcached]
    exact ⟨rfl, 1, ⟨0, rfl, rfl, rfl⟩, rfl⟩
  rcases (udpSend_owned_iff 0x0A000001 0x0A000002 4000 4001 [1, 2, 3]).mp howned with
    hport | hlong | hnot
  · exact absurd hport (by decide)
  · exact absurd hlong (by decide)
  · exact hnot hemits

end FrameRunner
