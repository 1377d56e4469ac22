import FrameRunner.Lib.Run
import FrameRunner.Network.Delivery

/-!
# The byte counters

`ethernet_send` counts a frame before it knows whether the link takes it, `ip_send` and
`ip_output` count the packet that they hand to `ethernet_send`, and `ethernet_receive` and
`ip_receive` count what they take in. The functions below list what is counted along the
paths of the calls.

Main result: `netActions_bytes`, on the two counters of an interface after any sends and
receptions.
-/

namespace FrameRunner

open FrameRunner.Lib

/-! ## What is counted -/

/-- A frame that `ethernet_send` made, with its header, which the link took or not; an IPv4
    packet handed to `ethernet_send`; a frame that `ethernet_receive` took, without its
    header; and an IPv4 packet that `ip_receive` took. -/
inductive ByteItem where
  | framed (iface : IfaceRef) (len : ℕ) (accepted : Bool)
  | ipSent (iface : IfaceRef) (len : ℕ)
  | received (iface : IfaceRef) (len : ℕ)
  | ipReceived (iface : IfaceRef) (len : ℕ)
  deriving DecidableEq, Repr

namespace ByteItem

/-! The bytes of an item, if it is of a kind and of the interface. -/

def framedOn (i : IfaceRef) : ByteItem → ℕ
  | framed iface len _ => if iface = i then len else 0
  | _ => 0

def acceptedOn (i : IfaceRef) : ByteItem → ℕ
  | framed iface len true => if iface = i then len else 0
  | _ => 0

def ipSentOn (i : IfaceRef) : ByteItem → ℕ
  | ipSent iface len => if iface = i then len else 0
  | _ => 0

def receivedOn (i : IfaceRef) : ByteItem → ℕ
  | received iface len => if iface = i then len else 0
  | _ => 0

def ipReceivedOn (i : IfaceRef) : ByteItem → ℕ
  | ipReceived iface len => if iface = i then len else 0
  | _ => 0

end ByteItem

/-- The bytes of the items of a kind. -/
def totalBytes (bytes : ByteItem → ℕ) (items : List ByteItem) : ℕ := (items.map bytes).sum

/-! ## Sending -/

/-- Whether `link_transmit` takes a frame of `src`. -/
def linkAccepts (t : Topology) (link : Option LinkRef) (src : IfaceRef) : Bool :=
  match link with
  | none => false
  | some l => (t.link l).up &&
    match linkGetOtherInterface (t.link l) src with
    | none => false
    | some dst => (t.iface dst).up

/-- `ethernet_send` (`ethernet.c`, lines 45–84). -/
def ethernetSendItems (t : Topology) (iface : IfaceRef) (dstMac : Mac) (ethertype : UInt16)
    (payload : Packet) : List ByteItem :=
  if (t.iface iface).errDisabled then []
  else
    match packetPrepend payload (ethernetHeader dstMac (t.iface iface).mac ethertype) with
    | none => []
    | some frame => [.framed iface frame.len (linkAccepts t (t.iface iface).link iface)]

/-- `arp_send_request` (`arp.c`, lines 128–167). -/
def arpSendRequestItems (t : Topology) (net : Net) (iface : IfaceRef) (targetIp : UInt32) :
    List ByteItem :=
  if targetIp = 0 then []
  else
    ethernetSendItems t iface ethBroadcast ethertypeArp
      (arpCreate t net (arpPacket arpOpcodeRequest (t.iface iface).mac (t.iface iface).ipAddr
        ⟨0, 0, 0, 0, 0, 0⟩ targetIp))

/-- `arp_send_reply` (lines 169–217). -/
def arpSendReplyItems (t : Topology) (net : Net) (iface : IfaceRef) (reqPkt : Packet) :
    List ByteItem :=
  if !packetValidateView reqPkt 0 arpPacketLen then []
  else
    let dstMac := getMac reqPkt.bytes 8
    let dstIp := getU32 reqPkt.bytes 14
    ethernetSendItems t iface dstMac ethertypeArp
      (arpCreate t net (arpPacket arpOpcodeReply (t.iface iface).mac (t.iface iface).ipAddr dstMac
        dstIp))

/-- An IPv4 packet is handed to `ethernet_send`. -/
def ipSentItems (t : Topology) (iface : IfaceRef) (dstMac : Mac) (packet : Packet) :
    List ByteItem :=
  .ipSent iface packet.len :: ethernetSendItems t iface dstMac ethertypeIpv4 packet

/-- `ip_send` (`ip.c`, lines 180–202). -/
def ipSendItems (t : Topology) (iface : IfaceRef) (dstMac : Mac) (srcIp dstIp : UInt32)
    (protocol : UInt8) (payload : Packet) : List ByteItem :=
  match ipPrependHeader srcIp dstIp protocol payload with
  | none => []
  | some packet => ipSentItems t iface dstMac packet

/-- `ip_output` (lines 204–271). -/
def ipOutputItems (t : Topology) (net : Net) (srcIp dstIp : UInt32) (protocol : UInt8)
    (payload : Packet) : List ByteItem :=
  match ipFindSourceIface t srcIp with
  | none => []
  | some iface =>
    if !(t.iface iface).up then []
    else if ipIsMulticast dstIp then
      match ipMulticastToMac dstIp with
      | none => []
      | some dstMac =>
        match ipPrependHeader srcIp dstIp protocol payload with
        | none => []
        | some packet => ipSentItems t iface dstMac packet
    else
      match (t.iface iface).arpCache with
      | none => []
      | some cache =>
        if !ipSameSubnet (t.iface iface).ipAddr dstIp (t.iface iface).prefixLen then []
        else
          match ipPrependHeader srcIp dstIp protocol payload with
          | none => []
          | some packet =>
            match arpCacheLookup (net.arp cache) dstIp with
            | none => arpSendRequestItems t net iface dstIp
            | some dstMac => ipSentItems t iface dstMac packet

/-- Round `i` of the loop of `arp_pending_flush` (`arp.c`, lines 96–123). -/
def arpPendingFlushEntryItems (t : Topology) (cache : CacheRef) (targetIp : UInt32) (macAddr : Mac)
    (acc : Net × ℤ) (i : Fin arpMaxPendingPackets) : List ByteItem :=
  let pending := (acc.1.arp cache).pending i
  if !pending.valid || pending.targetIp != targetIp then []
  else
    match pending.iface, pending.packet with
    | some iface, some packet => ethernetSendItems t iface macAddr pending.ethertype packet
    | _, _ => []

/-- `arp_pending_flush` (lines 87–126). -/
def arpPendingFlushItems (t : Topology) (net : Net) (cache : CacheRef) (targetIp : UInt32)
    (macAddr : Mac) : List ByteItem :=
  if targetIp = 0 then []
  else
    outputs (arpPendingFlushEntry t cache targetIp macAddr)
      (arpPendingFlushEntryItems t cache targetIp macAddr) (net, 0)
      (List.finRange arpMaxPendingPackets)

/-- `icmp_send_error` (`icmp.c`, lines 4–69). -/
def icmpSendErrorItems (t : Topology) (net : Net) (iface : IfaceRef) (origPkt : Packet)
    (type code : UInt8) (nextHopMtu : UInt16) : List ByteItem :=
  if !packetValidateView origPkt ipHdrLen 0 then []
  else
    let origIp := getIpHeader (origPkt.header ipHdrLen)
    if icmpSuppressed origIp origPkt.bytes then []
    else
      ipOutputItems t net.alloc (t.iface iface).ipAddr origIp.srcIp ipprotoIcmp
        (packetFill (t.memory net.allocs)
          (icmpErrorMessage type code nextHopMtu (icmpQuote origPkt)))

/-! ## Receiving -/

/-- `udp_receive` (`udp.c`, lines 98–177). -/
def udpReceiveItems (t : Topology) (net : Net) (iface : IfaceRef) (pkt : Packet)
    (ctx : UdpContext) : List ByteItem :=
  if !packetValidateView pkt ipHdrLen udpHdrLen then []
  else if (getIpHeader (pkt.header ipHdrLen)).protocol ≠ ipprotoUdp then []
  else
    let dstPort := getU16 pkt.bytes 2
    let udpLen := (getU16 pkt.bytes 4).toNat
    if udpLen < udpHdrLen then []
    else if udpLen > pkt.len then []
    else
      match udpFind ctx.sockets dstPort with
      | some _ => []
      | none =>
        if ctx.sim then icmpSendErrorItems t net iface pkt icmpDestUnreach icmpCodePortUnreach 0
        else []

/-- `ip_receive` (`ip.c`, lines 135–177). -/
def ipReceiveItems (t : Topology) (net : Net) (iface : IfaceRef) (frame : Packet)
    (stack : StackRef) : List ByteItem :=
  if frame.len < ipHdrLen then []
  else if !ipValidateHeader frame then []
  else
    let ipHdr := getIpHeader frame.bytes
    if ipHdr.ttl = 0 then []
    else
      .ipReceived iface frame.len ::
        match packetStrip frame ipHdrLen with
        | none => []
        | some pkt =>
          match t.ipStack stack ipHdr.protocol with
          | some (.udpReceive ctx) =>
            udpReceiveItems t (net.rxBytes iface frame.len) iface pkt (t.udp ctx)
          | _ => []

/-- `router_receive` (`router.c`, lines 119–200). -/
def routerReceiveItems (t : Topology) (net : Net) (router : Router) (iface : IfaceRef)
    (pkt : Packet) : List ByteItem :=
  if !ipValidateHeader pkt then []
  else
    let ipHdr := getIpHeader pkt.bytes
    let dstIp := ipHdr.dstIp
    if routerIpIsLocal t router dstIp || routerIpIsControlMulticast dstIp then
      ipReceiveItems t net iface pkt router.ipStack
    else if ipHdr.ttl ≤ 1 then
      icmpSendErrorItems t net iface pkt icmpTimeExceeded icmpCodeTtlExceeded 0
    else
      match routeTableLookup router.routeTbl dstIp with
      | none => icmpSendErrorItems t net iface pkt icmpDestUnreach icmpCodeNetUnreach 0
      | some route =>
        let arpTargetIp := if route.nextHop ≠ 0 then route.nextHop else dstIp
        let pkt := packetOverwrite pkt (ipForwardedHeader ipHdr).bytes
        match route.iface with
        | none => []
        | some out =>
          match arpCacheLookup (net.arp router.arpCache) arpTargetIp with
          | some dstMac => ethernetSendItems t out dstMac ethertypeIpv4 pkt
          | none => arpSendRequestItems t net out arpTargetIp

/-- `router_rx_shim` (lines 29–56). -/
def routerRxShimItems (t : Topology) (net : Net) (router : Router) (iface : IfaceRef)
    (pkt : Packet) (ethertype : UInt16) : List ByteItem :=
  if ethertype ≠ ethertypeIpv4 then [] else routerReceiveItems t net router iface pkt

/-- Round `outPort` of the flood of `switch_receive` (`switch.c`, lines 141–156). -/
def switchFloodPortItems (t : Topology) (inPort : IfaceRef) (frame : Packet) (dstMac : Mac)
    (ethertype : UInt16) (net : Net) (outPort : IfaceRef) : List ByteItem :=
  if outPort ≠ inPort ∧ (t.iface outPort).up = true ∧ (t.iface outPort).link ≠ none then
    ethernetSendItems t outPort dstMac ethertype (packetClone (t.memory net.allocs) frame)
  else []

/-- `switch_receive` (lines 103–174). -/
def switchReceiveItems (t : Topology) (net : Net) (sw : SwitchRef) (inPort : IfaceRef)
    (frame : Packet) (ethertype : UInt16) : List ByteItem :=
  if !(t.iface inPort).up then []
  else if !packetValidateView frame ethHdrLen 0 then []
  else
    let ethHdr := frame.header ethHdrLen
    let srcMac := getMac ethHdr 6
    let dstMac := getMac ethHdr 0
    match macTableLearn (net.macTbl sw) srcMac inPort net.sched.now with
    | none => []
    | some table =>
      let net := net.setMacTbl sw table
      if dstMac = ethBroadcast ∨ macTableLookup table dstMac = none then
        outputs (switchFloodPort t inPort frame dstMac ethertype)
          (switchFloodPortItems t inPort frame dstMac ethertype) net (t.ports sw)
      else
        match macTableLookup table dstMac with
        | none => []
        | some egress =>
          if egress ≠ inPort ∧ (t.iface egress).up = true then
            ethernetSendItems t egress dstMac ethertype frame
          else []

/-- The receive handler of an interface. -/
def rxHandleItems (t : Topology) (net : Net) (iface : IfaceRef) (pkt : Packet)
    (ethertype : UInt16) : RxHandler → List ByteItem
  | .ip stack => ipReceiveItems t net iface pkt stack
  | .router router => routerRxShimItems t net (t.router router) iface pkt ethertype
  | .switch sw => switchReceiveItems t net sw iface pkt ethertype
  | .app _ => []

/-- `ethernet_receive` (`ethernet.c`, lines 86–122). -/
def ethernetReceiveItems (t : Topology) (iface : IfaceRef) (frame : Packet) : List ByteItem :=
  if !packetValidateView frame 0 ethHdrLen then []
  else if (t.iface iface).errDisabled then []
  else
    let dstMac := getMac frame.bytes 0
    let ethertype := getU16 frame.bytes 12
    if dstMac ≠ (t.iface iface).mac ∧ dstMac ≠ ethBroadcast ∧
        !(ethertype == ethertypeIpv4 && macIsIpv4Multicast dstMac) then []
    else
      match packetStrip frame ethHdrLen with
      | none => []
      | some frame => [.received iface frame.len]

/-- `ethernet_receive_event` (lines 19–43). -/
def ethernetReceiveEventItems (t : Topology) (net : Net) (e : NetEvent) : List ByteItem :=
  match e.payload.dstDevice, e.payload.packet with
  | some iface, some frame =>
    let (net, result, pkt, ethertype) := ethernetReceive t net iface frame
    ethernetReceiveItems t iface frame ++
      if result = 0 then
        match (t.iface iface).rxHandler with
        | none => []
        | some handler =>
          rxHandleItems t (net.record (.rxHandler iface pkt ethertype)) iface pkt ethertype handler
      else []
  | _, _ => []

/-- What the handlers of ARP do with the sender's address (`arp.c`, lines 59–69 and 98–108). -/
def arpLearnSenderItems (t : Topology) (net : Net) (iface : IfaceRef) (pkt : Packet)
    (timestamp : UInt64) : List ByteItem :=
  match (t.iface iface).arpCache with
  | none => []
  | some cache =>
    let senderIp := getU32 pkt.bytes 14
    let senderMac := getMac pkt.bytes 8
    let net := net.setArp cache (arpCacheAdd (net.arp cache) senderIp senderMac timestamp)
    arpPendingFlushItems t net cache senderIp senderMac

/-- `arp_request_handler` (lines 7–77). -/
def arpRequestHandlerItems (t : Topology) (net : Net) (e : NetEvent) : List ByteItem :=
  match e.payload.dstDevice, e.payload.packet with
  | some iface, some pkt =>
    if !packetValidateView pkt 0 arpPacketLen then []
    else if getU16 pkt.bytes 6 ≠ arpOpcodeRequest then []
    else if getU32 pkt.bytes 24 ≠ (t.iface iface).ipAddr then []
    else
      arpSendReplyItems t net iface pkt ++
        arpLearnSenderItems t (arpSendReply t net iface pkt).1 iface pkt e.timestamp
  | _, _ => []

/-- `arp_reply_handler` (lines 79–111). -/
def arpReplyHandlerItems (t : Topology) (net : Net) (e : NetEvent) : List ByteItem :=
  match e.payload.dstDevice, e.payload.packet with
  | some iface, some pkt =>
    if !packetValidateView pkt 0 arpPacketLen then []
    else if getU16 pkt.bytes 6 ≠ arpOpcodeReply then []
    else arpLearnSenderItems t net iface pkt e.timestamp
  | _, _ => []

/-- A callback of the scheduler. -/
def netCallbackItems (t : Topology) (net : Net) (e : NetEvent) : NetCallback → List ByteItem
  | .ethernetReceiveEvent => ethernetReceiveEventItems t net e
  | .arpRequestHandler => arpRequestHandlerItems t net e
  | .arpReplyHandler => arpReplyHandlerItems t net e
  | .macAgeHandler _ => []
  | .other _ => []

/-- `scheduler_step` (`scheduler.c`, lines 62–83). -/
def netStepItems (t : Topology) (net : Net) : List ByteItem :=
  match schedulerStep net.sched with
  | none => []
  | some (e, sched) =>
    match schedulerDispatch sched e with
    | none => []
    | some fn => netCallbackItems t { net with sched := sched } e fn

/-! ## The counters follow the items -/

/-- The counters of all interfaces moved by these items. -/
structure Counted (net net' : Net) (items : List ByteItem) : Prop where
  tx : ∀ i, (net'.stats i).txBytes = (net.stats i).txBytes +
    (totalBytes (ByteItem.framedOn i) items + totalBytes (ByteItem.ipSentOn i) items)
  rx : ∀ i, (net'.stats i).rxBytes = (net.stats i).rxBytes +
    (totalBytes (ByteItem.receivedOn i) items + totalBytes (ByteItem.ipReceivedOn i) items)

theorem totalBytes_append (bytes : ByteItem → ℕ) (items items' : List ByteItem) :
    totalBytes bytes (items ++ items') = totalBytes bytes items + totalBytes bytes items' := by
  unfold totalBytes
  rw [List.map_append, List.sum_append]

namespace Counted

variable {net net' net'' : Net} {items items' : List ByteItem}

/-- A call that counts nothing. -/
theorem of_same (htx : ∀ i, (net'.stats i).txBytes = (net.stats i).txBytes)
    (hrx : ∀ i, (net'.stats i).rxBytes = (net.stats i).rxBytes) : Counted net net' [] :=
  ⟨htx, hrx⟩

/-- The counters are kept. -/
theorem of_stats (h : net'.stats = net.stats) : Counted net net' [] :=
  of_same (fun i => by rw [h]) fun i => by rw [h]

theorem refl (net : Net) : Counted net net [] := of_stats rfl

theorem trans (h : Counted net net' items) (h' : Counted net' net'' items') :
    Counted net net'' (items ++ items') := by
  constructor
  · intro i
    rw [h'.tx, h.tx, totalBytes_append, totalBytes_append]
    omega
  · intro i
    rw [h'.rx, h.rx, totalBytes_append, totalBytes_append]
    omega

/-- What comes before counts nothing. -/
theorem after (h : Counted net net' []) (h' : Counted net' net'' items) :
    Counted net net'' items := h.trans h'

/-- Without a cache nothing is counted. -/
theorem ofOption {cache : Option CacheRef} {next : CacheRef → Net}
    {more : CacheRef → List ByteItem} (h : ∀ c, Counted net (next c) (more c)) :
    Counted net (match cache with | none => net | some c => next c)
      (match cache with | none => [] | some c => more c) := by
  cases cache with
  | none => exact refl net
  | some c => exact h c

/-- What follows counts nothing. -/
theorem quiet (h : Counted net net' items) (h' : Counted net' net'' []) :
    Counted net net'' items := by
  have hboth := h.trans h'
  rwa [List.append_nil] at hboth

end Counted

theorem Net.addStats_stats (net : Net) (iface i : IfaceRef) (f : IfaceStats → IfaceStats) :
    (net.addStats iface f).stats i = if iface = i then f (net.stats i) else net.stats i := by
  unfold Net.addStats
  dsimp only
  by_cases h : iface = i
  · subst h
    rw [Function.update_self, if_pos rfl]
  · rw [Function.update_of_ne (Ne.symm h), if_neg h]

/-- A change of the other counters. -/
theorem Net.addStats_counted (net : Net) (iface : IfaceRef) {f : IfaceStats → IfaceStats}
    (htx : ∀ s, (f s).txBytes = s.txBytes) (hrx : ∀ s, (f s).rxBytes = s.rxBytes) :
    Counted net (net.addStats iface f) [] := by
  refine .of_same (fun i => ?_) fun i => ?_
  · rw [Net.addStats_stats]
    split
    · exact htx _
    · rfl
  · rw [Net.addStats_stats]
    split
    · exact hrx _
    · rfl

theorem Net.alloc_counted (net : Net) : Counted net net.alloc [] := .of_stats rfl

theorem Net.setArp_counted (net : Net) (cache : CacheRef) (c : ArpCache) :
    Counted net (net.setArp cache c) [] := .of_stats rfl

theorem Net.setMacTbl_counted (net : Net) (sw : SwitchRef) (table : MacTable) :
    Counted net (net.setMacTbl sw table) [] := .of_stats rfl

section
variable (net : Net) (iface : IfaceRef) (n : ℕ)

theorem Net.rxDropped_counted : Counted net (net.rxDropped iface) [] :=
  net.addStats_counted iface (fun _ => rfl) fun _ => rfl

theorem Net.rxErrors_counted : Counted net (net.rxErrors iface) [] :=
  net.addStats_counted iface (fun _ => rfl) fun _ => rfl

theorem Net.txErrors_counted : Counted net (net.txErrors iface) [] :=
  net.addStats_counted iface (fun _ => rfl) fun _ => rfl

/-- `tx_bytes` is counted up for a frame, or for a packet. -/
theorem Net.txBytes_counted {item : ByteItem}
    (hitem : item = .ipSent iface n ∨ ∃ accepted, item = .framed iface n accepted) :
    Counted net (net.txBytes iface n) [item] := by
  have hstats : ∀ i, (net.txBytes iface n).stats i =
      if iface = i then { net.stats i with txBytes := (net.stats i).txBytes + n }
      else net.stats i := fun i => net.addStats_stats iface i _
  constructor
  · intro i
    rw [hstats]
    rcases hitem with rfl | ⟨accepted, rfl⟩
    · simp only [totalBytes, List.map_cons, List.map_nil, List.sum_cons, List.sum_nil,
        ByteItem.framedOn, ByteItem.ipSentOn]
      split
      · simp
      · simp
    · simp only [totalBytes, List.map_cons, List.map_nil, List.sum_cons, List.sum_nil,
        ByteItem.framedOn, ByteItem.ipSentOn]
      split
      · simp
      · simp
  · intro i
    rw [hstats]
    rcases hitem with rfl | ⟨accepted, rfl⟩
    · split
      · rfl
      · rfl
    · split
      · rfl
      · rfl

/-- `rx_bytes` is counted up for a frame, or for a packet. -/
theorem Net.rxBytes_counted {item : ByteItem}
    (hitem : item = .received iface n ∨ item = .ipReceived iface n) :
    Counted net (net.rxBytes iface n) [item] := by
  have hstats : ∀ i, (net.rxBytes iface n).stats i =
      if iface = i then { net.stats i with rxBytes := (net.stats i).rxBytes + n }
      else net.stats i := fun i => net.addStats_stats iface i _
  constructor
  · intro i
    rw [hstats]
    rcases hitem with rfl | rfl
    · split
      · rfl
      · rfl
    · split
      · rfl
      · rfl
  · intro i
    rw [hstats]
    rcases hitem with rfl | rfl
    · simp only [totalBytes, List.map_cons, List.map_nil, List.sum_cons, List.sum_nil,
        ByteItem.receivedOn, ByteItem.ipReceivedOn]
      split
      · simp
      · simp
    · simp only [totalBytes, List.map_cons, List.map_nil, List.sum_cons, List.sum_nil,
        ByteItem.receivedOn, ByteItem.ipReceivedOn]
      split
      · simp
      · simp

end

/-! ## The calls -/

section
variable {t : Topology}

/-- `link_transmit` counts nothing. -/
theorem linkTransmit_counted (net : Net) (link : Option LinkRef) (pkt : Packet) (src : IfaceRef)
    (rxHandler : NetCallback) :
    Counted net (linkTransmit t net link pkt src rxHandler).1 [] := by
  unfold linkTransmit
  split
  · exact .refl net
  split
  · exact .refl net
  split
  · exact .refl net
  split
  · exact .refl net
  · exact .of_stats rfl

theorem ethernetSend_counted (net : Net) (iface : IfaceRef) (dstMac : Mac) (ethertype : UInt16)
    (payload : Packet) :
    Counted net (ethernetSend t net iface dstMac ethertype payload).1
      (ethernetSendItems t iface dstMac ethertype payload) := by
  unfold ethernetSend ethernetSendItems
  split
  · exact .refl net
  cases packetPrepend payload (ethernetHeader dstMac (t.iface iface).mac ethertype) with
  | none => exact net.txErrors_counted iface
  | some frame =>
    have hframe : Counted net (net.txBytes iface frame.len)
        [.framed iface frame.len (linkAccepts t (t.iface iface).link iface)] :=
      net.txBytes_counted iface frame.len (.inr ⟨_, rfl⟩)
    exact hframe.quiet (linkTransmit_counted _ _ _ _ _)

theorem arpSendRequest_counted (net : Net) (iface : IfaceRef) (targetIp : UInt32) :
    Counted net (arpSendRequest t net iface targetIp).1
      (arpSendRequestItems t net iface targetIp) := by
  unfold arpSendRequest arpSendRequestItems
  split
  · exact .refl net
  · exact (net.alloc_counted).after (ethernetSend_counted _ _ _ _ _)

theorem arpSendReply_counted (net : Net) (iface : IfaceRef) (reqPkt : Packet) :
    Counted net (arpSendReply t net iface reqPkt).1 (arpSendReplyItems t net iface reqPkt) := by
  unfold arpSendReply arpSendReplyItems
  split
  · exact .refl net
  · exact (net.alloc_counted).after (ethernetSend_counted _ _ _ _ _)

theorem arpRequestAndQueue_counted (net : Net) (cache : CacheRef) (iface : IfaceRef)
    (targetIp : UInt32) (packet : Packet) :
    Counted net (arpRequestAndQueue t net cache iface targetIp packet).1
      (arpSendRequestItems t net iface targetIp) := by
  have hreq := arpSendRequest_counted (t := t) net iface targetIp
  unfold arpRequestAndQueue
  dsimp only
  split
  · exact hreq
  split
  · exact hreq.quiet (.of_stats rfl)
  · exact hreq.quiet (.of_stats rfl)

/-- The packet is counted, and then the frame. -/
theorem ipSent_counted (net : Net) (iface : IfaceRef) (dstMac : Mac) (packet : Packet) :
    Counted net (ethernetSend t (net.txBytes iface packet.len) iface dstMac ethertypeIpv4 packet).1
      (ipSentItems t iface dstMac packet) :=
  (net.txBytes_counted iface packet.len (.inl rfl)).trans (ethernetSend_counted _ _ _ _ _)

theorem ipSend_counted (net : Net) (iface : IfaceRef) (dstMac : Mac) (srcIp dstIp : UInt32)
    (protocol : UInt8) (payload : Packet) :
    Counted net (ipSend t net iface dstMac srcIp dstIp protocol payload).1
      (ipSendItems t iface dstMac srcIp dstIp protocol payload) := by
  unfold ipSend ipSendItems
  cases ipPrependHeader srcIp dstIp protocol payload with
  | none => exact .refl net
  | some packet => exact ipSent_counted net iface dstMac packet

theorem ipOutput_counted (net : Net) (srcIp dstIp : UInt32) (protocol : UInt8)
    (payload : Packet) :
    Counted net (ipOutput t net srcIp dstIp protocol payload).1
      (ipOutputItems t net srcIp dstIp protocol payload) := by
  have hrecord : Counted net (net.record (.ipOutput srcIp dstIp protocol payload.bytes)) [] :=
    .of_stats rfl
  unfold ipOutput ipOutputItems
  dsimp only
  cases ipFindSourceIface t srcIp with
  | none => exact hrecord
  | some iface =>
    dsimp only
    split
    · exact hrecord
    split
    · cases ipMulticastToMac dstIp with
      | none => exact hrecord
      | some dstMac =>
        cases ipPrependHeader srcIp dstIp protocol payload with
        | none => exact hrecord
        | some packet => exact hrecord.after (ipSent_counted _ _ _ _)
    · cases (t.iface iface).arpCache with
      | none => exact hrecord
      | some cache =>
        dsimp only
        split
        · exact hrecord
        cases ipPrependHeader srcIp dstIp protocol payload with
        | none => exact hrecord
        | some packet =>
          dsimp only [Net.record_arp]
          cases arpCacheLookup (net.arp cache) dstIp with
          | none => exact hrecord.after (arpRequestAndQueue_counted _ _ _ _ _)
          | some dstMac => exact hrecord.after (ipSent_counted _ _ _ _)

theorem arpPendingFlush_counted (net : Net) (cache : CacheRef) (targetIp : UInt32)
    (macAddr : Mac) :
    Counted net (arpPendingFlush t net cache targetIp macAddr).1
      (arpPendingFlushItems t net cache targetIp macAddr) := by
  have hround : ∀ (acc : Net × ℤ) (i : Fin arpMaxPendingPackets),
      Counted acc.1 (arpPendingFlushEntry t cache targetIp macAddr acc i).1
        (arpPendingFlushEntryItems t cache targetIp macAddr acc i) := by
    intro acc i
    obtain ⟨net, sent⟩ := acc
    have hcleared := net.setArp_counted cache
    unfold arpPendingFlushEntry arpPendingFlushEntryItems
    dsimp only
    split
    · exact .refl net
    cases ((net.arp cache).pending i).iface with
    | none => exact hcleared _
    | some iface =>
      cases ((net.arp cache).pending i).packet with
      | none => exact hcleared _
      | some packet => exact (hcleared _).after (ethernetSend_counted _ _ _ _ _)
  unfold arpPendingFlush arpPendingFlushItems
  split
  · exact .refl net
  · rw [Slots.forEach]
    exact run_outputs (R := fun (acc acc' : Net × ℤ) items => Counted acc.1 acc'.1 items)
      (fun acc => .refl acc.1) (fun h h' => h.trans h') hround _ (net, 0)

theorem icmpSendError_counted (net : Net) (iface : IfaceRef) (origPkt : Packet)
    (type code : UInt8) (nextHopMtu : UInt16) :
    Counted net (icmpSendError t net iface origPkt type code nextHopMtu).1
      (icmpSendErrorItems t net iface origPkt type code nextHopMtu) := by
  unfold icmpSendError icmpSendErrorItems
  dsimp only
  split
  · exact net.txErrors_counted iface
  split
  · exact .refl net
  have hsent := (net.alloc_counted).after (ipOutput_counted (t := t) net.alloc
    (t.iface iface).ipAddr (getIpHeader (origPkt.header ipHdrLen)).srcIp ipprotoIcmp
    (packetFill (t.memory net.allocs) (icmpErrorMessage type code nextHopMtu (icmpQuote origPkt))))
  split
  · exact hsent.quiet (Net.txErrors_counted _ _)
  · exact hsent

theorem udpReceive_counted (net : Net) (iface : IfaceRef) (pkt : Packet) (ctx : UdpContext) :
    Counted net (udpReceive t net iface pkt ctx).1 (udpReceiveItems t net iface pkt ctx) := by
  have herr : Counted net (net.rxErrors iface) [] := net.rxErrors_counted iface
  unfold udpReceive udpReceiveItems
  dsimp only
  split
  · exact herr
  split
  · exact herr
  split
  · exact herr
  split
  · exact herr
  cases udpFind ctx.sockets (getU16 pkt.bytes 2) with
  | some i =>
    cases packetStrip pkt udpHdrLen with
    | none => exact herr
    | some rest => exact .of_stats rfl
  | none =>
    dsimp only
    split
    · exact icmpSendError_counted _ _ _ _ _ _
    · exact net.rxDropped_counted iface

theorem ipReceive_counted (net : Net) (iface : IfaceRef) (frame : Packet) (stack : StackRef) :
    Counted net (ipReceive t net iface frame stack).1
      (ipReceiveItems t net iface frame stack) := by
  have hbytes : Counted net (net.rxBytes iface frame.len) [.ipReceived iface frame.len] :=
    net.rxBytes_counted iface frame.len (.inr rfl)
  unfold ipReceive ipReceiveItems
  dsimp only
  split
  · exact .refl net
  split
  · exact net.rxErrors_counted iface
  split
  · exact net.rxDropped_counted iface
  cases packetStrip frame ipHdrLen with
  | none => exact hbytes
  | some pkt =>
    dsimp only
    cases t.ipStack stack (getIpHeader frame.bytes).protocol with
    | none => exact hbytes
    | some handler =>
      cases handler with
      | udpReceive ctx => exact hbytes.trans (udpReceive_counted _ _ _ _)
      | other fn => exact hbytes.quiet (.of_stats rfl)

theorem routerReceive_counted (net : Net) (router : Router) (iface : IfaceRef) (pkt : Packet) :
    Counted net (routerReceive t net router iface pkt).1
      (routerReceiveItems t net router iface pkt) := by
  unfold routerReceive routerReceiveItems
  dsimp only
  split
  · exact net.rxErrors_counted iface
  split
  · exact ipReceive_counted _ _ _ _
  split
  · exact (icmpSendError_counted _ _ _ _ _ _).quiet (Net.rxDropped_counted _ _)
  cases routeTableLookup router.routeTbl (getIpHeader pkt.bytes).dstIp with
  | none => exact (icmpSendError_counted _ _ _ _ _ _).quiet (Net.rxDropped_counted _ _)
  | some route =>
    dsimp only
    cases route.iface with
    | none => exact .refl net
    | some out =>
      dsimp only
      cases arpCacheLookup (net.arp router.arpCache)
        (if route.nextHop ≠ 0 then route.nextHop else (getIpHeader pkt.bytes).dstIp) with
      | none => exact arpRequestAndQueue_counted _ _ _ _ _
      | some dstMac => exact ethernetSend_counted _ _ _ _ _

theorem switchReceive_counted (net : Net) (sw : SwitchRef) (inPort : IfaceRef) (frame : Packet)
    (ethertype : UInt16) :
    Counted net (switchReceive t net sw inPort frame ethertype)
      (switchReceiveItems t net sw inPort frame ethertype) := by
  have hport : ∀ (net : Net) (outPort : IfaceRef),
      Counted net (switchFloodPort t inPort frame (getMac (frame.header ethHdrLen) 0) ethertype net
          outPort)
        (switchFloodPortItems t inPort frame (getMac (frame.header ethHdrLen) 0) ethertype net
          outPort) := by
    intro net outPort
    unfold switchFloodPort switchFloodPortItems
    split
    · exact (net.alloc_counted).after (ethernetSend_counted _ _ _ _ _)
    · exact .refl net
  unfold switchReceive switchReceiveItems
  dsimp only
  split
  · exact .refl net
  split
  · exact net.rxErrors_counted inPort
  cases macTableLearn (net.macTbl sw) (getMac (frame.header ethHdrLen) 6) inPort net.sched.now with
  | none => exact net.rxDropped_counted inPort
  | some table =>
    have hlearned := net.setMacTbl_counted sw table
    have hdropped := hlearned.quiet (Net.rxDropped_counted _ inPort)
    dsimp only
    split
    · exact hlearned.after (run_outputs (R := Counted) Counted.refl (fun h h' => h.trans h') hport
        _ _)
    cases macTableLookup table (getMac (frame.header ethHdrLen) 0) with
    | none => exact hdropped
    | some egress =>
      dsimp only
      split
      · exact hlearned.after (ethernetSend_counted _ _ _ _ _)
      · exact hdropped

theorem rxHandle_counted (net : Net) (iface : IfaceRef) (pkt : Packet) (ethertype : UInt16)
    (handler : RxHandler) :
    Counted net (rxHandle t net iface pkt ethertype handler)
      (rxHandleItems t net iface pkt ethertype handler) := by
  cases handler with
  | ip stack => exact ipReceive_counted _ _ _ _
  | router router =>
    show Counted net (routerRxShim t net (t.router router) iface pkt ethertype)
      (routerRxShimItems t net (t.router router) iface pkt ethertype)
    unfold routerRxShim routerRxShimItems
    split
    · exact net.rxDropped_counted iface
    · exact routerReceive_counted _ _ _ _
  | switch sw =>
    show Counted net (switchReceive t net sw iface pkt ethertype)
      (switchReceiveItems t net sw iface pkt ethertype)
    exact switchReceive_counted _ _ _ _ _
  | app fn => exact .refl net

theorem ethernetReceive_counted (net : Net) (iface : IfaceRef) (frame : Packet) :
    Counted net (ethernetReceive t net iface frame).1 (ethernetReceiveItems t iface frame) := by
  unfold ethernetReceive ethernetReceiveItems
  dsimp only
  split
  · exact .refl net
  split
  · exact .refl net
  split
  · exact .refl net
  cases packetStrip frame ethHdrLen with
  | none => exact .refl net
  | some pkt => exact net.rxBytes_counted iface pkt.len (.inl rfl)

theorem ethernetReceiveEvent_counted (net : Net) (e : NetEvent) :
    Counted net (ethernetReceiveEvent t net e) (ethernetReceiveEventItems t net e) := by
  unfold ethernetReceiveEvent ethernetReceiveEventItems
  cases e.payload.dstDevice with
  | none => exact .refl net
  | some iface =>
    cases e.payload.packet with
    | none => exact .refl net
    | some frame =>
      have hrecv := ethernetReceive_counted (t := t) net iface frame
      dsimp only
      generalize ethernetReceive t net iface frame = r at hrecv
      obtain ⟨net', result, pkt, ethertype⟩ := r
      dsimp only
      split
      · cases (t.iface iface).rxHandler with
        | none => exact hrecv.trans (.refl net')
        | some handler =>
          have hrecord : Counted net' (net'.record (.rxHandler iface pkt ethertype)) [] :=
            .of_stats rfl
          exact hrecv.trans (hrecord.after (rxHandle_counted _ _ _ _ _))
      · split
        · exact hrecv.trans (net'.rxDropped_counted iface)
        · exact hrecv.trans (net'.rxErrors_counted iface)

theorem arpLearnSender_counted (net : Net) (iface : IfaceRef) (pkt : Packet)
    (timestamp : UInt64) :
    Counted net (arpLearnSender t net iface pkt timestamp)
      (arpLearnSenderItems t net iface pkt timestamp) := by
  -- the two branches are compared before the loop of the flush is looked at
  exact .ofOption fun cache =>
    (net.setArp_counted cache _).after (arpPendingFlush_counted _ _ _ _)

theorem arpRequestHandler_counted (net : Net) (e : NetEvent) :
    Counted net (arpRequestHandler t net e) (arpRequestHandlerItems t net e) := by
  unfold arpRequestHandler arpRequestHandlerItems
  cases e.payload.dstDevice with
  | none => exact .refl net
  | some iface =>
    cases e.payload.packet with
    | none => exact .refl net
    | some pkt =>
      dsimp only
      split
      · exact net.rxErrors_counted iface
      split
      · exact .refl net
      split
      · exact .refl net
      have hboth := (arpSendReply_counted (t := t) net iface pkt).trans
        (arpLearnSender_counted (t := t) _ iface pkt e.timestamp)
      split
      · exact hboth
      · exact hboth.quiet (Net.txErrors_counted _ _)

theorem arpReplyHandler_counted (net : Net) (e : NetEvent) :
    Counted net (arpReplyHandler t net e) (arpReplyHandlerItems t net e) := by
  unfold arpReplyHandler arpReplyHandlerItems
  cases e.payload.dstDevice with
  | none => exact .refl net
  | some iface =>
    cases e.payload.packet with
    | none => exact .refl net
    | some pkt =>
      dsimp only
      split
      · exact net.rxErrors_counted iface
      split
      · exact .refl net
      · exact arpLearnSender_counted _ _ _ _

theorem netCallback_counted (net : Net) (e : NetEvent) (fn : NetCallback) :
    Counted net (netCallback t net e fn) (netCallbackItems t net e fn) := by
  cases fn with
  | ethernetReceiveEvent => exact ethernetReceiveEvent_counted net e
  | arpRequestHandler => exact arpRequestHandler_counted net e
  | arpReplyHandler => exact arpReplyHandler_counted net e
  | macAgeHandler sw => exact .of_stats rfl
  | other fn => exact .refl net

theorem netStep_counted (net : Net) : Counted net (netStep t net) (netStepItems t net) := by
  unfold netStep netStepItems
  cases schedulerStep net.sched with
  | none => exact .refl net
  | some popped =>
    obtain ⟨e, sched⟩ := popped
    have hpop : Counted net { net with sched := sched } [] := .of_stats rfl
    unfold netDispatch
    dsimp only
    cases schedulerDispatch sched e with
    | none => exact hpop
    | some fn => exact hpop.after (netCallback_counted _ e fn)

end

/-! ## Runs -/

/-- What happens in a simulation: a packet is sent, an event is scheduled, or the scheduler
    takes a step. What a protocol handler or the application sends from a callback is a send
    after the step. -/
inductive NetAction where
  | ethernetSend (iface : IfaceRef) (dstMac : Mac) (ethertype : UInt16) (payload : Packet)
  | ipSend (iface : IfaceRef) (dstMac : Mac) (srcIp dstIp : UInt32) (protocol : UInt8)
      (payload : Packet)
  | ipOutput (srcIp dstIp : UInt32) (protocol : UInt8) (payload : Packet)
  | schedule (e : NetEvent)
  | step

/-- The network after an action. -/
def netAct (t : Topology) (net : Net) : NetAction → Net
  | .ethernetSend iface dstMac ethertype payload =>
    (ethernetSend t net iface dstMac ethertype payload).1
  | .ipSend iface dstMac srcIp dstIp protocol payload =>
    (ipSend t net iface dstMac srcIp dstIp protocol payload).1
  | .ipOutput srcIp dstIp protocol payload => (ipOutput t net srcIp dstIp protocol payload).1
  | .schedule e => net.schedule e
  | .step => netStep t net

/-- What is counted in it. -/
def netActItems (t : Topology) (net : Net) : NetAction → List ByteItem
  | .ethernetSend iface dstMac ethertype payload =>
    ethernetSendItems t iface dstMac ethertype payload
  | .ipSend iface dstMac srcIp dstIp protocol payload =>
    ipSendItems t iface dstMac srcIp dstIp protocol payload
  | .ipOutput srcIp dstIp protocol payload => ipOutputItems t net srcIp dstIp protocol payload
  | .schedule _ => []
  | .step => netStepItems t net

theorem netAct_counted (t : Topology) (net : Net) (action : NetAction) :
    Counted net (netAct t net action) (netActItems t net action) := by
  cases action with
  | ethernetSend iface dstMac ethertype payload => exact ethernetSend_counted _ _ _ _ _
  | ipSend iface dstMac srcIp dstIp protocol payload => exact ipSend_counted _ _ _ _ _ _ _
  | ipOutput srcIp dstIp protocol payload => exact ipOutput_counted _ _ _ _ _
  | schedule e => exact .of_stats rfl
  | step => exact netStep_counted net

/-- In every run an interface's `tx_bytes` grows by the length of the frames that
    `ethernet_send` made on it, taken by the link or not, and that of the IPv4 packets handed
    to `ethernet_send` on it; and its `rx_bytes` by that of the frames that
    `ethernet_receive` took, without their header, and of the packets that `ip_receive`
    took. -/
theorem netActions_bytes (t : Topology) (net : Net) (actions : List NetAction) (i : IfaceRef) :
    let items := outputs (netAct t) (netActItems t) net actions
    let net' := run (netAct t) net actions
    (net'.stats i).txBytes = (net.stats i).txBytes +
        (totalBytes (ByteItem.framedOn i) items + totalBytes (ByteItem.ipSentOn i) items) ∧
      (net'.stats i).rxBytes = (net.stats i).rxBytes +
        (totalBytes (ByteItem.receivedOn i) items + totalBytes (ByteItem.ipReceivedOn i) items) := by
  have hcounted : Counted net (run (netAct t) net actions)
      (outputs (netAct t) (netActItems t) net actions) :=
    run_outputs Counted.refl (fun h h' => h.trans h') (netAct_counted t) actions net
  exact ⟨hcounted.tx i, hcounted.rx i⟩

/-- A packet with 3 bytes. -/
def examplePayload : Packet := packetFill (fun _ => 0) [1, 2, 3]

/-- An IPv4 packet of 23 bytes goes out in a frame of 37: 60 bytes are counted. -/
theorem not_netActions_accepted :
    ¬ ∀ (t : Topology) (net : Net) (actions : List NetAction) (i : IfaceRef),
      (∀ j, net.stats j = {}) →
      let items := outputs (netAct t) (netActItems t) net actions
      let net' := run (netAct t) net actions
      (net'.stats i).txBytes = totalBytes (ByteItem.acceptedOn i) items ∧
        (net'.stats i).rxBytes = totalBytes (ByteItem.receivedOn i) items := by
  intro h
  have hclaim := (h exampleUdpHosts exampleUdpNet
    [.ipOutput 0x0A000001 0x0A000002 ipprotoUdp examplePayload] 0 fun _ => rfl).1
  revert hclaim
  decide +kernel

end FrameRunner
