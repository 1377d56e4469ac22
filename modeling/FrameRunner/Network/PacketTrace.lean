import FrameRunner.Network.Capture
import FrameRunner.Network.Arp
import FrameRunner.Network.Udp
import FrameRunner.Tcp.State

/-!
# The packets that the stack produces

Every packet of the simulator comes from `packet_create` and is changed by the senders and
receivers of the protocols. What these do to a packet is here on the packets of
`Network.PacketMemory`, with identifiers and layer; what they do besides is in the modules of
the protocols, and what they ask of their surroundings (a free port, a connection) is an input.

`packetRun_capturable_iff`: in which runs every packet can be captured in a trace record.
-/

namespace FrameRunner

open FrameRunner.Lib FrameRunner.Lib.Memory

/-! ## Senders -/

/-- What `malloc` gives a packet: whether it does, and what the buffer holds. -/
structure Allocation where
  junk : ℤ → UInt8
  mallocPacket : Bool
  mallocHead : Bool

/-- A packet that a function asks `packet_create` for, and what the function makes of it. -/
structure PacketRequest where
  capacity : UInt64
  fill : RawPacket → RawPacket

/-- The request carried out with the counter `next_id`. -/
def PacketRequest.create (req : PacketRequest) (nextId : UInt32) (alloc : Allocation) :
    Option RawPacket × UInt32 :=
  match RawPacket.create nextId alloc.junk req.capacity alloc.mallocPacket alloc.mallocHead with
  | (none, nextId) => (none, nextId)
  | (some pkt, nextId) => (some (req.fill pkt), nextId)

/-- The bytes of a header as memory. -/
def headerMem (bytes : List UInt8) : ℤ → UInt8 := fun i => bytes.getD i.toNat 0

/-- `packet_create` by itself. -/
def packetCreatePacket (capacity : UInt64) : PacketRequest where
  capacity := capacity
  fill := id

/-- `packet_clone` (`packet.c`, lines 101–119). -/
def packetClonePacket (p : RawPacket) : PacketRequest where
  capacity := p.len
  fill clone :=
    { clone with
      mem := write clone.mem clone.data (read p.mem p.data p.len.toNat)
      len := p.len
      layer := p.layer }.inheritTrace p

theorem packetClonePacket_create (p : RawPacket) (nextId : UInt32) (alloc : Allocation) :
    (packetClonePacket p).create nextId alloc =
      RawPacket.clone nextId alloc.junk p alloc.mallocPacket alloc.mallocHead := rfl

/-- A transport message of `size` bytes, written into the data area of a new packet. -/
def transportPacket (size : UInt64) (message : List UInt8) : PacketRequest where
  capacity := size
  fill pkt := { pkt with mem := write pkt.mem pkt.data message, len := size, layer := 4 }

/-- `udp_send` (`udp.c`, lines 66–89). -/
def udpSendPacket (srcPort dstPort : UInt16) (payload : List UInt8) : Option PacketRequest :=
  if dstPort = 0 then none
  else if payload.length > 65535 - udpHdrLen then none
  else some (transportPacket (UInt64.ofNat (udpHdrLen + payload.length))
    (udpDatagram srcPort dstPort payload))

/-- `icmp_send_error` (`icmp.c`, lines 14–58). -/
def icmpSendErrorPacket (origPkt : RawPacket) (type code : UInt8) (nextHopMtu : UInt16) :
    Option PacketRequest :=
  if origPkt.validateView 20 0 ≠ 0 then none
  else if icmpSuppressed (getIpHeader (origPkt.header 20)) origPkt.visible then none
  else
    let quote := origPkt.header 20 ++ origPkt.visible.take 8
    some (transportPacket (UInt64.ofNat (icmpHdrLen + quote.length))
      (icmpErrorMessage type code nextHopMtu quote))

/-- `icmp_send_echo_request` (`icmp.c`, lines 149–167); the sum of the lengths wraps. -/
def icmpSendEchoRequestPacket (id seq : UInt16) (payload : List UInt8) : PacketRequest :=
  transportPacket (UInt64.ofNat (icmpHdrLen + payload.length)) (icmpEchoMessage id seq payload)

/-- `icmp_send_echo_reply` (`icmp.c`, lines 183–211). -/
def icmpSendEchoReplyPacket (reqPkt : RawPacket) : Option PacketRequest :=
  if reqPkt.validateView 20 8 ≠ 0 then none
  else if getU8 reqPkt.visible 0 ≠ icmpEchoRequest ∨ getU8 reqPkt.visible 1 ≠ 0 then none
  else some (transportPacket reqPkt.len (icmpReplyMessage reqPkt.visible))

/-- `tcp_send_segment` (`tcp.c`, lines 186–218). -/
def tcpSendSegmentPacket (srcPort dstPort : UInt16) (seq ack : UInt32) (flags : UInt8)
    (payload : List UInt8) : Option PacketRequest :=
  if payload.length > tcpMss then none
  else some (transportPacket (UInt64.ofNat (tcpHdrLen + payload.length))
    (tcpSegmentBytes srcPort dstPort seq ack flags payload))

/-- `arp_send_request` and `arp_send_reply` (`arp.c`, lines 135–153 and 190–208): the message
    is prepended to an empty packet. -/
def arpSendPacket (opcode : UInt16) (senderMac : Mac) (senderIp : UInt32) (targetMac : Mac)
    (targetIp : UInt32) : PacketRequest where
  capacity := 28
  fill pkt :=
    (pkt.prepend (headerMem (arpPacket opcode senderMac senderIp targetMac targetIp)) 28).1

/-! ## On the way down and up -/

/-- `ip_prepend_header` (`ip.c`, lines 25–52). -/
def ipPrependHeaderPacket (srcIp dstIp : UInt32) (protocol : UInt8) (p : RawPacket) : RawPacket :=
  let (p, result) :=
    p.prepend (headerMem (ipSentHeader srcIp dstIp protocol p.len.toNat).bytes) 20
  if result = -1 then p else { p with layer := 3 }

/-- `ethernet_send` (`ethernet.c`, lines 45–84) from an interface. -/
def ethernetSendPacket (errDisabled mallocHeader : Bool) (dstMac srcMac : Mac) (ethertype : UInt16)
    (p : RawPacket) : RawPacket :=
  if errDisabled then p
  else if !mallocHeader then p
  else
    let (p, result) := p.prepend (headerMem (ethernetHeader dstMac srcMac ethertype)) 14
    if result = -1 then p else { p with layer := 2 }

/-- `ethernet_receive` (`ethernet.c`, lines 86–122) at an interface with this address. -/
def ethernetReceivePacket (errDisabled : Bool) (mac : Mac) (p : RawPacket) : RawPacket :=
  if p.validateView 0 14 ≠ 0 then p
  else if errDisabled then p
  else
    let dstMac := getMac p.visible 0
    let ethertype := getU16 p.visible 12
    if dstMac ≠ mac ∧ dstMac ≠ ethBroadcast ∧
        !(ethertype == ethertypeIpv4 && macIsIpv4Multicast dstMac) then p
    else
      let (p, result) := p.strip 14
      if result = -1 then p else { p with layer := 3 }

/-- `ip_validate_header` (`ip.c`, lines 337–356). -/
def ipHeaderValid (p : RawPacket) : Bool :=
  if p.validateView 0 20 ≠ 0 then false
  else
    let ipHdr := getIpHeader p.visible
    if ipHdr.versionIhl >>> 4 ≠ ipVersion then false
    else if ipHdr.versionIhl &&& 0x0F ≠ UInt8.ofNat (ipHdrLen / 4) then false
    else if ipChecksum ipHdr ≠ 0 then false
    else true

theorem ipHeaderValid_eq {p : RawPacket} (h : p.Ok) :
    ipHeaderValid p = ipValidateHeader (p.toPacket h) := by
  have hview := RawPacket.toPacket_validateView h 0 20
  change packetValidateView (p.toPacket h) 0 ipHdrLen = true ↔ _ at hview
  unfold ipHeaderValid ipValidateHeader
  rw [RawPacket.toPacket_bytes]
  by_cases hok : p.validateView 0 20 = 0
  · rw [if_neg (not_not.mpr hok), hview.mpr hok]
    simp only [Bool.not_true, Bool.false_eq_true, if_false]
  · have hfalse : packetValidateView (p.toPacket h) 0 ipHdrLen = false :=
      Bool.eq_false_iff.mpr fun h => hok (hview.mp h)
    rw [if_pos hok, hfalse]
    simp only [Bool.not_false, if_true]

/-- `ip_receive` (`ip.c`, lines 135–165), which moves `data` itself. -/
def ipReceivePacket (p : RawPacket) : RawPacket :=
  if p.len < 20 then p
  else if !ipHeaderValid p then p
  else if (getIpHeader p.visible).ttl = 0 then p
  else { p with data := p.data + 20, len := p.len - 20, layer := 4 }

/-- `udp_receive` comes to a socket that is bound to the port (`udp.c`, lines 123–155). -/
def udpDelivers (bound : UInt16 → Bool) (p : RawPacket) : Bool :=
  let udpLen := (getU16 p.visible 4).toNat
  p.validateView 20 8 = 0 && (getIpHeader (p.header 20)).protocol = ipprotoUdp &&
    !(udpLen < udpHdrLen) && !(udpLen > p.len.toNat) && bound (getU16 p.visible 2)

/-- `udp_receive` (`udp.c`, lines 98–177) until the packet is handed to the receive callback. -/
def udpReceivePacket (bound : UInt16 → Bool) (p : RawPacket) : RawPacket :=
  if udpDelivers bound p then
    let (p, result) := p.strip 8
    if result < 0 then p else { p with layer := 5 }
  else p

/-- `tcp_receive` comes to deliver (`tcp.c`, lines 483–518 and 665–687): the segment has data.
    `inSequence` says that it is the next one of an established connection with a receive
    callback, and that it was acknowledged. -/
def tcpDelivers (inSequence : Bool) (p : RawPacket) : Bool :=
  p.validateView 20 20 = 0 && (getIpHeader (p.header 20)).protocol = ipProtoTcp &&
    (tcpFields p.visible).hdrWords = tcpHdrWords && p.len - 20 > 0 && inSequence

/-- `tcp_receive` (`tcp.c`, lines 688–698) until the packet is handed to the receive callback. -/
def tcpReceivePacket (inSequence : Bool) (p : RawPacket) : RawPacket :=
  if tcpDelivers inSequence p then
    let (p, result) := p.strip 20
    if result = -1 then p else { p with layer := 5 }
  else p

/-! ## Runs -/

/-- The packets that there are, and the counter `next_id` of `packet_create`. -/
structure PacketPool where
  packets : List RawPacket
  nextId : UInt32

/-- Before the first `packet_create`. -/
def packetPoolInit : PacketPool where
  packets := []
  nextId := 1

/-- A function that makes a packet; `i` is the packet that it is given. -/
inductive PacketSource where
  | packetCreate (capacity : UInt64)
  | packetClone (i : ℕ)
  | udpSend (srcPort dstPort : UInt16) (payload : List UInt8)
  | icmpSendError (i : ℕ) (type code : UInt8) (nextHopMtu : UInt16)
  | icmpSendEchoRequest (id seq : UInt16) (payload : List UInt8)
  | icmpSendEchoReply (i : ℕ)
  | tcpSendSegment (srcPort dstPort : UInt16) (seq ack : UInt32) (flags : UInt8)
      (payload : List UInt8)
  | arpSend (opcode : UInt16) (senderMac : Mac) (senderIp : UInt32) (targetMac : Mac)
      (targetIp : UInt32)

/-- What the function asks for; `none` if it returns before. -/
def PacketSource.request (packets : List RawPacket) : PacketSource → Option PacketRequest
  | .packetCreate capacity => some (packetCreatePacket capacity)
  | .packetClone i => packets[i]?.map packetClonePacket
  | .udpSend srcPort dstPort payload => udpSendPacket srcPort dstPort payload
  | .icmpSendError i type code nextHopMtu =>
    packets[i]?.bind fun p => icmpSendErrorPacket p type code nextHopMtu
  | .icmpSendEchoRequest id seq payload => some (icmpSendEchoRequestPacket id seq payload)
  | .icmpSendEchoReply i => packets[i]?.bind icmpSendEchoReplyPacket
  | .tcpSendSegment srcPort dstPort seq ack flags payload =>
    tcpSendSegmentPacket srcPort dstPort seq ack flags payload
  | .arpSend opcode senderMac senderIp targetMac targetIp =>
    some (arpSendPacket opcode senderMac senderIp targetMac targetIp)

/-- A function that changes a packet. -/
inductive PacketEdit where
  | packetPrepend (header : ℤ → UInt8) (headerLen : UInt64)
  | packetStrip (headerLen : UInt64)
  | ipPrependHeader (srcIp dstIp : UInt32) (protocol : UInt8)
  | ethernetSend (errDisabled mallocHeader : Bool) (dstMac srcMac : Mac) (ethertype : UInt16)
  | ethernetReceive (errDisabled : Bool) (mac : Mac)
  | ipReceive
  | udpReceive (bound : UInt16 → Bool)
  | tcpReceive (inSequence : Bool)

def PacketEdit.apply (p : RawPacket) : PacketEdit → RawPacket
  | .packetPrepend header headerLen => (p.prepend header headerLen).1
  | .packetStrip headerLen => (p.strip headerLen).1
  | .ipPrependHeader srcIp dstIp protocol => ipPrependHeaderPacket srcIp dstIp protocol p
  | .ethernetSend errDisabled mallocHeader dstMac srcMac ethertype =>
    ethernetSendPacket errDisabled mallocHeader dstMac srcMac ethertype p
  | .ethernetReceive errDisabled mac => ethernetReceivePacket errDisabled mac p
  | .ipReceive => ipReceivePacket p
  | .udpReceive bound => udpReceivePacket bound p
  | .tcpReceive inSequence => tcpReceivePacket inSequence p

/-- The function hands the packet to a receive callback. -/
def PacketEdit.delivers (p : RawPacket) : PacketEdit → Bool
  | .udpReceive bound => udpDelivers bound p
  | .tcpReceive inSequence => tcpDelivers inSequence p
  | _ => false

/-- A call; a packet that a function frees is freed by a call of its own. -/
inductive PacketCall where
  | make (source : PacketSource) (alloc : Allocation)
  | edit (i : ℕ) (e : PacketEdit)
  | free (i : ℕ)

/-- The packets after one more call. -/
def packetCall (pool : PacketPool) : PacketCall → PacketPool
  | .make source alloc =>
    match source.request pool.packets with
    | none => pool
    | some req =>
      let (pkt, nextId) := req.create pool.nextId alloc
      { packets := pool.packets ++ pkt.toList, nextId := nextId }
  | .edit i e =>
    match pool.packets[i]? with
    | none => pool
    | some p => { pool with packets := pool.packets.set i (e.apply p) }
  | .free i => { pool with packets := pool.packets.eraseIdx i }

/-! ## What a call does to a packet -/

/-- A packet within its allocation that a record can take. -/
structure RawPacket.Traceable (p : RawPacket) : Prop where
  ok : p.Ok
  named : p.Named

section Edits

variable {p : RawPacket}

theorem RawPacket.Ok.withLayer (h : p.Ok) (layer : ℤ) : ({ p with layer := layer } : RawPacket).Ok :=
  ⟨h.capacity, h.head, h.tail⟩

theorem RawPacket.Traceable.withLayer (h : p.Traceable) {layer : ℤ}
    (hlayer : 0 ≤ layer ∧ layer ≤ 4) : ({ p with layer := layer } : RawPacket).Traceable :=
  ⟨h.ok.withLayer layer, h.named.id, h.named.traceId, hlayer⟩

theorem RawPacket.Traceable.prepend (h : p.Traceable) (header : ℤ → UInt8) (n : UInt64) :
    (p.prepend header n).1.Traceable := by
  have hok := h.ok.prepend header n
  rcases h.ok.prepend_cases header n with ⟨-, he⟩ | ⟨-, -, he⟩
  · rw [he]
    exact h
  · rw [he] at hok ⊢
    exact ⟨hok, h.named.id, h.named.traceId, h.named.layer⟩

theorem RawPacket.Traceable.strip (h : p.Traceable) (n : UInt64) : (p.strip n).1.Traceable := by
  have hok := h.ok.strip n
  rcases p.strip_cases n with ⟨-, he⟩ | ⟨-, -, he⟩
  · rw [he]
    exact h
  · rw [he] at hok ⊢
    exact ⟨hok, h.named.id, h.named.traceId, h.named.layer⟩

/-- A function that moves `data` and then perhaps names a layer. -/
theorem RawPacket.Traceable.moved {r : RawPacket × ℤ} (h : r.1.Traceable) (fails : Prop)
    [Decidable fails] {layer : ℤ} (hlayer : 0 ≤ layer ∧ layer ≤ 4) :
    (if fails then r.1 else { r.1 with layer := layer }).Traceable := by
  split
  · exact h
  · exact h.withLayer hlayer

theorem ipReceivePacket_traceable (h : p.Traceable) : (ipReceivePacket p).Traceable := by
  unfold ipReceivePacket
  split
  · exact h
  split
  · exact h
  split
  · exact h
  · rename_i hlen _ _
    have hle : (20 : UInt64) ≤ p.len := UInt64.not_lt.mp hlen
    have hsub : (p.len - 20).toNat = p.len.toNat - 20 := UInt64.toNat_sub_of_le _ _ hle
    have hle' : 20 ≤ p.len.toNat := hle
    obtain ⟨hcap, hhead, htail⟩ := h.ok
    refine ⟨⟨hcap, ?_, ?_⟩, h.named.id, h.named.traceId, show (0 : ℤ) ≤ 4 ∧ (4 : ℤ) ≤ 4 by decide⟩
    · show 0 ≤ p.data + 20
      omega
    · show p.data + 20 + ((p.len - 20).toNat : ℤ) ≤ _
      rw [hsub]
      show p.data + 20 + ((p.len.toNat - 20 : ℕ) : ℤ) ≤ RawPacket.headroom.toNat + p.capacity.toNat
      omega

/-- A packet that is not delivered can be captured as before. -/
theorem PacketEdit.apply_traceable (h : p.Traceable) (e : PacketEdit) (hd : e.delivers p = false) :
    (e.apply p).Traceable := by
  cases e with
  | packetPrepend header headerLen => exact h.prepend header headerLen
  | packetStrip headerLen => exact h.strip headerLen
  | ipPrependHeader srcIp dstIp protocol => exact (h.prepend _ 20).moved _ (by decide)
  | ethernetSend errDisabled mallocHeader dstMac srcMac ethertype =>
    show (ethernetSendPacket errDisabled mallocHeader dstMac srcMac ethertype p).Traceable
    unfold ethernetSendPacket
    split
    · exact h
    split
    · exact h
    · exact (h.prepend _ 14).moved _ (by decide)
  | ethernetReceive errDisabled mac =>
    show (ethernetReceivePacket errDisabled mac p).Traceable
    unfold ethernetReceivePacket
    split
    · exact h
    split
    · exact h
    dsimp only
    split
    · exact h
    · exact (h.strip 14).moved _ (by decide)
  | ipReceive => exact ipReceivePacket_traceable h
  | udpReceive bound =>
    show (udpReceivePacket bound p).Traceable
    unfold udpReceivePacket
    rw [show udpDelivers bound p = false from hd]
    exact h
  | tcpReceive inSequence =>
    show (tcpReceivePacket inSequence p).Traceable
    unfold tcpReceivePacket
    rw [show tcpDelivers inSequence p = false from hd]
    exact h

/-- A strip that the view allows, and the layer of the application. -/
theorem RawPacket.Ok.delivered (h : p.Ok) {n : UInt64} (hlen : n.toNat ≤ p.len.toNat) :
    (p.strip n).2 = 0 ∧ ({ (p.strip n).1 with layer := 5 } : RawPacket).Ok := by
  refine ⟨?_, (h.strip n).withLayer 5⟩
  rcases p.strip_cases n with ⟨hshort, -⟩ | ⟨-, -, he⟩
  · exact absurd hlen (Nat.not_le.mpr hshort)
  · rw [he]

/-- A packet that is delivered is of layer 5. -/
theorem PacketEdit.apply_delivers (h : p.Ok) (e : PacketEdit) (hd : e.delivers p = true) :
    (e.apply p).Ok ∧ (e.apply p).layer = 5 := by
  cases e with
  | udpReceive bound =>
    have hdelivers : udpDelivers bound p = true := hd
    have hview : p.validateView 20 8 = 0 := by
      unfold udpDelivers at hdelivers
      simp only [Bool.and_eq_true, decide_eq_true_eq] at hdelivers
      exact hdelivers.1.1.1.1
    obtain ⟨hstrip, hok⟩ := h.delivered (h.validateView_iff.mp hview).2
    show (udpReceivePacket bound p).Ok ∧ (udpReceivePacket bound p).layer = 5
    unfold udpReceivePacket
    rw [if_pos hdelivers]
    dsimp only
    rw [hstrip, if_neg (by decide)]
    exact ⟨hok, rfl⟩
  | tcpReceive inSequence =>
    have hdelivers : tcpDelivers inSequence p = true := hd
    have hview : p.validateView 20 20 = 0 := by
      unfold tcpDelivers at hdelivers
      simp only [Bool.and_eq_true, decide_eq_true_eq] at hdelivers
      exact hdelivers.1.1.1.1
    obtain ⟨hstrip, hok⟩ := h.delivered (h.validateView_iff.mp hview).2
    show (tcpReceivePacket inSequence p).Ok ∧ (tcpReceivePacket inSequence p).layer = 5
    unfold tcpReceivePacket
    rw [if_pos hdelivers]
    dsimp only
    rw [hstrip, if_neg (by decide)]
    exact ⟨hok, rfl⟩
  | _ => cases hd

end Edits

/-! ## What a sender makes of a new packet -/

/-- There is memory for the packet. -/
def PacketRequest.Allocates (req : PacketRequest) (alloc : Allocation) : Prop :=
  RawPacket.headroom.toNat + req.capacity.toNat < 2 ^ 64 ∧ alloc.mallocPacket = true ∧
    alloc.mallocHead = true

/-- A packet as `packet_create` returns it. -/
structure RawPacket.Fresh (p : RawPacket) (capacity : UInt64) (nextId : UInt32) : Prop where
  ok : p.Ok
  data : p.data = 64
  len : p.len = 0
  capacity : p.capacity = capacity
  id : p.id = nextId
  traceId : p.traceId = nextId
  layer : p.layer = 0

/-- A request gives a filled packet, or none and the counter as it was. -/
theorem PacketRequest.create_cases (req : PacketRequest) (nextId : UInt32) (alloc : Allocation) :
    (¬ req.Allocates alloc ∧ req.create nextId alloc = (none, nextId)) ∨
      (req.Allocates alloc ∧ ∃ p : RawPacket, p.Fresh req.capacity nextId ∧
        req.create nextId alloc = (some (req.fill p), nextId + 1)) := by
  unfold PacketRequest.create
  rcases RawPacket.create_cases nextId alloc.junk req.capacity alloc.mallocPacket
      alloc.mallocHead with
    ⟨he, hfail⟩ | ⟨hnext, p, hp, hok, -, hdata, hlen, hcap, hlayer, hid, htrace, -⟩
  · refine .inl ⟨fun ⟨hroom, hpacket, hhead⟩ => ?_, by rw [he]⟩
    exact absurd hroom (Nat.not_lt.mpr (hfail hpacket hhead))
  · have hpair : RawPacket.create nextId alloc.junk req.capacity alloc.mallocPacket
        alloc.mallocHead = (some p, nextId + 1) := Prod.ext hp hnext
    rw [hpair]
    have hmalloc : alloc.mallocPacket = true ∧ alloc.mallocHead = true := by
      unfold RawPacket.create at hp
      split_ifs at hp with hsize hpacket hhead
      exact ⟨by simpa using hpacket, by simpa using hhead⟩
    exact .inr ⟨⟨hcap ▸ hok.capacity, hmalloc⟩, p,
      ⟨hok, hdata, hlen, hcap, hid, htrace, hlayer⟩, rfl⟩

/-- What is made of a new packet keeps within its allocation, has its identifier, belongs to a
    trace and is of a layer that a record knows. -/
def PacketRequest.Sound (req : PacketRequest) : Prop :=
  ∀ (p : RawPacket) (nextId : UInt32), p.Fresh req.capacity nextId →
    (req.fill p).Ok ∧ (req.fill p).id = nextId ∧ (nextId ≠ 0 → (req.fill p).traceId ≠ 0) ∧
      0 ≤ (req.fill p).layer ∧ (req.fill p).layer ≤ 4

theorem transportPacket_sound (size : UInt64) (message : List UInt8) :
    (transportPacket size message).Sound := by
  intro p nextId hp
  refine ⟨⟨hp.ok.capacity, hp.ok.head, ?_⟩, hp.id, fun h => hp.traceId ▸ h,
    show (0 : ℤ) ≤ 4 ∧ (4 : ℤ) ≤ 4 by decide⟩
  show p.data + size.toNat ≤ RawPacket.headroom.toNat + p.capacity.toNat
  rw [hp.data, hp.capacity, RawPacket.toNat_headroom]
  exact le_rfl

/-- The packet that a sender fills is the one of the protocol's own module. -/
theorem toPacket_transportPacket {size : UInt64} {message : List UInt8} {p : RawPacket}
    {nextId : UInt32} (hp : p.Fresh size nextId) (hlen : message.length = size.toNat)
    (hok : ((transportPacket size message).fill p).Ok) :
    ((transportPacket size message).fill p).toPacket hok = packetFill (fun i => p.mem i) message := by
  refine RawPacket.toPacket_eq_packetFill hok ?_ hp.data ?_ hlen.symm
  · show write p.mem p.data message = _
    rw [hp.data]
  · show p.capacity.toNat = _
    rw [hp.capacity, hlen]

theorem packetClonePacket_sound {q : RawPacket} (hq : q.Traceable) :
    (packetClonePacket q).Sound := by
  intro p nextId hp
  refine ⟨⟨hp.ok.capacity, hp.ok.head, ?_⟩, hp.id, fun _ => hq.named.traceId, hq.named.layer⟩
  show p.data + q.len.toNat ≤ RawPacket.headroom.toNat + p.capacity.toNat
  rw [hp.data, hp.capacity, RawPacket.toNat_headroom]
  exact le_rfl

theorem packetCreatePacket_sound (capacity : UInt64) : (packetCreatePacket capacity).Sound := by
  intro p nextId hp
  refine ⟨hp.ok, hp.id, fun h => hp.traceId ▸ h, ?_⟩
  show 0 ≤ p.layer ∧ p.layer ≤ 4
  rw [hp.layer]
  decide

theorem arpSendPacket_sound (opcode : UInt16) (senderMac : Mac) (senderIp : UInt32)
    (targetMac : Mac) (targetIp : UInt32) :
    (arpSendPacket opcode senderMac senderIp targetMac targetIp).Sound := by
  intro p nextId hp
  set header := headerMem (arpPacket opcode senderMac senderIp targetMac targetIp)
  show (p.prepend header 28).1.Ok ∧ (p.prepend header 28).1.id = nextId ∧
    (nextId ≠ 0 → (p.prepend header 28).1.traceId ≠ 0) ∧
      0 ≤ (p.prepend header 28).1.layer ∧ (p.prepend header 28).1.layer ≤ 4
  have hsame : (p.prepend header 28).1.id = p.id ∧ (p.prepend header 28).1.traceId = p.traceId ∧
      (p.prepend header 28).1.layer = p.layer := by
    unfold RawPacket.prepend
    split <;> exact ⟨rfl, rfl, rfl⟩
  rw [hsame.1, hsame.2.1, hsame.2.2, hp.id, hp.traceId, hp.layer]
  exact ⟨hp.ok.prepend header 28, rfl, id, by decide⟩

/-- Every function that makes a packet makes a sound one. -/
theorem PacketSource.request_sound {packets : List RawPacket} (h : ∀ p ∈ packets, p.Traceable)
    (source : PacketSource) {req : PacketRequest} (hreq : source.request packets = some req) :
    req.Sound := by
  cases source with
  | packetCreate capacity =>
    obtain rfl := Option.some.inj hreq
    exact packetCreatePacket_sound capacity
  | packetClone i =>
    obtain ⟨p, hp, rfl⟩ := Option.map_eq_some_iff.mp hreq
    exact packetClonePacket_sound (h p (List.mem_of_getElem? hp))
  | udpSend srcPort dstPort payload =>
    change udpSendPacket srcPort dstPort payload = some req at hreq
    unfold udpSendPacket at hreq
    split_ifs at hreq
    obtain rfl := Option.some.inj hreq
    exact transportPacket_sound _ _
  | icmpSendError i type code nextHopMtu =>
    obtain ⟨p, -, hp⟩ := Option.bind_eq_some_iff.mp hreq
    unfold icmpSendErrorPacket at hp
    split_ifs at hp
    obtain rfl := Option.some.inj hp
    exact transportPacket_sound _ _
  | icmpSendEchoRequest id seq payload =>
    obtain rfl := Option.some.inj hreq
    exact transportPacket_sound _ _
  | icmpSendEchoReply i =>
    obtain ⟨p, -, hp⟩ := Option.bind_eq_some_iff.mp hreq
    unfold icmpSendEchoReplyPacket at hp
    split_ifs at hp
    obtain rfl := Option.some.inj hp
    exact transportPacket_sound _ _
  | tcpSendSegment srcPort dstPort seq ack flags payload =>
    change tcpSendSegmentPacket srcPort dstPort seq ack flags payload = some req at hreq
    unfold tcpSendSegmentPacket at hreq
    split_ifs at hreq
    obtain rfl := Option.some.inj hreq
    exact transportPacket_sound _ _
  | arpSend opcode senderMac senderIp targetMac targetIp =>
    obtain rfl := Option.some.inj hreq
    exact arpSendPacket_sound _ _ _ _ _

/-! ## When all packets can be captured -/

/-- The call makes no packet while `next_id` is 0, and hands none to a receive callback. -/
def KeepsNamed (pool : PacketPool) : PacketCall → Prop
  | .make source alloc => pool.nextId = 0 → ∀ req, source.request pool.packets = some req →
      ¬ req.Allocates alloc
  | .edit i e => ∀ p, pool.packets[i]? = some p → e.delivers p = false
  | .free _ => True

section Calls

variable {pool : PacketPool} (h : ∀ p ∈ pool.packets, p.Traceable)
include h

theorem packetCall_make (source : PacketSource) (alloc : Allocation) :
    (∀ p ∈ (packetCall pool (.make source alloc)).packets, p.Ok) ∧
      ((∀ p ∈ (packetCall pool (.make source alloc)).packets, p.Named) ↔
        KeepsNamed pool (.make source alloc)) := by
  have hok : ∀ p ∈ pool.packets, p.Ok := fun p hp => (h p hp).ok
  have hnamed : ∀ p ∈ pool.packets, p.Named := fun p hp => (h p hp).named
  cases hreq : source.request pool.packets with
  | none =>
    have hcall : packetCall pool (.make source alloc) = pool := by
      simp only [packetCall, hreq]
    rw [hcall]
    exact ⟨hok, iff_of_true hnamed fun _ req hsome => nomatch hreq.symm.trans hsome⟩
  | some req =>
    rcases req.create_cases pool.nextId alloc with ⟨hfail, he⟩ | ⟨halloc, p, hp, he⟩
    · have hcall : packetCall pool (.make source alloc) = pool := by
        simp only [packetCall, hreq, he, Option.toList_none, List.append_nil]
      rw [hcall]
      refine ⟨hok, iff_of_true hnamed fun _ req' hsome => ?_⟩
      rwa [← Option.some.inj (hreq.symm.trans hsome)]
    · have hcall : packetCall pool (.make source alloc) =
          { packets := pool.packets ++ [req.fill p], nextId := pool.nextId + 1 } := by
        simp only [packetCall, hreq, he, Option.toList_some]
      obtain ⟨hok', hid, htrace, hlayer⟩ := source.request_sound h hreq p pool.nextId hp
      rw [hcall]
      simp only [List.forall_mem_append, List.forall_mem_singleton]
      refine ⟨⟨hok, hok'⟩, ?_, ?_⟩
      · rintro ⟨-, hnew⟩ hzero
        exact absurd (hid.trans hzero) hnew.id
      · intro hkeeps
        have hne : pool.nextId ≠ 0 := fun hzero => hkeeps hzero req hreq halloc
        exact ⟨hnamed, by rwa [hid], htrace hne, hlayer⟩

theorem packetCall_edit (i : ℕ) (e : PacketEdit) :
    (∀ p ∈ (packetCall pool (.edit i e)).packets, p.Ok) ∧
      ((∀ p ∈ (packetCall pool (.edit i e)).packets, p.Named) ↔ KeepsNamed pool (.edit i e)) := by
  have hok : ∀ p ∈ pool.packets, p.Ok := fun p hp => (h p hp).ok
  have hnamed : ∀ p ∈ pool.packets, p.Named := fun p hp => (h p hp).named
  cases hi : pool.packets[i]? with
  | none =>
    have hcall : packetCall pool (.edit i e) = pool := by simp only [packetCall, hi]
    rw [hcall]
    exact ⟨hok, iff_of_true hnamed fun _ hsome => nomatch hi.symm.trans hsome⟩
  | some p =>
    have hcall : packetCall pool (.edit i e) =
        { pool with packets := pool.packets.set i (e.apply p) } := by simp only [packetCall, hi]
    have hp : p.Traceable := h p (List.mem_of_getElem? hi)
    have hset : ∀ {P : RawPacket → Prop}, P (e.apply p) → (∀ q ∈ pool.packets, P q) →
        ∀ q ∈ pool.packets.set i (e.apply p), P q := by
      intro P hnew hold q hq
      rcases List.mem_or_eq_of_mem_set hq with hq | rfl
      · exact hold q hq
      · exact hnew
    rw [hcall]
    cases hd : e.delivers p with
    | false =>
      have hnew := e.apply_traceable hp hd
      refine ⟨hset hnew.ok hok, iff_of_true (hset hnew.named hnamed) fun q hq => ?_⟩
      rw [← Option.some.inj (hi.symm.trans hq), hd]
    | true =>
      -- the packet has come to layer 5
      obtain ⟨hok', hfive⟩ := e.apply_delivers hp.ok hd
      have hmem : e.apply p ∈ pool.packets.set i (e.apply p) :=
        List.mem_set (List.getElem?_eq_some_iff.mp hi).1 _
      refine ⟨hset hok' hok, iff_of_false (fun hall => ?_) fun hkeeps => ?_⟩
      · have hlayer := (hall _ hmem).layer.2
        omega
      · have hnone := hkeeps p hi
        rw [hd] at hnone
        cases hnone

/-- After a call every packet keeps within its allocation, and every packet can be captured
    exactly if the call meets the condition. -/
theorem packetCall_named (c : PacketCall) :
    (∀ p ∈ (packetCall pool c).packets, p.Ok) ∧
      ((∀ p ∈ (packetCall pool c).packets, p.Named) ↔ KeepsNamed pool c) := by
  cases c with
  | make source alloc => exact packetCall_make h source alloc
  | edit i e => exact packetCall_edit h i e
  | free i =>
    exact ⟨fun p hp => (h p (List.mem_of_mem_eraseIdx hp)).ok,
      iff_of_true (fun p hp => (h p (List.mem_of_mem_eraseIdx hp)).named) trivial⟩

end Calls

/-- In every state of a run every packet can be captured in a record, exactly if no call makes
    a packet while `next_id` is 0 and none hands a packet to a UDP or TCP receive callback. -/
theorem packetRun_capturable_iff (calls : List PacketCall) :
    Guarded packetCall (fun pool c => ∀ p ∈ (packetCall pool c).packets, Capturable p)
        packetPoolInit calls ↔
      Guarded packetCall KeepsNamed packetPoolInit calls := by
  refine guarded_iff (fun pool => ∀ p ∈ pool.packets, p.Traceable) (fun pool c h => ?_)
    (fun pool c hc h => ?_) calls packetPoolInit fun p hp => absurd hp List.not_mem_nil
  · obtain ⟨hok, hiff⟩ := packetCall_named h c
    rw [← hiff]
    exact forall₂_congr fun p hp => capturable_iff (hok p hp)
  · obtain ⟨hok, hiff⟩ := packetCall_named h c
    exact fun p hp => ⟨hok p hp, hiff.mpr hc p hp⟩

/-- Memory is there. -/
def exampleAlloc : Allocation where
  junk := fun _ => 0
  mallocPacket := true
  mallocHead := true

/-- A UDP datagram from 10.0.0.1 to port 53 of 10.0.0.2: built, sent as a frame, cloned by the
    link, received, and delivered to the socket that is bound to the port. -/
def deliveryExample : List PacketCall :=
  [.make (.udpSend 1000 53 [7]) exampleAlloc,
    .edit 0 (.ipPrependHeader 0x0A000001 0x0A000002 ipprotoUdp),
    .edit 0 (.ethernetSend false true ⟨2, 0, 0, 0, 0, 2⟩ ⟨2, 0, 0, 0, 0, 1⟩ ethertypeIpv4),
    .make (.packetClone 0) exampleAlloc,
    .edit 1 (.ethernetReceive false ⟨2, 0, 0, 0, 0, 2⟩),
    .edit 1 .ipReceive,
    .edit 1 (.udpReceive fun port => port == 53)]

/-- Packets are made one after the other. -/
def creationExample (n : ℕ) : List PacketCall :=
  List.replicate n (.make (.packetCreate 0) exampleAlloc)

theorem run_creationExample_nextId (n : ℕ) :
    (run packetCall packetPoolInit (creationExample n)).nextId = UInt32.ofNat (n + 1) := by
  induction n with
  | zero => rfl
  | succ n ih =>
    unfold creationExample at ih ⊢
    rw [List.replicate_succ', run_append]
    show (run packetCall packetPoolInit _).nextId + 1 = _
    rw [ih]
    exact (UInt32.ofNat_add (n + 1) 1).symm

/-- When the counter comes round, the next packet has no identifier. -/
theorem run_creationExample_unnamed {n : ℕ} (h : UInt32.ofNat (n + 1) = 0) :
    ∃ p ∈ (run packetCall packetPoolInit (creationExample (n + 1))).packets, p.id = 0 := by
  have hzero := (run_creationExample_nextId n).trans h
  unfold creationExample at hzero ⊢
  rw [List.replicate_succ', run_append]
  exact ⟨_, List.mem_append_right _ (List.mem_singleton_self _), hzero⟩

/-- The datagram that is handed to the receive callback cannot be captured, nor can the packet
    made after `2 ^ 32 - 1` others. -/
theorem not_packetRun_capturable :
    (∃ p ∈ (run packetCall packetPoolInit deliveryExample).packets, p.layer = 5 ∧ ¬ Capturable p) ∧
      ∃ p ∈ (run packetCall packetPoolInit (creationExample (2 ^ 32))).packets,
        p.id = 0 ∧ ¬ Capturable p := by
  constructor
  · have hmem : ∃ p, (run packetCall packetPoolInit deliveryExample).packets[1]? = some p ∧
        p.layer = 5 := ⟨_, rfl, by decide +kernel⟩
    obtain ⟨p, hp, hlayer⟩ := hmem
    refine ⟨p, List.mem_of_getElem? hp, hlayer, fun h => ?_⟩
    have hrange := h.named.layer
    omega
  · obtain ⟨p, hp, hid⟩ := run_creationExample_unnamed (n := 2 ^ 32 - 1) (by decide)
    exact ⟨p, hp, hid, fun h => h.named.id hid⟩

end FrameRunner
