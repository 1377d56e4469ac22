import FrameRunner.Network.Icmp

/-!
# IPv4 and UDP, the receiving side (`protocols/ip.c`, `protocols/udp.c`)

`ip_receive` strips the header and calls the handler of the protocol;
`udp_receive` strips its own header and calls the handler bound to the port, or
answers that the port is unreachable. A datagram that `udp_send` built and
`ip_output` sent arrives at the bound handler as it was
(`ipReceive_of_udp`).
-/

namespace FrameRunner

open FrameRunner.Lib

def udpHdrLen : ℕ := 8

/-- The bytes of a `UdpHeader`. -/
def udpHeader (srcPort dstPort length checksum : UInt16) : List UInt8 :=
  be16 srcPort ++ be16 dstPort ++ be16 length ++ be16 checksum

/-- The message of `udp_send` (lines 79–89). -/
def udpDatagram (srcPort dstPort : UInt16) (payload : List UInt8) : List UInt8 :=
  udpHeader srcPort dstPort (UInt16.ofNat (udpHdrLen + payload.length)) 0 ++ payload

/-- `udp_send` (lines 59–96). -/
def udpSend (t : Topology) (net : Net) (srcIp dstIp : UInt32) (srcPort dstPort : UInt16)
    (payload : List UInt8) : Net × ℤ :=
  if dstPort = 0 then (net, -1)
  else if payload.length > 65535 - udpHdrLen then (net, -1)
  else
    let pkt := packetFill (t.memory net.allocs) (udpDatagram srcPort dstPort payload)
    let (net, res, _) := ipOutput t net.alloc srcIp dstIp ipprotoUdp pkt
    (net, if res = -1 then -1 else 0)

/-- The socket that `udp_receive` delivers to (lines 153–155). -/
def udpFind (sockets : Slots udpMaxSockets UdpSocket) (dstPort : UInt16) :
    Option (Fin udpMaxSockets) :=
  Fin.find? fun i => (sockets i).valid && (sockets i).port == dstPort

/-- `udp_receive` (lines 98–177) for a context with a state. -/
def udpReceive (t : Topology) (net : Net) (iface : IfaceRef) (pkt : Packet) (ctx : UdpContext) :
    Net × ℤ :=
  if !packetValidateView pkt ipHdrLen udpHdrLen then (net.rxErrors iface, -1)
  else
    let ipHdr := getIpHeader (pkt.header ipHdrLen)
    if ipHdr.protocol ≠ ipprotoUdp then (net.rxErrors iface, -1)
    else
      let srcPort := getU16 pkt.bytes 0
      let dstPort := getU16 pkt.bytes 2
      let udpLen := (getU16 pkt.bytes 4).toNat
      if udpLen < udpHdrLen then (net.rxErrors iface, -1)
      else if udpLen > pkt.len then (net.rxErrors iface, -1)
      else
        match udpFind ctx.sockets dstPort with
        | some i =>
          match packetStrip pkt udpHdrLen with
          | none => (net.rxErrors iface, -1)
          | some pkt =>
            (net.record (.udpRecv (ctx.sockets i).recvHandler iface ipHdr.srcIp srcPort pkt), 0)
        | none =>
          if ctx.sim then icmpSendUnreachPort t net iface pkt else (net.rxDropped iface, -1)

/-- `ip_receive` (`ip.c`, lines 135–177). The status of a handler that is not
    followed is taken to be 0. -/
def ipReceive (t : Topology) (net : Net) (iface : IfaceRef) (frame : Packet) (stack : StackRef) :
    Net × ℤ :=
  if frame.len < ipHdrLen then (net, -1)
  else if !ipValidateHeader frame then (net.rxErrors iface, -1)
  else
    let ipHdr := getIpHeader frame.bytes
    if ipHdr.ttl = 0 then (net.rxDropped iface, -1)
    else
      let net := net.rxBytes iface frame.len
      match packetStrip frame ipHdrLen with
      | none => (net, -1) -- not reached: the header was validated
      | some frame =>
        match t.ipStack stack ipHdr.protocol with
        | none => (net, 0)
        | some (.udpReceive ctx) => udpReceive t net iface frame (t.udp ctx)
        | some (.other fn) => (net.record (.protocol fn iface frame), 0)

/-! ## Sending -/

theorem udpSend_sends (t : Topology) (net : Net) (srcIp dstIp : UInt32) (srcPort dstPort : UInt16)
    (payload : List UInt8) :
    Sends NetCall.IsOutput net (udpSend t net srcIp dstIp srcPort dstPort payload).1 := by
  unfold udpSend
  split
  · exact Sends.refl _ net
  · split
    · exact Sends.refl _ net
    · exact ((net.alloc_sends _).trans (net.alloc.record_sends trivial)).trans
        ((ipOutput_sends _ _ _ _ _ _).mono fun _ => NetCall.IsSchedule.isOutput)

/-- All that `udp_send` can do with a datagram for a group: fail and send nothing,
    or put it on the wire from the interface that has the source address. -/
theorem udpSend_multicast_cases (t : Topology) (net : Net) (srcIp : UInt32) {dstIp : UInt32}
    {dstMac : Mac} (srcPort dstPort : UInt16) (payload : List UInt8)
    (hmac : ipMulticastToMac dstIp = some dstMac) :
    let r := udpSend t net srcIp dstIp srcPort dstPort payload
    (r.2 = -1 ∧ ∀ e, ¬ Made net r.1 (.schedule e)) ∨
      (r.2 = 0 ∧ ∃ iface dst e, ipFindSourceIface t srcIp = some iface ∧ LinksTo t iface dst ∧
        OnWire iface dst (ethernetHeader dstMac (t.iface iface).mac ethertypeIpv4 ++
          ((ipSentHeader srcIp dstIp ipprotoUdp (udpDatagram srcPort dstPort payload).length).bytes ++
            udpDatagram srcPort dstPort payload)) e ∧
        ∀ e', Made net r.1 (.schedule e') ↔ e' = e) := by
  intro r
  have hr : udpSend t net srcIp dstIp srcPort dstPort payload = r := rfl
  clear_value r
  unfold udpSend at hr
  split at hr
  · cases hr
    exact .inl ⟨rfl, fun e => not_made rfl _⟩
  · split at hr
    · cases hr
      exact .inl ⟨rfl, fun e => not_made rfl _⟩
    · rcases ipOutput_multicast_cases t net.alloc srcIp ipprotoUdp
          (packetFill (t.memory net.allocs) (udpDatagram srcPort dstPort payload)) hmac with
        ⟨h1, h2⟩ | ⟨h1, iface, dst, e, h2, hlinks, h3, h4⟩
      · simp only [h1, if_true] at hr
        rw [← hr]
        refine .inl ⟨rfl, fun e => ?_⟩
        rw [made_iff (h2.trans (congrArg (· ++ _) net.alloc_calls))]
        simp
      · have hne : ¬ (1 : ℤ) = -1 := by decide
        simp only [h1, if_neg hne] at hr
        rw [← hr]
        rw [bytes_packetFill] at h3
        refine .inr ⟨rfl, iface, dst, e, h2, hlinks, h3, fun e' => ?_⟩
        rw [made_iff (h4.trans (congrArg (· ++ _) net.alloc_calls))]
        simp

/-! ## What receiving leaves alone -/

theorem udpReceive_sends (t : Topology) (net : Net) (iface : IfaceRef) (pkt : Packet)
    (ctx : UdpContext) : Sends NetCall.NotRx net (udpReceive t net iface pkt ctx).1 := by
  have herr : Sends NetCall.NotRx net (net.rxErrors iface) := net.addStats_sends _ iface _
  have hdrop : Sends NetCall.NotRx net (net.rxDropped iface) := net.addStats_sends _ iface _
  unfold udpReceive
  dsimp only
  split
  · exact herr
  · split
    · exact herr
    · split
      · exact herr
      · split
        · exact herr
        · split
          · split
            · exact herr
            · exact net.record_sends trivial
          · split
            · exact (icmpSendError_sends _ _ _ _ _ _ _).mono fun _ => NetCall.IsOutput.notRx
            · exact hdrop

theorem ipReceive_sends (t : Topology) (net : Net) (iface : IfaceRef) (frame : Packet)
    (stack : StackRef) : Sends NetCall.NotRx net (ipReceive t net iface frame stack).1 := by
  have herr : Sends NetCall.NotRx net (net.rxErrors iface) := net.addStats_sends _ iface _
  have hdrop : Sends NetCall.NotRx net (net.rxDropped iface) := net.addStats_sends _ iface _
  have hbytes : Sends NetCall.NotRx net (net.rxBytes iface frame.len) :=
    net.addStats_sends _ iface _
  unfold ipReceive
  dsimp only
  split
  · exact Sends.refl _ net
  · split
    · exact herr
    · split
      · exact hdrop
      · split
        · exact hbytes
        · split
          · exact hbytes
          · exact hbytes.trans (udpReceive_sends _ _ _ _ _)
          · exact hbytes.trans (Net.record_sends _ trivial)

/-! ## A datagram arrives -/

theorem length_udpDatagram (srcPort dstPort : UInt16) (payload : List UInt8) :
    (udpDatagram srcPort dstPort payload).length = udpHdrLen + payload.length := by
  rw [udpDatagram, List.length_append]
  rfl

/-- `udp_receive` on a datagram of `udp_send` with the header before it: the port decides. -/
theorem udpReceive_of_datagram (t : Topology) (net : Net) (iface : IfaceRef) {pkt : Packet}
    {ctx : UdpContext} {h : IpHeader} {srcPort dstPort : UInt16} {payload : List UInt8}
    (hlen : payload.length ≤ 65535 - udpHdrLen) (hroom : ipHdrLen ≤ pkt.data)
    (hheader : pkt.header ipHdrLen = h.bytes) (hprotocol : h.protocol = ipprotoUdp)
    (hbytes : pkt.bytes = udpDatagram srcPort dstPort payload) :
    ∃ pkt', pkt'.bytes = payload ∧ udpReceive t net iface pkt ctx =
      match udpFind ctx.sockets dstPort with
      | some i => (net.record (.udpRecv (ctx.sockets i).recvHandler iface h.srcIp srcPort pkt'), 0)
      | none => if ctx.sim then icmpSendUnreachPort t net iface pkt else (net.rxDropped iface, -1) := by
  have hpktlen : pkt.len = udpHdrLen + payload.length := by
    rw [← pkt.length_bytes, hbytes, length_udpDatagram]
  have hview : packetValidateView pkt ipHdrLen udpHdrLen = true :=
    packetValidateView_iff.mpr ⟨hroom, by omega⟩
  have hip : getIpHeader (pkt.header ipHdrLen) = h := by
    rw [hheader, ← List.append_nil h.bytes, getIpHeader_append]
  have hsrc : getU16 pkt.bytes 0 = srcPort := by
    rw [hbytes]
    exact getU16_of_drop rfl
  have hdst : getU16 pkt.bytes 2 = dstPort := by
    rw [hbytes]
    exact getU16_of_drop rfl
  have hudp : getU16 pkt.bytes 4 = UInt16.ofNat (udpHdrLen + payload.length) := by
    rw [hbytes]
    exact getU16_of_drop rfl
  have hnat : (UInt16.ofNat (udpHdrLen + payload.length)).toNat = udpHdrLen + payload.length := by
    rw [UInt16.toNat_ofNat', Nat.mod_eq_of_lt]
    unfold udpHdrLen at hlen ⊢
    omega
  have hshort : ¬ udpHdrLen + payload.length < udpHdrLen := by omega
  have hlong : ¬ udpHdrLen + payload.length > pkt.len := by omega
  obtain ⟨pkt', hstrip⟩ := packetStrip_isSome (show udpHdrLen ≤ pkt.len by omega)
  obtain ⟨-, -, -, hrest, -⟩ := packetStrip_eq_some hstrip
  refine ⟨pkt', ?_, ?_⟩
  · rw [hrest, hbytes]
    rfl
  · simp only [udpReceive, hview, hip, hprotocol, hsrc, hdst, hudp, hnat, hstrip, hshort, hlong,
      Bool.not_true, Bool.false_eq_true, if_false, ne_eq, not_true_eq_false]

/-- `ip_receive` on a packet behind a header that it accepts: what follows the header goes to the
    handler that is registered for the protocol. -/
theorem ipReceive_of_header {t : Topology} (net : Net) (iface : IfaceRef) {frame : Packet}
    (stack : StackRef) {h : IpHeader} {data : List UInt8} (hbytes : frame.bytes = h.bytes ++ data)
    (hvalid : ipValidateHeader frame = true) (httl : h.ttl ≠ 0) :
    ∃ pkt : Packet, pkt.bytes = data ∧ ipHdrLen ≤ pkt.data ∧ pkt.header ipHdrLen = h.bytes ∧
      ipReceive t net iface frame stack = match t.ipStack stack h.protocol with
        | none => (net.rxBytes iface frame.len, 0)
        | some (.udpReceive ctx) =>
          udpReceive t (net.rxBytes iface frame.len) iface pkt (t.udp ctx)
        | some (.other fn) => ((net.rxBytes iface frame.len).record (.protocol fn iface pkt), 0) := by
  obtain ⟨hframe, -, -⟩ := ipValidateHeader_iff.mp hvalid
  have hshort : ¬ frame.len < ipHdrLen := by omega
  have hip : getIpHeader frame.bytes = h := by rw [hbytes, getIpHeader_append]
  obtain ⟨pkt, hstrip⟩ := packetStrip_isSome hframe
  obtain ⟨-, hdata, -, hrest, hheader⟩ := packetStrip_eq_some hstrip
  rw [hbytes] at hrest hheader
  refine ⟨pkt, hrest.trans (List.drop_left' h.length_bytes), by omega,
    hheader.trans (List.take_left' h.length_bytes), ?_⟩
  simp only [ipReceive, hshort, hvalid, hip, httl, hstrip, Bool.not_true,
    Bool.false_eq_true, if_false]

/-- So it is behind the header of `ip_output`. -/
theorem ipReceive_of_sent {t : Topology} (net : Net) (iface : IfaceRef) {frame : Packet}
    (stack : StackRef) {srcIp dstIp : UInt32} {protocol : UInt8} {len : ℕ} {data : List UInt8}
    (hbytes : frame.bytes = (ipSentHeader srcIp dstIp protocol len).bytes ++ data) :
    ∃ pkt : Packet, pkt.bytes = data ∧ ipHdrLen ≤ pkt.data ∧
      pkt.header ipHdrLen = (ipSentHeader srcIp dstIp protocol len).bytes ∧
      ipReceive t net iface frame stack = match t.ipStack stack protocol with
        | none => (net.rxBytes iface frame.len, 0)
        | some (.udpReceive ctx) =>
          udpReceive t (net.rxBytes iface frame.len) iface pkt (t.udp ctx)
        | some (.other fn) => ((net.rxBytes iface frame.len).record (.protocol fn iface pkt), 0) :=
  ipReceive_of_header net iface stack hbytes (ipValidateHeader_sent hbytes)
    (show ipDefaultTtl ≠ 0 by decide)

/-- A datagram of `udp_send` behind the header of `ip_output` reaches the handler
    bound to its port with the sender's address, its port and the payload. -/
theorem ipReceive_of_udp {t : Topology} (net : Net) (iface : IfaceRef) {frame : Packet}
    {stack : StackRef} {ctx : UdpRef} {i : Fin udpMaxSockets} {srcIp dstIp : UInt32}
    {srcPort dstPort : UInt16} {payload : List UInt8} (hlen : payload.length ≤ 65535 - udpHdrLen)
    (hbytes : frame.bytes =
      (ipSentHeader srcIp dstIp ipprotoUdp (udpDatagram srcPort dstPort payload).length).bytes ++
        udpDatagram srcPort dstPort payload)
    (hstack : t.ipStack stack ipprotoUdp = some (.udpReceive ctx))
    (hport : udpFind (t.udp ctx).sockets dstPort = some i) :
    ∃ pkt, pkt.bytes = payload ∧
      (ipReceive t net iface frame stack).1 = (net.rxBytes iface frame.len).record
        (.udpRecv ((t.udp ctx).sockets i).recvHandler iface srcIp srcPort pkt) := by
  obtain ⟨pkt, hrest, hroom, hheader, hip⟩ := ipReceive_of_sent net iface stack hbytes
  obtain ⟨pkt', hpayload, hrecv⟩ := udpReceive_of_datagram t (net.rxBytes iface frame.len) iface
    hlen hroom hheader rfl hrest
  rw [hport] at hrecv
  refine ⟨pkt', hpayload, ?_⟩
  rw [hip, hstack]
  exact congrArg Prod.fst hrecv

end FrameRunner
