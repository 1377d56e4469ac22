import FrameRunner.Network.Delivery

/-!
# What a host makes of a frame (`protocols/ethernet.c`, `protocols/ip.c`, `protocols/udp.c`)

An interface that is bound to an IP stack hands every frame that it takes to `ip_receive`,
which calls the handler that is registered for the protocol of the header.

Main results:

* `hostReceive_handler`: the frames that reach a handler, and what the others change. The
  EtherType and the destination address have no part in it.
* `udpRecv_payload`: what a UDP callback is given. It is the rest of the frame, which is
  what the lengths of the two headers declare when these are the actual lengths.
-/

namespace FrameRunner

/-! ## The layers -/

/-- `entry->handler(iface, frame, entry->ctx)` (`ip.c`, line 173). -/
def protocolHandler (t : Topology) (net : Net) (iface : IfaceRef) (pkt : Packet) :
    IpProtocolHandler → Net × ℤ
  | .udpReceive ctx => udpReceive t net iface pkt (t.udp ctx)
  | .other fn => (net.record (.protocol fn iface pkt), 0)

theorem protocolHandler_sends (t : Topology) (net : Net) (iface : IfaceRef) (pkt : Packet)
    (handler : IpProtocolHandler) :
    Sends NetCall.NotRx net (protocolHandler t net iface pkt handler).1 := by
  cases handler with
  | udpReceive ctx => exact udpReceive_sends _ _ _ _ _
  | other fn => exact net.record_sends trivial

/-- `ethernet_receive` takes the frame, and `packet` is what it leaves of it. -/
structure TakenAs (t : Topology) (iface : IfaceRef) (frame packet : Packet) : Prop where
  enabled : (t.iface iface).errDisabled = false
  accepts : EthAccepts (t.iface iface).mac (getMac frame.bytes 0) (getU16 frame.bytes 12)
  strip : packetStrip frame ethHdrLen = some packet

/-- `ip_receive` hands the packet, stripped of its header, to this handler. -/
structure HandedTo (t : Topology) (stack : StackRef) (packet : Packet)
    (handler : IpProtocolHandler) (pkt : Packet) : Prop where
  valid : ipValidateHeader packet = true
  ttl : (getIpHeader packet.bytes).ttl ≠ 0
  registered : t.ipStack stack (getIpHeader packet.bytes).protocol = some handler
  strip : packetStrip packet ipHdrLen = some pkt

/-- A frame of the interface reaches this handler of the stack. -/
def Reaches (t : Topology) (iface : IfaceRef) (stack : StackRef) (frame : Packet)
    (handler : IpProtocolHandler) (pkt : Packet) : Prop :=
  ∃ packet, TakenAs t iface frame packet ∧ HandedTo t stack packet handler pkt

section
variable {t : Topology} {iface : IfaceRef} {frame packet pkt : Packet} {stack : StackRef}
  {handler : IpProtocolHandler}

theorem ethernetReceive_taken (net : Net) (h : TakenAs t iface frame packet) :
    ethernetReceive t net iface frame =
      (net.rxBytes iface packet.len, 0, packet, getU16 frame.bytes 12) := by
  obtain ⟨hlen, -⟩ := packetStrip_eq_some h.strip
  have hview : packetValidateView frame 0 ethHdrLen = true :=
    packetValidateView_iff.mpr ⟨Nat.zero_le _, hlen⟩
  have hfilter : ¬ (getMac frame.bytes 0 ≠ (t.iface iface).mac ∧
      getMac frame.bytes 0 ≠ ethBroadcast ∧
      (!(getU16 frame.bytes 12 == ethertypeIpv4 && macIsIpv4Multicast (getMac frame.bytes 0))) =
        true) := by
    rintro ⟨h1, h2, h3⟩
    rcases h.accepts with hmac | hmac | hmac
    · exact h1 hmac
    · exact h2 hmac
    · rw [hmac] at h3
      cases h3
  unfold ethernetReceive
  rw [hview, h.enabled]
  simp only [if_neg hfilter, h.strip, Bool.not_true, Bool.false_eq_true, if_false]

theorem ethernetReceive_not_taken (net : Net) (h : ∀ packet, ¬ TakenAs t iface frame packet) :
    (ethernetReceive t net iface frame).1 = net ∧ (ethernetReceive t net iface frame).2.1 ≠ 0 := by
  have herr : (-1 : ℤ) ≠ 0 := by decide
  have hdrop : (1 : ℤ) ≠ 0 := by decide
  unfold ethernetReceive
  dsimp only
  split
  · exact ⟨rfl, herr⟩
  · rename_i hview
    split
    · exact ⟨rfl, herr⟩
    · rename_i henabled
      split
      · exact ⟨rfl, hdrop⟩
      · rename_i hfilter
        split
        · exact ⟨rfl, herr⟩
        · rename_i packet hstrip
          refine absurd ⟨by simpa using henabled, ?_, hstrip⟩ (h packet)
          by_contra hacc
          exact hfilter ⟨fun hmac => hacc (.inl hmac), fun hmac => hacc (.inr (.inl hmac)), by
            rw [Bool.not_eq_true', ← Bool.not_eq_true]
            exact fun hmac => hacc (.inr (.inr hmac))⟩

theorem ipReceive_handed (net : Net) (h : HandedTo t stack packet handler pkt) :
    ipReceive t net iface packet stack =
      protocolHandler t (net.rxBytes iface packet.len) iface pkt handler := by
  obtain ⟨hlen, -⟩ := ipValidateHeader_iff.mp h.valid
  have hshort : ¬ packet.len < ipHdrLen := Nat.not_lt.mpr hlen
  simp only [ipReceive, hshort, h.valid, h.ttl, h.strip, h.registered, Bool.not_true,
    Bool.false_eq_true, if_false]
  cases handler with
  | udpReceive ctx => rfl
  | other fn => rfl

theorem ipReceive_not_handed (net : Net)
    (h : ∀ handler pkt, ¬ HandedTo t stack packet handler pkt) :
    SameButStats net (ipReceive t net iface packet stack).1 := by
  unfold ipReceive
  dsimp only
  split
  · exact ⟨rfl, rfl, rfl, rfl⟩
  · split
    · exact ⟨rfl, rfl, rfl, rfl⟩
    · rename_i hvalid
      split
      · exact ⟨rfl, rfl, rfl, rfl⟩
      · rename_i httl
        split
        · exact ⟨rfl, rfl, rfl, rfl⟩
        · rename_i pkt hstrip
          have hnone : ∀ handler, ¬ t.ipStack stack (getIpHeader packet.bytes).protocol =
              some handler := fun handler hreg =>
            h handler pkt ⟨by simpa using hvalid, httl, hreg, hstrip⟩
          split
          · exact ⟨rfl, rfl, rfl, rfl⟩
          · rename_i hreg
            exact absurd hreg (hnone _)
          · rename_i hreg
            exact absurd hreg (hnone _)

/-! ## Frames -/

variable {e : NetEvent} (hdst : e.payload.dstDevice = some iface)
  (hframe : e.payload.packet = some frame)

include hdst hframe

/-- A frame that the interface takes goes to `ip_receive`. -/
theorem ethernetReceiveEvent_taken (hrx : (t.iface iface).rxHandler = some (.ip stack)) (net : Net)
    (h : TakenAs t iface frame packet) :
    ethernetReceiveEvent t net e = (ipReceive t ((net.rxBytes iface packet.len).record
      (.rxHandler iface packet (getU16 frame.bytes 12))) iface packet stack).1 := by
  simp only [ethernetReceiveEvent, hdst, hframe, ethernetReceive_taken net h, hrx, if_true]
  rfl

theorem ethernetReceiveEvent_not_taken (net : Net) (h : ∀ packet, ¬ TakenAs t iface frame packet) :
    SameButStats net (ethernetReceiveEvent t net e) := by
  obtain ⟨hnet, hstatus⟩ := ethernetReceive_not_taken net h
  generalize hr : ethernetReceive t net iface frame = r at hnet hstatus
  obtain ⟨net', status, frame', ethertype⟩ := r
  cases hnet
  simp only [ethernetReceiveEvent, hdst, hframe, hr, if_neg hstatus]
  split
  · exact ⟨rfl, rfl, rfl, rfl⟩
  · exact ⟨rfl, rfl, rfl, rfl⟩

theorem ethernetReceiveEvent_reaches (hrx : (t.iface iface).rxHandler = some (.ip stack))
    (net : Net) (h : Reaches t iface stack frame handler pkt) : ∃ net₁ packet ethertype,
      SameButStats (net.record (.rxHandler iface packet ethertype)) net₁ ∧
      ethernetReceiveEvent t net e = (protocolHandler t net₁ iface pkt handler).1 := by
  obtain ⟨packet, htaken, hhanded⟩ := h
  refine ⟨_, packet, getU16 frame.bytes 12, ?_,
    (ethernetReceiveEvent_taken hdst hframe hrx net htaken).trans
      (congrArg Prod.fst (ipReceive_handed _ hhanded))⟩
  exact ⟨rfl, rfl, rfl, rfl⟩

theorem ethernetReceiveEvent_not_reaches (hrx : (t.iface iface).rxHandler = some (.ip stack))
    (net : Net) (h : ∀ handler pkt, ¬ Reaches t iface stack frame handler pkt) :
    SameButStats net (ethernetReceiveEvent t net e) ∨ ∃ packet ethertype,
      SameButStats (net.record (.rxHandler iface packet ethertype))
        (ethernetReceiveEvent t net e) := by
  by_cases htaken : ∃ packet, TakenAs t iface frame packet
  · obtain ⟨packet, htaken⟩ := htaken
    have hsame := @ipReceive_not_handed t iface packet stack ((net.rxBytes iface packet.len).record
      (.rxHandler iface packet (getU16 frame.bytes 12)))
      fun handler pkt hhanded => h handler pkt ⟨packet, htaken, hhanded⟩
    rw [ethernetReceiveEvent_taken hdst hframe hrx net htaken]
    exact .inr ⟨packet, getU16 frame.bytes 12, ⟨hsame.sched, hsame.arp, hsame.macTbl, hsame.calls⟩⟩
  · exact .inl (ethernetReceiveEvent_not_taken hdst hframe net fun packet h => htaken ⟨packet, h⟩)

/-- The handler of a protocol is called for the frames that reach it and for no others:
    these change nothing but counters, after the receive handler of the interface has been
    called or not. -/
theorem hostReceive_handler (hrx : (t.iface iface).rxHandler = some (.ip stack)) (net : Net) :
    (∀ handler pkt, Reaches t iface stack frame handler pkt → ∃ net₁ packet ethertype,
      SameButStats (net.record (.rxHandler iface packet ethertype)) net₁ ∧
      ethernetReceiveEvent t net e = (protocolHandler t net₁ iface pkt handler).1) ∧
    ((∀ handler pkt, ¬ Reaches t iface stack frame handler pkt) →
      SameButStats net (ethernetReceiveEvent t net e) ∨ ∃ packet ethertype,
        SameButStats (net.record (.rxHandler iface packet ethertype))
          (ethernetReceiveEvent t net e)) :=
  ⟨fun _ _ => ethernetReceiveEvent_reaches hdst hframe hrx net,
    ethernetReceiveEvent_not_reaches hdst hframe hrx net⟩

end

/-! ## UDP callbacks -/

section
variable {t : Topology} {net : Net} {iface iface' : IfaceRef} {callback : UdpRecvHandler}
  {srcIp : UInt32} {srcPort : UInt16} {payload : Packet}

/-- The callback gets what follows the header, at least as much as the header declares. -/
theorem udpReceive_made {pkt : Packet} {ctx : UdpContext}
    (h : Made net (udpReceive t net iface pkt ctx).1
      (.udpRecv callback iface' srcIp srcPort payload)) :
    packetStrip pkt udpHdrLen = some payload ∧ udpHdrLen ≤ (getU16 pkt.bytes 4).toNat ∧
      (getU16 pkt.bytes 4).toNat ≤ pkt.len := by
  have hcount : ∀ f, ¬ Made net (net.addStats iface f)
      (.udpRecv callback iface' srcIp srcPort payload) := fun f =>
    not_made (net.addStats_calls iface f) _
  unfold udpReceive at h
  dsimp only at h
  split at h
  · exact absurd h (hcount _)
  · split at h
    · exact absurd h (hcount _)
    · split at h
      · exact absurd h (hcount _)
      · rename_i hshort
        split at h
        · exact absurd h (hcount _)
        · rename_i hlong
          split at h
          · split at h
            · exact absurd h (hcount _)
            · rename_i pkt' hstrip
              rw [made_iff (Net.record_calls _ _), List.mem_singleton, NetCall.udpRecv.injEq] at h
              obtain ⟨-, -, -, -, rfl⟩ := h
              exact ⟨hstrip, Nat.le_of_not_lt hshort, Nat.le_of_not_lt hlong⟩
          · split at h
            · exact absurd h fun h => (icmpSendError_sends _ _ _ _ _ _ _).of_made h
            · exact absurd h (hcount _)

/-- `length` of the UDP header, and `total_length` of the IPv4 header, of a frame. -/
def udpLength (frame : Packet) : ℕ := (getU16 frame.bytes (ethHdrLen + ipHdrLen + 4)).toNat

def ipTotalLength (frame : Packet) : ℕ := (getU16 frame.bytes (ethHdrLen + 2)).toNat

/-- The payload is the one that the two headers declare, and the frame is long enough for
    them. -/
structure AsDeclared (frame payload : Packet) : Prop where
  length : payload.len + udpHdrLen = udpLength frame
  bytes : payload.bytes =
    (frame.bytes.drop (ethHdrLen + ipHdrLen + udpHdrLen)).take (udpLength frame - udpHdrLen)
  within : ipHdrLen + udpLength frame ≤ ipTotalLength frame
  whole : ethHdrLen + ipTotalLength frame ≤ frame.len

/-- The handler of a protocol calls a UDP callback only as `udp_receive`. -/
theorem protocolHandler_made {pkt : Packet} {handler : IpProtocolHandler}
    (h : Made net (protocolHandler t net iface pkt handler).1
      (.udpRecv callback iface' srcIp srcPort payload)) :
    packetStrip pkt udpHdrLen = some payload ∧ udpHdrLen ≤ (getU16 pkt.bytes 4).toNat ∧
      (getU16 pkt.bytes 4).toNat ≤ pkt.len := by
  cases handler with
  | udpReceive ctx => exact udpReceive_made h
  | other fn =>
    rw [protocolHandler, made_iff (Net.record_calls _ _), List.mem_singleton] at h
    cases h

section
variable {e : NetEvent} {frame : Packet} {stack : StackRef}
  (hdst : e.payload.dstDevice = some iface) (hframe : e.payload.packet = some frame)
  (hrx : (t.iface iface).rxHandler = some (.ip stack))
  (h : Made net (ethernetReceiveEvent t net e) (.udpRecv callback iface' srcIp srcPort payload))

include hdst hframe hrx h

theorem udpRecv_rest :
    payload.bytes = frame.bytes.drop (ethHdrLen + ipHdrLen + udpHdrLen) ∧
      udpHdrLen ≤ udpLength frame ∧ ethHdrLen + ipHdrLen + udpLength frame ≤ frame.len := by
  by_cases hany : ∃ handler pkt, Reaches t iface stack frame handler pkt
  · obtain ⟨handler, pkt, hpkt⟩ := hany
    obtain ⟨net₁, packet', ethertype, hsame, heq⟩ :=
      ethernetReceiveEvent_reaches hdst hframe hrx net hpkt
    obtain ⟨packet, htaken, hhanded⟩ := hpkt
    have hmade : Made net₁ (protocolHandler t net₁ iface pkt handler).1
        (.udpRecv callback iface' srcIp srcPort payload) := by
      obtain ⟨more, hmore, -⟩ := (protocolHandler_sends t net₁ iface pkt handler).calls
      refine ⟨more, hmore, ?_⟩
      have hcalls := hmore
      rw [hsame.calls, Net.record_calls, List.append_assoc] at hcalls
      rw [heq, made_iff hcalls, List.singleton_append, List.mem_cons] at h
      exact h.resolve_left fun hc => by cases hc
    obtain ⟨hstrip, hshort, hlong⟩ := protocolHandler_made hmade
    obtain ⟨hl1, -, hn1, hb1, -⟩ := packetStrip_eq_some htaken.strip
    obtain ⟨hl2, -, hn2, hb2, -⟩ := packetStrip_eq_some hhanded.strip
    obtain ⟨hl3, -, hn3, hb3, -⟩ := packetStrip_eq_some hstrip
    have hudp : udpLength frame = (getU16 pkt.bytes 4).toNat := by
      rw [hb2, hb1, List.drop_drop, getU16_drop, udpLength]
    refine ⟨?_, by omega, by omega⟩
    rw [hb3, hb2, hb1, List.drop_drop, List.drop_drop, Nat.add_assoc]
  · have hnone : ¬ Made net (ethernetReceiveEvent t net e)
        (.udpRecv callback iface' srcIp srcPort payload) := by
      rcases ethernetReceiveEvent_not_reaches hdst hframe hrx net
          fun handler pkt hpkt => hany ⟨handler, pkt, hpkt⟩ with hsame | ⟨packet, ethertype, hsame⟩
      · exact not_made hsame.calls _
      · rw [made_iff (hsame.calls.trans (Net.record_calls _ _)), List.mem_singleton]
        intro hc
        cases hc
    exact absurd h hnone

/-- A UDP callback that a frame reaches gets all that follows the three headers. It is
    what the headers declare exactly when both declare the actual lengths. -/
theorem udpRecv_payload :
    payload.bytes = frame.bytes.drop (ethHdrLen + ipHdrLen + udpHdrLen) ∧
      udpHdrLen ≤ udpLength frame ∧ ethHdrLen + ipHdrLen + udpLength frame ≤ frame.len ∧
      (AsDeclared frame payload ↔ ethHdrLen + ipTotalLength frame = frame.len ∧
        ethHdrLen + ipHdrLen + udpLength frame = frame.len) := by
  obtain ⟨hbytes, hshort, hlong⟩ := udpRecv_rest hdst hframe hrx h
  have hlen : payload.len = frame.len - (ethHdrLen + ipHdrLen + udpHdrLen) := by
    rw [← payload.length_bytes, hbytes, List.length_drop, frame.length_bytes]
  refine ⟨hbytes, hshort, hlong, ?_⟩
  constructor
  · rintro ⟨hdeclared, -, hwithin, hwhole⟩
    exact ⟨by omega, by omega⟩
  · rintro ⟨htotal, hexact⟩
    refine ⟨by omega, ?_, by omega, by omega⟩
    rw [hbytes, List.take_of_length_le]
    rw [← hbytes, payload.length_bytes]
    omega

end

end

/-! ## Frames that are not what they declare -/

/-- The event by which the second host gets a frame. -/
def exampleFrameEvent (frame : Packet) : NetEvent where
  type := .packetReceive
  timestamp := 1
  payload := { srcDevice := some 0, dstDevice := some 1, packet := some frame }
  handler := some .ethernetReceiveEvent

/-- A datagram with the data 7, 8, 9, and these bytes behind it. -/
def examplePadded (padding : List UInt8) : Packet :=
  packetFill (fun _ => 0) (ethernetHeader ⟨2, 0, 0, 0, 0, 2⟩ ⟨2, 0, 0, 0, 0, 1⟩ ethertypeIpv4 ++
    (ipSentHeader 0x0A000001 0x0A000002 ipprotoUdp (udpHdrLen + 3)).bytes ++
    udpDatagram 4000 4001 [7, 8, 9] ++ padding)

/-- A broadcast that is no IPv4 frame by its EtherType, with a datagram for 10.9.9.9. -/
def exampleStray : Packet :=
  packetFill (fun _ => 0) (ethernetHeader ethBroadcast ⟨2, 0, 0, 0, 0, 9⟩ ethertypeArp ++
    (ipSentHeader 0x0A000009 0x0A090909 ipprotoUdp udpHdrLen).bytes ++ udpDatagram 4000 4001 [])

/-- A UDP callback was called on the second host. -/
def callsBack (net : Net) : Bool :=
  net.calls.any fun
    | .udpRecv _ iface _ _ _ => iface == 1
    | _ => false

theorem exists_of_callsBack {t : Topology} {net : Net} {e : NetEvent} (hnone : net.calls = [])
    (h : callsBack (ethernetReceiveEvent t net e) = true) :
    ∃ callback srcIp srcPort payload, Made net (ethernetReceiveEvent t net e)
      (.udpRecv callback 1 srcIp srcPort payload) := by
  obtain ⟨c, hc, hrecv⟩ := List.any_eq_true.mp h
  have hmade : Made net (ethernetReceiveEvent t net e) c := by
    rw [made_iff (by rw [hnone, List.nil_append])]
    exact hc
  cases c with
  | udpRecv callback iface srcIp srcPort payload =>
    obtain rfl := beq_iff_eq.mp hrecv
    exact ⟨callback, srcIp, srcPort, payload, hmade⟩
  | ipOutput => cases hrecv
  | schedule => cases hrecv
  | rxHandler => cases hrecv
  | protocol => cases hrecv

/-- A datagram with nothing behind it is delivered as it is declared. -/
theorem udpRecv_payload_exact : ∃ callback srcIp srcPort payload,
    Made netInit (ethernetReceiveEvent exampleUdpHosts netInit
      (exampleFrameEvent (examplePadded []))) (.udpRecv callback 1 srcIp srcPort payload) ∧
      payload.bytes = [7, 8, 9] ∧ AsDeclared (examplePadded []) payload := by
  obtain ⟨callback, srcIp, srcPort, payload, h⟩ := @exists_of_callsBack exampleUdpHosts
    netInit (exampleFrameEvent (examplePadded [])) rfl (by decide +kernel)
  have hrx : (exampleUdpHosts.iface 1).rxHandler = some (.ip 1) := rfl
  obtain ⟨hbytes, -, -, hiff⟩ := udpRecv_payload rfl rfl hrx h
  exact ⟨callback, srcIp, srcPort, payload, h, hbytes.trans (by decide +kernel),
    hiff.mpr (by decide +kernel)⟩

/-- With two bytes behind it, these are delivered too. -/
theorem not_udpRecv_asDeclared : ∃ callback srcIp srcPort payload,
    Made netInit (ethernetReceiveEvent exampleUdpHosts netInit
      (exampleFrameEvent (examplePadded [1, 2]))) (.udpRecv callback 1 srcIp srcPort payload) ∧
      payload.bytes = [7, 8, 9, 1, 2] ∧ udpLength (examplePadded [1, 2]) = udpHdrLen + 3 ∧
      ¬ AsDeclared (examplePadded [1, 2]) payload := by
  obtain ⟨callback, srcIp, srcPort, payload, h⟩ := @exists_of_callsBack exampleUdpHosts
    netInit (exampleFrameEvent (examplePadded [1, 2])) rfl (by decide +kernel)
  have hrx : (exampleUdpHosts.iface 1).rxHandler = some (.ip 1) := rfl
  have hbytes : payload.bytes = [7, 8, 9, 1, 2] :=
    (udpRecv_rest rfl rfl hrx h).1.trans (by decide +kernel)
  have hdeclared : udpLength (examplePadded [1, 2]) = udpHdrLen + 3 := by decide +kernel
  refine ⟨callback, srcIp, srcPort, payload, h, hbytes, hdeclared, fun has => ?_⟩
  have hlen := has.length
  rw [← payload.length_bytes, hbytes, hdeclared] at hlen
  exact absurd hlen (by decide)

/-- The datagram without its first headers. -/
def exampleDatagramRest (headerLen : ℕ) : Packet :=
  (packetStrip (examplePadded []) headerLen).getD (packetFill (fun _ => 0) [])

/-- A frame for the second host reaches its UDP. -/
theorem hostReceive_handler_udp : ∃ pkt net₁ packet ethertype,
    SameButStats (netInit.record (.rxHandler 1 packet ethertype)) net₁ ∧
      ethernetReceiveEvent exampleUdpHosts netInit (exampleFrameEvent (examplePadded [])) =
        (protocolHandler exampleUdpHosts net₁ 1 pkt (.udpReceive 1)).1 := by
  have htaken : TakenAs exampleUdpHosts 1 (examplePadded []) (exampleDatagramRest ethHdrLen) :=
    ⟨rfl, .inl (by decide +kernel), rfl⟩
  have hhanded : HandedTo exampleUdpHosts 1 (exampleDatagramRest ethHdrLen) (.udpReceive 1)
      (exampleDatagramRest (ethHdrLen + ipHdrLen)) :=
    ⟨by decide +kernel, by decide +kernel, rfl, rfl⟩
  obtain ⟨hreached, -⟩ := @hostReceive_handler exampleUdpHosts 1 (examplePadded []) 1
    (exampleFrameEvent (examplePadded [])) rfl rfl rfl netInit
  exact ⟨_, hreached _ _ ⟨_, htaken, hhanded⟩⟩

/-- A frame of ARP's EtherType that holds a datagram for another host reaches it as well. -/
theorem not_hostReceive_filters :
    (∃ callback srcIp srcPort payload, Made netInit (ethernetReceiveEvent exampleUdpHosts netInit
      (exampleFrameEvent exampleStray)) (.udpRecv callback 1 srcIp srcPort payload)) ∧
      getU16 exampleStray.bytes 12 = ethertypeArp ∧
      getU32 exampleStray.bytes (ethHdrLen + 16) = 0x0A090909 ∧
      ipIsMulticast 0x0A090909 = false ∧
      ∀ iface ∈ exampleUdpHosts.devices.flatten,
        (exampleUdpHosts.iface iface).ipAddr ≠ 0x0A090909 :=
  ⟨exists_of_callsBack rfl (by decide +kernel), by decide +kernel, by decide +kernel,
    by decide +kernel, by decide +kernel⟩

end FrameRunner
