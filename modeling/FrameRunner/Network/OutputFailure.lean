import FrameRunner.Network.Accounting

/-!
# A call of `ip_output` that fails (`protocols/ip.c`, `protocols/ethernet.c`)

`ip_output` prepends its header before it looks for an address, and nothing takes the header
off again when what follows fails.

Main result: `ipOutput_failure`, on the packet, its layer and the byte counters after a call
that stops before the header is prepended, and after one that does not.
-/

namespace FrameRunner

/-! ## The layer of the packet -/

/-- `payload->layer` after `ethernet_send` (`ethernet.c`, line 80). -/
def ethernetSendLayer (t : Topology) (iface : IfaceRef) (dstMac : Mac) (ethertype : UInt16)
    (payload : Packet) (layer : ℤ) : ℤ :=
  if (t.iface iface).errDisabled then layer
  else
    match packetPrepend payload (ethernetHeader dstMac (t.iface iface).mac ethertype) with
    | none => layer
    | some _ => 2

/-- `payload->layer` after `ip_output`; `ip_prepend_header` sets it to 3 (`ip.c`, line 50). -/
def ipOutputLayer (t : Topology) (net : Net) (srcIp dstIp : UInt32) (protocol : UInt8)
    (payload : Packet) (layer : ℤ) : ℤ :=
  match ipFindSourceIface t srcIp with
  | none => layer
  | some iface =>
    if !(t.iface iface).up then layer
    else if ipIsMulticast dstIp then
      match ipMulticastToMac dstIp with
      | none => layer
      | some dstMac =>
        match ipPrependHeader srcIp dstIp protocol payload with
        | none => layer
        | some packet => ethernetSendLayer t iface dstMac ethertypeIpv4 packet 3
    else
      match (t.iface iface).arpCache with
      | none => layer
      | some cache =>
        if !ipSameSubnet (t.iface iface).ipAddr dstIp (t.iface iface).prefixLen then layer
        else
          match ipPrependHeader srcIp dstIp protocol payload with
          | none => layer
          | some packet =>
            match arpCacheLookup (net.arp cache) dstIp with
            | none => 3
            | some dstMac => ethernetSendLayer t iface dstMac ethertypeIpv4 packet 3

/-! ## What a call leaves behind -/

/-- `ip_output` gets as far as prepending the header of a packet that leaves here. -/
structure PrependsOn (t : Topology) (srcIp dstIp : UInt32) (payload : Packet) (iface : IfaceRef) :
    Prop where
  source : ipFindSourceIface t srcIp = some iface
  up : (t.iface iface).up = true
  routed : ipIsMulticast dstIp = true ∨ ∃ cache, (t.iface iface).arpCache = some cache ∧
    ipSameSubnet (t.iface iface).ipAddr dstIp (t.iface iface).prefixLen = true
  room : ipHdrLen ≤ payload.data

/-- The packet, its layer and the byte counters are as they were. -/
structure Untouched (net net' : Net) (payload payload' : Packet) (layer layer' : ℤ) : Prop where
  packet : payload' = payload
  layer : layer' = layer
  tx : ∀ i, (net'.stats i).txBytes = (net.stats i).txBytes
  rx : ∀ i, (net'.stats i).rxBytes = (net.stats i).rxBytes

/-- The packet has the IPv4 header before it, or the Ethernet header too. -/
inductive Headed (srcMac : Mac) (packet : Packet) : Packet → ℤ → Prop where
  | ip : Headed srcMac packet packet 3
  | ethernet {payload' : Packet} (dstMac : Mac)
      (h : packetPrepend packet (ethernetHeader dstMac srcMac ethertypeIpv4) = some payload') :
      Headed srcMac packet payload' 2

/-- No frame is made for the packet: its address is not known and cannot be asked for. -/
structure AsksInVain (t : Topology) (net : Net) (iface : IfaceRef) (dstIp : UInt32) : Prop where
  unicast : ipIsMulticast dstIp = false
  miss : ∀ cache, (t.iface iface).arpCache = some cache →
    arpCacheLookup (net.arp cache) dstIp = none
  unasked : dstIp = 0 ∨ (t.iface iface).errDisabled = true

/-- Only the sent bytes of this interface are counted, and none exactly in this case. -/
structure CountsSent (net net' : Net) (iface : IfaceRef) (none : Prop) : Prop where
  rx : ∀ i, (net'.stats i).rxBytes = (net.stats i).rxBytes
  others : ∀ i, i ≠ iface → (net'.stats i).txBytes = (net.stats i).txBytes
  tx : (net'.stats iface).txBytes = (net.stats iface).txBytes ↔ none

/-! ## The counters -/

/-- Bytes that this interface sends. -/
def ByteItem.SentOn (iface : IfaceRef) : ByteItem → Prop
  | .framed i len _ => i = iface ∧ 0 < len
  | .ipSent i len => i = iface ∧ 0 < len
  | .received _ _ => False
  | .ipReceived _ _ => False

theorem countsSent_of_counted {net net' : Net} {items : List ByteItem} {iface : IfaceRef}
    (h : Counted net net' items) (hsent : ∀ item ∈ items, item.SentOn iface) :
    CountsSent net net' iface (items = []) := by
  have hzero : ∀ bytes : ByteItem → ℕ, (∀ item : ByteItem, item.SentOn iface → bytes item = 0) →
      totalBytes bytes items = 0 := by
    intro bytes hbytes
    rw [totalBytes, List.sum_eq_zero_iff]
    intro n hn
    obtain ⟨item, hitem, rfl⟩ := List.mem_map.mp hn
    exact hbytes item (hsent item hitem)
  constructor
  · intro i
    have hreceived := hzero (ByteItem.receivedOn i) fun item h => by
      cases item <;> first | rfl | exact h.elim
    have hipReceived := hzero (ByteItem.ipReceivedOn i) fun item h => by
      cases item <;> first | rfl | exact h.elim
    rw [h.rx, hreceived, hipReceived, Nat.add_zero]
  · intro i hi
    have hframed := hzero (ByteItem.framedOn i) fun item h => by
      cases item <;> first | rfl | exact if_neg (h.1 ▸ hi.symm)
    have hipSent := hzero (ByteItem.ipSentOn i) fun item h => by
      cases item <;> first | rfl | exact if_neg (h.1 ▸ hi.symm)
    rw [h.tx, hframed, hipSent, Nat.add_zero]
  · rw [h.tx]
    cases items with
    | nil => exact iff_of_true rfl rfl
    | cons item rest =>
      refine iff_of_false (fun hsame => ?_) (List.cons_ne_nil _ _)
      have hpos : 0 < item.framedOn iface + item.ipSentOn iface := by
        have hitem := hsent item List.mem_cons_self
        cases item with
        | framed i len accepted =>
          rw [ByteItem.framedOn, if_pos hitem.1]
          exact Nat.add_pos_left hitem.2 _
        | ipSent i len =>
          rw [ByteItem.ipSentOn, if_pos hitem.1]
          exact Nat.add_pos_right _ hitem.2
        | received => exact hitem.elim
        | ipReceived => exact hitem.elim
      simp only [totalBytes, List.map_cons, List.sum_cons] at hsame
      omega

section
variable {t : Topology} {net : Net} {iface : IfaceRef} {dstMac : Mac} {ethertype : UInt16}
  {srcIp dstIp : UInt32} {protocol : UInt8} {payload packet : Packet} {layer : ℤ}

theorem ethernetSendItems_sentOn : ∀ item ∈ ethernetSendItems t iface dstMac ethertype payload,
    item.SentOn iface := by
  intro item hitem
  unfold ethernetSendItems at hitem
  split at hitem
  · cases hitem
  split at hitem
  · cases hitem
  · rename_i frame hframe
    obtain rfl := List.mem_singleton.mp hitem
    obtain ⟨-, -, hbytes⟩ := packetPrepend_eq_some hframe
    refine ⟨rfl, ?_⟩
    rw [← frame.length_bytes, hbytes, List.length_append]
    exact Nat.add_pos_left (by decide : 0 < ethHdrLen) _

theorem ipPrependHeader_len_pos (h : ipPrependHeader srcIp dstIp protocol payload = some packet) :
    0 < packet.len := by
  obtain ⟨-, -, hbytes⟩ := packetPrepend_eq_some h
  rw [← packet.length_bytes, hbytes, List.length_append, IpHeader.length_bytes]
  exact Nat.add_pos_left (by decide) _

theorem ipSentItems_sentOn (hlen : 0 < packet.len) :
    ∀ item ∈ ipSentItems t iface dstMac packet, item.SentOn iface := by
  intro item hitem
  rcases List.mem_cons.mp hitem with rfl | hitem
  · exact ⟨rfl, hlen⟩
  · exact ethernetSendItems_sentOn item hitem

/-- A request is framed unless it is for 0.0.0.0 or the interface is disabled. -/
theorem arpSendRequestItems_eq_nil_iff : arpSendRequestItems t net iface dstIp = [] ↔
    dstIp = 0 ∨ (t.iface iface).errDisabled = true := by
  unfold arpSendRequestItems ethernetSendItems
  by_cases h0 : dstIp = 0
  · rw [if_pos h0]
    exact iff_of_true rfl (.inl h0)
  · rw [if_neg h0]
    cases herr : (t.iface iface).errDisabled with
    | true => exact iff_of_true (if_pos rfl) (.inr rfl)
    | false =>
      obtain ⟨-, hdata⟩ := arpCreate_eq t net (arpPacket arpOpcodeRequest (t.iface iface).mac
        (t.iface iface).ipAddr ⟨0, 0, 0, 0, 0, 0⟩ dstIp) rfl
      have hroom : (ethernetHeader ethBroadcast (t.iface iface).mac ethertypeArp).length ≤
          pktHeadroom - arpPacketLen := by
        show ethHdrLen ≤ _
        decide
      rw [← hdata] at hroom
      obtain ⟨frame, hframe⟩ := packetPrepend_isSome hroom
      rw [hframe]
      exact iff_of_false (List.cons_ne_nil _ _) (by simp [h0])

/-! ## The calls -/

theorem ethernetSend_headed : Headed (t.iface iface).mac packet
    (ethernetSend t net iface dstMac ethertypeIpv4 packet).2.2
    (ethernetSendLayer t iface dstMac ethertypeIpv4 packet 3) := by
  unfold ethernetSend ethernetSendLayer
  split
  · exact .ip
  · cases hframe : packetPrepend packet
        (ethernetHeader dstMac (t.iface iface).mac ethertypeIpv4) with
    | none => exact .ip
    | some frame => exact .ethernet dstMac hframe

/-- A call that stops before the header is prepended. -/
theorem ipOutput_stopped (h : ∀ iface, ¬ PrependsOn t srcIp dstIp payload iface) :
    let r := ipOutput t net srcIp dstIp protocol payload
    r.2.1 = -1 ∧ Untouched net r.1 payload r.2.2 layer
      (ipOutputLayer t net srcIp dstIp protocol payload layer) := by
  intro r
  have hleft : Untouched net (net.record (.ipOutput srcIp dstIp protocol payload.bytes)) payload
      payload layer layer := ⟨rfl, rfl, fun _ => rfl, fun _ => rfl⟩
  have hnone : ∀ iface, ipFindSourceIface t srcIp = some iface → (t.iface iface).up = true →
      (ipIsMulticast dstIp = true ∨ ∃ cache, (t.iface iface).arpCache = some cache ∧
        ipSameSubnet (t.iface iface).ipAddr dstIp (t.iface iface).prefixLen = true) →
      ∀ packet, ¬ ipPrependHeader srcIp dstIp protocol payload = some packet := by
    intro iface hsource hup hrouted packet hpacket
    obtain ⟨hroom, -⟩ := packetPrepend_eq_some hpacket
    exact h iface ⟨hsource, hup, hrouted, hroom⟩
  show (ipOutput t net srcIp dstIp protocol payload).2.1 = -1 ∧
    Untouched net (ipOutput t net srcIp dstIp protocol payload).1 payload
      (ipOutput t net srcIp dstIp protocol payload).2.2 layer _
  unfold ipOutput ipOutputLayer
  dsimp only
  cases hsource : ipFindSourceIface t srcIp with
  | none => exact ⟨rfl, hleft⟩
  | some iface =>
    dsimp only
    cases hup : (t.iface iface).up with
    | false => exact ⟨rfl, hleft⟩
    | true =>
      cases hmulti : ipIsMulticast dstIp with
      | true =>
        cases ipMulticastToMac dstIp with
        | none => exact ⟨rfl, hleft⟩
        | some dstMac =>
          cases hpacket : ipPrependHeader srcIp dstIp protocol payload with
          | none => exact ⟨rfl, hleft⟩
          | some packet => exact absurd hpacket (hnone iface hsource hup (.inl hmulti) packet)
      | false =>
        cases hcache : (t.iface iface).arpCache with
        | none => exact ⟨rfl, hleft⟩
        | some cache =>
          cases hsubnet : ipSameSubnet (t.iface iface).ipAddr dstIp (t.iface iface).prefixLen with
          | false => exact ⟨rfl, hleft⟩
          | true =>
            cases hpacket : ipPrependHeader srcIp dstIp protocol payload with
            | none => exact ⟨rfl, hleft⟩
            | some packet =>
              exact absurd hpacket (hnone iface hsource hup (.inr ⟨cache, hcache, hsubnet⟩) packet)

/-- A call that does not: the packet goes to `ethernet_send`, or its address is asked for. -/
theorem ipOutput_prepended_cases (h : PrependsOn t srcIp dstIp payload iface)
    (hpacket : ipPrependHeader srcIp dstIp protocol payload = some packet) :
    let r := ipOutput t net srcIp dstIp protocol payload
    let layer' := ipOutputLayer t net srcIp dstIp protocol payload layer
    let items := ipOutputItems t net srcIp dstIp protocol payload
    (∃ dstMac, r = ethernetSend t ((net.record (.ipOutput srcIp dstIp protocol
        payload.bytes)).txBytes iface packet.len) iface dstMac ethertypeIpv4 packet ∧
      layer' = ethernetSendLayer t iface dstMac ethertypeIpv4 packet 3 ∧
      items = ipSentItems t iface dstMac packet ∧ ¬ AsksInVain t net iface dstIp) ∨
    (r.2.2 = packet ∧ layer' = 3 ∧ items = arpSendRequestItems t net iface dstIp ∧
      (AsksInVain t net iface dstIp ↔ dstIp = 0 ∨ (t.iface iface).errDisabled = true)) := by
  intro r layer' items
  cases hmulti : ipIsMulticast dstIp with
  | true =>
    obtain ⟨dstMac, hmac⟩ : ∃ dstMac, ipMulticastToMac dstIp = some dstMac := by
      rw [ipMulticastToMac, hmulti]
      exact ⟨_, rfl⟩
    refine .inl ⟨dstMac, ?_, ?_, ?_, fun hvain => ?_⟩
    · simp only [r, ipOutput, h.source, h.up, hmulti, hmac, hpacket, Bool.not_true,
        Bool.false_eq_true, if_false, if_true]
    · simp only [layer', ipOutputLayer, h.source, h.up, hmulti, hmac, hpacket, Bool.not_true,
        Bool.false_eq_true, if_false, if_true]
    · simp only [items, ipOutputItems, h.source, h.up, hmulti, hmac, hpacket, Bool.not_true,
        Bool.false_eq_true, if_false, if_true]
    · have hunicast := hvain.unicast
      rw [hmulti] at hunicast
      cases hunicast
  | false =>
    obtain ⟨cache, hcache, hsubnet⟩ := h.routed.resolve_left (by rw [hmulti]; decide)
    cases hmac : arpCacheLookup (net.arp cache) dstIp with
    | some dstMac =>
      refine .inl ⟨dstMac, ?_, ?_, ?_, fun hvain => ?_⟩
      · simp only [r, ipOutput, h.source, h.up, hmulti, hcache, hsubnet, hpacket, Net.record_arp,
          hmac, Bool.not_true, Bool.false_eq_true, if_false]
      · simp only [layer', ipOutputLayer, h.source, h.up, hmulti, hcache, hsubnet, hpacket, hmac,
          Bool.not_true, Bool.false_eq_true, if_false]
      · simp only [items, ipOutputItems, h.source, h.up, hmulti, hcache, hsubnet, hpacket, hmac,
          Bool.not_true, Bool.false_eq_true, if_false]
      · have hmiss := hvain.miss cache hcache
        rw [hmac] at hmiss
        cases hmiss
    | none =>
      refine .inr ⟨?_, ?_, ?_, fun hvain => hvain.unasked, fun hunasked => ⟨hmulti, ?_, hunasked⟩⟩
      · simp only [r, ipOutput, h.source, h.up, hmulti, hcache, hsubnet, hpacket, Net.record_arp,
          hmac, Bool.not_true, Bool.false_eq_true, if_false]
      · simp only [layer', ipOutputLayer, h.source, h.up, hmulti, hcache, hsubnet, hpacket, hmac,
          Bool.not_true, Bool.false_eq_true, if_false]
      · simp only [items, ipOutputItems, h.source, h.up, hmulti, hcache, hsubnet, hpacket, hmac,
          Bool.not_true, Bool.false_eq_true, if_false]
      · intro cache' hcache'
        rw [hcache] at hcache'
        cases hcache'
        exact hmac

/-- A call that does not leaves the headers before the packet. -/
theorem ipOutput_prepended (h : PrependsOn t srcIp dstIp payload iface) :
    let r := ipOutput t net srcIp dstIp protocol payload
    ∃ packet, ipPrependHeader srcIp dstIp protocol payload = some packet ∧
      Headed (t.iface iface).mac packet r.2.2
        (ipOutputLayer t net srcIp dstIp protocol payload layer) ∧
      CountsSent net r.1 iface (AsksInVain t net iface dstIp) := by
  intro r
  obtain ⟨packet, hpacket⟩ : ∃ packet, ipPrependHeader srcIp dstIp protocol payload = some packet :=
    packetPrepend_isSome h.room
  have hcounted := @ipOutput_counted t net srcIp dstIp protocol payload
  refine ⟨packet, hpacket, ?_⟩
  obtain ⟨dstMac, hr, hlayer, hitems, hasked⟩ | ⟨hr, hlayer, hitems, hvain⟩ :=
    @ipOutput_prepended_cases t net iface srcIp dstIp protocol payload packet layer h hpacket
  · rw [hitems] at hcounted
    have hcounts := countsSent_of_counted hcounted
      (ipSentItems_sentOn (ipPrependHeader_len_pos hpacket))
    refine ⟨?_, hcounts.rx, hcounts.others, hcounts.tx.trans ?_⟩
    · show Headed _ packet (ipOutput t net srcIp dstIp protocol payload).2.2 _
      rw [hr, hlayer]
      exact ethernetSend_headed
    · exact iff_of_false (List.cons_ne_nil _ _) hasked
  · rw [hitems] at hcounted
    have hcounts := countsSent_of_counted hcounted (by
      intro item hitem
      unfold arpSendRequestItems at hitem
      split at hitem
      · cases hitem
      · exact ethernetSendItems_sentOn item hitem)
    refine ⟨?_, hcounts.rx, hcounts.others, hcounts.tx.trans ?_⟩
    · show Headed _ packet (ipOutput t net srcIp dstIp protocol payload).2.2 _
      rw [hr, hlayer]
      exact .ip
    · rw [arpSendRequestItems_eq_nil_iff, hvain]

end

/-- A call that stops before the header is prepended fails and leaves the packet and the
    counters alone. Every other call leaves the header before the packet, and none of them
    takes it off again when it fails. -/
theorem ipOutput_failure (t : Topology) (net : Net) (srcIp dstIp : UInt32) (protocol : UInt8)
    (payload : Packet) (layer : ℤ) :
    let r := ipOutput t net srcIp dstIp protocol payload
    let layer' := ipOutputLayer t net srcIp dstIp protocol payload layer
    ((∀ iface, ¬ PrependsOn t srcIp dstIp payload iface) →
      r.2.1 = -1 ∧ Untouched net r.1 payload r.2.2 layer layer') ∧
    ∀ iface, PrependsOn t srcIp dstIp payload iface →
      ∃ packet, ipPrependHeader srcIp dstIp protocol payload = some packet ∧
        Headed (t.iface iface).mac packet r.2.2 layer' ∧
        CountsSent net r.1 iface (AsksInVain t net iface dstIp) :=
  ⟨ipOutput_stopped, fun _ => ipOutput_prepended⟩

/-- The two hosts with their link down. -/
def exampleLinkDown : Topology :=
  { exampleUdpHosts with link := fun l => { exampleUdpHosts.link l with up := false } }

/-- A packet for a group fails there with both headers before it, and tried again it fails
    with another IPv4 header. -/
theorem not_ipOutput_untouched :
    let payload := packetFill (fun _ => 0) [1, 2, 3]
    let r := ipOutput exampleLinkDown netInit 0x0A000001 0xE0000009 ipprotoUdp payload
    let again := ipOutput exampleLinkDown r.1 0x0A000001 0xE0000009 ipprotoUdp r.2.2
    (r.2.1 = -1 ∧ payload.data = r.2.2.data + (ipHdrLen + ethHdrLen) ∧
      r.2.2.len = payload.len + (ipHdrLen + ethHdrLen) ∧
      ipOutputLayer exampleLinkDown netInit 0x0A000001 0xE0000009 ipprotoUdp payload 4 = 2 ∧
      (r.1.stats 0).txBytes ≠ (netInit.stats 0).txBytes) ∧
    again.2.1 = -1 ∧ again.2.2.len = payload.len + (2 * ipHdrLen + ethHdrLen) := by
  decide +kernel

end FrameRunner
