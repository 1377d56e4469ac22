import FrameRunner.Network.Delivery

/-!
# The header of `ip_prepend_header` (`protocols/ip.c`)

The header that is put before a payload passes `ip_validate_header` and gives back the
addresses and the protocol. Its `total_length` is a `uint16_t` that is filled from a
`size_t`, and no sender asks whether the packet exceeds `IP_MAX_PACKET_SIZE`.

Main result: `ipPrependHeader_totalLength_iff`, which packets have the length that their
header declares.
-/

namespace FrameRunner

/-- `IP_MAX_PACKET_SIZE`. -/
def ipMaxPacketSize : ℕ := 65535

/-- The packet starts with a valid header with these addresses and this protocol. -/
structure HeaderReads (packet : Packet) (srcIp dstIp : UInt32) (protocol : UInt8) : Prop where
  valid : ipValidateHeader packet = true
  srcIp : (getIpHeader packet.bytes).srcIp = srcIp
  dstIp : (getIpHeader packet.bytes).dstIp = dstIp
  protocol : (getIpHeader packet.bytes).protocol = protocol

/-- The packet is as long as its header declares. -/
def LengthDeclared (packet : Packet) : Prop :=
  (getIpHeader packet.bytes).totalLength.toNat = packet.len

/-- The packet of `ip_prepend_header`: its header always reads back, and declares the
    length of the packet unless this exceeds the maximum. -/
theorem ipPrependHeader_totalLength_iff (srcIp dstIp : UInt32) (protocol : UInt8)
    {payload : Packet} (hroom : ipHdrLen ≤ payload.data) :
    ∃ packet, ipPrependHeader srcIp dstIp protocol payload = some packet ∧
      HeaderReads packet srcIp dstIp protocol ∧
      (LengthDeclared packet ↔ ipHdrLen + payload.len ≤ ipMaxPacketSize) := by
  obtain ⟨packet, hprepend⟩ := @packetPrepend_isSome payload
    (ipSentHeader srcIp dstIp protocol payload.len).bytes hroom
  obtain ⟨-, -, hbytes⟩ := packetPrepend_eq_some hprepend
  have hheader : getIpHeader packet.bytes = ipSentHeader srcIp dstIp protocol payload.len := by
    rw [hbytes, getIpHeader_append]
  have hlen : packet.len = ipHdrLen + payload.len := by
    rw [← packet.length_bytes, hbytes, List.length_append, IpHeader.length_bytes,
      payload.length_bytes]
  have htotal :
      (getIpHeader packet.bytes).totalLength.toNat = (ipHdrLen + payload.len) % 65536 := by
    rw [hheader]
    exact UInt16.toNat_ofNat'
  refine ⟨packet, hprepend, ⟨ipValidateHeader_sent hbytes, ?_, ?_, ?_⟩, ?_⟩
  · rw [hheader]
    rfl
  · rw [hheader]
    rfl
  · rw [hheader]
    rfl
  · have hmax : ipMaxPacketSize = 65535 := rfl
    rw [LengthDeclared, htotal, hlen, hmax]
    constructor
    · intro h
      omega
    · intro h
      omega

/-- A UDP datagram of three bytes, in a packet with room for the header. -/
theorem ipPrependHeader_totalLength_iff_udpDatagram :
    let payload := packetFill (fun _ => 0) (udpDatagram 4000 4001 [7, 8, 9])
    ∃ packet, ipPrependHeader 0x0A000001 0x0A000002 ipprotoUdp payload = some packet ∧
      HeaderReads packet 0x0A000001 0x0A000002 ipprotoUdp ∧ LengthDeclared packet := by
  intro payload
  have hroom : ipHdrLen ≤ payload.data := (by decide : 20 ≤ 64)
  have hlen : payload.len = 11 := len_packetFill _ _
  obtain ⟨packet, hprepend, hreads, hlength⟩ :=
    ipPrependHeader_totalLength_iff 0x0A000001 0x0A000002 ipprotoUdp hroom
  refine ⟨packet, hprepend, hreads, hlength.mpr ?_⟩
  rw [hlen]
  decide

/-- A datagram of 65516 bytes, of the size that `udp_send` makes for 65508 bytes, is sent
    although its header declares another length. -/
theorem not_ipOutput_totalLength :
    let payload := packetFill (fun _ => 0) (List.replicate 65516 0)
    (ipOutput exampleUdpHosts exampleUdpNet 0x0A000001 0x0A000002 ipprotoUdp payload).2.1 = 1 ∧
      ∃ packet, ipPrependHeader 0x0A000001 0x0A000002 ipprotoUdp payload = some packet ∧
        ¬ LengthDeclared packet := by
  intro payload
  have hroom : ipHdrLen + ethHdrLen ≤ payload.data := (by decide : 20 + 14 ≤ 64)
  have hlen : payload.len = 65516 := (len_packetFill _ _).trans List.length_replicate
  have ha : (exampleUdpHosts.iface 0).ipAddr = 0x0A000001 := by decide +kernel
  have hb : (exampleUdpHosts.iface 1).ipAddr = 0x0A000002 := by decide +kernel
  obtain ⟨hsent, -⟩ := hostsLinked_exampleUdpHosts.ipOutput ipprotoUdp hroom
  rw [ha, hb] at hsent
  obtain ⟨packet, hprepend, -, hlength⟩ := ipPrependHeader_totalLength_iff 0x0A000001 0x0A000002
    ipprotoUdp ((Nat.le_add_right _ _).trans hroom)
  refine ⟨hsent, packet, hprepend, fun h => ?_⟩
  have hmax := hlength.mp h
  rw [hlen] at hmax
  exact absurd hmax (by decide)

end FrameRunner
