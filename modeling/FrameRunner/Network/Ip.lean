import FrameRunner.Common.Checksum
import FrameRunner.Common.Datagram
import FrameRunner.Common.IpUtils
import FrameRunner.Network.Arp

/-!
# IPv4, the sending side (`protocols/ip.c`)

`ip_output` finds the interface that owns the source address, prepends a header
and sends the packet: at once to a multicast group or to a cached address, else
it asks for the address and queues the packet. The header it prepends reads back
as it was built and passes `ip_validate_header`
(`getIpHeader_append`, `ipValidateHeader_sent`).
-/

namespace FrameRunner

def ipHdrLen : ℕ := 20
def ipVersion : UInt8 := 4
def ipDefaultTtl : UInt8 := 64
def ipprotoIcmp : UInt8 := 1
def ipprotoUdp : UInt8 := 17
def ipMulticastBase : UInt32 := 0xE0000000
def ipMulticastMask : UInt32 := 0xF0000000

/-! ## The header -/

/-- `IpHeader`, its fields in host byte order. -/
structure IpHeader where
  versionIhl : UInt8
  dscpEcn : UInt8
  totalLength : UInt16
  identification : UInt16
  flagsFragmentOffset : UInt16
  ttl : UInt8
  protocol : UInt8
  headerChecksum : UInt16
  srcIp : UInt32
  dstIp : UInt32
  deriving DecidableEq, Repr

namespace IpHeader

/-- The header as it lies in a packet. -/
def bytes (h : IpHeader) : List UInt8 :=
  [h.versionIhl, h.dscpEcn] ++ be16 h.totalLength ++ be16 h.identification ++
    be16 h.flagsFragmentOffset ++ [h.ttl, h.protocol] ++ be16 h.headerChecksum ++ be32 h.srcIp ++
    be32 h.dstIp

@[simp] theorem length_bytes (h : IpHeader) : h.bytes.length = ipHdrLen := rfl

end IpHeader

/-- The header at the start of these bytes. -/
def getIpHeader (bytes : List UInt8) : IpHeader where
  versionIhl := getU8 bytes 0
  dscpEcn := getU8 bytes 1
  totalLength := getU16 bytes 2
  identification := getU16 bytes 4
  flagsFragmentOffset := getU16 bytes 6
  ttl := getU8 bytes 8
  protocol := getU8 bytes 9
  headerChecksum := getU16 bytes 10
  srcIp := getU32 bytes 12
  dstIp := getU32 bytes 16

/-- What a protocol handler sees of a packet that `ip_receive` has stripped: the header lies
    before the data. -/
def Packet.datagram (pkt : Packet) : IpDatagram where
  srcIp := (getIpHeader (pkt.header ipHdrLen)).srcIp
  dstIp := (getIpHeader (pkt.header ipHdrLen)).dstIp
  protocol := (getIpHeader (pkt.header ipHdrLen)).protocol
  data := pkt.bytes

/-- `ip_checksum` (lines 319–335); its result is `ns_htons` of this. -/
def ipChecksum (ipHdr : IpHeader) : UInt16 := onesComplement (wordSum ipHdr.bytes)

/-- `ip_validate_header` (lines 337–356); `true` is 0. -/
def ipValidateHeader (pkt : Packet) : Bool :=
  if !packetValidateView pkt 0 ipHdrLen then false
  else
    let ipHdr := getIpHeader pkt.bytes
    if ipHdr.versionIhl >>> 4 ≠ ipVersion then false
    else if ipHdr.versionIhl &&& 0x0F ≠ UInt8.ofNat (ipHdrLen / 4) then false
    else if ipChecksum ipHdr ≠ 0 then false
    else true

/-- The header that `ip_prepend_header` writes before `len` bytes (lines 33–44). -/
def ipSentHeader (srcIp dstIp : UInt32) (protocol : UInt8) (len : ℕ) : IpHeader :=
  let ipHdr : IpHeader := {
    versionIhl := ipVersion <<< 4 ||| UInt8.ofNat (ipHdrLen / 4)
    dscpEcn := 0
    totalLength := UInt16.ofNat (ipHdrLen + len)
    identification := 0
    flagsFragmentOffset := 0
    ttl := ipDefaultTtl
    protocol := protocol
    headerChecksum := 0
    srcIp := srcIp
    dstIp := dstIp }
  { ipHdr with headerChecksum := ipChecksum ipHdr }

/-- `ip_prepend_header` (lines 25–52); `none` is `-1`. -/
def ipPrependHeader (srcIp dstIp : UInt32) (protocol : UInt8) (payload : Packet) : Option Packet :=
  packetPrepend payload (ipSentHeader srcIp dstIp protocol payload.len).bytes

/-! ## Sending -/

/-- `ip_same_subnet` (lines 18–23). -/
def ipSameSubnet (aHost bHost : UInt32) (prefixLen : UInt8) : Bool :=
  let mask := ipv4PrefixMask prefixLen
  aHost &&& mask == bHost &&& mask

/-- `ip_find_source_iface` (lines 54–75). -/
def ipFindSourceIface (t : Topology) (srcIp : UInt32) : Option IfaceRef :=
  t.devices.flatten.find? fun iface => (t.iface iface).ipAddr == srcIp

/-- `ip_is_multicast` (lines 273–275). -/
def ipIsMulticast (ipAddr : UInt32) : Bool := ipAddr &&& ipMulticastMask == ipMulticastBase

/-- `ip_multicast_to_mac` (lines 277–289). -/
def ipMulticastToMac (ipAddr : UInt32) : Option Mac :=
  if !ipIsMulticast ipAddr then none
  else some ⟨0x01, 0x00, 0x5e, (ipAddr >>> 16 &&& 0x7f).toUInt8, (ipAddr >>> 8 &&& 0xff).toUInt8,
    (ipAddr &&& 0xff).toUInt8⟩

/-- `ip_send` (lines 180–202). -/
def ipSend (t : Topology) (net : Net) (iface : IfaceRef) (dstMac : Mac) (srcIp dstIp : UInt32)
    (protocol : UInt8) (payload : Packet) : Net × ℤ × Packet :=
  match ipPrependHeader srcIp dstIp protocol payload with
  | none => (net, -1, payload)
  | some packet => ethernetSend t (net.txBytes iface packet.len) iface dstMac ethertypeIpv4 packet

/-- `ip_output` (lines 204–271): the network, the status, and the payload packet
    as the call leaves it. -/
def ipOutput (t : Topology) (net : Net) (srcIp dstIp : UInt32) (protocol : UInt8)
    (payload : Packet) : Net × ℤ × Packet :=
  let net := net.record (.ipOutput srcIp dstIp protocol payload.bytes)
  match ipFindSourceIface t srcIp with
  | none => (net, -1, payload)
  | some iface =>
    if !(t.iface iface).up then (net, -1, payload)
    else if ipIsMulticast dstIp then
      match ipMulticastToMac dstIp with
      | none => (net, -1, payload)
      | some dstMac =>
        match ipPrependHeader srcIp dstIp protocol payload with
        | none => (net, -1, payload)
        | some packet =>
          ethernetSend t (net.txBytes iface packet.len) iface dstMac ethertypeIpv4 packet
    else
      match (t.iface iface).arpCache with
      | none => (net, -1, payload)
      | some cache =>
        if !ipSameSubnet (t.iface iface).ipAddr dstIp (t.iface iface).prefixLen then
          (net, -1, payload)
        else
          match ipPrependHeader srcIp dstIp protocol payload with
          | none => (net, -1, payload)
          | some packet =>
            match arpCacheLookup (net.arp cache) dstIp with
            | none =>
              let (net, res) := arpRequestAndQueue t net cache iface dstIp packet
              (net, res, packet)
            | some dstMac =>
              ethernetSend t (net.txBytes iface packet.len) iface dstMac ethertypeIpv4 packet

/-! ## Masks -/

/-- The loop of `ip_mask_to_prefix_len` (lines 299–308) over the bits below `bit`. -/
def ipMaskBits (mask : UInt32) : (bit : ℕ) → (prefixLen : UInt8) → (seenZero : Bool) → Option UInt8
  | 0, prefixLen, _ => some prefixLen
  | bit + 1, prefixLen, seenZero =>
    if (mask >>> UInt32.ofNat bit) &&& 1 ≠ 0 then
      if seenZero then none else ipMaskBits mask bit (prefixLen + 1) seenZero
    else ipMaskBits mask bit prefixLen true

/-- `ip_mask_to_prefix_len` (lines 291–312); `none` is `-1`. -/
def ipMaskToPrefixLen (mask : UInt32) : Option UInt8 := ipMaskBits mask 32 0 false

theorem ipMaskBits_le {mask : UInt32} (bit : ℕ) : ∀ {prefixLen l : UInt8} {seenZero : Bool},
    prefixLen.toNat + bit < 256 → ipMaskBits mask bit prefixLen seenZero = some l →
    l.toNat ≤ prefixLen.toNat + bit := by
  induction bit with
  | zero =>
    intro prefixLen l seenZero _ h
    cases h
    exact Nat.le_add_right _ _
  | succ bit ih =>
    intro prefixLen l seenZero hlt h
    have hnext : (prefixLen + 1).toNat = prefixLen.toNat + 1 := by
      rw [UInt8.toNat_add]
      exact Nat.mod_eq_of_lt (by show prefixLen.toNat + 1 < 256; omega)
    unfold ipMaskBits at h
    split_ifs at h
    · have := ih (by omega) h
      omega
    · have := ih (by omega) h
      omega

theorem ipMaskToPrefixLen_le {mask : UInt32} {l : UInt8} (h : ipMaskToPrefixLen mask = some l) :
    l ≤ 32 :=
  ipMaskBits_le 32 (by decide) h

/-- The mask of a length reads as the length. -/
theorem ipMaskToPrefixLen_mask {l : UInt8} (h : l ≤ 32) :
    ipMaskToPrefixLen (ipv4PrefixMask l) = some l := by
  have hall : ∀ n : Fin 33, ipMaskToPrefixLen (ipv4PrefixMask (UInt8.ofNat n)) =
      some (UInt8.ofNat n) := by decide +kernel
  have hl : l.toNat < 33 := Nat.lt_succ_of_le (UInt8.le_iff_toNat_le.mp h)
  have hn := hall ⟨l.toNat, hl⟩
  rw [UInt8.ofNat_toNat] at hn
  exact hn

/-! ## The header reads back -/

theorem getIpHeader_append (h : IpHeader) (rest : List UInt8) :
    getIpHeader (h.bytes ++ rest) = h := by
  obtain ⟨versionIhl, dscpEcn, totalLength, identification, flagsFragmentOffset, ttl, protocol,
    headerChecksum, srcIp, dstIp⟩ := h
  simp only [getIpHeader, IpHeader.mk.injEq]
  refine ⟨getU8_of_drop rfl, getU8_of_drop rfl, getU16_of_drop rfl, getU16_of_drop rfl,
    getU16_of_drop rfl, getU8_of_drop rfl, getU8_of_drop rfl, getU16_of_drop rfl,
    getU32_of_drop rfl, getU32_of_drop rfl⟩

theorem getIpHeader_take (bytes : List UInt8) :
    getIpHeader (bytes.take ipHdrLen) = getIpHeader bytes := by
  have h8 : ∀ {i}, i < ipHdrLen → getU8 (bytes.take ipHdrLen) i = getU8 bytes i := getU8_take bytes
  have h16 : ∀ {i}, i + 2 ≤ ipHdrLen → getU16 (bytes.take ipHdrLen) i = getU16 bytes i :=
    getU16_take bytes
  have h32 : ∀ {i}, i + 4 ≤ ipHdrLen → getU32 (bytes.take ipHdrLen) i = getU32 bytes i :=
    getU32_take bytes
  simp only [getIpHeader, IpHeader.mk.injEq]
  exact ⟨h8 (by decide), h8 (by decide), h16 (by decide), h16 (by decide), h16 (by decide),
    h8 (by decide), h8 (by decide), h16 (by decide), h32 (by decide), h32 (by decide)⟩

/-- The bytes of a header are its fields. -/
theorem bytes_getIpHeader {bytes : List UInt8} (h : ipHdrLen ≤ bytes.length) :
    bytes = (getIpHeader bytes).bytes ++ bytes.drop ipHdrLen := by
  have h : 20 ≤ bytes.length := h
  have h0 : bytes = getU8 bytes 0 :: bytes.drop 1 := drop_eq_getU8 (i := 0) (by omega)
  have h8 : bytes.drop 8 = getU8 bytes 8 :: bytes.drop 9 := drop_eq_getU8 (by omega)
  have h9 : bytes.drop 9 = getU8 bytes 9 :: bytes.drop 10 := drop_eq_getU8 (by omega)
  have h1 : bytes.drop 1 = getU8 bytes 1 :: bytes.drop 2 := drop_eq_getU8 (by omega)
  have h2 : bytes.drop 2 = be16 (getU16 bytes 2) ++ bytes.drop 4 := drop_eq_be16 (by omega)
  have h4 : bytes.drop 4 = be16 (getU16 bytes 4) ++ bytes.drop 6 := drop_eq_be16 (by omega)
  have h6 : bytes.drop 6 = be16 (getU16 bytes 6) ++ bytes.drop 8 := drop_eq_be16 (by omega)
  have h10 : bytes.drop 10 = be16 (getU16 bytes 10) ++ bytes.drop 12 := drop_eq_be16 (by omega)
  have h12 : bytes.drop 12 = be32 (getU32 bytes 12) ++ bytes.drop 16 := drop_eq_be32 (by omega)
  have h16 : bytes.drop 16 = be32 (getU32 bytes 16) ++ bytes.drop 20 := drop_eq_be32 (by omega)
  conv_lhs => rw [h0, h1, h2, h4, h6, h8, h9, h10, h12, h16]
  rfl

/-- A packet that has all its headroom takes the header, and then a frame header. -/
theorem ipPrependHeader_headroom (srcIp dstIp : UInt32) (protocol : UInt8) {payload : Packet}
    (hdata : payload.data = pktHeadroom) :
    ∃ packet, ipPrependHeader srcIp dstIp protocol payload = some packet ∧
      ethHdrLen ≤ packet.data := by
  have hfits : (ipSentHeader srcIp dstIp protocol payload.len).bytes.length ≤ payload.data := by
    rw [hdata, IpHeader.length_bytes]
    decide
  obtain ⟨packet, hprepend⟩ := packetPrepend_isSome hfits
  obtain ⟨-, hpacket, -⟩ := packetPrepend_eq_some hprepend
  refine ⟨packet, hprepend, ?_⟩
  rw [hpacket, hdata, IpHeader.length_bytes]
  decide

/-- What a handler sees of a packet with such a header before it. -/
theorem datagram_of_header {pkt : Packet} {srcIp dstIp : UInt32} {protocol : UInt8} {len : ℕ}
    (h : pkt.header ipHdrLen = (ipSentHeader srcIp dstIp protocol len).bytes) :
    pkt.datagram = ⟨srcIp, dstIp, protocol, pkt.bytes⟩ := by
  have hheader : getIpHeader (pkt.header ipHdrLen) = ipSentHeader srcIp dstIp protocol len := by
    rw [h, ← List.append_nil (ipSentHeader srcIp dstIp protocol len).bytes, getIpHeader_append]
  unfold Packet.datagram
  rw [hheader]
  rfl

/-- The words of a header with its checksum are those without and the checksum. -/
theorem wordSum_setChecksum (h : IpHeader) (c : UInt16) :
    wordSum { h with headerChecksum := c }.bytes =
      wordSum { h with headerChecksum := 0 }.bytes + c.toNat := by
  have split : ∀ x : UInt16, wordSum { h with headerChecksum := x }.bytes =
      wordSum ([h.versionIhl, h.dscpEcn] ++ be16 h.totalLength ++ be16 h.identification ++
        be16 h.flagsFragmentOffset ++ [h.ttl, h.protocol]) + x.toNat +
        wordSum (be32 h.srcIp ++ be32 h.dstIp) := by
    intro x
    simp only [IpHeader.bytes, be16, be32, List.cons_append, List.nil_append, wordSum_cons_cons,
      wordSum_nil, UInt8.toNat_ofNat']
    have := x.toNat_lt
    omega
  rw [split c, split 0, UInt16.toNat_zero]
  omega

/-- A header whose checksum field is computed over the rest has checksum 0. -/
theorem ipChecksum_setChecksum (h : IpHeader) (h0 : h.headerChecksum = 0) :
    ipChecksum { h with headerChecksum := ipChecksum h } = 0 := by
  have hz : { h with headerChecksum := 0 } = h := by rw [← h0]
  rw [ipChecksum, wordSum_setChecksum, hz]
  exact onesComplement_add _

/-- Version 4 and five words of header are one value of the first byte. -/
theorem versionIhl_eq_iff (b : UInt8) :
    (b >>> 4 = ipVersion ∧ b &&& 0x0F = UInt8.ofNat (ipHdrLen / 4)) ↔ b = 0x45 := by
  constructor
  · rintro ⟨hversion, hihl⟩
    have h4 := congrArg UInt8.toNat hversion
    have h5 := congrArg UInt8.toNat hihl
    have hmask : (0x0F : UInt8).toNat = 2 ^ 4 - 1 := rfl
    have hshift : (4 : UInt8).toNat % 8 = 4 := rfl
    have hv : ipVersion.toNat = 4 := rfl
    have hl : (UInt8.ofNat (ipHdrLen / 4)).toNat = 5 := rfl
    rw [UInt8.toNat_shiftRight, hshift, Nat.shiftRight_eq_div_pow, hv] at h4
    rw [UInt8.toNat_and, hmask, Nat.and_two_pow_sub_one_eq_mod, hl] at h5
    apply UInt8.toNat_inj.mp
    show b.toNat = 69
    omega
  · rintro rfl
    decide

theorem ipValidateHeader_iff {pkt : Packet} :
    ipValidateHeader pkt = true ↔
      ipHdrLen ≤ pkt.len ∧ getU8 pkt.bytes 0 = 0x45 ∧ ipChecksum (getIpHeader pkt.bytes) = 0 := by
  have hview : packetValidateView pkt 0 ipHdrLen = true ↔ ipHdrLen ≤ pkt.len := by
    simp [packetValidateView_iff]
  have hfirst : (getIpHeader pkt.bytes).versionIhl = getU8 pkt.bytes 0 := rfl
  rw [← hview, ← versionIhl_eq_iff, ← hfirst]
  unfold ipValidateHeader
  dsimp only
  split_ifs <;> simp_all

/-- What `ip_prepend_header` builds is accepted. -/
theorem ipValidateHeader_sent {pkt : Packet} {srcIp dstIp : UInt32} {protocol : UInt8} {len : ℕ}
    {rest : List UInt8} (hbytes : pkt.bytes = (ipSentHeader srcIp dstIp protocol len).bytes ++ rest) :
    ipValidateHeader pkt = true := by
  have hlen : pkt.len = ipHdrLen + rest.length := by
    rw [← pkt.length_bytes, hbytes, List.length_append, IpHeader.length_bytes]
  rw [ipValidateHeader_iff, hbytes, getIpHeader_append]
  exact ⟨by omega, rfl, ipChecksum_setChecksum _ rfl⟩

/-! ## Sending to a group -/

/-- All that `ip_output` can do with a packet for a group: fail, or put it on the
    wire from the interface that has the source address. -/
theorem ipOutput_multicast_cases (t : Topology) (net : Net) (srcIp : UInt32) {dstIp : UInt32}
    {dstMac : Mac} (protocol : UInt8) (payload : Packet)
    (hmac : ipMulticastToMac dstIp = some dstMac) :
    let r := ipOutput t net srcIp dstIp protocol payload
    (r.2.1 = -1 ∧ r.1.calls = net.calls ++ [.ipOutput srcIp dstIp protocol payload.bytes]) ∨
      (r.2.1 = 1 ∧ ∃ iface dst e, ipFindSourceIface t srcIp = some iface ∧ LinksTo t iface dst ∧
        OnWire iface dst (ethernetHeader dstMac (t.iface iface).mac ethertypeIpv4 ++
          ((ipSentHeader srcIp dstIp protocol payload.len).bytes ++ payload.bytes)) e ∧
        r.1.calls =
          net.calls ++ [.ipOutput srcIp dstIp protocol payload.bytes, .schedule e]) := by
  have hgroup : ipIsMulticast dstIp = true := by
    unfold ipMulticastToMac at hmac
    split at hmac
    · cases hmac
    · rename_i h
      simpa using h
  intro r
  have hr : ipOutput t net srcIp dstIp protocol payload = r := rfl
  clear_value r
  unfold ipOutput at hr
  simp only [hgroup, hmac, if_true] at hr
  split at hr
  · cases hr
    exact .inl ⟨rfl, rfl⟩
  · rename_i iface hfind
    split at hr
    · cases hr
      exact .inl ⟨rfl, rfl⟩
    · split at hr
      · cases hr
        exact .inl ⟨rfl, rfl⟩
      · rename_i packet hprepend
        obtain ⟨-, -, hbytes⟩ := packetPrepend_eq_some hprepend
        rcases ethernetSend_cases t (Net.txBytes
            (net.record (.ipOutput srcIp dstIp protocol payload.bytes)) iface packet.len)
            iface dstMac ethertypeIpv4 packet with ⟨h1, h2, -⟩ | ⟨h1, dst, e, hcan, h3, h4⟩
        · rw [hr] at h1 h2
          exact .inl ⟨h1, h2.calls⟩
        · rw [hr] at h1 h4
          rw [hbytes] at h3
          refine .inr ⟨h1, iface, dst, e, hfind, hcan.links, h3, ?_⟩
          rw [h4.calls]
          simp

/-! ## What sending leaves alone -/

/-- What `ip_output` does after it took the packet. -/
theorem ipOutput_sends (t : Topology) (net : Net) (srcIp dstIp : UInt32) (protocol : UInt8)
    (payload : Packet) :
    Sends NetCall.IsSchedule (net.record (.ipOutput srcIp dstIp protocol payload.bytes))
      (ipOutput t net srcIp dstIp protocol payload).1 := by
  unfold ipOutput
  dsimp only
  generalize net.record (.ipOutput srcIp dstIp protocol payload.bytes) = net
  split
  · exact Sends.refl _ net
  · rename_i iface _
    split
    · exact Sends.refl _ net
    · split
      · split
        · exact Sends.refl _ net
        · split
          · exact Sends.refl _ net
          · exact (net.addStats_sends _ _ _).trans (ethernetSend_sends _ _ _ _ _ _)
      · split
        · exact Sends.refl _ net
        · split
          · exact Sends.refl _ net
          · split
            · exact Sends.refl _ net
            · split
              · exact arpRequestAndQueue_sends _ _ _ _ _ _
              · exact (net.addStats_sends _ _ _).trans (ethernetSend_sends _ _ _ _ _ _)

end FrameRunner
