import FrameRunner.Network.Router

/-!
# Checksums of the ICMP messages (`protocols/icmp.c`)

The three senders leave the checksum field 0, add up the whole message and store the
complement. The sum is a `uint32_t` over a length that nothing bounds; `onesComplement_add`
says why a sum that wrapped around is no obstacle.

Main result: `icmpSend_checksum`, for every message that they hand to `ip_output`.
-/

namespace FrameRunner

/-- A call of one of the senders; the senders of errors are all `icmp_send_error`. -/
inductive IcmpSend where
  | echoRequest (srcIp dstIp : UInt32) (id seq : UInt16) (payload : List UInt8)
  | echoReply (iface : IfaceRef) (reqPkt : Packet)
  | error (iface : IfaceRef) (origPkt : Packet) (type code : UInt8) (nextHopMtu : UInt16)

/-- The call, made. -/
def icmpSend (t : Topology) (net : Net) : IcmpSend → Net × ℤ
  | .echoRequest srcIp dstIp id seq payload =>
    icmpSendEchoRequest t net srcIp dstIp id seq payload
  | .echoReply iface reqPkt => icmpSendEchoReply t net iface reqPkt
  | .error iface origPkt type code nextHopMtu =>
    icmpSendError t net iface origPkt type code nextHopMtu

/-- `icmp_receive` on a message that passed its tests (lines 95–131). -/
def icmpHandle (t : Topology) (net : Net) (iface : IfaceRef) (pkt : Packet) : Net × ℤ :=
  let type := getU8 pkt.bytes 0
  let code := getU8 pkt.bytes 1
  if type = icmpEchoRequest ∧ code = 0 then icmpSendEchoReply t net iface pkt
  else if icmpConsumed type code then (net, 0)
  else (net.rxDropped iface, -1)

/-- A message that its checksum test lets pass. -/
structure IcmpPasses (message : List UInt8) : Prop where
  length : icmpHdrLen ≤ message.length
  checksum : icmpChecksum message = 0

theorem IcmpPasses.icmpReceive {t : Topology} {net : Net} {iface : IfaceRef} {pkt : Packet}
    (h : IcmpPasses pkt.bytes) (hroom : ipHdrLen ≤ pkt.data) :
    icmpReceive t net iface pkt = icmpHandle t net iface pkt := by
  have hlen : icmpHdrLen ≤ pkt.len := by
    rw [← pkt.length_bytes]
    exact h.length
  have hview : packetValidateView pkt ipHdrLen icmpHdrLen = true :=
    packetValidateView_iff.mpr ⟨hroom, hlen⟩
  have hsum : ¬ icmpChecksum pkt.bytes ≠ 0 := not_not_intro h.checksum
  rw [FrameRunner.icmpReceive, hview, Bool.not_true, if_neg Bool.false_ne_true, if_neg hsum]
  rfl

/-! ## The messages -/

/-- A checksum stored over the zero bytes that it was computed with. -/
theorem icmpChecksum_stored {pre : List UInt8} (hpre : 2 ∣ pre.length) (rest : List UInt8) :
    icmpChecksum (pre ++ (be16 (icmpChecksum (pre ++ (be16 0 ++ rest))) ++ rest)) = 0 := by
  have hsum : ∀ x, icmpChecksum (pre ++ (be16 x ++ rest)) =
      onesComplement (wordSum pre + wordSum rest + x.toNat) := by
    intro x
    have hempty : (pre ++ (be16 x ++ rest)).isEmpty = false := by
      rw [← Bool.not_eq_true, List.isEmpty_iff_length_eq_zero]
      simp only [List.length_append, length_be16]
      omega
    have hadd : wordSum (pre ++ (be16 x ++ rest)) = wordSum pre + wordSum rest + x.toNat := by
      rw [wordSum_append hpre, wordSum_be16_append]
      omega
    rw [icmpChecksum, hempty, hadd]
    rfl
  rw [hsum, hsum 0, UInt16.toNat_zero, Nat.add_zero]
  exact onesComplement_add _

/-- The message behind a header. -/
theorem icmpPasses_header (type code : UInt8) (id seq : UInt16) (data : List UInt8) :
    IcmpPasses
      (icmpHeader type code (icmpChecksum (icmpHeader type code 0 id seq ++ data)) id seq ++
        data) := by
  have hsplit : ∀ c, icmpHeader type code c id seq ++ data =
      [type, code] ++ (be16 c ++ (be16 id ++ (be16 seq ++ data))) := by
    intro c
    rw [icmpHeader, List.append_assoc, List.append_assoc, List.append_assoc]
  refine ⟨?_, ?_⟩
  · rw [List.length_append]
    exact Nat.le_add_right _ _
  · rw [hsplit, hsplit]
    exact icmpChecksum_stored (Dvd.intro 1 rfl) _

theorem icmpPasses_echo (id seq : UInt16) (payload : List UInt8) :
    IcmpPasses (icmpEchoMessage id seq payload) := icmpPasses_header ..

theorem icmpPasses_error (type code : UInt8) (nextHopMtu : UInt16) (quote : List UInt8) :
    IcmpPasses (icmpErrorMessage type code nextHopMtu quote) := icmpPasses_header ..

/-- The reply keeps all of the request but for its type and checksum. -/
theorem icmpPasses_reply {data : List UInt8} (h : icmpHdrLen ≤ data.length) :
    IcmpPasses (icmpReplyMessage data) := by
  have hsplit : ∀ c, [icmpEchoReply, getU8 data 1] ++ be16 c ++ data.drop 4 =
      [icmpEchoReply, getU8 data 1] ++ (be16 c ++ data.drop 4) := fun c => List.append_assoc ..
  refine ⟨?_, ?_⟩
  · have hlen : (icmpReplyMessage data).length = 4 + (data.length - 4) := by
      rw [icmpReplyMessage, List.length_append, List.length_drop]
      rfl
    rw [hlen]
    omega
  · unfold icmpReplyMessage
    rw [hsplit, hsplit]
    exact icmpChecksum_stored (Dvd.intro 1 rfl) _

/-! ## What is handed to `ip_output` -/

/-- `ip_output` hands on what it is given. -/
theorem made_ipOutput_iff (t : Topology) (net : Net) (srcIp dstIp : UInt32) (protocol : UInt8)
    (payload : Packet) (s d : UInt32) (p : UInt8) (m : List UInt8) :
    Made net (ipOutput t net srcIp dstIp protocol payload).1 (.ipOutput s d p m) ↔
      s = srcIp ∧ d = dstIp ∧ p = protocol ∧ m = payload.bytes := by
  have hsent := ipOutput_sends t net srcIp dstIp protocol payload
  obtain ⟨more, hmore, hsched⟩ := hsent.calls
  rw [Net.record_calls, List.append_assoc] at hmore
  rw [made_iff hmore, List.singleton_append, List.mem_cons, NetCall.ipOutput.injEq]
  exact or_iff_left fun h => hsched _ h

/-- What `ip_output` was handed is the message of its packet. -/
theorem IcmpPasses.of_made {t : Topology} {net : Net} {srcIp dstIp s d : UInt32}
    {protocol p : UInt8} {memory : ℕ → UInt8} {message m : List UInt8} (h : IcmpPasses message)
    (hmade : Made net (ipOutput t net srcIp dstIp protocol (packetFill memory message)).1
      (.ipOutput s d p m)) : IcmpPasses m := by
  obtain ⟨-, -, -, rfl⟩ := (made_ipOutput_iff ..).mp hmade
  rwa [bytes_packetFill]

/-- Every message of this module passes the checksum test of `icmp_receive`. -/
theorem icmpSend_checksum (t : Topology) (net : Net) (call : IcmpSend) {s d : UInt32} {p : UInt8}
    {m : List UInt8} (h : Made net (icmpSend t net call).1 (.ipOutput s d p m)) :
    icmpChecksum m = 0 ∧ ∀ (t' : Topology) (net' : Net) (iface : IfaceRef) (pkt : Packet),
      pkt.bytes = m → ipHdrLen ≤ pkt.data →
        icmpReceive t' net' iface pkt = icmpHandle t' net' iface pkt := by
  have hpasses : IcmpPasses m := by
    have hnone : ∀ f : IfaceStats → IfaceStats, ∀ iface,
        ¬ Made net (net.addStats iface f) (.ipOutput s d p m) := fun f iface =>
      not_made (net.addStats_calls iface f) _
    cases call with
    | echoRequest srcIp dstIp id seq payload => exact (icmpPasses_echo ..).of_made h
    | echoReply iface reqPkt =>
      simp only [icmpSend] at h
      unfold icmpSendEchoReply at h
      split at h
      · exact absurd h (hnone _ _)
      · rename_i hview
        have hlen : icmpHdrLen ≤ reqPkt.bytes.length := by
          rw [reqPkt.length_bytes]
          exact (packetValidateView_iff.mp (by simpa using hview)).2
        split at h
        · exact absurd h (hnone _ _)
        · dsimp only at h
          split at h
          · exact (icmpPasses_reply hlen).of_made h
          · exact (icmpPasses_reply hlen).of_made h
    | error iface origPkt type code nextHopMtu =>
      simp only [icmpSend] at h
      unfold icmpSendError at h
      split at h
      · exact absurd h (hnone _ _)
      · dsimp only at h
        split at h
        · exact absurd h (not_made rfl _)
        · split at h
          · exact (icmpPasses_error ..).of_made h
          · exact (icmpPasses_error ..).of_made h
  refine ⟨hpasses.checksum, fun t' net' iface pkt hbytes hroom => ?_⟩
  exact (hbytes ▸ hpasses).icmpReceive hroom

/-- An echo request of three bytes, although no interface has the source address. -/
theorem icmpSend_checksum_echo : icmpChecksum (icmpEchoMessage 7 1 [0x61, 0x62, 0x63]) = 0 := by
  have hmade : Made netInit (icmpSend exampleRouterTopology netInit
      (.echoRequest 0x0A000009 0x0A000002 7 1 [0x61, 0x62, 0x63])).1
      (.ipOutput 0x0A000009 0x0A000002 ipprotoIcmp (icmpEchoMessage 7 1 [0x61, 0x62, 0x63])) :=
    (made_ipOutput_iff exampleRouterTopology netInit.alloc 0x0A000009 0x0A000002 ipprotoIcmp
      (packetFill _ _) _ _ _ _).mpr ⟨rfl, rfl, rfl, (bytes_packetFill ..).symm⟩
  exact (icmpSend_checksum exampleRouterTopology netInit _ hmade).1

end FrameRunner
