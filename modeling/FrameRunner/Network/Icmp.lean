import FrameRunner.Network.Ip

/-!
# ICMP (`protocols/icmp.c`)

`icmp_send_error` reads the header of the packet that caused the error in the 20
bytes *before* the packet's data, as a protocol handler finds it once
`ip_receive` has stripped it. What it hands to `ip_output` is said by
`icmpSendError_silent` and `icmpSendError_message`. The echo messages are sent
and answered by `icmp_send_echo_request` and `icmp_receive`.
-/

namespace FrameRunner

def icmpEchoReply : UInt8 := 0
def icmpDestUnreach : UInt8 := 3
def icmpEchoRequest : UInt8 := 8
def icmpTimeExceeded : UInt8 := 11
def icmpCodeNetUnreach : UInt8 := 0
def icmpCodePortUnreach : UInt8 := 3
def icmpCodeFragNeeded : UInt8 := 4
def icmpCodeTtlExceeded : UInt8 := 0
def icmpHdrLen : ℕ := 8

/-- The bytes of an `IcmpHeader`. -/
def icmpHeader (type code : UInt8) (checksum id seq : UInt16) : List UInt8 :=
  [type, code] ++ be16 checksum ++ be16 id ++ be16 seq

/-- `icmp_checksum` (lines 227–247); its result is `ns_htons` of this. -/
def icmpChecksum (data : List UInt8) : UInt16 :=
  if data.isEmpty then 0xFFFF else onesComplement (wordSum data)

/-- The test on which `icmp_send_error` sends nothing: the packet is itself an
    ICMP error, or too short an ICMP message to tell (lines 20–30). -/
def icmpSuppressed (origIp : IpHeader) (data : List UInt8) : Bool :=
  origIp.protocol == ipprotoIcmp &&
    (decide (data.length < icmpHdrLen) || getU8 data 0 == icmpDestUnreach ||
      getU8 data 0 == icmpTimeExceeded)

/-- What is quoted: the header and at most 8 bytes of what follows it
    (lines 32–34 and 55–57). -/
def icmpQuote (origPkt : Packet) : List UInt8 := origPkt.header ipHdrLen ++ origPkt.bytes.take 8

/-- The message of `icmp_send_error` (lines 44–58). -/
def icmpErrorMessage (type code : UInt8) (nextHopMtu : UInt16) (quote : List UInt8) : List UInt8 :=
  let seq := if code = icmpCodeFragNeeded then nextHopMtu else 0
  let checksum := icmpChecksum (icmpHeader type code 0 0 seq ++ quote)
  icmpHeader type code checksum 0 seq ++ quote

/-- `icmp_send_error` (lines 4–69). -/
def icmpSendError (t : Topology) (net : Net) (iface : IfaceRef) (origPkt : Packet)
    (type code : UInt8) (nextHopMtu : UInt16) : Net × ℤ :=
  if !packetValidateView origPkt ipHdrLen 0 then (net.txErrors iface, -1)
  else
    let origIp := getIpHeader (origPkt.header ipHdrLen)
    if icmpSuppressed origIp origPkt.bytes then (net, 0)
    else
      let message := icmpErrorMessage type code nextHopMtu (icmpQuote origPkt)
      let errPkt := packetFill (t.memory net.allocs) message
      let (net, res, _) :=
        ipOutput t net.alloc (t.iface iface).ipAddr origIp.srcIp ipprotoIcmp errPkt
      if res = -1 then (net.txErrors iface, -1) else (net, res)

/-- `icmp_send_time_exceeded` (lines 249–258). -/
def icmpSendTimeExceeded (t : Topology) (net : Net) (iface : IfaceRef) (origPkt : Packet) :
    Net × ℤ :=
  icmpSendError t net iface origPkt icmpTimeExceeded icmpCodeTtlExceeded 0

/-- `icmp_send_unreach_net` (lines 260–269). -/
def icmpSendUnreachNet (t : Topology) (net : Net) (iface : IfaceRef) (origPkt : Packet) : Net × ℤ :=
  icmpSendError t net iface origPkt icmpDestUnreach icmpCodeNetUnreach 0

/-- `icmp_send_unreach_port` (lines 293–302). -/
def icmpSendUnreachPort (t : Topology) (net : Net) (iface : IfaceRef) (origPkt : Packet) : Net × ℤ :=
  icmpSendError t net iface origPkt icmpDestUnreach icmpCodePortUnreach 0

/-- The message of `icmp_send_echo_request` (lines 154–167). -/
def icmpEchoMessage (id seq : UInt16) (payload : List UInt8) : List UInt8 :=
  let checksum := icmpChecksum (icmpHeader icmpEchoRequest 0 0 id seq ++ payload)
  icmpHeader icmpEchoRequest 0 checksum id seq ++ payload

/-- `icmp_send_echo_request` (lines 134–174). -/
def icmpSendEchoRequest (t : Topology) (net : Net) (srcIp dstIp : UInt32) (id seq : UInt16)
    (payload : List UInt8) : Net × ℤ :=
  let pkt := packetFill (t.memory net.allocs) (icmpEchoMessage id seq payload)
  let (net, res, _) := ipOutput t net.alloc srcIp dstIp ipprotoIcmp pkt
  (net, res)

/-- The reply to a request with these bytes (lines 204–211). -/
def icmpReplyMessage (data : List UInt8) : List UInt8 :=
  let checksum := icmpChecksum ([icmpEchoReply, getU8 data 1] ++ be16 0 ++ data.drop 4)
  [icmpEchoReply, getU8 data 1] ++ be16 checksum ++ data.drop 4

/-- `icmp_send_echo_reply` (lines 176–225). -/
def icmpSendEchoReply (t : Topology) (net : Net) (iface : IfaceRef) (reqPkt : Packet) : Net × ℤ :=
  if !packetValidateView reqPkt ipHdrLen icmpHdrLen then (net.txErrors iface, -1)
  else if getU8 reqPkt.bytes 0 ≠ icmpEchoRequest ∨ getU8 reqPkt.bytes 1 ≠ 0 then
    (net.txErrors iface, -1)
  else
    let reqIp := getIpHeader (reqPkt.header ipHdrLen)
    let replyPkt := packetFill (t.memory net.allocs) (icmpReplyMessage reqPkt.bytes)
    let (net, res, _) := ipOutput t net.alloc reqIp.dstIp reqIp.srcIp ipprotoIcmp replyPkt
    if res = -1 then (net.txErrors iface, -1) else (net, res)

/-- The messages that `icmp_receive` takes in without an answer (lines 103–122). -/
def icmpConsumed (type code : UInt8) : Bool :=
  (type == icmpEchoReply && code == 0) || (type == icmpDestUnreach && decide (code ≤ 4)) ||
    (type == icmpTimeExceeded && code == 0)

/-- `icmp_receive` (lines 71–132). -/
def icmpReceive (t : Topology) (net : Net) (iface : IfaceRef) (pkt : Packet) : Net × ℤ :=
  if !packetValidateView pkt ipHdrLen icmpHdrLen then (net.rxErrors iface, -1)
  else if icmpChecksum pkt.bytes ≠ 0 then (net.rxErrors iface, -1)
  else
    let type := getU8 pkt.bytes 0
    let code := getU8 pkt.bytes 1
    if type = icmpEchoRequest ∧ code = 0 then icmpSendEchoReply t net iface pkt
    else if icmpConsumed type code then (net, 0)
    else (net.rxDropped iface, -1)

/-! ## The message -/

/-- The packets handed to `ip_output`, as destination, protocol and payload. -/
def ipOutputs (calls : List NetCall) : List (UInt32 × UInt8 × List UInt8) :=
  calls.filterMap fun
    | .ipOutput _ dstIp protocol payload => some (dstIp, protocol, payload)
    | _ => none

theorem ipOutputs_append (cs cs' : List NetCall) :
    ipOutputs (cs ++ cs') = ipOutputs cs ++ ipOutputs cs' := List.filterMap_append ..

theorem ipOutputs_of_schedule {cs : List NetCall} (h : ∀ c ∈ cs, c.IsSchedule) :
    ipOutputs cs = [] := by
  rw [ipOutputs, List.filterMap_eq_nil_iff]
  intro c hc
  have := h c hc
  cases c <;> simp_all [NetCall.IsSchedule]

theorem Sends.ipOutputs {net net' : Net} (h : Sends NetCall.IsSchedule net net') :
    ipOutputs net'.calls = ipOutputs net.calls := by
  obtain ⟨more, hmore, hsched⟩ := h.calls
  rw [hmore, ipOutputs_append, ipOutputs_of_schedule hsched, List.append_nil]

theorem ipOutput_ipOutputs (t : Topology) (net : Net) (srcIp dstIp : UInt32) (protocol : UInt8)
    (payload : Packet) :
    ipOutputs (ipOutput t net srcIp dstIp protocol payload).1.calls =
      ipOutputs net.calls ++ [(dstIp, protocol, payload.bytes)] := by
  rw [(ipOutput_sends t net srcIp dstIp protocol payload).ipOutputs, Net.record_calls,
    ipOutputs_append]
  rfl

/-- Without 20 bytes before the data nothing is handed to `ip_output`. -/
theorem icmpSendError_silent (t : Topology) (net : Net) (iface : IfaceRef) {origPkt : Packet}
    (type code : UInt8) (nextHopMtu : UInt16) (hroom : origPkt.data < ipHdrLen) :
    ipOutputs (icmpSendError t net iface origPkt type code nextHopMtu).1.calls =
      ipOutputs net.calls := by
  have hview : packetValidateView origPkt ipHdrLen 0 = false := by
    rw [← Bool.not_eq_true, packetValidateView_iff]
    omega
  simp [icmpSendError, hview]

/-- With them, and unless it would answer an ICMP error, the message with the
    quote is, for the source address in those bytes. -/
theorem icmpSendError_message (t : Topology) (net : Net) (iface : IfaceRef) {origPkt : Packet}
    (type code : UInt8) (nextHopMtu : UInt16) (hroom : ipHdrLen ≤ origPkt.data)
    (hsup : icmpSuppressed (getIpHeader (origPkt.header ipHdrLen)) origPkt.bytes = false) :
    ipOutputs (icmpSendError t net iface origPkt type code nextHopMtu).1.calls =
      ipOutputs net.calls ++ [((getIpHeader (origPkt.header ipHdrLen)).srcIp, ipprotoIcmp,
        icmpErrorMessage type code nextHopMtu (icmpQuote origPkt))] := by
  have hview : packetValidateView origPkt ipHdrLen 0 = true :=
    packetValidateView_iff.mpr ⟨hroom, Nat.zero_le _⟩
  have hout := ipOutput_ipOutputs t net.alloc (t.iface iface).ipAddr
    (getIpHeader (origPkt.header ipHdrLen)).srcIp ipprotoIcmp
    (packetFill (t.memory net.allocs) (icmpErrorMessage type code nextHopMtu (icmpQuote origPkt)))
  rw [bytes_packetFill, Net.alloc_calls] at hout
  simp only [icmpSendError, hview, hsup, Bool.not_true, Bool.false_eq_true, if_false]
  rw [← hout]
  split <;> rfl

theorem icmpSendError_sends (t : Topology) (net : Net) (iface : IfaceRef) (origPkt : Packet)
    (type code : UInt8) (nextHopMtu : UInt16) :
    Sends NetCall.IsOutput net (icmpSendError t net iface origPkt type code nextHopMtu).1 := by
  unfold icmpSendError
  dsimp only
  split
  · show Sends _ net (net.txErrors iface)
    exact net.addStats_sends _ iface _
  · split
    · exact Sends.refl _ net
    · have hout := (ipOutput_sends t net.alloc (t.iface iface).ipAddr
        (getIpHeader (origPkt.header ipHdrLen)).srcIp ipprotoIcmp
        (packetFill (t.memory net.allocs)
          (icmpErrorMessage type code nextHopMtu (icmpQuote origPkt)))).mono
          fun _ => NetCall.IsSchedule.isOutput
      have hsent := ((net.alloc_sends _).trans (net.alloc.record_sends trivial)).trans hout
      split
      · refine hsent.trans ?_
        show Sends _ _ (Net.txErrors _ iface)
        exact Net.addStats_sends _ _ iface _
      · exact hsent

end FrameRunner
