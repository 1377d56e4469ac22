import FrameRunner.Network.Ownership
import FrameRunner.Ospf.Protocol
import FrameRunner.Rip.Receive
import FrameRunner.Tcp.Calls

/-!
# What becomes of a received packet

A receive handler owns the packet that it is given: on each of its paths it frees the
packet, or hands it to a callback of the application. The functions below follow these
paths. A context that is there may still lack what it points to, which the handlers test.

Main results:

* `receiveCall_disposes_iff`: a handler disposes of its packet exactly once, except
  `udp_receive` with a datagram for a port without a socket.
* `tcpReceiveEffects_transfer_iff`: TCP hands its packet over exactly when it calls the
  receive handler of the connection.
-/

namespace FrameRunner

/-! ## ICMP and UDP -/

/-- `icmp_send_echo_reply` (`icmp.c`, lines 176–225). -/
def icmpSendEchoReplyEffects (t : Topology) (net : Net) (reqPkt : Packet) : List PacketEffect :=
  if !packetValidateView reqPkt ipHdrLen icmpHdrLen then [.free .given]
  else if getU8 reqPkt.bytes 0 ≠ icmpEchoRequest ∨ getU8 reqPkt.bytes 1 ≠ 0 then [.free .given]
  else
    let reqIp := getIpHeader (reqPkt.header ipHdrLen)
    let replyPkt := packetFill (t.memory net.allocs) (icmpReplyMessage reqPkt.bytes)
    sendCreatedEffects t net reqIp.dstIp reqIp.srcIp ipprotoIcmp replyPkt ++ [.free .given]

/-- `icmp_receive` (`icmp.c`, lines 71–132). -/
def icmpReceiveEffects (t : Topology) (net : Net) (pkt : Packet) : List PacketEffect :=
  if !packetValidateView pkt ipHdrLen icmpHdrLen then [.free .given]
  else if icmpChecksum pkt.bytes ≠ 0 then [.free .given]
  else
    let type := getU8 pkt.bytes 0
    let code := getU8 pkt.bytes 1
    if type = icmpEchoRequest ∧ code = 0 then icmpSendEchoReplyEffects t net pkt
    else if icmpConsumed type code then [.free .given]
    else [.free .given]

/-- `udp_receive` (`udp.c`, lines 98–177); `state` says whether the context has one. -/
def udpReceiveEffects (t : Topology) (net : Net) (iface : IfaceRef) (pkt : Packet)
    (ctx : UdpContext) (state : Bool) : List PacketEffect :=
  if !state then [.free .given]
  else if !packetValidateView pkt ipHdrLen udpHdrLen then [.free .given]
  else if (getIpHeader (pkt.header ipHdrLen)).protocol ≠ ipprotoUdp then [.free .given]
  else
    let dstPort := getU16 pkt.bytes 2
    let udpLen := (getU16 pkt.bytes 4).toNat
    if udpLen < udpHdrLen then [.free .given]
    else if udpLen > pkt.len then [.free .given]
    else
      match udpFind ctx.sockets dstPort with
      | some _ =>
        match packetStrip pkt udpHdrLen with
        | none => [.free .given]
        | some _ => [.transfer .given]
      | none =>
        if ctx.sim then icmpSendErrorEffects t net iface pkt icmpDestUnreach icmpCodePortUnreach 0
        else [.free .given]

/-! ## TCP -/

/-- A pure ACK is sent or not; the packet is freed in both cases. -/
def tcpAckThenFree (env : IpEnv) (tcb : Tcb) : List PacketEffect :=
  match tcpSendAck env tcb with
  | none => [.free .given]
  | some _ => [.free .given]

/-- The answer to a SYN (`tcp.c`, lines 532–588). -/
def tcpReceiveListenEffects (env : IpEnv) (table : TcpTable) (srcIp dstIp : UInt32)
    (hdr : TcpFields) : List PacketEffect :=
  match tcpAllocTcb table with
  | none => [.free .given]
  | some (table, i) =>
    let child : Tcb :=
      { table.tcbs i with
        localIp := dstIp, localPort := hdr.dstPort, remoteIp := srcIp, remotePort := hdr.srcPort,
        state := .synReceived, sndUna := 0, sndNxt := 1, rcvNxt := hdr.seqNum + 1 }
    match tcpSendSegment env child 0 child.rcvNxt (tcpFlagSyn ||| tcpFlagAck) [] with
    | none => [.free .given]
    | some synAck =>
      match tcpSendqTrack child synAck.data 0 1 (tcpFlagSyn ||| tcpFlagAck) env.time with
      | none => [.free .given]
      | some _ => [.free .given]

/-- `TCP_ESTABLISHED` (lines 655–757). -/
def tcpReceiveEstablishedEffects (env : IpEnv) (table : TcpTable) (i : TcbIndex) (hdr : TcpFields)
    (pkt : Packet) : List PacketEffect :=
  let tcb := tcpEstablishedAck (table.tcbs i) hdr
  if hdr.payload.length > 0 then
    if hdr.seqNum = tcb.rcvNxt then
      let tcb := { tcb with rcvNxt := tcb.rcvNxt + UInt32.ofNat hdr.payload.length }
      match tcpSendAck env tcb with
      | none => [.free .given]
      | some _ =>
        match packetStrip pkt tcpHdrLen, tcb.recvHandler with
        | none, _ => [.free .given]
        | some _, some _ => [.transfer .given]
        | some _, none => [.free .given]
    else tcpAckThenFree env tcb
  else if hdr.flags &&& tcpFlagFin ≠ 0 ∧ hdr.seqNum = tcb.rcvNxt then
    tcpAckThenFree env { tcb with rcvNxt := hdr.seqNum + 1 }
  else if hdr.flags &&& tcpFlagFin = 0 then [.free .given]
  else [.free .given]

/-- The switch on the state (lines 596–926). -/
def tcpReceiveStateEffects (env : IpEnv) (table : TcpTable) (i : TcbIndex) (hdr : TcpFields)
    (pkt : Packet) : List PacketEffect :=
  let tcb := table.tcbs i
  match tcb.state with
  | .synSent =>
    if hdr.flags &&& tcpFlagSyn ≠ 0 ∧ hdr.flags &&& tcpFlagAck ≠ 0 ∧ hdr.ackNum = tcb.sndNxt then
      tcpAckThenFree env { tcb with rcvNxt := hdr.seqNum + 1 }
    else [.free .given]
  | .synReceived =>
    if hdr.flags &&& tcpFlagAck ≠ 0 ∧ hdr.ackNum = tcb.sndNxt then [.free .given]
    else [.free .given]
  | .established => tcpReceiveEstablishedEffects env table i hdr pkt
  | .finWait1 =>
    if hdr.flags &&& tcpFlagAck ≠ 0 ∧ hdr.ackNum > tcb.sndUna then [.free .given]
    else [.free .given]
  | .finWait2 =>
    if hdr.flags &&& tcpFlagFin ≠ 0 ∧ hdr.seqNum = tcb.rcvNxt then
      tcpAckThenFree env { tcb with rcvNxt := hdr.seqNum + 1 }
    else [.free .given]
  | .closing =>
    if hdr.ackNum > tcb.sndUna then
      let tcb := tcpSendqAck { tcb with sndUna := hdr.ackNum } hdr.ackNum
      if tcpFinIsAcked tcb then [.free .given] else [.free .given]
    else [.free .given]
  | .lastAck =>
    if hdr.flags &&& tcpFlagAck ≠ 0 ∧ hdr.ackNum > tcb.sndUna then
      let tcb := tcpSendqAck { tcb with sndUna := hdr.ackNum } hdr.ackNum
      if tcpFinIsAcked tcb then [.free .given] else [.free .given]
    else [.free .given]
  | .timeWait => [.free .given]
  | _ => [.free .given]

/-- `tcp_receive` (`tcp.c`, lines 461–927); `ready` says whether the context has a
    simulator and a table. -/
def tcpReceiveEffects (env : IpEnv) (table : TcpTable) (ready : Bool) (pkt : Packet) :
    List PacketEffect :=
  if !ready then [.free .given]
  else if !packetValidateView pkt ipHdrLen tcpHdrLen then [.free .given]
  else
    let ipHdr := getIpHeader (pkt.header ipHdrLen)
    if ipHdr.protocol ≠ ipProtoTcp then [.free .given]
    else
      let hdr := tcpFields pkt.bytes
      if hdr.hdrWords ≠ tcpHdrWords then [.free .given]
      else
        match tcpFindExact table ipHdr.dstIp hdr.dstPort ipHdr.srcIp hdr.srcPort with
        | some i => tcpReceiveStateEffects env table i hdr pkt
        | none =>
          if hdr.flags = tcpFlagSyn then
            match tcpFindListener table ipHdr.dstIp hdr.dstPort with
            | some _ => tcpReceiveListenEffects env table ipHdr.srcIp ipHdr.dstIp hdr
            | none => [.free .given]
          else [.free .given]

/-! ## OSPF and RIP -/

/-- The Hello case (`ospf.c`, lines 223–307). -/
def ospfReceiveHelloEffects (env : OspfEnv) (state : OspfState) (iface : IfaceRef)
    (data : List UInt8) : List PacketEffect :=
  if data.length < ospfHeaderLen + ospfHelloLen then [.free .given]
  else if (data.length - ospfHeaderLen - ospfHelloLen) % 4 ≠ 0 then [.free .given]
  else if getU32 data 4 = state.routerId ∨
      getU32 data 24 ≠ ipv4PrefixMask (env.prefixLen iface) ∨
      (getU16 data 28).toNat ≠ ospfHelloIntervalUs.toNat / 1000000 ∨
      (getU32 data 32).toNat ≠ ospfDeadIntervalUs.toNat / 1000000 then [.free .given]
  else
    match ospfHelloSlot state (getU32 data 4) with
    | none => [.free .given]
    | some _ => [.free .given]

/-- The LSU case (lines 312–504). What is flooded are packets of its own. -/
def ospfReceiveLsuEffects (data : List UInt8) : List PacketEffect :=
  if data.length < ospfHeaderLen + ospfLsuHeaderLen then [.free .given]
  else
    let lsaCount := (getU16 data 24).toNat
    if lsaCount > ospfLsdbSize then [.free .given]
    else
      match ospfParseLsas lsaCount (data.drop (ospfHeaderLen + ospfLsuHeaderLen)) with
      | none => [.free .given]
      | some (_, remaining) => if remaining ≠ [] then [.free .given] else [.free .given]

/-- `ospf_receive` (`ospf.c`, lines 132–523); `ready` says whether the instance has a
    simulator with a scheduler and a router. -/
def ospfReceiveEffects (env : OspfEnv) (state : OspfState) (ready : Bool) (iface : IfaceRef)
    (pkt : Packet) : List PacketEffect :=
  let data := pkt.bytes
  if env.prefixLen iface > 32 then [.free .given]
  else if !ready then [.free .given]
  else if !packetValidateView pkt ipHdrLen ospfHeaderLen then [.free .given]
  else if (getIpHeader (pkt.header ipHdrLen)).protocol ≠ ospfProtoNum then [.free .given]
  else if getU8 data 0 ≠ ospfVersion then [.free .given]
  else if getU32 data 8 ≠ state.areaId then [.free .given]
  else if (getU16 data 2).toNat ≠ data.length then [.free .given]
  else if getU16 data 12 ≠ 0 then [.free .given]
  else if getU16 data 14 ≠ 0 ∨ getU32 data 16 ≠ 0 ∨ getU32 data 20 ≠ 0 then [.free .given]
  else
    let type := getU8 data 1
    if type = ospfTypeHello then ospfReceiveHelloEffects env state iface data
    else if type = ospfTypeLsu then ospfReceiveLsuEffects data
    else if type = ospfTypeDbd ∨ type = ospfTypeLsr ∨ type = ospfTypeLsack then [.free .given]
    else [.free .given]

/-- `rip_receive` (`rip.c`, lines 97–256); the flags say whether the instance has a
    router, a simulator and that a scheduler. No round of its loop returns. -/
def ripReceiveEffects (router sim sched : Bool) (payload : Packet) : List PacketEffect :=
  if !router then [.free .given]
  else if !sim then [.free .given]
  else if !sched then [.free .given]
  else if !packetValidateView payload 0 ripHdrLen then [.free .given]
  else if (payload.len - ripHdrLen) % ripEntryLen ≠ 0 then [.free .given]
  else if (payload.len - ripHdrLen) / ripEntryLen > ripMaxRoutes then [.free .given]
  else if getU8 payload.bytes 1 ≠ ripVersion then [.free .given]
  else if getU8 payload.bytes 0 ≠ ripCmdResponse then [.free .given]
  else [.free .given]

/-! ## Every path -/

/-- A call of a receive handler. -/
inductive ReceiveCall where
  | icmp (pkt : Packet)
  | udp (iface : IfaceRef) (pkt : Packet) (ctx : UdpContext) (state : Bool)
  | tcp (env : IpEnv) (table : TcpTable) (ready : Bool) (pkt : Packet)
  | ospf (env : OspfEnv) (state : OspfState) (ready : Bool) (iface : IfaceRef) (pkt : Packet)
  | rip (router sim sched : Bool) (payload : Packet)

namespace ReceiveCall

def effects (t : Topology) (net : Net) : ReceiveCall → List PacketEffect
  | icmp pkt => icmpReceiveEffects t net pkt
  | udp iface pkt ctx state => udpReceiveEffects t net iface pkt ctx state
  | tcp env table ready pkt => tcpReceiveEffects env table ready pkt
  | ospf env state ready iface pkt => ospfReceiveEffects env state ready iface pkt
  | rip router sim sched payload => ripReceiveEffects router sim sched payload

/-- A datagram without an error, for a port that no socket is bound to, at a context with a
    simulator. -/
def PortUnreachable : ReceiveCall → Prop
  | udp _ pkt ctx state =>
    state = true ∧ packetValidateView pkt ipHdrLen udpHdrLen = true ∧
      (getIpHeader (pkt.header ipHdrLen)).protocol = ipprotoUdp ∧
      udpHdrLen ≤ (getU16 pkt.bytes 4).toNat ∧ (getU16 pkt.bytes 4).toNat ≤ pkt.len ∧
      udpFind ctx.sockets (getU16 pkt.bytes 2) = none ∧ ctx.sim = true
  | _ => False

end ReceiveCall

/-- The packet is freed or handed over, once. -/
def Disposes (effects : List PacketEffect) : Prop := disposals .given effects = 1

theorem disposes_free : Disposes [.free .given] := rfl

theorem disposes_transfer : Disposes [.transfer .given] := rfl

/-- One more check on whose failure the packet is freed. -/
theorem Disposes.check {p : Prop} [Decidable p] {effects : List PacketEffect}
    (h : Disposes effects) : Disposes (if p then [.free .given] else effects) := by
  split
  · exact disposes_free
  · exact h

theorem Disposes.ite {p : Prop} [Decidable p] {effects effects' : List PacketEffect}
    (h : Disposes effects) (h' : Disposes effects') :
    Disposes (if p then effects else effects') := by
  split
  · exact h
  · exact h'

section
variable {t : Topology} {net : Net}

theorem icmpSendEchoReply_disposes (reqPkt : Packet) :
    Disposes (icmpSendEchoReplyEffects t net reqPkt) := by
  have hreply := (sendCreatedEffects_touches t net
    (getIpHeader (reqPkt.header ipHdrLen)).dstIp (getIpHeader (reqPkt.header ipHdrLen)).srcIp
    ipprotoIcmp (packetFill (t.memory net.allocs) (icmpReplyMessage reqPkt.bytes))).given.1
  refine .check (.check ?_)
  show disposals .given (_ ++ [.free .given]) = 1
  rw [disposals_append, hreply]
  rfl

theorem icmpReceive_disposes (pkt : Packet) : Disposes (icmpReceiveEffects t net pkt) :=
  .check (.check (.ite (icmpSendEchoReply_disposes pkt) (.check disposes_free)))

/-- The error helper leaves the packet alone, and so does `udp_receive` after it. -/
theorem udpReceive_demux_iff (iface : IfaceRef) (pkt : Packet) (ctx : UdpContext) {state : Bool}
    (hstate : state = true)
    (h : packetValidateView pkt ipHdrLen udpHdrLen = true ∧
      (getIpHeader (pkt.header ipHdrLen)).protocol = ipprotoUdp ∧
      udpHdrLen ≤ (getU16 pkt.bytes 4).toNat ∧ (getU16 pkt.bytes 4).toNat ≤ pkt.len) :
    Disposes (match udpFind ctx.sockets (getU16 pkt.bytes 2) with
      | some _ =>
        match packetStrip pkt udpHdrLen with
        | none => [.free .given]
        | some _ => [.transfer .given]
      | none =>
        if ctx.sim then icmpSendErrorEffects t net iface pkt icmpDestUnreach icmpCodePortUnreach 0
        else [.free .given]) ↔
      ¬ (ReceiveCall.udp iface pkt ctx state).PortUnreachable := by
  have hhelper := (icmpSendErrorEffects_touches t net iface pkt icmpDestUnreach
    icmpCodePortUnreach 0).given.1
  cases hfind : udpFind ctx.sockets (getU16 pkt.bytes 2) with
  | some i =>
    have hbound : ¬ (ReceiveCall.udp iface pkt ctx state).PortUnreachable := by
      intro hu
      have hnone := hu.2.2.2.2.2.1
      rw [hfind] at hnone
      cases hnone
    dsimp only
    split
    · exact iff_of_true disposes_free hbound
    · exact iff_of_true disposes_transfer hbound
  | none =>
    dsimp only
    split
    · rename_i hsim
      have hleft : ¬ Disposes
          (icmpSendErrorEffects t net iface pkt icmpDestUnreach icmpCodePortUnreach 0) := by
        intro hone
        rw [Disposes, hhelper] at hone
        cases hone
      exact iff_of_false hleft
        (not_not.mpr ⟨hstate, h.1, h.2.1, h.2.2.1, h.2.2.2, hfind, hsim⟩)
    · rename_i hsim
      exact iff_of_true disposes_free fun hu => hsim hu.2.2.2.2.2.2

theorem udpReceive_disposes_iff (iface : IfaceRef) (pkt : Packet) (ctx : UdpContext)
    (state : Bool) :
    Disposes (udpReceiveEffects t net iface pkt ctx state) ↔
      ¬ (ReceiveCall.udp iface pkt ctx state).PortUnreachable := by
  unfold udpReceiveEffects ReceiveCall.PortUnreachable
  dsimp only
  split
  · rename_i hstate
    exact iff_of_true disposes_free fun h => by simp [h.1] at hstate
  · rename_i hstate
    split
    · rename_i hview
      exact iff_of_true disposes_free fun h => by simp [h.2.1] at hview
    · rename_i hview
      split
      · rename_i hprotocol
        exact iff_of_true disposes_free fun h => hprotocol h.2.2.1
      · rename_i hprotocol
        split
        · rename_i hshort
          exact iff_of_true disposes_free fun h => absurd h.2.2.2.1 (Nat.not_le.mpr hshort)
        · rename_i hshort
          split
          · rename_i hlong
            exact iff_of_true disposes_free fun h => absurd h.2.2.2.2.1 (Nat.not_le.mpr hlong)
          · rename_i hlong
            have hstate : state = true := by simpa using hstate
            have hview : packetValidateView pkt ipHdrLen udpHdrLen = true := by simpa using hview
            have hchecked : packetValidateView pkt ipHdrLen udpHdrLen = true ∧
                (getIpHeader (pkt.header ipHdrLen)).protocol = ipprotoUdp ∧
                udpHdrLen ≤ (getU16 pkt.bytes 4).toNat ∧ (getU16 pkt.bytes 4).toNat ≤ pkt.len :=
              ⟨hview, not_not.mp hprotocol, Nat.not_lt.mp hshort, Nat.not_lt.mp hlong⟩
            exact udpReceive_demux_iff iface pkt ctx hstate hchecked

end

theorem tcpAckThenFree_disposes (env : IpEnv) (tcb : Tcb) : Disposes (tcpAckThenFree env tcb) := by
  unfold tcpAckThenFree
  split
  · exact disposes_free
  · exact disposes_free

theorem tcpReceiveListen_disposes (env : IpEnv) (table : TcpTable) (srcIp dstIp : UInt32)
    (hdr : TcpFields) : Disposes (tcpReceiveListenEffects env table srcIp dstIp hdr) := by
  unfold tcpReceiveListenEffects
  split
  · exact disposes_free
  · dsimp only
    split
    · exact disposes_free
    · split
      · exact disposes_free
      · exact disposes_free

theorem tcpReceiveEstablished_disposes (env : IpEnv) (table : TcpTable) (i : TcbIndex)
    (hdr : TcpFields) (pkt : Packet) :
    Disposes (tcpReceiveEstablishedEffects env table i hdr pkt) := by
  unfold tcpReceiveEstablishedEffects
  dsimp only
  refine .ite (.ite ?_ (tcpAckThenFree_disposes _ _))
    (.ite (tcpAckThenFree_disposes _ _) (.check disposes_free))
  -- data in order, for which an ACK is sent first
  split
  · exact disposes_free
  · split
    · exact disposes_free
    · exact disposes_transfer
    · exact disposes_free

theorem tcpReceiveState_disposes (env : IpEnv) (table : TcpTable) (i : TcbIndex) (hdr : TcpFields)
    (pkt : Packet) : Disposes (tcpReceiveStateEffects env table i hdr pkt) := by
  have hfin : Disposes (if tcpFinIsAcked (tcpSendqAck (table.tcbs i) hdr.ackNum) then
      [.free .given] else [.free .given]) := .check disposes_free
  unfold tcpReceiveStateEffects
  dsimp only
  cases (table.tcbs i).state with
  | synSent => exact .ite (tcpAckThenFree_disposes _ _) disposes_free
  | synReceived => exact .check disposes_free
  | established => exact tcpReceiveEstablished_disposes env table i hdr pkt
  | finWait1 => exact .check disposes_free
  | finWait2 => exact .ite (tcpAckThenFree_disposes _ _) disposes_free
  | closing => exact .ite hfin disposes_free
  | lastAck => exact .ite hfin disposes_free
  | timeWait => exact disposes_free
  | closed => exact disposes_free
  | listen => exact disposes_free
  | closeWait => exact disposes_free

theorem tcpReceive_disposes (env : IpEnv) (table : TcpTable) (ready : Bool) (pkt : Packet) :
    Disposes (tcpReceiveEffects env table ready pkt) := by
  refine .check (.check (.check (.check ?_)))
  split
  · exact tcpReceiveState_disposes _ _ _ _ _
  · refine .ite ?_ disposes_free
    split
    · exact tcpReceiveListen_disposes _ _ _ _ _
    · exact disposes_free

theorem ospfReceiveHello_disposes (env : OspfEnv) (state : OspfState) (iface : IfaceRef)
    (data : List UInt8) : Disposes (ospfReceiveHelloEffects env state iface data) := by
  refine .check (.check (.check ?_))
  split
  · exact disposes_free
  · exact disposes_free

theorem ospfReceiveLsu_disposes (data : List UInt8) : Disposes (ospfReceiveLsuEffects data) := by
  refine .check (.check ?_)
  split
  · exact disposes_free
  · exact .check disposes_free

theorem ospfReceive_disposes (env : OspfEnv) (state : OspfState) (ready : Bool) (iface : IfaceRef)
    (pkt : Packet) : Disposes (ospfReceiveEffects env state ready iface pkt) := by
  unfold ospfReceiveEffects
  dsimp only
  iterate 9 apply Disposes.check
  exact .ite (ospfReceiveHello_disposes env state iface pkt.bytes)
    (.ite (ospfReceiveLsu_disposes pkt.bytes) (.check disposes_free))

theorem ripReceive_disposes (router sim sched : Bool) (payload : Packet) :
    Disposes (ripReceiveEffects router sim sched payload) := by
  unfold ripReceiveEffects
  iterate 8 apply Disposes.check
  exact disposes_free

/-- A handler disposes of its packet exactly once, unless the packet is a datagram for a
    port without a socket: then nobody frees it. -/
theorem receiveCall_disposes_iff (t : Topology) (net : Net) (call : ReceiveCall) :
    Disposes (call.effects t net) ↔ ¬ call.PortUnreachable := by
  cases call with
  | icmp pkt => exact iff_of_true (icmpReceive_disposes pkt) not_false
  | udp iface pkt ctx state => exact udpReceive_disposes_iff iface pkt ctx state
  | tcp env table ready pkt => exact iff_of_true (tcpReceive_disposes env table ready pkt) not_false
  | ospf env state ready iface pkt =>
    exact iff_of_true (ospfReceive_disposes env state ready iface pkt) not_false
  | rip router sim sched payload =>
    exact iff_of_true (ripReceive_disposes router sim sched payload) not_false

/-- A header from 10.0.0.2 to 10.0.0.1. -/
def exampleUdpHeader : IpHeader := ipSentHeader 0x0A000002 0x0A000001 ipprotoUdp 8

/-- A datagram for port 9 as `ip_receive` hands it over. -/
def exampleDatagram : Packet where
  buf := exampleUdpHeader.bytes ++ udpDatagram 4000 9 []
  data := ipHdrLen
  len := udpHdrLen
  fits := by decide

/-- The datagram for a port without a socket is left to nobody. -/
theorem not_receiveCall_disposes :
    ¬ ∀ (t : Topology) (net : Net) (call : ReceiveCall), Disposes (call.effects t net) := by
  intro h
  have hdisposes := h exampleRouterTopology netInit
    (.udp 0 exampleDatagram (exampleRouterTopology.udp 0) true)
  apply (udpReceive_disposes_iff 0 exampleDatagram (exampleRouterTopology.udp 0) true).mp hdisposes
  exact ⟨rfl, by decide +kernel, by decide +kernel, by decide +kernel, by decide +kernel,
    by decide +kernel, rfl⟩

/-! ## Who takes a packet over -/

/-- The call went to a receive handler. -/
def TcpOut.Delivers (out : TcpOut) : Prop :=
  ∃ i payload handler, .recv i payload handler ∈ out.upcalls

theorem not_delivers_of_empty {out : TcpOut} (h : out.upcalls = []) : ¬ out.Delivers := by
  rintro ⟨i, payload, handler, hmem⟩
  rw [h] at hmem
  cases hmem

theorem not_delivers_connect (sent : List IpDatagram) (i : TcbIndex) (tcb : Tcb) :
    ¬ TcpOut.Delivers { sent := sent, upcalls := tcpConnectUpcall i tcb } := by
  rintro ⟨j, payload, handler, hmem⟩
  obtain ⟨fn, -, hfn⟩ := List.mem_map.mp hmem
  cases hfn

theorem transfer_not_mem_free : .transfer .given ∉ ([.free .given] : List PacketEffect) := by
  decide

theorem transfer_not_mem_ackThenFree (env : IpEnv) (tcb : Tcb) :
    .transfer .given ∉ tcpAckThenFree env tcb := by
  unfold tcpAckThenFree
  split
  · exact transfer_not_mem_free
  · exact transfer_not_mem_free

theorem tcpReceiveEstablished_transfer_iff (env : IpEnv) (table : TcpTable) (i : TcbIndex)
    {hdr : TcpFields} {pkt : Packet} (hstrip : tcpHdrLen ≤ pkt.len) :
    .transfer .given ∈ tcpReceiveEstablishedEffects env table i hdr pkt ↔
      (tcpReceiveEstablished env table i hdr).2.2.Delivers := by
  obtain ⟨rest, hrest⟩ := packetStrip_isSome hstrip
  have hnothing : ¬ TcpOut.Delivers {} := not_delivers_of_empty rfl
  have hack : ∀ ack, ¬ TcpOut.Delivers { sent := [ack] } := fun ack => not_delivers_of_empty rfl
  unfold tcpReceiveEstablishedEffects tcpReceiveEstablished
  dsimp only
  by_cases hdata : hdr.payload.length > 0
  · rw [if_pos hdata, if_pos hdata]
    by_cases hseq : hdr.seqNum = (tcpEstablishedAck (table.tcbs i) hdr).rcvNxt
    · rw [if_pos hseq, if_pos hseq, hrest]
      generalize tcpSendAck env { tcpEstablishedAck (table.tcbs i) hdr with
        rcvNxt := (tcpEstablishedAck (table.tcbs i) hdr).rcvNxt +
          UInt32.ofNat hdr.payload.length } = sent
      cases sent with
      | none => exact iff_of_false transfer_not_mem_free hnothing
      | some ack =>
        dsimp only
        cases (tcpEstablishedAck (table.tcbs i) hdr).recvHandler with
        | none => exact iff_of_false transfer_not_mem_free (hack _)
        | some handler =>
          exact iff_of_true List.mem_cons_self ⟨i, hdr.payload, handler, List.mem_cons_self⟩
    · rw [if_neg hseq, if_neg hseq]
      refine iff_of_false (transfer_not_mem_ackThenFree _ _) ?_
      split
      · exact hnothing
      · exact hack _
  · rw [if_neg hdata, if_neg hdata]
    split
    · refine iff_of_false (transfer_not_mem_ackThenFree _ _) ?_
      split
      · exact hnothing
      · exact hack _
    · split
      · exact iff_of_false transfer_not_mem_free hnothing
      · exact iff_of_false transfer_not_mem_free hnothing

theorem tcpReceiveState_transfer_iff (env : IpEnv) (table : TcpTable) (i : TcbIndex)
    {hdr : TcpFields} {pkt : Packet} (hstrip : tcpHdrLen ≤ pkt.len) :
    .transfer .given ∈ tcpReceiveStateEffects env table i hdr pkt ↔
      (tcpReceiveState env table i hdr).2.2.Delivers := by
  have hnothing : ¬ TcpOut.Delivers {} := not_delivers_of_empty rfl
  unfold tcpReceiveStateEffects tcpReceiveState
  dsimp only
  cases (table.tcbs i).state with
  | established => exact tcpReceiveEstablished_transfer_iff env table i hstrip
  | synSent =>
    unfold tcpReceiveSynSent
    dsimp only
    split
    · refine iff_of_false (transfer_not_mem_ackThenFree _ _) ?_
      split
      · exact hnothing
      · exact not_delivers_connect _ _ _
    · exact iff_of_false transfer_not_mem_free hnothing
  | synReceived =>
    unfold tcpReceiveSynReceived
    dsimp only
    split
    · exact iff_of_false transfer_not_mem_free (not_delivers_connect _ _ _)
    · exact iff_of_false transfer_not_mem_free hnothing
  | finWait1 =>
    unfold tcpReceiveFinWait1
    dsimp only
    split
    · exact iff_of_false transfer_not_mem_free hnothing
    · exact iff_of_false transfer_not_mem_free hnothing
  | finWait2 =>
    unfold tcpReceiveFinWait2
    dsimp only
    split
    · refine iff_of_false (transfer_not_mem_ackThenFree _ _) ?_
      split
      · exact hnothing
      · exact not_delivers_of_empty rfl
    · exact iff_of_false transfer_not_mem_free hnothing
  | closing =>
    unfold tcpReceiveClosing
    dsimp only
    refine iff_of_false ?_ ?_
    · split
      · split
        · exact transfer_not_mem_free
        · exact transfer_not_mem_free
      · exact transfer_not_mem_free
    · split
      · split
        · exact hnothing
        · exact hnothing
      · exact hnothing
  | lastAck =>
    unfold tcpReceiveLastAck
    dsimp only
    refine iff_of_false ?_ ?_
    · split
      · split
        · exact transfer_not_mem_free
        · exact transfer_not_mem_free
      · exact transfer_not_mem_free
    · split
      · split
        · exact hnothing
        · exact hnothing
      · exact hnothing
  | timeWait => exact iff_of_false transfer_not_mem_free hnothing
  | closed => exact iff_of_false transfer_not_mem_free hnothing
  | listen => exact iff_of_false transfer_not_mem_free hnothing
  | closeWait => exact iff_of_false transfer_not_mem_free hnothing

theorem transfer_not_mem_listen (env : IpEnv) (table : TcpTable) (srcIp dstIp : UInt32)
    (hdr : TcpFields) : .transfer .given ∉ tcpReceiveListenEffects env table srcIp dstIp hdr := by
  unfold tcpReceiveListenEffects
  split
  · exact transfer_not_mem_free
  · dsimp only
    split
    · exact transfer_not_mem_free
    · split
      · exact transfer_not_mem_free
      · exact transfer_not_mem_free

theorem tcpReceiveListen_not_delivers (env : IpEnv) (table : TcpTable) (listener : TcbIndex)
    (pkt : IpDatagram) (hdr : TcpFields) :
    ¬ (tcpReceiveListen env table listener pkt hdr).2.2.Delivers := by
  generalize hres : tcpReceiveListen env table listener pkt hdr = result
  obtain ⟨table', res, out⟩ := result
  rcases tcpReceiveListen_cases hres with ⟨-, rfl⟩ | ⟨_, _, _, -, -, rfl, -⟩
  · exact not_delivers_of_empty rfl
  · exact not_delivers_of_empty rfl

/-- TCP hands the packet over exactly when `tcp_receive` calls the receive handler of the
    connection. -/
theorem tcpReceiveEffects_transfer_iff (env : IpEnv) (table : TcpTable) {pkt : Packet}
    (hroom : ipHdrLen ≤ pkt.data) :
    .transfer .given ∈ tcpReceiveEffects env table true pkt ↔
      (tcpReceive env table pkt.datagram).2.2.Delivers := by
  have hnothing : ¬ TcpOut.Delivers {} := not_delivers_of_empty rfl
  have hview : (!packetValidateView pkt ipHdrLen tcpHdrLen) = true ↔
      pkt.datagram.data.length < tcpHdrLen := by
    have hlen : pkt.datagram.data.length = pkt.len := pkt.length_bytes
    rw [hlen, Bool.not_eq_true', ← Bool.not_eq_true, packetValidateView_iff]
    omega
  unfold tcpReceiveEffects tcpReceive
  simp only [Bool.not_true, Bool.false_eq_true, if_false]
  by_cases hshort : pkt.datagram.data.length < tcpHdrLen
  · rw [if_pos (hview.mpr hshort), if_pos hshort]
    exact iff_of_false transfer_not_mem_free hnothing
  · rw [if_neg (fun h => hshort (hview.mp h)), if_neg hshort]
    have hstrip : tcpHdrLen ≤ pkt.len := by
      have hlen : pkt.datagram.data.length = pkt.len := pkt.length_bytes
      omega
    show .transfer .given ∈ (if pkt.datagram.protocol ≠ ipProtoTcp then [.free .given]
      else if (tcpFields pkt.datagram.data).hdrWords ≠ tcpHdrWords then [.free .given]
      else match tcpFindExact table pkt.datagram.dstIp (tcpFields pkt.datagram.data).dstPort
          pkt.datagram.srcIp (tcpFields pkt.datagram.data).srcPort with
        | some i => tcpReceiveStateEffects env table i (tcpFields pkt.datagram.data) pkt
        | none =>
          if (tcpFields pkt.datagram.data).flags = tcpFlagSyn then
            match tcpFindListener table pkt.datagram.dstIp
                (tcpFields pkt.datagram.data).dstPort with
            | some _ => tcpReceiveListenEffects env table pkt.datagram.srcIp pkt.datagram.dstIp
                (tcpFields pkt.datagram.data)
            | none => [.free .given]
          else [.free .given]) ↔ _
    split
    · exact iff_of_false transfer_not_mem_free hnothing
    · split
      · exact iff_of_false transfer_not_mem_free hnothing
      · cases tcpFindExact table pkt.datagram.dstIp (tcpFields pkt.datagram.data).dstPort
          pkt.datagram.srcIp (tcpFields pkt.datagram.data).srcPort with
        | some i => exact tcpReceiveState_transfer_iff env table i hstrip
        | none =>
          dsimp only
          split
          · cases tcpFindListener table pkt.datagram.dstIp
              (tcpFields pkt.datagram.data).dstPort with
            | some listener =>
              exact iff_of_false (transfer_not_mem_listen _ _ _ _ _)
                (tcpReceiveListen_not_delivers _ _ _ _ _)
            | none => exact iff_of_false transfer_not_mem_free hnothing
          · exact iff_of_false transfer_not_mem_free hnothing

end FrameRunner
