import FrameRunner.Tcp.SequenceRun

/-!
# Repairing a lost ACK

A segment that the receiver has accepted stays tracked at the sender until its ACK
arrives; when the ACK is lost, the retransmission has to draw another one. Only
`TCP_ESTABLISHED` answers a segment it has seen before, and only one with payload:
a repeated FIN is dropped there, and every state behind it drops or consumes all
of them. So a lost ACK of a FIN is never repaired, and a lost ACK of data only
until the receiver has seen a FIN or closed (`tcpConn_repairs_iff`).
-/

namespace FrameRunner

open FrameRunner.Lib

/-- `p` is what `tcp_retransmit_handler` sends for a data or FIN segment that the
    sender still tracks and the receiver has accepted. -/
def AcceptedRetransmission (sender receiver : Tcb) (p : IpDatagram) : Prop :=
  ∃ k b, (sender.sendq.entries k).pkt = some b ∧ (sender.sendq.entries k).acked = false ∧
    (tcpFields b).Carries ∧ (sender.sendq.entries k).seqEnd.toNat ≤ receiver.rcvNxt.toNat ∧
    p = { srcIp := sender.localIp, dstIp := sender.remoteIp, protocol := ipProtoTcp, data := b }

/-- The call acknowledges everything up to `rcv_nxt`. -/
def AcksRcvNxt (rcvNxt : UInt32) (out : TcpOut) : Prop :=
  ∃ p ∈ out.sent, (tcpFields p.data).flags &&& tcpFlagAck ≠ 0 ∧
    (tcpFields p.data).ackNum = rcvNxt

instance (rcvNxt : UInt32) (out : TcpOut) : Decidable (AcksRcvNxt rcvNxt out) :=
  inferInstanceAs (Decidable (∃ p ∈ out.sent, _))

/-! ## One segment -/

theorem not_acksRcvNxt {rcvNxt : UInt32} {out : TcpOut} (h : out.sent = []) :
    ¬ AcksRcvNxt rcvNxt out := by
  rintro ⟨p, hp, -⟩
  rw [h] at hp
  nomatch hp

theorem acksRcvNxt_sendAck {env : IpEnv} {tcb : Tcb} {ack : IpDatagram} {out : TcpOut}
    (hack : tcpSendAck env tcb = some ack) (hout : out.sent = [ack]) :
    AcksRcvNxt tcb.rcvNxt out := by
  obtain ⟨-, rfl⟩ := tcpSendSegment_eq_some hack
  have hflag : tcpFlagAck &&& tcpFlagAck ≠ 0 := by decide
  refine ⟨_, by rw [hout]; exact List.mem_singleton_self _, ?_⟩
  rw [tcpFields_tcpSegmentBytes _ _ _ _ (by decide) (by decide)]
  exact ⟨hflag, rfl⟩

/-- `TCP_ESTABLISHED` on a segment from before `rcv_nxt`. -/
theorem tcpReceiveEstablished_old {env : IpEnv} {table : TcpTable} {j : TcbIndex}
    {hdr : TcpFields} (hok : env.ipOk = true) (hold : hdr.seqNum ≠ (table.tcbs j).rcvNxt) :
    AcksRcvNxt (table.tcbs j).rcvNxt (tcpReceiveEstablished env table j hdr).2.2 ↔
      hdr.payload ≠ [] := by
  have hnxt : (tcpEstablishedAck (table.tcbs j) hdr).rcvNxt = (table.tcbs j).rcvNxt := by
    unfold tcpEstablishedAck
    split_ifs <;> rfl
  unfold tcpReceiveEstablished
  dsimp only
  by_cases hp : hdr.payload = []
  · -- no payload: a FIN is not the next one, and nothing else is answered
    have hlen : ¬ hdr.payload.length > 0 := by simp [hp]
    have hfin : ¬ (hdr.flags &&& tcpFlagFin ≠ 0 ∧
        hdr.seqNum = (tcpEstablishedAck (table.tcbs j) hdr).rcvNxt) := by
      rw [hnxt]
      exact fun h => hold h.2
    rw [if_neg hlen, if_neg hfin]
    refine iff_of_false (not_acksRcvNxt ?_) (not_not.mpr hp)
    split_ifs <;> rfl
  · rw [if_pos (List.length_pos_iff.mpr hp), if_neg (by rw [hnxt]; exact hold)]
    refine iff_of_true ?_ hp
    split
    · rename_i hnone
      rw [tcpSendAck_eq_none hnone] at hok
      nomatch hok
    · rename_i ack hack
      rw [← hnxt]
      exact acksRcvNxt_sendAck hack rfl

/-- No other state answers a segment from before `rcv_nxt`. -/
theorem tcpReceiveState_old {env : IpEnv} {table : TcpTable} {j : TcbIndex} {hdr : TcpFields}
    (hok : env.ipOk = true) (hsyn : hdr.flags &&& tcpFlagSyn = 0)
    (hold : hdr.seqNum ≠ (table.tcbs j).rcvNxt) :
    AcksRcvNxt (table.tcbs j).rcvNxt (tcpReceiveState env table j hdr).2.2 ↔
      (table.tcbs j).state = .established ∧ hdr.payload ≠ [] := by
  have hnone : ∀ {out : TcpOut}, out.sent = [] → (table.tcbs j).state ≠ .established →
      (AcksRcvNxt (table.tcbs j).rcvNxt out ↔
        (table.tcbs j).state = .established ∧ hdr.payload ≠ []) :=
    fun hsent hst => iff_of_false (not_acksRcvNxt hsent) fun h => hst h.1
  unfold tcpReceiveState
  split
  case h_1 hst =>
    refine hnone ?_ (by rw [hst]; decide)
    unfold tcpReceiveSynSent
    dsimp only
    rw [if_neg fun h => h.1 hsyn]
  case h_2 hst =>
    refine hnone ?_ (by rw [hst]; decide)
    unfold tcpReceiveSynReceived
    dsimp only
    split_ifs <;> rfl
  case h_3 hst =>
    rw [tcpReceiveEstablished_old hok hold]
    exact ⟨fun h => ⟨hst, h⟩, And.right⟩
  case h_4 hst =>
    refine hnone ?_ (by rw [hst]; decide)
    unfold tcpReceiveFinWait1
    dsimp only
    split_ifs <;> rfl
  case h_5 hst =>
    refine hnone ?_ (by rw [hst]; decide)
    unfold tcpReceiveFinWait2
    dsimp only
    rw [if_neg fun h => hold h.2]
  case h_6 hst =>
    refine hnone ?_ (by rw [hst]; decide)
    unfold tcpReceiveClosing
    dsimp only
    split_ifs <;> rfl
  case h_7 hst =>
    refine hnone ?_ (by rw [hst]; decide)
    unfold tcpReceiveLastAck
    dsimp only
    split_ifs <;> rfl
  case h_8 hst => exact hnone rfl (by rw [hst]; decide)
  case h_9 _ _ hst _ _ _ _ _ => exact hnone rfl hst

/-- A datagram of the peer reaches the TCB of the connection. -/
theorem tcpReceive_eq_receiveState {v w : SeqView} {peerRcv : ℕ} {opened : Bool} {env : IpEnv}
    {table : TcpTable} {j : TcbIndex} {p : IpDatagram} (I : SideSeq v peerRcv opened table.tcbs)
    (hj : (table.tcbs j).IsConn) (hself : w.self = v.peer) (hpeer : w.peer = v.self)
    (hp : DatagramSeq w p) :
    tcpReceive env table p = tcpReceiveState env table j (tcpFields p.data) := by
  have hfind := I.findExact hj
  unfold tcpReceive
  dsimp only
  rw [if_neg (not_lt.mpr hp.seg.length), if_neg (not_not.mpr hp.protocol),
    if_neg (not_not.mpr hp.seg.hdrWords), hp.dstIp, hp.srcIp, hp.seg.srcPort, hp.seg.dstPort,
    hself, hpeer, hfind]

/-! ## Results -/

/-- In every reachable state, the retransmission of a segment that the receiver
    has accepted draws an ACK if and only if the receiver is in `TCP_ESTABLISHED`
    and the segment is data. -/
theorem tcpConn_repairs_iff (addr : Side → TcpAddr) (inputs : List (IpEnv × TcpConnInput))
    (halive : Guarded (tcpConnStep addr) (TcpConnAlive addr) tcpConnInit inputs)
    (hused : ∀ x, (run (tcpConnStep addr) tcpConnInit inputs).used x < 2 ^ 32)
    (x : Side) (i j : TcbIndex) (env : IpEnv) (p : IpDatagram) :
    let s := run (tcpConnStep addr) tcpConnInit inputs
    let sender := (s.table x).tcbs i
    let receiver := (s.table x.other).tcbs j
    sender.IsConn → receiver.IsConn → AcceptedRetransmission sender receiver p →
      env.ipOk = true →
      (AcksRcvNxt receiver.rcvNxt (tcpReceive env (s.table x.other) p).2.2 ↔
        receiver.state = .established ∧ (tcpFields p.data).payload ≠ []) := by
  rintro s sender receiver hi hj ⟨k, b, hb, -, hc, hend, rfl⟩ hok
  obtain ⟨rcv, I⟩ := seqInv_run halive hused
  have hsend : TcbSeq (s.seqView addr rcv x) (rcv x.other) sender := (I.side x).tcb i hi
  obtain ⟨hseg, hseqEnd⟩ := hsend.tracked k b hb
  obtain ⟨hsyn, -, hspan⟩ := hseg.seg.carries hc
  have hpos : 0 < (tcpFields b).span := by
    rcases hspan with ⟨hp, -, h⟩ | ⟨-, -, h⟩ <;> rw [h]
    · exact List.length_pos_iff.mpr hp
    · exact Nat.one_pos
  have hold : (tcpFields b).seqNum ≠ receiver.rcvNxt := by
    intro h
    rw [h] at hseqEnd
    omega
  have hdg : DatagramSeq (s.seqView addr rcv x)
      { srcIp := sender.localIp, dstIp := sender.remoteIp, protocol := ipProtoTcp, data := b } :=
    ⟨hsend.addr.localIp, hsend.addr.remoteIp, rfl, hseg⟩
  rw [tcpReceive_eq_receiveState (w := s.seqView addr rcv x) (I.side x.other) hj
    (by simp [TcpConn.seqView]) rfl hdg]
  exact tcpReceiveState_old hok hsyn hold

/-- Side `a` has sent the byte 97, side `b` has accepted it, and its ACK is lost. -/
theorem tcpConn_repairs_iff_exampleRun :
    let s := run (tcpConnStep exampleAddr) tcpConnInit exampleRun
    let receiver := (s.table Side.a.other).tcbs (1 : TcbIndex)
    let p : IpDatagram :=
      { srcIp := 0x0A000001, dstIp := 0x0A000002, protocol := ipProtoTcp,
        data := tcpSegmentBytes 40000 80 1 1 (tcpFlagAck ||| tcpFlagPsh) [97] }
    AcksRcvNxt receiver.rcvNxt (tcpReceive {} (s.table Side.a.other) p).2.2 ↔
      receiver.state = .established ∧ (tcpFields p.data).payload ≠ [] :=
  tcpConn_repairs_iff exampleAddr exampleRun (by decide +kernel)
    (fun x => by cases x <;> decide +kernel) .a 0 1 {} _ (by decide +kernel) (by decide +kernel)
    ⟨0, tcpSegmentBytes 40000 80 1 1 (tcpFlagAck ||| tcpFlagPsh) [97], by decide +kernel,
      by decide +kernel, by decide +kernel, by decide +kernel, by decide +kernel⟩ rfl

/-- Side `a` closes its TCB `i` and side `b` goes to `TCP_CLOSE_WAIT`; its ACK is lost. -/
def closeRun (i : TcbIndex) : List (IpEnv × TcpConnInput) :=
  [({}, .listen .b 0 (some 0) none none), ({}, .connect .a none none none), ({}, .deliver .b 0),
    ({}, .deliver .a 0), ({}, .deliver .b 1), ({}, .close .a i), ({}, .deliver .b 2)]

theorem not_tcpConn_repairs :
    ¬ ∀ (addr : Side → TcpAddr) (inputs : List (IpEnv × TcpConnInput)),
      Guarded (tcpConnStep addr) (TcpConnAlive addr) tcpConnInit inputs →
      (∀ x, (run (tcpConnStep addr) tcpConnInit inputs).used x < 2 ^ 32) →
      ∀ (x : Side) (i j : TcbIndex) (env : IpEnv) (p : IpDatagram),
      let s := run (tcpConnStep addr) tcpConnInit inputs
      let sender := (s.table x).tcbs i
      let receiver := (s.table x.other).tcbs j
      sender.IsConn → receiver.IsConn → AcceptedRetransmission sender receiver p →
        env.ipOk = true →
        AcksRcvNxt receiver.rcvNxt (tcpReceive env (s.table x.other) p).2.2 := by
  intro h
  have hacks := h exampleAddr (closeRun 0) (by decide +kernel)
    (fun x => by cases x <;> decide +kernel) .a 0 1 {}
    { srcIp := 0x0A000001, dstIp := 0x0A000002, protocol := ipProtoTcp,
      data := tcpSegmentBytes 40000 80 1 1 (tcpFlagFin ||| tcpFlagAck) [] }
    (by decide +kernel) (by decide +kernel)
    ⟨0, tcpSegmentBytes 40000 80 1 1 (tcpFlagFin ||| tcpFlagAck) [], by decide +kernel,
      by decide +kernel, by decide +kernel, by decide +kernel, by decide +kernel⟩ rfl
  exact absurd hacks (by decide +kernel)

end FrameRunner
