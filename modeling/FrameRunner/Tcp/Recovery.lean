import FrameRunner.Tcp.Completion
import FrameRunner.Tcp.Repair
import FrameRunner.Tcp.StaleTimers

/-!
# One segment at a time

`tcp_send` and `tcp_close` refuse while a segment is unacknowledged, so a side has at
most one outstanding. The peer's `rcv_nxt` then stands at one of the two ends of it,
and of all segments in the network only its copies reach past its start (`Lockstep`).

Main result:
* `tcpConn_recovers`: between two TCBs in `TCP_ESTABLISHED`, whatever was lost before,
  one retransmission and its ACK that get through hand the outstanding data over and
  empty the queue.
-/

namespace FrameRunner

open FrameRunner.Lib

/-! ## Segments -/

/-- A segment that takes up sequence numbers has a payload, a SYN or a FIN. -/
theorem TcpFields.span_pos {hdr : TcpFields}
    (h : hdr.payload ≠ [] ∨ hdr.flags &&& tcpFlagSyn ≠ 0 ∨ hdr.flags &&& tcpFlagFin ≠ 0) :
    0 < hdr.span := by
  unfold TcpFields.span
  rcases h with h | h | h
  · have hlen := List.length_pos_iff.mpr h
    omega
  · rw [if_pos h]
    omega
  · rw [if_pos h]
    omega

theorem TcpFields.Carries.span_pos {hdr : TcpFields} (h : hdr.Carries) : 0 < hdr.span :=
  TcpFields.span_pos (h.imp_right .inr)

/-- What is tracked takes up sequence numbers. -/
theorem QueueOk.span_pos {tcb : Tcb} (Q : QueueOk tcb) (hv : tcb.valid = true)
    {k : Fin tcpMaxInflight} {b : List UInt8} (hb : (tcb.sendq.entries k).pkt = some b) :
    0 < (tcpFields b).span := by
  have hheld : (tcb.sendq.entries k).held = true := by rw [TcpSegment.held, hb]; rfl
  have hempty : tcb.sendq.held ≠ 0 := fun h => by
    rw [held_eq_zero.mp h k] at hheld
    cases hheld
  have hcontrol : ∀ flags : UInt8, flags &&& tcpFlagSyn ≠ 0 ∨ flags &&& tcpFlagFin ≠ 0 →
      tcb.sendq.Only (TcpSegment.IsControl flags) → 0 < (tcpFields b).span := by
    intro flags hflags honly
    obtain ⟨-, b', hb', hf, -⟩ := honly k hheld
    obtain rfl := Option.some.inj (hb.symm.trans hb')
    exact TcpFields.span_pos (.inr (by rw [hf]; exact hflags))
  have hdata : tcb.sendq.Only TcpSegment.IsData → 0 < (tcpFields b).span := by
    intro honly
    obtain ⟨-, b', hb', -, hp⟩ := honly k hheld
    obtain rfl := Option.some.inj (hb.symm.trans hb')
    exact TcpFields.span_pos (.inl hp)
  have hshape := Q.shape hv
  cases hst : tcb.state with
  | listen | finWait2 | timeWait =>
    rw [hst] at hshape
    exact absurd hshape hempty
  | synSent | synReceived | finWait1 | lastAck =>
    rw [hst] at hshape
    exact hcontrol _ (by decide) hshape.2
  | established | closeWait =>
    rw [hst] at hshape
    exact hdata hshape.2
  | closed | closing =>
    rw [hst] at hshape
    exact hshape.elim

/-- `tcp_receive` answers with ACKs and SYN-ACKs only. -/
theorem tcpReceive_not_carries {env : IpEnv} {table : TcpTable} {pkt p : IpDatagram}
    (h : p ∈ (tcpReceive env table pkt).2.2.sent) : ¬ (tcpFields p.data).Carries := by
  have hcontrol : ∀ {tcb : Tcb} {seq ack : UInt32} {flags : UInt8}, TcpFlagsOk flags →
      flags &&& tcpFlagFin = 0 → tcpSendSegment env tcb seq ack flags [] = some p →
      ¬ (tcpFields p.data).Carries := by
    intro tcb seq ack flags hok hfin hp hc
    obtain ⟨-, hf, hpayload, -⟩ := tcpSendSegment_fields hok hp
    rcases hc with hc | hc
    · exact hc hpayload
    · exact hc (by rw [hf]; exact hfin)
  rcases hr : tcpReceive env table pkt with ⟨table', res, out⟩
  rw [hr] at h
  rcases tcpReceive_cases hr with ⟨-, hsent⟩ | ⟨i, tcb, -, -, -, hsent⟩ |
    ⟨i, tcb, synAck, -, -, -, -, hsent, hopen, -, -⟩
  · rw [hsent] at h
    cases h
  · exact hcontrol (by decide) (by decide) (hsent p h).2
  · rw [hsent] at h
    obtain rfl := List.mem_singleton.mp h
    exact hcontrol (by decide) (by decide) hopen.sent

/-! ## Numbers of a received segment -/

section
variable {tcb tcb' : Tcb} {hdr : TcpFields}

/-- What moves `rcv_nxt`: the SYN of the handshake, data and a FIN in order. -/
theorem TcbReceived.rcvNxt (hr : TcbReceived tcb hdr tcb') (hclosing : tcb.state ≠ .closing)
    (hconn : tcb'.IsConn) :
    tcb'.rcvNxt = tcb.rcvNxt ∨
      tcb.state = .synSent ∧ hdr.flags &&& tcpFlagSyn ≠ 0 ∧ tcb'.rcvNxt = hdr.seqNum + 1 ∨
      hdr.seqNum = tcb.rcvNxt ∧ hdr.payload ≠ [] ∧
        tcb'.rcvNxt = tcb.rcvNxt + UInt32.ofNat hdr.payload.length ∨
      hdr.seqNum = tcb.rcvNxt ∧ hdr.flags &&& tcpFlagFin ≠ 0 ∧ tcb'.rcvNxt = hdr.seqNum + 1 := by
  cases hr with
  | ignored => exact .inl rfl
  | synSent hst hsyn => exact .inr (.inl ⟨hst, hsyn, rfl⟩)
  | synReceived => exact .inl rfl
  | acked => exact .inl (tcpEstablishedAck_rcvNxt tcb hdr)
  | data _ hne hseq => exact .inr (.inr (.inl ⟨hseq, hne, rfl⟩))
  | fin _ hfin hseq => exact .inr (.inr (.inr ⟨hseq, hfin, rfl⟩))
  | finWait1 =>
    split
    · exact .inl rfl
    · exact .inl rfl
  | finWait2 _ hfin hseq => exact .inr (.inr (.inr ⟨hseq, hfin, rfl⟩))
  | closing hst => exact absurd hst hclosing
  | lastAck => exact .inl rfl
  | released => exact absurd hconn (not_isConn_of_invalid rfl)

/-- An ACK that leaves a segment in the queue is from before its end. -/
theorem tcpSendqAck_lt {ack : UInt32} {k : Fin tcpMaxInflight}
    (hk : ((tcpSendqAck tcb ack).sendq.entries k).held = true) :
    ack < ((tcpSendqAck tcb ack).sendq.entries k).seqEnd := by
  rcases tcpSendqAck_entry tcb ack k with hnone | ⟨hsame, hnot⟩
  · rw [TcpSegment.held, hnone] at hk
    cases hk
  · rw [hsame] at hk ⊢
    rw [TcpSegment.held] at hk
    simpa [tcpSegmentAcked, hk] using hnot

/-- `snd_una` stays before the end of what is tracked. -/
theorem TcbReceived.una (hr : TcbReceived tcb hdr tcb') {k : Fin tcpMaxInflight}
    (hk : (tcb'.sendq.entries k).held = true) (h : tcb.sndUna < (tcb.sendq.entries k).seqEnd) :
    tcb'.sndUna < (tcb'.sendq.entries k).seqEnd := by
  have hacked : ((tcb.ackedBy hdr).sendq.entries k).held = true →
      (tcb.ackedBy hdr).sndUna < ((tcb.ackedBy hdr).sendq.entries k).seqEnd :=
    fun hk => tcpSendqAck_lt hk
  have hest : ((tcpEstablishedAck tcb hdr).sendq.entries k).held = true →
      (tcpEstablishedAck tcb hdr).sndUna <
        ((tcpEstablishedAck tcb hdr).sendq.entries k).seqEnd := by
    unfold tcpEstablishedAck
    split_ifs
    · exact fun hk => @tcpSendqAck_lt tcb hdr.ackNum k hk
    · exact fun _ => h
  cases hr with
  | ignored | finWait2 => exact h
  | synSent | synReceived | closing | lastAck => exact hacked hk
  | acked | data | fin => exact hest hk
  | finWait1 =>
    by_cases hfin : tcpFinIsAcked (tcb.ackedBy hdr) = true
    · rw [if_pos hfin] at hk ⊢
      exact hacked hk
    · rw [if_neg hfin] at hk ⊢
      exact hacked hk
  | released => cases hk

end

/-! ## What a side has received -/

/-- `rcv_nxt` of the connection of a side, 0 before there is one. -/
def TcpConn.rcv (s : TcpConn) (x : Side) : ℕ :=
  match Fin.find? fun j => decide ((s.table x).tcbs j).IsConn with
  | some j => ((s.table x).tcbs j).rcvNxt.toNat
  | none => 0

section
variable {addr : Side → TcpAddr} {s s' : TcpConn} {x : Side} {i : TcbIndex}

theorem SeqInv.rcv_eq {rcv : Side → ℕ} (J : SeqInv addr rcv s) (x : Side) : rcv x = s.rcv x := by
  unfold TcpConn.rcv
  split
  · rename_i j hj
    have hconn : ((s.table x).tcbs j).IsConn := by simpa using (Fin.find?_eq_some_iff.mp hj).1
    exact (J.rcvNxt hconn).symm
  · rename_i hnone
    have hopened : s.opened x = false := by
      by_contra hopened
      have hconn := J.alive x (by simpa using hopened)
      rw [TcpTable.hasConn, hnone] at hconn
      cases hconn
    exact ((J.side x).fresh hopened).2.2.2

theorem StreamInv.seqInv (I : StreamInv addr s) : SeqInv addr s.rcv s := by
  obtain ⟨rcv, J⟩ := I.seq
  rwa [← funext J.rcv_eq]

/-- A side without a connection has never had one. -/
theorem StreamInv.rcv_eq_zero (I : StreamInv addr s) (h : ∀ j, ¬ ((s.table x).tcbs j).IsConn) :
    s.opened x = false ∧ s.rcv x = 0 := by
  have hopened : s.opened x = false := by
    by_contra hopened
    obtain ⟨j, hj⟩ := TcpTable.hasConn_eq_true.mp (I.seqInv.alive x (by simpa using hopened))
    exact h j hj
  exact ⟨hopened, ((I.seqInv.side x).fresh hopened).2.2.2⟩

/-- A tracked segment reaches from its sequence number to what has been used. -/
theorem StreamInv.held (I : StreamInv addr s) (hi : ((s.table x).tcbs i).IsConn)
    {k : Fin tcpMaxInflight} {b : List UInt8}
    (hb : (((s.table x).tcbs i).sendq.entries k).pkt = some b) :
    (tcpFields b).seqNum.toNat + (tcpFields b).span = s.used x ∧ 0 < (tcpFields b).span := by
  have hheld : (((s.table x).tcbs i).sendq.entries k).held = true := by
    rw [TcpSegment.held, hb]
    rfl
  have hend : (((s.table x).tcbs i).sendq.entries k).seqEnd = ((s.table x).tcbs i).sndNxt :=
    (I.queues x).2 i k hheld
  refine ⟨?_, ((I.queues x).1 i).span_pos hi.1 hb⟩
  rw [← (((I.seqInv.side x).tcb i hi).tracked k b hb).2, hend]
  exact I.seqInv.sndNxt hi

variable {env : IpEnv} {c : TcpInput} {more : List UInt8} {fin : Bool}

/-- A slot that was free and holds the connection now: there was none before. -/
theorem StreamInv.none_before (I' : StreamInv addr s') {tcb : Tcb}
    (htable : (s'.table x).tcbs = Function.update (s.table x).tcbs i tcb)
    (hfree : ((s.table x).tcbs i).valid = false) (hi : ((s'.table x).tcbs i).IsConn)
    (j : TcbIndex) : ¬ ((s.table x).tcbs j).IsConn := by
  intro hj
  have hji : j ≠ i := by
    rintro rfl
    exact absurd (hj.1.symm.trans hfree) (by decide)
  have hj' : ((s'.table x).tcbs j).IsConn := by
    rw [htable, Function.update_of_ne hji]
    exact hj
  exact hji ((I'.seqInv.side x).unique j i hj' hi)

/-- `rcv_nxt` moves by a SYN in the handshake, and by a segment that starts there. -/
theorem TcpConnMove.rcv (h : TcpConnMove s env x c more fin s') (I : StreamInv addr s)
    (I' : StreamInv addr s') :
    s'.rcv x = s.rcv x ∨ s.rcv x = 0 ∧ s'.rcv x = 1 ∨
      ∃ p ∈ s.sent x.other, (tcpFields p.data).Carries ∧
        (tcpFields p.data).seqNum.toNat = s.rcv x ∧
        s'.rcv x = (tcpFields p.data).seqNum.toNat + (tcpFields p.data).span := by
  have J := I.seqInv
  have J' := I'.seqInv
  by_cases hconn : ∃ i, ((s'.table x).tcbs i).IsConn
  swap
  · -- no connection: `opened` only grows
    obtain ⟨hopened, hrcv⟩ := I'.rcv_eq_zero (not_exists.mp hconn)
    rw [h.commit] at hopened
    simp only [TcpConn.commit, Function.update_self, Bool.or_eq_false_iff] at hopened
    have h0 : s.rcv x = 0 := ((J.side x).fresh hopened.1).2.2.2
    exact .inl (hrcv.trans h0.symm)
  obtain ⟨i, hi⟩ := hconn
  rw [← J'.rcvNxt hi]
  have hsame : ((s'.table x).tcbs i).rcvNxt = ((s.table x).tcbs i).rcvNxt →
      ((s.table x).tcbs i).IsConn → ((s'.table x).tcbs i).rcvNxt.toNat = s.rcv x := by
    intro hrcv hconn
    rw [hrcv, J.rcvNxt hconn]
  rcases (h.stepped (I.queues x).1).conn hi fun j hj => (J'.side x).unique j i hj hi with
    ⟨htcb, -⟩ | ⟨htable, hstep⟩
  · exact .inl (hsame (by rw [htcb]) (htcb ▸ hi))
  have hbefore := fun hfree => (I.rcv_eq_zero (I'.none_before htable hfree hi)).2
  generalize tcpStepOut (s.table x) (env, c) = out at hstep
  obtain ⟨tcb, htcb⟩ : ∃ tcb, (s'.table x).tcbs i = tcb := ⟨_, rfl⟩
  rw [htcb] at hi hsame hstep ⊢
  cases hstep with
  | listened _ hst => exact absurd hst hi.2
  | connected hfree hopen =>
    have hrcv : s'.rcv x = 0 :=
      ((J'.side x).tcb i (htcb.symm ▸ hi)).synSent (by rw [htcb]; exact hopen.state)
    have hnxt := J'.rcvNxt (htcb.symm ▸ hi)
    rw [htcb] at hnxt
    rw [hbefore hfree, hnxt, hrcv]
    exact .inl rfl
  | child hfree hopen =>
    have hrcv := ((I'.conn.side x).tcb i (htcb.symm ▸ hi)).synReceived
      (by rw [htcb]; exact hopen.state)
    rw [htcb] at hrcv
    rw [hbefore hfree, hrcv]
    exact .inr (.inl ⟨rfl, rfl⟩)
  | sent hst _ hsent =>
    obtain ⟨sendq, ts, state, heq⟩ := hsent.same
    exact .inl (hsame (by rw [heq]) ⟨hsent.valid, by simp [hst]⟩)
  | closed hst hsent =>
    obtain ⟨sendq, ts, state, heq⟩ := hsent.same
    refine .inl (hsame (by rw [heq]) ⟨hsent.valid, ?_⟩)
    rcases hst with ⟨hst, -⟩ | ⟨hst, -⟩ <;> rw [hst] <;> decide
  | @received pkt _ _ hv hst hr =>
    have hpkt := h.receive pkt rfl
    have hold := J.rcvNxt ⟨hv, hst⟩
    have hseg := (J.sent x.other pkt hpkt).seg.seg
    rcases hr.rcvNxt (J.not_closing ⟨hv, hst⟩) hi with hrcv | ⟨hsyn, hflag, hrcv⟩ |
      ⟨hseq, hne, hrcv⟩ | ⟨hseq, hfin, hrcv⟩
    · exact .inl (hsame hrcv ⟨hv, hst⟩)
    · have h0 : s.rcv x = 0 := ((J.side x).tcb i ⟨hv, hst⟩).synSent hsyn
      have hseq : (tcpFields pkt.data).seqNum = 0 := hseg.syn hflag
      rw [hrcv, hseq, h0]
      exact .inr (.inl ⟨rfl, rfl⟩)
    · obtain ⟨-, hbound, hspan⟩ := hseg.carries (.inl hne)
      have hlen : (tcpFields pkt.data).span = (tcpFields pkt.data).payload.length := by
        rcases hspan with ⟨-, -, hspan⟩ | ⟨hnil, -⟩
        · exact hspan
        · exact absurd hnil hne
      have hused : 1 + (s.accepted x.other).length + (s.closed x.other).toNat < 2 ^ 32 :=
        J.bound x.other
      refine .inr (.inr ⟨pkt, hpkt, .inl hne, by rw [hseq, hold], ?_⟩)
      rw [hlen] at hbound
      rw [hrcv, hlen, ← hseq, UInt32.toNat_add, UInt32.toNat_ofNat']
      have hb : (tcpFields pkt.data).seqNum.toNat + (tcpFields pkt.data).payload.length ≤
        1 + (s.accepted x.other).length + (s.closed x.other).toNat := hbound
      omega
    · obtain ⟨-, hbound, hspan⟩ := hseg.carries (.inr hfin)
      have hlen : (tcpFields pkt.data).span = 1 := by
        rcases hspan with ⟨-, hnot, -⟩ | ⟨-, -, hspan⟩
        · exact absurd hnot hfin
        · exact hspan
      have hused : 1 + (s.accepted x.other).length + (s.closed x.other).toNat < 2 ^ 32 :=
        J.bound x.other
      refine .inr (.inr ⟨pkt, hpkt, .inr hfin, by rw [hseq, hold], ?_⟩)
      rw [hlen] at hbound
      have hb : (tcpFields pkt.data).seqNum.toNat + 1 ≤
        1 + (s.accepted x.other).length + (s.closed x.other).toNat := hbound
      rw [hrcv, hlen, UInt32.toNat_add, UInt32.toNat_one]
      omega
  | resent => exact .inl (hsame rfl hi)
  | released => exact absurd hi (not_isConn_of_invalid rfl)

end

/-! ## The outstanding segment -/

/-- `b` is what side `x` has outstanding, in entry `k` of its queue: the peer stands at its
    start or past it, and what else has been sent ends before it. -/
structure Outstanding (s : TcpConn) (x : Side) (tcb : Tcb) (k : Fin tcpMaxInflight)
    (b : List UInt8) : Prop where
  una : tcb.sndUna < (tcb.sendq.entries k).seqEnd
  edge : s.rcv x.other = (tcpFields b).seqNum.toNat ∨ s.rcv x.other = s.used x
  behind : ∀ p ∈ s.sent x, (tcpFields p.data).Carries →
    (tcpFields p.data).seqNum.toNat + (tcpFields p.data).span ≤ (tcpFields b).seqNum.toNat ∨
      p.data = b

/-- Both sides send one segment at a time. -/
structure Lockstep (addr : Side → TcpAddr) (s : TcpConn) : Prop where
  inv : StreamInv addr s
  outstanding : ∀ x i k b, ((s.table x).tcbs i).IsConn →
    (((s.table x).tcbs i).sendq.entries k).pkt = some b →
    Outstanding s x ((s.table x).tcbs i) k b

section
variable {addr : Side → TcpAddr} {s s' : TcpConn} {x : Side} {i : TcbIndex} {env : IpEnv}
  {c : TcpInput} {more : List UInt8} {fin : Bool} {k : Fin tcpMaxInflight} {b : List UInt8}

theorem TcpConnMove.rcv_other (h : TcpConnMove s env x c more fin s') :
    s'.rcv x.other = s.rcv x.other := by
  unfold TcpConn.rcv
  rw [h.table_other (Side.other_ne x)]

theorem TcpConnMove.sent_self (h : TcpConnMove s env x c more fin s') :
    s'.sent x = s.sent x ++ (tcpStepOut (s.table x) (env, c)).sent := by
  rw [h.commit]
  exact Function.update_self ..

/-- A segment from the very start of the stream is the SYN. -/
theorem SegOk.span_le {acc : List UInt8} {closed : Bool} {hdr : TcpFields}
    (h : SegOk acc closed hdr) (hseq : hdr.seqNum.toNat = 0) : hdr.span ≤ 1 := by
  have hp : hdr.payload = [] := by
    by_contra hp
    obtain ⟨k, hk, -⟩ := h.place hp
    omega
  have hf : ¬ hdr.flags &&& tcpFlagFin ≠ 0 := by
    intro hf
    obtain ⟨-, hk⟩ := h.fin hf
    omega
  unfold TcpFields.span
  rw [hp, if_neg hf, List.length_nil]
  split_ifs
  · exact le_rfl
  · exact Nat.zero_le 1

/-- The peer moves: it stays at the start of the segment or takes all of it. -/
theorem Outstanding.peer (I : StreamInv addr s) (I' : StreamInv addr s')
    (h : TcpConnMove s env x.other c more fin s') (hi : ((s.table x).tcbs i).IsConn)
    (hb : (((s.table x).tcbs i).sendq.entries k).pkt = some b)
    (O : Outstanding s x ((s.table x).tcbs i) k b) :
    Outstanding s' x ((s.table x).tcbs i) k b := by
  obtain ⟨hend, hpos⟩ := I.held hi hb
  have hne : x ≠ x.other := (Side.other_ne x).symm
  have hused : s'.used x = s.used x := by
    rw [h.commit]
    simp [TcpConn.used, TcpConn.commit, Function.update_of_ne hne]
  have hsent : s'.sent x = s.sent x := by
    rw [h.commit]
    exact Function.update_of_ne hne ..
  refine ⟨O.una, ?_, by rw [hsent]; exact O.behind⟩
  rw [hused]
  rcases h.rcv I I' with hsame | ⟨h0, h1⟩ | ⟨p, hp, hc, hseq, hnxt⟩
  · rw [hsame]
    exact O.edge
  · -- the SYN was outstanding, and nothing else has been used
    right
    have hstart : (tcpFields b).seqNum.toNat = 0 := by
      rcases O.edge with hedge | hedge
      · rw [← hedge, h0]
      · rw [h0] at hedge
        omega
    have hspan := (((I.seqInv.side x).tcb i hi).tracked k b hb).1.seg.span_le hstart
    omega
  · right
    rw [Side.other_other] at hp
    have hpos' := hc.span_pos
    rcases O.behind p hp hc with hle | heq
    · rcases O.edge with hedge | hedge
      · omega
      · omega
    · rw [hnxt, heq, hend]

/-- What was outstanding still is. -/
theorem Lockstep.kept (L : Lockstep addr s) (I' : StreamInv addr s')
    (h : TcpConnMove s env x c more fin s') (hi : ((s.table x).tcbs i).IsConn)
    (hb : (((s.table x).tcbs i).sendq.entries k).pkt = some b)
    (hi' : ((s'.table x).tcbs i).IsConn)
    (hb' : (((s'.table x).tcbs i).sendq.entries k).pkt = some b)
    (hout : ∀ p ∈ (tcpStepOut (s.table x) (env, c)).sent, (tcpFields p.data).Carries → p.data = b)
    (huna : ((s'.table x).tcbs i).sndUna <
      (((s'.table x).tcbs i).sendq.entries k).seqEnd) :
    Outstanding s' x ((s'.table x).tcbs i) k b := by
  have O := L.outstanding x i k b hi hb
  have hused : s'.used x = s.used x := (I'.held hi' hb').1.symm.trans (L.inv.held hi hb).1
  refine ⟨huna, ?_, fun p hp hc => ?_⟩
  · rw [h.rcv_other, hused]
    exact O.edge
  · rw [h.sent_self] at hp
    rcases List.mem_append.mp hp with hp | hp
    · exact O.behind p hp hc
    · exact .inr (hout p hp hc)

/-- The first segment of a connection. -/
theorem Outstanding.opened (I : StreamInv addr s) (I' : StreamInv addr s')
    (h : TcpConnMove s env x c more fin s') {tcb : Tcb}
    (htable : (s'.table x).tcbs = Function.update (s.table x).tcbs i tcb)
    (hfree : ((s.table x).tcbs i).valid = false) (hi : ((s'.table x).tcbs i).IsConn)
    (hb : (tcb.sendq.entries k).pkt = some b) {state : TcpState} {flags : UInt8} {syn : IpDatagram}
    (hok : TcpFlagsOk flags) (hopen : TcbOpened env tcb state flags syn)
    (hout : (tcpStepOut (s.table x) (env, c)).sent = [syn]) : Outstanding s' x tcb k b := by
  have htcb : (s'.table x).tcbs i = tcb := by rw [htable, Function.update_self]
  have hheld : (tcb.sendq.entries k).held = true := by rw [TcpSegment.held, hb]; rfl
  obtain rfl := hopen.tracks.pkt rfl hb
  have hseq : (tcpFields syn.data).seqNum = 0 := (tcpSendSegment_fields hok hopen.sent).1
  have hused : s'.used x = 1 := by
    rw [← I'.seqInv.sndNxt hi, htcb, hopen.sndNxt]
    rfl
  refine ⟨?_, ?_, fun p hp hc => ?_⟩
  · rw [hopen.tracks.entry k hheld, hopen.sndUna]
    exact (by decide : (0 : UInt32) < 1)
  · have hle := I'.seqInv.rcv_le_peer x
    rw [hused] at hle
    rw [hused, hseq, UInt32.toNat_zero]
    omega
  · rw [h.sent_self, hout] at hp
    rcases List.mem_append.mp hp with hp | hp
    · -- a side without a connection has nothing in the network that carries data
      obtain ⟨hopened, -⟩ := I.rcv_eq_zero (I'.none_before htable hfree hi)
      obtain ⟨-, hacc, hfin, -⟩ := (I.seqInv.side x).fresh hopened
      have hend : (tcpFields p.data).seqNum.toNat + (tcpFields p.data).span ≤
          1 + (s.accepted x).length + (s.closed x).toNat :=
        ((I.seqInv.sent x p hp).seg.seg.carries hc).2.1
      have hacc' : s.accepted x = [] := hacc
      have hfin' : s.closed x = false := hfin
      rw [hacc', hfin', List.length_nil, Bool.toNat_false] at hend
      have hpos := hc.span_pos
      rw [hseq, UInt32.toNat_zero]
      left
      rcases hc with hne | hf
      · obtain ⟨k', hk', -⟩ := (I.seqInv.sent x p hp).seg.seg.place hne
        omega
      · obtain ⟨-, hk'⟩ := (I.seqInv.sent x p hp).seg.seg.fin hf
        omega
    · rw [List.mem_singleton.mp hp]
      exact .inr rfl

/-- The next segment is sent when everything before it has arrived. -/
theorem Lockstep.sent (L : Lockstep addr s) (I' : StreamInv addr s')
    (h : TcpConnMove s env x c more fin s') (hi : ((s.table x).tcbs i).IsConn) {tcb : Tcb}
    (htcb : (s'.table x).tcbs i = tcb) (hi' : tcb.IsConn)
    (hb : (tcb.sendq.entries k).pkt = some b) {flags : UInt8} {payload : List UInt8}
    {span : UInt32} {pkt : IpDatagram} (hok : TcpFlagsOk flags)
    (hsent : TcbSent env ((s.table x).tcbs i) flags payload span tcb pkt)
    (hout : (tcpStepOut (s.table x) (env, c)).sent = [pkt]) : Outstanding s' x tcb k b := by
  have J := L.inv.seqInv
  have J' := I'.seqInv
  obtain rfl := hsent.tracks.pkt rfl hb
  have hempty : ((s.table x).tcbs i).sendq.held = 0 :=
    held_eq_zero.mpr (((L.inv.queues x).1 i).sendq.held_eq_false hsent.idle)
  have hsettled := L.inv.settled x i hi hempty
  have hseq : (tcpFields pkt.data).seqNum.toNat = s.used x := by
    rw [(tcpSendSegment_fields hok hsent.sent).1]
    exact J.sndNxt hi
  have hrcv : s.rcv x.other = s.used x := by
    have huna : ((s.table x).tcbs i).sndUna.toNat ≤ s.rcv x.other :=
      ((J.side x).tcb i hi).sndUna
    rw [hsettled, J.sndNxt hi] at huna
    exact Nat.le_antisymm (J.rcv_le_peer x) huna
  obtain ⟨sendq, ts, state, hsame⟩ := hsent.same
  refine ⟨?_, ?_, fun p hp hc => ?_⟩
  · have hi'' : ((s'.table x).tcbs i).IsConn := by rw [htcb]; exact hi'
    have hb' : (((s'.table x).tcbs i).sendq.entries k).pkt = some pkt.data := by
      rw [htcb]
      exact hb
    have hpos := (I'.held hi'' hb').2
    have hend := (((J'.side x).tcb i hi'').tracked k _ hb').2
    rw [htcb] at hend
    have huna : tcb.sndUna = ((s.table x).tcbs i).sndNxt := by rw [hsame]; exact hsettled
    rw [UInt32.lt_iff_toNat_lt, hend, huna, J.sndNxt hi]
    omega
  · rw [h.rcv_other, hrcv, hseq]
    exact .inl rfl
  · rw [h.sent_self, hout] at hp
    rcases List.mem_append.mp hp with hp | hp
    · left
      rw [hseq]
      exact ((J.sent x p hp).seg.seg.carries hc).2.1
    · rw [List.mem_singleton.mp hp]
      exact .inr rfl

theorem TcbSent.isConn {tcb₀ tcb : Tcb} {flags : UInt8} {payload : List UInt8} {span : UInt32}
    {pkt : IpDatagram} (h : TcbSent env tcb₀ flags payload span tcb pkt)
    (hst : tcb.state ≠ .listen) : tcb.IsConn := by
  obtain ⟨sendq, ts, state, hsame⟩ := h.same
  exact ⟨by rw [hsame]; exact h.valid, hst⟩

/-- A step of another slot sends nothing that carries data. -/
theorem Lockstep.silent (L : Lockstep addr s) (hi : ((s.table x).tcbs i).IsConn) {i' : TcbIndex}
    (hii : i' ≠ i) {tcb : Tcb} {out : TcpOut}
    (hstep : TcbStepped env i' ((s.table x).tcbs i') c tcb out) (hconn : ¬ tcb.IsConn)
    (hreceive : ∀ pkt, c = .call (.receive pkt) → ∀ p ∈ out.sent, ¬ (tcpFields p.data).Carries) :
    ∀ p ∈ out.sent, ¬ (tcpFields p.data).Carries := by
  intro p hp
  cases hstep with
  | listened | released => cases hp
  | connected _ hopen | child _ hopen => exact absurd ⟨hopen.valid, by simp [hopen.state]⟩ hconn
  | sent _ hst' hsent => exact absurd (hsent.isConn (by simp [hst'])) hconn
  | closed hst hsent =>
    refine absurd (hsent.isConn ?_) hconn
    rcases hst with ⟨-, hst⟩ | ⟨-, hst⟩ <;> rw [hst] <;> decide
  | received => exact hreceive _ rfl p hp
  | @resent k data hre =>
    have hidle : ¬ ((s.table x).tcbs i').IsConn := fun h =>
      hii ((L.inv.seqInv.side x).unique i' i h hi)
    have hnone := (L.inv.seqInv.side x).idle i' k hidle
    rw [hre.pkt] at hnone
    cases hnone

/-- The mover has at most one segment outstanding. -/
theorem Lockstep.outstanding_self (L : Lockstep addr s) (I' : StreamInv addr s')
    (h : TcpConnMove s env x c more fin s') (hi' : ((s'.table x).tcbs i).IsConn)
    (hb' : (((s'.table x).tcbs i).sendq.entries k).pkt = some b) :
    Outstanding s' x ((s'.table x).tcbs i) k b := by
  have hreceive : ∀ pkt, c = .call (.receive pkt) →
      ∀ p ∈ (tcpStepOut (s.table x) (env, c)).sent, ¬ (tcpFields p.data).Carries := by
    rintro pkt rfl p hp
    exact tcpReceive_not_carries hp
  -- the TCB of the connection is as before, and nothing carries data
  have hsame : (s'.table x).tcbs i = (s.table x).tcbs i →
      (∀ p ∈ (tcpStepOut (s.table x) (env, c)).sent, ¬ (tcpFields p.data).Carries) →
      Outstanding s' x ((s'.table x).tcbs i) k b := by
    intro htcb hnone
    have hi := hi'
    have hb := hb'
    rw [htcb] at hi hb
    refine L.kept I' h hi hb hi' hb' (fun p hp hc => absurd hc (hnone p hp)) ?_
    rw [htcb]
    exact (L.outstanding x i k b hi hb).una
  have hstepped := h.stepped (L.inv.queues x).1
  generalize hout : tcpStepOut (s.table x) (env, c) = out at hstepped hreceive hsame
  rcases hstepped.conn hi' fun j hj => (I'.seqInv.side x).unique j i hj hi' with
    ⟨htcb, hidle⟩ | ⟨htable, hstep⟩
  · refine hsame htcb ?_
    rcases hidle with rfl | ⟨j, tcb, hji, hidle, hstep⟩
    · exact fun p hp => absurd hp List.not_mem_nil
    · exact L.silent (htcb ▸ hi') hji hstep hidle hreceive
  obtain ⟨tcb, htcb⟩ : ∃ tcb, (s'.table x).tcbs i = tcb := ⟨_, rfl⟩
  rw [htcb] at htable hstep
  have hheld : (tcb.sendq.entries k).held = true := by
    rw [← htcb, TcpSegment.held, hb']
    rfl
  have hconn : tcb.IsConn := htcb ▸ hi'
  have hpkt : (tcb.sendq.entries k).pkt = some b := htcb ▸ hb'
  cases hstep with
  | listened _ hst => exact absurd hst hconn.2
  | connected hfree hopen =>
    rw [htcb]
    exact .opened L.inv I' h htable hfree hi' hpkt (by decide) hopen (by rw [hout])
  | child hfree hopen =>
    rw [htcb]
    exact .opened L.inv I' h htable hfree hi' hpkt (by decide) hopen (by rw [hout])
  | sent hst _ hsent =>
    rw [htcb]
    exact L.sent I' h ⟨hsent.valid, by simp [hst]⟩ htcb hconn hpkt (by decide) hsent (by rw [hout])
  | closed hst hsent =>
    rw [htcb]
    refine L.sent I' h ⟨hsent.valid, ?_⟩ htcb hconn hpkt (by decide) hsent (by rw [hout])
    rcases hst with ⟨hst, -⟩ | ⟨hst, -⟩ <;> rw [hst] <;> decide
  | received hv hst hr =>
    have hentry := hr.entry hheld
    have hb : (((s.table x).tcbs i).sendq.entries k).pkt = some b := by rw [← hentry, hpkt]
    refine L.kept I' h ⟨hv, hst⟩ hb hi' hb' (fun p hp hc => ?_) ?_
    · rw [hout] at hp
      exact absurd hc (hreceive _ rfl p hp)
    · rw [htcb]
      exact hr.una hheld (L.outstanding x i k b ⟨hv, hst⟩ hb).una
  | @resent k' data hre =>
    obtain rfl := Subsingleton.elim k' k
    have hresent := tcbResent_resentAt env ((s.table x).tcbs i) k'
    have hb : (((s.table x).tcbs i).sendq.entries k').pkt = some b := by
      rw [← hresent.pkt k', hpkt]
    obtain rfl : data = b := Option.some.inj (hre.pkt.symm.trans hb)
    refine L.kept I' h hconn hb hi' hb' (fun p hp _ => ?_) ?_
    · rw [hout] at hp
      rw [List.mem_singleton.mp hp]
      rfl
    · rw [htcb]
      obtain ⟨n, ts, hentry⟩ := hresent.entries k'
      rw [hentry]
      exact (L.outstanding x i k' data hconn hb).una
  | released => exact absurd hconn (not_isConn_of_invalid rfl)

theorem Lockstep.step (L : Lockstep addr s) {input : IpEnv × TcpConnInput}
    (h : TcpConnOrderly addr s input) : Lockstep addr (tcpConnStep addr s input) := by
  have I' := L.inv.step h
  obtain ⟨env, input⟩ := input
  refine ⟨I', fun x i k b hi hb => ?_⟩
  rcases tcpConnStep_moves addr (fun x => (L.inv.queues x).1) env input with
    hsame | ⟨y, c, more, fin, hmove⟩
  · rw [hsame] at hi hb ⊢
    exact L.outstanding x i k b hi hb
  · generalize tcpConnStep addr s (env, input) = s' at I' hi hb hmove ⊢
    by_cases hx : x = y
    · subst hx
      exact L.outstanding_self I' hmove hi hb
    · obtain rfl : y = x.other := Side.eq_other_of_ne (Ne.symm hx)
      rw [hmove.table_other hx] at hi hb ⊢
      exact (L.outstanding x i k b hi hb).peer L.inv I' hmove hi hb

end

theorem lockstep_init (addr : Side → TcpAddr) : Lockstep addr tcpConnInit where
  inv := streamInv_init addr
  outstanding _ _ _ _ hi := absurd hi (not_isConn_of_invalid rfl)

theorem lockstep_run {addr : Side → TcpAddr} {inputs : List (IpEnv × TcpConnInput)}
    (h : Guarded (tcpConnStep addr) (TcpConnOrderly addr) tcpConnInit inputs) :
    Lockstep addr (run (tcpConnStep addr) tcpConnInit inputs) :=
  guarded_invariant (Lockstep addr) (fun _ _ hg L => L.step hg) inputs tcpConnInit h
    (lockstep_init addr)

/-! ## A retransmission and its ACK -/

section
variable {addr : Side → TcpAddr} {s : TcpConn} {x : Side} {i j : TcbIndex} {env : IpEnv}

/-- A step that accepts and closes nothing and leaves the side its connection. -/
theorem StreamInv.orderly (I : StreamInv addr s) {input : IpEnv × TcpConnInput} {table : TcpTable}
    {out : TcpOut} (hstep : tcpConnStep addr s input = s.commit x table out [] false)
    (hsafe : TcpConnSafe addr s input) (hconn : table.hasConn = true) :
    TcpConnOrderly addr s input := by
  refine ⟨hsafe, fun y hopened => ?_, fun y => ?_⟩
  · rw [hstep] at hopened ⊢
    by_cases hy : y = x
    · subst hy
      simpa [TcpConn.commit] using hconn
    · simp only [TcpConn.commit, Function.update_of_ne hy] at hopened ⊢
      exact I.seqInv.alive y hopened
  · have hused : (tcpConnStep addr s input).used y = s.used y := by
      rw [hstep]
      by_cases hy : y = x
      · subst hy
        simp [TcpConn.used, TcpConn.commit]
      · simp [TcpConn.used, TcpConn.commit]
    rw [hused]
    exact I.seqInv.bound y

theorem TcpTable.hasConn_set {table : TcpTable} {tcb : Tcb} (h : tcb.IsConn) :
    (table.set i tcb).hasConn = true :=
  TcpTable.hasConn_eq_true.mpr ⟨i, by rw [TcpTable.set_self]; exact h⟩

/-- `TCP_ESTABLISHED` answers data with an ACK of what it has then. -/
theorem tcpReceiveEstablished_data {table : TcpTable} {hdr : TcpFields}
    (hst : (table.tcbs j).state = .established) (hok : env.ipOk = true) (hne : hdr.payload ≠ []) :
    ∃ tcb ack out, tcpReceiveEstablished env table j hdr = (table.set j tcb, 0, out) ∧
      out.sent = [ack] ∧ tcpSendAck env tcb = some ack ∧
      tcb.valid = (table.tcbs j).valid ∧ tcb.state = .established ∧
      tcb.recvHandler = (table.tcbs j).recvHandler ∧
      tcb.rcvNxt = if hdr.seqNum = (table.tcbs j).rcvNxt
        then (table.tcbs j).rcvNxt + UInt32.ofNat hdr.payload.length
        else (table.tcbs j).rcvNxt := by
  have hrcv := tcpEstablishedAck_rcvNxt (table.tcbs j) hdr
  have hst' := (tcpEstablishedAck_state (table.tcbs j) hdr).trans hst
  have hvalid := tcpEstablishedAck_valid (table.tcbs j) hdr
  have hhandler : (tcpEstablishedAck (table.tcbs j) hdr).recvHandler =
      (table.tcbs j).recvHandler := by
    unfold tcpEstablishedAck
    split_ifs <;> rfl
  unfold tcpReceiveEstablished
  dsimp only
  rw [if_pos (List.length_pos_iff.mpr hne), hrcv]
  by_cases hseq : hdr.seqNum = (table.tcbs j).rcvNxt
  · rw [if_pos hseq]
    split
    · rename_i hnone
      exact absurd (tcpSendAck_eq_none hnone) (by rw [hok]; decide)
    · rename_i ack hack
      refine ⟨_, ack, _, rfl, rfl, hack, hvalid, hst', hhandler, ?_⟩
      rw [if_pos hseq]
  · rw [if_neg hseq]
    split
    · rename_i hnone
      exact absurd (tcpSendAck_eq_none hnone) (by rw [hok]; decide)
    · rename_i ack hack
      refine ⟨_, ack, _, rfl, rfl, hack, hvalid, hst', hhandler, ?_⟩
      rw [if_neg hseq, hrcv]

theorem Tcb.ackedBy_state (tcb : Tcb) (hdr : TcpFields) : (tcb.ackedBy hdr).state = tcb.state :=
  rfl

/-- An ACK leaves the connection what it is. -/
theorem Tcb.IsConn.ackedBy {tcb : Tcb} (h : tcb.IsConn) (hdr : TcpFields) :
    (tcb.ackedBy hdr).IsConn := ⟨h.1, h.2⟩

/-- A new ACK without payload in `TCP_ESTABLISHED`. -/
theorem tcpReceiveEstablished_ack {table : TcpTable} {hdr : TcpFields}
    (hflags : hdr.flags = tcpFlagAck) (hpayload : hdr.payload = [])
    (hgt : (table.tcbs i).sndUna < hdr.ackNum) (hle : hdr.ackNum ≤ (table.tcbs i).sndNxt) :
    tcpReceiveEstablished env table i hdr = (table.set i ((table.tcbs i).ackedBy hdr), 0, {}) := by
  have hack : tcpEstablishedAck (table.tcbs i) hdr = (table.tcbs i).ackedBy hdr := by
    unfold tcpEstablishedAck
    rw [if_pos ⟨by rw [hflags]; decide, hgt, hle⟩]
    rfl
  have hfin : hdr.flags &&& tcpFlagFin = 0 := by
    rw [hflags]
    decide
  unfold tcpReceiveEstablished
  dsimp only
  rw [if_neg (by rw [hpayload]; decide), if_neg fun h => h.1 hfin, if_pos hfin, hack]

/-- A segment for the TCB of the connection is safe where its ACK would not fail. -/
theorem StreamInv.deliver_safe (I : StreamInv addr s) {k : ℕ} {p : IpDatagram}
    (hj : ((s.table x).tcbs j).IsConn) (hp : (s.sent x.other)[k]? = some p)
    (hok : env.ipOk = true) : TcpConnSafe addr s (env, .deliver x k) := by
  intro p' hp'
  obtain rfl := Option.some.inj (hp.symm.trans hp')
  refine ⟨fun _ => hok, fun hopens => ?_⟩
  have hseg := I.seqInv.sent x.other p (List.mem_of_getElem? hp)
  have hfind := (I.seqInv.side x).findExact hj
  have hnone := hopens.1
  rw [hseg.dstIp, hseg.srcIp, hseg.seg.srcPort, hseg.seg.dstPort] at hnone
  have hself : (s.seqView addr s.rcv x.other).peer = (s.seqView addr s.rcv x).self := by
    simp [TcpConn.seqView]
  rw [hself] at hnone
  have hfalse := hfind.symm.trans hnone
  cases hfalse

/-- The network hands over a segment for the TCB of the connection. -/
theorem StreamInv.deliver_eq (I : StreamInv addr s) {k : ℕ} {p : IpDatagram}
    (hj : ((s.table x).tcbs j).IsConn) (hp : (s.sent x.other)[k]? = some p) :
    tcpConnStep addr s (env, .deliver x k) =
      s.commit x (tcpReceiveState env (s.table x) j (tcpFields p.data)).1
        (tcpReceiveState env (s.table x) j (tcpFields p.data)).2.2 [] false := by
  have hseg := I.seqInv.sent x.other p (List.mem_of_getElem? hp)
  have heq : tcpReceive env (s.table x) p =
      tcpReceiveState env (s.table x) j (tcpFields p.data) :=
    tcpReceive_eq_receiveState (w := s.seqView addr s.rcv x.other) (I.seqInv.side x) hj rfl
      (by simp [TcpConn.seqView]) hseg
  simp only [tcpConnStep, hp]
  rw [heq]

/-- The retransmission of what is outstanding. -/
theorem StreamInv.retransmit_eq (I : StreamInv addr s) (hi : ((s.table x).tcbs i).IsConn)
    {k : Fin tcpMaxInflight} {b : List UInt8}
    (hb : (((s.table x).tcbs i).sendq.entries k).pkt = some b) (hok : env.ipOk = true) :
    tcpConnStep addr s (env, .retransmit x i) =
      s.commit x ((s.table x).set i (((s.table x).tcbs i).resentAt env k))
        { sent := [((s.table x).tcbs i).datagram b], events := tcpTimer env true i } [] false := by
  have hheld : (((s.table x).tcbs i).sendq.entries k).held = true := by
    rw [TcpSegment.held, hb]
    rfl
  have hacked := ((I.queues x).1 i).sendq.unacked k hheld
  simp only [tcpConnStep, tcpRetransmitHandler_resends ⟨hi.1, hb, hacked, hok⟩]

/-- The outstanding data reaches the peer: afterwards the peer has everything sent, and its
    ACK says so. -/
theorem Lockstep.data_taken (L : Lockstep addr s) (hi : ((s.table x).tcbs i).IsConn)
    {k : Fin tcpMaxInflight} {b : List UInt8}
    (hb : (((s.table x).tcbs i).sendq.entries k).pkt = some b) (hne : (tcpFields b).payload ≠ [])
    (hj : ((s.table x.other).tcbs j).IsConn)
    (hst : ((s.table x.other).tcbs j).state = .established) {n : ℕ} {p : IpDatagram}
    (hn : (s.sent x)[n]? = some p) (hp : p.data = b) (hok : env.ipOk = true) :
    TcpConnOrderly addr s (env, .deliver x.other n) ∧ ∃ tcb ack out,
      tcpConnStep addr s (env, .deliver x.other n) =
        s.commit x.other ((s.table x.other).set j tcb) out [] false ∧
      tcb.IsConn ∧ tcb.recvHandler = ((s.table x.other).tcbs j).recvHandler ∧
      out.sent = [ack] ∧ (tcpFields ack.data).flags = tcpFlagAck ∧
      (tcpFields ack.data).payload = [] ∧ (tcpFields ack.data).ackNum.toNat = s.used x := by
  have hn' : (s.sent x.other.other)[n]? = some p := by rwa [Side.other_other]
  obtain ⟨hend, -⟩ := L.inv.held hi hb
  have hbound := L.inv.seqInv.bound x
  have hlen : (tcpFields b).span = (tcpFields b).payload.length := by
    rcases ((((L.inv.seqInv.side x).tcb i hi).tracked k b hb).1.seg.carries (.inl hne)).2.2 with
      ⟨-, -, hspan⟩ | ⟨hnil, -⟩
    · exact hspan
    · exact absurd hnil hne
  have hrcv := L.inv.seqInv.rcvNxt hj
  have hstep : tcpConnStep addr s (env, .deliver x.other n) =
      s.commit x.other (tcpReceiveState env (s.table x.other) j (tcpFields p.data)).1
        (tcpReceiveState env (s.table x.other) j (tcpFields p.data)).2.2 [] false :=
    L.inv.deliver_eq hj hn'
  have hstate : tcpReceiveState env (s.table x.other) j (tcpFields p.data) =
      tcpReceiveEstablished env (s.table x.other) j (tcpFields b) := by
    unfold tcpReceiveState
    rw [hst, hp]
  obtain ⟨tcb, ack, out, hrecv, hsent, hack, hvalid, hst', hhandler, hnxt⟩ :=
    tcpReceiveEstablished_data hst hok hne
  rw [hstate, hrecv] at hstep
  have hconn : tcb.IsConn := ⟨by rw [hvalid]; exact hj.1, by rw [hst']; decide⟩
  refine ⟨L.inv.orderly hstep (L.inv.deliver_safe hj hn' hok) (TcpTable.hasConn_set hconn), tcb,
    ack, out, hstep, hconn, hhandler, hsent, ?_⟩
  obtain ⟨-, rfl⟩ := tcpSendSegment_eq_some hack
  rw [tcpFields_tcpSegmentBytes _ _ _ _ (by decide) (by decide)]
  refine ⟨rfl, rfl, ?_⟩
  show tcb.rcvNxt.toNat = s.used x
  rw [hnxt]
  by_cases hseq : (tcpFields b).seqNum = ((s.table x.other).tcbs j).rcvNxt
  · rw [if_pos hseq, ← hseq, UInt32.toNat_add, UInt32.toNat_ofNat', ← hend, hlen]
    rw [hlen] at hend
    omega
  · rw [if_neg hseq, hrcv]
    rcases (L.outstanding x i k b hi hb).edge with hedge | hedge
    · exact absurd (UInt32.toNat_inj.mp (by rw [hrcv, hedge])) hseq
    · exact hedge

/-- The ACK of everything sent reaches the sender. -/
theorem Lockstep.ack_taken (L : Lockstep addr s) (hi : ((s.table x).tcbs i).IsConn)
    (hst : ((s.table x).tcbs i).state = .established) {k : Fin tcpMaxInflight} {b : List UInt8}
    (hb : (((s.table x).tcbs i).sendq.entries k).pkt = some b) {n : ℕ} {p : IpDatagram}
    (hn : (s.sent x.other)[n]? = some p) (hflags : (tcpFields p.data).flags = tcpFlagAck)
    (hpayload : (tcpFields p.data).payload = [])
    (hnum : (tcpFields p.data).ackNum.toNat = s.used x) (hok : env.ipOk = true) :
    TcpConnOrderly addr s (env, .deliver x n) ∧ ∃ tcb,
      tcpConnStep addr s (env, .deliver x n) = s.commit x ((s.table x).set i tcb) {} [] false ∧
      tcb.IsConn ∧ tcb.state = .established ∧ tcb.sendq.held = 0 := by
  have hheld : (((s.table x).tcbs i).sendq.entries k).held = true := by
    rw [TcpSegment.held, hb]
    rfl
  have hends := (L.inv.queues x).2 i
  have hack : (tcpFields p.data).ackNum = ((s.table x).tcbs i).sndNxt :=
    UInt32.toNat_inj.mp (hnum.trans (L.inv.seqInv.sndNxt hi).symm)
  have hgt : ((s.table x).tcbs i).sndUna < (tcpFields p.data).ackNum := by
    have hend : (((s.table x).tcbs i).sendq.entries k).seqEnd = ((s.table x).tcbs i).sndNxt :=
      hends k hheld
    rw [hack, ← hend]
    exact (L.outstanding x i k b hi hb).una
  have hle : (tcpFields p.data).ackNum ≤ ((s.table x).tcbs i).sndNxt := by
    rw [hack]
    exact UInt32.le_refl _
  have hstep : tcpConnStep addr s (env, .deliver x n) =
      s.commit x (tcpReceiveState env (s.table x) i (tcpFields p.data)).1
        (tcpReceiveState env (s.table x) i (tcpFields p.data)).2.2 [] false :=
    L.inv.deliver_eq hi hn
  have hstate : tcpReceiveState env (s.table x) i (tcpFields p.data) =
      tcpReceiveEstablished env (s.table x) i (tcpFields p.data) := by
    unfold tcpReceiveState
    rw [hst]
  rw [hstate, tcpReceiveEstablished_ack hflags hpayload hgt hle] at hstep
  have hconn : (((s.table x).tcbs i).ackedBy (tcpFields p.data)).IsConn := hi.ackedBy _
  exact ⟨L.inv.orderly hstep (L.inv.deliver_safe hi hn hok) (TcpTable.hasConn_set hconn), _, hstep,
    hconn, (Tcb.ackedBy_state _ _).trans hst, hends.held_ackedBy hack⟩

end

/-! ## Results -/

/-- Whatever was lost, duplicated or reordered before: between two TCBs in
    `TCP_ESTABLISHED`, the retransmission of the outstanding data and the ACK that it draws
    hand over everything accepted so far and leave the queue empty, and the run may go on. -/
theorem tcpConn_recovers (addr : Side → TcpAddr) (inputs : List (IpEnv × TcpConnInput))
    (h : Guarded (tcpConnStep addr) (TcpConnOrderly addr) tcpConnInit inputs)
    (x : Side) (i j : TcbIndex) (env₁ env₂ env₃ : IpEnv) :
    let s := run (tcpConnStep addr) tcpConnInit inputs
    let sender := (s.table x).tcbs i
    let receiver := (s.table x.other).tcbs j
    let repair := [(env₁, TcpConnInput.retransmit x i),
      (env₂, .deliver x.other (s.sent x).length), (env₃, .deliver x (s.sent x.other).length)]
    let s' := run (tcpConnStep addr) tcpConnInit (inputs ++ repair)
    sender.IsConn → sender.state = .established → tcpSendqHasUnacked sender = true →
    receiver.IsConn → receiver.state = .established →
    env₁.ipOk = true → env₂.ipOk = true → env₃.ipOk = true →
      Guarded (tcpConnStep addr) (TcpConnOrderly addr) tcpConnInit (inputs ++ repair) ∧
      ((s'.table x).tcbs i).state = .established ∧
      tcpSendqHasUnacked ((s'.table x).tcbs i) = false ∧ s'.accepted x = s.accepted x ∧
      (receiver.recvHandler.isSome = true → s'.delivered x.other = s.accepted x) := by
  intro s sender receiver repair s' hi hst hbusy hj hstj hok₁ hok₂ hok₃
  have L : Lockstep addr s := lockstep_run h
  have hne : x ≠ x.other := (Side.other_ne x).symm
  obtain ⟨k, hk⟩ := Option.isSome_iff_exists.mp hbusy
  obtain ⟨hk, -⟩ := Fin.find?_eq_some_iff.mp hk
  simp only [Bool.and_eq_true] at hk
  obtain ⟨b, hb⟩ := Option.isSome_iff_exists.mp hk.1
  have hdata : (tcpFields b).payload ≠ [] := by
    have hshape := ((L.inv.queues x).1 i).shape hi.1
    rw [show ((s.table x).tcbs i).state = _ from hst] at hshape
    obtain ⟨-, b', hb', -, hp⟩ := hshape.2 k hk.1
    rwa [Option.some.inj (hb.symm.trans hb')]
  -- the segment goes out again
  have hstep₁ := L.inv.retransmit_eq hi hb hok₁
  set tcb₁ := sender.resentAt env₁ k with htcb₁
  have hconn₁ : tcb₁.IsConn := hi
  have hord₁ : TcpConnOrderly addr s (env₁, .retransmit x i) :=
    L.inv.orderly hstep₁ trivial (TcpTable.hasConn_set hconn₁)
  have L₁ := L.step hord₁
  generalize hs₁ : tcpConnStep addr s (env₁, .retransmit x i) = s₁ at hstep₁ L₁
  have hself₁ : (s₁.table x).tcbs i = tcb₁ := by simp [hstep₁, TcpConn.commit]
  have hother₁ : s₁.table x.other = s.table x.other := by
    simp [hstep₁, TcpConn.commit, Function.update_of_ne (Side.other_ne x)]
  have hb₁ : (((s₁.table x).tcbs i).sendq.entries k).pkt = some b := by
    rw [hself₁, htcb₁, (tcbResent_resentAt env₁ sender k).pkt k]
    exact hb
  have hn₁ : (s₁.sent x)[(s.sent x).length]? = some (sender.datagram b) := by
    simp [hstep₁, TcpConn.commit, sender]
  -- the peer takes it
  obtain ⟨hord₂, tcb₂, ack, out, hstep₂, hconn₂, hhandler, hout, hflags, hpayload, hnum⟩ :=
    L₁.data_taken (hself₁ ▸ hconn₁) hb₁ hdata (by rw [hother₁]; exact hj)
      (by rw [hother₁]; exact hstj) hn₁ rfl hok₂
  have L₂ := L₁.step hord₂
  generalize hs₂ : tcpConnStep addr s₁ (env₂, .deliver x.other (s.sent x).length) = s₂
    at hstep₂ L₂
  have hself₂ : s₂.table x = s₁.table x := by
    simp [hstep₂, TcpConn.commit, Function.update_of_ne hne]
  have hn₂ : (s₂.sent x.other)[(s.sent x.other).length]? = some ack := by
    have hsent₁ : s₁.sent x.other = s.sent x.other := by
      simp [hstep₁, TcpConn.commit, Function.update_of_ne (Side.other_ne x)]
    simp [hstep₂, TcpConn.commit, hout, hsent₁]
  have hused₂ : s₂.used x = s₁.used x := by
    simp [hstep₂, TcpConn.used, TcpConn.commit]
  -- its ACK arrives
  obtain ⟨hord₃, tcb₃, hstep₃, hconn₃, hst₃, hheld₃⟩ :=
    L₂.ack_taken (by rw [hself₂, hself₁]; exact hconn₁) (by rw [hself₂, hself₁]; exact hst)
      (by rw [hself₂]; exact hb₁) hn₂ hflags hpayload (by rw [hused₂]; exact hnum) hok₃
  have hs₃ : s' = tcpConnStep addr s₂ (env₃, .deliver x (s.sent x.other).length) := by
    show run (tcpConnStep addr) tcpConnInit (inputs ++ repair) = _
    rw [run_append, ← hs₂, ← hs₁]
    rfl
  have hguard : Guarded (tcpConnStep addr) (TcpConnOrderly addr) tcpConnInit
      (inputs ++ repair) := by
    refine (guarded_append inputs repair tcpConnInit).mpr ⟨h, hord₁, ?_⟩
    rw [show tcpConnStep addr s (env₁, .retransmit x i) = s₁ from hs₁]
    refine ⟨hord₂, ?_⟩
    rw [hs₂]
    exact ⟨hord₃, trivial⟩
  have I' : StreamInv addr s' := streamInv_run hguard
  rw [hstep₃] at hs₃
  have hself₃ : (s'.table x).tcbs i = tcb₃ := by simp [hs₃, TcpConn.commit]
  have hother₃ : (s'.table x.other).tcbs j = tcb₂ := by
    simp [hs₃, hstep₂, TcpConn.commit, Function.update_of_ne (Side.other_ne x)]
  have hacc : s'.accepted x = s.accepted x := by
    simp [hs₃, hstep₂, hstep₁, TcpConn.commit]
  refine ⟨hguard, by rw [hself₃]; exact hst₃, ?_, hacc, fun hsome => ?_⟩
  · rw [hself₃]
    exact tcpSendqHasUnacked_eq_false hheld₃
  · have hacked := (I'.acked (hself₃.symm ▸ hconn₃) (hother₃.symm ▸ hconn₂)
      (by rw [hself₃]; exact hheld₃)).2
    rw [← hacc]
    refine hacked ?_
    rw [hother₃, hhandler, hother₁]
    exact hsome

/-- The ACK of the byte 97 is lost; the byte is sent again and the next ACK arrives. -/
theorem tcpConn_recovers_exampleRun :
    let s := run (tcpConnStep exampleAddr) tcpConnInit exampleRun
    let repair := [lossless (.retransmit .a (0 : TcbIndex)),
      lossless (.deliver Side.a.other (s.sent .a).length),
      lossless (.deliver .a (s.sent Side.a.other).length)]
    let s' := run (tcpConnStep exampleAddr) tcpConnInit (exampleRun ++ repair)
    Guarded (tcpConnStep exampleAddr) (TcpConnOrderly exampleAddr) tcpConnInit
        (exampleRun ++ repair) ∧
      ((s'.table .a).tcbs (0 : TcbIndex)).state = .established ∧
      tcpSendqHasUnacked ((s'.table .a).tcbs (0 : TcbIndex)) = false ∧
      s'.accepted .a = s.accepted .a ∧
      (((s.table Side.a.other).tcbs (1 : TcbIndex)).recvHandler.isSome = true →
        s'.delivered Side.a.other = s.accepted .a) := by
  dsimp only [lossless]
  exact tcpConn_recovers exampleAddr exampleRun (by decide +kernel) .a 0 1 {} {} {}
    (by decide +kernel) (by decide +kernel) (by decide +kernel) (by decide +kernel)
    (by decide +kernel) rfl rfl rfl

end FrameRunner
