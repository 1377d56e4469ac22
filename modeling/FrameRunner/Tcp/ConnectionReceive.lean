import FrameRunner.Tcp.ConnectionStep

/-!
# A segment keeps an endpoint sound

`tcp_receive`, one lemma for each state of the TCB that the segment finds: data
in order moves `rcv_nxt` and `delivered` together, and no other segment moves
either, except a FIN that moves `rcv_nxt` past the end.
-/

namespace FrameRunner

open FrameRunner.Lib

variable {v : TcpView} {opened : Bool} {table table' : TcpTable} {env : IpEnv} {i : TcbIndex}
  {hdr : TcpFields} {res : Int} {out : TcpOut}

/-! ## Acknowledgements -/

/-- In the other states only the send queue counts. -/
theorem TcbOk.of_sendq {tcb : Tcb} (h : SendqOk tcb)
    (hst : tcb.state ∉ [.synSent, .synReceived, .established, .closeWait]) : TcbOk v tcb := by
  simp only [List.mem_cons, List.not_mem_nil, or_false, not_or] at hst
  obtain ⟨h1, h2, h3, h4⟩ := hst
  exact ⟨h, fun h => absurd h (by simp [h1, h2]), fun h => absurd h h2,
    fun h => absurd h (by simp [h3, h4]), fun h => absurd h h3⟩

theorem received_connectUpcall (sent : List IpDatagram) (events : List TcpEvent) (tcb : Tcb) :
    TcpOut.received { sent := sent, events := events, upcalls := tcpConnectUpcall i tcb } = [] := by
  cases h : tcb.connectHandler <;> simp [TcpOut.received, tcpConnectUpcall, h]

theorem received_recvUpcall (sent : List IpDatagram) (payload : List UInt8)
    (handler : Option AppRef) :
    TcpOut.received { sent := sent, upcalls := handler.toList.map (TcpUpcall.recv i payload) } =
      if handler.isSome then payload else [] := by
  cases handler <;> simp [TcpOut.received]

/-- What the closing states do with an ACK. -/
theorem ackTcb_spec (tcb : Tcb) (hdr : TcpFields) :
    (tcpSendqAck { tcb with sndUna := hdr.ackNum } hdr.ackNum).sendq =
        (tcpSendqAck tcb hdr.ackNum).sendq ∧
      (tcpSendqAck { tcb with sndUna := hdr.ackNum } hdr.ackNum).state = tcb.state :=
  ⟨tcpSendqAck_sendq rfl _, rfl⟩

/-- The TCB of the connection after an ACK, in a state that does not look at the streams. -/
theorem SideOk.ackClosing (I : SideOk v opened table.tcbs) (hi : (table.tcbs i).IsConn)
    (tcb : Tcb) {ack : UInt32} (hq : tcb.sendq = (tcpSendqAck (table.tcbs i) ack).sendq)
    (hst : tcb.state ∉ [.synSent, .synReceived, .established, .closeWait])
    (htable : table'.tcbs = Function.update table.tcbs i tcb) {events : List TcpEvent} :
    SideStep v opened table' { events := events } [] false :=
  I.connQuiet hi tcb htable (.of_sendq (((I.tcb i hi).sendq.ack ack).of_sendq_eq hq) hst)
    (fun k _ hb => ⟨k, (tcpSendqAck_pkt (hq ▸ hb) :)⟩) rfl fun _ h => nomatch h

/-! ## The handshake -/

/-- The handshake ends. -/
theorem TcbOk.establish {tcb tcb' : Tcb} (h : TcbOk v tcb)
    (hst : tcb.state = .synSent ∨ tcb.state = .synReceived) (hst' : tcb'.state = .established)
    (hq : SendqOk tcb') (hsnd : tcb'.sndNxt = 1) (hrcv : tcb'.rcvNxt = 1) : TcbOk v tcb' := by
  obtain ⟨-, hacc, hdel, hfin⟩ := h.handshake hst
  refine ⟨hq, by simp [hst'], by simp [hst'], fun _ => ⟨by simp [hsnd, hacc], hfin⟩, fun _ => ?_⟩
  exact ⟨0, Nat.zero_le _, fun _ => by rw [hdel, List.take_zero], fun _ => hdel,
    .inl (by simp [hrcv])⟩

theorem SideOk.receiveSynSent (I : SideOk v opened table.tcbs) (hi : (table.tcbs i).IsConn)
    (hst : (table.tcbs i).state = .synSent) (hseg : SegOk v.peerAcc v.peerFin hdr)
    (h : tcpReceiveSynSent env table i hdr = (table', res, out)) :
    SideStep v opened table' out [] false := by
  unfold tcpReceiveSynSent at h
  dsimp only at h
  split at h
  · rename_i hsyn
    have hseq := hseg.syn hsyn.1
    have htcb := I.tcb i hi
    have hnxt := (htcb.handshake (.inl hst)).1
    have hq : SendqOk (tcpSendqAck (table.tcbs i) hdr.ackNum) := htcb.sendq.ack _
    rw [hseq, show (0 : UInt32) + 1 = 1 by decide] at h
    have htcb' : TcbOk v { tcpSendqAck { table.tcbs i with
          rcvNxt := 1, sndUna := hdr.ackNum }
        hdr.ackNum with state := .established } :=
      htcb.establish (.inl hst) rfl (hq.of_sendq_eq (tcpSendqAck_sendq rfl _))
        hnxt rfl
    split at h
    · cases h
      exact I.connQuiet hi _ rfl htcb' (fun k b hb => ⟨k, (tcpSendqAck_pkt hb :)⟩) rfl
        fun _ h => nomatch h
    · rename_i ack hack
      cases h
      exact I.connQuiet hi _ rfl htcb' (fun k b hb => ⟨k, (tcpSendqAck_pkt hb :)⟩)
        (received_connectUpcall _ _ _) (by simpa using segOk_ack hack)
  · cases h
    exact I.unchanged

theorem SideOk.receiveSynReceived (I : SideOk v opened table.tcbs) (hi : (table.tcbs i).IsConn)
    (hst : (table.tcbs i).state = .synReceived)
    (h : tcpReceiveSynReceived table i hdr = (table', res, out)) :
    SideStep v opened table' out [] false := by
  unfold tcpReceiveSynReceived at h
  dsimp only at h
  split at h
  · have htcb := I.tcb i hi
    have hq : SendqOk (tcpSendqAck (table.tcbs i) hdr.ackNum) := htcb.sendq.ack _
    have htcb' : TcbOk v { tcpSendqAck { table.tcbs i with sndUna := hdr.ackNum }
        hdr.ackNum with state := .established } :=
      htcb.establish (.inr hst) rfl (hq.of_sendq_eq (tcpSendqAck_sendq rfl _))
        (htcb.handshake (.inr hst)).1 (htcb.synReceived hst)
    cases h
    exact I.connQuiet hi _ rfl htcb' (fun k b hb => ⟨k, (tcpSendqAck_pkt hb :)⟩)
      (received_connectUpcall _ _ _) fun _ h => nomatch h
  · cases h
    exact I.unchanged

/-! ## Data -/

/-- The ACK part of `TCP_ESTABLISHED`. -/
theorem tcpEstablishedAck_ok {tcb : Tcb} (htcb : TcbOk v tcb) :
    TcbOk v (tcpEstablishedAck tcb hdr) ∧
      (tcpEstablishedAck tcb hdr).state = tcb.state ∧
      (tcpEstablishedAck tcb hdr).rcvNxt = tcb.rcvNxt ∧
      ∀ k b, ((tcpEstablishedAck tcb hdr).sendq.entries k).pkt = some b →
        (tcb.sendq.entries k).pkt = some b := by
  unfold tcpEstablishedAck
  split_ifs
  · exact ⟨⟨(htcb.sendq.ack hdr.ackNum).of_sendq_eq rfl, htcb.handshake, htcb.synReceived,
      htcb.sending, htcb.receiving⟩, rfl, rfl, fun k b hb => tcpSendqAck_pkt hb⟩
  · exact ⟨htcb, rfl, rfl, fun _ _ hb => hb⟩

/-- Data at `rcv_nxt` is what comes next in the peer's stream. -/
theorem RcvOk.data {tcb : Tcb} (h : RcvOk v tcb) (hbound : 1 + v.peerAcc.length < 2 ^ 32)
    (hseg : SegOk v.peerAcc v.peerFin hdr) (hne : hdr.payload ≠ [])
    (hseq : hdr.seqNum = tcb.rcvNxt) :
    let received := if tcb.recvHandler.isSome then hdr.payload else []
    RcvOk { v with delivered := v.delivered ++ received }
      { tcb with rcvNxt := tcb.rcvNxt + UInt32.ofNat hdr.payload.length } ∧
    v.delivered ++ received <+: v.peerAcc := by
  obtain ⟨n, hn, hsome, hnone, hnxt⟩ := h
  obtain ⟨k, hk, hle, hpay⟩ := hseg.place hne
  have hlen : 0 < hdr.payload.length := List.length_pos_iff.mpr hne
  rw [hseq] at hk
  have hkn : k = n := by
    rcases hnxt with h1 | ⟨-, hend, h1⟩
    · omega
    · rw [h1, UInt32.toNat_ofNat'] at hk
      omega
  subst hkn
  have htake : v.peerAcc.take (k + hdr.payload.length) =
      v.peerAcc.take k ++ hdr.payload := by
    rw [List.take_add, ← hpay]
  have hnxt' : (tcb.rcvNxt + UInt32.ofNat hdr.payload.length).toNat =
      1 + (k + hdr.payload.length) := by
    rw [UInt32.toNat_add, UInt32.toNat_ofNat', hk]
    omega
  dsimp only
  cases hh : tcb.recvHandler with
  | some f =>
    have hdel := hsome (by rw [hh]; rfl)
    simp only [Option.isSome_some, if_true]
    refine ⟨⟨k + hdr.payload.length, hle, fun _ => ?_, fun h => ?_, .inl hnxt'⟩, ?_⟩
    · rw [htake, hdel]
    · nomatch h
    · rw [hdel, ← htake]
      exact List.take_prefix _ _
  | none =>
    have hdel := hnone hh
    simp only [Option.isSome_none, Bool.false_eq_true, if_false, List.append_nil, hdel]
    exact ⟨⟨k + hdr.payload.length, hle, (fun h => nomatch h), fun _ => rfl, .inl hnxt'⟩,
      List.nil_prefix⟩

/-- A FIN at `rcv_nxt` comes after the whole stream. -/
theorem RcvOk.fin {tcb : Tcb} (h : RcvOk v tcb) (hseg : SegOk v.peerAcc v.peerFin hdr)
    (hfin : hdr.flags &&& tcpFlagFin ≠ 0)
    (hseq : hdr.seqNum = tcb.rcvNxt) :
    RcvOk v { tcb with rcvNxt := hdr.seqNum + 1 } := by
  obtain ⟨n, hn, hsome, hnone, hnxt⟩ := h
  obtain ⟨hpf, hk⟩ := hseg.fin hfin
  have hn' : n = v.peerAcc.length := by
    rcases hnxt with h1 | ⟨-, hend, -⟩
    · rw [hseq] at hk
      omega
    · exact hend
  refine ⟨n, hn, hsome, hnone, .inr ⟨hpf, hn', ?_⟩⟩
  apply UInt32.toNat_inj.mp
  rw [UInt32.toNat_add, hk, UInt32.toNat_ofNat', hn']
  change (1 + v.peerAcc.length + 1) % 2 ^ 32 = _
  congr 1
  omega

theorem SideOk.receiveEstablished (I : SideOk v opened table.tcbs) (hi : (table.tcbs i).IsConn)
    (hst : (table.tcbs i).state = .established) (hbound : 1 + v.peerAcc.length < 2 ^ 32)
    (hseg : SegOk v.peerAcc v.peerFin hdr)
    (hsafe : hdr.payload ≠ [] → hdr.seqNum = (table.tcbs i).rcvNxt → env.ipOk = true)
    (h : tcpReceiveEstablished env table i hdr = (table', res, out)) :
    SideStep v opened table' out [] false := by
  obtain ⟨htcb, hst', hnxt, hpkt⟩ : TcbOk v (tcpEstablishedAck (table.tcbs i) hdr) ∧ _ ∧ _ ∧ _ :=
    tcpEstablishedAck_ok (I.tcb i hi)
  have htracked : ∀ k b, ((tcpEstablishedAck (table.tcbs i) hdr).sendq.entries k).pkt = some b →
      ∃ k, ((table.tcbs i).sendq.entries k).pkt = some b := fun k b hb => ⟨k, hpkt k b hb⟩
  unfold tcpReceiveEstablished at h
  rw [← hnxt] at hsafe
  rw [hst] at hst'
  generalize tcpEstablishedAck (table.tcbs i) hdr = tcb at h htcb hst' hsafe htracked
  have hrcv := htcb.receiving hst'
  dsimp only at h
  split at h
  · rename_i hlen
    have hne : hdr.payload ≠ [] := List.length_pos_iff.mp hlen
    split at h
    · rename_i hseq
      obtain ⟨hrcv', hpre⟩ := hrcv.data hbound hseg hne hseq
      split at h
      · rename_i hfail
        exact absurd (hsafe hne hseq) (by simp [tcpSendAck_eq_none hfail])
      · rename_i ack hack
        cases h
        have htcb' : TcbOk
            { v with delivered := v.delivered ++ if tcb.recvHandler.isSome then hdr.payload else [] }
            { tcb with rcvNxt := tcb.rcvNxt + UInt32.ofNat hdr.payload.length } :=
          ⟨htcb.sendq.of_sendq_eq rfl, fun h => absurd h (by simp [hst']),
            fun h => absurd h (by simp [hst']), htcb.sending, fun _ => hrcv'⟩
        refine I.connRecv hi { tcb with rcvNxt := tcb.rcvNxt + UInt32.ofNat hdr.payload.length } rfl
          ?_ ?_ htracked (by simpa using segOk_ack hack)
        · rw [received_recvUpcall]
          exact hpre
        · rw [received_recvUpcall]
          exact htcb'
    · split at h
      · cases h
        exact I.connQuiet hi _ rfl htcb htracked rfl fun _ h => nomatch h
      · rename_i ack hack
        cases h
        exact I.connQuiet hi _ rfl htcb htracked rfl (by simpa using segOk_ack hack)
  · split at h
    · rename_i hfin
      have hrcv' := hrcv.fin hseg hfin.1 hfin.2
      have hopen : TcbOk v { tcb with rcvNxt := hdr.seqNum + 1 } :=
        ⟨htcb.sendq.of_sendq_eq rfl, htcb.handshake, fun h => absurd h (by simp [hst']),
          htcb.sending, fun _ => hrcv'⟩
      have hclosed : TcbOk v { tcb with rcvNxt := hdr.seqNum + 1, state := .closeWait } :=
        ⟨htcb.sendq.of_sendq_eq rfl, (fun h => absurd h (by simp)), (fun h => nomatch h),
          fun _ => htcb.sending (.inl hst'), fun h => nomatch h⟩
      split at h
      · cases h
        exact I.connQuiet hi { tcb with rcvNxt := hdr.seqNum + 1 } rfl hopen htracked rfl
          fun _ h => nomatch h
      · rename_i ack hack
        cases h
        exact I.connQuiet hi { tcb with rcvNxt := hdr.seqNum + 1, state := .closeWait } rfl hclosed
          htracked rfl (by simpa using segOk_ack hack)
    · split at h
      · cases h
        exact I.connQuiet hi _ rfl htcb htracked rfl fun _ h => nomatch h
      · cases h
        exact I.connQuiet hi _ rfl htcb htracked rfl fun _ h => nomatch h

/-! ## Closing -/

theorem SideOk.receiveFinWait1 (I : SideOk v opened table.tcbs) (hi : (table.tcbs i).IsConn)
    (hst : (table.tcbs i).state = .finWait1)
    (h : tcpReceiveFinWait1 table i hdr = (table', res, out)) :
    SideStep v opened table' out [] false := by
  unfold tcpReceiveFinWait1 at h
  dsimp only at h
  split at h
  · obtain ⟨hq, hst'⟩ := ackTcb_spec (table.tcbs i) hdr
    generalize tcpSendqAck { table.tcbs i with sndUna := hdr.ackNum } hdr.ackNum = tcb at h hq hst'
    rw [hst] at hst'
    cases h
    split
    · exact I.ackClosing hi { tcb with state := .finWait2 } hq (by simp) rfl
    · exact I.ackClosing hi tcb hq (by simp [hst']) rfl
  · cases h
    exact I.unchanged

theorem SideOk.receiveFinWait2 (I : SideOk v opened table.tcbs) (hi : (table.tcbs i).IsConn)
    (hst : (table.tcbs i).state = .finWait2)
    (h : tcpReceiveFinWait2 env table i hdr = (table', res, out)) :
    SideStep v opened table' out [] false := by
  unfold tcpReceiveFinWait2 at h
  dsimp only at h
  split at h
  · have hq : SendqOk (table.tcbs i) := (I.tcb i hi).sendq
    split at h
    · cases h
      exact I.connQuiet hi { table.tcbs i with rcvNxt := hdr.seqNum + 1 } rfl
        (.of_sendq (hq.of_sendq_eq rfl) (by simp [hst])) (fun k b hb => ⟨k, hb⟩) rfl
        fun _ h => nomatch h
    · rename_i ack hack
      cases h
      exact I.connQuiet hi { table.tcbs i with rcvNxt := hdr.seqNum + 1, state := .timeWait } rfl
        (.of_sendq (hq.of_sendq_eq rfl) (by simp)) (fun k b hb => ⟨k, hb⟩) rfl
        (by simpa using segOk_ack hack)
  · cases h
    exact I.unchanged

theorem SideOk.receiveClosing (I : SideOk v opened table.tcbs) (hi : (table.tcbs i).IsConn)
    (hst : (table.tcbs i).state = .closing)
    (h : tcpReceiveClosing env table i hdr = (table', res, out)) :
    SideStep v opened table' out [] false := by
  unfold tcpReceiveClosing at h
  dsimp only at h
  split at h
  · obtain ⟨hq, hst'⟩ := ackTcb_spec (table.tcbs i) hdr
    generalize tcpSendqAck { table.tcbs i with sndUna := hdr.ackNum } hdr.ackNum = tcb at h hq hst'
    rw [hst] at hst'
    split at h
    · cases h
      exact I.ackClosing hi { tcb with state := .timeWait } hq (by simp) rfl
    · cases h
      exact I.ackClosing hi tcb hq (by simp [hst']) rfl
  · cases h
    exact I.unchanged

theorem SideOk.receiveLastAck (I : SideOk v opened table.tcbs) (hi : (table.tcbs i).IsConn)
    (hst : (table.tcbs i).state = .lastAck)
    (h : tcpReceiveLastAck table i hdr = (table', res, out)) :
    SideStep v opened table' out [] false := by
  unfold tcpReceiveLastAck at h
  dsimp only at h
  split at h
  · obtain ⟨hq, hst'⟩ := ackTcb_spec (table.tcbs i) hdr
    generalize tcpSendqAck { table.tcbs i with sndUna := hdr.ackNum } hdr.ackNum = tcb at h hq hst'
    rw [hst] at hst'
    split at h
    · cases h
      refine SideOk.unchanged ?_
      simp only [tcpReleaseTcb, TcpTable.set, Function.update_idem]
      exact I.release hi
    · cases h
      exact I.ackClosing hi tcb hq (by simp [hst']) rfl
  · cases h
    exact I.unchanged

/-! ## A listener -/

theorem SideOk.receiveListen (I : SideOk v opened table.tcbs) {listener : TcbIndex}
    {pkt : IpDatagram} (hsyn : hdr.flags = tcpFlagSyn) (hseg : SegOk v.peerAcc v.peerFin hdr)
    (hsafe : env.ipOk = true → opened = false)
    (h : tcpReceiveListen env table listener pkt hdr = (table', res, out)) :
    SideStep v opened table' out [] false := by
  have hseq : hdr.seqNum = 0 := hseg.syn (by rw [hsyn]; decide)
  rcases tcpReceiveListen_cases h with ⟨hun, rfl⟩ |
    ⟨i, tcb, synAck, -, htable, rfl, hopen, -, hnxt, -⟩
  · exact (I.unopened hun).quiet rfl (by simp)
  · obtain rfl := hsafe (tcpSendSegment_fields (by decide) hopen.sent).2.2.2
    obtain ⟨-, hacc, hdel, hfin⟩ := I.fresh rfl
    refine I.openConn htable ⟨hopen.valid, by simp [hopen.state]⟩ ?_
      (hopen.segOk (by decide) (by decide)) (fun k b hb => hopen.tracks.pkt rfl hb)
      rfl (by simp)
    exact ⟨hopen.sendq, fun _ => ⟨hopen.sndNxt, hacc, hdel, hfin⟩, fun _ => by rw [hnxt, hseq]; rfl,
      by simp [hopen.state], by simp [hopen.state]⟩

/-! ## Any segment -/

theorem SideOk.receiveState (I : SideOk v opened table.tcbs) (hi : (table.tcbs i).IsConn)
    (hbound : 1 + v.peerAcc.length < 2 ^ 32) (hseg : SegOk v.peerAcc v.peerFin hdr)
    (hsafe : (table.tcbs i).state = .established → hdr.payload ≠ [] →
      hdr.seqNum = (table.tcbs i).rcvNxt → env.ipOk = true)
    (h : tcpReceiveState env table i hdr = (table', res, out)) :
    SideStep v opened table' out [] false := by
  unfold tcpReceiveState at h
  split at h
  case h_1 hst => exact I.receiveSynSent hi hst hseg h
  case h_2 hst => exact I.receiveSynReceived hi hst h
  case h_3 hst => exact I.receiveEstablished hi hst hbound hseg (hsafe hst) h
  case h_4 hst => exact I.receiveFinWait1 hi hst h
  case h_5 hst => exact I.receiveFinWait2 hi hst h
  case h_6 hst => exact I.receiveClosing hi hst h
  case h_7 hst => exact I.receiveLastAck hi hst h
  all_goals
    cases h
    exact I.unchanged

theorem SideOk.receive (I : SideOk v opened table.tcbs) {pkt : IpDatagram}
    (hbound : 1 + v.peerAcc.length < 2 ^ 32)
    (hseg : SegOk v.peerAcc v.peerFin (tcpFields pkt.data))
    (hnext : TcpNextData table pkt → env.ipOk = true)
    (hopens : TcpOpens table pkt → env.ipOk = true → opened = false)
    (h : tcpReceive env table pkt = (table', res, out)) :
    SideStep v opened table' out [] false := by
  unfold tcpReceive at h
  dsimp only at h
  split at h
  · cases h; exact I.unchanged
  split at h
  · cases h; exact I.unchanged
  split at h
  · cases h; exact I.unchanged
  split at h
  · rename_i i hfind
    exact I.receiveState (tcpFindExact_isConn hfind) hbound hseg
      (fun hst hne hseq => hnext ⟨i, hfind, hst, hne, hseq⟩) h
  · rename_i hfind
    split at h
    · rename_i hsyn
      split at h
      · rename_i listener hlisten
        exact I.receiveListen hsyn hseg (hopens ⟨hfind, hsyn, by rw [hlisten]; rfl⟩) h
      · cases h
        exact I.unchanged
    · cases h
      exact I.unchanged

end FrameRunner
