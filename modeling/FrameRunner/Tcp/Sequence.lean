import FrameRunner.Tcp.ConnectionStep

/-!
# Sequence numbers of a connection

Two endpoints whose connection is never released. `rcv_nxt` of each side is kept
as a number that only grows: it bounds the ACK field of every segment the side
has sent, also of those still in the network, and is itself bounded by the
sequence numbers that the peer has used. `TcbSeq` says what a TCB makes of these
numbers; there is one lemma for each call, and none of them assumes that a local
send succeeds.
-/

namespace FrameRunner

open FrameRunner.Lib

/-! ## Views -/

/-- One endpoint seen by its sequence numbers. -/
structure SeqView where
  self : TcpAddr
  peer : TcpAddr
  acc : List UInt8
  fin : Bool
  /-- `rcv_nxt` of the TCB, 0 before there is one -/
  rcv : ℕ

/-- The sequence numbers used: those of the SYN, the bytes accepted and the FIN. -/
def SeqView.used (v : SeqView) : ℕ := 1 + v.acc.length + v.fin.toNat

/-- The endpoint later. -/
structure SeqView.Le (v v' : SeqView) : Prop where
  self : v'.self = v.self
  peer : v'.peer = v.peer
  grows : Grows v.acc v.fin v'.acc v'.fin
  rcv : v.rcv ≤ v'.rcv

theorem SeqView.Le.refl (v : SeqView) : v.Le v := ⟨rfl, rfl, Grows.refl _ _, le_rfl⟩

/-- The sequence numbers that a segment takes up. -/
def TcpFields.span (hdr : TcpFields) : ℕ :=
  hdr.payload.length + (if hdr.flags &&& tcpFlagSyn ≠ 0 then 1 else 0) +
    if hdr.flags &&& tcpFlagFin ≠ 0 then 1 else 0

/-! ## Segments -/

/-- A segment of the endpoint, wherever it is by now. -/
structure SegSeq (v : SeqView) (b : List UInt8) : Prop where
  length : tcpHdrLen ≤ b.length
  hdrWords : (tcpFields b).hdrWords = tcpHdrWords
  srcPort : (tcpFields b).srcPort = v.self.port
  dstPort : (tcpFields b).dstPort = v.peer.port
  seg : SegOk v.acc v.fin (tcpFields b)
  ack : (tcpFields b).flags &&& tcpFlagAck ≠ 0 → (tcpFields b).ackNum.toNat ≤ v.rcv

/-- A datagram of the endpoint. -/
structure DatagramSeq (v : SeqView) (p : IpDatagram) : Prop where
  srcIp : p.srcIp = v.self.ip
  dstIp : p.dstIp = v.peer.ip
  protocol : p.protocol = ipProtoTcp
  seg : SegSeq v p.data

theorem SegSeq.mono {v v' : SeqView} {b : List UInt8} (h : SegSeq v b) (hle : v.Le v') :
    SegSeq v' b where
  length := h.length
  hdrWords := h.hdrWords
  srcPort := h.srcPort.trans (by rw [hle.self])
  dstPort := h.dstPort.trans (by rw [hle.peer])
  seg := h.seg.mono hle.grows
  ack hack := (h.ack hack).trans hle.rcv

theorem DatagramSeq.mono {v v' : SeqView} {p : IpDatagram} (h : DatagramSeq v p)
    (hle : v.Le v') : DatagramSeq v' p where
  srcIp := h.srcIp.trans (by rw [hle.self])
  dstIp := h.dstIp.trans (by rw [hle.peer])
  protocol := h.protocol
  seg := h.seg.mono hle

/-- A segment with data or a FIN. -/
def TcpFields.Carries (hdr : TcpFields) : Prop :=
  hdr.payload ≠ [] ∨ hdr.flags &&& tcpFlagFin ≠ 0

instance (hdr : TcpFields) : Decidable hdr.Carries := inferInstanceAs (Decidable (_ ∨ _))

/-- A segment carries data or a FIN, and never both or a SYN. -/
theorem SegOk.carries {acc : List UInt8} {fin : Bool} {hdr : TcpFields} (h : SegOk acc fin hdr)
    (hc : hdr.Carries) :
    hdr.flags &&& tcpFlagSyn = 0 ∧ hdr.seqNum.toNat + hdr.span ≤ 1 + acc.length + fin.toNat ∧
      (hdr.payload ≠ [] ∧ hdr.flags &&& tcpFlagFin = 0 ∧ hdr.span = hdr.payload.length ∨
        hdr.payload = [] ∧ hdr.flags &&& tcpFlagFin ≠ 0 ∧ hdr.span = 1) := by
  have hsyn : hdr.flags &&& tcpFlagSyn = 0 := by
    by_contra hs
    have h0 := h.syn hs
    rcases hc with hp | hf
    · obtain ⟨k, hk, -⟩ := h.place hp
      rw [h0] at hk
      simp at hk
      omega
    · obtain ⟨-, hk⟩ := h.fin hf
      rw [h0] at hk
      simp at hk
      omega
  refine ⟨hsyn, ?_⟩
  unfold TcpFields.span
  by_cases hp : hdr.payload = []
  · have hf : hdr.flags &&& tcpFlagFin ≠ 0 := hc.resolve_left (not_not.mpr hp)
    obtain ⟨hfin, hk⟩ := h.fin hf
    simp only [hp, hsyn, hf, hfin, List.length_nil, ne_eq, not_true_eq_false, not_false_eq_true,
      if_true, if_false, Bool.toNat_true]
    exact ⟨by omega, .inr ⟨trivial, trivial, trivial⟩⟩
  · obtain ⟨k, hk, hle, -⟩ := h.place hp
    have hlen : 0 < hdr.payload.length := List.length_pos_iff.mpr hp
    have hf : hdr.flags &&& tcpFlagFin = 0 := by
      by_contra hf
      obtain ⟨-, hk'⟩ := h.fin hf
      omega
    simp only [hp, hsyn, hf, ne_eq, not_true_eq_false, not_false_eq_true, if_false]
    exact ⟨by omega, .inl ⟨trivial, trivial, rfl⟩⟩

/-- What `tcp_send_segment` sends for a TCB with the addresses of the endpoint. -/
theorem datagramSeq_of_sent {v : SeqView} {env : IpEnv} {tcb : Tcb} {seq ack : UInt32}
    {flags : UInt8} {payload : List UInt8} {p : IpDatagram}
    (haddr : TcbAddressed tcb v.self.ip v.self.port v.peer.ip v.peer.port)
    (hok : TcpFlagsOk flags) (h : tcpSendSegment env tcb seq ack flags payload = some p)
    (hseg : SegOk v.acc v.fin (tcpFields p.data))
    (hack : flags &&& tcpFlagAck ≠ 0 → ack.toNat ≤ v.rcv) : DatagramSeq v p := by
  obtain ⟨-, rfl⟩ := tcpSendSegment_eq_some h
  have hf := tcpFields_tcpSegmentBytes tcb.localPort tcb.remotePort seq ack hok.1 hok.2 payload
  refine ⟨haddr.localIp, haddr.remoteIp, rfl, ?_, ?_, ?_, ?_, hseg, ?_⟩
  · dsimp only
    rw [length_tcpSegmentBytes]
    omega
  · dsimp only
    rw [hf]
  · dsimp only
    rw [hf]
    exact haddr.localPort
  · dsimp only
    rw [hf]
    exact haddr.remotePort
  · dsimp only
    rw [hf]
    exact hack

/-! ## Endpoints -/

/-- The TCB of the connection; `peerRcv` is the peer's `rcv_nxt`. -/
structure TcbSeq (v : SeqView) (peerRcv : ℕ) (tcb : Tcb) : Prop where
  valid : tcb.valid = true
  addr : TcbAddressed tcb v.self.ip v.self.port v.peer.ip v.peer.port
  sendq : SendqOk tcb
  tracked : ∀ k b, (tcb.sendq.entries k).pkt = some b → SegSeq v b ∧
    (tcb.sendq.entries k).seqEnd.toNat = (tcpFields b).seqNum.toNat + (tcpFields b).span
  state : tcb.state ∉ [.closed, .listen, .closing]
  unclosed : tcb.state ∈ [.synSent, .synReceived, .established, .closeWait] → v.fin = false
  synSent : tcb.state = .synSent → v.rcv = 0
  sndUna : tcb.sndUna.toNat ≤ peerRcv
  sndNxt : tcb.sndNxt.toNat = v.used
  rcvNxt : tcb.rcvNxt.toNat = v.rcv

/-- A whole table. -/
structure SideSeq (v : SeqView) (peerRcv : ℕ) (opened : Bool) (tcbs : Slots tcpMaxConns Tcb) :
    Prop where
  tcb : ∀ i, (tcbs i).IsConn → TcbSeq v peerRcv (tcbs i)
  idle : ∀ i k, ¬ (tcbs i).IsConn → ((tcbs i).sendq.entries k).pkt = none
  unique : ∀ i j, (tcbs i).IsConn → (tcbs j).IsConn → i = j
  fresh : opened = false → (∀ i, ¬ (tcbs i).IsConn) ∧ v.acc = [] ∧ v.fin = false ∧ v.rcv = 0

theorem TcbSeq.isConn {v : SeqView} {peerRcv : ℕ} {tcb : Tcb} (h : TcbSeq v peerRcv tcb) :
    tcb.IsConn :=
  ⟨h.valid, fun hst => h.state (by rw [hst]; decide)⟩

theorem SideSeq.opened_of_conn {v : SeqView} {peerRcv : ℕ} {opened : Bool}
    {tcbs : Slots tcpMaxConns Tcb} (I : SideSeq v peerRcv opened tcbs) {i : TcbIndex}
    (hi : (tcbs i).IsConn) : opened = true := by
  cases opened with
  | true => rfl
  | false => exact absurd hi ((I.fresh rfl).1 i)

/-- The peer receives more. -/
theorem SideSeq.peer {v : SeqView} {peerRcv peerRcv' : ℕ} {opened : Bool}
    {tcbs : Slots tcpMaxConns Tcb} (I : SideSeq v peerRcv opened tcbs) (h : peerRcv ≤ peerRcv') :
    SideSeq v peerRcv' opened tcbs :=
  { I with tcb := fun i hi => { I.tcb i hi with sndUna := (I.tcb i hi).sndUna.trans h } }

theorem SideSeq.or_opened {v : SeqView} {peerRcv : ℕ} {opened : Bool}
    {tcbs : Slots tcpMaxConns Tcb} (I : SideSeq v peerRcv opened tcbs) (b : Bool) :
    SideSeq v peerRcv (opened || b) tcbs :=
  { I with fresh := fun h => I.fresh (Bool.or_eq_false_iff.mp h).1 }

/-- A slot that is no connection and does not become one. -/
theorem SideSeq.setIdle {v : SeqView} {peerRcv : ℕ} {opened : Bool}
    {tcbs : Slots tcpMaxConns Tcb} (I : SideSeq v peerRcv opened tcbs) {i : TcbIndex} {tcb : Tcb}
    (htcb : ¬ tcb.IsConn) (hempty : ∀ k, (tcb.sendq.entries k).pkt = none) :
    SideSeq v peerRcv opened (Function.update tcbs i tcb) := by
  have hconn : ∀ j, (Function.update tcbs i tcb j).IsConn →
      (tcbs j).IsConn ∧ Function.update tcbs i tcb j = tcbs j :=
    fun _ => SideOk.isConn_update_idle htcb
  refine ⟨fun j hj => ?_, fun j k hj => ?_,
    fun j k hj hk => I.unique j k (hconn j hj).1 (hconn k hk).1,
    fun h => ⟨fun j hj => (I.fresh h).1 j (hconn j hj).1, (I.fresh h).2⟩⟩
  · rw [(hconn j hj).2]
    exact I.tcb j (hconn j hj).1
  · by_cases hji : j = i
    · rw [hji, Function.update_self]
      exact hempty k
    · rw [Function.update_of_ne hji] at hj ⊢
      exact I.idle j k hj

/-- The only connection, old or new, with new numbers. -/
theorem SideSeq.setConn {v v' : SeqView} {peerRcv : ℕ} {opened : Bool}
    {tcbs : Slots tcpMaxConns Tcb} (I : SideSeq v peerRcv opened tcbs) {i : TcbIndex} {tcb : Tcb}
    (honly : ∀ j, (tcbs j).IsConn → j = i) (htcb : tcb.IsConn → TcbSeq v' peerRcv tcb)
    (hempty : ¬ tcb.IsConn → ∀ k, (tcb.sendq.entries k).pkt = none) :
    SideSeq v' peerRcv true (Function.update tcbs i tcb) := by
  have hconn : ∀ j, (Function.update tcbs i tcb j).IsConn → j = i :=
    fun _ => SideOk.isConn_update_only honly
  refine ⟨fun j hj => ?_, fun j k hj => ?_,
    fun j k hj hk => (hconn j hj).trans (hconn k hk).symm, fun h => nomatch h⟩
  · obtain rfl := hconn j hj
    rw [Function.update_self] at hj ⊢
    exact htcb hj
  · by_cases hji : j = i
    · rw [hji, Function.update_self] at hj ⊢
      exact hempty hj k
    · rw [Function.update_of_ne hji] at hj ⊢
      exact I.idle j k hj

/-- A call takes the endpoint from `v` to `v'`. -/
structure SeqStep (v v' : SeqView) (peerRcv : ℕ) (opened : Bool) (table : TcpTable)
    (out : TcpOut) : Prop where
  le : v.Le v'
  side : SideSeq v' peerRcv (opened || table.hasConn) table.tcbs
  sent : ∀ p ∈ out.sent, DatagramSeq v' p

/-! ## The calls -/

section

variable {v : SeqView} {peerRcv : ℕ} {opened : Bool} {table table' : TcpTable} {env : IpEnv}
  {i : TcbIndex} {tcb : Tcb} {out : TcpOut}

/-- A call that sends nothing and keeps the numbers. -/
theorem SideSeq.quiet (I : SideSeq v peerRcv opened table.tcbs) (hsent : out.sent = []) :
    SeqStep v v peerRcv opened table out :=
  ⟨.refl v, I.or_opened _, by simp [hsent]⟩

theorem SideSeq.unopened (I : SideSeq v peerRcv opened table.tcbs)
    (h : TcpUnopened table table') : SideSeq v peerRcv opened table'.tcbs := by
  rcases h with h | ⟨i, -, h⟩ <;> rw [h]
  · exact I
  · exact I.setIdle (not_isConn_of_invalid rfl) fun _ => rfl

theorem SideSeq.listen (I : SideSeq v peerRcv opened table.tcbs) (localIp : UInt32)
    (localPort : UInt16) (recvFn connectFn ctx : Option AppRef) :
    SeqStep v v peerRcv opened (tcpListen table localIp localPort recvFn connectFn ctx).1 {} := by
  refine SideSeq.quiet ?_ rfl
  rcases tcpListen_cases table localIp localPort recvFn connectFn ctx with
    h | ⟨i, tcb, -, hst, hq, h⟩ <;> rw [h]
  · exact I
  · exact I.setIdle (fun h => h.2 hst) fun _ => by rw [hq]

/-- The connection is found by its addresses. -/
theorem SideSeq.findExact (I : SideSeq v peerRcv opened table.tcbs)
    (hi : (table.tcbs i).IsConn) :
    tcpFindExact table v.self.ip v.self.port v.peer.ip v.peer.port = some i := by
  cases hfind : tcpFindExact table v.self.ip v.self.port v.peer.ip v.peer.port with
  | some j => rw [I.unique j i (tcpFindExact_isConn hfind) hi]
  | none =>
    have haddr := (I.tcb i hi).addr
    have hst : ((table.tcbs i).state != .listen) = true := by simpa using hi.2
    have hnot := Fin.find?_eq_none_iff.mp hfind i
    simp [hi.1, hst, haddr.localIp, haddr.localPort, haddr.remoteIp, haddr.remotePort] at hnot

theorem SideSeq.opened_eq_false (I : SideSeq v peerRcv opened table.tcbs)
    (halive : opened = true → table.hasConn = true)
    (hfind : tcpFindExact table v.self.ip v.self.port v.peer.ip v.peer.port = none) :
    opened = false := by
  by_contra ho
  obtain ⟨i, hi⟩ := TcpTable.hasConn_eq_true.mp (halive (by simpa using ho))
  rw [I.findExact hi] at hfind
  nomatch hfind

/-- The numbers of a connection just opened. -/
theorem TcbOpened.tcbSeq {state : TcpState} {flags : UInt8} {syn : IpDatagram}
    (hopen : TcbOpened env tcb state flags syn)
    (haddr : TcbAddressed tcb v.self.ip v.self.port v.peer.ip v.peer.port)
    (hstate : state = .synSent ∧ tcb.rcvNxt = 0 ∧ flags = tcpFlagSyn ∨
      state = .synReceived ∧ flags = tcpFlagSyn ||| tcpFlagAck)
    (hacc : v.acc = []) (hfin : v.fin = false) (hrcv : tcb.rcvNxt.toNat = v.rcv) :
    TcbSeq v peerRcv tcb ∧ DatagramSeq v syn := by
  have hflags : TcpFlagsOk flags ∧ flags &&& tcpFlagFin = 0 ∧ flags &&& tcpFlagSyn ≠ 0 := by
    rcases hstate with ⟨-, -, rfl⟩ | ⟨-, rfl⟩ <;> decide
  have hseg : DatagramSeq v syn :=
    datagramSeq_of_sent haddr hflags.1 hopen.sent
      (segOk_control hflags.1 (fun _ => rfl) hflags.2.1 hopen.sent) (fun _ => hrcv.le)
  obtain ⟨hseq, hf, hp, -⟩ := tcpSendSegment_fields hflags.1 hopen.sent
  refine ⟨⟨hopen.valid, haddr, hopen.sendq, fun k b hb => ?_, ?_, fun _ => hfin, fun hst => ?_,
    ?_, ?_, hrcv⟩, hseg⟩
  · have hheld : (tcb.sendq.entries k).held = true := by rw [TcpSegment.held, hb]; rfl
    obtain rfl := hopen.tracks.pkt rfl hb
    refine ⟨hseg.seg, ?_⟩
    rw [hopen.tracks.entry k hheld, hseq, TcpFields.span, hf, hp, if_pos hflags.2.2,
      if_neg (not_not.mpr hflags.2.1)]
    rfl
  · rw [hopen.state]
    rcases hstate with ⟨rfl, -⟩ | ⟨rfl, -⟩ <;> decide
  · rw [hopen.state] at hst
    rcases hstate with ⟨-, h0, -⟩ | ⟨h, -⟩
    · rw [← hrcv, h0]
      rfl
    · exact absurd (h.symm.trans hst) (by decide)
  · rw [hopen.sndUna]
    exact Nat.zero_le _
  · rw [hopen.sndNxt, SeqView.used, hacc, hfin]
    rfl

/-- A connection opens; its `rcv_nxt` may already be known. -/
theorem SideSeq.openConn (I : SideSeq v peerRcv false table.tcbs) {state : TcpState}
    {flags : UInt8} {syn : IpDatagram} (hopen : TcbOpened env tcb state flags syn)
    (haddr : TcbAddressed tcb v.self.ip v.self.port v.peer.ip v.peer.port)
    (hstate : state = .synSent ∧ tcb.rcvNxt = 0 ∧ flags = tcpFlagSyn ∨
      state = .synReceived ∧ flags = tcpFlagSyn ||| tcpFlagAck)
    (htable : table'.tcbs = Function.update table.tcbs i tcb) (hsent : out.sent = [syn]) :
    SeqStep v { v with rcv := tcb.rcvNxt.toNat } peerRcv false table' out := by
  obtain ⟨hnone, hacc, hfin, hrcv⟩ := I.fresh rfl
  have hle : v.Le { v with rcv := tcb.rcvNxt.toNat } :=
    ⟨rfl, rfl, Grows.refl _ _, by rw [hrcv]; exact Nat.zero_le _⟩
  have hh : ∀ q, TcbSeq { v with rcv := tcb.rcvNxt.toNat } q tcb ∧
      DatagramSeq { v with rcv := tcb.rcvNxt.toNat } syn :=
    fun q => hopen.tcbSeq haddr hstate hacc hfin rfl
  have hhas : table'.hasConn = true := TcpTable.hasConn_eq_true.mpr
    ⟨i, by rw [htable, Function.update_self]; exact (hh peerRcv).1.isConn⟩
  refine ⟨hle, ?_, by simpa [hsent] using (hh peerRcv).2⟩
  rw [hhas, Bool.or_true, htable]
  exact I.setConn (fun j hj => absurd hj (hnone j)) (fun _ => (hh peerRcv).1)
    fun h => absurd (hh peerRcv).1.isConn h

/-- The TCB of the connection changes. -/
theorem SideSeq.conn (I : SideSeq v peerRcv opened table.tcbs) (hi : (table.tcbs i).IsConn)
    {v' : SeqView} (hle : v.Le v') (htable : table'.tcbs = Function.update table.tcbs i tcb)
    (htcb : TcbSeq v' peerRcv tcb) (hsent : ∀ p ∈ out.sent, DatagramSeq v' p) :
    SeqStep v v' peerRcv opened table' out := by
  refine ⟨hle, ?_, hsent⟩
  rw [I.opened_of_conn hi, Bool.true_or, htable]
  exact I.setConn (fun j hj => I.unique j i hj hi) (fun _ => htcb)
    fun h => absurd htcb.isConn h

/-- The connection is released. -/
theorem SideSeq.release (I : SideSeq v peerRcv opened table.tcbs) (hi : (table.tcbs i).IsConn)
    (htable : table'.tcbs = Function.update table.tcbs i {}) (hsent : out.sent = []) :
    SeqStep v v peerRcv opened table' out := by
  refine ⟨.refl v, ?_, by simp [hsent]⟩
  rw [I.opened_of_conn hi, Bool.true_or, htable]
  exact I.setConn (fun j hj => I.unique j i hj hi) (fun h => absurd h (not_isConn_of_invalid rfl))
    fun _ _ => rfl

theorem SideSeq.connect (I : SideSeq v peerRcv opened table.tcbs)
    (halive : opened = true → table.hasConn = true) {recvFn connectFn ctx : Option AppRef}
    {res : Option TcbIndex}
    (h : tcpConnect env table v.self.ip v.peer.ip v.self.port v.peer.port recvFn connectFn ctx =
      (table', res, out)) : SeqStep v v peerRcv opened table' out := by
  rcases tcpConnect_cases h with ⟨hun, rfl⟩ |
    ⟨i, tcb, syn, hfind, -, htable, hout, hopen, -, hrcv, haddr⟩
  · exact (I.unopened hun).quiet rfl
  · obtain rfl := I.opened_eq_false halive hfind
    have hstep := I.openConn hopen haddr (.inl ⟨rfl, hrcv, rfl⟩) htable
      (congrArg TcpOut.sent hout)
    have hv : { v with rcv := tcb.rcvNxt.toNat } = v := by
      rw [hrcv, UInt32.toNat_zero, ← (I.fresh rfl).2.2.2]
    rwa [hv] at hstep

/-- A segment has been sent and tracked: data, or the FIN. -/
theorem SideSeq.sent (I : SideSeq v peerRcv opened table.tcbs) {flags : UInt8}
    {payload : List UInt8} (more : List UInt8) (fin : Bool) {span : UInt32} {pkt : IpDatagram}
    (hi : (table.tcbs i).IsConn) (hsent : TcbSent env (table.tcbs i) flags payload span tcb pkt)
    (htable : table'.tcbs = Function.update table.tcbs i tcb) (hout : out.sent = [pkt])
    (hok : TcpFlagsOk flags)
    (hfin : v.fin = false)
    (hseg : SegOk (v.acc ++ more) fin (tcpFields pkt.data))
    (hspan : span.toNat = (tcpFields pkt.data).span ∧
      (tcpFields pkt.data).span = more.length + fin.toNat)
    (hbound : 1 + (v.acc ++ more).length + fin.toNat < 2 ^ 32)
    (hst : tcb.state ∉ [.closed, .listen, .closing, .synSent])
    (hst' : tcb.state ∈ [.synSent, .synReceived, .established, .closeWait] → fin = false) :
    SeqStep v { v with acc := v.acc ++ more, fin := fin } peerRcv opened table' out := by
  have htcb := I.tcb i hi
  have hle : v.Le { v with acc := v.acc ++ more, fin := fin } :=
    ⟨rfl, rfl, ⟨List.prefix_append _ _, fun h => by rw [hfin] at h; nomatch h⟩, le_rfl⟩
  have hdg : DatagramSeq { v with acc := v.acc ++ more, fin := fin } pkt :=
    datagramSeq_of_sent htcb.addr hok hsent.sent hseg fun _ => htcb.rcvNxt.le
  have hseq : (tcpFields pkt.data).seqNum = (table.tcbs i).sndNxt :=
    (tcpSendSegment_fields hok hsent.sent).1
  have hnxt : ((table.tcbs i).sndNxt + span).toNat =
      (tcpFields pkt.data).seqNum.toNat + (tcpFields pkt.data).span := by
    have hold := htcb.sndNxt
    rw [SeqView.used, hfin, Bool.toNat_false] at hold
    rw [List.length_append] at hbound
    rw [UInt32.toNat_add, hseq, hspan.1, hspan.2]
    omega
  obtain ⟨sendq, ts, state, hsame⟩ := hsent.same
  refine I.conn hi hle htable ⟨?_, ?_, hsent.sendq, fun k b hb => ?_, ?_, hst', ?_, ?_, ?_, ?_⟩
    (by simpa [hout] using hdg)
  · rw [hsame]; exact hsent.valid
  · rw [hsame]; exact ⟨htcb.addr.localIp, htcb.addr.localPort, htcb.addr.remoteIp,
      htcb.addr.remotePort⟩
  · have hheld : (tcb.sendq.entries k).held = true := by rw [TcpSegment.held, hb]; rfl
    obtain rfl := hsent.tracks.pkt rfl hb
    rw [hsent.tracks.entry k hheld]
    exact ⟨hdg.seg, hnxt⟩
  · intro h
    apply hst
    simp only [List.mem_cons, List.not_mem_nil, or_false] at h ⊢
    tauto
  · intro h
    exact absurd (by rw [h]; decide) hst
  · rw [hsame]; exact htcb.sndUna
  · have hold := htcb.sndNxt
    rw [SeqView.used, hfin, Bool.toNat_false] at hold
    rw [hsame, SeqView.used]
    dsimp only
    rw [hnxt, hseq, hspan.2, List.length_append]
    omega
  · rw [hsame]; exact htcb.rcvNxt

theorem SideSeq.send (I : SideSeq v peerRcv opened table.tcbs) {data : List UInt8} {res : Int}
    (h : tcpSend env table i data = (table', res, out))
    (hbound : 1 + (v.acc ++ if res = 0 then data.take tcpMss else []).length < 2 ^ 32) :
    SeqStep v { v with acc := v.acc ++ if res = 0 then data.take tcpMss else [] } peerRcv opened
      table' out := by
  rcases tcpSend_cases (fun hv hst => (I.tcb i ⟨hv, hst⟩).sendq) h with ⟨rfl, rfl, hnil⟩ |
    ⟨tcb, pkt, rfl, hne, hst, hst', htable, hout, hsent, -⟩
  · have hmore : (if res = 0 then data.take tcpMss else []) = [] := by
      split_ifs with h0
      · rw [hnil h0, List.take_nil]
      · rfl
    rw [hmore, List.append_nil]
    exact I.quiet rfl
  · have hconn : (table.tcbs i).IsConn := ⟨hsent.valid, by rw [hst]; decide⟩
    have htcb := I.tcb i hconn
    have hfin : v.fin = false := htcb.unclosed (by rw [hst]; decide)
    have hnxt : (table.tcbs i).sndNxt.toNat = 1 + v.acc.length := by
      rw [htcb.sndNxt, SeqView.used, hfin, Bool.toNat_false, Nat.add_zero]
    obtain ⟨-, hf, hp, -⟩ := tcpSendSegment_fields (by decide) hsent.sent
    have hspan : (tcpFields pkt.data).span = (data.take tcpMss).length := by
      rw [TcpFields.span, hf, hp]
      rfl
    rw [if_pos rfl] at hbound ⊢
    have hlen : (data.take tcpMss).length < 2 ^ 32 := by
      rw [List.length_append] at hbound
      omega
    have hstep := I.sent _ v.fin hconn hsent htable (congrArg TcpOut.sent hout) (by decide) hfin
      (segOk_data (by decide) (by decide) hnxt hsent.sent) ⟨?_, by rw [hspan, hfin]; rfl⟩
      (by rw [hfin]; exact hbound) (by rw [hst']; decide) (fun _ => hfin)
    · exact hstep
    · rw [hspan, UInt32.toNat_ofNat', Nat.mod_eq_of_lt hlen]

theorem SideSeq.close (I : SideSeq v peerRcv opened table.tcbs) {res : Int}
    (h : tcpClose env table i = (table', res, out))
    (hbound : 1 + v.acc.length + (v.fin || res == 0).toNat < 2 ^ 32) :
    SeqStep v { v with fin := v.fin || res == 0 } peerRcv opened table' out := by
  rcases tcpClose_cases (fun hv hst => (I.tcb i ⟨hv, hst⟩).sendq) h with ⟨rfl, rfl, hres⟩ |
    ⟨tcb, pkt, rfl, hst, htable, hout, hsent, -⟩
  · rw [beq_eq_false_iff_ne.mpr hres, Bool.or_false]
    exact I.quiet rfl
  · have hconn : (table.tcbs i).IsConn :=
      ⟨hsent.valid, by rcases hst with hs | hs <;> rw [hs.1] <;> decide⟩
    have htcb := I.tcb i hconn
    have hfin : v.fin = false :=
      htcb.unclosed (by rcases hst with hs | hs <;> rw [hs.1] <;> decide)
    have hnxt : (table.tcbs i).sndNxt.toNat = 1 + v.acc.length := by
      rw [htcb.sndNxt, SeqView.used, hfin, Bool.toNat_false, Nat.add_zero]
    obtain ⟨-, hf, hp, -⟩ := tcpSendSegment_fields (by decide) hsent.sent
    have hspan : (tcpFields pkt.data).span = 1 := by
      rw [TcpFields.span, hf, hp]
      rfl
    have hstep := I.sent [] true hconn hsent htable (congrArg TcpOut.sent hout) (by decide) hfin
      (by rw [List.append_nil]; exact segOk_fin hnxt hsent.sent)
      ⟨by rw [hspan]; rfl, by rw [hspan]; rfl⟩
      (by simpa [hfin] using hbound)
      (by rcases hst with hs | hs <;> rw [hs.2] <;> decide)
      (fun h => by rcases hst with hs | hs <;> rw [hs.2] at h <;> simp at h)
    rw [List.append_nil] at hstep
    simpa [hfin] using hstep

theorem SideSeq.timeWaitHandler (I : SideSeq v peerRcv opened table.tcbs) (i : TcbIndex) :
    SeqStep v v peerRcv opened (tcpTimeWaitHandler table i) {} := by
  rcases tcpTimeWaitHandler_cases table i with h | ⟨hv, hst, h⟩
  · rw [h]
    exact I.quiet rfl
  · exact I.release ⟨hv, by rw [hst]; decide⟩ h rfl

theorem SideSeq.retransmitHandler (I : SideSeq v peerRcv opened table.tcbs)
    (h : tcpRetransmitHandler env table i = (table', out)) :
    SeqStep v v peerRcv opened table' out := by
  rcases tcpRetransmitHandler_cases h with ⟨rfl, rfl⟩ | ⟨tcb, hv, htable, hre, -, hsent⟩
  · exact I.quiet rfl
  obtain ⟨sendq, ts, hsame⟩ := hre.same
  by_cases hconn : (table.tcbs i).IsConn
  · have htcb := I.tcb i hconn
    refine I.conn hconn (.refl v) htable
      ⟨?_, ?_, hre.sendqOk htcb.sendq, fun k b hb => ?_, ?_, ?_, ?_, ?_, ?_, ?_⟩ fun p hp => ?_
    · rw [hsame]; exact htcb.valid
    · rw [hsame]; exact ⟨htcb.addr.localIp, htcb.addr.localPort, htcb.addr.remoteIp,
        htcb.addr.remotePort⟩
    · obtain ⟨n, ts', he⟩ := hre.entries k
      rw [hre.pkt k] at hb
      rw [he]
      exact htcb.tracked k b hb
    · rw [hsame]; exact htcb.state
    · rw [hsame]; exact htcb.unclosed
    · rw [hsame]; exact htcb.synSent
    · rw [hsame]; exact htcb.sndUna
    · rw [hsame]; exact htcb.sndNxt
    · rw [hsame]; exact htcb.rcvNxt
    · obtain ⟨k, b, hb, -, rfl⟩ := hsent p hp
      exact ⟨htcb.addr.localIp, htcb.addr.remoteIp, rfl, (htcb.tracked k b hb).1⟩
  · have hnone : out.sent = [] := by
      refine List.eq_nil_iff_forall_not_mem.mpr fun p hp => ?_
      obtain ⟨k, b, hb, -⟩ := hsent p hp
      rw [I.idle i k hconn] at hb
      nomatch hb
    have hside : SideSeq v peerRcv opened table'.tcbs := by
      rw [htable]
      refine I.setIdle (fun h => hconn ?_) fun k => by rw [hre.pkt k, I.idle i k hconn]
      rw [hsame] at h
      exact h
    exact hside.quiet hnone

/-! ## Receiving -/

theorem TcbSeq.ackedBy (h : TcbSeq v peerRcv tcb) {hdr : TcpFields}
    (hack : hdr.ackNum.toNat ≤ peerRcv) : TcbSeq v peerRcv (tcb.ackedBy hdr) where
  valid := h.valid
  addr := ⟨h.addr.localIp, h.addr.localPort, h.addr.remoteIp, h.addr.remotePort⟩
  sendq := (h.sendq.ack hdr.ackNum).of_sendq_eq (tcpSendqAck_sendq rfl _)
  tracked k b hb := by
    rcases tcpSendqAck_entry { tcb with sndUna := hdr.ackNum } hdr.ackNum k with he | ⟨he, -⟩
    · rw [Tcb.ackedBy, he] at hb
      nomatch hb
    · rw [Tcb.ackedBy, he] at hb ⊢
      exact h.tracked k b hb
  state := h.state
  unclosed := h.unclosed
  synSent := h.synSent
  sndUna := hack
  sndNxt := h.sndNxt
  rcvNxt := h.rcvNxt

/-- Another state. -/
theorem TcbSeq.setState (h : TcbSeq v peerRcv tcb) (state : TcpState)
    (hst : state ∉ [.closed, .listen, .closing, .synSent])
    (hfin : state ∈ [.synReceived, .established, .closeWait] → v.fin = false) :
    TcbSeq v peerRcv { tcb with state := state } where
  valid := h.valid
  addr := ⟨h.addr.localIp, h.addr.localPort, h.addr.remoteIp, h.addr.remotePort⟩
  sendq := h.sendq.of_sendq_eq rfl
  tracked := h.tracked
  state hs := by
    apply hst
    simp only [List.mem_cons, List.not_mem_nil, or_false] at hs ⊢
    tauto
  unclosed hs := by
    simp only [List.mem_cons, List.not_mem_nil, or_false] at hs hst hfin
    exact hfin (hs.resolve_left fun h => hst (.inr (.inr (.inr h))))
  synSent hs := absurd (by rw [show state = .synSent from hs]; decide) hst
  sndUna := h.sndUna
  sndNxt := h.sndNxt
  rcvNxt := h.rcvNxt

/-- `rcv_nxt` moves on. -/
theorem TcbSeq.setRcv (h : TcbSeq v peerRcv tcb) (rcvNxt : UInt32) (hle : v.rcv ≤ rcvNxt.toNat)
    (hst : tcb.state ≠ .synSent) :
    v.Le { v with rcv := rcvNxt.toNat } ∧
      TcbSeq { v with rcv := rcvNxt.toNat } peerRcv { tcb with rcvNxt := rcvNxt } := by
  have hv : v.Le { v with rcv := rcvNxt.toNat } := ⟨rfl, rfl, Grows.refl _ _, hle⟩
  refine ⟨hv, ?_⟩
  exact {
    valid := h.valid
    addr := ⟨h.addr.localIp, h.addr.localPort, h.addr.remoteIp, h.addr.remotePort⟩
    sendq := h.sendq.of_sendq_eq rfl
    tracked := fun k b hb => ⟨(h.tracked k b hb).1.mono hv, (h.tracked k b hb).2⟩
    state := h.state
    unclosed := h.unclosed
    synSent := fun hs => absurd hs hst
    sndUna := h.sndUna
    sndNxt := h.sndNxt
    rcvNxt := rfl }

/-- The ACK field in `TCP_ESTABLISHED`. -/
theorem TcbSeq.establishedAck (h : TcbSeq v peerRcv tcb) {hdr : TcpFields}
    (hack : hdr.flags &&& tcpFlagAck ≠ 0 → hdr.ackNum.toNat ≤ peerRcv) :
    TcbSeq v peerRcv (tcpEstablishedAck tcb hdr) ∧
      (tcpEstablishedAck tcb hdr).state = tcb.state := by
  unfold tcpEstablishedAck
  split_ifs with hnum
  · exact ⟨h.ackedBy (hack hnum.1), rfl⟩
  · exact ⟨h, rfl⟩

/-- A segment of the peer, whose view is `w`, at the TCB of the connection. -/
theorem TcbSeq.received {w : SeqView} {b : List UInt8} {tcb' : Tcb} (h : TcbSeq v w.rcv tcb)
    (hseg : SegSeq w b) (hrcv : v.rcv ≤ w.used) (hbound : w.used < 2 ^ 32)
    (hr : TcbReceived tcb (tcpFields b) tcb') :
    tcb.state = .lastAck ∧ tcb' = {} ∨
      ∃ rcv ≤ w.used, v.Le { v with rcv := rcv } ∧ TcbSeq { v with rcv := rcv } w.rcv tcb' := by
  have hest := h.establishedAck hseg.ack
  have hsame : ∀ {tcb'}, TcbSeq v w.rcv tcb' →
      ∃ rcv ≤ w.used, v.Le { v with rcv := rcv } ∧ TcbSeq { v with rcv := rcv } w.rcv tcb' :=
    fun h => ⟨v.rcv, hrcv, .refl v, h⟩
  -- a FIN at `rcv_nxt` ends the numbers of the peer
  have hfin : (tcpFields b).flags &&& tcpFlagFin ≠ 0 → (tcpFields b).seqNum = tcb.rcvNxt →
      ((tcpFields b).seqNum + 1).toNat = v.rcv + 1 ∧ v.rcv + 1 ≤ w.used := by
    intro hf hseq
    obtain ⟨hclosed, hk⟩ := hseg.seg.fin hf
    have hold := h.rcvNxt
    rw [SeqView.used, hclosed, Bool.toNat_true] at hbound ⊢
    rw [hseq] at hk ⊢
    rw [UInt32.toNat_add, UInt32.toNat_one]
    omega
  cases hr with
  | ignored => exact .inr (hsame h)
  | synSent hst hsyn hack hnum =>
    have hseq : (tcpFields b).seqNum = 0 := hseg.seg.syn hsyn
    have hfree : v.fin = false := h.unclosed (by rw [hst]; decide)
    have hnext : TcbSeq v w.rcv { tcb.ackedBy (tcpFields b) with state := .established } :=
      (h.ackedBy (hseg.ack hack)).setState _ (by decide) fun _ => hfree
    obtain ⟨hle, htcb⟩ := hnext.setRcv ((tcpFields b).seqNum + 1)
      (by rw [h.synSent hst]; exact Nat.zero_le _) nofun
    refine .inr ⟨_, ?_, hle, htcb⟩
    rw [hseq, UInt32.zero_add, UInt32.toNat_one, SeqView.used]
    omega
  | synReceived hst hack =>
    have hfree : v.fin = false := h.unclosed (by rw [hst]; decide)
    exact .inr (hsame ((h.ackedBy (hseg.ack hack)).setState _ (by decide) fun _ => hfree))
  | acked => exact .inr (hsame hest.1)
  | data hst hne hseq =>
    obtain ⟨k, hk, hle, -⟩ := hseg.seg.place hne
    have hold := h.rcvNxt
    have hnxt : (tcb.rcvNxt + UInt32.ofNat (tcpFields b).payload.length).toNat =
        v.rcv + (tcpFields b).payload.length := by
      rw [SeqView.used] at hbound
      rw [hseq] at hk
      rw [UInt32.toNat_add, UInt32.toNat_ofNat']
      omega
    obtain ⟨hle', htcb⟩ := hest.1.setRcv
      (tcb.rcvNxt + UInt32.ofNat (tcpFields b).payload.length) (by omega)
      (by rw [hest.2, hst]; decide)
    refine .inr ⟨_, ?_, hle', htcb⟩
    rw [hnxt, SeqView.used]
    rw [hseq] at hk
    omega
  | @fin hst hf hseq state hnext =>
    obtain ⟨hnxt, hle⟩ := hfin hf hseq
    have hfree : v.fin = false := h.unclosed (by rw [hst]; decide)
    have hnext' := hest.1.setState state (by rcases hnext with rfl | rfl <;> decide)
      fun _ => hfree
    obtain ⟨hle', htcb⟩ := hnext'.setRcv ((tcpFields b).seqNum + 1) (by omega)
      (by rcases hnext with rfl | rfl <;> exact nofun)
    exact .inr ⟨_, by rw [hnxt]; exact hle, hle', htcb⟩
  | finWait1 hst hack =>
    have htcb := h.ackedBy (hseg.ack hack)
    split_ifs
    · exact .inr (hsame (htcb.setState _ (by decide) fun h => absurd h (by decide)))
    · exact .inr (hsame htcb)
  | @finWait2 hst hf hseq state hnext =>
    obtain ⟨hnxt, hle⟩ := hfin hf hseq
    have hnext' := h.setState state (by rcases hnext with rfl | rfl <;> decide)
      fun hs => absurd hs (by rcases hnext with rfl | rfl <;> decide)
    obtain ⟨hle', htcb⟩ := hnext'.setRcv ((tcpFields b).seqNum + 1) (by omega)
      (by rcases hnext with rfl | rfl <;> exact nofun)
    exact .inr ⟨_, by rw [hnxt]; exact hle, hle', htcb⟩
  | closing hst => exact absurd (by rw [hst]; decide) h.state
  | lastAck _ hack => exact .inr (hsame (h.ackedBy (hseg.ack hack)))
  | released hst => exact .inl ⟨hst, rfl⟩

/-- The pure ACK of a TCB. -/
theorem TcbSeq.ackSent (h : TcbSeq v peerRcv tcb) {p : IpDatagram}
    (hp : tcpSendAck env tcb = some p) : DatagramSeq v p :=
  datagramSeq_of_sent h.addr (by decide) hp (segOk_ack hp) fun _ => h.rcvNxt.le

theorem SideSeq.receive {w : SeqView} (I : SideSeq v w.rcv opened table.tcbs)
    (halive : opened = true → table.hasConn = true) (hself : w.self = v.peer)
    (hpeer : w.peer = v.self) {pkt : IpDatagram} (hpkt : DatagramSeq w pkt)
    (hrcv : v.rcv ≤ w.used) (hbound : w.used < 2 ^ 32) {res : Int}
    (h : tcpReceive env table pkt = (table', res, out)) :
    ∃ rcv ≤ w.used, SeqStep v { v with rcv := rcv } w.rcv opened table' out := by
  have hfound : ∀ r, tcpFindExact table pkt.dstIp (tcpFields pkt.data).dstPort pkt.srcIp
      (tcpFields pkt.data).srcPort = r →
      tcpFindExact table v.self.ip v.self.port v.peer.ip v.peer.port = r := by
    intro r hr
    rwa [hpkt.dstIp, hpkt.srcIp, hpkt.seg.srcPort, hpkt.seg.dstPort, hself, hpeer] at hr
  rcases tcpReceive_cases h with ⟨hun, hsent⟩ | ⟨i, tcb, hfind, htable, hr, hsent⟩ |
    ⟨i, tcb, synAck, hfind, hsyn, -, htable, hsent, hopen, hnxt, haddr⟩
  · exact ⟨v.rcv, hrcv, (I.unopened hun).quiet hsent⟩
  · have hconn : (table.tcbs i).IsConn := tcpFindExact_isConn hfind
    rcases (I.tcb i hconn).received hpkt.seg hrcv hbound hr with ⟨hst, rfl⟩ | ⟨rcv, hle, hv, htcb⟩
    · have hnone : out.sent = [] :=
        List.eq_nil_iff_forall_not_mem.mpr fun p hp => (hsent p hp).1 hst
      exact ⟨v.rcv, hrcv, I.release hconn htable hnone⟩
    · exact ⟨rcv, hle, I.conn hconn hv htable htcb fun p hp => htcb.ackSent (hsent p hp).2⟩
  · obtain rfl := I.opened_eq_false halive (hfound _ hfind)
    have hseq : (tcpFields pkt.data).seqNum = 0 := hpkt.seg.seg.syn (by rw [hsyn]; decide)
    have haddr' : TcbAddressed tcb v.self.ip v.self.port v.peer.ip v.peer.port := by
      rwa [hpkt.dstIp, hpkt.srcIp, hpkt.seg.srcPort, hpkt.seg.dstPort, hself, hpeer] at haddr
    refine ⟨tcb.rcvNxt.toNat, ?_, I.openConn hopen haddr' (.inr ⟨rfl, rfl⟩) htable hsent⟩
    rw [hnxt, hseq, UInt32.zero_add, UInt32.toNat_one, SeqView.used]
    omega

end

end FrameRunner
