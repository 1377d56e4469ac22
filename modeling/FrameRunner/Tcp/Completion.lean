import FrameRunner.Tcp.Ack
import FrameRunner.Tcp.SequenceRun
import FrameRunner.Tcp.TimeWait

/-!
# What an empty send queue says about the peer

The TCBs of a connection in runs that are safe and release nothing. What was handed
to `recv_handler` is what comes before `rcv_nxt` in the peer's stream, in every state
(`StreamOk`), and a TCB whose send queue is empty has nothing outstanding
(`Tcb.Settled`). So the queue, which `tcp_send` and `tcp_close` look at, tells what
the peer's application has.

Main results:
* `tcpConn_acked_delivered`: while the queue is empty, all bytes accepted so far have
  been handed over at the peer.
* `tcpConn_closed_delivered`: the states behind a FIN are reached only when the stream
  that it ends has been handed over as a whole.
-/

namespace FrameRunner

open FrameRunner.Lib

/-! ## Steps of a connection as steps of a table -/

/-- The step is `c` at side `x`: a call, a segment of the peer or a timer. -/
structure TcpConnMove (s : TcpConn) (env : IpEnv) (x : Side) (c : TcpInput) (more : List UInt8)
    (fin : Bool) (s' : TcpConn) : Prop where
  commit : s' =
    s.commit x (tcpStep (s.table x) (env, c)) (tcpStepOut (s.table x) (env, c)) more fin
  receive : ∀ pkt, c = .call (.receive pkt) → pkt ∈ s.sent x.other
  accepts : more ≠ [] →
    ∃ i, ((s.table x).tcbs i).IsConn ∧ ((s.table x).tcbs i).state = .established

theorem TcpConnMove.unread {s s' : TcpConn} {env : IpEnv} {x : Side} {c : TcpInput} {fin : Bool}
    (hc : ∀ pkt, c ≠ .call (.receive pkt))
    (hs : s' = s.commit x (tcpStep (s.table x) (env, c)) (tcpStepOut (s.table x) (env, c)) [] fin) :
    TcpConnMove s env x c [] fin s' where
  commit := hs
  receive pkt h := absurd h (hc pkt)
  accepts h := absurd rfl h

theorem tcpConnStep_moves (addr : Side → TcpAddr) {s : TcpConn}
    (Q : ∀ x, TableQueueOk (s.table x)) (env : IpEnv) (input : TcpConnInput) :
    tcpConnStep addr s (env, input) = s ∨
      ∃ x c more fin, TcpConnMove s env x c more fin (tcpConnStep addr s (env, input)) := by
  cases input with
  | listen x localIp recvFn connectFn ctx =>
    exact .inr ⟨x, .call (.listen localIp (addr x).port recvFn connectFn ctx), [], false,
      .unread (by simp) rfl⟩
  | connect x recvFn connectFn ctx =>
    exact .inr ⟨x, .call (.connect (addr x).ip (addr x.other).ip (addr x).port
      (addr x.other).port recvFn connectFn ctx), [], false, .unread (by simp) rfl⟩
  | send x i data =>
    refine .inr ⟨x, .call (.send i data),
      if (tcpSend env (s.table x) i data).2.1 = 0 then data.take tcpMss else [], false, rfl,
      by simp, fun hmore => ⟨i, ?_⟩⟩
    rcases h : tcpSend env (s.table x) i data with ⟨table, res, out⟩
    rw [h] at hmore
    rcases tcpSend_cases (fun _ _ => (Q x i).sendq) h with ⟨-, -, hnil⟩ |
      ⟨_, _, -, -, hst, -, -, -, hsent, -⟩
    · refine absurd ?_ hmore
      by_cases hres : res = 0
      · simp [hres, hnil hres]
      · simp [hres]
    · exact ⟨⟨hsent.valid, by simp [hst]⟩, hst⟩
  | close x i =>
    exact .inr ⟨x, .call (.close i), [], (tcpClose env (s.table x) i).2.1 == 0,
      .unread (by simp) rfl⟩
  | deliver x k =>
    simp only [tcpConnStep]
    split
    · exact .inl rfl
    · rename_i pkt hpkt
      refine .inr ⟨x, .call (.receive pkt), [], false, rfl, fun pkt' h => ?_,
        fun h => absurd rfl h⟩
      cases h
      exact List.mem_of_getElem? hpkt
  | retransmit x i => exact .inr ⟨x, .retransmit i, [], false, .unread (by simp) rfl⟩
  | timeWait x i => exact .inr ⟨x, .timeWait i, [], false, .unread (by simp) rfl⟩

/-- A step of a table as its only connection sees it: it moves the TCB of the connection, or
    another slot that holds none afterwards, or nothing that is in use. -/
theorem TcpStepped.conn {env : IpEnv} {table table' : TcpTable} {c : TcpInput} {out : TcpOut}
    (h : TcpStepped env table c table' out) {i : TcbIndex} (hi : (table'.tcbs i).IsConn)
    (hunique : ∀ j, (table'.tcbs j).IsConn → j = i) :
    table'.tcbs i = table.tcbs i ∧
        (out = {} ∨ ∃ j tcb, j ≠ i ∧ ¬ tcb.IsConn ∧ TcbStepped env j (table.tcbs j) c tcb out) ∨
      table'.tcbs = Function.update table.tcbs i (table'.tcbs i) ∧
        TcbStepped env i (table.tcbs i) c (table'.tcbs i) out := by
  cases h with
  | unopened hun =>
    refine .inl ⟨?_, .inl rfl⟩
    rcases hun with hsame | ⟨j, -, htable⟩
    · rw [hsame]
    · rw [htable] at hi ⊢
      exact (SideOk.isConn_update_idle (not_isConn_of_invalid rfl) hi).2
  | slot j tcb htable _ hstep =>
    have htcb : table'.tcbs j = tcb := by rw [htable, Function.update_self]
    by_cases hji : j = i
    · subst hji
      rw [htcb]
      exact .inr ⟨htable, hstep⟩
    · have hsame : table'.tcbs i = table.tcbs i := by
        rw [htable, Function.update_of_ne (Ne.symm hji)]
      exact .inl ⟨hsame, .inr ⟨j, tcb, hji, fun hconn => hji (hunique j (htcb ▸ hconn)), hstep⟩⟩

/-! ## Nothing outstanding -/

/-- An empty send queue means that everything sent is acknowledged. -/
def Tcb.Settled (tcb : Tcb) : Prop := tcb.sendq.held = 0 → tcb.sndUna = tcb.sndNxt

section
variable {env : IpEnv} {i : TcbIndex} {tcb tcb' : Tcb} {c : TcpInput} {out : TcpOut}

/-- An ACK that empties the queue is an ACK of `snd_nxt`. -/
theorem Tcb.Settled.acked (h : tcb.Settled) (hends : tcb.EndsAtNxt) {ack : UInt32}
    (hgt : tcb.sndUna < ack) (hle : ack ≤ tcb.sndNxt)
    (hempty : (tcpSendqAck tcb ack).sendq.held = 0) : ack = tcb.sndNxt := by
  by_cases hheld : tcb.sendq.held = 0
  · rw [h hheld] at hgt
    exact absurd hgt (UInt32.not_lt.mpr hle)
  · obtain ⟨k, hk⟩ : ∃ k, (tcb.sendq.entries k).held = true := by
      by_contra hnone
      exact hheld (held_eq_zero.mpr fun k => by simpa using not_exists.mp hnone k)
    have hacked : tcpSegmentAcked (tcb.sendq.entries k) ack = true := by
      by_contra hn
      have hsame : (tcpSendqAck tcb ack).sendq.entries k = tcb.sendq.entries k := if_neg hn
      have hk' := held_eq_zero.mp hempty k
      rw [hsame, hk] at hk'
      cases hk'
    simp only [tcpSegmentAcked, Bool.and_eq_true, decide_eq_true_eq] at hacked
    have hend : (tcb.sendq.entries k).seqEnd = tcb.sndNxt := hends k hk
    rw [hend] at hacked
    exact UInt32.le_antisymm hle hacked.2

theorem TcbReceived.settled {hdr : TcpFields} (hr : TcbReceived tcb hdr tcb')
    (hends : tcb.EndsAtNxt) (I : tcb.Settled) (hclosing : tcb.state ≠ .closing)
    (hack : hdr.flags &&& tcpFlagAck ≠ 0 → hdr.ackNum ≤ tcb.sndNxt) : tcb'.Settled := by
  have hest : (tcpEstablishedAck tcb hdr).Settled := by
    unfold tcpEstablishedAck
    split_ifs with hnew
    · exact I.acked hends hnew.2.1 hnew.2.2
    · exact I
  have hclosed : hdr.flags &&& tcpFlagAck ≠ 0 → hdr.ackNum > tcb.sndUna →
      (tcb.ackedBy hdr).Settled := by
    intro hflag hnum hempty
    rw [Tcb.ackedBy, tcpSendqAck_sendq rfl] at hempty
    exact I.acked hends hnum (hack hflag) hempty
  cases hr with
  | ignored => exact I
  | synSent _ _ _ hnum => exact fun _ => hnum
  | synReceived _ _ hnum => exact fun _ => hnum
  | acked => exact hest
  | data => exact hest
  | fin => exact hest
  | finWait1 _ hflag hnum =>
    split
    · exact hclosed hflag hnum
    · exact hclosed hflag hnum
  | finWait2 => exact I
  | closing hst => exact absurd hst hclosing
  | lastAck _ hflag hnum => exact hclosed hflag hnum
  | released => exact fun _ => rfl

/-- A queue that has just taken a segment is not empty. -/
theorem Tcb.settled_of_tracks {seg : TcpSegment} (h : tcb.sendq.Tracks seg) : tcb.Settled :=
  fun hempty => absurd (h.count.symm.trans hempty) (by decide)

theorem TcbStepped.settled (h : TcbStepped env i tcb c tcb' out) (hends : tcb.EndsAtNxt)
    (I : tcb.IsConn → tcb.Settled) (hclosing : tcb.IsConn → tcb.state ≠ .closing)
    (hack : ∀ pkt, c = .call (.receive pkt) → tcb.IsConn →
      (tcpFields pkt.data).flags &&& tcpFlagAck ≠ 0 → (tcpFields pkt.data).ackNum ≤ tcb.sndNxt)
    (hconn : tcb'.IsConn) : tcb'.Settled := by
  cases h with
  | listened _ hst => exact absurd hst hconn.2
  | connected _ hopen | child _ hopen => exact Tcb.settled_of_tracks hopen.tracks
  | sent _ _ hsent => exact Tcb.settled_of_tracks hsent.tracks
  | closed _ hsent => exact Tcb.settled_of_tracks hsent.tracks
  | received hv hst hr =>
    exact hr.settled hends (I ⟨hv, hst⟩) (hclosing ⟨hv, hst⟩) (hack _ rfl ⟨hv, hst⟩)
  | @resent k data hre =>
    intro hempty
    refine I hconn (held_eq_zero.mpr fun j => ?_)
    have hj := held_eq_zero.mp hempty j
    rwa [TcpSegment.held, (tcbResent_resentAt env tcb k).pkt j] at hj
  | released => exact absurd hconn (not_isConn_of_invalid rfl)

end

/-! ## The stream of the peer -/

/-- What the application has is what comes before `rcv_nxt`; and where a FIN has taken
    effect, that is all. -/
structure StreamOk (v : TcpView) (tcb : Tcb) : Prop where
  delivered : tcb.recvHandler.isSome = true →
    v.delivered = v.peerAcc.take (tcb.rcvNxt.toNat - 1)
  ended : tcb.state ∈ [.closeWait, .lastAck, .timeWait] →
    v.peerFin = true ∧ tcb.rcvNxt.toNat = 2 + v.peerAcc.length

section
variable {v : TcpView} {env : IpEnv} {i : TcbIndex} {tcb tcb' : Tcb} {c : TcpInput} {out : TcpOut}

/-- The numbers and the handler stay. -/
theorem StreamOk.same (h : StreamOk v tcb) (hrcv : tcb'.rcvNxt = tcb.rcvNxt)
    (hhandler : tcb'.recvHandler = tcb.recvHandler)
    (hst : tcb'.state ∈ [.closeWait, .lastAck, .timeWait] →
      tcb.state ∈ [.closeWait, .lastAck, .timeWait]) : StreamOk v tcb' := by
  refine ⟨fun hsome => ?_, fun hended => ?_⟩
  · rw [hrcv]
    exact h.delivered (hhandler ▸ hsome)
  · rw [hrcv]
    exact h.ended (hst hended)

/-- The peer accepts more, or closes. -/
theorem StreamOk.peer (h : StreamOk v tcb) {acc' : List UInt8} {fin' : Bool}
    (g : Grows v.peerAcc v.peerFin acc' fin')
    (hle : tcb.rcvNxt.toNat ≤ 1 + v.peerAcc.length + v.peerFin.toNat) :
    StreamOk { v with peerAcc := acc', peerFin := fin' } tcb := by
  refine ⟨fun hsome => ?_, fun hended => ?_⟩
  · show v.delivered = acc'.take _
    rw [h.delivered hsome]
    cases hfin : v.peerFin with
    | true => rw [(g.closed hfin).1]
    | false =>
      obtain ⟨rest, rfl⟩ := g.pre
      rw [hfin, Bool.toNat_false] at hle
      rw [List.take_append_of_le_length (by omega)]
  · obtain ⟨hfin, hend⟩ := h.ended hended
    obtain ⟨hacc, hfin'⟩ := g.closed hfin
    exact ⟨hfin', by show _ = 2 + acc'.length; rw [hacc]; exact hend⟩

/-- A FIN at `rcv_nxt` finds that everything has been handed over. -/
theorem StreamOk.fin (h : StreamOk v tcb) {hdr : TcpFields}
    (hseg : SegOk v.peerAcc v.peerFin hdr)
    (hbound : 1 + v.peerAcc.length + v.peerFin.toNat < 2 ^ 32)
    (hfin : hdr.flags &&& tcpFlagFin ≠ 0) (hseq : hdr.seqNum = tcb.rcvNxt)
    (hrcv : tcb'.rcvNxt = hdr.seqNum + 1) (hhandler : tcb'.recvHandler = tcb.recvHandler) :
    StreamOk v tcb' := by
  obtain ⟨hpeer, hk⟩ := hseg.fin hfin
  rw [hpeer, Bool.toNat_true] at hbound
  have hnxt : tcb'.rcvNxt.toNat = 2 + v.peerAcc.length := by
    rw [hrcv, UInt32.toNat_add, hk, UInt32.toNat_one]
    omega
  refine ⟨fun hsome => ?_, fun _ => ⟨hpeer, hnxt⟩⟩
  rw [h.delivered (hhandler ▸ hsome), ← hseq, hk, hnxt, List.take_of_length_le (by omega),
    List.take_of_length_le (by omega)]

/-- What the invariant of `TCP_ESTABLISHED` says about the bytes handed over. -/
theorem RcvOk.streamOk (h : RcvOk v tcb) (hst : tcb.state = .established)
    (hbound : 1 + v.peerAcc.length + v.peerFin.toNat < 2 ^ 32) : StreamOk v tcb := by
  obtain ⟨n, hn, hsome, -, hnxt⟩ := h
  refine ⟨fun hh => ?_, fun hended => absurd hended (by rw [hst]; decide)⟩
  rw [hsome hh]
  rcases hnxt with hnxt | ⟨hfin, hend, hnxt⟩
  · rw [hnxt, Nat.add_sub_cancel_left]
  · rw [hfin, Bool.toNat_true] at hbound
    have hnat : tcb.rcvNxt.toNat = 2 + n := by
      rw [hnxt, UInt32.toNat_ofNat']
      omega
    rw [hnat, List.take_of_length_le (by omega), List.take_of_length_le (by omega)]

/-- Before `TCP_ESTABLISHED` there is nothing to hand over. -/
theorem TcbOk.streamOk (h : TcbOk v tcb) (hst : tcb.state = .synSent ∨ tcb.state = .synReceived)
    (hrcv : tcb.rcvNxt.toNat ≤ 1) : StreamOk v tcb := by
  obtain ⟨-, -, hdel, -⟩ := h.handshake hst
  refine ⟨fun _ => ?_, fun hended => absurd hended ?_⟩
  · rw [hdel, Nat.sub_eq_zero_of_le hrcv, List.take_zero]
  · rcases hst with hst | hst <;> rw [hst] <;> decide

/-- The states in which the invariants of the streams are those of `ConnInv`. -/
def TcpState.Streams (state : TcpState) : Prop :=
  state = .synSent ∨ state = .synReceived ∨ state = .established

/-- A segment behind these states hands nothing over; of the numbers it moves only what a
    FIN does. -/
theorem TcbReceived.streamOk {hdr : TcpFields} (hr : TcbReceived tcb hdr tcb')
    (hlate : ¬ tcb'.state.Streams) (I : StreamOk v tcb) (hclosing : tcb.state ≠ .closing)
    (hseg : SegOk v.peerAcc v.peerFin hdr)
    (hbound : 1 + v.peerAcc.length + v.peerFin.toNat < 2 ^ 32) (hconn : tcb'.IsConn) :
    StreamOk v tcb' := by
  have hest : tcb.state = .established → (tcpEstablishedAck tcb hdr).state.Streams := by
    intro hst
    rw [tcpEstablishedAck_state]
    exact .inr (.inr hst)
  have hhandler : (tcpEstablishedAck tcb hdr).recvHandler = tcb.recvHandler := by
    unfold tcpEstablishedAck
    split_ifs <;> rfl
  cases hr with
  | ignored => exact I
  | synSent => exact absurd (.inr (.inr rfl)) hlate
  | synReceived => exact absurd (.inr (.inr rfl)) hlate
  | acked hst => exact absurd (hest hst) hlate
  | data hst => exact absurd (hest hst) hlate
  | fin hst hfin hseq => exact I.fin hseg hbound hfin hseq rfl hhandler
  | finWait1 hst =>
    split
    · exact I.same rfl rfl fun h => absurd h (by simp)
    · exact I.same rfl rfl id
  | finWait2 hst hfin hseq => exact I.fin hseg hbound hfin hseq rfl rfl
  | closing hst => exact absurd hst hclosing
  | lastAck => exact I.same rfl rfl id
  | released => exact absurd hconn (not_isConn_of_invalid rfl)

/-- Only a TCB that is in `TCP_ESTABLISHED` after the step has been handed anything. -/
theorem TcbStepped.handsOver (h : TcbStepped env i tcb c tcb' out) (hne : out.received ≠ []) :
    tcb'.IsConn ∧ tcb'.state = .established := by
  cases h with
  | listened | connected | child | sent | closed | resent | released => exact absurd rfl hne
  | received hv hst hr hout =>
    by_cases hest : tcb.state = .established
    · obtain ⟨u, hu⟩ := List.exists_mem_of_ne_nil out.upcalls fun h =>
        hne (by rw [TcpOut.received, h]; rfl)
      obtain ⟨-, -, hst', -⟩ := hout.recv hest u hu
      have hvalid : tcb'.valid = true := by
        rcases hr.valid with rfl | hvalid
        · cases hst'
        · rw [hvalid, hv]
      exact ⟨⟨hvalid, by rw [hst']; decide⟩, hst'⟩
    · refine absurd ?_ hne
      rw [TcpOut.received, hout.connect hest]
      split
      · cases tcb'.connectHandler.isSome <;> simp [tcpConnectUpcall]
      · rfl

/-- What a step makes of a TCB behind `TCP_ESTABLISHED`. -/
theorem TcbStepped.streamOk (h : TcbStepped env i tcb c tcb' out) (hlate : ¬ tcb'.state.Streams)
    (I : tcb.IsConn → StreamOk v tcb) (hclosing : tcb.IsConn → tcb.state ≠ .closing)
    (hseg : ∀ pkt, c = .call (.receive pkt) → SegOk v.peerAcc v.peerFin (tcpFields pkt.data))
    (hbound : 1 + v.peerAcc.length + v.peerFin.toNat < 2 ^ 32) (hconn : tcb'.IsConn) :
    StreamOk v tcb' := by
  cases h with
  | listened _ hst => exact absurd hst hconn.2
  | connected _ hopen => exact absurd (.inl hopen.state) hlate
  | child _ hopen => exact absurd (.inr (.inl hopen.state)) hlate
  | sent _ hst' => exact absurd (.inr (.inr hst')) hlate
  | closed hst hsent =>
    obtain ⟨sendq, ts, state, hsame⟩ := hsent.same
    have hconn₀ : tcb.IsConn :=
      ⟨hsent.valid, by rcases hst with ⟨hst, -⟩ | ⟨hst, -⟩ <;> rw [hst] <;> decide⟩
    refine (I hconn₀).same (by rw [hsame]) (by rw [hsame]) fun h => ?_
    rcases hst with ⟨-, hst'⟩ | ⟨hst, -⟩
    · exact absurd h (by rw [hst']; decide)
    · rw [hst]
      decide
  | received hv hst hr =>
    exact hr.streamOk hlate (I ⟨hv, hst⟩) (hclosing ⟨hv, hst⟩) (hseg _ rfl) hbound hconn
  | resent => exact (I hconn).same rfl rfl id
  | released => exact absurd hconn (not_isConn_of_invalid rfl)

end

/-! ## Runs -/

/-- The invariants of both endpoints. -/
structure StreamInv (addr : Side → TcpAddr) (s : TcpConn) : Prop where
  seq : ∃ rcv, SeqInv addr rcv s
  conn : ConnInv s
  queues : ∀ x, TableQueueOk (s.table x) ∧ TableEndsAtNxt (s.table x)
  settled : ∀ x i, ((s.table x).tcbs i).IsConn → ((s.table x).tcbs i).Settled
  stream : ∀ x i, ((s.table x).tcbs i).IsConn → StreamOk (s.view x) ((s.table x).tcbs i)

/-- The condition on a step: it is safe, releases no connection and does not use up the
    sequence numbers. -/
def TcpConnOrderly (addr : Side → TcpAddr) (s : TcpConn) (input : IpEnv × TcpConnInput) : Prop :=
  TcpConnSafe addr s input ∧ TcpConnAlive addr s input ∧
    ∀ x, (tcpConnStep addr s input).used x < 2 ^ 32

instance (addr : Side → TcpAddr) (s : TcpConn) (input : IpEnv × TcpConnInput) :
    Decidable (TcpConnOrderly addr s input) :=
  have : Decidable (∀ x, (tcpConnStep addr s input).used x < 2 ^ 32) :=
    decidable_of_iff ((tcpConnStep addr s input).used .a < 2 ^ 32 ∧
        (tcpConnStep addr s input).used .b < 2 ^ 32)
      ⟨fun h x => by cases x; exacts [h.1, h.2], fun h => ⟨h .a, h .b⟩⟩
  inferInstanceAs (Decidable (_ ∧ _ ∧ _))

theorem streamInv_init (addr : Side → TcpAddr) : StreamInv addr tcpConnInit where
  seq := ⟨_, seqInv_init addr⟩
  conn := connInv_init
  queues _ := ⟨fun _ => queueOk_default, fun _ => endsAtNxt_empty rfl⟩
  settled _ _ hi := absurd hi (not_isConn_of_invalid rfl)
  stream _ _ hi := absurd hi (not_isConn_of_invalid rfl)

section
variable {addr : Side → TcpAddr} {s s' : TcpConn} {rcv : Side → ℕ} {x : Side} {i : TcbIndex}

theorem SeqInv.rcvNxt (J : SeqInv addr rcv s) (hi : ((s.table x).tcbs i).IsConn) :
    ((s.table x).tcbs i).rcvNxt.toNat = rcv x := ((J.side x).tcb i hi).rcvNxt

theorem SeqInv.sndNxt (J : SeqInv addr rcv s) (hi : ((s.table x).tcbs i).IsConn) :
    ((s.table x).tcbs i).sndNxt.toNat = s.used x := ((J.side x).tcb i hi).sndNxt

theorem SeqInv.not_closing (J : SeqInv addr rcv s) (hi : ((s.table x).tcbs i).IsConn) :
    ((s.table x).tcbs i).state ≠ .closing :=
  fun hst => ((J.side x).tcb i hi).state (by rw [hst]; decide)

theorem SeqInv.rcv_le_peer (J : SeqInv addr rcv s) (x : Side) : rcv x.other ≤ s.used x := by
  have h := J.rcv_le x.other
  rwa [Side.other_other] at h

/-- A segment of the peer acknowledges nothing that was not sent. -/
theorem SeqInv.ackNum_le (J : SeqInv addr rcv s) (hi : ((s.table x).tcbs i).IsConn)
    {pkt : IpDatagram} (hpkt : pkt ∈ s.sent x.other)
    (hack : (tcpFields pkt.data).flags &&& tcpFlagAck ≠ 0) :
    (tcpFields pkt.data).ackNum ≤ ((s.table x).tcbs i).sndNxt := by
  rw [UInt32.le_iff_toNat_le, J.sndNxt hi]
  exact ((J.sent x.other pkt hpkt).seg.ack hack).trans (J.rcv_le_peer x)

/-- In the states before the streams end. -/
theorem StreamOk.of_streams (J : SeqInv addr rcv s) (C : ConnInv s)
    (hi : ((s.table x).tcbs i).IsConn) (hst : ((s.table x).tcbs i).state.Streams) :
    StreamOk (s.view x) ((s.table x).tcbs i) := by
  have htcb := (C.side x).tcb i hi
  rcases hst with hst | hst | hst
  · refine htcb.streamOk (.inl hst) ?_
    have h0 : rcv x = 0 := ((J.side x).tcb i hi).synSent hst
    rw [J.rcvNxt hi, h0]
    exact Nat.zero_le 1
  · refine htcb.streamOk (.inr hst) ?_
    rw [htcb.synReceived hst]
    exact le_rfl
  · exact (htcb.receiving hst).streamOk hst (J.bound x.other)

/-- Only what the application has and the peer's stream count. -/
theorem StreamOk.congr {v v' : TcpView} {tcb : Tcb} (h : StreamOk v tcb)
    (hdel : v'.delivered = v.delivered) (hacc : v'.peerAcc = v.peerAcc)
    (hfin : v'.peerFin = v.peerFin) : StreamOk v' tcb := by
  refine ⟨?_, ?_⟩
  · rw [hdel, hacc]
    exact h.delivered
  · rw [hacc, hfin]
    exact h.ended

variable {env : IpEnv} {c : TcpInput} {more : List UInt8} {fin : Bool}

theorem TcpConnMove.table_self (h : TcpConnMove s env x c more fin s') :
    s'.table x = tcpStep (s.table x) (env, c) := by
  rw [h.commit]
  exact Function.update_self ..

theorem TcpConnMove.table_other (h : TcpConnMove s env x c more fin s') {y : Side} (hy : y ≠ x) :
    s'.table y = s.table y := by
  rw [h.commit]
  exact Function.update_of_ne hy ..

theorem TcpConnMove.stepped (h : TcpConnMove s env x c more fin s')
    (Q : TableQueueOk (s.table x)) :
    TcpStepped env (s.table x) c (s'.table x) (tcpStepOut (s.table x) (env, c)) := by
  rw [h.table_self]
  exact tcpStep_stepped Q env c

/-- What one side accepts, or its FIN, as the other sees it. -/
theorem TcpConnMove.view_other (h : TcpConnMove s env x c more fin s') {y : Side} (hy : y ≠ x) :
    s'.view y = { s.view y with
      peerAcc := s.accepted y.other ++ more, peerFin := s.closed y.other || fin } := by
  obtain rfl : x = y.other := by rw [Side.eq_other_of_ne hy, Side.other_other]
  rw [h.commit]
  simp [TcpConn.view, TcpConn.commit, Function.update_of_ne hy]

/-- Only a side that has not closed accepts bytes. -/
theorem TcpConnMove.grows (h : TcpConnMove s env x c more fin s') (J : SeqInv addr rcv s) :
    Grows (s.accepted x) (s.closed x) (s.accepted x ++ more) (s.closed x || fin) := by
  refine ⟨List.prefix_append _ _, fun hclosed => ?_⟩
  by_cases hmore : more = []
  · rw [hmore, List.append_nil, hclosed, Bool.true_or]
    exact ⟨rfl, rfl⟩
  · obtain ⟨i, hi, hst⟩ := h.accepts hmore
    have hfree : s.closed x = false := ((J.side x).tcb i hi).unclosed (by rw [hst]; decide)
    exact absurd (hclosed.symm.trans hfree) (by decide)

/-- The mover keeps its queues settled. -/
theorem StreamInv.settled_self (I : StreamInv addr s) (h : TcpConnMove s env x c more fin s')
    (hi : ((s'.table x).tcbs i).IsConn) : ((s'.table x).tcbs i).Settled := by
  obtain ⟨rcv, J⟩ := I.seq
  rw [h.table_self] at hi ⊢
  rcases tcpStep_slot (I.queues x).1 env c i with ⟨hkept | ⟨-, hfree⟩, -⟩ | ⟨-, hstep⟩
  · rw [hkept] at hi ⊢
    exact I.settled x i hi
  · rw [hfree] at hi
    exact absurd hi (not_isConn_of_invalid rfl)
  · refine hstep.settled ((I.queues x).2 i) (I.settled x i) J.not_closing (fun pkt hc hconn => ?_)
      hi
    exact J.ackNum_le hconn (h.receive pkt hc)

/-- The mover has been handed what its `rcv_nxt` says. -/
theorem StreamInv.stream_self (I : StreamInv addr s) (h : TcpConnMove s env x c more fin s')
    (J' : SeqInv addr rcv s') (C' : ConnInv s') (hi : ((s'.table x).tcbs i).IsConn) :
    StreamOk (s'.view x) ((s'.table x).tcbs i) := by
  by_cases hst : ((s'.table x).tcbs i).state.Streams
  · exact .of_streams J' C' hi hst
  obtain ⟨rcv₀, J⟩ := I.seq
  have hview : (tcpStepOut (s.table x) (env, c)).received = [] →
      StreamOk (s.view x) ((s'.table x).tcbs i) →
      StreamOk (s'.view x) ((s'.table x).tcbs i) := by
    intro hnone hstream
    refine hstream.congr ?_ ?_ ?_
    · simp [h.commit, TcpConn.view, TcpConn.commit, hnone]
    · simp [h.commit, TcpConn.view, TcpConn.commit, Function.update_of_ne (Side.other_ne x)]
    · simp [h.commit, TcpConn.view, TcpConn.commit, Function.update_of_ne (Side.other_ne x)]
  have hstepped := h.stepped (I.queues x).1
  generalize tcpStepOut (s.table x) (env, c) = out at hview hstepped
  rcases hstepped.conn hi fun j hj => (J'.side x).unique j i hj hi with
    ⟨hsame, hout⟩ | ⟨-, hstep⟩
  · refine hview ?_ (by rw [hsame] at hi ⊢; exact I.stream x i hi)
    rcases hout with rfl | ⟨j, tcb, -, hidle, hstep⟩
    · rfl
    · by_contra hne
      exact hidle (hstep.handsOver hne).1
  · refine hview ?_ (hstep.streamOk hst (I.stream x i) J.not_closing (fun pkt hc => ?_)
      (J.bound x.other) hi)
    · by_contra hne
      exact hst (.inr (.inr (hstep.handsOver hne).2))
    · exact (J.sent x.other pkt (h.receive pkt hc)).seg.seg

theorem StreamInv.step (I : StreamInv addr s) {input : IpEnv × TcpConnInput}
    (h : TcpConnOrderly addr s input) : StreamInv addr (tcpConnStep addr s input) := by
  obtain ⟨env, input⟩ := input
  obtain ⟨hsafe, halive, hbound⟩ := h
  obtain ⟨rcv, J⟩ := I.seq
  obtain ⟨rcv', J'⟩ := J.step halive hbound
  have C' := I.conn.step hsafe
  rcases tcpConnStep_moves addr (fun x => (I.queues x).1) env input with
    hsame | ⟨y, c, more, fin, hmove⟩
  · rw [hsame]
    exact I
  · generalize tcpConnStep addr s (env, input) = s' at J' C' hmove ⊢
    refine ⟨⟨rcv', J'⟩, C', fun x => ?_, fun x i hi => ?_, fun x i hi => ?_⟩
    · by_cases hx : x = y
      · subst hx
        rw [hmove.table_self]
        exact ⟨(I.queues x).1.step _, (I.queues x).2.step (I.queues x).1 _⟩
      · rw [hmove.table_other hx]
        exact I.queues x
    · by_cases hx : x = y
      · subst hx
        exact I.settled_self hmove hi
      · rw [hmove.table_other hx] at hi ⊢
        exact I.settled x i hi
    · by_cases hx : x = y
      · subst hx
        exact I.stream_self hmove J' C' hi
      · rw [hmove.table_other hx] at hi ⊢
        rw [hmove.view_other hx]
        obtain rfl : y = x.other := Side.eq_other_of_ne (Ne.symm hx)
        refine (I.stream x i hi).peer (hmove.grows J) ?_
        rw [J.rcvNxt hi]
        exact J.rcv_le x

end

theorem streamInv_run {addr : Side → TcpAddr} {inputs : List (IpEnv × TcpConnInput)}
    (h : Guarded (tcpConnStep addr) (TcpConnOrderly addr) tcpConnInit inputs) :
    StreamInv addr (run (tcpConnStep addr) tcpConnInit inputs) :=
  guarded_invariant (StreamInv addr) (fun _ _ hg I => I.step hg) inputs tcpConnInit h
    (streamInv_init addr)

/-! ## Results -/

/-- Where nothing is outstanding the peer has received and handed over everything. -/
theorem StreamInv.acked {addr : Side → TcpAddr} {s : TcpConn} (I : StreamInv addr s) {x : Side}
    {i j : TcbIndex} (hi : ((s.table x).tcbs i).IsConn)
    (hj : ((s.table x.other).tcbs j).IsConn) (hempty : ((s.table x).tcbs i).sendq.held = 0) :
    ((s.table x.other).tcbs j).rcvNxt = ((s.table x).tcbs i).sndNxt ∧
      (((s.table x.other).tcbs j).recvHandler.isSome = true →
        s.delivered x.other = s.accepted x) := by
  obtain ⟨rcv, J⟩ := I.seq
  have huna : ((s.table x).tcbs i).sndUna.toNat ≤ rcv x.other := ((J.side x).tcb i hi).sndUna
  have hle : rcv x.other ≤ s.used x := J.rcv_le_peer x
  have hnxt : ((s.table x.other).tcbs j).rcvNxt.toNat = s.used x := by
    rw [I.settled x i hi hempty, J.sndNxt hi] at huna
    rw [J.rcvNxt hj]
    exact Nat.le_antisymm hle huna
  refine ⟨UInt32.toNat_inj.mp (hnxt.trans (J.sndNxt hi).symm), fun hhandler => ?_⟩
  have hdel : s.delivered x.other = (s.accepted x.other.other).take _ :=
    (I.stream x.other j hj).delivered hhandler
  rw [hdel, hnxt, Side.other_other]
  refine List.take_of_length_le ?_
  unfold TcpConn.used
  omega

/-- In every reachable state, a TCB without unacknowledged segments has a peer that has taken
    all sequence numbers sent and handed over all bytes that `tcp_send` accepted. -/
theorem tcpConn_acked_delivered (addr : Side → TcpAddr) (inputs : List (IpEnv × TcpConnInput))
    (h : Guarded (tcpConnStep addr) (TcpConnOrderly addr) tcpConnInit inputs)
    (x : Side) (i j : TcbIndex) :
    let s := run (tcpConnStep addr) tcpConnInit inputs
    let sender := (s.table x).tcbs i
    let receiver := (s.table x.other).tcbs j
    sender.IsConn → receiver.IsConn → tcpSendqHasUnacked sender = false →
      receiver.rcvNxt = sender.sndNxt ∧
      (receiver.recvHandler.isSome = true → s.delivered x.other = s.accepted x) := by
  intro s sender receiver hi hj hidle
  have I : StreamInv addr s := streamInv_run h
  exact I.acked hi hj (held_eq_zero.mpr (((I.queues x).1 i).sendq.held_eq_false hidle))

/-- A step at which the IP layer takes every segment. -/
def lossless (input : TcpConnInput) : IpEnv × TcpConnInput := ({}, input)

/-- The byte of `exampleRun` is acknowledged. -/
def ackedRun : List (IpEnv × TcpConnInput) := exampleRun ++ [lossless (.deliver .a 1)]

theorem tcpConn_acked_delivered_ackedRun :
    let s := run (tcpConnStep exampleAddr) tcpConnInit ackedRun
    ((s.table Side.a.other).tcbs (1 : TcbIndex)).rcvNxt = ((s.table .a).tcbs (0 : TcbIndex)).sndNxt ∧
      (((s.table Side.a.other).tcbs (1 : TcbIndex)).recvHandler.isSome = true →
        s.delivered Side.a.other = s.accepted .a) :=
  tcpConn_acked_delivered exampleAddr ackedRun (by decide +kernel) .a 0 1 (by decide +kernel)
    (by decide +kernel) (by decide +kernel)

/-- In every reachable state, a TCB in a state behind the peer's FIN has been handed the whole
    stream of the peer, and one in a state behind the ACK of its own FIN has a peer that has
    been handed its whole stream. In `TCP_TIME_WAIT` both have arrived. -/
theorem tcpConn_closed_delivered (addr : Side → TcpAddr) (inputs : List (IpEnv × TcpConnInput))
    (h : Guarded (tcpConnStep addr) (TcpConnOrderly addr) tcpConnInit inputs)
    (x : Side) (i j : TcbIndex) :
    let s := run (tcpConnStep addr) tcpConnInit inputs
    let tcb := (s.table x).tcbs i
    let peer := (s.table x.other).tcbs j
    tcb.IsConn → peer.IsConn →
      (tcb.state ∈ [.closeWait, .lastAck, .timeWait] → s.closed x.other = true ∧
        (tcb.recvHandler.isSome = true → s.delivered x = s.accepted x.other)) ∧
      (tcb.state ∈ [.finWait2, .timeWait] → peer.rcvNxt = tcb.sndNxt ∧
        (peer.recvHandler.isSome = true → s.delivered x.other = s.accepted x)) := by
  intro s tcb peer hi hj
  have I : StreamInv addr s := streamInv_run h
  refine ⟨fun hst => ?_, fun hst => ?_⟩
  · obtain ⟨hfin, hnxt⟩ := (I.stream x i hi).ended hst
    refine ⟨hfin, fun hhandler => ?_⟩
    have hdel : s.delivered x = (s.accepted x.other).take (tcb.rcvNxt.toNat - 1) :=
      (I.stream x i hi).delivered hhandler
    have hnat : tcb.rcvNxt.toNat = 2 + (s.accepted x.other).length := hnxt
    rw [hdel, hnat]
    exact List.take_of_length_le (by omega)
  · have hshape := ((I.queues x).1 i).shape hi.1
    refine I.acked hi hj ?_
    simp only [List.mem_cons, List.not_mem_nil, or_false] at hst
    rcases hst with hst | hst
    · rw [show ((s.table x).tcbs i).state = _ from hst] at hshape
      exact hshape
    · rw [show ((s.table x).tcbs i).state = _ from hst] at hshape
      exact hshape

/-- Both sides close; side `a` is in `TCP_TIME_WAIT` and its ACK is under way. -/
def closedRun (i j : TcbIndex) : List (IpEnv × TcpConnInput) :=
  ackedRun ++ [lossless (.close .a i), lossless (.deliver .b 3), lossless (.deliver .a 2),
    lossless (.close .b j), lossless (.deliver .a 3)]

theorem tcpConn_closed_delivered_closedRun :
    let s := run (tcpConnStep exampleAddr) tcpConnInit (closedRun 0 1)
    let tcb := (s.table .a).tcbs (0 : TcbIndex)
    let peer := (s.table Side.a.other).tcbs (1 : TcbIndex)
    tcb.state = .timeWait ∧
      (tcb.state ∈ [.closeWait, .lastAck, .timeWait] → s.closed Side.a.other = true ∧
        (tcb.recvHandler.isSome = true → s.delivered .a = s.accepted Side.a.other)) ∧
      (tcb.state ∈ [.finWait2, .timeWait] → peer.rcvNxt = tcb.sndNxt ∧
        (peer.recvHandler.isSome = true → s.delivered Side.a.other = s.accepted .a)) :=
  ⟨by decide +kernel, tcpConn_closed_delivered exampleAddr (closedRun 0 1) (by decide +kernel) .a 0 1
    (by decide +kernel) (by decide +kernel)⟩

end FrameRunner
