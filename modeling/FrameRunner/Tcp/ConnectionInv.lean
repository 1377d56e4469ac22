import FrameRunner.Tcp.Calls
import FrameRunner.Tcp.Connection

/-!
# The invariant of a connection

Per endpoint: what its segments in the network carry (`SegOk`), what its send
queue looks like (`SendqOk`), and how `snd_nxt` and `rcv_nxt` of its TCB relate
to the bytes accepted on both sides and the bytes delivered (`TcbOk`). `SideOk`
puts these together for a whole table; there is one lemma for each function of
the module.
-/

namespace FrameRunner

open FrameRunner.Lib

/-! ## Segments -/

/-- A segment of an endpoint that has accepted the bytes `acc` and has perhaps
    closed: data sits at its place in the stream, a SYN at sequence number 0 and
    a FIN after the last byte. -/
structure SegOk (acc : List UInt8) (fin : Bool) (hdr : TcpFields) : Prop where
  syn : hdr.flags &&& tcpFlagSyn ≠ 0 → hdr.seqNum = 0
  place : hdr.payload ≠ [] → ∃ k, hdr.seqNum.toNat = 1 + k ∧
    k + hdr.payload.length ≤ acc.length ∧
    hdr.payload = (acc.drop k).take hdr.payload.length
  fin : hdr.flags &&& tcpFlagFin ≠ 0 →
    fin = true ∧ hdr.seqNum.toNat = 1 + acc.length

/-- The endpoint has accepted more bytes, or closed; not both. -/
structure Grows (acc : List UInt8) (fin : Bool) (acc' : List UInt8) (fin' : Bool) : Prop where
  pre : acc <+: acc'
  closed : fin = true → acc' = acc ∧ fin' = true

theorem Grows.refl (acc : List UInt8) (fin : Bool) : Grows acc fin acc fin :=
  ⟨List.prefix_refl _, fun h => ⟨rfl, h⟩⟩

theorem SegOk.mono {acc acc' : List UInt8} {fin fin' : Bool} {hdr : TcpFields}
    (h : SegOk acc fin hdr) (g : Grows acc fin acc' fin') : SegOk acc' fin' hdr := by
  refine ⟨h.syn, fun hp => ?_, fun hf => ?_⟩
  · obtain ⟨k, hk, hle, he⟩ := h.place hp
    obtain ⟨rest, rfl⟩ := g.pre
    refine ⟨k, hk, by simp; omega, ?_⟩
    rw [List.drop_append_of_le_length (by omega), List.take_append_of_le_length (by simp; omega)]
    exact he
  · obtain ⟨h1, h2⟩ := h.fin hf
    obtain ⟨rfl, h3⟩ := g.closed h1
    exact ⟨h3, h2⟩

/-- A segment without payload and FIN. -/
theorem segOk_control {acc : List UInt8} {fin : Bool} {env : IpEnv} {tcb : Tcb}
    {seq ack : UInt32} {flags : UInt8} {pkt : IpDatagram} (hflags : TcpFlagsOk flags)
    (hsyn : flags &&& tcpFlagSyn ≠ 0 → seq = 0) (hfin : flags &&& tcpFlagFin = 0)
    (h : tcpSendSegment env tcb seq ack flags [] = some pkt) :
    SegOk acc fin (tcpFields pkt.data) := by
  obtain ⟨h1, h2, h3, -⟩ := tcpSendSegment_fields hflags h
  refine ⟨fun hs => ?_, fun hp => absurd h3 hp, fun hf => ?_⟩
  · rw [h1]; exact hsyn (h2 ▸ hs)
  · rw [h2] at hf; exact absurd hfin hf

theorem segOk_ack {acc : List UInt8} {fin : Bool} {env : IpEnv} {tcb : Tcb} {pkt : IpDatagram}
    (h : tcpSendAck env tcb = some pkt) : SegOk acc fin (tcpFields pkt.data) :=
  segOk_control (by decide) (fun h => absurd (by decide) h) (by decide) h

/-! ## Endpoints -/

/-- The streams seen from one endpoint. -/
structure TcpView where
  /-- accepted here, and whether the side has closed -/
  acc : List UInt8
  fin : Bool
  /-- accepted by the peer, and whether it has closed -/
  peerAcc : List UInt8
  peerFin : Bool
  /-- handed to the application here -/
  delivered : List UInt8

/-- `rcv_nxt` stands after the `n` bytes taken from the peer, which are the
    bytes delivered if there is a handler, or after the FIN that follows them. -/
def RcvOk (v : TcpView) (tcb : Tcb) : Prop :=
  ∃ n, n ≤ v.peerAcc.length ∧
    (tcb.recvHandler.isSome = true → v.delivered = v.peerAcc.take n) ∧
    (tcb.recvHandler = none → v.delivered = []) ∧
    (tcb.rcvNxt.toNat = 1 + n ∨
      v.peerFin = true ∧ n = v.peerAcc.length ∧ tcb.rcvNxt = UInt32.ofNat (2 + n))

theorem RcvOk.congr {v v' : TcpView} {tcb tcb' : Tcb} (h : RcvOk v tcb)
    (hacc : v'.peerAcc = v.peerAcc) (hfin : v'.peerFin = v.peerFin)
    (hdel : v'.delivered = v.delivered) (hrecv : tcb'.recvHandler = tcb.recvHandler)
    (hnxt : tcb'.rcvNxt = tcb.rcvNxt) : RcvOk v' tcb' := by
  unfold RcvOk
  rw [hacc, hfin, hdel, hrecv, hnxt]
  exact h

/-- The peer accepts more, or closes. -/
theorem RcvOk.peer {v : TcpView} {tcb : Tcb} (h : RcvOk v tcb) {acc' : List UInt8} {fin' : Bool}
    (g : Grows v.peerAcc v.peerFin acc' fin') :
    RcvOk { v with peerAcc := acc', peerFin := fin' } tcb := by
  obtain ⟨n, hn, hsome, hnone, hnxt⟩ := h
  obtain ⟨rest, hrest⟩ := g.pre
  refine ⟨n, by dsimp only; rw [← hrest, List.length_append]; omega, fun hh => ?_, hnone, ?_⟩
  · dsimp only
    rw [hsome hh, ← hrest, List.take_append_of_le_length hn]
  · rcases hnxt with h1 | ⟨hpf, hend, h1⟩
    · exact .inl h1
    · obtain ⟨hsame, hfin'⟩ := g.closed hpf
      exact .inr ⟨hfin', by rw [hsame]; exact hend, h1⟩

/-- The TCB of the connection. -/
structure TcbOk (v : TcpView) (tcb : Tcb) : Prop where
  sendq : SendqOk tcb
  handshake : tcb.state = .synSent ∨ tcb.state = .synReceived →
    tcb.sndNxt = 1 ∧ v.acc = [] ∧ v.delivered = [] ∧ v.fin = false
  synReceived : tcb.state = .synReceived → tcb.rcvNxt = 1
  sending : tcb.state = .established ∨ tcb.state = .closeWait →
    tcb.sndNxt.toNat = 1 + v.acc.length ∧ v.fin = false
  receiving : tcb.state = .established → RcvOk v tcb

/-- A whole table. -/
structure SideOk (v : TcpView) (opened : Bool) (tcbs : Slots tcpMaxConns Tcb) : Prop where
  tcb : ∀ i, (tcbs i).IsConn → TcbOk v (tcbs i)
  unique : ∀ i j, (tcbs i).IsConn → (tcbs j).IsConn → i = j
  fresh : opened = false →
    (∀ i, ¬ (tcbs i).IsConn) ∧ v.acc = [] ∧ v.delivered = [] ∧ v.fin = false
  tracked : ∀ i k b, ((tcbs i).sendq.entries k).pkt = some b → SegOk v.acc v.fin (tcpFields b)
  pre : v.delivered <+: v.peerAcc

/-- A call keeps the endpoint sound, with the bytes `more` accepted. -/
structure SideStep (v : TcpView) (opened : Bool) (table : TcpTable) (out : TcpOut)
    (more : List UInt8) (fin : Bool) : Prop where
  side : SideOk { v with acc := v.acc ++ more, fin := v.fin || fin,
                         delivered := v.delivered ++ out.received }
    (opened || table.hasConn) table.tcbs
  sent : ∀ p ∈ out.sent, SegOk (v.acc ++ more) (v.fin || fin) (tcpFields p.data)
  grows : Grows v.acc v.fin (v.acc ++ more) (v.fin || fin)
  bound : more = [] ∨ 1 + (v.acc ++ more).length < 2 ^ 32

theorem TcpTable.hasConn_eq_true {table : TcpTable} :
    table.hasConn = true ↔ ∃ i, (table.tcbs i).IsConn := by
  unfold TcpTable.hasConn
  rw [Option.isSome_iff_exists]
  constructor
  · rintro ⟨i, hi⟩
    exact ⟨i, by simpa using (Fin.find?_eq_some_iff.mp hi).1⟩
  · rintro ⟨i, hi⟩
    cases hf : Fin.find? fun i => decide (table.tcbs i).IsConn with
    | some j => exact ⟨j, rfl⟩
    | none =>
      have := Fin.find?_eq_none_iff.mp hf i
      simp [hi] at this

namespace SideOk

variable {v : TcpView} {opened : Bool} {tcbs : Slots tcpMaxConns Tcb} {i : TcbIndex} {tcb : Tcb}

/-- `opened` may be set. -/
theorem or_opened (I : SideOk v opened tcbs) (b : Bool) : SideOk v (opened || b) tcbs :=
  { I with fresh := fun h => I.fresh (by cases opened <;> simp_all) }

theorem opened_of_conn (I : SideOk v opened tcbs) (hi : (tcbs i).IsConn) : opened = true := by
  cases opened with
  | true => rfl
  | false => exact absurd hi ((I.fresh rfl).1 i)

/-- The peer accepts more, or closes. -/
theorem peer (I : SideOk v opened tcbs) {acc' : List UInt8} {fin' : Bool}
    (g : Grows v.peerAcc v.peerFin acc' fin') :
    SideOk { v with peerAcc := acc', peerFin := fin' } opened tcbs where
  tcb i hi :=
    let h := I.tcb i hi
    { sendq := h.sendq, handshake := h.handshake, synReceived := h.synReceived,
      sending := h.sending, receiving := fun hst => (h.receiving hst).peer g }
  unique := I.unique
  fresh := I.fresh
  tracked := I.tracked
  pre := I.pre.trans g.pre

/-- Where all connections were in slot `i`, a write of it makes no other. -/
theorem isConn_update_only (honly : ∀ j, (tcbs j).IsConn → j = i) {j : TcbIndex}
    (hj : (Function.update tcbs i tcb j).IsConn) : j = i := by
  by_contra hne
  rw [Function.update_of_ne hne] at hj
  exact hne (honly j hj)

/-- A write of what is no connection leaves those that there are. -/
theorem isConn_update_idle (htcb : ¬ tcb.IsConn) {j : TcbIndex}
    (hj : (Function.update tcbs i tcb j).IsConn) :
    (tcbs j).IsConn ∧ Function.update tcbs i tcb j = tcbs j := by
  by_cases hji : j = i
  · subst hji
    rw [Function.update_self] at hj
    exact absurd hj htcb
  · rw [Function.update_of_ne hji] at hj ⊢
    exact ⟨hj, rfl⟩

/-- The tracked segments are sound after one TCB is written. -/
theorem segOk_update {acc : List UInt8} {fin : Bool}
    (hold : ∀ j k b, ((tcbs j).sendq.entries k).pkt = some b → SegOk acc fin (tcpFields b))
    (hnew : ∀ k b, (tcb.sendq.entries k).pkt = some b → SegOk acc fin (tcpFields b)) :
    ∀ j k b, ((Function.update tcbs i tcb j).sendq.entries k).pkt = some b →
      SegOk acc fin (tcpFields b) :=
  Slots.forall_update (p := fun tcb : Tcb => ∀ k b, (tcb.sendq.entries k).pkt = some b →
    SegOk acc fin (tcpFields b)) hold hnew i

/-- The TCB of the connection changes, with the streams. -/
theorem setConn (I : SideOk v opened tcbs) (hi : (tcbs i).IsConn) {v' : TcpView}
    (hg : Grows v.acc v.fin v'.acc v'.fin) (hpre : v'.delivered <+: v'.peerAcc)
    (htcb : tcb.IsConn → TcbOk v' tcb)
    (htracked : ∀ k b, (tcb.sendq.entries k).pkt = some b → SegOk v'.acc v'.fin (tcpFields b)) :
    SideOk v' opened (Function.update tcbs i tcb) := by
  have hother : ∀ j, (Function.update tcbs i tcb j).IsConn → j = i := fun _ =>
    isConn_update_only fun j hj => I.unique j i hj hi
  refine ⟨fun j hj => ?_, fun j k hj hk => (hother j hj).trans (hother k hk).symm,
    fun h => ?_, segOk_update (fun j k b hb => (I.tracked j k b hb).mono hg) htracked, hpre⟩
  · obtain rfl := hother j hj
    rw [Function.update_self] at hj ⊢
    exact htcb hj
  · rw [I.opened_of_conn hi] at h
    exact absurd h (by decide)

/-- A slot that is no connection and does not become one. -/
theorem setIdle (I : SideOk v opened tcbs) (htcb : ¬ tcb.IsConn)
    (htracked : ∀ k b, (tcb.sendq.entries k).pkt = some b → SegOk v.acc v.fin (tcpFields b)) :
    SideOk v opened (Function.update tcbs i tcb) := by
  have hconn : ∀ j, (Function.update tcbs i tcb j).IsConn →
      (tcbs j).IsConn ∧ Function.update tcbs i tcb j = tcbs j := fun _ => isConn_update_idle htcb
  refine ⟨fun j hj => ?_, fun j k hj hk => I.unique j k (hconn j hj).1 (hconn k hk).1,
    fun h => ⟨fun j hj => (I.fresh h).1 j (hconn j hj).1, (I.fresh h).2⟩,
    segOk_update I.tracked htracked, I.pre⟩
  · rw [(hconn j hj).2]
    exact I.tcb j (hconn j hj).1

/-- The connection is set up. -/
theorem setOpen (I : SideOk v false tcbs) (htcb : TcbOk v tcb)
    (htracked : ∀ k b, (tcb.sendq.entries k).pkt = some b → SegOk v.acc v.fin (tcpFields b)) :
    SideOk v true (Function.update tcbs i tcb) := by
  have hconn : ∀ j, (Function.update tcbs i tcb j).IsConn → j = i := fun _ =>
    isConn_update_only fun j hj => absurd hj ((I.fresh rfl).1 j)
  refine ⟨fun j hj => ?_, fun j k hj hk => (hconn j hj).trans (hconn k hk).symm,
    fun h => absurd h (by decide), segOk_update I.tracked htracked, I.pre⟩
  · obtain rfl := hconn j hj
    rw [Function.update_self]
    exact htcb

/-- A call that only changes the table, and sends sound segments. -/
theorem quiet {table : TcpTable} (I : SideOk v opened table.tcbs) {out : TcpOut}
    (hrecv : out.received = []) (hsent : ∀ p ∈ out.sent, SegOk v.acc v.fin (tcpFields p.data)) :
    SideStep v opened table out [] false := by
  have hv : { v with acc := v.acc ++ [], fin := v.fin || false,
                     delivered := v.delivered ++ out.received } = v := by
    simp [hrecv]
  refine ⟨by rw [hv]; exact I.or_opened _, ?_, ?_, .inl rfl⟩
  · simpa using hsent
  · simpa using Grows.refl v.acc v.fin

/-- A call that does nothing. -/
theorem unchanged {table : TcpTable} (I : SideOk v opened table.tcbs) :
    SideStep v opened table {} [] false :=
  I.quiet rfl fun _ h => nomatch h

/-- A call that changes the TCB of the connection, with the streams. -/
theorem conn {table : TcpTable} (I : SideOk v opened table.tcbs) (hi : (table.tcbs i).IsConn)
    {table' : TcpTable} (htable : table'.tcbs = Function.update table.tcbs i tcb) {out : TcpOut}
    {more : List UInt8} {fin : Bool} (hfin : v.fin = true → more = [])
    (hbound : more = [] ∨ 1 + (v.acc ++ more).length < 2 ^ 32)
    (hpre : v.delivered ++ out.received <+: v.peerAcc)
    (htcb : TcbOk { v with acc := v.acc ++ more, fin := v.fin || fin,
                           delivered := v.delivered ++ out.received } tcb)
    (htracked : ∀ k b, (tcb.sendq.entries k).pkt = some b →
      SegOk (v.acc ++ more) (v.fin || fin) (tcpFields b))
    (hsent : ∀ p ∈ out.sent, SegOk (v.acc ++ more) (v.fin || fin) (tcpFields p.data)) :
    SideStep v opened table' out more fin := by
  have hgrows : Grows v.acc v.fin (v.acc ++ more) (v.fin || fin) :=
    ⟨List.prefix_append _ _, fun h => ⟨by rw [hfin h, List.append_nil], by rw [h, Bool.true_or]⟩⟩
  refine ⟨?_, hsent, hgrows, hbound⟩
  rw [htable]
  exact (I.setConn hi hgrows hpre (fun _ => htcb) htracked).or_opened _

/-- A call that accepts nothing and changes the TCB of the connection. -/
theorem connRecv {table : TcpTable} (I : SideOk v opened table.tcbs) (hi : (table.tcbs i).IsConn)
    {table' : TcpTable} (tcb : Tcb) (htable : table'.tcbs = Function.update table.tcbs i tcb)
    {out : TcpOut}
    (hpre : v.delivered ++ out.received <+: v.peerAcc)
    (htcb : TcbOk { v with delivered := v.delivered ++ out.received } tcb)
    (htracked : ∀ k b, (tcb.sendq.entries k).pkt = some b →
      ∃ k, ((table.tcbs i).sendq.entries k).pkt = some b)
    (hsent : ∀ p ∈ out.sent, SegOk v.acc v.fin (tcpFields p.data)) :
    SideStep v opened table' out [] false := by
  refine I.conn hi htable (fun _ => rfl) (.inl rfl) hpre ?_ (fun k b hb => ?_) ?_
  · rw [List.append_nil, Bool.or_false]
    exact htcb
  · obtain ⟨k', hb'⟩ := htracked k b hb
    rw [List.append_nil, Bool.or_false]
    exact I.tracked i k' b hb'
  · rw [List.append_nil, Bool.or_false]
    exact hsent

/-- A call that accepts and delivers nothing and changes the TCB of the connection. -/
theorem connQuiet {table : TcpTable} (I : SideOk v opened table.tcbs) (hi : (table.tcbs i).IsConn)
    {table' : TcpTable} (tcb : Tcb) (htable : table'.tcbs = Function.update table.tcbs i tcb)
    {out : TcpOut}
    (htcb : TcbOk v tcb)
    (htracked : ∀ k b, (tcb.sendq.entries k).pkt = some b →
      ∃ k, ((table.tcbs i).sendq.entries k).pkt = some b)
    (hrecv : out.received = []) (hsent : ∀ p ∈ out.sent, SegOk v.acc v.fin (tcpFields p.data)) :
    SideStep v opened table' out [] false := by
  have hdel : v.delivered ++ out.received = v.delivered := by rw [hrecv, List.append_nil]
  exact I.connRecv hi tcb htable (by rw [hdel]; exact I.pre) (by rw [hdel]; exact htcb) htracked
    hsent

end SideOk

end FrameRunner
