import FrameRunner.Tcp.ConnectionInv

/-!
# Every call keeps an endpoint sound

One lemma for each function of the module: under the condition of
`TcpConnSafe`, the call is a `SideStep`.
-/

namespace FrameRunner

open FrameRunner.Lib

variable {v : TcpView} {opened : Bool} {table : TcpTable} {env : IpEnv}

/-! ## Slots -/

theorem not_isConn_of_invalid {tcb : Tcb} (h : tcb.valid = false) : ¬ tcb.IsConn := by
  rintro ⟨hv, -⟩
  simp [h] at hv

theorem tcpFindExact_isConn {ip ip' : UInt32} {port port' : UInt16} {i : TcbIndex}
    (h : tcpFindExact table ip port ip' port' = some i) : (table.tcbs i).IsConn := by
  obtain ⟨hi, -⟩ := Fin.find?_eq_some_iff.mp h
  simp only [Bool.and_eq_true, bne_iff_ne] at hi
  exact ⟨hi.1.1.1.1.1, hi.1.1.1.1.2⟩

/-- Releasing the TCB of the connection. -/
theorem SideOk.release {tcbs : Slots tcpMaxConns Tcb} (I : SideOk v opened tcbs) {i : TcbIndex}
    (hi : (tcbs i).IsConn) : SideOk v opened (Function.update tcbs i {}) :=
  I.setConn hi (Grows.refl _ _) I.pre (fun h => absurd h.1 (by decide)) fun _ _ h => nomatch h

/-! ## Opening -/

/-- A slot that is no connection takes the default value. -/
theorem SideOk.unopened {table' : TcpTable} (I : SideOk v opened table.tcbs)
    (h : TcpUnopened table table') : SideOk v opened table'.tcbs := by
  rcases h with h | ⟨i, -, h⟩ <;> rw [h]
  · exact I
  · exact I.setIdle (not_isConn_of_invalid rfl) fun _ _ h => nomatch h

theorem SideOk.listen (I : SideOk v opened table.tcbs) (localIp : UInt32) (localPort : UInt16)
    (recvFn connectFn ctx : Option AppRef) :
    SideStep v opened (tcpListen table localIp localPort recvFn connectFn ctx).1 {} [] false := by
  refine SideOk.unchanged ?_
  rcases tcpListen_cases table localIp localPort recvFn connectFn ctx with
    h | ⟨i, tcb, -, hst, hq, h⟩ <;> rw [h]
  · exact I
  · exact I.setIdle (fun h => h.2 hst) fun _ _ h => by
      rw [hq] at h
      nomatch h

/-- A fresh connection whose first segment is tracked. -/
theorem SideOk.openConn (I : SideOk v false table.tcbs) {table' : TcpTable} {out : TcpOut}
    {i : TcbIndex} {tcb : Tcb} (htable : table'.tcbs = Function.update table.tcbs i tcb)
    (hconn : tcb.IsConn) (htcb : TcbOk v tcb) {clone : List UInt8}
    (hclone : SegOk v.acc v.fin (tcpFields clone))
    (hpkt : ∀ k b, (tcb.sendq.entries k).pkt = some b → b = clone)
    (hrecv : out.received = []) (hsent : ∀ p ∈ out.sent, p.data = clone) :
    SideStep v false table' out [] false := by
  have hhas : table'.hasConn = true :=
    TcpTable.hasConn_eq_true.mpr ⟨i, by rw [htable, Function.update_self]; exact hconn⟩
  have hside : SideOk v true table'.tcbs := by
    rw [htable]
    exact I.setOpen htcb fun k b hb => hpkt k b hb ▸ hclone
  have h := hside.quiet hrecv fun p hp => by rw [hsent p hp]; exact hclone
  exact ⟨by simpa [hhas] using h.side, h.sent, h.grows, h.bound⟩

/-- A handshake segment. -/
theorem TcbOpened.segOk {tcb : Tcb} {state : TcpState} {flags : UInt8} {syn : IpDatagram}
    (h : TcbOpened env tcb state flags syn) (hflags : TcpFlagsOk flags)
    (hfin : flags &&& tcpFlagFin = 0) : SegOk v.acc v.fin (tcpFields syn.data) :=
  segOk_control hflags (fun _ => rfl) hfin h.sent

theorem SideOk.connect (I : SideOk v opened table.tcbs) {localIp remoteIp : UInt32}
    {localPort remotePort : UInt16} {recvFn connectFn ctx : Option AppRef} {table' : TcpTable}
    {res : Option TcbIndex} {out : TcpOut}
    (h : tcpConnect env table localIp remoteIp localPort remotePort recvFn connectFn ctx =
      (table', res, out))
    (hsafe : tcpFindExact table localIp localPort remoteIp remotePort = none → env.ipOk = true →
      opened = false) : SideStep v opened table' out [] false := by
  rcases tcpConnect_cases h with ⟨hun, rfl⟩ | ⟨i, tcb, syn, hfind, -, htable, rfl, hopen, -⟩
  · exact (I.unopened hun).quiet rfl (by simp)
  · obtain rfl := hsafe hfind (tcpSendSegment_fields (by decide) hopen.sent).2.2.2
    obtain ⟨-, hacc, hdel, hfin⟩ := I.fresh rfl
    refine I.openConn htable ⟨hopen.valid, by simp [hopen.state]⟩ ?_
      (hopen.segOk (by decide) (by decide)) (fun k b hb => hopen.tracks.pkt rfl hb)
      rfl (by simp)
    exact ⟨hopen.sendq, fun _ => ⟨hopen.sndNxt, hacc, hdel, hfin⟩, by simp [hopen.state],
      by simp [hopen.state], by simp [hopen.state]⟩

/-! ## Sending -/

/-- The segment of newly accepted bytes. -/
theorem segOk_data {acc more : List UInt8} {fin : Bool} {tcb : Tcb} {seq ack : UInt32}
    {flags : UInt8} {pkt : IpDatagram} (hflags : TcpFlagsOk flags)
    (hctl : flags &&& tcpFlagSyn = 0 ∧ flags &&& tcpFlagFin = 0)
    (hseq : seq.toNat = 1 + acc.length)
    (h : tcpSendSegment env tcb seq ack flags more = some pkt) :
    SegOk (acc ++ more) fin (tcpFields pkt.data) := by
  obtain ⟨h1, h2, h3, -⟩ := tcpSendSegment_fields hflags h
  refine ⟨fun hs => ?_, fun _ => ⟨acc.length, ?_, ?_, ?_⟩, fun hf => ?_⟩
  · exact absurd hctl.1 (h2 ▸ hs)
  · rw [h1]; exact hseq
  · rw [h3]; simp
  · rw [h3]; simp
  · exact absurd hctl.2 (h2 ▸ hf)

theorem SideOk.send (I : SideOk v opened table.tcbs) {i : TcbIndex} {data : List UInt8}
    {table' : TcpTable} {res : Int} {out : TcpOut}
    (h : tcpSend env table i data = (table', res, out))
    (hsafe : (table.tcbs i).valid = true → (table.tcbs i).state = .established →
      tcpSendqHasUnacked (table.tcbs i) = false → env.ipOk = true →
      (table.tcbs i).sndNxt.toNat + min data.length tcpMss < 2 ^ 32) :
    SideStep v opened table' out (if res = 0 then data.take tcpMss else []) false := by
  rcases tcpSend_cases (fun hv hst => (I.tcb i ⟨hv, hst⟩).sendq) h with ⟨rfl, rfl, hnil⟩ |
    ⟨tcb, pkt, rfl, -, hst, hst', htable, rfl, hsent, -⟩
  · have hmore : (if res = 0 then data.take tcpMss else []) = [] := by
      split_ifs with h0
      · rw [hnil h0, List.take_nil]
      · rfl
    rw [hmore]
    exact I.unchanged
  · have hconn : (table.tcbs i).IsConn := ⟨hsent.valid, by rw [hst]; decide⟩
    have htcb := I.tcb i hconn
    obtain ⟨hnxt, hfin⟩ := htcb.sending (.inl hst)
    have hseg : SegOk (v.acc ++ data.take tcpMss) (v.fin || false) (tcpFields pkt.data) :=
      segOk_data (by decide) (by decide) hnxt hsent.sent
    have hbound := hsafe hsent.valid hst hsent.idle
      (tcpSendSegment_fields (by decide) hsent.sent).2.2.2
    obtain ⟨sendq, ts, state, hsame⟩ := hsent.same
    rw [if_pos rfl]
    refine I.conn hconn htable (by simp [hfin]) (.inr ?_)
      (by simpa [TcpOut.received] using I.pre) ?_
      (fun k b hb => hsent.tracks.pkt rfl hb ▸ hseg) (by simpa using hseg)
    · rw [List.length_append, List.length_take]
      omega
    refine ⟨hsent.sendq, by simp [hst'], by simp [hst'], fun _ => ⟨?_, by simp [hfin]⟩,
      fun _ => ?_⟩
    · rw [hsame]
      simp only [List.length_append, List.length_take, UInt32.toNat_add, hnxt,
        UInt32.toNat_ofNat']
      omega
    · exact (htcb.receiving hst).congr rfl rfl (by simp [TcpOut.received]) (by rw [hsame])
        (by rw [hsame])

/-- The FIN. -/
theorem segOk_fin {acc : List UInt8} {tcb : Tcb} {seq ack : UInt32} {pkt : IpDatagram}
    (hseq : seq.toNat = 1 + acc.length)
    (h : tcpSendSegment env tcb seq ack (tcpFlagFin ||| tcpFlagAck) [] = some pkt) :
    SegOk acc true (tcpFields pkt.data) := by
  obtain ⟨h1, h2, h3, -⟩ := tcpSendSegment_fields (by decide) h
  refine ⟨fun hs => ?_, fun hp => absurd h3 hp, fun _ => ⟨rfl, by rw [h1]; exact hseq⟩⟩
  rw [h2] at hs
  exact absurd hs (by decide)

theorem SideOk.close (I : SideOk v opened table.tcbs) {i : TcbIndex} {table' : TcpTable}
    {res : Int} {out : TcpOut} (h : tcpClose env table i = (table', res, out)) :
    SideStep v opened table' out [] (res == 0) := by
  rcases tcpClose_cases (fun hv hst => (I.tcb i ⟨hv, hst⟩).sendq) h with ⟨rfl, rfl, hres⟩ |
    ⟨tcb, pkt, rfl, hst, htable, rfl, hsent, -⟩
  · rw [beq_eq_false_iff_ne.mpr hres]
    exact I.unchanged
  · have hconn : (table.tcbs i).IsConn :=
      ⟨hsent.valid, by rcases hst with hs | hs <;> rw [hs.1] <;> decide⟩
    obtain ⟨hnxt, -⟩ := (I.tcb i hconn).sending (hst.imp And.left And.left)
    have hseg : SegOk (v.acc ++ []) (v.fin || true) (tcpFields pkt.data) := by
      rw [List.append_nil, Bool.or_true]
      exact segOk_fin hnxt hsent.sent
    refine I.conn hconn htable (by simp) (.inl rfl) (by simpa [TcpOut.received] using I.pre)
      ⟨hsent.sendq, ?_, ?_, ?_, ?_⟩ (fun k b hb => hsent.tracks.pkt rfl hb ▸ hseg)
      (by simpa using hseg)
    all_goals rcases hst with hs | hs <;> simp [hs.2]

/-! ## Timers -/

theorem SideOk.timeWaitHandler (I : SideOk v opened table.tcbs) (i : TcbIndex) :
    SideStep v opened (tcpTimeWaitHandler table i) {} [] false := by
  refine SideOk.unchanged ?_
  rcases tcpTimeWaitHandler_cases table i with h | ⟨hv, hst, h⟩ <;> rw [h]
  · exact I
  · exact I.release ⟨hv, by rw [hst]; decide⟩

theorem SideOk.retransmitHandler (I : SideOk v opened table.tcbs) {i : TcbIndex}
    {table' : TcpTable} {out : TcpOut} (h : tcpRetransmitHandler env table i = (table', out)) :
    SideStep v opened table' out [] false := by
  rcases tcpRetransmitHandler_cases h with ⟨rfl, rfl⟩ | ⟨tcb, hv, htable, hre, hup, hsent⟩
  · exact I.unchanged
  have htracked : ∀ k b, (tcb.sendq.entries k).pkt = some b → SegOk v.acc v.fin (tcpFields b) :=
    fun k b hb => I.tracked i k b (hre.pkt k ▸ hb)
  obtain ⟨sendq, ts, hsame⟩ := hre.same
  refine SideOk.quiet ?_ (by simp [TcpOut.received, hup]) fun p hp => ?_
  · rw [htable]
    by_cases hconn : (table.tcbs i).IsConn
    · have htcb := I.tcb i hconn
      have hq := hre.sendqOk htcb.sendq
      refine I.setConn hconn (Grows.refl _ _) I.pre (fun _ => ?_) htracked
      rw [hsame] at hq ⊢
      exact ⟨hq, htcb.handshake, htcb.synReceived, htcb.sending, htcb.receiving⟩
    · refine I.setIdle ?_ htracked
      rw [hsame]
      exact hconn
  · obtain ⟨k, b, hb, -, rfl⟩ := hsent p hp
    exact I.tracked i k b hb

end FrameRunner
