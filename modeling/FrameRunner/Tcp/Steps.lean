import FrameRunner.Tcp.Queue

/-!
# What one step can do (`protocols/tcp.c`)

Every call of the module, every segment and every timer writes at most one TCB.
`TcbStepped` lists the ways in which it does, with the segments, events and handler
calls that the step gives back; `tcpStep_stepped` says that there are no others. The
invariants over runs are case analyses of these.
-/

namespace FrameRunner

open FrameRunner.Lib

/-- What a step gives back. -/
def tcpStepOut (table : TcpTable) : IpEnv × TcpInput → TcpOut
  | (env, .call c) => (tcpCall env table c).2
  | (env, .retransmit i) => (tcpRetransmitHandler env table i).2
  | (_, .timeWait _) => {}

/-- The datagram that carries a segment of the TCB. -/
def Tcb.datagram (tcb : Tcb) (data : List UInt8) : IpDatagram :=
  { srcIp := tcb.localIp, dstIp := tcb.remoteIp, protocol := ipProtoTcp, data := data }

/-- The TCB after the packet in entry `k` has been sent again. -/
def Tcb.resentAt (env : IpEnv) (tcb : Tcb) (k : Fin tcpMaxInflight) : Tcb :=
  let seg := tcb.sendq.entries k
  let seg := { seg with retransmits := seg.retransmits + 1, sentTs := env.now.getD seg.sentTs }
  { tcb with
    sendq := { tcb.sendq with entries := Function.update tcb.sendq.entries k seg }
    retransmitTs := tcpTimerTs env tcb.retransmitTs }

theorem tcbResent_resentAt (env : IpEnv) (tcb : Tcb) (k : Fin tcpMaxInflight) :
    TcbResent tcb (tcb.resentAt env k) := by
  refine ⟨⟨_, _, rfl⟩, rfl, fun j => ?_⟩
  unfold Tcb.resentAt
  dsimp only
  by_cases hjk : j = k
  · subst hjk
    rw [Function.update_self]
    exact ⟨_, _, rfl⟩
  · rw [Function.update_of_ne hjk]
    exact ⟨_, _, rfl⟩

/-- The entry holds a packet that is not acknowledged, and the IP layer takes it. -/
structure TcbResends (env : IpEnv) (tcb : Tcb) (k : Fin tcpMaxInflight) (data : List UInt8) :
    Prop where
  valid : tcb.valid = true
  pkt : (tcb.sendq.entries k).pkt = some data
  acked : (tcb.sendq.entries k).acked = false
  ipOk : env.ipOk = true

theorem tcpRetransmitHandler_resends {env : IpEnv} {table : TcpTable} {i : TcbIndex}
    {k : Fin tcpMaxInflight} {data : List UInt8} (h : TcbResends env (table.tcbs i) k data) :
    tcpRetransmitHandler env table i =
      (table.set i ((table.tcbs i).resentAt env k),
        { sent := [(table.tcbs i).datagram data], events := tcpTimer env true i }) := by
  obtain rfl := Subsingleton.elim k 0
  unfold tcpRetransmitHandler
  rw [h.valid, if_neg (by decide), Slots.forEach_one]
  unfold tcpRetransmitEntry Tcb.resentAt
  simp only [h.pkt, h.acked, h.ipOk, tcpScheduleRetransmit_eq, Bool.not_true, Bool.false_eq_true,
    if_false]
  rfl

theorem tcpRetransmitHandler_idle {env : IpEnv} {table : TcpTable} {i : TcbIndex}
    (h : ∀ k data, ¬ TcbResends env (table.tcbs i) k data) :
    (tcpRetransmitHandler env table i).1.tcbs = table.tcbs ∧
      (tcpRetransmitHandler env table i).2 = {} := by
  unfold tcpRetransmitHandler
  cases hv : (table.tcbs i).valid with
  | false => exact ⟨rfl, rfl⟩
  | true =>
    rw [if_neg (by decide), Slots.forEach_one]
    unfold tcpRetransmitEntry
    dsimp only
    split
    · rename_i _ _ _ data _ hpkt hacked
      have hok : env.ipOk = false := by
        by_contra hok
        exact h 0 data ⟨hv, hpkt, hacked, by simpa using hok⟩
      rw [hok, if_pos (by decide)]
      exact ⟨Function.update_eq_self _ _, rfl⟩
    · exact ⟨Function.update_eq_self _ _, rfl⟩

/-- The TCB of a handler call. -/
def TcpUpcall.tcb : TcpUpcall → TcbIndex
  | .recv i _ _ => i
  | .connect i _ => i

/-! ## Segments -/

/-- What a segment for the TCB in slot `i` gives back: the timer of `TCP_TIME_WAIT` on
    the way into it, `connect_handler` on the way into `TCP_ESTABLISHED` unless the ACK
    of the SYN-ACK fails, and `recv_handler` inside it. -/
structure SegmentOut (env : IpEnv) (i : TcbIndex) (tcb tcb' : Tcb) (out : TcpOut) : Prop where
  events : out.events =
    if tcb.state ≠ .timeWait ∧ tcb'.state = .timeWait then tcpScheduleTimeWait env i else []
  connect : tcb.state ≠ .established → out.upcalls =
    if tcb'.state = .established ∧ (tcb.state = .synSent → env.ipOk = true) then
      tcpConnectUpcall i tcb'
    else []
  recv : tcb.state = .established → ∀ u ∈ out.upcalls, ∃ payload handler,
    tcb'.state = .established ∧ u = .recv i payload handler

section
variable {env : IpEnv} {table : TcpTable} {i : TcbIndex} {hdr : TcpFields}

/-- A segment without handler calls and events. -/
theorem SegmentOut.silent {tcb tcb' : Tcb} {sent : List IpDatagram}
    (hwait : ¬ (tcb.state ≠ .timeWait ∧ tcb'.state = .timeWait))
    (hopen : tcb.state ≠ .established →
      ¬ (tcb'.state = .established ∧ (tcb.state = .synSent → env.ipOk = true))) :
    SegmentOut env i tcb tcb' { sent := sent } where
  events := by rw [if_neg hwait]
  connect h := by rw [if_neg (hopen h)]
  recv _ u hu := by cases hu

theorem SegmentOut.kept {tcb : Tcb} {sent : List IpDatagram} :
    SegmentOut env i tcb tcb { sent := sent } :=
  .silent (fun h => h.1 h.2) fun h h' => h h'.1

theorem tcpReceiveSynSent_out (hst : (table.tcbs i).state = .synSent) :
    SegmentOut env i (table.tcbs i) ((tcpReceiveSynSent env table i hdr).1.tcbs i)
      (tcpReceiveSynSent env table i hdr).2.2 := by
  unfold tcpReceiveSynSent
  dsimp only
  split
  · split
    · rename_i hack
      have hok : ¬ env.ipOk = true := by rw [tcpSendAck_eq_none hack]; decide
      exact .silent (by simp [hst]) fun _ h => hok (h.2 hst)
    · rename_i ack hack
      have hok : env.ipOk = true := (tcpSendSegment_eq_some hack).1
      exact ⟨by simp, fun _ => by simp [hok], fun h => absurd (hst.symm.trans h) (by decide)⟩
  · exact .kept

theorem tcpReceiveSynReceived_out (hst : (table.tcbs i).state = .synReceived) :
    SegmentOut env i (table.tcbs i) ((tcpReceiveSynReceived table i hdr).1.tcbs i)
      (tcpReceiveSynReceived table i hdr).2.2 := by
  unfold tcpReceiveSynReceived
  dsimp only
  split
  · refine ⟨by simp, fun _ => ?_, fun h => absurd (hst.symm.trans h) (by decide)⟩
    rw [TcpTable.set_self, if_pos ⟨rfl, fun h => absurd (hst.symm.trans h) (by decide)⟩]
  · exact .kept

theorem tcpReceiveEstablished_out (hst : (table.tcbs i).state = .established) :
    SegmentOut env i (table.tcbs i) ((tcpReceiveEstablished env table i hdr).1.tcbs i)
      (tcpReceiveEstablished env table i hdr).2.2 := by
  have hst' : (tcpEstablishedAck (table.tcbs i) hdr).state = .established := by
    unfold tcpEstablishedAck
    split_ifs <;> exact hst
  unfold tcpReceiveEstablished
  dsimp only
  split
  · split
    · split
      · exact .silent (by simp [hst']) fun h => absurd hst h
      · refine ⟨by simp [hst'], fun h => absurd hst h, fun _ u hu => ?_⟩
        obtain ⟨handler, -, rfl⟩ := List.mem_map.mp hu
        exact ⟨hdr.payload, handler, by rw [TcpTable.set_self]; exact hst', rfl⟩
    · split
      · exact .silent (by simp [hst']) fun h => absurd hst h
      · exact .silent (by simp [hst']) fun h => absurd hst h
  · split
    · split
      · exact .silent (by simp [hst']) fun h => absurd hst h
      · exact .silent (by simp) fun h => absurd hst h
    · split
      · exact .silent (by simp [hst']) fun h => absurd hst h
      · exact .silent (by simp [hst']) fun h => absurd hst h

theorem tcpReceiveFinWait1_out (hst : (table.tcbs i).state = .finWait1) :
    SegmentOut env i (table.tcbs i) ((tcpReceiveFinWait1 table i hdr).1.tcbs i)
      (tcpReceiveFinWait1 table i hdr).2.2 := by
  unfold tcpReceiveFinWait1
  dsimp only
  split
  · have hst' : ∀ tcb : Tcb, tcb.state = .finWait1 → (if tcpFinIsAcked tcb then
        { tcb with state := .finWait2 } else tcb).state = .finWait1 ∨ (if tcpFinIsAcked tcb then
        { tcb with state := .finWait2 } else tcb).state = .finWait2 := by
      intro tcb h
      split
      · exact .inr rfl
      · exact .inl h
    rcases hst' ((table.tcbs i).ackedBy hdr) hst with h | h
    all_goals
      unfold Tcb.ackedBy at h
      exact .silent (by rw [TcpTable.set_self, h]; simp) fun _ => by
        rw [TcpTable.set_self, h]
        simp
  · exact .kept

theorem tcpReceiveFinWait2_out (hst : (table.tcbs i).state = .finWait2) :
    SegmentOut env i (table.tcbs i) ((tcpReceiveFinWait2 env table i hdr).1.tcbs i)
      (tcpReceiveFinWait2 env table i hdr).2.2 := by
  unfold tcpReceiveFinWait2
  dsimp only
  split
  · split
    · exact .silent (by simp [hst]) (by simp [hst])
    · exact ⟨by simp [hst], fun _ => by simp, fun h => absurd (hst.symm.trans h) (by decide)⟩
  · exact .kept

theorem tcpReceiveClosing_out (hst : (table.tcbs i).state = .closing) :
    SegmentOut env i (table.tcbs i) ((tcpReceiveClosing env table i hdr).1.tcbs i)
      (tcpReceiveClosing env table i hdr).2.2 := by
  have hacked : (tcpSendqAck { table.tcbs i with sndUna := hdr.ackNum } hdr.ackNum).state =
      .closing := hst
  unfold tcpReceiveClosing
  dsimp only
  split
  · split
    · exact ⟨by simp [hst], fun _ => by simp, fun h => absurd (hst.symm.trans h) (by decide)⟩
    · exact .silent (by simp [hacked]) (by simp [hacked])
  · exact .kept

theorem tcpReceiveLastAck_out (hst : (table.tcbs i).state = .lastAck) :
    SegmentOut env i (table.tcbs i) ((tcpReceiveLastAck table i hdr).1.tcbs i)
      (tcpReceiveLastAck table i hdr).2.2 := by
  have hacked : (tcpSendqAck { table.tcbs i with sndUna := hdr.ackNum } hdr.ackNum).state =
      .lastAck := hst
  unfold tcpReceiveLastAck
  dsimp only
  split
  · split
    · exact .silent (by simp [tcpReleaseTcb]) (by simp [tcpReleaseTcb])
    · exact .silent (by simp [hacked]) (by simp [hacked])
  · exact .kept

theorem tcpReceiveState_out (env : IpEnv) (table : TcpTable) (i : TcbIndex) (hdr : TcpFields) :
    SegmentOut env i (table.tcbs i) ((tcpReceiveState env table i hdr).1.tcbs i)
      (tcpReceiveState env table i hdr).2.2 := by
  unfold tcpReceiveState
  split
  case h_1 hst => exact tcpReceiveSynSent_out hst
  case h_2 hst => exact tcpReceiveSynReceived_out hst
  case h_3 hst => exact tcpReceiveEstablished_out hst
  case h_4 hst => exact tcpReceiveFinWait1_out hst
  case h_5 hst => exact tcpReceiveFinWait2_out hst
  case h_6 hst => exact tcpReceiveClosing_out hst
  case h_7 hst => exact tcpReceiveLastAck_out hst
  case h_8 => exact .kept
  case h_9 => exact .kept

end

/-! ## The segment that arrives -/

/-- The segment passes the checks of `tcp_receive` and finds the TCB in slot `i`. -/
structure TcpFinds (table : TcpTable) (pkt : IpDatagram) (i : TcbIndex) : Prop where
  length : tcpHdrLen ≤ pkt.data.length
  protocol : pkt.protocol = ipProtoTcp
  hdrWords : (tcpFields pkt.data).hdrWords = tcpHdrWords
  tcb : tcpFindExact table pkt.dstIp (tcpFields pkt.data).dstPort pkt.srcIp
    (tcpFields pkt.data).srcPort = some i

instance (table : TcpTable) (pkt : IpDatagram) (i : TcbIndex) : Decidable (TcpFinds table pkt i) :=
  decidable_of_iff (tcpHdrLen ≤ pkt.data.length ∧ pkt.protocol = ipProtoTcp ∧
      (tcpFields pkt.data).hdrWords = tcpHdrWords ∧
      tcpFindExact table pkt.dstIp (tcpFields pkt.data).dstPort pkt.srcIp
        (tcpFields pkt.data).srcPort = some i)
    ⟨fun h => ⟨h.1, h.2.1, h.2.2.1, h.2.2.2⟩, fun h => ⟨h.1, h.2, h.3, h.4⟩⟩

theorem TcpFinds.receive {table : TcpTable} {pkt : IpDatagram} {i : TcbIndex}
    (h : TcpFinds table pkt i) (env : IpEnv) :
    tcpReceive env table pkt = tcpReceiveState env table i (tcpFields pkt.data) := by
  unfold tcpReceive
  dsimp only
  rw [if_neg (not_lt.mpr h.length), if_neg (not_not.mpr h.protocol),
    if_neg (not_not.mpr h.hdrWords), h.tcb]

/-! ## Steps -/

/-- How a step changes the TCB in slot `i`, and what it gives back. -/
inductive TcbStepped (env : IpEnv) (i : TcbIndex) (tcb₀ : Tcb) : TcpInput → Tcb → TcpOut → Prop
  /-- a listener takes the free slot -/
  | listened {localIp : UInt32} {localPort : UInt16} {recvFn connectFn ctx : Option AppRef}
      {tcb : Tcb} (hfree : tcb₀.valid = false) (hst : tcb.state = .listen) (hq : tcb.sendq = {}) :
      TcbStepped env i tcb₀ (.call (.listen localIp localPort recvFn connectFn ctx)) tcb {}
  /-- an active open takes the free slot -/
  | connected {localIp remoteIp : UInt32} {localPort remotePort : UInt16}
      {recvFn connectFn ctx : Option AppRef} {tcb : Tcb} {syn : IpDatagram}
      (hfree : tcb₀.valid = false) (hopen : TcbOpened env tcb .synSent tcpFlagSyn syn)
      (hts : tcb.retransmitTs = tcpTimerTs env 0) : TcbStepped env i tcb₀
        (.call (.connect localIp remoteIp localPort remotePort recvFn connectFn ctx)) tcb
        { sent := [syn], events := tcpTimer env false i }
  /-- a listener's child takes the free slot, without a timer -/
  | child {pkt : IpDatagram} {tcb : Tcb} {synAck : IpDatagram} (hfree : tcb₀.valid = false)
      (hopen : TcbOpened env tcb .synReceived (tcpFlagSyn ||| tcpFlagAck) synAck)
      (hts : tcb.retransmitTs = 0) : TcbStepped env i tcb₀ (.call (.receive pkt)) tcb
        { sent := [synAck] }
  /-- data is sent -/
  | sent {data : List UInt8} {tcb : Tcb} {pkt : IpDatagram} (hst : tcb₀.state = .established)
      (hst' : tcb.state = .established)
      (hsent : TcbSent env tcb₀ (tcpFlagAck ||| tcpFlagPsh) (data.take tcpMss)
        (UInt32.ofNat (data.take tcpMss).length) tcb pkt)
      (hts : tcb.retransmitTs = tcpTimerTs env tcb₀.retransmitTs) :
      TcbStepped env i tcb₀ (.call (.send i data)) tcb
        { sent := [pkt], events := tcpTimer env false i }
  /-- a FIN is sent -/
  | closed {tcb : Tcb} {pkt : IpDatagram}
      (hst : tcb₀.state = .established ∧ tcb.state = .finWait1 ∨
        tcb₀.state = .closeWait ∧ tcb.state = .lastAck)
      (hsent : TcbSent env tcb₀ (tcpFlagFin ||| tcpFlagAck) [] 1 tcb pkt)
      (hts : tcb.retransmitTs = tcpTimerTs env tcb₀.retransmitTs) :
      TcbStepped env i tcb₀ (.call (.close i)) tcb
        { sent := [pkt], events := tcpTimer env false i }
  /-- the segment finds the TCB -/
  | received {pkt : IpDatagram} {tcb : Tcb} {out : TcpOut} (hv : tcb₀.valid = true)
      (hst : tcb₀.state ≠ .listen) (hr : TcbReceived tcb₀ (tcpFields pkt.data) tcb)
      (hout : SegmentOut env i tcb₀ tcb out) : TcbStepped env i tcb₀ (.call (.receive pkt)) tcb out
  /-- the retransmission timer fires -/
  | resent {k : Fin tcpMaxInflight} {data : List UInt8} (hre : TcbResends env tcb₀ k data) :
      TcbStepped env i tcb₀ (.retransmit i) (tcb₀.resentAt env k)
        { sent := [tcb₀.datagram data], events := tcpTimer env true i }
  /-- `TCP_TIME_WAIT` ends -/
  | released (hv : tcb₀.valid = true) (hst : tcb₀.state = .timeWait) :
      TcbStepped env i tcb₀ (.timeWait i) {} {}

/-- A step gives back nothing and changes nothing but a free slot, or it changes one TCB.
    A segment changes the TCB in use that it finds. -/
inductive TcpStepped (env : IpEnv) (table : TcpTable) (input : TcpInput) (table' : TcpTable) :
    TcpOut → Prop
  | unopened (hun : TcpUnopened table table') : TcpStepped env table input table' {}
  | slot {out : TcpOut} (i : TcbIndex) (tcb : Tcb)
      (htable : table'.tcbs = Function.update table.tcbs i tcb)
      (hfinds : ∀ pkt, input = .call (.receive pkt) → (table.tcbs i).valid = true →
        TcpFinds table pkt i)
      (h : TcbStepped env i (table.tcbs i) input tcb out) : TcpStepped env table input table' out

section
variable {table : TcpTable} {env : IpEnv}

/-- A call that changes nothing. -/
theorem tcpStepped_refused {input : TcpInput} : TcpStepped env table input table {} :=
  .unopened (.inl rfl)

theorem tcpListen_stepped (localIp : UInt32) (localPort : UInt16)
    (recvFn connectFn ctx : Option AppRef) :
    TcpStepped env table (.call (.listen localIp localPort recvFn connectFn ctx))
      (tcpListen table localIp localPort recvFn connectFn ctx).1 {} := by
  rcases tcpListen_cases table localIp localPort recvFn connectFn ctx with
    h | ⟨i, tcb, hfree, hst, hq, h⟩
  · exact .unopened (.inl h)
  · exact .slot i tcb h (fun _ h => by cases h) (.listened hfree hst hq)

theorem tcpConnect_stepped {localIp remoteIp : UInt32} {localPort remotePort : UInt16}
    {recvFn connectFn ctx : Option AppRef} {table' : TcpTable} {res : Option TcbIndex}
    {out : TcpOut}
    (h : tcpConnect env table localIp remoteIp localPort remotePort recvFn connectFn ctx =
      (table', res, out)) :
    TcpStepped env table
      (.call (.connect localIp remoteIp localPort remotePort recvFn connectFn ctx)) table' out := by
  rcases tcpConnect_cases h with ⟨hun, rfl⟩ | ⟨i, tcb, syn, -, hfree, htable, rfl, hopen, hts, -⟩
  · exact .unopened hun
  · exact .slot i tcb htable (fun _ h => by cases h) (.connected hfree hopen hts)

theorem tcpReceiveListen_stepped {listener : TcbIndex} {pkt : IpDatagram} {table' : TcpTable}
    {res : Int} {out : TcpOut}
    (h : tcpReceiveListen env table listener pkt (tcpFields pkt.data) = (table', res, out)) :
    TcpStepped env table (.call (.receive pkt)) table' out := by
  rcases tcpReceiveListen_cases h with ⟨hun, rfl⟩ |
    ⟨i, tcb, synAck, hfree, htable, rfl, hopen, hts, -⟩
  · exact .unopened hun
  · exact .slot i tcb htable (fun _ _ hv => absurd (hv.symm.trans hfree) (by decide))
      (.child hfree hopen hts)

theorem tcpSend_stepped {i : TcbIndex} (hq : SendqOk (table.tcbs i)) {data : List UInt8}
    {table' : TcpTable} {res : Int} {out : TcpOut}
    (h : tcpSend env table i data = (table', res, out)) :
    TcpStepped env table (.call (.send i data)) table' out := by
  rcases tcpSend_cases (fun _ _ => hq) h with ⟨rfl, rfl, -⟩ |
    ⟨tcb, pkt, -, -, hst, hst', htable, rfl, hsent, hts⟩
  · exact tcpStepped_refused
  · exact .slot i tcb htable (fun _ h => by cases h) (.sent hst hst' hsent hts)

theorem tcpClose_stepped {i : TcbIndex} (hq : SendqOk (table.tcbs i)) {table' : TcpTable}
    {res : Int} {out : TcpOut} (h : tcpClose env table i = (table', res, out)) :
    TcpStepped env table (.call (.close i)) table' out := by
  rcases tcpClose_cases (fun _ _ => hq) h with ⟨rfl, rfl, -⟩ |
    ⟨tcb, pkt, -, hst, htable, rfl, hsent, hts⟩
  · exact tcpStepped_refused
  · exact .slot i tcb htable (fun _ h => by cases h) (.closed hst hsent hts)

theorem tcpReceive_stepped {pkt : IpDatagram} {table' : TcpTable} {res : Int} {out : TcpOut}
    (h : tcpReceive env table pkt = (table', res, out)) :
    TcpStepped env table (.call (.receive pkt)) table' out := by
  unfold tcpReceive at h
  dsimp only at h
  split at h
  · cases h
    exact tcpStepped_refused
  rename_i hlen
  split at h
  · cases h
    exact tcpStepped_refused
  rename_i hprotocol
  split at h
  · cases h
    exact tcpStepped_refused
  rename_i hwords
  split at h
  · rename_i i hfind
    obtain ⟨hi, -⟩ := Fin.find?_eq_some_iff.mp hfind
    simp only [Bool.and_eq_true, bne_iff_ne] at hi
    obtain ⟨tcb, htable, hr, -⟩ := tcpReceiveState_cases h
    have hout := tcpReceiveState_out env table i (tcpFields pkt.data)
    rw [h] at hout
    have hself : table'.tcbs i = tcb := by rw [htable, Function.update_self]
    have hfinds : TcpFinds table pkt i :=
      ⟨not_lt.mp hlen, not_not.mp hprotocol, not_not.mp hwords, hfind⟩
    rw [hself] at hout
    refine .slot i tcb htable (fun pkt' h _ => ?_) (.received hi.1.1.1.1.1 hi.1.1.1.1.2 hr hout)
    cases h
    exact hfinds
  · split at h
    · split at h
      · exact tcpReceiveListen_stepped h
      · cases h
        exact tcpStepped_refused
    · cases h
      exact tcpStepped_refused

theorem tcpRetransmitHandler_stepped {i : TcbIndex} {table' : TcpTable} {out : TcpOut}
    (h : tcpRetransmitHandler env table i = (table', out)) :
    TcpStepped env table (.retransmit i) table' out := by
  by_cases hre : ∃ k data, TcbResends env (table.tcbs i) k data
  · obtain ⟨k, data, hre⟩ := hre
    rw [tcpRetransmitHandler_resends hre] at h
    cases h
    exact .slot i _ rfl (fun _ h => by cases h) (.resent hre)
  · obtain ⟨htcbs, hout⟩ := tcpRetransmitHandler_idle fun k data h => hre ⟨k, data, h⟩
    rw [h] at htcbs hout
    dsimp only at hout
    subst hout
    exact .unopened (.inl htcbs)

/-- Every step is one of these. -/
theorem tcpStep_stepped (Q : TableQueueOk table) (env : IpEnv) (input : TcpInput) :
    TcpStepped env table input (tcpStep table (env, input)) (tcpStepOut table (env, input)) := by
  cases input with
  | call c =>
    cases c with
    | listen localIp localPort recvFn connectFn ctx =>
      exact tcpListen_stepped localIp localPort recvFn connectFn ctx
    | connect => exact tcpConnect_stepped rfl
    | send i data => exact tcpSend_stepped (Q i).sendq rfl
    | close i => exact tcpClose_stepped (Q i).sendq rfl
    | receive pkt => exact tcpReceive_stepped rfl
  | retransmit i => exact tcpRetransmitHandler_stepped rfl
  | timeWait i =>
    rcases tcpTimeWaitHandler_cases table i with h | ⟨hv, hst, h⟩
    · exact .unopened (.inl (congrArg TcpTable.tcbs h))
    · exact .slot i {} h (fun _ h => by cases h) (.released hv hst)

/-- The TCB that a segment finds is in use, and no listener. -/
theorem TcpFinds.valid {pkt : IpDatagram} {i : TcbIndex} (h : TcpFinds table pkt i) :
    (table.tcbs i).valid = true ∧ (table.tcbs i).state ≠ .listen := by
  obtain ⟨hi, -⟩ := Fin.find?_eq_some_iff.mp h.tcb
  simp only [Bool.and_eq_true, bne_iff_ne] at hi
  exact ⟨hi.1.1.1.1.1, hi.1.1.1.1.2⟩

/-- Handlers are called for the TCB of the step. -/
theorem TcbStepped.upcalls {i : TcbIndex} {tcb tcb' : Tcb} {input : TcpInput} {out : TcpOut}
    (h : TcbStepped env i tcb input tcb' out) : ∀ u ∈ out.upcalls, u.tcb = i := by
  intro u hu
  cases h with
  | listened | connected | child | sent | closed | resent | released => cases hu
  | received _ _ _ hout =>
    by_cases hst : tcb.state = .established
    · obtain ⟨payload, handler, -, rfl⟩ := hout.recv hst u hu
      rfl
    · rw [hout.connect hst] at hu
      split at hu
      · obtain ⟨handler, -, rfl⟩ := List.mem_map.mp hu
        rfl
      · cases hu

/-- Events are scheduled for the TCB of the step. -/
theorem TcbStepped.events {i : TcbIndex} {tcb tcb' : Tcb} {input : TcpInput} {out : TcpOut}
    (h : TcbStepped env i tcb input tcb' out) : ∀ e ∈ out.events, e.payload = i := by
  intro e he
  have htimer : ∀ {tcpCtx}, e ∈ tcpTimer env tcpCtx i → e.payload = i := by
    intro tcpCtx he
    unfold tcpTimer at he
    split at he
    · cases he
    · rw [List.mem_singleton.mp he]
  cases h with
  | listened | child | released => cases he
  | connected | sent | closed | resent => exact htimer he
  | received _ _ _ hout =>
    rw [hout.events] at he
    split at he
    · unfold tcpScheduleTimeWait at he
      split at he
      · cases he
      · rw [List.mem_singleton.mp he]
    · cases he

/-- What is given back is not about the TCB in slot `j`. -/
structure TcpOut.Spares (out : TcpOut) (j : TcbIndex) : Prop where
  upcalls : ∀ u ∈ out.upcalls, u.tcb ≠ j
  events : ∀ e ∈ out.events, e.payload ≠ j

/-- What a step does to the TCB in slot `j`, and gives back for it: nothing, unless the slot
    is free, or what `TcbStepped` says. -/
theorem tcpStep_slot (Q : TableQueueOk table) (env : IpEnv) (input : TcpInput) (j : TcbIndex) :
    let tcb' := (tcpStep table (env, input)).tcbs j
    let out := tcpStepOut table (env, input)
    (tcb' = table.tcbs j ∨ (table.tcbs j).valid = false ∧ tcb' = {}) ∧ out.Spares j ∨
      (∀ pkt, input = .call (.receive pkt) → (table.tcbs j).valid = true → TcpFinds table pkt j) ∧
        TcbStepped env j (table.tcbs j) input tcb' out := by
  intro tcb' out
  have hstepped : TcpStepped env table input (tcpStep table (env, input)) out :=
    tcpStep_stepped Q env input
  have hother : ∀ {i tcb}, (tcpStep table (env, input)).tcbs = Function.update table.tcbs i tcb →
      j ≠ i → tcb' = table.tcbs j := by
    intro i tcb htable hj
    show (tcpStep table (env, input)).tcbs j = _
    rw [htable, Function.update_of_ne hj]
  have hself : ∀ {tcb}, (tcpStep table (env, input)).tcbs = Function.update table.tcbs j tcb →
      tcb' = tcb := by
    intro tcb htable
    show (tcpStep table (env, input)).tcbs j = _
    rw [htable, Function.update_self]
  generalize out = out at hstepped
  rcases hstepped with hun | ⟨i, tcb, htable, hfinds, hstep⟩
  · refine .inl ⟨?_, ⟨fun u hu => ?_, fun e he => ?_⟩⟩
    rotate_left
    · cases hu
    · cases he
    rcases hun with hsame | ⟨i, hfree, htable⟩
    · exact .inl (by rw [← hsame])
    · by_cases hj : j = i
      · subst hj
        exact .inr ⟨hfree, hself htable⟩
      · exact .inl (hother htable hj)
  · by_cases hj : j = i
    · subst hj
      exact .inr ⟨hfinds, by rw [hself htable]; exact hstep⟩
    · refine .inl ⟨.inl (hother htable hj), ⟨fun u hu => ?_, fun e he => ?_⟩⟩
      · rw [hstep.upcalls u hu]
        exact Ne.symm hj
      · rw [hstep.events e he]
        exact Ne.symm hj

end

end FrameRunner
