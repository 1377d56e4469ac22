import FrameRunner.Tcp.Model

/-!
# What each call of TCP does

The send queue under `tcp_sendq_track` and `tcp_sendq_ack` (`SendqOk`), and one
case analysis for each function of the module: the TCB it leaves, the segments
it sends and what it has checked before. The invariants of the other modules
rest on these and need not unfold the functions again.
-/

namespace FrameRunner

open FrameRunner.Lib

variable {table : TcpTable} {env : IpEnv}

/-! ## Segments -/

/-- The flag bytes in use have six bits. -/
def TcpFlagsOk (flags : UInt8) : Prop :=
  (tcpHdrWords <<< 12 ||| flags.toUInt16) >>> 12 = tcpHdrWords ∧
    ((tcpHdrWords <<< 12 ||| flags.toUInt16) &&& 0x3F).toUInt8 = flags

instance (flags : UInt8) : Decidable (TcpFlagsOk flags) := inferInstanceAs (Decidable (_ ∧ _))

theorem tcpSendSegment_eq_some {tcb : Tcb} {seq ack : UInt32} {flags : UInt8}
    {payload : List UInt8} {pkt : IpDatagram}
    (h : tcpSendSegment env tcb seq ack flags payload = some pkt) :
    env.ipOk = true ∧ pkt =
      { srcIp := tcb.localIp, dstIp := tcb.remoteIp, protocol := ipProtoTcp,
        data := tcpSegmentBytes tcb.localPort tcb.remotePort seq ack flags payload } := by
  unfold tcpSendSegment at h
  split_ifs at h with _ hok
  exact ⟨hok, (Option.some.inj h).symm⟩

/-- A sent segment is what `tcp_send_segment` wrote. -/
theorem tcpSendSegment_fields {tcb : Tcb} {seq ack : UInt32} {flags : UInt8}
    {payload : List UInt8} {pkt : IpDatagram} (hflags : TcpFlagsOk flags)
    (h : tcpSendSegment env tcb seq ack flags payload = some pkt) :
    (tcpFields pkt.data).seqNum = seq ∧ (tcpFields pkt.data).flags = flags ∧
      (tcpFields pkt.data).payload = payload ∧ env.ipOk = true := by
  obtain ⟨hok, rfl⟩ := tcpSendSegment_eq_some h
  rw [tcpFields_tcpSegmentBytes _ _ _ _ hflags.1 hflags.2]
  exact ⟨rfl, rfl, rfl, hok⟩

theorem tcpSendAck_eq_none {tcb : Tcb} (h : tcpSendAck env tcb = none) : env.ipOk = false := by
  unfold tcpSendAck tcpSendSegment at h
  rw [if_neg (by decide)] at h
  split at h
  · nomatch h
  · rename_i hok
    simpa using hok

/-! ## Send queue -/

/-- The entry holds a packet. -/
def TcpSegment.held (seg : TcpSegment) : Bool := seg.pkt.isSome

/-- The send queue counts its packets, and drops a packet with its ACK. -/
structure SendqOk (tcb : Tcb) : Prop where
  count : tcb.sendq.count = Slots.count TcpSegment.held tcb.sendq.entries
  unacked : ∀ k, (tcb.sendq.entries k).held = true → (tcb.sendq.entries k).acked = false

theorem sendqOk_empty {tcb : Tcb} (h : tcb.sendq = {}) : SendqOk tcb := by
  constructor
  · rw [h, Slots.count_eq_zero.mpr fun _ => rfl]; rfl
  · intro k hk
    rw [h] at hk
    exact absurd hk Bool.false_ne_true

theorem SendqOk.of_sendq_eq {tcb tcb' : Tcb} (h : SendqOk tcb) (he : tcb'.sendq = tcb.sendq) :
    SendqOk tcb' :=
  ⟨by rw [he]; exact h.count, by rw [he]; exact h.unacked⟩

theorem tcpSendqAck_entry (tcb : Tcb) (ack : UInt32) (k : Fin tcpMaxInflight) :
    ((tcpSendqAck tcb ack).sendq.entries k).pkt = none ∨
      (tcpSendqAck tcb ack).sendq.entries k = tcb.sendq.entries k ∧
        tcpSegmentAcked (tcb.sendq.entries k) ack = false := by
  simp only [tcpSendqAck]
  split_ifs with h
  · exact .inl rfl
  · exact .inr ⟨rfl, by simpa using h⟩

theorem SendqOk.ack {tcb : Tcb} (h : SendqOk tcb) (ack : UInt32) :
    SendqOk (tcpSendqAck tcb ack) := by
  constructor
  · have hpart := Slots.count_partition TcpSegment.held
      (fun seg => decide (ack ≥ seg.seqEnd)) tcb.sendq.entries
    have hleft : Slots.count TcpSegment.held (tcpSendqAck tcb ack).sendq.entries =
        Slots.count (fun seg => seg.held && !decide (ack ≥ seg.seqEnd)) tcb.sendq.entries := by
      apply Slots.count_congr
      intro k
      simp only [tcpSendqAck]
      split_ifs with hh
      · simp only [tcpSegmentAcked, Bool.and_eq_true, decide_eq_true_eq] at hh
        simp [TcpSegment.held, hh.2]
      · simp only [tcpSegmentAcked, Bool.and_eq_true, decide_eq_true_eq, not_and] at hh
        by_cases hp : (tcb.sendq.entries k).pkt.isSome = true
        · simp [TcpSegment.held, hp, hh hp]
        · simp [TcpSegment.held, hp]
    rw [hleft]
    have : Slots.count (fun seg => tcpSegmentAcked seg ack) tcb.sendq.entries =
        Slots.count (fun seg => seg.held && decide (ack ≥ seg.seqEnd)) tcb.sendq.entries := rfl
    simp only [tcpSendqAck, h.count, this]
    omega
  · intro k hk
    rcases tcpSendqAck_entry tcb ack k with he | ⟨he, -⟩
    · simp [TcpSegment.held, he] at hk
    · rw [he] at hk ⊢
      exact h.unacked k hk

/-- The queue holds one packet, in the entry `seg`. -/
structure TcbSendQueue.Tracks (sendq : TcbSendQueue) (seg : TcpSegment) : Prop where
  count : Slots.count TcpSegment.held sendq.entries = 1
  entry : ∀ k, (sendq.entries k).held = true → sendq.entries k = seg

theorem TcbSendQueue.Tracks.pkt {sendq : TcbSendQueue} {seg : TcpSegment} {clone b : List UInt8}
    (h : sendq.Tracks seg) (hseg : seg.pkt = some clone) {k : Fin tcpMaxInflight}
    (hk : (sendq.entries k).pkt = some b) : b = clone := by
  have hheld : (sendq.entries k).held = true := by rw [TcpSegment.held, hk]; rfl
  rw [h.entry k hheld, hseg] at hk
  exact (Option.some.inj hk).symm

/-- A queue without unacknowledged packets holds none. -/
theorem SendqOk.held_eq_false {tcb : Tcb} (h : SendqOk tcb)
    (hidle : tcpSendqHasUnacked tcb = false) (k : Fin tcpMaxInflight) :
    (tcb.sendq.entries k).held = false := by
  cases hp : (tcb.sendq.entries k).held with
  | false => rfl
  | true =>
    simp only [tcpSendqHasUnacked, Option.isSome_eq_false_iff, Option.isNone_iff_eq_none] at hidle
    have hk := Fin.find?_eq_none_iff.mp hidle k
    have hp' : (tcb.sendq.entries k).pkt.isSome = true := hp
    simp [hp', h.unacked k hp] at hk

/-- An empty queue takes a segment. -/
theorem SendqOk.track {tcb : Tcb} (h : SendqOk tcb) (hidle : tcpSendqHasUnacked tcb = false)
    (clone : List UInt8) (seqStart seqEnd : UInt32) (flags : UInt8) (now : UInt64) :
    ∃ sendq, tcpSendqTrack tcb clone seqStart seqEnd flags now = some { tcb with sendq := sendq } ∧
      (∀ tcb' : Tcb, tcb'.sendq = sendq → SendqOk tcb') ∧
      sendq.Tracks { pkt := some clone, seqStart := seqStart, seqEnd := seqEnd, flags := flags,
                     sentTs := now } := by
  have hnone := h.held_eq_false hidle
  have hzero : Slots.count TcpSegment.held tcb.sendq.entries = 0 := Slots.count_eq_zero.mpr hnone
  have hcount : tcb.sendq.count = 0 := by rw [h.count, hzero]; rfl
  unfold tcpSendqTrack
  rw [if_neg (by rw [hcount]; decide)]
  cases hfree : Fin.find? fun k => (tcb.sendq.entries k).pkt.isNone with
  | none =>
    have hk := Fin.find?_eq_none_iff.mp hfree 0
    have hz : (tcb.sendq.entries 0).pkt.isSome = false := hnone 0
    rw [Option.isSome_eq_false_iff] at hz
    rw [hz] at hk
    exact absurd hk (by decide)
  | some k =>
    have hone : Slots.count TcpSegment.held (Function.update tcb.sendq.entries k
        { pkt := some clone, seqStart := seqStart, seqEnd := seqEnd, flags := flags,
          sentTs := now, retransmits := 0, acked := false }) = 1 := by
      have hu := Slots.count_update TcpSegment.held tcb.sendq.entries k
        { pkt := some clone, seqStart := seqStart, seqEnd := seqEnd, flags := flags,
          sentTs := now, retransmits := 0, acked := false }
      rw [hnone k, hzero] at hu
      simpa [TcpSegment.held] using hu
    -- no other slot holds a packet
    have honly : ∀ j, (Function.update tcb.sendq.entries k
        { pkt := some clone, seqStart := seqStart, seqEnd := seqEnd, flags := flags,
          sentTs := now, retransmits := 0, acked := false } j).held = true → j = k := by
      intro j hj
      by_contra hjk
      rw [Function.update_of_ne hjk, hnone j] at hj
      exact absurd hj Bool.false_ne_true
    refine ⟨_, rfl, fun tcb' he => ⟨?_, fun j hj => ?_⟩, hone, fun j hj => ?_⟩
    · rw [he]
      dsimp only
      rw [hone, hcount]
      rfl
    · rw [he] at hj ⊢
      obtain rfl := honly j hj
      simp
    · obtain rfl := honly j hj
      simp

theorem tcpSendqAck_pkt {tcb : Tcb} {ack : UInt32} {k : Fin tcpMaxInflight} {b : List UInt8}
    (h : ((tcpSendqAck tcb ack).sendq.entries k).pkt = some b) :
    (tcb.sendq.entries k).pkt = some b := by
  rcases tcpSendqAck_entry tcb ack k with he | ⟨he, -⟩
  · rw [he] at h
    nomatch h
  · rwa [he] at h

theorem tcpSendqAck_sendq {tcb tcb' : Tcb} (h : tcb'.sendq = tcb.sendq) (ack : UInt32) :
    (tcpSendqAck tcb' ack).sendq = (tcpSendqAck tcb ack).sendq := by
  simp only [tcpSendqAck, h]

/-! ## Slots -/

theorem tcpAllocTcb_eq_some {table' : TcpTable} {i : TcbIndex}
    (h : tcpAllocTcb table = some (table', i)) :
    (table.tcbs i).valid = false ∧ table'.tcbs = Function.update table.tcbs i { valid := true } ∧
      table'.count = table.count + 1 := by
  unfold tcpAllocTcb at h
  split at h
  · nomatch h
  · rename_i j hj
    obtain ⟨hj, -⟩ := Fin.find?_eq_some_iff.mp hj
    simp only [Option.some.injEq, Prod.mk.injEq] at h
    obtain ⟨rfl, rfl⟩ := h
    exact ⟨by simpa using hj, rfl, rfl⟩

/-- The slot that is taken is cleared. -/
theorem tcpAllocTcb_self {table' : TcpTable} {i : TcbIndex}
    (h : tcpAllocTcb table = some (table', i)) : table'.tcbs i = { valid := true } := by
  obtain ⟨-, htcbs, -⟩ := tcpAllocTcb_eq_some h
  rw [htcbs, Function.update_self]

/-- The event of a retransmission timer that is started now. -/
def tcpTimer (env : IpEnv) (tcpCtx : Bool) (i : TcbIndex) : List TcpEvent :=
  match env.now with
  | none => []
  | some t =>
    [{ type := .tcpRetransmit, timestamp := t + tcpRetransmitUs, payload := i,
       handler := if tcpCtx then some .retransmitHandler else none }]

/-- `retransmit_ts` after a timer is started. -/
def tcpTimerTs (env : IpEnv) (retransmitTs : UInt64) : UInt64 :=
  (env.now.map (· + tcpRetransmitUs)).getD retransmitTs

theorem tcpScheduleRetransmit_eq (env : IpEnv) (tcpCtx : Bool) (i : TcbIndex) (tcb : Tcb) :
    tcpScheduleRetransmit env tcpCtx i tcb =
      ({ tcb with retransmitTs := tcpTimerTs env tcb.retransmitTs }, tcpTimer env tcpCtx i) := by
  unfold tcpScheduleRetransmit tcpTimer tcpTimerTs
  cases env.now <;> rfl

theorem tcpScheduleRetransmit_tcb (env : IpEnv) (tcpCtx : Bool) (i : TcbIndex) (tcb : Tcb) :
    (tcpScheduleRetransmit env tcpCtx i tcb).1 =
      { tcb with retransmitTs := tcpTimerTs env tcb.retransmitTs } := by
  rw [tcpScheduleRetransmit_eq]

/-- A new TCB takes its first segment. -/
theorem tcpSendqTrack_new {tcb : Tcb} {clone : List UInt8} {seqStart seqEnd : UInt32}
    {flags : UInt8} {now : UInt64} {x : Option Tcb}
    (h : tcpSendqTrack tcb clone seqStart seqEnd flags now = x) (hq : tcb.sendq = {}) :
    ∃ sendq, x = some { tcb with sendq := sendq } ∧
      (∀ tcb' : Tcb, tcb'.sendq = sendq → SendqOk tcb') ∧
      sendq.Tracks { pkt := some clone, seqStart := seqStart, seqEnd := seqEnd, flags := flags,
                     sentTs := now } := by
  have hidle : tcpSendqHasUnacked tcb = false := by
    rw [tcpSendqHasUnacked, hq]
    rfl
  rw [← h]
  exact (sendqOk_empty hq).track hidle clone seqStart seqEnd flags now

/-! ## Opening -/

/-- A slot in use stays as it is; at most a free one was taken and released. -/
def TcpUnopened (table table' : TcpTable) : Prop :=
  table'.tcbs = table.tcbs ∨
    ∃ i, (table.tcbs i).valid = false ∧ table'.tcbs = Function.update table.tcbs i {}

/-- The TCB of a new connection, whose SYN or SYN-ACK has been sent. -/
structure TcbOpened (env : IpEnv) (tcb : Tcb) (state : TcpState) (flags : UInt8)
    (syn : IpDatagram) : Prop where
  valid : tcb.valid = true
  state : tcb.state = state
  sndUna : tcb.sndUna = 0
  sndNxt : tcb.sndNxt = 1
  sent : tcpSendSegment env tcb 0 tcb.rcvNxt flags [] = some syn
  sendq : SendqOk tcb
  tracks : tcb.sendq.Tracks { pkt := some syn.data, seqStart := 0, seqEnd := 1, flags := flags,
                              sentTs := env.time }

/-- The addresses of a TCB. -/
structure TcbAddressed (tcb : Tcb) (localIp : UInt32) (localPort : UInt16) (remoteIp : UInt32)
    (remotePort : UInt16) : Prop where
  localIp : tcb.localIp = localIp
  localPort : tcb.localPort = localPort
  remoteIp : tcb.remoteIp = remoteIp
  remotePort : tcb.remotePort = remotePort

theorem tcpListen_cases (table : TcpTable) (localIp : UInt32) (localPort : UInt16)
    (recvFn connectFn ctx : Option AppRef) :
    (tcpListen table localIp localPort recvFn connectFn ctx).1.tcbs = table.tcbs ∨
      ∃ i tcb, (table.tcbs i).valid = false ∧ tcb.state = .listen ∧ tcb.sendq = {} ∧
        (tcpListen table localIp localPort recvFn connectFn ctx).1.tcbs =
          Function.update table.tcbs i tcb := by
  unfold tcpListen
  split_ifs
  · exact .inl rfl
  · exact .inl rfl
  · split
    · exact .inl rfl
    · rename_i table' i halloc
      obtain ⟨hi, htcbs, -⟩ := tcpAllocTcb_eq_some halloc
      refine .inr ⟨i, _, hi, ?_, ?_, by simp only [TcpTable.set, htcbs, Function.update_idem]; rfl⟩
      · rfl
      · rw [Function.update_self]

theorem tcpConnect_cases {localIp remoteIp : UInt32} {localPort remotePort : UInt16}
    {recvFn connectFn ctx : Option AppRef} {table' : TcpTable} {res : Option TcbIndex}
    {out : TcpOut}
    (h : tcpConnect env table localIp remoteIp localPort remotePort recvFn connectFn ctx =
      (table', res, out)) :
    TcpUnopened table table' ∧ out = {} ∨
      ∃ i tcb syn, tcpFindExact table localIp localPort remoteIp remotePort = none ∧
        (table.tcbs i).valid = false ∧ table'.tcbs = Function.update table.tcbs i tcb ∧
        out = { sent := [syn], events := tcpTimer env false i } ∧
        TcbOpened env tcb .synSent tcpFlagSyn syn ∧ tcb.retransmitTs = tcpTimerTs env 0 ∧
        tcb.rcvNxt = 0 ∧ TcbAddressed tcb localIp localPort remoteIp remotePort := by
  unfold tcpConnect at h
  dsimp only at h
  split at h
  · cases h
    exact .inl ⟨.inl rfl, rfl⟩
  split at h
  · cases h
    exact .inl ⟨.inl rfl, rfl⟩
  rename_i hfind
  split at h
  · cases h
    exact .inl ⟨.inl rfl, rfl⟩
  rename_i table₁ i halloc
  obtain ⟨hi, htcbs, -⟩ := tcpAllocTcb_eq_some halloc
  have hself : table₁.tcbs i = { valid := true } := tcpAllocTcb_self halloc
  simp only [hself] at h
  split at h
  · -- the SYN is not sent and the TCB is released
    cases h
    refine .inl ⟨.inr ⟨i, hi, ?_⟩, rfl⟩
    simp only [tcpReleaseTcb, TcpTable.set, htcbs, Function.update_idem]
  · rename_i syn hsyn
    generalize htrack : tcpSendqTrack _ _ _ _ _ _ = x at h
    obtain ⟨sendq, rfl, hq, htracks⟩ := tcpSendqTrack_new htrack rfl
    simp only [tcpScheduleRetransmit_eq] at h
    cases h
    refine .inr ⟨i, _, syn, by simpa using hfind, hi,
      by simp only [TcpTable.set, htcbs, Function.update_idem]; rfl, rfl, ?_⟩
    exact ⟨⟨rfl, rfl, rfl, rfl, hsyn, hq _ rfl, htracks⟩, rfl, rfl, ⟨rfl, rfl, rfl, rfl⟩⟩

theorem tcpReceiveListen_cases {listener : TcbIndex} {pkt : IpDatagram} {hdr : TcpFields}
    {table' : TcpTable} {res : Int} {out : TcpOut}
    (h : tcpReceiveListen env table listener pkt hdr = (table', res, out)) :
    TcpUnopened table table' ∧ out = {} ∨
      ∃ i tcb synAck, (table.tcbs i).valid = false ∧
        table'.tcbs = Function.update table.tcbs i tcb ∧ out = { sent := [synAck] } ∧
        TcbOpened env tcb .synReceived (tcpFlagSyn ||| tcpFlagAck) synAck ∧
        tcb.retransmitTs = 0 ∧ tcb.rcvNxt = hdr.seqNum + 1 ∧
        TcbAddressed tcb pkt.dstIp hdr.dstPort pkt.srcIp hdr.srcPort := by
  unfold tcpReceiveListen at h
  split at h
  · cases h
    exact .inl ⟨.inl rfl, rfl⟩
  rename_i table₁ i halloc
  obtain ⟨hi, htcbs, -⟩ := tcpAllocTcb_eq_some halloc
  have hself : table₁.tcbs i = { valid := true } := tcpAllocTcb_self halloc
  simp only [hself] at h
  split at h
  · -- the SYN-ACK is not sent and the TCB is released
    cases h
    refine .inl ⟨.inr ⟨i, hi, ?_⟩, rfl⟩
    simp only [tcpReleaseTcb, TcpTable.set, htcbs, Function.update_idem]
  · rename_i synAck hsynAck
    generalize htrack : tcpSendqTrack _ _ _ _ _ _ = x at h
    obtain ⟨sendq, rfl, hq, htracks⟩ := tcpSendqTrack_new htrack rfl
    cases h
    refine .inr ⟨i, _, synAck, hi,
      by simp only [TcpTable.set, htcbs, Function.update_idem]; rfl, rfl, ?_⟩
    exact ⟨⟨rfl, rfl, rfl, rfl, hsynAck, hq _ rfl, htracks⟩, rfl, rfl, ⟨rfl, rfl, rfl, rfl⟩⟩

/-! ## Sending -/

/-- The TCB after its segment has been sent, of `span` sequence numbers. -/
structure TcbSent (env : IpEnv) (tcb₀ : Tcb) (flags : UInt8) (payload : List UInt8)
    (span : UInt32) (tcb : Tcb) (pkt : IpDatagram) : Prop where
  valid : tcb₀.valid = true
  idle : tcpSendqHasUnacked tcb₀ = false
  same : ∃ sendq ts state, tcb = { tcb₀ with
    sndNxt := tcb₀.sndNxt + span, sendq := sendq, retransmitTs := ts, state := state }
  sent : tcpSendSegment env tcb₀ tcb₀.sndNxt tcb₀.rcvNxt flags payload = some pkt
  sendq : SendqOk tcb
  tracks : tcb.sendq.Tracks { pkt := some pkt.data, seqStart := tcb₀.sndNxt,
                              seqEnd := tcb₀.sndNxt + span, flags := flags, sentTs := env.time }

theorem sendLen_eq (data : List UInt8) :
    (if data.length > tcpMss then tcpMss else data.length) = (data.take tcpMss).length := by
  rw [List.length_take]
  split_ifs <;> omega

theorem take_sendLen (data : List UInt8) :
    data.take (data.take tcpMss).length = data.take tcpMss :=
  List.prefix_iff_eq_take.mp (List.take_prefix _ _) |>.symm

theorem tcpSend_cases {i : TcbIndex}
    (hq : (table.tcbs i).valid = true → (table.tcbs i).state ≠ .listen → SendqOk (table.tcbs i))
    {data : List UInt8} {table' : TcpTable} {res : Int} {out : TcpOut}
    (h : tcpSend env table i data = (table', res, out)) :
    table' = table ∧ out = {} ∧ (res = 0 → data = []) ∨
      ∃ tcb pkt, res = 0 ∧ data ≠ [] ∧ (table.tcbs i).state = .established ∧
        tcb.state = .established ∧ table'.tcbs = Function.update table.tcbs i tcb ∧
        out = { sent := [pkt], events := tcpTimer env false i } ∧
        TcbSent env (table.tcbs i) (tcpFlagAck ||| tcpFlagPsh) (data.take tcpMss)
          (UInt32.ofNat (data.take tcpMss).length) tcb pkt ∧
        tcb.retransmitTs = tcpTimerTs env (table.tcbs i).retransmitTs := by
  unfold tcpSend at h
  simp only [sendLen_eq, take_sendLen] at h
  split_ifs at h with hv hst hnil hun
  · cases h
    exact .inl ⟨rfl, rfl, fun h => nomatch h⟩
  · cases h
    exact .inl ⟨rfl, rfl, fun h => nomatch h⟩
  · cases h
    exact .inl ⟨rfl, rfl, fun _ => List.length_eq_zero_iff.mp hnil⟩
  · cases h
    exact .inl ⟨rfl, rfl, fun h => nomatch h⟩
  · have hst : (table.tcbs i).state = .established := by simpa using hst
    have hun : tcpSendqHasUnacked (table.tcbs i) = false := by simpa using hun
    have hq := hq (by simpa using hv) (by rw [hst]; decide)
    split at h
    · cases h
      exact .inl ⟨rfl, rfl, fun h => nomatch h⟩
    · rename_i pkt hpkt
      obtain ⟨sendq, htrack, hq', htracks⟩ := hq.track hun pkt.data (table.tcbs i).sndNxt
        ((table.tcbs i).sndNxt + UInt32.ofNat (data.take tcpMss).length)
        (tcpFlagAck ||| tcpFlagPsh) env.time
      rw [htrack] at h
      simp only [tcpScheduleRetransmit_eq] at h
      cases h
      refine .inr ⟨_, pkt, rfl, fun h => hnil (by rw [h]; rfl), hst, ?_, rfl, rfl, ?_, rfl⟩
      · exact hst
      · exact ⟨by simpa using hv, hun, ⟨_, _, _, rfl⟩, hpkt, hq' _ rfl, htracks⟩

theorem tcpClose_cases {i : TcbIndex}
    (hq : (table.tcbs i).valid = true → (table.tcbs i).state ≠ .listen → SendqOk (table.tcbs i))
    {table' : TcpTable} {res : Int} {out : TcpOut} (h : tcpClose env table i = (table', res, out)) :
    table' = table ∧ out = {} ∧ res ≠ 0 ∨
      ∃ tcb pkt, res = 0 ∧
        ((table.tcbs i).state = .established ∧ tcb.state = .finWait1 ∨
          (table.tcbs i).state = .closeWait ∧ tcb.state = .lastAck) ∧
        table'.tcbs = Function.update table.tcbs i tcb ∧
        out = { sent := [pkt], events := tcpTimer env false i } ∧
        TcbSent env (table.tcbs i) (tcpFlagFin ||| tcpFlagAck) [] 1 tcb pkt ∧
        tcb.retransmitTs = tcpTimerTs env (table.tcbs i).retransmitTs := by
  unfold tcpClose at h
  dsimp only at h
  split at h
  · cases h
    exact .inl ⟨rfl, rfl, by decide⟩
  rename_i hv
  split at h
  · cases h
    exact .inl ⟨rfl, rfl, by decide⟩
  rename_i hst
  split at h
  · cases h
    exact .inl ⟨rfl, rfl, by decide⟩
  rename_i hun
  have hst : (table.tcbs i).state = .established ∨ (table.tcbs i).state = .closeWait := by
    tauto
  have hun : tcpSendqHasUnacked (table.tcbs i) = false := by simpa using hun
  have hq := hq (by simpa using hv) (by rcases hst with hs | hs <;> rw [hs] <;> decide)
  split at h
  · cases h
    exact .inl ⟨rfl, rfl, by decide⟩
  · rename_i pkt hpkt
    obtain ⟨sendq, htrack, hq', htracks⟩ := hq.track hun pkt.data (table.tcbs i).sndNxt
      ((table.tcbs i).sndNxt + 1) (tcpFlagFin ||| tcpFlagAck) env.time
    rw [htrack] at h
    simp only [tcpScheduleRetransmit_eq] at h
    cases h
    refine .inr ⟨_, pkt, rfl, ?_, rfl, rfl, ?_, rfl⟩
    · rcases hst with hs | hs <;> simp [hs]
    · exact ⟨by simpa using hv, hun, ⟨_, _, _, rfl⟩, hpkt, hq' _ rfl, htracks⟩

/-! ## Timers -/

theorem tcpTimeWaitHandler_cases (table : TcpTable) (i : TcbIndex) :
    tcpTimeWaitHandler table i = table ∨
      (table.tcbs i).valid = true ∧ (table.tcbs i).state = .timeWait ∧
        (tcpTimeWaitHandler table i).tcbs = Function.update table.tcbs i {} := by
  unfold tcpTimeWaitHandler
  split_ifs with hv hst
  · exact .inl rfl
  · exact .inl rfl
  · exact .inr ⟨by simpa using hv, by simpa using hst, rfl⟩

/-- The TCB after its packets have been sent again. -/
structure TcbResent (tcb₀ tcb : Tcb) : Prop where
  same : ∃ sendq ts, tcb = { tcb₀ with sendq := sendq, retransmitTs := ts }
  count : tcb.sendq.count = tcb₀.sendq.count
  entries : ∀ k, ∃ retransmits ts, tcb.sendq.entries k =
    { tcb₀.sendq.entries k with retransmits := retransmits, sentTs := ts }

theorem TcbResent.pkt {tcb₀ tcb : Tcb} (h : TcbResent tcb₀ tcb) (k : Fin tcpMaxInflight) :
    (tcb.sendq.entries k).pkt = (tcb₀.sendq.entries k).pkt := by
  obtain ⟨_, _, he⟩ := h.entries k
  rw [he]

theorem TcbResent.sendqOk {tcb₀ tcb : Tcb} (h : TcbResent tcb₀ tcb) (hq : SendqOk tcb₀) :
    SendqOk tcb := by
  constructor
  · rw [h.count, hq.count, Slots.count_congr fun k => ?_]
    rw [TcpSegment.held, TcpSegment.held, h.pkt k]
  · intro k hk
    rw [TcpSegment.held, h.pkt k] at hk
    obtain ⟨_, _, he⟩ := h.entries k
    rw [he]
    exact hq.unacked k hk

/-- A retransmission of the TCB: a packet of its queue, as it was sent. -/
def IsResent (tcb : Tcb) (p : IpDatagram) : Prop :=
  ∃ k b, (tcb.sendq.entries k).pkt = some b ∧ (tcb.sendq.entries k).acked = false ∧
    p = { srcIp := tcb.localIp, dstIp := tcb.remoteIp, protocol := ipProtoTcp, data := b }

/-- The rounds of the retransmission loop so far. -/
structure RetransmitInv (tcb₀ : Tcb) (acc : Tcb × TcpOut × Bool) : Prop where
  tcb : TcbResent tcb₀ acc.1
  upcalls : acc.2.1.upcalls = []
  sent : ∀ p ∈ acc.2.1.sent, IsResent tcb₀ p

theorem tcpRetransmitEntry_inv {tcb₀ : Tcb} (i : TcbIndex) {acc : Tcb × TcpOut × Bool}
    (h : RetransmitInv tcb₀ acc) (k : Fin tcpMaxInflight) :
    RetransmitInv tcb₀ (tcpRetransmitEntry env i acc k) := by
  obtain ⟨tcb, out, returned⟩ := acc
  unfold tcpRetransmitEntry
  dsimp only
  split
  · rename_i pkt hpkt hacked
    split_ifs
    · exact ⟨h.tcb, h.upcalls, h.sent⟩
    · have htcb : TcbResent tcb₀ tcb := h.tcb
      obtain ⟨sendq, ts', hsame⟩ := htcb.same
      obtain ⟨n, ts, hk⟩ := htcb.entries k
      rw [tcpScheduleRetransmit_tcb]
      refine ⟨⟨⟨_, _, by rw [hsame]⟩, htcb.count, fun j => ?_⟩, h.upcalls, ?_⟩
      · dsimp only
        by_cases hjk : j = k
        · subst hjk
          rw [Function.update_self, hk]
          exact ⟨_, _, rfl⟩
        · rw [Function.update_of_ne hjk]
          exact htcb.entries j
      · intro p hp
        rcases List.mem_append.mp hp with hp | hp
        · exact h.sent p hp
        · obtain rfl := List.mem_singleton.mp hp
          rw [hk] at hpkt hacked
          exact ⟨k, pkt, hpkt, hacked, by rw [hsame]⟩
  · exact h

theorem tcpRetransmitEntries_inv (env : IpEnv) (i : TcbIndex) (tcb₀ : Tcb) :
    RetransmitInv tcb₀
      (Slots.forEach tcpMaxInflight (tcpRetransmitEntry env i) (tcb₀, {}, false)) :=
  Slots.forEach_invariant (RetransmitInv tcb₀)
    ⟨⟨⟨_, _, rfl⟩, rfl, fun _ => ⟨_, _, rfl⟩⟩, rfl, fun _ h => nomatch h⟩
    fun k _ hacc => tcpRetransmitEntry_inv i hacc k

theorem tcpRetransmitHandler_cases {i : TcbIndex} {table' : TcpTable} {out : TcpOut}
    (h : tcpRetransmitHandler env table i = (table', out)) :
    table' = table ∧ out = {} ∨
      ∃ tcb, (table.tcbs i).valid = true ∧ table'.tcbs = Function.update table.tcbs i tcb ∧
        TcbResent (table.tcbs i) tcb ∧ out.upcalls = [] ∧
        ∀ p ∈ out.sent, IsResent (table.tcbs i) p := by
  unfold tcpRetransmitHandler at h
  split_ifs at h with hv
  · cases h
    exact .inl ⟨rfl, rfl⟩
  · have hinv := tcpRetransmitEntries_inv env i (table.tcbs i)
    generalize Slots.forEach tcpMaxInflight (tcpRetransmitEntry env i) (table.tcbs i, {}, false) =
      acc at hinv h
    obtain ⟨tcb, out, returned⟩ := acc
    cases h
    exact .inr ⟨tcb, by simpa using hv, rfl, hinv.tcb, hinv.upcalls, hinv.sent⟩

/-! ## Receiving -/

theorem tcpEstablishedAck_sndNxt (tcb : Tcb) (hdr : TcpFields) :
    (tcpEstablishedAck tcb hdr).sndNxt = tcb.sndNxt := by
  unfold tcpEstablishedAck
  split_ifs <;> rfl

theorem tcpEstablishedAck_rcvNxt (tcb : Tcb) (hdr : TcpFields) :
    (tcpEstablishedAck tcb hdr).rcvNxt = tcb.rcvNxt := by
  unfold tcpEstablishedAck
  split_ifs <;> rfl

theorem tcpEstablishedAck_state (tcb : Tcb) (hdr : TcpFields) :
    (tcpEstablishedAck tcb hdr).state = tcb.state := by
  unfold tcpEstablishedAck
  split_ifs <;> rfl

theorem tcpEstablishedAck_valid (tcb : Tcb) (hdr : TcpFields) :
    (tcpEstablishedAck tcb hdr).valid = tcb.valid := by
  unfold tcpEstablishedAck
  split_ifs <;> rfl

theorem tcpEstablishedAck_connectHandler (tcb : Tcb) (hdr : TcpFields) :
    (tcpEstablishedAck tcb hdr).connectHandler = tcb.connectHandler := by
  unfold tcpEstablishedAck
  split_ifs <;> rfl

/-- The TCB after an ACK, before the state changes. -/
def Tcb.ackedBy (tcb : Tcb) (hdr : TcpFields) : Tcb :=
  tcpSendqAck { tcb with sndUna := hdr.ackNum } hdr.ackNum

/-- What a segment that finds `tcb` can make of it. Where the ACK of the segment
    may fail there are two next states. -/
inductive TcbReceived (tcb : Tcb) (hdr : TcpFields) : Tcb → Prop
  | ignored : TcbReceived tcb hdr tcb
  | synSent (hst : tcb.state = .synSent) (hsyn : hdr.flags &&& tcpFlagSyn ≠ 0)
      (hack : hdr.flags &&& tcpFlagAck ≠ 0) (hnum : hdr.ackNum = tcb.sndNxt) :
      TcbReceived tcb hdr
        { tcb.ackedBy hdr with rcvNxt := hdr.seqNum + 1, state := .established }
  | synReceived (hst : tcb.state = .synReceived) (hack : hdr.flags &&& tcpFlagAck ≠ 0)
      (hnum : hdr.ackNum = tcb.sndNxt) :
      TcbReceived tcb hdr { tcb.ackedBy hdr with state := .established }
  | acked (hst : tcb.state = .established) : TcbReceived tcb hdr (tcpEstablishedAck tcb hdr)
  | data (hst : tcb.state = .established) (hne : hdr.payload ≠ [])
      (hseq : hdr.seqNum = tcb.rcvNxt) :
      TcbReceived tcb hdr { tcpEstablishedAck tcb hdr with
        rcvNxt := tcb.rcvNxt + UInt32.ofNat hdr.payload.length }
  | fin (hst : tcb.state = .established) (hfin : hdr.flags &&& tcpFlagFin ≠ 0)
      (hseq : hdr.seqNum = tcb.rcvNxt) {state : TcpState}
      (hnext : state = .established ∨ state = .closeWait) :
      TcbReceived tcb hdr { tcpEstablishedAck tcb hdr with
        rcvNxt := hdr.seqNum + 1, state := state }
  | finWait1 (hst : tcb.state = .finWait1) (hack : hdr.flags &&& tcpFlagAck ≠ 0)
      (hnum : hdr.ackNum > tcb.sndUna) : TcbReceived tcb hdr
        (if tcpFinIsAcked (tcb.ackedBy hdr) then { tcb.ackedBy hdr with state := .finWait2 }
          else tcb.ackedBy hdr)
  | finWait2 (hst : tcb.state = .finWait2) (hfin : hdr.flags &&& tcpFlagFin ≠ 0)
      (hseq : hdr.seqNum = tcb.rcvNxt) {state : TcpState}
      (hnext : state = .finWait2 ∨ state = .timeWait) :
      TcbReceived tcb hdr { tcb with rcvNxt := hdr.seqNum + 1, state := state }
  | closing (hst : tcb.state = .closing) {state : TcpState}
      (hnext : state = .closing ∨ state = .timeWait) :
      TcbReceived tcb hdr { tcb.ackedBy hdr with state := state }
  | lastAck (hst : tcb.state = .lastAck) (hack : hdr.flags &&& tcpFlagAck ≠ 0)
      (hnum : hdr.ackNum > tcb.sndUna) (hfin : tcpFinIsAcked (tcb.ackedBy hdr) = false) :
      TcbReceived tcb hdr (tcb.ackedBy hdr)
  | released (hst : tcb.state = .lastAck) : TcbReceived tcb hdr {}

/-- The segment made of the TCB in slot `i` what `TcbReceived` says. What was sent are ACKs
    of the new TCB. -/
def TcpSegmentTaken (env : IpEnv) (table : TcpTable) (i : TcbIndex) (hdr : TcpFields)
    (table' : TcpTable) (out : TcpOut) : Prop :=
  ∃ tcb, table'.tcbs = Function.update table.tcbs i tcb ∧ TcbReceived (table.tcbs i) hdr tcb ∧
    ∀ p ∈ out.sent, (table.tcbs i).state ≠ .lastAck ∧ tcpSendAck env tcb = some p

section
variable {i : TcbIndex} {hdr : TcpFields} {table' : TcpTable} {res : Int} {out : TcpOut}

theorem TcpSegmentTaken.ignored {res' : Int} {upcalls : List TcpUpcall} {events : List TcpEvent}
    (h : (table, res', ({ upcalls := upcalls, events := events } : TcpOut)) = (table', res, out)) :
    TcpSegmentTaken env table i hdr table' out := by
  cases h
  exact ⟨_, (Function.update_eq_self _ _).symm, .ignored, fun _ hp => nomatch hp⟩

/-- The ACK of the new TCB was sent. -/
theorem TcpSegmentTaken.acked {tcb : Tcb} {ack : IpDatagram} {upcalls : List TcpUpcall}
    {events : List TcpEvent} (hr : TcbReceived (table.tcbs i) hdr tcb)
    (hst : (table.tcbs i).state ≠ .lastAck) (hack : tcpSendAck env tcb = some ack) :
    TcpSegmentTaken env table i hdr (table.set i tcb) ⟨[ack], events, upcalls⟩ :=
  ⟨tcb, rfl, hr, List.forall_mem_singleton.mpr ⟨hst, hack⟩⟩

/-- Nothing was sent. -/
theorem TcpSegmentTaken.silent {tcb : Tcb} {upcalls : List TcpUpcall} {events : List TcpEvent}
    (hr : TcbReceived (table.tcbs i) hdr tcb) :
    TcpSegmentTaken env table i hdr (table.set i tcb) ⟨[], events, upcalls⟩ :=
  ⟨tcb, rfl, hr, fun _ hp => nomatch hp⟩

theorem tcpReceiveSynSent_cases (hst : (table.tcbs i).state = .synSent)
    (h : tcpReceiveSynSent env table i hdr = (table', res, out)) :
    TcpSegmentTaken env table i hdr table' out := by
  unfold tcpReceiveSynSent at h
  dsimp only at h
  split at h
  · rename_i hsyn
    obtain ⟨hsyn, hack, hnum⟩ := hsyn
    have hr := TcbReceived.synSent hst hsyn hack hnum
    split at h
    · cases h
      exact .silent hr
    · rename_i ack hack'
      cases h
      exact .acked hr (by simp [hst]) hack'
  · exact .ignored h

theorem tcpReceiveSynReceived_cases (hst : (table.tcbs i).state = .synReceived)
    (h : tcpReceiveSynReceived table i hdr = (table', res, out)) :
    TcpSegmentTaken env table i hdr table' out := by
  unfold tcpReceiveSynReceived at h
  dsimp only at h
  split at h
  · rename_i hack
    cases h
    exact .silent (.synReceived hst hack.1 hack.2)
  · exact .ignored h

theorem tcpReceiveEstablished_cases (hst : (table.tcbs i).state = .established)
    (h : tcpReceiveEstablished env table i hdr = (table', res, out)) :
    TcpSegmentTaken env table i hdr table' out := by
  have hnxt : (tcpEstablishedAck (table.tcbs i) hdr).rcvNxt = (table.tcbs i).rcvNxt := by
    unfold tcpEstablishedAck
    split_ifs <;> rfl
  have hst' : (tcpEstablishedAck (table.tcbs i) hdr).state = .established := by
    unfold tcpEstablishedAck
    split_ifs <;> exact hst
  have hne : (table.tcbs i).state ≠ .lastAck := by simp [hst]
  unfold tcpReceiveEstablished at h
  dsimp only at h
  rw [hnxt] at h
  split at h
  · rename_i hlen
    have hdata : hdr.payload ≠ [] := List.length_pos_iff.mp hlen
    split at h
    · rename_i hseq
      split at h
      · cases h
        exact .silent (.data hst hdata hseq)
      · rename_i ack hack
        cases h
        exact .acked (.data hst hdata hseq) hne hack
    · split at h
      · cases h
        exact .silent (.acked hst)
      · rename_i ack hack
        cases h
        exact .acked (.acked hst) hne hack
  · split at h
    · rename_i hfin
      split at h
      · cases h
        exact .silent (.fin hst hfin.1 hfin.2 (.inl hst'))
      · rename_i ack hack
        cases h
        exact .acked (.fin hst hfin.1 hfin.2 (.inr rfl)) hne hack
    · split at h
      · cases h
        exact .silent (.acked hst)
      · cases h
        exact .silent (.acked hst)

theorem tcpReceiveFinWait1_cases (hst : (table.tcbs i).state = .finWait1)
    (h : tcpReceiveFinWait1 table i hdr = (table', res, out)) :
    TcpSegmentTaken env table i hdr table' out := by
  unfold tcpReceiveFinWait1 at h
  dsimp only at h
  split at h
  · rename_i hack
    cases h
    exact .silent (.finWait1 hst hack.1 hack.2)
  · exact .ignored h

theorem tcpReceiveFinWait2_cases (hst : (table.tcbs i).state = .finWait2)
    (h : tcpReceiveFinWait2 env table i hdr = (table', res, out)) :
    TcpSegmentTaken env table i hdr table' out := by
  unfold tcpReceiveFinWait2 at h
  dsimp only at h
  split at h
  · rename_i hfin
    split at h
    · cases h
      exact .silent (.finWait2 hst hfin.1 hfin.2 (.inl hst))
    · rename_i ack hack
      cases h
      exact .acked (.finWait2 hst hfin.1 hfin.2 (.inr rfl)) (by simp [hst]) hack
  · exact .ignored h

theorem tcpReceiveClosing_cases (hst : (table.tcbs i).state = .closing)
    (h : tcpReceiveClosing env table i hdr = (table', res, out)) :
    TcpSegmentTaken env table i hdr table' out := by
  unfold tcpReceiveClosing at h
  dsimp only at h
  split at h
  · split at h
    · cases h
      exact .silent (.closing hst (.inr rfl))
    · cases h
      exact .silent (.closing hst (.inl hst))
  · exact .ignored h

theorem tcpReceiveLastAck_cases (hst : (table.tcbs i).state = .lastAck)
    (h : tcpReceiveLastAck table i hdr = (table', res, out)) :
    TcpSegmentTaken env table i hdr table' out := by
  unfold tcpReceiveLastAck at h
  dsimp only at h
  split at h
  · rename_i hack
    split at h
    · cases h
      refine ⟨{}, ?_, .released hst, fun _ hp => nomatch hp⟩
      simp only [tcpReleaseTcb, TcpTable.set, Function.update_idem]
    · rename_i hfin
      cases h
      exact .silent (.lastAck hst hack.1 hack.2 (Bool.eq_false_iff.mpr hfin))
  · exact .ignored h

theorem tcpReceiveState_cases (h : tcpReceiveState env table i hdr = (table', res, out)) :
    ∃ tcb, table'.tcbs = Function.update table.tcbs i tcb ∧
      TcbReceived (table.tcbs i) hdr tcb ∧
      ∀ p ∈ out.sent, (table.tcbs i).state ≠ .lastAck ∧ tcpSendAck env tcb = some p := by
  unfold tcpReceiveState at h
  split at h
  case h_1 hst => exact tcpReceiveSynSent_cases hst h
  case h_2 hst => exact tcpReceiveSynReceived_cases hst h
  case h_3 hst => exact tcpReceiveEstablished_cases hst h
  case h_4 hst => exact tcpReceiveFinWait1_cases hst h
  case h_5 hst => exact tcpReceiveFinWait2_cases hst h
  case h_6 hst => exact tcpReceiveClosing_cases hst h
  case h_7 hst => exact tcpReceiveLastAck_cases hst h
  case h_8 => exact TcpSegmentTaken.ignored h
  case h_9 => exact TcpSegmentTaken.ignored h

end

theorem tcpReceive_cases {pkt : IpDatagram} {table' : TcpTable} {res : Int} {out : TcpOut}
    (h : tcpReceive env table pkt = (table', res, out)) :
    TcpUnopened table table' ∧ out.sent = [] ∨
      (∃ i tcb, tcpFindExact table pkt.dstIp (tcpFields pkt.data).dstPort pkt.srcIp
          (tcpFields pkt.data).srcPort = some i ∧
        table'.tcbs = Function.update table.tcbs i tcb ∧
        TcbReceived (table.tcbs i) (tcpFields pkt.data) tcb ∧
        ∀ p ∈ out.sent, (table.tcbs i).state ≠ .lastAck ∧ tcpSendAck env tcb = some p) ∨
      ∃ i tcb synAck, tcpFindExact table pkt.dstIp (tcpFields pkt.data).dstPort pkt.srcIp
          (tcpFields pkt.data).srcPort = none ∧
        (tcpFields pkt.data).flags = tcpFlagSyn ∧ (table.tcbs i).valid = false ∧
        table'.tcbs = Function.update table.tcbs i tcb ∧ out.sent = [synAck] ∧
        TcbOpened env tcb .synReceived (tcpFlagSyn ||| tcpFlagAck) synAck ∧
        tcb.rcvNxt = (tcpFields pkt.data).seqNum + 1 ∧
        TcbAddressed tcb pkt.dstIp (tcpFields pkt.data).dstPort pkt.srcIp
          (tcpFields pkt.data).srcPort := by
  have hdropped : (table, -1, ({} : TcpOut)) = (table', res, out) →
      TcpUnopened table table' ∧ out.sent = [] := by
    intro h
    cases h
    exact ⟨.inl rfl, rfl⟩
  unfold tcpReceive at h
  dsimp only at h
  split at h
  · exact .inl (hdropped h)
  split at h
  · exact .inl (hdropped h)
  split at h
  · exact .inl (hdropped h)
  split at h
  · rename_i i hfind
    obtain ⟨tcb, htable, hrecv, hsent⟩ := tcpReceiveState_cases h
    exact .inr (.inl ⟨i, tcb, hfind, htable, hrecv, hsent⟩)
  · rename_i hfind
    split at h
    · rename_i hsyn
      split at h
      · rcases tcpReceiveListen_cases h with ⟨hun, rfl⟩ |
          ⟨i, tcb, synAck, hi, htable, rfl, hopen, -, haddr⟩
        · exact .inl ⟨hun, rfl⟩
        · exact .inr (.inr ⟨i, tcb, synAck, hfind, hsyn, hi, htable, rfl, hopen, haddr⟩)
      · exact .inl (hdropped h)
    · exact .inl (hdropped h)

end FrameRunner
