import FrameRunner.Tcp.Ack
import FrameRunner.Tcp.Table

/-!
# Calls of TCP that fail (`protocols/tcp.c`)

A call that fails late has allocated a slot, advanced a sequence number or sent a
segment by then. `tcp_listen`, `tcp_connect`, `tcp_send` and `tcp_close` undo
that or have not written yet. `tcp_receive` writes the TCB before it sends the
ACK, and does not undo it when the ACK cannot be sent.

Main results:
* `tcpCalls_failed`: the four calls leave every reachable table as it was.
* `tcpReceive_failed_iff`: when a `tcp_receive` that fails does.
-/

namespace FrameRunner

open FrameRunner.Lib

/-! ## Slots taken and given back -/

/-- The table with the slot cleared that a failed open took. -/
theorem tcpReleaseTcb_allocTcb {table table' : TcpTable} {i : TcbIndex} {tcb : Tcb}
    (h : tcpAllocTcb table = some (table', i)) :
    tcpReleaseTcb (table'.set i tcb) i = table.set i {} := by
  obtain ⟨-, htcbs, hcount⟩ := tcpAllocTcb_eq_some h
  unfold tcpReleaseTcb TcpTable.set
  simp only [htcbs, hcount, Function.update_idem, Nat.add_sub_cancel]

/-- Storing a record changes the table exactly when the record differs. -/
theorem TcpTable.set_eq_self_iff {table : TcpTable} {i : TcbIndex} {tcb : Tcb} :
    table.set i tcb = table ↔ tcb = table.tcbs i := by
  constructor
  · intro h
    have hi := congrArg (fun t => t.tcbs i) h
    rwa [TcpTable.set_self] at hi
  · rintro rfl
    rw [TcpTable.set, Function.update_eq_self]

theorem tcpSendqTrack_new_ne_none {tcb : Tcb} {clone : List UInt8} {seqStart seqEnd : UInt32}
    {flags : UInt8} {now : UInt64} (hq : tcb.sendq = {}) :
    tcpSendqTrack tcb clone seqStart seqEnd flags now ≠ none := by
  obtain ⟨sendq, hsome, -⟩ := tcpSendqTrack_new rfl hq
  rw [hsome]
  exact Option.some_ne_none _

/-! ## The calls of the application -/

theorem tcpListen_failed {table : TcpTable} {localIp : UInt32} {localPort : UInt16}
    {recvFn connectFn ctx : Option AppRef}
    (h : (tcpListen table localIp localPort recvFn connectFn ctx).2 = none) :
    (tcpListen table localIp localPort recvFn connectFn ctx).1 = table := by
  unfold tcpListen at h ⊢
  split
  · rfl
  rename_i hport
  rw [if_neg hport] at h
  split
  · rfl
  rename_i hfind
  rw [if_neg hfind] at h
  cases halloc : tcpAllocTcb table with
  | none => rfl
  | some r =>
    rw [halloc] at h
    exact absurd h (Option.some_ne_none _)

/-- A free slot that is zero is as it was after it was taken and given back. -/
theorem tcpConnect_failed {env : IpEnv} {table : TcpTable} (hok : TcpTableOk table)
    {localIp remoteIp : UInt32} {localPort remotePort : UInt16}
    {recvFn connectFn ctx : Option AppRef} (h : (tcpConnect env table localIp remoteIp localPort
      remotePort recvFn connectFn ctx).2.1 = none) :
    (tcpConnect env table localIp remoteIp localPort remotePort recvFn connectFn ctx).1 =
      table := by
  unfold tcpConnect at h ⊢
  dsimp only at h ⊢
  split
  · rfl
  rename_i hargs
  rw [if_neg hargs] at h
  split
  · rfl
  rename_i hfind
  rw [if_neg hfind] at h
  cases halloc : tcpAllocTcb table with
  | none => rfl
  | some r =>
    obtain ⟨table₁, i⟩ := r
    obtain ⟨hfree, -, -⟩ := tcpAllocTcb_eq_some halloc
    have hself : table₁.tcbs i = { valid := true } := tcpAllocTcb_self halloc
    rw [halloc] at h
    simp only [hself] at h ⊢
    split at h
    · show tcpReleaseTcb (table₁.set i _) i = table
      rw [tcpReleaseTcb_allocTcb halloc]
      exact TcpTable.set_eq_self_iff.mpr (hok.clear i hfree).symm
    · split at h
      · rename_i htrack
        exact absurd htrack (tcpSendqTrack_new_ne_none rfl)
      · exact absurd h (Option.some_ne_none _)

theorem tcpSend_failed {env : IpEnv} {table : TcpTable} (hq : TableQueueOk table) {i : TcbIndex}
    {data : List UInt8} (h : (tcpSend env table i data).2.1 = -1) :
    (tcpSend env table i data).1 = table := by
  rcases hcall : tcpSend env table i data with ⟨table', res, out⟩
  rw [hcall] at h
  rcases tcpSend_cases (fun _ _ => (hq i).sendq) hcall with ⟨hsame, -⟩ | ⟨_, _, hres, -⟩
  · exact hsame
  · have hsent : ¬ (0 : ℤ) = -1 := by decide
    exact absurd (hres.symm.trans h) hsent

theorem tcpClose_failed {env : IpEnv} {table : TcpTable} (hq : TableQueueOk table) {i : TcbIndex}
    (h : (tcpClose env table i).2.1 = -1) : (tcpClose env table i).1 = table := by
  rcases hcall : tcpClose env table i with ⟨table', res, out⟩
  rw [hcall] at h
  rcases tcpClose_cases (fun _ _ => (hq i).sendq) hcall with ⟨hsame, -⟩ | ⟨_, _, hres, -⟩
  · exact hsame
  · have hsent : ¬ (0 : ℤ) = -1 := by decide
    exact absurd (hres.symm.trans h) hsent

theorem TcpTableOk.step {table : TcpTable} (h : TcpTableOk table) (input : IpEnv × TcpInput) :
    TcpTableOk (tcpStep table input) := by
  obtain ⟨env, input⟩ := input
  cases input with
  | call c => exact h.call c
  | retransmit i => exact h.retransmitHandler i
  | timeWait i => exact h.timeWaitHandler i

theorem tcpTableOk_steps (inputs : List (IpEnv × TcpInput)) :
    TcpTableOk (run tcpStep tcpInit inputs) :=
  run_invariant TcpTableOk (fun _ input h => h.step input) inputs _ tcpTableOk_init

/-- In every reachable state a call of the application that fails leaves the table
    as it was, whatever made it fail. -/
theorem tcpCalls_failed (inputs : List (IpEnv × TcpInput)) :
    let table := run tcpStep tcpInit inputs
    (∀ localIp localPort recvFn connectFn ctx,
      (tcpListen table localIp localPort recvFn connectFn ctx).2 = none →
      (tcpListen table localIp localPort recvFn connectFn ctx).1 = table) ∧
    (∀ env localIp remoteIp localPort remotePort recvFn connectFn ctx,
      (tcpConnect env table localIp remoteIp localPort remotePort recvFn connectFn ctx).2.1 = none →
      (tcpConnect env table localIp remoteIp localPort remotePort recvFn connectFn ctx).1 =
        table) ∧
    (∀ env i data, (tcpSend env table i data).2.1 = -1 → (tcpSend env table i data).1 = table) ∧
    ∀ env i, (tcpClose env table i).2.1 = -1 → (tcpClose env table i).1 = table := by
  intro table
  have hok : TcpTableOk table := tcpTableOk_steps inputs
  have hq : TableQueueOk table := tableQueueOk_run inputs
  exact ⟨fun _ _ _ _ _ h => tcpListen_failed h, fun _ _ _ _ _ _ _ _ h => tcpConnect_failed hok h,
    fun _ _ _ h => tcpSend_failed hq h, fun _ _ h => tcpClose_failed hq h⟩

/-- The byte 97 is unacknowledged, and the IP layer takes no more segments. -/
theorem tcpCalls_failed_exampleSendRun :
    let table := run tcpStep tcpInit exampleSendRun
    (tcpListen table 0 0 none none none).1 = table ∧
      (tcpConnect { ipOk := false } table 0x0A000001 0x0A000002 40001 80 none none none).1 =
        table ∧
      (tcpSend {} table exampleTcb [98]).1 = table ∧ (tcpClose {} table exampleTcb).1 = table := by
  obtain ⟨hlisten, hconnect, hsend, hclose⟩ := tcpCalls_failed exampleSendRun
  exact ⟨hlisten _ _ _ _ _ (by decide +kernel), hconnect _ _ _ _ _ _ _ _ (by decide +kernel),
    hsend _ _ _ (by decide +kernel), hclose _ _ (by decide +kernel)⟩

/-! ## Received segments -/

/-- The segment passes the checks of `tcp_receive` on its header (lines 488–515). -/
structure TcpHeaderOk (pkt : IpDatagram) : Prop where
  length : tcpHdrLen ≤ pkt.data.length
  protocol : pkt.protocol = ipProtoTcp
  hdrWords : (tcpFields pkt.data).hdrWords = tcpHdrWords

/-- The segment acknowledges something new in `TCP_ESTABLISHED`. -/
def TcpFields.AcksNew (hdr : TcpFields) (tcb : Tcb) : Prop :=
  hdr.flags &&& tcpFlagAck ≠ 0 ∧ hdr.ackNum > tcb.sndUna ∧ hdr.ackNum ≤ tcb.sndNxt

/-- The TCB takes nothing from the segment that it keeps if `tcp_receive` fails. -/
def TcbTakesNothing (tcb : Tcb) (hdr : TcpFields) : Prop :=
  match tcb.state with
  | .synSent =>
    ¬ (hdr.flags &&& tcpFlagSyn ≠ 0 ∧ hdr.flags &&& tcpFlagAck ≠ 0 ∧ hdr.ackNum = tcb.sndNxt)
  | .established => ¬ hdr.AcksNew tcb ∧ (hdr.seqNum = tcb.rcvNxt →
      if hdr.payload = [] then hdr.flags &&& tcpFlagFin = 0
      else UInt32.ofNat hdr.payload.length = 0)
  | .finWait2 => ¬ (hdr.flags &&& tcpFlagFin ≠ 0 ∧ hdr.seqNum = tcb.rcvNxt)
  | _ => True

/-- Nothing of the table is overwritten on the way to a failure of `tcp_receive`: the
    TCB that is found takes nothing, and the slot that a listener would take for a
    SYN is zero. -/
def TcpTakesNothing (table : TcpTable) (pkt : IpDatagram) : Prop :=
  let hdr := tcpFields pkt.data
  TcpHeaderOk pkt →
    match tcpFindExact table pkt.dstIp hdr.dstPort pkt.srcIp hdr.srcPort with
    | some i => TcbTakesNothing (table.tcbs i) hdr
    | none => hdr.flags = tcpFlagSyn →
      (tcpFindListener table pkt.dstIp hdr.dstPort).isSome →
      ∀ r, tcpAllocTcb table = some r → table.tcbs r.2 = {}

section
variable {table : TcpTable} {env : IpEnv} {i : TcbIndex} {hdr : TcpFields}

theorem uint32_add_one_ne (x : UInt32) : x + 1 ≠ x := by
  grind

theorem uint32_add_eq_self_iff {x n : UInt32} : x + n = x ↔ n = 0 := by
  grind

theorem not_ok_of_zero : ¬ (0 : ℤ) = -1 := by decide

/-- A new ACK moves `snd_una`, and nothing moves without one. -/
theorem tcpEstablishedAck_eq_iff {tcb : Tcb} {rcvNxt : UInt32} :
    { tcpEstablishedAck tcb hdr with rcvNxt := rcvNxt } = tcb ↔
      ¬ hdr.AcksNew tcb ∧ rcvNxt = tcb.rcvNxt := by
  unfold tcpEstablishedAck TcpFields.AcksNew
  split
  · rename_i hnew
    refine iff_of_false (fun h => ?_) fun h => h.1 hnew
    have hund : hdr.ackNum = tcb.sndUna := congrArg Tcb.sndUna h
    have hlt := hnew.2.1
    rw [hund] at hlt
    exact UInt32.lt_irrefl _ hlt
  · rename_i hold
    rw [and_iff_right hold]
    refine ⟨fun h => congrArg Tcb.rcvNxt h, ?_⟩
    rintro rfl
    rfl

theorem tcpReceiveSynSent_failed_iff (hst : (table.tcbs i).state = .synSent)
    (h : (tcpReceiveSynSent env table i hdr).2.1 = -1) :
    (tcpReceiveSynSent env table i hdr).1 = table ↔ TcbTakesNothing (table.tcbs i) hdr := by
  unfold TcbTakesNothing
  rw [hst]
  unfold tcpReceiveSynSent at h ⊢
  dsimp only at h ⊢
  split
  · rename_i hsyn
    rw [if_pos hsyn] at h
    refine iff_of_false ?_ (not_not.mpr hsyn)
    split
    · -- the ACK fails and the TCB stays established
      intro hsame
      have hstate := congrArg Tcb.state (TcpTable.set_eq_self_iff.mp hsame)
      rw [hst] at hstate
      cases hstate
    · rename_i ack hack
      rw [hack] at h
      exact absurd h not_ok_of_zero
  · rename_i hsyn
    exact iff_of_true rfl hsyn

theorem tcpReceiveFinWait2_failed_iff (hst : (table.tcbs i).state = .finWait2)
    (h : (tcpReceiveFinWait2 env table i hdr).2.1 = -1) :
    (tcpReceiveFinWait2 env table i hdr).1 = table ↔ TcbTakesNothing (table.tcbs i) hdr := by
  unfold TcbTakesNothing
  rw [hst]
  unfold tcpReceiveFinWait2 at h ⊢
  dsimp only at h ⊢
  split
  · rename_i hfin
    rw [if_pos hfin] at h
    refine iff_of_false ?_ (not_not.mpr hfin)
    split
    · -- the ACK fails after `rcv_nxt` has moved past the FIN
      intro hsame
      have hnxt := congrArg Tcb.rcvNxt (TcpTable.set_eq_self_iff.mp hsame)
      rw [← hfin.2] at hnxt
      exact uint32_add_one_ne _ hnxt
    · rename_i ack hack
      rw [hack] at h
      exact absurd h not_ok_of_zero
  · rename_i hfin
    exact iff_of_true rfl hfin

theorem tcpReceiveEstablished_failed_iff (hst : (table.tcbs i).state = .established)
    (h : (tcpReceiveEstablished env table i hdr).2.1 = -1) :
    (tcpReceiveEstablished env table i hdr).1 = table ↔ TcbTakesNothing (table.tcbs i) hdr := by
  have hkept : ∀ rcvNxt : UInt32,
      table.set i { tcpEstablishedAck (table.tcbs i) hdr with rcvNxt := rcvNxt } = table ↔
        ¬ hdr.AcksNew (table.tcbs i) ∧ rcvNxt = (table.tcbs i).rcvNxt :=
    fun _ => TcpTable.set_eq_self_iff.trans tcpEstablishedAck_eq_iff
  have hacked : table.set i (tcpEstablishedAck (table.tcbs i) hdr) = table ↔
      ¬ hdr.AcksNew (table.tcbs i) := by
    have hself := hkept (tcpEstablishedAck (table.tcbs i) hdr).rcvNxt
    rwa [and_iff_left (tcpEstablishedAck_rcvNxt _ _)] at hself
  unfold TcbTakesNothing
  rw [hst]
  unfold tcpReceiveEstablished at h ⊢
  dsimp only at h ⊢
  rw [tcpEstablishedAck_rcvNxt] at h ⊢
  by_cases hp : hdr.payload = []
  · have hlen : ¬ hdr.payload.length > 0 := by simp [hp]
    rw [if_neg hlen] at h ⊢
    rw [if_pos hp]
    split at h
    · rename_i hfin
      rw [if_pos hfin]
      split at h
      · refine (hkept _).trans (iff_of_false (fun hsame => ?_) fun hnone => ?_)
        · exact uint32_add_one_ne _ (hsame.2.trans hfin.2.symm)
        · exact hfin.1 (hnone.2 hfin.2)
      · exact absurd h not_ok_of_zero
    · rename_i hfin
      rw [if_neg hfin]
      split at h
      · exact absurd h not_ok_of_zero
      · rename_i hflag
        rw [if_neg hflag, hacked]
        refine ⟨fun hold => ⟨hold, fun hseq => ?_⟩, And.left⟩
        exact absurd ⟨hflag, hseq⟩ hfin
  · have hlen : hdr.payload.length > 0 := List.length_pos_iff.mpr hp
    rw [if_pos hlen] at h ⊢
    rw [if_neg hp]
    split at h
    · rename_i hseq
      rw [if_pos hseq]
      split at h
      · refine (hkept _).trans (and_congr_right fun _ => ?_)
        rw [uint32_add_eq_self_iff]
        exact (imp_iff_right hseq).symm
      · exact absurd h not_ok_of_zero
    · rename_i hseq
      rw [if_neg hseq]
      split at h
      · exact hacked.trans ⟨fun hold => ⟨hold, fun h => absurd h hseq⟩, And.left⟩
      · exact absurd h not_ok_of_zero

/-- The states that refuse a segment before they write anything. -/
theorem tcpReceive_refused {r : TcpTable × Int × TcpOut} {P : Prop} [Decidable P]
    {taken : TcpTable × Int × TcpOut} (hr : r = if P then taken else (table, -1, {}))
    (htaken : taken.2.1 = 0) (h : r.2.1 = -1) : r.1 = table := by
  rw [hr] at h ⊢
  split
  · rename_i hp
    rw [if_pos hp] at h
    exact absurd (htaken.symm.trans h) not_ok_of_zero
  · rfl

theorem tcbTakesNothing_of_other {tcb : Tcb} (hsyn : tcb.state ≠ .synSent)
    (hest : tcb.state ≠ .established) (hfin : tcb.state ≠ .finWait2) : TcbTakesNothing tcb hdr := by
  unfold TcbTakesNothing
  split
  · exact absurd ‹_› hsyn
  · exact absurd ‹_› hest
  · exact absurd ‹_› hfin
  · trivial

theorem tcpReceiveState_failed_iff (h : (tcpReceiveState env table i hdr).2.1 = -1) :
    (tcpReceiveState env table i hdr).1 = table ↔ TcbTakesNothing (table.tcbs i) hdr := by
  have hswitch := tcpReceiveState.eq_def env table i hdr
  cases hst : (table.tcbs i).state <;> rw [hst] at hswitch <;> rw [hswitch] at h ⊢
  case synSent => exact tcpReceiveSynSent_failed_iff hst h
  case established => exact tcpReceiveEstablished_failed_iff hst h
  case finWait2 => exact tcpReceiveFinWait2_failed_iff hst h
  all_goals refine iff_of_true ?_ (tcbTakesNothing_of_other (by rw [hst]; decide)
    (by rw [hst]; decide) (by rw [hst]; decide))
  case closed | listen | closeWait | timeWait => rfl
  case synReceived => exact tcpReceive_refused rfl rfl h
  case finWait1 => exact tcpReceive_refused rfl rfl h
  case closing =>
    refine tcpReceive_refused rfl ?_ h
    split <;> rfl
  case lastAck =>
    refine tcpReceive_refused rfl ?_ h
    split <;> rfl

theorem tcpReceiveListen_failed_iff {listener : TcbIndex} {pkt : IpDatagram}
    (h : (tcpReceiveListen env table listener pkt hdr).2.1 = -1) :
    (tcpReceiveListen env table listener pkt hdr).1 = table ↔
      ∀ r, tcpAllocTcb table = some r → table.tcbs r.2 = {} := by
  unfold tcpReceiveListen at h ⊢
  cases halloc : tcpAllocTcb table with
  | none => exact iff_of_true rfl fun _ hr => by cases hr
  | some r =>
    obtain ⟨table₁, i⟩ := r
    have hself : table₁.tcbs i = { valid := true } := tcpAllocTcb_self halloc
    rw [halloc] at h
    simp only [hself] at h ⊢
    split at h
    · -- the SYN-ACK fails and the slot is cleared
      show tcpReleaseTcb (table₁.set i _) i = table ↔ _
      rw [tcpReleaseTcb_allocTcb halloc, TcpTable.set_eq_self_iff]
      constructor
      · intro hzero r hr
        cases hr
        exact hzero.symm
      · exact fun hall => (hall _ rfl).symm
    · split at h
      · rename_i htrack
        exact absurd htrack (tcpSendqTrack_new_ne_none rfl)
      · exact absurd h not_ok_of_zero

end

/-- A `tcp_receive` that fails leaves the table as it was exactly when it takes
    nothing from the segment. -/
theorem tcpReceive_failed_iff (env : IpEnv) (table : TcpTable) (pkt : IpDatagram)
    (h : (tcpReceive env table pkt).2.1 = -1) :
    (tcpReceive env table pkt).1 = table ↔ TcpTakesNothing table pkt := by
  have hbad : ¬ TcpHeaderOk pkt → TcpTakesNothing table pkt := fun hnot hok => absurd hok hnot
  unfold tcpReceive at h ⊢
  dsimp only at h ⊢
  split
  · rename_i hlen
    exact iff_of_true rfl (hbad fun hok => absurd hok.length (Nat.not_le.mpr hlen))
  rename_i hlen
  rw [if_neg hlen] at h
  split
  · rename_i hprotocol
    exact iff_of_true rfl (hbad fun hok => hprotocol hok.protocol)
  rename_i hprotocol
  rw [if_neg hprotocol] at h
  split
  · rename_i hwords
    exact iff_of_true rfl (hbad fun hok => hwords hok.hdrWords)
  rename_i hwords
  rw [if_neg hwords] at h
  have hok : TcpHeaderOk pkt := ⟨Nat.not_lt.mp hlen, not_not.mp hprotocol, not_not.mp hwords⟩
  unfold TcpTakesNothing
  rw [imp_iff_right hok]
  cases hfind : tcpFindExact table pkt.dstIp (tcpFields pkt.data).dstPort pkt.srcIp
      (tcpFields pkt.data).srcPort with
  | some i =>
    rw [hfind] at h
    exact tcpReceiveState_failed_iff h
  | none =>
    rw [hfind] at h
    dsimp only at h ⊢
    by_cases hsyn : (tcpFields pkt.data).flags = tcpFlagSyn
    · rw [if_pos hsyn] at h ⊢
      rw [imp_iff_right hsyn]
      cases hlistener : tcpFindListener table pkt.dstIp (tcpFields pkt.data).dstPort with
      | none => exact iff_of_true rfl fun hsome => by cases hsome
      | some listener =>
        rw [hlistener] at h
        rw [imp_iff_right (Option.isSome_some (a := listener))]
        exact tcpReceiveListen_failed_iff h
    · rw [if_neg hsyn]
      exact iff_of_true rfl fun h => absurd h hsyn

/-- The SYN-ACK that answers the SYN of `exampleConnectRun`. -/
def exampleSynAck : IpDatagram := exampleSegment 0 1 (tcpFlagSyn ||| tcpFlagAck)

/-- A connection is opened. -/
def exampleConnectRun : List (IpEnv × TcpInput) :=
  [({}, .call (.connect 0x0A000001 0x0A000002 40000 80 none none none))]

/-- A FIN is refused in `TCP_SYN_SENT`, and the table stays as it is. -/
theorem tcpReceive_failed_iff_exampleConnectRun :
    let table := run tcpStep tcpInit exampleConnectRun
    (tcpReceive {} table (exampleSegment 0 1 tcpFlagFin)).1 = table := by
  intro table
  refine (tcpReceive_failed_iff {} table (exampleSegment 0 1 tcpFlagFin) (by decide +kernel)).mpr ?_
  intro _
  have hfind : tcpFindExact table (exampleSegment 0 1 tcpFlagFin).dstIp 40000
      (exampleSegment 0 1 tcpFlagFin).srcIp 80 = some exampleTcb := by decide +kernel
  have hports : (tcpFields (exampleSegment 0 1 tcpFlagFin).data).dstPort = 40000 ∧
      (tcpFields (exampleSegment 0 1 tcpFlagFin).data).srcPort = 80 := by decide +kernel
  have hst : (table.tcbs exampleTcb).state = .synSent := by decide +kernel
  rw [hports.1, hports.2, hfind]
  show TcbTakesNothing (table.tcbs exampleTcb) _
  unfold TcbTakesNothing
  rw [hst]
  decide +kernel

/-- The SYN-ACK arrives while the IP layer takes no segment: the call fails, and the
    TCB is in `TCP_ESTABLISHED`. -/
theorem not_tcpReceive_failed :
    ¬ ∀ (env : IpEnv) (table : TcpTable) (pkt : IpDatagram),
      (tcpReceive env table pkt).2.1 = -1 → (tcpReceive env table pkt).1 = table := by
  intro h
  have hsame := h { ipOk := false } (run tcpStep tcpInit exampleConnectRun) exampleSynAck
    (by decide +kernel)
  have hstate := congrArg (fun table => (table.tcbs exampleTcb).state) hsame
  exact absurd hstate (by decide +kernel)

end FrameRunner
