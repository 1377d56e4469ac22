import FrameRunner.Tcp.Calls
import FrameRunner.Tcp.Timers

/-!
# What a send queue holds in each state

One table under every call of the module, every received segment and both timers,
in any order and whether or not the IP layer takes a segment. `SendqShape` lists
what the queue of a TCB holds in each state; `QueueOk` is the invariant behind it.

Main result:
* `tcpStep_sendq`: in every reachable state the count of a queue is the number of
  its packets, and the queue of a TCB in use has the shape of its state, which
  rules out `TCP_CLOSED` and `TCP_CLOSING`.
-/

namespace FrameRunner

open FrameRunner.Lib

/-! ## Runs of one table -/

/-- A call of the module or one of its timers. -/
inductive TcpInput where
  | call (c : TcpCall)
  | retransmit (i : TcbIndex)
  | timeWait (i : TcbIndex)

/-- The table after an input. -/
def tcpStep (table : TcpTable) : IpEnv × TcpInput → TcpTable
  | (env, .call c) => (tcpCall env table c).1
  | (env, .retransmit i) => (tcpRetransmitHandler env table i).1
  | (_, .timeWait i) => tcpTimeWaitHandler table i

/-! ## Shapes -/

/-- An entry with the given flags and no payload, tracked as it was sent. -/
def TcpSegment.IsControl (flags : UInt8) (seg : TcpSegment) : Prop :=
  seg.flags = flags ∧ ∃ b, seg.pkt = some b ∧ (tcpFields b).flags = flags ∧
    (tcpFields b).payload = []

/-- An entry with payload, and neither a SYN nor a FIN. -/
def TcpSegment.IsData (seg : TcpSegment) : Prop :=
  seg.flags &&& (tcpFlagSyn ||| tcpFlagFin) = 0 ∧ ∃ b, seg.pkt = some b ∧
    (tcpFields b).flags = seg.flags ∧ (tcpFields b).payload ≠ []

/-- The number of packets in the queue. -/
def TcbSendQueue.held (sendq : TcbSendQueue) : ℕ := Slots.count TcpSegment.held sendq.entries

/-- Every packet in the queue meets `P`. -/
def TcbSendQueue.Only (P : TcpSegment → Prop) (sendq : TcbSendQueue) : Prop :=
  ∀ k, (sendq.entries k).held = true → P (sendq.entries k)

/-- What the queue of a TCB in use holds. -/
def SendqShape : TcpState → TcbSendQueue → Prop
  | .listen | .finWait2 | .timeWait => fun sendq => sendq.held = 0
  | .synSent => fun sendq => sendq.held = 1 ∧ sendq.Only (TcpSegment.IsControl tcpFlagSyn)
  | .synReceived => fun sendq =>
    sendq.held = 1 ∧ sendq.Only (TcpSegment.IsControl (tcpFlagSyn ||| tcpFlagAck))
  | .finWait1 | .lastAck => fun sendq =>
    sendq.held = 1 ∧ sendq.Only (TcpSegment.IsControl (tcpFlagFin ||| tcpFlagAck))
  | .established | .closeWait => fun sendq => sendq.held ≤ 1 ∧ sendq.Only TcpSegment.IsData
  | .closed | .closing => fun _ => False

/-! ## Queues -/

theorem TcbSendQueue.Only.ack {P : TcpSegment → Prop} {tcb : Tcb} (h : tcb.sendq.Only P)
    (ack : UInt32) : (tcpSendqAck tcb ack).sendq.Only P := by
  intro k hk
  rcases tcpSendqAck_entry tcb ack k with he | ⟨he, -⟩
  · simp [TcpSegment.held, he] at hk
  · rw [he] at hk ⊢
    exact h k hk

theorem held_le_one (sendq : TcbSendQueue) : sendq.held ≤ 1 := Slots.count_le _ _

theorem held_eq_zero {sendq : TcbSendQueue} :
    sendq.held = 0 ↔ ∀ k, (sendq.entries k).held = false := Slots.count_eq_zero

theorem TcbSendQueue.Only.of_empty {P : TcpSegment → Prop} {sendq : TcbSendQueue}
    (h : sendq.held = 0) : sendq.Only P := by
  intro k hk
  rw [held_eq_zero.mp h k] at hk
  nomatch hk

theorem TcbSendQueue.Tracks.only {P : TcpSegment → Prop} {sendq : TcbSendQueue}
    {seg : TcpSegment} (h : sendq.Tracks seg) (hseg : P seg) : sendq.Only P := by
  intro k hk
  rw [h.entry k hk]
  exact hseg

/-- An ACK past every packet empties the queue. -/
theorem held_tcpSendqAck_eq_zero {tcb : Tcb} {ack : UInt32}
    (h : tcb.sendq.Only fun seg => ack ≥ seg.seqEnd) : (tcpSendqAck tcb ack).sendq.held = 0 := by
  refine held_eq_zero.mpr fun k => ?_
  rcases tcpSendqAck_entry tcb ack k with he | ⟨he, hacked⟩
  · simp [TcpSegment.held, he]
  · rw [he]
    cases hk : (tcb.sendq.entries k).held with
    | false => rfl
    | true =>
      have hge : tcpSegmentAcked (tcb.sendq.entries k) ack = true := by
        simp only [tcpSegmentAcked, Bool.and_eq_true, decide_eq_true_eq]
        exact ⟨hk, h k hk⟩
      exact absurd (hge.symm.trans hacked) (by decide)

/-- While the queue holds FINs only, `fin_is_acked` says whether it is empty. -/
theorem tcpFinIsAcked_eq {tcb : Tcb}
    (h : tcb.sendq.Only (TcpSegment.IsControl (tcpFlagFin ||| tcpFlagAck))) :
    tcpFinIsAcked tcb = decide (tcb.sendq.held = 0) := by
  have hfin : ∀ k, ((tcb.sendq.entries k).pkt.isSome &&
      (tcb.sendq.entries k).flags &&& tcpFlagFin != 0) = (tcb.sendq.entries k).held := by
    intro k
    cases hk : (tcb.sendq.entries k).held with
    | false =>
      rw [TcpSegment.held] at hk
      rw [hk, Bool.false_and]
    | true =>
      have hflags := (h k hk).1
      rw [TcpSegment.held] at hk
      rw [hk, hflags]
      rfl
  rw [Bool.eq_iff_iff, decide_eq_true_eq, held_eq_zero, tcpFinIsAcked, Option.isNone_iff_eq_none,
    Fin.find?_eq_none_iff]
  simp only [hfin]

/-! ## The invariant -/

/-- A TCB whose queue suits its state. -/
structure QueueOk (tcb : Tcb) : Prop where
  sendq : SendqOk tcb
  /-- the ACK that ends the handshake covers the SYN -/
  handshake : tcb.state = .synSent ∨ tcb.state = .synReceived →
    tcb.sendq.Only fun seg => seg.seqEnd = tcb.sndNxt
  shape : tcb.valid = true → SendqShape tcb.state tcb.sendq

/-- Every TCB of the table. -/
def TableQueueOk (table : TcpTable) : Prop := ∀ i, QueueOk (table.tcbs i)

theorem queueOk_default : QueueOk {} where
  sendq := sendqOk_empty rfl
  handshake h := by simp at h
  shape h := nomatch h

theorem TableQueueOk.update {table table' : TcpTable} {i : TcbIndex} {tcb : Tcb}
    (I : TableQueueOk table) (h : QueueOk tcb)
    (htable : table'.tcbs = Function.update table.tcbs i tcb) : TableQueueOk table' := by
  intro j
  rw [htable]
  exact Slots.forall_update I h i j

theorem TableQueueOk.unopened {table table' : TcpTable} (I : TableQueueOk table)
    (h : TcpUnopened table table') : TableQueueOk table' := by
  rcases h with h | ⟨i, -, h⟩
  · intro j
    rw [h]
    exact I j
  · exact I.update queueOk_default h

/-- The segment of a handshake or of a FIN is tracked as a control segment. -/
theorem isControl_of_sent {env : IpEnv} {tcb : Tcb} {seq ack : UInt32} {flags : UInt8}
    {pkt : IpDatagram} {seg : TcpSegment} (hok : TcpFlagsOk flags)
    (h : tcpSendSegment env tcb seq ack flags [] = some pkt) (hflags : seg.flags = flags)
    (hpkt : seg.pkt = some pkt.data) : seg.IsControl flags := by
  obtain ⟨-, hf, hp, -⟩ := tcpSendSegment_fields hok h
  exact ⟨hflags, pkt.data, hpkt, hf, hp⟩

theorem TcbOpened.queueOk {env : IpEnv} {tcb : Tcb} {state : TcpState} {flags : UInt8}
    {syn : IpDatagram} (h : TcbOpened env tcb state flags syn) (hok : TcpFlagsOk flags)
    (hshape : ∀ sendq : TcbSendQueue, sendq.held = 1 → sendq.Only (TcpSegment.IsControl flags) →
      SendqShape state sendq) : QueueOk tcb := by
  refine ⟨h.sendq, fun _ => ?_, fun _ => ?_⟩
  · rw [h.sndNxt]
    exact h.tracks.only rfl
  · rw [h.state]
    exact hshape _ h.tracks.count (h.tracks.only (isControl_of_sent hok h.sent rfl rfl))

/-! ## One step -/

theorem QueueOk.resent {tcb tcb' : Tcb} (h : QueueOk tcb) (hre : TcbResent tcb tcb') :
    QueueOk tcb' := by
  have honly : ∀ {P : TcpSegment → Prop},
      (∀ seg n ts, P seg → P { seg with retransmits := n, sentTs := ts }) →
      tcb.sendq.Only P → tcb'.sendq.Only P := by
    intro P hP h k hk
    rw [TcpSegment.held, hre.pkt k] at hk
    obtain ⟨n, ts, he⟩ := hre.entries k
    rw [he]
    exact hP _ n ts (h k hk)
  have hheld : tcb'.sendq.held = tcb.sendq.held := by
    have h1 := (hre.sendqOk h.sendq).count
    rw [hre.count, h.sendq.count] at h1
    exact_mod_cast h1.symm
  obtain ⟨sendq, ts, hsame⟩ := hre.same
  have hstate : tcb'.state = tcb.state := by rw [hsame]
  have hnxt : tcb'.sndNxt = tcb.sndNxt := by rw [hsame]
  have hvalid : tcb'.valid = tcb.valid := by rw [hsame]
  refine ⟨hre.sendqOk h.sendq, fun hst => ?_, fun hv => ?_⟩
  · rw [hstate] at hst
    rw [hnxt]
    exact honly (fun _ _ _ h => h) (h.handshake hst)
  · have hshape := h.shape (hvalid ▸ hv)
    rw [hstate]
    cases hst : tcb.state <;> rw [hst] at hshape <;> simp only [SendqShape, hheld] at hshape ⊢
    case listen | finWait2 | timeWait => exact hshape
    all_goals exact ⟨hshape.1, honly (fun _ _ _ h => h) hshape.2⟩

/-- The ACK field in `TCP_ESTABLISHED`. -/
theorem QueueOk.establishedAck {tcb : Tcb} (h : QueueOk tcb) (hv : tcb.valid = true)
    (hst : tcb.state = .established) (hdr : TcpFields) :
    SendqOk (tcpEstablishedAck tcb hdr) ∧ (tcpEstablishedAck tcb hdr).sendq.Only TcpSegment.IsData := by
  have hshape := h.shape hv
  rw [hst] at hshape
  unfold tcpEstablishedAck
  split_ifs
  · exact ⟨(h.sendq.ack hdr.ackNum).of_sendq_eq rfl, hshape.2.ack hdr.ackNum⟩
  · exact ⟨h.sendq, hshape.2⟩

/-- An open connection without handshake and close. -/
theorem queueOk_open {tcb : Tcb} (hq : SendqOk tcb) (honly : tcb.sendq.Only TcpSegment.IsData)
    (hst : tcb.state = .established ∨ tcb.state = .closeWait) : QueueOk tcb := by
  refine ⟨hq, fun h => ?_, fun _ => ?_⟩
  · rcases hst with hs | hs <;> simp [hs] at h
  · rcases hst with hs | hs <;> rw [hs] <;> exact ⟨held_le_one _, honly⟩

theorem SendqOk.ackedBy {tcb : Tcb} (h : SendqOk tcb) (hdr : TcpFields) :
    SendqOk (tcb.ackedBy hdr) :=
  (h.ack hdr.ackNum).of_sendq_eq (tcpSendqAck_sendq rfl _)

/-- The end of the handshake empties the queue. -/
theorem QueueOk.established {tcb tcb' : Tcb} (h : QueueOk tcb) {hdr : TcpFields}
    (hst : tcb.state = .synSent ∨ tcb.state = .synReceived) (hnum : hdr.ackNum = tcb.sndNxt)
    (hsendq : tcb'.sendq = (tcb.ackedBy hdr).sendq) (hst' : tcb'.state = .established) :
    QueueOk tcb' := by
  have hempty : (tcb.ackedBy hdr).sendq.held = 0 := by
    refine held_tcpSendqAck_eq_zero fun k hk => ?_
    have hend : (tcb.sendq.entries k).seqEnd = tcb.sndNxt := h.handshake hst k hk
    show hdr.ackNum ≥ (tcb.sendq.entries k).seqEnd
    rw [hend, hnum]
    exact UInt32.le_refl _
  refine queueOk_open ((h.sendq.ackedBy hdr).of_sendq_eq hsendq) ?_ (.inl hst')
  rw [hsendq]
  exact .of_empty hempty

/-- The closing states, in which the queue holds nothing but the FIN. -/
theorem QueueOk.ackedFin {tcb : Tcb} (h : QueueOk tcb)
    (hshape : tcb.sendq.held = 1 ∧ tcb.sendq.Only (TcpSegment.IsControl (tcpFlagFin ||| tcpFlagAck)))
    (hdr : TcpFields) :
    SendqOk (tcb.ackedBy hdr) ∧
      (tcb.ackedBy hdr).sendq.Only (TcpSegment.IsControl (tcpFlagFin ||| tcpFlagAck)) ∧
      (tcb.ackedBy hdr).sendq.held = if tcpFinIsAcked (tcb.ackedBy hdr) then 0 else 1 := by
  have honly : (tcb.ackedBy hdr).sendq.Only (TcpSegment.IsControl (tcpFlagFin ||| tcpFlagAck)) :=
    TcbSendQueue.Only.ack hshape.2 hdr.ackNum
  refine ⟨h.sendq.ackedBy hdr, honly, ?_⟩
  rw [tcpFinIsAcked_eq honly]
  have hle := held_le_one (tcb.ackedBy hdr).sendq
  by_cases h0 : (tcb.ackedBy hdr).sendq.held = 0
  · simp [h0]
  · simp only [h0, decide_false, Bool.false_eq_true, if_false]
    omega

theorem QueueOk.received {tcb tcb' : Tcb} {hdr : TcpFields} (h : QueueOk tcb)
    (hv : tcb.valid = true) (hr : TcbReceived tcb hdr tcb') : QueueOk tcb' := by
  have hshape := h.shape hv
  cases hr with
  | ignored => exact h
  | synSent hst _ _ hnum => exact h.established (.inl hst) hnum rfl rfl
  | synReceived hst _ hnum => exact h.established (.inr hst) hnum rfl rfl
  | acked hst =>
    obtain ⟨hq, honly⟩ := h.establishedAck hv hst hdr
    exact queueOk_open hq honly (.inl (by unfold tcpEstablishedAck; split_ifs <;> exact hst))
  | data hst =>
    obtain ⟨hq, honly⟩ := h.establishedAck hv hst hdr
    exact queueOk_open (hq.of_sendq_eq rfl) honly
      (.inl (by unfold tcpEstablishedAck; split_ifs <;> exact hst))
  | fin hst _ _ hnext =>
    obtain ⟨hq, honly⟩ := h.establishedAck hv hst hdr
    exact queueOk_open (hq.of_sendq_eq rfl) honly hnext
  | finWait1 hst =>
    rw [hst] at hshape
    obtain ⟨hq, honly, hheld⟩ := h.ackedFin hshape hdr
    have hst' : (tcb.ackedBy hdr).state = .finWait1 := hst
    split_ifs with hfin
    · rw [if_pos hfin] at hheld
      exact ⟨hq.of_sendq_eq rfl, by simp, fun _ => hheld⟩
    · rw [if_neg hfin] at hheld
      refine ⟨hq, by simp [hst'], fun _ => ?_⟩
      rw [hst']
      exact ⟨hheld, honly⟩
  | finWait2 hst _ _ hnext =>
    rw [hst] at hshape
    refine ⟨h.sendq.of_sendq_eq rfl, fun h => ?_, fun _ => ?_⟩
    · rcases hnext with rfl | rfl <;> simp at h
    · rcases hnext with rfl | rfl <;> exact hshape
  | closing hst =>
    rw [hst] at hshape
    exact hshape.elim
  | lastAck hst _ _ hfin =>
    rw [hst] at hshape
    obtain ⟨hq, honly, hheld⟩ := h.ackedFin hshape hdr
    have hst' : (tcb.ackedBy hdr).state = .lastAck := hst
    rw [hfin] at hheld
    refine ⟨hq, by simp [hst'], fun _ => ?_⟩
    rw [hst']
    exact ⟨hheld, honly⟩
  | released => exact queueOk_default

theorem TableQueueOk.call {table : TcpTable} (I : TableQueueOk table) (env : IpEnv)
    (c : TcpCall) : TableQueueOk (tcpCall env table c).1 := by
  cases c with
  | listen localIp localPort recvFn connectFn ctx =>
    rcases tcpListen_cases table localIp localPort recvFn connectFn ctx with
      h | ⟨i, tcb, -, hst, hq, h⟩
    · exact I.unopened (.inl h)
    · refine I.update ⟨sendqOk_empty hq, by simp [hst], fun _ => ?_⟩ h
      rw [hst, hq]
      exact held_eq_zero.mpr fun _ => rfl
  | connect localIp remoteIp localPort remotePort recvFn connectFn ctx =>
    rcases h : tcpConnect env table localIp remoteIp localPort remotePort recvFn connectFn ctx
      with ⟨table', res, out⟩
    simp only [tcpCall, h]
    rcases tcpConnect_cases h with ⟨hun, -⟩ | ⟨i, tcb, syn, -, -, htable, -, hopen, -⟩
    · exact I.unopened hun
    · exact I.update (hopen.queueOk (by decide) fun _ h1 h2 => ⟨h1, h2⟩) htable
  | send i data =>
    rcases h : tcpSend env table i data with ⟨table', res, out⟩
    simp only [tcpCall, h]
    rcases tcpSend_cases (fun _ _ => (I i).sendq) h with ⟨rfl, -⟩ |
      ⟨tcb, pkt, -, hne, -, hst, htable, -, hsent, -⟩
    · exact I
    · have hflags : (tcpFlagAck ||| tcpFlagPsh) &&& (tcpFlagSyn ||| tcpFlagFin) = 0 := by decide
      refine I.update (queueOk_open hsent.sendq (hsent.tracks.only ⟨hflags, pkt.data, rfl, ?_⟩)
        (.inl hst)) htable
      obtain ⟨-, hf, hp, -⟩ := tcpSendSegment_fields (by decide) hsent.sent
      refine ⟨hf, ?_⟩
      rw [hp]
      simpa [tcpMss] using hne
  | close i =>
    rcases h : tcpClose env table i with ⟨table', res, out⟩
    simp only [tcpCall, h]
    rcases tcpClose_cases (fun _ _ => (I i).sendq) h with ⟨rfl, -⟩ |
      ⟨tcb, pkt, -, hst, htable, -, hsent, -⟩
    · exact I
    · have honly : tcb.sendq.Only (TcpSegment.IsControl (tcpFlagFin ||| tcpFlagAck)) :=
        hsent.tracks.only (isControl_of_sent (by decide) hsent.sent rfl rfl)
      refine I.update ⟨hsent.sendq, fun h => ?_, fun _ => ?_⟩ htable
      · rcases hst with hs | hs <;> simp [hs.2] at h
      · rcases hst with hs | hs <;> rw [hs.2] <;> exact ⟨hsent.tracks.count, honly⟩
  | receive pkt =>
    rcases h : tcpReceive env table pkt with ⟨table', res, out⟩
    simp only [tcpCall, h]
    rcases tcpReceive_cases h with ⟨hun, -⟩ | ⟨i, tcb, hfind, htable, hr, -⟩ |
      ⟨i, tcb, synAck, -, -, -, htable, -, hopen, -⟩
    · exact I.unopened hun
    · obtain ⟨hi, -⟩ := Fin.find?_eq_some_iff.mp hfind
      simp only [Bool.and_eq_true] at hi
      exact I.update ((I i).received hi.1.1.1.1.1 hr) htable
    · exact I.update (hopen.queueOk (by decide) fun _ h1 h2 => ⟨h1, h2⟩) htable

theorem TableQueueOk.step {table : TcpTable} (I : TableQueueOk table)
    (input : IpEnv × TcpInput) : TableQueueOk (tcpStep table input) := by
  obtain ⟨env, input⟩ := input
  cases input with
  | call c => exact I.call env c
  | retransmit i =>
    rcases h : tcpRetransmitHandler env table i with ⟨table', out⟩
    simp only [tcpStep, h]
    rcases tcpRetransmitHandler_cases h with ⟨rfl, -⟩ | ⟨tcb, -, htable, hre, -⟩
    · exact I
    · exact I.update ((I i).resent hre) htable
  | timeWait i =>
    rcases tcpTimeWaitHandler_cases table i with h | ⟨-, -, h⟩
    · simpa only [tcpStep, h] using I
    · exact I.update queueOk_default h

theorem tableQueueOk_run (inputs : List (IpEnv × TcpInput)) :
    TableQueueOk (run tcpStep tcpInit inputs) :=
  run_invariant TableQueueOk (fun _ input I => I.step input) inputs _ fun _ => queueOk_default

/-! ## Result -/

/-- Every queue of a reachable table is counted and suits the state of its TCB. -/
theorem tcpStep_sendq (inputs : List (IpEnv × TcpInput)) (i : TcbIndex) :
    let tcb := (run tcpStep tcpInit inputs).tcbs i
    tcb.sendq.count = tcb.sendq.held ∧ (tcb.valid = true → SendqShape tcb.state tcb.sendq) :=
  ⟨(tableQueueOk_run inputs i).sendq.count, (tableQueueOk_run inputs i).shape⟩

end FrameRunner
