import FrameRunner.Tcp.Steps

/-!
# An ACK of everything that was sent (`protocols/tcp.c`)

A segment in the send queue ends at `snd_nxt` (`endsAtNxt_run`), so an ACK of
`snd_nxt` covers it. Whether the TCB takes that ACK is up to its state, which
compares sequence numbers as plain 32-bit numbers, and `TCP_CLOSE_WAIT` has no
case of its own.

Main results:
* `tcpReceive_ackAll_iff`: such an ACK empties the queue exactly when the TCB is
  not in `TCP_CLOSE_WAIT` and `snd_una` is below `snd_nxt`.
* `tcpSend_acked_iff`: what `tcp_send` sent at `s` is acknowledged exactly when
  its end does not wrap.
-/

namespace FrameRunner

open FrameRunner.Lib

/-! ## Where tracked segments end -/

/-- Every packet in the queue ends at `snd_nxt`. -/
def Tcb.EndsAtNxt (tcb : Tcb) : Prop := tcb.sendq.Only fun seg => seg.seqEnd = tcb.sndNxt

theorem endsAtNxt_of_sendq {tcb tcb' : Tcb} (h : tcb.EndsAtNxt) (hq : tcb'.sendq = tcb.sendq)
    (hnxt : tcb'.sndNxt = tcb.sndNxt) : tcb'.EndsAtNxt := by
  unfold Tcb.EndsAtNxt
  rw [hq, hnxt]
  exact h

theorem endsAtNxt_empty {tcb : Tcb} (h : tcb.sendq = {}) : tcb.EndsAtNxt := by
  intro k hk
  rw [h] at hk
  nomatch hk

theorem Tcb.EndsAtNxt.establishedAck {tcb : Tcb} (h : tcb.EndsAtNxt) (hdr : TcpFields) :
    (tcpEstablishedAck tcb hdr).EndsAtNxt := by
  unfold tcpEstablishedAck
  split_ifs
  · exact TcbSendQueue.Only.ack h hdr.ackNum
  · exact h

theorem Tcb.EndsAtNxt.ackedBy {tcb : Tcb} (h : tcb.EndsAtNxt) (hdr : TcpFields) :
    (tcb.ackedBy hdr).EndsAtNxt := by
  have hset : Tcb.EndsAtNxt { tcb with sndUna := hdr.ackNum } := h
  exact TcbSendQueue.Only.ack hset hdr.ackNum

theorem Tcb.EndsAtNxt.received {tcb tcb' : Tcb} {hdr : TcpFields} (h : tcb.EndsAtNxt)
    (hr : TcbReceived tcb hdr tcb') : tcb'.EndsAtNxt := by
  cases hr with
  | ignored => exact h
  | synSent => exact endsAtNxt_of_sendq (h.ackedBy hdr) rfl rfl
  | synReceived => exact endsAtNxt_of_sendq (h.ackedBy hdr) rfl rfl
  | acked => exact h.establishedAck hdr
  | data => exact endsAtNxt_of_sendq (h.establishedAck hdr) rfl rfl
  | fin => exact endsAtNxt_of_sendq (h.establishedAck hdr) rfl rfl
  | finWait1 =>
    split_ifs
    · exact endsAtNxt_of_sendq (h.ackedBy hdr) rfl rfl
    · exact h.ackedBy hdr
  | finWait2 => exact endsAtNxt_of_sendq h rfl rfl
  | closing => exact endsAtNxt_of_sendq (h.ackedBy hdr) rfl rfl
  | lastAck => exact h.ackedBy hdr
  | released => exact endsAtNxt_empty rfl

theorem Tcb.EndsAtNxt.resent {tcb tcb' : Tcb} (h : tcb.EndsAtNxt) (hre : TcbResent tcb tcb') :
    tcb'.EndsAtNxt := by
  intro k hk
  obtain ⟨n, ts, he⟩ := hre.entries k
  obtain ⟨sendq, ts', hsame⟩ := hre.same
  have hnxt : tcb'.sndNxt = tcb.sndNxt := by rw [hsame]
  rw [TcpSegment.held, hre.pkt k] at hk
  rw [he, hnxt]
  exact h k hk

theorem TcbSent.endsAtNxt {env : IpEnv} {tcb₀ tcb : Tcb} {flags : UInt8} {payload : List UInt8}
    {span : UInt32} {pkt : IpDatagram} (h : TcbSent env tcb₀ flags payload span tcb pkt) :
    tcb.EndsAtNxt := by
  obtain ⟨sendq, ts, state, hsame⟩ := h.same
  have hnxt : tcb.sndNxt = tcb₀.sndNxt + span := by rw [hsame]
  exact h.tracks.only hnxt.symm

theorem TcbOpened.endsAtNxt {env : IpEnv} {tcb : Tcb} {state : TcpState} {flags : UInt8}
    {syn : IpDatagram} (h : TcbOpened env tcb state flags syn) : tcb.EndsAtNxt :=
  h.tracks.only h.sndNxt.symm

/-- Every TCB of the table. -/
def TableEndsAtNxt (table : TcpTable) : Prop := ∀ i, (table.tcbs i).EndsAtNxt

theorem TcbStepped.endsAtNxt {env : IpEnv} {i : TcbIndex} {tcb tcb' : Tcb} {input : TcpInput}
    {out : TcpOut} (h : TcbStepped env i tcb input tcb' out) (I : tcb.EndsAtNxt) :
    tcb'.EndsAtNxt := by
  cases h with
  | listened _ _ hq => exact endsAtNxt_empty hq
  | connected _ hopen | child _ hopen => exact hopen.endsAtNxt
  | sent _ _ hsent => exact hsent.endsAtNxt
  | closed _ hsent => exact hsent.endsAtNxt
  | received _ _ hr => exact I.received hr
  | resent => exact I.resent (tcbResent_resentAt env tcb _)
  | released => exact endsAtNxt_empty rfl

theorem TableEndsAtNxt.step {table : TcpTable} (I : TableEndsAtNxt table) (Q : TableQueueOk table)
    (input : IpEnv × TcpInput) : TableEndsAtNxt (tcpStep table input) := by
  obtain ⟨env, input⟩ := input
  intro j
  rcases tcpStep_slot Q env input j with ⟨hkept | ⟨-, hcleared⟩, -⟩ | ⟨-, hstep⟩
  · rw [hkept]
    exact I j
  · rw [hcleared]
    exact endsAtNxt_empty rfl
  · exact hstep.endsAtNxt (I j)

theorem endsAtNxt_run (inputs : List (IpEnv × TcpInput)) (i : TcbIndex) :
    ((run tcpStep tcpInit inputs).tcbs i).EndsAtNxt :=
  (run_invariant (fun table => TableQueueOk table ∧ TableEndsAtNxt table)
    (fun _ input I => ⟨I.1.step input, I.2.step I.1 input⟩) inputs tcpInit
    ⟨fun _ => queueOk_default, fun _ => endsAtNxt_empty rfl⟩).2 i

/-! ## What the segment finds -/

theorem tcpSendqHasUnacked_eq_false {tcb : Tcb} (h : tcb.sendq.held = 0) :
    tcpSendqHasUnacked tcb = false := by
  rw [tcpSendqHasUnacked, Option.isSome_eq_false_iff, Option.isNone_iff_eq_none,
    Fin.find?_eq_none_iff]
  intro k
  have hk := held_eq_zero.mp h k
  rw [TcpSegment.held] at hk
  rw [hk, Bool.false_and]

theorem tcpFinIsAcked_of_empty {tcb : Tcb} (h : tcb.sendq.held = 0) : tcpFinIsAcked tcb = true := by
  rw [tcpFinIsAcked_eq (.of_empty h), h]
  rfl

/-- An ACK of `snd_nxt` covers the queue. -/
theorem Tcb.EndsAtNxt.held_ack {tcb : Tcb} (h : tcb.EndsAtNxt) {ack : UInt32}
    (hack : ack = tcb.sndNxt) : (tcpSendqAck tcb ack).sendq.held = 0 := by
  refine held_tcpSendqAck_eq_zero fun k hk => ?_
  have hend : (tcb.sendq.entries k).seqEnd = tcb.sndNxt := h k hk
  show ack ≥ (tcb.sendq.entries k).seqEnd
  rw [hend, hack]
  exact UInt32.le_refl _

theorem Tcb.EndsAtNxt.held_ackedBy {tcb : Tcb} (h : tcb.EndsAtNxt) {hdr : TcpFields}
    (hack : hdr.ackNum = tcb.sndNxt) : (tcb.ackedBy hdr).sendq.held = 0 := by
  have hset : Tcb.EndsAtNxt { tcb with sndUna := hdr.ackNum } := h
  exact hset.held_ack hack

/-- After the ACK field nothing in `TCP_ESTABLISHED` touches the queue. -/
theorem tcpReceiveEstablished_sendq (env : IpEnv) (table : TcpTable) (i : TcbIndex)
    (hdr : TcpFields) :
    let tcb := (tcpReceiveEstablished env table i hdr).1.tcbs i
    tcb.sendq = (tcpEstablishedAck (table.tcbs i) hdr).sendq ∧
      tcb.sndUna = (tcpEstablishedAck (table.tcbs i) hdr).sndUna ∧
      tcb.sndNxt = (tcpEstablishedAck (table.tcbs i) hdr).sndNxt := by
  unfold tcpReceiveEstablished
  dsimp only
  split
  · split
    · split <;> simp
    · split <;> simp
  · split
    · split <;> simp
    · split <;> simp

/-- An ACK field that is not past `snd_una` changes nothing. -/
theorem tcpEstablishedAck_old {tcb : Tcb} {hdr : TcpFields} (h : ¬ tcb.sndUna < hdr.ackNum) :
    tcpEstablishedAck tcb hdr = tcb := by
  unfold tcpEstablishedAck
  rw [if_neg fun hnew => h hnew.2.1]

/-! ## Results -/

/-- The states in which a TCB in use may wait for the ACK of data or of its FIN. -/
def TcpState.AwaitsAck (state : TcpState) : Prop :=
  state = .established ∨ state = .finWait1 ∨ state = .closeWait ∨ state = .lastAck

/-- The ACK took everything out of the queue: `snd_una` is the ACK, `tcp_close` is
    not held up, and a TCB that is closing goes on to its next state. In
    `TCP_LAST_ACK` that is the release of the slot. -/
structure AckTaken (tcb : Tcb) (ack : UInt32) (tcb' : Tcb) : Prop where
  sendq : tcb'.sendq.held = 0
  sndUna : tcb.state ≠ .lastAck → tcb'.sndUna = ack
  unblocked : tcpSendqHasUnacked tcb' = false
  finWait1 : tcb.state = .finWait1 → tcb'.state = .finWait2
  lastAck : tcb.state = .lastAck → tcb'.valid = false

/-- A TCB that still holds its segment did not take the ACK. -/
theorem not_ackTaken {tcb tcb' : Tcb} {ack : UInt32} (hheld : tcb.sendq.held = 1)
    (h : tcb'.sendq = tcb.sendq) : ¬ AckTaken tcb ack tcb' := by
  intro ht
  have h0 := ht.sendq
  rw [h, hheld] at h0
  exact absurd h0 (by decide)

section
variable {table : TcpTable} {i : TcbIndex} {hdr : TcpFields}

theorem ackTaken_established_iff (env : IpEnv) (hst : (table.tcbs i).state = .established)
    (hends : (table.tcbs i).EndsAtNxt) (hheld : (table.tcbs i).sendq.held = 1)
    (hflag : hdr.flags &&& tcpFlagAck ≠ 0) (hack : hdr.ackNum = (table.tcbs i).sndNxt) :
    AckTaken (table.tcbs i) hdr.ackNum ((tcpReceiveEstablished env table i hdr).1.tcbs i) ↔
      (table.tcbs i).sndUna < (table.tcbs i).sndNxt := by
  obtain ⟨hsendq, hund, -⟩ := tcpReceiveEstablished_sendq env table i hdr
  have hle : hdr.ackNum ≤ (table.tcbs i).sndNxt := by
    rw [hack]
    exact UInt32.le_refl _
  by_cases hlt : (table.tcbs i).sndUna < (table.tcbs i).sndNxt
  · have htaken : tcpEstablishedAck (table.tcbs i) hdr =
        { tcpSendqAck (table.tcbs i) hdr.ackNum with sndUna := hdr.ackNum } := by
      unfold tcpEstablishedAck
      rw [if_pos ⟨hflag, by rw [hack]; exact hlt, hle⟩]
    rw [htaken] at hsendq hund
    have hempty := hends.held_ack hack
    rw [← show _ = (tcpSendqAck (table.tcbs i) hdr.ackNum).sendq from hsendq] at hempty
    exact iff_of_true ⟨hempty, fun _ => hund, tcpSendqHasUnacked_eq_false hempty,
      fun h => absurd (hst.symm.trans h) (by decide),
      fun h => absurd (hst.symm.trans h) (by decide)⟩ hlt
  · rw [tcpEstablishedAck_old (by rw [hack]; exact hlt)] at hsendq
    exact iff_of_false (not_ackTaken hheld hsendq) hlt

theorem ackTaken_finWait1_iff (hst : (table.tcbs i).state = .finWait1)
    (hends : (table.tcbs i).EndsAtNxt) (hheld : (table.tcbs i).sendq.held = 1)
    (hflag : hdr.flags &&& tcpFlagAck ≠ 0) (hack : hdr.ackNum = (table.tcbs i).sndNxt) :
    AckTaken (table.tcbs i) hdr.ackNum ((tcpReceiveFinWait1 table i hdr).1.tcbs i) ↔
      (table.tcbs i).sndUna < (table.tcbs i).sndNxt := by
  have hempty := hends.held_ackedBy hack
  have hfin := tcpFinIsAcked_of_empty hempty
  unfold Tcb.ackedBy at hempty hfin
  unfold tcpReceiveFinWait1
  dsimp only
  by_cases hlt : (table.tcbs i).sndUna < (table.tcbs i).sndNxt
  · rw [if_pos ⟨hflag, by rw [hack]; exact hlt⟩, if_pos hfin, TcpTable.set_self]
    exact iff_of_true ⟨hempty, fun _ => rfl, tcpSendqHasUnacked_eq_false hempty, fun _ => rfl,
      fun h => absurd (hst.symm.trans h) (by decide)⟩ hlt
  · rw [if_neg fun h => hlt (by rw [← hack]; exact h.2)]
    exact iff_of_false (not_ackTaken hheld rfl) hlt

theorem ackTaken_lastAck_iff (hst : (table.tcbs i).state = .lastAck)
    (hends : (table.tcbs i).EndsAtNxt) (hheld : (table.tcbs i).sendq.held = 1)
    (hflag : hdr.flags &&& tcpFlagAck ≠ 0) (hack : hdr.ackNum = (table.tcbs i).sndNxt) :
    AckTaken (table.tcbs i) hdr.ackNum ((tcpReceiveLastAck table i hdr).1.tcbs i) ↔
      (table.tcbs i).sndUna < (table.tcbs i).sndNxt := by
  have hfin := tcpFinIsAcked_of_empty (hends.held_ackedBy hack)
  unfold Tcb.ackedBy at hfin
  unfold tcpReceiveLastAck
  dsimp only
  by_cases hlt : (table.tcbs i).sndUna < (table.tcbs i).sndNxt
  · have hempty : ({} : Tcb).sendq.held = 0 := held_eq_zero.mpr fun _ => rfl
    have hreleased : ((tcpReleaseTcb (table.set i (tcpSendqAck
        { table.tcbs i with sndUna := hdr.ackNum } hdr.ackNum)) i).tcbs i) = {} :=
      TcpTable.set_self ..
    rw [if_pos ⟨hflag, by rw [hack]; exact hlt⟩, if_pos hfin, hreleased]
    exact iff_of_true ⟨hempty, fun h => absurd hst h, tcpSendqHasUnacked_eq_false hempty,
      fun h => absurd (hst.symm.trans h) (by decide), fun _ => rfl⟩ hlt
  · rw [if_neg fun h => hlt (by rw [← hack]; exact h.2)]
    exact iff_of_false (not_ackTaken hheld rfl) hlt

end

/-- In every reachable state, an ACK of `snd_nxt` takes the tracked segment out of
    the queue exactly when the TCB is not in `TCP_CLOSE_WAIT` and the outstanding
    sequence numbers do not wrap. -/
theorem tcpReceive_ackAll_iff (inputs : List (IpEnv × TcpInput)) (env : IpEnv) (i : TcbIndex)
    (pkt : IpDatagram) :
    let table := run tcpStep tcpInit inputs
    let tcb := table.tcbs i
    let hdr := tcpFields pkt.data
    tcb.state.AwaitsAck → tcb.sendq.held = 1 → TcpFinds table pkt i →
      hdr.flags &&& tcpFlagAck ≠ 0 → hdr.ackNum = tcb.sndNxt →
      (AckTaken tcb hdr.ackNum ((tcpReceive env table pkt).1.tcbs i) ↔
        tcb.state ≠ .closeWait ∧ tcb.sndUna < tcb.sndNxt) := by
  intro table tcb hdr hst hheld hfinds hflag hack
  have hends : tcb.EndsAtNxt := endsAtNxt_run inputs i
  have hswitch := tcpReceiveState.eq_def env table i hdr
  rw [hfinds.receive env]
  rcases hst with hs | hs | hs | hs
  · rw [hs] at hswitch
    rw [hswitch, and_iff_right (by rw [hs]; decide)]
    exact ackTaken_established_iff env hs hends hheld hflag hack
  · rw [hs] at hswitch
    rw [hswitch, and_iff_right (by rw [hs]; decide)]
    exact ackTaken_finWait1_iff hs hends hheld hflag hack
  · -- the switch has no case for this state
    rw [hs] at hswitch
    rw [hswitch]
    exact iff_of_false (not_ackTaken hheld rfl) fun h => h.1 hs
  · rw [hs] at hswitch
    rw [hswitch, and_iff_right (by rw [hs]; decide)]
    exact ackTaken_lastAck_iff hs hends hheld hflag hack

/-- A segment of the peer at 10.0.0.2:80 for port 40000 of 10.0.0.1. -/
def exampleSegment (seq ack : UInt32) (flags : UInt8) : IpDatagram :=
  { srcIp := 0x0A000002, dstIp := 0x0A000001, protocol := ipProtoTcp,
    data := tcpSegmentBytes 80 40000 seq ack flags [] }

theorem tcpMaxConns_pos : 0 < tcpMaxConns := by decide

/-- The slot that the first connection takes. -/
def exampleTcb : TcbIndex := ⟨0, tcpMaxConns_pos⟩

/-- A connection is opened, and the byte 97 is sent on it. -/
def exampleSendRun : List (IpEnv × TcpInput) :=
  [({}, .call (.connect 0x0A000001 0x0A000002 40000 80 none none none)),
    ({}, .call (.receive (exampleSegment 0 1 (tcpFlagSyn ||| tcpFlagAck)))),
    ({}, .call (.send exampleTcb [97]))]

/-- Then the peer closes, before it acknowledges the byte. -/
def exampleCloseWaitRun : List (IpEnv × TcpInput) :=
  exampleSendRun ++
    [(({} : IpEnv), .call (.receive (exampleSegment 1 1 (tcpFlagFin ||| tcpFlagAck))))]

theorem tcpReceive_ackAll_iff_exampleSendRun :
    let table := run tcpStep tcpInit exampleSendRun
    let tcb := table.tcbs (0 : TcbIndex)
    let hdr := tcpFields (exampleSegment 1 2 tcpFlagAck).data
    AckTaken tcb hdr.ackNum
        ((tcpReceive {} table (exampleSegment 1 2 tcpFlagAck)).1.tcbs (0 : TcbIndex)) ↔
      tcb.state ≠ .closeWait ∧ tcb.sndUna < tcb.sndNxt :=
  tcpReceive_ackAll_iff exampleSendRun {} 0 (exampleSegment 1 2 tcpFlagAck)
    (.inl (by decide +kernel)) (by decide +kernel) (by decide +kernel) (by decide +kernel)
    (by decide +kernel)

/-- In `TCP_CLOSE_WAIT` the ACK of the byte is dropped. -/
theorem not_tcpReceive_ackAll :
    ¬ ∀ (inputs : List (IpEnv × TcpInput)) (env : IpEnv) (i : TcbIndex) (pkt : IpDatagram),
      let table := run tcpStep tcpInit inputs
      let tcb := table.tcbs i
      let hdr := tcpFields pkt.data
      tcb.state.AwaitsAck → tcb.sendq.held = 1 → TcpFinds table pkt i →
        hdr.flags &&& tcpFlagAck ≠ 0 → hdr.ackNum = tcb.sndNxt →
        AckTaken tcb hdr.ackNum ((tcpReceive env table pkt).1.tcbs i) := by
  intro h
  have htaken := h exampleCloseWaitRun {} 0 (exampleSegment 2 2 tcpFlagAck)
    (.inr (.inr (.inl (by decide +kernel)))) (by decide +kernel) (by decide +kernel)
    (by decide +kernel) (by decide +kernel)
  exact absurd htaken.sendq (by decide +kernel)

/-! ## Sequence numbers that wrap -/

/-- The segment carries nothing but an ACK of `ack`. -/
structure TcpFields.IsAck (hdr : TcpFields) (ack : UInt32) : Prop where
  flag : hdr.flags &&& tcpFlagAck ≠ 0
  fin : hdr.flags &&& tcpFlagFin = 0
  payload : hdr.payload = []
  ackNum : hdr.ackNum = ack

instance (hdr : TcpFields) (ack : UInt32) : Decidable (hdr.IsAck ack) :=
  decidable_of_iff (hdr.flags &&& tcpFlagAck ≠ 0 ∧ hdr.flags &&& tcpFlagFin = 0 ∧
      hdr.payload = [] ∧ hdr.ackNum = ack)
    ⟨fun h => ⟨h.1, h.2.1, h.2.2.1, h.2.2.2⟩, fun h => ⟨h.1, h.2, h.3, h.4⟩⟩

/-- The queue has one entry. -/
theorem tcpSendqTrack_entries {tcb tcb' : Tcb} {clone : List UInt8} {seqStart seqEnd : UInt32}
    {flags : UInt8} {now : UInt64}
    (h : tcpSendqTrack tcb clone seqStart seqEnd flags now = some tcb') :
    ∃ count, tcb' = { tcb with
      sendq := { entries := fun _ => { pkt := some clone, seqStart := seqStart, seqEnd := seqEnd,
                                       flags := flags, sentTs := now }
                 count := count } } := by
  unfold tcpSendqTrack at h
  split at h
  · cases h
  split at h
  · cases h
  · rename_i k _
    cases h
    refine ⟨tcb.sendq.count + 1, ?_⟩
    congr 2
    funext j
    rw [Subsingleton.elim j k, Function.update_self]

/-- What `tcp_send` leaves of a TCB when it succeeds: the queue holds the segment
    up to the new `snd_nxt`. -/
theorem tcpSend_sent {env : IpEnv} {table : TcpTable} {i : TcbIndex} {data : List UInt8}
    (hne : data ≠ []) (hmss : data.length ≤ tcpMss) (h : (tcpSend env table i data).2.1 = 0) :
    let tcb := (tcpSend env table i data).1.tcbs i
    tcb.state = .established ∧ tcb.sndUna = (table.tcbs i).sndUna ∧
      tcb.sndNxt = (table.tcbs i).sndNxt + UInt32.ofNat data.length ∧
      tcb.EndsAtNxt ∧ tcb.sendq.held = 1 := by
  have hfail : ¬ (-1 : ℤ) = 0 := by decide
  have hlen : (if data.length > tcpMss then tcpMss else data.length) = data.length := by
    rw [if_neg (by omega)]
  unfold tcpSend at h ⊢
  simp only [hlen, List.take_length] at h ⊢
  split at h
  · exact absurd h hfail
  rename_i hv
  split at h
  · exact absurd h hfail
  rename_i hst
  split at h
  · rename_i hnil
    exact absurd (List.length_eq_zero_iff.mp hnil) hne
  rename_i hnil
  split at h
  · exact absurd h hfail
  rename_i hun
  rw [if_neg hv, if_neg hst, if_neg hnil, if_neg hun]
  split at h
  · exact absurd h hfail
  rename_i pkt hseg
  split at h
  · exact absurd h hfail
  rename_i tcb htrack
  obtain ⟨count, rfl⟩ := tcpSendqTrack_entries htrack
  simp only [tcpScheduleRetransmit_tcb, TcpTable.set_self]
  exact ⟨by simpa using hst, trivial, trivial, fun _ _ => rfl, rfl⟩

/-- An ACK of nothing new, without payload and FIN, leaves the table as it is. -/
theorem tcpReceiveEstablished_old_ack {table : TcpTable} {i : TcbIndex} {hdr : TcpFields}
    {ack : UInt32} (env : IpEnv) (h : hdr.IsAck ack) (hold : ¬ (table.tcbs i).sndUna < ack) :
    (tcpReceiveEstablished env table i hdr).1 = table := by
  have hkept : tcpEstablishedAck (table.tcbs i) hdr = table.tcbs i :=
    tcpEstablishedAck_old (by rw [h.ackNum]; exact hold)
  have hself : table.set i (table.tcbs i) = table := by
    rw [TcpTable.set, Function.update_eq_self]
  unfold tcpReceiveEstablished
  simp only [hkept, h.payload, h.fin, hself, List.length_nil, lt_irrefl, if_false, ne_eq,
    not_true_eq_false, false_and, if_true]

/-- The end of `n` bytes from `s` is past `s` exactly when it does not wrap. -/
theorem lt_add_ofNat_iff {s : UInt32} {n : ℕ} (hpos : 0 < n) (hn : n ≤ tcpMss) :
    s < s + UInt32.ofNat n ↔ s.toNat + n < 2 ^ 32 := by
  have hs := s.toNat_lt
  unfold tcpMss at hn
  rw [UInt32.lt_iff_toNat_lt, UInt32.toNat_add, UInt32.toNat_ofNat',
    Nat.mod_eq_of_lt (show n < 2 ^ 32 by omega)]
  omega

/-- What an idle connection sends at `s` is acknowledged by an ACK of its end, and
    an ACK of `s` changes nothing, exactly when the end does not wrap. -/
theorem tcpSend_acked_iff {env env' : IpEnv} {table : TcpTable} {i : TcbIndex} {data : List UInt8}
    {pkt dup : IpDatagram} (hidle : (table.tcbs i).sndUna = (table.tcbs i).sndNxt)
    (hne : data ≠ []) (hmss : data.length ≤ tcpMss) (hsent : (tcpSend env table i data).2.1 = 0)
    (hpkt : TcpFinds (tcpSend env table i data).1 pkt i)
    (hack : (tcpFields pkt.data).IsAck ((table.tcbs i).sndNxt + UInt32.ofNat data.length))
    (hdup : TcpFinds (tcpSend env table i data).1 dup i)
    (hdupAck : (tcpFields dup.data).IsAck (table.tcbs i).sndNxt) :
    let sent := (tcpSend env table i data).1
    let acked := (tcpReceive env' sent pkt).1.tcbs i
    (acked.sendq.held = 0 ∧ acked.sndUna = acked.sndNxt) ∧ (tcpReceive env' sent dup).1 = sent ↔
      (table.tcbs i).sndNxt.toNat + data.length < 2 ^ 32 := by
  obtain ⟨hst, hund, hnxt, hends, hheld⟩ := tcpSend_sent hne hmss hsent
  intro sent acked
  have hswitch : ∀ hdr, tcpReceiveState env' sent i hdr = tcpReceiveEstablished env' sent i hdr := by
    intro hdr
    unfold tcpReceiveState
    rw [hst]
  have hacked : acked = (tcpReceiveEstablished env' sent i (tcpFields pkt.data)).1.tcbs i := by
    rw [← hswitch, ← hpkt.receive env']
  have hwrap : (sent.tcbs i).sndUna < (sent.tcbs i).sndNxt ↔
      (table.tcbs i).sndNxt.toNat + data.length < 2 ^ 32 := by
    rw [hund, hnxt, hidle]
    exact lt_add_ofNat_iff (List.length_pos_iff.mpr hne) hmss
  have hdupOld : (tcpReceive env' sent dup).1 = sent := by
    rw [hdup.receive env', hswitch]
    refine tcpReceiveEstablished_old_ack env' hdupAck ?_
    rw [hund, hidle]
    exact UInt32.lt_irrefl _
  rw [and_iff_left hdupOld, ← hwrap]
  have hackNum : (tcpFields pkt.data).ackNum = (sent.tcbs i).sndNxt := by rw [hack.ackNum, hnxt]
  obtain ⟨hsendq, -, hkept⟩ := tcpReceiveEstablished_sendq env' sent i (tcpFields pkt.data)
  rw [← hacked] at hsendq hkept
  constructor
  · rintro ⟨hempty, -⟩
    by_contra hlt
    rw [tcpEstablishedAck_old (by rw [hackNum]; exact hlt)] at hsendq
    rw [hsendq, hheld] at hempty
    exact absurd hempty (by decide)
  · intro hlt
    have htaken := (ackTaken_established_iff env' hst hends hheld hack.flag hackNum).mpr hlt
    rw [← hacked] at htaken
    have hund' := htaken.sndUna (by rw [hst]; decide)
    exact ⟨htaken.sendq, by rw [hund', hackNum, hkept, tcpEstablishedAck_sndNxt]⟩

/-- A connection from 10.0.0.1:40000 with nothing outstanding at `s`. -/
def exampleIdle (s : UInt32) : TcpTable :=
  tcpInit.set exampleTcb
    { valid := true, state := .established, localIp := 0x0A000001, localPort := 40000,
      remoteIp := 0x0A000002, remotePort := 80, sndUna := s, sndNxt := s }

theorem tcpSend_acked_iff_exampleIdle :
    let sent := (tcpSend {} (exampleIdle 1000) 0 [97]).1
    let acked := (tcpReceive {} sent (exampleSegment 1 1001 tcpFlagAck)).1.tcbs (0 : TcbIndex)
    (acked.sendq.held = 0 ∧ acked.sndUna = acked.sndNxt) ∧
        (tcpReceive {} sent (exampleSegment 1 1000 tcpFlagAck)).1 = sent ↔
      ((exampleIdle 1000).tcbs (0 : TcbIndex)).sndNxt.toNat + [(97 : UInt8)].length < 2 ^ 32 :=
  tcpSend_acked_iff (by decide +kernel) (by decide) (by decide) (by decide +kernel)
    (by decide +kernel) (by decide +kernel) (by decide +kernel) (by decide +kernel)

/-- The byte sent at `2 ^ 32 - 1` stays in the queue. -/
theorem not_tcpSend_acked :
    ¬ ∀ (env env' : IpEnv) (table : TcpTable) (i : TcbIndex) (data : List UInt8)
      (pkt dup : IpDatagram), (table.tcbs i).sndUna = (table.tcbs i).sndNxt →
      data ≠ [] → data.length ≤ tcpMss → (tcpSend env table i data).2.1 = 0 →
      TcpFinds (tcpSend env table i data).1 pkt i →
      (tcpFields pkt.data).IsAck ((table.tcbs i).sndNxt + UInt32.ofNat data.length) →
      TcpFinds (tcpSend env table i data).1 dup i →
      (tcpFields dup.data).IsAck (table.tcbs i).sndNxt →
      let sent := (tcpSend env table i data).1
      let acked := (tcpReceive env' sent pkt).1.tcbs i
      (acked.sendq.held = 0 ∧ acked.sndUna = acked.sndNxt) ∧
        (tcpReceive env' sent dup).1 = sent := by
  intro h
  have hacked := h {} {} (exampleIdle 0xFFFFFFFF) 0 [97] (exampleSegment 1 0 tcpFlagAck)
    (exampleSegment 1 0xFFFFFFFF tcpFlagAck) (by decide +kernel) (by decide) (by decide)
    (by decide +kernel) (by decide +kernel) (by decide +kernel) (by decide +kernel)
    (by decide +kernel)
  exact absurd hacked.1.1 (by decide +kernel)

end FrameRunner
