import FrameRunner.Tcp.Failure
import FrameRunner.Tcp.TimeWait
import FrameRunner.Engine.Order

/-!
# Retransmission timers that are out of date (`protocols/tcp.c`)

Every segment that is tracked, and every retransmission, starts a timer that carries the
slot only. Timers are not stopped by an ACK, and `tcp_retransmit_handler` sends what the
slot tracks when one of them fires, also if that timer was started for an earlier segment.

Main result:
* `tcpRetransmit_early_iff`: no segment is sent again within `TCP_RETRANSMIT_US` of its
  last sending in exactly the runs in which each timer that leads to a retransmission was
  started with that sending.
-/

namespace FrameRunner

open FrameRunner.Lib

/-! ## Retransmissions -/

/-- The event that `scheduler_step` pops runs `tcp_retransmit_handler` for the slot. -/
structure RunsRetransmit (s : TcpSim) (e : Event SimCallback SimPayload)
    (sched : Scheduler SimCallback SimPayload) (h : HostRef) (i : TcbIndex) : Prop where
  pop : schedulerStep s.sched = some (e, sched)
  run : ∃ ctx, schedulerDispatch s.sched e = some (.tcp ctx .retransmitHandler)
  data : e.payload = .tcb h i

/-- What the step retransmits was last sent at least `TCP_RETRANSMIT_US` ago. -/
def RetransmitsInTime (s : TcpSim) (input : TcpTimerInput) : Prop :=
  ∀ ipOk e sched h i, input = .sim (.step ipOk) → RunsRetransmit s e sched h i →
    (tcpRetransmitHandler ((s.popped sched).env ipOk) (s.table h) i).2.sent ≠ [] →
      ∀ k, (((s.table h).tcbs i).sendq.entries k).held = true →
        (((s.table h).tcbs i).sendq.entries k).sentTs.toNat + tcpRetransmitUs.toNat ≤
          sched.now.toNat

/-- A timer that fires for a segment was started when the segment was last sent: it is due
    `TCP_RETRANSMIT_US` after that. -/
def TimerUpToDate (s : TcpSim) (input : TcpTimerInput) : Prop :=
  ∀ ipOk e sched h i k data, input = .sim (.step ipOk) → RunsRetransmit s e sched h i →
    TcbResends ((s.popped sched).env ipOk) ((s.table h).tcbs i) k data →
      e.timestamp.toNat =
        (((s.table h).tcbs i).sendq.entries k).sentTs.toNat + tcpRetransmitUs.toNat

/-! ## When a segment was last sent -/

section
variable {env : IpEnv} {i : TcbIndex} {tcb tcb' : Tcb} {input : TcpInput} {out : TcpOut}

/-- An entry of the queue is dropped or left as it is. -/
theorem tcpSendqAck_held {ack : UInt32} {k : Fin tcpMaxInflight}
    (hk : ((tcpSendqAck tcb ack).sendq.entries k).held = true) :
    (tcpSendqAck tcb ack).sendq.entries k = tcb.sendq.entries k := by
  rcases tcpSendqAck_entry tcb ack k with hnone | ⟨hsame, -⟩
  · rw [TcpSegment.held, hnone] at hk
    cases hk
  · exact hsame

theorem TcbReceived.entry {hdr : TcpFields} (hr : TcbReceived tcb hdr tcb')
    {k : Fin tcpMaxInflight} (hk : (tcb'.sendq.entries k).held = true) :
    tcb'.sendq.entries k = tcb.sendq.entries k := by
  have hacked : ((tcb.ackedBy hdr).sendq.entries k).held = true →
      (tcb.ackedBy hdr).sendq.entries k = tcb.sendq.entries k := fun hk => tcpSendqAck_held hk
  have hestablished : ((tcpEstablishedAck tcb hdr).sendq.entries k).held = true →
      (tcpEstablishedAck tcb hdr).sendq.entries k = tcb.sendq.entries k := by
    unfold tcpEstablishedAck
    split_ifs
    · intro hk
      exact @tcpSendqAck_held tcb hdr.ackNum k hk
    · exact fun _ => rfl
  cases hr with
  | ignored | finWait2 => rfl
  | synSent | synReceived | closing | lastAck => exact hacked hk
  | acked | data | fin => exact hestablished hk
  | finWait1 =>
    split at hk
    · rw [if_pos ‹_›]
      exact hacked hk
    · rw [if_neg ‹_›]
      exact hacked hk
  | released => cases hk

/-- `sent_ts` of a tracked segment is the clock of the step that last sent it: a step leaves
    the entry as it is and starts no timer for it, or it sends the segment and stores the
    clock. -/
theorem TcbStepped.sentTs (h : TcbStepped env i tcb input tcb' out) {now : UInt64}
    (hnow : env.now = some now) {k : Fin tcpMaxInflight} {data : List UInt8}
    (hk : (tcb'.sendq.entries k).pkt = some data) :
    tcb'.sendq.entries k = tcb.sendq.entries k ∧
        (∀ e ∈ out.events, e.handler = some .timeWaitHandler) ∨
      (tcb'.sendq.entries k).sentTs = now ∧ tcb'.datagram data ∈ out.sent := by
  have hheld : (tcb'.sendq.entries k).held = true := by
    rw [TcpSegment.held, hk]
    rfl
  have htime : env.time = now := by
    unfold IpEnv.time
    rw [hnow]
    rfl
  -- a segment that is tracked with the bytes of the datagram that was sent
  have htracks : ∀ {seg : TcpSegment} {tcb₀ : Tcb} {pkt : IpDatagram} {seq ack : UInt32}
      {flags : UInt8} {payload : List UInt8}, tcb'.sendq.Tracks seg → seg.sentTs = env.time →
      seg.pkt = some pkt.data → tcpSendSegment env tcb₀ seq ack flags payload = some pkt →
      tcb'.localIp = tcb₀.localIp → tcb'.remoteIp = tcb₀.remoteIp →
      (tcb'.sendq.entries k).sentTs = now ∧ tcb'.datagram data ∈ [pkt] := by
    intro seg tcb₀ pkt seq ack flags payload htracks hts hpkt hsent hlocal hremote
    rw [htracks.entry k hheld] at hk ⊢
    refine ⟨hts.trans htime, List.mem_singleton.mpr ?_⟩
    obtain ⟨-, hdatagram⟩ := tcpSendSegment_eq_some hsent
    rw [hpkt] at hk
    unfold Tcb.datagram
    rw [hlocal, hremote, ← Option.some.inj hk, hdatagram]
  cases h with
  | listened _ _ hq =>
    rw [hq] at hk
    cases hk
  | connected _ hopen => exact .inr (htracks hopen.tracks rfl rfl hopen.sent rfl rfl)
  | child _ hopen => exact .inr (htracks hopen.tracks rfl rfl hopen.sent rfl rfl)
  | sent _ _ hsent =>
    obtain ⟨sendq, ts, state, hsame⟩ := hsent.same
    exact .inr (htracks hsent.tracks rfl rfl hsent.sent (by rw [hsame]) (by rw [hsame]))
  | closed _ hsent =>
    obtain ⟨sendq, ts, state, hsame⟩ := hsent.same
    exact .inr (htracks hsent.tracks rfl rfl hsent.sent (by rw [hsame]) (by rw [hsame]))
  | received _ _ hr hout =>
    refine .inl ⟨hr.entry hheld, fun e he => ?_⟩
    rw [hout.events] at he
    split at he
    · unfold tcpScheduleTimeWait at he
      rw [hnow] at he
      rw [List.mem_singleton.mp he]
    · cases he
  | @resent k' data' hre =>
    obtain rfl := Subsingleton.elim k k'
    have hpkt := (tcbResent_resentAt env tcb k).pkt k
    rw [hre.pkt, hk] at hpkt
    cases hpkt
    refine .inr ⟨?_, List.mem_singleton.mpr rfl⟩
    unfold Tcb.resentAt
    dsimp only
    rw [Function.update_self, hnow]
    rfl
  | released => cases hk

end

/-! ## Timers that are pending -/

/-- The event may run `tcp_retransmit_handler` for the slot. -/
def IsTimer (h : HostRef) (i : TcbIndex) (e : Event SimCallback SimPayload) : Prop :=
  e.payload = .tcb h i ∧ e.handler.any SimCallback.isTimeWait = false

/-- When a timer was started. -/
def started (e : Event SimCallback SimPayload) : UInt64 := e.timestamp - tcpRetransmitUs

/-- The clock has not run past the timer, unless its time wrapped. -/
structure TimerOk (now : UInt64) (e : Event SimCallback SimPayload) : Prop where
  started : started e ≤ now
  due : (FrameRunner.started e).toNat + tcpRetransmitUs.toNat < 2 ^ 64 → now ≤ e.timestamp

theorem timestamp_of_started (e : Event SimCallback SimPayload) :
    e.timestamp = started e + tcpRetransmitUs := by
  unfold started
  grind

theorem RunsRetransmit.isTimer {s : TcpSim} {e : Event SimCallback SimPayload}
    {sched : Scheduler SimCallback SimPayload} {h : HostRef} {i : TcbIndex}
    (hruns : RunsRetransmit s e sched h i) : IsTimer h i e := by
  refine ⟨hruns.data, ?_⟩
  obtain ⟨ctx, hrun⟩ := hruns.run
  unfold schedulerDispatch at hrun
  cases hh : e.handler with
  | none => rfl
  | some fn =>
    rw [hh] at hrun
    cases hrun
    rfl

/-- No pending timer of the slot was started after the segment was last sent. -/
structure SegmentOk (s : TcpSim) (h : HostRef) (i : TcbIndex) (seg : TcpSegment) : Prop where
  sentTs : seg.sentTs ≤ s.sched.now
  timers : ∀ e ∈ s.sched.eq, IsTimer h i e → started e ≤ seg.sentTs

/-- The timers of all slots, and the segments that are tracked. -/
structure TimersOk (s : TcpSim) : Prop where
  queue : ∀ h, TableQueueOk (s.table h)
  sorted : s.sched.eq.Pairwise fun a b => a.timestamp ≤ b.timestamp
  timers : ∀ e ∈ s.sched.eq, ∀ h i, IsTimer h i e → TimerOk s.sched.now e
  tracked : ∀ h i k, (((s.table h).tcbs i).sendq.entries k).held = true →
    SegmentOk s h i (((s.table h).tcbs i).sendq.entries k)

/-! ## One step -/

/-- The events that a step of a table adds. -/
theorem TcpSim.mem_tcp {s : TcpSim} {h : HostRef} {ipOk : Bool} {input : TcpInput}
    {e : Event SimCallback SimPayload} : e ∈ (s.tcp h ipOk input).sched.eq ↔
      (∃ x ∈ (tcpStepOut (s.table h) (s.env ipOk, input)).events, TcpEvent.onHost h x = e) ∨
        e ∈ s.sched.eq := by
  rw [TcpSim.tcp_events.mem_iff, List.mem_append, List.mem_map]

theorem foldl_schedule_sorted (h : HostRef) (es : List TcpEvent) :
    ∀ sched : Scheduler SimCallback SimPayload,
      sched.eq.Pairwise (fun a b => a.timestamp ≤ b.timestamp) →
      (es.foldl (fun sched e => schedulerSchedule sched (TcpEvent.onHost h e)) sched).eq.Pairwise
        fun a b => a.timestamp ≤ b.timestamp := by
  induction es with
  | nil => exact fun sched hsched => hsched
  | cons e es ih => exact fun sched hsched => ih _ (eventQueuePush_sorted hsched _)

/-- The timer that a segment starts. -/
theorem timerOk_tcpTimer {s : TcpSim} {ipOk tcpCtx : Bool} {h : HostRef} {i : TcbIndex}
    {x : TcpEvent} (hx : x ∈ tcpTimer (s.env ipOk) tcpCtx i) :
    TimerOk s.sched.now (TcpEvent.onHost h x) := by
  have hx : x ∈ [_] := hx
  have hts : (TcpEvent.onHost h x).timestamp = s.sched.now + tcpRetransmitUs := by
    rw [List.mem_singleton.mp hx]
    rfl
  have hstarted : started (TcpEvent.onHost h x) = s.sched.now := by
    unfold started
    rw [hts]
    grind
  refine ⟨by rw [hstarted]; exact UInt64.le_refl _, fun hwrap => ?_⟩
  rw [hstarted] at hwrap
  rw [hts, UInt64.le_iff_toNat_le, UInt64.toNat_add, Nat.mod_eq_of_lt hwrap]
  exact Nat.le_add_right _ _

/-- The events of a step are the timers of segments, apart from those of `TCP_TIME_WAIT`. -/
theorem TcbStepped.timers {env : IpEnv} {i : TcbIndex} {tcb tcb' : Tcb} {input : TcpInput}
    {out : TcpOut} (h : TcbStepped env i tcb input tcb' out) {x : TcpEvent} (hx : x ∈ out.events)
    (hne : x.handler ≠ some .timeWaitHandler) : ∃ tcpCtx, x ∈ tcpTimer env tcpCtx i := by
  cases h with
  | listened | child | released => cases hx
  | connected | sent | closed | resent => exact ⟨_, hx⟩
  | received _ _ _ hout =>
    rw [hout.events] at hx
    split at hx
    · unfold tcpScheduleTimeWait at hx
      split at hx
      · cases hx
      · rw [List.mem_singleton.mp hx] at hne
        exact absurd rfl hne
    · cases hx

section
variable {s : TcpSim} {h : HostRef} {ipOk : Bool} {input : TcpInput}

/-- A timer that a step adds is one that was started now, for the slot of the step. -/
theorem timerOk_new (Q : TableQueueOk (s.table h)) {x : TcpEvent}
    (hx : x ∈ (tcpStepOut (s.table h) (s.env ipOk, input)).events)
    (hne : x.handler ≠ some .timeWaitHandler) : TimerOk s.sched.now (TcpEvent.onHost h x) := by
  have hstepped := tcpStep_stepped Q (s.env ipOk) input
  generalize tcpStepOut (s.table h) (s.env ipOk, input) = out at hx hstepped
  cases hstepped with
  | unopened => cases hx
  | slot i tcb _ _ hstep =>
    obtain ⟨tcpCtx, hx⟩ := hstep.timers hx hne
    exact timerOk_tcpTimer hx

theorem handler_of_isTimer {h' : HostRef} {i : TcbIndex} {x : TcpEvent}
    (ht : IsTimer h' i (TcpEvent.onHost h x)) :
    h' = h ∧ x.payload = i ∧ x.handler ≠ some .timeWaitHandler := by
  obtain ⟨hdata, hany⟩ := ht
  obtain ⟨rfl, rfl⟩ := SimPayload.tcb.inj hdata
  refine ⟨rfl, rfl, fun hh => ?_⟩
  unfold TcpEvent.onHost at hany
  rw [hh] at hany
  cases hany

theorem TimersOk.tcp (I : TimersOk s) : TimersOk (s.tcp h ipOk input) where
  queue := TcpSim.tcp_queueOk I.queue
  sorted := foldl_schedule_sorted h _ s.sched I.sorted
  timers e he h' i ht := by
    rw [TcpSim.tcp_now]
    rcases TcpSim.mem_tcp.mp he with ⟨x, hx, rfl⟩ | he
    · exact timerOk_new (I.queue h) hx (handler_of_isTimer ht).2.2
    · exact I.timers e he h' i ht
  tracked h' i k hk := by
    -- where the entry stays and no timer is added for it, all stays as it was
    have hkept : (((s.tcp h ipOk input).table h').tcbs i).sendq.entries k =
          ((s.table h').tcbs i).sendq.entries k →
        (∀ x ∈ (tcpStepOut (s.table h) (s.env ipOk, input)).events,
          ¬ IsTimer h' i (TcpEvent.onHost h x)) →
        SegmentOk (s.tcp h ipOk input) h' i
          ((((s.tcp h ipOk input).table h').tcbs i).sendq.entries k) := by
      intro hsame hnew
      rw [hsame] at hk ⊢
      have hok := I.tracked h' i k hk
      refine ⟨by rw [TcpSim.tcp_now]; exact hok.sentTs, fun e he ht => ?_⟩
      rcases TcpSim.mem_tcp.mp he with ⟨x, hx, rfl⟩ | he
      · exact absurd ht (hnew x hx)
      · exact hok.timers e he ht
    by_cases hh : h' = h
    · subst hh
      rcases tcpStep_slot (I.queue h') (s.env ipOk) input i with ⟨hsame | ⟨-, hzero⟩, hspares⟩ |
        ⟨-, hstep⟩
      · refine hkept (by rw [TcpSim.tcp_table, hsame]) fun x hx ht => ?_
        exact hspares.events x hx (handler_of_isTimer ht).2.1
      · rw [TcpSim.tcp_table, hzero] at hk
        cases hk
      · obtain ⟨data, hdata⟩ := Option.isSome_iff_exists.mp hk
        rw [TcpSim.tcp_table] at hdata
        rcases hstep.sentTs rfl hdata with ⟨hsame, hnone⟩ | ⟨hnow, -⟩
        · refine hkept (by rw [TcpSim.tcp_table, hsame]) fun x hx ht => ?_
          exact (handler_of_isTimer ht).2.2 (hnone x hx)
        · rw [TcpSim.tcp_table]
          refine ⟨by rw [hnow, TcpSim.tcp_now]; exact UInt64.le_refl _, fun e he ht => ?_⟩
          rw [hnow]
          rcases TcpSim.mem_tcp.mp he with ⟨x, hx, rfl⟩ | he
          · exact (timerOk_new (I.queue h') hx (handler_of_isTimer ht).2.2).started
          · exact (I.timers e he h' i ht).started
    · refine hkept (by rw [TcpSim.tcp_table_of_ne hh]) fun x _ ht => ?_
      exact hh (handler_of_isTimer ht).1

/-- The clock moves to the event that is popped, and no timer is due before that. -/
theorem TimersOk.popped {e : Event SimCallback SimPayload}
    {sched : Scheduler SimCallback SimPayload} (I : TimersOk s)
    (hpop : schedulerStep s.sched = some (e, sched)) : TimersOk (s.popped sched) := by
  obtain ⟨hq, -, hle⟩ := schedulerStep_eq_some hpop
  have hsorted := I.sorted
  rw [hq, List.pairwise_cons] at hsorted
  have hmem : ∀ x ∈ sched.eq, x ∈ s.sched.eq := by
    intro x hx
    rw [hq]
    exact List.mem_cons_of_mem _ hx
  have hnow := schedulerStep_now hpop
  refine ⟨I.queue, hsorted.2, fun x hx h i ht => ?_, fun h i k hk => ?_⟩
  · have hok := I.timers x (hmem x hx) h i ht
    refine ⟨UInt64.le_trans hok.started hle, fun hwrap => ?_⟩
    show sched.now ≤ x.timestamp
    rw [hnow]
    split_ifs
    · exact hsorted.1 x hx
    · exact hok.due hwrap
  · have hok := I.tracked h i k hk
    exact ⟨UInt64.le_trans hok.sentTs hle, fun x hx => hok.timers x (hmem x hx)⟩

/-- Only the queue and the clock matter to the events of other modules. -/
theorem TimersOk.scheduled (I : TimersOk s) {e : Event SimCallback SimPayload}
    (he : ∀ h i, ¬ IsTimer h i e) :
    TimersOk { s with sched := schedulerSchedule s.sched e } := by
  refine ⟨I.queue, eventQueuePush_sorted I.sorted e, fun x hx h i ht => ?_, fun h i k hk => ?_⟩
  · rcases mem_schedulerSchedule.mp hx with rfl | hx
    · exact absurd ht (he h i)
    · exact I.timers x hx h i ht
  · refine ⟨(I.tracked h i k hk).sentTs, fun x hx ht => ?_⟩
    rcases mem_schedulerSchedule.mp hx with rfl | hx
    · exact absurd ht (he h i)
    · exact (I.tracked h i k hk).timers x hx ht

theorem TimersOk.step (I : TimersOk s) (input : TcpTimerInput) :
    TimersOk (tcpTimerStep s input) := by
  cases input with
  | registerRetransmit ctx =>
    exact ⟨I.queue, I.sorted, I.timers, fun h i k hk =>
      ⟨(I.tracked h i k hk).sentTs, (I.tracked h i k hk).timers⟩⟩
  | sim input =>
    cases input with
    | call h c ipOk =>
      rw [tcpTimerStep_call]
      exact I.tcp
    | schedule type timestamp data handler =>
      refine I.scheduled fun h i ht => ?_
      cases ht.1
    | register type fn =>
      exact ⟨I.queue, I.sorted, I.timers, fun h i k hk =>
        ⟨(I.tracked h i k hk).sentTs, (I.tracked h i k hk).timers⟩⟩
    | step ipOk =>
      show TimersOk (s.runStep ipOk)
      rcases runStep_cases s ipOk with ⟨-, hsame⟩ | ⟨e, sched, hpop, hrun⟩
      · rw [hsame]
        exact I
      · generalize s.runStep ipOk = s' at hrun
        cases hrun with
        | retransmit | timeWait => exact (I.popped hpop).tcp
        | other => exact I.popped hpop

theorem timersOk_init : TimersOk tcpSimInit where
  queue _ _ := queueOk_default
  sorted := List.Pairwise.nil
  timers _ he := absurd he List.not_mem_nil
  tracked _ _ _ hk := absurd hk Bool.false_ne_true

/-! ## Result -/

/-- The timer that fires cannot be later than the one of the last sending, so the segment is
    sent in time if and only if it is that one. -/
theorem timestamp_eq_iff {seg : TcpSegment} {e : Event SimCallback SimPayload}
    {now now' : UInt64} (hok : TimerOk now e) (hstarted : started e ≤ seg.sentTs)
    (hnow : now' = if e.timestamp > now then e.timestamp else now) :
    seg.sentTs.toNat + tcpRetransmitUs.toNat ≤ now'.toNat ↔
      e.timestamp.toNat = seg.sentTs.toNat + tcpRetransmitUs.toNat := by
  have hlt := now'.toNat_lt
  have hts : e.timestamp.toNat = ((started e).toNat + tcpRetransmitUs.toNat) % 2 ^ 64 := by
    rw [← UInt64.toNat_add, ← timestamp_of_started]
  have hle := UInt64.le_iff_toNat_le.mp hstarted
  have hclock : e.timestamp.toNat ≤ now'.toNat := by
    rw [hnow]
    split_ifs with h
    · exact le_rfl
    · exact UInt64.le_iff_toNat_le.mp (UInt64.not_lt.mp h)
  constructor
  · intro hdue
    -- the timer did not wrap, so the clock is at its time
    have hwrap : (started e).toNat + tcpRetransmitUs.toNat < 2 ^ 64 := by omega
    rw [Nat.mod_eq_of_lt hwrap] at hts
    have hpast := UInt64.le_iff_toNat_le.mp (hok.due hwrap)
    have hat : now'.toNat ≤ e.timestamp.toNat := by
      rw [hnow]
      split_ifs
      · exact le_rfl
      · exact hpast
    omega
  · intro heq
    omega

theorem retransmitsInTime_iff (I : TimersOk s) (input : TcpTimerInput) :
    RetransmitsInTime s input ↔ TimerUpToDate s input := by
  have hiff : ∀ {e sched h i k}, RunsRetransmit s e sched h i →
      (((s.table h).tcbs i).sendq.entries k).held = true →
      ((((s.table h).tcbs i).sendq.entries k).sentTs.toNat + tcpRetransmitUs.toNat ≤
          sched.now.toNat ↔
        e.timestamp.toNat =
          (((s.table h).tcbs i).sendq.entries k).sentTs.toNat + tcpRetransmitUs.toNat) := by
    intro e sched h i k hruns hk
    have hmem : e ∈ s.sched.eq := by
      rw [(schedulerStep_eq_some hruns.pop).1]
      exact List.mem_cons_self
    exact timestamp_eq_iff (I.timers e hmem h i hruns.isTimer)
      ((I.tracked h i k hk).timers e hmem hruns.isTimer) (schedulerStep_now hruns.pop)
  constructor
  · intro hall ipOk e sched h i k data hinput hruns hre
    have hk : (((s.table h).tcbs i).sendq.entries k).held = true := by
      rw [TcpSegment.held, hre.pkt]
      rfl
    refine (hiff hruns hk).mp (hall ipOk e sched h i hinput hruns ?_ k hk)
    rw [tcpRetransmitHandler_resends hre]
    exact List.cons_ne_nil _ _
  · intro hall ipOk e sched h i hinput hruns hsent k hk
    refine (hiff hruns hk).mpr ?_
    by_contra hne
    refine hsent ?_
    rw [(tcpRetransmitHandler_idle fun k' data hre => ?_).2]
    obtain rfl := Subsingleton.elim k k'
    exact hne (hall ipOk e sched h i k data hinput hruns hre)

end

/-- In a run in which `tcp_retransmit_handler` may be the fallback of its events, no tracked
    segment is retransmitted within `TCP_RETRANSMIT_US` of its last sending if and only if
    every timer that fires for a tracked segment was started when it was last sent. -/
theorem tcpRetransmit_early_iff (inputs : List TcpTimerInput) :
    Guarded tcpTimerStep RetransmitsInTime tcpSimInit inputs ↔
      Guarded tcpTimerStep TimerUpToDate tcpSimInit inputs :=
  guarded_iff TimersOk (fun _ input I => retransmitsInTime_iff I input)
    (fun _ input _ I => I.step input) inputs tcpSimInit timersOk_init

/-- A connection is opened at 0 s, and data is sent on it at 0.5 s. The next event is the
    timer of the SYN, at 1 s. -/
def exampleStaleRun : List TcpTimerInput :=
  [.registerRetransmit 0,
    .sim (.call 0 (.connect 0x0A000001 0x0A000002 40000 80 none none none) true),
    .sim (.call 0 (.receive exampleSynAck) true),
    .sim (.schedule .timerExpired 500000 0 (some 0)), .sim (.step true),
    .sim (.call 0 (.send exampleTcb [97]) true), .sim (.step true)]

/-- The data is sent again half a second after it was sent. -/
theorem not_tcpRetransmit_early : ¬ ∀ inputs : List TcpTimerInput,
    Guarded tcpTimerStep RetransmitsInTime tcpSimInit inputs := by
  intro h
  obtain ⟨-, -, -, -, -, -, hstep, -⟩ := h exampleStaleRun
  generalize hs : tcpTimerStep _ (.sim (.call 0 (.send exampleTcb [97]) true)) = s at hstep
  have hpop : ((schedulerStep s.sched).map fun r =>
      (schedulerDispatch s.sched r.1, r.1.payload, r.2.now)) =
      some (some (.tcp 0 .retransmitHandler), .tcb 0 exampleTcb, 1000000) := by
    rw [← hs]
    decide +kernel
  have hsent : (tcpRetransmitHandler { now := some 1000000, ipOk := true } (s.table 0)
      exampleTcb).2.sent.length = 1 := by
    rw [← hs]
    decide +kernel
  have hseg : (((s.table 0).tcbs exampleTcb).sendq.entries 0).held = true ∧
      (((s.table 0).tcbs exampleTcb).sendq.entries 0).sentTs = 500000 := by
    rw [← hs]
    decide +kernel
  obtain ⟨⟨e, sched⟩, hpop, hevent⟩ := Option.map_eq_some_iff.mp hpop
  obtain ⟨hrun, hdata, hnow⟩ : schedulerDispatch s.sched e = some (.tcp 0 .retransmitHandler) ∧
      e.payload = .tcb 0 exampleTcb ∧ sched.now = 1000000 := by
    simpa only [Prod.mk.injEq] using hevent
  have hle := hstep true e sched 0 exampleTcb rfl ⟨hpop, ⟨0, hrun⟩, hdata⟩ (fun hnil => ?_) 0 hseg.1
  · rw [hseg.2, hnow] at hle
    exact absurd hle (by decide)
  · have henv : (s.popped sched).env true = { now := some 1000000, ipOk := true } := by
      rw [← hnow]
      rfl
    rw [henv] at hnil
    rw [hnil] at hsent
    exact absurd hsent (by decide)

end FrameRunner
