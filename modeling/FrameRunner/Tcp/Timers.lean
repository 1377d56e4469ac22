import FrameRunner.Engine.Scheduler
import FrameRunner.Lib.Run
import FrameRunner.Tcp.Model

/-!
# The retransmission timer

`TcpSim` are the TCP tables of any number of hosts over one scheduler, with every
call of the module, every step of the scheduler and every event or fallback that
other modules put there. The calls that start a retransmission timer create its
event without a handler, `host_create` registers no fallback for
`EVT_TCP_RETRANSMIT`, and the only code that creates the event with a handler is
the handler itself. So in every reachable state no event runs
`tcp_retransmit_handler` (`noRetransmit_run`), whatever the tables track.
-/

namespace FrameRunner

open FrameRunner.Lib

/-- `Host *`. -/
abbrev HostRef := ℕ

/-- A callback on the scheduler: one of a host's TCP, or another module's. -/
inductive SimCallback where
  | tcp (host : HostRef) (timer : TcpTimer)
  | other (fn : AppRef)
  deriving DecidableEq, Repr

/-- What an event points to. -/
inductive SimPayload where
  | tcb (host : HostRef) (i : TcbIndex)
  | other (data : AppRef)
  deriving DecidableEq, Repr

/-- A simulation seen from TCP. -/
structure TcpSim where
  table : HostRef → TcpTable
  sched : Scheduler SimCallback SimPayload

/-- Freshly created hosts and scheduler: `host_create` runs `tcp_init` on the
    table and touches no handler of the scheduler. -/
def tcpSimInit : TcpSim where
  table := fun _ => tcpInit
  sched := schedulerCreate

/-- A call of the module on one host. -/
inductive TcpCall where
  | listen (localIp : UInt32) (localPort : UInt16) (recvFn connectFn ctx : Option AppRef)
  | connect (localIp remoteIp : UInt32) (localPort remotePort : UInt16)
      (recvFn connectFn ctx : Option AppRef)
  | send (i : TcbIndex) (data : List UInt8)
  | close (i : TcbIndex)
  | receive (pkt : IpDatagram)

/-- The table after a call, and what the call gives back. -/
def tcpCall (env : IpEnv) (table : TcpTable) : TcpCall → TcpTable × TcpOut
  | .listen localIp localPort recvFn connectFn ctx =>
    ((tcpListen table localIp localPort recvFn connectFn ctx).1, {})
  | .connect localIp remoteIp localPort remotePort recvFn connectFn ctx =>
    let (table, _, out) :=
      tcpConnect env table localIp remoteIp localPort remotePort recvFn connectFn ctx
    (table, out)
  | .send i data => let (table, _, out) := tcpSend env table i data; (table, out)
  | .close i => let (table, _, out) := tcpClose env table i; (table, out)
  | .receive pkt => let (table, _, out) := tcpReceive env table pkt; (table, out)

/-- An event of one host's TCP on the common scheduler. -/
def TcpEvent.onHost (h : HostRef) (e : TcpEvent) : Event SimCallback SimPayload where
  type := e.type
  timestamp := e.timestamp
  sequence := e.sequence
  payload := .tcb h e.payload
  handler := e.handler.map (SimCallback.tcp h)

/-- A host's table and the events of a call are put back. -/
def TcpSim.commit (s : TcpSim) (h : HostRef) (r : TcpTable × TcpOut) : TcpSim where
  table := Function.update s.table h r.1
  sched := r.2.events.foldl (fun sched e => schedulerSchedule sched (TcpEvent.onHost h e)) s.sched

/-- What happens next in a simulation. -/
inductive TcpSimInput where
  /-- a call of TCP, by the application or the IP layer -/
  | call (h : HostRef) (c : TcpCall) (ipOk : Bool)
  /-- another module schedules an event -/
  | schedule (type : EventType) (timestamp : UInt64) (data : AppRef) (handler : Option AppRef)
  /-- another module registers its fallback -/
  | register (type : EventType) (fn : AppRef)
  /-- `scheduler_step` -/
  | step (ipOk : Bool)

/-- The callback of a popped event, as far as TCP is concerned. The calls that
    another module's callback makes are inputs of their own. -/
def TcpSim.runCallback (s : TcpSim) (ipOk : Bool) (e : Event SimCallback SimPayload) :
    Option SimCallback → TcpSim
  | some (.tcp _ .retransmitHandler) =>
    match e.payload with
    | .tcb h i =>
      s.commit h (tcpRetransmitHandler { now := some s.sched.now, ipOk := ipOk } (s.table h) i)
    | .other _ => s
  | some (.tcp _ .timeWaitHandler) =>
    match e.payload with
    | .tcb h i => s.commit h (tcpTimeWaitHandler (s.table h) i, {})
    | .other _ => s
  | some (.other _) => s
  | none => s

/-- `scheduler_step` with the callback it runs. -/
def TcpSim.runStep (s : TcpSim) (ipOk : Bool) : TcpSim :=
  match schedulerStep s.sched with
  | none => s
  | some (e, sched) =>
    TcpSim.runCallback { s with sched := sched } ipOk e (schedulerDispatch s.sched e)

/-- The simulation after an input. -/
def tcpSimStep (s : TcpSim) : TcpSimInput → TcpSim
  | .call h c ipOk => s.commit h (tcpCall { now := some s.sched.now, ipOk := ipOk } (s.table h) c)
  | .schedule type timestamp data handler =>
    let e : Event SimCallback SimPayload :=
      { type := type, timestamp := timestamp, payload := .other data,
        handler := handler.map SimCallback.other }
    { s with sched := schedulerSchedule s.sched e }
  | .register type fn => { s with sched := schedulerRegister s.sched type (some (.other fn)) }
  | .step ipOk => s.runStep ipOk

/-! ## The events of the calls -/

/-- No event runs the retransmission handler. -/
def TcpOut.NoRetransmit (out : TcpOut) : Prop :=
  ∀ e ∈ out.events, e.handler ≠ some .retransmitHandler

theorem noRetransmit_nil (sent : List IpDatagram) (upcalls : List TcpUpcall) :
    TcpOut.NoRetransmit { sent := sent, upcalls := upcalls } :=
  fun _ h => nomatch h

theorem noRetransmit_scheduleRetransmit (env : IpEnv) (i : TcbIndex) (tcb : Tcb)
    (sent : List IpDatagram) :
    TcpOut.NoRetransmit { sent := sent, events := (tcpScheduleRetransmit env false i tcb).2 } := by
  intro e he
  unfold tcpScheduleRetransmit at he
  split at he
  · nomatch he
  · obtain rfl := List.mem_singleton.mp he
    exact nofun

theorem noRetransmit_scheduleTimeWait (env : IpEnv) (i : TcbIndex) (sent : List IpDatagram) :
    TcpOut.NoRetransmit { sent := sent, events := tcpScheduleTimeWait env i } := by
  intro e he
  unfold tcpScheduleTimeWait at he
  dsimp only at he
  split at he
  · nomatch he
  · obtain rfl := List.mem_singleton.mp he
    exact nofun

theorem noRetransmit_connect (env : IpEnv) (table : TcpTable) (localIp remoteIp : UInt32)
    (localPort remotePort : UInt16) (recvFn connectFn ctx : Option AppRef) :
    (tcpConnect env table localIp remoteIp localPort remotePort recvFn connectFn ctx).2.2.NoRetransmit
    := by
  unfold tcpConnect
  dsimp only
  repeat' split
  all_goals first
    | exact noRetransmit_nil _ _
    | exact noRetransmit_scheduleRetransmit env _ _ _

theorem noRetransmit_send (env : IpEnv) (table : TcpTable) (i : TcbIndex) (data : List UInt8) :
    (tcpSend env table i data).2.2.NoRetransmit := by
  unfold tcpSend
  dsimp only
  repeat' split
  all_goals first
    | exact noRetransmit_nil _ _
    | exact noRetransmit_scheduleRetransmit env _ _ _

theorem noRetransmit_close (env : IpEnv) (table : TcpTable) (i : TcbIndex) :
    (tcpClose env table i).2.2.NoRetransmit := by
  unfold tcpClose
  dsimp only
  repeat' split
  all_goals first
    | exact noRetransmit_nil _ _
    | exact noRetransmit_scheduleRetransmit env _ _ _

theorem noRetransmit_receiveState (env : IpEnv) (table : TcpTable) (i : TcbIndex)
    (hdr : TcpFields) : (tcpReceiveState env table i hdr).2.2.NoRetransmit := by
  unfold tcpReceiveState tcpReceiveSynSent tcpReceiveSynReceived tcpReceiveEstablished
    tcpReceiveFinWait1 tcpReceiveFinWait2 tcpReceiveClosing tcpReceiveLastAck
  dsimp only
  repeat' split
  all_goals first
    | exact noRetransmit_nil _ _
    | exact noRetransmit_scheduleTimeWait env _ _

theorem noRetransmit_receive (env : IpEnv) (table : TcpTable) (pkt : IpDatagram) :
    (tcpReceive env table pkt).2.2.NoRetransmit := by
  unfold tcpReceive tcpReceiveListen
  dsimp only
  repeat' split
  all_goals first
    | exact noRetransmit_nil _ _
    | exact noRetransmit_receiveState env _ _ _

theorem noRetransmit_call (env : IpEnv) (table : TcpTable) (c : TcpCall) :
    (tcpCall env table c).2.NoRetransmit := by
  cases c with
  | listen => exact noRetransmit_nil _ _
  | connect => exact noRetransmit_connect env _ _ _ _ _ _ _ _
  | send => exact noRetransmit_send env _ _ _
  | close => exact noRetransmit_close env _ _
  | receive => exact noRetransmit_receive env _ _

/-! ## The invariant -/

/-- Neither an event nor a fallback runs the retransmission handler. -/
structure NoRetransmit (s : TcpSim) : Prop where
  events : ∀ e ∈ s.sched.eq, ∀ h, e.handler ≠ some (.tcp h .retransmitHandler)
  handlers : ∀ type h, s.sched.handlers type ≠ some (.tcp h .retransmitHandler)

theorem NoRetransmit.dispatch {s : TcpSim} (I : NoRetransmit s) {e : Event SimCallback SimPayload}
    (he : e ∈ s.sched.eq) (h : HostRef) :
    schedulerDispatch s.sched e ≠ some (.tcp h .retransmitHandler) := by
  unfold schedulerDispatch
  split
  · rename_i handler hh
    rw [← hh]
    exact I.events e he h
  · exact I.handlers e.type h

theorem NoRetransmit.commit {s : TcpSim} (I : NoRetransmit s) (h : HostRef)
    {r : TcpTable × TcpOut} (hr : r.2.NoRetransmit) : NoRetransmit (s.commit h r) := by
  -- the events are scheduled one after the other
  have hall : ∀ (es : List TcpEvent) (sched : Scheduler SimCallback SimPayload),
      (∀ e ∈ es, e.handler ≠ some .retransmitHandler) →
      (∀ e ∈ sched.eq, ∀ h, e.handler ≠ some (.tcp h .retransmitHandler)) →
      (∀ type h, sched.handlers type ≠ some (.tcp h .retransmitHandler)) →
      let sched' := es.foldl (fun sched e => schedulerSchedule sched (TcpEvent.onHost h e)) sched
      (∀ e ∈ sched'.eq, ∀ h, e.handler ≠ some (.tcp h .retransmitHandler)) ∧
        ∀ type h, sched'.handlers type ≠ some (.tcp h .retransmitHandler) := by
    intro es
    induction es with
    | nil => exact fun _ _ h1 h2 => ⟨h1, h2⟩
    | cons e es ih =>
      intro sched hes h1 h2
      refine ih _ (fun x hx => hes x (List.mem_cons_of_mem _ hx)) ?_ h2
      intro x hx h'
      rcases mem_schedulerSchedule.mp hx with rfl | hx
      · have := hes e List.mem_cons_self
        simp only [TcpEvent.onHost, ne_eq, Option.map_eq_some_iff, SimCallback.tcp.injEq,
          not_exists, not_and]
        rintro t ht - rfl
        exact this ht
      · exact h1 x hx h'
  obtain ⟨h1, h2⟩ := hall r.2.events s.sched hr I.events I.handlers
  exact ⟨h1, h2⟩

theorem NoRetransmit.runStep {s : TcpSim} (I : NoRetransmit s) (ipOk : Bool) :
    NoRetransmit (s.runStep ipOk) := by
  unfold TcpSim.runStep
  split
  · exact I
  · rename_i e sched hstep
    obtain ⟨hq, hh, -⟩ := schedulerStep_eq_some hstep
    have hmem : e ∈ s.sched.eq := by rw [hq]; exact List.mem_cons_self
    have I' : NoRetransmit { s with sched := sched } :=
      ⟨fun x hx => I.events x (by rw [hq]; exact List.mem_cons_of_mem _ hx),
        fun type h => by dsimp only; rw [hh]; exact I.handlers type h⟩
    have hdisp := I.dispatch hmem
    unfold TcpSim.runCallback
    split
    · rename_i h heq
      exact absurd heq (hdisp h)
    · split
      · exact I'.commit _ (noRetransmit_nil _ _)
      · exact I'
    · exact I'
    · exact I'

theorem NoRetransmit.step {s : TcpSim} (I : NoRetransmit s) (input : TcpSimInput) :
    NoRetransmit (tcpSimStep s input) := by
  cases input with
  | call h c ipOk => exact I.commit h (noRetransmit_call _ _ c)
  | schedule type timestamp data handler =>
    refine ⟨fun e he h => ?_, I.handlers⟩
    rcases mem_schedulerSchedule.mp he with rfl | he
    · simp
    · exact I.events e he h
  | register type fn =>
    refine ⟨I.events, fun type' h => ?_⟩
    by_cases ht : type' = type
    · subst ht; simp [tcpSimStep, schedulerRegister]
    · simpa [tcpSimStep, schedulerRegister, Function.update_of_ne ht] using I.handlers type' h
  | step ipOk => exact I.runStep ipOk

theorem noRetransmit_run (inputs : List TcpSimInput) :
    NoRetransmit (run tcpSimStep tcpSimInit inputs) :=
  run_invariant NoRetransmit (fun _ input I => I.step input) inputs _
    { events := fun _ h => (List.not_mem_nil h).elim, handlers := fun _ _ => nofun }

/-! ## Results -/

/-- A valid TCB holds a tracked unacknowledged segment. -/
def TracksSegment (s : TcpSim) (h : HostRef) (i : TcbIndex) : Prop :=
  ((s.table h).tcbs i).valid = true ∧
    ∃ k, (((s.table h).tcbs i).sendq.entries k).pkt.isSome = true ∧
      (((s.table h).tcbs i).sendq.entries k).acked = false

/-- An event is pending whose dispatch will retransmit for the TCB. -/
def RetransmitPending (s : TcpSim) (h : HostRef) (i : TcbIndex) : Prop :=
  ∃ e ∈ s.sched.eq, e.type = .tcpRetransmit ∧ e.payload = .tcb h i ∧
    schedulerDispatch s.sched e = some (.tcp h .retransmitHandler)

/-- In a reachable state the timers are as they should be only if there is
    nothing to retransmit: no tracked segment ever has a timer. -/
theorem retransmitPending_iff (inputs : List TcpSimInput) :
    let s := run tcpSimStep tcpSimInit inputs
    (∀ h i, TracksSegment s h i → RetransmitPending s h i) ↔ ∀ h i, ¬ TracksSegment s h i := by
  intro s
  have I : NoRetransmit s := noRetransmit_run inputs
  constructor
  · intro hall h i ht
    obtain ⟨e, he, -, -, hd⟩ := hall h i ht
    exact I.dispatch he h hd
  · exact fun hnone h i ht => absurd ht (hnone h i)

/-- A host connects: its SYN is tracked and its timer has no handler. -/
theorem not_retransmitPending_connect :
    ¬ ∀ (inputs : List TcpSimInput) (h : HostRef) (i : TcbIndex),
      TracksSegment (run tcpSimStep tcpSimInit inputs) h i →
      RetransmitPending (run tcpSimStep tcpSimInit inputs) h i := by
  intro hall
  have h := hall [.call 0 (.connect 0x0A000001 0x0A000002 40000 80 none none none) true] 0 0
    ⟨by decide +kernel, 0, by decide +kernel, by decide +kernel⟩
  obtain ⟨e, he, -, -, hd⟩ := h
  exact (noRetransmit_run _).dispatch he 0 hd

end FrameRunner
