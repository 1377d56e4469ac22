import FrameRunner.Tcp.Steps

/-!
# What one step of a simulation can do

The simulations of `Tcp.Timers`, in which `tcp_retransmit_handler` may also be registered
as the fallback of `EVT_TCP_RETRANSMIT`. Every call and every callback of TCP is a step of
one host's table, whose events are put on the common queue (`TcpSim.tcp`), and
`scheduler_step` first takes an event off it (`runStep_cases`).
-/

namespace FrameRunner

open FrameRunner.Lib

/-- What happens next, where `tcp_retransmit_handler` can be a fallback. -/
inductive TcpTimerInput where
  | sim (input : TcpSimInput)
  /-- `scheduler_register(sched, EVT_TCP_RETRANSMIT, tcp_retransmit_handler, ctx)` -/
  | registerRetransmit (ctx : HostRef)

def tcpTimerStep (s : TcpSim) : TcpTimerInput → TcpSim
  | .sim input => tcpSimStep s input
  | .registerRetransmit ctx =>
    { s with sched :=
        schedulerRegister s.sched .tcpRetransmit (some (.tcp ctx .retransmitHandler)) }

/-! ## Steps of one table -/

/-- What a function of TCP sees of the simulator. -/
def TcpSim.env (s : TcpSim) (ipOk : Bool) : IpEnv := { now := some s.sched.now, ipOk := ipOk }

/-- A step of the table of host `h`. -/
def TcpSim.tcp (s : TcpSim) (h : HostRef) (ipOk : Bool) (input : TcpInput) : TcpSim :=
  s.commit h (tcpStep (s.table h) (s.env ipOk, input), tcpStepOut (s.table h) (s.env ipOk, input))

/-- The events on the queue, as far as their order does not matter. -/
theorem foldl_schedule_perm (h : HostRef) (es : List TcpEvent) :
    ∀ sched : Scheduler SimCallback SimPayload,
      (es.foldl (fun sched e => schedulerSchedule sched (TcpEvent.onHost h e)) sched).eq.Perm
        (es.map (TcpEvent.onHost h) ++ sched.eq) := by
  induction es with
  | nil => exact fun sched => List.Perm.refl _
  | cons e es ih =>
    intro sched
    have hpush := (eventQueuePush_perm sched.eq (TcpEvent.onHost h e)).append_left
      (es.map (TcpEvent.onHost h))
    exact ((ih _).trans hpush).trans List.perm_middle

theorem foldl_schedule_same (h : HostRef) (es : List TcpEvent) :
    ∀ sched : Scheduler SimCallback SimPayload,
      let sched' := es.foldl (fun sched e => schedulerSchedule sched (TcpEvent.onHost h e)) sched
      sched'.now = sched.now ∧ sched'.handlers = sched.handlers := by
  induction es with
  | nil => exact fun sched => ⟨rfl, rfl⟩
  | cons e es ih => exact fun sched => ih _

section
variable {s : TcpSim} {h : HostRef} {ipOk : Bool} {input : TcpInput}

theorem TcpSim.tcp_events : (s.tcp h ipOk input).sched.eq.Perm
    ((tcpStepOut (s.table h) (s.env ipOk, input)).events.map (TcpEvent.onHost h) ++ s.sched.eq) :=
  foldl_schedule_perm h _ s.sched

@[simp] theorem TcpSim.tcp_now : (s.tcp h ipOk input).sched.now = s.sched.now :=
  (foldl_schedule_same h _ s.sched).1

@[simp] theorem TcpSim.tcp_handlers : (s.tcp h ipOk input).sched.handlers = s.sched.handlers :=
  (foldl_schedule_same h _ s.sched).2

theorem TcpSim.tcp_table : (s.tcp h ipOk input).table h = tcpStep (s.table h) (s.env ipOk, input) :=
  Function.update_self ..

theorem TcpSim.tcp_table_of_ne {h' : HostRef} (hne : h' ≠ h) :
    (s.tcp h ipOk input).table h' = s.table h' := Function.update_of_ne hne ..

theorem TcpSim.tcp_queueOk (Q : ∀ h, TableQueueOk (s.table h)) :
    ∀ h', TableQueueOk ((s.tcp h ipOk input).table h') := by
  intro h'
  by_cases hh : h' = h
  · subst hh
    rw [TcpSim.tcp_table]
    exact (Q h').step _
  · rw [TcpSim.tcp_table_of_ne hh]
    exact Q h'

end

theorem tcpTimerStep_call (s : TcpSim) (h : HostRef) (c : TcpCall) (ipOk : Bool) :
    tcpTimerStep s (.sim (.call h c ipOk)) = s.tcp h ipOk (.call c) := by
  unfold tcpTimerStep tcpSimStep TcpSim.tcp tcpStep tcpStepOut TcpSim.env
  rfl

/-! ## Steps of the scheduler -/

/-- The simulation with the scheduler that a callback finds. -/
def TcpSim.popped (s : TcpSim) (sched : Scheduler SimCallback SimPayload) : TcpSim :=
  { s with sched := sched }

/-- What the popped event does: a handler of TCP runs for its TCB, or TCP is not concerned. -/
inductive EventRun (s : TcpSim) (ipOk : Bool) (e : Event SimCallback SimPayload)
    (sched : Scheduler SimCallback SimPayload) : TcpSim → Prop
  | retransmit {ctx h : HostRef} {i : TcbIndex}
      (hrun : schedulerDispatch s.sched e = some (.tcp ctx .retransmitHandler))
      (hdata : e.payload = .tcb h i) :
      EventRun s ipOk e sched ((s.popped sched).tcp h ipOk (.retransmit i))
  | timeWait {ctx h : HostRef} {i : TcbIndex}
      (hrun : schedulerDispatch s.sched e = some (.tcp ctx .timeWaitHandler))
      (hdata : e.payload = .tcb h i) :
      EventRun s ipOk e sched ((s.popped sched).tcp h ipOk (.timeWait i))
  | other (hother : ∀ ctx timer h i, schedulerDispatch s.sched e = some (.tcp ctx timer) →
      e.payload ≠ .tcb h i) : EventRun s ipOk e sched (s.popped sched)

theorem runStep_cases (s : TcpSim) (ipOk : Bool) :
    schedulerStep s.sched = none ∧ s.runStep ipOk = s ∨
      ∃ e sched, schedulerStep s.sched = some (e, sched) ∧
        EventRun s ipOk e sched (s.runStep ipOk) := by
  unfold TcpSim.runStep
  split
  · rename_i hnone
    exact .inl ⟨hnone, rfl⟩
  · rename_i e sched hstep
    refine .inr ⟨e, sched, hstep, ?_⟩
    have hother : ∀ {fn : AppRef}, schedulerDispatch s.sched e = some (.other fn) →
        ∀ ctx timer h i, schedulerDispatch s.sched e = some (.tcp ctx timer) →
          e.payload ≠ .tcb h i := by
      intro fn hfn ctx timer h i hrun
      rw [hfn] at hrun
      cases hrun
    unfold TcpSim.runCallback
    split
    · rename_i hrun
      split
      · rename_i h i hdata
        exact .retransmit hrun hdata
      · rename_i hdata
        refine .other fun _ _ h i _ hdata' => ?_
        rw [hdata] at hdata'
        cases hdata'
    · rename_i hrun
      split
      · rename_i h i hdata
        exact .timeWait hrun hdata
      · rename_i hdata
        refine .other fun _ _ h i _ hdata' => ?_
        rw [hdata] at hdata'
        cases hdata'
    · rename_i fn hrun
      exact .other (hother hrun)
    · rename_i hrun
      refine .other fun _ _ _ _ hrun' => ?_
      rw [hrun] at hrun'
      cases hrun'

end FrameRunner
