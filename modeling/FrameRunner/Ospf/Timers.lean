import FrameRunner.Engine.Periodic
import FrameRunner.Lib.Sweep
import FrameRunner.Ospf.Adjacency
import FrameRunner.Ospf.Sync

/-!
# The OSPF timers and the neighbors (`protocols/ospf.c`)

An OSPF router on the scheduler (`OspfSim`) keeps two timers alive, the one that sends Hellos and
the dead scan. The scan comes every 40 s and takes down what has been silent for 40 s. So a
neighbor that is not DOWN was heard in the last 80 s (`ospfNeighbor_recent`), one that was heard
less than 40 s ago is not DOWN (`ospfNeighbor_alive`), and as long as no SPF run is pending every
OSPF route goes through a neighbor that was heard in the last 80 s (`ospfRoutes_recent`).
-/

namespace FrameRunner

open FrameRunner.Lib

/-- The timers that call themselves; SPF is scheduled when it is needed. -/
inductive OspfPeriodic where
  | hello | dead
  deriving DecidableEq, Repr

def OspfPeriodic.callback : OspfPeriodic → OspfCallback
  | .hello => .ospf .helloTimer
  | .dead => .ospf .deadTimer

def OspfPeriodic.interval : OspfPeriodic → UInt64
  | .hello => ospfHelloIntervalUs
  | .dead => ospfDeadIntervalUs

/-- The event of the next round. -/
def OspfPeriodic.event (now : UInt64) : OspfPeriodic → OspfEvent
  | .hello => { type := .ospfHello, timestamp := now + ospfHelloIntervalUs, payload := (),
                handler := some .helloTimer }
  | .dead => { type := .ospfDead, timestamp := now + ospfDeadIntervalUs, payload := (),
               handler := some .deadTimer }

theorem OspfPeriodic.event_onSched (now : UInt64) (j : OspfPeriodic) :
    (OspfEvent.onSched (j.event now)).handler = some j.callback ∧
      (j.event now).timestamp = now + j.interval := by
  cases j <;> exact ⟨rfl, rfl⟩

theorem OspfPeriodic.callback_injective : Function.Injective OspfPeriodic.callback := by
  intro i j h
  cases i <;> cases j <;> first | rfl | cases h

/-- The neighbor is in use and not DOWN. -/
def OspfNeighbor.Alive (x : OspfNeighbor) : Prop := x.valid = true ∧ x.state ≠ .down

instance (x : OspfNeighbor) : Decidable x.Alive := inferInstanceAs (Decidable (_ ∧ _))

/-- `last_hello_ts` of a slot. -/
def ospfStamp (state : OspfState) (i : Fin ospfMaxNeighbors) : ℕ :=
  (state.neighbors i).lastHelloTs.toNat

/-- How long ago a neighbor that is not DOWN can have been heard. -/
def ospfHeardAge : ℕ := 2 * ospfDeadIntervalUs.toNat

/-- What holds of an OSPF router; `next` are the times of its timers. -/
structure OspfSim.Inv (s : OspfSim) (next : OspfPeriodic → UInt64) : Prop where
  timers : ArmedAll s.sched OspfPeriodic.callback OspfPeriodic.interval next
  fallback : ∀ type timer, s.sched.handlers type ≠ some (.ospf timer)
  tables : ∃ lastHello, OspfTablesOk ⟨s.state, lastHello⟩
  heard : SweptBy (fun i => (s.state.neighbors i).Alive) (ospfStamp s.state) ospfHeardAge
    (next .dead).toNat
  past : ∀ i, (s.state.neighbors i).valid = true → ospfStamp s.state i ≤ s.sched.now.toNat

/-! ## What a call does -/

/-- A packet schedules SPF runs only. -/
theorem ospfReceive_events (env : OspfEnv) (state : OspfState) (iface : IfaceRef)
    (pkt : IpDatagram) :
    ∀ e ∈ (ospfReceive env state iface pkt).2.2.events, e.handler = some .spfTimer := by
  have hlsu : ∀ e ∈ (ospfReceiveLsu env state iface pkt.data).2.2.events,
      e.handler = some .spfTimer := by
    unfold ospfReceiveLsu
    dsimp only
    split
    · simp
    split
    · simp
    split
    · simp
    split
    · simp
    · dsimp only
      split
      · simp [ospfScheduleEvent]
      · simp
  obtain ⟨r, hr⟩ : ∃ r, ospfReceive env state iface pkt = r := ⟨_, rfl⟩
  rw [hr]
  unfold ospfReceive at hr
  -- the eight tests of the header
  iterate 8
    rcases ite_eq_iff.mp hr with ⟨-, hr⟩ | ⟨-, hr⟩
    · rw [← hr]
      simp
  dsimp only at hr
  split at hr
  · rw [← hr]
    simp
  split at hr
  · rw [← hr]
    exact hlsu
  split at hr
  · rw [← hr]
    simp
  · rw [← hr]
    simp

/-- The neighbors after a call at the time `now`: as they were, or taken down, or heard. -/
structure NbrsAged (now : ℕ) (state state' : OspfState) : Prop where
  neighbor : ∀ i, state'.neighbors i = state.neighbors i ∨
    state'.neighbors i = { state.neighbors i with state := .down } ∨
    ospfStamp state' i = now

theorem NbrsKept.aged {state state' : OspfState} (h : NbrsKept state state') (now : ℕ) :
    NbrsAged now state state' :=
  ⟨fun i => (h.neighbor i).imp id .inl⟩

theorem ospfReceive_aged (env : OspfEnv) (state : OspfState) (iface : IfaceRef)
    (pkt : IpDatagram) : NbrsAged env.now.toNat state (ospfReceive env state iface pkt).1 := by
  cases haccepts : ospfAcceptsHello env state iface pkt with
  | false => exact (ospfReceive_kept haccepts).aged _
  | true =>
    obtain ⟨i, -, -, he⟩ := ospfReceive_of_accepts haccepts
    rw [he]
    refine ⟨fun j => ?_⟩
    by_cases hji : j = i
    · subst hji
      refine .inr (.inr ?_)
      simp only [ospfStamp, Function.update_self]
      rfl
    · exact .inl (Function.update_of_ne hji _ _)

section
variable {s : OspfSim} {next : OspfPeriodic → UInt64}

theorem OspfPeriodic.interval_le (j : OspfPeriodic) :
    (OspfPeriodic.interval j).toNat ≤ ospfDeadIntervalUs.toNat := by
  cases j <;> decide

/-- Between two dead scans. -/
theorem OspfSim.Inv.aged (h : s.Inv next) {state : OspfState}
    (hstep : NbrsAged s.sched.now.toNat s.state state) :
    SweptBy (fun i => (state.neighbors i).Alive) (ospfStamp state) ospfHeardAge
      (next .dead).toNat ∧
    ∀ i, (state.neighbors i).valid = true → ospfStamp state i ≤ s.sched.now.toNat := by
  have hnext : (next .dead).toNat ≤ s.sched.now.toNat + ospfHeardAge := by
    have := (h.timers.armed .dead).le
    have hinterval : (OspfPeriodic.interval .dead).toNat ≤ ospfHeardAge := by decide
    omega
  refine ⟨h.heard.keep hnext fun i hi => ?_, fun i hi => ?_⟩
  · rcases hstep.neighbor i with he | he | he
    · unfold ospfStamp
      rw [he] at hi ⊢
      exact .inl ⟨hi, rfl⟩
    · rw [he] at hi
      exact absurd rfl hi.2
    · exact .inr he
  · rcases hstep.neighbor i with he | he | he
    · unfold ospfStamp
      rw [he] at hi ⊢
      exact h.past i hi
    · unfold ospfStamp
      rw [he] at hi ⊢
      exact h.past i hi
    · exact he.le

/-- The events of a call are scheduled. -/
theorem OspfSim.schedule_eq (s : OspfSim) (events : List OspfEvent) : s.schedule events =
    { s with sched := (events.map OspfEvent.onSched).foldl schedulerSchedule s.sched } := by
  unfold OspfSim.schedule
  rw [List.foldl_map]

theorem OspfSim.schedule_now (s : OspfSim) (events : List OspfEvent) :
    (s.schedule events).sched.now = s.sched.now := by
  rw [OspfSim.schedule_eq]
  exact (foldl_schedulerSchedule_frame _ s.sched).1

theorem spf_other {events : List OspfEvent} (h : ∀ e ∈ events, e.handler = some .spfTimer) :
    ∀ e ∈ events.map OspfEvent.onSched, ∀ j : OspfPeriodic, e.handler ≠ some j.callback := by
  intro e he j
  obtain ⟨x, hx, rfl⟩ := List.mem_map.mp he
  unfold OspfEvent.onSched
  rw [h x hx]
  cases j <;> simp [OspfPeriodic.callback]

theorem OspfSim.Inv.schedule (h : s.Inv next) {events : List OspfEvent}
    (hevents : ∀ e ∈ events, e.handler = some .spfTimer) : (s.schedule events).Inv next := by
  rw [OspfSim.schedule_eq]
  obtain ⟨hnow, hhandlers⟩ := foldl_schedulerSchedule_frame (events.map OspfEvent.onSched) s.sched
  refine ⟨h.timers.schedules _ (spf_other hevents), ?_, h.tables, h.heard, ?_⟩
  · rw [hhandlers]
    exact h.fallback
  · rw [hnow]
    exact h.past

/-- The table does not matter. -/
theorem OspfSim.Inv.table (h : s.Inv next) (tbl : RouteTable) :
    OspfSim.Inv { s with tbl := tbl } next :=
  ⟨h.timers, h.fallback, h.tables, h.heard, h.past⟩

/-- A call of OSPF between the scans, with what it schedules. -/
theorem OspfSim.Inv.call (h : s.Inv next) {state : OspfState}
    (hstep : NbrsAged s.sched.now.toNat s.state state)
    (htables : ∃ lastHello, OspfTablesOk ⟨state, lastHello⟩) :
    OspfSim.Inv { s with state := state } next :=
  ⟨h.timers, h.fallback, htables, (h.aged hstep).1, (h.aged hstep).2⟩

theorem OspfSim.Inv.dispatch (h : s.Inv next) (e : Event OspfCallback (Option AppRef))
    (timer : OspfTimer) :
    schedulerDispatch s.sched e = some (.ospf timer) ↔ e.handler = some (.ospf timer) := by
  unfold schedulerDispatch
  cases e.handler with
  | none => exact iff_of_false (h.fallback _ _) nofun
  | some fn => exact Iff.rfl

/-- An event that is not a timer's is dispatched. -/
theorem OspfSim.Inv.other (h : s.Inv next) {e : Event OspfCallback (Option AppRef)}
    {sched : Scheduler OspfCallback (Option AppRef)}
    (hstep : schedulerStep s.sched = some (e, sched))
    (he : ∀ j : OspfPeriodic, e.handler ≠ some j.callback) :
    OspfSim.Inv { s with sched := sched } next := by
  obtain ⟨-, hhandlers, hnow⟩ := schedulerStep_eq_some hstep
  refine ⟨h.timers.step hstep he, ?_, h.tables, h.heard, fun i hi => ?_⟩
  · rw [hhandlers]
    exact h.fallback
  · have hpast := h.past i hi
    have hnow : s.sched.now.toNat ≤ sched.now.toNat := hnow
    exact hpast.trans hnow

/-- One of the two timers is dispatched, at its time. -/
theorem OspfSim.Inv.fire (h : s.Inv next) {e : Event OspfCallback (Option AppRef)}
    {sched : Scheduler OspfCallback (Option AppRef)}
    (hstep : schedulerStep s.sched = some (e, sched)) {j : OspfPeriodic}
    (he : e.handler = some j.callback)
    (hwrap : sched.now.toNat + ospfDeadIntervalUs.toNat < 2 ^ 64) (events : List OspfEvent)
    (hevents : ∀ e ∈ events, e.handler = some .spfTimer) (state : OspfState)
    (htables : ∃ lastHello, OspfTablesOk ⟨state, lastHello⟩)
    (hheard : sched.now = next j → SweptBy (fun i => (state.neighbors i).Alive) (ospfStamp state)
      ospfHeardAge (Function.update next j (sched.now + j.interval) .dead).toNat)
    (hpast : ∀ i, (state.neighbors i).valid = true → ospfStamp state i ≤ sched.now.toNat) :
    OspfSim.Inv (OspfSim.schedule { s with state := state, sched := sched }
      (events ++ [j.event sched.now])) (Function.update next j (sched.now + j.interval)) := by
  have hle := j.interval_le
  obtain ⟨he', htime⟩ := OspfPeriodic.event_onSched sched.now j
  obtain ⟨hnow, htimers⟩ := h.timers.fire OspfPeriodic.callback_injective hstep he (by omega)
    (spf_other hevents) _ he' htime
  obtain ⟨hclock, hhandlers⟩ :=
    foldl_schedulerSchedule_frame ((events ++ [j.event sched.now]).map OspfEvent.onSched) sched
  rw [OspfSim.schedule_eq]
  refine ⟨?_, ?_, htables, hheard hnow, ?_⟩
  · rw [List.map_append, List.foldl_append]
    exact htimers
  · rw [hhandlers, (schedulerStep_eq_some hstep).2.1]
    exact h.fallback
  · rw [hclock]
    exact hpast

/-- What the scan leaves alive was heard less than 40 s ago. -/
theorem ospfDeadTimer_alive {env : OspfEnv} {state : OspfState} {i : Fin ospfMaxNeighbors}
    (h : ((ospfDeadTimer env state).1.neighbors i).Alive) :
    env.now.toNat ≤ ospfStamp (ospfDeadTimer env state).1 i + ospfDeadIntervalUs.toNat := by
  rcases ospfDeadTimer_neighbor env state i with he | he
  · have hold := @ospfDeadTimer_old env state i
    unfold ospfStamp
    rw [he] at h hold ⊢
    by_contra hlt
    exact h.2 (hold h.1 (by omega))
  · rw [he] at h
    exact absurd rfl h.2

/-- The clock has room for one more round of both timers. -/
def OspfSim.InTime (s : OspfSim) : Prop := s.sched.now.toNat + ospfDeadIntervalUs.toNat < 2 ^ 64

instance OspfSim.InTime.decidable (s : OspfSim) : Decidable s.InTime := inferInstanceAs (Decidable (_ < _))

/-- A callback takes no time. -/
theorem OspfSim.runCallback_now (s : OspfSim) (env : OspfEnv) (fn : Option OspfCallback) :
    (s.runCallback env fn).sched.now = s.sched.now := by
  match fn with
  | some (.ospf .helloTimer) => exact s.schedule_now _
  | some (.ospf .deadTimer) => exact OspfSim.schedule_now _ _
  | some (.ospf .spfTimer) => rfl
  | some (.other _) => rfl
  | none => rfl

theorem OspfSim.Inv.dispatched (h : s.Inv next) (env : OspfEnv)
    (htime : (ospfSimStep s (.step env)).InTime) :
    ∃ next, (ospfSimStep s (.step env)).Inv next := by
  unfold ospfSimStep at htime ⊢
  dsimp only at htime ⊢
  cases hstep : schedulerStep s.sched with
  | none => exact ⟨next, h⟩
  | some r =>
    obtain ⟨e, sched⟩ := r
    rw [hstep] at htime
    dsimp only at htime ⊢
    have hclock : sched.now.toNat + ospfDeadIntervalUs.toNat < 2 ^ 64 := by
      unfold OspfSim.InTime at htime
      rw [OspfSim.runCallback_now] at htime
      exact htime
    have hnow : s.sched.now.toNat ≤ sched.now.toNat := (schedulerStep_eq_some hstep).2.2
    have hdispatch := h.dispatch e
    match hfn : schedulerDispatch s.sched e with
    | none =>
      refine ⟨next, h.other hstep fun j he => ?_⟩
      cases j <;> exact absurd (hfn.symm.trans ((hdispatch _).mpr he)) (by simp)
    | some (.other fn) =>
      refine ⟨next, h.other hstep fun j he => ?_⟩
      cases j <;> exact absurd (hfn.symm.trans ((hdispatch _).mpr he)) (by simp)
    | some (.ospf .spfTimer) =>
      refine ⟨next, (h.other hstep fun j he => ?_).table _⟩
      cases j <;> exact absurd (hfn.symm.trans ((hdispatch _).mpr he)) (by simp)
    | some (.ospf .helloTimer) =>
      have he : e.handler = some OspfPeriodic.hello.callback := (hdispatch _).mp hfn
      refine ⟨_, h.fire hstep he hclock [] (by simp) _ h.tables (fun _ => ?_)
        fun i hi => (h.past i hi).trans hnow⟩
      rw [Function.update_of_ne (by decide)]
      exact h.heard
    | some (.ospf .deadTimer) =>
      have he : e.handler = some OspfPeriodic.dead.callback := (hdispatch _).mp hfn
      obtain ⟨lastHello, htables⟩ := h.tables
      refine ⟨_, h.fire hstep he hclock _ ?_ (ospfDeadTimer { env with now := sched.now } s.state).1
        ⟨lastHello, htables.deadTimer _⟩ (fun _ => ?_) fun i hi => ?_⟩
      · split
        · simp [ospfScheduleEvent]
        · simp
      · have hnext : (sched.now + OspfPeriodic.dead.interval).toNat =
            sched.now.toNat + ospfDeadIntervalUs.toNat :=
          (UInt64.toNat_add ..).trans (Nat.mod_eq_of_lt hclock)
        rw [Function.update_self, hnext]
        exact SweptBy.sweep _ (fun i hi => ospfDeadTimer_alive hi) (by decide)
      · have hold := h.past i
        rcases ospfDeadTimer_neighbor { env with now := sched.now } s.state i with he | he
        · unfold ospfStamp at hold ⊢
          rw [he] at hi ⊢
          exact (hold hi).trans hnow
        · unfold ospfStamp at hold ⊢
          rw [he] at hi ⊢
          exact (hold hi).trans hnow

theorem OspfSim.Inv.step (h : s.Inv next) (input : OspfSimInput)
    (htime : (ospfSimStep s input).InTime) : ∃ next, (ospfSimStep s input).Inv next := by
  obtain ⟨lastHello, htables⟩ := h.tables
  cases input with
  | enableIface iface cost =>
    refine ⟨next, h.call ((@ospfStep_kept ⟨s.state, lastHello⟩
      (.enableIface iface cost) trivial).aged _) ⟨lastHello, htables.enableIface iface cost⟩⟩
  | receive env iface pkt =>
    have htables' := htables.step (.receive { env with now := s.sched.now } iface pkt)
    have hcall := h.call (ospfReceive_aged { env with now := s.sched.now } s.state iface pkt)
      ⟨_, htables'⟩
    have hevents := ospfReceive_events { env with now := s.sched.now } s.state iface pkt
    exact ⟨next, hcall.schedule hevents⟩
  | schedule type timestamp data handler =>
    refine ⟨next, h.timers.schedules [_] fun e he j => ?_, h.fallback, h.tables, h.heard,
      h.past⟩
    rw [List.mem_singleton.mp he]
    cases j <;> cases handler <;> simp [OspfPeriodic.callback]
  | register type fn =>
    refine ⟨next, ⟨h.timers.sorted, fun j => ?_⟩, fun type' timer => ?_, h.tables, h.heard, h.past⟩
    · have := h.timers.armed j
      exact ⟨this.one, this.now_le, this.le, this.dvd⟩
    · show Function.update s.sched.handlers type (some (.other fn)) type' ≠ _
      by_cases htype : type' = type
      · rw [htype, Function.update_self]
        simp
      · rw [Function.update_of_ne htype]
        exact h.fallback type' timer
  | route op => exact ⟨next, h.table _⟩
  | step env => exact h.dispatched env htime

end

/-! ## Runs -/

theorem ospfSim_timers_init (routerId : UInt32) :
    ArmedAll (ospfSimInit routerId).sched OspfPeriodic.callback OspfPeriodic.interval
      OspfPeriodic.interval := by
  have hsched : (ospfSimInit routerId).sched = (ospfSimInit 0).sched := rfl
  rw [hsched]
  refine ⟨?_, fun j => ?_⟩
  · show List.Pairwise _ _
    decide +kernel
  · cases j <;> constructor <;> decide +kernel

theorem ospfSimInv_init (routerId : UInt32) :
    (ospfSimInit routerId).Inv OspfPeriodic.interval where
  timers := ospfSim_timers_init routerId
  fallback _ _ := Option.some_ne_none _ ∘ Eq.symm
  tables := ⟨_, ospfTablesOk_start routerId⟩
  heard _ hi := absurd hi.1 Bool.false_ne_true
  past _ hi := absurd hi Bool.false_ne_true

theorem ospfSimStep_now_le (s : OspfSim) (input : OspfSimInput) :
    s.sched.now ≤ (ospfSimStep s input).sched.now := by
  cases input with
  | receive env iface pkt =>
    unfold ospfSimStep
    dsimp only
    rw [OspfSim.schedule_now]
    exact UInt64.le_refl _
  | step env =>
    unfold ospfSimStep
    dsimp only
    split
    · exact UInt64.le_refl _
    · rename_i e sched hstep
      rw [OspfSim.runCallback_now]
      exact (schedulerStep_eq_some hstep).2.2
  | _ => exact UInt64.le_refl _

theorem OspfSim.InTime.of_le {s s' : OspfSim} (h : s'.InTime) (hle : s.sched.now ≤ s'.sched.now) :
    s.InTime := by
  have hle : s.sched.now.toNat ≤ s'.sched.now.toNat := hle
  unfold OspfSim.InTime at h ⊢
  omega

theorem ospfSim_inv {routerId : UInt32} {inputs : List OspfSimInput}
    (htime : (run ospfSimStep (ospfSimInit routerId) inputs).InTime) :
    ∃ next, (run ospfSimStep (ospfSimInit routerId) inputs).Inv next := by
  refine guarded_invariant (fun s => ∃ next, OspfSim.Inv s next)
    (fun s i hi ⟨_, h⟩ => h.step i hi) inputs _ ?_ ⟨_, ospfSimInv_init routerId⟩
  exact (guarded_of_final (Q := OspfSim.InTime)
    (fun s i h => h.of_le (ospfSimStep_now_le s i)) inputs _ htime).2

/-! ## Results -/

/-- Whatever happens, both timers are pending exactly once, at a multiple of their interval and
    at most an interval away. -/
theorem ospfTimers_armed (routerId : UInt32) (inputs : List OspfSimInput)
    (htime : (run ospfSimStep (ospfSimInit routerId) inputs).InTime) (j : OspfPeriodic) :
    ∃ p, Armed (run ospfSimStep (ospfSimInit routerId) inputs).sched j.callback j.interval p := by
  obtain ⟨next, h⟩ := ospfSim_inv htime
  exact ⟨next j, h.timers.armed j⟩

theorem ospfTimers_armed_helloLastRun : ∃ p,
    Armed (run ospfSimStep (ospfSimInit 1) helloLastRun).sched (.ospf .deadTimer)
      ospfDeadIntervalUs p :=
  ospfTimers_armed 1 helloLastRun (by decide +kernel) .dead

/-- No neighbor was heard in the future, and one that is not DOWN was heard in the last 80 s. -/
theorem ospfNeighbor_recent (routerId : UInt32) (inputs : List OspfSimInput)
    (htime : (run ospfSimStep (ospfSimInit routerId) inputs).InTime) :
    let s := run ospfSimStep (ospfSimInit routerId) inputs
    ∀ i, ((s.state.neighbors i).valid = true →
        (s.state.neighbors i).lastHelloTs.toNat ≤ s.sched.now.toNat) ∧
      ((s.state.neighbors i).Alive →
        s.sched.now.toNat ≤ (s.state.neighbors i).lastHelloTs.toNat + ospfHeardAge) := by
  intro s i
  obtain ⟨next, h⟩ := ospfSim_inv htime
  exact ⟨h.past i, fun hi => h.heard.age (h.timers.now_le .dead) hi⟩

theorem ospfNeighbor_recent_helloLastRun :
    let s := run ospfSimStep (ospfSimInit 1) helloLastRun
    (s.state.neighbors 0).lastHelloTs.toNat ≤ s.sched.now.toNat ∧
      s.sched.now.toNat ≤ (s.state.neighbors 0).lastHelloTs.toNat + ospfHeardAge := by
  have halive : ((run ospfSimStep (ospfSimInit 1) helloLastRun).state.neighbors 0).Alive := by
    decide +kernel
  have h := ospfNeighbor_recent 1 helloLastRun (by decide +kernel) 0
  exact ⟨h.1 halive.1, h.2 halive⟩

/-- The neighbor is alive, and was heard at `since` or later. -/
structure NbrAlive (s : OspfSim) (i : Fin ospfMaxNeighbors) (routerId : UInt32) (since : ℕ) :
    Prop where
  alive : (s.state.neighbors i).Alive
  routerId : (s.state.neighbors i).routerId = routerId
  since : since ≤ ospfStamp s.state i

section
variable {s : OspfSim} {i : Fin ospfMaxNeighbors} {routerId : UInt32} {since : ℕ}

theorem NbrAlive.congr {s' : OspfSim} (h : NbrAlive s i routerId since)
    (he : s'.state.neighbors i = s.state.neighbors i) : NbrAlive s' i routerId since := by
  obtain ⟨halive, hid, hsince⟩ := h
  unfold ospfStamp at hsince
  rw [← he] at halive hid hsince
  exact ⟨halive, hid, hsince⟩

/-- A packet leaves the record alone, or is a Hello of the same router. -/
theorem NbrAlive.receive (h : NbrAlive s i routerId since) (hs : ∃ next, s.Inv next)
    (env : OspfEnv) (iface : IfaceRef) (pkt : IpDatagram) :
    NbrAlive (ospfSimStep s (.receive env iface pkt)) i routerId since := by
  obtain ⟨next, hinv⟩ := hs
  obtain ⟨lastHello, htables⟩ := hinv.tables
  unfold ospfSimStep
  dsimp only
  cases haccepts : ospfAcceptsHello { env with now := s.sched.now } s.state iface pkt with
  | false =>
    obtain ⟨parsedLsas, he⟩ := ospfReceive_of_not_accepts haccepts
    obtain ⟨lsdb, n, hframe⟩ := foldl_ospfApplyLsa_frame parsedLsas (s.state, [])
    refine h.congr ?_
    show (ospfReceive _ s.state iface pkt).1.neighbors i = _
    rw [he, hframe]
  | true =>
    obtain ⟨j, hslot, -, he⟩ := ospfReceive_of_accepts haccepts
    have hold := (Keyed.slotFor_eq_some htables.neighborIds hslot).2
    have hneighbors := congrArg OspfState.neighbors he
    dsimp only at hneighbors
    by_cases hij : i = j
    · subst hij
      have hid : (s.state.neighbors i).routerId = getU32 pkt.data 4 := hold h.alive.1
      have hrecord := congrFun hneighbors i
      rw [Function.update_self] at hrecord
      refine ⟨?_, ?_, ?_⟩
      · show ((ospfReceive _ s.state iface pkt).1.neighbors i).Alive
        rw [hrecord]
        refine ⟨rfl, ?_⟩
        unfold ospfHelloNeighbor
        dsimp only
        split <;> simp
      · show ((ospfReceive _ s.state iface pkt).1.neighbors i).routerId = _
        rw [hrecord, ← h.routerId, hid]
        rfl
      · show since ≤ ((ospfReceive _ s.state iface pkt).1.neighbors i).lastHelloTs.toNat
        rw [hrecord]
        exact h.since.trans (hinv.past i h.alive.1)
    · refine h.congr ?_
      show (ospfReceive _ s.state iface pkt).1.neighbors i = _
      rw [hneighbors, Function.update_of_ne hij]

/-- Less than 40 s after `since` nothing takes the neighbor down. -/
theorem NbrAlive.step (h : NbrAlive s i routerId since) (hs : ∃ next, s.Inv next)
    (input : OspfSimInput)
    (hyoung : (ospfSimStep s input).sched.now.toNat < since + ospfDeadIntervalUs.toNat) :
    NbrAlive (ospfSimStep s input) i routerId since := by
  cases input with
  | receive env iface pkt => exact h.receive hs env iface pkt
  | enableIface iface cost =>
    obtain ⟨ifaces, n, he⟩ := ospfEnableIface_frame s.state iface cost
    refine h.congr ?_
    show (ospfEnableIface s.state iface cost).1.neighbors i = _
    rw [he]
  | schedule _ _ _ _ => exact h.congr rfl
  | register _ _ => exact h.congr rfl
  | route _ => exact h.congr rfl
  | step env =>
    unfold ospfSimStep at hyoung ⊢
    dsimp only at hyoung ⊢
    cases hstep : schedulerStep s.sched with
    | none => exact h
    | some r =>
      obtain ⟨e, sched⟩ := r
      rw [hstep] at hyoung
      dsimp only at hyoung ⊢
      rw [OspfSim.runCallback_now] at hyoung
      match schedulerDispatch s.sched e with
      | none => exact h.congr rfl
      | some (.other _) => exact h.congr rfl
      | some (.ospf .helloTimer) => exact h.congr rfl
      | some (.ospf .spfTimer) => exact h.congr rfl
      | some (.ospf .deadTimer) =>
        refine h.congr (ospfDeadTimer_young s.state i ?_)
        exact hyoung.trans_le (Nat.add_le_add_right h.since _)

end

/-- As long as the last Hello of a neighbor is less than 40 s old, the neighbor keeps its record
    and is not DOWN, whatever happens. -/
theorem ospfNeighbor_alive (routerId : UInt32) (before after : List OspfSimInput)
    (htime : (run ospfSimStep (ospfSimInit routerId) (before ++ after)).InTime)
    (i : Fin ospfMaxNeighbors) :
    let s := run ospfSimStep (ospfSimInit routerId) before
    let s' := run ospfSimStep (ospfSimInit routerId) (before ++ after)
    (s.state.neighbors i).Alive →
    s'.sched.now.toNat < (s.state.neighbors i).lastHelloTs.toNat + ospfDeadIntervalUs.toNat →
      (s'.state.neighbors i).Alive ∧
        (s'.state.neighbors i).routerId = (s.state.neighbors i).routerId ∧
        (s.state.neighbors i).lastHelloTs.toNat ≤ (s'.state.neighbors i).lastHelloTs.toNat := by
  intro s s' halive hyoung
  have hrun : s' = run ospfSimStep s after := run_append ..
  rw [hrun] at hyoung
  rw [run_append] at htime
  have hend := (guarded_of_final (Q := OspfSim.InTime)
    (fun s i h => h.of_le (ospfSimStep_now_le s i)) after s htime)
  have hsafe := (guarded_of_final
    (Q := fun s' : OspfSim => s'.sched.now.toNat < ospfStamp s.state i + ospfDeadIntervalUs.toNat)
    (fun s i h => lt_of_le_of_lt (ospfSimStep_now_le s i) h) after s hyoung).2
  obtain ⟨-, h⟩ := guarded_invariant (fun s' : OspfSim => (∃ next, s'.Inv next) ∧
      NbrAlive s' i (s.state.neighbors i).routerId (ospfStamp s.state i))
    (fun s' input hi h => ⟨h.1.elim fun _ hinv => hinv.step input hi.1, h.2.step h.1 input hi.2⟩)
    after s (Guarded.and after s hend.2 hsafe) ⟨ospfSim_inv hend.1, halive, rfl, le_rfl⟩
  rw [hrun]
  exact ⟨h.alive, h.routerId, h.since⟩

theorem ospfNeighbor_alive_helloLastRun :
    let s' := run ospfSimStep (ospfSimInit 1) (helloLastRun ++ [.step {}, .step {}, .step {}])
    s'.sched.now = 30000000 ∧ (s'.state.neighbors 0).Alive :=
  ⟨by decide +kernel, (ospfNeighbor_alive 1 helloLastRun [.step {}, .step {}, .step {}]
    (by decide +kernel) 0 (by decide +kernel) (by decide +kernel)).1⟩

/-- As long as no SPF run is pending, every OSPF route goes through a neighbor that was heard in
    the last 80 s. -/
theorem ospfRoutes_recent (routerId : UInt32) (inputs : List OspfSimInput)
    (htime : (run ospfSimStep (ospfSimInit routerId) inputs).InTime)
    (hsafe : Guarded ospfSimStep (fun s i => OspfSimOk s i ∧ OspfHelloSafe s i)
      (ospfSimInit routerId) inputs)
    (hidle : ¬ (run ospfSimStep (ospfSimInit routerId) inputs).SpfPending) :
    let s := run ospfSimStep (ospfSimInit routerId) inputs
    ∀ r ∈ ospfRoutes s.tbl, ∃ i, (s.state.neighbors i).Alive ∧
      (s.state.neighbors i).ipAddr = r.nextHop ∧ (s.state.neighbors i).iface = r.iface ∧
      r.iface.isSome ∧ s.sched.now.toNat ≤ ospfStamp s.state i + ospfHeardAge := by
  intro s r hr
  obtain ⟨next, h⟩ := ospfSim_inv htime
  have hsync : s.Synced := guarded_invariant OspfSim.Synced
    (fun _ _ hs h => Synced.step h hs.1 hs.2) inputs (ospfSimInit routerId) hsafe
    (synced_init routerId)
  rw [hsync.resolve_left hidle] at hr
  obtain ⟨_, _, _, _, -, -, -, -, -, -, hhop, -⟩ := spfRouteSet_hop hr
  obtain ⟨i, hlive, hi⟩ := Option.map_eq_some_iff.mp hhop
  have halive := (Fin.find?_eq_some_iff.mp hlive).1
  simp only [Bool.and_eq_true, bne_iff_ne] at halive
  obtain ⟨hip, hiface⟩ := Prod.mk.inj hi
  have halive' : (s.state.neighbors i).Alive := ⟨halive.1.1.1, halive.1.2⟩
  exact ⟨i, halive', hip, hiface, hiface ▸ halive.2, h.heard.age (h.timers.now_le .dead) halive'⟩

theorem ospfRoutes_recent_helloFirstRun :
    let s := run ospfSimStep (ospfSimInit 1) helloFirstRun
    (ospfRoutes s.tbl).Nonempty ∧ ∀ r ∈ ospfRoutes s.tbl, ∃ i, (s.state.neighbors i).Alive ∧
      (s.state.neighbors i).ipAddr = r.nextHop := by
  refine ⟨⟨_, 0, by constructor <;> decide +kernel, rfl⟩, fun r hr => ?_⟩
  obtain ⟨i, halive, hip, -⟩ := ospfRoutes_recent 1 helloFirstRun (by decide +kernel)
    (by decide +kernel) (by decide +kernel) r hr
  exact ⟨i, halive, hip⟩

end FrameRunner
