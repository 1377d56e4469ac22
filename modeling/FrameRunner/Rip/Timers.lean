import FrameRunner.Engine.Periodic
import FrameRunner.Rip.Aging
import FrameRunner.Rip.Update

/-!
# RIP on the scheduler (`protocols/rip.c`)

`RipSim` is a router with RIP and the simulator's scheduler, with everything that can reach the
two: responses with any bytes, the timers, events of other modules, other protocols' routes. The
timers keep each other going for ever (`ripTimers_armed`), so a prefix that nobody mentions any
more leaves the RIB and then the database (`ripRoute_forgotten`).
-/

namespace FrameRunner

open FrameRunner.Lib

def ripUpdateIntervalUs : UInt64 := 30000000

/-- `rip_enable_iface` (lines 71–95). -/
def ripEnableIface (state : RipState) (iface : IfaceRef) : RipState × ℤ :=
  if (Fin.find? fun i => state.ifaces i == some iface).isSome then (state, 0)
  else if state.ifaceCount ≥ ripMaxIfaces then (state, -1)
  else
    match Fin.find? fun i => (state.ifaces i).isNone with
    | some i =>
      ({ state with ifaces := Function.update state.ifaces i (some iface)
                    ifaceCount := state.ifaceCount + 1 }, 0)
    | none => (state, -1)

/-- It is no business of the database. -/
theorem ripEnableIface_frame (state : RipState) (iface : IfaceRef) :
    (ripEnableIface state iface).1.db = state.db ∧
      (ripEnableIface state iface).1.dbCount = state.dbCount := by
  unfold ripEnableIface
  split
  · exact ⟨rfl, rfl⟩
  split
  · exact ⟨rfl, rfl⟩
  split <;> exact ⟨rfl, rfl⟩

/-- The event of the next round of a timer. -/
def ripTimerType : RipTimer → EventType
  | .updateHandler => .ripUpdate
  | .timeoutHandler => .ripTimeout
  | .gcHandler => .ripGc

def ripInterval : RipTimer → UInt64
  | .updateHandler => ripUpdateIntervalUs
  | .timeoutHandler => ripTimeoutUs
  | .gcHandler => ripGcUs

/-- `rip_schedule_periodic` (lines 7–30) with the arguments of `rip_init`. -/
def ripSchedulePeriodic (now : UInt64) (timer : RipTimer) : RipEvent :=
  { type := ripTimerType timer, timestamp := now + ripInterval timer, payload := (),
    handler := some timer }

/-- The events that `rip_init` schedules (lines 51–68). -/
def ripInitEvents (now : UInt64) : List RipEvent :=
  [ripSchedulePeriodic now .updateHandler, ripSchedulePeriodic now .timeoutHandler,
    ripSchedulePeriodic now .gcHandler]

/-- `rip_update_handler` (lines 336–367) and the event that it schedules. A failed send does not
    stop the loop over the interfaces. -/
def ripUpdateHandler (t : Topology) (net : Net) (state : RipState) (now : UInt64) :
    Net × RipEvent :=
  (Slots.forEach ripMaxIfaces (fun net i =>
      match state.ifaces i with
      | some iface => (ripSendUpdate t net state iface).1
      | none => net) net,
    { type := .ripUpdate, timestamp := now + ripUpdateIntervalUs, payload := (),
      handler := some .updateHandler })

/-! ## The system -/

/-- A callback on the scheduler: one of this RIP instance, or another module's. -/
inductive RipCallback where
  | rip (timer : RipTimer)
  | net (fn : NetCallback)
  deriving DecidableEq, Repr

/-- A RIP router and the scheduler. -/
structure RipSim where
  router : RipRouter
  sched : Scheduler RipCallback NetPayload

/-- An event of this instance on the common scheduler. -/
def RipEvent.onSched (e : RipEvent) : Event RipCallback NetPayload where
  type := e.type
  timestamp := e.timestamp
  sequence := e.sequence
  payload := {}
  handler := e.handler.map RipCallback.rip

/-- And one of another module. -/
def NetEvent.onSched (e : NetEvent) : Event RipCallback NetPayload where
  type := e.type
  timestamp := e.timestamp
  sequence := e.sequence
  payload := e.payload
  handler := e.handler.map RipCallback.net

/-- The events that a call has scheduled. -/
def Net.scheduled (net net' : Net) : List NetEvent :=
  (net'.calls.drop net.calls.length).filterMap fun c =>
    match c with
    | .schedule e => some e
    | _ => none

/-- A router after `rip_init` at the beginning of the simulation. -/
def ripSimInit : RipSim where
  router := ripRouterInit
  sched := ((ripInitEvents 0).map RipEvent.onSched).foldl schedulerSchedule schedulerCreate

/-- What happens next. `t` and `net` are what an update sees of the network. -/
inductive RipSimInput where
  | enableIface (iface : IfaceRef)
  /-- UDP hands a payload to `rip_receive` -/
  | receive (iface : IfaceRef) (srcIp : UInt32) (payload : List UInt8)
  /-- another module schedules an event, registers a fallback or calls the route table -/
  | schedule (e : NetEvent)
  | register (type : EventType) (fn : Option NetCallback)
  | route (op : RouteOp)
  /-- `scheduler_step` -/
  | step (t : Topology) (net : Net)

/-- The callback of a popped event. What the callback of another module does is an input of its
    own. -/
def RipSim.runCallback (s : RipSim) (t : Topology) (net : Net) : Option RipCallback → RipSim
  | some (.rip .updateHandler) =>
    let (net', next) := ripUpdateHandler t net s.router.rip s.sched.now
    let frames := (Net.scheduled net net').map NetEvent.onSched
    { s with
      sched := schedulerSchedule (frames.foldl schedulerSchedule s.sched) (RipEvent.onSched next) }
  | some (.rip .timeoutHandler) =>
    let (router, next) := ripTimeoutHandler s.router s.sched.now
    ⟨router, schedulerSchedule s.sched (RipEvent.onSched next)⟩
  | some (.rip .gcHandler) =>
    let (router, next) := ripGcHandler s.router s.sched.now
    ⟨router, schedulerSchedule s.sched (RipEvent.onSched next)⟩
  | some (.net _) => s
  | none => s

/-- The router after an input. -/
def ripSimStep (s : RipSim) : RipSimInput → RipSim
  | .enableIface iface => { s with router := ⟨(ripEnableIface s.router.rip iface).1, s.router.rt⟩ }
  | .receive iface srcIp payload =>
    { s with router := ripReceive s.router iface srcIp payload s.sched.now }
  | .schedule e => { s with sched := schedulerSchedule s.sched (NetEvent.onSched e) }
  | .register type fn =>
    { s with sched := schedulerRegister s.sched type (fn.map RipCallback.net) }
  | .route op => { s with router := ⟨s.router.rip, routeOpStep s.router.rt op⟩ }
  | .step t net =>
    match schedulerStep s.sched with
    | none => s
    | some (e, sched) =>
      RipSim.runCallback { s with sched := sched } t net (schedulerDispatch s.sched e)

/-- Other modules keep to their own protocols. -/
def RipSimOk : RipSimInput → Prop
  | .route op => op.proto ≠ some routeProtoRip
  | _ => True

instance : (input : RipSimInput) → Decidable (RipSimOk input)
  | .route op => inferInstanceAs (Decidable (op.proto ≠ _))
  | .enableIface _ => isTrue trivial
  | .receive .. => isTrue trivial
  | .schedule _ => isTrue trivial
  | .register .. => isTrue trivial
  | .step .. => isTrue trivial

/-- The clock has room for one more round of every timer. -/
def RipSim.InTime (s : RipSim) : Prop := s.sched.now.toNat + ripTimeoutUs.toNat < 2 ^ 64

instance RipSim.InTime.decidable (s : RipSim) : Decidable s.InTime := inferInstanceAs (Decidable (_ < _))

theorem ripInterval_le (timer : RipTimer) : (ripInterval timer).toNat ≤ ripTimeoutUs.toNat := by
  cases timer <;> decide

/-! ## The invariant -/

/-- What holds of a router with RIP; `next` are the times of its timers. -/
structure RipSim.Inv (s : RipSim) (next : RipTimer → UInt64) : Prop where
  timers : ArmedAll s.sched RipCallback.rip ripInterval next
  fallback : ∀ type timer, s.sched.handlers type ≠ some (.rip timer)
  aged : RipAged s.sched.now (next .timeoutHandler).toNat (next .gcHandler).toNat s.router.rip
  covered : RipCovered s.router

theorem RipCallback.rip_injective : Function.Injective RipCallback.rip :=
  fun _ _ h => RipCallback.rip.inj h

/-- Events of other modules are not the timers. -/
theorem NetEvent.onSched_other (e : NetEvent) (timer : RipTimer) :
    (NetEvent.onSched e).handler ≠ some (.rip timer) := by
  unfold NetEvent.onSched
  cases e.handler <;> simp

theorem scheduled_other {net net' : Net} :
    ∀ e ∈ (Net.scheduled net net').map NetEvent.onSched, ∀ timer : RipTimer,
      e.handler ≠ some (.rip timer) := by
  intro e he timer
  obtain ⟨x, -, rfl⟩ := List.mem_map.mp he
  exact NetEvent.onSched_other x timer

theorem ripSim_timers_init :
    ArmedAll ripSimInit.sched RipCallback.rip ripInterval ripInterval where
  sorted := by
    show List.Pairwise _ _
    decide +kernel
  armed timer := by
    cases timer <;> constructor <;> decide +kernel

theorem ripSimInv_init : ripSimInit.Inv ripInterval where
  timers := ripSim_timers_init
  fallback type timer := by
    cases timer <;> cases type <;> decide +kernel
  aged := ripAged_init
  covered := ripCovered_init

section
variable {s : RipSim} {next : RipTimer → UInt64}

/-- A timer is not more than its interval away. -/
theorem RipSim.Inv.next_le (h : s.Inv next) (timer : RipTimer) :
    (next timer).toNat ≤ s.sched.now.toNat + (ripInterval timer).toNat :=
  (h.timers.armed timer).le

theorem RipSim.Inv.receive (h : s.Inv next) (iface : IfaceRef) (srcIp : UInt32)
    (payload : List UInt8) : (ripSimStep s (.receive iface srcIp payload)).Inv next where
  timers := h.timers
  fallback := h.fallback
  aged := h.aged.receive (h.next_le .timeoutHandler) (h.next_le .gcHandler) iface srcIp payload
  covered := h.covered.receive (h.aged.db.mono (le_uint64Max _)) iface srcIp payload

/-- A callback of another module is dispatched. -/
theorem RipSim.Inv.other (h : s.Inv next) {e : Event RipCallback NetPayload}
    {sched : Scheduler RipCallback NetPayload} (hstep : schedulerStep s.sched = some (e, sched))
    (he : ∀ timer, e.handler ≠ some (.rip timer)) : RipSim.Inv ⟨s.router, sched⟩ next where
  timers := h.timers.step hstep he
  fallback := by
    rw [(schedulerStep_eq_some hstep).2.1]
    exact h.fallback
  aged := h.aged.mono (schedulerStep_eq_some hstep).2.2
  covered := h.covered

/-- The dispatched callback is a timer exactly if the event names it: no fallback does. -/
theorem RipSim.Inv.dispatch (h : s.Inv next) (e : Event RipCallback NetPayload) (timer : RipTimer) :
    schedulerDispatch s.sched e = some (.rip timer) ↔ e.handler = some (.rip timer) := by
  unfold schedulerDispatch
  cases e.handler with
  | none => exact iff_of_false (h.fallback _ _) nofun
  | some fn => exact Iff.rfl

/-- A timer is dispatched at its time. -/
theorem RipSim.Inv.fire (h : s.Inv next) {e : Event RipCallback NetPayload}
    {sched : Scheduler RipCallback NetPayload} (hstep : schedulerStep s.sched = some (e, sched))
    {timer : RipTimer} (he : e.handler = some (.rip timer))
    (hwrap : sched.now.toNat + ripTimeoutUs.toNat < 2 ^ 64)
    (frames : List (Event RipCallback NetPayload))
    (hframes : ∀ e ∈ frames, ∀ timer, e.handler ≠ some (.rip timer)) {router : RipRouter}
    (haged : sched.now = next timer → RipAged sched.now (next .timeoutHandler).toNat
      (next .gcHandler).toNat s.router.rip → RipAged sched.now
      (Function.update next timer (sched.now + ripInterval timer) .timeoutHandler).toNat
      (Function.update next timer (sched.now + ripInterval timer) .gcHandler).toNat router.rip)
    (hcovered : RipCovered router) :
    RipSim.Inv ⟨router, schedulerSchedule (frames.foldl schedulerSchedule sched)
      (RipEvent.onSched (ripSchedulePeriodic sched.now timer))⟩
      (Function.update next timer (sched.now + ripInterval timer)) := by
  have hle := ripInterval_le timer
  obtain ⟨hnow, htimers⟩ := h.timers.fire RipCallback.rip_injective hstep he (by omega) hframes
    (RipEvent.onSched (ripSchedulePeriodic sched.now timer)) rfl rfl
  obtain ⟨hclock, hhandlers⟩ := foldl_schedulerSchedule_frame frames sched
  refine ⟨htimers, fun type timer' => ?_, ?_, hcovered⟩
  · rw [schedulerSchedule_handlers, hhandlers, (schedulerStep_eq_some hstep).2.1]
    exact h.fallback type timer'
  · rw [schedulerSchedule_now, hclock]
    exact haged hnow (h.aged.mono (schedulerStep_eq_some hstep).2.2)

/-- One interval after the current time. -/
theorem toNat_now_add {now : UInt64} (hwrap : now.toNat + ripTimeoutUs.toNat < 2 ^ 64)
    (timer : RipTimer) :
    (now + ripInterval timer).toNat = now.toNat + (ripInterval timer).toNat := by
  have := ripInterval_le timer
  rw [UInt64.toNat_add]
  omega

theorem RipSim.Inv.enableIface (h : s.Inv next) (iface : IfaceRef) :
    (ripSimStep s (.enableIface iface)).Inv next := by
  have hdb := ripEnableIface_frame s.router.rip iface
  generalize hrip : (ripEnableIface s.router.rip iface).1 = rip at hdb
  refine ⟨h.timers, h.fallback, ?_, ⟨h.covered.table, ?_⟩⟩
  · show RipAged _ _ _ (ripEnableIface s.router.rip iface).1
    rw [hrip]
    obtain ⟨⟨hcount, hdistinct, hentries⟩, hactive, hused⟩ := h.aged
    rw [← hdb.1] at hcount hdistinct hentries
    unfold ripStamp at hactive hused
    rw [← hdb.1] at hactive hused
    exact ⟨⟨hdb.2.trans hcount, hdistinct, hentries⟩, hactive, hused⟩
  · show ∀ k v, _ → ripActive.lookup (ripEnableIface s.router.rip iface).1.db k = some v
    rw [hrip, hdb.1]
    exact h.covered.covered

/-- A callback takes no time. -/
theorem RipSim.runCallback_now (s : RipSim) (t : Topology) (net : Net) (fn : Option RipCallback) :
    (s.runCallback t net fn).sched.now = s.sched.now := by
  match fn with
  | some (.rip .updateHandler) => exact (foldl_schedulerSchedule_frame _ s.sched).1
  | some (.rip .timeoutHandler) => rfl
  | some (.rip .gcHandler) => rfl
  | some (.net _) => rfl
  | none => rfl

/-- The event loop: the event of a timer, or of another module. -/
theorem RipSim.Inv.dispatched (h : s.Inv next) (t : Topology) (net : Net)
    (htime : (ripSimStep s (.step t net)).InTime) :
    ∃ next, (ripSimStep s (.step t net)).Inv next := by
  unfold ripSimStep at htime ⊢
  dsimp only at htime ⊢
  cases hstep : schedulerStep s.sched with
  | none => exact ⟨next, h⟩
  | some r =>
    obtain ⟨e, sched⟩ := r
    rw [hstep] at htime
    dsimp only at htime ⊢
    cases hfn : schedulerDispatch s.sched e with
    | none =>
      refine ⟨next, h.other hstep fun timer he => ?_⟩
      rw [(h.dispatch e timer).mpr he] at hfn
      cases hfn
    | some fn =>
      rw [hfn] at htime
      cases fn with
      | net fn =>
        refine ⟨next, h.other hstep fun timer he => ?_⟩
        rw [(h.dispatch e timer).mpr he] at hfn
        cases hfn
      | rip timer =>
        have he := (h.dispatch e timer).mp hfn
        have hdb := (h.aged.mono (schedulerStep_eq_some hstep).2.2).db
        have hclock : sched.now.toNat + ripTimeoutUs.toNat < 2 ^ 64 := by
          unfold RipSim.InTime at htime
          rw [RipSim.runCallback_now] at htime
          exact htime
        cases timer with
        | updateHandler =>
          exact ⟨_, h.fire hstep he hclock _ scheduled_other (fun _ haged => haged) h.covered⟩
        | timeoutHandler =>
          refine ⟨_, h.fire hstep he hclock [] (by simp) (fun hnow haged => ?_)
            (h.covered.timeout hdb)⟩
          rw [Function.update_self, Function.update_of_ne (by decide), toNat_now_add hclock]
          rw [← hnow] at haged
          exact haged.timeout
        | gcHandler =>
          refine ⟨_, h.fire hstep he hclock [] (by simp) (fun hnow haged => ?_)
            h.covered.gc⟩
          rw [Function.update_self, Function.update_of_ne (by decide), toNat_now_add hclock]
          rw [← hnow] at haged
          have hother := (h.timers.armed .timeoutHandler).step h.timers.sorted hstep (by rw [he]; simp)
          exact haged.gc hother.now_le

theorem RipSim.Inv.step (h : s.Inv next) {input : RipSimInput} (hok : RipSimOk input)
    (htime : (ripSimStep s input).InTime) : ∃ next, (ripSimStep s input).Inv next := by
  cases input with
  | enableIface iface => exact ⟨next, h.enableIface iface⟩
  | receive iface srcIp payload => exact ⟨next, h.receive iface srcIp payload⟩
  | schedule e =>
    exact ⟨next, h.timers.schedules [NetEvent.onSched e] fun e' he' timer => by
      rw [List.mem_singleton.mp he']
      exact NetEvent.onSched_other e timer, h.fallback, h.aged, h.covered⟩
  | register type fn =>
    refine ⟨next, ⟨h.timers.sorted, fun timer => ?_⟩, fun type' timer => ?_, h.aged, h.covered⟩
    · have := h.timers.armed timer
      exact ⟨this.one, this.now_le, this.le, this.dvd⟩
    · show Function.update s.sched.handlers type (fn.map RipCallback.net) type' ≠ _
      by_cases htype : type' = type
      · rw [htype, Function.update_self]
        cases fn <;> simp
      · rw [Function.update_of_ne htype]
        exact h.fallback type' timer
  | route op => exact ⟨next, h.timers, h.fallback, h.aged, h.covered.other hok⟩
  | step t net => exact h.dispatched t net htime

end

/-! ## Results -/

theorem ripSimStep_now_le (s : RipSim) (input : RipSimInput) :
    s.sched.now ≤ (ripSimStep s input).sched.now := by
  cases input with
  | step t net =>
    unfold ripSimStep
    dsimp only
    split
    · exact UInt64.le_refl _
    · rename_i e sched hstep
      rw [RipSim.runCallback_now]
      exact (schedulerStep_eq_some hstep).2.2
  | _ => exact UInt64.le_refl _

theorem ripSim_now_le (inputs : List RipSimInput) (s : RipSim) :
    s.sched.now ≤ (run ripSimStep s inputs).sched.now :=
  run_related (fun s s' : RipSim => s.sched.now ≤ s'.sched.now) (fun _ => UInt64.le_refl _)
    UInt64.le_trans ripSimStep_now_le inputs s

theorem RipSim.InTime.of_le {s s' : RipSim} (h : s'.InTime) (hle : s.sched.now ≤ s'.sched.now) :
    s.InTime := by
  have hle : s.sched.now.toNat ≤ s'.sched.now.toNat := hle
  unfold RipSim.InTime at h ⊢
  omega

/-- While the clock has room. -/
theorem guarded_inTime {inputs : List RipSimInput} (hok : ∀ i ∈ inputs, RipSimOk i) {s : RipSim}
    (htime : (run ripSimStep s inputs).InTime) :
    Guarded ripSimStep (fun s i => RipSimOk i ∧ (ripSimStep s i).InTime) s inputs := by
  refine Guarded.and inputs s ?_ (guarded_of_final
    (fun s i h => RipSim.InTime.of_le h (ripSimStep_now_le s i)) inputs s htime).2
  induction inputs generalizing s with
  | nil => trivial
  | cons i inputs ih =>
    exact ⟨hok i List.mem_cons_self, ih (fun j hj => hok j (List.mem_cons_of_mem _ hj)) htime⟩

theorem ripSim_inv {inputs : List RipSimInput} (hok : ∀ i ∈ inputs, RipSimOk i) {s : RipSim}
    (htime : (run ripSimStep s inputs).InTime) (h : ∃ next, s.Inv next) :
    ∃ next, (run ripSimStep s inputs).Inv next :=
  guarded_invariant (fun s => ∃ next, RipSim.Inv s next)
    (fun _ _ hi ⟨_, h⟩ => h.step hi.1 hi.2) inputs s (guarded_inTime hok htime) h

/-- Whatever happens, each of the three timers is pending exactly once, at a multiple of its
    interval and at most an interval away. -/
theorem ripTimers_armed (inputs : List RipSimInput) (hok : ∀ i ∈ inputs, RipSimOk i)
    (htime : (run ripSimStep ripSimInit inputs).InTime) (timer : RipTimer) :
    ∃ p, Armed (run ripSimStep ripSimInit inputs).sched (.rip timer) (ripInterval timer) p := by
  obtain ⟨next, h⟩ := ripSim_inv hok htime ⟨_, ripSimInv_init⟩
  exact ⟨next timer, h.timers.armed timer⟩

/-- A response with the network 10.0.0.0/8, and then some rounds of the event loop. -/
def exampleRipRun (rounds : ℕ) : List RipSimInput :=
  [.receive 0 0xC0A80001 (exampleResponse 1)] ++
    List.replicate rounds (.step (exampleRipRouters []) netInit)

theorem ripTimers_armed_exampleRipRun : ∃ p,
    Armed (run ripSimStep ripSimInit (exampleRipRun 24)).sched (.rip .gcHandler) ripGcUs p :=
  ripTimers_armed (exampleRipRun 24) (by decide) (by decide +kernel) .gcHandler

/-- Every RIP route of the RIB is one that was heard of in the last 360 s and as it was heard,
    and nothing is in the database that was not heard of in the last 480 s. -/
theorem ripRoute_recent (inputs : List RipSimInput) (hok : ∀ i ∈ inputs, RipSimOk i)
    (htime : (run ripSimStep ripSimInit inputs).InTime) :
    let s := run ripSimStep ripSimInit inputs
    (∀ k v, protoRoutes s.router.rt routeProtoRip k = some v → ∃ i,
        ripActive.used (s.router.rip.db i) = true ∧ ripActive.key (s.router.rip.db i) = k ∧
        ripActive.val (s.router.rip.db i) = v ∧
        s.sched.now.toNat ≤ (s.router.rip.db i).lastUpdate.toNat + ripActiveAge) ∧
      ∀ i, (s.router.rip.db i).valid = true →
        s.sched.now.toNat ≤ (s.router.rip.db i).lastUpdate.toNat + ripEntryAge := by
  intro s
  obtain ⟨next, h⟩ := ripSim_inv hok htime ⟨_, ripSimInv_init⟩
  refine ⟨fun k v hroute => ?_, fun i hi => h.aged.used.age (h.timers.now_le .gcHandler) hi⟩
  have hlookup := h.covered.covered k v hroute
  obtain ⟨i, hi, hkey, hval⟩ :=
    (ripActive_distinct h.aged.db.distinct).lookup_eq_some_iff.mp hlookup
  exact ⟨i, hi, hkey, hval, h.aged.active.age (h.timers.now_le .timeoutHandler) hi⟩

/-- After 330 s the route is still there. -/
theorem ripRoute_recent_exampleRipRun :
    let s := run ripSimStep ripSimInit (exampleRipRun 14)
    s.sched.now = 330000000 ∧ ∃ i, ripActive.used (s.router.rip.db i) = true ∧
      ripActive.key (s.router.rip.db i) = (0x0A000000, 8) ∧
      s.sched.now.toNat ≤ (s.router.rip.db i).lastUpdate.toNat + ripActiveAge := by
  have hroute : (protoRoutes (run ripSimStep ripSimInit (exampleRipRun 14)).router.rt routeProtoRip
      (0x0A000000, 8)).isSome = true := by decide +kernel
  obtain ⟨v, hv⟩ := Option.isSome_iff_exists.mp hroute
  obtain ⟨i, hi, hkey, -, hage⟩ :=
    (ripRoute_recent (exampleRipRun 14) (by decide) (by decide +kernel)).1 _ v hv
  exact ⟨by decide +kernel, i, hi, hkey, hage⟩

/-- The input is a response with an entry for this prefix. -/
def RipSimInput.Mentions (k : UInt32 × UInt8) : RipSimInput → Prop
  | .receive _ _ payload => ∃ e ∈ ripEntries payload, e.Names k
  | _ => False

theorem RipUnheard.simStep {k : UInt32 × UInt8} {since : ℕ} {s : RipSim}
    (h : RipUnheard k since s.router.rip) {input : RipSimInput} (hquiet : ¬ input.Mentions k) :
    RipUnheard k since (ripSimStep s input).router.rip := by
  cases input with
  | receive iface srcIp payload =>
    exact h.receive iface srcIp (fun e he hn => hquiet ⟨e, he, hn⟩) s.sched.now
  | enableIface iface =>
    have hdb : (ripEnableIface s.router.rip iface).1.db = s.router.rip.db :=
      (ripEnableIface_frame s.router.rip iface).1
    unfold RipUnheard ripStamp at h ⊢
    rw [← hdb] at h
    exact h
  | step t net =>
    unfold ripSimStep
    dsimp only
    split
    · exact h
    · rename_i e sched hstep
      match schedulerDispatch s.sched e with
      | some (.rip .updateHandler) => exact h
      | some (.rip .timeoutHandler) => exact h.scanned (ripTimeoutHandler_scanned s.router sched.now)
      | some (.rip .gcHandler) => exact h.scanned (ripGcHandler_scanned s.router sched.now)
      | some (.net _) => exact h
      | none => exact h
  | schedule _ => exact h
  | register _ _ => exact h
  | route _ => exact h

/-- A prefix that no response mentions any more has left the RIB after 360 s and the database
    after 480 s. -/
theorem ripRoute_forgotten (before after : List RipSimInput)
    (hok : ∀ i ∈ before ++ after, RipSimOk i) (k : UInt32 × UInt8)
    (hquiet : ∀ i ∈ after, ¬ i.Mentions k)
    (htime : (run ripSimStep ripSimInit (before ++ after)).InTime) :
    let since := (run ripSimStep ripSimInit before).sched.now.toNat
    let s := run ripSimStep ripSimInit (before ++ after)
    (since + ripActiveAge < s.sched.now.toNat → protoRoutes s.router.rt routeProtoRip k = none) ∧
      (since + ripEntryAge < s.sched.now.toNat → ∀ i, (s.router.rip.db i).valid = true →
        ((s.router.rip.db i).pfx, (s.router.rip.db i).prefixLen) ≠ k) := by
  intro since s
  obtain ⟨next, h⟩ := ripSim_inv hok htime ⟨_, ripSimInv_init⟩
  rw [run_append] at htime
  obtain ⟨next', h'⟩ := ripSim_inv (fun i hi => hok i (List.mem_append_left _ hi))
    (htime.of_le (ripSim_now_le after _)) ⟨_, ripSimInv_init⟩
  have hunheard : RipUnheard k since s.router.rip := by
    show RipUnheard k since (run ripSimStep ripSimInit (before ++ after)).router.rip
    rw [run_append]
    exact run_invariant_mem (fun s : RipSim => RipUnheard k since s.router.rip)
      (fun s i hi hs => hs.simStep (hquiet i hi)) (h'.aged.db.unheard k)
  refine ⟨fun hlate => ?_, fun hlate i hi hkey => ?_⟩
  · by_contra hsome
    obtain ⟨v, hroute⟩ := Option.ne_none_iff_exists'.mp hsome
    obtain ⟨i, hi, hkey, -⟩ := (ripActive_distinct h.aged.db.distinct).lookup_eq_some_iff.mp
      (h.covered.covered k v hroute)
    have hage : s.sched.now.toNat ≤ ripStamp s.router.rip i + ripActiveAge :=
      h.aged.active.age (h.timers.now_le .timeoutHandler) hi
    have hstamp := hunheard i (ripActive_used hi) hkey
    omega
  · have hage : s.sched.now.toNat ≤ ripStamp s.router.rip i + ripEntryAge :=
      h.aged.used.age (h.timers.now_le .gcHandler) hi
    have hstamp := hunheard i hi hkey
    omega

theorem ripRoute_forgotten_exampleRipRun :
    let s := run ripSimStep ripSimInit (exampleRipRun 24)
    s.sched.now = 540000000 ∧ protoRoutes s.router.rt routeProtoRip (0x0A000000, 8) = none := by
  have hnow : (run ripSimStep ripSimInit (exampleRipRun 24)).sched.now = 540000000 := by
    decide +kernel
  refine ⟨hnow, (ripRoute_forgotten [.receive 0 0xC0A80001 (exampleResponse 1)]
    (List.replicate 24 (.step (exampleRipRouters []) netInit)) (by decide) (0x0A000000, 8)
    (fun i hi => ?_) (by decide +kernel)).1 (by decide +kernel)⟩
  rw [(List.mem_replicate.mp hi).2]
  exact id

end FrameRunner
