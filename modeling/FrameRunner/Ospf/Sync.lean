import FrameRunner.Engine.Scheduler
import FrameRunner.Lib.Run
import FrameRunner.Ospf.Receive

/-!
# Are the OSPF routes up to date?

`OspfSim` is an OSPF router on the scheduler, with everything that can reach it:
packets with any bytes, its own timers, other modules' events and other
protocols' routes. `ospfRoutes_upToDate` says when the OSPF routes of the table
are the ones that SPF would compute: in every run in which a Hello that may
change a hop arrives while an SPF event is pending. Hello reception is the one
call that changes the inputs of SPF without scheduling it, and
`not_ospfRoutes_upToDate` is a run in which the routes stay behind.
-/

namespace FrameRunner

open FrameRunner.Lib

/-! ## Routes of other protocols -/

theorem ospfRoutes_congr {t t' : RouteTable}
    (h : ∀ i, (t'.rib i).core = (t.rib i).core ∨
      ¬ (t.rib i).IsOspf ∧ ¬ (t'.rib i).IsOspf) : ospfRoutes t' = ospfRoutes t := by
  ext r
  constructor
  · rintro ⟨i, hi, rfl⟩
    rcases h i with hc | ⟨-, hno⟩
    · exact ⟨i, (RouteRibEntry.isOspf_congr hc).mp hi, (RouteRibEntry.route_congr hc).symm⟩
    · exact absurd hi hno
  · rintro ⟨i, hi, rfl⟩
    rcases h i with hc | ⟨hno, -⟩
    · exact ⟨i, (RouteRibEntry.isOspf_congr hc).mpr hi, RouteRibEntry.route_congr hc⟩
    · exact absurd hi hno

/-- Another protocol does not touch the OSPF routes. -/
theorem ospfRoutes_routeOpStep (t : RouteTable) {op : RouteOp}
    (hop : op.proto ≠ some routeProtoOspf) : ospfRoutes (routeOpStep t op) = ospfRoutes t := by
  cases op with
  | add pfx prefixLen nextHop iface metric proto =>
    have hproto : proto ≠ routeProtoOspf := fun h => hop (congrArg some h)
    by_cases hres : (routeTableAdd t pfx prefixLen nextHop iface metric proto).2 = 0
    · obtain ⟨i, hi, hother, hold⟩ := routeTableAdd_effect hres
      refine ospfRoutes_congr fun j => ?_
      by_cases hj : j = i
      · subst hj
        exact .inr ⟨fun h => hproto ((hold h.1).1.symm.trans h.2),
          fun h => hproto (hi.proto.symm.trans h.2)⟩
      · exact .inl (hother j hj)
    · rcases routeTableAdd_cases t pfx prefixLen nextHop iface metric proto with
        ⟨he, -⟩ | ⟨-, -, -, ⟨i, -, he⟩ | ⟨i, -, -, he⟩⟩
      · rw [routeOpStep, he]
      · exact absurd (by rw [he]) hres
      · exact absurd (by rw [he]) hres
  | delete pfx prefixLen proto =>
    have hproto : proto ≠ routeProtoOspf := fun h => hop (congrArg some h)
    rcases routeTableDelete_cases t pfx prefixLen proto with ⟨he, -⟩ | ⟨i, -, -, hfind, he⟩
    · rw [routeOpStep, he]
    · rw [routeOpStep, he]
      obtain ⟨-, -, -, hr⟩ := ribFind_eq_some hfind
      refine ospfRoutes_congr fun j => ?_
      have hc := core_routeTableRebuildFib (clearSlots t (fun j => j == i) (t.ribCount - 1)) j
      by_cases hj : j = i
      · subst hj
        refine .inr ⟨fun h => hproto (hr.symm.trans h.2), fun h => ?_⟩
        have hv := (RouteRibEntry.isOspf_congr hc).mp h
        simp [clearSlots, RouteRibEntry.clear, RouteRibEntry.IsOspf] at hv
      · refine .inl (hc.trans ?_)
        simp [clearSlots, hj]
  | flushProto proto =>
    have hproto : proto ≠ routeProtoOspf := fun h => hop (congrArg some h)
    by_cases h0 : proto = 0
    · subst h0
      rfl
    · refine ospfRoutes_congr fun j => ?_
      have heff := routeTableFlushProto_effect t h0 j
      split_ifs at heff with h
      · refine .inr ⟨fun ho => hproto (h.2.symm.trans ho.2), fun ho => ?_⟩
        simp [routeOpStep, heff, RouteRibEntry.IsOspf] at ho
      · exact .inl heff
  | rebuildFib => exact ospfRoutes_congr fun j => .inl (core_routeTableRebuildFib t j)

/-! ## The system -/

/-- A callback on the scheduler: one of this OSPF instance, or another one. -/
inductive OspfCallback where
  | ospf (timer : OspfTimer)
  | other (fn : AppRef)
  deriving DecidableEq, Repr

/-- An OSPF router and the scheduler. Events of OSPF carry no data. -/
structure OspfSim where
  state : OspfState
  tbl : RouteTable
  sched : Scheduler OspfCallback (Option AppRef)

/-- An event of this instance on the common scheduler. -/
def OspfEvent.onSched (e : OspfEvent) : Event OspfCallback (Option AppRef) where
  type := e.type
  timestamp := e.timestamp
  sequence := e.sequence
  payload := none
  handler := e.handler.map OspfCallback.ospf

/-- The call's events are scheduled. -/
def OspfSim.schedule (s : OspfSim) (events : List OspfEvent) : OspfSim :=
  { s with
    sched := events.foldl (fun sched e => schedulerSchedule sched (OspfEvent.onSched e)) s.sched }

/-- A router after `ospf_init`. -/
def ospfSimInit (routerId : UInt32) : OspfSim :=
  OspfSim.schedule { state := ospfInit routerId, tbl := routeTableInit, sched := schedulerCreate }
    (ospfInitEvents {})

/-- What happens next. `env` holds what the call sees of the interfaces and of
    the IP layer; its time is the scheduler's. -/
inductive OspfSimInput where
  | enableIface (iface : IfaceRef) (cost : UInt16)
  /-- the IP layer hands a packet to `ospf_receive` -/
  | receive (env : OspfEnv) (iface : IfaceRef) (pkt : IpDatagram)
  /-- another module schedules an event, registers a fallback or calls the route table -/
  | schedule (type : EventType) (timestamp : UInt64) (data : AppRef) (handler : Option AppRef)
  | register (type : EventType) (fn : AppRef)
  | route (op : RouteOp)
  /-- `scheduler_step` -/
  | step (env : OspfEnv)

/-- The callback of a popped event. -/
def OspfSim.runCallback (s : OspfSim) (env : OspfEnv) : Option OspfCallback → OspfSim
  | some (.ospf .helloTimer) => s.schedule (ospfHelloTimer env s.state).events
  | some (.ospf .deadTimer) =>
    let (state, out) := ospfDeadTimer env s.state
    OspfSim.schedule { s with state := state } out.events
  | some (.ospf .spfTimer) => { s with tbl := (ospfRunSpf s.state s.tbl).1 }
  | some (.other _) => s
  | none => s

/-- The router after an input. -/
def ospfSimStep (s : OspfSim) : OspfSimInput → OspfSim
  | .enableIface iface cost => { s with state := (ospfEnableIface s.state iface cost).1 }
  | .receive env iface pkt =>
    let (state, _, out) := ospfReceive { env with now := s.sched.now } s.state iface pkt
    OspfSim.schedule { s with state := state } out.events
  | .schedule type timestamp data handler =>
    let e : Event OspfCallback (Option AppRef) :=
      { type := type, timestamp := timestamp, payload := some data,
        handler := handler.map OspfCallback.other }
    { s with sched := schedulerSchedule s.sched e }
  | .register type fn => { s with sched := schedulerRegister s.sched type (some (.other fn)) }
  | .route op => { s with tbl := routeOpStep s.tbl op }
  | .step env =>
    match schedulerStep s.sched with
    | none => s
    | some (e, sched) =>
      OspfSim.runCallback { s with sched := sched } { env with now := sched.now }
        (schedulerDispatch s.sched e)

/-- An `EVT_OSPF_SPF` event of the router is pending. -/
def OspfSim.SpfPending (s : OspfSim) : Prop :=
  ∃ e ∈ s.sched.eq, e.type = .ospfSpf ∧ e.handler = some (.ospf .spfTimer)

instance (s : OspfSim) : Decidable s.SpfPending := by
  unfold OspfSim.SpfPending
  infer_instance

/-! ## Conditions on a step -/

/-- Other modules keep to their own protocols, and SPF can insert its routes. -/
def OspfSimOk (s : OspfSim) : OspfSimInput → Prop
  | .route op => op.proto ≠ some routeProtoOspf
  | .step _ => ∀ e sched, schedulerStep s.sched = some (e, sched) →
    schedulerDispatch s.sched e = some (.ospf .spfTimer) → (ospfRunSpf s.state s.tbl).2 = 0
  | _ => True

/-- An accepted Hello arrives while SPF is pending, or from a router to which the
    LSDB has no link, or from a live neighbor that is where it was. -/
def OspfHelloSafe (s : OspfSim) : OspfSimInput → Prop
  | .receive env iface pkt =>
    OspfHelloAccepted { env with now := s.sched.now } s.state iface pkt →
      s.SpfPending ∨ ospfLinksTo s.state (getU32 pkt.data 4) = false ∨
        ospfHelloKeeps s.state iface pkt = true
  | _ => True

instance (s : OspfSim) : (input : OspfSimInput) → Decidable (OspfSimOk s input)
  | .route op => inferInstanceAs (Decidable (op.proto ≠ _))
  | .step _ =>
    match h : schedulerStep s.sched with
    | none => isTrue fun _ _ hs => nomatch h.symm.trans hs
    | some (e, sched) =>
      decidable_of_iff (schedulerDispatch s.sched e = some (.ospf .spfTimer) →
          (ospfRunSpf s.state s.tbl).2 = 0)
        ⟨fun hr e' sched' hs hd => hr (by cases h.symm.trans hs; exact hd), fun hr => hr e sched h⟩
  | .enableIface .. => isTrue trivial
  | .receive .. => isTrue trivial
  | .schedule .. => isTrue trivial
  | .register .. => isTrue trivial

instance (s : OspfSim) : (input : OspfSimInput) → Decidable (OspfHelloSafe s input)
  | .receive .. => inferInstanceAs (Decidable (_ → _ ∨ _ ∨ _))
  | .enableIface .. => isTrue trivial
  | .schedule .. => isTrue trivial
  | .register .. => isTrue trivial
  | .route .. => isTrue trivial
  | .step .. => isTrue trivial

/-! ## The invariant -/

/-- SPF is pending, or the routes are those that it would compute. -/
def OspfSim.Synced (s : OspfSim) : Prop :=
  s.SpfPending ∨ ospfRoutes s.tbl = spfRouteSet s.state

/-- Scheduling keeps what is queued and adds the call's events. -/
theorem mem_foldl_schedulerSchedule {events : List OspfEvent}
    {e : Event OspfCallback (Option AppRef)} (sched : Scheduler OspfCallback (Option AppRef)) :
    e ∈ (events.foldl (fun sched e => schedulerSchedule sched (OspfEvent.onSched e)) sched).eq ↔
      e ∈ sched.eq ∨ ∃ x ∈ events, e = OspfEvent.onSched x := by
  induction events generalizing sched with
  | nil => simp
  | cons x events ih =>
    rw [List.foldl_cons, ih]
    simp only [mem_schedulerSchedule, List.mem_cons, exists_eq_or_imp]
    tauto

theorem SpfPending.schedule {s : OspfSim} (h : s.SpfPending) (events : List OspfEvent) :
    (s.schedule events).SpfPending := by
  obtain ⟨e, he, ht⟩ := h
  exact ⟨e, (mem_foldl_schedulerSchedule _).mpr (.inl he), ht⟩

theorem spfPending_of_isSpf {s : OspfSim} {events : List OspfEvent}
    (h : ∃ e ∈ events, Event.IsSpf e) : (s.schedule events).SpfPending := by
  obtain ⟨e, he, ht, hh⟩ := h
  exact ⟨_, (mem_foldl_schedulerSchedule _).mpr (.inr ⟨e, he, rfl⟩), ht,
    congrArg (Option.map OspfCallback.ospf) hh⟩

theorem Synced.schedule {s : OspfSim} (h : s.Synced) (events : List OspfEvent) :
    (s.schedule events).Synced :=
  h.imp (fun hp => SpfPending.schedule hp events) id

theorem synced_init (routerId : UInt32) : (ospfSimInit routerId).Synced := by
  refine Synced.schedule (.inr ?_) _
  have hroutes : ospfRoutes routeTableInit = ∅ := by
    refine Set.eq_empty_of_forall_notMem ?_
    rintro r ⟨i, hi, -⟩
    exact absurd hi.1 (by simp [routeTableInit])
  have hset : spfRouteSet (ospfInit routerId) = ∅ := by
    refine Set.eq_empty_of_forall_notMem fun r hr => ?_
    obtain ⟨_, _, _, v, -, -, -, -, -, hlink, -⟩ := spfRouteSet_hop hr
    simp [ospfLinksTo, ospfInit, OspfLsaEntry.isRouterLsa] at hlink
  rw [hroutes, hset]

theorem Synced.enableIface {s : OspfSim} (h : s.Synced) (iface : IfaceRef) (cost : UInt16) :
    OspfSim.Synced { s with state := (ospfEnableIface s.state iface cost).1 } := by
  have hsame : (ospfEnableIface s.state iface cost).1.routerId = s.state.routerId ∧
      (ospfEnableIface s.state iface cost).1.lsdb = s.state.lsdb ∧
      (ospfEnableIface s.state iface cost).1.neighbors = s.state.neighbors := by
    unfold ospfEnableIface
    split
    · exact ⟨rfl, rfl, rfl⟩
    split
    · exact ⟨rfl, rfl, rfl⟩
    split
    · exact ⟨rfl, rfl, rfl⟩
    split <;> exact ⟨rfl, rfl, rfl⟩
  refine h.imp id fun hr => hr.trans (spfRouteSet_congr hsame.1 hsame.2.1 fun x _ => ?_).symm
  simp only [ospfHop, ospfLiveNeighbor, hsame.2.2]

/-- A packet: it changes nothing, schedules SPF, or is a Hello that moves no hop. -/
theorem Synced.receive {s : OspfSim} (h : s.Synced) {env : OspfEnv} {iface : IfaceRef}
    {pkt : IpDatagram} (hsafe : OspfHelloSafe s (.receive env iface pkt)) :
    (ospfSimStep s (.receive env iface pkt)).Synced := by
  rcases hr : ospfReceive { env with now := s.sched.now } s.state iface pkt with ⟨state, res, out⟩
  simp only [ospfSimStep, hr]
  rcases ospfReceive_cases hr with rfl | hspf | ⟨haccepted, i, E, hslot⟩
  · exact Synced.schedule h _
  · exact .inl (spfPending_of_isSpf hspf)
  rcases hsafe haccepted with hp | hsafe
  · exact .inl (SpfPending.schedule (s := { s with state := state }) hp _)
  rcases h with hp | hsync
  · exact .inl (SpfPending.schedule (s := { s with state := state }) hp _)
  refine Synced.schedule (s := { s with state := state }) (.inr (hsync.trans ?_)) _
  refine (E.routes (hsafe.imp id fun hkeep => ?_)).symm
  unfold ospfHelloKeeps at hkeep
  rcases hslot with hslot | ⟨hnone, -⟩
  · have hi := (Fin.find?_eq_some_iff.mp hslot).1
    simp only [hslot, Bool.and_eq_true, bne_iff_ne, beq_iff_eq, decide_eq_true_eq] at hkeep hi
    exact ⟨hi.1, hi.2, hkeep.1.1, hkeep.1.2, hkeep.2⟩
  · rw [hnone] at hkeep
    exact absurd hkeep Bool.false_ne_true

/-- The dead scan changes nothing or schedules SPF. -/
theorem ospfDeadTimer_cases (env : OspfEnv) (state : OspfState) :
    (ospfDeadTimer env state).1 = state ∨
      ∃ e ∈ (ospfDeadTimer env state).2.events, Event.IsSpf e := by
  unfold ospfDeadTimer
  dsimp only
  cases hfind : Fin.find? fun i => ospfNeighborDead env.now (state.neighbors i) with
  | none =>
    have hnone := Fin.find?_eq_none_iff.mp hfind
    refine .inl ?_
    simp only [hnone, Bool.false_eq_true, if_false]
  | some i => exact .inr ⟨_, List.mem_append_left _ (List.mem_singleton_self _), rfl, rfl⟩

theorem Synced.runCallback {s : OspfSim} (h : s.Synced) (env : OspfEnv) {fn : Option OspfCallback}
    (hspf : fn ≠ some (.ospf .spfTimer)) : (s.runCallback env fn).Synced := by
  match fn with
  | some (.ospf .helloTimer) => exact Synced.schedule h _
  | some (.ospf .deadTimer) =>
    rcases ospfDeadTimer_cases env s.state with hsame | hspf'
    · simp only [OspfSim.runCallback, hsame]
      exact Synced.schedule h _
    · exact .inl (spfPending_of_isSpf hspf')
  | some (.ospf .spfTimer) => exact absurd rfl hspf
  | some (.other _) => exact h
  | none => exact h

theorem Synced.step {s : OspfSim} (h : s.Synced) {input : OspfSimInput}
    (hok : OspfSimOk s input) (hsafe : OspfHelloSafe s input) : (ospfSimStep s input).Synced := by
  cases input with
  | enableIface iface cost => exact Synced.enableIface h iface cost
  | receive env iface pkt => exact Synced.receive h hsafe
  | schedule type timestamp data handler =>
    refine h.imp ?_ id
    rintro ⟨e, he, ht⟩
    exact ⟨e, mem_schedulerSchedule.mpr (.inr he), ht⟩
  | register type fn => exact h
  | route op => exact h.imp id fun hr => (ospfRoutes_routeOpStep s.tbl hok).trans hr
  | step env =>
    simp only [ospfSimStep]
    split
    · exact h
    rename_i e sched hstep
    obtain ⟨heq, -, -⟩ := schedulerStep_eq_some hstep
    by_cases hspf : schedulerDispatch s.sched e = some (.ospf .spfTimer)
    · rw [hspf]
      exact .inr (ospfRunSpf_routeSet (hok e sched hstep hspf))
    · refine Synced.runCallback (s := { s with sched := sched }) (h.imp ?_ id) _ hspf
      rintro ⟨e', he', ht, hh⟩
      rw [heq] at he'
      rcases List.mem_cons.mp he' with rfl | he'
      · exact absurd (by rw [schedulerDispatch, hh]) hspf
      · exact ⟨e', he', ht, hh⟩

/-! ## Results -/

/-- With no SPF event pending, the OSPF routes are those that SPF computes from
    the LSDB and the neighbors as they are. -/
theorem ospfRoutes_upToDate (routerId : UInt32) (inputs : List OspfSimInput)
    (hsafe : Guarded ospfSimStep (fun s i => OspfSimOk s i ∧ OspfHelloSafe s i)
      (ospfSimInit routerId) inputs)
    (hidle : ¬ (run ospfSimStep (ospfSimInit routerId) inputs).SpfPending) :
    ospfRoutes (run ospfSimStep (ospfSimInit routerId) inputs).tbl =
      spfRouteSet (run ospfSimStep (ospfSimInit routerId) inputs).state :=
  (guarded_invariant OspfSim.Synced (fun _ _ hs h => Synced.step h hs.1 hs.2) inputs
    (ospfSimInit routerId) hsafe (synced_init routerId)).resolve_left hidle

/-- An LSU with the LSA of router 1, which has a link to router 2. -/
def exampleLsu : IpDatagram :=
  ospfDatagram { ipAddr := fun _ => 0x0A000002 } 0 (ospfLsuBytes (ospfInit 2)
    { lsaId := 1, advRouter := 1, seqNum := 1, lsaType := ospfLsaTypeRouter,
      links := fun _ => { linkId := 2, type := ospfLinkP2p, metric := 10 },
      linkCount := ⟨1, one_lt_ospfMaxLsaLinks⟩ })

/-- A Hello of router 2, which has heard no one. -/
def exampleHello : IpDatagram :=
  ospfDatagram { ipAddr := fun _ => 0x0A000002 } 0 (ospfHelloBytes {} (ospfInit 2) 0)

/-- The Hello arrives while SPF is pending. -/
def helloFirstRun : List OspfSimInput :=
  [.receive {} 0 exampleLsu, .receive {} 0 exampleHello, .step {}]

theorem ospfRoutes_upToDate_helloFirstRun :
    ((run ospfSimStep (ospfSimInit 1) helloFirstRun).tbl.rib 0).pfx = 2 ∧
      ospfRoutes (run ospfSimStep (ospfSimInit 1) helloFirstRun).tbl =
        spfRouteSet (run ospfSimStep (ospfSimInit 1) helloFirstRun).state :=
  ⟨by decide +kernel, ospfRoutes_upToDate 1 helloFirstRun (by decide +kernel) (by decide +kernel)⟩

/-- The Hello arrives after SPF has run: the table has no route to router 2. -/
def helloLastRun : List OspfSimInput :=
  [.receive {} 0 exampleLsu, .step {}, .receive {} 0 exampleHello]

theorem not_ospfRoutes_upToDate :
    ¬ ∀ (routerId : UInt32) (inputs : List OspfSimInput),
      Guarded ospfSimStep OspfSimOk (ospfSimInit routerId) inputs →
      ¬ (run ospfSimStep (ospfSimInit routerId) inputs).SpfPending →
      ospfRoutes (run ospfSimStep (ospfSimInit routerId) inputs).tbl =
        spfRouteSet (run ospfSimStep (ospfSimInit routerId) inputs).state := by
  intro h
  have hsync := h 1 helloLastRun (by decide +kernel) (by decide +kernel)
  have hrun : (ospfRunSpf (run ospfSimStep (ospfSimInit 1) helloLastRun).state
      (run ospfSimStep (ospfSimInit 1) helloLastRun).tbl).2 = 0 := by decide +kernel
  have hroute : ((ospfRunSpf (run ospfSimStep (ospfSimInit 1) helloLastRun).state
      (run ospfSimStep (ospfSimInit 1) helloLastRun).tbl).1.rib 0).IsOspf := by
    constructor <;> decide +kernel
  have hnone : ∀ i, ((run ospfSimStep (ospfSimInit 1) helloLastRun).tbl.rib i).valid = false := by
    decide +kernel
  generalize run ospfSimStep (ospfSimInit 1) helloLastRun = s at hsync hrun hroute hnone
  rw [← ospfRunSpf_routeSet hrun] at hsync
  have hmem : ((ospfRunSpf s.state s.tbl).1.rib 0).route ∈ ospfRoutes s.tbl := by
    rw [hsync]
    exact ⟨0, hroute, rfl⟩
  obtain ⟨i, hi, -⟩ := hmem
  exact absurd hi.1 (by simp [hnone i])

end FrameRunner
