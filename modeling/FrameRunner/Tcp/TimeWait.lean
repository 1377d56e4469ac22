import FrameRunner.Tcp.SimSteps

/-!
# `TCP_TIME_WAIT` and its event (`protocols/tcp.c`)

The event that ends `TCP_TIME_WAIT` carries a slot and cannot be taken back. It is created
with the transition into the state, and nothing else leads out of the state than the event.

Main result:
* `tcpTimeWait_events`: in every reachable state a slot in `TCP_TIME_WAIT` has one such
  event pending, of the time at which it entered, and no other slot has any.
-/

namespace FrameRunner

open FrameRunner.Lib

/-! ## The events -/

/-- The slot is in use, in `TCP_TIME_WAIT`. -/
def Tcb.InTimeWait (tcb : Tcb) : Prop := tcb.valid = true ∧ tcb.state = .timeWait

instance (tcb : Tcb) : Decidable tcb.InTimeWait := inferInstanceAs (Decidable (_ ∧ _))

/-- The handler is `tcp_time_wait_handler`, with any table. -/
def SimCallback.isTimeWait : SimCallback → Bool
  | .tcp _ .timeWaitHandler => true
  | _ => false

/-- The event has the handler `tcp_time_wait_handler`, and the TCB as its data. -/
def IsTimeWaitEvent (h : HostRef) (i : TcbIndex) (e : Event SimCallback SimPayload) : Bool :=
  e.handler.any SimCallback.isTimeWait && e.payload = .tcb h i

/-- The pending events of this kind. -/
def TcpSim.timeWaitEvents (s : TcpSim) (h : HostRef) (i : TcbIndex) :
    List (Event SimCallback SimPayload) :=
  s.sched.eq.filter (IsTimeWaitEvent h i)

/-- The slot enters `TCP_TIME_WAIT` between two states. -/
def Enters (s s' : TcpSim) (h : HostRef) (i : TcbIndex) : Prop :=
  ¬ ((s.table h).tcbs i).InTimeWait ∧ ((s'.table h).tcbs i).InTimeWait

instance (s s' : TcpSim) (h : HostRef) (i : TcbIndex) : Decidable (Enters s s' h i) :=
  inferInstanceAs (Decidable (_ ∧ _))

/-- The times of entry after a step. -/
def enteredAfter (s s' : TcpSim) (entered : HostRef → TcbIndex → UInt64) (h : HostRef)
    (i : TcbIndex) : UInt64 :=
  if Enters s s' h i then s'.sched.now else entered h i

/-- The simulation, and when the TCB in each slot entered `TCP_TIME_WAIT`. -/
abbrev TimeWaitState := TcpSim × (HostRef → TcbIndex → UInt64)

def timeWaitStep : TimeWaitState → TcpTimerInput → TimeWaitState :=
  observe tcpTimerStep fun entered s input => enteredAfter s (tcpTimerStep s input) entered

def timeWaitInit : TimeWaitState := (tcpSimInit, fun _ _ => 0)

/-! ## One step of a table -/

section
variable {env : IpEnv} {i : TcbIndex} {tcb tcb' : Tcb} {input : TcpInput} {out : TcpOut}

theorem not_inTimeWait {state : TcpState} (hst : tcb.state = state) (hne : state ≠ .timeWait) :
    ¬ tcb.InTimeWait := fun h => hne (hst.symm.trans h.2)

theorem not_inTimeWait_of_free (hfree : tcb.valid = false) : ¬ tcb.InTimeWait :=
  fun h => absurd (h.1.symm.trans hfree) (by decide)

theorem filter_tcpTimer (tcpCtx : Bool) :
    (tcpTimer env tcpCtx i).filter (fun e => e.handler = some .timeWaitHandler) = [] := by
  unfold tcpTimer
  cases env.now with
  | none => rfl
  | some t => cases tcpCtx <;> rfl

theorem filter_tcpScheduleTimeWait :
    (tcpScheduleTimeWait env i).filter (fun e => e.handler = some .timeWaitHandler) =
      tcpScheduleTimeWait env i := by
  unfold tcpScheduleTimeWait
  cases env.now <;> rfl

/-- A segment releases the slot or keeps it in use. -/
theorem TcbReceived.valid {hdr : TcpFields} (hr : TcbReceived tcb hdr tcb') :
    tcb' = {} ∨ tcb'.valid = tcb.valid := by
  cases hr with
  | acked => exact .inr (tcpEstablishedAck_valid _ _)
  | data => exact .inr (tcpEstablishedAck_valid _ _)
  | fin => exact .inr (tcpEstablishedAck_valid _ _)
  | finWait1 =>
    split
    · exact .inr rfl
    · exact .inr rfl
  | released => exact .inl rfl
  | _ => exact .inr rfl

/-- Late segments are dropped. -/
theorem TcbReceived.timeWait {hdr : TcpFields} (hr : TcbReceived tcb hdr tcb')
    (hst : tcb.state = .timeWait) : tcb' = tcb := by
  cases hr with
  | ignored => rfl
  | synSent hst' | synReceived hst' | acked hst' | data hst' | fin hst' | finWait1 hst'
  | finWait2 hst' | closing hst' | lastAck hst' | released hst' =>
    exact absurd (hst.symm.trans hst') (by decide)

/-- The way into `TCP_TIME_WAIT` creates the event, and nothing else does. -/
theorem TcbStepped.timeWaitEvents (h : TcbStepped env i tcb input tcb' out) :
    out.events.filter (fun e => e.handler = some .timeWaitHandler) =
      if ¬ tcb.InTimeWait ∧ tcb'.InTimeWait then tcpScheduleTimeWait env i else [] := by
  have hnot : ∀ {state}, tcb'.state = state → state ≠ .timeWait →
      ¬ (¬ tcb.InTimeWait ∧ tcb'.InTimeWait) := fun hst hne hin => not_inTimeWait hst hne hin.2
  cases h with
  | listened _ hst => exact (if_neg (hnot hst (by decide))).symm
  | connected _ hopen =>
    rw [if_neg (hnot hopen.state (by decide))]
    exact filter_tcpTimer false
  | child _ hopen => exact (if_neg (hnot hopen.state (by decide))).symm
  | sent _ hst' =>
    rw [if_neg (hnot hst' (by decide))]
    exact filter_tcpTimer false
  | closed hst =>
    rcases hst with ⟨-, hst'⟩ | ⟨-, hst'⟩
    · rw [if_neg (hnot hst' (by decide))]
      exact filter_tcpTimer false
    · rw [if_neg (hnot hst' (by decide))]
      exact filter_tcpTimer false
  | received hv _ hr hout =>
    have hiff : ¬ tcb.InTimeWait ∧ tcb'.InTimeWait ↔
        tcb.state ≠ .timeWait ∧ tcb'.state = .timeWait := by
      constructor
      · exact fun h => ⟨fun hst => h.1 ⟨hv, hst⟩, h.2.2⟩
      · rintro ⟨hst, hst'⟩
        refine ⟨not_inTimeWait rfl hst, ?_, hst'⟩
        rcases hr.valid with rfl | hv'
        · cases hst'
        · exact hv'.trans hv
    rw [hout.events]
    by_cases hin : ¬ tcb.InTimeWait ∧ tcb'.InTimeWait
    · rw [if_pos hin, if_pos (hiff.mp hin)]
      exact filter_tcpScheduleTimeWait
    · rw [if_neg hin, if_neg fun h => hin (hiff.mpr h)]
      rfl
  | resent hre =>
    rw [if_neg fun h => h.1 ⟨hre.valid, h.2.2⟩]
    exact filter_tcpTimer true
  | released => exact (if_neg fun h => absurd h.2.1 (by decide)).symm

/-- Only its event leads out of `TCP_TIME_WAIT`. -/
theorem TcbStepped.inTimeWait (h : TcbStepped env i tcb input tcb' out) (hin : tcb.InTimeWait)
    (hne : input ≠ .timeWait i) : tcb'.InTimeWait := by
  cases h with
  | listened hfree | connected hfree | child hfree => exact absurd hin (not_inTimeWait_of_free hfree)
  | sent hst => exact absurd hin (not_inTimeWait hst (by decide))
  | closed hst =>
    rcases hst with ⟨hst, -⟩ | ⟨hst, -⟩
    · exact absurd hin (not_inTimeWait hst (by decide))
    · exact absurd hin (not_inTimeWait hst (by decide))
  | received _ _ hr =>
    rw [hr.timeWait hin.2]
    exact hin
  | resent => exact hin
  | released => exact absurd rfl hne

end

section
variable {table : TcpTable}

/-- The events of a step for the slot `j`, and the slots that stay in `TCP_TIME_WAIT`. -/
theorem tcpStep_timeWait (Q : TableQueueOk table) (env : IpEnv) (input : TcpInput)
    (j : TcbIndex) :
    let tcb := table.tcbs j
    let tcb' := (tcpStep table (env, input)).tcbs j
    (tcpStepOut table (env, input)).events.filter
        (fun e => e.handler = some .timeWaitHandler ∧ e.payload = j) =
      (if ¬ tcb.InTimeWait ∧ tcb'.InTimeWait then tcpScheduleTimeWait env j else []) ∧
    (tcb.InTimeWait → input ≠ .timeWait j → tcb'.InTimeWait) := by
  intro tcb tcb'
  rcases tcpStep_slot Q env input j with ⟨hkept, hspares⟩ | ⟨-, hstep⟩
  · have hnone : (tcpStepOut table (env, input)).events.filter
        (fun e => e.handler = some .timeWaitHandler ∧ e.payload = j) = [] :=
      List.filter_eq_nil_iff.mpr fun e he => by simp [hspares.events e he]
    rcases hkept with hsame | ⟨hfree, hzero⟩
    · refine ⟨?_, fun hin _ => ?_⟩
      · rw [hnone, if_neg]
        rintro ⟨hnot, hin⟩
        have hin : Tcb.InTimeWait ((tcpStep table (env, input)).tcbs j) := hin
        rw [hsame] at hin
        exact hnot hin
      · show Tcb.InTimeWait ((tcpStep table (env, input)).tcbs j)
        rw [hsame]
        exact hin
    · refine ⟨?_, fun hin => absurd hin (not_inTimeWait_of_free hfree)⟩
      rw [hnone, if_neg]
      rintro ⟨-, hin⟩
      have hin : Tcb.InTimeWait ((tcpStep table (env, input)).tcbs j) := hin
      rw [hzero] at hin
      exact not_inTimeWait_of_free rfl hin
  · refine ⟨?_, hstep.inTimeWait⟩
    rw [← hstep.timeWaitEvents]
    refine List.filter_congr fun e he => ?_
    simp [hstep.events e he]

end

/-! ## One step of a simulation -/

/-- The event that a slot is given when it enters `TCP_TIME_WAIT` now. -/
def TcpSim.timeWaitEvent (s : TcpSim) (h : HostRef) (i : TcbIndex) : Event SimCallback SimPayload where
  type := .timerExpired
  timestamp := s.sched.now + tcpTimeWaitUs
  payload := .tcb h i
  handler := some (.tcp h .timeWaitHandler)

section
variable {s : TcpSim} {h : HostRef} {ipOk : Bool}

theorem isTimeWaitEvent_onHost {h' : HostRef} {i : TcbIndex} {e : TcpEvent} :
    IsTimeWaitEvent h' i (TcpEvent.onHost h e) =
      decide (h' = h ∧ e.handler = some .timeWaitHandler ∧ e.payload = i) := by
  have hpayload : (SimPayload.tcb h e.payload = .tcb h' i) ↔ h' = h ∧ e.payload = i := by
    rw [SimPayload.tcb.injEq]
    exact and_congr_left fun _ => eq_comm
  have hhandler : (e.handler.map (SimCallback.tcp h)).any SimCallback.isTimeWait =
      decide (e.handler = some .timeWaitHandler) := by
    cases e.handler with
    | none => rfl
    | some timer => cases timer <;> rfl
  unfold IsTimeWaitEvent TcpEvent.onHost
  rw [hhandler, Bool.eq_iff_iff, Bool.and_eq_true, decide_eq_true_iff, decide_eq_true_iff,
    decide_eq_true_iff, hpayload]
  tauto

/-- A step of a table adds the event of the slot that enters `TCP_TIME_WAIT`. -/
theorem TcpSim.tcp_timeWaitEvents (Q : ∀ h, TableQueueOk (s.table h)) (input : TcpInput)
    (h' : HostRef) (i : TcbIndex) :
    ((s.tcp h ipOk input).timeWaitEvents h' i).Perm
      ((if Enters s (s.tcp h ipOk input) h' i then [s.timeWaitEvent h' i] else []) ++
        s.timeWaitEvents h' i) := by
  have hperm := (@TcpSim.tcp_events s h ipOk input).filter (IsTimeWaitEvent h' i)
  rw [List.filter_append] at hperm
  refine hperm.trans (List.Perm.of_eq (congrArg (· ++ _) ?_))
  rw [List.filter_map]
  by_cases hh : h' = h
  · subst hh
    have hslot := (tcpStep_timeWait (Q h') (s.env ipOk) input i).1
    have henters : Enters s (s.tcp h' ipOk input) h' i ↔ ¬ ((s.table h').tcbs i).InTimeWait ∧
        ((tcpStep (s.table h') (s.env ipOk, input)).tcbs i).InTimeWait := by
      unfold Enters
      rw [TcpSim.tcp_table]
    have hfilter : IsTimeWaitEvent h' i ∘ TcpEvent.onHost h' =
        fun e => decide (e.handler = some .timeWaitHandler ∧ e.payload = i) := by
      funext e
      show IsTimeWaitEvent h' i (TcpEvent.onHost h' e) = _
      rw [isTimeWaitEvent_onHost]
      simp
    rw [hfilter, hslot]
    by_cases hin : Enters s (s.tcp h' ipOk input) h' i
    · rw [if_pos hin, if_pos (henters.mp hin)]
      rfl
    · rw [if_neg hin, if_neg fun h => hin (henters.mpr h)]
      rfl
  · have hnot : ¬ Enters s (s.tcp h ipOk input) h' i := by
      unfold Enters
      rw [TcpSim.tcp_table_of_ne hh]
      exact fun h => h.1 h.2
    have hnone : ((tcpStepOut (s.table h) (s.env ipOk, input)).events.filter
        (IsTimeWaitEvent h' i ∘ TcpEvent.onHost h)) = [] := by
      refine List.filter_eq_nil_iff.mpr fun e _ => ?_
      show ¬ IsTimeWaitEvent h' i (TcpEvent.onHost h e) = true
      rw [isTimeWaitEvent_onHost]
      simp [hh]
    rw [if_neg hnot, hnone]
    rfl

/-- Other steps than the release keep the slots that are in `TCP_TIME_WAIT` there. -/
theorem TcpSim.tcp_inTimeWait (Q : ∀ h, TableQueueOk (s.table h)) {input : TcpInput}
    (hinput : ∀ i, input ≠ .timeWait i) {h' : HostRef} {i : TcbIndex}
    (hin : ((s.table h').tcbs i).InTimeWait) :
    (((s.tcp h ipOk input).table h').tcbs i).InTimeWait := by
  by_cases hh : h' = h
  · subst hh
    rw [TcpSim.tcp_table]
    exact (tcpStep_timeWait (Q h') (s.env ipOk) input i).2 hin (hinput i)
  · rw [TcpSim.tcp_table_of_ne hh]
    exact hin

/-- The release clears its slot. -/
theorem TcpSim.tcp_released {i : TcbIndex} (hin : ((s.table h).tcbs i).InTimeWait) :
    (s.tcp h ipOk (.timeWait i)).sched = s.sched ∧
      ((s.tcp h ipOk (.timeWait i)).table h).tcbs i = {} ∧
      ∀ h' i', (h', i') ≠ (h, i) →
        ((s.tcp h ipOk (.timeWait i)).table h').tcbs i' = (s.table h').tcbs i' := by
  have htable : (tcpTimeWaitHandler (s.table h) i).tcbs =
      Function.update (s.table h).tcbs i {} := by
    unfold tcpTimeWaitHandler
    rw [hin.1, if_neg (by decide), if_neg (not_not.mpr hin.2)]
    rfl
  refine ⟨rfl, ?_, fun h' i' hne => ?_⟩
  · rw [TcpSim.tcp_table]
    show (tcpTimeWaitHandler (s.table h) i).tcbs i = _
    rw [htable, Function.update_self]
  · by_cases hh : h' = h
    · subst hh
      rw [TcpSim.tcp_table]
      show (tcpTimeWaitHandler (s.table h') i).tcbs i' = _
      rw [htable, Function.update_of_ne fun hi => hne (by rw [hi])]
    · rw [TcpSim.tcp_table_of_ne hh]

end

/-! ## The invariant -/

/-- One event for each slot in `TCP_TIME_WAIT`, and no others. -/
structure TimeWaitOk (s : TcpSim) (entered : HostRef → TcbIndex → UInt64) : Prop where
  queue : ∀ h, TableQueueOk (s.table h)
  events : ∀ h i, (s.timeWaitEvents h i).map Event.timestamp =
    if ((s.table h).tcbs i).InTimeWait then [entered h i + tcpTimeWaitUs] else []
  /-- the handler is no fallback -/
  fallback : ∀ type ctx, s.sched.handlers type ≠ some (.tcp ctx .timeWaitHandler)

section
variable {s s' : TcpSim} {entered : HostRef → TcbIndex → UInt64}

theorem eq_of_perm_ite {α : Type} {l : List α} {p : Prop} [Decidable p] {a : α}
    (h : l.Perm (if p then [a] else [])) : l = if p then [a] else [] := by
  split_ifs at h ⊢
  · exact List.perm_singleton.mp h
  · exact List.perm_nil.mp h

/-- A step that neither enters nor leaves `TCP_TIME_WAIT`. -/
theorem TimeWaitOk.kept (I : TimeWaitOk s entered) (Q : ∀ h, TableQueueOk (s'.table h))
    (htcb : ∀ h i, ((s'.table h).tcbs i).InTimeWait ↔ ((s.table h).tcbs i).InTimeWait)
    (hevents : ∀ h i, (s'.timeWaitEvents h i).Perm (s.timeWaitEvents h i))
    (hfallback : ∀ type ctx, s'.sched.handlers type ≠ some (.tcp ctx .timeWaitHandler)) :
    TimeWaitOk s' (enteredAfter s s' entered) where
  queue := Q
  events h i := by
    have hnot : ¬ Enters s s' h i := fun hin => hin.1 ((htcb h i).mp hin.2)
    refine eq_of_perm_ite (((hevents h i).map _).trans (List.Perm.of_eq ?_))
    rw [I.events h i, enteredAfter, if_neg hnot]
    exact if_congr (htcb h i).symm rfl rfl
  fallback := hfallback

/-- A step of a table, unless it is the release. -/
theorem TimeWaitOk.tcp (I : TimeWaitOk s entered) (h : HostRef) (ipOk : Bool) {input : TcpInput}
    (hinput : ∀ i, input ≠ .timeWait i) :
    TimeWaitOk (s.tcp h ipOk input) (enteredAfter s (s.tcp h ipOk input) entered) where
  queue := TcpSim.tcp_queueOk I.queue
  events h' i := by
    have hslot : ((s.tcp h ipOk input).timeWaitEvents h' i).Perm _ :=
      TcpSim.tcp_timeWaitEvents I.queue input h' i
    have hperm := hslot.map Event.timestamp
    rw [List.map_append, I.events h' i] at hperm
    refine eq_of_perm_ite (hperm.trans (List.Perm.of_eq ?_))
    by_cases hin : ((s.table h').tcbs i).InTimeWait
    · have hnot : ¬ Enters s (s.tcp h ipOk input) h' i := fun h => h.1 hin
      rw [enteredAfter, if_neg hnot, if_neg hnot, if_pos hin,
        if_pos (TcpSim.tcp_inTimeWait I.queue hinput hin)]
      rfl
    · rw [enteredAfter, if_neg hin]
      by_cases henters : Enters s (s.tcp h ipOk input) h' i
      · rw [if_pos henters, if_pos henters, if_pos henters.2, TcpSim.tcp_now]
        rfl
      · rw [if_neg henters, if_neg henters, if_neg fun h => henters ⟨hin, h⟩]
        rfl
  fallback type ctx := by
    rw [TcpSim.tcp_handlers]
    exact I.fallback type ctx

/-- An event that another module puts on the queue. -/
theorem TimeWaitOk.scheduled (I : TimeWaitOk s entered) {e : Event SimCallback SimPayload}
    (he : ∀ h i, IsTimeWaitEvent h i e = false) :
    let s' : TcpSim := { s with sched := schedulerSchedule s.sched e }
    TimeWaitOk s' (enteredAfter s s' entered) := by
  intro s'
  refine I.kept I.queue (fun _ _ => Iff.rfl) (fun h i => ?_) I.fallback
  have hperm := (eventQueuePush_perm s.sched.eq e).filter (IsTimeWaitEvent h i)
  rwa [List.filter_cons_of_neg (by rw [he h i]; decide)] at hperm

/-- A fallback other than the handler. -/
theorem TimeWaitOk.registered (I : TimeWaitOk s entered) (type : EventType) {fn : SimCallback}
    (hfn : ∀ ctx, fn ≠ .tcp ctx .timeWaitHandler) :
    let s' : TcpSim := { s with sched := schedulerRegister s.sched type (some fn) }
    TimeWaitOk s' (enteredAfter s s' entered) := by
  intro s'
  refine I.kept I.queue (fun _ _ => Iff.rfl) (fun _ _ => List.Perm.refl _) fun type' ctx => ?_
  show Function.update s.sched.handlers type (some fn) type' ≠ _
  by_cases ht : type' = type
  · subst ht
    rw [Function.update_self]
    exact fun h => hfn ctx (Option.some.inj h)
  · rw [Function.update_of_ne ht]
    exact I.fallback type' ctx

/-! ## The event is popped -/

variable {e : Event SimCallback SimPayload} {sched : Scheduler SimCallback SimPayload}

theorem timeWaitEvents_popped (hpop : schedulerStep s.sched = some (e, sched)) (h : HostRef)
    (i : TcbIndex) : s.timeWaitEvents h i =
      (if IsTimeWaitEvent h i e then [e] else []) ++ (s.popped sched).timeWaitEvents h i := by
  obtain ⟨hq, -, -⟩ := schedulerStep_eq_some hpop
  show s.sched.eq.filter _ = _ ++ sched.eq.filter _
  rw [hq]
  cases he : IsTimeWaitEvent h i e with
  | true => rw [List.filter_cons_of_pos he, if_pos rfl]; rfl
  | false => rw [List.filter_cons_of_neg (by rw [he]; decide), if_neg (by decide)]; rfl

/-- The event runs its handler. -/
theorem dispatch_of_isTimeWaitEvent {h : HostRef} {i : TcbIndex}
    (he : IsTimeWaitEvent h i e = true) (sched : Scheduler SimCallback SimPayload) :
    (∃ ctx, schedulerDispatch sched e = some (.tcp ctx .timeWaitHandler)) ∧
      e.payload = .tcb h i := by
  unfold IsTimeWaitEvent at he
  rw [Bool.and_eq_true, decide_eq_true_iff] at he
  refine ⟨?_, he.2⟩
  unfold schedulerDispatch
  cases hh : e.handler with
  | none => rw [hh] at he; exact absurd he.1 (by decide)
  | some fn =>
    rw [hh] at he
    cases fn with
    | other fn => exact absurd he.1 Bool.false_ne_true
    | tcp ctx timer =>
      cases timer with
      | retransmitHandler => exact absurd he.1 Bool.false_ne_true
      | timeWaitHandler => exact ⟨ctx, rfl⟩

/-- No other event does. -/
theorem TimeWaitOk.isTimeWaitEvent (I : TimeWaitOk s entered) {ctx h : HostRef} {i : TcbIndex}
    (hrun : schedulerDispatch s.sched e = some (.tcp ctx .timeWaitHandler))
    (hdata : e.payload = .tcb h i) : IsTimeWaitEvent h i e = true := by
  unfold schedulerDispatch at hrun
  unfold IsTimeWaitEvent
  cases hh : e.handler with
  | none => rw [hh] at hrun; exact absurd hrun (I.fallback _ _)
  | some fn =>
    rw [hh] at hrun
    cases hrun
    rw [hdata]
    simp [SimCallback.isTimeWait]

/-- Where the event is pending, the slot waits for it, and for no other. -/
theorem TimeWaitOk.popped_event (I : TimeWaitOk s entered)
    (hpop : schedulerStep s.sched = some (e, sched)) {h : HostRef} {i : TcbIndex}
    (he : IsTimeWaitEvent h i e = true) :
    ((s.table h).tcbs i).InTimeWait ∧ e.timestamp = entered h i + tcpTimeWaitUs ∧
      (s.popped sched).timeWaitEvents h i = [] := by
  have hevents := I.events h i
  rw [timeWaitEvents_popped hpop h i, if_pos he, List.map_append] at hevents
  split_ifs at hevents with hin
  · obtain ⟨ht, hnil⟩ := List.cons.inj hevents
    exact ⟨hin, ht, List.map_eq_nil_iff.mp hnil⟩
  · exact absurd hevents (List.cons_ne_nil _ _)

/-- The simulation after another event has been popped. -/
theorem TimeWaitOk.popped (I : TimeWaitOk s entered)
    (hpop : schedulerStep s.sched = some (e, sched)) (he : ∀ h i, IsTimeWaitEvent h i e = false) :
    TimeWaitOk (s.popped sched) entered where
  queue := I.queue
  events h i := by
    have hevents := I.events h i
    rwa [timeWaitEvents_popped hpop h i, if_neg (by rw [he h i]; decide), List.nil_append]
      at hevents
  fallback type ctx := by
    show sched.handlers type ≠ _
    rw [(schedulerStep_eq_some hpop).2.1]
    exact I.fallback type ctx

/-- The release of the slot whose event was popped. -/
theorem TimeWaitOk.released (I : TimeWaitOk s entered)
    (hpop : schedulerStep s.sched = some (e, sched)) {h : HostRef} {i : TcbIndex}
    (he : IsTimeWaitEvent h i e = true) (ipOk : Bool) :
    let s' := (s.popped sched).tcp h ipOk (.timeWait i)
    TimeWaitOk s' (enteredAfter s s' entered) := by
  intro s'
  obtain ⟨hin, -, hnone⟩ := I.popped_event hpop he
  obtain ⟨hsched, hself, hother⟩ := @TcpSim.tcp_released (s.popped sched) h ipOk i hin
  have hevents : ∀ h' i', s'.timeWaitEvents h' i' = (s.popped sched).timeWaitEvents h' i' := by
    intro h' i'
    show s'.sched.eq.filter _ = _
    rw [hsched]
    rfl
  refine ⟨TcpSim.tcp_queueOk I.queue, fun h' i' => ?_, fun type ctx => ?_⟩
  · rw [hevents]
    by_cases hslot : (h', i') = (h, i)
    · cases hslot
      have hfree : ¬ ((s'.table h).tcbs i).InTimeWait := by
        rw [hself]
        decide
      rw [hnone, if_neg hfree]
      rfl
    · have hsame := hother h' i' hslot
      have hiff : ((s'.table h').tcbs i').InTimeWait ↔ ((s.table h').tcbs i').InTimeWait := by
        rw [hsame]
        rfl
      have hnot : ¬ Enters s s' h' i' := fun hin => hin.1 (hiff.mp hin.2)
      have hne : IsTimeWaitEvent h' i' e = false := by
        by_contra htrue
        have hdata := (dispatch_of_isTimeWaitEvent (by simpa using htrue) s.sched).2
        rw [(dispatch_of_isTimeWaitEvent he s.sched).2] at hdata
        cases hdata
        exact hslot rfl
      have hkept := I.events h' i'
      rw [timeWaitEvents_popped hpop h' i', if_neg (by rw [hne]; decide), List.nil_append]
        at hkept
      rw [hkept, enteredAfter, if_neg hnot]
      exact if_congr hiff.symm rfl rfl
  · rw [hsched]
    show sched.handlers type ≠ _
    rw [(schedulerStep_eq_some hpop).2.1]
    exact I.fallback type ctx

theorem TimeWaitOk.runStep (I : TimeWaitOk s entered) (ipOk : Bool) :
    TimeWaitOk (s.runStep ipOk) (enteredAfter s (s.runStep ipOk) entered) := by
  rcases runStep_cases s ipOk with ⟨-, hsame⟩ | ⟨e, sched, hpop, hrun⟩
  · rw [hsame]
    exact I.kept I.queue (fun _ _ => Iff.rfl) (fun _ _ => List.Perm.refl _) I.fallback
  · generalize s.runStep ipOk = s' at hrun
    cases hrun with
    | @retransmit ctx h i hretransmit hdata =>
      have hnot : ∀ h i, IsTimeWaitEvent h i e = false := by
        intro h i
        by_contra he
        obtain ⟨⟨ctx', htimeWait⟩, -⟩ :=
          dispatch_of_isTimeWaitEvent (by simpa using he) s.sched
        rw [hretransmit] at htimeWait
        cases htimeWait
      exact (I.popped hpop hnot).tcp h ipOk (fun i h => by cases h)
    | timeWait htimeWait hdata => exact I.released hpop (I.isTimeWaitEvent htimeWait hdata) ipOk
    | other hother =>
      have hnot : ∀ h i, IsTimeWaitEvent h i e = false := by
        intro h i
        by_contra he
        obtain ⟨⟨ctx, htimeWait⟩, hdata⟩ :=
          dispatch_of_isTimeWaitEvent (by simpa using he) s.sched
        exact hother ctx .timeWaitHandler h i htimeWait hdata
      have hentered : enteredAfter s (s.popped sched) entered = entered := by
        funext h i
        exact if_neg fun hin => hin.1 hin.2
      rw [hentered]
      exact I.popped hpop hnot

theorem TimeWaitOk.step (I : TimeWaitOk s entered) (input : TcpTimerInput) :
    TimeWaitOk (tcpTimerStep s input) (enteredAfter s (tcpTimerStep s input) entered) := by
  cases input with
  | registerRetransmit ctx => exact I.registered .tcpRetransmit fun ctx h => by cases h
  | sim input =>
    cases input with
    | call h c ipOk =>
      have hcall : ∀ i, TcpInput.call c ≠ .timeWait i := fun i h => by cases h
      rw [tcpTimerStep_call]
      exact I.tcp h ipOk hcall
    | schedule type timestamp data handler =>
      exact I.scheduled fun h i => by simp [IsTimeWaitEvent]
    | register type fn => exact I.registered type fun ctx h => by cases h
    | step ipOk => exact I.runStep ipOk

theorem timeWaitOk_init : TimeWaitOk tcpSimInit fun _ _ => 0 where
  queue _ _ := queueOk_default
  events _ _ := rfl
  fallback _ _ h := by cases h

theorem timeWaitOk_run (inputs : List TcpTimerInput) :
    let x := run timeWaitStep timeWaitInit inputs
    TimeWaitOk x.1 x.2 :=
  run_invariant (fun x : TimeWaitState => TimeWaitOk x.1 x.2) (fun _ input I => I.step input)
    inputs timeWaitInit timeWaitOk_init

end

/-! ## Result -/

/-- What an input does to a slot, as far as `TCP_TIME_WAIT` is concerned. -/
structure TimeWaitEnds (x : TimeWaitState) (h : HostRef) (i : TcbIndex) (input : TcpTimerInput) :
    Prop where
  /-- an event that is popped finds the slot in the state, is the one of its entry, and
      releases it -/
  released : ∀ ipOk e sched, input = .sim (.step ipOk) → schedulerStep x.1.sched = some (e, sched) →
    IsTimeWaitEvent h i e = true → ((x.1.table h).tcbs i).InTimeWait ∧
      e.timestamp = x.2 h i + tcpTimeWaitUs ∧ ((tcpTimerStep x.1 input).table h).tcbs i = {}
  /-- nothing else ends the state -/
  kept : ((x.1.table h).tcbs i).InTimeWait →
    (∀ ipOk e sched, input = .sim (.step ipOk) → schedulerStep x.1.sched = some (e, sched) →
      IsTimeWaitEvent h i e = false) →
    (((tcpTimerStep x.1 input).table h).tcbs i).InTimeWait

section
variable {s : TcpSim} {entered : HostRef → TcbIndex → UInt64}

/-- What runs for a popped event of `TCP_TIME_WAIT`. -/
theorem EventRun.release {s' : TcpSim} {ipOk : Bool} {e : Event SimCallback SimPayload}
    {sched : Scheduler SimCallback SimPayload} {h : HostRef} {i : TcbIndex}
    (hrun : EventRun s ipOk e sched s') (he : IsTimeWaitEvent h i e = true) :
    s' = (s.popped sched).tcp h ipOk (.timeWait i) := by
  obtain ⟨⟨ctx, htimeWait⟩, hdata⟩ := dispatch_of_isTimeWaitEvent he s.sched
  cases hrun with
  | retransmit hretransmit =>
    rw [htimeWait] at hretransmit
    cases hretransmit
  | timeWait _ hdata' =>
    rw [hdata] at hdata'
    cases hdata'
    rfl
  | other hother => exact absurd hdata (hother ctx .timeWaitHandler h i htimeWait)

theorem TimeWaitOk.ends (I : TimeWaitOk s entered) (h : HostRef) (i : TcbIndex)
    (input : TcpTimerInput) : TimeWaitEnds (s, entered) h i input where
  released := by
    rintro ipOk e sched rfl hpop he
    obtain ⟨hin, ht, -⟩ := I.popped_event hpop he
    refine ⟨hin, ht, ?_⟩
    show ((s.runStep ipOk).table h).tcbs i = {}
    rcases runStep_cases s ipOk with ⟨hnone, -⟩ | ⟨e', sched', hpop', hrun⟩
    · rw [hpop] at hnone
      cases hnone
    · rw [hpop] at hpop'
      cases hpop'
      rw [hrun.release he]
      exact (TcpSim.tcp_released (s := s.popped sched) hin).2.1
  kept := by
    intro hin hnot
    have hin : ((s.table h).tcbs i).InTimeWait := hin
    cases input with
    | registerRetransmit ctx => exact hin
    | sim input =>
      cases input with
      | call h' c ipOk =>
        have hcall : ∀ i, TcpInput.call c ≠ .timeWait i := fun i h => by cases h
        show (((tcpTimerStep s (.sim (.call h' c ipOk))).table h).tcbs i).InTimeWait
        rw [tcpTimerStep_call]
        exact TcpSim.tcp_inTimeWait I.queue hcall hin
      | schedule | register => exact hin
      | step ipOk =>
        show (((s.runStep ipOk).table h).tcbs i).InTimeWait
        rcases runStep_cases s ipOk with ⟨-, hsame⟩ | ⟨e, sched, hpop, hrun⟩
        · rw [hsame]
          exact hin
        · have hne := hnot ipOk e sched rfl hpop
          generalize s.runStep ipOk = s' at hrun
          cases hrun with
          | @retransmit ctx h' i' _ _ =>
            exact TcpSim.tcp_inTimeWait (s := s.popped sched) I.queue (fun i h => by cases h) hin
          | @timeWait ctx h' i' htimeWait hdata =>
            have he := I.isTimeWaitEvent htimeWait hdata
            have hin' := (I.popped_event hpop he).1
            have hslot : (h, i) ≠ (h', i') := by
              intro hsame
              cases hsame
              rw [he] at hne
              cases hne
            rw [(TcpSim.tcp_released (s := s.popped sched) hin').2.2 h i hslot]
            exact hin
          | other => exact hin

end

/-- In every reachable state there is exactly one pending event for each slot in
    `TCP_TIME_WAIT`, due `TCP_TIME_WAIT_US` after the slot entered the state, and none for
    any other slot. The slot is released when that event is popped, and not before. -/
theorem tcpTimeWait_events (inputs : List TcpTimerInput) (h : HostRef) (i : TcbIndex) :
    let x := run timeWaitStep timeWaitInit inputs
    ((x.1.timeWaitEvents h i).map Event.timestamp =
      if ((x.1.table h).tcbs i).InTimeWait then [x.2 h i + tcpTimeWaitUs] else []) ∧
    ∀ input, TimeWaitEnds x h i input := by
  intro x
  have I : TimeWaitOk x.1 x.2 := timeWaitOk_run inputs
  exact ⟨I.events h i, fun input => I.ends h i input⟩

end FrameRunner
