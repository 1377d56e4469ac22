import FrameRunner.Engine.Order

/-!
# Injected packets (`engine/simulator.c`)

`simulator_inject_packet` queues an `EVT_PACKET_SEND` at the current time plus a delay, added
as `uint64_t`. The pointers of an event are its payload; whether `malloc` gives the event and
whether the array of the queue has or gets room are inputs.

`simulatorInjectPacket_meets_iff`: the call keeps what its caller asks for exactly if it fails
or the addition does not wrap.
-/

namespace FrameRunner

open FrameRunner.Lib

variable {κ π δ ρ α : Type}

/-- `src_device`, `dst_device`, `packet` and `data` of an `Event`; `NULL` is `none`. -/
structure EventPointers (δ ρ α : Type) where
  srcDevice : Option δ
  dstDevice : Option δ
  packet : Option ρ
  data : Option α
  deriving DecidableEq

/-- The event that `simulator_inject_packet` creates (lines 93–98). -/
def injectedEvent (now delayUs : UInt64) (src dst : δ) (pkt : ρ) :
    EventArgs κ (EventPointers δ ρ α) where
  type := .packetSend
  timestamp := now + delayUs
  payload := { srcDevice := some src, dstDevice := some dst, packet := some pkt, data := none }

/-- `simulator_inject_packet` (lines 84–104) on a simulator that is not `NULL`; `mallocEvent`
    says whether `event_create` finds memory and `grows` whether the queue does. -/
def simulatorInjectPacket (r : SchedulerRun κ (EventPointers δ ρ α)) (src dst : Option δ)
    (pkt : Option ρ) (delayUs : UInt64) (mallocEvent grows : Bool) :
    SchedulerRun κ (EventPointers δ ρ α) × ℤ :=
  match src, dst, pkt with
  | some src, some dst, some pkt =>
    if !mallocEvent then (r, -1)
    else if !grows then (r, -1)
    else (r.schedule (injectedEvent r.sched.now delayUs src dst pkt), 0)
  | _, _, _ => (r, -1)

/-- All that a call can do: refuse, or queue its event. -/
theorem simulatorInjectPacket_cases (r : SchedulerRun κ (EventPointers δ ρ α))
    (src dst : Option δ) (pkt : Option ρ) (delayUs : UInt64) (mallocEvent grows : Bool) :
    ((src = none ∨ dst = none ∨ pkt = none ∨ mallocEvent = false ∨ grows = false) ∧
        simulatorInjectPacket r src dst pkt delayUs mallocEvent grows = (r, -1)) ∨
      ∃ s d p, src = some s ∧ dst = some d ∧ pkt = some p ∧ mallocEvent = true ∧ grows = true ∧
        simulatorInjectPacket r src dst pkt delayUs mallocEvent grows =
          (r.schedule (injectedEvent r.sched.now delayUs s d p), 0) := by
  cases src with
  | none => exact .inl ⟨.inl rfl, rfl⟩
  | some s =>
    cases dst with
    | none => exact .inl ⟨.inr (.inl rfl), rfl⟩
    | some d =>
      cases pkt with
      | none => exact .inl ⟨.inr (.inr (.inl rfl)), rfl⟩
      | some p =>
        cases mallocEvent with
        | false => exact .inl ⟨.inr (.inr (.inr (.inl rfl))), rfl⟩
        | true =>
          cases grows with
          | false => exact .inl ⟨.inr (.inr (.inr (.inr rfl))), rfl⟩
          | true => exact .inr ⟨s, d, p, rfl, rfl, rfl, rfl, rfl, rfl⟩

/-! ## An event and its ticket -/

/-- A run forgets no event that was scheduled. -/
theorem scheduled_prefix_run (calls : List (SchedulerCall κ π)) (r : SchedulerRun κ π) :
    r.scheduled <+: (run schedulerCall r calls).scheduled := by
  have hpush : ∀ (pushes : List (EventArgs κ π)) (r : SchedulerRun κ π),
      r.scheduled <+: (pushes.foldl SchedulerRun.schedule r).scheduled := by
    intro pushes
    induction pushes with
    | nil => exact fun r => List.prefix_rfl
    | cons a pushes ih => exact fun r => (List.prefix_append _ _).trans (ih (r.schedule a))
  refine run_related (fun r r' => r.scheduled <+: r'.scheduled) (fun _ => List.prefix_rfl)
    List.IsPrefix.trans (fun r c => ?_) calls r
  cases c with
  | schedule a => exact List.prefix_append _ _
  | register type fn => exact List.prefix_rfl
  | step pushes =>
    show r.scheduled <+: (r.step pushes).scheduled
    rcases r.step_cases pushes with ⟨-, he⟩ | ⟨e, sched, -, more, -, he⟩
    · rw [he]
    · rw [he]
      exact hpush more { r with sched := sched, dispatched := r.dispatched ++ [e] }

/-- The ticket of an event is its place among those scheduled. -/
theorem SchedulerOk.getElem?_ticket {r : SchedulerRun κ π} (I : SchedulerOk r)
    {e : Event κ (ℕ × π)} (he : e ∈ r.scheduled) : r.scheduled[e.ticket]? = some e := by
  obtain ⟨i, hi⟩ := List.mem_iff_getElem?.mp he
  have hticket : (r.scheduled.map Event.ticket)[i]? = some e.ticket := by
    rw [List.getElem?_map, hi]
    rfl
  have hlt : i < r.scheduled.length := (List.getElem?_eq_some_iff.mp hi).1
  rw [I.tickets, List.getElem?_range hlt] at hticket
  rw [← Option.some_inj.mp hticket, hi]

/-- The event with the ticket of a call is the one that the call scheduled. -/
theorem SchedulerOk.eq_of_ticket {r r' : SchedulerRun κ π} (I' : SchedulerOk r')
    {a : EventArgs κ π} (hkeeps : (r.schedule a).scheduled <+: r'.scheduled)
    {e : Event κ (ℕ × π)} (he : e ∈ r'.scheduled) (hticket : e.ticket = r.scheduled.length) :
    e = a.event r.scheduled.length := by
  obtain ⟨rest, hrest⟩ := hkeeps
  have hlast : r'.scheduled[r.scheduled.length]? = some (a.event r.scheduled.length) := by
    rw [← hrest, SchedulerRun.schedule, List.append_assoc, List.getElem?_append_right le_rfl,
      Nat.sub_self]
    rfl
  have hat := I'.getElem?_ticket he
  rw [hticket, hlast] at hat
  exact (Option.some_inj.mp hat).symm

/-- Steps whose callbacks schedule nothing come to any pending event. -/
theorem exists_step_pops {r : SchedulerRun κ π} {x : Event κ (ℕ × π)} (hx : x ∈ r.sched.eq) :
    ∃ more sched, schedulerStep (run schedulerCall r more).sched = some (x, sched) := by
  generalize hq : r.sched.eq = q at hx
  induction q generalizing r with
  | nil => exact absurd hx List.not_mem_nil
  | cons e rest ih =>
    obtain ⟨sched, hstep, hrest⟩ := exists_schedulerStep hq
    rcases List.mem_cons.mp hx with rfl | hx
    · exact ⟨[], sched, hstep⟩
    · have heq : (schedulerCall r (.step [])).sched.eq = rest := by
        show (r.step []).sched.eq = rest
        rcases r.step_cases [] with ⟨hnil, -⟩ | ⟨e', sched', hstep', more, hmore, he⟩
        · exact absurd (hq.symm.trans hnil) (List.cons_ne_nil _ _)
        · obtain ⟨rfl, rfl⟩ : e' = e ∧ sched' = sched := by simpa [hstep] using hstep'.symm
          obtain rfl : more = [] := or_self_iff.mp hmore
          rw [he]
          exact hrest
      obtain ⟨more, sched', h⟩ := ih heq hx
      exact ⟨.step [] :: more, sched', h⟩

/-! ## When the call keeps its promise -/

/-- The event queued from `r` to `r'`, whatever happens next, is dispatched when the delay has
    passed, and after all that was queued for an earlier time. The sum of time and delay is the
    one of the natural numbers. -/
def InjectionKept (r r' : SchedulerRun κ π) (delayUs : UInt64) : Prop :=
  ∀ more e sched, schedulerStep (run schedulerCall r' more).sched = some (e, sched) →
    e.ticket = r.scheduled.length →
      r.sched.now.toNat + delayUs.toNat ≤ sched.now.toNat ∧
        ∀ q ∈ r.sched.eq, q.timestamp.toNat < r.sched.now.toNat + delayUs.toNat →
          q ∈ (run schedulerCall r' more).dispatched

/-- What a caller asks for: a call that fails has changed nothing. -/
def InjectionMeets (r : SchedulerRun κ (EventPointers δ ρ α)) (src dst : Option δ)
    (pkt : Option ρ) (delayUs : UInt64) (mallocEvent grows : Bool) : Prop :=
  let (r', result) := simulatorInjectPacket r src dst pkt delayUs mallocEvent grows
  (result = 0 → InjectionKept r r' delayUs) ∧ (result ≠ 0 → result = -1 ∧ r' = r)

/-- What is due before the event that a step dispatches has been dispatched. -/
theorem SchedulerOk.dispatched_of_lt {r : SchedulerRun κ π} (I : SchedulerOk r)
    {e q : Event κ (ℕ × π)} {sched : Scheduler κ (ℕ × π)}
    (hstep : schedulerStep r.sched = some (e, sched)) (hq : q ∈ r.scheduled)
    (hlt : q.timestamp < e.timestamp) : q ∈ r.dispatched := by
  rcases List.mem_append.mp (I.kept.mem_iff.mpr hq) with hq | hq
  · exact hq
  · -- a pending one would have been popped instead
    have hord := I.ordered
    rw [(schedulerStep_eq_some hstep).1] at hq hord
    rcases List.mem_cons.mp hq with rfl | hq
    · exact absurd hlt (UInt64.lt_irrefl _)
    · rcases (List.pairwise_cons.mp hord).1 q hq with hbefore | ⟨heq, -⟩
      · exact absurd hlt (UInt64.lt_asymm hbefore)
      · exact absurd hlt (heq ▸ UInt64.lt_irrefl _)

/-- A queued injection keeps the promise exactly if its timestamp has not wrapped. -/
theorem SchedulerOk.injectionKept_iff {r : SchedulerRun κ (EventPointers δ ρ α)}
    (I : SchedulerOk r) (src dst : δ) (pkt : ρ) (delayUs : UInt64) :
    InjectionKept r (r.schedule (injectedEvent r.sched.now delayUs src dst pkt)) delayUs ↔
      r.sched.now.toNat + delayUs.toNat < 2 ^ 64 := by
  set r' := r.schedule (injectedEvent r.sched.now delayUs src dst pkt)
  have I' : SchedulerOk r' := I.schedule _
  constructor
  · intro h
    -- the event is pending, so some steps dispatch it, and no clock reads as much as 2 ^ 64
    obtain ⟨more, sched, hstep⟩ := exists_step_pops (r := r')
      (mem_schedulerSchedule.mpr (.inl rfl))
    exact lt_of_le_of_lt (h more _ sched hstep rfl).1 sched.now.toNat_lt
  · intro hlt more e sched hstep hticket
    have Imore : SchedulerOk (run schedulerCall r' more) :=
      run_invariant SchedulerOk (fun _ c I => I.call c) more _ I'
    have hkeeps := scheduled_prefix_run more r'
    have he : e ∈ (run schedulerCall r' more).scheduled := by
      refine Imore.kept.mem_iff.mp (List.mem_append_right _ ?_)
      rw [(schedulerStep_eq_some hstep).1]
      exact List.mem_cons_self
    have hevent := Imore.eq_of_ticket hkeeps he hticket
    have htime : e.timestamp.toNat = r.sched.now.toNat + delayUs.toNat := by
      rw [hevent]
      show (r.sched.now + delayUs).toNat = _
      rw [UInt64.toNat_add, Nat.mod_eq_of_lt hlt]
    constructor
    · rw [← htime]
      exact UInt64.le_iff_toNat_le.mp (timestamp_le_schedulerStep hstep)
    · intro q hq hbefore
      refine Imore.dispatched_of_lt hstep (hkeeps.subset ?_)
        (UInt64.lt_iff_toNat_lt.mpr (htime ▸ hbefore))
      exact List.mem_append_left _ (I.kept.mem_iff.mp (List.mem_append_right _ hq))

/-- In every state of every run the call keeps its promise exactly if it fails or the time and
    the delay add up to less than `2 ^ 64`. -/
theorem simulatorInjectPacket_meets_iff
    (calls : List (SchedulerCall κ (EventPointers δ ρ α))) (src dst : Option δ) (pkt : Option ρ)
    (delayUs : UInt64) (mallocEvent grows : Bool) :
    let r := run schedulerCall schedulerRunInit calls
    InjectionMeets r src dst pkt delayUs mallocEvent grows ↔
      src = none ∨ dst = none ∨ pkt = none ∨ mallocEvent = false ∨ grows = false ∨
        r.sched.now.toNat + delayUs.toNat < 2 ^ 64 := by
  intro r
  have I : SchedulerOk r := schedulerOk_run calls
  unfold InjectionMeets
  rcases simulatorInjectPacket_cases r src dst pkt delayUs mallocEvent grows with
    ⟨hrefused, he⟩ | ⟨s, d, p, rfl, rfl, rfl, rfl, rfl, he⟩
  · rw [he]
    refine iff_of_true ⟨fun h => absurd h (by decide), fun _ => ⟨rfl, rfl⟩⟩ ?_
    tauto
  · rw [he]
    have hkept := I.injectionKept_iff s d p delayUs
    constructor
    · intro h
      exact .inr (.inr (.inr (.inr (.inr (hkept.mp (h.1 rfl))))))
    · intro h
      simp only [reduceCtorEq, false_or] at h
      exact ⟨fun _ => hkept.mpr h, fun h => absurd rfl h⟩

/-- The clock reads 5 and an event is queued for 7. -/
def injectionExample : List (SchedulerCall ℕ (EventPointers ℕ ℕ ℕ)) :=
  [.schedule { type := .render, timestamp := 5, payload := ⟨none, none, none, none⟩ },
    .schedule { type := .render, timestamp := 7, payload := ⟨none, none, none, none⟩ },
    .step []]

/-- A delay of `2 ^ 64 - 2` makes the packet due at 3: it goes out at once, before the event
    at 7. -/
theorem injectionExample_not_meets :
    ¬ InjectionMeets (run schedulerCall schedulerRunInit injectionExample) (some 1) (some 2)
      (some 3) 0xFFFFFFFFFFFFFFFE true true := by
  intro h
  have hstep := h.1 rfl [] _ _ rfl rfl
  exact absurd hstep.1 (by decide +kernel)

end FrameRunner
