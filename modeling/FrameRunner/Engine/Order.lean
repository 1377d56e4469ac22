import FrameRunner.Engine.Scheduler
import FrameRunner.Lib.Run

/-!
# Runs of the scheduler

A run is any sequence of calls of `scheduler_schedule`, `scheduler_register` and
`scheduler_step`; a step whose event has a callback lets it schedule any further
events. Each event carries the number of the call that scheduled it, which
stands for its address.

Main results:

* `schedulerRun_order`: no event is lost or dispatched twice, and a step
  dispatches the pending event with the least timestamp, among equals the one
  that was scheduled first.
* `schedulerRun_clock`: if every event is due at or after the time at which it
  is scheduled, no pending event is in the past, the clock never goes back, and
  a callback runs at the time of its event.
-/

namespace FrameRunner

open FrameRunner.Lib

variable {κ π : Type}

/-! ## Insertion keeps the order -/

/-- A push into a queue ordered by a transitive `R` keeps the order, if `R`
    agrees with the test of the insertion loop on the new event. -/
theorem eventQueuePush_pairwise {R : Event κ π → Event κ π → Prop}
    (htrans : ∀ a b c, R a b → R b c → R a c) {eq : List (Event κ π)} {e : Event κ π}
    (hpre : ∀ p ∈ eq, p.notAfter e = true → R p e)
    (hpost : ∀ p ∈ eq, p.notAfter e = false → R e p) (h : eq.Pairwise R) :
    (eventQueuePush eq e).Pairwise R := by
  -- on the queue from its back the order is the converse of `R`
  have hback : ∀ l : List (Event κ π), (∀ p ∈ l, p ∈ eq) → l.Pairwise (fun a b => R b a) →
      (eventInsertBack e l).Pairwise (fun a b => R b a) := by
    intro l
    induction l with
    | nil => exact fun _ _ => List.pairwise_singleton _ _
    | cons p rest ih =>
      intro hmem hl
      obtain ⟨hp, hrest⟩ := List.pairwise_cons.mp hl
      have hpeq : p ∈ eq := hmem p List.mem_cons_self
      unfold eventInsertBack
      by_cases hnot : p.notAfter e = true
      · rw [if_pos hnot]
        refine List.pairwise_cons.mpr ⟨fun x hx => ?_, hl⟩
        rcases List.mem_cons.mp hx with rfl | hx
        · exact hpre _ hpeq hnot
        · exact htrans _ _ _ (hp x hx) (hpre p hpeq hnot)
      · rw [if_neg hnot]
        refine List.pairwise_cons.mpr
          ⟨fun x hx => ?_, ih (fun q hq => hmem q (List.mem_cons_of_mem _ hq)) hrest⟩
        rcases List.mem_cons.mp ((eventInsertBack_perm e rest).mem_iff.mp hx) with rfl | hx
        · exact hpost p hpeq (by simpa using hnot)
        · exact hp x hx
  have := hback eq.reverse (fun p hp => List.mem_reverse.mp hp)
    (List.pairwise_reverse.mpr (by simpa using h))
  exact List.pairwise_reverse.mpr (by simpa using this)

/-- A push keeps the queue in the order of time. -/
theorem eventQueuePush_sorted {eq : List (Event κ π)}
    (h : eq.Pairwise fun a b => a.timestamp ≤ b.timestamp) (e : Event κ π) :
    (eventQueuePush eq e).Pairwise fun a b => a.timestamp ≤ b.timestamp := by
  refine eventQueuePush_pairwise (R := fun a b => a.timestamp ≤ b.timestamp)
    (fun _ _ _ => UInt64.le_trans) (fun p _ hp => ?_) (fun p _ hp => ?_) h
  · unfold Event.notAfter at hp
    rw [Bool.or_eq_true, decide_eq_true_iff, Bool.and_eq_true, beq_iff_eq] at hp
    rcases hp with hp | ⟨hp, -⟩
    · exact UInt64.le_of_lt hp
    · rw [hp]
      exact UInt64.le_refl _
  · unfold Event.notAfter at hp
    rw [Bool.or_eq_false_iff, decide_eq_false_iff_not] at hp
    exact UInt64.not_lt.mp hp.1

/-! ## Runs -/

/-- The arguments of `event_create_callback` (lines 7–31), which sets `sequence`
    to 0. -/
structure EventArgs (κ π : Type) where
  type : EventType
  timestamp : UInt64
  payload : π
  handler : Option κ := none

/-- The event that the `n`-th call of `scheduler_schedule` is given. -/
def EventArgs.event (a : EventArgs κ π) (n : ℕ) : Event κ (ℕ × π) where
  type := a.type
  timestamp := a.timestamp
  payload := (n, a.payload)
  handler := a.handler

/-- Which call scheduled the event. -/
def Event.ticket (e : Event κ (ℕ × π)) : ℕ := e.payload.1

/-- A scheduler with the events scheduled and dispatched so far, oldest first. -/
structure SchedulerRun (κ π : Type) where
  sched : Scheduler κ (ℕ × π)
  scheduled : List (Event κ (ℕ × π))
  dispatched : List (Event κ (ℕ × π))

/-- `scheduler_create`. -/
def schedulerRunInit : SchedulerRun κ π where
  sched := schedulerCreate
  scheduled := []
  dispatched := []

/-- A call; `step pushes` is a `scheduler_step` whose callback, if one runs,
    schedules the events `pushes` in this order. -/
inductive SchedulerCall (κ π : Type) where
  | schedule (a : EventArgs κ π)
  | register (type : EventType) (fn : Option κ)
  | step (pushes : List (EventArgs κ π))

/-- `scheduler_schedule` in a run. -/
def SchedulerRun.schedule (r : SchedulerRun κ π) (a : EventArgs κ π) : SchedulerRun κ π :=
  let e := a.event r.scheduled.length
  { r with sched := schedulerSchedule r.sched e, scheduled := r.scheduled ++ [e] }

/-- `scheduler_step` in a run. -/
def SchedulerRun.step (r : SchedulerRun κ π) (pushes : List (EventArgs κ π)) : SchedulerRun κ π :=
  match schedulerStep r.sched with
  | none => r
  | some (e, sched) =>
    let r := { r with sched := sched, dispatched := r.dispatched ++ [e] }
    match schedulerDispatch sched e with
    | none => r
    | some _ => pushes.foldl SchedulerRun.schedule r

/-- The run after one more call. -/
def schedulerCall (r : SchedulerRun κ π) : SchedulerCall κ π → SchedulerRun κ π
  | .schedule a => r.schedule a
  | .register type fn => { r with sched := schedulerRegister r.sched type fn }
  | .step pushes => r.step pushes

/-- All that a step can do: nothing on an empty queue, else dispatch the first
    event and then schedule. -/
theorem SchedulerRun.step_cases (r : SchedulerRun κ π) (pushes : List (EventArgs κ π)) :
    (r.sched.eq = [] ∧ r.step pushes = r) ∨
      ∃ e sched, schedulerStep r.sched = some (e, sched) ∧ ∃ more, (more = [] ∨ more = pushes) ∧
        r.step pushes = more.foldl SchedulerRun.schedule
          { r with sched := sched, dispatched := r.dispatched ++ [e] } := by
  unfold SchedulerRun.step
  cases hstep : schedulerStep r.sched with
  | none => exact .inl ⟨schedulerStep_eq_none_iff.mp hstep, rfl⟩
  | some p =>
    obtain ⟨e, sched⟩ := p
    refine .inr ⟨e, sched, rfl, ?_⟩
    dsimp only
    cases schedulerDispatch sched e with
    | none => exact ⟨[], .inl rfl, rfl⟩
    | some fn => exact ⟨pushes, .inr rfl, rfl⟩

/-! ## Order -/

/-- `a` is dispatched before `b`, if both are pending. -/
def Event.Before (a b : Event κ (ℕ × π)) : Prop :=
  a.timestamp < b.timestamp ∨ a.timestamp = b.timestamp ∧ a.ticket < b.ticket

theorem Event.Before.trans {a b c : Event κ (ℕ × π)} (hab : a.Before b) (hbc : b.Before c) :
    a.Before c := by
  rcases hab with hab | ⟨hab, tab⟩ <;> rcases hbc with hbc | ⟨hbc, tbc⟩
  · exact .inl (UInt64.lt_trans hab hbc)
  · exact .inl (hbc ▸ hab)
  · exact .inl (hab ▸ hbc)
  · exact .inr ⟨hab.trans hbc, tab.trans tbc⟩

/-- The queue is in dispatch order, and holds what was scheduled and not yet
    dispatched. -/
structure SchedulerOk (r : SchedulerRun κ π) : Prop where
  ordered : r.sched.eq.Pairwise Event.Before
  kept : (r.dispatched ++ r.sched.eq).Perm r.scheduled
  tickets : r.scheduled.map Event.ticket = List.range r.scheduled.length
  sequence : ∀ e ∈ r.scheduled, e.sequence = 0

theorem schedulerOk_init : SchedulerOk (schedulerRunInit (κ := κ) (π := π)) :=
  ⟨List.Pairwise.nil, List.Perm.refl _, rfl, by simp [schedulerRunInit]⟩

theorem SchedulerOk.schedule {r : SchedulerRun κ π} (I : SchedulerOk r) (a : EventArgs κ π) :
    SchedulerOk (r.schedule a) := by
  have hpending : ∀ p ∈ r.sched.eq, p ∈ r.scheduled := fun p hp =>
    I.kept.mem_iff.mp (List.mem_append_right _ hp)
  have hticket : ∀ p ∈ r.sched.eq, p.ticket < r.scheduled.length := by
    intro p hp
    rw [← List.mem_range, ← I.tickets]
    exact List.mem_map_of_mem (hpending p hp)
  constructor
  · refine eventQueuePush_pairwise (R := Event.Before) (fun _ _ _ => Event.Before.trans) ?_ ?_
      I.ordered
    · -- an event that is not after the new one was scheduled earlier
      intro p hp hnot
      simp only [Event.notAfter, Bool.or_eq_true, decide_eq_true_eq, Bool.and_eq_true,
        beq_iff_eq] at hnot
      rcases hnot with hlt | ⟨heq, -⟩
      · exact .inl hlt
      · exact .inr ⟨heq, hticket p hp⟩
    · intro p hp hnot
      have hseq : p.sequence ≤ (a.event r.scheduled.length).sequence := by
        rw [I.sequence p (hpending p hp)]
        exact UInt64.le_refl 0
      simp only [Event.notAfter, Bool.or_eq_false_iff, decide_eq_false_iff_not, hseq, decide_true,
        Bool.and_true, beq_eq_false_iff_ne, ne_eq] at hnot
      have hle := UInt64.not_lt.mp hnot.1
      exact .inl (UInt64.lt_of_le_of_ne hle (Ne.symm hnot.2))
  · have hpush : (r.dispatched ++ eventQueuePush r.sched.eq (a.event r.scheduled.length)).Perm
        (r.dispatched ++ (r.sched.eq ++ [a.event r.scheduled.length])) :=
      List.Perm.append_left _
        ((eventQueuePush_perm _ _).trans (List.perm_append_singleton _ _).symm)
    refine hpush.trans ?_
    rw [← List.append_assoc]
    exact I.kept.append_right _
  · simp only [SchedulerRun.schedule, List.map_append, I.tickets, List.length_append,
      List.length_singleton, List.range_succ]
    rfl
  · intro e he
    rcases List.mem_append.mp he with he | he
    · exact I.sequence e he
    · obtain rfl := List.mem_singleton.mp he
      rfl

theorem SchedulerOk.schedules {r : SchedulerRun κ π} (I : SchedulerOk r)
    (pushes : List (EventArgs κ π)) : SchedulerOk (pushes.foldl SchedulerRun.schedule r) := by
  induction pushes generalizing r with
  | nil => exact I
  | cons a pushes ih => exact ih (I.schedule a)

/-- The event that a step pops was pending and is so no more. -/
theorem SchedulerOk.pop {r : SchedulerRun κ π} (I : SchedulerOk r) {e : Event κ (ℕ × π)}
    {sched : Scheduler κ (ℕ × π)} (h : schedulerStep r.sched = some (e, sched)) :
    SchedulerOk { r with sched := sched, dispatched := r.dispatched ++ [e] } := by
  obtain ⟨hq, -, -⟩ := schedulerStep_eq_some h
  refine ⟨?_, ?_, I.tickets, I.sequence⟩
  · have hord := I.ordered
    rw [hq] at hord
    exact (List.pairwise_cons.mp hord).2
  · have hkept := I.kept
    rw [hq] at hkept
    simpa using hkept

theorem SchedulerOk.step {r : SchedulerRun κ π} (I : SchedulerOk r)
    (pushes : List (EventArgs κ π)) : SchedulerOk (r.step pushes) := by
  rcases r.step_cases pushes with ⟨-, he⟩ | ⟨e, sched, hstep, more, -, he⟩
  · rw [he]
    exact I
  · rw [he]
    exact (I.pop hstep).schedules more

theorem SchedulerOk.call {r : SchedulerRun κ π} (I : SchedulerOk r) (c : SchedulerCall κ π) :
    SchedulerOk (schedulerCall r c) := by
  cases c with
  | schedule a => exact I.schedule a
  | register type fn => exact ⟨I.ordered, I.kept, I.tickets, I.sequence⟩
  | step pushes => exact I.step pushes

theorem schedulerOk_run (calls : List (SchedulerCall κ π)) :
    SchedulerOk (run schedulerCall schedulerRunInit calls) :=
  run_invariant SchedulerOk (fun _ c I => I.call c) calls _ schedulerOk_init

/-- The events dispatched and the events pending are together those scheduled,
    each once; a step on a queue that is not empty dispatches one, and every event
    it leaves has a later timestamp, or the same and was scheduled later. -/
theorem schedulerRun_order (calls : List (SchedulerCall κ π)) :
    let r := run schedulerCall schedulerRunInit calls
    (r.dispatched ++ r.sched.eq).Perm r.scheduled ∧ (r.scheduled.map Event.ticket).Nodup ∧
      (r.sched.eq ≠ [] → (schedulerStep r.sched).isSome = true) ∧
      ∀ e sched, schedulerStep r.sched = some (e, sched) → r.sched.eq = e :: sched.eq ∧
        ∀ e' ∈ sched.eq, e.timestamp < e'.timestamp ∨
          e.timestamp = e'.timestamp ∧ e.ticket < e'.ticket := by
  intro r
  have I : SchedulerOk r := schedulerOk_run calls
  refine ⟨I.kept, I.tickets ▸ List.nodup_range, fun hne => ?_, fun e sched hstep => ?_⟩
  · rw [Option.isSome_iff_ne_none]
    exact fun hnone => hne (schedulerStep_eq_none_iff.mp hnone)
  · obtain ⟨hq, -, -⟩ := schedulerStep_eq_some hstep
    have hord := I.ordered
    rw [hq] at hord
    exact ⟨hq, (List.pairwise_cons.mp hord).1⟩

/-! ## Clock -/

/-- `timestamp` is `now` plus a delay, without wrapping. -/
def DueFrom (now timestamp : UInt64) : Prop :=
  ∃ delay : UInt64, now.toNat + delay.toNat < 2 ^ 64 ∧ timestamp = now + delay

theorem DueFrom.le {now timestamp : UInt64} (h : DueFrom now timestamp) : now ≤ timestamp := by
  obtain ⟨delay, hlt, rfl⟩ := h
  rw [UInt64.le_iff_toNat_le, UInt64.toNat_add]
  omega

/-- The call schedules its events at the current time plus a delay; for a step
    this is the time at which the callback runs. -/
def ScheduledOnTime (r : SchedulerRun κ π) : SchedulerCall κ π → Prop
  | .schedule a => DueFrom r.sched.now a.timestamp
  | .register _ _ => True
  | .step pushes => ∀ e sched, schedulerStep r.sched = some (e, sched) →
      ∀ a ∈ pushes, DueFrom sched.now a.timestamp

/-- The queue is in order of time and nothing pending is in the past. -/
structure ClockOk (r : SchedulerRun κ π) : Prop where
  order : SchedulerOk r
  due : ∀ e ∈ r.sched.eq, r.sched.now ≤ e.timestamp

/-- What a step finds: the first event's time, which is the time of its callback. -/
theorem ClockOk.pop {r : SchedulerRun κ π} (I : ClockOk r) {e : Event κ (ℕ × π)}
    {sched : Scheduler κ (ℕ × π)} (h : schedulerStep r.sched = some (e, sched)) :
    sched.now = e.timestamp ∧ ∀ e' ∈ sched.eq, sched.now ≤ e'.timestamp := by
  obtain ⟨hq, -, -⟩ := schedulerStep_eq_some h
  have hdue : r.sched.now ≤ e.timestamp := I.due e (by rw [hq]; exact List.mem_cons_self)
  have hnow : sched.now = e.timestamp := by
    rw [schedulerStep_now h]
    split_ifs with hlt
    · rfl
    · exact UInt64.le_antisymm hdue (UInt64.not_lt.mp hlt)
  refine ⟨hnow, fun e' he' => ?_⟩
  have hord := I.order.ordered
  rw [hq] at hord
  rw [hnow]
  rcases (List.pairwise_cons.mp hord).1 e' he' with hlt | ⟨heq, -⟩
  · exact UInt64.le_of_lt hlt
  · exact UInt64.le_of_eq heq

theorem ClockOk.schedule {r : SchedulerRun κ π} (I : ClockOk r) {a : EventArgs κ π}
    (ha : DueFrom r.sched.now a.timestamp) : ClockOk (r.schedule a) := by
  refine ⟨I.order.schedule a, fun e he => ?_⟩
  rcases mem_schedulerSchedule.mp he with rfl | he
  · exact ha.le
  · exact I.due e he

theorem ClockOk.schedules {r : SchedulerRun κ π} (I : ClockOk r) {pushes : List (EventArgs κ π)}
    (h : ∀ a ∈ pushes, DueFrom r.sched.now a.timestamp) :
    ClockOk (pushes.foldl SchedulerRun.schedule r) := by
  induction pushes generalizing r with
  | nil => exact I
  | cons a pushes ih =>
    -- scheduling does not move the clock
    exact ih (I.schedule (h a List.mem_cons_self)) fun b hb => h b (List.mem_cons_of_mem _ hb)

theorem ClockOk.call {r : SchedulerRun κ π} (I : ClockOk r) {c : SchedulerCall κ π}
    (h : ScheduledOnTime r c) : ClockOk (schedulerCall r c) := by
  cases c with
  | schedule a => exact I.schedule h
  | register type fn => exact ⟨I.order.call (.register type fn), I.due⟩
  | step pushes =>
    show ClockOk (r.step pushes)
    rcases r.step_cases pushes with ⟨-, he⟩ | ⟨e, sched, hstep, more, hmore, he⟩
    · rw [he]
      exact I
    · have I' : ClockOk { r with sched := sched, dispatched := r.dispatched ++ [e] } :=
        ⟨I.order.pop hstep, (I.pop hstep).2⟩
      rw [he]
      refine I'.schedules fun a ha => ?_
      rcases hmore with rfl | rfl
      · exact absurd ha List.not_mem_nil
      · exact h e sched hstep a ha

theorem foldl_schedule_now (pushes : List (EventArgs κ π)) (r : SchedulerRun κ π) :
    (pushes.foldl SchedulerRun.schedule r).sched.now = r.sched.now := by
  induction pushes generalizing r with
  | nil => rfl
  | cons a pushes ih => exact ih (r.schedule a)

/-- The clock never goes back, whatever is scheduled. -/
theorem now_le_schedulerCall (r : SchedulerRun κ π) (c : SchedulerCall κ π) :
    r.sched.now ≤ (schedulerCall r c).sched.now := by
  cases c with
  | schedule a => exact UInt64.le_refl _
  | register type fn => exact UInt64.le_refl _
  | step pushes =>
    show r.sched.now ≤ (r.step pushes).sched.now
    rcases r.step_cases pushes with ⟨-, he⟩ | ⟨e, sched, hstep, more, -, he⟩
    · rw [he]
      exact UInt64.le_refl _
    · rw [he, foldl_schedule_now]
      exact (schedulerStep_eq_some hstep).2.2

/-- Every event is scheduled at the current time plus a delay: then nothing
    pending is in the past, the clock never goes back, and the callback of an
    event runs at the event's own time. -/
theorem schedulerRun_clock (calls : List (SchedulerCall κ π))
    (h : Guarded schedulerCall ScheduledOnTime schedulerRunInit calls) :
    let r := run schedulerCall schedulerRunInit calls
    (∀ e ∈ r.sched.eq, r.sched.now ≤ e.timestamp) ∧
      (∀ c, r.sched.now ≤ (schedulerCall r c).sched.now) ∧
      ∀ e sched, schedulerStep r.sched = some (e, sched) → sched.now = e.timestamp := by
  intro r
  have I : ClockOk r := guarded_invariant ClockOk (fun _ _ hc I => I.call hc) calls _ h
    ⟨schedulerOk_init, by simp [schedulerRunInit, schedulerCreate]⟩
  exact ⟨I.due, now_le_schedulerCall r, fun e sched hstep => (I.pop hstep).1⟩

/-- A callback that runs at 5 and schedules for 5 and for 7. -/
def clockExample : List (SchedulerCall ℕ ℕ) :=
  [.schedule { type := .render, timestamp := 5, payload := 0, handler := some 0 },
    .step [{ type := .render, timestamp := 5, payload := 1 },
      { type := .render, timestamp := 7, payload := 2 }]]

theorem schedulerRun_clock_clockExample :
    (run schedulerCall schedulerRunInit clockExample).sched.eq.map Event.timestamp = [5, 7] ∧
      ∀ e ∈ (run schedulerCall schedulerRunInit clockExample).sched.eq,
        (run schedulerCall schedulerRunInit clockExample).sched.now ≤ e.timestamp := by
  refine ⟨by decide +kernel, (schedulerRun_clock clockExample ⟨?_, ?_, trivial⟩).1⟩
  · exact ⟨5, by decide, rfl⟩
  · intro e sched hstep a ha
    cases hstep
    rcases List.mem_pair.mp ha with rfl | rfl
    · exact ⟨0, by decide, rfl⟩
    · exact ⟨2, by decide, rfl⟩

end FrameRunner
