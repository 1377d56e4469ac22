import FrameRunner.Engine.Order

/-!
# Periodic timers

A module keeps a timer alive by itself: the callback of the event schedules the event of the
next round, one interval after the current time. Nothing else guards such a timer. A round that
schedules nothing ends it, and one that schedules twice doubles it.

* `Armed s k d p`: the timer with the callback `k` and the interval `d` is pending once, at `p`.
* `Armed.schedule`, `Armed.step`: what other modules schedule and what is dispatched before the
  timer leaves it alone.
* `Armed.fire`, `armed_schedule`: its event is dispatched at `p`, and the next round arms it
  again.
* `ArmedAll`: a module with several timers, on a queue in the order of time.
-/

namespace FrameRunner

variable {κ π : Type} [DecidableEq κ]

/-- The pending times of the events with the callback `k`. -/
def Scheduler.timers (s : Scheduler κ π) (k : κ) : List UInt64 :=
  (s.eq.filter fun e => decide (e.handler = some k)).map Event.timestamp

/-- The queue is in the order of time. -/
def Scheduler.Sorted (s : Scheduler κ π) : Prop :=
  s.eq.Pairwise fun a b => a.timestamp ≤ b.timestamp

/-- The timer is pending once, at a multiple of its interval that is not past and not more than
    an interval away. -/
structure Armed (s : Scheduler κ π) (k : κ) (d p : UInt64) : Prop where
  one : s.timers k = [p]
  now_le : s.now ≤ p
  le : p.toNat ≤ s.now.toNat + d.toNat
  dvd : d.toNat ∣ p.toNat

variable {s s' : Scheduler κ π} {e : Event κ π} {k : κ} {d p : UInt64}

omit [DecidableEq κ] in
theorem Scheduler.Sorted.schedule (h : s.Sorted) (e : Event κ π) : (schedulerSchedule s e).Sorted :=
  eventQueuePush_sorted h e

omit [DecidableEq κ] in
theorem Scheduler.Sorted.step (h : s.Sorted) (hstep : schedulerStep s = some (e, s')) :
    s'.Sorted ∧ ∀ x ∈ s'.eq, e.timestamp ≤ x.timestamp := by
  have hq : (e :: s'.eq).Pairwise fun a b => a.timestamp ≤ b.timestamp := by
    rw [← (schedulerStep_eq_some hstep).1]
    exact h
  exact ⟨(List.pairwise_cons.mp hq).2, (List.pairwise_cons.mp hq).1⟩

/-! ## The pending times -/

theorem timers_schedule_perm (s : Scheduler κ π) (e : Event κ π) (k : κ) :
    ((schedulerSchedule s e).timers k).Perm
      (if e.handler = some k then e.timestamp :: s.timers k else s.timers k) := by
  have hperm : ((schedulerSchedule s e).timers k).Perm
      (((e :: s.eq).filter fun e => decide (e.handler = some k)).map Event.timestamp) :=
    ((eventQueuePush_perm s.eq e).filter _).map _
  rw [List.filter_cons] at hperm
  by_cases hk : e.handler = some k
  · simp only [hk, decide_true, if_true, List.map_cons] at hperm
    rw [if_pos hk]
    exact hperm
  · simp only [hk, decide_false, Bool.false_eq_true, if_false] at hperm
    rw [if_neg hk]
    exact hperm

theorem timers_schedule_other (s : Scheduler κ π) (hk : e.handler ≠ some k) {ps : List UInt64}
    (h : (s.timers k).Perm ps) : ((schedulerSchedule s e).timers k).Perm ps := by
  have := timers_schedule_perm s e k
  rw [if_neg hk] at this
  exact this.trans h

theorem timers_step (hstep : schedulerStep s = some (e, s')) (k : κ) :
    s.timers k = if e.handler = some k then e.timestamp :: s'.timers k else s'.timers k := by
  unfold Scheduler.timers
  rw [(schedulerStep_eq_some hstep).1, List.filter_cons]
  by_cases hk : e.handler = some k
  · simp only [hk, decide_true, if_true, List.map_cons]
  · simp only [hk, decide_false, Bool.false_eq_true, if_false]

theorem mem_timers {t : UInt64} :
    t ∈ s.timers k ↔ ∃ e ∈ s.eq, e.handler = some k ∧ e.timestamp = t := by
  simp only [Scheduler.timers, List.mem_map, List.mem_filter, decide_eq_true_eq, and_assoc]

/-! ## The rules -/

/-- An event of somebody else is scheduled. -/
theorem Armed.schedule (h : Armed s k d p) (hk : e.handler ≠ some k) :
    Armed (schedulerSchedule s e) k d p where
  one := List.perm_singleton.mp (timers_schedule_other s hk (h.one ▸ List.Perm.refl _))
  now_le := h.now_le
  le := h.le
  dvd := h.dvd

theorem Armed.schedules (h : Armed s k d p) {es : List (Event κ π)}
    (hk : ∀ e ∈ es, e.handler ≠ some k) : Armed (es.foldl schedulerSchedule s) k d p :=
  List.foldlRecOn (motive := fun s : Scheduler κ π => Armed s k d p) es schedulerSchedule h
    fun _ hs e he => hs.schedule (hk e he)

omit [DecidableEq κ] in
theorem Scheduler.Sorted.schedules (h : s.Sorted) (es : List (Event κ π)) :
    (es.foldl schedulerSchedule s).Sorted :=
  List.foldlRecOn (motive := Scheduler.Sorted) es schedulerSchedule h
    fun _ hs e _ => hs.schedule e

omit [DecidableEq κ] in
/-- Scheduling takes no time and registers nothing. -/
theorem foldl_schedulerSchedule_frame (es : List (Event κ π)) (s : Scheduler κ π) :
    (es.foldl schedulerSchedule s).now = s.now ∧
      (es.foldl schedulerSchedule s).handlers = s.handlers :=
  List.foldlRecOn (motive := fun s' : Scheduler κ π => s'.now = s.now ∧ s'.handlers = s.handlers)
    es schedulerSchedule ⟨rfl, rfl⟩ fun _ hs _ _ => hs

/-- An event of somebody else is dispatched. -/
theorem Armed.step (h : Armed s k d p) (hsorted : s.Sorted) (hstep : schedulerStep s = some (e, s'))
    (hk : e.handler ≠ some k) : Armed s' k d p := by
  have hone := timers_step hstep k
  rw [if_neg hk, h.one] at hone
  obtain ⟨x, hx, -, hxp⟩ := mem_timers.mp (show p ∈ s'.timers k by rw [← hone]; simp)
  -- the timer is behind the event in the queue, so the clock does not pass it
  have hle : e.timestamp ≤ p := hxp ▸ (hsorted.step hstep).2 x hx
  have hnow : s'.now ≤ p := by
    rw [schedulerStep_now hstep]
    split_ifs
    · exact hle
    · exact h.now_le
  exact ⟨hone.symm, hnow, h.le.trans (Nat.add_le_add_right (schedulerStep_eq_some hstep).2.2 _),
    h.dvd⟩

/-- The timer's own event is dispatched, and no other one is left. -/
theorem Armed.fire (h : Armed s k d p) (hstep : schedulerStep s = some (e, s'))
    (hk : e.handler = some k) : s'.now = p ∧ s'.timers k = [] := by
  have hone := timers_step hstep k
  rw [if_pos hk, h.one, List.cons.injEq] at hone
  refine ⟨?_, hone.2.symm⟩
  rw [schedulerStep_now hstep, ← hone.1]
  split_ifs with hlt
  · rfl
  · exact UInt64.le_antisymm h.now_le (UInt64.not_lt.mp hlt)

/-- The next round is scheduled. -/
theorem armed_schedule (hnone : s.timers k = []) (hwrap : s.now.toNat + d.toNat < 2 ^ 64)
    (hdvd : d.toNat ∣ s.now.toNat) (hk : e.handler = some k) (he : e.timestamp = s.now + d) :
    Armed (schedulerSchedule s e) k d (s.now + d) := by
  have hsum : (s.now + d).toNat = s.now.toNat + d.toNat := by
    rw [UInt64.toNat_add]
    exact Nat.mod_eq_of_lt hwrap
  have hperm := timers_schedule_perm s e k
  rw [if_pos hk, hnone, he] at hperm
  refine ⟨List.perm_singleton.mp hperm, ?_, hsum.le, ?_⟩
  · rw [UInt64.le_iff_toNat_le, hsum]
    exact Nat.le_add_right _ _
  · rw [hsum]
    exact dvd_add hdvd (dvd_refl _)

/-- What is scheduled is not this timer's. -/
theorem timers_schedule_nil (hnone : s.timers k = []) (hk : e.handler ≠ some k) :
    (schedulerSchedule s e).timers k = [] :=
  List.perm_nil.mp (timers_schedule_other s hk (hnone ▸ List.Perm.refl _))

theorem timers_schedules_nil (hnone : s.timers k = []) {es : List (Event κ π)}
    (hk : ∀ e ∈ es, e.handler ≠ some k) : (es.foldl schedulerSchedule s).timers k = [] :=
  List.foldlRecOn (motive := fun s : Scheduler κ π => s.timers k = []) es schedulerSchedule hnone
    fun _ hs e he => timers_schedule_nil hs (hk e he)

/-! ## The timers of a module -/

section
variable {ι : Type} [DecidableEq ι] {fn : ι → κ} {interval next : ι → UInt64}

/-- Each timer of the family is armed; timer `j` has the callback `fn j`. -/
structure ArmedAll (s : Scheduler κ π) (fn : ι → κ) (interval next : ι → UInt64) : Prop where
  sorted : s.Sorted
  armed : ∀ j, Armed s (fn j) (interval j) (next j)

omit [DecidableEq ι] in
theorem ArmedAll.schedules (h : ArmedAll s fn interval next) (es : List (Event κ π))
    (hes : ∀ e ∈ es, ∀ j, e.handler ≠ some (fn j)) :
    ArmedAll (es.foldl schedulerSchedule s) fn interval next :=
  ⟨h.sorted.schedules es, fun j => (h.armed j).schedules fun e he => hes e he j⟩

omit [DecidableEq ι] in
theorem ArmedAll.step (h : ArmedAll s fn interval next) (hstep : schedulerStep s = some (e, s'))
    (he : ∀ j, e.handler ≠ some (fn j)) : ArmedAll s' fn interval next :=
  ⟨(h.sorted.step hstep).1, fun j => (h.armed j).step h.sorted hstep (he j)⟩

omit [DecidableEq ι] in
/-- No clock passes a timer. -/
theorem ArmedAll.now_le (h : ArmedAll s fn interval next) (j : ι) : s.now.toNat ≤ (next j).toNat :=
  (h.armed j).now_le

/-- The event of timer `j` is dispatched, on time, and its callback schedules `es` and the next
    round. -/
theorem ArmedAll.fire (h : ArmedAll s fn interval next) (hfn : Function.Injective fn)
    (hstep : schedulerStep s = some (e, s')) {j : ι} (hj : e.handler = some (fn j))
    (hwrap : s'.now.toNat + (interval j).toNat < 2 ^ 64) {es : List (Event κ π)}
    (hes : ∀ e ∈ es, ∀ j, e.handler ≠ some (fn j)) (e' : Event κ π)
    (he' : e'.handler = some (fn j)) (htime : e'.timestamp = s'.now + interval j) :
    s'.now = next j ∧ ArmedAll (schedulerSchedule (es.foldl schedulerSchedule s') e') fn interval
      (Function.update next j (s'.now + interval j)) := by
  obtain ⟨hnow, hnone⟩ := (h.armed j).fire hstep hj
  obtain ⟨hnow', -⟩ := foldl_schedulerSchedule_frame es s'
  refine ⟨hnow, ((h.sorted.step hstep).1.schedules es).schedule e', fun i => ?_⟩
  by_cases hij : i = j
  · subst hij
    rw [Function.update_self, ← hnow']
    refine armed_schedule (timers_schedules_nil hnone fun e he => hes e he i) ?_ ?_ he' ?_
    · rw [hnow']
      exact hwrap
    · rw [hnow', hnow]
      exact (h.armed i).dvd
    · rw [hnow', htime]
  · rw [Function.update_of_ne hij]
    have hne : fn j ≠ fn i := fun hf => hij (hfn hf).symm
    have hrest := (h.armed i).step h.sorted hstep (by rw [hj]; exact fun hf => hne (Option.some.inj hf))
    refine (hrest.schedules fun e he => hes e he i).schedule ?_
    rw [he']
    exact fun hf => hne (Option.some.inj hf)

end

end FrameRunner
