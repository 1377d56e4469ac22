import FrameRunner.Engine.Event

/-!
# Scheduler (`engine/scheduler.c`)

`scheduler_step` pops the first event and runs its own handler, or else the
fallback registered for its type. `schedulerStep` returns the popped event and
`schedulerDispatch` the callback that runs on it: what the callback does is the
business of the module that owns it. A failing `malloc` is not modelled.
-/

namespace FrameRunner

/-- `Scheduler`. -/
structure Scheduler (κ π : Type) where
  eq : List (Event κ π)
  now : UInt64
  handlers : EventType → Option κ

variable {κ π : Type}

/-- `scheduler_create` (lines 6–27). -/
def schedulerCreate : Scheduler κ π where
  eq := []
  now := 0
  handlers := fun _ => none

/-- `scheduler_register` (lines 43–53). -/
def schedulerRegister (s : Scheduler κ π) (type : EventType) (fn : Option κ) : Scheduler κ π :=
  { s with handlers := Function.update s.handlers type fn }

/-- `scheduler_schedule` (lines 55–60). -/
def schedulerSchedule (s : Scheduler κ π) (e : Event κ π) : Scheduler κ π :=
  { s with eq := eventQueuePush s.eq e }

/-- The callback that `scheduler_step` runs on an event (lines 72–79). -/
def schedulerDispatch (s : Scheduler κ π) (e : Event κ π) : Option κ :=
  match e.handler with
  | some handler => some handler
  | none => s.handlers e.type

/-- `scheduler_step` (lines 62–83) up to the callback: the popped event and the
    scheduler that the callback finds. -/
def schedulerStep (s : Scheduler κ π) : Option (Event κ π × Scheduler κ π) :=
  match eventQueuePop s.eq with
  | none => none
  | some (e, eq) =>
    some (e, { s with eq := eq, now := if e.timestamp > s.now then e.timestamp else s.now })

@[simp] theorem schedulerSchedule_handlers (s : Scheduler κ π) (e : Event κ π) :
    (schedulerSchedule s e).handlers = s.handlers := rfl

@[simp] theorem schedulerSchedule_now (s : Scheduler κ π) (e : Event κ π) :
    (schedulerSchedule s e).now = s.now := rfl

@[simp] theorem mem_schedulerSchedule {s : Scheduler κ π} {e x : Event κ π} :
    x ∈ (schedulerSchedule s e).eq ↔ x = e ∨ x ∈ s.eq := by
  simp [schedulerSchedule]

theorem schedulerStep_eq_none_iff {s : Scheduler κ π} : schedulerStep s = none ↔ s.eq = [] := by
  unfold schedulerStep eventQueuePop
  cases s.eq <;> simp

/-- The clock moves to the event that is popped, unless it is there already. -/
theorem schedulerStep_now {s s' : Scheduler κ π} {e : Event κ π}
    (h : schedulerStep s = some (e, s')) :
    s'.now = if e.timestamp > s.now then e.timestamp else s.now := by
  unfold schedulerStep at h
  split at h
  · cases h
  · cases h
    rfl

/-- The clock of a callback is not behind its event. -/
theorem timestamp_le_schedulerStep {s s' : Scheduler κ π} {e : Event κ π}
    (h : schedulerStep s = some (e, s')) : e.timestamp ≤ s'.now := by
  rw [schedulerStep_now h]
  split_ifs with hlt
  · exact UInt64.le_refl _
  · exact UInt64.not_lt.mp hlt

/-- A step takes its event off the queue and changes no fallback. -/
theorem schedulerStep_eq_some {s s' : Scheduler κ π} {e : Event κ π}
    (h : schedulerStep s = some (e, s')) :
    s.eq = e :: s'.eq ∧ s'.handlers = s.handlers ∧ s.now ≤ s'.now := by
  have hnow : s.now ≤ s'.now := by
    rw [schedulerStep_now h]
    split_ifs with hlt
    · exact UInt64.le_of_lt hlt
    · exact UInt64.le_refl _
  unfold schedulerStep eventQueuePop at h
  cases hq : s.eq with
  | nil => simp [hq] at h
  | cons x rest =>
    simp only [hq, Option.some.injEq, Prod.mk.injEq] at h
    obtain ⟨rfl, rfl⟩ := h
    exact ⟨rfl, rfl, hnow⟩

/-- The first event of the queue is the one that a step pops. -/
theorem exists_schedulerStep {s : Scheduler κ π} {e : Event κ π} {rest : List (Event κ π)}
    (h : s.eq = e :: rest) : ∃ s', schedulerStep s = some (e, s') ∧ s'.eq = rest := by
  unfold schedulerStep eventQueuePop
  rw [h]
  exact ⟨_, rfl, rfl⟩

end FrameRunner
