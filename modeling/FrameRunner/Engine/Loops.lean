import FrameRunner.Engine.Scheduler

/-!
# The run loops (`engine/scheduler.c`, `engine/simulator.c`)

`scheduler_run` and `simulator_run` step the scheduler until something stops them. A callback
is code of its own: it runs inside a step, calls the scheduler and the simulator at any point
and may start a step or a run from within. So a run is a machine: the code that runs, the
calls that wait below it, and the outermost loop.

`simulatorRun_iff_schedulerRun`: without an end time the two loops are the same.
-/

namespace FrameRunner

variable {κ π W L : Type}

/-! ## Callbacks -/

/-- `Simulator` with its scheduler. `running` is the scheduler's and is 0 or 1; `world` is what
    else the callbacks read and write. -/
structure Simulator (κ π W : Type) where
  sched : Scheduler κ π
  running : Bool
  endTime : UInt64
  world : W

/-- `scheduler_run` and `simulator_run`. -/
inductive RunLoop where
  | schedulerRun
  | simulatorRun
  deriving DecidableEq

/-- What the code of a callback does next, and where it then goes on; a call that returns an
    `int` goes on with it. `compute` is code without a call. -/
inductive HandlerCall (κ π L : Type) where
  | compute (next : L)
  | schedule (e : Event κ π) (next : L)
  | register (type : EventType) (fn : Option κ) (next : L)
  | stop (next : L)
  | setEndTime (endUs : UInt64) (next : L)
  | step (next : ℤ → L)
  | run (loop : RunLoop) (next : ℤ → L)
  | done

/-- The code of all callbacks: where it starts on an event, and what it does at a point,
    reading the scheduler, `running` and its own data. No function tells it `end_time`. -/
structure Callbacks (κ π W L : Type) where
  enter : κ → Event κ π → L
  act : L → Scheduler κ π → Bool → W → W × HandlerCall κ π L

/-! ## The machine -/

/-- A call that waits for the step that it has started: a callback, or a loop that a callback
    has started. -/
inductive Frame (L : Type) where
  | callback (resume : ℤ → L)
  | loop (loop : RunLoop)

/-- Whether a step is about to start, a callback runs, a call has returned its `int` to the
    frame below, or the outermost loop has returned. -/
inductive Control (L : Type) where
  | step
  | code (l : L)
  | ret (result : ℤ)
  | returned

/-- A simulator with a run in progress and the events that were dispatched in it. -/
structure Machine (κ π W L : Type) where
  sim : Simulator κ π W
  frames : List (Frame L)
  control : Control L
  dispatched : List (Event κ π)

/-- The part of a loop that follows a step: `scheduler.c`, lines 87–90, and `simulator.c`,
    lines 35–44. The flag says whether the loop goes on. -/
def RunLoop.afterStep (loop : RunLoop) (sim : Simulator κ π W) (stepState : ℤ) :
    Simulator κ π W × Bool :=
  match loop with
  | .schedulerRun =>
    if stepState = 1 ∧ sim.running = true then (sim, true)
    else ({ sim with running := false }, false)
  | .simulatorRun =>
    let sim := if stepState = 0 then { sim with running := false } else sim
    let sim := if sim.endTime > 0 ∧ sim.sched.now ≥ sim.endTime then { sim with running := false }
      else sim
    (sim, sim.running)

/-- `scheduler_step` (`scheduler.c`, lines 62–83) until its callback starts. -/
def Machine.schedulerStep (cb : Callbacks κ π W L) (m : Machine κ π W L) : Machine κ π W L :=
  match FrameRunner.schedulerStep m.sim.sched with
  | none => { m with control := .ret 0 }
  | some (e, sched) =>
    { m with
      sim := { m.sim with sched := sched }
      dispatched := m.dispatched ++ [e]
      control := match schedulerDispatch sched e with
        | some fn => .code (cb.enter fn e)
        | none => .ret 1 }

/-- What a callback's call does. A loop first sets `running`; a callback that is done ends its
    `scheduler_step`, which returns 1. -/
def Machine.call (m : Machine κ π W L) : HandlerCall κ π L → Machine κ π W L
  | .compute next => { m with control := .code next }
  | .schedule e next =>
    { m with
      sim := { m.sim with sched := schedulerSchedule m.sim.sched e }
      control := .code next }
  | .register type fn next =>
    { m with
      sim := { m.sim with sched := schedulerRegister m.sim.sched type fn }
      control := .code next }
  | .stop next => { m with sim := { m.sim with running := false }, control := .code next }
  | .setEndTime endUs next => { m with sim := { m.sim with endTime := endUs }, control := .code next }
  | .step next => { m with frames := .callback next :: m.frames, control := .step }
  | .run loop next =>
    { m with
      sim := { m.sim with running := true }
      frames := .loop loop :: .callback next :: m.frames
      control := .step }
  | .done => { m with control := .ret 1 }

/-- A call returns to the frame below it, or to the outermost loop. -/
def Machine.ret (outer : RunLoop) (m : Machine κ π W L) (result : ℤ) : Machine κ π W L :=
  match m.frames with
  | .callback resume :: frames => { m with frames := frames, control := .code (resume result) }
  | .loop inner :: frames =>
    match inner.afterStep m.sim result with
    | (sim, true) => { m with sim := sim, control := .step }
    | (sim, false) => { m with sim := sim, frames := frames, control := .ret 0 }
  | [] =>
    match outer.afterStep m.sim result with
    | (sim, true) => { m with sim := sim, control := .step }
    | (sim, false) => { m with sim := sim, control := .returned }

/-- One step of the machine in a run of the loop `outer`. -/
def Machine.next (cb : Callbacks κ π W L) (outer : RunLoop) (m : Machine κ π W L) :
    Machine κ π W L :=
  match m.control with
  | .step => m.schedulerStep cb
  | .code l =>
    let (world, c) := cb.act l m.sim.sched m.sim.running m.sim.world
    Machine.call { m with sim := { m.sim with world := world } } c
  | .ret result => m.ret outer result
  | .returned => m

/-- A loop is called: it sets `running` and steps. -/
def Machine.start (sim : Simulator κ π W) : Machine κ π W L where
  sim := { sim with running := true }
  frames := []
  control := .step
  dispatched := []

/-- The machine after `n` steps of a run of the loop `outer` that starts in `sim`. -/
def machineAt (cb : Callbacks κ π W L) (outer : RunLoop) (sim : Simulator κ π W) (n : ℕ) :
    Machine κ π W L :=
  (Machine.next cb outer)^[n] (Machine.start sim)

theorem machineAt_succ (cb : Callbacks κ π W L) (outer : RunLoop) (sim : Simulator κ π W) (n : ℕ) :
    machineAt cb outer sim (n + 1) = (machineAt cb outer sim n).next cb outer :=
  Function.iterate_succ_apply' _ _ _

/-- The run dispatches these events first, in this order. -/
def Dispatches (cb : Callbacks κ π W L) (outer : RunLoop) (sim : Simulator κ π W)
    (events : List (Event κ π)) : Prop :=
  ∃ n, (machineAt cb outer sim n).dispatched = events

/-- The run ends in `sim'`, with these events dispatched. -/
def Returns (cb : Callbacks κ π W L) (outer : RunLoop) (sim sim' : Simulator κ π W)
    (events : List (Event κ π)) : Prop :=
  ∃ n, machineAt cb outer sim n =
    { sim := sim', frames := [], control := .returned, dispatched := events }

/-! ## Without an end time -/

section Results

variable {cb : Callbacks κ π W L} {m : Machine κ π W L} {result : ℤ}

theorem Machine.schedulerStep_result (h : (m.schedulerStep cb).control = .ret result) :
    result = 0 ∨ result = 1 := by
  unfold Machine.schedulerStep at h
  cases hstep : FrameRunner.schedulerStep m.sim.sched with
  | none =>
    simp only [hstep, Control.ret.injEq] at h
    exact .inl h.symm
  | some p =>
    simp only [hstep] at h
    cases hfn : schedulerDispatch p.2 p.1 with
    | none =>
      simp only [hfn, Control.ret.injEq] at h
      exact .inr h.symm
    | some fn => simp [hfn] at h

theorem Machine.call_result {c : HandlerCall κ π L} (h : (m.call c).control = .ret result) :
    result = 1 := by
  cases c with
  | done => exact (Control.ret.inj h).symm
  | _ => cases h

theorem Machine.ret_result {outer : RunLoop} {r : ℤ}
    (h : (m.ret outer r).control = .ret result) : result = 0 := by
  unfold Machine.ret at h
  split at h
  · cases h
  · split at h
    · cases h
    · exact (Control.ret.inj h).symm
  · split at h <;> cases h

/-- A `scheduler_step` and a loop return 0 or 1. -/
theorem Machine.next_result {outer : RunLoop} (h : (m.next cb outer).control = .ret result) :
    result = 0 ∨ result = 1 := by
  unfold Machine.next at h
  split at h
  · exact Machine.schedulerStep_result h
  · exact .inr (Machine.call_result h)
  · exact .inl (Machine.ret_result h)
  · rename_i hcontrol
    rw [hcontrol] at h
    cases h

end Results

theorem machineAt_result {cb : Callbacks κ π W L} {outer : RunLoop} {sim : Simulator κ π W} {n : ℕ}
    {result : ℤ} (h : (machineAt cb outer sim n).control = .ret result) :
    result = 0 ∨ result = 1 := by
  cases n with
  | zero => cases h
  | succ n =>
    rw [machineAt_succ] at h
    exact Machine.next_result h

/-- After a step the two loops go on or not alike, and leave the same state. -/
theorem afterStep_eq {sim : Simulator κ π W} {result : ℤ} (hresult : result = 0 ∨ result = 1)
    (hend : sim.endTime = 0) :
    RunLoop.simulatorRun.afterStep sim result = RunLoop.schedulerRun.afterStep sim result := by
  obtain ⟨sched, running, endTime, world⟩ := sim
  obtain rfl : endTime = 0 := hend
  rcases hresult with rfl | rfl
  · -- the queue was empty
    simp [RunLoop.afterStep]
  · cases running <;> simp [RunLoop.afterStep]

theorem Machine.next_eq {cb : Callbacks κ π W L} {m : Machine κ π W L}
    (hresult : ∀ result, m.control = .ret result → result = 0 ∨ result = 1)
    (hend : ∀ result, m.frames = [] → m.control = .ret result → m.sim.endTime = 0) :
    m.next cb .simulatorRun = m.next cb .schedulerRun := by
  unfold Machine.next
  cases hcontrol : m.control with
  | ret result =>
    dsimp only
    unfold Machine.ret
    cases hframes : m.frames with
    | nil =>
      dsimp only
      rw [afterStep_eq (hresult result hcontrol) (hend result hframes hcontrol)]
    | cons f frames => cases f <;> rfl
  | _ => rfl

/-- Whenever a callback comes back to the loop of `simulator_run`, `end_time` is 0. -/
def LeavesEndTimeZero (cb : Callbacks κ π W L) (sim : Simulator κ π W) : Prop :=
  ∀ n result, (machineAt cb .simulatorRun sim n).frames = [] →
    (machineAt cb .simulatorRun sim n).control = .ret result →
      (machineAt cb .simulatorRun sim n).sim.endTime = 0

@[simp] theorem RunLoop.afterStep_endTime (loop : RunLoop) (sim : Simulator κ π W) (result : ℤ) :
    (loop.afterStep sim result).1.endTime = sim.endTime := by
  unfold RunLoop.afterStep
  cases loop <;> dsimp only <;> split_ifs <;> rfl

/-- A step sets no end time but one that a callback asks for. -/
theorem Machine.next_endTime {cb : Callbacks κ π W L} {outer : RunLoop} {m : Machine κ π W L}
    (h : ∀ l sched running world endUs next,
      (cb.act l sched running world).2 = .setEndTime endUs next → endUs = m.sim.endTime) :
    (m.next cb outer).sim.endTime = m.sim.endTime := by
  unfold Machine.next
  split
  · unfold Machine.schedulerStep
    split <;> rfl
  · rename_i l _
    cases hcall : (cb.act l m.sim.sched m.sim.running m.sim.world).2 with
    | setEndTime endUs next =>
      simp only [hcall, Machine.call]
      exact h _ _ _ _ _ _ hcall
    | _ => simp [hcall, Machine.call]
  · rename_i result _
    unfold Machine.ret
    split
    · rfl
    · rename_i inner frames _
      have hend := inner.afterStep_endTime m.sim result
      split <;> simp_all
    · have hend := outer.afterStep_endTime m.sim result
      split <;> simp_all
  · rfl

/-- Callbacks that set no end time but 0 leave it at 0. -/
theorem leavesEndTimeZero_of_calls {cb : Callbacks κ π W L} {sim : Simulator κ π W}
    (hend : sim.endTime = 0) (h : ∀ l sched running world endUs next,
      (cb.act l sched running world).2 = .setEndTime endUs next → endUs = 0) :
    LeavesEndTimeZero cb sim := by
  have hrun : ∀ n, (machineAt cb .simulatorRun sim n).sim.endTime = 0 := by
    intro n
    induction n with
    | zero => exact hend
    | succ n ih =>
      rw [machineAt_succ, Machine.next_endTime, ih]
      rw [ih]
      exact h
  exact fun n _ _ _ => hrun n

theorem machineAt_eq {cb : Callbacks κ π W L} {sim : Simulator κ π W}
    (h : LeavesEndTimeZero cb sim) (n : ℕ) :
    machineAt cb .simulatorRun sim n = machineAt cb .schedulerRun sim n := by
  induction n with
  | zero => rfl
  | succ n ih =>
    rw [machineAt_succ, machineAt_succ, ← ih]
    exact Machine.next_eq (fun _ => machineAt_result) (h n)

/-- Without an end time `simulator_run` dispatches what `scheduler_run` dispatches, and one
    returns exactly if the other does, in the same state. -/
theorem simulatorRun_iff_schedulerRun (cb : Callbacks κ π W L) (sim : Simulator κ π W)
    (h : LeavesEndTimeZero cb sim) :
    (∀ events, Dispatches cb .simulatorRun sim events ↔ Dispatches cb .schedulerRun sim events) ∧
      ∀ sim' events, Returns cb .simulatorRun sim sim' events ↔
        Returns cb .schedulerRun sim sim' events := by
  unfold Dispatches Returns
  simp only [machineAt_eq h, implies_true, and_self]

/-- A callback that schedules an event in 3, starts a step from within and then stops the
    scheduler. -/
def loopsExample : Callbacks ℕ ℕ Unit ℕ where
  enter fn _ := fn
  act l sched _ world :=
    (world,
      match l with
      | 0 => .schedule { type := .render, timestamp := sched.now + 3, payload := 8 } 1
      | 1 => .step fun _ => 2
      | 2 => .stop 3
      | _ => .done)

/-- The callback is pending at 5, another event at 9. -/
def loopsExampleSim : Simulator ℕ ℕ Unit where
  sched :=
    { eq := [{ type := .render, timestamp := 5, payload := 5, handler := some 0 },
        { type := .render, timestamp := 9, payload := 9 }]
      now := 0
      handlers := fun _ => none }
  running := false
  endTime := 0
  world := ()

theorem simulatorRun_iff_schedulerRun_loopsExample :
    ∃ sim' events, Returns loopsExample .simulatorRun loopsExampleSim sim' events ∧
      Returns loopsExample .schedulerRun loopsExampleSim sim' events ∧
      events.map Event.payload = [5, 8] ∧ sim'.sched.eq.map Event.payload = [9] := by
  have h : LeavesEndTimeZero loopsExample loopsExampleSim := by
    refine leavesEndTimeZero_of_calls rfl fun l sched running world endUs next hcall => ?_
    unfold loopsExample at hcall
    dsimp only at hcall
    split at hcall <;> cases hcall
  have hreturns : Returns loopsExample .schedulerRun loopsExampleSim _ _ := ⟨8, rfl⟩
  exact ⟨_, _, ((simulatorRun_iff_schedulerRun _ _ h).2 _ _).mpr hreturns, hreturns, by decide,
    by decide⟩

end FrameRunner
