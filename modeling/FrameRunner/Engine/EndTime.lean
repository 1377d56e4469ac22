import FrameRunner.Engine.Loops
import FrameRunner.Lib.Iterate

/-!
# Runs up to an end time (`engine/simulator.c`)

`simulator_run` looks at `end_time` after each step and not before the first. A run up to one
time and another up to a later one are compared with a single run up to the later time.

* `Machine.next_shift`: away from the test of the loop a step does not depend on `end_time` nor
  on what was dispatched before.
* `simulatorRun_twice_iff`: when two runs dispatch what one does, and when a run that starts
  late dispatches nothing.
-/

namespace FrameRunner

open FrameRunner.Lib

variable {κ π W L : Type}

/-- `simulator_set_end_time` (lines 67–74). -/
def simulatorSetEndTime (sim : Simulator κ π W) (endUs : UInt64) : Simulator κ π W :=
  { sim with endTime := endUs }

/-- The call leaves it to the loop when the run ends and what its end time is. -/
def HandlerCall.LeavesLoop : HandlerCall κ π L → Prop
  | .stop _ | .setEndTime _ _ | .run _ _ => False
  | _ => True

/-- No callback stops the scheduler, changes the end time or starts a run of its own, which
    would stop the scheduler when it ends. -/
def NeverStops (cb : Callbacks κ π W L) : Prop :=
  ∀ l sched running world, (cb.act l sched running world).2.LeavesLoop

/-! ## Machines that differ in the end time -/

/-- The machine with another end time, and with events that were dispatched before. -/
def Machine.shift (endTime : UInt64) (before : List (Event κ π)) (m : Machine κ π W L) :
    Machine κ π W L :=
  { m with
    sim := simulatorSetEndTime m.sim endTime
    dispatched := before ++ m.dispatched }

/-- No callback has started a run. -/
def Machine.OnlyCallbacks (m : Machine κ π W L) : Prop :=
  ∀ f ∈ m.frames, ∃ resume, f = .callback resume

/-- A step is the same whatever the end time, unless the loop looks at it. -/
theorem Machine.next_shift {cb : Callbacks κ π W L} (hcb : NeverStops cb) {m : Machine κ π W L}
    (hframes : m.OnlyCallbacks) {endTime : UInt64} (before : List (Event κ π))
    (htest : ∀ result, m.frames = [] → m.control = .ret result →
      RunLoop.simulatorRun.afterStep (simulatorSetEndTime m.sim endTime) result =
        (simulatorSetEndTime (RunLoop.simulatorRun.afterStep m.sim result).1 endTime,
          (RunLoop.simulatorRun.afterStep m.sim result).2)) :
    (m.shift endTime before).next cb .simulatorRun =
      (m.next cb .simulatorRun).shift endTime before := by
  obtain ⟨sim, frames, control, dispatched⟩ := m
  cases control with
  | step =>
    simp only [Machine.next, Machine.schedulerStep, Machine.shift, simulatorSetEndTime]
    cases FrameRunner.schedulerStep sim.sched with
    | none => rfl
    | some p => simp only [List.append_assoc]
  | code l =>
    have hcall := hcb l sim.sched sim.running sim.world
    simp only [Machine.next, Machine.shift, simulatorSetEndTime]
    cases hc : (cb.act l sim.sched sim.running sim.world).2 with
    | stop next => exact absurd hcall (by rw [hc]; exact id)
    | setEndTime endUs next => exact absurd hcall (by rw [hc]; exact id)
    | run loop next => exact absurd hcall (by rw [hc]; exact id)
    | _ => rfl
  | ret result =>
    cases frames with
    | nil =>
      have h := htest result rfl rfl
      simp only [Machine.next, Machine.ret, Machine.shift] at h ⊢
      rw [h]
      obtain ⟨sim', again⟩ := RunLoop.simulatorRun.afterStep sim result
      cases again <;> rfl
    | cons f frames =>
      obtain ⟨resume, rfl⟩ := hframes f List.mem_cons_self
      rfl
  | returned => rfl

theorem Machine.next_of_returned {cb : Callbacks κ π W L} {outer : RunLoop} {m : Machine κ π W L}
    (h : m.control = .returned) : m.next cb outer = m := by
  unfold Machine.next
  rw [h]

/-! ## What holds all along a run -/

/-- Until the loop returns nothing stops it, and a step that returns 0 has found the queue
    empty. -/
structure LoopOk (endTime : UInt64) (m : Machine κ π W L) : Prop where
  end_eq : m.sim.endTime = endTime
  frames : m.OnlyCallbacks
  running : m.control ≠ .returned → m.sim.running = true
  halted : m.control = .returned → m.frames = []
  result : ∀ result, m.control = .ret result → result = 1 ∨ result = 0 ∧ m.sim.sched.eq = []

theorem loopOk_start (sim : Simulator κ π W) :
    LoopOk (L := L) sim.endTime (Machine.start sim) where
  end_eq := rfl
  frames := fun _ hf => absurd hf List.not_mem_nil
  running := fun _ => rfl
  halted := fun h => nomatch h
  result := fun _ h => nomatch h

/-- The test of a loop that nothing has stopped. -/
theorem afterStep_running {sim : Simulator κ π W} (hrunning : sim.running = true)
    (hend : 0 < sim.endTime) (result : ℤ) :
    RunLoop.simulatorRun.afterStep sim result =
      if result = 0 ∨ sim.endTime ≤ sim.sched.now then ({ sim with running := false }, false)
      else (sim, true) := by
  unfold RunLoop.afterStep
  dsimp only
  by_cases hresult : result = 0
  · have hstop : result = 0 ∨ sim.endTime ≤ sim.sched.now := .inl hresult
    rw [if_pos hresult, if_pos hstop]
    split_ifs <;> rfl
  · rw [if_neg hresult]
    by_cases hnow : sim.endTime ≤ sim.sched.now
    · rw [if_pos ⟨hend, hnow⟩, if_pos (.inr hnow)]
    · rw [if_neg fun h => hnow h.2, if_neg fun h => h.elim hresult hnow, hrunning]

theorem LoopOk.next {cb : Callbacks κ π W L} (hcb : NeverStops cb) {endTime : UInt64}
    (hend : 0 < endTime) {m : Machine κ π W L} (I : LoopOk endTime m) :
    LoopOk endTime (m.next cb .simulatorRun) := by
  obtain ⟨rfl, hframes, hrunning, hhalted, -⟩ := I
  obtain ⟨sim, frames, control, dispatched⟩ := m
  cases control with
  | step =>
    have hrun : sim.running = true := hrunning (by simp)
    simp only [Machine.next, Machine.schedulerStep]
    cases hstep : FrameRunner.schedulerStep sim.sched with
    | none =>
      refine ⟨rfl, hframes, fun _ => hrun, fun h => (nomatch h), fun r hr => ?_⟩
      exact .inr ⟨(Control.ret.inj hr).symm, schedulerStep_eq_none_iff.mp hstep⟩
    | some p =>
      dsimp only
      cases schedulerDispatch p.2 p.1 with
      | none =>
        exact ⟨rfl, hframes, fun _ => hrun, fun h => (nomatch h),
          fun r hr => .inl (Control.ret.inj hr).symm⟩
      | some fn =>
        exact ⟨rfl, hframes, fun _ => hrun, fun h => (nomatch h), fun r hr => (nomatch hr)⟩
  | code l =>
    have hrun : sim.running = true := hrunning (by simp)
    have hcall := hcb l sim.sched sim.running sim.world
    simp only [Machine.next]
    cases hc : (cb.act l sim.sched sim.running sim.world).2 with
    | stop next => exact absurd hcall (by rw [hc]; exact id)
    | setEndTime endUs next => exact absurd hcall (by rw [hc]; exact id)
    | run loop next => exact absurd hcall (by rw [hc]; exact id)
    | step next =>
      refine ⟨rfl, fun f hf => ?_, fun _ => hrun, fun h => (nomatch h), fun r hr => (nomatch hr)⟩
      rcases List.mem_cons.mp hf with rfl | hf
      · exact ⟨next, rfl⟩
      · exact hframes f hf
    | done =>
      exact ⟨rfl, hframes, fun _ => hrun, fun h => (nomatch h),
        fun r hr => .inl (Control.ret.inj hr).symm⟩
    | _ => exact ⟨rfl, hframes, fun _ => hrun, fun h => (nomatch h), fun r hr => (nomatch hr)⟩
  | ret result =>
    have hrun : sim.running = true := hrunning (by simp)
    cases frames with
    | nil =>
      simp only [Machine.next, Machine.ret, afterStep_running hrun hend]
      by_cases hstop : result = 0 ∨ sim.endTime ≤ sim.sched.now
      · rw [if_pos hstop]
        exact ⟨rfl, hframes, fun h => absurd rfl h, fun _ => rfl, fun r hr => (nomatch hr)⟩
      · rw [if_neg hstop]
        exact ⟨rfl, hframes, fun _ => hrun, fun h => (nomatch h), fun r hr => (nomatch hr)⟩
    | cons f frames =>
      obtain ⟨resume, rfl⟩ := hframes f List.mem_cons_self
      exact ⟨rfl, fun f hf => hframes f (List.mem_cons_of_mem _ hf), fun _ => hrun,
        fun h => (nomatch h), fun r hr => (nomatch hr)⟩
  | returned => exact ⟨rfl, hframes, fun h => absurd rfl h, hhalted, fun r hr => (nomatch hr)⟩

section Runs

variable {cb : Callbacks κ π W L} {sim : Simulator κ π W} {m : Machine κ π W L}

theorem loopOk_machineAt (hcb : NeverStops cb) (hend : 0 < sim.endTime) (n : ℕ) :
    LoopOk sim.endTime (machineAt cb .simulatorRun sim n) := by
  induction n with
  | zero => exact loopOk_start sim
  | succ n ih =>
    rw [machineAt_succ]
    exact ih.next hcb hend

/-- Where the loop goes on, a later end time changes nothing. -/
theorem LoopOk.next_shift_later (hcb : NeverStops cb) {endTime later : UInt64}
    (hend : 0 < endTime) (hle : endTime ≤ later) (I : LoopOk endTime m)
    (before : List (Event κ π)) (hlive : (m.next cb .simulatorRun).control ≠ .returned) :
    (m.shift later before).next cb .simulatorRun =
      (m.next cb .simulatorRun).shift later before := by
  refine Machine.next_shift hcb I.frames before fun result hframes hcontrol => ?_
  obtain ⟨sim, frames, control, dispatched⟩ := m
  obtain rfl : sim.endTime = endTime := I.end_eq
  subst hframes hcontrol
  have hrunning : sim.running = true := I.running (by simp)
  simp only [Machine.next, Machine.ret, afterStep_running hrunning hend] at hlive ⊢
  have hgo : ¬ (result = 0 ∨ sim.endTime ≤ sim.sched.now) := by
    intro hstop
    rw [if_pos hstop] at hlive
    exact hlive rfl
  have hlater : ¬ (result = 0 ∨ later ≤ sim.sched.now) := fun h =>
    hgo (h.imp_right (UInt64.le_trans hle))
  have htest : RunLoop.simulatorRun.afterStep (simulatorSetEndTime sim later) result =
      if result = 0 ∨ later ≤ sim.sched.now then
        ({ simulatorSetEndTime sim later with running := false }, false)
      else (simulatorSetEndTime sim later, true) :=
    afterStep_running (show (simulatorSetEndTime sim later).running = true from hrunning)
      (UInt64.lt_of_lt_of_le hend hle) result
  rw [htest, if_neg hgo, if_neg hlater]

/-- What was dispatched before changes nothing. -/
theorem LoopOk.iterate_shift (hcb : NeverStops cb) {endTime : UInt64} (hend : 0 < endTime)
    (I : LoopOk endTime m) (before : List (Event κ π)) (n : ℕ) :
    (Machine.next cb .simulatorRun)^[n] (m.shift endTime before) =
      ((Machine.next cb .simulatorRun)^[n] m).shift endTime before := by
  induction n generalizing m with
  | zero => rfl
  | succ n ih =>
    rw [Function.iterate_succ_apply, Function.iterate_succ_apply, ← ih (I.next hcb hend)]
    refine congrArg _ (Machine.next_shift hcb I.frames before fun result _ _ => ?_)
    have hsame : ∀ sim : Simulator κ π W, sim.endTime = endTime →
        simulatorSetEndTime sim endTime = sim := by
      rintro sim rfl
      rfl
    rw [hsame _ I.end_eq, hsame _ ((RunLoop.afterStep_endTime _ _ _).trans I.end_eq)]

/-- As long as the run goes on, so does the one up to a later time. -/
theorem machineAt_shift (hcb : NeverStops cb) (hend : 0 < sim.endTime) {later : UInt64}
    (hle : sim.endTime ≤ later) {n : ℕ}
    (hlive : (machineAt cb .simulatorRun sim n).control ≠ .returned) :
    machineAt cb .simulatorRun (simulatorSetEndTime sim later) n =
      (machineAt cb .simulatorRun sim n).shift later [] := by
  induction n with
  | zero => rfl
  | succ n ih =>
    have hbefore : (machineAt cb .simulatorRun sim n).control ≠ .returned := by
      intro h
      rw [machineAt_succ, Machine.next_of_returned h] at hlive
      exact hlive h
    rw [machineAt_succ] at hlive
    rw [machineAt_succ, machineAt_succ, ih hbefore]
    exact (loopOk_machineAt hcb hend n).next_shift_later hcb hend hle [] hlive

end Runs

/-! ## How a run ends -/

section Ends

variable {cb : Callbacks κ π W L} {sim : Simulator κ π W} {N : ℕ} {result : ℤ}

/-- The run comes back to the test of the loop after `N` steps of the machine, for the last
    time. -/
structure EndsAt (cb : Callbacks κ π W L) (sim : Simulator κ π W) (N : ℕ) (result : ℤ) : Prop where
  frames : (machineAt cb .simulatorRun sim N).frames = []
  control : (machineAt cb .simulatorRun sim N).control = .ret result
  stops : result = 0 ∨ sim.endTime ≤ (machineAt cb .simulatorRun sim N).sim.sched.now

/-- The simulator that a run leaves which ends after `N` steps. -/
def endState (cb : Callbacks κ π W L) (sim : Simulator κ π W) (N : ℕ) : Simulator κ π W :=
  { (machineAt cb .simulatorRun sim N).sim with running := false }

theorem EndsAt.next (hcb : NeverStops cb) (hend : 0 < sim.endTime) (E : EndsAt cb sim N result) :
    machineAt cb .simulatorRun sim (N + 1) =
      { sim := endState cb sim N
        frames := []
        control := .returned
        dispatched := (machineAt cb .simulatorRun sim N).dispatched } := by
  obtain ⟨hframes, hcontrol, hstops⟩ := E
  have I := loopOk_machineAt hcb hend N
  rw [machineAt_succ]
  unfold endState
  generalize machineAt cb .simulatorRun sim N = m at *
  obtain ⟨sim', frames, control, dispatched⟩ := m
  subst hframes hcontrol
  have hend' : sim'.endTime = sim.endTime := I.end_eq
  simp only [Machine.next, Machine.ret,
    afterStep_running (I.running (by simp)) (hend' ▸ hend)]
  rw [hend', if_pos hstops]

theorem exists_endsAt (hcb : NeverStops cb) (hend : 0 < sim.endTime) {n : ℕ}
    (h : (machineAt cb .simulatorRun sim n).control = .returned) :
    ∃ N result, EndsAt cb sim N result := by
  obtain ⟨N, hlive, hnext⟩ := exists_iterate_turn (f := Machine.next cb .simulatorRun)
    (P := fun m => m.control = .returned) (s := Machine.start sim) (fun h => nomatch h) h
  change ¬ (machineAt cb .simulatorRun sim N).control = .returned at hlive
  change (machineAt cb .simulatorRun sim (N + 1)).control = .returned at hnext
  rw [machineAt_succ] at hnext
  have I := loopOk_machineAt hcb hend N
  refine ⟨N, ?_⟩
  -- only the test of the loop returns
  unfold Machine.next at hnext
  cases hcontrol : (machineAt cb .simulatorRun sim N).control with
  | returned => exact absurd hcontrol hlive
  | step =>
    simp only [hcontrol, Machine.schedulerStep] at hnext
    split at hnext
    · cases hnext
    · dsimp only at hnext
      split at hnext <;> cases hnext
  | code l =>
    simp only [hcontrol] at hnext
    cases hc : (cb.act l (machineAt cb .simulatorRun sim N).sim.sched
      (machineAt cb .simulatorRun sim N).sim.running
      (machineAt cb .simulatorRun sim N).sim.world).2 <;> simp [hc, Machine.call] at hnext
  | ret result =>
    simp only [hcontrol, Machine.ret] at hnext
    cases hframes : (machineAt cb .simulatorRun sim N).frames with
    | cons f frames =>
      obtain ⟨resume, rfl⟩ := I.frames f (by rw [hframes]; exact List.mem_cons_self)
      simp only [hframes] at hnext
      cases hnext
    | nil =>
      have hrunning := I.running (by rw [hcontrol]; simp)
      simp only [hframes, afterStep_running hrunning (I.end_eq ▸ hend)] at hnext
      refine ⟨result, hframes, hcontrol, ?_⟩
      by_contra hgo
      rw [I.end_eq, if_neg hgo] at hnext
      cases hnext

theorem machineAt_of_returned (h : (machineAt cb .simulatorRun sim N).control = .returned) {n : ℕ}
    (hle : N ≤ n) : machineAt cb .simulatorRun sim n = machineAt cb .simulatorRun sim N :=
  iterate_eq_of_fixed (Machine.next_of_returned h) hle

theorem EndsAt.live (E : EndsAt cb sim N result) {k : ℕ} (hk : k ≤ N) :
    (machineAt cb .simulatorRun sim k).control ≠ .returned := by
  intro h
  have hcontrol := E.control
  rw [machineAt_of_returned h hk, h] at hcontrol
  cases hcontrol

theorem EndsAt.returns_iff (hcb : NeverStops cb) (hend : 0 < sim.endTime)
    (E : EndsAt cb sim N result) {sim' : Simulator κ π W} {events : List (Event κ π)} :
    Returns cb .simulatorRun sim sim' events ↔
      sim' = endState cb sim N ∧ events = (machineAt cb .simulatorRun sim N).dispatched := by
  have hnext := E.next hcb hend
  constructor
  · rintro ⟨n, hn⟩
    rcases Nat.lt_or_ge N n with hlt | hge
    · rw [machineAt_of_returned (by rw [hnext]) hlt, hnext] at hn
      injection hn with hsim _ _ hevents
      exact ⟨hsim.symm, hevents.symm⟩
    · exact absurd (congrArg Machine.control hn) (E.live hge)
  · rintro ⟨rfl, rfl⟩
    exact ⟨N + 1, hnext⟩

/-- A run that ends has dispatched all it dispatches when it comes to the test. -/
theorem EndsAt.dispatches_iff (hcb : NeverStops cb) (hend : 0 < sim.endTime)
    (E : EndsAt cb sim N result) {events : List (Event κ π)} :
    Dispatches cb .simulatorRun sim events ↔
      ∃ k < N + 1, (machineAt cb .simulatorRun sim k).dispatched = events := by
  have hnext := E.next hcb hend
  refine (seen_iff_of_iterate (N + 1)).trans ?_
  constructor
  · rintro (h | h)
    · exact h
    · have hfixed := (seen_iff_of_fixed (Machine.next_of_returned (by
        change (machineAt cb .simulatorRun sim (N + 1)).control = .returned
        rw [hnext]))).mp h
      change (machineAt cb .simulatorRun sim (N + 1)).dispatched = events at hfixed
      rw [hnext] at hfixed
      exact ⟨N, Nat.lt_succ_self N, hfixed⟩
  · exact .inl

/-- A run up to a later time dispatches the same until then, and goes on from there. -/
theorem EndsAt.later_dispatches_iff (hcb : NeverStops cb) (hend : 0 < sim.endTime)
    (E : EndsAt cb sim N result) {later : UInt64} (hle : sim.endTime ≤ later)
    {events : List (Event κ π)} :
    Dispatches cb .simulatorRun (simulatorSetEndTime sim later) events ↔
      Dispatches cb .simulatorRun sim events ∨
        Seen (Machine.next cb .simulatorRun) Machine.dispatched
          (((machineAt cb .simulatorRun sim N).shift later []).next cb .simulatorRun) events := by
  rw [E.dispatches_iff hcb hend]
  refine (seen_iff_of_iterate (N + 1)).trans (or_congr ?_ ?_)
  · refine exists_congr fun k => and_congr_right fun hk => ?_
    change (machineAt cb .simulatorRun (simulatorSetEndTime sim later) k).dispatched = _ ↔ _
    rw [machineAt_shift hcb hend hle (E.live (Nat.le_of_lt_succ hk))]
    rfl
  · rw [← machineAt_shift hcb hend hle (E.live (Nat.le_refl N)), ← machineAt_succ]
    rfl

/-- A later end time that has passed as well changes nothing. -/
theorem EndsAt.later_stops (hcb : NeverStops cb) (hend : 0 < sim.endTime)
    (E : EndsAt cb sim N result) {later : UInt64} (hle : sim.endTime ≤ later)
    (hstop : result = 0 ∨ later ≤ (endState cb sim N).sched.now) {events : List (Event κ π)} :
    Dispatches cb .simulatorRun (simulatorSetEndTime sim later) events ↔
      Dispatches cb .simulatorRun sim events := by
  rw [E.later_dispatches_iff hcb hend hle]
  refine or_iff_left_of_imp fun h => ?_
  have E' : EndsAt cb (simulatorSetEndTime sim later) N result := by
    refine ⟨?_, ?_, ?_⟩ <;> rw [machineAt_shift hcb hend hle (E.live (Nat.le_refl N))]
    · exact E.frames
    · exact E.control
    · exact hstop
  have hnext := E'.next hcb (UInt64.lt_of_lt_of_le hend hle)
  rw [machineAt_succ, machineAt_shift hcb hend hle (E.live (Nat.le_refl N))] at hnext
  rw [hnext] at h
  have hevents := (seen_iff_of_fixed (Machine.next_of_returned rfl)).mp h
  exact ⟨N, hevents⟩

/-- At a later end time that has not passed, the test of the loop goes on as a run starts that
    finds the state the first one leaves. -/
theorem EndsAt.next_shift_start (hcb : NeverStops cb) (hend : 0 < sim.endTime)
    (E : EndsAt cb sim N result) {later : UInt64} (hpos : 0 < later) (hresult : result ≠ 0)
    (hnow : (endState cb sim N).sched.now < later) :
    ((machineAt cb .simulatorRun sim N).shift later []).next cb .simulatorRun =
      (Machine.start (simulatorSetEndTime (endState cb sim N) later)).shift later
        (machineAt cb .simulatorRun sim N).dispatched := by
  have I := loopOk_machineAt hcb hend N
  obtain ⟨hframes, hcontrol, -⟩ := E
  unfold endState at hnow ⊢
  generalize machineAt cb .simulatorRun sim N = m at *
  obtain ⟨sim', frames, control, dispatched⟩ := m
  subst hframes hcontrol
  have hrunning : (simulatorSetEndTime sim' later).running = true := I.running (by simp)
  have hgo : ¬ (result = 0 ∨ (simulatorSetEndTime sim' later).endTime ≤
      (simulatorSetEndTime sim' later).sched.now) := fun h =>
    h.elim hresult (UInt64.not_le.mpr hnow)
  have htest := afterStep_running hrunning hpos result
  rw [if_neg hgo] at htest
  simp only [Machine.next, Machine.ret, Machine.shift, htest]
  obtain ⟨sched, running, endTime, world⟩ := sim'
  obtain rfl : running = true := hrunning
  simp [Machine.start, simulatorSetEndTime]

/-- A later end time that has not passed: the run up to it goes on as a run from the state that
    the first one leaves. -/
theorem EndsAt.later_goes_on (hcb : NeverStops cb) (hend : 0 < sim.endTime)
    (E : EndsAt cb sim N result) {later : UInt64} (hle : sim.endTime ≤ later)
    (hresult : result ≠ 0) (hnow : (endState cb sim N).sched.now < later)
    {events : List (Event κ π)} :
    Dispatches cb .simulatorRun (simulatorSetEndTime sim later) events ↔
      Dispatches cb .simulatorRun sim events ∨ ∃ second,
        Dispatches cb .simulatorRun (simulatorSetEndTime (endState cb sim N) later) second ∧
          events = (machineAt cb .simulatorRun sim N).dispatched ++ second := by
  rw [E.later_dispatches_iff hcb hend hle]
  refine or_congr_right ?_
  have hpos : 0 < later := UInt64.lt_of_lt_of_le hend hle
  rw [E.next_shift_start hcb hend hpos hresult hnow]
  have hstep := fun n => (loopOk_start (L := L)
    (simulatorSetEndTime (endState cb sim N) later)).iterate_shift hcb hpos
      (machineAt cb .simulatorRun sim N).dispatched n
  constructor
  · rintro ⟨n, hn⟩
    refine ⟨_, ⟨n, rfl⟩, ?_⟩
    rw [← hn]
    exact congrArg Machine.dispatched (hstep n)
  · rintro ⟨second, ⟨n, rfl⟩, rfl⟩
    exact ⟨n, congrArg Machine.dispatched (hstep n)⟩

end Ends

/-! ## Two runs and one -/

section Twice

variable {cb : Callbacks κ π W L} {sim : Simulator κ π W}

/-- What a step dispatches is added to what was dispatched. -/
theorem Machine.dispatched_next (cb : Callbacks κ π W L) (outer : RunLoop) (m : Machine κ π W L) :
    m.dispatched <+: (m.next cb outer).dispatched := by
  unfold Machine.next
  split
  · unfold Machine.schedulerStep
    split
    · exact List.prefix_rfl
    · exact List.prefix_append _ _
  · rename_i l _
    cases hc : (cb.act l m.sim.sched m.sim.running m.sim.world).2 <;>
      simp [hc, Machine.call]
  · unfold Machine.ret
    split
    · exact List.prefix_rfl
    · split <;> exact List.prefix_rfl
    · split <;> exact List.prefix_rfl
  · exact List.prefix_rfl

/-- A run with nothing pending dispatches nothing. -/
theorem dispatches_iff_of_empty (h : sim.sched.eq = []) {events : List (Event κ π)} :
    Dispatches cb .simulatorRun sim events ↔ events = [] := by
  have hstep : machineAt cb .simulatorRun sim 1 =
      { Machine.start sim with control := .ret 0 } := by
    show Machine.schedulerStep cb (Machine.start sim) = _
    unfold Machine.schedulerStep
    rw [schedulerStep_eq_none_iff.mpr (show (Machine.start (L := L) sim).sim.sched.eq = [] from h)]
  have htest : RunLoop.simulatorRun.afterStep (Machine.start (L := L) sim).sim 0 =
      ({ sim with running := false }, false) := by
    unfold RunLoop.afterStep
    dsimp only [Machine.start]
    split_ifs <;> simp_all
  have hend : machineAt cb .simulatorRun sim 2 =
      { sim := { sim with running := false }, frames := [], control := .returned,
        dispatched := [] } := by
    rw [machineAt_succ, hstep]
    simp only [Machine.next, Machine.ret, htest]
    rfl
  constructor
  · rintro ⟨n, rfl⟩
    rcases Nat.lt_or_ge n 2 with hlt | hge
    · rcases Nat.le_one_iff_eq_zero_or_eq_one.mp (Nat.le_of_lt_succ hlt) with rfl | rfl
      · rfl
      · rw [hstep]
        rfl
    · rw [machineAt_of_returned (by rw [hend]) hge, hend]
  · rintro rfl
    exact ⟨0, rfl⟩

/-- A run with something pending dispatches the first event. -/
theorem dispatches_first {e : Event κ π} {rest : List (Event κ π)} (h : sim.sched.eq = e :: rest) :
    Dispatches cb .simulatorRun sim [e] := by
  refine ⟨1, ?_⟩
  show (Machine.schedulerStep cb (Machine.start sim)).dispatched = [e]
  simp only [Machine.schedulerStep, Machine.start, FrameRunner.schedulerStep, eventQueuePop, h]
  rfl

/-- These events first are dispatched by a run up to one time and a run from there up to
    another. -/
def DispatchesTwice (cb : Callbacks κ π W L) (sim : Simulator κ π W) (endUs later : UInt64)
    (events : List (Event κ π)) : Prop :=
  Dispatches cb .simulatorRun (simulatorSetEndTime sim endUs) events ∨
    ∃ sim' first second,
      Returns cb .simulatorRun (simulatorSetEndTime sim endUs) sim' first ∧
        Dispatches cb .simulatorRun (simulatorSetEndTime sim' later) second ∧
          events = first ++ second

/-- The second run starts from the state that the first one leaves. -/
theorem EndsAt.dispatchesTwice_iff {N : ℕ} {result : ℤ} (hcb : NeverStops cb)
    (hend : 0 < sim.endTime) (E : EndsAt cb sim N result) (later : UInt64)
    (events : List (Event κ π)) :
    DispatchesTwice cb sim sim.endTime later events ↔
      Dispatches cb .simulatorRun sim events ∨ ∃ second,
        Dispatches cb .simulatorRun (simulatorSetEndTime (endState cb sim N) later) second ∧
          events = (machineAt cb .simulatorRun sim N).dispatched ++ second := by
  refine or_congr_right ⟨?_, ?_⟩
  · rintro ⟨sim', first', second, hreturns, hsecond, rfl⟩
    obtain ⟨rfl, rfl⟩ := (E.returns_iff hcb hend).mp hreturns
    exact ⟨second, hsecond, rfl⟩
  · rintro ⟨second, hsecond, rfl⟩
    exact ⟨_, _, second, (E.returns_iff hcb hend).mpr ⟨rfl, rfl⟩, hsecond, rfl⟩

/-- Two runs of which the first ends dispatch what one dispatches exactly if the first ends
    before the later time or leaves nothing to dispatch. -/
theorem EndsAt.twice_iff {N : ℕ} {result : ℤ} (hcb : NeverStops cb) (hend : 0 < sim.endTime)
    (E : EndsAt cb sim N result) {later : UInt64} (hle : sim.endTime ≤ later) :
    (∀ events, DispatchesTwice cb sim sim.endTime later events ↔
        Dispatches cb .simulatorRun (simulatorSetEndTime sim later) events) ↔
      (endState cb sim N).sched.now < later ∨ (endState cb sim N).sched.eq = [] := by
  set first := (machineAt cb .simulatorRun sim N).dispatched
  have htwice : ∀ events, DispatchesTwice cb sim sim.endTime later events ↔
      Dispatches cb .simulatorRun sim events ∨ ∃ second,
        Dispatches cb .simulatorRun (simulatorSetEndTime (endState cb sim N) later) second ∧
          events = first ++ second := E.dispatchesTwice_iff hcb hend later
  have hfirst : Dispatches cb .simulatorRun sim first := ⟨N, rfl⟩
  by_cases hempty : (endState cb sim N).sched.eq = []
  · -- the second run finds nothing
    refine iff_of_true (fun events => ?_) (.inr hempty)
    have hsecond : ∀ second, Dispatches cb .simulatorRun
        (simulatorSetEndTime (endState cb sim N) later) second ↔ second = [] := fun second =>
      dispatches_iff_of_empty
        (show (simulatorSetEndTime (endState cb sim N) later).sched.eq = [] from hempty)
    have hone : Dispatches cb .simulatorRun (simulatorSetEndTime sim later) events ↔
        Dispatches cb .simulatorRun sim events := by
      by_cases hstop : result = 0 ∨ later ≤ (endState cb sim N).sched.now
      · exact E.later_stops hcb hend hle hstop
      · rw [not_or, UInt64.not_le] at hstop
        rw [E.later_goes_on hcb hend hle hstop.1 hstop.2]
        refine or_iff_left_of_imp ?_
        rintro ⟨second, h, rfl⟩
        rwa [(hsecond second).mp h, List.append_nil]
    rw [htwice, hone]
    refine or_iff_left_of_imp ?_
    rintro ⟨second, h, rfl⟩
    rwa [(hsecond second).mp h, List.append_nil]
  · have hresult : result ≠ 0 := by
      rintro rfl
      rcases (loopOk_machineAt hcb hend N).result 0 E.control with h | ⟨-, h⟩
      · cases h
      · exact hempty h
    rcases UInt64.lt_or_le (endState cb sim N).sched.now later with hnow | hnow
    · refine iff_of_true (fun events => ?_) (.inl hnow)
      rw [htwice, E.later_goes_on hcb hend hle hresult hnow]
    · -- the second run dispatches one more event, the single run does not
      refine iff_of_false (fun h => ?_) (not_or.mpr ⟨UInt64.not_lt.mpr hnow, hempty⟩)
      obtain ⟨e, rest, hq⟩ := List.exists_cons_of_ne_nil hempty
      have hmore := (h (first ++ [e])).mp ((htwice _).mpr
        (.inr ⟨[e], dispatches_first hq, rfl⟩))
      rw [E.later_stops hcb hend hle (.inr hnow), E.dispatches_iff hcb hend] at hmore
      obtain ⟨k, hk, hdispatched⟩ := hmore
      have hpre : (machineAt cb .simulatorRun sim k).dispatched <+: first :=
        iterate_prefix (Machine.dispatched_next cb .simulatorRun) _ (Nat.le_of_lt_succ hk)
      have hlen := hpre.length_le
      rw [hdispatched, List.length_append, List.length_singleton] at hlen
      exact absurd hlen (Nat.not_succ_le_self _)

/-- The clock never goes back. -/
theorem Machine.now_le_next (cb : Callbacks κ π W L) (outer : RunLoop) (m : Machine κ π W L) :
    m.sim.sched.now ≤ (m.next cb outer).sim.sched.now := by
  have hafter : ∀ (loop : RunLoop) (sim : Simulator κ π W) (result : ℤ),
      (loop.afterStep sim result).1.sched = sim.sched := by
    intro loop sim result
    unfold RunLoop.afterStep
    cases loop <;> dsimp only <;> split_ifs <;> rfl
  unfold Machine.next
  split
  · unfold Machine.schedulerStep
    split
    · exact UInt64.le_refl _
    · rename_i hstep
      exact (schedulerStep_eq_some hstep).2.2
  · rename_i l _
    cases hc : (cb.act l m.sim.sched m.sim.running m.sim.world).2 <;>
      simp [hc, Machine.call, schedulerRegister]
  · rename_i result _
    unfold Machine.ret
    split
    · exact UInt64.le_refl _
    · rename_i inner frames _
      have hsched := hafter inner m.sim result
      split <;> simp_all
    · have hsched := hafter outer m.sim result
      split <;> simp_all
  · exact UInt64.le_refl _

/-- A run that starts late ends when it first comes back to the test. -/
theorem late_returns (hcb : NeverStops cb) (hend : 0 < sim.endTime)
    (hlate : sim.endTime ≤ sim.sched.now) {n : ℕ} {result : ℤ}
    (hframes : (machineAt cb .simulatorRun sim n).frames = [])
    (hcontrol : (machineAt cb .simulatorRun sim n).control = .ret result) :
    (machineAt cb .simulatorRun sim (n + 1)).control = .returned := by
  have hnow : ∀ n, sim.sched.now ≤ (machineAt cb .simulatorRun sim n).sim.sched.now := by
    intro n
    induction n with
    | zero => exact UInt64.le_refl _
    | succ n ih =>
      rw [machineAt_succ]
      exact UInt64.le_trans ih (Machine.now_le_next cb .simulatorRun _)
  have E : EndsAt cb sim n result := ⟨hframes, hcontrol, .inr (UInt64.le_trans hlate (hnow n))⟩
  rw [E.next hcb hend]

/-- Two runs dispatch what one does exactly if the first, when it ends, leaves the clock before
    the later time or the queue empty. -/
theorem dispatchesTwice_iff (hcb : NeverStops cb) (hend : 0 < sim.endTime) {later : UInt64}
    (hle : sim.endTime ≤ later) :
    (∀ events, DispatchesTwice cb sim sim.endTime later events ↔
        Dispatches cb .simulatorRun (simulatorSetEndTime sim later) events) ↔
      ∀ sim' first, Returns cb .simulatorRun sim sim' first →
        sim'.sched.now < later ∨ sim'.sched.eq = [] := by
  by_cases hends : ∃ n, (machineAt cb .simulatorRun sim n).control = .returned
  · obtain ⟨n, hn⟩ := hends
    obtain ⟨N, result, E⟩ := exists_endsAt hcb hend hn
    refine (E.twice_iff hcb hend hle).trans ?_
    constructor
    · intro h sim' first hreturns
      obtain ⟨rfl, -⟩ := (E.returns_iff hcb hend).mp hreturns
      exact h
    · exact fun h => h _ _ ((E.returns_iff hcb hend).mpr ⟨rfl, rfl⟩)
  · -- the first run never ends, and the single run is the same
    have hnot : ∀ sim' first, ¬ Returns cb .simulatorRun sim sim' first := by
      rintro sim' first ⟨n, hn⟩
      exact hends ⟨n, by rw [hn]⟩
    refine iff_of_true (fun events => ?_) fun sim' first h => absurd h (hnot sim' first)
    have hsame : ∀ n, (machineAt cb .simulatorRun (simulatorSetEndTime sim later) n).dispatched =
        (machineAt cb .simulatorRun sim n).dispatched := by
      intro n
      rw [machineAt_shift hcb hend hle fun h => hends ⟨n, h⟩]
      rfl
    have hone : Dispatches cb .simulatorRun (simulatorSetEndTime sim later) events ↔
        Dispatches cb .simulatorRun sim events := exists_congr fun n => by rw [hsame]
    refine Iff.trans (or_iff_left ?_) hone.symm
    rintro ⟨sim', first, second, hreturns, -⟩
    exact hnot sim' first hreturns

/-- A run dispatches nothing exactly if nothing is pending. -/
theorem dispatches_nothing_iff :
    (∀ events, Dispatches cb .simulatorRun sim events → events = []) ↔ sim.sched.eq = [] := by
  constructor
  · intro h
    cases hq : sim.sched.eq with
    | nil => rfl
    | cons e rest => exact absurd (h [e] (dispatches_first hq)) (List.cons_ne_nil e [])
  · exact fun hempty events => (dispatches_iff_of_empty hempty).mp

/-- A run up to one time and then one up to a later time dispatch what a single run up to the
    later time dispatches exactly if the first run, when it ends, leaves the clock before the
    later time or the queue empty. A run that starts at or after its end time steps once, and
    dispatches nothing exactly if the queue is empty. -/
theorem simulatorRun_twice_iff (cb : Callbacks κ π W L) (hcb : NeverStops cb)
    (sim : Simulator κ π W) (endUs later : UInt64) (hend : 0 < endUs) (hle : endUs ≤ later) :
    ((∀ events, DispatchesTwice cb sim endUs later events ↔
        Dispatches cb .simulatorRun (simulatorSetEndTime sim later) events) ↔
      ∀ sim' first, Returns cb .simulatorRun (simulatorSetEndTime sim endUs) sim' first →
        sim'.sched.now < later ∨ sim'.sched.eq = []) ∧
    (endUs ≤ sim.sched.now →
      (∀ n result,
        (machineAt cb .simulatorRun (simulatorSetEndTime sim endUs) n).frames = [] →
        (machineAt cb .simulatorRun (simulatorSetEndTime sim endUs) n).control = .ret result →
        (machineAt cb .simulatorRun (simulatorSetEndTime sim endUs) (n + 1)).control =
          .returned) ∧
      ((∀ events, Dispatches cb .simulatorRun (simulatorSetEndTime sim endUs) events →
          events = []) ↔ sim.sched.eq = [])) := by
  have hend' : 0 < (simulatorSetEndTime sim endUs).endTime := hend
  exact ⟨dispatchesTwice_iff hcb hend' hle,
    fun hlate => ⟨fun n result => late_returns hcb hend' hlate, dispatches_nothing_iff⟩⟩

/-- No callbacks; two events are pending, at 10 and at 20. -/
def endTimeExample : Simulator Unit ℕ Unit where
  sched :=
    { eq := [{ type := .render, timestamp := 10, payload := 10 },
        { type := .render, timestamp := 20, payload := 20 }]
      now := 0
      handlers := fun _ => none }
  running := false
  endTime := 0
  world := ()

/-- Callbacks that do nothing. -/
def noCallbacks : Callbacks Unit ℕ Unit Unit where
  enter _ _ := ()
  act _ _ _ world := (world, .done)

/-- The first event jumps past 5 and 7. A run up to 5 and one up to 7 dispatch an event each,
    the second although it starts late; a run up to 7 dispatches only the first event. -/
theorem endTimeExample_twice :
    NeverStops noCallbacks ∧
      (¬ ∀ events, DispatchesTwice noCallbacks endTimeExample 5 7 events ↔
        Dispatches noCallbacks .simulatorRun (simulatorSetEndTime endTimeExample 7) events) ∧
      ∃ sim' first,
        Returns noCallbacks .simulatorRun (simulatorSetEndTime endTimeExample 5) sim' first ∧
          7 ≤ sim'.sched.now ∧
          ¬ ∀ events, Dispatches noCallbacks .simulatorRun (simulatorSetEndTime sim' 7) events →
            events = [] := by
  have hreturns : Returns noCallbacks .simulatorRun (simulatorSetEndTime endTimeExample 5)
      (endState noCallbacks (simulatorSetEndTime endTimeExample 5) 1)
      (endTimeExample.sched.eq.take 1) := ⟨2, rfl⟩
  have hsecond : Dispatches noCallbacks .simulatorRun (simulatorSetEndTime
      (endState noCallbacks (simulatorSetEndTime endTimeExample 5) 1) 7)
      (endTimeExample.sched.eq.drop 1) := ⟨1, rfl⟩
  refine ⟨fun _ _ _ _ => trivial, fun h => ?_, _, _, hreturns, by decide, fun h => ?_⟩
  · obtain ⟨n, hn⟩ := (h endTimeExample.sched.eq).mp (.inr ⟨_, _, _, hreturns, hsecond, rfl⟩)
    have hlen := congrArg List.length hn
    rcases Nat.lt_or_ge n 2 with hlt | hge
    · interval_cases n <;> exact absurd hlen (by decide)
    · rw [machineAt_of_returned rfl hge] at hlen
      exact absurd hlen (by decide)
  · exact absurd (congrArg List.length (h _ hsecond)) (by decide)

/-- The two events with the clock at 9. -/
def endTimeExampleLate : Simulator Unit ℕ Unit :=
  { endTimeExample with sched := { endTimeExample.sched with now := 9 } }

theorem simulatorRun_twice_iff_endTimeExample :
    (∀ events, DispatchesTwice noCallbacks endTimeExample 5 15 events ↔
      Dispatches noCallbacks .simulatorRun (simulatorSetEndTime endTimeExample 15) events) ∧
    ¬ ∀ events, Dispatches noCallbacks .simulatorRun (simulatorSetEndTime endTimeExampleLate 5)
      events → events = [] := by
  constructor
  · refine (simulatorRun_twice_iff noCallbacks (fun _ _ _ _ => trivial) endTimeExample 5 15
      (by decide) (by decide)).1.mpr ?_
    -- the first run leaves the clock at 10
    rintro sim' first ⟨n, hn⟩
    rcases Nat.lt_or_ge n 2 with hlt | hge
    · interval_cases n <;> exact absurd (congrArg Machine.control hn) (fun h => nomatch h)
    · rw [machineAt_of_returned rfl hge] at hn
      injection hn with hsim
      rw [← hsim]
      exact .inl (by decide)
  · have hlate := (simulatorRun_twice_iff noCallbacks (fun _ _ _ _ => trivial) endTimeExampleLate
      5 15 (by decide) (by decide)).2 (by decide)
    exact fun h => absurd (hlate.2.mp h) (List.cons_ne_nil _ _)

end Twice

end FrameRunner
