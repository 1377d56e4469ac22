import FrameRunner.Engine.Event
import FrameRunner.Lib.Run

/-!
# The array of the event queue (`engine/event.c`, `engine/scheduler.c`)

The queue of `Engine.Event` as it lies in memory: an array of pointers with the
size that was last requested for it, `size_t` arithmetic modulo `2 ^ 64`. A call
returns the slots that it reads or writes along with its result; whether `malloc`
and `realloc` succeed is an input. `scheduler_step` runs the callback of an event
after the pop, so what the callback schedules is the next call.

Main results:

* `EventQueue.push_holds`, `EventQueue.pop_holds`: the array holds the list of
  `eventQueuePush` and `eventQueuePop`.
* `schedulerRun_slots`: which calls keep to the bytes of the array.
-/

namespace FrameRunner

open FrameRunner.Lib

variable {κ π : Type}

/-- `sizeof(Event *)`. -/
def eventPtrSize : UInt64 := 8

/-- `EventQueue`. `bytes` is the size of the block that `events` points to, a slot
    that was never written is `none`. -/
structure EventQueue (κ π : Type) where
  events : ℕ → Option (Event κ π)
  bytes : ℕ
  count : UInt64
  capacity : UInt64

/-- `event_queue_create` (lines 57–73); the two flags say whether `malloc` succeeds. -/
def EventQueue.create (capacity : UInt64) (mallocQueue mallocEvents : Bool) :
    Option (EventQueue κ π) :=
  if !mallocQueue then none
  else if !mallocEvents then none
  else some {
    events := fun _ => none
    bytes := (eventPtrSize * capacity).toNat
    count := 0
    capacity := capacity }

/-- `scheduler_create` (lines 6–27), as far as the queue is concerned. -/
def EventQueue.schedulerCreate (capacity : UInt64) (mallocSched mallocQueue mallocEvents : Bool) :
    Option (EventQueue κ π) :=
  if capacity = 0 then none
  else if !mallocSched then none
  else EventQueue.create capacity mallocQueue mallocEvents

/-- The test on which the insertion loop stops, on the slot below. -/
def stopsAt (e : Event κ π) (previous : Option (Event κ π)) : Bool :=
  previous.any fun previous => previous.notAfter e

/-- The insertion loop of `event_queue_push` (lines 95–108) from `insertion_index`:
    the array and the slots in the order of the accesses. -/
def eventQueueInsert (e : Event κ π) (events : ℕ → Option (Event κ π)) :
    ℕ → (ℕ → Option (Event κ π)) × List ℕ
  | 0 => (Function.update events 0 (some e), [0])
  | i + 1 =>
    if stopsAt e (events i) then (Function.update events (i + 1) (some e), [i, i + 1])
    else
      let rest := eventQueueInsert e (Function.update events (i + 1) (events i)) i
      (rest.1, i :: (i + 1) :: rest.2)

/-- `eq->capacity` and the array at the insertion (lines 85–93); `none` is a failed
    `realloc`. -/
def EventQueue.grow (eq : EventQueue κ π) (realloc : Bool) : Option (EventQueue κ π) :=
  if eq.count ≥ eq.capacity then
    let newCapacity := eq.capacity * 2
    if !realloc then none
    else some { eq with bytes := (eventPtrSize * newCapacity).toNat, capacity := newCapacity }
  else some eq

/-- `event_queue_push` (lines 84–111): the queue, the result and the slots. -/
def EventQueue.push (eq : EventQueue κ π) (e : Event κ π) (realloc : Bool) :
    EventQueue κ π × ℤ × List ℕ :=
  match eq.grow realloc with
  | none => (eq, -1, [])
  | some eq =>
    let inserted := eventQueueInsert e eq.events eq.count.toNat
    ({ eq with events := inserted.1, count := eq.count + 1 }, 0, inserted.2)

/-- `event_queue_pop` (lines 114–123): the queue, the event and the slots. -/
def EventQueue.pop (eq : EventQueue κ π) : EventQueue κ π × Option (Event κ π) × List ℕ :=
  if eq.count = 0 then (eq, none, [])
  else
    let moved := (eq.count - 1).toNat
    ({ eq with
        events := fun i => if i < moved then eq.events (i + 1) else eq.events i
        count := eq.count - 1 },
      eq.events 0, 0 :: (List.range moved).flatMap fun i => [i + 1, i])

/-- A call on the scheduler's queue. `realloc` says whether `realloc` succeeds, if it
    is called. -/
inductive QueueCall (κ π : Type) where
  | schedule (e : Option (Event κ π)) (realloc : Bool)
  | step

/-- `scheduler_schedule` and `scheduler_step` on the queue: the queue and the slots. -/
def queueAccess (eq : EventQueue κ π) : QueueCall κ π → EventQueue κ π × List ℕ
  | .schedule none _ => (eq, [])
  | .schedule (some e) realloc => ((eq.push e realloc).1, (eq.push e realloc).2.2)
  | .step => (eq.pop.1, eq.pop.2.2)

/-- The queue after one more call. -/
def queueCall (eq : EventQueue κ π) (c : QueueCall κ π) : EventQueue κ π := (queueAccess eq c).1

/-- The call keeps to the bytes of the array, and the events to its capacity. -/
def QueueCall.InBounds (eq : EventQueue κ π) (c : QueueCall κ π) : Prop :=
  (∀ i ∈ (queueAccess eq c).2, (i + 1) * eventPtrSize.toNat ≤ (queueAccess eq c).1.bytes) ∧
    (queueAccess eq c).1.count ≤ (queueAccess eq c).1.capacity

/-- A push finds the slot of its event in the bytes that were last requested, or has
    them doubled without a wrap. -/
def QueueCall.Fits (eq : EventQueue κ π) : QueueCall κ π → Prop
  | .schedule (some _) realloc =>
    (eq.count < eq.capacity → eq.count.toNat < eq.capacity.toNat % 2 ^ 61) ∧
      (eq.capacity ≤ eq.count → realloc = true → eq.capacity.toNat < 2 ^ 60)
  | _ => True

instance (eq : EventQueue κ π) : (c : QueueCall κ π) → Decidable (QueueCall.Fits eq c)
  | .schedule (some _) _ => inferInstanceAs (Decidable (_ ∧ _))
  | .schedule none _ => isTrue trivial
  | .step => isTrue trivial

/-! ## What a call reads and writes -/

/-- The size is the one requested for the capacity, and the events are in it. -/
structure EventQueue.Ok (eq : EventQueue κ π) : Prop where
  capacity : 0 < eq.capacity.toNat
  bytes : eq.bytes = 8 * eq.capacity.toNat % 2 ^ 64
  count : 8 * eq.count.toNat ≤ eq.bytes

theorem eventPtrSize_mul (n : UInt64) : (eventPtrSize * n).toNat = 8 * n.toNat % 2 ^ 64 :=
  UInt64.toNat_mul ..

section
variable {eq : EventQueue κ π} {e : Event κ π} {realloc : Bool}

/-- The insertion writes the slot at the end, and no other access is behind it. -/
theorem eventQueueInsert_slots (e : Event κ π) (n : ℕ) : ∀ events : ℕ → Option (Event κ π),
    n ∈ (eventQueueInsert e events n).2 ∧ ∀ i ∈ (eventQueueInsert e events n).2, i ≤ n := by
  induction n with
  | zero =>
    intro events
    simp [eventQueueInsert]
  | succ n ih =>
    intro events
    unfold eventQueueInsert
    split
    · simp
    · obtain ⟨-, hle⟩ := ih (Function.update events (n + 1) (events n))
      refine ⟨by simp, fun i hi => ?_⟩
      simp only [List.mem_cons] at hi
      rcases hi with rfl | rfl | hi
      · omega
      · omega
      · have := hle i hi
        omega

/-- The insertion keeps to the bytes of the array if the slot at the end is in them. -/
theorem eventQueueInsert_inBytes (e : Event κ π) (n : ℕ) (events : ℕ → Option (Event κ π))
    (bytes : ℕ) :
    (∀ i ∈ (eventQueueInsert e events n).2, (i + 1) * eventPtrSize.toNat ≤ bytes) ↔
      8 * (n + 1) ≤ bytes := by
  have hsize : eventPtrSize.toNat = 8 := rfl
  obtain ⟨hmem, hle⟩ := eventQueueInsert_slots e n events
  rw [hsize]
  constructor
  · intro h
    have := h n hmem
    omega
  · intro h i hi
    have := hle i hi
    omega

/-- A pop reads and writes the slots of the events only. -/
theorem EventQueue.pop_slots (eq : EventQueue κ π) :
    ∀ i ∈ eq.pop.2.2, i < eq.count.toNat := by
  intro i hi
  unfold EventQueue.pop at hi
  split at hi
  · cases hi
  · rename_i hne
    have hpos : 1 ≤ eq.count := by
      show (1 : UInt64).toNat ≤ eq.count.toNat
      have hzero : eq.count.toNat ≠ 0 := fun h => hne (UInt64.toNat_inj.mp h)
      have hone : (1 : UInt64).toNat = 1 := rfl
      omega
    have hle : 1 ≤ eq.count.toNat := hpos
    have hsub : (eq.count - 1).toNat = eq.count.toNat - 1 := UInt64.toNat_sub_of_le _ _ hpos
    simp only [hsub, List.mem_cons, List.mem_flatMap, List.mem_range, List.not_mem_nil,
      or_false] at hi
    rcases hi with rfl | ⟨j, hj, rfl | rfl⟩
    · omega
    · omega
    · omega

theorem EventQueue.Ok.count_le (h : eq.Ok) : eq.count ≤ eq.capacity := by
  show eq.count.toNat ≤ eq.capacity.toNat
  have hbytes := h.bytes
  have hcount := h.count
  omega

/-- The queue after an insertion into the bytes of its array. -/
theorem EventQueue.Ok.insert (h : eq.bytes = 8 * eq.capacity.toNat % 2 ^ 64)
    (hroom : 8 * (eq.count.toNat + 1) ≤ eq.bytes) (events : ℕ → Option (Event κ π)) :
    EventQueue.Ok { eq with events := events, count := eq.count + 1 } := by
  refine ⟨by dsimp only; omega, h, ?_⟩
  have hadd : (eq.count + 1).toNat = (eq.count.toNat + 1) % 2 ^ 64 := UInt64.toNat_add ..
  dsimp only
  omega

/-! ## One call -/

/-- Where the array grows: nowhere, or to twice the capacity, unless `realloc` fails. -/
theorem EventQueue.grow_cases (eq : EventQueue κ π) (realloc : Bool) :
    (eq.count < eq.capacity ∧ eq.grow realloc = some eq) ∨
    (eq.capacity ≤ eq.count ∧ realloc = false ∧ eq.grow realloc = none) ∨
    (eq.capacity ≤ eq.count ∧ realloc = true ∧ eq.grow realloc = some { eq with
      bytes := (eventPtrSize * (eq.capacity * 2)).toNat, capacity := eq.capacity * 2 }) := by
  unfold EventQueue.grow
  by_cases hfull : eq.count ≥ eq.capacity
  · rw [if_pos hfull]
    cases realloc with
    | false => exact .inr (.inl ⟨hfull, rfl, rfl⟩)
    | true => exact .inr (.inr ⟨hfull, rfl, rfl⟩)
  · rw [if_neg hfull]
    exact .inl ⟨UInt64.not_le.mp hfull, rfl⟩

theorem queueAccess_of_grow_none (hgrow : eq.grow realloc = none) :
    queueAccess eq (.schedule (some e) realloc) = (eq, []) := by
  have hpush : eq.push e realloc = (eq, -1, []) := by
    unfold EventQueue.push
    rw [hgrow]
  dsimp only [queueAccess]
  rw [hpush]

theorem queueAccess_of_grow_some {eq' : EventQueue κ π} (hgrow : eq.grow realloc = some eq') :
    queueAccess eq (.schedule (some e) realloc) =
      ({ eq' with
          events := (eventQueueInsert e eq'.events eq'.count.toNat).1, count := eq'.count + 1 },
        (eventQueueInsert e eq'.events eq'.count.toNat).2) := by
  dsimp only [queueAccess]
  unfold EventQueue.push
  rw [hgrow]

/-- A push whose array is `eq'` keeps to the bytes if one more slot is in them, and
    keeps the size. -/
theorem EventQueue.push_room {eq' : EventQueue κ π} (hgrow : eq.grow realloc = some eq')
    (hbytes : eq'.bytes = 8 * eq'.capacity.toNat % 2 ^ 64) :
    (QueueCall.InBounds eq (.schedule (some e) realloc) ↔ 8 * (eq'.count.toNat + 1) ≤ eq'.bytes) ∧
      (8 * (eq'.count.toNat + 1) ≤ eq'.bytes →
        EventQueue.Ok (queueCall eq (.schedule (some e) realloc))) := by
  have hok : 8 * (eq'.count.toNat + 1) ≤ eq'.bytes → EventQueue.Ok { eq' with
      events := (eventQueueInsert e eq'.events eq'.count.toNat).1, count := eq'.count + 1 } :=
    fun hroom => EventQueue.Ok.insert hbytes hroom _
  unfold QueueCall.InBounds queueCall
  rw [queueAccess_of_grow_some hgrow]
  dsimp only
  rw [eventQueueInsert_inBytes]
  exact ⟨⟨And.left, fun hroom => ⟨hroom, (hok hroom).count_le⟩⟩, hok⟩

/-- A push that finds its slot, or doubles the capacity without a wrap, keeps to the
    bytes, and no other does. -/
theorem EventQueue.Ok.push (h : eq.Ok) (e : Event κ π) (realloc : Bool) :
    (QueueCall.InBounds eq (.schedule (some e) realloc) ↔
      QueueCall.Fits eq (.schedule (some e) realloc)) ∧
    (QueueCall.Fits eq (.schedule (some e) realloc) →
      EventQueue.Ok (queueCall eq (.schedule (some e) realloc))) := by
  have hbytes := h.bytes
  have hcount := h.count
  have hpos := h.capacity
  unfold QueueCall.Fits
  rcases eq.grow_cases realloc with ⟨hspare, hgrow⟩ | ⟨hfull, hfail, hgrow⟩ | ⟨hfull, hok, hgrow⟩
  · -- the array has a free slot, if its bytes were not cut
    have hlt : eq.count.toNat < eq.capacity.toNat := hspare
    obtain ⟨hiff, hnext⟩ := EventQueue.push_room (e := e) hgrow hbytes
    have hroom : 8 * (eq.count.toNat + 1) ≤ eq.bytes ↔
        (eq.count < eq.capacity → eq.count.toNat < eq.capacity.toNat % 2 ^ 61) ∧
          (eq.capacity ≤ eq.count → realloc = true → eq.capacity.toNat < 2 ^ 60) := by
      refine ⟨fun hroom => ⟨fun _ => by omega, fun hle => ?_⟩, fun ⟨hslot, _⟩ => ?_⟩
      · exact absurd hspare (UInt64.not_lt.mpr hle)
      · have := hslot hspare
        omega
    exact ⟨hiff.trans hroom, fun hfits => hnext (hroom.mpr hfits)⟩
  · -- nothing is touched
    have hsame : queueAccess eq (.schedule (some e) realloc) = (eq, []) :=
      queueAccess_of_grow_none hgrow
    have hfits : (eq.count < eq.capacity → eq.count.toNat < eq.capacity.toNat % 2 ^ 61) ∧
        (eq.capacity ≤ eq.count → realloc = true → eq.capacity.toNat < 2 ^ 60) := by
      refine ⟨fun hlt => absurd hlt (UInt64.not_lt.mpr hfull), fun _ hrealloc => ?_⟩
      rw [hfail] at hrealloc
      cases hrealloc
    unfold QueueCall.InBounds queueCall
    rw [hsame]
    exact ⟨iff_of_true ⟨fun i hi => absurd hi List.not_mem_nil, h.count_le⟩ hfits, fun _ => h⟩
  · -- a full array is one of less than `2 ^ 61` slots
    have hle : eq.capacity.toNat ≤ eq.count.toNat := hfull
    have hdouble : (eq.capacity * 2).toNat = eq.capacity.toNat * 2 % 2 ^ 64 := UInt64.toNat_mul ..
    obtain ⟨hiff, hnext⟩ := EventQueue.push_room (e := e) hgrow (eventPtrSize_mul _)
    have hroom : 8 * (eq.count.toNat + 1) ≤ (eventPtrSize * (eq.capacity * 2)).toNat ↔
        (eq.count < eq.capacity → eq.count.toNat < eq.capacity.toNat % 2 ^ 61) ∧
          (eq.capacity ≤ eq.count → realloc = true → eq.capacity.toNat < 2 ^ 60) := by
      rw [eventPtrSize_mul, hdouble]
      refine ⟨fun hroom => ⟨fun hlt => ?_, fun _ _ => by omega⟩, fun ⟨_, hgrown⟩ => ?_⟩
      · exact absurd hlt (UInt64.not_lt.mpr hfull)
      · have := hgrown hfull hok
        omega
    exact ⟨hiff.trans hroom, fun hfits => hnext (hroom.mpr hfits)⟩

/-- A pop keeps to the bytes. -/
theorem EventQueue.Ok.pop (h : eq.Ok) :
    QueueCall.InBounds eq .step ∧ EventQueue.Ok (queueCall eq .step) := by
  have hsize : eventPtrSize.toNat = 8 := rfl
  have hcount := h.count
  have hbytes : eq.pop.1.bytes = eq.bytes := by
    unfold EventQueue.pop
    split
    · rfl
    · rfl
  have hok : eq.pop.1.Ok := by
    unfold EventQueue.pop
    split
    · exact h
    · rename_i hne
      have hzero : eq.count.toNat ≠ 0 := fun h => hne (UInt64.toNat_inj.mp h)
      have hpos : 1 ≤ eq.count := Nat.one_le_iff_ne_zero.mpr hzero
      have hsub : (eq.count - 1).toNat = eq.count.toNat - 1 := UInt64.toNat_sub_of_le _ _ hpos
      refine ⟨h.capacity, h.bytes, ?_⟩
      dsimp only
      omega
  refine ⟨⟨fun i hi => ?_, hok.count_le⟩, hok⟩
  have hlt := eq.pop_slots i hi
  show (i + 1) * eventPtrSize.toNat ≤ eq.pop.1.bytes
  rw [hbytes, hsize]
  omega

theorem EventQueue.Ok.call (h : eq.Ok) (c : QueueCall κ π) :
    (QueueCall.InBounds eq c ↔ QueueCall.Fits eq c) ∧
      (QueueCall.Fits eq c → EventQueue.Ok (queueCall eq c)) := by
  cases c with
  | schedule e realloc =>
    cases e with
    | none =>
      have hnothing : QueueCall.InBounds eq (.schedule none realloc) :=
        ⟨fun i hi => absurd hi List.not_mem_nil, h.count_le⟩
      exact ⟨iff_of_true hnothing trivial, fun _ => h⟩
    | some e => exact h.push e realloc
  | step => exact ⟨iff_of_true h.pop.1 trivial, fun _ => h.pop.2⟩

theorem EventQueue.ok_schedulerCreate {capacity : UInt64} {mallocSched mallocQueue mallocEvents}
    (h : EventQueue.schedulerCreate capacity mallocSched mallocQueue mallocEvents = some eq) :
    eq.Ok := by
  unfold EventQueue.schedulerCreate EventQueue.create at h
  split_ifs at h with hzero
  obtain rfl := Option.some.inj h
  have hpos : capacity.toNat ≠ 0 := fun h => hzero (UInt64.toNat_inj.mp h)
  exact ⟨Nat.pos_of_ne_zero hpos, eventPtrSize_mul capacity, Nat.zero_le _⟩

end

/-! ## The list that the array holds -/

/-- The slots from `n` on hold these events. -/
def HoldsFrom (events : ℕ → Option (Event κ π)) (n : ℕ) (l : List (Event κ π)) : Prop :=
  ∀ i x, l[i]? = some x → events (n + i) = some x

/-- The array holds the events of the list. -/
structure EventQueue.Holds (eq : EventQueue κ π) (l : List (Event κ π)) : Prop where
  count : eq.count.toNat = l.length
  events : HoldsFrom eq.events 0 l

section
variable {eq : EventQueue κ π} {e : Event κ π} {events : ℕ → Option (Event κ π)}
  {l l' : List (Event κ π)} {n : ℕ}

theorem holdsFrom_append : HoldsFrom events n (l ++ l') ↔
    HoldsFrom events n l ∧ HoldsFrom events (n + l.length) l' := by
  constructor
  · intro h
    refine ⟨fun i x hi => h i x ?_, fun i x hi => ?_⟩
    · rw [List.getElem?_append_left (List.getElem?_eq_some_iff.mp hi).1]
      exact hi
    · rw [Nat.add_assoc]
      refine h (l.length + i) x ?_
      rw [List.getElem?_append_right (Nat.le_add_right ..), Nat.add_sub_cancel_left]
      exact hi
  · rintro ⟨hl, hl'⟩ i x hi
    by_cases hlt : i < l.length
    · rw [List.getElem?_append_left hlt] at hi
      exact hl i x hi
    · have hle : l.length ≤ i := Nat.le_of_not_lt hlt
      rw [List.getElem?_append_right hle] at hi
      have h := hl' (i - l.length) x hi
      rwa [Nat.add_assoc, Nat.add_sub_cancel' hle] at h

theorem holdsFrom_singleton : HoldsFrom events n [e] ↔ events n = some e := by
  constructor
  · exact fun h => h 0 e rfl
  · rintro h i x hi
    obtain ⟨hlt, rfl⟩ := List.getElem?_eq_some_iff.mp hi
    have hzero : i = 0 := by simpa using hlt
    subst hzero
    exact h

/-- A write to another slot. -/
theorem HoldsFrom.update (h : HoldsFrom events n l) {k : ℕ} {x : Option (Event κ π)}
    (hk : k < n ∨ n + l.length ≤ k) : HoldsFrom (Function.update events k x) n l := by
  intro i y hi
  have hlt : i < l.length := (List.getElem?_eq_some_iff.mp hi).1
  rw [Function.update_of_ne (by omega)]
  exact h i y hi

/-- The insertion, with the events behind the hole at the end of `l` moved already. -/
theorem eventQueueInsert_holds (e : Event κ π) (l : List (Event κ π)) :
    ∀ (events : ℕ → Option (Event κ π)) (l' : List (Event κ π)), HoldsFrom events 0 l →
      HoldsFrom events (l.length + 1) l' →
      HoldsFrom (eventQueueInsert e events l.length).1 0 (eventQueuePush l e ++ l') := by
  -- induction from the end of the list, where the loop starts
  induction l using List.reverseRecOn with
  | nil =>
    intro events l' _ hl'
    have hpush : eventQueuePush [] e = [e] := rfl
    have hinsert : (eventQueueInsert e events 0).1 = Function.update events 0 (some e) := rfl
    rw [hpush, List.length_nil, hinsert, holdsFrom_append, holdsFrom_singleton]
    refine ⟨Function.update_self .., ?_⟩
    exact HoldsFrom.update hl' (.inl (by simp))
  | append_singleton l previous ih =>
    intro events l' hl hl'
    rw [holdsFrom_append, holdsFrom_singleton, Nat.zero_add] at hl
    obtain ⟨hl, hprevious⟩ := hl
    rw [List.length_append, List.length_singleton] at hl' ⊢
    unfold eventQueueInsert eventQueuePush
    rw [hprevious, List.reverse_append, List.reverse_singleton, List.singleton_append]
    unfold eventInsertBack
    have htest : stopsAt e (some previous) = previous.notAfter e := rfl
    rw [htest]
    by_cases hstop : previous.notAfter e = true
    · -- the event goes behind `previous`
      rw [if_pos hstop, if_pos hstop, List.reverse_cons, List.reverse_cons, List.reverse_reverse,
        holdsFrom_append, holdsFrom_append, holdsFrom_append, holdsFrom_singleton,
        holdsFrom_singleton]
      simp only [List.length_append, List.length_singleton, Nat.zero_add]
      refine ⟨⟨⟨hl.update (.inr (by omega)), ?_⟩, Function.update_self ..⟩, ?_⟩
      · rw [Function.update_of_ne (by omega)]
        exact hprevious
      · exact hl'.update (.inl (by omega))
    · -- `previous` is moved and the hole is at its slot
      rw [if_neg hstop, if_neg hstop, List.reverse_cons, List.append_assoc, List.singleton_append]
      refine ih _ (previous :: l') (hl.update (.inr (by omega))) ?_
      rw [← List.singleton_append, holdsFrom_append, holdsFrom_singleton]
      exact ⟨Function.update_self .., hl'.update (.inl (by simp))⟩

/-- A push that is not refused is the push on the list. -/
theorem EventQueue.push_holds (h : eq.Holds l) (hok : eq.Ok) (e : Event κ π) (realloc : Bool) :
    ((eq.push e realloc).2.1 = -1 ∧ (eq.push e realloc).1.Holds l) ∨
      ((eq.push e realloc).2.1 = 0 ∧ (eq.push e realloc).1.Holds (eventQueuePush l e)) := by
  have hcount := h.count
  have hfits := hok.count
  have hbytes := hok.bytes
  have hadd : (eq.count + 1).toNat = (eq.count.toNat + 1) % 2 ^ 64 := UInt64.toNat_add ..
  have hlength : (eventQueuePush l e).length = l.length + 1 := (eventQueuePush_perm l e).length_eq
  have hinsert : HoldsFrom (eventQueueInsert e eq.events eq.count.toNat).1 0
      (eventQueuePush l e) := by
    rw [hcount, ← List.append_nil (eventQueuePush l e)]
    exact eventQueueInsert_holds e l eq.events [] h.events fun i x hi => by cases hi
  have hnext : (eq.count + 1).toNat = (eventQueuePush l e).length := by omega
  unfold EventQueue.push
  rcases eq.grow_cases realloc with ⟨-, hgrow⟩ | ⟨-, -, hgrow⟩ | ⟨-, -, hgrow⟩
  · rw [hgrow]
    exact .inr ⟨rfl, hnext, hinsert⟩
  · rw [hgrow]
    exact .inl ⟨rfl, h⟩
  · rw [hgrow]
    exact .inr ⟨rfl, hnext, hinsert⟩

/-- A pop takes the event that the pop on the list takes. -/
theorem EventQueue.pop_holds (h : eq.Holds l) :
    eq.pop.2.1 = (eventQueuePop l).map Prod.fst ∧
      eq.pop.1.Holds ((eventQueuePop l).elim [] Prod.snd) := by
  have hcount := h.count
  unfold EventQueue.pop
  cases l with
  | nil =>
    have hzero : eq.count = 0 := UInt64.toNat_inj.mp hcount
    rw [if_pos hzero]
    exact ⟨rfl, h⟩
  | cons e rest =>
    rw [List.length_cons] at hcount
    have hne : ¬ eq.count = 0 := by
      intro hzero
      rw [hzero] at hcount
      exact absurd hcount (Nat.zero_ne_add_one _)
    have hpos : 1 ≤ eq.count := by
      show 1 ≤ eq.count.toNat
      omega
    have hmoved : (eq.count - 1).toNat = rest.length := by
      rw [UInt64.toNat_sub_of_le _ _ hpos, hcount]
      rfl
    rw [if_neg hne]
    refine ⟨h.events 0 e rfl, hmoved, fun i x hi => ?_⟩
    have hi : rest[i]? = some x := hi
    have hlt : i < rest.length := (List.getElem?_eq_some_iff.mp hi).1
    have hslot := h.events (i + 1) x hi
    rw [Nat.zero_add] at hslot ⊢
    dsimp only
    rw [if_pos (by omega)]
    exact hslot

end

/-! ## Results -/

/-- For a queue of any capacity that `scheduler_create` accepts and any calls: every
    access is to the bytes of the array and the events never exceed the capacity, if
    and only if each push finds its slot in the bytes that were requested modulo
    `2 ^ 64`, or has a capacity below `2 ^ 60` doubled. -/
theorem schedulerRun_slots (capacity : UInt64) (mallocSched mallocQueue mallocEvents : Bool)
    (eq : EventQueue κ π)
    (h : EventQueue.schedulerCreate capacity mallocSched mallocQueue mallocEvents = some eq)
    (calls : List (QueueCall κ π)) :
    eq.count ≤ eq.capacity ∧ (Guarded queueCall QueueCall.InBounds eq calls ↔
      Guarded queueCall QueueCall.Fits eq calls) := by
  have hok : eq.Ok := EventQueue.ok_schedulerCreate h
  refine ⟨hok.count_le, ?_⟩
  exact guarded_iff EventQueue.Ok (fun _ c h => (h.call c).1) (fun _ c hfits h => (h.call c).2 hfits)
    calls eq hok

/-- An event due at this time. -/
def exampleEvent (timestamp : UInt64) : Event Unit Unit where
  type := .timerExpired
  timestamp := timestamp
  payload := ()

/-- An array of one slot grows for the second event. -/
theorem schedulerRun_slots_exampleEvent :
    Guarded queueCall QueueCall.InBounds (⟨fun _ => none, 8, 0, 1⟩ : EventQueue Unit Unit)
      [.schedule (some (exampleEvent 7)) true, .schedule (some (exampleEvent 3)) true, .step] := by
  have h := schedulerRun_slots 1 true true true (⟨fun _ => none, 8, 0, 1⟩ : EventQueue Unit Unit)
    rfl [.schedule (some (exampleEvent 7)) true, .schedule (some (exampleEvent 3)) true, .step]
  exact h.2.mpr (by decide)

/-- `8 * 2 ^ 61` is 0 modulo `2 ^ 64`: the first event is written past an empty block. -/
theorem not_schedulerRun_slots :
    ¬ ∀ (capacity : UInt64) (mallocSched mallocQueue mallocEvents : Bool)
      (eq : EventQueue Unit Unit),
      EventQueue.schedulerCreate capacity mallocSched mallocQueue mallocEvents = some eq →
      ∀ calls : List (QueueCall Unit Unit), Guarded queueCall QueueCall.InBounds eq calls := by
  intro h
  have hrun := h 0x2000000000000000 true true true ⟨fun _ => none, 0, 0, 0x2000000000000000⟩ rfl
    [.schedule (some (exampleEvent 7)) true]
  have hslot : (0 + 1) * eventPtrSize.toNat ≤ 0 := hrun.1.1 0 (by decide)
  exact absurd hslot (by decide)

end FrameRunner
