import Mathlib.Order.Basic
import Mathlib.Tactic

/-!
# Sweeps

A store whose records carry the time of their last refresh is swept from time to time, and a
sweep takes out of use what is older than a limit. Between two sweeps a record may grow older
than the limit; what bounds its age is that the next sweep is never far away.

* `SweptBy live stamp bound next`: no record in use will be older than `bound` when the sweep at
  `next` comes. `SweptBy.age` is what it says of the present.
* `SweptBy.keep`, `SweptBy.sweep`: a step between the sweeps, in which records are refreshed or
  put in, and the sweep itself.
-/

namespace FrameRunner.Lib

variable {ι : Type*} {live live' : ι → Prop} {stamp stamp' : ι → ℕ} {bound now next : ℕ}

/-- No record in use will be older than `bound` at the time `next`. -/
def SweptBy (live : ι → Prop) (stamp : ι → ℕ) (bound next : ℕ) : Prop :=
  ∀ i, live i → next ≤ stamp i + bound

/-- Nor is it now. -/
theorem SweptBy.age (h : SweptBy live stamp bound next) (hnow : now ≤ next) {i : ι}
    (hi : live i) : now ≤ stamp i + bound :=
  hnow.trans (h i hi)

/-- A record in use was in use with the same time, or is refreshed. -/
theorem SweptBy.keep (h : SweptBy live stamp bound next) (hnext : next ≤ now + bound)
    (hstep : ∀ i, live' i → live i ∧ stamp' i = stamp i ∨ stamp' i = now) :
    SweptBy live' stamp' bound next := by
  intro i hi
  rcases hstep i hi with ⟨hi, he⟩ | he
  · rw [he]
    exact h i hi
  · rw [he]
    exact hnext

/-- What a sweep leaves is at most `limit` old, and the next sweep comes after `period`. -/
theorem SweptBy.sweep (limit : ℕ) {period : ℕ} (hstep : ∀ i, live' i → now ≤ stamp' i + limit)
    (hbound : limit + period ≤ bound) : SweptBy live' stamp' bound (now + period) := by
  intro i hi
  have := hstep i hi
  omega

end FrameRunner.Lib
