import FrameRunner.Lib.SlotMap

/-!
# Bounded maps that forget

A cache is often a bounded map whose values carry the time at which they were put: a value
is put in if its key is known or there is room, and what is older than a limit is forgotten
from time to time.

* `lookup_step_iff`: what a step makes the map know, and what it leaves.
-/

namespace FrameRunner.Lib

namespace ExpiringMap

variable {κ ν : Type*} {c : ℕ}

/-- A value is put in, with the time, or what is too old by now is forgotten. -/
inductive Op (κ ν : Type*) where
  | put (k : κ) (v : ν) (time : ℕ)
  | expire (now : ℕ)

/-- There is room for the key. -/
def Stores (m : BoundedMap κ (ν × ℕ) c) (k : κ) : Prop := k ∈ m.keys ∨ m.keys.card < c

/-- What was put in for the key at this time stays. -/
def Keeps (ttl : ℕ) (k : κ) (time : ℕ) : Op κ ν → Prop
  | .put k' _ _ => k' ≠ k
  | .expire now => now < time + ttl

variable [DecidableEq κ]

/-- Values live for less than `ttl`. -/
def step (ttl : ℕ) (m : BoundedMap κ (ν × ℕ) c) : Op κ ν → BoundedMap κ (ν × ℕ) c
  | .put k v time => (m.insert k (v, time)).getD m
  | .expire now => m.erase fun k => (m.lookup k).any fun e => decide (e.2 + ttl ≤ now)

section
variable {m : BoundedMap κ (ν × ℕ) c} {k : κ} {v : ν} {time : ℕ}

theorem step_put_of_stores (ttl : ℕ) (h : Stores m k) :
    (step ttl m (.put k v time)).lookup = Function.update m.lookup k (some (v, time)) ∧
      (step ttl m (.put k v time)).keys = Insert.insert k m.keys := by
  obtain ⟨m', hm'⟩ := Option.isSome_iff_exists.mp ((m.insert_isSome_iff k (v, time)).mpr h)
  rw [step, hm', Option.getD_some]
  exact ⟨BoundedMap.insert_eq_some hm', BoundedMap.insert_keys hm'⟩

theorem step_put_of_not_stores (ttl : ℕ) (h : ¬ Stores m k) : step ttl m (.put k v time) = m := by
  have hnone : m.insert k (v, time) = none := by
    rw [← Option.not_isSome_iff_eq_none, m.insert_isSome_iff]
    exact h
  rw [step, hnone, Option.getD_none]

theorem lookup_step_iff (ttl : ℕ) (op : Op κ ν) :
    (step ttl m op).lookup k = some (v, time) ↔
      (op = .put k v time ∧ Stores m k) ∨ (m.lookup k = some (v, time) ∧ Keeps ttl k time op) := by
  cases op with
  | put k' v' time' =>
    by_cases hstores : Stores m k'
    · rw [(step_put_of_stores ttl hstores).1]
      by_cases hk : k' = k
      · subst hk
        rw [Function.update_self]
        simp [hstores, Keeps]
      · rw [Function.update_of_ne (Ne.symm hk)]
        simp [hk, Keeps]
    · rw [step_put_of_not_stores ttl hstores]
      by_cases hk : k' = k
      · subst hk
        have hnone : m.lookup k' = none := by
          rw [← Option.not_isSome_iff_eq_none, ← m.mem_keys]
          exact fun h => hstores (.inl h)
        simp [hnone, hstores]
      · simp [hk, Keeps]
  | expire now =>
    rw [step, BoundedMap.erase_lookup]
    cases hm : m.lookup k with
    | none => simp
    | some e =>
      rw [Option.any_some]
      by_cases hold : e.2 + ttl ≤ now
      · rw [decide_eq_true hold, if_pos rfl]
        refine iff_of_false (by simp) ?_
        rintro (⟨h, -⟩ | ⟨h, hkeeps⟩)
        · cases h
        · obtain rfl := Option.some.inj h
          exact absurd hkeeps (not_lt.mpr hold)
      · rw [decide_eq_false hold, if_neg Bool.false_ne_true]
        constructor
        · intro h
          obtain rfl := Option.some.inj h
          exact .inr ⟨rfl, not_le.mp hold⟩
        · rintro (⟨h, -⟩ | ⟨h, -⟩)
          · cases h
          · exact h

end

end ExpiringMap

end FrameRunner.Lib
