import FrameRunner.Lib.SlotMap
import FrameRunner.Lib.Run

/-!
# Users that share a machine

Where each input of a machine is of one user, a user does not notice the others if
their inputs keep a relation between the machine and a machine that the user has for
itself, and the user's own inputs keep it and put the same out (`run_filter`).

A bounded map whose keys are of different users is shared so, as long as there is room:
`BoundedMap.restrict` is the part of one user, `insert_restrict` and `erase_restrict` what
the user does to it, `restrict_insert` and `restrict_erase` what the others do.
-/

namespace FrameRunner.Lib

variable {σ ι ω : Type*}

/-- The inputs that are not `mine` change nothing of what `R` relates, and those that are do
    and put out the same on both sides. -/
theorem run_filter {step : σ → ι → σ} {out : σ → ι → List ω} {G : σ → ι → Prop} (mine : ι → Bool)
    (R : σ → σ → Prop)
    (hmine : ∀ s s' i, mine i = true → G s i → R s s' →
      R (step s i) (step s' i) ∧ out s i = out s' i)
    (hother : ∀ s s' i, mine i = false → R s s' → R (step s i) s' ∧ out s i = [])
    (is : List ι) : ∀ s s', Guarded step G s is → R s s' →
      R (run step s is) (run step s' (is.filter mine)) ∧
        outputs step out s is = outputs step out s' (is.filter mine) := by
  induction is with
  | nil => exact fun _ _ _ h => ⟨h, rfl⟩
  | cons i is ih =>
    intro s s' hg h
    cases hi : mine i with
    | true =>
      obtain ⟨hstep, hout⟩ := hmine s s' i hi hg.1 h
      obtain ⟨hrun, houts⟩ := ih _ _ hg.2 hstep
      rw [List.filter_cons_of_pos hi]
      exact ⟨hrun, by rw [outputs, outputs, hout, houts]⟩
    | false =>
      obtain ⟨hstep, hout⟩ := hother s s' i hi h
      obtain ⟨hrun, houts⟩ := ih _ _ hg.2 hstep
      rw [List.filter_cons_of_neg (by simp [hi])]
      exact ⟨hrun, by rw [outputs, hout, houts, List.nil_append]⟩

namespace BoundedMap

variable {κ ν : Type*} {c : ℕ}

/-- The keys of one user. -/
def restrict (m : BoundedMap κ ν c) (p : κ → Bool) : BoundedMap κ ν c := m.erase fun k => !p k

theorem restrict_lookup (m : BoundedMap κ ν c) (p : κ → Bool) (k : κ) :
    (m.restrict p).lookup k = if p k then m.lookup k else none := by
  unfold restrict
  rw [erase_lookup]
  cases p k <;> rfl

theorem mem_restrict_keys {m : BoundedMap κ ν c} {p : κ → Bool} {k : κ} :
    k ∈ (m.restrict p).keys ↔ k ∈ m.keys ∧ p k = true := by
  rw [mem_keys, mem_keys, restrict_lookup]
  cases p k <;> simp

@[simp] theorem restrict_empty (p : κ → Bool) : (empty : BoundedMap κ ν c).restrict p = empty :=
  ext fun k => by
    rw [restrict_lookup]
    exact ite_self _

/-- A removal of keys, among the keys of one user. -/
theorem erase_restrict (m : BoundedMap κ ν c) (p q : κ → Bool) :
    (m.erase q).restrict p = (m.restrict p).erase q := ext fun k => by
  rw [restrict_lookup, erase_lookup, erase_lookup, restrict_lookup]
  cases p k <;> simp

/-- A removal by another user. -/
theorem restrict_erase (m : BoundedMap κ ν c) {p q : κ → Bool} (h : ∀ k, q k = true → p k = false) :
    (m.erase q).restrict p = m.restrict p := ext fun k => by
  rw [restrict_lookup, erase_lookup, restrict_lookup]
  cases hq : q k with
  | true => rw [h k hq]; rfl
  | false => rfl

variable [DecidableEq κ]

/-- There is no less room if only the keys of one user are there. -/
theorem insert_restrict {m m' : BoundedMap κ ν c} {p : κ → Bool} {k : κ} {v : ν} (hk : p k = true)
    (h : m.insert k v = some m') : (m.restrict p).insert k v = some (m'.restrict p) := by
  have hroom : ((m.restrict p).insert k v).isSome := by
    rw [insert_isSome_iff, mem_restrict_keys]
    rcases (insert_isSome_iff m k v).mp (by rw [h]; rfl) with hmem | hlt
    · exact .inl ⟨hmem, hk⟩
    · exact .inr ((Finset.card_le_card fun _ hk' => (mem_restrict_keys.mp hk').1).trans_lt hlt)
  obtain ⟨r, hr⟩ := Option.isSome_iff_exists.mp hroom
  have heq : r = m'.restrict p := ext fun k' => by
    rw [insert_eq_some hr, restrict_lookup, insert_eq_some h]
    by_cases hk' : k' = k
    · subst hk'
      rw [Function.update_self, Function.update_self, hk, if_pos rfl]
    · rw [Function.update_of_ne hk', Function.update_of_ne hk', restrict_lookup]
  rw [hr, heq]

/-- An insertion of another user. -/
theorem restrict_insert {m m' : BoundedMap κ ν c} {p : κ → Bool} {k : κ} {v : ν} (hk : p k = false)
    (h : m.insert k v = some m') : m'.restrict p = m.restrict p := ext fun k' => by
  rw [restrict_lookup, restrict_lookup, insert_eq_some h]
  by_cases hk' : k' = k
  · subst hk'
    rw [hk]
    rfl
  · rw [Function.update_of_ne hk']

end BoundedMap

end FrameRunner.Lib
