import Mathlib.Data.List.Basic
import Mathlib.Data.List.Induction

/-!
# Runs of a deterministic machine

A machine is a step function `σ → ι → σ`; a run feeds it a list of inputs.

* `run_invariant`, `guarded_invariant`: a fact about one step becomes one about every run,
  unconditionally, or for the runs whose steps all meet a condition on the input and the
  state before it; `run_related` for the states before and after.
* `run_simulation`: a step that simulates another machine's becomes a simulation.
* `guarded_of_invariant`, `guarded_of_final`: what an invariant implies of a step holds of the
  steps of a run, and a condition on the last state that no step establishes is one on every
  step; `guarded_iff` for two conditions that agree under the invariant.
* `run_iff_guarded`: a property that a step keeps exactly when it meets a condition holds at
  the end of exactly the runs that meet it.
* `run_latest_iff`: what only some steps make goes back to the latest of them.
* `run_outputs`: where the steps put something out, a relation between two states and the
  output in between that composes holds of the runs.
* `observe`: a machine under observation also keeps a note of what it has done.
-/

namespace FrameRunner.Lib

variable {σ τ ι ω μ : Type*}

/-- The state after the inputs `is`, oldest first. -/
def run (step : σ → ι → σ) (s : σ) (is : List ι) : σ := is.foldl step s

@[simp] theorem run_nil (step : σ → ι → σ) (s : σ) : run step s [] = s := rfl

@[simp] theorem run_cons (step : σ → ι → σ) (s : σ) (i : ι) (is : List ι) :
    run step s (i :: is) = run step (step s i) is := rfl

theorem run_append (step : σ → ι → σ) (s : σ) (is js : List ι) :
    run step s (is ++ js) = run step (run step s is) js := List.foldl_append

theorem run_invariant {step : σ → ι → σ} (P : σ → Prop) (hstep : ∀ s i, P s → P (step s i))
    (is : List ι) : ∀ s, P s → P (run step s is) := by
  induction is with
  | nil => exact fun _ h => h
  | cons i is ih => exact fun s h => ih _ (hstep s i h)

/-- The invariant may depend on the inputs that there are. -/
theorem run_invariant_mem {step : σ → ι → σ} (P : σ → Prop) {is : List ι}
    (hstep : ∀ s, ∀ i ∈ is, P s → P (step s i)) {s : σ} (h : P s) : P (run step s is) :=
  List.foldlRecOn is step h fun s hs i hi => hstep s i hi hs

/-- What relates the states before and after a step relates those of a run, if it composes. -/
theorem run_related {step : σ → ι → σ} (R : σ → σ → Prop) (hrefl : ∀ s, R s s)
    (htrans : ∀ {s s' s''}, R s s' → R s' s'' → R s s'') (hstep : ∀ s i, R s (step s i))
    (is : List ι) : ∀ s, R s (run step s is) := by
  induction is with
  | nil => exact hrefl
  | cons i is ih => exact fun s => htrans (hstep s i) (ih _)

/-- A machine whose steps are those of another, under an invariant, runs as the other does. -/
theorem run_simulation {step : σ → ι → σ} {step' : τ → ι → τ} {abs : σ → τ} (P : σ → Prop)
    (habs : ∀ s i, P s → abs (step s i) = step' (abs s) i) (hstep : ∀ s i, P s → P (step s i))
    (is : List ι) : ∀ s, P s → abs (run step s is) = run step' (abs s) is := by
  induction is with
  | nil => exact fun _ _ => rfl
  | cons i is ih =>
    intro s h
    rw [run_cons, run_cons, ih _ (hstep s i h), habs s i h]

/-- What the steps of a run put out, one after the other. -/
def outputs (step : σ → ι → σ) (out : σ → ι → List ω) : σ → List ι → List ω
  | _, [] => []
  | s, i :: is => out s i ++ outputs step out (step s i) is

theorem run_outputs {step : σ → ι → σ} {out : σ → ι → List ω} {R : σ → σ → List ω → Prop}
    (hrefl : ∀ s, R s s [])
    (htrans : ∀ {s s' s'' os os'}, R s s' os → R s' s'' os' → R s s'' (os ++ os'))
    (hstep : ∀ s i, R s (step s i) (out s i)) (is : List ι) :
    ∀ s, R s (run step s is) (outputs step out s is) := by
  induction is with
  | nil => exact hrefl
  | cons i is ih => exact fun s => htrans (hstep s i) (ih _)

/-- A step of a machine under observation: `note` is taken of the step. -/
def observe (step : σ → ι → σ) (note : μ → σ → ι → μ) (x : σ × μ) (i : ι) : σ × μ :=
  (step x.1 i, note x.2 x.1 i)

/-- The observation does not change the run. -/
@[simp] theorem run_observe (step : σ → ι → σ) (note : μ → σ → ι → μ) (is : List ι) :
    ∀ x : σ × μ, (run (observe step note) x is).1 = run step x.1 is := by
  induction is with
  | nil => exact fun _ => rfl
  | cons i is ih => exact fun x => ih _

/-- Every step of the run meets `G` in the state it is taken from. -/
def Guarded (step : σ → ι → σ) (G : σ → ι → Prop) : σ → List ι → Prop
  | _, [] => True
  | s, i :: is => G s i ∧ Guarded step G (step s i) is

instance Guarded.decidable {step : σ → ι → σ} {G : σ → ι → Prop} [∀ s i, Decidable (G s i)] :
    (s : σ) → (is : List ι) → Decidable (Guarded step G s is)
  | _, [] => isTrue trivial
  | s, i :: is =>
    have : Decidable (Guarded step G (step s i) is) := Guarded.decidable (step s i) is
    inferInstanceAs (Decidable (_ ∧ _))

/-- The invariant may depend on the inputs that there are. -/
theorem guarded_invariant_mem {step : σ → ι → σ} {G : σ → ι → Prop} (P : σ → Prop)
    (is : List ι) (hstep : ∀ s, ∀ i ∈ is, G s i → P s → P (step s i)) :
    ∀ s, Guarded step G s is → P s → P (run step s is) := by
  induction is with
  | nil => exact fun _ _ h => h
  | cons i is ih =>
    intro s hg h
    exact ih (fun s j hj => hstep s j (List.mem_cons_of_mem i hj)) _ hg.2
      (hstep s i List.mem_cons_self hg.1 h)

theorem guarded_invariant {step : σ → ι → σ} {G : σ → ι → Prop} (P : σ → Prop)
    (hstep : ∀ s i, G s i → P s → P (step s i)) (is : List ι) :
    ∀ s, Guarded step G s is → P s → P (run step s is) :=
  guarded_invariant_mem P is fun s i _ => hstep s i

/-- What the invariant implies of every step holds of the steps of a run. -/
theorem guarded_of_invariant {step : σ → ι → σ} {G : σ → ι → Prop} (P : σ → Prop)
    (hG : ∀ s i, P s → G s i) (hstep : ∀ s i, P s → P (step s i)) (is : List ι) :
    ∀ s, P s → Guarded step G s is := by
  induction is with
  | nil => exact fun _ _ => trivial
  | cons i is ih => exact fun s h => ⟨hG s i h, ih _ (hstep s i h)⟩

theorem Guarded.mono {step : σ → ι → σ} {G G' : σ → ι → Prop} (h : ∀ s i, G s i → G' s i)
    {is : List ι} {s : σ} (hg : Guarded step G s is) : Guarded step G' s is := by
  induction is generalizing s with
  | nil => trivial
  | cons i is ih => exact ⟨h s i hg.1, ih hg.2⟩

theorem Guarded.and {step : σ → ι → σ} {G G' : σ → ι → Prop} (is : List ι) :
    ∀ s, Guarded step G s is → Guarded step G' s is →
      Guarded step (fun s i => G s i ∧ G' s i) s is := by
  induction is with
  | nil => exact fun _ _ _ => trivial
  | cons i is ih => exact fun s h h' => ⟨⟨h.1, h'.1⟩, ih _ h.2 h'.2⟩

/-- A run goes on from where it has come to. -/
theorem guarded_append {step : σ → ι → σ} {G : σ → ι → Prop} (is js : List ι) :
    ∀ s, Guarded step G s (is ++ js) ↔
      Guarded step G s is ∧ Guarded step G (run step s is) js := by
  induction is with
  | nil => exact fun _ => ⟨fun h => ⟨trivial, h⟩, And.right⟩
  | cons i is ih => exact fun s => (and_congr_right fun _ => ih _).trans (and_assoc).symm

/-- Two conditions that agree on the states a guarded run can be in are the same. -/
theorem guarded_iff {step : σ → ι → σ} {G G' : σ → ι → Prop} (P : σ → Prop)
    (hiff : ∀ s i, P s → (G s i ↔ G' s i)) (hstep : ∀ s i, G' s i → P s → P (step s i))
    (is : List ι) : ∀ s, P s → (Guarded step G s is ↔ Guarded step G' s is) := by
  induction is with
  | nil => exact fun _ _ => Iff.rfl
  | cons i is ih =>
    intro s h
    refine ⟨fun hg => ?_, fun hg => ?_⟩
    · have hi := (hiff s i h).mp hg.1
      exact ⟨hi, (ih _ (hstep s i hi h)).mp hg.2⟩
    · exact ⟨(hiff s i h).mpr hg.1, (ih _ (hstep s i hg.1 h)).mpr hg.2⟩

/-- A condition that no step establishes and that holds in the end held all along. -/
theorem guarded_of_final {step : σ → ι → σ} {Q : σ → Prop} (hstep : ∀ s i, Q (step s i) → Q s)
    (is : List ι) : ∀ s, Q (run step s is) → Q s ∧ Guarded step (fun s i => Q (step s i)) s is := by
  induction is with
  | nil => exact fun _ h => ⟨h, trivial⟩
  | cons i is ih =>
    intro s h
    obtain ⟨h1, h2⟩ := ih _ h
    exact ⟨hstep s i h1, h1, h2⟩

/-- What a step keeps exactly under a condition, and never establishes. -/
theorem run_iff_guarded {step : σ → ι → σ} {G : σ → ι → Prop} {Q : σ → Prop} (P : σ → Prop)
    (hstep : ∀ s i, P s → P (step s i)) (hiff : ∀ s i, P s → (Q (step s i) ↔ Q s ∧ G s i))
    (is : List ι) : ∀ s, P s → (Q (run step s is) ↔ Q s ∧ Guarded step G s is) := by
  induction is with
  | nil => exact fun _ _ => ⟨fun h => ⟨h, trivial⟩, And.left⟩
  | cons i is ih =>
    intro s h
    rw [run_cons, ih _ (hstep s i h), hiff s i h, and_assoc]
    rfl

/-- What only some steps make holds in the end if one of them did and all steps since have
    kept it. -/
theorem run_latest_iff {step : σ → ι → σ} {Q : σ → Prop} {Makes : σ → ι → Prop}
    {Keeps : ι → Prop} (hstep : ∀ s i, Q (step s i) ↔ Makes s i ∨ Q s ∧ Keeps i) {s : σ}
    (h0 : ¬ Q s) (is : List ι) : Q (run step s is) ↔
      ∃ pre i post, is = pre ++ i :: post ∧ Makes (run step s pre) i ∧ ∀ j ∈ post, Keeps j := by
  induction is using List.reverseRecOn with
  | nil =>
    refine iff_of_false h0 ?_
    rintro ⟨pre, i, post, h, -⟩
    exact absurd h.symm (by simp)
  | append_singleton is i ih =>
    rw [run_append, run_cons, run_nil, hstep, ih]
    constructor
    · rintro (hmakes | ⟨⟨pre, j, post, rfl, hmakes, hkeeps⟩, hi⟩)
      · exact ⟨is, i, [], rfl, hmakes, fun j hj => absurd hj List.not_mem_nil⟩
      · refine ⟨pre, j, post ++ [i], by rw [List.append_assoc, List.cons_append], hmakes, ?_⟩
        intro j' hj'
        rcases List.mem_append.mp hj' with hj' | hj'
        · exact hkeeps j' hj'
        · rw [List.mem_singleton.mp hj']
          exact hi
    · rintro ⟨pre, j, post, h, hmakes, hkeeps⟩
      rcases List.eq_nil_or_concat post with rfl | ⟨post, k, rfl⟩
      · obtain ⟨rfl, hij⟩ := List.append_inj' h rfl
        obtain rfl := List.singleton_inj.mp hij
        exact .inl hmakes
      · rw [List.concat_eq_append, ← List.cons_append, ← List.append_assoc] at h
        obtain ⟨rfl, hik⟩ := List.append_inj' h rfl
        obtain rfl := List.singleton_inj.mp hik
        rw [List.concat_eq_append] at hkeeps
        exact .inr ⟨⟨pre, j, post, rfl, hmakes,
          fun j' hj' => hkeeps j' (List.mem_append_left _ hj')⟩,
          hkeeps i (List.mem_append_right _ (List.mem_singleton_self i))⟩

end FrameRunner.Lib
