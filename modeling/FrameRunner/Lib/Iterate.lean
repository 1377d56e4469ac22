import Mathlib.Logic.Function.Iterate
import Mathlib.Data.List.Infix

/-!
# Runs of a machine without inputs

A machine is a function `f : σ → σ`, a run iterates it, and of a state only `obs` is seen.

* `seen_iff_of_iterate`: what is seen in a run is seen before a moment of it or from it on.
* `iterate_prefix`: where a step only adds to what is seen, so does a run.
* `exists_iterate_turn`: what holds at some moment and not at first begins to hold once.
-/

namespace FrameRunner.Lib

variable {σ ω : Type*} {f : σ → σ} {obs : σ → ω} {s : σ}

/-- At some moment of the run from `s`, `o` is seen. -/
def Seen (f : σ → σ) (obs : σ → ω) (s : σ) (o : ω) : Prop := ∃ n, obs (f^[n] s) = o

theorem seen_iff_of_iterate (N : ℕ) {o : ω} :
    Seen f obs s o ↔ (∃ k < N, obs (f^[k] s) = o) ∨ Seen f obs (f^[N] s) o := by
  constructor
  · rintro ⟨n, h⟩
    rcases Nat.lt_or_ge n N with hlt | hge
    · exact .inl ⟨n, hlt, h⟩
    · refine .inr ⟨n - N, ?_⟩
      rw [← Function.iterate_add_apply, Nat.sub_add_cancel hge, h]
  · rintro (⟨k, -, h⟩ | ⟨n, h⟩)
    · exact ⟨k, h⟩
    · exact ⟨n + N, by rw [Function.iterate_add_apply, h]⟩

/-- A machine that has halted shows one thing. -/
theorem seen_iff_of_fixed (h : f s = s) {o : ω} : Seen f obs s o ↔ obs s = o := by
  constructor
  · rintro ⟨n, hn⟩
    rwa [Function.iterate_fixed h] at hn
  · exact fun hs => ⟨0, hs⟩

theorem iterate_eq_of_fixed {N n : ℕ} (h : f (f^[N] s) = f^[N] s) (hle : N ≤ n) :
    f^[n] s = f^[N] s := by
  rw [← Nat.sub_add_cancel hle, Function.iterate_add_apply, Function.iterate_fixed h]

theorem iterate_prefix {α : Type*} {log : σ → List α} (hstep : ∀ s, log s <+: log (f s)) (s : σ)
    {m n : ℕ} (hle : m ≤ n) : log (f^[m] s) <+: log (f^[n] s) := by
  induction hle with
  | refl => exact List.prefix_rfl
  | step hle ih =>
    rw [Function.iterate_succ_apply']
    exact ih.trans (hstep _)

theorem exists_iterate_turn {P : σ → Prop} (h0 : ¬ P s) {n : ℕ} (h : P (f^[n] s)) :
    ∃ N, ¬ P (f^[N] s) ∧ P (f^[N + 1] s) := by
  induction n with
  | zero => exact absurd h h0
  | succ n ih =>
    by_cases hn : P (f^[n] s)
    · exact ih hn
    · exact ⟨n, hn, h⟩

end FrameRunner.Lib
