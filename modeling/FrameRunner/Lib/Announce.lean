import Mathlib.Combinatorics.SimpleGraph.Acyclic
import Mathlib.Combinatorics.SimpleGraph.Metric

/-!
# Announcements

A node passes on what it hears to its neighbors, but never back through the port that it came in
on. What a node knows has then come to it along a walk that does not turn back on an edge, and in
a graph without cycles such a walk is the shortest one.
-/

namespace FrameRunner.Lib

variable {V P : Type*}

/-- What starts at `o`, where the port is `first`, has come in at a node through a port, after a
    number of hops. -/
inductive Announced (G : SimpleGraph V) (port : V → V → P) (o : V) (first : P) : V → P → ℕ → Prop
  | start : Announced G port o first o first 0
  | pass {u v : V} {p : P} {n : ℕ} (h : Announced G port o first u p n) (hadj : G.Adj u v)
      (hp : p ≠ port u v) : Announced G port o first v (port v u) (n + 1)

namespace Announced

variable {G : SimpleGraph V} {port : V → V → P} {o v : V} {first p : P} {n : ℕ}

/-- The walk, and its last edge. -/
theorem walk (h : Announced G port o first v p n) :
    ∃ w : G.Walk o v, w.length = n ∧ w.edges.IsChain (· ≠ ·) ∧
      ∀ e ∈ w.edges.getLast?, ∃ u, e = s(u, v) ∧ p = port v u := by
  induction h with
  | start => exact ⟨.nil, rfl, List.isChain_nil, fun e he => by cases he⟩
  | @pass u v p n _ hadj hp ih =>
    obtain ⟨w, hlen, hchain, hlast⟩ := ih
    refine ⟨w.concat hadj, ?_, ?_, fun e he => ?_⟩
    · rw [SimpleGraph.Walk.length_concat, hlen]
    · rw [SimpleGraph.Walk.edges_concat, List.concat_eq_append]
      refine hchain.append (List.isChain_singleton _) fun e he e' he' heq => ?_
      obtain ⟨x, rfl, hx⟩ := hlast e he
      obtain rfl : s(u, v) = e' := Option.some.inj he'
      rw [Sym2.eq_swap] at heq
      exact hp (Sym2.congr_right.mp heq ▸ hx)
    · rw [SimpleGraph.Walk.edges_concat, List.concat_eq_append, List.getLast?_concat] at he
      obtain rfl : s(u, v) = e := Option.some.inj he
      exact ⟨u, rfl, rfl⟩

theorem reachable (h : Announced G port o first v p n) : G.Reachable o v := by
  obtain ⟨w, -⟩ := h.walk
  exact w.reachable

theorem dist_le (h : Announced G port o first v p n) : G.dist o v ≤ n := by
  obtain ⟨w, rfl, -⟩ := h.walk
  exact SimpleGraph.dist_le w

theorem eq_dist (h : Announced G port o first v p n) (hG : G.IsAcyclic) : n = G.dist o v := by
  obtain ⟨w, rfl, hchain, -⟩ := h.walk
  have hpath : w.IsPath := (hG.isPath_iff_isChain w).mpr hchain
  obtain ⟨q, hq, hlen⟩ := w.reachable.exists_path_of_dist
  have hsame : w = q := congrArg Subtype.val ((hG.subsingleton_path o v).elim ⟨w, hpath⟩ ⟨q, hq⟩)
  rw [hsame, hlen]

/-- The port leads back to where it came from: to the neighbor that is closer to it. -/
theorem port_closer (h : Announced G port o first v p n) (hG : G.IsAcyclic) :
    v = o ∧ p = first ∧ n = 0 ∨ ∃ u, G.Adj v u ∧ p = port v u ∧ G.dist o v = G.dist o u + 1 := by
  cases h with
  | start => exact .inl ⟨rfl, rfl, rfl⟩
  | @pass u _ q m hu hadj hp =>
    refine .inr ⟨u, hadj.symm, rfl, ?_⟩
    rw [← (hu.pass hadj hp).eq_dist hG, ← hu.eq_dist hG]

end Announced

end FrameRunner.Lib
