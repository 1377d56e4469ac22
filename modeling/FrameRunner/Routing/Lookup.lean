import FrameRunner.Routing.Table

/-!
# Longest prefix match

`route_table_lookup` scans the FIB for the longest prefix that contains the
address (`routeTableLookup_eq_none_iff`, `routeTableLookup_eq_some`). Over a
reachable table this is a statement about the RIB: the longest containing
prefix of any valid route, and of its candidates the preferred one
(`routeTableLookup_run`).
-/

namespace FrameRunner

open FrameRunner.Lib

/-- The FIB entry `f` can answer for `dstIp`. -/
def FibMatches (f : RouteFibEntry) (dstIp : UInt32) : Prop :=
  f.valid = true ∧ f.prefixLen ≤ 32 ∧ PrefixContains f.pfx f.prefixLen dstIp

instance (f : RouteFibEntry) (dstIp : UInt32) : Decidable (FibMatches f dstIp) :=
  inferInstanceAs (Decidable (_ ∧ _ ∧ _))

variable {fib : Slots routeFibSize RouteFibEntry} {dstIp : UInt32}

/-- Both prefix classes of the scan, above and up to 24 bits, are treated
    alike. -/
theorem lookupStep_none (i : Fin routeFibSize) :
    lookupStep fib dstIp none i = if FibMatches (fib i) dstIp then some i else none := by
  have hle : ∀ l : UInt8, ¬ l > 24 → l ≤ 24 := fun l h => UInt8.not_lt.mp h
  simp only [lookupStep, FibMatches, PrefixContains]
  split_ifs <;> simp_all

theorem lookupStep_some (b i : Fin routeFibSize) :
    lookupStep fib dstIp (some b) i =
      if FibMatches (fib i) dstIp ∧ (fib i).prefixLen > (fib b).prefixLen then some i
      else some b := by
  have hle : ∀ l : UInt8, ¬ l > 24 → l ≤ 24 := fun l h => UInt8.not_lt.mp h
  simp only [lookupStep, FibMatches, PrefixContains]
  split_ifs <;> simp_all

/-- The scan of the first `k` FIB slots has kept a longest match among them. -/
def LookupInv (fib : Slots routeFibSize RouteFibEntry) (dstIp : UInt32) (k : ℕ) :
    Option (Fin routeFibSize) → Prop
  | none => ∀ i : Fin routeFibSize, i.val < k → ¬ FibMatches (fib i) dstIp
  | some b => FibMatches (fib b) dstIp ∧ ∀ i : Fin routeFibSize, i.val < k →
      FibMatches (fib i) dstIp → (fib i).prefixLen ≤ (fib b).prefixLen

theorem lookupInv_step (i : Fin routeFibSize) (best : Option (Fin routeFibSize))
    (h : LookupInv fib dstIp i best) :
    LookupInv fib dstIp (i + 1) (lookupStep fib dstIp best i) := by
  cases best with
  | none =>
    rw [lookupStep_none]
    split_ifs with hm
    · refine ⟨hm, fun j hj hj' => ?_⟩
      by_cases hne : j = i
      · rw [hne]; exact UInt8.le_refl _
      · exact absurd hj' (h j (Slots.lt_of_lt_succ_of_ne hj hne))
    · intro j hj hj'
      by_cases hne : j = i
      · exact hm (hne ▸ hj')
      · exact h j (Slots.lt_of_lt_succ_of_ne hj hne) hj'
  | some b =>
    obtain ⟨hb, hmax⟩ := h
    rw [lookupStep_some]
    split_ifs with hm
    · refine ⟨hm.1, fun j hj hj' => ?_⟩
      by_cases hne : j = i
      · rw [hne]; exact UInt8.le_refl _
      · exact UInt8.le_trans (hmax j (Slots.lt_of_lt_succ_of_ne hj hne) hj') (UInt8.le_of_lt hm.2)
    · refine ⟨hb, fun j hj hj' => ?_⟩
      by_cases hne : j = i
      · subst hne
        exact UInt8.not_lt.mp fun hlt => hm ⟨hj', hlt⟩
      · exact hmax j (Slots.lt_of_lt_succ_of_ne hj hne) hj'

theorem lookupInv_scan (fib : Slots routeFibSize RouteFibEntry) (dstIp : UInt32) :
    LookupInv fib dstIp routeFibSize (Slots.forEach routeFibSize (lookupStep fib dstIp) none) :=
  Slots.forEach_induction (LookupInv fib dstIp) (fun i h => absurd h (by omega))
    fun i b h => lookupInv_step i b h

theorem routeTableLookup_eq_none_iff (t : RouteTable) (dstIp : UInt32) :
    routeTableLookup t dstIp = none ↔ ∀ j, ¬ FibMatches (t.fib j) dstIp := by
  have h := lookupInv_scan t.fib dstIp
  rw [routeTableLookup, Option.map_eq_none_iff]
  cases hs : Slots.forEach routeFibSize (lookupStep t.fib dstIp) none with
  | none =>
    rw [hs] at h
    exact ⟨fun _ j => h j j.isLt, fun _ => rfl⟩
  | some b =>
    rw [hs] at h
    exact ⟨nofun, fun hall => absurd h.1 (hall b)⟩

/-- The entry found is a longest match of the whole FIB. -/
theorem routeTableLookup_eq_some {t : RouteTable} {dstIp : UInt32} {f : RouteFibEntry}
    (hf : routeTableLookup t dstIp = some f) :
    ∃ j, t.fib j = f ∧ FibMatches f dstIp ∧
      ∀ j', FibMatches (t.fib j') dstIp → (t.fib j').prefixLen ≤ f.prefixLen := by
  have h := lookupInv_scan t.fib dstIp
  rw [routeTableLookup, Option.map_eq_some_iff] at hf
  obtain ⟨b, hb, rfl⟩ := hf
  rw [hb] at h
  exact ⟨b, rfl, h.1, fun j' => h.2 j' j'.isLt⟩

namespace TableOk

variable {t : RouteTable}

/-- A valid route that contains the address has a matching FIB entry of its
    group. -/
theorem fibMatches_of_rib (h : TableOk t) {i : Fin routeRibSize} (hi : (t.rib i).valid = true)
    (hc : PrefixContains (t.rib i).pfx (t.rib i).prefixLen dstIp) :
    ∃ j, FibMatches (t.fib j) dstIp ∧ SameGroup (t.fib j) (t.rib i) := by
  obtain ⟨j, hj, hg⟩ := h.fib.cover i hi
  refine ⟨j, ⟨hj, ?_, ?_⟩, hg⟩
  · rw [hg.2]; exact h.rib.prefixLen i
  · rw [hg.1, hg.2]; exact hc

/-- And a matching FIB entry copies such a route. -/
theorem rib_of_fibMatches (h : TableOk t) {j : Fin routeFibSize}
    (hj : FibMatches (t.fib j) dstIp) :
    (t.rib (t.fib j).ribIndex).valid = true ∧
      PrefixContains (t.rib (t.fib j).ribIndex).pfx (t.rib (t.fib j).ribIndex).prefixLen dstIp ∧
      t.fib j = (t.rib (t.fib j).ribIndex).toFib (t.fib j).ribIndex := by
  obtain ⟨hv, he⟩ := h.fib.sound j hj.1
  have hc := hj.2.2
  rw [he] at hc
  exact ⟨hv, hc, he⟩

/-- The lookup misses exactly when no valid route contains the address. -/
theorem lookup_eq_none_iff (h : TableOk t) :
    routeTableLookup t dstIp = none ↔
      ∀ i, (t.rib i).valid = true → ¬ PrefixContains (t.rib i).pfx (t.rib i).prefixLen dstIp := by
  rw [routeTableLookup_eq_none_iff]
  constructor
  · intro hnone i hi hc
    obtain ⟨j, hj, -⟩ := h.fibMatches_of_rib hi hc
    exact hnone j hj
  · intro hnone j hj
    obtain ⟨hv, hc, -⟩ := h.rib_of_fibMatches hj
    exact hnone _ hv hc

/-- What it finds is the preferred route of the longest containing prefix. -/
theorem lookup_eq_some (h : TableOk t) {f : RouteFibEntry} (hf : routeTableLookup t dstIp = some f) :
    (∃ j, t.fib j = f ∧ f.valid = true) ∧
      (∀ k, (t.rib k).valid = true → PrefixContains (t.rib k).pfx (t.rib k).prefixLen dstIp →
        (t.rib k).prefixLen ≤ f.prefixLen) ∧
      ∃ i, (t.rib i).valid = true ∧ PrefixContains (t.rib i).pfx (t.rib i).prefixLen dstIp ∧
        f.pfx = (t.rib i).pfx ∧ f.prefixLen = (t.rib i).prefixLen ∧
        f.proto = (t.rib i).proto ∧ f.nextHop = (t.rib i).nextHop ∧
        f.iface = (t.rib i).iface ∧ f.metric = (t.rib i).metric ∧
        ∀ k, (t.rib k).valid = true → (t.rib k).pfx = (t.rib i).pfx →
          (t.rib k).prefixLen = (t.rib i).prefixLen →
          routeRank (t.rib i) i ≤ routeRank (t.rib k) k := by
  obtain ⟨j, rfl, hm, hmax⟩ := routeTableLookup_eq_some hf
  obtain ⟨hv, hc, he⟩ := h.rib_of_fibMatches hm
  have field : ∀ {α : Type} (g : RouteFibEntry → α),
      g (t.fib j) = g ((t.rib (t.fib j).ribIndex).toFib (t.fib j).ribIndex) :=
    fun g => congrArg g he
  refine ⟨⟨j, rfl, hm.1⟩, ?_, (t.fib j).ribIndex, hv, hc, field (·.pfx), field (·.prefixLen),
    field (·.proto), field (·.nextHop), field (·.iface), field (·.metric), ?_⟩
  · intro k hk hkc
    obtain ⟨j', hj', hg⟩ := h.fibMatches_of_rib hk hkc
    rw [← hg.2]
    exact hmax j' hj'
  · intro k hk hp hl
    exact h.fib.best j k hm.1 hk
      ⟨(field (·.pfx)).trans hp.symm, (field (·.prefixLen)).trans hl.symm⟩

end TableOk

/-- After any history, the lookup misses exactly when no valid route contains
    the address, and otherwise finds the preferred route of the longest prefix
    that does. -/
theorem routeTableLookup_run (ops : List RouteOp) (dstIp : UInt32) :
    let t := run routeOpStep routeTableInit ops
    (routeTableLookup t dstIp = none ↔
      ∀ i, (t.rib i).valid = true → ¬ PrefixContains (t.rib i).pfx (t.rib i).prefixLen dstIp) ∧
    ∀ f, routeTableLookup t dstIp = some f →
      (∃ j, t.fib j = f ∧ f.valid = true) ∧
      (∀ k, (t.rib k).valid = true →
        PrefixContains (t.rib k).pfx (t.rib k).prefixLen dstIp →
        (t.rib k).prefixLen ≤ f.prefixLen) ∧
      ∃ i, (t.rib i).valid = true ∧
        PrefixContains (t.rib i).pfx (t.rib i).prefixLen dstIp ∧
        f.pfx = (t.rib i).pfx ∧ f.prefixLen = (t.rib i).prefixLen ∧
        f.proto = (t.rib i).proto ∧ f.nextHop = (t.rib i).nextHop ∧
        f.iface = (t.rib i).iface ∧ f.metric = (t.rib i).metric ∧
        ∀ k, (t.rib k).valid = true → (t.rib k).pfx = (t.rib i).pfx →
          (t.rib k).prefixLen = (t.rib i).prefixLen →
          routeRank (t.rib i) i ≤ routeRank (t.rib k) k := by
  intro t
  have ht : TableOk t := tableOk_run ops
  exact ⟨ht.lookup_eq_none_iff, fun f hf => ht.lookup_eq_some hf⟩

end FrameRunner
