import FrameRunner.Routing.Rebuild
import FrameRunner.Lib.Run

/-!
# The route table over whole histories

`RibOk` and `FibOk` say what a route table built through its API looks like:
counters, keys and prefixes of the RIB, and the FIB as one copied winner for
each `(prefix, prefix_len)` group. The rebuild turns any `RibOk` table into one
that is `FibOk` as well (`RibOk.rebuild`), every call ends in a rebuild, and so
the tables of all histories are `TableOk` (`tableOk_run`).
-/

namespace FrameRunner

open FrameRunner.Lib

/-! ## Invariants -/

/-- The RIB between two calls. -/
structure RibOk (t : RouteTable) : Prop where
  ribCount : t.ribCount = Slots.count RouteRibEntry.valid t.rib
  /-- one valid entry for each key -/
  distinct : ∀ i j, (t.rib i).valid = true → (t.rib j).valid = true →
    (t.rib i).pfx = (t.rib j).pfx → (t.rib i).prefixLen = (t.rib j).prefixLen →
    (t.rib i).proto = (t.rib j).proto → i = j
  normalized : ∀ i, PrefixNormalized (t.rib i).pfx (t.rib i).prefixLen
  prefixLen : ∀ i, (t.rib i).prefixLen ≤ 32
  live : ∀ i, (t.rib i).valid = true → (t.rib i).proto ≠ 0 ∧ (t.rib i).iface.isSome
  cleared : ∀ i, (t.rib i).valid = false → (t.rib i).selected = false ∧ (t.rib i).iface = none

/-- The FIB between two calls. -/
structure FibOk (t : RouteTable) : Prop where
  fibCount : t.fibCount = Slots.count RouteFibEntry.valid t.fib
  /-- a valid FIB entry copies the valid RIB entry it names -/
  sound : ∀ j, (t.fib j).valid = true → (t.rib (t.fib j).ribIndex).valid = true ∧
    t.fib j = (t.rib (t.fib j).ribIndex).toFib (t.fib j).ribIndex
  distinct : ∀ j j', (t.fib j).valid = true → (t.fib j').valid = true →
    (t.fib j).pfx = (t.fib j').pfx → (t.fib j).prefixLen = (t.fib j').prefixLen → j = j'
  cover : ∀ i, (t.rib i).valid = true → ∃ j, (t.fib j).valid = true ∧ SameGroup (t.fib j) (t.rib i)
  best : ∀ j i, (t.fib j).valid = true → (t.rib i).valid = true → SameGroup (t.fib j) (t.rib i) →
    routeRank (t.rib (t.fib j).ribIndex) (t.fib j).ribIndex ≤ routeRank (t.rib i) i
  selected : ∀ i, (t.rib i).selected = true ↔
    ∃ j, (t.fib j).valid = true ∧ (t.fib j).ribIndex = i

/-- A table as its API leaves it. -/
structure TableOk (t : RouteTable) : Prop where
  rib : RibOk t
  fib : FibOk t

theorem ribOk_init : RibOk routeTableInit where
  ribCount := (Slots.count_eq_zero.mpr fun _ => rfl).symm
  distinct i j h := by simp [routeTableInit] at h
  normalized i := by simp [routeTableInit, PrefixNormalized]
  prefixLen i := by simp [routeTableInit]
  live i h := by simp [routeTableInit] at h
  cleared i _ := by simp [routeTableInit]

theorem tableOk_init : TableOk routeTableInit where
  rib := ribOk_init
  fib :=
    { fibCount := (Slots.count_eq_zero.mpr fun _ => rfl).symm
      sound := fun j h => by simp [routeTableInit] at h
      distinct := fun j j' h => by simp [routeTableInit] at h
      cover := fun i h => by simp [routeTableInit] at h
      best := fun j i h => by simp [routeTableInit] at h
      selected := fun i => by simp [routeTableInit] }

/-! ## The rebuild -/

namespace RebuildInv

variable {t₀ t : RouteTable}

/-- The scan done, the FIB is that of the RIB. -/
theorem fibOk (I : RebuildInv t₀ routeRibSize t)
    (h : ∀ i, (t₀.rib i).valid = false → (t₀.rib i).selected = false) : FibOk t where
  fibCount := I.fibCount
  sound j hj := by
    obtain ⟨-, hv, he⟩ := I.sound j hj
    exact ⟨by rw [I.valid_eq]; exact hv, by rw [I.toFib_eq]; exact he⟩
  distinct := I.distinct
  cover i hi := by
    obtain ⟨j, hj, hg⟩ := I.cover i i.isLt (by rw [← I.valid_eq]; exact hi)
    exact ⟨j, hj, hg.1.trans (I.key_eq i).1.symm, hg.2.trans (I.key_eq i).2.symm⟩
  best j i hj hi hg := by
    rw [routeRank_congr (I.core _), routeRank_congr (I.core i)]
    exact I.best j i hj i.isLt (by rw [← I.valid_eq]; exact hi)
      ⟨hg.1.trans (I.key_eq i).1, hg.2.trans (I.key_eq i).2⟩
  selected i := by
    by_cases hv : (t₀.rib i).valid = true
    · exact I.marked i hv
    · have hv : (t₀.rib i).valid = false := by simpa using hv
      rw [I.unmarked i hv, h i hv]
      refine ⟨by simp, fun ⟨j, hj, hji⟩ => ?_⟩
      have := (I.sound j hj).2.1
      simp [hji, hv] at this

end RebuildInv

/-- A table whose RIB is sound is `TableOk` after a rebuild. -/
theorem RibOk.rebuild {t : RouteTable} (h : RibOk t) : TableOk (routeTableRebuildFib t).1 := by
  have I := routeTableRebuildFib_inv t
  set t' := (routeTableRebuildFib t).1
  have hfields := fun i => RouteRibEntry.core_eq_iff.mp (I.core i)
  refine ⟨?_, I.fibOk fun i hi => (h.cleared i hi).1⟩
  constructor
  · rw [I.ribCount, h.ribCount]
    exact Slots.count_congr fun i => (I.valid_eq i).symm
  · intro i j hi hj hp hl hr
    obtain ⟨pi, li, ri, vi, -⟩ := hfields i
    obtain ⟨pj, lj, rj, vj, -⟩ := hfields j
    exact h.distinct i j (vi ▸ hi) (vj ▸ hj) (pi ▸ pj ▸ hp) (li ▸ lj ▸ hl) (ri ▸ rj ▸ hr)
  · intro i
    rw [(hfields i).1, (hfields i).2.1]
    exact h.normalized i
  · intro i
    rw [(hfields i).2.1]
    exact h.prefixLen i
  · intro i hi
    obtain ⟨-, -, hr, hv, -, hf, -⟩ := hfields i
    rw [hr, hf]
    exact h.live i (hv ▸ hi)
  · intro i hi
    obtain ⟨-, -, -, hv, -, hf, -⟩ := hfields i
    have hi' : (t.rib i).valid = false := hv ▸ hi
    rw [I.unmarked i hi', hf]
    exact h.cleared i hi'

/-! ## The calls -/

theorem ribFind_eq_some {t : RouteTable} {pfx : UInt32} {prefixLen proto : UInt8}
    {i : Fin routeRibSize} (h : ribFind t pfx prefixLen proto = some i) :
    (t.rib i).valid = true ∧ (t.rib i).pfx = pfx ∧ (t.rib i).prefixLen = prefixLen ∧
      (t.rib i).proto = proto := by
  obtain ⟨hi, -⟩ := Fin.find?_eq_some_iff.mp h
  simpa [and_assoc] using hi

theorem ribFind_eq_none {t : RouteTable} {pfx : UInt32} {prefixLen proto : UInt8}
    (h : ribFind t pfx prefixLen proto = none) (i : Fin routeRibSize)
    (hv : (t.rib i).valid = true) (hp : (t.rib i).pfx = pfx)
    (hl : (t.rib i).prefixLen = prefixLen) : (t.rib i).proto ≠ proto := by
  have hi := Fin.find?_eq_none_iff.mp h i
  simpa [hv, hp, hl] using hi

/-- The table that `route_table_add` rebuilds when slot `i` holds the key. -/
def addUpdate (t : RouteTable) (i : Fin routeRibSize) (nextHop : UInt32)
    (iface : Option IfaceRef) (metric : UInt32) : RouteTable :=
  { t with
    rib := Function.update t.rib i
      { t.rib i with nextHop := nextHop, iface := iface, metric := metric } }

/-- The table that `route_table_add` rebuilds when it fills the free slot `i`. -/
def addInsert (t : RouteTable) (i : Fin routeRibSize) (pfx : UInt32) (prefixLen : UInt8)
    (nextHop : UInt32) (iface : Option IfaceRef) (metric : UInt32) (proto : UInt8) : RouteTable :=
  { t with
    rib := Function.update t.rib i
      { pfx := pfx &&& ipv4PrefixMask prefixLen, prefixLen := prefixLen, proto := proto,
        valid := true, selected := false, nextHop := nextHop, iface := iface, metric := metric,
        sequence := t.nextSequence }
    nextSequence := t.nextSequence + 1
    ribCount := t.ribCount + 1 }

/-- Everything `route_table_add` can do. -/
theorem routeTableAdd_cases (t : RouteTable) (pfx : UInt32) (prefixLen : UInt8)
    (nextHop : UInt32) (iface : Option IfaceRef) (metric : UInt32) (proto : UInt8) :
    (routeTableAdd t pfx prefixLen nextHop iface metric proto = (t, -1) ∧
      (iface = none ∨ 32 < prefixLen ∨ proto = 0 ∨
        ribFind t (pfx &&& ipv4PrefixMask prefixLen) prefixLen proto = none ∧
          ∀ i, (t.rib i).valid = true)) ∨
    (iface.isSome ∧ prefixLen ≤ 32 ∧ proto ≠ 0 ∧
      ((∃ i, ribFind t (pfx &&& ipv4PrefixMask prefixLen) prefixLen proto = some i ∧
        routeTableAdd t pfx prefixLen nextHop iface metric proto =
          ((routeTableRebuildFib (addUpdate t i nextHop iface metric)).1, 0)) ∨
      (∃ i, ribFind t (pfx &&& ipv4PrefixMask prefixLen) prefixLen proto = none ∧
        (t.rib i).valid = false ∧
        routeTableAdd t pfx prefixLen nextHop iface metric proto =
          ((routeTableRebuildFib
            (addInsert t i pfx prefixLen nextHop iface metric proto)).1, 0)))) := by
  unfold routeTableAdd
  split_ifs with hbad
  · refine .inl ⟨rfl, ?_⟩
    simp only [Bool.or_eq_true, Option.isNone_iff_eq_none, decide_eq_true_eq, beq_iff_eq,
      gt_iff_lt, or_assoc] at hbad
    rcases hbad with h | h | h
    · exact .inl h
    · exact .inr (.inl h)
    · exact .inr (.inr (.inl h))
  simp only [Bool.or_eq_true, Option.isNone_iff_eq_none, decide_eq_true_eq, beq_iff_eq,
    not_or, gt_iff_lt] at hbad
  obtain ⟨⟨hiface, hlen⟩, hproto⟩ := hbad
  have hlen := UInt8.not_lt.mp hlen
  dsimp only
  cases hfind : ribFind t (pfx &&& ipv4PrefixMask prefixLen) prefixLen proto with
  | some i =>
    refine .inr ⟨Option.isSome_iff_ne_none.mpr hiface, hlen, hproto, .inl ⟨i, rfl, ?_⟩⟩
    simp [addUpdate]
  | none =>
    cases hfree : Fin.find? fun i => !(t.rib i).valid with
    | none =>
      refine .inl ⟨rfl, .inr (.inr (.inr ⟨rfl, fun i => ?_⟩))⟩
      simpa using Fin.find?_eq_none_iff.mp hfree i
    | some i =>
      obtain ⟨hi, -⟩ := Fin.find?_eq_some_iff.mp hfree
      refine .inr ⟨Option.isSome_iff_ne_none.mpr hiface, hlen, hproto, .inr ⟨i, rfl, ?_, ?_⟩⟩
      · simpa using hi
      · simp [addInsert]

theorem RibOk.update {t : RouteTable} (h : RibOk t) {i : Fin routeRibSize}
    (hi : (t.rib i).valid = true) (nextHop : UInt32) {iface : Option IfaceRef}
    (hiface : iface.isSome) (metric : UInt32) :
    RibOk (addUpdate t i nextHop iface metric) := by
  -- only fields that no key and no counter depends on change
  have key : ∀ j, ((addUpdate t i nextHop iface metric).rib j).pfx = (t.rib j).pfx ∧
      ((addUpdate t i nextHop iface metric).rib j).prefixLen = (t.rib j).prefixLen ∧
      ((addUpdate t i nextHop iface metric).rib j).proto = (t.rib j).proto ∧
      ((addUpdate t i nextHop iface metric).rib j).valid = (t.rib j).valid := by
    intro j
    by_cases hj : j = i
    · subst hj; simp [addUpdate]
    · simp [addUpdate, Function.update_of_ne hj]
  constructor
  · exact h.ribCount.trans (Slots.count_congr fun j => (key j).2.2.2.symm)
  · intro j k hj hk hp hl hr
    simp only [(key j).1, (key j).2.1, (key j).2.2.1, (key j).2.2.2] at hj hp hl hr
    simp only [(key k).1, (key k).2.1, (key k).2.2.1, (key k).2.2.2] at hk hp hl hr
    exact h.distinct j k hj hk hp hl hr
  · intro j
    rw [(key j).1, (key j).2.1]
    exact h.normalized j
  · intro j
    rw [(key j).2.1]
    exact h.prefixLen j
  · intro j hj
    rw [(key j).2.2.1]
    rw [(key j).2.2.2] at hj
    refine ⟨(h.live j hj).1, ?_⟩
    by_cases hji : j = i
    · subst hji; simpa [addUpdate] using hiface
    · simpa [addUpdate, Function.update_of_ne hji] using (h.live j hj).2
  · intro j hj
    rw [(key j).2.2.2] at hj
    have hji : j ≠ i := by rintro rfl; simp [hi] at hj
    simpa [addUpdate, Function.update_of_ne hji] using h.cleared j hj

theorem RibOk.insert {t : RouteTable} (h : RibOk t) {i : Fin routeRibSize}
    (hi : (t.rib i).valid = false) {pfx : UInt32} {prefixLen proto : UInt8}
    (hnone : ribFind t (pfx &&& ipv4PrefixMask prefixLen) prefixLen proto = none)
    (hlen : prefixLen ≤ 32) (hproto : proto ≠ 0) (nextHop : UInt32) {iface : Option IfaceRef}
    (hiface : iface.isSome) (metric : UInt32) :
    RibOk (addInsert t i pfx prefixLen nextHop iface metric proto) := by
  have other : ∀ j, j ≠ i →
      (addInsert t i pfx prefixLen nextHop iface metric proto).rib j = t.rib j :=
    fun j hj => Function.update_of_ne hj ..
  constructor
  · have hcount := Slots.count_update RouteRibEntry.valid t.rib i
      { pfx := pfx &&& ipv4PrefixMask prefixLen, prefixLen := prefixLen, proto := proto,
        valid := true, selected := false, nextHop := nextHop, iface := iface, metric := metric,
        sequence := t.nextSequence }
    rw [hi, ← h.ribCount] at hcount
    exact hcount.symm
  · intro j k hj hk hp hl hr
    by_cases hji : j = i <;> by_cases hki : k = i
    · rw [hji, hki]
    · subst hji
      rw [other k hki] at hk hp hl hr
      simp only [addInsert, Function.update_self] at hp hl hr
      exact absurd hr.symm (ribFind_eq_none hnone k hk hp.symm hl.symm)
    · subst hki
      rw [other j hji] at hj hp hl hr
      simp only [addInsert, Function.update_self] at hp hl hr
      exact absurd hr (ribFind_eq_none hnone j hj hp hl)
    · rw [other j hji] at hj hp hl hr
      rw [other k hki] at hk hp hl hr
      exact h.distinct j k hj hk hp hl hr
  · intro j
    by_cases hji : j = i
    · subst hji
      simpa [addInsert] using prefixNormalized_mask pfx prefixLen
    · rw [other j hji]; exact h.normalized j
  · intro j
    by_cases hji : j = i
    · subst hji; simpa [addInsert] using hlen
    · rw [other j hji]; exact h.prefixLen j
  · intro j hj
    by_cases hji : j = i
    · subst hji; simpa [addInsert] using ⟨hproto, hiface⟩
    · rw [other j hji] at hj ⊢; exact h.live j hj
  · intro j hj
    by_cases hji : j = i
    · subst hji; simp [addInsert] at hj
    · rw [other j hji] at hj ⊢; exact h.cleared j hj

theorem TableOk.add {t : RouteTable} (h : TableOk t) (pfx : UInt32) (prefixLen : UInt8)
    (nextHop : UInt32) (iface : Option IfaceRef) (metric : UInt32) (proto : UInt8) :
    TableOk (routeTableAdd t pfx prefixLen nextHop iface metric proto).1 := by
  rcases routeTableAdd_cases t pfx prefixLen nextHop iface metric proto with
    ⟨he, -⟩ | ⟨hiface, hlen, hproto, ⟨i, hfind, he⟩ | ⟨i, hfind, hfree, he⟩⟩
  · rw [he]; exact h
  · rw [he]
    exact (h.rib.update (ribFind_eq_some hfind).1 nextHop hiface metric).rebuild
  · rw [he]
    exact (h.rib.insert hfree hfind hlen hproto nextHop hiface metric).rebuild

/-- The table after the slots that `hit` chooses are cleared. -/
def clearSlots (t : RouteTable) (hit : Fin routeRibSize → Bool) (ribCount : ℕ) : RouteTable :=
  { t with
    rib := fun i => if hit i then (t.rib i).clear else t.rib i
    ribCount := ribCount }

theorem clearSlots_one (t : RouteTable) (i : Fin routeRibSize) (n : ℕ) :
    clearSlots t (fun j => j == i) n =
      { t with rib := Function.update t.rib i (t.rib i).clear, ribCount := n } := by
  have hrib : (clearSlots t (fun j => j == i) n).rib = Function.update t.rib i (t.rib i).clear := by
    funext j
    by_cases hj : j = i
    · subst hj
      simp [clearSlots]
    · simp [clearSlots, hj]
  rw [← hrib]
  rfl

/-- Clearing valid slots and counting them off keeps the RIB sound. -/
theorem RibOk.clear {t : RouteTable} (h : RibOk t) {hit : Fin routeRibSize → Bool} {n : ℕ}
    (hn : n = Slots.count RouteRibEntry.valid (clearSlots t hit n).rib) :
    RibOk (clearSlots t hit n) := by
  have kept : ∀ i, ((clearSlots t hit n).rib i).valid = true →
      (clearSlots t hit n).rib i = t.rib i := by
    intro i hi
    by_cases hh : hit i = true
    · simp [clearSlots, hh, RouteRibEntry.clear] at hi
    · simp [clearSlots, hh]
  have key : ∀ i, ((clearSlots t hit n).rib i).pfx = (t.rib i).pfx ∧
      ((clearSlots t hit n).rib i).prefixLen = (t.rib i).prefixLen := by
    intro i
    by_cases hh : hit i = true <;> simp [clearSlots, hh, RouteRibEntry.clear]
  refine ⟨hn, ?_, ?_, ?_, ?_, ?_⟩
  · intro i j hi hj hp hl hr
    have hki := kept i hi
    have hkj := kept j hj
    rw [hki] at hi hp hl hr
    rw [hkj] at hj hp hl hr
    exact h.distinct i j hi hj hp hl hr
  · intro i
    rw [(key i).1, (key i).2]
    exact h.normalized i
  · intro i
    rw [(key i).2]
    exact h.prefixLen i
  · intro i hi
    have hk := kept i hi
    rw [hk] at hi ⊢
    exact h.live i hi
  · intro i hi
    by_cases hh : hit i = true
    · simp [clearSlots, hh, RouteRibEntry.clear]
    · simp only [clearSlots, hh, Bool.false_eq_true, if_false] at hi ⊢
      exact h.cleared i hi

/-- Everything `route_table_delete` can do. -/
theorem routeTableDelete_cases (t : RouteTable) (pfx : UInt32) (prefixLen proto : UInt8) :
    (routeTableDelete t pfx prefixLen proto = (t, -1) ∧ (32 < prefixLen ∨ proto = 0 ∨
      ribFind t (pfx &&& ipv4PrefixMask prefixLen) prefixLen proto = none)) ∨
    ∃ i, prefixLen ≤ 32 ∧ proto ≠ 0 ∧
      ribFind t (pfx &&& ipv4PrefixMask prefixLen) prefixLen proto = some i ∧
      routeTableDelete t pfx prefixLen proto =
        ((routeTableRebuildFib (clearSlots t (fun j => j == i) (t.ribCount - 1))).1, 0) := by
  unfold routeTableDelete
  split_ifs with hbad
  · refine .inl ⟨rfl, ?_⟩
    simp only [Bool.or_eq_true, decide_eq_true_eq, beq_iff_eq, gt_iff_lt] at hbad
    rcases hbad with h | h
    · exact .inl h
    · exact .inr (.inl h)
  simp only [Bool.or_eq_true, decide_eq_true_eq, beq_iff_eq, not_or, gt_iff_lt] at hbad
  cases hfind : ribFind t (pfx &&& ipv4PrefixMask prefixLen) prefixLen proto with
  | none => exact .inl ⟨rfl, .inr (.inr rfl)⟩
  | some i =>
    refine .inr ⟨i, UInt8.not_lt.mp hbad.1, hbad.2, rfl, ?_⟩
    rw [clearSlots_one]
    rfl

theorem TableOk.delete {t : RouteTable} (h : TableOk t) (pfx : UInt32) (prefixLen proto : UInt8) :
    TableOk (routeTableDelete t pfx prefixLen proto).1 := by
  rcases routeTableDelete_cases t pfx prefixLen proto with ⟨he, -⟩ | ⟨i, -, -, hfind, he⟩
  · rw [he]; exact h
  · rw [he]
    apply RibOk.rebuild
    apply h.rib.clear
    -- one valid slot is gone
    have hcount := Slots.count_update RouteRibEntry.valid t.rib i (t.rib i).clear
    rw [(ribFind_eq_some hfind).1, ← h.rib.ribCount] at hcount
    rw [clearSlots_one]
    simp only [RouteRibEntry.clear, Bool.toNat_true, Bool.toNat_false] at hcount ⊢
    omega

theorem routeTableFlushProto_eq (t : RouteTable) {proto : UInt8} (hp : proto ≠ 0) :
    (routeTableFlushProto t proto).1 = (routeTableRebuildFib
      (clearSlots t (fun i => (t.rib i).valid && (t.rib i).proto == proto)
        (t.ribCount - Slots.count (fun e => e.valid && e.proto == proto) t.rib))).1 := by
  simp [routeTableFlushProto, clearSlots, hp]

theorem TableOk.flushProto {t : RouteTable} (h : TableOk t) (proto : UInt8) :
    TableOk (routeTableFlushProto t proto).1 := by
  by_cases hp : proto = 0
  · simpa [routeTableFlushProto, hp] using h
  rw [routeTableFlushProto_eq t hp]
  apply RibOk.rebuild
  apply h.rib.clear
  have hpart := Slots.count_partition RouteRibEntry.valid (fun e => e.proto == proto) t.rib
  have hleft : Slots.count RouteRibEntry.valid
      (clearSlots t (fun i => (t.rib i).valid && (t.rib i).proto == proto)
        (t.ribCount - Slots.count (fun e => e.valid && e.proto == proto) t.rib)).rib =
      Slots.count (fun e => e.valid && !(e.proto == proto)) t.rib := by
    apply Slots.count_congr
    intro i
    simp only [clearSlots]
    split_ifs with hh
    · simp only [Bool.and_eq_true] at hh
      simp [RouteRibEntry.clear, hh.2]
    · cases hv : (t.rib i).valid <;> simp_all
  rw [hleft, h.rib.ribCount]
  omega

theorem TableOk.step {t : RouteTable} (h : TableOk t) (op : RouteOp) :
    TableOk (routeOpStep t op) := by
  cases op with
  | add pfx prefixLen nextHop iface metric proto =>
    exact h.add pfx prefixLen nextHop iface metric proto
  | delete pfx prefixLen proto => exact h.delete pfx prefixLen proto
  | flushProto proto => exact h.flushProto proto
  | rebuildFib => exact h.rib.rebuild

/-- Every history leaves the table sound. -/
theorem tableOk_run (ops : List RouteOp) : TableOk (run routeOpStep routeTableInit ops) :=
  run_invariant TableOk (fun _ op h => h.step op) ops _ tableOk_init

/-! ## Results -/

/-- In every reachable table the counters count, the keys are distinct, the
    prefixes are normalized, and the FIB holds one copied winner for each
    group, which alone is marked `selected`. -/
theorem routeTable_invariant (ops : List RouteOp) :
    let t := run routeOpStep routeTableInit ops
    t.ribCount = Slots.count RouteRibEntry.valid t.rib ∧
    t.fibCount = Slots.count RouteFibEntry.valid t.fib ∧
    (∀ i j, (t.rib i).valid = true → (t.rib j).valid = true →
      (t.rib i).pfx = (t.rib j).pfx → (t.rib i).prefixLen = (t.rib j).prefixLen →
      (t.rib i).proto = (t.rib j).proto → i = j) ∧
    (∀ i, PrefixNormalized (t.rib i).pfx (t.rib i).prefixLen) ∧
    (∀ j, (t.fib j).valid = true → PrefixNormalized (t.fib j).pfx (t.fib j).prefixLen) ∧
    (∀ i, (t.rib i).valid = true → ∃! j, (t.fib j).valid = true ∧
      (t.fib j).pfx = (t.rib i).pfx ∧ (t.fib j).prefixLen = (t.rib i).prefixLen) ∧
    (∀ j, (t.fib j).valid = true →
      let e := t.rib (t.fib j).ribIndex
      e.valid = true ∧ (t.fib j).pfx = e.pfx ∧ (t.fib j).prefixLen = e.prefixLen ∧
      (t.fib j).proto = e.proto ∧ (t.fib j).nextHop = e.nextHop ∧
      (t.fib j).iface = e.iface ∧ (t.fib j).metric = e.metric) ∧
    (∀ i, (t.rib i).selected = true ↔ ∃ j, (t.fib j).valid = true ∧ (t.fib j).ribIndex = i) := by
  intro t
  obtain ⟨R, F⟩ : TableOk t := tableOk_run ops
  refine ⟨R.ribCount, F.fibCount, R.distinct, R.normalized, ?_, ?_, ?_, F.selected⟩
  · intro j hj
    rw [(F.sound j hj).2]
    exact R.normalized _
  · intro i hi
    obtain ⟨j, hj, hg⟩ := F.cover i hi
    refine ⟨j, ⟨hj, hg⟩, ?_⟩
    rintro j' ⟨hj', hg'⟩
    exact F.distinct j' j hj' hj (hg'.1.trans hg.1.symm) (hg'.2.trans hg.2.symm)
  · intro j hj
    obtain ⟨hv, he⟩ := F.sound j hj
    have field : ∀ {α : Type} (f : RouteFibEntry → α),
        f (t.fib j) = f ((t.rib (t.fib j).ribIndex).toFib (t.fib j).ribIndex) :=
      fun f => congrArg f he
    exact ⟨hv, field (·.pfx), field (·.prefixLen), field (·.proto), field (·.nextHop),
      field (·.iface), field (·.metric)⟩

end FrameRunner
