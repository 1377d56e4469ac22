import FrameRunner.Lib.Run
import FrameRunner.Routing.RibMap

/-!
# Static routes (`routing/static_route.c`)

The configured routes are a store of their own, with room for 128, beside the RIB
of the router, with room for 256 and shared with the other protocols. The module
writes to its store only what the RIB has taken, so the two agree in every state
(`staticRoutes_agree`), whatever the other protocols do to their own routes.
-/

namespace FrameRunner

open FrameRunner.Lib

/-! ## Data model -/

/-- `STATIC_ROUTE_MAX_ROUTES`. -/
abbrev staticRouteMaxRoutes : ℕ := 128

/-- `StaticRouteEntry`; the all-zero record is the default. `pfx` is the field
    `prefix`. -/
structure StaticRouteEntry where
  pfx : UInt32 := 0
  prefixLen : UInt8 := 0
  valid : Bool := false
  installed : Bool := false
  nextHop : UInt32 := 0
  iface : Option IfaceRef := none
  metric : UInt32 := 0
  deriving DecidableEq, Repr

/-- `StaticRouteTable`. -/
structure StaticRouteTable where
  routes : Slots staticRouteMaxRoutes StaticRouteEntry
  count : ℤ

/-! ## Functions -/

/-- `static_route_init` (lines 6–12). -/
def staticRouteInit : StaticRouteTable where
  routes _ := {}
  count := 0

/-- The slot of the configured route for this prefix: the first loop of
    `static_route_add` and the loop of `static_route_delete`. -/
def staticRouteFind (table : StaticRouteTable) (pfx : UInt32) (prefixLen : UInt8) :
    Option (Fin staticRouteMaxRoutes) :=
  Fin.find? fun i => (table.routes i).valid && (table.routes i).pfx == pfx &&
    (table.routes i).prefixLen == prefixLen

/-- `static_route_add` (lines 14–78): the configuration, the routes of the router
    and the status. -/
def staticRouteAdd (table : StaticRouteTable) (rt : RouteTable) (pfx : UInt32) (prefixLen : UInt8)
    (nextHop : UInt32) (iface : Option IfaceRef) (metric : UInt32) :
    StaticRouteTable × RouteTable × ℤ :=
  if iface.isNone || prefixLen > 32 then (table, rt, -1)
  else
    let normalizedPrefix := pfx &&& ipv4PrefixMask prefixLen
    match staticRouteFind table normalizedPrefix prefixLen with
    | some i =>
      let (rt, res) :=
        routeTableAdd rt normalizedPrefix prefixLen nextHop iface metric routeProtoStatic
      if res ≠ 0 then (table, rt, -1)
      else
        let entry := { table.routes i with
          nextHop := nextHop, iface := iface, metric := metric, installed := true }
        ({ table with routes := Function.update table.routes i entry }, rt, 0)
    | none =>
      match Fin.find? fun i => !(table.routes i).valid with
      | some i =>
        let (rt, res) :=
          routeTableAdd rt normalizedPrefix prefixLen nextHop iface metric routeProtoStatic
        if res ≠ 0 then (table, rt, -1)
        else
          let entry := { pfx := normalizedPrefix, prefixLen := prefixLen, valid := true,
                         installed := true, nextHop := nextHop, iface := iface, metric := metric }
          ({ routes := Function.update table.routes i entry, count := table.count + 1 }, rt, 0)
      | none => (table, rt, -1)

/-- `static_route_delete` (lines 80–115). -/
def staticRouteDelete (table : StaticRouteTable) (rt : RouteTable) (pfx : UInt32)
    (prefixLen : UInt8) : StaticRouteTable × RouteTable × ℤ :=
  if prefixLen > 32 then (table, rt, -1)
  else
    let normalizedPrefix := pfx &&& ipv4PrefixMask prefixLen
    match staticRouteFind table normalizedPrefix prefixLen with
    | some i =>
      let (rt, routeRes) :=
        if (table.routes i).installed then
          routeTableDelete rt normalizedPrefix prefixLen routeProtoStatic
        else (rt, 0)
      ({ routes := Function.update table.routes i {}
         count := if table.count > 0 then table.count - 1 else table.count },
        rt, if routeRes = 0 then 0 else -1)
    | none => (table, rt, -1)

/-- Round `i` of `static_route_apply` (lines 124–144), on the configuration, the
    routes, the number applied and whether an addition has failed, which returns at
    once. -/
def staticRouteApplyEntry (acc : StaticRouteTable × RouteTable × ℤ × Bool)
    (i : Fin staticRouteMaxRoutes) : StaticRouteTable × RouteTable × ℤ × Bool :=
  let (table, rt, applied, failed) := acc
  let entry := table.routes i
  if failed then acc
  else if !entry.valid then acc
  else
    let (rt, res) := routeTableAdd rt entry.pfx entry.prefixLen entry.nextHop entry.iface
      entry.metric routeProtoStatic
    if res ≠ 0 then
      ({ table with routes := Function.update table.routes i { entry with installed := false } },
        rt, applied, true)
    else
      ({ table with routes := Function.update table.routes i { entry with installed := true } },
        rt, applied + 1, false)

/-- `static_route_apply` (lines 117–147). -/
def staticRouteApply (table : StaticRouteTable) (rt : RouteTable) :
    StaticRouteTable × RouteTable × ℤ :=
  let (table, rt, applied, failed) :=
    Slots.forEach staticRouteMaxRoutes staticRouteApplyEntry (table, rt, 0, false)
  (table, rt, if failed then -1 else applied)

/-- Round `i` of `static_route_flush` (lines 156–172), on the configuration, the
    routes and the number removed. -/
def staticRouteFlushEntry (acc : StaticRouteTable × RouteTable × ℤ)
    (i : Fin staticRouteMaxRoutes) : StaticRouteTable × RouteTable × ℤ :=
  let (table, rt, removed) := acc
  let entry := table.routes i
  if !entry.valid then acc
  else
    let rt := if entry.installed then
      (routeTableDelete rt entry.pfx entry.prefixLen routeProtoStatic).1 else rt
    ({ table with routes := Function.update table.routes i {} }, rt, removed + 1)

/-- `static_route_flush` (lines 149–176). -/
def staticRouteFlush (table : StaticRouteTable) (rt : RouteTable) :
    StaticRouteTable × RouteTable × ℤ :=
  let (table, rt, removed) :=
    Slots.forEach staticRouteMaxRoutes staticRouteFlushEntry (table, rt, 0)
  ({ table with count := 0 }, rt, removed)

/-! ## Histories -/

/-- The configuration and the routes of one router. -/
structure StaticRouter where
  table : StaticRouteTable
  rt : RouteTable

/-- A call of the module, or a call of the route table in the name of another
    protocol. -/
inductive StaticOp where
  | add (pfx : UInt32) (prefixLen : UInt8) (nextHop : UInt32) (iface : Option IfaceRef)
      (metric : UInt32)
  | delete (pfx : UInt32) (prefixLen : UInt8)
  | apply
  | flush
  | other (op : RouteOp) (h : op.proto ≠ some routeProtoStatic)

/-- The router after one call. -/
def staticStep (s : StaticRouter) : StaticOp → StaticRouter
  | .add pfx prefixLen nextHop iface metric =>
    let r := staticRouteAdd s.table s.rt pfx prefixLen nextHop iface metric
    ⟨r.1, r.2.1⟩
  | .delete pfx prefixLen =>
    let r := staticRouteDelete s.table s.rt pfx prefixLen
    ⟨r.1, r.2.1⟩
  | .apply =>
    let r := staticRouteApply s.table s.rt
    ⟨r.1, r.2.1⟩
  | .flush =>
    let r := staticRouteFlush s.table s.rt
    ⟨r.1, r.2.1⟩
  | .other op _ => ⟨s.table, routeOpStep s.rt op⟩

def staticInit : StaticRouter := ⟨staticRouteInit, routeTableInit⟩

/-! ## What holds between two calls -/

/-- How a configured route is read. -/
def staticKeyed : Keyed StaticRouteEntry (UInt32 × UInt8) RibValue where
  used e := e.valid
  key e := (e.pfx, e.prefixLen)
  val e := ⟨e.nextHop, e.iface, e.metric⟩

theorem staticRouteFind_eq (table : StaticRouteTable) (pfx : UInt32) (prefixLen : UInt8) :
    staticRouteFind table pfx prefixLen = staticKeyed.find table.routes (pfx, prefixLen) := by
  unfold staticRouteFind Keyed.find
  congr 1
  funext i
  simp only [staticKeyed, Prod.mk.injEq, Bool.decide_and, Bool.and_assoc, beq_eq_decide]

/-- A route that was accepted. -/
structure StaticRouteEntry.Accepted (e : StaticRouteEntry) : Prop where
  normalized : PrefixNormalized e.pfx e.prefixLen
  prefixLen : e.prefixLen ≤ 32
  iface : e.iface.isSome
  installed : e.installed = true

/-- The configuration and the RIB say the same about static routes. -/
structure StaticAgree (s : StaticRouter) : Prop where
  table : TableOk s.rt
  distinct : staticKeyed.Distinct s.table.routes
  accepted : ∀ i, (s.table.routes i).valid = true → (s.table.routes i).Accepted
  agree : protoRoutes s.rt routeProtoStatic = staticKeyed.lookup s.table.routes

/-- `count` counts. -/
def StaticCounted (s : StaticRouter) : Prop :=
  s.table.count = Slots.count StaticRouteEntry.valid s.table.routes

section
variable {s : StaticRouter} {i : Fin staticRouteMaxRoutes} {e : StaticRouteEntry} {rt : RouteTable}

/-- A route that the RIB has taken is stored where its prefix goes. -/
theorem StaticAgree.store (h : StaticAgree s) (he : e.Accepted) (hv : e.valid = true)
    (hfresh : staticKeyed.FreshBut s.table.routes i (e.pfx, e.prefixLen))
    (hold : (s.table.routes i).valid = true →
      staticKeyed.key (s.table.routes i) = (e.pfx, e.prefixLen))
    (hrt : TableOk rt) (hroutes : protoRoutes rt routeProtoStatic =
      Function.update (protoRoutes s.rt routeProtoStatic) (e.pfx, e.prefixLen)
        (some ⟨e.nextHop, e.iface, e.metric⟩)) (n : ℤ) :
    StaticAgree ⟨⟨Function.update s.table.routes i e, n⟩, rt⟩ := by
  refine ⟨hrt, h.distinct.store fun _ => hfresh, fun j hj => ?_, ?_⟩
  · by_cases hji : j = i
    · subst hji
      simpa using he
    · simp only [Function.update_of_ne hji] at hj ⊢
      exact h.accepted j hj
  · rw [hroutes, h.agree]
    exact (h.distinct.lookup_store hv rfl hfresh hold).symm

/-- A route that the RIB has lost is taken out. -/
theorem StaticAgree.clear (h : StaticAgree s) (hi : (s.table.routes i).valid = true)
    (hrt : TableOk rt) (hroutes : protoRoutes rt routeProtoStatic =
      Function.update (protoRoutes s.rt routeProtoStatic)
        ((s.table.routes i).pfx, (s.table.routes i).prefixLen) none) (n : ℤ) :
    StaticAgree ⟨⟨Function.update s.table.routes i {}, n⟩, rt⟩ := by
  refine ⟨hrt, h.distinct.store nofun, fun j hj => ?_, ?_⟩
  · by_cases hji : j = i
    · subst hji
      simp at hj
    · simp only [Function.update_of_ne hji] at hj ⊢
      exact h.accepted j hj
  · rw [hroutes, h.agree]
    exact (h.distinct.lookup_drop rfl (h.distinct.freshBut hi rfl) fun _ => rfl).symm

/-! ## One call -/

/-- The state between two calls. -/
structure StaticOk (s : StaticRouter) : Prop extends StaticAgree s where
  counted : StaticCounted s

theorem StaticOk.add (h : StaticOk s) (pfx : UInt32) (prefixLen : UInt8) (nextHop : UInt32)
    (iface : Option IfaceRef) (metric : UInt32) :
    StaticOk (staticStep s (.add pfx prefixLen nextHop iface metric)) := by
  obtain ⟨r, hr⟩ : ∃ r, staticRouteAdd s.table s.rt pfx prefixLen nextHop iface metric = r :=
    ⟨_, rfl⟩
  show StaticOk ⟨(staticRouteAdd s.table s.rt pfx prefixLen nextHop iface metric).1,
    (staticRouteAdd s.table s.rt pfx prefixLen nextHop iface metric).2.1⟩
  rw [hr]
  unfold staticRouteAdd at hr
  split at hr
  · rw [← hr]
    exact h
  rename_i hbad
  simp only [Bool.or_eq_true, Option.isNone_iff_eq_none, decide_eq_true_eq, not_or,
    gt_iff_lt] at hbad
  have hiface := Option.isSome_iff_ne_none.mpr hbad.1
  have hlen := UInt8.not_lt.mp hbad.2
  have hnorm := prefixNormalized_mask pfx prefixLen
  dsimp only at hr
  generalize pfx &&& ipv4PrefixMask prefixLen = normalizedPrefix at hr hnorm
  have htable := h.table.add normalizedPrefix prefixLen nextHop iface metric routeProtoStatic
  have hadd := h.table.rib.protoRoutes_add routeProtoStatic normalizedPrefix nextHop
    metric hiface hlen (by decide)
  rw [hnorm] at hadd
  obtain ⟨q, hq⟩ : ∃ q, routeTableAdd s.rt normalizedPrefix prefixLen nextHop iface metric
    routeProtoStatic = q := ⟨_, rfl⟩
  rw [hq] at hr htable hadd
  rw [staticRouteFind_eq] at hr
  rcases hadd with ⟨hres, hroutes⟩ | ⟨hrefused, -⟩
  · simp only [hres, ne_eq, not_true_eq_false, if_false] at hr
    split at hr
    · rename_i i hfind
      obtain ⟨hv, hkey⟩ := Keyed.find_eq_some hfind
      obtain ⟨hp, hl⟩ := Prod.mk.inj hkey
      let e : StaticRouteEntry := { s.table.routes i with
        nextHop := nextHop, iface := iface, metric := metric, installed := true }
      have he : e.Accepted :=
        ⟨(h.accepted i hv).normalized, (h.accepted i hv).prefixLen, hiface, rfl⟩
      have hroutes' : protoRoutes q.1 routeProtoStatic = Function.update
          (protoRoutes s.rt routeProtoStatic) (e.pfx, e.prefixLen)
          (some ⟨e.nextHop, e.iface, e.metric⟩) := by
        rw [hroutes, ← hkey]
        rfl
      rw [← hr]
      refine ⟨h.store he hv (h.distinct.freshBut hv rfl) (fun _ => rfl) htable hroutes' _, ?_⟩
      · have hcount := Slots.count_update StaticRouteEntry.valid s.table.routes i e
        have hsame : Slots.count StaticRouteEntry.valid (Function.update s.table.routes i e) =
            Slots.count StaticRouteEntry.valid s.table.routes := Nat.add_right_cancel hcount
        exact h.counted.trans (congrArg _ hsame.symm)
    · rename_i hfind
      split at hr
      · rename_i i hfree
        have hi : (s.table.routes i).valid = false := by
          simpa using (Fin.find?_eq_some_iff.mp hfree).1
        rw [← hr]
        refine ⟨h.store (i := i) ⟨hnorm, hlen, hiface, rfl⟩ rfl
          (fun j _ hj => Keyed.find_eq_none_iff.mp hfind j hj) (fun hv => by simp [hi] at hv)
          htable hroutes _, ?_⟩
        have hcount := Slots.count_update StaticRouteEntry.valid s.table.routes i
          { pfx := normalizedPrefix, prefixLen := prefixLen, valid := true, installed := true,
            nextHop := nextHop, iface := iface, metric := metric }
        rw [hi, Bool.toNat_false, Nat.add_zero, Bool.toNat_true] at hcount
        show s.table.count + 1 = _
        rw [hcount, h.counted, Nat.cast_add, Nat.cast_one]
      · rw [← hr]
        exact h
  · rw [hrefused] at hr
    have hsame : r = (s.table, s.rt, -1) := by
      rw [← hr]
      split
      · rfl
      · split <;> rfl
    rw [hsame]
    exact h

theorem StaticOk.delete (h : StaticOk s) (pfx : UInt32) (prefixLen : UInt8) :
    StaticOk (staticStep s (.delete pfx prefixLen)) := by
  obtain ⟨r, hr⟩ : ∃ r, staticRouteDelete s.table s.rt pfx prefixLen = r := ⟨_, rfl⟩
  show StaticOk ⟨(staticRouteDelete s.table s.rt pfx prefixLen).1,
    (staticRouteDelete s.table s.rt pfx prefixLen).2.1⟩
  rw [hr]
  unfold staticRouteDelete at hr
  split at hr
  · rw [← hr]
    exact h
  rename_i hbad
  have hlen := UInt8.not_lt.mp (by simpa using hbad : ¬ 32 < prefixLen)
  have hnorm := prefixNormalized_mask pfx prefixLen
  dsimp only at hr
  generalize pfx &&& ipv4PrefixMask prefixLen = normalizedPrefix at hr hnorm
  rw [staticRouteFind_eq] at hr
  split at hr
  · rename_i i hfind
    obtain ⟨hv, hkey⟩ := Keyed.find_eq_some hfind
    obtain ⟨hp, hl⟩ := Prod.mk.inj hkey
    have hroutes := h.table.rib.protoRoutes_delete routeProtoStatic normalizedPrefix hlen
      (by decide)
    rw [hnorm, ← hkey] at hroutes
    simp only [(h.accepted i hv).installed, if_true] at hr
    rw [← hr]
    refine ⟨h.clear hv (h.table.delete ..) hroutes _, ?_⟩
    have hcount := Slots.count_update StaticRouteEntry.valid s.table.routes i {}
    have hone : Slots.count StaticRouteEntry.valid (Function.update s.table.routes i {}) + 1 =
        Slots.count StaticRouteEntry.valid s.table.routes := by
      have hv' : (s.table.routes i).valid = true := hv
      rw [hv'] at hcount
      exact hcount
    have hcounted : s.table.count = Slots.count StaticRouteEntry.valid s.table.routes := h.counted
    show (if s.table.count > 0 then s.table.count - 1 else s.table.count) =
      Slots.count StaticRouteEntry.valid (Function.update s.table.routes i {})
    rw [if_pos (by omega)]
    omega
  · rw [← hr]
    exact h

/-! ## The loops of apply and flush -/

/-- A round of apply puts into the RIB what it has already. -/
theorem StaticOk.applyEntry {acc : StaticRouteTable × RouteTable × ℤ × Bool}
    (h : StaticOk ⟨acc.1, acc.2.1⟩) (hok : acc.2.2.2 = false) (i : Fin staticRouteMaxRoutes) :
    StaticOk ⟨(staticRouteApplyEntry acc i).1, (staticRouteApplyEntry acc i).2.1⟩ ∧
      (staticRouteApplyEntry acc i).2.2.2 = false := by
  obtain ⟨table, rt, applied, failed⟩ := acc
  obtain rfl : failed = false := hok
  unfold staticRouteApplyEntry
  dsimp only
  by_cases hv : (table.routes i).valid = true
  · have ha : (table.routes i).Accepted := h.accepted i hv
    have hvalid : (!(table.routes i).valid) = false := by rw [hv, Bool.not_true]
    have hadd := h.table.rib.protoRoutes_add routeProtoStatic (table.routes i).pfx
      (table.routes i).nextHop (table.routes i).metric ha.iface ha.prefixLen (by decide)
    have htable := h.table.add (table.routes i).pfx (table.routes i).prefixLen
      (table.routes i).nextHop (table.routes i).iface (table.routes i).metric routeProtoStatic
    rw [ha.normalized] at hadd
    have hhas : protoRoutes rt routeProtoStatic ((table.routes i).pfx, (table.routes i).prefixLen) =
        some ⟨(table.routes i).nextHop, (table.routes i).iface, (table.routes i).metric⟩ := by
      rw [h.agree]
      exact h.distinct.lookup_eq hv
    have hsame : { table.routes i with installed := true } = table.routes i := by
      conv_lhs => rw [← ha.installed]
    rcases hadd with ⟨hres, hroutes⟩ | ⟨-, hnone, -⟩
    · rw [← hhas, Function.update_eq_self] at hroutes
      simp only [hvalid, hres, ne_eq, not_true_eq_false, Bool.false_eq_true, if_false, hsame,
        Function.update_eq_self]
      exact ⟨⟨⟨htable, h.distinct, h.accepted, hroutes.trans h.agree⟩, h.counted⟩, trivial⟩
    · rw [hhas] at hnone
      cases hnone
  · have hvalid : (!(table.routes i).valid) = true := by simpa using hv
    simp only [hvalid, Bool.false_eq_true, if_false, if_true]
    exact ⟨h, trivial⟩

theorem StaticOk.apply (h : StaticOk s) : StaticOk (staticStep s .apply) := by
  have hloop := Slots.forEach_invariant (f := staticRouteApplyEntry)
    (x := (s.table, s.rt, 0, false))
    (fun acc => StaticOk ⟨acc.1, acc.2.1⟩ ∧ acc.2.2.2 = false) ⟨h, rfl⟩
    fun i acc hacc => hacc.1.applyEntry hacc.2 i
  exact hloop.1

/-- A round of flush takes one route out of both. -/
theorem StaticAgree.flushEntry {acc : StaticRouteTable × RouteTable × ℤ}
    (h : StaticAgree ⟨acc.1, acc.2.1⟩) (i : Fin staticRouteMaxRoutes) :
    StaticAgree ⟨(staticRouteFlushEntry acc i).1, (staticRouteFlushEntry acc i).2.1⟩ ∧
      ∀ j, ((staticRouteFlushEntry acc i).1.routes j).valid =
        ((acc.1.routes j).valid && decide (j ≠ i)) := by
  obtain ⟨table, rt, removed⟩ := acc
  unfold staticRouteFlushEntry
  dsimp only
  cases hv : (table.routes i).valid with
  | false =>
    refine ⟨h, fun j => ?_⟩
    by_cases hj : j = i
    · subst hj
      simp [hv]
    · simp [hj]
  | true =>
    have ha : (table.routes i).Accepted := h.accepted i hv
    have hinstalled := ha.installed
    have hroutes := h.table.rib.protoRoutes_delete routeProtoStatic (table.routes i).pfx
      ha.prefixLen (by decide)
    rw [ha.normalized] at hroutes
    simp only [hinstalled, Bool.not_true, Bool.false_eq_true, if_false, if_true]
    refine ⟨h.clear hv (h.table.delete ..) hroutes _, fun j => ?_⟩
    by_cases hj : j = i
    · subst hj
      simp
    · simp [hj]

theorem StaticOk.flush (h : StaticOk s) : StaticOk (staticStep s .flush) := by
  have hloop := Slots.forEach_induction (f := staticRouteFlushEntry) (x := (s.table, s.rt, 0))
    (fun k acc => StaticAgree ⟨acc.1, acc.2.1⟩ ∧
      ∀ j : Fin staticRouteMaxRoutes, j.val < k → (acc.1.routes j).valid = false)
    ⟨h.toStaticAgree, fun j hj => absurd hj (Nat.not_lt_zero _)⟩ fun i acc hacc => ?_
  · obtain ⟨hagree, hnone⟩ := hloop
    refine ⟨⟨hagree.table, hagree.distinct, hagree.accepted, hagree.agree⟩, ?_⟩
    exact congrArg Int.ofNat (Slots.count_eq_zero.mpr fun j => hnone j j.isLt).symm
  · obtain ⟨hagree, hvalid⟩ := hacc.1.flushEntry i
    refine ⟨hagree, fun j hj => ?_⟩
    rw [hvalid]
    by_cases hji : j = i
    · simp [hji]
    · rw [hacc.2 j (Slots.lt_of_lt_succ_of_ne hj hji), Bool.false_and]

/-! ## Results -/

theorem StaticOk.step (h : StaticOk s) (op : StaticOp) : StaticOk (staticStep s op) := by
  cases op with
  | add pfx prefixLen nextHop iface metric => exact h.add pfx prefixLen nextHop iface metric
  | delete pfx prefixLen => exact h.delete pfx prefixLen
  | apply => exact h.apply
  | flush => exact h.flush
  | other op hop =>
    have hroutes := h.table.rib.protoRoutes_other hop
    exact ⟨⟨h.table.step op, h.distinct, h.accepted, hroutes.trans h.agree⟩, h.counted⟩

theorem staticOk_init : StaticOk staticInit where
  table := tableOk_init
  distinct := fun i j hi => by cases hi
  accepted := fun i hi => by cases hi
  agree := by
    funext k
    have hrib : protoRoutes routeTableInit routeProtoStatic k = none :=
      Keyed.lookup_eq_none_iff.mpr fun i hi => by cases hi
    have hconfig : staticKeyed.lookup staticRouteInit.routes k = none :=
      Keyed.lookup_eq_none_iff.mpr fun i hi => by cases hi
    exact hrib.trans hconfig.symm
  counted := congrArg Int.ofNat (Slots.count_eq_zero.mpr fun _ => rfl).symm

theorem staticOk_run (ops : List StaticOp) : StaticOk (run staticStep staticInit ops) :=
  run_invariant StaticOk (fun _ op h => h.step op) ops _ staticOk_init

end

/-- In every state of every history the configuration counts its routes, has one
    route for each normalized prefix, and the static routes of the RIB are the
    configured ones. -/
theorem staticRoutes_agree (ops : List StaticOp) :
    let s := run staticStep staticInit ops
    s.table.count = Slots.count StaticRouteEntry.valid s.table.routes ∧
      (∀ i, (s.table.routes i).valid = true →
        PrefixNormalized (s.table.routes i).pfx (s.table.routes i).prefixLen) ∧
      (∀ i j, (s.table.routes i).valid = true → (s.table.routes j).valid = true →
        (s.table.routes i).pfx = (s.table.routes j).pfx →
        (s.table.routes i).prefixLen = (s.table.routes j).prefixLen → i = j) ∧
      ∀ pfx prefixLen nextHop iface metric,
        (∃ i, (s.rt.rib i).Holds pfx prefixLen nextHop iface metric routeProtoStatic) ↔
        ∃ j, (s.table.routes j).valid = true ∧ (s.table.routes j).pfx = pfx ∧
          (s.table.routes j).prefixLen = prefixLen ∧ (s.table.routes j).nextHop = nextHop ∧
          (s.table.routes j).iface = iface ∧ (s.table.routes j).metric = metric := by
  intro s
  have h : StaticOk s := staticOk_run ops
  refine ⟨h.counted, fun i hi => (h.accepted i hi).normalized, fun i j hi hj hp hl =>
    h.distinct i j hi hj (Prod.ext hp hl), fun pfx prefixLen nextHop iface metric => ?_⟩
  rw [← h.table.rib.protoRoutes_eq_some_iff, h.agree, h.distinct.lookup_eq_some_iff]
  refine exists_congr fun j => ?_
  simp only [staticKeyed, Prod.mk.injEq, RibValue.mk.injEq, and_assoc]

end FrameRunner
