import FrameRunner.Routing.Lookup

/-!
# Forwarding does not depend on the history

Two tables with the same valid routes may differ in slots, sequence numbers and
the order of the FIB. As the protocols have distinct administrative distances and
a protocol has one route for each prefix, no comparison ever gets as far as the
sequence number, and the lookups agree (`routeTableLookup_history`).
-/

namespace FrameRunner

open FrameRunner.Lib

/-! ## Routes and histories -/

/-- A route as its protocol gives it. -/
structure RibRoute where
  pfx : UInt32
  prefixLen : UInt8
  proto : UInt8
  nextHop : UInt32
  iface : Option IfaceRef
  metric : UInt32
  deriving DecidableEq, Repr

/-- The route in a RIB slot. -/
def RouteRibEntry.ribRoute (e : RouteRibEntry) : RibRoute :=
  ⟨e.pfx, e.prefixLen, e.proto, e.nextHop, e.iface, e.metric⟩

/-- The valid routes of a table. -/
def ribRoutes (t : RouteTable) : Set RibRoute :=
  {r | ∃ i, (t.rib i).valid = true ∧ (t.rib i).ribRoute = r}

/-- What a router reads of the FIB entry that it looks up. -/
def RouteFibEntry.forwarding (f : RouteFibEntry) : UInt32 × Option IfaceRef × UInt32 × UInt8 :=
  (f.nextHop, f.iface, f.metric, f.proto)

/-- The protocols of `route_table.h`. -/
def knownProtos : List UInt8 :=
  [routeProtoStatic, routeProtoDirect, routeProtoRip, routeProtoOspf, routeProtoBgp, routeProtoIsis]

/-- The call names a protocol of `route_table.h`, if it names one. -/
def RouteOp.KnownProto : RouteOp → Prop
  | .add _ _ _ _ _ proto => proto ∈ knownProtos
  | .delete _ _ proto => proto ∈ knownProtos
  | .flushProto proto => proto ∈ knownProtos
  | .rebuildFib => True

theorem routeAdminDistance_injOn : ∀ p ∈ knownProtos, ∀ q ∈ knownProtos,
    routeAdminDistance p = routeAdminDistance q → p = q := by
  have hall : (knownProtos.all fun p => knownProtos.all fun q =>
      decide (routeAdminDistance p = routeAdminDistance q → p = q)) = true := by decide
  simpa only [List.all_eq_true, decide_eq_true_eq] using hall

/-! ## The protocols in the RIB -/

/-- Every valid route is of a known protocol. -/
def ProtosKnown (t : RouteTable) : Prop :=
  ∀ i, (t.rib i).valid = true → (t.rib i).proto ∈ knownProtos

theorem ProtosKnown.rebuild {t : RouteTable} (h : ProtosKnown t) :
    ProtosKnown (routeTableRebuildFib t).1 := by
  intro i hi
  obtain ⟨-, -, hp, hv, -⟩ := RouteRibEntry.core_eq_iff.mp ((routeTableRebuildFib_inv t).core i)
  rw [hp]
  exact h i (hv ▸ hi)

theorem ProtosKnown.clear {t : RouteTable} (h : ProtosKnown t) (hit : Fin routeRibSize → Bool)
    (n : ℕ) : ProtosKnown (clearSlots t hit n) := by
  intro i hi
  by_cases hh : hit i = true
  · simp [clearSlots, hh, RouteRibEntry.clear] at hi
  · simp only [clearSlots, hh, Bool.false_eq_true, if_false] at hi ⊢
    exact h i hi

theorem ProtosKnown.store {t t' : RouteTable} (h : ProtosKnown t) {i : Fin routeRibSize}
    {r : RouteRibEntry} (hrib : t'.rib = Function.update t.rib i r) (hr : r.proto ∈ knownProtos) :
    ProtosKnown t' := by
  unfold ProtosKnown
  rw [hrib]
  exact Slots.forall_update (p := fun r : RouteRibEntry => r.valid = true → r.proto ∈ knownProtos)
    h (fun _ => hr) i

theorem ProtosKnown.step {t : RouteTable} (h : ProtosKnown t) {op : RouteOp} (hop : op.KnownProto) :
    ProtosKnown (routeOpStep t op) := by
  cases op with
  | add pfx prefixLen nextHop iface metric proto =>
    show ProtosKnown (routeTableAdd t pfx prefixLen nextHop iface metric proto).1
    rcases routeTableAdd_cases t pfx prefixLen nextHop iface metric proto with
      ⟨he, -⟩ | ⟨-, -, -, ⟨i, hfind, he⟩ | ⟨i, -, -, he⟩⟩
    · rw [he]
      exact h
    · rw [he]
      have hupdate : ProtosKnown (addUpdate t i nextHop iface metric) :=
        h.store rfl (h i (ribFind_eq_some hfind).1)
      exact hupdate.rebuild
    · rw [he]
      have hinsert : ProtosKnown (addInsert t i pfx prefixLen nextHop iface metric proto) :=
        h.store rfl hop
      exact hinsert.rebuild
  | delete pfx prefixLen proto =>
    show ProtosKnown (routeTableDelete t pfx prefixLen proto).1
    rcases routeTableDelete_cases t pfx prefixLen proto with ⟨he, -⟩ | ⟨i, -, -, -, he⟩
    · rw [he]
      exact h
    · rw [he]
      exact (h.clear _ _).rebuild
  | flushProto proto =>
    show ProtosKnown (routeTableFlushProto t proto).1
    by_cases hp : proto = 0
    · simpa [routeTableFlushProto, hp] using h
    · rw [routeTableFlushProto_eq t hp]
      exact (h.clear _ _).rebuild
  | rebuildFib => exact h.rebuild

theorem protosKnown_run (ops : List RouteOp) (h : ∀ op ∈ ops, op.KnownProto) :
    ∀ t, ProtosKnown t → ProtosKnown (run routeOpStep t ops) :=
  fun _ ht => run_invariant_mem ProtosKnown (fun _ op hop ht => ht.step (h op hop)) ht

/-! ## Two tables with the same routes -/

theorem routeAdminDistance_le_of_rank {a b : RouteRibEntry} {i j : Fin routeRibSize}
    (h : routeRank a i ≤ routeRank b j) :
    routeAdminDistance a.proto ≤ routeAdminDistance b.proto := by
  simp only [routeRank, Prod.Lex.toLex_le_toLex] at h
  omega

/-- What one table finds, the other finds. -/
theorem lookup_of_ribRoutes_eq {t t' : RouteTable} (ht : TableOk t) (ht' : TableOk t')
    (hknown : ProtosKnown t) (hknown' : ProtosKnown t') (hroutes : ribRoutes t = ribRoutes t')
    {dstIp : UInt32} {f : RouteFibEntry} (hf : routeTableLookup t dstIp = some f) :
    ∃ f', routeTableLookup t' dstIp = some f' ∧ f'.forwarding = f.forwarding := by
  obtain ⟨-, hmax, i, hv, hc, hp, hl, hr, hn, hi, hm, hbest⟩ := ht.lookup_eq_some hf
  -- the route found, in the other table
  obtain ⟨i', hv', he'⟩ : (t.rib i).ribRoute ∈ ribRoutes t' := hroutes ▸ ⟨i, hv, rfl⟩
  simp only [RouteRibEntry.ribRoute, RibRoute.mk.injEq] at he'
  obtain ⟨hp', hl', hr', hn', hi', hm'⟩ := he'
  have hc' : PrefixContains (t'.rib i').pfx (t'.rib i').prefixLen dstIp := by rwa [hp', hl']
  cases hf' : routeTableLookup t' dstIp with
  | none => exact absurd hc' (ht'.lookup_eq_none_iff.mp hf' i' hv')
  | some f' =>
    obtain ⟨-, hmax', k', hkv', hkc', kp', kl', kr', kn', ki', km', hbest'⟩ :=
      ht'.lookup_eq_some hf'
    -- the route that the other table finds, in this one
    obtain ⟨k, hkv, hke⟩ : (t'.rib k').ribRoute ∈ ribRoutes t := hroutes ▸ ⟨k', hkv', rfl⟩
    simp only [RouteRibEntry.ribRoute, RibRoute.mk.injEq] at hke
    obtain ⟨hkp, hkl, hkr, -, -, -⟩ := hke
    have hkc : PrefixContains (t.rib k).pfx (t.rib k).prefixLen dstIp := by rwa [hkp, hkl]
    -- both are of the longest prefix that contains the address
    have hlen : (t'.rib k').prefixLen = (t.rib i).prefixLen := by
      have h1 := hmax k hkv hkc
      have h2 := hmax' i' hv' hc'
      rw [hkl, hl] at h1
      rw [hl', kl'] at h2
      exact UInt8.le_antisymm h1 h2
    have hpfx : (t'.rib k').pfx = (t.rib i).pfx := (hlen ▸ hkc').unique hc
    -- and each is preferred to the other
    have hle := routeAdminDistance_le_of_rank
      (hbest k hkv (hkp.trans hpfx) (hkl.trans hlen))
    have hle' := routeAdminDistance_le_of_rank
      (hbest' i' hv' (hp'.trans hpfx.symm) (hl'.trans hlen.symm))
    rw [hkr] at hle
    rw [hr'] at hle'
    have hproto : (t'.rib k').proto = (t.rib i).proto :=
      routeAdminDistance_injOn _ (hknown' k' hkv') _ (hknown i hv) (Nat.le_antisymm hle' hle)
    obtain rfl : k' = i' := ht'.rib.distinct k' i' hkv' hv' (hpfx.trans hp'.symm)
      (hlen.trans hl'.symm) (hproto.trans hr'.symm)
    refine ⟨f', rfl, ?_⟩
    simp [RouteFibEntry.forwarding, kn', ki', km', kr', hn', hi', hm', hr', hn, hi, hm, hr]

/-- Two histories over the known protocols that end with the same valid routes
    forward every address alike. -/
theorem routeTableLookup_history (ops ops' : List RouteOp) (h : ∀ op ∈ ops, op.KnownProto)
    (h' : ∀ op ∈ ops', op.KnownProto)
    (hroutes : ribRoutes (run routeOpStep routeTableInit ops) =
      ribRoutes (run routeOpStep routeTableInit ops')) (dstIp : UInt32) :
    (routeTableLookup (run routeOpStep routeTableInit ops) dstIp).map RouteFibEntry.forwarding =
      (routeTableLookup (run routeOpStep routeTableInit ops') dstIp).map
        RouteFibEntry.forwarding := by
  have hinit : ProtosKnown routeTableInit := fun i hi => by simp [routeTableInit] at hi
  have hk := protosKnown_run ops h _ hinit
  have hk' := protosKnown_run ops' h' _ hinit
  cases hf : routeTableLookup (run routeOpStep routeTableInit ops) dstIp with
  | some f =>
    obtain ⟨f', hf', he⟩ :=
      lookup_of_ribRoutes_eq (tableOk_run ops) (tableOk_run ops') hk hk' hroutes hf
    rw [hf', Option.map_some, Option.map_some, he]
  | none =>
    cases hf' : routeTableLookup (run routeOpStep routeTableInit ops') dstIp with
    | none => rfl
    | some f' =>
      obtain ⟨f, hf'', -⟩ :=
        lookup_of_ribRoutes_eq (tableOk_run ops') (tableOk_run ops) hk' hk hroutes.symm hf'
      rw [hf] at hf''
      exact absurd hf'' (by simp)

/-- The default route, added to an empty table and beside a route that is then
    deleted. -/
def directHistory : List RouteOp := [.add 0 0 0x0A000002 (some 0) 1 routeProtoStatic]

def detourHistory : List RouteOp :=
  [.add 0x0A000000 8 0 (some 1) 3 routeProtoRip, .add 0 0 0x0A000002 (some 0) 1 routeProtoStatic,
    .delete 0x0A000000 8 routeProtoRip]

theorem routeTableLookup_history_detour :
    ((run routeOpStep routeTableInit directHistory).rib 0).valid = true ∧
      ((run routeOpStep routeTableInit detourHistory).rib 0).valid = false ∧
      (routeTableLookup (run routeOpStep routeTableInit directHistory) 0x0A000001).map
          RouteFibEntry.forwarding =
        (routeTableLookup (run routeOpStep routeTableInit detourHistory) 0x0A000001).map
          RouteFibEntry.forwarding := by
  refine ⟨by decide +kernel, by decide +kernel, routeTableLookup_history directHistory detourHistory
    (by simp [directHistory, RouteOp.KnownProto, knownProtos])
    (by simp [detourHistory, RouteOp.KnownProto, knownProtos]) ?_ _⟩
  have hdirect : ∀ i, ((run routeOpStep routeTableInit directHistory).rib i).valid = true →
      i = 0 := by decide +kernel
  have hdetour : ∀ i, ((run routeOpStep routeTableInit detourHistory).rib i).valid = true →
      i = 1 := by decide +kernel
  ext r
  constructor
  · rintro ⟨i, hi, rfl⟩
    obtain rfl := hdirect i hi
    exact ⟨1, by decide +kernel, by decide +kernel⟩
  · rintro ⟨i, hi, rfl⟩
    obtain rfl := hdetour i hi
    exact ⟨0, by decide +kernel, by decide +kernel⟩

end FrameRunner
