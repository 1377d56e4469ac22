import FrameRunner.Routing.Table

/-!
# What the calls do to the RIB

The effect of `route_table_add` and `route_table_flush_proto` on the entries of
any table, reachable or not, up to the `selected` marks, which every rebuild
sets anew.
-/

namespace FrameRunner

open FrameRunner.Lib

theorem core_routeTableRebuildFib (t : RouteTable) (i : Fin routeRibSize) :
    ((routeTableRebuildFib t).1.rib i).core = (t.rib i).core :=
  (routeTableRebuildFib_inv t).core i

/-- `e` holds this route, for this protocol. -/
structure RouteRibEntry.Holds (e : RouteRibEntry) (pfx : UInt32) (prefixLen : UInt8)
    (nextHop : UInt32) (iface : Option IfaceRef) (metric : UInt32) (proto : UInt8) : Prop where
  valid : e.valid = true
  pfx : e.pfx = pfx
  prefixLen : e.prefixLen = prefixLen
  nextHop : e.nextHop = nextHop
  iface : e.iface = iface
  metric : e.metric = metric
  proto : e.proto = proto

theorem RouteRibEntry.Holds.congr {e e' : RouteRibEntry} (hc : e.core = e'.core)
    {pfx : UInt32} {prefixLen : UInt8} {nextHop : UInt32} {iface : Option IfaceRef}
    {metric : UInt32} {proto : UInt8} (h : e.Holds pfx prefixLen nextHop iface metric proto) :
    e'.Holds pfx prefixLen nextHop iface metric proto := by
  obtain ⟨h1, h2, h3, h4, h5, h6, h7, -⟩ := RouteRibEntry.core_eq_iff.mp hc
  exact ⟨h4 ▸ h.valid, h1 ▸ h.pfx, h2 ▸ h.prefixLen, h5 ▸ h.nextHop, h6 ▸ h.iface, h7 ▸ h.metric,
    h3 ▸ h.proto⟩

/-- A successful `route_table_add` writes one slot, which was free or held the
    same key. -/
theorem routeTableAdd_effect {t : RouteTable} {pfx : UInt32} {prefixLen : UInt8}
    {nextHop : UInt32} {iface : Option IfaceRef} {metric : UInt32} {proto : UInt8}
    (h : (routeTableAdd t pfx prefixLen nextHop iface metric proto).2 = 0) :
    ∃ i, ((routeTableAdd t pfx prefixLen nextHop iface metric proto).1.rib i).Holds
        (pfx &&& ipv4PrefixMask prefixLen) prefixLen nextHop iface metric proto ∧
      (∀ j, j ≠ i → ((routeTableAdd t pfx prefixLen nextHop iface metric proto).1.rib j).core =
        (t.rib j).core) ∧
      ((t.rib i).valid = true → (t.rib i).proto = proto ∧
        (t.rib i).pfx = pfx &&& ipv4PrefixMask prefixLen) := by
  rcases routeTableAdd_cases t pfx prefixLen nextHop iface metric proto with
    ⟨he, -⟩ | ⟨-, -, -, ⟨i, hfind, he⟩ | ⟨i, -, hfree, he⟩⟩
  · simp [he] at h
  · rw [he]
    obtain ⟨hv, hp, hl, hr⟩ := ribFind_eq_some hfind
    refine ⟨i, ?_, fun j hj => ?_, fun _ => ⟨hr, hp⟩⟩
    · refine RouteRibEntry.Holds.congr (core_routeTableRebuildFib _ i).symm ?_
      simp only [addUpdate, Function.update_self]
      exact ⟨hv, hp, hl, rfl, rfl, rfl, hr⟩
    · rw [core_routeTableRebuildFib]
      simp [addUpdate, Function.update_of_ne hj]
  · rw [he]
    refine ⟨i, ?_, fun j hj => ?_, fun hv => by simp [hfree] at hv⟩
    · refine RouteRibEntry.Holds.congr (core_routeTableRebuildFib _ i).symm ?_
      simp only [addInsert, Function.update_self]
      exact ⟨rfl, rfl, rfl, rfl, rfl, rfl, rfl⟩
    · rw [core_routeTableRebuildFib]
      simp [addInsert, Function.update_of_ne hj]

/-- `route_table_flush_proto` clears the routes of the protocol. -/
theorem routeTableFlushProto_effect (t : RouteTable) {proto : UInt8} (hp : proto ≠ 0)
    (i : Fin routeRibSize) :
    if (t.rib i).valid = true ∧ (t.rib i).proto = proto then
      ((routeTableFlushProto t proto).1.rib i).valid = false
    else ((routeTableFlushProto t proto).1.rib i).core = (t.rib i).core := by
  rw [routeTableFlushProto_eq t hp]
  split_ifs with h
  · have hc := RouteRibEntry.core_eq_iff.mp (core_routeTableRebuildFib (clearSlots t
      (fun i => (t.rib i).valid && (t.rib i).proto == proto)
      (t.ribCount - Slots.count (fun e => e.valid && e.proto == proto) t.rib)) i)
    rw [hc.2.2.2.1]
    simp [clearSlots, h, RouteRibEntry.clear]
  · rw [core_routeTableRebuildFib]
    simp [clearSlots, h]

end FrameRunner
