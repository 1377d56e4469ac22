import FrameRunner.Lib.SlotMap
import FrameRunner.Routing.Effect

/-!
# The RIB as a finite map

What the RIB is for: a map from `(prefix, prefix_len, proto)` to the route of the
protocol, with room for 256 keys. `RibMap` is this map and `ribMapStep` what a
call does to it, with the value that the call returns.

Main results:

* `ribMap_call`: a call on a sound table is the call on its map.
* `routeTable_refines_ribMap`: so is every history, a refused call changes
  nothing, and a call touches only the keys that it names.
* `RibOk.protoRoutes_add`, `_delete`, `_other`: what the calls do to the routes of
  one protocol, which shares the RIB with the others.
-/

namespace FrameRunner

open FrameRunner.Lib

/-! ## The map -/

/-- The key of a route; the prefix is masked. -/
structure RibKey where
  pfx : UInt32
  prefixLen : UInt8
  proto : UInt8
  deriving DecidableEq, Repr

/-- What a protocol says about a key. -/
structure RibValue where
  nextHop : UInt32
  iface : Option IfaceRef
  metric : UInt32
  deriving DecidableEq, Repr

abbrev RibMap := BoundedMap RibKey RibValue routeRibSize

/-- The key that the arguments of a call name. -/
def ribKey (pfx : UInt32) (prefixLen proto : UInt8) : RibKey :=
  ⟨pfx &&& ipv4PrefixMask prefixLen, prefixLen, proto⟩

/-- A call on the map: the map after it and the value that it returns. -/
def ribMapStep (m : RibMap) : RouteOp → RibMap × ℤ
  | .add pfx prefixLen nextHop iface metric proto =>
    if iface = none ∨ 32 < prefixLen ∨ proto = 0 then (m, -1)
    else
      match m.insert (ribKey pfx prefixLen proto) ⟨nextHop, iface, metric⟩ with
      | some m' => (m', 0)
      | none => (m, -1)
  | .delete pfx prefixLen proto =>
    if 32 < prefixLen ∨ proto = 0 ∨ ribKey pfx prefixLen proto ∉ m.keys then (m, -1)
    else (m.erase fun k => k = ribKey pfx prefixLen proto, 0)
  | .flushProto proto =>
    (m.erase fun k => k.proto = proto, ((m.keys.filter fun k => k.proto = proto).card : ℤ))
  | .rebuildFib => (m, 0)

/-- A call on the table, with the value that it returns. -/
def routeOpCall (t : RouteTable) : RouteOp → RouteTable × ℤ
  | .add pfx prefixLen nextHop iface metric proto =>
    routeTableAdd t pfx prefixLen nextHop iface metric proto
  | .delete pfx prefixLen proto => routeTableDelete t pfx prefixLen proto
  | .flushProto proto => ((routeTableFlushProto t proto).1, (routeTableFlushProto t proto).2)
  | .rebuildFib => routeTableRebuildFib t

theorem routeOpCall_fst (t : RouteTable) (op : RouteOp) :
    (routeOpCall t op).1 = routeOpStep t op := by
  cases op <;> rfl

/-- The call is about this key. -/
def RouteOp.Names : RouteOp → RibKey → Prop
  | .add pfx prefixLen _ _ _ proto, k => k = ribKey pfx prefixLen proto
  | .delete pfx prefixLen proto, k => k = ribKey pfx prefixLen proto
  | .flushProto proto, k => k.proto = proto
  | .rebuildFib, _ => False

/-- The call takes this key out. -/
def RouteOp.Removes : RouteOp → RibKey → Prop
  | .add .., _ => False
  | .delete pfx prefixLen proto, k => k = ribKey pfx prefixLen proto
  | .flushProto proto, k => k.proto = proto
  | .rebuildFib, _ => False

/-! ## The table as this map -/

/-- How a RIB entry is read. -/
def ribKeyed : Keyed RouteRibEntry RibKey RibValue where
  used e := e.valid
  key e := ⟨e.pfx, e.prefixLen, e.proto⟩
  val e := ⟨e.nextHop, e.iface, e.metric⟩

/-- The map that a table stands for. -/
def ribMap (t : RouteTable) : RibMap := ribKeyed.toMap t.rib

theorem ribMap_lookup (t : RouteTable) : (ribMap t).lookup = ribKeyed.lookup t.rib := by
  rw [ribMap, Keyed.toMap_lookup]

theorem mem_ribMap_keys {t : RouteTable} {k : RibKey} :
    k ∈ (ribMap t).keys ↔ ∃ i, ribKeyed.used (t.rib i) = true ∧ ribKeyed.key (t.rib i) = k := by
  unfold ribMap
  exact Keyed.mem_keys_iff

theorem ribFind_eq (t : RouteTable) (pfx : UInt32) (prefixLen proto : UInt8) :
    ribFind t pfx prefixLen proto = ribKeyed.find t.rib ⟨pfx, prefixLen, proto⟩ := by
  unfold ribFind Keyed.find
  congr 1
  funext i
  simp only [ribKeyed, RibKey.mk.injEq, Bool.decide_and, Bool.and_assoc, beq_eq_decide]

theorem RibOk.keyed {t : RouteTable} (h : RibOk t) : ribKeyed.Distinct t.rib := by
  intro i j hi hj hkey
  simp only [ribKeyed, RibKey.mk.injEq] at hkey
  exact h.distinct i j hi hj hkey.1 hkey.2.1 hkey.2.2

theorem ribKeyed_congr {e e' : RouteRibEntry} (h : e.core = e'.core) :
    ribKeyed.used e = ribKeyed.used e' ∧ ribKeyed.key e = ribKeyed.key e' ∧
      ribKeyed.val e = ribKeyed.val e' := by
  obtain ⟨h1, h2, h3, h4, h5, h6, h7, -⟩ := RouteRibEntry.core_eq_iff.mp h
  simp only [ribKeyed, h1, h2, h3, h4, h5, h6, h7, and_self]

/-- The rebuild does not change the map. -/
theorem lookup_rebuild (t : RouteTable) :
    ribKeyed.lookup (routeTableRebuildFib t).1.rib = ribKeyed.lookup t.rib :=
  Keyed.lookup_congr (fun i => (ribKeyed_congr (core_routeTableRebuildFib t i)).1)
    fun i _ => (ribKeyed_congr (core_routeTableRebuildFib t i)).2

/-! ## The calls -/

section
variable {t : RouteTable} {pfx : UInt32} {prefixLen proto : UInt8} {nextHop : UInt32}
  {iface : Option IfaceRef} {metric : UInt32} {i : Fin routeRibSize}

theorem RibOk.lookup_update (h : RibOk t)
    (hfind : ribFind t (pfx &&& ipv4PrefixMask prefixLen) prefixLen proto = some i) :
    ribKeyed.lookup (routeTableRebuildFib (addUpdate t i nextHop iface metric)).1.rib =
      Function.update (ribKeyed.lookup t.rib) (ribKey pfx prefixLen proto)
        (some ⟨nextHop, iface, metric⟩) := by
  rw [ribFind_eq] at hfind
  obtain ⟨hv, hkey⟩ := Keyed.find_eq_some hfind
  rw [lookup_rebuild]
  exact h.keyed.lookup_store hv hkey (h.keyed.freshBut hv hkey) fun _ => hkey

theorem RibOk.lookup_insert (h : RibOk t)
    (hfind : ribFind t (pfx &&& ipv4PrefixMask prefixLen) prefixLen proto = none)
    (hfree : (t.rib i).valid = false) :
    ribKeyed.lookup (routeTableRebuildFib
        (addInsert t i pfx prefixLen nextHop iface metric proto)).1.rib =
      Function.update (ribKeyed.lookup t.rib) (ribKey pfx prefixLen proto)
        (some ⟨nextHop, iface, metric⟩) := by
  rw [ribFind_eq] at hfind
  rw [lookup_rebuild]
  refine h.keyed.lookup_store rfl rfl (fun j _ hj => Keyed.find_eq_none_iff.mp hfind j hj)
    fun hu => ?_
  rw [show ribKeyed.used (t.rib i) = false from hfree] at hu
  cases hu

theorem RibOk.lookup_delete (h : RibOk t) (n : ℕ)
    (hfind : ribFind t (pfx &&& ipv4PrefixMask prefixLen) prefixLen proto = some i) :
    ribKeyed.lookup (routeTableRebuildFib (clearSlots t (fun j => j == i) n)).1.rib =
      Function.update (ribKeyed.lookup t.rib) (ribKey pfx prefixLen proto) none := by
  rw [ribFind_eq] at hfind
  obtain ⟨hv, hkey⟩ := Keyed.find_eq_some hfind
  rw [lookup_rebuild, clearSlots_one]
  exact h.keyed.lookup_drop rfl (h.keyed.freshBut hv hkey) fun _ => hkey

theorem RibOk.lookup_flush (h : RibOk t) (proto : UInt8) (n : ℕ) (k : RibKey) :
    ribKeyed.lookup
        (clearSlots t (fun i => (t.rib i).valid && (t.rib i).proto == proto) n).rib k =
      if decide (k.proto = proto) = true then none else ribKeyed.lookup t.rib k := by
  set hit : Fin routeRibSize → Bool := fun i => (t.rib i).valid && (t.rib i).proto == proto with hhit
  have hclear : ∀ i, (clearSlots t hit n).rib i = if hit i then (t.rib i).clear else t.rib i :=
    fun _ => rfl
  have hused : ∀ i, ribKeyed.used ((clearSlots t hit n).rib i) =
      (ribKeyed.used (t.rib i) && !decide ((ribKeyed.key (t.rib i)).proto = proto)) := by
    intro i
    rw [hclear]
    cases hv : (t.rib i).valid <;> by_cases hr : (t.rib i).proto = proto <;>
      simp [hhit, ribKeyed, RouteRibEntry.clear, hv, hr]
  have hkept : ∀ i, ribKeyed.used ((clearSlots t hit n).rib i) = true →
      ribKeyed.key ((clearSlots t hit n).rib i) = ribKeyed.key (t.rib i) ∧
      ribKeyed.val ((clearSlots t hit n).rib i) = ribKeyed.val (t.rib i) := by
    intro i hi
    rw [hclear] at hi ⊢
    split_ifs at hi ⊢ with hh
    · cases hi
    · exact ⟨rfl, rfl⟩
  exact h.keyed.lookup_clear _ (fun k => decide (k.proto = proto)) hused hkept k

end

/-! ## What a call leaves alone -/

/-- A slot in use that the call does not name is as before, and one that it does not
    clear keeps its key and its sequence number. -/
structure Kept (op : RouteOp) (e e' : RouteRibEntry) : Prop where
  other : ¬ op.Names (ribKeyed.key e) → e'.core = e.core
  stays : ¬ op.Removes (ribKeyed.key e) →
    e'.valid = true ∧ ribKeyed.key e' = ribKeyed.key e ∧ e'.sequence = e.sequence

theorem Kept.of_core {op : RouteOp} {e e' : RouteRibEntry} (hv : e.valid = true)
    (h : e'.core = e.core) : Kept op e e' := by
  obtain ⟨-, -, -, hvalid, -, -, -, hseq⟩ := RouteRibEntry.core_eq_iff.mp h
  exact ⟨fun _ => h, fun _ => ⟨hvalid.trans hv, (ribKeyed_congr h).2.1, hseq⟩⟩

theorem Kept.congr {op : RouteOp} {e e₁ e' : RouteRibEntry} (h : Kept op e e₁)
    (hcore : e'.core = e₁.core) : Kept op e e' := by
  obtain ⟨-, -, -, hvalid, -, -, -, hseq⟩ := RouteRibEntry.core_eq_iff.mp hcore
  refine ⟨fun hn => hcore.trans (h.other hn), fun hn => ?_⟩
  rw [(ribKeyed_congr hcore).2.1, hseq, hvalid]
  exact h.stays hn

theorem Kept.clear {op : RouteOp} {e e' : RouteRibEntry} (h : op.Names (ribKeyed.key e))
    (h' : op.Removes (ribKeyed.key e)) : Kept op e e' :=
  ⟨fun hn => absurd h hn, fun hn => absurd h' hn⟩

theorem routeOpStep_kept (t : RouteTable) (op : RouteOp) {i : Fin routeRibSize}
    (hi : (t.rib i).valid = true) : Kept op (t.rib i) ((routeOpStep t op).rib i) := by
  cases op with
  | add pfx prefixLen nextHop iface metric proto =>
    show Kept _ _ ((routeTableAdd t pfx prefixLen nextHop iface metric proto).1.rib i)
    rcases routeTableAdd_cases t pfx prefixLen nextHop iface metric proto with
      ⟨he, -⟩ | ⟨-, -, -, ⟨j, hfind, he⟩ | ⟨j, -, hfree, he⟩⟩
    · rw [he]
      exact .of_core hi rfl
    · rw [he]
      rw [ribFind_eq] at hfind
      refine Kept.congr ?_ (core_routeTableRebuildFib _ i)
      by_cases hij : i = j
      · subst hij
        simp only [addUpdate, Function.update_self]
        exact ⟨fun hn => absurd (Keyed.find_eq_some hfind).2 hn, fun _ => ⟨hi, rfl, rfl⟩⟩
      · exact .of_core hi (by simp [addUpdate, Function.update_of_ne hij])
    · rw [he]
      refine Kept.congr ?_ (core_routeTableRebuildFib _ i)
      have hij : i ≠ j := by
        rintro rfl
        simp [hfree] at hi
      exact .of_core hi (by simp [addInsert, Function.update_of_ne hij])
  | delete pfx prefixLen proto =>
    show Kept _ _ ((routeTableDelete t pfx prefixLen proto).1.rib i)
    rcases routeTableDelete_cases t pfx prefixLen proto with ⟨he, -⟩ | ⟨j, -, -, hfind, he⟩
    · rw [he]
      exact .of_core hi rfl
    · rw [he]
      rw [ribFind_eq] at hfind
      refine Kept.congr ?_ (core_routeTableRebuildFib _ i)
      rw [clearSlots_one]
      by_cases hij : i = j
      · subst hij
        simp only [Function.update_self]
        exact .clear (Keyed.find_eq_some hfind).2 (Keyed.find_eq_some hfind).2
      · exact .of_core hi (by simp [Function.update_of_ne hij])
  | flushProto proto =>
    show Kept _ _ ((routeTableFlushProto t proto).1.rib i)
    by_cases hp : proto = 0
    · exact .of_core hi (by simp [routeTableFlushProto, hp])
    · rw [routeTableFlushProto_eq t hp]
      refine Kept.congr ?_ (core_routeTableRebuildFib _ i)
      by_cases hr : (t.rib i).proto = proto
      · simp only [clearSlots, hi, hr, beq_self_eq_true, Bool.and_self, if_true]
        exact .clear hr hr
      · exact .of_core hi (by simp [clearSlots, hr])
  | rebuildFib => exact .of_core hi (core_routeTableRebuildFib t i)

/-! ## Results -/

section
variable {t : RouteTable}

/-- `route_table_add` is insertion. -/
theorem RibOk.call_add (h : RibOk t) (pfx : UInt32) (prefixLen : UInt8) (nextHop : UInt32)
    (iface : Option IfaceRef) (metric : UInt32) (proto : UInt8) :
    let r := routeTableAdd t pfx prefixLen nextHop iface metric proto
    (ribMap r.1, r.2) = ribMapStep (ribMap t) (.add pfx prefixLen nextHop iface metric proto) ∧
      (r.2 = -1 → r.1 = t) := by
  intro r
  have hr : routeTableAdd t pfx prefixLen nextHop iface metric proto = r := rfl
  clear_value r
  have hcard : (ribMap t).keys.card = Slots.count ribKeyed.used t.rib := h.keyed.card_keys
  have hsome := (ribMap t).insert_isSome_iff (ribKey pfx prefixLen proto) ⟨nextHop, iface, metric⟩
  -- what the map does when there is a slot for the key
  have hdone : ∀ t' : RouteTable, iface.isSome → prefixLen ≤ 32 → proto ≠ 0 →
      ((ribMap t).insert (ribKey pfx prefixLen proto) ⟨nextHop, iface, metric⟩).isSome →
      ribKeyed.lookup t'.rib = Function.update (ribKeyed.lookup t.rib) (ribKey pfx prefixLen proto)
        (some ⟨nextHop, iface, metric⟩) →
      (ribMap t', (0 : ℤ)) =
        ribMapStep (ribMap t) (.add pfx prefixLen nextHop iface metric proto) := by
    intro t' hiface hlen hproto hroom hlookup
    obtain ⟨m, hm⟩ := Option.isSome_iff_exists.mp hroom
    have hgood : ¬ (iface = none ∨ 32 < prefixLen ∨ proto = 0) := by
      rintro (hbad | hbad | hbad)
      · simp [hbad] at hiface
      · exact UInt8.not_lt.mpr hlen hbad
      · exact hproto hbad
    have hmap : ribMap t' = m := BoundedMap.ext fun k => by
      rw [ribMap_lookup, hlookup, BoundedMap.insert_eq_some hm, ribMap_lookup]
    simp only [ribMapStep, if_neg hgood, hm, hmap]
  rcases routeTableAdd_cases t pfx prefixLen nextHop iface metric proto with
    ⟨he, hwhy⟩ | ⟨hiface, hlen, hproto, ⟨i, hfind, he⟩ | ⟨i, hfind, hfree, he⟩⟩
  · rw [← hr, he]
    refine ⟨?_, fun _ => rfl⟩
    simp only [ribMapStep]
    split_ifs with hbad
    · rfl
    · rw [← or_assoc, ← or_assoc, or_assoc (a := iface = none)] at hwhy
      obtain ⟨hfind, hfull⟩ := hwhy.resolve_left hbad
      rw [ribFind_eq] at hfind
      have hnone : ¬ ((ribMap t).insert (ribKey pfx prefixLen proto)
          ⟨nextHop, iface, metric⟩).isSome := by
        rw [hsome]
        rintro (hmem | hlt)
        · obtain ⟨i, hi, hkey⟩ := mem_ribMap_keys.mp hmem
          exact Keyed.find_eq_none_iff.mp hfind i hi hkey
        · rw [hcard] at hlt
          obtain ⟨i, hi⟩ := Slots.exists_of_count_lt hlt
          have hfree : (t.rib i).valid = false := hi
          rw [hfull i] at hfree
          cases hfree
      rw [Option.not_isSome_iff_eq_none.mp hnone]
  · rw [← hr, he]
    refine ⟨hdone _ hiface hlen hproto ?_ (h.lookup_update hfind), fun h => by simp at h⟩
    rw [ribFind_eq] at hfind
    exact hsome.mpr (.inl (mem_ribMap_keys.mpr ⟨i, Keyed.find_eq_some hfind⟩))
  · rw [← hr, he]
    refine ⟨hdone _ hiface hlen hproto ?_ (h.lookup_insert hfind hfree), fun h => by simp at h⟩
    refine hsome.mpr (.inr ?_)
    rw [hcard]
    exact Slots.count_lt_of_exists hfree

/-- `route_table_delete` is removal of the key. -/
theorem RibOk.call_delete (h : RibOk t) (pfx : UInt32) (prefixLen proto : UInt8) :
    let r := routeTableDelete t pfx prefixLen proto
    (ribMap r.1, r.2) = ribMapStep (ribMap t) (.delete pfx prefixLen proto) ∧
      (r.2 = -1 → r.1 = t) := by
  intro r
  have hr : routeTableDelete t pfx prefixLen proto = r := rfl
  clear_value r
  have hmem : ribKey pfx prefixLen proto ∈ (ribMap t).keys ↔
      ribFind t (pfx &&& ipv4PrefixMask prefixLen) prefixLen proto ≠ none := by
    rw [mem_ribMap_keys, ribFind_eq, ne_eq, Keyed.find_eq_none_iff]
    simp only [not_forall, not_not, exists_prop]
    rfl
  rcases routeTableDelete_cases t pfx prefixLen proto with
    ⟨he, hwhy⟩ | ⟨i, hlen, hproto, hfind, he⟩
  · have hbad : 32 < prefixLen ∨ proto = 0 ∨ ribKey pfx prefixLen proto ∉ (ribMap t).keys := by
      rw [hmem, not_not]
      exact hwhy
    rw [← hr, he]
    refine ⟨?_, fun _ => rfl⟩
    simp only [ribMapStep, if_pos hbad]
  · have hgood : ¬ (32 < prefixLen ∨ proto = 0 ∨
        ribKey pfx prefixLen proto ∉ (ribMap t).keys) := by
      rintro (hbad | hbad | hbad)
      · exact UInt8.not_lt.mpr hlen hbad
      · exact hproto hbad
      · rw [hmem, hfind] at hbad
        exact hbad nofun
    have hmap : ribMap (routeTableRebuildFib (clearSlots t (fun j => j == i) (t.ribCount - 1))).1 =
        (ribMap t).erase fun k => k = ribKey pfx prefixLen proto := by
      ext k : 1
      rw [ribMap_lookup, h.lookup_delete _ hfind, BoundedMap.erase_lookup, ribMap_lookup]
      by_cases hk : k = ribKey pfx prefixLen proto
      · simp [hk]
      · simp [hk]
    rw [← hr, he]
    refine ⟨?_, fun h => by simp at h⟩
    simp only [ribMapStep, if_neg hgood, hmap]

/-- `route_table_flush_proto` is removal of the protocol's keys. -/
theorem RibOk.call_flushProto (h : RibOk t) (proto : UInt8) :
    let r := routeTableFlushProto t proto
    (ribMap r.1, (r.2 : ℤ)) = ribMapStep (ribMap t) (.flushProto proto) := by
  intro r
  have hcard : ((ribMap t).keys.filter fun k => k.proto = proto).card =
      Slots.count (fun e => e.valid && decide (e.proto = proto)) t.rib := by
    have hkeys : ((ribMap t).keys.filter fun k => decide (k.proto = proto) = true).card =
        Slots.count (fun e => e.valid && decide (e.proto = proto)) t.rib := by
      unfold ribMap
      exact h.keyed.card_keys_filter fun k => decide (k.proto = proto)
    simpa only [decide_eq_true_eq] using hkeys
  by_cases hp : proto = 0
  · -- no route is of protocol 0
    subst hp
    have hr : r = (t, 0) := if_pos rfl
    have hnone : Slots.count (fun e : RouteRibEntry => e.valid && decide (e.proto = 0)) t.rib = 0 :=
      Slots.count_eq_zero.mpr fun i => by
        cases hi : (t.rib i).valid with
        | false => rfl
        | true => simp [(h.live i hi).1]
    have hmap : (ribMap t).erase (fun k => decide (k.proto = 0)) = ribMap t :=
      BoundedMap.ext fun k => by
        rw [BoundedMap.erase_lookup]
        by_cases hk : k.proto = 0
        · have hlookup : (ribMap t).lookup k = none := by
            rw [ribMap_lookup, Keyed.lookup_eq_none_iff]
            rintro i hi rfl
            exact (h.live i hi).1 hk
          simp [hlookup]
        · simp [hk]
    rw [hr]
    simp only [ribMapStep, hmap, hcard, hnone, Nat.cast_zero]
  · have hr : r.2 = Slots.count (fun e => e.valid && decide (e.proto = proto)) t.rib := by
      have hbad : (proto == 0) = false := by simpa using hp
      show (routeTableFlushProto t proto).2 = _
      simp only [routeTableFlushProto, hbad, Bool.false_eq_true, if_false, beq_eq_decide]
    have hmap : ribMap r.1 = (ribMap t).erase fun k => decide (k.proto = proto) := by
      refine BoundedMap.ext fun k => ?_
      rw [ribMap_lookup, BoundedMap.erase_lookup, ribMap_lookup]
      show ribKeyed.lookup (routeTableFlushProto t proto).1.rib k = _
      rw [routeTableFlushProto_eq t hp, lookup_rebuild]
      exact h.lookup_flush proto _ k
    simp only [ribMapStep, hmap, hcard, hr]

/-- A call on a sound table is the call on its map, and changes nothing if it is
    refused. -/
theorem ribMap_call (h : RibOk t) (op : RouteOp) :
    (ribMap (routeOpCall t op).1, (routeOpCall t op).2) = ribMapStep (ribMap t) op ∧
      ((routeOpCall t op).2 = -1 → (routeOpCall t op).1 = t) := by
  cases op with
  | add pfx prefixLen nextHop iface metric proto =>
    exact h.call_add pfx prefixLen nextHop iface metric proto
  | delete pfx prefixLen proto => exact h.call_delete pfx prefixLen proto
  | flushProto proto =>
    refine ⟨h.call_flushProto proto, fun hneg => ?_⟩
    have hneg : ((routeTableFlushProto t proto).2 : ℤ) = -1 := hneg
    omega
  | rebuildFib =>
    refine ⟨?_, fun hneg => by cases hneg⟩
    have hmap : ribMap (routeTableRebuildFib t).1 = ribMap t :=
      BoundedMap.ext fun k => by rw [ribMap_lookup, lookup_rebuild, ribMap_lookup]
    show (ribMap (routeTableRebuildFib t).1, (0 : ℤ)) = (ribMap t, 0)
    rw [hmap]

end

/-! ## What a protocol sees -/

/-- The routes of one protocol, by prefix and length. -/
def protoRoutes (t : RouteTable) (proto : UInt8) (k : UInt32 × UInt8) : Option RibValue :=
  ribKeyed.lookup t.rib ⟨k.1, k.2, proto⟩

theorem protoRoutes_update {t t' : RouteTable} {pfx : UInt32} {prefixLen proto : UInt8}
    {v : Option RibValue} (h : ribKeyed.lookup t'.rib =
      Function.update (ribKeyed.lookup t.rib) (ribKey pfx prefixLen proto) v) :
    protoRoutes t' proto =
      Function.update (protoRoutes t proto) (pfx &&& ipv4PrefixMask prefixLen, prefixLen) v := by
  funext k
  show ribKeyed.lookup t'.rib ⟨k.1, k.2, proto⟩ = _
  rw [h]
  by_cases hk : k = (pfx &&& ipv4PrefixMask prefixLen, prefixLen)
  · subst hk
    rw [Function.update_self]
    exact Function.update_self ..
  · have hk' : (⟨k.1, k.2, proto⟩ : RibKey) ≠ ribKey pfx prefixLen proto := fun he => by
      simp only [ribKey, RibKey.mk.injEq, and_true] at he
      exact hk (Prod.ext he.1 he.2)
    rw [Function.update_of_ne hk, Function.update_of_ne hk']
    rfl

section
variable {t : RouteTable}

/-- A call in the name of another protocol does not change a protocol's routes. -/
theorem RibOk.protoRoutes_other (h : RibOk t) {proto : UInt8} {op : RouteOp}
    (hop : op.proto ≠ some proto) :
    protoRoutes (routeOpStep t op) proto = protoRoutes t proto := by
  funext k
  have hstep : ribMap (routeOpStep t op) = (ribMapStep (ribMap t) op).1 := by
    rw [← (ribMap_call h op).1, routeOpCall_fst]
  show ribKeyed.lookup (routeOpStep t op).rib ⟨k.1, k.2, proto⟩ = ribKeyed.lookup t.rib _
  rw [← ribMap_lookup, ← ribMap_lookup, hstep]
  cases op with
  | add pfx prefixLen nextHop iface metric proto' =>
    have hk : (⟨k.1, k.2, proto⟩ : RibKey) ≠ ribKey pfx prefixLen proto' := fun hk =>
      hop (congrArg (fun k : RibKey => some k.proto) hk.symm)
    simp only [ribMapStep]
    split_ifs
    · rfl
    · split
      · rename_i m hm
        rw [BoundedMap.insert_eq_some hm, Function.update_of_ne hk]
      · rfl
  | delete pfx prefixLen proto' =>
    have hk : (⟨k.1, k.2, proto⟩ : RibKey) ≠ ribKey pfx prefixLen proto' := fun hk =>
      hop (congrArg (fun k : RibKey => some k.proto) hk.symm)
    simp only [ribMapStep]
    split_ifs
    · rfl
    · simp [BoundedMap.erase_lookup, hk]
  | flushProto proto' =>
    have hk : proto ≠ proto' := fun hk => hop (congrArg some hk.symm)
    simp [ribMapStep, BoundedMap.erase_lookup, hk]
  | rebuildFib => rfl

/-- An addition is made, or there is no room for its key. -/
theorem RibOk.protoRoutes_add (h : RibOk t) (proto : UInt8) (pfx : UInt32) {prefixLen : UInt8}
    (nextHop : UInt32)
    {iface : Option IfaceRef} (metric : UInt32) (hiface : iface.isSome)
    (hlen : prefixLen ≤ 32) (hproto : proto ≠ 0) :
    let r := routeTableAdd t pfx prefixLen nextHop iface metric proto
    let k := (pfx &&& ipv4PrefixMask prefixLen, prefixLen)
    (r.2 = 0 ∧ protoRoutes r.1 proto =
        Function.update (protoRoutes t proto) k (some ⟨nextHop, iface, metric⟩)) ∨
      (r = (t, -1) ∧ protoRoutes t proto k = none ∧ ∀ i, (t.rib i).valid = true) := by
  intro r k
  rcases routeTableAdd_cases t pfx prefixLen nextHop iface metric proto with
    ⟨he, hnone | hlong | hzero | ⟨hfind, hfull⟩⟩ | ⟨-, -, -, ⟨i, hfind, he⟩ | ⟨i, hfind, hfree, he⟩⟩
  · rw [hnone] at hiface
    cases hiface
  · exact absurd hlong (UInt8.not_lt.mpr hlen)
  · exact absurd hzero hproto
  · rw [ribFind_eq] at hfind
    exact .inr ⟨he, Keyed.lookup_eq_none_iff.mpr (Keyed.find_eq_none_iff.mp hfind), hfull⟩
  · have hr : r = _ := he
    rw [hr]
    exact .inl ⟨rfl, protoRoutes_update (h.lookup_update hfind)⟩
  · have hr : r = _ := he
    rw [hr]
    exact .inl ⟨rfl, protoRoutes_update (h.lookup_insert hfind hfree)⟩

/-- A deletion leaves the key without a route, whether it had one or not. -/
theorem RibOk.protoRoutes_delete (h : RibOk t) (proto : UInt8) (pfx : UInt32) {prefixLen : UInt8}
    (hlen : prefixLen ≤ 32) (hproto : proto ≠ 0) :
    protoRoutes (routeTableDelete t pfx prefixLen proto).1 proto = Function.update
      (protoRoutes t proto) (pfx &&& ipv4PrefixMask prefixLen, prefixLen) none := by
  rcases routeTableDelete_cases t pfx prefixLen proto with
    ⟨he, hlong | hzero | hfind⟩ | ⟨i, -, -, hfind, he⟩
  · exact absurd hlong (UInt8.not_lt.mpr hlen)
  · exact absurd hzero hproto
  · rw [ribFind_eq] at hfind
    have hnone : protoRoutes t proto (pfx &&& ipv4PrefixMask prefixLen, prefixLen) = none :=
      Keyed.lookup_eq_none_iff.mpr (Keyed.find_eq_none_iff.mp hfind)
    rw [he, ← hnone, Function.update_eq_self]
  · rw [he]
    exact protoRoutes_update (h.lookup_delete _ hfind)

/-- What a protocol's routes are, as RIB entries. -/
theorem RibOk.protoRoutes_eq_some_iff (h : RibOk t) {pfx : UInt32} {prefixLen proto : UInt8}
    {nextHop : UInt32} {iface : Option IfaceRef} {metric : UInt32} :
    protoRoutes t proto (pfx, prefixLen) = some ⟨nextHop, iface, metric⟩ ↔
      ∃ i, (t.rib i).Holds pfx prefixLen nextHop iface metric proto := by
  unfold protoRoutes
  rw [h.keyed.lookup_eq_some_iff]
  refine exists_congr fun i => ⟨?_, ?_⟩
  · rintro ⟨hv, hkey, hval⟩
    simp only [ribKeyed, RibKey.mk.injEq] at hkey
    simp only [ribKeyed, RibValue.mk.injEq] at hval
    exact ⟨hv, hkey.1, hkey.2.1, hval.1, hval.2.1, hval.2.2, hkey.2.2⟩
  · rintro ⟨hv, rfl, rfl, rfl, rfl, rfl, rfl⟩
    exact ⟨hv, rfl, rfl⟩

end

/-! ## Histories -/

theorem ribMap_init : ribMap routeTableInit = .empty :=
  BoundedMap.ext fun k => by
    rw [ribMap_lookup]
    exact Keyed.lookup_eq_none_iff.mpr fun i hi => by cases hi

/-- The map of a table is that of its history. -/
theorem ribMap_run (ops : List RouteOp) : ∀ t, TableOk t →
    ribMap (run routeOpStep t ops) = run (fun m op => (ribMapStep m op).1) (ribMap t) ops :=
  run_simulation TableOk
    (fun t op ht => by rw [← (ribMap_call ht.rib op).1, routeOpCall_fst])
    (fun _ op ht => ht.step op) ops

/-- The RIB of every history is the finite map of that history; the next call
    returns what it returns on the map and does to the table what it does to the
    map, changes nothing if it is refused, leaves the entries alone that it does not
    name, and does not move or renumber an entry that it does not remove. -/
theorem routeTable_refines_ribMap (ops : List RouteOp) (op : RouteOp) :
    let t := run routeOpStep routeTableInit ops
    let r := routeOpCall t op
    ribMap t = run (fun m op => (ribMapStep m op).1) .empty ops ∧
      (ribMap r.1, r.2) = ribMapStep (ribMap t) op ∧
      (r.2 = -1 → r.1 = t) ∧
      ∀ i, (t.rib i).valid = true →
        (¬ op.Names (ribKeyed.key (t.rib i)) → (r.1.rib i).core = (t.rib i).core) ∧
        (¬ op.Removes (ribKeyed.key (t.rib i)) → (r.1.rib i).valid = true ∧
          ribKeyed.key (r.1.rib i) = ribKeyed.key (t.rib i) ∧
          (r.1.rib i).sequence = (t.rib i).sequence) := by
  intro t r
  have ht : TableOk t := tableOk_run ops
  obtain ⟨hmap, hrefused⟩ := ribMap_call ht.rib op
  refine ⟨?_, hmap, hrefused, fun i hi => ?_⟩
  · rw [← ribMap_init]
    exact ribMap_run ops _ tableOk_init
  · have hkept := routeOpStep_kept t op hi
    rw [← routeOpCall_fst] at hkept
    exact ⟨hkept.other, hkept.stays⟩

end FrameRunner
