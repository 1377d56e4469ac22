import FrameRunner.Lib.Isolation
import FrameRunner.Routing.History
import FrameRunner.Routing.RibMap

/-!
# Protocols that share the RIB

RIP, OSPF, the static routes and the others call `route_table_add`, `_delete` and
`_flush_proto` in any order on one table of 256 entries. As long as an addition finds a
slot, no protocol notices the others.

* `routeTable_isolated`: a protocol has the routes, and its calls return the values, that
  its own calls alone give.
* `routeTableLookup_interleaving`: so what a router forwards does not depend on how the
  calls of its protocols interleave.
-/

namespace FrameRunner

open FrameRunner.Lib

/-- The call is made in the name of the protocol. -/
def RouteOp.By (proto : UInt8) (op : RouteOp) : Bool := decide (op.proto = some proto)

/-- An addition has the entry of its key to write to, or a free one. -/
def RouteOp.Fits (t : RouteTable) : RouteOp → Prop
  | .add pfx prefixLen _ _ _ proto =>
    (∃ v, protoRoutes t proto (pfx &&& ipv4PrefixMask prefixLen, prefixLen) = some v) ∨
      ∃ i, (t.rib i).valid = false
  | _ => True

/-- What the calls of a protocol return. -/
def protoReturns (proto : UInt8) (t : RouteTable) (op : RouteOp) : List ℤ :=
  if op.By proto then [(routeOpCall t op).2] else []

/-- The keys of a protocol. -/
def ofProto (proto : UInt8) (k : RibKey) : Bool := decide (k.proto = proto)

/-! ## One call -/

/-- A call that fits, on the protocol's part of the map. -/
theorem ribMapStep_own {m : RibMap} {proto : UInt8} {op : RouteOp} (hop : op.proto = some proto)
    (hfits : ∀ pfx prefixLen nextHop iface metric,
      op = .add pfx prefixLen nextHop iface metric proto →
        (m.insert (ribKey pfx prefixLen proto) ⟨nextHop, iface, metric⟩).isSome) :
    ribMapStep (m.restrict (ofProto proto)) op =
      ((ribMapStep m op).1.restrict (ofProto proto), (ribMapStep m op).2) := by
  cases op with
  | add pfx prefixLen nextHop iface metric proto' =>
    obtain rfl : proto' = proto := Option.some_inj.mp hop
    obtain ⟨m', hm'⟩ := Option.isSome_iff_exists.mp (hfits pfx prefixLen nextHop iface metric rfl)
    have hown := BoundedMap.insert_restrict (p := ofProto proto') (decide_eq_true rfl) hm'
    simp only [ribMapStep]
    split_ifs with hbad
    · rfl
    · rw [hown, hm']
  | delete pfx prefixLen proto' =>
    obtain rfl : proto' = proto := Option.some_inj.mp hop
    have hmem : ribKey pfx prefixLen proto' ∈ (m.restrict (ofProto proto')).keys ↔
        ribKey pfx prefixLen proto' ∈ m.keys :=
      BoundedMap.mem_restrict_keys.trans (and_iff_left (decide_eq_true rfl))
    simp only [ribMapStep, hmem]
    split_ifs
    · rfl
    · rw [BoundedMap.erase_restrict]
  | flushProto proto' =>
    obtain rfl : proto' = proto := Option.some_inj.mp hop
    have hkeys : ((m.restrict (ofProto proto')).keys.filter fun k => k.proto = proto') =
        m.keys.filter fun k => k.proto = proto' := by
      ext k
      simp only [Finset.mem_filter, BoundedMap.mem_restrict_keys, ofProto, decide_eq_true_eq]
      tauto
    simp only [ribMapStep, hkeys, BoundedMap.erase_restrict]
  | rebuildFib => cases hop

/-- A call of another protocol. -/
theorem ribMapStep_other (m : RibMap) {proto : UInt8} {op : RouteOp} (hop : op.proto ≠ some proto) :
    (ribMapStep m op).1.restrict (ofProto proto) = m.restrict (ofProto proto) := by
  cases op with
  | add pfx prefixLen nextHop iface metric proto' =>
    have hk : ofProto proto (ribKey pfx prefixLen proto') = false :=
      decide_eq_false fun he => hop (congrArg some he)
    simp only [ribMapStep]
    split_ifs
    · rfl
    · split
      · rename_i m' hm'
        exact BoundedMap.restrict_insert hk hm'
      · rfl
  | delete pfx prefixLen proto' =>
    simp only [ribMapStep]
    split_ifs
    · rfl
    · refine BoundedMap.restrict_erase m fun k hk => ?_
      rw [of_decide_eq_true hk]
      exact decide_eq_false fun he => hop (congrArg some he)
  | flushProto proto' =>
    refine BoundedMap.restrict_erase m fun k hk => decide_eq_false fun he => hop ?_
    rw [← he, ← of_decide_eq_true hk]
    rfl
  | rebuildFib => rfl

/-- The second table is the protocol's part of the first. -/
structure OwnTable (proto : UInt8) (t t' : RouteTable) : Prop where
  shared : TableOk t
  own : TableOk t'
  map : ribMap t' = (ribMap t).restrict (ofProto proto)

theorem OwnTable.routes_eq {proto : UInt8} {t t' : RouteTable} (h : OwnTable proto t t') :
    protoRoutes t proto = protoRoutes t' proto := by
  funext k
  have hk : ofProto proto ⟨k.1, k.2, proto⟩ = true := decide_eq_true rfl
  have hlookup := BoundedMap.restrict_lookup (ribMap t) (ofProto proto) ⟨k.1, k.2, proto⟩
  rw [if_pos hk, ← h.map, ribMap_lookup, ribMap_lookup] at hlookup
  exact hlookup.symm

/-- The map has room for an addition that fits. -/
theorem RouteOp.Fits.insert_isSome {t : RouteTable} {pfx nextHop metric : UInt32}
    {prefixLen proto : UInt8} {iface : Option IfaceRef} (ht : TableOk t)
    (h : RouteOp.Fits t (.add pfx prefixLen nextHop iface metric proto)) :
    ((ribMap t).insert (ribKey pfx prefixLen proto) ⟨nextHop, iface, metric⟩).isSome := by
  rw [BoundedMap.insert_isSome_iff, BoundedMap.mem_keys, ribMap_lookup]
  rcases h with ⟨v, hv⟩ | ⟨i, hi⟩
  · exact .inl (Option.isSome_iff_exists.mpr ⟨v, hv⟩)
  · refine .inr ?_
    show (ribKeyed.toMap t.rib).keys.card < routeRibSize
    rw [ht.rib.keyed.card_keys]
    exact Slots.count_lt_of_exists hi

theorem ribMap_step {t : RouteTable} (h : RibOk t) (op : RouteOp) :
    ribMap (routeOpStep t op) = (ribMapStep (ribMap t) op).1 := by
  rw [← (ribMap_call h op).1, routeOpCall_fst]

theorem routeOpCall_ret {t : RouteTable} (h : RibOk t) (op : RouteOp) :
    (routeOpCall t op).2 = (ribMapStep (ribMap t) op).2 := by
  rw [← (ribMap_call h op).1]

/-- A protocol's own call does the same to its own table, and returns the same. -/
theorem OwnTable.step_own {proto : UInt8} {t t' : RouteTable} {op : RouteOp}
    (h : OwnTable proto t t') (hop : op.proto = some proto) (hfits : op.Fits t) :
    OwnTable proto (routeOpStep t op) (routeOpStep t' op) ∧
      (routeOpCall t op).2 = (routeOpCall t' op).2 := by
  have hown := ribMapStep_own hop fun pfx prefixLen nextHop iface metric he => by
    subst he
    exact hfits.insert_isSome h.shared
  rw [← h.map] at hown
  refine ⟨⟨h.shared.step op, h.own.step op, ?_⟩, ?_⟩
  · rw [ribMap_step h.own.rib, ribMap_step h.shared.rib, hown]
  · rw [routeOpCall_ret h.own.rib, routeOpCall_ret h.shared.rib, hown]

/-- A call of another protocol is none of its business. -/
theorem OwnTable.step_other {proto : UInt8} {t t' : RouteTable} {op : RouteOp}
    (h : OwnTable proto t t') (hop : op.proto ≠ some proto) :
    OwnTable proto (routeOpStep t op) t' :=
  ⟨h.shared.step op, h.own, by rw [ribMap_step h.shared.rib, ribMapStep_other _ hop, h.map]⟩

/-! ## Histories -/

/-- The protocol's part of a history. -/
theorem ownTable_run (proto : UInt8) (ops : List RouteOp)
    (hfits : Guarded routeOpStep (fun t op => op.By proto = true → op.Fits t) routeTableInit ops) :
    OwnTable proto (run routeOpStep routeTableInit ops)
        (run routeOpStep routeTableInit (ops.filter (RouteOp.By proto))) ∧
      outputs routeOpStep (protoReturns proto) routeTableInit ops =
        outputs routeOpStep (protoReturns proto) routeTableInit
          (ops.filter (RouteOp.By proto)) := by
  have hinit : OwnTable proto routeTableInit routeTableInit :=
    ⟨tableOk_init, tableOk_init, by rw [ribMap_init, BoundedMap.restrict_empty]⟩
  refine run_filter (RouteOp.By proto) (OwnTable proto) (fun t t' op hby hg h => ?_)
    (fun t t' op hby h => ?_) ops _ _ hfits hinit
  · obtain ⟨hstep, hret⟩ := h.step_own (of_decide_eq_true hby) (hg hby)
    exact ⟨hstep, by rw [protoReturns, protoReturns, if_pos hby, if_pos hby, hret]⟩
  · exact ⟨h.step_other (of_decide_eq_false hby), if_neg (by simp [hby])⟩

/-- Where every addition finds a slot, so do those of one protocol. -/
theorem guarded_own (proto : UInt8) {ops : List RouteOp}
    (hfits : Guarded routeOpStep RouteOp.Fits routeTableInit ops) :
    Guarded routeOpStep (fun t op => op.By proto = true → op.Fits t) routeTableInit ops := by
  refine hfits.mono fun t op h => ?_
  exact fun _ => h

/-- A protocol whose additions find a slot has the routes, and its calls return the values,
    that its own calls alone give. -/
theorem routeTable_isolated (proto : UInt8) (ops : List RouteOp)
    (hfits : Guarded routeOpStep (fun t op => op.By proto = true → op.Fits t) routeTableInit ops) :
    let own := ops.filter (RouteOp.By proto)
    protoRoutes (run routeOpStep routeTableInit ops) proto =
        protoRoutes (run routeOpStep routeTableInit own) proto ∧
      outputs routeOpStep (protoReturns proto) routeTableInit ops =
        outputs routeOpStep (protoReturns proto) routeTableInit own := by
  intro own
  obtain ⟨hown, houts⟩ := ownTable_run proto ops hfits
  exact ⟨hown.routes_eq, houts⟩

theorem RouteOp.fits_of_free {t : RouteTable} (op : RouteOp) {i : Fin routeRibSize}
    (hi : (t.rib i).valid = false) : op.Fits t := by
  cases op with
  | add => exact .inr ⟨i, hi⟩
  | delete | flushProto | rebuildFib => trivial

/-- RIP learns and loses a network while the other protocols add their routes. -/
def ripAmongOthers : List RouteOp :=
  [.add 0x0A010203 16 0x0A000003 (some 1) 3 routeProtoRip,
    .add 0x0A010000 16 0x0A000002 (some 0) 20 routeProtoOspf,
    .delete 0x0A010000 16 routeProtoRip,
    .add 0 0 0x0A000002 (some 0) 1 routeProtoStatic]

theorem guarded_ripAmongOthers :
    Guarded routeOpStep RouteOp.Fits routeTableInit ripAmongOthers := by
  refine ⟨?_, ?_, ?_, ?_, trivial⟩
  all_goals exact RouteOp.fits_of_free (i := 255) _ (by decide +kernel)

theorem routeTable_isolated_ripAmongOthers :
    let own := ripAmongOthers.filter (RouteOp.By routeProtoRip)
    protoRoutes (run routeOpStep routeTableInit ripAmongOthers) routeProtoRip =
        protoRoutes (run routeOpStep routeTableInit own) routeProtoRip ∧
      outputs routeOpStep (protoReturns routeProtoRip) routeTableInit ripAmongOthers =
        outputs routeOpStep (protoReturns routeProtoRip) routeTableInit own :=
  routeTable_isolated routeProtoRip ripAmongOthers (guarded_own _ guarded_ripAmongOthers)

/-! ## Forwarding -/

/-- A table that has the routes of every known protocol has all routes. -/
theorem ribRoutes_subset_of_protoRoutes {t t' : RouteTable} (ht : TableOk t) (ht' : TableOk t')
    (hknown : ProtosKnown t) (h : ∀ p ∈ knownProtos, protoRoutes t p = protoRoutes t' p) :
    ribRoutes t ⊆ ribRoutes t' := by
  rintro r ⟨i, hi, rfl⟩
  have hhas : protoRoutes t (t.rib i).proto ((t.rib i).pfx, (t.rib i).prefixLen) =
      some ⟨(t.rib i).nextHop, (t.rib i).iface, (t.rib i).metric⟩ :=
    ht.rib.protoRoutes_eq_some_iff.mpr ⟨i, hi, rfl, rfl, rfl, rfl, rfl, rfl⟩
  rw [h _ (hknown i hi)] at hhas
  obtain ⟨j, hj, h1, h2, h3, h4, h5, h6⟩ := ht'.rib.protoRoutes_eq_some_iff.mp hhas
  exact ⟨j, hj, by simp only [RouteRibEntry.ribRoute, h1, h2, h3, h4, h5, h6]⟩

/-- Whatever one of two tables with the same routes forwards, the other does. -/
theorem forwarding_of_ribRoutes_eq {t t' : RouteTable} (ht : TableOk t) (ht' : TableOk t')
    (hknown : ProtosKnown t) (hknown' : ProtosKnown t') (hroutes : ribRoutes t = ribRoutes t')
    (dstIp : UInt32) :
    (routeTableLookup t dstIp).map RouteFibEntry.forwarding =
      (routeTableLookup t' dstIp).map RouteFibEntry.forwarding := by
  refine Option.ext fun x => ⟨fun hx => ?_, fun hx => ?_⟩
  · obtain ⟨f, hf, rfl⟩ := Option.map_eq_some_iff.mp hx
    obtain ⟨f', hf', he⟩ := lookup_of_ribRoutes_eq ht ht' hknown hknown' hroutes hf
    exact Option.map_eq_some_iff.mpr ⟨f', hf', he⟩
  · obtain ⟨f, hf, rfl⟩ := Option.map_eq_some_iff.mp hx
    obtain ⟨f', hf', he⟩ := lookup_of_ribRoutes_eq ht' ht hknown' hknown hroutes.symm hf
    exact Option.map_eq_some_iff.mpr ⟨f', hf', he⟩

/-- If the additions find a slot, what the router forwards is the same however the calls of
    its protocols interleave. -/
theorem routeTableLookup_interleaving (ops ops' : List RouteOp)
    (hknown : ∀ op ∈ ops, op.KnownProto) (hknown' : ∀ op ∈ ops', op.KnownProto)
    (hfits : Guarded routeOpStep RouteOp.Fits routeTableInit ops)
    (hfits' : Guarded routeOpStep RouteOp.Fits routeTableInit ops')
    (hsame : ∀ p ∈ knownProtos, ops.filter (RouteOp.By p) = ops'.filter (RouteOp.By p))
    (dstIp : UInt32) :
    (routeTableLookup (run routeOpStep routeTableInit ops) dstIp).map RouteFibEntry.forwarding =
      (routeTableLookup (run routeOpStep routeTableInit ops') dstIp).map
        RouteFibEntry.forwarding := by
  have hinit : ProtosKnown routeTableInit := fun i hi => by simp [routeTableInit] at hi
  have hk := protosKnown_run ops hknown _ hinit
  have hk' := protosKnown_run ops' hknown' _ hinit
  have hroutes : ∀ p ∈ knownProtos, protoRoutes (run routeOpStep routeTableInit ops) p =
      protoRoutes (run routeOpStep routeTableInit ops') p := by
    intro p hp
    have hown := (ownTable_run p ops (guarded_own p hfits)).1.routes_eq
    have hown' := (ownTable_run p ops' (guarded_own p hfits')).1.routes_eq
    rw [hown, hown', hsame p hp]
  exact forwarding_of_ribRoutes_eq (tableOk_run ops) (tableOk_run ops') hk hk'
    (Set.Subset.antisymm
      (ribRoutes_subset_of_protoRoutes (tableOk_run ops) (tableOk_run ops') hk hroutes)
      (ribRoutes_subset_of_protoRoutes (tableOk_run ops') (tableOk_run ops) hk'
        fun p hp => (hroutes p hp).symm)) dstIp

/-- The same calls of each protocol, in another order. -/
def ripAfterOthers : List RouteOp :=
  [.add 0 0 0x0A000002 (some 0) 1 routeProtoStatic,
    .add 0x0A010000 16 0x0A000002 (some 0) 20 routeProtoOspf,
    .add 0x0A010203 16 0x0A000003 (some 1) 3 routeProtoRip,
    .delete 0x0A010000 16 routeProtoRip]

theorem guarded_ripAfterOthers :
    Guarded routeOpStep RouteOp.Fits routeTableInit ripAfterOthers := by
  refine ⟨?_, ?_, ?_, ?_, trivial⟩
  all_goals exact RouteOp.fits_of_free (i := 255) _ (by decide +kernel)

theorem routeTableLookup_interleaving_rip :
    (routeTableLookup (run routeOpStep routeTableInit ripAmongOthers) 0x0A010001).map
        RouteFibEntry.forwarding =
      (routeTableLookup (run routeOpStep routeTableInit ripAfterOthers) 0x0A010001).map
        RouteFibEntry.forwarding :=
  routeTableLookup_interleaving ripAmongOthers ripAfterOthers
    (by simp [ripAmongOthers, RouteOp.KnownProto, knownProtos])
    (by simp [ripAfterOthers, RouteOp.KnownProto, knownProtos])
    guarded_ripAmongOthers guarded_ripAfterOthers (by decide +kernel) _

end FrameRunner
