import FrameRunner.Rip.Receive

/-!
# The RIP database and the RIB

An active entry of the database should be a RIP route of the router, and the other
way round. `rip_receive` does not look at what `router_add_route` returns: when the
RIB is full, the route is active in the database and missing in the RIB.

Main results:

* `ripRib_agree`: the two agree in every run in which the RIB has room for each
  route when it is installed.
* `not_ripRib_agree`: a run in which it has not.
-/

namespace FrameRunner

open FrameRunner.Lib

/-- The database and the RIB say the same about RIP's routes. -/
def RipRibAgree (s : RipRouter) : Prop :=
  ∀ pfx prefixLen nextHop iface metric,
    (∃ i, (s.rt.rib i).Holds pfx prefixLen nextHop iface metric routeProtoRip) ↔
    ∃ j, (s.rip.db j).valid = true ∧ (s.rip.db j).state = ripRouteActive ∧
      (s.rip.db j).pfx = pfx ∧ (s.rip.db j).prefixLen = prefixLen ∧
      (s.rip.db j).nextHop = nextHop ∧ (s.rip.db j).learnedOn = iface ∧
      (s.rip.db j).metric = metric

/-- If the entry is installed, the RIB has its RIP route already or has a free slot. -/
def RipFits (s : RipRouter) (e : RipEntry) : Prop :=
  ∀ k i, RipInstalls s.rip e k i →
    (ribFind s.rt k.1 k.2 routeProtoRip).isSome ∨ ∃ j, (s.rt.rib j).valid = false

/-- Every entry of the payload fits, in the state in which it is taken. -/
def RipCallFits (s : RipRouter) (c : UInt64 × RipCall) : Prop :=
  match c.2 with
  | .receive iface srcIp payload =>
    Guarded (ripReceiveEntry iface srcIp c.1) RipFits s (ripEntries payload)
  | _ => True

/-! ## The active entries as a map -/

/-- How an active entry is read. -/
def ripActive : Keyed RipRouteInfo (UInt32 × UInt8) RibValue where
  used e := e.valid && e.state == ripRouteActive
  key e := (e.pfx, e.prefixLen)
  val e := ⟨e.nextHop, e.learnedOn, e.metric⟩

theorem ripActive_used {e : RipRouteInfo} (h : ripActive.used e = true) :
    ripKeyed.used e = true := ((Bool.and_eq_true _ _).mp h).1

theorem ripActive_distinct {state : RipState} (h : ripKeyed.Distinct state.db) :
    ripActive.Distinct state.db := fun i j hi hj hkey =>
  h i j (ripActive_used hi) (ripActive_used hj) hkey

theorem ripActive_freshBut {state : RipState} {i : Fin ripDbSize} {k : UInt32 × UInt8}
    (h : ripKeyed.FreshBut state.db i k) : ripActive.FreshBut state.db i k :=
  fun j hji hj => h j hji (ripActive_used hj)

/-- The database and the RIB, in step. -/
structure RipSynced (s : RipRouter) : Prop where
  db : RipOk uint64Max s.rip
  table : TableOk s.rt
  agree : protoRoutes s.rt routeProtoRip = ripActive.lookup s.rip.db

theorem RipSynced.ribAgree {s : RipRouter} (h : RipSynced s) : RipRibAgree s := by
  intro pfx prefixLen nextHop iface metric
  rw [← h.table.rib.protoRoutes_eq_some_iff, h.agree,
    (ripActive_distinct h.db.distinct).lookup_eq_some_iff]
  refine exists_congr fun j => ?_
  simp only [ripActive, Bool.and_eq_true, beq_iff_eq, Prod.mk.injEq, RibValue.mk.injEq, and_assoc]

/-! ## One round -/

section
variable {s : RipRouter} {i : Fin ripDbSize} {r : RipRouteInfo}

/-- A route becomes unreachable in both. -/
theorem RipSynced.retire (h : RipSynced s) (hi : (s.rip.db i).valid = true) (hv : r.valid = true)
    (hp : r.pfx = (s.rip.db i).pfx) (hl : r.prefixLen = (s.rip.db i).prefixLen)
    (hs : r.state = ripRouteGc) (hm : r.metric = ripInfinity) : RipSynced (s.retire i r) := by
  refine ⟨h.db.retire hi hv hp hl hs hm (le_uint64Max _), h.table.delete .., ?_⟩
  have he := h.db.entries i hi
  have hunused : ripActive.used r = false := by
    simp only [ripActive, hs]
    rw [Bool.and_eq_false_iff]
    exact .inr (by decide)
  have hfresh := ripActive_freshBut (h.db.distinct.freshBut hi rfl)
  have hroutes := h.table.rib.protoRoutes_delete routeProtoRip (s.rip.db i).pfx he.prefixLen
    (by decide)
  rw [he.normalized, h.agree] at hroutes
  show protoRoutes (routeTableDelete s.rt r.pfx r.prefixLen routeProtoRip).1 routeProtoRip =
    ripActive.lookup (Function.update s.rip.db i r)
  rw [hp, hl, hroutes]
  exact ((ripActive_distinct h.db.distinct).lookup_drop hunused hfresh fun _ => rfl).symm

/-- A route that fits is installed in both. -/
theorem RipSynced.install (h : RipSynced s) {e : RipEntry} {k : UInt32 × UInt8}
    (hi : RipInstalls s.rip e k i) (hfits : RipFits s e) (iface : IfaceRef) (srcIp : UInt32)
    (t : UInt64) : RipSynced (s.install i (e.route iface srcIp t k)) := by
  refine ⟨h.db.install hi (le_uint64Max t) iface srcIp, h.table.add .., ?_⟩
  obtain ⟨hfresh, hold⟩ := Keyed.slotFor_eq_some h.db.distinct hi.slot
  have hadd := h.table.rib.protoRoutes_add routeProtoRip k.1 (e.hop srcIp)
    (ripCandidateMetric e.metric) (Option.isSome_some (a := iface)) hi.names.prefixLen (by decide)
  rw [hi.names.normalized] at hadd
  rcases hadd with ⟨-, hroutes⟩ | ⟨-, hnone, hfull⟩
  · have hkey : ripActive.key (e.route iface srcIp t k) = k := rfl
    show protoRoutes (routeTableAdd s.rt k.1 k.2 (e.hop srcIp) (some iface)
      (ripCandidateMetric e.metric) routeProtoRip).1 routeProtoRip =
      ripActive.lookup (Function.update s.rip.db i (e.route iface srcIp t k))
    rw [hroutes, h.agree]
    exact ((ripActive_distinct h.db.distinct).lookup_store rfl hkey (ripActive_freshBut hfresh)
      fun hu => hold (ripActive_used hu)).symm
  · -- no room, against what fitting says
    exfalso
    rcases hfits k i hi with hfind | ⟨j, hj⟩
    · rw [ribFind_eq, Option.isSome_iff_ne_none] at hfind
      exact hfind (Keyed.find_eq_none_iff.mpr (Keyed.lookup_eq_none_iff.mp hnone))
    · rw [hfull j] at hj
      cases hj

theorem RipSynced.receiveEntry (h : RipSynced s) {e : RipEntry} (hfits : RipFits s e)
    (iface : IfaceRef) (srcIp : UInt32) (t : UInt64) :
    RipSynced (ripReceiveEntry iface srcIp t s e) := by
  rcases ripReceiveEntry_cases iface srcIp t s e with he | ⟨i, hv, he⟩ | ⟨k, i, hi, he⟩
  · rw [he]
    exact h
  · rw [he]
    exact h.retire hv hv rfl rfl rfl rfl
  · rw [he]
    exact h.install hi hfits iface srcIp t

theorem RipSynced.timeoutEntry (h : RipSynced s) (t : UInt64) (i : Fin ripDbSize) :
    RipSynced (ripTimeoutEntry t s i) := by
  rcases ripTimeoutEntry_cases t s i with ⟨he, -⟩ | ⟨hv, -, he⟩
  · rw [he]
    exact h
  · rw [he]
    exact h.retire hv hv rfl rfl rfl rfl

/-- What is collected was not active. -/
theorem ripActive_gcEntry (t : UInt64) (state : RipState) (i : Fin ripDbSize) :
    ripActive.lookup (ripGcEntry t state i).db = ripActive.lookup state.db := by
  rcases ripGcEntry_cases t state i with he | ⟨-, hs, -, he⟩
  · rw [he]
  · rw [he]
    have hgc : (ripRouteGc == ripRouteActive) = false := by decide
    have hold : ripActive.used (state.db i) = false := by
      simp only [ripActive, hs, hgc, Bool.and_false]
    have hused : ∀ j, ripActive.used (Function.update state.db i
        { state.db i with valid := false, learnedOn := none } j) = ripActive.used (state.db j) := by
      intro j
      by_cases hji : j = i
      · subst hji
        rw [Function.update_self, hold]
        rfl
      · rw [Function.update_of_ne hji]
    refine Keyed.lookup_congr hused fun j hj => ?_
    have hji : j ≠ i := by
      rintro rfl
      rw [hold] at hj
      cases hj
    simp only [Function.update_of_ne hji, and_self]

/-! ## Runs -/

theorem RipSynced.step (h : RipSynced s) {c : UInt64 × RipCall} (hfits : RipCallFits s c) :
    RipSynced (ripStep s c) := by
  obtain ⟨t, call⟩ := c
  cases call with
  | receive iface srcIp payload =>
    exact guarded_invariant RipSynced (fun _ e hf hs => hs.receiveEntry hf iface srcIp t)
      (ripEntries payload) s hfits h
  | timeout =>
    exact Slots.forEach_invariant (f := ripTimeoutEntry t) (x := s) RipSynced h
      fun i _ hs => hs.timeoutEntry t i
  | gc =>
    obtain ⟨hok, hlookup⟩ := Slots.forEach_invariant (f := ripGcEntry t) (x := s.rip)
      (fun state => RipOk uint64Max state ∧
        ripActive.lookup state.db = ripActive.lookup s.rip.db) ⟨h.db, rfl⟩
      fun i state hstate => ⟨hstate.1.gcEntry i, (ripActive_gcEntry t state i).trans hstate.2⟩
    exact ⟨hok, h.table, h.agree.trans hlookup.symm⟩
  | other op hop =>
    exact ⟨h.db, h.table.step op, (h.table.rib.protoRoutes_other hop).trans h.agree⟩

theorem ripSynced_init : RipSynced ripRouterInit where
  db := ripOk_init _
  table := tableOk_init
  agree := by
    funext k
    have hrib : protoRoutes routeTableInit routeProtoRip k = none :=
      Keyed.lookup_eq_none_iff.mpr fun i hi => by cases hi
    have hdb : ripActive.lookup ripInit.db k = none :=
      Keyed.lookup_eq_none_iff.mpr fun i hi => by cases hi
    exact hrib.trans hdb.symm

end

/-- The database and the RIB agree after any calls, in any order, if every route fits
    into the RIB when it is installed. -/
theorem ripRib_agree (calls : List (UInt64 × RipCall))
    (hfits : Guarded ripStep RipCallFits ripRouterInit calls) :
    RipRibAgree (run ripStep ripRouterInit calls) :=
  (guarded_invariant RipSynced (fun _ _ hf hs => hs.step hf) calls _ hfits ripSynced_init).ribAgree

/-- A route is learned, refreshed, and times out. -/
def exampleAging : List (UInt64 × RipCall) :=
  let update := ripHeader ++ ripEntry { pfx := 0x0A000000, prefixLen := 8, metric := 1 }
  [(5, .receive 0 0xC0A80001 update), (30000005, .receive 0 0xC0A80001 update),
    (230000005, .timeout)]

theorem ripRib_agree_exampleAging :
    RipRibAgree (run ripStep ripRouterInit exampleAging) ∧
      ((run ripStep ripRouterInit exampleAging).rip.db 0).state = ripRouteGc := by
  have hentries : ripEntries (ripHeader ++
      ripEntry { pfx := 0x0A000000, prefixLen := 8, metric := 1 }) =
      [⟨ripAfiIpv4, 0x0A000000, 0xFF000000, 0, 1⟩] := by decide +kernel
  have hfits : Guarded ripStep RipCallFits ripRouterInit exampleAging := by
    refine ⟨?_, ?_, trivial, trivial⟩ <;> unfold RipCallFits <;> dsimp only <;> rw [hentries]
    · exact ⟨fun _ _ _ => .inr ⟨0, by decide +kernel⟩, trivial⟩
    · exact ⟨fun _ _ _ => .inr ⟨1, by decide +kernel⟩, trivial⟩
  exact ⟨ripRib_agree exampleAging hfits, by decide +kernel⟩

/-! ## When the RIB is full -/

/-- An entry that does not fit is active in the database and missing in the RIB. -/
theorem not_ripRibAgree_of_full {s : RipRouter} (h : TableOk s.rt) {e : RipEntry}
    {k : UInt32 × UInt8} {i : Fin ripDbSize} (hi : RipInstalls s.rip e k i)
    (hnone : protoRoutes s.rt routeProtoRip k = none) (hfull : ∀ j, (s.rt.rib j).valid = true)
    (iface : IfaceRef) (srcIp : UInt32) (t : UInt64) :
    ¬ RipRibAgree (s.install i (e.route iface srcIp t k)) := by
  intro hagree
  have hrt : (s.install i (e.route iface srcIp t k)).rt = s.rt := by
    show (routeTableAdd s.rt k.1 k.2 (e.hop srcIp) (some iface) (ripCandidateMetric e.metric)
      routeProtoRip).1 = s.rt
    rcases routeTableAdd_cases s.rt k.1 k.2 (e.hop srcIp) (some iface)
        (ripCandidateMetric e.metric) routeProtoRip with
      ⟨he, -⟩ | ⟨-, -, -, ⟨j, hfind, -⟩ | ⟨j, -, hfree, -⟩⟩
    · rw [he]
    · rw [hi.names.normalized, ribFind_eq] at hfind
      obtain ⟨hv, hkey⟩ := Keyed.find_eq_some hfind
      exact absurd hkey (Keyed.lookup_eq_none_iff.mp hnone j hv)
    · rw [hfull j] at hfree
      cases hfree
  have hdb : (s.install i (e.route iface srcIp t k)).rip.db i = e.route iface srcIp t k :=
    Function.update_self ..
  have hholds := (hagree k.1 k.2 (e.hop srcIp) (some iface) (ripCandidateMetric e.metric)).mpr
    ⟨i, by rw [hdb]; exact ⟨rfl, rfl, rfl, rfl, rfl, rfl, rfl⟩⟩
  rw [hrt, ← h.rib.protoRoutes_eq_some_iff] at hholds
  rw [hnone] at hholds
  cases hholds

/-- So fitting is exactly what an entry needs. -/
theorem RipSynced.receiveEntry_agree_iff {s : RipRouter} (h : RipSynced s) (e : RipEntry)
    (iface : IfaceRef) (srcIp : UInt32) (t : UInt64) :
    RipRibAgree (ripReceiveEntry iface srcIp t s e) ↔ RipFits s e := by
  refine ⟨fun hagree k i hi => ?_, fun hfits => (h.receiveEntry hfits iface srcIp t).ribAgree⟩
  by_contra hno
  obtain ⟨hfind, hfree⟩ := not_or.mp hno
  rw [ribFind_eq, Bool.not_eq_true, Option.isSome_eq_false_iff, Option.isNone_iff_eq_none,
    Keyed.find_eq_none_iff] at hfind
  rw [ripReceiveEntry_of_installs hi] at hagree
  exact not_ripRibAgree_of_full h.table hi (Keyed.lookup_eq_none_iff.mpr hfind)
    (fun j => Bool.of_not_eq_false fun hj => hfree ⟨j, hj⟩) iface srcIp t hagree

/-- The `n`-th of a family of static host routes. -/
def fillOp (n : ℕ) : RouteOp := .add (UInt32.ofNat n) 32 0 (some 0) 1 routeProtoStatic

def fillKey (n : ℕ) : RibKey := ⟨UInt32.ofNat n, 32, routeProtoStatic⟩

/-- The first `n` of them are added. -/
def fillTable (n : ℕ) : RouteTable := run routeOpStep routeTableInit ((List.range n).map fillOp)

theorem fillTable_succ (n : ℕ) : fillTable (n + 1) = routeOpStep (fillTable n) (fillOp n) := by
  unfold fillTable
  rw [List.range_succ, List.map_append, run_append]
  rfl

theorem fillKey_injOn {n : ℕ} (hn : n ≤ routeRibSize) : Set.InjOn fillKey (Finset.range n) := by
  intro i hi j hj hkey
  have hi : i < n := Finset.mem_range.mp hi
  have hj : j < n := Finset.mem_range.mp hj
  have hsize : routeRibSize = 256 := rfl
  have h : (UInt32.ofNat i).toNat = (UInt32.ofNat j).toNat :=
    congrArg (fun k : RibKey => k.pfx.toNat) hkey
  rw [UInt32.toNat_ofNat', UInt32.toNat_ofNat'] at h
  omega

theorem tableOk_fillTable (n : ℕ) : TableOk (fillTable n) := tableOk_run _

/-- They are all there, and nothing else is. -/
theorem keys_fillTable {n : ℕ} (hn : n ≤ routeRibSize) :
    (ribMap (fillTable n)).keys = (Finset.range n).image fillKey := by
  induction n with
  | zero =>
    show (ribMap routeTableInit).keys = _
    rw [ribMap_init]
    rfl
  | succ n ih =>
    have ih := ih (by omega)
    have hkey : ribKey (UInt32.ofNat n) 32 routeProtoStatic = fillKey n := by
      rw [ribKey, and_ipv4PrefixMask_32]
      rfl
    have hcard : (ribMap (fillTable n)).keys.card < routeRibSize := by
      rw [ih, Finset.card_image_of_injOn (fillKey_injOn (by omega)), Finset.card_range]
      omega
    obtain ⟨m, hm⟩ := Option.isSome_iff_exists.mp
      (((ribMap (fillTable n)).insert_isSome_iff (fillKey n) ⟨0, some 0, 1⟩).mpr (.inr hcard))
    have hcall := (ribMap_call (tableOk_fillTable n).rib (fillOp n)).1
    have hspec : ribMapStep (ribMap (fillTable n)) (fillOp n) = (m, 0) := by
      simp only [fillOp, ribMapStep]
      rw [if_neg (by decide), hkey, hm]
    have hmap : ribMap (fillTable (n + 1)) = m := by
      rw [fillTable_succ, ← routeOpCall_fst]
      exact (congrArg Prod.fst hcall).trans (congrArg Prod.fst hspec)
    rw [hmap, BoundedMap.insert_keys hm, ih, Finset.range_add_one, Finset.image_insert]

theorem fillTable_full {n : ℕ} (hn : n = routeRibSize) (j : Fin routeRibSize) :
    ((fillTable n).rib j).valid = true := by
  have hcard : (ribMap (fillTable n)).keys.card = n := by
    rw [keys_fillTable hn.le, Finset.card_image_of_injOn (fillKey_injOn hn.le), Finset.card_range]
  have hcount : (ribMap (fillTable n)).keys.card =
      Slots.count ribKeyed.used (fillTable n).rib :=
    (tableOk_fillTable n).rib.keyed.card_keys
  cases hv : ((fillTable n).rib j).valid with
  | true => rfl
  | false =>
    have hlt : Slots.count ribKeyed.used (fillTable n).rib < routeRibSize :=
      Slots.count_lt_of_exists (p := ribKeyed.used) (i := j) hv
    rw [← hcount, hcard, hn] at hlt
    exact absurd hlt (lt_irrefl routeRibSize)

theorem fillOp_proto (n : ℕ) : (fillOp n).proto ≠ some routeProtoRip := by
  show some routeProtoStatic ≠ some routeProtoRip
  decide

/-- The calls that add the first `n`. -/
def fillCalls (n : ℕ) : List (UInt64 × RipCall) :=
  (List.range n).map fun i => (0, .other (fillOp i) (fillOp_proto i))

theorem run_fillCalls (n : ℕ) :
    run ripStep ripRouterInit (fillCalls n) = ⟨ripInit, fillTable n⟩ := by
  induction n with
  | zero => rfl
  | succ n ih =>
    have hcalls : fillCalls (n + 1) = fillCalls n ++ [(0, .other (fillOp n) (fillOp_proto n))] := by
      unfold fillCalls
      rw [List.range_succ, List.map_append]
      rfl
    rw [hcalls, run_append, ih, fillTable_succ]
    rfl

theorem ripSynced_fill (n : ℕ) : RipSynced ⟨ripInit, fillTable n⟩ := by
  induction n with
  | zero => exact ripSynced_init
  | succ n ih =>
    rw [fillTable_succ]
    exact ih.step (c := (0, .other (fillOp n) (fillOp_proto n))) trivial

/-- An update with a single route, and what is read from it. -/
def fillUpdate : List UInt8 :=
  ripHeader ++ ripEntry { pfx := 0x0A000000, prefixLen := 8, metric := 1 }

def fillEntry : RipEntry where
  afi := ripAfiIpv4
  ipAddr := 0x0A000000
  subnetMask := 0xFF000000
  nextHop := 0
  metric := 1

theorem fillEntry_installs : RipInstalls ripInit fillEntry (0x0A000000, 8) 0 where
  names := ⟨rfl, by decide +kernel, by decide⟩
  metric := by decide
  slot := by decide +kernel

/-- In a full RIB the entry does not fit. -/
theorem fillTable_not_fits {n : ℕ} (hn : n = routeRibSize) :
    ¬ RipFits ⟨ripInit, fillTable n⟩ fillEntry := by
  intro hfits
  rcases hfits _ _ fillEntry_installs with hfind | ⟨j, hj⟩
  · obtain ⟨j, hj⟩ := Option.isSome_iff_exists.mp hfind
    rw [ribFind_eq] at hj
    obtain ⟨hv, hkey⟩ := Keyed.find_eq_some hj
    have hlookup : protoRoutes (fillTable n) routeProtoRip (0x0A000000, 8) = none := by
      rw [(ripSynced_fill n).agree]
      exact Keyed.lookup_eq_none_iff.mpr fun i hi => by cases hi
    exact Keyed.lookup_eq_none_iff.mp hlookup j hv hkey
  · have hj : ((fillTable n).rib j).valid = false := hj
    rw [fillTable_full hn j] at hj
    cases hj

theorem fillCalls_not_agree {n : ℕ} (hn : n = routeRibSize) :
    ¬ RipRibAgree (run ripStep ripRouterInit
      (fillCalls n ++ [(0, .receive 0 0xC0A80001 fillUpdate)])) := by
  have hentries : ripEntries fillUpdate = [fillEntry] := by decide +kernel
  have hrun : run ripStep ripRouterInit (fillCalls n ++ [(0, .receive 0 0xC0A80001 fillUpdate)]) =
      ripReceiveEntry 0 0xC0A80001 0 ⟨ripInit, fillTable n⟩ fillEntry := by
    rw [run_append, run_fillCalls, run_cons, run_nil, ripStep_receive, hentries, run_cons, run_nil]
  rw [hrun, (ripSynced_fill n).receiveEntry_agree_iff]
  exact fillTable_not_fits hn

/-- The RIB is full of static routes when the update comes. -/
theorem not_ripRib_agree :
    ¬ ∀ calls, RipRibAgree (run ripStep ripRouterInit calls) :=
  fun h => fillCalls_not_agree rfl (h (fillCalls routeRibSize ++ _))

end FrameRunner
