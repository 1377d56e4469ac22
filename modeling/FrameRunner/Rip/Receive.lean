import FrameRunner.Lib.Run
import FrameRunner.Rip.State
import FrameRunner.Routing.RibMap

/-!
# RIP, the receiving side and the timers (`protocols/rip.c`)

`rip_receive` takes the entries of a response one by one into the database and the
RIB of the router; the timeout and garbage-collection scans age the database. What
one entry and one round of a scan can do is said by `ripReceiveEntry_cases`,
`ripTimeoutEntry_cases` and `ripGcEntry_cases`.

Main result: `ripState_invariant`, the database after any calls.
-/

namespace FrameRunner

open FrameRunner.Lib

def ripHdrLen : ℕ := 4
def ripTimeoutUs : UInt64 := 180000000
def ripGcUs : UInt64 := 120000000
def ripRouteActive : UInt8 := 1
def ripRouteGc : UInt8 := 2

/-! ## Receiving -/

/-- The fields of a `RipEntry` that `rip_receive` reads, in host byte order. -/
structure RipEntry where
  afi : UInt16
  ipAddr : UInt32
  subnetMask : UInt32
  nextHop : UInt32
  metric : UInt32
  deriving DecidableEq, Repr

/-- The entry at offset `i` of a payload. -/
def getRipEntry (payload : List UInt8) (i : ℕ) : RipEntry where
  afi := getU16 payload i
  ipAddr := getU32 payload (i + 4)
  subnetMask := getU32 payload (i + 8)
  nextHop := getU32 payload (i + 12)
  metric := getU32 payload (i + 16)

/-- What a RIP router keeps: its database and its routes. -/
structure RipRouter where
  rip : RipState
  rt : RouteTable

/-- The database slot with this prefix (lines 188–197). -/
def ripFind (state : RipState) (pfx : UInt32) (prefixLen : UInt8) : Option (Fin ripDbSize) :=
  Fin.find? fun j => (state.db j).valid && (state.db j).pfx == pfx &&
    (state.db j).prefixLen == prefixLen

/-- The metric of a route through a neighbour that advertises `metric`
    (lines 178–182). -/
def ripCandidateMetric (metric : UInt32) : UInt32 :=
  let metric := if metric > ripInfinity then ripInfinity else metric
  if metric + 1 > ripInfinity then ripInfinity else metric + 1

/-- Round of the loop of `rip_receive` (lines 162–252). -/
def ripReceiveEntry (iface : IfaceRef) (srcIp : UInt32) (now : UInt64) (s : RipRouter)
    (pktEntry : RipEntry) : RipRouter :=
  if pktEntry.afi ≠ ripAfiIpv4 then s
  else
    match ipMaskToPrefixLen pktEntry.subnetMask with
    | none => s
    | some prefixLen =>
      let pfx := pktEntry.ipAddr &&& ipv4PrefixMask prefixLen
      let candidateMetric := ripCandidateMetric pktEntry.metric
      let nextHop := if pktEntry.nextHop = 0 then srcIp else pktEntry.nextHop
      match ripFind s.rip pfx prefixLen with
      | some j =>
        if candidateMetric = ripInfinity then
          let entry := { s.rip.db j with
            pfx := pfx, prefixLen := prefixLen, state := ripRouteGc, lastUpdate := now,
            learnedOn := some iface, metric := ripInfinity, valid := true }
          ⟨{ s.rip with db := Function.update s.rip.db j entry },
            (routeTableDelete s.rt pfx prefixLen routeProtoRip).1⟩
        else
          let entry := { s.rip.db j with
            pfx := pfx, prefixLen := prefixLen, metric := candidateMetric, nextHop := nextHop,
            learnedOn := some iface, lastUpdate := now, state := ripRouteActive, valid := true }
          ⟨{ s.rip with db := Function.update s.rip.db j entry },
            (routeTableAdd s.rt pfx prefixLen nextHop (some iface) candidateMetric
              routeProtoRip).1⟩
      | none =>
        if candidateMetric = ripInfinity then s
        else
          match Fin.find? fun k => !(s.rip.db k).valid with
          | none => s
          | some k =>
            let entry := { s.rip.db k with
              pfx := pfx, prefixLen := prefixLen, metric := candidateMetric, nextHop := nextHop,
              learnedOn := some iface, lastUpdate := now, state := ripRouteActive, valid := true }
            ⟨{ s.rip with db := Function.update s.rip.db k entry, dbCount := s.rip.dbCount + 1 },
              (routeTableAdd s.rt pfx prefixLen nextHop (some iface) candidateMetric
                routeProtoRip).1⟩

/-- The entries that `rip_receive` takes from a payload (lines 134–160); a payload
    that it refuses has none. -/
def ripEntries (payload : List UInt8) : List RipEntry :=
  if payload.length < ripHdrLen then []
  else if (payload.length - ripHdrLen) % ripEntryLen ≠ 0 then []
  else
    let numEntries := (payload.length - ripHdrLen) / ripEntryLen
    if numEntries > ripMaxRoutes then []
    else if getU8 payload 1 ≠ ripVersion then []
    else if getU8 payload 0 ≠ ripCmdResponse then []
    else (List.range numEntries).map fun i => getRipEntry payload (ripHdrLen + i * ripEntryLen)

/-- `rip_receive` (lines 97–256) of a router with a simulator, at the time `now`. -/
def ripReceive (s : RipRouter) (iface : IfaceRef) (srcIp : UInt32) (payload : List UInt8)
    (now : UInt64) : RipRouter :=
  run (ripReceiveEntry iface srcIp now) s (ripEntries payload)

/-! ## The timers -/

/-- The callbacks of RIP's events; their context is the `RipState`. -/
inductive RipTimer where
  | updateHandler | timeoutHandler | gcHandler
  deriving DecidableEq, Repr

/-- An event of RIP carries no pointers. -/
abbrev RipEvent := Event RipTimer Unit

/-- Round `i` of the scan of `rip_timeout_handler` (lines 385–400). -/
def ripTimeoutEntry (now : UInt64) (s : RipRouter) (i : Fin ripDbSize) : RipRouter :=
  let entry := s.rip.db i
  if entry.valid && entry.state == ripRouteActive then
    let timeSinceUpdate := now - entry.lastUpdate
    if timeSinceUpdate ≤ ripTimeoutUs then s
    else
      let dead := { entry with metric := ripInfinity, state := ripRouteGc }
      ⟨{ s.rip with db := Function.update s.rip.db i dead },
        (routeTableDelete s.rt entry.pfx entry.prefixLen routeProtoRip).1⟩
  else s

/-- `rip_timeout_handler` (lines 369–416) and the event that it schedules. -/
def ripTimeoutHandler (s : RipRouter) (now : UInt64) : RipRouter × RipEvent :=
  (Slots.forEach ripDbSize (ripTimeoutEntry now) s,
    { type := .ripTimeout, timestamp := now + ripTimeoutUs, payload := (),
      handler := some .timeoutHandler })

/-- Round `i` of the scan of `rip_gc_handler` (lines 434–449). -/
def ripGcEntry (now : UInt64) (state : RipState) (i : Fin ripDbSize) : RipState :=
  let entry := state.db i
  if entry.valid && entry.state == ripRouteGc then
    let timeSinceUpdate := now - entry.lastUpdate
    if timeSinceUpdate ≤ ripTimeoutUs + ripGcUs then state
    else
      { state with
        db := Function.update state.db i { entry with valid := false, learnedOn := none }
        dbCount := if state.dbCount > 0 then state.dbCount - 1 else state.dbCount }
  else state

/-- `rip_gc_handler` (lines 418–465) and the event that it schedules. -/
def ripGcHandler (s : RipRouter) (now : UInt64) : RipRouter × RipEvent :=
  (⟨Slots.forEach ripDbSize (ripGcEntry now) s.rip, s.rt⟩,
    { type := .ripGc, timestamp := now + ripGcUs, payload := (), handler := some .gcHandler })

/-! ## Histories -/

/-- The database that `rip_init` (lines 32–69) leaves. -/
def ripInit : RipState where
  db _ := {}
  dbCount := 0
  ifaces _ := none
  ifaceCount := 0

/-- What can happen to a RIP router: a payload, a scan, or a call of the route table
    in the name of another protocol. -/
inductive RipCall where
  | receive (iface : IfaceRef) (srcIp : UInt32) (payload : List UInt8)
  | timeout
  | gc
  | other (op : RouteOp) (h : op.proto ≠ some routeProtoRip)

/-- The router after one call at a given time. -/
def ripStep (s : RipRouter) (c : UInt64 × RipCall) : RipRouter :=
  match c.2 with
  | .receive iface srcIp payload => ripReceive s iface srcIp payload c.1
  | .timeout => (ripTimeoutHandler s c.1).1
  | .gc => (ripGcHandler s c.1).1
  | .other op _ => ⟨s.rip, routeOpStep s.rt op⟩

def ripRouterInit : RipRouter := ⟨ripInit, routeTableInit⟩

theorem ripStep_receive (s : RipRouter) (now : UInt64) (iface : IfaceRef) (srcIp : UInt32)
    (payload : List UInt8) : ripStep s (now, .receive iface srcIp payload) =
      run (ripReceiveEntry iface srcIp now) s (ripEntries payload) := rfl

/-! ## What one round can do -/

/-- How a database entry is read. -/
def ripKeyed : Keyed RipRouteInfo (UInt32 × UInt8) RibValue where
  used e := e.valid
  key e := (e.pfx, e.prefixLen)
  val e := ⟨e.nextHop, e.learnedOn, e.metric⟩

theorem ripFind_eq (state : RipState) (pfx : UInt32) (prefixLen : UInt8) :
    ripFind state pfx prefixLen = ripKeyed.find state.db (pfx, prefixLen) := by
  unfold ripFind Keyed.find
  congr 1
  funext i
  simp only [ripKeyed, Prod.mk.injEq, Bool.decide_and, Bool.and_assoc, beq_eq_decide]

/-- The entry is about this prefix. -/
structure RipEntry.Names (e : RipEntry) (k : UInt32 × UInt8) : Prop where
  afi : e.afi = ripAfiIpv4
  mask : ipMaskToPrefixLen e.subnetMask = some k.2
  pfx : k.1 = e.ipAddr &&& ipv4PrefixMask k.2

theorem RipEntry.Names.prefixLen {e : RipEntry} {k : UInt32 × UInt8} (h : e.Names k) : k.2 ≤ 32 :=
  ipMaskToPrefixLen_le h.mask

theorem RipEntry.Names.normalized {e : RipEntry} {k : UInt32 × UInt8} (h : e.Names k) :
    PrefixNormalized k.1 k.2 := by
  rw [h.pfx]
  exact prefixNormalized_mask _ _

/-- `rip_receive` installs the entry for this prefix in slot `i`. -/
structure RipInstalls (state : RipState) (e : RipEntry) (k : UInt32 × UInt8)
    (i : Fin ripDbSize) : Prop where
  names : e.Names k
  metric : ripCandidateMetric e.metric ≠ ripInfinity
  slot : ripKeyed.slotFor state.db k = some i

/-- The next hop of an entry (lines 184–186). -/
def RipEntry.hop (e : RipEntry) (srcIp : UInt32) : UInt32 :=
  if e.nextHop = 0 then srcIp else e.nextHop

/-- The database entry of an installed route. -/
def RipEntry.route (e : RipEntry) (iface : IfaceRef) (srcIp : UInt32) (now : UInt64)
    (k : UInt32 × UInt8) : RipRouteInfo where
  pfx := k.1
  prefixLen := k.2
  state := ripRouteActive
  valid := true
  metric := ripCandidateMetric e.metric
  nextHop := e.hop srcIp
  learnedOn := some iface
  lastUpdate := now

/-- The router after the installation. -/
def RipRouter.install (s : RipRouter) (i : Fin ripDbSize) (r : RipRouteInfo) : RipRouter where
  rip := { s.rip with
    db := Function.update s.rip.db i r
    dbCount := if (s.rip.db i).valid then s.rip.dbCount else s.rip.dbCount + 1 }
  rt := (routeTableAdd s.rt r.pfx r.prefixLen r.nextHop r.learnedOn r.metric routeProtoRip).1

/-- The router after the route in slot `i` has become unreachable. -/
def RipRouter.retire (s : RipRouter) (i : Fin ripDbSize) (r : RipRouteInfo) : RipRouter where
  rip := { s.rip with db := Function.update s.rip.db i r }
  rt := (routeTableDelete s.rt r.pfx r.prefixLen routeProtoRip).1

/-- Everything one entry of a payload can do. -/
theorem ripReceiveEntry_cases (iface : IfaceRef) (srcIp : UInt32) (now : UInt64) (s : RipRouter)
    (e : RipEntry) :
    ripReceiveEntry iface srcIp now s e = s ∨
    (∃ i, (s.rip.db i).valid = true ∧ ripReceiveEntry iface srcIp now s e =
      s.retire i { s.rip.db i with
        state := ripRouteGc, lastUpdate := now, learnedOn := some iface, metric := ripInfinity }) ∨
    ∃ k i, RipInstalls s.rip e k i ∧
      ripReceiveEntry iface srcIp now s e = s.install i (e.route iface srcIp now k) := by
  unfold ripReceiveEntry
  split
  · exact .inl rfl
  rename_i hafi
  cases hmask : ipMaskToPrefixLen e.subnetMask with
  | none => exact .inl rfl
  | some prefixLen =>
    have hnames : e.Names (e.ipAddr &&& ipv4PrefixMask prefixLen, prefixLen) :=
      ⟨not_not.mp hafi, hmask, rfl⟩
    dsimp only
    cases hfind : ripFind s.rip (e.ipAddr &&& ipv4PrefixMask prefixLen) prefixLen with
    | some j =>
      rw [ripFind_eq] at hfind
      obtain ⟨hv, hkey⟩ := Keyed.find_eq_some hfind
      have hv : (s.rip.db j).valid = true := hv
      obtain ⟨hp, hl⟩ : (s.rip.db j).pfx = _ ∧ (s.rip.db j).prefixLen = _ := Prod.mk.inj hkey
      by_cases hmetric : ripCandidateMetric e.metric = ripInfinity
      · refine .inr (.inl ⟨j, hv, ?_⟩)
        simp only [hmetric, if_true, RipRouter.retire, hp, hl, hv]
      · refine .inr (.inr ⟨_, j, ⟨hnames, hmetric, ?_⟩, ?_⟩)
        · unfold Keyed.slotFor
          rw [hfind]
        · simp only [if_neg hmetric, RipRouter.install, RipEntry.route, RipEntry.hop, hv, if_true]
    | none =>
      rw [ripFind_eq] at hfind
      by_cases hmetric : ripCandidateMetric e.metric = ripInfinity
      · exact .inl (if_pos hmetric)
      · cases hfree : Fin.find? fun k => !(s.rip.db k).valid with
        | none => exact .inl (if_neg hmetric)
        | some i =>
          have hi : (s.rip.db i).valid = false := by simpa using (Fin.find?_eq_some_iff.mp hfree).1
          refine .inr (.inr ⟨_, i, ⟨hnames, hmetric, ?_⟩, ?_⟩)
          · unfold Keyed.slotFor
            rw [hfind]
            exact hfree
          · simp only [if_neg hmetric, RipRouter.install, RipEntry.route, RipEntry.hop, hi,
              Bool.false_eq_true, if_false]

theorem ripReceiveEntry_of_installs {s : RipRouter} {e : RipEntry} {k : UInt32 × UInt8}
    {i : Fin ripDbSize} (h : RipInstalls s.rip e k i) (iface : IfaceRef) (srcIp : UInt32)
    (now : UInt64) :
    ripReceiveEntry iface srcIp now s e = s.install i (e.route iface srcIp now k) := by
  have hslot := h.slot
  unfold Keyed.slotFor at hslot
  unfold ripReceiveEntry
  rw [if_neg (not_not.mpr h.names.afi), h.names.mask]
  dsimp only
  rw [← h.names.pfx, ripFind_eq]
  cases hfind : ripKeyed.find s.rip.db k with
  | some j =>
    have hv : (s.rip.db j).valid = true := (Keyed.find_eq_some hfind).1
    rw [hfind] at hslot
    obtain rfl : j = i := Option.some.inj hslot
    simp only [if_neg h.metric, RipRouter.install, RipEntry.route, RipEntry.hop, hv, if_true]
  | none =>
    rw [hfind] at hslot
    have hfree : (Fin.find? fun j => !(s.rip.db j).valid) = some i := hslot
    have hv : (s.rip.db i).valid = false := by simpa using (Fin.find?_eq_some_iff.mp hfree).1
    simp only [if_neg h.metric, hfree, RipRouter.install, RipEntry.route, RipEntry.hop, hv,
      Bool.false_eq_true, if_false]

/-- Everything one round of the timeout scan can do. -/
theorem ripTimeoutEntry_cases (now : UInt64) (s : RipRouter) (i : Fin ripDbSize) :
    (ripTimeoutEntry now s i = s ∧ ((s.rip.db i).valid = true →
      (s.rip.db i).state = ripRouteActive → now - (s.rip.db i).lastUpdate ≤ ripTimeoutUs)) ∨
    ((s.rip.db i).valid = true ∧ (s.rip.db i).state = ripRouteActive ∧
      ripTimeoutEntry now s i =
        s.retire i { s.rip.db i with metric := ripInfinity, state := ripRouteGc }) := by
  unfold ripTimeoutEntry
  dsimp only
  split
  · rename_i hcond
    rw [Bool.and_eq_true, beq_iff_eq] at hcond
    split
    · rename_i hage
      exact .inl ⟨rfl, fun _ _ => hage⟩
    · exact .inr ⟨hcond.1, hcond.2, rfl⟩
  · rename_i hcond
    refine .inl ⟨rfl, fun hv hs => absurd ?_ hcond⟩
    rw [hv, hs]
    rfl

/-- Everything one round of the garbage collection can do. -/
theorem ripGcEntry_cases (now : UInt64) (state : RipState) (i : Fin ripDbSize) :
    ripGcEntry now state i = state ∨
    ((state.db i).valid = true ∧ (state.db i).state = ripRouteGc ∧
      ripTimeoutUs + ripGcUs < now - (state.db i).lastUpdate ∧
      ripGcEntry now state i = { state with
        db := Function.update state.db i { state.db i with valid := false, learnedOn := none }
        dbCount := if state.dbCount > 0 then state.dbCount - 1 else state.dbCount }) := by
  unfold ripGcEntry
  dsimp only
  split
  · rename_i hcond
    rw [Bool.and_eq_true, beq_iff_eq] at hcond
    split
    · exact .inl rfl
    · rename_i hage
      exact .inr ⟨hcond.1, hcond.2, UInt64.not_le.mp hage, rfl⟩
  · exact .inl rfl

/-! ## The database between two calls -/

/-- An entry in use at the time `now`. -/
structure RipEntryOk (now : UInt64) (r : RipRouteInfo) : Prop where
  normalized : PrefixNormalized r.pfx r.prefixLen
  prefixLen : r.prefixLen ≤ 32
  phase : (r.state = ripRouteActive ∧ 1 ≤ r.metric.toNat ∧ r.metric.toNat ≤ 15) ∨
    (r.state = ripRouteGc ∧ r.metric = ripInfinity)
  past : r.lastUpdate ≤ now

/-- The database at the time `now`. -/
structure RipOk (now : UInt64) (state : RipState) : Prop where
  dbCount : state.dbCount = Slots.count RipRouteInfo.valid state.db
  distinct : ripKeyed.Distinct state.db
  entries : ∀ i, (state.db i).valid = true → RipEntryOk now (state.db i)

theorem ripOk_init (now : UInt64) : RipOk now ripInit where
  dbCount := congrArg Int.ofNat (Slots.count_eq_zero.mpr fun _ => rfl).symm
  distinct := fun i j hi => by cases hi
  entries := fun i hi => by cases hi

/-- The last time that a clock can show. -/
def uint64Max : UInt64 := 0xFFFFFFFFFFFFFFFF

theorem le_uint64Max (t : UInt64) : t ≤ uint64Max := by
  have hmax : uint64Max.toNat = 2 ^ 64 - 1 := rfl
  have ht := t.toNat_lt
  show t.toNat ≤ uint64Max.toNat
  omega

theorem RipOk.mono {now now' : UInt64} {state : RipState} (h : RipOk now state) (hle : now ≤ now') :
    RipOk now' state := by
  refine ⟨h.dbCount, h.distinct, fun i hi => ?_⟩
  have he := h.entries i hi
  exact ⟨he.normalized, he.prefixLen, he.phase, UInt64.le_trans he.past hle⟩

/-- A reachable metric lies between 1 and 15. -/
theorem ripCandidateMetric_range {metric : UInt32} (h : ripCandidateMetric metric ≠ ripInfinity) :
    1 ≤ (ripCandidateMetric metric).toNat ∧ (ripCandidateMetric metric).toNat ≤ 15 := by
  have hinf : ripInfinity.toNat = 16 := rfl
  unfold ripCandidateMetric at h ⊢
  dsimp only at h ⊢
  generalize hm : (if metric > ripInfinity then ripInfinity else metric) = m at h ⊢
  have hm16 : m.toNat ≤ 16 := by
    rw [← hm]
    split
    · exact le_refl 16
    · rename_i hle
      exact UInt32.not_lt.mp hle
  have hadd : (m + 1).toNat = m.toNat + 1 := by
    rw [UInt32.toNat_add]
    exact Nat.mod_eq_of_lt (by show m.toNat + 1 < 4294967296; omega)
  split_ifs at h ⊢ with hgt
  · exact absurd rfl h
  · have hle : (m + 1).toNat ≤ 16 := UInt32.not_lt.mp hgt
    have hne : (m + 1).toNat ≠ 16 := fun he => h (UInt32.toNat_inj.mp he)
    omega

/-- An entry about to be stored. -/
theorem RipEntry.route_ok {e : RipEntry} {k : UInt32 × UInt8} (h : e.Names k)
    (hmetric : ripCandidateMetric e.metric ≠ ripInfinity) (iface : IfaceRef) (srcIp : UInt32)
    {t now : UInt64} (ht : t ≤ now) : RipEntryOk now (e.route iface srcIp t k) :=
  ⟨h.normalized, h.prefixLen, .inl ⟨rfl, ripCandidateMetric_range hmetric⟩, ht⟩

section
variable {t now : UInt64} {s : RipRouter} {state : RipState} {i : Fin ripDbSize} {r : RipRouteInfo}

/-- Other entries stay as they are. -/
theorem RipOk.entries_update (h : RipOk now state) (hr : r.valid = true → RipEntryOk now r)
    (j : Fin ripDbSize) (hj : (Function.update state.db i r j).valid = true) :
    RipEntryOk now (Function.update state.db i r j) :=
  Slots.forall_update (p := fun e : RipRouteInfo => e.valid = true → RipEntryOk now e) h.entries hr i j hj

theorem RipOk.install {e : RipEntry} {k : UInt32 × UInt8} (h : RipOk now s.rip)
    (hi : RipInstalls s.rip e k i) (ht : t ≤ now) (iface : IfaceRef) (srcIp : UInt32) :
    RipOk now (s.install i (e.route iface srcIp t k)).rip := by
  obtain ⟨hfresh, -⟩ := Keyed.slotFor_eq_some h.distinct hi.slot
  refine ⟨?_, h.distinct.store fun _ => hfresh,
    h.entries_update fun _ => RipEntry.route_ok hi.names hi.metric iface srcIp ht⟩
  have hcount := Slots.count_update RipRouteInfo.valid s.rip.db i (e.route iface srcIp t k)
  have hone : (e.route iface srcIp t k).valid.toNat = 1 := rfl
  have hcounted := h.dbCount
  show (if (s.rip.db i).valid then s.rip.dbCount else s.rip.dbCount + 1) =
    Slots.count RipRouteInfo.valid (Function.update s.rip.db i (e.route iface srcIp t k))
  cases hv : (s.rip.db i).valid with
  | true =>
    rw [hv, Bool.toNat_true] at hcount
    rw [if_pos rfl]
    omega
  | false =>
    rw [hv, Bool.toNat_false] at hcount
    rw [if_neg (by decide)]
    omega

/-- A valid entry that becomes unreachable keeps its place. -/
theorem RipOk.retire (h : RipOk now s.rip) (hi : (s.rip.db i).valid = true) (hv : r.valid = true)
    (hp : r.pfx = (s.rip.db i).pfx) (hl : r.prefixLen = (s.rip.db i).prefixLen)
    (hs : r.state = ripRouteGc) (hm : r.metric = ripInfinity) (ht : r.lastUpdate ≤ now) :
    RipOk now (s.retire i r).rip := by
  have he := h.entries i hi
  have hkey : ripKeyed.key (s.rip.db i) = ripKeyed.key r := Prod.ext hp.symm hl.symm
  refine ⟨?_, h.distinct.store fun _ => h.distinct.freshBut hi hkey, h.entries_update fun _ =>
    ⟨hp ▸ hl ▸ he.normalized, hl ▸ he.prefixLen, .inr ⟨hs, hm⟩, ht⟩⟩
  have hcount := Slots.count_update RipRouteInfo.valid s.rip.db i r
  rw [hi, hv] at hcount
  exact h.dbCount.trans (congrArg _ (Nat.add_right_cancel hcount).symm)

theorem RipOk.receiveEntry (h : RipOk now s.rip) (ht : t ≤ now) (iface : IfaceRef)
    (srcIp : UInt32) (e : RipEntry) : RipOk now (ripReceiveEntry iface srcIp t s e).rip := by
  rcases ripReceiveEntry_cases iface srcIp t s e with he | ⟨i, hv, he⟩ | ⟨k, i, hi, he⟩
  · rw [he]
    exact h
  · rw [he]
    exact h.retire hv hv rfl rfl rfl rfl ht
  · rw [he]
    exact h.install hi ht iface srcIp

theorem RipOk.timeoutEntry (h : RipOk now s.rip) (i : Fin ripDbSize) :
    RipOk now (ripTimeoutEntry t s i).rip := by
  rcases ripTimeoutEntry_cases t s i with ⟨he, -⟩ | ⟨hv, -, he⟩
  · rw [he]
    exact h
  · rw [he]
    exact h.retire hv hv rfl rfl rfl rfl (h.entries i hv).past

theorem RipOk.gcEntry (h : RipOk now state) (i : Fin ripDbSize) :
    RipOk now (ripGcEntry t state i) := by
  rcases ripGcEntry_cases t state i with he | ⟨hv, -, -, he⟩
  · rw [he]
    exact h
  · rw [he]
    refine ⟨?_, h.distinct.store nofun, h.entries_update nofun⟩
    have hcount := Slots.count_update RipRouteInfo.valid state.db i
      { state.db i with valid := false, learnedOn := none }
    rw [hv, Bool.toNat_true, Bool.toNat_false] at hcount
    have hcounted := h.dbCount
    show (if state.dbCount > 0 then state.dbCount - 1 else state.dbCount) =
      Slots.count RipRouteInfo.valid
        (Function.update state.db i { state.db i with valid := false, learnedOn := none })
    rw [if_pos (by omega)]
    omega

/-! ## The calls -/

theorem RipOk.receive (h : RipOk now s.rip) (iface : IfaceRef) (srcIp : UInt32)
    (payload : List UInt8) : RipOk now (ripReceive s iface srcIp payload now).rip :=
  run_invariant (fun s : RipRouter => RipOk now s.rip)
    (fun _ e hs => hs.receiveEntry (UInt64.le_refl _) iface srcIp e) _ s h

/-- The entry is not an active route that nobody has advertised for too long. -/
def RipEntryFresh (now : UInt64) (r : RipRouteInfo) : Prop :=
  r.valid = true → r.state = ripRouteActive → now - r.lastUpdate ≤ ripTimeoutUs

theorem ripTimeoutEntry_fresh (now : UInt64) (s : RipRouter) (i j : Fin ripDbSize)
    (h : j = i ∨ RipEntryFresh now (s.rip.db j)) :
    RipEntryFresh now ((ripTimeoutEntry now s i).rip.db j) := by
  rcases ripTimeoutEntry_cases now s i with ⟨he, hfresh⟩ | ⟨-, -, he⟩
  · rw [he]
    rcases h with rfl | h
    · exact hfresh
    · exact h
  · rw [he]
    intro hv hs
    by_cases hji : j = i
    · subst hji
      simp only [RipRouter.retire, Function.update_self] at hs
      exact absurd hs (by decide)
    · simp only [RipRouter.retire, Function.update_of_ne hji] at hv hs ⊢
      exact (h.resolve_left hji) hv hs

theorem RipOk.timeout (h : RipOk now s.rip) :
    RipOk now (ripTimeoutHandler s now).1.rip ∧
      ∀ i, RipEntryFresh now ((ripTimeoutHandler s now).1.rip.db i) := by
  have hloop := Slots.forEach_induction (f := ripTimeoutEntry now) (x := s)
    (fun k s' => RipOk now s'.rip ∧
      ∀ j : Fin ripDbSize, j.val < k → RipEntryFresh now (s'.rip.db j))
    ⟨h, fun j hj => absurd hj (Nat.not_lt_zero _)⟩ fun i s' hs' => ?_
  · exact ⟨hloop.1, fun i => hloop.2 i i.isLt⟩
  · refine ⟨hs'.1.timeoutEntry i, fun j hj => ripTimeoutEntry_fresh now s' i j ?_⟩
    by_cases hji : j = i
    · exact .inl hji
    · exact .inr (hs'.2 j (Slots.lt_of_lt_succ_of_ne hj hji))

/-- The slot is as before, or held a route that was collected for its age. -/
def RipKeptOrOld (now : UInt64) (r r' : RipRouteInfo) : Prop :=
  r' = r ∨ (r.state = ripRouteGc ∧ ripTimeoutUs + ripGcUs < now - r.lastUpdate)

theorem ripGcEntry_kept (now : UInt64) (state state' : RipState) (i j : Fin ripDbSize)
    (h : RipKeptOrOld now (state.db j) (state'.db j)) :
    RipKeptOrOld now (state.db j) ((ripGcEntry now state' i).db j) := by
  rcases ripGcEntry_cases now state' i with he | ⟨-, hs, hage, he⟩
  · rw [he]
    exact h
  · rw [he]
    by_cases hji : j = i
    · subst hji
      rcases h with heq | hold
      · rw [heq] at hs hage
        exact .inr ⟨hs, hage⟩
      · exact .inr hold
    · simpa only [Function.update_of_ne hji] using h

theorem RipOk.gc (h : RipOk now s.rip) :
    RipOk now (ripGcHandler s now).1.rip ∧
      ∀ i, RipKeptOrOld now (s.rip.db i) ((ripGcHandler s now).1.rip.db i) :=
  Slots.forEach_invariant (f := ripGcEntry now) (x := s.rip)
    (fun state' => RipOk now state' ∧ ∀ i, RipKeptOrOld now (s.rip.db i) (state'.db i))
    ⟨h, fun _ => .inl rfl⟩
    fun i state' h' => ⟨h'.1.gcEntry i, fun j => ripGcEntry_kept now s.rip state' i j (h'.2 j)⟩

theorem RipOk.step (h : RipOk now s.rip) {c : UInt64 × RipCall} (hclock : now ≤ c.1) :
    RipOk c.1 (ripStep s c).rip := by
  have h := h.mono hclock
  obtain ⟨now', call⟩ := c
  cases call with
  | receive iface srcIp payload => exact h.receive iface srcIp payload
  | timeout => exact h.timeout.1
  | gc => exact h.gc.1
  | other op hop => exact h

/-- Receiving and the timeout scan keep every entry. -/
theorem ripReceiveEntry_valid {iface : IfaceRef} {srcIp : UInt32} {e : RipEntry}
    (hi : (s.rip.db i).valid = true) :
    ((ripReceiveEntry iface srcIp now s e).rip.db i).valid = true := by
  rcases ripReceiveEntry_cases iface srcIp now s e with he | ⟨j, hv, he⟩ | ⟨k, j, -, he⟩
  · rw [he]
    exact hi
  all_goals
    rw [he]
    by_cases hij : i = j
    · subst hij
      simp [RipRouter.retire, RipRouter.install, RipEntry.route, hi]
    · simpa [RipRouter.retire, RipRouter.install, Function.update_of_ne hij] using hi

theorem ripTimeoutEntry_valid {j : Fin ripDbSize} (hi : (s.rip.db i).valid = true) :
    ((ripTimeoutEntry now s j).rip.db i).valid = true := by
  rcases ripTimeoutEntry_cases now s j with ⟨he, -⟩ | ⟨-, -, he⟩
  · rw [he]
    exact hi
  · rw [he]
    by_cases hij : i = j
    · subst hij
      simp [RipRouter.retire, hi]
    · simpa [RipRouter.retire, Function.update_of_ne hij] using hi

/-- An entry leaves the database in a garbage collection only. -/
theorem RipOk.removed (h : RipOk now s.rip) {call : RipCall} (hi : (s.rip.db i).valid = true)
    (hgone : ((ripStep s (now, call)).rip.db i).valid = false) :
    call = .gc ∧ (s.rip.db i).state = ripRouteGc ∧
      ripTimeoutUs + ripGcUs < now - (s.rip.db i).lastUpdate := by
  have hkept : ((ripStep s (now, call)).rip.db i).valid ≠ true := by
    rw [hgone]
    decide
  cases call with
  | receive iface srcIp payload =>
    exact absurd (run_invariant (fun s : RipRouter => (s.rip.db i).valid = true)
      (fun _ e hs => ripReceiveEntry_valid hs) (ripEntries payload) s hi) hkept
  | timeout =>
    exact absurd (Slots.forEach_invariant (f := ripTimeoutEntry now) (x := s)
      (fun s : RipRouter => (s.rip.db i).valid = true) hi
      fun j s' hs => ripTimeoutEntry_valid hs) hkept
  | gc =>
    rcases h.gc.2 i with heq | hold
    · exact absurd ((congrArg RipRouteInfo.valid heq).trans hi) hkept
    · exact ⟨rfl, hold⟩
  | other op hop => exact absurd hi hkept

end

/-! ## Results -/

theorem ripOk_run (calls : List (UInt64 × RipCall)) (hclock : calls.Pairwise fun c c' => c.1 ≤ c'.1)
    {now : UInt64} (hnow : ∀ c ∈ calls, c.1 ≤ now) :
    RipOk now (run ripStep ripRouterInit calls).rip := by
  -- induction from the last call, whose time bounds the others
  induction calls using List.reverseRecOn generalizing now with
  | nil => exact ripOk_init now
  | append_singleton calls c ih =>
    rw [List.pairwise_append] at hclock
    have hlast : ∀ c' ∈ calls, c'.1 ≤ c.1 := fun c' hc' =>
      hclock.2.2 c' hc' c (List.mem_singleton.mpr rfl)
    rw [run_append]
    have h := (ih hclock.1 hlast).step (c := c) (UInt64.le_refl _)
    exact h.mono (hnow c (List.mem_append_right _ (List.mem_singleton.mpr rfl)))

theorem RipEntryOk.phase_iff {now : UInt64} {r : RipRouteInfo} (h : RipEntryOk now r) :
    (r.state = ripRouteActive ↔ 1 ≤ r.metric.toNat ∧ r.metric.toNat ≤ 15) ∧
      (r.state = ripRouteGc ↔ r.metric.toNat = 16) := by
  have hne : ripRouteActive ≠ ripRouteGc := by decide
  rcases h.phase with ⟨hs, hlow, hhigh⟩ | ⟨hs, hm⟩
  · refine ⟨iff_of_true hs ⟨hlow, hhigh⟩, iff_of_false (fun h => hne (hs.symm.trans h)) ?_⟩
    omega
  · have hm : r.metric.toNat = 16 := congrArg UInt32.toNat hm
    refine ⟨iff_of_false (fun h => hne (h.symm.trans hs)) ?_, iff_of_true hs hm⟩
    omega

/-- After any calls under a clock that does not run back, the database counts its
    entries, has one for each normalized prefix, and an entry is active with metric 1
    to 15 or to be collected with metric 16. A timeout scan leaves no active entry
    older than the timeout, and an entry only goes in a garbage collection, as one to
    be collected, when it is older than both intervals. -/
theorem ripState_invariant (calls : List (UInt64 × RipCall))
    (hclock : calls.Pairwise fun c c' => c.1 ≤ c'.1) :
    let s := run ripStep ripRouterInit calls
    s.rip.dbCount = Slots.count RipRouteInfo.valid s.rip.db ∧
      (∀ i, (s.rip.db i).valid = true →
        PrefixNormalized (s.rip.db i).pfx (s.rip.db i).prefixLen) ∧
      (∀ i j, (s.rip.db i).valid = true → (s.rip.db j).valid = true →
        (s.rip.db i).pfx = (s.rip.db j).pfx →
        (s.rip.db i).prefixLen = (s.rip.db j).prefixLen → i = j) ∧
      (∀ i, (s.rip.db i).valid = true →
        ((s.rip.db i).state = ripRouteActive ↔
          1 ≤ (s.rip.db i).metric.toNat ∧ (s.rip.db i).metric.toNat ≤ 15) ∧
        ((s.rip.db i).state = ripRouteGc ↔ (s.rip.db i).metric.toNat = 16)) ∧
      ∀ now : UInt64, (∀ c ∈ calls, c.1 ≤ now) →
        (∀ i, let r := (ripStep s (now, .timeout)).rip.db i
          r.valid = true → r.state = ripRouteActive →
            r.lastUpdate ≤ now ∧ now.toNat - r.lastUpdate.toNat ≤ ripTimeoutUs.toNat) ∧
        ∀ call i, (s.rip.db i).valid = true →
          ((ripStep s (now, call)).rip.db i).valid = false →
          call = .gc ∧ (s.rip.db i).state = ripRouteGc ∧
            (s.rip.db i).lastUpdate.toNat + ripTimeoutUs.toNat + ripGcUs.toNat < now.toNat := by
  intro s
  have hok : RipOk uint64Max s.rip := ripOk_run calls hclock fun c _ => le_uint64Max c.1
  refine ⟨hok.dbCount, fun i hi => (hok.entries i hi).normalized, fun i j hi hj hp hl =>
    hok.distinct i j hi hj (Prod.ext hp hl), fun i hi => (hok.entries i hi).phase_iff,
    fun now hnow => ?_⟩
  have h := ripOk_run calls hclock hnow
  refine ⟨?_, fun call i hv hgone => ?_⟩
  · intro i r hv hs
    have hpast : r.lastUpdate ≤ now := (h.timeout.1.entries i hv).past
    have hage : (now - r.lastUpdate).toNat ≤ ripTimeoutUs.toNat := h.timeout.2 i hv hs
    rw [UInt64.toNat_sub_of_le _ _ hpast] at hage
    exact ⟨hpast, hage⟩
  · obtain ⟨rfl, hs, hage⟩ := h.removed hv hgone
    have hpast : (s.rip.db i).lastUpdate ≤ now := (h.entries i hv).past
    have hage : (ripTimeoutUs + ripGcUs).toNat < (now - (s.rip.db i).lastUpdate).toNat := hage
    have hsum : (ripTimeoutUs + ripGcUs).toNat = ripTimeoutUs.toNat + ripGcUs.toNat := rfl
    have hle : (s.rip.db i).lastUpdate.toNat ≤ now.toNat := hpast
    rw [UInt64.toNat_sub_of_le _ _ hpast, hsum] at hage
    exact ⟨rfl, hs, by omega⟩

/-- A route to 10.0.0.0/8 that is learned and then poisoned. -/
def examplePoison : List (UInt64 × RipCall) :=
  let update := fun metric => ripHeader ++ ripEntry { pfx := 0x0A000000, prefixLen := 8, metric }
  [(5, .receive 0 0xC0A80001 (update 1)), (7, .receive 0 0xC0A80001 (update 16)),
    (300000007, .gc)]

theorem ripState_invariant_examplePoison :
    let s := run ripStep ripRouterInit examplePoison
    s.rip.dbCount = 1 ∧ (s.rip.db 0).state = ripRouteGc ∧
      ((ripStep s (300000008, .gc)).rip.db 0).valid = false ∧
      (s.rip.db 0).lastUpdate.toNat + ripTimeoutUs.toNat + ripGcUs.toNat < 300000008 := by
  intro s
  have hv : (s.rip.db 0).valid = true := by decide +kernel
  have hgone : ((ripStep s (300000008, .gc)).rip.db 0).valid = false := by decide +kernel
  have h := ripState_invariant examplePoison (by decide +kernel)
  obtain ⟨-, hs, hage⟩ := (h.2.2.2.2 300000008 (by decide +kernel)).2 .gc 0 hv hgone
  exact ⟨by decide +kernel, hs, hgone, hage⟩

end FrameRunner
