import FrameRunner.Common.IpUtils
import FrameRunner.Common.Ref
import FrameRunner.Lib.Slots

/-!
# Route table (`routing/route_table.c`)

The RIB keeps every candidate route, the FIB one winner for each
`(prefix, prefix_len)`. The definitions follow the C functions; a function
that returns a status returns the pair of the new table and the status. A
`NULL` table is not modelled: every function here is given its table.
-/

namespace FrameRunner

open FrameRunner.Lib

/-! ## Data model -/

/-- `ROUTE_RIB_SIZE` and `ROUTE_FIB_SIZE`. -/
abbrev routeRibSize : ℕ := 256
abbrev routeFibSize : ℕ := 256

def routeProtoStatic : UInt8 := 1
def routeProtoDirect : UInt8 := 2
def routeProtoRip : UInt8 := 3
def routeProtoOspf : UInt8 := 4
def routeProtoBgp : UInt8 := 5
def routeProtoIsis : UInt8 := 6

/-- `RouteRibEntry`; the all-zero record is the default. `pfx` is the field
    `prefix`. -/
structure RouteRibEntry where
  pfx : UInt32 := 0
  prefixLen : UInt8 := 0
  proto : UInt8 := 0
  valid : Bool := false
  selected : Bool := false
  nextHop : UInt32 := 0
  iface : Option IfaceRef := none
  metric : UInt32 := 0
  sequence : UInt32 := 0
  deriving DecidableEq, Repr

/-- `RouteFibEntry`; the all-zero record is the default. -/
structure RouteFibEntry where
  pfx : UInt32 := 0
  prefixLen : UInt8 := 0
  proto : UInt8 := 0
  valid : Bool := false
  nextHop : UInt32 := 0
  iface : Option IfaceRef := none
  metric : UInt32 := 0
  ribIndex : Fin routeRibSize := 0
  deriving DecidableEq, Repr

/-- `RouteTable`. -/
structure RouteTable where
  rib : Slots routeRibSize RouteRibEntry
  ribCount : ℕ
  fib : Slots routeFibSize RouteFibEntry
  fibCount : ℕ
  nextSequence : UInt32

/-! ## Functions -/

/-- `route_admin_distance` (lines 5–22). -/
def routeAdminDistance (proto : UInt8) : ℕ :=
  if proto = routeProtoDirect then 0
  else if proto = routeProtoStatic then 1
  else if proto = routeProtoBgp then 20
  else if proto = routeProtoOspf then 110
  else if proto = routeProtoIsis then 115
  else if proto = routeProtoRip then 120
  else 255

/-- `route_table_init` (lines 24–31). -/
def routeTableInit : RouteTable where
  rib := fun _ => {}
  ribCount := 0
  fib := fun _ => {}
  fibCount := 0
  nextSequence := 1

/-- The decision `replace` of `route_table_rebuild_fib` (lines 230–246): the
    candidate `rib_entry` beats the current winner. -/
def routeReplaces (ribEntry current : RouteRibEntry) : Bool :=
  let ribAd := routeAdminDistance ribEntry.proto
  let currentAd := routeAdminDistance current.proto
  if ribAd < currentAd then true
  else if ribAd = currentAd ∧ ribEntry.metric < current.metric then true
  else if ribAd = currentAd ∧ ribEntry.metric = current.metric ∧
    ribEntry.sequence < current.sequence then true
  else false

/-- The FIB record that the rebuild writes for RIB slot `i` (lines 251–258 and
    270–277). -/
def RouteRibEntry.toFib (e : RouteRibEntry) (i : Fin routeRibSize) : RouteFibEntry where
  pfx := e.pfx
  prefixLen := e.prefixLen
  proto := e.proto
  valid := true
  nextHop := e.nextHop
  iface := e.iface
  metric := e.metric
  ribIndex := i

/-- Round `i` of the main loop of `route_table_rebuild_fib` (lines 207–281). -/
def rebuildStep (t : RouteTable) (i : Fin routeRibSize) : RouteTable :=
  let ribEntry := t.rib i
  if !ribEntry.valid then t
  else
    match Fin.find? fun j => (t.fib j).valid && (t.fib j).pfx == ribEntry.pfx &&
        (t.fib j).prefixLen == ribEntry.prefixLen with
    | some j =>
      let c := (t.fib j).ribIndex
      if routeReplaces ribEntry (t.rib c) then
        -- the old winner is unselected before the new one is selected
        let rib := Function.update t.rib c { t.rib c with selected := false }
        { t with
          rib := Function.update rib i { rib i with selected := true }
          fib := Function.update t.fib j (ribEntry.toFib i) }
      else t
    | none =>
      match Fin.find? fun j => !(t.fib j).valid with
      | some j =>
        { t with
          rib := Function.update t.rib i { ribEntry with selected := true }
          fib := Function.update t.fib j (ribEntry.toFib i)
          fibCount := t.fibCount + 1 }
      | none => t

/-- The first two loops of `route_table_rebuild_fib` (lines 196–205): an empty
    FIB and no selected route. -/
def rebuildClear (t : RouteTable) : RouteTable :=
  { t with
    fib := fun _ => {}
    fibCount := 0
    rib := fun i => if (t.rib i).valid then { t.rib i with selected := false } else t.rib i }

/-- `route_table_rebuild_fib` (lines 191–284). -/
def routeTableRebuildFib (t : RouteTable) : RouteTable × Int :=
  (Slots.forEach routeRibSize rebuildStep (rebuildClear t), 0)

/-- The slot of the RIB entry with this key, if any: the first loop of
    `route_table_add` and of `route_table_delete`. -/
def ribFind (t : RouteTable) (pfx : UInt32) (prefixLen proto : UInt8) :
    Option (Fin routeRibSize) :=
  Fin.find? fun i => (t.rib i).valid && (t.rib i).pfx == pfx &&
    (t.rib i).prefixLen == prefixLen && (t.rib i).proto == proto

/-- `route_table_add` (lines 33–97). -/
def routeTableAdd (t : RouteTable) (pfx : UInt32) (prefixLen : UInt8) (nextHop : UInt32)
    (iface : Option IfaceRef) (metric : UInt32) (proto : UInt8) : RouteTable × Int :=
  if iface.isNone || prefixLen > 32 || proto == 0 then (t, -1)
  else
    let normalizedPrefix := pfx &&& ipv4PrefixMask prefixLen
    match ribFind t normalizedPrefix prefixLen proto with
    | some i =>
      let entry := { t.rib i with nextHop := nextHop, iface := iface, metric := metric }
      let (t', res) := routeTableRebuildFib { t with rib := Function.update t.rib i entry }
      (t', if res = 0 then 0 else -1)
    | none =>
      match Fin.find? fun i => !(t.rib i).valid with
      | some i =>
        let entry : RouteRibEntry :=
          { pfx := normalizedPrefix, prefixLen := prefixLen, proto := proto, valid := true,
            selected := false, nextHop := nextHop, iface := iface, metric := metric,
            sequence := t.nextSequence }
        let (t', res) := routeTableRebuildFib
          { t with
            rib := Function.update t.rib i entry
            nextSequence := t.nextSequence + 1
            ribCount := t.ribCount + 1 }
        if res = 0 then (t', 0)
        else
          -- undo the insertion
          ({ t' with
              rib := Function.update t'.rib i
                { t'.rib i with valid := false, selected := false, iface := none }
              nextSequence := t'.nextSequence - 1
              ribCount := t'.ribCount - 1 }, -1)
      | none => (t, -1)

/-- What `route_table_delete` and `route_table_flush_proto` leave in a slot. -/
def RouteRibEntry.clear (e : RouteRibEntry) : RouteRibEntry :=
  { e with valid := false, selected := false, iface := none }

/-- `route_table_delete` (lines 99–126). -/
def routeTableDelete (t : RouteTable) (pfx : UInt32) (prefixLen proto : UInt8) :
    RouteTable × Int :=
  if prefixLen > 32 || proto == 0 then (t, -1)
  else
    match ribFind t (pfx &&& ipv4PrefixMask prefixLen) prefixLen proto with
    | some i =>
      let (t', res) := routeTableRebuildFib
        { t with
          rib := Function.update t.rib i (t.rib i).clear
          ribCount := t.ribCount - 1 }
      (t', if res = 0 then 0 else -1)
    | none => (t, -1)

/-- The test `dst_ip` against one FIB entry and the update of `best_match`
    (lines 143–160). -/
def lookupStep (fib : Slots routeFibSize RouteFibEntry) (dstIp : UInt32)
    (bestMatch : Option (Fin routeFibSize)) (i : Fin routeFibSize) :
    Option (Fin routeFibSize) :=
  let entry := fib i
  let longer : Bool := match bestMatch with
    | none => true
    | some b => entry.prefixLen > (fib b).prefixLen
  if entry.valid then
    if entry.prefixLen ≤ 32 then
      if entry.prefixLen > 24 then
        if dstIp &&& ipv4PrefixMask entry.prefixLen = entry.pfx then
          if longer then some i else bestMatch
        else bestMatch
      else if entry.prefixLen ≤ 24 then
        if dstIp &&& ipv4PrefixMask entry.prefixLen = entry.pfx then
          if longer then some i else bestMatch
        else bestMatch
      else bestMatch
    else bestMatch
  else bestMatch

/-- `route_table_lookup` (lines 128–164); the result is the FIB entry that the
    returned pointer names. -/
def routeTableLookup (t : RouteTable) (dstIp : UInt32) : Option RouteFibEntry :=
  (Slots.forEach routeFibSize (lookupStep t.fib dstIp) none).map t.fib

/-- `route_table_flush_proto` (lines 166–188). -/
def routeTableFlushProto (t : RouteTable) (proto : UInt8) : RouteTable × ℕ :=
  if proto == 0 then (t, 0)
  else
    let hit : RouteRibEntry → Bool := fun e => e.valid && e.proto == proto
    let invalidated := Slots.count hit t.rib
    let (t', _) := routeTableRebuildFib
      { t with
        rib := fun i => if hit (t.rib i) then (t.rib i).clear else t.rib i
        ribCount := t.ribCount - invalidated }
    (t', invalidated)

/-! ## Histories -/

/-- One call of the route table's API. -/
inductive RouteOp where
  | add (pfx : UInt32) (prefixLen : UInt8) (nextHop : UInt32) (iface : Option IfaceRef)
      (metric : UInt32) (proto : UInt8)
  | delete (pfx : UInt32) (prefixLen proto : UInt8)
  | flushProto (proto : UInt8)
  | rebuildFib
  deriving DecidableEq, Repr

/-- The protocol that a call of the route table names. -/
def RouteOp.proto : RouteOp → Option UInt8
  | .add _ _ _ _ _ proto => some proto
  | .delete _ _ proto => some proto
  | .flushProto proto => some proto
  | .rebuildFib => none

/-- The table after one call. -/
def routeOpStep (t : RouteTable) : RouteOp → RouteTable
  | .add pfx prefixLen nextHop iface metric proto =>
    (routeTableAdd t pfx prefixLen nextHop iface metric proto).1
  | .delete pfx prefixLen proto => (routeTableDelete t pfx prefixLen proto).1
  | .flushProto proto => (routeTableFlushProto t proto).1
  | .rebuildFib => (routeTableRebuildFib t).1

end FrameRunner
