import FrameRunner.Lib.Run
import FrameRunner.Lib.SlotMap
import FrameRunner.Network.Bridging

/-!
# A switch as a learning bridge (`network/switch.c`, `network/mac_table.c`)

What a switch is for: a map from addresses to the port on which they were last seen,
with room for 1024, and for every frame the ports that it is handed to `ethernet_send`
for. `Bridge` is this bridge; `switchCall` is the switch, whose ports go up and down,
under any network around it.

Main results:

* `MacTableOk.learn`, `MacTableOk.age`, `MacTableOk.flushPort`: the calls on the table
  are the insertion and the removals on its map.
* `switch_refines_bridge`: after any calls the switch is the bridge, and hands each
  frame to the same ports.
-/

namespace FrameRunner

open FrameRunner.Lib

/-! ## The bridge -/

/-- Where an address was last seen, and when. -/
structure BridgeEntry where
  port : IfaceRef
  seen : UInt64
  deriving DecidableEq, Repr

/-- What is handed to `ethernet_send`. -/
structure BridgeFrame where
  dstMac : Mac
  ethertype : UInt16
  payload : List UInt8
  deriving DecidableEq, Repr

/-- A learning bridge: the addresses it knows and the ports that are up. -/
structure Bridge where
  table : BoundedMap Mac BridgeEntry macTableSize
  up : IfaceRef → Bool

/-- The bridge and what each port is handed as a frame comes in; `linked` are its ports
    with a link. -/
def Bridge.receive (b : Bridge) (linked : IfaceRef → Prop) [DecidablePred linked] (now : UInt64)
    (inPort : IfaceRef) (srcMac : Mac) (frame : BridgeFrame) :
    Bridge × (IfaceRef → List BridgeFrame) :=
  if b.up inPort = false then (b, fun _ => [])
  else
    match b.table.insert srcMac ⟨inPort, now⟩ with
    | none => (b, fun _ => [])
    | some table =>
      let flood := fun p => if linked p ∧ p ≠ inPort ∧ b.up p = true then [frame] else []
      let forward := fun out p => if p = out ∧ p ≠ inPort ∧ b.up p = true then [frame] else []
      ({ b with table := table },
        if frame.dstMac = ethBroadcast then flood
        else
          match table.lookup frame.dstMac with
          | none => flood
          | some entry => forward entry.port)

/-- The bridge after its old addresses have been forgotten. -/
def Bridge.age (b : Bridge) (now : UInt64) : Bridge :=
  { b with table := b.table.erase fun mac =>
      (b.table.lookup mac).any fun entry => now - entry.seen > macAgeMs }

/-- The bridge after a port has gone down and its addresses have been forgotten. -/
def Bridge.portDown (b : Bridge) (port : IfaceRef) : Bridge where
  table := b.table.erase fun mac => (b.table.lookup mac).any fun entry => entry.port == port
  up := Function.update b.up port false

/-! ## The switch -/

/-- `mac_table_flush_port` (lines 70–82). -/
def macTableFlushPort (table : MacTable) (port : IfaceRef) : MacTable :=
  let hit := fun e : MacEntry => e.valid && e.port == some port
  { entries := fun i =>
      if hit (table.entries i) then { table.entries i with valid := false } else table.entries i
    count := table.count - Slots.count hit table.entries }

/-- A table before anything is learned. -/
def macTableInit : MacTable where
  entries _ := {}
  count := 0

/-- A switch with a topology whose interfaces go up and down. -/
structure SwitchState where
  table : MacTable
  up : IfaceRef → Bool

/-- The topology while these interfaces are up. -/
def Topology.withUp (t : Topology) (up : IfaceRef → Bool) : Topology :=
  { t with iface := fun i => { t.iface i with up := up i } }

/-- A call on a switch. `net` is the network around the switch at the time. -/
inductive SwitchCall where
  | receive (net : Net) (inPort : IfaceRef) (frame : Packet) (ethertype : UInt16)
      (readable : packetValidateView frame ethHdrLen 0 = true)
  | age (net : Net)
  | portDown (port : IfaceRef)
  | setUp (port : IfaceRef) (up : Bool)

/-- The switch after one more call; `switch_port_down` (switch.c lines 176–182) is the
    third. -/
def switchCall (t : Topology) (sw : SwitchRef) (s : SwitchState) : SwitchCall → SwitchState
  | .receive net inPort frame ethertype _ =>
    let net := switchReceive (t.withUp s.up) (net.setMacTbl sw s.table) sw inPort frame ethertype
    { s with table := net.macTbl sw }
  | .age net => { s with table := (macAgeHandler (net.setMacTbl sw s.table) sw).macTbl sw }
  | .portDown port =>
    { table := macTableFlushPort s.table port, up := Function.update s.up port false }
  | .setUp port up => { s with up := Function.update s.up port up }

/-! ## What is handed to `ethernet_send` -/

/-- A network with the calls of `ethernet_send` so far: the port and what it is handed. -/
abbrev SendLog := Net × List (IfaceRef × BridgeFrame)

/-- `ethernet_send`, logged. -/
def ethernetSendLogged (t : Topology) (net : Net) (log : List (IfaceRef × BridgeFrame))
    (port : IfaceRef) (dstMac : Mac) (ethertype : UInt16) (pkt : Packet) : SendLog :=
  ((ethernetSend t net port dstMac ethertype pkt).1, log ++ [(port, ⟨dstMac, ethertype, pkt.bytes⟩)])

/-- `switchFloodPort`, logged. -/
def switchFloodPortLogged (t : Topology) (inPort : IfaceRef) (frame : Packet) (dstMac : Mac)
    (ethertype : UInt16) (acc : SendLog) (outPort : IfaceRef) : SendLog :=
  if outPort ≠ inPort ∧ (t.iface outPort).up = true ∧ (t.iface outPort).link ≠ none then
    ethernetSendLogged t acc.1.alloc acc.2 outPort dstMac ethertype
      (packetClone (t.memory acc.1.allocs) frame)
  else acc

/-- `switchReceive`, logged. -/
def switchReceiveLogged (t : Topology) (net : Net) (sw : SwitchRef) (inPort : IfaceRef)
    (frame : Packet) (ethertype : UInt16) : SendLog :=
  if !(t.iface inPort).up then (net, [])
  else if !packetValidateView frame ethHdrLen 0 then (net.rxErrors inPort, [])
  else
    let ethHdr := frame.header ethHdrLen
    let srcMac := getMac ethHdr 6
    let dstMac := getMac ethHdr 0
    match macTableLearn (net.macTbl sw) srcMac inPort net.sched.now with
    | none => (net.rxDropped inPort, [])
    | some table =>
      let net := net.setMacTbl sw table
      if dstMac = ethBroadcast ∨ macTableLookup table dstMac = none then
        (t.ports sw).foldl (switchFloodPortLogged t inPort frame dstMac ethertype) (net, [])
      else
        match macTableLookup table dstMac with
        | none => (net.rxDropped inPort, [])
        | some egress =>
          if egress ≠ inPort ∧ (t.iface egress).up = true then
            ethernetSendLogged t net [] egress dstMac ethertype frame
          else (net.rxDropped inPort, [])

/-- What a port is handed, in a log. -/
def handed (log : List (IfaceRef × BridgeFrame)) (port : IfaceRef) : List BridgeFrame :=
  (log.filter fun c => c.1 = port).map Prod.snd

/-- What a call on a switch hands to `ethernet_send` for each port. -/
def switchHanded (t : Topology) (sw : SwitchRef) (s : SwitchState) :
    SwitchCall → IfaceRef → List BridgeFrame
  | .receive net inPort frame ethertype _ =>
    handed (switchReceiveLogged (t.withUp s.up) (net.setMacTbl sw s.table) sw inPort frame
      ethertype).2
  | _ => fun _ => []

section
variable (t : Topology) (inPort : IfaceRef) (frame : Packet) (dstMac : Mac) (ethertype : UInt16)

/-- The log is beside the network. -/
theorem switchFloodLogged_fst (ports : List IfaceRef) : ∀ acc : SendLog,
    (ports.foldl (switchFloodPortLogged t inPort frame dstMac ethertype) acc).1 =
      ports.foldl (switchFloodPort t inPort frame dstMac ethertype) acc.1 := by
  induction ports with
  | nil => exact fun _ => rfl
  | cons p ports ih =>
    intro acc
    have hone : (switchFloodPortLogged t inPort frame dstMac ethertype acc p).1 =
        switchFloodPort t inPort frame dstMac ethertype acc.1 p := by
      unfold switchFloodPortLogged switchFloodPort
      split
      · rfl
      · rfl
    rw [List.foldl_cons, List.foldl_cons, ih, hone]

theorem switchReceiveLogged_fst (net : Net) (sw : SwitchRef) :
    (switchReceiveLogged t net sw inPort frame ethertype).1 =
      switchReceive t net sw inPort frame ethertype := by
  unfold switchReceiveLogged switchReceive
  dsimp only
  split
  · rfl
  split
  · rfl
  cases macTableLearn (net.macTbl sw) (getMac (frame.header ethHdrLen) 6) inPort net.sched.now with
  | none => rfl
  | some table =>
    dsimp only
    split
    · exact switchFloodLogged_fst ..
    cases macTableLookup table (getMac (frame.header ethHdrLen) 0) with
    | none => rfl
    | some egress =>
      dsimp only
      split
      · rfl
      · rfl

/-- A flood logs every other port that is up and has a link. -/
theorem switchFloodLogged_snd (ports : List IfaceRef) : ∀ acc : SendLog,
    (ports.foldl (switchFloodPortLogged t inPort frame dstMac ethertype) acc).2 =
      acc.2 ++ (ports.filter fun p => p ≠ inPort ∧ (t.iface p).up = true ∧
        (t.iface p).link ≠ none).map fun p => (p, ⟨dstMac, ethertype, frame.bytes⟩) := by
  induction ports with
  | nil =>
    intro acc
    rw [List.foldl_nil, List.filter_nil, List.map_nil, List.append_nil]
  | cons p ports ih =>
    intro acc
    rw [List.foldl_cons, ih]
    unfold switchFloodPortLogged
    split
    · rename_i hport
      rw [List.filter_cons, if_pos (by simpa using hport), List.map_cons]
      unfold ethernetSendLogged
      rw [packetClone, bytes_packetFill, List.append_assoc, List.singleton_append]
    · rename_i hport
      rw [List.filter_cons, if_neg (by simpa using hport)]

end

theorem handed_cons (c : IfaceRef × BridgeFrame) (log : List (IfaceRef × BridgeFrame))
    (port : IfaceRef) :
    handed (c :: log) port = if c.1 = port then c.2 :: handed log port else handed log port := by
  unfold handed
  rw [List.filter_cons]
  by_cases hport : c.1 = port
  · rw [if_pos (decide_eq_true hport), if_pos hport, List.map_cons]
  · rw [if_neg (by simpa using hport), if_neg hport]

/-- Each of some different ports is handed the frame once. -/
theorem handed_map {ports : List IfaceRef} (hnodup : ports.Nodup) (frame : BridgeFrame)
    (port : IfaceRef) :
    handed (ports.map fun p => (p, frame)) port = if port ∈ ports then [frame] else [] := by
  induction ports with
  | nil => rfl
  | cons p ports ih =>
    obtain ⟨hp, hports⟩ := List.nodup_cons.mp hnodup
    rw [List.map_cons, handed_cons, ih hports]
    dsimp only
    by_cases heq : p = port
    · subst heq
      rw [if_pos rfl, if_neg hp, if_pos (List.mem_cons_self ..)]
    · have hmem : port ∈ p :: ports ↔ port ∈ ports := by
        rw [List.mem_cons]
        exact or_iff_right fun h => heq h.symm
      rw [if_neg heq]
      simp only [hmem]

/-! ## The table as a map -/

/-- How a `MacEntry` is read. -/
def macKeyed : Keyed MacEntry Mac BridgeEntry where
  used e := e.valid
  key e := e.mac
  val e := ⟨e.port.getD 0, e.timestamp⟩

/-- The map that a table stands for. -/
def macMap (table : MacTable) : BoundedMap Mac BridgeEntry macTableSize :=
  macKeyed.toMap table.entries

/-- The addresses in use are different, have a port, and are counted. -/
structure MacTableOk (table : MacTable) : Prop where
  distinct : macKeyed.Distinct table.entries
  port : ∀ i, (table.entries i).valid = true → (table.entries i).port ≠ none
  count : table.count = Slots.count MacEntry.valid table.entries

theorem macTableFind_eq (table : MacTable) (mac : Mac) :
    macTableFind table mac = macKeyed.find table.entries mac := by
  unfold macTableFind Keyed.find
  congr 1

theorem macTableOk_init : MacTableOk macTableInit where
  distinct := fun i j hi => by cases hi
  port := fun i hi => by cases hi
  count := congrArg Int.ofNat (Slots.count_eq_zero.mpr fun _ => rfl).symm

theorem macMap_init : macMap macTableInit = BoundedMap.empty := by
  refine BoundedMap.ext fun k => ?_
  have hnone : macKeyed.lookup macTableInit.entries k = none :=
    Keyed.lookup_eq_none_iff.mpr fun i hi => by cases hi
  rw [macMap, Keyed.toMap_lookup, hnone]
  rfl

section
variable {table : MacTable}

/-- `mac_table_lookup` is the lookup. -/
theorem MacTableOk.lookup (h : MacTableOk table) (mac : Mac) :
    macTableLookup table mac = ((macMap table).lookup mac).map BridgeEntry.port := by
  unfold macTableLookup
  rw [macTableFind_eq, macMap, Keyed.toMap_lookup, Keyed.lookup, Option.map_map]
  cases hfind : macKeyed.find table.entries mac with
  | none => rfl
  | some i =>
    have hport := h.port i (Keyed.find_eq_some hfind).1
    obtain ⟨port, hport⟩ := Option.ne_none_iff_exists'.mp hport
    rw [Option.map_some, Function.comp_apply]
    dsimp only [macKeyed]
    rw [hport, Option.getD_some]

/-- `mac_table_learn` stores a record in the slot for the address. -/
theorem macTableLearn_cases (table : MacTable) (mac : Mac) (port : IfaceRef) (now : UInt64) :
    (macKeyed.slotFor table.entries mac = none ∧ macTableLearn table mac port now = none) ∨
    ∃ i x, macKeyed.slotFor table.entries mac = some i ∧ x.valid = true ∧ x.mac = mac ∧
      x.port = some port ∧ x.timestamp = now ∧
      macTableLearn table mac port now = some {
        entries := Function.update table.entries i x
        count := if (table.entries i).valid then table.count else table.count + 1 } := by
  unfold macTableLearn Keyed.slotFor
  rw [macTableFind_eq]
  cases hfind : macKeyed.find table.entries mac with
  | some i =>
    obtain ⟨hv, hmac⟩ := Keyed.find_eq_some hfind
    have hv : (table.entries i).valid = true := hv
    refine .inr ⟨i, { table.entries i with port := some port, timestamp := now }, rfl, hv, hmac,
      rfl, rfl, ?_⟩
    dsimp only
    rw [if_pos hv]
  | none =>
    dsimp only [macKeyed]
    cases hfree : Fin.find? fun i => !(table.entries i).valid with
    | none => exact .inl ⟨rfl, rfl⟩
    | some i =>
      have hv : (table.entries i).valid = false := by simpa using (Fin.find?_eq_some_iff.mp hfree).1
      refine .inr ⟨i, { mac := mac, port := some port, timestamp := now, valid := true }, rfl, rfl,
        rfl, rfl, rfl, ?_⟩
      dsimp only
      rw [hv, if_neg Bool.false_ne_true]

/-- It is the insertion. -/
theorem MacTableOk.learn (h : MacTableOk table) (mac : Mac) (port : IfaceRef) (now : UInt64) :
    (macTableLearn table mac port now).map macMap = (macMap table).insert mac ⟨port, now⟩ ∧
      ∀ table', macTableLearn table mac port now = some table' → MacTableOk table' := by
  rcases macTableLearn_cases table mac port now with ⟨hslot, he⟩ | ⟨i, x, hslot, hv, hmac, hport,
    htime, he⟩
  · rw [he, macMap, h.distinct.insert_full hslot]
    exact ⟨rfl, fun table' h' => by cases h'⟩
  · have hval : macKeyed.val x = ⟨port, now⟩ := by
      dsimp only [macKeyed]
      rw [hport, htime, Option.getD_some]
    have hkey : macKeyed.key x = mac := hmac
    have hfresh : macKeyed.FreshBut table.entries i (macKeyed.key x) := by
      rw [hkey]
      exact (Keyed.slotFor_eq_some h.distinct hslot).1
    rw [he]
    constructor
    · rw [Option.map_some, macMap, macMap, ← hval, h.distinct.insert_store hslot hv hmac]
    · intro table' h'
      obtain rfl := Option.some.inj h'
      have hsome : x.valid = true → x.port ≠ none := by
        intro _
        rw [hport]
        exact Option.some_ne_none port
      refine ⟨h.distinct.store fun _ => hfresh,
        Slots.forall_update (p := fun e : MacEntry => e.valid = true → e.port ≠ none) h.port hsome
          i, ?_⟩
      have hcount := h.count
      dsimp only
      rw [Slots.count_store _ _ _ hv]
      split
      · exact hcount
      · omega

/-- The table without the entries that are hit, as `mac_table_age` and
    `mac_table_flush_port` leave it. -/
def MacTable.clear (table : MacTable) (hit : MacEntry → Bool) : MacTable where
  entries i :=
    if hit (table.entries i) then { table.entries i with valid := false } else table.entries i
  count := table.count - Slots.count hit table.entries

/-- It is a removal, if the hit depends on what the map knows. -/
theorem MacTableOk.clear (h : MacTableOk table) {hit : MacEntry → Bool} {q : BridgeEntry → Bool}
    (hhit : ∀ i, hit (table.entries i) =
      ((table.entries i).valid && q (macKeyed.val (table.entries i)))) :
    macMap (table.clear hit) =
        (macMap table).erase (fun mac => ((macMap table).lookup mac).any q) ∧
      MacTableOk (table.clear hit) := by
  have hvalid : ∀ i, ((table.clear hit).entries i).valid =
      ((table.entries i).valid && !q (macKeyed.val (table.entries i))) := by
    intro i
    dsimp only [MacTable.clear]
    rw [hhit i]
    cases hv : (table.entries i).valid with
    | false =>
      rw [Bool.false_and, Bool.false_and, if_neg Bool.false_ne_true]
      exact hv
    | true =>
      rw [Bool.true_and, Bool.true_and]
      cases q (macKeyed.val (table.entries i)) with
      | false => exact hv
      | true => rfl
  have hkept : ∀ i, ((table.clear hit).entries i).valid = true →
      (table.clear hit).entries i = table.entries i := by
    intro i hv
    dsimp only [MacTable.clear] at hv ⊢
    split_ifs at hv ⊢
    rfl
  constructor
  · refine h.distinct.toMap_clear _ q hvalid fun i hi => ?_
    rw [hkept i hi]
    exact ⟨rfl, rfl⟩
  · refine ⟨h.distinct.sub fun i hi => ?_, fun i hi => ?_, ?_⟩
    · have hi : ((table.clear hit).entries i).valid = true := hi
      have hold : (table.entries i).valid = true := by
        rw [hkept i hi] at hi
        exact hi
      rw [hkept i hi]
      exact ⟨hold, rfl⟩
    · have hold := hi
      rw [hkept i hi] at hold ⊢
      exact h.port i hold
    · have hsplit := Slots.count_partition MacEntry.valid (fun e => q (macKeyed.val e))
        table.entries
      have hhits : Slots.count hit table.entries =
          Slots.count (fun e => e.valid && q (macKeyed.val e)) table.entries :=
        Slots.count_congr hhit
      have hleft : Slots.count MacEntry.valid (table.clear hit).entries =
          Slots.count (fun e => e.valid && !q (macKeyed.val e)) table.entries :=
        Slots.count_congr hvalid
      have hcount := h.count
      have hclear : (table.clear hit).count = table.count - Slots.count hit table.entries := by
        rw [MacTable.clear]
      rw [hclear, hleft, hcount, hhits, hsplit]
      push_cast
      ring

theorem macTableAge_eq (table : MacTable) (now : UInt64) :
    macTableAge table now =
      table.clear fun e => e.valid && decide (now - e.timestamp > macAgeMs) := by
  unfold macTableAge MacTable.clear
  rfl

theorem macTableFlushPort_eq (table : MacTable) (port : IfaceRef) :
    macTableFlushPort table port = table.clear fun e => e.valid && e.port == some port := by
  unfold macTableFlushPort MacTable.clear
  rfl

/-- `mac_table_age` forgets the old addresses. -/
theorem MacTableOk.age (h : MacTableOk table) (now : UInt64) :
    macMap (macTableAge table now) = (macMap table).erase (fun mac =>
        ((macMap table).lookup mac).any fun entry => now - entry.seen > macAgeMs) ∧
      MacTableOk (macTableAge table now) := by
  rw [macTableAge_eq]
  exact h.clear (q := fun entry => decide (now - entry.seen > macAgeMs)) fun i => by
    dsimp only [macKeyed]
    rfl

/-- `mac_table_flush_port` forgets the addresses of the port. -/
theorem MacTableOk.flushPort (h : MacTableOk table) (port : IfaceRef) :
    macMap (macTableFlushPort table port) = (macMap table).erase (fun mac =>
        ((macMap table).lookup mac).any fun entry => entry.port == port) ∧
      MacTableOk (macTableFlushPort table port) := by
  rw [macTableFlushPort_eq]
  refine h.clear (q := fun entry => entry.port == port) fun i => ?_
  dsimp only [macKeyed]
  cases hv : (table.entries i).valid with
  | false => rw [Bool.false_and, Bool.false_and]
  | true =>
    obtain ⟨p, hp⟩ := Option.ne_none_iff_exists'.mp (h.port i hv)
    rw [hp, Option.getD_some]
    rfl

end

/-! ## The switch as the bridge -/

/-- What a switch is as a bridge. -/
def SwitchState.bridge (s : SwitchState) : Bridge := ⟨macMap s.table, s.up⟩

/-- The port is one of the switch and has a link. -/
def Linked (t : Topology) (sw : SwitchRef) (port : IfaceRef) : Prop :=
  port ∈ t.ports sw ∧ (t.iface port).link ≠ none

instance (t : Topology) (sw : SwitchRef) : DecidablePred (Linked t sw) := fun port =>
  inferInstanceAs (Decidable (port ∈ t.ports sw ∧ (t.iface port).link ≠ none))

/-- A call on the bridge, and what it hands to each port. -/
def bridgeCall (t : Topology) (sw : SwitchRef) (b : Bridge) :
    SwitchCall → Bridge × (IfaceRef → List BridgeFrame)
  | .receive net inPort frame ethertype _ =>
    b.receive (Linked t sw) net.sched.now inPort (getMac (frame.header ethHdrLen) 6)
      ⟨getMac (frame.header ethHdrLen) 0, ethertype, frame.bytes⟩
  | .age net => (b.age net.sched.now, fun _ => [])
  | .portDown port => (b.portDown port, fun _ => [])
  | .setUp port up => ({ b with up := Function.update b.up port up }, fun _ => [])

/-- The bridge after one more call. -/
def bridgeStep (t : Topology) (sw : SwitchRef) (b : Bridge) (c : SwitchCall) : Bridge :=
  (bridgeCall t sw b c).1

section
variable {t : Topology} {sw : SwitchRef} {inPort : IfaceRef} {frame : Packet} {dstMac : Mac}
  {ethertype : UInt16}

theorem switchFlood_macTbl (ports : List IfaceRef) : ∀ net : Net,
    (ports.foldl (switchFloodPort t inPort frame dstMac ethertype) net).macTbl = net.macTbl := by
  induction ports with
  | nil => exact fun _ => rfl
  | cons p ports ih =>
    intro net
    rw [List.foldl_cons, ih]
    unfold switchFloodPort
    split
    · rw [ethernetSend_macTbl, Net.alloc_macTbl]
    · rfl

/-- A frame on a port that is up changes the table by the learning alone. -/
theorem switchReceive_macTbl (net : Net) (hup : (t.iface inPort).up = true)
    (hview : packetValidateView frame ethHdrLen 0 = true) :
    (switchReceive t net sw inPort frame ethertype).macTbl sw =
      (macTableLearn (net.macTbl sw) (getMac (frame.header ethHdrLen) 6) inPort
        net.sched.now).getD (net.macTbl sw) := by
  unfold switchReceive
  rw [hup, hview]
  dsimp only
  cases macTableLearn (net.macTbl sw) (getMac (frame.header ethHdrLen) 6) inPort net.sched.now with
  | none => rfl
  | some table =>
    have hset : (net.setMacTbl sw table).macTbl sw = table := Function.update_self ..
    simp only [Bool.not_true, Bool.false_eq_true, if_false, Option.getD_some]
    split
    · rw [switchFlood_macTbl, hset]
    cases macTableLookup table (getMac (frame.header ethHdrLen) 0) with
    | none => exact hset
    | some egress =>
      dsimp only
      split
      · rw [ethernetSend_macTbl, hset]
      · exact hset

/-- A flood hands the frame to every other port that is up and linked, once. -/
theorem switchFlood_handed (hnodup : (t.ports sw).Nodup) (net : Net) (port : IfaceRef) :
    handed ((t.ports sw).foldl (switchFloodPortLogged t inPort frame dstMac ethertype)
        (net, [])).2 port =
      if Linked t sw port ∧ port ≠ inPort ∧ (t.iface port).up = true then
        [⟨dstMac, ethertype, frame.bytes⟩]
      else [] := by
  rw [switchFloodLogged_snd, List.nil_append, handed_map (hnodup.filter _)]
  refine if_congr ?_ rfl rfl
  rw [List.mem_filter, decide_eq_true_eq]
  unfold Linked
  tauto

/-- What each port is handed, by what the table knows after the learning. -/
theorem switchReceiveLogged_handed (hnodup : (t.ports sw).Nodup) (net : Net)
    (hup : (t.iface inPort).up = true) (hview : packetValidateView frame ethHdrLen 0 = true)
    {table : MacTable} (hlearn : macTableLearn (net.macTbl sw)
      (getMac (frame.header ethHdrLen) 6) inPort net.sched.now = some table) (port : IfaceRef) :
    handed (switchReceiveLogged t net sw inPort frame ethertype).2 port =
      let copy : BridgeFrame := ⟨getMac (frame.header ethHdrLen) 0, ethertype, frame.bytes⟩
      let flood :=
        if Linked t sw port ∧ port ≠ inPort ∧ (t.iface port).up = true then [copy] else []
      if copy.dstMac = ethBroadcast then flood
      else
        match macTableLookup table copy.dstMac with
        | none => flood
        | some out =>
          if port = out ∧ port ≠ inPort ∧ (t.iface port).up = true then [copy] else [] := by
  unfold switchReceiveLogged
  rw [hup, hview]
  dsimp only
  rw [hlearn]
  simp only [Bool.not_true, Bool.false_eq_true, if_false]
  by_cases hbroadcast : getMac (frame.header ethHdrLen) 0 = ethBroadcast
  · rw [if_pos (.inl hbroadcast), if_pos hbroadcast]
    exact switchFlood_handed hnodup _ port
  rw [if_neg hbroadcast]
  cases hlookup : macTableLookup table (getMac (frame.header ethHdrLen) 0) with
  | none =>
    rw [if_pos (.inr rfl)]
    exact switchFlood_handed hnodup _ port
  | some egress =>
    rw [if_neg (by simpa using hbroadcast)]
    dsimp only
    by_cases hport : port = egress
    · subst hport
      by_cases hsend : port ≠ inPort ∧ (t.iface port).up = true
      · rw [if_pos hsend, if_pos ⟨rfl, hsend⟩]
        exact (handed_cons _ _ _).trans (if_pos rfl)
      · rw [if_neg hsend, if_neg fun h => hsend h.2]
        rfl
    · have hnone : ¬ (port = egress ∧ port ≠ inPort ∧ (t.iface port).up = true) :=
        fun h => hport h.1
      rw [if_neg hnone]
      split
      · exact (handed_cons _ _ _).trans (if_neg fun h : egress = port => hport h.symm)
      · rfl

/-- A frame that comes in, on the table and for each port. -/
theorem MacTableOk.receive {s : SwitchState} (h : MacTableOk s.table)
    (hnodup : (t.ports sw).Nodup) (net : Net) (inPort : IfaceRef) (frame : Packet)
    (ethertype : UInt16) (readable : packetValidateView frame ethHdrLen 0 = true) :
    let c := SwitchCall.receive net inPort frame ethertype readable
    (switchCall t sw s c).bridge = (bridgeCall t sw s.bridge c).1 ∧
      switchHanded t sw s c = (bridgeCall t sw s.bridge c).2 ∧
      MacTableOk (switchCall t sw s c).table := by
  have hset : (net.setMacTbl sw s.table).macTbl sw = s.table := Function.update_self ..
  have hnodup' : ((t.withUp s.up).ports sw).Nodup := hnodup
  intro c
  dsimp only [c, switchCall, switchHanded, bridgeCall]
  unfold Bridge.receive
  cases hup : s.up inPort with
  | false =>
    have hdown : s.bridge.up inPort = false := hup
    have hport : ((t.withUp s.up).iface inPort).up = false := hup
    have hlog : switchReceiveLogged (t.withUp s.up) (net.setMacTbl sw s.table) sw inPort frame
        ethertype = (net.setMacTbl sw s.table, []) := by
      unfold switchReceiveLogged
      rw [hport]
      rfl
    rw [← switchReceiveLogged_fst, hlog, if_pos hdown]
    dsimp only
    rw [hset]
    exact ⟨rfl, rfl, h⟩
  | true =>
    have hdown : ¬ s.bridge.up inPort = false := by
      show ¬ s.up inPort = false
      rw [hup]
      decide
    have hport : ((t.withUp s.up).iface inPort).up = true := hup
    obtain ⟨hinsert, hok⟩ := h.learn (getMac (frame.header ethHdrLen) 6) inPort net.sched.now
    rw [switchReceive_macTbl _ hport readable, hset, if_neg hdown]
    have hbridge : s.bridge.table = macMap s.table := rfl
    rw [hbridge, ← hinsert]
    cases hlearn : macTableLearn s.table (getMac (frame.header ethHdrLen) 6) inPort
        net.sched.now with
    | none =>
      have hlog : (switchReceiveLogged (t.withUp s.up) (net.setMacTbl sw s.table) sw inPort frame
          ethertype).2 = [] := by
        unfold switchReceiveLogged
        rw [hport, readable]
        dsimp only
        rw [hset, Net.setMacTbl_sched, hlearn]
        rfl
      rw [hlog, Net.setMacTbl_sched, hlearn]
      exact ⟨rfl, rfl, h⟩
    | some table =>
      have hok' := hok table hlearn
      rw [Net.setMacTbl_sched, hlearn]
      refine ⟨rfl, ?_, hok'⟩
      funext port
      have hlearn' : macTableLearn ((net.setMacTbl sw s.table).macTbl sw)
          (getMac (frame.header ethHdrLen) 6) inPort (net.setMacTbl sw s.table).sched.now =
          some table := by
        rw [hset, Net.setMacTbl_sched, hlearn]
      rw [switchReceiveLogged_handed hnodup' _ hport readable hlearn']
      dsimp only [Option.map_some]
      rw [hok'.lookup]
      by_cases hbroadcast : getMac (frame.header ethHdrLen) 0 = ethBroadcast
      · rw [if_pos hbroadcast, if_pos hbroadcast]
        rfl
      rw [if_neg hbroadcast, if_neg hbroadcast]
      cases (macMap table).lookup (getMac (frame.header ethHdrLen) 0) with
      | none => rfl
      | some entry => rfl

/-- One call on a sound switch is the call on the bridge. -/
theorem MacTableOk.call {s : SwitchState} (h : MacTableOk s.table) (hnodup : (t.ports sw).Nodup)
    (c : SwitchCall) :
    (switchCall t sw s c).bridge = (bridgeCall t sw s.bridge c).1 ∧
      switchHanded t sw s c = (bridgeCall t sw s.bridge c).2 ∧
      MacTableOk (switchCall t sw s c).table := by
  cases c with
  | receive net inPort frame ethertype readable =>
    exact h.receive hnodup net inPort frame ethertype readable
  | age net =>
    obtain ⟨hmap, hok⟩ := h.age net.sched.now
    have htable : (switchCall t sw s (.age net)).table = macTableAge s.table net.sched.now := by
      dsimp only [switchCall]
      unfold macAgeHandler
      dsimp only [Net.schedule, Net.record, Net.setMacTbl]
      rw [Function.update_self, Function.update_self]
    refine ⟨?_, rfl, htable ▸ hok⟩
    unfold SwitchState.bridge
    rw [htable, hmap]
    rfl
  | portDown port =>
    obtain ⟨hmap, hok⟩ := h.flushPort port
    refine ⟨?_, rfl, hok⟩
    unfold SwitchState.bridge
    dsimp only [switchCall]
    rw [hmap]
    rfl
  | setUp port up => exact ⟨rfl, rfl, h⟩

end

/-! ## Results -/

/-- After any frames, aging events and ports that go down or up, whatever network is
    around the switch: its table and its ports are those of the bridge, the next frame
    is handed to `ethernet_send` for each port as by the bridge, and the table has each
    address in one slot and counts them. The ports of a switch are different, since
    `device_add_interface` refuses a name that is there. -/
theorem switch_refines_bridge (t : Topology) (sw : SwitchRef) (hnodup : (t.ports sw).Nodup)
    (up : IfaceRef → Bool) (calls : List SwitchCall) :
    let s := run (switchCall t sw) ⟨macTableInit, up⟩ calls
    let b := run (bridgeStep t sw) ⟨BoundedMap.empty, up⟩ calls
    s.bridge = b ∧ (∀ c, switchHanded t sw s c = (bridgeCall t sw b c).2) ∧
      (∀ i j, (s.table.entries i).valid = true → (s.table.entries j).valid = true →
        (s.table.entries i).mac = (s.table.entries j).mac → i = j) ∧
      s.table.count = Slots.count MacEntry.valid s.table.entries := by
  intro s b
  have hcall : ∀ (s : SwitchState) (c : SwitchCall), MacTableOk s.table →
      MacTableOk (switchCall t sw s c).table := fun _ c h => (h.call hnodup c).2.2
  have hok : MacTableOk s.table :=
    run_invariant (fun s : SwitchState => MacTableOk s.table) hcall calls ⟨macTableInit, up⟩
      macTableOk_init
  have hrun : s.bridge = run (bridgeStep t sw) (SwitchState.bridge ⟨macTableInit, up⟩) calls :=
    run_simulation (fun s : SwitchState => MacTableOk s.table)
      (fun _ c h => (h.call hnodup c).1) hcall calls _ macTableOk_init
  have hinit : SwitchState.bridge ⟨macTableInit, up⟩ = ⟨BoundedMap.empty, up⟩ :=
    congrArg (fun m => Bridge.mk m up) macMap_init
  have hbridge : s.bridge = b := by
    rw [hrun, hinit]
  refine ⟨hbridge, fun c => ?_, hok.distinct, hok.count⟩
  rw [← hbridge]
  exact (hok.call hnodup c).2.1

/-- A frame of host 0 to host 1, stripped. -/
def exampleStripped : Packet where
  buf := List.replicate 50 0 ++ ethernetHeader (ownMac 1) (ownMac 0) ethertypeIpv4 ++ [1, 2, 3]
  data := pktHeadroom
  len := 3
  fits := by decide

/-- The address of host 0 is learned, and its port then goes down. -/
def exampleFlush : List SwitchCall :=
  [.receive netInit 2 exampleStripped ethertypeIpv4 (by decide), .portDown 2]

theorem switch_refines_bridge_exampleFlush :
    (run (switchCall (exampleSwitch ownMac) 0) ⟨macTableInit, fun _ => true⟩ exampleFlush).bridge =
      run (bridgeStep (exampleSwitch ownMac) 0) ⟨BoundedMap.empty, fun _ => true⟩ exampleFlush :=
  (switch_refines_bridge (exampleSwitch ownMac) 0 (by decide) (fun _ => true) exampleFlush).1

end FrameRunner
