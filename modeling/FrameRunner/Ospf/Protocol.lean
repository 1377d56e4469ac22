import FrameRunner.Common.Datagram
import FrameRunner.Common.IpUtils
import FrameRunner.Engine.Event
import FrameRunner.Ospf.Spf

/-!
# The OSPF protocol (`protocols/ospf.c`)

What an OSPF instance does with its packets and timers: Hello and LSU
receptions (`ospfReceive`), flooding, the periodic timers and the dead scan.
`ospf_init` stores the simulator and router once, so the tests of these pointers
are not modelled, and neither are a failing allocation or scheduler insertion
and the error counters of the interface. A packet that `ip_output` refuses is
(`OspfEnv.ipOk`).
-/

namespace FrameRunner

open FrameRunner.Lib

/-! ## Constants -/

def ospfVersion : UInt8 := 2
def ospfProtoNum : UInt8 := 89
def ospfAllSpfRouters : UInt32 := 0xE0000005
def ospfHelloIntervalUs : UInt64 := 10000000
def ospfDeadIntervalUs : UInt64 := 40000000
def ospfSpfDelayUs : UInt64 := 500000
def ospfTypeHello : UInt8 := 1
def ospfTypeDbd : UInt8 := 2
def ospfTypeLsr : UInt8 := 3
def ospfTypeLsu : UInt8 := 4
def ospfTypeLsack : UInt8 := 5

/-- The sizes of the packed wire structures. -/
def ospfHeaderLen : ℕ := 24
def ospfHelloLen : ℕ := 20
def ospfLsuHeaderLen : ℕ := 4
def ospfLsaWireLen : ℕ := 16
def ospfLsaLinkLen : ℕ := 12

/-! ## What a call sees and gives back -/

/-- The simulator as one call sees it. -/
structure OspfEnv where
  now : UInt64 := 0
  /-- `iface->prefix_len` and `ns_ntohl(iface->ip_addr)` -/
  prefixLen : IfaceRef → UInt8 := fun _ => 24
  ipAddr : IfaceRef → UInt32 := fun _ => 0
  /-- `ip_output` takes this packet -/
  ipOk : IpDatagram → Bool := fun _ => true

/-- The callbacks of OSPF's events; their context is the instance. -/
inductive OspfTimer where
  | helloTimer | deadTimer | spfTimer
  deriving DecidableEq, Repr

/-- An event of OSPF carries no pointers. -/
abbrev OspfEvent := Event OspfTimer Unit

structure OspfOut where
  sent : List IpDatagram := []
  events : List OspfEvent := []

/-- `ospf_schedule_periodic` (lines 6–27), and the SPF events. -/
def ospfScheduleEvent (env : OspfEnv) (type : EventType) (delay : UInt64) (handler : OspfTimer) :
    List OspfEvent :=
  [{ type := type, timestamp := env.now + delay, payload := (), handler := some handler }]

/-- The events that `ospf_init` (lines 66–93) schedules. -/
def ospfInitEvents (env : OspfEnv) : List OspfEvent :=
  ospfScheduleEvent env .ospfHello ospfHelloIntervalUs .helloTimer ++
    ospfScheduleEvent env .ospfDead ospfDeadIntervalUs .deadTimer

/-- `ospf_enable_iface` (lines 95–130). -/
def ospfEnableIface (state : OspfState) (iface : IfaceRef) (cost : UInt16) : OspfState × Int :=
  if cost = 0 then (state, -1)
  else
    match Fin.find? fun i =>
      decide ((state.ifaces i).iface = some iface) && (state.ifaces i).valid with
    | some i =>
      ({ state with
          ifaces := Function.update state.ifaces i { state.ifaces i with cost := cost } }, 0)
    | none =>
      if state.ifaceCount ≥ ospfMaxIfaces then (state, -1)
      else
        match Fin.find? fun i => !(state.ifaces i).valid with
        | none => (state, -1)
        | some i =>
          ({ state with
              ifaces := Function.update state.ifaces i
                { iface := some iface, cost := cost, valid := true }
              ifaceCount := state.ifaceCount + 1 }, 0)

/-! ## Packets -/

/-- The common header, with no checksum and no authentication. -/
def ospfHeaderBytes (state : OspfState) (type : UInt8) (len : ℕ) : List UInt8 :=
  [ospfVersion, type] ++ be16 (UInt16.ofNat len) ++ be32 state.routerId ++ be32 state.areaId ++
    be16 0 ++ be16 0 ++ be32 0 ++ be32 0

/-- `links[k]` on the wire. -/
def ospfLinkBytes (link : OspfLsaLink) : List UInt8 :=
  be32 link.linkId ++ be32 link.linkData ++ [link.type, link.numTos] ++ be16 link.metric

/-- The LSU that `ospf_flood_lsa` builds for one LSA (lines 658–706). -/
def ospfLsuBytes (state : OspfState) (lsa : OspfLsaEntry) : List UInt8 :=
  ospfHeaderBytes state ospfTypeLsu
      (ospfHeaderLen + ospfLsuHeaderLen + ospfLsaWireLen + lsa.linkCount * ospfLsaLinkLen) ++
    be16 1 ++ be16 0 ++
    be32 lsa.lsaId ++ be32 lsa.advRouter ++ be32 lsa.seqNum ++ be16 lsa.checksum ++
    [lsa.lsaType, UInt8.ofNat lsa.linkCount] ++
    (List.finRange lsa.linkCount).flatMap fun k => ospfLinkBytes (lsa.link k)

/-- The neighbors that a Hello on `iface` lists (lines 590–607). -/
def ospfHelloNeighbors (state : OspfState) (iface : IfaceRef) : List UInt32 :=
  (List.finRange ospfMaxNeighbors).filterMap fun i =>
    let neighbor := state.neighbors i
    if neighbor.valid && decide (neighbor.iface = some iface) && neighbor.state != .down then
      some neighbor.routerId
    else none

/-- The Hello that `ospf_send_hello` builds (lines 553–607). -/
def ospfHelloBytes (env : OspfEnv) (state : OspfState) (iface : IfaceRef) : List UInt8 :=
  let neighborIds := ospfHelloNeighbors state iface
  ospfHeaderBytes state ospfTypeHello (ospfHeaderLen + ospfHelloLen + neighborIds.length * 4) ++
    be32 (ipv4PrefixMask (env.prefixLen iface)) ++
    be16 (ospfHelloIntervalUs / 1000000).toUInt16 ++ [0, 0] ++
    be32 (ospfDeadIntervalUs / 1000000).toUInt32 ++ be32 0 ++ be32 0 ++
    neighborIds.flatMap be32

/-- A packet to `OSPF_ALLSPFROUTERS` from an interface. -/
def ospfDatagram (env : OspfEnv) (iface : IfaceRef) (data : List UInt8) : IpDatagram where
  srcIp := env.ipAddr iface
  dstIp := ospfAllSpfRouters
  protocol := ospfProtoNum
  data := data

/-- `ospf_send_hello` (lines 531–622). -/
def ospfSendHello (env : OspfEnv) (state : OspfState) (iface : IfaceRef) : List IpDatagram :=
  if env.prefixLen iface > 32 then []
  else
    let pkt := ospfDatagram env iface (ospfHelloBytes env state iface)
    if env.ipOk pkt then [pkt] else []

/-- One interface in `ospf_flood_lsa` (lines 639–719). The flag is the early
    `return -1`. -/
def ospfFloodIface (env : OspfEnv) (state : OspfState) (lsa : OspfLsaEntry)
    (exceptIface : IfaceRef) (acc : List IpDatagram × Bool) (i : Fin ospfMaxIfaces) :
    List IpDatagram × Bool :=
  let slot := state.ifaces i
  match acc.2, slot.valid, slot.iface with
  | false, true, some outIface =>
    if outIface = exceptIface then acc
    else
      let pkt := ospfDatagram env outIface (ospfLsuBytes state lsa)
      if env.ipOk pkt then (acc.1 ++ [pkt], false) else (acc.1, true)
  | _, _, _ => acc

/-- `ospf_flood_lsa` (lines 624–722); the flag is the result `-1`. -/
def ospfFloodLsa (env : OspfEnv) (state : OspfState) (lsa : OspfLsaEntry)
    (exceptIface : IfaceRef) : List IpDatagram × Bool :=
  Slots.forEach ospfMaxIfaces (ospfFloodIface env state lsa exceptIface) ([], false)

/-! ## Hello -/

/-- The slot of the sender (lines 266–290): its record, or else the first free
    one, which is counted. -/
def ospfHelloSlot (state : OspfState) (senderRouterId : UInt32) :
    Option (OspfState × Fin ospfMaxNeighbors) :=
  match Fin.find? fun i =>
    (state.neighbors i).valid && (state.neighbors i).routerId == senderRouterId with
  | some i => some (state, i)
  | none =>
    match Fin.find? fun i => !(state.neighbors i).valid with
    | some i => some ({ state with neighborCount := state.neighborCount + 1 }, i)
    | none => none

/-- The Hello case of `ospf_receive` (lines 223–307). -/
def ospfReceiveHello (env : OspfEnv) (state : OspfState) (iface : IfaceRef) (senderIp : UInt32)
    (data : List UInt8) : OspfState × Int :=
  let senderRouterId := getU32 data 4
  if data.length < ospfHeaderLen + ospfHelloLen then (state, -1)
  else
    let networkMask := getU32 data 24
    let helloInterval := getU16 data 28
    let deadInterval := getU32 data 32
    let neighborBytes := data.length - ospfHeaderLen - ospfHelloLen
    if neighborBytes % 4 ≠ 0 then (state, -1)
    else if senderRouterId = state.routerId ∨
        networkMask ≠ ipv4PrefixMask (env.prefixLen iface) ∨
        helloInterval.toNat ≠ ospfHelloIntervalUs.toNat / 1000000 ∨
        deadInterval.toNat ≠ ospfDeadIntervalUs.toNat / 1000000 then (state, -1)
    else
      let localIdSeen := (List.range (neighborBytes / 4)).any fun k =>
        getU32 data (ospfHeaderLen + ospfHelloLen + 4 * k) == state.routerId
      match ospfHelloSlot state senderRouterId with
      | none => (state, -1)
      | some (state, i) =>
        let neighbor : OspfNeighbor :=
          { routerId := senderRouterId, ipAddr := senderIp, iface := some iface,
            lastHelloTs := env.now, state := if localIdSeen then .full else .init, valid := true }
        ({ state with neighbors := Function.update state.neighbors i neighbor }, 0)

/-! ## Link state updates -/

/-- The link at the start of `bytes` (lines 375–383). -/
def ospfParseLink (bytes : List UInt8) : OspfLsaLink where
  linkId := getU32 bytes 0
  linkData := getU32 bytes 4
  type := getU8 bytes 8
  numTos := getU8 bytes 9
  metric := getU16 bytes 10

/-- The parse loop (lines 338–388) from `cursor` on, for `lsaCount` more LSAs:
    the LSAs and the bytes that remain. -/
def ospfParseLsas : ℕ → List UInt8 → Option (List OspfLsaEntry × List UInt8)
  | 0, cursor => some ([], cursor)
  | lsaCount + 1, cursor =>
    if cursor.length < ospfLsaWireLen then none
    else if h : (getU8 cursor 15).toNat ≤ ospfMaxLsaLinks then
      let links := cursor.drop ospfLsaWireLen
      let linkCount : Fin (ospfMaxLsaLinks + 1) := ⟨(getU8 cursor 15).toNat, Nat.lt_succ_of_le h⟩
      if links.length < linkCount * ospfLsaLinkLen then none
      else
        let parsed : OspfLsaEntry :=
          { lsaId := getU32 cursor 0, advRouter := getU32 cursor 4, seqNum := getU32 cursor 8,
            checksum := getU16 cursor 12, lsaType := getU8 cursor 14, valid := false,
            links := fun j =>
              if j.val < linkCount then ospfParseLink (links.drop (j * ospfLsaLinkLen)) else {},
            linkCount := linkCount }
        match ospfParseLsas lsaCount (links.drop (linkCount * ospfLsaLinkLen)) with
        | none => none
        | some (lsas, remaining) => some (parsed :: lsas, remaining)
    else none

/-- The slot that a parsed LSA goes to (lines 403–442); `none` is a `continue`.
    `first_invalid_index` is read only when nothing matches, so after a scan of
    the whole LSDB. -/
def ospfLsaSlot (state : OspfState) (parsed : OspfLsaEntry) : Option (Fin ospfLsdbSize) :=
  match Fin.find? fun i => (state.lsdb i).valid && (state.lsdb i).lsaId == parsed.lsaId &&
    (state.lsdb i).advRouter == parsed.advRouter with
  | some i => if (state.lsdb i).seqNum ≥ parsed.seqNum then none else some i
  | none => Fin.find? fun i => !(state.lsdb i).valid

/-- One parsed LSA is stored (lines 400–467), with the slots changed so far. -/
def ospfApplyLsa (acc : OspfState × List (Fin ospfLsdbSize)) (parsed : OspfLsaEntry) :
    OspfState × List (Fin ospfLsdbSize) :=
  let (state, changedSlots) := acc
  match ospfLsaSlot state parsed with
  | none => acc
  | some i =>
    ({ state with
        lsdb := Function.update state.lsdb i { parsed with valid := true }
        lsdbCount := if (state.lsdb i).valid then state.lsdbCount else state.lsdbCount + 1 },
      if i ∈ changedSlots then changedSlots else changedSlots ++ [i])

/-- The flooding of the changed slots (lines 469–477): the packets, and whether
    one failed. -/
def ospfFloodSlots (env : OspfEnv) (state : OspfState) (iface : IfaceRef)
    (changedSlots : List (Fin ospfLsdbSize)) : List IpDatagram × Bool :=
  changedSlots.foldl
    (fun acc i =>
      let (sent, failed) := ospfFloodLsa env state (state.lsdb i) iface
      (acc.1 ++ sent, acc.2 || failed))
    ([], false)

/-- The LSU case of `ospf_receive` (lines 312–504). -/
def ospfReceiveLsu (env : OspfEnv) (state : OspfState) (iface : IfaceRef) (data : List UInt8) :
    OspfState × Int × OspfOut :=
  if data.length < ospfHeaderLen + ospfLsuHeaderLen then (state, -1, {})
  else
    let lsaCount := (getU16 data 24).toNat
    if lsaCount > ospfLsdbSize then (state, -1, {})
    else
      match ospfParseLsas lsaCount (data.drop (ospfHeaderLen + ospfLsuHeaderLen)) with
      | none => (state, -1, {})
      | some (parsedLsas, remaining) =>
        if remaining ≠ [] then (state, -1, {})
        else
          let (state, changedSlots) := parsedLsas.foldl ospfApplyLsa (state, [])
          let (sent, postprocessFailed) := ospfFloodSlots env state iface changedSlots
          let events := if changedSlots ≠ [] then
              ospfScheduleEvent env .ospfSpf ospfSpfDelayUs .spfTimer
            else []
          (state, if postprocessFailed then -1 else 0, { sent := sent, events := events })

/-! ## Receiving -/

/-- `ospf_receive` (lines 132–523) for a packet that arrived on `iface`. -/
def ospfReceive (env : OspfEnv) (state : OspfState) (iface : IfaceRef) (pkt : IpDatagram) :
    OspfState × Int × OspfOut :=
  if env.prefixLen iface > 32 then (state, -1, {})
  else if pkt.data.length < ospfHeaderLen then (state, -1, {})
  else if pkt.protocol ≠ ospfProtoNum then (state, -1, {})
  else if getU8 pkt.data 0 ≠ ospfVersion then (state, -1, {})
  else if getU32 pkt.data 8 ≠ state.areaId then (state, -1, {})
  else if (getU16 pkt.data 2).toNat ≠ pkt.data.length then (state, -1, {})
  else if getU16 pkt.data 12 ≠ 0 then (state, -1, {})
  else if getU16 pkt.data 14 ≠ 0 ∨ getU32 pkt.data 16 ≠ 0 ∨ getU32 pkt.data 20 ≠ 0 then
    (state, -1, {})
  else
    let type := getU8 pkt.data 1
    if type = ospfTypeHello then
      let (state, res) := ospfReceiveHello env state iface pkt.srcIp pkt.data
      (state, res, {})
    else if type = ospfTypeLsu then ospfReceiveLsu env state iface pkt.data
    else if type = ospfTypeDbd ∨ type = ospfTypeLsr ∨ type = ospfTypeLsack then (state, 0, {})
    else (state, -1, {})

/-! ## Timers -/

/-- `ospf_hello_timer` (lines 913–945). -/
def ospfHelloTimer (env : OspfEnv) (state : OspfState) : OspfOut where
  sent := (List.finRange ospfMaxIfaces).flatMap fun i =>
    match (state.ifaces i).valid, (state.ifaces i).iface with
    | true, some iface => ospfSendHello env state iface
    | _, _ => []
  events := ospfScheduleEvent env .ospfHello ospfHelloIntervalUs .helloTimer

/-- The dead scan's test of one neighbor (lines 963–977). -/
def ospfNeighborDead (now : UInt64) (neighbor : OspfNeighbor) : Bool :=
  neighbor.valid && neighbor.state != .down && decide (neighbor.lastHelloTs ≤ now) &&
    decide (ospfDeadIntervalUs ≤ now - neighbor.lastHelloTs)

/-- `ospf_dead_timer` (lines 947–1000). -/
def ospfDeadTimer (env : OspfEnv) (state : OspfState) : OspfState × OspfOut :=
  let neighborChanged := Fin.find? fun i => ospfNeighborDead env.now (state.neighbors i)
  ({ state with
      neighbors := fun i =>
        if ospfNeighborDead env.now (state.neighbors i) then
          { state.neighbors i with state := .down }
        else state.neighbors i },
    { events :=
        (if neighborChanged.isSome then
          ospfScheduleEvent env .ospfSpf ospfSpfDelayUs .spfTimer
        else []) ++ ospfScheduleEvent env .ospfDead ospfDeadIntervalUs .deadTimer })

end FrameRunner
