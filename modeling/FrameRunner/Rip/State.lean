import FrameRunner.Network.Dispatch

/-!
# RIP, the sending side (`protocols/rip.c`)

`rip_send_update` walks the database and sends what was not learned on the
interface itself, at most 25 entries in a datagram, to the group of RIP routers.
`ripSendUpdate_inv` is what its loop keeps: everything scheduled so far is an
update on the wire, and an entry found so far is in the buffer or sent.
-/

namespace FrameRunner

open FrameRunner.Lib

def ripPort : UInt16 := 520
def ripVersion : UInt8 := 2
def ripCmdResponse : UInt8 := 2
def ripAfiIpv4 : UInt16 := 2
def ripMulticast : UInt32 := 0xE0000009
def ripInfinity : UInt32 := 16
def ripMaxRoutes : ℕ := 25
def ripEntryLen : ℕ := 20

/-- `RIP_DB_SIZE` and `RIP_MAX_IFACES`. -/
abbrev ripDbSize : ℕ := 128
abbrev ripMaxIfaces : ℕ := 16

/-- `RipRouteInfo`; the all-zero record is the default. `pfx` is the field
    `prefix`. -/
structure RipRouteInfo where
  pfx : UInt32 := 0
  prefixLen : UInt8 := 0
  state : UInt8 := 0
  valid : Bool := false
  metric : UInt32 := 0
  nextHop : UInt32 := 0
  learnedOn : Option IfaceRef := none
  lastUpdate : UInt64 := 0
  deriving DecidableEq, Repr

/-- `RipState` of a router with a simulator. -/
structure RipState where
  db : Slots ripDbSize RipRouteInfo
  dbCount : ℤ
  ifaces : Slots ripMaxIfaces (Option IfaceRef)
  ifaceCount : ℤ

/-- The bytes of the `RipHeader` of a response. -/
def ripHeader : List UInt8 := [ripCmdResponse, ripVersion] ++ be16 0

/-- The bytes of the `RipEntry` of a route (lines 288–294). -/
def ripEntry (entry : RipRouteInfo) : List UInt8 :=
  be16 ripAfiIpv4 ++ be16 0 ++ be32 entry.pfx ++ be32 (ipv4PrefixMask entry.prefixLen) ++
    be32 entry.nextHop ++ be32 (if entry.metric > ripInfinity then ripInfinity else entry.metric)

/-- The call of `udp_send` with the entries collected so far. -/
def ripSendPayload (t : Topology) (net : Net) (outIface : IfaceRef) (entries : List UInt8) :
    Net × ℤ :=
  udpSend t net (t.iface outIface).ipAddr ripMulticast ripPort ripPort (ripHeader ++ entries)

/-- The entry is sent on this interface (lines 280–286). -/
def RipRouteInfo.sentOn (entry : RipRouteInfo) (outIface : IfaceRef) : Bool :=
  entry.valid && entry.learnedOn != some outIface

/-- Round `i` of the loop of `rip_send_update` (lines 278–317), on the network, the
    entries in the buffer and whether a send has failed, which returns at once. -/
def ripSendEntry (t : Topology) (state : RipState) (outIface : IfaceRef)
    (acc : Net × List UInt8 × Bool) (i : Fin ripDbSize) : Net × List UInt8 × Bool :=
  let (net, entries, failed) := acc
  if failed then acc
  else if !(state.db i).sentOn outIface then acc
  else
    let entries := entries ++ ripEntry (state.db i)
    if entries.length = ripMaxRoutes * ripEntryLen then
      let (net, res) := ripSendPayload t net outIface entries
      (net, [], res == -1)
    else (net, entries, false)

/-- `rip_send_update` (lines 258–334). -/
def ripSendUpdate (t : Topology) (net : Net) (state : RipState) (outIface : IfaceRef) : Net × ℤ :=
  let (net, entries, failed) :=
    Slots.forEach ripDbSize (ripSendEntry t state outIface) (net, [], false)
  if failed then (net, -1)
  else if entries ≠ [] then
    let (net, res) := ripSendPayload t net outIface entries
    (net, if res = -1 then -1 else 0)
  else (net, 0)

/-! ## What an update puts on the wire -/

/-- The MAC address of the group. -/
def ripMulticastMac : Mac := ⟨0x01, 0x00, 0x5e, 0, 0, 9⟩

/-- The frame with this RIP message, from the interface `src` with the address
    `srcIp`. -/
def ripFrame (t : Topology) (src : IfaceRef) (srcIp : UInt32) (message : List UInt8) : List UInt8 :=
  ethernetHeader ripMulticastMac (t.iface src).mac ethertypeIpv4 ++
    ((ipSentHeader srcIp ripMulticast ipprotoUdp (udpDatagram ripPort ripPort message).length).bytes
      ++ udpDatagram ripPort ripPort message)

/-- The event carries an update of `outIface`, sent by the interface that has its
    address. -/
def RipOnWire (t : Topology) (outIface : IfaceRef) (e : NetEvent) : Prop :=
  ∃ src dst message, ipFindSourceIface t (t.iface outIface).ipAddr = some src ∧
    message.length ≤ 65535 - udpHdrLen ∧ LinksTo t src dst ∧
    OnWire src dst (ripFrame t src (t.iface outIface).ipAddr message) e

theorem ripSendPayload_cases (t : Topology) (net : Net) (outIface : IfaceRef)
    {entries : List UInt8} (hlen : entries.length ≤ ripMaxRoutes * ripEntryLen) :
    let r := ripSendPayload t net outIface entries
    (r.2 = -1 ∧ ∀ e, ¬ Made net r.1 (.schedule e)) ∨
      (r.2 = 0 ∧ ∃ e, RipOnWire t outIface e ∧ ∀ e', Made net r.1 (.schedule e') ↔ e' = e) := by
  have hmac : ipMulticastToMac ripMulticast = some ripMulticastMac := by decide
  have hmessage : (ripHeader ++ entries).length ≤ 65535 - udpHdrLen := by
    have hheader : ripHeader.length = 4 := rfl
    have hmax : ripMaxRoutes * ripEntryLen = 500 := rfl
    rw [List.length_append, hheader]
    unfold udpHdrLen
    omega
  rcases udpSend_multicast_cases t net (t.iface outIface).ipAddr ripPort ripPort
      (ripHeader ++ entries) hmac with h | ⟨h0, src, dst, e, hfind, hlinks, hwire, hmade⟩
  · exact .inl h
  · exact .inr ⟨h0, e, ⟨src, dst, _, hfind, hmessage, hlinks, hwire⟩, hmade⟩

/-- Everything a round of the loop can do: nothing, after a failed send or if the entry is not
    for this interface, or to put the entry into the buffer, which is sent when it is full. -/
theorem ripSendEntry_cases (t : Topology) (state : RipState) (outIface : IfaceRef)
    (acc : Net × List UInt8 × Bool) (i : Fin ripDbSize) :
    let entries := acc.2.1 ++ ripEntry (state.db i)
    let r := ripSendPayload t acc.1 outIface entries
    (acc.2.2 = true ∨ (state.db i).sentOn outIface = false) ∧
        ripSendEntry t state outIface acc i = acc ∨
      acc.2.2 = false ∧ (state.db i).sentOn outIface = true ∧
        (entries.length = ripMaxRoutes * ripEntryLen ∧
            ripSendEntry t state outIface acc i = (r.1, [], r.2 == -1) ∨
          entries.length ≠ ripMaxRoutes * ripEntryLen ∧
            ripSendEntry t state outIface acc i = (acc.1, entries, false)) := by
  intro entries r
  obtain ⟨net, buffer, failed⟩ := acc
  unfold ripSendEntry
  dsimp only
  cases failed with
  | true => exact .inl ⟨.inl rfl, if_pos rfl⟩
  | false =>
    rw [if_neg Bool.false_ne_true]
    cases hsent : (state.db i).sentOn outIface with
    | false => exact .inl ⟨.inr rfl, rfl⟩
    | true =>
      rw [if_neg (by decide)]
      by_cases hfull : (buffer ++ ripEntry (state.db i)).length = ripMaxRoutes * ripEntryLen
      · exact .inr ⟨rfl, rfl, .inl ⟨hfull, if_pos hfull⟩⟩
      · exact .inr ⟨rfl, rfl, .inr ⟨hfull, if_neg hfull⟩⟩

/-- What the loop keeps after `k` rounds. -/
structure RipSendInv (t : Topology) (net : Net) (state : RipState) (outIface : IfaceRef) (k : ℕ)
    (acc : Net × List UInt8 × Bool) : Prop where
  sends : Sends NetCall.IsOutput net acc.1
  wire : ∀ e, Made net acc.1 (.schedule e) → RipOnWire t outIface e
  short : acc.2.1.length < ripMaxRoutes * ripEntryLen
  whole : ripEntryLen ∣ acc.2.1.length
  found : acc.2.2 = false → (∃ i : Fin ripDbSize, i.val < k ∧ (state.db i).sentOn outIface = true) →
    acc.2.1 ≠ [] ∨ ∃ e, Made net acc.1 (.schedule e)
  idle : (∀ i : Fin ripDbSize, i.val < k → (state.db i).sentOn outIface = false) →
    acc = (net, [], false)

theorem length_ripEntry (entry : RipRouteInfo) : (ripEntry entry).length = ripEntryLen := rfl

theorem ripSendPayload_sends (t : Topology) (net : Net) (outIface : IfaceRef)
    (entries : List UInt8) :
    Sends NetCall.IsOutput net (ripSendPayload t net outIface entries).1 :=
  udpSend_sends t net (t.iface outIface).ipAddr ripMulticast ripPort ripPort (ripHeader ++ entries)

section
variable {t : Topology} {net : Net} {state : RipState} {outIface : IfaceRef}

/-- A round that changes nothing, because of a failed send or because the entry
    stays here. -/
theorem RipSendInv.skip {i : Fin ripDbSize} {acc : Net × List UInt8 × Bool}
    (I : RipSendInv t net state outIface i acc)
    (h : acc.2.2 = false → (state.db i).sentOn outIface = false) :
    RipSendInv t net state outIface (i + 1) acc := by
  refine ⟨I.sends, I.wire, I.short, I.whole, fun hok hex => ?_, fun hidle => ?_⟩
  · obtain ⟨j, hj, hsent⟩ := hex
    refine I.found hok ⟨j, ?_, hsent⟩
    have hne : j.val ≠ i.val := by
      intro hji
      rw [Fin.ext hji, h hok] at hsent
      cases hsent
    omega
  · exact I.idle fun j hj => hidle j (by omega)

theorem RipSendInv.step {i : Fin ripDbSize} {acc : Net × List UInt8 × Bool}
    (I : RipSendInv t net state outIface i acc) :
    RipSendInv t net state outIface (i + 1) (ripSendEntry t state outIface acc i) := by
  rcases ripSendEntry_cases t state outIface acc i with
    ⟨hskip, he⟩ | ⟨hok, hsent, hentry⟩
  · rw [he]
    refine I.skip fun hok => hskip.resolve_left fun hfailed => ?_
    rw [hok] at hfailed
    cases hfailed
  have hshort := I.short
  have hnew : (acc.2.1 ++ ripEntry (state.db i)).length = acc.2.1.length + ripEntryLen := by
    rw [List.length_append, length_ripEntry]
  have hmax : (acc.2.1 ++ ripEntry (state.db i)).length ≤ ripMaxRoutes * ripEntryLen := by
    obtain ⟨k, hk⟩ := I.whole
    rw [hnew]
    unfold ripMaxRoutes ripEntryLen at *
    omega
  have hempty : ([] : List UInt8).length < ripMaxRoutes * ripEntryLen := by decide
  have hbusy : ¬ ∀ j : Fin ripDbSize, j.val < i.val + 1 →
      (state.db j).sentOn outIface = false := by
    intro h
    rw [h i (by omega)] at hsent
    cases hsent
  rcases hentry with ⟨-, he⟩ | ⟨hfull, he⟩
  · rw [he]
    have hsends := ripSendPayload_sends t acc.1 outIface (acc.2.1 ++ ripEntry (state.db i))
    have hsplit := I.sends.made_trans hsends
    rcases ripSendPayload_cases t acc.1 outIface hmax with ⟨hres, hnone⟩ | ⟨hres, e, hwire, hmade⟩
    · rw [hres]
      refine ⟨I.sends.trans hsends, fun e he => ?_, hempty, dvd_zero _, nofun,
        fun h => absurd h hbusy⟩
      exact I.wire e (((hsplit _).mp he).resolve_right (hnone e))
    · rw [hres]
      refine ⟨I.sends.trans hsends, fun e' he' => ?_, hempty, dvd_zero _, fun _ _ => .inr
        ⟨e, (hsplit _).mpr (.inr ((hmade e).mpr rfl))⟩, fun h => absurd h hbusy⟩
      rcases (hsplit _).mp he' with he' | he'
      · exact I.wire e' he'
      · rw [(hmade e').mp he']
        exact hwire
  · rw [he]
    refine ⟨I.sends, I.wire, lt_of_le_of_ne hmax hfull, ?_, fun _ _ => .inl fun hnil => ?_,
      fun h => absurd h hbusy⟩
    · show ripEntryLen ∣ (acc.2.1 ++ ripEntry (state.db i)).length
      rw [hnew]
      exact dvd_add I.whole (dvd_refl _)
    · have hzero : (acc.2.1 ++ ripEntry (state.db i)).length = 0 := congrArg List.length hnil
      rw [hnew] at hzero
      unfold ripEntryLen at hzero
      omega

theorem ripSendEntries_inv (t : Topology) (net : Net) (state : RipState) (outIface : IfaceRef) :
    RipSendInv t net state outIface ripDbSize
      (Slots.forEach ripDbSize (ripSendEntry t state outIface) (net, [], false)) :=
  Slots.forEach_induction (RipSendInv t net state outIface)
    ⟨Sends.refl _ net, fun e he => absurd he (not_made rfl _),
      (by decide : 0 < ripMaxRoutes * ripEntryLen), dvd_zero _,
      fun _ ⟨i, hi, _⟩ => absurd hi (by omega), fun _ => rfl⟩
    fun _ _ I => I.step

end

/-- What an update that succeeds has done: all that it scheduled is on the wire,
    and it scheduled something exactly if the database has an entry to send. -/
theorem ripSendUpdate_ok {t : Topology} {net : Net} {state : RipState} {outIface : IfaceRef}
    (h : (ripSendUpdate t net state outIface).2 = 0) :
    (∀ e, Made net (ripSendUpdate t net state outIface).1 (.schedule e) →
        RipOnWire t outIface e) ∧
      ((∃ e, Made net (ripSendUpdate t net state outIface).1 (.schedule e)) ↔
        ∃ i, (state.db i).sentOn outIface = true) := by
  have I := ripSendEntries_inv t net state outIface
  obtain ⟨r, hr⟩ : ∃ r, ripSendUpdate t net state outIface = r := ⟨_, rfl⟩
  rw [hr] at h ⊢
  unfold ripSendUpdate at hr
  generalize Slots.forEach ripDbSize (ripSendEntry t state outIface) (net, [], false) = acc at I hr
  obtain ⟨net', entries, failed⟩ := acc
  have hidle : (¬ ∃ i, (state.db i).sentOn outIface = true) → (net', entries, failed) =
      (net, [], false) := fun hnone => I.idle fun i _ => by
    rw [← Bool.not_eq_true]
    exact fun hi => hnone ⟨i, hi⟩
  have hall : (∃ i, (state.db i).sentOn outIface = true) →
      ∃ i : Fin ripDbSize, i.val < ripDbSize ∧ (state.db i).sentOn outIface = true :=
    fun ⟨i, hi⟩ => ⟨i, i.isLt, hi⟩
  have hneg : ¬ (-1 : ℤ) = 0 := by decide
  dsimp only at hr
  split at hr
  · -- a send failed, and the call returned -1
    rw [← hr] at h
    exact absurd h hneg
  · rename_i hok
    have hok : failed = false := by simpa using hok
    split at hr
    · rename_i hentries
      have hsends := ripSendPayload_sends t net' outIface entries
      have hsplit := I.sends.made_trans hsends
      rcases ripSendPayload_cases t net' outIface (le_of_lt I.short) with
        ⟨hres, -⟩ | ⟨hres, e, hwire, hmade⟩
      · rw [hres, if_pos rfl] at hr
        rw [← hr] at h
        exact absurd h hneg
      · rw [← hr]
        refine ⟨fun e' he' => ?_, fun _ => ?_, fun _ => ⟨e, (hsplit _).mpr (.inr ((hmade e).mpr rfl))⟩⟩
        · rcases (hsplit _).mp he' with he' | he'
          · exact I.wire e' he'
          · rw [(hmade e').mp he']
            exact hwire
        · by_contra hnone
          have := hidle hnone
          simp only [Prod.mk.injEq] at this
          exact hentries this.2.1
    · rename_i hentries
      rw [← hr]
      refine ⟨I.wire, fun ⟨e, he⟩ => ?_, fun hex => ?_⟩
      · by_contra hnone
        have := hidle hnone
        simp only [Prod.mk.injEq] at this
        rw [this.1] at he
        exact not_made rfl _ he
      · exact (I.found hok (hall hex)).resolve_left hentries

end FrameRunner
