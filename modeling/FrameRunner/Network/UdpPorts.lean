import FrameRunner.Lib.Run
import FrameRunner.Lib.SlotMap
import FrameRunner.Network.Delivery

/-!
# The UDP sockets as a map (`protocols/udp.c`)

What the sockets are for: a map from ports to the handlers that are bound to them, with room
for 32. `portMapCall` is this map with the values that the calls return; `udpCall` is the
array of sockets.

Main results:
* `udpPorts_refine`: after any calls the array is the map, every call returns what the map
  says, and a port has the handler of the last call that bound it.
* `udpPorts_deliver`: that is the handler that a datagram for the port is handed to, and a
  datagram for a port without one is answered.
-/

namespace FrameRunner

open FrameRunner.Lib

/-! ## The calls -/

/-- `UdpState`. -/
structure UdpState where
  sockets : Slots udpMaxSockets UdpSocket
  count : ℤ

/-- `udp_init` (lines 5–14). -/
def udpInit (state : UdpState) : UdpState where
  sockets i := { state.sockets i with valid := false }
  count := 0

/-- `udp_bind` (lines 16–41); `none` is a handler that is `NULL`. -/
def udpBind (state : UdpState) (port : UInt16) (recvHandler : Option UdpRecvHandler) :
    UdpState × ℤ :=
  match recvHandler with
  | none => (state, -1)
  | some recvHandler =>
    if port = 0 then (state, -1)
    else if (udpFind state.sockets port).isSome then (state, -1)
    else
      match Fin.find? fun i => !(state.sockets i).valid with
      | some i =>
        ({ sockets := Function.update state.sockets i { port, valid := true, recvHandler }
           count := state.count + 1 }, 0)
      | none => (state, -1)

/-- `udp_unbind` (lines 43–57). -/
def udpUnbind (state : UdpState) (port : UInt16) : UdpState × ℤ :=
  if port = 0 then (state, -1)
  else
    match udpFind state.sockets port with
    | some i =>
      ({ sockets := Function.update state.sockets i
           { state.sockets i with valid := false, port := 0 }
         count := state.count - 1 }, 0)
    | none => (state, -1)

inductive UdpOp where
  | init
  | bind (port : UInt16) (recvHandler : Option UdpRecvHandler)
  | unbind (port : UInt16)
  deriving DecidableEq, Repr

/-- A call: the state after it and the value that it returns (0 for `udp_init`). -/
def udpCall (state : UdpState) : UdpOp → UdpState × ℤ
  | .init => (udpInit state, 0)
  | .bind port recvHandler => udpBind state port recvHandler
  | .unbind port => udpUnbind state port

def udpStep (state : UdpState) (op : UdpOp) : UdpState := (udpCall state op).1

/-! ## The map -/

/-- From ports to the handlers bound to them. -/
abbrev PortMap := BoundedMap UInt16 UdpRecvHandler udpMaxSockets

/-- A call on the map. -/
def portMapCall (m : PortMap) : UdpOp → PortMap × ℤ
  | .init => (BoundedMap.empty, 0)
  | .bind _ none => (m, -1)
  | .bind port (some recvHandler) =>
    if port = 0 ∨ port ∈ m.keys then (m, -1)
    else
      match m.insert port recvHandler with
      | some m' => (m', 0)
      | none => (m, -1)
  | .unbind port => if port ∈ m.keys then (m.erase fun p => p = port, 0) else (m, -1)

def portMapStep (m : PortMap) (op : UdpOp) : PortMap := (portMapCall m op).1

/-- The call leaves a binding of the port alone. -/
def UdpOp.Keeps (port : UInt16) (op : UdpOp) : Prop := op ≠ .init ∧ op ≠ .unbind port

/-! ## The array as a map -/

/-- How a `UdpSocket` is read. -/
def udpKeyed : Keyed UdpSocket UInt16 UdpRecvHandler where
  used s := s.valid
  key s := s.port
  val s := s.recvHandler

/-- The map that the sockets stand for. -/
def portMap (state : UdpState) : PortMap := udpKeyed.toMap state.sockets

/-- The ports in use are different and not zero, and are counted. -/
structure UdpOk (state : UdpState) : Prop where
  distinct : udpKeyed.Distinct state.sockets
  nonzero : ∀ i, (state.sockets i).valid = true → (state.sockets i).port ≠ 0
  count : state.count = Slots.count UdpSocket.valid state.sockets

theorem udpFind_eq (sockets : Slots udpMaxSockets UdpSocket) (port : UInt16) :
    udpFind sockets port = udpKeyed.find sockets port := by
  unfold udpFind Keyed.find
  congr 1

theorem mem_portMap {state : UdpState} {port : UInt16} :
    port ∈ (portMap state).keys ↔ (udpFind state.sockets port).isSome = true := by
  rw [udpFind_eq, BoundedMap.mem_keys, portMap, Keyed.toMap_lookup, Keyed.lookup,
    Option.isSome_map]

section
variable {state : UdpState}

theorem UdpOk.zero_notMem (h : UdpOk state) : 0 ∉ (portMap state).keys := by
  rw [portMap, Keyed.mem_keys_iff]
  rintro ⟨i, hi, h0⟩
  exact h.nonzero i hi h0

theorem UdpOk.card_keys (h : UdpOk state) :
    state.count = (portMap state).keys.card := by
  rw [portMap, h.distinct.card_keys, h.count]
  rfl

theorem udpOk_init (state : UdpState) : UdpOk (udpInit state) where
  distinct := by
    intro i j hi
    cases hi
  nonzero i hi := by cases hi
  count := congrArg Int.ofNat (Slots.count_eq_zero.mpr fun _ => rfl).symm

theorem portMap_init (state : UdpState) : portMap (udpInit state) = BoundedMap.empty := by
  refine BoundedMap.ext fun port => ?_
  have hnone : udpKeyed.lookup (udpInit state).sockets port = none :=
    Keyed.lookup_eq_none_iff.mpr fun i hi => by cases hi
  rw [portMap, Keyed.toMap_lookup, hnone]
  rfl

/-! ## One call -/

/-- The array after a call is the map after it, and both return the same. -/
structure UdpRefines (state : UdpState) (op : UdpOp) : Prop where
  map : portMap (udpCall state op).1 = (portMapCall (portMap state) op).1
  res : (udpCall state op).2 = (portMapCall (portMap state) op).2
  ok : UdpOk (udpCall state op).1

theorem UdpOk.bind (h : UdpOk state) (port : UInt16) (recvHandler : UdpRecvHandler) :
    UdpRefines state (.bind port (some recvHandler)) := by
  by_cases hbad : port = 0 ∨ port ∈ (portMap state).keys
  · have hcall : udpCall state (.bind port (some recvHandler)) = (state, -1) := by
      rcases hbad with rfl | hmem
      · rfl
      · simp only [udpCall, udpBind, mem_portMap.mp hmem, if_true, ite_self]
    have hmap : portMapCall (portMap state) (.bind port (some recvHandler)) =
        (portMap state, -1) := if_pos hbad
    exact ⟨by rw [hcall, hmap], by rw [hcall, hmap], by rw [hcall]; exact h⟩
  obtain ⟨h0, hmem⟩ := not_or.mp hbad
  have hfind : udpFind state.sockets port = none := by
    rw [mem_portMap, Bool.not_eq_true, Option.isSome_eq_false_iff, Option.isNone_iff_eq_none]
      at hmem
    exact hmem
  have hslot : udpKeyed.slotFor state.sockets port =
      Fin.find? fun i => !(state.sockets i).valid := by
    rw [Keyed.slotFor, ← udpFind_eq, hfind]
    rfl
  cases hfree : Fin.find? fun i => !(state.sockets i).valid with
  | none =>
    have hcall : udpCall state (.bind port (some recvHandler)) = (state, -1) := by
      simp only [udpCall, udpBind, h0, hfind, hfree, if_false, Option.isSome_none,
        Bool.false_eq_true]
    have hfull := h.distinct.insert_full (hslot.trans hfree) recvHandler
    have hmap : portMapCall (portMap state) (.bind port (some recvHandler)) =
        (portMap state, -1) := by
      rw [portMapCall, if_neg hbad, portMap, hfull]
    exact ⟨by rw [hcall, hmap], by rw [hcall, hmap], by rw [hcall]; exact h⟩
  | some i =>
    have hvalid : (state.sockets i).valid = false := by
      simpa using (Fin.find?_eq_some_iff.mp hfree).1
    generalize hx : (⟨port, true, recvHandler⟩ : UdpSocket) = x
    have hcall : udpCall state (.bind port (some recvHandler)) =
        (⟨Function.update state.sockets i x, state.count + 1⟩, 0) := by
      simp only [udpCall, udpBind, h0, hfind, hfree, if_false, Option.isSome_none,
        Bool.false_eq_true, hx]
    have hused : udpKeyed.used x = true := by rw [← hx]; rfl
    have hkey : udpKeyed.key x = port := by rw [← hx]; rfl
    have hval : udpKeyed.val x = recvHandler := by rw [← hx]; rfl
    have hinsert := h.distinct.insert_store (hslot.trans hfree) hused hkey
    rw [hval] at hinsert
    have hmap : portMapCall (portMap state) (.bind port (some recvHandler)) =
        (portMap ⟨Function.update state.sockets i x, state.count + 1⟩, 0) := by
      rw [portMapCall, if_neg hbad, portMap, hinsert]
      rfl
    refine ⟨by rw [hcall, hmap], by rw [hcall, hmap], ?_⟩
    rw [hcall]
    refine ⟨h.distinct.store fun _ => ?_,
      Slots.forall_update (p := fun s : UdpSocket => s.valid = true → s.port ≠ 0) h.nonzero
        (fun _ => ?_) i, ?_⟩
    · rw [hkey]
      exact (Keyed.slotFor_eq_some h.distinct (hslot.trans hfree)).1
    · rw [← hx]
      exact h0
    · have hcount := h.count
      dsimp only
      rw [Slots.count_store UdpSocket.valid _ _ hused, hvalid, if_neg Bool.false_ne_true, hcount]
      rfl

theorem UdpOk.unbind (h : UdpOk state) (port : UInt16) : UdpRefines state (.unbind port) := by
  cases hfind : udpFind state.sockets port with
  | none =>
    have hmem : port ∉ (portMap state).keys := by
      rw [mem_portMap, hfind]
      exact Bool.false_ne_true
    have hcall : udpCall state (.unbind port) = (state, -1) := by
      simp only [udpCall, udpUnbind, hfind, ite_self]
    have hmap : portMapCall (portMap state) (.unbind port) = (portMap state, -1) :=
      if_neg hmem
    exact ⟨by rw [hcall, hmap], by rw [hcall, hmap], by rw [hcall]; exact h⟩
  | some i =>
    have hmem : port ∈ (portMap state).keys := by
      rw [mem_portMap, hfind]
      rfl
    have h0 : port ≠ 0 := by
      rintro rfl
      exact h.zero_notMem hmem
    obtain ⟨hused, hkey⟩ := Keyed.find_eq_some ((udpFind_eq _ _).symm.trans hfind)
    generalize hx : ({ state.sockets i with valid := false, port := 0 } : UdpSocket) = x
    have hcall : udpCall state (.unbind port) =
        (⟨Function.update state.sockets i x, state.count - 1⟩, 0) := by
      simp only [udpCall, udpUnbind, h0, hfind, if_false, hx]
    have hmap : portMapCall (portMap state) (.unbind port) =
        ((portMap state).erase fun p => p = port, 0) := if_pos hmem
    have hfree : udpKeyed.used x = false := by rw [← hx]; rfl
    refine ⟨?_, by rw [hcall, hmap], ?_⟩
    · rw [hcall, hmap]
      refine BoundedMap.ext fun p => ?_
      rw [BoundedMap.erase_lookup, portMap, portMap, Keyed.toMap_lookup, Keyed.toMap_lookup,
        h.distinct.lookup_drop hfree (h.distinct.freshBut hused hkey) fun _ => hkey]
      by_cases hp : p = port
      · rw [hp, Function.update_self, if_pos (decide_eq_true rfl)]
      · rw [Function.update_of_ne hp, if_neg (by simpa using hp)]
    · rw [hcall]
      refine ⟨h.distinct.store fun hu => ?_,
        Slots.forall_update (p := fun s : UdpSocket => s.valid = true → s.port ≠ 0) h.nonzero
          (fun hu => ?_) i, ?_⟩
      · rw [hfree] at hu
        cases hu
      · rw [← hx] at hu
        cases hu
      · have hdrop := Slots.count_drop UdpSocket.valid state.sockets i hfree hused
        show state.count - 1 = _
        rw [h.count, ← hdrop, Nat.cast_add, Nat.cast_one, add_sub_cancel_right]

theorem UdpOk.call (h : UdpOk state) (op : UdpOp) : UdpRefines state op := by
  cases op with
  | init => exact ⟨portMap_init state, rfl, udpOk_init state⟩
  | bind port recvHandler =>
    cases recvHandler with
    | none => exact ⟨rfl, rfl, h⟩
    | some recvHandler => exact h.bind port recvHandler
  | unbind port => exact h.unbind port

end

/-! ## Runs -/

/-- The map has the handler for the port after the call that binds it, or had it before. -/
theorem portMapStep_lookup_iff (m : PortMap) (port : UInt16) (recvHandler : UdpRecvHandler)
    (op : UdpOp) : (portMapStep m op).lookup port = some recvHandler ↔
      (op = .bind port (some recvHandler) ∧ (portMapCall m op).2 = 0) ∨
        m.lookup port = some recvHandler ∧ op.Keeps port := by
  have hrefused : ∀ {p h}, (portMapCall m (.bind p h)) = (m, -1) →
      ((portMapStep m (.bind p h)).lookup port = some recvHandler ↔
        (UdpOp.bind p h = .bind port (some recvHandler) ∧ (portMapCall m (.bind p h)).2 = 0) ∨
          m.lookup port = some recvHandler ∧ (UdpOp.bind p h).Keeps port) := by
    intro p h hcall
    rw [portMapStep, hcall]
    simp [UdpOp.Keeps]
  cases op with
  | init => simp [portMapStep, portMapCall, UdpOp.Keeps, BoundedMap.empty]
  | bind p h =>
    cases h with
    | none => exact hrefused rfl
    | some h =>
      by_cases hbad : p = 0 ∨ p ∈ m.keys
      · exact hrefused (if_pos hbad)
      have hcall : portMapCall m (.bind p (some h)) =
          match m.insert p h with
          | some m' => (m', 0)
          | none => (m, -1) := if_neg hbad
      cases hinsert : m.insert p h with
      | none =>
        rw [hinsert] at hcall
        exact hrefused hcall
      | some m' =>
        rw [hinsert] at hcall
        have hnew : m.lookup p = none := by
          have hmem := (not_or.mp hbad).2
          rw [m.mem_keys, Bool.not_eq_true, Option.isSome_eq_false_iff,
            Option.isNone_iff_eq_none] at hmem
          exact hmem
        rw [portMapStep, hcall]
        dsimp only
        rw [BoundedMap.insert_eq_some hinsert]
        by_cases hp : port = p
        · subst hp
          simp [hnew]
        · simp [Function.update_of_ne hp, UdpOp.Keeps, Ne.symm hp]
  | unbind p =>
    have hstep : (portMapStep m (.unbind p)).lookup port =
        if port = p then none else m.lookup port := by
      by_cases hmem : p ∈ m.keys
      · rw [portMapStep, portMapCall, if_pos hmem, BoundedMap.erase_lookup]
        simp
      · rw [portMapStep, portMapCall, if_neg hmem]
        split
        · rename_i hp
          rw [hp]
          simpa [m.mem_keys] using hmem
        · rfl
    rw [hstep]
    by_cases hp : port = p
    · simp [hp, UdpOp.Keeps]
    · simp [hp, UdpOp.Keeps, Ne.symm hp]

/-- The last call that concerns the port bound this handler. -/
def BoundTo (state₀ : UdpState) (ops : List UdpOp) (port : UInt16)
    (recvHandler : UdpRecvHandler) : Prop :=
  ∃ pre post, ops = pre ++ .bind port (some recvHandler) :: post ∧
    (udpBind (run udpStep (udpInit state₀) pre) port (some recvHandler)).2 = 0 ∧
    ∀ op ∈ post, op.Keeps port

/-- The sockets are this map: the ports are different, not zero and counted, what is found for
    a port is what the map knows, and the next call returns what the map says. -/
structure RefinesPortMap (state : UdpState) (m : PortMap) : Prop where
  map : portMap state = m
  distinct : udpKeyed.Distinct state.sockets
  nonzero : 0 ∉ m.keys
  count : state.count = m.keys.card
  find : ∀ port, (udpFind state.sockets port).map (fun i => (state.sockets i).recvHandler) =
    m.lookup port
  res : ∀ op, (udpCall state op).2 = (portMapCall m op).2

theorem udpRun_init (state₀ : UdpState) (ops : List UdpOp) :
    portMap (run udpStep (udpInit state₀) ops) = run portMapStep BoundedMap.empty ops ∧
      UdpOk (run udpStep (udpInit state₀) ops) := by
  constructor
  · rw [← portMap_init state₀]
    exact run_simulation UdpOk (fun _ op h => (h.call op).map) (fun _ op h => (h.call op).ok) ops
      _ (udpOk_init state₀)
  · exact run_invariant UdpOk (fun _ op h => (h.call op).ok) ops _ (udpOk_init state₀)

/-- After any calls the sockets are the map, and a port has the handler of the last call that
    bound it, unless it was given up since. -/
theorem udpPorts_refine (state₀ : UdpState) (ops : List UdpOp) :
    let state := run udpStep (udpInit state₀) ops
    let m := run portMapStep BoundedMap.empty ops
    RefinesPortMap state m ∧
      ∀ port recvHandler, m.lookup port = some recvHandler ↔
        BoundTo state₀ ops port recvHandler := by
  intro state m
  obtain ⟨hmap, hok⟩ : portMap state = m ∧ UdpOk state := udpRun_init state₀ ops
  refine ⟨⟨hmap, hok.distinct, ?_, ?_, fun port => ?_, fun op => ?_⟩, fun port recvHandler => ?_⟩
  · rw [← hmap]
    exact hok.zero_notMem
  · rw [← hmap]
    exact hok.card_keys
  · rw [← hmap, udpFind_eq, portMap, Keyed.toMap_lookup]
    rfl
  · rw [← hmap]
    exact (hok.call op).res
  · have hlatest := run_latest_iff (s := BoundedMap.empty)
      (Q := fun m : PortMap => m.lookup port = some recvHandler)
      (fun m op => portMapStep_lookup_iff m port recvHandler op)
      (Option.some_ne_none recvHandler).symm ops
    have hbinds : ∀ pre, (portMapCall (run portMapStep BoundedMap.empty pre)
        (.bind port (some recvHandler))).2 =
          (udpBind (run udpStep (udpInit state₀) pre) port (some recvHandler)).2 := by
      intro pre
      obtain ⟨hpre, hok⟩ := udpRun_init state₀ pre
      rw [← hpre]
      exact (hok.call (.bind port (some recvHandler))).res.symm
    refine hlatest.trans ?_
    constructor
    · rintro ⟨pre, op, post, hops, ⟨rfl, hres⟩, hkeeps⟩
      exact ⟨pre, post, hops, (hbinds pre).symm.trans hres, hkeeps⟩
    · rintro ⟨pre, post, hops, hres, hkeeps⟩
      exact ⟨pre, _, post, hops, ⟨rfl, (hbinds pre).trans hres⟩, hkeeps⟩

/-! ## Datagrams -/

/-- After any calls a datagram goes to the handler of the last call that bound its port, once,
    with the address and the port of the sender and the payload. If no call did, or the port
    was given up since, it is answered, or dropped where there is no simulator. -/
theorem udpPorts_deliver (state₀ : UdpState) (ops : List UdpOp) (sim : Bool) (t : Topology)
    (net : Net) (iface : IfaceRef) {pkt : Packet} {h : IpHeader} {srcPort dstPort : UInt16}
    {payload : List UInt8} (hlen : payload.length ≤ 65535 - udpHdrLen)
    (hroom : ipHdrLen ≤ pkt.data) (hheader : pkt.header ipHdrLen = h.bytes)
    (hprotocol : h.protocol = ipprotoUdp)
    (hbytes : pkt.bytes = udpDatagram srcPort dstPort payload) :
    let ctx : UdpContext := ⟨sim, (run udpStep (udpInit state₀) ops).sockets⟩
    (∀ recvHandler, BoundTo state₀ ops dstPort recvHandler → ∃ pkt', pkt'.bytes = payload ∧
      (udpReceive t net iface pkt ctx).1 =
        net.record (.udpRecv recvHandler iface h.srcIp srcPort pkt')) ∧
    ((∀ recvHandler, ¬ BoundTo state₀ ops dstPort recvHandler) →
      udpReceive t net iface pkt ctx =
        if sim then icmpSendUnreachPort t net iface pkt else (net.rxDropped iface, -1)) := by
  intro ctx
  obtain ⟨hrefine, hbound⟩ := udpPorts_refine state₀ ops
  have hfind := hrefine.find dstPort
  obtain ⟨pkt', hpayload, hrecv⟩ := @udpReceive_of_datagram t net iface pkt ctx h srcPort dstPort
    payload hlen hroom hheader hprotocol hbytes
  constructor
  · intro recvHandler hto
    rw [(hbound dstPort recvHandler).mpr hto] at hfind
    obtain ⟨i, hi, hhandler⟩ := Option.map_eq_some_iff.mp hfind
    have hport : udpFind ctx.sockets dstPort = some i := hi
    rw [hport] at hrecv
    exact ⟨pkt', hpayload, by rw [hrecv, ← hhandler]⟩
  · intro hnone
    have hport : udpFind ctx.sockets dstPort = none := by
      rw [← Option.map_eq_none_iff, hfind]
      refine Option.eq_none_iff_forall_ne_some.mpr fun recvHandler hto => ?_
      exact hnone recvHandler ((hbound dstPort recvHandler).mp hto)
    rw [hport] at hrecv
    exact hrecv

/-- The sockets before `udp_init`. -/
def exampleUdpState : UdpState := ⟨fun _ => { port := 4001, valid := true }, 7⟩

/-- The port 4001 is bound, given up and bound again; the last call is refused. -/
def exampleUdpOps : List UdpOp :=
  [.bind 4001 (some (.app 1)), .bind 4002 (some (.app 2)), .unbind 4001,
    .bind 4001 (some (.app 3)), .bind 4001 (some (.app 4))]

def exampleBoundHeader : IpHeader :=
  ipSentHeader 0x0A000001 0x0A000002 ipprotoUdp (udpDatagram 4000 4001 [42]).length

def exampleBoundPacket : Packet where
  buf := exampleBoundHeader.bytes ++ udpDatagram 4000 4001 [42]
  data := ipHdrLen
  len := udpHdrLen + 1
  fits := by decide +kernel

theorem udpPorts_deliver_exampleUdpOps :
    ∃ pkt, pkt.bytes = [42] ∧
      (udpReceive exampleUdpHosts exampleUdpNet 1 exampleBoundPacket
        ⟨true, (run udpStep (udpInit exampleUdpState) exampleUdpOps).sockets⟩).1 =
        exampleUdpNet.record (.udpRecv (.app 3) 1 exampleBoundHeader.srcIp 4000 pkt) := by
  have hheader : exampleBoundPacket.header ipHdrLen = exampleBoundHeader.bytes := by decide +kernel
  have hbytes : exampleBoundPacket.bytes = udpDatagram 4000 4001 [42] := by decide +kernel
  obtain ⟨hbound, -⟩ := udpPorts_deliver exampleUdpState exampleUdpOps true exampleUdpHosts
    exampleUdpNet 1 (by decide) (by decide) hheader rfl hbytes
  refine hbound (.app 3) ⟨[.bind 4001 (some (.app 1)), .bind 4002 (some (.app 2)),
    .unbind 4001], [.bind 4001 (some (.app 4))], rfl, by decide +kernel, fun op hop => ?_⟩
  rw [List.mem_singleton.mp hop]
  exact ⟨by decide, by decide⟩

end FrameRunner
