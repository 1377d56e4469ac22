import FrameRunner.Lib.Records
import FrameRunner.Ospf.Tables

/-!
# Two-way adjacency

Routers that exchange Hellos over a network which may lose, delay, duplicate and
reorder them: what was sent stays in `HelloNet.sent`, and any router may be handed
any of it at any time. A Hello of `ospf_send_hello` (lines 531–622) lists the
neighbors of its interface, and the receiver (lines 223–307) looks for its own id.

Main results:

* `ospfHelloLists_helloBytes`: the receiver finds its id if and only if it is listed.
* `ospfFull_twoWay`: a neighbor that is FULL had heard the router and listed it.
-/

namespace FrameRunner

open FrameRunner.Lib

/-! ## The Hello on the wire -/

/-- The neighbor ids follow the fixed fields. -/
theorem ospfHelloBytes_eq (env : OspfEnv) (state : OspfState) (iface : IfaceRef) :
    ∃ fixed : List UInt8, fixed.length = ospfHeaderLen + ospfHelloLen ∧
      ospfHelloBytes env state iface =
        fixed ++ (ospfHelloNeighbors state iface).flatMap be32 := by
  unfold ospfHelloBytes
  refine ⟨_, ?_, rfl⟩
  simp only [List.length_append, length_be32, length_be16]
  rfl

theorem length_ospfHelloBytes (env : OspfEnv) (state : OspfState) (iface : IfaceRef) :
    (ospfHelloBytes env state iface).length =
      ospfHeaderLen + ospfHelloLen + (ospfHelloNeighbors state iface).length * 4 := by
  obtain ⟨fixed, hfixed, he⟩ := ospfHelloBytes_eq env state iface
  rw [he, List.length_append, hfixed, Records.length_flatMap length_be32]

theorem getU32_ospfHelloBytes (env : OspfEnv) (state : OspfState) (iface : IfaceRef) {k : ℕ}
    (hk : k < (ospfHelloNeighbors state iface).length) :
    getU32 (ospfHelloBytes env state iface) (ospfHeaderLen + ospfHelloLen + 4 * k) =
      (ospfHelloNeighbors state iface)[k] := by
  obtain ⟨fixed, hfixed, he⟩ := ospfHelloBytes_eq env state iface
  have hids : (ospfHelloBytes env state iface).drop (ospfHeaderLen + ospfHelloLen) =
      (ospfHelloNeighbors state iface).flatMap be32 := by rw [he, List.drop_left' hfixed]
  have hdrop := Records.drop_flatMap_getElem length_be32 [] hk
  rw [List.append_nil, ← hids, List.drop_drop, Nat.mul_comm] at hdrop
  exact getU32_of_drop hdrop

/-- The receiver finds its id among the neighbors if and only if it is listed. -/
theorem ospfHelloLists_helloBytes (env : OspfEnv) (state : OspfState) (iface : IfaceRef)
    (routerId : UInt32) : ospfHelloLists routerId (ospfHelloBytes env state iface) = true ↔
      routerId ∈ ospfHelloNeighbors state iface := by
  have hcount : ((ospfHelloBytes env state iface).length - ospfHeaderLen - ospfHelloLen) / 4 =
      (ospfHelloNeighbors state iface).length := by
    rw [length_ospfHelloBytes]
    omega
  unfold ospfHelloLists
  rw [hcount, List.any_eq_true]
  constructor
  · rintro ⟨k, hk, hid⟩
    have hk : k < (ospfHelloNeighbors state iface).length := List.mem_range.mp hk
    rw [getU32_ospfHelloBytes env state iface hk, beq_iff_eq] at hid
    exact hid ▸ List.getElem_mem hk
  · intro hmem
    obtain ⟨k, hk, hid⟩ := List.getElem_of_mem hmem
    refine ⟨k, List.mem_range.mpr hk, ?_⟩
    rw [getU32_ospfHelloBytes env state iface hk, beq_iff_eq]
    exact hid

theorem mem_ospfHelloNeighbors {state : OspfState} {iface : IfaceRef} {routerId : UInt32} :
    routerId ∈ ospfHelloNeighbors state iface ↔
      ∃ j, (state.neighbors j).valid = true ∧ (state.neighbors j).routerId = routerId ∧
        (state.neighbors j).iface = some iface ∧ (state.neighbors j).state ≠ .down := by
  unfold ospfHelloNeighbors
  rw [List.mem_filterMap]
  constructor
  · rintro ⟨j, -, hj⟩
    dsimp only at hj
    split at hj
    · rename_i hlisted
      simp only [Bool.and_eq_true, decide_eq_true_eq, bne_iff_ne] at hlisted
      exact ⟨j, hlisted.1.1, Option.some.inj hj, hlisted.1.2, hlisted.2⟩
    · cases hj
  · rintro ⟨j, hvalid, hid, hiface, hdown⟩
    refine ⟨j, List.mem_finRange j, ?_⟩
    have hlisted : ((state.neighbors j).valid && decide ((state.neighbors j).iface = some iface) &&
        (state.neighbors j).state != .down) = true := by
      simp [hvalid, hiface, hdown]
    rw [if_pos hlisted, hid]

theorem ospfSendHello_data {env : OspfEnv} {state : OspfState} {iface : IfaceRef}
    {pkt : IpDatagram} (h : pkt ∈ ospfSendHello env state iface) :
    pkt.data = ospfHelloBytes env state iface := by
  unfold ospfSendHello at h
  split at h
  · cases h
  dsimp only at h
  split at h
  · rw [List.mem_singleton.mp h]
    rfl
  · cases h

/-- The id that the receiver reads is the sender's. -/
theorem getU32_ospfHelloBytes_sender (env : OspfEnv) (state : OspfState) (iface : IfaceRef) :
    getU32 (ospfHelloBytes env state iface) 4 = state.routerId := by
  unfold ospfHelloBytes ospfHeaderBytes
  simp only [List.append_assoc]
  exact getU32_append (ospfVersion :: ospfTypeHello :: be16 _) _ state.routerId rfl

/-! ## What the calls of one router change -/

/-- The neighbors after a call that accepts no Hello. -/
structure NbrsKept (state state' : OspfState) : Prop where
  routerId : state'.routerId = state.routerId
  neighbor : ∀ i, state'.neighbors i = state.neighbors i ∨
    state'.neighbors i = { state.neighbors i with state := .down }

theorem ospfReceive_kept {env : OspfEnv} {state : OspfState} {iface : IfaceRef} {pkt : IpDatagram}
    (h : ospfAcceptsHello env state iface pkt = false) :
    NbrsKept state (ospfReceive env state iface pkt).1 := by
  obtain ⟨parsedLsas, he⟩ := ospfReceive_of_not_accepts h
  obtain ⟨lsdb, n, hframe⟩ := foldl_ospfApplyLsa_frame parsedLsas (state, [])
  rw [he, hframe]
  exact ⟨rfl, fun i => .inl rfl⟩

/-- The call hands no Hello to the instance. -/
def OspfCall.NoHello : OspfCall → Prop
  | .receive _ _ pkt => getU8 pkt.data 1 ≠ ospfTypeHello
  | _ => True

theorem ospfStep_kept (node : OspfHeard) {call : OspfCall} (h : call.NoHello) :
    NbrsKept node.state (ospfStep node call).state := by
  cases call with
  | enableIface iface cost =>
    obtain ⟨ifaces, n, he⟩ := ospfEnableIface_frame node.state iface cost
    show NbrsKept _ (ospfEnableIface node.state iface cost).1
    rw [he]
    exact ⟨rfl, fun i => .inl rfl⟩
  | deadTimer env => exact ⟨rfl, ospfDeadTimer_neighbor env node.state⟩
  | receive env iface pkt =>
    have htype : getU8 pkt.data 1 ≠ ospfTypeHello := h
    exact ospfReceive_kept (by simp [ospfAcceptsHello, htype])

/-! ## The network -/

/-- A Hello on the network, with its sender, the interface it was built for, and the
    sender's state and the routers heard by it at that time. -/
structure HelloMsg (R : Type*) where
  sender : R
  iface : IfaceRef
  state : OspfState
  heard : Set R
  pkt : IpDatagram

/-- The routers and all Hellos sent so far. `heard b` are the routers that `b` accepted a
    Hello from, and `last b a` is the one from `a` that it accepted last. -/
structure HelloNet (R : Type*) where
  node : R → OspfHeard
  heard : R → Set R
  last : R → R → Option (HelloMsg R)
  sent : Set (HelloMsg R)

variable {R : Type*}

/-- All routers after `ospf_init`. -/
def helloStart (id : R → UInt32) : HelloNet R where
  node r := ospfStart (id r)
  heard _ := ∅
  last _ _ := none
  sent := ∅

/-- `a` builds this Hello. -/
def HelloNet.send (s : HelloNet R) (a : R) (iface : IfaceRef) (pkt : IpDatagram) : HelloNet R :=
  { s with sent := insert ⟨a, iface, (s.node a).state, s.heard a, pkt⟩ s.sent }

section
variable [DecidableEq R]

/-- A call of `b`'s instance. -/
def HelloNet.call (s : HelloNet R) (b : R) (call : OspfCall) : HelloNet R :=
  { s with node := Function.update s.node b (ospfStep (s.node b) call) }

/-- `b` is handed this Hello on its interface `iface`. -/
def HelloNet.receive (s : HelloNet R) (b : R) (m : HelloMsg R) (env : OspfEnv)
    (iface : IfaceRef) : HelloNet R :=
  if ospfAcceptsHello env (s.node b).state iface m.pkt then
    { s.call b (.receive env iface m.pkt) with
      heard := Function.update s.heard b (insert m.sender (s.heard b))
      last := Function.update s.last b (Function.update (s.last b) m.sender (some m)) }
  else s.call b (.receive env iface m.pkt)

/-- One step. Any router may be handed any Hello that was ever sent. -/
inductive HelloStep : HelloNet R → HelloNet R → Prop
  | send (s : HelloNet R) (a : R) (env : OspfEnv) (iface : IfaceRef) {pkt : IpDatagram}
      (hpkt : pkt ∈ ospfSendHello env (s.node a).state iface) : HelloStep s (s.send a iface pkt)
  | receive (s : HelloNet R) {m : HelloMsg R} (hm : m ∈ s.sent) (b : R) (env : OspfEnv)
      (iface : IfaceRef) : HelloStep s (s.receive b m env iface)
  | call (s : HelloNet R) (b : R) {call : OspfCall} (hcall : call.NoHello) :
      HelloStep s (s.call b call)

end

/-! ## The invariant -/

/-- The Hello is what its sender built, in a state whose neighbors had been heard. -/
structure HelloMsg.Ok (id : R → UInt32) (m : HelloMsg R) : Prop where
  built : ∃ env, m.pkt ∈ ospfSendHello env m.state m.iface
  routerId : m.state.routerId = id m.sender
  heard : ∀ i, (m.state.neighbors i).valid = true →
    ∃ a ∈ m.heard, id a = (m.state.neighbors i).routerId

/-- What router `b` knows of the others. A neighbor that is FULL sent a Hello with `b`'s
    id, and nothing that was accepted later says otherwise. -/
structure HelloNodeOk (id : R → UInt32) (b : R) (node : OspfHeard) (heard : Set R)
    (last : R → Option (HelloMsg R)) : Prop where
  tables : OspfTablesOk node
  routerId : node.state.routerId = id b
  heard : ∀ i, (node.state.neighbors i).valid = true →
    ∃ a ∈ heard, id a = (node.state.neighbors i).routerId
  full : ∀ i, (node.state.neighbors i).valid = true → (node.state.neighbors i).state = .full →
    ∃ a m, id a = (node.state.neighbors i).routerId ∧ last a = some m ∧ m.sender = a ∧ m.Ok id ∧
      ospfHelloLists (id b) m.pkt.data = true

section
variable {id : R → UInt32} {b : R} {node : OspfHeard} {heard : Set R}
  {last : R → Option (HelloMsg R)}

theorem HelloNodeOk.start (id : R → UInt32) (b : R) :
    HelloNodeOk id b (ospfStart (id b)) ∅ fun _ => none where
  tables := ospfTablesOk_start (id b)
  routerId := rfl
  heard i hi := by cases hi
  full i hi := by cases hi

/-- A call that accepts no Hello makes no neighbor FULL. -/
theorem HelloNodeOk.kept (h : HelloNodeOk id b node heard last) {node' : OspfHeard}
    (hk : NbrsKept node.state node'.state) (htables : OspfTablesOk node') :
    HelloNodeOk id b node' heard last := by
  refine ⟨htables, hk.routerId.trans h.routerId, fun i hi => ?_, fun i hi hfull => ?_⟩
  · rcases hk.neighbor i with he | he
    · rw [he] at hi ⊢
      exact h.heard i hi
    · rw [he] at hi ⊢
      exact h.heard i hi
  · rcases hk.neighbor i with he | he
    · rw [he] at hi hfull ⊢
      exact h.full i hi hfull
    · rw [he] at hfull
      cases hfull

variable [DecidableEq R]

/-- An accepted Hello decides the state of its sender's record, and of no other. -/
theorem HelloNodeOk.accept (h : HelloNodeOk id b node heard last) {m : HelloMsg R} (hm : m.Ok id)
    {env : OspfEnv} {iface : IfaceRef}
    (haccepts : ospfAcceptsHello env node.state iface m.pkt = true) :
    HelloNodeOk id b (ospfStep node (.receive env iface m.pkt)) (insert m.sender heard)
      (Function.update last m.sender (some m)) := by
  obtain ⟨env', hbuilt⟩ := hm.built
  have hsender : getU32 m.pkt.data 4 = id m.sender := by
    rw [ospfSendHello_data hbuilt, getU32_ospfHelloBytes_sender, hm.routerId]
  have htables := h.tables.step (.receive env iface m.pkt)
  obtain ⟨i, hslot, -, he⟩ := ospfReceive_of_accepts haccepts
  obtain ⟨hfresh, -⟩ := Keyed.slotFor_eq_some h.tables.neighborIds hslot
  have hstate : (ospfStep node (.receive env iface m.pkt)).state =
      (ospfReceive env node.state iface m.pkt).1 := rfl
  refine ⟨htables, ?_, fun j hj => ?_, fun j hj hfull => ?_⟩
  · rw [hstate, he]
    exact h.routerId
  · rw [hstate, he] at hj ⊢
    dsimp only at hj ⊢
    by_cases hji : j = i
    · subst hji
      rw [Function.update_self]
      exact ⟨m.sender, .inl rfl, hsender.symm⟩
    · rw [Function.update_of_ne hji] at hj ⊢
      obtain ⟨a, ha, hid⟩ := h.heard j hj
      exact ⟨a, .inr ha, hid⟩
  · rw [hstate, he] at hj hfull ⊢
    dsimp only at hj hfull ⊢
    by_cases hji : j = i
    · subst hji
      rw [Function.update_self] at hfull ⊢
      refine ⟨m.sender, m, hsender.symm, Function.update_self .., rfl, hm, ?_⟩
      rw [← h.routerId]
      by_contra hlists
      simp only [ospfHelloNeighbor] at hfull
      rw [if_neg hlists] at hfull
      cases hfull
    · rw [Function.update_of_ne hji] at hj hfull ⊢
      obtain ⟨a, m', hid, hlast, hrest⟩ := h.full j hj hfull
      have hother : (node.state.neighbors j).routerId ≠ getU32 m.pkt.data 4 := hfresh j hji hj
      have hne : a ≠ m.sender := fun hsame => hother (by rw [← hid, hsender, hsame])
      exact ⟨a, m', hid, by rw [Function.update_of_ne hne, hlast], hrest⟩

end

/-- The invariant of the network. -/
structure HelloNetOk (id : R → UInt32) (s : HelloNet R) : Prop where
  node : ∀ b, HelloNodeOk id b (s.node b) (s.heard b) (s.last b)
  sent : ∀ m ∈ s.sent, m.Ok id

section
variable {id : R → UInt32} {s s' : HelloNet R}

theorem HelloNetOk.start (id : R → UInt32) : HelloNetOk id (helloStart id) where
  node b := HelloNodeOk.start id b
  sent _ hm := hm.elim

theorem HelloNetOk.send (h : HelloNetOk id s) {a : R} {env : OspfEnv} {iface : IfaceRef}
    {pkt : IpDatagram} (hpkt : pkt ∈ ospfSendHello env (s.node a).state iface) :
    HelloNetOk id (s.send a iface pkt) := by
  refine ⟨h.node, fun m hm => ?_⟩
  rcases hm with rfl | hm
  · exact ⟨⟨env, hpkt⟩, (h.node a).routerId, (h.node a).heard⟩
  · exact h.sent m hm

variable [DecidableEq R]

/-- Only `b` is changed. -/
theorem HelloNetOk.call (h : HelloNetOk id s) {b : R} {call : OspfCall}
    (hk : NbrsKept (s.node b).state (ospfStep (s.node b) call).state) :
    HelloNetOk id (s.call b call) := by
  refine ⟨fun b' => ?_, h.sent⟩
  unfold HelloNet.call
  dsimp only
  by_cases hb : b' = b
  · subst hb
    rw [Function.update_self]
    exact (h.node b').kept hk ((h.node b').tables.step call)
  · rw [Function.update_of_ne hb]
    exact h.node b'

theorem HelloNetOk.receive (h : HelloNetOk id s) {m : HelloMsg R} (hm : m ∈ s.sent) (b : R)
    (env : OspfEnv) (iface : IfaceRef) : HelloNetOk id (s.receive b m env iface) := by
  unfold HelloNet.receive
  by_cases haccepts : ospfAcceptsHello env (s.node b).state iface m.pkt = true
  · rw [if_pos haccepts]
    refine ⟨fun b' => ?_, h.sent⟩
    unfold HelloNet.call
    dsimp only
    by_cases hb : b' = b
    · subst hb
      rw [Function.update_self, Function.update_self, Function.update_self]
      exact (h.node b').accept (h.sent m hm) haccepts
    · rw [Function.update_of_ne hb, Function.update_of_ne hb, Function.update_of_ne hb]
      exact h.node b'
  · rw [if_neg haccepts]
    exact h.call (ospfReceive_kept (Bool.not_eq_true _ ▸ haccepts))

theorem HelloNetOk.step (h : HelloNetOk id s) (hstep : HelloStep s s') : HelloNetOk id s' := by
  cases hstep with
  | send a env iface hpkt => exact h.send hpkt
  | receive hm b env iface => exact h.receive hm b env iface
  | call b hcall => exact h.call (ospfStep_kept _ hcall)

theorem HelloNetOk.reach (h : Relation.ReflTransGen HelloStep (helloStart id) s) :
    HelloNetOk id s := by
  induction h with
  | refl => exact HelloNetOk.start id
  | tail _ hstep ih => exact ih.step hstep

/-- A neighbor `a` is FULL at `b` only if the Hello from `a` that `b` accepted last was
    built when `a` had heard `b` and had it as a neighbor of that interface, not DOWN. -/
theorem ospfFull_twoWay (hid : Function.Injective id)
    (h : Relation.ReflTransGen HelloStep (helloStart id) s) {a b : R} {i : Fin ospfMaxNeighbors}
    (hvalid : ((s.node b).state.neighbors i).valid = true)
    (ha : ((s.node b).state.neighbors i).routerId = id a)
    (hfull : ((s.node b).state.neighbors i).state = .full) :
    ∃ m, s.last b a = some m ∧ m.sender = a ∧ b ∈ m.heard ∧
      (∃ env, m.pkt ∈ ospfSendHello env m.state m.iface) ∧
      ∃ j, (m.state.neighbors j).valid = true ∧ (m.state.neighbors j).routerId = id b ∧
        (m.state.neighbors j).iface = some m.iface ∧ (m.state.neighbors j).state ≠ .down := by
  obtain ⟨a', m, hid', hlast, hsender, hm, hlists⟩ :=
    ((HelloNetOk.reach h).node b).full i hvalid hfull
  obtain rfl : a' = a := hid (hid'.trans ha)
  obtain ⟨env, hbuilt⟩ := hm.built
  rw [ospfSendHello_data hbuilt, ospfHelloLists_helloBytes] at hlists
  obtain ⟨j, hj, hjid, hiface, hdown⟩ := mem_ospfHelloNeighbors.mp hlists
  obtain ⟨b', hb', hjid'⟩ := hm.heard j hj
  obtain rfl : b' = b := hid (hjid'.trans hjid)
  exact ⟨m, hlast, hsender, hb', hm.built, j, hj, hjid, hiface, hdown⟩

end

/-- The Hello that `a` builds for its interface 0. -/
def HelloNet.exampleHello (s : HelloNet Bool) (a : Bool) : HelloMsg Bool :=
  ⟨a, 0, (s.node a).state, s.heard a, ospfDatagram {} 0 (ospfHelloBytes {} (s.node a).state 0)⟩

def exampleHelloIds (r : Bool) : UInt32 := if r then 2 else 1

/-- Router 2 has sent a Hello that router 1 has accepted. -/
def exampleHelloHeard : HelloNet Bool :=
  let s := helloStart exampleHelloIds
  (s.send true 0 (s.exampleHello true).pkt).receive false (s.exampleHello true) {} 0

/-- Router 1 has answered, and router 2 has accepted it. -/
def exampleHelloFull : HelloNet Bool :=
  let s := exampleHelloHeard
  (s.send false 0 (s.exampleHello false).pkt).receive true (s.exampleHello false) {} 0

theorem exampleHelloFull_reach :
    Relation.ReflTransGen HelloStep (helloStart exampleHelloIds) exampleHelloFull := by
  have hsend : ∀ (s : HelloNet Bool) a, HelloStep s (s.send a 0 (s.exampleHello a).pkt) :=
    fun s a => .send s a {} 0 (List.mem_singleton.mpr rfl)
  have hreceive : ∀ (s : HelloNet Bool) a b, HelloStep (s.send a 0 (s.exampleHello a).pkt)
      ((s.send a 0 (s.exampleHello a).pkt).receive b (s.exampleHello a) {} 0) := fun s a b =>
    .receive _ (Set.mem_insert _ _) b {} 0
  exact (((Relation.ReflTransGen.single (hsend _ true)).tail (hreceive _ true false)).tail
    (hsend _ false)).tail (hreceive _ false true)

theorem ospfFull_twoWay_exampleHello :
    ∃ m, exampleHelloFull.last true false = some m ∧ m.sender = false ∧ true ∈ m.heard ∧
      (∃ env, m.pkt ∈ ospfSendHello env m.state m.iface) ∧
      ∃ j, (m.state.neighbors j).valid = true ∧ (m.state.neighbors j).routerId = 2 ∧
        (m.state.neighbors j).iface = some m.iface ∧ (m.state.neighbors j).state ≠ .down := by
  have hrecord : ((exampleHelloFull.node true).state.neighbors 0).valid = true ∧
      ((exampleHelloFull.node true).state.neighbors 0).routerId = 1 ∧
      ((exampleHelloFull.node true).state.neighbors 0).state = .full := by decide +kernel
  exact ospfFull_twoWay (by decide) exampleHelloFull_reach hrecord.1 hrecord.2.1 hrecord.2.2

end FrameRunner
