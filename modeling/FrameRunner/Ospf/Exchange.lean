import FrameRunner.Ospf.Flood
import Mathlib.Combinatorics.SimpleGraph.Basic

/-!
# Routers on links exchange Hellos

Routers that start with `ospf_init` on the links of a graph. A router sends a Hello on one of its
links with `ospf_send_hello`; the frame stays under way for good, and may be dispatched at the
other router at any later time, never, or several times. In between the instances get any other
packets, scan for dead neighbors and enable interfaces, in any order.

Main results:
* `OspfLinks.answered`: a router that got a Hello which was made after one of its own had arrived
  has the sender as a FULL neighbor, until an older Hello of the sender arrives.
* `ospfExchange_full`: after a Hello, an answer and a Hello that answers it, with anything in
  between, two routers have each other as FULL neighbors, with the right address on the right
  interface. They stay so as long as no Hello from before the exchange arrives and no scan finds
  that one of them fell silent.
-/

namespace FrameRunner

open FrameRunner.Lib

/-! ## The routers -/

/-- Routers and their links. `iface r s` is the interface of `r` on the link to `s`. -/
structure OspfLinks (t : Topology) (R : Type*) where
  graph : SimpleGraph R
  id : R → UInt32
  areaId : UInt32
  fn : R → AppRef
  iface : R → R → IfaceRef
  ids : Function.Injective id
  linked : ∀ {r s}, graph.Adj r s → HelloLinked t (iface r s) (iface s r) (fn s)

/-- A Hello that `src` sent on its link to `dst`, with the event by which it arrives. `state` is
    what the instance of `src` was when it made the Hello, after `made` steps. -/
structure LinkHello (R : Type*) where
  src : R
  dst : R
  state : OspfState
  event : NetEvent
  made : ℕ

/-- The instances, all Hellos sent so far, and the number of steps so far. -/
structure OspfExchange (R : Type*) where
  node : R → OspfState
  sent : List (LinkHello R)
  steps : ℕ

/-- A router sends its Hello on a link, in some state of the network, as the event `e`; a Hello
    that was sent is dispatched, in some state of the network; or an instance is called. -/
inductive OspfExchangeInput (R : Type*) where
  | send (r s : R) (net : Net) (e : NetEvent)
  | arrive (m : LinkHello R) (net : Net)
  | call (r : R) (c : OspfCall)

/-- The instance after the call. -/
def OspfState.call (state : OspfState) : OspfCall → OspfState
  | .enableIface iface cost => (ospfEnableIface state iface cost).1
  | .receive env iface pkt => (ospfReceive env state iface pkt).1
  | .deadTimer env => (ospfDeadTimer env state).1

variable {t : Topology} {R : Type*}

/-- The routers after `ospf_init`. -/
def OspfLinks.start (L : OspfLinks t R) (r : R) : OspfState :=
  { ospfInit (L.id r) with areaId := L.areaId }

/-- No Hello has been sent yet. -/
def OspfLinks.quiet (L : OspfLinks t R) : OspfExchange R := ⟨L.start, [], 0⟩

/-- One step. The Hello stays in `sent`: it may arrive again. -/
def OspfLinks.step [DecidableEq R] (L : OspfLinks t R) (x : OspfExchange R) :
    OspfExchangeInput R → OspfExchange R
  | .send r s _ e =>
    { x with sent := ⟨r, s, x.node r, e, x.steps⟩ :: x.sent, steps := x.steps + 1 }
  | .arrive m net =>
    { x with
      node := Function.update x.node m.dst
        (ospfDispatch t net m.event (L.fn m.dst) (x.node m.dst))
      steps := x.steps + 1 }
  | .call r c =>
    { x with node := Function.update x.node r ((x.node r).call c), steps := x.steps + 1 }

/-- `ospf_send_hello` got the Hello out, as the event `e`; what arrives was sent; and Hellos come
    from the routers alone. -/
def OspfLinks.Good (L : OspfLinks t R) (x : OspfExchange R) : OspfExchangeInput R → Prop
  | .send r s net e => L.graph.Adj r s ∧
      (ospfSendHelloOn t net (x.node r) (L.iface r s)).2 = 0 ∧
      Made net (ospfSendHelloOn t net (x.node r) (L.iface r s)).1 (.schedule e)
  | .arrive m _ => m ∈ x.sent
  | .call _ c => c.NoHello

/-- No scan at `p` finds that `q` is dead. -/
def OspfLinks.Alive (L : OspfLinks t R) (p q : R) (x : OspfExchange R) :
    OspfExchangeInput R → Prop
  | .call r (.deadTimer env) => r = p → ∀ i, ((x.node p).neighbors i).routerId = L.id q →
      ospfNeighborDead env.now ((x.node p).neighbors i) = false
  | _ => True

/-- A Hello from `p`, made after `n` steps or more, arrives at `q`. -/
def OspfExchangeInput.Brings (p q : R) (n : ℕ) : OspfExchangeInput R → Prop
  | .arrive m _ => m.src = p ∧ m.dst = q ∧ n ≤ m.made
  | _ => False

/-- No Hello from `p` arrives at `q` that was made before. -/
def OspfExchangeInput.Fresh (p q : R) (n : ℕ) : OspfExchangeInput R → Prop
  | .arrive m _ => m.src = p → m.dst = q → n ≤ m.made
  | _ => True

theorem OspfExchangeInput.Brings.arrives {p q : R} {n : ℕ} {i : OspfExchangeInput R}
    (h : i.Brings p q n) : ∃ m net, i = .arrive m net ∧ m.src = p ∧ m.dst = q ∧ n ≤ m.made := by
  cases i with
  | arrive m net => exact ⟨m, net, rfl, h⟩
  | send r s net e => exact h.elim
  | call r c => exact h.elim

theorem OspfExchangeInput.Brings.any {p q : R} {n : ℕ} {i : OspfExchangeInput R}
    (h : i.Brings p q n) : i.Brings p q 0 := by
  obtain ⟨m, net, rfl, hsrc, hdst, -⟩ := h.arrives
  exact ⟨hsrc, hdst, Nat.zero_le _⟩

theorem OspfExchangeInput.Brings.fresh {p q : R} {n : ℕ} {i : OspfExchangeInput R}
    (h : i.Brings p q n) : i.Fresh p q n := by
  obtain ⟨m, net, rfl, -, -, hmade⟩ := h.arrives
  exact fun _ _ => hmade

/-- `p` has a record of `q` in this state, with the address and the interface of their link. -/
def OspfLinks.Record (L : OspfLinks t R) (st : R → OspfState) (p q : R) (x : OspfNbrState) : Prop :=
  ∃ i τ, (st p).neighbors i =
    { routerId := L.id q, ipAddr := (t.iface (L.iface q p)).ipAddr, state := x, lastHelloTs := τ,
      iface := some (L.iface p q), valid := true }

/-! ## What a call leaves alone -/

theorem OspfState.call_eq (state : OspfState) {c : OspfCall} (h : c.NoHello)
    (hscan : ∀ env, c ≠ .deadTimer env) : ∃ ifaces n lsdb m, state.call c =
      { state with ifaces := ifaces, ifaceCount := n, lsdb := lsdb, lsdbCount := m } := by
  cases c with
  | enableIface iface cost =>
    obtain ⟨ifaces, n, he⟩ := ospfEnableIface_frame state iface cost
    exact ⟨ifaces, n, _, _, he⟩
  | deadTimer env => exact absurd rfl (hscan env)
  | receive env iface pkt =>
    have htype : getU8 pkt.data 1 ≠ ospfTypeHello := h
    have hrefused : ospfAcceptsHello env state iface pkt = false := by
      simp [ospfAcceptsHello, htype]
    obtain ⟨parsedLsas, he⟩ := ospfReceive_of_not_accepts hrefused
    obtain ⟨lsdb, n, hframe⟩ := foldl_ospfApplyLsa_frame parsedLsas (state, [])
    exact ⟨_, _, lsdb, n, he.trans hframe⟩

/-- A record that is not dead stays as it is. -/
theorem OspfState.call_neighbor {state : OspfState} {c : OspfCall} (h : c.NoHello)
    {i : Fin ospfMaxNeighbors} (halive : ∀ env, c = .deadTimer env →
      ospfNeighborDead env.now (state.neighbors i) = false) :
    (state.call c).neighbors i = state.neighbors i := by
  cases c with
  | deadTimer env =>
    show (if ospfNeighborDead env.now (state.neighbors i) then _ else _) = _
    rw [halive env rfl, if_neg Bool.false_ne_true]
  | enableIface iface cost =>
    obtain ⟨_, _, _, _, he⟩ := OspfState.call_eq state h fun _ => OspfCall.noConfusion
    rw [he]
  | receive env iface pkt =>
    obtain ⟨_, _, _, _, he⟩ := OspfState.call_eq state h fun _ => OspfCall.noConfusion
    rw [he]

/-- The id and the area stay, and so do the ids in the records. -/
theorem OspfState.call_ids (state : OspfState) {c : OspfCall} (h : c.NoHello) :
    (state.call c).routerId = state.routerId ∧ (state.call c).areaId = state.areaId ∧
      ∀ i, ((state.call c).neighbors i).valid = (state.neighbors i).valid ∧
        ((state.call c).neighbors i).routerId = (state.neighbors i).routerId := by
  cases c with
  | deadTimer env =>
    refine ⟨rfl, rfl, fun i => ?_⟩
    rcases ospfDeadTimer_neighbor env state i with he | he
    · exact ⟨(congrArg OspfNeighbor.valid he).trans rfl,
        (congrArg OspfNeighbor.routerId he).trans rfl⟩
    · exact ⟨(congrArg OspfNeighbor.valid he).trans rfl,
        (congrArg OspfNeighbor.routerId he).trans rfl⟩
  | enableIface iface cost =>
    obtain ⟨_, _, _, _, he⟩ := OspfState.call_eq state h fun _ => OspfCall.noConfusion
    rw [he]
    exact ⟨rfl, rfl, fun i => ⟨rfl, rfl⟩⟩
  | receive env iface pkt =>
    obtain ⟨_, _, _, _, he⟩ := OspfState.call_eq state h fun _ => OspfCall.noConfusion
    rw [he]
    exact ⟨rfl, rfl, fun i => ⟨rfl, rfl⟩⟩

/-! ## The invariant -/

/-- An instance among the routers: one record for each neighbor, and each neighbor is one of the
    other routers. -/
structure OspfLinks.NodeOk (L : OspfLinks t R) (r : R) (state : OspfState) : Prop where
  routerId : state.routerId = L.id r
  areaId : state.areaId = L.areaId
  distinct : nbrKeyed.Distinct state.neighbors
  known : ∀ i, (state.neighbors i).valid = true → ∃ s, s ≠ r ∧ L.id s = (state.neighbors i).routerId

section
variable {L : OspfLinks t R} {r s : R} {state : OspfState}

theorem OspfLinks.nodeOk_start (r : R) : L.NodeOk r (L.start r) where
  routerId := rfl
  areaId := rfl
  distinct i j hi := by cases hi
  known i hi := by cases hi

theorem OspfLinks.NodeOk.call (h : L.NodeOk r state) {c : OspfCall} (hc : c.NoHello) :
    L.NodeOk r (state.call c) := by
  obtain ⟨hid, harea, hnbr⟩ := OspfState.call_ids state hc
  refine ⟨hid.trans h.routerId, harea.trans h.areaId, fun i j hi hj hkey => ?_, fun i hi => ?_⟩
  · exact h.distinct i j ((hnbr i).1.symm.trans hi) ((hnbr j).1.symm.trans hj)
      ((hnbr i).2.symm.trans (hkey.trans (hnbr j).2))
  · rw [(hnbr i).2]
    exact h.known i ((hnbr i).1.symm.trans hi)

/-- With at most 33 routers there is a slot for every sender. -/
theorem OspfLinks.NodeOk.slot [Fintype R] (h : L.NodeOk s state) (hsize : Fintype.card R ≤ 33)
    (hne : r ≠ s) : ∃ i, (state.neighbors i).valid = false ∨ (state.neighbors i).routerId = L.id r := by
  classical
  by_contra hfull
  push Not at hfull
  have hknown : ∀ i, ∃ q, q ≠ s ∧ L.id q = (state.neighbors i).routerId := fun i =>
    h.known i (Bool.not_eq_false _ ▸ (hfull i).1)
  choose q hq using hknown
  have hinj : Function.Injective q := fun i j hij => by
    refine h.distinct i j (Bool.not_eq_false _ ▸ (hfull i).1) (Bool.not_eq_false _ ▸ (hfull j).1) ?_
    exact (hq i).2.symm.trans ((congrArg L.id hij).trans (hq j).2)
  have hsub : Finset.univ.image q ⊆ (Finset.univ.erase s).erase r := by
    intro x hx
    obtain ⟨i, -, rfl⟩ := Finset.mem_image.mp hx
    refine Finset.mem_erase.mpr ⟨fun e => (hfull i).2 ?_,
      Finset.mem_erase.mpr ⟨(hq i).1, Finset.mem_univ _⟩⟩
    rw [← (hq i).2, e]
  have hcard := Finset.card_le_card hsub
  rw [Finset.card_image_of_injective _ hinj, Finset.card_erase_of_mem
    (Finset.mem_erase.mpr ⟨hne, Finset.mem_univ r⟩), Finset.card_erase_of_mem (Finset.mem_univ s),
    Finset.card_univ, Finset.card_univ, Fintype.card_fin] at hcard
  have : ospfMaxNeighbors = 32 := rfl
  omega

/-- One router changes in a step, and the others do not. -/
theorem OspfLinks.NodeOk.update [DecidableEq R] {st : R → OspfState}
    (h : ∀ r, L.NodeOk r (st r)) (hs : L.NodeOk s state) (r : R) :
    L.NodeOk r (Function.update st s state r) := by
  by_cases hrs : r = s
  · subst hrs
    rwa [Function.update_self]
  · rw [Function.update_of_ne hrs]
    exact h r

end

/-- `p` has `q` as a neighbor that is not DOWN. -/
def OspfLinks.Knows (L : OspfLinks t R) (st : R → OspfState) (p q : R) : Prop :=
  ∃ x, x ≠ .down ∧ L.Record st p q x

theorem OspfLinks.Knows.holds {L : OspfLinks t R} {st : R → OspfState} {p q : R}
    (h : L.Knows st p q) : OspfHolds (st p) (L.iface p q) (L.id q) := by
  obtain ⟨x, hx, k, τ, hk⟩ := h
  exact ⟨k, by rw [hk], by rw [hk], by rw [hk], by rw [hk]; exact hx⟩

/-- A Hello under way: its frame is on the wire of a link. -/
structure OspfLinks.Sent (L : OspfLinks t R) (m : LinkHello R) : Prop where
  adj : L.graph.Adj m.src m.dst
  node : L.NodeOk m.src m.state
  prefixLen : (t.iface (L.iface m.src m.dst)).prefixLen ≤ 32
  onWire : ∃ net, OnWire (L.iface m.src m.dst) (L.iface m.dst m.src)
    (ospfHelloFrame t net m.state (L.iface m.src m.dst)) m.event

/-- The invariant of the routers and the Hellos. -/
structure OspfLinks.Ok (L : OspfLinks t R) (x : OspfExchange R) : Prop where
  nodes : ∀ r, L.NodeOk r (x.node r)
  sent : ∀ m ∈ x.sent, L.Sent m
  made : ∀ m ∈ x.sent, m.made < x.steps

/-- `q` knows `p`, and every Hello of `q` for `p` that was made after `n` steps or more says so. -/
structure OspfLinks.Heard (L : OspfLinks t R) (p q : R) (n : ℕ) (x : OspfExchange R) : Prop where
  knows : L.Knows x.node q p
  lists : ∀ m ∈ x.sent, m.src = q → m.dst = p → n ≤ m.made →
    OspfHolds m.state (L.iface q p) (L.id p)

/-! ## The steps -/

section
variable {L : OspfLinks t R} {x : OspfExchange R} {p q : R}

/-- What `ospf_send_hello` gets out is on the wire. -/
theorem OspfLinks.Good.sent {r s : R} {net : Net} {e : NetEvent} (hnode : L.NodeOk r (x.node r))
    (hgood : L.Good x (.send r s net e)) : L.Sent ⟨r, s, x.node r, e, x.steps⟩ := by
  obtain ⟨hadj, hsent, hmade⟩ := hgood
  obtain ⟨hplen, e', hwire, hcalls⟩ := (L.linked hadj).sent hsent
  rw [made_iff hcalls] at hmade
  have hevent : e = e' := by simpa using hmade
  exact ⟨hadj, hnode, hplen, net, hevent ▸ hwire⟩

variable [Fintype R] (hsize : Fintype.card R ≤ 33)
include hsize

/-- What the receiver has after a Hello. -/
theorem OspfLinks.Sent.received {m : LinkHello R} (h : L.Sent m) {state : OspfState}
    (hnode : L.NodeOk m.dst state) (net : Net) :
    ∃ i, (ospfDispatch t net m.event (L.fn m.dst) state).neighbors =
      Function.update state.neighbors i
        { routerId := L.id m.src, ipAddr := (t.iface (L.iface m.src m.dst)).ipAddr,
          state := if OspfHolds m.state (L.iface m.src m.dst) (L.id m.dst) then .full else .init,
          lastHelloTs := net.sched.now, iface := some (L.iface m.dst m.src), valid := true } ∧
      nbrKeyed.FreshBut state.neighbors i (L.id m.src) ∧
      ((state.neighbors i).valid = true → (state.neighbors i).routerId = L.id m.src) ∧
      (ospfDispatch t net m.event (L.fn m.dst) state).routerId = L.id m.dst ∧
      (ospfDispatch t net m.event (L.fn m.dst) state).areaId = L.areaId := by
  obtain ⟨hadj, hsrc, hplen, net₀, hwire⟩ := h
  have hlinked := L.linked hadj
  have hne : m.state.routerId ≠ state.routerId := by
    rw [hsrc.routerId, hnode.routerId]
    exact fun h => hadj.ne (L.ids h)
  have hslot : (ospfHelloSlot state m.state.routerId).isSome := by
    rw [hsrc.routerId]
    exact ospfHelloSlot_isSome (hnode.slot hsize hadj.ne)
  have haccepts : ospfAcceptsHello (ospfEnv t net) state (L.iface m.dst m.src)
      ⟨(t.iface (L.iface m.src m.dst)).ipAddr, ospfAllSpfRouters, ospfProtoNum,
        ospfHelloBytes (ospfEnv t net₀) m.state (L.iface m.src m.dst)⟩ = true :=
    (ospfHelloBytes_accepted hplen hlinked.prefixLen hne (hsrc.areaId.trans hnode.areaId.symm)
      hslot).accepts
  obtain ⟨i, hi, -, he⟩ := ospfReceive_of_accepts haccepts
  have hsender := getU32_ospfHelloBytes_sender (ospfEnv t net₀) m.state (L.iface m.src m.dst)
  obtain ⟨hfresh, hused⟩ := Keyed.slotFor_eq_some hnode.distinct hi
  rw [hsender, hsrc.routerId] at hfresh hused
  have hafter := (hlinked.dispatch hwire net state).trans he
  have hnbr : ospfHelloNeighbor (ospfEnv t net) state (L.iface m.dst m.src)
      (t.iface (L.iface m.src m.dst)).ipAddr
      (ospfHelloBytes (ospfEnv t net₀) m.state (L.iface m.src m.dst)) =
      { routerId := L.id m.src, ipAddr := (t.iface (L.iface m.src m.dst)).ipAddr,
        state := if OspfHolds m.state (L.iface m.src m.dst) (L.id m.dst) then .full else .init,
        lastHelloTs := net.sched.now, iface := some (L.iface m.dst m.src), valid := true } := by
    unfold ospfHelloNeighbor
    rw [hsender, hsrc.routerId, hnode.routerId]
    congr 1
    exact if_congr ((ospfHelloLists_helloBytes _ _ _ _).trans mem_ospfHelloNeighbors) rfl rfl
  refine ⟨i, ?_, hfresh, hused, (congrArg OspfState.routerId hafter).trans hnode.routerId,
    (congrArg OspfState.areaId hafter).trans hnode.areaId⟩
  rw [← hnbr]
  exact congrArg OspfState.neighbors hafter

/-- A Hello keeps the invariant of the router where it arrives. -/
theorem OspfLinks.Sent.nodeOk {m : LinkHello R} (h : L.Sent m) {state : OspfState}
    (hnode : L.NodeOk m.dst state) (net : Net) :
    L.NodeOk m.dst (ospfDispatch t net m.event (L.fn m.dst) state) := by
  obtain ⟨k, hnbrs, hfresh, -, hid, harea⟩ := h.received hsize hnode net
  refine ⟨hid, harea, ?_, fun i hi => ?_⟩
  · rw [hnbrs]
    exact hnode.distinct.store fun _ => hfresh
  · rw [hnbrs] at hi ⊢
    by_cases hik : i = k
    · subst hik
      rw [Function.update_self]
      exact ⟨m.src, h.adj.ne, rfl⟩
    · rw [Function.update_of_ne hik] at hi ⊢
      exact hnode.known i hi

variable [DecidableEq R] {i : OspfExchangeInput R}

/-- A step keeps the invariant. -/
theorem OspfLinks.Ok.step (h : L.Ok x) (hgood : L.Good x i) : L.Ok (L.step x i) := by
  have hmade : ∀ m ∈ x.sent, m.made < x.steps + 1 := fun m hm => Nat.lt_succ_of_lt (h.made m hm)
  cases i with
  | send r s net e =>
    refine ⟨h.nodes, fun m hm => ?_, fun m hm => ?_⟩
    · rcases List.mem_cons.mp hm with rfl | hm
      · exact OspfLinks.Good.sent (h.nodes r) hgood
      · exact h.sent m hm
    · rcases List.mem_cons.mp hm with rfl | hm
      · exact Nat.lt_succ_self _
      · exact hmade m hm
  | arrive m net =>
    exact ⟨OspfLinks.NodeOk.update h.nodes ((h.sent m hgood).nodeOk hsize (h.nodes m.dst) net),
      h.sent, hmade⟩
  | call r c => exact ⟨OspfLinks.NodeOk.update h.nodes ((h.nodes r).call hgood), h.sent, hmade⟩

/-- A Hello from `q` leaves a record at `p`: FULL if it lists `p`. -/
theorem OspfLinks.Ok.record_arrive (h : L.Ok x) {m : LinkHello R} (hm : m ∈ x.sent) (net : Net) :
    L.Record (L.step x (.arrive m net)).node m.dst m.src
      (if OspfHolds m.state (L.iface m.src m.dst) (L.id m.dst) then .full else .init) := by
  obtain ⟨k, hnbrs, -⟩ := (h.sent m hm).received hsize (h.nodes m.dst) net
  refine ⟨k, net.sched.now, ?_⟩
  show (Function.update x.node m.dst (ospfDispatch t net m.event (L.fn m.dst) (x.node m.dst))
    m.dst).neighbors k = _
  rw [Function.update_self, hnbrs, Function.update_self]

/-- Every other step leaves the record of `q` at `p` alone, unless a scan finds it dead. -/
theorem OspfLinks.Ok.record_keep (h : L.Ok x) (hgood : L.Good x i) (halive : L.Alive p q x i)
    (hi : ¬ i.Brings q p 0) {y : OspfNbrState} (hrec : L.Record x.node p q y) :
    L.Record (L.step x i).node p q y := by
  obtain ⟨k, τ, hk⟩ := hrec
  refine ⟨k, τ, ?_⟩
  rw [← hk]
  cases i with
  | send r s net e => rfl
  | call s c =>
    show (Function.update x.node s ((x.node s).call c) p).neighbors k = _
    by_cases hps : p = s
    · subst hps
      rw [Function.update_self]
      refine OspfState.call_neighbor hgood fun env hc => ?_
      subst hc
      exact halive rfl k (by rw [hk])
    · rw [Function.update_of_ne hps]
  | arrive m net =>
    show (Function.update x.node m.dst (ospfDispatch t net m.event (L.fn m.dst) (x.node m.dst))
      p).neighbors k = _
    by_cases hps : p = m.dst
    · subst hps
      rw [Function.update_self]
      obtain ⟨j, hnbrs, -, hused, -⟩ := (h.sent m hgood).received hsize (h.nodes m.dst) net
      have hother : j ≠ k := by
        rintro rfl
        rw [hk] at hused
        exact hi ⟨(L.ids (hused rfl)).symm, rfl, Nat.zero_le _⟩
      rw [hnbrs, Function.update_of_ne hother.symm]
    · rw [Function.update_of_ne hps]

/-- A router knows who sent it a Hello, and knows it on. -/
theorem OspfLinks.Ok.knows_step (h : L.Ok x) (hgood : L.Good x i) (halive : L.Alive p q x i)
    (hi : L.Knows x.node p q ∨ i.Brings q p 0) : L.Knows (L.step x i).node p q := by
  by_cases hhello : i.Brings q p 0
  · obtain ⟨m, net, rfl, rfl, rfl, -⟩ := hhello.arrives
    refine ⟨_, ?_, h.record_arrive hsize hgood net⟩
    split
    · exact OspfNbrState.noConfusion
    · exact OspfNbrState.noConfusion
  · obtain ⟨y, hy, hrec⟩ := hi.resolve_right hhello
    exact ⟨y, hy, h.record_keep hsize hgood halive hhello hrec⟩

/-- What `q` knows it lists in every Hello from then on. -/
theorem OspfLinks.Heard.step {n : ℕ} (hheard : L.Heard p q n x) (h : L.Ok x) (hgood : L.Good x i)
    (halive : L.Alive q p x i) : L.Heard p q n (L.step x i) := by
  refine ⟨h.knows_step hsize hgood halive (.inl hheard.knows), ?_⟩
  cases i with
  | send r s net e =>
    intro m hm hsrc hdst hn
    rcases List.mem_cons.mp hm with rfl | hm
    · obtain rfl : r = q := hsrc
      obtain rfl : s = p := hdst
      exact hheard.knows.holds
    · exact hheard.lists m hm hsrc hdst hn
  | arrive m net => exact hheard.lists
  | call r c => exact hheard.lists

/-- So it is after a Hello of `p` arrived at `q`. -/
theorem OspfLinks.Ok.heard (h : L.Ok x) (hgood : L.Good x i) (halive : L.Alive q p x i)
    {n : ℕ} (hi : i.Brings p q n) : L.Heard p q (x.steps + 1) (L.step x i) := by
  refine ⟨h.knows_step hsize hgood halive (.inr hi.any), ?_⟩
  obtain ⟨m, net, rfl, -⟩ := hi.arrives
  intro m' hm' _ _ hn
  exact absurd (h.made m' hm') (by omega)

/-- A Hello that lists `p` makes its sender FULL there, and no other Hello of the sender comes
    that does not. -/
theorem OspfLinks.Heard.full_step {n : ℕ} (hheard : L.Heard p q n x) (h : L.Ok x)
    (hgood : L.Good x i) (halive : L.Alive p q x i) (hfresh : i.Fresh q p n)
    (hi : L.Record x.node p q .full ∨ i.Brings q p n) : L.Record (L.step x i).node p q .full := by
  by_cases hhello : i.Brings q p 0
  · obtain ⟨m, net, rfl, rfl, rfl, -⟩ := hhello.arrives
    have hrec := h.record_arrive hsize hgood net
    rwa [if_pos (hheard.lists m hgood rfl rfl (hfresh rfl rfl))] at hrec
  · exact h.record_keep hsize hgood halive hhello (hi.resolve_right fun hi => hhello hi.any)

/-! ## Runs -/

/-- `p` has `q` as its live neighbor, FULL, with the right address on the right interface. -/
def OspfLinks.Full (L : OspfLinks t R) (st : R → OspfState) (p q : R) : Prop :=
  ∃ k, ospfLiveNeighbor (st p) (L.id q) = some k ∧ ((st p).neighbors k).state = .full ∧
    ((st p).neighbors k).ipAddr = (t.iface (L.iface q p)).ipAddr ∧
    ((st p).neighbors k).iface = some (L.iface p q)

omit [Fintype R] [DecidableEq R] hsize in
theorem OspfLinks.NodeOk.full {st : R → OspfState} (h : L.NodeOk p (st p))
    (hrec : L.Record st p q .full) : L.Full st p q := by
  obtain ⟨k, τ, hk⟩ := hrec
  have hvalid : ((st p).neighbors k).valid = true := by rw [hk]
  have hid : ((st p).neighbors k).routerId = L.id q := by rw [hk]
  have hup : ((st p).neighbors k).state ≠ .down := by rw [hk]; exact OspfNbrState.noConfusion
  obtain ⟨j, hj⟩ := ospfLiveNeighbor_isSome hvalid hid hup (by rw [hk]; rfl)
  obtain ⟨hjv, hjid, -⟩ := ospfLiveNeighbor_eq_some hj
  obtain rfl : j = k := h.distinct j k hjv hvalid (hjid.trans hid.symm)
  exact ⟨j, hj, by rw [hk], by rw [hk], by rw [hk]⟩

/-- Every step is one that can happen, and no scan finds `p` or `q` dead at the other. -/
def OspfLinks.Orderly (L : OspfLinks t R) (p q : R) : List (OspfExchangeInput R) → Prop :=
  Guarded L.step (fun x i => L.Good x i ∧ L.Alive p q x i ∧ L.Alive q p x i) L.quiet

omit [Fintype R] hsize in
theorem OspfLinks.Orderly.symm {is : List (OspfExchangeInput R)} (h : L.Orderly p q is) :
    L.Orderly q p is :=
  Guarded.mono (fun _ _ hg => ⟨hg.1, hg.2.symm⟩) h

omit [Fintype R] hsize in
theorem OspfLinks.run_steps (is : List (OspfExchangeInput R)) :
    ∀ x, (run L.step x is).steps = x.steps + is.length := by
  induction is with
  | nil => exact fun _ => rfl
  | cons i is ih =>
    intro x
    have hone : (L.step x i).steps = x.steps + 1 := by cases i <;> rfl
    rw [run_cons, ih, hone, List.length_cons]
    omega

theorem OspfLinks.Orderly.ok {is : List (OspfExchangeInput R)} (h : L.Orderly p q is) :
    L.Ok (run L.step L.quiet is) :=
  guarded_invariant L.Ok (fun _ _ hg h => h.step hsize hg.1) is L.quiet h
    ⟨L.nodeOk_start, fun _ hm => absurd hm List.not_mem_nil, fun _ hm => absurd hm List.not_mem_nil⟩

/-- A Hello of `p` arrives at `q`, one that `q` made after this arrives at `p`, and after this none
    that `q` made before: then `p` has `q` as a FULL neighbor. -/
theorem OspfLinks.answered {a b c : List (OspfExchangeInput R)} {i₁ i₂ : OspfExchangeInput R}
    (hrun : L.Orderly p q (a ++ i₁ :: (b ++ i₂ :: c))) (h₁ : i₁.Brings p q 0)
    (h₂ : i₂.Brings q p (a.length + 1)) (hfresh : ∀ i ∈ c, i.Fresh q p (a.length + 1)) :
    L.Full (run L.step L.quiet (a ++ i₁ :: (b ++ i₂ :: c))).node p q := by
  obtain ⟨hgood, hstep₁, hrest⟩ := (guarded_append a _ _).mp hrun
  obtain ⟨hb, hstep₂, hc⟩ := (guarded_append b _ _).mp hrest
  have hok : L.Ok (run L.step L.quiet a) := OspfLinks.Orderly.ok hsize hgood
  have hheard := hok.heard hsize hstep₁.1 hstep₁.2.2 h₁
  rw [L.run_steps, show L.quiet.steps = 0 from rfl, Nat.zero_add] at hheard
  have hone : ∀ x i, L.Good x i ∧ L.Alive p q x i ∧ L.Alive q p x i →
      L.Ok x ∧ L.Heard p q (a.length + 1) x →
      L.Ok (L.step x i) ∧ L.Heard p q (a.length + 1) (L.step x i) := fun x i hg h =>
    ⟨h.1.step hsize hg.1, h.2.step hsize h.1 hg.1 hg.2.2⟩
  have hbefore := guarded_invariant _ hone b _ hb ⟨hok.step hsize hstep₁.1, hheard⟩
  have hfull := hbefore.2.full_step hsize hbefore.1 hstep₂.1 hstep₂.2.1 h₂.fresh (.inr h₂)
  have hend := guarded_invariant_mem
    (fun x => (L.Ok x ∧ L.Heard p q (a.length + 1) x) ∧ L.Record x.node p q .full) c
    (fun x i hi hg h => ⟨hone x i hg h.1,
      h.1.2.full_step hsize h.1.1 hg.1 hg.2.1 (hfresh i hi) (.inl h.2)⟩)
    _ hc ⟨hone _ _ hstep₂ hbefore, hfull⟩
  rw [run_append, run_cons, run_append, run_cons]
  exact (hend.1.1.nodes p).full hend.2

/-- Of a run of up to 33 routers, with these three Hellos between `p` and `q`, each made after the
    one before had arrived, and anything in between: each has the other as a FULL neighbor in the
    end, if after the answer no Hello that `q` made before the first one arrived comes to `p`, after
    the third none that `p` made before the answer arrived comes to `q`, and no scan finds one of
    them dead. -/
theorem ospfExchange_full {a b c d : List (OspfExchangeInput R)} {i₁ i₂ i₃ : OspfExchangeInput R}
    (hrun : L.Orderly p q (a ++ i₁ :: (b ++ i₂ :: (c ++ i₃ :: d)))) (h₁ : i₁.Brings p q 0)
    (h₂ : i₂.Brings q p (a.length + 1)) (h₃ : i₃.Brings p q (a.length + 1 + b.length + 1))
    (hqp : ∀ i ∈ c ++ i₃ :: d, i.Fresh q p (a.length + 1))
    (hpq : ∀ i ∈ d, i.Fresh p q (a.length + 1 + b.length + 1)) :
    let x := run L.step L.quiet (a ++ i₁ :: (b ++ i₂ :: (c ++ i₃ :: d)))
    L.Full x.node p q ∧ L.Full x.node q p := by
  refine ⟨OspfLinks.answered hsize hrun h₁ h₂ hqp, ?_⟩
  -- the third Hello answers the second one as the second answers the first
  have hsplit : a ++ i₁ :: (b ++ i₂ :: (c ++ i₃ :: d)) =
      (a ++ i₁ :: b) ++ i₂ :: (c ++ i₃ :: d) := by simp
  have hlen : (a ++ i₁ :: b).length + 1 = a.length + 1 + b.length + 1 := by
    rw [List.length_append, List.length_cons]
    omega
  rw [hsplit] at hrun ⊢
  rw [← hlen] at h₃ hpq
  exact OspfLinks.answered hsize hrun.symm h₂.any h₃ hpq

end

/-- Two routers on a link. -/
def exampleOspfLinks : OspfLinks exampleOspfRouters Bool where
  graph := ⊤
  id := exampleHelloIds
  areaId := 0
  fn r := if r then 1 else 0
  iface r _ := if r then 1 else 0
  ids := by decide
  linked {r s} h := by
    cases r with
    | false =>
      obtain rfl : s = true := Bool.eq_true_of_not_eq_false fun e => h e.symm
      exact ⟨by decide, by decide +kernel, ⟨⟨0, rfl, rfl, rfl⟩, rfl⟩, rfl, rfl, 1, rfl, rfl⟩
    | true =>
      obtain rfl : s = false := Bool.eq_false_of_not_eq_true fun e => h e.symm
      exact ⟨by decide, by decide +kernel, ⟨⟨0, rfl, rfl, rfl⟩, rfl⟩, rfl, rfl, 0, rfl, rfl⟩

theorem groupSends_exampleOspfLinks (r : Bool) :
    GroupSends exampleOspfRouters (exampleOspfLinks.iface r (!r)) := by
  cases r with
  | false => exact ⟨0, by decide +kernel, rfl, rfl, 1, ⟨0, rfl, rfl, rfl⟩, rfl⟩
  | true => exact ⟨1, by decide +kernel, rfl, rfl, 0, ⟨0, rfl, rfl, rfl⟩, rfl⟩

/-- Each of them can always send its Hello. -/
theorem good_exampleOspfLinks (x : OspfExchange Bool) (r : Bool) :
    ∃ e, exampleOspfLinks.Good x (.send r (!r) netInit e) := by
  have hadj : exampleOspfLinks.graph.Adj r (!r) := (Bool.not_ne_self r).symm
  have hsends := groupSends_exampleOspfLinks r
  have hplen : ¬ (ospfEnv exampleOspfRouters netInit).prefixLen
      (exampleOspfLinks.iface r (!r)) > 32 := (by decide : ¬ (24 : UInt8) > 32)
  have hsent : (ospfSendHelloOn exampleOspfRouters netInit (x.node r)
      (exampleOspfLinks.iface r (!r))).2 = 0 := by
    rw [ospfSendHelloOn_eq_zero_iff]
    unfold ospfSendHello
    rw [if_neg hplen]
    exact if_pos ((ospfEnv_ipOk_iff _ _ _ _).mpr hsends)
  obtain ⟨-, e, -, hcalls⟩ := (exampleOspfLinks.linked hadj).sent hsent
  exact ⟨e, hadj, hsent, (made_iff hcalls _).mpr (by simp)⟩

/-- The three Hellos, with the first one arriving again in between. -/
theorem ospfExchange_full_exampleOspfLinks :
    ∃ inputs, inputs.length = 7 ∧
      exampleOspfLinks.Full (run exampleOspfLinks.step exampleOspfLinks.quiet inputs).node
        false true ∧
      exampleOspfLinks.Full (run exampleOspfLinks.step exampleOspfLinks.quiet inputs).node
        true false := by
  let step := exampleOspfLinks.step
  let x₀ := exampleOspfLinks.quiet
  obtain ⟨e₁, h₁⟩ := good_exampleOspfLinks x₀ false
  let m₁ : LinkHello Bool := ⟨false, true, x₀.node false, e₁, 0⟩
  let x₂ := run step x₀ [.send false true netInit e₁, .arrive m₁ netInit]
  obtain ⟨e₂, h₂⟩ := good_exampleOspfLinks x₂ true
  let m₂ : LinkHello Bool := ⟨true, false, x₂.node true, e₂, 2⟩
  let x₅ := run step x₂ [.send true false netInit e₂, .arrive m₂ netInit, .arrive m₁ netInit]
  obtain ⟨e₃, h₃⟩ := good_exampleOspfLinks x₅ false
  let m₃ : LinkHello Bool := ⟨false, true, x₅.node false, e₃, 5⟩
  have horderly : exampleOspfLinks.Orderly false true
      ([.send false true netInit e₁] ++ .arrive m₁ netInit :: ([.send true false netInit e₂] ++
        .arrive m₂ netInit :: ([.arrive m₁ netInit, .send false true netInit e₃] ++
          .arrive m₃ netInit :: []))) := by
    refine ⟨⟨h₁, trivial, trivial⟩, ⟨?_, trivial, trivial⟩, ⟨h₂, trivial, trivial⟩,
      ⟨?_, trivial, trivial⟩, ⟨?_, trivial, trivial⟩, ⟨h₃, trivial, trivial⟩,
      ⟨?_, trivial, trivial⟩, trivial⟩
    · exact List.mem_cons_self
    · exact List.mem_cons_self
    · exact List.mem_cons_of_mem _ List.mem_cons_self
    · exact List.mem_cons_self
  have hfresh : ∀ i ∈ [.arrive m₁ netInit, .send false true netInit e₃] ++
      [OspfExchangeInput.arrive m₃ netInit], i.Fresh true false 2 := by
    intro i hi
    simp only [List.cons_append, List.nil_append, List.mem_cons, List.not_mem_nil, or_false] at hi
    rcases hi with rfl | rfl | rfl
    · exact Bool.noConfusion
    · exact trivial
    · exact Bool.noConfusion
  exact ⟨_, rfl, ospfExchange_full (by decide) horderly ⟨rfl, rfl, Nat.zero_le _⟩
    ⟨rfl, rfl, le_rfl⟩ ⟨rfl, rfl, (by decide : 4 ≤ 5)⟩ hfresh fun i hi => absurd hi List.not_mem_nil⟩

end FrameRunner
