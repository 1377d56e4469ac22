import FrameRunner.Network.Ownership
import FrameRunner.Ospf.HelloDelivery

/-!
# Flooding an LSA (`protocols/ospf.c`)

`ospf_flood_lsa` goes through the enabled interfaces in the order of their slots, builds an
LSU for each but `except_iface`, and returns `-1` at the first one that `ip_output` refuses.
`ip_output` is given the address of the interface, not the interface, and sends on the first
one that has the address.

Main result:
* `ospfFloodLsa_stops`: where no two interfaces have the same address, one LSU leaves on each
  interface before the first that cannot send, and none on the others.
-/

namespace FrameRunner

open FrameRunner.Lib

/-- The interface of a slot on which `ospf_flood_lsa` sends (lines 640–656). -/
def ospfFloodSlot (state : OspfState) (exceptIface : IfaceRef) (i : Fin ospfMaxIfaces) :
    Option IfaceRef :=
  match (state.ifaces i).valid, (state.ifaces i).iface with
  | true, some outIface => if outIface = exceptIface then none else some outIface
  | _, _ => none

/-- The enabled interfaces but `except_iface`, in the order of their slots. -/
def ospfFloodIfaces (state : OspfState) (exceptIface : IfaceRef) : List IfaceRef :=
  (List.finRange ospfMaxIfaces).filterMap (ospfFloodSlot state exceptIface)

/-- Sending is possible on the interface: it is up, and its link takes frames. -/
def IfaceSends (t : Topology) (iface : IfaceRef) : Prop :=
  (t.iface iface).up = true ∧ LinkTakes t iface

instance (t : Topology) (iface : IfaceRef) : Decidable (IfaceSends t iface) :=
  decidable_of_iff ((t.iface iface).up = true ∧ (t.iface iface).errDisabled = false ∧
      ∃ l ∈ (t.iface iface).link, (t.link l).up = true ∧
        ∃ dst ∈ linkGetOtherInterface (t.link l) iface, (t.iface dst).up = true)
    ⟨fun ⟨hup, herr, l, hl, hlup, dst, hdst, hdup⟩ => ⟨hup, herr, dst, ⟨l, hl, hlup, hdst⟩, hdup⟩,
      fun ⟨hup, herr, dst, ⟨l, hl, hlup, hdst⟩, hdup⟩ => ⟨hup, herr, l, hl, hlup, dst, hdst, hdup⟩⟩

/-- A packet for a group gets on the wire from the address of the interface: sending is possible
    on the interface that `ip_output` finds for the address. -/
def GroupSends (t : Topology) (iface : IfaceRef) : Prop :=
  ∃ i, ipFindSourceIface t (t.iface iface).ipAddr = some i ∧ IfaceSends t i

/-- If no interface before it has its address, this is the interface itself. -/
theorem groupSends_iff {t : Topology} {iface : IfaceRef}
    (hsource : ipFindSourceIface t (t.iface iface).ipAddr = some iface) :
    GroupSends t iface ↔ IfaceSends t iface := by
  refine ⟨?_, fun h => ⟨iface, hsource, h⟩⟩
  rintro ⟨i, hi, h⟩
  rwa [Option.some.inj (hsource.symm.trans hi)]

/-! ## Where sending is possible -/

theorem ipOutput_group_iff (t : Topology) (net : Net) {iface : IfaceRef} {dstIp : UInt32}
    {protocol : UInt8} {payload : Packet} (hgroup : ipIsMulticast dstIp = true)
    (hdata : payload.data = pktHeadroom) :
    0 ≤ (ipOutput t net (t.iface iface).ipAddr dstIp protocol payload).2.1 ↔
      GroupSends t iface := by
  have hneg : ¬ (0 : ℤ) ≤ -1 := by decide
  obtain ⟨dstMac, hmac⟩ : ∃ dstMac, ipMulticastToMac dstIp = some dstMac := by
    unfold ipMulticastToMac
    rw [hgroup]
    exact ⟨_, rfl⟩
  obtain ⟨packet, hprepend, hroom⟩ :=
    ipPrependHeader_headroom (t.iface iface).ipAddr dstIp protocol hdata
  unfold ipOutput GroupSends
  dsimp only
  cases hfind : ipFindSourceIface t (t.iface iface).ipAddr with
  | none =>
    refine iff_of_false hneg ?_
    rintro ⟨i, hi, -⟩
    cases hi
  | some i =>
    cases hup : (t.iface i).up with
    | false =>
      simp only [hup, Bool.not_false, if_true]
      refine iff_of_false hneg ?_
      rintro ⟨j, hj, hjup, -⟩
      cases hj
      rw [hup] at hjup
      cases hjup
    | true =>
      simp only [hup, Bool.not_true, Bool.false_eq_true, if_false, hgroup, if_true, hmac, hprepend]
      rcases ethernetSend_status t ((net.record (.ipOutput (t.iface iface).ipAddr dstIp protocol
          payload.bytes)).txBytes i packet.len) i dstMac ethertypeIpv4 hroom with
        ⟨htakes, hres⟩ | ⟨hnot, hres⟩
      · rw [hres]
        exact iff_of_true (by decide) ⟨i, rfl, hup, htakes⟩
      · rw [hres]
        refine iff_of_false hneg ?_
        rintro ⟨j, hj, -, htakes⟩
        cases hj
        exact hnot htakes

theorem ospfEnv_ipOk_iff (t : Topology) (net : Net) (iface : IfaceRef) (data : List UInt8) :
    (ospfEnv t net).ipOk (ospfDatagram (ospfEnv t net) iface data) = true ↔
      GroupSends t iface :=
  decide_eq_true_iff.trans (ipOutput_group_iff t net.alloc
    (show ipIsMulticast ospfAllSpfRouters = true by decide) (data_packetFill _ _))

/-! ## The interfaces -/

theorem ospfFloodSlot_eq_some {state : OspfState} {exceptIface iface : IfaceRef}
    {i : Fin ospfMaxIfaces} : ospfFloodSlot state exceptIface i = some iface ↔
      (state.ifaces i).valid = true ∧ (state.ifaces i).iface = some iface ∧
        iface ≠ exceptIface := by
  unfold ospfFloodSlot
  split
  · rename_i outIface hv hi
    rw [hv, hi]
    split
    · rename_i hexcept
      refine iff_of_false (fun h => by cases h) fun ⟨_, h, hne⟩ => ?_
      exact hne ((Option.some.inj h).symm.trans hexcept)
    · rename_i hexcept
      refine ⟨fun h => ⟨rfl, h, ?_⟩, fun h => h.2.1⟩
      rw [← Option.some.inj h]
      exact hexcept
  · rename_i hnot
    refine iff_of_false (fun h => by cases h) fun h => ?_
    exact hnot iface h.1 h.2.1

theorem mem_ospfFloodIfaces {state : OspfState} {exceptIface iface : IfaceRef} :
    iface ∈ ospfFloodIfaces state exceptIface ↔ iface ≠ exceptIface ∧
      ∃ i, (state.ifaces i).valid = true ∧ (state.ifaces i).iface = some iface := by
  unfold ospfFloodIfaces
  rw [List.mem_filterMap]
  simp only [List.mem_finRange, true_and, ospfFloodSlot_eq_some]
  constructor
  · rintro ⟨i, hv, hi, hne⟩
    exact ⟨hne, i, hv, hi⟩
  · rintro ⟨hne, i, hv, hi⟩
    exact ⟨i, hv, hi, hne⟩

/-- How a slot of the interfaces is read. -/
def ifaceKeyed : Keyed OspfIface (Option IfaceRef) UInt16 where
  used slot := slot.valid
  key slot := slot.iface
  val slot := slot.cost

theorem ospfEnableIface_distinct {state : OspfState} (h : ifaceKeyed.Distinct state.ifaces)
    (iface : IfaceRef) (cost : UInt16) :
    ifaceKeyed.Distinct (ospfEnableIface state iface cost).1.ifaces := by
  unfold ospfEnableIface
  split
  · exact h
  split
  · rename_i i hi
    have hi := (Fin.find?_eq_some_iff.mp hi).1
    simp only [Bool.and_eq_true] at hi
    exact h.store fun _ => h.freshBut hi.2 rfl
  · rename_i hnone
    split
    · exact h
    split
    · exact h
    · rename_i i hi
      refine h.store fun _ j hji hj hkey => ?_
      have hfound : (decide ((state.ifaces j).iface = some iface) && (state.ifaces j).valid) =
          true := by
        rw [Bool.and_eq_true, decide_eq_true_eq]
        exact ⟨hkey, hj⟩
      rw [Fin.find?_eq_none_iff.mp hnone j] at hfound
      cases hfound

theorem ospfStep_distinct {s : OspfHeard} (h : ifaceKeyed.Distinct s.state.ifaces)
    (call : OspfCall) : ifaceKeyed.Distinct (ospfStep s call).state.ifaces := by
  cases call with
  | enableIface iface cost => exact ospfEnableIface_distinct h iface cost
  | deadTimer env => exact h
  | receive env iface pkt =>
    show ifaceKeyed.Distinct (ospfReceive env s.state iface pkt).1.ifaces
    cases haccepts : ospfAcceptsHello env s.state iface pkt with
    | true =>
      obtain ⟨i, -, -, he⟩ := ospfReceive_of_accepts haccepts
      rw [he]
      exact h
    | false =>
      obtain ⟨parsedLsas, he⟩ := ospfReceive_of_not_accepts haccepts
      obtain ⟨lsdb, n, hframe⟩ := foldl_ospfApplyLsa_frame parsedLsas (s.state, [])
      rw [he, hframe]
      exact h

/-- No interface is enabled in two slots. -/
theorem OspfReachable.ifaces {state : OspfState} (h : OspfReachable state) :
    ifaceKeyed.Distinct state.ifaces := by
  obtain ⟨routerId, areaId, calls, rfl⟩ := h
  refine run_invariant (fun s : OspfHeard => ifaceKeyed.Distinct s.state.ifaces)
    (fun _ call h => ospfStep_distinct h call) calls _ ?_
  intro i j hi
  cases hi

theorem nodup_ospfFloodIfaces {state : OspfState} (h : ifaceKeyed.Distinct state.ifaces)
    (exceptIface : IfaceRef) : (ospfFloodIfaces state exceptIface).Nodup := by
  refine (List.nodup_finRange _).filterMap fun i j iface hi hj => ?_
  obtain ⟨hv, hi, -⟩ := ospfFloodSlot_eq_some.mp hi
  obtain ⟨hv', hj, -⟩ := ospfFloodSlot_eq_some.mp hj
  exact h i j hv hv' (hi.trans hj.symm)

/-! ## Result -/

theorem ospfFloodLsa_eq (env : OspfEnv) (state : OspfState) (lsa : OspfLsaEntry)
    (exceptIface : IfaceRef) :
    let lsu iface := ospfDatagram env iface (ospfLsuBytes state lsa)
    ospfFloodLsa env state lsa exceptIface =
      (((ospfFloodIfaces state exceptIface).takeWhile fun iface => env.ipOk (lsu iface)).map lsu,
        (ospfFloodIfaces state exceptIface).any fun iface => !env.ipOk (lsu iface)) := by
  intro lsu
  unfold ospfFloodLsa ospfFloodIfaces
  refine Slots.forEach_until (fun acc i hskip => ?_) fun sent i iface hi => ?_
  · unfold ospfFloodIface
    dsimp only
    split
    · rename_i outIface hacc hv hi
      split
      · rfl
      · rename_i hexcept
        rcases hskip with hstop | hnone
        · rw [hacc] at hstop
          cases hstop
        · rw [ospfFloodSlot_eq_some.mpr ⟨hv, hi, hexcept⟩] at hnone
          cases hnone
    · rfl
  · obtain ⟨hv, hi, hexcept⟩ := ospfFloodSlot_eq_some.mp hi
    unfold ospfFloodIface
    simp only [hv, hi, if_neg hexcept]
    rfl

/-! ## On the wire -/

/-- The LSU on one interface (lines 660–717); the flag is the early `return -1`. -/
def ospfFloodSend (t : Topology) (state : OspfState) (lsa : OspfLsaEntry) (net : Net)
    (outIface : IfaceRef) : Net × Bool :=
  let pkt := packetFill (t.memory net.allocs) (ospfLsuBytes state lsa)
  let (net, res, _) := ipOutput t net.alloc (t.iface outIface).ipAddr ospfAllSpfRouters
    ospfProtoNum pkt
  (net, decide (res < 0))

/-- One slot of the interfaces in `ospf_flood_lsa` (lines 640–719). -/
def ospfFloodIfaceOn (t : Topology) (state : OspfState) (lsa : OspfLsaEntry)
    (exceptIface : IfaceRef) (acc : Net × Bool) (i : Fin ospfMaxIfaces) : Net × Bool :=
  let slot := state.ifaces i
  match acc.2, slot.valid, slot.iface with
  | false, true, some outIface =>
    if outIface = exceptIface then acc else ospfFloodSend t state lsa acc.1 outIface
  | _, _, _ => acc

/-- `ospf_flood_lsa` (lines 624–722) with what it does to the network, and its result. -/
def ospfFloodLsaOn (t : Topology) (net : Net) (state : OspfState) (lsa : OspfLsaEntry)
    (exceptIface : IfaceRef) : Net × ℤ :=
  let r := Slots.forEach ospfMaxIfaces (ospfFloodIfaceOn t state lsa exceptIface) (net, false)
  (r.1, if r.2 then -1 else 0)

/-- The events that these calls put on the scheduler, in order. -/
def scheduled (calls : List NetCall) : List NetEvent :=
  calls.filterMap fun
    | .schedule e => some e
    | _ => none

/-- What has been put on the wire between two states of the network. -/
def egress (net net' : Net) : List NetEvent := scheduled (net'.calls.drop net.calls.length)

/-- The frame of an LSU with the LSA that leaves on the interface. -/
def ospfLsuFrame (t : Topology) (state : OspfState) (lsa : OspfLsaEntry) (iface : IfaceRef) :
    List UInt8 :=
  let payload := ospfLsuBytes state lsa
  ethernetHeader ospfAllSpfRoutersMac (t.iface iface).mac ethertypeIpv4 ++
    ((ipSentHeader (t.iface iface).ipAddr ospfAllSpfRouters ospfProtoNum payload.length).bytes ++
      payload)

/-- The event is an LSU with the LSA on its way from the interface to the other end of its
    link. -/
def LsuLeaves (t : Topology) (state : OspfState) (lsa : OspfLsaEntry) (iface : IfaceRef)
    (e : NetEvent) : Prop :=
  ∃ dst, LinksTo t iface dst ∧ OnWire iface dst (ospfLsuFrame t state lsa iface) e

/-- Each enabled interface is in the topology, and no other interface has its address. -/
def OspfAddressed (t : Topology) (state : OspfState) : Prop :=
  ∀ i x, (state.ifaces i).valid = true → (state.ifaces i).iface = some x →
    x ∈ t.devices.flatten ∧ ∀ j ∈ t.devices.flatten, (t.iface j).ipAddr = (t.iface x).ipAddr → j = x

theorem scheduled_append (cs cs' : List NetCall) :
    scheduled (cs ++ cs') = scheduled cs ++ scheduled cs' := List.filterMap_append ..

theorem egress_eq {net net' : Net} {more : List NetCall} (h : net'.calls = net.calls ++ more) :
    egress net net' = scheduled more := by
  unfold egress
  rw [h, List.drop_left]

section
variable {t : Topology} {state : OspfState} {lsa : OspfLsaEntry}

theorem OspfAddressed.source (h : OspfAddressed t state) {exceptIface x : IfaceRef}
    (hx : x ∈ ospfFloodIfaces state exceptIface) :
    ipFindSourceIface t (t.iface x).ipAddr = some x := by
  obtain ⟨-, i, hv, hi⟩ := mem_ospfFloodIfaces.mp hx
  obtain ⟨hlisted, hunique⟩ := h i x hv hi
  exact ipFindSourceIface_of_unique hlisted hunique

/-- On one interface: the LSU leaves on it, or nothing leaves. -/
theorem ospfFloodSend_cases (state : OspfState) (lsa : OspfLsaEntry) (net : Net) {x : IfaceRef}
    (hsource : ipFindSourceIface t (t.iface x).ipAddr = some x) :
    let r := ospfFloodSend t state lsa net x
    (IfaceSends t x ∧ r.2 = false ∧ ∃ e, LsuLeaves t state lsa x e ∧ ∃ c,
        scheduled [c] = [] ∧ r.1.calls = net.calls ++ [c, .schedule e]) ∨
      (¬ IfaceSends t x ∧ r.2 = true ∧ ∃ c, scheduled [c] = [] ∧
        r.1.calls = net.calls ++ [c]) := by
  intro r
  have hflag : r.2 = decide ((ipOutput t net.alloc (t.iface x).ipAddr ospfAllSpfRouters
      ospfProtoNum (packetFill (t.memory net.allocs) (ospfLsuBytes state lsa))).2.1 < 0) := rfl
  have hgroup : 0 ≤ (ipOutput t net.alloc (t.iface x).ipAddr ospfAllSpfRouters ospfProtoNum
      (packetFill (t.memory net.allocs) (ospfLsuBytes state lsa))).2.1 ↔ IfaceSends t x :=
    (ipOutput_group_iff t net.alloc (show ipIsMulticast ospfAllSpfRouters = true by decide)
      (data_packetFill _ _)).trans (groupSends_iff hsource)
  rcases ipOutput_multicast_cases t net.alloc (t.iface x).ipAddr ospfProtoNum
      (packetFill (t.memory net.allocs) (ospfLsuBytes state lsa))
      ipMulticastToMac_ospfAllSpfRouters with
    ⟨hres, hcalls⟩ | ⟨hres, y, dst, e, hy, hlinks, hwire, hcalls⟩
  · rw [hres] at hgroup
    refine .inr ⟨fun h => absurd (hgroup.mpr h) (by decide), ?_, _, rfl, hcalls⟩
    rw [hflag, hres]
    rfl
  · rw [hres] at hgroup
    obtain rfl := Option.some.inj (hsource.symm.trans hy)
    rw [bytes_packetFill, len_packetFill] at hwire
    refine .inl ⟨hgroup.mp (by decide), ?_, e, ⟨dst, hlinks, hwire⟩, _, rfl, hcalls⟩
    rw [hflag, hres]
    rfl

/-- The next interface of the loop. -/
def ospfFloodNext (t : Topology) (state : OspfState) (lsa : OspfLsaEntry) (acc : Net × Bool)
    (outIface : IfaceRef) : Net × Bool :=
  if acc.2 then acc else ospfFloodSend t state lsa acc.1 outIface

theorem ospfFloodNext_of_sent (net : Net) (x : IfaceRef) :
    ospfFloodNext t state lsa (net, false) x = ospfFloodSend t state lsa net x :=
  if_neg Bool.false_ne_true

/-- Once it has returned, no interface is next. -/
theorem foldl_ospfFloodNext_stopped (net : Net) (xs : List IfaceRef) :
    xs.foldl (ospfFloodNext t state lsa) (net, true) = (net, true) :=
  List.foldl_fixed' (fun _ => rfl) xs

/-- The loop over the interfaces: what has left when it stops. -/
theorem foldl_ospfFloodNext (xs : List IfaceRef)
    (hsource : ∀ x ∈ xs, ipFindSourceIface t (t.iface x).ipAddr = some x) : ∀ net : Net,
      let r := xs.foldl (ospfFloodNext t state lsa) (net, false)
      ∃ more, r.1.calls = net.calls ++ more ∧
        List.Forall₂ (LsuLeaves t state lsa) (xs.takeWhile fun x => decide (IfaceSends t x))
          (scheduled more) ∧
        (r.2 = true ↔ ∃ x ∈ xs, ¬ IfaceSends t x) := by
  induction xs with
  | nil =>
    intro net r
    refine ⟨[], (List.append_nil _).symm, .nil, iff_of_false Bool.false_ne_true ?_⟩
    rintro ⟨x, hx, -⟩
    cases hx
  | cons x xs ih =>
    intro net r
    have hrest := fun y hy => hsource y (List.mem_cons_of_mem x hy)
    obtain ⟨r', hr⟩ : ∃ r', r = r' := ⟨_, rfl⟩
    rw [hr]
    have hr : xs.foldl (ospfFloodNext t state lsa) (ospfFloodSend t state lsa net x) = r' := by
      rw [← ospfFloodNext_of_sent, ← hr]
      rfl
    rcases ospfFloodSend_cases state lsa net (hsource x List.mem_cons_self) with
      ⟨hsends, hok, e, hleaves, c, hc, hcalls⟩ | ⟨hnot, hstop, c, hc, hcalls⟩
    · rcases hsend : ospfFloodSend t state lsa net x with ⟨net₁, failed⟩
      rw [hsend] at hok hcalls hr
      obtain rfl : failed = false := hok
      have hcalls : net₁.calls = net.calls ++ [c, .schedule e] := hcalls
      obtain ⟨more, hmore, hsent, hresult⟩ := ih hrest net₁
      rw [hr] at hmore hresult
      have hhead : scheduled ([c, .schedule e] ++ more) = e :: scheduled more := by
        rw [show [c, .schedule e] ++ more = [c] ++ ([.schedule e] ++ more) from rfl,
          scheduled_append, scheduled_append, hc]
        rfl
      refine ⟨[c, .schedule e] ++ more, ?_, ?_, ?_⟩
      · rw [hmore, hcalls, List.append_assoc]
      · rw [hhead, List.takeWhile_cons, if_pos (decide_eq_true hsends)]
        exact .cons hleaves hsent
      · rw [hresult]
        simp [hsends]
    · rcases hsend : ospfFloodSend t state lsa net x with ⟨net₁, failed⟩
      rw [hsend] at hstop hcalls hr
      obtain rfl : failed = true := hstop
      rw [foldl_ospfFloodNext_stopped] at hr
      rw [← hr]
      refine ⟨[c], hcalls, ?_, iff_of_true rfl ⟨x, List.mem_cons_self, hnot⟩⟩
      rw [hc, List.takeWhile_cons, if_neg (by simpa using hnot)]
      exact .nil

theorem ospfFloodLsaOn_eq (t : Topology) (net : Net) (state : OspfState) (lsa : OspfLsaEntry)
    (exceptIface : IfaceRef) :
    ospfFloodLsaOn t net state lsa exceptIface =
      let r := (ospfFloodIfaces state exceptIface).foldl (ospfFloodNext t state lsa) (net, false)
      (r.1, if r.2 then -1 else 0) := by
  unfold ospfFloodLsaOn ospfFloodIfaces
  rw [Slots.forEach_filterMap (fun acc i hnone => ?_) fun acc i x hi => ?_]
  · unfold ospfFloodIfaceOn
    dsimp only
    split
    · rename_i outIface hacc hv hi
      split
      · rfl
      · rename_i hexcept
        rw [ospfFloodSlot_eq_some.mpr ⟨hv, hi, hexcept⟩] at hnone
        cases hnone
    · rfl
  · obtain ⟨hv, hi, hexcept⟩ := ospfFloodSlot_eq_some.mp hi
    unfold ospfFloodIfaceOn ospfFloodNext
    cases acc.2 with
    | true => rfl
    | false => simp only [hv, hi, if_neg hexcept, Bool.false_eq_true, if_false]

/-- One frame leaves on each of the interfaces, and they are different. -/
theorem countP_src_of_leaves {xs : List IfaceRef} {es : List NetEvent}
    (h : List.Forall₂ (LsuLeaves t state lsa) xs es) (x : IfaceRef) :
    es.countP (fun e => decide (e.payload.srcDevice = some x)) = xs.count x := by
  induction h with
  | nil => rfl
  | cons hleaves _ ih =>
    obtain ⟨dst, -, hwire⟩ := hleaves
    rw [List.countP_cons, List.count_cons, ih, hwire.src]
    simp

end

/-- Where no other interface has the address of an enabled one, `ospf_flood_lsa` sends one LSU
    with the LSA on each enabled interface before the first on which sending is not possible, in
    the order of their slots, and none on any other, so none on `except_iface`. It returns `-1` if
    there is such an interface; otherwise an LSU has left on every enabled interface.
    No interface is enabled twice. `ospf_receive` works on with these sends. -/
theorem ospfFloodLsa_stops (t : Topology) (net : Net) (state : OspfState) (lsa : OspfLsaEntry)
    (exceptIface : IfaceRef) (haddr : OspfAddressed t state) :
    let ifaces := ospfFloodIfaces state exceptIface
    let sent := ifaces.takeWhile fun x => decide (IfaceSends t x)
    let r := ospfFloodLsaOn t net state lsa exceptIface
    List.Forall₂ (LsuLeaves t state lsa) sent (egress net r.1) ∧
      (OspfReachable state → ∀ x, (egress net r.1).countP
        (fun e => decide (e.payload.srcDevice = some x)) = if x ∈ sent then 1 else 0) ∧
      exceptIface ∉ sent ∧
      r.2 = (if ∃ x ∈ ifaces, ¬ IfaceSends t x then -1 else 0) ∧
      (∀ x, x ∈ ifaces ↔ x ≠ exceptIface ∧
        ∃ i, (state.ifaces i).valid = true ∧ (state.ifaces i).iface = some x) ∧
      (OspfReachable state → ifaces.Nodup) ∧
      ospfParseLsu (ospfLsuBytes state lsa) = some [lsa.toLsa.parsed] ∧
      ospfFloodLsa (ospfEnv t net) state lsa exceptIface =
        (sent.map fun x => ospfDatagram (ospfEnv t net) x (ospfLsuBytes state lsa),
          decide (r.2 = -1)) := by
  intro ifaces sent r
  have hok : ∀ x ∈ ifaces, (ospfEnv t net).ipOk (ospfDatagram (ospfEnv t net) x
      (ospfLsuBytes state lsa)) = decide (IfaceSends t x) := fun x hx => by
    rw [Bool.eq_iff_iff, ospfEnv_ipOk_iff, groupSends_iff (haddr.source hx), decide_eq_true_iff]
  obtain ⟨more, hcalls, hsent, hresult⟩ :=
    foldl_ospfFloodNext ifaces (fun x hx => haddr.source hx) net
  have hr : r = _ := ospfFloodLsaOn_eq t net state lsa exceptIface
  have hnodup : OspfReachable state → ifaces.Nodup :=
    fun h => nodup_ospfFloodIfaces h.ifaces exceptIface
  have hegress : egress net r.1 = scheduled more := by
    rw [hr]
    exact egress_eq hcalls
  have hflag : r.2 = if ∃ x ∈ ifaces, ¬ IfaceSends t x then -1 else 0 := by
    rw [hr]
    exact if_congr hresult rfl rfl
  rw [hegress]
  refine ⟨hsent, fun h x => ?_, fun hmem => ?_, hflag, fun x => mem_ospfFloodIfaces, hnodup,
    ospfParseLsu_eq_some.mpr ⟨_, ospfLsuOf_ospfLsuBytes state lsa, rfl⟩, ?_⟩
  · rw [countP_src_of_leaves hsent, ((List.takeWhile_sublist _).nodup (hnodup h)).count]
  · exact (mem_ospfFloodIfaces.mp ((List.takeWhile_sublist _).subset hmem)).1 rfl
  · have hany : (ifaces.any fun x => !(ospfEnv t net).ipOk (ospfDatagram (ospfEnv t net) x
        (ospfLsuBytes state lsa))) = decide (∃ x ∈ ifaces, ¬ IfaceSends t x) := by
      rw [Bool.eq_iff_iff, List.any_eq_true, decide_eq_true_iff]
      refine exists_congr fun x => and_congr_right fun hx => ?_
      rw [hok x hx, Bool.not_eq_true', decide_eq_false_iff_not]
    rw [ospfFloodLsa_eq, Slots.takeWhile_congr hok, hflag]
    refine Prod.ext rfl (hany.trans ?_)
    by_cases hstops : ∃ x ∈ ifaces, ¬ IfaceSends t x
    · rw [if_pos hstops, decide_eq_true hstops]
      rfl
    · rw [if_neg hstops, decide_eq_false hstops]
      rfl

/-- A router with three interfaces on links of their own, of which one is down. -/
def exampleArea (down : IfaceRef) : Topology :=
  { exampleOspfRouters with
    iface := fun i =>
      { exampleOspfRouters.iface i with up := decide (i ≠ down), link := some (i % 3) }
    link := fun l => { endA := l, endB := l + 3, delayMs := 1, up := true }
    devices := [[0, 1, 2], [3], [4], [5]] }

/-- OSPF runs on all of them. -/
def exampleEnabled : OspfState :=
  (run ospfStep ⟨{ ospfInit 1 with areaId := 0 }, fun _ => none⟩
    [.enableIface 0 10, .enableIface 1 10, .enableIface 2 10]).state

theorem ospfReachable_exampleEnabled : OspfReachable exampleEnabled := ⟨1, 0, _, rfl⟩

theorem ospfAddressed_exampleArea (down : IfaceRef) :
    OspfAddressed (exampleArea down) exampleEnabled := by
  have hslots : ∀ (i : Fin ospfMaxIfaces), (exampleEnabled.ifaces i).valid = true →
      ∃ x ∈ [0, 1, 2], (exampleEnabled.ifaces i).iface = some x := by decide +kernel
  have haddrs : ∀ x ∈ [0, 1, 2], ∀ j ∈ [0, 1, 2, 3, 4, 5],
      (exampleOspfRouters.iface j).ipAddr = (exampleOspfRouters.iface x).ipAddr → j = x := by
    decide +kernel
  intro i x hv hx
  obtain ⟨x', hmem, hx'⟩ := hslots i hv
  obtain rfl := Option.some.inj (hx.symm.trans hx')
  exact ⟨(by decide : [0, 1, 2] ⊆ [0, 1, 2, 3, 4, 5]) hmem, haddrs x hmem⟩

/-- The second interface is down: the LSU leaves on the first and not on the third. -/
theorem ospfFloodLsa_stops_exampleArea :
    let r := ospfFloodLsaOn (exampleArea 1) netInit exampleEnabled lsaExample.parsed 9
    r.2 = -1 ∧
      (egress netInit r.1).countP (fun e => decide (e.payload.srcDevice = some 0)) = 1 ∧
      (egress netInit r.1).countP (fun e => decide (e.payload.srcDevice = some 2)) = 0 := by
  have hsent : ((ospfFloodIfaces exampleEnabled 9).takeWhile fun x =>
      decide (IfaceSends (exampleArea 1) x)) = [0] := by decide +kernel
  have hstops : ∃ x ∈ ospfFloodIfaces exampleEnabled 9, ¬ IfaceSends (exampleArea 1) x := by
    decide +kernel
  obtain ⟨-, hcount, -, hresult, -⟩ := ospfFloodLsa_stops (exampleArea 1) netInit exampleEnabled
    lsaExample.parsed 9 (ospfAddressed_exampleArea 1)
  have hcount := hcount ospfReachable_exampleEnabled
  rw [hsent] at hcount
  exact ⟨hresult.trans (if_pos hstops), hcount 0, hcount 2⟩

/-- Two interfaces with one address, on links of their own. -/
def exampleShared : Topology :=
  { exampleArea 9 with iface := fun i => { (exampleArea 9).iface i with ipAddr := 0x0A000001 } }

/-- What does not hold: with the first interface down no LSU leaves on the second, which can
    send; and where two interfaces have one address, one leaves on `except_iface`. -/
theorem not_ospfFloodLsa :
    (¬ ∀ (t : Topology) (net : Net) (state : OspfState) (lsa : OspfLsaEntry)
      (exceptIface x : IfaceRef), OspfReachable state → OspfAddressed t state → x ≠ exceptIface →
        (∃ i, (state.ifaces i).valid = true ∧ (state.ifaces i).iface = some x) →
        IfaceSends t x →
        ∃ e ∈ egress net (ospfFloodLsaOn t net state lsa exceptIface).1,
          e.payload.srcDevice = some x) ∧
      ¬ ∀ (t : Topology) (net : Net) (state : OspfState) (lsa : OspfLsaEntry)
        (exceptIface : IfaceRef), OspfReachable state →
          ∀ e ∈ egress net (ospfFloodLsaOn t net state lsa exceptIface).1,
            e.payload.srcDevice ≠ some exceptIface := by
  constructor
  · intro h
    obtain ⟨e, he, -⟩ := h (exampleArea 0) netInit exampleEnabled lsaExample.parsed 2 1
      ospfReachable_exampleEnabled (ospfAddressed_exampleArea 0) (by decide) (by decide +kernel)
      (by decide +kernel)
    have hnone : (egress netInit (ospfFloodLsaOn (exampleArea 0) netInit exampleEnabled
        lsaExample.parsed 2).1).length = 0 := by decide +kernel
    rw [List.eq_nil_of_length_eq_zero hnone] at he
    cases he
  · intro h
    have hleft : ∃ e ∈ egress netInit (ospfFloodLsaOn exampleShared netInit exampleEnabled
        lsaExample.parsed 0).1, e.payload.srcDevice = some 0 := by decide +kernel
    obtain ⟨e, he, hsrc⟩ := hleft
    exact h _ _ _ _ _ ospfReachable_exampleEnabled e he hsrc

end FrameRunner
