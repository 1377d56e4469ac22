import FrameRunner.Network.Delivery
import FrameRunner.Ospf.Adjacency

/-!
# A Hello between two routers

From `ospf_send_hello` through `ip_output`, the group's MAC address, the link and the
filter of the receiving interface to `router_receive`, which keeps control multicast,
`ip_receive` and the handler of protocol 89.

Main result: `ospfSendHello_delivers`.
-/

namespace FrameRunner

open FrameRunner.Lib

/-! ## The instance in the simulator -/

/-- The simulator as an instance sees it. -/
def ospfEnv (t : Topology) (net : Net) : OspfEnv where
  now := net.sched.now
  prefixLen iface := (t.iface iface).prefixLen
  ipAddr iface := (t.iface iface).ipAddr
  ipOk pkt := 0 ≤ (ipOutput t net.alloc pkt.srcIp pkt.dstIp pkt.protocol
    (packetFill (t.memory net.allocs) pkt.data)).2.1

/-- `ospf_send_hello` (lines 531–622) with what it does to the network, and its result. -/
def ospfSendHelloOn (t : Topology) (net : Net) (state : OspfState) (iface : IfaceRef) : Net × ℤ :=
  if (t.iface iface).prefixLen > 32 then (net, -1)
  else
    let pkt := packetFill (t.memory net.allocs) (ospfHelloBytes (ospfEnv t net) state iface)
    let (net, res, _) := ipOutput t net.alloc (t.iface iface).ipAddr ospfAllSpfRouters
      ospfProtoNum pkt
    (net, if res < 0 then -1 else 0)

/-- The call returns 0 exactly when the instance has sent its Hello. -/
theorem ospfSendHelloOn_eq_zero_iff (t : Topology) (net : Net) (state : OspfState)
    (iface : IfaceRef) : (ospfSendHelloOn t net state iface).2 = 0 ↔
      ospfSendHello (ospfEnv t net) state iface =
        [ospfDatagram (ospfEnv t net) iface (ospfHelloBytes (ospfEnv t net) state iface)] := by
  have hrefused : ¬ (-1 : ℤ) = 0 := by decide
  unfold ospfSendHelloOn ospfSendHello
  by_cases hplen : (t.iface iface).prefixLen > 32
  · have hplen' : (ospfEnv t net).prefixLen iface > 32 := hplen
    rw [if_pos hplen, if_pos hplen']
    exact iff_of_false hrefused (by simp)
  · have hplen' : ¬ (ospfEnv t net).prefixLen iface > 32 := hplen
    rw [if_neg hplen, if_neg hplen']
    dsimp only
    by_cases hneg : (ipOutput t net.alloc (t.iface iface).ipAddr ospfAllSpfRouters ospfProtoNum
        (packetFill (t.memory net.allocs) (ospfHelloBytes (ospfEnv t net) state iface))).2.1 < 0
    · have hok : ¬ (ospfEnv t net).ipOk (ospfDatagram (ospfEnv t net) iface
          (ospfHelloBytes (ospfEnv t net) state iface)) = true :=
        fun h => absurd (of_decide_eq_true h) (not_le.mpr hneg)
      rw [if_pos hneg, if_neg hok]
      exact iff_of_false hrefused (by simp)
    · have hok : (ospfEnv t net).ipOk (ospfDatagram (ospfEnv t net) iface
          (ospfHelloBytes (ospfEnv t net) state iface)) = true :=
        decide_eq_true (not_lt.mp hneg)
      rw [if_neg hneg, if_pos hok]
      exact iff_of_true rfl rfl

/-- The packets that these calls hand to the handler `fn`, one after the other, when this
    is `ospf_receive` with the instance as its context. -/
def ospfReceiveCalls (fn : AppRef) (env : OspfEnv) (state : OspfState) (calls : List NetCall) :
    OspfState :=
  calls.foldl
    (fun state c =>
      match c with
      | .protocol fn' iface pkt =>
        if fn' = fn then (ospfReceive env state iface pkt.datagram).1 else state
      | _ => state)
    state

/-- The instance behind the handler `fn` after the event is dispatched. -/
def ospfDispatch (t : Topology) (net : Net) (e : NetEvent) (fn : AppRef) (state : OspfState) :
    OspfState :=
  ospfReceiveCalls fn (ospfEnv t net) state ((netDispatch t net e).calls.drop net.calls.length)

/-- A state that an instance can have: after `ospf_init` and any calls. -/
def OspfReachable (state : OspfState) : Prop :=
  ∃ (routerId areaId : UInt32) (calls : List OspfCall),
    (run ospfStep ⟨{ ospfInit routerId with areaId := areaId }, fun _ => none⟩ calls).state = state

theorem OspfReachable.neighborIds {state : OspfState} (h : OspfReachable state) :
    nbrKeyed.Distinct state.neighbors := by
  obtain ⟨routerId, areaId, calls, rfl⟩ := h
  have hstart := ospfTablesOk_start routerId
  have harea : OspfTablesOk ⟨{ ospfInit routerId with areaId := areaId }, fun _ => none⟩ :=
    ⟨hstart.neighborCount, hstart.neighborIds, hstart.lsdb.congr rfl rfl, hstart.ifaceCount,
      hstart.heard⟩
  exact (run_invariant OspfTablesOk (fun _ call h => h.step call) calls _ harea).neighborIds

/-! ## The receiver takes the Hello -/

/-- A packet that meets every test is taken. -/
theorem OspfHelloAccepted.accepts {env : OspfEnv} {state : OspfState} {iface : IfaceRef}
    {pkt : IpDatagram} (h : OspfHelloAccepted env state iface pkt) :
    ospfAcceptsHello env state iface pkt = true := by
  obtain ⟨hplen, hlen, hprotocol, hversion, htype, harea, hpktLen, hchecksum, hau, hauth, hauth',
    hwords, hid, hmask, hhello, hdead, hslot⟩ := h
  have hshort : ¬ pkt.data.length < ospfHeaderLen :=
    fun h => absurd (h.trans_le (Nat.le_add_right _ _)) (not_lt.mpr hlen)
  obtain ⟨⟨state', i⟩, hslot⟩ := Option.isSome_iff_exists.mp hslot
  have hfields : ¬ (getU32 pkt.data 4 = state.routerId ∨
      getU32 pkt.data 24 ≠ ipv4PrefixMask (env.prefixLen iface) ∨
      (getU16 pkt.data 28).toNat ≠ ospfHelloIntervalUs.toNat / 1000000 ∨
      (getU32 pkt.data 32).toNat ≠ ospfDeadIntervalUs.toNat / 1000000) :=
    fun h => h.elim hid fun h => h.elim (fun h => h hmask) fun h => h.elim (fun h => h hhello)
      fun h => h hdead
  have hres : (ospfReceiveHello env state iface pkt.srcIp pkt.data).2 = 0 := by
    unfold ospfReceiveHello
    dsimp only
    rw [if_neg (Nat.not_lt.mpr hlen), if_neg (not_not.mpr hwords), if_neg hfields, hslot]
  unfold ospfAcceptsHello
  rw [Bool.and_eq_true, beq_iff_eq, beq_iff_eq]
  refine ⟨htype, ?_⟩
  unfold ospfReceive
  rw [if_neg (UInt8.not_lt.mpr hplen), if_neg hshort, if_neg (not_not.mpr hprotocol),
    if_neg (not_not.mpr hversion), if_neg (not_not.mpr harea), if_neg (not_not.mpr hpktLen),
    if_neg (not_not.mpr hchecksum),
    if_neg fun h => h.elim (fun h => h hau) fun h => h.elim (fun h => h hauth) fun h => h hauth']
  dsimp only
  rw [if_pos htype]
  exact hres

theorem length_ospfHelloNeighbors_le (state : OspfState) (iface : IfaceRef) :
    (ospfHelloNeighbors state iface).length ≤ ospfMaxNeighbors := by
  unfold ospfHelloNeighbors
  exact (List.length_filterMap_le _ _).trans_eq (List.length_finRange ..)

/-- Where the fields of a Hello lie, whatever they are. -/
theorem helloFields_read (version type options priority : UInt8)
    (len checksum auType hello : UInt16)
    (routerId areaId auth auth' mask dead : UInt32) (rest : List UInt8) :
    let data := [version, type] ++ (be16 len ++ (be32 routerId ++ (be32 areaId ++
      (be16 checksum ++ (be16 auType ++ (be32 auth ++ (be32 auth' ++ (be32 mask ++
        (be16 hello ++ ([options, priority] ++ (be32 dead ++ rest)))))))))))
    getU8 data 0 = version ∧ getU8 data 1 = type ∧ getU16 data 2 = len ∧
      getU32 data 8 = areaId ∧ getU16 data 12 = checksum ∧ getU16 data 14 = auType ∧
      getU32 data 16 = auth ∧ getU32 data 20 = auth' ∧ getU32 data 24 = mask ∧
      getU16 data 28 = hello ∧ getU32 data 32 = dead :=
  ⟨getU8_of_drop rfl, getU8_of_drop rfl, getU16_of_drop rfl, getU32_of_drop rfl,
    getU16_of_drop rfl, getU16_of_drop rfl, getU32_of_drop rfl, getU32_of_drop rfl,
    getU32_of_drop rfl, getU16_of_drop rfl, getU32_of_drop rfl⟩

/-- What the receiver of a Hello reads. -/
theorem ospfHelloBytes_read (env : OspfEnv) (state : OspfState) (iface : IfaceRef) :
    let data := ospfHelloBytes env state iface
    getU8 data 0 = ospfVersion ∧ getU8 data 1 = ospfTypeHello ∧
      getU16 data 2 = UInt16.ofNat
        (ospfHeaderLen + ospfHelloLen + (ospfHelloNeighbors state iface).length * 4) ∧
      getU32 data 8 = state.areaId ∧ getU16 data 12 = 0 ∧ getU16 data 14 = 0 ∧
      getU32 data 16 = 0 ∧ getU32 data 20 = 0 ∧
      getU32 data 24 = ipv4PrefixMask (env.prefixLen iface) ∧
      getU16 data 28 = (ospfHelloIntervalUs / 1000000).toUInt16 ∧
      getU32 data 32 = (ospfDeadIntervalUs / 1000000).toUInt32 := by
  unfold ospfHelloBytes ospfHeaderBytes
  simp only [List.append_assoc]
  exact helloFields_read _ _ _ _ _ _ _ _ _ _ _ _ _ _ _

/-- The Hello of another router of the area is taken on an interface with the sender's
    prefix length, if there is a slot for the sender. -/
theorem ospfHelloBytes_accepted {env env' : OspfEnv} {state state' : OspfState}
    {iface iface' : IfaceRef} {srcIp dstIp : UInt32}
    (hplen : env.prefixLen iface ≤ 32) (hsame : env'.prefixLen iface' = env.prefixLen iface)
    (hid : state.routerId ≠ state'.routerId) (harea : state.areaId = state'.areaId)
    (hslot : (ospfHelloSlot state' state.routerId).isSome) :
    OspfHelloAccepted env' state' iface'
      ⟨srcIp, dstIp, ospfProtoNum, ospfHelloBytes env state iface⟩ := by
  have hlen := length_ospfHelloBytes env state iface
  have hcount := length_ospfHelloNeighbors_le state iface
  have hsender := getU32_ospfHelloBytes_sender env state iface
  have hwords : (ospfHeaderLen + ospfHelloLen + (ospfHelloNeighbors state iface).length * 4 -
      ospfHeaderLen - ospfHelloLen) % 4 = 0 := by
    unfold ospfHeaderLen ospfHelloLen
    omega
  have htotal : (UInt16.ofNat (ospfHeaderLen + ospfHelloLen +
      (ospfHelloNeighbors state iface).length * 4)).toNat =
      ospfHeaderLen + ospfHelloLen + (ospfHelloNeighbors state iface).length * 4 := by
    rw [UInt16.toNat_ofNat', Nat.mod_eq_of_lt]
    have hmax : (ospfHelloNeighbors state iface).length ≤ 32 := hcount
    show 24 + 20 + (ospfHelloNeighbors state iface).length * 4 < 65536
    omega
  obtain ⟨hversion, htype, hpktLen, harea', hchecksum, hau, hauth, hauth', hmask, hhello, hdead⟩ :=
    ospfHelloBytes_read env state iface
  refine ⟨hsame ▸ hplen, ?_, rfl, hversion, htype, harea'.trans harea, ?_, hchecksum, hau, hauth,
    hauth', ?_, ?_, ?_, ?_, ?_, ?_⟩
  · exact (Nat.le_add_right _ _).trans_eq hlen.symm
  · exact (congrArg UInt16.toNat hpktLen).trans (htotal.trans hlen.symm)
  · show ((ospfHelloBytes env state iface).length - _ - _) % 4 = 0
    rw [hlen]
    exact hwords
  · exact fun h => hid (hsender.symm.trans h)
  · exact hmask.trans (by rw [hsame])
  · exact (congrArg UInt16.toNat hhello).trans rfl
  · exact (congrArg UInt32.toNat hdead).trans rfl
  · show (ospfHelloSlot state' (getU32 (ospfHelloBytes env state iface) 4)).isSome
    rw [hsender]
    exact hslot

/-! ## From the sender to the handler -/

/-- `a` is on an up link to `b`, an interface that works and has the same prefix length; no
    other interface has the address of `a`; and the router of `b` hands the packets of
    protocol 89 to the handler `fn`. -/
structure HelloLinked (t : Topology) (a b : IfaceRef) (fn : AppRef) : Prop where
  listed : a ∈ t.devices.flatten
  unique : ∀ i ∈ t.devices.flatten, ∀ j ∈ t.devices.flatten,
    (t.iface i).ipAddr = (t.iface j).ipAddr → i = j
  links : LinksTo t a b
  enabled' : (t.iface b).errDisabled = false
  prefixLen : (t.iface b).prefixLen = (t.iface a).prefixLen
  registered : ∃ router, (t.iface b).rxHandler = some (.router router) ∧
    t.ipStack (t.router router).ipStack ospfProtoNum = some (.other fn)

/-- The MAC address of `OSPF_ALLSPFROUTERS`. -/
def ospfAllSpfRoutersMac : Mac := ⟨0x01, 0x00, 0x5e, 0, 0, 5⟩

theorem ipMulticastToMac_ospfAllSpfRouters :
    ipMulticastToMac ospfAllSpfRouters = some ospfAllSpfRoutersMac := by decide

/-- The frame of a Hello from `a`. -/
def ospfHelloFrame (t : Topology) (net : Net) (state : OspfState) (a : IfaceRef) : List UInt8 :=
  let payload := ospfHelloBytes (ospfEnv t net) state a
  ethernetHeader ospfAllSpfRoutersMac (t.iface a).mac ethertypeIpv4 ++
    ((ipSentHeader (t.iface a).ipAddr ospfAllSpfRouters ospfProtoNum payload.length).bytes ++
      payload)

section
variable {t : Topology} {net : Net} {a b : IfaceRef} {fn : AppRef} {state state' : OspfState}

/-- A Hello that was sent is on the wire to `b`, in one event. -/
theorem HelloLinked.sent (h : HelloLinked t a b fn)
    (hsent : (ospfSendHelloOn t net state a).2 = 0) :
    (t.iface a).prefixLen ≤ 32 ∧ ∃ e, OnWire a b (ospfHelloFrame t net state a) e ∧
      (ospfSendHelloOn t net state a).1.calls = net.calls ++
        [.ipOutput (t.iface a).ipAddr ospfAllSpfRouters ospfProtoNum
          (ospfHelloBytes (ospfEnv t net) state a), .schedule e] := by
  have hsource : ipFindSourceIface t (t.iface a).ipAddr = some a :=
    ipFindSourceIface_of_unique h.listed fun i hi => h.unique i hi a h.listed
  obtain ⟨r, hr⟩ : ∃ r, ospfSendHelloOn t net state a = r := ⟨_, rfl⟩
  rw [hr] at hsent ⊢
  unfold ospfSendHelloOn at hr
  split at hr
  · rw [← hr] at hsent
    cases hsent
  rename_i hplen
  refine ⟨UInt8.not_lt.mp hplen, ?_⟩
  rcases ipOutput_multicast_cases t net.alloc (t.iface a).ipAddr ospfProtoNum
      (packetFill (t.memory net.allocs) (ospfHelloBytes (ospfEnv t net) state a))
      ipMulticastToMac_ospfAllSpfRouters with
    ⟨hres, -⟩ | ⟨hres, iface, dst, e, hiface, hlinks, hwire, hcalls⟩
  · simp only [hres] at hr
    rw [← hr] at hsent
    cases hsent
  · obtain rfl : a = iface := Option.some.inj (hsource.symm.trans hiface)
    obtain rfl := h.links.unique hlinks
    rw [bytes_packetFill, len_packetFill] at hwire
    rw [bytes_packetFill] at hcalls
    refine ⟨e, hwire, ?_⟩
    rw [← hr]
    exact hcalls.trans (congrArg (· ++ _) net.alloc_calls)

/-- The router of `b` hands the Hello to `ospf_receive`, and nothing else. -/
theorem HelloLinked.dispatch (h : HelloLinked t a b fn) {e : NetEvent}
    (hwire : OnWire a b (ospfHelloFrame t net state a) e) (net₁ : Net) (state' : OspfState) :
    ospfDispatch t net₁ e fn state' = (ospfReceive (ospfEnv t net₁) state' b
      ⟨(t.iface a).ipAddr, ospfAllSpfRouters, ospfProtoNum,
        ospfHelloBytes (ospfEnv t net) state a⟩).1 := by
  obtain ⟨router, hhandler, hstack⟩ := h.registered
  obtain ⟨frame, hframe, -, -, hdisp⟩ := netDispatch_accept net₁ hwire h.enabled'
    (ethAccepts_of_group _ ipMulticastToMac_ospfAllSpfRouters)
  have hvalid := ipValidateHeader_sent hframe
  have hkept : ¬ Transits t (t.router router) frame := by
    intro htransit
    have hcontrol := htransit.2
    rw [hframe, getIpHeader_append] at hcontrol
    exact absurd hcontrol (by decide : ¬ routerIpIsControlMulticast ospfAllSpfRouters = false)
  obtain ⟨pkt, hbytes, -, hheader, hip⟩ := ipReceive_of_sent (t := t)
    ((net₁.rxBytes b frame.len).record (.rxHandler b frame ethertypeIpv4)) b
    (t.router router).ipStack hframe
  rw [hstack] at hip
  have hcalls : (netDispatch t net₁ e).calls = net₁.calls ++
      [.rxHandler b frame ethertypeIpv4, .protocol fn b pkt] := by
    rw [hdisp, hhandler]
    show (routerRxShim t _ (t.router router) b frame ethertypeIpv4).calls = _
    unfold routerRxShim
    rw [if_neg (not_not.mpr rfl), routerReceive_local _ _ hvalid hkept, hip]
    simp
  unfold ospfDispatch
  rw [hcalls, List.drop_left, ← hbytes, ← datagram_of_header hheader]
  show (if fn = fn then (ospfReceive (ospfEnv t net₁) state' b pkt.datagram).1 else state') = _
  rw [if_pos rfl]

end

/-! ## The neighbor record -/

/-- The instance has this router as a neighbor on the interface, and not DOWN. -/
def OspfHolds (state : OspfState) (iface : IfaceRef) (routerId : UInt32) : Prop :=
  ∃ j, (state.neighbors j).valid = true ∧ (state.neighbors j).routerId = routerId ∧
    (state.neighbors j).iface = some iface ∧ (state.neighbors j).state ≠ .down

instance (state : OspfState) (iface : IfaceRef) (routerId : UInt32) :
    Decidable (OspfHolds state iface routerId) :=
  inferInstanceAs (Decidable (∃ j, (state.neighbors j).valid = true ∧
    (state.neighbors j).routerId = routerId ∧ (state.neighbors j).iface = some iface ∧
    (state.neighbors j).state ≠ .down))

theorem ospfHelloSlot_isSome {state : OspfState} {routerId : UInt32}
    (h : ∃ i, (state.neighbors i).valid = false ∨ (state.neighbors i).routerId = routerId) :
    (ospfHelloSlot state routerId).isSome := by
  obtain ⟨i, hi⟩ := h
  unfold ospfHelloSlot
  split
  · rfl
  · rename_i hnone
    split
    · rfl
    · rename_i hfull
      have hvalid : (state.neighbors i).valid = true := by
        simpa using Fin.find?_eq_none_iff.mp hfull i
      have hother : (state.neighbors i).valid = true → (state.neighbors i).routerId ≠ routerId := by
        simpa using Fin.find?_eq_none_iff.mp hnone i
      rcases hi with hfree | hid
      · rw [hfree] at hvalid
        cases hvalid
      · exact absurd hid (hother hvalid)

/-- A Hello that `ospf_send_hello` gets out is on the wire to the other router in one event.
    When this is dispatched there is exactly one record for the sender, with its address,
    the interface and the time; it is FULL if the sender lists the receiver and INIT if
    not; and the other records are as they were. -/
theorem ospfSendHello_delivers {t : Topology} {net : Net} {a b : IfaceRef} {fn : AppRef}
    {state state' : OspfState} (h : HelloLinked t a b fn) (hreach : OspfReachable state')
    (hid : state.routerId ≠ state'.routerId) (harea : state.areaId = state'.areaId)
    (hslot : ∃ i, (state'.neighbors i).valid = false ∨
      (state'.neighbors i).routerId = state.routerId)
    (hsent : (ospfSendHelloOn t net state a).2 = 0) :
    ∃ e, (ospfSendHelloOn t net state a).1.calls = net.calls ++
        [.ipOutput (t.iface a).ipAddr ospfAllSpfRouters ospfProtoNum
          (ospfHelloBytes (ospfEnv t net) state a), .schedule e] ∧
      ∀ net₁, let after := ospfDispatch t net₁ e fn state'
        ∃ i, after.neighbors i = {
            routerId := state.routerId
            ipAddr := (t.iface a).ipAddr
            iface := some b
            lastHelloTs := net₁.sched.now
            state := if OspfHolds state a state'.routerId then .full else .init
            valid := true } ∧
          (∀ j, (after.neighbors j).valid = true →
            (after.neighbors j).routerId = state.routerId → j = i) ∧
          ∀ j, j ≠ i → after.neighbors j = state'.neighbors j := by
  obtain ⟨hplen, e, hwire, hcalls⟩ := h.sent hsent
  refine ⟨e, hcalls, fun net₁ => ?_⟩
  have haccepts : ospfAcceptsHello (ospfEnv t net₁) state' b ⟨(t.iface a).ipAddr,
      ospfAllSpfRouters, ospfProtoNum, ospfHelloBytes (ospfEnv t net) state a⟩ = true :=
    (ospfHelloBytes_accepted hplen h.prefixLen hid harea (ospfHelloSlot_isSome hslot)).accepts
  obtain ⟨i, hi, -, he⟩ := ospfReceive_of_accepts haccepts
  have hsender := getU32_ospfHelloBytes_sender (ospfEnv t net) state a
  obtain ⟨hfresh, -⟩ := Keyed.slotFor_eq_some hreach.neighborIds hi
  intro after
  have hafter : after = _ := (h.dispatch hwire net₁ state').trans he
  have hneighbors : after.neighbors = Function.update state'.neighbors i
      (ospfHelloNeighbor (ospfEnv t net₁) state' b (t.iface a).ipAddr
        (ospfHelloBytes (ospfEnv t net) state a)) := congrArg OspfState.neighbors hafter
  have hother : ∀ j, j ≠ i → after.neighbors j = state'.neighbors j := fun j hj => by
    rw [hneighbors, Function.update_of_ne hj]
  refine ⟨i, ?_, fun j hvalid hkey => ?_, hother⟩
  · rw [hneighbors, Function.update_self]
    unfold ospfHelloNeighbor
    rw [hsender]
    congr 1
    exact if_congr ((ospfHelloLists_helloBytes _ _ _ _).trans mem_ospfHelloNeighbors) rfl rfl
  · by_contra hne
    rw [hother j hne] at hvalid hkey
    exact hfresh j hne hvalid (hkey.trans hsender.symm)

/-- Two routers with OSPF on an up link. -/
def exampleOspfRouters : Topology :=
  { exampleHosts with
    iface := fun i => { exampleHosts.iface i with rxHandler := some (.router i) }
    router := fun i =>
      { interfaces := [i], arpCache := i, routeTbl := routeTableInit, ipStack := i }
    ipStack := fun stack protocol =>
      if protocol = ospfProtoNum then some (.other stack) else none }

/-- Router 1 has heard a Hello of router 2 on its interface. -/
def exampleOspfHeard : OspfState :=
  (ospfReceive (ospfEnv exampleOspfRouters netInit) (ospfInit 1) 0
    (ospfDatagram (ospfEnv exampleOspfRouters netInit) 1
      (ospfHelloBytes (ospfEnv exampleOspfRouters netInit) (ospfInit 2) 1))).1

theorem ospfSendHello_delivers_exampleOspfRouters :
    ∃ e, (ospfSendHelloOn exampleOspfRouters netInit exampleOspfHeard 0).1.calls =
        [.ipOutput 0x0A000001 ospfAllSpfRouters ospfProtoNum
          (ospfHelloBytes (ospfEnv exampleOspfRouters netInit) exampleOspfHeard 0), .schedule e] ∧
      ∀ net₁, let after := ospfDispatch exampleOspfRouters net₁ e 1 (ospfInit 2)
        ∃ i, after.neighbors i = {
            routerId := 1
            ipAddr := 0x0A000001
            iface := some 1
            lastHelloTs := net₁.sched.now
            state := .full
            valid := true } ∧
          (∀ j, (after.neighbors j).valid = true → (after.neighbors j).routerId = 1 → j = i) ∧
          ∀ j, j ≠ i → after.neighbors j = (ospfInit 2).neighbors j := by
  have hlinked : HelloLinked exampleOspfRouters 0 1 1 :=
    ⟨by decide, by decide +kernel, ⟨⟨0, rfl, rfl, rfl⟩, rfl⟩, rfl, rfl, 1, rfl, rfl⟩
  have hholds : OspfHolds exampleOspfHeard 0 (ospfInit 2).routerId := by
    decide +kernel
  have hsent : (ospfSendHelloOn exampleOspfRouters netInit exampleOspfHeard 0).2 = 0 := by
    decide +kernel
  have hreach : OspfReachable (ospfInit 2) := ⟨2, 0, [], rfl⟩
  have hfree : ∃ i, ((ospfInit 2).neighbors i).valid = false ∨
      ((ospfInit 2).neighbors i).routerId = exampleOspfHeard.routerId := ⟨0, .inl rfl⟩
  have hid : exampleOspfHeard.routerId = 1 := by decide +kernel
  have harea : exampleOspfHeard.areaId = (ospfInit 2).areaId := by decide +kernel
  have hother : exampleOspfHeard.routerId ≠ (ospfInit 2).routerId := by
    rw [hid]
    decide
  have h := ospfSendHello_delivers hlinked hreach hother harea hfree hsent
  simp only [if_pos hholds, hid] at h
  exact h

end FrameRunner
