import FrameRunner.Network.Bridging
import FrameRunner.Rip.State

/-!
# RIP updates between two routers

An update is a UDP datagram to 224.0.0.9. The router that receives it keeps what
is addressed to one of its interfaces or to the two groups of OSPF; 224.0.0.9 is
neither, and the update is routed like any other packet. `ripUpdate_delivered_iff`
says when an update that was sent is handed to `rip_receive`.
-/

namespace FrameRunner

/-- A RIP-enabled interface of a router: UDP is registered in the router's IP
    stack and `rip_receive` bound to port 520. -/
structure RipPort (t : Topology) (iface : IfaceRef) (router : RouterRef) (rip : RipRef) : Prop where
  shim : (t.iface iface).rxHandler = some (.router router)
  enabled : (t.iface iface).errDisabled = false
  bound : ∃ ctx i, t.ipStack (t.router router).ipStack ipprotoUdp = some (.udpReceive ctx) ∧
    udpFind (t.udp ctx).sockets ripPort = some i ∧
    ((t.udp ctx).sockets i).recvHandler = .ripReceive rip

/-- Each update that `a` sent on the link to `b` is handed to `rip_receive` there,
    whenever it arrives, as it was sent and with the address of `a`. -/
def UpdatesDelivered (t : Topology) (net net' : Net) (a b : IfaceRef) (rip : RipRef) : Prop :=
  ∀ e, Made net net' (.schedule e) → e.payload.srcDevice = some a →
    ∃ message, OnWire a b (ripFrame t a (t.iface a).ipAddr message) e ∧
      ∀ net₁, ∃ pkt, pkt.bytes = message ∧
        Made net₁ (netDispatch t net₁ e)
          (.udpRecv (.ripReceive rip) b (t.iface a).ipAddr ripPort pkt)

section
variable {t : Topology} {a b : IfaceRef} {rip : RipRef} {router : RouterRef} {e : NetEvent}
  {srcIp : UInt32} {message : List UInt8}

theorem ethAccepts_ripMulticast (mac : Mac) : EthAccepts mac ripMulticastMac ethertypeIpv4 :=
  .inr (.inr (by decide))

/-- What the receiving router does with an update. -/
theorem netDispatch_ripFrame (net : Net) (hport : RipPort t b router rip)
    (hw : OnWire a b (ripFrame t a srcIp message) e) :
    ∃ pkt : Packet, pkt.bytes =
        (ipSentHeader srcIp ripMulticast ipprotoUdp (udpDatagram ripPort ripPort message).length).bytes
          ++ udpDatagram ripPort ripPort message ∧
      netDispatch t net e = (routerReceive t
        ((net.rxBytes b pkt.len).record (.rxHandler b pkt ethertypeIpv4)) (t.router router) b pkt).1 := by
  obtain ⟨pkt, hbytes, -, -, hdisp⟩ :=
    netDispatch_accept net hw hport.enabled (ethAccepts_ripMulticast _)
  refine ⟨pkt, hbytes, ?_⟩
  rw [hdisp, hport.shim]
  rfl

/-- Its destination. -/
theorem dstIp_ripFrame {pkt : Packet} (hbytes : pkt.bytes =
      (ipSentHeader srcIp ripMulticast ipprotoUdp (udpDatagram ripPort ripPort message).length).bytes
        ++ udpDatagram ripPort ripPort message) :
    (getIpHeader pkt.bytes).dstIp = ripMulticast := by
  rw [hbytes, getIpHeader_append]
  rfl

/-- The router keeps the group's packets only if the group's address is one of
    its own. -/
theorem transits_ripFrame {pkt : Packet} (hbytes : pkt.bytes =
      (ipSentHeader srcIp ripMulticast ipprotoUdp (udpDatagram ripPort ripPort message).length).bytes
        ++ udpDatagram ripPort ripPort message) :
    Transits t (t.router router) pkt ↔ routerIpIsLocal t (t.router router) ripMulticast = false := by
  rw [Transits, dstIp_ripFrame hbytes]
  exact ⟨And.left, fun h => ⟨h, by decide⟩⟩

/-- An update that reaches a router without the group's address is not handed to
    any socket. -/
theorem not_delivered_of_transit {net : Net} (hport : RipPort t b router rip)
    (hw : OnWire a b (ripFrame t a srcIp message) e)
    (hlocal : routerIpIsLocal t (t.router router) ripMulticast = false) (pkt' : Packet) :
    ¬ Made net (netDispatch t net e) (.udpRecv (.ripReceive rip) b srcIp ripPort pkt') := by
  intro hm
  obtain ⟨pkt, hbytes, hdisp⟩ := netDispatch_ripFrame net hport hw
  have hout := routerReceive_transit (t.router router)
    ((net.rxBytes b pkt.len).record (.rxHandler b pkt ethertypeIpv4)) b
    ((transits_ripFrame hbytes).mpr hlocal)
  have hcount : Sends (fun _ => True) net (net.rxBytes b pkt.len) := net.addStats_sends _ b _
  have hrec := hcount.trans
    (Net.record_sends (net.rxBytes b pkt.len) (c := .rxHandler b pkt ethertypeIpv4) trivial)
  rw [hdisp, hrec.made_trans hout] at hm
  rcases hm with hm | hm
  · have hcalls : ((net.rxBytes b pkt.len).record (.rxHandler b pkt ethertypeIpv4)).calls =
        net.calls ++ [.rxHandler b pkt ethertypeIpv4] := rfl
    rw [made_iff hcalls, List.mem_singleton] at hm
    cases hm
  · exact hout.of_made hm

/-- And one that reaches a router with it is. -/
theorem delivered_of_local (net : Net) (hport : RipPort t b router rip)
    (hw : OnWire a b (ripFrame t a srcIp message) e)
    (hlen : message.length ≤ 65535 - udpHdrLen)
    (hlocal : routerIpIsLocal t (t.router router) ripMulticast = true) :
    ∃ pkt, pkt.bytes = message ∧
      Made net (netDispatch t net e) (.udpRecv (.ripReceive rip) b srcIp ripPort pkt) := by
  obtain ⟨pkt, hbytes, hdisp⟩ := netDispatch_ripFrame net hport hw
  obtain ⟨ctx, i, hstack, hsocket, hhandler⟩ := hport.bound
  have hkeep : ¬ Transits t (t.router router) pkt := by
    rw [transits_ripFrame hbytes, hlocal]
    decide
  obtain ⟨pkt', hpkt, hrecv⟩ := ipReceive_of_udp
    ((net.rxBytes b pkt.len).record (.rxHandler b pkt ethertypeIpv4)) b hlen hbytes hstack hsocket
  refine ⟨pkt', hpkt, ?_⟩
  rw [hdisp, routerReceive_local _ b (ipValidateHeader_sent hbytes) hkeep, hrecv, hhandler]
  refine ⟨[.rxHandler b pkt ethertypeIpv4, .udpRecv (.ripReceive rip) b srcIp ripPort pkt'], ?_,
    List.mem_cons_of_mem _ List.mem_cons_self⟩
  simp

end

/-- What `a` itself put on the wire went to `b`, from the address of `a`. -/
theorem RipOnWire.of_src {t : Topology} {a b : IfaceRef} {e : NetEvent} (h : RipOnWire t a e)
    (hlinks : LinksTo t a b) (hsrc : e.payload.srcDevice = some a) :
    ipFindSourceIface t (t.iface a).ipAddr = some a ∧ ∃ message : List UInt8,
      message.length ≤ 65535 - udpHdrLen ∧
      OnWire a b (ripFrame t a (t.iface a).ipAddr message) e := by
  obtain ⟨src, dst, message, hfind, hlen, hlinks', hw⟩ := h
  obtain rfl : src = a := Option.some.inj (hw.src.symm.trans hsrc)
  obtain rfl := hlinks'.unique hlinks
  exact ⟨hfind, message, hlen, hw⟩

theorem sentOn_iff {entry : RipRouteInfo} {outIface : IfaceRef} :
    entry.sentOn outIface = true ↔ entry.valid = true ∧ entry.learnedOn ≠ some outIface := by
  simp [RipRouteInfo.sentOn]

/-- An update that was sent to a router without the group's address is lost. -/
theorem not_updatesDelivered {t : Topology} {net : Net} {state : RipState} {a b : IfaceRef}
    {router : RouterRef} {rip : RipRef} (hB : RipPort t b router rip)
    (hok : (ripSendUpdate t net state a).2 = 0)
    (hsent : ∃ i, (state.db i).sentOn a = true)
    (hfind : ipFindSourceIface t (t.iface a).ipAddr = some a)
    (hlocal : routerIpIsLocal t (t.router router) ripMulticast = false) :
    ¬ UpdatesDelivered t net (ripSendUpdate t net state a).1 a b rip := by
  intro h
  obtain ⟨hwire, hex⟩ := ripSendUpdate_ok hok
  obtain ⟨e, he⟩ := hex.mpr hsent
  obtain ⟨src, dst, message, hfind', -, -, hw⟩ := hwire e he
  obtain rfl : src = a := Option.some.inj (hfind'.symm.trans hfind)
  obtain ⟨message', hw', hdeliver⟩ := h e he hw.src
  obtain ⟨pkt, -, hmade⟩ := hdeliver net
  exact not_delivered_of_transit hB hw' hlocal pkt hmade

/-- After an update that succeeded, all that was sent to the other router is
    delivered exactly if there was nothing to send, another interface has the
    sender's address and sent it, or the receiver owns the group's address. -/
theorem ripUpdate_delivered_iff {t : Topology} {net : Net} {state : RipState} {a b : IfaceRef}
    {router : RouterRef} {rip : RipRef} (hB : RipPort t b router rip) (hlinks : LinksTo t a b)
    (hok : (ripSendUpdate t net state a).2 = 0) :
    UpdatesDelivered t net (ripSendUpdate t net state a).1 a b rip ↔
      (∀ i, (state.db i).valid = true → (state.db i).learnedOn = some a) ∨
        ipFindSourceIface t (t.iface a).ipAddr ≠ some a ∨
        routerIpIsLocal t (t.router router) ripMulticast = true := by
  obtain ⟨hwire, hex⟩ := ripSendUpdate_ok hok
  constructor
  · intro h
    by_contra hnot
    simp only [not_or, not_forall, Bool.not_eq_true, not_not] at hnot
    obtain ⟨⟨i, hi, hlearned⟩, hfind, hlocal⟩ := hnot
    exact not_updatesDelivered hB hok ⟨i, sentOn_iff.mpr ⟨hi, hlearned⟩⟩ hfind hlocal h
  · intro h e he hsrc
    obtain ⟨hfind, message, hlen, hw⟩ := (hwire e he).of_src hlinks hsrc
    rcases h with hnone | hother | hlocal
    · obtain ⟨i, hi⟩ := hex.mp ⟨e, he⟩
      obtain ⟨hvalid, hlearned⟩ := sentOn_iff.mp hi
      exact absurd (hnone i hvalid) hlearned
    · exact absurd hfind hother
    · exact ⟨message, hw, fun net₁ => delivered_of_local net₁ hB hw hlen hlocal⟩

/-- The routers 0 and 1, with the interfaces 0 and 1 on one link. The interface 2,
    which is on none, has the group's address; router 1 may have it. -/
def exampleRipRouters (interfaces : List IfaceRef) : Topology where
  iface i := { mac := ownMac i, ipAddr := if i = 2 then ripMulticast else 0x0A000001 + UInt32.ofNat i,
               prefixLen := 24, up := true, link := if i = 2 then none else some 0,
               rxHandler := some (.router i), arpCache := some i }
  link _ := { endA := 0, endB := 1, delayMs := 1, up := true }
  devices := [[0], interfaces]
  router r := { interfaces := if r = 0 then [0] else interfaces, arpCache := r,
                routeTbl := routeTableInit, ipStack := r }
  ports _ := []
  ipStack r protocol := if protocol = ipprotoUdp then some (.udpReceive r) else none
  udp r := { sim := true, sockets := fun _ => { port := ripPort, valid := true,
                                                recvHandler := .ripReceive r } }
  memory _ _ := 0

/-- A database with one network of the router's own. -/
def exampleRipState : RipState where
  db i := if i.val = 0 then { pfx := 0xC0A80000, prefixLen := 16, state := 1, valid := true,
                              metric := 1, nextHop := 0x0A000001 } else {}
  dbCount := 1
  ifaces _ := none
  ifaceCount := 0

theorem ripPort_exampleRipRouters (interfaces : List IfaceRef) :
    RipPort (exampleRipRouters interfaces) 1 1 1 := by
  have hfind : ∃ i, udpFind ((exampleRipRouters interfaces).udp 1).sockets ripPort = some i := by
    rw [← Option.isSome_iff_exists]
    show (udpFind (fun _ => { port := ripPort, valid := true, recvHandler := .ripReceive 1 })
      ripPort).isSome = true
    decide +kernel
  obtain ⟨i, hi⟩ := hfind
  exact ⟨rfl, rfl, 1, i, rfl, hi, rfl⟩

theorem ripUpdate_delivered_iff_exampleRipRouters :
    UpdatesDelivered (exampleRipRouters [1, 2]) netInit
      (ripSendUpdate (exampleRipRouters [1, 2]) netInit exampleRipState 0).1 0 1 1 :=
  (ripUpdate_delivered_iff (ripPort_exampleRipRouters [1, 2]) ⟨⟨0, rfl, rfl, rfl⟩, rfl⟩
    (by decide +kernel)).mpr (.inr (.inr (by decide +kernel)))

/-- The update is sent, and the other router does not hand it to RIP. -/
theorem not_ripUpdate_delivered :
    RipPort (exampleRipRouters [1]) 1 1 1 ∧ LinksTo (exampleRipRouters [1]) 0 1 ∧
      (ripSendUpdate (exampleRipRouters [1]) netInit exampleRipState 0).2 = 0 ∧
      ¬ UpdatesDelivered (exampleRipRouters [1]) netInit
        (ripSendUpdate (exampleRipRouters [1]) netInit exampleRipState 0).1 0 1 1 := by
  have hok : (ripSendUpdate (exampleRipRouters [1]) netInit exampleRipState 0).2 = 0 := by
    decide +kernel
  refine ⟨ripPort_exampleRipRouters [1], ⟨⟨0, rfl, rfl, rfl⟩, rfl⟩, hok, ?_⟩
  exact not_updatesDelivered (ripPort_exampleRipRouters [1]) hok
    ⟨⟨0, by decide⟩, by decide +kernel⟩ (by decide +kernel) (by decide +kernel)

end FrameRunner
