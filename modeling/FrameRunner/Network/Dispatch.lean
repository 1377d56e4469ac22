import FrameRunner.Network.Router
import FrameRunner.Network.Switch

/-!
# Dispatch (`protocols/ethernet.c`, `engine/scheduler.c`)

A step of the scheduler on the network: the popped event runs its own handler, or
the one registered for its type. `netRun_sends` is the invariant of every run of
frames: each event brings its own handler, so that the handlers registered by
`arp_init` never run and no ARP cache gains or loses an address.
-/

namespace FrameRunner

/-- The receive handler of an interface (`ip_rx_shim`, `router_rx_shim`,
    `switch_rx_shim`, or one of the application, which is not followed). -/
def rxHandle (t : Topology) (net : Net) (iface : IfaceRef) (pkt : Packet) (ethertype : UInt16) :
    RxHandler → Net
  | .ip stack => (ipReceive t net iface pkt stack).1
  | .router router => routerRxShim t net (t.router router) iface pkt ethertype
  | .switch sw => switchReceive t net sw iface pkt ethertype
  | .app _ => net

/-- `ethernet_receive_event` (`ethernet.c`, lines 19–43). -/
def ethernetReceiveEvent (t : Topology) (net : Net) (e : NetEvent) : Net :=
  match e.payload.dstDevice, e.payload.packet with
  | some iface, some frame =>
    let (net, result, frame, ethertype) := ethernetReceive t net iface frame
    if result = 0 then
      match (t.iface iface).rxHandler with
      | none => net
      | some handler =>
        rxHandle t (net.record (.rxHandler iface frame ethertype)) iface frame ethertype handler
    else if result = 1 then net.rxDropped iface
    else net.rxErrors iface
  | _, _ => net

/-- A callback of the scheduler; those of the application are not followed. -/
def netCallback (t : Topology) (net : Net) (e : NetEvent) : NetCallback → Net
  | .ethernetReceiveEvent => ethernetReceiveEvent t net e
  | .arpRequestHandler => arpRequestHandler t net e
  | .arpReplyHandler => arpReplyHandler t net e
  | .macAgeHandler sw => macAgeHandler net sw
  | .other _ => net

/-- The callback of `scheduler_step` on the event that it popped
    (`scheduler.c`, lines 72–79). -/
def netDispatch (t : Topology) (net : Net) (e : NetEvent) : Net :=
  match schedulerDispatch net.sched e with
  | none => net
  | some fn => netCallback t net e fn

/-- `scheduler_step` (lines 62–83); on an empty queue nothing happens. -/
def netStep (t : Topology) (net : Net) : Net :=
  match schedulerStep net.sched with
  | none => net
  | some (e, sched) => netDispatch t { net with sched := sched } e

/-- `n` steps of the scheduler. -/
def netRun (t : Topology) : ℕ → Net → Net
  | 0, net => net
  | n + 1, net => netRun t n (netStep t net)

/-! ## What a run of frames leaves alone -/

theorem rxHandle_sends (t : Topology) (net : Net) (iface : IfaceRef) (pkt : Packet)
    (ethertype : UInt16) (h : RxHandler) :
    Sends NetCall.NotRx net (rxHandle t net iface pkt ethertype h) := by
  cases h with
  | ip stack => exact ipReceive_sends _ _ _ _ _
  | router router =>
    show Sends _ net (routerRxShim t net (t.router router) iface pkt ethertype)
    unfold routerRxShim
    split
    · exact net.addStats_sends _ iface _
    · exact routerReceive_sends _ _ _ _ _
  | switch sw =>
    show Sends _ net (switchReceive t net sw iface pkt ethertype)
    exact (switchReceive_sends _ _ _ _ _ _).mono fun _ h => h.isOutput.notRx
  | app fn => exact Sends.refl _ net

theorem ethernetReceive_sends (t : Topology) (net : Net) (iface : IfaceRef) (frame : Packet)
    (P : NetCall → Prop) : Sends P net (ethernetReceive t net iface frame).1 := by
  unfold ethernetReceive
  dsimp only
  split
  · exact Sends.refl _ net
  · split
    · exact Sends.refl _ net
    · split
      · exact Sends.refl _ net
      · split
        · exact Sends.refl _ net
        · show Sends P net (net.rxBytes iface _)
          exact net.addStats_sends P iface _

theorem ethernetReceiveEvent_sends (t : Topology) (net : Net) (e : NetEvent) :
    Sends (fun _ => True) net (ethernetReceiveEvent t net e) := by
  unfold ethernetReceiveEvent
  split
  · rename_i iface frame _ _
    have hrecv := ethernetReceive_sends t net iface frame fun _ => True
    dsimp only
    split
    · split
      · exact hrecv
      · exact (hrecv.trans (Net.record_sends _ trivial)).trans
          ((rxHandle_sends _ _ _ _ _ _).mono fun _ _ => trivial)
    · split
      · exact hrecv.trans (Net.addStats_sends _ _ iface _)
      · exact hrecv.trans (Net.addStats_sends _ _ iface _)
  · exact Sends.refl _ net

/-! ## What the receiver of a frame sees -/

section
variable {t : Topology} {a b : IfaceRef} {dstMac srcMac : Mac} {ethertype : UInt16}
  {rest : List UInt8} {e : NetEvent}

theorem netDispatch_onWire (net : Net) {bytes : List UInt8} (hw : OnWire a b bytes e) :
    netDispatch t net e = ethernetReceiveEvent t net e := by
  unfold netDispatch schedulerDispatch
  rw [hw.handler]
  rfl

/-- A frame for the interface is handed to its receive handler, stripped of the
    header that stays before the data. -/
theorem netDispatch_accept (net : Net)
    (hw : OnWire a b (ethernetHeader dstMac srcMac ethertype ++ rest) e)
    (herr : (t.iface b).errDisabled = false)
    (hacc : EthAccepts (t.iface b).mac dstMac ethertype) :
    ∃ pkt : Packet, pkt.bytes = rest ∧
      pkt.header ethHdrLen = ethernetHeader dstMac srcMac ethertype ∧
      pkt.data = pktHeadroom + ethHdrLen ∧
      netDispatch t net e = match (t.iface b).rxHandler with
        | none => net.rxBytes b pkt.len
        | some h =>
          rxHandle t ((net.rxBytes b pkt.len).record (.rxHandler b pkt ethertype)) b pkt ethertype
            h := by
  obtain ⟨frame, hframe, hbytes, hdata⟩ := hw.packet
  obtain ⟨pkt, h1, h2, h3, h4⟩ := ethernetReceive_accept net herr hbytes hacc
  refine ⟨pkt, h1, h2, by rw [h3, hdata], ?_⟩
  rw [netDispatch_onWire net hw]
  simp only [ethernetReceiveEvent, hw.dst, hframe, h4, if_true]

theorem netDispatch_reject (net : Net)
    (hw : OnWire a b (ethernetHeader dstMac srcMac ethertype ++ rest) e)
    (herr : (t.iface b).errDisabled = false)
    (hacc : ¬ EthAccepts (t.iface b).mac dstMac ethertype) :
    netDispatch t net e = net.rxDropped b := by
  obtain ⟨frame, hframe, hbytes, -⟩ := hw.packet
  have hrej := ethernetReceive_reject net herr hbytes hacc
  have h0 : ¬ (1 : ℤ) = 0 := by decide
  rw [netDispatch_onWire net hw]
  simp only [ethernetReceiveEvent, hw.dst, hframe, hrej, if_neg h0, if_true]

theorem netDispatch_disabled (net : Net) {bytes : List UInt8} (hw : OnWire a b bytes e)
    (herr : (t.iface b).errDisabled = true) : netDispatch t net e = net.rxErrors b := by
  obtain ⟨frame, hframe, -, -⟩ := hw.packet
  have h0 : ¬ (-1 : ℤ) = 0 := by decide
  have h1 : ¬ (-1 : ℤ) = 1 := by decide
  have hrecv : ethernetReceive t net b frame = (net, -1, frame, 0) := by
    unfold ethernetReceive
    simp only [herr, if_true, ite_self]
  rw [netDispatch_onWire net hw]
  simp only [ethernetReceiveEvent, hw.dst, hframe, hrecv, if_neg h0, if_neg h1]

/-- The only receive handler that a frame calls is the one of the interface it
    is sent to, with the header as it was on the wire. -/
theorem netDispatch_rx {net : Net} {iface : IfaceRef} {pkt : Packet} {ethertype' : UInt16}
    (hw : OnWire a b (ethernetHeader dstMac srcMac ethertype ++ rest) e)
    (hm : Made net (netDispatch t net e) (.rxHandler iface pkt ethertype')) :
    iface = b ∧ pkt.header ethHdrLen = ethernetHeader dstMac srcMac ethertype := by
  have hnone : ∀ f : IfaceStats → IfaceStats,
      ¬ Made net (net.addStats b f) (.rxHandler iface pkt ethertype') := fun f =>
    not_made (net.addStats_calls b f) _
  have herr : (t.iface b).errDisabled = false := by
    rw [← Bool.not_eq_true]
    intro h
    rw [netDispatch_disabled net hw h] at hm
    exact hnone _ hm
  by_cases hacc : EthAccepts (t.iface b).mac dstMac ethertype
  · obtain ⟨pkt', -, hheader, -, hdisp⟩ := netDispatch_accept net hw herr hacc
    rw [hdisp] at hm
    cases hrx : (t.iface b).rxHandler with
    | none =>
      rw [hrx] at hm
      exact absurd hm (hnone _)
    | some h =>
      rw [hrx] at hm
      have hcount : Sends (fun _ => True) net (net.rxBytes b pkt'.len) :=
        net.addStats_sends _ b _
      have hrec := Net.record_sends (net.rxBytes b pkt'.len) (P := fun _ => True)
        (c := .rxHandler b pkt' ethertype) trivial
      have hhandle := rxHandle_sends t
        ((net.rxBytes b pkt'.len).record (.rxHandler b pkt' ethertype)) b pkt' ethertype h
      rw [(hcount.trans hrec).made_trans hhandle, hcount.made_trans hrec] at hm
      rcases hm with (hm | hm) | hm
      · exact absurd hm (hnone _)
      · rw [made_iff (Net.record_calls _ _), List.mem_singleton] at hm
        cases hm
        exact ⟨rfl, hheader⟩
      · exact (hhandle.of_made hm).elim
  · rw [netDispatch_reject net hw herr hacc] at hm
    exact absurd hm (hnone _)

end

/-! ## Runs -/

/-- Every pending event is one of the packet path. -/
def PathQueue (net : Net) : Prop := ∀ e ∈ net.sched.eq, NetEvent.OfPath e

theorem Sends.pathQueue {P : NetCall → Prop} {net net' : Net} (h : Sends P net net')
    (hq : PathQueue net) : PathQueue net' := fun e he => (h.queue e he).elim (hq e) id

/-- An event of the packet path runs its own handler. -/
theorem netDispatch_sends {t : Topology} (net : Net) {e : NetEvent} (he : NetEvent.OfPath e) :
    Sends (fun _ => True) net (netDispatch t net e) := by
  unfold netDispatch schedulerDispatch
  rcases he with h | ⟨sw, h⟩
  · rw [h]
    exact ethernetReceiveEvent_sends _ _ _
  · rw [h]
    exact (macAgeHandler_sends _ _).mono fun _ _ => trivial

theorem netStep_sends {t : Topology} {net : Net} (hq : PathQueue net) :
    Sends (fun _ => True) net (netStep t net) := by
  unfold netStep
  split
  · exact Sends.refl _ net
  · rename_i e sched hstep
    obtain ⟨heq, hhandlers, -⟩ := schedulerStep_eq_some hstep
    have hpop : Sends (fun _ => True) net { net with sched := sched } :=
      ⟨fun _ => rfl, hhandlers, fun x hx => .inl (by rw [heq]; exact List.mem_cons_of_mem _ hx),
        [], (List.append_nil _).symm, by simp⟩
    exact hpop.trans (netDispatch_sends _ (hq e (by rw [heq]; exact List.mem_cons_self)))

/-- A run of frames records what it does, schedules frames only, and neither adds
    an address to an ARP cache nor takes one out. -/
theorem netRun_sends {t : Topology} (n : ℕ) :
    ∀ {net : Net}, PathQueue net → Sends (fun _ => True) net (netRun t n net) := by
  induction n with
  | zero => exact fun {net} _ => Sends.refl _ net
  | succ n ih =>
    intro net hq
    have hstep := netStep_sends (t := t) hq
    exact hstep.trans (ih (hstep.pathQueue hq))

end FrameRunner
