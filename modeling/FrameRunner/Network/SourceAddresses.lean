import FrameRunner.Network.Accounting
import FrameRunner.Network.LearningBridge

/-!
# What a switch can learn (`network/switch.c`, `protocols/ethernet.c`)

`ethernet_send` writes the address of its own interface into the header, on hosts, routers
and switches alike, and `link_transmit` takes the frame over one link. So a frame names the
interface at the other end of the link as its source (`FromLink`), and this is what a switch
learns: `Wires` says what the packet path does to the pending events and to the tables,
`WireInv` what holds in between.

Main result: `macTable_neighbors`. Whatever happens in the network, the table of a switch has
no other addresses than those of the interfaces at the other ends of its ports' links.
-/

namespace FrameRunner

open FrameRunner.Lib

/-- A frame under the header of an interface, on its way to the other end of its link. -/
def FromLink (t : Topology) (e : NetEvent) : Prop :=
  ∃ a b dstMac ethertype rest, LinksTo t a b ∧
    OnWire a b (ethernetHeader dstMac (t.iface a).mac ethertype ++ rest) e

/-- The new events are frames on links, and no table has changed. -/
structure Wires (t : Topology) (net net' : Net) : Prop where
  handlers : net'.sched.handlers = net.sched.handlers
  queue : ∀ e ∈ net'.sched.eq, e ∈ net.sched.eq ∨ FromLink t e
  macTbl : net'.macTbl = net.macTbl

namespace Wires

variable {t : Topology} {net net' net'' : Net}

/-- Neither the scheduler nor a table has changed. -/
theorem of_same (hsched : net'.sched = net.sched) (hmac : net'.macTbl = net.macTbl) :
    Wires t net net' :=
  ⟨by rw [hsched], fun e he => .inl (hsched ▸ he), hmac⟩

theorem refl (net : Net) : Wires t net net := of_same rfl rfl

theorem trans (h : Wires t net net') (h' : Wires t net' net'') : Wires t net net'' := by
  refine ⟨h'.handlers.trans h.handlers, fun e he => ?_, h'.macTbl.trans h.macTbl⟩
  rcases h'.queue e he with he | he
  · exact h.queue e he
  · exact .inr he

theorem ofOption {cache : Option CacheRef} {next : CacheRef → Net}
    (h : ∀ c, Wires t net (next c)) :
    Wires t net (match cache with
      | none => net
      | some c => next c) := by
  cases cache with
  | none => exact refl net
  | some c => exact h c

end Wires

/-! ## The sending path -/

section
variable {t : Topology}

theorem ethernetSend_wires (net : Net) (iface : IfaceRef) (dstMac : Mac) (ethertype : UInt16)
    (payload : Packet) : Wires t net (ethernetSend t net iface dstMac ethertype payload).1 := by
  rcases ethernetSend_cases t net iface dstMac ethertype payload with
    ⟨-, h, -⟩ | ⟨-, dst, e, hsend, hwire, h⟩
  · exact .of_same h.sched h.macTbl
  · refine ⟨by rw [h.sched]; rfl, fun x hx => ?_, h.macTbl⟩
    rw [h.sched, mem_schedulerSchedule] at hx
    rcases hx with rfl | hx
    · exact .inr ⟨iface, dst, dstMac, ethertype, payload.bytes, hsend.links, hwire⟩
    · exact .inl hx

/-- A packet is counted before it is sent. -/
theorem ipSent_wires (net : Net) (iface : IfaceRef) (dstMac : Mac) (packet : Packet) :
    Wires t net
      (ethernetSend t (net.txBytes iface packet.len) iface dstMac ethertypeIpv4 packet).1 := by
  have hcount : Wires t net (net.txBytes iface packet.len) := .of_same rfl rfl
  exact hcount.trans (ethernetSend_wires _ _ _ _ _)

theorem arpSendRequest_wires (net : Net) (iface : IfaceRef) (targetIp : UInt32) :
    Wires t net (arpSendRequest t net iface targetIp).1 := by
  have halloc : Wires t net net.alloc := .of_same rfl rfl
  unfold arpSendRequest
  split
  · exact .refl net
  · exact halloc.trans (ethernetSend_wires _ _ _ _ _)

theorem arpSendReply_wires (net : Net) (iface : IfaceRef) (reqPkt : Packet) :
    Wires t net (arpSendReply t net iface reqPkt).1 := by
  have halloc : Wires t net net.alloc := .of_same rfl rfl
  unfold arpSendReply
  split
  · exact .refl net
  · exact halloc.trans (ethernetSend_wires _ _ _ _ _)

theorem arpRequestAndQueue_wires (net : Net) (cache : CacheRef) (iface : IfaceRef)
    (targetIp : UInt32) (packet : Packet) :
    Wires t net (arpRequestAndQueue t net cache iface targetIp packet).1 := by
  have hreq := arpSendRequest_wires (t := t) net iface targetIp
  unfold arpRequestAndQueue
  dsimp only
  split
  · exact hreq
  split
  · exact hreq.trans (.of_same rfl rfl)
  · exact hreq.trans (.of_same rfl rfl)

theorem ipSend_wires (net : Net) (iface : IfaceRef) (dstMac : Mac) (srcIp dstIp : UInt32)
    (protocol : UInt8) (payload : Packet) :
    Wires t net (ipSend t net iface dstMac srcIp dstIp protocol payload).1 := by
  unfold ipSend
  split
  · exact .refl net
  · exact ipSent_wires _ _ _ _

theorem ipOutput_wires (net : Net) (srcIp dstIp : UInt32) (protocol : UInt8) (payload : Packet) :
    Wires t net (ipOutput t net srcIp dstIp protocol payload).1 := by
  have hrecord : Wires t net (net.record (.ipOutput srcIp dstIp protocol payload.bytes)) :=
    .of_same rfl rfl
  refine hrecord.trans ?_
  unfold ipOutput
  dsimp only
  generalize net.record (.ipOutput srcIp dstIp protocol payload.bytes) = net
  split
  · exact .refl net
  split
  · exact .refl net
  split
  · split
    · exact .refl net
    split
    · exact .refl net
    · exact ipSent_wires _ _ _ _
  · split
    · exact .refl net
    split
    · exact .refl net
    split
    · exact .refl net
    split
    · exact arpRequestAndQueue_wires _ _ _ _ _
    · exact ipSent_wires _ _ _ _

theorem arpPendingFlush_wires (net : Net) (cache : CacheRef) (targetIp : UInt32) (macAddr : Mac) :
    Wires t net (arpPendingFlush t net cache targetIp macAddr).1 := by
  have hround : ∀ (acc : Net × ℤ) (i : Fin arpMaxPendingPackets),
      Wires t acc.1 (arpPendingFlushEntry t cache targetIp macAddr acc i).1 := by
    intro acc i
    obtain ⟨net, sent⟩ := acc
    have hcleared : ∀ c, Wires t net (net.setArp cache c) := fun c => .of_same rfl rfl
    unfold arpPendingFlushEntry
    dsimp only
    split
    · exact .refl net
    cases ((net.arp cache).pending i).iface with
    | none => exact hcleared _
    | some iface =>
      cases ((net.arp cache).pending i).packet with
      | none => exact hcleared _
      | some packet => exact (hcleared _).trans (ethernetSend_wires _ _ _ _ _)
  unfold arpPendingFlush
  split
  · exact .refl net
  · rw [Slots.forEach]
    exact run_related (fun acc acc' : Net × ℤ => Wires t acc.1 acc'.1) (fun acc => .refl acc.1)
      (fun h h' => h.trans h') hround _ (net, 0)

theorem icmpSendError_wires (net : Net) (iface : IfaceRef) (origPkt : Packet)
    (type code : UInt8) (nextHopMtu : UInt16) :
    Wires t net (icmpSendError t net iface origPkt type code nextHopMtu).1 := by
  have halloc : Wires t net net.alloc := .of_same rfl rfl
  unfold icmpSendError
  dsimp only
  split
  · exact .of_same rfl rfl
  split
  · exact .refl net
  have hsent := halloc.trans (ipOutput_wires (t := t) net.alloc (t.iface iface).ipAddr
    (getIpHeader (origPkt.header ipHdrLen)).srcIp ipprotoIcmp
    (packetFill (t.memory net.allocs) (icmpErrorMessage type code nextHopMtu (icmpQuote origPkt))))
  split
  · exact hsent.trans (.of_same rfl rfl)
  · exact hsent

/-! ## The receiving path -/

theorem udpReceive_wires (net : Net) (iface : IfaceRef) (pkt : Packet) (ctx : UdpContext) :
    Wires t net (udpReceive t net iface pkt ctx).1 := by
  have herr : Wires t net (net.rxErrors iface) := .of_same rfl rfl
  unfold udpReceive
  dsimp only
  split
  · exact herr
  split
  · exact herr
  split
  · exact herr
  split
  · exact herr
  split
  · split
    · exact herr
    · exact .of_same rfl rfl
  · split
    · exact icmpSendError_wires _ _ _ _ _ _
    · exact .of_same rfl rfl

theorem ipReceive_wires (net : Net) (iface : IfaceRef) (frame : Packet) (stack : StackRef) :
    Wires t net (ipReceive t net iface frame stack).1 := by
  have hbytes : Wires t net (net.rxBytes iface frame.len) := .of_same rfl rfl
  unfold ipReceive
  dsimp only
  split
  · exact .refl net
  split
  · exact .of_same rfl rfl
  split
  · exact .of_same rfl rfl
  split
  · exact hbytes
  split
  · exact hbytes
  · exact hbytes.trans (udpReceive_wires _ _ _ _)
  · exact .of_same rfl rfl

theorem routerReceive_wires (net : Net) (router : Router) (iface : IfaceRef) (pkt : Packet) :
    Wires t net (routerReceive t net router iface pkt).1 := by
  have hdropped : ∀ net : Net, Wires t net (net.rxDropped iface) := fun net => .of_same rfl rfl
  unfold routerReceive
  dsimp only
  split
  · exact .of_same rfl rfl
  split
  · exact ipReceive_wires _ _ _ _
  split
  · exact (icmpSendError_wires _ _ _ _ _ _).trans (hdropped _)
  split
  · exact (icmpSendError_wires _ _ _ _ _ _).trans (hdropped _)
  split
  · exact .refl net
  split
  · exact ethernetSend_wires _ _ _ _ _
  · exact arpRequestAndQueue_wires _ _ _ _ _

theorem arpLearnSender_wires (net : Net) (iface : IfaceRef) (pkt : Packet) (timestamp : UInt64) :
    Wires t net (arpLearnSender t net iface pkt timestamp) := by
  -- the two branches are compared before the loop of the flush is looked at
  have hadded : ∀ cache c, Wires t net (net.setArp cache c) := fun _ _ => .of_same rfl rfl
  exact .ofOption fun cache => (hadded cache _).trans (arpPendingFlush_wires _ _ _ _)

theorem arpRequestHandler_wires (net : Net) (e : NetEvent) :
    Wires t net (arpRequestHandler t net e) := by
  unfold arpRequestHandler
  cases e.payload.dstDevice with
  | none => exact .refl net
  | some iface =>
    cases e.payload.packet with
    | none => exact .refl net
    | some pkt =>
      dsimp only
      split
      · exact .of_same rfl rfl
      split
      · exact .refl net
      split
      · exact .refl net
      have hboth := (arpSendReply_wires (t := t) net iface pkt).trans
        (arpLearnSender_wires (t := t) _ iface pkt e.timestamp)
      split
      · exact hboth
      · exact hboth.trans (.of_same rfl rfl)

theorem arpReplyHandler_wires (net : Net) (e : NetEvent) :
    Wires t net (arpReplyHandler t net e) := by
  unfold arpReplyHandler
  cases e.payload.dstDevice with
  | none => exact .refl net
  | some iface =>
    cases e.payload.packet with
    | none => exact .refl net
    | some pkt =>
      dsimp only
      split
      · exact .of_same rfl rfl
      split
      · exact .refl net
      · exact arpLearnSender_wires _ _ _ _

/-- What a switch does after it has learned the source of a frame. -/
theorem switchReceive_wires (net : Net) (sw : SwitchRef) (inPort : IfaceRef) (frame : Packet)
    (ethertype : UInt16) :
    Wires t net (switchReceive t net sw inPort frame ethertype) ∨
      ∃ table, macTableLearn (net.macTbl sw) (getMac (frame.header ethHdrLen) 6) inPort
          net.sched.now = some table ∧
        Wires t (net.setMacTbl sw table) (switchReceive t net sw inPort frame ethertype) := by
  have hport : ∀ (net : Net) (outPort : IfaceRef),
      Wires t net (switchFloodPort t inPort frame (getMac (frame.header ethHdrLen) 0) ethertype net
        outPort) := by
    intro net outPort
    have halloc : Wires t net net.alloc := .of_same rfl rfl
    unfold switchFloodPort
    split
    · exact halloc.trans (ethernetSend_wires _ _ _ _ _)
    · exact .refl net
  unfold switchReceive
  dsimp only
  split
  · exact .inl (.refl net)
  split
  · exact .inl (.of_same rfl rfl)
  split
  · exact .inl (.of_same rfl rfl)
  rename_i table htable
  refine .inr ⟨table, htable, ?_⟩
  split
  · exact run_related (Wires t) .refl (fun h h' => h.trans h') hport _ _
  split
  · exact .of_same rfl rfl
  split
  · exact ethernetSend_wires _ _ _ _ _
  · exact .of_same rfl rfl

/-! ## The tables -/

/-- The address is that of the interface at the other end of the port's link. -/
def MacEntry.OfLink (t : Topology) (entry : MacEntry) : Prop :=
  entry.valid = true →
    ∃ a port, entry.port = some port ∧ LinksTo t a port ∧ entry.mac = (t.iface a).mac

theorem macTableLearn_ofLink {table table' : MacTable} {a port : IfaceRef} {now : UInt64}
    (hlinks : LinksTo t a port) (h : ∀ i, (table.entries i).OfLink t)
    (hlearn : macTableLearn table (t.iface a).mac port now = some table') :
    ∀ i, (table'.entries i).OfLink t := by
  rcases macTableLearn_cases table (t.iface a).mac port now with
    ⟨-, hfull⟩ | ⟨j, x, -, -, hmac, hport, -, hstored⟩
  · rw [hfull] at hlearn
    cases hlearn
  · rw [hstored] at hlearn
    cases hlearn
    exact Slots.forall_update h (fun _ => ⟨a, port, hport, hlinks, hmac⟩) j

theorem macTableAge_ofLink {table : MacTable} (h : ∀ i, (table.entries i).OfLink t)
    (now : UInt64) : ∀ i, ((macTableAge table now).entries i).OfLink t := by
  intro i
  unfold macTableAge
  dsimp only
  split
  · intro hvalid
    cases hvalid
  · exact h i

/-! ## The invariant -/

theorem schedulerDispatch_congr {s s' : Scheduler NetCallback NetPayload}
    (h : s'.handlers = s.handlers) (e : NetEvent) :
    schedulerDispatch s' e = schedulerDispatch s e := by
  unfold schedulerDispatch
  rw [h]

/-- The pending frames come from links, and so do the addresses in the tables. -/
structure WireInv (t : Topology) (handlers : EventType → Option NetCallback) (net : Net) :
    Prop where
  handlers : net.sched.handlers = handlers
  frames : ∀ e ∈ net.sched.eq,
    schedulerDispatch net.sched e = some .ethernetReceiveEvent → FromLink t e
  tables : ∀ sw i, ((net.macTbl sw).entries i).OfLink t

variable {handlers : EventType → Option NetCallback} {net net' : Net} {e : NetEvent}

theorem WireInv.wires (I : WireInv t handlers net) (h : Wires t net net') :
    WireInv t handlers net' := by
  refine ⟨h.handlers.trans I.handlers, fun e he hdisp => ?_, fun sw i => ?_⟩
  · rw [schedulerDispatch_congr h.handlers] at hdisp
    rcases h.queue e he with he | he
    · exact I.frames e he hdisp
    · exact he
  · rw [h.macTbl]
    exact I.tables sw i

theorem WireInv.setMacTbl (I : WireInv t handlers net) (sw : SwitchRef) {table : MacTable}
    (h : ∀ i, (table.entries i).OfLink t) : WireInv t handlers (net.setMacTbl sw table) := by
  refine ⟨I.handlers, I.frames, fun sw' i => ?_⟩
  by_cases hsw : sw' = sw
  · subst hsw
    rw [Net.setMacTbl_macTbl, Function.update_self]
    exact h i
  · rw [Net.setMacTbl_macTbl, Function.update_of_ne hsw]
    exact I.tables sw' i

theorem WireInv.schedule (I : WireInv t handlers net)
    (he : schedulerDispatch net.sched e = some .ethernetReceiveEvent → FromLink t e) :
    WireInv t handlers (net.schedule e) := by
  refine ⟨I.handlers, fun x hx hdisp => ?_, I.tables⟩
  rw [Net.schedule_sched, mem_schedulerSchedule] at hx
  rcases hx with rfl | hx
  · exact he hdisp
  · exact I.frames x hx hdisp

/-- A switch forgets old addresses. -/
theorem WireInv.age (I : WireInv t handlers net) (sw : SwitchRef) :
    WireInv t handlers (macAgeHandler net sw) := by
  have hne : some (NetCallback.macAgeHandler sw) ≠ some .ethernetReceiveEvent := by simp
  exact (I.setMacTbl sw (macTableAge_ofLink (I.tables sw) _)).schedule fun h => absurd h hne

/-- A frame that comes from a link is taken, and a switch learns the other end of it. -/
theorem WireInv.frame (I : WireInv t handlers net) (he : FromLink t e) :
    WireInv t handlers (netDispatch t net e) := by
  obtain ⟨a, b, dstMac, ethertype, rest, hlinks, hwire⟩ := he
  cases herr : (t.iface b).errDisabled with
  | true =>
    rw [netDispatch_disabled net hwire herr]
    exact I.wires (.of_same rfl rfl)
  | false =>
    by_cases hacc : EthAccepts (t.iface b).mac dstMac ethertype
    · obtain ⟨pkt, -, hheader, -, hdisp⟩ := netDispatch_accept net hwire herr hacc
      have hcounted : WireInv t handlers (net.rxBytes b pkt.len) := I.wires (.of_same rfl rfl)
      have hrecord : WireInv t handlers
          ((net.rxBytes b pkt.len).record (.rxHandler b pkt ethertype)) := I.wires (.of_same rfl rfl)
      rw [hdisp]
      generalize (net.rxBytes b pkt.len).record (.rxHandler b pkt ethertype) = net₁ at hrecord ⊢
      cases (t.iface b).rxHandler with
      | none => exact hcounted
      | some handler =>
        cases handler with
        | ip stack => exact hrecord.wires (ipReceive_wires net₁ b pkt stack)
        | router router =>
          show WireInv t handlers (routerRxShim t net₁ (t.router router) b pkt ethertype)
          unfold routerRxShim
          split
          · exact hrecord.wires (.of_same rfl rfl)
          · exact hrecord.wires (routerReceive_wires net₁ (t.router router) b pkt)
        | switch sw =>
          show WireInv t handlers (switchReceive t net₁ sw b pkt ethertype)
          rcases switchReceive_wires (t := t) net₁ sw b pkt ethertype with
            h | ⟨table, hlearn, h⟩
          · exact hrecord.wires h
          · rw [hheader] at hlearn
            have hlearned := macTableLearn_ofLink hlinks (hrecord.tables sw) hlearn
            exact (hrecord.setMacTbl sw hlearned).wires h
        | app fn => exact hrecord
    · rw [netDispatch_reject net hwire herr hacc]
      exact I.wires (.of_same rfl rfl)

theorem WireInv.step (I : WireInv t handlers net) : WireInv t handlers (netStep t net) := by
  unfold netStep
  split
  · exact I
  · rename_i e sched hstep
    obtain ⟨heq, hhandlers, -⟩ := schedulerStep_eq_some hstep
    have hpop : WireInv t handlers { net with sched := sched } := by
      refine ⟨hhandlers.trans I.handlers, fun x hx hdisp => ?_, I.tables⟩
      refine I.frames x (by rw [heq]; exact List.mem_cons_of_mem _ hx) ?_
      rwa [schedulerDispatch_congr hhandlers] at hdisp
    cases hdisp : schedulerDispatch sched e with
    | none =>
      simp only [netDispatch, hdisp]
      exact hpop
    | some fn =>
      cases fn with
      | ethernetReceiveEvent =>
        refine hpop.frame (I.frames e (by rw [heq]; exact List.mem_cons_self) ?_)
        rwa [schedulerDispatch_congr hhandlers] at hdisp
      | arpRequestHandler =>
        simp only [netDispatch, hdisp]
        exact hpop.wires (arpRequestHandler_wires _ e)
      | arpReplyHandler =>
        simp only [netDispatch, hdisp]
        exact hpop.wires (arpReplyHandler_wires _ e)
      | macAgeHandler sw =>
        simp only [netDispatch, hdisp]
        exact hpop.age sw
      | other fn =>
        simp only [netDispatch, hdisp]
        exact hpop

/-- An action that does not make up a frame. -/
theorem WireInv.act (I : WireInv t handlers net) (action : NetAction)
    (hframe : ∀ e, action = .schedule e →
      schedulerDispatch net.sched e ≠ some .ethernetReceiveEvent) :
    WireInv t handlers (netAct t net action) := by
  cases action with
  | ethernetSend iface dstMac ethertype payload => exact I.wires (ethernetSend_wires _ _ _ _ _)
  | ipSend iface dstMac srcIp dstIp protocol payload => exact I.wires (ipSend_wires _ _ _ _ _ _ _)
  | ipOutput srcIp dstIp protocol payload => exact I.wires (ipOutput_wires _ _ _ _ _)
  | schedule e => exact I.schedule fun hdisp => absurd hdisp (hframe e rfl)
  | step => exact I.step

end

/-! ## Runs -/

/-- In every run of the network in which all frames are put on the wire by `ethernet_send`, a
    frame on its way has the address of the interface at the other end of the link as its
    source, and so a switch sends frames for an address out of a port only if that is the
    address of the interface at the other end of the port's link. -/
theorem macTable_neighbors (t : Topology) (net : Net) (actions : List NetAction)
    (hqueue : net.sched.eq = [])
    (hempty : ∀ sw i, ((net.macTbl sw).entries i).valid = false)
    (hframes : ∀ e, .schedule e ∈ actions →
      schedulerDispatch net.sched e ≠ some .ethernetReceiveEvent) :
    let net' := run (netAct t) net actions
    (∀ e ∈ net'.sched.eq,
      schedulerDispatch net'.sched e = some .ethernetReceiveEvent → FromLink t e) ∧
    ∀ sw mac port, macTableLookup (net'.macTbl sw) mac = some port →
      ∃ a, LinksTo t a port ∧ (t.iface a).mac = mac := by
  intro net'
  have hinit : WireInv t net.sched.handlers net := by
    refine ⟨rfl, fun e he => ?_, fun sw i hvalid => ?_⟩
    · rw [hqueue] at he
      exact absurd he List.not_mem_nil
    · exact absurd (hvalid.symm.trans (hempty sw i)) (by decide)
  have I : WireInv t net.sched.handlers net' :=
    run_invariant_mem (WireInv t net.sched.handlers) (fun s action haction I =>
      I.act action fun e he => by
        rw [schedulerDispatch_congr I.handlers]
        exact hframes e (he ▸ haction)) hinit
  refine ⟨I.frames, fun sw mac port hlookup => ?_⟩
  unfold macTableLookup at hlookup
  split at hlookup
  · rename_i i hfind
    rw [macTableFind_eq] at hfind
    obtain ⟨hvalid, hmac⟩ := Keyed.find_eq_some hfind
    obtain ⟨a, port', hport, hlinks, hentry⟩ := I.tables sw i hvalid
    obtain rfl := Option.some.inj (hport.symm.trans hlookup)
    exact ⟨a, hlinks, hentry.symm.trans hmac⟩
  · cases hlookup

/-- Host 0 sends a broadcast and its frame comes to the switch. -/
def exampleBroadcast : List NetAction :=
  [.ethernetSend 0 ethBroadcast ethertypeIpv4 (packetFill (fun _ => 0) [1, 2, 3]), .step]

theorem macTable_neighbors_exampleBroadcast :
    macTableLookup ((run (netAct (exampleSwitch ownMac)) netInit exampleBroadcast).macTbl 0)
        (ownMac 0) = some 2 ∧
      ∃ a, LinksTo (exampleSwitch ownMac) a 2 ∧ ((exampleSwitch ownMac).iface a).mac = ownMac 0 := by
  have hlookup : macTableLookup
      ((run (netAct (exampleSwitch ownMac)) netInit exampleBroadcast).macTbl 0)
      (ownMac 0) = some 2 := by decide +kernel
  have hframes : ∀ e, .schedule e ∈ exampleBroadcast →
      schedulerDispatch netInit.sched e ≠ some .ethernetReceiveEvent := by
    intro e he
    simp [exampleBroadcast] at he
  obtain ⟨-, hneighbors⟩ := macTable_neighbors (exampleSwitch ownMac) netInit exampleBroadcast rfl
    (fun _ _ => rfl) hframes
  exact ⟨hlookup, hneighbors 0 (ownMac 0) 2 hlookup⟩

end FrameRunner
