import FrameRunner.Network.Topology

/-!
# Links and Ethernet (`network/link.c`, `protocols/ethernet.c`)

`ethernet_send` prepends a header with the sending interface's own MAC and hands
the frame to `link_transmit`, which puts a clone of it on the scheduler for the
other end. What a call of `ethernet_send` does is `ethernetSend_cases`: nothing
but a counter, or one event with the frame for the peer (`OnWire`).
-/

namespace FrameRunner

/-! ## Links -/

/-- `link_get_other_interface` (lines 46–59). -/
def linkGetOtherInterface (link : Link) (src : IfaceRef) : Option IfaceRef :=
  if src = link.endA then some link.endB
  else if src = link.endB then some link.endA
  else none

/-- `link_transmit` (lines 61–104); `now` is the time of the scheduler. -/
def linkTransmit (t : Topology) (net : Net) (link : Option LinkRef) (pkt : Packet) (src : IfaceRef)
    (rxHandler : NetCallback) : Net × ℤ :=
  match link with
  | none => (net, -1)
  | some l =>
    if !(t.link l).up then (net, -1)
    else
      match linkGetOtherInterface (t.link l) src with
      | none => (net, -1)
      | some dst =>
        if !(t.iface dst).up then (net, -1)
        else
          let pktClone := packetClone (t.memory net.allocs) pkt
          (net.alloc.schedule {
            type := .packetReceive
            timestamp := net.sched.now + (t.link l).delayMs.toUInt64
            payload := { srcDevice := some src, dstDevice := some dst, packet := some pktClone }
            handler := some rxHandler }, 1)

/-! ## Ethernet -/

def ethHdrLen : ℕ := 14
def ethertypeIpv4 : UInt16 := 0x0800
def ethertypeArp : UInt16 := 0x0806

/-- `mac_is_ipv4_multicast` (lines 11–17). -/
def macIsIpv4Multicast (mac : Mac) : Bool :=
  mac.b0 == 0x01 && mac.b1 == 0x00 && mac.b2 == 0x5e && mac.b3 &&& 0x80 == 0

/-- The bytes of an `EthernetHeader`. -/
def ethernetHeader (dstMac srcMac : Mac) (ethertype : UInt16) : List UInt8 :=
  dstMac.bytes ++ srcMac.bytes ++ be16 ethertype

/-- `ethernet_send` (lines 45–84): the network, the status, and the payload
    packet as the call leaves it. -/
def ethernetSend (t : Topology) (net : Net) (iface : IfaceRef) (dstMac : Mac) (ethertype : UInt16)
    (payload : Packet) : Net × ℤ × Packet :=
  if (t.iface iface).errDisabled then (net, -1, payload)
  else
    match packetPrepend payload (ethernetHeader dstMac (t.iface iface).mac ethertype) with
    | none => (net.txErrors iface, -1, payload)
    | some frame =>
      let net := net.txBytes iface frame.len
      let (net, res) := linkTransmit t net (t.iface iface).link frame iface .ethernetReceiveEvent
      (net, res, frame)

/-- `ethernet_receive` (lines 86–122): the status, and for status 0 the stripped
    frame with its EtherType. -/
def ethernetReceive (t : Topology) (net : Net) (iface : IfaceRef) (frame : Packet) :
    Net × ℤ × Packet × UInt16 :=
  if !packetValidateView frame 0 ethHdrLen then (net, -1, frame, 0)
  else if (t.iface iface).errDisabled then (net, -1, frame, 0)
  else
    let dstMac := getMac frame.bytes 0
    let ethertype := getU16 frame.bytes 12
    if dstMac ≠ (t.iface iface).mac ∧ dstMac ≠ ethBroadcast ∧
        !(ethertype == ethertypeIpv4 && macIsIpv4Multicast dstMac) then
      (net, 1, frame, 0)
    else
      match packetStrip frame ethHdrLen with
      | none => (net, -1, frame, 0)
      | some frame => (net.rxBytes iface frame.len, 0, frame, ethertype)

/-! ## What is on the wire -/

@[simp] theorem length_ethernetHeader (dstMac srcMac : Mac) (ethertype : UInt16) :
    (ethernetHeader dstMac srcMac ethertype).length = ethHdrLen := rfl

@[simp] theorem getMac_ethernetHeader_dst (dstMac srcMac : Mac) (ethertype : UInt16)
    (rest : List UInt8) : getMac (ethernetHeader dstMac srcMac ethertype ++ rest) 0 = dstMac := rfl

@[simp] theorem getMac_ethernetHeader_src (dstMac srcMac : Mac) (ethertype : UInt16)
    (rest : List UInt8) : getMac (ethernetHeader dstMac srcMac ethertype ++ rest) 6 = srcMac := rfl

@[simp] theorem getU16_ethernetHeader (dstMac srcMac : Mac) (ethertype : UInt16)
    (rest : List UInt8) :
    getU16 (ethernetHeader dstMac srcMac ethertype ++ rest) 12 = ethertype := by
  rw [ethernetHeader, List.append_assoc]
  exact getU16_append _ _ _ rfl

/-- A frame that `iface` sends reaches `dst`: its link and the other end are up. -/
structure LinksTo (t : Topology) (iface dst : IfaceRef) : Prop where
  ex : ∃ l, (t.iface iface).link = some l ∧ (t.link l).up = true ∧
    linkGetOtherInterface (t.link l) iface = some dst
  dst_up : (t.iface dst).up = true

theorem LinksTo.unique {t : Topology} {iface dst dst' : IfaceRef} (h : LinksTo t iface dst)
    (h' : LinksTo t iface dst') : dst = dst' := by
  obtain ⟨l, hl, -, hd⟩ := h.ex
  obtain ⟨l', hl', -, hd'⟩ := h'.ex
  rw [hl] at hl'
  cases hl'
  exact Option.some.inj (hd.symm.trans hd')

/-- The event by which a frame with these bytes travels from `iface` to `dst`. -/
structure OnWire (iface dst : IfaceRef) (bytes : List UInt8) (e : NetEvent) : Prop where
  type : e.type = .packetReceive
  handler : e.handler = some .ethernetReceiveEvent
  src : e.payload.srcDevice = some iface
  dst : e.payload.dstDevice = some dst
  packet : ∃ pkt, e.payload.packet = some pkt ∧ pkt.bytes = bytes ∧ pkt.data = pktHeadroom

instance (iface dst : IfaceRef) (bytes : List UInt8) (e : NetEvent) :
    Decidable (OnWire iface dst bytes e) :=
  decidable_of_iff (e.type = .packetReceive ∧ e.handler = some .ethernetReceiveEvent ∧
      e.payload.srcDevice = some iface ∧ e.payload.dstDevice = some dst ∧
      ∃ pkt ∈ e.payload.packet, pkt.bytes = bytes ∧ pkt.data = pktHeadroom)
    ⟨fun ⟨h1, h2, h3, h4, h5⟩ => ⟨h1, h2, h3, h4, h5⟩, fun h => ⟨h.1, h.2, h.3, h.4, h.5⟩⟩

/-- A call put such an event on the scheduler. -/
def Net.carries (net : Net) (iface dst : IfaceRef) (bytes : List UInt8) : Bool :=
  net.calls.any fun
    | .schedule e => decide (OnWire iface dst bytes e)
    | _ => false

theorem Net.exists_of_carries {net : Net} {iface dst : IfaceRef} {bytes : List UInt8}
    (h : net.carries iface dst bytes = true) :
    ∃ e, .schedule e ∈ net.calls ∧ OnWire iface dst bytes e := by
  obtain ⟨c, hc, hwire⟩ := List.any_eq_true.mp h
  cases c with
  | schedule e => exact ⟨e, hc, of_decide_eq_true hwire⟩
  | ipOutput => cases hwire
  | rxHandler => cases hwire
  | protocol => cases hwire
  | udpRecv => cases hwire

/-- The network after a call that may count, and nothing else. -/
structure SameButStats (net net' : Net) : Prop where
  sched : net'.sched = net.sched
  arp : net'.arp = net.arp
  macTbl : net'.macTbl = net.macTbl
  calls : net'.calls = net.calls

/-- The network after a call that schedules the event `e` and nothing else. -/
structure Schedules (net net' : Net) (e : NetEvent) : Prop where
  sched : net'.sched = schedulerSchedule net.sched e
  arp : net'.arp = net.arp
  macTbl : net'.macTbl = net.macTbl
  calls : net'.calls = net.calls ++ [.schedule e]

/-- `link_transmit` fails and does nothing, or puts the frame on the wire. -/
theorem linkTransmit_cases (t : Topology) (net : Net) (pkt : Packet) (iface : IfaceRef) :
    let r := linkTransmit t net (t.iface iface).link pkt iface .ethernetReceiveEvent
    (r.2 = -1 ∧ r.1 = net ∧ ∀ dst, ¬ LinksTo t iface dst) ∨
      (r.2 = 1 ∧ ∃ dst e, LinksTo t iface dst ∧ OnWire iface dst pkt.bytes e ∧
        Schedules net r.1 e) := by
  intro r
  have hr : linkTransmit t net (t.iface iface).link pkt iface .ethernetReceiveEvent = r := rfl
  clear_value r
  unfold linkTransmit at hr
  split at hr
  · rename_i hlink
    cases hr
    refine .inl ⟨rfl, rfl, fun dst h => ?_⟩
    obtain ⟨l, hl, -⟩ := h.ex
    simp [hlink] at hl
  · rename_i l hlink
    by_cases hup : (t.link l).up = true
    · rw [hup] at hr
      cases hother : linkGetOtherInterface (t.link l) iface with
      | none =>
        rw [hother] at hr
        cases hr
        refine .inl ⟨rfl, rfl, fun dst h => ?_⟩
        obtain ⟨l', hl', -, hd⟩ := h.ex
        rw [hlink] at hl'
        cases hl'
        simp [hother] at hd
      | some dst =>
        rw [hother] at hr
        by_cases hdst : (t.iface dst).up = true
        · simp only [hdst, Bool.not_true, Bool.false_eq_true, if_false] at hr
          cases hr
          exact .inr ⟨rfl, dst, _, ⟨⟨l, hlink, hup, hother⟩, hdst⟩,
            ⟨rfl, rfl, rfl, rfl, _, rfl, bytes_packetFill _ _, rfl⟩, ⟨rfl, rfl, rfl, rfl⟩⟩
        · simp only [hdst, Bool.not_true, Bool.not_false, Bool.false_eq_true, if_false,
            if_true] at hr
          cases hr
          refine .inl ⟨rfl, rfl, fun dst' h => ?_⟩
          have : dst = dst' := by
            obtain ⟨l', hl', -, hd⟩ := h.ex
            rw [hlink] at hl'
            cases hl'
            exact Option.some.inj (hother.symm.trans hd)
          exact hdst (this ▸ h.dst_up)
    · simp only [hup, Bool.not_false, if_true] at hr
      cases hr
      refine .inl ⟨rfl, rfl, fun dst h => ?_⟩
      obtain ⟨l', hl', hup', -⟩ := h.ex
      rw [hlink] at hl'
      cases hl'
      exact hup hup'

/-- Whether `ethernet_send` puts this packet on the wire towards `dst`. -/
structure CanSend (t : Topology) (iface dst : IfaceRef) (payload : Packet) : Prop where
  enabled : (t.iface iface).errDisabled = false
  room : ethHdrLen ≤ payload.data
  links : LinksTo t iface dst

/-- All that `ethernet_send` can do. -/
theorem ethernetSend_cases (t : Topology) (net : Net) (iface : IfaceRef) (dstMac : Mac)
    (ethertype : UInt16) (payload : Packet) :
    let r := ethernetSend t net iface dstMac ethertype payload
    (r.2.1 = -1 ∧ SameButStats net r.1 ∧ ∀ dst, ¬ CanSend t iface dst payload) ∨
      (r.2.1 = 1 ∧ ∃ dst e, CanSend t iface dst payload ∧
        OnWire iface dst (ethernetHeader dstMac (t.iface iface).mac ethertype ++ payload.bytes) e ∧
        Schedules net r.1 e) := by
  intro r
  have hr : ethernetSend t net iface dstMac ethertype payload = r := rfl
  clear_value r
  unfold ethernetSend at hr
  split at hr
  · rename_i herr
    cases hr
    exact .inl ⟨rfl, ⟨rfl, rfl, rfl, rfl⟩, fun dst h => by simpa [herr] using h.enabled⟩
  · rename_i herr
    split at hr
    · rename_i hnone
      cases hr
      refine .inl ⟨rfl, ⟨rfl, rfl, rfl, rfl⟩, fun dst h => ?_⟩
      have hroom : (ethernetHeader dstMac (t.iface iface).mac ethertype).length ≤ payload.data :=
        h.room
      obtain ⟨p', hp'⟩ := packetPrepend_isSome hroom
      simp [hnone] at hp'
    · rename_i frame hframe
      obtain ⟨hroom, -, hbytes⟩ := packetPrepend_eq_some hframe
      cases hr
      rcases linkTransmit_cases t (net.txBytes iface frame.len) frame iface with
        ⟨h1, h2, h3⟩ | ⟨h1, dst, e, h2, h3, h4⟩
      · refine .inl ⟨h1, ?_, fun dst h => h3 dst h.links⟩
        rw [h2]
        exact ⟨rfl, rfl, rfl, rfl⟩
      · rw [hbytes] at h3
        exact .inr ⟨h1, dst, e, ⟨by simpa using herr, hroom, h2⟩, h3, h4.sched, h4.arp, h4.macTbl,
          h4.calls⟩

/-! ## What arrives -/

/-- The destination filter of `ethernet_receive` (lines 103–107). -/
def EthAccepts (mac dstMac : Mac) (ethertype : UInt16) : Prop :=
  dstMac = mac ∨ dstMac = ethBroadcast ∨
    (ethertype == ethertypeIpv4 && macIsIpv4Multicast dstMac) = true

/-- A unicast frame is for the interface with its destination address alone. -/
theorem ethAccepts_unicast {mac dstMac : Mac} {ethertype : UInt16} (h : dstMac.IsUnicast) :
    EthAccepts mac dstMac ethertype ↔ dstMac = mac := by
  refine ⟨?_, .inl⟩
  rintro (rfl | rfl | hmulti)
  · rfl
  · exact absurd h (by decide)
  · simp only [macIsIpv4Multicast, Bool.and_eq_true, beq_iff_eq] at hmulti
    rw [Mac.IsUnicast, hmulti.2.1.1.1] at h
    exact absurd h (by decide)

variable {t : Topology} {iface : IfaceRef} {frame : Packet} {dstMac srcMac : Mac}
  {ethertype : UInt16} {rest : List UInt8}

/-- A frame for the interface is stripped, and its header stays before the data. -/
theorem ethernetReceive_accept (net : Net) (herr : (t.iface iface).errDisabled = false)
    (hbytes : frame.bytes = ethernetHeader dstMac srcMac ethertype ++ rest)
    (hacc : EthAccepts (t.iface iface).mac dstMac ethertype) :
    ∃ pkt : Packet, pkt.bytes = rest ∧
      pkt.header ethHdrLen = ethernetHeader dstMac srcMac ethertype ∧
      pkt.data = frame.data + ethHdrLen ∧
      ethernetReceive t net iface frame = (net.rxBytes iface pkt.len, 0, pkt, ethertype) := by
  have hlen : ethHdrLen ≤ frame.len := by
    rw [← frame.length_bytes, hbytes, List.length_append, length_ethernetHeader]
    omega
  have hview : packetValidateView frame 0 ethHdrLen = true :=
    packetValidateView_iff.mpr ⟨Nat.zero_le _, hlen⟩
  have hfilter : ¬ (dstMac ≠ (t.iface iface).mac ∧ dstMac ≠ ethBroadcast ∧
      (!(ethertype == ethertypeIpv4 && macIsIpv4Multicast dstMac)) = true) := by
    rintro ⟨h1, h2, h3⟩
    rcases hacc with h | h | h
    · exact h1 h
    · exact h2 h
    · simp [h] at h3
  obtain ⟨pkt, hstrip⟩ := packetStrip_isSome hlen
  obtain ⟨-, hdata, -, hrest, hheader⟩ := packetStrip_eq_some hstrip
  rw [hbytes] at hrest hheader
  refine ⟨pkt, hrest.trans (List.drop_left' (length_ethernetHeader ..)),
    hheader.trans (List.take_left' (length_ethernetHeader ..)), hdata, ?_⟩
  simp only [ethernetReceive, hview, herr, hbytes, getMac_ethernetHeader_dst,
    getU16_ethernetHeader, if_neg hfilter, hstrip, Bool.not_true, Bool.false_eq_true, if_false]

/-- Any other frame is dropped. -/
theorem ethernetReceive_reject (net : Net) (herr : (t.iface iface).errDisabled = false)
    (hbytes : frame.bytes = ethernetHeader dstMac srcMac ethertype ++ rest)
    (hacc : ¬ EthAccepts (t.iface iface).mac dstMac ethertype) :
    ethernetReceive t net iface frame = (net, 1, frame, 0) := by
  have hlen : ethHdrLen ≤ frame.len := by
    rw [← frame.length_bytes, hbytes, List.length_append, length_ethernetHeader]
    omega
  have hview : packetValidateView frame 0 ethHdrLen = true :=
    packetValidateView_iff.mpr ⟨Nat.zero_le _, hlen⟩
  have hfilter : dstMac ≠ (t.iface iface).mac ∧ dstMac ≠ ethBroadcast ∧
      (!(ethertype == ethertypeIpv4 && macIsIpv4Multicast dstMac)) = true :=
    ⟨fun h => hacc (.inl h), fun h => hacc (.inr (.inl h)), by
      rw [Bool.not_eq_true', ← Bool.not_eq_true]
      exact fun h => hacc (.inr (.inr h))⟩
  simp only [ethernetReceive, hview, herr, hbytes, getMac_ethernetHeader_dst,
    getU16_ethernetHeader, if_pos hfilter, Bool.not_true, Bool.false_eq_true, if_false]

/-! ## What sending leaves alone -/

/-- An event that the packet path schedules: it brings its own handler, which is
    not one of ARP's. -/
def NetEvent.OfPath (e : NetEvent) : Prop :=
  e.handler = some .ethernetReceiveEvent ∨ ∃ sw, e.handler = some (.macAgeHandler sw)

/-- The call was one of `scheduler_schedule`. -/
def NetCall.IsSchedule : NetCall → Prop
  | .schedule _ => True
  | _ => False

/-- The call was not one of a receive handler. -/
def NetCall.NotRx : NetCall → Prop
  | .rxHandler .. => False
  | _ => True

/-- The call hands a packet on its way out: to `ip_output` or to the scheduler. -/
def NetCall.IsOutput : NetCall → Prop
  | .ipOutput .. | .schedule _ => True
  | _ => False

theorem NetCall.IsSchedule.isOutput {c : NetCall} (h : c.IsSchedule) : c.IsOutput := by
  cases c <;> trivial

theorem NetCall.IsOutput.notRx {c : NetCall} (h : c.IsOutput) : c.NotRx := by
  cases c <;> trivial

/-- Every call between the two states satisfied `P`, every new event is one of the
    packet path, and no ARP cache gained or lost an address. -/
structure Sends (P : NetCall → Prop) (net net' : Net) : Prop where
  entries : ∀ c, (net'.arp c).entries = (net.arp c).entries
  handlers : net'.sched.handlers = net.sched.handlers
  queue : ∀ e ∈ net'.sched.eq, e ∈ net.sched.eq ∨ NetEvent.OfPath e
  calls : ∃ more, net'.calls = net.calls ++ more ∧ ∀ c ∈ more, P c

namespace Sends

variable {P Q : NetCall → Prop} {net net' net'' : Net}

theorem refl (P : NetCall → Prop) (net : Net) : Sends P net net :=
  ⟨fun _ => rfl, rfl, fun _ h => .inl h, [], (List.append_nil _).symm, by simp⟩

theorem trans (h : Sends P net net') (h' : Sends P net' net'') : Sends P net net'' := by
  obtain ⟨more, hmore, hP⟩ := h.calls
  obtain ⟨more', hmore', hP'⟩ := h'.calls
  refine ⟨fun c => (h'.entries c).trans (h.entries c), h'.handlers.trans h.handlers,
    fun e he => ?_, more ++ more', ?_, fun c hc => ?_⟩
  · rcases h'.queue e he with he | he
    · exact h.queue e he
    · exact .inr he
  · rw [hmore', hmore, List.append_assoc]
  · rcases List.mem_append.mp hc with hc | hc
    · exact hP c hc
    · exact hP' c hc

theorem mono (hPQ : ∀ c, P c → Q c) (h : Sends P net net') : Sends Q net net' := by
  obtain ⟨more, hmore, hP⟩ := h.calls
  exact ⟨h.entries, h.handlers, h.queue, more, hmore, fun c hc => hPQ c (hP c hc)⟩

end Sends

/-- The call was made between the two states. -/
def Made (net net' : Net) (c : NetCall) : Prop := ∃ more, net'.calls = net.calls ++ more ∧ c ∈ more

theorem made_iff {net net' : Net} {more : List NetCall} (h : net'.calls = net.calls ++ more)
    (c : NetCall) : Made net net' c ↔ c ∈ more := by
  refine ⟨?_, fun hc => ⟨more, h, hc⟩⟩
  rintro ⟨more', h', hc⟩
  rwa [← List.append_cancel_left (h'.symm.trans h)]

theorem not_made {net net' : Net} (h : net'.calls = net.calls) (c : NetCall) :
    ¬ Made net net' c := by
  rw [made_iff (h.trans (List.append_nil _).symm)]
  exact List.not_mem_nil

theorem Schedules.made_iff {net net' : Net} {e : NetEvent} (h : Schedules net net' e)
    (c : NetCall) : Made net net' c ↔ c = .schedule e := by
  rw [FrameRunner.made_iff h.calls, List.mem_singleton]

theorem Sends.of_made {P : NetCall → Prop} {net net' : Net} (h : Sends P net net') {c : NetCall}
    (hc : Made net net' c) : P c := by
  obtain ⟨more, hmore, hP⟩ := h.calls
  exact hP c ((FrameRunner.made_iff hmore c).mp hc)

/-- What was made in two stretches was made in one of them. -/
theorem Sends.made_trans {P Q : NetCall → Prop} {net net' net'' : Net} (h : Sends P net net')
    (h' : Sends Q net' net'') (c : NetCall) :
    Made net net'' c ↔ Made net net' c ∨ Made net' net'' c := by
  obtain ⟨more, hmore, -⟩ := h.calls
  obtain ⟨more', hmore', -⟩ := h'.calls
  have hboth : net''.calls = net.calls ++ (more ++ more') := by
    rw [hmore', hmore, List.append_assoc]
  rw [FrameRunner.made_iff hboth, FrameRunner.made_iff hmore, FrameRunner.made_iff hmore',
    List.mem_append]

theorem SameButStats.sends {net net' : Net} (h : SameButStats net net') (P : NetCall → Prop) :
    Sends P net net' :=
  ⟨fun c => by rw [h.arp], by rw [h.sched], fun e he => .inl (h.sched ▸ he),
    [], by rw [h.calls, List.append_nil], by simp⟩

theorem Schedules.sends {net net' : Net} {e : NetEvent} (h : Schedules net net' e)
    (he : NetEvent.OfPath e) : Sends NetCall.IsSchedule net net' := by
  refine ⟨fun c => by rw [h.arp], by rw [h.sched]; rfl, fun x hx => ?_, [.schedule e], h.calls,
    fun c hc => ?_⟩
  · rw [h.sched, mem_schedulerSchedule] at hx
    rcases hx with rfl | hx
    · exact .inr he
    · exact .inl hx
  · rw [List.mem_singleton.mp hc]
    trivial

theorem Net.record_sends (net : Net) {P : NetCall → Prop} {c : NetCall} (hc : P c) :
    Sends P net (net.record c) :=
  ⟨fun _ => rfl, rfl, fun _ h => .inl h, [c], rfl, fun x hx => by
    rw [List.mem_singleton.mp hx]
    exact hc⟩

theorem Net.addStats_sends (net : Net) (P : NetCall → Prop) (iface : IfaceRef)
    (f : IfaceStats → IfaceStats) : Sends P net (net.addStats iface f) :=
  have h : SameButStats net (net.addStats iface f) := ⟨rfl, rfl, rfl, rfl⟩
  h.sends P

theorem Net.alloc_sends (net : Net) (P : NetCall → Prop) : Sends P net net.alloc :=
  have h : SameButStats net net.alloc := ⟨rfl, rfl, rfl, rfl⟩
  h.sends P

theorem Net.schedule_sends (net : Net) {e : NetEvent} (he : NetEvent.OfPath e) :
    Sends NetCall.IsSchedule net (net.schedule e) :=
  have h : Schedules net (net.schedule e) e := ⟨rfl, rfl, rfl, rfl⟩
  h.sends he

theorem ethernetSend_sends (t : Topology) (net : Net) (iface : IfaceRef) (dstMac : Mac)
    (ethertype : UInt16) (payload : Packet) :
    Sends NetCall.IsSchedule net (ethernetSend t net iface dstMac ethertype payload).1 := by
  rcases ethernetSend_cases t net iface dstMac ethertype payload with
    ⟨-, h, -⟩ | ⟨-, dst, e, -, hwire, h⟩
  · exact h.sends _
  · exact h.sends (.inl hwire.handler)

/-- Sending leaves the caches and the tables alone. -/
theorem ethernetSend_arp (t : Topology) (net : Net) (iface : IfaceRef) (dstMac : Mac)
    (ethertype : UInt16) (payload : Packet) :
    (ethernetSend t net iface dstMac ethertype payload).1.arp = net.arp := by
  rcases ethernetSend_cases t net iface dstMac ethertype payload with
    ⟨-, hsame, -⟩ | ⟨-, dst, e, -, -, hsched⟩
  · exact hsame.arp
  · exact hsched.arp

theorem ethernetSend_macTbl (t : Topology) (net : Net) (iface : IfaceRef) (dstMac : Mac)
    (ethertype : UInt16) (payload : Packet) :
    (ethernetSend t net iface dstMac ethertype payload).1.macTbl = net.macTbl := by
  rcases ethernetSend_cases t net iface dstMac ethertype payload with
    ⟨-, hsame, -⟩ | ⟨-, dst, e, -, -, hsched⟩
  · exact hsame.macTbl
  · exact hsched.macTbl

end FrameRunner
