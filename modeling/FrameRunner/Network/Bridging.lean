import FrameRunner.Network.Dispatch

/-!
# Bridging

A frame from a host on one port of a switch to a host on another passes two
interfaces of the switch. The first is a station like any other: its filter
drops a frame that is not addressed to the port itself. The second sends the
frame under its own source address. `switch_transparent_iff` says when neither
shows.
-/

namespace FrameRunner

/-- A host's interface hangs on a port of the switch by an up link, and on no other
    port. -/
structure Attached (t : Topology) (sw : SwitchRef) (port host : IfaceRef) : Prop where
  mem : port ∈ t.ports sw
  shim : (t.iface port).rxHandler = some (.switch sw)
  toHost : LinksTo t port host
  toPort : LinksTo t host port
  only : ∀ out, LinksTo t out host → out = port
  enabled : (t.iface port).errDisabled = false
  enabled' : (t.iface host).errDisabled = false

/-- The frame that `a` sends at `net` and the switch gets at `net₁` reaches the
    receive handler of `b`, whenever it arrives there, with the payload and the
    header that `a` gave it. -/
def Transparent (t : Topology) (net net₁ : Net) (a b : IfaceRef) (dstMac : Mac)
    (ethertype : UInt16) (payload : Packet) : Prop :=
  ∃ e₀, Made net (ethernetSend t net a dstMac ethertype payload).1 (.schedule e₀) ∧
    ∃ e₁, Made net₁ (netDispatch t net₁ e₀) (.schedule e₁) ∧
      ∀ net₂, ∃ pkt, Made net₂ (netDispatch t net₂ e₁) (.rxHandler b pkt ethertype) ∧
        pkt.bytes = payload.bytes ∧
        pkt.header ethHdrLen = ethernetHeader dstMac (t.iface a).mac ethertype

/-- The port on which the frame arrives has the destination's address, the one
    by which it leaves has the source's, and the table allows it. -/
structure PortsMatch (t : Topology) (net₁ : Net) (sw : SwitchRef) (p q a : IfaceRef)
    (dstMac : Mac) : Prop where
  ingress : (t.iface p).mac = dstMac
  egress : (t.iface q).mac = (t.iface a).mac
  table : SwitchForwards (net₁.macTbl sw) (t.iface a).mac dstMac p net₁.sched.now q

section
variable {t : Topology} {sw : SwitchRef} {p q a b : IfaceRef} {dstMac : Mac} {ethertype : UInt16}
  {payload : Packet}

/-- What the host sends is on the wire to the port. -/
theorem Attached.sends (hA : Attached t sw p a) {net : Net} {e : NetEvent}
    (h : Made net (ethernetSend t net a dstMac ethertype payload).1 (.schedule e)) :
    OnWire a p (ethernetHeader dstMac (t.iface a).mac ethertype ++ payload.bytes) e := by
  rcases ethernetSend_cases t net a dstMac ethertype payload with
    ⟨-, hno, -⟩ | ⟨-, dst, e', hcan, hwire, hsched⟩
  · exact absurd h (not_made hno.calls _)
  · rw [hsched.made_iff] at h
    cases h
    rwa [hcan.links.unique hA.toPort] at hwire

theorem Attached.can_send (hA : Attached t sw p a) (hroom : ethHdrLen ≤ payload.data)
    (dstMac : Mac) (ethertype : UInt16) (net : Net) :
    ∃ e, Made net (ethernetSend t net a dstMac ethertype payload).1 (.schedule e) := by
  rcases ethernetSend_cases t net a dstMac ethertype payload with
    ⟨-, -, hnot⟩ | ⟨-, -, e, -, -, hsched⟩
  · exact absurd ⟨hA.enabled', hroom, hA.toPort⟩ (hnot p)
  · exact ⟨e, (hsched.made_iff _).mpr rfl⟩

/-- The calls of a port that takes a frame: its handler, and those of the switch. -/
theorem netRecv_made_trans (t : Topology) (net : Net) (sw : SwitchRef) (port : IfaceRef)
    (pkt : Packet) (ethertype : UInt16) (c : NetCall) :
    let net' := (net.rxBytes port pkt.len).record (.rxHandler port pkt ethertype)
    Made net (switchReceive t net' sw port pkt ethertype) c ↔
      Made net net' c ∨ Made net' (switchReceive t net' sw port pkt ethertype) c := by
  have hcount : Sends (fun _ => True) net (net.rxBytes port pkt.len) := net.addStats_sends _ port _
  exact (hcount.trans (Net.record_sends _ trivial)).made_trans (switchReceive_sends _ _ _ _ _ _) c

/-- What the switch schedules for the host's frame. -/
theorem Attached.forwarded (hA : Attached t sw p a) (hdst : dstMac.IsUnicast) {net₁ : Net}
    {e₀ e₁ : NetEvent}
    (hwire : OnWire a p (ethernetHeader dstMac (t.iface a).mac ethertype ++ payload.bytes) e₀)
    (h : Made net₁ (netDispatch t net₁ e₀) (.schedule e₁)) :
    (t.iface p).mac = dstMac ∧ ∃ out dst,
      SwitchForwards (net₁.macTbl sw) (t.iface a).mac dstMac p net₁.sched.now out ∧
      LinksTo t out dst ∧
      OnWire out dst (ethernetHeader dstMac (t.iface out).mac ethertype ++ payload.bytes) e₁ := by
  by_cases hacc : EthAccepts (t.iface p).mac dstMac ethertype
  · obtain ⟨pkt, hbytes, hheader, -, hdisp⟩ := netDispatch_accept net₁ hwire hA.enabled hacc
    rw [hdisp, hA.shim] at h
    have hcalls : ((net₁.rxBytes p pkt.len).record (.rxHandler p pkt ethertype)).calls =
        net₁.calls ++ [.rxHandler p pkt ethertype] := rfl
    rcases (netRecv_made_trans t net₁ sw p pkt ethertype (.schedule e₁)).mp h with h | h
    · -- the call of the port's handler is not an event
      rw [made_iff hcalls, List.mem_singleton] at h
      cases h
    · obtain ⟨out, dst, hforwards, hlinks, hout⟩ := switchReceive_made t hheader hdst h
      rw [hbytes] at hout
      exact ⟨((ethAccepts_unicast hdst).mp hacc).symm, out, dst, hforwards, hlinks, hout⟩
  · rw [netDispatch_reject net₁ hwire hA.enabled hacc] at h
    exact absurd h (not_made (net₁.addStats_calls p _) _)

/-- The frame comes out as it went in exactly when the addresses of the two ports
    hide the switch and its table allows the way. -/
theorem switch_transparent_iff {net net₁ : Net} (hA : Attached t sw p a) (hB : Attached t sw q b)
    (hpq : p ≠ q) (hrx : (t.iface b).rxHandler ≠ none) (hdst : dstMac.IsUnicast)
    (hb : (t.iface b).mac = dstMac) (hroom : ethHdrLen ≤ payload.data) :
    Transparent t net net₁ a b dstMac ethertype payload ↔ PortsMatch t net₁ sw p q a dstMac := by
  constructor
  · rintro ⟨e₀, h₀, e₁, h₁, h₂⟩
    obtain ⟨hp, out, dst, hforwards, hlinks, hout⟩ := hA.forwarded hdst (hA.sends h₀) h₁
    obtain ⟨pkt, hrecv, -, hheader⟩ := h₂ net₁
    obtain ⟨rfl, hheader'⟩ := netDispatch_rx hout hrecv
    obtain rfl := hB.only out hlinks
    have hsrc := congrArg (fun bytes => getMac bytes 6) (hheader'.symm.trans hheader)
    exact ⟨hp, hsrc, hforwards⟩
  · rintro ⟨hp, hq, hforwards⟩
    obtain ⟨e₀, h₀⟩ := hA.can_send hroom dstMac ethertype net
    have hacc : EthAccepts (t.iface p).mac dstMac ethertype := .inl hp.symm
    obtain ⟨frame, hbytes, hheader, hdata, hdisp⟩ :=
      netDispatch_accept net₁ (hA.sends h₀) hA.enabled hacc
    obtain ⟨e₁, hwire, h₁⟩ := switchReceive_reaches t ethertype
      ((net₁.rxBytes p frame.len).record (.rxHandler p frame ethertype)) hheader (by omega)
      hA.toPort.dst_up hforwards hB.mem (Ne.symm hpq) hB.toPort.dst_up hB.enabled hB.toHost
    rw [hbytes, hq] at hwire
    refine ⟨e₀, h₀, e₁, ?_, fun net₂ => ?_⟩
    · rw [hdisp, hA.shim]
      exact (netRecv_made_trans t net₁ sw p frame ethertype _).mpr (.inr h₁)
    · obtain ⟨pkt, hpkt, hpkt', -, hdisp₂⟩ :=
        netDispatch_accept net₂ hwire hB.enabled' (.inl hb.symm)
      refine ⟨pkt, ?_, hpkt, hpkt'⟩
      obtain ⟨h, hh⟩ := Option.ne_none_iff_exists'.mp hrx
      rw [hdisp₂, hh]
      have hcount : Sends (fun _ => True) net₂ (net₂.rxBytes b pkt.len) :=
        net₂.addStats_sends _ b _
      have hrec := hcount.trans
        (Net.record_sends (net₂.rxBytes b pkt.len) (c := .rxHandler b pkt ethertype) trivial)
      exact (hrec.made_trans (rxHandle_sends t _ b pkt ethertype h) _).mpr
        (.inl ⟨_, rfl, List.mem_singleton.mpr rfl⟩)

end

/-- Hosts 0 and 1 on the ports 2 and 3 of a switch, with these addresses. -/
def exampleSwitch (mac : IfaceRef → Mac) : Topology where
  iface i := { mac := mac i, ipAddr := 0, prefixLen := 24, up := true, link := some (i % 2),
               rxHandler := if i < 2 then some (.app i) else some (.switch 0), arpCache := none }
  link l := { endA := l, endB := l + 2, delayMs := 1, up := true }
  devices := []
  router _ := exampleRouter
  ports _ := [2, 3]
  ipStack _ _ := none
  udp _ := { sim := true, sockets := fun _ => {} }
  memory _ _ := 0

theorem attached_exampleSwitch (mac : IfaceRef → Mac) (host : ℕ) (h : host < 2) :
    Attached (exampleSwitch mac) 0 (host + 2) host := by
  have hport : ¬ host + 2 < 2 := by omega
  have hmod : (host + 2) % 2 = host := by omega
  have hmod' : host % 2 = host := by omega
  have hne : host + 2 ≠ host := by omega
  refine ⟨?_, ?_, ⟨⟨host, ?_, rfl, ?_⟩, rfl⟩, ⟨⟨host, ?_, rfl, ?_⟩, rfl⟩, fun (out : ℕ) hlinks => ?_,
    rfl, rfl⟩
  · show host + 2 ∈ [2, 3]
    simp only [List.mem_cons, List.not_mem_nil, or_false]
    omega
  · exact if_neg (t := some (RxHandler.app (host + 2))) hport
  · exact congrArg some hmod
  · simp [linkGetOtherInterface, exampleSwitch]
  · exact congrArg some hmod'
  · simp [linkGetOtherInterface, exampleSwitch]
  · obtain ⟨l, hl, -, hother⟩ := hlinks.ex
    obtain rfl : out % 2 = l := Option.some.inj hl
    have hends : (if out = out % 2 then some (out % 2 + 2)
        else if out = out % 2 + 2 then some (out % 2) else none) = some host := hother
    split at hends
    · have hhost : out % 2 + 2 = host := Option.some.inj hends
      omega
    · split at hends
      · have hhost : out % 2 = host := Option.some.inj hends
        have hport' : out = host + 2 := by omega
        exact hport'
      · cases hends

/-- Each interface has an address of its own. -/
def ownMac (i : IfaceRef) : Mac := ⟨2, 0, 0, 0, 0, UInt8.ofNat (i + 1)⟩

/-- Each port has the address of the host on the other port. -/
def crossedMac (i : IfaceRef) : Mac := if i < 2 then ownMac i else ownMac (3 - i)

theorem switch_transparent_iff_crossedMac :
    Transparent (exampleSwitch crossedMac) netInit netInit 0 1 (ownMac 1) ethertypeIpv4
      (packetFill (fun _ => 0) [1, 2, 3]) :=
  (switch_transparent_iff (attached_exampleSwitch crossedMac 0 (by decide))
    (attached_exampleSwitch crossedMac 1 (by decide)) (by decide) nofun (by decide) rfl
    (by decide)).mpr ⟨rfl, rfl, switchForwards_empty (fun _ => rfl) (by decide) _ _ _⟩

/-- Between hosts with addresses of their own, no frame passes the switch. -/
theorem not_switch_transparent :
    Attached (exampleSwitch ownMac) 0 2 0 ∧ Attached (exampleSwitch ownMac) 0 3 1 ∧
      ¬ Transparent (exampleSwitch ownMac) netInit netInit 0 1 (ownMac 1) ethertypeIpv4
        (packetFill (fun _ => 0) [1, 2, 3]) := by
  have hA := attached_exampleSwitch ownMac 0 (by decide)
  refine ⟨hA, attached_exampleSwitch ownMac 1 (by decide), ?_⟩
  rintro ⟨e₀, h₀, e₁, h₁, -⟩
  obtain ⟨hp, -⟩ := hA.forwarded (by decide) (hA.sends h₀) h₁
  exact absurd hp (by decide)

end FrameRunner
