import FrameRunner.Network.Ethernet

/-!
# Switches (`network/mac_table.c`, `network/switch.c`)

`switch_receive` learns the source address of a frame and sends the frame out of
the port learned for its destination, or out of every other port. A frame goes
out by `ethernet_send`, which writes a new header with the port's own address as
the source (`switchReceive_egress`).
-/

namespace FrameRunner

open FrameRunner.Lib

/-! ## The address table -/

/-- `MAC_AGE_MS` and `SW_AGE_INTERVAL`. -/
def macAgeMs : UInt64 := 300000
def swAgeInterval : UInt64 := 30000

/-- The slot of an address, the loop of `mac_table_lookup` and the first of
    `mac_table_learn`. -/
def macTableFind (table : MacTable) (mac : Mac) : Option (Fin macTableSize) :=
  Fin.find? fun i => (table.entries i).valid && (table.entries i).mac == mac

/-- `mac_table_learn` (lines 13–41). -/
def macTableLearn (table : MacTable) (mac : Mac) (port : IfaceRef) (now : UInt64) :
    Option MacTable :=
  match macTableFind table mac with
  | some i =>
    some { table with
      entries := Function.update table.entries i
        { table.entries i with port := some port, timestamp := now } }
  | none =>
    match Fin.find? fun i => !(table.entries i).valid with
    | some i =>
      some { table with
        entries := Function.update table.entries i
          { mac := mac, port := some port, timestamp := now, valid := true }
        count := table.count + 1 }
    | none => none

/-- `mac_table_lookup` (lines 43–55). -/
def macTableLookup (table : MacTable) (mac : Mac) : Option IfaceRef :=
  match macTableFind table mac with
  | some i => (table.entries i).port
  | none => none

/-- `mac_table_age` (lines 57–68). -/
def macTableAge (table : MacTable) (now : UInt64) : MacTable :=
  let old := fun e : MacEntry => e.valid && decide (now - e.timestamp > macAgeMs)
  { entries := fun i =>
      if old (table.entries i) then { table.entries i with valid := false } else table.entries i
    count := table.count - Slots.count old table.entries }

/-! ## The switch -/

/-- `mac_age_handler` (lines 5–27). -/
def macAgeHandler (net : Net) (sw : SwitchRef) : Net :=
  let net := net.setMacTbl sw (macTableAge (net.macTbl sw) net.sched.now)
  net.schedule {
    type := .macAge
    timestamp := net.sched.now + swAgeInterval
    payload := {}
    handler := some (.macAgeHandler sw) }

/-- Round `outPort` of the flood (lines 141–156). -/
def switchFloodPort (t : Topology) (inPort : IfaceRef) (frame : Packet) (dstMac : Mac)
    (ethertype : UInt16) (net : Net) (outPort : IfaceRef) : Net :=
  if outPort ≠ inPort ∧ (t.iface outPort).up = true ∧ (t.iface outPort).link ≠ none then
    (ethernetSend t net.alloc outPort dstMac ethertype
      (packetClone (t.memory net.allocs) frame)).1
  else net

/-- `switch_receive` (lines 103–174). -/
def switchReceive (t : Topology) (net : Net) (sw : SwitchRef) (inPort : IfaceRef) (frame : Packet)
    (ethertype : UInt16) : Net :=
  if !(t.iface inPort).up then net
  else if !packetValidateView frame ethHdrLen 0 then net.rxErrors inPort
  else
    let ethHdr := frame.header ethHdrLen
    let srcMac := getMac ethHdr 6
    let dstMac := getMac ethHdr 0
    match macTableLearn (net.macTbl sw) srcMac inPort net.sched.now with
    | none => net.rxDropped inPort
    | some table =>
      let net := net.setMacTbl sw table
      if dstMac = ethBroadcast ∨ macTableLookup table dstMac = none then
        (t.ports sw).foldl (switchFloodPort t inPort frame dstMac ethertype) net
      else
        match macTableLookup table dstMac with
        | none => net.rxDropped inPort
        | some egress =>
          if egress ≠ inPort ∧ (t.iface egress).up = true then
            (ethernetSend t net egress dstMac ethertype frame).1
          else net.rxDropped inPort

/-! ## What the switch leaves alone -/

theorem macAgeHandler_sends (net : Net) (sw : SwitchRef) :
    Sends NetCall.IsSchedule net (macAgeHandler net sw) := by
  have htable : Sends NetCall.IsSchedule net
      (net.setMacTbl sw (macTableAge (net.macTbl sw) net.sched.now)) :=
    ⟨fun _ => rfl, rfl, fun _ h => .inl h, [], (List.append_nil _).symm, by simp⟩
  unfold macAgeHandler
  exact htable.trans (Net.schedule_sends _ (.inr ⟨sw, rfl⟩))

theorem switchFloodPort_sends (t : Topology) (inPort : IfaceRef) (frame : Packet) (dstMac : Mac)
    (ethertype : UInt16) (net : Net) (outPort : IfaceRef) :
    Sends NetCall.IsSchedule net
      (switchFloodPort t inPort frame dstMac ethertype net outPort) := by
  unfold switchFloodPort
  split
  · exact (net.alloc_sends _).trans (ethernetSend_sends _ _ _ _ _ _)
  · exact Sends.refl _ net

theorem switchFlood_sends (t : Topology) (inPort : IfaceRef) (frame : Packet) (dstMac : Mac)
    (ethertype : UInt16) (ports : List IfaceRef) (net : Net) :
    Sends NetCall.IsSchedule net
      (ports.foldl (switchFloodPort t inPort frame dstMac ethertype) net) := by
  induction ports generalizing net with
  | nil => exact Sends.refl _ net
  | cons p ports ih => exact (switchFloodPort_sends _ _ _ _ _ _ _).trans (ih _)

theorem switchReceive_sends (t : Topology) (net : Net) (sw : SwitchRef) (inPort : IfaceRef)
    (frame : Packet) (ethertype : UInt16) :
    Sends NetCall.IsSchedule net (switchReceive t net sw inPort frame ethertype) := by
  have htable : ∀ table, Sends NetCall.IsSchedule net (net.setMacTbl sw table) := fun table =>
    ⟨fun _ => rfl, rfl, fun _ h => .inl h, [], (List.append_nil _).symm, by simp⟩
  unfold switchReceive
  dsimp only
  split
  · exact Sends.refl _ net
  · split
    · exact net.addStats_sends _ inPort _
    · split
      · exact net.addStats_sends _ inPort _
      · split
        · exact (htable _).trans (switchFlood_sends _ _ _ _ _ _ _)
        · split
          · exact (htable _).trans (Net.addStats_sends _ _ inPort _)
          · split
            · exact (htable _).trans (ethernetSend_sends _ _ _ _ _ _)
            · exact (htable _).trans (Net.addStats_sends _ _ inPort _)

/-! ## What the switch sends -/

section
variable (t : Topology) {inPort out dst : IfaceRef} {frame : Packet} {dstMac srcMac : Mac}
  {ethertype : UInt16} {e : NetEvent}

/-- One port of the flood: nothing, or the frame under a new header. -/
theorem switchFloodPort_cases (inPort out : IfaceRef) (frame : Packet) (dstMac : Mac)
    (ethertype : UInt16) (net : Net) :
    let r := switchFloodPort t inPort frame dstMac ethertype net out
    (SameButStats net r ∧ ∀ dst, out ≠ inPort → (t.iface out).up = true →
        (t.iface out).errDisabled = false → ¬ LinksTo t out dst) ∨
      (out ≠ inPort ∧ ∃ dst e, LinksTo t out dst ∧
        OnWire out dst (ethernetHeader dstMac (t.iface out).mac ethertype ++ frame.bytes) e ∧
        Schedules net r e) := by
  intro r
  have hr : switchFloodPort t inPort frame dstMac ethertype net out = r := rfl
  clear_value r
  unfold switchFloodPort at hr
  split at hr
  · rename_i hport
    rcases ethernetSend_cases t net.alloc out dstMac ethertype
      (packetClone (t.memory net.allocs) frame) with ⟨-, h2, h3⟩ | ⟨-, dst, e, h2, h3, h4⟩
    · rw [hr] at h2
      exact .inl ⟨⟨h2.sched, h2.arp, h2.macTbl, h2.calls⟩, fun dst _ _ herr hlinks =>
        h3 dst ⟨herr, (by decide : ethHdrLen ≤ pktHeadroom), hlinks⟩⟩
    · rw [hr] at h4
      rw [packetClone, bytes_packetFill] at h3
      exact .inr ⟨hport.1, dst, e, h2.links, h3, ⟨h4.sched, h4.arp, h4.macTbl, h4.calls⟩⟩
  · rename_i hport
    rw [← hr]
    refine .inl ⟨⟨rfl, rfl, rfl, rfl⟩, fun dst hne hup _ hlinks => hport ⟨hne, hup, ?_⟩⟩
    obtain ⟨l, hl, -⟩ := hlinks.ex
    simp [hl]

/-- What a flood schedules goes out of another port of the switch, -/
theorem switchFlood_made (ports : List IfaceRef) :
    ∀ net, Made net (ports.foldl (switchFloodPort t inPort frame dstMac ethertype) net)
        (.schedule e) →
      ∃ out dst, out ≠ inPort ∧ LinksTo t out dst ∧
        OnWire out dst (ethernetHeader dstMac (t.iface out).mac ethertype ++ frame.bytes) e := by
  induction ports with
  | nil =>
    intro net h
    exact absurd h (not_made rfl _)
  | cons p ports ih =>
    intro net h
    rw [List.foldl_cons, (switchFloodPort_sends t inPort frame dstMac ethertype net p).made_trans
      (switchFlood_sends t inPort frame dstMac ethertype ports _)] at h
    rcases h with h | h
    · rcases switchFloodPort_cases t inPort p frame dstMac ethertype net with
        ⟨hsame, -⟩ | ⟨hne, dst, e', hlinks, hwire, hsched⟩
      · exact absurd h (not_made hsame.calls _)
      · rw [hsched.made_iff] at h
        cases h
        exact ⟨p, dst, hne, hlinks, hwire⟩
    · exact ih _ h

/-- and every other port that is up and linked sends the frame. -/
theorem switchFlood_reaches (frame : Packet) (dstMac : Mac) (ethertype : UInt16)
    (ports : List IfaceRef) (hout : out ∈ ports) (hne : out ≠ inPort) (hup : (t.iface out).up = true)
    (herr : (t.iface out).errDisabled = false) (hlinks : LinksTo t out dst) :
    ∀ net, ∃ e, OnWire out dst
        (ethernetHeader dstMac (t.iface out).mac ethertype ++ frame.bytes) e ∧
      Made net (ports.foldl (switchFloodPort t inPort frame dstMac ethertype) net)
        (.schedule e) := by
  induction ports with
  | nil => exact absurd hout List.not_mem_nil
  | cons p ports ih =>
    intro net
    have hsplit := (switchFloodPort_sends t inPort frame dstMac ethertype net p).made_trans
      (switchFlood_sends t inPort frame dstMac ethertype ports _)
    rcases List.mem_cons.mp hout with rfl | hout
    · rcases switchFloodPort_cases t inPort out frame dstMac ethertype net with
        ⟨-, hnot⟩ | ⟨-, dst', e, hlinks', hwire, hsched⟩
      · exact absurd hlinks (hnot dst hne hup herr)
      · rw [hlinks'.unique hlinks] at hwire
        exact ⟨e, hwire, (hsplit _).mpr (.inl ((hsched.made_iff _).mpr rfl))⟩
    · obtain ⟨e, hwire, hmade⟩ := ih hout (switchFloodPort t inPort frame dstMac ethertype net p)
      exact ⟨e, hwire, (hsplit _).mpr (.inr hmade)⟩

/-- Once it has learned the source, the table sends frames for `dstMac` out of
    `out`: the address was learned there, or nowhere. -/
def SwitchForwards (table : MacTable) (srcMac dstMac : Mac) (inPort : IfaceRef) (now : UInt64)
    (out : IfaceRef) : Prop :=
  ∃ table', macTableLearn table srcMac inPort now = some table' ∧
    (macTableLookup table' dstMac = none ∨ macTableLookup table' dstMac = some out)

/-- A table that knows no address sends a frame anywhere, unless it comes from its
    own destination. -/
theorem switchForwards_empty {table : MacTable} (hempty : ∀ i, (table.entries i).valid = false)
    {srcMac dstMac : Mac} (hne : srcMac ≠ dstMac) (inPort : IfaceRef) (now : UInt64)
    (out : IfaceRef) : SwitchForwards table srcMac dstMac inPort now out := by
  have hfind : macTableFind table srcMac = none :=
    Fin.find?_eq_none_iff.mpr fun i => by rw [hempty i, Bool.false_and]
  cases hfree : Fin.find? fun i => !(table.entries i).valid with
  | none =>
    have hslot : (0 : ℕ) < macTableSize := by decide
    have := Fin.find?_eq_none_iff.mp hfree ⟨0, hslot⟩
    simp [hempty] at this
  | some i =>
    have hlearn : ∃ table', macTableLearn table srcMac inPort now = some table' ∧
        table'.entries = Function.update table.entries i
          { mac := srcMac, port := some inPort, timestamp := now, valid := true } := by
      unfold macTableLearn
      rw [hfind]
      dsimp only
      rw [hfree]
      exact ⟨_, rfl, rfl⟩
    obtain ⟨table', hlearn, hentries⟩ := hlearn
    have hnone : macTableFind table' dstMac = none := by
      refine Fin.find?_eq_none_iff.mpr fun j => ?_
      rw [hentries]
      by_cases hj : j = i
      · rw [hj, Function.update_self, beq_eq_false_iff_ne.mpr hne, Bool.and_false]
      · rw [Function.update_of_ne hj, hempty, Bool.false_and]
    have hlookup : macTableLookup table' dstMac = none := by
      unfold macTableLookup
      rw [hnone]
    exact ⟨table', hlearn, .inl hlookup⟩

theorem Net.setMacTbl_sends (net : Net) (P : NetCall → Prop) (sw : SwitchRef) (table : MacTable) :
    Sends P net (net.setMacTbl sw table) :=
  ⟨fun _ => rfl, rfl, fun _ h => .inl h, [], (List.append_nil _).symm, by simp⟩

/-- What `switch_receive` schedules for a unicast frame goes out of a port that the
    table allows, with the port's address as its source. -/
theorem switchReceive_made {net : Net} {sw : SwitchRef} {ethertype' : UInt16}
    (hheader : frame.header ethHdrLen = ethernetHeader dstMac srcMac ethertype')
    (hdst : dstMac.IsUnicast)
    (h : Made net (switchReceive t net sw inPort frame ethertype) (.schedule e)) :
    ∃ out dst, SwitchForwards (net.macTbl sw) srcMac dstMac inPort net.sched.now out ∧
      LinksTo t out dst ∧
      OnWire out dst (ethernetHeader dstMac (t.iface out).mac ethertype ++ frame.bytes) e := by
  have hdropped : ∀ net : Net, ¬ Made net (net.rxDropped inPort) (.schedule e) := fun net =>
    not_made (net.addStats_calls inPort _) _
  have htable : ∀ table, ¬ Made net (net.setMacTbl sw table) (.schedule e) := fun table =>
    not_made (net.setMacTbl_calls sw table) _
  have hsrcMac : getMac (frame.header ethHdrLen) 6 = srcMac := by rw [hheader]; rfl
  have hdstMac : getMac (frame.header ethHdrLen) 0 = dstMac := by rw [hheader]; rfl
  have hbroadcast : dstMac ≠ ethBroadcast := by
    rintro rfl
    exact absurd hdst (by decide)
  unfold switchReceive at h
  simp only [hsrcMac, hdstMac] at h
  split at h
  · exact absurd h (not_made rfl _)
  · split at h
    · exact absurd h (not_made (net.addStats_calls inPort _) _)
    · split at h
      · exact absurd h (hdropped net)
      · rename_i table hlearn
        have hset := net.setMacTbl_sends (fun _ => True) sw table
        split at h
        · rename_i hflood
          rw [hset.made_trans (switchFlood_sends t inPort frame dstMac ethertype _ _)] at h
          obtain ⟨out, dst, -, hlinks, hwire⟩ :=
            switchFlood_made t _ _ (h.resolve_left (htable table))
          exact ⟨out, dst, ⟨table, hlearn, .inl (hflood.resolve_left hbroadcast)⟩, hlinks, hwire⟩
        · split at h
          · rw [hset.made_trans (Net.addStats_sends _ (fun _ => True) inPort _)] at h
            exact absurd (h.resolve_left (htable table)) (hdropped _)
          · rename_i out hlookup
            split at h
            · rw [hset.made_trans (ethernetSend_sends t _ out dstMac ethertype frame)] at h
              have hsent := h.resolve_left (htable table)
              rcases ethernetSend_cases t (net.setMacTbl sw table) out dstMac ethertype frame with
                ⟨-, hno, -⟩ | ⟨-, dst, e', hcan, hwire, hsched⟩
              · exact absurd hsent (not_made hno.calls _)
              · rw [hsched.made_iff] at hsent
                cases hsent
                exact ⟨out, dst, ⟨table, hlearn, .inr hlookup⟩, hcan.links, hwire⟩
            · rw [hset.made_trans (Net.addStats_sends _ (fun _ => True) inPort _)] at h
              exact absurd (h.resolve_left (htable table)) (hdropped _)

/-- And a frame is sent out of each port of the switch that the table allows. -/
theorem switchReceive_reaches (ethertype : UInt16) (net : Net) {sw : SwitchRef}
    {ethertype' : UInt16}
    (hheader : frame.header ethHdrLen = ethernetHeader dstMac srcMac ethertype')
    (hroom : ethHdrLen ≤ frame.data) (hin : (t.iface inPort).up = true)
    (hforwards : SwitchForwards (net.macTbl sw) srcMac dstMac inPort net.sched.now out)
    (hout : out ∈ t.ports sw) (hne : out ≠ inPort) (hup : (t.iface out).up = true)
    (herr : (t.iface out).errDisabled = false) (hlinks : LinksTo t out dst) :
    ∃ e, OnWire out dst (ethernetHeader dstMac (t.iface out).mac ethertype ++ frame.bytes) e ∧
      Made net (switchReceive t net sw inPort frame ethertype) (.schedule e) := by
  obtain ⟨table, hlearn, hlookup⟩ := hforwards
  have hsrcMac : getMac (frame.header ethHdrLen) 6 = srcMac := by rw [hheader]; rfl
  have hdstMac : getMac (frame.header ethHdrLen) 0 = dstMac := by rw [hheader]; rfl
  have hview : packetValidateView frame ethHdrLen 0 = true :=
    packetValidateView_iff.mpr ⟨hroom, Nat.zero_le _⟩
  have hset := net.setMacTbl_sends (fun _ => True) sw table
  unfold switchReceive
  simp only [hsrcMac, hdstMac, hin, hview, hlearn, Bool.not_true, Bool.false_eq_true, if_false]
  split
  · obtain ⟨e, hwire, hmade⟩ := switchFlood_reaches t frame dstMac ethertype (t.ports sw) hout
      hne hup herr hlinks (net.setMacTbl sw table)
    exact ⟨e, hwire,
      (hset.made_trans (switchFlood_sends t inPort frame dstMac ethertype _ _) _).mpr (.inr hmade)⟩
  · rename_i hflood
    have hknown : macTableLookup table dstMac = some out :=
      hlookup.resolve_left fun h => hflood (.inr h)
    simp only [hknown, hne, hup, ne_eq, not_false_eq_true, and_self, if_true]
    rcases ethernetSend_cases t (net.setMacTbl sw table) out dstMac ethertype frame with
      ⟨-, -, hnot⟩ | ⟨-, dst', e, hcan, hwire, hsched⟩
    · exact absurd ⟨herr, hroom, hlinks⟩ (hnot dst)
    · rw [hcan.links.unique hlinks] at hwire
      exact ⟨e, hwire, (hset.made_trans (ethernetSend_sends t _ out dstMac ethertype frame) _).mpr
        (.inr ((hsched.made_iff _).mpr rfl))⟩

end

end FrameRunner
