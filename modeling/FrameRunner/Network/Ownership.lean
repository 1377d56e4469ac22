import FrameRunner.Network.Effects

/-!
# Who owns a packet

Which of the packets that a call was given or creates have one owner when it returns.

Main results:

* `ipOutputEffects_cases`: as soon as `ip_output` puts a frame on the wire or builds an
  ARP request, a packet is left to nobody.
* `sendCreated_owned_iff`, `routerReceive_owned_iff`: what the callers make of it.
-/

namespace FrameRunner

/-! ## Counting -/

section
variable (id : PacketId) (effects : List PacketEffect)

@[simp] theorem disposals_nil : disposals id [] = 0 := rfl

@[simp] theorem disposals_append (effects' : List PacketEffect) :
    disposals id (effects ++ effects') = disposals id effects + disposals id effects' :=
  List.countP_append

@[simp] theorem disposals_create (i : PacketId) :
    disposals id (.create i :: effects) = disposals id effects :=
  List.countP_cons_of_neg Bool.false_ne_true

@[simp] theorem disposals_free (i : PacketId) :
    disposals id (.free i :: effects) = disposals id effects + if i = id then 1 else 0 := by
  simp [disposals, List.countP_cons, PacketEffect.disposes]

@[simp] theorem disposals_hold (i : PacketId) (holder : PacketHolder) :
    disposals id (.hold i holder :: effects) = disposals id effects + if i = id then 1 else 0 := by
  simp [disposals, List.countP_cons, PacketEffect.disposes]

@[simp] theorem disposals_transfer (i : PacketId) :
    disposals id (.transfer i :: effects) = disposals id effects + if i = id then 1 else 0 := by
  simp [disposals, List.countP_cons, PacketEffect.disposes]

end

theorem given_ne_created (n : ℕ) : PacketId.given ≠ .created n := by
  intro h
  cases h

/-- A packet without an owner. -/
theorem not_ownedOnce {given : List PacketId} {effects : List PacketEffect} {id : PacketId}
    (hid : id ∈ given ∨ .create id ∈ effects) (h : disposals id effects = 0) :
    ¬ OwnedOnce given effects := by
  intro howned
  have hone := howned id hid
  omega

/-! ## What sending leaves to nobody -/

variable {t : Topology}

/-- The clone and nothing else, and that only if the frame is taken. -/
theorem ethernetSendEffects_eq (t : Topology) (net : Net) (iface : IfaceRef) (dstMac : Mac)
    (ethertype : UInt16) (payload : Packet) :
    ethernetSendEffects t net iface dstMac ethertype payload =
      if (ethernetSend t net iface dstMac ethertype payload).2.1 = 1 then
        [.create (.created net.allocs), .hold (.created net.allocs) .receiveEvent]
      else [] := by
  have hneg : ¬ (-1 : ℤ) = 1 := by decide
  unfold ethernetSendEffects ethernetSend
  by_cases herr : (t.iface iface).errDisabled = true
  · simp only [herr, if_true, if_neg hneg]
  · simp only [if_neg herr]
    cases hprepend : packetPrepend payload
        (ethernetHeader dstMac (t.iface iface).mac ethertype) with
    | none => simp only [if_neg hneg]
    | some frame => rfl

/-- `ethernet_send` gives its payload no owner. -/
theorem disposals_ethernetSendEffects (net : Net) (iface : IfaceRef) (dstMac : Mac)
    (ethertype : UInt16) (payload : Packet) {id : PacketId} (hid : id ≠ .created net.allocs) :
    disposals id (ethernetSendEffects t net iface dstMac ethertype payload) = 0 := by
  rw [ethernetSendEffects_eq]
  split
  · simp [hid.symm]
  · rfl

/-- A request has no owner, whatever becomes of its frame and of the packet that waits. -/
theorem disposals_arpSendRequestEffects (net : Net) (iface : IfaceRef) (targetIp : UInt32)
    {id : PacketId} (hid : ∀ n, net.allocs < n → id ≠ .created n) :
    disposals id (arpSendRequestEffects t net iface targetIp) = 0 := by
  unfold arpSendRequestEffects
  split
  · rfl
  · rw [disposals_create]
    exact disposals_ethernetSendEffects _ _ _ _ _ (hid (net.allocs + 1) (Nat.lt_succ_self _))

theorem create_mem_arpSendRequestEffects (net : Net) (iface : IfaceRef) {targetIp : UInt32}
    (h0 : targetIp ≠ 0) :
    .create (.created net.allocs) ∈ arpSendRequestEffects t net iface targetIp := by
  unfold arpSendRequestEffects
  rw [if_neg h0]
  exact List.mem_cons_self

/-- The link of the interface takes its frames. -/
def LinkTakes (t : Topology) (iface : IfaceRef) : Prop :=
  (t.iface iface).errDisabled = false ∧ ∃ dst, LinksTo t iface dst

/-- A frame with room for its header is taken or not. -/
theorem ethernetSend_status (t : Topology) (net : Net) (iface : IfaceRef) (dstMac : Mac)
    (ethertype : UInt16) {payload : Packet} (hroom : ethHdrLen ≤ payload.data) :
    (LinkTakes t iface ∧ (ethernetSend t net iface dstMac ethertype payload).2.1 = 1) ∨
      (¬ LinkTakes t iface ∧ (ethernetSend t net iface dstMac ethertype payload).2.1 = -1) := by
  rcases ethernetSend_cases t net iface dstMac ethertype payload with
    ⟨hres, -, hnone⟩ | ⟨hres, dst, -, hcan, -⟩
  · exact .inr ⟨fun ⟨herr, dst, hlinks⟩ => hnone dst ⟨herr, hroom, hlinks⟩, hres⟩
  · exact .inl ⟨⟨hcan.enabled, dst, hcan.links⟩, hres⟩

/-- `ip_output` puts a frame on the wire or builds an ARP request. -/
def IpEmits (t : Topology) (net : Net) (srcIp dstIp : UInt32) : Prop :=
  ∃ iface, ipFindSourceIface t srcIp = some iface ∧ (t.iface iface).up = true ∧
    if ipIsMulticast dstIp then LinkTakes t iface
    else ∃ cache, (t.iface iface).arpCache = some cache ∧
      ipSameSubnet (t.iface iface).ipAddr dstIp (t.iface iface).prefixLen = true ∧
      if arpCacheLookup (net.arp cache) dstIp = none then dstIp ≠ 0 else LinkTakes t iface

/-- The call leaves a packet to nobody: the one that it was given, although it reports
    no failure, or one that it created. -/
def Loses (id : PacketId) (net : Net) (res : ℤ) (effects : List PacketEffect) : Prop :=
  (res ≠ -1 ∧ disposals id effects = 0) ∨
    (.create (.created net.allocs) ∈ effects ∧ disposals (.created net.allocs) effects = 0)

/-- A packet that is asked for by ARP waits, or is left to the caller. -/
theorem arpRequestAndQueue_loses (net : Net) (cache : CacheRef) (iface : IfaceRef)
    {targetIp : UInt32} (packet : Packet) {id : PacketId} (h0 : targetIp ≠ 0)
    (hid : id ≠ .created net.allocs) (res : ℤ) :
    Loses id net res (arpRequestAndQueueEffects t net cache iface targetIp packet id) := by
  have hmem := create_mem_arpSendRequestEffects (t := t) net iface h0
  have hzero : disposals (.created net.allocs) (arpSendRequestEffects t net iface targetIp) = 0 :=
    disposals_arpSendRequestEffects net iface targetIp fun n hn h => by
      rw [PacketId.created.injEq] at h
      omega
  refine .inr ⟨List.mem_append_left _ hmem, ?_⟩
  unfold arpRequestAndQueueEffects
  rw [disposals_append, hzero, Nat.zero_add]
  split
  · rfl
  · unfold arpPendingEnqueueEffects
    split
    · simp [hid]
    · rfl

theorem arpRequestAndQueue_zero (net : Net) (cache : CacheRef) (iface : IfaceRef)
    (packet : Packet) (id : PacketId) :
    (arpRequestAndQueue t net cache iface 0 packet).2 = -1 ∧
      arpRequestAndQueueEffects t net cache iface 0 packet id = [] := by
  have hneg : (-1 : ℤ) ≠ 0 := by decide
  constructor
  · simp only [arpRequestAndQueue, arpSendRequest, if_true, if_pos hneg]
  · simp only [arpRequestAndQueueEffects, arpSendRequestEffects, arpSendRequest, if_true,
      if_pos hneg, List.append_nil]

/-- A frame is taken, and then its payload is left to nobody, or nothing happens. -/
theorem ethernetSendEffects_cases (net net' : Net) (iface : IfaceRef) (dstMac : Mac)
    (ethertype : UInt16) {payload : Packet} {id : PacketId} (hroom : ethHdrLen ≤ payload.data)
    (hid : id ≠ .created net.allocs) :
    let res := (ethernetSend t net' iface dstMac ethertype payload).2.1
    let effects := ethernetSendEffects t net iface dstMac ethertype payload
    (¬ LinkTakes t iface ∧ res = -1 ∧ effects = []) ∨
      (LinkTakes t iface ∧ Loses id net res effects) := by
  intro res effects
  rcases ethernetSend_status t net' iface dstMac ethertype hroom with ⟨htakes, hres⟩ | ⟨hnot, hres⟩
  · refine .inr ⟨htakes, .inl ⟨?_, disposals_ethernetSendEffects net iface dstMac ethertype payload hid⟩⟩
    show (ethernetSend t net' iface dstMac ethertype payload).2.1 ≠ -1
    rw [hres]
    decide
  · refine .inl ⟨hnot, hres, ?_⟩
    show ethernetSendEffects t net iface dstMac ethertype payload = []
    rw [ethernetSendEffects_eq]
    rcases ethernetSend_status t net iface dstMac ethertype hroom with ⟨htakes, -⟩ | ⟨-, hres'⟩
    · exact absurd htakes hnot
    · rw [hres']
      rfl

/-- `ip_output` refuses a packet that it was given and does nothing, or leaves a packet
    to nobody. -/
theorem ipOutputEffects_cases (net : Net) (srcIp dstIp : UInt32) (protocol : UInt8)
    {payload : Packet} {id : PacketId} (hdata : payload.data = pktHeadroom)
    (hid : id ≠ .created net.allocs) :
    let res := (ipOutput t net srcIp dstIp protocol payload).2.1
    let effects := ipOutputEffects t net srcIp dstIp protocol payload id
    (¬ IpEmits t net srcIp dstIp ∧ res = -1 ∧ effects = []) ∨
      (IpEmits t net srcIp dstIp ∧ Loses id net res effects) := by
  intro res effects
  obtain ⟨packet, hprepend, hroom⟩ := ipPrependHeader_headroom srcIp dstIp protocol hdata
  show (¬ IpEmits t net srcIp dstIp ∧ (ipOutput t net srcIp dstIp protocol payload).2.1 = -1 ∧
      ipOutputEffects t net srcIp dstIp protocol payload id = []) ∨
    (IpEmits t net srcIp dstIp ∧ Loses id net (ipOutput t net srcIp dstIp protocol payload).2.1
      (ipOutputEffects t net srcIp dstIp protocol payload id))
  unfold ipOutput ipOutputEffects
  dsimp only
  cases hfind : ipFindSourceIface t srcIp with
  | none =>
    refine .inl ⟨?_, rfl, rfl⟩
    rintro ⟨iface, h, -⟩
    rw [hfind] at h
    cases h
  | some iface =>
    have hthe : IpEmits t net srcIp dstIp ↔ (t.iface iface).up = true ∧
        if ipIsMulticast dstIp then LinkTakes t iface
        else ∃ cache, (t.iface iface).arpCache = some cache ∧
          ipSameSubnet (t.iface iface).ipAddr dstIp (t.iface iface).prefixLen = true ∧
          if arpCacheLookup (net.arp cache) dstIp = none then dstIp ≠ 0 else LinkTakes t iface := by
      refine ⟨?_, fun h => ⟨iface, hfind, h⟩⟩
      rintro ⟨iface', h, hrest⟩
      rw [hfind, Option.some.injEq] at h
      rw [h]
      exact hrest
    rw [hthe]
    by_cases hup : (t.iface iface).up = true
    · simp only [hup, true_and, Bool.not_true, Bool.false_eq_true, if_false]
      by_cases hgroup : ipIsMulticast dstIp = true
      · have hmac : ∃ mac, ipMulticastToMac dstIp = some mac := by
          unfold ipMulticastToMac
          rw [hgroup]
          exact ⟨_, rfl⟩
        obtain ⟨mac, hmac⟩ := hmac
        simp only [hgroup, hmac, hprepend, if_true]
        exact ethernetSendEffects_cases _ _ iface mac ethertypeIpv4 hroom hid
      · simp only [if_neg hgroup]
        cases hcache : (t.iface iface).arpCache with
        | none =>
          refine .inl ⟨?_, rfl, rfl⟩
          rintro ⟨_, h, -⟩
          cases h
        | some cache =>
          simp only [Option.some.injEq, exists_eq_left']
          by_cases hsubnet :
              ipSameSubnet (t.iface iface).ipAddr dstIp (t.iface iface).prefixLen = true
          · simp only [hsubnet, hprepend, true_and, Bool.not_true, Bool.false_eq_true, if_false,
              Net.record_arp]
            cases hlookup : arpCacheLookup (net.arp cache) dstIp with
            | none =>
              by_cases h0 : dstIp = 0
              · subst h0
                exact .inl ⟨fun h => h rfl, arpRequestAndQueue_zero _ cache iface packet id⟩
              · refine .inr ⟨h0, ?_⟩
                exact arpRequestAndQueue_loses (net.record (.ipOutput srcIp dstIp protocol
                  payload.bytes)) cache iface packet h0 hid _
            | some mac =>
              simp only [reduceCtorEq, if_false]
              exact ethernetSendEffects_cases _ _ iface mac ethertypeIpv4 hroom hid
          · simp only [hsubnet, false_and, Bool.not_false, if_true, Bool.false_eq_true]
            exact .inl ⟨not_false, trivial, trivial⟩
    · simp only [hup, false_and, Bool.not_false, if_true, Bool.false_eq_true]
      exact .inl ⟨not_false, trivial, trivial⟩

/-- A packet created for `ip_output` has one owner, and all that the call creates,
    exactly if nothing leaves. -/
theorem sendCreated_owned_iff (net : Net) (srcIp dstIp : UInt32) (protocol : UInt8) {pkt : Packet}
    (hdata : pkt.data = pktHeadroom) :
    OwnedOnce [] (sendCreatedEffects t net srcIp dstIp protocol pkt) ↔
      ¬ IpEmits t net srcIp dstIp := by
  have hid : PacketId.created net.allocs ≠ .created net.alloc.allocs := by
    rw [Ne, PacketId.created.injEq]
    exact Nat.ne_of_lt (Nat.lt_succ_self _)
  unfold sendCreatedEffects
  rcases ipOutputEffects_cases (t := t) net.alloc srcIp dstIp protocol hdata hid with
    ⟨hnot, hres, hnil⟩ | ⟨hemits, hlost⟩
  · rw [hres, hnil]
    refine ⟨fun _ => hnot, fun _ id hmem => ?_⟩
    simp at hmem
    simp [hmem]
  · refine ⟨fun howned => absurd howned ?_, fun h => absurd hemits h⟩
    rcases hlost with ⟨hres, hzero⟩ | ⟨hmem, hzero⟩
    · apply not_ownedOnce (.inr List.mem_cons_self)
      rw [disposals_create, disposals_append, hzero, if_neg hres]
      rfl
    · apply not_ownedOnce (.inr (List.mem_cons_of_mem _ (List.mem_append_left _ hmem)))
      rw [disposals_create, disposals_append, hzero]
      split
      · simp [hid]
      · rfl

/-! ## Which packets a call touches -/

/-- The packet of an effect. -/
def PacketEffect.id : PacketEffect → PacketId
  | .create i => i
  | .free i => i
  | .hold i _ => i
  | .transfer i => i

/-- The effects are on the packet `id` and on packets that the call creates. -/
def Touches (id : PacketId) (net : Net) (effects : List PacketEffect) : Prop :=
  ∀ e ∈ effects, e.id = id ∨ ∃ n, net.allocs ≤ n ∧ e.id = .created n

section
variable {id : PacketId} {net : Net} {effects effects' : List PacketEffect}

theorem Touches.nil : Touches id net [] := fun _ h => absurd h List.not_mem_nil

theorem Touches.cons {e : PacketEffect} (he : e.id = id ∨ ∃ n, net.allocs ≤ n ∧ e.id = .created n)
    (h : Touches id net effects) : Touches id net (e :: effects) := by
  intro e' he'
  rcases List.mem_cons.mp he' with rfl | he'
  · exact he
  · exact h e' he'

theorem Touches.append (h : Touches id net effects) (h' : Touches id net effects') :
    Touches id net (effects ++ effects') := by
  intro e he
  rcases List.mem_append.mp he with he | he
  · exact h e he
  · exact h' e he

/-- A packet is created, and the rest of the call sees it. -/
theorem Touches.alloc (h : Touches id net.alloc effects) : Touches id net effects := by
  intro e he
  rcases h e he with h | ⟨n, hn, h⟩
  · exact .inl h
  · exact .inr ⟨n, Nat.le_of_succ_le hn, h⟩

/-- The packet of the caller is left alone. -/
theorem Touches.given (h : Touches (.created net.allocs) net effects) :
    disposals .given effects = 0 ∧ .create .given ∉ effects := by
  have hne : ∀ e ∈ effects, e.id ≠ .given := by
    intro e he hgiven
    rcases h e he with hid | ⟨n, -, hid⟩
    · rw [hgiven] at hid
      cases hid
    · rw [hgiven] at hid
      cases hid
  refine ⟨List.countP_eq_zero.mpr fun e he hdisposes => hne e he ?_, fun hmem => hne _ hmem rfl⟩
  cases e with
  | create i => exact absurd hdisposes Bool.false_ne_true
  | free i => exact beq_iff_eq.mp hdisposes
  | hold i holder => exact beq_iff_eq.mp hdisposes
  | transfer i => exact beq_iff_eq.mp hdisposes

end

theorem ethernetSendEffects_touches (t : Topology) (net : Net) (iface : IfaceRef) (dstMac : Mac)
    (ethertype : UInt16) (payload : Packet) (id : PacketId) :
    Touches id net (ethernetSendEffects t net iface dstMac ethertype payload) := by
  rw [ethernetSendEffects_eq]
  split
  · exact .cons (.inr ⟨_, le_refl _, rfl⟩) (.cons (.inr ⟨_, le_refl _, rfl⟩) .nil)
  · exact .nil

theorem arpRequestAndQueueEffects_touches (t : Topology) (net : Net) (cache : CacheRef)
    (iface : IfaceRef) (targetIp : UInt32) (packet : Packet) (id : PacketId) :
    Touches id net (arpRequestAndQueueEffects t net cache iface targetIp packet id) := by
  have hreq : Touches id net (arpSendRequestEffects t net iface targetIp) := by
    unfold arpSendRequestEffects
    split
    · exact .nil
    · exact .cons (.inr ⟨_, le_refl _, rfl⟩) (ethernetSendEffects_touches _ _ _ _ _ _ _).alloc
  unfold arpRequestAndQueueEffects
  apply hreq.append
  split
  · exact .nil
  · unfold arpPendingEnqueueEffects
    split
    · exact .cons (.inl rfl) .nil
    · exact .nil

theorem ipOutputEffects_touches (t : Topology) (net : Net) (srcIp dstIp : UInt32) (protocol : UInt8)
    (payload : Packet) (id : PacketId) :
    Touches id net (ipOutputEffects t net srcIp dstIp protocol payload id) := by
  unfold ipOutputEffects
  dsimp only
  show Touches id (net.record (.ipOutput srcIp dstIp protocol payload.bytes)) _
  generalize net.record (.ipOutput srcIp dstIp protocol payload.bytes) = net
  have hsend : ∀ (iface : IfaceRef) (dstMac : Mac) (packet : Packet), Touches id net
      (ethernetSendEffects t (net.txBytes iface packet.len) iface dstMac ethertypeIpv4 packet) := by
    intro iface dstMac packet
    show Touches id (net.txBytes iface packet.len) _
    exact ethernetSendEffects_touches _ _ _ _ _ _ _
  split
  · exact .nil
  · split
    · exact .nil
    · split
      · split
        · exact .nil
        · split
          · exact .nil
          · exact hsend _ _ _
      · split
        · exact .nil
        · split
          · exact .nil
          · split
            · exact .nil
            · split
              · exact arpRequestAndQueueEffects_touches _ _ _ _ _ _ _
              · exact hsend _ _ _

theorem sendCreatedEffects_touches (t : Topology) (net : Net) (srcIp dstIp : UInt32)
    (protocol : UInt8) (pkt : Packet) :
    Touches (.created net.allocs) net (sendCreatedEffects t net srcIp dstIp protocol pkt) := by
  unfold sendCreatedEffects
  refine .cons (.inl rfl) (.append (ipOutputEffects_touches _ _ _ _ _ _ _).alloc ?_)
  split
  · exact .cons (.inl rfl) .nil
  · exact .nil

theorem icmpSendErrorEffects_touches (t : Topology) (net : Net) (iface : IfaceRef)
    (origPkt : Packet) (type code : UInt8) (nextHopMtu : UInt16) :
    Touches (.created net.allocs) net
      (icmpSendErrorEffects t net iface origPkt type code nextHopMtu) := by
  unfold icmpSendErrorEffects
  dsimp only
  split
  · exact .nil
  · split
    · exact .nil
    · exact sendCreatedEffects_touches _ _ _ _ _ _

/-! ## Errors and transit -/

/-- The packet of the caller is freed after a call that leaves it alone. -/
theorem ownedOnce_free_given {net : Net} {effects : List PacketEffect}
    (h : Touches (.created net.allocs) net effects) :
    OwnedOnce [.given] (effects ++ [.free .given]) ↔ OwnedOnce [] effects := by
  obtain ⟨hzero, hnew⟩ := h.given
  constructor
  · intro howned id hid
    have hmem : .create id ∈ effects := hid.resolve_left List.not_mem_nil
    have hne : PacketId.given ≠ id := by
      rintro rfl
      exact hnew hmem
    have hone := howned id (.inr (List.mem_append_left _ hmem))
    simpa [hne] using hone
  · intro howned id hid
    by_cases hgiven : id = .given
    · subst hgiven
      simp [hzero]
    · have hmem : .create id ∈ effects := by simpa [hgiven] using hid
      have hne : PacketId.given ≠ id := fun h => hgiven h.symm
      simpa [hne] using howned id (.inr hmem)

/-- The error for this packet leaves the interface. -/
def IcmpErrorEmits (t : Topology) (net : Net) (iface : IfaceRef) (origPkt : Packet) : Prop :=
  ipHdrLen ≤ origPkt.data ∧
    icmpSuppressed (getIpHeader (origPkt.header ipHdrLen)) origPkt.bytes = false ∧
    IpEmits t net (t.iface iface).ipAddr (getIpHeader (origPkt.header ipHdrLen)).srcIp

theorem ownedOnce_nil : OwnedOnce [] [] := by
  rintro id (h | h)
  · cases h
  · cases h

theorem icmpSendError_owned_iff (net : Net) (iface : IfaceRef) (origPkt : Packet) (type code : UInt8)
    (nextHopMtu : UInt16) :
    OwnedOnce [] (icmpSendErrorEffects t net iface origPkt type code nextHopMtu) ↔
      ¬ IcmpErrorEmits t net iface origPkt := by
  have hview : packetValidateView origPkt ipHdrLen 0 = true ↔ ipHdrLen ≤ origPkt.data := by
    simp [packetValidateView_iff]
  unfold icmpSendErrorEffects IcmpErrorEmits
  rw [← hview]
  dsimp only
  split
  · rename_i hrefused
    refine ⟨fun _ h => ?_, fun _ => ownedOnce_nil⟩
    simp [h.1] at hrefused
  · rename_i hroom
    split
    · rename_i hsup
      refine ⟨fun _ h => ?_, fun _ => ownedOnce_nil⟩
      simp [h.2.1] at hsup
    · rename_i hsup
      have hroom : packetValidateView origPkt ipHdrLen 0 = true := by simpa using hroom
      have hsup : icmpSuppressed (getIpHeader (origPkt.header ipHdrLen)) origPkt.bytes = false := by
        simpa using hsup
      rw [sendCreated_owned_iff net _ _ _ (data_packetFill _ _)]
      simp [hroom, hsup]

/-- When `router_receive` leaves each packet with one owner: it refuses the header, the
    error that it answers with does not leave, or it has neither the address that the
    packet goes to nor a way to ask for it. -/
def RouterKeepsOwners (t : Topology) (net : Net) (router : Router) (iface : IfaceRef)
    (pkt : Packet) : Prop :=
  let ipHdr := getIpHeader pkt.bytes
  ipValidateHeader pkt = false ∨
    if ipHdr.ttl ≤ 1 then ¬ IcmpErrorEmits t net iface pkt
    else
      match routeTableLookup router.routeTbl ipHdr.dstIp with
      | none => ¬ IcmpErrorEmits t net iface pkt
      | some route =>
        let arpTargetIp := if route.nextHop ≠ 0 then route.nextHop else ipHdr.dstIp
        arpCacheLookup (net.arp router.arpCache) arpTargetIp = none ∧
          (route.iface = none ∨ arpTargetIp = 0)

theorem ownedOnce_free : OwnedOnce [.given] [.free .given] := by
  intro id hid
  simp at hid
  simp [hid]

theorem routerReceive_owned_iff (net : Net) (router : Router) (iface : IfaceRef) {pkt : Packet}
    (h : Transits t router pkt) :
    OwnedOnce [.given] (routerReceiveEffects t net router iface pkt) ↔
      RouterKeepsOwners t net router iface pkt := by
  have herror : ∀ type code : UInt8, OwnedOnce [.given]
      (icmpSendErrorEffects t net iface pkt type code 0 ++ [.free .given]) ↔
        ¬ IcmpErrorEmits t net iface pkt := by
    intro type code
    rw [ownedOnce_free_given (icmpSendErrorEffects_touches t net iface pkt type code 0),
      icmpSendError_owned_iff]
  have hlost : ∀ {effects : List PacketEffect}, disposals .given effects = 0 →
      ¬ OwnedOnce [.given] effects := fun hzero =>
    not_ownedOnce (.inl List.mem_cons_self) hzero
  unfold routerReceiveEffects RouterKeepsOwners
  simp only [h.1, h.2, Bool.or_self, Bool.false_eq_true, if_false]
  by_cases hvalid : ipValidateHeader pkt = true
  · simp only [hvalid, Bool.not_true, Bool.false_eq_true, if_false, Bool.true_eq_false, false_or]
    by_cases httl : (getIpHeader pkt.bytes).ttl ≤ 1
    · simp only [httl, if_true]
      exact herror _ _
    · simp only [if_neg httl]
      cases hroute : routeTableLookup router.routeTbl (getIpHeader pkt.bytes).dstIp with
      | none => exact herror _ _
      | some route =>
        dsimp only
        generalize (if route.nextHop ≠ 0 then route.nextHop else (getIpHeader pkt.bytes).dstIp) =
          arpTargetIp
        generalize packetOverwrite pkt (ipForwardedHeader (getIpHeader pkt.bytes)).bytes = packet
        cases hlookup : arpCacheLookup (net.arp router.arpCache) arpTargetIp with
        | some mac =>
          refine ⟨fun howned => ?_, fun hmiss => absurd hmiss.1 (Option.some_ne_none mac)⟩
          cases hout : route.iface with
          | none =>
            rw [hout] at howned
            exact absurd howned (hlost rfl)
          | some out =>
            rw [hout] at howned
            refine absurd howned (hlost ?_)
            exact disposals_ethernetSendEffects net out mac ethertypeIpv4 _ (given_ne_created _)
        | none =>
          cases hout : route.iface with
          | none => simp [ownedOnce_free]
          | some out =>
            dsimp only
            by_cases h0 : arpTargetIp = 0
            · subst h0
              obtain ⟨hres, hnil⟩ :=
                arpRequestAndQueue_zero (t := t) net router.arpCache out packet .given
              rw [hres, hnil]
              simp [ownedOnce_free]
            · refine ⟨fun howned => ?_, fun hzero => ?_⟩
              · have hne := given_ne_created net.allocs
                have hloses : Loses .given net (-1) (arpRequestAndQueueEffects t net router.arpCache
                    out arpTargetIp packet .given) :=
                  arpRequestAndQueue_loses net router.arpCache out packet h0 hne (-1)
                rcases hloses with ⟨hres, -⟩ | ⟨hmem, hzero⟩
                · exact absurd rfl hres
                · refine absurd howned (not_ownedOnce (.inr (List.mem_append_left _ hmem)) ?_)
                  rw [disposals_append, hzero]
                  split
                  · rfl
                  · rfl
              · simp [h0] at hzero
  · simp [hvalid, ownedOnce_free]

/-! ## ARP messages -/

/-- A message of ARP that is built has no owner. -/
theorem not_ownedOnce_arp (net : Net) (iface : IfaceRef) (dstMac : Mac) (pkt : Packet) :
    ¬ OwnedOnce [] (.create (.created net.allocs) ::
      ethernetSendEffects t net.alloc iface dstMac ethertypeArp pkt) := by
  apply not_ownedOnce (.inr List.mem_cons_self)
  rw [disposals_create]
  apply disposals_ethernetSendEffects
  rw [Ne, PacketId.created.injEq]
  exact Nat.ne_of_lt (Nat.lt_succ_self _)

theorem arpSendRequest_owned_iff (net : Net) (iface : IfaceRef) (targetIp : UInt32) :
    OwnedOnce [] (arpSendRequestEffects t net iface targetIp) ↔ targetIp = 0 := by
  unfold arpSendRequestEffects
  dsimp only
  split
  · rename_i h0
    exact ⟨fun _ => h0, fun _ => ownedOnce_nil⟩
  · rename_i h0
    exact ⟨fun howned => absurd howned (not_ownedOnce_arp net iface _ _), fun h => absurd h h0⟩

theorem arpSendReply_owned_iff (net : Net) (iface : IfaceRef) (reqPkt : Packet) :
    OwnedOnce [] (arpSendReplyEffects t net iface reqPkt) ↔ reqPkt.len < arpPacketLen := by
  have hview : packetValidateView reqPkt 0 arpPacketLen = true ↔ ¬ reqPkt.len < arpPacketLen := by
    simp [packetValidateView_iff]
  unfold arpSendReplyEffects
  dsimp only
  split
  · rename_i hshort
    refine ⟨fun _ => ?_, fun _ => ownedOnce_nil⟩
    by_contra hlong
    simp [hview.mpr hlong] at hshort
  · rename_i hlong
    have hlong : packetValidateView reqPkt 0 arpPacketLen = true := by simpa using hlong
    exact ⟨fun howned => absurd howned (not_ownedOnce_arp net iface _ _),
      fun hshort => absurd hshort (hview.mp hlong)⟩

end FrameRunner
