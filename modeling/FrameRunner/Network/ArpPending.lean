import FrameRunner.Lib.Run
import FrameRunner.Lib.SlotQueue
import FrameRunner.Network.Resolution

/-!
# The packets that wait for an address (`protocols/arp_cache.c`)

`arp_pending_enqueue` puts a packet into the first free slot, `arp_pending_flush` hands the
packets for one address to `ethernet_send`, the lowest slot first, and frees those that are
not sent. The calls of a flush are listed beside it, and every accepted packet gets a
ticket, so that a packet can be followed through a run.

Main results, on any sequence of enqueues and flushes:

* `pendingRun_accounted`: each accepted packet waits in one slot or was handed over once.
* `pendingRun_order`: when the packets for an address are handed over in their order.
-/

namespace FrameRunner

open FrameRunner.Lib

/-! ## The calls of a flush -/

/-- `ethernet_send(sim, iface, mac_addr, ethertype, packet)` with its result, and
    `packet_free(packet)`. -/
inductive PendingCall where
  | send (iface : IfaceRef) (macAddr : Mac) (ethertype : UInt16) (packet : Packet) (res : ℤ)
  | free (packet : Option Packet)
  deriving DecidableEq, Repr

/-- The record waits for this address. -/
def ArpPendingPacket.waitsFor (pending : ArpPendingPacket) (targetIp : UInt32) : Bool :=
  pending.valid && pending.targetIp == targetIp

/-- A record that was taken out (lines 106–108). -/
def ArpPendingPacket.cleared (pending : ArpPendingPacket) : ArpPendingPacket :=
  { pending with valid := false, packet := none, iface := none }

/-- The cache after the packet of slot `i` was taken out (lines 106–111). -/
def ArpCache.take (cache : ArpCache) (i : Fin arpMaxPendingPackets) : ArpCache :=
  { cache with
    pending := Function.update cache.pending i (cache.pending i).cleared
    pendingCount := cache.pendingCount - 1 }

/-- The calls of round `i` of the loop of `arp_pending_flush` (lines 113–122). -/
def arpPendingFlushEntryCalls (t : Topology) (cache : CacheRef) (targetIp : UInt32)
    (macAddr : Mac) (acc : Net × ℤ) (i : Fin arpMaxPendingPackets) :
    List (Fin arpMaxPendingPackets × PendingCall) :=
  let (net, _) := acc
  let pending := (net.arp cache).pending i
  if !pending.valid || pending.targetIp != targetIp then []
  else
    let net := net.setArp cache ((net.arp cache).take i)
    match pending.iface, pending.packet with
    | some iface, some packet =>
      let res := (ethernetSend t net iface macAddr pending.ethertype packet).2.1
      (i, .send iface macAddr pending.ethertype packet res) ::
        if res ≥ 0 then [] else [(i, .free (some packet))]
    | _, _ => [(i, .free pending.packet)]

/-- The calls of `arp_pending_flush`, each for a slot. -/
def arpPendingFlushCalls (t : Topology) (net : Net) (cache : CacheRef) (targetIp : UInt32)
    (macAddr : Mac) : List (Fin arpMaxPendingPackets × PendingCall) :=
  if targetIp = 0 then []
  else
    outputs (arpPendingFlushEntry t cache targetIp macAddr)
      (arpPendingFlushEntryCalls t cache targetIp macAddr) (net, 0)
      (List.finRange arpMaxPendingPackets)

/-! ## Runs -/

/-- A call that a flush for `targetIp` made for the packet with this ticket. -/
structure FlushCall where
  ticket : ℕ
  targetIp : UInt32
  macAddr : Mac
  call : PendingCall
  deriving DecidableEq, Repr

def FlushCall.of (ticket : Slots arpMaxPendingPackets ℕ) (targetIp : UInt32) (macAddr : Mac)
    (c : Fin arpMaxPendingPackets × PendingCall) : FlushCall :=
  ⟨ticket c.1, targetIp, macAddr, c.2⟩

/-- The cache with, for each slot, the ticket of its packet; the records that were accepted,
    whose tickets are their positions; and the calls of the flushes. -/
structure PendingRun where
  cache : ArpCache
  ticket : Slots arpMaxPendingPackets ℕ
  accepted : List ArpPendingPacket
  calls : List FlushCall

/-- A flush finds the network in any state but for the cache. -/
inductive PendingOp where
  | enqueue (iface : IfaceRef) (targetIp : UInt32) (ethertype : UInt16) (packet : Packet)
  | flush (t : Topology) (net : Net) (cache : CacheRef) (targetIp : UInt32) (macAddr : Mac)

/-- The record that `arp_pending_enqueue` stores (lines 74–78). -/
def pendingRecord (iface : IfaceRef) (targetIp : UInt32) (ethertype : UInt16) (packet : Packet) :
    ArpPendingPacket :=
  { targetIp := targetIp, ethertype := ethertype, iface := some iface, packet := some packet,
    valid := true }

def pendingStep (s : PendingRun) : PendingOp → PendingRun
  | .enqueue iface targetIp ethertype packet =>
    let (cache, res) := arpPendingEnqueue s.cache iface targetIp ethertype packet
    if res ≠ 0 then { s with cache := cache }
    else
      { s with
        cache := cache
        ticket :=
          match Fin.find? fun i => !(s.cache.pending i).valid with
          | some i => Function.update s.ticket i s.accepted.length
          | none => s.ticket
        accepted := s.accepted ++ [pendingRecord iface targetIp ethertype packet] }
  | .flush t net cache targetIp macAddr =>
    let net := net.setArp cache s.cache
    { s with
      cache := (arpPendingFlush t net cache targetIp macAddr).1.arp cache
      calls := s.calls ++ (arpPendingFlushCalls t net cache targetIp macAddr).map
        (.of s.ticket targetIp macAddr) }

/-- `arp_cache_init`; nothing was accepted. -/
def pendingInit : PendingRun where
  cache := arpCacheInit
  ticket := fun _ => 0
  accepted := []
  calls := []

/-! ## One flush -/

/-- A packet that was handed to `ethernet_send`, with its record and the result. -/
structure Handover where
  pending : ArpPendingPacket
  ticket : ℕ
  iface : IfaceRef
  packet : Packet
  macAddr : Mac
  res : ℤ
  valid : pending.valid = true
  iface_eq : pending.iface = some iface
  packet_eq : pending.packet = some packet

namespace Handover

/-- The packet is sent once, and freed once if it is not sent. -/
def calls (h : Handover) : List FlushCall :=
  ⟨h.ticket, h.pending.targetIp, h.macAddr,
    .send h.iface h.macAddr h.pending.ethertype h.packet h.res⟩ ::
    if h.res ≥ 0 then [] else [⟨h.ticket, h.pending.targetIp, h.macAddr, .free (some h.packet)⟩]

def entry (h : Handover) : ArpPendingPacket × ℕ := (h.pending, h.ticket)

end Handover

/-- Every packet that waits is there, with its interface, for an address. -/
def PendingWhole (cache : ArpCache) : Prop :=
  ∀ i, (cache.pending i).valid = true → (cache.pending i).targetIp ≠ 0 ∧
    ∃ iface packet, (cache.pending i).iface = some iface ∧ (cache.pending i).packet = some packet

@[simp] theorem ArpCache.take_self (cache : ArpCache) (i : Fin arpMaxPendingPackets) :
    (cache.take i).pending i = (cache.pending i).cleared := Function.update_self ..

theorem ArpCache.take_of_ne (cache : ArpCache) {i j : Fin arpMaxPendingPackets} (h : j ≠ i) :
    (cache.take i).pending j = cache.pending j := Function.update_of_ne h ..

theorem PendingWhole.take {cache : ArpCache} (h : PendingWhole cache)
    (i : Fin arpMaxPendingPackets) : PendingWhole (cache.take i) := by
  intro j
  by_cases hj : j = i
  · subst hj
    rw [ArpCache.take_self]
    intro hvalid
    cases hvalid
  · rw [ArpCache.take_of_ne cache hj]
    exact h j

/-- `pending_count` is the number of valid slots. -/
def PendingCounted (cache : ArpCache) : Prop :=
  cache.pendingCount = Slots.count ArpPendingPacket.valid cache.pending

theorem PendingCounted.take {cache : ArpCache} {i : Fin arpMaxPendingPackets}
    (h : PendingCounted cache) (hi : (cache.pending i).valid = true) :
    PendingCounted (cache.take i) := by
  have hdrop := Slots.count_drop ArpPendingPacket.valid cache.pending i
    (rfl : (cache.pending i).cleared.valid = false) hi
  show cache.pendingCount - 1 = _
  rw [h, ← hdrop]
  rfl

section
variable {t : Topology} {cache : CacheRef} {targetIp : UInt32} {macAddr : Mac}
  {i : Fin arpMaxPendingPackets} {acc : Net × ℤ}

/-- A round that finds no packet for the address. -/
theorem arpPendingFlushEntry_skip
    (h : ((acc.1.arp cache).pending i).waitsFor targetIp = false) :
    arpPendingFlushEntry t cache targetIp macAddr acc i = acc ∧
      arpPendingFlushEntryCalls t cache targetIp macAddr acc i = [] := by
  have hskip : (!((acc.1.arp cache).pending i).valid ||
      ((acc.1.arp cache).pending i).targetIp != targetIp) = true := by
    rw [ArpPendingPacket.waitsFor, Bool.and_eq_false_iff] at h
    rcases h with h | h
    · rw [h]
      rfl
    · rw [bne, h, Bool.not_false, Bool.or_true]
  constructor
  · unfold arpPendingFlushEntry
    exact if_pos hskip
  · unfold arpPendingFlushEntryCalls
    exact if_pos hskip

/-- A round that finds one hands it over. -/
theorem arpPendingFlushEntry_hit (hwhole : PendingWhole (acc.1.arp cache))
    (h : ((acc.1.arp cache).pending i).waitsFor targetIp = true)
    (ticket : Slots arpMaxPendingPackets ℕ) :
    (arpPendingFlushEntry t cache targetIp macAddr acc i).1.arp cache =
        (acc.1.arp cache).take i ∧
      ∃ handover : Handover, handover.entry = ((acc.1.arp cache).pending i, ticket i) ∧
        (arpPendingFlushEntryCalls t cache targetIp macAddr acc i).map
          (.of ticket targetIp macAddr) = handover.calls := by
  obtain ⟨hvalid, htarget⟩ := Bool.and_eq_true_iff.mp h
  obtain ⟨-, iface, packet, hiface, hpacket⟩ := hwhole i hvalid
  have hkeep : (!((acc.1.arp cache).pending i).valid ||
      ((acc.1.arp cache).pending i).targetIp != targetIp) = false := by
    rw [hvalid, bne, htarget]
    rfl
  have hsent := ethernetSend_arp t (acc.1.setArp cache ((acc.1.arp cache).take i)) iface macAddr
    ((acc.1.arp cache).pending i).ethertype packet
  constructor
  · unfold arpPendingFlushEntry
    simp only [hkeep, Bool.false_eq_true, if_false, hiface, hpacket]
    refine (congrFun hsent cache).trans ?_
    exact Function.update_self ..
  · refine ⟨⟨(acc.1.arp cache).pending i, ticket i, iface, packet, macAddr,
      (ethernetSend t (acc.1.setArp cache ((acc.1.arp cache).take i)) iface macAddr
        ((acc.1.arp cache).pending i).ethertype packet).2.1, hvalid, hiface, hpacket⟩, rfl, ?_⟩
    unfold arpPendingFlushEntryCalls Handover.calls
    simp only [hkeep, Bool.false_eq_true, if_false, hiface, hpacket, List.map_cons]
    rw [beq_iff_eq.mp htarget]
    split
    · rfl
    · rfl

/-- What is left of the records when the slots `is` were visited. -/
def flushed (pending : Slots arpMaxPendingPackets ArpPendingPacket) (targetIp : UInt32)
    (is : List (Fin arpMaxPendingPackets)) : Slots arpMaxPendingPackets ArpPendingPacket := fun j =>
  if j ∈ is ∧ (pending j).waitsFor targetIp = true then (pending j).cleared else pending j

section
variable {pending : Slots arpMaxPendingPackets ArpPendingPacket}
  {is : List (Fin arpMaxPendingPackets)}

theorem waitsFor_cleared (record : ArpPendingPacket) (targetIp : UInt32) :
    record.cleared.waitsFor targetIp = false := rfl

theorem flushed_cons_skip (h : (pending i).waitsFor targetIp = false) :
    flushed pending targetIp (i :: is) = flushed pending targetIp is := by
  funext j
  unfold flushed
  by_cases hj : j = i
  · subst hj
    simp [h]
  · simp [hj]

theorem flushed_cons_hit (h : (pending i).waitsFor targetIp = true) :
    flushed pending targetIp (i :: is) =
      flushed (Function.update pending i (pending i).cleared) targetIp is := by
  funext j
  unfold flushed
  by_cases hj : j = i
  · subst hj
    simp [h, waitsFor_cleared]
  · simp [hj]

end

/-- The rounds of a flush over some slots. -/
theorem arpPendingFlush_rounds (ticket : Slots arpMaxPendingPackets ℕ)
    (is : List (Fin arpMaxPendingPackets)) : ∀ acc : Net × ℤ, is.Nodup →
      PendingWhole (acc.1.arp cache) →
      ((run (arpPendingFlushEntry t cache targetIp macAddr) acc is).1.arp cache).pending =
        flushed (acc.1.arp cache).pending targetIp is ∧
      ∃ handovers : List Handover,
        handovers.map Handover.entry = is.filterMap (fun i =>
          if ((acc.1.arp cache).pending i).waitsFor targetIp then
            some ((acc.1.arp cache).pending i, ticket i) else none) ∧
        (outputs (arpPendingFlushEntry t cache targetIp macAddr)
          (arpPendingFlushEntryCalls t cache targetIp macAddr) acc is).map
            (.of ticket targetIp macAddr) = handovers.flatMap Handover.calls := by
  induction is with
  | nil =>
    intro acc _ _
    refine ⟨?_, [], rfl, rfl⟩
    funext j
    rw [flushed, if_neg (fun h => List.not_mem_nil h.1)]
    rfl
  | cons i is ih =>
    intro acc hnodup hwhole
    obtain ⟨hi, hnodup⟩ := List.nodup_cons.mp hnodup
    rw [run_cons, outputs, List.map_append]
    cases hhit : ((acc.1.arp cache).pending i).waitsFor targetIp with
    | false =>
      obtain ⟨hentry, hcalls⟩ := @arpPendingFlushEntry_skip t cache targetIp macAddr i acc hhit
      obtain ⟨hpending, handovers, hentries, hmore⟩ := ih acc hnodup hwhole
      rw [hentry, hcalls, flushed_cons_skip hhit, List.filterMap_cons_none (by rw [hhit]; rfl)]
      exact ⟨hpending, handovers, hentries, hmore⟩
    | true =>
      obtain ⟨hentry, handover, hhandover, hcalls⟩ :=
        @arpPendingFlushEntry_hit t cache targetIp macAddr i acc hwhole hhit ticket
      obtain ⟨hpending, handovers, hentries, hmore⟩ := ih _ hnodup (hentry ▸ hwhole.take i)
      refine ⟨hpending.trans ?_, handover :: handovers, ?_, ?_⟩
      · rw [hentry, flushed_cons_hit hhit]
        rfl
      · rw [List.map_cons, hhandover, hentries, List.filterMap_cons_some (by rw [hhit]; rfl)]
        congr 1
        refine List.filterMap_congr fun j hj => ?_
        rw [hentry, ArpCache.take_of_ne _ (ne_of_mem_of_not_mem hj hi)]
      · rw [hcalls, hmore, List.flatMap_cons]

/-- A flush takes out the packets for its address and keeps the count. -/
theorem arpPendingFlush_cache {net : Net} (hwhole : PendingWhole (net.arp cache))
    (hcounted : PendingCounted (net.arp cache)) :
    PendingWhole ((arpPendingFlush t net cache targetIp macAddr).1.arp cache) ∧
      PendingCounted ((arpPendingFlush t net cache targetIp macAddr).1.arp cache) := by
  unfold arpPendingFlush
  split
  · exact ⟨hwhole, hcounted⟩
  · refine Slots.forEach_invariant (fun acc : Net × ℤ =>
      PendingWhole (acc.1.arp cache) ∧ PendingCounted (acc.1.arp cache)) ⟨hwhole, hcounted⟩ ?_
    intro i acc hacc
    cases hhit : ((acc.1.arp cache).pending i).waitsFor targetIp with
    | false =>
      rw [(@arpPendingFlushEntry_skip t cache targetIp macAddr i acc hhit).1]
      exact hacc
    | true =>
      rw [(@arpPendingFlushEntry_hit t cache targetIp macAddr i acc hacc.1 hhit fun _ => 0).1]
      exact ⟨hacc.1.take i, hacc.2.take (Bool.and_eq_true_iff.mp hhit).1⟩

/-- And hands them over, the lowest slot first. -/
theorem arpPendingFlush_calls {net : Net} (hwhole : PendingWhole (net.arp cache))
    (ticket : Slots arpMaxPendingPackets ℕ) :
    (∀ j, ((arpPendingFlush t net cache targetIp macAddr).1.arp cache).pending j =
      if ((net.arp cache).pending j).waitsFor targetIp then ((net.arp cache).pending j).cleared
      else (net.arp cache).pending j) ∧
    ∃ handovers : List Handover,
      handovers.map Handover.entry = (List.finRange arpMaxPendingPackets).filterMap (fun i =>
        if ((net.arp cache).pending i).waitsFor targetIp then
          some ((net.arp cache).pending i, ticket i) else none) ∧
      (arpPendingFlushCalls t net cache targetIp macAddr).map (.of ticket targetIp macAddr) =
        handovers.flatMap Handover.calls := by
  unfold arpPendingFlush arpPendingFlushCalls
  by_cases h0 : targetIp = 0
  · have hnone : ∀ j, ((net.arp cache).pending j).waitsFor targetIp = false := by
      intro j
      rw [← Bool.not_eq_true, ArpPendingPacket.waitsFor, Bool.and_eq_true_iff, beq_iff_eq, h0]
      exact fun h => (hwhole j h.1).1 h.2
    rw [if_pos h0, if_pos h0]
    refine ⟨fun j => ?_, [], ?_, rfl⟩
    · rw [hnone j]
      rfl
    · rw [List.map_nil, eq_comm, List.filterMap_eq_nil_iff]
      intro i _
      rw [hnone i]
      rfl
  · rw [if_neg h0, if_neg h0]
    obtain ⟨hpending, hcalls⟩ := @arpPendingFlush_rounds t cache targetIp macAddr ticket
      (List.finRange arpMaxPendingPackets) (net, 0) (List.nodup_finRange _) hwhole
    have hrun : Slots.forEach arpMaxPendingPackets
        (arpPendingFlushEntry t cache targetIp macAddr) (net, 0) =
        run (arpPendingFlushEntry t cache targetIp macAddr) (net, 0)
          (List.finRange arpMaxPendingPackets) := by
      rw [Slots.forEach, run]
    refine ⟨fun j => ?_, hcalls⟩
    rw [hrun, hpending]
    simp only [flushed, List.mem_finRange, true_and]

end

/-! ## The waiting room -/

/-- The packet that a call hands over, with its ticket. -/
def FlushCall.handed? (c : FlushCall) : Option (ArpPendingPacket × ℕ) :=
  match c.call with
  | .send iface _ ethertype packet _ =>
    some (pendingRecord iface c.targetIp ethertype packet, c.ticket)
  | .free _ => none

theorem Handover.handed (h : Handover) : h.calls.filterMap FlushCall.handed? = [h.entry] := by
  obtain ⟨⟨targetIp, ethertype, iface, packet, valid⟩, ticket, iface', packet', macAddr, res,
    hvalid, hiface, hpacket⟩ := h
  cases hvalid
  cases hiface
  cases hpacket
  unfold Handover.calls
  dsimp only
  split
  · rfl
  · rfl

/-- A record in use, with its ticket. -/
def ArpPendingPacket.waiting (pending : ArpPendingPacket) (ticket : ℕ) :
    Option (ArpPendingPacket × ℕ) :=
  if pending.valid then some (pending, ticket) else none

section
variable (pending : ArpPendingPacket) (ticket : ℕ) (targetIp : UInt32)

theorem ArpPendingPacket.waiting_filter_eq :
    (pending.waiting ticket).filter (fun y => y.1.targetIp = targetIp) =
      if pending.waitsFor targetIp then some (pending, ticket) else none := by
  unfold waiting waitsFor
  by_cases hvalid : pending.valid = true
  · by_cases htarget : pending.targetIp = targetIp
    · simp [hvalid, htarget, Option.filter]
    · simp [hvalid, htarget, Option.filter]
  · simp [hvalid]

theorem ArpPendingPacket.waiting_filter_ne :
    (pending.waiting ticket).filter (fun y => y.1.targetIp ≠ targetIp) =
      (if pending.waitsFor targetIp then pending.cleared else pending).waiting ticket := by
  unfold waiting waitsFor
  by_cases hvalid : pending.valid = true
  · by_cases htarget : pending.targetIp = targetIp
    · simp [hvalid, htarget, Option.filter, cleared]
    · simp [hvalid, htarget, Option.filter]
  · simp [hvalid]

end

/-- The queue of the cache, with the tickets. -/
def PendingRun.queue (s : PendingRun) : SlotQueue.State arpMaxPendingPackets ArpPendingPacket where
  slots i := (s.cache.pending i).waiting (s.ticket i)
  accepted := s.accepted
  handed := s.calls.filterMap FlushCall.handed?

/-- What an operation does to it. -/
def PendingOp.queueOp : PendingOp → Option (SlotQueue.Op ArpPendingPacket UInt32)
  | .enqueue iface targetIp ethertype packet =>
    if targetIp = 0 then none else some (.push (pendingRecord iface targetIp ethertype packet))
  | .flush _ _ _ targetIp _ => some (.drain targetIp)

/-- What holds between the calls. -/
structure PendingOk (s : PendingRun) : Prop where
  whole : PendingWhole s.cache
  counted : PendingCounted s.cache
  accounted : SlotQueue.Accounted s.queue
  handovers : ∃ handovers : List Handover, s.calls = handovers.flatMap Handover.calls

theorem free_queue (s : PendingRun) :
    SlotQueue.free s.queue.slots = Fin.find? fun i => !(s.cache.pending i).valid := by
  unfold SlotQueue.free
  congr 1
  funext i
  show ((s.cache.pending i).waiting (s.ticket i)).isNone = _
  unfold ArpPendingPacket.waiting
  cases (s.cache.pending i).valid with
  | true => rfl
  | false => rfl

theorem filterMap_handed (handovers : List Handover) :
    (handovers.flatMap Handover.calls).filterMap FlushCall.handed? =
      handovers.map Handover.entry := by
  induction handovers with
  | nil => rfl
  | cons h handovers ih =>
    rw [List.flatMap_cons, List.filterMap_append, h.handed, ih]
    rfl

/-- The cache with another record in a free slot (lines 74–79). -/
def ArpCache.put (cache : ArpCache) (i : Fin arpMaxPendingPackets) (record : ArpPendingPacket) :
    ArpCache :=
  { cache with
    pending := Function.update cache.pending i record
    pendingCount := cache.pendingCount + 1 }

theorem ArpCache.put_self (cache : ArpCache) (i : Fin arpMaxPendingPackets)
    (record : ArpPendingPacket) : (cache.put i record).pending i = record :=
  Function.update_self ..

theorem ArpCache.put_of_ne (cache : ArpCache) {i j : Fin arpMaxPendingPackets}
    (record : ArpPendingPacket) (h : j ≠ i) : (cache.put i record).pending j = cache.pending j :=
  Function.update_of_ne h ..

section
variable {s : PendingRun} {iface : IfaceRef} {targetIp : UInt32} {ethertype : UInt16}
  {packet : Packet} {i : Fin arpMaxPendingPackets}

/-- `arp_pending_enqueue` rejects a packet without an address, or without a free slot. -/
theorem pendingStep_rejected
    (h : targetIp = 0 ∨ (Fin.find? fun i => !(s.cache.pending i).valid) = none) :
    pendingStep s (.enqueue iface targetIp ethertype packet) = s := by
  have hrejected : arpPendingEnqueue s.cache iface targetIp ethertype packet = (s.cache, -1) := by
    unfold arpPendingEnqueue
    split
    · rfl
    · rename_i h0
      rw [h.resolve_left h0]
  simp only [pendingStep, hrejected]
  rfl

theorem pendingStep_accepted (h0 : targetIp ≠ 0)
    (hfree : (Fin.find? fun i => !(s.cache.pending i).valid) = some i) :
    pendingStep s (.enqueue iface targetIp ethertype packet) =
      { s with
        cache := s.cache.put i (pendingRecord iface targetIp ethertype packet)
        ticket := Function.update s.ticket i s.accepted.length
        accepted := s.accepted ++ [pendingRecord iface targetIp ethertype packet] } := by
  have haccepted : arpPendingEnqueue s.cache iface targetIp ethertype packet =
      (s.cache.put i (pendingRecord iface targetIp ethertype packet), 0) := by
    unfold arpPendingEnqueue
    rw [if_neg h0, hfree]
    rfl
  simp only [pendingStep, haccepted, hfree]
  rfl

/-- A flush takes out the packets for its address, and its calls are those of their
    handovers, the lowest slot first. -/
theorem pendingStep_flush (hwhole : PendingWhole s.cache) (t : Topology) (net : Net)
    (cache : CacheRef) (targetIp : UInt32) (macAddr : Mac) :
    let s' := pendingStep s (.flush t net cache targetIp macAddr)
    (∀ j, s'.cache.pending j =
      if (s.cache.pending j).waitsFor targetIp then (s.cache.pending j).cleared
      else s.cache.pending j) ∧
    ∃ handovers : List Handover,
      handovers.map Handover.entry = (List.finRange arpMaxPendingPackets).filterMap (fun i =>
        if (s.cache.pending i).waitsFor targetIp then some (s.cache.pending i, s.ticket i)
        else none) ∧
      s'.calls = s.calls ++ handovers.flatMap Handover.calls := by
  have harp : (net.setArp cache s.cache).arp cache = s.cache := Function.update_self ..
  rw [← harp] at hwhole
  obtain ⟨hpending, handovers, hentries, hcalls⟩ :=
    @arpPendingFlush_calls t cache targetIp macAddr _ hwhole s.ticket
  rw [harp] at hpending hentries
  exact ⟨hpending, handovers, hentries, congrArg (s.calls ++ ·) hcalls⟩

/-- An operation on the cache is one on the queue. -/
theorem queue_step (h : PendingOk s) (op : PendingOp) :
    (pendingStep s op).queue =
      match op.queueOp with
      | some o => SlotQueue.step ArpPendingPacket.targetIp s.queue o
      | none => s.queue := by
  cases op with
  | enqueue iface targetIp ethertype packet =>
    by_cases h0 : targetIp = 0
    · rw [pendingStep_rejected (.inl h0), PendingOp.queueOp, if_pos h0]
    · rw [PendingOp.queueOp, if_neg h0]
      dsimp only
      cases hfree : Fin.find? fun i => !(s.cache.pending i).valid with
      | none =>
        rw [pendingStep_rejected (.inr hfree), SlotQueue.step, free_queue, hfree]
      | some i =>
        rw [pendingStep_accepted h0 hfree, SlotQueue.step, free_queue, hfree]
        unfold PendingRun.queue
        dsimp only
        congr 1
        funext j
        by_cases hj : j = i
        · subst hj
          rw [Function.update_self, Function.update_self, ArpCache.put_self]
          rfl
        · rw [Function.update_of_ne hj, Function.update_of_ne hj, ArpCache.put_of_ne _ _ hj]
  | flush t net cache targetIp macAddr =>
    obtain ⟨hpending, handovers, hentries, hcalls⟩ :=
      pendingStep_flush h.whole t net cache targetIp macAddr
    unfold PendingRun.queue PendingOp.queueOp SlotQueue.step
    congr 1
    · funext j
      rw [hpending, ArpPendingPacket.waiting_filter_ne]
      rfl
    · rw [hcalls, List.filterMap_append, filterMap_handed, hentries, ← SlotQueue.items_filter]
      congr 1
      refine List.filterMap_congr fun j _ => ?_
      rw [ArpPendingPacket.waiting_filter_eq]

end

theorem pendingOk_init : PendingOk pendingInit where
  whole := fun _ hvalid => by cases hvalid
  counted := (Slots.count_eq_zero.mpr fun _ => rfl).symm
  accounted := by
    show ([] ++ SlotQueue.items fun _ => none).Perm []
    rw [SlotQueue.items_none]
    exact .refl _
  handovers := ⟨[], rfl⟩

theorem pendingOk_step (s : PendingRun) (op : PendingOp) (h : PendingOk s) :
    PendingOk (pendingStep s op) := by
  have haccounted : SlotQueue.Accounted (pendingStep s op).queue := by
    rw [queue_step h op]
    cases op.queueOp with
    | none => exact h.accounted
    | some o => exact SlotQueue.accounted_step _ h.accounted o
  cases op with
  | enqueue iface targetIp ethertype packet =>
    by_cases h0 : targetIp = 0
    · rw [pendingStep_rejected (.inl h0)]
      exact h
    cases hfree : Fin.find? fun i => !(s.cache.pending i).valid with
    | none =>
      rw [pendingStep_rejected (.inr hfree)]
      exact h
    | some i =>
      have hempty : (s.cache.pending i).valid = false := by
        have hfound := (Fin.find?_eq_some_iff.mp hfree).1
        rwa [Bool.not_eq_true'] at hfound
      rw [pendingStep_accepted h0 hfree] at haccounted ⊢
      refine ⟨fun j hj => ?_, ?_, haccounted, h.handovers⟩
      · by_cases hji : j = i
        · subst hji
          rw [ArpCache.put_self]
          exact ⟨h0, iface, packet, rfl, rfl⟩
        · rw [ArpCache.put_of_ne _ _ hji] at hj ⊢
          exact h.whole j hj
      · have hstore := Slots.count_store ArpPendingPacket.valid s.cache.pending i
          (rfl : (pendingRecord iface targetIp ethertype packet).valid = true)
        rw [hempty, if_neg Bool.false_ne_true, ← h.counted] at hstore
        exact hstore.symm
  | flush t net cache targetIp macAddr =>
    have harp : (net.setArp cache s.cache).arp cache = s.cache := Function.update_self ..
    have hwhole : PendingWhole ((net.setArp cache s.cache).arp cache) := by
      rw [harp]
      exact h.whole
    have hcounted : PendingCounted ((net.setArp cache s.cache).arp cache) := by
      rw [harp]
      exact h.counted
    obtain ⟨hwhole', hcounted'⟩ := @arpPendingFlush_cache t cache targetIp macAddr _ hwhole hcounted
    obtain ⟨-, more, -, hmore⟩ := pendingStep_flush h.whole t net cache targetIp macAddr
    obtain ⟨handovers, hcalls⟩ := h.handovers
    refine ⟨hwhole', hcounted', haccounted, handovers ++ more, ?_⟩
    rw [hmore, hcalls, List.flatMap_append]

theorem pendingOk_run (ops : List PendingOp) : PendingOk (run pendingStep pendingInit ops) :=
  run_invariant PendingOk pendingOk_step ops _ pendingOk_init

/-! ## Every packet once -/

/-- The accepted record waits in one slot, and no call was made for it. -/
structure Waits (s : PendingRun) (ticket : ℕ) (record : ArpPendingPacket) : Prop where
  slot : ∃ i, s.cache.pending i = record ∧ s.ticket i = ticket ∧
    ∀ j, (s.cache.pending j).valid = true → s.ticket j = ticket → j = i
  valid : record.valid = true
  calls : s.calls.filter (fun c => c.ticket == ticket) = []

/-- The accepted record is in no slot. A flush for its address sent it once, over its own
    interface, and freed it if and only if that failed. -/
structure TakenOut (s : PendingRun) (ticket : ℕ) (record : ArpPendingPacket) : Prop where
  slot : ∀ i, (s.cache.pending i).valid = true → s.ticket i ≠ ticket
  calls : ∃ iface packet macAddr res, record.iface = some iface ∧ record.packet = some packet ∧
    s.calls.filter (fun c => c.ticket == ticket) =
      ⟨ticket, record.targetIp, macAddr, .send iface macAddr record.ethertype packet res⟩ ::
        if res < 0 then [⟨ticket, record.targetIp, macAddr, .free (some packet)⟩] else []

theorem Handover.ticket_of_mem {h : Handover} {c : FlushCall} (hc : c ∈ h.calls) :
    c.ticket = h.ticket := by
  unfold Handover.calls at hc
  rcases List.mem_cons.mp hc with rfl | hc
  · rfl
  · split at hc
    · cases hc
    · rw [List.mem_singleton.mp hc]

/-- The calls for a packet are those of its handovers. -/
theorem filter_calls (ticket : ℕ) (handovers : List Handover) :
    (handovers.flatMap Handover.calls).filter (fun c => c.ticket == ticket) =
      (handovers.filter fun h => h.ticket == ticket).flatMap Handover.calls := by
  induction handovers with
  | nil => rfl
  | cons h handovers ih =>
    rw [List.flatMap_cons, List.filter_append, ih]
    cases hticket : h.ticket == ticket with
    | true =>
      rw [List.filter_cons_of_pos (by exact hticket), List.flatMap_cons, List.filter_eq_self.mpr]
      intro c hc
      rw [Handover.ticket_of_mem hc]
      exact hticket
    | false =>
      rw [List.filter_cons_of_neg (by simp [hticket]), List.filter_eq_nil_iff.mpr, List.nil_append]
      intro c hc
      rw [Handover.ticket_of_mem hc, hticket]
      exact Bool.false_ne_true

theorem slots_queue_eq_some {s : PendingRun} {i : Fin arpMaxPendingPackets}
    {record : ArpPendingPacket} {ticket : ℕ} : s.queue.slots i = some (record, ticket) ↔
      (s.cache.pending i).valid = true ∧ s.cache.pending i = record ∧ s.ticket i = ticket := by
  show (s.cache.pending i).waiting (s.ticket i) = _ ↔ _
  unfold ArpPendingPacket.waiting
  split
  · rename_i hvalid
    rw [Option.some.injEq, Prod.mk.injEq, and_iff_right hvalid]
  · rename_i hvalid
    exact iff_of_false (by simp) fun h => hvalid h.1

/-- An accepted record waits, or was taken out. -/
theorem PendingOk.waits_or_takenOut {s : PendingRun} (h : PendingOk s) {ticket : ℕ}
    {record : ArpPendingPacket} (hk : s.accepted[ticket]? = some record) :
    Waits s ticket record ∨ TakenOut s ticket record := by
  obtain ⟨handovers, hcalls⟩ := h.handovers
  have hhanded : s.queue.handed.filter (fun y => y.2 == ticket) =
      (handovers.filter fun h => h.ticket == ticket).map Handover.entry := by
    show (s.calls.filterMap FlushCall.handed?).filter _ = _
    rw [hcalls, filterMap_handed, List.filter_map]
    rfl
  have hfilter := filter_calls ticket handovers
  rw [← hcalls] at hfilter
  rcases h.accounted.waiting_or_handed hk with ⟨⟨i, hi, hunique⟩, hnone⟩ | ⟨hslots, hone⟩
  · obtain ⟨hvalid, hrecord, hticket⟩ := slots_queue_eq_some.mp hi
    rw [hhanded, List.map_eq_nil_iff] at hnone
    refine .inl ⟨⟨i, hrecord, hticket, fun j hj hjt => ?_⟩, hrecord ▸ hvalid, ?_⟩
    · exact hunique j _ (slots_queue_eq_some.mpr ⟨hj, rfl, hjt⟩)
    · rw [hfilter, hnone]
      rfl
  · rw [hhanded] at hone
    obtain ⟨handover, hsingle, hentry⟩ := List.map_eq_singleton_iff.mp hone
    obtain ⟨rfl, rfl⟩ := Prod.mk.inj hentry
    refine .inr ⟨fun i hi hticket => hslots i _ (slots_queue_eq_some.mpr ⟨hi, rfl, hticket⟩),
      handover.iface, handover.packet, handover.macAddr, handover.res, handover.iface_eq,
      handover.packet_eq, ?_⟩
    rw [hfilter, hsingle, List.flatMap_singleton, Handover.calls]
    congr 1
    by_cases hres : handover.res < 0
    · rw [if_pos hres, if_neg (not_le.mpr hres)]
    · rw [if_neg hres, if_pos (not_lt.mp hres)]

/-- A flush changes no slot of another address and makes no call for its packet. -/
theorem PendingOk.flush_frame {s : PendingRun} (h : PendingOk s) (t : Topology) (net : Net)
    (cache : CacheRef) (targetIp : UInt32) (macAddr : Mac) :
    let s' := pendingStep s (.flush t net cache targetIp macAddr)
    (∀ i, (s.cache.pending i).targetIp ≠ targetIp → s'.cache.pending i = s.cache.pending i) ∧
      ∃ more, s'.calls = s.calls ++ more ∧
        ∀ c ∈ more, ∃ record, s.accepted[c.ticket]? = some record ∧ record.targetIp = targetIp := by
  intro s'
  obtain ⟨hpending, handovers, hentries, hmore⟩ :=
    pendingStep_flush h.whole t net cache targetIp macAddr
  refine ⟨fun i hi => (hpending i).trans (if_neg ?_), _, hmore, ?_⟩
  · rw [ArpPendingPacket.waitsFor, Bool.and_eq_true_iff, beq_iff_eq]
    exact fun h => hi h.2
  · intro c hc
    obtain ⟨handover, hmem, hcall⟩ := List.mem_flatMap.mp hc
    have hentry := List.mem_map_of_mem (f := Handover.entry) hmem
    rw [hentries] at hentry
    obtain ⟨i, -, hi⟩ := List.mem_filterMap.mp hentry
    split at hi
    · rename_i hwaits
      obtain ⟨hvalid, htarget⟩ := Bool.and_eq_true_iff.mp hwaits
      obtain ⟨-, hticket⟩ := Prod.mk.inj (Option.some.inj hi)
      refine ⟨s.cache.pending i, ?_, beq_iff_eq.mp htarget⟩
      rw [Handover.ticket_of_mem hcall, ← hticket]
      exact h.accounted.accepted_iff.mpr (.inr ⟨i, slots_queue_eq_some.mpr ⟨hvalid, rfl, rfl⟩⟩)
    · cases hi

/-- In every run of enqueues and flushes each accepted packet waits in one slot or was taken
    out once, and sent once, for its own address. -/
theorem pendingRun_accounted (ops : List PendingOp) :
    let s := run pendingStep pendingInit ops
    (∀ ticket record, s.accepted[ticket]? = some record →
      Waits s ticket record ∨ TakenOut s ticket record) ∧
    s.cache.pendingCount = Slots.count ArpPendingPacket.valid s.cache.pending ∧
    ∀ t net cache targetIp macAddr,
      let s' := pendingStep s (.flush t net cache targetIp macAddr)
      (∀ i, (s.cache.pending i).targetIp ≠ targetIp → s'.cache.pending i = s.cache.pending i) ∧
        ∃ more, s'.calls = s.calls ++ more ∧
          ∀ c ∈ more, ∃ record, s.accepted[c.ticket]? = some record ∧
            record.targetIp = targetIp :=
  have h := pendingOk_run ops
  ⟨fun _ _ => h.waits_or_takenOut, h.counted, h.flush_frame⟩

/-! ## The order of the packets for an address -/

/-- The tickets of the packets that were sent for an address, in the order of the calls. -/
def sentFor (targetIp : UInt32) (calls : List FlushCall) : List ℕ :=
  ((calls.filterMap FlushCall.handed?).filter fun y => y.1.targetIp = targetIp).map Prod.snd

/-- A packet for this address is put above all others for it that wait. -/
def EnqueuesAbove (targetIp : UInt32) (s : PendingRun) : PendingOp → Prop
  | .enqueue _ target _ _ => target = targetIp →
      ∀ i, (Fin.find? fun i => !(s.cache.pending i).valid) = some i →
        ∀ j, (s.cache.pending j).waitsFor targetIp = true → j < i
  | .flush _ _ _ _ _ => True

theorem putAbove_queue_iff {s : PendingRun} {targetIp target : UInt32} {iface : IfaceRef}
    {ethertype : UInt16} {packet : Packet} :
    SlotQueue.PutAbove ArpPendingPacket.targetIp targetIp s.queue
        (.push (pendingRecord iface target ethertype packet)) ↔
      EnqueuesAbove targetIp s (.enqueue iface target ethertype packet) := by
  have hwaits : ∀ j, (s.cache.pending j).waitsFor targetIp = true ↔
      ∃ y, s.queue.slots j = some y ∧ y.1.targetIp = targetIp := by
    intro j
    rw [ArpPendingPacket.waitsFor, Bool.and_eq_true_iff, beq_iff_eq]
    constructor
    · rintro ⟨hvalid, htarget⟩
      exact ⟨(_, _), slots_queue_eq_some.mpr ⟨hvalid, rfl, rfl⟩, htarget⟩
    · rintro ⟨⟨record, ticket⟩, hj, htarget⟩
      obtain ⟨hvalid, rfl, -⟩ := slots_queue_eq_some.mp hj
      exact ⟨hvalid, htarget⟩
  unfold SlotQueue.PutAbove EnqueuesAbove
  rw [free_queue]
  constructor
  · intro h ht i hi j hj
    obtain ⟨y, hy, htarget⟩ := (hwaits j).mp hj
    exact h ht i hi j y hy htarget
  · intro h ht i hi j y hy htarget
    exact h ht i hi j ((hwaits j).mpr ⟨y, hy, htarget⟩)

/-- An operation keeps the order exactly under this condition. -/
theorem inOrder_pendingStep {s : PendingRun} (h : PendingOk s) (targetIp : UInt32)
    (op : PendingOp) :
    SlotQueue.InOrder ArpPendingPacket.targetIp targetIp (pendingStep s op).queue ↔
      SlotQueue.InOrder ArpPendingPacket.targetIp targetIp s.queue ∧
        EnqueuesAbove targetIp s op := by
  rw [queue_step h op]
  cases op with
  | enqueue iface target ethertype packet =>
    by_cases h0 : target = 0
    · have habove : EnqueuesAbove targetIp s (.enqueue iface target ethertype packet) := by
        rintro rfl i _ j hj
        obtain ⟨hvalid, htarget⟩ := Bool.and_eq_true_iff.mp hj
        exact absurd ((beq_iff_eq.mp htarget).trans h0) (h.whole j hvalid).1
      rw [PendingOp.queueOp, if_pos h0, and_iff_left habove]
    · rw [PendingOp.queueOp, if_neg h0, ← putAbove_queue_iff]
      exact SlotQueue.inOrder_step h.accounted targetIp _
  | flush t net cache target macAddr =>
    exact SlotQueue.inOrder_step h.accounted targetIp (.drain target)

theorem inOrder_pendingInit (targetIp : UInt32) :
    SlotQueue.InOrder ArpPendingPacket.targetIp targetIp pendingInit.queue := by
  show (((([] : List (ArpPendingPacket × ℕ)) ++ SlotQueue.items fun _ => none).filter
    _).map _).Pairwise _
  rw [SlotQueue.items_none]
  exact .nil

theorem inOrder_run_iff (targetIp : UInt32) (ops : List PendingOp) :
    SlotQueue.InOrder ArpPendingPacket.targetIp targetIp (run pendingStep pendingInit ops).queue ↔
      Guarded pendingStep (EnqueuesAbove targetIp) pendingInit ops := by
  have hrun := run_iff_guarded (G := EnqueuesAbove targetIp)
    (Q := fun s => SlotQueue.InOrder ArpPendingPacket.targetIp targetIp s.queue) PendingOk
    pendingOk_step (fun _ op h => inOrder_pendingStep h targetIp op) ops _ pendingOk_init
  exact hrun.trans (and_iff_right (inOrder_pendingInit targetIp))

/-- After a flush of its address, all that was in the queue for it was sent. -/
theorem sentFor_flush {s : PendingRun} (h : PendingOk s) (t : Topology) (net : Net)
    (cache : CacheRef) (targetIp : UInt32) (macAddr : Mac) :
    sentFor targetIp (pendingStep s (.flush t net cache targetIp macAddr)).calls =
      SlotQueue.trail ArpPendingPacket.targetIp targetIp s.queue := by
  have hqueue : (pendingStep s (.flush t net cache targetIp macAddr)).queue =
      SlotQueue.step ArpPendingPacket.targetIp s.queue (.drain targetIp) :=
    queue_step h (.flush t net cache targetIp macAddr)
  rw [SlotQueue.trail_handed, ← hqueue]
  rfl

/-- The queue for an address: what was sent, then what waits, from the lowest slot up. -/
theorem trail_queue (s : PendingRun) (targetIp : UInt32) :
    SlotQueue.trail ArpPendingPacket.targetIp targetIp s.queue = sentFor targetIp s.calls ++
      (List.finRange arpMaxPendingPackets).filterMap fun i =>
        if (s.cache.pending i).waitsFor targetIp then some (s.ticket i) else none := by
  rw [SlotQueue.trail, List.filter_append, List.map_append, ← SlotQueue.items_filter,
    SlotQueue.items, List.map_filterMap]
  refine congrArg (sentFor targetIp s.calls ++ ·) (List.filterMap_congr fun i _ => ?_)
  show (((s.cache.pending i).waiting (s.ticket i)).filter _).map _ = _
  rw [ArpPendingPacket.waiting_filter_eq]
  split
  · rfl
  · rfl

/-- A flush hands the packets for its address over from the lowest slot to the highest. When
    all were flushed, they were handed over in the order of their enqueues exactly if each was
    put above those that waited; until then that is enough. -/
theorem pendingRun_order (targetIp : UInt32) (ops : List PendingOp) :
    let s := run pendingStep pendingInit ops
    (∀ t net cache macAddr,
      let calls := (pendingStep s (.flush t net cache targetIp macAddr)).calls
      sentFor targetIp calls = sentFor targetIp s.calls ++
        (List.finRange arpMaxPendingPackets).filterMap (fun i =>
          if (s.cache.pending i).waitsFor targetIp then some (s.ticket i) else none) ∧
      ((sentFor targetIp calls).Pairwise (· < ·) ↔
        Guarded pendingStep (EnqueuesAbove targetIp) pendingInit ops)) ∧
    (Guarded pendingStep (EnqueuesAbove targetIp) pendingInit ops →
      (sentFor targetIp s.calls).Pairwise (· < ·)) := by
  intro s
  have hok : PendingOk s := pendingOk_run ops
  refine ⟨fun t net cache macAddr => ⟨?_, ?_⟩, fun hguarded => ?_⟩
  · rw [sentFor_flush hok, trail_queue]
  · rw [sentFor_flush hok]
    exact inOrder_run_iff targetIp ops
  · have hsent : (sentFor targetIp s.calls).Sublist
        (SlotQueue.trail ArpPendingPacket.targetIp targetIp s.queue) :=
      @SlotQueue.handed_sublist _ _ _ _ ArpPendingPacket.targetIp s.queue targetIp
    exact ((inOrder_run_iff targetIp ops).mpr hguarded).sublist hsent

/-- The packets of 10.0.0.3 around a hole: the second is put into the slot that the packet of
    10.0.0.2 has left, and is sent first. -/
def exampleOvertaken : List PendingOp :=
  let packet := packetFill (fun _ => 0) []
  [.enqueue 0 0x0A000002 ethertypeIpv4 packet, .enqueue 0 0x0A000003 ethertypeIpv4 packet,
    .flush exampleHosts netInit 0 0x0A000002 ⟨2, 0, 0, 0, 0, 2⟩,
    .enqueue 0 0x0A000003 ethertypeIpv4 packet,
    .flush exampleHosts netInit 0 0x0A000003 ⟨2, 0, 0, 0, 0, 3⟩]

theorem not_pendingRun_inOrder :
    sentFor 0x0A000003 (run pendingStep pendingInit exampleOvertaken).calls = [2, 1] ∧
      ¬ (sentFor 0x0A000003 (run pendingStep pendingInit exampleOvertaken).calls).Pairwise
        (· < ·) := by
  decide +kernel

end FrameRunner
