import FrameRunner.Tcp.Ownership
import FrameRunner.Tcp.StaleTimers

/-!
# What is sent again (`protocols/tcp.c`)

`tcp_send_segment` clones its packet before it hands it to `ip_output`, and the send queue
keeps the clone. The packet itself gets the headers of the layers below, which may write to
it from then on. `TcpMemory` is the memory in which this happens, with packets by address;
the connections see the bytes only (`tcpSendSegment_memory`).

Main result:
* `tcpSegment_resent`: `tcp_receive` reads from a segment what `tcp_send_segment` was given,
  and a retransmission is the segment that was sent first, byte for byte.
-/

namespace FrameRunner

open FrameRunner.Lib

/-! ## Datagrams that are sent again -/

/-- The connections, with the datagram that was sent when an entry of a send queue was
    filled. -/
abbrev ResendState := TcpTable × (TcbIndex → Fin tcpMaxInflight → Option IpDatagram)

/-- The datagram of a step is that of the entries that hold no packet before it. -/
def resendStep : ResendState → IpEnv × TcpInput → ResendState :=
  observe tcpStep fun first table input i k =>
    if (table.tcbs i).valid && ((table.tcbs i).sendq.entries k).held then first i k
    else (tcpStepOut table input).sent.head?

def resendInit : ResendState := (tcpInit, fun _ _ => none)

/-- What the timer of a slot sends is the first datagram of an entry that is still held. -/
def ResendsFirst (x : ResendState) (input : IpEnv × TcpInput) : Prop :=
  ∀ i, input.2 = .retransmit i → ∀ pkt ∈ (tcpStepOut x.1 input).sent,
    ∃ k, ((x.1.tcbs i).sendq.entries k).held = true ∧ x.2 i k = some pkt

/-! ## Packets in memory -/

/-- The packets by address, of which those from `net.allocs` on are not used yet. `lent` is
    what other modules know of and may write to; `sendq` is `pkt` of the entries of the send
    queues. -/
structure TcpMemory where
  net : Net
  packets : ℕ → Packet
  lent : ℕ → Bool
  sendq : TcbIndex → Fin tcpMaxInflight → Option ℕ

/-- The arguments of `tcp_send_segment`. -/
structure TcpSegmentArgs where
  srcIp : UInt32
  dstIp : UInt32
  srcPort : UInt16
  dstPort : UInt16
  seq : UInt32
  ack : UInt32
  flags : UInt8
  payload : List UInt8

/-- The arguments for a segment of the connection. -/
def Tcb.segmentArgs (tcb : Tcb) (seq ack : UInt32) (flags : UInt8) (payload : List UInt8) :
    TcpSegmentArgs :=
  ⟨tcb.localIp, tcb.remoteIp, tcb.localPort, tcb.remotePort, seq, ack, flags, payload⟩

/-- The header and the payload that are written. -/
def TcpSegmentArgs.bytes (seg : TcpSegmentArgs) : List UInt8 :=
  tcpSegmentBytes seg.srcPort seg.dstPort seg.seq seg.ack seg.flags seg.payload

namespace TcpMemory

/-- `packet_create` or `packet_clone`, with what is written to the new packet: it has the
    address `net.allocs`, and nobody else knows of it. -/
def create (m : TcpMemory) (p : Packet) : TcpMemory where
  net := m.net.alloc
  packets := Function.update m.packets m.net.allocs p
  lent := Function.update m.lent m.net.allocs false
  sendq := m.sendq

/-- `packet_free`: the memory may go to anybody. -/
def free (m : TcpMemory) (a : ℕ) : TcpMemory := { m with lent := Function.update m.lent a true }

/-- `ip_output` puts headers before the packet, which stays with the layers below unless it
    fails. -/
def ipOutput (t : Topology) (m : TcpMemory) (srcIp dstIp : UInt32) (a : ℕ) : TcpMemory × ℤ :=
  let (net, res, p) := FrameRunner.ipOutput t m.net srcIp dstIp ipProtoTcp (m.packets a)
  ({ m with
      net := net
      packets := Function.update m.packets a p
      lent := Function.update m.lent a true }, res)

/-- `pkt` of an entry is stored. -/
def setEntry (m : TcpMemory) (i : TcbIndex) (k : Fin tcpMaxInflight) (pkt : Option ℕ) : TcpMemory :=
  { m with sendq := Function.update m.sendq i (Function.update (m.sendq i) k pkt) }

/-- `tcp_send_segment` (lines 171–240) without a clone: the result is its status. -/
def sendSegment (t : Topology) (m : TcpMemory) (seg : TcpSegmentArgs) : TcpMemory × ℤ :=
  if seg.payload.length > tcpMss then (m, -1)
  else
    let pkt := m.net.allocs
    let m := m.create (packetFill (t.memory pkt) seg.bytes)
    let (m, res) := m.ipOutput t seg.srcIp seg.dstIp pkt
    if res = -1 then (m.free pkt, -1) else (m, 0)

/-- `tcp_send_segment` with a clone, which is made before `ip_output` is called; `none` is
    the status `-1`. -/
def sendSegmentCloned (t : Topology) (m : TcpMemory) (seg : TcpSegmentArgs) :
    TcpMemory × Option ℕ :=
  if seg.payload.length > tcpMss then (m, none)
  else
    let pkt := m.net.allocs
    let m := m.create (packetFill (t.memory pkt) seg.bytes)
    let trackClone := m.net.allocs
    let m := m.create (packetClone (t.memory trackClone) (m.packets pkt))
    let (m, res) := m.ipOutput t seg.srcIp seg.dstIp pkt
    if res = -1 then ((m.free pkt).free trackClone, none) else (m, some trackClone)

/-- A segment is sent and its clone stored in the entry, or freed if `tcp_sendq_track`
    (lines 80–110) finds a packet there. -/
def sendTracked (t : Topology) (m : TcpMemory) (i : TcbIndex) (k : Fin tcpMaxInflight)
    (seg : TcpSegmentArgs) : TcpMemory :=
  let (m, sentClone) := m.sendSegmentCloned t seg
  match sentClone, m.sendq i k with
  | none, _ => m
  | some clone, none => m.setEntry i k (some clone)
  | some clone, some _ => m.free clone

/-- An entry in `tcp_retransmit_handler` (lines 1070–1094). -/
def retransmit (t : Topology) (m : TcpMemory) (i : TcbIndex) (k : Fin tcpMaxInflight)
    (localIp remoteIp : UInt32) : TcpMemory :=
  match m.sendq i k with
  | none => m
  | some pkt =>
    let clone := m.net.allocs
    let m := m.create (packetClone (t.memory clone) (m.packets pkt))
    let (m, res) := m.ipOutput t localIp remoteIp clone
    if res = -1 then m.free clone else m

/-- The packet of an entry is freed, in `tcp_sendq_ack` (lines 112–126) and
    `tcp_release_tcb` (lines 21–36). -/
def drop (m : TcpMemory) (i : TcbIndex) (k : Fin tcpMaxInflight) : TcpMemory :=
  match m.sendq i k with
  | none => m
  | some pkt => (m.free pkt).setEntry i k none

/-- Other modules run: they change the packets that they know of, and create packets. -/
def others (m : TcpMemory) (net : Net) (packets : ℕ → Packet) : TcpMemory :=
  if m.net.allocs ≤ net.allocs then
    { m with net := net, packets := fun a => if m.lent a then packets a else m.packets a }
  else m

end TcpMemory

/-- What happens to the packets of TCP. -/
inductive TcpMemoryInput where
  | sendTracked (i : TcbIndex) (k : Fin tcpMaxInflight) (seg : TcpSegmentArgs)
  | send (seg : TcpSegmentArgs)
  | retransmit (i : TcbIndex) (k : Fin tcpMaxInflight) (localIp remoteIp : UInt32)
  | drop (i : TcbIndex) (k : Fin tcpMaxInflight)
  | others (net : Net) (packets : ℕ → Packet)

def tcpMemoryStep (t : Topology) (m : TcpMemory) : TcpMemoryInput → TcpMemory
  | .sendTracked i k seg => m.sendTracked t i k seg
  | .send seg => (m.sendSegment t seg).1
  | .retransmit i k localIp remoteIp => m.retransmit t i k localIp remoteIp
  | .drop i k => m.drop i k
  | .others net packets => m.others net packets

/-- TCP holds no packet yet. -/
def tcpMemoryInit (net : Net) (packets : ℕ → Packet) : TcpMemory where
  net := net
  packets := packets
  lent := fun _ => true
  sendq := fun _ _ => none

/-- The memory, with the bytes that `ip_output` was given when an entry of a send queue was
    filled. -/
abbrev TcpMemoryRun := TcpMemory × (TcbIndex → Fin tcpMaxInflight → List UInt8)

/-- The bytes that `ip_output` was given last. -/
def TcpMemory.lastOutput (m : TcpMemory) : List UInt8 :=
  ((ipOutputs m.net.calls).getLast?.map fun call => call.2.2).getD []

def tcpMemoryRunStep (t : Topology) : TcpMemoryRun → TcpMemoryInput → TcpMemoryRun :=
  observe (tcpMemoryStep t) fun first m input i k =>
    if (m.sendq i k).isSome then first i k else (tcpMemoryStep t m input).lastOutput

/-- A retransmission gives `ip_output` the bytes that it was given first. -/
def RetransmitsFirst (t : Topology) (x : TcpMemoryRun) (input : TcpMemoryInput) : Prop :=
  ∀ i k localIp remoteIp, input = .retransmit i k localIp remoteIp → (x.1.sendq i k).isSome →
    ipOutputs (tcpMemoryStep t x.1 input).net.calls =
      ipOutputs x.1.net.calls ++ [(remoteIp, ipProtoTcp, x.2 i k)]

/-! ## What the send queues hold stays as it is -/

namespace TcpMemory

/-- Only the send queues know of the packets that they hold, and each is in one entry. -/
structure Ok (m : TcpMemory) : Prop where
  fresh : ∀ a, m.net.allocs ≤ a → m.lent a = true
  owned : ∀ i k a, m.sendq i k = some a → m.lent a = false
  once : ∀ i k j l a, m.sendq i k = some a → m.sendq j l = some a → j = i ∧ l = k

/-- No entry holds the packet. -/
def Unqueued (m : TcpMemory) (a : ℕ) : Prop := ∀ i k, m.sendq i k ≠ some a

/-- The send queues hold the same packets, with the same bytes. -/
structure Kept (m m' : TcpMemory) : Prop where
  ok : m'.Ok
  sendq : m'.sendq = m.sendq
  packets : ∀ i k a, m.sendq i k = some a → m'.packets a = m.packets a

section
variable {t : Topology} {m m' m'' : TcpMemory} {a : ℕ}

theorem Kept.refl (h : m.Ok) : Kept m m := ⟨h, rfl, fun _ _ _ _ => rfl⟩

theorem Kept.trans (h : Kept m m') (h' : Kept m' m'') : Kept m m'' where
  ok := h'.ok
  sendq := h'.sendq.trans h.sendq
  packets i k a ha := by
    rw [h'.packets i k a (by rw [h.sendq]; exact ha), h.packets i k a ha]

theorem Ok.unqueued (h : m.Ok) (hlent : m.lent a = true) : m.Unqueued a := by
  intro i k ha
  rw [h.owned i k a ha] at hlent
  cases hlent

theorem create_kept (h : m.Ok) (p : Packet) : Kept m (m.create p) := by
  have hnew : ∀ {i k a}, m.sendq i k = some a → a ≠ m.net.allocs := by
    rintro i k a ha rfl
    exact h.unqueued (h.fresh _ le_rfl) i k ha
  refine ⟨⟨fun a ha => ?_, fun i k a ha => ?_, h.once⟩, rfl, fun i k a ha => ?_⟩
  · have hlt : m.net.allocs < a := ha
    show Function.update m.lent m.net.allocs false a = true
    rw [Function.update_of_ne (Nat.ne_of_gt hlt)]
    exact h.fresh a hlt.le
  · show Function.update m.lent m.net.allocs false a = false
    rw [Function.update_of_ne (hnew ha)]
    exact h.owned i k a ha
  · exact Function.update_of_ne (hnew ha) _ _

theorem free_kept (h : m.Ok) (hun : m.Unqueued a) : Kept m (m.free a) := by
  refine ⟨⟨fun b hb => ?_, fun i k b hb => ?_, h.once⟩, rfl, fun _ _ _ _ => rfl⟩
  · show Function.update m.lent a true b = true
    rw [Function.update_apply, h.fresh b hb, ite_self]
  · have hne : b ≠ a := by
      rintro rfl
      exact hun i k hb
    show Function.update m.lent a true b = false
    rw [Function.update_of_ne hne]
    exact h.owned i k b hb

theorem ipOutput_kept (h : m.Ok) (hun : m.Unqueued a) (srcIp dstIp : UInt32) :
    Kept m (m.ipOutput t srcIp dstIp a).1 := by
  have hallocs : m.net.allocs ≤ (m.ipOutput t srcIp dstIp a).1.net.allocs := by
    have heffects := (ipOutput_effected (t := t) m.net srcIp dstIp ipProtoTcp (m.packets a)
      .given).allocs
    show m.net.allocs ≤ (FrameRunner.ipOutput t m.net srcIp dstIp ipProtoTcp (m.packets a)).1.allocs
    omega
  have hne : ∀ {i k b}, m.sendq i k = some b → b ≠ a := by
    rintro i k b hb rfl
    exact hun i k hb
  refine ⟨⟨fun b hb => ?_, fun i k b hb => ?_, h.once⟩, rfl, fun i k b hb => ?_⟩
  · show Function.update m.lent a true b = true
    rw [Function.update_apply, h.fresh b (hallocs.trans hb), ite_self]
  · show Function.update m.lent a true b = false
    rw [Function.update_of_ne (hne hb)]
    exact h.owned i k b hb
  · exact Function.update_of_ne (hne hb) _ _

theorem others_kept (h : m.Ok) (net : Net) (packets : ℕ → Packet) :
    Kept m (m.others net packets) := by
  unfold others
  split
  · rename_i hallocs
    refine ⟨⟨fun a ha => h.fresh a (hallocs.trans ha), h.owned, h.once⟩, rfl, fun i k a ha => ?_⟩
    dsimp only
    rw [h.owned i k a ha, if_neg Bool.false_ne_true]
  · exact .refl h

/-- What `ip_output` is given is recorded. -/
theorem ipOutputs_ipOutput (m : TcpMemory) (srcIp dstIp : UInt32) (a : ℕ) :
    ipOutputs (m.ipOutput t srcIp dstIp a).1.net.calls =
      ipOutputs m.net.calls ++ [(dstIp, ipProtoTcp, (m.packets a).bytes)] :=
  ipOutput_ipOutputs t m.net srcIp dstIp ipProtoTcp (m.packets a)

theorem lastOutput_of_append {calls : List (UInt32 × UInt8 × List UInt8)} {dstIp : UInt32}
    {bytes : List UInt8} (h : ipOutputs m.net.calls = calls ++ [(dstIp, ipProtoTcp, bytes)]) :
    m.lastOutput = bytes := by
  unfold lastOutput
  rw [h, List.getLast?_concat]
  rfl

/-- The new packet is not in a send queue. -/
theorem create_unqueued (h : m.Ok) (p : Packet) : (m.create p).Unqueued m.net.allocs :=
  h.unqueued (h.fresh _ le_rfl)

theorem sendSegment_kept (h : m.Ok) (seg : TcpSegmentArgs) : Kept m (m.sendSegment t seg).1 := by
  have hcreate := create_kept h (packetFill (t.memory m.net.allocs) seg.bytes)
  have hun := create_unqueued h (packetFill (t.memory m.net.allocs) seg.bytes)
  have hout := ipOutput_kept (t := t) hcreate.ok hun seg.srcIp seg.dstIp
  unfold sendSegment
  split
  · exact .refl h
  · dsimp only
    split
    · exact (hcreate.trans hout).trans (free_kept hout.ok hun)
    · exact hcreate.trans hout

/-- The clone of `tcp_send_segment`: nobody else has it, and it holds the bytes that
    `ip_output` was given, whatever became of the packet itself. -/
structure Cloned (m : TcpMemory) (seg : TcpSegmentArgs) (clone : ℕ) : Prop where
  own : m.lent clone = false
  unqueued : m.Unqueued clone
  bytes : (m.packets clone).bytes = seg.bytes
  output : m.lastOutput = seg.bytes

theorem sendSegmentCloned_kept (h : m.Ok) (seg : TcpSegmentArgs) :
    Kept m (m.sendSegmentCloned t seg).1 ∧
      ∀ clone, (m.sendSegmentCloned t seg).2 = some clone →
        (m.sendSegmentCloned t seg).1.Cloned seg clone := by
  generalize hpkt : packetFill (t.memory m.net.allocs) seg.bytes = pkt
  have hfill : pkt.bytes = seg.bytes := by rw [← hpkt, bytes_packetFill]
  have hcreate := create_kept h pkt
  have hun := create_unqueued h pkt
  have hself : (m.create pkt).packets m.net.allocs = pkt := Function.update_self ..
  generalize hm₁ : m.create pkt = m₁ at hcreate hun hself
  have hnext : m₁.net.allocs = m.net.allocs + 1 := by
    rw [← hm₁]
    rfl
  generalize hclone : packetClone (t.memory m₁.net.allocs) pkt = clone
  have hcreate' := create_kept hcreate.ok clone
  have hun' := create_unqueued hcreate.ok clone
  have hout := ipOutput_kept (t := t) hcreate'.ok hun seg.srcIp seg.dstIp
  have hne : m₁.net.allocs ≠ m.net.allocs := by omega
  unfold sendSegmentCloned
  split
  · exact ⟨.refl h, fun _ hc => by cases hc⟩
  · simp only [hpkt, hm₁, hself, hclone]
    split
    · refine ⟨((hcreate.trans hcreate').trans hout).trans ?_, fun _ hc => by cases hc⟩
      exact (free_kept hout.ok hun).trans (free_kept (free_kept hout.ok hun).ok hun')
    · refine ⟨(hcreate.trans hcreate').trans hout, fun c hc => ?_⟩
      cases hc
      -- `ip_output` changes the packet, and not the clone
      have hkept : (((m₁.create clone).ipOutput t seg.srcIp seg.dstIp m.net.allocs).1.packets
          m₁.net.allocs) = clone := by
        refine (Function.update_of_ne hne _ _).trans ?_
        exact Function.update_self ..
      have hpacket : (m₁.create clone).packets m.net.allocs = pkt :=
        (Function.update_of_ne hne.symm _ _).trans hself
      have houtput := ipOutputs_ipOutput (t := t) (m₁.create clone) seg.srcIp seg.dstIp m.net.allocs
      rw [hpacket, hfill] at houtput
      refine ⟨?_, hun', ?_, lastOutput_of_append houtput⟩
      · refine (Function.update_of_ne hne _ _).trans ?_
        exact Function.update_self ..
      · rw [hkept, ← hclone, packetClone, bytes_packetFill, hfill]

theorem sendSegmentCloned_eq_none (seg : TcpSegmentArgs) :
    (m.sendSegmentCloned t seg).2 = none ↔ seg.payload.length > tcpMss ∨
      (FrameRunner.ipOutput t m.net.alloc.alloc seg.srcIp seg.dstIp ipProtoTcp
        (packetFill (t.memory m.net.allocs) seg.bytes)).2.1 = -1 := by
  have hself : ∀ p clone, ((m.create p).create clone).packets m.net.allocs = p := by
    intro p clone
    refine (Function.update_of_ne (Nat.ne_of_lt (Nat.lt_succ_self _)) _ _).trans ?_
    exact Function.update_self ..
  have hres : ∀ p clone, (((m.create p).create clone).ipOutput t seg.srcIp seg.dstIp
      m.net.allocs).2 = (FrameRunner.ipOutput t m.net.alloc.alloc seg.srcIp seg.dstIp ipProtoTcp
        p).2.1 := by
    intro p clone
    unfold TcpMemory.ipOutput
    rw [hself]
    rfl
  unfold sendSegmentCloned
  split
  · exact iff_of_true rfl (.inl ‹_›)
  · simp only [hres]
    split
    · exact iff_of_true rfl (.inr ‹_›)
    · refine iff_of_false (fun h => by cases h) fun h => ?_
      exact h.elim ‹_› ‹_›

theorem retransmit_kept (h : m.Ok) (i : TcbIndex) (k : Fin tcpMaxInflight)
    (localIp remoteIp : UInt32) : Kept m (m.retransmit t i k localIp remoteIp) := by
  unfold retransmit
  split
  · exact .refl h
  · rename_i pkt hpkt
    have hcreate := create_kept h (packetClone (t.memory m.net.allocs) (m.packets pkt))
    have hun := create_unqueued h (packetClone (t.memory m.net.allocs) (m.packets pkt))
    have hout := ipOutput_kept (t := t) hcreate.ok hun localIp remoteIp
    dsimp only
    split
    · exact (hcreate.trans hout).trans (free_kept hout.ok hun)
    · exact hcreate.trans hout

/-- A clone of the clone goes out. -/
theorem ipOutputs_retransmit {i : TcbIndex} {k : Fin tcpMaxInflight} {pkt : ℕ}
    (hpkt : m.sendq i k = some pkt) (localIp remoteIp : UInt32) :
    ipOutputs (m.retransmit t i k localIp remoteIp).net.calls =
      ipOutputs m.net.calls ++ [(remoteIp, ipProtoTcp, (m.packets pkt).bytes)] := by
  have hself : (m.create (packetClone (t.memory m.net.allocs) (m.packets pkt))).packets
      m.net.allocs = packetClone (t.memory m.net.allocs) (m.packets pkt) := Function.update_self ..
  have hout := ipOutputs_ipOutput (t := t)
    (m.create (packetClone (t.memory m.net.allocs) (m.packets pkt))) localIp remoteIp m.net.allocs
  rw [hself, packetClone, bytes_packetFill] at hout
  unfold retransmit
  rw [hpkt]
  dsimp only
  split
  · exact hout
  · exact hout

theorem setEntry_sendq (m : TcpMemory) (i j : TcbIndex) (k l : Fin tcpMaxInflight)
    (pkt : Option ℕ) :
    (m.setEntry i k pkt).sendq j l = if j = i ∧ l = k then pkt else m.sendq j l := by
  show Function.update m.sendq i (Function.update (m.sendq i) k pkt) j l = _
  by_cases hj : j = i
  · subst hj
    rw [Function.update_self, Function.update_apply]
    simp
  · rw [Function.update_of_ne hj, if_neg fun h => hj h.1]

/-- An entry takes a packet that nobody else has. -/
theorem Ok.setEntry (h : m.Ok) (hown : m.lent a = false) (hun : m.Unqueued a) (i : TcbIndex)
    (k : Fin tcpMaxInflight) : (m.setEntry i k (some a)).Ok := by
  refine ⟨h.fresh, fun j l b hb => ?_, fun j l j' l' b hb hb' => ?_⟩
  · rw [setEntry_sendq] at hb
    split at hb
    · cases hb
      exact hown
    · exact h.owned j l b hb
  · rw [setEntry_sendq] at hb hb'
    split at hb
    · cases hb
      split at hb'
      · rename_i hj hj'
        exact ⟨hj'.1.trans hj.1.symm, hj'.2.trans hj.2.symm⟩
      · exact absurd hb' (hun j' l')
    · split at hb'
      · cases hb'
        exact absurd hb (hun j l)
      · exact h.once j l j' l' b hb hb'

/-- The other entries stay as they are. -/
theorem sendq_drop {i j : TcbIndex} {k l : Fin tcpMaxInflight} {pkt : ℕ}
    (h : (m.drop i k).sendq j l = some pkt) : m.sendq j l = some pkt := by
  unfold drop at h
  split at h
  · exact h
  · rw [setEntry_sendq] at h
    split at h
    · cases h
    · exact h

theorem Ok.drop (h : m.Ok) (i : TcbIndex) (k : Fin tcpMaxInflight) : (m.drop i k).Ok := by
  refine ⟨fun a ha => ?_, fun j l b hb => ?_, fun j l j' l' b hb hb' => ?_⟩
  · unfold TcpMemory.drop at ha ⊢
    split
    · rename_i hnone
      rw [hnone] at ha
      exact h.fresh a ha
    · rename_i pkt hpkt
      rw [hpkt] at ha
      show Function.update m.lent pkt true a = true
      rw [Function.update_apply, h.fresh a ha, ite_self]
  · have hlent := h.owned j l b (sendq_drop hb)
    unfold TcpMemory.drop at hb ⊢
    split
    · exact hlent
    · rename_i pkt hpkt
      rw [hpkt, setEntry_sendq] at hb
      split at hb
      · cases hb
      · rename_i hother
        have hne : b ≠ pkt := by
          rintro rfl
          exact hother (h.once i k j l b hpkt hb)
        show Function.update m.lent pkt true b = false
        rw [Function.update_of_ne hne]
        exact hlent
  · exact h.once j l j' l' b (sendq_drop hb) (sendq_drop hb')

theorem packets_drop (m : TcpMemory) (i : TcbIndex) (k : Fin tcpMaxInflight) :
    (m.drop i k).packets = m.packets := by
  unfold drop
  split
  · rfl
  · rfl

end

end TcpMemory

/-! ## Runs over the memory -/

/-- The packet of an entry holds the bytes that were sent when the entry was filled. -/
structure TcpMemoryOk (x : TcpMemoryRun) : Prop where
  memory : x.1.Ok
  bytes : ∀ i k pkt, x.1.sendq i k = some pkt → (x.1.packets pkt).bytes = x.2 i k

section
variable {t : Topology} {x : TcpMemoryRun} {input : TcpMemoryInput}

/-- The note for an entry that holds a packet stays as it is. -/
theorem tcpMemoryRunStep_held {i : TcbIndex} {k : Fin tcpMaxInflight} {pkt : ℕ}
    (h : x.1.sendq i k = some pkt) : (tcpMemoryRunStep t x input).2 i k = x.2 i k := by
  show (if (x.1.sendq i k).isSome then x.2 i k else _) = x.2 i k
  rw [h]
  rfl

theorem TcpMemoryOk.kept (I : TcpMemoryOk x) (h : x.1.Kept (tcpMemoryStep t x.1 input)) :
    TcpMemoryOk (tcpMemoryRunStep t x input) := by
  refine ⟨h.ok, fun i k pkt hpkt => ?_⟩
  have hpkt : x.1.sendq i k = some pkt := by
    rw [← h.sendq]
    exact hpkt
  rw [tcpMemoryRunStep_held hpkt]
  show ((tcpMemoryStep t x.1 input).packets pkt).bytes = _
  rw [h.packets i k pkt hpkt, I.bytes i k pkt hpkt]

/-- An empty entry takes the clone of what was sent. -/
theorem TcpMemoryOk.filled (I : TcpMemoryOk x) {m : TcpMemory} {i : TcbIndex}
    {k : Fin tcpMaxInflight} {seg : TcpSegmentArgs} {clone : ℕ} (hkept : x.1.Kept m)
    (hclone : m.Cloned seg clone) (hempty : x.1.sendq i k = none)
    (hstep : tcpMemoryStep t x.1 input = m.setEntry i k (some clone)) :
    TcpMemoryOk (tcpMemoryRunStep t x input) := by
  refine ⟨?_, fun j l pkt hpkt => ?_⟩
  · show (tcpMemoryStep t x.1 input).Ok
    rw [hstep]
    exact hkept.ok.setEntry hclone.own hclone.unqueued i k
  · have hpackets : (tcpMemoryRunStep t x input).1.packets = m.packets := by
      show (tcpMemoryStep t x.1 input).packets = _
      rw [hstep]
      rfl
    have hentry : (m.setEntry i k (some clone)).sendq j l = some pkt := by
      rw [← hstep]
      exact hpkt
    rw [TcpMemory.setEntry_sendq, hkept.sendq] at hentry
    rw [hpackets]
    clear hpkt
    split at hentry
    · -- the note for this entry is what `ip_output` was given
      rename_i hjl
      obtain ⟨rfl, rfl⟩ := hjl
      cases hentry
      have hnote : (tcpMemoryRunStep t x input).2 j l = (tcpMemoryStep t x.1 input).lastOutput := by
        show (if (x.1.sendq j l).isSome then _ else _) = _
        rw [hempty]
        rfl
      rw [hnote, hstep, hclone.bytes]
      exact hclone.output.symm
    · rw [tcpMemoryRunStep_held hentry, hkept.packets j l pkt hentry, I.bytes j l pkt hentry]

theorem TcpMemoryOk.sendTracked (I : TcpMemoryOk x) (i : TcbIndex) (k : Fin tcpMaxInflight)
    (seg : TcpSegmentArgs) : TcpMemoryOk (tcpMemoryRunStep t x (.sendTracked i k seg)) := by
  have hstep : tcpMemoryStep t x.1 (.sendTracked i k seg) = x.1.sendTracked t i k seg := rfl
  obtain ⟨hkept, hcloned⟩ := TcpMemory.sendSegmentCloned_kept (t := t) I.memory seg
  unfold TcpMemory.sendTracked at hstep
  generalize x.1.sendSegmentCloned t seg = r at hstep hkept hcloned
  obtain ⟨m, sentClone⟩ := r
  cases sentClone with
  | none =>
    refine I.kept ?_
    rw [hstep]
    exact hkept
  | some clone =>
    have hclone := hcloned clone rfl
    cases hentry : m.sendq i k with
    | some pkt =>
      simp only [hentry] at hstep
      refine I.kept ?_
      rw [hstep]
      exact hkept.trans (TcpMemory.free_kept hkept.ok hclone.unqueued)
    | none =>
      simp only [hentry] at hstep
      exact I.filled hkept hclone (by rw [← hkept.sendq]; exact hentry) hstep

theorem TcpMemoryOk.drop (I : TcpMemoryOk x) (i : TcbIndex) (k : Fin tcpMaxInflight) :
    TcpMemoryOk (tcpMemoryRunStep t x (.drop i k)) := by
  refine ⟨I.memory.drop i k, fun j l pkt hpkt => ?_⟩
  have hold : x.1.sendq j l = some pkt := TcpMemory.sendq_drop (i := i) (k := k) hpkt
  rw [tcpMemoryRunStep_held hold]
  show ((x.1.drop i k).packets pkt).bytes = _
  rw [TcpMemory.packets_drop, I.bytes j l pkt hold]

theorem TcpMemoryOk.step (I : TcpMemoryOk x) (input : TcpMemoryInput) :
    TcpMemoryOk (tcpMemoryRunStep t x input) := by
  cases input with
  | sendTracked i k seg => exact I.sendTracked i k seg
  | send seg => exact I.kept (TcpMemory.sendSegment_kept I.memory seg)
  | retransmit i k localIp remoteIp =>
    exact I.kept (TcpMemory.retransmit_kept I.memory i k localIp remoteIp)
  | drop i k => exact I.drop i k
  | others net packets => exact I.kept (TcpMemory.others_kept I.memory net packets)

theorem TcpMemoryOk.retransmits (I : TcpMemoryOk x) (input : TcpMemoryInput) :
    RetransmitsFirst t x input := by
  rintro i k localIp remoteIp rfl hheld
  obtain ⟨pkt, hpkt⟩ := Option.isSome_iff_exists.mp hheld
  rw [← I.bytes i k pkt hpkt]
  exact TcpMemory.ipOutputs_retransmit hpkt localIp remoteIp

end

theorem tcpMemoryOk_init (net : Net) (packets : ℕ → Packet) :
    TcpMemoryOk (tcpMemoryInit net packets, fun _ _ => []) where
  memory := ⟨fun _ _ => rfl, fun _ _ _ h => (by cases h), fun _ _ _ _ _ h => (by cases h)⟩
  bytes _ _ _ h := by cases h

/-- What the connections see of it: `tcp_send_segment` sends and keeps the same bytes. -/
theorem tcpSendSegment_memory (t : Topology) {m : TcpMemory} (h : m.Ok) (tcb : Tcb)
    (seq ack : UInt32) (flags : UInt8) (payload : List UInt8) :
    let r := m.sendSegmentCloned t (tcb.segmentArgs seq ack flags payload)
    tcpSendSegment (tcpSegmentEnv t m.net tcb seq ack flags payload) tcb seq ack flags payload =
      r.2.map fun clone => tcb.datagram (r.1.packets clone).bytes := by
  intro r
  obtain ⟨-, hcloned⟩ := TcpMemory.sendSegmentCloned_kept (t := t) h
    (tcb.segmentArgs seq ack flags payload)
  have hcloned : ∀ clone, r.2 = some clone → _ := hcloned
  have hnone : r.2 = none ↔ payload.length > tcpMss ∨ _ := TcpMemory.sendSegmentCloned_eq_none _
  unfold tcpSendSegment
  cases hclone : r.2 with
  | none =>
    rcases hnone.mp hclone with hlen | hfails
    · rw [if_pos hlen, Option.map_none]
    · have hok : (tcpSegmentEnv t m.net tcb seq ack flags payload).ipOk = false :=
        decide_eq_false (not_not.mpr hfails)
      rw [hok, if_neg Bool.false_ne_true, ite_self, Option.map_none]
  | some clone =>
    have hsome : ¬ r.2 = none := by
      rw [hclone]
      exact Option.some_ne_none clone
    rw [hnone, not_or] at hsome
    have hok : (tcpSegmentEnv t m.net tcb seq ack flags payload).ipOk = true :=
      decide_eq_true hsome.2
    rw [if_neg hsome.1, hok, if_pos rfl, Option.map_some, (hcloned clone hclone).bytes]
    rfl

/-! ## Runs of the connections -/

/-- An entry in use holds the bytes of the datagram that was sent first. -/
structure ResendOk (x : ResendState) : Prop where
  queue : TableQueueOk x.1
  first : ∀ i k data, (x.1.tcbs i).valid = true →
    ((x.1.tcbs i).sendq.entries k).pkt = some data → x.2 i k = some ((x.1.tcbs i).datagram data)

theorem TcbReceived.addresses {tcb tcb' : Tcb} {hdr : TcpFields} (h : TcbReceived tcb hdr tcb')
    (hv : tcb'.valid = true) : tcb'.localIp = tcb.localIp ∧ tcb'.remoteIp = tcb.remoteIp := by
  have hestablished : (tcpEstablishedAck tcb hdr).localIp = tcb.localIp ∧
      (tcpEstablishedAck tcb hdr).remoteIp = tcb.remoteIp := by
    unfold tcpEstablishedAck
    split_ifs
    · exact ⟨rfl, rfl⟩
    · exact ⟨rfl, rfl⟩
  cases h with
  | ignored | synSent | synReceived | finWait2 | closing | lastAck => exact ⟨rfl, rfl⟩
  | acked | data | fin => exact hestablished
  | finWait1 =>
    split
    · exact ⟨rfl, rfl⟩
    · exact ⟨rfl, rfl⟩
  | released => cases hv

/-- A packet that is held after a step was held before it, or it is what the step sent. -/
theorem TcbStepped.tracked {env : IpEnv} {i : TcbIndex} {tcb tcb' : Tcb} {input : TcpInput}
    {out : TcpOut} (hq : SendqOk tcb) (h : TcbStepped env i tcb input tcb' out)
    (hv : tcb'.valid = true) {k : Fin tcpMaxInflight} {data : List UInt8}
    (hk : (tcb'.sendq.entries k).pkt = some data) :
    (tcb.valid = true ∧ (tcb.sendq.entries k).pkt = some data ∧
        tcb.datagram data = tcb'.datagram data) ∨
      ((tcb.valid && (tcb.sendq.entries k).held) = false ∧ out.sent = [tcb'.datagram data]) := by
  have hheld : (tcb'.sendq.entries k).held = true := by
    rw [TcpSegment.held, hk]
    rfl
  -- the entry that is filled holds the bytes of the datagram that was sent
  have hsent : ∀ {seg : TcpSegment} {tcb₀ : Tcb} {pkt : IpDatagram} {seq ack : UInt32}
      {flags : UInt8} {payload : List UInt8}, tcb'.sendq.Tracks seg → seg.pkt = some pkt.data →
      tcpSendSegment env tcb₀ seq ack flags payload = some pkt →
      tcb'.localIp = tcb₀.localIp → tcb'.remoteIp = tcb₀.remoteIp →
      [pkt] = [tcb'.datagram data] := by
    intro seg tcb₀ pkt seq ack flags payload htracks hpkt hsend hlocal hremote
    obtain ⟨-, hdatagram⟩ := tcpSendSegment_eq_some hsend
    have hdata : data = pkt.data := htracks.pkt hpkt hk
    unfold Tcb.datagram
    rw [hlocal, hremote, hdata, hdatagram]
  cases h with
  | listened _ _ hq =>
    rw [hq] at hk
    cases hk
  | connected hfree hopen =>
    exact .inr ⟨by rw [hfree, Bool.false_and], hsent hopen.tracks rfl hopen.sent rfl rfl⟩
  | child hfree hopen =>
    exact .inr ⟨by rw [hfree, Bool.false_and], hsent hopen.tracks rfl hopen.sent rfl rfl⟩
  | sent _ _ hdata | closed _ hdata =>
    obtain ⟨sendq, ts, state, hsame⟩ := hdata.same
    refine .inr ⟨by rw [hq.held_eq_false hdata.idle, Bool.and_false], ?_⟩
    exact hsent hdata.tracks rfl hdata.sent (by rw [hsame]) (by rw [hsame])
  | received hv₀ _ hr =>
    obtain ⟨hlocal, hremote⟩ := hr.addresses hv
    refine .inl ⟨hv₀, by rw [← hr.entry hheld]; exact hk, ?_⟩
    unfold Tcb.datagram
    rw [hlocal, hremote]
  | @resent k' data' hre =>
    refine .inl ⟨hre.valid, ?_, rfl⟩
    rw [← (tcbResent_resentAt env tcb k').pkt k]
    exact hk
  | released => cases hk

theorem ResendOk.step {x : ResendState} (I : ResendOk x) (input : IpEnv × TcpInput) :
    ResendOk (resendStep x input) := by
  refine ⟨I.queue.step input, fun i k data hv hk => ?_⟩
  have hv : ((tcpStep x.1 input).tcbs i).valid = true := hv
  have hk : (((tcpStep x.1 input).tcbs i).sendq.entries k).pkt = some data := hk
  show (if (x.1.tcbs i).valid && ((x.1.tcbs i).sendq.entries k).held then x.2 i k
    else (tcpStepOut x.1 input).sent.head?) = some (((tcpStep x.1 input).tcbs i).datagram data)
  rcases tcpStep_slot I.queue input.1 input.2 i with ⟨hsame | ⟨-, hzero⟩, -⟩ | ⟨-, hstep⟩
  · have hsame : (tcpStep x.1 input).tcbs i = x.1.tcbs i := hsame
    rw [hsame] at hv hk ⊢
    rw [hv, TcpSegment.held, hk, Option.isSome_some, Bool.and_self, if_pos rfl]
    exact I.first i k data hv hk
  · have hzero : (tcpStep x.1 input).tcbs i = {} := hzero
    rw [hzero] at hv
    cases hv
  · rcases hstep.tracked (I.queue i).sendq hv hk with ⟨hv₀, hk₀, hdatagram⟩ | ⟨hempty, hsent⟩
    · rw [hv₀, TcpSegment.held, hk₀, Option.isSome_some, Bool.and_self, if_pos rfl,
        I.first i k data hv₀ hk₀, hdatagram]
    · have hsent : (tcpStepOut x.1 input).sent = [((tcpStep x.1 input).tcbs i).datagram data] :=
        hsent
      rw [hempty, if_neg Bool.false_ne_true, hsent]
      rfl

theorem ResendOk.resends {x : ResendState} (I : ResendOk x) (input : IpEnv × TcpInput) :
    ResendsFirst x input := by
  rintro i hinput pkt hpkt
  obtain ⟨env, input⟩ := input
  obtain rfl : input = .retransmit i := hinput
  have hpkt : pkt ∈ (tcpRetransmitHandler env x.1 i).2.sent := hpkt
  by_cases hre : ∃ k data, TcbResends env (x.1.tcbs i) k data
  · obtain ⟨k, data, hre⟩ := hre
    rw [tcpRetransmitHandler_resends hre] at hpkt
    rw [List.mem_singleton.mp hpkt]
    refine ⟨k, ?_, I.first i k data hre.valid hre.pkt⟩
    rw [TcpSegment.held, hre.pkt]
    rfl
  · rw [(tcpRetransmitHandler_idle fun k data h => hre ⟨k, data, h⟩).2] at hpkt
    cases hpkt

theorem resendOk_init : ResendOk resendInit where
  queue _ := queueOk_default
  first _ _ _ h := by cases h

/-! ## Result -/

/-- Flags below 64 leave the header length alone. -/
theorem tcpFlagsOk_of_lt {flags : UInt8} (h : flags < 64) : TcpFlagsOk flags := by
  have hall : ∀ n : Fin 64, TcpFlagsOk (UInt8.ofNat n.val) := by decide
  have hlt : flags.toNat < 64 := UInt8.lt_iff_toNat_lt.mp h
  have hflags := hall ⟨flags.toNat, hlt⟩
  rw [UInt8.ofNat_toNat] at hflags
  exact hflags

/-- A segment with flags below 64 and at most `TCP_MSS` bytes decodes in `tcp_receive` to what
    `tcp_send_segment` was given, and passes the checks on its header. In every run of the
    connections, a retransmission sends the datagram that was sent when its entry was filled;
    in every run over the memory, in which the layers below may write to all packets that
    they were given, it gives `ip_output` the bytes that it was given then. -/
theorem tcpSegment_resent {flags : UInt8} (hflags : flags < 64) {payload : List UInt8}
    (hlen : payload.length ≤ tcpMss) (tcb : Tcb) (seq ack : UInt32) :
    (∀ env : IpEnv, env.ipOk = true →
      ∃ pkt, tcpSendSegment env tcb seq ack flags payload = some pkt ∧ TcpHeaderOk pkt ∧
        tcpFields pkt.data = ⟨tcb.localPort, tcb.remotePort, seq, ack, tcpHdrWords, flags, payload⟩) ∧
      (∀ inputs, Guarded resendStep ResendsFirst resendInit inputs) ∧
      ∀ t net packets inputs, Guarded (tcpMemoryRunStep t) (RetransmitsFirst t)
        (tcpMemoryInit net packets, fun _ _ => []) inputs := by
  have hok := tcpFlagsOk_of_lt hflags
  refine ⟨fun env henv => ?_, fun inputs => ?_, fun t net packets inputs => ?_⟩
  · have hfields := tcpFields_tcpSegmentBytes tcb.localPort tcb.remotePort seq ack hok.1 hok.2
      payload
    refine ⟨tcb.datagram (tcpSegmentBytes tcb.localPort tcb.remotePort seq ack flags payload),
      ?_, ⟨?_, rfl, ?_⟩, hfields⟩
    · unfold tcpSendSegment
      rw [if_neg (Nat.not_lt.mpr hlen), henv, if_pos rfl]
      rfl
    · show tcpHdrLen ≤ (tcpSegmentBytes _ _ _ _ _ _).length
      rw [length_tcpSegmentBytes]
      exact Nat.le_add_right _ _
    · exact congrArg TcpFields.hdrWords hfields
  · exact guarded_of_invariant ResendOk (fun _ input I => I.resends input)
      (fun _ input I => I.step input) inputs resendInit resendOk_init
  · exact guarded_of_invariant TcpMemoryOk (fun _ input I => I.retransmits input)
      (fun _ input I => I.step input) inputs _ (tcpMemoryOk_init net packets)

/-- A data segment of ten bytes. -/
theorem tcpSegment_resent_exampleTcb :
    let tcb : Tcb := { localPort := 40000, remotePort := 80 }
    (∀ env : IpEnv, env.ipOk = true →
      ∃ pkt, tcpSendSegment env tcb 7 9 (tcpFlagAck ||| tcpFlagPsh) (List.replicate 10 97) =
          some pkt ∧ TcpHeaderOk pkt ∧
        tcpFields pkt.data = ⟨40000, 80, 7, 9, tcpHdrWords, tcpFlagAck ||| tcpFlagPsh,
          List.replicate 10 97⟩) ∧
      (∀ inputs, Guarded resendStep ResendsFirst resendInit inputs) ∧
      ∀ t net packets inputs, Guarded (tcpMemoryRunStep t) (RetransmitsFirst t)
        (tcpMemoryInit net packets, fun _ _ => []) inputs :=
  tcpSegment_resent (by decide) (by decide) { localPort := 40000, remotePort := 80 } 7 9

/-- The packet of a segment of 21 bytes ends with the headers of IP and Ethernet before it, its
    clone without. -/
example :
    let r := (tcpMemoryInit exampleUdpNet fun _ => packetFill (fun _ => 0) []).sendSegmentCloned
      exampleUdpHosts ⟨0x0A000001, 0x0A000002, 40000, 80, 7, 9, tcpFlagAck, [97]⟩
    r.2 = some 1 ∧ (r.1.packets 0).len = 55 ∧ (r.1.packets 1).len = 21 := by
  decide +kernel

end FrameRunner
