import FrameRunner.Network.PacketMemory

/-!
# Packets in trace records (`engine/trace.c`)

`trace_record_init` begins a record, `trace_record_capture_packet` copies the identity of a
packet and its first bytes into it. `trace_log_append` then checks the record; its checks
are those that the capture answers for and those of the event.

* `TraceRecord.refused_eq`: the checks in their two groups.
* `capturable_iff`: which packets a record can take.
-/

namespace FrameRunner

open FrameRunner.Lib FrameRunner.Lib.Memory

/-! ## The calls -/

/-- `trace_record_init` (lines 36–56) of a record. -/
def traceRecordInit (record : TraceRecord) (action : UInt32) (timestamp : UInt64) :
    TraceRecord × ℤ :=
  if action ≤ traceActionUnspecified ∨ action ≥ traceActionCount then (record, -1)
  else
    ({ timestamp := timestamp
       endTimestamp := timestamp
       action := action
       eventType := evtTypeCount
       result := traceResultNone }, 0)

/-- `TRACE_PACKET_SNAPSHOT_MAX` as a `size_t`. -/
def snapshotMax : UInt64 := 256

/-- `trace_record_capture_packet` (lines 349–401) into a record; `none` is no packet. -/
def traceRecordCapturePacket (record : TraceRecord) (pkt : Option RawPacket) : TraceRecord × ℤ :=
  let record := { record with
    packetId := 0
    traceId := 0
    parentPacketId := 0
    layer := 0
    packetLength := 0
    snapshotLength := 0
    snapshotTruncated := 0
    snapshot := fun _ => 0 }
  match pkt with
  | none => (record, 0)
  | some pkt =>
    if pkt.validateView 0 0 ≠ 0 then (record, -1)
    else if pkt.id = 0 ∨ pkt.traceId = 0 then (record, -1)
    else if pkt.layer < 0 ∨ pkt.layer > 4 then (record, -1)
    else
      let snapshotLength := if pkt.len < snapshotMax then pkt.len else snapshotMax
      ({ record with
          packetId := pkt.id
          traceId := pkt.traceId
          parentPacketId := pkt.parentId
          layer := UInt8.ofInt pkt.layer
          packetLength := pkt.len
          snapshotLength := snapshotLength
          snapshot := fun i =>
            if i.val < snapshotLength.toNat then pkt.mem (pkt.data + i.val) else 0
          snapshotTruncated := if pkt.len > snapshotLength then 1 else 0 }, 0)

/-! ## The checks of an append -/

/-- The actions whose records must name a packet (lines 245–253). -/
def tracePacketActions : List UInt32 :=
  [tracePacketCreated, tracePacketCloned, tracePacketTx, tracePacketRx, tracePacketDropped,
    traceHeaderAdded, traceHeaderRemoved, traceIpLocalDelivery, traceTransportDelivery]

/-- A check on the packet, the layer or the snapshot of a record fails (lines 176 and
    217–234, and the second case of lines 236–261). -/
def TraceRecord.packetRefused (record : TraceRecord) : Bool :=
  record.layer > 4 ||
  (record.snapshotLength.toNat > tracePacketSnapshotMax ||
    record.snapshotLength > record.packetLength) ||
  (record.snapshotTruncated ≠ if record.snapshotLength < record.packetLength then 1 else 0) ||
  (record.packetId ≠ 0 && record.traceId = 0) ||
  (record.parentPacketId ≠ 0 && (record.packetId = 0 || record.traceId = 0)) ||
  (record.action ∈ tracePacketActions && (record.packetId = 0 || record.traceId = 0))

/-- One of the other checks fails. -/
def TraceRecord.eventRefused (record : TraceRecord) : Bool :=
  record.timestamp > record.endTimestamp ||
  (record.action ≤ traceActionUnspecified || record.action ≥ traceActionCount) ||
  (record.action ≠ tracePacketTx && record.endTimestamp ≠ record.timestamp) ||
  (record.eventType.toInt32 < evtPacketSend.toInt32 || record.eventType > evtTypeCount) ||
  (if record.eventType = evtTypeCount then
    record.eventTimestamp ≠ 0 || record.eventSequence ≠ 0
  else record.eventSequence = 0) ||
  (record.result ≠ traceResultFailure && record.result ≠ traceResultNone &&
    record.result ≠ traceResultSuccess) ||
  record.resultRefused ||
  (record.action ∈ [traceEventScheduled, traceEventStarted, traceEventFinished] &&
    record.eventType ≥ evtTypeCount)

theorem TraceRecord.idsRefused_eq (record : TraceRecord) :
    record.idsRefused =
      ((record.action ∈ [traceEventScheduled, traceEventStarted, traceEventFinished] &&
          decide (record.eventType ≥ evtTypeCount)) ||
        (record.action ∈ tracePacketActions &&
          (decide (record.packetId = 0) || decide (record.traceId = 0)))) := by
  unfold idsRefused
  by_cases hevent : record.action ∈ [traceEventScheduled, traceEventStarted, traceEventFinished]
  · have hpacket : record.action ∉ tracePacketActions := by
      rcases List.mem_cons.mp hevent with h | h
      · rw [h]
        decide
      · rcases List.mem_pair.mp h with h | h <;>
        · rw [h]
          decide
    rw [if_pos (by simpa using hevent)]
    simp [hevent, hpacket]
  · rw [if_neg (by simpa using hevent)]
    by_cases hpacket : record.action ∈ tracePacketActions
    · rw [if_pos (by simpa [tracePacketActions] using hpacket)]
      simp [hevent, hpacket]
    · rw [if_neg (by simpa [tracePacketActions] using hpacket)]
      simp [hevent, hpacket]

/-- An append makes the checks of the two groups and no others. -/
theorem TraceRecord.refused_eq (record : TraceRecord) :
    record.refused = (record.eventRefused || record.packetRefused) := by
  unfold refused eventRefused packetRefused
  rw [idsRefused_eq]
  ac_rfl

/-! ## Which packets a record can take -/

/-- Whatever record it is begun with, the capture of the packet succeeds and the checks of an
    append pass what it has filled in. -/
def Capturable (p : RawPacket) : Prop :=
  ∀ record action timestamp, (traceRecordInit record action timestamp).2 = 0 →
    (traceRecordCapturePacket (traceRecordInit record action timestamp).1 (some p)).2 = 0 ∧
      (traceRecordCapturePacket
        (traceRecordInit record action timestamp).1 (some p)).1.packetRefused = false

/-- A packet that names itself, of a layer that a record knows. -/
structure RawPacket.Named (p : RawPacket) : Prop where
  id : p.id ≠ 0
  traceId : p.traceId ≠ 0
  layer : 0 ≤ p.layer ∧ p.layer ≤ 4

/-- The tests of the capture. -/
theorem capture_eq_zero_iff (p : RawPacket) (record : TraceRecord) :
    (traceRecordCapturePacket record (some p)).2 = 0 ↔ p.validateView 0 0 = 0 ∧ p.Named := by
  have hfail : ¬ (-1 : ℤ) = 0 := by decide
  unfold traceRecordCapturePacket
  dsimp only
  by_cases hview : p.validateView 0 0 ≠ 0
  · rw [if_pos hview]
    exact iff_of_false hfail fun h => hview h.1
  rw [if_neg hview]
  by_cases hids : p.id = 0 ∨ p.traceId = 0
  · rw [if_pos hids]
    exact iff_of_false hfail fun h => hids.elim h.2.id h.2.traceId
  rw [if_neg hids]
  by_cases hlayer : p.layer < 0 ∨ p.layer > 4
  · rw [if_pos hlayer]
    refine iff_of_false hfail fun h => ?_
    have := h.2.layer
    omega
  · rw [if_neg hlayer]
    rw [not_or] at hids
    exact iff_of_true rfl ⟨not_not.mp hview, hids.1, hids.2, by omega⟩

/-- What the capture of a packet leaves in a record passes the checks. -/
theorem packetRefused_capture {p : RawPacket} (hok : p.Ok) (h : p.Named) (record : TraceRecord) :
    (traceRecordCapturePacket record (some p)).1.packetRefused = false := by
  have hview : ¬ p.validateView 0 0 ≠ 0 :=
    not_not.mpr (hok.validateView_iff.mpr ⟨hok.head, Nat.zero_le _⟩)
  have hids : ¬ (p.id = 0 ∨ p.traceId = 0) := not_or.mpr ⟨h.id, h.traceId⟩
  obtain ⟨hlow, hhigh⟩ := h.layer
  have hlayer : ¬ (p.layer < 0 ∨ p.layer > 4) := by omega
  have hofInt : ¬ UInt8.ofInt p.layer > 4 := by
    obtain ⟨n, hn⟩ := Int.eq_ofNat_of_zero_le hlow
    have hle : n ≤ 4 := by omega
    rw [hn]
    interval_cases n <;> decide
  unfold traceRecordCapturePacket
  dsimp only
  rw [if_neg hview, if_neg hids, if_neg hlayer]
  unfold TraceRecord.packetRefused
  by_cases hlen : p.len < snapshotMax
  · -- the whole packet is in the snapshot
    have hshort : ¬ tracePacketSnapshotMax < p.len.toNat := by
      have hlt : p.len.toNat < 256 := UInt64.lt_iff_toNat_lt.mp hlen
      show ¬ 256 < p.len.toNat
      omega
    simp [hlen, hofInt, h.id, h.traceId, UInt64.lt_irrefl, hshort]
  · have hmax : ¬ tracePacketSnapshotMax < snapshotMax.toNat := Nat.lt_irrefl 256
    simp [hlen, hofInt, h.id, h.traceId, hmax]

theorem Capturable.named {p : RawPacket} (h : Capturable p) : p.Named :=
  ((capture_eq_zero_iff p _).mp (h {} tracePacketCreated 0 rfl).1).2

/-- A packet within its allocation can be captured exactly if it has its two identifiers and a
    layer up to 4. -/
theorem capturable_iff {p : RawPacket} (hok : p.Ok) : Capturable p ↔ p.Named := by
  refine ⟨Capturable.named, fun h record action timestamp _ => ⟨?_, packetRefused_capture hok h _⟩⟩
  have hview : p.validateView 0 0 = 0 := hok.validateView_iff.mpr ⟨hok.head, Nat.zero_le _⟩
  exact (capture_eq_zero_iff p _).mpr ⟨hview, h⟩

end FrameRunner
