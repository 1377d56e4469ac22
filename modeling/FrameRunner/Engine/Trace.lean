import FrameRunner.Engine.Event
import FrameRunner.Lib.Run
import FrameRunner.Lib.Slots

/-!
# The trace log (`engine/trace.c`)

A log owns an array of records that grows by doubling. `trace_log_append` checks a
record, copies it to the end of the array and numbers the copy; `trace_log_clear`
empties the log, and `trace_log_set_enabled` switches it on and off. Whether
`malloc` and `realloc` succeed is an input, and a record to append may be one that
the log itself stores.

Main results:

* `TraceRecord.refused_eq_false_iff`: the checks accept just the records that satisfy
  the documented invariants.
* `traceLog_invariant`: what holds of every log that the calls can reach, and what
  an append does to it.
-/

namespace FrameRunner

open FrameRunner.Lib

/-! ## Records -/

/-- Values of `TraceAction`. The argument of an append need not be one of them. -/
def traceActionUnspecified : UInt32 := 0
def traceEventScheduled : UInt32 := 1
def traceEventStarted : UInt32 := 2
def traceEventFinished : UInt32 := 3
def tracePacketCreated : UInt32 := 4
def tracePacketCloned : UInt32 := 5
def tracePacketTx : UInt32 := 6
def tracePacketRx : UInt32 := 7
def tracePacketDropped : UInt32 := 8
def traceHeaderAdded : UInt32 := 9
def traceHeaderRemoved : UInt32 := 10
def traceArpLookup : UInt32 := 11
def traceMacLookup : UInt32 := 16
def traceIpLocalDelivery : UInt32 := 19
def traceRouteLookup : UInt32 := 20
def traceTransportDelivery : UInt32 := 23
def traceTimerFired : UInt32 := 25
def traceActionCount : UInt32 := 27

/-- `EVT_PACKET_SEND` and `EVT_TYPE_COUNT` of `EventType`. -/
def evtPacketSend : UInt32 := 0
def evtTypeCount : UInt32 := 27

/-- `TraceResult`, an `int`. -/
def traceResultFailure : ℤ := -1
def traceResultNone : ℤ := 0
def traceResultSuccess : ℤ := 1

abbrev traceNameLen : ℕ := 32
abbrev traceSummaryLen : ℕ := 128
abbrev tracePacketSnapshotMax : ℕ := 256

/-- `TraceRecord`; the all-zero record is the default. -/
structure TraceRecord where
  timestamp : UInt64 := 0
  endTimestamp : UInt64 := 0
  eventTimestamp : UInt64 := 0
  sequence : UInt64 := 0
  eventSequence : UInt64 := 0
  action : UInt32 := 0
  eventType : UInt32 := 0
  packetId : UInt32 := 0
  traceId : UInt32 := 0
  parentPacketId : UInt32 := 0
  protocol : UInt8 := 0
  layer : UInt8 := 0
  result : ℤ := 0
  sourceDevice : Slots traceNameLen UInt8 := fun _ => 0
  sourceIface : Slots traceNameLen UInt8 := fun _ => 0
  destinationDevice : Slots traceNameLen UInt8 := fun _ => 0
  destinationIface : Slots traceNameLen UInt8 := fun _ => 0
  summary : Slots traceSummaryLen UInt8 := fun _ => 0
  packetLength : UInt64 := 0
  snapshotLength : UInt64 := 0
  snapshotTruncated : UInt8 := 0
  snapshot : Slots tracePacketSnapshotMax UInt8 := fun _ => 0

/-- `sizeof(TraceRecord)`. -/
def traceRecordSize : UInt64 := 608

/-- `SIZE_MAX` and `UINT64_MAX`. -/
def sizeMax : UInt64 := 0xFFFFFFFFFFFFFFFF

/-- The first `switch` of `trace_log_append` (lines 186–215). -/
def TraceRecord.resultRefused (record : TraceRecord) : Bool :=
  if record.action = traceEventStarted ∨ record.action = traceEventFinished ∨
      record.action = traceTimerFired then
    record.result ≠ traceResultNone
  else if record.action = traceArpLookup ∨ record.action = traceMacLookup ∨
      record.action = traceRouteLookup then
    record.result ≠ traceResultFailure && record.result ≠ traceResultSuccess
  else if record.action = tracePacketDropped then record.result ≠ traceResultFailure
  else record.result ≠ traceResultSuccess

/-- The second `switch` of `trace_log_append` (lines 236–261). -/
def TraceRecord.idsRefused (record : TraceRecord) : Bool :=
  if record.action = traceEventScheduled ∨ record.action = traceEventStarted ∨
      record.action = traceEventFinished then
    record.eventType ≥ evtTypeCount
  else if record.action = tracePacketCreated ∨ record.action = tracePacketCloned ∨
      record.action = tracePacketTx ∨ record.action = tracePacketRx ∨
      record.action = tracePacketDropped ∨ record.action = traceHeaderAdded ∨
      record.action = traceHeaderRemoved ∨ record.action = traceIpLocalDelivery ∨
      record.action = traceTransportDelivery then
    record.packetId = 0 || record.traceId = 0
  else false

/-- A check of `trace_log_append` on the record fails (lines 149–261). -/
def TraceRecord.refused (record : TraceRecord) : Bool :=
  record.timestamp > record.endTimestamp ||
  (record.action ≤ traceActionUnspecified || record.action ≥ traceActionCount) ||
  (record.action ≠ tracePacketTx && record.endTimestamp ≠ record.timestamp) ||
  (record.eventType.toInt32 < evtPacketSend.toInt32 || record.eventType > evtTypeCount) ||
  (if record.eventType = evtTypeCount then
    record.eventTimestamp ≠ 0 || record.eventSequence ≠ 0
  else record.eventSequence = 0) ||
  record.layer > 4 ||
  (record.result ≠ traceResultFailure && record.result ≠ traceResultNone &&
    record.result ≠ traceResultSuccess) ||
  record.resultRefused ||
  (record.snapshotLength.toNat > tracePacketSnapshotMax ||
    record.snapshotLength > record.packetLength) ||
  (record.snapshotTruncated ≠ if record.snapshotLength < record.packetLength then 1 else 0) ||
  (record.packetId ≠ 0 && record.traceId = 0) ||
  (record.parentPacketId ≠ 0 && (record.packetId = 0 || record.traceId = 0)) ||
  record.idsRefused

/-- A text array with a NUL in its final slot. -/
def terminate {n : ℕ} (text : Slots (n + 1) UInt8) : Slots (n + 1) UInt8 :=
  Function.update text (Fin.last n) 0

/-- The record that is stored (lines 289–296). -/
def TraceRecord.stored (record : TraceRecord) (sequence : UInt64) : TraceRecord :=
  { record with
    sourceDevice := terminate record.sourceDevice
    sourceIface := terminate record.sourceIface
    destinationDevice := terminate record.destinationDevice
    destinationIface := terminate record.destinationIface
    summary := terminate record.summary
    sequence := sequence }

/-! ## Logs -/

/-- The array that `records` points to, and its size. -/
structure TraceArray where
  slots : ℕ → TraceRecord
  bytes : ℕ

/-- `TraceLog`. -/
structure TraceLog where
  records : Option TraceArray
  count : UInt64
  capacity : UInt64
  nextSequence : UInt64
  enabled : ℤ

/-- `trace_log_create` (lines 5–34); the two flags say whether `malloc` succeeds. -/
def traceLogCreate (initialCapacity : UInt64) (mallocLog mallocRecords : Bool) : Option TraceLog :=
  if initialCapacity = 0 then none
  else if initialCapacity > sizeMax / traceRecordSize then none
  else if !mallocLog then none
  else if !mallocRecords then none
  else some {
    records := some ⟨fun _ => {}, (traceRecordSize * initialCapacity).toNat⟩
    count := 0
    capacity := initialCapacity
    nextSequence := 1
    enabled := 1 }

/-- The array of a log with the shape that every call checks first. -/
def TraceLog.shape (log : TraceLog) : Option TraceArray :=
  match log.records with
  | none => none
  | some records =>
    if log.capacity = 0 then none else if log.capacity < log.count then none else some records

/-- `trace_log_clear` (lines 70–89) of a log. -/
def traceLogClear (log : TraceLog) : TraceLog :=
  match log.shape with
  | none => log
  | some _ => { log with count := 0, nextSequence := 1 }

/-- `trace_log_set_enabled` (lines 91–113) of a log. -/
def traceLogSetEnabled (log : TraceLog) (enabled : ℤ) : TraceLog :=
  match log.shape with
  | none => log
  | some _ => { log with enabled := if enabled ≠ 0 then 1 else 0 }

/-- What the `record` of an append points to: a record of the caller, or one in the
    array of the log. -/
inductive TraceSource where
  | own (record : TraceRecord)
  | stored (index : ℕ)

def TraceSource.read (records : TraceArray) : TraceSource → TraceRecord
  | .own record => record
  | .stored index => records.slots index

/-- The array and the capacity at the store of an append (lines 269–287); `none` is a
    refused or failed growth. -/
def TraceLog.grow (log : TraceLog) (records : TraceArray) (realloc : Bool) :
    Option (TraceArray × UInt64) :=
  if log.count = log.capacity then
    if log.capacity > sizeMax / 2 then none
    else
      let newCapacity := log.capacity * 2
      if newCapacity > sizeMax / traceRecordSize then none
      else if !realloc then none
      else some ({ records with bytes := (newCapacity * traceRecordSize).toNat }, newCapacity)
  else some (records, log.capacity)

/-- `trace_log_append` (lines 115–302) to a log; `none` is a null record. -/
def traceLogAppend (log : TraceLog) (record : Option TraceSource) (realloc : Bool) :
    TraceLog × ℤ :=
  match record with
  | none => (log, -1)
  | some source =>
    match log.shape with
    | none => (log, -1)
    | some records =>
      if log.enabled ≠ 0 ∧ log.enabled ≠ 1 then (log, -1)
      else if log.nextSequence = 0 then (log, -1)
      else if log.enabled = 0 then (log, 0)
      else
        let record := source.read records
        if record.refused then (log, -1)
        else if log.nextSequence = sizeMax then (log, -1)
        else
          match log.grow records realloc with
          | none => (log, -1)
          | some (records, capacity) =>
            let stored := record.stored log.nextSequence
            ({ log with
                records := some { records with
                  slots := Function.update records.slots log.count.toNat stored }
                count := log.count + 1
                capacity := capacity
                nextSequence := log.nextSequence + 1 }, 0)

/-- A call on a log. -/
inductive TraceCall where
  | append (record : Option TraceSource) (realloc : Bool)
  | clear
  | setEnabled (enabled : ℤ)

/-- The log after one more call. -/
def traceCall (log : TraceLog) : TraceCall → TraceLog
  | .append record realloc => (traceLogAppend log record realloc).1
  | .clear => traceLogClear log
  | .setEnabled enabled => traceLogSetEnabled log enabled

/-! ## The documented invariants of a record -/

/-- Results that an action can have. -/
structure TraceRecord.ResultOk (r : TraceRecord) : Prop where
  occurrence : r.action = traceEventStarted ∨ r.action = traceEventFinished ∨
    r.action = traceTimerFired → r.result = traceResultNone
  lookup : r.action = traceArpLookup ∨ r.action = traceMacLookup ∨
    r.action = traceRouteLookup → r.result = traceResultSuccess ∨ r.result = traceResultFailure
  dropped : r.action = tracePacketDropped → r.result = traceResultFailure
  other : r.action ∉ [traceEventStarted, traceEventFinished, traceTimerFired, traceArpLookup,
    traceMacLookup, traceRouteLookup, tracePacketDropped] → r.result = traceResultSuccess

/-- The invariants of `03_trace.md` other than those of the texts. -/
structure TraceRecord.Valid (r : TraceRecord) : Prop where
  times : r.timestamp ≤ r.endTimestamp
  instant : r.action ≠ tracePacketTx → r.endTimestamp = r.timestamp
  action : traceActionUnspecified < r.action ∧ r.action < traceActionCount
  eventType : evtPacketSend ≤ r.eventType ∧ r.eventType ≤ evtTypeCount
  noEvent : r.eventType = evtTypeCount → r.eventTimestamp = 0 ∧ r.eventSequence = 0
  event : r.eventType < evtTypeCount → r.eventSequence ≠ 0
  layer : r.layer ≤ 4
  result : r.result = traceResultFailure ∨ r.result = traceResultNone ∨
    r.result = traceResultSuccess
  resultOk : r.ResultOk
  snapshot : r.snapshotLength.toNat ≤ tracePacketSnapshotMax
  snapshotLength : r.snapshotLength ≤ r.packetLength
  truncated : r.snapshotTruncated = if r.snapshotLength < r.packetLength then 1 else 0
  packetId : r.packetId ≠ 0 → r.traceId ≠ 0
  parentPacketId : r.parentPacketId ≠ 0 → r.packetId ≠ 0 ∧ r.traceId ≠ 0
  eventAction : r.action ∈ [traceEventScheduled, traceEventStarted, traceEventFinished] →
    r.eventType < evtTypeCount
  packetAction : r.action ∈ [tracePacketCreated, tracePacketCloned, tracePacketTx, tracePacketRx,
    tracePacketDropped, traceHeaderAdded, traceHeaderRemoved, traceIpLocalDelivery,
    traceTransportDelivery] → r.packetId ≠ 0 ∧ r.traceId ≠ 0

/-- The texts end in their arrays. -/
structure TraceRecord.Terminated (r : TraceRecord) : Prop where
  sourceDevice : r.sourceDevice (Fin.last 31) = 0
  sourceIface : r.sourceIface (Fin.last 31) = 0
  destinationDevice : r.destinationDevice (Fin.last 31) = 0
  destinationIface : r.destinationIface (Fin.last 31) = 0
  summary : r.summary (Fin.last 127) = 0

/-! ## The checks -/

section
variable {r : TraceRecord}

theorem TraceRecord.resultRefused_eq_false_iff : r.resultRefused = false ↔ r.ResultOk := by
  unfold resultRefused
  constructor
  · intro h
    refine ⟨fun ha => ?_, fun ha => ?_, fun ha => ?_, fun ha => ?_⟩
    · rw [if_pos ha] at h
      simpa using h
    · have hfirst : ¬ (r.action = traceEventStarted ∨ r.action = traceEventFinished ∨
          r.action = traceTimerFired) := by
        rcases ha with ha | ha | ha
        all_goals
          rw [ha]
          decide
      rw [if_neg hfirst, if_pos ha] at h
      simp only [Bool.and_eq_false_iff, decide_eq_false_iff_not, not_not] at h
      exact h.symm
    · rw [ha, if_neg (by decide), if_neg (by decide), if_pos rfl] at h
      simpa using h
    · simp only [List.mem_cons, List.not_mem_nil, or_false, not_or] at ha
      obtain ⟨h1, h2, h3, h4, h5, h6, h7⟩ := ha
      rw [if_neg (by simp [h1, h2, h3]), if_neg (by simp [h4, h5, h6]), if_neg h7] at h
      simpa using h
  · rintro ⟨hoccurrence, hlookup, hdropped, hother⟩
    split_ifs with h1 h2 h3
    · simpa using hoccurrence h1
    · simp only [Bool.and_eq_false_iff, decide_eq_false_iff_not, not_not]
      exact (hlookup h2).symm
    · simpa using hdropped h3
    · have hnone : r.action ∉ [traceEventStarted, traceEventFinished, traceTimerFired,
          traceArpLookup, traceMacLookup, traceRouteLookup, tracePacketDropped] := by
        simp only [not_or] at h1 h2
        simp only [List.mem_cons, List.not_mem_nil, or_false, not_or]
        exact ⟨h1.1, h1.2.1, h1.2.2, h2.1, h2.2.1, h2.2.2, h3⟩
      simpa using hother hnone

theorem TraceRecord.idsRefused_eq_false_iff : r.idsRefused = false ↔
    (r.action ∈ [traceEventScheduled, traceEventStarted, traceEventFinished] →
      r.eventType < evtTypeCount) ∧
    (r.action ∈ [tracePacketCreated, tracePacketCloned, tracePacketTx, tracePacketRx,
      tracePacketDropped, traceHeaderAdded, traceHeaderRemoved, traceIpLocalDelivery,
      traceTransportDelivery] → r.packetId ≠ 0 ∧ r.traceId ≠ 0) := by
  unfold idsRefused
  simp only [List.mem_cons, List.not_mem_nil, or_false]
  split_ifs with h1 h2
  · have hpacket : ¬ (r.action = tracePacketCreated ∨ r.action = tracePacketCloned ∨
        r.action = tracePacketTx ∨ r.action = tracePacketRx ∨ r.action = tracePacketDropped ∨
        r.action = traceHeaderAdded ∨ r.action = traceHeaderRemoved ∨
        r.action = traceIpLocalDelivery ∨ r.action = traceTransportDelivery) := by
      rcases h1 with h | h | h
      all_goals
        rw [h]
        decide
    rw [decide_eq_false_iff_not, ge_iff_le, UInt32.not_le]
    exact ⟨fun h => ⟨fun _ => h, fun h2 => absurd h2 hpacket⟩, fun h => h.1 h1⟩
  · rw [Bool.or_eq_false_iff, decide_eq_false_iff_not, decide_eq_false_iff_not]
    exact ⟨fun h => ⟨fun h1' => absurd h1' h1, fun _ => h⟩, fun h => h.2 h2⟩
  · exact iff_of_true rfl ⟨fun h1' => absurd h1' h1, fun h2' => absurd h2' h2⟩

/-- An event type up to the sentinel is no negative `int`. -/
theorem not_toInt32_lt {eventType : UInt32} (h : eventType ≤ evtTypeCount) :
    ¬ eventType.toInt32 < evtPacketSend.toInt32 := by
  have hle : eventType.toNat ≤ 27 := h
  have hint : eventType.toInt32.toInt = eventType.toNat :=
    BitVec.toInt_eq_toNat_of_lt (by show 2 * eventType.toNat < 2 ^ 32; omega)
  have hzero : evtPacketSend.toInt32.toInt = 0 := rfl
  rw [Int32.lt_iff_toInt_lt, hint, hzero]
  omega

/-- The check of the associated event. -/
theorem TraceRecord.event_eq_false_iff :
    (if r.eventType = evtTypeCount then
      decide (r.eventTimestamp ≠ 0) || decide (r.eventSequence ≠ 0)
    else decide (r.eventSequence = 0)) = false ↔
    (r.eventType = evtTypeCount → r.eventTimestamp = 0 ∧ r.eventSequence = 0) ∧
      (r.eventType ≠ evtTypeCount → r.eventSequence ≠ 0) := by
  by_cases h : r.eventType = evtTypeCount
  · rw [if_pos h, Bool.or_eq_false_iff, decide_eq_false_iff_not, decide_eq_false_iff_not, not_not,
      not_not]
    exact ⟨fun hzero => ⟨fun _ => hzero, fun hne => absurd h hne⟩, fun hboth => hboth.1 h⟩
  · rw [if_neg h, decide_eq_false_iff_not]
    exact ⟨fun hne => ⟨fun heq => absurd heq h, fun _ => hne⟩, fun hboth => hboth.2 h⟩

/-- The checks accept a record if and only if it satisfies the documented invariants. -/
theorem TraceRecord.refused_eq_false_iff : r.refused = false ↔ r.Valid := by
  unfold refused
  simp only [Bool.or_eq_false_iff, decide_eq_false_iff_not, Bool.and_eq_false_iff, not_not,
    resultRefused_eq_false_iff, idsRefused_eq_false_iff, event_eq_false_iff]
  constructor
  · rintro ⟨⟨⟨⟨⟨⟨⟨⟨⟨⟨⟨⟨htimes, hlow, hhigh⟩, hinstant⟩, -, htype⟩, hnone, hevent⟩, hlayer⟩, hresult⟩,
      hok⟩, hmax, hlength⟩, htruncated⟩, hid⟩, hparent⟩, heventAction, hpacketAction⟩
    exact {
      times := UInt64.not_lt.mp htimes
      instant := hinstant.resolve_left
      action := ⟨UInt32.not_le.mp hlow, UInt32.not_le.mp hhigh⟩
      eventType := ⟨Nat.zero_le _, UInt32.not_lt.mp htype⟩
      noEvent := hnone
      event := fun hlt => hevent (UInt32.ne_of_lt hlt)
      layer := UInt8.not_lt.mp hlayer
      result := or_assoc.mp hresult
      resultOk := hok
      snapshot := Nat.not_lt.mp hmax
      snapshotLength := UInt64.not_lt.mp hlength
      truncated := htruncated
      packetId := hid.resolve_left
      parentPacketId := hparent.resolve_left
      eventAction := heventAction
      packetAction := hpacketAction }
  · intro h
    have hevent : r.eventType ≠ evtTypeCount → r.eventSequence ≠ 0 := fun hne =>
      h.event (UInt32.lt_of_le_of_ne h.eventType.2 hne)
    exact ⟨⟨⟨⟨⟨⟨⟨⟨⟨⟨⟨⟨UInt64.not_lt.mpr h.times, UInt32.not_le.mpr h.action.1,
      UInt32.not_le.mpr h.action.2⟩, or_iff_not_imp_left.mpr h.instant⟩,
      not_toInt32_lt h.eventType.2, UInt32.not_lt.mpr h.eventType.2⟩, h.noEvent, hevent⟩,
      UInt8.not_lt.mpr h.layer⟩, or_assoc.mpr h.result⟩, h.resultOk⟩, Nat.not_lt.mpr h.snapshot,
      UInt64.not_lt.mpr h.snapshotLength⟩, h.truncated⟩, or_iff_not_imp_left.mpr h.packetId⟩,
      or_iff_not_imp_left.mpr h.parentPacketId⟩, h.eventAction, h.packetAction⟩

/-! ## What is stored -/

@[simp] theorem terminate_last {n : ℕ} (text : Slots (n + 1) UInt8) :
    terminate text (Fin.last n) = 0 :=
  Function.update_self ..

theorem TraceRecord.stored_terminated (r : TraceRecord) (sequence : UInt64) :
    (r.stored sequence).Terminated where
  sourceDevice := terminate_last (n := 31) r.sourceDevice
  sourceIface := terminate_last (n := 31) r.sourceIface
  destinationDevice := terminate_last (n := 31) r.destinationDevice
  destinationIface := terminate_last (n := 31) r.destinationIface
  summary := terminate_last (n := 127) r.summary

/-- The invariants do not speak of the texts and the sequence. -/
theorem TraceRecord.Valid.stored (h : r.Valid) (sequence : UInt64) : (r.stored sequence).Valid where
  times := h.times
  instant := h.instant
  action := h.action
  eventType := h.eventType
  noEvent := h.noEvent
  event := h.event
  layer := h.layer
  result := h.result
  resultOk := ⟨h.resultOk.occurrence, h.resultOk.lookup, h.resultOk.dropped, h.resultOk.other⟩
  snapshot := h.snapshot
  snapshotLength := h.snapshotLength
  truncated := h.truncated
  packetId := h.packetId
  parentPacketId := h.parentPacketId
  eventAction := h.eventAction
  packetAction := h.packetAction

end

/-! ## The log between two calls -/

/-- The array `records` of a log and what the log says about it. -/
structure TraceLog.Ok (log : TraceLog) (records : TraceArray) : Prop where
  array : log.records = some records
  capacity : 0 < log.capacity.toNat
  bytes : records.bytes = log.capacity.toNat * traceRecordSize.toNat
  count : log.count ≤ log.capacity
  nextSequence : log.nextSequence.toNat = log.count.toNat + 1
  enabled : log.enabled = 0 ∨ log.enabled = 1
  stored : ∀ i < log.count.toNat, (records.slots i).Valid ∧ (records.slots i).Terminated ∧
    (records.slots i).sequence.toNat = i + 1

section
variable {log : TraceLog} {records : TraceArray}

theorem TraceLog.Ok.shape (h : log.Ok records) : log.shape = some records := by
  have hcapacity : log.capacity ≠ 0 := by
    intro hzero
    have hpos := h.capacity
    rw [hzero] at hpos
    exact absurd hpos (by decide)
  unfold TraceLog.shape
  rw [h.array]
  dsimp only
  rw [if_neg hcapacity, if_neg (UInt64.not_lt.mpr h.count)]

theorem traceLog_ok_create {initialCapacity : UInt64} {mallocLog mallocRecords : Bool}
    (h : traceLogCreate initialCapacity mallocLog mallocRecords = some log) :
    ∃ records, log.Ok records := by
  unfold traceLogCreate at h
  split_ifs at h with hzero hmax
  obtain rfl := Option.some.inj h
  have hpos : initialCapacity.toNat ≠ 0 := fun h => hzero (UInt64.toNat_inj.mp h)
  have hle : initialCapacity.toNat ≤ sizeMax.toNat / traceRecordSize.toNat :=
    UInt64.not_lt.mp hmax
  have hmul : (traceRecordSize * initialCapacity).toNat =
      traceRecordSize.toNat * initialCapacity.toNat % 2 ^ 64 := UInt64.toNat_mul ..
  have hsize : traceRecordSize.toNat = 608 := rfl
  have hlast : sizeMax.toNat = 2 ^ 64 - 1 := rfl
  refine ⟨_, rfl, Nat.pos_of_ne_zero hpos, ?_, Nat.zero_le _, rfl, .inr rfl, fun i hi => ?_⟩
  · dsimp only
    rw [hsize] at hmul hle ⊢
    omega
  · exact absurd hi (Nat.not_lt_zero i)

/-- A growth that is not refused has room for a record and its size in bytes. -/
theorem TraceLog.Ok.grow (h : log.Ok records) {realloc : Bool} {records' : TraceArray}
    {capacity : UInt64} (hgrow : log.grow records realloc = some (records', capacity)) :
    records'.slots = records.slots ∧ records'.bytes = capacity.toNat * traceRecordSize.toNat ∧
      log.count.toNat < capacity.toNat := by
  have hcount : log.count.toNat ≤ log.capacity.toNat := h.count
  have hpos := h.capacity
  unfold TraceLog.grow at hgrow
  dsimp only at hgrow
  split_ifs at hgrow with hfull hhalf hmax hrealloc
  · obtain ⟨rfl, rfl⟩ := Prod.mk.inj (Option.some.inj hgrow)
    have hsize : traceRecordSize.toNat = 608 := rfl
    have hlast : sizeMax.toNat = 2 ^ 64 - 1 := rfl
    have hhalf : log.capacity.toNat ≤ sizeMax.toNat / 2 := UInt64.not_lt.mp hhalf
    have hmax : (log.capacity * 2).toNat ≤ sizeMax.toNat / traceRecordSize.toNat :=
      UInt64.not_lt.mp hmax
    have hdouble : (log.capacity * 2).toNat = log.capacity.toNat * 2 % 2 ^ 64 :=
      UInt64.toNat_mul ..
    have hmul : (log.capacity * 2 * traceRecordSize).toNat =
        (log.capacity * 2).toNat * traceRecordSize.toNat % 2 ^ 64 := UInt64.toNat_mul ..
    refine ⟨rfl, ?_, ?_⟩
    · dsimp only
      rw [hsize] at hmul hmax ⊢
      omega
    · rw [hfull]
      omega
  · obtain ⟨rfl, rfl⟩ := Prod.mk.inj (Option.some.inj hgrow)
    have hne : log.count.toNat ≠ log.capacity.toNat := fun h => hfull (UInt64.toNat_inj.mp h)
    exact ⟨rfl, h.bytes, Nat.lt_of_le_of_ne hcount hne⟩

/-- The log after a record has been stored. -/
def TraceLog.store (log : TraceLog) (records : TraceArray) (capacity : UInt64)
    (record : TraceRecord) : TraceLog :=
  { log with
    records := some { records with
      slots := Function.update records.slots log.count.toNat (record.stored log.nextSequence) }
    count := log.count + 1
    capacity := capacity
    nextSequence := log.nextSequence + 1 }

/-- Everything an append can do. -/
theorem TraceLog.Ok.append_cases (h : log.Ok records) (record : Option TraceSource)
    (realloc : Bool) :
    (log.enabled = 0 ∧ traceLogAppend log record realloc = (log, 0)) ∨
    traceLogAppend log record realloc = (log, -1) ∨
    ∃ source records' capacity, log.enabled = 1 ∧ record = some source ∧
      (source.read records).Valid ∧ log.nextSequence ≠ sizeMax ∧
      log.grow records realloc = some (records', capacity) ∧
      traceLogAppend log record realloc =
        (log.store records' capacity (source.read records), 0) := by
  cases record with
  | none => exact .inr (.inl rfl)
  | some source =>
    have hflag : ¬ (log.enabled ≠ 0 ∧ log.enabled ≠ 1) := by
      have henabled := h.enabled
      tauto
    have hnext : log.nextSequence ≠ 0 := by
      intro hzero
      have hnum := h.nextSequence
      rw [hzero] at hnum
      exact absurd hnum (Nat.zero_ne_add_one _)
    unfold traceLogAppend
    dsimp only
    rw [h.shape]
    dsimp only
    rw [if_neg hflag, if_neg hnext]
    by_cases hdisabled : log.enabled = 0
    · rw [if_pos hdisabled]
      exact .inl ⟨hdisabled, rfl⟩
    rw [if_neg hdisabled]
    cases hrefused : (source.read records).refused with
    | true => exact .inr (.inl rfl)
    | false =>
      rw [if_neg Bool.false_ne_true]
      by_cases hmax : log.nextSequence = sizeMax
      · rw [if_pos hmax]
        exact .inr (.inl rfl)
      rw [if_neg hmax]
      cases hgrow : log.grow records realloc with
      | none => exact .inr (.inl rfl)
      | some grown =>
        obtain ⟨records', capacity⟩ := grown
        exact .inr (.inr ⟨source, records', capacity, h.enabled.resolve_left hdisabled, rfl,
          TraceRecord.refused_eq_false_iff.mp hrefused, hmax, rfl, rfl⟩)

/-- The stored record is the last one, and the ones before it are as they were. -/
theorem TraceLog.Ok.store (h : log.Ok records) {realloc : Bool} {records' : TraceArray}
    {capacity : UInt64} {record : TraceRecord} (hvalid : record.Valid)
    (hmax : log.nextSequence ≠ sizeMax)
    (hgrow : log.grow records realloc = some (records', capacity)) :
    (log.store records' capacity record).Ok { records' with
      slots := Function.update records.slots log.count.toNat
        (record.stored log.nextSequence) } ∧
      (log.store records' capacity record).count.toNat = log.count.toNat + 1 := by
  obtain ⟨hslots, hbytes, hroom⟩ := h.grow hgrow
  have hnext := h.nextSequence
  have hne : log.nextSequence.toNat ≠ 2 ^ 64 - 1 := fun h => hmax (UInt64.toNat_inj.mp h)
  have hlt := log.nextSequence.toNat_lt
  have hcount : (log.count + 1).toNat = (log.count.toNat + 1) % 2 ^ 64 := UInt64.toNat_add ..
  have hsequence : (log.nextSequence + 1).toNat = (log.nextSequence.toNat + 1) % 2 ^ 64 :=
    UInt64.toNat_add ..
  have hcount' : (log.count + 1).toNat = log.count.toNat + 1 := by omega
  refine ⟨⟨?_, ?_, hbytes, ?_, ?_, h.enabled, fun i hi => ?_⟩, hcount'⟩
  · unfold TraceLog.store
    rw [hslots]
  · exact Nat.zero_lt_of_lt hroom
  · show (log.count + 1).toNat ≤ capacity.toNat
    omega
  · show (log.nextSequence + 1).toNat = (log.count + 1).toNat + 1
    omega
  · have hi : i < log.count.toNat + 1 := hcount' ▸ hi
    by_cases hlast : i = log.count.toNat
    · subst hlast
      dsimp only
      rw [Function.update_self]
      exact ⟨hvalid.stored _, record.stored_terminated _, hnext⟩
    · dsimp only
      rw [Function.update_of_ne hlast]
      exact h.stored i (by omega)

theorem TraceLog.Ok.call (h : log.Ok records) (c : TraceCall) :
    ∃ records', (traceCall log c).Ok records' := by
  cases c with
  | append record realloc =>
    rcases h.append_cases record realloc with ⟨-, he⟩ | he | ⟨source, records', capacity, -, -,
      hvalid, hmax, hgrow, he⟩
    · exact ⟨records, by rwa [traceCall, he]⟩
    · exact ⟨records, by rwa [traceCall, he]⟩
    · have hstored := (h.store hvalid hmax hgrow).1
      rw [traceCall, he]
      exact ⟨_, hstored⟩
  | clear =>
    refine ⟨records, ?_⟩
    unfold traceCall traceLogClear
    dsimp only
    rw [h.shape]
    exact ⟨h.array, h.capacity, h.bytes, Nat.zero_le _, rfl, h.enabled,
      fun i hi => absurd hi (Nat.not_lt_zero i)⟩
  | setEnabled enabled =>
    refine ⟨records, ?_⟩
    unfold traceCall traceLogSetEnabled
    dsimp only
    rw [h.shape]
    refine ⟨h.array, h.capacity, h.bytes, h.count, h.nextSequence, ?_, h.stored⟩
    dsimp only
    split
    · exact .inr rfl
    · exact .inl rfl

end

/-! ## Results -/

/-- What an append does to a log with this array. -/
structure TraceLog.AppendOk (log : TraceLog) (records : TraceArray) (record : Option TraceSource)
    (realloc : Bool) : Prop where
  result : (traceLogAppend log record realloc).2 = 0 ∨ (traceLogAppend log record realloc).2 = -1
  failed : (traceLogAppend log record realloc).2 = -1 → (traceLogAppend log record realloc).1 = log
  disabled : log.enabled = 0 → (traceLogAppend log record realloc).1 = log
  stored : (traceLogAppend log record realloc).2 = 0 → log.enabled = 1 →
    ∃ source records', record = some source ∧ (source.read records).Valid ∧
      (traceLogAppend log record realloc).1.Ok records' ∧
      (traceLogAppend log record realloc).1.count.toNat = log.count.toNat + 1 ∧
      records'.slots log.count.toNat = (source.read records).stored log.nextSequence ∧
      ∀ i < log.count.toNat, records'.slots i = records.slots i

theorem TraceLog.Ok.append {log : TraceLog} {records : TraceArray} (h : log.Ok records)
    (record : Option TraceSource) (realloc : Bool) : log.AppendOk records record realloc := by
  have hfail : ¬ (-1 : ℤ) = 0 := by decide
  rcases h.append_cases record realloc with ⟨hzero, he⟩ | he | ⟨source, records', capacity, hone,
    hsource, hvalid, hmax, hgrow, he⟩
  · have hflag : log.enabled ≠ 1 := by
      rw [hzero]
      decide
    exact ⟨by rw [he]; exact .inl rfl, fun _ => by rw [he], fun _ => by rw [he],
      fun _ hone => absurd hone hflag⟩
  · exact ⟨by rw [he]; exact .inr rfl, fun _ => by rw [he], fun _ => by rw [he],
      fun hdone => absurd (by rw [he] at hdone; exact hdone) hfail⟩
  · obtain ⟨hok, hcount⟩ := h.store hvalid hmax hgrow
    have hflag : log.enabled ≠ 0 := by
      rw [hone]
      decide
    refine ⟨by rw [he]; exact .inl rfl, fun hfailed => ?_, fun hzero => absurd hzero hflag,
      fun _ _ => ?_⟩
    · rw [he] at hfailed
      exact absurd hfailed.symm hfail
    · rw [he]
      refine ⟨source, _, hsource, hvalid, hok, hcount, Function.update_self .., fun i hi => ?_⟩
      exact Function.update_of_ne (Nat.ne_of_lt hi) ..

/-- Every log that the calls can reach has an array that holds its records in the bytes
    allocated for it, at most as many as its capacity; record `i` has the sequence
    `i + 1`, the next one is numbered `count + 1`, and each satisfies the documented
    invariants. An append stores one valid record behind the others, or nothing. -/
theorem traceLog_invariant (initialCapacity : UInt64) (mallocLog mallocRecords : Bool)
    (log : TraceLog) (hcreate : traceLogCreate initialCapacity mallocLog mallocRecords = some log)
    (calls : List TraceCall) :
    let log := run traceCall log calls
    ∃ records, log.records = some records ∧ log.count ≤ log.capacity ∧
      log.nextSequence.toNat = log.count.toNat + 1 ∧
      (∀ i < log.count.toNat, (records.slots i).sequence.toNat = i + 1 ∧
        (records.slots i).Valid ∧ (records.slots i).Terminated) ∧
      log.count.toNat * traceRecordSize.toNat ≤ records.bytes ∧
      ∀ record realloc, log.AppendOk records record realloc := by
  intro log
  obtain ⟨records, h⟩ : ∃ records, log.Ok records :=
    run_invariant (fun log : TraceLog => ∃ records, log.Ok records) (fun _ c ⟨_, h⟩ => h.call c) calls _
      (traceLog_ok_create hcreate)
  refine ⟨records, h.array, h.count, h.nextSequence, fun i hi => ?_, ?_, h.append⟩
  · obtain ⟨hvalid, hterminated, hsequence⟩ := h.stored i hi
    exact ⟨hsequence, hvalid, hterminated⟩
  · rw [h.bytes]
    exact Nat.mul_le_mul_right _ h.count

/-- A log of one slot. -/
def exampleTraceLog : TraceLog := ⟨some ⟨fun _ => {}, 608⟩, 0, 1, 1, 1⟩

/-- Two records appended, the second a copy of the first. -/
def exampleTraceCalls : List TraceCall :=
  [.append (some (.own { action := traceTimerFired, eventType := evtTypeCount })) true,
    .append (some (.stored 0)) true]

theorem traceLog_invariant_exampleTraceCalls :
    ∃ records, (run traceCall exampleTraceLog exampleTraceCalls).records = some records ∧
      (records.slots 1).sequence.toNat = 2 ∧ (records.slots 1).Valid ∧ 1216 ≤ records.bytes := by
  have hcreate : traceLogCreate 1 true true = some exampleTraceLog := rfl
  have hcount : (run traceCall exampleTraceLog exampleTraceCalls).count.toNat = 2 := by
    decide +kernel
  obtain ⟨records, harray, -, -, hstored, hbytes, -⟩ :=
    traceLog_invariant 1 true true exampleTraceLog hcreate exampleTraceCalls
  rw [hcount] at hstored hbytes
  obtain ⟨hsequence, hvalid, -⟩ := hstored 1 (by decide)
  exact ⟨records, harray, hsequence, hvalid, hbytes⟩

end FrameRunner
