import FrameRunner.Engine.Trace
import FrameRunner.Lib.Memory
import FrameRunner.Network.Packet

/-!
# Packets in memory (`network/packet.c`)

The packets of `Network.Packet` as the code has them: `data` is a pointer into (or out of)
the allocation that begins at `head`, lengths are `size_t` and wrap, and a packet carries its
identifiers and its layer. Whether `malloc` succeeds is an input.

Each call has a lemma for all it can do (`create_cases`, `Ok.prepend_cases`, `strip_cases`,
`Ok.validateView_iff`, `clone_cases`) and one for the bytes.

Main results:

* `RawPacket.toPacket_prepend`, `RawPacket.toPacket_strip`, `RawPacket.toPacket_clone`: on a
  packet that keeps within its allocation the calls are those of `Network.Packet`.
-/

namespace FrameRunner

open FrameRunner.Lib FrameRunner.Lib.Memory

/-- `Packet`. `mem` is the memory by the offset from `head`, `data` such an offset. -/
structure RawPacket where
  mem : ℤ → UInt8
  data : ℤ
  len : UInt64
  capacity : UInt64
  id : UInt32
  traceId : UInt32
  parentId : UInt32
  layer : ℤ

namespace RawPacket

/-- `PKT_HEADROOM` as a `size_t`. -/
def headroom : UInt64 := 64

/-- `packet_create` (lines 8–34) with the counter `next_id`: the packet and the counter
    afterwards. The two flags say whether `malloc` succeeds, `junk` is what the memory holds. -/
def create (nextId : UInt32) (junk : ℤ → UInt8) (capacity : UInt64)
    (mallocPacket mallocHead : Bool) : Option RawPacket × UInt32 :=
  if capacity > sizeMax - headroom then (none, nextId)
  else if !mallocPacket then (none, nextId)
  else if !mallocHead then (none, nextId)
  else
    (some {
      mem := junk
      data := headroom.toNat
      len := 0
      capacity := capacity
      layer := 0
      id := nextId
      traceId := nextId
      parentId := 0 }, nextId + 1)

/-- `packet_prepend` (lines 45–58): the packet and the result. -/
def prepend (p : RawPacket) (header : ℤ → UInt8) (headerLen : UInt64) : RawPacket × ℤ :=
  if UInt64.ofInt p.data < headerLen then (p, -1)
  else
    let data := p.data - headerLen.toNat
    ({ p with
        data := data
        len := p.len + headerLen
        mem := write p.mem data (read header 0 headerLen.toNat) }, 0)

/-- `packet_strip` (lines 60–71): the packet and the result. -/
def strip (p : RawPacket) (headerLen : UInt64) : RawPacket × ℤ :=
  if headerLen > p.len then (p, -1)
  else ({ p with data := p.data + headerLen.toNat, len := p.len - headerLen }, 0)

/-- `packet_validate_view` (lines 73–99) of a packet with an allocation. -/
def validateView (p : RawPacket) (requiredHeadroom minimumVisibleLen : UInt64) : ℤ :=
  if p.capacity > sizeMax - headroom then -1
  else
    let allocationSize := headroom + p.capacity
    if requiredHeadroom > allocationSize then -1
    else
      let tail : ℤ := allocationSize.toNat
      if p.data < requiredHeadroom.toNat ∨ p.data > tail then -1
      else
        let remaining := UInt64.ofInt (tail - p.data)
        if p.len > remaining ∨ p.len < minimumVisibleLen then -1
        else 0

/-- `packet_inherit_trace` (lines 155–164). -/
def inheritTrace (child parent : RawPacket) : RawPacket :=
  { child with traceId := parent.traceId, parentId := parent.id }

/-- `packet_clone` (lines 101–119). -/
def clone (nextId : UInt32) (junk : ℤ → UInt8) (p : RawPacket) (mallocPacket mallocHead : Bool) :
    Option RawPacket × UInt32 :=
  match create nextId junk p.len mallocPacket mallocHead with
  | (none, nextId) => (none, nextId)
  | (some clone, nextId) =>
    let clone := { clone with
      mem := write clone.mem clone.data (read p.mem p.data p.len.toNat)
      len := p.len
      layer := p.layer }
    (some (clone.inheritTrace p), nextId)

/-- The visible bytes, `data[0 .. len-1]`. -/
def visible (p : RawPacket) : List UInt8 := read p.mem p.data p.len.toNat

/-- The `n` bytes before `data`. -/
def header (p : RawPacket) (n : UInt64) : List UInt8 := read p.mem (p.data - n.toNat) n.toNat

/-- The packet keeps within its allocation, whose size is a `size_t`. -/
structure Ok (p : RawPacket) : Prop where
  capacity : headroom.toNat + p.capacity.toNat < 2 ^ 64
  head : 0 ≤ p.data
  tail : p.data + p.len.toNat ≤ headroom.toNat + p.capacity.toNat

/-! ## What a call does -/

theorem toNat_headroom : headroom.toNat = 64 := rfl

/-- An offset in the range of `size_t` is converted as it is. -/
theorem toNat_ofInt {x : ℤ} (h0 : 0 ≤ x) (h : x < 2 ^ 64) : ((UInt64.ofInt x).toNat : ℤ) = x := by
  unfold UInt64.ofInt
  rw [UInt64.toNat_ofNat']
  omega

theorem capacity_le_iff {capacity : UInt64} :
    ¬ capacity > sizeMax - headroom ↔ headroom.toNat + capacity.toNat < 2 ^ 64 := by
  have hmax : (sizeMax - headroom).toNat = 2 ^ 64 - 65 := rfl
  rw [gt_iff_lt, UInt64.lt_iff_toNat_lt, hmax, toNat_headroom]
  omega

theorem length_visible (p : RawPacket) : p.visible.length = p.len.toNat := length_read

section
variable {p : RawPacket} {header junk : ℤ → UInt8} {n : UInt64}

/-- A new packet, or none and the counter as it was. -/
theorem create_cases (nextId : UInt32) (junk : ℤ → UInt8) (capacity : UInt64)
    (mallocPacket mallocHead : Bool) :
    (create nextId junk capacity mallocPacket mallocHead = (none, nextId) ∧
      (mallocPacket = true → mallocHead = true →
        2 ^ 64 ≤ headroom.toNat + capacity.toNat)) ∨
    ((create nextId junk capacity mallocPacket mallocHead).2 = nextId + 1 ∧
      ∃ p, (create nextId junk capacity mallocPacket mallocHead).1 = some p ∧ p.Ok ∧
        p.mem = junk ∧ p.data = 64 ∧ p.len = 0 ∧ p.capacity = capacity ∧ p.layer = 0 ∧
        p.id = nextId ∧ p.traceId = nextId ∧ p.parentId = 0) := by
  unfold create
  by_cases hcap : capacity > sizeMax - headroom
  · rw [if_pos hcap]
    exact .inl ⟨rfl, fun _ _ => Nat.not_lt.mp fun h => capacity_le_iff.mpr h hcap⟩
  rw [if_neg hcap]
  cases mallocPacket with
  | false => exact .inl ⟨rfl, fun h => absurd h (by decide)⟩
  | true =>
    cases mallocHead with
    | false => exact .inl ⟨rfl, fun _ h => absurd h (by decide)⟩
    | true =>
      have hroom := capacity_le_iff.mp hcap
      have hpos : (0 : ℤ) ≤ headroom.toNat := Int.natCast_nonneg _
      refine .inr ⟨rfl, _, rfl, ⟨hroom, hpos, ?_⟩, rfl, rfl, rfl, rfl, rfl, rfl, rfl, rfl⟩
      show (64 : ℤ) + 0 ≤ 64 + (capacity.toNat : ℤ)
      omega

/-- The whole of `packet_prepend`: refused for want of headroom, or the window grows. -/
theorem Ok.prepend_cases (h : p.Ok) (header : ℤ → UInt8) (n : UInt64) :
    (p.data < n.toNat ∧ p.prepend header n = (p, -1)) ∨
    ((n.toNat : ℤ) ≤ p.data ∧ (p.len + n).toNat = p.len.toNat + n.toNat ∧
      p.prepend header n = ({ p with
        data := p.data - n.toNat
        len := p.len + n
        mem := write p.mem (p.data - n.toNat) (read header 0 n.toNat) }, 0)) := by
  have hcap := h.capacity
  have hhead := h.head
  have htail := h.tail
  have hdata : ((UInt64.ofInt p.data).toNat : ℤ) = p.data := toNat_ofInt hhead (by omega)
  have hsum : (p.len + n).toNat = (p.len.toNat + n.toNat) % 2 ^ 64 := UInt64.toNat_add ..
  unfold prepend
  by_cases hroom : UInt64.ofInt p.data < n
  · rw [if_pos hroom]
    rw [UInt64.lt_iff_toNat_lt] at hroom
    exact .inl ⟨by omega, rfl⟩
  · rw [if_neg hroom]
    rw [UInt64.lt_iff_toNat_lt] at hroom
    exact .inr ⟨by omega, by omega, rfl⟩

/-- The whole of `packet_strip`. -/
theorem strip_cases (p : RawPacket) (n : UInt64) :
    (p.len.toNat < n.toNat ∧ p.strip n = (p, -1)) ∨
    (n.toNat ≤ p.len.toNat ∧ (p.len - n).toNat = p.len.toNat - n.toNat ∧
      p.strip n = ({ p with data := p.data + n.toNat, len := p.len - n }, 0)) := by
  unfold strip
  by_cases hlen : n > p.len
  · rw [if_pos hlen]
    exact .inl ⟨hlen, rfl⟩
  · rw [if_neg hlen]
    have hle : n ≤ p.len := UInt64.not_lt.mp hlen
    exact .inr ⟨hle, UInt64.toNat_sub_of_le _ _ hle, rfl⟩

theorem Ok.prepend (h : p.Ok) (header : ℤ → UInt8) (n : UInt64) : (p.prepend header n).1.Ok := by
  have htail := h.tail
  rcases h.prepend_cases header n with ⟨-, he⟩ | ⟨hroom, hsum, he⟩
  · rw [he]
    exact h
  · rw [he]
    refine ⟨h.capacity, by dsimp only; omega, ?_⟩
    dsimp only
    rw [hsum]
    omega

theorem Ok.strip (h : p.Ok) (n : UInt64) : (p.strip n).1.Ok := by
  have hhead := h.head
  have htail := h.tail
  rcases p.strip_cases n with ⟨-, he⟩ | ⟨hlen, hsub, he⟩
  · rw [he]
    exact h
  · rw [he]
    refine ⟨h.capacity, by dsimp only; omega, ?_⟩
    dsimp only
    rw [hsub]
    omega

/-- A packet within its allocation passes just the two tests for sizes. -/
theorem Ok.validateView_iff (h : p.Ok) {requiredHeadroom minimumVisibleLen : UInt64} :
    p.validateView requiredHeadroom minimumVisibleLen = 0 ↔
      (requiredHeadroom.toNat : ℤ) ≤ p.data ∧ minimumVisibleLen.toNat ≤ p.len.toNat := by
  have hcap := h.capacity
  have hhead := h.head
  have htail := h.tail
  have hfail : ¬ (-1 : ℤ) = 0 := by decide
  have hsize : (headroom + p.capacity).toNat = headroom.toNat + p.capacity.toNat := by
    rw [UInt64.toNat_add]
    exact Nat.mod_eq_of_lt hcap
  have hremaining : ((UInt64.ofInt ((headroom + p.capacity).toNat - p.data)).toNat : ℤ) =
      (headroom + p.capacity).toNat - p.data := toNat_ofInt (by omega) (by omega)
  unfold validateView
  rw [if_neg (capacity_le_iff.mpr hcap)]
  dsimp only
  by_cases hbig : requiredHeadroom > headroom + p.capacity
  · rw [if_pos hbig]
    rw [gt_iff_lt, UInt64.lt_iff_toNat_lt] at hbig
    exact iff_of_false hfail fun ⟨hle, _⟩ => by omega
  rw [if_neg hbig]
  by_cases hout : p.data < requiredHeadroom.toNat ∨ p.data > (headroom + p.capacity).toNat
  · rw [if_pos hout]
    exact iff_of_false hfail fun ⟨hle, _⟩ => by omega
  rw [if_neg hout]
  by_cases hshort : p.len > UInt64.ofInt ((headroom + p.capacity).toNat - p.data) ∨
      p.len < minimumVisibleLen
  · rw [if_pos hshort]
    rw [gt_iff_lt, UInt64.lt_iff_toNat_lt, UInt64.lt_iff_toNat_lt] at hshort
    exact iff_of_false hfail fun ⟨_, hle⟩ => by omega
  · rw [if_neg hshort]
    rw [UInt64.lt_iff_toNat_lt, not_or] at hshort
    exact iff_of_true rfl ⟨by omega, by omega⟩

/-! ## What a call does to the bytes -/

/-- A successful prepend puts the header before the visible bytes. -/
theorem Ok.visible_prepend (h : p.Ok) (hok : (p.prepend header n).2 = 0) :
    (p.prepend header n).1.visible = read header 0 n.toNat ++ p.visible := by
  rcases h.prepend_cases header n with ⟨-, he⟩ | ⟨-, hsum, he⟩
  · rw [he] at hok
    exact absurd hok (show ¬ (-1 : ℤ) = 0 by decide)
  · rw [he]
    unfold visible
    dsimp only
    have hback : p.data - n.toNat + n.toNat = p.data := by omega
    rw [hsum, Nat.add_comm, read_add, hback]
    have hlen : (read header 0 n.toNat).length = n.toNat := length_read
    refine congrArg₂ (· ++ ·) ?_ (read_write_disjoint (by omega))
    have hself := read_write_self p.mem (p.data - n.toNat) (read header 0 n.toNat)
    rwa [hlen] at hself

/-- A successful strip leaves the bytes that it takes off before `data`. -/
theorem bytes_strip (hok : (p.strip n).2 = 0) :
    (p.strip n).1.visible = p.visible.drop n.toNat ∧
      (p.strip n).1.header n = p.visible.take n.toNat := by
  rcases p.strip_cases n with ⟨-, he⟩ | ⟨hlen, hsub, he⟩
  · rw [he] at hok
    exact absurd hok (show ¬ (-1 : ℤ) = 0 by decide)
  · rw [he]
    unfold visible RawPacket.header
    dsimp only
    have hback : p.data + n.toNat - n.toNat = p.data := by omega
    rw [hsub, hback, drop_read hlen, take_read hlen]
    exact ⟨rfl, rfl⟩

/-- A clone is a packet of its own with the same visible bytes and all its headroom. -/
theorem clone_cases (nextId : UInt32) (junk : ℤ → UInt8) (p : RawPacket)
    (mallocPacket mallocHead : Bool) :
    (clone nextId junk p mallocPacket mallocHead = (none, nextId) ∧
      (mallocPacket = true → mallocHead = true → 2 ^ 64 ≤ headroom.toNat + p.len.toNat)) ∨
    ((clone nextId junk p mallocPacket mallocHead).2 = nextId + 1 ∧
      ∃ c, (clone nextId junk p mallocPacket mallocHead).1 = some c ∧ c.Ok ∧
        c.mem = write junk 64 p.visible ∧ c.data = 64 ∧ c.len = p.len ∧ c.capacity = p.len ∧
        c.layer = p.layer ∧ c.id = nextId ∧ c.traceId = p.traceId ∧ c.parentId = p.id) := by
  unfold clone
  rcases create_cases nextId junk p.len mallocPacket mallocHead with
    ⟨hcreate, hfail⟩ | ⟨hnext, c, hcreate, hok, hmem, hdata, -, hcap, -, hid, -, -⟩
  · rw [hcreate]
    exact .inl ⟨rfl, hfail⟩
  · have hpair : create nextId junk p.len mallocPacket mallocHead = (some c, nextId + 1) :=
      Prod.ext hcreate hnext
    rw [hpair]
    refine .inr ⟨rfl, _, rfl, ⟨hok.capacity, hok.head, ?_⟩, ?_, hdata, rfl, hcap, rfl, hid, rfl,
      rfl⟩
    · show c.data + p.len.toNat ≤ headroom.toNat + c.capacity.toNat
      rw [hdata, hcap, toNat_headroom]
      exact le_rfl
    · show write c.mem c.data p.visible = _
      rw [hmem, hdata]

theorem visible_clone {c : RawPacket} (hmem : c.mem = write junk 64 p.visible)
    (hdata : c.data = 64) (hlen : c.len = p.len) : c.visible = p.visible := by
  rw [visible, hmem, hdata, hlen, ← p.length_visible]
  exact read_write_self _ _ _

/-! ## The packets of `Network.Packet` -/

/-- A packet within its allocation, without its identifiers and layer. -/
def toPacket (p : RawPacket) (h : p.Ok) : Packet where
  buf := read p.mem 0 (headroom.toNat + p.capacity.toNat)
  data := p.data.toNat
  len := p.len.toNat
  fits := by
    have hhead := h.head
    have htail := h.tail
    rw [length_read]
    omega

theorem toPacket_bytes (h : p.Ok) : (p.toPacket h).bytes = p.visible := by
  have hhead := h.head
  have htail := h.tail
  have hdata : (0 : ℤ) + p.data.toNat = p.data := by omega
  show ((read p.mem 0 (headroom.toNat + p.capacity.toNat)).drop p.data.toNat).take p.len.toNat = _
  rw [drop_read (by omega), take_read (by omega), hdata]
  rfl

theorem toPacket_validateView (h : p.Ok) (requiredHeadroom minimumVisibleLen : UInt64) :
    packetValidateView (p.toPacket h) requiredHeadroom.toNat minimumVisibleLen.toNat = true ↔
      p.validateView requiredHeadroom minimumVisibleLen = 0 := by
  have hhead := h.head
  rw [packetValidateView_iff, h.validateView_iff]
  refine and_congr_left' ?_
  show requiredHeadroom.toNat ≤ p.data.toNat ↔ _
  omega

theorem toPacket_prepend (h : p.Ok) (header : ℤ → UInt8) (n : UInt64) :
    packetPrepend (p.toPacket h) (read header 0 n.toNat) =
      if (p.prepend header n).2 = 0 then
        some ((p.prepend header n).1.toPacket (h.prepend header n)) else none := by
  have hhead := h.head
  have htail := h.tail
  have hlen : (read header 0 n.toNat).length = n.toNat := length_read
  rcases h.prepend_cases header n with ⟨hroom, he⟩ | ⟨hroom, hsum, he⟩
  · have hdata : (p.toPacket h).data < (read header 0 n.toNat).length := by
      rw [hlen]
      show p.data.toNat < _
      omega
    have hfail : (p.prepend header n).2 ≠ 0 := by
      rw [he]
      exact show ¬ (-1 : ℤ) = 0 by decide
    rw [if_neg hfail, packetPrepend, dif_pos hdata]
  · have hdata : ¬ (p.toPacket h).data < (read header 0 n.toNat).length := by
      rw [hlen]
      show ¬ p.data.toNat < _
      omega
    have hok : (p.prepend header n).2 = 0 := by rw [he]
    rw [if_pos hok, packetPrepend, dif_neg hdata, Option.some.injEq, Packet.mk.injEq]
    -- the allocation in its three parts
    have hsplit : headroom.toNat + p.capacity.toNat = (p.data.toNat - n.toNat) +
        (n.toNat + (headroom.toNat + p.capacity.toNat - p.data.toNat)) := by omega
    have hnew : (0 : ℤ) + (p.data.toNat - n.toNat : ℕ) = p.data - n.toNat := by omega
    have hold : p.data - n.toNat + n.toNat = (0 : ℤ) + p.data.toNat := by omega
    have hself := read_write_self p.mem (p.data - n.toNat) (read header 0 n.toNat)
    rw [hlen] at hself
    simp only [he]
    refine ⟨?_, ?_, ?_⟩
    · show (read p.mem 0 (headroom.toNat + p.capacity.toNat)).take (p.data.toNat - _) ++ (_ ++
        (read p.mem 0 (headroom.toNat + p.capacity.toNat)).drop p.data.toNat) =
        read (write p.mem (p.data - n.toNat) (read header 0 n.toNat)) 0
          (headroom.toNat + p.capacity.toNat)
      rw [hlen, take_read (by omega), drop_read (by omega), hsplit, read_add, read_add, hnew, hself,
        hold, read_write_disjoint (by omega), read_write_disjoint (by omega)]
      congr 3
      omega
    · show p.data.toNat - _ = (p.data - n.toNat).toNat
      rw [hlen]
      omega
    · show p.len.toNat + _ = (p.len + n).toNat
      rw [hlen, hsum]

theorem toPacket_strip (h : p.Ok) (n : UInt64) :
    packetStrip (p.toPacket h) n.toNat =
      if (p.strip n).2 = 0 then some ((p.strip n).1.toPacket (h.strip n)) else none := by
  have hhead := h.head
  rcases p.strip_cases n with ⟨hlen, he⟩ | ⟨hlen, hsub, he⟩
  · have hfail : (p.strip n).2 ≠ 0 := by
      rw [he]
      exact show ¬ (-1 : ℤ) = 0 by decide
    have hshort : n.toNat > (p.toPacket h).len := hlen
    rw [if_neg hfail, packetStrip, dif_pos hshort]
  · have hok : (p.strip n).2 = 0 := by rw [he]
    have hlong : ¬ n.toNat > (p.toPacket h).len := Nat.not_lt.mpr hlen
    rw [if_pos hok, packetStrip, dif_neg hlong, Option.some.injEq, Packet.mk.injEq]
    simp only [he]
    refine ⟨rfl, ?_, hsub.symm⟩
    show p.data.toNat + n.toNat = (p.data + n.toNat).toNat
    omega

/-- A new packet whose data area a message fills. -/
theorem toPacket_eq_packetFill (h : p.Ok) {message : List UInt8}
    (hmem : p.mem = write junk 64 message) (hdata : p.data = 64)
    (hcap : p.capacity.toNat = message.length) (hlen : p.len.toNat = message.length) :
    p.toPacket h = packetFill (fun i => junk i) message := by
  have hfresh : (packetCreate (fun i => junk i) message.length).before = read junk 0 64 := by
    show ((List.range (64 + message.length)).map _).take 64 = _
    rw [← List.map_take, List.take_range, Nat.min_eq_left (Nat.le_add_right ..)]
    exact List.map_congr_left fun i _ => by rw [Int.zero_add]
  rw [packetFill, toPacket, Packet.mk.injEq, hfresh, hmem, hcap]
  refine ⟨?_, congrArg Int.toNat hdata, hlen⟩
  rw [toNat_headroom, read_add, read_write_disjoint (by omega)]
  exact congrArg (_ ++ ·) (read_write_self junk 64 message)

theorem toPacket_clone (h : p.Ok) {c : RawPacket} (hc : c.Ok) {nextId : UInt32}
    {mallocPacket mallocHead : Bool}
    (hclone : (clone nextId junk p mallocPacket mallocHead).1 = some c) :
    c.toPacket hc = packetClone (fun i => junk i) (p.toPacket h) := by
  rcases clone_cases nextId junk p mallocPacket mallocHead with
    ⟨hnone, -⟩ | ⟨-, c', hc', -, hmem, hdata, hlen, hcap, -, -, -, -⟩
  · rw [hnone] at hclone
    cases hclone
  · obtain rfl := Option.some.inj (hclone.symm.trans hc')
    rw [packetClone, toPacket_bytes]
    exact toPacket_eq_packetFill hc hmem hdata (by rw [hcap, length_visible])
      (by rw [hlen, length_visible])

end

end RawPacket

end FrameRunner
