import FrameRunner.Common.ByteOrder

/-!
# Packets (`network/packet.c`)

One allocation holds the headroom and the data area; a header is prepended by
moving `data` back and stripped by moving it on, and a stripped header stays
readable before `data`. `fits` says what `packet_validate_view` tests of every
packet: the visible bytes lie within the allocation.
-/

namespace FrameRunner

/-- `PKT_HEADROOM`. -/
def pktHeadroom : ℕ := 64

/-- `Packet`. `buf` is the allocation from `head` on, `data` the offset of the
    current layer in it, and `capacity` is `buf.length - pktHeadroom`. -/
structure Packet where
  buf : List UInt8
  data : ℕ
  len : ℕ
  fits : data + len ≤ buf.length
  deriving DecidableEq, Repr

namespace Packet

/-- The visible bytes, `data[0 .. len-1]`. -/
def bytes (p : Packet) : List UInt8 := (p.buf.drop p.data).take p.len

/-- The bytes from `head` to `data`. -/
def before (p : Packet) : List UInt8 := p.buf.take p.data

/-- The `n` bytes at `data - n`, for a packet with that much headroom. -/
def header (p : Packet) (n : ℕ) : List UInt8 := (p.buf.drop (p.data - n)).take n

@[simp] theorem length_bytes (p : Packet) : p.bytes.length = p.len := by
  have := p.fits
  simp only [bytes, List.length_take, List.length_drop]
  omega

@[simp] theorem length_before (p : Packet) : p.before.length = p.data := by
  have := p.fits
  simp only [before, List.length_take]
  omega

theorem header_eq (p : Packet) {n : ℕ} (hn : n ≤ p.data) :
    p.header n = p.before.drop (p.data - n) := by
  rw [header, before, List.drop_take]
  congr 1
  omega

theorem length_header (p : Packet) {n : ℕ} (hn : n ≤ p.data) : (p.header n).length = n := by
  rw [header_eq p hn, List.length_drop, length_before]
  omega

end Packet

/-- `packet_create` (lines 8–34); `junk` is what the new memory holds. -/
def packetCreate (junk : ℕ → UInt8) (capacity : ℕ) : Packet where
  buf := (List.range (pktHeadroom + capacity)).map junk
  data := pktHeadroom
  len := 0
  fits := by simp

/-- A fresh packet whose data area is filled with `bytes`, as every sender
    fills it before it sets `len`. -/
def packetFill (junk : ℕ → UInt8) (bytes : List UInt8) : Packet where
  buf := (packetCreate junk bytes.length).before ++ bytes
  data := pktHeadroom
  len := bytes.length
  fits := by
    rw [List.length_append, Packet.length_before]
    exact le_rfl

/-- `packet_prepend` (lines 46–58); `none` is `-1`. -/
def packetPrepend (p : Packet) (header : List UInt8) : Option Packet :=
  if h : p.data < header.length then none
  else some {
    buf := p.buf.take (p.data - header.length) ++ (header ++ p.buf.drop p.data)
    data := p.data - header.length
    len := p.len + header.length
    fits := by
      have := p.fits
      simp only [List.length_append, List.length_take, List.length_drop]
      omega }

/-- `packet_strip` (lines 61–71); `none` is `-1`. -/
def packetStrip (p : Packet) (headerLen : ℕ) : Option Packet :=
  if h : headerLen > p.len then none
  else some {
    buf := p.buf
    data := p.data + headerLen
    len := p.len - headerLen
    fits := by have := p.fits; omega }

/-- `packet_validate_view` (lines 73–99). -/
def packetValidateView (p : Packet) (requiredHeadroom minimumVisibleLen : ℕ) : Bool :=
  let allocationSize := p.buf.length
  if requiredHeadroom > allocationSize then false
  else if p.data < requiredHeadroom ∨ p.data > allocationSize then false
  else
    let remaining := allocationSize - p.data
    if p.len > remaining ∨ p.len < minimumVisibleLen then false
    else true

/-- `packet_clone` (lines 101–118): a fresh headroom before a copy of the
    visible bytes. -/
def packetClone (junk : ℕ → UInt8) (p : Packet) : Packet := packetFill junk p.bytes

/-- A store of `bytes` over the first visible bytes. -/
def packetOverwrite (p : Packet) (bytes : List UInt8) : Packet where
  buf := p.before ++ bytes.take p.len ++ p.buf.drop (p.data + (bytes.take p.len).length)
  data := p.data
  len := p.len
  fits := by
    have := p.fits
    simp only [List.length_append, Packet.length_before, List.length_drop]
    have := List.length_take_le p.len bytes
    omega

/-! ## What the operations do to the bytes -/

@[simp] theorem bytes_packetFill (junk : ℕ → UInt8) (bytes : List UInt8) :
    (packetFill junk bytes).bytes = bytes := by
  have h : (packetCreate junk bytes.length).before.length = pktHeadroom := Packet.length_before _
  simp [Packet.bytes, packetFill, ← h]

@[simp] theorem data_packetFill (junk : ℕ → UInt8) (bytes : List UInt8) :
    (packetFill junk bytes).data = pktHeadroom := rfl

@[simp] theorem len_packetFill (junk : ℕ → UInt8) (bytes : List UInt8) :
    (packetFill junk bytes).len = bytes.length := rfl

theorem packetValidateView_iff {p : Packet} {n m : ℕ} :
    packetValidateView p n m = true ↔ n ≤ p.data ∧ m ≤ p.len := by
  have := p.fits
  simp only [packetValidateView]
  split_ifs <;> simp <;> omega

/-- A header is prepended wherever there is room for it. -/
theorem packetPrepend_eq_some {p p' : Packet} {header : List UInt8}
    (h : packetPrepend p header = some p') :
    header.length ≤ p.data ∧ p'.data = p.data - header.length ∧ p'.bytes = header ++ p.bytes := by
  unfold packetPrepend at h
  split at h
  · exact absurd h (by simp)
  · rename_i hroom
    have hlen : (p.buf.take (p.data - header.length)).length = p.data - header.length := by
      have := p.fits
      simp only [List.length_take]
      omega
    cases h
    refine ⟨by omega, rfl, ?_⟩
    simp only [Packet.bytes]
    rw [List.drop_append_of_le_length (by omega), List.drop_of_length_le (by omega),
      List.nil_append, Nat.add_comm p.len, List.take_length_add_append]

theorem packetPrepend_isSome {p : Packet} {header : List UInt8} (h : header.length ≤ p.data) :
    ∃ p', packetPrepend p header = some p' := by
  simp [packetPrepend, Nat.not_lt.mpr h]

/-- A stripped header stays readable before the new `data`. -/
theorem packetStrip_eq_some {p p' : Packet} {n : ℕ} (h : packetStrip p n = some p') :
    n ≤ p.len ∧ p'.data = p.data + n ∧ p'.len = p.len - n ∧ p'.bytes = p.bytes.drop n ∧
      p'.header n = p.bytes.take n := by
  unfold packetStrip at h
  split at h
  · exact absurd h (by simp)
  · rename_i hn
    cases h
    refine ⟨by omega, rfl, rfl, ?_, ?_⟩
    · simp [Packet.bytes, List.drop_take, List.drop_drop]
    · simp only [Packet.header, Packet.bytes, Nat.add_sub_cancel, List.take_take]
      congr 1
      omega

theorem packetStrip_isSome {p : Packet} {n : ℕ} (h : n ≤ p.len) :
    ∃ p', packetStrip p n = some p' := by
  simp [packetStrip, Nat.not_lt.mpr h]

end FrameRunner
