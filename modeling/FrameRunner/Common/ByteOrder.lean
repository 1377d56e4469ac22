import Mathlib.Tactic

/-!
# Network byte order (`common/byte_order.h`)

The packed C headers hold their fields in network byte order; a field is
written through `ns_hton*` and read through `ns_ntoh*`. On bytes this is the
big-endian encoding: `be16` and `be32` write a field, `getU16` and `getU32`
read the one at an offset. `nsBswap16` is the swap itself, for code that works on the
words as the host loads them.
-/

namespace FrameRunner

/-- `ns_bswap16` (lines 20–23), which is `ns_htons` and `ns_ntohs` on a little-endian host. -/
def nsBswap16 (x : UInt16) : UInt16 := x <<< 8 ||| x >>> 8

/-- The bytes of a `uint16_t` field written as `ns_htons(x)`. -/
def be16 (x : UInt16) : List UInt8 := [UInt8.ofNat (x.toNat / 256), UInt8.ofNat x.toNat]

/-- The bytes of a `uint32_t` field written as `ns_htonl(x)`. -/
def be32 (x : UInt32) : List UInt8 :=
  [UInt8.ofNat (x.toNat / 16777216), UInt8.ofNat (x.toNat / 65536), UInt8.ofNat (x.toNat / 256),
    UInt8.ofNat x.toNat]

/-- The byte at offset `i`; reads are made within bounds only. -/
def getU8 (bytes : List UInt8) (i : ℕ) : UInt8 := bytes.getD i 0

/-- `ns_ntohs` of the `uint16_t` field at offset `i`. -/
def getU16 (bytes : List UInt8) (i : ℕ) : UInt16 :=
  UInt16.ofNat ((getU8 bytes i).toNat * 256 + (getU8 bytes (i + 1)).toNat)

/-- `ns_ntohl` of the `uint32_t` field at offset `i`. -/
def getU32 (bytes : List UInt8) (i : ℕ) : UInt32 :=
  UInt32.ofNat ((getU8 bytes i).toNat * 16777216 + (getU8 bytes (i + 1)).toNat * 65536 +
    (getU8 bytes (i + 2)).toNat * 256 + (getU8 bytes (i + 3)).toNat)

@[simp] theorem length_be16 (x : UInt16) : (be16 x).length = 2 := rfl

@[simp] theorem length_be32 (x : UInt32) : (be32 x).length = 4 := rfl

theorem toNat_nsBswap16 (x : UInt16) :
    (nsBswap16 x).toNat = x.toNat % 256 * 256 + x.toNat / 256 := by
  have hx := x.toNat_lt
  have hshift : (8 : UInt16).toNat % 16 = 8 := rfl
  have hleft : x.toNat <<< 8 % 2 ^ 16 = (x.toNat % 256) <<< 8 := by
    rw [Nat.shiftLeft_eq, Nat.shiftLeft_eq]
    omega
  have hlow : x.toNat / 256 < 2 ^ 8 := by omega
  rw [nsBswap16, UInt16.toNat_or, UInt16.toNat_shiftLeft, UInt16.toNat_shiftRight, hshift, hleft,
    Nat.shiftRight_eq_div_pow, ← Nat.shiftLeft_add_eq_or_of_lt hlow, Nat.shiftLeft_eq]

theorem getU8_append (pre rest : List UInt8) (b : UInt8) {i : ℕ} (hi : i = pre.length) :
    getU8 (pre ++ b :: rest) i = b := by
  subst hi
  simp [getU8, List.getD_eq_getElem?_getD]

/-- A 16-bit field reads back as it was written. -/
theorem getU16_append (pre rest : List UInt8) (x : UInt16) {i : ℕ} (hi : i = pre.length) :
    getU16 (pre ++ (be16 x ++ rest)) i = x := by
  have hx := x.toNat_lt
  have h0 : getU8 (pre ++ (be16 x ++ rest)) i = UInt8.ofNat (x.toNat / 256) :=
    getU8_append pre _ _ hi
  have h1 : getU8 (pre ++ (be16 x ++ rest)) (i + 1) = UInt8.ofNat x.toNat := by
    have := getU8_append (pre ++ [UInt8.ofNat (x.toNat / 256)]) rest (UInt8.ofNat x.toNat)
      (i := i + 1) (by simp [hi])
    simpa [be16] using this
  apply UInt16.toNat_inj.mp
  simp only [getU16, h0, h1, UInt8.toNat_ofNat', UInt16.toNat_ofNat']
  omega

/-- A 32-bit field reads back as it was written. -/
theorem getU32_append (pre rest : List UInt8) (x : UInt32) {i : ℕ} (hi : i = pre.length) :
    getU32 (pre ++ (be32 x ++ rest)) i = x := by
  have hx := x.toNat_lt
  have h0 : getU8 (pre ++ (be32 x ++ rest)) i = UInt8.ofNat (x.toNat / 16777216) :=
    getU8_append pre _ _ hi
  have h1 : getU8 (pre ++ (be32 x ++ rest)) (i + 1) = UInt8.ofNat (x.toNat / 65536) := by
    have := getU8_append (pre ++ (be32 x).take 1) ((be32 x).drop 2 ++ rest)
      (UInt8.ofNat (x.toNat / 65536)) (i := i + 1) (by simp [hi])
    simpa [be32] using this
  have h2 : getU8 (pre ++ (be32 x ++ rest)) (i + 2) = UInt8.ofNat (x.toNat / 256) := by
    have := getU8_append (pre ++ (be32 x).take 2) ((be32 x).drop 3 ++ rest)
      (UInt8.ofNat (x.toNat / 256)) (i := i + 2) (by simp [hi])
    simpa [be32] using this
  have h3 : getU8 (pre ++ (be32 x ++ rest)) (i + 3) = UInt8.ofNat x.toNat := by
    have := getU8_append (pre ++ (be32 x).take 3) rest (UInt8.ofNat x.toNat)
      (i := i + 3) (by simp [hi])
    simpa [be32] using this
  apply UInt32.toNat_inj.mp
  simp only [getU32, h0, h1, h2, h3, UInt8.toNat_ofNat', UInt32.toNat_ofNat']
  omega

/-! ## Fields of the rest of a packet -/

theorem getU8_drop (bytes : List UInt8) (i k : ℕ) :
    getU8 (bytes.drop i) k = getU8 bytes (i + k) := by
  simp [getU8, List.getD_eq_getElem?_getD]

theorem getU16_drop (bytes : List UInt8) (i k : ℕ) :
    getU16 (bytes.drop i) k = getU16 bytes (i + k) := by
  simp only [getU16, getU8_drop, ← Nat.add_assoc]

theorem getU32_drop (bytes : List UInt8) (i k : ℕ) :
    getU32 (bytes.drop i) k = getU32 bytes (i + k) := by
  simp only [getU32, getU8_drop, ← Nat.add_assoc]

theorem getU8_of_drop {bytes rest : List UInt8} {i : ℕ} {b : UInt8}
    (h : bytes.drop i = b :: rest) : getU8 bytes i = b := by
  rw [← Nat.add_zero i, ← getU8_drop, h]
  rfl

theorem getU16_of_drop {bytes rest : List UInt8} {i : ℕ} {x : UInt16}
    (h : bytes.drop i = be16 x ++ rest) : getU16 bytes i = x := by
  rw [← Nat.add_zero i, ← getU16_drop, h]
  exact getU16_append [] rest x rfl

theorem getU32_of_drop {bytes rest : List UInt8} {i : ℕ} {x : UInt32}
    (h : bytes.drop i = be32 x ++ rest) : getU32 bytes i = x := by
  rw [← Nat.add_zero i, ← getU32_drop, h]
  exact getU32_append [] rest x rfl

/-! ## Fields of the first bytes of a packet -/

theorem getU8_take (bytes : List UInt8) {i n : ℕ} (h : i < n) :
    getU8 (bytes.take n) i = getU8 bytes i := by
  simp [getU8, List.getD_eq_getElem?_getD, h]

theorem getU16_take (bytes : List UInt8) {i n : ℕ} (h : i + 2 ≤ n) :
    getU16 (bytes.take n) i = getU16 bytes i := by
  rw [getU16, getU8_take bytes (by omega), getU8_take bytes (by omega), getU16]

theorem getU32_take (bytes : List UInt8) {i n : ℕ} (h : i + 4 ≤ n) :
    getU32 (bytes.take n) i = getU32 bytes i := by
  rw [getU32, getU8_take bytes (by omega), getU8_take bytes (by omega),
    getU8_take bytes (by omega), getU8_take bytes (by omega), getU32]

/-! ## Every field is the encoding of what is read there -/

theorem drop_eq_getU8 {bytes : List UInt8} {i : ℕ} (h : i < bytes.length) :
    bytes.drop i = getU8 bytes i :: bytes.drop (i + 1) := by
  rw [List.drop_eq_getElem_cons h]
  simp [getU8, List.getD_eq_getElem?_getD, List.getElem?_eq_getElem h]

/-- A 16-bit field is the encoding of its value. -/
theorem drop_eq_be16 {bytes : List UInt8} {i : ℕ} (h : i + 2 ≤ bytes.length) :
    bytes.drop i = be16 (getU16 bytes i) ++ bytes.drop (i + 2) := by
  have h0 := (getU8 bytes i).toNat_lt
  have h1 := (getU8 bytes (i + 1)).toNat_lt
  have hval : (getU16 bytes i).toNat =
      (getU8 bytes i).toNat * 256 + (getU8 bytes (i + 1)).toNat := by
    simp only [getU16, UInt16.toNat_ofNat']
    omega
  have e0 : UInt8.ofNat ((getU16 bytes i).toNat / 256) = getU8 bytes i := by
    apply UInt8.toNat_inj.mp
    simp only [UInt8.toNat_ofNat', hval]
    omega
  have e1 : UInt8.ofNat (getU16 bytes i).toNat = getU8 bytes (i + 1) := by
    apply UInt8.toNat_inj.mp
    simp only [UInt8.toNat_ofNat', hval]
    omega
  rw [drop_eq_getU8 (by omega : i < bytes.length), drop_eq_getU8 (by omega : i + 1 < bytes.length),
    be16, e0, e1]
  rfl

/-- A 32-bit field is the encoding of its value. -/
theorem drop_eq_be32 {bytes : List UInt8} {i : ℕ} (h : i + 4 ≤ bytes.length) :
    bytes.drop i = be32 (getU32 bytes i) ++ bytes.drop (i + 4) := by
  have h0 := (getU8 bytes i).toNat_lt
  have h1 := (getU8 bytes (i + 1)).toNat_lt
  have h2 := (getU8 bytes (i + 2)).toNat_lt
  have h3 := (getU8 bytes (i + 3)).toNat_lt
  have hval : (getU32 bytes i).toNat =
      (getU8 bytes i).toNat * 16777216 + (getU8 bytes (i + 1)).toNat * 65536 +
        (getU8 bytes (i + 2)).toNat * 256 + (getU8 bytes (i + 3)).toNat := by
    simp only [getU32, UInt32.toNat_ofNat']
    omega
  have e0 : UInt8.ofNat ((getU32 bytes i).toNat / 16777216) = getU8 bytes i := by
    apply UInt8.toNat_inj.mp
    simp only [UInt8.toNat_ofNat', hval]
    omega
  have e1 : UInt8.ofNat ((getU32 bytes i).toNat / 65536) = getU8 bytes (i + 1) := by
    apply UInt8.toNat_inj.mp
    simp only [UInt8.toNat_ofNat', hval]
    omega
  have e2 : UInt8.ofNat ((getU32 bytes i).toNat / 256) = getU8 bytes (i + 2) := by
    apply UInt8.toNat_inj.mp
    simp only [UInt8.toNat_ofNat', hval]
    omega
  have e3 : UInt8.ofNat (getU32 bytes i).toNat = getU8 bytes (i + 3) := by
    apply UInt8.toNat_inj.mp
    simp only [UInt8.toNat_ofNat', hval]
    omega
  rw [drop_eq_getU8 (by omega : i < bytes.length), drop_eq_getU8 (by omega : i + 1 < bytes.length),
    drop_eq_getU8 (by omega : i + 1 + 1 < bytes.length),
    drop_eq_getU8 (by omega : i + 1 + 1 + 1 < bytes.length), be32, e0, e1, e2, e3]
  rfl

/-! ## Reads that stay within bounds -/

/-- Read the field of `n` bytes at offset `i`, or stop when it does not lie in
    `bytes`. -/
def readWithin {α : Type} (get : List UInt8 → ℕ → α) (n : ℕ) (bytes : List UInt8) (i : ℕ) :
    Option α :=
  if i + n ≤ bytes.length then some (get bytes i) else none

theorem readWithin_eq {α : Type} {get : List UInt8 → ℕ → α} {n : ℕ} {bytes : List UInt8} {i : ℕ}
    (h : i + n ≤ bytes.length) : readWithin get n bytes i = some (get bytes i) := if_pos h

end FrameRunner
