import FrameRunner.Common.ByteOrder
import Mathlib.Data.Nat.ModEq

/-!
# The Internet checksum

The sum of the 16-bit words of a message, with its carries folded back in, and
the complement of it. `foldCarries_eq` gives the fold in closed form: the residue
modulo `2^16 - 1`, where only the sum 0 has the residue 0. From it:

* `onesComplement_add`: a message whose checksum field holds the complement of the sum of
  the rest has checksum 0, also where the sum has wrapped around `2^32`.
* `onesComplement_eq_zero_iff`: which messages have checksum 0.
* `onesComplement_swap`: sums that are taken in the other byte order have the checksum in
  the other byte order.
-/

namespace FrameRunner

/-- The sum of the words in network byte order; an odd last byte is the high
    byte of a word. -/
def wordSum : List UInt8 → ℕ
  | [] => 0
  | [a] => a.toNat * 256
  | a :: b :: rest => a.toNat * 256 + b.toNat + wordSum rest

/-- `while (sum >> 16) sum = (sum & 0xFFFF) + (sum >> 16)`, at most `rounds`
    times. -/
def foldCarries : ℕ → ℕ → ℕ
  | 0, sum => sum
  | rounds + 1, sum =>
    if sum / 65536 = 0 then sum else foldCarries rounds (sum % 65536 + sum / 65536)

/-- `(uint16_t)~sum` after the folding loop on a `uint32_t`, which ends within two
    rounds (`foldCarries_lt`). -/
def onesComplement (sum : ℕ) : UInt16 := ~~~UInt16.ofNat (foldCarries 2 (sum % 2 ^ 32))

/-! ## Sums -/

@[simp] theorem wordSum_nil : wordSum [] = 0 := rfl

@[simp] theorem wordSum_cons_cons (a b : UInt8) (rest : List UInt8) :
    wordSum (a :: b :: rest) = a.toNat * 256 + b.toNat + wordSum rest := rfl

@[simp] theorem wordSum_be16_append (x : UInt16) (rest : List UInt8) :
    wordSum (be16 x ++ rest) = x.toNat + wordSum rest := by
  have hx := x.toNat_lt
  simp only [be16, List.cons_append, List.nil_append, wordSum_cons_cons, UInt8.toNat_ofNat']
  omega

/-- What follows an even number of bytes starts with a new word. -/
theorem wordSum_append {pre : List UInt8} (hpre : 2 ∣ pre.length) (rest : List UInt8) :
    wordSum (pre ++ rest) = wordSum pre + wordSum rest := by
  induction pre using wordSum.induct with
  | case1 => rw [List.nil_append, wordSum_nil, Nat.zero_add]
  | case2 a =>
    rw [List.length_singleton] at hpre
    omega
  | case3 a b pre ih =>
    have hrest : 2 ∣ pre.length := by
      simp only [List.length_cons] at hpre
      omega
    rw [List.cons_append, List.cons_append, wordSum_cons_cons, wordSum_cons_cons, ih hrest]
    omega

/-- The words of an even number of bytes add up to less than `2^16` each. -/
theorem wordSum_le (bytes : List UInt8) : wordSum bytes ≤ 65535 * ((bytes.length + 1) / 2) := by
  induction bytes using wordSum.induct with
  | case1 => simp
  | case2 a =>
    have ha := a.toNat_lt
    simp only [wordSum, List.length_singleton]
    omega
  | case3 a b rest ih =>
    have ha := a.toNat_lt
    have hb := b.toNat_lt
    simp only [wordSum_cons_cons, List.length_cons]
    omega

/-! ## The fold -/

theorem foldCarries_eq {sum : ℕ} (h : sum < 2 ^ 32) :
    foldCarries 2 sum = if sum = 0 then 0 else (sum - 1) % 65535 + 1 := by
  simp only [foldCarries]
  split_ifs <;> omega

theorem foldCarries_lt {sum : ℕ} (h : sum < 2 ^ 32) : foldCarries 2 sum < 65536 := by
  rw [foldCarries_eq h]
  split_ifs <;> omega

theorem toNat_onesComplement {sum : ℕ} (h : sum < 2 ^ 32) :
    (onesComplement sum).toNat = 65535 - foldCarries 2 sum := by
  have hlt := foldCarries_lt h
  rw [onesComplement, Nat.mod_eq_of_lt h, UInt16.toNat_not, UInt16.toNat_ofNat',
    Nat.mod_eq_of_lt hlt]
  rfl

/-! ## Checksums -/

theorem onesComplement_mod (sum : ℕ) : onesComplement (sum % 2 ^ 32) = onesComplement sum := by
  rw [onesComplement, Nat.mod_mod, onesComplement]

/-- The messages with checksum 0. -/
theorem onesComplement_eq_zero_iff {sum : ℕ} (h : sum < 2 ^ 32) :
    onesComplement sum = 0 ↔ 0 < sum ∧ 65535 ∣ sum := by
  rw [← UInt16.toNat_inj, toNat_onesComplement h, foldCarries_eq h, UInt16.toNat_zero]
  by_cases h0 : sum = 0
  · rw [if_pos h0]
    omega
  · rw [if_neg h0]
    constructor
    · intro hzero
      omega
    · intro hdvd
      omega

/-- The checksum of a message that carries its own checksum is 0. The complement only
    brings the sum up to a multiple of `2^16 - 1`, and `2^32 - 1` is one, so that a sum
    that has wrapped does not wrap a second time. -/
theorem onesComplement_add (sum : ℕ) :
    onesComplement (sum + (onesComplement sum).toNat) = 0 := by
  have hlow : sum % 2 ^ 32 < 2 ^ 32 := Nat.mod_lt _ (by decide)
  have hc := toNat_onesComplement hlow
  have hf := foldCarries_eq hlow
  rw [onesComplement_mod] at hc
  have hsum : (sum + (onesComplement sum).toNat) % 2 ^ 32 =
      sum % 2 ^ 32 + (onesComplement sum).toNat := by
    split_ifs at hf <;> omega
  have hlt : sum % 2 ^ 32 + (onesComplement sum).toNat < 2 ^ 32 := by
    split_ifs at hf <;> omega
  rw [← onesComplement_mod, hsum, onesComplement_eq_zero_iff hlt, hc]
  split_ifs at hf <;> omega

/-- The same words added up in the other byte order. -/
theorem onesComplement_swap {sum sum' : ℕ} (h : sum < 2 ^ 32) (h' : sum' < 2 ^ 32)
    (hzero : sum = 0 ↔ sum' = 0) (hswap : sum ≡ 256 * sum' [MOD 65535]) :
    onesComplement sum = nsBswap16 (onesComplement sum') := by
  have hmod : sum % 65535 = 256 * sum' % 65535 := hswap
  rw [← UInt16.toNat_inj, toNat_nsBswap16, toNat_onesComplement h, toNat_onesComplement h',
    foldCarries_eq h, foldCarries_eq h']
  by_cases h0 : sum = 0
  · rw [if_pos h0, if_pos (hzero.mp h0)]
  · rw [if_neg h0, if_neg fun h0' => h0 (hzero.mpr h0')]
    -- the folded sums, which are residues from 1 on
    have hr : ((sum - 1) % 65535 + 1) % 65535 = 256 * ((sum' - 1) % 65535 + 1) % 65535 := by
      omega
    have hlt : (sum - 1) % 65535 < 65535 := Nat.mod_lt _ (by decide)
    have hlt' : (sum' - 1) % 65535 < 65535 := Nat.mod_lt _ (by decide)
    generalize (sum - 1) % 65535 = r at hr hlt
    generalize (sum' - 1) % 65535 = r' at hr hlt'
    omega

end FrameRunner
