import FrameRunner.Network.Ip

/-!
# Masks and prefix lengths (`protocols/ip.c`, `common/ip_utils.h`)

`ip_mask_to_prefix_len` scans a mask from its highest bit and latches the first zero. What
the loop accepts is described bit by bit: ones down to some place and zeros below it. The
masks of `ipv4_prefix_mask` are of that form, and no others are.

Main result:

* `ipMaskToPrefixLen_iff`: the two functions are inverse to each other, and a mask that is
  refused leaves the output alone.
-/

namespace FrameRunner

/-- `ip_mask_to_prefix_len` (lines 291–312) with the byte that `out_prefix_len` points to,
    `none` for a null pointer: the result and the byte afterwards. -/
def ipMaskToPrefixLenOut (mask : UInt32) (outPrefixLen : Option UInt8) : ℤ × Option UInt8 :=
  match outPrefixLen with
  | none => (-1, none)
  | some old =>
    match ipMaskToPrefixLen mask with
    | none => (-1, some old)
    | some prefixLen => (0, some prefixLen)

/-! ## The bits of a mask -/

/-- The test of the loop reads one bit. -/
theorem shiftRight_and_one_ne_zero_iff (mask : UInt32) {bit : ℕ} (h : bit < 32) :
    (mask >>> UInt32.ofNat bit) &&& 1 ≠ 0 ↔ mask.toNat.testBit bit = true := by
  have hshift : (UInt32.ofNat bit).toNat % 32 = bit := by
    rw [UInt32.toNat_ofNat']
    omega
  have hand : ((mask >>> UInt32.ofNat bit) &&& 1).toNat = mask.toNat >>> bit % 2 := by
    rw [UInt32.toNat_and, UInt32.toNat_shiftRight, hshift]
    exact Nat.and_one_is_mod _
  rw [Nat.testBit_eq_decide_div_mod_eq, decide_eq_true_iff, ← Nat.shiftRight_eq_div_pow, ← hand,
    ne_eq, ← UInt32.toNat_inj]
  have hzero : (0 : UInt32).toNat = 0 := rfl
  rw [hzero, hand]
  omega

theorem testBit_eq_false_of_shiftRight {mask : UInt32} {bit : ℕ} (h : bit < 32)
    (hzero : ¬ (mask >>> UInt32.ofNat bit) &&& 1 ≠ 0) : mask.toNat.testBit bit = false :=
  Bool.eq_false_iff.mpr fun hone =>
    hzero ((shiftRight_and_one_ne_zero_iff mask h).mpr hone)

/-- After a zero only zeros are accepted. -/
theorem ipMaskBits_zeros {mask : UInt32} {prefixLen l : UInt8} : ∀ bit ≤ 32,
    ipMaskBits mask bit prefixLen true = some l →
      l = prefixLen ∧ ∀ i < bit, mask.toNat.testBit i = false := by
  intro bit
  induction bit with
  | zero =>
    intro _ h
    cases h
    exact ⟨rfl, fun i hi => absurd hi (Nat.not_lt_zero i)⟩
  | succ bit ih =>
    intro hbit h
    unfold ipMaskBits at h
    by_cases hset : (mask >>> UInt32.ofNat bit) &&& 1 ≠ 0
    · rw [if_pos hset, if_pos rfl] at h
      cases h
    rw [if_neg hset] at h
    obtain ⟨hl, hlow⟩ := ih (by omega) h
    refine ⟨hl, fun i hi => ?_⟩
    rcases Nat.lt_succ_iff_lt_or_eq.mp hi with hi | rfl
    · exact hlow i hi
    · exact testBit_eq_false_of_shiftRight (by omega) hset

/-- What is accepted from `bit` down is a run of ones, counted, and then zeros. -/
theorem ipMaskBits_ones {mask : UInt32} {l : UInt8} (bit : ℕ) : ∀ {prefixLen : UInt8},
    prefixLen.toNat + bit ≤ 32 → ipMaskBits mask bit prefixLen false = some l →
      ∃ k ≤ bit, l.toNat = prefixLen.toNat + k ∧
        ∀ i < bit, mask.toNat.testBit i = decide (bit - k ≤ i) := by
  induction bit with
  | zero =>
    intro prefixLen _ h
    cases h
    exact ⟨0, le_rfl, rfl, fun i hi => absurd hi (Nat.not_lt_zero i)⟩
  | succ bit ih =>
    intro prefixLen hlt h
    unfold ipMaskBits at h
    by_cases hset : (mask >>> UInt32.ofNat bit) &&& 1 ≠ 0
    · -- one more bit of the prefix
      rw [if_pos hset, if_neg Bool.false_ne_true] at h
      have hnext : (prefixLen + 1).toNat = prefixLen.toNat + 1 := by
        rw [UInt8.toNat_add]
        exact Nat.mod_eq_of_lt (by show prefixLen.toNat + 1 < 256; omega)
      obtain ⟨k, hk, hl, hbits⟩ := ih (by omega) h
      refine ⟨k + 1, by omega, by omega, fun i hi => ?_⟩
      rcases Nat.lt_succ_iff_lt_or_eq.mp hi with hi | rfl
      · rw [hbits i hi, Nat.add_sub_add_right]
      · rw [(shiftRight_and_one_ne_zero_iff mask (by omega)).mp hset]
        exact (decide_eq_true (by omega)).symm
    · -- the first zero
      rw [if_neg hset] at h
      obtain ⟨rfl, hlow⟩ := ipMaskBits_zeros bit (by omega) h
      refine ⟨0, by omega, rfl, fun i hi => ?_⟩
      rw [decide_eq_false (by omega : ¬ bit + 1 - 0 ≤ i)]
      rcases Nat.lt_succ_iff_lt_or_eq.mp hi with hi | rfl
      · exact hlow i hi
      · exact testBit_eq_false_of_shiftRight (by omega) hset

/-- The mask of a length has that many ones at the top. -/
theorem testBit_ipv4PrefixMask {n : UInt8} (hn : n ≤ 32) {i : ℕ} (hi : i < 32) :
    (ipv4PrefixMask n).toNat.testBit i = decide (32 - n.toNat ≤ i) := by
  have hn : n.toNat ≤ 32 := UInt8.le_iff_toNat_le.mp hn
  have hones : (0xFFFFFFFF : UInt32).toNat = 2 ^ 32 - 1 := rfl
  unfold ipv4PrefixMask
  split_ifs with hzero hfull
  · have hnone : ¬ 32 - n.toNat ≤ i := by
      rw [hzero]
      exact Nat.not_le.mpr hi
    rw [decide_eq_false hnone]
    exact Nat.zero_testBit i
  · have hfull : 32 ≤ n.toNat := UInt8.le_iff_toNat_le.mp hfull
    rw [hones, Nat.testBit_two_pow_sub_one, decide_eq_true hi, decide_eq_true (by omega)]
  · have hlt : n.toNat < 32 := Nat.not_le.mp fun h => hfull (UInt8.le_iff_toNat_le.mpr h)
    have hpos : n.toNat ≠ 0 := fun h => hzero (UInt8.toNat_inj.mp h)
    have hwide : n.toUInt32.toNat = n.toNat := UInt8.toNat_toUInt32 n
    have hshift : (32 - n.toUInt32).toNat % 32 = 32 - n.toNat := by
      rw [UInt32.toNat_sub_of_le _ _ (UInt32.le_iff_toNat_le.mpr (by rw [hwide]; exact hn)), hwide]
      show (32 - n.toNat) % 32 = _
      omega
    rw [UInt32.toNat_shiftLeft, hshift, hones, Nat.testBit_mod_two_pow, decide_eq_true hi,
      Bool.true_and, Nat.testBit_shiftLeft, Nat.testBit_two_pow_sub_one]
    by_cases hle : 32 - n.toNat ≤ i
    · rw [decide_eq_true hle, decide_eq_true (by omega : i - (32 - n.toNat) < 32)]
      rfl
    · rw [decide_eq_false hle]
      rfl

/-- A mask that is accepted is the mask of its length. -/
theorem eq_ipv4PrefixMask {mask : UInt32} {l : UInt8} (h : ipMaskToPrefixLen mask = some l) :
    mask = ipv4PrefixMask l := by
  have hle : l ≤ 32 := ipMaskToPrefixLen_le h
  obtain ⟨k, hk, hl, hbits⟩ := ipMaskBits_ones 32 (by decide) h
  have hl : l.toNat = k := hl.trans (Nat.zero_add k)
  refine UInt32.toNat_inj.mp (Nat.eq_of_testBit_eq fun i => ?_)
  by_cases hi : i < 32
  · rw [hbits i hi, testBit_ipv4PrefixMask hle hi, hl]
  · have hpow : 2 ^ 32 ≤ 2 ^ i := Nat.pow_le_pow_right (by decide) (Nat.not_lt.mp hi)
    rw [Nat.testBit_lt_two_pow (mask.toNat_lt.trans_le hpow),
      Nat.testBit_lt_two_pow ((ipv4PrefixMask l).toNat_lt.trans_le hpow)]

/-! ## Result -/

/-- A mask has the prefix length `n` exactly if it is the mask of the length `n`, and where
    it has none the output is as before. -/
theorem ipMaskToPrefixLen_iff (mask : UInt32) :
    (∀ old n, ipMaskToPrefixLenOut mask (some old) = (0, some n) ↔
      n ≤ 32 ∧ mask = ipv4PrefixMask n) ∧
    ∀ out, (ipMaskToPrefixLenOut mask out).1 = 0 ∨ ipMaskToPrefixLenOut mask out = (-1, out) := by
  refine ⟨fun old n => ⟨fun h => ?_, ?_⟩, fun out => ?_⟩
  · have hlen : ipMaskToPrefixLen mask = some n := by
      unfold ipMaskToPrefixLenOut at h
      cases hmask : ipMaskToPrefixLen mask with
      | none =>
        rw [hmask] at h
        exact absurd (congrArg Prod.fst h) (show ¬ (-1 : ℤ) = 0 by decide)
      | some l =>
        rw [hmask] at h
        exact congrArg Prod.snd h
    exact ⟨ipMaskToPrefixLen_le hlen, eq_ipv4PrefixMask hlen⟩
  · rintro ⟨hn, rfl⟩
    unfold ipMaskToPrefixLenOut
    rw [ipMaskToPrefixLen_mask hn]
  · cases out with
    | none => exact .inr rfl
    | some old =>
      unfold ipMaskToPrefixLenOut
      cases ipMaskToPrefixLen mask with
      | none => exact .inr rfl
      | some l => exact .inl rfl

/-- The mask of length 0 reads as 0; a mask with a hole is refused and writes nothing. -/
example : ipMaskToPrefixLenOut 0 (some 9) = (0, some 0) ∧
    ipMaskToPrefixLenOut 0xFF00FF00 (some 9) = (-1, some 9) := by decide

end FrameRunner
