import Mathlib.Tactic

/-!
# IPv4 prefixes (`common/ip_utils.h`)

`ipv4PrefixMask` is the code's mask of a prefix length. `PrefixContains` is
what a prefix means: the addresses whose leading bits are the prefix.
-/

namespace FrameRunner

/-- `ipv4_prefix_mask` (`ip_utils.h`, lines 13–24). -/
def ipv4PrefixMask (prefixLen : UInt8) : UInt32 :=
  if prefixLen = 0 then 0
  else if prefixLen ≥ 32 then 0xFFFFFFFF
  else 0xFFFFFFFF <<< (32 - prefixLen.toUInt32)

/-- The prefix `pfx/prefixLen` contains the host-order address `ip`. -/
def PrefixContains (pfx : UInt32) (prefixLen : UInt8) (ip : UInt32) : Prop :=
  ip &&& ipv4PrefixMask prefixLen = pfx

instance (pfx : UInt32) (prefixLen : UInt8) (ip : UInt32) :
    Decidable (PrefixContains pfx prefixLen ip) :=
  inferInstanceAs (Decidable (_ = _))

/-- No bit of `pfx` lies outside the mask of its length. -/
def PrefixNormalized (pfx : UInt32) (prefixLen : UInt8) : Prop :=
  pfx &&& ipv4PrefixMask prefixLen = pfx

theorem prefixNormalized_mask (pfx : UInt32) (prefixLen : UInt8) :
    PrefixNormalized (pfx &&& ipv4PrefixMask prefixLen) prefixLen := by
  simp [PrefixNormalized, UInt32.and_assoc]

/-- Two prefixes of one length with a common address are the same prefix. -/
theorem PrefixContains.unique {p q : UInt32} {l : UInt8} {ip : UInt32}
    (hp : PrefixContains p l ip) (hq : PrefixContains q l ip) : p = q :=
  hp.symm.trans hq

@[simp] theorem ipv4PrefixMask_32 : ipv4PrefixMask 32 = 0xFFFFFFFF := rfl

theorem and_ipv4PrefixMask_32 (ip : UInt32) : ip &&& ipv4PrefixMask 32 = ip := by
  apply UInt32.toNat_inj.mp
  rw [ipv4PrefixMask_32, UInt32.toNat_and]
  have h : (0xFFFFFFFF : UInt32).toNat = 2 ^ 32 - 1 := rfl
  rw [h, Nat.and_two_pow_sub_one_eq_mod]
  exact Nat.mod_eq_of_lt ip.toNat_lt

end FrameRunner
