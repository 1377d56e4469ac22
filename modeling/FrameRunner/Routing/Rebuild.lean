import FrameRunner.Routing.RouteTable
import Mathlib.Data.Prod.Lex

/-!
# The FIB rebuild

`route_table_rebuild_fib` scans the RIB once and keeps, in the FIB, the best
entry seen so far for each `(prefix, prefix_len)`. `RebuildInv t₀ k` is what
holds after `k` rounds on the table `t₀`; `rebuildInv_step` is one round and
`routeTableRebuildFib_inv` the whole rebuild, from any table whatever.
-/

namespace FrameRunner

open FrameRunner.Lib

/-! ## Preference between candidates -/

/-- Preference: administrative distance, then metric, then sequence number,
    then RIB slot; the least candidate wins. -/
def routeRank (e : RouteRibEntry) (i : Fin routeRibSize) : ℕ ×ₗ (ℕ ×ₗ (ℕ ×ₗ ℕ)) :=
  toLex (routeAdminDistance e.proto, toLex (e.metric.toNat, toLex (e.sequence.toNat, i.val)))

/-- A later candidate replaces the winner exactly when its rank is lower. -/
theorem routeReplaces_iff {a b : RouteRibEntry} {i c : Fin routeRibSize} (h : c < i) :
    routeReplaces a b = true ↔ routeRank a i < routeRank b c := by
  have hci : ¬ i.val < c.val := by omega
  simp only [routeReplaces, routeRank, Prod.Lex.toLex_lt_toLex, hci, and_false, or_false,
    UInt32.lt_iff_toNat_lt, ← UInt32.toNat_inj]
  split_ifs <;> simp <;> omega

/-- The entry without its `selected` mark, which is all a rebuild changes. -/
def RouteRibEntry.core (e : RouteRibEntry) : RouteRibEntry := { e with selected := false }

@[simp] theorem RouteRibEntry.core_selected (e : RouteRibEntry) (b : Bool) :
    RouteRibEntry.core { e with selected := b } = e.core := rfl

/-- Entries with one core agree on every field but `selected`. -/
theorem RouteRibEntry.core_eq_iff {a b : RouteRibEntry} :
    a.core = b.core ↔ a.pfx = b.pfx ∧ a.prefixLen = b.prefixLen ∧ a.proto = b.proto ∧
      a.valid = b.valid ∧ a.nextHop = b.nextHop ∧ a.iface = b.iface ∧ a.metric = b.metric ∧
      a.sequence = b.sequence := by
  cases a; cases b; simp [RouteRibEntry.core]

theorem RouteRibEntry.toFib_congr {a b : RouteRibEntry} (h : a.core = b.core)
    (i : Fin routeRibSize) : a.toFib i = b.toFib i := by
  obtain ⟨h1, h2, h3, -, h5, h6, h7, -⟩ := core_eq_iff.mp h
  simp [RouteRibEntry.toFib, *]

theorem routeRank_congr {a b : RouteRibEntry} (h : a.core = b.core) (i : Fin routeRibSize) :
    routeRank a i = routeRank b i := by
  obtain ⟨-, -, h3, -, -, -, h7, h8⟩ := RouteRibEntry.core_eq_iff.mp h
  simp [routeRank, *]

/-- `e` is a candidate for the FIB group `f`: same prefix and length. -/
def SameGroup (f : RouteFibEntry) (e : RouteRibEntry) : Prop :=
  f.pfx = e.pfx ∧ f.prefixLen = e.prefixLen

@[simp] theorem sameGroup_toFib {e e' : RouteRibEntry} {i : Fin routeRibSize} :
    SameGroup (e.toFib i) e' ↔ e.pfx = e'.pfx ∧ e.prefixLen = e'.prefixLen := Iff.rfl

/-! ## The invariant of the scan -/

/-- After `k` rounds of the rebuild of `t₀`, in terms of the unmarked entries
    of `t₀`. -/
structure RebuildInv (t₀ : RouteTable) (k : ℕ) (t : RouteTable) : Prop where
  /-- only the marks of the RIB change -/
  core : ∀ i, (t.rib i).core = (t₀.rib i).core
  ribCount : t.ribCount = t₀.ribCount
  nextSequence : t.nextSequence = t₀.nextSequence
  /-- a FIB entry is the copy of a scanned valid RIB entry -/
  sound : ∀ j, (t.fib j).valid = true → (t.fib j).ribIndex.val < k ∧
    (t₀.rib (t.fib j).ribIndex).valid = true ∧
    t.fib j = (t₀.rib (t.fib j).ribIndex).toFib (t.fib j).ribIndex
  /-- no group has two FIB entries -/
  distinct : ∀ j j', (t.fib j).valid = true → (t.fib j').valid = true →
    (t.fib j).pfx = (t.fib j').pfx → (t.fib j).prefixLen = (t.fib j').prefixLen → j = j'
  /-- every scanned group has one -/
  cover : ∀ i, i.val < k → (t₀.rib i).valid = true →
    ∃ j, (t.fib j).valid = true ∧ SameGroup (t.fib j) (t₀.rib i)
  /-- which is the best of the group so far -/
  best : ∀ j i, (t.fib j).valid = true → i.val < k → (t₀.rib i).valid = true →
    SameGroup (t.fib j) (t₀.rib i) →
    routeRank (t₀.rib (t.fib j).ribIndex) (t.fib j).ribIndex ≤ routeRank (t₀.rib i) i
  /-- and is marked, no other valid entry is -/
  marked : ∀ i, (t₀.rib i).valid = true →
    ((t.rib i).selected = true ↔ ∃ j, (t.fib j).valid = true ∧ (t.fib j).ribIndex = i)
  unmarked : ∀ i, (t₀.rib i).valid = false → (t.rib i).selected = (t₀.rib i).selected
  few : Slots.count RouteFibEntry.valid t.fib ≤ k
  fibCount : t.fibCount = Slots.count RouteFibEntry.valid t.fib

theorem rebuildInv_clear (t₀ : RouteTable) : RebuildInv t₀ 0 (rebuildClear t₀) where
  core i := by simp only [rebuildClear]; split_ifs <;> simp
  ribCount := rfl
  nextSequence := rfl
  sound j h := by simp [rebuildClear] at h
  distinct j j' h := by simp [rebuildClear] at h
  cover i h := by omega
  best j i h := by simp [rebuildClear] at h
  marked i h := by simp [rebuildClear, h]
  unmarked i h := by simp [rebuildClear, h]
  few := by simp [rebuildClear, Slots.count]
  fibCount := by simp [rebuildClear, Slots.count]

namespace RebuildInv

variable {t₀ t : RouteTable} {k : ℕ}

theorem valid_eq (I : RebuildInv t₀ k t) (i : Fin routeRibSize) :
    (t.rib i).valid = (t₀.rib i).valid :=
  (RouteRibEntry.core_eq_iff.mp (I.core i)).2.2.2.1

theorem toFib_eq (I : RebuildInv t₀ k t) (i : Fin routeRibSize) :
    (t.rib i).toFib i = (t₀.rib i).toFib i :=
  RouteRibEntry.toFib_congr (I.core i) i

theorem key_eq (I : RebuildInv t₀ k t) (i : Fin routeRibSize) :
    (t.rib i).pfx = (t₀.rib i).pfx ∧ (t.rib i).prefixLen = (t₀.rib i).prefixLen :=
  ⟨(RouteRibEntry.core_eq_iff.mp (I.core i)).1, (RouteRibEntry.core_eq_iff.mp (I.core i)).2.1⟩

section
variable {i : Fin routeRibSize} {j : Fin routeFibSize}

/-- A slot of the RIB that no FIB entry answers for yet is skipped when it is
    not valid. -/
theorem skip (I : RebuildInv t₀ i t) (hi : (t₀.rib i).valid = false) :
    RebuildInv t₀ (i + 1) t := by
  have hne : ∀ x, (t₀.rib x).valid = true → x ≠ i := by
    rintro x hx rfl
    rw [hi] at hx
    cases hx
  exact { I with
    sound := fun y hy => ⟨Nat.lt_succ_of_lt (I.sound y hy).1, (I.sound y hy).2⟩
    cover := fun x hx hv => I.cover x (Slots.lt_of_lt_succ_of_ne hx (hne x hv)) hv
    best := fun y x hy hx hv hg => I.best y x hy (Slots.lt_of_lt_succ_of_ne hx (hne x hv)) hv hg
    few := Nat.le_succ_of_le I.few }

/-- The candidate `i` loses to the entry `j` of its group. -/
theorem keep (I : RebuildInv t₀ i t) (hj : (t.fib j).valid = true)
    (hg : SameGroup (t.fib j) (t₀.rib i))
    (hle : routeRank (t₀.rib (t.fib j).ribIndex) (t.fib j).ribIndex ≤ routeRank (t₀.rib i) i) :
    RebuildInv t₀ (i + 1) t :=
  { I with
    sound := fun y hy => ⟨Nat.lt_succ_of_lt (I.sound y hy).1, (I.sound y hy).2⟩
    cover := fun x hx hv => by
      by_cases hxi : x = i
      · exact hxi ▸ ⟨j, hj, hg⟩
      · exact I.cover x (Slots.lt_of_lt_succ_of_ne hx hxi) hv
    best := fun y x hy hx hv hg' => by
      by_cases hxi : x = i
      · subst hxi
        -- the group has only one FIB entry
        obtain rfl : y = j := I.distinct y j hy hj (hg'.1.trans hg.1.symm) (hg'.2.trans hg.2.symm)
        exact hle
      · exact I.best y x hy (Slots.lt_of_lt_succ_of_ne hx hxi) hv hg'
    few := Nat.le_succ_of_le I.few }

end

end RebuildInv

/-! ## A candidate that wins -/

/-- `fib` holds the candidate `i` in slot `j`, and its group nowhere else. -/
structure RebuildStored (t₀ t : RouteTable) (i : Fin routeRibSize) (j : Fin routeFibSize)
    (fib : Slots routeFibSize RouteFibEntry) : Prop where
  self : fib j = (t₀.rib i).toFib i
  other : ∀ y, y ≠ j → fib y = t.fib y
  fresh : ∀ y, y ≠ j → (t.fib y).valid = true → ¬ SameGroup (t.fib y) (t₀.rib i)

section
variable {t₀ t : RouteTable} {i : Fin routeRibSize} {j : Fin routeFibSize}
  {fib : Slots routeFibSize RouteFibEntry}

theorem RebuildInv.stored (I : RebuildInv t₀ i t)
    (hfresh : ∀ y, y ≠ j → (t.fib y).valid = true → ¬ SameGroup (t.fib y) (t₀.rib i)) :
    RebuildStored t₀ t i j (Function.update t.fib j ((t.rib i).toFib i)) where
  self := by rw [Function.update_self, I.toFib_eq]
  other y hy := Function.update_of_ne hy ..
  fresh := hfresh

namespace RebuildStored

theorem sound (S : RebuildStored t₀ t i j fib) (I : RebuildInv t₀ i t)
    (hi : (t₀.rib i).valid = true) : ∀ y, (fib y).valid = true →
      (fib y).ribIndex.val < i + 1 ∧ (t₀.rib (fib y).ribIndex).valid = true ∧
        fib y = (t₀.rib (fib y).ribIndex).toFib (fib y).ribIndex := by
  intro y hy
  by_cases hyj : y = j
  · subst hyj
    rw [S.self]
    exact ⟨Nat.lt_succ_self _, hi, rfl⟩
  · rw [S.other y hyj] at hy ⊢
    obtain ⟨hlt, hv, he⟩ := I.sound y hy
    exact ⟨Nat.lt_succ_of_lt hlt, hv, he⟩

theorem distinct (S : RebuildStored t₀ t i j fib) (I : RebuildInv t₀ i t) :
    ∀ x y, (fib x).valid = true → (fib y).valid = true → (fib x).pfx = (fib y).pfx →
      (fib x).prefixLen = (fib y).prefixLen → x = y := by
  intro x y hx hy hp hl
  by_cases hxj : x = j <;> by_cases hyj : y = j
  · rw [hxj, hyj]
  · subst hxj
    rw [S.other y hyj] at hy
    rw [S.self, S.other y hyj] at hp hl
    exact absurd ⟨hp.symm, hl.symm⟩ (S.fresh y hyj hy)
  · subst hyj
    rw [S.other x hxj] at hx
    rw [S.self, S.other x hxj] at hp hl
    exact absurd ⟨hp, hl⟩ (S.fresh x hxj hx)
  · rw [S.other x hxj] at hx hp hl
    rw [S.other y hyj] at hy hp hl
    exact I.distinct x y hx hy hp hl

/-- Every group that had an entry still has one: slot `j` was free or had this group. -/
theorem cover (S : RebuildStored t₀ t i j fib) (I : RebuildInv t₀ i t)
    (hj : (t.fib j).valid = true → SameGroup (t.fib j) (t₀.rib i)) :
    ∀ x : Fin routeRibSize, x.val < i.val + 1 → (t₀.rib x).valid = true →
      ∃ y, (fib y).valid = true ∧ SameGroup (fib y) (t₀.rib x) := by
  intro x hx hv
  by_cases hxi : x = i
  · subst hxi
    exact ⟨j, by rw [S.self]; rfl, by rw [S.self]; exact ⟨rfl, rfl⟩⟩
  · obtain ⟨y, hy, hgroup⟩ := I.cover x (Slots.lt_of_lt_succ_of_ne hx hxi) hv
    by_cases hyj : y = j
    · subst hyj
      obtain ⟨hp, hl⟩ := hj hy
      refine ⟨y, by rw [S.self]; rfl, ?_⟩
      rw [S.self]
      exact ⟨hp.symm.trans hgroup.1, hl.symm.trans hgroup.2⟩
    · exact ⟨y, by rw [S.other y hyj]; exact hy, by rw [S.other y hyj]; exact hgroup⟩

/-- The candidate is the best of its group if it beats those scanned before. -/
theorem best (S : RebuildStored t₀ t i j fib) (I : RebuildInv t₀ i t)
    (hbest : ∀ x : Fin routeRibSize, x.val < i.val → (t₀.rib x).valid = true →
      (t₀.rib i).pfx = (t₀.rib x).pfx →
      (t₀.rib i).prefixLen = (t₀.rib x).prefixLen →
      routeRank (t₀.rib i) i ≤ routeRank (t₀.rib x) x) :
    ∀ (y : Fin routeFibSize) (x : Fin routeRibSize), (fib y).valid = true → x.val < i.val + 1 →
      (t₀.rib x).valid = true → SameGroup (fib y) (t₀.rib x) →
      routeRank (t₀.rib (fib y).ribIndex) (fib y).ribIndex ≤ routeRank (t₀.rib x) x := by
  intro y x hy hx hv hgroup
  by_cases hyj : y = j
  · subst hyj
    rw [S.self] at hgroup ⊢
    by_cases hxi : x = i
    · rw [hxi]
      rfl
    · exact hbest x (Slots.lt_of_lt_succ_of_ne hx hxi) hv hgroup.1 hgroup.2
  · rw [S.other y hyj] at hy hgroup ⊢
    have hxi : x ≠ i := by
      rintro rfl
      exact S.fresh y hyj hy hgroup
    exact I.best y x hy (Slots.lt_of_lt_succ_of_ne hx hxi) hv hgroup

/-- The other slots of the RIB are answered for by the other entries of the FIB. -/
theorem answers (S : RebuildStored t₀ t i j fib) {x : Fin routeRibSize} (hx : x ≠ i) :
    (∃ y, (fib y).valid = true ∧ (fib y).ribIndex = x) ↔
      ∃ y, y ≠ j ∧ (t.fib y).valid = true ∧ (t.fib y).ribIndex = x := by
  constructor
  · rintro ⟨y, hy, hyx⟩
    have hyj : y ≠ j := by
      rintro rfl
      rw [S.self] at hyx
      exact hx hyx.symm
    rw [S.other y hyj] at hy hyx
    exact ⟨y, hyj, hy, hyx⟩
  · rintro ⟨y, hyj, hy, hyx⟩
    exact ⟨y, by rw [S.other y hyj]; exact hy, by rw [S.other y hyj]; exact hyx⟩

theorem answers_self (S : RebuildStored t₀ t i j fib) :
    ∃ y, (fib y).valid = true ∧ (fib y).ribIndex = i :=
  ⟨j, by rw [S.self]; rfl, by rw [S.self]; rfl⟩

end RebuildStored

namespace RebuildInv

/-- The candidate `i` takes the place of the entry `j` of its group. -/
theorem replace (I : RebuildInv t₀ i t) (hi : (t₀.rib i).valid = true)
    (hj : (t.fib j).valid = true) (hg : SameGroup (t.fib j) (t₀.rib i))
    (hlt : routeRank (t₀.rib i) i < routeRank (t₀.rib (t.fib j).ribIndex) (t.fib j).ribIndex) :
    let c := (t.fib j).ribIndex
    let rib := Function.update t.rib c { t.rib c with selected := false }
    RebuildInv t₀ (i + 1)
      { t with
        rib := Function.update rib i { rib i with selected := true }
        fib := Function.update t.fib j ((t.rib i).toFib i) } := by
  intro c rib
  have S : RebuildStored t₀ t i j (Function.update t.fib j ((t.rib i).toFib i)) :=
    I.stored fun y hyj hy hgroup => hyj
      (I.distinct y j hy hj (hgroup.1.trans hg.1.symm) (hgroup.2.trans hg.2.symm))
  have hrib : ∀ x, (rib x).core = (t₀.rib x).core := by
    intro x
    by_cases hxc : x = c
    · subst hxc
      simp [rib, I.core]
    · simp [rib, Function.update_of_ne hxc, I.core]
  -- the dethroned winner has no other entry
  have honly : ∀ y, (t.fib y).valid = true → (t.fib y).ribIndex = c → y = j := by
    intro y hy hyc
    have he : t.fib y = t.fib j := by
      rw [(I.sound y hy).2.2, (I.sound j hj).2.2, hyc]
    exact I.distinct y j hy hj (by rw [he]) (by rw [he])
  have hcount := Slots.count_store RouteFibEntry.valid t.fib j (x := (t.rib i).toFib i) rfl
  rw [hj, if_pos rfl] at hcount
  refine ⟨fun x => ?_, I.ribCount, I.nextSequence, S.sound I hi, S.distinct I, S.cover I fun _ => hg,
    S.best I fun x hx hv hp hl => hlt.le.trans (I.best j x hj hx hv ⟨hg.1.trans hp, hg.2.trans hl⟩),
    fun x hv => ?_, fun x hv => ?_, hcount.trans_le (Nat.le_succ_of_le I.few),
    I.fibCount.trans hcount.symm⟩
  · by_cases hxi : x = i
    · subst hxi
      simp [hrib]
    · simp [Function.update_of_ne hxi, hrib]
  · dsimp only
    by_cases hxi : x = i
    · subst hxi
      rw [Function.update_self]
      exact iff_of_true rfl S.answers_self
    rw [Function.update_of_ne hxi, S.answers hxi]
    by_cases hxc : x = c
    · subst hxc
      simp only [rib, Function.update_self, Bool.false_eq_true, false_iff]
      rintro ⟨y, hyj, hy, hyc⟩
      exact hyj (honly y hy hyc)
    · simp only [rib, Function.update_of_ne hxc]
      rw [I.marked x hv]
      refine exists_congr fun y => ⟨fun ⟨hy, hyx⟩ => ⟨?_, hy, hyx⟩, And.right⟩
      rintro rfl
      exact hxc hyx.symm
  · have hxi : x ≠ i := by
      rintro rfl
      rw [hi] at hv
      cases hv
    have hxc : x ≠ c := by
      rintro rfl
      rw [(I.sound j hj).2.1] at hv
      cases hv
    simp only [rib, Function.update_of_ne hxi, Function.update_of_ne hxc, I.unmarked x hv]

/-- The candidate `i` opens a new group in the free FIB slot `j`. -/
theorem insert (I : RebuildInv t₀ i t) (hi : (t₀.rib i).valid = true)
    (hj : (t.fib j).valid = false)
    (hnone : ∀ y, (t.fib y).valid = true → ¬ SameGroup (t.fib y) (t₀.rib i)) :
    RebuildInv t₀ (i + 1)
      { t with
        rib := Function.update t.rib i { t.rib i with selected := true }
        fib := Function.update t.fib j ((t.rib i).toFib i)
        fibCount := t.fibCount + 1 } := by
  have S : RebuildStored t₀ t i j (Function.update t.fib j ((t.rib i).toFib i)) :=
    I.stored fun y _ hy => hnone y hy
  have hfree : (t.fib j).valid = true → SameGroup (t.fib j) (t₀.rib i) := by
    intro hv
    rw [hj] at hv
    cases hv
  have hcount := Slots.count_store RouteFibEntry.valid t.fib j (x := (t.rib i).toFib i) rfl
  rw [hj, if_neg Bool.false_ne_true] at hcount
  refine ⟨fun x => ?_, I.ribCount, I.nextSequence, S.sound I hi, S.distinct I, S.cover I hfree,
    S.best I fun x hx hv hp hl => ?_, fun x hv => ?_, fun x hv => ?_,
    hcount.trans_le (Nat.succ_le_succ I.few), ?_⟩
  · by_cases hxi : x = i
    · subst hxi
      simp [I.core]
    · simp [Function.update_of_ne hxi, I.core]
  · -- an older candidate of the group would already have a FIB entry
    obtain ⟨y, hy, hgroup⟩ := I.cover x hx hv
    exact absurd ⟨hgroup.1.trans hp.symm, hgroup.2.trans hl.symm⟩ (hnone y hy)
  · dsimp only
    by_cases hxi : x = i
    · subst hxi
      rw [Function.update_self]
      exact iff_of_true rfl S.answers_self
    rw [Function.update_of_ne hxi, S.answers hxi, I.marked x hv]
    refine exists_congr fun y => ⟨fun ⟨hy, hyx⟩ => ⟨?_, hy, hyx⟩, And.right⟩
    rintro rfl
    rw [hj] at hy
    cases hy
  · have hxi : x ≠ i := by
      rintro rfl
      rw [hi] at hv
      cases hv
    simp only [Function.update_of_ne hxi, I.unmarked x hv]
  · dsimp only
    rw [hcount, I.fibCount]

end RebuildInv

end

/-- One round of the scan. -/
theorem rebuildInv_step {t₀ t : RouteTable} (i : Fin routeRibSize) (I : RebuildInv t₀ i t) :
    RebuildInv t₀ (i + 1) (rebuildStep t i) := by
  unfold rebuildStep
  by_cases hv : (t₀.rib i).valid = true
  · have hvt : (t.rib i).valid = true := by rw [I.valid_eq, hv]
    rw [if_neg (by simp [hvt])]
    obtain ⟨hp, hl⟩ := I.key_eq i
    split
    · rename_i j hfind
      obtain ⟨hm, -⟩ := Fin.find?_eq_some_iff.mp hfind
      simp only [Bool.and_eq_true, beq_iff_eq] at hm
      have hg : SameGroup (t.fib j) (t₀.rib i) := ⟨hm.1.2.trans hp, hm.2.trans hl⟩
      have hci : (t.fib j).ribIndex < i := (I.sound j hm.1.1).1
      have hrank := routeReplaces_iff (a := t.rib i) (b := t.rib (t.fib j).ribIndex) hci
      rw [routeRank_congr (I.core i), routeRank_congr (I.core _)] at hrank
      dsimp only
      split_ifs with hr
      · exact I.replace hv hm.1.1 hg (hrank.mp hr)
      · exact I.keep hm.1.1 hg (not_lt.mp fun h => hr (hrank.mpr h))
    · rename_i hfind
      have hnone : ∀ y, (t.fib y).valid = true → ¬ SameGroup (t.fib y) (t₀.rib i) := by
        intro y hy hg
        have := Fin.find?_eq_none_iff.mp hfind y
        simp [hy, hg.1.trans hp.symm, hg.2.trans hl.symm] at this
      split
      · rename_i j hfree
        obtain ⟨hj, -⟩ := Fin.find?_eq_some_iff.mp hfree
        exact I.insert hv (by simpa using hj) hnone
      · -- the FIB has as many slots as the RIB
        rename_i hfull
        obtain ⟨j, hj⟩ := Slots.exists_of_count_lt (lt_of_le_of_lt I.few i.isLt)
        have := Fin.find?_eq_none_iff.mp hfull j
        simp [hj] at this
  · have hv : (t₀.rib i).valid = false := by simpa using hv
    simp only [I.valid_eq, hv, Bool.not_false, if_true]
    exact I.skip hv

/-- The rebuild of any table. -/
theorem routeTableRebuildFib_inv (t : RouteTable) :
    RebuildInv t routeRibSize (routeTableRebuildFib t).1 := by
  have h : RebuildInv t routeRibSize (Slots.forEach routeRibSize rebuildStep (rebuildClear t)) :=
    Slots.forEach_induction (RebuildInv t) (rebuildInv_clear t) fun i _ I => rebuildInv_step i I
  simpa only [routeTableRebuildFib] using h

@[simp] theorem routeTableRebuildFib_status (t : RouteTable) : (routeTableRebuildFib t).2 = 0 := by
  rw [routeTableRebuildFib]

end FrameRunner
