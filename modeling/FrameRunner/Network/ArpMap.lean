import FrameRunner.Lib.ExpiringMap
import FrameRunner.Lib.Run
import FrameRunner.Network.Arp

/-!
# The ARP cache as a map (`protocols/arp_cache.c`)

What the cache is for: a map from addresses to the MAC that was last learned for them, with
room for 256, which forgets what was learned five minutes ago. `arpMapStep` is this map;
`arpStep` is the cache.

Main result: `arpCache_refines`, on any additions and cleanups whose times do not decrease:
the cache is the map, and what it looks up goes back to the latest addition.
-/

namespace FrameRunner

open FrameRunner.Lib

/-! ## The calls -/

def arpCacheTimeoutMs : UInt64 := 300000

/-- The entry has been there for too long. -/
def ArpCacheEntry.expired (entry : ArpCacheEntry) (currentTime : UInt64) : Bool :=
  entry.valid && decide (currentTime - entry.timestamp ≥ arpCacheTimeoutMs)

/-- Round `i` of the loop of `arp_cache_cleanup` (lines 134–138). -/
def arpCacheCleanupEntry (currentTime : UInt64) (cache : ArpCache) (i : Fin arpMaxCacheSize) :
    ArpCache :=
  if (cache.entries i).expired currentTime then
    { cache with
      entries := Function.update cache.entries i { cache.entries i with valid := false }
      count := cache.count - 1 }
  else cache

/-- `arp_cache_cleanup` (lines 128–140). -/
def arpCacheCleanup (cache : ArpCache) (currentTime : UInt64) : ArpCache :=
  Slots.forEach arpMaxCacheSize (arpCacheCleanupEntry currentTime) cache

inductive ArpOp where
  | add (ipAddr : UInt32) (macAddr : Mac) (timestamp : UInt64)
  | cleanup (currentTime : UInt64)
  deriving DecidableEq, Repr

def ArpOp.clock : ArpOp → UInt64
  | .add _ _ timestamp => timestamp
  | .cleanup currentTime => currentTime

def arpStep (cache : ArpCache) : ArpOp → ArpCache
  | .add ipAddr macAddr timestamp => arpCacheAdd cache ipAddr macAddr timestamp
  | .cleanup currentTime => arpCacheCleanup cache currentTime

/-! ## The map -/

/-- From addresses to the MAC and the time at which it was learned. -/
abbrev ArpMap := BoundedMap UInt32 (Mac × ℕ) arpMaxCacheSize

/-- The map without 0.0.0.0. -/
def arpMapStep (m : ArpMap) : ArpOp → ArpMap
  | .add ipAddr macAddr timestamp =>
    if ipAddr = 0 then m
    else ExpiringMap.step arpCacheTimeoutMs.toNat m (.put ipAddr macAddr timestamp.toNat)
  | .cleanup currentTime =>
    ExpiringMap.step arpCacheTimeoutMs.toNat m (.expire currentTime.toNat)

/-- What was learned for the address at this time is kept. -/
def KeepsBinding (ipAddr : UInt32) (timestamp : UInt64) : ArpOp → Prop
  | .add ip _ _ => ip ≠ ipAddr
  | .cleanup currentTime => currentTime.toNat < timestamp.toNat + arpCacheTimeoutMs.toNat

/-! ## The array as a map -/

/-- How an `ArpCacheEntry` is read. -/
def arpKeyed : Keyed ArpCacheEntry UInt32 (Mac × ℕ) where
  used e := e.valid
  key e := e.ipAddr
  val e := (e.macAddr, e.timestamp.toNat)

/-- The map that a cache stands for. -/
def arpMap (cache : ArpCache) : ArpMap := arpKeyed.toMap cache.entries

/-- The addresses in use are different and not zero, and are counted. -/
structure ArpCacheOk (cache : ArpCache) : Prop where
  distinct : arpKeyed.Distinct cache.entries
  nonzero : ∀ i, (cache.entries i).valid = true → (cache.entries i).ipAddr ≠ 0
  count : cache.count = Slots.count ArpCacheEntry.valid cache.entries

/-- Nothing was learned after this time. -/
def LearnedBy (cache : ArpCache) (now : UInt64) : Prop :=
  ∀ i, (cache.entries i).valid = true → (cache.entries i).timestamp ≤ now

theorem arpCacheOk_init : ArpCacheOk arpCacheInit where
  distinct := fun i j hi => by cases hi
  nonzero := fun i hi => by cases hi
  count := congrArg Int.ofNat (Slots.count_eq_zero.mpr fun _ => rfl).symm

theorem arpMap_init : arpMap arpCacheInit = BoundedMap.empty := by
  refine BoundedMap.ext fun k => ?_
  have hnone : arpKeyed.lookup arpCacheInit.entries k = none :=
    Keyed.lookup_eq_none_iff.mpr fun i hi => by cases hi
  rw [arpMap, Keyed.toMap_lookup, hnone]
  rfl

theorem arpCacheFind_eq (cache : ArpCache) (ipAddr : UInt32) :
    arpCacheFind cache ipAddr = arpKeyed.find cache.entries ipAddr := by
  unfold arpCacheFind Keyed.find
  congr 1

section
variable {cache : ArpCache}

/-- `arp_cache_lookup` is the lookup. -/
theorem ArpCacheOk.lookup (h : ArpCacheOk cache) (ipAddr : UInt32) :
    arpCacheLookup cache ipAddr = ((arpMap cache).lookup ipAddr).map Prod.fst := by
  unfold arpCacheLookup
  rw [arpCacheFind_eq, arpMap, Keyed.toMap_lookup]
  split
  · rename_i h0
    have hnone : arpKeyed.lookup cache.entries ipAddr = none :=
      Keyed.lookup_eq_none_iff.mpr fun i hi hkey => h.nonzero i hi (hkey.trans h0)
    rw [hnone]
    rfl
  · rw [Keyed.lookup, Option.map_map]
    rfl

theorem ArpCacheOk.card_keys (h : ArpCacheOk cache) :
    cache.count = (arpMap cache).keys.card := by
  rw [arpMap, h.distinct.card_keys, h.count]
  rfl

theorem ArpCacheOk.zero_notMem (h : ArpCacheOk cache) : 0 ∉ (arpMap cache).keys := by
  rw [arpMap, Keyed.mem_keys_iff]
  rintro ⟨i, hi, h0⟩
  exact h.nonzero i hi h0

/-! ## An addition -/

/-- `arp_cache_add` stores an entry in the slot for the address. -/
theorem arpCacheAdd_cases {ipAddr : UInt32} (h0 : ipAddr ≠ 0) (macAddr : Mac)
    (timestamp : UInt64) :
    (arpKeyed.slotFor cache.entries ipAddr = none ∧
      arpCacheAdd cache ipAddr macAddr timestamp = cache) ∨
    ∃ i x, arpKeyed.slotFor cache.entries ipAddr = some i ∧
      x = { ipAddr := ipAddr, macAddr := macAddr, timestamp := timestamp, valid := true } ∧
      arpCacheAdd cache ipAddr macAddr timestamp =
        { cache with
          entries := Function.update cache.entries i x
          count := if (cache.entries i).valid then cache.count else cache.count + 1 } := by
  unfold arpCacheAdd Keyed.slotFor
  rw [if_neg h0, arpCacheFind_eq]
  cases hfind : arpKeyed.find cache.entries ipAddr with
  | some i =>
    obtain ⟨hv, hip⟩ := Keyed.find_eq_some hfind
    have hv : (cache.entries i).valid = true := hv
    have hip : (cache.entries i).ipAddr = ipAddr := hip
    refine .inr ⟨i, { cache.entries i with macAddr := macAddr, timestamp := timestamp }, rfl,
      ?_, ?_⟩
    · dsimp only
      rw [hv, hip]
    · dsimp only
      rw [if_pos hv]
  | none =>
    dsimp only [arpKeyed]
    cases hfree : Fin.find? fun i => !(cache.entries i).valid with
    | none => exact .inl ⟨rfl, rfl⟩
    | some i =>
      have hv : (cache.entries i).valid = false := by
        simpa using (Fin.find?_eq_some_iff.mp hfree).1
      refine .inr ⟨i, _, rfl, rfl, ?_⟩
      dsimp only
      rw [hv, if_neg Bool.false_ne_true]

/-- It is the insertion, if there is room. -/
theorem ArpCacheOk.add (h : ArpCacheOk cache) (ipAddr : UInt32) (macAddr : Mac)
    (timestamp : UInt64) :
    arpMap (arpCacheAdd cache ipAddr macAddr timestamp) =
        arpMapStep (arpMap cache) (.add ipAddr macAddr timestamp) ∧
      ArpCacheOk (arpCacheAdd cache ipAddr macAddr timestamp) := by
  by_cases h0 : ipAddr = 0
  · rw [arpCacheAdd, arpMapStep, if_pos h0, if_pos h0]
    exact ⟨rfl, h⟩
  rw [arpMapStep, if_neg h0, ExpiringMap.step]
  rcases arpCacheAdd_cases h0 macAddr timestamp with ⟨hslot, hadd⟩ | ⟨i, x, hslot, hx, hadd⟩
  · rw [hadd, arpMap, h.distinct.insert_full hslot]
    exact ⟨rfl, h⟩
  · have hvalid : x.valid = true := by rw [hx]
    have hkey : arpKeyed.key x = ipAddr := by rw [hx]; rfl
    have hval : arpKeyed.val x = (macAddr, timestamp.toNat) := by rw [hx]; rfl
    have hnonzero : x.valid = true → x.ipAddr ≠ 0 := by
      intro _
      rw [hx]
      exact h0
    have hfresh : arpKeyed.FreshBut cache.entries i (arpKeyed.key x) := by
      rw [hkey]
      exact (Keyed.slotFor_eq_some h.distinct hslot).1
    rw [hadd]
    constructor
    · rw [← hval, arpMap, arpMap, h.distinct.insert_store hslot hvalid hkey, Option.getD_some]
    · refine ⟨h.distinct.store fun _ => hfresh,
        Slots.forall_update (p := fun e : ArpCacheEntry => e.valid = true → e.ipAddr ≠ 0)
          h.nonzero hnonzero i, ?_⟩
      have hcount := h.count
      dsimp only
      rw [Slots.count_store _ _ _ hvalid]
      split
      · exact hcount
      · omega

/-! ## A cleanup -/

/-- The loop takes the expired entries out of use. -/
theorem arpCacheCleanup_entries (cache : ArpCache) (currentTime : UInt64) :
    (∀ j, (arpCacheCleanup cache currentTime).entries j =
      if (cache.entries j).expired currentTime then { cache.entries j with valid := false }
      else cache.entries j) ∧
    (cache.count = Slots.count ArpCacheEntry.valid cache.entries →
      (arpCacheCleanup cache currentTime).count =
        Slots.count ArpCacheEntry.valid (arpCacheCleanup cache currentTime).entries) := by
  have hloop := Slots.forEach_induction (f := arpCacheCleanupEntry currentTime) (x := cache)
    (fun k c => (∀ j, c.entries j =
        if j.val < k ∧ (cache.entries j).expired currentTime = true then
          { cache.entries j with valid := false }
        else cache.entries j) ∧
      (cache.count = Slots.count ArpCacheEntry.valid cache.entries →
        c.count = Slots.count ArpCacheEntry.valid c.entries))
    ⟨fun j => by rw [if_neg (fun h => Nat.not_lt_zero _ h.1)], fun h => h⟩ ?_
  · refine ⟨fun j => ?_, hloop.2⟩
    rw [arpCacheCleanup, hloop.1 j]
    simp only [j.isLt, true_and]
  · intro i c ⟨hentries, hcount⟩
    have hround : ∀ j, j ≠ i → (j.val < i.val ∧ (cache.entries j).expired currentTime = true ↔
        j.val < i.val + 1 ∧ (cache.entries j).expired currentTime = true) := fun j hj =>
      and_congr_left fun _ => ⟨Nat.lt_succ_of_lt, fun h => Slots.lt_of_lt_succ_of_ne h hj⟩
    have hi : c.entries i = cache.entries i := by
      rw [hentries i, if_neg (fun h => lt_irrefl _ h.1)]
    unfold arpCacheCleanupEntry
    rw [hi]
    cases hexpired : (cache.entries i).expired currentTime with
    | false =>
      rw [if_neg Bool.false_ne_true]
      refine ⟨fun j => (hentries j).trans ?_, hcount⟩
      by_cases hj : j = i
      · subst hj
        rw [hexpired, if_neg (fun h => Bool.false_ne_true h.2),
          if_neg (fun h => Bool.false_ne_true h.2)]
      · exact if_congr (hround j hj) rfl rfl
    | true =>
      rw [if_pos rfl]
      constructor
      · intro j
        by_cases hj : j = i
        · subst hj
          rw [if_pos ⟨Nat.lt_succ_self _, hexpired⟩]
          exact Function.update_self ..
        · exact (Function.update_of_ne hj ..).trans
            ((hentries j).trans (if_congr (hround j hj) rfl rfl))
      · intro h
        have hvalid : (c.entries i).valid = true := by
          rw [hi]
          exact (Bool.and_eq_true_iff.mp hexpired).1
        have hdrop := Slots.count_drop ArpCacheEntry.valid c.entries i
          (rfl : ({ cache.entries i with valid := false } : ArpCacheEntry).valid = false) hvalid
        show c.count - 1 = _
        rw [hcount h, ← hdrop, Nat.cast_add, Nat.cast_one, add_sub_cancel_right]

/-- It is the removal of what was learned too long ago, if nothing was learned later. -/
theorem ArpCacheOk.cleanup (h : ArpCacheOk cache) {currentTime : UInt64}
    (hlearned : LearnedBy cache currentTime) :
    arpMap (arpCacheCleanup cache currentTime) =
        arpMapStep (arpMap cache) (.cleanup currentTime) ∧
      ArpCacheOk (arpCacheCleanup cache currentTime) := by
  obtain ⟨hentries, hcount⟩ := arpCacheCleanup_entries cache currentTime
  have hexpired : ∀ i, (cache.entries i).valid = true →
      ((cache.entries i).expired currentTime = true ↔
        (cache.entries i).timestamp.toNat + arpCacheTimeoutMs.toNat ≤ currentTime.toNat) := by
    intro i hi
    have hle := UInt64.le_iff_toNat_le.mp (hlearned i hi)
    rw [ArpCacheEntry.expired, hi, Bool.true_and, decide_eq_true_eq, ge_iff_le,
      UInt64.le_iff_toNat_le, UInt64.toNat_sub_of_le _ _ (hlearned i hi)]
    omega
  have hkept : ∀ i, ((arpCacheCleanup cache currentTime).entries i).valid = true →
      (arpCacheCleanup cache currentTime).entries i = cache.entries i := by
    intro i hi
    rw [hentries i] at hi ⊢
    split at hi
    · cases hi
    · rename_i hfresh
      exact if_neg hfresh
  have hvalid : ∀ i, ((arpCacheCleanup cache currentTime).entries i).valid =
      ((cache.entries i).valid && !decide ((arpKeyed.val (cache.entries i)).2 +
        arpCacheTimeoutMs.toNat ≤ currentTime.toNat)) := by
    intro i
    rw [hentries i]
    cases hi : (cache.entries i).valid with
    | false =>
      rw [ArpCacheEntry.expired, hi, Bool.false_and, if_neg Bool.false_ne_true, hi,
        Bool.false_and]
    | true =>
      rw [Bool.true_and]
      have hiff := hexpired i hi
      by_cases hold : (cache.entries i).timestamp.toNat + arpCacheTimeoutMs.toNat ≤
          currentTime.toNat
      · rw [hiff.mpr hold, if_pos rfl]
        exact (congrArg Bool.not (decide_eq_true hold)).symm
      · rw [if_neg (hold ∘ hiff.mp), hi]
        exact (congrArg Bool.not (decide_eq_false hold)).symm
  refine ⟨h.distinct.toMap_clear _ _ hvalid fun i hi => ?_, h.distinct.sub fun i hi => ?_,
    fun i hi => ?_, hcount h.count⟩
  · rw [hkept i hi]
    exact ⟨rfl, rfl⟩
  · rw [hkept i hi]
    rw [hkept i hi] at hi
    exact ⟨hi, rfl⟩
  · have hold := hi
    rw [hkept i hi] at hold ⊢
    exact h.nonzero i hold

/-! ## Runs -/

theorem LearnedBy.step {now : UInt64} (h : LearnedBy cache now) {op : ArpOp}
    (hop : now ≤ op.clock) : LearnedBy (arpStep cache op) op.clock := by
  have hlater : LearnedBy cache op.clock := fun i hi => UInt64.le_trans (h i hi) hop
  cases op with
  | add ipAddr macAddr timestamp =>
    rw [arpStep]
    by_cases h0 : ipAddr = 0
    · rw [arpCacheAdd, if_pos h0]
      exact hlater
    · rcases @arpCacheAdd_cases cache ipAddr h0 macAddr timestamp with
        ⟨-, hadd⟩ | ⟨i, x, -, hx, hadd⟩
      · rw [hadd]
        exact hlater
      · rw [hadd]
        refine Slots.forall_update (p := fun e : ArpCacheEntry => e.valid = true → e.timestamp ≤ _)
          hlater (fun _ => ?_) i
        rw [hx]
        exact UInt64.le_refl _
  | cleanup currentTime =>
    intro i hi
    have hentry := (arpCacheCleanup_entries cache currentTime).1 i
    rw [arpStep, hentry] at hi ⊢
    split at hi
    · cases hi
    · rename_i hfresh
      rw [if_neg hfresh]
      exact hlater i hi

theorem ArpCacheOk.step {now : UInt64} (h : ArpCacheOk cache) (hlearned : LearnedBy cache now)
    {op : ArpOp} (hop : now ≤ op.clock) :
    arpMap (arpStep cache op) = arpMapStep (arpMap cache) op ∧ ArpCacheOk (arpStep cache op) := by
  cases op with
  | add ipAddr macAddr timestamp => exact h.add ipAddr macAddr timestamp
  | cleanup currentTime => exact h.cleanup fun i hi => UInt64.le_trans (hlearned i hi) hop

/-- The cache runs as the map does while the times do not decrease. -/
theorem arpRun_refines (ops : List ArpOp) : ∀ (cache : ArpCache) (now : UInt64),
    ArpCacheOk cache → LearnedBy cache now →
    (now :: ops.map ArpOp.clock).Pairwise (· ≤ ·) →
      arpMap (run arpStep cache ops) = run arpMapStep (arpMap cache) ops ∧
        ArpCacheOk (run arpStep cache ops) := by
  induction ops with
  | nil => exact fun _ _ h _ _ => ⟨rfl, h⟩
  | cons op ops ih =>
    intro cache now h hlearned hclock
    rw [List.map_cons, List.pairwise_cons] at hclock
    have hop : now ≤ op.clock := hclock.1 _ List.mem_cons_self
    obtain ⟨hmap, hok⟩ := h.step hlearned hop
    rw [run_cons, run_cons, ← hmap]
    exact ih _ op.clock hok (hlearned.step hop) hclock.2

end

theorem arpRun_init {ops : List ArpOp} (hclock : (ops.map ArpOp.clock).Pairwise (· ≤ ·)) :
    arpMap (run arpStep arpCacheInit ops) = run arpMapStep BoundedMap.empty ops ∧
      ArpCacheOk (run arpStep arpCacheInit ops) := by
  rw [← arpMap_init]
  refine arpRun_refines ops arpCacheInit 0 arpCacheOk_init (fun i hi => by cases hi) ?_
  exact List.pairwise_cons.mpr ⟨fun now _ => UInt64.zero_le, hclock⟩

/-! ## What is looked up -/

/-- An addition for the address is stored: it is known, or there is room. -/
def ArpStores (cache : ArpCache) (ipAddr : UInt32) : Prop :=
  arpCacheLookup cache ipAddr ≠ none ∨ cache.count < arpMaxCacheSize

theorem ArpCacheOk.stores_iff {cache : ArpCache} (h : ArpCacheOk cache) (ipAddr : UInt32) :
    ArpStores cache ipAddr ↔ ExpiringMap.Stores (arpMap cache) ipAddr := by
  rw [ArpStores, ExpiringMap.Stores, h.lookup, h.card_keys, (arpMap cache).mem_keys,
    ← Option.isSome_iff_ne_none, Option.isSome_map, Nat.cast_lt]

/-- What a call makes the map know about an address, and what it leaves. -/
theorem arpMapStep_lookup_iff {m : ArpMap} {ipAddr : UInt32} (h0 : ipAddr ≠ 0) (macAddr : Mac)
    (timestamp : UInt64) (op : ArpOp) :
    (arpMapStep m op).lookup ipAddr = some (macAddr, timestamp.toNat) ↔
      (op = .add ipAddr macAddr timestamp ∧ ExpiringMap.Stores m ipAddr) ∨
        (m.lookup ipAddr = some (macAddr, timestamp.toNat) ∧
          KeepsBinding ipAddr timestamp op) := by
  cases op with
  | add ip mac ts =>
    rw [arpMapStep]
    by_cases hip : ip = 0
    · have hne : ip ≠ ipAddr := by
        rw [hip]
        exact h0.symm
      rw [if_pos hip]
      simp [KeepsBinding, hne]
    · rw [if_neg hip, ExpiringMap.lookup_step_iff]
      have hop : (ExpiringMap.Op.put ip mac ts.toNat = .put ipAddr macAddr timestamp.toNat) ↔
          ArpOp.add ip mac ts = .add ipAddr macAddr timestamp := by
        rw [ExpiringMap.Op.put.injEq, ArpOp.add.injEq, UInt64.toNat_inj]
      rw [hop]
      rfl
  | cleanup now =>
    rw [arpMapStep, ExpiringMap.lookup_step_iff]
    simp [KeepsBinding, ExpiringMap.Keeps]

/-- A value of the map was learned at a time of the clock. -/
theorem ArpCacheOk.exists_timestamp {cache : ArpCache} (h : ArpCacheOk cache) {ipAddr : UInt32}
    {v : Mac × ℕ} (hv : (arpMap cache).lookup ipAddr = some v) :
    ∃ timestamp : UInt64, v = (v.1, timestamp.toNat) := by
  rw [arpMap, Keyed.toMap_lookup, h.distinct.lookup_eq_some_iff] at hv
  obtain ⟨i, -, -, rfl⟩ := hv
  exact ⟨(cache.entries i).timestamp, rfl⟩

/-- The latest addition for the address, if it was stored and has been kept since. -/
theorem arpRun_lookup_iff {ops : List ArpOp} (hclock : (ops.map ArpOp.clock).Pairwise (· ≤ ·))
    (ipAddr : UInt32) (macAddr : Mac) :
    arpCacheLookup (run arpStep arpCacheInit ops) ipAddr = some macAddr ↔
      ipAddr ≠ 0 ∧ ∃ pre timestamp post, ops = pre ++ .add ipAddr macAddr timestamp :: post ∧
        ArpStores (run arpStep arpCacheInit pre) ipAddr ∧
        ∀ op ∈ post, KeepsBinding ipAddr timestamp op := by
  obtain ⟨hmap, hok⟩ := arpRun_init hclock
  by_cases h0 : ipAddr = 0
  · rw [arpCacheLookup, if_pos h0]
    exact iff_of_false (by simp) fun h => h.1 h0
  have hlatest : ∀ timestamp : UInt64,
      (run arpMapStep BoundedMap.empty ops).lookup ipAddr = some (macAddr, timestamp.toNat) ↔
        ∃ pre op post, ops = pre ++ op :: post ∧
          (op = .add ipAddr macAddr timestamp ∧
            ExpiringMap.Stores (run arpMapStep BoundedMap.empty pre) ipAddr) ∧
          ∀ op ∈ post, KeepsBinding ipAddr timestamp op := fun timestamp =>
    run_latest_iff (Q := fun m : ArpMap => m.lookup ipAddr = some (macAddr, timestamp.toNat))
      (fun _ op => arpMapStep_lookup_iff h0 macAddr timestamp op) (Option.some_ne_none _).symm ops
  have hstores : ∀ pre post, ops = pre ++ post →
      (ArpStores (run arpStep arpCacheInit pre) ipAddr ↔
        ExpiringMap.Stores (run arpMapStep BoundedMap.empty pre) ipAddr) := by
    rintro pre post rfl
    rw [List.map_append, List.pairwise_append] at hclock
    obtain ⟨hpre, hok⟩ := arpRun_init hclock.1
    rw [hok.stores_iff, hpre]
  rw [hok.lookup, hmap, Option.map_eq_some_iff]
  constructor
  · rintro ⟨v, hv, rfl⟩
    obtain ⟨timestamp, htime⟩ := hok.exists_timestamp (hmap ▸ hv)
    rw [htime] at hv
    obtain ⟨pre, op, post, hops, ⟨rfl, hroom⟩, hkeeps⟩ := (hlatest timestamp).mp hv
    exact ⟨h0, pre, timestamp, post, hops, (hstores pre _ hops).mpr hroom, hkeeps⟩
  · rintro ⟨-, pre, timestamp, post, hops, hroom, hkeeps⟩
    exact ⟨_, (hlatest timestamp).mpr
      ⟨pre, _, post, hops, ⟨rfl, (hstores pre _ hops).mp hroom⟩, hkeeps⟩, rfl⟩

/-- An addition that is stored can be looked up, another changes nothing. -/
theorem ArpCacheOk.add_stores {cache : ArpCache} (h : ArpCacheOk cache) {ipAddr : UInt32}
    (h0 : ipAddr ≠ 0) (macAddr : Mac) (timestamp : UInt64) :
    (ArpStores cache ipAddr →
      arpCacheLookup (arpCacheAdd cache ipAddr macAddr timestamp) ipAddr = some macAddr) ∧
    (¬ ArpStores cache ipAddr → arpCacheAdd cache ipAddr macAddr timestamp = cache) := by
  obtain ⟨hadd, hok⟩ := h.add ipAddr macAddr timestamp
  rw [h.stores_iff]
  constructor
  · intro hstores
    rw [hok.lookup, hadd, arpMapStep, if_neg h0,
      (ExpiringMap.step_put_of_stores _ hstores).1, Function.update_self]
    rfl
  · intro hfull
    rcases @arpCacheAdd_cases cache ipAddr h0 macAddr timestamp with
      ⟨-, hsame⟩ | ⟨i, x, hslot, hx, -⟩
    · exact hsame
    · have hused : arpKeyed.used x = true := by rw [hx]; rfl
      have hkey : arpKeyed.key x = ipAddr := by rw [hx]; rfl
      have hinsert := h.distinct.insert_store hslot hused hkey
      have hroom := Option.isSome_of_eq_some hinsert
      rw [BoundedMap.insert_isSome_iff] at hroom
      exact absurd hroom hfull

/-- The cache is this map: its addresses are different and counted, and it looks up what the
    map knows. -/
structure RefinesArpMap (cache : ArpCache) (m : ArpMap) : Prop where
  map : arpMap cache = m
  distinct : arpKeyed.Distinct cache.entries
  nonzero : 0 ∉ m.keys
  count : cache.count = m.keys.card
  lookup : ∀ ipAddr, arpCacheLookup cache ipAddr = (m.lookup ipAddr).map Prod.fst

/-- After any additions and cleanups whose times do not decrease the cache is the map. It looks
    up the MAC of the latest addition for an address that was stored and has not expired, and
    only a new address that finds no room is not stored. -/
theorem arpCache_refines {ops : List ArpOp} (hclock : (ops.map ArpOp.clock).Pairwise (· ≤ ·)) :
    let cache := run arpStep arpCacheInit ops
    RefinesArpMap cache (run arpMapStep BoundedMap.empty ops) ∧
    (∀ ipAddr macAddr, arpCacheLookup cache ipAddr = some macAddr ↔
      ipAddr ≠ 0 ∧ ∃ pre timestamp post, ops = pre ++ .add ipAddr macAddr timestamp :: post ∧
        ArpStores (run arpStep arpCacheInit pre) ipAddr ∧
        ∀ op ∈ post, KeepsBinding ipAddr timestamp op) ∧
    ∀ ipAddr macAddr timestamp, ipAddr ≠ 0 →
      (ArpStores cache ipAddr →
        arpCacheLookup (arpCacheAdd cache ipAddr macAddr timestamp) ipAddr = some macAddr) ∧
      (¬ ArpStores cache ipAddr → arpCacheAdd cache ipAddr macAddr timestamp = cache) := by
  intro cache
  obtain ⟨hmap, hok⟩ := arpRun_init hclock
  refine ⟨⟨hmap, hok.distinct, ?_, ?_, fun ipAddr => ?_⟩, arpRun_lookup_iff hclock,
    fun ipAddr macAddr timestamp h0 => hok.add_stores h0 macAddr timestamp⟩
  · rw [← hmap]
    exact hok.zero_notMem
  · rw [← hmap]
    exact hok.card_keys
  · rw [← hmap]
    exact hok.lookup ipAddr

/-- A binding that is learned twice and outlives a cleanup. -/
def exampleArpOps : List ArpOp :=
  [.add 0x0A000001 ⟨2, 0, 0, 0, 0, 1⟩ 0, .add 0x0A000001 ⟨2, 0, 0, 0, 0, 9⟩ 1000, .cleanup 300999]

theorem arpCache_refines_exampleArpOps :
    arpCacheLookup (run arpStep arpCacheInit exampleArpOps) 0x0A000001 =
        some ⟨2, 0, 0, 0, 0, 9⟩ ∧
      (run arpStep arpCacheInit exampleArpOps).count =
        (run arpMapStep BoundedMap.empty exampleArpOps).keys.card := by
  have hclock : (exampleArpOps.map ArpOp.clock).Pairwise (· ≤ ·) := by decide
  obtain ⟨hmap, hlookup, -⟩ := arpCache_refines hclock
  refine ⟨(hlookup _ _).mpr ⟨by decide, [.add 0x0A000001 ⟨2, 0, 0, 0, 0, 1⟩ 0], 1000,
    [.cleanup 300999], rfl, ?_, ?_⟩, hmap.count⟩
  · exact .inr (by decide +kernel)
  · intro op hop
    obtain rfl := List.mem_singleton.mp hop
    show (300999 : UInt64).toNat < (1000 : UInt64).toNat + arpCacheTimeoutMs.toNat
    decide

end FrameRunner
