import FrameRunner.Lib.Slots

/-!
# Arrays of keyed records

A table in C is often an array of records of which some are in use, each under a
key of its own. `Keyed` says how such a record is read; the array then stands for
a finite map, with at most as many keys as it has slots (`BoundedMap`).

* `Keyed.toMap`: the map of an array, one entry for each key in use.
* `Distinct.lookup_store`, `lookup_drop`, `lookup_clear`, `toMap_clear`: storing a record,
  and taking records out of use, are insertion and removal.
* `slotFor`: the slot that has a key, else a free one; what is stored there keeps
  the keys distinct (`Distinct.store`) and is an insertion (`Distinct.insert_store`,
  `Distinct.insert_full`).
-/

namespace FrameRunner.Lib

/-! ## Finite maps of bounded size -/

/-- A finite map with at most `c` keys. -/
structure BoundedMap (κ ν : Type*) (c : ℕ) where
  lookup : κ → Option ν
  keys : Finset κ
  mem_keys : ∀ k, k ∈ keys ↔ (lookup k).isSome
  card_le : keys.card ≤ c

namespace BoundedMap

variable {κ ν : Type*} {c : ℕ}

/-- A map is what it looks up. -/
@[ext] theorem ext {m m' : BoundedMap κ ν c} (h : ∀ k, m.lookup k = m'.lookup k) : m = m' := by
  obtain ⟨f, s, hs, hc⟩ := m
  obtain ⟨f', s', hs', hc'⟩ := m'
  obtain rfl : f = f' := funext h
  obtain rfl : s = s' := Finset.ext fun k => (hs k).trans (hs' k).symm
  rfl

/-- The empty map. -/
def empty : BoundedMap κ ν c := ⟨fun _ => none, ∅, by simp, by simp⟩

variable [DecidableEq κ]

/-- Insertion or update; `none` if the key is new and there is no room. -/
def insert (m : BoundedMap κ ν c) (k : κ) (v : ν) : Option (BoundedMap κ ν c) :=
  if h : (Insert.insert k m.keys).card ≤ c then
    some {
      lookup := Function.update m.lookup k (some v)
      keys := Insert.insert k m.keys
      mem_keys := fun k' => by
        rw [Finset.mem_insert, m.mem_keys]
        by_cases hk : k' = k
        · subst hk
          simp
        · simp [hk]
      card_le := h }
  else none

/-- The map without the keys that satisfy `p`. -/
def erase (m : BoundedMap κ ν c) (p : κ → Bool) : BoundedMap κ ν c where
  lookup k := if p k then none else m.lookup k
  keys := m.keys.filter fun k => p k = false
  mem_keys k := by
    rw [Finset.mem_filter, m.mem_keys]
    cases p k <;> simp
  card_le := (Finset.card_filter_le _ _).trans m.card_le

omit [DecidableEq κ] in
theorem erase_lookup (m : BoundedMap κ ν c) (p : κ → Bool) (k : κ) :
    (m.erase p).lookup k = if p k then none else m.lookup k := rfl

/-- A key that the map has can always be given another value. -/
theorem insert_isSome_iff (m : BoundedMap κ ν c) (k : κ) (v : ν) :
    (m.insert k v).isSome ↔ k ∈ m.keys ∨ m.keys.card < c := by
  have hcard := m.card_le
  have hinsert : (m.insert k v).isSome ↔ (Insert.insert k m.keys).card ≤ c := by
    unfold insert
    split <;> simp_all
  rw [hinsert]
  by_cases hk : k ∈ m.keys
  · rw [Finset.insert_eq_of_mem hk]
    simp [hk, hcard]
  · rw [Finset.card_insert_of_notMem hk]
    simp only [hk, false_or]
    omega

theorem insert_eq_some {m m' : BoundedMap κ ν c} {k : κ} {v : ν} (h : m.insert k v = some m') :
    m'.lookup = Function.update m.lookup k (some v) := by
  unfold insert at h
  split at h
  · cases h
    rfl
  · cases h

theorem insert_keys {m m' : BoundedMap κ ν c} {k : κ} {v : ν} (h : m.insert k v = some m') :
    m'.keys = Insert.insert k m.keys := by
  unfold insert at h
  split at h
  · cases h
    rfl
  · cases h

end BoundedMap

/-! ## Keyed records -/

/-- How a record is read: whether it is in use, under which key, and what it holds. -/
structure Keyed (α κ ν : Type*) where
  used : α → Bool
  key : α → κ
  val : α → ν

namespace Keyed

variable {α κ ν : Type*} {n : ℕ} (K : Keyed α κ ν)

/-- No two records in use have the same key. -/
def Distinct (s : Slots n α) : Prop :=
  ∀ i j, K.used (s i) = true → K.used (s j) = true → K.key (s i) = K.key (s j) → i = j

/-- No record in use has the key `k`, but for the one in slot `i`. -/
def FreshBut (s : Slots n α) (i : Fin n) (k : κ) : Prop :=
  ∀ j, j ≠ i → K.used (s j) = true → K.key (s j) ≠ k

variable {K} {s : Slots n α} {i : Fin n} {x : α} {k : κ}

theorem Distinct.freshBut (hd : K.Distinct s) (hi : K.used (s i) = true) (hkey : K.key (s i) = k) :
    K.FreshBut s i k :=
  fun j hji hj hjk => hji (hd j i hj hi (hjk.trans hkey.symm))

/-- A record stored where no other has its key keeps the keys distinct. -/
theorem Distinct.store (hd : K.Distinct s) (hx : K.used x = true → K.FreshBut s i (K.key x)) :
    K.Distinct (Function.update s i x) := by
  intro j l hj hl hkey
  by_cases hji : j = i <;> by_cases hli : l = i
  · rw [hji, hli]
  · subst hji
    rw [Function.update_self] at hj hkey
    rw [Function.update_of_ne hli] at hl hkey
    exact absurd hkey.symm (hx hj l hli hl)
  · subst hli
    rw [Function.update_self] at hl hkey
    rw [Function.update_of_ne hji] at hj hkey
    exact absurd hkey (hx hl j hji hj)
  · rw [Function.update_of_ne hji] at hj hkey
    rw [Function.update_of_ne hli] at hl hkey
    exact hd j l hj hl hkey

/-- Keys stay distinct as records leave use and the others keep their keys. -/
theorem Distinct.sub {s' : Slots n α} (hd : K.Distinct s)
    (h : ∀ i, K.used (s' i) = true → K.used (s i) = true ∧ K.key (s' i) = K.key (s i)) :
    K.Distinct s' := fun i j hi hj hkey =>
  hd i j (h i hi).1 (h j hj).1 ((h i hi).2.symm.trans (hkey.trans (h j hj).2))

/-! ## The map of an array -/

variable [DecidableEq κ]

variable (K) in
/-- The first slot in use with the key. -/
def find (s : Slots n α) (k : κ) : Option (Fin n) :=
  Fin.find? fun i => K.used (s i) && decide (K.key (s i) = k)

variable (K) in
/-- The slot with the key, else the first that is free. -/
def slotFor (s : Slots n α) (k : κ) : Option (Fin n) :=
  match K.find s k with
  | some i => some i
  | none => Fin.find? fun i => !K.used (s i)

theorem find_eq_some (h : K.find s k = some i) : K.used (s i) = true ∧ K.key (s i) = k := by
  obtain ⟨hi, -⟩ := Fin.find?_eq_some_iff.mp h
  simpa using hi

theorem find_eq_none_iff :
    K.find s k = none ↔ ∀ i, K.used (s i) = true → K.key (s i) ≠ k := by
  simp [find]

theorem Distinct.find_eq (hd : K.Distinct s) (hi : K.used (s i) = true) :
    K.find s (K.key (s i)) = some i := by
  cases hf : K.find s (K.key (s i)) with
  | none => exact absurd rfl (find_eq_none_iff.mp hf i hi)
  | some j =>
    obtain ⟨hj, hkey⟩ := find_eq_some hf
    rw [hd j i hj hi hkey]

/-- Where a key goes there is no other with the key. -/
theorem slotFor_eq_some (hd : K.Distinct s) (h : K.slotFor s k = some i) :
    K.FreshBut s i k ∧ (K.used (s i) = true → K.key (s i) = k) := by
  unfold slotFor at h
  split at h
  · rename_i j hj
    cases h
    obtain ⟨hu, rfl⟩ := find_eq_some hj
    exact ⟨hd.freshBut hu rfl, fun _ => rfl⟩
  · rename_i hnone
    obtain ⟨hi, -⟩ := Fin.find?_eq_some_iff.mp h
    refine ⟨fun j _ hj => find_eq_none_iff.mp hnone j hj, fun hu => ?_⟩
    simp [hu] at hi

variable (K) in
/-- What an array says about a key. -/
def lookup (s : Slots n α) (k : κ) : Option ν := (K.find s k).map fun i => K.val (s i)

variable (K) in
/-- The keys in use. -/
def keys (s : Slots n α) : Finset κ :=
  (Finset.univ.filter fun i => K.used (s i) = true).image fun i => K.key (s i)

variable (K) in
/-- The map that an array stands for. -/
def toMap (s : Slots n α) : BoundedMap κ ν n where
  lookup := K.lookup s
  keys := K.keys s
  mem_keys k := by
    rw [lookup, Option.isSome_map, ← Option.ne_none_iff_isSome, ne_eq, find_eq_none_iff, keys]
    simp
  card_le := Finset.card_image_le.trans (Slots.count_le K.used s)

theorem mem_keys_iff : k ∈ (K.toMap s).keys ↔ ∃ i, K.used (s i) = true ∧ K.key (s i) = k := by
  show k ∈ K.keys s ↔ _
  simp only [keys, Finset.mem_image, Finset.mem_filter, Finset.mem_univ, true_and]

@[simp] theorem toMap_lookup (s : Slots n α) : (K.toMap s).lookup = K.lookup s := rfl

/-- The map has as many keys of a kind as there are records in use with such keys. -/
theorem Distinct.card_keys_filter (hd : K.Distinct s) (p : κ → Bool) :
    ((K.toMap s).keys.filter fun k => p k = true).card =
      Slots.count (fun x => K.used x && p (K.key x)) s := by
  have himage : ((K.toMap s).keys.filter fun k => p k = true) =
      (Finset.univ.filter fun i => (K.used (s i) && p (K.key (s i))) = true).image
        fun i => K.key (s i) := by
    ext k
    rw [Finset.mem_filter, mem_keys_iff]
    simp only [Finset.mem_image, Finset.mem_filter, Finset.mem_univ, true_and, Bool.and_eq_true]
    constructor
    · rintro ⟨⟨i, hi, rfl⟩, hp⟩
      exact ⟨i, ⟨hi, hp⟩, rfl⟩
    · rintro ⟨i, ⟨hi, hp⟩, rfl⟩
      exact ⟨⟨i, hi, rfl⟩, hp⟩
  rw [himage, Finset.card_image_of_injOn]
  · rfl
  · intro i hi j hj hkey
    have hi' := (Bool.and_eq_true _ _).mp (Finset.mem_filter.mp hi).2
    have hj' := (Bool.and_eq_true _ _).mp (Finset.mem_filter.mp hj).2
    exact hd i j hi'.1 hj'.1 hkey

/-- The map has a key for each record in use. -/
theorem Distinct.card_keys (hd : K.Distinct s) : (K.toMap s).keys.card = Slots.count K.used s := by
  have h := hd.card_keys_filter fun _ => true
  simpa only [Finset.filter_true, Bool.and_true] using h

theorem Distinct.lookup_eq (hd : K.Distinct s) (hi : K.used (s i) = true) :
    K.lookup s (K.key (s i)) = some (K.val (s i)) := by
  rw [lookup, hd.find_eq hi, Option.map_some]

theorem lookup_eq_none_iff :
    K.lookup s k = none ↔ ∀ i, K.used (s i) = true → K.key (s i) ≠ k := by
  rw [lookup, Option.map_eq_none_iff, find_eq_none_iff]

/-- The entries of the map are the records in use. -/
theorem Distinct.lookup_eq_some_iff (hd : K.Distinct s) {v : ν} :
    K.lookup s k = some v ↔ ∃ i, K.used (s i) = true ∧ K.key (s i) = k ∧ K.val (s i) = v := by
  constructor
  · intro h
    obtain ⟨i, hi, rfl⟩ := Option.map_eq_some_iff.mp h
    exact ⟨i, (find_eq_some hi).1, (find_eq_some hi).2, rfl⟩
  · rintro ⟨i, hi, rfl, rfl⟩
    exact hd.lookup_eq hi

/-- Arrays whose records in use read alike stand for one map. -/
theorem lookup_congr {s' : Slots n α} (hu : ∀ i, K.used (s' i) = K.used (s i))
    (h : ∀ i, K.used (s i) = true → K.key (s' i) = K.key (s i) ∧ K.val (s' i) = K.val (s i)) :
    K.lookup s' = K.lookup s := by
  funext k
  have hfind : K.find s' k = K.find s k := by
    unfold find
    congr 1
    funext i
    rw [hu i]
    cases hi : K.used (s i) with
    | false => rfl
    | true => rw [(h i hi).1]
  unfold lookup
  rw [hfind]
  cases hf : K.find s k with
  | none => rfl
  | some i => rw [Option.map_some, Option.map_some, (h i (find_eq_some hf).1).2]

/-- Storing a record is an update of the map at its key. -/
theorem Distinct.lookup_store (hd : K.Distinct s) (hx : K.used x = true) (hkey : K.key x = k)
    (hfresh : K.FreshBut s i k) (hold : K.used (s i) = true → K.key (s i) = k) :
    K.lookup (Function.update s i x) = Function.update (K.lookup s) k (some (K.val x)) := by
  subst hkey
  have hd' := hd.store fun _ => hfresh
  funext k
  by_cases hk : k = K.key x
  · subst hk
    rw [Function.update_self, hd'.lookup_eq_some_iff]
    exact ⟨i, by simp [hx]⟩
  · rw [Function.update_of_ne hk]
    apply Option.ext
    intro v
    rw [hd'.lookup_eq_some_iff, hd.lookup_eq_some_iff]
    constructor
    · rintro ⟨j, hj, hjk, hjv⟩
      by_cases hji : j = i
      · subst hji
        rw [Function.update_self] at hjk
        exact absurd hjk.symm hk
      · rw [Function.update_of_ne hji] at hj hjk hjv
        exact ⟨j, hj, hjk, hjv⟩
    · rintro ⟨j, hj, hjk, hjv⟩
      have hji : j ≠ i := by
        rintro rfl
        exact hk (hjk.symm.trans (hold hj))
      exact ⟨j, by rw [Function.update_of_ne hji]; exact ⟨hj, hjk, hjv⟩⟩

/-- Taking the records with some keys out of use removes these keys. -/
theorem Distinct.lookup_clear (hd : K.Distinct s) (s' : Slots n α) (p : κ → Bool)
    (hused : ∀ i, K.used (s' i) = (K.used (s i) && !p (K.key (s i))))
    (hkept : ∀ i, K.used (s' i) = true →
      K.key (s' i) = K.key (s i) ∧ K.val (s' i) = K.val (s i)) (k : κ) :
    K.lookup s' k = if p k then none else K.lookup s k := by
  have hsub : ∀ i, K.used (s' i) = true → K.used (s i) = true ∧ p (K.key (s i)) = false := by
    intro i hi
    simpa [hused i] using hi
  have hd' : K.Distinct s' := hd.sub fun i hi => ⟨(hsub i hi).1, (hkept i hi).1⟩
  apply Option.ext
  intro v
  rw [hd'.lookup_eq_some_iff]
  constructor
  · rintro ⟨i, hi, rfl, rfl⟩
    obtain ⟨hu, hp⟩ := hsub i hi
    rw [(hkept i hi).1, (hkept i hi).2, hp, hd.lookup_eq hu]
    rfl
  · cases hp : p k with
    | true => simp
    | false =>
      intro h
      obtain ⟨i, hi, rfl, rfl⟩ := hd.lookup_eq_some_iff.mp h
      have hi' : K.used (s' i) = true := by rw [hused i, hi, hp]; rfl
      exact ⟨i, hi', hkept i hi'⟩

/-- Taking the records with some values out of use removes what the map knows of them. -/
theorem Distinct.toMap_clear (hd : K.Distinct s) (s' : Slots n α) (q : ν → Bool)
    (hused : ∀ i, K.used (s' i) = (K.used (s i) && !q (K.val (s i))))
    (hkept : ∀ i, K.used (s' i) = true →
      K.key (s' i) = K.key (s i) ∧ K.val (s' i) = K.val (s i)) :
    K.toMap s' = (K.toMap s).erase fun k => ((K.toMap s).lookup k).any q := by
  refine BoundedMap.ext fun k => ?_
  rw [BoundedMap.erase_lookup, toMap_lookup, toMap_lookup]
  refine hd.lookup_clear s' (fun k => (K.lookup s k).any q) (fun i => ?_) hkept k
  rw [hused i]
  cases hi : K.used (s i) with
  | false => rw [Bool.false_and, Bool.false_and]
  | true => rw [hd.lookup_eq hi, Option.any_some]

/-- Storing a record that is not in use removes the key. -/
theorem Distinct.lookup_drop (hd : K.Distinct s) (hx : K.used x = false)
    (hfresh : K.FreshBut s i k) (hold : K.used (s i) = true → K.key (s i) = k) :
    K.lookup (Function.update s i x) = Function.update (K.lookup s) k none := by
  have hd' : K.Distinct (Function.update s i x) := hd.store fun hu => by
    rw [hx] at hu
    cases hu
  funext k'
  by_cases hk : k' = k
  · subst hk
    rw [Function.update_self, lookup_eq_none_iff]
    intro j hj
    by_cases hji : j = i
    · subst hji
      rw [Function.update_self, hx] at hj
      cases hj
    · rw [Function.update_of_ne hji] at hj ⊢
      exact hfresh j hji hj
  · rw [Function.update_of_ne hk]
    apply Option.ext
    intro v
    rw [hd'.lookup_eq_some_iff, hd.lookup_eq_some_iff]
    constructor
    · rintro ⟨j, hj, hjk, hjv⟩
      have hji : j ≠ i := by
        rintro rfl
        rw [Function.update_self, hx] at hj
        cases hj
      rw [Function.update_of_ne hji] at hj hjk hjv
      exact ⟨j, hj, hjk, hjv⟩
    · rintro ⟨j, hj, hjk, hjv⟩
      have hji : j ≠ i := by
        rintro rfl
        exact hk (hjk.symm.trans (hold hj))
      exact ⟨j, by rw [Function.update_of_ne hji]; exact ⟨hj, hjk, hjv⟩⟩

/-- Storing a record in the slot for its key is the insertion. -/
theorem Distinct.insert_store (hd : K.Distinct s) (hslot : K.slotFor s k = some i)
    (hx : K.used x = true) (hkey : K.key x = k) :
    (K.toMap s).insert k (K.val x) = some (K.toMap (Function.update s i x)) := by
  obtain ⟨hfresh, hold⟩ := slotFor_eq_some hd hslot
  have hroom : ((K.toMap s).insert k (K.val x)).isSome := by
    rw [BoundedMap.insert_isSome_iff, mem_keys_iff, hd.card_keys]
    unfold slotFor at hslot
    split at hslot
    · rename_i j hfind
      exact .inl ⟨j, find_eq_some hfind⟩
    · have hfree : K.used (s i) = false := by simpa using (Fin.find?_eq_some_iff.mp hslot).1
      exact .inr (Slots.count_lt_of_exists hfree)
  obtain ⟨m, hm⟩ := Option.isSome_iff_exists.mp hroom
  have hmap : m = K.toMap (Function.update s i x) := BoundedMap.ext fun k' => by
    rw [BoundedMap.insert_eq_some hm, toMap_lookup, toMap_lookup,
      hd.lookup_store hx hkey hfresh hold]
  rw [hm, hmap]

/-- An array without a slot for a key has no room for it in its map. -/
theorem Distinct.insert_full (hd : K.Distinct s) (hslot : K.slotFor s k = none) (v : ν) :
    (K.toMap s).insert k v = none := by
  rw [← Option.not_isSome_iff_eq_none, BoundedMap.insert_isSome_iff, mem_keys_iff, hd.card_keys]
  unfold slotFor at hslot
  split at hslot
  · cases hslot
  · rename_i hnone
    rintro (⟨i, hi, hkey⟩ | hlt)
    · exact find_eq_none_iff.mp hnone i hi hkey
    · obtain ⟨i, hi⟩ := Slots.exists_of_count_lt hlt
      have hused := Fin.find?_eq_none_iff.mp hslot i
      rw [hi] at hused
      exact absurd hused (by decide)

/-- Where all keys are among no more than there are slots, each of these has a slot. -/
theorem Distinct.exists_slotFor (hd : K.Distinct s) {ks : Finset κ} (hcard : ks.card ≤ n)
    (hkeys : ∀ i, K.used (s i) = true → K.key (s i) ∈ ks) (hk : k ∈ ks) :
    ∃ i, K.slotFor s k = some i := by
  refine Option.ne_none_iff_exists'.mp fun hnone => ?_
  unfold slotFor at hnone
  split at hnone
  · cases hnone
  · rename_i hfind
    have hused : ∀ i, K.used (s i) = true := by
      simpa using Fin.find?_eq_none_iff.mp hnone
    have hinto : ∀ i ∈ (Finset.univ : Finset (Fin n)), K.key (s i) ∈ ks.erase k := fun i _ =>
      Finset.mem_erase.mpr ⟨find_eq_none_iff.mp hfind i (hused i), hkeys i (hused i)⟩
    have hle := Finset.card_le_card_of_injOn _ hinto fun i _ j _ hij =>
      hd i j (hused i) (hused j) hij
    rw [Finset.card_univ, Fintype.card_fin, Finset.card_erase_of_mem hk] at hle
    have hpos := Finset.card_pos.mpr ⟨k, hk⟩
    omega

end Keyed

end FrameRunner.Lib
