import Mathlib.Data.Set.Card
import Mathlib.Tactic

/-!
# The newest record of every key

A store that keeps one record per key and replaces it by a record of higher rank
holds `Newest key rank A`, where `A` is the set of all records it was given. What
it holds does not depend on the order, the repetition or the grouping in which
`A` arrived, as long as no two records share key and rank (`Distinguished`).

* `newest_insert_of_le`, `newest_insert_of_lt`, `newest_insert_of_new`: one
  record more, by what the store has under its key.
* `image_key_newest`: every key of `A` has its newest record.
-/

namespace FrameRunner.Lib

variable {α κ ρ : Type*} {key : α → κ} {rank : α → ρ} {A : Set α} {a b : α}

/-- Key and rank tell the records of `A` apart. -/
def Distinguished (key : α → κ) (rank : α → ρ) (A : Set α) : Prop :=
  ∀ a ∈ A, ∀ b ∈ A, key a = key b → rank a = rank b → a = b

theorem Distinguished.mono {B : Set α} (h : Distinguished key rank B) (hAB : A ⊆ B) :
    Distinguished key rank A :=
  fun a ha b hb => h a (hAB ha) b (hAB hb)

variable [LinearOrder ρ]

/-- The records of `A` whose rank is highest for their key. -/
def Newest (key : α → κ) (rank : α → ρ) (A : Set α) : Set α :=
  {a ∈ A | ∀ b ∈ A, key b = key a → rank b ≤ rank a}

theorem newest_subset : Newest key rank A ⊆ A := fun _ ha => ha.1

/-- Two newest records of one key are the same. -/
theorem Distinguished.newest_unique (h : Distinguished key rank A) (ha : a ∈ Newest key rank A)
    (hb : b ∈ Newest key rank A) (hkey : key a = key b) : a = b :=
  h a ha.1 b hb.1 hkey (le_antisymm (hb.2 a ha.1 hkey) (ha.2 b hb.1 hkey.symm))

/-- A record that is not newer than the one of its key changes nothing. -/
theorem newest_insert_of_le (hd : Distinguished key rank (insert a A))
    (hb : b ∈ Newest key rank A) (hkey : key b = key a) (hle : rank a ≤ rank b) :
    Newest key rank (insert a A) = Newest key rank A := by
  ext c
  constructor
  · rintro ⟨hc, hmax⟩
    rcases hc with rfl | hc
    · -- it is the record that the store has
      have hbc : rank b ≤ rank c := hmax b (Set.mem_insert_of_mem c hb.1) hkey
      have hsame : b = c := hd b (Set.mem_insert_of_mem c hb.1) c (Set.mem_insert c A) hkey
        (le_antisymm hbc hle)
      exact hsame ▸ hb
    · exact ⟨hc, fun d hd' => hmax d (Set.mem_insert_of_mem a hd')⟩
  · rintro ⟨hc, hmax⟩
    refine ⟨Set.mem_insert_of_mem a hc, fun d hd' hk => ?_⟩
    rcases hd' with rfl | hd'
    · exact hle.trans (hmax b hb.1 (hkey.trans hk))
    · exact hmax d hd' hk

/-- A newer record replaces the one of its key. -/
theorem newest_insert_of_lt (hd : Distinguished key rank A) (hb : b ∈ Newest key rank A)
    (hkey : key b = key a) (hlt : rank b < rank a) :
    Newest key rank (insert a A) = insert a (Newest key rank A \ {b}) := by
  ext c
  constructor
  · rintro ⟨hc, hmax⟩
    rcases hc with rfl | hc
    · exact Set.mem_insert c _
    · refine Set.mem_insert_of_mem a ⟨⟨hc, fun d hd' => hmax d (Set.mem_insert_of_mem a hd')⟩, ?_⟩
      rintro rfl
      exact absurd (hmax a (Set.mem_insert a A) hkey.symm) (not_le.mpr hlt)
  · rintro (rfl | ⟨hc, hne⟩)
    · refine ⟨Set.mem_insert c A, fun d hd' hk => ?_⟩
      rcases hd' with rfl | hd'
      · exact le_rfl
      · exact (hb.2 d hd' (hk.trans hkey.symm)).trans hlt.le
    · refine ⟨Set.mem_insert_of_mem a hc.1, fun d hd' hk => ?_⟩
      rcases hd' with rfl | hd'
      · exact absurd (hd.newest_unique hc hb (hk.symm.trans hkey.symm)) hne
      · exact hc.2 d hd' hk

/-- A record of a new key is added. -/
theorem newest_insert_of_new (hnew : ∀ b ∈ A, key b ≠ key a) :
    Newest key rank (insert a A) = insert a (Newest key rank A) := by
  ext c
  constructor
  · rintro ⟨hc, hmax⟩
    rcases hc with rfl | hc
    · exact Set.mem_insert c _
    · exact Set.mem_insert_of_mem a ⟨hc, fun d hd => hmax d (Set.mem_insert_of_mem a hd)⟩
  · rintro (rfl | ⟨hc, hmax⟩)
    · refine ⟨Set.mem_insert c A, fun d hd hk => ?_⟩
      rcases hd with rfl | hd
      · exact le_rfl
      · exact absurd hk (hnew d hd)
    · refine ⟨Set.mem_insert_of_mem a hc, fun d hd hk => ?_⟩
      rcases hd with rfl | hd
      · exact absurd hk.symm (hnew c hc)
      · exact hmax d hd hk

/-- A store with one record per key holds the newest of what it holds. -/
theorem newest_eq_self (h : ∀ a ∈ A, ∀ b ∈ A, key a = key b → a = b) : Newest key rank A = A :=
  Set.Subset.antisymm newest_subset fun a ha =>
    ⟨ha, fun b hb hk => (congrArg rank (h b hb a ha hk)).le⟩

/-- Every key of a finite set has a newest record. -/
theorem image_key_newest (hfin : A.Finite) : key '' Newest key rank A = key '' A := by
  refine Set.Subset.antisymm (Set.image_mono newest_subset) ?_
  rintro _ ⟨a, ha, rfl⟩
  obtain ⟨b, ⟨hb, hkey⟩, hmax⟩ := Set.exists_max_image {b ∈ A | key b = key a} rank
    (hfin.subset (Set.sep_subset _ _)) ⟨a, ha, rfl⟩
  exact ⟨b, ⟨hb, fun c hc hk => hmax c ⟨hc, hk.trans hkey⟩⟩, hkey⟩

end FrameRunner.Lib
