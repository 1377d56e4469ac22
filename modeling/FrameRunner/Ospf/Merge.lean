import FrameRunner.Lib.Newest
import FrameRunner.Ospf.Lsu
import FrameRunner.Ospf.Sync

/-!
# The LSDB as a merge of LSAs

The LSDB (`protocols/ospf.c`, lines 397–467) holds one LSA per `lsa_id` and
`adv_router`, and a newer one replaces it. `ospfLsas` is what it holds without
the slots; against it, receiving LSUs is the merge of `Lib.Newest`.

Main results:

* `lsdbOk_ospfSim`: in every reachable state no two slots share a key, and
  `lsdb_count` counts the slots in use.
* `run_ospfDeliver_newest`: LSUs in any order, repeated and regrouped, leave the
  newest LSA of every key.
-/

namespace FrameRunner

open FrameRunner.Lib

/-! ## What an LSDB holds -/

namespace OspfLsa

/-- What identifies an LSA in the LSDB. -/
def key (lsa : OspfLsa) : UInt32 × UInt32 := (lsa.lsaId, lsa.advRouter)

/-- How new an LSA is. -/
def rank (lsa : OspfLsa) : ℕ := lsa.seqNum.toNat

end OspfLsa

/-- The LSAs of the LSDB. -/
def ospfLsas (state : OspfState) : Set OspfLsa :=
  {lsa | ∃ i, (state.lsdb i).valid = true ∧ (state.lsdb i).toLsa = lsa}

/-- No two slots share a key, and `lsdb_count` counts the slots in use. -/
structure LsdbOk (state : OspfState) : Prop where
  keys : ∀ i j, (state.lsdb i).valid = true → (state.lsdb j).valid = true →
    (state.lsdb i).toLsa.key = (state.lsdb j).toLsa.key → i = j
  count : state.lsdbCount = Slots.count OspfLsaEntry.valid state.lsdb

theorem ospfLsdbFind_eq_some {state : OspfState} {lsaId advRouter : UInt32}
    {i : Fin ospfLsdbSize} (h : ospfLsdbFind state lsaId advRouter = some i) :
    (state.lsdb i).valid = true ∧ (state.lsdb i).toLsa.key = (lsaId, advRouter) := by
  have hi := (Fin.find?_eq_some_iff.mp h).1
  simp only [Bool.and_eq_true, beq_iff_eq] at hi
  exact ⟨hi.1.1, Prod.ext hi.1.2 hi.2⟩

theorem ospfLsdbFind_eq_none {state : OspfState} {lsaId advRouter : UInt32}
    (h : ospfLsdbFind state lsaId advRouter = none) (i : Fin ospfLsdbSize)
    (hi : (state.lsdb i).valid = true) : (state.lsdb i).toLsa.key ≠ (lsaId, advRouter) := by
  have hno := Fin.find?_eq_none_iff.mp h i
  intro hkey
  obtain ⟨h1, h2⟩ := Prod.mk.inj hkey
  have h1 : (state.lsdb i).lsaId = lsaId := h1
  have h2 : (state.lsdb i).advRouter = advRouter := h2
  rw [hi, h1, h2] at hno
  simp at hno

/-- The keys of the LSDB are as many as its slots in use. -/
theorem LsdbOk.ncard_keys {state : OspfState} (h : LsdbOk state) :
    (OspfLsa.key '' ospfLsas state).ncard = state.lsdbCount := by
  have himage : OspfLsa.key '' ospfLsas state =
      (fun i => (state.lsdb i).toLsa.key) '' {i | (state.lsdb i).valid = true} := by
    ext k
    constructor
    · rintro ⟨_, ⟨i, hi, rfl⟩, rfl⟩
      exact ⟨i, hi, rfl⟩
    · rintro ⟨i, hi, rfl⟩
      exact ⟨_, ⟨i, hi, rfl⟩, rfl⟩
  have hinj : Set.InjOn (fun i => (state.lsdb i).toLsa.key) {i | (state.lsdb i).valid = true} :=
    fun i hi j hj he => h.keys i j hi hj he
  rw [himage, hinj.ncard_image, h.count, Slots.count, ← Set.ncard_coe_finset]
  simp

/-- The LSDB is finite. -/
theorem ospfLsas_finite (state : OspfState) : (ospfLsas state).Finite :=
  (Set.finite_range fun i => (state.lsdb i).toLsa).subset fun _ ⟨i, _, hi⟩ => ⟨i, hi⟩

/-! ## One LSA -/

/-- The slot of a parsed LSA is the one of its key, or a free one. -/
theorem ospfLsaSlot_eq_some {state : OspfState} {parsed : OspfLsaEntry} {i : Fin ospfLsdbSize}
    (h : ospfLsaSlot state parsed = some i) :
    ospfLsdbFind state parsed.lsaId parsed.advRouter = some i ∧
        (state.lsdb i).seqNum < parsed.seqNum ∨
      ospfLsdbFind state parsed.lsaId parsed.advRouter = none ∧ (state.lsdb i).valid = false := by
  cases hfind : ospfLsdbFind state parsed.lsaId parsed.advRouter with
  | some j =>
    by_cases hold : (state.lsdb j).seqNum < parsed.seqNum
    · rw [ospfLsaSlot_of_older hfind hold, Option.some.injEq] at h
      subst h
      exact .inl ⟨rfl, hold⟩
    · unfold ospfLsdbFind at hfind
      unfold ospfLsaSlot at h
      rw [hfind] at h
      dsimp only at h
      rw [if_pos (UInt32.not_lt.mp hold)] at h
      cases h
  | none =>
    rw [ospfLsaSlot_of_none hfind] at h
    have hi := (Fin.find?_eq_some_iff.mp h).1
    exact .inr ⟨rfl, by simpa using hi⟩

/-- The LSDB after a parsed LSA was stored. -/
theorem ospfApplyLsa_state {acc : OspfState × List (Fin ospfLsdbSize)} {parsed : OspfLsaEntry}
    {i : Fin ospfLsdbSize} (hslot : ospfLsaSlot acc.1 parsed = some i) :
    (ospfApplyLsa acc parsed).1 =
      { acc.1 with
          lsdb := Function.update acc.1.lsdb i { parsed with valid := true }
          lsdbCount := if (acc.1.lsdb i).valid then acc.1.lsdbCount else acc.1.lsdbCount + 1 } := by
  obtain ⟨state, changedSlots⟩ := acc
  unfold ospfApplyLsa
  dsimp only at hslot ⊢
  rw [hslot]

theorem ospfApplyLsa_of_none {acc : OspfState × List (Fin ospfLsdbSize)} {parsed : OspfLsaEntry}
    (hslot : ospfLsaSlot acc.1 parsed = none) : ospfApplyLsa acc parsed = acc := by
  obtain ⟨state, changedSlots⟩ := acc
  unfold ospfApplyLsa
  dsimp only at hslot ⊢
  rw [hslot]

/-- A stored LSA keeps the LSDB in order. -/
theorem LsdbOk.applyLsa {acc : OspfState × List (Fin ospfLsdbSize)} (h : LsdbOk acc.1)
    (parsed : OspfLsaEntry) : LsdbOk (ospfApplyLsa acc parsed).1 := by
  cases hslot : ospfLsaSlot acc.1 parsed with
  | none =>
    rw [ospfApplyLsa_of_none hslot]
    exact h
  | some i =>
    rw [ospfApplyLsa_state hslot]
    -- no other slot has the key
    have hother : ∀ j, j ≠ i → (acc.1.lsdb j).valid = true →
        (acc.1.lsdb j).toLsa.key ≠ (parsed.lsaId, parsed.advRouter) := by
      intro j hj hv hkey
      rcases ospfLsaSlot_eq_some hslot with ⟨hfind, -⟩ | ⟨hfind, -⟩
      · obtain ⟨hvi, hki⟩ := ospfLsdbFind_eq_some hfind
        exact hj (h.keys j i hv hvi (hkey.trans hki.symm))
      · exact ospfLsdbFind_eq_none hfind j hv hkey
    constructor
    · intro j k hj hk hkey
      dsimp only at hj hk hkey
      by_cases hji : j = i
      · subst hji
        by_cases hkj : k = j
        · exact hkj.symm
        · rw [Function.update_self, Function.update_of_ne hkj] at hkey
          rw [Function.update_of_ne hkj] at hk
          exact absurd hkey.symm (hother k hkj hk)
      · rw [Function.update_of_ne hji] at hj hkey
        by_cases hki : k = i
        · subst hki
          rw [Function.update_self] at hkey
          exact absurd hkey (hother j hji hj)
        · rw [Function.update_of_ne hki] at hk hkey
          exact h.keys j k hj hk hkey
    · have hcount := Slots.count_update OspfLsaEntry.valid acc.1.lsdb i { parsed with valid := true }
      have hold := h.count
      dsimp only at hcount ⊢
      cases hv : (acc.1.lsdb i).valid with
      | true =>
        simp only [hv, Bool.toNat_true] at hcount
        rw [if_pos rfl]
        omega
      | false =>
        simp only [hv, Bool.toNat_true, Bool.toNat_false] at hcount
        rw [if_neg Bool.false_ne_true]
        omega

/-! ## The merge -/

/-- The LSDB after the LSAs `A`: the newest of each key. -/
structure LsdbMerged (A : Set OspfLsa) (state : OspfState) : Prop where
  ok : LsdbOk state
  lsas : ospfLsas state = Newest OspfLsa.key OspfLsa.rank A

/-- What the LSDB holds after one store. -/
theorem ospfLsas_update {state : OspfState} {i : Fin ospfLsdbSize} {lsa : OspfLsa} {count : ℕ}
    (hok : LsdbOk state) :
    ospfLsas { state with
        lsdb := Function.update state.lsdb i { lsa.parsed with valid := true }, lsdbCount := count } =
      insert lsa (ospfLsas state \ {x | (state.lsdb i).valid = true ∧ x = (state.lsdb i).toLsa}) := by
  ext x
  constructor
  · rintro ⟨j, hj, rfl⟩
    dsimp only at hj ⊢
    by_cases hji : j = i
    · subst hji
      rw [Function.update_self]
      exact .inl lsa.toLsa_parsed
    · rw [Function.update_of_ne hji] at hj ⊢
      refine .inr ⟨⟨j, hj, rfl⟩, ?_⟩
      rintro ⟨hv, he⟩
      exact hji (hok.keys j i hj hv (congrArg OspfLsa.key he))
  · rintro (rfl | ⟨⟨j, hj, rfl⟩, hne⟩)
    · refine ⟨i, ?_, ?_⟩ <;> dsimp only <;> rw [Function.update_self]
      exact x.toLsa_parsed
    · have hji : j ≠ i := by
        rintro rfl
        exact hne ⟨hj, rfl⟩
      refine ⟨j, ?_, ?_⟩ <;> dsimp only <;> rw [Function.update_of_ne hji]
      exact hj

/-- One LSA more. The LSDB never runs out of slots, because the keys fit. -/
theorem LsdbMerged.applyLsa {A : Set OspfLsa} {acc : OspfState × List (Fin ospfLsdbSize)}
    (h : LsdbMerged A acc.1) {lsa : OspfLsa} (hfin : A.Finite)
    (hkeys : (OspfLsa.key '' insert lsa A).ncard ≤ ospfLsdbSize)
    (hcontents : Distinguished OspfLsa.key OspfLsa.rank (insert lsa A)) :
    LsdbMerged (insert lsa A) (ospfApplyLsa acc lsa.parsed).1 := by
  refine ⟨h.ok.applyLsa lsa.parsed, ?_⟩
  cases hfind : ospfLsdbFind acc.1 lsa.lsaId lsa.advRouter with
  | some i =>
    obtain ⟨hv, hkey⟩ := ospfLsdbFind_eq_some hfind
    have hmem : (acc.1.lsdb i).toLsa ∈ Newest OspfLsa.key OspfLsa.rank A :=
      h.lsas ▸ ⟨i, hv, rfl⟩
    by_cases hold : (acc.1.lsdb i).seqNum < lsa.seqNum
    · have hslot : ospfLsaSlot acc.1 lsa.parsed = some i := ospfLsaSlot_of_older hfind hold
      have hout : {x | (acc.1.lsdb i).valid = true ∧ x = (acc.1.lsdb i).toLsa} =
          {(acc.1.lsdb i).toLsa} := by
        ext x
        simp [hv]
      rw [ospfApplyLsa_state hslot, ospfLsas_update h.ok, h.lsas, hout,
        newest_insert_of_lt (hcontents.mono (Set.subset_insert _ _)) hmem hkey
          (UInt32.lt_iff_toNat_lt.mp hold)]
    · have hslot : ospfLsaSlot acc.1 lsa.parsed = none := by
        cases hs : ospfLsaSlot acc.1 lsa.parsed with
        | none => rfl
        | some j =>
          rcases ospfLsaSlot_eq_some hs with ⟨hj, hlt⟩ | ⟨hj, -⟩
          · rw [OspfLsa.parsed_lsaId, OspfLsa.parsed_advRouter, hfind, Option.some.injEq] at hj
            subst hj
            exact absurd hlt hold
          · rw [OspfLsa.parsed_lsaId, OspfLsa.parsed_advRouter, hfind] at hj
            cases hj
      rw [ospfApplyLsa_of_none hslot, h.lsas, newest_insert_of_le hcontents hmem hkey
        (UInt32.le_iff_toNat_le.mp (UInt32.not_lt.mp hold))]
  | none =>
    have hnew : ∀ b ∈ A, b.key ≠ lsa.key := by
      intro b hb hkey
      have himage : b.key ∈ OspfLsa.key '' Newest OspfLsa.key OspfLsa.rank A := by
        rw [image_key_newest hfin]
        exact ⟨b, hb, rfl⟩
      rw [← h.lsas] at himage
      obtain ⟨_, ⟨i, hv, rfl⟩, hi⟩ := himage
      exact ospfLsdbFind_eq_none hfind i hv (hi.trans hkey)
    -- the new key is one of at most 256, so a slot is free
    have hcount : Slots.count OspfLsaEntry.valid acc.1.lsdb < ospfLsdbSize := by
      have hnotMem : lsa.key ∉ OspfLsa.key '' A := by
        rintro ⟨b, hb, hkey⟩
        exact hnew b hb hkey
      rw [Set.image_insert_eq, Set.ncard_insert_of_notMem hnotMem (hfin.image _)] at hkeys
      rw [← h.ok.count, ← h.ok.ncard_keys, h.lsas, image_key_newest hfin]
      omega
    obtain ⟨j, hj⟩ := Slots.exists_of_count_lt hcount
    have hsome : (Fin.find? fun i => !(acc.1.lsdb i).valid).isSome = true :=
      Fin.isSome_find?_iff.mpr ⟨j, by rw [hj]; rfl⟩
    obtain ⟨i, hi⟩ := Option.isSome_iff_exists.mp hsome
    have hslot : ospfLsaSlot acc.1 lsa.parsed = some i := by
      rw [← hi]
      exact ospfLsaSlot_of_none hfind
    have hfree : (acc.1.lsdb i).valid = false := by simpa using (Fin.find?_eq_some_iff.mp hi).1
    have hout : {x | (acc.1.lsdb i).valid = true ∧ x = (acc.1.lsdb i).toLsa} = ∅ := by
      ext x
      simp [hfree]
    rw [ospfApplyLsa_state hslot, ospfLsas_update h.ok, h.lsas, hout, Set.sdiff_empty,
      newest_insert_of_new hnew]

/-- The LSAs of one LSU, one after the other. `T` is what the run brings in all. -/
theorem LsdbMerged.foldl {T : Set OspfLsa} (hfin : T.Finite)
    (hkeys : (OspfLsa.key '' T).ncard ≤ ospfLsdbSize)
    (hcontents : Distinguished OspfLsa.key OspfLsa.rank T) (lsas : List OspfLsa) :
    ∀ (A : Set OspfLsa) (acc : OspfState × List (Fin ospfLsdbSize)), A ⊆ T →
      (∀ lsa ∈ lsas, lsa ∈ T) → LsdbMerged A acc.1 →
      LsdbMerged (A ∪ {lsa | lsa ∈ lsas}) ((lsas.map OspfLsa.parsed).foldl ospfApplyLsa acc).1 := by
  induction lsas with
  | nil =>
    intro A acc _ _ h
    simpa using h
  | cons lsa lsas ih =>
    intro A acc hA hlsas h
    have hsub : insert lsa A ⊆ T := Set.insert_subset (hlsas lsa List.mem_cons_self) hA
    have hle : (OspfLsa.key '' insert lsa A).ncard ≤ (OspfLsa.key '' T).ncard :=
      Set.ncard_le_ncard (Set.image_mono hsub) (hfin.image _)
    have hone := h.applyLsa (hfin.subset hA) (hle.trans hkeys) (hcontents.mono hsub)
    have hrest := ih _ _ hsub (fun x hx => hlsas x (List.mem_cons_of_mem _ hx)) hone
    have hset : A ∪ {x | x ∈ lsa :: lsas} = insert lsa A ∪ {x | x ∈ lsas} := by
      ext x
      simp only [Set.mem_union, Set.mem_ofPred_eq, List.mem_cons, Set.mem_insert_iff]
      tauto
    rw [hset, List.map_cons, List.foldl_cons]
    exact hrest

/-! ## Deliveries -/

/-- A packet that reaches the router, and what the call sees. -/
structure OspfDelivery where
  env : OspfEnv
  iface : IfaceRef
  pkt : IpDatagram

/-- The state after a delivery. -/
def ospfDeliver (state : OspfState) (d : OspfDelivery) : OspfState :=
  (ospfReceive d.env state d.iface d.pkt).1

/-- The packet is a well-formed LSU for the area of `state`. -/
structure OspfDelivery.IsLsu (state : OspfState) (d : OspfDelivery) : Prop where
  header : OspfHeaderOk d.env state d.iface d.pkt
  type : getU8 d.pkt.data 1 = ospfTypeLsu
  lsas : ∃ lsas, OspfLsuOf d.pkt.data lsas

/-- The LSAs that the packets carry. -/
def deliveredLsas (deliveries : List OspfDelivery) : Set OspfLsa :=
  {lsa | ∃ d ∈ deliveries, ∃ lsas, OspfLsuOf d.pkt.data lsas ∧ lsa ∈ lsas}

/-- The bytes of an LSU say which LSAs it carries. -/
theorem OspfLsuOf.unique {data : List UInt8} {lsas lsas' : List OspfLsa} (h : OspfLsuOf data lsas)
    (h' : OspfLsuOf data lsas') : lsas = lsas' := by
  have e := (ospfParseLsu_eq_some.mpr ⟨lsas, h, rfl⟩).symm.trans
    (ospfParseLsu_eq_some.mpr ⟨lsas', h', rfl⟩)
  have hmap := congrArg (List.map OspfLsaEntry.toLsa) (Option.some.inj e)
  simpa [List.map_map, Function.comp_def] using hmap

theorem ospfApplyLsa_areaId (acc : OspfState × List (Fin ospfLsdbSize)) (parsed : OspfLsaEntry) :
    (ospfApplyLsa acc parsed).1.areaId = acc.1.areaId := by
  cases hslot : ospfLsaSlot acc.1 parsed with
  | none => rw [ospfApplyLsa_of_none hslot]
  | some i => rw [ospfApplyLsa_state hslot]

theorem foldl_ospfApplyLsa_areaId (parsed : List OspfLsaEntry) :
    ∀ acc, (parsed.foldl ospfApplyLsa acc).1.areaId = acc.1.areaId := by
  induction parsed with
  | nil => exact fun _ => rfl
  | cons p parsed ih =>
    intro acc
    rw [List.foldl_cons, ih, ospfApplyLsa_areaId]

/-- An LSU of the area stays one. -/
theorem OspfDelivery.IsLsu.congr {state state' : OspfState} {d : OspfDelivery}
    (h : d.IsLsu state) (harea : state'.areaId = state.areaId) : d.IsLsu state' :=
  ⟨{ h.header with areaId := h.header.areaId.trans harea.symm }, h.type, h.lsas⟩

/-- A delivered LSU is its LSAs, stored one after the other. -/
theorem OspfDelivery.IsLsu.deliver {state : OspfState} {d : OspfDelivery} (h : d.IsLsu state)
    {lsas : List OspfLsa} (hlsas : OspfLsuOf d.pkt.data lsas) :
    ospfDeliver state d = ((lsas.map OspfLsa.parsed).foldl ospfApplyLsa (state, [])).1 := by
  rw [ospfDeliver, h.header.receive_lsuOf h.type hlsas, ospfUpdateLsdb_state]

/-- A run of LSUs merges what they carry. -/
theorem LsdbMerged.run {T : Set OspfLsa} (hfin : T.Finite)
    (hkeys : (OspfLsa.key '' T).ncard ≤ ospfLsdbSize)
    (hcontents : Distinguished OspfLsa.key OspfLsa.rank T) (deliveries : List OspfDelivery) :
    ∀ {A : Set OspfLsa} {state : OspfState}, A ⊆ T → deliveredLsas deliveries ⊆ T →
      (∀ d ∈ deliveries, d.IsLsu state) → LsdbMerged A state →
      LsdbMerged (A ∪ deliveredLsas deliveries) (run ospfDeliver state deliveries) := by
  induction deliveries with
  | nil =>
    intro A state _ _ _ h
    simpa [deliveredLsas] using h
  | cons d deliveries ih =>
    intro A state hA hsub hlsu h
    obtain ⟨lsas, hlsas⟩ := (hlsu d List.mem_cons_self).lsas
    have hmem : ∀ lsa ∈ lsas, lsa ∈ T := fun lsa hl =>
      hsub ⟨d, List.mem_cons_self, lsas, hlsas, hl⟩
    have hone := LsdbMerged.foldl hfin hkeys hcontents lsas A (state, []) hA hmem h
    rw [← (hlsu d List.mem_cons_self).deliver hlsas] at hone
    have harea : (ospfDeliver state d).areaId = state.areaId := by
      rw [(hlsu d List.mem_cons_self).deliver hlsas]
      exact foldl_ospfApplyLsa_areaId _ _
    have hrest := ih (Set.union_subset hA hmem)
      (fun x ⟨e, he, hx⟩ => hsub ⟨e, List.mem_cons_of_mem _ he, hx⟩)
      (fun e he => (hlsu e (List.mem_cons_of_mem _ he)).congr harea) hone
    have hset : A ∪ deliveredLsas (d :: deliveries) =
        A ∪ {lsa | lsa ∈ lsas} ∪ deliveredLsas deliveries := by
      ext x
      constructor
      · rintro (hx | ⟨e, he, lsas', hlsas', hx⟩)
        · exact .inl (.inl hx)
        · rcases List.mem_cons.mp he with rfl | he
          · exact .inl (.inr (hlsas'.unique hlsas ▸ hx))
          · exact .inr ⟨e, he, lsas', hlsas', hx⟩
      · rintro ((hx | hx) | ⟨e, he, hx⟩)
        · exact .inl hx
        · exact .inr ⟨d, List.mem_cons_self, lsas, hlsas, hx⟩
        · exact .inr ⟨e, List.mem_cons_of_mem _ he, hx⟩
    rw [run_cons, hset]
    exact hrest

/-- An LSDB in order is the merge of what it holds. -/
theorem LsdbOk.merged {state : OspfState} (h : LsdbOk state) :
    LsdbMerged (ospfLsas state) state := by
  refine ⟨h, (newest_eq_self ?_).symm⟩
  rintro _ ⟨i, hi, rfl⟩ _ ⟨j, hj, rfl⟩ hkey
  rw [h.keys i j hi hj hkey]

theorem deliveredLsas_finite (deliveries : List OspfDelivery) :
    (deliveredLsas deliveries).Finite := by
  have hsub : deliveredLsas deliveries ⊆
      ⋃ d ∈ {d | d ∈ deliveries}, {lsa | ∃ lsas, OspfLsuOf d.pkt.data lsas ∧ lsa ∈ lsas} := by
    rintro lsa ⟨d, hd, hlsa⟩
    exact Set.mem_biUnion hd hlsa
  refine Set.Finite.subset (Set.Finite.biUnion (List.finite_toSet deliveries) fun d _ => ?_) hsub
  by_cases h : ∃ lsas, OspfLsuOf d.pkt.data lsas
  · obtain ⟨lsas, hlsas⟩ := h
    refine (List.finite_toSet lsas).subset ?_
    rintro lsa ⟨lsas', hlsas', hl⟩
    exact hlsas'.unique hlsas ▸ hl
  · refine Set.finite_empty.subset ?_
    rintro lsa ⟨lsas, hlsas, -⟩
    exact h ⟨lsas, hlsas⟩

/-! ## Every reachable LSDB is in order -/

theorem LsdbOk.congr {state state' : OspfState} (h : LsdbOk state)
    (hlsdb : state'.lsdb = state.lsdb) (hcount : state'.lsdbCount = state.lsdbCount) :
    LsdbOk state' := by
  refine ⟨?_, ?_⟩
  · rw [hlsdb]
    exact h.keys
  · rw [hlsdb, hcount]
    exact h.count

theorem lsdbOk_ospfInit (routerId : UInt32) : LsdbOk (ospfInit routerId) := by
  refine ⟨fun i _ hi => by simp [ospfInit] at hi, ?_⟩
  exact (Slots.count_eq_zero.mpr fun _ => rfl).symm

theorem LsdbOk.foldl {parsed : List OspfLsaEntry} :
    ∀ acc : OspfState × List (Fin ospfLsdbSize), LsdbOk acc.1 →
      LsdbOk (parsed.foldl ospfApplyLsa acc).1 := by
  induction parsed with
  | nil => exact fun _ h => h
  | cons p parsed ih =>
    intro acc h
    rw [List.foldl_cons]
    exact ih _ (h.applyLsa p)

theorem LsdbOk.receiveLsu {state : OspfState} (h : LsdbOk state) (env : OspfEnv)
    (iface : IfaceRef) (data : List UInt8) : LsdbOk (ospfReceiveLsu env state iface data).1 := by
  rw [ospfReceiveLsu_eq]
  cases ospfParseLsu data with
  | none => exact h
  | some parsedLsas =>
    dsimp only
    rw [ospfUpdateLsdb_state]
    exact LsdbOk.foldl _ h

theorem LsdbOk.receive {state : OspfState} (h : LsdbOk state) (env : OspfEnv) (iface : IfaceRef)
    (pkt : IpDatagram) : LsdbOk (ospfReceive env state iface pkt).1 := by
  rcases ospfReceive_switch env state iface pkt with he | ⟨-, he | he⟩ | ⟨-, he, -⟩
  · rw [he]
    exact h
  · rw [he]
    exact h
  · rw [he]
    exact h.receiveLsu env iface pkt.data
  · rcases ospfReceiveHello_eq env state iface pkt.srcIp pkt.data with hello | ⟨i, -, -, hello⟩
    · rw [he, hello]
      exact h
    · rw [he, hello]
      exact h.congr rfl rfl

/-- `ospf_enable_iface` changes the interfaces alone. -/
theorem ospfEnableIface_frame (state : OspfState) (iface : IfaceRef) (cost : UInt16) :
    ∃ ifaces n, (ospfEnableIface state iface cost).1 =
      { state with ifaces := ifaces, ifaceCount := n } := by
  unfold ospfEnableIface
  split
  · exact ⟨_, _, rfl⟩
  split
  · exact ⟨_, _, rfl⟩
  split
  · exact ⟨_, _, rfl⟩
  split
  · exact ⟨_, _, rfl⟩
  · exact ⟨_, _, rfl⟩

theorem LsdbOk.runCallback {s : OspfSim} (h : LsdbOk s.state) (env : OspfEnv)
    (callback : Option OspfCallback) : LsdbOk (s.runCallback env callback).state := by
  cases callback with
  | none => exact h
  | some callback =>
    cases callback with
    | other fn => exact h
    | ospf timer =>
      cases timer with
      | helloTimer => exact h
      | spfTimer => exact h
      | deadTimer => exact h.congr rfl rfl

theorem LsdbOk.step {s : OspfSim} (h : LsdbOk s.state) (input : OspfSimInput) :
    LsdbOk (ospfSimStep s input).state := by
  cases input with
  | enableIface iface cost =>
    obtain ⟨ifaces, n, he⟩ := ospfEnableIface_frame s.state iface cost
    show LsdbOk (ospfEnableIface s.state iface cost).1
    rw [he]
    exact h.congr rfl rfl
  | receive env iface pkt => exact h.receive _ _ _
  | schedule type timestamp data handler => exact h
  | register type fn => exact h
  | route op => exact h
  | step env =>
    unfold ospfSimStep
    cases schedulerStep s.sched with
    | none => exact h
    | some r =>
      obtain ⟨e, sched⟩ := r
      have h' : LsdbOk (OspfSim.state { s with sched := sched }) := h
      exact h'.runCallback _ _

/-- In every reachable state of a router the LSDB is in order. -/
theorem lsdbOk_ospfSim (routerId : UInt32) (inputs : List OspfSimInput) :
    LsdbOk (run ospfSimStep (ospfSimInit routerId) inputs).state :=
  run_invariant (fun s : OspfSim => LsdbOk s.state) (fun _ i h => h.step i) inputs _
    (lsdbOk_ospfInit routerId)

/-! ## The result of a run -/

/-- However the LSAs `lsas` arrive (in which order, how often and in which LSUs),
    the LSDB ends with the newest LSA of every key, one slot for each. -/
theorem run_ospfDeliver_newest {state : OspfState} {lsas : Set OspfLsa}
    {deliveries : List OspfDelivery} (hok : LsdbOk state)
    (hlsu : ∀ d ∈ deliveries, d.IsLsu state) (hall : deliveredLsas deliveries = lsas)
    (hkeys : (OspfLsa.key '' (ospfLsas state ∪ lsas)).ncard ≤ ospfLsdbSize)
    (hcontents : Distinguished OspfLsa.key OspfLsa.rank (ospfLsas state ∪ lsas)) :
    ospfLsas (run ospfDeliver state deliveries) =
        Newest OspfLsa.key OspfLsa.rank (ospfLsas state ∪ lsas) ∧
      LsdbOk (run ospfDeliver state deliveries) ∧
      (run ospfDeliver state deliveries).lsdbCount =
        (OspfLsa.key '' (ospfLsas state ∪ lsas)).ncard := by
  subst hall
  have hfin := (ospfLsas_finite state).union (deliveredLsas_finite deliveries)
  have hmerged := LsdbMerged.run hfin hkeys hcontents deliveries Set.subset_union_left
    Set.subset_union_right hlsu hok.merged
  refine ⟨hmerged.lsas, hmerged.ok, ?_⟩
  rw [← hmerged.ok.ncard_keys, hmerged.lsas, image_key_newest hfin]

/-- The LSA of a router, in one of its versions. -/
def exampleVersion (routerId seqNum : UInt32) : OspfLsa :=
  { lsaExample with lsaId := routerId, advRouter := routerId, seqNum := seqNum }

/-- An LSU with this LSA arrives. -/
def exampleDelivery (lsa : OspfLsa) : OspfDelivery :=
  ⟨{}, 0, ospfDatagram {} 0 (ospfLsuBytes (ospfInit 1) lsa.parsed)⟩

theorem ospfLsuOf_exampleDelivery (lsa : OspfLsa) :
    OspfLsuOf (exampleDelivery lsa).pkt.data [lsa] := by
  have h := ospfLsuOf_ospfLsuBytes (ospfInit 1) lsa.parsed
  rwa [lsa.toLsa_parsed] at h

theorem isLsu_exampleDelivery (lsa : OspfLsa) : (exampleDelivery lsa).IsLsu (ospfInit 2) := by
  obtain ⟨hheader, htype⟩ := @ospfHeaderOk_ospfLsuBytes {} {} (ospfInit 1) (ospfInit 2) lsa.parsed 0
    0 rfl (by decide)
  exact ⟨hheader, htype, _, ospfLsuOf_exampleDelivery lsa⟩

theorem deliveredLsas_exampleDelivery (lsas : List OspfLsa) :
    deliveredLsas (lsas.map exampleDelivery) = {lsa | lsa ∈ lsas} := by
  ext lsa
  constructor
  · rintro ⟨d, hd, lsas', hlsas, hmem⟩
    obtain ⟨lsa', hlsa', rfl⟩ := List.mem_map.mp hd
    rw [hlsas.unique (ospfLsuOf_exampleDelivery lsa')] at hmem
    rwa [List.mem_singleton.mp hmem]
  · intro hmem
    exact ⟨_, List.mem_map_of_mem hmem, _, ospfLsuOf_exampleDelivery lsa, List.mem_cons_self⟩

/-- Of router 1 the newer version arrives first, then the older one and the newer one again,
    with an LSA of router 3 in between. -/
def exampleVersions : List OspfLsa :=
  [exampleVersion 1 8, exampleVersion 3 5, exampleVersion 1 7, exampleVersion 1 8]

theorem newest_exampleVersions :
    Newest OspfLsa.key OspfLsa.rank {lsa | lsa ∈ exampleVersions} =
      {exampleVersion 1 8, exampleVersion 3 5} := by
  have hnewest : ∀ lsa ∈ exampleVersions, (∀ b ∈ exampleVersions,
      b.key = lsa.key → b.rank ≤ lsa.rank) ↔ lsa = exampleVersion 1 8 ∨ lsa = exampleVersion 3 5 := by
    decide +kernel
  have hmem : exampleVersion 1 8 ∈ exampleVersions ∧ exampleVersion 3 5 ∈ exampleVersions := by
    decide +kernel
  ext lsa
  constructor
  · exact fun h => (hnewest lsa h.1).mp h.2
  · rintro (rfl | rfl)
    · exact ⟨hmem.1, (hnewest _ hmem.1).mpr (.inl rfl)⟩
    · exact ⟨hmem.2, (hnewest _ hmem.2).mpr (.inr rfl)⟩

theorem ncard_exampleVersions : (OspfLsa.key '' {lsa | lsa ∈ exampleVersions}).ncard = 2 := by
  have hkeys : ∀ lsa ∈ exampleVersions, lsa.key = (1, 1) ∨ lsa.key = (3, 3) := by decide +kernel
  have hmem : exampleVersion 1 8 ∈ exampleVersions ∧ exampleVersion 3 5 ∈ exampleVersions := by
    decide +kernel
  have himage : OspfLsa.key '' {lsa | lsa ∈ exampleVersions} = {(1, 1), (3, 3)} := by
    ext k
    constructor
    · rintro ⟨lsa, hlsa, rfl⟩
      exact hkeys lsa hlsa
    · rintro (rfl | rfl)
      · exact ⟨_, hmem.1, rfl⟩
      · exact ⟨_, hmem.2, rfl⟩
  rw [himage]
  exact Set.ncard_pair (by decide)

theorem run_ospfDeliver_newest_exampleVersions :
    ospfLsas (run ospfDeliver (ospfInit 2) (exampleVersions.map exampleDelivery)) =
        {exampleVersion 1 8, exampleVersion 3 5} ∧
      LsdbOk (run ospfDeliver (ospfInit 2) (exampleVersions.map exampleDelivery)) ∧
      (run ospfDeliver (ospfInit 2) (exampleVersions.map exampleDelivery)).lsdbCount = 2 := by
  have hempty : ospfLsas (ospfInit 2) = ∅ := by
    refine Set.eq_empty_of_forall_notMem ?_
    rintro _ ⟨i, hi, -⟩
    simp [ospfInit] at hi
  have hlsu : ∀ d ∈ exampleVersions.map exampleDelivery, d.IsLsu (ospfInit 2) := by
    intro d hd
    obtain ⟨lsa, -, rfl⟩ := List.mem_map.mp hd
    exact isLsu_exampleDelivery lsa
  have hcontents : ∀ a ∈ exampleVersions, ∀ b ∈ exampleVersions,
      a.key = b.key → a.rank = b.rank → a = b := by decide +kernel
  have h := run_ospfDeliver_newest (lsdbOk_ospfInit 2) hlsu
    (deliveredLsas_exampleDelivery exampleVersions)
    (by rw [hempty, Set.empty_union, ncard_exampleVersions]; decide)
    (by rw [hempty, Set.empty_union]; exact hcontents)
  rwa [hempty, Set.empty_union, newest_exampleVersions, ncard_exampleVersions] at h

end FrameRunner
