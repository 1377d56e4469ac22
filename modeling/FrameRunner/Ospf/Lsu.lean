import FrameRunner.Lib.Records
import FrameRunner.Ospf.Protocol

/-!
# Link state updates on the wire

The encoding of an LSA (`OspfLsa.bytes`) against the two byte-offset loops of
`protocols/ospf.c`: the parse loop of `ospf_receive` (lines 312–395) and the
encoder `ospf_flood_lsa` (lines 624–722).

Main results:

* `ospfParseLsas_eq_some`: the parse loop accepts exactly the concatenations of
  LSA encodings, and reads the LSAs back.
* `ospfParseLsasWithin_eq`: with the offset and the `size_t` budget of the C
  code, no read leaves the packet and no subtraction wraps.
* `ospfReceive_lsu`: what `ospf_receive` does with an LSU.
* `ospfReceive_flood`: what a router does with an LSU that another one flooded.
-/

namespace FrameRunner

open FrameRunner.Lib

/-! ## LSAs and their encoding -/

/-- One LSA as an LSU carries it. -/
structure OspfLsa where
  lsaId : UInt32
  advRouter : UInt32
  seqNum : UInt32
  checksum : UInt16
  lsaType : UInt8
  links : List OspfLsaLink
  links_le : links.length ≤ ospfMaxLsaLinks
  deriving DecidableEq

namespace OspfLsa

/-- `OspfLsaWire` and the links behind it. -/
def bytes (lsa : OspfLsa) : List UInt8 :=
  be32 lsa.lsaId ++ be32 lsa.advRouter ++ be32 lsa.seqNum ++ be16 lsa.checksum ++
    [lsa.lsaType, UInt8.ofNat lsa.links.length] ++ lsa.links.flatMap ospfLinkBytes

/-- The entry that the parse loop makes of an LSA. -/
def parsed (lsa : OspfLsa) : OspfLsaEntry where
  lsaId := lsa.lsaId
  advRouter := lsa.advRouter
  seqNum := lsa.seqNum
  checksum := lsa.checksum
  lsaType := lsa.lsaType
  valid := false
  links := fun j => lsa.links.getD j {}
  linkCount := ⟨lsa.links.length, Nat.lt_succ_of_le lsa.links_le⟩

@[simp] theorem parsed_lsaId (lsa : OspfLsa) : lsa.parsed.lsaId = lsa.lsaId := rfl

@[simp] theorem parsed_advRouter (lsa : OspfLsa) : lsa.parsed.advRouter = lsa.advRouter := rfl

end OspfLsa

/-- What an LSDB entry says, without its unused links. -/
def OspfLsaEntry.toLsa (entry : OspfLsaEntry) : OspfLsa where
  lsaId := entry.lsaId
  advRouter := entry.advRouter
  seqNum := entry.seqNum
  checksum := entry.checksum
  lsaType := entry.lsaType
  links := List.ofFn entry.link
  links_le := by
    rw [List.length_ofFn]
    exact Nat.le_of_lt_succ entry.linkCount.isLt

@[simp] theorem OspfLsa.toLsa_parsed (lsa : OspfLsa) : lsa.parsed.toLsa = lsa := by
  have hlinks : List.ofFn lsa.parsed.link = lsa.links := by
    refine List.ext_getElem (by simp [parsed]) fun j _ hj => ?_
    rw [List.getElem_ofFn]
    show lsa.links.getD j {} = lsa.links[j]
    simp [List.getD_eq_getElem?_getD, List.getElem?_eq_getElem hj]
  simp only [OspfLsaEntry.toLsa, hlinks]
  rfl

/-! ## The links of one LSA -/

theorem length_ospfLinkBytes (link : OspfLsaLink) :
    (ospfLinkBytes link).length = ospfLsaLinkLen := rfl

/-- A link reads back as it was written. -/
theorem ospfParseLink_append (link : OspfLsaLink) (rest : List UInt8) :
    ospfParseLink (ospfLinkBytes link ++ rest) = link := by
  have h0 : getU32 (ospfLinkBytes link ++ rest) 0 = link.linkId := getU32_of_drop rfl
  have h4 : getU32 (ospfLinkBytes link ++ rest) 4 = link.linkData := getU32_of_drop rfl
  have h8 : getU8 (ospfLinkBytes link ++ rest) 8 = link.type := getU8_of_drop rfl
  have h9 : getU8 (ospfLinkBytes link ++ rest) 9 = link.numTos := getU8_of_drop rfl
  have h10 : getU16 (ospfLinkBytes link ++ rest) 10 = link.metric := getU16_of_drop rfl
  simp only [ospfParseLink, h0, h4, h8, h9, h10]

/-- Twelve bytes are the encoding of the link that is read from them. -/
theorem ospfLinkBytes_parseLink {bytes : List UInt8} (h : ospfLsaLinkLen ≤ bytes.length) :
    ospfLinkBytes (ospfParseLink bytes) ++ bytes.drop ospfLsaLinkLen = bytes := by
  have hlen : 12 ≤ bytes.length := h
  symm
  calc bytes = bytes.drop 0 := rfl
    _ = _ := by
      rw [drop_eq_be32 (by omega : 0 + 4 ≤ bytes.length),
        drop_eq_be32 (by omega : 0 + 4 + 4 ≤ bytes.length),
        drop_eq_getU8 (by omega : 0 + 4 + 4 < bytes.length),
        drop_eq_getU8 (by omega : 0 + 4 + 4 + 1 < bytes.length),
        drop_eq_be16 (by omega : 0 + 4 + 4 + 1 + 1 + 2 ≤ bytes.length)]
      rfl

/-- The links of an LSA read back as they were written. -/
theorem ospfParseLink_drop (links : List OspfLsaLink) (rest : List UInt8) {j : ℕ}
    (hj : j < links.length) :
    ospfParseLink ((links.flatMap ospfLinkBytes ++ rest).drop (j * ospfLsaLinkLen)) = links[j] := by
  rw [Records.drop_flatMap_getElem length_ospfLinkBytes rest hj, ospfParseLink_append]

/-- Enough bytes for `n` links are the encoding of `n` links. -/
theorem exists_flatMap_ospfLinkBytes (n : ℕ) :
    ∀ bytes : List UInt8, n * ospfLsaLinkLen ≤ bytes.length →
      ∃ links : List OspfLsaLink, links.length = n ∧
        bytes = links.flatMap ospfLinkBytes ++ bytes.drop (n * ospfLsaLinkLen) := by
  induction n with
  | zero => exact fun bytes _ => ⟨[], rfl, by simp⟩
  | succ n ih =>
    intro bytes h
    have hlen : ospfLsaLinkLen ≤ bytes.length := le_trans (Nat.le_mul_of_pos_left _ (by omega)) h
    obtain ⟨links, hn, hb⟩ := ih (bytes.drop ospfLsaLinkLen) (by
      rw [List.length_drop]
      rw [Nat.succ_mul] at h
      omega)
    refine ⟨ospfParseLink bytes :: links, by simp [hn], ?_⟩
    have hdrop : bytes.drop ((n + 1) * ospfLsaLinkLen) =
        (bytes.drop ospfLsaLinkLen).drop (n * ospfLsaLinkLen) := by
      rw [List.drop_drop]
      congr 1
      ring
    rw [List.flatMap_cons, List.append_assoc, hdrop, ← hb, ospfLinkBytes_parseLink hlen]

/-! ## The parse loop -/

theorem OspfLsa.length_bytes (lsa : OspfLsa) :
    lsa.bytes.length = ospfLsaWireLen + lsa.links.length * ospfLsaLinkLen := by
  rw [bytes, List.length_append, Records.length_flatMap length_ospfLinkBytes]
  rfl

/-- The fields of an LSA read back as they were written. -/
theorem OspfLsa.getFields (lsa : OspfLsa) (rest : List UInt8) :
    getU32 (lsa.bytes ++ rest) 0 = lsa.lsaId ∧ getU32 (lsa.bytes ++ rest) 4 = lsa.advRouter ∧
      getU32 (lsa.bytes ++ rest) 8 = lsa.seqNum ∧ getU16 (lsa.bytes ++ rest) 12 = lsa.checksum ∧
      getU8 (lsa.bytes ++ rest) 14 = lsa.lsaType ∧
      (getU8 (lsa.bytes ++ rest) 15).toNat = lsa.links.length := by
  have hcount : getU8 (lsa.bytes ++ rest) 15 = UInt8.ofNat lsa.links.length := getU8_of_drop rfl
  have hle := lsa.links_le
  refine ⟨getU32_of_drop rfl, getU32_of_drop rfl, getU32_of_drop rfl, getU16_of_drop rfl,
    getU8_of_drop rfl, ?_⟩
  rw [hcount, UInt8.toNat_ofNat']
  exact Nat.mod_eq_of_lt (lt_of_le_of_lt hle (by decide))

theorem OspfLsa.drop_bytes (lsa : OspfLsa) (rest : List UInt8) :
    (lsa.bytes ++ rest).drop ospfLsaWireLen = lsa.links.flatMap ospfLinkBytes ++ rest := rfl

/-- One round of the parse loop on an encoded LSA. -/
theorem ospfParseLsas_bytes (n : ℕ) (lsa : OspfLsa) (rest : List UInt8) :
    ospfParseLsas (n + 1) (lsa.bytes ++ rest) =
      (ospfParseLsas n rest).map fun r => (lsa.parsed :: r.1, r.2) := by
  obtain ⟨h0, h4, h8, h12, h14, h15⟩ := lsa.getFields rest
  have hlen := lsa.length_bytes
  have hwire : ¬ (lsa.bytes ++ rest).length < ospfLsaWireLen := by
    rw [List.length_append]
    omega
  have hlinks : (lsa.links.flatMap ospfLinkBytes ++ rest).length =
      lsa.links.length * ospfLsaLinkLen + rest.length := by
    rw [List.length_append, Records.length_flatMap length_ospfLinkBytes]
  have hrest : (lsa.links.flatMap ospfLinkBytes ++ rest).drop (lsa.links.length * ospfLsaLinkLen) =
      rest := by
    rw [← Records.length_flatMap length_ospfLinkBytes, List.drop_left]
  rw [ospfParseLsas, if_neg hwire, dif_pos (by rw [h15]; exact lsa.links_le)]
  simp only [h0, h4, h8, h12, h14, h15, lsa.drop_bytes, hrest]
  rw [if_neg (by omega)]
  have hparsed : lsa.parsed.links = fun j =>
      if j.val < lsa.links.length then
        ospfParseLink ((lsa.links.flatMap ospfLinkBytes ++ rest).drop (j.val * ospfLsaLinkLen))
      else {} := by
    funext j
    by_cases hj : j.val < lsa.links.length
    · rw [if_pos hj, ospfParseLink_drop _ _ hj]
      simp [OspfLsa.parsed, List.getD_eq_getElem?_getD, hj]
    · rw [if_neg hj]
      simp [OspfLsa.parsed, List.getD_eq_getElem?_getD, hj]
  rw [← hparsed]
  cases ospfParseLsas n rest <;> rfl

/-- Sixteen bytes are the encoding of the fields that are read from them. -/
theorem ospfLsaWire_bytes {cursor : List UInt8} (h : ospfLsaWireLen ≤ cursor.length) :
    cursor = be32 (getU32 cursor 0) ++ be32 (getU32 cursor 4) ++ be32 (getU32 cursor 8) ++
      be16 (getU16 cursor 12) ++ [getU8 cursor 14, getU8 cursor 15] ++
      cursor.drop ospfLsaWireLen := by
  have hlen : 16 ≤ cursor.length := h
  calc cursor = cursor.drop 0 := rfl
    _ = _ := by
      rw [drop_eq_be32 (by omega : 0 + 4 ≤ cursor.length),
        drop_eq_be32 (by omega : 0 + 4 + 4 ≤ cursor.length),
        drop_eq_be32 (by omega : 0 + 4 + 4 + 4 ≤ cursor.length),
        drop_eq_be16 (by omega : 0 + 4 + 4 + 4 + 2 ≤ cursor.length),
        drop_eq_getU8 (by omega : 0 + 4 + 4 + 4 + 2 < cursor.length),
        drop_eq_getU8 (by omega : 0 + 4 + 4 + 4 + 2 + 1 < cursor.length)]
      rfl

/-- A cursor that the loop gets past starts with an encoded LSA. -/
theorem ospfParseLsas_succ_cases (n : ℕ) (cursor : List UInt8) :
    (∃ (lsa : OspfLsa) (rest : List UInt8), cursor = lsa.bytes ++ rest) ∨
      ospfParseLsas (n + 1) cursor = none := by
  rw [ospfParseLsas]
  by_cases hwire : cursor.length < ospfLsaWireLen
  · rw [if_pos hwire]
    exact .inr rfl
  rw [if_neg hwire]
  by_cases hcount : (getU8 cursor 15).toNat ≤ ospfMaxLsaLinks
  · rw [dif_pos hcount]
    by_cases hlinks : (cursor.drop ospfLsaWireLen).length <
        (getU8 cursor 15).toNat * ospfLsaLinkLen
    · rw [if_pos hlinks]
      exact .inr rfl
    obtain ⟨links, hn, hb⟩ := exists_flatMap_ospfLinkBytes _ _ (not_lt.mp hlinks)
    have hbyte : UInt8.ofNat links.length = getU8 cursor 15 := by rw [hn, UInt8.ofNat_toNat]
    refine .inl ⟨⟨getU32 cursor 0, getU32 cursor 4, getU32 cursor 8, getU16 cursor 12,
      getU8 cursor 14, links, hn ▸ hcount⟩,
      (cursor.drop ospfLsaWireLen).drop ((getU8 cursor 15).toNat * ospfLsaLinkLen), ?_⟩
    rw [OspfLsa.bytes, List.append_assoc, ← hb]
    dsimp only
    rw [hbyte]
    exact ospfLsaWire_bytes (not_lt.mp hwire)
  · rw [dif_neg hcount]
    exact .inr rfl

/-- The parse loop accepts exactly the concatenations of LSA encodings. -/
theorem ospfParseLsas_eq_some (n : ℕ) :
    ∀ (cursor : List UInt8) (entries : List OspfLsaEntry) (rest : List UInt8),
      ospfParseLsas n cursor = some (entries, rest) ↔
        ∃ lsas : List OspfLsa, lsas.length = n ∧ entries = lsas.map OspfLsa.parsed ∧
          cursor = lsas.flatMap OspfLsa.bytes ++ rest := by
  induction n with
  | zero =>
    intro cursor entries rest
    rw [ospfParseLsas, Option.some.injEq, Prod.mk.injEq]
    constructor
    · rintro ⟨rfl, rfl⟩
      exact ⟨[], rfl, rfl, rfl⟩
    · rintro ⟨lsas, hn, rfl, rfl⟩
      obtain rfl : lsas = [] := List.eq_nil_of_length_eq_zero hn
      exact ⟨rfl, rfl⟩
  | succ n ih =>
    intro cursor entries rest
    constructor
    · intro h
      rcases ospfParseLsas_succ_cases n cursor with ⟨lsa, tail, rfl⟩ | hnone
      · rw [ospfParseLsas_bytes] at h
        obtain ⟨⟨entries', rest'⟩, h', he⟩ := Option.map_eq_some_iff.mp h
        obtain ⟨lsas, hn, rfl, rfl⟩ := (ih _ _ _).mp h'
        cases he
        exact ⟨lsa :: lsas, by simp [hn], by simp, by simp⟩
      · rw [hnone] at h
        cases h
    · rintro ⟨lsas, hn, rfl, rfl⟩
      cases lsas with
      | nil => cases hn
      | cons lsa lsas =>
        have htail := (ih (lsas.flatMap OspfLsa.bytes ++ rest) _ rest).mpr
          ⟨lsas, by simpa using hn, rfl, rfl⟩
        rw [List.flatMap_cons, List.append_assoc, ospfParseLsas_bytes, htail]
        rfl

/-! ## Reads stay within the packet -/

/-- One link read at an offset (lines 375–383); `none` is a read beyond `data`. -/
def ospfReadLink (data : List UInt8) (cursor : ℕ) : Option OspfLsaLink := do
  let linkId ← readWithin getU32 4 data cursor
  let linkData ← readWithin getU32 4 data (cursor + 4)
  let type ← readWithin getU8 1 data (cursor + 8)
  let numTos ← readWithin getU8 1 data (cursor + 9)
  let metric ← readWithin getU16 2 data (cursor + 10)
  some { linkId, linkData, type, numTos, metric }

/-- The link loop (lines 374–384). -/
def ospfReadLinks (data : List UInt8) : ℕ → ℕ → Option (List OspfLsaLink)
  | 0, _ => some []
  | linkCount + 1, cursor => do
    let link ← ospfReadLink data cursor
    let links ← ospfReadLinks data linkCount (cursor + ospfLsaLinkLen)
    some (link :: links)

/-- The parse loop (lines 338–388) as the C code counts: `cursor` is an offset
    into `data` and `remaining` a `size_t`. The outer `none` is a read beyond
    `data`, the inner one the `return -1`. -/
def ospfParseLsasWithin (data : List UInt8) :
    ℕ → ℕ → UInt64 → Option (Option (List OspfLsaEntry × UInt64))
  | 0, _, remaining => some (some ([], remaining))
  | lsaCount + 1, cursor, remaining =>
    if remaining < 16 then some none
    else do
      let lsaId ← readWithin getU32 4 data cursor
      let advRouter ← readWithin getU32 4 data (cursor + 4)
      let seqNum ← readWithin getU32 4 data (cursor + 8)
      let checksum ← readWithin getU16 2 data (cursor + 12)
      let lsaType ← readWithin getU8 1 data (cursor + 14)
      let linkCount ← readWithin getU8 1 data (cursor + 15)
      let cursor := cursor + ospfLsaWireLen
      let remaining := remaining - 16
      if h : linkCount.toNat ≤ ospfMaxLsaLinks then
        let linkBytes : UInt64 := linkCount.toUInt64 * 12
        if remaining < linkBytes then some none
        else do
          let links ← ospfReadLinks data linkCount.toNat cursor
          let parsed : OspfLsaEntry :=
            { lsaId, advRouter, seqNum, checksum, lsaType, valid := false,
              links := fun j => links.getD j {}, linkCount := ⟨_, Nat.lt_succ_of_le h⟩ }
          match ← ospfParseLsasWithin data lsaCount (cursor + linkCount.toNat * ospfLsaLinkLen)
            (remaining - linkBytes) with
          | none => some none
          | some (lsas, remaining) => some (some (parsed :: lsas, remaining))
      else some none

theorem ospfReadLink_eq {data : List UInt8} {cursor : ℕ}
    (h : cursor + ospfLsaLinkLen ≤ data.length) :
    ospfReadLink data cursor = some (ospfParseLink (data.drop cursor)) := by
  have hlen : cursor + 12 ≤ data.length := h
  simp only [ospfReadLink, readWithin_eq (by omega : cursor + 4 ≤ data.length),
    readWithin_eq (by omega : cursor + 4 + 4 ≤ data.length),
    readWithin_eq (by omega : cursor + 8 + 1 ≤ data.length),
    readWithin_eq (by omega : cursor + 9 + 1 ≤ data.length),
    readWithin_eq (by omega : cursor + 10 + 2 ≤ data.length), ospfParseLink, getU8_drop,
    getU16_drop, getU32_drop, Option.bind_eq_bind, Option.bind_some, Nat.add_zero]

theorem ospfReadLinks_eq {data : List UInt8} (n : ℕ) :
    ∀ cursor, cursor + n * ospfLsaLinkLen ≤ data.length →
      ospfReadLinks data n cursor = some ((List.range n).map fun j =>
        ospfParseLink (data.drop (cursor + j * ospfLsaLinkLen))) := by
  induction n with
  | zero => exact fun _ _ => rfl
  | succ n ih =>
    intro cursor h
    rw [Nat.succ_mul] at h
    rw [ospfReadLinks, ospfReadLink_eq (by omega), ih _ (by omega), List.range_succ_eq_map]
    simp only [Option.bind_eq_bind, Option.bind_some, List.map_cons, List.map_map, Nat.zero_mul,
      Nat.add_zero, Option.some.injEq, List.cons.injEq, true_and]
    refine List.map_congr_left fun j _ => ?_
    simp only [Function.comp_apply, Nat.succ_mul]
    congr 2
    omega

/-- The links that the loop read, as `parsed->links` has them. -/
theorem ospfReadLinks_slots (data : List UInt8) (cursor linkCount : ℕ) :
    (fun j : Fin ospfMaxLsaLinks => ((List.range linkCount).map fun k =>
      ospfParseLink (data.drop (cursor + ospfLsaWireLen + k * ospfLsaLinkLen))).getD j {}) =
      fun j : Fin ospfMaxLsaLinks => if j.val < linkCount then
        ospfParseLink (((data.drop cursor).drop ospfLsaWireLen).drop (j * ospfLsaLinkLen))
      else {} := by
  funext j
  by_cases hj : j.val < linkCount <;> simp [List.getD_eq_getElem?_getD, hj, List.drop_drop]

/-- No read of the parse loop leaves the packet, and its budget never wraps. -/
theorem ospfParseLsasWithin_eq {data : List UInt8} (n : ℕ) :
    ∀ (cursor : ℕ) (remaining : UInt64), cursor + remaining.toNat = data.length →
      ospfParseLsasWithin data n cursor remaining =
        some ((ospfParseLsas n (data.drop cursor)).map fun r =>
          (r.1, UInt64.ofNat r.2.length)) := by
  induction n with
  | zero =>
    intro cursor remaining h
    have hlen : (data.drop cursor).length = remaining.toNat := by
      rw [List.length_drop]
      omega
    rw [ospfParseLsasWithin, ospfParseLsas, Option.map_some, hlen, UInt64.ofNat_toNat]
  | succ n ih =>
    intro cursor remaining h
    have hlen : (data.drop cursor).length = remaining.toNat := by
      rw [List.length_drop]
      omega
    have hsmall : remaining < 16 ↔ (data.drop cursor).length < ospfLsaWireLen := by
      rw [hlen, UInt64.lt_iff_toNat_lt]
      rfl
    rw [ospfParseLsasWithin, ospfParseLsas]
    by_cases hwire : (data.drop cursor).length < ospfLsaWireLen
    · rw [if_pos (hsmall.mpr hwire), if_pos hwire]
      rfl
    rw [if_neg (hsmall.not.mpr hwire), if_neg hwire]
    have h16 : 16 ≤ remaining.toNat := by
      rw [← hlen]
      exact not_lt.mp hwire
    simp only [readWithin_eq (by omega : cursor + 4 ≤ data.length),
      readWithin_eq (by omega : cursor + 4 + 4 ≤ data.length),
      readWithin_eq (by omega : cursor + 8 + 4 ≤ data.length),
      readWithin_eq (by omega : cursor + 12 + 2 ≤ data.length),
      readWithin_eq (by omega : cursor + 14 + 1 ≤ data.length),
      readWithin_eq (by omega : cursor + 15 + 1 ≤ data.length), Option.bind_eq_bind,
      Option.bind_some, getU8_drop, getU16_drop, getU32_drop, Nat.add_zero]
    by_cases hcount : (getU8 data (cursor + 15)).toNat ≤ ospfMaxLsaLinks
    · rw [dif_pos hcount, dif_pos hcount]
      have hrem : (remaining - 16).toNat = remaining.toNat - 16 :=
        UInt64.toNat_sub_of_le _ _ (UInt64.le_iff_toNat_le.mpr h16)
      have hbytes : ((getU8 data (cursor + 15)).toUInt64 * 12).toNat =
          (getU8 data (cursor + 15)).toNat * ospfLsaLinkLen := by
        rw [UInt64.toNat_mul, UInt8.toNat_toUInt64]
        exact Nat.mod_eq_of_lt (lt_of_le_of_lt (Nat.mul_le_mul_right _ hcount) (by decide))
      have hlinksLen : ((data.drop cursor).drop ospfLsaWireLen).length = remaining.toNat - 16 := by
        rw [List.length_drop, hlen]
        rfl
      have hshort : remaining - 16 < (getU8 data (cursor + 15)).toUInt64 * 12 ↔
          ((data.drop cursor).drop ospfLsaWireLen).length <
            (getU8 data (cursor + 15)).toNat * ospfLsaLinkLen := by
        rw [UInt64.lt_iff_toNat_lt, hrem, hbytes, hlinksLen]
      by_cases hlinks : ((data.drop cursor).drop ospfLsaWireLen).length <
          (getU8 data (cursor + 15)).toNat * ospfLsaLinkLen
      · rw [if_pos (hshort.mpr hlinks), if_pos hlinks]
        rfl
      rw [if_neg (hshort.not.mpr hlinks), if_neg hlinks]
      have hfit : (getU8 data (cursor + 15)).toNat * ospfLsaLinkLen ≤ remaining.toNat - 16 := by
        rw [← hlinksLen]
        exact not_lt.mp hlinks
      have hrest : (remaining - 16 - (getU8 data (cursor + 15)).toUInt64 * 12).toNat =
          remaining.toNat - 16 - (getU8 data (cursor + 15)).toNat * ospfLsaLinkLen := by
        rw [UInt64.toNat_sub_of_le _ _ (UInt64.le_iff_toNat_le.mpr (by rw [hrem, hbytes]; exact hfit)),
          hrem, hbytes]
      have hwireLen : ospfLsaWireLen = 16 := rfl
      rw [ospfReadLinks_eq _ _ (by omega), ih _ _ (by rw [hrest]; omega)]
      have hdrop : data.drop (cursor + ospfLsaWireLen +
          (getU8 data (cursor + 15)).toNat * ospfLsaLinkLen) =
          ((data.drop cursor).drop ospfLsaWireLen).drop
            ((getU8 data (cursor + 15)).toNat * ospfLsaLinkLen) := by
        simp only [List.drop_drop]
      rw [hdrop]
      simp only [Option.bind_some, ospfReadLinks_slots]
      cases ospfParseLsas n (((data.drop cursor).drop ospfLsaWireLen).drop
        ((getU8 data (cursor + 15)).toNat * ospfLsaLinkLen)) <;> rfl
    · rw [dif_neg hcount, dif_neg hcount]
      rfl

/-! ## The LSU case of `ospf_receive` -/

/-- The LSAs that the LSU case reads before it changes anything (lines 312–395);
    `none` is one of its `return -1`. -/
def ospfParseLsu (data : List UInt8) : Option (List OspfLsaEntry) :=
  if data.length < ospfHeaderLen + ospfLsuHeaderLen then none
  else if (getU16 data 24).toNat > ospfLsdbSize then none
  else
    match ospfParseLsas (getU16 data 24).toNat (data.drop (ospfHeaderLen + ospfLsuHeaderLen)) with
    | none => none
    | some (parsedLsas, remaining) => if remaining ≠ [] then none else some parsedLsas

/-- `ospfParseLsu` as the C code counts; the outer `none` is a read beyond `data`. -/
def ospfParseLsuWithin (data : List UInt8) : Option (Option (List OspfLsaEntry)) :=
  if data.length < ospfHeaderLen + ospfLsuHeaderLen then some none
  else do
    let lsaCount ← readWithin getU16 2 data 24
    if lsaCount.toNat > ospfLsdbSize then some none
    else
      match ← ospfParseLsasWithin data lsaCount.toNat (ospfHeaderLen + ospfLsuHeaderLen)
        (UInt64.ofNat data.length - 24 - 4) with
      | none => some none
      | some (parsedLsas, remaining) => if remaining ≠ 0 then some none else some (some parsedLsas)

/-- The update of the LSDB with the LSAs of one LSU (lines 397–504). -/
def ospfUpdateLsdb (env : OspfEnv) (state : OspfState) (iface : IfaceRef)
    (parsedLsas : List OspfLsaEntry) : OspfState × Int × OspfOut :=
  let (state, changedSlots) := parsedLsas.foldl ospfApplyLsa (state, [])
  let (sent, postprocessFailed) := ospfFloodSlots env state iface changedSlots
  let events := if changedSlots ≠ [] then
      ospfScheduleEvent env .ospfSpf ospfSpfDelayUs .spfTimer
    else []
  (state, if postprocessFailed then -1 else 0, { sent := sent, events := events })

/-- The bytes of an LSU that carries `lsas`: its count, and after the LSU header
    their encodings and nothing else. -/
structure OspfLsuOf (data : List UInt8) (lsas : List OspfLsa) : Prop where
  header : ospfHeaderLen + ospfLsuHeaderLen ≤ data.length
  count : (getU16 data 24).toNat = lsas.length
  count_le : lsas.length ≤ ospfLsdbSize
  body : data.drop (ospfHeaderLen + ospfLsuHeaderLen) = lsas.flatMap OspfLsa.bytes

theorem ospfReceiveLsu_eq (env : OspfEnv) (state : OspfState) (iface : IfaceRef)
    (data : List UInt8) :
    ospfReceiveLsu env state iface data =
      match ospfParseLsu data with
      | none => (state, -1, {})
      | some parsedLsas => ospfUpdateLsdb env state iface parsedLsas := by
  unfold ospfReceiveLsu ospfParseLsu
  by_cases hlen : data.length < ospfHeaderLen + ospfLsuHeaderLen
  · rw [if_pos hlen, if_pos hlen]
  rw [if_neg hlen, if_neg hlen]
  dsimp only
  by_cases hcount : (getU16 data 24).toNat > ospfLsdbSize
  · rw [if_pos hcount, if_pos hcount]
  rw [if_neg hcount, if_neg hcount]
  cases ospfParseLsas (getU16 data 24).toNat (data.drop (ospfHeaderLen + ospfLsuHeaderLen)) with
  | none => rfl
  | some r =>
    by_cases hrest : r.2 ≠ []
    · simp only [if_pos hrest]
    · simp only [if_neg hrest]
      rfl

/-- The parse succeeds on the LSUs, with their LSAs. -/
theorem ospfParseLsu_eq_some {data : List UInt8} {parsedLsas : List OspfLsaEntry} :
    ospfParseLsu data = some parsedLsas ↔
      ∃ lsas, OspfLsuOf data lsas ∧ parsedLsas = lsas.map OspfLsa.parsed := by
  unfold ospfParseLsu
  constructor
  · intro h
    by_cases hlen : data.length < ospfHeaderLen + ospfLsuHeaderLen
    · rw [if_pos hlen] at h
      cases h
    rw [if_neg hlen] at h
    by_cases hcount : (getU16 data 24).toNat > ospfLsdbSize
    · rw [if_pos hcount] at h
      cases h
    rw [if_neg hcount] at h
    cases hparse : ospfParseLsas (getU16 data 24).toNat
      (data.drop (ospfHeaderLen + ospfLsuHeaderLen)) with
    | none =>
      rw [hparse] at h
      cases h
    | some r =>
      obtain ⟨entries, rest⟩ := r
      rw [hparse] at h
      by_cases hrest : rest ≠ []
      · simp only [if_pos hrest] at h
        cases h
      simp only [if_neg hrest, Option.some.injEq] at h
      obtain rfl : rest = [] := not_not.mp hrest
      obtain ⟨lsas, hn, rfl, hbody⟩ := (ospfParseLsas_eq_some _ _ _ _).mp hparse
      exact ⟨lsas, ⟨not_lt.mp hlen, hn.symm, hn ▸ not_lt.mp hcount, by simpa using hbody⟩, h.symm⟩
  · rintro ⟨lsas, hlsu, rfl⟩
    have hparse := (ospfParseLsas_eq_some _ _ _ _).mpr
      ⟨lsas, hlsu.count.symm, rfl, hlsu.body.trans (List.append_nil _).symm⟩
    rw [if_neg (not_lt.mpr hlsu.header), if_neg (not_lt.mpr (hlsu.count.trans_le hlsu.count_le)),
      hparse]
    rfl

/-- No read of the LSU case leaves the packet. -/
theorem ospfParseLsuWithin_eq {data : List UInt8} (hdata : data.length < 2 ^ 64) :
    ospfParseLsuWithin data = some (ospfParseLsu data) := by
  unfold ospfParseLsuWithin ospfParseLsu
  by_cases hlen : data.length < ospfHeaderLen + ospfLsuHeaderLen
  · rw [if_pos hlen, if_pos hlen]
  rw [if_neg hlen, if_neg hlen]
  have h28 : 28 ≤ data.length := not_lt.mp hlen
  rw [readWithin_eq (by omega), Option.bind_eq_bind, Option.bind_some]
  by_cases hcount : (getU16 data 24).toNat > ospfLsdbSize
  · rw [if_pos hcount, if_pos hcount]
  rw [if_neg hcount, if_neg hcount]
  have hlength : (UInt64.ofNat data.length).toNat = data.length := by
    rw [UInt64.toNat_ofNat']
    exact Nat.mod_eq_of_lt hdata
  have h24 : (UInt64.ofNat data.length - 24).toNat = data.length - 24 := by
    rw [UInt64.toNat_sub_of_le _ _ (UInt64.le_iff_toNat_le.mpr (by
      rw [hlength]
      exact le_trans (by decide) h28)), hlength]
    rfl
  have hremaining : (UInt64.ofNat data.length - 24 - 4).toNat = data.length - 28 := by
    rw [UInt64.toNat_sub_of_le _ _ (UInt64.le_iff_toNat_le.mpr (by
      rw [h24]
      exact le_trans (by decide) (Nat.sub_le_sub_right h28 24))), h24]
    exact Nat.sub_sub _ _ _
  have hbody : ospfHeaderLen + ospfLsuHeaderLen = 28 := rfl
  rw [ospfParseLsasWithin_eq _ _ _ (by rw [hremaining]; omega), Option.bind_eq_bind,
    Option.bind_some]
  cases hparse : ospfParseLsas (getU16 data 24).toNat
    (data.drop (ospfHeaderLen + ospfLsuHeaderLen)) with
  | none => rfl
  | some r =>
    obtain ⟨entries, rest⟩ := r
    obtain ⟨lsas, -, -, hsplit⟩ := (ospfParseLsas_eq_some _ _ _ _).mp hparse
    have hrestLen : rest.length < 2 ^ 64 := by
      have := congrArg List.length hsplit
      rw [List.length_drop, List.length_append] at this
      omega
    have hzero : UInt64.ofNat rest.length = 0 ↔ rest = [] := by
      rw [← UInt64.toNat_inj, UInt64.toNat_ofNat', Nat.mod_eq_of_lt hrestLen]
      exact List.length_eq_zero_iff
    by_cases hrest : rest = []
    · simp [hrest]
    · simp [hrest, hzero]

/-- The checks of `ospf_receive` before it looks at the type (lines 132–216). -/
structure OspfHeaderOk (env : OspfEnv) (state : OspfState) (iface : IfaceRef) (pkt : IpDatagram) :
    Prop where
  prefixLen : env.prefixLen iface ≤ 32
  length : ospfHeaderLen ≤ pkt.data.length
  protocol : pkt.protocol = ospfProtoNum
  version : getU8 pkt.data 0 = ospfVersion
  areaId : getU32 pkt.data 8 = state.areaId
  pktLen : (getU16 pkt.data 2).toNat = pkt.data.length
  checksum : getU16 pkt.data 12 = 0
  auth : getU16 pkt.data 14 = 0 ∧ getU32 pkt.data 16 = 0 ∧ getU32 pkt.data 20 = 0

section Receive

variable {env : OspfEnv} {state : OspfState} {iface : IfaceRef} {pkt : IpDatagram}

theorem OspfHeaderOk.receiveLsu (h : OspfHeaderOk env state iface pkt)
    (htype : getU8 pkt.data 1 = ospfTypeLsu) :
    ospfReceive env state iface pkt = ospfReceiveLsu env state iface pkt.data := by
  unfold ospfReceive
  rw [if_neg (UInt8.not_lt.mpr h.prefixLen), if_neg (not_lt.mpr h.length),
    if_neg (not_not.mpr h.protocol), if_neg (not_not.mpr h.version), if_neg (not_not.mpr h.areaId),
    if_neg (not_not.mpr h.pktLen), if_neg (not_not.mpr h.checksum)]
  rw [if_neg (by simp [h.auth])]
  dsimp only
  rw [htype, if_neg (by decide), if_pos rfl]

/-- An LSU with the LSAs `lsas` goes to the update with all of them. -/
theorem OspfHeaderOk.receive_lsuOf (h : OspfHeaderOk env state iface pkt)
    (htype : getU8 pkt.data 1 = ospfTypeLsu) {lsas : List OspfLsa}
    (hlsu : OspfLsuOf pkt.data lsas) :
    ospfReceive env state iface pkt =
      ospfUpdateLsdb env state iface (lsas.map OspfLsa.parsed) := by
  rw [h.receiveLsu htype, ospfReceiveLsu_eq, ospfParseLsu_eq_some.mpr ⟨lsas, hlsu, rfl⟩]

/-- A packet of type LSU with a good header reaches the update of the LSDB exactly
    when its bytes are those of an LSU, and then with all of its LSAs; no byte
    outside of it is read, and nothing else changes anything. -/
theorem ospfReceive_lsu (h : OspfHeaderOk env state iface pkt)
    (htype : getU8 pkt.data 1 = ospfTypeLsu) :
    (∀ parsedLsas, ospfParseLsu pkt.data = some parsedLsas ↔
        ∃ lsas, OspfLsuOf pkt.data lsas ∧ parsedLsas = lsas.map OspfLsa.parsed) ∧
      (∀ lsas, OspfLsuOf pkt.data lsas → ospfReceive env state iface pkt =
        ospfUpdateLsdb env state iface (lsas.map OspfLsa.parsed)) ∧
      ((∀ lsas, ¬ OspfLsuOf pkt.data lsas) →
        ospfReceive env state iface pkt = (state, -1, {})) ∧
      ospfParseLsuWithin pkt.data = some (ospfParseLsu pkt.data) := by
  refine ⟨fun _ => ospfParseLsu_eq_some, fun lsas hlsu => h.receive_lsuOf htype hlsu,
    fun hno => ?_, ospfParseLsuWithin_eq ?_⟩
  · have hparse : ospfParseLsu pkt.data = none := by
      refine Option.eq_none_iff_forall_ne_some.mpr fun parsedLsas hsome => ?_
      obtain ⟨lsas, hlsu, -⟩ := ospfParseLsu_eq_some.mp hsome
      exact hno lsas hlsu
    rw [h.receiveLsu htype, ospfReceiveLsu_eq, hparse]
  · have hlen := (getU16 pkt.data 2).toNat_lt
    rw [h.pktLen] at hlen
    exact lt_trans hlen (by decide)

end Receive

/-- A router LSA with one link. -/
def lsaExample : OspfLsa where
  lsaId := 1
  advRouter := 1
  seqNum := 7
  checksum := 0
  lsaType := ospfLsaTypeRouter
  links := [{ linkId := 2, linkData := 0x0A000001, type := ospfLinkP2p, metric := 10 }]
  links_le := Nat.le_of_lt_succ one_lt_ospfMaxLsaLinks

/-- Router 1 floods it to the interface 0. -/
def lsuExample : IpDatagram := ospfDatagram {} 0 (ospfLsuBytes (ospfInit 1) lsaExample.parsed)

theorem lsuExample_headerOk : OspfHeaderOk {} (ospfInit 2) 0 lsuExample :=
  ⟨by decide, by decide, rfl, by decide, by decide, by decide, by decide, by decide⟩

theorem lsuExample_lsuOf : OspfLsuOf lsuExample.data [lsaExample] :=
  ⟨by decide, by decide, by decide, by decide⟩

theorem ospfReceive_lsu_lsuExample :
    ospfReceive {} (ospfInit 2) 0 lsuExample =
      ospfUpdateLsdb {} (ospfInit 2) 0 [lsaExample.parsed] :=
  (ospfReceive_lsu lsuExample_headerOk (by decide)).2.1 [lsaExample] lsuExample_lsuOf

/-! ## The LSU that a router floods -/

/-- The slot of a key in the LSDB. -/
def ospfLsdbFind (state : OspfState) (lsaId advRouter : UInt32) : Option (Fin ospfLsdbSize) :=
  Fin.find? fun i => (state.lsdb i).valid && (state.lsdb i).lsaId == lsaId &&
    (state.lsdb i).advRouter == advRouter

theorem ospfLsuBytes_eq (state : OspfState) (lsa : OspfLsaEntry) :
    ospfLsuBytes state lsa =
      ospfHeaderBytes state ospfTypeLsu
          (ospfHeaderLen + ospfLsuHeaderLen + ospfLsaWireLen + lsa.linkCount * ospfLsaLinkLen) ++
        (be16 1 ++ be16 0 ++ lsa.toLsa.bytes) := by
  simp only [ospfLsuBytes, OspfLsa.bytes, OspfLsaEntry.toLsa, List.ofFn_eq_map, List.length_map,
    List.length_finRange, List.flatMap_map, List.append_assoc]

theorem length_ospfLsuBytes (state : OspfState) (lsa : OspfLsaEntry) :
    (ospfLsuBytes state lsa).length =
      ospfHeaderLen + ospfLsuHeaderLen + ospfLsaWireLen + lsa.linkCount * ospfLsaLinkLen := by
  have hlinks : lsa.toLsa.links.length = lsa.linkCount := List.length_ofFn
  rw [ospfLsuBytes_eq, List.length_append, List.length_append, OspfLsa.length_bytes, hlinks]
  simp only [← Nat.add_assoc]
  rfl

theorem ospfLsuOf_ospfLsuBytes (state : OspfState) (lsa : OspfLsaEntry) :
    OspfLsuOf (ospfLsuBytes state lsa) [lsa.toLsa] := by
  refine ⟨?_, ?_, (by decide : 1 ≤ ospfLsdbSize), ?_⟩
  · rw [length_ospfLsuBytes, Nat.add_assoc]
    exact Nat.le_add_right _ _
  · have hcount : getU16 (ospfLsuBytes state lsa) 24 = 1 := by
      rw [ospfLsuBytes_eq]
      exact getU16_of_drop rfl
    rw [hcount]
    rfl
  · rw [ospfLsuBytes_eq]
    simp only [List.flatMap_cons, List.flatMap_nil, List.append_nil]
    rfl

/-- The fields of the common header read back as they were written. -/
theorem ospfHeaderBytes_fields (state : OspfState) (type : UInt8) (len : ℕ) (rest : List UInt8) :
    getU8 (ospfHeaderBytes state type len ++ rest) 0 = ospfVersion ∧
      getU8 (ospfHeaderBytes state type len ++ rest) 1 = type ∧
      getU16 (ospfHeaderBytes state type len ++ rest) 2 = UInt16.ofNat len ∧
      getU32 (ospfHeaderBytes state type len ++ rest) 8 = state.areaId ∧
      getU16 (ospfHeaderBytes state type len ++ rest) 12 = 0 ∧
      getU16 (ospfHeaderBytes state type len ++ rest) 14 = 0 ∧
      getU32 (ospfHeaderBytes state type len ++ rest) 16 = 0 ∧
      getU32 (ospfHeaderBytes state type len ++ rest) 20 = 0 :=
  ⟨getU8_of_drop rfl, getU8_of_drop rfl, getU16_of_drop rfl, getU32_of_drop rfl,
    getU16_of_drop rfl, getU16_of_drop rfl, getU32_of_drop rfl, getU32_of_drop rfl⟩

theorem ospfHeaderOk_ospfLsuBytes (env : OspfEnv) {env' : OspfEnv} {sender receiver : OspfState}
    (lsa : OspfLsaEntry) (outIface : IfaceRef) {iface : IfaceRef}
    (harea : receiver.areaId = sender.areaId) (hpl : env'.prefixLen iface ≤ 32) :
    OspfHeaderOk env' receiver iface (ospfDatagram env outIface (ospfLsuBytes sender lsa)) ∧
      getU8 (ospfLsuBytes sender lsa) 1 = ospfTypeLsu := by
  have hlen := length_ospfLsuBytes sender lsa
  have hcount : (lsa.linkCount : ℕ) ≤ 4 := Nat.le_of_lt_succ lsa.linkCount.isLt
  have hsmall : (ospfLsuBytes sender lsa).length < 65536 := by
    simp only [ospfHeaderLen, ospfLsuHeaderLen, ospfLsaWireLen, ospfLsaLinkLen] at hlen
    omega
  obtain ⟨h0, h1, h2, h8, h12, h14, h16, h20⟩ := ospfHeaderBytes_fields sender ospfTypeLsu
    (ospfHeaderLen + ospfLsuHeaderLen + ospfLsaWireLen + lsa.linkCount * ospfLsaLinkLen)
    (be16 1 ++ be16 0 ++ lsa.toLsa.bytes)
  rw [← ospfLsuBytes_eq] at h0 h1 h2 h8 h12 h14 h16 h20
  refine ⟨⟨hpl, ?_, rfl, h0, h8.trans harea.symm, ?_, h12, h14, h16, h20⟩, h1⟩
  · exact le_trans (by decide) (ospfLsuOf_ospfLsuBytes sender lsa).header
  · show (getU16 (ospfLsuBytes sender lsa) 2).toNat = (ospfLsuBytes sender lsa).length
    rw [h2, ← hlen, UInt16.toNat_ofNat']
    exact Nat.mod_eq_of_lt hsmall

/-- The packets of one call of `ospf_flood_lsa`. -/
theorem ospfFloodLsa_sent {env : OspfEnv} {state : OspfState} {lsa : OspfLsaEntry}
    {exceptIface : IfaceRef} :
    ∀ pkt ∈ (ospfFloodLsa env state lsa exceptIface).1,
      ∃ outIface, pkt = ospfDatagram env outIface (ospfLsuBytes state lsa) := by
  unfold ospfFloodLsa
  refine Slots.forEach_invariant
    (fun acc : List IpDatagram × Bool => ∀ pkt ∈ acc.1, ∃ outIface,
      pkt = ospfDatagram env outIface (ospfLsuBytes state lsa))
    (by simp) fun i acc ih => ?_
  unfold ospfFloodIface
  dsimp only
  split
  · rename_i outIface _ _ _
    split_ifs
    · exact ih
    · intro pkt hpkt
      rcases List.mem_append.mp hpkt with hpkt | hpkt
      · exact ih pkt hpkt
      · exact ⟨outIface, List.mem_singleton.mp hpkt⟩
    · exact ih
  · exact ih

/-- Flooding fails only when `ip_output` refuses a packet. -/
theorem ospfFloodLsa_ok {env : OspfEnv} (hok : ∀ pkt, env.ipOk pkt = true) (state : OspfState)
    (lsa : OspfLsaEntry) (exceptIface : IfaceRef) :
    (ospfFloodLsa env state lsa exceptIface).2 = false := by
  unfold ospfFloodLsa
  refine Slots.forEach_invariant (fun acc : List IpDatagram × Bool => acc.2 = false) rfl
    fun i acc ih => ?_
  unfold ospfFloodIface
  dsimp only
  split
  · split_ifs with hexcept hsent
    · exact ih
    · rfl
    · exact absurd (hok _) hsent
  · exact ih

theorem ospfFloodSlots_ok {env : OspfEnv} (hok : ∀ pkt, env.ipOk pkt = true) (state : OspfState)
    (iface : IfaceRef) (changedSlots : List (Fin ospfLsdbSize)) :
    (ospfFloodSlots env state iface changedSlots).2 = false := by
  unfold ospfFloodSlots
  refine List.foldlRecOn (motive := fun acc : List IpDatagram × Bool => acc.2 = false)
    changedSlots _ rfl fun acc ih i _ => ?_
  simp only [ih, ospfFloodLsa_ok hok, Bool.or_false]

/-- A parsed LSA that replaces the one of its key. -/
theorem ospfLsaSlot_of_older {state : OspfState} {parsed : OspfLsaEntry} {i : Fin ospfLsdbSize}
    (hfind : ospfLsdbFind state parsed.lsaId parsed.advRouter = some i)
    (hold : (state.lsdb i).seqNum < parsed.seqNum) : ospfLsaSlot state parsed = some i := by
  unfold ospfLsdbFind at hfind
  unfold ospfLsaSlot
  rw [hfind]
  exact if_neg (UInt32.not_le.mpr hold)

/-- A parsed LSA whose key is new. -/
theorem ospfLsaSlot_of_none {state : OspfState} {parsed : OspfLsaEntry}
    (hfind : ospfLsdbFind state parsed.lsaId parsed.advRouter = none) :
    ospfLsaSlot state parsed = Fin.find? fun i => !(state.lsdb i).valid := by
  unfold ospfLsdbFind at hfind
  unfold ospfLsaSlot
  rw [hfind]

theorem ospfApplyLsa_lsdb {acc : OspfState × List (Fin ospfLsdbSize)} {parsed : OspfLsaEntry}
    {i : Fin ospfLsdbSize} (hslot : ospfLsaSlot acc.1 parsed = some i) :
    (ospfApplyLsa acc parsed).1.lsdb =
      Function.update acc.1.lsdb i { parsed with valid := true } := by
  obtain ⟨state, changedSlots⟩ := acc
  unfold ospfApplyLsa
  dsimp only at hslot ⊢
  rw [hslot]

theorem ospfUpdateLsdb_state (env : OspfEnv) (state : OspfState) (iface : IfaceRef)
    (parsedLsas : List OspfLsaEntry) :
    (ospfUpdateLsdb env state iface parsedLsas).1 =
      (parsedLsas.foldl ospfApplyLsa (state, [])).1 := rfl

/-- A newer LSA, or one for which there is a free slot, is what the LSDB then has
    under its key. -/
theorem ospfApplyLsa_find (acc : OspfState × List (Fin ospfLsdbSize)) (parsed : OspfLsaEntry)
    (hold : ∀ i, ospfLsdbFind acc.1 parsed.lsaId parsed.advRouter = some i →
      (acc.1.lsdb i).seqNum < parsed.seqNum)
    (hfree : ospfLsdbFind acc.1 parsed.lsaId parsed.advRouter = none →
      ∃ i, (acc.1.lsdb i).valid = false) :
    ∃ i, ospfLsdbFind (ospfApplyLsa acc parsed).1 parsed.lsaId parsed.advRouter = some i ∧
      ((ospfApplyLsa acc parsed).1.lsdb i) = { parsed with valid := true } := by
  -- the slot that is stored into has no valid slot of this key before it
  obtain ⟨i, hslot, hfirst⟩ : ∃ i, ospfLsaSlot acc.1 parsed = some i ∧
      ∀ j < i, ((acc.1.lsdb j).valid && (acc.1.lsdb j).lsaId == parsed.lsaId &&
        (acc.1.lsdb j).advRouter == parsed.advRouter) = false := by
    cases hfind : ospfLsdbFind acc.1 parsed.lsaId parsed.advRouter with
    | some i =>
      exact ⟨i, ospfLsaSlot_of_older hfind (hold i hfind), (Fin.find?_eq_some_iff.mp hfind).2⟩
    | none =>
      obtain ⟨j, hj⟩ := hfree hfind
      have hsome : (Fin.find? fun i => !(acc.1.lsdb i).valid).isSome = true :=
        Fin.isSome_find?_iff.mpr ⟨j, by rw [hj]; rfl⟩
      obtain ⟨i, hi⟩ := Option.isSome_iff_exists.mp hsome
      exact ⟨i, (ospfLsaSlot_of_none hfind).trans hi, fun j _ => Fin.find?_eq_none_iff.mp hfind j⟩
  have hlsdb := ospfApplyLsa_lsdb hslot
  refine ⟨i, Fin.find?_eq_some_iff.mpr ⟨?_, fun j hj => ?_⟩, ?_⟩
  · rw [hlsdb, Function.update_self]
    simp
  · rw [hlsdb, Function.update_of_ne (ne_of_lt hj)]
    exact hfirst j hj
  · rw [hlsdb, Function.update_self]

section Flood

variable {env env' : OspfEnv} {sender receiver : OspfState} {lsa : OspfLsaEntry}
  {exceptIface iface : IfaceRef} {pkt : IpDatagram}

theorem ospfReceive_of_mem_floodLsa (hpkt : pkt ∈ (ospfFloodLsa env sender lsa exceptIface).1)
    (harea : receiver.areaId = sender.areaId) (hpl : env'.prefixLen iface ≤ 32) :
    ospfReceive env' receiver iface pkt =
      ospfUpdateLsdb env' receiver iface [lsa.toLsa.parsed] := by
  obtain ⟨outIface, rfl⟩ := ospfFloodLsa_sent pkt hpkt
  obtain ⟨hok, htype⟩ := ospfHeaderOk_ospfLsuBytes env lsa outIface harea hpl
  have hreceive := hok.receive_lsuOf htype (ospfLsuOf_ospfLsuBytes sender lsa)
  rwa [List.map_singleton] at hreceive

/-- An LSU that `ospf_flood_lsa` built is accepted at a router of the same area. When
    that router had an older entry for the key, or none and a free slot, then its
    entry is now the sender's. -/
theorem ospfReceive_flood (hpkt : pkt ∈ (ospfFloodLsa env sender lsa exceptIface).1)
    (harea : receiver.areaId = sender.areaId) (hpl : env'.prefixLen iface ≤ 32) :
    ospfReceive env' receiver iface pkt =
        ospfUpdateLsdb env' receiver iface [lsa.toLsa.parsed] ∧
      ((∀ d, env'.ipOk d = true) → (ospfReceive env' receiver iface pkt).2.1 = 0) ∧
      ((∀ i, ospfLsdbFind receiver lsa.lsaId lsa.advRouter = some i →
          (receiver.lsdb i).seqNum < lsa.seqNum) →
        (ospfLsdbFind receiver lsa.lsaId lsa.advRouter = none →
          ∃ i, (receiver.lsdb i).valid = false) →
        ∃ i, ospfLsdbFind (ospfReceive env' receiver iface pkt).1 lsa.lsaId lsa.advRouter =
            some i ∧
          ((ospfReceive env' receiver iface pkt).1.lsdb i).toLsa = lsa.toLsa) := by
  have hreceive := ospfReceive_of_mem_floodLsa hpkt harea hpl
  refine ⟨hreceive, fun hok => ?_, fun hold hfree => ?_⟩
  · rw [hreceive]
    unfold ospfUpdateLsdb
    dsimp only
    rw [ospfFloodSlots_ok hok]
    rfl
  · have happly := ospfApplyLsa_find (receiver, []) lsa.toLsa.parsed hold hfree
    rw [hreceive, ospfUpdateLsdb_state, List.foldl_cons, List.foldl_nil]
    obtain ⟨i, hi, he⟩ := happly
    refine ⟨i, hi, ?_⟩
    rw [he]
    exact lsa.toLsa.toLsa_parsed

end Flood

theorem ospfReceive_flood_lsuExample :
    ∃ i, ospfLsdbFind (ospfReceive {} (ospfInit 2) 0 lsuExample).1 1 1 = some i ∧
      ((ospfReceive {} (ospfInit 2) 0 lsuExample).1.lsdb i).toLsa = lsaExample.parsed.toLsa := by
  have hsent : lsuExample ∈
      (ospfFloodLsa {} (ospfEnableIface (ospfInit 1) 0 1).1 lsaExample.parsed 9).1 := by
    decide +kernel
  have hreceive := @ospfReceive_flood _ {} _ (ospfInit 2) _ _ 0 _ hsent rfl (by decide)
  have hempty : ∀ i, ((ospfInit 2).lsdb i).valid = false := fun _ => rfl
  refine hreceive.2.2 (fun i hi => ?_) fun _ => ⟨⟨0, by decide⟩, hempty _⟩
  have hvalid := (Fin.find?_eq_some_iff.mp hi).1
  rw [hempty] at hvalid
  cases hvalid

end FrameRunner
