import FrameRunner.Network.Icmp

/-!
# The three checksums (`network/packet.c`, `protocols/icmp.c`, `protocols/ip.c`)

`packet_checksum` adds up the words of a message as a little-endian host loads them;
`icmp_checksum` and `ip_checksum` swap every word before they add it and swap the result
back, so that they return `ns_htons` of `icmpChecksum` and `ipChecksum`.

Main results:

* `packetChecksum_eq`: all three return the same value.
* `ipValidateHeader_word`: a changed word of an accepted header is noticed, unless it
  changed between the two zeros of one's-complement arithmetic; words that trade places
  are not.
-/

namespace FrameRunner

/-! ## Sums in host order -/

/-- `*words` of two bytes on a little-endian host. -/
def hostWord (a b : UInt8) : UInt16 := UInt16.ofNat (a.toNat + b.toNat * 256)

/-- The sum of `packet_checksum` (`packet.c`, lines 122–131). -/
def hostWordSum : List UInt8 → ℕ
  | [] => 0
  | [a] => a.toNat
  | a :: b :: rest => (hostWord a b).toNat + hostWordSum rest

/-- `packet_checksum` (lines 120–138). -/
def packetChecksum (data : List UInt8) : UInt16 := onesComplement (hostWordSum data)

theorem toNat_hostWord (a b : UInt8) : (hostWord a b).toNat = a.toNat + b.toNat * 256 := by
  have ha := a.toNat_lt
  have hb := b.toNat_lt
  rw [hostWord, UInt16.toNat_ofNat']
  omega

/-- `ns_ntohs` of a loaded word is the word in network order. -/
theorem toNat_nsBswap16_hostWord (a b : UInt8) :
    (nsBswap16 (hostWord a b)).toNat = a.toNat * 256 + b.toNat := by
  have ha := a.toNat_lt
  rw [toNat_nsBswap16, toNat_hostWord]
  omega

/-- A swap of the two bytes is a multiplication by `2^8`. -/
theorem toNat_modEq_nsBswap16 (x : UInt16) :
    x.toNat ≡ 256 * (nsBswap16 x).toNat [MOD 65535] := by
  have hx := x.toNat_lt
  rw [toNat_nsBswap16]
  show _ % _ = _ % _
  omega

theorem hostWordSum_modEq (data : List UInt8) :
    hostWordSum data ≡ 256 * wordSum data [MOD 65535] := by
  induction data using wordSum.induct with
  | case1 => rfl
  | case2 a =>
    show a.toNat % 65535 = 256 * (a.toNat * 256) % 65535
    omega
  | case3 a b rest ih =>
    rw [wordSum_cons_cons, ← toNat_nsBswap16_hostWord, Nat.mul_add]
    exact (toNat_modEq_nsBswap16 _).add ih

theorem hostWordSum_eq_zero_iff (data : List UInt8) : hostWordSum data = 0 ↔ wordSum data = 0 := by
  induction data using wordSum.induct with
  | case1 => exact Iff.rfl
  | case2 a =>
    show a.toNat = 0 ↔ a.toNat * 256 = 0
    omega
  | case3 a b rest ih =>
    rw [wordSum_cons_cons, hostWordSum, toNat_hostWord]
    omega

theorem hostWordSum_le (data : List UInt8) :
    hostWordSum data ≤ 65535 * ((data.length + 1) / 2) := by
  induction data using wordSum.induct with
  | case1 => exact le_rfl
  | case2 a =>
    have ha := a.toNat_lt
    simp only [hostWordSum, List.length_singleton]
    omega
  | case3 a b rest ih =>
    have hw := (hostWord a b).toNat_lt
    simp only [hostWordSum, List.length_cons]
    omega

theorem ipChecksum_getIpHeader {bytes : List UInt8} (h : ipHdrLen ≤ bytes.length) :
    ipChecksum (getIpHeader bytes) = onesComplement (wordSum (bytes.take ipHdrLen)) := by
  have htake : bytes.take ipHdrLen = (getIpHeader bytes).bytes := by
    conv_lhs => rw [bytes_getIpHeader h]
    exact List.take_left' (IpHeader.length_bytes _)
  rw [ipChecksum, htake]

/-- The checksums agree: that of `packet.c` on every message, that of `ip.c` on every
    header. -/
theorem packetChecksum_eq {data : List UInt8} (h0 : 1 ≤ data.length) (h : data.length ≤ 65535) :
    packetChecksum data = nsBswap16 (icmpChecksum data) ∧
      (data.length = ipHdrLen →
        packetChecksum data = nsBswap16 (ipChecksum (getIpHeader data))) := by
  have hhost := hostWordSum_le data
  have hnet := wordSum_le data
  have hempty : data.isEmpty = false := by
    rw [← Bool.not_eq_true, List.isEmpty_iff_length_eq_zero]
    omega
  have hswap : packetChecksum data = nsBswap16 (onesComplement (wordSum data)) :=
    onesComplement_swap (by omega) (by omega) (hostWordSum_eq_zero_iff data)
      (hostWordSum_modEq data)
  refine ⟨?_, fun hlen => ?_⟩
  · rw [hswap, icmpChecksum, hempty]
    rfl
  · rw [hswap, ipChecksum_getIpHeader hlen.ge, ← hlen, List.take_length]

theorem packetChecksum_eq_three :
    packetChecksum [0x12, 0x34, 0x56] = nsBswap16 (icmpChecksum [0x12, 0x34, 0x56]) :=
  (packetChecksum_eq (by decide) (by decide)).1

/-! ## Words of a header -/

/-- The 16-bit word `k`. -/
def word (bytes : List UInt8) (k : ℕ) : UInt16 := getU16 bytes (2 * k)

/-- The bytes with another word `k`. -/
def setWord (bytes : List UInt8) (k : ℕ) (w : UInt16) : List UInt8 :=
  bytes.take (2 * k) ++ (be16 w ++ bytes.drop (2 * k + 2))

section
variable {bytes : List UInt8} {k : ℕ}

theorem setWord_word (h : 2 * k + 2 ≤ bytes.length) : setWord bytes k (word bytes k) = bytes := by
  rw [setWord, word, ← drop_eq_be16 h, List.take_append_drop]

theorem length_setWord (h : 2 * k + 2 ≤ bytes.length) (w : UInt16) :
    (setWord bytes k w).length = bytes.length := by
  simp only [setWord, List.length_append, List.length_take, List.length_drop, length_be16]
  omega

theorem wordSum_setWord (h : 2 * k + 2 ≤ bytes.length) (w : UInt16) :
    wordSum (setWord bytes k w) + (word bytes k).toNat = wordSum bytes + w.toNat := by
  have htake : 2 ∣ (bytes.take (2 * k)).length := by
    rw [List.length_take, min_eq_left (by omega)]
    exact Dvd.intro k rfl
  have hsum : ∀ x, wordSum (setWord bytes k x) =
      wordSum (bytes.take (2 * k)) + (x.toNat + wordSum (bytes.drop (2 * k + 2))) := by
    intro x
    rw [setWord, wordSum_append htake, wordSum_be16_append]
  have hown := hsum (word bytes k)
  rw [setWord_word h] at hown
  rw [hsum w, hown]
  omega

theorem take_setWord {n : ℕ} (h : 2 * k + 2 ≤ n) (hn : n ≤ bytes.length) (w : UInt16) :
    (setWord bytes k w).take n = setWord (bytes.take n) k w := by
  have hlen : (bytes.take (2 * k)).length = 2 * k := by
    rw [List.length_take]
    omega
  have hlen' : (be16 w).length = 2 := rfl
  have hsub : n - 2 * k - 2 = n - (2 * k + 2) := by omega
  have hword : (be16 w).take (n - 2 * k) = be16 w :=
    List.take_of_length_le (by rw [hlen']; omega)
  rw [setWord, setWord, List.take_append, List.take_append, hlen, hlen', List.take_take,
    List.take_take, List.drop_take, hsub, hword, min_eq_right (by omega : 2 * k ≤ n),
    min_eq_left (by omega : 2 * k ≤ n)]

/-- The word itself, and every other. -/
theorem word_setWord (h : 2 * k + 2 ≤ bytes.length) (w : UInt16) (j : ℕ) :
    word (setWord bytes k w) j = if j = k then w else word bytes j := by
  have hlen : (bytes.take (2 * k)).length = 2 * k := by
    rw [List.length_take]
    omega
  by_cases hj : j = k
  · subst hj
    rw [if_pos rfl, word, setWord, getU16_append _ _ _ hlen.symm]
  · rw [if_neg hj]
    by_cases hlt : j < k
    · have htake : (setWord bytes k w).take (2 * k) = bytes.take (2 * k) :=
        List.take_left' hlen
      rw [word, word, ← getU16_take _ (by omega : 2 * j + 2 ≤ 2 * k), htake,
        getU16_take _ (by omega)]
    · have hdrop : (setWord bytes k w).drop (2 * k + 2) = bytes.drop (2 * k + 2) := by
        rw [setWord, ← List.append_assoc]
        exact List.drop_left' (by rw [List.length_append, hlen, length_be16])
      obtain ⟨d, rfl⟩ : ∃ d, j = k + 1 + d := ⟨j - (k + 1), by omega⟩
      have hoff : 2 * (k + 1 + d) = 2 * k + 2 + 2 * d := by ring
      rw [word, word, hoff, ← getU16_drop, hdrop, getU16_drop]

theorem getU8_setWord_zero (hk : 0 < k) (h : 2 * k + 2 ≤ bytes.length) (w : UInt16) :
    getU8 (setWord bytes k w) 0 = getU8 bytes 0 := by
  have htake : (setWord bytes k w).take (2 * k) = bytes.take (2 * k) :=
    List.take_left' (by rw [List.length_take]; omega)
  rw [← getU8_take _ (by omega : 0 < 2 * k), htake, getU8_take _ (by omega)]

end

/-! ## Damaged headers -/

theorem getU8_le_wordSum {bytes : List UInt8} (h : 2 ≤ bytes.length) :
    (getU8 bytes 0).toNat * 256 ≤ wordSum bytes := by
  match bytes, h with
  | a :: b :: rest, _ =>
    rw [wordSum_cons_cons]
    show a.toNat * 256 ≤ _
    omega

/-- `ip_validate_header` in terms of the words. -/
theorem ipValidateHeader_words {pkt : Packet} (hlen : ipHdrLen ≤ pkt.len) :
    ipValidateHeader pkt = true ↔
      getU8 pkt.bytes 0 = 0x45 ∧ 65535 ∣ wordSum (pkt.bytes.take ipHdrLen) := by
  have hbytes : ipHdrLen ≤ pkt.bytes.length := by rwa [pkt.length_bytes]
  have htake : (pkt.bytes.take ipHdrLen).length = ipHdrLen := by
    rw [List.length_take, min_eq_left hbytes]
  have hle := wordSum_le (pkt.bytes.take ipHdrLen)
  rw [htake] at hle
  have hlt : wordSum (pkt.bytes.take ipHdrLen) < 2 ^ 32 := lt_of_le_of_lt hle (by decide)
  have htwo : 2 ≤ (pkt.bytes.take ipHdrLen).length := by rw [htake]; decide
  have hfirst := getU8_le_wordSum htwo
  rw [getU8_take _ (by decide : 0 < ipHdrLen)] at hfirst
  rw [ipValidateHeader_iff, ipChecksum_getIpHeader hbytes, onesComplement_eq_zero_iff hlt]
  constructor
  · rintro ⟨-, h45, -, hdvd⟩
    exact ⟨h45, hdvd⟩
  · rintro ⟨h45, hdvd⟩
    rw [h45] at hfirst
    have hpos : 0x45 * 256 ≤ wordSum (pkt.bytes.take ipHdrLen) := hfirst
    exact ⟨hlen, h45, by omega, hdvd⟩

/-- The two zeros of one's-complement arithmetic. -/
def ZeroAndOnes (w w' : UInt16) : Prop := (w = 0 ∧ w' = 0xFFFF) ∨ (w = 0xFFFF ∧ w' = 0)

instance (w w' : UInt16) : Decidable (ZeroAndOnes w w') := inferInstanceAs (Decidable (_ ∨ _))

/-- Two different words that do not differ modulo `2^16 - 1`. -/
theorem zeroAndOnes_iff {w w' : UInt16} (hne : w' ≠ w) {sum sum' : ℕ} (hdvd : 65535 ∣ sum)
    (hsum : sum' + w.toNat = sum + w'.toNat) : 65535 ∣ sum' ↔ ZeroAndOnes w w' := by
  have hw := w.toNat_lt
  have hw' := w'.toNat_lt
  have hne' : w'.toNat ≠ w.toNat := fun h => hne (UInt16.toNat_inj.mp h)
  have hones : (0xFFFF : UInt16).toNat = 65535 := rfl
  rw [ZeroAndOnes, ← UInt16.toNat_inj, ← UInt16.toNat_inj, ← UInt16.toNat_inj, ← UInt16.toNat_inj,
    UInt16.toNat_zero, hones]
  constructor
  · intro hdvd'
    omega
  · intro hzero
    omega

/-- The words of a changed header add up to what they did, but for the change. -/
theorem wordSum_take_setWord {bytes : List UInt8} {k : ℕ} (hlen : ipHdrLen ≤ bytes.length)
    (hk : k < ipHdrLen / 2) (w : UInt16) :
    wordSum ((setWord bytes k w).take ipHdrLen) + (word bytes k).toNat =
      wordSum (bytes.take ipHdrLen) + w.toNat := by
  have hk : 2 * k + 2 ≤ ipHdrLen := by
    have : ipHdrLen / 2 = 10 := rfl
    have : ipHdrLen = 20 := rfl
    omega
  have htake : (bytes.take ipHdrLen).length = ipHdrLen := by
    rw [List.length_take, min_eq_left hlen]
  have hword : word (bytes.take ipHdrLen) k = word bytes k := getU16_take bytes hk
  have hin : 2 * k + 2 ≤ (bytes.take ipHdrLen).length := by rwa [htake]
  have hsum := wordSum_setWord hin w
  rwa [hword, ← take_setWord hk hlen] at hsum

/-- One changed word of an accepted header. -/
theorem ipValidateHeader_setWord {pkt pkt' : Packet} {k : ℕ} {w : UInt16}
    (hvalid : ipValidateHeader pkt = true) (hk : k < ipHdrLen / 2) (hne : w ≠ word pkt.bytes k)
    (hbytes : pkt'.bytes = setWord pkt.bytes k w) :
    ipValidateHeader pkt' = true ↔ ZeroAndOnes (word pkt.bytes k) w := by
  obtain ⟨hlen, -⟩ := ipValidateHeader_iff.mp hvalid
  obtain ⟨h45, hdvd⟩ := (ipValidateHeader_words hlen).mp hvalid
  have hin : ipHdrLen ≤ pkt.bytes.length := by rwa [pkt.length_bytes]
  have hk2 : 2 * k + 2 ≤ pkt.bytes.length := by
    have : ipHdrLen / 2 = 10 := rfl
    have : ipHdrLen = 20 := rfl
    omega
  have hlen' : ipHdrLen ≤ pkt'.len := by
    rw [← pkt'.length_bytes, hbytes, length_setWord hk2]
    exact hin
  have hdvd' := zeroAndOnes_iff hne hdvd (wordSum_take_setWord hin hk w)
  rw [ipValidateHeader_words hlen', hbytes, hdvd']
  refine and_iff_right_of_imp fun hzero => ?_
  -- the first word is neither of the two zeros
  have hpos : 0 < k := by
    rw [Nat.pos_iff_ne_zero]
    rintro rfl
    have hb := (getU8 pkt.bytes 1).toNat_lt
    have h45 : (getU8 pkt.bytes 0).toNat = 69 := by rw [h45]; rfl
    have hword : (word pkt.bytes 0).toNat = 69 * 256 + (getU8 pkt.bytes 1).toNat := by
      rw [word, getU16, Nat.mul_zero, Nat.zero_add, h45, UInt16.toNat_ofNat',
        Nat.mod_eq_of_lt (by omega)]
    rcases hzero with ⟨h0, -⟩ | ⟨h0, -⟩
    · rw [h0, UInt16.toNat_zero] at hword
      omega
    · have hones : (0xFFFF : UInt16).toNat = 65535 := rfl
      rw [h0, hones] at hword
      omega
  rw [getU8_setWord_zero hpos hk2, h45]

/-- Two words of a header that trade places. -/
theorem ipValidateHeader_swap {pkt pkt' : Packet} {i j : ℕ} (hlen : ipHdrLen ≤ pkt.len)
    (hi : 0 < i ∧ i < ipHdrLen / 2) (hj : 0 < j ∧ j < ipHdrLen / 2)
    (hbytes : pkt'.bytes =
      setWord (setWord pkt.bytes i (word pkt.bytes j)) j (word pkt.bytes i)) :
    ipChecksum (getIpHeader pkt'.bytes) = ipChecksum (getIpHeader pkt.bytes) ∧
      ipValidateHeader pkt' = ipValidateHeader pkt := by
  have hin : ipHdrLen ≤ pkt.bytes.length := by rwa [pkt.length_bytes]
  have h10 : ipHdrLen / 2 = 10 := rfl
  have h20 : ipHdrLen = 20 := rfl
  have hi2 : 2 * i + 2 ≤ pkt.bytes.length := by omega
  have hone : (setWord pkt.bytes i (word pkt.bytes j)).length = pkt.bytes.length :=
    length_setWord hi2 _
  have hj2 : 2 * j + 2 ≤ (setWord pkt.bytes i (word pkt.bytes j)).length := by omega
  have hword : word (setWord pkt.bytes i (word pkt.bytes j)) j = word pkt.bytes j := by
    rw [word_setWord hi2]
    split_ifs <;> rfl
  have hsum := wordSum_take_setWord hin hi.2 (word pkt.bytes j)
  have hsum' := wordSum_take_setWord (hone.symm ▸ hin) hj.2 (word pkt.bytes i)
  rw [hword] at hsum'
  have hsame : wordSum (pkt'.bytes.take ipHdrLen) = wordSum (pkt.bytes.take ipHdrLen) := by
    rw [hbytes]
    omega
  have hlen' : ipHdrLen ≤ pkt'.len := by
    rw [← pkt'.length_bytes, hbytes, length_setWord hj2, hone]
    exact hin
  have hfirst : getU8 pkt'.bytes 0 = getU8 pkt.bytes 0 := by
    rw [hbytes, getU8_setWord_zero hj.1 hj2, getU8_setWord_zero hi.1 hi2]
  refine ⟨?_, ?_⟩
  · rw [ipChecksum_getIpHeader (by rwa [pkt'.length_bytes]), ipChecksum_getIpHeader hin, hsame]
  · rw [Bool.eq_iff_iff, ipValidateHeader_words hlen', ipValidateHeader_words hlen, hsame, hfirst]

/-- A header with one word changed is rejected unless the change is from one zero to the
    other; a header with two words after the first exchanged has the checksum that it had. -/
theorem ipValidateHeader_word {pkt : Packet} (hlen : ipHdrLen ≤ pkt.len) :
    (ipValidateHeader pkt = true → ∀ k w, ∀ pkt' : Packet, k < ipHdrLen / 2 →
      w ≠ word pkt.bytes k → pkt'.bytes = setWord pkt.bytes k w →
      (ipValidateHeader pkt' = false ↔ ¬ ZeroAndOnes (word pkt.bytes k) w)) ∧
    ∀ i j, ∀ pkt' : Packet, 0 < i ∧ i < ipHdrLen / 2 → 0 < j ∧ j < ipHdrLen / 2 →
      pkt'.bytes = setWord (setWord pkt.bytes i (word pkt.bytes j)) j (word pkt.bytes i) →
      ipChecksum (getIpHeader pkt'.bytes) = ipChecksum (getIpHeader pkt.bytes) ∧
        ipValidateHeader pkt' = ipValidateHeader pkt := by
  refine ⟨fun hvalid k w pkt' hk hne hbytes => ?_, fun i j pkt' hi hj hbytes => ?_⟩
  · rw [← ipValidateHeader_setWord hvalid hk hne hbytes, Bool.not_eq_true]
  · exact ipValidateHeader_swap hlen hi hj hbytes

/-- A header as it is sent. -/
def exampleSent : Packet :=
  packetFill (fun _ => 0) (ipSentHeader 0x0A000001 0x0A000002 ipprotoUdp 0).bytes

/-- With another identification it is rejected, with its addresses interleaved it is not. -/
theorem ipValidateHeader_word_sent :
    ipValidateHeader (packetFill (fun _ => 0) (setWord exampleSent.bytes 2 1)) = false ∧
      ipValidateHeader (packetFill (fun _ => 0) (setWord (setWord exampleSent.bytes 7
        (word exampleSent.bytes 8)) 8 (word exampleSent.bytes 7))) = true := by
  have hlen : ipHdrLen ≤ exampleSent.len := by decide +kernel
  obtain ⟨hchanged, hswapped⟩ := ipValidateHeader_word hlen
  have hvalid : ipValidateHeader exampleSent = true := by decide +kernel
  refine ⟨?_, ?_⟩
  · exact (hchanged hvalid 2 1 _ (by decide) (by decide +kernel) (bytes_packetFill _ _)).mpr
      (by decide +kernel)
  · exact (hswapped 7 8 _ (by decide) (by decide) (bytes_packetFill _ _)).2.trans hvalid

end FrameRunner
