import R2N.Dataplane.Clamp

/-!
# MSS clamping of well-formed packets

On a whole, well-formed packet `clamp_mss` does what it is for: the SYN that leaves announces no
segment larger than the tunnel carries, nothing else in it has changed, and its checksum is right.

* `lowerOption` writes values that the walk never reads, so that the walk over the packet that
  leaves comes by the same options (`mssOptions_congr`).
* **`clampMss_correct`** — what leaves, and that a second application changes nothing.
-/

namespace R2N

open Bytes (writeAt beBytes ofBe length_writeAt length_beBytes length_slice)
open Checked (Fault item)
open OnesComplement (word wordSum fold Verifies)

/-! ## Well-formed packets -/

/-- A whole, well-formed IPv4 packet with a TCP segment. -/
structure WellFormedTcp (packet : Bytes) : Prop where
  version : ipVersion packet = 4
  header : 20 ≤ ihl packet
  protocol : protocolByte packet = 6
  /-- The more-fragments flag and the fragment offset are zero. -/
  unfragmented : word (item packet 6) (item packet 7) % 2 ^ 14 = 0
  totalLength : ofBe (Bytes.slice 2 4 packet) = packet.length
  short : packet.length ≤ 65535
  dataOffset : 20 ≤ tcpDataOffset packet
  inside : ihl packet + tcpDataOffset packet ≤ packet.length

/-- The pseudo-header TCP sums in front of the segment. -/
def pseudoHeader (packet : Bytes) : Bytes :=
  Bytes.slice 12 16 packet ++ Bytes.slice 16 20 packet ++ [0, 6] ++
    beBytes 2 (packet.length - ihl packet)

/-- The options of a well-formed packet lie inside it. -/
lemma WellFormedTcp.mem_mssOptions {packet : Bytes} (h : WellFormedTcp packet) {k : ℕ}
    (hk : k ∈ mssOptions packet) :
    ihl packet + 20 ≤ k ∧ k + 4 ≤ packet.length ∧ 20 < tcpDataOffset packet := by
  have hbounds := mem_mssOptionsFrom hk
  have hinside := h.inside
  omega

lemma WellFormedTcp.scanned_iff {packet : Bytes} (h : WellFormedTcp packet) :
    Scanned packet ↔ 20 < tcpDataOffset packet ∧ SynFlag packet := by
  have hheader := h.header
  have hoffset := h.dataOffset
  have hinside := h.inside
  exact ⟨fun hscanned => hscanned.2.2.2.2,
    fun hsyn => ⟨by omega, h.version, by omega, h.protocol, hsyn⟩⟩

/-! ## Lowered options -/

/-- Lowering the options writes their values alone. -/
lemma item_foldl_lowerOption {packet p : Bytes} {maxMss j : ℕ} {l : List ℕ}
    (hinside : ∀ k ∈ l, k + 4 ≤ p.length) (hj : ∀ k ∈ l, j ≠ k + 2 ∧ j ≠ k + 3) :
    item (l.foldl (lowerOption packet maxMss) p) j = item p j := by
  induction l generalizing p with
  | nil => rfl
  | cons k l ih =>
      rw [List.forall_mem_cons] at hinside hj
      have hlen := length_lowerOption packet maxMss hinside.1
      rw [List.foldl_cons, ih (by rw [hlen]; exact hinside.2) hj.2,
        item_lowerOption hinside.1 hj.1]

lemma mssValue_congr {p q : Bytes} {k : ℕ} (h₂ : item p (k + 2) = item q (k + 2))
    (h₃ : item p (k + 3) = item q (k + 3)) : mssValue p k = mssValue q k := by
  simp only [mssValue, h₂, h₃]

lemma mssValue_lowerOption {packet p : Bytes} {maxMss k : ℕ} (hmax : maxMss < 2 ^ 16)
    (hk : k + 4 ≤ p.length) (hvalue : mssValue p k = mssValue packet k) :
    mssValue (lowerOption packet maxMss p k) k = min (mssValue packet k) maxMss := by
  rw [lowerOption]
  split_ifs with hlarge
  · have hwrite : k + 2 + (beBytes 2 maxMss).length ≤ p.length := by simpa using hk
    rw [mssValue, Checked.item_writeAt hwrite, Checked.item_writeAt hwrite,
      if_pos (by simp), if_pos (by simp)]
    simp [item, beBytes, word]
    omega
  · omega

/-- **Every option is lowered to the maximum.** -/
lemma mssValue_foldl_lowerOption {packet p : Bytes} {maxMss k : ℕ} {l : List ℕ}
    (hmax : maxMss < 2 ^ 16) (hinside : ∀ k ∈ l, k + 4 ≤ p.length)
    (hpairs : l.Pairwise (fun k k' => k + 4 ≤ k'))
    (hvalue : ∀ k ∈ l, mssValue p k = mssValue packet k) (hk : k ∈ l) :
    mssValue (l.foldl (lowerOption packet maxMss) p) k = min (mssValue packet k) maxMss := by
  induction l generalizing p with
  | nil => simp at hk
  | cons k' l ih =>
      rw [List.forall_mem_cons] at hinside hvalue
      rw [List.pairwise_cons] at hpairs
      have hlen := length_lowerOption packet maxMss hinside.1
      have hrest : ∀ k ∈ l, k + 4 ≤ (lowerOption packet maxMss p k').length := by
        rw [hlen]
        exact hinside.2
      rw [List.foldl_cons]
      rcases List.mem_cons.mp hk with rfl | hk
      · -- the later rounds do not reach back to this value
        rw [← mssValue_lowerOption hmax hinside.1 hvalue.1]
        refine mssValue_congr (item_foldl_lowerOption hrest fun k' hk' => ?_)
          (item_foldl_lowerOption hrest fun k' hk' => ?_)
        all_goals
          have := hpairs.1 k' hk'
          omega
      · refine ih hrest hpairs.2 (fun k hk => ?_) hk
        have hafter := hpairs.1 k hk
        rw [← hvalue.2 k hk]
        exact mssValue_congr (item_lowerOption hinside.1 (by omega))
          (item_lowerOption hinside.1 (by omega))

/-! ## The new checksum -/

lemma pseudoSum_lt {ipv4Hdr : Bytes} {tcpLen : ℕ} (h : tcpLen ≤ 65535) :
    pseudoSum ipv4Hdr tcpLen < 2 ^ 20 := by
  have hsrc : (Bytes.slice 12 16 ipv4Hdr).length ≤ 4 := List.length_take_le _ _
  have hdst : (Bytes.slice 16 20 ipv4Hdr).length ≤ 4 := List.length_take_le _ _
  have hsrcSum := OnesComplement.wordSum_le (Bytes.slice 12 16 ipv4Hdr)
  have hdstSum := OnesComplement.wordSum_le (Bytes.slice 16 20 ipv4Hdr)
  simp only [pseudoSum]
  omega

section Rechecksummed

variable {n : ℕ} {packet : Bytes} (hlen : n + 20 ≤ packet.length)

include hlen

/-- The new checksum is all that is written. -/
lemma item_rechecksummed {j : ℕ} (hj : j ≠ n + 16 ∧ j ≠ n + 17) :
    item (rechecksummed n packet) j = item packet j := by
  have hfront : (packet.take n).length = n := by
    rw [List.length_take]
    omega
  have hseg : 18 ≤ (packet.drop n).length := by
    rw [List.length_drop]
    omega
  have hclear := length_clearChecksum hseg
  rw [rechecksummed]
  rcases Nat.lt_or_ge j n with hlt | hge
  · rw [Checked.item_append_left (by omega), Checked.item_take hlt]
  · rw [Checked.item_append_right (by omega), hfront,
      Checked.item_writeAt (by simp only [length_beBytes]; omega),
      if_neg (by simp only [length_beBytes]; omega), clearChecksum,
      Checked.item_writeAt (by simpa using hseg),
      if_neg (by simp only [List.length_cons, List.length_nil]; omega), Checked.item_drop]
    congr 1
    omega

lemma take_rechecksummed : (rechecksummed n packet).take n = packet.take n := by
  have hfront : (packet.take n).length = n := by
    rw [List.length_take]
    omega
  rw [rechecksummed, List.take_left' hfront]

/-- The sum over the pseudo-header and the segment verifies. -/
lemma fold_rechecksummed (hshort : packet.length ≤ 65535) :
    fold (pseudoSum (packet.take n) (packet.length - n) +
      wordSum ((rechecksummed n packet).drop n)) = 65535 := by
  have hfront : (packet.take n).length = n := by
    rw [List.length_take]
    omega
  have hseg : 18 ≤ (packet.drop n).length := by
    rw [List.length_drop]
    omega
  have hclear := length_clearChecksum hseg
  have hzero : Bytes.slice 16 (16 + 2) (clearChecksum (packet.drop n)) = [0, 0] :=
    @Bytes.slice_writeAt _ 16 [0, 0] _ (by omega)
  have hsum : pseudoSum (packet.take n) (packet.drop n).length +
      wordSum (clearChecksum (packet.drop n)) < 2 ^ 32 := by
    have hpseudo : pseudoSum (packet.take n) (packet.drop n).length < 2 ^ 20 :=
      pseudoSum_lt (by rw [List.length_drop]; omega)
    have hdata : wordSum (clearChecksum (packet.drop n)) < 2 ^ 31 :=
      wordSum_lt (by rw [hclear, List.length_drop]; omega)
    omega
  rw [rechecksummed, List.drop_left' hfront, tcpChecksum, Nat.mod_eq_of_lt hsum,
    ← List.length_drop]
  exact OnesComplement.fold_add_wordSum_writeAt _ (by decide) (by omega) hzero
    (by simp only [pseudoSum]; omega)

end Rechecksummed

lemma length_pseudoHeader {packet : Bytes} (hlen : 20 ≤ packet.length) :
    (pseudoHeader packet).length = 12 := by
  have hsrc : (Bytes.slice 12 16 packet).length = 4 := length_slice (by omega)
  have hdst : (Bytes.slice 16 20 packet).length = 4 := length_slice hlen
  simp [pseudoHeader, hsrc, hdst]

/-- The sum over the pseudo-header. -/
lemma wordSum_pseudoHeader {packet : Bytes} (hlen : 20 ≤ packet.length)
    (hshort : packet.length ≤ 65535) :
    wordSum (pseudoHeader packet) = wordSum (Bytes.slice 12 16 packet) +
      wordSum (Bytes.slice 16 20 packet) + 6 + (packet.length - ihl packet) := by
  have hsrc : (Bytes.slice 12 16 packet).length = 4 := length_slice (by omega)
  have hdst : (Bytes.slice 16 20 packet).length = 4 := length_slice hlen
  rw [pseudoHeader, OnesComplement.wordSum_append (by simp [hsrc, hdst]; decide),
    OnesComplement.wordSum_append (by simp [hsrc, hdst]; decide),
    OnesComplement.wordSum_append (by rw [hsrc]; decide),
    OnesComplement.wordSum_beBytes (by omega)]
  rfl

/-! ## The packet that leaves -/

/-- The walks over two packets agree if their headers do and their options differ in the values
alone. -/
lemma mssOptions_congr {p q : Bytes} (hlen : q.length = p.length) (hihl : ihl q = ihl p)
    (hoffset : tcpDataOffset q = tcpDataOffset p)
    (h : ∀ j, ihl p + 20 ≤ j → (∀ k ∈ mssOptions p, j ≠ k + 2 ∧ j ≠ k + 3) →
      item p j = item q j) : mssOptions q = mssOptions p := by
  rw [mssOptions, hlen, hihl, hoffset]
  exact mssOptionsFrom_congr h

/-- What the function has to do. -/
structure ClampSpec (packet : Bytes) (mtu : ℕ) (clamped : Bool) (packet' : Bytes) : Prop where
  length : packet'.length = packet.length
  bytes : ∀ j, item packet' j ≠ item packet j →
    j = ihl packet + 16 ∨ j = ihl packet + 17 ∨ ∃ k ∈ mssOptions packet, j = k + 2 ∨ j = k + 3
  values : SynFlag packet' → ∀ k ∈ mssOptions packet',
    mssValue packet' k ≤ mtu - ihl packet - 20 ∧ mssValue packet' k ≤ mssValue packet k
  verifies : clamped = true → Verifies (pseudoHeader packet' ++ packet'.drop (ihl packet'))
  unchanged : clamped = false → packet' = packet
  again : clampMss packet' mtu = .ok (false, packet')

section Clamped

variable {packet : Bytes} (h : WellFormedTcp packet) (mtu : ℕ)

include h

lemma WellFormedTcp.length_lowered : (lowered packet mtu).length = packet.length :=
  length_foldl_lowerOption fun _ hk => (h.mem_mssOptions hk).2.1

lemma WellFormedTcp.length_rechecksummed :
    (rechecksummed (ihl packet) (lowered packet mtu)).length = packet.length := by
  have hinside := h.inside
  have hoffset := h.dataOffset
  have hlen := h.length_lowered mtu
  rw [R2N.length_rechecksummed (by omega), hlen]

/-- Nothing but the checksum and the values of the options is written. -/
lemma WellFormedTcp.item_rechecksummed {j : ℕ} (hj : j ≠ ihl packet + 16 ∧ j ≠ ihl packet + 17)
    (hvalues : ∀ k ∈ mssOptions packet, j ≠ k + 2 ∧ j ≠ k + 3) :
    item (rechecksummed (ihl packet) (lowered packet mtu)) j = item packet j := by
  have hinside := h.inside
  have hoffset := h.dataOffset
  have hlen := h.length_lowered mtu
  rw [R2N.item_rechecksummed (by omega) hj,
    lowered, item_foldl_lowerOption (fun _ hk => (h.mem_mssOptions hk).2.1) hvalues]

/-- The headers in front of the options stay as they are. -/
lemma WellFormedTcp.item_header {j : ℕ} (hlt : j < ihl packet + 20)
    (hj : j ≠ ihl packet + 16 ∧ j ≠ ihl packet + 17) :
    item (rechecksummed (ihl packet) (lowered packet mtu)) j = item packet j := by
  refine h.item_rechecksummed mtu hj fun k hk => ?_
  have := (h.mem_mssOptions hk).1
  omega

lemma WellFormedTcp.ihl_rechecksummed :
    ihl (rechecksummed (ihl packet) (lowered packet mtu)) = ihl packet := by
  rw [ihl, h.item_header mtu (by omega) (by omega), ← ihl]

lemma WellFormedTcp.tcpDataOffset_rechecksummed :
    tcpDataOffset (rechecksummed (ihl packet) (lowered packet mtu)) = tcpDataOffset packet := by
  rw [tcpDataOffset, h.ihl_rechecksummed, h.item_header mtu (by omega) (by omega), ← tcpDataOffset]

lemma WellFormedTcp.mssOptions_rechecksummed :
    mssOptions (rechecksummed (ihl packet) (lowered packet mtu)) = mssOptions packet :=
  mssOptions_congr (h.length_rechecksummed mtu) (h.ihl_rechecksummed mtu)
    (h.tcpDataOffset_rechecksummed mtu)
    fun _ hj hvalues => (h.item_rechecksummed mtu (by omega) hvalues).symm

lemma WellFormedTcp.mssValue_rechecksummed {k : ℕ} (hk : k ∈ mssOptions packet) :
    mssValue (rechecksummed (ihl packet) (lowered packet mtu)) k =
      min (mssValue packet k) (maxMss packet mtu) := by
  have hinside := h.inside
  have hoffset := h.dataOffset
  have hlen := h.length_lowered mtu
  have hbounds := h.mem_mssOptions hk
  rw [mssValue_congr (R2N.item_rechecksummed (by omega) (by omega))
    (R2N.item_rechecksummed (by omega) (by omega))]
  exact mssValue_foldl_lowerOption (Nat.mod_lt _ (by decide))
    (fun _ hk => (h.mem_mssOptions hk).2.1) (pairwise_mssOptionsFrom _ _ _) (fun _ _ => rfl) hk

lemma WellFormedTcp.verifies_rechecksummed :
    Verifies (pseudoHeader (rechecksummed (ihl packet) (lowered packet mtu)) ++
      (rechecksummed (ihl packet) (lowered packet mtu)).drop (ihl packet)) := by
  have hheader := h.header
  have hinside := h.inside
  have hoffset := h.dataOffset
  have hshort := h.short
  have hlow := h.length_lowered mtu
  have hlen := h.length_rechecksummed mtu
  have hpseudo : wordSum (pseudoHeader (rechecksummed (ihl packet) (lowered packet mtu))) =
      pseudoSum ((lowered packet mtu).take (ihl packet))
        ((lowered packet mtu).length - ihl packet) := by
    rw [wordSum_pseudoHeader (by omega) (by omega), pseudoSum, h.ihl_rechecksummed, hlen, hlow,
      ← take_rechecksummed (by omega), Bytes.slice_take (by omega), Bytes.slice_take (by omega)]
  have heven : Even (pseudoHeader (rechecksummed (ihl packet) (lowered packet mtu))).length := by
    rw [length_pseudoHeader (by omega)]
    decide
  rw [Verifies, OnesComplement.wordSum_append heven, hpseudo]
  exact fold_rechecksummed (by omega) (by omega)

/-- A packet with an option that is too large leaves as it should. -/
lemma WellFormedTcp.clampSpec_rechecksummed (hmtu : mtu < 65536) :
    ClampSpec packet mtu true (rechecksummed (ihl packet) (lowered packet mtu)) := by
  have hmax : maxMss packet mtu = mtu - ihl packet - 20 := by
    rw [maxMss, Nat.mod_eq_of_lt (by omega)]
    omega
  have hmax' : maxMss (rechecksummed (ihl packet) (lowered packet mtu)) mtu =
      maxMss packet mtu := by
    rw [maxMss, h.ihl_rechecksummed, ← maxMss]
  refine ⟨h.length_rechecksummed mtu, fun j hj => ?_, fun _ k hk => ?_,
    fun _ => ?_, by simp, clampMss_of_small fun _ k hk => ?_⟩
  · by_contra hout
    push Not at hout
    exact hj (h.item_rechecksummed mtu ⟨hout.1, hout.2.1⟩ hout.2.2)
  · rw [h.mssOptions_rechecksummed] at hk
    rw [h.mssValue_rechecksummed mtu hk, ← hmax]
    exact ⟨Nat.min_le_right _ _, Nat.min_le_left _ _⟩
  · rw [h.ihl_rechecksummed]
    exact h.verifies_rechecksummed mtu
  · rw [h.mssOptions_rechecksummed] at hk
    rw [h.length_rechecksummed, h.mssValue_rechecksummed mtu hk, hmax']
    exact ⟨(h.mem_mssOptions hk).2.1, Nat.min_le_right _ _⟩

/-- A packet with no such option leaves as it came. -/
lemma WellFormedTcp.clampSpec_self (hmtu : mtu < 65536)
    (hsmall : Scanned packet → ∀ k ∈ mssOptions packet, mssValue packet k ≤ maxMss packet mtu) :
    ClampSpec packet mtu false packet := by
  have hmax : maxMss packet mtu = mtu - ihl packet - 20 := by
    rw [maxMss, Nat.mod_eq_of_lt (by omega)]
    omega
  refine ⟨rfl, fun j hj => absurd rfl hj, fun hsyn k hk => ⟨?_, le_rfl⟩, by simp, fun _ => rfl,
    clampMss_of_small fun hscanned k hk => ⟨(h.mem_mssOptions hk).2.1, hsmall hscanned k hk⟩⟩
  rw [← hmax]
  exact hsmall (h.scanned_iff.mpr ⟨(h.mem_mssOptions hk).2.2, hsyn⟩) k hk

/-- The values of the options in a SYN that leaves. -/
lemma WellFormedTcp.clampMss_values (hmtu : mtu < 65536) (hsyn : SynFlag packet) :
    ∃ clamped packet', clampMss packet mtu = .ok (clamped, packet') ∧ ihl packet' = ihl packet ∧
      mssOptions packet' = mssOptions packet ∧ ∀ k ∈ mssOptions packet,
        mssValue packet' k = min (mssValue packet k) (mtu - (ihl packet + 20)) := by
  have hheader := h.header
  have hinside := h.inside
  have hoffset := h.dataOffset
  have hlow := h.length_lowered mtu
  have hmax : maxMss packet mtu = mtu - (ihl packet + 20) := Nat.mod_eq_of_lt (by omega)
  rw [← hmax]
  by_cases hlarge : ∃ k ∈ mssOptions packet, maxMss packet mtu < mssValue packet k
  · obtain ⟨k, hk, -⟩ := id hlarge
    refine ⟨true, _, ?_, h.ihl_rechecksummed mtu, h.mssOptions_rechecksummed mtu,
      fun k hk => h.mssValue_rechecksummed mtu hk⟩
    rw [clampMss_of_large (h.scanned_iff.mpr ⟨(h.mem_mssOptions hk).2.2, hsyn⟩)
      (fun k hk => (h.mem_mssOptions hk).2.1) hlarge, finishClamp_eq hheader (by omega)]
  · push Not at hlarge
    exact ⟨false, packet,
      clampMss_of_small fun _ k hk => ⟨(h.mem_mssOptions hk).2.1, hlarge k hk⟩, rfl, rfl,
      fun k hk => (Nat.min_eq_left (hlarge k hk)).symm⟩

end Clamped

/-- **MSS clamping is correct** on every whole, well-formed packet. -/
theorem clampMss_correct (packet : Bytes) (mtu : ℕ) (h : WellFormedTcp packet)
    (hmtu : mtu < 65536) :
    ∃ clamped packet', clampMss packet mtu = .ok (clamped, packet') ∧
      ClampSpec packet mtu clamped packet' := by
  have hheader := h.header
  have hinside := h.inside
  have hoffset := h.dataOffset
  have hlow := h.length_lowered mtu
  by_cases hsmall : Scanned packet →
      ∀ k ∈ mssOptions packet, mssValue packet k ≤ maxMss packet mtu
  · refine ⟨false, packet, clampMss_of_small fun hscanned k hk => ?_,
      h.clampSpec_self mtu hmtu hsmall⟩
    exact ⟨(h.mem_mssOptions hk).2.1, hsmall hscanned k hk⟩
  · push Not at hsmall
    obtain ⟨hscanned, hlarge⟩ := hsmall
    refine ⟨true, _, ?_, h.clampSpec_rechecksummed mtu hmtu⟩
    rw [clampMss_of_large hscanned (fun k hk => (h.mem_mssOptions hk).2.1) hlarge,
      finishClamp_eq hheader (by omega)]

/-- A SYN that announces 1460 bytes, with a NOP in front of the option. -/
def testSyn : Bytes :=
  [0x45, 0, 0, 48, 0, 0, 0x40, 0, 64, 6, 0, 0, 10, 0, 0, 1, 10, 0, 0, 2] ++
    List.replicate 12 0 ++ [0x70, 0x02] ++ List.replicate 6 0 ++ [1, 2, 4, 0x05, 0xB4, 0, 0, 0]

theorem clampMss_correct_testSyn :
    ∃ packet', clampMss testSyn 1280 = .ok (true, packet') ∧
      ClampSpec testSyn 1280 true packet' := by
  have hwell : WellFormedTcp testSyn :=
    ⟨by decide, by decide, by decide, by decide, by decide, by decide, by decide, by decide⟩
  obtain ⟨clamped, packet', hclamp, hspec⟩ := clampMss_correct testSyn 1280 hwell (by decide)
  cases clamped with
  | true => exact ⟨packet', hclamp, hspec⟩
  | false =>
      obtain ⟨_, hlowered⟩ : ∃ q, clampMss testSyn 1280 = .ok (true, q) := ⟨_, rfl⟩
      simp [hclamp] at hlowered

end R2N
