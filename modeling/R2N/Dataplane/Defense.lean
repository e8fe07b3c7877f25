import R2N.Lib.Checked
import R2N.Lib.OnesComplement
import R2N.Common

/-!
# Packet size defence

The checksums of `r2n-dataplane`'s `defense` module and `build_icmp_frag_needed`, which answers a
packet that does not fit.  Every index and every range of the source is a checked access here, so
that a panic is a result of the model.

* **`buildIcmpFragNeeded_spec`** — the answer is a well-formed ICMP Fragmentation Needed packet
  about the packet it answers.
-/

namespace R2N

open Bytes (writeAt beBytes ofBe length_writeAt length_beBytes length_slice)
open Checked (Fault item)
open OnesComplement (word wordSum fold Verifies)

/-! ## Fields of an IPv4 packet -/

/-- The version, from the first byte. -/
def ipVersion (packet : Bytes) : UInt8 := item packet 0 >>> 4

/-- The length of the IPv4 header, from the first byte. -/
def ihl (packet : Bytes) : ℕ := (item packet 0 &&& 0x0F).toNat * 4

lemma ihl_le (packet : Bytes) : ihl packet ≤ 60 := by
  have hle : (item packet 0 &&& 0x0F).toNat ≤ 15 := by
    rw [UInt8.toNat_and]
    exact Nat.and_le_right
  simp only [ihl]
  omega

/-! ## Checksums -/

/-- The summation loop of both checksums: two bytes a round from index `i` on, then an odd last
byte as the upper half of a word. -/
def addWords (data : Bytes) : ℕ → ℕ → ℕ → Except Fault ℕ
  | 0, _, _ => .error .outOfFuel
  | fuel + 1, i, sum =>
      if i + 1 < data.length then do
        let hi ← Checked.get data i
        let lo ← Checked.get data (i + 1)
        addWords data fuel (i + 2) ((sum + word hi lo) % 2 ^ 32)
      else if i < data.length then do
        let hi ← Checked.get data i
        return (sum + word hi 0) % 2 ^ 32
      else
        return sum

def sumWords (data : Bytes) (sum : ℕ) : Except Fault ℕ := addWords data (data.length + 1) 0 sum

/-- The fold of the carries and the complement, `!(sum as u16)`. -/
def finishChecksum (sum : ℕ) : ℕ := 65535 - fold sum % 2 ^ 16

def ipChecksum (data : Bytes) : Except Fault ℕ := do
  let sum ← sumWords data 0
  return finishChecksum sum

/-- The summation loop reads in range, ends and adds the words that are left. -/
lemma addWords_eq {data : Bytes} {fuel i sum : ℕ} (hfuel : data.length - i < fuel)
    (hsum : sum < 2 ^ 32) :
    addWords data fuel i sum = .ok ((sum + wordSum (data.drop i)) % 2 ^ 32) := by
  induction fuel generalizing i sum with
  | zero => exact absurd hfuel (Nat.not_lt_zero _)
  | succ fuel ih =>
      simp only [addWords]
      split_ifs with hpair hodd
      · rw [Checked.get_of_lt (by omega), Checked.get_of_lt hpair,
          Checked.drop_eq_item_cons (by omega), Checked.drop_eq_item_cons hpair]
        simp only [Checked.ok_bind]
        rw [ih (by omega) (Nat.mod_lt _ (by decide)), OnesComplement.wordSum_pair,
          Nat.mod_add_mod, Nat.add_assoc]
      · have hlast : data.drop (i + 1) = [] := List.drop_eq_nil_of_le (by omega)
        rw [Checked.get_of_lt hodd, Checked.drop_eq_item_cons hodd, hlast]
        rfl
      · rw [List.drop_eq_nil_of_le (by omega), OnesComplement.wordSum_nil, Nat.add_zero,
          Nat.mod_eq_of_lt hsum]
        rfl

lemma sumWords_eq (data : Bytes) {sum : ℕ} (hsum : sum < 2 ^ 32) :
    sumWords data sum = .ok ((sum + wordSum data) % 2 ^ 32) :=
  addWords_eq (Nat.lt_succ_self _) hsum

lemma finishChecksum_eq (sum : ℕ) : finishChecksum sum = 65535 - fold sum := by
  rw [finishChecksum, Nat.mod_eq_of_lt (OnesComplement.fold_lt sum)]

/-- The sum of a header or a message of this size fits in 32 bits. -/
lemma wordSum_lt {data : Bytes} (hlen : data.length < 2 ^ 16) : wordSum data < 2 ^ 31 := by
  have hle := OnesComplement.wordSum_le data
  omega

lemma ipChecksum_eq {data : Bytes} (hlen : data.length < 2 ^ 16) :
    ipChecksum data = .ok (65535 - fold (wordSum data)) := by
  have hsum := wordSum_lt hlen
  simp [ipChecksum, sumWords_eq data (show 0 < 2 ^ 32 by decide), finishChecksum_eq,
    Nat.mod_eq_of_lt (show wordSum data < 4294967296 by omega)]

/-! ## ICMP Fragmentation Needed -/

/-- The fields of the outer header but its checksum, into `ip_hdr`. -/
def writeIpHeader (ipHdr : Bytes) (totalLen : ℕ) (srcIp dstIp : Bytes) : Except Fault Bytes := do
  let ipHdr ← Checked.set ipHdr 0 0x45
  let ipHdr ← Checked.set ipHdr 1 0
  let ipHdr ← Checked.copyInto ipHdr 2 4 (beBytes 2 totalLen)
  let ipHdr ← Checked.copyInto ipHdr 6 8 (beBytes 2 0)
  let ipHdr ← Checked.set ipHdr 8 64
  let ipHdr ← Checked.set ipHdr 9 1
  -- the reply goes back to the source
  let ipHdr ← Checked.copyInto ipHdr 12 16 dstIp
  Checked.copyInto ipHdr 16 20 srcIp

/-- The fields of the ICMP header but its checksum, into `icmp_hdr`. -/
def writeIcmpHeader (icmpHdr : Bytes) (nextHopMtu : UInt16) : Except Fault Bytes := do
  let icmpHdr ← Checked.set icmpHdr 0 3
  let icmpHdr ← Checked.set icmpHdr 1 4
  Checked.copyInto icmpHdr 6 8 (beBytes 2 nextHopMtu.toNat)

/-- The outer header, in the first 20 bytes of the packet. -/
def fillIpHeader (pkt : Bytes) (totalLen : ℕ) (srcIp dstIp : Bytes) : Except Fault Bytes := do
  let ipHdr ← Checked.slice pkt 0 20
  let ipHdr ← writeIpHeader ipHdr totalLen srcIp dstIp
  let ipCksum ← ipChecksum ipHdr
  let ipHdr ← Checked.copyInto ipHdr 10 12 (beBytes 2 ipCksum)
  Checked.copyInto pkt 0 20 ipHdr

/-- The ICMP header and the body, behind the outer header. -/
def fillIcmp (pkt : Bytes) (nextHopMtu : UInt16) (body : Bytes) : Except Fault Bytes := do
  let icmpHdr ← Checked.slice pkt 20 28
  let icmpHdr ← writeIcmpHeader icmpHdr nextHopMtu
  let pkt ← Checked.copyInto pkt 20 28 icmpHdr
  let pkt ← Checked.copyInto pkt 28 (28 + body.length) body
  let icmp ← Checked.slice pkt 20 pkt.length
  let icmpCksum ← ipChecksum icmp
  Checked.copyInto pkt 22 24 (beBytes 2 icmpCksum)

def buildIcmpFragNeeded (originalIpv4 : Bytes) (nextHopMtu : UInt16) :
    Except Fault (Option Bytes) := do
  let first ← Checked.get originalIpv4 0
  let origIhl := (first &&& 0x0F).toNat * 4
  let icmpDataLen := origIhl + 8
  if originalIpv4.length < icmpDataLen then
    return none
  else
    let totalLen := 20 + 8 + icmpDataLen
    let pkt := List.replicate totalLen 0
    let srcIp ← Checked.slice originalIpv4 12 16
    let dstIp ← Checked.slice originalIpv4 16 20
    let pkt ← fillIpHeader pkt totalLen srcIp dstIp
    let body ← Checked.slice originalIpv4 0 icmpDataLen
    let pkt ← fillIcmp pkt nextHopMtu body
    return some pkt

/-- The outer header with a zero checksum. -/
def icmpOuterHeader (totalLen : ℕ) (srcIp dstIp : Bytes) : Bytes :=
  [0x45, 0] ++ beBytes 2 totalLen ++ [0, 0, 0, 0, 64, 1, 0, 0] ++ dstIp ++ srcIp

/-- The ICMP message with a zero checksum. -/
def icmpMessage (nextHopMtu : UInt16) (body : Bytes) : Bytes :=
  [3, 4, 0, 0, 0, 0] ++ beBytes 2 nextHopMtu.toNat ++ body

/-- Data with its checksum written into the field at `off`. -/
def checksummed (off : ℕ) (data : Bytes) : Bytes :=
  writeAt off (beBytes 2 (65535 - fold (wordSum data))) data

/-- The whole answer. -/
def icmpReply (totalLen : ℕ) (srcIp dstIp : Bytes) (nextHopMtu : UInt16) (body : Bytes) : Bytes :=
  checksummed 10 (icmpOuterHeader totalLen srcIp dstIp) ++
    checksummed 2 (icmpMessage nextHopMtu body)

/-- The answer to `originalIpv4`. -/
def icmpFragNeeded (originalIpv4 : Bytes) (nextHopMtu : UInt16) : Bytes :=
  icmpReply (20 + 8 + (ihl originalIpv4 + 8)) (Bytes.slice 12 16 originalIpv4)
    (Bytes.slice 16 20 originalIpv4) nextHopMtu (originalIpv4.take (ihl originalIpv4 + 8))

lemma exists_four {l : Bytes} (h : l.length = 4) : ∃ a b c d, l = [a, b, c, d] := by
  obtain ⟨a, l, rfl⟩ := List.exists_cons_of_length_eq_add_one h
  obtain ⟨b, c, d, rfl⟩ := List.length_eq_three.mp (Nat.succ.inj h)
  exact ⟨a, b, c, d, rfl⟩

lemma writeIpHeader_eq {srcIp dstIp : Bytes} (totalLen : ℕ) (hsrc : srcIp.length = 4)
    (hdst : dstIp.length = 4) :
    writeIpHeader (List.replicate 20 0) totalLen srcIp dstIp =
      .ok (icmpOuterHeader totalLen srcIp dstIp) := by
  obtain ⟨s₀, s₁, s₂, s₃, rfl⟩ := exists_four hsrc
  obtain ⟨d₀, d₁, d₂, d₃, rfl⟩ := exists_four hdst
  simp [writeIpHeader, Checked.set, Checked.copyInto, writeAt, icmpOuterHeader, beBytes]

lemma writeIcmpHeader_eq (nextHopMtu : UInt16) :
    writeIcmpHeader (List.replicate 8 0) nextHopMtu = .ok (icmpMessage nextHopMtu []) := by
  simp [writeIcmpHeader, Checked.set, Checked.copyInto, writeAt, icmpMessage, beBytes]

lemma length_icmpOuterHeader {srcIp dstIp : Bytes} (totalLen : ℕ) (hsrc : srcIp.length = 4)
    (hdst : dstIp.length = 4) : (icmpOuterHeader totalLen srcIp dstIp).length = 20 := by
  simp [icmpOuterHeader, hsrc, hdst]

lemma length_icmpMessage (nextHopMtu : UInt16) (body : Bytes) :
    (icmpMessage nextHopMtu body).length = 8 + body.length := by
  simp [icmpMessage]
  omega

lemma length_checksummed (off : ℕ) {data : Bytes} (h : off + 2 ≤ data.length) :
    (checksummed off data).length = data.length :=
  length_writeAt (by simpa using h)

lemma fillIpHeader_eq {srcIp dstIp : Bytes} (totalLen : ℕ) (hsrc : srcIp.length = 4)
    (hdst : dstIp.length = 4) (rest : Bytes) :
    fillIpHeader (List.replicate 20 0 ++ rest) totalLen srcIp dstIp =
      .ok (checksummed 10 (icmpOuterHeader totalLen srcIp dstIp) ++ rest) := by
  have hheader := length_icmpOuterHeader totalLen hsrc hdst
  have hchecked : (writeAt 10 (beBytes 2 (65535 - fold (wordSum (icmpOuterHeader totalLen srcIp
      dstIp)))) (icmpOuterHeader totalLen srcIp dstIp)).length = 20 := by
    rw [length_writeAt (by rw [hheader, length_beBytes]; decide), hheader]
  simp only [fillIpHeader]
  rw [Checked.slice_of_le (by decide) (by simp), Bytes.slice_zero_append (by simp),
    Checked.ok_bind, writeIpHeader_eq totalLen hsrc hdst, Checked.ok_bind,
    ipChecksum_eq (by omega), Checked.ok_bind, Checked.copyInto_of_le (by omega) (by simp),
    Checked.ok_bind, Checked.copyInto_of_le (by simp) (by simpa using hchecked),
    Bytes.writeAt_zero, hchecked, List.drop_left' (by simp)]
  rfl

lemma fillIcmp_eq {header body : Bytes} (nextHopMtu : UInt16) (hheader : header.length = 20)
    (hbody : body.length < 2 ^ 15) :
    fillIcmp (header ++ (List.replicate 8 0 ++ List.replicate body.length 0)) nextHopMtu body =
      .ok (header ++ checksummed 2 (icmpMessage nextHopMtu body)) := by
  have hicmp : (icmpMessage nextHopMtu []).length = 8 := length_icmpMessage nextHopMtu []
  have hmessage := length_icmpMessage nextHopMtu body
  have happend : icmpMessage nextHopMtu [] ++ body = icmpMessage nextHopMtu body := by
    simp [icmpMessage]
  have hpkt : (header ++ (List.replicate 8 0 ++ List.replicate body.length 0)).length =
      28 + body.length := by
    simp only [List.length_append, List.length_replicate, hheader]
    omega
  have hfilled : (header ++ icmpMessage nextHopMtu body).length = 28 + body.length := by
    rw [List.length_append, hheader, hmessage]
    omega
  have hwithHeader : Bytes.writeAt 20 (icmpMessage nextHopMtu [])
        (header ++ (List.replicate 8 0 ++ List.replicate body.length 0)) =
      header ++ icmpMessage nextHopMtu [] ++ List.replicate body.length 0 := by
    rw [Bytes.writeAt_append hheader, hicmp, List.drop_left' (by simp)]
  have hwithBody : Bytes.writeAt 28 body
        (header ++ icmpMessage nextHopMtu [] ++ List.replicate body.length 0) =
      header ++ icmpMessage nextHopMtu body := by
    rw [Bytes.writeAt_append (by rw [List.length_append, hheader, hicmp]), List.drop_eq_nil_of_le
      (by simp), List.append_nil, List.append_assoc, happend]
  have hsum : Bytes.slice 20 (header ++ icmpMessage nextHopMtu body).length
        (header ++ icmpMessage nextHopMtu body) = icmpMessage nextHopMtu body := by
    rw [Bytes.slice, ← hheader, List.drop_left, List.take_of_length_le (by simp)]
  simp only [fillIcmp]
  rw [Checked.slice_of_le (by decide) (by omega), Checked.ok_bind,
    Bytes.slice_append_of_le (by omega), hheader, Bytes.slice_zero_append (by simp),
    writeIcmpHeader_eq, Checked.ok_bind, Checked.copyInto_of_le (by omega) (by omega),
    Checked.ok_bind, hwithHeader, Checked.copyInto_of_le (by simp [hheader, hicmp]; omega) rfl,
    Checked.ok_bind, hwithBody, Checked.slice_of_le (by omega) le_rfl, Checked.ok_bind, hsum,
    ipChecksum_eq (by omega), Checked.ok_bind, Checked.copyInto_of_le (by omega) (by simp),
    Bytes.writeAt_append_of_le (by omega), hheader]
  rfl

/-- **What the code builds.** -/
lemma buildIcmpFragNeeded_eq {originalIpv4 : Bytes} (nextHopMtu : UInt16)
    (hlen : 20 ≤ originalIpv4.length) (hbody : ihl originalIpv4 + 8 ≤ originalIpv4.length) :
    buildIcmpFragNeeded originalIpv4 nextHopMtu =
      .ok (some (icmpFragNeeded originalIpv4 nextHopMtu)) := by
  have hsrc : (Bytes.slice 12 16 originalIpv4).length = 4 := length_slice (by omega)
  have hdst : (Bytes.slice 16 20 originalIpv4).length = 4 := length_slice (by omega)
  have hslice : Bytes.slice 0 (ihl originalIpv4 + 8) originalIpv4 =
      originalIpv4.take (ihl originalIpv4 + 8) := rfl
  have htake : (originalIpv4.take (ihl originalIpv4 + 8)).length = ihl originalIpv4 + 8 := by
    simpa using hbody
  have hihl := ihl_le originalIpv4
  -- the buffer of zeroes as the outer header, the ICMP header and the body
  have hzeros : List.replicate (20 + 8 + (ihl originalIpv4 + 8)) (0 : UInt8) =
      List.replicate 20 0 ++ (List.replicate 8 0 ++
        List.replicate (originalIpv4.take (ihl originalIpv4 + 8)).length 0) := by
    rw [htake, List.replicate_append_replicate, List.replicate_append_replicate, Nat.add_assoc]
  simp only [buildIcmpFragNeeded]
  rw [Checked.get_of_lt (by omega), Checked.ok_bind,
    show (item originalIpv4 0 &&& 0x0F).toNat * 4 = ihl originalIpv4 from rfl,
    if_neg (by omega), Checked.slice_of_le (by decide) (by omega), Checked.ok_bind,
    Checked.slice_of_le (by decide) hlen, Checked.ok_bind, hzeros, fillIpHeader_eq _ hsrc hdst,
    Checked.ok_bind, Checked.slice_of_le (by omega) hbody, Checked.ok_bind, hslice,
    fillIcmp_eq nextHopMtu _ (by omega)]
  · rfl
  · rw [length_checksummed, length_icmpOuterHeader _ hsrc hdst]
    rw [length_icmpOuterHeader _ hsrc hdst]
    decide

lemma buildIcmpFragNeeded_of_short {originalIpv4 : Bytes} (nextHopMtu : UInt16)
    (hlen : 20 ≤ originalIpv4.length) (hshort : originalIpv4.length < ihl originalIpv4 + 8) :
    buildIcmpFragNeeded originalIpv4 nextHopMtu = .ok none := by
  simp only [buildIcmpFragNeeded]
  rw [Checked.get_of_lt (by omega), Checked.ok_bind]
  exact if_pos hshort

/-- A well-formed answer to `originalIpv4`. -/
structure FragNeeded (originalIpv4 : Bytes) (nextHopMtu : UInt16) (pkt : Bytes) : Prop where
  totalLength : ofBe (Bytes.slice 2 4 pkt) = pkt.length
  source : Bytes.slice 12 16 pkt = Bytes.slice 16 20 originalIpv4
  destination : Bytes.slice 16 20 pkt = Bytes.slice 12 16 originalIpv4
  headerChecksum : Verifies (pkt.take 20)
  icmpChecksum : Verifies (pkt.drop 20)
  mtu : ofBe (Bytes.slice 26 28 pkt) = nextHopMtu.toNat
  body : pkt.drop 28 = originalIpv4.take (ihl originalIpv4 + 8)

lemma verifies_checksummed {off : ℕ} {data : Bytes} (heven : Even off)
    (hoff : off + 2 ≤ data.length) (hzero : Bytes.slice off (off + 2) data = [0, 0])
    (hpos : 0 < wordSum data) : Verifies (checksummed off data) := by
  have hfold := OnesComplement.fold_add_wordSum_writeAt 0 heven hoff hzero (by omega)
  simpa only [Nat.zero_add, Verifies, checksummed] using hfold

section Reply

variable {srcIp dstIp : Bytes} (totalLen : ℕ) (hsrc : srcIp.length = 4) (hdst : dstIp.length = 4)
variable (nextHopMtu : UInt16) (body : Bytes)

/-- The answer field by field. -/
lemma icmpReply_eq (srcIp dstIp : Bytes) :
    ∃ ipCksum icmpCksum, icmpReply totalLen srcIp dstIp nextHopMtu body =
      [0x45, 0] ++ (beBytes 2 totalLen ++ ([0, 0, 0, 0, 64, 1] ++ (beBytes 2 ipCksum ++
        (dstIp ++ (srcIp ++ ([3, 4] ++ (beBytes 2 icmpCksum ++ ([0, 0] ++
          (beBytes 2 nextHopMtu.toNat ++ body))))))))) := by
  refine ⟨65535 - fold (wordSum (icmpOuterHeader totalLen srcIp dstIp)),
    65535 - fold (wordSum (icmpMessage nextHopMtu body)), ?_⟩
  simp only [icmpReply, checksummed]
  generalize 65535 - fold (wordSum (icmpOuterHeader totalLen srcIp dstIp)) = ipCksum
  generalize 65535 - fold (wordSum (icmpMessage nextHopMtu body)) = icmpCksum
  simp [icmpOuterHeader, icmpMessage, writeAt, beBytes]

include hsrc hdst

lemma length_icmpReply :
    (icmpReply totalLen srcIp dstIp nextHopMtu body).length = 28 + body.length := by
  obtain ⟨ipCksum, icmpCksum, hreply⟩ := icmpReply_eq totalLen nextHopMtu body srcIp dstIp
  simp only [hreply, List.length_append, hsrc, hdst, length_beBytes, List.length_cons,
    List.length_nil]
  omega

lemma icmpReply_fields :
    let pkt := icmpReply totalLen srcIp dstIp nextHopMtu body
    Bytes.slice 2 4 pkt = beBytes 2 totalLen ∧ Bytes.slice 12 16 pkt = dstIp ∧
      Bytes.slice 16 20 pkt = srcIp ∧ Bytes.slice 26 28 pkt = beBytes 2 nextHopMtu.toNat := by
  obtain ⟨ipCksum, icmpCksum, hreply⟩ := icmpReply_eq totalLen nextHopMtu body srcIp dstIp
  simp only [hreply]
  -- each field is found by the lengths of the fields before it
  simp (disch := simp [hsrc, hdst]) only [Bytes.slice_append_of_le, Bytes.slice_zero_append, hsrc,
    hdst, length_beBytes, List.length_cons, List.length_nil, Nat.reduceAdd, Nat.reduceSub,
    and_self]

lemma drop_icmpReply : (icmpReply totalLen srcIp dstIp nextHopMtu body).drop 28 = body := by
  obtain ⟨ipCksum, icmpCksum, hreply⟩ := icmpReply_eq totalLen nextHopMtu body srcIp dstIp
  rw [hreply]
  simp [List.drop_append, beBytes, hsrc, hdst, List.drop_eq_nil_of_le]

lemma verifies_take_icmpReply :
    Verifies ((icmpReply totalLen srcIp dstIp nextHopMtu body).take 20) := by
  have hheader := length_icmpOuterHeader totalLen hsrc hdst
  have hfront := length_checksummed 10 (by rw [hheader]; decide)
  rw [icmpReply, List.take_left' (hfront.trans hheader)]
  refine verifies_checksummed (by decide) (by omega) ?_ ?_
  · simp [icmpOuterHeader, Bytes.slice, beBytes]
  · simp [icmpOuterHeader, beBytes, word]

lemma verifies_drop_icmpReply :
    Verifies ((icmpReply totalLen srcIp dstIp nextHopMtu body).drop 20) := by
  have hheader := length_icmpOuterHeader totalLen hsrc hdst
  have hfront := length_checksummed 10 (by rw [hheader]; decide)
  have hmessage := length_icmpMessage nextHopMtu body
  rw [icmpReply, List.drop_left' (hfront.trans hheader)]
  refine verifies_checksummed (by decide) (by omega) ?_ ?_
  · simp [icmpMessage, Bytes.slice]
  · simp [icmpMessage, beBytes, word]

end Reply

lemma icmpFragNeeded_wellFormed {originalIpv4 : Bytes} (nextHopMtu : UInt16)
    (hlen : 20 ≤ originalIpv4.length) (hbody : ihl originalIpv4 + 8 ≤ originalIpv4.length) :
    FragNeeded originalIpv4 nextHopMtu (icmpFragNeeded originalIpv4 nextHopMtu) := by
  have hsrc : (Bytes.slice 12 16 originalIpv4).length = 4 := length_slice (by omega)
  have hdst : (Bytes.slice 16 20 originalIpv4).length = 4 := length_slice (by omega)
  have hihl := ihl_le originalIpv4
  have hmtu := nextHopMtu.toNat_lt
  obtain ⟨htotal, hsource, hdestination, hnext⟩ :=
    icmpReply_fields (20 + 8 + (ihl originalIpv4 + 8)) hsrc hdst nextHopMtu
      (originalIpv4.take (ihl originalIpv4 + 8))
  refine ⟨?_, hsource, hdestination, verifies_take_icmpReply _ hsrc hdst _ _,
    verifies_drop_icmpReply _ hsrc hdst _ _, ?_, drop_icmpReply _ hsrc hdst _ _⟩
  · rw [icmpFragNeeded, htotal, Bytes.ofBe_beBytes, length_icmpReply _ hsrc hdst,
      List.length_take]
    omega
  · rw [icmpFragNeeded, hnext, Bytes.ofBe_beBytes]
    omega

/-- **The answer to a packet that does not fit.**  For a packet with a whole IPv4 header the code
does not panic; it gives up exactly when the packet ends before the eight bytes behind its header,
and otherwise builds a well-formed answer. -/
theorem buildIcmpFragNeeded_spec (originalIpv4 : Bytes) (nextHopMtu : UInt16)
    (hlen : 20 ≤ originalIpv4.length) :
    ∃ reply, buildIcmpFragNeeded originalIpv4 nextHopMtu = .ok reply ∧
      (reply = none ↔ originalIpv4.length < ihl originalIpv4 + 8) ∧
      ∀ pkt, reply = some pkt → FragNeeded originalIpv4 nextHopMtu pkt := by
  rcases Nat.lt_or_ge originalIpv4.length (ihl originalIpv4 + 8) with hshort | hbody
  · exact ⟨none, buildIcmpFragNeeded_of_short nextHopMtu hlen hshort, by simpa using hshort,
      by simp⟩
  · refine ⟨_, buildIcmpFragNeeded_eq nextHopMtu hlen hbody, by simpa using hbody, ?_⟩
    rintro pkt hpkt
    rw [← Option.some.inj hpkt]
    exact icmpFragNeeded_wellFormed nextHopMtu hlen hbody

/-- A UDP packet of 28 bytes. -/
def testDatagram : Bytes :=
  [0x45, 0, 0, 28, 0, 0, 0x40, 0, 64, 17, 0, 0, 10, 0, 0, 1, 10, 0, 0, 2, 1, 2, 3, 4, 0, 8, 0, 0]

theorem buildIcmpFragNeeded_spec_testDatagram :
    ∃ pkt, buildIcmpFragNeeded testDatagram 1280 = .ok (some pkt) ∧
      FragNeeded testDatagram 1280 pkt := by
  obtain ⟨reply, hreply, hnone, hsome⟩ := buildIcmpFragNeeded_spec testDatagram 1280 (by decide)
  cases reply with
  | none => exact absurd (hnone.mp rfl) (by decide)
  | some pkt => exact ⟨pkt, hreply, hsome pkt rfl⟩

end R2N
