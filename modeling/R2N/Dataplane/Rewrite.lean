import R2N.Dataplane.Receive
import R2N.Layer3

/-!
# Rewriting the destination of a packet

On one of its targets the data plane hands broadcasts to the device under the address of the device
itself: `rewrite_ipv4_destination` replaces the destination in the buffer and corrects the checksums
that cover it.  The edits happen in place and one after another, the destination first, so that a
packet whose transport header cannot be read is left half done; and what is summed is the rest of
the buffer, not the datagram that the header delimits.

* `UdpVerifies`, `TcpVerifies`, `Delivered` — what a receiver checks.
* `Etherparse.Correct` — what the packet parser and its checksum functions are documented to do.
* **`rewriteIpv4Destination_allOrNothing_iff`** — the packets that leave either rewritten and
  verifying or unchanged.
* `Etherparse.reference` — a parser that does as documented.
-/

namespace R2N

open Bytes (writeAt beBytes ofBe length_writeAt length_beBytes length_slice drop_writeAt
  writeAt_append_left writeAt_writeAt slice_writeAt slice_writeAt_of_disjoint slice_append_left
  slice_take)
open Checked (item item_writeAt item_append_left item_take item_drop)
open OnesComplement (word wordSum fold behind Verifies wordSum_append wordSum_pos wordSum_replace
  wordSum_writeAt wordSum_take_add_behind wordSum_beBytes verifies_iff_dvd behind_congr)

/-! ## What a receiver checks -/

def totalLengthField (packet : Bytes) : ℕ := ofBe (Bytes.slice 2 4 packet)

/-- What stands behind the IPv4 header in the buffer. -/
def transportPart (packet : Bytes) : Bytes := packet.drop (ihl packet)

/-- The length field of a UDP header. -/
def udpLength (datagram : Bytes) : ℕ := ofBe (Bytes.slice 4 6 datagram)

/-- What UDP and TCP sum in front of their data. -/
def addressedHeader (protocol : UInt8) (len : ℕ) (source destination : Bytes) : Bytes :=
  source ++ destination ++ [0, protocol] ++ beBytes 2 len

/-- The UDP datagram lies within the packet, and its checksum is right or not used. -/
@[mk_iff]
structure UdpVerifies (packet : Bytes) : Prop where
  whole : totalLengthField packet ≤ packet.length
  inside : ihl packet + udpLength (transportPart packet) ≤ totalLengthField packet
  header : 8 ≤ udpLength (transportPart packet)
  checksum : Bytes.slice 6 8 (transportPart packet) = [0, 0] ∨
    Verifies (addressedHeader 17 (udpLength (transportPart packet)) (Bytes.slice 12 16 packet)
      (Bytes.slice 16 20 packet) ++ (transportPart packet).take (udpLength (transportPart packet)))

/-- The TCP segment lies within the packet, and its checksum is right. -/
@[mk_iff]
structure TcpVerifies (packet : Bytes) : Prop where
  whole : totalLengthField packet ≤ packet.length
  header : ihl packet + 20 ≤ totalLengthField packet
  checksum : Verifies (addressedHeader 6 (totalLengthField packet - ihl packet)
    (Bytes.slice 12 16 packet) (Bytes.slice 16 20 packet) ++
      (transportPart packet).take (totalLengthField packet - ihl packet))

instance (packet : Bytes) : Decidable (UdpVerifies packet) :=
  decidable_of_iff _ (udpVerifies_iff packet).symm

instance (packet : Bytes) : Decidable (TcpVerifies packet) :=
  decidable_of_iff _ (tcpVerifies_iff packet).symm

/-- The packet carries the destination, and every checksum that can be checked on it verifies: that
of the header and, unless it is a fragment, that of UDP or TCP. -/
def Delivered (destination : ByteArr 4) (packet : Bytes) : Prop :=
  Bytes.slice 16 20 packet = destination.toList ∧ Verifies (packet.take (ihl packet)) ∧
    (¬Fragmented packet → (protocolByte packet = 17 → UdpVerifies packet) ∧
      (protocolByte packet = 6 → TcpVerifies packet))

instance (destination : ByteArr 4) (packet : Bytes) : Decidable (Delivered destination packet) :=
  inferInstanceAs (Decidable (_ ∧ _ ∧ (_ → (_ → _) ∧ (_ → _))))

/-- The packet is rewritten as a whole, or not at all. -/
def AllOrNothing (E : Etherparse) (packet : Bytes) (localIpv4 : ByteArr 4) : Prop :=
  ((rewriteIpv4Destination E packet localIpv4).1 = some () ∧
      Delivered localIpv4 (rewriteIpv4Destination E packet localIpv4).2) ∨
    ((rewriteIpv4Destination E packet localIpv4).1 = none ∧
      (rewriteIpv4Destination E packet localIpv4).2 = packet)

instance (E : Etherparse) (packet : Bytes) (localIpv4 : ByteArr 4) :
    Decidable (AllOrNothing E packet localIpv4) :=
  inferInstanceAs (Decidable ((_ ∧ _) ∨ (_ ∧ _)))

/-! ## The parser as documented -/

/-- The fields of an IPv4 header that are read. -/
def ipv4Fields (packet : Bytes) : Ipv4HeaderSlice where
  len := ihl packet
  source := ByteArr.ofBytes 4 (Bytes.slice 12 16 packet)
  destination := ByteArr.ofBytes 4 (Bytes.slice 16 20 packet)
  protocol := protocolByte packet

/-- A header with a new destination and checksum. -/
def readdressed (destination : ByteArr 4) (checksum : UInt16) (header : Bytes) : Bytes :=
  writeAt 10 (beBytes 2 checksum.toNat) (writeAt 16 destination.toList header)

/-- A header as `Ipv4Header` holds it: there is no field for the reserved flag. -/
def withoutReserved (header : Bytes) : Bytes := writeAt 6 [item header 6 &&& 0x7F] header

/-- The headers are parsed as the RFCs lay them out, and a checksum makes the words it covers sum
to a multiple of `65535`. -/
structure Etherparse.Correct (E : Etherparse) : Prop where
  ipv4 : ∀ packet,
    E.ipv4HeaderSlice packet = if WellFormedIpv4 packet then some (ipv4Fields packet) else none
  /-- The datagram has a header, and its length can be written in 16 bits. -/
  udp_isSome : ∀ datagram source destination,
    (E.udpChecksum datagram source destination (datagram.drop 8)).isSome = true ↔
      8 ≤ datagram.length ∧ datagram.length ≤ 65535
  /-- The pseudo-header has the length field of the header; zero is sent as all ones. -/
  udp : ∀ datagram source destination checksum,
    E.udpChecksum datagram source destination (datagram.drop 8) = some checksum →
      checksum ≠ 0 ∧ 65535 ∣ wordSum (addressedHeader 17 (udpLength datagram) source.toList
        destination.toList ++ writeAt 6 (beBytes 2 checksum.toNat) datagram)
  tcpHeaderLen : ∀ segment,
    E.tcpHeaderLen segment = if ReadableTcp segment then some (dataOffset segment) else none
  tcp_isSome : ∀ segment source destination, ReadableTcp segment →
    ((E.tcpChecksum segment source destination (segment.drop (dataOffset segment))).isSome = true ↔
      segment.length ≤ 65535)
  /-- The pseudo-header has the number of bytes given. -/
  tcp : ∀ segment source destination checksum, ReadableTcp segment →
    E.tcpChecksum segment source destination (segment.drop (dataOffset segment)) = some checksum →
      65535 ∣ wordSum (addressedHeader 6 segment.length source.toList destination.toList ++
        writeAt 16 (beBytes 2 checksum.toNat) segment)
  header : ∀ packet destination, WellFormedIpv4 packet →
    ∃ checksum, E.headerChecksum (packet.take (ihl packet)) destination = some checksum ∧
      65535 ∣ wordSum (withoutReserved
        (readdressed destination checksum (packet.take (ihl packet))))

/-! ## The packets that can be rewritten -/

/-- The UDP header is there and, unless the packet is a fragment, the datagram lies within it and
the words behind the datagram cancel out. -/
@[mk_iff]
structure UdpRewritable (packet : Bytes) : Prop where
  readable : 8 ≤ (transportPart packet).length
  short : (transportPart packet).length ≤ 65535
  delimited : ¬Fragmented packet → totalLengthField packet ≤ packet.length ∧
    ihl packet + udpLength (transportPart packet) ≤ totalLengthField packet ∧
    8 ≤ udpLength (transportPart packet) ∧
    65535 ∣ behind (udpLength (transportPart packet)) (transportPart packet)

/-- The TCP header is there and, unless the packet is a fragment, the segment lies within it and
the words behind the segment cancel out with the surplus of the length. -/
@[mk_iff]
structure TcpRewritable (packet : Bytes) : Prop where
  readable : ReadableTcp (transportPart packet)
  short : (transportPart packet).length ≤ 65535
  delimited : ¬Fragmented packet → totalLengthField packet ≤ packet.length ∧
    ihl packet + 20 ≤ totalLengthField packet ∧
    65535 ∣ packet.length - totalLengthField packet +
      behind (totalLengthField packet - ihl packet) (transportPart packet)

/-- The reserved flag is not set, and the transport header, if there is one to correct, can be
corrected. -/
@[mk_iff]
structure Rewritable (packet : Bytes) : Prop where
  reserved : item packet 6 < 128
  udp : protocolByte packet = 17 → UdpRewritable packet
  tcp : protocolByte packet = 6 → TcpRewritable packet

instance (packet : Bytes) : Decidable (UdpRewritable packet) :=
  decidable_of_iff _ (udpRewritable_iff packet).symm

instance (packet : Bytes) : Decidable (TcpRewritable packet) :=
  decidable_of_iff _ (tcpRewritable_iff packet).symm

instance (packet : Bytes) : Decidable (Rewritable packet) :=
  decidable_of_iff _ (rewritable_iff packet).symm

/-! ## The rewritten packet -/

lemma length_writeAt_destination (destination : ByteArr 4) {header : Bytes}
    (h : 20 ≤ header.length) : (writeAt 16 destination.toList header).length = header.length :=
  length_writeAt (by simpa using h)

lemma length_readdressed (destination : ByteArr 4) (checksum : UInt16) {header : Bytes}
    (h : 20 ≤ header.length) :
    (readdressed destination checksum header).length = header.length := by
  have hfirst := length_writeAt_destination destination h
  rw [readdressed, length_writeAt (by rw [length_beBytes, hfirst]; omega), hfirst]

/-- What stands in front of the checksum is kept. -/
lemma slice_readdressed_front (destination : ByteArr 4) (checksum : UInt16) {header : Bytes}
    {a b : ℕ} (h : 20 ≤ header.length) (hb : b ≤ 10) :
    Bytes.slice a b (readdressed destination checksum header) = Bytes.slice a b header := by
  have hfirst := length_writeAt_destination destination h
  rw [readdressed, slice_writeAt_of_disjoint (by omega) (.inl hb),
    slice_writeAt_of_disjoint (by omega) (.inl (by omega))]

lemma item_readdressed (destination : ByteArr 4) (checksum : UInt16) {header : Bytes}
    {i : ℕ} (h : 20 ≤ header.length) (hi : i < 10) :
    item (readdressed destination checksum header) i = item header i := by
  have hfirst := length_writeAt_destination destination h
  rw [readdressed, item_writeAt (by rw [length_beBytes, hfirst]; omega), if_neg (by omega),
    item_writeAt (by simpa using h), if_neg (by omega)]

lemma slice_readdressed_source (destination : ByteArr 4) (checksum : UInt16) {header : Bytes}
    (h : 20 ≤ header.length) :
    Bytes.slice 12 16 (readdressed destination checksum header) = Bytes.slice 12 16 header := by
  have hfirst := length_writeAt_destination destination h
  rw [readdressed, slice_writeAt_of_disjoint (by omega) (.inr (by simp)),
    slice_writeAt_of_disjoint (by omega) (.inl le_rfl)]

lemma slice_readdressed_destination (destination : ByteArr 4) (checksum : UInt16)
    {header : Bytes} (h : 20 ≤ header.length) :
    Bytes.slice 16 20 (readdressed destination checksum header) = destination.toList := by
  have hfirst := length_writeAt_destination destination h
  have hlen : 16 + destination.toList.length = 20 := by simp
  rw [readdressed, slice_writeAt_of_disjoint (by omega) (.inr (by simp)), ← hlen,
    slice_writeAt (by omega)]

/-- Only the reserved flag is cleared. -/
lemma wordSum_withoutReserved {header : Bytes} (h : 20 ≤ header.length) :
    wordSum header =
      wordSum (withoutReserved header) + if item header 6 < 128 then 0 else 2 ^ 15 := by
  have hfront : Even (header.take 6).length := by
    rw [List.length_take_of_le (by omega)]
    decide
  have hsplit : header = header.take 6 ++ item header 6 :: header.drop 7 := by
    rw [← Checked.drop_eq_item_cons (by omega), List.take_append_drop]
  have hwrite : withoutReserved header =
      header.take 6 ++ (item header 6 &&& 0x7F) :: header.drop 7 := by
    rw [withoutReserved, writeAt, List.append_assoc]
    rfl
  have hreplace := wordSum_replace hfront (item header 6) (item header 6 &&& 0x7F) (header.drop 7)
  rw [← hsplit, ← hwrite] at hreplace
  have hbyte : (item header 6).toNat = (item header 6 &&& 0x7F).toNat +
      if item header 6 < 128 then 0 else 128 := by
    have hlow : (item header 6 &&& 0x7F).toNat = (item header 6).toNat % 2 ^ 7 := by
      rw [UInt8.toNat_and]
      exact Nat.and_two_pow_sub_one_eq_mod _ 7
    have hbound := (item header 6).toNat_lt
    rw [hlow]
    simp only [UInt8.lt_iff_toNat_lt, UInt8.reduceToNat]
    split_ifs <;> omega
  split_ifs at hbyte ⊢ <;> omega

/-- The packet that leaves, with what became of its transport part. -/
def rewritten (destination : ByteArr 4) (checksum : UInt16) (packet transport : Bytes) : Bytes :=
  readdressed destination checksum (packet.take (ihl packet)) ++ transport

namespace WellFormedIpv4

variable {packet : Bytes} (hw : WellFormedIpv4 packet) (destination : ByteArr 4)
  (checksum : UInt16) (transport : Bytes)

include hw

lemma length_header : (packet.take (ihl packet)).length = ihl packet :=
  List.length_take_of_le hw.inside

lemma twenty_le_length_header : 20 ≤ (packet.take (ihl packet)).length :=
  hw.length_header.symm ▸ hw.header

lemma length_readdressed_header :
    (readdressed destination checksum (packet.take (ihl packet))).length = ihl packet := by
  rw [length_readdressed _ _ hw.twenty_le_length_header, hw.length_header]

lemma item_rewritten {i : ℕ} (hi : i < 10) :
    item (rewritten destination checksum packet transport) i = item packet i := by
  have hheader := hw.header
  rw [rewritten, item_append_left (by rw [hw.length_readdressed_header]; omega),
    item_readdressed _ _ hw.twenty_le_length_header hi, item_take (by omega)]

lemma ihl_rewritten : ihl (rewritten destination checksum packet transport) = ihl packet := by
  rw [ihl, hw.item_rewritten destination checksum transport (by decide), ihl]

lemma protocolByte_rewritten :
    protocolByte (rewritten destination checksum packet transport) = protocolByte packet :=
  hw.item_rewritten destination checksum transport (by decide)

lemma fragmented_rewritten_iff :
    Fragmented (rewritten destination checksum packet transport) ↔ Fragmented packet := by
  rw [Fragmented, hw.item_rewritten destination checksum transport (by decide),
    hw.item_rewritten destination checksum transport (by decide), Fragmented]

/-- A field of the header is found in the header. -/
lemma slice_rewritten {a b : ℕ} (hb : b ≤ 20) :
    Bytes.slice a b (rewritten destination checksum packet transport) =
      Bytes.slice a b (readdressed destination checksum (packet.take (ihl packet))) :=
  slice_append_left (by rw [hw.length_readdressed_header]; exact hb.trans hw.header) _

lemma totalLengthField_rewritten :
    totalLengthField (rewritten destination checksum packet transport) =
      totalLengthField packet := by
  have hheader := hw.header
  rw [totalLengthField, hw.slice_rewritten _ _ _ (by decide),
    slice_readdressed_front _ _ hw.twenty_le_length_header (by decide), slice_take (by omega),
    totalLengthField]

lemma source_rewritten : Bytes.slice 12 16 (rewritten destination checksum packet transport) =
    Bytes.slice 12 16 packet := by
  have hheader := hw.header
  rw [hw.slice_rewritten _ _ _ (by decide),
    slice_readdressed_source _ _ hw.twenty_le_length_header, slice_take (by omega)]

lemma destination_rewritten :
    Bytes.slice 16 20 (rewritten destination checksum packet transport) = destination.toList := by
  rw [hw.slice_rewritten _ _ _ le_rfl,
    slice_readdressed_destination _ _ hw.twenty_le_length_header]

lemma take_rewritten : (rewritten destination checksum packet transport).take (ihl packet) =
    readdressed destination checksum (packet.take (ihl packet)) :=
  List.take_left' (hw.length_readdressed_header destination checksum)

lemma transportPart_rewritten :
    transportPart (rewritten destination checksum packet transport) = transport := by
  rw [transportPart, hw.ihl_rewritten]
  exact List.drop_left' (hw.length_readdressed_header destination checksum)

lemma length_rewritten (hlen : transport.length = (transportPart packet).length) :
    (rewritten destination checksum packet transport).length = packet.length := by
  have hinside := hw.inside
  rw [rewritten, List.length_append, hw.length_readdressed_header, hlen, transportPart,
    List.length_drop]
  omega

/-- **The header verifies unless the reserved flag is set**: the checksum does not count it. -/
lemma verifies_header_iff
    (hsum : 65535 ∣ wordSum (withoutReserved
      (readdressed destination checksum (packet.take (ihl packet))))) :
    Verifies (readdressed destination checksum (packet.take (ihl packet))) ↔
      item packet 6 < 128 := by
  have hheader := hw.header
  have hlen : 20 ≤ (readdressed destination checksum (packet.take (ihl packet))).length := by
    rwa [hw.length_readdressed_header]
  have hitem : ∀ i < 10,
      item (readdressed destination checksum (packet.take (ihl packet))) i = item packet i := by
    intro i hi
    rw [item_readdressed _ _ hw.twenty_le_length_header hi, item_take (by omega)]
  have hpos : 0 < wordSum (readdressed destination checksum (packet.take (ihl packet))) := by
    have hmem : item packet 0 ∈
        readdressed destination checksum (packet.take (ihl packet)) := by
      rw [← hitem 0 (by decide), item, List.getD_eq_getElem?_getD,
        List.getElem?_eq_getElem (by omega), Option.getD_some]
      exact List.getElem_mem _
    refine wordSum_pos hmem fun hzero => ?_
    have hversion := hw.version
    simp [ipVersion, hzero] at hversion
  rw [verifies_iff_dvd hpos, wordSum_withoutReserved hlen, hitem 6 (by decide)]
  split_ifs with hreserved
  · simpa [hreserved] using hsum
  · simp only [hreserved, iff_false]
    omega

end WellFormedIpv4

/-! ## The steps of the source -/

section Steps

variable {E : Etherparse} (hE : E.Correct) {packet : Bytes} (localIpv4 : ByteArr 4)

lemma WellFormedIpv4.destination_eq_iff (hw : WellFormedIpv4 packet) :
    (ipv4Fields packet).destination = localIpv4 ↔
      Bytes.slice 16 20 packet = localIpv4.toList := by
  have hheader := hw.header
  have hinside := hw.inside
  have hlist : (ipv4Fields packet).destination.toList = Bytes.slice 16 20 packet :=
    ByteArr.toList_ofBytes (length_slice (by omega))
  rw [← hlist]
  exact ⟨congrArg _, fun h => List.Vector.eq _ _ h⟩

lemma WellFormedIpv4.toList_source (hw : WellFormedIpv4 packet) :
    (ipv4Fields packet).source.toList = Bytes.slice 12 16 packet := by
  have hheader := hw.header
  have hinside := hw.inside
  exact ByteArr.toList_ofBytes (length_slice (by omega))

lemma WellFormedIpv4.not_length_lt (hw : WellFormedIpv4 packet) :
    ¬packet.length < (ipv4Fields packet).len :=
  Nat.not_lt.mpr hw.inside

/-- The new destination is written within the header. -/
lemma WellFormedIpv4.drop_writeAt_destination (hw : WellFormedIpv4 packet) :
    (writeAt 16 localIpv4.toList packet).drop (ipv4Fields packet).len = transportPart packet := by
  have hheader := hw.header
  have hinside := hw.inside
  exact drop_writeAt (by omega) (by simpa [ipv4Fields] using hheader)

lemma WellFormedIpv4.length_writeAt_destination (hw : WellFormedIpv4 packet) :
    (writeAt 16 localIpv4.toList (packet.take (ihl packet))).length = ihl packet := by
  rw [R2N.length_writeAt_destination _ hw.twenty_le_length_header, hw.length_header]

lemma WellFormedIpv4.take_writeAt_destination (hw : WellFormedIpv4 packet) :
    (writeAt 16 localIpv4.toList packet).take (ipv4Fields packet).len =
      writeAt 16 localIpv4.toList (packet.take (ihl packet)) := by
  have hsplit : writeAt 16 localIpv4.toList packet =
      writeAt 16 localIpv4.toList (packet.take (ihl packet)) ++ transportPart packet := by
    rw [← writeAt_append_left (by simpa using hw.twenty_le_length_header), transportPart,
      List.take_append_drop]
  rw [hsplit]
  exact List.take_left' (hw.length_writeAt_destination localIpv4)

include hE

lemma rewriteIpv4Destination_of_malformed (h : ¬WellFormedIpv4 packet) :
    rewriteIpv4Destination E packet localIpv4 = (none, packet) := by
  rw [rewriteIpv4Destination, hE.ipv4, if_neg h]

variable (hw : WellFormedIpv4 packet)

include hw

lemma rewriteIpv4Destination_of_same (h : Bytes.slice 16 20 packet = localIpv4.toList) :
    rewriteIpv4Destination E packet localIpv4 = (some (), packet) := by
  rw [rewriteIpv4Destination, hE.ipv4, if_pos hw]
  simp only
  rw [if_neg hw.not_length_lt, if_pos ((hw.destination_eq_iff localIpv4).mpr h)]

variable (hne : Bytes.slice 16 20 packet ≠ localIpv4.toList)

include hne

/-- Where the transport part cannot be corrected, the destination is already written. -/
lemma rewriteIpv4Destination_of_none
    (h : rewriteTransport E (ipv4Fields packet) localIpv4 (transportPart packet) = none) :
    rewriteIpv4Destination E packet localIpv4 = (none, writeAt 16 localIpv4.toList packet) := by
  rw [rewriteIpv4Destination, hE.ipv4, if_pos hw]
  simp only
  rw [if_neg hw.not_length_lt, if_neg ((hw.destination_eq_iff localIpv4).not.mpr hne),
    hw.drop_writeAt_destination, h]

/-- Otherwise the whole packet is rewritten. -/
lemma rewriteIpv4Destination_of_some {transport : Bytes}
    (h : rewriteTransport E (ipv4Fields packet) localIpv4 (transportPart packet) =
      some transport) :
    ∃ checksum, rewriteIpv4Destination E packet localIpv4 =
        (some (), rewritten localIpv4 checksum packet transport) ∧
      65535 ∣ wordSum (withoutReserved
        (readdressed localIpv4 checksum (packet.take (ihl packet)))) := by
  obtain ⟨checksum, hchecksum, hsum⟩ := hE.header packet localIpv4 hw
  have hheader := hw.header
  refine ⟨checksum, ?_, hsum⟩
  rw [rewriteIpv4Destination, hE.ipv4, if_pos hw]
  simp only
  rw [if_neg hw.not_length_lt, if_neg ((hw.destination_eq_iff localIpv4).not.mpr hne),
    hw.drop_writeAt_destination, h, hw.take_writeAt_destination]
  simp only [ipv4Fields, hchecksum]
  rw [writeAt_append_left (by rw [hw.length_writeAt_destination, length_beBytes]; omega)]
  rfl

end Steps

/-! ## Transport checksums -/

section Sums

variable {protocol : UInt8} {source destination : ByteArr 4}

lemma length_addressedHeader (protocol : UInt8) (len : ℕ) (source destination : ByteArr 4) :
    (addressedHeader protocol len source.toList destination.toList).length = 12 := by
  simp [addressedHeader]

lemma wordSum_addressedHeader {len : ℕ} (hlen : len < 2 ^ 16) :
    wordSum (addressedHeader protocol len source.toList destination.toList) =
      wordSum source.toList + wordSum destination.toList + protocol.toNat + len := by
  have hsource : Even source.toList.length := by
    rw [List.Vector.toList_length]
    decide
  have haddresses : Even (source.toList ++ destination.toList).length := by
    rw [List.length_append, List.Vector.toList_length, List.Vector.toList_length]
    decide
  have hprotocol : Even (source.toList ++ destination.toList ++ [0, protocol]).length := by
    rw [List.length_append, List.length_append, List.Vector.toList_length,
      List.Vector.toList_length]
    change Even 10
    decide
  rw [addressedHeader, wordSum_append hprotocol, wordSum_append haddresses,
    wordSum_append hsource, wordSum_beBytes hlen]
  simp [word]

/-- **A checksum over more than the datagram.**  Where the sum was made right for all the data and
a length `len`, a receiver that sums the first `n` bytes and the length `len'` misses the rest. -/
lemma verifies_take_iff {len len' n : ℕ} {data : Bytes} (hprotocol : protocol ≠ 0)
    (hlen : len < 2 ^ 16) (hle : len' ≤ len)
    (hsum : 65535 ∣
      wordSum (addressedHeader protocol len source.toList destination.toList ++ data)) :
    Verifies (addressedHeader protocol len' source.toList destination.toList ++ data.take n) ↔
      65535 ∣ len - len' + behind n data := by
  have heven : ∀ len : ℕ,
      Even (addressedHeader protocol len source.toList destination.toList).length := by
    intro len
    rw [length_addressedHeader]
    decide
  have hmem : protocol ∈
      addressedHeader protocol len' source.toList destination.toList ++ data.take n := by
    simp [addressedHeader]
  rw [wordSum_append (heven len), wordSum_addressedHeader hlen,
    ← wordSum_take_add_behind n data] at hsum
  rw [verifies_iff_dvd (wordSum_pos hmem hprotocol), wordSum_append (heven len'),
    wordSum_addressedHeader (by omega)]
  omega

end Sums

section Transport

variable {E : Etherparse} (hE : E.Correct)

include hE

/-- The checksum written to a UDP header is right for the datagram if the words behind it cancel
out. -/
lemma Etherparse.Correct.udp_verifies_iff {datagram : Bytes} {source destination : ByteArr 4}
    {checksum : UInt16} (hlong : 8 ≤ datagram.length) (hlength : 8 ≤ udpLength datagram)
    (h : E.udpChecksum datagram source destination (datagram.drop 8) = some checksum) :
    Bytes.slice 6 8 (writeAt 6 (beBytes 2 checksum.toNat) datagram) = [0, 0] ∨
        Verifies (addressedHeader 17 (udpLength datagram) source.toList destination.toList ++
          (writeAt 6 (beBytes 2 checksum.toNat) datagram).take (udpLength datagram)) ↔
      65535 ∣ behind (udpLength datagram) datagram := by
  obtain ⟨hnonzero, hsum⟩ := hE.udp _ _ _ _ h
  have hchecked : Bytes.slice 6 8 (writeAt 6 (beBytes 2 checksum.toNat) datagram) ≠ [0, 0] := by
    have hread : Bytes.slice 6 (6 + (beBytes 2 checksum.toNat).length)
        (writeAt 6 (beBytes 2 checksum.toNat) datagram) = beBytes 2 checksum.toNat :=
      slice_writeAt (by omega)
    rw [length_beBytes] at hread
    rw [hread]
    intro hzero
    have hvalue := congrArg ofBe hzero
    rw [Bytes.ofBe_beBytes, Nat.mod_eq_of_lt (by simpa using checksum.toNat_lt)] at hvalue
    exact hnonzero (UInt16.toNat_inj.mp hvalue)
  have hlt : udpLength datagram < 2 ^ 16 := by
    have hlt := Bytes.ofBe_lt (Bytes.slice 4 6 datagram)
    rwa [length_slice (by omega)] at hlt
  have hbehind : behind (udpLength datagram) (writeAt 6 (beBytes 2 checksum.toNat) datagram) =
      behind (udpLength datagram) datagram :=
    behind_congr (drop_writeAt (by omega) (by simpa using hlength))
  rw [or_iff_right hchecked, verifies_take_iff (by decide) hlt le_rfl hsum, hbehind,
    Nat.sub_self, Nat.zero_add]

/-- The checksum written to a TCP header is right for the first `n` bytes if the words behind them
cancel out with the surplus of the length. -/
lemma Etherparse.Correct.tcp_verifies_iff {segment : Bytes} {source destination : ByteArr 4}
    {checksum : UInt16} {n : ℕ} (hreadable : ReadableTcp segment)
    (hshort : segment.length ≤ 65535) (hn : 20 ≤ n) (hinside : n ≤ segment.length)
    (h : E.tcpChecksum segment source destination (segment.drop (dataOffset segment)) =
      some checksum) :
    Verifies (addressedHeader 6 n source.toList destination.toList ++
        (writeAt 16 (beBytes 2 checksum.toNat) segment).take n) ↔
      65535 ∣ segment.length - n + behind n segment := by
  have hsum := hE.tcp _ _ _ _ hreadable h
  have hbehind : behind n (writeAt 16 (beBytes 2 checksum.toNat) segment) = behind n segment :=
    behind_congr (drop_writeAt (by omega) (by rw [length_beBytes]; omega))
  rw [verifies_take_iff (by decide) (by omega) hinside hsum, hbehind]

variable {packet : Bytes} {localIpv4 : ByteArr 4}

lemma rewriteTransport_udp_eq_none_iff (hudp : protocolByte packet = 17) :
    rewriteTransport E (ipv4Fields packet) localIpv4 (transportPart packet) = none ↔
      ¬(8 ≤ (transportPart packet).length ∧ (transportPart packet).length ≤ 65535) := by
  have hprotocol : (ipv4Fields packet).protocol = 17 := hudp
  rw [← hE.udp_isSome _ (ipv4Fields packet).source localIpv4, rewriteTransport, if_pos hprotocol]
  simp

lemma rewriteTransport_tcp_eq_none_iff (htcp : protocolByte packet = 6) :
    rewriteTransport E (ipv4Fields packet) localIpv4 (transportPart packet) = none ↔
      ¬(ReadableTcp (transportPart packet) ∧ (transportPart packet).length ≤ 65535) := by
  have hprotocol : (ipv4Fields packet).protocol = 6 := htcp
  rw [rewriteTransport, if_neg (by rw [hprotocol]; decide), if_pos hprotocol, hE.tcpHeaderLen]
  by_cases hreadable : ReadableTcp (transportPart packet)
  · rw [if_pos hreadable, ← hE.tcp_isSome _ (ipv4Fields packet).source localIpv4 hreadable]
    simp [hreadable]
  · simp [hreadable]

variable (hw : WellFormedIpv4 packet) {transport : Bytes}
  (h : rewriteTransport E (ipv4Fields packet) localIpv4 (transportPart packet) = some transport)

include h

lemma readable_of_rewriteTransport_udp (hudp : protocolByte packet = 17) :
    8 ≤ (transportPart packet).length ∧ (transportPart packet).length ≤ 65535 := by
  by_contra hnot
  rw [(rewriteTransport_udp_eq_none_iff hE hudp).mpr hnot] at h
  simp at h

lemma readable_of_rewriteTransport_tcp (htcp : protocolByte packet = 6) :
    ReadableTcp (transportPart packet) ∧ (transportPart packet).length ≤ 65535 := by
  by_contra hnot
  rw [(rewriteTransport_tcp_eq_none_iff hE htcp).mpr hnot] at h
  simp at h

include hw

/-- The rewritten UDP packet, in the words of the packet that came. -/
lemma udpVerifies_rewritten_iff (hudp : protocolByte packet = 17) (checksum : UInt16) :
    UdpVerifies (rewritten localIpv4 checksum packet transport) ↔
      totalLengthField packet ≤ packet.length ∧
      ihl packet + udpLength (transportPart packet) ≤ totalLengthField packet ∧
      8 ≤ udpLength (transportPart packet) ∧
      65535 ∣ behind (udpLength (transportPart packet)) (transportPart packet) := by
  have hprotocol : (ipv4Fields packet).protocol = 17 := hudp
  have hlong := (readable_of_rewriteTransport_udp hE h hudp).1
  rw [rewriteTransport, if_pos hprotocol, Option.map_eq_some_iff] at h
  obtain ⟨field, hfield, rfl⟩ := h
  have hlen : (writeAt 6 (beBytes 2 field.toNat) (transportPart packet)).length =
      (transportPart packet).length := length_writeAt (by simpa using hlong)
  have hudpLength : udpLength (writeAt 6 (beBytes 2 field.toNat) (transportPart packet)) =
      udpLength (transportPart packet) := by
    rw [udpLength, slice_writeAt_of_disjoint (by omega) (.inl le_rfl), udpLength]
  rw [udpVerifies_iff, hw.totalLengthField_rewritten, hw.length_rewritten _ _ _ hlen,
    hw.ihl_rewritten, hw.transportPart_rewritten, hudpLength, hw.source_rewritten,
    hw.destination_rewritten, ← hw.toList_source]
  refine and_congr_right fun _ => and_congr_right fun _ => and_congr_right fun h8 => ?_
  exact hE.udp_verifies_iff hlong h8 hfield

/-- The rewritten TCP packet, in the words of the packet that came. -/
lemma tcpVerifies_rewritten_iff (htcp : protocolByte packet = 6) (checksum : UInt16) :
    TcpVerifies (rewritten localIpv4 checksum packet transport) ↔
      totalLengthField packet ≤ packet.length ∧ ihl packet + 20 ≤ totalLengthField packet ∧
      65535 ∣ packet.length - totalLengthField packet +
        behind (totalLengthField packet - ihl packet) (transportPart packet) := by
  have hprotocol : (ipv4Fields packet).protocol = 6 := htcp
  have hreadable := readable_of_rewriteTransport_tcp hE h htcp
  have hlong := hreadable.1.1
  have hsize : (transportPart packet).length = packet.length - ihl packet := List.length_drop
  rw [rewriteTransport, if_neg (by rw [hprotocol]; decide), if_pos hprotocol, hE.tcpHeaderLen,
    if_pos hreadable.1, Option.bind_some, Option.map_eq_some_iff] at h
  obtain ⟨field, hfield, rfl⟩ := h
  have hlen : (writeAt 16 (beBytes 2 field.toNat) (transportPart packet)).length =
      (transportPart packet).length := length_writeAt (by rw [length_beBytes]; omega)
  rw [tcpVerifies_iff, hw.totalLengthField_rewritten, hw.length_rewritten _ _ _ hlen,
    hw.ihl_rewritten, hw.transportPart_rewritten, hw.source_rewritten, hw.destination_rewritten,
    ← hw.toList_source]
  refine and_congr_right fun hwhole => and_congr_right fun h20 => ?_
  have hsurplus : (transportPart packet).length - (totalLengthField packet - ihl packet) =
      packet.length - totalLengthField packet := by omega
  rw [hE.tcp_verifies_iff hreadable.1 hreadable.2 (by omega) (by omega) hfield, hsurplus]

end Transport

/-! ## All or nothing -/

section AllOrNothing

variable {E : Etherparse} (hE : E.Correct) {packet : Bytes} {localIpv4 : ByteArr 4}

include hE

/-- A packet that can be rewritten has a transport part that can be corrected. -/
lemma Rewritable.rewriteTransport_ne_none (h : Rewritable packet) :
    rewriteTransport E (ipv4Fields packet) localIpv4 (transportPart packet) ≠ none := by
  by_cases hudp : protocolByte packet = 17
  · rw [Ne, rewriteTransport_udp_eq_none_iff hE hudp, not_not]
    exact ⟨(h.udp hudp).readable, (h.udp hudp).short⟩
  by_cases htcp : protocolByte packet = 6
  · rw [Ne, rewriteTransport_tcp_eq_none_iff hE htcp, not_not]
    exact ⟨(h.tcp htcp).readable, (h.tcp htcp).short⟩
  · have hudp' : (ipv4Fields packet).protocol ≠ 17 := hudp
    have htcp' : (ipv4Fields packet).protocol ≠ 6 := htcp
    simp [rewriteTransport, hudp', htcp']

variable (hw : WellFormedIpv4 packet)

include hw

/-- What leaves with a corrected transport part verifies just for the packets that can be
rewritten. -/
lemma delivered_rewritten_iff {transport : Bytes} {checksum : UInt16}
    (h : rewriteTransport E (ipv4Fields packet) localIpv4 (transportPart packet) = some transport)
    (hsum : 65535 ∣ wordSum (withoutReserved
      (readdressed localIpv4 checksum (packet.take (ihl packet))))) :
    Delivered localIpv4 (rewritten localIpv4 checksum packet transport) ↔ Rewritable packet := by
  rw [Delivered, hw.ihl_rewritten, hw.take_rewritten, hw.verifies_header_iff _ _ hsum,
    hw.fragmented_rewritten_iff, hw.protocolByte_rewritten]
  constructor
  · rintro ⟨-, hreserved, htransport⟩
    refine ⟨hreserved, fun hudp => ?_, fun htcp => ?_⟩
    · have hreadable := readable_of_rewriteTransport_udp hE h hudp
      exact ⟨hreadable.1, hreadable.2, fun hwhole =>
        (udpVerifies_rewritten_iff hE hw h hudp checksum).mp ((htransport hwhole).1 hudp)⟩
    · have hreadable := readable_of_rewriteTransport_tcp hE h htcp
      exact ⟨hreadable.1, hreadable.2, fun hwhole =>
        (tcpVerifies_rewritten_iff hE hw h htcp checksum).mp ((htransport hwhole).2 htcp)⟩
  · intro hrewritable
    refine ⟨hw.destination_rewritten _ _ _, hrewritable.reserved, fun hwhole =>
      ⟨fun hudp => ?_, fun htcp => ?_⟩⟩
    · exact (udpVerifies_rewritten_iff hE hw h hudp checksum).mpr
        ((hrewritable.udp hudp).delimited hwhole)
    · exact (tcpVerifies_rewritten_iff hE hw h htcp checksum).mpr
        ((hrewritable.tcp htcp).delimited hwhole)

/-- A packet for another destination. -/
lemma allOrNothing_iff_of_ne (hne : Bytes.slice 16 20 packet ≠ localIpv4.toList) :
    AllOrNothing E packet localIpv4 ↔ Rewritable packet := by
  rcases h : rewriteTransport E (ipv4Fields packet) localIpv4 (transportPart packet) with
    _ | transport
  · -- the destination is written and the function gives up
    rw [AllOrNothing, rewriteIpv4Destination_of_none hE localIpv4 hw hne h]
    have hchanged : writeAt 16 localIpv4.toList packet ≠ packet := by
      have hheader := hw.header
      have hinside := hw.inside
      have hread : Bytes.slice 16 (16 + localIpv4.toList.length)
          (writeAt 16 localIpv4.toList packet) = localIpv4.toList := slice_writeAt (by omega)
      rw [List.Vector.toList_length] at hread
      intro hsame
      rw [hsame] at hread
      exact hne hread
    simp only [reduceCtorEq, false_and, hchanged, and_false, or_self, false_iff]
    exact fun hrewritable => hrewritable.rewriteTransport_ne_none hE h
  · obtain ⟨checksum, hresult, hsum⟩ := rewriteIpv4Destination_of_some hE localIpv4 hw hne h
    rw [AllOrNothing, hresult]
    simp only [true_and, reduceCtorEq, false_and, or_false]
    exact delivered_rewritten_iff hE hw h hsum

end AllOrNothing

/-- **All or nothing.**  The packets that leave `rewrite_ipv4_destination` either rewritten and
verifying or as they came: those that are not IPv4; those that carry the destination already and
verify as they are, since they are not looked into; and those for another destination whose reserved
flag is clear, whose UDP or TCP header can be read and whose datagram ends where the buffer ends, or
is followed by bytes that do not count. -/
theorem rewriteIpv4Destination_allOrNothing_iff (E : Etherparse) (hE : E.Correct) (packet : Bytes)
    (localIpv4 : ByteArr 4) :
    AllOrNothing E packet localIpv4 ↔
      ¬WellFormedIpv4 packet ∨ Delivered localIpv4 packet ∨
        (Bytes.slice 16 20 packet ≠ localIpv4.toList ∧ Rewritable packet) := by
  by_cases hw : WellFormedIpv4 packet
  · by_cases hsame : Bytes.slice 16 20 packet = localIpv4.toList
    · rw [AllOrNothing, rewriteIpv4Destination_of_same hE localIpv4 hw hsame]
      simp [hw, hsame]
    · have hnot : ¬Delivered localIpv4 packet := fun h => hsame h.1
      rw [allOrNothing_iff_of_ne hE hw hsame]
      simp [hw, hsame, hnot]
  · rw [AllOrNothing, rewriteIpv4Destination_of_malformed hE localIpv4 hw]
    simp [hw]

/-! ## A parser that does as documented -/

/-- The checksum for a sum of words. -/
def complementOf (sum : ℕ) : UInt16 := UInt16.ofNat (65535 - fold sum)

lemma toNat_complementOf (sum : ℕ) : (complementOf sum).toNat = 65535 - fold sum :=
  UInt16.toNat_ofNat_of_lt' (by simp only [UInt16.size]; omega)

lemma dvd_add_complementOf (sum : ℕ) : 65535 ∣ sum + (complementOf sum).toNat := by
  have hlt := OnesComplement.fold_lt sum
  have hmod := OnesComplement.fold_modEq sum
  rw [toNat_complementOf]
  simp only [Nat.ModEq] at hmod
  omega

/-- The sum of a UDP datagram that was parsed into its header and its payload. -/
def udpSum (datagram : Bytes) (source destination : ByteArr 4) (payload : Bytes) : ℕ :=
  wordSum (addressedHeader 17 (udpLength datagram) source.toList destination.toList ++
    (writeAt 6 [0, 0] (datagram.take 8) ++ payload))

/-- The sum of a TCP segment that was parsed into its header and its payload. -/
def tcpSum (segment : Bytes) (source destination : ByteArr 4) (payload : Bytes) : ℕ :=
  wordSum (addressedHeader 6 (dataOffset segment + payload.length) source.toList
    destination.toList ++ (writeAt 16 [0, 0] (segment.take (dataOffset segment)) ++ payload))

def Etherparse.reference : Etherparse :=
  { Etherparse.ipv4 with
    ipv4HeaderSlice := fun packet =>
      if WellFormedIpv4 packet then some (ipv4Fields packet) else none
    udpChecksum := fun datagram source destination payload =>
      if 8 ≤ datagram.length ∧ payload.length ≤ 65527 then
        let checksum := complementOf (udpSum datagram source destination payload)
        some (if checksum = 0 then 0xFFFF else checksum)
      else none
    tcpHeaderLen := fun segment =>
      if ReadableTcp segment then some (dataOffset segment) else none
    tcpChecksum := fun segment source destination payload =>
      if dataOffset segment + payload.length ≤ 65535 then
        some (complementOf (tcpSum segment source destination payload))
      else none
    headerChecksum := fun header destination =>
      some (complementOf (wordSum (withoutReserved (readdressed destination 0 header)))) }

/-- A field of the parsed header is a field of the data. -/
lemma writeAt_take_append_drop {off n : ℕ} {field data : Bytes} (hfield : off + field.length ≤ n)
    (hn : n ≤ data.length) :
    writeAt off field (data.take n) ++ data.drop n = writeAt off field data := by
  rw [← writeAt_append_left (by rwa [List.length_take_of_le hn]), List.take_append_drop]

/-- Filling the checksum field of data behind a pseudo-header. -/
lemma wordSum_addressedHeader_writeAt {protocol : UInt8} {len off : ℕ}
    {source destination : ByteArr 4} {data : Bytes} (heven : Even off)
    (hoff : off + 2 ≤ data.length) (checksum : UInt16) :
    wordSum (addressedHeader protocol len source.toList destination.toList ++
        writeAt off (beBytes 2 checksum.toNat) data) =
      wordSum (addressedHeader protocol len source.toList destination.toList ++
        writeAt off [0, 0] data) + checksum.toNat := by
  have hheader :
      Even (addressedHeader protocol len source.toList destination.toList).length := by
    rw [length_addressedHeader]
    decide
  rw [wordSum_append hheader, wordSum_append hheader,
    OnesComplement.wordSum_writeAt_eq heven hoff checksum.toNat_lt, Nat.add_assoc]

lemma udpSum_eq {datagram : Bytes} (h : 8 ≤ datagram.length) (source destination : ByteArr 4) :
    udpSum datagram source destination (datagram.drop 8) =
      wordSum (addressedHeader 17 (udpLength datagram) source.toList destination.toList ++
        writeAt 6 [0, 0] datagram) := by
  rw [udpSum, writeAt_take_append_drop (by simp) h]

lemma tcpSum_eq {segment : Bytes} (h : ReadableTcp segment) (source destination : ByteArr 4) :
    tcpSum segment source destination (segment.drop (dataOffset segment)) =
      wordSum (addressedHeader 6 segment.length source.toList destination.toList ++
        writeAt 16 [0, 0] segment) := by
  obtain ⟨hlong, hoffset, hinside⟩ := h
  have hlen : dataOffset segment + (segment.drop (dataOffset segment)).length =
      segment.length := by
    rw [List.length_drop]
    omega
  have hfield : 16 + ([0, 0] : Bytes).length ≤ dataOffset segment := by
    simp only [List.length_cons, List.length_nil]
    omega
  rw [tcpSum, hlen, writeAt_take_append_drop hfield hinside]

/-- The reserved flag is the same before and after the checksum is filled in. -/
lemma wordSum_withoutReserved_readdressed {header : Bytes} (h : 20 ≤ header.length)
    (destination : ByteArr 4) (checksum : UInt16) :
    wordSum (withoutReserved (readdressed destination checksum header)) =
      wordSum (withoutReserved (readdressed destination 0 header)) + checksum.toNat := by
  have hlen : ∀ checksum, 20 ≤ (readdressed destination checksum header).length := by
    intro checksum
    rwa [length_readdressed _ _ h]
  have hfilled := wordSum_withoutReserved (hlen checksum)
  have hcleared := wordSum_withoutReserved (hlen 0)
  rw [item_readdressed _ _ h (by decide)] at hfilled hcleared
  have hdestination := length_writeAt_destination destination h
  have hwrite : wordSum (readdressed destination checksum header) =
      wordSum (readdressed destination 0 header) + checksum.toNat :=
    OnesComplement.wordSum_writeAt_eq (by decide) (by omega) checksum.toNat_lt
  omega

lemma Etherparse.reference_correct : Etherparse.reference.Correct where
  ipv4 := fun _ => rfl
  udp_isSome := by
    intro datagram source destination
    simp only [reference, List.length_drop, Option.isSome_ite]
    omega
  udp := by
    intro datagram source destination checksum h
    simp only [reference, Option.ite_none_right_eq_some, Option.some.injEq] at h
    obtain ⟨⟨hlong, -⟩, rfl⟩ := h
    have hsum := dvd_add_complementOf (udpSum datagram source destination (datagram.drop 8))
    rw [wordSum_addressedHeader_writeAt (by decide) (by omega), ← udpSum_eq hlong]
    split_ifs with hzero
    · -- a sum that needs no checksum is not spoilt by all ones
      rw [hzero] at hsum
      refine ⟨by decide, ?_⟩
      simp only [UInt16.reduceToNat] at hsum ⊢
      omega
    · exact ⟨hzero, hsum⟩
  tcpHeaderLen := fun _ => rfl
  tcp_isSome := by
    rintro segment source destination ⟨-, -, hinside⟩
    simp only [reference, List.length_drop, Option.isSome_ite]
    omega
  tcp := by
    intro segment source destination checksum hreadable h
    simp only [reference, Option.ite_none_right_eq_some, Option.some.injEq] at h
    obtain ⟨-, rfl⟩ := h
    have hlong := hreadable.1
    rw [wordSum_addressedHeader_writeAt (by decide) (by omega), ← tcpSum_eq hreadable]
    exact dvd_add_complementOf _
  header := by
    intro packet destination hw
    refine ⟨_, rfl, ?_⟩
    rw [wordSum_withoutReserved_readdressed hw.twenty_le_length_header]
    exact dvd_add_complementOf _

/-! ## Packets -/

/-- A UDP packet from `10.0.0.1` to the broadcast address `10.0.0.255`. -/
def broadcastPacket (total flags : UInt8) (datagram : Bytes) : Bytes :=
  [0x45, 0, 0, total, 0, 0, flags, 0, 64, 17, 0, 0, 10, 0, 0, 1, 10, 0, 0, 255] ++ datagram

/-- A datagram of ten bytes from port 53 to port 53. -/
def tenByteDatagram : Bytes := [0, 53, 0, 53, 0, 10, 0, 0, 1, 2]

def deviceAddr : ByteArr 4 := ByteArr.ofBytes 4 [10, 0, 0, 7]

/-- A whole datagram is rewritten and verifies. -/
theorem rewriteIpv4Destination_allOrNothing_iff_whole :
    (rewriteIpv4Destination .reference (broadcastPacket 30 0 tenByteDatagram) deviceAddr).1 =
        some () ∧
      AllOrNothing .reference (broadcastPacket 30 0 tenByteDatagram) deviceAddr :=
  ⟨by decide +kernel, (rewriteIpv4Destination_allOrNothing_iff .reference
    Etherparse.reference_correct _ _).mpr (by decide +kernel)⟩

/-- **Half done.**  A datagram cut off within its header: the function returns `None` and the
destination has changed.  Then three packets for which it returns `Some` and a checksum is wrong:
one that had the destination already, one with two bytes behind the datagram, and one with the
reserved flag. -/
theorem rewriteIpv4Destination_halfDone :
    Etherparse.reference.Correct ∧
      rewriteIpv4Destination .reference (broadcastPacket 24 0 [0, 53, 0, 53]) deviceAddr =
        (none, [0x45, 0, 0, 24, 0, 0, 0, 0, 64, 17, 0, 0, 10, 0, 0, 1, 10, 0, 0, 7, 0, 53, 0,
          53]) ∧
      ¬AllOrNothing .reference (broadcastPacket 24 0 [0, 53, 0, 53]) deviceAddr ∧
      ¬AllOrNothing .reference (broadcastPacket 30 0 tenByteDatagram)
        (ByteArr.ofBytes 4 [10, 0, 0, 255]) ∧
      ¬AllOrNothing .reference (broadcastPacket 30 0 (tenByteDatagram ++ [1, 0])) deviceAddr ∧
      ¬AllOrNothing .reference (broadcastPacket 30 0x80 tenByteDatagram) deviceAddr :=
  ⟨Etherparse.reference_correct, by decide +kernel⟩

end R2N
