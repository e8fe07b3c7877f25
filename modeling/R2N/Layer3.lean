import Mathlib.Data.List.Find
import R2N.Dataplane.Clamp
import R2N.Policy

/-!
# Rules without ports

A traffic rule without ports asks for nothing but direction, addresses and protocol, all of which
stand in the IPv4 header.  The policy reads the protocol off the transport header all the same:
where that header cannot be read the default action decides, and in a fragment, which has none, no
rule that names a protocol matches.

* `sliceIpv4` — what `SlicedPacket::from_ip` is documented to do with an IPv4 packet.
* `firstMatch` — the decision from the header alone.
* **`decision_eq_firstMatch_iff`** — when the policy decides so.
* `HeaderReaders.reference`, `Etherparse.ipv4` — readers of the headers as they are laid out, for
  packets that are given as bytes.
* `udpPacket` — a whole packet between two addresses, with its lengths and its header checksum.
-/

namespace R2N

open Bytes (beBytes ofBe writeAt)
open Checked (item)
open OnesComplement (word)

/-! ## IPv4 packets -/

structure WellFormedIpv4 (packet : Bytes) : Prop where
  version : ipVersion packet = 4
  header : 20 ≤ ihl packet
  inside : ihl packet ≤ packet.length
  totalLength : ihl packet ≤ ofBe (Bytes.slice 2 4 packet)

instance (packet : Bytes) : Decidable (WellFormedIpv4 packet) :=
  decidable_of_iff (ipVersion packet = 4 ∧ 20 ≤ ihl packet ∧ ihl packet ≤ packet.length ∧
      ihl packet ≤ ofBe (Bytes.slice 2 4 packet))
    ⟨fun h => ⟨h.1, h.2.1, h.2.2.1, h.2.2.2⟩, fun h => ⟨h.1, h.2, h.3, h.4⟩⟩

def sourceAddr (packet : Bytes) : IpAddr := .v4 (ByteArr.ofBytes 4 (Bytes.slice 12 16 packet))

def destinationAddr (packet : Bytes) : IpAddr := .v4 (ByteArr.ofBytes 4 (Bytes.slice 16 20 packet))

/-- The more-fragments flag or the fragment offset is set. -/
def Fragmented (packet : Bytes) : Prop := word (item packet 6) (item packet 7) % 2 ^ 14 ≠ 0

instance (packet : Bytes) : Decidable (Fragmented packet) :=
  inferInstanceAs (Decidable (_ ≠ _))

/-- What `etherparse` reads behind an IPv4 header; `none` where it reports an error. -/
structure HeaderReaders where
  /-- The authentication header: the protocol it names and what follows it. -/
  authentication : Bytes → Option (UInt8 × Bytes)
  tcp : Bytes → Option (UInt16 × UInt16)
  udp : Bytes → Option (UInt16 × UInt16)
  icmp : Bytes → Option Unit

namespace HeaderReaders

variable (R : HeaderReaders)

/-- The protocol of the payload and the payload itself, behind the authentication header if there
is one. -/
def payload (packet : Bytes) : Option (UInt8 × Bytes) :=
  if protocolByte packet = 51 then R.authentication (packet.drop (ihl packet))
  else some (protocolByte packet, packet.drop (ihl packet))

/-- The transport header of a payload. -/
def transport (protocol : UInt8) (rest : Bytes) : Option TransportSlice :=
  if protocol = 6 then (R.tcp rest).map fun ports => .tcp ports.1 ports.2
  else if protocol = 17 then (R.udp rest).map fun ports => .udp ports.1 ports.2
  else if protocol = 1 then (R.icmp rest).map fun _ => .icmpv4
  else some .unknown

/-- `SlicedPacket::from_ip` on an IPv4 packet: a fragment has no transport header, and one that
cannot be read is an error. -/
def sliceIpv4 (packet : Bytes) : Option SlicedPacket :=
  (R.payload packet).bind fun payload =>
    if Fragmented packet then
      some { ip := some (sourceAddr packet, destinationAddr packet), transport := none }
    else
      (R.transport payload.1 payload.2).map fun transport =>
        { ip := some (sourceAddr packet, destinationAddr packet), transport := some transport }

end HeaderReaders

/-- `etherparse` does as it is documented to. -/
def Etherparse.SlicesIpv4 (E : Etherparse) (R : HeaderReaders) : Prop :=
  ∀ packet, WellFormedIpv4 packet → E.fromIp packet = R.sliceIpv4 packet

/-! ## The decision from the header -/

/-- The protocol a number in the header stands for. -/
def headerProtocol (number : UInt8) : TrafficProtocol :=
  if number = 6 then .tcp else if number = 17 then .udp else if number = 1 then .icmp else .any

/-- The conditions of a rule but the ports. -/
def TrafficRule.matchesHeader (rule : TrafficRule) (direction : TrafficDirection)
    (src dst : IpAddr) (protocol : TrafficProtocol) : Bool :=
  rule.enabled && rule.direction.matches direction &&
    (decide (rule.protocol = .any) || decide (rule.protocol = protocol)) &&
    cidrMatches rule.srcCidr src && cidrMatches rule.dstCidr dst

namespace TrafficPolicy

/-- The action of the first rule that matches, or the default action. -/
def firstMatch (policy : TrafficPolicy) (direction : TrafficDirection) (packet : Bytes)
    (protocol : TrafficProtocol) : TrafficAction :=
  match policy.rules.find? fun rule =>
      rule.matchesHeader direction (sourceAddr packet) (destinationAddr packet) protocol with
  | some rule => rule.action
  | none => policy.defaultAction

/-- No rule has a list of ports. -/
def NoPorts (policy : TrafficPolicy) : Prop :=
  ∀ rule ∈ policy.rules, rule.srcPorts = [] ∧ rule.dstPorts = []

end TrafficPolicy

lemma TrafficRule.matches_eq_matchesHeader {rule : TrafficRule}
    (hports : rule.srcPorts = [] ∧ rule.dstPorts = []) (direction : TrafficDirection)
    (m : PacketMeta) :
    rule.matches direction m = rule.matchesHeader direction m.src m.dst m.protocol := by
  simp only [TrafficRule.matches, matchesHeader, portsMatch, hports.1, hports.2, List.isEmpty_nil,
    if_true, Bool.and_true]
  cases rule.enabled with
  | false => rfl
  | true =>
      cases rule.direction.matches direction with
      | false => rfl
      | true =>
          by_cases hany : rule.protocol = .any
          · simp [hany]
          · by_cases hsame : rule.protocol = m.protocol
            · simp [hsame]
            · simp [hany, hsame]

/-- Without ports the ports of a packet do not matter. -/
lemma TrafficPolicy.decisionForMeta_eq {policy : TrafficPolicy} (henabled : policy.enabled = true)
    (hports : policy.NoPorts) (direction : TrafficDirection) {packet : Bytes} {m : PacketMeta}
    (hsrc : m.src = sourceAddr packet) (hdst : m.dst = destinationAddr packet) :
    policy.decisionForMeta direction m = policy.firstMatch direction packet m.protocol := by
  have hfind : policy.rules.find? (fun rule => rule.matches direction m) =
      policy.rules.find? (fun rule => rule.matchesHeader direction (sourceAddr packet)
        (destinationAddr packet) m.protocol) := by
    refine List.find?_congr fun rule hrule => ?_
    rw [TrafficRule.matches_eq_matchesHeader (hports rule hrule), hsrc, hdst]
  simp only [decisionForMeta, henabled, hfind, firstMatch]
  rfl

/-! ## What the policy sees -/

namespace HeaderReaders

variable {R : HeaderReaders}

/-- The transport header that was read is one of the protocol in front of it. -/
lemma transportMeta_transport {protocol : UInt8} {rest : Bytes} {t : TransportSlice}
    (h : R.transport protocol rest = some t) :
    (transportMeta (some t)).1 = headerProtocol protocol := by
  simp only [transport] at h
  simp only [headerProtocol]
  split_ifs at h ⊢ with htcp hudp hicmp
  · obtain ⟨ports, -, rfl⟩ := Option.map_eq_some_iff.mp h
    rfl
  · obtain ⟨ports, -, rfl⟩ := Option.map_eq_some_iff.mp h
    rfl
  · obtain ⟨-, -, rfl⟩ := Option.map_eq_some_iff.mp h
    rfl
  · obtain rfl := Option.some.inj h
    rfl

/-- A header behind the IPv4 header cannot be read. -/
def Unreadable (R : HeaderReaders) (packet : Bytes) : Prop :=
  R.payload packet = none ∨ ¬Fragmented packet ∧
    ∃ payload, R.payload packet = some payload ∧ R.transport payload.1 payload.2 = none

end HeaderReaders

section Decision

variable {E : Etherparse} {R : HeaderReaders} {policy : TrafficPolicy} {packet : Bytes}
variable (hE : E.SlicesIpv4 R) (henabled : policy.enabled = true) (hports : policy.NoPorts)
variable (hpacket : WellFormedIpv4 packet) (direction : TrafficDirection)

include hE henabled hpacket

lemma decision_of_unreadable (h : R.Unreadable packet) :
    policy.decision E direction packet = policy.defaultAction := by
  have hslice : E.fromIp packet = none := by
    rw [hE packet hpacket, HeaderReaders.sliceIpv4]
    rcases h with hnone | ⟨hwhole, payload, hpayload, htransport⟩
    · rw [hnone, Option.bind_none]
    · rw [hpayload, Option.bind_some, if_neg hwhole, htransport, Option.map_none]
  simp [TrafficPolicy.decision, henabled, packetMeta, hslice]

include hports

lemma decision_of_fragmented {payload : UInt8 × Bytes} (hpayload : R.payload packet = some payload)
    (h : Fragmented packet) :
    policy.decision E direction packet = policy.firstMatch direction packet .any := by
  have hslice : E.fromIp packet =
      some { ip := some (sourceAddr packet, destinationAddr packet), transport := none } := by
    rw [hE packet hpacket, HeaderReaders.sliceIpv4, hpayload, Option.bind_some, if_pos h]
  simp only [TrafficPolicy.decision, henabled, packetMeta, hslice]
  exact TrafficPolicy.decisionForMeta_eq henabled hports direction rfl rfl

lemma decision_of_transport {payload : UInt8 × Bytes} {t : TransportSlice}
    (hpayload : R.payload packet = some payload) (h : ¬Fragmented packet)
    (htransport : R.transport payload.1 payload.2 = some t) :
    policy.decision E direction packet =
      policy.firstMatch direction packet (headerProtocol payload.1) := by
  have hslice : E.fromIp packet =
      some { ip := some (sourceAddr packet, destinationAddr packet), transport := some t } := by
    rw [hE packet hpacket, HeaderReaders.sliceIpv4, hpayload, Option.bind_some, if_neg h,
      htransport, Option.map_some]
  simp only [TrafficPolicy.decision, henabled, packetMeta, hslice]
  rw [← HeaderReaders.transportMeta_transport htransport]
  exact TrafficPolicy.decisionForMeta_eq henabled hports direction rfl rfl

end Decision

/-- **When a policy without ports decides by the IPv4 header alone.**  For a whole packet whose
transport header can be read it does.  It also does, by chance, where the default action says the
same as the rules for a packet that cannot be read, the rules without the protocol for a fragment,
and the rules with the protocol behind it for an authentication header. -/
theorem decision_eq_firstMatch_iff (E : Etherparse) (R : HeaderReaders) (hE : E.SlicesIpv4 R)
    (policy : TrafficPolicy) (henabled : policy.enabled = true) (hports : policy.NoPorts)
    (direction : TrafficDirection) (packet : Bytes) (hpacket : WellFormedIpv4 packet) :
    policy.decision E direction packet =
        policy.firstMatch direction packet (headerProtocol (protocolByte packet)) ↔
      (protocolByte packet ≠ 51 ∧ ¬Fragmented packet ∧ ¬R.Unreadable packet) ∨
      (R.Unreadable packet ∧ policy.defaultAction =
        policy.firstMatch direction packet (headerProtocol (protocolByte packet))) ∨
      (Fragmented packet ∧ ¬R.Unreadable packet ∧ policy.firstMatch direction packet .any =
        policy.firstMatch direction packet (headerProtocol (protocolByte packet))) ∨
      (protocolByte packet = 51 ∧ ¬Fragmented packet ∧ ¬R.Unreadable packet ∧
        ∃ payload, R.payload packet = some payload ∧
          policy.firstMatch direction packet (headerProtocol payload.1) =
            policy.firstMatch direction packet (headerProtocol (protocolByte packet))) := by
  by_cases hunreadable : R.Unreadable packet
  · rw [decision_of_unreadable hE henabled hpacket direction hunreadable]
    simp [hunreadable]
  obtain ⟨payload, hpayload⟩ : ∃ payload, R.payload packet = some payload :=
    Option.ne_none_iff_exists'.mp fun hnone => hunreadable (.inl hnone)
  by_cases hfragmented : Fragmented packet
  · rw [decision_of_fragmented hE henabled hports hpacket direction hpayload hfragmented]
    simp [hunreadable, hfragmented]
  obtain ⟨t, htransport⟩ : ∃ t, R.transport payload.1 payload.2 = some t :=
    Option.ne_none_iff_exists'.mp fun hnone =>
      hunreadable (.inr ⟨hfragmented, payload, hpayload, hnone⟩)
  rw [decision_of_transport hE henabled hports hpacket direction hpayload hfragmented htransport]
  by_cases hauth : protocolByte packet = 51
  · simp [hunreadable, hfragmented, hauth, hpayload]
  · have hsame : payload.1 = protocolByte packet := by
      rw [HeaderReaders.payload, if_neg hauth] at hpayload
      rw [← Option.some.inj hpayload]
    simp [hunreadable, hfragmented, hauth, hsame]

/-! ## Evading a rule -/

/-- The length of a TCP header, from its thirteenth byte. -/
def dataOffset (segment : Bytes) : ℕ := (item segment 12 >>> 4).toNat * 4

/-- A TCP header that lies within the data. -/
def ReadableTcp (segment : Bytes) : Prop :=
  20 ≤ segment.length ∧ 20 ≤ dataOffset segment ∧ dataOffset segment ≤ segment.length

instance (segment : Bytes) : Decidable (ReadableTcp segment) :=
  inferInstanceAs (Decidable (_ ∧ _ ∧ _))

/-- The length of an authentication header, from its second byte. -/
def authenticationLength (rest : Bytes) : ℕ := ((item rest 1).toNat + 2) * 4

/-- The ports at the beginning of a TCP or UDP header. -/
def portsOf (rest : Bytes) : UInt16 × UInt16 :=
  (UInt16.ofNat (word (item rest 0) (item rest 1)), UInt16.ofNat (word (item rest 2) (item rest 3)))

/-- Readers of the headers as the RFCs lay them out. -/
def HeaderReaders.reference : HeaderReaders where
  authentication := fun rest =>
    if 12 ≤ authenticationLength rest ∧ authenticationLength rest ≤ rest.length then
      some (item rest 0, rest.drop (authenticationLength rest))
    else none
  tcp := fun rest => if ReadableTcp rest then some (portsOf rest) else none
  udp := fun rest => if 8 ≤ rest.length then some (portsOf rest) else none
  icmp := fun rest => if 8 ≤ rest.length then some () else none

/-- A parser that reads IPv4 packets with them. -/
def Etherparse.ipv4 : Etherparse :=
  { Etherparse.blind with
    fromIp := fun packet =>
      if WellFormedIpv4 packet then HeaderReaders.reference.sliceIpv4 packet else none
    ipHeader := fun packet =>
      if WellFormedIpv4 packet then
        (HeaderReaders.reference.payload packet).map fun payload =>
          .version4 (ByteArr.ofBytes 4 (Bytes.slice 12 16 packet))
            (ByteArr.ofBytes 4 (Bytes.slice 16 20 packet)) (protocolByte packet) payload.2
      else none }

lemma Etherparse.ipv4_slices : Etherparse.ipv4.SlicesIpv4 .reference := fun _ h => if_pos h

/-- TCP is denied and everything else allowed. -/
def denyTcp : TrafficPolicy where
  enabled := true
  defaultAction := .allow
  rules := [{ id := "deny-tcp", enabled := true, action := .deny, direction := .both
              srcCidr := none, dstCidr := none, protocol := .tcp, srcPorts := [], dstPorts := [] }]

lemma denyTcp_noPorts : denyTcp.NoPorts := by
  simp [TrafficPolicy.NoPorts, denyTcp]

/-- A packet of 40 bytes from `10.0.0.1` to `10.0.0.2` with protocol TCP. -/
def tcpPacket (flags : UInt8) (segment : Bytes) : Bytes :=
  [0x45, 0, 0, 40, 0, 0, flags, 0, 64, 6, 0, 0, 10, 0, 0, 1, 10, 0, 0, 2] ++ segment

/-- A segment without data from port 80 to port 49152: its header has five words. -/
def ackSegment : Bytes := [0, 80, 192, 0, 0, 0, 0, 0, 0, 0, 0, 0, 0x50, 0x10, 2, 0, 0, 0, 0, 0]

/-- A whole TCP packet is denied. -/
theorem decision_eq_firstMatch_whole :
    denyTcp.decision .ipv4 .outbound (tcpPacket 0 ackSegment) =
      denyTcp.firstMatch .outbound (tcpPacket 0 ackSegment) .tcp :=
  (decision_eq_firstMatch_iff .ipv4 .reference Etherparse.ipv4_slices denyTcp rfl
    denyTcp_noPorts .outbound _ (by decide)).mpr (.inl ⟨by decide, by decide, by
      rintro (hnone | ⟨-, payload, hpayload, hnone⟩)
      · revert hnone
        decide
      · obtain rfl := Option.some.inj hpayload
        revert hnone
        decide⟩)

/-- **Two ways around the rule.**  The same packet cut off within its TCP header is allowed, and so
is its first fragment. -/
theorem decision_evades :
    WellFormedIpv4 (tcpPacket 0 (ackSegment.take 10)) ∧
      denyTcp.decision .ipv4 .outbound (tcpPacket 0 (ackSegment.take 10)) = .allow ∧
      denyTcp.firstMatch .outbound (tcpPacket 0 (ackSegment.take 10)) .tcp = .deny ∧
    WellFormedIpv4 (tcpPacket 0x20 ackSegment) ∧
      denyTcp.decision .ipv4 .outbound (tcpPacket 0x20 ackSegment) = .allow ∧
      denyTcp.firstMatch .outbound (tcpPacket 0x20 ackSegment) .tcp = .deny := by
  decide +kernel

/-! ## A UDP packet -/

/-- A UDP packet that must not be fragmented, with the checksum of its header and none of its
data. -/
def udpPacket (source destination : ByteArr 4) (data : Bytes) : Bytes :=
  checksummed 10 ([0x45, 0] ++ beBytes 2 (28 + data.length) ++ [0, 0, 0x40, 0, 64, 17, 0, 0] ++
      source.toList ++ destination.toList) ++
    ([192, 0, 35, 40] ++ beBytes 2 (8 + data.length) ++ [0, 0] ++ data)

section UdpPacket

variable (source destination : ByteArr 4) (data : Bytes)

/-- The packet field by field. -/
lemma udpPacket_eq : ∃ (checksum : ℕ) (rest : Bytes), rest.length = 8 + data.length ∧
    udpPacket source destination data = [0x45, 0] ++ (beBytes 2 (28 + data.length) ++
      ([0, 0, 0x40, 0, 64, 17] ++ (beBytes 2 checksum ++
        (source.toList ++ (destination.toList ++ rest))))) := by
  rw [udpPacket, checksummed]
  generalize 65535 - _ = checksum
  refine ⟨checksum, [192, 0, 35, 40] ++ beBytes 2 (8 + data.length) ++ [0, 0] ++ data, ?_, ?_⟩
  · simp
    omega
  · simp [writeAt, beBytes]

lemma length_udpPacket : (udpPacket source destination data).length = 28 + data.length := by
  obtain ⟨checksum, rest, hrest, hpacket⟩ := udpPacket_eq source destination data
  rw [hpacket]
  simp [hrest]
  omega

lemma udpPacket_addresses :
    Bytes.slice 12 16 (udpPacket source destination data) = source.toList ∧
      Bytes.slice 16 20 (udpPacket source destination data) = destination.toList := by
  obtain ⟨checksum, rest, -, hpacket⟩ := udpPacket_eq source destination data
  rw [hpacket]
  simp (disch := simp) only [Bytes.slice_append_of_le, Bytes.slice_zero_append,
    List.Vector.toList_length, Bytes.length_beBytes, List.length_cons, List.length_nil,
    Nat.reduceAdd, Nat.reduceSub, and_self]

lemma ihl_udpPacket : ihl (udpPacket source destination data) = 20 := by
  obtain ⟨checksum, rest, -, hpacket⟩ := udpPacket_eq source destination data
  rw [hpacket]
  show (0x45 &&& 0x0F : UInt8).toNat * 4 = 20
  decide

lemma ipVersion_udpPacket : ipVersion (udpPacket source destination data) = 4 := by
  obtain ⟨checksum, rest, -, hpacket⟩ := udpPacket_eq source destination data
  rw [hpacket]
  show (0x45 : UInt8) >>> 4 = 4
  decide

lemma protocolByte_udpPacket : protocolByte (udpPacket source destination data) = 17 := by
  obtain ⟨checksum, rest, -, hpacket⟩ := udpPacket_eq source destination data
  rw [hpacket]
  rfl

lemma wellFormed_udpPacket (h : 28 + data.length < 2 ^ 16) :
    WellFormedIpv4 (udpPacket source destination data) where
  version := ipVersion_udpPacket source destination data
  header := (ihl_udpPacket source destination data).ge
  inside := by
    rw [ihl_udpPacket, length_udpPacket]
    omega
  totalLength := by
    obtain ⟨checksum, rest, -, hpacket⟩ := udpPacket_eq source destination data
    have hslice : Bytes.slice 2 4 (udpPacket source destination data) =
        beBytes 2 (28 + data.length) := by
      rw [hpacket]
      simp (disch := simp) only [Bytes.slice_append_of_le, Bytes.slice_zero_append,
        List.length_cons, List.length_nil, Nat.reduceAdd, Nat.reduceSub]
    rw [ihl_udpPacket, hslice, Bytes.ofBe_beBytes]
    omega

/-- The packet is read as what it is. -/
lemma ipHeader_udpPacket (h : 28 + data.length < 2 ^ 16) :
    Etherparse.ipv4.ipHeader (udpPacket source destination data) =
      some (.version4 source destination 17 ((udpPacket source destination data).drop 20)) := by
  obtain ⟨hsource, hdestination⟩ := udpPacket_addresses source destination data
  simp [Etherparse.ipv4, wellFormed_udpPacket source destination data h, HeaderReaders.payload,
    protocolByte_udpPacket, ihl_udpPacket, hsource, hdestination]

end UdpPacket

end R2N
