import R2N.Common

/-!
# Packets and the traffic policy

The `etherparse` functions the crates call, as one record of functions, and `r2n-policy`: an
ordered list of rules of which the first that matches a packet decides.
-/

namespace R2N

/-! ## The packet parser -/

/-- `etherparse::TransportSlice`, as far as it is read. -/
inductive TransportSlice where
  | icmpv4
  | icmpv6
  | udp (sourcePort destinationPort : UInt16)
  | tcp (sourcePort destinationPort : UInt16)
  | unknown
deriving DecidableEq

/-- `etherparse::SlicedPacket`, as far as it is read: the addresses of the IP header, if there is
one, and the transport header. -/
structure SlicedPacket where
  ip : Option (IpAddr × IpAddr)
  transport : Option TransportSlice
deriving DecidableEq

/-- `etherparse::IpHeader` with the bytes behind it, as far as it is read. -/
inductive IpHeader where
  | version4 (source destination : ByteArr 4) (protocol : UInt8) (remainder : Bytes)
  | version6 (nextHeader : UInt8) (remainder : Bytes)
deriving DecidableEq

/-- `etherparse::Ipv4HeaderSlice`: its length and the fields that are read. -/
structure Ipv4HeaderSlice where
  len : ℕ
  source : ByteArr 4
  destination : ByteArr 4
  protocol : UInt8
deriving DecidableEq

/-- The functions of `etherparse` the crates call.  A checksum function gets the header it is a
method of as the bytes the header was parsed from. -/
structure Etherparse where
  /-- `SlicedPacket::from_ip`. -/
  fromIp : Bytes → Option SlicedPacket
  /-- `IpHeader::from_slice`. -/
  ipHeader : Bytes → Option IpHeader
  /-- `Ipv4HeaderSlice::from_slice`. -/
  ipv4HeaderSlice : Bytes → Option Ipv4HeaderSlice
  /-- `UdpHeaderSlice::from_slice(..).to_header().calc_checksum_ipv4_raw(source, destination,
  payload)`, `none` where either fails. -/
  udpChecksum : Bytes → ByteArr 4 → ByteArr 4 → Bytes → Option UInt16
  /-- `TcpHeaderSlice::from_slice(..).slice().len()`. -/
  tcpHeaderLen : Bytes → Option ℕ
  /-- `TcpHeaderSlice::calc_checksum_ipv4_raw(source, destination, payload)`. -/
  tcpChecksum : Bytes → ByteArr 4 → ByteArr 4 → Bytes → Option UInt16
  /-- `Ipv4Header::calc_header_checksum` of the header with its destination replaced. -/
  headerChecksum : Bytes → ByteArr 4 → Option UInt16

/-- A parser that recognises nothing, for runs whose packets are not looked into. -/
def Etherparse.blind : Etherparse where
  fromIp := fun _ => none
  ipHeader := fun _ => none
  ipv4HeaderSlice := fun _ => none
  udpChecksum := fun _ _ _ _ => none
  tcpHeaderLen := fun _ => none
  tcpChecksum := fun _ _ _ _ => none
  headerChecksum := fun _ _ => none

/-! ## Rules -/

inductive TrafficAction where
  | allow
  | deny
deriving DecidableEq

inductive TrafficDirection where
  | inbound
  | outbound
  | both
deriving DecidableEq

/-- `TrafficDirection::matches`. -/
def TrafficDirection.matches (self actual : TrafficDirection) : Bool :=
  self = .both ∨ self = actual

inductive TrafficProtocol where
  | any
  | tcp
  | udp
  | icmp
deriving DecidableEq

structure PortRange where
  start : UInt16
  stop : UInt16
deriving DecidableEq

/-- `PortRange::contains`. -/
def PortRange.contains (r : PortRange) (port : UInt16) : Bool :=
  r.start ≤ port ∧ port ≤ r.stop

/-- The bits of an address, most significant first. -/
def addressBits (octets : List UInt8) : List Bool :=
  octets.flatMap fun b => (List.range 8).map fun i => b.toNat.testBit (7 - i)

/-- `ipnet::IpNet`: an address and a prefix length. -/
structure IpNet where
  addr : IpAddr
  prefixLen : ℕ
deriving DecidableEq

/-- `IpNet::contains`: same family and equal first `prefixLen` bits. -/
def IpNet.contains (net : IpNet) (ip : IpAddr) : Bool :=
  match net.addr, ip with
  | .v4 a, .v4 b =>
      (addressBits a.toList).take net.prefixLen = (addressBits b.toList).take net.prefixLen
  | .v6 a, .v6 b =>
      (addressBits a.toList).take net.prefixLen = (addressBits b.toList).take net.prefixLen
  | _, _ => false

/-- `TrafficRule`, without its description, which nothing reads. -/
structure TrafficRule where
  id : String
  enabled : Bool
  action : TrafficAction
  direction : TrafficDirection
  srcCidr : Option IpNet
  dstCidr : Option IpNet
  protocol : TrafficProtocol
  srcPorts : List PortRange
  dstPorts : List PortRange
deriving DecidableEq

structure PacketMeta where
  src : IpAddr
  dst : IpAddr
  protocol : TrafficProtocol
  srcPort : Option UInt16
  dstPort : Option UInt16
deriving DecidableEq

/-- A rule's address condition: `if let Some(cidr) = cidr && !cidr.contains(ip)` the rule does not
apply. -/
def cidrMatches (cidr : Option IpNet) (ip : IpAddr) : Bool :=
  match cidr with
  | none => true
  | some net => net.contains ip

/-- A rule's port condition: no ranges match everything, ranges need a port in one of them. -/
def portsMatch (ranges : List PortRange) (port : Option UInt16) : Bool :=
  if ranges.isEmpty then true
  else
    match port with
    | none => false
    | some port => ranges.any fun range => range.contains port

/-- `TrafficRule::matches`. -/
def TrafficRule.matches (rule : TrafficRule) (direction : TrafficDirection)
    (packet : PacketMeta) : Bool :=
  if !rule.enabled || !rule.direction.matches direction then false
  else if rule.protocol ≠ .any ∧ rule.protocol ≠ packet.protocol then false
  else
    cidrMatches rule.srcCidr packet.src && cidrMatches rule.dstCidr packet.dst &&
      portsMatch rule.srcPorts packet.srcPort && portsMatch rule.dstPorts packet.dstPort

/-! ## Packet metadata -/

def transportMeta : Option TransportSlice → TrafficProtocol × Option UInt16 × Option UInt16
  | some (.tcp sourcePort destinationPort) => (.tcp, some sourcePort, some destinationPort)
  | some (.udp sourcePort destinationPort) => (.udp, some sourcePort, some destinationPort)
  | some .icmpv4 => (.icmp, none, none)
  | some .icmpv6 => (.icmp, none, none)
  | _ => (.any, none, none)

def packetMeta (E : Etherparse) (packet : Bytes) : Option PacketMeta :=
  match E.fromIp packet with
  | none => none
  | some sliced =>
      match sliced.ip with
      | none => none
      | some (src, dst) =>
          let (protocol, srcPort, dstPort) := transportMeta sliced.transport
          some { src, dst, protocol, srcPort, dstPort }

/-! ## The policy -/

structure TrafficPolicy where
  enabled : Bool
  defaultAction : TrafficAction
  rules : List TrafficRule
deriving DecidableEq

namespace TrafficPolicy

/-- `TrafficPolicy::default`. -/
def default : TrafficPolicy := { enabled := true, defaultAction := .allow, rules := [] }

def decisionForMeta (policy : TrafficPolicy) (direction : TrafficDirection)
    (packet : PacketMeta) : TrafficAction :=
  if !policy.enabled then .allow
  else
    match policy.rules.find? fun rule => rule.matches direction packet with
    | some rule => rule.action
    | none => policy.defaultAction

def decision (E : Etherparse) (policy : TrafficPolicy) (direction : TrafficDirection)
    (packet : Bytes) : TrafficAction :=
  if !policy.enabled then .allow
  else
    match packetMeta E packet with
    | none => policy.defaultAction
    | some m => policy.decisionForMeta direction m

def allows (E : Etherparse) (policy : TrafficPolicy) (direction : TrafficDirection)
    (packet : Bytes) : Bool :=
  policy.decision E direction packet = .allow

/-- The default policy has no rules and lets everything through. -/
lemma default_allows (E : Etherparse) (direction : TrafficDirection) (packet : Bytes) :
    default.allows E direction packet = true := by
  refine decide_eq_true ?_
  simp only [decision]
  cases packetMeta E packet with
  | none => rfl
  | some m => rfl

end TrafficPolicy

end R2N
