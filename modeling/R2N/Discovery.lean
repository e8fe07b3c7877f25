import R2N.Policy
import R2N.Proto.Header

/-!
# Discovery traffic

`r2n-discovery`: which IPv4 packets of the virtual network are broadcast or multicast to the
whole room.  The rate limiter behind `allow_broadcast` is third-party; its answer is an input of
the operations that ask it.
-/

namespace R2N

structure DiscoveryConfig where
  broadcast : Bool
  subnetBroadcast : Bool
  multicast : Bool
  mdns : Bool
  ssdp : Bool
  netbios : Bool
deriving DecidableEq

/-- `DiscoveryConfig::default`. -/
def DiscoveryConfig.default : DiscoveryConfig where
  broadcast := true
  subnetBroadcast := true
  multicast := true
  mdns := true
  ssdp := true
  netbios := false

/-- `DiscoveryManager::route_cidrs`. -/
def DiscoveryConfig.routeCidrs (config : DiscoveryConfig) : List String :=
  (if config.multicast || config.mdns || config.ssdp then ["224.0.0.0/4"] else []) ++
    (if config.broadcast || config.netbios then ["255.255.255.255/32"] else [])

/-- `u16::from_be_bytes([hi, lo])`. -/
def u16Be (hi lo : UInt8) : ℕ := hi.toNat * 256 + lo.toNat

def udpDestinationPort (data : Bytes) : Option ℕ :=
  if data.length < 20 ∨ data.getD 0 0 >>> 4 ≠ 4 then none
  else
    let headerLen := (data.getD 0 0 &&& 0x0f).toNat * 4
    if headerLen < 20 ∨ data.length < headerLen + 4 ∨ data.getD 9 0 ≠ 17 then none
    else some (u16Be (data.getD (headerLen + 2) 0) (data.getD (headerLen + 3) 0))

/-- `DiscoveryManager::classify_packet_with_config`. -/
def classifyPacketWithConfig (E : Etherparse) (data : Bytes) (config : DiscoveryConfig) :
    Option DataPacketType :=
  match E.ipHeader data with
  | some (.version4 source destination _ _) =>
      let dest := destination.toList
      let src := source.toList
      let udpDstPort := udpDestinationPort data
      let isLimitedBroadcast : Bool := dest = [255, 255, 255, 255]
      let isSubnetBroadcast : Bool :=
        (dest.getD 3 0 = 255 ∧ dest.take 3 = src.take 3) ∨
          (dest.getD 2 0 = 255 ∧ dest.getD 3 0 = 255 ∧ dest.take 2 = src.take 2)
      if config.mdns ∧ dest = [224, 0, 0, 251] ∧ udpDstPort = some 5353 then some .multicast
      else if config.ssdp ∧ dest = [239, 255, 255, 250] ∧ udpDstPort = some 1900 then
        some .multicast
      else if config.netbios ∧ (isLimitedBroadcast ∨ isSubnetBroadcast) ∧
          (udpDstPort = some 137 ∨ udpDstPort = some 138) then some .broadcast
      else if config.broadcast ∧ isLimitedBroadcast then some .broadcast
      else if config.subnetBroadcast ∧ isSubnetBroadcast then some .broadcast
      else if config.multicast ∧ dest.getD 0 0 ≥ 224 ∧ dest.getD 0 0 ≤ 239 then some .multicast
      else none
  | _ => none

/-- A classified packet is flooded: there is no third answer. -/
lemma classifyPacketWithConfig_eq_some {E : Etherparse} {data : Bytes} {config : DiscoveryConfig}
    {t : DataPacketType} (h : classifyPacketWithConfig E data config = some t) :
    t = .broadcast ∨ t = .multicast := by
  unfold classifyPacketWithConfig at h
  split at h
  · simp only at h
    split_ifs at h <;> simp_all
  · cases h

end R2N
