import R2N.Dataplane.Pipeline
import R2N.Dataplane.Rewrite
import R2N.Leases

/-!
# Broadcasts of a room's network

The allocator cuts room networks of any prefix length; the classifier of discovery traffic knows no
prefix and takes a packet for a broadcast if its destination looks like the last address of a `/24`
or a `/16` around the source.  This file compares the two.

* `classify_broadcast_iff`, `classify_multicast_iff` — the classifier in terms of addresses.
* `Assigned` — the addresses that rooms give to their members.
* **`broadcast_matches_iff`** — for which networks the classifier is right.
-/

namespace R2N

/-! ## The classifier -/

/-- `data` is an IPv4 packet from the address `a` to the address `b`, and is read as what it is. -/
structure FromTo (E : Etherparse) (data : Bytes) (a b : ℕ) : Prop where
  wellFormed : WellFormedIpv4 data
  source : Bytes.slice 12 16 data = (VirtualIp.ofNat a).octets.toList
  destination : Bytes.slice 16 20 data = (VirtualIp.ofNat b).octets.toList
  header : ∃ protocol rest, E.ipHeader data =
    some (.version4 (VirtualIp.ofNat a).octets (VirtualIp.ofNat b).octets protocol rest)

/-- A UDP packet without data from `a` to `b`. -/
def datagramFromTo (a b : ℕ) : Bytes :=
  udpPacket (VirtualIp.ofNat a).octets (VirtualIp.ofNat b).octets []

lemma fromTo_datagramFromTo (a b : ℕ) : FromTo .reference (datagramFromTo a b) a b where
  wellFormed := wellFormed_udpPacket _ _ [] (by decide)
  source := (udpPacket_addresses _ _ []).1
  destination := (udpPacket_addresses _ _ []).2
  header := ⟨17, _, ipHeader_udpPacket _ _ [] (by decide)⟩

/-- What the classifier takes for the broadcast address of the network of `a`. -/
def LooksBroadcast (a b : ℕ) : Prop :=
  b = 2 ^ 32 - 1 ∨ (b % 256 = 255 ∧ b / 256 = a / 256) ∨
    (b % 65536 = 65535 ∧ b / 65536 = a / 65536)

lemma octets_ofNat (a : ℕ) : (VirtualIp.ofNat a).octets.toList =
    [UInt8.ofNat (a / 2 ^ 24), UInt8.ofNat (a / 2 ^ 16), UInt8.ofNat (a / 2 ^ 8),
      UInt8.ofNat a] := by
  simp [VirtualIp.ofNat, ByteArr.ofBytes, Bytes.beBytes, List.ofFn_succ]

lemma ofNat_eq_iff {x : ℕ} {c : UInt8} : UInt8.ofNat x = c ↔ x % 256 = c.toNat := by
  rw [← UInt8.toNat_inj, UInt8.toNat_ofNat']

lemma ofNat_inj {a b : ℕ} (ha : a < 2 ^ 32) (hb : b < 2 ^ 32)
    (h : VirtualIp.ofNat a = VirtualIp.ofNat b) : a = b := by
  have hoctets := congrArg (fun ip => ip.octets.toList) h
  simp only [octets_ofNat, List.cons.injEq, ofNat_eq_iff, UInt8.toNat_ofNat', and_true] at hoctets
  omega

section Classifier

variable {E : Etherparse} {data : Bytes} {a b : ℕ}

lemma octets_eq_iff (hb : b < 2 ^ 32) (c₀ c₁ c₂ c₃ : UInt8) :
    (VirtualIp.ofNat b).octets.toList = [c₀, c₁, c₂, c₃] ↔
      b = ((c₀.toNat * 256 + c₁.toNat) * 256 + c₂.toNat) * 256 + c₃.toNat := by
  have h₀ := c₀.toNat_lt
  have h₁ := c₁.toNat_lt
  have h₂ := c₂.toNat_lt
  have h₃ := c₃.toNat_lt
  simp only [octets_ofNat, List.cons.injEq, ofNat_eq_iff, and_true]
  omega

/-- The test for a subnet broadcast. -/
lemma subnetBroadcast_iff (ha : a < 2 ^ 32) (hb : b < 2 ^ 32) :
    (((VirtualIp.ofNat b).octets.toList.getD 3 0 = 255 ∧
        (VirtualIp.ofNat b).octets.toList.take 3 = (VirtualIp.ofNat a).octets.toList.take 3) ∨
      ((VirtualIp.ofNat b).octets.toList.getD 2 0 = 255 ∧
        (VirtualIp.ofNat b).octets.toList.getD 3 0 = 255 ∧
        (VirtualIp.ofNat b).octets.toList.take 2 = (VirtualIp.ofNat a).octets.toList.take 2)) ↔
      (b % 256 = 255 ∧ b / 256 = a / 256) ∨ (b % 65536 = 65535 ∧ b / 65536 = a / 65536) := by
  have h255 : (255 : UInt8).toNat = 255 := rfl
  simp only [octets_ofNat, List.getD_cons_succ, List.getD_cons_zero, List.take_succ_cons,
    List.take_zero, List.cons.injEq, ofNat_eq_iff, UInt8.toNat_ofNat', h255, and_true]
  omega

lemma multicast_iff (hb : b < 2 ^ 32) :
    ((VirtualIp.ofNat b).octets.toList.getD 0 0 ≥ 224 ∧
      (VirtualIp.ofNat b).octets.toList.getD 0 0 ≤ 239) ↔
        224 ≤ b / 2 ^ 24 ∧ b / 2 ^ 24 ≤ 239 := by
  have h224 : (224 : UInt8).toNat = 224 := rfl
  have h239 : (239 : UInt8).toNat = 239 := rfl
  simp only [octets_ofNat, List.getD_cons_zero, ge_iff_le, UInt8.le_iff_toNat_le, h224, h239,
    UInt8.toNat_ofNat']
  omega

/-- **The classifier**, with the default configuration. -/
lemma classify_eq (h : FromTo E data a b) (ha : a < 2 ^ 32) (hb : b < 2 ^ 32) :
    (LooksBroadcast a b ∧ classifyPacketWithConfig E data .default = some .broadcast) ∨
    (¬LooksBroadcast a b ∧ 224 ≤ b / 2 ^ 24 ∧ b / 2 ^ 24 ≤ 239 ∧
      classifyPacketWithConfig E data .default = some .multicast) ∨
    (¬LooksBroadcast a b ∧ ¬(224 ≤ b / 2 ^ 24 ∧ b / 2 ^ 24 ≤ 239) ∧
      classifyPacketWithConfig E data .default = none) := by
  obtain ⟨protocol, rest, hheader⟩ := h.header
  have hlimited : (VirtualIp.ofNat b).octets.toList = [255, 255, 255, 255] ↔ b = 2 ^ 32 - 1 :=
    octets_eq_iff hb 255 255 255 255
  have hmdns : (VirtualIp.ofNat b).octets.toList = [224, 0, 0, 251] ↔ b = 224 * 2 ^ 24 + 251 :=
    octets_eq_iff hb 224 0 0 251
  have hssdp : (VirtualIp.ofNat b).octets.toList = [239, 255, 255, 250] ↔
      b = 240 * 2 ^ 24 - 6 := octets_eq_iff hb 239 255 255 250
  have hsubnet := subnetBroadcast_iff ha hb
  have hmulticast := multicast_iff hb
  simp only [classifyPacketWithConfig, hheader, DiscoveryConfig.default, decide_eq_true_eq,
    LooksBroadcast, hlimited, hmdns, hssdp, hsubnet, hmulticast]
  split_ifs with h₁ h₂ h₃ h₄ h₅ h₆
  · exact .inr (.inl ⟨by omega, by omega, by omega, rfl⟩)
  · exact .inr (.inl ⟨by omega, by omega, by omega, rfl⟩)
  · exact absurd h₃.1 (by decide)
  · exact .inl ⟨.inl h₄.2, rfl⟩
  · exact .inl ⟨.inr h₅.2, rfl⟩
  · refine .inr (.inl ⟨?_, h₆.2.1, h₆.2.2, rfl⟩)
    exact not_or.mpr ⟨fun h => h₄ ⟨trivial, h⟩, fun h => h₅ ⟨trivial, h⟩⟩
  · refine .inr (.inr ⟨?_, fun h => h₆ ⟨trivial, h⟩, rfl⟩)
    exact not_or.mpr ⟨fun h => h₄ ⟨trivial, h⟩, fun h => h₅ ⟨trivial, h⟩⟩

lemma classify_broadcast_iff (h : FromTo E data a b) (ha : a < 2 ^ 32) (hb : b < 2 ^ 32) :
    classifyPacketWithConfig E data .default = some .broadcast ↔ LooksBroadcast a b := by
  rcases classify_eq h ha hb with ⟨hlooks, hclass⟩ | ⟨hlooks, -, -, hclass⟩ | ⟨hlooks, -, hclass⟩
  · simp [hlooks, hclass]
  · simp [hlooks, hclass]
  · simp [hlooks, hclass]

end Classifier

/-! ## Assigned addresses -/

/-- Some room with this network has leased the address to a member. -/
def Assigned (n : Ipv4Net) (ip : VirtualIp) : Prop :=
  ∃ (I : Ipnet) (roomId : RoomId) (name : String) (owner : NodeId) (virtualCidr joinToken : String)
    (ops : List Room.Op) (nodeId : NodeId), I.parse virtualCidr = some n ∧
      (Run.run (Room.step I) (Room.new roomId name owner virtualCidr joinToken)
        ops).ipLeases.lookup nodeId = some ip

/-- An assigned address lies strictly inside the network. -/
lemma Assigned.inside {n : Ipv4Net} {ip : VirtualIp} (h : Assigned n ip) :
    ∃ b, n.network < b ∧ b < n.broadcast ∧ ip = VirtualIp.ofNat b := by
  obtain ⟨I, roomId, name, owner, virtualCidr, joinToken, ops, nodeId, hparse, hlease⟩ := h
  have hnew : (Room.new roomId name owner virtualCidr joinToken).Inside I n := by
    refine ⟨Room.consistent_new _ _ _ _ _, hparse, ?_⟩
    rintro n ip ⟨⟩
  exact (Run.invariant_forall (fun _ op hr => hr.step op) ops _ hnew).host hlease

/-- A network of four addresses or more has one to assign. -/
lemma exists_assigned {n : Ipv4Net} (h : n.prefixLen ≤ 30) : ∃ ip, Assigned n ip := by
  have hparse := Ipnet.dotted_roundTrips n
  set room := Room.new (.fill 1) "" (.fill 1) (Ipnet.dotted.display n) "" with hroom
  have havailable : room.Available .dotted (.fill 1) .owner := Room.available_new hparse h _ _
  obtain ⟨⟨ip, room'⟩, hok⟩ : ∃ res, room.addOrReuse .dotted (.fill 1) "" .owner = .ok res :=
    Room.addOrReuse_ok_iff.mpr havailable
  have hadd := Room.addOrReuse_eq_ok.mp hok
  refine ⟨ip, .dotted, .fill 1, "", .fill 1, Ipnet.dotted.display n, "",
    [.addOrReuseMember (.fill 1) "" .owner], .fill 1, hparse, ?_⟩
  have hrun : Run.run (Room.step .dotted) room [.addOrReuseMember (.fill 1) "" .owner] = room' := by
    show (room.addOrReuseMember .dotted (.fill 1) "" .owner).2 = room'
    rw [hadd]
  have hlease := ((Room.consistent_new _ _ _ _ _).add_ok hadd).2.2.2 (.fill 1)
  rw [← hroom, hrun, hlease, if_pos rfl]

/-! ## Networks for which the classifier is right -/

/-- The networks the pool allocates. -/
def Allocatable (n : Ipv4Net) : Prop :=
  ∃ p : RoomAddressPool, ∃ index < p.roomCount, n = p.subnet index

lemma Allocatable.prefixLen_le {n : Ipv4Net} (h : Allocatable n) : n.prefixLen ≤ 30 := by
  obtain ⟨p, index, -, rfl⟩ := h
  exact p.roomPrefixLen_le

/-- Every packet within the network is taken for a broadcast exactly if it goes to the broadcast
address. -/
def Classified (n : Ipv4Net) : Prop :=
  ∀ E data a b, n.Contains a → n.Contains b → FromTo E data a b →
    (classifyPacketWithConfig E data .default = some .broadcast ↔ b = n.broadcast)

/-- No packet from within the network to an assigned address is flooded. -/
def NeverFlooded (n : Ipv4Net) : Prop :=
  ∀ E (dp : DataPlane) now allowBroadcast data a b, dp.discovery = .default → n.Contains a →
    Assigned n (VirtualIp.ofNat b) → b < 2 ^ 32 → FromTo E data a b →
      ∀ target ∈ (dp.tunTargets E now .tun allowBroadcast data).2.1, target.flood = false

lemma Ipv4Net.Contains.lt {n : Ipv4Net} {a : ℕ} (h : n.Contains a) : a < 2 ^ 32 := by
  have hend := n.network_add_size_le
  have hpos := n.size_pos
  simp only [Contains, broadcast] at h
  omega

/-- A network of more than 256 addresses begins at a multiple of 256. -/
lemma size_of_prefixLen_lt {n : Ipv4Net} (h : n.prefixLen < 24) :
    512 ≤ n.size ∧ n.network % 256 = 0 := by
  have hle : 2 ^ 9 ≤ n.size := Nat.pow_le_pow_right (by decide) (by omega)
  have hdvd : 2 ^ 8 ∣ n.network :=
    (Nat.pow_dvd_pow 2 (by omega)).mul_left _
  exact ⟨hle, Nat.mod_eq_zero_of_dvd hdvd⟩

lemma classified_iff (n : Ipv4Net) :
    Classified n ↔ 24 ≤ n.prefixLen ∧ n.broadcast % 256 = 255 := by
  have hpos := n.size_pos
  constructor
  · intro h
    constructor
    · -- otherwise the end of the first 256 addresses would be taken for a broadcast
      by_contra hlen
      obtain ⟨hsize, hnetwork⟩ := size_of_prefixLen_lt (Nat.not_le.mp hlen)
      have hin : n.Contains (n.network + 255) := by
        simp only [Ipv4Net.Contains, Ipv4Net.broadcast]
        omega
      have hclass := h _ _ _ _ hin hin (fromTo_datagramFromTo _ _)
      rw [classify_broadcast_iff (fromTo_datagramFromTo _ _) hin.lt hin.lt] at hclass
      have hlast := hclass.mp (.inr (.inl ⟨by omega, rfl⟩))
      simp only [Ipv4Net.broadcast] at hlast
      omega
    · have hin : n.Contains n.broadcast := ⟨n.network_le_broadcast, le_rfl⟩
      have hclass := h _ _ _ _ hin hin (fromTo_datagramFromTo _ _)
      rw [classify_broadcast_iff (fromTo_datagramFromTo _ _) hin.lt hin.lt] at hclass
      have hlooks := hclass.mpr rfl
      simp only [LooksBroadcast] at hlooks
      omega
  · rintro ⟨hlen, hlast⟩ E data a b ha hb hdata
    have hsize : n.size ≤ 2 ^ 8 := Nat.pow_le_pow_right (by decide) (by omega)
    rw [classify_broadcast_iff hdata ha.lt hb.lt]
    simp only [LooksBroadcast, Ipv4Net.Contains, Ipv4Net.broadcast] at ha hb hlast ⊢
    omega

/-- A packet that is not classified has the one peer with its destination as its target. -/
lemma tunTargets_flood_of_none {E : Etherparse} {dp : DataPlane} {now : Instant}
    {allowBroadcast : Bool} {data : Bytes}
    (h : classifyPacketWithConfig E data dp.discovery = none) :
    ∀ target ∈ (dp.tunTargets E now .tun allowBroadcast data).2.1, target.flood = false := by
  intro target htarget
  have hsel := DataPlane.mem_selectTargets_of_mem_tunTargets htarget
  simp only [DataPlane.classifyTunPacket, h, Option.getD_none, DataPlane.selectTargets] at hsel
  have hiff := DataPlane.flood_of_mem_selectL3Targets hsel
  exact Bool.eq_false_iff.mpr fun hflood => by simpa using hiff.mp hflood

/-- Node 1 floods what is classified to its only peer. -/
lemma tunTargets_sessionPlane {E : Etherparse} {data : Bytes} {t : DataPacketType}
    (h : classifyPacketWithConfig E data .default = some t) :
    ((sessionPlane 1 2 (.new (.fill 32 9))).tunTargets E 0 .tun true data).2.1 =
      [{ peer := 0, flood := true }] := by
  have htype := classifyPacketWithConfig_eq_some h
  have hdiscovery : (sessionPlane 1 2 (.new (.fill 32 9))).discovery = .default := rfl
  have hpolicy : (sessionPlane 1 2 (.new (.fill 32 9))).policyAllows E .l3 .outbound data = true :=
    TrafficPolicy.default_allows E .outbound data
  have hflood : (sessionPlane 1 2 (.new (.fill 32 9))).floodTargets =
      [{ peer := 0, flood := true }] := rfl
  simp [DataPlane.tunTargets, DataPlane.classifyTunPacket, hdiscovery, h, hpolicy,
    DataPlane.selectTargets, DataPlane.selectL3Targets, htype, hflood]

/-- A room of whose network every address is a multicast address: some assigned address is
flooded to. -/
lemma not_neverFlooded {n : Ipv4Net} {b : ℕ} (hassigned : Assigned n (VirtualIp.ofNat b))
    (hb : n.Contains b) (hmulticast : 224 ≤ b / 2 ^ 24 ∧ b / 2 ^ 24 ≤ 239) : ¬NeverFlooded n := by
  intro h
  have hpacket := fromTo_datagramFromTo b b
  have hflood := h .reference (sessionPlane 1 2 (.new (.fill 32 9))) 0 true (datagramFromTo b b) b b
    rfl hb hassigned hb.lt hpacket
  obtain ⟨t, hclass⟩ :
      ∃ t, classifyPacketWithConfig .reference (datagramFromTo b b) .default = some t := by
    rcases classify_eq hpacket hb.lt hb.lt with
      ⟨-, hclass⟩ | ⟨-, -, -, hclass⟩ | ⟨-, hunicast, -⟩
    · exact ⟨_, hclass⟩
    · exact ⟨_, hclass⟩
    · exact absurd hmulticast hunicast
  rw [tunTargets_sessionPlane hclass] at hflood
  simp at hflood

/-- **For which networks the classifier is right.**  Those of at most 256 addresses that end where
256 addresses end and do not lie in the multicast range. -/
theorem broadcast_matches_iff (n : Ipv4Net) (h : Allocatable n) :
    (Classified n ∧ NeverFlooded n) ↔
      24 ≤ n.prefixLen ∧ n.broadcast % 256 = 255 ∧
        ¬(224 ≤ n.broadcast / 2 ^ 24 ∧ n.broadcast / 2 ^ 24 ≤ 239) := by
  have hpos := n.size_pos
  rw [classified_iff, and_assoc]
  refine and_congr_right fun hlen => and_congr_right fun hlast => ?_
  have hsize : n.size ≤ 2 ^ 8 := Nat.pow_le_pow_right (by decide) (by omega)
  constructor
  · intro hnever hmulticast
    obtain ⟨ip, hassigned⟩ := exists_assigned h.prefixLen_le
    obtain ⟨b, hlow, hhigh, rfl⟩ := hassigned.inside
    refine not_neverFlooded hassigned ⟨hlow.le, hhigh.le⟩ ?_ hnever
    simp only [Ipv4Net.broadcast] at hmulticast hhigh hlast
    omega
  · intro hunicast E dp now allowBroadcast data a b hdiscovery ha hassigned hb hdata
    obtain ⟨b', hlow, hhigh, hip⟩ := hassigned.inside
    have hin : n.Contains b' := ⟨hlow.le, hhigh.le⟩
    obtain rfl : b = b' := ofNat_inj hb hin.lt hip
    refine tunTargets_flood_of_none ?_
    rw [hdiscovery]
    rcases classify_eq hdata ha.lt hb with
      ⟨-, hclass⟩ | ⟨-, hfirst, hsecond, -⟩ | ⟨-, -, hclass⟩
    · have hbroadcast := ((classified_iff n).mpr ⟨hlen, hlast⟩ E data a b ha hin hdata).mp hclass
      omega
    · simp only [Ipv4Net.Contains, Ipv4Net.broadcast] at hunicast hin hlast
      omega
    · exact hclass

/-- The rooms of the default pool. -/
theorem broadcast_matches_default :
    Classified (RoomAddressPool.default.subnet 200) ∧
      NeverFlooded (RoomAddressPool.default.subnet 200) :=
  (broadcast_matches_iff _ ⟨.default, 200, by decide, rfl⟩).mpr (by decide)

lemma testPool_prefixLen_le : 16 ≤ 32 := by decide

/-- `10.77.0.0/16`, in rooms of the given prefix length. -/
def testPool (roomPrefixLen : ℕ) (h : 16 ≤ roomPrefixLen ∧ roomPrefixLen ≤ 30) :
    RoomAddressPool where
  pool := ⟨10 * 2 ^ 24 + 77 * 2 ^ 16, 16, by decide, testPool_prefixLen_le⟩
  roomPrefixLen := roomPrefixLen
  allocations := ∅
  prefixLen_le := h.1
  roomPrefixLen_le := h.2

/-- **Two networks for which it is wrong.**  In `10.77.0.0/20` a packet to the host `10.77.0.255`
is taken for a broadcast; in `10.77.0.0/25` a packet to the broadcast address `10.77.0.127` is
not. -/
theorem broadcast_mismatch :
    (∃ (E : Etherparse) (data : Bytes) (a b : ℕ),
      ((testPool 20 (by decide)).subnet 0).Contains a ∧
      ((testPool 20 (by decide)).subnet 0).Contains b ∧ FromTo E data a b ∧
      b ≠ ((testPool 20 (by decide)).subnet 0).broadcast ∧
      classifyPacketWithConfig E data .default = some .broadcast) ∧
    ∃ (E : Etherparse) (data : Bytes) (a b : ℕ),
      ((testPool 25 (by decide)).subnet 0).Contains a ∧ FromTo E data a b ∧
      b = ((testPool 25 (by decide)).subnet 0).broadcast ∧
      classifyPacketWithConfig E data .default = none := by
  refine ⟨⟨.reference, datagramFromTo (10 * 2 ^ 24 + 77 * 2 ^ 16 + 2)
      (10 * 2 ^ 24 + 77 * 2 ^ 16 + 255), _, _, ?_, ?_, fromTo_datagramFromTo _ _, by decide,
      by decide +kernel⟩,
    ⟨.reference, datagramFromTo (10 * 2 ^ 24 + 77 * 2 ^ 16 + 2)
      (10 * 2 ^ 24 + 77 * 2 ^ 16 + 127), _, _, ?_, fromTo_datagramFromTo _ _, by decide,
      by decide +kernel⟩⟩
  all_goals
    simp only [Ipv4Net.Contains]
    decide

end R2N
