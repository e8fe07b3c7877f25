import R2N.Dataplane.ClampCorrect
import R2N.Dataplane.Rewrite
import R2N.Edge.Activation

/-!
# Packet sizes on the way into the tunnel

A round of the dataplane's `run_tun_loop` on one packet of the device: the packet is read into a
buffer of 2048 bytes, a packet above the configured MTU that must not be fragmented is answered with
ICMP Fragmentation Needed, every other one has its MSS clamped and is sent to its targets.  The MTU
comes from the configuration, through `normalize_tun_mtu`; what a frame can carry is
`MAX_DATAPLANE_PAYLOAD`.

* `recvTun`, `tunRound` — what the buffer holds, and the round, with the panics of the packet
  defence.
* **`tunRound_size_iff`** — packets that do not fit a frame are lost without an answer unless what
  the buffer holds of them is above the MTU.
-/

namespace R2N

open Checked (Fault item)
open OnesComplement (word)

/-! ## The round -/

/-- `r2n_edge_lib::normalize_tun_mtu`, the same floor as the device's. -/
def normalizeTunMtu (mtu : UInt16) : UInt16 := normalizeMtu mtu

/-- The length of the buffer of `run_tun_loop`. -/
def tunBufferLen : ℕ := 2048

/-- What `tun.recv` leaves in the buffer of a packet of the device: the rest is cut off. -/
def recvTun (packet : Bytes) : Bytes := packet.take tunBufferLen

/-- What a round does: what it writes back to the device, and the results of its calls of
`send_to_peer`. -/
structure TunRound where
  plane : DataPlane
  answer : Option Bytes
  sends : List (Except SendError Unit)

namespace DataPlane

/-- The loop over the targets; `net` answers for the transport. -/
def sendToTargets (A : Aead) (E : Etherparse) (packetType : DataPacketType) (payload : Bytes)
    (net : PeerRef → NetAnswer) : List PacketTarget → DataPlane → TunRound
  | [], dp => { plane := dp, answer := none, sends := [] }
  | target :: rest, dp =>
      let out := dp.sendToPeer A E target.peer packetType payload none target.flood
        (net target.peer)
      let round := sendToTargets A E packetType payload net rest out.plane
      { round with sends := out.result :: round.sends }

/-- The part of a round behind the packet defence. -/
def forwardTunPacket (A : Aead) (E : Etherparse) (now : Instant) (mode : TunDeviceMode)
    (allowBroadcast : Bool) (net : PeerRef → NetAnswer) (dp : DataPlane) (payload : Bytes) :
    TunRound :=
  let selected := dp.tunTargets E now mode allowBroadcast payload
  sendToTargets A E selected.1 payload net selected.2.1 selected.2.2

/-- The packets that are answered: above the MTU, IPv4 and not to be fragmented. -/
def needsAnswer (safePayloadMtu : ℕ) (payload : Bytes) : Except Fault Bool :=
  if payload.length > safePayloadMtu ∧ payload.length ≥ 20 then do
    let first ← Checked.get payload 0
    if first >>> 4 = 4 then do
      let hi ← Checked.get payload 6
      let lo ← Checked.get payload 7
      return word hi lo &&& 0x4000 != 0
    else
      return false
  else
    return false

/-- A round of `run_tun_loop` on a packet of the device. -/
def tunRound (A : Aead) (E : Etherparse) (now : Instant) (mode : TunDeviceMode)
    (allowBroadcast : Bool) (net : PeerRef → NetAnswer) (dp : DataPlane) (packet : Bytes) :
    Except Fault TunRound :=
  let payload := recvTun packet
  match mode with
  | .tun => do
      let safePayloadMtu := dp.tunMtu.toNat
      let large ← needsAnswer safePayloadMtu payload
      if large then do
        let icmp ← buildIcmpFragNeeded payload (UInt16.ofNat safePayloadMtu)
        return { plane := dp, answer := icmp, sends := [] }
      else do
        let result ← clampMss payload safePayloadMtu
        return dp.forwardTunPacket A E now mode allowBroadcast net result.2
  | .tap => .ok (dp.forwardTunPacket A E now mode allowBroadcast net payload)

/-! ## Sizes -/

/-- The Don't Fragment bit. -/
def DontFragment (packet : Bytes) : Prop := word (item packet 6) (item packet 7) &&& 0x4000 ≠ 0

instance (packet : Bytes) : Decidable (DontFragment packet) :=
  inferInstanceAs (Decidable (word (item packet 6) (item packet 7) &&& 0x4000 ≠ 0))

/-- The size check of `send_to_peer` has failed. -/
def SizeRejected (result : Except SendError Unit) : Prop :=
  ∃ len, result = .error (.payloadTooLarge len)

lemma needsAnswer_eq {safePayloadMtu : ℕ} {payload : Bytes} (hlen : 20 ≤ payload.length)
    (hversion : ipVersion payload = 4) (hdf : DontFragment payload) :
    needsAnswer safePayloadMtu payload = .ok (decide (safePayloadMtu < payload.length)) := by
  simp only [needsAnswer]
  by_cases hlarge : payload.length > safePayloadMtu
  · rw [if_pos ⟨hlarge, hlen⟩, Checked.get_of_lt (by omega), Checked.ok_bind,
      if_pos (show item payload 0 >>> 4 = 4 from hversion), Checked.get_of_lt (by omega),
      Checked.ok_bind, Checked.get_of_lt (by omega), Checked.ok_bind, decide_eq_true hlarge]
    simpa [DontFragment] using hdf
  · rw [if_neg fun h => hlarge h.1, decide_eq_false hlarge]
    rfl

/-- The size check rejects exactly the payloads above the capacity. -/
lemma sizeRejected_sendToPeer (A : Aead) (E : Etherparse) (dp : DataPlane) (r : PeerRef)
    (packetType : DataPacketType) (payload : Bytes) (targetOverride : Option SocketAddr)
    (flood : Bool) (net : NetAnswer) :
    SizeRejected (dp.sendToPeer A E r packetType payload targetOverride flood net).result ↔
      maxDataplanePayload < payload.length := by
  simp only [sendToPeer]
  by_cases hlen : payload.length > maxDataplanePayload
  · rw [if_pos hlen]
    exact ⟨fun _ => hlen, fun _ => ⟨_, rfl⟩⟩
  · rw [if_neg hlen]
    refine iff_of_false ?_ hlen
    rintro ⟨len, hrejected⟩
    cases hroom : dp.roomId with
    | none => simp [hroom] at hrejected
    | some room =>
        cases hacq : dp.slab.acquire with
        | none => simp [hroom, hacq] at hrejected
        | some res =>
            simp only [hroom, hacq] at hrejected
            generalize fillSlot _ _ _ _ _ = filled at hrejected
            obtain ⟨slot, result⟩ := filled
            cases result with
            | error e => simp at hrejected
            | ok n => cases net <;> simp at hrejected

/-! ### The buffer -/

lemma length_recvTun (packet : Bytes) :
    (recvTun packet).length = min packet.length tunBufferLen := by
  rw [recvTun, List.length_take, Nat.min_comm]

lemma item_recvTun (packet : Bytes) {i : ℕ} (hi : i < tunBufferLen) :
    item (recvTun packet) i = item packet i := by
  simp only [item, recvTun, List.getD_eq_getElem?_getD, List.getElem?_take_of_lt hi]

lemma ihl_recvTun (packet : Bytes) : ihl (recvTun packet) = ihl packet := by
  rw [ihl, ihl, item_recvTun packet (by decide)]

/-- An answer about what the buffer holds is one about the packet. -/
lemma fragNeeded_of_recvTun {packet icmp : Bytes} {mtu : UInt16}
    (h : FragNeeded (recvTun packet) mtu icmp) : FragNeeded packet mtu icmp where
  totalLength := h.totalLength
  source := h.source.trans (Bytes.slice_take (by decide) packet)
  destination := h.destination.trans (Bytes.slice_take (by decide) packet)
  headerChecksum := h.headerChecksum
  icmpChecksum := h.icmpChecksum
  mtu := h.mtu
  body := by
    have hihl := ihl_le packet
    rw [h.body, ihl_recvTun, recvTun, List.take_take, Nat.min_eq_left]
    simp only [tunBufferLen]
    omega

/-- A packet that must not be fragmented, as the device delivers it. -/
structure Unfragmentable (packet : Bytes) : Prop where
  header : 20 ≤ packet.length
  version : ipVersion packet = 4
  dontFragment : DontFragment packet

lemma Unfragmentable.recvTun {packet : Bytes} (h : Unfragmentable packet) :
    Unfragmentable (recvTun packet) where
  header := by
    have hlen := h.header
    rw [length_recvTun, tunBufferLen]
    omega
  version := by
    rw [ipVersion, item_recvTun packet (by decide)]
    exact h.version
  dontFragment := by
    rw [DontFragment, item_recvTun packet (by decide), item_recvTun packet (by decide)]
    exact h.dontFragment

section Round

variable (A : Aead) (E : Etherparse) (now : Instant) (allowBroadcast : Bool)
  (net : PeerRef → NetAnswer)

lemma sendToTargets_sends (packetType : DataPacketType) (payload : Bytes)
    (targets : List PacketTarget) (dp : DataPlane) :
    (sendToTargets A E packetType payload net targets dp).answer = none ∧
      ∀ result ∈ (sendToTargets A E packetType payload net targets dp).sends,
        SizeRejected result ↔ maxDataplanePayload < payload.length := by
  induction targets generalizing dp with
  | nil => simp [sendToTargets]
  | cons target rest ih =>
      simp only [sendToTargets, List.forall_mem_cons]
      exact ⟨(ih _).1, sizeRejected_sendToPeer A E dp _ _ _ _ _ _, (ih _).2⟩

/-- The size of a packet is dealt with: it fits and the size check passes in every call the round
makes, or the device gets a well-formed answer about it. -/
def SizeHandled (dp : DataPlane) (packet : Bytes) : Prop :=
  (packet.length ≤ maxDataplanePayload ∧
    ∀ round, dp.tunRound A E now .tun allowBroadcast net packet = .ok round →
      ∀ result ∈ round.sends, ¬SizeRejected result) ∨
  ∃ round icmp, dp.tunRound A E now .tun allowBroadcast net packet = .ok round ∧
    round.answer = some icmp ∧ FragNeeded packet dp.tunMtu icmp

variable {A E now allowBroadcast net}

/-- Above the MTU the device gets its answer. -/
lemma tunRound_of_large {dp : DataPlane} {packet : Bytes} (hmtu : minTunMtu ≤ dp.tunMtu)
    (h : Unfragmentable packet) (hlarge : dp.tunMtu.toNat < (recvTun packet).length) :
    ∃ icmp, dp.tunRound A E now .tun allowBroadcast net packet =
        .ok { plane := dp, answer := some icmp, sends := [] } ∧
      FragNeeded packet dp.tunMtu icmp := by
  have hmin : 1280 ≤ dp.tunMtu.toNat := UInt16.le_iff_toNat_le.mp hmtu
  have hihl := ihl_le (recvTun packet)
  refine ⟨icmpFragNeeded (recvTun packet) dp.tunMtu, ?_,
    fragNeeded_of_recvTun (icmpFragNeeded_wellFormed dp.tunMtu (by omega) (by omega))⟩
  simp only [tunRound]
  rw [needsAnswer_eq (by omega) h.recvTun.version h.recvTun.dontFragment, Checked.ok_bind,
    decide_eq_true hlarge, if_pos rfl, UInt16.ofNat_toNat,
    buildIcmpFragNeeded_eq _ (by omega) (by omega)]
  rfl

/-- Up to the MTU what the buffer holds is sent as it is, or nearly so. -/
lemma tunRound_of_le {dp : DataPlane} {packet : Bytes} {round : TunRound}
    (hpacket : Unfragmentable packet) (hle : (recvTun packet).length ≤ dp.tunMtu.toNat)
    (h : dp.tunRound A E now .tun allowBroadcast net packet = .ok round) :
    round.answer = none ∧ ∀ result ∈ round.sends,
      SizeRejected result ↔ maxDataplanePayload < (recvTun packet).length := by
  simp only [tunRound] at h
  rw [needsAnswer_eq hpacket.recvTun.header hpacket.recvTun.version hpacket.recvTun.dontFragment,
    Checked.ok_bind, decide_eq_false (by omega), if_neg (by simp)] at h
  cases hclamp : clampMss (recvTun packet) dp.tunMtu.toNat with
  | error fault =>
      rw [hclamp] at h
      cases h
  | ok result =>
      rw [hclamp, Checked.ok_bind] at h
      cases h
      rw [← length_clampMss hclamp]
      exact sendToTargets_sends A E net _ _ _ _

/-- A packet fits a frame exactly if what the buffer holds of it does. -/
lemma length_recvTun_le_iff (packet : Bytes) :
    (recvTun packet).length ≤ maxDataplanePayload ↔ packet.length ≤ maxDataplanePayload := by
  have hbuffer : maxDataplanePayload < tunBufferLen := by decide
  rw [length_recvTun]
  omega

lemma sizeHandled_iff {dp : DataPlane} {packet : Bytes} (hmtu : minTunMtu ≤ dp.tunMtu)
    (h : Unfragmentable packet) :
    SizeHandled A E now allowBroadcast net dp packet ↔
      packet.length ≤ maxDataplanePayload ∨ dp.tunMtu.toNat < min packet.length tunBufferLen := by
  rw [← length_recvTun]
  rcases Nat.lt_or_ge dp.tunMtu.toNat (recvTun packet).length with hlarge | hle
  · obtain ⟨icmp, hround, hwell⟩ := tunRound_of_large hmtu h hlarge
    exact iff_of_true (.inr ⟨_, icmp, hround, rfl, hwell⟩) (.inr hlarge)
  · constructor
    · rintro (⟨hfits, -⟩ | ⟨round, icmp, hround, hanswer, -⟩)
      · exact .inl hfits
      · have hnone := (tunRound_of_le h hle hround).1
        rw [hanswer] at hnone
        cases hnone
    · rintro (hfits | hlarge)
      · refine .inl ⟨hfits, fun round hround result hresult hrejected => ?_⟩
        have hexceeds := ((tunRound_of_le h hle hround).2 result hresult).mp hrejected
        exact absurd ((length_recvTun_le_iff packet).mpr hfits) (Nat.not_le.mpr hexceeds)
      · exact absurd hle (Nat.not_le.mpr hlarge)

end Round

end DataPlane

open DataPlane

/-- **Sizes on the way into the tunnel**, for every MTU the configuration can give.  A packet that
must not be fragmented is dealt with exactly if it fits a frame, or if it exceeds the MTU and the
buffer shows that; in between it is rejected by every call of `send_to_peer` and the device hears
nothing.  A segment that a clamped SYN allows fits a frame exactly if the MTU does, or the SYN
announced no more in the first place. -/
theorem tunRound_size_iff (A : Aead) (E : Etherparse) (now : Instant) (allowBroadcast : Bool)
    (net : PeerRef → NetAnswer) (dp : DataPlane) (mtu : UInt16)
    (hmtu : dp.tunMtu = normalizeTunMtu mtu) :
    (∀ packet, Unfragmentable packet →
      (SizeHandled A E now allowBroadcast net dp packet ↔
        packet.length ≤ maxDataplanePayload ∨
          dp.tunMtu.toNat < min packet.length tunBufferLen) ∧
      (¬SizeHandled A E now allowBroadcast net dp packet →
        ∀ round, dp.tunRound A E now .tun allowBroadcast net packet = .ok round →
          round.answer = none ∧ ∀ result ∈ round.sends, SizeRejected result)) ∧
    ∀ syn, WellFormedTcp syn → SynFlag syn →
      ∃ clamped syn', clampMss syn dp.tunMtu.toNat = .ok (clamped, syn') ∧
        ∀ k ∈ mssOptions syn', ihl syn' + 20 + mssValue syn' k ≤ maxDataplanePayload ↔
          dp.tunMtu.toNat ≤ maxDataplanePayload ∨
            ihl syn + 20 + mssValue syn k ≤ maxDataplanePayload := by
  have hmin : minTunMtu ≤ dp.tunMtu := by
    rw [hmtu, normalizeTunMtu, normalizeMtu]
    split_ifs with hsmall
    · exact UInt16.le_refl _
    · exact UInt16.not_lt.mp hsmall
  have hnat : 1280 ≤ dp.tunMtu.toNat := UInt16.le_iff_toNat_le.mp hmin
  refine ⟨fun packet hpacket => ⟨sizeHandled_iff hmin hpacket, ?_⟩, fun syn hsyn hflag => ?_⟩
  · rw [sizeHandled_iff hmin hpacket, ← length_recvTun, ← length_recvTun_le_iff]
    intro hbetween round hround
    obtain ⟨hanswer, hsends⟩ := tunRound_of_le hpacket (by omega) hround
    exact ⟨hanswer, fun result hresult => (hsends result hresult).mpr (by omega)⟩
  · obtain ⟨clamped, syn', hclamp, hihl, hoptions, hvalues⟩ :=
      hsyn.clampMss_values dp.tunMtu.toNat dp.tunMtu.toNat_lt hflag
    refine ⟨clamped, syn', hclamp, fun k hk => ?_⟩
    have hle := ihl_le syn
    rw [hoptions] at hk
    rw [hihl, hvalues k hk]
    omega

/-! ## A device with an MTU of 1500 -/

/-- Node 1 in a room with node 2. -/
def ethernetMtuPlane : DataPlane :=
  let peer : DataPeer := .fresh 0
    { nodeId := .fill 2, virtualIp := ⟨ByteArr.ofBytes 4 [10, 0, 0, 2]⟩, nickname := ""
      publicKey := .fill 32 2 } (.localhost 9999)
  ((DataPlane.new (.fill 1) none .default (normalizeTunMtu 1500) peer).upsertPeer peer).setRoomId
    (some (.fill 7))

/-- A UDP packet from node 1 to node 2. -/
def datagramWith (data : Bytes) : Bytes :=
  udpPacket (ByteArr.ofBytes 4 [10, 0, 0, 1]) (ByteArr.ofBytes 4 [10, 0, 0, 2]) data

lemma unfragmentable_datagramWith (data : Bytes) : Unfragmentable (datagramWith data) where
  header := by
    rw [datagramWith, length_udpPacket]
    omega
  version := ipVersion_udpPacket _ _ _
  dontFragment := by
    obtain ⟨checksum, rest, -, hpacket⟩ := udpPacket_eq (ByteArr.ofBytes 4 [10, 0, 0, 1])
      (ByteArr.ofBytes 4 [10, 0, 0, 2]) data
    rw [datagramWith, hpacket]
    show word 0x40 0 &&& 0x4000 ≠ 0
    decide

theorem tunRound_size_iff_ethernetMtuPlane :
    SizeHandled .transparent .reference 0 true (fun _ => .sent) ethernetMtuPlane
        (datagramWith (List.replicate 1372 0)) ∧
      ¬SizeHandled .transparent .reference 0 true (fun _ => .sent) ethernetMtuPlane
        (datagramWith (List.replicate 1422 0)) := by
  have hiff : ∀ n, SizeHandled .transparent .reference 0 true (fun _ => .sent) ethernetMtuPlane
      (datagramWith (List.replicate n 0)) ↔
        28 + n ≤ maxDataplanePayload ∨ 1500 < min (28 + n) tunBufferLen := by
    intro n
    have hlen : (datagramWith (List.replicate n 0)).length = 28 + n := by
      rw [datagramWith, length_udpPacket, List.length_replicate]
    rw [((tunRound_size_iff .transparent .reference 0 true (fun _ => .sent) ethernetMtuPlane 1500
      rfl).1 _ (unfragmentable_datagramWith _)).1, hlen]
    rfl
  rw [hiff, hiff]
  decide

/-- Its one target is node 2. -/
lemma tunTargets_ethernetMtuPlane {data : Bytes} (hdata : 28 + data.length < 2 ^ 16) :
    ethernetMtuPlane.tunTargets .reference 0 .tun true (datagramWith data) =
      (.ipv4, [{ peer := 0, flood := false }], ethernetMtuPlane) := by
  have hheader : Etherparse.reference.ipHeader (datagramWith data) = _ :=
    ipHeader_udpPacket _ _ data hdata
  have hclass : classifyPacketWithConfig .reference (datagramWith data) .default = none := by
    simp only [classifyPacketWithConfig, hheader]
    generalize udpDestinationPort (datagramWith data) = port
    simp [DiscoveryConfig.default, ByteArr.ofBytes]
  have hdiscovery : ethernetMtuPlane.discovery = .default := rfl
  have hpolicy :
      ethernetMtuPlane.policyAllows .reference .l3 .outbound (datagramWith data) = true :=
    TrafficPolicy.default_allows .reference .outbound _
  have htarget : selectL3Targets .reference ethernetMtuPlane .ipv4 (datagramWith data) =
      [{ peer := 0, flood := false }] := by
    simp only [selectL3Targets, hheader]
    rfl
  simp [tunTargets, classifyTunPacket, hdiscovery, hclass, hpolicy, selectTargets, htarget]

/-- **A packet of 1450 bytes is lost without an answer** on a device with an MTU of 1500: it has a
target in the active room, and the one call of `send_to_peer` rejects it. -/
theorem tunRound_datagram_1450 :
    ethernetMtuPlane.roomId.isSome ∧ (datagramWith (List.replicate 1422 0)).length = 1450 ∧
      WellFormedIpv4 (datagramWith (List.replicate 1422 0)) ∧
      ∃ round, ethernetMtuPlane.tunRound .transparent .reference 0 .tun true (fun _ => .sent)
          (datagramWith (List.replicate 1422 0)) = .ok round ∧
        round.answer = none ∧ round.sends = [.error (.payloadTooLarge 1450)] := by
  have hdata : (List.replicate 1422 (0 : UInt8)).length = 1422 := List.length_replicate
  generalize List.replicate 1422 (0 : UInt8) = data at hdata ⊢
  have hlen : (datagramWith data).length = 1450 := by
    rw [datagramWith, length_udpPacket, hdata]
  have hrecv : recvTun (datagramWith data) = datagramWith data :=
    List.take_of_length_le (hlen.le.trans (by decide))
  have hpacket := unfragmentable_datagramWith data
  have hnot : ¬Scanned (datagramWith data) := fun h => by
    rw [Scanned, datagramWith, protocolByte_udpPacket] at h
    exact absurd h.2.2.2.1 (by decide)
  have hround : ethernetMtuPlane.tunRound .transparent .reference 0 .tun true (fun _ => .sent)
      (datagramWith data) = .ok (ethernetMtuPlane.forwardTunPacket .transparent .reference 0 .tun
        true (fun _ => .sent) (datagramWith data)) := by
    simp only [tunRound]
    rw [hrecv, needsAnswer_eq hpacket.header hpacket.version hpacket.dontFragment,
      Checked.ok_bind, hlen, clampMss_of_small fun h => absurd h hnot]
    rfl
  have htargets := tunTargets_ethernetMtuPlane (show 28 + data.length < 2 ^ 16 by omega)
  refine ⟨rfl, hlen, wellFormed_udpPacket _ _ data (by omega), _, hround, ?_, ?_⟩
  · rw [forwardTunPacket, htargets]
    exact (sendToTargets_sends _ _ _ _ _ _ _).1
  · rw [forwardTunPacket, htargets]
    simp only [sendToTargets, sendToPeer, hlen]
    rw [if_pos (by decide)]

end R2N
