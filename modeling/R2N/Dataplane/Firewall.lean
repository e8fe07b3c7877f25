import R2N.Dataplane.Receive

/-!
# The inbound firewall

What reaches the device is what `deliverable` lets through, so the question whether the policy
covers it is one about the nine packet types.  Ping and pong never reach the device; for five
types the policy judges the very bytes that are written, except that on macOS a broadcast is
rewritten between the judgement and the write.  Two types escape: a keepalive is not judged at
all, and an Ethernet frame is judged by the bytes behind its fourteen-byte header, or not at all
if it carries no IP packet, while the whole frame is written.

* `Unjudged` — the plaintexts that reach the device against the policy.
* **`inbound_firewall_iff`** — a call writes nothing the policy denies exactly if its plaintext is
  not one of them.
-/

namespace R2N

namespace DataPlane

/-- A plaintext that the policy denies in the form in which it is written, and that passes the
check made for its type. -/
def Unjudged (E : Etherparse) (macos : Bool) (policy : TrafficPolicy) (tun : TunDevice)
    (packetType : DataPacketType) (packet : Bytes) : Prop :=
  match packetType with
  | .keepalive => policy.allows E .inbound packet = false
  | .ethernet =>
      (ethernetIpPayload packet).all (policy.allows E .inbound) = true ∧
        policy.allows E .inbound packet = false
  | .broadcast =>
      macos = true ∧ policy.allows E .inbound packet = true ∧
        ∃ localIpv4, tun.ipv4Addr = some localIpv4 ∧
          policy.allows E .inbound (rewriteIpv4Destination E packet localIpv4).2 = false
  | _ => False

/-- On every target but macOS, and for every type but broadcast, the packet is written as it
is. -/
lemma preparePacketForLocalTun_eq {E : Etherparse} {macos : Bool} {packetType : DataPacketType}
    (h : ¬ (macos = true ∧ packetType = .broadcast)) (packet : Bytes)
    (localIpv4 : Option (ByteArr 4)) :
    preparePacketForLocalTun E macos packet packetType localIpv4 = packet := if_neg h

/-- The types whose check is the policy's judgement of the bytes that are written. -/
lemma deliverable_of_judged {E : Etherparse} {macos : Bool} {dp : DataPlane} {h : DataHeader}
    {packet bytes : Bytes}
    (hpolicy : dp.policyAllowsPacketType E h.packetType .inbound packet =
      dp.trafficPolicy.allows E .inbound packet)
    (hmac : ¬ (macos = true ∧ h.packetType = .broadcast))
    (hdel : dp.deliverable E macos h packet = some bytes) :
    dp.trafficPolicy.allows E .inbound bytes = true := by
  unfold deliverable at hdel
  rw [hpolicy] at hdel
  split_ifs at hdel with _ hallow
  obtain ⟨tun, -, rfl⟩ := Option.map_eq_some_iff.mp hdel
  rwa [preparePacketForLocalTun_eq hmac]

/-- **One plaintext.**  What is delivered of a plaintext is allowed by the policy exactly if the
plaintext is not one of the unjudged ones. -/
lemma deliverable_allowed_iff (E : Etherparse) (macos : Bool) (dp : DataPlane) (h : DataHeader)
    (packet : Bytes) :
    (∀ bytes, dp.deliverable E macos h packet = some bytes →
      dp.trafficPolicy.allows E .inbound bytes = true) ↔
    ∀ tun, dp.tun = some tun → ¬ Unjudged E macos dp.trafficPolicy tun h.packetType packet := by
  cases ht : h.packetType with
  | ping | pong => simp [deliverable, ht, Unjudged]
  | ipv4 | ipv6 | multicast | discovery =>
      refine iff_of_true (fun bytes hdel => ?_) (fun _ _ => id)
      exact deliverable_of_judged (by rw [ht]; rfl) (by simp [ht]) hdel
  | keepalive =>
      cases htun : dp.tun with
      | none => simp [deliverable, ht, htun]
      | some tun =>
          simp [deliverable, ht, htun, Unjudged, policyAllowsPacketType,
            preparePacketForLocalTun_eq]
  | ethernet =>
      cases htun : dp.tun with
      | none => simp [deliverable, ht, htun]
      | some tun =>
          cases hip : ethernetIpPayload packet with
          | none =>
              simp [deliverable, ht, htun, Unjudged, policyAllowsPacketType, hip,
                preparePacketForLocalTun_eq]
          | some ip =>
              simp [deliverable, ht, htun, Unjudged, policyAllowsPacketType, hip,
                preparePacketForLocalTun_eq]
  | broadcast =>
      by_cases hmac : macos = true
      · cases htun : dp.tun with
        | none => simp [deliverable, ht, htun]
        | some tun =>
            cases hip : tun.ipv4Addr with
            | none =>
                simp [deliverable, ht, htun, Unjudged, policyAllowsPacketType, hip,
                  preparePacketForLocalTun]
            | some localIpv4 =>
                simp [deliverable, ht, htun, Unjudged, policyAllowsPacketType, hip, hmac,
                  preparePacketForLocalTun]
      · refine iff_of_true (fun bytes hdel => ?_) (fun tun _ hun => hmac hun.1)
        exact deliverable_of_judged (by rw [ht]; rfl) (fun hc => hmac hc.1) hdel

/-- **The inbound firewall.**  Whatever frame arrives, a call hands the device only bytes the
policy allows exactly if the frame's plaintext, when it has one and there is a device, is not one
of the unjudged ones. -/
theorem inbound_firewall_iff (A : Aead) (E : Etherparse) (macos : Bool) (dp : DataPlane)
    (h : DataHeader) (payload : Bytes) (addr : SocketAddr) (io : IncomingIo) :
    (∀ bytes, (dp.handleIncomingFrame A E macos h payload addr io).written = some bytes →
      dp.trafficPolicy.allows E .inbound bytes = true) ↔
    ∀ tun packet, dp.tun = some tun → dp.acceptedPacket A io.now h payload = some packet →
      ¬ Unjudged E macos dp.trafficPolicy tun h.packetType packet := by
  rw [handleIncomingFrame_written]
  cases dp.acceptedPacket A io.now h payload with
  | none => simp
  | some packet =>
      rw [Option.bind_some, deliverable_allowed_iff]
      simp only [Option.some.injEq]
      constructor
      · rintro hall tun _ htun rfl
        exact hall tun htun
      · exact fun hall tun htun => hall tun packet htun rfl

/-- A plane on a TUN device whose policy denies everything, in a room with one peer. -/
def denyAllPlane : DataPlane :=
  let peer : DataPeer := .fresh 0
    { nodeId := .fill 2, virtualIp := ⟨ByteArr.fill 4 0⟩, nickname := "", publicKey := .fill 32 0 }
    (.localhost 9999)
  (((new (.fill 1) (some { mode := .tun, ipv4Addr := none }) .default 1280 peer).upsertPeer
    peer).setRoomId (some (.fill 7))).setTrafficPolicy
      { enabled := true, defaultAction := .deny, rules := [] }

/-- A keepalive from that peer. -/
def keepaliveHeader : DataHeader where
  version := protocolVersion
  flags := 0
  packetType := .keepalive
  reserved := 0
  ttl := 0
  roomId := .fill 7
  srcNode := .fill 2
  dstNode := .fill 1
  originNode := .fill 2
  sessionId := ⟨0⟩
  nonce := 1
  packetId := ⟨0⟩
  payloadLen := 1

/-- The payload of a keepalive is written to the device although the policy denies it. -/
theorem keepalive_passes_firewall :
    denyAllPlane.tun.map TunDevice.mode = some .tun ∧
    (denyAllPlane.handleIncomingFrame .transparent .blind false keepaliveHeader [0x45]
        (.localhost 9999) { now := 0, pongSend := .sent, pongReceived := none, tunWriteOk := true }
      ).written = some [0x45] ∧
    denyAllPlane.trafficPolicy.allows .blind .inbound [0x45] = false := by
  decide

end DataPlane

end R2N
