import R2N.Dataplane.Send

/-!
# Receiving

`DataPlane::handle_incoming_frame`, in the stages of the source: header validation, the table
lookup, decryption, path learning, and what is done with the packet by its type.  The clock, the
answers of the transport and of the device, and the round trip a pong is matched with are inputs.

* `validateIncomingHeader`, `openPayload`, `handlePacket` — the stages.
* `acceptedPacket` — the plaintext of a frame that is validated, has a known sender and decrypts,
  from the state before the call.
* **`handleIncomingFrame_written`** — what a call hands to the device, from the state before the
  call: no stage changes the policy or the device the later ones read.
-/

namespace R2N

open Bytes (writeAt beBytes)

/-! ## Preparing a packet for the device -/

/-- The transport part of `rewrite_ipv4_destination`: the bytes behind the IP header with their
checksum recomputed, or `none` where the source returns early. -/
def rewriteTransport (E : Etherparse) (ip : Ipv4HeaderSlice) (newDest : ByteArr 4)
    (transport : Bytes) : Option Bytes :=
  if ip.protocol = 17 then
    (E.udpChecksum transport ip.source newDest (transport.drop 8)).map fun checksum =>
      writeAt 6 (beBytes 2 checksum.toNat) transport
  else if ip.protocol = 6 then
    (E.tcpHeaderLen transport).bind fun tcpHeaderLen =>
      (E.tcpChecksum transport ip.source newDest (transport.drop tcpHeaderLen)).map fun checksum =>
        writeAt 16 (beBytes 2 checksum.toNat) transport
  else some transport

/-- `rewrite_ipv4_destination`: its result, and the packet as it leaves it. -/
def rewriteIpv4Destination (E : Etherparse) (packet : Bytes) (localIpv4 : ByteArr 4) :
    Option Unit × Bytes :=
  match E.ipv4HeaderSlice packet with
  | none => (none, packet)
  | some ip =>
      if packet.length < ip.len then (none, packet)
      else if ip.destination = localIpv4 then (some (), packet)
      else
        let header := packet.take ip.len
        let packet := writeAt 16 localIpv4.toList packet
        match rewriteTransport E ip localIpv4 (packet.drop ip.len) with
        | none => (none, packet)
        | some transport =>
            let packet := packet.take ip.len ++ transport
            match E.headerChecksum header localIpv4 with
            | none => (none, packet)
            | some checksum => (some (), writeAt 10 (beBytes 2 checksum.toNat) packet)

/-- `prepare_packet_for_local_tun`; `macos` is the target the crate is compiled for. -/
def preparePacketForLocalTun (E : Etherparse) (macos : Bool) (packet : Bytes)
    (packetType : DataPacketType) (localIpv4 : Option (ByteArr 4)) : Bytes :=
  if macos ∧ packetType = .broadcast then
    match localIpv4 with
    | some localIpv4 => (rewriteIpv4Destination E packet localIpv4).2
    | none => packet
  else packet

/-! ## Stages -/

def headerIsFlood (h : DataHeader) : Bool :=
  match h.packetType with
  | .broadcast | .multicast => true
  | .ethernet => h.ttl > 0
  | _ => false

/-- What the outside world answers during one call: the clock, the transport if a pong is sent,
the registry if a pong arrives (the address and round trip of the ping it answers), the device. -/
structure IncomingIo where
  now : Instant
  pongSend : NetAnswer
  pongReceived : Option (SocketAddr × ℚ)
  tunWriteOk : Bool

inductive IncomingError where
  | decrypt (err : CryptoError)
  | tunWrite
deriving DecidableEq

/-- What one call leaves behind: the plane, the plaintext it worked on, the encryption and frame
of the pong it sent, the bytes it handed to the device, and its result. -/
structure IncomingOutcome where
  plane : DataPlane
  packet : Option Bytes
  encrypted : Option (Key × UInt64)
  frame : Option (Bytes × SocketAddr)
  written : Option Bytes
  result : Except IncomingError Unit

/-- A call that stops without an effect beyond the plane's own. -/
def IncomingOutcome.stop (plane : DataPlane) (packet : Option Bytes)
    (result : Except IncomingError Unit) : IncomingOutcome :=
  { plane, packet, encrypted := none, frame := none, written := none, result }

namespace DataPlane

def validateIncomingHeader (dp : DataPlane) (now : Instant) (h : DataHeader) : Bool × DataPlane :=
  match dp.roomId with
  | none => (false, dp)
  | some room =>
      if h.version ≠ protocolVersion ∨ h.roomId ≠ room then (false, dp)
      else if h.srcNode = dp.localNodeId ∨ h.originNode = dp.localNodeId then (false, dp)
      else
        let flood := headerIsFlood h
        if !flood ∧ h.dstNode ≠ dp.localNodeId then (false, dp)
        else if flood then
          if h.ttl = 0 ∨ h.packetId.val = 0 then (false, dp)
          else
            let (new, seenFlood) := dp.seenFlood.insertIfNew now h.originNode h.packetId
            (new, { dp with seenFlood })
        else (true, dp)

/-- The decryption of `handle_incoming_frame`: the plaintext, and the plane with the replay window
of the peer's cipher advanced. -/
def openPayload (A : Aead) (dp : DataPlane) (r : PeerRef) (h : DataHeader) (payload : Bytes) :
    Except CryptoError Bytes × DataPlane :=
  match (dp.heap r).cipher with
  | none => (.ok payload, dp)
  | some c =>
      let (result, c) := c.decryptInPlace A h.nonce (headerAad h) payload
      (result, dp.setPeer r { dp.heap r with cipher := some c })

/-- Peer-reflexive candidates: an address a valid frame came from is a path. -/
def learnPath (dp : DataPlane) (now : Instant) (r : PeerRef) (addr : SocketAddr) : DataPlane :=
  let peer := dp.heap r
  if peer.pathManager.paths.any fun p => p.addr = addr then dp
  else dp.setPeer r { peer with pathManager := peer.pathManager.addOrUpdatePath now addr false }

def policyAllowsPacketType (E : Etherparse) (dp : DataPlane) (packetType : DataPacketType)
    (direction : TrafficDirection) (packet : Bytes) : Bool :=
  match packetType with
  | .ipv4 | .ipv6 | .broadcast | .multicast | .discovery =>
      dp.trafficPolicy.allows E direction packet
  | .ethernet =>
      match ethernetIpPayload packet with
      | some ip => dp.trafficPolicy.allows E direction ip
      | none => true
  | _ => true

/-- The pong branch: a matched pong is a success of the path its ping took. -/
def recordPong (dp : DataPlane) (r : PeerRef) (packet : Bytes) (io : IncomingIo) : DataPlane :=
  match io.pongReceived with
  | some (pingAddr, rtt) =>
      if packet.length ≥ 4 then
        let peer := dp.heap r
        dp.setPeer r
          { peer with pathManager := peer.pathManager.recordSuccess io.now pingAddr rtt }
      else dp
  | none => dp

/-- What a packet that is neither ping nor pong teaches: its direct path and, in an Ethernet
frame, where its source address lives. -/
def learnFromPacket (dp : DataPlane) (r : PeerRef) (h : DataHeader) (packet : Bytes)
    (addr : SocketAddr) (now : Instant) : DataPlane :=
  let dp :=
    if (dp.heap r).pathManager.isRelayAddr addr then dp
    else dp.setDirectPath now h.srcNode addr none
  match h.packetType, ethernetMacs packet with
  | .ethernet, some (_, srcMac) => dp.learnMac now srcMac h.srcNode
  | _, _ => dp

/-- `handle_incoming_frame` from the decrypted packet on. -/
def handlePacket (A : Aead) (E : Etherparse) (macos : Bool) (dp : DataPlane) (r : PeerRef)
    (h : DataHeader) (packet : Bytes) (addr : SocketAddr) (io : IncomingIo) : IncomingOutcome :=
  if h.packetType = .ping then
    let out := dp.sendToPeer A E r .pong packet (some addr) false io.pongSend
    { plane := out.plane, packet := some packet, encrypted := out.encrypted, frame := out.frame,
      written := none, result := .ok () }
  else if h.packetType = .pong then .stop (dp.recordPong r packet io) (some packet) (.ok ())
  else
    let dp := dp.learnFromPacket r h packet addr io.now
    if !dp.policyAllowsPacketType E h.packetType .inbound packet then
      .stop dp (some packet) (.ok ())
    else
      match dp.tun with
      | none => .stop dp (some packet) (.ok ())
      | some tun =>
          { plane := dp, packet := some packet, encrypted := none, frame := none
            written := some (preparePacketForLocalTun E macos packet h.packetType tun.ipv4Addr)
            result := if io.tunWriteOk then .ok () else .error .tunWrite }

/-- `DataPlane::handle_incoming_frame`. -/
def handleIncomingFrame (A : Aead) (E : Etherparse) (macos : Bool) (dp : DataPlane)
    (h : DataHeader) (payload : Bytes) (addr : SocketAddr) (io : IncomingIo) : IncomingOutcome :=
  match dp.validateIncomingHeader io.now h with
  | (false, dp) => .stop dp none (.ok ())
  | (true, dp) =>
      match dp.peers.lookup h.srcNode with
      | none => .stop dp none (.ok ())
      | some r =>
          match dp.openPayload A r h payload with
          | (.error e, dp) => .stop dp none (.error (.decrypt e))
          | (.ok packet, dp) =>
              (dp.learnPath io.now r addr).handlePacket A E macos r h packet addr io

/-! ## What the stages leave alone -/

lemma validateIncomingHeader_plane (dp : DataPlane) (now : Instant) (h : DataHeader) :
    ∃ seenFlood, (dp.validateIncomingHeader now h).2 = { dp with seenFlood } := by
  unfold validateIncomingHeader
  split
  · exact ⟨dp.seenFlood, rfl⟩
  · simp only
    split_ifs
    all_goals exact ⟨_, rfl⟩

lemma openPayload_plane (A : Aead) (dp : DataPlane) (r : PeerRef) (h : DataHeader)
    (payload : Bytes) : ∃ heap, (dp.openPayload A r h payload).2 = { dp with heap } := by
  unfold openPayload
  split
  · exact ⟨dp.heap, rfl⟩
  · exact ⟨_, rfl⟩

lemma learnPath_plane (dp : DataPlane) (now : Instant) (r : PeerRef) (addr : SocketAddr) :
    ∃ heap, dp.learnPath now r addr = { dp with heap } := by
  unfold learnPath
  simp only
  split_ifs
  · exact ⟨dp.heap, rfl⟩
  · exact ⟨_, rfl⟩

lemma setDirectPath_plane (dp : DataPlane) (now : Instant) (nodeId : NodeId) (addr : SocketAddr)
    (cipher : Option Cipher) :
    ∃ heap, dp.setDirectPath now nodeId addr cipher = { dp with heap } := by
  unfold setDirectPath
  split
  · exact ⟨dp.heap, rfl⟩
  · exact ⟨_, rfl⟩

lemma learnMac_plane (dp : DataPlane) (now : Instant) (mac : Mac) (nodeId : NodeId) :
    ∃ macTable, dp.learnMac now mac nodeId = { dp with macTable } := by
  unfold learnMac evictOldestMac pruneMacTable
  simp only
  split_ifs
  · split
    all_goals exact ⟨_, rfl⟩
  · exact ⟨_, rfl⟩

lemma learnFromPacket_plane (dp : DataPlane) (r : PeerRef) (h : DataHeader) (packet : Bytes)
    (addr : SocketAddr) (now : Instant) :
    ∃ heap macTable, dp.learnFromPacket r h packet addr now = { dp with heap, macTable } := by
  obtain ⟨heap, hheap⟩ : ∃ heap, (if (dp.heap r).pathManager.isRelayAddr addr then dp
      else dp.setDirectPath now h.srcNode addr none) = { dp with heap } := by
    split_ifs
    · exact ⟨dp.heap, rfl⟩
    · exact dp.setDirectPath_plane now h.srcNode addr none
  unfold learnFromPacket
  simp only [hheap]
  split
  · obtain ⟨macTable, hmac⟩ :=
      DataPlane.learnMac_plane { dp with heap } now (‹Mac›) h.srcNode
    exact ⟨heap, macTable, hmac⟩
  · exact ⟨heap, dp.macTable, rfl⟩

/-! ## The call as a function of the state before it -/

/-- The plaintext of a frame that is validated, has a known sender and decrypts. -/
def acceptedPacket (A : Aead) (dp : DataPlane) (now : Instant) (h : DataHeader) (payload : Bytes) :
    Option Bytes :=
  if (dp.validateIncomingHeader now h).1 then
    match dp.peers.lookup h.srcNode with
    | none => none
    | some r => (dp.openPayload A r h payload).1.toOption
  else none

/-- What is done with the plaintext of a frame: the bytes for the device, if any. -/
def deliverable (E : Etherparse) (macos : Bool) (dp : DataPlane) (h : DataHeader)
    (packet : Bytes) : Option Bytes :=
  if h.packetType = .ping ∨ h.packetType = .pong then none
  else if dp.policyAllowsPacketType E h.packetType .inbound packet then
    dp.tun.map fun tun => preparePacketForLocalTun E macos packet h.packetType tun.ipv4Addr
  else none

lemma handlePacket_written (A : Aead) (E : Etherparse) (macos : Bool) (dp : DataPlane)
    (r : PeerRef) (h : DataHeader) (packet : Bytes) (addr : SocketAddr) (io : IncomingIo) :
    (dp.handlePacket A E macos r h packet addr io).written = dp.deliverable E macos h packet := by
  obtain ⟨heap, macTable, hlearn⟩ := dp.learnFromPacket_plane r h packet addr io.now
  unfold handlePacket deliverable
  by_cases hping : h.packetType = .ping
  · simp [hping]
  by_cases hpong : h.packetType = .pong
  · simp [hpong, IncomingOutcome.stop]
  simp only [hping, hpong, if_false, or_self, hlearn]
  have hpolicy : ∀ t d p, policyAllowsPacketType E { dp with heap, macTable } t d p =
      dp.policyAllowsPacketType E t d p := fun _ _ _ => rfl
  rw [hpolicy]
  cases dp.policyAllowsPacketType E h.packetType .inbound packet with
  | false => rfl
  | true => cases dp.tun <;> rfl

lemma handlePacket_packet (A : Aead) (E : Etherparse) (macos : Bool) (dp : DataPlane)
    (r : PeerRef) (h : DataHeader) (packet : Bytes) (addr : SocketAddr) (io : IncomingIo) :
    (dp.handlePacket A E macos r h packet addr io).packet = some packet := by
  unfold handlePacket
  simp only
  split
  · rfl
  split
  · rfl
  split
  · rfl
  split <;> rfl

/-- A call that gets to the packet: its state, and the call itself. -/
lemma handleIncomingFrame_cases (A : Aead) (E : Etherparse) (macos : Bool) (dp : DataPlane)
    (h : DataHeader) (payload : Bytes) (addr : SocketAddr) (io : IncomingIo) :
    (dp.acceptedPacket A io.now h payload = none ∧
      ∃ heap seenFlood result, dp.handleIncomingFrame A E macos h payload addr io =
        .stop { dp with heap, seenFlood } none result) ∨
    (∃ r packet heap seenFlood, dp.peers.lookup h.srcNode = some r ∧
      dp.acceptedPacket A io.now h payload = some packet ∧
      dp.handleIncomingFrame A E macos h payload addr io =
        { dp with heap, seenFlood }.handlePacket A E macos r h packet addr io) := by
  obtain ⟨seenFlood, hseen⟩ := dp.validateIncomingHeader_plane io.now h
  unfold acceptedPacket handleIncomingFrame
  generalize hval : dp.validateIncomingHeader io.now h = val at hseen ⊢
  obtain ⟨valid, dp'⟩ := val
  obtain rfl : dp' = { dp with seenFlood } := hseen
  cases valid with
  | false => exact .inl ⟨rfl, _, _, _, rfl⟩
  | true =>
      simp only [if_true]
      cases hr : dp.peers.lookup h.srcNode with
      | none => exact .inl ⟨rfl, _, _, _, rfl⟩
      | some r =>
          have hopen : (({ dp with seenFlood } : DataPlane).openPayload A r h payload).1 =
              (dp.openPayload A r h payload).1 := by
            unfold openPayload
            cases (dp.heap r).cipher <;> rfl
          obtain ⟨heap, hheap⟩ :=
            openPayload_plane A ({ dp with seenFlood } : DataPlane) r h payload
          simp only
          generalize ({ dp with seenFlood } : DataPlane).openPayload A r h payload = opened
            at hopen hheap ⊢
          obtain ⟨result, dp'⟩ := opened
          obtain rfl : dp' = { dp with seenFlood, heap } := hheap
          cases result with
          | error e =>
              rw [← hopen]
              exact .inl ⟨rfl, _, _, _, rfl⟩
          | ok packet =>
              obtain ⟨heap', hpath⟩ :=
                learnPath_plane ({ dp with seenFlood, heap } : DataPlane) io.now r addr
              rw [← hopen]
              simp only [hpath]
              exact .inr ⟨r, packet, heap', seenFlood, rfl, rfl, rfl⟩

/-- **What a call hands to the device**, in terms of the state before it. -/
theorem handleIncomingFrame_written (A : Aead) (E : Etherparse) (macos : Bool) (dp : DataPlane)
    (h : DataHeader) (payload : Bytes) (addr : SocketAddr) (io : IncomingIo) :
    (dp.handleIncomingFrame A E macos h payload addr io).written =
      (dp.acceptedPacket A io.now h payload).bind (dp.deliverable E macos h) := by
  rcases dp.handleIncomingFrame_cases A E macos h payload addr io with
    ⟨hnone, _, _, result, hcall⟩ | ⟨r, packet, heap, seenFlood, -, hsome, hcall⟩
  · rw [hcall, hnone]
    rfl
  · rw [hcall, hsome, handlePacket_written]
    rfl

/-- The plaintext a call works on is the accepted one. -/
theorem handleIncomingFrame_packet (A : Aead) (E : Etherparse) (macos : Bool) (dp : DataPlane)
    (h : DataHeader) (payload : Bytes) (addr : SocketAddr) (io : IncomingIo) :
    (dp.handleIncomingFrame A E macos h payload addr io).packet =
      dp.acceptedPacket A io.now h payload := by
  rcases dp.handleIncomingFrame_cases A E macos h payload addr io with
    ⟨hnone, _, _, result, hcall⟩ | ⟨r, packet, heap, seenFlood, -, hsome, hcall⟩
  · rw [hcall, hnone]
    rfl
  · rw [hcall, hsome, handlePacket_packet]

end DataPlane

end R2N
