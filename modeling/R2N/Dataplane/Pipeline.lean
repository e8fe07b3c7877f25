import R2N.Crypto.Replay
import R2N.Dataplane.Receive

/-!
# A frame from one plane to another

The sender builds a frame, the transport at the other end classifies it, and the receiver
validates its header and decrypts its payload.  Both ends read the flood flag out of the header's
type and time to live, so the first thing to see is that for every type and flag the sender's
loops produce together the header says what the sender meant (`headerIsFlood_sendHeader`).

* `Session` — two planes that are the ends of one session.
* **`frame_round_trip`** — every payload of admissible size arrives, provided the receiver's
  replay window admits the nonce.
* `late_frame_refused` — the window forgets: a nonce that was never accepted is refused once it
  has fallen 64 behind.
-/

namespace R2N

open Bytes (slice)

/-! ## The flood convention -/

namespace DataPlane

lemma tunTargets_type (E : Etherparse) (dp : DataPlane) (now : Instant) (mode : TunDeviceMode)
    (allowBroadcast : Bool) (payload : Bytes) :
    (dp.tunTargets E now mode allowBroadcast payload).1 =
      (dp.classifyTunPacket E mode payload).2 := by
  unfold tunTargets
  simp only
  split_ifs <;> rfl

lemma mem_selectTargets_of_mem_tunTargets {E : Etherparse} {dp : DataPlane} {now : Instant}
    {mode : TunDeviceMode} {allowBroadcast : Bool} {payload : Bytes} {target : PacketTarget}
    (h : target ∈ (dp.tunTargets E now mode allowBroadcast payload).2.1) :
    target ∈ (dp.selectTargets E now (dp.classifyTunPacket E mode payload).1
      (dp.classifyTunPacket E mode payload).2 payload).1 := by
  unfold tunTargets at h
  simp only at h
  split_ifs at h
  · cases h
  · cases h
  · exact h

/-- Layer-3 targets are flooded exactly when the type says so. -/
lemma flood_of_mem_selectL3Targets {E : Etherparse} {dp : DataPlane} {t : DataPacketType}
    {payload : Bytes} {target : PacketTarget} (h : target ∈ dp.selectL3Targets E t payload) :
    target.flood = true ↔ t = .broadcast ∨ t = .multicast := by
  unfold selectL3Targets at h
  split_ifs at h with ht
  · obtain ⟨r, -, rfl⟩ := List.mem_map.mp h
    exact iff_of_true rfl ht
  · refine iff_of_false ?_ ht
    split at h
    · split at h
      · simp [List.mem_singleton.mp h]
      · cases h
    · cases h

/-- What the sender's loops produce: broadcasts and multicasts are floods, Ethernet frames may be
either, and everything else is sent to one peer. -/
lemma Producible.cases {E : Etherparse} {t : DataPacketType} {flood : Bool}
    (h : Producible E t flood) :
    ((t = .broadcast ∨ t = .multicast) ∧ flood = true) ∨ t = .ethernet ∨
      ((t = .ipv4 ∨ t = .ping) ∧ flood = false) := by
  cases h with
  | ping => exact .inr (.inr ⟨.inr rfl, rfl⟩)
  | tun dp now mode allowBroadcast payload target mem =>
      have hsel := mem_selectTargets_of_mem_tunTargets mem
      rw [tunTargets_type]
      cases mode with
      | tap => exact .inr (.inl rfl)
      | tun =>
          have hflood := flood_of_mem_selectL3Targets hsel
          cases hclass : classifyPacketWithConfig E payload dp.discovery with
          | none =>
              have ht : (dp.classifyTunPacket E .tun payload).2 = .ipv4 := by
                simp [classifyTunPacket, hclass]
              rw [ht] at hflood ⊢
              exact .inr (.inr ⟨.inl rfl, by simpa using hflood⟩)
          | some t =>
              have ht : (dp.classifyTunPacket E .tun payload).2 = t := by
                simp [classifyTunPacket, hclass]
              rw [ht] at hflood ⊢
              have hkind := classifyPacketWithConfig_eq_some hclass
              exact .inl ⟨hkind, hflood.mpr hkind⟩

/-- **The flood convention.**  The receiver reads out of the header whether the sender meant a
flood. -/
lemma headerIsFlood_sendHeader {E : Etherparse} {t : DataPacketType} {flood : Bool}
    (h : Producible E t flood) (src : NodeId) (peer : DataPeer) (room : RoomId) (pid : PacketId)
    (n : ℕ) : headerIsFlood (sendHeader src peer room t flood pid n) = flood := by
  rcases h.cases with ⟨rfl | rfl, rfl⟩ | rfl | ⟨rfl | rfl, rfl⟩
  · rfl
  · rfl
  · cases flood <;> rfl
  · rfl
  · rfl

end DataPlane

/-! ## Decryption inverts encryption -/

/-- The receiver's cipher opens what was sealed under its key, if its window admits the nonce. -/
lemma Cipher.decryptInPlace_sealed {A : Aead} (hA : A.Correct) {c : Cipher} {h : DataHeader}
    {payload body : Bytes} (hs : SealedUnder A c.key h payload body)
    (hcheck : c.window.check h.nonce = .ok ()) :
    (c.decryptInPlace A h.nonce (headerAad h) body).1 = .ok payload := by
  have hlen := hs.length hA
  obtain ⟨ct, tag, hseal, rfl⟩ := hs
  obtain ⟨hct, htag⟩ := hA.seal_length _ _ _ _ _ _ hseal
  have hshort : ¬ (ct ++ tag).length < aeadTagLen := by omega
  have hsub : (ct ++ tag).length - aeadTagLen = ct.length := by
    rw [List.length_append, htag]
    omega
  unfold decryptInPlace
  simp only [hcheck, if_neg hshort, hsub, List.take_left, List.drop_left, headerAad_eq,
    hA.open_seal _ _ _ _ _ _ hseal]

/-- A nonce the window refuses is refused whatever the payload. -/
lemma Cipher.decryptInPlace_refused {A : Aead} {c : Cipher} {nonce : UInt64} {e : CryptoError}
    (hcheck : c.window.check nonce = .error e) (aad buffer : Bytes) :
    (c.decryptInPlace A nonce aad buffer).1 = .error e := by
  unfold decryptInPlace
  rw [hcheck]

/-! ## From plane to plane -/

/-- Record `r` of the plane `a` and record `r'` of the plane `b` are the two ends of one session:
same room, each knows the other, and both hold a cipher with the same key. -/
structure Session (a : DataPlane) (r : PeerRef) (b : DataPlane) (r' : PeerRef) (room : RoomId)
    (ca cb : Cipher) : Prop where
  roomSend : a.roomId = some room
  roomRecv : b.roomId = some room
  ne : a.localNodeId ≠ b.localNodeId
  dst : (a.heap r).info.nodeId = b.localNodeId
  known : b.peers.lookup a.localNodeId = some r'
  cipherSend : (a.heap r).cipher = some ca
  cipherRecv : (b.heap r').cipher = some cb
  key : ca.key = cb.key

/-- The next flood of `a` carries a packet id that `b` can accept: not the reserved 0, which the
counter starts above, and not one `b` remembers. -/
def FreshFlood (a b : DataPlane) : Prop :=
  a.nextPacketId ≠ 0 ∧ (a.localNodeId, ⟨a.nextPacketId⟩) ∉ b.seenFlood.set

namespace Session

variable {a b : DataPlane} {r r' : PeerRef} {room : RoomId} {ca cb : Cipher} {E : Etherparse}
  {t : DataPacketType} {flood : Bool}

/-- The receiver validates the sender's header. -/
lemma validates (s : Session a r b r' room ca cb) (hprod : DataPlane.Producible E t flood)
    (hfresh : flood = true → FreshFlood a b) (now : Instant) (n : ℕ) :
    (b.validateIncomingHeader now (a.headerFor r t flood room n)).1 = true := by
  set h := a.headerFor r t flood room n with hh
  have hversion : h.version = protocolVersion := rfl
  have hroom : h.roomId = room := rfl
  have hsrc : h.srcNode = a.localNodeId := rfl
  have horigin : h.originNode = a.localNodeId := rfl
  have hdst : h.dstNode = b.localNodeId := s.dst
  have hflood : headerIsFlood h = flood :=
    DataPlane.headerIsFlood_sendHeader hprod a.localNodeId (a.heap r) room _ n
  unfold DataPlane.validateIncomingHeader
  rw [s.roomRecv]
  simp only [hversion, hroom, hsrc, horigin, hdst, hflood, ne_eq, not_true_eq_false, or_self,
    if_false, s.ne, and_false]
  cases flood with
  | false => rfl
  | true =>
      obtain ⟨hpid, hseen⟩ := hfresh rfl
      have httl : h.ttl = floodTtl := rfl
      have hid : h.packetId = ⟨a.nextPacketId⟩ := rfl
      have hvalid : ¬ (h.ttl = 0 ∨ h.packetId.val = 0) := by
        rw [httl, hid]
        exact fun hc => hc.elim (by decide) hpid
      simp only [if_true, if_neg hvalid]
      rw [hid]
      exact SeenFloodPackets.insertIfNew_of_not_mem hseen now

/-- The receiver's view of a frame it validates is decided by its window. -/
lemma acceptedPacket_eq {A : Aead} (s : Session a r b r' room ca cb)
    (hprod : DataPlane.Producible E t flood) (hfresh : flood = true → FreshFlood a b)
    (now : Instant) (n : ℕ) (body : Bytes) :
    b.acceptedPacket A now (a.headerFor r t flood room n) body =
      (cb.decryptInPlace A (a.heap r).nextNonce (headerAad (a.headerFor r t flood room n))
        body).1.toOption := by
  have hsrc : (a.headerFor r t flood room n).srcNode = a.localNodeId := rfl
  have hnonce : (a.headerFor r t flood room n).nonce = (a.heap r).nextNonce := rfl
  unfold DataPlane.acceptedPacket DataPlane.openPayload
  rw [if_pos (s.validates hprod hfresh now n), hsrc, s.known]
  simp only [s.cipherRecv, hnonce]

/-- The length a header announces, for the lengths that occur. -/
lemma headerFor_payloadLen (a : DataPlane) (r : PeerRef) (t : DataPacketType) (flood : Bool)
    (room : RoomId) {n : ℕ} (hn : n ≤ maxDataplanePayload + aeadTagLen) :
    (a.headerFor r t flood room n).payloadLen.toNat = n := by
  have hmax : maxDataplanePayload + aeadTagLen < 2 ^ 16 := by decide
  show (UInt16.ofNat n).toNat = n
  rw [UInt16.toNat_ofNat_of_lt']
  exact lt_of_le_of_lt hn hmax

/-- The sender's half and the transport: the frame is a header and a sealed body, and is
classified and split as such. -/
lemma transmits {A : Aead} (hA : A.Correct) (s : Session a r b r' room ca cb) (E : Etherparse)
    (postcard : Bytes → Option ControlFrame) (t : DataPacketType) (flood : Bool) {payload : Bytes}
    (hsend : a.CanSend payload) (targetOverride : Option SocketAddr) (net : NetAnswer) :
    let h := a.headerFor r t flood room (payload.length + aeadTagLen)
    ∃ body, SealedUnder A ca.key h payload body ∧
      (a.sendToPeer A E r t payload targetOverride flood net).frame =
        some (h.wire ++ body, a.sendTarget r targetOverride) ∧
      recvPacket postcard (h.wire ++ body) =
        .ok (.data { header := h, payloadRange := h.payloadRange }) ∧
      h.payloadRange.2 = (h.wire ++ body).length ∧
      slice h.payloadRange.1 h.payloadRange.2 (h.wire ++ body) = body := by
  intro h
  have hframe := a.sendToPeer_frame A E r t payload targetOverride flood net hA s.roomSend hsend
  rw [s.cipherSend] at hframe
  obtain ⟨body, hsealed, hframe⟩ := hframe
  have hbody := hsealed.length hA
  have hplen : h.payloadLen.toNat = body.length := by
    rw [headerFor_payloadLen a r t flood room (Nat.add_le_add_right hsend.1 _), hbody]
  have hrange : h.payloadRange = (dataHeaderSize, (h.wire ++ body).length) := by
    rw [DataHeader.payloadRange, hplen, List.length_append, h.length_wire]
  refine ⟨body, hsealed, hframe, recvPacket_data postcard h rfl body hplen.symm, by rw [hrange], ?_⟩
  rw [hrange]
  show slice dataHeaderSize (h.wire ++ body).length (h.wire ++ body) = body
  rw [Bytes.slice_append_of_le h.length_wire.le, slice, h.length_wire, Nat.sub_self,
    List.drop_zero, List.length_append, h.length_wire]
  exact List.take_of_length_le (by omega)

end Session

/-- **Round trip.**  For every payload of admissible size, and every type and flood flag the
sender's loops produce, the sender hands the transport a frame that fits a relay slot, the
transport at the other end takes it for a data frame that ends where the datagram ends, and the
receiver validates its header, recomputes the sender's associated data and recovers the payload,
provided its replay window admits the nonce. -/
theorem frame_round_trip (A : Aead) (hA : A.Correct) (E : Etherparse) (macos : Bool)
    (postcard : Bytes → Option ControlFrame) (a b : DataPlane) (r r' : PeerRef) (room : RoomId)
    (ca cb : Cipher) (s : Session a r b r' room ca cb) (t : DataPacketType) (flood : Bool)
    (hprod : DataPlane.Producible E t flood) (hfresh : flood = true → FreshFlood a b)
    (hwindow : cb.window.check (a.heap r).nextNonce = .ok ()) (payload : Bytes)
    (hsend : a.CanSend payload) (targetOverride : Option SocketAddr) (net : NetAnswer)
    (addr : SocketAddr) (io : IncomingIo) :
    ∃ bytes target view,
      (a.sendToPeer A E r t payload targetOverride flood net).frame = some (bytes, target) ∧
      bytes.length ≤ defaultFrameCap ∧
      recvPacket postcard bytes = .ok (.data view) ∧
      view.payloadRange.2 = bytes.length ∧
      (b.validateIncomingHeader io.now view.header).1 = true ∧
      headerAad view.header =
        headerAad (a.headerFor r t flood room (payload.length + aeadTagLen)) ∧
      (b.handleIncomingFrame A E macos view.header
        (slice view.payloadRange.1 view.payloadRange.2 bytes) addr io).packet = some payload := by
  obtain ⟨body, hsealed, hframe, hrecv, hend, hslice⟩ :=
    s.transmits hA E postcard t flood hsend targetOverride net
  have hcap : dataHeaderSize + (maxDataplanePayload + aeadTagLen) = defaultFrameCap := by decide
  refine ⟨_, _, _, hframe, ?_, hrecv, hend, s.validates hprod hfresh io.now _, rfl, ?_⟩
  · have hlen := hsend.1
    rw [List.length_append, DataHeader.length_wire, hsealed.length hA]
    omega
  · rw [DataPlane.handleIncomingFrame_packet, hslice, s.acceptedPacket_eq hprod hfresh]
    rw [s.key] at hsealed
    exact congrArg Except.toOption (Cipher.decryptInPlace_sealed hA hsealed hwindow)

/-! ## Two concrete ends -/

/-- Node `self` in a room with node `other`, the two sharing the cipher `c`. -/
def sessionPlane (self other : UInt8) (c : Cipher) : DataPlane :=
  let peer : DataPeer :=
    { DataPeer.fresh 0
        { nodeId := .fill other, virtualIp := ⟨ByteArr.fill 4 other⟩, nickname := ""
          publicKey := .fill 32 other } (.localhost 9999) with
      cipher := some c }
  ((DataPlane.new (.fill self) none .default 1280 peer).upsertPeer peer).setRoomId (some (.fill 7))

lemma sessionPlane_session (ca cb : Cipher) (hkey : ca.key = cb.key) :
    Session (sessionPlane 1 2 ca) 0 (sessionPlane 2 1 cb) 0 (.fill 7) ca cb where
  roomSend := rfl
  roomRecv := rfl
  ne := by
    show NodeId.fill 1 ≠ NodeId.fill 2
    decide
  dst := rfl
  known := rfl
  cipherSend := rfl
  cipherRecv := rfl
  key := hkey

lemma sessionPlane_canSend (self other : UInt8) (c : Cipher) {payload : Bytes}
    (hlen : payload.length ≤ maxDataplanePayload) :
    (sessionPlane self other c).CanSend payload :=
  ⟨hlen, rfl, PacketSlab.acquire_new_isSome (by decide) _ _⟩

/-- The answers of a quiet world. -/
def quietIo : IncomingIo :=
  { now := 0, pongSend := .sent, pongReceived := none, tunWriteOk := true }

/-- A ping of three bytes makes the trip. -/
theorem frame_round_trip_ping :
    ∃ bytes target view,
      ((sessionPlane 1 2 (.new (.fill 32 9))).sendToPeer .transparent .blind 0 .ping [1, 2, 3]
        none false .sent).frame = some (bytes, target) ∧
      bytes.length ≤ defaultFrameCap ∧
      recvPacket (fun _ => none) bytes = .ok (.data view) ∧
      view.payloadRange.2 = bytes.length ∧
      ((sessionPlane 2 1 (.new (.fill 32 9))).validateIncomingHeader quietIo.now
        view.header).1 = true ∧
      headerAad view.header = headerAad ((sessionPlane 1 2 (.new (.fill 32 9))).headerFor 0 .ping
        false (.fill 7) (3 + aeadTagLen)) ∧
      ((sessionPlane 2 1 (.new (.fill 32 9))).handleIncomingFrame .transparent .blind false
        view.header (slice view.payloadRange.1 view.payloadRange.2 bytes) (.localhost 9999)
        quietIo).packet = some [1, 2, 3] :=
  frame_round_trip .transparent Aead.transparent_correct .blind false (fun _ => none) _ _ 0 0 _ _ _
    (sessionPlane_session _ _ rfl) .ping false .ping (fun h => by cases h) (by decide) [1, 2, 3]
    (sessionPlane_canSend 1 2 _ (by decide)) none .sent (.localhost 9999) quietIo

/-- The receiver's cipher after the frame with nonce 100 has arrived first. -/
def aheadHistory : History :=
  (History.new (.fill 32 9)).step .transparent
    (.decryptInPlace 100 [] (List.replicate aeadTagLen 0))

/-- **The window forgets.**  Node 2 has accepted the frame with nonce 100 and nothing else; the
frame with nonce 1, delayed on the way, is refused although its nonce was never accepted. -/
theorem late_frame_refused :
    aheadHistory.accepted = [100] ∧
    Session (sessionPlane 1 2 (.new (.fill 32 9))) 0 (sessionPlane 2 1 aheadHistory.cipher) 0
      (.fill 7) (.new (.fill 32 9)) aheadHistory.cipher ∧
    ((sessionPlane 1 2 (.new (.fill 32 9))).heap 0).nextNonce = 1 ∧
    ∃ bytes target view,
      ((sessionPlane 1 2 (.new (.fill 32 9))).sendToPeer .transparent .blind 0 .ping [1, 2, 3]
        none false .sent).frame = some (bytes, target) ∧
      recvPacket (fun _ => none) bytes = .ok (.data view) ∧
      ((sessionPlane 2 1 aheadHistory.cipher).handleIncomingFrame .transparent .blind false
        view.header (slice view.payloadRange.1 view.payloadRange.2 bytes) (.localhost 9999)
        quietIo).packet = none := by
  have hs : Session (sessionPlane 1 2 (.new (.fill 32 9))) 0
      (sessionPlane 2 1 aheadHistory.cipher) 0 (.fill 7) (.new (.fill 32 9))
      aheadHistory.cipher := sessionPlane_session _ _ (by decide)
  have hsend : (sessionPlane 1 2 (.new (.fill 32 9))).CanSend [1, 2, 3] :=
    sessionPlane_canSend 1 2 _ (by decide)
  have hrefused : aheadHistory.cipher.window.check 1 = .error .aead := by decide
  obtain ⟨body, -, hframe, hrecv, -, hslice⟩ := hs.transmits Aead.transparent_correct .blind
    (fun _ => none) .ping false hsend none .sent
  refine ⟨by decide, hs, rfl, _, _, _, hframe, hrecv, ?_⟩
  rw [DataPlane.handleIncomingFrame_packet, hslice,
    hs.acceptedPacket_eq (E := .blind) .ping (fun h => by cases h)]
  exact congrArg Except.toOption (Cipher.decryptInPlace_refused hrefused _ _)

end R2N
