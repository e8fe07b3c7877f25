import R2N.Dataplane.Plane

/-!
# Sending

`DataPlane::send_to_peer` and the choice of what it is called with.  The function draws a nonce
from the peer record, fills a slot of the slab — payload, encryption in place, header — and hands
the slot to the transport.  The transport's answer is an input.

* `fillSlot` — what `with_slot_mut` does; `fillSlot_plain` and `fillSlot_sealed` give the bytes.
* **`sendToPeer_frame`** — whatever is handed to the transport is a header in wire form followed
  by the payload, or by its encryption under the key of the peer's cipher with the header as
  associated data.
* `sendToPeer_effect` — the only thing a call changes in the tables and the heap is the counter
  of the record it sends to.
-/

namespace R2N

open Bytes (writeAt)

/-- `MAX_DATAPLANE_PAYLOAD`. -/
def maxDataplanePayload : ℕ := defaultFrameCap - dataHeaderSize - aeadTagLen

/-- What `UdpTransport::send_raw` answers: the datagram left, the address family does not match
and nothing was sent (`Ok(0)`), or the socket failed. -/
inductive NetAnswer where
  | sent
  | skipped
  | failed
deriving DecidableEq

inductive SendError where
  | payloadTooLarge (len : ℕ)
  | roomNotAssigned
  | slabExhausted
  | encrypt (err : CryptoError)
  | sendRaw
deriving DecidableEq

/-- What one call of `send_to_peer` leaves behind: the plane, the key and nonce of the
`encrypt_in_place` call it made, the bytes it handed to the transport with their target, and its
result. -/
structure SendOutcome where
  plane : DataPlane
  encrypted : Option (Key × UInt64)
  frame : Option (Bytes × SocketAddr)
  result : Except SendError Unit

/-- A header encoded into a zeroed buffer of its own: the associated data of a frame. -/
def headerAad (h : DataHeader) : Bytes :=
  match h.encodeInto (List.replicate dataHeaderSize 0) with
  | .ok buf => buf
  | .error _ => []

lemma headerAad_eq (h : DataHeader) : headerAad h = h.wire := by
  have henc := h.encodeInto_header
  unfold headerAad
  generalize h.encodeInto (List.replicate dataHeaderSize 0) = r at henc ⊢
  rw [henc]

/-- The header `send_to_peer` builds, by the length it announces. -/
def sendHeader (src : NodeId) (peer : DataPeer) (room : RoomId) (packetType : DataPacketType)
    (flood : Bool) (packetId : PacketId) (payloadLen : ℕ) : DataHeader where
  version := protocolVersion
  flags := 0
  packetType := packetType
  reserved := 0
  ttl := if flood then floodTtl else 0
  roomId := room
  srcNode := src
  dstNode := peer.info.nodeId
  originNode := src
  sessionId := peer.sessionId
  nonce := peer.nextNonce
  packetId := packetId
  payloadLen := UInt16.ofNat payloadLen

/-- `header.encode_into(&mut slot[..DATA_HEADER_SIZE])`. -/
def writeHeader (h : DataHeader) (slot : Bytes) : Bytes :=
  match h.encodeInto (slot.take dataHeaderSize) with
  | .ok buf => buf ++ slot.drop dataHeaderSize
  | .error _ => slot

/-- The closure `send_to_peer` passes to `with_slot_mut`: the slot afterwards, and the length of
what follows the header. -/
def fillSlot (A : Aead) (cipher : Option Cipher) (header : ℕ → DataHeader) (payload : Bytes)
    (slot : ByteArr defaultFrameCap) : ByteArr defaultFrameCap × Except CryptoError ℕ :=
  let slot := writeAt dataHeaderSize payload slot.toList
  match cipher with
  | none =>
      let payloadLen := payload.length
      (ByteArr.ofBytes _ (writeHeader (header payloadLen) slot), .ok payloadLen)
  | some c =>
      let sealing := header (payload.length + aeadTagLen)
      match c.encryptInPlace A sealing.nonce (headerAad sealing) (slot.drop dataHeaderSize)
          payload.length with
      | .error e => (ByteArr.ofBytes _ slot, .error e)
      | .ok (buffer, payloadLen) =>
          let slot := slot.take dataHeaderSize ++ buffer
          (ByteArr.ofBytes _ (writeHeader (header payloadLen) slot), .ok payloadLen)

/-- `DataPlane::send_to_peer`. -/
def DataPlane.sendToPeer (A : Aead) (E : Etherparse) (dp : DataPlane) (r : PeerRef)
    (packetType : DataPacketType) (payload : Bytes) (targetOverride : Option SocketAddr)
    (flood : Bool) (net : NetAnswer) : SendOutcome :=
  if payload.length > maxDataplanePayload then
    { plane := dp, encrypted := none, frame := none,
      result := .error (.payloadTooLarge payload.length) }
  else
    match dp.roomId, dp.slab.acquire with
    | none, _ =>
        { plane := dp, encrypted := none, frame := none, result := .error .roomNotAssigned }
    | some _, none =>
        { plane := dp, encrypted := none, frame := none, result := .error .slabExhausted }
    | some room, some (desc, slab) =>
        let cls := classifyPacket E packetType payload
        let desc := { desc with cls, dataOffset := 0, payloadOffset := dataHeaderSize }
        let peer := dp.heap r
        let packetId : PacketId := if flood then ⟨dp.nextPacketId⟩ else ⟨0⟩
        let dp := dp.setPeer r { peer with nextNonce := peer.nextNonce + 1 }
        let dp :=
          { dp with nextPacketId := if flood then dp.nextPacketId + 1 else dp.nextPacketId }
        let header := sendHeader dp.localNodeId peer room packetType flood packetId
        let (slot, filled) := fillSlot A peer.cipher header payload (slab.getSlotSlice desc)
        let slab := slab.setSlot desc slot
        let encrypted := peer.cipher.map fun c => (c.key, peer.nextNonce)
        match filled with
        | .error e =>
            { plane := { dp with slab }, encrypted, frame := none, result := .error (.encrypt e) }
        | .ok payloadLen =>
            let desc := { desc with len := dataHeaderSize + payloadLen }
            let scheduler := dp.scheduler.push cls desc
            let target := targetOverride.getD peer.pathManager.activeAddr
            let frame := some ((slab.getSlotSlice desc).toList.take desc.len, target)
            match net with
            | .failed =>
                { plane := { dp with slab, scheduler }, encrypted, frame,
                  result := .error .sendRaw }
            | _ =>
                { plane := { dp with slab := slab.release desc, scheduler := scheduler.pop.2 }
                  encrypted, frame, result := .ok () }

/-! ## The callers -/

namespace DataPlane

def policyAllows (E : Etherparse) (dp : DataPlane) (mode : FrameMode)
    (direction : TrafficDirection) (packet : Bytes) : Bool :=
  match mode with
  | .l3 => dp.trafficPolicy.allows E direction packet
  | .l2 =>
      match ethernetIpPayload packet with
      | some ip => dp.trafficPolicy.allows E direction ip
      | none => true

/-- The mode and type `run_tun_loop` gives a packet it has read. -/
def classifyTunPacket (E : Etherparse) (dp : DataPlane) (mode : TunDeviceMode) (payload : Bytes) :
    FrameMode × DataPacketType :=
  match mode with
  | .tun => (.l3, (classifyPacketWithConfig E payload dp.discovery).getD .ipv4)
  | .tap => (.l2, .ethernet)

/-- What `run_tun_loop` does with a packet, as `clamp_mss` has left it, up to the calls of
`send_to_peer`: the type and the targets of those calls.  `allowBroadcast` is the rate limiter's
answer. -/
def tunTargets (E : Etherparse) (dp : DataPlane) (now : Instant) (mode : TunDeviceMode)
    (allowBroadcast : Bool) (payload : Bytes) : DataPacketType × List PacketTarget × DataPlane :=
  let (frameMode, packetType) := dp.classifyTunPacket E mode payload
  if !dp.policyAllows E frameMode .outbound payload then (packetType, [], dp)
  else
    let (targets, dp) := dp.selectTargets E now frameMode packetType payload
    if (targets.any fun target => target.flood) ∧ !allowBroadcast then (packetType, [], dp)
    else (packetType, targets, dp)

/-- A pair of packet type and flood flag that `send_to_peer` is called with on a payload of the
sender's own: by `run_tun_loop` on a packet of the device, or by `run_ping_loop`. -/
inductive Producible (E : Etherparse) : DataPacketType → Bool → Prop
  | tun (dp : DataPlane) (now : Instant) (mode : TunDeviceMode) (allowBroadcast : Bool)
      (payload : Bytes) (target : PacketTarget)
      (mem : target ∈ (dp.tunTargets E now mode allowBroadcast payload).2.1) :
      Producible E (dp.tunTargets E now mode allowBroadcast payload).1 target.flood
  | ping : Producible E .ping false

end DataPlane

/-! ## The bytes of a frame -/

lemma writeHeader_eq (h : DataHeader) {slot : Bytes} (hlen : dataHeaderSize ≤ slot.length) :
    writeHeader h slot = h.wire ++ slot.drop dataHeaderSize := by
  have htake : (slot.take dataHeaderSize).length = dataHeaderSize := by
    rw [List.length_take, Nat.min_eq_left hlen]
  simp only [writeHeader, h.encodeInto_eq htake.ge]
  rw [List.drop_of_length_le htake.le, List.append_nil]

/-- `body` is an encryption of `payload` under `key`, with the nonce of `h` and `h` itself as
associated data, followed by its tag. -/
def SealedUnder (A : Aead) (key : Key) (h : DataHeader) (payload body : Bytes) : Prop :=
  ∃ ct tag, A.encryptInPlaceDetached key (nonceBytes h.nonce) h.wire payload = some (ct, tag) ∧
    body = ct ++ tag

/-- A payload of admissible size is always encrypted. -/
lemma exists_sealedUnder {A : Aead} (hA : A.Correct) (key : Key) (h : DataHeader)
    {payload : Bytes} (hlen : payload.length ≤ maxDataplanePayload) :
    ∃ body, SealedUnder A key h payload body := by
  have hmax : maxDataplanePayload / 64 < 2 ^ 32 - 1 := by decide
  have hdiv : payload.length / 64 ≤ maxDataplanePayload / 64 := Nat.div_le_div_right hlen
  obtain ⟨⟨ct, tag⟩, hseal⟩ := Option.isSome_iff_exists.mp
    (hA.seal_isSome key (nonceBytes h.nonce) h.wire payload (by omega))
  exact ⟨ct ++ tag, ct, tag, hseal, rfl⟩

lemma SealedUnder.length {A : Aead} (hA : A.Correct) {key : Key} {h : DataHeader}
    {payload body : Bytes} (hs : SealedUnder A key h payload body) :
    body.length = payload.length + aeadTagLen := by
  obtain ⟨ct, tag, hseal, rfl⟩ := hs
  obtain ⟨hct, htag⟩ := hA.seal_length _ _ _ _ _ _ hseal
  rw [List.length_append, hct, htag]

/-- A slot with the payload copied behind the header. -/
lemma drop_writeAt_slot (payload : Bytes) (slot : ByteArr defaultFrameCap) :
    (writeAt dataHeaderSize payload slot.toList).drop dataHeaderSize =
      payload ++ slot.toList.drop (dataHeaderSize + payload.length) := by
  have hcap : dataHeaderSize ≤ slot.toList.length := by
    rw [List.Vector.toList_length]
    decide
  have hfront : (slot.toList.take dataHeaderSize).length = dataHeaderSize := by
    rw [List.length_take, Nat.min_eq_left hcap]
  rw [writeAt, List.append_assoc, List.drop_append, List.drop_of_length_le hfront.le, hfront,
    Nat.sub_self, List.drop_zero, List.nil_append]

/-- Copying a payload of admissible size keeps the slot's length. -/
lemma length_writeAt_slot {payload : Bytes} (slot : ByteArr defaultFrameCap)
    (hlen : payload.length ≤ maxDataplanePayload) :
    (writeAt dataHeaderSize payload slot.toList).length = defaultFrameCap := by
  have hmax : dataHeaderSize + maxDataplanePayload ≤ defaultFrameCap := by decide
  have hslot : slot.toList.length = defaultFrameCap := slot.toList_length
  rw [Bytes.length_writeAt (by omega), hslot]

/-- The front of a slot after its header has been written. -/
lemma take_writeHeader {slot body rest : Bytes} (h : DataHeader)
    (hslot : slot.length = defaultFrameCap) (hdrop : slot.drop dataHeaderSize = body ++ rest) :
    (ByteArr.ofBytes defaultFrameCap (writeHeader h slot)).toList.take
        (dataHeaderSize + body.length) = h.wire ++ body := by
  have hle : dataHeaderSize ≤ slot.length := by
    rw [hslot]
    decide
  have hlen : (writeHeader h slot).length = defaultFrameCap := by
    rw [writeHeader_eq h hle, List.length_append, h.length_wire, List.length_drop]
    omega
  rw [ByteArr.toList_ofBytes hlen, writeHeader_eq h hle, hdrop, ← List.append_assoc]
  exact List.take_left' (by simp)

/-- Without a cipher the payload follows the header as it is. -/
lemma fillSlot_plain (A : Aead) (header : ℕ → DataHeader) {payload : Bytes}
    (slot : ByteArr defaultFrameCap) (hlen : payload.length ≤ maxDataplanePayload) :
    ∃ slot', fillSlot A none header payload slot = (slot', .ok payload.length) ∧
      slot'.toList.take (dataHeaderSize + payload.length) =
        (header payload.length).wire ++ payload :=
  ⟨_, rfl, take_writeHeader _ (length_writeAt_slot slot hlen) (drop_writeAt_slot payload slot)⟩

/-- With a cipher the payload's encryption and its tag follow the header, and the header with the
announced length is the associated data. -/
lemma fillSlot_sealed {A : Aead} (hA : A.Correct) {c : Cipher} {header : ℕ → DataHeader}
    {payload body : Bytes} (slot : ByteArr defaultFrameCap)
    (hlen : payload.length ≤ maxDataplanePayload)
    (hsealed : SealedUnder A c.key (header (payload.length + aeadTagLen)) payload body) :
    ∃ slot', fillSlot A (some c) header payload slot =
        (slot', .ok (payload.length + aeadTagLen)) ∧
      slot'.toList.take (dataHeaderSize + (payload.length + aeadTagLen)) =
        (header (payload.length + aeadTagLen)).wire ++ body := by
  have hbody := hsealed.length hA
  obtain ⟨ct, tag, hseal, rfl⟩ := hsealed
  set front := (writeAt dataHeaderSize payload slot.toList).take dataHeaderSize with hfront
  have hslot := length_writeAt_slot slot hlen
  have hcap : dataHeaderSize + maxDataplanePayload + aeadTagLen = defaultFrameCap := by decide
  have hfrontlen : front.length = dataHeaderSize := by
    rw [hfront, List.length_take, hslot]
    decide
  set buffer := (writeAt dataHeaderSize payload slot.toList).drop dataHeaderSize with hbuffer
  have hbuf : buffer = payload ++ slot.toList.drop (dataHeaderSize + payload.length) :=
    drop_writeAt_slot payload slot
  have htake : buffer.take payload.length = payload := by
    rw [hbuf]
    exact List.take_left
  have henc : c.encryptInPlace A (header (payload.length + aeadTagLen)).nonce
      (headerAad (header (payload.length + aeadTagLen))) buffer payload.length =
      .ok (ct ++ tag ++ buffer.drop (payload.length + aeadTagLen),
        payload.length + aeadTagLen) := by
    rw [Cipher.encryptInPlace, htake, headerAad_eq, hseal]
  have hbuflen : buffer.length = defaultFrameCap - dataHeaderSize := by
    rw [hbuffer, List.length_drop, hslot]
  refine ⟨ByteArr.ofBytes _ (writeHeader (header (payload.length + aeadTagLen))
    (front ++ (ct ++ tag ++ buffer.drop (payload.length + aeadTagLen)))), ?_, ?_⟩
  · simp only [fillSlot, ← hbuffer, ← hfront, henc]
  · rw [← hbody]
    refine take_writeHeader _ ?_ (List.drop_left' hfrontlen)
    simp only [List.length_append] at hbody
    simp only [List.length_append, hfrontlen, List.length_drop, hbuflen]
    omega

/-! ## One call -/

namespace DataPlane

section Call

variable (A : Aead) (E : Etherparse) (dp : DataPlane) (r : PeerRef) (packetType : DataPacketType)
  (payload : Bytes) (targetOverride : Option SocketAddr) (flood : Bool) (net : NetAnswer)

/-- The packet id a call puts into its header. -/
def drawnPacketId : PacketId := if flood then ⟨dp.nextPacketId⟩ else ⟨0⟩

/-- The header a call builds, by the length it announces. -/
def headerFor (room : RoomId) : ℕ → DataHeader :=
  sendHeader dp.localNodeId (dp.heap r) room packetType flood (dp.drawnPacketId flood)

/-- A call gets as far as drawing a nonce. -/
def CanSend : Prop :=
  payload.length ≤ maxDataplanePayload ∧ dp.roomId.isSome ∧ dp.slab.acquire.isSome

/-- **What a call changes.**  A call that cannot send changes nothing; one that can advances the
nonce counter of its record and leaves every table, and every other record, as it was. -/
lemma sendToPeer_effect :
    let out := dp.sendToPeer A E r packetType payload targetOverride flood net
    (¬ dp.CanSend payload ∧ out.plane = dp ∧ out.encrypted = none ∧ out.frame = none) ∨
    (dp.CanSend payload ∧
      out.plane.heap = Function.update dp.heap r
        { dp.heap r with nextNonce := (dp.heap r).nextNonce + 1 } ∧
      out.encrypted = (dp.heap r).cipher.map (fun c => (c.key, (dp.heap r).nextNonce)) ∧
      out.plane.peers = dp.peers ∧ out.plane.nextRef = dp.nextRef ∧
      out.plane.localNodeId = dp.localNodeId ∧ out.plane.roomId = dp.roomId ∧
      out.plane.tun = dp.tun ∧ out.plane.trafficPolicy = dp.trafficPolicy) := by
  intro out
  simp only [out]
  unfold sendToPeer CanSend
  by_cases hlen : payload.length > maxDataplanePayload
  · simp [hlen]
  · rw [if_neg hlen]
    cases hroom : dp.roomId with
    | none => simp
    | some room =>
        cases hacq : dp.slab.acquire with
        | none => simp
        | some res =>
            obtain ⟨desc, slab⟩ := res
            right
            refine ⟨⟨by omega, rfl, rfl⟩, ?_⟩
            simp only
            generalize fillSlot _ _ _ _ _ = filled
            obtain ⟨slot, result⟩ := filled
            cases result with
            | error e => simp [setPeer, hroom]
            | ok n => cases net <;> simp [setPeer, hroom]

lemma sendToPeer_macTable :
    (dp.sendToPeer A E r packetType payload targetOverride flood net).plane.macTable =
      dp.macTable := by
  unfold sendToPeer
  by_cases hlen : payload.length > maxDataplanePayload
  · rw [if_pos hlen]
  · rw [if_neg hlen]
    cases dp.roomId with
    | none => rfl
    | some room =>
        cases dp.slab.acquire with
        | none => rfl
        | some res =>
            simp only
            generalize fillSlot _ _ _ _ _ = filled
            obtain ⟨slot, result⟩ := filled
            cases result with
            | error e => rfl
            | ok n => cases net <;> rfl

/-- The address a call sends to. -/
def sendTarget : SocketAddr := targetOverride.getD (dp.heap r).pathManager.activeAddr

/-- A call that can send hands the filled slot to the transport, unless encryption fails. -/
lemma sendToPeer_frame_eq {room : RoomId} {desc : PacketDesc planeSlots}
    {slab : PacketSlab defaultFrameCap planeSlots} (hlen : payload.length ≤ maxDataplanePayload)
    (hroom : dp.roomId = some room) (hacq : dp.slab.acquire = some (desc, slab)) :
    (dp.sendToPeer A E r packetType payload targetOverride flood net).frame =
      match fillSlot A (dp.heap r).cipher (dp.headerFor r packetType flood room) payload
          (slab.slots desc.slot) with
      | (slot, .ok n) =>
          some (slot.toList.take (dataHeaderSize + n), dp.sendTarget r targetOverride)
      | (_, .error _) => none := by
  have hfill : fillSlot A (dp.heap r).cipher (dp.headerFor r packetType flood room) payload
      (slab.slots desc.slot) = fillSlot A (dp.heap r).cipher
        (sendHeader dp.localNodeId (dp.heap r) room packetType flood
          (if flood then ⟨dp.nextPacketId⟩ else ⟨0⟩)) payload (slab.slots desc.slot) := rfl
  rw [hfill]
  unfold sendToPeer
  rw [if_neg (by omega), hroom, hacq]
  simp only [setPeer, PacketSlab.getSlotSlice]
  generalize fillSlot _ _ _ _ _ = filled
  obtain ⟨slot, result⟩ := filled
  cases result with
  | error e => rfl
  | ok n => cases net <;> simp [PacketSlab.setSlot, sendTarget]

/-- **What is on the wire.**  Whenever a call can send, it hands the transport a header in wire
form followed by the payload, or, if the peer has a cipher, by the payload's encryption under its
key with that header as associated data. -/
theorem sendToPeer_frame (hA : A.Correct) {room : RoomId} (hroom : dp.roomId = some room)
    (hsend : dp.CanSend payload) :
    match (dp.heap r).cipher with
    | none =>
        (dp.sendToPeer A E r packetType payload targetOverride flood net).frame =
          some ((dp.headerFor r packetType flood room payload.length).wire ++ payload,
            dp.sendTarget r targetOverride)
    | some c =>
        ∃ body, SealedUnder A c.key
            (dp.headerFor r packetType flood room (payload.length + aeadTagLen)) payload body ∧
          (dp.sendToPeer A E r packetType payload targetOverride flood net).frame =
            some ((dp.headerFor r packetType flood room (payload.length + aeadTagLen)).wire ++ body,
              dp.sendTarget r targetOverride) := by
  obtain ⟨hlen, -, hacq⟩ := hsend
  obtain ⟨⟨desc, slab⟩, hacq⟩ := Option.isSome_iff_exists.mp hacq
  rw [dp.sendToPeer_frame_eq A E r packetType payload targetOverride flood net hlen hroom hacq]
  cases hc : (dp.heap r).cipher with
  | none =>
      obtain ⟨slot, hfill, htake⟩ := fillSlot_plain A (dp.headerFor r packetType flood room)
        (slab.slots desc.slot) hlen
      simp only [hfill, htake]
  | some c =>
      obtain ⟨body, hbody⟩ := exists_sealedUnder hA c.key
        (dp.headerFor r packetType flood room (payload.length + aeadTagLen)) hlen
      obtain ⟨slot, hfill, htake⟩ := fillSlot_sealed hA (slab.slots desc.slot) hlen hbody
      refine ⟨body, hbody, ?_⟩
      simp only [hfill, htake]

end Call

end DataPlane

end R2N
