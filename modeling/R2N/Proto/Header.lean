import R2N.Lib.Bytes
import R2N.Common

/-!
# The data frame header

`r2n-proto`'s `DataHeader` and its 148-byte codec.  `encodeInto` and `decode` are written as the
source writes them, field by field at literal offsets; `wire` is the same layout as one
concatenation, and `encodeInto_eq` says the two agree.

* **`decode_wire`** — decoding the wire form of a header of the current version gives the header
  back, whatever follows it in the datagram.
* **`decode_cases`** — what is accepted is the wire form of the header that is read, but for its
  last byte.
-/

namespace R2N

open Bytes (writeAt slice beBytes ofBe)

/-! ## Constants -/

def protocolVersion : UInt8 := 2

/-- `*b"R2NC"`. -/
def controlMagic : Bytes := [0x52, 0x32, 0x4e, 0x43]

/-- `*b"R2ND"`. -/
def dataMagic : Bytes := [0x52, 0x32, 0x4e, 0x44]

def dataHeaderSize : ℕ := 148

/-! ## Packet types -/

inductive DataPacketType where
  | ipv4
  | ipv6
  | broadcast
  | multicast
  | discovery
  | keepalive
  | ping
  | pong
  | ethernet
deriving DecidableEq

namespace DataPacketType

def asU8 : DataPacketType → UInt8
  | ipv4 => 0
  | ipv6 => 1
  | broadcast => 2
  | multicast => 3
  | discovery => 4
  | keepalive => 5
  | ping => 6
  | pong => 7
  | ethernet => 8

def fromU8 (value : UInt8) : Option DataPacketType :=
  if value = 0 then some ipv4
  else if value = 1 then some ipv6
  else if value = 2 then some broadcast
  else if value = 3 then some multicast
  else if value = 4 then some discovery
  else if value = 5 then some keepalive
  else if value = 6 then some ping
  else if value = 7 then some pong
  else if value = 8 then some ethernet
  else none

@[simp] lemma fromU8_asU8 (t : DataPacketType) : fromU8 t.asU8 = some t := by
  cases t <;> rfl

lemma asU8_of_fromU8 {value : UInt8} {t : DataPacketType} (h : fromU8 value = some t) :
    t.asU8 = value := by
  unfold fromU8 at h
  split_ifs at h with h0 h1 h2 h3 h4 h5 h6 h7 h8 <;> obtain rfl := Option.some.inj h <;>
    exact Eq.symm (by assumption)

end DataPacketType

/-! ## The header -/

structure DataHeader where
  version : UInt8
  flags : UInt8
  packetType : DataPacketType
  reserved : UInt8
  ttl : UInt8
  roomId : RoomId
  srcNode : NodeId
  dstNode : NodeId
  originNode : NodeId
  sessionId : SessionId
  nonce : UInt64
  packetId : PacketId
  payloadLen : UInt16
deriving DecidableEq

inductive DataHeaderError where
  | bufferTooShort
  | invalidMagic
  | invalidPacketType
  | unsupportedVersion
  | invalidPayloadLength
deriving DecidableEq

namespace DataHeader

/-- `DataHeader::encode_into`: the buffer afterwards. -/
def encodeInto (h : DataHeader) (buf : Bytes) : Except DataHeaderError Bytes :=
  if buf.length < dataHeaderSize then .error .bufferTooShort
  else
    let buf := writeAt 0 dataMagic buf
    let buf := writeAt 4 [h.version] buf
    let buf := writeAt 5 [h.flags] buf
    let buf := writeAt 6 [h.packetType.asU8] buf
    let buf := writeAt 7 [h.ttl] buf
    let buf := writeAt 8 h.roomId.bytes.toList buf
    let buf := writeAt 24 h.srcNode.bytes.toList buf
    let buf := writeAt 56 h.dstNode.bytes.toList buf
    let buf := writeAt 88 h.originNode.bytes.toList buf
    let buf := writeAt 120 (beBytes 8 h.sessionId.val.toNat) buf
    let buf := writeAt 128 (beBytes 8 h.nonce.toNat) buf
    let buf := writeAt 136 (beBytes 8 h.packetId.val.toNat) buf
    let buf := writeAt 144 (beBytes 2 h.payloadLen.toNat) buf
    let buf := writeAt 146 [h.reserved] buf
    .ok (writeAt 147 [0] buf)

/-- `DataHeader::decode`. -/
def decode (buf : Bytes) : Except DataHeaderError DataHeader :=
  if buf.length < dataHeaderSize then .error .bufferTooShort
  else if slice 0 4 buf ≠ dataMagic then .error .invalidMagic
  else if buf.getD 4 0 ≠ protocolVersion then .error .unsupportedVersion
  else
    match DataPacketType.fromU8 (buf.getD 6 0) with
    | none => .error .invalidPacketType
    | some packetType =>
        .ok
          { version := buf.getD 4 0
            flags := buf.getD 5 0
            packetType
            reserved := buf.getD 146 0
            ttl := buf.getD 7 0
            roomId := ⟨ByteArr.ofBytes 16 (slice 8 24 buf)⟩
            srcNode := ⟨ByteArr.ofBytes 32 (slice 24 56 buf)⟩
            dstNode := ⟨ByteArr.ofBytes 32 (slice 56 88 buf)⟩
            originNode := ⟨ByteArr.ofBytes 32 (slice 88 120 buf)⟩
            sessionId := ⟨UInt64.ofNat (ofBe (slice 120 128 buf))⟩
            nonce := UInt64.ofNat (ofBe (slice 128 136 buf))
            packetId := ⟨UInt64.ofNat (ofBe (slice 136 144 buf))⟩
            payloadLen := UInt16.ofNat (ofBe (slice 144 146 buf)) }

/-- The bounds of `DataHeader::payload_range`. -/
def payloadRange (h : DataHeader) : ℕ × ℕ :=
  (dataHeaderSize, dataHeaderSize + h.payloadLen.toNat)

/-- `DataHeader::frame_len`. -/
def frameLen (h : DataHeader) : ℕ := dataHeaderSize + h.payloadLen.toNat

/-- The header as it stands on the wire. -/
def wire (h : DataHeader) : Bytes :=
  dataMagic ++ ([h.version] ++ ([h.flags] ++ ([h.packetType.asU8] ++ ([h.ttl] ++
    (h.roomId.bytes.toList ++ (h.srcNode.bytes.toList ++ (h.dstNode.bytes.toList ++
      (h.originNode.bytes.toList ++ (beBytes 8 h.sessionId.val.toNat ++
        (beBytes 8 h.nonce.toNat ++ (beBytes 8 h.packetId.val.toNat ++
          (beBytes 2 h.payloadLen.toNat ++ ([h.reserved] ++ [0])))))))))))))

@[simp] lemma length_wire (h : DataHeader) : h.wire.length = dataHeaderSize := by
  simp [wire, dataMagic, dataHeaderSize]

/-- **The codec writes the layout**: encoding overwrites the first 148 bytes with the wire form
and nothing else. -/
theorem encodeInto_eq (h : DataHeader) {buf : Bytes} (hbuf : dataHeaderSize ≤ buf.length) :
    h.encodeInto buf = .ok (h.wire ++ buf.drop dataHeaderSize) := by
  have hshort : ¬ buf.length < dataHeaderSize := by omega
  rw [encodeInto, if_neg hshort]
  refine congrArg Except.ok ?_
  -- each write lands right behind the fields already written
  simp (disch := simp [dataMagic]) only [Bytes.writeAt_zero, Bytes.writeAt_append]
  simp [wire, dataMagic, dataHeaderSize, List.drop_drop]

/-- Encoding into a buffer of exactly the header's size, as the AAD is built. -/
lemma encodeInto_header (h : DataHeader) :
    h.encodeInto (List.replicate dataHeaderSize 0) = .ok h.wire := by
  rw [encodeInto_eq h (by simp)]
  simp

lemma ofNat_ofBe_beBytes64 (n : UInt64) : UInt64.ofNat (ofBe (beBytes 8 n.toNat)) = n := by
  rw [Bytes.ofBe_beBytes, Nat.mod_eq_of_lt (by have := n.toNat_lt; omega)]
  simp

lemma ofNat_ofBe_beBytes16 (n : UInt16) : UInt16.ofNat (ofBe (beBytes 2 n.toNat)) = n := by
  rw [Bytes.ofBe_beBytes, Nat.mod_eq_of_lt (by have := n.toNat_lt; omega)]
  simp

/-- Where each multi-byte field is read. -/
lemma slice_wire (h : DataHeader) (rest : Bytes) :
    slice 0 4 (h.wire ++ rest) = dataMagic ∧
    slice 8 24 (h.wire ++ rest) = h.roomId.bytes.toList ∧
    slice 24 56 (h.wire ++ rest) = h.srcNode.bytes.toList ∧
    slice 56 88 (h.wire ++ rest) = h.dstNode.bytes.toList ∧
    slice 88 120 (h.wire ++ rest) = h.originNode.bytes.toList ∧
    slice 120 128 (h.wire ++ rest) = beBytes 8 h.sessionId.val.toNat ∧
    slice 128 136 (h.wire ++ rest) = beBytes 8 h.nonce.toNat ∧
    slice 136 144 (h.wire ++ rest) = beBytes 8 h.packetId.val.toNat ∧
    slice 144 146 (h.wire ++ rest) = beBytes 2 h.payloadLen.toNat := by
  have hmagic : dataMagic.length = 4 := rfl
  simp (disch := simp [hmagic]) only [wire, List.append_assoc, Bytes.slice_append_of_le,
    Bytes.slice_zero_append, List.length_cons, List.length_nil, List.Vector.toList_length,
    Bytes.length_beBytes, hmagic, Nat.reduceSub, Nat.reduceAdd, and_self]

/-- **Round trip.**  A header of the current version is read back from its wire form. -/
theorem decode_wire (h : DataHeader) (hv : h.version = protocolVersion) (rest : Bytes) :
    decode (h.wire ++ rest) = .ok h := by
  have hlen : ¬ (h.wire ++ rest).length < dataHeaderSize := by simp
  have h4 : (h.wire ++ rest).getD 4 0 = h.version := rfl
  have h5 : (h.wire ++ rest).getD 5 0 = h.flags := rfl
  have h6 : (h.wire ++ rest).getD 6 0 = h.packetType.asU8 := rfl
  have h7 : (h.wire ++ rest).getD 7 0 = h.ttl := rfl
  have h146 : (h.wire ++ rest).getD 146 0 = h.reserved := by
    simp [wire, dataMagic, List.getElem?_append]
  obtain ⟨hmagic, hroom, hsrc, hdst, horigin, hsession, hnonce, hpacket, hplen⟩ :=
    h.slice_wire rest
  rw [decode, if_neg hlen, if_neg (not_not.mpr hmagic), h4, if_neg (not_not.mpr hv), h6,
    DataPacketType.fromU8_asU8]
  simp only [h5, h7, h146, hroom, hsrc, hdst, horigin, hsession, hnonce, hpacket, hplen,
    ByteArr.ofBytes_toList, ofNat_ofBe_beBytes64, ofNat_ofBe_beBytes16]

lemma beBytes64_ofBe {l : Bytes} (h : l.length = 8) :
    beBytes 8 (UInt64.ofNat (ofBe l)).toNat = l := by
  have hlt := Bytes.ofBe_lt l
  rw [h] at hlt
  rw [UInt64.toNat_ofNat_of_lt' (by omega), ← h, Bytes.beBytes_ofBe]

lemma beBytes16_ofBe {l : Bytes} (h : l.length = 2) :
    beBytes 2 (UInt16.ofNat (ofBe l)).toNat = l := by
  have hlt := Bytes.ofBe_lt l
  rw [h] at hlt
  rw [UInt16.toNat_ofNat_of_lt' (by omega), ← h, Bytes.beBytes_ofBe]

/-- **Inversion.**  What was accepted is long enough and of the current version, and the wire form
of the header that was read is what stood there, but for the last byte, which is not looked at. -/
theorem decode_cases {buf : Bytes} {h : DataHeader} (hdecode : decode buf = .ok h) :
    dataHeaderSize ≤ buf.length ∧ h.version = protocolVersion ∧
      h.wire = buf.take 147 ++ [0] := by
  unfold decode at hdecode
  split_ifs at hdecode with hshort hmagic hversion
  have hlen : 148 ≤ buf.length := Nat.not_lt.mp hshort
  cases htype : DataPacketType.fromU8 (buf.getD 6 0) with
  | none => rw [htype] at hdecode; cases hdecode
  | some t =>
      rw [htype] at hdecode
      obtain rfl := Except.ok.inj hdecode
      refine ⟨hlen, not_not.mp hversion, ?_⟩
      have hslice : ∀ a b, b ≤ 148 → (slice a b buf).length = b - a := fun a b hb =>
        Bytes.length_slice (hb.trans hlen)
      have hbyte : ∀ i < 148, [buf.getD i 0] = slice i (i + 1) buf := fun i hi =>
        Bytes.singleton_getD (hi.trans_le hlen) 0
      simp only [wire, ← not_not.mp hmagic, DataPacketType.asU8_of_fromU8 htype,
        ByteArr.toList_ofBytes (hslice 8 24 (by omega)),
        ByteArr.toList_ofBytes (hslice 24 56 (by omega)),
        ByteArr.toList_ofBytes (hslice 56 88 (by omega)),
        ByteArr.toList_ofBytes (hslice 88 120 (by omega)),
        beBytes64_ofBe (hslice 120 128 (by omega)), beBytes64_ofBe (hslice 128 136 (by omega)),
        beBytes64_ofBe (hslice 136 144 (by omega)), beBytes16_ofBe (hslice 144 146 (by omega)),
        hbyte 4 (by omega), hbyte 5 (by omega), hbyte 6 (by omega), hbyte 7 (by omega),
        hbyte 146 (by omega)]
      -- the fields follow one another
      simp only [← List.append_assoc]
      simp (disch := omega) only [Bytes.slice_append_slice, Nat.reduceAdd]
      rw [Bytes.slice_zero]

end DataHeader

end R2N
