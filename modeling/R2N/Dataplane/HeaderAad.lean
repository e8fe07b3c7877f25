import R2N.Dataplane.Firewall
import R2N.Dataplane.Send

/-!
# What the associated data of a frame covers

The receiver does not authenticate the bytes that arrived: it decodes the header and encodes it
again into a zeroed buffer, and that buffer is the associated data of the decryption.  The two
agree as far as the decoder looks.  Its fields fill the first 147 bytes of the header, and the
last byte is written as zero and never read (`decode_cases`), so it is the one byte of a
header that is on the wire and under no authentication.

* `Reproduces` — encoding a decoded header gives back the bytes it came from.
* **`canonical_iff`** — the associated data identifies the bytes on the wire exactly where the last
  one is zero.
-/

namespace R2N

namespace DataHeader

variable {buf buf' : Bytes} {h h' : DataHeader}

/-! ## Reading and writing back -/

/-- Encoding the header puts the first 148 bytes of `buf` in front of whatever the target holds
behind them. -/
def Reproduces (h : DataHeader) (buf : Bytes) : Prop :=
  ∀ out : Bytes, dataHeaderSize ≤ out.length →
    h.encodeInto out = .ok (buf.take dataHeaderSize ++ out.drop dataHeaderSize)

lemma take_header (hlen : dataHeaderSize ≤ buf.length) :
    buf.take dataHeaderSize = buf.take 147 ++ [buf.getD 147 0] := by
  rw [Bytes.singleton_getD (show 147 < buf.length from hlen), ← Bytes.slice_zero,
    ← Bytes.slice_zero, Bytes.slice_append_slice (by omega) (by omega)]
  rfl

/-- The wire form is what arrived exactly if the byte nothing is read from is zero. -/
lemma wire_eq_take_iff (hdecode : decode buf = .ok h) :
    h.wire = buf.take dataHeaderSize ↔ buf.getD 147 0 = 0 := by
  obtain ⟨hlen, -, hwire⟩ := decode_cases hdecode
  rw [hwire, take_header hlen]
  constructor
  · intro heq
    exact (List.cons.inj (List.append_cancel_left heq)).1.symm
  · intro hzero
    rw [hzero]

lemma reproduces_iff (hdecode : decode buf = .ok h) :
    h.Reproduces buf ↔ buf.getD 147 0 = 0 := by
  rw [← wire_eq_take_iff hdecode]
  constructor
  · intro hall
    have henc := hall (List.replicate dataHeaderSize 0) (by simp)
    rw [encodeInto_header] at henc
    simpa using Except.ok.inj henc
  · intro hwire out hout
    rw [encodeInto_eq h hout, hwire]

/-! ## The associated data -/

/-- **Canonical headers.**  Of two accepted buffers each is reproduced by encoding its header,
each is the associated data its receiver rebuilds, and they authenticate as one header only if
they are one, exactly if the last byte of both headers is zero. -/
theorem canonical_iff (hdecode : decode buf = .ok h) (hdecode' : decode buf' = .ok h') :
    ((h.Reproduces buf ∧ headerAad h = buf.take dataHeaderSize) ∧
      (h'.Reproduces buf' ∧ headerAad h' = buf'.take dataHeaderSize) ∧
      (headerAad h = headerAad h' → buf.take dataHeaderSize = buf'.take dataHeaderSize)) ↔
      buf.getD 147 0 = 0 ∧ buf'.getD 147 0 = 0 := by
  constructor
  · rintro ⟨⟨hrep, -⟩, ⟨hrep', -⟩, -⟩
    exact ⟨(reproduces_iff hdecode).mp hrep, (reproduces_iff hdecode').mp hrep'⟩
  · rintro ⟨hzero, hzero'⟩
    have haad : headerAad h = buf.take dataHeaderSize :=
      (headerAad_eq h).trans ((wire_eq_take_iff hdecode).mpr hzero)
    have haad' : headerAad h' = buf'.take dataHeaderSize :=
      (headerAad_eq h').trans ((wire_eq_take_iff hdecode').mpr hzero')
    refine ⟨⟨(reproduces_iff hdecode).mpr hzero, haad⟩,
      ⟨(reproduces_iff hdecode').mpr hzero', haad'⟩, fun heq => ?_⟩
    rw [← haad, ← haad', heq]

/-- Two keepalives with different nonces. -/
theorem canonical_keepalive :
    (DataPlane.keepaliveHeader.wire.getD 147 0 = 0 ∧
      ({ DataPlane.keepaliveHeader with nonce := 2 } : DataHeader).wire.getD 147 0 = 0) ∧
    (headerAad DataPlane.keepaliveHeader = headerAad { DataPlane.keepaliveHeader with nonce := 2 } →
      DataPlane.keepaliveHeader.wire.take dataHeaderSize =
        ({ DataPlane.keepaliveHeader with nonce := 2 } : DataHeader).wire.take dataHeaderSize) :=
  have hzero : DataPlane.keepaliveHeader.wire.getD 147 0 = 0 ∧
      ({ DataPlane.keepaliveHeader with nonce := 2 } : DataHeader).wire.getD 147 0 = 0 := by
    decide +kernel
  have hdecode := decode_wire DataPlane.keepaliveHeader rfl []
  have hdecode' := decode_wire { DataPlane.keepaliveHeader with nonce := 2 } rfl []
  ⟨hzero, ((canonical_iff (by simpa using hdecode) (by simpa using hdecode')).mpr hzero).2.2⟩

/-- A keepalive whose last header byte was set on the way: it is not reproduced, and it
authenticates as the one that was sent. -/
theorem lastByte_unauthenticated :
    decode (DataPlane.keepaliveHeader.wire.take 147 ++ [1]) = .ok DataPlane.keepaliveHeader ∧
    decode DataPlane.keepaliveHeader.wire = .ok DataPlane.keepaliveHeader ∧
    DataPlane.keepaliveHeader.encodeInto (List.replicate dataHeaderSize 0) ≠
      .ok (DataPlane.keepaliveHeader.wire.take 147 ++ [1]) ∧
    headerAad DataPlane.keepaliveHeader ≠ DataPlane.keepaliveHeader.wire.take 147 ++ [1] := by
  decide +kernel

end DataHeader

end R2N
