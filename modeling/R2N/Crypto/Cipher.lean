import R2N.Lib.Bytes
import R2N.Common

/-!
# The dataplane cipher and its replay window

`r2n-crypto`'s `Cipher`: ChaCha20-Poly1305 under one key, with a 64-packet sliding window that
the decrypting side consults before the AEAD check and advances after it.

The AEAD itself is third-party and enters as `Aead`, a pair of functions; `Aead.Correct` is what
its documentation promises about them.  `u64` arithmetic is `UInt64`, whose shifts take the
amount modulo 64 exactly as Rust's do in a release build.
-/

namespace R2N

inductive CryptoError where
  | snow
  | aead
deriving DecidableEq

/-! ## The AEAD -/

/-- `ChaCha20Poly1305` behind its detached in-place interface: key, 12-byte nonce, associated
data and buffer, giving the ciphertext with its tag, or the plaintext. -/
structure Aead where
  encryptInPlaceDetached : Key → Bytes → Bytes → Bytes → Option (Bytes × Bytes)
  decryptInPlaceDetached : Key → Bytes → Bytes → Bytes → Bytes → Option Bytes

/-- `AEAD_TAG_LEN`. -/
def aeadTagLen : ℕ := 16

/-- What the AEAD's documentation promises: sealing fails only on a message of `2^32 - 1` blocks
of 64 bytes or more, keeps the length, gives a 16-byte tag, and opening inverts it for equal key,
nonce and associated data. -/
structure Aead.Correct (A : Aead) : Prop where
  seal_isSome : ∀ k n aad p, p.length / 64 < 2 ^ 32 - 1 →
    (A.encryptInPlaceDetached k n aad p).isSome
  seal_length : ∀ k n aad p c t, A.encryptInPlaceDetached k n aad p = some (c, t) →
    c.length = p.length ∧ t.length = aeadTagLen
  open_seal : ∀ k n aad p c t, A.encryptInPlaceDetached k n aad p = some (c, t) →
    A.decryptInPlaceDetached k n aad c t = some p

/-- An AEAD that encrypts nothing: the ciphertext is the plaintext and the tag is 16 zero bytes.
It has every property `Aead.Correct` asks for, so concrete runs can be evaluated with it. -/
def Aead.transparent : Aead where
  encryptInPlaceDetached := fun _ _ _ p => some (p, List.replicate aeadTagLen 0)
  decryptInPlaceDetached := fun _ _ _ c t =>
    if t = List.replicate aeadTagLen 0 then some c else none

lemma Aead.transparent_correct : Aead.transparent.Correct where
  seal_isSome := fun _ _ _ _ _ => rfl
  seal_length := by
    intro k n aad p c t h
    obtain ⟨rfl, rfl⟩ : p = c ∧ List.replicate aeadTagLen 0 = t := by
      simpa [Aead.transparent] using h
    simp
  open_seal := by
    intro k n aad p c t h
    obtain ⟨rfl, rfl⟩ : p = c ∧ List.replicate aeadTagLen 0 = t := by
      simpa [Aead.transparent] using h
    simp [Aead.transparent]

/-- The 12-byte AEAD nonce: four zero bytes, then the counter in network order. -/
def nonceBytes (nonce : UInt64) : Bytes := [0, 0, 0, 0] ++ Bytes.beBytes 8 nonce.toNat

/-! ## The replay window -/

structure ReplayWindow where
  lastNonce : UInt64
  bitmap : UInt64
deriving DecidableEq

/-- The window part of `Cipher::new`. -/
def ReplayWindow.new : ReplayWindow := { lastNonce := 0, bitmap := 0 }

/-- `Cipher::check_replay_window`. -/
def ReplayWindow.check (win : ReplayWindow) (nonce : UInt64) : Except CryptoError Unit :=
  if nonce ≤ win.lastNonce then
    let diff := win.lastNonce - nonce
    if diff ≥ 64 ∨ (win.bitmap &&& (1 <<< diff)) ≠ 0 then .error .aead else .ok ()
  else .ok ()

/-- `Cipher::advance_replay_window`. -/
def ReplayWindow.advance (win : ReplayWindow) (nonce : UInt64) : ReplayWindow :=
  if nonce > win.lastNonce then
    let shift := min (nonce - win.lastNonce) 64
    { lastNonce := nonce, bitmap := (win.bitmap <<< shift) ||| 1 }
  else
    let diff := win.lastNonce - nonce
    { win with bitmap := win.bitmap ||| (1 <<< diff) }

/-- The amounts of the shifts `check` performs; the `||` of the source short-circuits, so a
distance of 64 or more is never shifted by. -/
def ReplayWindow.checkShifts (win : ReplayWindow) (nonce : UInt64) : List UInt64 :=
  if nonce ≤ win.lastNonce then
    let diff := win.lastNonce - nonce
    if diff ≥ 64 then [] else [diff]
  else []

/-- The amounts of the shifts `advance` performs. -/
def ReplayWindow.advanceShifts (win : ReplayWindow) (nonce : UInt64) : List UInt64 :=
  if nonce > win.lastNonce then [min (nonce - win.lastNonce) 64] else [win.lastNonce - nonce]

/-! ## The cipher -/

/-- `Cipher`: the key inside the AEAD object and the mutex-guarded window. -/
structure Cipher where
  key : Key
  window : ReplayWindow
deriving DecidableEq

def Cipher.new (key : Key) : Cipher := { key, window := .new }

/-- `Cipher::encrypt_in_place` on a buffer whose first `payloadLen` bytes are the payload: the
buffer afterwards and the length of payload and tag. -/
def Cipher.encryptInPlace (A : Aead) (c : Cipher) (nonce : UInt64) (aad buffer : Bytes)
    (payloadLen : ℕ) : Except CryptoError (Bytes × ℕ) :=
  match A.encryptInPlaceDetached c.key (nonceBytes nonce) aad (buffer.take payloadLen) with
  | none => .error .aead
  | some (ciphertext, tag) =>
      .ok (ciphertext ++ tag ++ buffer.drop (payloadLen + aeadTagLen), payloadLen + aeadTagLen)

/-- `Aead::decrypt` of the crate: no associated data, the tag at the end of the ciphertext. -/
def Aead.decrypt (A : Aead) (key : Key) (nonce ciphertext : Bytes) : Option Bytes :=
  if ciphertext.length < aeadTagLen then none
  else
    let len := ciphertext.length - aeadTagLen
    A.decryptInPlaceDetached key nonce [] (ciphertext.take len) (ciphertext.drop len)

/-- `Cipher::decrypt`: the plaintext, and the cipher with its window advanced. -/
def Cipher.decrypt (A : Aead) (c : Cipher) (nonce : UInt64) (ciphertext : Bytes) :
    Except CryptoError Bytes × Cipher :=
  match c.window.check nonce with
  | .error e => (.error e, c)
  | .ok () =>
      match A.decrypt c.key (nonceBytes nonce) ciphertext with
      | none => (.error .aead, c)
      | some decrypted => (.ok decrypted, { c with window := c.window.advance nonce })

/-- `Cipher::decrypt_in_place`: the decrypted bytes (the first `payload_len` bytes of the
buffer), and the cipher with its window advanced. -/
def Cipher.decryptInPlace (A : Aead) (c : Cipher) (nonce : UInt64) (aad buffer : Bytes) :
    Except CryptoError Bytes × Cipher :=
  match c.window.check nonce with
  | .error e => (.error e, c)
  | .ok () =>
      if buffer.length < aeadTagLen then (.error .aead, c)
      else
        let payloadLen := buffer.length - aeadTagLen
        match A.decryptInPlaceDetached c.key (nonceBytes nonce) aad (buffer.take payloadLen)
            (buffer.drop payloadLen) with
        | none => (.error .aead, c)
        | some payload => (.ok payload, { c with window := c.window.advance nonce })

end R2N
