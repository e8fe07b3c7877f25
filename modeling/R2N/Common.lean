import Mathlib.Data.Vector.Basic
import Mathlib.Tactic.IntervalCases

/-!
# Identifiers shared by every crate

`r2n-common`: the byte-array newtypes the other crates exchange.  A Rust `[u8; n]` is
`List.Vector UInt8 n`, so a value of the wrong length cannot be built.
-/

namespace R2N

/-- `Vec<u8>` and `&[u8]`. -/
abbrev Bytes := List UInt8

/-- `[u8; n]`. -/
abbrev ByteArr (n : ℕ) := List.Vector UInt8 n

/-- `[b; n]`, the array literal that repeats one byte. -/
def ByteArr.fill (n : ℕ) (b : UInt8) : ByteArr n := List.Vector.replicate n b

/-- `<[u8; n]>::try_from` of a slice.  Its callers pass slices of length `n`; the zero padding
only makes the function total. -/
def ByteArr.ofBytes (n : ℕ) (l : Bytes) : ByteArr n := List.Vector.ofFn fun i => l.getD i 0

@[simp] lemma ByteArr.ofBytes_toList {n : ℕ} (a : ByteArr n) : ByteArr.ofBytes n a.toList = a := by
  obtain ⟨l, hl⟩ := a
  apply List.Vector.ext
  intro i
  have hi : (i : ℕ) < l.length := by omega
  rw [ByteArr.ofBytes, List.Vector.get_ofFn]
  show l.getD i 0 = l.get (Fin.cast hl.symm i)
  simp [hi]

lemma ByteArr.toList_ofBytes {n : ℕ} {l : Bytes} (h : l.length = n) :
    (ByteArr.ofBytes n l).toList = l := by
  subst h
  exact congrArg List.Vector.toList (ByteArr.ofBytes_toList ⟨l, rfl⟩)

/-- A node's identifier, "typically hash(public_key)". -/
structure NodeId where
  bytes : ByteArr 32
deriving DecidableEq

/-- A room's identifier. -/
structure RoomId where
  bytes : ByteArr 16
deriving DecidableEq

/-- A temporary session identifier. -/
structure SessionId where
  val : UInt64
deriving DecidableEq

/-- A monotonic counter for packets. -/
structure PacketId where
  val : UInt64
deriving DecidableEq

/-- An IPv4 address of the virtual network, as its four octets. -/
structure VirtualIp where
  octets : ByteArr 4
deriving DecidableEq

/-- A 32-byte secret or public key. -/
abbrev Key := ByteArr 32

/-- `std::net::IpAddr`. -/
inductive IpAddr where
  | v4 (octets : ByteArr 4)
  | v6 (octets : ByteArr 16)
deriving DecidableEq

/-- `std::net::SocketAddr`. -/
structure SocketAddr where
  ip : IpAddr
  port : UInt16
deriving DecidableEq

/-- `NodeId([b; 32])`. -/
def NodeId.fill (b : UInt8) : NodeId := ⟨ByteArr.fill 32 b⟩

/-- `RoomId([b; 16])`. -/
def RoomId.fill (b : UInt8) : RoomId := ⟨ByteArr.fill 16 b⟩

/-- `127.0.0.1:port`. -/
def SocketAddr.localhost (port : UInt16) : SocketAddr :=
  { ip := .v4 ⟨[127, 0, 0, 1], rfl⟩, port }

/-! ## Bytes as text -/

/-- Third-party code: `hex`.  What is written can be read, and nothing is written for no bytes. -/
structure HexCodec where
  encode : Bytes → String
  decode : String → Option Bytes
  encode_nil : encode [] = ""
  decode_encode : ∀ l, decode (encode l) = some l

lemma HexCodec.encode_injective (H : HexCodec) : Function.Injective H.encode := by
  intro l l' h
  have hdecode := congrArg H.decode h
  rw [H.decode_encode, H.decode_encode] at hdecode
  exact Option.some.inj hdecode

lemma HexCodec.encode_ne_empty (H : HexCodec) {l : Bytes} (hl : l ≠ []) : H.encode l ≠ "" :=
  fun h => hl (H.encode_injective (h.trans H.encode_nil.symm))

/-- A digit of `{:x}`. -/
def hexDigit (n : ℕ) : Char := if n < 10 then Char.ofNat (48 + n) else Char.ofNat (87 + n)

/-- Every byte as with `{:02x}`. -/
def lowerHex (l : Bytes) : String :=
  String.ofList (l.flatMap fun b => [hexDigit (b.toNat / 16), hexDigit (b.toNat % 16)])

/-- The value of a digit. -/
def hexValue (c : Char) : Option ℕ :=
  if '0' ≤ c ∧ c ≤ '9' then some (c.toNat - 48)
  else if 'a' ≤ c ∧ c ≤ 'f' then some (c.toNat - 87)
  else none

def hexBytes : List Char → Option Bytes
  | [] => some []
  | [_] => none
  | high :: low :: rest => do
      let high ← hexValue high
      let low ← hexValue low
      let bytes ← hexBytes rest
      pure (UInt8.ofNat (16 * high + low) :: bytes)

lemma hexValue_hexDigit {n : ℕ} (h : n < 16) : hexValue (hexDigit n) = some n := by
  interval_cases n <;> rfl

/-- The bytes are read back from their digits. -/
lemma hexBytes_lowerHex (l : Bytes) : hexBytes (lowerHex l).toList = some l := by
  rw [lowerHex, String.toList_ofList]
  induction l with
  | nil => rfl
  | cons b l ih =>
      have hhigh : b.toNat / 16 < 16 := by
        have hlt := b.toNat_lt
        omega
      have hlow : b.toNat % 16 < 16 := Nat.mod_lt _ (by omega)
      have hbyte : UInt8.ofNat (16 * (b.toNat / 16) + b.toNat % 16) = b := by
        rw [Nat.div_add_mod, UInt8.ofNat_toNat]
      simp only [List.flatMap_cons, List.cons_append, List.nil_append, hexBytes,
        hexValue_hexDigit hhigh, hexValue_hexDigit hlow, ih, Option.bind_eq_bind, Option.bind_some,
        hbyte]
      rfl

/-- Two digits for a byte, for runs that are evaluated. -/
def HexCodec.lower : HexCodec where
  encode := lowerHex
  decode := fun s => hexBytes s.toList
  encode_nil := rfl
  decode_encode := hexBytes_lowerHex

inductive NatType where
  | openNat
  | cone
  | symmetric
  | unknown
deriving DecidableEq

end R2N
