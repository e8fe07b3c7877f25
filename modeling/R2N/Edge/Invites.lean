import R2N.AddressPool
import R2N.Edge.Registration
import R2N.Lib.Base64
import R2N.Lib.Postcard

/-!
# Signed invites

A supernode signs an invite over its serialised form and hands it out as a text.  The edge that
created the room passes the text on only after `normalize_invite_code`, which replaces the address
of a supernode that is bound to the unspecified address by the one the edge reaches it at: two of
the fields the signature covers.

* `InviteData.sign`, `verify`, `encode`, `decode` — `r2n-common`'s invites, over postcard, base64
  and Ed25519 as `InviteFormat` and `Ed25519`.
* `decode_encode` — a text is read back.
* **`normalized_invite_valid_iff`** — what is handed on still verifies exactly if the two fields are
  left as they were.
* **`normalized_invite_forged`** — an invite of a supernode bound to `0.0.0.0:7777` does not.
-/

namespace R2N

/-- Third-party code: `ed25519_dalek`. -/
structure Ed25519 where
  sign : Key → Bytes → ByteArr 64
  verify : Key → Bytes → ByteArr 64 → Bool

/-- A signature verifies for one message only. -/
def Ed25519.VerifiesOnlySigned (E : Ed25519) (pubKey : Key) : Prop :=
  ∀ sig bytes bytes', E.verify pubKey bytes sig = true → E.verify pubKey bytes' sig = true →
    bytes = bytes'

/-- Third-party code: postcard's form of an invite, and base64. -/
structure InviteFormat where
  toStdvec : InviteData → Bytes
  fromBytes : Bytes → Option InviteData
  base64Encode : Bytes → String
  base64Decode : String → Option Bytes

/-- Decoding inverts encoding. -/
structure InviteFormat.Lawful (F : InviteFormat) : Prop where
  fromBytes_toStdvec : ∀ invite, F.fromBytes (F.toStdvec invite) = some invite
  base64Decode_encode : ∀ bytes, F.base64Decode (F.base64Encode bytes) = some bytes

namespace InviteData

variable (F : InviteFormat) (E : Ed25519)

/-- What the signature covers. -/
def unsigned (invite : InviteData) : InviteData := { invite with signature := none }

def sign (key : Key) (invite : InviteData) : InviteData :=
  { invite with signature := some (E.sign key (F.toStdvec invite.unsigned)).toList }

def verify (pubKey : Key) (invite : InviteData) : Bool :=
  match invite.signature with
  | none => false
  | some sigBytes =>
      -- `Signature::from_slice` takes 64 bytes
      if sigBytes.length = 64 then
        E.verify pubKey (F.toStdvec invite.unsigned) (.ofBytes 64 sigBytes)
      else false

def encode (invite : InviteData) : String := F.base64Encode (F.toStdvec invite)

def decode (s : String) : Option InviteData := (F.base64Decode s).bind F.fromBytes

end InviteData

/-- The encoding of invites the edge uses, next to how it reads and prints socket addresses. -/
def InviteFormat.codec (F : InviteFormat) (parseAddr : String → Option SocketAddr)
    (showAddr : SocketAddr → String) : InviteCodec where
  decode := InviteData.decode F
  encode := InviteData.encode F
  parseAddr := parseAddr
  showAddr := showAddr

/-- What a supernode with the signing key `key` answers a created room with. -/
def InviteFormat.inviteCode (F : InviteFormat) (E : Ed25519) (key : Key) (invite : InviteData) :
    String :=
  (invite.sign F E key).encode F

/-! ## Signing and reading back -/

section

variable {F : InviteFormat} {E : Ed25519} {pubKey : Key}

lemma InviteFormat.Lawful.toStdvec_inj (hF : F.Lawful) {a b : InviteData} :
    F.toStdvec a = F.toStdvec b ↔ a = b := by
  constructor
  · intro h
    have ha := hF.fromBytes_toStdvec a
    rw [h, hF.fromBytes_toStdvec] at ha
    exact (Option.some.inj ha).symm
  · exact congrArg F.toStdvec

lemma InviteData.decode_encode (hF : F.Lawful) (invite : InviteData) :
    decode F (invite.encode F) = some invite := by
  rw [decode, encode, hF.base64Decode_encode]
  exact hF.fromBytes_toStdvec invite

/-- A signature that verifies still does after a change of other fields exactly if there was no
change. -/
lemma InviteData.verify_iff_eq (hF : F.Lawful) (hE : E.VerifiesOnlySigned pubKey)
    {invite invite' : InviteData} (hverify : invite.verify F E pubKey = true)
    (hsig : invite'.signature = invite.signature) :
    invite'.verify F E pubKey = true ↔ invite' = invite := by
  constructor
  · intro hverify'
    cases hs : invite.signature with
    | none => simp [verify, hs] at hverify
    | some sigBytes =>
        rw [hs] at hsig
        simp only [verify, hs] at hverify
        simp only [verify, hsig] at hverify'
        split_ifs at hverify hverify'
        have hunsigned : invite'.unsigned = invite.unsigned :=
          hF.toStdvec_inj.mp (hE _ _ _ hverify' hverify)
        cases invite
        cases invite'
        simp only [unsigned, mk.injEq] at hunsigned hs hsig ⊢
        simp only [hunsigned, hs, hsig, and_self]
  · rintro rfl
    exact hverify

end

/-! ## Normalising -/

section

variable {F : InviteFormat} {E : Ed25519} {pubKey : Key} {parseAddr : String → Option SocketAddr}
  {showAddr : SocketAddr → String}

/-- The invite with the address `addr` in it. -/
def InviteData.withAddr (invite : InviteData) (addr : String) : InviteData :=
  { invite with primarySupernode := addr, supernodeAddr := addr }

lemma InviteData.withAddr_eq_self_iff (invite : InviteData) (addr : String) :
    invite.withAddr addr = invite ↔
      invite.primarySupernode = addr ∧ invite.supernodeAddr = addr := by
  cases invite
  simp [withAddr, eq_comm]

/-- The address an invite is given, if the one in it can be read. -/
def resolvedAddr (parsed fallback : SocketAddr) : SocketAddr :=
  if parsed.ip.isUnspecified then
    { ip := fallback.ip, port := if parsed.port = 0 then fallback.port else parsed.port }
  else parsed

lemma decode_normalizeInviteCode (hF : F.Lawful) {inviteCode : String} {invite : InviteData}
    (hdecode : InviteData.decode F inviteCode = some invite) (fallback : SocketAddr) :
    InviteData.decode F (normalizeInviteCode (F.codec parseAddr showAddr) inviteCode fallback) =
      some (match parseAddr invite.primarySupernodeAddr with
        | none => invite
        | some parsed => invite.withAddr (showAddr (resolvedAddr parsed fallback))) := by
  have hcodec : (F.codec parseAddr showAddr).decode inviteCode = some invite := hdecode
  have hparse : (F.codec parseAddr showAddr).parseAddr = parseAddr := rfl
  cases hp : parseAddr invite.primarySupernodeAddr with
  | none => simp [normalizeInviteCode, hcodec, resolveSupernodeAddr, hparse, hp, hdecode]
  | some parsed =>
      simp only [normalizeInviteCode, hcodec, resolveSupernodeAddr, hparse, hp, Option.map_some]
      exact InviteData.decode_encode hF _

/-- The address stays: it is not the unspecified one, or it is replaced by itself. -/
lemma resolvedAddr_eq_self_iff (parsed fallback : SocketAddr) :
    resolvedAddr parsed fallback = parsed ↔
      (parsed.ip.isUnspecified = true →
        fallback.ip = parsed.ip ∧ (parsed.port = 0 → fallback.port = 0)) := by
  obtain ⟨ip, port⟩ := parsed
  by_cases hip : ip.isUnspecified = true
  · by_cases hport : port = 0
    · simp [resolvedAddr, hip, hport]
    · simp [resolvedAddr, hip, hport]
  · simp [resolvedAddr, hip]

/-- An invite both of whose addresses are the printed form of the one it is given. -/
lemma withAddr_resolved_iff (hround : ∀ addr, parseAddr (showAddr addr) = some addr)
    {invite : InviteData} {parsed : SocketAddr}
    (hp : parseAddr invite.primarySupernodeAddr = some parsed) (fallback : SocketAddr) :
    invite.withAddr (showAddr (resolvedAddr parsed fallback)) = invite ↔
      (invite.primarySupernode = showAddr parsed ∧ invite.supernodeAddr = showAddr parsed) ∧
        resolvedAddr parsed fallback = parsed := by
  rw [InviteData.withAddr_eq_self_iff]
  constructor
  · rintro ⟨hprimary, haddr⟩
    -- the address that was read is the one that is printed there
    have hread : invite.primarySupernodeAddr = showAddr (resolvedAddr parsed fallback) := by
      rw [InviteData.primarySupernodeAddr]
      split_ifs
      · exact haddr
      · exact hprimary
    rw [hread, hround] at hp
    have hsame := Option.some.inj hp
    rw [hsame] at hprimary haddr
    exact ⟨⟨hprimary, haddr⟩, hsame⟩
  · rintro ⟨hfields, hsame⟩
    rw [hsame]
    exact hfields

/-- The signature of an invite under the address it is given. -/
lemma verify_withAddr_iff (hF : F.Lawful) (hE : E.VerifiesOnlySigned pubKey)
    (hround : ∀ addr, parseAddr (showAddr addr) = some addr) {invite : InviteData}
    (hverify : invite.verify F E pubKey = true) {parsed : SocketAddr}
    (hp : parseAddr invite.primarySupernodeAddr = some parsed) (fallback : SocketAddr) :
    (invite.withAddr (showAddr (resolvedAddr parsed fallback))).verify F E pubKey = true ↔
      (invite.primarySupernode = showAddr parsed ∧ invite.supernodeAddr = showAddr parsed) ∧
        (parsed.ip.isUnspecified = true →
          fallback.ip = parsed.ip ∧ (parsed.port = 0 → fallback.port = 0)) := by
  have hsig : (invite.withAddr (showAddr (resolvedAddr parsed fallback))).signature =
      invite.signature := rfl
  rw [InviteData.verify_iff_eq hF hE hverify hsig, withAddr_resolved_iff hround hp,
    resolvedAddr_eq_self_iff]

/-- **Normalising a signed invite.**  The code that is handed on decodes to an invite that verifies
under the same key and names the same room, token and network, exactly if the address in the
invite cannot be read, or both address fields are its printed form and it is not the unspecified
one, unless the fallback would put the same in its place. -/
theorem normalized_invite_valid_iff (hF : F.Lawful) (hE : E.VerifiesOnlySigned pubKey)
    (hround : ∀ addr, parseAddr (showAddr addr) = some addr) {inviteCode : String}
    {invite : InviteData} (hdecode : InviteData.decode F inviteCode = some invite)
    (hverify : invite.verify F E pubKey = true) (fallback : SocketAddr) :
    (∃ invite', InviteData.decode F
        (normalizeInviteCode (F.codec parseAddr showAddr) inviteCode fallback) = some invite' ∧
        invite'.verify F E pubKey = true ∧ invite'.roomId = invite.roomId ∧
        invite'.token = invite.token ∧ invite'.virtualCidr = invite.virtualCidr) ↔
      parseAddr invite.primarySupernodeAddr = none ∨
        ∃ addr, parseAddr invite.primarySupernodeAddr = some addr ∧
          (invite.primarySupernode = showAddr addr ∧ invite.supernodeAddr = showAddr addr) ∧
          (addr.ip.isUnspecified = true →
            fallback.ip = addr.ip ∧ (addr.port = 0 → fallback.port = 0)) := by
  rw [decode_normalizeInviteCode hF hdecode]
  cases hp : parseAddr invite.primarySupernodeAddr with
  | none => exact iff_of_true ⟨invite, rfl, hverify, rfl, rfl, rfl⟩ (Or.inl rfl)
  | some parsed =>
      have hvalid := verify_withAddr_iff hF hE hround hverify hp fallback
      constructor
      · rintro ⟨invite', heq, hverify', _⟩
        obtain rfl := Option.some.inj heq
        exact Or.inr ⟨parsed, rfl, hvalid.mp hverify'⟩
      · rintro (hnone | ⟨addr, haddr, hfields⟩)
        · cases hnone
        · obtain rfl := Option.some.inj haddr
          exact ⟨_, rfl, hvalid.mpr hfields, rfl, rfl, rfl⟩

end

/-! ## A format, and an invite in it -/

section

open Postcard (pair byte text list array option u64 bytes)

/-- Postcard's form of an invite: its fields one after the other. -/
def InviteData.postcard : Postcard.Codec InviteData :=
  Postcard.map
    (pair byte <| pair text <| pair (list text) <| pair text <| pair (array 16) <|
      pair (array 32) <| pair (option text) <| pair (option text) <|
      pair (option u64) (option bytes))
    (fun f =>
      { version := f.1, primarySupernode := f.2.1, fallbackSupernodes := f.2.2.1
        supernodeAddr := f.2.2.2.1, roomId := ⟨f.2.2.2.2.1⟩, roomPubKey := f.2.2.2.2.2.1
        virtualCidr := f.2.2.2.2.2.2.1, token := f.2.2.2.2.2.2.2.1
        expiresAt := f.2.2.2.2.2.2.2.2.1, signature := f.2.2.2.2.2.2.2.2.2 })
    (fun invite =>
      (invite.version, invite.primarySupernode, invite.fallbackSupernodes, invite.supernodeAddr,
        invite.roomId.bytes, invite.roomPubKey, invite.virtualCidr, invite.token,
        invite.expiresAt, invite.signature))
    (fun _ => rfl)

end

/-- Postcard and base64. -/
def InviteFormat.plain : InviteFormat where
  toStdvec := InviteData.postcard.write
  fromBytes := fun l => (InviteData.postcard.read l).map (·.1)
  base64Encode := fun l => String.ofList (Base64.encode l)
  base64Decode := fun s => Base64.decode s.toList

lemma InviteFormat.plain_lawful : plain.Lawful where
  fromBytes_toStdvec := by
    intro invite
    have hread := InviteData.postcard.read_write invite []
    rw [List.append_nil] at hread
    simp [plain, hread]
  base64Decode_encode := by
    intro bytes
    simp [plain, Base64.decode_encode]

/-- A scheme in which every signature is one of `bytes`. -/
def Ed25519.sealing (bytes : Bytes) : Ed25519 where
  sign := fun _ _ => .fill 64 0
  verify := fun _ bytes' _ => decide (bytes' = bytes)

lemma Ed25519.sealing_verifiesOnlySigned (bytes : Bytes) (pubKey : Key) :
    (sealing bytes).VerifiesOnlySigned pubKey := by
  intro sig bytes₁ bytes₂ h₁ h₂
  simp only [sealing, decide_eq_true_eq] at h₁ h₂
  rw [h₁, h₂]

/-- The octets of an address. -/
def IpAddr.octetList : IpAddr → Bytes
  | .v4 octets => octets.toList
  | .v6 octets => octets.toList

/-- `a.b.c.d:port`; an IPv6 address has sixteen decimal octets here as well. -/
def SocketAddr.text (addr : SocketAddr) : String :=
  String.ofList ([':'].intercalate
    [['.'].intercalate ((addr.ip.octetList.map UInt8.toNat).map (Nat.toDigits 10)),
      Nat.toDigits 10 addr.port.toNat])

def IpAddr.ofOctets (octets : List ℕ) : Option IpAddr :=
  if octets.length = 4 then some (.v4 (.ofBytes 4 (octets.map UInt8.ofNat)))
  else if octets.length = 16 then some (.v6 (.ofBytes 16 (octets.map UInt8.ofNat)))
  else none

def SocketAddr.ofText (s : String) : Option SocketAddr :=
  match s.toList.splitOn ':' with
  | [ip, port] =>
      match (ip.splitOn '.').mapM Ipnet.dotted.decimal, Ipnet.dotted.decimal port with
      | some octets, some port =>
          if octets.all (· < 256) ∧ port < 65536 then
            (IpAddr.ofOctets octets).map fun ip => { ip, port := UInt16.ofNat port }
          else none
      | _, _ => none
  | _ => none

lemma IpAddr.ofOctets_octetList (ip : IpAddr) :
    IpAddr.ofOctets (ip.octetList.map UInt8.toNat) = some ip := by
  cases ip with
  | v4 octets => simp [octetList, ofOctets, Function.comp_def]
  | v6 octets => simp [octetList, ofOctets, Function.comp_def]

lemma SocketAddr.ofText_text (addr : SocketAddr) : ofText addr.text = some addr := by
  have hne : addr.ip.octetList.map UInt8.toNat ≠ [] := by
    obtain ⟨ip, port⟩ := addr
    intro hnil
    have hlen := congrArg List.length hnil
    cases ip <;> simp [IpAddr.octetList] at hlen
  have hport := addr.port.toNat_lt
  rw [ofText, text, String.toList_ofList, Ipnet.splitOn_separator (by decide) (by decide)]
  simp only [Ipnet.splitOn_dots hne, Ipnet.mapM_decimal, Ipnet.decimal_toDigits]
  rw [if_pos, IpAddr.ofOctets_octetList]
  · simp
  · refine ⟨?_, by omega⟩
    simp only [List.all_map, List.all_eq_true, Function.comp_apply, decide_eq_true_eq]
    intro b _
    exact b.toNat_lt

/-- An invite for the supernode at `addr`, with a signature. -/
def sampleInvite (addr : String) : InviteData where
  version := inviteVersion
  primarySupernode := addr
  fallbackSupernodes := []
  supernodeAddr := addr
  roomId := .fill 5
  roomPubKey := .fill 32 9
  virtualCidr := some "10.66.1.0/24"
  token := some "token-1"
  expiresAt := none
  signature := some (List.replicate 64 0)

lemma verify_sampleInvite (addr : String) (pubKey : Key) :
    (sampleInvite addr).verify .plain
      (.sealing (InviteFormat.plain.toStdvec (sampleInvite addr).unsigned)) pubKey = true := by
  simp [InviteData.verify, sampleInvite, Ed25519.sealing]

/-- **The supernode's own invites**: the supernode is bound to `0.0.0.0:7777`, and the edge reaches
it at another address. -/
theorem normalized_invite_forged :
    let invite := sampleInvite "0.0.0.0:7777"
    let E := Ed25519.sealing (InviteFormat.plain.toStdvec invite.unsigned)
    let fallback : SocketAddr := { ip := .v4 (.ofBytes 4 [139, 196, 85, 193]), port := 7777 }
    InviteFormat.plain.Lawful ∧ E.VerifiesOnlySigned (.fill 32 1) ∧
      (∀ addr, SocketAddr.ofText addr.text = some addr) ∧
      InviteData.decode .plain (invite.encode .plain) = some invite ∧
      invite.verify .plain E (.fill 32 1) = true ∧
      ¬ ∃ invite', InviteData.decode .plain (normalizeInviteCode
          (InviteFormat.plain.codec SocketAddr.ofText SocketAddr.text) (invite.encode .plain)
          fallback) = some invite' ∧
        invite'.verify .plain E (.fill 32 1) = true ∧ invite'.roomId = invite.roomId ∧
        invite'.token = invite.token ∧ invite'.virtualCidr = invite.virtualCidr := by
  intro invite E fallback
  have hF := InviteFormat.plain_lawful
  have hE : E.VerifiesOnlySigned (.fill 32 1) := Ed25519.sealing_verifiesOnlySigned _ _
  have hverify : invite.verify .plain E (.fill 32 1) = true := verify_sampleInvite _ _
  have hdecode := InviteData.decode_encode hF invite
  have hp : SocketAddr.ofText invite.primarySupernodeAddr =
      some { ip := .v4 (.fill 4 0), port := 7777 } := by
    decide +kernel
  refine ⟨hF, hE, SocketAddr.ofText_text, hdecode, hverify, ?_⟩
  rintro ⟨invite', hinvite', hverify', _⟩
  rw [decode_normalizeInviteCode hF hdecode, hp, Option.some.injEq] at hinvite'
  rw [← hinvite', verify_withAddr_iff hF hE SocketAddr.ofText_text hverify hp] at hverify'
  exact absurd (hverify'.2 (by decide)).1 (by decide)

/-- An invite for `127.0.0.1:7777` is handed on as it is. -/
theorem normalized_invite_valid_iff_specified :
    let invite := sampleInvite "127.0.0.1:7777"
    let E := Ed25519.sealing (InviteFormat.plain.toStdvec invite.unsigned)
    ∃ invite', InviteData.decode .plain (normalizeInviteCode
        (InviteFormat.plain.codec SocketAddr.ofText SocketAddr.text) (invite.encode .plain)
        (.localhost 9)) = some invite' ∧
      invite'.verify .plain E (.fill 32 1) = true ∧ invite'.roomId = invite.roomId ∧
      invite'.token = invite.token ∧ invite'.virtualCidr = invite.virtualCidr := by
  intro invite E
  refine (normalized_invite_valid_iff InviteFormat.plain_lawful
    (Ed25519.sealing_verifiesOnlySigned _ _) SocketAddr.ofText_text
    (InviteData.decode_encode InviteFormat.plain_lawful invite) (verify_sampleInvite _ _)
    (.localhost 9)).mpr (Or.inr ⟨.localhost 7777, ?_, ?_, ?_⟩)
  · decide +kernel
  · decide +kernel
  · intro hunspecified
    exact absurd hunspecified (by decide)

end R2N
