import R2N.Common
import R2N.Lib.Bytes

/-!
# Sending in batches

`UdpTransport::send_batch` hands the datagrams of a batch to the kernel in one `sendmmsg` call and
sends them one by one only if that call fails.  For the call it writes the socket addresses of the
C interface itself.  Here memory is that of a little-endian machine, and what the kernel reads from
it is part of the model.

* `socketAddrToStorage`, `readSockaddr` — an address as it is written and as it is read.
* `readSockaddr_v4`, `readSockaddr_v6` — the octets of an IPv4 address are read in the opposite
  order.
* `trySendBatchLinux`, `sendBatch` — the call, and the function around it.
* **`send_batch_iff`** — when a batch goes where the plain loop would send it, and all of it.
-/

namespace R2N

open Bytes (beBytes leBytes ofBe ofLe slice swapBytes writeAt)

/-! ## Socket addresses in memory -/

/-- `AF_INET` and `AF_INET6` of Linux. -/
def afInet : ℕ := 2

def afInet6 : ℕ := 10

/-- `u16::to_be`, `u32::to_be` on a little-endian machine, by the number of bytes. -/
def toBe (k n : ℕ) : ℕ := swapBytes k n

/-- `u32::from_ne_bytes` on a little-endian machine. -/
def fromNeBytes (octets : Bytes) : ℕ := ofLe octets

/-- A `SocketAddr` with the two fields that only an IPv6 address has. -/
structure SocketTarget where
  addr : SocketAddr
  flowinfo : UInt32
  scopeId : UInt32
deriving DecidableEq

/-- `sockaddr_storage`, zeroed. -/
def emptyStorage : Bytes := List.replicate 128 0

/-- The fields of `sockaddr_in`, one after the other. -/
def sockaddrIn (octets : Bytes) (port : UInt16) : Bytes :=
  leBytes 2 afInet ++ (leBytes 2 (toBe 2 port.toNat) ++
    (leBytes 4 (toBe 4 (fromNeBytes octets)) ++ List.replicate 8 0))

/-- The fields of `sockaddr_in6`. -/
def sockaddrIn6 (octets : Bytes) (port : UInt16) (flowinfo scopeId : UInt32) : Bytes :=
  leBytes 2 afInet6 ++ (leBytes 2 (toBe 2 port.toNat) ++ (leBytes 4 flowinfo.toNat ++
    (octets ++ leBytes 4 scopeId.toNat)))

/-- `socket_addr_to_storage`: the storage and the length of the address in it. -/
def socketAddrToStorage (target : SocketTarget) : Bytes × ℕ :=
  match target.addr.ip with
  | .v4 octets => (writeAt 0 (sockaddrIn octets.toList target.addr.port) emptyStorage, 16)
  | .v6 octets =>
      (writeAt 0 (sockaddrIn6 octets.toList target.addr.port target.flowinfo target.scopeId)
        emptyStorage, 28)

/-- The address and port that the kernel finds in a `msg_name`: the family in the order of the
machine, the port and an IPv4 address in network order. -/
def readSockaddr (name : Bytes) (len : ℕ) : Option SocketAddr :=
  if ofLe (slice 0 2 name) = afInet ∧ 16 ≤ len then
    some { ip := .v4 (ByteArr.ofBytes 4 (slice 4 8 name))
           port := UInt16.ofNat (ofBe (slice 2 4 name)) }
  else if ofLe (slice 0 2 name) = afInet6 ∧ 24 ≤ len then
    some { ip := .v6 (ByteArr.ofBytes 16 (slice 8 24 name))
           port := UInt16.ofNat (ofBe (slice 2 4 name)) }
  else none

/-- An address with its octets in the opposite order, if it is an IPv4 address. -/
def SocketAddr.swapped (addr : SocketAddr) : SocketAddr :=
  match addr.ip with
  | .v4 octets => { addr with ip := .v4 (ByteArr.ofBytes 4 octets.toList.reverse) }
  | .v6 _ => addr

/-- The octets in memory stand in the opposite order. -/
lemma leBytes_toBe_fromNeBytes {octets : Bytes} (h : octets.length = 4) :
    leBytes 4 (toBe 4 (fromNeBytes octets)) = octets.reverse := by
  have hread := Bytes.beBytes_ofBe octets.reverse
  rw [List.length_reverse, h] at hread
  rw [toBe, Bytes.leBytes_swapBytes, fromNeBytes, ofLe, hread]

lemma port_read (port : UInt16) : UInt16.ofNat (ofBe (leBytes 2 (toBe 2 port.toNat))) = port := by
  rw [toBe, Bytes.leBytes_swapBytes, Bytes.ofBe_beBytes,
    Nat.mod_eq_of_lt (by have := port.toNat_lt; omega), UInt16.ofNat_toNat]

lemma family_read {family : ℕ} (h : family < 256) : ofLe (leBytes 2 family) = family := by
  rw [Bytes.ofLe_leBytes, Nat.mod_eq_of_lt (by omega)]

/-- Where the fields of a `sockaddr_in` are read. -/
lemma slice_sockaddrIn {octets : Bytes} (h : octets.length = 4) (port : UInt16) (rest : Bytes) :
    slice 0 2 (sockaddrIn octets port ++ rest) = leBytes 2 afInet ∧
    slice 2 4 (sockaddrIn octets port ++ rest) = leBytes 2 (toBe 2 port.toNat) ∧
    slice 4 8 (sockaddrIn octets port ++ rest) = octets.reverse := by
  simp (disch := simp) only [sockaddrIn, List.append_assoc, Bytes.slice_append_of_le,
    Bytes.slice_zero_append, Bytes.length_leBytes, Nat.reduceSub, leBytes_toBe_fromNeBytes h]
  exact ⟨trivial, trivial, Bytes.slice_zero_append (by simp [h]) _⟩

/-- Where the fields of a `sockaddr_in6` are read. -/
lemma slice_sockaddrIn6 {octets : Bytes} (h : octets.length = 16) (port : UInt16)
    (flowinfo scopeId : UInt32) (rest : Bytes) :
    slice 0 2 (sockaddrIn6 octets port flowinfo scopeId ++ rest) = leBytes 2 afInet6 ∧
    slice 2 4 (sockaddrIn6 octets port flowinfo scopeId ++ rest) =
      leBytes 2 (toBe 2 port.toNat) ∧
    slice 8 24 (sockaddrIn6 octets port flowinfo scopeId ++ rest) = octets := by
  simp (disch := simp) only [sockaddrIn6, List.append_assoc, Bytes.slice_append_of_le,
    Bytes.slice_zero_append, Bytes.length_leBytes, Nat.reduceSub]
  exact ⟨trivial, trivial, Bytes.slice_zero_append h _⟩

/-- **What the kernel reads** is the address with its octets swapped. -/
theorem readSockaddr_socketAddrToStorage (target : SocketTarget) :
    readSockaddr (socketAddrToStorage target).1 (socketAddrToStorage target).2 =
      some target.addr.swapped := by
  obtain ⟨⟨ip, port⟩, flowinfo, scopeId⟩ := target
  cases ip with
  | v4 octets =>
      obtain ⟨hfamily, hport, haddr⟩ :=
        slice_sockaddrIn octets.toList_length port (emptyStorage.drop
          (sockaddrIn octets.toList port).length)
      simp only [socketAddrToStorage, Bytes.writeAt_zero, readSockaddr, hfamily, hport, haddr,
        family_read (show afInet < 256 by decide), port_read]
      rfl
  | v6 octets =>
      obtain ⟨hfamily, hport, haddr⟩ :=
        slice_sockaddrIn6 octets.toList_length port flowinfo scopeId (emptyStorage.drop
          (sockaddrIn6 octets.toList port flowinfo scopeId).length)
      simp only [socketAddrToStorage, Bytes.writeAt_zero, readSockaddr, hfamily, hport, haddr,
        family_read (show afInet6 < 256 by decide), port_read, ByteArr.ofBytes_toList]
      rfl

/-! ## Batches -/

/-- `BatchMessage`. -/
structure BatchMessage where
  target : SocketTarget
  payload : Bytes
deriving DecidableEq

/-- What leaves the machine: a payload and where it goes. -/
abbrev SentDatagram := Bytes × SocketAddr

def SocketAddr.isIpv4 (addr : SocketAddr) : Bool :=
  match addr.ip with
  | .v4 _ => true
  | .v6 _ => false

/-- `check_family`, by what `local_addr` returns. -/
def checkFamily (localAddr : Option SocketAddr) (target : SocketAddr) : Bool :=
  match localAddr with
  | some addr => addr.isIpv4 == target.isIpv4
  | none => true

/-- An `mmsghdr` with the memory it points to. -/
structure MmsgHdr where
  payload : Bytes
  name : Bytes
  nameLen : ℕ

/-- `sendmmsg`, and the wait for the socket before it: how many messages it sends, or `none` if it
fails.  It sends them in their order, and at least one unless it fails. -/
structure Sendmmsg where
  count : List MmsgHdr → Option ℕ
  count_le : ∀ headers k, count headers = some k → k ≤ headers.length
  count_pos : ∀ headers k, count headers = some k → headers ≠ [] → 0 < k

/-- The header of a message. -/
def BatchMessage.header (message : BatchMessage) : MmsgHdr where
  payload := message.payload
  name := (socketAddrToStorage message.target).1
  nameLen := (socketAddrToStorage message.target).2

/-- Where the kernel sends a message. -/
def MmsgHdr.deliver (header : MmsgHdr) : Option SentDatagram :=
  (readSockaddr header.name header.nameLen).map fun addr => (header.payload, addr)

/-- `try_send_batch_linux`: the number it returns and the datagrams that were sent. -/
def trySendBatchLinux (K : Sendmmsg) (messages : List BatchMessage) :
    Option (ℕ × List SentDatagram) :=
  let headers := messages.map BatchMessage.header
  (K.count headers).map fun count => (count, (headers.take count).filterMap MmsgHdr.deliver)

/-- The datagram that `send_to` sends for a message. -/
def BatchMessage.plain (message : BatchMessage) : SentDatagram :=
  (message.payload, message.target.addr)

/-- The plain loop, with `sent` messages behind it: it ends at the first `send_to` that fails. -/
def sendPlain (sendOk : ℕ → Bool) :
    ℕ → List BatchMessage → Except Unit ℕ × List SentDatagram
  | sent, [] => (.ok sent, [])
  | sent, message :: rest =>
      if sendOk sent then
        let (result, datagrams) := sendPlain sendOk (sent + 1) rest
        (result, message.plain :: datagrams)
      else (.error (), [])

/-- The messages of the local address family. -/
def ofFamily (localAddr : Option SocketAddr) (messages : List BatchMessage) :
    List BatchMessage :=
  messages.filter fun message => checkFamily localAddr message.target.addr

/-- `send_batch`. -/
def sendBatch (K : Sendmmsg) (localAddr : Option SocketAddr) (sendOk : ℕ → Bool)
    (messages : List BatchMessage) : Except Unit ℕ × List SentDatagram :=
  let filtered := ofFamily localAddr messages
  if filtered.isEmpty then (.ok 0, [])
  else
    match trySendBatchLinux K filtered with
    | some (sent, datagrams) => (.ok sent, datagrams)
    | none => sendPlain sendOk 0 filtered

/-! ## Both ways of sending -/

/-- The datagrams of a batch go to the addresses with their octets swapped. -/
lemma trySendBatchLinux_eq (K : Sendmmsg) (messages : List BatchMessage) :
    trySendBatchLinux K messages =
      (K.count (messages.map BatchMessage.header)).map fun count =>
        (count, (messages.take count).map fun m => (m.payload, m.target.addr.swapped)) := by
  have hdeliver : ∀ m : BatchMessage,
      m.header.deliver = some (m.payload, m.target.addr.swapped) := fun m => by
    rw [MmsgHdr.deliver, BatchMessage.header, readSockaddr_socketAddrToStorage]
    rfl
  simp only [trySendBatchLinux, ← List.map_take, List.filterMap_map, Function.comp_def, hdeliver,
    List.filterMap_eq_map']

/-- A loop that ends has sent every message. -/
lemma sendPlain_ok {sendOk : ℕ → Bool} {messages : List BatchMessage} {sent n : ℕ}
    (h : (sendPlain sendOk sent messages).1 = .ok n) :
    n = sent + messages.length ∧
      (sendPlain sendOk sent messages).2 = messages.map BatchMessage.plain := by
  induction messages generalizing sent with
  | nil => exact ⟨(Except.ok.inj h).symm, rfl⟩
  | cons message rest ih =>
      unfold sendPlain at h ⊢
      split_ifs at h ⊢ with hok
      obtain ⟨hn, hdatagrams⟩ := ih h
      refine ⟨by rw [hn, List.length_cons]; omega, ?_⟩
      rw [List.map_cons, ← hdatagrams]

/-- The octets of an IPv4 address read the same in both directions. -/
def SocketAddr.Palindromic (addr : SocketAddr) : Prop :=
  ∀ octets, addr.ip = .v4 octets → octets.toList.reverse = octets.toList

lemma swapped_eq_iff (addr : SocketAddr) : addr.swapped = addr ↔ addr.Palindromic := by
  obtain ⟨ip, port⟩ := addr
  cases ip with
  | v4 octets =>
      have hlen : octets.toList.reverse.length = 4 := by simp
      constructor
      · intro h other hother
        cases hother
        have hip := IpAddr.v4.inj (congrArg SocketAddr.ip h)
        rw [← ByteArr.toList_ofBytes hlen, hip]
      · intro h
        simp only [SocketAddr.swapped, h octets rfl, ByteArr.ofBytes_toList]
  | v6 octets =>
      refine iff_of_true rfl fun other hother => ?_
      cases hother

lemma swapped_eq_plain_iff (messages : List BatchMessage) :
    (messages.map fun m => (m.payload, m.target.addr.swapped)) =
        messages.map BatchMessage.plain ↔
      ∀ message ∈ messages, message.target.addr.Palindromic := by
  rw [List.map_inj_left]
  refine forall₂_congr fun message _ => ?_
  rw [BatchMessage.plain, Prod.mk_inj, and_iff_right rfl, swapped_eq_iff]

/-- `send_batch` when the call sends something, or has nothing to send. -/
lemma sendBatch_of_count {K : Sendmmsg} {localAddr : Option SocketAddr} {sendOk : ℕ → Bool}
    {messages : List BatchMessage} {k : ℕ}
    (hcount : K.count ((ofFamily localAddr messages).map BatchMessage.header) = some k) :
    sendBatch K localAddr sendOk messages =
      (.ok k, ((ofFamily localAddr messages).take k).map fun m =>
        (m.payload, m.target.addr.swapped)) := by
  simp only [sendBatch, trySendBatchLinux_eq, hcount, Option.map_some]
  split_ifs with hempty
  · have hle := K.count_le _ k hcount
    rw [List.isEmpty_iff.mp hempty] at hle ⊢
    obtain rfl := Nat.le_zero.mp hle
    rfl
  · rfl

lemma sendBatch_of_failed {K : Sendmmsg} {localAddr : Option SocketAddr} {sendOk : ℕ → Bool}
    {messages : List BatchMessage} {n : ℕ}
    (hcount : K.count ((ofFamily localAddr messages).map BatchMessage.header) = none)
    (hok : (sendBatch K localAddr sendOk messages).1 = .ok n) :
    n = (ofFamily localAddr messages).length ∧
      (sendBatch K localAddr sendOk messages).2 =
        (ofFamily localAddr messages).map BatchMessage.plain := by
  simp only [sendBatch, trySendBatchLinux_eq, hcount, Option.map_none] at hok ⊢
  split_ifs at hok ⊢ with hempty
  · obtain rfl := Except.ok.inj hok
    rw [List.isEmpty_iff.mp hempty]
    exact ⟨rfl, rfl⟩
  · obtain ⟨hn, hdatagrams⟩ := sendPlain_ok hok
    rw [hn, Nat.zero_add]
    exact ⟨rfl, hdatagrams⟩

/-- **Batches.**  What `try_send_batch_linux` sends is what the plain loop would send, and a
result `Ok(n)` means that every message of the local address family was sent, exactly if the
`sendmmsg` call fails or it takes the whole batch and the octets of every IPv4 target read the
same in both directions. -/
theorem send_batch_iff (K : Sendmmsg) (localAddr : Option SocketAddr) (sendOk : ℕ → Bool)
    (messages : List BatchMessage) :
    let filtered := ofFamily localAddr messages
    let out := sendBatch K localAddr sendOk messages
    ((∀ sent datagrams, trySendBatchLinux K filtered = some (sent, datagrams) →
        datagrams = filtered.map BatchMessage.plain) ∧
      ∀ n, out.1 = .ok n → n = filtered.length ∧ out.2 = filtered.map BatchMessage.plain) ↔
      K.count (filtered.map BatchMessage.header) = none ∨
        K.count (filtered.map BatchMessage.header) = some filtered.length ∧
          ∀ message ∈ filtered, message.target.addr.Palindromic := by
  intro filtered out
  have htry := trySendBatchLinux_eq K filtered
  cases hcount : K.count (filtered.map BatchMessage.header) with
  | none =>
      rw [hcount, Option.map_none] at htry
      refine iff_of_true ⟨fun sent datagrams h => ?_, fun n hok => ?_⟩ (Or.inl rfl)
      · rw [htry] at h
        cases h
      · exact sendBatch_of_failed hcount hok
  | some k =>
      rw [hcount, Option.map_some] at htry
      have hout : out = (.ok k, (filtered.take k).map fun m =>
        (m.payload, m.target.addr.swapped)) := sendBatch_of_count hcount
      rw [← swapped_eq_plain_iff, hout]
      constructor
      · rintro ⟨hsame, hall⟩
        -- a prefix that is not the whole batch is reported as a success
        obtain rfl := (hall k rfl).1
        refine Or.inr ⟨rfl, ?_⟩
        have hsent := hsame _ _ htry
        rwa [List.take_length] at hsent
      · rintro (h | ⟨h, hplain⟩)
        · cases h
        · obtain rfl := Option.some.inj h
          rw [List.take_length] at htry ⊢
          refine ⟨fun sent datagrams h => ?_, fun n hok => ?_⟩
          · cases htry.symm.trans h
            exact hplain
          · obtain rfl := Except.ok.inj hok
            exact ⟨rfl, hplain⟩

/-- A call that takes every message. -/
def Sendmmsg.whole : Sendmmsg where
  count := fun headers => some headers.length
  count_le := fun _ _ h => (Option.some.inj h).ge
  count_pos := fun _ _ h hne => Option.some.inj h ▸ List.length_pos_of_ne_nil hne

/-- A call that takes one message at a time. -/
def Sendmmsg.first : Sendmmsg where
  count := fun headers => some (min 1 headers.length)
  count_le := fun _ _ h => Option.some.inj h ▸ Nat.min_le_right _ _
  count_pos := fun _ _ h hne =>
    Option.some.inj h ▸ Nat.lt_min.mpr ⟨Nat.one_pos, List.length_pos_of_ne_nil hne⟩

/-- A message to port 80 of an IPv4 address. -/
def messageTo (a b c d : UInt8) : BatchMessage where
  target := { addr := { ip := .v4 (ByteArr.ofBytes 4 [a, b, c, d]), port := 80 }
              flowinfo := 0, scopeId := 0 }
  payload := [1]

/-- A datagram for 10.0.0.1 is sent to 1.0.0.10, and of two datagrams one is sent. -/
theorem batch_diverges :
    sendBatch .whole none (fun _ => true) [messageTo 10 0 0 1] =
      (.ok 1, [([1], { ip := .v4 (ByteArr.ofBytes 4 [1, 0, 0, 10]), port := 80 })]) ∧
    (messageTo 10 0 0 1).plain =
      ([1], { ip := .v4 (ByteArr.ofBytes 4 [10, 0, 0, 1]), port := 80 }) ∧
    (sendBatch .first none (fun _ => true) [messageTo 1 1 1 1, messageTo 2 2 2 2]).1 = .ok 1 := by
  decide +kernel

end R2N
