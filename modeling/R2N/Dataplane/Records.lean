import R2N.Dataplane.Receive

/-!
# What happens to a peer record

The results about nonces and keys follow a record through every operation of the plane.  Most
operations keep what matters of each record — whose it is, its nonce counter and the key of its
cipher — and the table (`Keeps`); the others are three: `upsert_peer` may add a record,
`set_direct_path` may install a cipher, and `send_to_peer` advances one counter.

* `Keeps` — the relation, with reflexivity and transitivity.
* `openPayload_keeps`, …, **`handleIncomingFrame_keeps`** — receiving keeps every record, apart
  from the pong it may send.
* `WellFormed` — a table entry names an existing record of the node it is filed under.
-/

namespace R2N

/-- What the results about keys and nonces read of a record. -/
structure SameRecord (p q : DataPeer) : Prop where
  nodeId : q.info.nodeId = p.info.nodeId
  nextNonce : q.nextNonce = p.nextNonce
  key : q.cipher.map Cipher.key = p.cipher.map Cipher.key

lemma SameRecord.refl (p : DataPeer) : SameRecord p p := ⟨rfl, rfl, rfl⟩

lemma SameRecord.trans {p q s : DataPeer} (h : SameRecord p q) (h' : SameRecord q s) :
    SameRecord p s :=
  ⟨h'.nodeId.trans h.nodeId, h'.nextNonce.trans h.nextNonce, h'.key.trans h.key⟩

/-- Decryption advances a window and leaves the key. -/
lemma Cipher.decryptInPlace_key (A : Aead) (c : Cipher) (nonce : UInt64) (aad buffer : Bytes) :
    (c.decryptInPlace A nonce aad buffer).2.key = c.key := by
  unfold decryptInPlace
  split
  · rfl
  · simp only
    split_ifs
    · rfl
    · split <;> rfl

namespace DataPlane

/-- The table and every record stay as they are, as far as the results read them. -/
structure Keeps (dp dp' : DataPlane) : Prop where
  record : ∀ r, SameRecord (dp.heap r) (dp'.heap r)
  peers : dp'.peers = dp.peers
  nextRef : dp'.nextRef = dp.nextRef

lemma Keeps.refl (dp : DataPlane) : Keeps dp dp := ⟨fun r => .refl (dp.heap r), rfl, rfl⟩

lemma Keeps.trans {dp dp' dp'' : DataPlane} (h : Keeps dp dp') (h' : Keeps dp' dp'') :
    Keeps dp dp'' :=
  ⟨fun r => (h.record r).trans (h'.record r), h'.peers.trans h.peers,
    h'.nextRef.trans h.nextRef⟩

/-- Writing a record keeps everything if the new value is the same record. -/
lemma keeps_setPeer {dp : DataPlane} {r : PeerRef} {peer : DataPeer}
    (h : SameRecord (dp.heap r) peer) : Keeps dp (dp.setPeer r peer) where
  record := by
    intro r'
    by_cases hr : r' = r
    · subst hr
      simpa [setPeer] using h
    · simpa [setPeer, hr] using SameRecord.refl (dp.heap r')
  peers := rfl
  nextRef := rfl

lemma addPeerCandidate_keeps (dp : DataPlane) (now : Instant) (nodeId : NodeId)
    (addr : SocketAddr) : Keeps dp (dp.addPeerCandidate now nodeId addr) := by
  unfold addPeerCandidate
  split
  · exact .refl dp
  · exact keeps_setPeer ⟨rfl, rfl, rfl⟩

lemma setDirectPath_none_keeps (dp : DataPlane) (now : Instant) (nodeId : NodeId)
    (addr : SocketAddr) : Keeps dp (dp.setDirectPath now nodeId addr none) := by
  unfold setDirectPath
  split
  · exact .refl dp
  · exact keeps_setPeer ⟨rfl, rfl, rfl⟩

lemma learnPath_keeps (dp : DataPlane) (now : Instant) (r : PeerRef) (addr : SocketAddr) :
    Keeps dp (dp.learnPath now r addr) := by
  unfold learnPath
  simp only
  split_ifs
  · exact .refl dp
  · exact keeps_setPeer ⟨rfl, rfl, rfl⟩

lemma recordPong_keeps (dp : DataPlane) (r : PeerRef) (packet : Bytes) (io : IncomingIo) :
    Keeps dp (dp.recordPong r packet io) := by
  unfold recordPong
  split
  · split_ifs
    · exact keeps_setPeer ⟨rfl, rfl, rfl⟩
    · exact .refl dp
  · exact .refl dp

lemma learnMac_keeps (dp : DataPlane) (now : Instant) (mac : Mac) (nodeId : NodeId) :
    Keeps dp (dp.learnMac now mac nodeId) := by
  obtain ⟨macTable, h⟩ := dp.learnMac_plane now mac nodeId
  rw [h]
  exact ⟨fun r => .refl (dp.heap r), rfl, rfl⟩

lemma learnFromPacket_keeps (dp : DataPlane) (r : PeerRef) (h : DataHeader) (packet : Bytes)
    (addr : SocketAddr) (now : Instant) : Keeps dp (dp.learnFromPacket r h packet addr now) := by
  unfold learnFromPacket
  have hpath : Keeps dp (if (dp.heap r).pathManager.isRelayAddr addr then dp
      else dp.setDirectPath now h.srcNode addr none) := by
    split_ifs
    · exact .refl dp
    · exact dp.setDirectPath_none_keeps now h.srcNode addr
  simp only
  split
  · exact hpath.trans (learnMac_keeps _ _ _ _)
  · exact hpath

lemma validateIncomingHeader_keeps (dp : DataPlane) (now : Instant) (h : DataHeader) :
    Keeps dp (dp.validateIncomingHeader now h).2 := by
  obtain ⟨seenFlood, hv⟩ := dp.validateIncomingHeader_plane now h
  rw [hv]
  exact ⟨fun r => .refl (dp.heap r), rfl, rfl⟩

lemma openPayload_keeps (A : Aead) (dp : DataPlane) (r : PeerRef) (h : DataHeader)
    (payload : Bytes) : Keeps dp (dp.openPayload A r h payload).2 := by
  unfold openPayload
  split
  · exact .refl dp
  · rename_i c hc
    refine keeps_setPeer ⟨rfl, rfl, ?_⟩
    simp only [Option.map_some, hc]
    rw [Cipher.decryptInPlace_key]

/-! ## Receiving -/

/-- **Receiving keeps every record**, but for the pong that answers an accepted ping: then the
plane is that of a `send_to_peer` on the sender's record, from a plane that keeps every record. -/
theorem handleIncomingFrame_keeps (A : Aead) (E : Etherparse) (macos : Bool) (dp : DataPlane)
    (h : DataHeader) (payload : Bytes) (addr : SocketAddr) (io : IncomingIo) :
    let out := dp.handleIncomingFrame A E macos h payload addr io
    (Keeps dp out.plane ∧ out.encrypted = none) ∨
    ∃ r dp' packet, h.packetType = .ping ∧ dp.acceptedPacket A io.now h payload = some packet ∧
      dp.peers.lookup h.srcNode = some r ∧ Keeps dp dp' ∧
      out.plane = (dp'.sendToPeer A E r .pong packet (some addr) false io.pongSend).plane ∧
      out.encrypted =
        (dp'.sendToPeer A E r .pong packet (some addr) false io.pongSend).encrypted := by
  intro out
  have hval := dp.validateIncomingHeader_keeps io.now h
  -- the plaintext is read off the call, which is unfolded below
  rw [← dp.handleIncomingFrame_packet A E macos h payload addr io]
  simp only [out]
  unfold handleIncomingFrame
  generalize dp.validateIncomingHeader io.now h = val at hval ⊢
  obtain ⟨valid, dp₁⟩ := val
  cases valid with
  | false => exact .inl ⟨hval, rfl⟩
  | true =>
      simp only
      cases hr : dp₁.peers.lookup h.srcNode with
      | none => exact .inl ⟨hval, rfl⟩
      | some r =>
          have hopen := openPayload_keeps A dp₁ r h payload
          simp only
          generalize dp₁.openPayload A r h payload = opened at hopen ⊢
          obtain ⟨result, dp₂⟩ := opened
          have hkeep := hval.trans hopen
          cases result with
          | error e => exact .inl ⟨hkeep, rfl⟩
          | ok packet =>
              have hkeep := hkeep.trans (dp₂.learnPath_keeps io.now r addr)
              have hr' : dp.peers.lookup h.srcNode = some r := by rw [← hval.peers, hr]
              simp only
              generalize dp₂.learnPath io.now r addr = dp₃ at hkeep ⊢
              unfold handlePacket
              split
              · exact .inr ⟨r, dp₃, packet, ‹_›, rfl, hr', hkeep, rfl, rfl⟩
              split
              · exact .inl ⟨hkeep.trans (dp₃.recordPong_keeps r packet io), rfl⟩
              have hkeep := hkeep.trans (dp₃.learnFromPacket_keeps r h packet addr io.now)
              simp only
              split
              · exact .inl ⟨hkeep, rfl⟩
              split
              · exact .inl ⟨hkeep, rfl⟩
              · exact .inl ⟨hkeep, rfl⟩

/-! ## The table -/

/-- A table entry names an existing record, and one of the node it is filed under. -/
structure WellFormed (dp : DataPlane) : Prop where
  ref_lt : ∀ id r, dp.peers.lookup id = some r → r < dp.nextRef
  nodeId : ∀ id r, dp.peers.lookup id = some r → (dp.heap r).info.nodeId = id

/-- The table and the owners of the records are all that counts. -/
lemma WellFormed.of_owners {dp dp' : DataPlane} (hw : dp.WellFormed) (hpeers : dp'.peers = dp.peers)
    (href : dp'.nextRef = dp.nextRef)
    (hid : ∀ r, (dp'.heap r).info.nodeId = (dp.heap r).info.nodeId) : dp'.WellFormed where
  ref_lt := by
    intro id r hr
    rw [hpeers] at hr
    rw [href]
    exact hw.ref_lt id r hr
  nodeId := by
    intro id r hr
    rw [hpeers] at hr
    rw [hid]
    exact hw.nodeId id r hr

lemma WellFormed.keeps {dp dp' : DataPlane} (hw : dp.WellFormed) (hk : Keeps dp dp') :
    dp'.WellFormed :=
  hw.of_owners hk.peers hk.nextRef fun r => (hk.record r).nodeId

lemma WellFormed.sendToPeer {dp : DataPlane} (hw : dp.WellFormed) (A : Aead) (E : Etherparse)
    (r : PeerRef) (t : DataPacketType) (payload : Bytes) (target : Option SocketAddr)
    (flood : Bool) (net : NetAnswer) :
    (dp.sendToPeer A E r t payload target flood net).plane.WellFormed := by
  rcases dp.sendToPeer_effect A E r t payload target flood net with
    ⟨-, hplane, -⟩ | ⟨-, hheap, -, hpeers, href, -⟩
  · rwa [hplane]
  · refine hw.of_owners hpeers href fun r' => ?_
    rw [hheap]
    by_cases hr : r' = r
    · rw [hr, Function.update_self]
    · rw [Function.update_of_ne hr]

lemma WellFormed.handleIncomingFrame {dp : DataPlane} (hw : dp.WellFormed) (A : Aead)
    (E : Etherparse) (macos : Bool) (h : DataHeader) (payload : Bytes) (addr : SocketAddr)
    (io : IncomingIo) : (dp.handleIncomingFrame A E macos h payload addr io).plane.WellFormed := by
  rcases dp.handleIncomingFrame_keeps A E macos h payload addr io with
    ⟨hkeeps, -⟩ | ⟨r, dp', packet, -, -, -, hkeeps, hplane, -⟩
  · exact hw.keeps hkeeps
  · rw [hplane]
    exact (hw.keeps hkeeps).sendToPeer A E r .pong packet (some addr) false io.pongSend

/-- A record that is added is filed under its own node. -/
lemma WellFormed.upsertPeer {dp : DataPlane} (hw : dp.WellFormed) (peer : DataPeer) :
    (dp.upsertPeer peer).WellFormed := by
  unfold DataPlane.upsertPeer
  cases hr : dp.peers.lookup peer.info.nodeId with
  | some r =>
      have hid : peer.info.nodeId = (dp.heap r).info.nodeId := (hw.nodeId _ r hr).symm
      exact hw.keeps (keeps_setPeer ⟨hid, rfl, rfl⟩)
  | none =>
      have hheap : ∀ r < dp.nextRef, Function.update dp.heap dp.nextRef peer r = dp.heap r :=
        fun r hlt => Function.update_of_ne (Nat.ne_of_lt hlt) _ _
      constructor
      · intro id r hlook
        rw [KeyMap.lookup_insert_eq] at hlook
        split_ifs at hlook
        · obtain rfl := Option.some.inj hlook
          exact Nat.lt_succ_self _
        · exact Nat.lt_succ_of_lt (hw.ref_lt id r hlook)
      · intro id r hlook
        rw [KeyMap.lookup_insert_eq] at hlook
        simp only [setPeer]
        split_ifs at hlook with hid
        · obtain rfl := Option.some.inj hlook
          rw [Function.update_self, hid]
        · rw [hheap r (hw.ref_lt id r hlook)]
          exact hw.nodeId id r hlook

/-- Removing entries keeps the rest well formed. -/
lemma WellFormed.removePeer {dp : DataPlane} (hw : dp.WellFormed) (id : NodeId) :
    (dp.removePeer id).WellFormed := by
  have hsub : ∀ id' r, (dp.peers.erase id).lookup id' = some r → dp.peers.lookup id' = some r := by
    intro id' r hr
    rw [KeyMap.lookup_erase_eq] at hr
    split_ifs at hr
    exact hr
  exact ⟨fun id' r hr => hw.ref_lt id' r (hsub id' r hr),
    fun id' r hr => hw.nodeId id' r (hsub id' r hr)⟩

lemma wellFormed_of_empty {dp : DataPlane} (h : dp.peers = ∅) : dp.WellFormed := by
  constructor <;> intro id r hr <;> rw [h] at hr <;> simp at hr

end DataPlane

end R2N
