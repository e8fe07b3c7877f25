import R2N.Edge.Tables

/-!
# The dataplane's records along a run of the edge

Nonce counters and ciphers live in the dataplane's peer records.  A step of the edge either leaves
every counter alone and changes at most the key of one record, the one a completed handshake
installs (`Evolves`), or it is a call of `send_to_peer`, which advances the counter of one record
and changes nothing else (`Draws`).

* `Evolves` — reflexive up to what is kept, transitive, and met by each operation of the edge.
* **`step_evolves`** — every step is of one of the two kinds.
-/

namespace R2N

namespace DataPlane

/-- No counter and no owner of an existing record changes, and a key is either one the record had
or the one that is installed. -/
structure Evolves (installed : Option (NodeId × Key)) (dp dp' : DataPlane) : Prop where
  nextRef_le : dp.nextRef ≤ dp'.nextRef
  nodeId : ∀ r < dp.nextRef, (dp'.heap r).info.nodeId = (dp.heap r).info.nodeId
  nextNonce : ∀ r < dp.nextRef, (dp'.heap r).nextNonce = (dp.heap r).nextNonce
  key : ∀ r < dp'.nextRef, ∀ c', (dp'.heap r).cipher = some c' →
    (r < dp.nextRef ∧ (dp.heap r).cipher.map Cipher.key = some c'.key) ∨
      installed = some ((dp'.heap r).info.nodeId, c'.key)
  wellFormed : dp'.WellFormed

lemma Keeps.evolves {dp dp' : DataPlane} (h : Keeps dp dp') (hw : dp.WellFormed)
    (installed : Option (NodeId × Key)) : Evolves installed dp dp' where
  nextRef_le := h.nextRef.ge
  nodeId := fun r _ => (h.record r).nodeId
  nextNonce := fun r _ => (h.record r).nextNonce
  key := by
    intro r hr c' hc'
    refine .inl ⟨h.nextRef ▸ hr, ?_⟩
    rw [← (h.record r).key, hc']
    rfl
  wellFormed := hw.keeps h

/-- Steps that install nothing may come before. -/
lemma Evolves.trans {installed : Option (NodeId × Key)} {dp dp' dp'' : DataPlane}
    (h : Evolves none dp dp') (h' : Evolves installed dp' dp'') : Evolves installed dp dp'' where
  nextRef_le := h.nextRef_le.trans h'.nextRef_le
  nodeId := fun r hr => (h'.nodeId r (hr.trans_le h.nextRef_le)).trans (h.nodeId r hr)
  nextNonce := fun r hr => (h'.nextNonce r (hr.trans_le h.nextRef_le)).trans (h.nextNonce r hr)
  key := by
    intro r hr c'' hc''
    rcases h'.key r hr c'' hc'' with ⟨hr', hkey⟩ | hins
    · obtain ⟨c', hc', hkeys⟩ := Option.map_eq_some_iff.mp hkey
      rcases h.key r hr' c' hc' with hold | hins
      · exact .inl (by rwa [hkeys] at hold)
      · cases hins
    · exact .inr hins
  wellFormed := h'.wellFormed

/-! ## The operations -/

/-- Only the table shrinks, or fields no result reads change. -/
lemma evolves_of_heap_eq {dp dp' : DataPlane} (hw : dp'.WellFormed) (hheap : dp'.heap = dp.heap)
    (href : dp'.nextRef = dp.nextRef) : Evolves none dp dp' where
  nextRef_le := href.ge
  nodeId := fun r _ => by rw [hheap]
  nextNonce := fun r _ => by rw [hheap]
  key := by
    intro r hr c' hc'
    rw [hheap] at hc'
    exact .inl ⟨href ▸ hr, by rw [hc']; rfl⟩
  wellFormed := hw

lemma removePeer_evolves {dp : DataPlane} (hw : dp.WellFormed) (id : NodeId) :
    Evolves none dp (dp.removePeer id) :=
  evolves_of_heap_eq (hw.removePeer id) rfl rfl

/-- `upsert_peer` with a fresh record changes the record of its own node, or adds one without a
cipher. -/
lemma upsertPeer_evolves {dp : DataPlane} (hw : dp.WellFormed) (now : Instant) (info : PeerInfo)
    (relay : SocketAddr) : Evolves none dp (dp.upsertPeer (.fresh now info relay)) := by
  have hwell := hw.upsertPeer (.fresh now info relay)
  unfold upsertPeer at hwell ⊢
  cases hr : dp.peers.lookup (DataPeer.fresh now info relay).info.nodeId with
  | some r =>
      have hid : info.nodeId = (dp.heap r).info.nodeId := (hw.nodeId _ r hr).symm
      have hkeeps : Keeps dp (dp.setPeer r { dp.heap r with info := info }) :=
        keeps_setPeer ⟨hid, rfl, rfl⟩
      exact hkeeps.evolves hw none
  | none =>
      simp only [hr] at hwell
      have hheap : ∀ r < dp.nextRef, Function.update dp.heap dp.nextRef
          (DataPeer.fresh now info relay) r = dp.heap r := fun r hlt =>
        Function.update_of_ne (Nat.ne_of_lt hlt) _ _
      refine ⟨Nat.le_succ _, fun r hlt => ?_, fun r hlt => ?_, fun r hlt c' hc' => ?_, hwell⟩
      · exact congrArg (fun p : DataPeer => p.info.nodeId) (hheap r hlt)
      · exact congrArg DataPeer.nextNonce (hheap r hlt)
      · simp only [setPeer] at hc'
        by_cases hnew : r = dp.nextRef
        · subst hnew
          rw [Function.update_self] at hc'
          cases hc'
        · have hlt' : r < dp.nextRef := Nat.lt_of_le_of_ne (Nat.lt_succ_iff.mp hlt) hnew
          rw [hheap r hlt'] at hc'
          exact .inl ⟨hlt', by rw [hc']; rfl⟩

/-- Writing a cipher into the record of a node installs its key. -/
lemma setPeer_evolves {dp : DataPlane} (hw : dp.WellFormed) {id : NodeId} {r : PeerRef}
    (hr : dp.peers.lookup id = some r) {peer : DataPeer} {c : Cipher}
    (hinfo : peer.info = (dp.heap r).info) (hnonce : peer.nextNonce = (dp.heap r).nextNonce)
    (hcipher : peer.cipher = some c) :
    Evolves (some (id, c.key)) dp (dp.setPeer r peer) := by
  have hother : ∀ r' ≠ r, (dp.setPeer r peer).heap r' = dp.heap r' := fun r' hne =>
    Function.update_of_ne hne _ _
  have hself : (dp.setPeer r peer).heap r = peer := Function.update_self _ _ _
  have hnodeId : ∀ r', ((dp.setPeer r peer).heap r').info.nodeId = (dp.heap r').info.nodeId := by
    intro r'
    by_cases hne : r' = r
    · rw [hne, hself, hinfo]
    · rw [hother r' hne]
  refine ⟨le_refl _, fun r' _ => hnodeId r', fun r' _ => ?_, fun r' hlt c' hc' => ?_, ?_⟩
  · by_cases hne : r' = r
    · rw [hne, hself, hnonce]
    · rw [hother r' hne]
  · by_cases hne : r' = r
    · subst hne
      rw [hself, hcipher] at hc'
      obtain rfl := Option.some.inj hc'
      exact .inr (by rw [hnodeId, hw.nodeId id r' hr])
    · rw [hother r' hne] at hc'
      exact .inl ⟨hlt, by rw [hc']; rfl⟩
  · exact hw.of_owners rfl rfl hnodeId

/-- `set_direct_path` with a cipher installs its key in the record of the node. -/
lemma setDirectPath_evolves {dp : DataPlane} (hw : dp.WellFormed) (now : Instant) (id : NodeId)
    (addr : SocketAddr) (c : Cipher) :
    Evolves (some (id, c.key)) dp (dp.setDirectPath now id addr (some c)) := by
  unfold setDirectPath
  cases hr : dp.peers.lookup id with
  | none => exact (Keeps.refl dp).evolves hw _
  | some r => exact setPeer_evolves hw hr rfl rfl rfl

/-! ## Drawing a nonce -/

/-- The counter of record `r` advances by one, and nothing else that the results read changes. -/
structure Draws (r : PeerRef) (dp dp' : DataPlane) : Prop where
  nodeId : ∀ r', (dp'.heap r').info.nodeId = (dp.heap r').info.nodeId
  key : ∀ r', (dp'.heap r').cipher.map Cipher.key = (dp.heap r').cipher.map Cipher.key
  other : ∀ r' ≠ r, (dp'.heap r').nextNonce = (dp.heap r').nextNonce
  self : (dp'.heap r).nextNonce = (dp.heap r).nextNonce + 1
  peers : dp'.peers = dp.peers
  nextRef : dp'.nextRef = dp.nextRef

lemma Draws.wellFormed {r : PeerRef} {dp dp' : DataPlane} (h : Draws r dp dp')
    (hw : dp.WellFormed) : dp'.WellFormed :=
  hw.of_owners h.peers h.nextRef h.nodeId

/-- A call of `send_to_peer`, from a plane that keeps every record: it stops before it draws a
nonce, or it draws one and encrypts under the key of the record, if it has one. -/
lemma sendToPeer_draws {dp dp₀ : DataPlane} (hk : Keeps dp dp₀) (A : Aead) (E : Etherparse)
    (r : PeerRef) (t : DataPacketType) (payload : Bytes) (target : Option SocketAddr)
    (flood : Bool) (net : NetAnswer) :
    let out := dp₀.sendToPeer A E r t payload target flood net
    (Keeps dp out.plane ∧ out.encrypted = none) ∨
    (Draws r dp out.plane ∧ out.encrypted =
      ((dp.heap r).cipher.map Cipher.key).map fun key => (key, (dp.heap r).nextNonce)) := by
  intro out
  rcases dp₀.sendToPeer_effect A E r t payload target flood net with
    ⟨-, hplane, henc, -⟩ | ⟨-, hheap, henc, hpeers, href, -⟩
  · left
    exact ⟨hplane ▸ hk, henc⟩
  · right
    have hrec := hk.record r
    have hother : ∀ r' ≠ r, out.plane.heap r' = dp₀.heap r' := by
      intro r' hne
      rw [hheap, Function.update_of_ne hne]
    have hself : out.plane.heap r =
        { dp₀.heap r with nextNonce := (dp₀.heap r).nextNonce + 1 } := by
      rw [hheap, Function.update_self]
    refine ⟨⟨fun r' => ?_, fun r' => ?_, fun r' hne => ?_, ?_, ?_, ?_⟩, ?_⟩
    · by_cases hne : r' = r
      · rw [hne, hself, ← hrec.nodeId]
      · rw [hother r' hne, (hk.record r').nodeId]
    · by_cases hne : r' = r
      · rw [hne, hself, ← hrec.key]
      · rw [hother r' hne, (hk.record r').key]
    · rw [hother r' hne, (hk.record r').nextNonce]
    · rw [hself, ← hrec.nextNonce]
    · exact hpeers.trans hk.peers
    · exact href.trans hk.nextRef
    · rw [henc, ← hrec.key, ← hrec.nextNonce, Option.map_map]
      rfl

end DataPlane

namespace Edge

/-! ## The edge's operations -/

lemma addPeer_evolves {e : Edge} (hw : e.dataplane.WellFormed) (now : Instant) (peer : PeerInfo) :
    DataPlane.Evolves none e.dataplane (e.addPeer now peer).dataplane :=
  DataPlane.upsertPeer_evolves hw now peer e.supernodeAddr

lemma foldl_addPeer_evolves (now : Instant) (l : List PeerInfo) {e : Edge}
    (hw : e.dataplane.WellFormed) : DataPlane.Evolves none e.dataplane
      (l.foldl (fun e peer => e.addPeer now peer) e).dataplane := by
  induction l generalizing e with
  | nil => exact (DataPlane.Keeps.refl _).evolves hw none
  | cons p l ih =>
      have hp := addPeer_evolves hw now p
      exact hp.trans (ih hp.wellFormed)

lemma foldl_removePeer_evolves (l : List NodeId) {e : Edge} (hw : e.dataplane.WellFormed) :
    DataPlane.Evolves none e.dataplane (l.foldl removePeer e).dataplane := by
  induction l generalizing e with
  | nil => exact (DataPlane.Keeps.refl _).evolves hw none
  | cons id l ih =>
      have hid : DataPlane.Evolves none e.dataplane (e.removePeer id).dataplane :=
        DataPlane.removePeer_evolves hw id
      exact hid.trans (ih hid.wellFormed)

lemma handlePeerList_evolves {e : Edge} (hw : e.dataplane.WellFormed) (now : Instant)
    (roomPeers : List PeerInfo) :
    DataPlane.Evolves none e.dataplane (e.handlePeerList now roomPeers).dataplane := by
  have hadd := foldl_addPeer_evolves now
    (roomPeers.filter fun peer => peer.nodeId ≠ e.nodeId) hw
  exact hadd.trans (foldl_removePeer_evolves _ hadd.wellFormed)

lemma activateRoom_evolves {e : Edge} (hw : e.dataplane.WellFormed) (room : RoomId)
    (io : EdgeIo) : DataPlane.Evolves none e.dataplane (e.activateRoom room io).2.dataplane := by
  have hsame : ∀ tun roomId, DataPlane.Evolves none e.dataplane
      { e.dataplane with tun := tun, roomId := roomId } := fun tun roomId =>
    DataPlane.evolves_of_heap_eq ⟨hw.ref_lt, hw.nodeId⟩ rfl rfl
  unfold activateRoom
  split
  · exact hsame _ _
  · simp only
    split
    · exact hsame _ _
    · split
      · exact hsame _ _
      · split
        · split
          · exact hsame _ _
          · exact hsame _ _
        · exact hsame _ _

/-- A control frame installs at most the cipher the handler reports. -/
lemma handleControl_evolves (N : Noise) {e : Edge} (hw : e.dataplane.WellFormed)
    (frame : ControlFrame) (addr : SocketAddr) (io : EdgeIo) :
    let out := e.handleControl N frame addr io
    DataPlane.Evolves (out.installed.map fun ins => (ins.peer, ins.key)) e.dataplane
      out.edge.dataplane := by
  have hrefl : DataPlane.Evolves none e.dataplane e.dataplane :=
    (DataPlane.Keeps.refl _).evolves hw none
  cases frame with
  | roomCreated room _ _ _ => exact activateRoom_evolves hw room io
  | joinAccept room _ _ _ => exact activateRoom_evolves hw room io
  | peerList roomPeers => exact handlePeerList_evolves hw io.now roomPeers
  | peerUpdate peer action =>
      cases action with
      | remove => exact DataPlane.removePeer_evolves hw peer.nodeId
      | add | update =>
          simp only [handleControl, EdgeOutcome.silent, handlePeerUpdate, Option.map_none]
          split_ifs
          · exact hrefl
          · exact addPeer_evolves hw io.now peer
  | punchRequest target candidates =>
      simp only [handleControl]
      cases hpeer : e.peers.lookup target with
      | none =>
          rw [handlePunchRequest_unknown N hpeer]
          exact hrefl
      | some peer =>
          obtain ⟨dataplane, hkeeps, hout⟩ := handlePunchRequest_known N hpeer candidates io
          rw [hout]
          exact hkeeps.evolves hw none
  | handshake fromNode payload =>
      simp only [handleControl]
      cases hpeer : e.peers.lookup fromNode with
      | none =>
          rw [handleHandshake_unknown N hpeer]
          exact hrefl
      | some peer =>
          obtain ⟨-, -, hins, hplane⟩ := handleHandshake_known N hpeer payload addr io
          rw [hins, hplane]
          cases (e.readHandshake N peer payload io).install peer.cipher with
          | none => exact hrefl
          | some ks => exact DataPlane.setDirectPath_evolves hw io.now fromNode addr (.new ks.1)
  | _ => exact hrefl

lemma handleCommand_evolves {e : Edge} (hw : e.dataplane.WellFormed) (cmd : EdgeCommand)
    (sendOk : Bool) :
    DataPlane.Evolves none e.dataplane (e.handleCommand cmd sendOk).edge.dataplane := by
  rw [(e.handleCommand_keeps cmd sendOk).2]
  exact (DataPlane.Keeps.refl _).evolves hw none

/-! ## One step -/

/-- The record a step may draw a nonce from: that of a send, or the sender's for the pong that
answers an accepted ping. -/
def drawsFrom (P : Platform) (e : Edge) : EdgeInput → Option PeerRef
  | .data h payload _ io =>
      if h.packetType = .ping ∧ (e.dataplane.acceptedPacket P.aead io.now h payload).isSome then
        e.dataplane.peers.lookup h.srcNode
      else none
  | .send call => if call.peer < e.dataplane.nextRef then some call.peer else none
  | _ => none

/-- The encryption a record is used for when a nonce is drawn from it. -/
def encryptionWith (e : Edge) (r : PeerRef) : List (PeerRef × Key × UInt64) :=
  match (e.dataplane.heap r).cipher with
  | some c => [(r, c.key, (e.dataplane.heap r).nextNonce)]
  | none => []

/-- **The two kinds of steps.** -/
theorem step_evolves (P : Platform) {e : Edge} (hw : e.dataplane.WellFormed) (i : EdgeInput) :
    (DataPlane.Evolves ((e.installedBy P i).map fun ins => (ins.peer, ins.key)) e.dataplane
        (e.step P i).dataplane ∧ e.encryptionsBy P i = []) ∨
    (∃ r, e.drawsFrom P i = some r ∧ r < e.dataplane.nextRef ∧
      DataPlane.Draws r e.dataplane (e.step P i).dataplane ∧ e.installedBy P i = none ∧
      e.encryptionsBy P i = e.encryptionWith r) := by
  have hrefl : DataPlane.Evolves none e.dataplane e.dataplane :=
    (DataPlane.Keeps.refl _).evolves hw none
  cases i with
  | control frame addr io => exact .inl ⟨handleControl_evolves P.noise hw frame addr io, rfl⟩
  | command cmd sendOk => exact .inl ⟨handleCommand_evolves hw cmd sendOk, rfl⟩
  | failover supernode => exact .inl ⟨hrefl, rfl⟩
  | finishLeave =>
      refine .inl ⟨?_, rfl⟩
      simp only [step, installedBy, Option.map_none]
      split_ifs
      · exact DataPlane.evolves_of_heap_eq (DataPlane.wellFormed_of_empty rfl) rfl rfl
      · exact hrefl
  | send call =>
      by_cases hlt : call.peer < e.dataplane.nextRef
      · simp only [step, installedBy, encryptionsBy, drawsFrom, if_pos hlt]
        rcases DataPlane.sendToPeer_draws (.refl e.dataplane) P.aead P.etherparse call.peer
            call.packetType call.payload call.target call.flood call.net with
          ⟨hkeeps, henc⟩ | ⟨hdraws, henc⟩
        · refine .inl ⟨hkeeps.evolves hw none, ?_⟩
          rw [show (e.sendOutcome P call).encrypted = none from henc]
        · refine .inr ⟨call.peer, rfl, hlt, hdraws, trivial, ?_⟩
          rw [show (e.sendOutcome P call).encrypted = _ from henc, encryptionWith]
          cases (e.dataplane.heap call.peer).cipher <;> rfl
      · refine .inl ?_
        simp only [step, installedBy, encryptionsBy, if_neg hlt]
        exact ⟨hrefl, trivial⟩
  | data h payload addr io =>
      simp only [step, installedBy, encryptionsBy]
      rcases e.dataplane.handleIncomingFrame_keeps P.aead P.etherparse P.macos h payload addr io
        with ⟨hkeeps, henc⟩ | ⟨r, dp', packet, hping, hpacket, hr, hkeeps, hplane, henc⟩
      · refine .inl ⟨hkeeps.evolves hw none, ?_⟩
        rw [show (e.dataOutcome P h payload addr io).encrypted = none from henc]
        split <;> simp_all
      · rw [show (e.dataOutcome P h payload addr io).plane = _ from hplane,
          show (e.dataOutcome P h payload addr io).encrypted = _ from henc, hr]
        rcases DataPlane.sendToPeer_draws hkeeps P.aead P.etherparse r .pong packet (some addr)
            false io.pongSend with ⟨hkeeps', henc'⟩ | ⟨hdraws, henc'⟩
        · refine .inl ⟨hkeeps'.evolves hw none, ?_⟩
          rw [henc']
        · refine .inr ⟨r, ?_, hw.ref_lt _ r hr, hdraws, trivial, ?_⟩
          · simp [drawsFrom, hping, hpacket, hr]
          rw [henc', encryptionWith]
          cases (e.dataplane.heap r).cipher <;> rfl

end Edge

end R2N
