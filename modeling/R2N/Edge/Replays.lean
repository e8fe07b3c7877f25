import R2N.Crypto.Replay
import R2N.Edge.Evolution

/-!
# Replays at the edge

A frame that was recorded on the wire may be sent again at any time.  The replay window is part of
the cipher, the cipher is part of a peer's record, and the record is changed by nearly everything an
edge does: announcements, punches, handshakes, paths, sends and other frames.

* `DataPlane.CiphersKept` — the ciphers stay as they are, window and all.
* `DataPlane.handleIncomingFrame_ciphers` — a data frame advances the window of its sender exactly
  if it is accepted under the sender's key, and changes no other cipher.
* `Edge.step_ciphers` — nothing else an edge does touches a window; an installed key comes with a
  new one.
* **`sealed_frames_once`** — in any run, between two installations of a key into the record of a
  peer no nonce of that peer is accepted twice.
-/

namespace R2N

open Run

namespace DataPlane

/-- The ciphers of the records stay, and a record that is new has none. -/
structure CiphersKept (dp dp' : DataPlane) : Prop where
  nextRef_le : dp.nextRef ≤ dp'.nextRef
  cipher : ∀ r, (dp'.heap r).cipher = (dp.heap r).cipher ∨
    dp.nextRef ≤ r ∧ (dp'.heap r).cipher = none

variable {dp dp' dp'' : DataPlane}

lemma CiphersKept.of_heap_eq (hheap : dp'.heap = dp.heap) (href : dp'.nextRef = dp.nextRef) :
    CiphersKept dp dp' :=
  ⟨href.ge, fun r => .inl (by rw [hheap])⟩

lemma CiphersKept.refl (dp : DataPlane) : CiphersKept dp dp := .of_heap_eq rfl rfl

lemma CiphersKept.trans (h : CiphersKept dp dp') (h' : CiphersKept dp' dp'') :
    CiphersKept dp dp'' := by
  refine ⟨h.nextRef_le.trans h'.nextRef_le, fun r => ?_⟩
  rcases h'.cipher r with heq | ⟨hnew, hnone⟩
  · rw [heq]
    exact h.cipher r
  · exact .inr ⟨h.nextRef_le.trans hnew, hnone⟩

/-- A record is written without a change of its cipher. -/
lemma ciphersKept_setPeer {r : PeerRef} {peer : DataPeer}
    (hcipher : peer.cipher = (dp.heap r).cipher) : CiphersKept dp (dp.setPeer r peer) := by
  refine ⟨le_refl _, fun r' => .inl ?_⟩
  by_cases hr : r' = r
  · subst hr
    simpa [setPeer] using hcipher
  · simp [setPeer, hr]

/-! ## The operations of the plane -/

lemma ciphersKept_upsertPeer (dp : DataPlane) (now : Instant) (info : PeerInfo)
    (relay : SocketAddr) : CiphersKept dp (dp.upsertPeer (.fresh now info relay)) := by
  unfold upsertPeer
  split
  · exact ciphersKept_setPeer rfl
  · refine ⟨Nat.le_succ _, fun r => ?_⟩
    by_cases hr : r = dp.nextRef
    · subst hr
      exact .inr ⟨le_refl _, by simp [setPeer, DataPeer.fresh]⟩
    · exact .inl (by simp [setPeer, hr])

lemma ciphersKept_setDirectPath (dp : DataPlane) (now : Instant) (id : NodeId)
    (addr : SocketAddr) : CiphersKept dp (dp.setDirectPath now id addr none) := by
  unfold setDirectPath
  split
  · exact .refl dp
  · exact ciphersKept_setPeer rfl

lemma ciphersKept_addPeerCandidate (dp : DataPlane) (now : Instant) (id : NodeId)
    (addr : SocketAddr) : CiphersKept dp (dp.addPeerCandidate now id addr) := by
  unfold addPeerCandidate
  split
  · exact .refl dp
  · exact ciphersKept_setPeer rfl

lemma ciphersKept_sendToPeer (dp : DataPlane) (A : Aead) (E : Etherparse) (r : PeerRef)
    (t : DataPacketType) (payload : Bytes) (target : Option SocketAddr) (flood : Bool)
    (net : NetAnswer) :
    CiphersKept dp (dp.sendToPeer A E r t payload target flood net).plane := by
  rcases dp.sendToPeer_effect A E r t payload target flood net with
    ⟨-, hplane, -⟩ | ⟨-, hheap, -, -, href, -⟩
  · rw [hplane]
    exact .refl dp
  · have hset : CiphersKept dp
        (dp.setPeer r { dp.heap r with nextNonce := (dp.heap r).nextNonce + 1 }) :=
      ciphersKept_setPeer rfl
    exact hset.trans (.of_heap_eq hheap href)

lemma ciphersKept_learnPath (dp : DataPlane) (now : Instant) (r : PeerRef) (addr : SocketAddr) :
    CiphersKept dp (dp.learnPath now r addr) := by
  unfold learnPath
  simp only
  split_ifs
  · exact .refl dp
  · exact ciphersKept_setPeer rfl

lemma ciphersKept_recordPong (dp : DataPlane) (r : PeerRef) (packet : Bytes) (io : IncomingIo) :
    CiphersKept dp (dp.recordPong r packet io) := by
  unfold recordPong
  split
  · split_ifs
    · exact ciphersKept_setPeer rfl
    · exact .refl dp
  · exact .refl dp

lemma ciphersKept_learnFromPacket (dp : DataPlane) (r : PeerRef) (header : DataHeader)
    (packet : Bytes) (addr : SocketAddr) (now : Instant) :
    CiphersKept dp (dp.learnFromPacket r header packet addr now) := by
  have hpath : CiphersKept dp (if (dp.heap r).pathManager.isRelayAddr addr then dp
      else dp.setDirectPath now header.srcNode addr none) := by
    split_ifs
    · exact .refl dp
    · exact ciphersKept_setDirectPath dp now header.srcNode addr
  unfold learnFromPacket
  generalize (if (dp.heap r).pathManager.isRelayAddr addr then dp
      else dp.setDirectPath now header.srcNode addr none) = dp' at hpath ⊢
  simp only
  split
  · next _ srcMac _ _ =>
    obtain ⟨macTable, hmac⟩ := dp'.learnMac_plane now srcMac header.srcNode
    rw [hmac]
    exact hpath.trans (.of_heap_eq rfl rfl)
  · exact hpath

lemma ciphersKept_handlePacket (dp : DataPlane) (A : Aead) (E : Etherparse) (macos : Bool)
    (r : PeerRef) (header : DataHeader) (packet : Bytes) (addr : SocketAddr) (io : IncomingIo) :
    CiphersKept dp (dp.handlePacket A E macos r header packet addr io).plane := by
  have hlearn := dp.ciphersKept_learnFromPacket r header packet addr io.now
  unfold handlePacket
  simp only
  split
  · exact dp.ciphersKept_sendToPeer A E r .pong packet (some addr) false io.pongSend
  split
  · exact dp.ciphersKept_recordPong r packet io
  split
  · exact hlearn
  split
  · exact hlearn
  · exact hlearn

/-! ## Receiving -/

/-- The nonce that a data frame is accepted with under the key of its sender, and the sender's
record. -/
def sealedBy (A : Aead) (dp : DataPlane) (now : Instant) (h : DataHeader) (payload : Bytes) :
    Option (PeerRef × UInt64) :=
  (dp.peers.lookup h.srcNode).bind fun r =>
    if (dp.heap r).cipher.isSome ∧ (dp.acceptedPacket A now h payload).isSome then
      some (r, h.nonce)
    else none

/-- The plane with the window of a record advanced. -/
def acceptedNonce (dp : DataPlane) (r : PeerRef) (c : Cipher) (nonce : UInt64) : DataPlane :=
  dp.setPeer r { dp.heap r with cipher := some { c with window := c.window.advance nonce } }

/-- **A data frame and the ciphers**: the window of its sender advances if it is accepted under the
sender's key, after the window has let its nonce pass; else every cipher stays as it is. -/
lemma handleIncomingFrame_ciphers (A : Aead) (E : Etherparse) (macos : Bool) (dp : DataPlane)
    (h : DataHeader) (payload : Bytes) (addr : SocketAddr) (io : IncomingIo) :
    dp.sealedBy A io.now h payload = none ∧
      CiphersKept dp (dp.handleIncomingFrame A E macos h payload addr io).plane ∨
    ∃ r c, dp.sealedBy A io.now h payload = some (r, h.nonce) ∧
      dp.peers.lookup h.srcNode = some r ∧ (dp.heap r).cipher = some c ∧
      c.window.check h.nonce = .ok () ∧
      CiphersKept (dp.acceptedNonce r c h.nonce)
        (dp.handleIncomingFrame A E macos h payload addr io).plane := by
  obtain ⟨seenFlood, hseen⟩ := dp.validateIncomingHeader_plane io.now h
  have hsame : CiphersKept dp { dp with seenFlood } := .of_heap_eq rfl rfl
  unfold sealedBy acceptedPacket handleIncomingFrame
  generalize dp.validateIncomingHeader io.now h = val at hseen ⊢
  obtain ⟨valid, dp₁⟩ := val
  obtain rfl : dp₁ = { dp with seenFlood } := hseen
  cases valid with
  | false =>
      refine .inl ⟨?_, hsame⟩
      cases dp.peers.lookup h.srcNode <;> simp
  | true =>
      simp only [if_true]
      cases hr : dp.peers.lookup h.srcNode with
      | none => exact .inl ⟨rfl, hsame⟩
      | some r =>
          simp only [Option.bind_some]
          cases hc : (dp.heap r).cipher with
          | none =>
              -- what comes without a key is let through as it is
              refine .inl ⟨by simp, ?_⟩
              simp only [openPayload, hc]
              exact hsame.trans ((ciphersKept_learnPath _ io.now r addr).trans
                (ciphersKept_handlePacket _ A E macos r h payload addr io))
          | some c =>
              rcases c.call_cases A (.decryptInPlace h.nonce (headerAad h) payload) with
                ⟨packet, hcall, hcheck, -⟩ | ⟨err, hcall, -⟩
              · have hdec : c.decryptInPlace A h.nonce (headerAad h) payload =
                    (.ok packet, { c with window := c.window.advance h.nonce }) := hcall
                refine .inr ⟨r, c, ?_, rfl, hc, hcheck, ?_⟩
                · simp [openPayload, hc, hdec, Except.toOption]
                · simp only [openPayload, hc, hdec]
                  have hopen : CiphersKept (dp.acceptedNonce r c h.nonce)
                      (({ dp with seenFlood } : DataPlane).acceptedNonce r c h.nonce) :=
                    .of_heap_eq rfl rfl
                  exact hopen.trans ((ciphersKept_learnPath _ io.now r addr).trans
                    (ciphersKept_handlePacket _ A E macos r h packet addr io))
              · have hdec : c.decryptInPlace A h.nonce (headerAad h) payload = (.error err, c) :=
                  hcall
                refine .inl ⟨?_, ?_⟩
                · simp [openPayload, hc, hdec, Except.toOption]
                · simp only [openPayload, hc, hdec]
                  exact hsame.trans (ciphersKept_setPeer hc.symm)

end DataPlane

namespace Edge

/-! ## The other steps of an edge -/

lemma ciphersKept_addPeers (now : Instant) (l : List PeerInfo) (e : Edge) :
    DataPlane.CiphersKept e.dataplane
      (l.foldl (fun e peer => e.addPeer now peer) e).dataplane := by
  induction l generalizing e with
  | nil => exact .refl _
  | cons peer l ih =>
      have hpeer : DataPlane.CiphersKept e.dataplane (e.addPeer now peer).dataplane :=
        DataPlane.ciphersKept_upsertPeer e.dataplane now peer e.supernodeAddr
      exact hpeer.trans (ih (e.addPeer now peer))

lemma ciphersKept_removePeers (l : List NodeId) (e : Edge) :
    DataPlane.CiphersKept e.dataplane (l.foldl removePeer e).dataplane := by
  induction l generalizing e with
  | nil => exact .refl _
  | cons id l ih =>
      have hid : DataPlane.CiphersKept e.dataplane (e.removePeer id).dataplane :=
        .of_heap_eq rfl rfl
      exact hid.trans (ih (e.removePeer id))

lemma ciphersKept_activateRoom (e : Edge) (room : RoomId) (io : EdgeIo) :
    DataPlane.CiphersKept e.dataplane (e.activateRoom room io).2.dataplane := by
  unfold activateRoom
  split
  · exact .refl _
  · simp only
    split
    · exact .refl _
    · split_ifs
      · exact .of_heap_eq rfl rfl
      · exact .refl _
      · exact .of_heap_eq rfl rfl
      · exact .of_heap_eq rfl rfl

lemma ciphersKept_punch (N : Noise) (e : Edge) (target : NodeId) (candidates : List Candidate)
    (io : EdgeIo) : DataPlane.CiphersKept e.dataplane
      (e.handlePunchRequest N target candidates io).edge.dataplane := by
  have hfold : ∀ (l : List Candidate) (dp : DataPlane), DataPlane.CiphersKept dp
      (l.foldl (fun dp candidate => dp.addPeerCandidate io.now target candidate.addr) dp) := by
    intro l
    induction l with
    | nil => exact .refl
    | cons candidate l ih =>
        intro dp
        exact (dp.ciphersKept_addPeerCandidate io.now target candidate.addr).trans (ih _)
  unfold handlePunchRequest
  split
  · exact .refl _
  · simp only
    split
    · exact hfold candidates e.dataplane
    · exact hfold candidates e.dataplane

/-- The record a step installs a key into, and the key. -/
def rekeyedBy (P : Platform) (e : Edge) (i : EdgeInput) : Option (PeerRef × Key) :=
  (e.installedBy P i).bind fun ins =>
    (e.dataplane.peers.lookup ins.peer).map fun r => (r, ins.key)

/-- The nonce a step accepts under the key of a record. -/
def sealedBy (P : Platform) (e : Edge) : EdgeInput → Option (PeerRef × UInt64)
  | .data h payload _ io => e.dataplane.sealedBy P.aead io.now h payload
  | _ => none

/-- One record gets a new cipher, and no other changes. -/
structure Rekeys (r : PeerRef) (key : Key) (dp dp' : DataPlane) : Prop where
  nextRef : dp'.nextRef = dp.nextRef
  self : (dp'.heap r).cipher = some (.new key)
  other : ∀ r' ≠ r, (dp'.heap r').cipher = (dp.heap r').cipher

/-- A handshake that completes gives the record of its peer a new cipher. -/
lemma handleHandshake_ciphers (N : Noise) (e : Edge) (fromNode : NodeId) (payload : Bytes)
    (addr : SocketAddr) (io : EdgeIo) :
    let out := e.handleHandshake N fromNode payload addr io
    let rekeyed := out.installed.bind fun ins =>
      (e.dataplane.peers.lookup ins.peer).map fun r => (r, ins.key)
    rekeyed = none ∧ DataPlane.CiphersKept e.dataplane out.edge.dataplane ∨
    ∃ r key, rekeyed = some (r, key) ∧ e.dataplane.peers.lookup fromNode = some r ∧
      Rekeys r key e.dataplane out.edge.dataplane := by
  intro out rekeyed
  cases hpeer : e.peers.lookup fromNode with
  | none =>
      simp only [rekeyed, out, handleHandshake_unknown N hpeer]
      exact .inl ⟨rfl, .refl _⟩
  | some peer =>
      obtain ⟨-, -, hins, hplane⟩ := handleHandshake_known N hpeer payload addr io
      simp only [rekeyed, out, hins, hplane]
      cases (e.readHandshake N peer payload io).install peer.cipher with
      | none => exact .inl ⟨rfl, .refl _⟩
      | some ks =>
          simp only [Option.map_some, Option.bind_some, DataPlane.setDirectPath]
          cases hr : e.dataplane.peers.lookup fromNode with
          | none => exact .inl ⟨rfl, .refl _⟩
          | some r =>
              refine .inr ⟨r, ks.1, rfl, rfl, rfl, ?_, fun r' hne => ?_⟩
              · simp [DataPlane.setPeer]
              · simp [DataPlane.setPeer, hne]

/-- **One step and the ciphers.**  Every cipher stays, or one record is given a new one, or the
window of one record advances by a nonce it has let pass. -/
theorem step_ciphers (P : Platform) (e : Edge) (i : EdgeInput) :
    (e.rekeyedBy P i = none ∧ e.sealedBy P i = none ∧
      DataPlane.CiphersKept e.dataplane (e.step P i).dataplane) ∨
    (∃ id r key, e.rekeyedBy P i = some (r, key) ∧ e.dataplane.peers.lookup id = some r ∧
      Rekeys r key e.dataplane (e.step P i).dataplane) ∨
    (∃ id r nonce c, e.rekeyedBy P i = none ∧ e.sealedBy P i = some (r, nonce) ∧
      e.dataplane.peers.lookup id = some r ∧ (e.dataplane.heap r).cipher = some c ∧
      c.window.check nonce = .ok () ∧
      DataPlane.CiphersKept (e.dataplane.acceptedNonce r c nonce) (e.step P i).dataplane) := by
  cases i with
  | data h payload addr io =>
      rcases e.dataplane.handleIncomingFrame_ciphers P.aead P.etherparse P.macos h payload addr io
        with ⟨hsealed, hkept⟩ | ⟨r, c, hsealed, hr, hc, hcheck, hkept⟩
      · exact .inl ⟨rfl, hsealed, hkept⟩
      · exact .inr (.inr ⟨h.srcNode, r, h.nonce, c, rfl, hsealed, hr, hc, hcheck, hkept⟩)
  | command cmd sendOk =>
      refine .inl ⟨rfl, rfl, ?_⟩
      simp only [step, (e.handleCommand_keeps cmd sendOk).2]
      exact .refl _
  | finishLeave =>
      refine .inl ⟨rfl, rfl, ?_⟩
      simp only [step]
      split_ifs
      · exact .of_heap_eq rfl rfl
      · exact .refl _
  | failover supernode => exact .inl ⟨rfl, rfl, .refl _⟩
  | send call =>
      refine .inl ⟨rfl, rfl, ?_⟩
      simp only [step]
      split_ifs
      · exact e.dataplane.ciphersKept_sendToPeer P.aead P.etherparse call.peer call.packetType
          call.payload call.target call.flood call.net
      · exact .refl _
  | control frame addr io =>
      cases frame with
      | handshake fromNode payload =>
          rcases e.handleHandshake_ciphers P.noise fromNode payload addr io with
            ⟨hnone, hkept⟩ | ⟨r, key, hsome, hr, hrekeys⟩
          · exact .inl ⟨hnone, rfl, hkept⟩
          · exact .inr (.inl ⟨fromNode, r, key, hsome, hr, hrekeys⟩)
      | punchRequest target candidates =>
          refine .inl ⟨?_, rfl, e.ciphersKept_punch P.noise target candidates io⟩
          unfold rekeyedBy installedBy handleControl handlePunchRequest
          simp only
          split
          · rfl
          · split <;> rfl
      | roomCreated room _ _ _ => exact .inl ⟨rfl, rfl, e.ciphersKept_activateRoom room io⟩
      | joinAccept room _ _ _ => exact .inl ⟨rfl, rfl, e.ciphersKept_activateRoom room io⟩
      | peerList roomPeers =>
          refine .inl ⟨rfl, rfl, ?_⟩
          exact (ciphersKept_addPeers io.now _ e).trans (ciphersKept_removePeers _ _)
      | peerUpdate peer action =>
          refine .inl ⟨rfl, rfl, ?_⟩
          cases action with
          | remove => exact ciphersKept_removePeers [peer.nodeId] e
          | add | update =>
              simp only [step, handleControl, EdgeOutcome.silent, handlePeerUpdate]
              split_ifs
              · exact .refl _
              · exact ciphersKept_addPeers io.now [peer] e
      | _ => exact .inl ⟨rfl, rfl, .refl _⟩

end Edge

/-! ## Whole runs -/

/-- An edge, and for every record the nonces accepted since a key was last installed into it. -/
structure Receiver where
  edge : Edge
  accepted : PeerRef → List UInt64

namespace Receiver

def step (P : Platform) (s : Receiver) (i : EdgeInput) : Receiver where
  edge := s.edge.step P i
  accepted :=
    match s.edge.rekeyedBy P i, s.edge.sealedBy P i with
    | some (r, _), _ => Function.update s.accepted r []
    | none, some (r, nonce) => Function.update s.accepted r (nonce :: s.accepted r)
    | none, none => s.accepted

/-- What is known of a record with the accepted nonces and its cipher: the window marks every
nonce, and where there is no key nothing was accepted. -/
structure Remembered (accepted : List UInt64) (cipher : Option Cipher) : Prop where
  nodup : accepted.Nodup
  marks : ∀ c, cipher = some c → c.window.Marks accepted
  nil : cipher = none → accepted = []

lemma remembered_nil (cipher : Option Cipher) : Remembered [] cipher where
  nodup := List.nodup_nil
  marks := by
    intro c _ m hm
    cases hm
  nil := fun _ => rfl

lemma Remembered.accept {accepted : List UInt64} {c : Cipher} {nonce : UInt64}
    (h : Remembered accepted (some c)) (hcheck : c.window.check nonce = .ok ()) :
    Remembered (nonce :: accepted) (some { c with window := c.window.advance nonce }) where
  nodup := h.nodup.cons ((h.marks c rfl).notMem_of_check hcheck)
  marks := by
    rintro _ ⟨⟩
    exact (h.marks c rfl).advance hcheck
  nil := nofun

/-- The records are remembered, and one that does not exist yet has accepted nothing. -/
structure Sound (s : Receiver) : Prop where
  wellFormed : s.edge.dataplane.WellFormed
  remembered : ∀ r, Remembered (s.accepted r) (s.edge.dataplane.heap r).cipher
  fresh : ∀ r, s.edge.dataplane.nextRef ≤ r → s.accepted r = []

/-- Ciphers that stay remember what they remembered. -/
lemma remembered_of_kept {dp dp' : DataPlane} {accepted : PeerRef → List UInt64}
    (hkept : DataPlane.CiphersKept dp dp')
    (h : ∀ r, Remembered (accepted r) (dp.heap r).cipher)
    (hfresh : ∀ r, dp.nextRef ≤ r → accepted r = []) (r : PeerRef) :
    Remembered (accepted r) (dp'.heap r).cipher := by
  rcases hkept.cipher r with heq | ⟨hnew, -⟩
  · rw [heq]
    exact h r
  · rw [hfresh r hnew]
    exact remembered_nil _

/-- After a step every cipher still remembers the nonces it was accepted with. -/
lemma Sound.step {s : Receiver} (h : s.Sound) (P : Platform) (i : EdgeInput) :
    (s.step P i).Sound := by
  have hwell : (s.edge.step P i).dataplane.WellFormed := by
    rcases Edge.step_evolves P h.wellFormed i with ⟨he, -⟩ | ⟨r, -, -, he, -, -⟩
    · exact he.wellFormed
    · exact he.wellFormed h.wellFormed
  rcases s.edge.step_ciphers P i with ⟨hkey, hseal, hkept⟩ | ⟨id, r, key, hkey, hr, hrekeys⟩ |
    ⟨id, r, nonce, c, hkey, hseal, hr, hc, hcheck, hkept⟩
  · refine ⟨hwell, ?_, ?_⟩
    · simp only [Receiver.step, hkey, hseal]
      exact remembered_of_kept hkept h.remembered h.fresh
    · simp only [Receiver.step, hkey, hseal]
      exact fun r hr => h.fresh r (hkept.nextRef_le.trans hr)
  · have hlt := h.wellFormed.ref_lt id r hr
    refine ⟨hwell, fun r' => ?_, fun r' hr' => ?_⟩
    · simp only [Receiver.step, hkey]
      by_cases hne : r' = r
      · rw [hne, Function.update_self]
        exact remembered_nil _
      · rw [Function.update_of_ne hne, hrekeys.other r' hne]
        exact h.remembered r'
    · simp only [Receiver.step, hkey, hrekeys.nextRef] at hr' ⊢
      rw [Function.update_of_ne (Nat.ne_of_gt (hlt.trans_le hr'))]
      exact h.fresh r' hr'
  · have hlt := h.wellFormed.ref_lt id r hr
    have hfresh : ∀ r', s.edge.dataplane.nextRef ≤ r' →
        Function.update s.accepted r (nonce :: s.accepted r) r' = [] := by
      intro r' hr'
      rw [Function.update_of_ne (Nat.ne_of_gt (hlt.trans_le hr'))]
      exact h.fresh r' hr'
    refine ⟨hwell, ?_, ?_⟩
    · simp only [Receiver.step, hkey, hseal]
      refine remembered_of_kept hkept (fun r' => ?_) hfresh
      by_cases hne : r' = r
      · subst hne
        simp only [Function.update_self, DataPlane.acceptedNonce, DataPlane.setPeer]
        exact (hc ▸ h.remembered r').accept hcheck
      · simp only [DataPlane.acceptedNonce, DataPlane.setPeer, Function.update_of_ne hne]
        exact h.remembered r'
    · simp only [Receiver.step, hkey, hseal]
      exact fun r' hr' => hfresh r' (hkept.nextRef_le.trans hr')

/-- **Sealed frames are taken once.**  Whatever an edge receives and does, in any order, the
nonces it accepts under one installed key of a record are pairwise different. -/
theorem sealed_frames_once (P : Platform) (e : Edge) (hw : e.dataplane.WellFormed)
    (inputs : List EdgeInput) (r : PeerRef) :
    ((run (step P) ⟨e, fun _ => []⟩ inputs).accepted r).Nodup := by
  have hsound : (run (step P) ⟨e, fun _ => []⟩ inputs).Sound :=
    invariant_forall (I := Sound) (fun s i hs => hs.step P i) inputs _
      ⟨hw, fun r => remembered_nil _, fun _ _ => rfl⟩
  exact (hsound.remembered r).nodup

/-- A frame of node 1 to node 2 whose payload is only a tag. -/
def tagOnlyFrame (nonce : UInt64) : EdgeInput :=
  .data
    { version := protocolVersion, flags := 0, packetType := .ipv4, reserved := 0, ttl := 1
      roomId := .fill 7, srcNode := .fill 1, dstNode := .fill 2, originNode := .fill 1
      sessionId := ⟨0⟩, nonce, packetId := ⟨0⟩, payloadLen := 16 }
    (List.replicate aeadTagLen 0) (.localhost 1)
    { now := 0, pongSend := .sent, pongReceived := none, tunWriteOk := true }

/-- Node 2 completes a handshake with node 1; then two frames arrive, and the first of them
again. -/
def replayed : List EdgeInput :=
  [Edge.enterRoom, Edge.announce 1, Edge.receiveFirst, tagOnlyFrame 1, tagOnlyFrame 2,
    tagOnlyFrame 1]

/-- Both frames are accepted, each once. -/
theorem sealed_frames_once_replayed :
    (run (step .transparent) ⟨Edge.sample 2, fun _ => []⟩ replayed).accepted 0 = [2, 1] ∧
      ((run (step .transparent) ⟨Edge.sample 2, fun _ => []⟩ replayed).accepted 0).Nodup :=
  ⟨by decide +kernel, sealed_frames_once .transparent (Edge.sample 2)
    (DataPlane.wellFormed_of_empty rfl) replayed 0⟩

end Receiver

end R2N
