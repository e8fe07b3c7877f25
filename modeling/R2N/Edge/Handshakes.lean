import R2N.Edge.Tables

/-!
# Handshake frames that cannot be read

Anybody can send a handshake frame that names a peer.  The handler takes the session out of the
peer's slot before it tries the message on it, and a message the session cannot read ends it.

* `CannotRead` — the session that would read the message refuses it.
* **`unreadable_harmless_iff`** — such a frame changes nothing exactly if no session is pending.
-/

namespace R2N

namespace Edge

/-- The session that reads a handshake frame of a peer: the one in its slot, or a new responder. -/
def readingSession (N : Noise) (e : Edge) (peer : PeerState) : NoiseSession :=
  peer.handshake.getD (.responder (e.publicKey N))

/-- The session for the peer cannot read the message. -/
def CannotRead (N : Noise) (e : Edge) (fromNode : NodeId) (payload : Bytes) : Prop :=
  ∀ peer ∈ e.peers.lookup fromNode,
    (e.readingSession N peer).readMessage N payload handshakeCap = none

instance (N : Noise) (e : Edge) (fromNode : NodeId) (payload : Bytes) :
    Decidable (e.CannotRead N fromNode payload) :=
  inferInstanceAs (Decidable (∀ peer ∈ e.peers.lookup fromNode, _ = none))

/-- What a handshake works on: the session of a peer, the session key it is for, and the cipher. -/
def keyState (e : Edge) (id : NodeId) : Option (Option NoiseSession × Option Key × Option Cipher) :=
  (e.peers.lookup id).map fun peer => (peer.handshake, peer.pendingSessionKey, peer.cipher)

/-- **A message that cannot be read**: the slot is empty afterwards, and nothing else happens. -/
lemma readHandshake_of_cannotRead {N : Noise} {e : Edge} {fromNode : NodeId} {payload : Bytes}
    (h : e.CannotRead N fromNode payload) {peer : PeerState}
    (hpeer : e.peers.lookup fromNode = some peer) (io : EdgeIo) :
    e.readHandshake N peer payload io =
      { slot := none, response := none, negotiatedKey := none, completed := none } := by
  have hread := h peer hpeer
  unfold readingSession at hread
  unfold readHandshake
  cases hslot : peer.handshake with
  | none =>
      rw [hslot] at hread
      simp only [readAsResponder]
      rw [show (NoiseSession.responder (e.publicKey N)).readMessage N payload handshakeCap = none
        from hread]
  | some session =>
      rw [hslot] at hread
      simp only [readAsInitiator]
      rw [show session.readMessage N payload handshakeCap = none from hread]

lemma handleHandshake_of_cannotRead {N : Noise} {e : Edge} {fromNode : NodeId} {payload : Bytes}
    (h : e.CannotRead N fromNode payload) {peer : PeerState}
    (hpeer : e.peers.lookup fromNode = some peer) (addr : SocketAddr) (io : EdgeIo) :
    e.handleHandshake N fromNode payload addr io =
      .silent { e with peers := e.peers.insert fromNode { peer with handshake := none } } := by
  unfold handleHandshake
  rw [hpeer]
  simp only [readHandshake_of_cannotRead h hpeer io]
  rfl

/-- **A frame that cannot be read is harmless** exactly if no handshake with the peer is pending:
the session in the slot is what it costs. -/
theorem unreadable_harmless_iff {N : Noise} {e : Edge} {fromNode : NodeId} {payload : Bytes}
    (h : e.CannotRead N fromNode payload) (addr : SocketAddr) (io : EdgeIo) :
    (e.handleHandshake N fromNode payload addr io).edge.keyState fromNode = e.keyState fromNode ↔
      ∀ peer ∈ e.peers.lookup fromNode, peer.handshake = none := by
  cases hpeer : e.peers.lookup fromNode with
  | none =>
      rw [handleHandshake_unknown N hpeer]
      exact iff_of_true rfl (fun peer hmem => by cases hmem)
  | some peer =>
      rw [handleHandshake_of_cannotRead h hpeer addr io]
      simp only [keyState, EdgeOutcome.silent, KeyMap.lookup_insert_eq, if_pos, hpeer,
        Option.map_some, Option.some.injEq, Prod.mk.injEq, and_true, Option.mem_def, forall_eq']
      exact eq_comm

/-- Three bytes that are no handshake message, in a frame that names node 2. -/
def garbage : EdgeInput :=
  .control (.handshake (.fill 2) [7, 7, 7]) (.localhost 66) (sampleIo 6 9)

/-- **Garbage ends a pending handshake.**  Node 1 has sent its first message to node 2 and awaits
the answer; after three bytes in a frame that names node 2 the session is gone, and the answer, from
which a cipher would have been installed, installs none. -/
theorem garbage_ends_handshake :
    let pending := Run.run (step .transparent) (sample 1) [announce 2, punch]
    pending.CannotRead .transparent (.fill 2) [7, 7, 7] ∧
    (pending.keyState (.fill 2)).map Prod.fst = some (some (.awaiting firstMessage)) ∧
    ((pending.step .transparent garbage).keyState (.fill 2)).map Prod.fst = some none ∧
    ((pending.step .transparent receiveAnswer).keyState (.fill 2)).bind (fun s => s.2.2) =
      some (Cipher.new (.fill 32 5)) ∧
    (((pending.step .transparent garbage).step .transparent receiveAnswer).keyState
      (.fill 2)).bind (fun s => s.2.2) = none := by
  refine ⟨by decide, by decide, by decide, by decide, by decide⟩

/-- Garbage that names a peer with which no handshake is pending does nothing. -/
theorem unreadable_harmless_idle :
    (((sample 1).step .transparent (announce 2)).handleHandshake .transparent (.fill 2) [7, 7, 7]
      (.localhost 66) (sampleIo 6 9)).edge.keyState (.fill 2) =
      ((sample 1).step .transparent (announce 2)).keyState (.fill 2) :=
  (unreadable_harmless_iff (by decide) _ _).mpr (by decide)

end Edge

end R2N
