import R2N.Edge.Tables

/-!
# Who a cipher is shared with

A handshake frame names its sender, the Noise session knows whose static key the other side has
proved to hold, and the peer table has the key registered for the sender.  When the edge is the
initiator the three agree: the session was made for the registered key (`PendingBound`).  When it
is the responder nothing compares the last two.

* `RegisteredKeys` — the condition under which they agree: a first message is by the owner of the
  key registered for the sender it names, and no announcement replaces the key of a peer while a
  session with it is pending.
* **`installedBy_authentic`**, `authenticInstall_of_registeredKeys` — one step.
* **`peer_authentication`** — every run.
-/

namespace R2N

open Run

namespace Edge

/-- The sender and payload of a handshake frame. -/
def handshakeFrame : EdgeInput → Option (NodeId × Bytes)
  | .control (.handshake fromNode payload) _ _ => some (fromNode, payload)
  | _ => none

/-- Every cipher that appears in the peer table in a step comes from a handshake that was completed
in that step and authenticated by the key registered for the peer. -/
def AuthenticInstall (P : Platform) (e : Edge) (i : EdgeInput) : Prop :=
  ∀ id st', (e.step P i).peers.lookup id = some st' → st'.cipher.isSome = true →
    (e.peers.lookup id).bind PeerState.cipher = none →
    ∃ ins, e.installedBy P i = some ins ∧ ins.peer = id ∧
      st'.cipher = some (Cipher.new ins.key) ∧ ins.session.isHandshakeFinished = true ∧
      ins.session.remoteStatic = some st'.info.publicKey

/-- The condition on an input: an announced record keeps the public key of a peer with which a
session is pending, and a first message from which a cipher would be installed was written by the
owner of the key registered for the sender it names. -/
def RegisteredKeys (P : Platform) (e : Edge) (i : EdgeInput) : Prop :=
  (∀ peer ∈ e.announced i, ∀ st ∈ e.peers.lookup peer.nodeId, st.handshake.isSome = true →
    peer.publicKey = st.info.publicKey) ∧
  (∀ frame ∈ handshakeFrame i, ∀ st ∈ e.peers.lookup frame.1,
    st.handshake = none → st.cipher = none →
    ∀ t ∈ e.readable P.noise frame.2, 32 ≤ t.payload.length → t.initiator = st.info.publicKey)

instance (P : Platform) (e : Edge) (i : EdgeInput) : Decidable (RegisteredKeys P e i) :=
  inferInstanceAs (Decidable (_ ∧ _))

/-- A pending session awaits the answer of the key registered for the peer. -/
def PendingBound (e : Edge) : Prop :=
  ∀ id st, e.peers.lookup id = some st → ∀ s, st.handshake = some s →
    ∃ t, s = .awaiting t ∧ t.responder = st.info.publicKey

lemma pendingBound_of_empty {e : Edge} (h : e.peers = ∅) : e.PendingBound := by
  intro id st hst
  rw [h] at hst
  simp at hst

/-! ## Reading a frame -/

/-- No frame leaves a session in the slot. -/
lemma readHandshake_slot {N : Noise} {e : Edge} {st : PeerState}
    (hst : ∀ s, st.handshake = some s → ∃ t, s = .awaiting t) (payload : Bytes) (io : EdgeIo) :
    (e.readHandshake N st payload io).slot = none := by
  unfold readHandshake
  cases hs : st.handshake with
  | none =>
      simp only [readAsResponder_eq]
      split <;> rfl
  | some s =>
      obtain ⟨t, rfl⟩ := hst s hs
      simp only [readAsInitiator_awaiting]
      split <;> rfl

/-- What can be installed: the pending key, after an answer to the pending session, or the key
enclosed in a readable first message. -/
lemma install_cases {N : Noise} {e : Edge} {st : PeerState} {payload : Bytes} {io : EdgeIo}
    (hst : ∀ s, st.handshake = some s → ∃ t, s = .awaiting t) {key : Key} {s : NoiseSession}
    (h : (e.readHandshake N st payload io).install st.cipher = some (key, s)) :
    st.cipher = none ∧
    ((∃ t p, st.handshake = some (.awaiting t) ∧ N.view payload = some (.second t p) ∧
        st.pendingSessionKey = some key ∧ s = .finished true t) ∨
      ∃ t, st.handshake = none ∧ e.readable N payload = some t ∧
        enclosedKey t.payload = some key ∧ s = .finished false t) := by
  unfold HandshakeStep.install at h
  split at h
  · rename_i key' s' hkey hcompleted hcipher
    obtain ⟨rfl, rfl⟩ : key' = key ∧ s' = s := by simpa using h
    refine ⟨hcipher, ?_⟩
    unfold readHandshake at hkey hcompleted
    cases hs : st.handshake with
    | some s₀ =>
        obtain ⟨t, rfl⟩ := hst s₀ hs
        simp only [hs, readAsInitiator_awaiting] at hkey hcompleted
        cases hread : (NoiseSession.awaiting t).readMessage N payload handshakeCap with
        | none => simp [hread] at hcompleted
        | some res =>
            simp only [hread] at hkey hcompleted
            obtain ⟨p, hview, -, -⟩ := NoiseSession.readMessage_awaiting.mp hread
            exact .inl ⟨t, p, rfl, hview, hkey, (Option.some.inj hcompleted).symm⟩
    | none =>
        simp only [hs, readAsResponder_eq] at hkey hcompleted
        cases hread : e.readable N payload with
        | none => simp [hread] at hcompleted
        | some t =>
            simp only [hread] at hkey hcompleted
            exact .inr ⟨t, rfl, rfl, hkey, (Option.some.inj hcompleted).symm⟩
  · cases h

lemma length_of_enclosedKey {payload : Bytes} {key : Key} (h : enclosedKey payload = some key) :
    32 ≤ payload.length := by
  unfold enclosedKey at h
  split_ifs at h with hlen
  exact hlen

/-- The cipher of an entry after a handshake frame. -/
lemma afterHandshake_cipher (N : Noise) (e : Edge) (st : PeerState) (payload : Bytes)
    (addr : SocketAddr) (io : EdgeIo) :
    (e.afterHandshake N st payload addr io).cipher =
      match (e.readHandshake N st payload io).install st.cipher with
      | some (key, _) => some (Cipher.new key)
      | none => st.cipher := by
  unfold afterHandshake
  simp only
  cases (e.readHandshake N st payload io).install st.cipher <;> rfl

@[simp] lemma afterHandshake_info (N : Noise) (e : Edge) (st : PeerState) (payload : Bytes)
    (addr : SocketAddr) (io : EdgeIo) : (e.afterHandshake N st payload addr io).info = st.info := by
  unfold afterHandshake
  simp only
  split <;> rfl

lemma afterHandshake_handshake (N : Noise) (e : Edge) (st : PeerState) (payload : Bytes)
    (addr : SocketAddr) (io : EdgeIo) :
    (e.afterHandshake N st payload addr io).handshake =
      (e.readHandshake N st payload io).slot := by
  unfold afterHandshake
  simp only
  split <;> rfl

/-! ## One step -/

/-- The invariant survives a step that keeps the keys of pending peers. -/
lemma PendingBound.step {P : Platform} {e : Edge} {i : EdgeInput} (he : e.PendingBound)
    (hi : RegisteredKeys P e i) : (e.step P i).PendingBound := by
  intro id st' hst' s hs
  rcases step_peer hst' with hold | ⟨peer, hmem, rfl, rfl⟩ |
    ⟨st, candidates, addr, io, rfl, hst, rfl⟩
    | ⟨st, payload, addr, io, rfl, hst, rfl⟩
  · exact he id st' hold s hs
  · cases hst : e.peers.lookup peer.nodeId with
    | none =>
        rw [hst] at hs
        cases hs
    | some st =>
        rw [hst] at hs
        have hs : st.handshake = some s := hs
        obtain ⟨t, rfl, ht⟩ := he _ st hst s hs
        have hkey := hi.1 peer hmem st hst (by rw [hs]; rfl)
        exact ⟨t, rfl, by rw [withInfo_info, hkey, ht]⟩
  · obtain rfl := Option.some.inj hs
    exact ⟨_, rfl, rfl⟩
  · have hawait : ∀ s, st.handshake = some s → ∃ t, s = .awaiting t := fun s hs =>
      (he id st hst s hs).imp fun _ h => h.1
    rw [afterHandshake_handshake, readHandshake_slot hawait] at hs
    cases hs

/-- A step installs a cipher only by reading a handshake frame of a known peer. -/
lemma installedBy_eq_some {P : Platform} {e : Edge} {i : EdgeInput} {ins : Install}
    (h : e.installedBy P i = some ins) :
    ∃ st payload addr io, i = .control (.handshake ins.peer payload) addr io ∧
      e.peers.lookup ins.peer = some st ∧
      (e.readHandshake P.noise st payload io).install st.cipher = some (ins.key, ins.session) := by
  cases i with
  | control frame addr io =>
      cases frame with
      | handshake fromNode payload =>
          simp only [installedBy, handleControl] at h
          cases hst : e.peers.lookup fromNode with
          | none =>
              rw [handleHandshake_unknown P.noise hst] at h
              cases h
          | some st =>
              rw [(handleHandshake_known P.noise hst payload addr io).2.2.1] at h
              obtain ⟨⟨key, s⟩, hins, rfl⟩ := Option.map_eq_some_iff.mp h
              exact ⟨st, payload, addr, io, rfl, hst, hins⟩
      | punchRequest target candidates =>
          simp only [installedBy, handleControl] at h
          cases hst : e.peers.lookup target with
          | none =>
              rw [handlePunchRequest_unknown P.noise hst] at h
              cases h
          | some st =>
              obtain ⟨dataplane, -, hout⟩ := handlePunchRequest_known P.noise hst candidates io
              rw [hout] at h
              cases h
      | _ => cases h
  | _ => cases h

/-- **What a step installs is authentic**: the session is complete, and its other side holds the
key registered for the peer. -/
theorem installedBy_authentic {P : Platform} {e : Edge} {i : EdgeInput} (he : e.PendingBound)
    (hi : RegisteredKeys P e i) {ins : Install} (h : e.installedBy P i = some ins) :
    ins.session.isHandshakeFinished = true ∧
      ins.session.remoteStatic = (e.peers.lookup ins.peer).map fun st => st.info.publicKey := by
  obtain ⟨st, payload, addr, io, rfl, hst, hins⟩ := installedBy_eq_some h
  have hawait : ∀ s, st.handshake = some s → ∃ t, s = .awaiting t := fun s hs =>
    (he _ st hst s hs).imp fun _ h => h.1
  obtain ⟨hcipher, hcases⟩ := install_cases hawait hins
  rw [hst, Option.map_some]
  rcases hcases with ⟨t, p, hs, -, -, hsession⟩ | ⟨t, hs, hread, hkey, hsession⟩
  · obtain ⟨t', ht, hresp⟩ := he _ st hst _ hs
    obtain rfl : t = t' := by simpa using ht
    rw [hsession]
    exact ⟨rfl, congrArg some hresp⟩
  · have hreg := hi.2 (ins.peer, payload) rfl st hst hs hcipher t hread (length_of_enclosedKey hkey)
    rw [hsession]
    exact ⟨rfl, congrArg some hreg⟩

/-- **One step**: with the invariant and the condition, a cipher is installed only from a handshake
authenticated by the registered key. -/
theorem authenticInstall_of_registeredKeys {P : Platform} {e : Edge} {i : EdgeInput}
    (he : e.PendingBound) (hi : RegisteredKeys P e i) : AuthenticInstall P e i := by
  intro id st' hst' hsome hnone
  rcases step_peer hst' with hold | ⟨peer, -, rfl, rfl⟩ | ⟨st, candidates, addr, io, rfl, hst, rfl⟩
    | ⟨st, payload, addr, io, rfl, hst, rfl⟩
  · rw [hold] at hnone
    rw [show st'.cipher = none from hnone] at hsome
    cases hsome
  · -- an announced record keeps the cipher of the entry, or starts without one
    cases hst : e.peers.lookup peer.nodeId with
    | none =>
        rw [hst] at hsome
        cases hsome
    | some st =>
        rw [hst] at hsome hnone
        rw [show (withInfo (some st) peer).cipher = none from hnone] at hsome
        cases hsome
  · rw [hst] at hnone
    rw [show st.cipher = none from hnone] at hsome
    cases hsome
  · rw [hst] at hnone
    cases hins : (e.readHandshake P.noise st payload io).install st.cipher with
    | none =>
        rw [afterHandshake_cipher, hins, show st.cipher = none from hnone] at hsome
        cases hsome
    | some ks =>
        obtain ⟨key, s⟩ := ks
        have hby : e.installedBy P (.control (.handshake id payload) addr io) =
            some { peer := id, key, session := s } := by
          have hknown := (handleHandshake_known P.noise hst payload addr io).2.2.1
          simp only [hins] at hknown
          exact hknown
        obtain ⟨hfinished, hremote⟩ := installedBy_authentic he hi hby
        refine ⟨_, hby, rfl, by rw [afterHandshake_cipher, hins], hfinished, ?_⟩
        rw [hremote, hst, afterHandshake_info]
        rfl

/-! ## Every run -/

/-- **Peer authentication.**  Along every run of an edge that starts without peers and whose inputs
meet the condition on registered keys, every cipher is installed from a handshake authenticated by
the static key registered for the peer, whichever side the edge was on. -/
theorem peer_authentication (P : Platform) (e : Edge) (h₀ : e.peers = ∅)
    (inputs : List EdgeInput) (hkeys : Along (step P) (RegisteredKeys P) e inputs) :
    Along (step P) (AuthenticInstall P) e inputs := by
  exact Along.mono_of_invariant (I := PendingBound) (fun _ _ he hi => he.step hi)
    (fun _ _ he hi => authenticInstall_of_registeredKeys he hi) inputs e
    (pendingBound_of_empty h₀) hkeys

/-! ## Two runs -/

/-- Node 1 learns of node 2, is asked to punch to it, and gets the answer. -/
def initiatorRun : List EdgeInput := [announce 2, punch, receiveAnswer]

/-- In that run the answer authenticates node 2. -/
theorem peer_authentication_initiator :
    Along (step .transparent) (AuthenticInstall .transparent) (sample 1) initiatorRun :=
  peer_authentication .transparent (sample 1) rfl initiatorRun (by decide)

/-- A first message to node 1 by the owner of key 66, in a frame that names node 2 as sender. -/
def forgedHandshake : EdgeInput :=
  .control (.handshake (.fill 2) (Noise.transparent.firstBytes
    { ephemeral := .fill 32 8, initiator := .fill 32 66, responder := .fill 32 1
      payload := (ByteArr.fill 32 5).toList })) (.localhost 66) (sampleIo 6 9)

/-- Node 1 installs a cipher for node 2 from a handshake with the owner of key 66. -/
theorem forged_handshake_installs :
    ¬ Along (step .transparent) (AuthenticInstall .transparent) (sample 1)
      [announce 2, forgedHandshake] := by
  rintro ⟨-, hforged, -⟩
  obtain ⟨ins, hby, -, -, -, hauth⟩ := hforged (.fill 2)
    { buildPeerState (sampleInfo 2) with
      cipher := some (Cipher.new (.fill 32 5)), directAddr := some (.localhost 66) }
    (by decide) (by decide) (by decide)
  have hforger : (((sample 1).step .transparent (announce 2)).installedBy .transparent
      forgedHandshake).map (fun ins => ins.session.remoteStatic) = some (some (.fill 32 66)) := by
    decide
  rw [hby, Option.map_some, hauth] at hforger
  revert hforger
  decide

end Edge

end R2N
