import R2N.Dataplane.Records
import R2N.Edge.Run

/-!
# The edge's peer table

What a handler does to the entry of one peer.  `PeerList` and `PeerUpdate` write the record they
carry over the entry's, keeping its cipher and handshake, or make a new entry; `PeerList` drops
every other peer.  The key exchange changes one entry, never its record.

* **`handlePeerList_lookup`** — the table after a `PeerList`, exactly.
* **`step_peer`** — where an entry after a step comes from.
-/

namespace R2N

/-- An entry with the record `peer`: the one there was with its record replaced, or a new one. -/
def withInfo (state : Option PeerState) (peer : PeerInfo) : PeerState :=
  (state.map fun s => { s with info := peer }).getD (buildPeerState peer)

@[simp] lemma withInfo_info (state : Option PeerState) (peer : PeerInfo) :
    (withInfo state peer).info = peer := by
  cases state <;> rfl

lemma withInfo_some_withInfo (state : Option PeerState) (p q : PeerInfo) :
    withInfo (some (withInfo state p)) q = withInfo state q := by
  cases state <;> rfl

/-- The room a frame lets the edge into. -/
def ControlFrame.activates : ControlFrame → Option RoomId
  | .roomCreated room _ _ _ | .joinAccept room _ _ _ => some room
  | _ => none

/-- The frames that answer a `CreateRoom`.  An `Error` answers whatever is asked. -/
def ControlFrame.settlesCreate : ControlFrame → Bool
  | .roomCreated _ _ _ _ | .error _ _ => true
  | _ => false

/-- The frames that answer a `JoinRoom`. -/
def ControlFrame.settlesJoin : ControlFrame → Bool
  | .joinAccept _ _ _ _ | .joinReject _ | .error _ _ => true
  | _ => false

namespace Edge

/-! ## Adding and removing -/

lemma addPeer_lookup (e : Edge) (now : Instant) (peer : PeerInfo) (id : NodeId) :
    (e.addPeer now peer).peers.lookup id =
      if id = peer.nodeId then some (withInfo (e.peers.lookup id) peer)
      else e.peers.lookup id := by
  have h : (e.addPeer now peer).peers.lookup id =
      if id = peer.nodeId then some (withInfo (e.peers.lookup peer.nodeId) peer)
      else e.peers.lookup id := KeyMap.lookup_upsert _ _ _ _ _
  rw [h]
  split_ifs with hid
  · rw [hid]
  · rfl

lemma removePeer_lookup (e : Edge) (id id' : NodeId) :
    (e.removePeer id).peers.lookup id' = if id' = id then none else e.peers.lookup id' :=
  KeyMap.lookup_erase_eq e.peers id id'

/-- The last record of a list for a node. -/
def lastInfo (l : List PeerInfo) (id : NodeId) : Option PeerInfo :=
  (l.filter fun peer => peer.nodeId = id).getLast?

lemma lastInfo_mem {l : List PeerInfo} {id : NodeId} {peer : PeerInfo}
    (h : lastInfo l id = some peer) : peer ∈ l ∧ peer.nodeId = id := by
  have hmem := List.mem_of_getLast? h
  simpa using List.mem_filter.mp hmem

lemma lastInfo_eq_none {l : List PeerInfo} {id : NodeId} :
    lastInfo l id = none ↔ id ∉ l.map PeerInfo.nodeId := by
  simp [lastInfo]

/-- Adding a list of peers leaves, for each node, the last record of the list. -/
lemma foldl_addPeer_lookup (now : Instant) (l : List PeerInfo) (e : Edge) (id : NodeId) :
    (l.foldl (fun e peer => e.addPeer now peer) e).peers.lookup id =
      match lastInfo l id with
      | some peer => some (withInfo (e.peers.lookup id) peer)
      | none => e.peers.lookup id := by
  induction l generalizing e with
  | nil => rfl
  | cons p l ih =>
      rw [List.foldl_cons, ih, addPeer_lookup]
      by_cases hp : p.nodeId = id
      · have hlast : lastInfo (p :: l) id = some ((lastInfo l id).getD p) := by
          simp [lastInfo, hp, List.getLast?_cons]
        rw [hlast, if_pos hp.symm]
        cases lastInfo l id with
        | none => rfl
        | some q =>
            simp only [Option.getD_some]
            rw [withInfo_some_withInfo]
      · have hlast : lastInfo (p :: l) id = lastInfo l id := by simp [lastInfo, hp]
        rw [hlast, if_neg (fun h => hp h.symm)]

lemma foldl_removePeer_lookup (l : List NodeId) (e : Edge) (id : NodeId) :
    (l.foldl removePeer e).peers.lookup id = if id ∈ l then none else e.peers.lookup id := by
  induction l generalizing e with
  | nil => simp
  | cons x l ih =>
      rw [List.foldl_cons, ih, removePeer_lookup]
      by_cases hx : id = x
      · simp [hx]
      · simp [hx]

/-- **The table after a `PeerList`**: exactly the other nodes of the list, each with the last
record the list has for it. -/
theorem handlePeerList_lookup (e : Edge) (now : Instant) (roomPeers : List PeerInfo)
    (id : NodeId) :
    (e.handlePeerList now roomPeers).peers.lookup id =
      (lastInfo (roomPeers.filter fun peer => peer.nodeId ≠ e.nodeId) id).map
        (withInfo (e.peers.lookup id)) := by
  unfold handlePeerList
  simp only
  rw [foldl_removePeer_lookup, foldl_addPeer_lookup]
  set others := roomPeers.filter fun peer => peer.nodeId ≠ e.nodeId
  cases hlast : lastInfo others id with
  | none =>
      have hid := lastInfo_eq_none.mp hlast
      simp only [Option.map_none, ite_eq_left_iff]
      intro hmem
      -- an entry that survives is among the keys, so it was to be removed
      by_contra hsome
      apply hmem
      refine List.mem_filter.mpr ⟨?_, by simpa using hid⟩
      rw [← AList.mem_keys, ← AList.lookup_isSome, foldl_addPeer_lookup, hlast]
      exact Option.isSome_iff_ne_none.mpr hsome
  | some peer =>
      have hid : id ∈ others.map PeerInfo.nodeId := by
        by_contra hno
        rw [lastInfo_eq_none.mpr hno] at hlast
        cases hlast
      rw [if_neg]
      · rfl
      · intro hmem
        have := (List.mem_filter.mp hmem).2
        simp only [decide_eq_true_eq] at this
        exact this hid

/-! ## The key exchange -/

/-- The transcript of the first message a punch writes. -/
def punchTranscript (N : Noise) (e : Edge) (peer : PeerState) (io : EdgeIo) : Transcript where
  ephemeral := io.ephemeral
  initiator := e.publicKey N
  responder := peer.info.publicKey
  payload := io.sessionKey.toList

/-- The frames a punch sends, for the message it has written. -/
def punchBurst (e : Edge) (message : Bytes) (candidates : List Candidate) :
    List (ControlFrame × SocketAddr) :=
  (List.replicate 7 ((selectedPairs e.advertisedCandidates candidates).map fun pair =>
    (ControlFrame.handshake e.nodeId message, pair.remote.addr))).flatten

/-- **A punch** to a known peer always starts a new session. -/
lemma handlePunchRequest_known (N : Noise) {e : Edge} {target : NodeId} {peer : PeerState}
    (hpeer : e.peers.lookup target = some peer) (candidates : List Candidate) (io : EdgeIo) :
    ∃ dataplane, DataPlane.Keeps e.dataplane dataplane ∧
      e.handlePunchRequest N target candidates io =
        { edge :=
            { e with
              peers := e.peers.insert target
                { peer with
                  candidates
                  handshake := some (.awaiting (e.punchTranscript N peer io))
                  pendingSessionKey := some io.sessionKey }
              dataplane }
          frames := e.punchBurst (N.firstBytes (e.punchTranscript N peer io)) candidates
          installed := none } := by
  have hkeeps : ∀ (l : List Candidate) (dp : DataPlane), DataPlane.Keeps dp
      (l.foldl (fun dp candidate => dp.addPeerCandidate io.now target candidate.addr) dp) := by
    intro l
    induction l with
    | nil => exact fun dp => .refl dp
    | cons c l ih => exact fun dp => (dp.addPeerCandidate_keeps _ _ _).trans (ih _)
  have hlen : io.sessionKey.toList.length = 32 := io.sessionKey.toList_length
  have hfits : 96 + io.sessionKey.toList.length ≤ handshakeCap := by
    rw [hlen]
    decide
  refine ⟨_, hkeeps candidates e.dataplane, ?_⟩
  unfold handlePunchRequest
  rw [hpeer]
  simp only [NoiseSession.writeMessage, if_pos hfits]
  rfl

lemma handlePunchRequest_unknown (N : Noise) {e : Edge} {target : NodeId}
    (hpeer : e.peers.lookup target = none) (candidates : List Candidate) (io : EdgeIo) :
    e.handlePunchRequest N target candidates io = .silent e := by
  unfold handlePunchRequest
  rw [hpeer]

/-- The entry of a peer after a handshake frame. -/
def afterHandshake (N : Noise) (e : Edge) (peer : PeerState) (payload : Bytes) (addr : SocketAddr)
    (io : EdgeIo) : PeerState :=
  let step := e.readHandshake N peer payload io
  match step.install peer.cipher with
  | some (key, _) =>
      { peer with
        handshake := step.slot, cipher := some (Cipher.new key), directAddr := some addr }
  | none => { peer with handshake := step.slot }

/-- **A handshake frame** of a known peer: its entry, and what is installed. -/
lemma handleHandshake_known (N : Noise) {e : Edge} {fromNode : NodeId} {peer : PeerState}
    (hpeer : e.peers.lookup fromNode = some peer) (payload : Bytes) (addr : SocketAddr)
    (io : EdgeIo) :
    let out := e.handleHandshake N fromNode payload addr io
    let step := e.readHandshake N peer payload io
    out.edge.peers = e.peers.insert fromNode (e.afterHandshake N peer payload addr io) ∧
    out.frames = step.response.toList.map (fun reply => (.handshake e.nodeId reply, addr)) ∧
    out.installed = (step.install peer.cipher).map
      (fun ks => { peer := fromNode, key := ks.1, session := ks.2 }) ∧
    out.edge.dataplane =
      match step.install peer.cipher with
      | some (key, _) => e.dataplane.setDirectPath io.now fromNode addr (some (Cipher.new key))
      | none => e.dataplane := by
  intro out step
  simp only [out, step]
  unfold handleHandshake afterHandshake
  rw [hpeer]
  simp only
  cases (e.readHandshake N peer payload io).install peer.cipher with
  | none => exact ⟨rfl, rfl, rfl, rfl⟩
  | some ks => exact ⟨rfl, rfl, rfl, rfl⟩

lemma handleHandshake_unknown (N : Noise) {e : Edge} {fromNode : NodeId}
    (hpeer : e.peers.lookup fromNode = none) (payload : Bytes) (addr : SocketAddr) (io : EdgeIo) :
    e.handleHandshake N fromNode payload addr io = .silent e := by
  unfold handleHandshake
  rw [hpeer]

/-! ## The edge keeps its identity -/

/-- What `activate_room` changes: the device, and the active room unless it fails, which it does
while another room is active. -/
lemma activateRoom_eq (e : Edge) (room : RoomId) (io : EdgeIo) :
    ∃ roomId dataplane, (e.activateRoom room io).2 = { e with roomId, dataplane } ∧
      (roomId = e.roomId ∨ (roomId = some room ∧ ∀ active ∈ e.roomId, active = room)) := by
  unfold activateRoom
  split
  · exact ⟨_, _, rfl, .inl rfl⟩
  · rename_i hactive
    have hroom : ∀ active ∈ e.roomId, active = room := by
      intro active hmem
      rw [Option.mem_def] at hmem
      simpa [hmem] using hactive
    simp only
    split
    · exact ⟨_, _, rfl, .inl rfl⟩
    · split
      · exact ⟨_, _, rfl, .inl rfl⟩
      · split
        · split <;> exact ⟨_, _, rfl, .inl rfl⟩
        · exact ⟨_, _, rfl, .inr ⟨rfl, hroom⟩⟩

lemma activateRoom_peers (e : Edge) (room : RoomId) (io : EdgeIo) :
    (e.activateRoom room io).2.peers = e.peers := by
  obtain ⟨_, _, h, -⟩ := e.activateRoom_eq room io
  rw [h]

/-- A `PeerList` changes only the two tables. -/
lemma handlePeerList_eq (e : Edge) (now : Instant) (roomPeers : List PeerInfo) :
    ∃ peers dataplane, e.handlePeerList now roomPeers = { e with peers, dataplane } := by
  have hadd : ∀ (l : List PeerInfo) (e : Edge), ∃ peers dataplane,
      l.foldl (fun e peer => e.addPeer now peer) e = { e with peers, dataplane } := by
    intro l
    induction l with
    | nil => exact fun e => ⟨_, _, rfl⟩
    | cons peer l ih =>
        intro e
        obtain ⟨_, _, h⟩ := ih (e.addPeer now peer)
        exact ⟨_, _, h⟩
  have hremove : ∀ (l : List NodeId) (e : Edge), ∃ peers dataplane,
      l.foldl removePeer e = { e with peers, dataplane } := by
    intro l
    induction l with
    | nil => exact fun e => ⟨_, _, rfl⟩
    | cons id l ih =>
        intro e
        obtain ⟨_, _, h⟩ := ih (e.removePeer id)
        exact ⟨_, _, h⟩
  unfold handlePeerList
  obtain ⟨_, _, h₁⟩ := hadd (roomPeers.filter fun peer => peer.nodeId ≠ e.nodeId) e
  simp only [h₁]
  exact hremove _ _

/-- A frame that answers no request changes the two tables at most. -/
lemma handleControl_tables (N : Noise) (e : Edge) {frame : ControlFrame}
    (hcreate : frame.settlesCreate = false) (hjoin : frame.settlesJoin = false) (addr : SocketAddr)
    (io : EdgeIo) :
    ∃ peers dataplane, (e.handleControl N frame addr io).edge = { e with peers, dataplane } := by
  cases frame with
  | roomCreated _ _ _ _ | error _ _ => cases hcreate
  | joinAccept _ _ _ _ | joinReject _ => cases hjoin
  | peerList roomPeers => exact e.handlePeerList_eq io.now roomPeers
  | peerUpdate peer action =>
      cases action with
      | remove => exact ⟨_, _, rfl⟩
      | add | update =>
          simp only [handleControl, EdgeOutcome.silent, handlePeerUpdate]
          split_ifs <;> exact ⟨_, _, rfl⟩
  | punchRequest target candidates =>
      simp only [handleControl]
      cases hpeer : e.peers.lookup target with
      | none =>
          rw [handlePunchRequest_unknown N hpeer]
          exact ⟨_, _, rfl⟩
      | some peer =>
          obtain ⟨dataplane, -, hout⟩ := handlePunchRequest_known N hpeer candidates io
          rw [hout]
          exact ⟨_, _, rfl⟩
  | handshake fromNode payload =>
      simp only [handleControl, handleHandshake]
      cases e.peers.lookup fromNode with
      | none => exact ⟨_, _, rfl⟩
      | some peer =>
          simp only
          split <;> exact ⟨_, _, rfl⟩
  | _ => exact ⟨_, _, rfl⟩

/-- An answer clears the slots of the requests it settles, and only `activate_room` does more. -/
lemma handleControl_pending (N : Noise) (e : Edge) (frame : ControlFrame) (addr : SocketAddr)
    (io : EdgeIo) :
    (e.handleControl N frame addr io).edge.pendingCreate =
        (e.pendingCreate && !frame.settlesCreate) ∧
      (e.handleControl N frame addr io).edge.pendingJoin =
        (e.pendingJoin && !frame.settlesJoin) := by
  by_cases hother : frame.settlesCreate = false ∧ frame.settlesJoin = false
  · obtain ⟨_, _, h⟩ := e.handleControl_tables N hother.1 hother.2 addr io
    rw [h, hother.1, hother.2]
    simp
  · cases frame with
    | roomCreated room _ _ _ | joinAccept room _ _ _ =>
        obtain ⟨_, _, h, -⟩ := e.activateRoom_eq room io
        simp [handleControl, EdgeOutcome.silent, h, ControlFrame.settlesCreate,
          ControlFrame.settlesJoin]
    | joinReject _ | error _ _ =>
        simp [handleControl, EdgeOutcome.silent, ControlFrame.settlesCreate,
          ControlFrame.settlesJoin]
    | _ => exact absurd ⟨rfl, rfl⟩ hother

/-- **What a control frame keeps**: the identity and a leave in progress; and the active room,
unless the edge is in none or in this one and the frame lets it in. -/
lemma handleControl_keeps (N : Noise) (e : Edge) (frame : ControlFrame) (addr : SocketAddr)
    (io : EdgeIo) :
    let e' := (e.handleControl N frame addr io).edge
    e'.nodeId = e.nodeId ∧ e'.leaving = e.leaving ∧ (e'.roomId = e.roomId ∨
      (e'.roomId = frame.activates ∧ ∀ active ∈ e.roomId, some active = frame.activates)) := by
  by_cases hother : frame.settlesCreate = false ∧ frame.settlesJoin = false
  · obtain ⟨_, _, h⟩ := e.handleControl_tables N hother.1 hother.2 addr io
    simp only [h]
    exact ⟨trivial, trivial, .inl trivial⟩
  · cases frame with
    | roomCreated room _ _ _ | joinAccept room _ _ _ =>
        obtain ⟨roomId, dataplane, h, hroom⟩ := e.activateRoom_eq room io
        simp only [handleControl, EdgeOutcome.silent, h]
        refine ⟨trivial, trivial, hroom.imp_right fun ⟨hnew, hactive⟩ => ⟨hnew, ?_⟩⟩
        intro active hmem
        exact congrArg some (hactive active hmem)
    | joinReject _ | error _ _ => exact ⟨rfl, rfl, .inl rfl⟩
    | _ => exact absurd ⟨rfl, rfl⟩ hother

lemma handleControl_nodeId (N : Noise) (e : Edge) (frame : ControlFrame) (addr : SocketAddr)
    (io : EdgeIo) : (e.handleControl N frame addr io).edge.nodeId = e.nodeId :=
  (e.handleControl_keeps N frame addr io).1

/-- A command changes neither the identity nor the data plane. -/
lemma handleCommand_keeps (e : Edge) (cmd : EdgeCommand) (sendOk : Bool) :
    let e' := (e.handleCommand cmd sendOk).edge
    e'.nodeId = e.nodeId ∧ e'.dataplane = e.dataplane := by
  unfold handleCommand
  cases cmd <;> simp only [startLeave] <;> split_ifs <;> exact ⟨rfl, rfl⟩

/-- A command adds and changes no entry. -/
lemma handleCommand_peer {e : Edge} {cmd : EdgeCommand} {sendOk : Bool} {id : NodeId}
    {st : PeerState} (h : (e.handleCommand cmd sendOk).edge.peers.lookup id = some st) :
    e.peers.lookup id = some st := by
  unfold handleCommand at h
  by_cases hleave : e.leaving = true
  · rw [if_pos hleave] at h
    exact h
  · rw [if_neg hleave] at h
    cases cmd with
    | createRoom name =>
        simp only at h
        split_ifs at h <;> exact h
    | joinRoom room token roomName supernode =>
        simp only at h
        split_ifs at h <;> exact h
    | leaveRoom => simp [startLeave] at h

/-! ## One step -/

/-- The records of other nodes that an input announces. -/
def announced (e : Edge) : EdgeInput → List PeerInfo
  | .control (.peerList roomPeers) _ _ => roomPeers.filter fun peer => peer.nodeId ≠ e.nodeId
  | .control (.peerUpdate peer .add) _ _ => if peer.nodeId = e.nodeId then [] else [peer]
  | .control (.peerUpdate peer .update) _ _ => if peer.nodeId = e.nodeId then [] else [peer]
  | _ => []

/-- **Where an entry comes from.**  After a step, the entry of a peer is the one before the step,
or one with an announced record, or the one a punch or a handshake frame for this peer leaves. -/
theorem step_peer {P : Platform} {e : Edge} {i : EdgeInput} {id : NodeId} {st' : PeerState}
    (h : (e.step P i).peers.lookup id = some st') :
    e.peers.lookup id = some st' ∨
    (∃ peer ∈ e.announced i, peer.nodeId = id ∧ st' = withInfo (e.peers.lookup id) peer) ∨
    (∃ st candidates addr io, i = .control (.punchRequest id candidates) addr io ∧
      e.peers.lookup id = some st ∧
      st' = { st with
        candidates
        handshake := some (.awaiting (e.punchTranscript P.noise st io))
        pendingSessionKey := some io.sessionKey }) ∨
    (∃ st payload addr io, i = .control (.handshake id payload) addr io ∧
      e.peers.lookup id = some st ∧ st' = e.afterHandshake P.noise st payload addr io) := by
  cases i with
  | control frame addr io =>
      cases frame with
      | roomCreated room _ _ _ | joinAccept room _ _ _ =>
          exact .inl (by rwa [← e.activateRoom_peers room io])
      | peerList roomPeers =>
          have hlist := e.handlePeerList_lookup io.now roomPeers id
          rw [show (e.handlePeerList io.now roomPeers).peers.lookup id = some st' from h] at hlist
          obtain ⟨peer, hlast, hst⟩ := Option.map_eq_some_iff.mp hlist.symm
          obtain ⟨hmem, hid⟩ := lastInfo_mem hlast
          exact .inr (.inl ⟨peer, hmem, hid, hst.symm⟩)
      | peerUpdate peer action =>
          cases action with
          | remove =>
              have hrem := e.removePeer_lookup peer.nodeId id
              rw [show (e.removePeer peer.nodeId).peers.lookup id = some st' from h] at hrem
              split_ifs at hrem
              exact .inl hrem.symm
          | add | update =>
              simp only [step, handleControl, EdgeOutcome.silent, handlePeerUpdate] at h
              by_cases hself : peer.nodeId = e.nodeId
              · rw [if_pos hself] at h
                exact .inl h
              · rw [if_neg hself, addPeer_lookup] at h
                split_ifs at h with hid
                · refine .inr (.inl ⟨peer, ?_, hid.symm, (Option.some.inj h).symm⟩)
                  simp [announced, hself]
                · exact .inl h
      | punchRequest target candidates =>
          simp only [step, handleControl] at h
          cases hpeer : e.peers.lookup target with
          | none =>
              rw [handlePunchRequest_unknown P.noise hpeer] at h
              exact .inl h
          | some peer =>
              obtain ⟨dataplane, -, hout⟩ :=
                handlePunchRequest_known P.noise hpeer candidates io
              rw [hout, KeyMap.lookup_insert_eq] at h
              split_ifs at h with hid
              · subst hid
                exact .inr (.inr (.inl
                  ⟨peer, candidates, addr, io, rfl, hpeer, (Option.some.inj h).symm⟩))
              · exact .inl h
      | handshake fromNode payload =>
          simp only [step, handleControl] at h
          cases hpeer : e.peers.lookup fromNode with
          | none =>
              rw [handleHandshake_unknown P.noise hpeer] at h
              exact .inl h
          | some peer =>
              rw [(handleHandshake_known P.noise hpeer payload addr io).1,
                KeyMap.lookup_insert_eq] at h
              split_ifs at h with hid
              · subst hid
                exact .inr (.inr (.inr
                  ⟨peer, payload, addr, io, rfl, hpeer, (Option.some.inj h).symm⟩))
              · exact .inl h
      | _ => exact .inl h
  | command cmd sendOk => exact .inl (handleCommand_peer h)
  | finishLeave =>
      simp only [step] at h
      split_ifs at h <;> exact .inl h
  | send call =>
      simp only [step] at h
      split_ifs at h <;> exact .inl h
  | data _ _ _ _ => exact .inl h
  | failover _ => exact .inl h

end Edge

end R2N
