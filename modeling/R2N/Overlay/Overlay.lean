import R2N.Edge.Tables
import R2N.Lib.SetLog
import R2N.Supernode.Effects

/-!
# One supernode and its edges

The control plane as a system: each edge has a queue of frames to the supernode and one from it,
both first in, first out and without loss.  An edge takes commands and handles the frames of its
queue; the supernode serves one request after another and puts what it sends into the queues of the
edges by their addresses.  Frames that edges send to each other are not part of it.  A frame in a
queue to an edge carries the room of the request it was sent for, which the edge does not see.

* `Overlay`, `Overlay.step` — the system.
* `ControlFrame.setOp` — what a frame says about the peers of the edge that gets it.
* **`Edge.handleControl_known`** — the edge does what the frame says.
* `Edge.handleControl_roomId` — how an edge gets into a room.
-/

namespace R2N

/-! ## What frames say -/

/-- The change of the peer table a frame asks for. -/
def ControlFrame.setOp (self : NodeId) : ControlFrame → SetOp NodeId
  | .peerList peers => .reset { id | id ≠ self ∧ id ∈ peers.map PeerInfo.nodeId }
  | .peerUpdate peer .remove => .remove peer.nodeId
  | .peerUpdate peer .add => if peer.nodeId = self then .skip else .add peer.nodeId
  | .peerUpdate peer .update => if peer.nodeId = self then .skip else .add peer.nodeId
  | _ => .skip

/-- The frame carries peers. -/
def ControlFrame.carriesPeers : ControlFrame → Bool
  | .peerList _ | .peerUpdate _ _ => true
  | _ => false

/-- The frame answers the creation of a room. -/
def ControlFrame.isRoomCreated : ControlFrame → Bool
  | .roomCreated _ _ _ _ => true
  | _ => false

/-- The room a request asks to join. -/
def ControlFrame.joins : ControlFrame → Option RoomId
  | .joinRoom room _ _ => some room
  | _ => none

lemma ControlFrame.setOp_of_not_carriesPeers {frame : ControlFrame}
    (h : frame.carriesPeers = false) (self : NodeId) : frame.setOp self = .skip := by
  cases frame <;> first | rfl | cases h

lemma ControlFrame.setOp_of_activates {frame : ControlFrame} {room : RoomId}
    (h : frame.activates = some room) (self : NodeId) : frame.setOp self = .skip := by
  cases frame <;> first | rfl | cases h

namespace Edge

/-- The peers in the edge's table. -/
def known (e : Edge) : Set NodeId := { id | id ∈ e.peers }

lemma mem_known {e : Edge} {id : NodeId} : id ∈ e.known ↔ (e.peers.lookup id).isSome = true :=
  AList.lookup_isSome.symm

lemma known_congr {e e' : Edge} (h : e.peers = e'.peers) : e.known = e'.known := by
  rw [known, h, known]

/-- The nodes of a list of peers, apart from one. -/
lemma mem_others {peers : List PeerInfo} {self id : NodeId} :
    id ∈ (peers.filter fun peer => peer.nodeId ≠ self).map PeerInfo.nodeId ↔
      id ≠ self ∧ id ∈ peers.map PeerInfo.nodeId := by
  simp only [List.mem_map, List.mem_filter, decide_eq_true_eq]
  constructor
  · rintro ⟨peer, ⟨hmem, hself⟩, rfl⟩
    exact ⟨hself, peer, hmem, rfl⟩
  · rintro ⟨hself, peer, hmem, rfl⟩
    exact ⟨peer, ⟨hmem, hself⟩, rfl⟩

/-- Writing the entry of a known peer adds nobody. -/
lemma known_insert {e : Edge} {id : NodeId} {st : PeerState} (h : e.peers.lookup id = some st)
    (st' : PeerState) (id' : NodeId) : id' ∈ e.peers.insert id st' ↔ id' ∈ e.peers := by
  rw [AList.mem_insert]
  constructor
  · rintro (rfl | hmem)
    · exact KeyMap.mem_iff_lookup.mpr ⟨st, h⟩
    · exact hmem
  · exact .inr

/-- **The edge does what a frame says.** -/
theorem handleControl_known (N : Noise) (e : Edge) (frame : ControlFrame) (addr : SocketAddr)
    (io : EdgeIo) :
    (e.handleControl N frame addr io).edge.known = (frame.setOp e.nodeId).apply e.known := by
  cases frame with
  | roomCreated room _ _ _ => exact known_congr (activateRoom_peers e room io)
  | joinAccept room _ _ _ => exact known_congr (activateRoom_peers e room io)
  | peerList roomPeers =>
      ext id
      rw [mem_known]
      change ((e.handlePeerList io.now roomPeers).peers.lookup id).isSome = true ↔ _
      rw [handlePeerList_lookup, Option.isSome_map, Option.isSome_iff_ne_none, Ne,
        lastInfo_eq_none, not_not]
      exact mem_others
  | peerUpdate peer action =>
      cases action with
      | remove =>
          ext id
          change id ∈ e.peers.erase peer.nodeId ↔ _
          rw [AList.mem_erase]
          exact and_comm
      | add | update =>
          simp only [handleControl, EdgeOutcome.silent, handlePeerUpdate, ControlFrame.setOp]
          split_ifs with hself
          · rfl
          · ext id
            rw [mem_known, addPeer_lookup]
            split_ifs with hid
            · simp [SetOp.apply, hid]
            · simp [SetOp.apply, hid, mem_known]
  | punchRequest target candidates =>
      simp only [handleControl]
      cases hpeer : e.peers.lookup target with
      | none =>
          rw [handlePunchRequest_unknown N hpeer]
          rfl
      | some peer =>
          obtain ⟨dataplane, -, hout⟩ := handlePunchRequest_known N hpeer candidates io
          rw [hout]
          exact Set.ext (known_insert hpeer _)
  | handshake fromNode payload =>
      simp only [handleControl]
      cases hpeer : e.peers.lookup fromNode with
      | none =>
          rw [handleHandshake_unknown N hpeer]
          rfl
      | some peer =>
          rw [known, (handleHandshake_known N hpeer payload addr io).1]
          exact Set.ext (known_insert hpeer _)
  | _ => rfl

/-- **An edge gets into a room** only by a frame that lets it in, and only if it is in none. -/
lemma handleControl_roomId {N : Noise} {e : Edge} {frame : ControlFrame} {addr : SocketAddr}
    {io : EdgeIo} {room : RoomId} (h : (e.handleControl N frame addr io).edge.roomId = some room) :
    e.roomId = some room ∨ (e.roomId = none ∧ frame.activates = some room) := by
  rcases (e.handleControl_keeps N frame addr io).2.2 with hsame | ⟨hnew, hactive⟩
  · exact .inl (hsame ▸ h)
  · have hroom : frame.activates = some room := hnew ▸ h
    cases hold : e.roomId with
    | none => exact .inr ⟨rfl, hroom⟩
    | some active => exact .inl ((hactive active hold).trans hroom)

end Edge

/-! ## The system -/

/-- The parts that do not change: third-party code, and the address the supernode sees each edge
at. -/
structure OverlayConfig (ι : Type*) where
  noise : Noise
  env : SupernodeEnv
  addr : ι → SocketAddr
  addr_injective : Function.Injective addr

/-- The supernode and whether its receive loop is stuck, the edges, and the queues, oldest frame
first. -/
structure Overlay (ι : Type*) where
  sn : Supernode
  stuck : Bool
  edges : ι → Edge
  up : ι → List ControlFrame
  down : ι → List (Option RoomId × ControlFrame)

/-- What the outside world answers while the supernode serves a request: every send succeeds. -/
structure ServeIo where
  now : Instant
  roomId : RoomId
  joinToken : ByteArr 16
  localAddr : Option String

def ServeIo.lossless (io : ServeIo) : SupernodeIo :=
  { now := io.now, roomId := io.roomId, joinToken := io.joinToken, localAddr := io.localAddr
    sendOk := fun _ => true }

lemma ServeIo.lossless_sendOk (io : ServeIo) (n : ℕ) : io.lossless.sendOk n = true := rfl

inductive OverlayInput (ι : Type*) where
  /-- An edge registers. -/
  | register (a : ι)
  /-- The user gives an edge a command. -/
  | command (a : ι) (cmd : EdgeCommand)
  /-- An edge gets to the end of a leave. -/
  | finishLeave (a : ι)
  /-- The supernode serves the next request of an edge. -/
  | serve (a : ι) (io : ServeIo)
  /-- An edge handles the next frame from the supernode. -/
  | deliver (a : ι) (io : EdgeIo)

/-- The room a request is about. -/
def ServeIo.room (io : ServeIo) : ControlFrame → Option RoomId
  | .createRoom _ => some io.roomId
  | .joinRoom room _ _ | .leaveRoom room => some room
  | _ => none

/-- The frames for one address, in the order they are sent. -/
def sentTo (addr : SocketAddr) (frames : List (ControlFrame × SocketAddr)) : List ControlFrame :=
  (frames.filter fun frame => frame.2 = addr).map Prod.fst

namespace Overlay

variable {ι : Type*} [DecidableEq ι]

def step (C : OverlayConfig ι) (s : Overlay ι) : OverlayInput ι → Overlay ι
  | .register a =>
      { s with up := Function.update s.up a (s.up a ++ [(s.edges a).registerNode C.noise]) }
  | .command a cmd =>
      let out := (s.edges a).handleCommand cmd true
      { s with
        edges := Function.update s.edges a out.edge
        up := Function.update s.up a (s.up a ++ out.frames.map Prod.fst) }
  | .finishLeave a =>
      if (s.edges a).leaving then
        { s with edges := Function.update s.edges a (s.edges a).finishLeave }
      else s
  | .serve a io =>
      if s.stuck then s
      else
        match s.up a with
        | [] => s
        | frame :: rest =>
            let out := s.sn.receive C.env io.lossless frame (C.addr a)
            { s with
              sn := out.sn
              stuck := out.result.isNone
              up := Function.update s.up a rest
              down := fun b =>
                s.down b ++ (sentTo (C.addr b) out.frames).map fun f => (io.room frame, f) }
  | .deliver a io =>
      match s.down a with
      | [] => s
      | (_, frame) :: rest =>
          { s with
            edges := Function.update s.edges a
              ((s.edges a).handleControl C.noise frame (s.edges a).supernodeAddr io).edge
            down := Function.update s.down a rest }

end Overlay

end R2N
