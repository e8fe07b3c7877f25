import Mathlib.Data.List.Sort
import R2N.Crypto.Noise
import R2N.Dataplane.Receive

/-!
# The edge

`r2n-edge-lib`: the UDP loop's handling of control frames and the command loop.  A handler of the
UDP loop is one step.  What it reads from the outside — the clock, random keys, what the operating
system answers when a device is created or a route installed — is an input, and the frames it
sends are an output.

* `handlePeerList`, `handlePeerUpdate` — the peer table, kept beside the dataplane's.
* `handlePunchRequest`, `handleHandshake` — the two handlers of the key exchange.
* `activateRoom`, `startLeave`, `finishLeave` — entering a room, and leaving it in the two parts
  between which the UDP loop may run.
* `handleControl`, `handleCommand` — the dispatch.
-/

namespace R2N

/-! ## Candidate pairs -/

structure CandidatePair where
  «local» : Candidate
  remote : Candidate
  score : UInt32
deriving DecidableEq

def localityBonus (left right : Candidate) : UInt32 :=
  match left.kind, right.kind with
  | .hostLan, .hostLan => 40
  | .hostIpv6, .hostIpv6 => 30
  | .serverReflexive, .serverReflexive => 20
  | .relay, .relay => 0
  | _, _ => 10

/-- `build_candidate_pairs`: every pair, by descending score; the sum wraps as in a release
build. -/
def buildCandidatePairs (locals remotes : List Candidate) : List CandidatePair :=
  let pairs := locals.flatMap fun left => remotes.map fun right =>
    { «local» := left, remote := right
      score := left.priority + right.priority + localityBonus left right }
  pairs.insertionSort fun p q => q.score ≤ p.score

/-- The pairs a punch sends to. -/
def selectedPairs (locals remotes : List Candidate) : List CandidatePair :=
  ((buildCandidatePairs locals remotes).filter fun p => p.score > 0).take 16

/-! ## State -/

structure PeerState where
  info : PeerInfo
  candidates : List Candidate
  directAddr : Option SocketAddr
  cipher : Option Cipher
  sessionId : SessionId
  handshake : Option NoiseSession
  pendingSessionKey : Option Key
deriving DecidableEq

def buildPeerState (peer : PeerInfo) : PeerState where
  info := peer
  candidates := []
  directAddr := none
  cipher := none
  sessionId := ⟨0⟩
  handshake := none
  pendingSessionKey := none

/-- The edge's state.  `pendingCreate` and `pendingJoin` say whether the slot of a request holds a
reply sender, `leaving` whether the command loop is inside `deactivate_room`. -/
structure Edge where
  nodeId : NodeId
  privateKey : Key
  nickname : String
  natType : NatType
  externalAddr : Option SocketAddr
  localNetworks : List String
  advertisedCandidates : List Candidate
  supernodeAddr : SocketAddr
  peers : KeyMap NodeId PeerState
  roomId : Option RoomId
  pendingCreate : Bool
  pendingJoin : Bool
  leaving : Bool
  dataplane : DataPlane

/-- What the outside world answers while a control frame is handled: the clock, the random session
key and ephemeral key, and how creating a device (if there is none), reading its name, parsing the
room's network and installing its route go. -/
structure EdgeIo where
  now : Instant
  sessionKey : Key
  ephemeral : Key
  createTun : Option TunDevice
  nameOk : Bool
  cidrOk : Bool
  routeOk : Bool

/-- The installation of a cipher: for whom, from which key, and the handshake session that was
completed for it. -/
structure Install where
  peer : NodeId
  key : Key
  session : NoiseSession
deriving DecidableEq

/-- What a handler leaves behind: the edge, the frames it sent with their targets, and the cipher
it installed. -/
structure EdgeOutcome where
  edge : Edge
  frames : List (ControlFrame × SocketAddr)
  installed : Option Install

/-- A handler that only changes the edge. -/
def EdgeOutcome.silent (edge : Edge) : EdgeOutcome := { edge, frames := [], installed := none }

/-- The commands that send room requests. A `joinRoom` carries what its invite decodes to. -/
inductive EdgeCommand where
  | createRoom (name : String)
  | joinRoom (room : RoomId) (token roomName : Option String) (supernode : SocketAddr)
  | leaveRoom
deriving DecidableEq

namespace Edge

/-- The static key the edge proves to hold. -/
def publicKey (N : Noise) (e : Edge) : Key := N.derivePublicKey e.privateKey

/-- The `RegisterNode` frame the edge sends. -/
def registerNode (N : Noise) (e : Edge) : ControlFrame :=
  .registerNode e.nodeId e.natType e.externalAddr (e.publicKey N) e.advertisedCandidates e.nickname
    e.localNetworks

/-- An edge as `Edge::new_with_tun` and the first lines of `run` set it up. -/
def new (nodeId : NodeId) (privateKey : Key) (nickname : String) (natType : NatType)
    (externalAddr : Option SocketAddr) (localNetworks : List String)
    (advertisedCandidates : List Candidate) (supernodeAddr : SocketAddr) (tun : Option TunDevice)
    (discovery : DiscoveryConfig) (tunMtu : UInt16) (trafficPolicy : TrafficPolicy)
    (blank : DataPeer) : Edge where
  nodeId := nodeId
  privateKey := privateKey
  nickname := nickname
  natType := natType
  externalAddr := externalAddr
  localNetworks := localNetworks
  advertisedCandidates := advertisedCandidates
  supernodeAddr := supernodeAddr
  peers := ∅
  roomId := none
  pendingCreate := false
  pendingJoin := false
  leaving := false
  dataplane := (DataPlane.new nodeId tun discovery tunMtu blank).setTrafficPolicy trafficPolicy

/-! ## Entering and leaving a room -/

/-- `activate_room`: whether it succeeds, and the edge afterwards.  A device created for a room
that cannot be activated is dropped only when the route is what fails. -/
def activateRoom (e : Edge) (joinedRoom : RoomId) (io : EdgeIo) : Bool × Edge :=
  if e.roomId.any fun active => active ≠ joinedRoom then (false, e)
  else
    let created := e.dataplane.tun.isNone
    match e.dataplane.tun.or io.createTun with
    | none => (false, e)
    | some device =>
        let opened := { e with dataplane := { e.dataplane with tun := some device } }
        if !io.nameOk || !io.cidrOk then (false, opened)
        else if !io.routeOk then (false, if created then e else opened)
        else
          (true, { opened with
            roomId := some joinedRoom
            dataplane := opened.dataplane.setRoomId (some joinedRoom) })

/-- The `LeaveRoom` command up to the point where it awaits the removal of the routes. -/
def startLeave (e : Edge) : EdgeOutcome where
  edge := { e with peers := ∅, leaving := true }
  frames := [(.leaveRoom (e.roomId.getD (.fill 0)), e.supernodeAddr)]
  installed := none

/-- The rest of `deactivate_room`. -/
def finishLeave (e : Edge) : Edge :=
  { e with
    roomId := none
    leaving := false
    dataplane := { e.dataplane with tun := none }.clearPeers.setRoomId none }

/-! ## The peer table -/

/-- The body of `PeerList`'s loop and of `PeerUpdate`: the peer in both tables. -/
def addPeer (e : Edge) (now : Instant) (peer : PeerInfo) : Edge :=
  { e with
    peers := KeyMap.upsert peer.nodeId (fun state => { state with info := peer })
      (buildPeerState peer) e.peers
    dataplane := e.dataplane.upsertPeer (.fresh now peer e.supernodeAddr) }

def removePeer (e : Edge) (nodeId : NodeId) : Edge :=
  { e with peers := e.peers.erase nodeId, dataplane := e.dataplane.removePeer nodeId }

def handlePeerList (e : Edge) (now : Instant) (roomPeers : List PeerInfo) : Edge :=
  let others := roomPeers.filter fun peer => peer.nodeId ≠ e.nodeId
  let activeNodes := others.map PeerInfo.nodeId
  let e := others.foldl (fun e peer => e.addPeer now peer) e
  let toRemove := e.peers.keys.filter fun id => id ∉ activeNodes
  toRemove.foldl removePeer e

def handlePeerUpdate (e : Edge) (now : Instant) (peer : PeerInfo) (action : PeerAction) : Edge :=
  match action with
  | .add | .update => if peer.nodeId = e.nodeId then e else e.addPeer now peer
  | .remove => e.removePeer peer.nodeId

/-! ## The key exchange -/

/-- The size of the buffers the handlers read and write handshake messages with. -/
def handshakeCap : ℕ := 128

/-- The `PunchRequest` handler.  The first message goes to every selected pair, seven times. -/
def handlePunchRequest (N : Noise) (e : Edge) (target : NodeId) (candidates : List Candidate)
    (io : EdgeIo) : EdgeOutcome :=
  match e.peers.lookup target with
  | none => .silent e
  | some peer =>
      let peer := { peer with candidates }
      let dataplane := candidates.foldl
        (fun dp candidate => dp.addPeerCandidate io.now target candidate.addr) e.dataplane
      let session := NoiseSession.initiator (e.publicKey N) peer.info.publicKey
      match session.writeMessage N io.ephemeral io.sessionKey.toList handshakeCap with
      | none => .silent { e with peers := e.peers.insert target peer, dataplane }
      | some (message, session) =>
          let peer :=
            { peer with handshake := some session, pendingSessionKey := some io.sessionKey }
          let burst := (selectedPairs e.advertisedCandidates candidates).map fun pair =>
            (ControlFrame.handshake e.nodeId message, pair.remote.addr)
          { edge := { e with peers := e.peers.insert target peer, dataplane }
            frames := (List.replicate 7 burst).flatten
            installed := none }

/-- What reading a handshake frame comes to: the session left in the peer's slot, the reply, the
key, and the session if it is complete. -/
structure HandshakeStep where
  slot : Option NoiseSession
  response : Option Bytes
  negotiatedKey : Option Key
  completed : Option NoiseSession
deriving DecidableEq

/-- The initiator's branch: a session was in the slot.  It is taken out, and put back only if the
message was read and the handshake goes on. -/
def readAsInitiator (N : Noise) (session : NoiseSession) (pendingSessionKey : Option Key)
    (payload : Bytes) : HandshakeStep :=
  match session.readMessage N payload handshakeCap with
  | none => { slot := none, response := none, negotiatedKey := none, completed := none }
  | some (_, session) =>
      if session.isHandshakeFinished then
        { slot := none, response := none, negotiatedKey := pendingSessionKey
          completed := some session }
      else { slot := some session, response := none, negotiatedKey := none, completed := none }

/-- The responder's branch: the slot was empty. -/
def readAsResponder (N : Noise) (localStatic ephemeral : Key) (payload : Bytes) : HandshakeStep :=
  match (NoiseSession.responder localStatic).readMessage N payload handshakeCap with
  | none => { slot := none, response := none, negotiatedKey := none, completed := none }
  | some (output, session) =>
      let negotiatedKey :=
        if output.length ≥ 32 then some (ByteArr.ofBytes 32 (output.take 32)) else none
      let written := session.writeMessage N ephemeral [] handshakeCap
      let session := (written.map Prod.snd).getD session
      let response := written.map Prod.fst
      if session.isHandshakeFinished then
        { slot := none, response, negotiatedKey, completed := some session }
      else { slot := some session, response, negotiatedKey, completed := none }

/-- Reading a handshake frame for a peer. -/
def readHandshake (N : Noise) (e : Edge) (peer : PeerState) (payload : Bytes) (io : EdgeIo) :
    HandshakeStep :=
  match peer.handshake with
  | some session => readAsInitiator N session peer.pendingSessionKey payload
  | none => readAsResponder N (e.publicKey N) io.ephemeral payload

/-- The key and session a cipher is installed from: both known, and no cipher there yet. -/
def HandshakeStep.install (step : HandshakeStep) (cipher : Option Cipher) :
    Option (Key × NoiseSession) :=
  match step.negotiatedKey, step.completed, cipher with
  | some key, some session, none => some (key, session)
  | _, _, _ => none

/-- The `Handshake` handler.  A cipher is installed only where there is none yet. -/
def handleHandshake (N : Noise) (e : Edge) (fromNode : NodeId) (payload : Bytes)
    (addr : SocketAddr) (io : EdgeIo) : EdgeOutcome :=
  match e.peers.lookup fromNode with
  | none => .silent e
  | some peer =>
      let step := e.readHandshake N peer payload io
      let peer := { peer with handshake := step.slot }
      let frames := step.response.toList.map fun reply => (.handshake e.nodeId reply, addr)
      match step.install peer.cipher with
      | some (key, session) =>
          let cipher := Cipher.new key
          let peer := { peer with cipher := some cipher, directAddr := some addr }
          { edge :=
              { e with
                peers := e.peers.insert fromNode peer
                dataplane := e.dataplane.setDirectPath io.now fromNode addr (some cipher) }
            frames
            installed := some { peer := fromNode, key, session } }
      | none =>
          { edge := { e with peers := e.peers.insert fromNode peer }, frames, installed := none }

/-! ## Dispatch -/

/-- One control frame in the UDP loop. -/
def handleControl (N : Noise) (e : Edge) (frame : ControlFrame) (addr : SocketAddr)
    (io : EdgeIo) : EdgeOutcome :=
  match frame with
  | .roomCreated room _ _ _ =>
      .silent { (e.activateRoom room io).2 with pendingCreate := false }
  | .joinAccept room _ _ _ => .silent { (e.activateRoom room io).2 with pendingJoin := false }
  | .joinReject _ => .silent { e with pendingJoin := false }
  | .error _ _ => .silent { e with pendingCreate := false, pendingJoin := false }
  | .peerList roomPeers => .silent (e.handlePeerList io.now roomPeers)
  | .peerUpdate peer action => .silent (e.handlePeerUpdate io.now peer action)
  | .punchRequest target candidates => e.handlePunchRequest N target candidates io
  | .handshake fromNode payload => e.handleHandshake N fromNode payload addr io
  | _ => .silent e

/-- One command in the command loop, which does nothing while it is still leaving a room;
`sendOk` is the transport's answer. -/
def handleCommand (e : Edge) (cmd : EdgeCommand) (sendOk : Bool) : EdgeOutcome :=
  if e.leaving then .silent e
  else
    match cmd with
    | .createRoom name =>
        if e.roomId.isSome || e.pendingCreate || !sendOk then .silent e
        else
          { edge := { e with pendingCreate := true }
            frames := [(.createRoom name, e.supernodeAddr)], installed := none }
    | .joinRoom room token roomName supernode =>
        if e.roomId.isSome || e.pendingJoin || !sendOk then .silent e
        else
          { edge := { e with pendingJoin := true }
            frames := [(.joinRoom room token roomName, supernode)], installed := none }
    | .leaveRoom => e.startLeave

end Edge

end R2N
