import R2N.Lib.Guarded
import R2N.Lib.Text
import R2N.Proto.Frame
import R2N.Dataplane.Path
import R2N.Room

/-!
# The supernode

`r2n-supernode-lib`: the tables and `handle_control`.  A handler reads and writes the tables, sends
frames and takes guards into `rooms`; `Guarded` says when it never returns.  The tables `nodes` and
`addr_to_node` are read with guards that are dropped at once.  A loop that sends one frame after
another and returns at the first failure is `sendEach` of the list of its frames: nothing it reads
changes while it runs.

* `SupernodeEnv` — the third-party parts; `SupernodeIo` — what the outside world answers during
  one call: the clock, random values, and whether the `n`-th send succeeds.
* `Supernode.registerNode`, `createRoom`, `joinRoom`, `leaveRoom`, `queryRooms` — the handlers.
* `Supernode.handleControl` — the dispatch, and `Supernode.receive` — one turn of the receive loop.
-/

namespace R2N

/-! ## State -/

structure NodeInfo where
  nodeId : NodeId
  addr : SocketAddr
  natType : NatType
  externalAddr : Option SocketAddr
  publicKey : Key
  candidates : List Candidate
  nickname : String
  localNetworks : List Ipv4Net
  lastSeen : Instant
deriving DecidableEq

/-- The fields of `SupernodeConfig` that the handlers read. -/
structure SupernodeConfig where
  peers : List String
  publicAddr : Option String
deriving DecidableEq

structure Supernode where
  nodes : KeyMap NodeId NodeInfo
  addrToNode : KeyMap SocketAddr NodeId
  rooms : KeyMap RoomId Room
  addressPool : RoomAddressPool
  config : SupernodeConfig

/-- `Supernode::new_with_config`, given the two fields of the configuration that make the pool. -/
def Supernode.newWithConfig (I : Ipnet) (addressPool : String) (roomPrefixLen : ℕ)
    (config : SupernodeConfig) : Except RoomError Supernode :=
  match RoomAddressPool.new I addressPool roomPrefixLen with
  | .error e => .error e
  | .ok addressPool =>
      .ok { nodes := ∅, addrToNode := ∅, rooms := ∅, addressPool, config }

structure InviteData where
  version : UInt8
  primarySupernode : String
  fallbackSupernodes : List String
  supernodeAddr : String
  roomId : RoomId
  roomPubKey : Key
  virtualCidr : Option String
  token : Option String
  expiresAt : Option UInt64
  signature : Option Bytes
deriving DecidableEq

/-- `InviteData::VERSION`. -/
def inviteVersion : UInt8 := 2

/-- Third-party code: the `ipnet` crate, the signature and encoding of an invite, and the shard
`DashMap` files a room under. -/
structure SupernodeEnv where
  ipnet : Ipnet
  hex : HexCodec
  inviteCode : InviteData → String
  shard : RoomId → ℕ

/-- Third-party parts for runs that are evaluated; all rooms share one shard. -/
def SupernodeEnv.plain : SupernodeEnv where
  ipnet := .plain
  hex := .lower
  inviteCode := fun _ => ""
  shard := fun _ => 0

structure SupernodeIo where
  now : Instant
  roomId : RoomId
  joinToken : ByteArr 16
  localAddr : Option String
  sendOk : ℕ → Bool

inductive SupernodeError where
  | send
  | room (err : RoomError)
  | localAddr
  | memberInserted
deriving DecidableEq

/-- The supernode during a call, with the frames sent and the number of sends tried so far. -/
structure HandlerState where
  sn : Supernode
  sent : List (ControlFrame × SocketAddr)
  attempts : ℕ

abbrev Handler := Guarded RoomId HandlerState SupernodeError

/-! ## Sending -/

/-- `send_control(..).await?`. -/
def send (io : SupernodeIo) (frame : ControlFrame) (addr : SocketAddr) : Handler Unit :=
  fun _ s =>
    if io.sendOk s.attempts then
      (some (.ok ()), { s with sent := s.sent ++ [(frame, addr)], attempts := s.attempts + 1 })
    else (some (.error .send), { s with attempts := s.attempts + 1 })

/-- `let _ = send_control(..).await`. -/
def trySend (io : SupernodeIo) (frame : ControlFrame) (addr : SocketAddr) : Handler Unit :=
  fun _ s =>
    (some (.ok ()), { s with
      sent := if io.sendOk s.attempts then s.sent ++ [(frame, addr)] else s.sent
      attempts := s.attempts + 1 })

def sendEach (io : SupernodeIo) : List (ControlFrame × SocketAddr) → Handler Unit
  | [] => pure ()
  | (frame, addr) :: rest => do
      send io frame addr
      sendEach io rest

def trySendEach (io : SupernodeIo) : List (ControlFrame × SocketAddr) → Handler Unit
  | [] => pure ()
  | (frame, addr) :: rest => do
      trySend io frame addr
      trySendEach io rest

namespace Supernode

open Guarded

/-- A change of the tables. -/
def update (f : Supernode → Supernode) : Handler Unit := modify fun s => { s with sn := f s.sn }

/-! ## Lookups -/

def peerInfoForMember (sn : Supernode) (member : Member) : PeerInfo where
  nodeId := member.nodeId
  virtualIp := member.virtualIp
  nickname := member.nickname
  publicKey := ((sn.nodes.lookup member.nodeId).map NodeInfo.publicKey).getD (.fill 32 0)

def publicSupernodeAddr (sn : Supernode) (io : SupernodeIo) : Option String :=
  match sn.config.publicAddr with
  | some addr => if addr.toList.all Text.isWhitespace then io.localAddr else some addr
  | none => io.localAddr

def parseLocalNetworks (I : Ipnet) (networks : List String) : List Ipv4Net :=
  networks.filterMap I.parse

def roomSubnetConflicts (I : Ipnet) (roomVirtualCidr : String) (localNetworks : List Ipv4Net) :
    Bool :=
  match I.parse roomVirtualCidr with
  | none => false
  | some roomNetwork => localNetworks.any fun network => ipv4NetsOverlap roomNetwork network

def localNetworksOf (sn : Supernode) (nodeId : NodeId) : List Ipv4Net :=
  ((sn.nodes.lookup nodeId).map NodeInfo.localNetworks).getD []

def addrOf (sn : Supernode) (nodeId : NodeId) : Option SocketAddr :=
  (sn.nodes.lookup nodeId).map NodeInfo.addr

/-! ## Handlers -/

/-- The addresses of the other members of every room that `nodeId` is in. -/
def peersToUpdate (sn : Supernode) (nodeId : NodeId) : List SocketAddr :=
  (KeyMap.values sn.rooms).flatMap fun room =>
    if nodeId ∈ room.members then
      ((KeyMap.values room.members).filter fun member => member.nodeId ≠ nodeId).filterMap
        fun member => sn.addrOf member.nodeId
    else []

def registerNode (io : SupernodeIo) (info : NodeInfo) : Handler Unit := do
  update fun sn =>
    { sn with
      nodes := sn.nodes.insert info.nodeId info
      addrToNode := sn.addrToNode.insert info.addr info.nodeId }
  send io .registerOk info.addr
  let addrs ← accessAll (do return (← get).sn.peersToUpdate info.nodeId)
  trySendEach io (addrs.map fun addr => (.punchRequest info.nodeId info.candidates, addr))

/-- The frame that answers a created room. -/
def roomCreated (S : SupernodeEnv) (sn : Supernode) (room : Room) (assignedIp : VirtualIp)
    (primarySupernode : String) : ControlFrame :=
  .roomCreated room.roomId assignedIp room.virtualCidr (S.inviteCode
    { version := inviteVersion
      primarySupernode
      fallbackSupernodes := sn.config.peers
      supernodeAddr := primarySupernode
      roomId := room.roomId
      roomPubKey := ((sn.nodes.lookup room.owner).map NodeInfo.publicKey).getD (.fill 32 0)
      virtualCidr := some room.virtualCidr
      token := some room.joinToken
      expiresAt := none
      signature := none })

def createRoom (S : SupernodeEnv) (io : SupernodeIo) (name : String) (addr : SocketAddr) :
    Handler Unit := do
  let sn := (← get).sn
  match sn.addrToNode.lookup addr with
  | none => send io (.error 400 "node not registered") addr
  | some nodeId =>
      match sn.addressPool.allocateWithAvoidance S.ipnet io.roomId (sn.localNetworksOf nodeId) with
      | .error e => throw (.room e)
      | .ok (cidr, pool) =>
          update fun sn => { sn with addressPool := pool }
          let room := Room.new io.roomId name nodeId (S.ipnet.display cidr)
            (S.hex.encode io.joinToken.toList)
          let ownerNickname := ((sn.nodes.lookup nodeId).map NodeInfo.nickname).getD "Owner"
          match room.addOrReuse S.ipnet nodeId ownerNickname .owner with
          | .error e => throw (.room e)
          | .ok (assignedIp, room) =>
              access S.shard io.roomId
                (update fun sn => { sn with rooms := sn.rooms.insert io.roomId room })
              match sn.publicSupernodeAddr io with
              | none => throw .localAddr
              | some primarySupernode =>
                  send io (sn.roomCreated S room assignedIp primarySupernode) addr

/-- The closure of `rooms.entry(room_id).or_insert_with(..)`: the room made on demand, and the
pool. -/
def restoredRoom (S : SupernodeEnv) (sn : Supernode) (roomId : RoomId)
    (token roomName : Option String) (nodeId : NodeId) : Room × RoomAddressPool :=
  let name := roomName.getD ("Restored-" ++ S.hex.encode roomId.bytes.toList)
  let (virtualCidr, pool) :=
    match sn.addressPool.allocate S.ipnet roomId with
    | .ok (cidr, pool) => (S.ipnet.display cidr, pool)
    | .error _ => ("192.168.255.0/24", sn.addressPool)
  (Room.new roomId name nodeId virtualCidr (token.getD ""), pool)

/-- The joining node's address in the room, and the room with the node as a member. -/
def joinMember (I : Ipnet) (sn : Supernode) (room : Room) (nodeId : NodeId) :
    Except RoomError (VirtualIp × Room) :=
  match room.members.lookup nodeId with
  | some existing => .ok (existing.virtualIp, room)
  | none =>
      let guestNickname := ((sn.nodes.lookup nodeId).map NodeInfo.nickname).getD
        ("Peer" ++ toString (room.members.keys.length + 1))
      room.addOrReuse I nodeId guestNickname .guest

/-- The frames of a successful join, in the order they are sent: the answer and the list of peers
to the joining node, an update to every other member, and a punch request to both sides of every
new pair. -/
def joinFrames (sn : Supernode) (roomId : RoomId) (room : Room) (assignedIp : VirtualIp)
    (joined : Member) (addr : SocketAddr) : List (ControlFrame × SocketAddr) :=
  let peers := (KeyMap.values room.members).map sn.peerInfoForMember
  let updates := ((KeyMap.values room.members).filter fun member =>
    member.nodeId ≠ joined.nodeId).filterMap fun member =>
      (sn.addrOf member.nodeId).map fun existing =>
        (ControlFrame.peerUpdate (sn.peerInfoForMember joined) .add, existing)
  let punches :=
    match sn.nodes.lookup joined.nodeId with
    | none => []
    | some newNode =>
        (peers.filter fun peer => peer.nodeId ≠ joined.nodeId).flatMap fun peer =>
          match sn.nodes.lookup peer.nodeId with
          | none => []
          | some existing =>
              [(ControlFrame.punchRequest joined.nodeId newNode.candidates, existing.addr),
                (ControlFrame.punchRequest peer.nodeId existing.candidates, addr)]
  (.joinAccept roomId assignedIp room.virtualCidr (some room.name), addr) ::
    (.peerList peers, addr) :: updates ++ punches

/-- `rooms.entry(room_id).or_insert_with(..)`. -/
def roomEntry (S : SupernodeEnv) (roomId : RoomId) (token roomName : Option String)
    (nodeId : NodeId) : Handler Room := do
  let sn := (← get).sn
  match sn.rooms.lookup roomId with
  | some room => pure room
  | none =>
      let (room, addressPool) := sn.restoredRoom S roomId token roomName nodeId
      update fun sn => { sn with rooms := sn.rooms.insert roomId room, addressPool }
      pure room

def joinRoom (S : SupernodeEnv) (io : SupernodeIo) (roomId : RoomId)
    (token roomName : Option String) (addr : SocketAddr) : Handler Unit := do
  match (← get).sn.addrToNode.lookup addr with
  | none => send io (.joinReject "node not registered") addr
  | some nodeId => holding S.shard roomId do
      let room ← roomEntry S roomId token roomName nodeId
      let sn := (← get).sn
      if room.joinToken ≠ token.getD "" then
        send io (.joinReject "invalid invite token") addr
      else if roomSubnetConflicts S.ipnet room.virtualCidr (sn.localNetworksOf nodeId) then
        send io (.joinReject "room subnet conflicts with a local network on this device") addr
      else
        match sn.joinMember S.ipnet room nodeId with
        | .error e => throw (.room e)
        | .ok (assignedIp, room) =>
            update fun sn => { sn with rooms := sn.rooms.insert roomId room }
            match room.members.lookup nodeId with
            | none => throw .memberInserted
            | some joined => sendEach io (sn.joinFrames roomId room assignedIp joined addr)

/-- The updates that tell the remaining members of a room that `removedMember`, if there was one,
has left. -/
def leaveFrames (sn : Supernode) (room : Room) (removedMember : Option Member) :
    List (ControlFrame × SocketAddr) :=
  match removedMember with
  | none => []
  | some removed =>
      (KeyMap.values room.members).filterMap fun member =>
        (sn.addrOf member.nodeId).map fun existing =>
          (.peerUpdate (sn.peerInfoForMember removed) .remove, existing)

/-- The removal of an empty room. -/
def dropRoom (S : SupernodeEnv) (roomId : RoomId) : Handler Unit := do
  access S.shard roomId (update fun sn => { sn with rooms := sn.rooms.erase roomId })
  update fun sn => { sn with addressPool := sn.addressPool.release roomId }

def leaveRoom (S : SupernodeEnv) (io : SupernodeIo) (roomId : RoomId) (addr : SocketAddr) :
    Handler Unit := do
  match (← get).sn.addrToNode.lookup addr with
  | none => pure ()
  | some nodeId => holding S.shard roomId do
      let sn := (← get).sn
      match sn.rooms.lookup roomId with
      | none => pure ()
      | some room =>
          let removedMember := room.members.lookup nodeId
          let room := room.removeMember nodeId
          update fun sn => { sn with rooms := sn.rooms.insert roomId room }
          sendEach io (sn.leaveFrames room removedMember)
          -- the guard of the room is still held here
          if room.members.keys = [] then dropRoom S roomId else pure ()

def queryRooms (io : SupernodeIo) (addr : SocketAddr) : Handler Unit := do
  let roomsList ← accessAll (do
    return (KeyMap.values (← get).sn.rooms).map fun room =>
      { roomId := room.roomId, name := room.name, memberCount := room.members.keys.length })
  trySend io (.roomsList roomsList) addr

/-- `Supernode::handle_control`. -/
def handleControl (S : SupernodeEnv) (io : SupernodeIo) (frame : ControlFrame)
    (addr : SocketAddr) : Handler Unit :=
  match frame with
  | .registerNode nodeId natType externalAddr publicKey candidates nickname localNetworks =>
      registerNode io
        { nodeId, addr, natType, externalAddr, publicKey, candidates, nickname
          localNetworks := parseLocalNetworks S.ipnet localNetworks, lastSeen := io.now }
  | .createRoom name => createRoom S io name addr
  | .joinRoom roomId token roomName => joinRoom S io roomId token roomName addr
  | .leaveRoom roomId => leaveRoom S io roomId addr
  | .heartbeat => trySend io .heartbeat addr
  | .queryRooms => queryRooms io addr
  | _ => pure ()

/-! ## The receive loop -/

/-- The node behind an address has been seen. -/
def touch (sn : Supernode) (now : Instant) (addr : SocketAddr) : Supernode :=
  match sn.addrToNode.lookup addr with
  | none => sn
  | some nodeId =>
      { sn with nodes := KeyMap.modify nodeId (fun node => { node with lastSeen := now }) sn.nodes }

/-- What a turn of the receive loop leaves behind; a turn without a result never returns. -/
structure ControlOutcome where
  sn : Supernode
  frames : List (ControlFrame × SocketAddr)
  result : Option (Except SupernodeError Unit)

/-- One turn of the receive loop for a control frame. -/
def receive (S : SupernodeEnv) (sn : Supernode) (io : SupernodeIo) (frame : ControlFrame)
    (addr : SocketAddr) : ControlOutcome :=
  let (result, s) :=
    handleControl S io frame addr [] { sn := sn.touch io.now addr, sent := [], attempts := 0 }
  { sn := s.sn, frames := s.sent, result }

/-- A control frame that reaches the supernode, with what the outside world answers meanwhile. -/
structure Datagram where
  frame : ControlFrame
  addr : SocketAddr
  io : SupernodeIo

/-- The receive loop; once a turn does not return, no other one is taken. -/
structure Loop where
  sn : Supernode
  stuck : Bool

def Loop.step (S : SupernodeEnv) (l : Loop) (d : Datagram) : Loop :=
  if l.stuck then l
  else
    let out := l.sn.receive S d.io d.frame d.addr
    { sn := out.sn, stuck := out.result.isNone }

/-- The frames that a turn of the loop sends. -/
def Loop.frames (S : SupernodeEnv) (l : Loop) (d : Datagram) :
    List (ControlFrame × SocketAddr) :=
  if l.stuck then [] else (l.sn.receive S d.io d.frame d.addr).frames

/-! ## A sample supernode -/

/-- Room 7 is drawn for the next room, and every send succeeds. -/
def sampleIo : SupernodeIo where
  now := 0
  roomId := .fill 7
  joinToken := .fill 16 0
  localAddr := some ""
  sendOk := fun _ => true

/-- A supernode right after its start. -/
def fresh : Supernode where
  nodes := ∅
  addrToNode := ∅
  rooms := ∅
  addressPool := .default
  config := { peers := [], publicAddr := none }

/-- Node `b` sends a frame. -/
def sampleDatagram (b : UInt8) (frame : ControlFrame) : Datagram where
  frame := frame
  addr := .localhost b.toUInt16
  io := sampleIo

/-- Node `b` registers. -/
def register (b : UInt8) : Datagram :=
  sampleDatagram b (.registerNode (.fill b) .unknown none (.fill 32 b) [] "" [])

end Supernode

end R2N
