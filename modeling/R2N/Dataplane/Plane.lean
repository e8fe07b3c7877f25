import Mathlib.Data.Finset.Basic
import R2N.Lib.KeyMap
import R2N.Crypto.Cipher
import R2N.Dataplane.Buffers
import R2N.Dataplane.Path
import R2N.Discovery
import R2N.Proto.Frame

/-!
# The dataplane's state

`r2n-dataplane`'s `DataPlane` and the operations the edge performs on it.  The source shares a
peer record between its table and the tasks that are sending to it (`Arc<DataPeer>`): a record
taken out of the table is still used by a task that holds it, and a peer that comes back gets a
new one.  So the table maps node ids to references and the records live in a heap that is never
overwritten by an insertion.

* `SeenFloodPackets`, `MacTableEntry` — the two bounded tables.
* `DataPeer`, `DataPlane` — the state.
* `upsertPeer`, `removePeer`, `clearPeers`, `setDirectPath`, `addPeerCandidate` — the edge's side.
* `selectTargets` — whom a packet read from the device goes to.
-/

namespace R2N

open Bytes (slice)

/-! ## Flood deduplication -/

def floodTtl : UInt8 := 1

def seenFloodWindow : ℕ := fromSecs 30

def seenFloodCapacity : ℕ := 4096

structure SeenFloodPackets where
  order : List (NodeId × PacketId × Instant)
  set : Finset (NodeId × PacketId)

namespace SeenFloodPackets

def new : SeenFloodPackets := { order := [], set := ∅ }

/-- The first loop of `prune`: entries beyond the capacity go, oldest first. -/
def pruneCapacity :
    List (NodeId × PacketId × Instant) → Finset (NodeId × PacketId) → SeenFloodPackets
  | [], set => { order := [], set }
  | e :: rest, set =>
      if (e :: rest).length > seenFloodCapacity then pruneCapacity rest (set.erase (e.1, e.2.1))
      else { order := e :: rest, set }

/-- The second loop of `prune`: entries older than the window go, oldest first. -/
def pruneAge (now : Instant) :
    List (NodeId × PacketId × Instant) → Finset (NodeId × PacketId) → SeenFloodPackets
  | [], set => { order := [], set }
  | e :: rest, set =>
      if now - e.2.2 ≤ seenFloodWindow then { order := e :: rest, set }
      else pruneAge now rest (set.erase (e.1, e.2.1))

def prune (s : SeenFloodPackets) (now : Instant) : SeenFloodPackets :=
  let s := pruneCapacity s.order s.set
  pruneAge now s.order s.set

/-- `SeenFloodPackets::insert_if_new`. -/
def insertIfNew (s : SeenFloodPackets) (now : Instant) (origin : NodeId) (packetId : PacketId) :
    Bool × SeenFloodPackets :=
  let s := s.prune now
  let key := (origin, packetId)
  if key ∈ s.set then (false, s)
  else
    let s : SeenFloodPackets :=
      { order := s.order ++ [(origin, packetId, now)], set := insert key s.set }
    (true, s.prune now)

lemma pruneCapacity_set_subset (order : List (NodeId × PacketId × Instant))
    (set : Finset (NodeId × PacketId)) : (pruneCapacity order set).set ⊆ set := by
  induction order generalizing set with
  | nil => exact Finset.Subset.refl set
  | cons e rest ih =>
      rw [pruneCapacity]
      split_ifs
      · exact (ih _).trans (Finset.erase_subset _ _)
      · exact Finset.Subset.refl set

lemma pruneAge_set_subset (now : Instant) (order : List (NodeId × PacketId × Instant))
    (set : Finset (NodeId × PacketId)) : (pruneAge now order set).set ⊆ set := by
  induction order generalizing set with
  | nil => exact Finset.Subset.refl set
  | cons e rest ih =>
      rw [pruneAge]
      split_ifs
      · exact Finset.Subset.refl set
      · exact (ih _).trans (Finset.erase_subset _ _)

lemma prune_set_subset (s : SeenFloodPackets) (now : Instant) : (s.prune now).set ⊆ s.set :=
  (pruneAge_set_subset now _ _).trans (pruneCapacity_set_subset _ _)

/-- A key that is not stored is new. -/
lemma insertIfNew_of_not_mem {s : SeenFloodPackets} {origin : NodeId} {packetId : PacketId}
    (h : (origin, packetId) ∉ s.set) (now : Instant) :
    (s.insertIfNew now origin packetId).1 = true := by
  have hprune : (origin, packetId) ∉ (s.prune now).set := fun hm => h (prune_set_subset s now hm)
  simp [insertIfNew, hprune]

end SeenFloodPackets

/-! ## Ethernet frames and the MAC table -/

abbrev Mac := ByteArr 6

def macTableMaxEntries : ℕ := 4096

def macTableMaxAge : ℕ := fromSecs 300

structure MacTableEntry where
  nodeId : NodeId
  learnedAt : Instant
  lastSeen : Instant
deriving DecidableEq

/-- Destination and source address of a frame. -/
def ethernetMacs (frame : Bytes) : Option (Mac × Mac) :=
  if frame.length < 14 then none
  else some (ByteArr.ofBytes 6 (slice 0 6 frame), ByteArr.ofBytes 6 (slice 6 12 frame))

def ethernetIpPayload (frame : Bytes) : Option Bytes :=
  if frame.length < 14 then none
  else
    let etherType := u16Be (frame.getD 12 0) (frame.getD 13 0)
    if etherType = 0x0800 ∨ etherType = 0x86dd then some (frame.drop 14) else none

def isBroadcastMac (mac : Mac) : Bool := mac = ByteArr.fill 6 0xff

def isMulticastMac (mac : Mac) : Bool := mac.toList.getD 0 0 &&& 1 = 1

/-! ## Peers and the plane -/

structure DataPeer where
  info : PeerInfo
  pathManager : PathManager
  cipher : Option Cipher
  sessionId : SessionId
  nextNonce : UInt64

/-- A peer as the edge adds it: one relay path, no cipher, session 0, nonce 1. -/
def DataPeer.fresh (now : Instant) (info : PeerInfo) (relay : SocketAddr) : DataPeer where
  info := info
  pathManager := .new now relay
  cipher := none
  sessionId := ⟨0⟩
  nextNonce := 1

/-- `r2n_tun::TunDeviceMode`. -/
inductive TunDeviceMode where
  | tun
  | tap
deriving DecidableEq

/-- `r2n_tun::TunDevice`, as far as the dataplane reads it. -/
structure TunDevice where
  mode : TunDeviceMode
  ipv4Addr : Option (ByteArr 4)
deriving DecidableEq

/-- A shared peer record, as an address in the heap. -/
abbrev PeerRef := ℕ

/-- The number of slots of the dataplane's slab. -/
def planeSlots : ℕ := 4096

structure DataPlane where
  localNodeId : NodeId
  tun : Option TunDevice
  roomId : Option RoomId
  peers : KeyMap NodeId PeerRef
  heap : PeerRef → DataPeer
  nextRef : PeerRef
  discovery : DiscoveryConfig
  slab : PacketSlab defaultFrameCap planeSlots
  scheduler : QosScheduler (PacketDesc planeSlots)
  nextPacketId : UInt64
  seenFlood : SeenFloodPackets
  macTable : KeyMap Mac MacTableEntry
  trafficPolicy : TrafficPolicy
  tunMtu : UInt16

namespace DataPlane

/-- `DataPlane::new`.  Nothing is in the heap yet; `blank` stands for its unused cells. -/
def new (localNodeId : NodeId) (tun : Option TunDevice) (discovery : DiscoveryConfig)
    (tunMtu : UInt16) (blank : DataPeer) : DataPlane where
  localNodeId := localNodeId
  tun := tun
  roomId := none
  peers := ∅
  heap := fun _ => blank
  nextRef := 0
  discovery := discovery
  slab := PacketSlab.new defaultFrameCap planeSlots defaultHeadroom
  scheduler := QosScheduler.new 2048
  nextPacketId := 1
  seenFlood := .new
  macTable := ∅
  trafficPolicy := .default
  tunMtu := tunMtu

def setRoomId (dp : DataPlane) (roomId : Option RoomId) : DataPlane := { dp with roomId }

def setTrafficPolicy (dp : DataPlane) (trafficPolicy : TrafficPolicy) : DataPlane :=
  { dp with trafficPolicy }

/-- Writes one shared record. -/
def setPeer (dp : DataPlane) (r : PeerRef) (peer : DataPeer) : DataPlane :=
  { dp with heap := Function.update dp.heap r peer }

/-- `DataPlane::upsert_peer`: a peer that is present keeps its path manager, cipher, session and
nonce. -/
def upsertPeer (dp : DataPlane) (peer : DataPeer) : DataPlane :=
  match dp.peers.lookup peer.info.nodeId with
  | some r => dp.setPeer r { dp.heap r with info := peer.info }
  | none =>
      { dp.setPeer dp.nextRef peer with
        peers := dp.peers.insert peer.info.nodeId dp.nextRef
        nextRef := dp.nextRef + 1 }

def removePeer (dp : DataPlane) (nodeId : NodeId) : DataPlane :=
  { dp with
    peers := dp.peers.erase nodeId
    macTable := KeyMap.retain (fun _ entry => entry.nodeId ≠ nodeId) dp.macTable }

def clearPeers (dp : DataPlane) : DataPlane := { dp with peers := ∅, macTable := ∅ }

def setDirectPath (dp : DataPlane) (now : Instant) (nodeId : NodeId) (addr : SocketAddr)
    (cipher : Option Cipher) : DataPlane :=
  match dp.peers.lookup nodeId with
  | none => dp
  | some r =>
      let peer := dp.heap r
      let pathManager := (peer.pathManager.addOrUpdatePath now addr false).recordSuccess now addr 10
      dp.setPeer r { peer with pathManager, cipher := cipher.or peer.cipher }

def addPeerCandidate (dp : DataPlane) (now : Instant) (nodeId : NodeId) (addr : SocketAddr) :
    DataPlane :=
  match dp.peers.lookup nodeId with
  | none => dp
  | some r =>
      let peer := dp.heap r
      dp.setPeer r { peer with pathManager := peer.pathManager.addOrUpdatePath now addr false }

/-! ## Learning addresses -/

def pruneMacTable (dp : DataPlane) (now : Instant) : DataPlane :=
  { dp with
    macTable := KeyMap.retain (fun _ entry => now - entry.lastSeen ≤ macTableMaxAge) dp.macTable }

/-- `min_by_key(last_seen)`: the first entry none is older than. -/
def oldestMac : List (Sigma fun _ : Mac => MacTableEntry) → Option (Mac × Instant)
  | [] => none
  | e :: rest =>
      match oldestMac rest with
      | none => some (e.1, e.2.lastSeen)
      | some (mac, seen) =>
          if e.2.lastSeen ≤ seen then some (e.1, e.2.lastSeen) else some (mac, seen)

def evictOldestMac (dp : DataPlane) : DataPlane :=
  match oldestMac dp.macTable.entries with
  | none => dp
  | some (mac, _) => { dp with macTable := dp.macTable.erase mac }

def learnMac (dp : DataPlane) (now : Instant) (mac : Mac) (nodeId : NodeId) : DataPlane :=
  let dp := dp.pruneMacTable now
  let dp :=
    { dp with
      macTable := KeyMap.upsert mac (fun entry => { entry with nodeId, lastSeen := now })
        { nodeId, learnedAt := now, lastSeen := now } dp.macTable }
  if dp.macTable.keys.length > macTableMaxEntries then dp.evictOldestMac else dp

/-! ## Choosing targets -/

inductive FrameMode where
  | l3
  | l2
deriving DecidableEq

structure PacketTarget where
  peer : PeerRef
  flood : Bool
deriving DecidableEq

/-- A target for every peer of the table. -/
def floodTargets (dp : DataPlane) : List PacketTarget :=
  (KeyMap.values dp.peers).map fun r => { peer := r, flood := true }

def selectL3Targets (E : Etherparse) (dp : DataPlane) (packetType : DataPacketType)
    (payload : Bytes) : List PacketTarget :=
  if packetType = .broadcast ∨ packetType = .multicast then dp.floodTargets
  else
    match E.ipHeader payload with
    | some (.version4 _ destination _ _) =>
        match (KeyMap.values dp.peers).find? fun r =>
            (dp.heap r).info.virtualIp.octets = destination with
        | some r => [{ peer := r, flood := false }]
        | none => []
    | _ => []

def selectL2Targets (dp : DataPlane) (now : Instant) (frame : Bytes) :
    List PacketTarget × DataPlane :=
  let dp := dp.pruneMacTable now
  match ethernetMacs frame with
  | none => ([], dp)
  | some (dstMac, _) =>
      let known :=
        if isBroadcastMac dstMac || isMulticastMac dstMac then none
        else (dp.macTable.lookup dstMac).bind fun entry => dp.peers.lookup entry.nodeId
      match known with
      | some r => ([{ peer := r, flood := false }], dp)
      | none => (dp.floodTargets, dp)

def selectTargets (E : Etherparse) (dp : DataPlane) (now : Instant) (mode : FrameMode)
    (packetType : DataPacketType) (payload : Bytes) : List PacketTarget × DataPlane :=
  match mode with
  | .l3 => (selectL3Targets E dp packetType payload, dp)
  | .l2 => dp.selectL2Targets now payload

end DataPlane

end R2N
