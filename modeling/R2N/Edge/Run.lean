import R2N.Lib.Run
import R2N.Edge.Edge

/-!
# Runs of an edge

An edge with its dataplane as a system that takes one input after another: a control frame, a data
frame, a command, the end of a leave, a change of supernode by the watchdog, or a call of
`send_to_peer` by one of the sending loops.  A loop holds the records it sends to while other tasks
run, so a call may name any record that exists, whether or not it is still in the table.

* `Platform` — the third-party parts a run depends on.
* `EdgeInput`, `Edge.step` — the system.
* `installedBy`, `encryptionsBy` — what a step is observed to do.
-/

namespace R2N

/-- The third-party code an edge runs on, and the target it is compiled for. -/
structure Platform where
  noise : Noise
  aead : Aead
  etherparse : Etherparse
  macos : Bool

/-- A platform on which nothing is hidden, for runs that are evaluated. -/
def Platform.transparent : Platform where
  noise := .transparent
  aead := .transparent
  etherparse := .blind
  macos := false

/-- A call of `send_to_peer` by the TUN loop or the ping loop. -/
structure SendCall where
  fromTun : Bool
  peer : PeerRef
  packetType : DataPacketType
  payload : Bytes
  target : Option SocketAddr
  flood : Bool
  net : NetAnswer
deriving DecidableEq

inductive EdgeInput where
  | control (frame : ControlFrame) (addr : SocketAddr) (io : EdgeIo)
  | data (header : DataHeader) (payload : Bytes) (addr : SocketAddr) (io : IncomingIo)
  | command (cmd : EdgeCommand) (sendOk : Bool)
  | finishLeave
  | failover (supernode : SocketAddr)
  | send (call : SendCall)

namespace Edge

/-- The outcome of a call of a sending loop. -/
def sendOutcome (P : Platform) (e : Edge) (call : SendCall) : SendOutcome :=
  e.dataplane.sendToPeer P.aead P.etherparse call.peer call.packetType call.payload call.target
    call.flood call.net

/-- The outcome of a data frame. -/
def dataOutcome (P : Platform) (e : Edge) (h : DataHeader) (payload : Bytes) (addr : SocketAddr)
    (io : IncomingIo) : IncomingOutcome :=
  e.dataplane.handleIncomingFrame P.aead P.etherparse P.macos h payload addr io

/-- One step of the edge. -/
def step (P : Platform) (e : Edge) : EdgeInput → Edge
  | .control frame addr io => (e.handleControl P.noise frame addr io).edge
  | .data h payload addr io => { e with dataplane := (e.dataOutcome P h payload addr io).plane }
  | .command cmd sendOk => (e.handleCommand cmd sendOk).edge
  | .finishLeave => if e.leaving then e.finishLeave else e
  | .failover supernode => { e with supernodeAddr := supernode }
  | .send call =>
      if call.peer < e.dataplane.nextRef then
        { e with dataplane := (e.sendOutcome P call).plane }
      else e

/-- The cipher a step installs. -/
def installedBy (P : Platform) (e : Edge) : EdgeInput → Option Install
  | .control frame addr io => (e.handleControl P.noise frame addr io).installed
  | _ => none

/-- The calls of `encrypt_in_place` a step makes: the record that is sent to, the key and the
nonce. -/
def encryptionsBy (P : Platform) (e : Edge) : EdgeInput → List (PeerRef × Key × UInt64)
  | .data h payload addr io =>
      match e.dataplane.peers.lookup h.srcNode, (e.dataOutcome P h payload addr io).encrypted with
      | some r, some (key, nonce) => [(r, key, nonce)]
      | _, _ => []
  | .send call =>
      if call.peer < e.dataplane.nextRef then
        match (e.sendOutcome P call).encrypted with
        | some (key, nonce) => [(call.peer, key, nonce)]
        | none => []
      else []
  | _ => []

/-! ## Sample edges -/

/-- The record of node `b`, whose static key is `b` repeated. -/
def sampleInfo (b : UInt8) : PeerInfo :=
  { nodeId := .fill b, virtualIp := ⟨.fill 4 b⟩, nickname := "", publicKey := .fill 32 b }

/-- A LAN address of node `b`. -/
def sampleCandidate (b : UInt8) : Candidate :=
  { kind := .hostLan, source := .localInterface, addr := .localhost b.toUInt16, priority := 100
    rttHintMs := none }

/-- Node `b` right after its start; on a transparent platform its public key is `b` repeated. -/
def sample (b : UInt8) : Edge :=
  .new (.fill b) (.fill 32 b) "" .unknown none [] [sampleCandidate b] (.localhost 9) none .default
    1280 .default (.fresh 0 (sampleInfo 0) (.localhost 9))

/-- Answers of the outside world with the random keys given by one byte each. -/
def sampleIo (sessionKey ephemeral : UInt8) : EdgeIo :=
  { now := 0, sessionKey := .fill 32 sessionKey, ephemeral := .fill 32 ephemeral
    createTun := some { mode := .tun, ipv4Addr := none }, nameOk := true, cidrOk := true
    routeOk := true }

/-- The supernode announces node `b`. -/
def announce (b : UInt8) : EdgeInput :=
  .control (.peerUpdate (sampleInfo b) .add) (.localhost 9) (sampleIo 0 0)

/-- The supernode lets the edge into room 7. -/
def enterRoom : EdgeInput :=
  .control (.joinAccept (.fill 7) ⟨.fill 4 7⟩ "" none) (.localhost 9) (sampleIo 0 0)

/-- The first message of node 1 to node 2, with session key 5. -/
def firstMessage : Transcript :=
  { ephemeral := .fill 32 8, initiator := .fill 32 1, responder := .fill 32 2
    payload := (ByteArr.fill 32 5).toList }

/-- Node 1 is asked to punch to node 2: it sends the first message. -/
def punch : EdgeInput :=
  .control (.punchRequest (.fill 2) [sampleCandidate 2]) (.localhost 9) (sampleIo 5 8)

/-- Node 2 gets the first message. -/
def receiveFirst : EdgeInput :=
  .control (.handshake (.fill 1) (Noise.transparent.firstBytes firstMessage)) (.localhost 1)
    (sampleIo 6 9)

/-- Node 1 gets the answer of node 2. -/
def receiveAnswer : EdgeInput :=
  .control (.handshake (.fill 2) (Noise.transparent.secondBytes (.fill 32 9) firstMessage []))
    (.localhost 2) (sampleIo 6 9)

/-- The edge sends one IPv4 packet from its device to its first peer. -/
def sendPacket : EdgeInput :=
  .send { fromTun := true, peer := 0, packetType := .ipv4, payload := [0x45], target := none
          flood := false, net := .sent }

/-! ## What reading a handshake frame comes to -/

/-- A first message the edge reads: addressed to its static key, with a payload that fits. -/
def readable (N : Noise) (e : Edge) (payload : Bytes) : Option Transcript :=
  match N.view payload with
  | some (.first t) =>
      if t.responder = e.publicKey N ∧ t.payload.length ≤ handshakeCap then some t else none
  | _ => none

/-- The key a payload carries. -/
def enclosedKey (payload : Bytes) : Option Key :=
  if payload.length ≥ 32 then some (ByteArr.ofBytes 32 (payload.take 32)) else none

/-- **The responder's branch.**  A readable first message is answered and completes the handshake
at once; anything else has no effect. -/
lemma readAsResponder_eq (N : Noise) (e : Edge) (ephemeral : Key) (payload : Bytes) :
    readAsResponder N (e.publicKey N) ephemeral payload =
      match e.readable N payload with
      | some t =>
          { slot := none, response := some (N.secondBytes ephemeral t [])
            negotiatedKey := enclosedKey t.payload, completed := some (.finished false t) }
      | none => { slot := none, response := none, negotiatedKey := none, completed := none } := by
  unfold readAsResponder readable NoiseSession.readMessage
  rcases N.view payload with _ | (t | ⟨t, p⟩)
  · rfl
  · simp only
    split_ifs
    · rfl
    · rfl
  · rfl

/-- **The initiator's branch**, for a session that has written its first message: it is over
either way, and complete exactly if the frame answers that message. -/
lemma readAsInitiator_awaiting (N : Noise) (t : Transcript) (pending : Option Key)
    (payload : Bytes) :
    readAsInitiator N (.awaiting t) pending payload =
      match (NoiseSession.awaiting t).readMessage N payload handshakeCap with
      | some _ =>
          { slot := none, response := none, negotiatedKey := pending
            completed := some (.finished true t) }
      | none => { slot := none, response := none, negotiatedKey := none, completed := none } := by
  unfold readAsInitiator
  cases hread : (NoiseSession.awaiting t).readMessage N payload handshakeCap with
  | none => rfl
  | some res =>
      obtain ⟨p, -, -, rfl⟩ := NoiseSession.readMessage_awaiting.mp hread
      rfl

end Edge

end R2N
