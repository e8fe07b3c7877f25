import R2N.Proto.Header

/-!
# Control frames and the datagram classifier

`r2n-proto`'s `ControlFrame` with the records it carries, and `r2n-transport`'s `recv_packet`,
which decides by its first four bytes whether a datagram is a control or a data frame.  The
control codec (`postcard`) is third-party and enters as the function that decodes it.
-/

namespace R2N

open Bytes (slice)

/-! ## Control frames -/

inductive CandidateKind where
  | hostLan
  | hostIpv6
  | serverReflexive
  | portPredicted
  | relay
deriving DecidableEq

inductive CandidateSource where
  | localInterface
  | stunPrimary
  | stunSecondary
  | portMapping
  | peerReflexive
  | portPrediction
  | relayFallback
deriving DecidableEq

structure Candidate where
  kind : CandidateKind
  source : CandidateSource
  addr : SocketAddr
  priority : UInt32
  rttHintMs : Option UInt32
deriving DecidableEq

structure PeerInfo where
  nodeId : NodeId
  virtualIp : VirtualIp
  nickname : String
  publicKey : Key
deriving DecidableEq

inductive PeerAction where
  | add
  | remove
  | update
deriving DecidableEq

structure RoomDescription where
  roomId : RoomId
  name : String
  memberCount : ℕ
deriving DecidableEq

inductive ControlFrame where
  | hello (nodeId : NodeId) (version : UInt8)
  | createRoom (name : String)
  | roomCreated (roomId : RoomId) (assignedIp : VirtualIp) (virtualCidr inviteCode : String)
  | joinRoom (roomId : RoomId) (token roomName : Option String)
  | joinAccept (roomId : RoomId) (assignedIp : VirtualIp) (virtualCidr : String)
      (roomName : Option String)
  | joinReject (reason : String)
  | registerNode (nodeId : NodeId) (natType : NatType) (externalAddr : Option SocketAddr)
      (publicKey : Key) (candidates : List Candidate) (nickname : String)
      (localNetworks : List String)
  | registerOk
  | peerList (peers : List PeerInfo)
  | peerUpdate (peer : PeerInfo) (action : PeerAction)
  | punchRequest (target : NodeId) (candidates : List Candidate)
  | punchCandidate (fromNode : NodeId) (candidates : List Candidate)
  | relayOffer (target : NodeId)
  | relayAccept (relayId : String)
  | heartbeat
  | leaveRoom (roomId : RoomId)
  | handshake (fromNode : NodeId) (payload : Bytes)
  | error (code : UInt16) (message : String)
  | queryRooms
  | roomsList (rooms : List RoomDescription)
deriving DecidableEq

/-! ## Receiving a datagram -/

structure DataFrameView where
  header : DataHeader
  payloadRange : ℕ × ℕ
deriving DecidableEq

inductive TransportPacket where
  | control (frame : ControlFrame)
  | data (frame : DataFrameView)
deriving DecidableEq

inductive TransportError where
  | serialization
  | dataHeader (err : DataHeaderError)
deriving DecidableEq

/-- `UdpTransport::recv_packet` on a received datagram. -/
def recvPacket (postcard : Bytes → Option ControlFrame) (datagram : Bytes) :
    Except TransportError TransportPacket :=
  if controlMagic.length ≤ datagram.length ∧ slice 0 4 datagram = controlMagic then
    match postcard (datagram.drop 4) with
    | none => .error .serialization
    | some packet => .ok (.control packet)
  else if datagram.length < dataHeaderSize then .error (.dataHeader .bufferTooShort)
  else
    match DataHeader.decode (datagram.take dataHeaderSize) with
    | .error e => .error (.dataHeader e)
    | .ok header =>
        if header.payloadRange.2 ≠ datagram.length then
          .error (.dataHeader .invalidPayloadLength)
        else .ok (.data { header, payloadRange := header.payloadRange })

/-- **Classification.**  A header of the current version followed by as many bytes as it
announces is a data frame whose payload ends where the datagram ends. -/
theorem recvPacket_data (postcard : Bytes → Option ControlFrame) (h : DataHeader)
    (hv : h.version = protocolVersion) (payload : Bytes)
    (hlen : payload.length = h.payloadLen.toNat) :
    recvPacket postcard (h.wire ++ payload) =
      .ok (.data { header := h, payloadRange := h.payloadRange }) := by
  have hmagic : slice 0 4 (h.wire ++ payload) ≠ controlMagic := by
    rw [(h.slice_wire payload).1]
    decide
  have hlong : ¬ (h.wire ++ payload).length < dataHeaderSize := by simp
  have htake : (h.wire ++ payload).take dataHeaderSize = h.wire ++ [] := by
    rw [List.take_append_of_le_length (by simp), List.take_of_length_le (by simp),
      List.append_nil]
  have hend : ¬ h.payloadRange.2 ≠ (h.wire ++ payload).length := by
    simp [DataHeader.payloadRange, hlen]
  rw [recvPacket, if_neg (fun hc => hmagic hc.2), if_neg hlong, htake,
    DataHeader.decode_wire h hv]
  simp only [if_neg hend]

end R2N
