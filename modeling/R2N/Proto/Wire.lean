import R2N.Proto.Frame
import R2N.Transport

/-!
# What nodes send to each other

`UdpTransport::send_control` puts the control magic in front of what `postcard` makes of a frame,
and `send_raw` sends a data frame as it is; `recv_packet` tells the two apart by the magic.
`postcard` is third-party: what is known of it is that it reads back what it has written.

* `ControlCodec` — `postcard` on control frames.
* `sendControl`, `sendRaw` — the datagrams handed to the socket.
* `NodePacket` — a control frame, or a data frame as nodes build it.
* **`recvPacket_send`** — whatever is sent is received as what it is.
-/

namespace R2N

open Bytes (slice)

/-- `postcard` on control frames; writing may fail, and what is written is read back. -/
structure ControlCodec where
  toStdvec : ControlFrame → Option Bytes
  fromBytes : Bytes → Option ControlFrame
  fromBytes_toStdvec : ∀ frame bytes, toStdvec frame = some bytes → fromBytes bytes = some frame

/-- The position of the variant of a heartbeat. -/
def heartbeatBytes : Bytes := [14]

lemma heartbeat_read (frame : ControlFrame) (bytes : Bytes)
    (h : (if frame = .heartbeat then some heartbeatBytes else none) = some bytes) :
    (if bytes = heartbeatBytes then some ControlFrame.heartbeat else none) = some frame := by
  split_ifs at h with hframe
  obtain rfl := Option.some.inj h
  rw [if_pos rfl, hframe]

/-- `postcard` as far as heartbeats go. -/
def ControlCodec.heartbeats : ControlCodec where
  toStdvec := fun frame => if frame = .heartbeat then some heartbeatBytes else none
  fromBytes := fun bytes => if bytes = heartbeatBytes then some .heartbeat else none
  fromBytes_toStdvec := heartbeat_read

/-- `UdpTransport::send_control`: the datagram handed to the socket, `none` if the target is of the
other address family or the frame cannot be written. -/
def sendControl (C : ControlCodec) (localAddr : Option SocketAddr) (frame : ControlFrame)
    (target : SocketAddr) : Option SentDatagram :=
  if checkFamily localAddr target then
    (C.toStdvec frame).map fun body => (controlMagic ++ body, target)
  else none

/-- `UdpTransport::send_raw`. -/
def sendRaw (localAddr : Option SocketAddr) (frame : Bytes) (target : SocketAddr) :
    Option SentDatagram :=
  if checkFamily localAddr target then some (frame, target) else none

/-- A data frame of the current version, with as many bytes as its header announces. -/
structure DataFrame where
  header : DataHeader
  payload : Bytes
  version : header.version = protocolVersion
  length : payload.length = header.payloadLen.toNat

/-- What a node sends to another. -/
inductive NodePacket where
  | control (frame : ControlFrame)
  | data (frame : DataFrame)

namespace NodePacket

def send (C : ControlCodec) (localAddr : Option SocketAddr) (target : SocketAddr) :
    NodePacket → Option SentDatagram
  | control frame => sendControl C localAddr frame target
  | data frame => sendRaw localAddr (frame.header.wire ++ frame.payload) target

/-- What the packet is to the node that gets it. -/
def received : NodePacket → TransportPacket
  | control frame => .control frame
  | data frame => .data { header := frame.header, payloadRange := frame.header.payloadRange }

end NodePacket

/-- Behind the magic stands what the codec reads. -/
lemma recvPacket_control {postcard : Bytes → Option ControlFrame} {body : Bytes}
    {frame : ControlFrame} (h : postcard body = some frame) :
    recvPacket postcard (controlMagic ++ body) = .ok (.control frame) := by
  have hmagic : controlMagic.length = 4 := rfl
  have hslice : slice 0 4 (controlMagic ++ body) = controlMagic :=
    Bytes.slice_zero_append hmagic body
  have hlen : controlMagic.length ≤ (controlMagic ++ body).length := by simp
  have hdrop : (controlMagic ++ body).drop 4 = body := List.drop_left' hmagic
  rw [recvPacket, if_pos ⟨hlen, hslice⟩, hdrop]
  simp only [h]

/-- **Packets arrive as what they are**, at the target. -/
theorem recvPacket_send {C : ControlCodec} {localAddr : Option SocketAddr} {target : SocketAddr}
    {p : NodePacket} {sent : SentDatagram} (h : p.send C localAddr target = some sent) :
    recvPacket C.fromBytes sent.1 = .ok p.received ∧ sent.2 = target := by
  cases p with
  | control frame =>
      simp only [NodePacket.send, sendControl] at h
      split_ifs at h
      obtain ⟨body, hbody, rfl⟩ := Option.map_eq_some_iff.mp h
      exact ⟨recvPacket_control (C.fromBytes_toStdvec frame body hbody), rfl⟩
  | data frame =>
      simp only [NodePacket.send, sendRaw] at h
      split_ifs at h
      obtain rfl := Option.some.inj h
      exact ⟨recvPacket_data C.fromBytes frame.header frame.version frame.payload frame.length, rfl⟩

end R2N
