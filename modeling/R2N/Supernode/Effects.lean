import R2N.Supernode.Turns

/-!
# What a turn of the receive loop does

The effect of `receive` on the tables and the frames it sends, when its sends succeed, in terms of
the state before it.  A room that is not in `rooms` has no members (`membersOf`), so a room that is
made on demand for a join that is then refused changes no one's membership.

* `receive_registerNode`, `receive_createRoom`, **`receive_joinRoom`**, **`receive_leaveRoom`** —
  one lemma for each handler that changes a table.
-/

namespace R2N

open Guarded

/-! ## Sends that succeed -/

section Send

variable {io : SupernodeIo} (hok : ∀ n, io.sendOk n = true) (held : List RoomId)

/-- The state after frames have been sent. -/
def HandlerState.sending (s : HandlerState) (frames : List (ControlFrame × SocketAddr)) :
    HandlerState :=
  { s with sent := s.sent ++ frames, attempts := s.attempts + frames.length }

@[simp] lemma HandlerState.sending_sn (s : HandlerState)
    (frames : List (ControlFrame × SocketAddr)) : (s.sending frames).sn = s.sn := rfl

lemma HandlerState.sending_cons (s : HandlerState) (frame : ControlFrame × SocketAddr)
    (frames : List (ControlFrame × SocketAddr)) :
    (s.sending [frame]).sending frames = s.sending (frame :: frames) := by
  simp only [sending, List.append_assoc, List.singleton_append, List.length_cons, List.length_nil]
  rw [Nat.zero_add, Nat.add_right_comm, Nat.add_assoc]

include hok

lemma send_ok (frame : ControlFrame) (addr : SocketAddr) (s : HandlerState) :
    send io frame addr held s = (some (.ok ()), s.sending [(frame, addr)]) :=
  if_pos (hok s.attempts)

lemma trySend_ok (frame : ControlFrame) (addr : SocketAddr) (s : HandlerState) :
    trySend io frame addr held s = (some (.ok ()), s.sending [(frame, addr)]) := by
  rw [trySend, if_pos (hok s.attempts)]
  rfl

lemma trySendEach_ok (frames : List (ControlFrame × SocketAddr)) (s : HandlerState) :
    trySendEach io frames held s = (some (.ok ()), s.sending frames) := by
  induction frames generalizing s with
  | nil => simp [trySendEach, HandlerState.sending]
  | cons frame frames ih =>
      rw [trySendEach, bind_of_ok (trySend_ok hok held frame.1 frame.2 s), ih,
        HandlerState.sending_cons]

end Send

namespace Supernode

/-- The members of a room, none if there is no such room. -/
def membersOf (sn : Supernode) (roomId : RoomId) : KeyMap NodeId Member :=
  ((sn.rooms.lookup roomId).map Room.members).getD ∅

/-! ## The node is seen -/

/-- Who is registered, and where, stays as it is. -/
structure SameNodes (sn sn' : Supernode) : Prop where
  addrToNode : sn'.addrToNode = sn.addrToNode
  addrOf : ∀ id, sn'.addrOf id = sn.addrOf id

lemma touch_sameNodes (sn : Supernode) (now : Instant) (addr : SocketAddr) :
    SameNodes sn (sn.touch now addr) :=
  ⟨touch_addrToNode sn now addr, touch_addrOf sn now addr⟩

lemma SameNodes.trans {sn sn' sn'' : Supernode} (h : SameNodes sn sn')
    (h' : SameNodes sn' sn'') : SameNodes sn sn'' :=
  ⟨h'.addrToNode.trans h.addrToNode, fun id => (h'.addrOf id).trans (h.addrOf id)⟩

/-- A change of rooms and pool. -/
lemma SameNodes.rooms {sn sn' : Supernode} (h : SameNodes sn sn') (rooms : KeyMap RoomId Room)
    (addressPool : RoomAddressPool) : SameNodes sn { sn' with rooms, addressPool } :=
  ⟨h.addrToNode, h.addrOf⟩

lemma membersOf_congr {sn sn' : Supernode} (h : sn'.rooms = sn.rooms) (r : RoomId) :
    sn'.membersOf r = sn.membersOf r := by
  rw [membersOf, h, membersOf]

/-- The members of the rooms after one of them has been written. -/
lemma membersOf_insert {sn sn' : Supernode} {roomId : RoomId} {room : Room}
    (h : sn'.rooms = sn.rooms.insert roomId room) (r : RoomId) :
    sn'.membersOf r = if r = roomId then room.members else sn.membersOf r := by
  unfold membersOf
  rw [h, KeyMap.lookup_insert_eq]
  split_ifs <;> rfl

/-! ## Effects -/

/-- A request to create a room is refused, or the requester becomes the only member of the drawn
room; it is told so unless the supernode does not know its own address. -/
inductive CreateEffect (sn : Supernode) (roomId : RoomId) (addr : SocketAddr) :
    Supernode → List (ControlFrame × SocketAddr) → Prop
  | refused {sn' : Supernode} {frames : List (ControlFrame × SocketAddr)}
      (same : SameNodes sn sn') (members : ∀ r, sn'.membersOf r = sn.membersOf r)
      (hframes : frames = [] ∨ frames = [(.error 400 "node not registered", addr)]) :
      CreateEffect sn roomId addr sn' frames
  | created {sn' : Supernode} {frames : List (ControlFrame × SocketAddr)} {id : NodeId}
      {member : Member} (same : SameNodes sn sn') (hid : sn.addrToNode.lookup addr = some id)
      (hmember : member.nodeId = id)
      (members : ∀ r, sn'.membersOf r =
        if r = roomId then AList.insert id member ∅ else sn.membersOf r)
      (hframes : frames = [] ∨ ∃ ip cidr code,
        frames = [(.roomCreated roomId ip cidr code, addr)]) :
      CreateEffect sn roomId addr sn' frames

/-- A request to join is refused or fails, or the requester is a member afterwards. -/
inductive JoinEffect (sn : Supernode) (roomId : RoomId) (addr : SocketAddr) :
    Supernode → List (ControlFrame × SocketAddr) → Prop
  | refused {sn' : Supernode} {frames : List (ControlFrame × SocketAddr)}
      (same : SameNodes sn sn') (members : ∀ r, sn'.membersOf r = sn.membersOf r)
      (hframes : frames = [] ∨ ∃ reason, frames = [(.joinReject reason, addr)]) :
      JoinEffect sn roomId addr sn' frames
  | joined {sn' sn₁ : Supernode} {room : Room} {ip : VirtualIp} {id : NodeId} {member : Member}
      (same : SameNodes sn sn') (hid : sn.addrToNode.lookup addr = some id)
      (hmember : room.members.lookup id = some member)
      (hnew : member.nodeId = id ∨ (sn.membersOf roomId).lookup id = some member)
      (others : ∀ x ≠ id, room.members.lookup x = (sn.membersOf roomId).lookup x)
      (members : ∀ r, sn'.membersOf r = if r = roomId then room.members else sn.membersOf r)
      (same₁ : SameNodes sn sn₁) :
      JoinEffect sn roomId addr sn' (sn₁.joinFrames roomId room ip member addr)

/-- A leave has no effect, or the requester is not a member afterwards. -/
inductive LeaveEffect (sn : Supernode) (roomId : RoomId) (addr : SocketAddr) :
    Supernode → List (ControlFrame × SocketAddr) → Prop
  | ignored {sn' : Supernode} (same : SameNodes sn sn')
      (members : ∀ r, sn'.membersOf r = sn.membersOf r) : LeaveEffect sn roomId addr sn' []
  | left {sn' sn₁ : Supernode} {room : Room} {id : NodeId} (same : SameNodes sn sn')
      (hid : sn.addrToNode.lookup addr = some id)
      (hroom : room.members = (sn.membersOf roomId).erase id)
      (members : ∀ r, sn'.membersOf r = if r = roomId then room.members else sn.membersOf r)
      (same₁ : SameNodes sn sn₁) :
      LeaveEffect sn roomId addr sn' (sn₁.leaveFrames room ((sn.membersOf roomId).lookup id))

/-! ## Handlers -/

section Handlers

variable (S : SupernodeEnv) {io : SupernodeIo} (hok : ∀ n, io.sendOk n = true) (sn : Supernode)
  (addr : SocketAddr)

include hok

/-- **Registration**: the node and its address are filed; punch requests go out. -/
lemma receive_registerNode (nodeId : NodeId) (natType : NatType)
    (externalAddr : Option SocketAddr) (publicKey : Key) (candidates : List Candidate)
    (nickname : String) (localNetworks : List String) :
    let out := sn.receive S io (.registerNode nodeId natType externalAddr publicKey candidates
      nickname localNetworks) addr
    out.sn.rooms = sn.rooms ∧
    out.sn.addrToNode = sn.addrToNode.insert addr nodeId ∧
    (∀ id, out.sn.addrOf id = if id = nodeId then some addr else sn.addrOf id) ∧
    ∃ addrs : List SocketAddr, out.frames = (.registerOk, addr) ::
      addrs.map fun a => (.punchRequest nodeId candidates, a) := by
  intro out
  have hout : out = sn.receive S io (.registerNode nodeId natType externalAddr publicKey candidates
      nickname localNetworks) addr := rfl
  unfold receive handleControl registerNode at hout
  simp only [update, modify_bind] at hout
  rw [bind_of_ok (send_ok hok _ _ _ _)] at hout
  have hacc : ∀ s : HandlerState, accessAll (do
      return (← (get : Handler HandlerState)).sn.peersToUpdate nodeId) [] s =
      (some (.ok (s.sn.peersToUpdate nodeId)), s) := fun s => by rw [accessAll_nil]; rfl
  rw [bind_of_ok (hacc _), trySendEach_ok hok] at hout
  rw [hout]
  refine ⟨by simp, by simp, fun id => ?_, _, rfl⟩
  simp only [addrOf, HandlerState.sending_sn, KeyMap.lookup_insert_eq]
  split_ifs
  · rfl
  · exact touch_addrOf sn io.now addr id

/-- **Creating a room.** -/
lemma receive_createRoom (name : String) :
    let out := sn.receive S io (.createRoom name) addr
    CreateEffect sn io.roomId addr out.sn out.frames := by
  intro out
  have hsame := touch_sameNodes sn io.now addr
  have hrooms := touch_rooms sn io.now addr
  have hturn : CreateTurn S io (sn.touch io.now addr) name addr out :=
    receive_createTurn S io sn name addr
  generalize out = out at hturn ⊢
  cases hturn with
  | unregistered hid hsent =>
      exact .refused hsame (membersOf_congr hrooms) (.inr (hsent.of_sendOk hok).2)
  | exhausted hid halloc => exact .refused hsame (membersOf_congr hrooms) (.inl rfl)
  | unseated hid halloc hadd => exact .refused (hsame.rooms _ _) (membersOf_congr hrooms) (.inl rfl)
  | @created id cidr pool ip room sent result hid halloc hadd hsent =>
      rw [hsame.addrToNode] at hid
      obtain ⟨ipLeases, hroom⟩ := Room.addOrReuse_ok hadd
      have hroomId : room.roomId = io.roomId := by rw [hroom]; rfl
      obtain ⟨member, hmember, hinsert⟩ : ∃ member : Member, member.nodeId = id ∧
          room.members = AList.insert id member ∅ := ⟨_, rfl, by rw [hroom]; rfl⟩
      refine .created (hsame.rooms _ _) hid hmember (fun r => ?_) ?_
      · rw [← hinsert]
        exact membersOf_insert (congrArg (AList.insert io.roomId room) hrooms) r
      · split at hsent
        · exact .inl hsent.1
        · rw [← hroomId]
          exact .inr ⟨_, _, _, (hsent.of_sendOk hok).2⟩

omit hok in
/-- Making a room on demand changes no one's membership. -/
lemma entryOf_members {S : SupernodeEnv} {sn sn' : Supernode} {roomId : RoomId}
    {token roomName : Option String} {id : NodeId} {room : Room}
    (h : sn.entryOf S roomId token roomName id = (room, sn')) :
    room.members = sn.membersOf roomId ∧ (∀ r, sn'.membersOf r = sn.membersOf r) ∧
      SameNodes sn sn' := by
  obtain ⟨hnodes, hindex⟩ := entryOf_nodes S sn h
  have hsame : SameNodes sn sn' := ⟨hindex, fun id => by rw [addrOf, hnodes, addrOf]⟩
  rcases entryOf_cases S sn h with ⟨hroom, rfl⟩ | ⟨hnone, hrooms, -, hmembers⟩
  · exact ⟨by rw [membersOf, hroom]; rfl, fun _ => rfl, hsame⟩
  · have hempty : sn.membersOf roomId = ∅ := by
      rw [membersOf, hnone]
      rfl
    refine ⟨hmembers.trans hempty.symm, fun r => ?_, hsame⟩
    rw [membersOf_insert hrooms]
    split_ifs with h
    · rw [h, hempty, hmembers]
    · rfl

/-- **Joining a room.** -/
lemma receive_joinRoom (roomId : RoomId) (token roomName : Option String) :
    let out := sn.receive S io (.joinRoom roomId token roomName) addr
    JoinEffect sn roomId addr out.sn out.frames := by
  intro out
  have hsame := touch_sameNodes sn io.now addr
  have hmembers := membersOf_congr (touch_rooms sn io.now addr)
  have hentry {id : NodeId} {room : Room} {sn' : Supernode}
      (h : (sn.touch io.now addr).entryOf S roomId token roomName id = (room, sn')) :
      room.members = sn.membersOf roomId ∧ (∀ r, sn'.membersOf r = sn.membersOf r) ∧
        SameNodes sn sn' := by
    obtain ⟨hroom, hkept, hsame'⟩ := entryOf_members h
    exact ⟨hroom.trans (hmembers roomId), fun r => (hkept r).trans (hmembers r),
      hsame.trans hsame'⟩
  have hturn : JoinTurn S io (sn.touch io.now addr) roomId token roomName addr out :=
    receive_joinTurn S io sn roomId token roomName addr
  generalize out = out at hturn ⊢
  cases hturn with
  | unregistered hid hsent =>
      exact .refused hsame hmembers (.inr ⟨_, (hsent.of_sendOk hok).2⟩)
  | refused hid h hcheck hsent =>
      obtain ⟨-, hkept, hsame'⟩ := hentry h
      exact .refused hsame' hkept (.inr ⟨_, (hsent.of_sendOk hok).2⟩)
  | unseated hid h htoken hconflict hjoin =>
      obtain ⟨-, hkept, hsame'⟩ := hentry h
      exact .refused hsame' hkept (.inl rfl)
  | joined hid h htoken hconflict hjoin hmember hsent =>
      obtain ⟨hroom, hkept, hsame'⟩ := hentry h
      obtain ⟨member, hjoined, hnew, hothers⟩ := joinMember_ok hjoin
      obtain rfl := Option.some.inj (hjoined.symm.trans hmember)
      rw [hsame.addrToNode] at hid
      rw [hroom] at hnew hothers
      rw [(hsent.of_sendOk hok).2]
      refine .joined (hsame'.rooms _ _) hid hmember hnew hothers (fun r => ?_) hsame'
      rw [← hkept]
      exact membersOf_insert rfl r

/-- **Leaving a room.**  The room stays in `rooms` even if it has become empty: the handler that
would remove it never gets to it. -/
lemma receive_leaveRoom (roomId : RoomId) :
    let out := sn.receive S io (.leaveRoom roomId) addr
    LeaveEffect sn roomId addr out.sn out.frames := by
  intro out
  have hsame := touch_sameNodes sn io.now addr
  have hrooms := touch_rooms sn io.now addr
  have hleft {id : NodeId} {room : Room} (hid : (sn.touch io.now addr).addrToNode.lookup addr =
      some id) (hroom : (sn.touch io.now addr).rooms.lookup roomId = some room) :
      LeaveEffect sn roomId addr ((sn.touch io.now addr).withoutMember roomId room id)
        ((sn.touch io.now addr).leaveFrames (room.removeMember id) (room.members.lookup id)) := by
    rw [hsame.addrToNode] at hid
    rw [hrooms] at hroom
    have hmembers : sn.membersOf roomId = room.members := by
      rw [membersOf, hroom]
      rfl
    have hroom' : (room.removeMember id).members = (sn.membersOf roomId).erase id := by
      rw [hmembers]
      rfl
    rw [← hmembers]
    exact .left (hsame.rooms _ _) hid hroom' (membersOf_insert (by rw [withoutMember, hrooms]))
      hsame
  have hturn : LeaveTurn io (sn.touch io.now addr) roomId addr out :=
    receive_leaveTurn S io sn roomId addr
  generalize out = out at hturn ⊢
  cases hturn with
  | ignored _ => exact .ignored hsame (membersOf_congr hrooms)
  | left hid hroom hsent =>
      rw [(hsent.of_sendOk hok).2]
      exact hleft hid hroom
  | blocked hid hroom _ => exact hleft hid hroom

end Handlers

end Supernode

end R2N
