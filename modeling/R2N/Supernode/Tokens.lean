import R2N.Supernode.Pool

/-!
# Join tokens

The token of a room is kept in the room.  `LeaveRoom` removes the room once it is empty, and the
next join makes it anew, with the token of that join.  The handler that would remove the room does
not return; here its removal is taken to complete.

* `receiveReleasing` — `receive`, with the rest of a `LeaveRoom` that does not return carried out.
* `Turn.token_origin` — where the token of a room comes from.
* `Announcing` — the supernode with the rooms announced so far and their tokens.
* **`join_accept_token`** — every `JoinAccept` for an announced room answers its token, along every
  run in which an announced room that is gone is asked for with its token.
* **`token_forgotten`** — a room empties, and the next node to ask for it gets in with a token of
  its own.
-/

namespace R2N

open Run

namespace Supernode

/-! ## Removals that complete -/

/-- A turn of the receive loop; if it does not return, the removal of the room that it stopped at
is carried out. -/
def receiveReleasing (S : SupernodeEnv) (sn : Supernode) (d : Datagram) : ControlOutcome :=
  let out := sn.receive S d.io d.frame d.addr
  match out.result with
  | some _ => out
  | none =>
      match d.frame with
      | .leaveRoom roomId =>
          { out with
            sn := { out.sn with
              rooms := out.sn.rooms.erase roomId
              addressPool := out.sn.addressPool.release roomId }
            result := some (.ok ()) }
      | _ => out

/-- A turn that returns is the same. -/
lemma receiveReleasing_of_result {S : SupernodeEnv} {sn : Supernode} {d : Datagram}
    {result : Except SupernodeError Unit}
    (h : (sn.receive S d.io d.frame d.addr).result = some result) :
    sn.receiveReleasing S d = sn.receive S d.io d.frame d.addr := by
  simp only [receiveReleasing, h]

lemma receiveReleasing_frames (S : SupernodeEnv) (sn : Supernode) (d : Datagram) :
    (sn.receiveReleasing S d).frames = (sn.receive S d.io d.frame d.addr).frames := by
  unfold receiveReleasing
  dsimp only
  split
  · rfl
  · split <;> rfl

/-- A room that is there after the removal was there before it. -/
lemma receiveReleasing_rooms {S : SupernodeEnv} {sn : Supernode} {d : Datagram} {r : RoomId}
    {room : Room} (h : (sn.receiveReleasing S d).sn.rooms.lookup r = some room) :
    (sn.receive S d.io d.frame d.addr).sn.rooms.lookup r = some room := by
  unfold receiveReleasing at h
  dsimp only at h
  split at h
  · exact h
  · split at h
    · dsimp only at h
      rw [KeyMap.lookup_erase_eq] at h
      split_ifs at h
      exact h
    · exact h

/-! ## Where a token comes from -/

section Origin

variable {S : SupernodeEnv} {io : SupernodeIo} {sn : Supernode} {addr : SocketAddr}
variable {out : ControlOutcome} {r : RoomId} {room' : Room}

lemma CreateTurn.token_origin {name : String} (hturn : CreateTurn S io sn name addr out)
    (hroom' : out.sn.rooms.lookup r = some room') :
    sn.rooms.lookup r = some room' ∨
      (sn.addrToNode.lookup addr ≠ none ∧ r = io.roomId ∧
        room'.joinToken = S.hex.encode io.joinToken.toList) := by
  cases hturn with
  | unregistered => exact .inl hroom'
  | exhausted => exact .inl hroom'
  | unseated => exact .inl hroom'
  | created hid _ hadd =>
      dsimp only at hroom'
      rw [KeyMap.lookup_insert_eq] at hroom'
      split_ifs at hroom' with heq
      · obtain rfl := Option.some.inj hroom'
        obtain ⟨ipLeases, rfl⟩ := Room.addOrReuse_ok hadd
        exact .inr ⟨by simp [hid], heq, rfl⟩
      · exact .inl hroom'

lemma entryOf_token_origin {roomId : RoomId} {token roomName : Option String} {id : NodeId}
    {room x : Room} {sn' : Supernode}
    (hentry : sn.entryOf S roomId token roomName id = (room, sn'))
    (hx : sn'.rooms.lookup r = some x) :
    sn.rooms.lookup r = some x ∨
      (r = roomId ∧ sn.rooms.lookup r = none ∧ x.joinToken = token.getD "") := by
  rcases entryOf_cases S _ hentry with ⟨-, rfl⟩ | ⟨hnone, hinsert, hnew, -⟩
  · exact .inl hx
  · rw [hinsert, KeyMap.lookup_insert_eq] at hx
    split_ifs at hx with heq
    · obtain rfl := Option.some.inj hx
      exact .inr ⟨heq, heq ▸ hnone, hnew⟩
    · exact .inl hx

lemma JoinTurn.token_origin {roomId : RoomId} {token roomName : Option String}
    (hturn : JoinTurn S io sn roomId token roomName addr out)
    (hroom' : out.sn.rooms.lookup r = some room') :
    (∃ room, sn.rooms.lookup r = some room ∧ room'.joinToken = room.joinToken) ∨
      (sn.addrToNode.lookup addr ≠ none ∧ r = roomId ∧ sn.rooms.lookup r = none ∧
        room'.joinToken = token.getD "") := by
  have hmade : ∀ {id room sn' x}, sn.addrToNode.lookup addr = some id →
      sn.entryOf S roomId token roomName id = (room, sn') → sn'.rooms.lookup r = some x →
      room'.joinToken = x.joinToken →
      (∃ room, sn.rooms.lookup r = some room ∧ room'.joinToken = room.joinToken) ∨
        (sn.addrToNode.lookup addr ≠ none ∧ r = roomId ∧ sn.rooms.lookup r = none ∧
          room'.joinToken = token.getD "") := by
    intro id room sn' x hid hentry hx htoken
    rcases entryOf_token_origin hentry hx with hkept | ⟨heq, hnone, hnew⟩
    · exact .inl ⟨x, hkept, htoken⟩
    · exact .inr ⟨by simp [hid], heq, hnone, htoken.trans hnew⟩
  cases hturn with
  | unregistered => exact .inl ⟨room', hroom', rfl⟩
  | refused hid hentry => exact hmade hid hentry hroom' rfl
  | unseated hid hentry => exact hmade hid hentry hroom' rfl
  | joined hid hentry _ _ hjoined =>
      obtain ⟨members, ipLeases, rfl⟩ := joinMember_keeps hjoined
      dsimp only at hroom'
      rw [KeyMap.lookup_insert_eq] at hroom'
      split_ifs at hroom' with heq
      · obtain rfl := Option.some.inj hroom'
        subst heq
        exact hmade hid hentry (entryOf_lookup S _ hentry) rfl
      · exact hmade hid hentry hroom' rfl

lemma LeaveTurn.token_origin {roomId : RoomId} (hturn : LeaveTurn io sn roomId addr out)
    (hroom' : out.sn.rooms.lookup r = some room') :
    ∃ room, sn.rooms.lookup r = some room ∧ room'.joinToken = room.joinToken := by
  have hleft : ∀ {room id}, sn.rooms.lookup roomId = some room →
      (sn.withoutMember roomId room id).rooms.lookup r = some room' →
      ∃ room, sn.rooms.lookup r = some room ∧ room'.joinToken = room.joinToken := by
    intro room id hroom h
    dsimp only [withoutMember] at h
    rw [KeyMap.lookup_insert_eq] at h
    split_ifs at h with heq
    · obtain rfl := Option.some.inj h
      exact ⟨room, heq ▸ hroom, rfl⟩
    · exact ⟨room', h, rfl⟩
  cases hturn with
  | ignored => exact ⟨room', hroom', rfl⟩
  | left _ hroom => exact hleft hroom hroom'
  | blocked _ hroom => exact hleft hroom hroom'

/-- The token of a room after a turn: the room had it, or the room was created with the drawn
token, or made on demand with that of the join. -/
lemma Turn.token_origin {d : Datagram} (hturn : Turn S sn d out)
    (hroom' : out.sn.rooms.lookup r = some room') :
    (∃ room, sn.rooms.lookup r = some room ∧ room'.joinToken = room.joinToken) ∨
    (∃ name, d.frame = .createRoom name ∧ sn.addrToNode.lookup d.addr ≠ none ∧
      r = d.io.roomId ∧ room'.joinToken = S.hex.encode d.io.joinToken.toList) ∨
    ∃ token roomName, d.frame = .joinRoom r token roomName ∧ sn.addrToNode.lookup d.addr ≠ none ∧
      sn.rooms.lookup r = none ∧ room'.joinToken = token.getD "" := by
  rw [← sn.touch_rooms d.io.now d.addr, ← sn.touch_addrToNode d.io.now d.addr]
  cases hturn with
  | register _ hturn =>
      cases hturn
      exact .inl ⟨room', hroom', rfl⟩
  | create hframe hturn =>
      rcases hturn.token_origin hroom' with hkept | ⟨hid, heq, htoken⟩
      · exact .inl ⟨room', hkept, rfl⟩
      · exact .inr (.inl ⟨_, hframe, hid, heq, htoken⟩)
  | join hframe hturn =>
      rcases hturn.token_origin hroom' with hkept | ⟨hid, rfl, hnone, htoken⟩
      · exact .inl hkept
      · exact .inr (.inr ⟨_, _, hframe, hid, hnone, htoken⟩)
  | leave _ hturn => exact .inl (hturn.token_origin hroom')
  | other _ hstate =>
      rw [hstate] at hroom'
      exact .inl ⟨room', hroom', rfl⟩

end Origin

/-! ## Announced rooms -/

/-- The supernode, with the rooms it has announced by a `RoomCreated` and the tokens drawn for
them. -/
structure Announcing where
  sn : Supernode
  announced : List (RoomId × String)

/-- The room that a frame announces. -/
def announcedRoom : ControlFrame → Option RoomId
  | .roomCreated roomId _ _ _ => some roomId
  | _ => none

/-- The rooms that the frames of a turn announce, with the token that was drawn. -/
def announcedRooms (S : SupernodeEnv) (d : Datagram) (frames : Frames) : List (RoomId × String) :=
  (frames.filterMap fun f => announcedRoom f.1).map fun roomId =>
    (roomId, S.hex.encode d.io.joinToken.toList)

def Announcing.step (S : SupernodeEnv) (s : Announcing) (d : Datagram) : Announcing where
  sn := (s.sn.receiveReleasing S d).sn
  announced := announcedRooms S d (s.sn.receiveReleasing S d).frames ++ s.announced

/-- Every `JoinAccept` for an announced room answers a `JoinRoom` with the room's token. -/
def ChecksToken (S : SupernodeEnv) (s : Announcing) (d : Datagram) : Prop :=
  ∀ roomId token ip cidr name addr, (roomId, token) ∈ s.announced →
    (.joinAccept roomId ip cidr name, addr) ∈ (s.sn.receiveReleasing S d).frames →
      ∃ roomName, d.frame = .joinRoom roomId (some token) roomName

/-- An announced room that is not in `rooms` is asked for by a registered node with its token only,
and the id drawn for a new room is not that of an announced one. -/
structure KeepsTokens (s : Announcing) (d : Datagram) : Prop where
  join : ∀ roomId token roomName T, d.frame = .joinRoom roomId token roomName →
    s.sn.addrToNode.lookup d.addr ≠ none → s.sn.rooms.lookup roomId = none →
      (roomId, T) ∈ s.announced → token = some T
  create : ∀ name T, d.frame = .createRoom name → s.sn.addrToNode.lookup d.addr ≠ none →
    (d.io.roomId, T) ∉ s.announced

/-- An announced room has the token it was announced with, as long as it is there. -/
def Announcing.Inv (s : Announcing) : Prop :=
  ∀ roomId T, (roomId, T) ∈ s.announced → T ≠ "" ∧
    ∀ room, s.sn.rooms.lookup roomId = some room → room.joinToken = T

/-- A turn that announces a room has made it, with the drawn token. -/
lemma CreateTurn.announced {S : SupernodeEnv} {io : SupernodeIo} {sn : Supernode} {name : String}
    {addr : SocketAddr} {out : ControlOutcome} (hturn : CreateTurn S io sn name addr out)
    {f : ControlFrame × SocketAddr} (hf : f ∈ out.frames) {r : RoomId}
    (hroom : announcedRoom f.1 = some r) :
    r = io.roomId ∧ ∀ room, out.sn.rooms.lookup r = some room →
      room.joinToken = S.hex.encode io.joinToken.toList := by
  cases hturn with
  | unregistered _ hsent =>
      rw [List.mem_singleton.mp (hsent.sent_prefix.subset hf)] at hroom
      cases hroom
  | exhausted => cases hf
  | unseated => cases hf
  | created _ _ hadd hsent =>
      obtain ⟨ipLeases, rfl⟩ := Room.addOrReuse_ok hadd
      split at hsent
      · obtain ⟨rfl, -⟩ := hsent
        cases hf
      · rw [List.mem_singleton.mp (hsent.sent_prefix.subset hf)] at hroom
        obtain rfl := Option.some.inj hroom
        refine ⟨rfl, fun room hlookup => ?_⟩
        obtain rfl := Option.some.inj ((AList.lookup_insert _).symm.trans hlookup)
        rfl

lemma mem_announcedRooms {S : SupernodeEnv} {sn : Supernode} {d : Datagram} {roomId : RoomId}
    {T : String} (h : (roomId, T) ∈ announcedRooms S d (sn.receive S d.io d.frame d.addr).frames) :
    T = S.hex.encode d.io.joinToken.toList ∧
      ∀ room, (sn.receive S d.io d.frame d.addr).sn.rooms.lookup roomId = some room →
        room.joinToken = T := by
  obtain ⟨r, hr, heq⟩ := List.mem_map.mp h
  obtain ⟨rfl, rfl⟩ := Prod.mk.inj heq
  obtain ⟨f, hf, hroom⟩ := List.mem_filterMap.mp hr
  have hcidr : (announcedCidr f.1).isSome = true := by
    unfold announcedRoom at hroom
    split at hroom
    · rename_i hframe
      rw [hframe]
      rfl
    · cases hroom
  refine ⟨rfl, ?_⟩
  cases (receive_turn S sn d).announcement hf hcidr with
  | created hframe =>
      rw [hframe] at hf ⊢
      exact ((sn.receive_createTurn S d.io _ d.addr).announced hf hroom).2
  | joined => cases hroom

lemma Announcing.Inv.step {S : SupernodeEnv} {s : Announcing} (h : s.Inv) {d : Datagram}
    (hkeeps : KeepsTokens s d) : (Announcing.step S s d).Inv := by
  intro roomId T hmem
  simp only [Announcing.step, receiveReleasing_frames, List.mem_append] at hmem
  rcases hmem with hnew | hold
  · obtain ⟨rfl, htoken⟩ := mem_announcedRooms hnew
    -- a drawn token has sixteen bytes
    refine ⟨S.hex.encode_ne_empty fun hnil => ?_, fun room hroom =>
      htoken room (receiveReleasing_rooms hroom)⟩
    exact absurd (congrArg List.length hnil) (by simp)
  · refine ⟨(h roomId T hold).1, fun room hroom => ?_⟩
    rcases (receive_turn S s.sn d).token_origin (receiveReleasing_rooms hroom) with
      ⟨room₀, hroom₀, htoken⟩ | ⟨name, hframe, hid, rfl, -⟩ |
      ⟨token, roomName, hframe, hid, hnone, htoken⟩
    · rw [htoken]
      exact (h roomId T hold).2 room₀ hroom₀
    · exact absurd hold (hkeeps.create name T hframe hid)
    · rw [htoken, hkeeps.join roomId token roomName T hframe hid hnone hold]
      rfl

lemma Announcing.Inv.checksToken {S : SupernodeEnv} {s : Announcing} (h : s.Inv) {d : Datagram}
    (hkeeps : KeepsTokens s d) : ChecksToken S s d := by
  intro roomId T ip cidr name addr hmem hf
  rw [receiveReleasing_frames] at hf
  cases (receive_turn S s.sn d).announcement hf rfl with
  | @joined _ token roomName id room _ _ _ hframe hid hentry htoken =>
      rw [touch_addrToNode] at hid
      rcases entryOf_cases S _ hentry with ⟨hroom, -⟩ | ⟨hnone, -⟩
      · rw [touch_rooms] at hroom
        rw [(h roomId T hmem).2 room hroom] at htoken
        cases token with
        | none => exact absurd htoken (h roomId T hmem).1
        | some text =>
            obtain rfl : T = text := htoken
            exact ⟨roomName, hframe⟩
      · rw [touch_rooms] at hnone
        rw [hkeeps.join roomId token roomName T hframe (by rw [hid]; nofun) hnone hmem] at hframe
        exact ⟨roomName, hframe⟩

/-- **Access by token**: along every run of a supernode in which an announced room that is gone is
asked for with its token only, a node is let into an announced room with the room's token only. -/
theorem join_accept_token (S : SupernodeEnv) (sn : Supernode) (ds : List Datagram)
    (hds : Along (Announcing.step S) KeepsTokens ⟨sn, []⟩ ds) :
    Along (Announcing.step S) (ChecksToken S) ⟨sn, []⟩ ds :=
  Along.mono_of_invariant (I := Announcing.Inv) (fun _ _ h hkeeps => h.step hkeeps)
    (fun _ _ h hkeeps => h.checksToken hkeeps) ds ⟨sn, []⟩ (fun _ _ hmem => by cases hmem) hds

/-- Node 1 creates room 7 and leaves it. -/
def createAndLeave : List Datagram :=
  [register 1, sampleDatagram 1 (.createRoom ""), sampleDatagram 1 (.leaveRoom (.fill 7))]

/-- The room is asked for again with its token. -/
theorem rejoin_with_token :
    Along (Announcing.step dottedEnv) (ChecksToken dottedEnv) ⟨oneSubnet, []⟩
      (createAndLeave ++ [joinRoomSeven 1]) := by
  have hcreate : (run (Announcing.step dottedEnv) ⟨oneSubnet, []⟩ [register 1]).announced = [] := by
    decide +kernel
  have hjoin : (run (Announcing.step dottedEnv) ⟨oneSubnet, []⟩ createAndLeave).announced =
      [(.fill 7, lowerHex sampleIo.joinToken.toList)] := by
    decide +kernel
  refine join_accept_token dottedEnv oneSubnet (createAndLeave ++ [joinRoomSeven 1])
    ⟨⟨nofun, nofun⟩, ⟨nofun, fun _ T _ _ hmem => ?_⟩, ⟨nofun, nofun⟩, ⟨?_, nofun⟩, trivial⟩
  · have hnil : (.fill 7, T) ∈ ([] : List (RoomId × String)) := hcreate ▸ hmem
    cases hnil
  · intro roomId token roomName T hframe _ _ hmem
    have hone : (roomId, T) ∈ [((.fill 7 : RoomId), lowerHex sampleIo.joinToken.toList)] :=
      hjoin ▸ hmem
    obtain ⟨-, rfl⟩ := Prod.mk.inj (List.mem_singleton.mp hone)
    exact (ControlFrame.joinRoom.inj hframe).2.1.symm

/-- **The token is forgotten**: the room empties, and the next node to ask for it is let in with a
token of its own. -/
theorem token_forgotten :
    ¬ ChecksToken dottedEnv
      (run (Announcing.step dottedEnv) ⟨oneSubnet, []⟩ (createAndLeave ++ [register 2]))
      (sampleDatagram 2 (.joinRoom (.fill 7) (some "other") none)) := by
  intro h
  obtain ⟨roomName, hframe⟩ := h (.fill 7) (lowerHex sampleIo.joinToken.toList)
    (.ofNat (10 * 2 ^ 24 + 2)) "10.0.0.0/30"
    (some "Restored-07070707070707070707070707070707") (.localhost 2)
    (by decide +kernel) (by decide +kernel)
  have htoken := Option.some.inj (ControlFrame.joinRoom.inj hframe).2.1
  revert htoken
  decide +kernel

end Supernode

end R2N
