import R2N.Supernode.Pool

/-!
# Requests to create and to join a room

Which requests are answered, and what a request that is refused leaves behind.  `joinRoom` makes an
unknown room, with a network of its own, before it checks anything; and the errors of the two
allocators end a handler without an answer.

* **`rejected_join_unchanged_iff`** — a join that is refused changes rooms and pool exactly if the
  requester is registered and the room is not there yet; the other change is that of a join that
  passes all checks, with a send that fails.
* **`every_request_answered_iff`** — the requests that get exactly one answer.
* `rejected_join_makes_room`, `requests_without_answer` — where the two fail.
-/

namespace R2N

open Run

namespace Supernode

/-! ## The room of a join -/

section Entry

variable {S : SupernodeEnv} {sn : Supernode} {roomId : RoomId} {room : Room}

lemma entryOf_of_lookup (h : sn.rooms.lookup roomId = some room) (token roomName : Option String)
    (id : NodeId) : sn.entryOf S roomId token roomName id = (room, sn) := by
  rw [entryOf, h]

/-- An unknown room is filed at once. -/
lemma entryOf_of_lookup_none (h : sn.rooms.lookup roomId = none) (token roomName : Option String)
    (id : NodeId) :
    (sn.entryOf S roomId token roomName id).2.rooms =
      sn.rooms.insert roomId (sn.entryOf S roomId token roomName id).1 := by
  rw [entryOf, h]

lemma joinMember_of_lookup {I : Ipnet} {id : NodeId} {member : Member}
    (h : room.members.lookup id = some member) :
    sn.joinMember I room id = .ok (member.virtualIp, room) := by
  rw [joinMember, h]

/-- A node that is not a member yet gets in exactly if there is an address for it. -/
lemma joinMember_ok_iff {I : Ipnet} (sn : Supernode) {id : NodeId}
    (h : room.members.lookup id = none) :
    (∃ res, sn.joinMember I room id = .ok res) ↔ room.Available I id .guest := by
  rw [joinMember, h]
  exact Room.addOrReuse_ok_iff

end Entry

/-! ## A rejected join -/

/-- The rooms, with their members and leases, and the pool are as they were. -/
structure SameRooms (sn sn' : Supernode) : Prop where
  rooms : ∀ r, sn'.rooms.lookup r = sn.rooms.lookup r
  addressPool : sn'.addressPool = sn.addressPool

lemma sameRooms_touch {sn sn' : Supernode} (now : Instant) (addr : SocketAddr) :
    SameRooms (sn.touch now addr) sn' ↔ SameRooms sn sn' := by
  constructor
  · rintro ⟨hrooms, hpool⟩
    rw [touch_rooms] at hrooms
    rw [touch_addressPool] at hpool
    exact ⟨hrooms, hpool⟩
  · rintro ⟨hrooms, hpool⟩
    refine ⟨?_, ?_⟩
    · rw [touch_rooms]
      exact hrooms
    · rw [touch_addressPool]
      exact hpool

/-- The turn is answered with `JoinReject`, or it ends in an error. -/
def ControlOutcome.Rejected (out : ControlOutcome) : Prop :=
  (∃ reason addr, (.joinReject reason, addr) ∈ out.frames) ∨ ∃ e, out.result = some (.error e)

/-- The node is not a member of the room, and passes its checks. -/
structure PassesChecks (S : SupernodeEnv) (sn : Supernode) (room : Room) (token : Option String)
    (id : NodeId) : Prop where
  token : room.joinToken = token.getD ""
  clear : roomSubnetConflicts S.ipnet room.virtualCidr (sn.localNetworksOf id) = false
  new : room.members.lookup id = none

lemma passesChecks_touch {S : SupernodeEnv} {sn : Supernode} {room : Room} {token : Option String}
    {id : NodeId} {now : Instant} {addr : SocketAddr} :
    PassesChecks S (sn.touch now addr) room token id ↔ PassesChecks S sn room token id := by
  constructor
  · rintro ⟨htoken, hclear, hnew⟩
    rw [touch_localNetworksOf] at hclear
    exact ⟨htoken, hclear, hnew⟩
  · rintro ⟨htoken, hclear, hnew⟩
    refine ⟨htoken, ?_, hnew⟩
    rw [touch_localNetworksOf]
    exact hclear

/-- Nothing keeps the node from becoming a member of the room. -/
def AdmitsNew (S : SupernodeEnv) (sn : Supernode) (room : Room) (token : Option String)
    (id : NodeId) : Prop :=
  PassesChecks S sn room token id ∧ room.Available S.ipnet id .guest

section Join

variable {S : SupernodeEnv} {io : SupernodeIo} {sn : Supernode} {roomId : RoomId}
  {token roomName : Option String} {addr : SocketAddr} {out : ControlOutcome} {id : NodeId}

lemma JoinTurn.sameRooms_of_unregistered (hturn : JoinTurn S io sn roomId token roomName addr out)
    (hid : sn.addrToNode.lookup addr = none) : SameRooms sn out.sn := by
  cases hturn with
  | unregistered => exact ⟨fun _ => rfl, rfl⟩
  | refused hsome => cases hid.symm.trans hsome
  | unseated hsome => cases hid.symm.trans hsome
  | joined hsome => cases hid.symm.trans hsome

/-- A registered requester leaves an unknown room behind, whatever becomes of the join. -/
lemma JoinTurn.room_made (hturn : JoinTurn S io sn roomId token roomName addr out)
    (hid : sn.addrToNode.lookup addr = some id) (hroom : sn.rooms.lookup roomId = none) :
    out.sn.rooms.lookup roomId ≠ none := by
  have hentry : ∀ {id room sn'}, sn.entryOf S roomId token roomName id = (room, sn') →
      sn'.rooms.lookup roomId ≠ none := by
    intro id room sn' h
    have hrooms := entryOf_of_lookup_none (S := S) hroom token roomName id
    rw [h] at hrooms
    rw [hrooms, AList.lookup_insert]
    nofun
  cases hturn with
  | unregistered hnone => cases hid.symm.trans hnone
  | refused _ h => exact hentry h
  | unseated _ h => exact hentry h
  | joined =>
      dsimp only
      rw [AList.lookup_insert]
      nofun

/-- A join of a room that is there changes it exactly if the node gets in and was not in yet. -/
lemma JoinTurn.sameRooms_iff {room : Room}
    (hturn : JoinTurn S io sn roomId token roomName addr out)
    (hid : sn.addrToNode.lookup addr = some id) (hroom : sn.rooms.lookup roomId = some room) :
    SameRooms sn out.sn ↔ ¬ AdmitsNew S sn room token id := by
  have hentry : ∀ {id' room' sn'}, sn.entryOf S roomId token roomName id' = (room', sn') →
      room = room' ∧ sn = sn' := fun h =>
    Prod.mk.inj ((entryOf_of_lookup hroom token roomName _).symm.trans h)
  cases hturn with
  | unregistered hnone => cases hid.symm.trans hnone
  | refused hid' h hcheck =>
      obtain rfl := Option.some.inj (hid.symm.trans hid')
      obtain ⟨rfl, rfl⟩ := hentry h
      refine iff_of_true ⟨fun _ => rfl, rfl⟩ fun hadmits => ?_
      rcases hcheck with htoken | hconflict
      · exact htoken hadmits.1.token
      · cases hconflict.symm.trans hadmits.1.clear
  | unseated hid' h _ _ hjoin =>
      obtain rfl := Option.some.inj (hid.symm.trans hid')
      obtain ⟨rfl, rfl⟩ := hentry h
      refine iff_of_true ⟨fun _ => rfl, rfl⟩ fun hadmits => ?_
      obtain ⟨res, hok⟩ := (joinMember_ok_iff sn hadmits.1.new).mpr hadmits.2
      cases hjoin.symm.trans hok
  | joined hid' h htoken hconflict hjoin hmember =>
      obtain rfl := Option.some.inj (hid.symm.trans hid')
      obtain ⟨rfl, rfl⟩ := hentry h
      cases hold : room.members.lookup id with
      | some old =>
          rw [joinMember_of_lookup hold] at hjoin
          obtain ⟨-, rfl⟩ := Prod.mk.inj (Except.ok.inj hjoin)
          refine iff_of_true ⟨fun r => ?_, rfl⟩ fun hadmits => ?_
          · rw [KeyMap.lookup_insert_eq]
            split_ifs with heq
            · rw [heq, hroom]
            · rfl
          · cases hold.symm.trans hadmits.1.new
      | none =>
          refine iff_of_false (fun hsame => ?_) (not_not.mpr
            ⟨⟨htoken, hconflict, hold⟩, (joinMember_ok_iff sn hold).mp ⟨_, hjoin⟩⟩)
          have hrooms := hsame.rooms roomId
          rw [AList.lookup_insert, hroom] at hrooms
          obtain rfl := Option.some.inj hrooms
          cases hold.symm.trans hmember

end Join

/-- **A rejected join** changes nothing exactly if the requester is not registered, or the room is
there and does not take the node in as a new member. -/
theorem rejected_join_unchanged_iff (S : SupernodeEnv) (io : SupernodeIo) (sn : Supernode)
    (roomId : RoomId) (token roomName : Option String) (addr : SocketAddr) :
    (sn.receive S io (.joinRoom roomId token roomName) addr).Rejected →
    (SameRooms sn (sn.receive S io (.joinRoom roomId token roomName) addr).sn ↔
      ∀ id, sn.addrToNode.lookup addr = some id →
        ∃ room, sn.rooms.lookup roomId = some room ∧ ¬ AdmitsNew S sn room token id) := by
  intro _
  have hturn := sn.receive_joinTurn S io roomId token roomName addr
  have hnode := sn.touch_addrToNode io.now addr
  have hrooms := sn.touch_rooms io.now addr
  rw [← sameRooms_touch io.now addr]
  cases hid : sn.addrToNode.lookup addr with
  | none =>
      rw [← hnode] at hid
      exact iff_of_true (hturn.sameRooms_of_unregistered hid) nofun
  | some id =>
      rw [← hnode] at hid
      simp only [Option.some.injEq, forall_eq']
      cases hroom : sn.rooms.lookup roomId with
      | none =>
          rw [← hrooms] at hroom
          refine iff_of_false (fun hsame => ?_) (by simp)
          exact hturn.room_made hid hroom ((hsame.rooms roomId).trans hroom)
      | some room =>
          rw [← hrooms] at hroom
          simp only [Option.some.injEq, exists_eq_left']
          rw [hturn.sameRooms_iff hid hroom, AdmitsNew, passesChecks_touch, AdmitsNew]

/-- A join with the wrong token of a room that is there. -/
theorem rejected_join_wrong_token :
    let sn := (run (Loop.step dottedEnv) ⟨oneSubnet, false⟩
      [register 1, sampleDatagram 1 (.createRoom "")]).sn
    let out := sn.receive dottedEnv sampleIo (.joinRoom (.fill 7) none none) (.localhost 1)
    out.Rejected ∧ SameRooms sn out.sn := by
  intro sn out
  have hrejected : out.Rejected := .inl ⟨"invalid invite token", .localhost 1, by decide +kernel⟩
  have htoken : (sn.rooms.lookup (.fill 7)).map (fun room => decide (room.joinToken = "")) =
      some false := by
    decide +kernel
  obtain ⟨room, hroom, hne⟩ := Option.map_eq_some_iff.mp htoken
  refine ⟨hrejected, (rejected_join_unchanged_iff dottedEnv sampleIo sn (.fill 7) none none
    (.localhost 1) hrejected).mpr fun id _ => ⟨room, hroom, fun hadmits => ?_⟩⟩
  exact of_decide_eq_false hne hadmits.1.token

/-- Node 1 registers with a local network that is the only subnet of the pool. -/
def registerConflicting : Datagram :=
  sampleDatagram 1 (.registerNode (.fill 1) .unknown none (.fill 32 1) [] "" ["10.0.0.0/30"])

/-- **A rejected join makes a room**: the join is refused because the network of the room that was
made for it conflicts with the requester's. -/
theorem rejected_join_makes_room :
    let sn := (run (Loop.step dottedEnv) ⟨oneSubnet, false⟩ [registerConflicting]).sn
    let out := sn.receive dottedEnv sampleIo (.joinRoom (.fill 9) none none) (.localhost 1)
    out.Rejected ∧ ¬ SameRooms sn out.sn := by
  intro sn out
  refine ⟨.inl ⟨"room subnet conflicts with a local network on this device", .localhost 1,
    by decide +kernel⟩, fun h => ?_⟩
  have hbefore : sn.rooms.lookup (.fill 9) = none := by decide +kernel
  have hafter : (out.sn.rooms.lookup (.fill 9)).isSome = true := by decide +kernel
  rw [h.rooms, hbefore] at hafter
  cases hafter

/-! ## Answers -/

/-- The frames that answer a request to create a room. -/
def answersCreate : ControlFrame → Bool
  | .roomCreated .. | .error .. => true
  | _ => false

/-- The frames that answer a request to join a room. -/
def answersJoin : ControlFrame → Bool
  | .joinAccept .. | .joinReject _ => true
  | _ => false

/-- How many of the frames are answers to the requester at `addr`. -/
def answerCount (answers : ControlFrame → Bool) (addr : SocketAddr) (frames : Frames) : ℕ :=
  frames.countP fun f => answers f.1 && decide (f.2 = addr)

/-- The drawn room can be made for a registered requester: its network is allocated already or a
subnet is free that is clear of the requester's networks, and the supernode knows its address. -/
def CanCreate (sn : Supernode) (io : SupernodeIo) (id : NodeId) : Prop :=
  (io.roomId ∈ sn.addressPool.allocations ∨ sn.addressPool.HasFree (sn.localNetworksOf id)) ∧
  ((∃ text, sn.config.publicAddr = some text ∧ text.toList.all Text.isWhitespace = false) ∨
    io.localAddr.isSome = true)

/-- The node passes the checks of the room, but there is no address for it. -/
def Unseatable (S : SupernodeEnv) (sn : Supernode) (room : Room) (token : Option String)
    (id : NodeId) : Prop :=
  PassesChecks S sn room token id ∧ ¬ room.Available S.ipnet id .guest

lemma canCreate_touch {sn : Supernode} {io : SupernodeIo} {id : NodeId} {now : Instant}
    {addr : SocketAddr} : (sn.touch now addr).CanCreate io id ↔ sn.CanCreate io id := by
  rw [CanCreate, touch_addressPool, touch_localNetworksOf, touch_config, CanCreate]

lemma publicSupernodeAddr_isSome {sn : Supernode} {io : SupernodeIo} :
    (sn.publicSupernodeAddr io).isSome = true ↔
      (∃ text, sn.config.publicAddr = some text ∧ text.toList.all Text.isWhitespace = false) ∨
        io.localAddr.isSome = true := by
  unfold publicSupernodeAddr
  cases sn.config.publicAddr with
  | none => simp
  | some text =>
      simp only [Option.some.injEq, exists_eq_left']
      cases text.toList.all Text.isWhitespace <;> simp

/-- A successful join is answered once; the other frames are for its peers or about them. -/
lemma answerCount_joinFrames (sn : Supernode) (roomId : RoomId) (room : Room) (ip : VirtualIp)
    (joined : Member) (addr : SocketAddr) :
    answerCount answersJoin addr (sn.joinFrames roomId room ip joined addr) = 1 := by
  have hnone : ∀ f ∈ (sn.joinFrames roomId room ip joined addr).tail, answersJoin f.1 = false := by
    intro f hf
    rcases sn.mem_joinFrames_tail hf with ⟨_, hframe⟩ | ⟨_, _, hframe⟩ | ⟨_, _, hframe⟩
    · rw [hframe]
      rfl
    · rw [hframe]
      rfl
    · rw [hframe]
      rfl
  rw [answerCount, joinFrames_cons, List.countP_cons_of_pos (by simp [answersJoin]),
    List.countP_eq_zero.mpr fun f hf => by simp [hnone f hf]]

section Answers

variable {S : SupernodeEnv} {io : SupernodeIo} {sn : Supernode} {addr : SocketAddr}
  {out : ControlOutcome} (hI : S.ipnet.RoundTrips) (hok : ∀ n, io.sendOk n = true)
  (hvalid : sn.addressPool.Valid)

include hI hok hvalid

/-- **A request to create a room** is answered exactly if the room can be made. -/
lemma CreateTurn.answered_iff {name : String} (hturn : CreateTurn S io sn name addr out) :
    answerCount answersCreate addr out.frames = 1 ↔
      ∀ id, sn.addrToNode.lookup addr = some id → sn.CanCreate io id := by
  have hone : ∀ frame, answersCreate frame = true →
      answerCount answersCreate addr [(frame, addr)] = 1 := by
    intro frame h
    simp [answerCount, h]
  cases hturn with
  | unregistered hid hsent =>
      obtain ⟨-, rfl⟩ := hsent.of_sendOk hok
      refine iff_of_true (hone _ rfl) fun id h => ?_
      cases hid.symm.trans h
  | @exhausted id _ hid halloc =>
      refine iff_of_false (by simp [answerCount]) fun h => ?_
      obtain ⟨res, hallocated⟩ := RoomAddressPool.allocateWithAvoidance_ok_iff.mpr (h id hid).1
      cases halloc.symm.trans hallocated
  | unseated _ halloc hadd =>
      obtain ⟨res, hadded⟩ := Room.addOrReuse_ok_iff.mpr
        (available_of_allocated hI hvalid halloc _ _ _ _ .owner)
      cases hadd.symm.trans hadded
  | @created id _ _ _ _ _ _ hid halloc _ hsent =>
      have hallocated := RoomAddressPool.allocateWithAvoidance_ok_iff.mp ⟨_, halloc⟩
      cases haddr : sn.publicSupernodeAddr io with
      | none =>
          rw [haddr] at hsent
          obtain ⟨rfl, -⟩ := hsent
          refine iff_of_false (by simp [answerCount]) fun h => ?_
          have hsome := publicSupernodeAddr_isSome.mpr (h id hid).2
          rw [haddr] at hsome
          cases hsome
      | some primary =>
          rw [haddr] at hsent
          obtain ⟨-, rfl⟩ := hsent.of_sendOk hok
          refine iff_of_true (hone _ rfl) fun id' hid' => ?_
          obtain rfl := Option.some.inj (hid.symm.trans hid')
          exact ⟨hallocated, publicSupernodeAddr_isSome.mp (by rw [haddr]; rfl)⟩

omit hok in
/-- A room that is made on demand has an address for the node that asked for it. -/
lemma available_restoredRoom (hfallback : ∃ n, S.ipnet.parse "192.168.255.0/24" = some n ∧
    n.prefixLen = 24) (roomId : RoomId) (token roomName : Option String) (id : NodeId) :
    (sn.restoredRoom S roomId token roomName id).1.Available S.ipnet id .guest := by
  unfold restoredRoom
  cases halloc : sn.addressPool.allocate S.ipnet roomId with
  | ok res =>
      obtain ⟨n, pool⟩ := res
      exact available_of_allocated hI hvalid halloc _ _ _ id .guest
  | error e =>
      obtain ⟨n, hparse, hlen⟩ := hfallback
      exact Room.available_new hparse (by omega) id .guest

/-- **A request to join a room** is answered unless only an address is missing. -/
lemma JoinTurn.answered_iff (hfallback : ∃ n, S.ipnet.parse "192.168.255.0/24" = some n ∧
    n.prefixLen = 24) {roomId : RoomId} {token roomName : Option String}
    (hturn : JoinTurn S io sn roomId token roomName addr out) :
    answerCount answersJoin addr out.frames = 1 ↔
      ∀ id, sn.addrToNode.lookup addr = some id → ∀ room, sn.rooms.lookup roomId = some room →
        ¬ Unseatable S sn room token id := by
  have hone : ∀ reason, answerCount answersJoin addr [(.joinReject reason, addr)] = 1 := by
    intro reason
    simp [answerCount, answersJoin]
  cases hturn with
  | unregistered hid hsent =>
      obtain ⟨-, rfl⟩ := hsent.of_sendOk hok
      refine iff_of_true (hone _) fun id h => ?_
      cases hid.symm.trans h
  | refused hid hentry hcheck hsent =>
      obtain ⟨-, rfl⟩ := hsent.of_sendOk hok
      refine iff_of_true (hone _) fun id hid' room hroom hfull => ?_
      obtain rfl := Option.some.inj (hid.symm.trans hid')
      obtain ⟨rfl, -⟩ := Prod.mk.inj ((entryOf_of_lookup hroom token roomName _).symm.trans hentry)
      rcases hcheck with htoken | hconflict
      · exact htoken hfull.1.token
      · cases hconflict.symm.trans hfull.1.clear
  | @unseated id room _ _ hid hentry htoken hconflict hjoin =>
      refine iff_of_false (by simp [answerCount]) fun h => ?_
      have hnew : room.members.lookup id = none := by
        rw [Option.eq_none_iff_forall_ne_some]
        intro member hmember
        cases hjoin.symm.trans (joinMember_of_lookup hmember)
      have hfull : ¬ room.Available S.ipnet id .guest := by
        intro havailable
        obtain ⟨res, hres⟩ := (joinMember_ok_iff sn hnew).mpr havailable
        cases hjoin.symm.trans hres
      cases hroom : sn.rooms.lookup roomId with
      | some existing =>
          obtain ⟨rfl, -⟩ := Prod.mk.inj
            ((entryOf_of_lookup hroom token roomName id).symm.trans hentry)
          exact h id hid _ hroom ⟨⟨htoken, hconflict, hnew⟩, hfull⟩
      | none =>
          have hmade : room = (sn.restoredRoom S roomId token roomName id).1 := by
            rw [entryOf, hroom] at hentry
            exact (Prod.mk.inj hentry).1.symm
          rw [hmade] at hfull
          exact hfull (available_restoredRoom hI hvalid hfallback roomId token roomName id)
  | joined hid hentry _ _ hjoin _ hsent =>
      obtain ⟨-, rfl⟩ := hsent.of_sendOk hok
      refine iff_of_true (answerCount_joinFrames _ _ _ _ _ _) fun id hid' room hroom hfull => ?_
      obtain rfl := Option.some.inj (hid.symm.trans hid')
      obtain ⟨rfl, -⟩ := Prod.mk.inj ((entryOf_of_lookup hroom token roomName _).symm.trans hentry)
      exact hfull.2 ((joinMember_ok_iff sn hfull.1.new).mp ⟨_, hjoin⟩)

end Answers

/-! ## Reachable states -/

/-- The pool stays valid in every turn. -/
lemma Turn.valid {S : SupernodeEnv} {sn : Supernode} {d : Datagram} {out : ControlOutcome}
    (hturn : Turn S sn d out) (h : sn.addressPool.Valid) : out.sn.addressPool.Valid := by
  have htouch : (sn.touch d.io.now d.addr).addressPool.Valid := by
    rw [touch_addressPool]
    exact h
  cases hturn with
  | register _ hturn =>
      cases hturn
      exact htouch
  | create _ hturn =>
      cases hturn with
      | unregistered => exact htouch
      | exhausted => exact htouch
      | unseated _ halloc => exact (htouch.allocated halloc).1
      | created _ halloc => exact (htouch.allocated halloc).1
  | join _ hturn =>
      have hentry : ∀ {roomId token roomName id room sn'},
          (sn.touch d.io.now d.addr).entryOf S roomId token roomName id = (room, sn') →
          sn'.addressPool.Valid := by
        intro roomId token roomName id room sn' hentry
        unfold entryOf at hentry
        split at hentry
        · obtain ⟨-, rfl⟩ := Prod.mk.inj hentry
          exact htouch
        · obtain ⟨-, rfl⟩ := Prod.mk.inj hentry
          dsimp only
          cases halloc : (sn.touch d.io.now d.addr).addressPool.allocate S.ipnet roomId with
          | ok res => exact (htouch.allocated halloc).1
          | error => exact htouch
      cases hturn with
      | unregistered => exact htouch
      | refused _ h => exact hentry h
      | unseated _ h => exact hentry h
      | joined _ h =>
          have hpool := hentry h
          exact hpool
  | leave _ hturn => cases hturn <;> exact htouch
  | other _ hstate =>
      rw [hstate]
      exact htouch

lemma valid_run {S : SupernodeEnv} {addressPool : String} {roomPrefixLen : ℕ}
    {config : SupernodeConfig} {sn : Supernode}
    (hnew : newWithConfig S.ipnet addressPool roomPrefixLen config = .ok sn) (ds : List Datagram) :
    (run (Loop.step S) ⟨sn, false⟩ ds).sn.addressPool.Valid := by
  refine invariant_forall (I := fun l : Loop => l.sn.addressPool.Valid) (fun l d h => ?_) ds _
    (RoomAddressPool.valid_of_empty (newWithConfig_ok hnew).2.2.2)
  unfold Loop.step
  split_ifs
  · exact h
  · exact (receive_turn S l.sn d).valid h

/-- **Which requests are answered**, in every state a supernode reaches, if sends succeed: a request
to create a room exactly if the loop runs and the requester is not registered or the room can be
made; a request to join exactly if the loop runs and not only an address is missing. -/
theorem every_request_answered_iff {S : SupernodeEnv} (hI : S.ipnet.RoundTrips)
    (hfallback : ∃ n, S.ipnet.parse "192.168.255.0/24" = some n ∧ n.prefixLen = 24)
    {addressPool : String} {roomPrefixLen : ℕ} {config : SupernodeConfig} {sn : Supernode}
    (hnew : newWithConfig S.ipnet addressPool roomPrefixLen config = .ok sn) (ds : List Datagram)
    {io : SupernodeIo} (hok : ∀ n, io.sendOk n = true) (addr : SocketAddr) :
    let l := run (Loop.step S) ⟨sn, false⟩ ds
    (∀ name, answerCount answersCreate addr (l.frames S ⟨.createRoom name, addr, io⟩) = 1 ↔
      l.stuck = false ∧ ∀ id, l.sn.addrToNode.lookup addr = some id → l.sn.CanCreate io id) ∧
    ∀ roomId token roomName,
      answerCount answersJoin addr (l.frames S ⟨.joinRoom roomId token roomName, addr, io⟩) = 1 ↔
        l.stuck = false ∧ ∀ id, l.sn.addrToNode.lookup addr = some id →
          ∀ room, l.sn.rooms.lookup roomId = some room → ¬ Unseatable S l.sn room token id := by
  intro l
  have hvalid : (l.sn.touch io.now addr).addressPool.Valid := by
    rw [touch_addressPool]
    exact valid_run hnew ds
  have hstuck : l.stuck = true → ∀ d answers, answerCount answers addr (l.frames S d) ≠ 1 := by
    intro h d answers
    rw [Loop.frames, if_pos h]
    simp [answerCount]
  cases hl : l.stuck with
  | true =>
      exact ⟨fun name => by simp [hstuck hl], fun roomId token roomName => by simp [hstuck hl]⟩
  | false =>
      have hframes : ∀ d, l.frames S d = (l.sn.receive S d.io d.frame d.addr).frames := by
        intro d
        rw [Loop.frames, hl]
        rfl
      refine ⟨fun name => ?_, fun roomId token roomName => ?_⟩
      · rw [hframes, (l.sn.receive_createTurn S io name addr).answered_iff hI hok hvalid]
        simp only [touch_addrToNode, canCreate_touch, true_and]
      · rw [hframes, (l.sn.receive_joinTurn S io roomId token roomName addr).answered_iff hI hok
          hvalid hfallback]
        simp only [touch_addrToNode, touch_rooms, Unseatable, passesChecks_touch, true_and]

/-- The first room of a supernode with one subnet is created and announced. -/
theorem first_room_answered :
    answerCount answersCreate (.localhost 1)
      ((run (Loop.step dottedEnv) ⟨oneSubnet, false⟩ [register 1]).frames dottedEnv
        ⟨.createRoom "", .localhost 1, sampleIo⟩) = 1 := by
  have hfallback : (Ipnet.dotted.parse "192.168.255.0/24").map Ipv4Net.prefixLen = some 24 := by
    decide +kernel
  refine ((every_request_answered_iff (S := dottedEnv) Ipnet.dotted_roundTrips
    (Option.map_eq_some_iff.mp hfallback) newWithConfig_oneSubnet [register 1] (fun _ => rfl)
    (.localhost 1)).1 "").mpr
      ⟨by decide +kernel, fun id hid => ⟨.inr ⟨0, by decide, by decide +kernel, ?_⟩, .inr rfl⟩⟩
  have hlookup : (run (Loop.step dottedEnv) ⟨oneSubnet, false⟩ [register 1]).sn.addrToNode.lookup
      (.localhost 1) = some (.fill 1) := by
    decide +kernel
  obtain rfl := Option.some.inj (hlookup.symm.trans hid)
  have hlocal : (run (Loop.step dottedEnv) ⟨oneSubnet, false⟩ [register 1]).sn.localNetworksOf
      (.fill 1) = [] := by
    decide +kernel
  rw [hlocal]
  nofun

/-- **Requests without an answer**: a second room when the pool has one subnet, and a third member
of a room with two host addresses. -/
theorem requests_without_answer :
    answerCount answersCreate (.localhost 1)
      ((run (Loop.step dottedEnv) ⟨oneSubnet, false⟩
        [register 1, sampleDatagram 1 (.createRoom "")]).frames dottedEnv
          ⟨.createRoom "", .localhost 1, { sampleIo with roomId := .fill 8 }⟩) = 0 ∧
    answerCount answersJoin (.localhost 3)
      ((run (Loop.step dottedEnv) ⟨oneSubnet, false⟩
        [register 1, register 2, register 3, sampleDatagram 1 (.createRoom ""),
          joinRoomSeven 2]).frames dottedEnv (joinRoomSeven 3)) = 0 := by
  decide +kernel

end Supernode

end R2N
