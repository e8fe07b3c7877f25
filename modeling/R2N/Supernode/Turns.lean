import R2N.Supernode.Supernode

/-!
# The turns of the receive loop

Every way in which a turn of the supernode's receive loop can end, for any answers of the outside
world: which checks led there, the tables it leaves behind, and the frames it sends.  Later results
about the supernode are case analyses of these.

* `Delivery` — frames sent one after another until a send fails.
* `RegisterTurn`, `CreateTurn`, `JoinTurn`, `LeaveTurn` — the ways each handler can end.
* **`receive_turn`** — every turn is one of these.
-/

namespace R2N

open Guarded

/-- Frames with the addresses they are sent to. -/
abbrev Frames := List (ControlFrame × SocketAddr)

/-! ## Sending -/

/-- What becomes of `frames` that are sent until a send fails. -/
structure Delivery (io : SupernodeIo) (frames sent : Frames)
    (result : Option (Except SupernodeError Unit)) : Prop where
  sent_prefix : sent <+: frames
  outcome : result = some (.ok ()) ∧ sent = frames ∨
    result = some (.error .send) ∧ ∃ n, io.sendOk n = false

lemma Delivery.of_sendOk {io : SupernodeIo} {frames sent : Frames}
    {result : Option (Except SupernodeError Unit)} (h : Delivery io frames sent result)
    (hok : ∀ n, io.sendOk n = true) : result = some (.ok ()) ∧ sent = frames := by
  rcases h.outcome with houtcome | ⟨-, n, hn⟩
  · exact houtcome
  · rw [hok n] at hn
    cases hn

section Send

variable {io : SupernodeIo} {held : List RoomId} {s : HandlerState}
  {Q : Option (Except SupernodeError Unit) → HandlerState → Prop}

lemma yields_sendEach {frames : Frames}
    (h : ∀ sent result attempts, Delivery io frames sent result →
      Q result { s with sent := s.sent ++ sent, attempts }) :
    (sendEach io frames).Yields held s Q := by
  induction frames generalizing s with
  | nil =>
      have hnil := h [] (some (.ok ())) s.attempts ⟨List.prefix_refl [], .inl ⟨rfl, rfl⟩⟩
      simp only [List.append_nil] at hnil
      exact hnil
  | cons frame frames ih =>
      obtain ⟨frame, addr⟩ := frame
      by_cases hok : io.sendOk s.attempts = true
      · refine yields_bind (if_pos hok) (ih fun sent result attempts hsent => ?_)
        simp only [List.append_assoc, List.singleton_append]
        refine h _ _ _ ⟨List.prefix_cons_inj _ |>.mpr hsent.sent_prefix, ?_⟩
        rcases hsent.outcome with ⟨hresult, rfl⟩ | hfailed
        · exact .inl ⟨hresult, rfl⟩
        · exact .inr hfailed
      · have hfail := h [] (some (.error .send)) (s.attempts + 1)
          ⟨List.nil_prefix, .inr ⟨rfl, s.attempts, eq_false_of_ne_true hok⟩⟩
        simp only [List.append_nil] at hfail
        rw [Yields, sendEach, bind_apply, send, if_neg hok]
        exact hfail

/-- Failures of these sends are ignored. -/
lemma yields_trySendEach {frames : Frames}
    (h : ∀ sent attempts, (∀ f ∈ sent, f ∈ frames) →
      Q (some (.ok ())) { s with sent := s.sent ++ sent, attempts }) :
    (trySendEach io frames).Yields held s Q := by
  induction frames generalizing s with
  | nil =>
      have hnil := h [] s.attempts (by simp)
      simp only [List.append_nil] at hnil
      exact hnil
  | cons frame frames ih =>
      obtain ⟨frame, addr⟩ := frame
      refine yields_bind rfl (ih fun sent attempts hsent => ?_)
      by_cases hok : io.sendOk s.attempts = true
      · simp only [if_pos hok, List.append_assoc, List.singleton_append]
        refine h _ _ fun f hf => ?_
        rcases List.mem_cons.mp hf with rfl | hf
        · exact List.mem_cons_self
        · exact List.mem_cons_of_mem _ (hsent f hf)
      · simp only [if_neg hok]
        exact h _ _ fun f hf => List.mem_cons_of_mem _ (hsent f hf)

lemma yields_send {frame : ControlFrame} {addr : SocketAddr}
    (h : ∀ sent result attempts, Delivery io [(frame, addr)] sent result →
      Q result { s with sent := s.sent ++ sent, attempts }) :
    (send io frame addr).Yields held s Q := by
  have heach : send io frame addr held s = sendEach io [(frame, addr)] held s := by
    rw [sendEach, bind_apply, send]
    split_ifs <;> rfl
  rw [Yields, heach]
  exact yields_sendEach h

end Send

/-- The supernode changes none of its tables for the frame, apart from the time it was seen. -/
def ControlFrame.changesNoTable : ControlFrame → Bool
  | .registerNode .. | .createRoom _ | .joinRoom .. | .leaveRoom _ => false
  | _ => true

namespace Supernode

variable (S : SupernodeEnv) (io : SupernodeIo) (sn : Supernode)

/-! ## The start -/

/-- All tables of a supernode are empty when it starts. -/
lemma newWithConfig_ok {I : Ipnet} {addressPool : String} {roomPrefixLen : ℕ}
    {config : SupernodeConfig} {sn : Supernode}
    (h : newWithConfig I addressPool roomPrefixLen config = .ok sn) :
    sn.nodes = ∅ ∧ sn.addrToNode = ∅ ∧ sn.rooms = ∅ ∧ sn.addressPool.allocations = ∅ := by
  unfold newWithConfig at h
  split at h
  · cases h
  · rename_i pool hpool
    obtain rfl := Except.ok.inj h
    refine ⟨rfl, rfl, rfl, ?_⟩
    unfold RoomAddressPool.new at hpool
    split at hpool
    · cases hpool
    · split_ifs at hpool
      rw [← Except.ok.inj hpool]

/-! ## The node is seen -/

@[simp] lemma touch_rooms (now : Instant) (addr : SocketAddr) :
    (sn.touch now addr).rooms = sn.rooms := by
  unfold touch
  split <;> rfl

@[simp] lemma touch_addrToNode (now : Instant) (addr : SocketAddr) :
    (sn.touch now addr).addrToNode = sn.addrToNode := by
  unfold touch
  split <;> rfl

/-- What is known of a node apart from when it was seen. -/
lemma touch_node {α : Type} {f : NodeInfo → α}
    (hf : ∀ node t, f { node with lastSeen := t } = f node)
    (now : Instant) (addr : SocketAddr) (id : NodeId) :
    ((sn.touch now addr).nodes.lookup id).map f = (sn.nodes.lookup id).map f := by
  unfold touch
  split
  · rfl
  · rw [KeyMap.lookup_modify]
    split_ifs with h
    · subst h
      cases sn.nodes.lookup id with
      | none => rfl
      | some node => exact congrArg some (hf node now)
    · rfl

@[simp] lemma touch_addrOf (now : Instant) (addr : SocketAddr) (id : NodeId) :
    (sn.touch now addr).addrOf id = sn.addrOf id :=
  sn.touch_node (fun _ _ => rfl) now addr id

@[simp] lemma touch_localNetworksOf (now : Instant) (addr : SocketAddr) (id : NodeId) :
    (sn.touch now addr).localNetworksOf id = sn.localNetworksOf id := by
  rw [localNetworksOf, touch_node sn (fun _ _ => rfl), localNetworksOf]

@[simp] lemma touch_addressPool (now : Instant) (addr : SocketAddr) :
    (sn.touch now addr).addressPool = sn.addressPool := by
  unfold touch
  split <;> rfl

@[simp] lemma touch_config (now : Instant) (addr : SocketAddr) :
    (sn.touch now addr).config = sn.config := by
  unfold touch
  split <;> rfl

/-! ## Registration -/

/-- The supernode once a node has been registered. -/
def withNode (info : NodeInfo) : Supernode :=
  { sn with
    nodes := sn.nodes.insert info.nodeId info
    addrToNode := sn.addrToNode.insert info.addr info.nodeId }

/-- The node is filed, whatever becomes of the answer and of the punch requests. -/
inductive RegisterTurn (info : NodeInfo) : ControlOutcome → Prop
  | registered {sent : Frames} {result : Option (Except SupernodeError Unit)}
      (hsent : ∀ f ∈ sent, f = (.registerOk, info.addr) ∨
        ∃ addr, f = (.punchRequest info.nodeId info.candidates, addr)) :
      RegisterTurn info ⟨sn.withNode info, sent, result⟩

/-! ## Creating a room -/

/-- The room that is about to be created. -/
def newRoom (name : String) (id : NodeId) (cidr : Ipv4Net) : Room :=
  Room.new io.roomId name id (S.ipnet.display cidr) (S.hex.encode io.joinToken.toList)

def ownerNickname (id : NodeId) : String :=
  ((sn.nodes.lookup id).map NodeInfo.nickname).getD "Owner"

/-- The ways in which `createRoom` can end. -/
inductive CreateTurn (name : String) (addr : SocketAddr) : ControlOutcome → Prop
  | unregistered {sent : Frames} {result : Option (Except SupernodeError Unit)}
      (hid : sn.addrToNode.lookup addr = none)
      (hsent : Delivery io [(.error 400 "node not registered", addr)] sent result) :
      CreateTurn name addr ⟨sn, sent, result⟩
  | exhausted {id : NodeId} {e : RoomError} (hid : sn.addrToNode.lookup addr = some id)
      (halloc : sn.addressPool.allocateWithAvoidance S.ipnet io.roomId (sn.localNetworksOf id) =
        .error e) :
      CreateTurn name addr ⟨sn, [], some (.error (.room e))⟩
  | unseated {id : NodeId} {cidr : Ipv4Net} {pool : RoomAddressPool} {e : RoomError}
      (hid : sn.addrToNode.lookup addr = some id)
      (halloc : sn.addressPool.allocateWithAvoidance S.ipnet io.roomId (sn.localNetworksOf id) =
        .ok (cidr, pool))
      (hadd : (newRoom S io name id cidr).addOrReuse S.ipnet id (sn.ownerNickname id) .owner =
        .error e) :
      CreateTurn name addr ⟨{ sn with addressPool := pool }, [], some (.error (.room e))⟩
  | created {id : NodeId} {cidr : Ipv4Net} {pool : RoomAddressPool} {ip : VirtualIp} {room : Room}
      {sent : Frames} {result : Option (Except SupernodeError Unit)}
      (hid : sn.addrToNode.lookup addr = some id)
      (halloc : sn.addressPool.allocateWithAvoidance S.ipnet io.roomId (sn.localNetworksOf id) =
        .ok (cidr, pool))
      (hadd : (newRoom S io name id cidr).addOrReuse S.ipnet id (sn.ownerNickname id) .owner =
        .ok (ip, room))
      (hsent : match sn.publicSupernodeAddr io with
        | none => sent = [] ∧ result = some (.error .localAddr)
        | some primary => Delivery io [(sn.roomCreated S room ip primary, addr)] sent result) :
      CreateTurn name addr
        ⟨{ sn with addressPool := pool, rooms := sn.rooms.insert io.roomId room }, sent, result⟩

/-! ## Joining a room -/

/-- The room a join is about and the supernode that has it: the room in `rooms`, or one made on
demand. -/
def entryOf (roomId : RoomId) (token roomName : Option String) (id : NodeId) : Room × Supernode :=
  match sn.rooms.lookup roomId with
  | some room => (room, sn)
  | none =>
      let (room, addressPool) := sn.restoredRoom S roomId token roomName id
      (room, { sn with rooms := sn.rooms.insert roomId room, addressPool })

/-- The ways in which `joinRoom` can end. -/
inductive JoinTurn (roomId : RoomId) (token roomName : Option String) (addr : SocketAddr) :
    ControlOutcome → Prop
  | unregistered {sent : Frames} {result : Option (Except SupernodeError Unit)}
      (hid : sn.addrToNode.lookup addr = none)
      (hsent : Delivery io [(.joinReject "node not registered", addr)] sent result) :
      JoinTurn roomId token roomName addr ⟨sn, sent, result⟩
  | refused {id : NodeId} {room : Room} {sn' : Supernode} {reason : String} {sent : Frames}
      {result : Option (Except SupernodeError Unit)} (hid : sn.addrToNode.lookup addr = some id)
      (hentry : sn.entryOf S roomId token roomName id = (room, sn'))
      (hcheck : room.joinToken ≠ token.getD "" ∨
        roomSubnetConflicts S.ipnet room.virtualCidr (sn.localNetworksOf id) = true)
      (hsent : Delivery io [(.joinReject reason, addr)] sent result) :
      JoinTurn roomId token roomName addr ⟨sn', sent, result⟩
  | unseated {id : NodeId} {room : Room} {sn' : Supernode} {e : RoomError}
      (hid : sn.addrToNode.lookup addr = some id)
      (hentry : sn.entryOf S roomId token roomName id = (room, sn'))
      (htoken : room.joinToken = token.getD "")
      (hconflict : roomSubnetConflicts S.ipnet room.virtualCidr (sn.localNetworksOf id) = false)
      (hjoin : sn.joinMember S.ipnet room id = .error e) :
      JoinTurn roomId token roomName addr ⟨sn', [], some (.error (.room e))⟩
  | joined {id : NodeId} {room room' : Room} {sn' : Supernode} {ip : VirtualIp} {member : Member}
      {sent : Frames} {result : Option (Except SupernodeError Unit)}
      (hid : sn.addrToNode.lookup addr = some id)
      (hentry : sn.entryOf S roomId token roomName id = (room, sn'))
      (htoken : room.joinToken = token.getD "")
      (hconflict : roomSubnetConflicts S.ipnet room.virtualCidr (sn.localNetworksOf id) = false)
      (hjoin : sn.joinMember S.ipnet room id = .ok (ip, room'))
      (hmember : room'.members.lookup id = some member)
      (hsent : Delivery io (sn'.joinFrames roomId room' ip member addr) sent result) :
      JoinTurn roomId token roomName addr
        ⟨{ sn' with rooms := sn'.rooms.insert roomId room' }, sent, result⟩

/-! ## Leaving a room -/

/-- The supernode once a node has left a room. -/
def withoutMember (roomId : RoomId) (room : Room) (id : NodeId) : Supernode :=
  { sn with rooms := sn.rooms.insert roomId (room.removeMember id) }

/-- The ways in which `leaveRoom` can end: once the room is empty, the handler that would remove
it does not return. -/
inductive LeaveTurn (roomId : RoomId) (addr : SocketAddr) : ControlOutcome → Prop
  | ignored (h : sn.addrToNode.lookup addr = none ∨ sn.rooms.lookup roomId = none) :
      LeaveTurn roomId addr ⟨sn, [], some (.ok ())⟩
  | left {id : NodeId} {room : Room} {sent : Frames}
      {result : Option (Except SupernodeError Unit)} (hid : sn.addrToNode.lookup addr = some id)
      (hroom : sn.rooms.lookup roomId = some room)
      (hsent : Delivery io (sn.leaveFrames (room.removeMember id) (room.members.lookup id)) sent
        result) :
      LeaveTurn roomId addr ⟨sn.withoutMember roomId room id, sent, result⟩
  | blocked {id : NodeId} {room : Room} (hid : sn.addrToNode.lookup addr = some id)
      (hroom : sn.rooms.lookup roomId = some room)
      (hempty : (room.removeMember id).members.keys = []) :
      LeaveTurn roomId addr ⟨sn.withoutMember roomId room id,
        sn.leaveFrames (room.removeMember id) (room.members.lookup id), none⟩

/-! ## Handlers -/

/-- A handler before it has done anything. -/
def atStart : HandlerState := { sn, sent := [], attempts := 0 }

lemma registerNode_turn (info : NodeInfo) :
    (registerNode io info).Yields [] sn.atStart
      fun r s => RegisterTurn sn info ⟨s.sn, s.sent, r⟩ := by
  refine yields_bind rfl (yields_bind_cases (yields_send fun sent result attempts hsent => ?_))
  have hanswer : ∀ f ∈ sent, f = (.registerOk, info.addr) := fun f hf =>
    List.mem_singleton.mp (hsent.sent_prefix.subset hf)
  refine ⟨fun _ _ => ?_, fun _ _ => ?_, fun _ => ?_⟩
  · refine yields_bind (accessAll_nil _ _) (yields_trySendEach fun punches _ hpunches => ?_)
    refine .registered fun f hf => ?_
    rcases List.mem_append.mp hf with hf | hf
    · exact .inl (hanswer f hf)
    · obtain ⟨addr, -, rfl⟩ := List.mem_map.mp (hpunches f hf)
      exact .inr ⟨addr, rfl⟩
  · exact .registered fun f hf => .inl (hanswer f hf)
  · exact .registered fun f hf => .inl (hanswer f hf)

lemma createRoom_turn (name : String) (addr : SocketAddr) :
    (createRoom S io name addr).Yields [] sn.atStart
      fun r s => CreateTurn S io sn name addr ⟨s.sn, s.sent, r⟩ := by
  refine yields_bind rfl ?_
  dsimp only [atStart]
  cases hid : sn.addrToNode.lookup addr with
  | none => exact yields_send fun sent result _ hsent => .unregistered hid hsent
  | some id =>
      dsimp only
      split
      · exact .exhausted hid ‹_›
      · rename_i cidr pool halloc
        refine yields_bind rfl ?_
        split
        · exact .unseated hid halloc ‹_›
        · rename_i ip room hadd
          refine yields_bind (access_nil _ _ _ _) ?_
          cases haddr : sn.publicSupernodeAddr io with
          | none => exact .created hid halloc hadd (by rw [haddr]; exact ⟨rfl, rfl⟩)
          | some primary =>
              exact yields_send fun sent result _ hsent =>
                .created hid halloc hadd (by rw [haddr]; exact hsent)

/-- The joining node is a member afterwards, and the other members stay. -/
lemma joinMember_ok {I : Ipnet} {sn : Supernode} {room room' : Room} {id : NodeId}
    {ip : VirtualIp} (h : sn.joinMember I room id = .ok (ip, room')) :
    ∃ member, room'.members.lookup id = some member ∧
      (member.nodeId = id ∨ room.members.lookup id = some member) ∧
      ∀ x ≠ id, room'.members.lookup x = room.members.lookup x := by
  unfold joinMember at h
  cases hmember : room.members.lookup id with
  | some member =>
      simp only [hmember] at h
      obtain ⟨-, rfl⟩ := Prod.mk.inj (Except.ok.inj h)
      exact ⟨member, hmember, .inr rfl, fun _ _ => rfl⟩
  | none =>
      simp only [hmember] at h
      obtain ⟨ipLeases, rfl⟩ := Room.addOrReuse_ok h
      exact ⟨_, AList.lookup_insert _, .inl rfl, fun x hx => AList.lookup_insert_ne hx⟩

lemma roomEntry_apply (roomId : RoomId) (token roomName : Option String) (id : NodeId)
    (held : List RoomId) (s : HandlerState) :
    roomEntry S roomId token roomName id held s =
      (some (.ok (s.sn.entryOf S roomId token roomName id).1),
        { s with sn := (s.sn.entryOf S roomId token roomName id).2 }) := by
  unfold roomEntry entryOf
  rw [get_bind]
  cases s.sn.rooms.lookup roomId <;> rfl

/-- The room a join is about is in `rooms`, or it is made with the token of the join. -/
lemma entryOf_cases {roomId : RoomId} {token roomName : Option String} {id : NodeId} {room : Room}
    {sn' : Supernode} (h : sn.entryOf S roomId token roomName id = (room, sn')) :
    sn.rooms.lookup roomId = some room ∧ sn' = sn ∨
    sn.rooms.lookup roomId = none ∧ sn'.rooms = sn.rooms.insert roomId room ∧
      room.joinToken = token.getD "" ∧ room.members = ∅ := by
  unfold entryOf at h
  cases hroom : sn.rooms.lookup roomId with
  | some existing =>
      rw [hroom] at h
      obtain ⟨rfl, rfl⟩ := Prod.mk.inj h
      exact .inl ⟨rfl, rfl⟩
  | none =>
      rw [hroom] at h
      obtain ⟨rfl, rfl⟩ := Prod.mk.inj h
      exact .inr ⟨rfl, rfl, rfl, rfl⟩

lemma entryOf_lookup {roomId : RoomId} {token roomName : Option String} {id : NodeId} {room : Room}
    {sn' : Supernode} (h : sn.entryOf S roomId token roomName id = (room, sn')) :
    sn'.rooms.lookup roomId = some room := by
  rcases entryOf_cases S sn h with ⟨hroom, rfl⟩ | ⟨-, hrooms, -⟩
  · exact hroom
  · rw [hrooms, AList.lookup_insert]

/-- Making a room on demand changes no node. -/
lemma entryOf_nodes {roomId : RoomId} {token roomName : Option String} {id : NodeId} {room : Room}
    {sn' : Supernode} (h : sn.entryOf S roomId token roomName id = (room, sn')) :
    sn'.nodes = sn.nodes ∧ sn'.addrToNode = sn.addrToNode := by
  unfold entryOf at h
  split at h <;> cases h <;> exact ⟨rfl, rfl⟩

lemma joinRoom_turn (roomId : RoomId) (token roomName : Option String) (addr : SocketAddr) :
    (joinRoom S io roomId token roomName addr).Yields [] sn.atStart
      fun r s => JoinTurn S io sn roomId token roomName addr ⟨s.sn, s.sent, r⟩ := by
  refine yields_bind rfl ?_
  dsimp only [atStart]
  cases hid : sn.addrToNode.lookup addr with
  | none => exact yields_send fun sent result _ hsent => .unregistered hid hsent
  | some id =>
      refine yields_holding_nil (yields_bind (roomEntry_apply S _ _ _ _ _ _) (yields_bind rfl ?_))
      rcases hentry : sn.entryOf S roomId token roomName id with ⟨room, sn'⟩
      have hnodes := (entryOf_nodes S sn hentry).1
      have hlocal : sn'.localNetworksOf id = sn.localNetworksOf id := by
        rw [localNetworksOf, hnodes, localNetworksOf]
      have hsame : sn'.joinMember S.ipnet room id = sn.joinMember S.ipnet room id := by
        rw [joinMember, hnodes, joinMember]
      dsimp only
      rw [hlocal, hsame]
      split_ifs with htoken hconflict
      · exact yields_send fun sent result _ hsent => .refused hid hentry (.inl htoken) hsent
      · exact yields_send fun sent result _ hsent => .refused hid hentry (.inr hconflict) hsent
      · have htoken := not_not.mp htoken
        have hconflict := eq_false_of_ne_true hconflict
        split
        · exact .unseated hid hentry htoken hconflict ‹_›
        · rename_i ip room' hjoin
          obtain ⟨member, hmember, -⟩ := joinMember_ok hjoin
          refine yields_bind rfl ?_
          rw [hmember]
          exact yields_sendEach fun sent result _ hsent =>
            .joined hid hentry htoken hconflict hjoin hmember hsent

lemma dropRoom_of_held (roomId : RoomId) (s : HandlerState) :
    dropRoom S roomId [roomId] s = (none, s) := by
  rw [dropRoom, bind_apply, access_of_held S.shard roomId _ _ (List.mem_singleton_self roomId)]

lemma leaveRoom_turn (roomId : RoomId) (addr : SocketAddr) :
    (leaveRoom S io roomId addr).Yields [] sn.atStart
      fun r s => LeaveTurn io sn roomId addr ⟨s.sn, s.sent, r⟩ := by
  refine yields_bind rfl ?_
  dsimp only [atStart]
  cases hid : sn.addrToNode.lookup addr with
  | none => exact .ignored (.inl hid)
  | some id =>
      refine yields_holding_nil (yields_bind rfl ?_)
      dsimp only
      cases hroom : sn.rooms.lookup roomId with
      | none => exact .ignored (.inr hroom)
      | some room =>
          refine yields_bind rfl (yields_bind_cases (yields_sendEach ?_))
          intro sent result attempts hsent
          refine ⟨fun _ hresult => ?_, fun e hresult => ?_, fun hresult => ?_⟩
          · subst hresult
            split_ifs with hempty
            · refine yields_of_eq (dropRoom_of_held S roomId _) ?_
              obtain rfl : sent = _ := (hsent.outcome.resolve_right (by simp)).2
              exact .blocked hid hroom hempty
            · exact .left hid hroom hsent
          · subst hresult
            exact .left hid hroom hsent
          · subst hresult
            simpa using hsent.outcome

/-! ## Frames -/

/-- The first frame of a join is the answer. -/
lemma joinFrames_cons (roomId : RoomId) (room : Room) (ip : VirtualIp) (joined : Member)
    (addr : SocketAddr) :
    sn.joinFrames roomId room ip joined addr =
      (.joinAccept roomId ip room.virtualCidr (some room.name), addr) ::
        (sn.joinFrames roomId room ip joined addr).tail := rfl

/-- After the answer, a join sends only news of peers. -/
lemma mem_joinFrames_tail {roomId : RoomId} {room : Room} {ip : VirtualIp} {joined : Member}
    {addr : SocketAddr} {f : ControlFrame × SocketAddr}
    (h : f ∈ (sn.joinFrames roomId room ip joined addr).tail) :
    (∃ peers, f.1 = .peerList peers) ∨ (∃ peer action, f.1 = .peerUpdate peer action) ∨
      ∃ target candidates, f.1 = .punchRequest target candidates := by
  rcases List.mem_cons.mp h with rfl | h
  · exact .inl ⟨_, rfl⟩
  rcases List.mem_append.mp h with h | h
  · obtain ⟨member, -, h⟩ := List.mem_filterMap.mp h
    obtain ⟨existing, -, rfl⟩ := Option.map_eq_some_iff.mp h
    exact .inr (.inl ⟨_, _, rfl⟩)
  · cases hnode : sn.nodes.lookup joined.nodeId with
    | none =>
        simp only [hnode] at h
        cases h
    | some node =>
        simp only [hnode] at h
        obtain ⟨peer, -, h⟩ := List.mem_flatMap.mp h
        split at h
        · cases h
        · rcases List.mem_pair.mp h with rfl | rfl
          · exact .inr (.inr ⟨_, _, rfl⟩)
          · exact .inr (.inr ⟨_, _, rfl⟩)

lemma mem_joinFrames {roomId : RoomId} {room : Room} {ip : VirtualIp} {joined : Member}
    {addr : SocketAddr} {f : ControlFrame × SocketAddr}
    (h : f ∈ sn.joinFrames roomId room ip joined addr) :
    f = (.joinAccept roomId ip room.virtualCidr (some room.name), addr) ∨
      (∃ peers, f.1 = .peerList peers) ∨ (∃ peer action, f.1 = .peerUpdate peer action) ∨
      ∃ target candidates, f.1 = .punchRequest target candidates := by
  rw [joinFrames_cons] at h
  rcases List.mem_cons.mp h with rfl | h
  · exact .inl rfl
  · exact .inr (sn.mem_joinFrames_tail h)

lemma mem_leaveFrames {room : Room} {removed : Option Member} {f : ControlFrame × SocketAddr}
    (h : f ∈ sn.leaveFrames room removed) : ∃ peer, f.1 = .peerUpdate peer .remove := by
  unfold leaveFrames at h
  split at h
  · cases h
  · obtain ⟨member, -, h⟩ := List.mem_filterMap.mp h
    obtain ⟨existing, -, rfl⟩ := Option.map_eq_some_iff.mp h
    exact ⟨_, rfl⟩

/-! ## Turns -/

lemma receive_createTurn (name : String) (addr : SocketAddr) :
    CreateTurn S io (sn.touch io.now addr) name addr (sn.receive S io (.createRoom name) addr) :=
  createRoom_turn S io _ name addr

lemma receive_joinTurn (roomId : RoomId) (token roomName : Option String) (addr : SocketAddr) :
    JoinTurn S io (sn.touch io.now addr) roomId token roomName addr
      (sn.receive S io (.joinRoom roomId token roomName) addr) :=
  joinRoom_turn S io _ roomId token roomName addr

lemma receive_leaveTurn (roomId : RoomId) (addr : SocketAddr) :
    LeaveTurn io (sn.touch io.now addr) roomId addr (sn.receive S io (.leaveRoom roomId) addr) :=
  leaveRoom_turn S io _ roomId addr

/-- A turn of the receive loop: the sender has been seen, and its frame is handled. -/
inductive Turn (d : Datagram) : ControlOutcome → Prop
  | register {nodeId : NodeId} {natType : NatType} {externalAddr : Option SocketAddr}
      {publicKey : Key} {candidates : List Candidate} {nickname : String}
      {localNetworks : List String} {out : ControlOutcome}
      (hframe : d.frame = .registerNode nodeId natType externalAddr publicKey candidates nickname
        localNetworks)
      (hturn : RegisterTurn (sn.touch d.io.now d.addr)
        { nodeId, addr := d.addr, natType, externalAddr, publicKey, candidates, nickname
          localNetworks := parseLocalNetworks S.ipnet localNetworks, lastSeen := d.io.now } out) :
      Turn d out
  | create {name : String} {out : ControlOutcome} (hframe : d.frame = .createRoom name)
      (hturn : CreateTurn S d.io (sn.touch d.io.now d.addr) name d.addr out) : Turn d out
  | join {roomId : RoomId} {token roomName : Option String} {out : ControlOutcome}
      (hframe : d.frame = .joinRoom roomId token roomName)
      (hturn : JoinTurn S d.io (sn.touch d.io.now d.addr) roomId token roomName d.addr out) :
      Turn d out
  | leave {roomId : RoomId} {out : ControlOutcome} (hframe : d.frame = .leaveRoom roomId)
      (hturn : LeaveTurn d.io (sn.touch d.io.now d.addr) roomId d.addr out) : Turn d out
  | other {out : ControlOutcome} (hframe : d.frame.changesNoTable = true)
      (hstate : out.sn = sn.touch d.io.now d.addr)
      (hsent : ∀ f ∈ out.frames, f.1 = .heartbeat ∨ ∃ rooms, f.1 = .roomsList rooms) : Turn d out

/-- The frames that only ask for something. -/
lemma handleControl_other {frame : ControlFrame} (addr : SocketAddr)
    (h : frame.changesNoTable = true) :
    (handleControl S io frame addr).Yields [] sn.atStart fun _ s =>
      s.sn = sn ∧ ∀ f ∈ s.sent, f.1 = .heartbeat ∨ ∃ rooms, f.1 = .roomsList rooms := by
  have htry : ∀ frame, trySend io frame addr [] sn.atStart =
      (some (.ok ()), { sn, sent := if io.sendOk 0 then [(frame, addr)] else [], attempts := 1 }) :=
    fun _ => rfl
  have hsent : ∀ {frame : ControlFrame} {f}, f ∈ (if io.sendOk 0 then [(frame, addr)] else []) →
      f.1 = frame := by
    intro frame f hf
    split_ifs at hf
    · rw [List.mem_singleton.mp hf]
    · cases hf
  cases frame with
  | registerNode => cases h
  | createRoom => cases h
  | joinRoom => cases h
  | leaveRoom => cases h
  | heartbeat => exact yields_of_eq (htry _) ⟨rfl, fun f hf => .inl (hsent hf)⟩
  | queryRooms =>
      exact yields_bind (accessAll_nil _ _)
        (yields_of_eq (htry _) ⟨rfl, fun f hf => .inr ⟨_, hsent hf⟩⟩)
  | _ => exact ⟨rfl, fun f hf => absurd hf List.not_mem_nil⟩

/-- **Every turn** of the receive loop ends in one of these ways. -/
theorem receive_turn (d : Datagram) : Turn S sn d (sn.receive S d.io d.frame d.addr) := by
  cases hchange : d.frame.changesNoTable with
  | true =>
      obtain ⟨hstate, hsent⟩ := handleControl_other S d.io (sn.touch d.io.now d.addr) d.addr hchange
      exact .other hchange hstate hsent
  | false =>
      cases hframe : d.frame with
      | registerNode => exact .register hframe (registerNode_turn _ _ _)
      | createRoom name => exact .create hframe (receive_createTurn S _ _ _ _)
      | joinRoom roomId token roomName => exact .join hframe (receive_joinTurn S _ _ _ _ _ _)
      | leaveRoom roomId => exact .leave hframe (receive_leaveTurn S _ _ _ _)
      | _ =>
          rw [hframe] at hchange
          cases hchange

/-! ## Announcements -/

/-- The network that a frame tells a node it is in. -/
def announcedCidr : ControlFrame → Option String
  | .roomCreated _ _ cidr _ => some cidr
  | .joinAccept _ _ cidr _ => some cidr
  | _ => none

/-- The frames that tell a registered node that it is in a room, with the checks that led to
them. -/
inductive Announcement (d : Datagram) : ControlFrame × SocketAddr → Prop
  | created {name : String} {id : NodeId} {cidr : Ipv4Net} {pool : RoomAddressPool}
      {ip : VirtualIp} {room : Room} {primary : String} (hframe : d.frame = .createRoom name)
      (hid : sn.addrToNode.lookup d.addr = some id)
      (halloc : sn.addressPool.allocateWithAvoidance S.ipnet d.io.roomId (sn.localNetworksOf id) =
        .ok (cidr, pool))
      (hadd : (newRoom S d.io name id cidr).addOrReuse S.ipnet id (sn.ownerNickname id)
        .owner = .ok (ip, room)) :
      Announcement d (sn.roomCreated S room ip primary, d.addr)
  | joined {roomId : RoomId} {token roomName : Option String} {id : NodeId} {room room' : Room}
      {sn' : Supernode} {ip : VirtualIp} (hframe : d.frame = .joinRoom roomId token roomName)
      (hid : sn.addrToNode.lookup d.addr = some id)
      (hentry : sn.entryOf S roomId token roomName id = (room, sn'))
      (htoken : room.joinToken = token.getD "")
      (hconflict : roomSubnetConflicts S.ipnet room.virtualCidr (sn.localNetworksOf id) = false)
      (hjoin : sn.joinMember S.ipnet room id = .ok (ip, room')) :
      Announcement d (.joinAccept roomId ip room'.virtualCidr (some room'.name), d.addr)

/-- **A node is told that it is in a room** only so. -/
lemma Turn.announcement {S : SupernodeEnv} {sn : Supernode} {d : Datagram} {out : ControlOutcome}
    (hturn : Turn S sn d out) {f : ControlFrame × SocketAddr} (hf : f ∈ out.frames)
    (hcidr : (announcedCidr f.1).isSome = true) :
    Announcement S (sn.touch d.io.now d.addr) d f := by
  have hsingle : ∀ {frame : ControlFrame} {sent result}, f ∈ sent →
      Delivery d.io [(frame, d.addr)] sent result → f = (frame, d.addr) := fun hmem hsent =>
    List.mem_singleton.mp (hsent.sent_prefix.subset hmem)
  cases hturn with
  | register _ hturn =>
      cases hturn with
      | registered hsent =>
          rcases hsent f hf with rfl | ⟨addr, rfl⟩ <;> cases hcidr
  | create hframe hturn =>
      cases hturn with
      | unregistered _ hsent =>
          rw [hsingle hf hsent] at hcidr
          cases hcidr
      | exhausted => cases hf
      | unseated => cases hf
      | created hid halloc hadd hsent =>
          split at hsent
          · obtain ⟨rfl, -⟩ := hsent
            cases hf
          · obtain rfl := hsingle hf hsent
            exact .created hframe hid halloc hadd
  | join hframe hturn =>
      cases hturn with
      | unregistered _ hsent =>
          rw [hsingle hf hsent] at hcidr
          cases hcidr
      | refused _ _ _ hsent =>
          rw [hsingle hf hsent] at hcidr
          cases hcidr
      | unseated => cases hf
      | joined hid hentry htoken hconflict hjoin _ hsent =>
          rcases mem_joinFrames _ (hsent.sent_prefix.subset hf) with rfl | hother
          · exact .joined hframe hid hentry htoken hconflict hjoin
          · rcases hother with ⟨_, h⟩ | ⟨_, _, h⟩ | ⟨_, _, h⟩ <;>
              · rw [h] at hcidr
                cases hcidr
  | leave _ hturn =>
      have hleave : ∀ {room : Room} {removed : Option Member},
          f ∉ (sn.touch d.io.now d.addr).leaveFrames room removed := by
        intro room removed hmem
        obtain ⟨peer, h⟩ := mem_leaveFrames _ hmem
        rw [h] at hcidr
        cases hcidr
      cases hturn with
      | ignored => cases hf
      | left _ _ hsent => exact absurd (hsent.sent_prefix.subset hf) hleave
      | blocked => exact absurd hf hleave
  | other _ _ hsent =>
      rcases hsent f hf with h | ⟨rooms, h⟩ <;>
        · rw [h] at hcidr
          cases hcidr

end Supernode

end R2N
