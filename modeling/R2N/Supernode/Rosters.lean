import R2N.Supernode.Effects
import R2N.Supernode.Rooms

/-!
# Who is told about whom

The supernode names nodes to one another: the list of peers that a join is answered with, the
updates when a member comes or goes, and the punch requests with a node's candidate addresses.  It
chooses the recipients from its tables, which change with every frame and whose sends may fail
anywhere.

* `ControlFrame.disclosed` — the nodes a frame names.
* `Disclosable` — the recipient's address is that of a member of a room the named node is in, or
  has just left.
* `receive_discloses` — every frame of every turn is such.
* **`rosters_stay_in_rooms`** — so that over any run no node is named to one it shares no room with.
-/

namespace R2N

open Guarded Run

/-- The nodes that a frame names. -/
def ControlFrame.disclosed : ControlFrame → List NodeId
  | .peerList peers => peers.map PeerInfo.nodeId
  | .peerUpdate peer _ => [peer.nodeId]
  | .punchRequest target _ => [target]
  | .punchCandidate fromNode _ => [fromNode]
  | .relayOffer target => [target]
  | _ => []

namespace Supernode

/-- The node that an address stands for, in the table of nodes or in the index. -/
def StandsFor (sn : Supernode) (addr : SocketAddr) (id : NodeId) : Prop :=
  sn.addrOf id = some addr ∨ sn.addrToNode.lookup addr = some id

/-- `id` may be named to `addr`, when `sn` becomes `sn'`: the address is that of a member of a room
in which `id` is or was. -/
def Disclosable (sn sn' : Supernode) (id : NodeId) (addr : SocketAddr) : Prop :=
  ∃ roomId recipient, sn'.StandsFor addr recipient ∧ recipient ∈ sn'.membersOf roomId ∧
    (id ∈ sn'.membersOf roomId ∨ id ∈ sn.membersOf roomId)

variable {S : SupernodeEnv} {sn sn' : Supernode}

/-! ## Members by their records -/

/-- A member is in the table under its own id. -/
lemma mem_members_of_mem_values {room : Room} (h : room.Consistent) {member : Member}
    (hmember : member ∈ KeyMap.values room.members) : member.nodeId ∈ room.members := by
  obtain ⟨n, hn⟩ := KeyMap.mem_values.mp hmember
  rw [h.keyed hn]
  exact KeyMap.mem_iff_lookup.mpr ⟨member, hn⟩

lemma membersOf_of_lookup {roomId : RoomId} {room : Room}
    (hroom : sn.rooms.lookup roomId = some room) : sn.membersOf roomId = room.members := by
  rw [membersOf, hroom]
  rfl

lemma membersOf_insert_self (sn : Supernode) (roomId : RoomId) (room : Room) :
    ({ sn with rooms := sn.rooms.insert roomId room } : Supernode).membersOf roomId =
      room.members :=
  membersOf_of_lookup (AList.lookup_insert _)

/-! ## Registration -/

/-- The punch requests of a registration go to the other members of the node's rooms. -/
lemma registerNode_frames (io : SupernodeIo) (sn : Supernode) (info : NodeInfo) :
    (registerNode io info).Yields [] sn.atStart fun _ s =>
      ∀ f ∈ s.sent, f = (.registerOk, info.addr) ∨
        ∃ addr ∈ (sn.withNode info).peersToUpdate info.nodeId,
          f = (.punchRequest info.nodeId info.candidates, addr) := by
  refine yields_bind rfl (yields_bind_cases (yields_send fun sent result attempts hsent => ?_))
  have hanswer : ∀ f ∈ sent, f = (.registerOk, info.addr) := fun f hf =>
    List.mem_singleton.mp (hsent.sent_prefix.subset hf)
  refine ⟨fun _ _ => ?_, fun _ _ => fun f hf => .inl (hanswer f hf),
    fun _ => fun f hf => .inl (hanswer f hf)⟩
  refine yields_bind (accessAll_nil _ _) (yields_trySendEach fun punches _ hpunches => ?_)
  intro f hf
  rcases List.mem_append.mp hf with hf | hf
  · exact .inl (hanswer f hf)
  · obtain ⟨addr, haddr, rfl⟩ := List.mem_map.mp (hpunches f hf)
    exact .inr ⟨addr, haddr, rfl⟩

/-- An address in that list is one of another member of a room. -/
lemma mem_peersToUpdate (h : sn.Rooms Room.Consistent) {id : NodeId} {addr : SocketAddr}
    (haddr : addr ∈ sn.peersToUpdate id) :
    ∃ roomId recipient, sn.addrOf recipient = some addr ∧ recipient ∈ sn.membersOf roomId ∧
      id ∈ sn.membersOf roomId := by
  obtain ⟨room, hroom, haddr⟩ := List.mem_flatMap.mp haddr
  obtain ⟨roomId, hlookup⟩ := KeyMap.mem_values.mp hroom
  split_ifs at haddr with hid
  · obtain ⟨member, hmember, haddr⟩ := List.mem_filterMap.mp haddr
    have hmem := mem_members_of_mem_values (h roomId room hlookup) (List.mem_filter.mp hmember).1
    rw [← membersOf_of_lookup hlookup] at hid hmem
    exact ⟨roomId, member.nodeId, haddr, hmem, hid⟩
  · cases haddr

/-! ## Joining and leaving -/

/-- Whatever a join sends names members of the room to members of the room. -/
lemma joinFrames_discloses {room : Room} (hroom : room.Consistent) {roomId : RoomId}
    {ip : VirtualIp} {joined : Member} {id : NodeId} {addr : SocketAddr}
    (hjoined : room.members.lookup id = some joined) {f : ControlFrame × SocketAddr}
    (hf : f ∈ sn.joinFrames roomId room ip joined addr) {n : NodeId} (hn : n ∈ f.1.disclosed) :
    n ∈ room.members ∧ (f.2 = addr ∨
      ∃ recipient ∈ room.members, sn.addrOf recipient = some f.2) := by
  have hid : joined.nodeId ∈ room.members := by
    rw [hroom.keyed hjoined]
    exact KeyMap.mem_iff_lookup.mpr ⟨joined, hjoined⟩
  have hpeers : ∀ peer ∈ (KeyMap.values room.members).map sn.peerInfoForMember,
      peer.nodeId ∈ room.members := by
    intro peer hpeer
    obtain ⟨member, hmember, rfl⟩ := List.mem_map.mp hpeer
    exact mem_members_of_mem_values hroom hmember
  rcases List.mem_cons.mp hf with rfl | hf
  · cases hn
  rcases List.mem_cons.mp hf with rfl | hf
  · obtain ⟨peer, hpeer, rfl⟩ := List.mem_map.mp hn
    exact ⟨hpeers peer hpeer, .inl rfl⟩
  rcases List.mem_append.mp hf with hf | hf
  · -- an update to another member
    obtain ⟨member, hmember, hf⟩ := List.mem_filterMap.mp hf
    obtain ⟨existing, haddr, rfl⟩ := Option.map_eq_some_iff.mp hf
    obtain rfl := List.mem_singleton.mp hn
    exact ⟨hid, .inr ⟨member.nodeId,
      mem_members_of_mem_values hroom (List.mem_filter.mp hmember).1, haddr⟩⟩
  · -- the punch requests of a pair
    split at hf
    · cases hf
    · obtain ⟨peer, hpeer, hf⟩ := List.mem_flatMap.mp hf
      have hpeer := hpeers peer (List.mem_filter.mp hpeer).1
      split at hf
      · cases hf
      · rename_i existing hexisting
        rcases List.mem_pair.mp hf with rfl | rfl
        · obtain rfl := List.mem_singleton.mp hn
          refine ⟨hid, .inr ⟨peer.nodeId, hpeer, ?_⟩⟩
          rw [addrOf, hexisting]
          rfl
        · obtain rfl := List.mem_singleton.mp hn
          exact ⟨hpeer, .inl rfl⟩

/-- Whatever a leave sends names the node that has left to members of the room. -/
lemma leaveFrames_discloses {room : Room} (hroom : room.Consistent) {removed : Option Member}
    {f : ControlFrame × SocketAddr} (hf : f ∈ sn.leaveFrames room removed) {n : NodeId}
    (hn : n ∈ f.1.disclosed) :
    (∃ member, removed = some member ∧ n = member.nodeId) ∧
      ∃ recipient ∈ room.members, sn.addrOf recipient = some f.2 := by
  cases removed with
  | none => cases hf
  | some member =>
      obtain ⟨other, hother, hf⟩ := List.mem_filterMap.mp hf
      obtain ⟨existing, haddr, rfl⟩ := Option.map_eq_some_iff.mp hf
      obtain rfl := List.mem_singleton.mp hn
      exact ⟨⟨member, rfl, rfl⟩, other.nodeId, mem_members_of_mem_values hroom hother, haddr⟩

/-! ## Turns -/

lemma consistent_invariant (I : Ipnet) : RoomInvariant I Room.Consistent where
  new := Room.consistent_new
  add := fun h hok => h.add (Room.addOrReuse_eq_ok.mp hok)
  remove := fun id h => h.removeMember id

/-- **Every turn** names nodes only to those they share a room with. -/
lemma receive_discloses (h : sn.Rooms Room.Consistent) (d : Datagram) :
    ∀ f ∈ (sn.receive S d.io d.frame d.addr).frames, ∀ n ∈ f.1.disclosed,
      Disclosable sn (sn.receive S d.io d.frame d.addr).sn n f.2 := by
  intro f hf n hn
  have htouch : (sn.touch d.io.now d.addr).Rooms Room.Consistent :=
    h.congr (touch_rooms sn d.io.now d.addr)
  have hsingle : ∀ {frame : ControlFrame} {sent result}, f ∈ sent →
      Delivery d.io [(frame, d.addr)] sent result → f = (frame, d.addr) := fun hmem hsent =>
    List.mem_singleton.mp (hsent.sent_prefix.subset hmem)
  have hturn := receive_turn S sn d
  generalize hout : sn.receive S d.io d.frame d.addr = out at hf hturn ⊢
  cases hturn with
  | register hframe hturn =>
      cases hturn with
      | registered =>
          rw [hframe] at hout
          rw [← congrArg ControlOutcome.frames hout] at hf
          rcases registerNode_frames d.io (sn.touch d.io.now d.addr) _ f hf with
            rfl | ⟨addr, haddr, rfl⟩
          · cases hn
          · obtain rfl := List.mem_singleton.mp hn
            obtain ⟨roomId, recipient, hstands, hrecipient, hid⟩ :=
              mem_peersToUpdate (by exact htouch.congr rfl) haddr
            exact ⟨roomId, recipient, .inl hstands, hrecipient, .inl hid⟩
  | create _ hturn =>
      cases hturn with
      | unregistered _ hsent =>
          obtain rfl := hsingle hf hsent
          cases hn
      | exhausted => cases hf
      | unseated => cases hf
      | created _ _ _ hsent =>
          split at hsent
          · obtain ⟨rfl, -⟩ := hsent
            cases hf
          · obtain rfl := hsingle hf hsent
            cases hn
  | join _ hturn =>
      cases hturn with
      | unregistered _ hsent =>
          obtain rfl := hsingle hf hsent
          cases hn
      | refused _ _ _ hsent =>
          obtain rfl := hsingle hf hsent
          cases hn
      | unseated => cases hf
      | @joined id _ _ _ _ _ _ _ hid hentry _ _ hjoin hmember hsent =>
          have hQ := consistent_invariant S.ipnet
          obtain ⟨hroom, -⟩ := htouch.entryOf hQ hentry
          have hroom' := joinMember_keeps_invariant hQ hroom hjoin
          obtain ⟨hn, hrecipient⟩ :=
            joinFrames_discloses hroom' hmember (hsent.sent_prefix.subset hf) hn
          have hindex := (entryOf_nodes S _ hentry).2
          rw [← membersOf_insert_self] at hn
          rcases hrecipient with haddr | ⟨recipient, hrecipient, haddr⟩
          · refine ⟨_, id, .inr ?_, ?_, .inl hn⟩
            · rw [haddr, ← hid]
              exact congrArg (AList.lookup d.addr) hindex
            · rw [membersOf_insert_self]
              exact KeyMap.mem_iff_lookup.mpr ⟨_, hmember⟩
          · refine ⟨_, recipient, .inl haddr, ?_, .inl hn⟩
            rw [membersOf_insert_self]
            exact hrecipient
  | leave _ hturn =>
      have hleft {roomId : RoomId} {room : Room} {id : NodeId}
          (hroom : (sn.touch d.io.now d.addr).rooms.lookup roomId = some room)
          (hf : f ∈ (sn.touch d.io.now d.addr).leaveFrames (room.removeMember id)
            (room.members.lookup id)) :
          Disclosable sn ((sn.touch d.io.now d.addr).withoutMember roomId room id) n f.2 := by
        have hconsistent := htouch roomId room hroom
        obtain ⟨⟨member, hmember, rfl⟩, recipient, hrecipient, haddr⟩ :=
          leaveFrames_discloses (hconsistent.removeMember id) hf hn
        refine ⟨roomId, recipient, .inl haddr, ?_, .inr ?_⟩
        · rw [withoutMember, membersOf_insert_self]
          exact hrecipient
        · rw [touch_rooms] at hroom
          rw [membersOf_of_lookup hroom, hconsistent.keyed hmember]
          exact KeyMap.mem_iff_lookup.mpr ⟨member, hmember⟩
      cases hturn with
      | ignored => cases hf
      | left _ hroom hsent => exact hleft hroom (hsent.sent_prefix.subset hf)
      | blocked _ hroom => exact hleft hroom hf
  | other _ _ hsent =>
      rcases hsent f hf with h | ⟨rooms, h⟩ <;>
        · rw [h] at hn
          cases hn

/-- **Rosters stay in their rooms.**  Over any run of a supernode, whatever is asked of it and
whatever sends fail: each node that a frame names is, or was until then, in a room together with the
node at the address the frame goes to. -/
theorem rosters_stay_in_rooms {addressPool : String} {roomPrefixLen : ℕ}
    {config : SupernodeConfig}
    (hnew : newWithConfig S.ipnet addressPool roomPrefixLen config = .ok sn)
    (ds : List Datagram) :
    Along (Loop.step S) (fun l d => ∀ f ∈ l.frames S d, ∀ n ∈ f.1.disclosed,
      Disclosable l.sn (l.step S d).sn n f.2) ⟨sn, false⟩ ds := by
  have hQ := consistent_invariant S.ipnet
  refine Along.of_invariant_forall (I := fun l : Loop => l.sn.Rooms Room.Consistent)
    (fun _ d h => h.step hQ d) (fun l d h => ?_) ds _ ?_
  · intro f hf n hn
    unfold Loop.frames at hf
    split_ifs at hf with hstuck
    · cases hf
    · unfold Loop.step
      rw [if_neg hstuck]
      exact receive_discloses h d f hf n hn
  · intro r room hroom
    rw [(newWithConfig_ok hnew).2.2.1] at hroom
    cases hroom

/-- Node 2 joins the room of node 1: each of them is named to the other. -/
theorem rosters_stay_in_rooms_twoMembers :
    let l := run (Loop.step dottedEnv) ⟨oneSubnet, false⟩
      [register 1, sampleDatagram 1 (.createRoom ""), register 2]
    (l.frames dottedEnv (joinRoomSeven 2)).map (fun f => (f.1.disclosed, f.2)) =
        [([], .localhost 2), ([.fill 2, .fill 1], .localhost 2), ([.fill 2], .localhost 1),
          ([.fill 2], .localhost 1), ([.fill 1], .localhost 2)] ∧
      ∀ f ∈ l.frames dottedEnv (joinRoomSeven 2), ∀ n ∈ f.1.disclosed,
        Disclosable l.sn (l.step dottedEnv (joinRoomSeven 2)).sn n f.2 := by
  have hrun := rosters_stay_in_rooms (S := dottedEnv) newWithConfig_oneSubnet
    [register 1, sampleDatagram 1 (.createRoom ""), register 2, joinRoomSeven 2]
  exact ⟨by decide +kernel, hrun.2.2.2.1⟩

end Supernode

end R2N
