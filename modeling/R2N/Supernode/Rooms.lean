import R2N.Leases
import R2N.Supernode.Pool

/-!
# The rooms of a supernode

What holds of a room through its own methods holds of every room of a supernode, in every state it
reaches.  Together with the pool, which keeps the networks of the rooms apart, this makes an address
of the virtual network belong to one node of one room.

* `RoomInvariant` — what a new room has and both methods of a room keep.
* **`rooms_run`** — then every room of every state has it.
* `Seated` — a room whose leases are consistent and inside its network.
* **`virtual_addresses_unique`** — no address is leased twice, in one room or in two.
-/

namespace R2N

open Run

/-- A property of rooms that a new room has and that adding and removing members keeps. -/
structure RoomInvariant (I : Ipnet) (Q : Room → Prop) : Prop where
  new : ∀ roomId name owner virtualCidr joinToken,
    Q (Room.new roomId name owner virtualCidr joinToken)
  add : ∀ {room room' : Room} {id : NodeId} {nickname : String} {role : MemberRole}
    {ip : VirtualIp}, Q room → room.addOrReuse I id nickname role = .ok (ip, room') → Q room'
  remove : ∀ {room : Room} (id : NodeId), Q room → Q (room.removeMember id)

namespace Supernode

/-- Every room has the property. -/
def Rooms (Q : Room → Prop) (sn : Supernode) : Prop :=
  ∀ r room, sn.rooms.lookup r = some room → Q room

variable {Q : Room → Prop} {S : SupernodeEnv} {sn sn' : Supernode}

lemma Rooms.congr (h : sn.Rooms Q) (hrooms : sn'.rooms = sn.rooms) : sn'.Rooms Q := by
  intro r room hroom
  rw [hrooms] at hroom
  exact h r room hroom

lemma Rooms.insert (h : sn.Rooms Q) {r : RoomId} {room : Room} (hroom : Q room)
    (hrooms : sn'.rooms = sn.rooms.insert r room) : sn'.Rooms Q := by
  intro r' room' hlookup
  rw [hrooms, KeyMap.lookup_insert_eq] at hlookup
  split_ifs at hlookup
  · exact Option.some.inj hlookup ▸ hroom
  · exact h r' room' hlookup

section Turns

variable (hQ : RoomInvariant S.ipnet Q)

include hQ

/-- The room a join is about. -/
lemma Rooms.entryOf (h : sn.Rooms Q) {roomId : RoomId} {token roomName : Option String}
    {id : NodeId} {room : Room} (hentry : sn.entryOf S roomId token roomName id = (room, sn')) :
    Q room ∧ sn'.Rooms Q := by
  unfold Supernode.entryOf at hentry
  cases hroom : sn.rooms.lookup roomId with
  | some existing =>
      rw [hroom] at hentry
      obtain ⟨rfl, rfl⟩ := Prod.mk.inj hentry
      exact ⟨h roomId _ hroom, h⟩
  | none =>
      rw [hroom] at hentry
      obtain ⟨rfl, rfl⟩ := Prod.mk.inj hentry
      have hnew := hQ.new roomId
        (roomName.getD ("Restored-" ++ S.hex.encode roomId.bytes.toList)) id
      exact ⟨hnew _ _, h.insert (hnew _ _) rfl⟩

/-- The room with the joining node as a member. -/
lemma joinMember_keeps_invariant {room room' : Room} (hroom : Q room) {id : NodeId}
    {ip : VirtualIp} (hjoin : sn.joinMember S.ipnet room id = .ok (ip, room')) : Q room' := by
  unfold joinMember at hjoin
  split at hjoin
  · obtain ⟨-, rfl⟩ := Prod.mk.inj (Except.ok.inj hjoin)
    exact hroom
  · exact hQ.add hroom hjoin

lemma Rooms.turn (h : sn.Rooms Q) {d : Datagram} {out : ControlOutcome}
    (hturn : Turn S sn d out) : out.sn.Rooms Q := by
  have htouch : (sn.touch d.io.now d.addr).Rooms Q := h.congr (touch_rooms sn d.io.now d.addr)
  cases hturn with
  | register _ hturn =>
      cases hturn
      exact htouch.congr rfl
  | create _ hturn =>
      cases hturn with
      | unregistered => exact htouch
      | exhausted => exact htouch
      | unseated => exact htouch.congr rfl
      | created _ _ hadd => exact htouch.insert (hQ.add (hQ.new _ _ _ _ _) hadd) rfl
  | join _ hturn =>
      cases hturn with
      | unregistered => exact htouch
      | refused _ hentry => exact (htouch.entryOf hQ hentry).2
      | unseated _ hentry => exact (htouch.entryOf hQ hentry).2
      | joined _ hentry _ _ hjoin =>
          obtain ⟨hroom, hrooms⟩ := htouch.entryOf hQ hentry
          exact hrooms.insert (joinMember_keeps_invariant hQ hroom hjoin) rfl
  | leave _ hturn =>
      cases hturn with
      | ignored => exact htouch
      | left _ hroom => exact htouch.insert (hQ.remove _ (htouch _ _ hroom)) rfl
      | blocked _ hroom => exact htouch.insert (hQ.remove _ (htouch _ _ hroom)) rfl
  | other _ hstate => exact htouch.congr (by rw [hstate])

/-- A step of the receive loop keeps it. -/
lemma Rooms.step {l : Loop} (h : l.sn.Rooms Q) (d : Datagram) : (l.step S d).sn.Rooms Q := by
  unfold Loop.step
  split_ifs
  · exact h
  · exact h.turn hQ (receive_turn S l.sn d)

/-- **Every room of every state** has what its methods keep. -/
theorem rooms_run (h : sn.Rooms Q) (ds : List Datagram) :
    (run (Loop.step S) ⟨sn, false⟩ ds).sn.Rooms Q :=
  invariant_forall (I := fun l : Loop => l.sn.Rooms Q) (fun _ d hl => hl.step hQ d) ds _ h

end Turns

/-! ## Addresses -/

/-- The leases of a room are consistent and lie inside its network, if it has one. -/
def Seated (I : Ipnet) (room : Room) : Prop :=
  room.Consistent ∧ ∀ network, I.parse room.virtualCidr = some network → room.Inside I network

lemma seated_invariant (I : Ipnet) : RoomInvariant I (Seated I) where
  new := by
    intro roomId name owner virtualCidr joinToken
    have hnew := Room.consistent_new roomId name owner virtualCidr joinToken
    refine ⟨hnew, fun network hparse => ⟨hnew, hparse, ?_⟩⟩
    rintro n ip ⟨⟩
  add := by
    intro room room' id nickname role ip h hok
    have hadd := Room.addOrReuse_eq_ok.mp hok
    refine ⟨h.1.add hadd, fun network hparse => ?_⟩
    rw [(h.1.add_ok hadd).2.2.1] at hparse
    exact (h.2 network hparse).add hadd
  remove := fun id h =>
    ⟨h.1.removeMember id, fun network hparse =>
      ⟨h.1.removeMember id, hparse, (h.2 network hparse).host⟩⟩

/-- An address of four octets is its number. -/
lemma ofNat_injective {a b : ℕ} (ha : a < 2 ^ 32) (hb : b < 2 ^ 32)
    (h : VirtualIp.ofNat a = VirtualIp.ofNat b) : a = b := by
  have hlen : ∀ n, (Bytes.beBytes 4 n).length = 4 := fun n => by simp
  have hbytes : Bytes.beBytes 4 a = Bytes.beBytes 4 b := by
    rw [← ByteArr.toList_ofBytes (hlen a), ← ByteArr.toList_ofBytes (hlen b)]
    exact congrArg (fun ip : VirtualIp => ip.octets.toList) h
  have hnum := congrArg Bytes.ofBe hbytes
  rw [Bytes.ofBe_beBytes, Bytes.ofBe_beBytes] at hnum
  omega

/-- A network ends where the addresses of 32 bits end, or before. -/
lemma broadcast_lt (n : Ipv4Net) : n.broadcast < 2 ^ 32 := by
  have hend := n.network_add_size_le
  have hpos := n.size_pos
  rw [Ipv4Net.broadcast]
  omega

/-- **Addresses of the virtual network are unique.**  In every state a supernode reaches, if rooms
are made on demand only while a subnet is free, no address is leased to two nodes or in two rooms,
and every member of a room has the address leased to it. -/
theorem virtual_addresses_unique {S : SupernodeEnv} (hI : S.ipnet.RoundTrips)
    {addressPool : String} {roomPrefixLen : ℕ} {config : SupernodeConfig} {sn : Supernode}
    (hnew : newWithConfig S.ipnet addressPool roomPrefixLen config = .ok sn) (ds : List Datagram)
    (hds : Along (Loop.step S) (fun l d => l.stuck = false → l.sn.RestoresFromPool d)
      ⟨sn, false⟩ ds) :
    let rooms := (run (Loop.step S) ⟨sn, false⟩ ds).sn.rooms
    (∀ r room n m, rooms.lookup r = some room → room.members.lookup n = some m →
      m.nodeId = n ∧ room.ipLeases.lookup n = some m.virtualIp) ∧
    ∀ r r' room room' n n' ip, rooms.lookup r = some room → rooms.lookup r' = some room' →
      room.ipLeases.lookup n = some ip → room'.ipLeases.lookup n' = some ip → r = r' ∧ n = n' := by
  intro rooms
  have hagrees := poolAgrees_run hI hnew ds hds
  have hseated : ∀ r room, rooms.lookup r = some room → Seated S.ipnet room := by
    refine rooms_run (seated_invariant S.ipnet) (fun r room hroom => ?_) ds
    rw [(newWithConfig_ok hnew).2.2.1] at hroom
    cases hroom
  constructor
  · intro r room n m hroom hmember
    have hconsistent := (hseated r room hroom).1
    exact ⟨hconsistent.keyed hmember, hconsistent.lease hmember⟩
  · intro r r' room room' n n' ip hroom hroom' hlease hlease'
    obtain ⟨network, hparse, hpool⟩ := hagrees.allocated hroom
    obtain ⟨network', hparse', hpool'⟩ := hagrees.allocated hroom'
    obtain ⟨a, hlow, hhigh, rfl⟩ := ((hseated r room hroom).2 network hparse).host hlease
    obtain ⟨a', hlow', hhigh', heq⟩ := ((hseated r' room' hroom').2 network' hparse').host hlease'
    obtain rfl : a = a' := ofNat_injective (hhigh.trans (broadcast_lt network))
      (hhigh'.trans (broadcast_lt network')) heq
    -- an address that lies in both networks makes the rooms the same
    by_cases hrooms : r = r'
    · subst hrooms
      obtain rfl := Option.some.inj (hroom.symm.trans hroom')
      exact ⟨rfl, (hseated r room hroom).1.unique hlease hlease'⟩
    · exact absurd ⟨⟨hlow.le, hhigh.le⟩, ⟨hlow'.le, hhigh'.le⟩⟩
        (hagrees.valid.apart hpool hpool' hrooms a)

/-- Node 1 makes the only room of a pool, and node 2 joins it. -/
def twoMembers : List Datagram :=
  [register 1, sampleDatagram 1 (.createRoom ""), register 2, joinRoomSeven 2]

/-- Whoever has the address of node 2, in whatever room, is node 2 in room 7. -/
theorem virtual_addresses_unique_twoMembers :
    let rooms := (run (Loop.step dottedEnv) ⟨oneSubnet, false⟩ twoMembers).sn.rooms
    ∃ room, rooms.lookup (.fill 7) = some room ∧
      room.ipLeases.lookup (.fill 2) = some (VirtualIp.ofNat (10 * 2 ^ 24 + 2)) ∧
      ∀ r room' n, rooms.lookup r = some room' →
        room'.ipLeases.lookup n = some (VirtualIp.ofNat (10 * 2 ^ 24 + 2)) →
        r = .fill 7 ∧ n = .fill 2 := by
  intro rooms
  have hlease : (rooms.lookup (.fill 7)).map (fun room => room.ipLeases.lookup (.fill 2)) =
      some (some (VirtualIp.ofNat (10 * 2 ^ 24 + 2))) := by
    decide +kernel
  obtain ⟨room, hroom, hlease⟩ := Option.map_eq_some_iff.mp hlease
  have hds : Along (Loop.step dottedEnv) (fun l d => l.stuck = false → l.sn.RestoresFromPool d)
      ⟨oneSubnet, false⟩ twoMembers := by
    refine ⟨fun _ => nofun, fun _ => nofun, fun _ => nofun, fun _ => ?_, trivial⟩
    -- the room that is joined is there
    rintro _ _ _ ⟨⟩ - hnone
    have hthere : ((run (Loop.step dottedEnv) ⟨oneSubnet, false⟩
        [register 1, sampleDatagram 1 (.createRoom ""), register 2]).sn.rooms.lookup
          (.fill 7)).isSome = true := by
      decide +kernel
    simp only [run_cons, run_nil, hnone] at hthere
    cases hthere
  have hunique := (virtual_addresses_unique (S := dottedEnv) Ipnet.dotted_roundTrips
    newWithConfig_oneSubnet twoMembers hds).2
  exact ⟨room, hroom, hlease, fun r room' n hroom' hlease' =>
    hunique _ _ _ _ _ _ _ hroom' hroom hlease' hlease⟩

end Supernode

end R2N
