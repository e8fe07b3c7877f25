import R2N.Lib.Run
import R2N.AddressPool
import R2N.Supernode.Turns

/-!
# Rooms and the address pool

Two stores are written by four handlers: the rooms, each with the text of its network, and the
pool, which has the network of each room.  A room that is made on demand when the pool is exhausted
gets a fixed network that the pool knows nothing of.

* `RoomsMatchPool` — rooms and pool agree, and the networks of different rooms share no address.
* `PoolAgrees` — the invariant behind it; `PoolAgrees.replace`, `PoolAgrees.allocate` — what a
  handler does to a room.
* **`rooms_match_pool`** — they agree along every run that makes rooms on demand only while a
  subnet is free.
* **`restored_room_without_allocation`** — a join of an unknown room, with all subnets taken.
-/

namespace R2N

open Run

/-- A join changes nothing of a room but its members and leases. -/
lemma Supernode.joinMember_keeps {I : Ipnet} {sn : Supernode} {room room' : Room} {id : NodeId}
    {ip : VirtualIp} (h : sn.joinMember I room id = .ok (ip, room')) :
    ∃ members ipLeases, room' = { room with members, ipLeases } := by
  unfold joinMember at h
  split at h
  · obtain ⟨-, rfl⟩ := Prod.mk.inj (Except.ok.inj h)
    exact ⟨_, _, rfl⟩
  · obtain ⟨ipLeases, rfl⟩ := Room.addOrReuse_ok h
    exact ⟨_, _, rfl⟩

namespace Supernode

/-! ## Agreement -/

/-- Every room has the network in its `virtual_cidr` allocated, different rooms have networks that
share no address, and every allocation is that of a room. -/
structure RoomsMatchPool (I : Ipnet) (sn : Supernode) : Prop where
  allocated : ∀ r room, sn.rooms.lookup r = some room → ∃ n,
    I.parse room.virtualCidr = some n ∧ sn.addressPool.allocations.lookup room.roomId = some n
  apart : ∀ r r' room room', sn.rooms.lookup r = some room → sn.rooms.lookup r' = some room' →
    r ≠ r' → ∀ n n', I.parse room.virtualCidr = some n → I.parse room'.virtualCidr = some n' →
      n.Apart n'
  used : ∀ r, r ∈ sn.addressPool.allocations → ∃ room,
    sn.rooms.lookup r = some room ∧ room.roomId = r

/-- The invariant: each room is filed under its own id with its allocation, the allocations are
those of the rooms, and the pool is valid. -/
structure PoolAgrees (I : Ipnet) (rooms : KeyMap RoomId Room) (pool : RoomAddressPool) : Prop where
  valid : pool.Valid
  roomId : ∀ {r room}, rooms.lookup r = some room → room.roomId = r
  allocated : ∀ {r room}, rooms.lookup r = some room → ∃ n,
    I.parse room.virtualCidr = some n ∧ pool.allocations.lookup r = some n
  used : ∀ {r n}, pool.allocations.lookup r = some n → ∃ room, rooms.lookup r = some room

section PoolAgrees

variable {I : Ipnet} {rooms : KeyMap RoomId Room} {pool pool' : RoomAddressPool}

lemma PoolAgrees.roomsMatchPool {sn : Supernode} (h : PoolAgrees I sn.rooms sn.addressPool) :
    RoomsMatchPool I sn := by
  refine ⟨fun r room hroom => ?_, fun r r' room room' hroom hroom' hne n n' hn hn' => ?_,
    fun r hr => ?_⟩
  · rw [h.roomId hroom]
    exact h.allocated hroom
  · obtain ⟨m, hm, hpool⟩ := h.allocated hroom
    obtain ⟨m', hm', hpool'⟩ := h.allocated hroom'
    obtain rfl := Option.some.inj (hn.symm.trans hm)
    obtain rfl := Option.some.inj (hn'.symm.trans hm')
    exact h.valid.apart hpool hpool' hne
  · obtain ⟨n, hn⟩ := KeyMap.mem_iff_lookup.mp hr
    obtain ⟨room, hroom⟩ := h.used hn
    exact ⟨room, hroom, h.roomId hroom⟩

/-- Members come and go. -/
lemma PoolAgrees.replace (h : PoolAgrees I rooms pool) {r : RoomId} {room : Room}
    (hroom : rooms.lookup r = some room) (members : KeyMap NodeId Member)
    (ipLeases : KeyMap NodeId VirtualIp) :
    PoolAgrees I (rooms.insert r { room with members, ipLeases }) pool := by
  refine ⟨h.valid, fun {x _} hx => ?_, fun {x _} hx => ?_, fun {x _} hx => ?_⟩
  · rw [KeyMap.lookup_insert_eq] at hx
    split_ifs at hx with heq
    · obtain rfl := Option.some.inj hx
      exact (h.roomId hroom).trans heq.symm
    · exact h.roomId hx
  · rw [KeyMap.lookup_insert_eq] at hx
    split_ifs at hx with heq
    · obtain rfl := Option.some.inj hx
      obtain ⟨n, hn⟩ := h.allocated hroom
      exact ⟨n, heq ▸ hn⟩
    · exact h.allocated hx
  · rw [KeyMap.lookup_insert_eq]
    split_ifs
    · exact ⟨_, rfl⟩
    · exact h.used hx

/-- A room is written whose network has just been allocated to it. -/
lemma PoolAgrees.allocate (h : PoolAgrees I rooms pool) (room : Room) {avoid : List Ipv4Net}
    {n : Ipv4Net} (halloc : pool.allocateWithAvoidance I room.roomId avoid = .ok (n, pool'))
    (hparse : I.parse room.virtualCidr = some n) :
    PoolAgrees I (rooms.insert room.roomId room) pool' := by
  obtain ⟨hvalid, hlookup⟩ := h.valid.allocated halloc
  refine ⟨hvalid, fun {x _} hx => ?_, fun {x _} hx => ?_, fun {x _} hx => ?_⟩
  · rw [KeyMap.lookup_insert_eq] at hx
    split_ifs at hx with heq
    · obtain rfl := Option.some.inj hx
      exact heq.symm
    · exact h.roomId hx
  · rw [KeyMap.lookup_insert_eq] at hx
    rw [hlookup]
    split_ifs at hx ⊢
    · obtain rfl := Option.some.inj hx
      exact ⟨n, hparse, rfl⟩
    · exact h.allocated hx
  · rw [hlookup] at hx
    rw [KeyMap.lookup_insert_eq]
    split_ifs at hx ⊢
    · exact ⟨_, rfl⟩
    · exact h.used hx

end PoolAgrees

/-! ## Turns -/

section Turns

variable {S : SupernodeEnv} (hI : S.ipnet.RoundTrips) {sn : Supernode}

include hI

/-- A network that the pool has given out has an address for the first member of its room. -/
lemma available_of_allocated {pool pool' : RoomAddressPool} (hvalid : pool.Valid)
    {roomId : RoomId} {avoid : List Ipv4Net} {n : Ipv4Net}
    (halloc : pool.allocateWithAvoidance S.ipnet roomId avoid = .ok (n, pool')) (name : String)
    (owner : NodeId) (joinToken : String) (id : NodeId) (role : MemberRole) :
    (Room.new roomId name owner (S.ipnet.display n) joinToken).Available S.ipnet id role := by
  obtain ⟨hvalid', hlookup⟩ := hvalid.allocated halloc
  exact Room.available_new (hI n) (hvalid'.prefixLen_le ((hlookup roomId).trans (if_pos rfl))) id
    role

/-- The room a join is about is there afterwards, and agrees with the pool if it was there before
or a subnet was free. -/
lemma PoolAgrees.entryOf (h : PoolAgrees S.ipnet sn.rooms sn.addressPool) {roomId : RoomId}
    {token roomName : Option String} {id : NodeId} {room : Room} {sn' : Supernode}
    (hentry : sn.entryOf S roomId token roomName id = (room, sn'))
    (hfree : sn.rooms.lookup roomId = none → sn.addressPool.HasFree []) :
    PoolAgrees S.ipnet sn'.rooms sn'.addressPool ∧ sn'.rooms.lookup roomId = some room := by
  unfold Supernode.entryOf at hentry
  cases hroom : sn.rooms.lookup roomId with
  | some existing =>
      rw [hroom] at hentry
      obtain ⟨rfl, rfl⟩ := Prod.mk.inj hentry
      exact ⟨h, hroom⟩
  | none =>
      have hnew : sn.addressPool.allocations.lookup roomId = none := by
        rw [Option.eq_none_iff_forall_ne_some]
        intro n hn
        obtain ⟨room, hused⟩ := h.used hn
        rw [hroom] at hused
        cases hused
      rcases RoomAddressPool.allocateWithAvoidance_cases S.ipnet [] hnew with
        ⟨index, -, -, halloc⟩ | ⟨hnone, -⟩
      · rw [hroom] at hentry
        simp only [restoredRoom, RoomAddressPool.allocate, halloc] at hentry
        obtain ⟨rfl, rfl⟩ := Prod.mk.inj hentry
        exact ⟨h.allocate (Room.new _ _ _ _ _) halloc (hI _), AList.lookup_insert _⟩
      · exact absurd (hfree hroom) hnone

/-- A room is made on demand only while a subnet is free. -/
def RestoresFromPool (sn : Supernode) (d : Datagram) : Prop :=
  ∀ roomId token roomName, d.frame = .joinRoom roomId token roomName →
    sn.addrToNode.lookup d.addr ≠ none → sn.rooms.lookup roomId = none →
      sn.addressPool.HasFree []

/-- **A turn** keeps rooms and pool in agreement. -/
lemma PoolAgrees.turn (h : PoolAgrees S.ipnet sn.rooms sn.addressPool) {d : Datagram}
    (hrestores : sn.RestoresFromPool d) {out : ControlOutcome} (hturn : Turn S sn d out) :
    PoolAgrees S.ipnet out.sn.rooms out.sn.addressPool := by
  have htouch : PoolAgrees S.ipnet (sn.touch d.io.now d.addr).rooms
      (sn.touch d.io.now d.addr).addressPool := by
    rw [touch_rooms, touch_addressPool]
    exact h
  cases hturn with
  | register _ hturn =>
      cases hturn
      exact htouch
  | create _ hturn =>
      cases hturn with
      | unregistered => exact htouch
      | exhausted => exact htouch
      | unseated _ halloc hadd =>
          obtain ⟨res, hok⟩ := Room.addOrReuse_ok_iff.mpr
            (available_of_allocated hI htouch.valid halloc _ _ _ _ .owner)
          cases hadd.symm.trans hok
      | created _ halloc hadd =>
          obtain ⟨ipLeases, rfl⟩ := Room.addOrReuse_ok hadd
          exact htouch.allocate (Room.mk _ _ _ _ _ _ _) halloc (hI _)
  | @join roomId _ _ _ hframe hturn =>
      have hfree : ∀ {id}, (sn.touch d.io.now d.addr).addrToNode.lookup d.addr = some id →
          (sn.touch d.io.now d.addr).rooms.lookup roomId = none →
          (sn.touch d.io.now d.addr).addressPool.HasFree [] := by
        intro id hid hroom
        rw [touch_addrToNode] at hid
        rw [touch_rooms] at hroom
        rw [touch_addressPool]
        exact hrestores _ _ _ hframe (by rw [hid]; nofun) hroom
      cases hturn with
      | unregistered => exact htouch
      | refused hid hentry => exact (htouch.entryOf hI hentry (hfree hid)).1
      | unseated hid hentry => exact (htouch.entryOf hI hentry (hfree hid)).1
      | joined hid hentry _ _ hjoin =>
          obtain ⟨hagrees, hroom⟩ := htouch.entryOf hI hentry (hfree hid)
          obtain ⟨members, ipLeases, rfl⟩ := joinMember_keeps hjoin
          exact hagrees.replace hroom members ipLeases
  | leave _ hturn =>
      cases hturn with
      | ignored => exact htouch
      | left _ hroom => exact htouch.replace hroom _ _
      | blocked _ hroom => exact htouch.replace hroom _ _
  | other _ hstate =>
      rw [hstate]
      exact htouch

end Turns

/-! ## Runs -/

/-- A supernode that has just been started has no rooms and no allocations. -/
lemma PoolAgrees.newWithConfig {I : Ipnet} {addressPool : String} {roomPrefixLen : ℕ}
    {config : SupernodeConfig} {sn : Supernode}
    (h : newWithConfig I addressPool roomPrefixLen config = .ok sn) :
    PoolAgrees I sn.rooms sn.addressPool := by
  obtain ⟨-, -, hrooms, hpool⟩ := newWithConfig_ok h
  refine ⟨RoomAddressPool.valid_of_empty hpool, fun hx => ?_, fun hx => ?_, fun hx => ?_⟩
  · rw [hrooms] at hx
    cases hx
  · rw [hrooms] at hx
    cases hx
  · rw [hpool] at hx
    cases hx

/-- Third-party parts with the usual text form of a network. -/
def dottedEnv : SupernodeEnv := { SupernodeEnv.plain with ipnet := .dotted }

/-- A supernode whose pool is a single subnet of four addresses. -/
def oneSubnet : Supernode where
  nodes := ∅
  addrToNode := ∅
  rooms := ∅
  addressPool :=
    { pool := ⟨10 * 2 ^ 24, 30, by decide, by decide⟩, roomPrefixLen := 30, allocations := ∅
      prefixLen_le := by decide, roomPrefixLen_le := by decide }
  config := { peers := [], publicAddr := none }

lemma newWithConfig_oneSubnet :
    newWithConfig .dotted "10.0.0.0/30" 30 { peers := [], publicAddr := none } = .ok oneSubnet := by
  have hparse : Ipnet.dotted.parse "10.0.0.0/30" = Ipv4Net.new (10 * 2 ^ 24) 30 := by decide +kernel
  unfold newWithConfig RoomAddressPool.new
  rw [hparse]
  rfl

/-- Node `b` joins room 7 with its token. -/
def joinRoomSeven (b : UInt8) : Datagram :=
  sampleDatagram b (.joinRoom (.fill 7) (some (lowerHex sampleIo.joinToken.toList)) none)

/-- Node 1 asks to join a room. -/
def joinSample (room : UInt8) : Datagram := sampleDatagram 1 (.joinRoom (.fill room) none none)

/-- The tables agree along every run that makes rooms on demand only while a subnet is free. -/
lemma poolAgrees_run {S : SupernodeEnv} (hI : S.ipnet.RoundTrips) {addressPool : String}
    {roomPrefixLen : ℕ} {config : SupernodeConfig} {sn : Supernode}
    (hnew : newWithConfig S.ipnet addressPool roomPrefixLen config = .ok sn) (ds : List Datagram)
    (hds : Along (Loop.step S) (fun l d => l.stuck = false → l.sn.RestoresFromPool d)
      ⟨sn, false⟩ ds) :
    PoolAgrees S.ipnet (run (Loop.step S) ⟨sn, false⟩ ds).sn.rooms
      (run (Loop.step S) ⟨sn, false⟩ ds).sn.addressPool := by
  refine invariant (I := fun l : Loop => PoolAgrees S.ipnet l.sn.rooms l.sn.addressPool)
    (fun l d h hrestores => ?_) ds _ (PoolAgrees.newWithConfig hnew) hds
  unfold Loop.step
  split_ifs with hstuck
  · exact h
  · exact h.turn hI (hrestores (eq_false_of_ne_true hstuck)) (receive_turn S l.sn d)

/-- **Rooms and pool agree** in every state a supernode reaches, if rooms are made on demand only
while a subnet is free. -/
theorem rooms_match_pool {S : SupernodeEnv} (hI : S.ipnet.RoundTrips) {addressPool : String}
    {roomPrefixLen : ℕ} {config : SupernodeConfig} {sn : Supernode}
    (hnew : newWithConfig S.ipnet addressPool roomPrefixLen config = .ok sn) (ds : List Datagram)
    (hds : Along (Loop.step S) (fun l d => l.stuck = false → l.sn.RestoresFromPool d)
      ⟨sn, false⟩ ds) :
    RoomsMatchPool S.ipnet (run (Loop.step S) ⟨sn, false⟩ ds).sn :=
  (poolAgrees_run hI hnew ds hds).roomsMatchPool

/-- A room is made on demand from the only subnet of the pool. -/
theorem rooms_match_pool_restored :
    RoomsMatchPool .dotted
      (run (Loop.step dottedEnv) ⟨oneSubnet, false⟩ [register 1, joinSample 9]).sn := by
  refine rooms_match_pool (S := dottedEnv) Ipnet.dotted_roundTrips newWithConfig_oneSubnet
    [register 1, joinSample 9] ⟨fun _ => nofun, fun _ _ _ _ _ _ _ => ?_, trivial⟩
  exact ⟨0, by decide, by decide +kernel, nofun⟩

/-- **A join of an unknown room, with all subnets taken**: the room is made with a network that is
not allocated, and so is the next one. -/
theorem restored_room_without_allocation :
    newWithConfig .dotted "10.0.0.0/30" 30 { peers := [], publicAddr := none } = .ok oneSubnet ∧
    ¬ RoomsMatchPool .dotted (run (Loop.step dottedEnv) ⟨oneSubnet, false⟩
      [register 1, sampleDatagram 1 (.createRoom ""), joinSample 8, joinSample 9]).sn := by
  refine ⟨newWithConfig_oneSubnet, fun h => ?_⟩
  set sn := (run (Loop.step dottedEnv) ⟨oneSubnet, false⟩
      [register 1, sampleDatagram 1 (.createRoom ""), joinSample 8, joinSample 9]).sn with hsn
  have hlost : (sn.rooms.lookup (.fill 9)).map (fun room =>
      sn.addressPool.allocations.lookup room.roomId) = some none := by
    rw [hsn]
    decide +kernel
  obtain ⟨room, hroom, hnone⟩ := Option.map_eq_some_iff.mp hlost
  obtain ⟨n, -, hn⟩ := h.allocated _ room hroom
  rw [hnone] at hn
  cases hn

end Supernode

end R2N
