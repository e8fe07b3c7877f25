import R2N.Common
import R2N.Lib.Bytes
import R2N.Lib.KeyMap

/-!
# Rooms and the pool of room subnets

`r2n-room`.  An IPv4 network is its address and prefix length; a `u32` address is a natural number
below `2 ^ 32`.  The text form of a network is the `ipnet` crate's (`Ipnet`).

* `Room`, `Room.addOrReuseMember`, `Room.removeMember` — members and their leased addresses.
* `RoomAddressPool`, `allocateWithAvoidance`, `release` — the subnets of the rooms.
* `addOrReuseMember_error`, `addOrReuse_ok` — what a call leaves behind.
-/

namespace R2N

/-! ## Networks -/

/-- `ipnet::Ipv4Net`. -/
structure Ipv4Net where
  addr : ℕ
  prefixLen : ℕ
  addr_lt : addr < 2 ^ 32
  prefixLen_le : prefixLen ≤ 32
deriving DecidableEq

namespace Ipv4Net

/-- `Ipv4Net::new`; the address is a `u32`. -/
def new (addr prefixLen : ℕ) : Option Ipv4Net :=
  if h : prefixLen ≤ 32 then
    some ⟨addr % 2 ^ 32, prefixLen, Nat.mod_lt _ (by decide), h⟩
  else none

/-- How many addresses the network has. -/
def size (n : Ipv4Net) : ℕ := 2 ^ (32 - n.prefixLen)

def network (n : Ipv4Net) : ℕ := n.addr / n.size * n.size

def broadcast (n : Ipv4Net) : ℕ := n.network + (n.size - 1)

lemma size_pos (n : Ipv4Net) : 0 < n.size := Nat.two_pow_pos _

/-- A network ends inside the address space. -/
lemma network_add_size_le (n : Ipv4Net) : n.network + n.size ≤ 2 ^ 32 := by
  have hword : 2 ^ n.prefixLen * n.size = 2 ^ 32 := by
    rw [size, ← Nat.pow_add, Nat.add_sub_cancel' n.prefixLen_le]
  have hblock : n.addr / n.size < 2 ^ n.prefixLen := by
    rw [Nat.div_lt_iff_lt_mul n.size_pos, hword]
    exact n.addr_lt
  calc n.network + n.size = (n.addr / n.size + 1) * n.size := by rw [network, Nat.succ_mul]
    _ ≤ 2 ^ n.prefixLen * n.size := Nat.mul_le_mul_right _ hblock
    _ = 2 ^ 32 := hword

end Ipv4Net

def ipv4NetsOverlap (a b : Ipv4Net) : Bool :=
  a.network ≤ b.broadcast && b.network ≤ a.broadcast

/-- `Ipv4Net`'s `FromStr` and `Display`. -/
structure Ipnet where
  parse : String → Option Ipv4Net
  display : Ipv4Net → String

/-- A text form in which every octet and the prefix length are one character each, for runs that
are evaluated. -/
def Ipnet.plain : Ipnet where
  parse := fun s =>
    match s.toList.map Char.toNat with
    | [a, b, c, d, prefixLen] => Ipv4Net.new (((a * 256 + b) * 256 + c) * 256 + d) prefixLen
    | _ => none
  display := fun n => String.ofList
    ([n.addr / 2 ^ 24, n.addr / 2 ^ 16 % 256, n.addr / 2 ^ 8 % 256, n.addr % 256,
      n.prefixLen].map Char.ofNat)

/-- `Ipv4Addr::from(u32).octets()`. -/
def VirtualIp.ofNat (n : ℕ) : VirtualIp := ⟨.ofBytes 4 (Bytes.beBytes 4 n)⟩

/-! ## Rooms -/

inductive MemberRole where
  | owner
  | admin
  | guest
deriving DecidableEq

structure Member where
  nodeId : NodeId
  virtualIp : VirtualIp
  nickname : String
  role : MemberRole
deriving DecidableEq

inductive RoomError where
  | invalidCidr (cidr : String)
  | addressPoolExhausted
  | invalidAddressPool (text : String)
deriving DecidableEq

structure Room where
  roomId : RoomId
  name : String
  owner : NodeId
  virtualCidr : String
  joinToken : String
  members : KeyMap NodeId Member
  ipLeases : KeyMap NodeId VirtualIp
deriving DecidableEq

namespace Room

def new (roomId : RoomId) (name : String) (owner : NodeId) (virtualCidr joinToken : String) :
    Room :=
  { roomId, name, owner, virtualCidr, joinToken, members := ∅, ipLeases := ∅ }

def addMember (room : Room) (member : Member) : Room :=
  { room with
    ipLeases := room.ipLeases.insert member.nodeId member.virtualIp
    members := room.members.insert member.nodeId member }

def removeMember (room : Room) (nodeId : NodeId) : Room :=
  { room with members := room.members.erase nodeId }

/-- The loop of `allocate_ip` from the host number `host` on; `fuel` bounds its rounds. -/
def findHost (network : Ipv4Net) (used : List VirtualIp) : ℕ → ℕ → Option VirtualIp
  | 0, _ => none
  | fuel + 1, host =>
      -- `network_u32.saturating_add(host)`
      let candidate := min (network.network + host) (2 ^ 32 - 1)
      if candidate ≥ network.broadcast then none
      else if VirtualIp.ofNat candidate ∉ used then some (VirtualIp.ofNat candidate)
      else findHost network used fuel (host + 1)

def preferredHost (role : MemberRole) : ℕ := if role = .owner then 1 else 2

/-- `allocate_ip`, with the room that it leaves. -/
def allocateIp (I : Ipnet) (room : Room) (nodeId : NodeId) (role : MemberRole) :
    Except RoomError VirtualIp × Room :=
  let leased := (room.ipLeases.lookup nodeId).filter fun ip =>
    !(KeyMap.values room.members).any fun member =>
      member.nodeId ≠ nodeId ∧ member.virtualIp = ip
  match leased with
  | some ip => (.ok ip, room)
  | none =>
      match I.parse room.virtualCidr with
      | none => (.error (.invalidCidr room.virtualCidr), room)
      | some network =>
          let used := (KeyMap.values room.members).map Member.virtualIp ++
            KeyMap.values room.ipLeases
          match findHost network used network.size (preferredHost role) with
          | some candidate =>
              (.ok candidate, { room with ipLeases := room.ipLeases.insert nodeId candidate })
          | none => (.error .addressPoolExhausted, room)

/-- `add_or_reuse_member`, with the room that it leaves. -/
def addOrReuseMember (I : Ipnet) (room : Room) (nodeId : NodeId) (nickname : String)
    (role : MemberRole) : Except RoomError VirtualIp × Room :=
  match room.allocateIp I nodeId role with
  | (.error e, room) => (.error e, room)
  | (.ok virtualIp, room) => (.ok virtualIp, room.addMember { nodeId, virtualIp, nickname, role })

/-- `add_or_reuse_member(..)?`: an error is passed on.  It leaves the room as it was, by
`addOrReuseMember_error`. -/
def addOrReuse (I : Ipnet) (room : Room) (nodeId : NodeId) (nickname : String)
    (role : MemberRole) : Except RoomError (VirtualIp × Room) :=
  match room.addOrReuseMember I nodeId nickname role with
  | (.error e, _) => .error e
  | (.ok virtualIp, room) => .ok (virtualIp, room)

/-! ### The search -/

/-- The host numbers that are tried: from the preferred one up to the broadcast address. -/
def hosts (network : Ipv4Net) (role : MemberRole) : List ℕ :=
  List.range' (preferredHost role) (network.size - 1 - preferredHost role)

/-- The loop, with as many rounds as there are addresses left, tries them in turn. -/
lemma findHost_eq_range' (network : Ipv4Net) (used : List VirtualIp) (fuel host : ℕ)
    (hfuel : network.size ≤ fuel + host) :
    findHost network used fuel host =
      ((List.range' host (network.size - 1 - host)).map fun host =>
        VirtualIp.ofNat (network.network + host)).find? fun candidate => candidate ∉ used := by
  have hend := network.network_add_size_le
  have hpos := network.size_pos
  have hbroadcast : network.broadcast = network.network + (network.size - 1) := rfl
  induction fuel generalizing host with
  | zero =>
      rw [show network.size - 1 - host = 0 by omega]
      rfl
  | succ fuel ih =>
      simp only [findHost]
      by_cases hlast : min (network.network + host) (2 ^ 32 - 1) ≥ network.broadcast
      · rw [if_pos hlast, show network.size - 1 - host = 0 by omega]
        rfl
      · have hmin : min (network.network + host) (2 ^ 32 - 1) = network.network + host := by omega
        obtain ⟨left, hleft⟩ : ∃ left, network.size - 1 - host = left + 1 :=
          ⟨network.size - 2 - host, by omega⟩
        rw [if_neg hlast, hmin, hleft, List.range'_succ, List.map_cons]
        by_cases hused : VirtualIp.ofNat (network.network + host) ∉ used
        · rw [if_pos hused, List.find?_cons_of_pos (by simpa using hused)]
        · rw [if_neg hused, List.find?_cons_of_neg (by simpa using hused), ih (host + 1) (by omega),
            show network.size - 1 - (host + 1) = left by omega]

lemma findHost_eq_find? (network : Ipv4Net) (used : List VirtualIp) (role : MemberRole) :
    findHost network used network.size (preferredHost role) =
      ((hosts network role).map fun host =>
        VirtualIp.ofNat (network.network + host)).find? fun candidate => candidate ∉ used :=
  findHost_eq_range' network used _ _ (Nat.le_add_right _ _)

/-! ### What the calls leave behind -/

/-- Allocating changes nothing but the leases, and those only if it succeeds. -/
lemma allocateIp_room (I : Ipnet) (room : Room) (nodeId : NodeId) (role : MemberRole) :
    (∃ e, room.allocateIp I nodeId role = (.error e, room)) ∨
      ∃ ip ipLeases, room.allocateIp I nodeId role = (.ok ip, { room with ipLeases }) := by
  unfold allocateIp
  simp only
  split
  · exact .inr ⟨_, room.ipLeases, rfl⟩
  · split
    · exact .inl ⟨_, rfl⟩
    · split
      · exact .inr ⟨_, _, rfl⟩
      · exact .inl ⟨_, rfl⟩

/-- **A call that fails leaves the room as it was.** -/
lemma addOrReuseMember_error {I : Ipnet} {room : Room} {nodeId : NodeId} {nickname : String}
    {role : MemberRole} {e : RoomError}
    (h : (room.addOrReuseMember I nodeId nickname role).1 = .error e) :
    (room.addOrReuseMember I nodeId nickname role).2 = room := by
  unfold addOrReuseMember at h ⊢
  rcases room.allocateIp_room I nodeId role with ⟨e', halloc⟩ | ⟨ip, ipLeases, halloc⟩
  · rw [halloc]
  · rw [halloc] at h
    cases h

lemma addOrReuse_eq_ok {I : Ipnet} {room room' : Room} {nodeId : NodeId} {nickname : String}
    {role : MemberRole} {ip : VirtualIp} :
    room.addOrReuse I nodeId nickname role = .ok (ip, room') ↔
      room.addOrReuseMember I nodeId nickname role = (.ok ip, room') := by
  unfold addOrReuse
  rcases room.addOrReuseMember I nodeId nickname role with ⟨result, room₁⟩
  cases result <;> simp

/-- **Adding a member**: it has the address that is returned, and only members and leases
change. -/
lemma addOrReuse_ok {I : Ipnet} {room room' : Room} {nodeId : NodeId} {nickname : String}
    {role : MemberRole} {ip : VirtualIp}
    (h : room.addOrReuse I nodeId nickname role = .ok (ip, room')) :
    ∃ ipLeases, room' =
      { room with
        members := room.members.insert nodeId { nodeId, virtualIp := ip, nickname, role }
        ipLeases } := by
  rw [addOrReuse_eq_ok, addOrReuseMember] at h
  rcases room.allocateIp_room I nodeId role with ⟨e, halloc⟩ | ⟨ip', ipLeases, halloc⟩
  · rw [halloc] at h
    cases h
  · rw [halloc] at h
    obtain ⟨hip, rfl⟩ := Prod.mk.inj h
    obtain rfl := Except.ok.inj hip
    exact ⟨_, rfl⟩

end Room

/-! ## The address pool -/

/-- Room subnets of one prefix length, cut from one network. -/
structure RoomAddressPool where
  pool : Ipv4Net
  roomPrefixLen : ℕ
  allocations : KeyMap RoomId Ipv4Net
  prefixLen_le : pool.prefixLen ≤ roomPrefixLen
  roomPrefixLen_le : roomPrefixLen ≤ 30
deriving DecidableEq

namespace RoomAddressPool

def new (I : Ipnet) (pool : String) (roomPrefixLen : ℕ) : Except RoomError RoomAddressPool :=
  match I.parse pool with
  | none => .error (.invalidAddressPool pool)
  | some network =>
      if h : network.prefixLen ≤ roomPrefixLen ∧ roomPrefixLen ≤ 30 then
        .ok { pool := network, roomPrefixLen, allocations := ∅, prefixLen_le := h.1,
              roomPrefixLen_le := h.2 }
      else
        .error (.invalidAddressPool (I.display network ++ " with room prefix " ++
          toString roomPrefixLen))

/-- The default pool, `192.168.0.0/16` in rooms of 256 addresses. -/
def default : RoomAddressPool where
  pool := ⟨192 * 2 ^ 24 + 168 * 2 ^ 16, 16, by decide, by decide⟩
  roomPrefixLen := 24
  allocations := ∅
  prefixLen_le := by decide
  roomPrefixLen_le := by decide

/-- The order in which the subnets are tried. -/
def candidateIndices (pool : Ipv4Net) (roomPrefixLen roomCount : ℕ) : List ℕ :=
  if pool.network = 192 * 2 ^ 24 + 168 * 2 ^ 16 ∧ pool.prefixLen = 16 ∧ roomPrefixLen = 24 ∧
      roomCount = 256 then
    List.range' 200 56 ++ List.range' 4 27 ++ List.range' 32 168 ++ [0, 1, 2, 3, 31]
  else List.range' 0 roomCount

/-- `1u32.checked_shl(n).unwrap_or(0)`. -/
def shlOne (n : ℕ) : ℕ := if n < 32 then 2 ^ n else 0

/-- The loop of `allocate_with_avoidance` over the indices that are left. -/
def findSubnet (I : Ipnet) (p : RoomAddressPool) (avoid : List Ipv4Net) :
    List ℕ → Except RoomError Ipv4Net
  | [] => .error .addressPoolExhausted
  | index :: rest =>
      match Ipv4Net.new (p.pool.network + index * shlOne (32 - p.roomPrefixLen))
          p.roomPrefixLen with
      | none => .error (.invalidAddressPool (I.display p.pool))
      | some candidate =>
          if candidate ∉ KeyMap.values p.allocations ∧
              ¬ avoid.any fun blocked => ipv4NetsOverlap blocked candidate then
            .ok candidate
          else findSubnet I p avoid rest

def allocateWithAvoidance (I : Ipnet) (p : RoomAddressPool) (roomId : RoomId)
    (avoid : List Ipv4Net) : Except RoomError (Ipv4Net × RoomAddressPool) :=
  match p.allocations.lookup roomId with
  | some existing => .ok (existing, p)
  | none =>
      let roomCount := shlOne (p.roomPrefixLen - p.pool.prefixLen)
      match p.findSubnet I avoid (candidateIndices p.pool p.roomPrefixLen roomCount) with
      | .error e => .error e
      | .ok candidate =>
          .ok (candidate, { p with allocations := p.allocations.insert roomId candidate })

def allocate (I : Ipnet) (p : RoomAddressPool) (roomId : RoomId) :
    Except RoomError (Ipv4Net × RoomAddressPool) :=
  p.allocateWithAvoidance I roomId []

def release (p : RoomAddressPool) (roomId : RoomId) : RoomAddressPool :=
  { p with allocations := p.allocations.erase roomId }

end RoomAddressPool

end R2N
