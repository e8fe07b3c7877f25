import R2N.AddressPool

/-!
# The leases of a room

A room is a pair of tables, the members and the addresses that were ever given out, and two
methods: `add_or_reuse_member` and `remove_member`.  This file follows both tables over every
history of calls.

* `Room.Consistent` — the members' addresses are their leases, and no address is leased twice.  In
  such a room the reuse test of `allocate_ip` is just a lookup, and the search just avoids the
  leases (`Consistent.add_ok`, `Consistent.add_error`).
* **`room_leases_sound`** — leases are unique, inside the room's network, and run out only if every
  host address is leased.
* **`lease_stable`** — a node keeps its address for ever, and nobody else gets it.
-/

namespace R2N

namespace Room

/-- A call of one of the room's methods. -/
inductive Op where
  | addOrReuseMember (nodeId : NodeId) (nickname : String) (role : MemberRole)
  | removeMember (nodeId : NodeId)

/-- The room after a call. -/
def step (I : Ipnet) (room : Room) : Op → Room
  | .addOrReuseMember nodeId nickname role => (room.addOrReuseMember I nodeId nickname role).2
  | .removeMember nodeId => room.removeMember nodeId

/-! ## Consistent rooms -/

/-- Members are filed under their node id and have the address leased to them, and no address is
leased to two nodes. -/
structure Consistent (room : Room) : Prop where
  keyed : ∀ {n m}, room.members.lookup n = some m → m.nodeId = n
  lease : ∀ {n m}, room.members.lookup n = some m → room.ipLeases.lookup n = some m.virtualIp
  unique : ∀ {n n' ip}, room.ipLeases.lookup n = some ip → room.ipLeases.lookup n' = some ip →
    n = n'

lemma consistent_new (roomId : RoomId) (name : String) (owner : NodeId)
    (virtualCidr joinToken : String) :
    (Room.new roomId name owner virtualCidr joinToken).Consistent := by
  constructor
  · rintro n m ⟨⟩
  · rintro n m ⟨⟩
  · rintro n n' ip ⟨⟩

/-- Nobody else has a node's lease, so the reuse test succeeds whenever there is one. -/
lemma Consistent.reuse {room : Room} (h : room.Consistent) (nodeId : NodeId) :
    (room.ipLeases.lookup nodeId).filter (fun ip =>
      !(KeyMap.values room.members).any fun member =>
        member.nodeId ≠ nodeId ∧ member.virtualIp = ip) = room.ipLeases.lookup nodeId := by
  cases hlease : room.ipLeases.lookup nodeId with
  | none => rfl
  | some ip =>
      rw [Option.filter_eq_some_iff]
      refine ⟨rfl, ?_⟩
      simp only [Bool.not_eq_true', List.any_eq_false, decide_eq_true_eq]
      rintro member hmember ⟨hne, rfl⟩
      obtain ⟨n, hn⟩ := KeyMap.mem_values.mp hmember
      rw [h.keyed hn] at hne
      exact hne (h.unique (h.lease hn) hlease)

/-- A member's address is leased, so the search just avoids the leases. -/
lemma Consistent.mem_used {room : Room} (h : room.Consistent) {ip : VirtualIp} :
    ip ∈ (KeyMap.values room.members).map Member.virtualIp ++ KeyMap.values room.ipLeases ↔
      ip ∈ KeyMap.values room.ipLeases := by
  rw [List.mem_append, or_iff_right_iff_imp]
  intro hmem
  obtain ⟨member, hmember, rfl⟩ := List.mem_map.mp hmem
  obtain ⟨n, hn⟩ := KeyMap.mem_values.mp hmember
  exact KeyMap.mem_values.mpr ⟨n, h.lease hn⟩

/-- **How an address is found**: the one leased to the node, or, for a node without a lease, a host
address that is not leased. -/
lemma Consistent.allocateIp_cases (I : Ipnet) {room : Room} (h : room.Consistent)
    (nodeId : NodeId) (role : MemberRole) :
    (∃ ip, room.ipLeases.lookup nodeId = some ip ∧
      room.allocateIp I nodeId role = (.ok ip, room)) ∨
    room.ipLeases.lookup nodeId = none ∧
      ((I.parse room.virtualCidr = none ∧
          room.allocateIp I nodeId role = (.error (.invalidCidr room.virtualCidr), room)) ∨
        ∃ network, I.parse room.virtualCidr = some network ∧
          ((∃ host ∈ hosts network role,
              VirtualIp.ofNat (network.network + host) ∉ KeyMap.values room.ipLeases ∧
              room.allocateIp I nodeId role = (.ok (VirtualIp.ofNat (network.network + host)),
                { room with
                  ipLeases := room.ipLeases.insert nodeId
                    (VirtualIp.ofNat (network.network + host)) })) ∨
            (∀ host ∈ hosts network role,
              VirtualIp.ofNat (network.network + host) ∈ KeyMap.values room.ipLeases) ∧
              room.allocateIp I nodeId role = (.error .addressPoolExhausted, room))) := by
  unfold allocateIp
  simp only [h.reuse nodeId, findHost_eq_find?, h.mem_used]
  cases hlease : room.ipLeases.lookup nodeId with
  | some ip => exact .inl ⟨ip, rfl, rfl⟩
  | none =>
      refine .inr ⟨rfl, ?_⟩
      cases hparse : I.parse room.virtualCidr with
      | none => exact .inl ⟨rfl, rfl⟩
      | some network =>
          refine .inr ⟨network, rfl, ?_⟩
          simp only
          cases hfind : ((hosts network role).map fun host =>
              VirtualIp.ofNat (network.network + host)).find? fun candidate =>
                decide (candidate ∉ KeyMap.values room.ipLeases) with
          | some candidate =>
              obtain ⟨host, hhost, rfl⟩ := List.mem_map.mp (List.mem_of_find?_eq_some hfind)
              have hunused := List.find?_some hfind
              exact .inl ⟨host, hhost, of_decide_eq_true hunused, rfl⟩
          | none =>
              refine .inr ⟨fun host hhost => ?_, rfl⟩
              have hused := List.find?_eq_none.mp hfind _ (List.mem_map_of_mem hhost)
              simpa using hused

/-- **A successful call**: the address is the node's lease or a host address nobody has, and it is
the node's lease from then on. -/
lemma Consistent.add_ok {I : Ipnet} {room room' : Room} (h : room.Consistent) {nodeId : NodeId}
    {nickname : String} {role : MemberRole} {ip : VirtualIp}
    (hok : room.addOrReuseMember I nodeId nickname role = (.ok ip, room')) :
    (room.ipLeases.lookup nodeId = some ip ∨
      room.ipLeases.lookup nodeId = none ∧ ip ∉ KeyMap.values room.ipLeases ∧
        ∃ network, I.parse room.virtualCidr = some network ∧
          ∃ host ∈ hosts network role, ip = VirtualIp.ofNat (network.network + host)) ∧
    room'.members = room.members.insert nodeId { nodeId, virtualIp := ip, nickname, role } ∧
    room'.virtualCidr = room.virtualCidr ∧
    ∀ n, room'.ipLeases.lookup n = if n = nodeId then some ip else room.ipLeases.lookup n := by
  unfold addOrReuseMember at hok
  rcases h.allocateIp_cases I nodeId role with ⟨ip', hlease, heq⟩ | ⟨hnone, hcases⟩
  · rw [heq] at hok
    obtain ⟨⟨⟩, rfl⟩ := Prod.mk.inj hok
    exact ⟨.inl hlease, rfl, rfl, fun n => KeyMap.lookup_insert_eq _ _ _ _⟩
  · rcases hcases with ⟨-, heq⟩ | ⟨network, hparse, ⟨host, hhost, hunused, heq⟩ | ⟨-, heq⟩⟩
    · rw [heq] at hok
      cases hok
    · rw [heq] at hok
      obtain ⟨⟨⟩, rfl⟩ := Prod.mk.inj hok
      refine ⟨.inr ⟨hnone, hunused, network, hparse, host, hhost, rfl⟩, rfl, rfl, fun n => ?_⟩
      -- the lease is written twice, by `allocate_ip` and by `add_member`
      simp only [addMember, KeyMap.lookup_insert_eq]
      split_ifs <;> rfl
    · rw [heq] at hok
      cases hok

/-- **A failed call**: the node has no lease, and the network is not one or has no address left. -/
lemma Consistent.add_error {I : Ipnet} {room : Room} (h : room.Consistent) {nodeId : NodeId}
    {nickname : String} {role : MemberRole}
    (herror : (room.addOrReuseMember I nodeId nickname role).1 = .error .addressPoolExhausted) :
    ∃ network, I.parse room.virtualCidr = some network ∧ ∀ host ∈ hosts network role,
      VirtualIp.ofNat (network.network + host) ∈ KeyMap.values room.ipLeases := by
  unfold addOrReuseMember at herror
  rcases h.allocateIp_cases I nodeId role with ⟨ip, -, heq⟩ | ⟨-, hcases⟩
  · rw [heq] at herror
    cases herror
  · rcases hcases with ⟨-, heq⟩ | ⟨network, hparse, ⟨host, -, -, heq⟩ | ⟨hall, -⟩⟩
    · rw [heq] at herror
      cases herror
    · rw [heq] at herror
      cases herror
    · exact ⟨network, hparse, hall⟩

/-- The address of a successful call is nobody else's. -/
lemma Consistent.add_exclusive {I : Ipnet} {room room' : Room} (h : room.Consistent)
    {nodeId : NodeId} {nickname : String} {role : MemberRole} {ip : VirtualIp}
    (hok : room.addOrReuseMember I nodeId nickname role = (.ok ip, room')) {n : NodeId}
    (hn : room.ipLeases.lookup n = some ip) : n = nodeId := by
  rcases (h.add_ok hok).1 with hlease | ⟨-, hunused, -⟩
  · exact h.unique hn hlease
  · exact absurd (KeyMap.mem_values.mpr ⟨n, hn⟩) hunused

lemma Consistent.add {I : Ipnet} {room room' : Room} (h : room.Consistent) {nodeId : NodeId}
    {nickname : String} {role : MemberRole} {ip : VirtualIp}
    (hok : room.addOrReuseMember I nodeId nickname role = (.ok ip, room')) :
    room'.Consistent := by
  obtain ⟨-, hmembers, -, hleases⟩ := h.add_ok hok
  constructor
  · intro n m hn
    rw [hmembers, KeyMap.lookup_insert_eq] at hn
    split_ifs at hn with heq
    · obtain rfl := Option.some.inj hn
      exact heq.symm
    · exact h.keyed hn
  · intro n m hn
    rw [hmembers, KeyMap.lookup_insert_eq] at hn
    rw [hleases]
    split_ifs at hn ⊢ with heq
    · obtain rfl := Option.some.inj hn
      rfl
    · exact h.lease hn
  · intro n n' ip' hn hn'
    rw [hleases] at hn hn'
    split_ifs at hn hn' with heq heq' heq'
    · rw [heq, heq']
    · obtain rfl := Option.some.inj hn
      exact absurd (h.add_exclusive hok hn') heq'
    · obtain rfl := Option.some.inj hn'
      exact absurd (h.add_exclusive hok hn) heq
    · exact h.unique hn hn'

lemma Consistent.removeMember {room : Room} (h : room.Consistent) (nodeId : NodeId) :
    (room.removeMember nodeId).Consistent := by
  have hof : ∀ {n m}, (room.removeMember nodeId).members.lookup n = some m →
      room.members.lookup n = some m := by
    intro n m hn
    rw [Room.removeMember, KeyMap.lookup_erase_eq] at hn
    split_ifs at hn
    exact hn
  exact ⟨fun hn => h.keyed (hof hn), fun hn => h.lease (hof hn), h.unique⟩

lemma Consistent.step {I : Ipnet} {room : Room} (h : room.Consistent) (op : Op) :
    (room.step I op).Consistent := by
  cases op with
  | addOrReuseMember nodeId nickname role =>
      simp only [Room.step]
      cases hadd : (room.addOrReuseMember I nodeId nickname role).1 with
      | error e => rwa [addOrReuseMember_error hadd]
      | ok ip => exact h.add (Prod.ext hadd rfl)
  | removeMember nodeId => exact h.removeMember nodeId

/-! ## The network of a room -/

/-- Host numbers of a network are addresses between its first and its last one. -/
lemma mem_hosts {network : Ipv4Net} {role : MemberRole} {host : ℕ} :
    host ∈ hosts network role ↔
      (if role = .owner then 1 else 2) ≤ host ∧ network.network + host < network.broadcast := by
  simp only [hosts, preferredHost, List.mem_range'_1, Ipv4Net.broadcast]
  split_ifs <;> omega

/-- The leased addresses are host addresses of `network`, the network of the room. -/
structure Inside (I : Ipnet) (network : Ipv4Net) (room : Room) : Prop where
  consistent : room.Consistent
  parse : I.parse room.virtualCidr = some network
  host : ∀ {n ip}, room.ipLeases.lookup n = some ip →
    ∃ a, network.network < a ∧ a < network.broadcast ∧ ip = VirtualIp.ofNat a

lemma Inside.add {I : Ipnet} {network : Ipv4Net} {room room' : Room}
    (h : room.Inside I network) {nodeId : NodeId} {nickname : String} {role : MemberRole}
    {ip : VirtualIp} (hok : room.addOrReuseMember I nodeId nickname role = (.ok ip, room')) :
    room'.Inside I network := by
  obtain ⟨hip, -, hcidr, hleases⟩ := h.consistent.add_ok hok
  have hnew : ∃ a, network.network < a ∧ a < network.broadcast ∧ ip = VirtualIp.ofNat a := by
    rcases hip with hlease | ⟨-, -, network', hparse, host, hhost, rfl⟩
    · exact h.host hlease
    · obtain rfl := Option.some.inj (h.parse.symm.trans hparse)
      obtain ⟨hpos, hlt⟩ := mem_hosts.mp hhost
      refine ⟨_, ?_, hlt, rfl⟩
      split_ifs at hpos <;> omega
  refine ⟨h.consistent.add hok, by rw [hcidr, h.parse], ?_⟩
  intro n ip' hn
  rw [hleases] at hn
  split_ifs at hn
  · obtain rfl := Option.some.inj hn
    exact hnew
  · exact h.host hn

lemma Inside.step {I : Ipnet} {network : Ipv4Net} {room : Room} (h : room.Inside I network)
    (op : Op) : (room.step I op).Inside I network := by
  cases op with
  | addOrReuseMember nodeId nickname role =>
      simp only [Room.step]
      cases hadd : (room.addOrReuseMember I nodeId nickname role).1 with
      | error e => rwa [addOrReuseMember_error hadd]
      | ok ip => exact h.add (Prod.ext hadd rfl)
  | removeMember nodeId => exact ⟨h.consistent.removeMember nodeId, h.parse, h.host⟩

/-- **The leases of a room over every history of calls.**  No address is leased twice, a member's
address is its lease, every leased address lies strictly between the first and the last one of the
network, and a call finds no address only if all those it may take are leased; the room then stays
as it is. -/
theorem room_leases_sound {I : Ipnet} (roomId : RoomId) (name : String) (owner : NodeId)
    {virtualCidr : String} (joinToken : String) {network : Ipv4Net}
    (hparse : I.parse virtualCidr = some network) (ops : List Op) :
    let room := Run.run (step I) (Room.new roomId name owner virtualCidr joinToken) ops
    (∀ n n' ip, room.ipLeases.lookup n = some ip → room.ipLeases.lookup n' = some ip → n = n') ∧
    (∀ n m, room.members.lookup n = some m → room.ipLeases.lookup n = some m.virtualIp) ∧
    (∀ n ip, room.ipLeases.lookup n = some ip →
      ∃ a, network.network < a ∧ a < network.broadcast ∧ ip = VirtualIp.ofNat a) ∧
    ∀ nodeId nickname role,
      (room.addOrReuseMember I nodeId nickname role).1 = .error .addressPoolExhausted →
      (∀ a, network.network + (if role = .owner then 1 else 2) ≤ a → a < network.broadcast →
        VirtualIp.ofNat a ∈ KeyMap.values room.ipLeases) ∧
      (room.addOrReuseMember I nodeId nickname role).2 = room := by
  intro room
  have hnew : (Room.new roomId name owner virtualCidr joinToken).Inside I network := by
    refine ⟨consistent_new _ _ _ _ _, hparse, ?_⟩
    rintro n ip ⟨⟩
  have h : room.Inside I network := Run.invariant_forall (fun _ op hr => hr.step op) ops _ hnew
  refine ⟨fun _ _ _ => h.consistent.unique, fun _ _ => h.consistent.lease, fun _ _ => h.host, ?_⟩
  intro nodeId nickname role herror
  constructor
  · intro a hfirst hlast
    obtain ⟨network', hparse', hall⟩ := h.consistent.add_error herror
    obtain rfl := Option.some.inj (h.parse.symm.trans hparse')
    have hhost := hall (a - network.network) (mem_hosts.mpr ⟨by omega, by omega⟩)
    rwa [Nat.add_sub_cancel' (by omega)] at hhost
  · exact addOrReuseMember_error herror

/-- The room of the crate's own tests. -/
def testRoom : Room :=
  Room.new ⟨ByteArr.fill 16 1⟩ "room" ⟨ByteArr.fill 32 1⟩ "192.168.7.0/24" "token"

/-- Its network. -/
def testNetwork : Ipv4Net :=
  ⟨192 * 2 ^ 24 + 168 * 2 ^ 16 + 7 * 2 ^ 8, 24, by decide, by decide⟩

lemma parse_testRoom : Ipnet.dotted.parse testRoom.virtualCidr = some testNetwork := by
  decide +kernel

/-- The guest of the test room that leaves again: what it has leased lies inside the network. -/
theorem room_leases_sound_testRoom :
    ∃ ip, (Run.run (step .dotted) testRoom
      [.addOrReuseMember ⟨ByteArr.fill 32 2⟩ "peer" .guest,
        .removeMember ⟨ByteArr.fill 32 2⟩]).ipLeases.lookup ⟨ByteArr.fill 32 2⟩ = some ip ∧
      ∃ a, testNetwork.network < a ∧ a < testNetwork.broadcast ∧ ip = VirtualIp.ofNat a := by
  have hlease : (Run.run (step .dotted) testRoom
      [.addOrReuseMember ⟨ByteArr.fill 32 2⟩ "peer" .guest,
        .removeMember ⟨ByteArr.fill 32 2⟩]).ipLeases.lookup ⟨ByteArr.fill 32 2⟩ =
      some (VirtualIp.ofNat (testNetwork.network + 2)) := by
    decide +kernel
  exact ⟨_, hlease, (room_leases_sound _ _ _ _ parse_testRoom _).2.2.1 _ _ hlease⟩

/-! ## Lease stability -/

/-- A lease stays, whatever is called. -/
lemma Consistent.lease_step {I : Ipnet} {room : Room} (h : room.Consistent) {n : NodeId}
    {ip : VirtualIp} (hn : room.ipLeases.lookup n = some ip) (op : Op) :
    (room.step I op).ipLeases.lookup n = some ip := by
  cases op with
  | addOrReuseMember nodeId nickname role =>
      simp only [Room.step]
      cases hadd : (room.addOrReuseMember I nodeId nickname role).1 with
      | error e => rwa [addOrReuseMember_error hadd]
      | ok ip' =>
          obtain ⟨hip, -, -, hleases⟩ := h.add_ok (Prod.ext hadd rfl)
          rw [hleases]
          split_ifs with heq
          · subst heq
            rcases hip with hlease | ⟨hnone, -⟩
            · exact hlease.symm.trans hn
            · rw [hn] at hnone
              cases hnone
          · exact hn
  | removeMember nodeId => exact hn

/-- **A node keeps its address.**  Whatever is called after a node got `x`: the node gets `x`
again, with whichever role, and no other node gets it. -/
theorem lease_stable {I : Ipnet} (roomId : RoomId) (name : String) (owner : NodeId)
    (virtualCidr joinToken : String) (before later : List Op) {nodeId : NodeId}
    {nickname : String} {role : MemberRole} {x : VirtualIp} {room : Room}
    (hadd : (Run.run (step I) (Room.new roomId name owner virtualCidr joinToken)
      before).addOrReuseMember I nodeId nickname role = (.ok x, room)) :
    let room' := Run.run (step I) room later
    (∀ nickname' role' y res,
      room'.addOrReuseMember I nodeId nickname' role' = (.ok y, res) → y = x) ∧
    ∀ other nickname' role' y res, other ≠ nodeId →
      room'.addOrReuseMember I other nickname' role' = (.ok y, res) → y ≠ x := by
  intro room'
  have hbefore : (Run.run (step I) (Room.new roomId name owner virtualCidr joinToken)
      before).Consistent :=
    Run.invariant_forall (fun _ op hr => hr.step op) before _ (consistent_new _ _ _ _ _)
  obtain ⟨hroom', hlease⟩ : room'.Consistent ∧ room'.ipLeases.lookup nodeId = some x := by
    refine Run.invariant_forall
      (I := fun r : Room => r.Consistent ∧ r.ipLeases.lookup nodeId = some x)
      (fun r op hr => ⟨hr.1.step op, hr.1.lease_step hr.2 op⟩) later room
      ⟨hbefore.add hadd, ?_⟩
    rw [(hbefore.add_ok hadd).2.2.2, if_pos rfl]
  constructor
  · intro nickname' role' y res hagain
    rcases (hroom'.add_ok hagain).1 with hsame | ⟨hnone, -⟩
    · exact Option.some.inj (hsame.symm.trans hlease)
    · rw [hlease] at hnone
      cases hnone
  · rintro other nickname' role' y res hne hother rfl
    exact hne (hroom'.add_exclusive hother hlease).symm

/-- The test room after its guest has left and another node has come. -/
def laterRoom : Room :=
  Run.run (step .dotted)
    (testRoom.step .dotted (.addOrReuseMember ⟨ByteArr.fill 32 2⟩ "peer" .guest))
    [.removeMember ⟨ByteArr.fill 32 2⟩, .addOrReuseMember ⟨ByteArr.fill 32 3⟩ "other" .owner]

/-- The guest gets its address back, also as the owner. -/
theorem lease_stable_testRoom :
    ∃ y res, laterRoom.addOrReuseMember .dotted ⟨ByteArr.fill 32 2⟩ "peer" .owner = (.ok y, res) ∧
      y = VirtualIp.ofNat (testNetwork.network + 2) := by
  have hadd : (Run.run (step .dotted) testRoom []).addOrReuseMember .dotted
      ⟨ByteArr.fill 32 2⟩ "peer" .guest =
      (.ok (VirtualIp.ofNat (testNetwork.network + 2)),
        testRoom.step .dotted (.addOrReuseMember ⟨ByteArr.fill 32 2⟩ "peer" .guest)) :=
    Prod.ext (by decide +kernel) rfl
  have hok : (laterRoom.addOrReuseMember .dotted ⟨ByteArr.fill 32 2⟩ "peer" .owner).1.toBool =
      true := by
    decide +kernel
  cases hagain : (laterRoom.addOrReuseMember .dotted ⟨ByteArr.fill 32 2⟩ "peer" .owner).1 with
  | error e =>
      rw [hagain] at hok
      cases hok
  | ok y =>
      exact ⟨y, _, Prod.ext hagain rfl,
        (lease_stable _ _ _ _ _ [] _ hadd).1 _ _ y _ (Prod.ext hagain rfl)⟩

end Room

end R2N
