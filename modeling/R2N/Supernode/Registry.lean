import R2N.Supernode.Pool

/-!
# Who is registered where

`addr_to_node` is the index by which a frame is attributed to a node, and `nodes` has the address
and the local networks of each node.  Only `RegisterNode` writes the two tables, and it removes
nothing of what it supersedes.

* `IndexConsistent` — the index and the table of nodes say the same.
* **`address_index_consistent`** — they do along every run in which no node registers from a second
  address and no address is used by a second node.
* `latest` — the newest frame of a run that says something.
* **`tables_latest`** — the two tables are those of the latest registrations.
* **`no_local_subnet_conflict`** — the network announced to a node shares no address with the local
  networks of its latest registration.
-/

namespace R2N

open Run

namespace Supernode

/-! ## The tables after a turn -/

/-- The node that a frame registers, with its local networks. -/
def Datagram.registration (d : Datagram) : Option (NodeId × List String) :=
  match d.frame with
  | .registerNode nodeId _ _ _ _ _ localNetworks => some (nodeId, localNetworks)
  | _ => none

/-- Only a registration writes the tables of nodes. -/
lemma Turn.tables {S : SupernodeEnv} {sn : Supernode} {d : Datagram} {out : ControlOutcome}
    (hturn : Turn S sn d out) :
    (∃ info networks, d.registration = some (info.nodeId, networks) ∧ info.addr = d.addr ∧
      info.localNetworks = parseLocalNetworks S.ipnet networks ∧
      out.sn.nodes = (sn.touch d.io.now d.addr).nodes.insert info.nodeId info ∧
      out.sn.addrToNode = sn.addrToNode.insert d.addr info.nodeId) ∨
    d.registration = none ∧ out.sn.nodes = (sn.touch d.io.now d.addr).nodes ∧
      out.sn.addrToNode = sn.addrToNode := by
  have haddr := sn.touch_addrToNode d.io.now d.addr
  cases hturn with
  | register hframe hturn =>
      cases hturn
      refine .inl ⟨_, _, ?_, rfl, rfl, rfl, ?_⟩
      · rw [Datagram.registration, hframe]
      · dsimp only [withNode]
        rw [haddr]
  | create hframe hturn =>
      refine .inr ⟨by rw [Datagram.registration, hframe], ?_⟩
      cases hturn <;> exact ⟨rfl, haddr⟩
  | join hframe hturn =>
      refine .inr ⟨by rw [Datagram.registration, hframe], ?_⟩
      rw [← haddr]
      cases hturn with
      | unregistered => exact ⟨rfl, rfl⟩
      | refused _ hentry => exact entryOf_nodes S _ hentry
      | unseated _ hentry => exact entryOf_nodes S _ hentry
      | joined _ hentry =>
          have htables := entryOf_nodes S _ hentry
          exact htables
  | leave hframe hturn =>
      refine .inr ⟨by rw [Datagram.registration, hframe], ?_⟩
      cases hturn <;> exact ⟨rfl, haddr⟩
  | other hframe hstate =>
      refine .inr ⟨?_, by rw [hstate], by rw [hstate, haddr]⟩
      unfold Datagram.registration
      split
      · rename_i h
        rw [h] at hframe
        cases hframe
      · rfl

/-! ## The address index -/

/-- An address is mapped to a node exactly if the node is registered with that address: every entry
of the index names a node with that address, and every node is found by its address. -/
def IndexConsistent (sn : Supernode) : Prop :=
  ∀ addr id, sn.addrToNode.lookup addr = some id ↔ sn.addrOf id = some addr

/-- A node that registers is not known at another address, and its address is not known as another
node's. -/
def RegistersAnew (sn : Supernode) (d : Datagram) : Prop :=
  ∀ id networks, d.registration = some (id, networks) →
    (∀ addr, sn.addrOf id = some addr → addr = d.addr) ∧
    ∀ other, sn.addrToNode.lookup d.addr = some other → other = id

/-- **A turn** keeps the index consistent. -/
lemma IndexConsistent.turn {S : SupernodeEnv} {sn : Supernode} (h : sn.IndexConsistent)
    {d : Datagram} (hanew : sn.RegistersAnew d) {out : ControlOutcome} (hturn : Turn S sn d out) :
    out.sn.IndexConsistent := by
  intro addr id
  rcases hturn.tables with ⟨info, networks, hreg, haddr, -, hnodes, hindex⟩ | ⟨-, hnodes, hindex⟩
  · have hof : out.sn.addrOf id = if id = info.nodeId then some d.addr else sn.addrOf id := by
      rw [addrOf, hnodes, KeyMap.lookup_insert_eq]
      split_ifs
      · rw [← haddr]
        rfl
      · exact touch_addrOf sn d.io.now d.addr id
    obtain ⟨hhere, hfree⟩ := hanew _ _ hreg
    rw [hof, hindex, KeyMap.lookup_insert_eq]
    split_ifs with heq hid hid
    · simp [heq, hid]
    · refine iff_of_false (fun hsome => hid (Option.some.inj hsome).symm) fun hold => ?_
      exact hid (hfree id ((h _ _).mpr (heq ▸ hold)))
    · refine iff_of_false (fun hold => ?_) fun hsome => heq (Option.some.inj hsome).symm
      exact heq (hhere addr (hid ▸ (h _ _).mp hold))
    · exact h addr id
  · have hof : out.sn.addrOf id = sn.addrOf id := by
      rw [addrOf, hnodes]
      exact touch_addrOf sn d.io.now d.addr id
    rw [hof, hindex]
    exact h addr id

/-- **The index is consistent** in every state a supernode reaches, if no node registers from a
second address and no address is used by a second node. -/
theorem address_index_consistent {S : SupernodeEnv} {addressPool : String} {roomPrefixLen : ℕ}
    {config : SupernodeConfig} {sn : Supernode}
    (hnew : newWithConfig S.ipnet addressPool roomPrefixLen config = .ok sn) (ds : List Datagram)
    (hds : Along (Loop.step S) (fun l d => l.stuck = false → l.sn.RegistersAnew d)
      ⟨sn, false⟩ ds) :
    (run (Loop.step S) ⟨sn, false⟩ ds).sn.IndexConsistent := by
  refine invariant (I := fun l => l.sn.IndexConsistent) (fun l d h hanew => ?_) ds _ ?_ hds
  · unfold Loop.step
    split_ifs with hstuck
    · exact h
    · exact h.turn (hanew (eq_false_of_ne_true hstuck)) (receive_turn S l.sn d)
  · obtain ⟨hnodes, hindex, -⟩ := newWithConfig_ok hnew
    intro addr id
    simp [addrOf, hnodes, hindex]

/-- Two nodes at two addresses. -/
theorem address_index_two_nodes :
    (run (Loop.step dottedEnv) ⟨oneSubnet, false⟩ [register 1, register 2]).sn.IndexConsistent := by
  refine address_index_consistent (S := dottedEnv) newWithConfig_oneSubnet [register 1, register 2]
    ⟨fun _ id networks _ => ⟨nofun, nofun⟩, fun _ id networks hreg => ?_, trivial⟩
  have hnode :
      (Loop.step dottedEnv ⟨oneSubnet, false⟩ (register 1)).sn.addrOf (.fill 2) = none := by
    decide +kernel
  have hfree : (Loop.step dottedEnv ⟨oneSubnet, false⟩ (register 1)).sn.addrToNode.lookup
      (.localhost 2) = none := by
    decide +kernel
  obtain ⟨rfl, -⟩ := Prod.mk.inj (Option.some.inj hreg)
  refine ⟨fun addr haddr => ?_, fun other hother => ?_⟩
  · cases hnode.symm.trans haddr
  · cases hfree.symm.trans hother

/-- **A node registers again from a new address**: the index still has its old one. -/
theorem stale_index_entry :
    ¬ (run (Loop.step dottedEnv) ⟨oneSubnet, false⟩
      [register 1, { register 1 with addr := .localhost 2 }]).sn.IndexConsistent := by
  intro h
  have hindex : (run (Loop.step dottedEnv) ⟨oneSubnet, false⟩
      [register 1, { register 1 with addr := .localhost 2 }]).sn.addrToNode.lookup (.localhost 1) =
        some (.fill 1) := by
    decide +kernel
  have hnode : (run (Loop.step dottedEnv) ⟨oneSubnet, false⟩
      [register 1, { register 1 with addr := .localhost 2 }]).sn.addrOf (.fill 1) =
        some (.localhost 2) := by
    decide +kernel
  have hsame := Option.some.inj (hnode.symm.trans ((h _ _).mp hindex))
  revert hsame
  decide

/-! ## The latest registrations -/

/-- What the newest datagram that says something says. -/
def latest {α : Type} (said : Datagram → Option α) (ds : List Datagram) : Option α :=
  ds.foldl (fun known d => (said d).or known) none

/-- The node a datagram registers at an address. -/
def Datagram.nodeAt (addr : SocketAddr) (d : Datagram) : Option NodeId :=
  if d.addr = addr then d.registration.map Prod.fst else none

/-- The valid local networks a datagram declares for a node. -/
def Datagram.networksOf (I : Ipnet) (id : NodeId) (d : Datagram) : Option (List Ipv4Net) :=
  d.registration.bind fun r => if r.1 = id then some (parseLocalNetworks I r.2) else none

lemma Turn.addrToNode {S : SupernodeEnv} {sn : Supernode} {d : Datagram} {out : ControlOutcome}
    (hturn : Turn S sn d out) (addr : SocketAddr) :
    out.sn.addrToNode.lookup addr = (d.nodeAt addr).or (sn.addrToNode.lookup addr) := by
  unfold Datagram.nodeAt
  rcases hturn.tables with ⟨info, networks, hreg, -, -, -, hindex⟩ | ⟨hreg, -, hindex⟩
  · rw [hindex, hreg, KeyMap.lookup_insert_eq]
    by_cases heq : addr = d.addr
    · simp [heq]
    · simp [heq, Ne.symm heq]
  · rw [hindex, hreg]
    simp

lemma Turn.localNetworks {S : SupernodeEnv} {sn : Supernode} {d : Datagram} {out : ControlOutcome}
    (hturn : Turn S sn d out) (id : NodeId) :
    (out.sn.nodes.lookup id).map NodeInfo.localNetworks =
      (d.networksOf S.ipnet id).or ((sn.nodes.lookup id).map NodeInfo.localNetworks) := by
  unfold Datagram.networksOf
  rw [← sn.touch_node (fun _ _ => rfl) d.io.now d.addr]
  rcases hturn.tables with ⟨info, networks, hreg, -, hlocal, hnodes, -⟩ | ⟨hreg, hnodes, -⟩
  · rw [hnodes, hreg, KeyMap.lookup_insert_eq]
    by_cases heq : id = info.nodeId
    · simp [heq, hlocal]
    · simp [heq, Ne.symm heq]
  · rw [hnodes, hreg]
    simp

/-- A loop that is stuck stays so. -/
lemma stuck_run {S : SupernodeEnv} {l : Loop} (h : l.stuck = true) (ds : List Datagram) :
    (run (Loop.step S) l ds).stuck = true := by
  refine invariant_forall (I := fun l : Loop => l.stuck = true) (fun l d hl => ?_) ds l h
  rw [Loop.step, if_pos hl]
  exact hl

/-- **The tables are those of the latest registrations**, as long as the loop runs. -/
lemma tables_latest {S : SupernodeEnv} (ds : List Datagram) (l : Loop)
    (h : (run (Loop.step S) l ds).stuck = false) :
    (∀ addr, (run (Loop.step S) l ds).sn.addrToNode.lookup addr =
      ds.foldl (fun known d => (d.nodeAt addr).or known) (l.sn.addrToNode.lookup addr)) ∧
    ∀ id, ((run (Loop.step S) l ds).sn.nodes.lookup id).map NodeInfo.localNetworks =
      ds.foldl (fun known d => (d.networksOf S.ipnet id).or known)
        ((l.sn.nodes.lookup id).map NodeInfo.localNetworks) := by
  induction ds generalizing l with
  | nil => exact ⟨fun _ => rfl, fun _ => rfl⟩
  | cons d ds ih =>
      have hl : l.stuck = false := by
        by_contra hstuck
        rw [stuck_run (eq_true_of_ne_false hstuck)] at h
        cases h
      have hturn : Turn S l.sn d (l.sn.receive S d.io d.frame d.addr) := receive_turn S l.sn d
      have hstep : (Loop.step S l d).sn = (l.sn.receive S d.io d.frame d.addr).sn := by
        rw [Loop.step, hl]
        rfl
      obtain ⟨hindex, hlocal⟩ := ih (Loop.step S l d) h
      refine ⟨fun addr => ?_, fun id => ?_⟩
      · rw [run_cons, hindex addr, hstep, hturn.addrToNode, List.foldl_cons]
      · rw [run_cons, hlocal id, hstep, hturn.localNetworks, List.foldl_cons]

/-! ## Announced networks -/

/-- A network is announced to the registered node that asked for it: it was allocated clear of the
node's networks, or checked against them. -/
lemma Announcement.clear {S : SupernodeEnv} {sn : Supernode} {d : Datagram}
    {f : ControlFrame × SocketAddr} (h : Announcement S sn d f) {cidr : String}
    (hcidr : announcedCidr f.1 = some cidr) :
    f.2 = d.addr ∧ ∃ id, sn.addrToNode.lookup d.addr = some id ∧
      ((∃ name n pool, d.frame = .createRoom name ∧ cidr = S.ipnet.display n ∧
        sn.addressPool.allocateWithAvoidance S.ipnet d.io.roomId (sn.localNetworksOf id) =
          .ok (n, pool)) ∨
      roomSubnetConflicts S.ipnet cidr (sn.localNetworksOf id) = false) := by
  cases h with
  | created hframe hid halloc hadd =>
      obtain ⟨ipLeases, rfl⟩ := Room.addOrReuse_ok hadd
      obtain rfl := Option.some.inj hcidr
      exact ⟨rfl, _, hid, .inl ⟨_, _, _, hframe, rfl, halloc⟩⟩
  | joined _ hid _ _ hconflict hjoin =>
      obtain ⟨members, ipLeases, rfl⟩ := joinMember_keeps hjoin
      obtain rfl := Option.some.inj hcidr
      exact ⟨rfl, _, hid, .inr hconflict⟩

/-- **No local subnet conflict.**  The network announced to a node shares no address with the valid
local networks of the node's latest registration, if the id drawn for a new room is not in use. -/
theorem no_local_subnet_conflict {S : SupernodeEnv} (hI : S.ipnet.RoundTrips) {addressPool : String}
    {roomPrefixLen : ℕ} {config : SupernodeConfig} {sn : Supernode}
    (hnew : newWithConfig S.ipnet addressPool roomPrefixLen config = .ok sn) (ds : List Datagram)
    (d : Datagram) (hfresh : ∀ name, d.frame = .createRoom name →
      d.io.roomId ∉ (run (Loop.step S) ⟨sn, false⟩ ds).sn.addressPool.allocations)
    {f : ControlFrame × SocketAddr} (hf : f ∈ (run (Loop.step S) ⟨sn, false⟩ ds).frames S d)
    {cidr : String} (hcidr : announcedCidr f.1 = some cidr) {n : Ipv4Net}
    (hn : S.ipnet.parse cidr = some n) {id : NodeId}
    (hid : latest (Datagram.nodeAt f.2) ds = some id)
    {network : Ipv4Net}
    (hnetwork : network ∈ (latest (Datagram.networksOf S.ipnet id) ds).getD []) :
    n.Apart network := by
  obtain ⟨hnodes, hindex, -⟩ := newWithConfig_ok hnew
  generalize hl : run (Loop.step S) ⟨sn, false⟩ ds = l at hfresh hf
  have hstuck : l.stuck = false := by
    by_contra h
    rw [Loop.frames, if_pos (eq_true_of_ne_false h)] at hf
    cases hf
  rw [Loop.frames, hstuck] at hf
  obtain ⟨haddr, id', hid', hclear⟩ :=
    ((receive_turn S l.sn d).announcement hf (by rw [hcidr]; rfl)).clear hcidr
  rw [touch_addrToNode] at hid'
  rw [touch_addressPool, touch_localNetworksOf] at hclear
  -- the node and its networks are those of the tables
  obtain ⟨htable, hlocal⟩ := tables_latest ds ⟨sn, false⟩ (by rw [hl]; exact hstuck)
  rw [hl] at htable hlocal
  have hsame : id = id' := by
    have h := htable f.2
    rw [hindex, haddr, hid'] at h
    rw [haddr] at hid
    exact Option.some.inj (hid.symm.trans h.symm)
  subst hsame
  have hmem : network ∈ l.sn.localNetworksOf id := by
    have h := hlocal id
    rw [hnodes] at h
    rw [localNetworksOf, h]
    exact hnetwork
  rcases hclear with ⟨name, n', pool, hframe, rfl, halloc⟩ | hconflict
  · obtain rfl := Option.some.inj ((hI n').symm.trans hn)
    have hnone : l.sn.addressPool.allocations.lookup d.io.roomId = none :=
      AList.lookup_eq_none.mpr (hfresh name hframe)
    rcases RoomAddressPool.allocateWithAvoidance_cases S.ipnet (l.sn.localNetworksOf id) hnone with
      ⟨index, -, hfree, hok⟩ | ⟨-, herror⟩
    · obtain ⟨rfl, -⟩ := Prod.mk.inj (Except.ok.inj (halloc.symm.trans hok))
      exact (hfree.2 network hmem).symm
    · cases halloc.symm.trans herror
  · rw [roomSubnetConflicts, hn] at hconflict
    have hno := List.any_eq_false.mp hconflict network hmem
    exact Ipv4Net.apart_iff.mpr (eq_false_of_ne_true hno)

/-- Node 1 registers with a local network outside the pool. -/
def registerAway : Datagram :=
  sampleDatagram 1 (.registerNode (.fill 1) .unknown none (.fill 32 1) [] "" ["10.0.1.0/24"])

/-- The network of a created room is clear of its owner's. -/
theorem created_room_apart :
    let l := run (Loop.step dottedEnv) ⟨oneSubnet, false⟩ [registerAway]
    (.roomCreated (.fill 7) (.ofNat (10 * 2 ^ 24 + 1)) "10.0.0.0/30" "", .localhost 1) ∈
        l.frames dottedEnv (sampleDatagram 1 (.createRoom "")) ∧
      (⟨10 * 2 ^ 24, 30, by decide, by decide⟩ : Ipv4Net).Apart
        ⟨10 * 2 ^ 24 + 2 ^ 8, 24, by decide, by decide⟩ := by
  intro l
  have hframe : (.roomCreated (.fill 7) (.ofNat (10 * 2 ^ 24 + 1)) "10.0.0.0/30" "", .localhost 1) ∈
      l.frames dottedEnv (sampleDatagram 1 (.createRoom "")) := by
    decide +kernel
  refine ⟨hframe, no_local_subnet_conflict (S := dottedEnv) Ipnet.dotted_roundTrips
    newWithConfig_oneSubnet [registerAway] (sampleDatagram 1 (.createRoom "")) ?_ hframe rfl ?_
    (show latest (Datagram.nodeAt (.localhost 1)) [registerAway] = some (.fill 1) by decide +kernel)
    ?_⟩
  · intro name _
    decide +kernel
  · decide +kernel
  · decide +kernel

end Supernode

end R2N
