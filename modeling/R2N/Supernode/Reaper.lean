import R2N.Supernode.Pool

/-!
# The reaper

`Supernode::run` spawns a task that removes nodes that have not been heard from for two minutes.
The task works on `nodes.clone()`, `addr_to_node.clone()` and `rooms.clone()`, made before the first
datagram is received, and `DashMap::clone` copies the entries.

* `Copies`, `removeDead`, `reap` — the tables of the task, and one tick of it.
* `Running` — the supernode with the task: datagrams, relayed data and ticks in any order.
* **`expiry_iff`** — the nodes that are due are gone from the live tables after a tick exactly if
  none was due, and no room was without members.
* **`dead_node_stays`** — a node that is silent for more than two minutes stays.
-/

namespace R2N

open Run

namespace Supernode

/-! ## One tick -/

/-- `nodes_clone`, `addr_to_node_clone` and `rooms_clone`. -/
structure Copies where
  nodes : KeyMap NodeId NodeInfo
  addrToNode : KeyMap SocketAddr NodeId
  rooms : KeyMap RoomId Room

/-- A node that has timed out. -/
def isDead (now : Instant) (node : NodeInfo) : Bool := 120 < asSecs (now - node.lastSeen)

/-- The updates for the members that remain in a room when a node is removed. -/
def removalFrames (nodes : KeyMap NodeId NodeInfo) (deadNode : NodeId) (info : NodeInfo)
    (room : Room) : Frames :=
  (KeyMap.values room.members).filterMap fun member =>
    (nodes.lookup member.nodeId).map fun target =>
      (.peerUpdate
        { nodeId := deadNode, publicKey := info.publicKey, virtualIp := .ofNat 0
          nickname := info.nickname } .remove, target.addr)

/-- The removal of one dead node, and the frames that are sent meanwhile; a failed send is
ignored. -/
def removeDead (c : Copies) (deadNode : NodeId) : Copies × Frames :=
  match c.nodes.lookup deadNode with
  | none => (c, [])
  | some info =>
      let nodes := c.nodes.erase deadNode
      let rooms := KeyMap.mapValues (fun room => room.removeMember deadNode) c.rooms
      ({ nodes
         addrToNode := c.addrToNode.erase info.addr
         rooms := KeyMap.retain (fun _ room => room.members.keys ≠ []) rooms },
        (KeyMap.values c.rooms).flatMap fun room =>
          if deadNode ∈ room.members then
            removalFrames nodes deadNode info (room.removeMember deadNode)
          else [])

/-- The nodes that a tick finds dead. -/
def deadNodes (now : Instant) (c : Copies) : List NodeId :=
  (c.nodes.entries.filter fun e => isDead now e.2).map Sigma.fst

/-- The loop of a tick over the dead nodes. -/
def removeEach : Copies → List NodeId → Copies × Frames
  | c, [] => (c, [])
  | c, deadNode :: rest =>
      let (c₁, frames) := removeDead c deadNode
      let (c₂, frames') := removeEach c₁ rest
      (c₂, frames ++ frames')

/-- One tick of the task. -/
def reap (now : Instant) (c : Copies) : Copies × Frames := removeEach c (deadNodes now c)

/-! ## The supernode with the task -/

/-- What can happen next: a control frame arrives, a data frame arrives (which is relayed, and its
sender seen), or the interval of the task elapses. -/
inductive SupernodeInput where
  | datagram (d : Datagram)
  | data (now : Instant) (addr : SocketAddr)
  | tick (now : Instant)

/-- The receive loop and the tables of the task. -/
structure Running where
  loop : Loop
  copies : Copies

/-- `run` is called. -/
def Running.start (sn : Supernode) : Running where
  loop := ⟨sn, false⟩
  copies := { nodes := sn.nodes, addrToNode := sn.addrToNode, rooms := sn.rooms }

def Running.step (S : SupernodeEnv) (r : Running) : SupernodeInput → Running
  | .datagram d => { r with loop := Loop.step S r.loop d }
  | .data now addr =>
      if r.loop.stuck then r
      else { r with loop := { r.loop with sn := r.loop.sn.touch now addr } }
  | .tick now => { r with copies := (reap now r.copies).1 }

/-! ## Expiry -/

/-- The node was last seen more than two minutes ago. -/
def Stale (now : Instant) (node : NodeInfo) : Prop := node.lastSeen + fromSecs 120 < now

/-- What a tick at `now` is to achieve: the nodes that were last seen more than two minutes ago are
in none of the tables, and a room all of whose members are such nodes is gone, its network free. -/
structure Expired (now : Instant) (before after : Supernode) : Prop where
  nodes : ∀ id node, before.nodes.lookup id = some node → Stale now node → id ∉ after.nodes
  index : ∀ id node, before.nodes.lookup id = some node → Stale now node →
    ∀ addr, after.addrToNode.lookup addr ≠ some id
  members : ∀ id node, before.nodes.lookup id = some node → Stale now node →
    ∀ r room, after.rooms.lookup r = some room → id ∉ room.members
  rooms : ∀ r room, before.rooms.lookup r = some room →
    (∀ id ∈ room.members, ∃ node, before.nodes.lookup id = some node ∧ Stale now node) →
      r ∉ after.rooms ∧ r ∉ after.addressPool.allocations

/-- **Expiry.**  In every run and for every tick, what is due is gone afterwards exactly if nothing
was: no registered node was last seen more than two minutes ago, and no room was without
members. -/
theorem expiry_iff (S : SupernodeEnv) (sn : Supernode) (inputs : List SupernodeInput)
    (now : Instant) :
    let r := run (Running.step S) (.start sn) inputs
    Expired now r.loop.sn (Running.step S r (.tick now)).loop.sn ↔
      (∀ id node, r.loop.sn.nodes.lookup id = some node → ¬ Stale now node) ∧
      ∀ id room, r.loop.sn.rooms.lookup id = some room → ∃ member, member ∈ room.members := by
  intro r
  -- the tick leaves the live tables alone
  have hlive : (Running.step S r (.tick now)).loop.sn = r.loop.sn := rfl
  rw [hlive]
  constructor
  · intro h
    refine ⟨fun id node hnode hstale => ?_, fun id room hroom => ?_⟩
    · exact h.nodes id node hnode hstale (KeyMap.mem_iff_lookup.mpr ⟨node, hnode⟩)
    · by_contra hempty
      push Not at hempty
      exact (h.rooms id room hroom fun m hm => absurd hm (hempty m)).1
        (KeyMap.mem_iff_lookup.mpr ⟨room, hroom⟩)
  · rintro ⟨hfresh, hmembers⟩
    refine ⟨fun id node h hs => absurd hs (hfresh id node h),
      fun id node h hs => absurd hs (hfresh id node h),
      fun id node h hs => absurd hs (hfresh id node h), fun id room hroom hall => ?_⟩
    obtain ⟨m, hm⟩ := hmembers id room hroom
    obtain ⟨node, hnode, hstale⟩ := hall m hm
    exact absurd hstale (hfresh m node hnode)

/-- **A dead node stays**: a node registers and is silent for 121 seconds. -/
theorem dead_node_stays :
    let r := run (Running.step dottedEnv) (.start oneSubnet) [.datagram (register 1)]
    ¬ Expired (fromSecs 121) r.loop.sn
      (Running.step dottedEnv r (.tick (fromSecs 121))).loop.sn := by
  intro r h
  have hseen : (r.loop.sn.nodes.lookup (.fill 1)).map NodeInfo.lastSeen = some 0 := by
    decide +kernel
  obtain ⟨node, hnode, hlast⟩ := Option.map_eq_some_iff.mp hseen
  refine h.nodes (.fill 1) node hnode ?_ (KeyMap.mem_iff_lookup.mpr ⟨node, hnode⟩)
  rw [Stale, hlast]
  decide

end Supernode

end R2N
