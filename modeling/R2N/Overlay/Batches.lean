import R2N.Overlay.Overlay

/-!
# What a batch of frames says to one edge

The frames the supernode sends for one request, seen by a single receiver.

* `KeyedByNode` — the members of a room are filed under their own ids.
* **`joinFrames_self`** — the joining node is let in and then gets the list of all members.
* **`setOp_joinFrames`**, **`setOp_leaveFrames`** — the other members get one change, and
  otherwise frames that say nothing.
-/

namespace R2N

lemma mem_sentTo {addr : SocketAddr} {frames : List (ControlFrame × SocketAddr)}
    {frame : ControlFrame} : frame ∈ sentTo addr frames ↔ (frame, addr) ∈ frames := by
  unfold sentTo
  simp

lemma sentTo_cons_self (addr : SocketAddr) (frame : ControlFrame)
    (frames : List (ControlFrame × SocketAddr)) :
    sentTo addr ((frame, addr) :: frames) = frame :: sentTo addr frames := by
  simp [sentTo]

/-- A frame that says nothing about peers and lets nobody in. -/
def ControlFrame.Neutral (frame : ControlFrame) : Prop :=
  frame.carriesPeers = false ∧ frame.activates = none

instance (frame : ControlFrame) : Decidable frame.Neutral := inferInstanceAs (Decidable (_ ∧ _))

lemma ControlFrame.Neutral.setOp {frame : ControlFrame} (h : frame.Neutral) (self : NodeId) :
    frame.setOp self = .skip :=
  ControlFrame.setOp_of_not_carriesPeers h.1 self

namespace Supernode

/-- Members are filed under their own ids. -/
def KeyedByNode (members : KeyMap NodeId Member) : Prop :=
  ∀ id member, members.lookup id = some member → member.nodeId = id

lemma mem_of_mem_values {members : KeyMap NodeId Member} (h : KeyedByNode members)
    {member : Member} (hmem : member ∈ KeyMap.values members) :
    members.lookup member.nodeId = some member := by
  obtain ⟨id, hid⟩ := KeyMap.mem_values.mp hmem
  rw [h id member hid]
  exact hid

lemma nodeIds_values {members : KeyMap NodeId Member} (h : KeyedByNode members) (id : NodeId) :
    (∃ member ∈ KeyMap.values members, member.nodeId = id) ↔ id ∈ members := by
  constructor
  · rintro ⟨member, hmem, rfl⟩
    exact KeyMap.mem_iff_lookup.mpr ⟨member, mem_of_mem_values h hmem⟩
  · intro hid
    obtain ⟨member, hmember⟩ := KeyMap.mem_iff_lookup.mp hid
    exact ⟨member, KeyMap.mem_values.mpr ⟨id, hmember⟩, h id member hmember⟩

section Join

variable (sn : Supernode) (roomId : RoomId) (room : Room) (ip : VirtualIp) (joined : Member)
  (addr : SocketAddr)

/-- The frames of a join after the answer and the list: each is an update for the address of
another member, or a punch request. -/
lemma joinFrames_eq :
    ∃ cidr name rest, sn.joinFrames roomId room ip joined addr =
        (.joinAccept roomId ip cidr name, addr) ::
          (.peerList ((KeyMap.values room.members).map sn.peerInfoForMember), addr) :: rest ∧
      (∀ frame x, (frame, x) ∈ rest → frame.Neutral ∨
        (frame = .peerUpdate (sn.peerInfoForMember joined) .add ∧
          ∃ member ∈ KeyMap.values room.members, member.nodeId ≠ joined.nodeId ∧
            sn.addrOf member.nodeId = some x)) ∧
      ∀ member ∈ KeyMap.values room.members, member.nodeId ≠ joined.nodeId →
        ∀ x, sn.addrOf member.nodeId = some x →
          (.peerUpdate (sn.peerInfoForMember joined) .add, x) ∈ rest := by
  refine ⟨_, _, _, rfl, fun frame x hmem => ?_, fun member hmem hne x hx => ?_⟩
  · rcases List.mem_append.mp hmem with hupdate | hpunch
    · right
      obtain ⟨member, hmember, hx⟩ := List.mem_filterMap.mp hupdate
      obtain ⟨x', hx', heq⟩ := Option.map_eq_some_iff.mp hx
      obtain ⟨rfl, rfl⟩ := Prod.mk.inj heq
      obtain ⟨hvalues, hne⟩ := List.mem_filter.mp hmember
      exact ⟨rfl, member, hvalues, by simpa using hne, hx'⟩
    · left
      split at hpunch
      · cases hpunch
      · obtain ⟨peer, -, hframe⟩ := List.mem_flatMap.mp hpunch
        split at hframe
        · cases hframe
        · simp only [List.mem_cons, Prod.mk.injEq, List.not_mem_nil, or_false] at hframe
          rcases hframe with ⟨rfl, -⟩ | ⟨rfl, -⟩
          · exact ⟨rfl, rfl⟩
          · exact ⟨rfl, rfl⟩
  · refine List.mem_append.mpr (.inl (List.mem_filterMap.mpr ⟨member, ?_, ?_⟩))
    · exact List.mem_filter.mpr ⟨hmem, by simpa using hne⟩
    · rw [hx]
      rfl

/-- **The joining node** is let in, gets the list of all members, and nothing else that says
anything: no other member has its address. -/
lemma joinFrames_self (hkeyed : KeyedByNode room.members)
    (haddr : ∀ id ∈ room.members, id ≠ joined.nodeId → sn.addrOf id ≠ some addr) :
    ∃ cidr name rest, sentTo addr (sn.joinFrames roomId room ip joined addr) =
        .joinAccept roomId ip cidr name ::
          .peerList ((KeyMap.values room.members).map sn.peerInfoForMember) :: rest ∧
      ∀ frame ∈ rest, frame.Neutral := by
  obtain ⟨cidr, name, rest, hframes, hrest, -⟩ := sn.joinFrames_eq roomId room ip joined addr
  rw [hframes, sentTo_cons_self, sentTo_cons_self]
  refine ⟨cidr, name, _, rfl, fun frame hframe => ?_⟩
  rcases hrest frame addr (mem_sentTo.mp hframe) with hneutral | ⟨-, member, hmem, hne, hx⟩
  · exact hneutral
  · exact absurd hx (haddr _ ((nodeIds_values hkeyed _).mp ⟨member, hmem, rfl⟩) hne)

omit roomId ip joined addr in
/-- What the list says: exactly the members of the room. -/
lemma setOp_peerList {room : Room} (hkeyed : KeyedByNode room.members) (self : NodeId) :
    (ControlFrame.peerList ((KeyMap.values room.members).map sn.peerInfoForMember)).setOp self =
      .reset { id | id ∈ room.members ∧ id ≠ self } := by
  refine congrArg SetOp.reset (Set.ext fun id => ?_)
  have hids : id ∈ ((KeyMap.values room.members).map sn.peerInfoForMember).map PeerInfo.nodeId ↔
      id ∈ room.members := by
    rw [← nodeIds_values hkeyed id, List.map_map, List.mem_map]
    rfl
  exact (and_congr_right fun _ => hids).trans and_comm

/-- **Another member** learns that the node has joined, and nobody but the node is let in. -/
lemma setOp_joinFrames {x : SocketAddr} (hx : x ≠ addr) {self : NodeId}
    (hself : joined.nodeId ≠ self) :
    (∀ frame ∈ sentTo x (sn.joinFrames roomId room ip joined addr),
      frame.activates = none ∧
        (frame.setOp self = .skip ∨ frame.setOp self = .add joined.nodeId)) ∧
    (KeyedByNode room.members → self ∈ room.members → sn.addrOf self = some x →
      ∃ frame ∈ sentTo x (sn.joinFrames roomId room ip joined addr),
        frame.setOp self = .add joined.nodeId) := by
  obtain ⟨cidr, name, rest, hframes, hrest, hupdates⟩ := sn.joinFrames_eq roomId room ip joined addr
  have hadd : (ControlFrame.peerUpdate (sn.peerInfoForMember joined) .add).setOp self =
      .add joined.nodeId := if_neg hself
  constructor
  · intro frame hframe
    have hmem := mem_sentTo.mp hframe
    simp only [hframes, List.mem_cons, Prod.mk.injEq] at hmem
    rcases hmem with ⟨-, rfl⟩ | ⟨-, rfl⟩ | hmem
    · exact absurd rfl hx
    · exact absurd rfl hx
    · rcases hrest frame x hmem with hneutral | ⟨rfl, -⟩
      · exact ⟨hneutral.2, .inl (hneutral.setOp self)⟩
      · exact ⟨rfl, .inr hadd⟩
  · intro hkeyed hmem haddr
    obtain ⟨member, hvalues, hid⟩ := (nodeIds_values hkeyed self).mpr hmem
    have hsent := hupdates member hvalues (hid.trans_ne hself.symm) x (hid.symm ▸ haddr)
    refine ⟨_, mem_sentTo.mpr ?_, hadd⟩
    rw [hframes]
    exact List.mem_cons_of_mem _ (List.mem_cons_of_mem _ hsent)

end Join

/-- **A remaining member** learns that the node has left. -/
lemma setOp_leaveFrames (sn : Supernode) (room : Room) (removed : Member) (x : SocketAddr)
    (self : NodeId) :
    (∀ frame ∈ sentTo x (sn.leaveFrames room (some removed)),
      frame.activates = none ∧ frame.setOp self = .remove removed.nodeId) ∧
    (KeyedByNode room.members → self ∈ room.members → sn.addrOf self = some x →
      ∃ frame ∈ sentTo x (sn.leaveFrames room (some removed)),
        frame.setOp self = .remove removed.nodeId) := by
  constructor
  · intro frame hframe
    obtain ⟨member, -, hx⟩ := List.mem_filterMap.mp (mem_sentTo.mp hframe)
    obtain ⟨x', -, heq⟩ := Option.map_eq_some_iff.mp hx
    obtain ⟨rfl, -⟩ := Prod.mk.inj heq
    exact ⟨rfl, rfl⟩
  · intro hkeyed hmem haddr
    obtain ⟨member, hvalues, hid⟩ := (nodeIds_values hkeyed self).mpr hmem
    refine ⟨.peerUpdate (sn.peerInfoForMember removed) .remove, mem_sentTo.mpr ?_, rfl⟩
    refine List.mem_filterMap.mpr ⟨member, hvalues, ?_⟩
    rw [hid, haddr]
    rfl

end Supernode

end R2N
