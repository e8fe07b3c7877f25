import R2N.Overlay.Batches

/-!
# What serving a request tells the edges

The supernode's table of members is the reference, and the peer table of an edge follows it through
the queue of the edge: once the frames sent for the room the edge is in are handled, the table is
the set of the other members.

* `Follows` — this relation between the table of members, an edge and its queue.
* `Registry` — the supernode knows the edges by their ids and addresses.
* `Serves` — what serving one request preserves.
* `serves_registerNode`, `serves_createRoom`, **`serves_joinRoom`**, **`serves_leaveRoom`** — the
  requests an edge sends.
-/

namespace R2N

open Queue

variable {ι : Type*}

/-! ## Following the members of a room -/

/-- The members of a room other than `self`. -/
def Supernode.othersIn (sn : Supernode) (self : NodeId) (room : RoomId) : Set NodeId :=
  { id | id ∈ sn.membersOf room ∧ id ≠ self }

/-- A member joins. -/
lemma Supernode.insert_othersIn {sn sn' : Supernode} {me joined : NodeId} {room : RoomId}
    (hne : joined ≠ me) (hjoined : joined ∈ sn'.membersOf room)
    (hothers : ∀ id ≠ joined, (id ∈ sn'.membersOf room ↔ id ∈ sn.membersOf room)) :
    insert joined (sn.othersIn me room) = sn'.othersIn me room := by
  ext id
  by_cases hid : id = joined
  · subst hid
    exact ⟨fun _ => ⟨hjoined, hne⟩, fun _ => .inl rfl⟩
  · exact ⟨fun h => (h.resolve_left hid).imp_left (hothers id hid).mpr,
      fun h => .inr (h.imp_left (hothers id hid).mp)⟩

/-- A member leaves. -/
lemma Supernode.othersIn_diff {sn sn' : Supernode} {me left : NodeId} {room : RoomId}
    (hrooms : sn'.membersOf room = (sn.membersOf room).erase left) :
    sn.othersIn me room \ {left} = sn'.othersIn me room := by
  ext id
  simp only [othersIn, hrooms, AList.mem_erase]
  exact ⟨fun h => ⟨⟨h.2, h.1.1⟩, h.1.2⟩, fun h => ⟨⟨h.1.2, h.2⟩, h.1.1⟩⟩

/-- What the frames of a queue that were sent for a room say about its members. -/
def pendingOps (self : NodeId) (room : RoomId) (queue : List (Option RoomId × ControlFrame)) :
    List (SetOp NodeId) :=
  (queue.filter fun entry => entry.1 = some room).map fun entry => entry.2.setOp self

lemma pendingOps_append (self : NodeId) (room : RoomId)
    (queue batch : List (Option RoomId × ControlFrame)) :
    pendingOps self room (queue ++ batch) =
      pendingOps self room queue ++ pendingOps self room batch := by
  simp [pendingOps]

/-- Frames sent for another room. -/
lemma pendingOps_of_ne {tag : Option RoomId} {room : RoomId} (h : tag ≠ some room) (self : NodeId)
    (frames : List ControlFrame) :
    pendingOps self room (frames.map fun f => (tag, f)) = [] := by
  simp [pendingOps, h]

/-- Frames sent for the room. -/
lemma pendingOps_self (self : NodeId) (room : RoomId) (frames : List ControlFrame) :
    pendingOps self room (frames.map fun f => (some room, f)) =
      frames.map fun f => f.setOp self := by
  simp [pendingOps, List.filter_map, Function.comp_def]

/-- Node `me` is a member of the room, has not asked to leave it, and will know the other members
once the frames of the queue are handled. -/
structure Follows (sn : Supernode) (me : NodeId) (requests : List ControlFrame) (room : RoomId)
    (v : Set NodeId) (queue : List (Option RoomId × ControlFrame)) : Prop where
  member : me ∈ sn.membersOf room
  staying : .leaveRoom room ∉ requests
  view : SetOp.replay v (pendingOps me room queue) = sn.othersIn me room

/-- A batch that takes the other members from what they were to what they are. -/
lemma Follows.append {sn sn' : Supernode} {self : NodeId} {requests requests' : List ControlFrame}
    {room : RoomId} {v : Set NodeId} {queue batch : List (Option RoomId × ControlFrame)}
    (h : Follows sn self requests room v queue) (hmember : self ∈ sn'.membersOf room)
    (hstaying : .leaveRoom room ∉ requests')
    (hbatch : SetOp.replay (sn.othersIn self room) (pendingOps self room batch) =
      sn'.othersIn self room) :
    Follows sn' self requests' room v (queue ++ batch) where
  member := hmember
  staying := hstaying
  view := by rw [pendingOps_append, SetOp.replay_append, h.view, hbatch]

/-- A batch that says nothing, while the members stay. -/
lemma Follows.append_skip {sn sn' : Supernode} {self : NodeId}
    {requests requests' : List ControlFrame} {room : RoomId} {v : Set NodeId}
    {queue batch : List (Option RoomId × ControlFrame)}
    (h : Follows sn self requests room v queue)
    (hmembers : sn'.membersOf room = sn.membersOf room)
    (hstaying : .leaveRoom room ∉ requests')
    (hbatch : ∀ op ∈ pendingOps self room batch, op = .skip) :
    Follows sn' self requests' room v (queue ++ batch) := by
  refine h.append (hmembers ▸ h.member) hstaying ?_
  rw [SetOp.replay_skip hbatch, Supernode.othersIn, ← hmembers]
  rfl

/-- Frames that say nothing. -/
lemma skip_of_neutral {frames : List ControlFrame} (h : ∀ frame ∈ frames, frame.Neutral)
    (self : NodeId) (room : RoomId) (tag : Option RoomId) :
    ∀ op ∈ pendingOps self room (frames.map fun f => (tag, f)), op = .skip := by
  intro op hop
  obtain ⟨entry, hentry, rfl⟩ := List.mem_map.mp hop
  obtain ⟨frame, hframe, rfl⟩ := List.mem_map.mp (List.mem_filter.mp hentry).1
  exact (h frame hframe).setOp self

/-! ## Who is who -/

/-- The supernode knows each edge by its own id and address, and the members of every room are
edges it can reach. -/
structure Registry (C : OverlayConfig ι) (sn : Supernode) (node : ι → NodeId) : Prop where
  injective : Function.Injective node
  registered : ∀ a id, sn.addrToNode.lookup (C.addr a) = some id →
    id = node a ∧ sn.addrOf id = some (C.addr a)
  keyed : ∀ room, Supernode.KeyedByNode (sn.membersOf room)
  reachable : ∀ room, ∀ id ∈ sn.membersOf room, ∃ a, node a = id ∧ sn.addrOf id = some (C.addr a)

namespace Registry

variable {C : OverlayConfig ι} {sn sn' : Supernode} {node : ι → NodeId}

lemma addrOf_member (h : Registry C sn node) {room : RoomId} {a : ι}
    (ha : node a ∈ sn.membersOf room) : sn.addrOf (node a) = some (C.addr a) := by
  obtain ⟨a', ha', haddr⟩ := h.reachable room _ ha
  obtain rfl := h.injective ha'
  exact haddr

/-- Only memberships change, and a new member is an edge that has registered. -/
lemma members (h : Registry C sn node) (hsame : Supernode.SameNodes sn sn')
    (hkeyed : ∀ room, Supernode.KeyedByNode (sn'.membersOf room))
    (hnew : ∀ room, ∀ id ∈ sn'.membersOf room,
      id ∈ sn.membersOf room ∨ ∃ a, sn.addrToNode.lookup (C.addr a) = some id) :
    Registry C sn' node where
  injective := h.injective
  registered := by
    intro a id hid
    rw [hsame.addrToNode] at hid
    rw [hsame.addrOf]
    exact h.registered a id hid
  keyed := hkeyed
  reachable := by
    intro room id hid
    rw [hsame.addrOf]
    rcases hnew room id hid with hold | ⟨a, ha⟩
    · exact h.reachable room id hold
    · obtain ⟨rfl, haddr⟩ := h.registered a id ha
      exact ⟨a, rfl, haddr⟩

lemma same (h : Registry C sn node) (hsame : Supernode.SameNodes sn sn')
    (hmembers : ∀ room, sn'.membersOf room = sn.membersOf room) : Registry C sn' node :=
  h.members hsame (fun room => hmembers room ▸ h.keyed room)
    fun room _ hid => .inl (hmembers room ▸ hid)

/-- The members of one room change, and those who are new have registered. -/
lemma room (h : Registry C sn node) (hsame : Supernode.SameNodes sn sn') {roomId : RoomId}
    {members : KeyMap NodeId Member}
    (hmembers : ∀ r, sn'.membersOf r = if r = roomId then members else sn.membersOf r)
    (hkeyed : Supernode.KeyedByNode members)
    (hnew : ∀ id ∈ members,
      id ∈ sn.membersOf roomId ∨ ∃ a, sn.addrToNode.lookup (C.addr a) = some id) :
    Registry C sn' node := by
  refine h.members hsame (fun r => ?_) fun r id hid => ?_
  · rw [hmembers]
    split_ifs
    · exact hkeyed
    · exact h.keyed r
  · rw [hmembers] at hid
    split_ifs at hid with hr
    · exact hr ▸ hnew id hid
    · exact .inl hid

/-- An edge that has registered joins a room. -/
lemma join (h : Registry C sn node) (hsame : Supernode.SameNodes sn sn') {roomId : RoomId}
    {members : KeyMap NodeId Member}
    (hmembers : ∀ r, sn'.membersOf r = if r = roomId then members else sn.membersOf r) {b : ι}
    (hid : sn.addrToNode.lookup (C.addr b) = some (node b)) {member : Member}
    (hmember : members.lookup (node b) = some member) (hnode : member.nodeId = node b)
    (hothers : ∀ id ≠ node b, members.lookup id = (sn.membersOf roomId).lookup id) :
    Registry C sn' node := by
  refine h.room hsame hmembers (fun id m hm => ?_) fun id hmem => ?_
  · by_cases hb : id = node b
    · subst hb
      rw [← Option.some.inj (hmember.symm.trans hm), hnode]
    · exact h.keyed roomId id m (hothers id hb ▸ hm)
  · by_cases hb : id = node b
    · exact .inr ⟨b, hb ▸ hid⟩
    · left
      rw [KeyMap.mem_iff_lookup, hothers id hb] at hmem
      exact KeyMap.mem_iff_lookup.mpr hmem

end Registry

/-! ## Serving a request -/

variable [DecidableEq ι]

/-- What serving the request of edge `b` preserves, with `rest` its requests after it: whoever
follows a room goes on to follow it, and a frame that lets an edge in comes with what it needs to
follow. -/
structure Serves (C : OverlayConfig ι) (sn : Supernode) (node : ι → NodeId)
    (up : ι → List ControlFrame) (b : ι) (rest : List ControlFrame) (sn' : Supernode)
    (tag : Option RoomId) (frames : List (ControlFrame × SocketAddr)) : Prop where
  registry : Registry C sn' node
  follows : ∀ a room v queue, Follows sn (node a) (up a) room v queue →
    Follows sn' (node a) (Function.update up b rest a) room v
      (queue ++ (sentTo (C.addr a) frames).map fun f => (tag, f))
  admits : ∀ a room frame post v, Occurs (sentTo (C.addr a) frames) frame post →
    frame.activates = some room → (frame.isRoomCreated = true → v = ∅) →
    Follows sn' (node a) (Function.update up b rest a) room v (post.map fun f => (tag, f))

section Serve

variable {C : OverlayConfig ι} {sn sn' : Supernode} {node : ι → NodeId}
  {up : ι → List ControlFrame} {b : ι} {request : ControlFrame} {rest : List ControlFrame}
  {frames : List (ControlFrame × SocketAddr)}

/-- Taking a request from the queue adds none. -/
lemma not_mem_update (hup : up b = request :: rest) {frame : ControlFrame} {a : ι}
    (h : frame ∉ up a) : frame ∉ Function.update up b rest a := by
  by_cases hab : a = b
  · subst hab
    rw [Function.update_self]
    rw [hup] at h
    exact fun hmem => h (List.mem_cons_of_mem _ hmem)
  · rwa [Function.update_of_ne hab]

/-- Memberships stay, and every frame says nothing. -/
lemma serves_neutral (hreg : Registry C sn' node) (hup : up b = request :: rest)
    (hmembers : ∀ room, sn'.membersOf room = sn.membersOf room)
    (hframes : ∀ entry ∈ frames, entry.1.Neutral) (tag : Option RoomId) :
    Serves C sn node up b rest sn' tag frames := by
  have hneutral : ∀ a, ∀ frame ∈ sentTo (C.addr a) frames, frame.Neutral := fun a frame hmem =>
    hframes _ (mem_sentTo.mp hmem)
  refine ⟨hreg, fun a room v queue h => ?_, fun a room frame post v hocc hact _ => ?_⟩
  · exact h.append_skip (hmembers room) (not_mem_update hup h.staying)
      (skip_of_neutral (hneutral a) _ _ _)
  · rw [(hneutral a frame hocc.mem).2] at hact
    cases hact

/-- **A request about one room**: what is left to show is that the edges follow this room. -/
lemma serves_room (hreg : Registry C sn' node) (hup : up b = request :: rest) {roomId : RoomId}
    {members : KeyMap NodeId Member}
    (hmembers : ∀ r, sn'.membersOf r = if r = roomId then members else sn.membersOf r)
    (hfollows : ∀ a v queue, Follows sn (node a) (up a) roomId v queue →
      Follows sn' (node a) (Function.update up b rest a) roomId v
        (queue ++ (sentTo (C.addr a) frames).map fun f => (some roomId, f)))
    (hadmits : ∀ a room frame post v, Occurs (sentTo (C.addr a) frames) frame post →
      frame.activates = some room → (frame.isRoomCreated = true → v = ∅) →
      Follows sn' (node a) (Function.update up b rest a) room v
        (post.map fun f => (some roomId, f))) :
    Serves C sn node up b rest sn' (some roomId) frames := by
  refine ⟨hreg, fun a room v queue h => ?_, hadmits⟩
  by_cases hroom : room = roomId
  · subst hroom
    exact hfollows a v queue h
  · refine h.append_skip (by rw [hmembers, if_neg hroom]) (not_mem_update hup h.staying) ?_
    rw [pendingOps_of_ne fun h => hroom (Option.some.inj h).symm]
    simp

/-- A batch that says one change to a node that stays a member. -/
lemma Follows.batch {me : NodeId} {requests requests' : List ControlFrame} {room : RoomId}
    {v : Set NodeId} {queue : List (Option RoomId × ControlFrame)} {frames : List ControlFrame}
    {op : SetOp NodeId} (h : Follows sn me requests room v queue)
    (hmember : me ∈ sn'.membersOf room) (hstaying : .leaveRoom room ∉ requests')
    (hframes : ∀ frame ∈ frames, frame.setOp me = .skip ∨ frame.setOp me = op)
    (hsome : ∃ frame ∈ frames, frame.setOp me = op)
    (hop : op.apply (sn.othersIn me room) = sn'.othersIn me room) :
    Follows sn' me requests' room v (queue ++ frames.map fun f => (some room, f)) := by
  refine h.append hmember hstaying ?_
  rw [pendingOps_self, ← hop]
  refine SetOp.replay_batch ?_ (List.mem_map.mpr hsome) _
  intro o ho
  obtain ⟨frame, hframe, rfl⟩ := List.mem_map.mp ho
  exact hframes frame hframe

/-- **Registration.** -/
lemma serves_registerNode (hreg : Registry C sn node) (hup : up b = request :: rest) (io : ServeIo)
    {natType : NatType} {externalAddr : Option SocketAddr} {publicKey : Key}
    {candidates : List Candidate} {nickname : String} {localNetworks : List String}
    (hrequest : request = .registerNode (node b) natType externalAddr publicKey candidates nickname
      localNetworks) (tag : Option RoomId) :
    let out := sn.receive C.env io.lossless request (C.addr b)
    Serves C sn node up b rest out.sn tag out.frames := by
  subst hrequest
  intro out
  obtain ⟨hrooms, htable, haddr, addrs, hframes⟩ := sn.receive_registerNode C.env
    io.lossless_sendOk (C.addr b) (node b) natType externalAddr publicKey candidates nickname
    localNetworks
  have hmembers := Supernode.membersOf_congr hrooms
  refine serves_neutral ⟨hreg.injective, ?_, ?_, ?_⟩ hup hmembers ?_ tag
  · intro a id hid
    rw [htable, KeyMap.lookup_insert_eq] at hid
    rw [haddr]
    split_ifs at hid with heq
    · obtain rfl := Option.some.inj hid
      obtain rfl := C.addr_injective heq
      exact ⟨rfl, if_pos rfl⟩
    · obtain ⟨rfl, hold⟩ := hreg.registered a id hid
      refine ⟨rfl, ?_⟩
      rw [if_neg fun h => heq (congrArg C.addr (hreg.injective h)), hold]
  · exact fun room => hmembers room ▸ hreg.keyed room
  · intro room id hid
    rw [hmembers] at hid
    obtain ⟨a, rfl, hold⟩ := hreg.reachable room id hid
    refine ⟨a, rfl, ?_⟩
    rw [haddr]
    split_ifs with heq
    · rw [hreg.injective heq]
    · exact hold
  · intro entry hentry
    rw [hframes] at hentry
    rcases List.mem_cons.mp hentry with rfl | hpunch
    · exact ⟨rfl, rfl⟩
    · obtain ⟨x, -, rfl⟩ := List.mem_map.mp hpunch
      exact ⟨rfl, rfl⟩

/-- **Creating a room** whose id is new. -/
lemma serves_createRoom (hreg : Registry C sn node) {name : String}
    (hup : up b = .createRoom name :: rest) (io : ServeIo) (hfresh : io.roomId ∉ sn.rooms)
    (hstaying : .leaveRoom io.roomId ∉ up b) :
    let out := sn.receive C.env io.lossless (.createRoom name) (C.addr b)
    Serves C sn node up b rest out.sn (some io.roomId) out.frames := by
  intro out
  have heffect := sn.receive_createRoom C.env io.lossless_sendOk (C.addr b) name
  change Supernode.CreateEffect sn io.roomId (C.addr b) out.sn out.frames at heffect
  generalize out.sn = sn' at heffect ⊢
  generalize out.frames = frames at heffect ⊢
  cases heffect with
  | refused hsame hmembers hframes =>
      refine serves_neutral (hreg.same hsame hmembers) hup hmembers ?_ _
      rcases hframes with rfl | rfl
      · simp
      · simp [ControlFrame.Neutral, ControlFrame.carriesPeers, ControlFrame.activates]
  | @created id member hsame hid hmember hmembers hframes =>
      obtain ⟨rfl, -⟩ := hreg.registered b id hid
      have honly : ∀ id, id ∈ (∅ : KeyMap NodeId Member).insert (node b) member ↔ id = node b := by
        intro id
        rw [AList.mem_insert, or_iff_left (AList.notMem_empty id)]
      have hrooms := (hmembers io.roomId).trans (if_pos rfl)
      refine serves_room (hreg.room hsame hmembers ?_ fun id hmem => ?_) hup hmembers
        (fun a v queue h => ?_) fun a room frame post v hocc hact hcreated => ?_
      · intro id m hm
        obtain rfl := (honly id).mp (KeyMap.mem_iff_lookup.mpr ⟨m, hm⟩)
        rw [AList.lookup_insert] at hm
        rw [← Option.some.inj hm, hmember]
      · exact .inr ⟨b, (honly id).mp hmem ▸ hid⟩
      · -- nobody follows a room that does not exist
        have hmem := h.member
        rw [Supernode.membersOf, AList.lookup_eq_none.mpr hfresh] at hmem
        cases AList.notMem_empty _ hmem
      · rcases hframes with rfl | ⟨ip, cidr, code, rfl⟩
        · cases mem_sentTo.mp hocc.mem
        · obtain ⟨rfl, hab⟩ := Prod.mk.inj (List.mem_singleton.mp (mem_sentTo.mp hocc.mem))
          obtain rfl := C.addr_injective hab
          obtain rfl : io.roomId = room := Option.some.inj hact
          obtain rfl := hcreated rfl
          rw [sentTo_cons_self] at hocc
          rcases occurs_cons hocc with ⟨-, rfl⟩ | hocc
          · refine ⟨?_, not_mem_update hup hstaying, Set.ext fun id => ?_⟩
            · rw [hrooms]
              exact (honly _).mpr rfl
            · refine ⟨fun h => h.elim, fun hother => hother.2 ((honly id).mp ?_)⟩
              rw [← hrooms]
              exact hother.1
          · cases hocc.mem

omit [DecidableEq ι] in
/-- **The joining node** is let in, and the frames behind that tell it who is in the room,
whatever it knew before. -/
lemma joinFrames_start (hreg : Registry C sn' node) {roomId : RoomId} {room : Room}
    (hrooms : sn'.membersOf roomId = room.members) {sn₁ : Supernode}
    (haddr : ∀ id, sn₁.addrOf id = sn'.addrOf id) (ip : VirtualIp) {joined : Member}
    (hnode : joined.nodeId = node b) :
    ∃ accept tail, sentTo (C.addr b) (sn₁.joinFrames roomId room ip joined (C.addr b)) =
        accept :: tail ∧ accept.activates = some roomId ∧ (∀ frame ∈ tail, frame.activates = none) ∧
      ∀ v, SetOp.replay v (tail.map fun f => f.setOp (node b)) = sn'.othersIn (node b) roomId := by
  have hkeyed : Supernode.KeyedByNode room.members := hrooms ▸ hreg.keyed roomId
  obtain ⟨cidr, name, tail, hsent, htail⟩ := sn₁.joinFrames_self roomId room ip joined (C.addr b)
    hkeyed fun id hid hne => by
      obtain ⟨a, rfl, ha⟩ := hreg.reachable roomId id (hrooms ▸ hid)
      rw [haddr, ha, Ne, Option.some_inj]
      exact fun hab => hne ((congrArg node (C.addr_injective hab)).trans hnode.symm)
  refine ⟨_, _, hsent, rfl, ?_, fun v => ?_⟩
  · intro frame hframe
    rcases List.mem_cons.mp hframe with rfl | hframe
    · rfl
    · exact (htail frame hframe).2
  · rw [List.map_cons, SetOp.replay_cons, Supernode.setOp_peerList _ hkeyed, SetOp.replay_skip,
      Supernode.othersIn, hrooms]
    · rfl
    · intro op hop
      obtain ⟨frame, hframe, rfl⟩ := List.mem_map.mp hop
      exact (htail frame hframe).setOp _

/-- **Joining a room.** -/
lemma serves_joinRoom (hreg : Registry C sn node) {roomId : RoomId} {token name : Option String}
    (hup : up b = .joinRoom roomId token name :: rest) (io : ServeIo)
    (hstaying : .leaveRoom roomId ∉ rest) :
    let out := sn.receive C.env io.lossless (.joinRoom roomId token name) (C.addr b)
    Serves C sn node up b rest out.sn (some roomId) out.frames := by
  intro out
  have heffect := sn.receive_joinRoom C.env io.lossless_sendOk (C.addr b) roomId token name
  change Supernode.JoinEffect sn roomId (C.addr b) out.sn out.frames at heffect
  generalize out.sn = sn' at heffect ⊢
  generalize out.frames = frames at heffect ⊢
  cases heffect with
  | refused hsame hmembers hframes =>
      refine serves_neutral (hreg.same hsame hmembers) hup hmembers ?_ _
      rcases hframes with rfl | ⟨reason, rfl⟩
      · simp
      · simp [ControlFrame.Neutral, ControlFrame.carriesPeers, ControlFrame.activates]
  | @joined sn₁ room ip id member hsame hid hmember hnew hothers hmembers hsame₁ =>
      obtain ⟨rfl, -⟩ := hreg.registered b id hid
      have hrooms := (hmembers roomId).trans (if_pos rfl)
      have hnode : member.nodeId = node b := hnew.elim id fun h => hreg.keyed _ _ _ h
      have hmem : ∀ x ≠ node b, (x ∈ sn'.membersOf roomId ↔ x ∈ sn.membersOf roomId) := by
        intro x hx
        rw [hrooms, KeyMap.mem_iff_lookup, KeyMap.mem_iff_lookup, hothers x hx]
      have hself : node b ∈ sn'.membersOf roomId :=
        hrooms ▸ KeyMap.mem_iff_lookup.mpr ⟨member, hmember⟩
      have hreg' : Registry C sn' node := hreg.join hsame hmembers hid hmember hnode hothers
      obtain ⟨accept, tail, hsent, haccept, htail, hview⟩ := joinFrames_start hreg' hrooms
        (fun x => (hsame₁.addrOf x).trans (hsame.addrOf x).symm) ip hnode
      have hadds := fun a (hab : a ≠ b) => sn₁.setOp_joinFrames roomId room ip member (C.addr b)
        (fun h => hab (C.addr_injective h)) (hnode.trans_ne fun h => hab (hreg.injective h).symm)
      refine serves_room hreg' hup hmembers (fun a v queue h => ?_)
        fun a r frame post v hocc hact _ => ?_
      · by_cases hab : a = b
        · subst hab
          rw [Function.update_self, hsent]
          refine h.append hself hstaying ?_
          rw [pendingOps_self, List.map_cons, SetOp.replay_cons]
          exact hview _
        · have hne : node a ≠ node b := fun h => hab (hreg.injective h)
          have hmember := (hmem _ hne).mpr h.member
          refine h.batch hmember (not_mem_update hup h.staying)
            (fun frame hframe => ((hadds a hab).1 frame hframe).2)
            ((hadds a hab).2 (hrooms ▸ hreg'.keyed roomId) (hrooms ▸ hmember) ?_) ?_
          · rw [hsame₁.addrOf]
            exact hreg.addrOf_member h.member
          · rw [hnode]
            exact Supernode.insert_othersIn hne.symm hself hmem
      · by_cases hab : a = b
        · subst hab
          rw [hsent] at hocc
          rw [Function.update_self]
          rcases occurs_cons hocc with ⟨rfl, rfl⟩ | hocc
          · obtain rfl : roomId = r := Option.some.inj (haccept.symm.trans hact)
            refine ⟨hself, hstaying, ?_⟩
            rw [pendingOps_self]
            exact hview v
          · rw [htail frame hocc.mem] at hact
            cases hact
        · rw [((hadds a hab).1 frame hocc.mem).1] at hact
          cases hact

/-- **Leaving a room.** -/
lemma serves_leaveRoom (hreg : Registry C sn node) {roomId : RoomId}
    (hup : up b = .leaveRoom roomId :: rest) (io : ServeIo) :
    let out := sn.receive C.env io.lossless (.leaveRoom roomId) (C.addr b)
    Serves C sn node up b rest out.sn (some roomId) out.frames := by
  intro out
  have heffect := sn.receive_leaveRoom C.env io.lossless_sendOk (C.addr b) roomId
  change Supernode.LeaveEffect sn roomId (C.addr b) out.sn out.frames at heffect
  generalize out.sn = sn' at heffect ⊢
  generalize out.frames = frames at heffect ⊢
  cases heffect with
  | ignored hsame hmembers =>
      exact serves_neutral (hreg.same hsame hmembers) hup hmembers (by simp) _
  | @left sn₁ left id hsame hid hleft hmembers hsame₁ =>
      obtain ⟨rfl, -⟩ := hreg.registered b id hid
      have hrooms := (hmembers roomId).trans (if_pos rfl)
      have hreg' : Registry C sn' node := by
        refine hreg.room hsame hmembers (fun x m hm => ?_) fun x hx => ?_
        · rw [hleft, KeyMap.lookup_erase_eq] at hm
          split_ifs at hm
          exact hreg.keyed _ x m hm
        · rw [hleft, AList.mem_erase] at hx
          exact .inl hx.2
      refine serves_room hreg' hup hmembers (fun a v queue h => ?_)
        fun a r frame post v hocc hact _ => ?_
      · -- the leaving node itself has asked to leave
        have hab : a ≠ b := by
          rintro rfl
          exact h.staying (hup ▸ List.mem_cons_self)
        have hmember : node a ∈ left.members := by
          rw [hleft, AList.mem_erase]
          exact ⟨fun h => hab (hreg.injective h), h.member⟩
        cases hremoved : (sn.membersOf roomId).lookup (node b) with
        | none =>
            refine h.append_skip ?_ (not_mem_update hup h.staying) fun op hop => by cases hop
            rw [hrooms, hleft]
            exact AList.ext (List.kerase_of_notMem_keys (AList.lookup_eq_none.mp hremoved))
        | some removed =>
            have hnode : removed.nodeId = node b := hreg.keyed _ _ _ hremoved
            obtain ⟨hall, hsome⟩ := sn₁.setOp_leaveFrames left removed (C.addr a) (node a)
            refine h.batch (hrooms ▸ hmember) (not_mem_update hup h.staying)
              (fun frame hframe => .inr (hall frame hframe).2) (hsome (hrooms ▸ hreg'.keyed roomId)
                hmember (hsame₁.addrOf _ ▸ hreg.addrOf_member h.member)) ?_
            rw [hnode]
            exact Supernode.othersIn_diff (hrooms.trans hleft)
      · cases hremoved : (sn.membersOf roomId).lookup (node b) with
        | none =>
            rw [hremoved] at hocc
            cases hocc.mem
        | some removed =>
            rw [hremoved] at hocc
            rw [((sn₁.setOp_leaveFrames left removed _ (node a)).1 frame hocc.mem).1] at hact
            cases hact

end Serve

end R2N
