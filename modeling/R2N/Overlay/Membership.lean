import R2N.Lib.Run
import R2N.Overlay.Service

/-!
# Do the edges know who is in their room?

The frames that carry peers do not say for which room they are, and an edge that creates a room is
not told who is in it: its peer table is right only if nothing is left over from elsewhere.

* `Overlay.Orderly` — the condition on a step under which nothing is.
* `Upholds` — one edge follows the room it is in, and every room it will be let into.
* `Upholds.ask`, `Upholds.deliver`, `Upholds.serve` — the steps.
* **`Overlay.membership_agreement`** — when nothing is in flight, every edge that is in a room knows
  exactly the other members.
* **`Overlay.create_and_join_disagree`** — an edge that creates a room and joins one at once.
-/

namespace R2N

open Queue Run

variable {ι : Type*}

/-! ## Requests -/

/-- A request an edge with this id sends to the supernode. -/
def ControlFrame.IsRequest (me : NodeId) : ControlFrame → Prop
  | .registerNode nodeId _ _ _ _ _ _ => nodeId = me
  | .createRoom _ | .joinRoom _ _ _ | .leaveRoom _ => True
  | _ => False

/-- The request asks for a new room. -/
def ControlFrame.isCreateRoom : ControlFrame → Bool
  | .createRoom _ => true
  | _ => false

/-! ## One edge -/

/-- The edge follows the room it is in, unless it is leaving it, and is told what it needs with
every frame that will let it into one. -/
structure Upholds (sn : Supernode) (e : Edge) (up : List ControlFrame)
    (down : List (Option RoomId × ControlFrame)) : Prop where
  requests : ∀ frame ∈ up, frame.IsRequest e.nodeId
  order : ∀ room frame post, Occurs up frame post → frame.joins = some room →
    .leaveRoom room ∉ post
  active : ∀ room, e.roomId = some room → e.leaving = false →
    Follows sn e.nodeId up room e.known down
  flight : ∀ room entry post v, Occurs down entry post → entry.2.activates = some room →
    (entry.2.isRoomCreated = true → v = ∅) → Follows sn e.nodeId up room v post

/-- Asking for something else than to leave. -/
lemma Follows.ask {sn : Supernode} {me : NodeId} {requests : List ControlFrame} {room : RoomId}
    {v : Set NodeId} {queue : List (Option RoomId × ControlFrame)} {frame : ControlFrame}
    (h : Follows sn me requests room v queue) (hframe : frame ≠ .leaveRoom room) :
    Follows sn me (requests ++ [frame]) room v queue where
  member := h.member
  staying := by
    rw [List.mem_append, List.mem_singleton]
    exact not_or.mpr ⟨h.staying, hframe.symm⟩
  view := h.view

/-- Handling the first frame of the queue: one for another room must say nothing. -/
lemma Follows.tail {sn : Supernode} {me : NodeId} {requests : List ControlFrame} {room : RoomId}
    {v : Set NodeId} {tag : Option RoomId} {frame : ControlFrame}
    {queue : List (Option RoomId × ControlFrame)}
    (h : Follows sn me requests room v ((tag, frame) :: queue))
    (hframe : frame.carriesPeers = true → tag = some room) :
    Follows sn me requests room ((frame.setOp me).apply v) queue where
  member := h.member
  staying := h.staying
  view := by
    rw [← h.view]
    by_cases htag : tag = some room
    · simp [pendingOps, htag]
    · have hskip : frame.setOp me = .skip :=
        ControlFrame.setOp_of_not_carriesPeers (by simpa using mt hframe htag) me
      simp [pendingOps, htag, hskip, SetOp.apply]

namespace Upholds

variable {sn : Supernode} {e e' : Edge} {up : List ControlFrame}
  {down : List (Option RoomId × ControlFrame)}

/-- **Asking for something.**  A leave is for a room that nobody is about to let the edge into, and
ends the edge's interest in its own; with any other request its room and peers stay. -/
lemma ask (h : Upholds sn e up down) {frame : ControlFrame} (hframe : frame.IsRequest e.nodeId)
    (hnode : e'.nodeId = e.nodeId)
    (hleave : ∀ room, frame = .leaveRoom room →
      (∀ f ∈ up, f.joins ≠ some room) ∧ ∀ entry ∈ down, entry.2.activates ≠ some room)
    (hstays : e'.leaving = false → (∀ room, frame ≠ .leaveRoom room) ∧ e.leaving = false ∧
      e'.roomId = e.roomId ∧ e'.known = e.known) : Upholds sn e' (up ++ [frame]) down where
  requests := by
    intro f hf
    rw [hnode]
    rcases List.mem_append.mp hf with hf | hf
    · exact h.requests f hf
    · rwa [List.mem_singleton.mp hf]
  order := by
    intro room f post hocc hjoins
    rcases occurs_append hocc with ⟨post', hold, rfl⟩ | hnew
    · rw [List.mem_append, List.mem_singleton]
      refine not_or.mpr ⟨h.order room f post' hold hjoins, fun heq => ?_⟩
      exact (hleave room heq.symm).1 f hold.mem hjoins
    · rcases occurs_cons hnew with ⟨-, rfl⟩ | hnil
      · exact List.not_mem_nil
      · cases hnil.mem
  active := by
    intro room hroom hleaving
    obtain ⟨hother, hleaving', hroom', hknown⟩ := hstays hleaving
    rw [hnode, hknown]
    exact (h.active room (hroom' ▸ hroom) hleaving').ask (hother room)
  flight := by
    intro room entry post v hocc hact hv
    rw [hnode]
    exact (h.flight room entry post v hocc hact hv).ask fun heq =>
      (hleave room heq).2 entry hocc.mem hact

/-- Registering. -/
lemma register (h : Upholds sn e up down) (N : Noise) :
    Upholds sn e (up ++ [e.registerNode N]) down :=
  h.ask rfl rfl (fun _ => nofun)
    fun hleaving => ⟨fun _ => nofun, hleaving, rfl, rfl⟩

/-- **A command.** -/
lemma command (h : Upholds sn e up down) (cmd : EdgeCommand)
    (hleave : cmd = .leaveRoom → e.leaving = false →
      (∀ f ∈ up, f.joins ≠ some (e.roomId.getD (.fill 0))) ∧
        ∀ entry ∈ down, entry.2.activates ≠ some (e.roomId.getD (.fill 0))) :
    Upholds sn (e.handleCommand cmd true).edge
      (up ++ (e.handleCommand cmd true).frames.map Prod.fst) down := by
  have hsilent : Upholds sn (EdgeOutcome.silent e).edge
      (up ++ (EdgeOutcome.silent e).frames.map Prod.fst) down := (List.append_nil up).symm ▸ h
  unfold Edge.handleCommand
  by_cases hleaving : e.leaving = true
  · rw [if_pos hleaving]
    exact hsilent
  · rw [if_neg hleaving]
    rw [Bool.not_eq_true] at hleaving
    cases cmd with
    | leaveRoom =>
        refine h.ask trivial rfl (fun room heq => ?_) fun hstays => by cases hstays
        rw [← ControlFrame.leaveRoom.inj heq]
        exact hleave rfl hleaving
    | createRoom name =>
        dsimp only
        split_ifs
        · exact hsilent
        · exact h.ask trivial rfl (fun _ => nofun)
            fun _ => ⟨fun _ => nofun, hleaving, rfl, rfl⟩
    | joinRoom room token roomName supernode =>
        dsimp only
        split_ifs
        · exact hsilent
        · exact h.ask trivial rfl (fun _ => nofun)
            fun _ => ⟨fun _ => nofun, hleaving, rfl, rfl⟩

/-- The end of a leave. -/
lemma finishLeave (h : Upholds sn e up down) : Upholds sn e.finishLeave up down where
  requests := h.requests
  order := h.order
  active := fun _ hroom _ => by cases hroom
  flight := h.flight

/-- **Handling a frame**: one that carries peers is for the room the edge is in, and the answer to
a creation finds no peers. -/
lemma deliver {tag : Option RoomId} {frame : ControlFrame}
    (h : Upholds sn e up ((tag, frame) :: down)) (N : Noise) (addr : SocketAddr) (io : EdgeIo)
    (hcreated : e.roomId = none → frame.isRoomCreated = true → e.known = ∅)
    (hpeers : frame.carriesPeers = true → e.leaving = false → ∀ room ∈ e.roomId, tag = some room) :
    Upholds sn (e.handleControl N frame addr io).edge up down := by
  have hnode := e.handleControl_nodeId N frame addr io
  have hknown := e.handleControl_known N frame addr io
  refine ⟨hnode ▸ h.requests, h.order, fun room hroom hstays => ?_,
    fun room entry post v hocc => ?_⟩
  · rw [(e.handleControl_keeps N frame addr io).2.1] at hstays
    rw [hnode, hknown]
    rcases Edge.handleControl_roomId hroom with hold | ⟨hnone, hact⟩
    · exact (h.active room hold hstays).tail fun hcarries => hpeers hcarries hstays room hold
    · rw [ControlFrame.setOp_of_activates hact]
      exact h.flight room (tag, frame) down e.known ⟨[], rfl⟩ hact (hcreated hnone)
  · rw [hnode]
    exact h.flight room entry post v (hocc.cons _)

/-- **Being served**, the edge itself or another one. -/
lemma serve [DecidableEq ι] {C : OverlayConfig ι} {edges : ι → Edge} {ups : ι → List ControlFrame}
    {a b : ι} {request : ControlFrame} {rest : List ControlFrame} {sn' : Supernode}
    {tag : Option RoomId} {frames : List (ControlFrame × SocketAddr)}
    (h : Upholds sn (edges a) (ups a) down) (hup : ups b = request :: rest)
    (hserves : Serves C sn (fun a => (edges a).nodeId) ups b rest sn' tag frames) :
    Upholds sn' (edges a) (Function.update ups b rest a)
      (down ++ (sentTo (C.addr a) frames).map fun f => (tag, f)) where
  requests := fun frame hframe => by
    by_contra hnot
    exact not_mem_update hup (mt (h.requests frame) hnot) hframe
  order := by
    intro room frame post hocc
    by_cases hab : a = b
    · subst hab
      rw [Function.update_self] at hocc
      exact h.order room frame post (hup ▸ hocc.cons request)
    · rw [Function.update_of_ne hab] at hocc
      exact h.order room frame post hocc
  active := fun room hroom hleaving => hserves.follows a room _ _ (h.active room hroom hleaving)
  flight := by
    intro room entry post v hocc hact hv
    rcases occurs_append hocc with ⟨post', hold, rfl⟩ | hnew
    · exact hserves.follows a room v post' (h.flight room entry post' v hold hact hv)
    · obtain ⟨frame, post', hframe, rfl, rfl⟩ := hnew.of_map
      exact hserves.admits a room frame post' v hframe hact hv

end Upholds

/-! ## The whole system -/

namespace Overlay

/-- The condition on a step.
* An edge that leaves a room has no request to join it and no answer that lets it in on the way.
* The supernode draws a new id for a room it creates, and one the edge has not asked to leave.
* The answer to a creation finds an edge without peers, unless it is in a room already.
* A frame that carries peers, handled in a room, was sent for this room. -/
def Orderly (s : Overlay ι) : OverlayInput ι → Prop
  | .command a .leaveRoom =>
      (s.edges a).leaving = false →
        (∀ frame ∈ s.up a, frame.joins ≠ some ((s.edges a).roomId.getD (.fill 0))) ∧
          ∀ entry ∈ s.down a, entry.2.activates ≠ some ((s.edges a).roomId.getD (.fill 0))
  | .serve a io =>
      ∀ frame ∈ (s.up a).head?, frame.isCreateRoom = true →
        io.roomId ∉ s.sn.rooms ∧ .leaveRoom io.roomId ∉ s.up a
  | .deliver a _ =>
      ∀ entry ∈ (s.down a).head?,
        ((s.edges a).roomId = none → entry.2.isRoomCreated = true → (s.edges a).peers.keys = []) ∧
          (entry.2.carriesPeers = true → (s.edges a).leaving = false →
            ∀ room ∈ (s.edges a).roomId, entry.1 = some room)
  | _ => True

instance (s : Overlay ι) (input : OverlayInput ι) : Decidable (s.Orderly input) := by
  unfold Orderly
  split <;> infer_instance

/-- Nobody has registered, and nobody is in a room or about to be; the edges have different ids. -/
structure Fresh (s : Overlay ι) : Prop where
  addrToNode : s.sn.addrToNode = ∅
  rooms : s.sn.rooms = ∅
  up : ∀ a, s.up a = []
  down : ∀ a, s.down a = []
  roomId : ∀ a, (s.edges a).roomId = none
  injective : Function.Injective fun a => (s.edges a).nodeId

/-- The supernode knows the edges, and every edge follows its room. -/
structure Consistent (C : OverlayConfig ι) (s : Overlay ι) : Prop where
  registry : Registry C s.sn fun a => (s.edges a).nodeId
  upholds : ∀ a, Upholds s.sn (s.edges a) (s.up a) (s.down a)

lemma Fresh.consistent {s : Overlay ι} (h : s.Fresh) (C : OverlayConfig ι) : Consistent C s := by
  have hmembers : ∀ room, s.sn.membersOf room = ∅ := fun room => by
    rw [Supernode.membersOf, h.rooms]
    rfl
  refine ⟨⟨h.injective, ?_, ?_, ?_⟩, fun a => ⟨?_, ?_, ?_, ?_⟩⟩
  · intro a id hid
    rw [h.addrToNode] at hid
    cases hid
  · intro room id member hmember
    rw [hmembers] at hmember
    cases hmember
  · intro room id hid
    rw [hmembers] at hid
    cases AList.notMem_empty _ hid
  · simp [h.up a]
  · intro room frame post hocc
    cases h.up a ▸ hocc.mem
  · intro room hroom
    rw [h.roomId a] at hroom
    cases hroom
  · intro room entry post v hocc
    cases h.down a ▸ hocc.mem

variable [DecidableEq ι] {C : OverlayConfig ι} {s : Overlay ι}

/-- A step of edge `a` that the supernode does not take part in. -/
lemma Consistent.update (h : Consistent C s) (a : ι) {e : Edge} {up : List ControlFrame}
    {down : List (Option RoomId × ControlFrame)} (hnode : e.nodeId = (s.edges a).nodeId)
    (hupholds : Upholds s.sn e up down) :
    Consistent C { s with
      edges := Function.update s.edges a e
      up := Function.update s.up a up
      down := Function.update s.down a down } := by
  have hnodes : (fun b => (Function.update s.edges a e b).nodeId) =
      fun b => (s.edges b).nodeId := by
    funext b
    by_cases hb : b = a
    · subst hb
      rw [Function.update_self, hnode]
    · rw [Function.update_of_ne hb]
  refine ⟨hnodes ▸ h.registry, fun b => ?_⟩
  by_cases hb : b = a
  · subst hb
    simpa only [Function.update_self] using hupholds
  · simpa only [Function.update_of_ne hb] using h.upholds b

/-- **A request is served.** -/
lemma Consistent.serve (h : Consistent C s) (b : ι) (io : ServeIo)
    (horderly : s.Orderly (.serve b io)) : Consistent C (s.step C (.serve b io)) := by
  simp only [step]
  split_ifs with hstuck
  · exact h
  · cases hup : s.up b with
    | nil => exact h
    | cons request rest =>
        have hserves : Serves C s.sn (fun a => (s.edges a).nodeId) s.up b rest
            (s.sn.receive C.env io.lossless request (C.addr b)).sn (io.room request)
            (s.sn.receive C.env io.lossless request (C.addr b)).frames := by
          have hrequest := (h.upholds b).requests request (hup ▸ List.mem_cons_self)
          cases request with
          | registerNode id natType externalAddr publicKey candidates nickname localNetworks =>
              obtain rfl : id = (s.edges b).nodeId := hrequest
              exact serves_registerNode h.registry hup io rfl _
          | createRoom name =>
              obtain ⟨hfresh, hstaying⟩ := horderly _ (by rw [hup]; rfl) rfl
              exact serves_createRoom h.registry hup io hfresh hstaying
          | joinRoom room token name =>
              exact serves_joinRoom h.registry hup io
                ((h.upholds b).order room _ rest ⟨[], hup⟩ rfl)
          | leaveRoom room => exact serves_leaveRoom h.registry hup io
          | _ => cases hrequest
        exact ⟨hserves.registry, fun a => (h.upholds a).serve hup hserves⟩

/-- An orderly step keeps the tables of the supernode and what each edge is told in agreement. -/
lemma Consistent.step (h : Consistent C s) {input : OverlayInput ι} (horderly : s.Orderly input) :
    Consistent C (s.step C input) := by
  cases input with
  | register a =>
      have hstep := h.update a rfl ((h.upholds a).register C.noise)
      simpa only [Overlay.step, Function.update_eq_self] using hstep
  | command a cmd =>
      have hstep := h.update a ((s.edges a).handleCommand_keeps cmd true).1
        ((h.upholds a).command cmd fun hcmd => by subst hcmd; exact horderly)
      simpa only [Overlay.step, Function.update_eq_self] using hstep
  | finishLeave a =>
      have hstep := h.update a (e := (s.edges a).finishLeave) rfl (h.upholds a).finishLeave
      simp only [Overlay.step]
      split_ifs
      · simpa only [Function.update_eq_self] using hstep
      · exact h
  | serve b io => exact h.serve b io horderly
  | deliver a io =>
      simp only [Overlay.step]
      cases hdown : s.down a with
      | nil => exact h
      | cons entry rest =>
          obtain ⟨tag, frame⟩ := entry
          obtain ⟨hcreated, hpeers⟩ := horderly (tag, frame) (by rw [hdown]; rfl)
          have hempty : (s.edges a).roomId = none → frame.isRoomCreated = true →
              (s.edges a).known = ∅ := by
            refine fun hnone hframe => Set.eq_empty_of_forall_notMem fun id hid => ?_
            have hmem := AList.mem_keys.mp hid
            rw [hcreated hnone hframe] at hmem
            cases hmem
          have hstep := h.update a ((s.edges a).handleControl_nodeId C.noise frame _ io)
            ((hdown ▸ h.upholds a).deliver C.noise (s.edges a).supernodeAddr io hempty hpeers)
          simpa only [Function.update_eq_self] using hstep

/-- **Membership agreement.**  Over every run from a fresh start whose steps are orderly: whenever
nothing is in flight, an edge that is in a room, and not on its way out, knows exactly the other
members the supernode has. -/
theorem membership_agreement (C : OverlayConfig ι) {s : Overlay ι} (hs : s.Fresh)
    (inputs : List (OverlayInput ι))
    (horderly : Along (Overlay.step C) (fun s input => s.Orderly input) s inputs) :
    let t := run (Overlay.step C) s inputs
    (∀ a, t.up a = [] ∧ t.down a = []) →
      ∀ a room, (t.edges a).roomId = some room → (t.edges a).leaving = false →
        ∀ id, id ∈ (t.edges a).peers ↔ id ∈ t.sn.membersOf room ∧ id ≠ (t.edges a).nodeId := by
  intro t hquiet a room hroom hstays id
  have ht : Consistent C t := Run.invariant (fun s input h hinput => h.step hinput) inputs s
    (hs.consistent C) horderly
  have hview := ((ht.upholds a).active room hroom hstays).view
  rw [(hquiet a).2] at hview
  exact Set.ext_iff.mp hview id

/-! ## Two edges -/

/-- Nodes 1 and 2 at their addresses. -/
def twoEdges : OverlayConfig Bool where
  noise := .transparent
  env := .plain
  addr := fun b => .localhost (if b then 2 else 1)
  addr_injective := by
    intro a b
    revert a b
    decide

/-- Both right after their start. -/
def start : Overlay Bool where
  sn := .fresh
  stuck := false
  edges := fun b => .sample (if b then 2 else 1)
  up := fun _ => []
  down := fun _ => []

lemma start_fresh : start.Fresh where
  addrToNode := rfl
  rooms := rfl
  up := fun _ => rfl
  down := fun _ => rfl
  roomId := fun _ => rfl
  injective := by
    intro a b
    revert a b
    decide

/-- The supernode serves a request of the edge; a room it creates gets the given id. -/
def serveAs (b : Bool) (id : UInt8) : OverlayInput Bool :=
  .serve b { now := 0, roomId := .fill id, joinToken := .fill 16 0, localAddr := some "" }

/-- The edge handles the next frames of its queue. -/
def deliverTo (b : Bool) (frames : ℕ) : List (OverlayInput Bool) :=
  List.replicate frames (.deliver b (Edge.sampleIo 0 0))

/-- Node 1 asks to join room 7. -/
def joinSeven : OverlayInput Bool :=
  .command false (.joinRoom (.fill 7) (some (lowerHex (ByteArr.fill 16 0).toList)) none
    (.localhost 9))

/-- Both nodes have registered, and node 2 has created room 7. -/
def hosted : List (OverlayInput Bool) :=
  [.register true, serveAs true 0, .register false, serveAs false 0, .command true (.createRoom ""),
    serveAs true 7] ++ deliverTo true 2 ++ deliverTo false 1

/-- Node 1 joins node 2 in room 7. -/
def oneJoin : List (OverlayInput Bool) :=
  hosted ++ [joinSeven, serveAs false 0] ++ deliverTo false 3 ++ deliverTo true 2

/-- Node 1 joins node 2, and then knows it. -/
theorem membership_agreement_one_join :
    let t := run (Overlay.step twoEdges) start oneJoin
    (t.edges false).roomId = some (.fill 7) ∧ .fill 2 ∈ (t.edges false).peers := by
  have hroom :
      ((run (Overlay.step twoEdges) start oneJoin).edges false).roomId = some (.fill 7) := by
    decide +kernel
  refine ⟨hroom, (membership_agreement twoEdges start_fresh oneJoin (by decide +kernel)
    (by decide +kernel) false (.fill 7) hroom (by decide +kernel) (.fill 2)).mpr ?_⟩
  decide +kernel

/-- **Creating a room and joining one at once.**  Node 1 asks for a room of its own and to join node
2 before either is answered; the supernode serves both.  Node 1 enters the new room 8, and the list
of peers that comes with the refused entry into room 7 fills its table. -/
theorem create_and_join_disagree :
    let t := run (Overlay.step twoEdges) start (hosted ++
      [.command false (.createRoom ""), joinSeven, serveAs false 8, serveAs false 0] ++
        deliverTo false 4 ++ deliverTo true 2)
    (∀ a, t.up a = [] ∧ t.down a = []) ∧ (t.edges false).roomId = some (.fill 8) ∧
      (t.edges false).leaving = false ∧ (t.edges false).peers.keys = [.fill 2] ∧
      (t.sn.membersOf (.fill 8)).keys = [.fill 1] := by
  decide +kernel

end Overlay

end R2N
