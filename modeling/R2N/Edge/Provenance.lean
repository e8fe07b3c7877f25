import R2N.Edge.Delivery
import R2N.Edge.TunLoop

/-!
# From device to device

What a node writes to its device has been read from the device of another node, as long as it came
under a key.  The TUN loop reads a packet, selects its targets and then sends to one target after
the other, and everything else an edge does may happen between two of these calls.  A station is an
edge with the calls that its TUN loop still has to make; the stations of a fleet are followed with
the packets their loops have taken and the frames they have encrypted.

* `DataPlane.defended` — the packet defence: what a round of the TUN loop goes on with.
* `Station.step` — an edge whose TUN loop makes one call at a time.
* **`Station.run_round`** — without anything in between, these calls are the round of the loop.
* `DevicePacket.SourceOf` — a packet of a device that may leave under a type.
* **`Stations.written_packets_sourced`** — whatever is written to a device from a frame that was
  accepted under a key was taken from the device of the node that the header names, passed the
  policy there, and passes the policy here.
-/

namespace R2N

open Run
open DataPlane (PacketTarget)

namespace DataPlane

/-! ## The packet defence -/

/-- What a round of `run_tun_loop` goes on with: a packet that is not answered, with its MSS
clamped.  A panic ends the loop. -/
def defended (dp : DataPlane) (mode : TunDeviceMode) (packet : Bytes) : Option Bytes :=
  let payload := recvTun packet
  match mode with
  | .tun =>
      if needsAnswer dp.tunMtu.toNat payload = .ok false then
        (clampMss payload dp.tunMtu.toNat).toOption.map Prod.snd
      else none
  | .tap => some payload

lemma tunRound_of_defended (A : Aead) (E : Etherparse) (now : Instant) (allowBroadcast : Bool)
    (net : PeerRef → NetAnswer) {dp : DataPlane} {mode : TunDeviceMode} {packet content : Bytes}
    (h : dp.defended mode packet = some content) :
    dp.tunRound A E now mode allowBroadcast net packet =
      .ok (dp.forwardTunPacket A E now mode allowBroadcast net content) := by
  cases mode with
  | tap =>
      obtain rfl := Option.some.inj h
      rfl
  | tun =>
      simp only [defended] at h
      split_ifs at h with hsmall
      simp only [tunRound, hsmall, Checked.ok_bind]
      cases hclamp : clampMss (recvTun packet) dp.tunMtu.toNat with
      | error fault =>
          rw [hclamp] at h
          cases h
      | ok result =>
          rw [hclamp] at h
          obtain rfl : result.2 = content := Option.some.inj h
          rfl

/-- A packet that the defence keeps back is not sent to anyone. -/
lemma tunRound_of_not_defended (A : Aead) (E : Etherparse) (now : Instant) (allowBroadcast : Bool)
    (net : PeerRef → NetAnswer) {dp : DataPlane} {mode : TunDeviceMode} {packet : Bytes}
    {round : TunRound} (h : dp.defended mode packet = none)
    (hround : dp.tunRound A E now mode allowBroadcast net packet = .ok round) :
    round.plane = dp ∧ round.sends = [] := by
  cases mode with
  | tap => cases h
  | tun =>
      simp only [defended] at h
      simp only [tunRound] at hround
      cases hlarge : needsAnswer dp.tunMtu.toNat (recvTun packet) with
      | error fault =>
          rw [hlarge] at hround
          cases hround
      | ok large =>
          rw [hlarge, Checked.ok_bind] at hround
          cases large with
          | true =>
              cases hicmp : buildIcmpFragNeeded (recvTun packet)
                  (UInt16.ofNat dp.tunMtu.toNat) with
              | error fault =>
                  rw [if_pos rfl, hicmp] at hround
                  cases hround
              | ok icmp =>
                  rw [if_pos rfl, hicmp] at hround
                  obtain rfl := Except.ok.inj hround
                  exact ⟨rfl, rfl⟩
          | false =>
              rw [if_pos hlarge] at h
              cases hclamp : clampMss (recvTun packet) dp.tunMtu.toNat with
              | error fault =>
                  rw [if_neg (by decide), hclamp] at hround
                  cases hround
              | ok result =>
                  rw [hclamp] at h
                  cases h

/-! ## The targets of a packet -/

/-- A packet has targets only if the policy lets it out. -/
lemma policyAllows_of_mem_tunTargets {E : Etherparse} {dp : DataPlane} {now : Instant}
    {mode : TunDeviceMode} {allowBroadcast : Bool} {payload : Bytes} {target : PacketTarget}
    (h : target ∈ (dp.tunTargets E now mode allowBroadcast payload).2.1) :
    dp.policyAllows E (dp.classifyTunPacket E mode payload).1 .outbound payload = true := by
  unfold tunTargets at h
  simp only at h
  split_ifs at h with hpolicy
  · cases h
  · cases h
  · simpa using hpolicy

/-- Selecting targets drops entries of the MAC table and changes nothing else. -/
lemma tunTargets_plane (E : Etherparse) (dp : DataPlane) (now : Instant) (mode : TunDeviceMode)
    (allowBroadcast : Bool) (payload : Bytes) :
    ∃ macTable, (dp.tunTargets E now mode allowBroadcast payload).2.2 = { dp with macTable } := by
  have hselect : ∀ frameMode t, ∃ macTable,
      (dp.selectTargets E now frameMode t payload).2 = { dp with macTable } := by
    intro frameMode t
    cases frameMode with
    | l3 => exact ⟨dp.macTable, rfl⟩
    | l2 =>
        simp only [selectTargets, selectL2Targets]
        split
        · exact ⟨_, rfl⟩
        · split <;> exact ⟨_, rfl⟩
  unfold tunTargets
  simp only
  split_ifs
  · exact ⟨dp.macTable, rfl⟩
  · exact hselect _ _
  · exact hselect _ _

/-- The targets are records of the table. -/
lemma lookup_of_mem_tunTargets {E : Etherparse} {dp : DataPlane} {now : Instant}
    {mode : TunDeviceMode} {allowBroadcast : Bool} {payload : Bytes} {target : PacketTarget}
    (h : target ∈ (dp.tunTargets E now mode allowBroadcast payload).2.1) :
    ∃ id, dp.peers.lookup id = some target.peer := by
  have hflood : target ∈ dp.floodTargets → ∃ id, dp.peers.lookup id = some target.peer := by
    intro hmem
    obtain ⟨r, hr, rfl⟩ := List.mem_map.mp hmem
    exact KeyMap.mem_values.mp hr
  have hselect := mem_selectTargets_of_mem_tunTargets h
  generalize (dp.classifyTunPacket E mode payload).1 = frameMode at hselect
  cases frameMode with
  | l3 =>
      simp only [selectTargets, selectL3Targets] at hselect
      split_ifs at hselect
      · exact hflood hselect
      · split at hselect
        · split at hselect
          · next r hfind =>
            obtain rfl := List.mem_singleton.mp hselect
            exact KeyMap.mem_values.mp (List.mem_of_find?_eq_some hfind)
          · cases hselect
        · cases hselect
  | l2 =>
      simp only [selectTargets, selectL2Targets] at hselect
      split at hselect
      · cases hselect
      · split at hselect
        · next r hknown =>
          obtain rfl := List.mem_singleton.mp hselect
          split_ifs at hknown
          obtain ⟨entry, -, hentry⟩ := Option.bind_eq_some_iff.mp hknown
          exact ⟨entry.nodeId, hentry⟩
        · exact hflood hselect

/-! ## The node of a plane -/

lemma localNodeId_sendToPeer (A : Aead) (E : Etherparse) (dp : DataPlane) (r : PeerRef)
    (t : DataPacketType) (payload : Bytes) (target : Option SocketAddr) (flood : Bool)
    (net : NetAnswer) :
    (dp.sendToPeer A E r t payload target flood net).plane.localNodeId = dp.localNodeId := by
  rcases dp.sendToPeer_effect A E r t payload target flood net with
    ⟨-, hplane, -⟩ | ⟨-, -, -, -, -, hnode, -⟩
  · rw [hplane]
  · exact hnode

lemma nextRef_sendToPeer (A : Aead) (E : Etherparse) (dp : DataPlane) (r : PeerRef)
    (t : DataPacketType) (payload : Bytes) (target : Option SocketAddr) (flood : Bool)
    (net : NetAnswer) :
    (dp.sendToPeer A E r t payload target flood net).plane.nextRef = dp.nextRef := by
  rcases dp.sendToPeer_effect A E r t payload target flood net with
    ⟨-, hplane, -⟩ | ⟨-, -, -, -, href, -⟩
  · rw [hplane]
  · exact href

lemma localNodeId_upsertPeer (dp : DataPlane) (peer : DataPeer) :
    (dp.upsertPeer peer).localNodeId = dp.localNodeId := by
  unfold upsertPeer
  split <;> rfl

lemma localNodeId_setDirectPath (dp : DataPlane) (now : Instant) (id : NodeId)
    (addr : SocketAddr) (c : Option Cipher) :
    (dp.setDirectPath now id addr c).localNodeId = dp.localNodeId := by
  unfold setDirectPath
  split <;> rfl

lemma localNodeId_addPeerCandidate (dp : DataPlane) (now : Instant) (id : NodeId)
    (addr : SocketAddr) : (dp.addPeerCandidate now id addr).localNodeId = dp.localNodeId := by
  unfold addPeerCandidate
  split <;> rfl

lemma localNodeId_handleIncomingFrame (A : Aead) (E : Etherparse) (macos : Bool) (dp : DataPlane)
    (h : DataHeader) (payload : Bytes) (addr : SocketAddr) (io : IncomingIo) :
    (dp.handleIncomingFrame A E macos h payload addr io).plane.localNodeId = dp.localNodeId := by
  rcases dp.handleIncomingFrame_cases A E macos h payload addr io with
    ⟨-, heap, seenFlood, result, hcall⟩ | ⟨r, packet, heap, seenFlood, -, -, hcall⟩
  · rw [hcall]
    rfl
  · obtain ⟨heap', macTable, hlearn⟩ :=
      ({ dp with heap, seenFlood } : DataPlane).learnFromPacket_plane r h packet addr io.now
    rw [hcall]
    simp only [handlePacket, hlearn]
    split
    · exact localNodeId_sendToPeer _ _ _ _ _ _ _ _ _
    split
    · unfold recordPong
      split
      · split_ifs <;> rfl
      · rfl
    split
    · rfl
    split <;> rfl

end DataPlane

namespace Edge

lemma localNodeId_addPeers (now : Instant) (l : List PeerInfo) (e : Edge) :
    (l.foldl (fun e peer => e.addPeer now peer) e).dataplane.localNodeId =
      e.dataplane.localNodeId := by
  induction l generalizing e with
  | nil => rfl
  | cons peer l ih =>
      exact (ih (e.addPeer now peer)).trans (e.dataplane.localNodeId_upsertPeer _)

lemma localNodeId_removePeers (l : List NodeId) (e : Edge) :
    (l.foldl removePeer e).dataplane.localNodeId = e.dataplane.localNodeId := by
  induction l generalizing e with
  | nil => rfl
  | cons id l ih => exact ih (e.removePeer id)

lemma localNodeId_activateRoom (e : Edge) (room : RoomId) (io : EdgeIo) :
    (e.activateRoom room io).2.dataplane.localNodeId = e.dataplane.localNodeId := by
  unfold activateRoom
  split
  · rfl
  · simp only
    split
    · rfl
    · split_ifs <;> rfl

lemma localNodeId_addPeerCandidates (now : Instant) (id : NodeId) (l : List Candidate)
    (dp : DataPlane) :
    (l.foldl (fun dp candidate => dp.addPeerCandidate now id candidate.addr) dp).localNodeId =
      dp.localNodeId := by
  induction l generalizing dp with
  | nil => rfl
  | cons candidate l ih =>
      exact (ih _).trans (dp.localNodeId_addPeerCandidate now id candidate.addr)

lemma localNodeId_handleControl (N : Noise) (e : Edge) (frame : ControlFrame) (addr : SocketAddr)
    (io : EdgeIo) :
    (e.handleControl N frame addr io).edge.dataplane.localNodeId = e.dataplane.localNodeId := by
  cases frame with
  | roomCreated room _ _ _ => exact e.localNodeId_activateRoom room io
  | joinAccept room _ _ _ => exact e.localNodeId_activateRoom room io
  | peerList roomPeers =>
      exact (localNodeId_removePeers _ _).trans (localNodeId_addPeers io.now _ e)
  | peerUpdate peer action =>
      cases action with
      | remove => rfl
      | add | update =>
          simp only [handleControl, EdgeOutcome.silent, handlePeerUpdate]
          split_ifs
          · rfl
          · exact localNodeId_addPeers io.now [peer] e
  | punchRequest target candidates =>
      simp only [handleControl, handlePunchRequest]
      split
      · rfl
      · split <;> exact localNodeId_addPeerCandidates io.now target candidates e.dataplane
  | handshake fromNode payload =>
      simp only [handleControl, handleHandshake]
      split
      · rfl
      · split
        · exact e.dataplane.localNodeId_setDirectPath io.now fromNode addr _
        · rfl
  | _ => rfl

/-- Nothing an edge does changes which node it is. -/
lemma localNodeId_step (P : Platform) (e : Edge) (i : EdgeInput) :
    (e.step P i).dataplane.localNodeId = e.dataplane.localNodeId := by
  cases i with
  | control frame addr io => exact e.localNodeId_handleControl P.noise frame addr io
  | data h payload addr io => exact e.dataplane.localNodeId_handleIncomingFrame _ _ _ _ _ _ _
  | command cmd sendOk => simp only [step, (e.handleCommand_keeps cmd sendOk).2]
  | finishLeave =>
      simp only [step]
      split_ifs <;> rfl
  | failover supernode => rfl
  | send call =>
      simp only [step]
      split_ifs
      · exact e.dataplane.localNodeId_sendToPeer _ _ _ _ _ _ _ _
      · rfl

end Edge

/-! ## Stations -/

/-- A packet that a TUN loop has read and goes on with: the plane it was read on, the mode of the
device, the packet as it was read, and as it is sent. -/
structure DevicePacket where
  plane : DataPlane
  mode : TunDeviceMode
  raw : Bytes
  content : Bytes

/-- The call that sends the packet to a target; the transport has not answered yet. -/
def DevicePacket.call (d : DevicePacket) (packetType : DataPacketType) (target : PacketTarget) :
    SendCall where
  fromTun := true
  peer := target.peer
  packetType := packetType
  payload := d.content
  target := none
  flood := target.flood
  net := .sent

/-- An edge, and the calls its TUN loop still has to make for the packet it has read. -/
structure Station where
  edge : Edge
  queue : List SendCall

/-- What a station does next: a step of the edge outside its sending loops, a ping, the reading of
a packet from the device, or the next call of the TUN loop. -/
inductive StationInput where
  | edge (i : EdgeInput)
  | ping (peer : PeerRef) (payload : Bytes) (target : SocketAddr) (net : NetAnswer)
  | device (mode : TunDeviceMode) (packet : Bytes) (now : Instant) (allowBroadcast : Bool)
  | next (net : NetAnswer)

namespace Station

/-- The packet the TUN loop goes on with.  It reads the next one only after its last call. -/
def takes (s : Station) : StationInput → Option DevicePacket
  | .device mode packet _ _ =>
      if s.queue = [] then
        (s.edge.dataplane.defended mode packet).map fun content =>
          { plane := s.edge.dataplane, mode, raw := packet, content }
      else none
  | _ => none

/-- The step of the edge that an input comes to. -/
def edgeInput (s : Station) : StationInput → Option EdgeInput
  | .edge (.send _) => none
  | .edge i => some i
  | .ping peer payload target net =>
      some (.send { fromTun := false, peer, packetType := .ping, payload, target := some target
                    flood := false, net })
  | .device _ _ _ _ => none
  | .next net => s.queue.head?.map fun call => .send { call with net }

def step (P : Platform) (s : Station) : StationInput → Station
  | .device mode packet now allowBroadcast =>
      match s.takes (.device mode packet now allowBroadcast) with
      | none => s
      | some d =>
          let selected :=
            s.edge.dataplane.tunTargets P.etherparse now mode allowBroadcast d.content
          { edge := { s.edge with dataplane := selected.2.2 }
            queue := selected.2.1.map (d.call selected.1) }
  | .next net =>
      { edge := ((s.edgeInput (.next net)).map (s.edge.step P)).getD s.edge
        queue := s.queue.tail }
  | i => { s with edge := ((s.edgeInput i).map (s.edge.step P)).getD s.edge }

/-- The frame a step encrypts. -/
def sealsBy (P : Platform) (s : Station) (i : StationInput) : Option SealedFrame :=
  (s.edgeInput i).bind (s.edge.sealsBy P)

/-! ## The round of the loop -/

/-- The calls of a queue one after the other are the loop over the targets. -/
lemma run_next (P : Platform) (net : PeerRef → NetAnswer) (d : DevicePacket) (t : DataPacketType)
    (targets : List PacketTarget) (e : Edge)
    (hrefs : ∀ target ∈ targets, target.peer < e.dataplane.nextRef) :
    run (step P) ⟨e, targets.map (d.call t)⟩
        (targets.map fun target => .next (net target.peer)) =
      ⟨{ e with dataplane := (DataPlane.sendToTargets P.aead P.etherparse t d.content net targets
          e.dataplane).plane }, []⟩ := by
  induction targets generalizing e with
  | nil => rfl
  | cons target rest ih =>
      obtain ⟨hlt, hrest⟩ := List.forall_mem_cons.mp hrefs
      have hstep : step P ⟨e, d.call t target :: rest.map (d.call t)⟩ (.next (net target.peer)) =
          ⟨{ e with dataplane := (e.dataplane.sendToPeer P.aead P.etherparse target.peer t d.content
              none target.flood (net target.peer)).plane }, rest.map (d.call t)⟩ := by
        simp only [step, edgeInput, List.head?_cons, Option.map_some, Option.getD_some,
          List.tail_cons, Edge.step, DevicePacket.call, if_pos hlt]
        rfl
      rw [List.map_cons, List.map_cons, run_cons, hstep, ih]
      · rfl
      · intro other hother
        rw [DataPlane.nextRef_sendToPeer]
        exact hrest other hother

/-- **A round that nothing interrupts** is the round of the TUN loop: the packet is read, and then
the calls are made. -/
theorem run_round (P : Platform) (net : PeerRef → NetAnswer) {e : Edge}
    (hw : e.dataplane.WellFormed) (mode : TunDeviceMode) (packet : Bytes) (now : Instant)
    (allowBroadcast : Bool) {content : Bytes}
    (hpassed : e.dataplane.defended mode packet = some content) :
    let targets := (e.dataplane.tunTargets P.etherparse now mode allowBroadcast content).2.1
    ∃ round, e.dataplane.tunRound P.aead P.etherparse now mode allowBroadcast net packet =
        .ok round ∧
      run (step P) ⟨e, []⟩ (.device mode packet now allowBroadcast ::
          targets.map fun target => .next (net target.peer)) =
        ⟨{ e with dataplane := round.plane }, []⟩ := by
  intro targets
  refine ⟨_, DataPlane.tunRound_of_defended P.aead P.etherparse now allowBroadcast net hpassed, ?_⟩
  obtain ⟨macTable, hplane⟩ :=
    e.dataplane.tunTargets_plane P.etherparse now mode allowBroadcast content
  have hstep : step P ⟨e, []⟩ (.device mode packet now allowBroadcast) =
      ⟨{ e with dataplane := { e.dataplane with macTable } },
        targets.map (DevicePacket.call ⟨e.dataplane, mode, packet, content⟩
          (e.dataplane.tunTargets P.etherparse now mode allowBroadcast content).1)⟩ := by
    simp only [step, takes, if_true, hpassed, Option.map_some, hplane, targets]
  rw [run_cons, hstep, run_next]
  · simp only [DataPlane.forwardTunPacket, hplane, targets]
  · intro target htarget
    obtain ⟨id, hid⟩ := DataPlane.lookup_of_mem_tunTargets htarget
    exact hw.ref_lt id target.peer hid

/-- A packet that the defence keeps back is the end of both rounds. -/
theorem run_round_of_not_defended (P : Platform) (net : PeerRef → NetAnswer) {e : Edge}
    {mode : TunDeviceMode} {packet : Bytes} (now : Instant) (allowBroadcast : Bool)
    (hback : e.dataplane.defended mode packet = none) :
    step P ⟨e, []⟩ (.device mode packet now allowBroadcast) = ⟨e, []⟩ ∧
      ∀ round, e.dataplane.tunRound P.aead P.etherparse now mode allowBroadcast net packet =
        .ok round → round.plane = e.dataplane ∧ round.sends = [] := by
  refine ⟨?_, fun round hround => DataPlane.tunRound_of_not_defended _ _ _ _ _ hback hround⟩
  simp only [step, takes, if_true, hback, Option.map_none]

/-! ## One step -/

/-- **What a step can do.**  A packet is taken and its calls are queued; or the edge takes a step,
and what it sends is a ping or comes from the queue; or nothing happens. -/
lemma step_cases (P : Platform) (s : Station) (i : StationInput) :
    (∃ d now allowBroadcast, s.takes i = some d ∧ s.edgeInput i = none ∧
      d.plane = s.edge.dataplane ∧ d.plane.defended d.mode d.raw = some d.content ∧
      let selected := d.plane.tunTargets P.etherparse now d.mode allowBroadcast d.content
      s.step P i =
        ⟨{ s.edge with dataplane := selected.2.2 }, selected.2.1.map (d.call selected.1)⟩) ∨
    (∃ j, s.takes i = none ∧ s.edgeInput i = some j ∧ (s.step P i).edge = s.edge.step P j ∧
      (s.step P i).queue ⊆ s.queue ∧
      ∀ call, j = .send call → call.packetType = .ping ∨ ∃ queued ∈ s.queue,
        queued.packetType = call.packetType ∧ queued.payload = call.payload) ∨
    (s.takes i = none ∧ s.edgeInput i = none ∧ s.step P i = s) := by
  cases i with
  | edge j =>
      cases j with
      | send call => exact .inr (.inr ⟨rfl, rfl, rfl⟩)
      | control | data | command | finishLeave | failover =>
          refine .inr (.inl ⟨_, rfl, rfl, rfl, List.Subset.refl _, ?_⟩)
          intro call hcall
          cases hcall
  | ping peer payload target net =>
      refine .inr (.inl ⟨_, rfl, rfl, rfl, List.Subset.refl _, ?_⟩)
      intro call hcall
      obtain rfl := EdgeInput.send.inj hcall
      exact .inl rfl
  | device mode packet now allowBroadcast =>
      cases htakes : s.takes (.device mode packet now allowBroadcast) with
      | none => exact .inr (.inr ⟨rfl, rfl, by simp only [step, htakes]⟩)
      | some d =>
          refine .inl ⟨d, now, allowBroadcast, rfl, rfl, ?_⟩
          have hstep := htakes
          simp only [takes] at htakes
          split_ifs at htakes
          obtain ⟨content, hpassed, rfl⟩ := Option.map_eq_some_iff.mp htakes
          exact ⟨rfl, hpassed, by simp only [step, hstep]⟩
  | next net =>
      obtain ⟨e, queue⟩ := s
      cases queue with
      | nil => exact .inr (.inr ⟨rfl, rfl, rfl⟩)
      | cons queued rest =>
          refine .inr (.inl ⟨_, rfl, rfl, rfl, List.subset_cons_self _ _, ?_⟩)
          intro call hcall
          obtain rfl := EdgeInput.send.inj hcall
          exact .inr ⟨queued, List.mem_cons_self, rfl, rfl⟩

end Station

/-! ## Where frames come from -/

/-- The packet may leave the node `node` as a frame of the given type and content: the TUN loop
went on with it, and the policy let it out. -/
structure DevicePacket.SourceOf (d : DevicePacket) (E : Etherparse) (node : NodeId)
    (packetType : DataPacketType) (content : Bytes) : Prop where
  node : d.plane.localNodeId = node
  passed : d.plane.defended d.mode d.raw = some content
  packetType : (d.plane.classifyTunPacket E d.mode content).2 = packetType
  allowed : d.plane.policyAllows E (d.plane.classifyTunPacket E d.mode content).1 .outbound content

/-- One of the packets is a source. -/
def HasSource (E : Etherparse) (taken : List DevicePacket) (node : NodeId)
    (packetType : DataPacketType) (content : Bytes) : Prop :=
  ∃ d ∈ taken, d.SourceOf E node packetType content

lemma HasSource.append {E : Etherparse} {taken : List DevicePacket} {node : NodeId}
    {packetType : DataPacketType} {content : Bytes} (h : HasSource E taken node packetType content)
    (more : List DevicePacket) : HasSource E (taken ++ more) node packetType content := by
  obtain ⟨d, hd, hsource⟩ := h
  exact ⟨d, List.mem_append_left _ hd, hsource⟩

/-- A packet is the source of each call that it leads to. -/
lemma DevicePacket.sourceOf_call {E : Etherparse} {d : DevicePacket} {now : Instant}
    {allowBroadcast : Bool} {target : PacketTarget}
    (hpassed : d.plane.defended d.mode d.raw = some d.content)
    (htarget : target ∈ (d.plane.tunTargets E now d.mode allowBroadcast d.content).2.1) :
    d.SourceOf E d.plane.localNodeId
      (d.plane.tunTargets E now d.mode allowBroadcast d.content).1 d.content where
  node := rfl
  passed := hpassed
  packetType := (d.plane.tunTargets_type E now d.mode allowBroadcast d.content).symm
  allowed := DataPlane.policyAllows_of_mem_tunTargets htarget

/-- What an edge encrypts carries its own name, and is a pong or what a call was given. -/
lemma Edge.sealsBy_cases {P : Platform} {e : Edge} {i : EdgeInput} {f : SealedFrame}
    (hf : e.sealsBy P i = some f) :
    f.node = e.dataplane.localNodeId ∧ (f.packetType = .pong ∨ ∃ call, i = .send call ∧
      f.packetType = call.packetType ∧ f.content = call.payload) := by
  have hcall : ∀ {node t content encrypted frame},
      SealedFrame.ofCall node t content encrypted frame = some f →
      f.node = node ∧ f.packetType = t ∧ f.content = content := by
    intro node t content encrypted frame h
    obtain ⟨enc, -, h⟩ := Option.bind_eq_some_iff.mp h
    obtain ⟨sent, -, rfl⟩ := Option.map_eq_some_iff.mp h
    exact ⟨rfl, rfl, rfl⟩
  cases i with
  | send call =>
      simp only [sealsBy] at hf
      split_ifs at hf
      obtain ⟨hnode, htype, hcontent⟩ := hcall hf
      exact ⟨hnode, .inr ⟨call, rfl, htype, hcontent⟩⟩
  | data h payload addr io =>
      obtain ⟨packet, -, hf⟩ := Option.bind_eq_some_iff.mp hf
      obtain ⟨hnode, htype, -⟩ := hcall hf
      exact ⟨hnode, .inl htype⟩
  | control | command | finishLeave | failover => cases hf

/-! ## Whole runs -/

/-- Stations, the packets their TUN loops have taken, and the frames they have encrypted. -/
structure Stations (ι : Type*) where
  station : ι → Station
  taken : List DevicePacket
  log : List SealedFrame

namespace Stations

variable {ι : Type*}

/-- The station `a` takes the input `i`. -/
def step [DecidableEq ι] (P : Platform) (s : Stations ι) (ai : ι × StationInput) : Stations ι where
  station := Function.update s.station ai.1 ((s.station ai.1).step P ai.2)
  taken := s.taken ++ ((s.station ai.1).takes ai.2).toList
  log := s.log ++ ((s.station ai.1).sealsBy P ai.2).toList

/-- No forgery in this step. -/
def Unforged (P : Platform) (s : Stations ι) : ι × StationInput → Prop
  | (b, .edge (.data h payload _ io)) =>
      Unforgeable P.aead s.log (s.station b).edge.dataplane io.now h payload
  | _ => True

instance (P : Platform) (s : Stations ι) : ∀ ai, Decidable (s.Unforged P ai)
  | (b, .edge (.data h payload _ io)) => inferInstanceAs
      (Decidable (Unforgeable P.aead s.log (s.station b).edge.dataplane io.now h payload))
  | (_, .edge (.control _ _ _)) | (_, .edge (.command _ _)) | (_, .edge .finishLeave) |
    (_, .edge (.failover _)) | (_, .edge (.send _)) | (_, .ping _ _ _ _) | (_, .device _ _ _ _) |
    (_, .next _) => isTrue trivial

/-- What is written to the device from a frame that is accepted under the key of a record has been
taken from the device of the node that the header names, and passes the policies of both sides. -/
def Sourced (P : Platform) (s : Stations ι) : ι × StationInput → Prop
  | (b, .edge (.data h payload addr io)) =>
      ∀ _sealed ∈ (s.station b).edge.dataplane.sealedBy P.aead io.now h payload,
        ∀ written ∈ ((s.station b).edge.dataOutcome P h payload addr io).written,
          h.srcNode ≠ (s.station b).edge.dataplane.localNodeId ∧
          ∃ content, HasSource P.etherparse s.taken h.srcNode h.packetType content ∧
            (s.station b).edge.dataplane.policyAllowsPacketType P.etherparse h.packetType .inbound
              content ∧
            ∃ tun ∈ (s.station b).edge.dataplane.tun,
              written = preparePacketForLocalTun P.etherparse P.macos content h.packetType
                tun.ipv4Addr
  | _ => True

/-- What is known after any run: every call that waits in a queue, and every frame other than a
ping or a pong, has a packet of a device as its source. -/
structure Traced (P : Platform) (s : Stations ι) : Prop where
  queued : ∀ a, ∀ call ∈ (s.station a).queue, HasSource P.etherparse s.taken
    (s.station a).edge.dataplane.localNodeId call.packetType call.payload
  genuine : ∀ f ∈ s.log, f.Genuine P.aead
  logged : ∀ f ∈ s.log, f.packetType = .ping ∨ f.packetType = .pong ∨
    HasSource P.etherparse s.taken f.node f.packetType f.content

/-- What is queued and encrypted in a step has its source among the packets taken so far, those of
the step included. -/
lemma Traced.step_new {P : Platform} (hA : P.aead.Correct) {s : Stations ι} (h : s.Traced P)
    (a : ι) (i : StationInput) :
    let taken := s.taken ++ ((s.station a).takes i).toList
    (∀ call ∈ ((s.station a).step P i).queue, HasSource P.etherparse taken
      ((s.station a).step P i).edge.dataplane.localNodeId call.packetType call.payload) ∧
    ∀ f, (s.station a).sealsBy P i = some f → f.Genuine P.aead ∧ (f.packetType = .ping ∨
      f.packetType = .pong ∨ HasSource P.etherparse taken f.node f.packetType f.content) := by
  intro taken
  simp only [taken, Station.sealsBy]
  rcases (s.station a).step_cases P i with
    ⟨d, now, allowBroadcast, htakes, hinput, hplane, hpassed, hstep⟩ |
      ⟨j, htakes, hinput, hedge, hqueue, hsend⟩ | ⟨htakes, hinput, hstep⟩
  · rw [hinput, htakes, hstep]
    refine ⟨fun call hcall => ?_, fun f hf => ?_⟩
    · obtain ⟨target, htarget, rfl⟩ := List.mem_map.mp hcall
      obtain ⟨macTable, hmac⟩ :=
        d.plane.tunTargets_plane P.etherparse now d.mode allowBroadcast d.content
      rw [hmac]
      exact ⟨d, by simp, DevicePacket.sourceOf_call hpassed htarget⟩
    · cases hf
  · rw [hinput, htakes, hedge, Edge.localNodeId_step]
    refine ⟨fun call hcall => (h.queued a call (hqueue hcall)).append _, fun f hf => ?_⟩
    refine ⟨Edge.sealsBy_genuine hA hf, ?_⟩
    obtain ⟨hnode, hpong | ⟨call, hj, htype, hcontent⟩⟩ := Edge.sealsBy_cases hf
    · exact .inr (.inl hpong)
    · rw [hnode, htype, hcontent]
      rcases hsend call hj with hping | ⟨queued, hmem, hqtype, hqpayload⟩
      · exact .inl hping
      · rw [← hqtype, ← hqpayload]
        exact .inr (.inr ((h.queued a queued hmem).append _))
  · rw [hinput, htakes, hstep]
    refine ⟨fun call hcall => (h.queued a call hcall).append _, fun f hf => ?_⟩
    cases hf

lemma Traced.step [DecidableEq ι] {P : Platform} (hA : P.aead.Correct) {s : Stations ι}
    (h : s.Traced P) (ai : ι × StationInput) : (s.step P ai).Traced P := by
  obtain ⟨a, i⟩ := ai
  obtain ⟨hqueued, hlogged⟩ := h.step_new hA a i
  refine ⟨fun a' call hcall => ?_, fun f hf => ?_, fun f hf => ?_⟩
  · simp only [Stations.step] at hcall ⊢
    by_cases ha : a' = a
    · subst ha
      rw [Function.update_self] at hcall ⊢
      exact hqueued call hcall
    · rw [Function.update_of_ne ha] at hcall ⊢
      exact (h.queued a' call hcall).append _
  · rcases List.mem_append.mp hf with hold | hnew
    · exact h.genuine f hold
    · exact (hlogged f (Option.mem_toList.mp hnew)).1
  · rcases List.mem_append.mp hf with hold | hnew
    · exact (h.logged f hold).imp_right (Or.imp_right fun hsource => hsource.append _)
    · exact (hlogged f (Option.mem_toList.mp hnew)).2

/-- A frame that is accepted under a key and reaches the device has its source. -/
lemma Traced.sourced {P : Platform} (hA : P.aead.Correct) {s : Stations ι} (hs : s.Traced P)
    {ai : ι × StationInput} (hunforged : s.Unforged P ai) : s.Sourced P ai := by
  obtain ⟨b, i⟩ := ai
  cases i with
  | edge j =>
      cases j with
      | data h payload addr io =>
          intro sealed hsealed written hwritten
          obtain ⟨f, hf, hacc⟩ := exists_acceptedAs hA hs.genuine hunforged hsealed
          have hdel := hwritten
          rw [Edge.dataOutcome, DataPlane.handleIncomingFrame_written, hacc.content,
            Option.bind_some, DataPlane.deliverable] at hdel
          split_ifs at hdel with hprobe hpolicy
          · cases hdel
          · obtain ⟨tun, htun, hprepared⟩ := Option.map_eq_some_iff.mp hdel
            rw [← hacc.packetType, not_or] at hprobe
            rw [← hacc.packetType] at hpolicy hprepared ⊢
            rw [← hacc.srcNode]
            have hsource := ((hs.logged f hf).resolve_left hprobe.1).resolve_left hprobe.2
            exact ⟨hacc.foreign, f.content, hsource, hpolicy, tun, htun, hprepared.symm⟩
          · cases hdel
      | control | command | finishLeave | failover | send => trivial
  | ping | device | next => trivial

/-- **From device to device.**  Stations take any inputs in any order, with the calls of a round
interleaved with everything else, and data frames are anything the network makes of them, short of
a forgery.  Then whatever is written to a device from a frame that is accepted under a key has been
taken before from the device of the node that the header names. -/
theorem written_packets_sourced [DecidableEq ι] (P : Platform) (hA : P.aead.Correct)
    (edges : ι → Edge) (inputs : List (ι × StationInput))
    (hunforged : Along (step P) (Unforged P) ⟨fun a => ⟨edges a, []⟩, [], []⟩ inputs) :
    Along (step P) (Sourced P) ⟨fun a => ⟨edges a, []⟩, [], []⟩ inputs :=
  Along.mono_of_invariant (I := Traced P) (fun _ ai hs _ => hs.step hA ai)
    (fun _ _ hs hi => hs.sourced hA hi) inputs _
    ⟨by simp, by simp, by simp⟩ hunforged

/-- A platform on which nothing is hidden and IPv4 headers are read. -/
def parsingPlatform : Platform := { Platform.transparent with etherparse := .reference }

/-- A UDP packet from node 1 to node 2. -/
def routedPacket : Bytes := udpPacket (.fill 4 1) (.fill 4 2) [7]

/-- Nodes 1 and 2 complete a handshake, and node 1 reads a packet; before it sends it, its ping
loop sends a ping. -/
def exchange : List (Bool × StationInput) :=
  (Fleet.handshakeRun.map fun ai => (ai.1, .edge ai.2)) ++
    [(false, .device .tun routedPacket 0 true), (false, .ping 0 [0, 0, 0, 0] (.localhost 2) .sent),
      (false, .next .sent)]

/-- The header of the packet as it arrives at node 2. -/
def routedHeader : DataHeader :=
  { version := protocolVersion, flags := 0, packetType := .ipv4, reserved := 0, ttl := 0
    roomId := .fill 7, srcNode := .fill 1, dstNode := .fill 2, originNode := .fill 1
    sessionId := ⟨0⟩, nonce := 2, packetId := ⟨0⟩, payloadLen := 45 }

/-- The packet under the transparent cipher. -/
def routedPayload : Bytes := routedPacket ++ List.replicate aeadTagLen 0

def routedIo : IncomingIo :=
  { now := 0, pongSend := .sent, pongReceived := none, tunWriteOk := true }

/-- The packet reaches the device of node 2, and it is what was taken from the device of node 1. -/
theorem written_packets_sourced_exchange :
    let s := run (step parsingPlatform) ⟨fun a => ⟨Fleet.pair.edges a, []⟩, [], []⟩ exchange
    let e := (s.station true).edge
    (s.taken.map (fun d => (d.plane.localNodeId, d.raw)) = [(.fill 1, routedPacket)] ∧
      s.log.map (fun f => f.packetType) = [.ping, .ipv4] ∧
      e.dataplane.sealedBy .transparent 0 routedHeader routedPayload = some (0, 2) ∧
      (e.dataOutcome parsingPlatform routedHeader routedPayload (.localhost 1) routedIo).written =
        some routedPacket) ∧
    Along (step parsingPlatform) (Sourced parsingPlatform)
      ⟨fun a => ⟨Fleet.pair.edges a, []⟩, [], []⟩
      (exchange ++ [(true, .edge (.data routedHeader routedPayload (.localhost 1) routedIo))]) :=
  ⟨by decide +kernel, written_packets_sourced parsingPlatform Aead.transparent_correct _ _
    (by decide +kernel)⟩

end Stations

end R2N
