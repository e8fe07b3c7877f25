import R2N.Edge.Views

/-!
# The two peer tables

The UDP loop adds and removes peers in the edge's table and in the dataplane's, and installs ciphers
in both; the command loop, when it leaves a room, clears one table, awaits the removal of the
routes, and clears the other.  The UDP loop goes on meanwhile.

* `beginHandshake`, `endHandshake` — the `Handshake` handler around the reply it awaits;
  `step_endReply` puts the two together again.
* `TwoLoops` — the two loops, interleaved where they await something.
* `TablesAgree` — the same peers in both tables, not the edge itself, and its ciphers in both.
* **`tables_agree_iff`** — the tables agree whenever no handler is in the middle of its work, along
  exactly those runs in which this is never the case after a leave that ended with peers in the
  edge's table.
-/

namespace R2N

open Run

namespace Edge

/-! ## The handshake handler in two steps -/

/-- A handshake frame that has been read: whose it is, where it came from, and what it came to. -/
structure Reply where
  fromNode : NodeId
  addr : SocketAddr
  step : HandshakeStep
deriving DecidableEq

/-- The `Handshake` handler up to the point where it sends its reply, for a peer it knows. -/
def beginHandshake (N : Noise) (e : Edge) (fromNode : NodeId) (peer : PeerState) (payload : Bytes)
    (addr : SocketAddr) (io : EdgeIo) : Reply × Edge :=
  let step := e.readHandshake N peer payload io
  ({ fromNode, addr, step },
    { e with peers := e.peers.insert fromNode { peer with handshake := step.slot } })

/-- The rest of the handler, which looks the peer up again. -/
def endHandshake (e : Edge) (reply : Reply) (now : Instant) : Edge :=
  match e.peers.lookup reply.fromNode with
  | none => e
  | some peer =>
      match reply.step.install peer.cipher with
      | some (key, _) =>
          let cipher := Cipher.new key
          { e with
            peers := e.peers.insert reply.fromNode
              { peer with cipher := some cipher, directAddr := some reply.addr }
            dataplane := e.dataplane.setDirectPath now reply.fromNode reply.addr (some cipher) }
      | none => e

/-- **The `Handshake` handler** is the two steps, with nothing in between. -/
theorem handleHandshake_eq_begin (N : Noise) {e : Edge} {fromNode : NodeId} {peer : PeerState}
    (hpeer : e.peers.lookup fromNode = some peer) (payload : Bytes) (addr : SocketAddr)
    (io : EdgeIo) :
    (e.handleHandshake N fromNode payload addr io).edge =
      (e.beginHandshake N fromNode peer payload addr io).2.endHandshake
        (e.beginHandshake N fromNode peer payload addr io).1 io.now := by
  unfold handleHandshake endHandshake beginHandshake
  rw [hpeer]
  simp only [AList.lookup_insert, AList.insert_insert]
  cases (e.readHandshake N peer payload io).install peer.cipher with
  | none => rfl
  | some ks => rfl

lemma beginHandshake_paired (N : Noise) {e : Edge} (hw : e.dataplane.WellFormed)
    {fromNode : NodeId} {peer : PeerState} (hpeer : e.peers.lookup fromNode = some peer)
    (payload : Bytes) (addr : SocketAddr) (io : EdgeIo) :
    Paired [] e (e.beginHandshake N fromNode peer payload addr io).2 :=
  paired_of_keeps hw (view_insert hpeer rfl rfl) (.refl _)

/-- The second step installs a key in both tables, or nothing. -/
lemma endHandshake_paired {e : Edge} (hw : e.dataplane.WellFormed) (reply : Reply)
    (now : Instant) :
    ∃ cs, (∀ c ∈ cs, ∃ id key, c = .key id key) ∧ Paired cs e (e.endHandshake reply now) := by
  unfold endHandshake
  cases hpeer : e.peers.lookup reply.fromNode with
  | none => exact ⟨[], nofun, .refl hw⟩
  | some peer =>
      simp only
      cases reply.step.install peer.cipher with
      | none => exact ⟨[], nofun, .refl hw⟩
      | some ks =>
          refine ⟨[.key reply.fromNode ks.1], by simp, ?_, ?_, by simp, ?_, rfl, rfl, rfl⟩
          · refine TableView.eq_change reply.fromNode rfl ?_ fun id hid => ?_
            · simp only [view, AList.lookup_insert, hpeer]
              rfl
            · simp only [view, AList.lookup_insert_ne hid]
          · exact DataPlane.view_setDirectPath hw now reply.fromNode reply.addr (.new ks.1)
          · exact (DataPlane.setDirectPath_evolves hw now reply.fromNode reply.addr
              (.new ks.1)).wellFormed

/-- Every other control frame makes its changes in one step. -/
lemma handleControl_paired (N : Noise) {e : Edge} (hw : e.dataplane.WellFormed)
    {frame : ControlFrame} (hframe : ∀ fromNode payload, frame ≠ .handshake fromNode payload)
    (addr : SocketAddr) (io : EdgeIo) :
    ∃ cs, Paired cs e (e.handleControl N frame addr io).edge := by
  cases frame with
  | roomCreated room _ _ _ | joinAccept room _ _ _ =>
      obtain ⟨hview, hplane, hothers, hw', hid, hleaving, haddr⟩ := activateRoom_paired hw room io
      exact ⟨[], hview, hplane, hothers, hw', hid, hleaving, haddr⟩
  | joinReject _ | error _ _ => exact ⟨[], rfl, rfl, nofun, hw, rfl, rfl, rfl⟩
  | peerList roomPeers => exact handlePeerList_paired hw io.now roomPeers
  | peerUpdate peer action =>
      cases action with
      | remove => exact ⟨_, removePeer_paired hw peer.nodeId⟩
      | add | update =>
          simp only [handleControl, EdgeOutcome.silent, handlePeerUpdate]
          split_ifs with hself
          · exact ⟨[], .refl hw⟩
          · exact ⟨_, addPeer_paired hw io.now hself⟩
  | punchRequest target candidates =>
      exact ⟨_, handlePunchRequest_paired N hw target candidates io⟩
  | handshake fromNode payload => exact absurd rfl (hframe fromNode payload)
  | _ => exact ⟨[], .refl hw⟩

end Edge

/-! ## The two loops -/

/-- An edge with the handshake frame whose reply the UDP loop is sending, and whether the edge's
table had entries when the last leave ended. -/
structure TwoLoops where
  edge : Edge
  replying : Option Edge.Reply
  late : Bool

inductive LoopInput where
  | edge (input : EdgeInput)
  | endReply (now : Instant)
  | switchSupernode

namespace TwoLoops

def start (e : Edge) : TwoLoops := { edge := e, replying := none, late := false }

/-- A control frame arrives while the UDP loop is idle.  Only the `Handshake` handler awaits
something between its changes, and only if it has a reply. -/
def receive (P : Platform) (s : TwoLoops) (frame : ControlFrame) (addr : SocketAddr)
    (io : EdgeIo) : TwoLoops :=
  match frame with
  | .handshake fromNode payload =>
      match s.edge.peers.lookup fromNode with
      | none => s
      | some peer =>
          let begun := s.edge.beginHandshake P.noise fromNode peer payload addr io
          if begun.1.step.response.isSome then
            { s with edge := begun.2, replying := some begun.1 }
          else { s with edge := begun.2.endHandshake begun.1 io.now }
  | frame => { s with edge := (s.edge.handleControl P.noise frame addr io).edge }

/-- One step.  The UDP loop takes nothing from its socket while it sends a reply. -/
def step (P : Platform) (s : TwoLoops) : LoopInput → TwoLoops
  | .edge (.control frame addr io) => if s.replying.isSome then s else s.receive P frame addr io
  | .edge (.data header payload addr io) =>
      if s.replying.isSome then s
      else { s with edge := s.edge.step P (.data header payload addr io) }
  | .edge .finishLeave =>
      { s with
        edge := s.edge.step P .finishLeave
        late := if s.edge.leaving then !s.edge.peers.keys.isEmpty else s.late }
  | .edge input => { s with edge := s.edge.step P input }
  | .endReply now =>
      match s.replying with
      | none => s
      | some reply => { s with edge := s.edge.endHandshake reply now, replying := none }
  | .switchSupernode => { s with edge := s.edge.switchSupernode.edge }

lemma endReply_idle (P : Platform) {s : TwoLoops} (hidle : s.replying = none) (e : Edge)
    (now : Instant) : ({ s with edge := e }.step P (.endReply now)).edge = e := by
  simp only [step, hidle]

/-- **A frame whose reply nothing comes between** is one step of the edge. -/
theorem step_endReply (P : Platform) {s : TwoLoops} (hidle : s.replying = none)
    (frame : ControlFrame) (addr : SocketAddr) (io : EdgeIo) :
    ((s.step P (.edge (.control frame addr io))).step P (.endReply io.now)).edge =
      s.edge.step P (.control frame addr io) := by
  have hreceive : s.step P (.edge (.control frame addr io)) = s.receive P frame addr io := by
    rw [step, hidle, Option.isSome_none, if_neg Bool.false_ne_true]
  rw [hreceive]
  cases frame with
  | handshake fromNode payload =>
      simp only [receive, Edge.step, Edge.handleControl]
      cases hpeer : s.edge.peers.lookup fromNode with
      | none =>
          rw [Edge.handleHandshake_unknown P.noise hpeer]
          exact endReply_idle P hidle s.edge io.now
      | some peer =>
          rw [Edge.handleHandshake_eq_begin P.noise hpeer]
          simp only
          split
          · rfl
          · exact endReply_idle P hidle _ io.now
  | _ => exact endReply_idle P hidle _ io.now

/-! ## What a step does to the tables -/

/-- A step that makes the same changes to both tables; while a reply is sent, at most keys are
installed. -/
def Pairs (s s' : TwoLoops) : Prop :=
  ∃ cs, Edge.Paired cs s.edge s'.edge ∧ s'.late = s.late ∧
    (s.replying = none ∨ ∀ c ∈ cs, ∃ id key, c = .key id key)

lemma receive_pairs (P : Platform) {s : TwoLoops} (hw : s.edge.dataplane.WellFormed)
    (hidle : s.replying = none) (frame : ControlFrame) (addr : SocketAddr) (io : EdgeIo) :
    Pairs s (s.receive P frame addr io) := by
  unfold TwoLoops.receive
  split
  next fromNode payload =>
    split
    next => exact ⟨[], .refl hw, rfl, .inl hidle⟩
    next peer hpeer =>
      have hbegin := Edge.beginHandshake_paired P.noise hw hpeer payload addr io
      simp only
      split
      · exact ⟨[], hbegin, rfl, .inl hidle⟩
      · obtain ⟨cs, -, hend⟩ := Edge.endHandshake_paired hbegin.wellFormed
          (s.edge.beginHandshake P.noise fromNode peer payload addr io).1 io.now
        exact ⟨cs, hbegin.trans hend, rfl, .inl hidle⟩
  next hframe =>
    obtain ⟨cs, h⟩ := Edge.handleControl_paired P.noise hw hframe addr io
    exact ⟨cs, h, rfl, .inl hidle⟩

/-- **The four kinds of steps**: changes made to both tables, the first and the second part of a
leave, and a change of supernode. -/
theorem step_cases (P : Platform) {s : TwoLoops} (hw : s.edge.dataplane.WellFormed)
    (input : LoopInput) :
    Pairs s (s.step P input) ∨
    ((s.step P input).edge = { s.edge with peers := ∅, leaving := true } ∧
      (s.step P input).late = s.late) ∨
    (s.edge.leaving = true ∧ (s.step P input).edge = s.edge.finishLeave ∧
      (s.step P input).late = !s.edge.peers.keys.isEmpty) ∨
    ∃ supernodeAddr, input = .edge (.failover supernodeAddr) := by
  have hpairs : ∀ {e : Edge}, Edge.Paired [] s.edge e → Pairs s { s with edge := e } :=
    fun h => ⟨[], h, rfl, .inr (List.forall_mem_nil _)⟩
  cases input with
  | endReply now =>
      rw [step]
      split
      · exact .inl (hpairs (.refl hw))
      next reply _ =>
        obtain ⟨cs, hcs, h⟩ := Edge.endHandshake_paired hw reply now
        exact .inl ⟨cs, h, rfl, .inr hcs⟩
  | switchSupernode =>
      rw [step, Edge.switchSupernode]
      split
      · exact .inl (hpairs (.refl hw))
      · exact .inr (.inl ⟨rfl, rfl⟩)
  | edge input =>
      cases input with
      | control frame addr io =>
          rw [step]
          split
          · exact .inl (hpairs (.refl hw))
          next hidle => exact .inl (receive_pairs P hw (by simpa using hidle) frame addr io)
      | data header payload addr io =>
          rw [step]
          split
          · exact .inl (hpairs (.refl hw))
          · exact .inl (hpairs (Edge.data_paired P hw header payload addr io))
      | command cmd sendOk =>
          rcases Edge.handleCommand_tables hw cmd sendOk with hleave | h
          · exact .inr (.inl ⟨hleave, rfl⟩)
          · exact .inl (hpairs h)
      | finishLeave =>
          simp only [step, Edge.step]
          cases hleaving : s.edge.leaving with
          | false => exact .inl (hpairs (.refl hw))
          | true => exact .inr (.inr (.inl ⟨rfl, rfl, rfl⟩))
      | failover supernode => exact .inr (.inr (.inr ⟨supernode, rfl⟩))
      | send call => exact .inl (hpairs (Edge.send_paired P hw call))

lemma step_wellFormed (P : Platform) {s : TwoLoops} (hw : s.edge.dataplane.WellFormed)
    (input : LoopInput) : (s.step P input).edge.dataplane.WellFormed := by
  rcases step_cases P hw input with ⟨cs, h, -⟩ | ⟨hleave, -⟩ | ⟨-, hend, -⟩ | ⟨addr, rfl⟩
  · exact h.wellFormed
  · rw [hleave]
    exact hw
  · rw [hend]
    exact DataPlane.wellFormed_of_empty rfl
  · exact hw

/-! ## Agreement -/

/-- No handler is in the middle of its work. -/
def Quiet (s : TwoLoops) : Prop := s.edge.leaving = false ∧ s.replying = none

/-- The tables have the same nodes, the edge is not one of them, and a cipher in the edge's table is
also in the dataplane's.  The two share it, so that it is the key that tells which cipher it is: the
dataplane advances the window of replays. -/
structure TablesAgree (e : Edge) : Prop where
  keys : ∀ id, id ∈ e.peers ↔ id ∈ e.dataplane.peers
  self : e.nodeId ∉ e.peers ∧ e.nodeId ∉ e.dataplane.peers
  cipher : ∀ id st c, e.peers.lookup id = some st → st.cipher = some c →
    ∃ r c', e.dataplane.peers.lookup id = some r ∧ (e.dataplane.heap r).cipher = some c' ∧
      c'.key = c.key

/-- Agreement is a matter of the views. -/
lemma tablesAgree_of_views {e : Edge} (hcovers : e.dataplane.view.Covers e.view)
    (hfills : e.view.Fills e.dataplane.view) (hself : e.view e.nodeId = none) : TablesAgree e where
  keys := by
    intro id
    rw [← not_iff_not, ← Edge.view_eq_none, ← DataPlane.view_eq_none]
    refine ⟨hfills id, fun hplane => ?_⟩
    by_contra hsome
    obtain ⟨x, hx⟩ := Option.ne_none_iff_exists'.mp hsome
    obtain ⟨y, hy, -⟩ := hcovers id x hx
    exact absurd (hplane.symm.trans hy) nofun
  self := ⟨Edge.view_eq_none.mp hself, DataPlane.view_eq_none.mp (hfills _ hself)⟩
  cipher := by
    intro id st c hst hc
    have hview : e.view id = some (some c.key) := by rw [Edge.view, hst, Option.map_some, hc]; rfl
    obtain ⟨y, hy, hkey⟩ := hcovers id _ hview
    rw [hkey c.key rfl, DataPlane.view] at hy
    obtain ⟨r, hr, hcipher⟩ := Option.map_eq_some_iff.mp hy
    obtain ⟨c', hc', hkeys⟩ := Option.map_eq_some_iff.mp hcipher
    exact ⟨r, c', hr, hc', hkeys⟩

/-- The tables agree while no leave is under way, and during a leave the dataplane's still covers
the edge's.  After a leave that ended with peers in the edge's table one of them is missing in the
dataplane's, until the next leave. -/
structure Sound (s : TwoLoops) : Prop where
  wellFormed : s.edge.dataplane.WellFormed
  self : s.edge.view s.edge.nodeId = none
  covers : s.late = false ∨ s.edge.leaving = true → s.edge.dataplane.view.Covers s.edge.view
  fills : s.late = false → s.edge.leaving = false → s.edge.view.Fills s.edge.dataplane.view
  missing : s.late = true → s.edge.leaving = false →
    ∃ id, s.edge.view id ≠ none ∧ s.edge.dataplane.view id = none

lemma sound_start {e : Edge} (hpeers : e.peers = ∅) (htable : e.dataplane.peers = ∅) :
    Sound (start e) := by
  have hnone : ∀ id, e.view id = none := by
    intro id
    rw [Edge.view_eq_none, hpeers]
    exact AList.notMem_empty id
  refine ⟨DataPlane.wellFormed_of_empty htable, hnone _, fun _ id x hx => ?_, fun _ _ id _ => ?_,
    nofun⟩
  · exact absurd ((hnone id).symm.trans hx) nofun
  · exact DataPlane.view_eq_none.mpr (htable ▸ AList.notMem_empty id)

section Steps

variable {P : Platform} {s s' : TwoLoops}

/-- With no peer missing in the dataplane's table, the same changes may be made to both. -/
lemma Sound.paired (hs : Sound s) (hnone : s.late = false ∨ s.edge.leaving = true)
    {cs : List TableChange} (h : Edge.Paired cs s.edge s'.edge) (hlate : s'.late = s.late) :
    Sound s' where
  wellFormed := h.wellFormed
  self := by
    rw [h.view, h.nodeId]
    exact TableView.changes_eq_none h.others hs.self
  covers := by
    intro _
    rw [h.view, h.plane]
    exact (hs.covers hnone).changes cs
  fills := by
    rw [hlate, h.leaving, h.view, h.plane]
    exact fun hon hstays => (hs.fills hon hstays).changes cs
  missing := by
    rw [hlate, h.leaving]
    intro hon hstays
    rcases hnone with hoff | hleaving
    · exact absurd (hoff.symm.trans hon) nofun
    · exact absurd (hleaving.symm.trans hstays) nofun

/-- With one missing, keys may be installed in both. -/
lemma Sound.keyed (hs : Sound s) (hon : s.late = true) (hstays : s.edge.leaving = false)
    {cs : List TableChange} (hcs : ∀ c ∈ cs, ∃ id key, c = .key id key)
    (h : Edge.Paired cs s.edge s'.edge) (hlate : s'.late = s.late) : Sound s' := by
  obtain ⟨id, hid, hmissing⟩ := hs.missing hon hstays
  rw [← hlate] at hon
  rw [← h.leaving] at hstays
  refine ⟨h.wellFormed, ?_, ?_, fun hoff => absurd (hon.symm.trans hoff) nofun,
    fun _ _ => ⟨id, ?_, ?_⟩⟩
  · rw [h.view, h.nodeId]
    exact TableView.changes_eq_none h.others hs.self
  · rintro (hoff | hleaving)
    · exact absurd (hon.symm.trans hoff) nofun
    · exact absurd (hstays.symm.trans hleaving) nofun
  · rw [h.view, Ne, TableView.changes_key_eq_none hcs]
    exact hid
  · rw [h.plane, TableView.changes_key_eq_none hcs]
    exact hmissing

/-- A leave starts. -/
lemma Sound.cleared (hs : Sound s)
    (hedge : s'.edge = { s.edge with peers := ∅, leaving := true }) : Sound s' := by
  refine ⟨?_, ?_, ?_, ?_, ?_⟩ <;> rw [hedge]
  · exact hs.wellFormed
  · rfl
  · exact fun _ _ _ => nofun
  · exact fun _ => nofun
  · exact fun _ => nofun

/-- A leave ends. -/
lemma Sound.finished (hs : Sound s) (hedge : s'.edge = s.edge.finishLeave)
    (hlate : s'.late = !s.edge.peers.keys.isEmpty) : Sound s' := by
  refine ⟨?_, ?_, ?_, ?_, ?_⟩ <;> rw [hedge]
  · exact DataPlane.wellFormed_of_empty rfl
  · exact hs.self
  · intro hnone id x hx
    have hempty : s.edge.peers.keys = [] := by simpa [hlate, Edge.finishLeave] using hnone
    have hid : s.edge.view id = none := by
      rw [Edge.view_eq_none, AList.mem_keys, hempty]
      exact List.not_mem_nil
    exact absurd (hid.symm.trans hx) nofun
  · exact fun _ _ _ _ => rfl
  · intro hsome _
    obtain ⟨id, hid⟩ : ∃ id, id ∈ s.edge.peers.keys :=
      List.exists_mem_of_ne_nil _ (by simpa [hlate] using hsome)
    exact ⟨id, fun hnone => Edge.view_eq_none.mp hnone (AList.mem_keys.mpr hid), rfl⟩

/-- Every step keeps the tables sound, if no peer is missing while the loops are quiet. -/
lemma Sound.step (hs : Sound s) (hquiet : Quiet s → s.late = false) (input : LoopInput) :
    Sound (s.step P input) := by
  rcases step_cases P hs.wellFormed input with
    ⟨cs, h, hlate, hcs⟩ | ⟨hleave, -⟩ | ⟨-, hend, hlate⟩ | ⟨addr, rfl⟩
  · by_cases hnone : s.late = false ∨ s.edge.leaving = true
    · exact hs.paired hnone h hlate
    · rw [not_or, Bool.not_eq_false, Bool.not_eq_true] at hnone
      rcases hcs with hidle | hkeys
      · exact absurd (hnone.1.symm.trans (hquiet ⟨hnone.2, hidle⟩)) nofun
      · exact hs.keyed hnone.1 hnone.2 hkeys h hlate
  · exact hs.cleared hleave
  · exact hs.finished hend hlate
  · exact ⟨hs.wellFormed, hs.self, hs.covers, hs.fills, hs.missing⟩

/-- While the loops are quiet, the tables agree exactly if no peer is missing. -/
lemma Sound.agree_iff (hs : Sound s) (hquiet : Quiet s) :
    TablesAgree s.edge ↔ s.late = false := by
  refine ⟨fun hagree => ?_, fun hlate => ?_⟩
  · by_contra hlate
    obtain ⟨id, hid, hmissing⟩ := hs.missing (by simpa using hlate) hquiet.1
    rw [DataPlane.view_eq_none, ← hagree.keys, ← Edge.view_eq_none] at hmissing
    exact hid hmissing
  · exact tablesAgree_of_views (hs.covers (.inl hlate)) (hs.fills hlate hquiet.1) hs.self

end Steps

/-! ## Runs -/

/-- The tables agree after the step, if it leaves the loops quiet. -/
def Agrees (P : Platform) (s : TwoLoops) (input : LoopInput) : Prop :=
  Quiet (s.step P input) → TablesAgree (s.step P input).edge

/-- If the step leaves the loops quiet, the last leave has ended with the edge's table empty. -/
def LeftEmpty (P : Platform) (s : TwoLoops) (input : LoopInput) : Prop :=
  Quiet (s.step P input) → (s.step P input).late = false

/-- **The tables agree** in every state of a run in which no handler is in the middle of its work,
exactly if in all of these states the last leave that has ended found the edge's table empty: no
peer was announced between the two parts of the leave. -/
theorem tables_agree_iff (P : Platform) (e : Edge) (hpeers : e.peers = ∅)
    (htable : e.dataplane.peers = ∅) (inputs : List LoopInput) :
    Along (step P) (Agrees P) (start e) inputs ↔
      Along (step P) (LeftEmpty P) (start e) inputs := by
  refine Along.iff_of_invariant_forall (I := fun s => Sound s ∧ (Quiet s → s.late = false))
    ?_ ?_ inputs (start e) ⟨sound_start hpeers htable, fun _ => rfl⟩
  · intro s input hs hempty
    exact ⟨hs.1.step hs.2 input, hempty⟩
  · intro s input hs
    exact forall_congr' fun hquiet => (hs.1.step hs.2 input).agree_iff hquiet

/-- A peer is announced, the edge leaves, and the peer is announced again afterwards. -/
theorem tables_agree_around_leave :
    Along (step .transparent) (Agrees .transparent) (start (.sample 1))
      [.edge (Edge.announce 2), .edge (.command .leaveRoom true), .edge .finishLeave,
        .edge (Edge.announce 2)] := by
  refine (tables_agree_iff .transparent (.sample 1) rfl rfl _).mpr ?_
  exact ⟨fun _ => rfl, fun _ => rfl, fun _ => rfl, fun _ => rfl, trivial⟩

/-- **A peer announced during a leave**: it is in the edge's table and not in the dataplane's. -/
theorem announced_while_leaving :
    ¬ Along (step .transparent) (Agrees .transparent) (start (.sample 1))
      [.edge (.command .leaveRoom true), .edge (Edge.announce 2), .edge .finishLeave] := by
  rintro ⟨-, -, hagree, -⟩
  have hkeys := (hagree ⟨rfl, rfl⟩).keys (.fill 2)
  exact absurd (hkeys.mp (by decide +kernel)) (by decide +kernel)

end TwoLoops

end R2N
