import R2N.Edge.Evolution
import R2N.Edge.Requests

/-!
# The peer tables as views

The edge and its dataplane each have a table of peers.  A table is read as a view: for each node,
whether it is there, and the key of its cipher.  Every operation is a list of changes to a view, and
an operation of the edge makes the same changes to both.

* `TableChange` — adding a node, removing it, and giving its cipher a key.
* `Covers.changes`, `Fills.changes` — what two tables have in common survives changes made to both.
* `view_upsertPeer`, `view_removePeer`, `view_setDirectPath` — the dataplane's operations.
* **`Paired`** — an operation that makes the same changes to both tables, with the operations of
  the edge that do.
-/

namespace R2N

/-! ## Views of a table -/

/-- What a table says of a node: nothing, or the key of its cipher, if it has one. -/
abbrev TableView := NodeId → Option (Option Key)

/-- A change of a table: an entry is made if there is none, dropped, or its cipher gets a key. -/
inductive TableChange where
  | add (id : NodeId)
  | remove (id : NodeId)
  | key (id : NodeId) (key : Key)

/-- The node a change is about. -/
def TableChange.node : TableChange → NodeId
  | .add id | .remove id | .key id _ => id

/-- What a change makes of the entry of its node. -/
def TableChange.entry : TableChange → Option (Option Key) → Option (Option Key)
  | .add _, x => some (x.getD none)
  | .remove _, _ => none
  | .key _ k, x => x.map fun _ => some k

namespace TableView

def change (v : TableView) (c : TableChange) : TableView :=
  Function.update v c.node (c.entry (v c.node))

/-- A table that differs in the entry of one node. -/
lemma eq_change {v w : TableView} {c : TableChange} (id : NodeId) (hid : c.node = id)
    (hself : w id = c.entry (v id)) (hother : ∀ id' ≠ id, w id' = v id') : w = v.change c := by
  subst hid
  exact Function.eq_update_iff.mpr ⟨hself, hother⟩

/-- Every node of `v` is one of `w`, and if it has a key in `v` it has the same in `w`. -/
def Covers (w v : TableView) : Prop :=
  ∀ id x, v id = some x → ∃ y, w id = some y ∧ ∀ key, x = some key → y = some key

/-- Every node of `w` is one of `v`. -/
def Fills (v w : TableView) : Prop := ∀ id, v id = none → w id = none

variable {v w : TableView}

/-- Changes made to both tables keep what is said of them entry by entry. -/
lemma change_rel {R : Option (Option Key) → Option (Option Key) → Prop}
    (hR : ∀ (c : TableChange) x y, R x y → R (c.entry x) (c.entry y))
    (h : ∀ id, R (v id) (w id)) (c : TableChange) (id : NodeId) :
    R (v.change c id) (w.change c id) := by
  by_cases hid : id = c.node
  · subst hid
    simpa only [change, Function.update_self] using hR c _ _ (h c.node)
  · simpa only [change, Function.update_of_ne hid] using h id

lemma Covers.change (h : w.Covers v) (c : TableChange) : (w.change c).Covers (v.change c) := by
  intro id
  refine change_rel (R := fun x y => ∀ k, x = some k → ∃ l, y = some l ∧ ∀ key, k = some key →
    l = some key) ?_ h c id
  intro c x y hxy
  cases c with
  | add _ =>
      rintro _ ⟨⟩
      refine ⟨_, rfl, fun key hkey => ?_⟩
      obtain ⟨k, rfl⟩ : ∃ k, x = some k := by
        cases x with
        | none => cases hkey
        | some k => exact ⟨k, rfl⟩
      obtain ⟨l, rfl, hl⟩ := hxy k rfl
      exact hl key hkey
  | remove _ => exact fun _ => nofun
  | key _ key =>
      intro k hk
      obtain ⟨k', rfl, rfl⟩ := Option.map_eq_some_iff.mp hk
      obtain ⟨l, rfl, -⟩ := hxy k' rfl
      exact ⟨_, rfl, fun _ h => h⟩

lemma Fills.change (h : v.Fills w) (c : TableChange) : (v.change c).Fills (w.change c) := by
  intro id
  refine change_rel (R := fun x y => x = none → y = none) ?_ h c id
  intro c x y hxy
  cases c with
  | add _ => nofun
  | remove _ => exact fun _ => rfl
  | key _ key =>
      intro hx
      rw [hxy (Option.map_eq_none_iff.mp hx)]
      rfl

lemma change_eq_none {c : TableChange} {id : NodeId} (hc : c ≠ .add id) (h : v id = none) :
    v.change c id = none := by
  by_cases hid : id = c.node
  · subst hid
    rw [change, Function.update_self, h]
    cases c with
    | add _ => exact absurd rfl hc
    | _ => rfl
  · rw [change, Function.update_of_ne hid, h]

/-- A key leaves the nodes of a table as they are. -/
lemma change_key_eq_none {id id' : NodeId} {key : Key} :
    v.change (.key id key) id' = none ↔ v id' = none := by
  by_cases hid : id' = id
  · subst hid
    rw [change, TableChange.node, Function.update_self]
    exact Option.map_eq_none_iff
  · rw [change, TableChange.node, Function.update_of_ne hid]

/-- Several changes, in order. -/
def changes (v : TableView) (cs : List TableChange) : TableView := cs.foldl change v

lemma changes_append (v : TableView) (cs ds : List TableChange) :
    v.changes (cs ++ ds) = (v.changes cs).changes ds :=
  List.foldl_append

lemma Covers.changes (h : w.Covers v) (cs : List TableChange) :
    (w.changes cs).Covers (v.changes cs) := by
  induction cs generalizing v w with
  | nil => exact h
  | cons c cs ih => exact ih (h.change c)

lemma Fills.changes (h : v.Fills w) (cs : List TableChange) :
    (v.changes cs).Fills (w.changes cs) := by
  induction cs generalizing v w with
  | nil => exact h
  | cons c cs ih => exact ih (h.change c)

lemma changes_eq_none {cs : List TableChange} {id : NodeId} (hcs : ∀ c ∈ cs, c ≠ .add id)
    (h : v id = none) : v.changes cs id = none := by
  induction cs generalizing v with
  | nil => exact h
  | cons c cs ih =>
      rw [List.forall_mem_cons] at hcs
      exact ih hcs.2 (change_eq_none hcs.1 h)

lemma changes_key_eq_none {cs : List TableChange} (hcs : ∀ c ∈ cs, ∃ id key, c = .key id key)
    (id : NodeId) : v.changes cs id = none ↔ v id = none := by
  induction cs generalizing v with
  | nil => exact Iff.rfl
  | cons c cs ih =>
      rw [List.forall_mem_cons] at hcs
      obtain ⟨⟨id', key, rfl⟩, hcs⟩ := hcs
      exact (ih hcs).trans change_key_eq_none

end TableView

/-! ## The dataplane's table -/

namespace DataPlane

def view (dp : DataPlane) : TableView :=
  fun id => (dp.peers.lookup id).map fun r => (dp.heap r).cipher.map Cipher.key

lemma view_eq_none {dp : DataPlane} {id : NodeId} : dp.view id = none ↔ id ∉ dp.peers := by
  rw [view, Option.map_eq_none_iff, AList.lookup_eq_none]

lemma Keeps.view {dp dp' : DataPlane} (h : Keeps dp dp') : dp'.view = dp.view := by
  funext id
  simp only [DataPlane.view, h.peers, (h.record _).key]

lemma Draws.view {r : PeerRef} {dp dp' : DataPlane} (h : Draws r dp dp') : dp'.view = dp.view := by
  funext id
  simp only [DataPlane.view, h.peers, h.key]

lemma view_upsertPeer {dp : DataPlane} (hw : dp.WellFormed) (now : Instant) (info : PeerInfo)
    (relay : SocketAddr) :
    (dp.upsertPeer (.fresh now info relay)).view = dp.view.change (.add info.nodeId) := by
  cases hr : dp.peers.lookup info.nodeId with
  | some r =>
      have hup : dp.upsertPeer (.fresh now info relay) =
          dp.setPeer r { dp.heap r with info := info } := by
        simp only [upsertPeer, DataPeer.fresh, hr]
      have hsame : Keeps dp (dp.setPeer r { dp.heap r with info := info }) :=
        keeps_setPeer ⟨(hw.nodeId _ r hr).symm, rfl, rfl⟩
      rw [hup, hsame.view]
      refine TableView.eq_change info.nodeId rfl ?_ fun _ _ => rfl
      rw [view, hr]
      rfl
  | none =>
      have hup : dp.upsertPeer (.fresh now info relay) =
          { dp.setPeer dp.nextRef (.fresh now info relay) with
            peers := dp.peers.insert info.nodeId dp.nextRef
            nextRef := dp.nextRef + 1 } := by
        simp only [upsertPeer, DataPeer.fresh, hr]
      rw [hup]
      refine TableView.eq_change info.nodeId rfl ?_ fun id hid => ?_
      · simp only [view, hr, AList.lookup_insert, setPeer, Option.map_some,
          Function.update_self]
        rfl
      · simp only [view, setPeer, AList.lookup_insert_ne hid]
        cases hlook : dp.peers.lookup id with
        | none => rfl
        | some r =>
            rw [Option.map_some, Option.map_some,
              Function.update_of_ne (Nat.ne_of_lt (hw.ref_lt id r hlook))]

lemma view_removePeer (dp : DataPlane) (id : NodeId) :
    (dp.removePeer id).view = dp.view.change (.remove id) := by
  refine TableView.eq_change id rfl ?_ fun id' hid => ?_
  · simp only [view, removePeer, AList.lookup_erase]
    rfl
  · simp only [view, removePeer, AList.lookup_erase_ne hid]

lemma view_setDirectPath {dp : DataPlane} (hw : dp.WellFormed) (now : Instant) (id : NodeId)
    (addr : SocketAddr) (c : Cipher) :
    (dp.setDirectPath now id addr (some c)).view = dp.view.change (.key id c.key) := by
  unfold setDirectPath
  cases hr : dp.peers.lookup id with
  | none =>
      refine TableView.eq_change id rfl ?_ fun _ _ => rfl
      simp only [view, hr]
      rfl
  | some r =>
      refine TableView.eq_change id rfl ?_ fun id' hid => ?_
      · simp only [view, setPeer, hr, Option.map_some, Function.update_self]
        rfl
      · simp only [view, setPeer]
        cases hlook : dp.peers.lookup id' with
        | none => rfl
        | some r' =>
            have hne : r' ≠ r := by
              rintro rfl
              exact hid ((hw.nodeId id' r' hlook).symm.trans (hw.nodeId id r' hr))
            rw [Option.map_some, Option.map_some, Function.update_of_ne hne]

/-- Sending draws at most a nonce. -/
lemma view_sendToPeer {dp dp₀ : DataPlane} (hk : Keeps dp dp₀) (hw : dp.WellFormed) (A : Aead)
    (E : Etherparse) (r : PeerRef) (t : DataPacketType) (payload : Bytes)
    (target : Option SocketAddr) (flood : Bool) (net : NetAnswer) :
    let out := dp₀.sendToPeer A E r t payload target flood net
    out.plane.view = dp.view ∧ out.plane.WellFormed := by
  rcases sendToPeer_draws hk A E r t payload target flood net with ⟨hkeeps, -⟩ | ⟨hdraws, -⟩
  · exact ⟨hkeeps.view, hw.keeps hkeeps⟩
  · exact ⟨hdraws.view, hdraws.wellFormed hw⟩

lemma view_handleIncomingFrame {dp : DataPlane} (hw : dp.WellFormed) (A : Aead) (E : Etherparse)
    (macos : Bool) (h : DataHeader) (payload : Bytes) (addr : SocketAddr) (io : IncomingIo) :
    let out := dp.handleIncomingFrame A E macos h payload addr io
    out.plane.view = dp.view ∧ out.plane.WellFormed := by
  intro out
  rcases dp.handleIncomingFrame_keeps A E macos h payload addr io with
    ⟨hkeeps, -⟩ | ⟨r, dp', packet, -, -, -, hkeeps, hplane, -⟩
  · exact ⟨hkeeps.view, hw.keeps hkeeps⟩
  · rw [show out.plane = _ from hplane]
    exact view_sendToPeer hkeeps hw A E r .pong packet (some addr) false io.pongSend

end DataPlane

/-! ## The edge's table, and changes to both -/

namespace Edge

def view (e : Edge) : TableView :=
  fun id => (e.peers.lookup id).map fun st => st.cipher.map Cipher.key

lemma view_eq_none {e : Edge} {id : NodeId} : e.view id = none ↔ id ∉ e.peers := by
  rw [view, Option.map_eq_none_iff, AList.lookup_eq_none]

/-- An entry that is written over with the same cipher. -/
lemma view_insert {e e' : Edge} {id : NodeId} {st st' : PeerState}
    (hst : e.peers.lookup id = some st) (he : e'.peers = e.peers.insert id st')
    (hcipher : st'.cipher = st.cipher) : e'.view = e.view := by
  funext id'
  simp only [view, he, KeyMap.lookup_insert_eq]
  split_ifs with hid
  · rw [hid, hst, Option.map_some, Option.map_some, hcipher]
  · rfl

/-- The two tables have taken the same changes; none has added the edge itself. -/
structure Paired (cs : List TableChange) (e e' : Edge) : Prop where
  view : e'.view = e.view.changes cs
  plane : e'.dataplane.view = e.dataplane.view.changes cs
  others : ∀ c ∈ cs, c ≠ .add e.nodeId
  wellFormed : e'.dataplane.WellFormed
  nodeId : e'.nodeId = e.nodeId
  leaving : e'.leaving = e.leaving
  supernodeAddr : e'.supernodeAddr = e.supernodeAddr

lemma Paired.refl {e : Edge} (hw : e.dataplane.WellFormed) : Paired [] e e :=
  ⟨rfl, rfl, List.forall_mem_nil _, hw, rfl, rfl, rfl⟩

lemma Paired.trans {cs ds : List TableChange} {e e' e'' : Edge} (h : Paired cs e e')
    (h' : Paired ds e' e'') : Paired (cs ++ ds) e e'' where
  view := by rw [h'.view, h.view, TableView.changes_append]
  plane := by rw [h'.plane, h.plane, TableView.changes_append]
  others := by
    intro c hc
    rcases List.mem_append.mp hc with hc | hc
    · exact h.others c hc
    · exact h.nodeId ▸ h'.others c hc
  wellFormed := h'.wellFormed
  nodeId := h'.nodeId.trans h.nodeId
  leaving := h'.leaving.trans h.leaving
  supernodeAddr := h'.supernodeAddr.trans h.supernodeAddr

section Operations

variable {e : Edge}

lemma addPeer_paired (hw : e.dataplane.WellFormed) (now : Instant) {peer : PeerInfo}
    (hother : peer.nodeId ≠ e.nodeId) : Paired [.add peer.nodeId] e (e.addPeer now peer) where
  view := by
    refine TableView.eq_change peer.nodeId rfl ?_ fun id hid => ?_
    · simp only [view, addPeer_lookup, if_true]
      cases e.peers.lookup peer.nodeId <;> rfl
    · simp only [view, addPeer_lookup, if_neg hid]
  plane := DataPlane.view_upsertPeer hw now peer e.supernodeAddr
  others := by simpa using hother
  wellFormed := (addPeer_evolves hw now peer).wellFormed
  nodeId := rfl
  leaving := rfl
  supernodeAddr := rfl

lemma removePeer_paired (hw : e.dataplane.WellFormed) (id : NodeId) :
    Paired [.remove id] e (e.removePeer id) where
  view := by
    refine TableView.eq_change id rfl ?_ fun id' hid => ?_
    · simp only [view, removePeer_lookup, if_true]
      rfl
    · simp only [view, removePeer_lookup, if_neg hid]
  plane := e.dataplane.view_removePeer id
  others := by simp
  wellFormed := hw.removePeer id
  nodeId := rfl
  leaving := rfl
  supernodeAddr := rfl

/-- What holds of each of a list of operations holds of all of them. -/
lemma foldl_paired {α : Type*} {f : Edge → α → Edge} {l : List α}
    (hf : ∀ a ∈ l, ∀ e' : Edge, e'.dataplane.WellFormed → e'.nodeId = e.nodeId →
      ∃ cs, Paired cs e' (f e' a))
    (hw : e.dataplane.WellFormed) : ∃ cs, Paired cs e (l.foldl f e) := by
  induction l generalizing e with
  | nil => exact ⟨[], .refl hw⟩
  | cons a l ih =>
      rw [List.forall_mem_cons] at hf
      obtain ⟨cs, hcs⟩ := hf.1 e hw rfl
      obtain ⟨ds, hds⟩ := ih (fun b hb e' hw' hid => hf.2 b hb e' hw' (hid.trans hcs.nodeId))
        hcs.wellFormed
      exact ⟨cs ++ ds, hcs.trans hds⟩

lemma handlePeerList_paired (hw : e.dataplane.WellFormed) (now : Instant)
    (roomPeers : List PeerInfo) : ∃ cs, Paired cs e (e.handlePeerList now roomPeers) := by
  obtain ⟨cs, hadd⟩ := foldl_paired (e := e) (f := fun e peer => e.addPeer now peer)
    (l := roomPeers.filter fun peer => peer.nodeId ≠ e.nodeId)
    (fun peer hpeer e' hw' hid =>
      ⟨_, addPeer_paired hw' now (hid ▸ of_decide_eq_true (List.mem_filter.mp hpeer).2)⟩) hw
  obtain ⟨ds, hremove⟩ := foldl_paired (f := removePeer)
    (l := (List.foldl _ e _).peers.keys.filter fun id => id ∉
      (roomPeers.filter fun peer => peer.nodeId ≠ e.nodeId).map PeerInfo.nodeId)
    (fun id _ e' hw' _ => ⟨_, removePeer_paired hw' id⟩) hadd.wellFormed
  exact ⟨cs ++ ds, hadd.trans hremove⟩

/-- A handler that keeps every record and the ciphers of the edge's table. -/
lemma paired_of_keeps (hw : e.dataplane.WellFormed) {peers : KeyMap NodeId PeerState}
    {dataplane : DataPlane} (hview : { e with peers, dataplane }.view = e.view)
    (hkeeps : DataPlane.Keeps e.dataplane dataplane) : Paired [] e { e with peers, dataplane } :=
  ⟨hview, hkeeps.view, List.forall_mem_nil _, hw.keeps hkeeps, rfl, rfl, rfl⟩

lemma handlePunchRequest_paired (N : Noise) (hw : e.dataplane.WellFormed) (target : NodeId)
    (candidates : List Candidate) (io : EdgeIo) :
    Paired [] e (e.handlePunchRequest N target candidates io).edge := by
  cases hpeer : e.peers.lookup target with
  | none =>
      rw [handlePunchRequest_unknown N hpeer]
      exact .refl hw
  | some peer =>
      obtain ⟨dataplane, hkeeps, hout⟩ := handlePunchRequest_known N hpeer candidates io
      rw [hout]
      exact paired_of_keeps hw (view_insert hpeer rfl rfl) hkeeps

lemma activateRoom_paired (hw : e.dataplane.WellFormed) (room : RoomId) (io : EdgeIo) :
    Paired [] e (e.activateRoom room io).2 := by
  have hsame : ∀ roomId tun planeRoom, Paired [] e
      { e with roomId, dataplane := { e.dataplane with tun, roomId := planeRoom } } :=
    fun _ _ _ => ⟨rfl, rfl, List.forall_mem_nil _, ⟨hw.ref_lt, hw.nodeId⟩, rfl, rfl, rfl⟩
  unfold activateRoom
  split
  · exact .refl hw
  · simp only
    split
    · exact .refl hw
    · split
      · exact hsame _ _ _
      · split
        · split
          · exact .refl hw
          · exact hsame _ _ _
        · exact hsame _ _ _

end Operations

/-- Data that is received leaves both tables as they are. -/
lemma data_paired (P : Platform) {e : Edge} (hw : e.dataplane.WellFormed) (h : DataHeader)
    (payload : Bytes) (addr : SocketAddr) (io : IncomingIo) :
    Paired [] e (e.step P (.data h payload addr io)) := by
  obtain ⟨hview, hw'⟩ := DataPlane.view_handleIncomingFrame hw P.aead P.etherparse P.macos h payload
    addr io
  exact ⟨rfl, hview, List.forall_mem_nil _, hw', rfl, rfl, rfl⟩

/-- So does data that is sent. -/
lemma send_paired (P : Platform) {e : Edge} (hw : e.dataplane.WellFormed) (call : SendCall) :
    Paired [] e (e.step P (.send call)) := by
  rw [step]
  split_ifs
  · obtain ⟨hview, hw'⟩ := DataPlane.view_sendToPeer (.refl e.dataplane) hw P.aead P.etherparse
      call.peer call.packetType call.payload call.target call.flood call.net
    exact ⟨rfl, hview, List.forall_mem_nil _, hw', rfl, rfl, rfl⟩
  · exact .refl hw

/-- A command clears the edge's table and starts a leave, or leaves the tables as they are. -/
lemma handleCommand_tables {e : Edge} (hw : e.dataplane.WellFormed) (cmd : EdgeCommand)
    (sendOk : Bool) :
    (e.handleCommand cmd sendOk).edge = { e with peers := ∅, leaving := true } ∨
      Paired [] e (e.handleCommand cmd sendOk).edge := by
  cases hsent : (e.handleCommand cmd sendOk).frames.isEmpty with
  | true =>
      rw [handleCommand_silent hsent]
      exact .inr (.refl hw)
  | false =>
      rw [(handleCommand_sent hsent).2.2]
      cases cmd with
      | createRoom _ | joinRoom _ _ _ _ =>
          exact .inr ⟨rfl, rfl, List.forall_mem_nil _, hw, rfl, rfl, rfl⟩
      | leaveRoom => exact .inl rfl

end Edge

end R2N
