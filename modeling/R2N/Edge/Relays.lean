import R2N.Dataplane.Routes
import R2N.Edge.Agreement

/-!
# Relays and changes of supernode

The first route of a peer is its relay: the supernode that was the current one when the peer's
record was made.  `upsert_peer` keeps the record of a peer that is known, so a change of supernode
does not reach it, and a frame that comes by way of the new supernode teaches its address as a
direct one.

* `heard` — the addresses an input shows a peer to be reachable at.
* `step_routes` — a step adds these addresses to the routes of that peer, or it leaves all routes
  as they are and gives new records the current supernode as their relay.
* `Relayed` — a run with, beside the two loops, the supernode each record was made under and the
  peers the current supernode has listed.
* **`relays_follow_iff`** — listed peers have the current supernode as their relay and no supernode
  is on record as a direct address, along exactly those runs in which listed peers are new or were
  met under this supernode, and no peer is heard of at a supernode other than its relay.
-/

namespace R2N

open Run
open DataPlane (Renews Routed)

/-! ## The operations of the edge -/

namespace Edge

lemma foldl_addPeer_renews (now : Instant) (l : List PeerInfo) (e : Edge) :
    Renews e.supernodeAddr e.dataplane
      (l.foldl (fun e peer => e.addPeer now peer) e).dataplane := by
  induction l generalizing e with
  | nil => exact .refl _ _
  | cons peer l ih =>
      exact (e.dataplane.upsertPeer_renews now peer _).trans (ih (e.addPeer now peer))

lemma foldl_removePeer_renews (relay : SocketAddr) (l : List NodeId) (e : Edge) :
    Renews relay e.dataplane (l.foldl removePeer e).dataplane := by
  induction l generalizing e with
  | nil => exact .refl _ _
  | cons id l ih => exact (e.dataplane.removePeer_renews relay id).trans (ih (e.removePeer id))

lemma handlePeerList_renews (e : Edge) (now : Instant) (roomPeers : List PeerInfo) :
    Renews e.supernodeAddr e.dataplane (e.handlePeerList now roomPeers).dataplane :=
  (foldl_addPeer_renews now _ e).trans (foldl_removePeer_renews e.supernodeAddr _ _)

/-- A listed peer that is known keeps its record. -/
lemma handlePeerList_record {e : Edge} {id : NodeId} {r : PeerRef}
    (hr : e.dataplane.peers.lookup id = some r) (hid : id ≠ e.nodeId) (now : Instant)
    {roomPeers : List PeerInfo} (hlisted : id ∈ roomPeers.map PeerInfo.nodeId) :
    (e.handlePeerList now roomPeers).dataplane.peers.lookup id = some r := by
  have hadd : ∀ (l : List PeerInfo) (e : Edge), e.dataplane.peers.lookup id = some r →
      (l.foldl (fun e peer => e.addPeer now peer) e).dataplane.peers.lookup id = some r := by
    intro l
    induction l with
    | nil => exact fun e h => h
    | cons peer l ih => exact fun e h => ih _ (DataPlane.upsertPeer_lookup h _)
  have hremove : ∀ (l : List NodeId) (e : Edge), id ∉ l →
      e.dataplane.peers.lookup id = some r →
      (l.foldl removePeer e).dataplane.peers.lookup id = some r := by
    intro l
    induction l with
    | nil => exact fun e _ h => h
    | cons id' l ih =>
        intro e hl h
        rw [List.mem_cons, not_or] at hl
        refine ih _ hl.2 ?_
        rw [removePeer, DataPlane.removePeer, KeyMap.lookup_erase_eq, if_neg hl.1]
        exact h
  refine hremove _ _ ?_ (hadd _ e hr)
  obtain ⟨peer, hpeer, rfl⟩ := List.mem_map.mp hlisted
  simp only [List.mem_filter, not_and, decide_eq_true_eq, not_not]
  exact fun _ => List.mem_map.mpr ⟨peer, List.mem_filter.mpr ⟨hpeer, by simpa using hid⟩, rfl⟩

lemma handlePeerUpdate_renews (e : Edge) (now : Instant) (peer : PeerInfo) (action : PeerAction) :
    Renews e.supernodeAddr e.dataplane (e.handlePeerUpdate now peer action).dataplane := by
  cases action with
  | remove => exact e.dataplane.removePeer_renews _ peer.nodeId
  | add | update =>
      simp only [handlePeerUpdate]
      split_ifs
      · exact .refl _ _
      · exact e.dataplane.upsertPeer_renews now peer _

/-- A punch to a peer that is known hears of it at its candidates. -/
lemma handlePunchRequest_taught (N : Noise) {e : Edge} {target : NodeId}
    (htarget : target ∈ e.peers) (candidates : List Candidate) (io : EdgeIo) :
    DataPlane.Taught target (candidates.map Candidate.addr) e.dataplane
      (e.handlePunchRequest N target candidates io).edge.dataplane := by
  obtain ⟨peer, hpeer⟩ := KeyMap.mem_iff_lookup.mp htarget
  have hplane : (e.handlePunchRequest N target candidates io).edge.dataplane =
      candidates.foldl (fun dp candidate => dp.addPeerCandidate io.now target candidate.addr)
        e.dataplane := by
    unfold handlePunchRequest
    rw [hpeer]
    simp only
    split <;> rfl
  rw [hplane]
  exact e.dataplane.foldl_addPeerCandidate_taught io.now target candidates

lemma activateRoom_renews (e : Edge) (room : RoomId) (io : EdgeIo) (relay : SocketAddr) :
    Renews relay e.dataplane (e.activateRoom room io).2.dataplane := by
  have hsame : ∀ tun roomId, Renews relay e.dataplane
      { e.dataplane with tun := tun, roomId := roomId } :=
    fun _ _ => DataPlane.renews_of_heap_eq relay rfl rfl fun _ _ h => h
  unfold activateRoom
  split
  · exact .refl _ _
  · simp only
    split
    · exact .refl _ _
    · split
      · exact hsame _ _
      · split
        · split
          · exact .refl _ _
          · exact hsame _ _
        · exact hsame _ _

/-- Where a handshake that is completed reaches its peer. -/
def completedAt (e : Edge) (reply : Reply) : Option (NodeId × List SocketAddr) :=
  match e.peers.lookup reply.fromNode with
  | none => none
  | some peer =>
      if (reply.step.install peer.cipher).isSome then some (reply.fromNode, [reply.addr]) else none

lemma endHandshake_routed (e : Edge) (reply : Reply) (now : Instant) (relay : SocketAddr) :
    Routed (e.completedAt reply) relay e.dataplane (e.endHandshake reply now).dataplane := by
  unfold completedAt endHandshake
  cases e.peers.lookup reply.fromNode with
  | none => exact .refl _ _
  | some peer =>
      simp only
      cases reply.step.install peer.cipher with
      | none => exact .refl _ _
      | some ks => exact e.dataplane.setDirectPath_taught now reply.fromNode reply.addr _

/-- Every control frame but punches and handshakes leaves the routes that there are alone. -/
lemma handleControl_renews (N : Noise) (e : Edge) {frame : ControlFrame}
    (hpunch : ∀ target candidates, frame ≠ .punchRequest target candidates)
    (hframe : ∀ fromNode payload, frame ≠ .handshake fromNode payload) (addr : SocketAddr)
    (io : EdgeIo) :
    Renews e.supernodeAddr e.dataplane (e.handleControl N frame addr io).edge.dataplane := by
  cases frame with
  | roomCreated room _ _ _ | joinAccept room _ _ _ => exact e.activateRoom_renews room io _
  | peerList roomPeers => exact e.handlePeerList_renews io.now roomPeers
  | peerUpdate peer action => exact e.handlePeerUpdate_renews io.now peer action
  | punchRequest target candidates => exact absurd rfl (hpunch target candidates)
  | handshake fromNode payload => exact absurd rfl (hframe fromNode payload)
  | _ => exact .refl _ _

end Edge

/-! ## What a step does to the routes -/

namespace TwoLoops

/-- The peer an input shows to be reachable, and the addresses: the candidates of a punch, the
address a handshake is completed with, and the address a frame of data that is accepted comes
from. -/
def heard (P : Platform) (s : TwoLoops) : LoopInput → Option (NodeId × List SocketAddr)
  | .edge (.control (.punchRequest target candidates) _ _) =>
      if s.replying.isNone ∧ target ∈ s.edge.peers then
        some (target, candidates.map Candidate.addr)
      else none
  | .edge (.control (.handshake fromNode payload) addr io) =>
      match s.replying, s.edge.peers.lookup fromNode with
      | none, some peer =>
          let begun := s.edge.beginHandshake P.noise fromNode peer payload addr io
          if begun.1.step.response.isSome then none else begun.2.completedAt begun.1
      | _, _ => none
  | .edge (.data h payload addr io) =>
      if s.replying.isNone ∧ (s.edge.dataplane.acceptedPacket P.aead io.now h payload).isSome then
        some (h.srcNode, [addr])
      else none
  | .endReply _ => s.replying.bind s.edge.completedAt
  | _ => none

lemma receive_routed (P : Platform) {s : TwoLoops} (hidle : s.replying = none)
    (frame : ControlFrame) (addr : SocketAddr) (io : EdgeIo) :
    Routed (s.heard P (.edge (.control frame addr io))) s.edge.supernodeAddr s.edge.dataplane
      (s.receive P frame addr io).edge.dataplane := by
  cases frame with
  | handshake fromNode payload =>
      simp only [heard, receive, hidle]
      cases s.edge.peers.lookup fromNode with
      | none => exact .refl _ _
      | some peer =>
          simp only
          split_ifs
          · exact .refl _ _
          · exact Edge.endHandshake_routed _ _ io.now _
  | punchRequest target candidates =>
      simp only [heard, receive, hidle, Option.isNone_none, true_and]
      split_ifs with htarget
      · exact Edge.handlePunchRequest_taught P.noise htarget candidates io
      · have hunknown : s.edge.peers.lookup target = none := AList.lookup_eq_none.mpr htarget
        rw [Edge.handleControl, Edge.handlePunchRequest_unknown P.noise hunknown]
        exact .refl _ _
  | _ =>
      exact s.edge.handleControl_renews P.noise (fun _ _ => ControlFrame.noConfusion)
        (fun _ _ => ControlFrame.noConfusion) addr io

/-- **A step** adds the addresses that are heard to the routes of that peer, or adds to no routes
and gives new records the current supernode as their relay. -/
theorem step_routes (P : Platform) (s : TwoLoops) (input : LoopInput) :
    Routed (s.heard P input) s.edge.supernodeAddr s.edge.dataplane
      (s.step P input).edge.dataplane := by
  cases input with
  | endReply now =>
      rw [step, heard]
      cases s.replying with
      | none => exact .refl _ _
      | some reply => exact s.edge.endHandshake_routed reply now _
  | switchSupernode =>
      rw [step, Edge.switchSupernode]
      split <;> exact .refl _ _
  | edge input =>
      cases input with
      | control frame addr io =>
          rw [step]
          cases hreplying : s.replying with
          | none => exact receive_routed P hreplying frame addr io
          | some reply =>
              have hnone : s.heard P (.edge (.control frame addr io)) = none := by
                cases frame <;> simp [heard, hreplying]
              rw [hnone]
              exact .refl _ _
      | data h payload addr io =>
          rw [step, heard]
          cases s.replying with
          | some reply => exact .refl _ _
          | none =>
              rcases s.edge.dataplane.handleIncomingFrame_hears P.aead P.etherparse P.macos h
                payload addr io with ⟨hrejected, hhears⟩ | ⟨haccepted, r, hr, hhears⟩
              · rw [hrejected]
                exact (hhears 0).renews _
              · rw [haccepted]
                show DataPlane.Taught h.srcNode [addr] _ _
                rw [DataPlane.Taught, hr]
                exact hhears
      | command cmd sendOk =>
          show Renews _ _ (s.edge.handleCommand cmd sendOk).edge.dataplane
          rw [(s.edge.handleCommand_keeps cmd sendOk).2]
          exact .refl _ _
      | finishLeave =>
          simp only [step, Edge.step, heard]
          split_ifs
          · exact DataPlane.renews_of_heap_eq _ rfl rfl fun _ _ h => by
              simp [Edge.finishLeave, DataPlane.clearPeers, DataPlane.setRoomId] at h
          · exact .refl _ _
      | failover supernode => exact .refl _ _
      | send call =>
          simp only [step, Edge.step, heard]
          split_ifs
          · exact (DataPlane.sendToPeer_hears P.aead P.etherparse s.edge.dataplane call.peer
              call.packetType call.payload call.target call.flood call.net).renews _
          · exact .refl _ _

/-- Only the watchdog and the end of a switch change the current supernode. -/
lemma step_supernodeAddr (P : Platform) {s : TwoLoops} (hw : s.edge.dataplane.WellFormed)
    {input : LoopInput} (hinput : ∀ supernode, input ≠ .edge (.failover supernode)) :
    (s.step P input).edge.supernodeAddr = s.edge.supernodeAddr := by
  rcases step_cases P hw input with ⟨cs, h, -⟩ | ⟨hleave, -⟩ | ⟨-, hend, -⟩ | ⟨addr, rfl⟩
  · exact h.supernodeAddr
  · rw [hleave]
  · rw [hend]
    rfl
  · exact absurd rfl (hinput addr)

end TwoLoops

/-! ## Runs with changes of supernode -/

/-- The two loops, the supernode that was the current one when each record of the dataplane was
made, and the peers that the current supernode has listed since it is the current one. -/
structure Relayed where
  loops : TwoLoops
  made : PeerRef → SocketAddr
  listed : List NodeId

inductive RelayInput where
  | loop (input : LoopInput)
  | pingTimedOut (now : Instant) (nodeId : NodeId) (addr : SocketAddr)

namespace Relayed

def edge (s : Relayed) : Edge := s.loops.edge

def start (e : Edge) : Relayed :=
  { loops := .start e, made := fun _ => e.supernodeAddr, listed := [] }

/-- The peers that are listed after an input. -/
def nextListed (s : Relayed) : LoopInput → List NodeId
  | .edge (.control (.peerList roomPeers) addr _) =>
      if s.loops.replying.isNone ∧ addr = s.edge.supernodeAddr then
        (roomPeers.map PeerInfo.nodeId).filter fun id => id ≠ s.edge.nodeId
      else s.listed
  | .edge (.failover _) => []
  | _ => s.listed

/-- A peer is listed because it was, or because the current supernode has just listed it. -/
lemma mem_nextListed {s : Relayed} {input : LoopInput} {id : NodeId}
    (h : id ∈ s.nextListed input) :
    id ∈ s.listed ∨ ∃ roomPeers io,
      input = .edge (.control (.peerList roomPeers) s.edge.supernodeAddr io) ∧
      s.loops.replying = none ∧ ∃ peer ∈ roomPeers, peer.nodeId = id ∧ id ≠ s.edge.nodeId := by
  unfold nextListed at h
  split at h
  next roomPeers addr io =>
    split_ifs at h with hcurrent
    · obtain ⟨hidle, rfl⟩ := hcurrent
      obtain ⟨hmem, hself⟩ := List.mem_filter.mp h
      obtain ⟨peer, hpeer, rfl⟩ := List.mem_map.mp hmem
      exact .inr ⟨roomPeers, io, rfl, Option.isNone_iff_eq_none.mp hidle, peer, hpeer, rfl,
        by simpa using hself⟩
    · exact .inl h
  next => cases h
  next => exact .inl h

def step (P : Platform) (s : Relayed) : RelayInput → Relayed
  | .loop input =>
      { loops := s.loops.step P input
        made := fun r => if r < s.edge.dataplane.nextRef then s.made r else s.edge.supernodeAddr
        listed := s.nextListed input }
  | .pingTimedOut now nodeId addr =>
      { s with
        loops :=
          { s.loops with
            edge := { s.edge with dataplane := s.edge.dataplane.pingTimedOut now nodeId addr } } }

/-- The listed peers have the current supernode as their fallback, and no path to a configured
supernode is on record as a direct one. -/
structure RelaysFollow (configured : List SocketAddr) (s : Relayed) : Prop where
  fallback : ∀ id ∈ s.listed, ∀ r, s.edge.dataplane.peers.lookup id = some r →
    (s.edge.dataplane.heap r).pathManager.paths.head?.map PathInfo.addr =
      some s.edge.supernodeAddr
  direct : ∀ id r, s.edge.dataplane.peers.lookup id = some r →
    ∀ path ∈ (s.edge.dataplane.heap r).pathManager.paths, path.addr ∈ configured →
      path.isRelay = true

/-- A list from the current supernode has only peers that are new, or were met while it was the
current one; and a peer is heard of at a configured supernode only if that is its relay. -/
def Expected (P : Platform) (configured : List SocketAddr) (s : Relayed) : RelayInput → Prop
  | .loop input =>
      (∀ roomPeers io, input = .edge (.control (.peerList roomPeers) s.edge.supernodeAddr io) →
        s.loops.replying = none → ∀ peer ∈ roomPeers, peer.nodeId ≠ s.edge.nodeId →
          ∀ r, s.edge.dataplane.peers.lookup peer.nodeId = some r →
            s.made r = s.edge.supernodeAddr) ∧
      ∀ id addrs, s.loops.heard P input = some (id, addrs) →
        ∀ r, s.edge.dataplane.peers.lookup id = some r →
          ∀ addr ∈ addrs, addr ∈ configured → addr = s.made r
  | .pingTimedOut _ _ _ => True

/-- The first route of a record is the supernode it was made under, and its only relay. -/
structure Anchored (s : Relayed) : Prop where
  wellFormed : s.edge.dataplane.WellFormed
  routes : ∀ id r, s.edge.dataplane.peers.lookup id = some r →
    Routes.Anchored (s.made r) (s.edge.dataplane.routesAt r)

lemma anchored_start {e : Edge} (htable : e.dataplane.peers = ∅) : Anchored (start e) where
  wellFormed := DataPlane.wellFormed_of_empty htable
  routes := by
    intro id r hr
    rw [show (start e).edge.dataplane.peers = ∅ from htable] at hr
    cases hr

section Steps

variable {P : Platform} {configured : List SocketAddr} {s : Relayed}

/-- In terms of routes and of the supernodes the records were made under. -/
lemma Anchored.follow_iff (hs : Anchored s) :
    RelaysFollow configured s ↔
      (∀ id ∈ s.listed, ∀ r, s.edge.dataplane.peers.lookup id = some r →
        s.made r = s.edge.supernodeAddr) ∧
      ∀ id r, s.edge.dataplane.peers.lookup id = some r →
        Routes.NoneDirect configured (s.edge.dataplane.routesAt r) := by
  have hhead : ∀ id r, s.edge.dataplane.peers.lookup id = some r →
      (s.edge.dataplane.heap r).pathManager.paths.head?.map PathInfo.addr = some (s.made r) := by
    intro id r hr
    have h := (hs.routes id r hr).head
    rw [DataPlane.routesAt, PathManager.routes, List.head?_map] at h
    obtain ⟨path, hpath, hroute⟩ := Option.map_eq_some_iff.mp h
    rw [hpath]
    exact congrArg (fun x => some x.1) hroute
  constructor
  · rintro ⟨hfallback, hdirect⟩
    refine ⟨fun id hid r hr => ?_, fun id r hr x hx hconf => ?_⟩
    · exact Option.some.inj ((hhead id r hr).symm.trans (hfallback id hid r hr))
    · obtain ⟨path, hpath, rfl⟩ := List.mem_map.mp hx
      exact hdirect id r hr path hpath hconf
  · rintro ⟨hfallback, hdirect⟩
    refine ⟨fun id hid r hr => ?_, fun id r hr path hpath hconf => ?_⟩
    · rw [hhead id r hr, hfallback id hid r hr]
    · exact hdirect id r hr _ (List.mem_map.mpr ⟨path, hpath, rfl⟩) hconf

/-- The entries after an input of the loops. -/
lemma Anchored.entry (hs : Anchored s) {input : LoopInput} {id : NodeId} {r : PeerRef}
    (hr : (s.step P (.loop input)).edge.dataplane.peers.lookup id = some r) :
    (s.edge.dataplane.peers.lookup id = some r ∧ (s.step P (.loop input)).made r = s.made r ∧
      (s.step P (.loop input)).edge.dataplane.routesAt r =
        (s.edge.dataplane.routesAt r).learnAll (DataPlane.addrsOf (s.loops.heard P input) id)) ∨
    ((s.step P (.loop input)).made r = s.edge.supernodeAddr ∧
      (s.step P (.loop input)).edge.dataplane.routesAt r = [(s.edge.supernodeAddr, true)]) := by
  have hw' := TwoLoops.step_wellFormed P hs.wellFormed input
  rcases (s.loops.step_routes P input).entry hs.wellFormed hw' hr with
    ⟨hold, hlook, hroutes⟩ | ⟨hnew, hroutes⟩
  · exact .inl ⟨hlook, if_pos hold, hroutes⟩
  · exact .inr ⟨if_neg (Nat.not_lt.mpr hnew), hroutes⟩

lemma Anchored.loop (hs : Anchored s) (input : LoopInput) : Anchored (s.step P (.loop input)) where
  wellFormed := TwoLoops.step_wellFormed P hs.wellFormed input
  routes := by
    intro id r hr
    rcases hs.entry hr with ⟨hlook, hmade, hroutes⟩ | ⟨hmade, hroutes⟩
    · rw [hmade, hroutes]
      exact (hs.routes id r hlook).learnAll _
    · rw [hmade, hroutes]
      exact Routes.anchored_singleton _

/-- No supernode becomes a direct address exactly if none but a relay is heard of. -/
lemma Anchored.noneDirect_iff (hs : Anchored s) (input : LoopInput)
    (hdirect : ∀ id r, s.edge.dataplane.peers.lookup id = some r →
      Routes.NoneDirect configured (s.edge.dataplane.routesAt r)) :
    (∀ id r, (s.step P (.loop input)).edge.dataplane.peers.lookup id = some r →
      Routes.NoneDirect configured ((s.step P (.loop input)).edge.dataplane.routesAt r)) ↔
    ∀ id addrs, s.loops.heard P input = some (id, addrs) →
      ∀ r, s.edge.dataplane.peers.lookup id = some r →
        ∀ addr ∈ addrs, addr ∈ configured → addr = s.made r := by
  have hrouted := s.loops.step_routes P input
  constructor
  · intro hafter id addrs hheard r hr
    rw [hheard] at hrouted
    obtain ⟨hr', hroutes⟩ := hrouted.record hr
    have hnone := hafter id r hr'
    rw [show (s.step P (.loop input)).edge.dataplane.routesAt r = _ from hroutes] at hnone
    exact ((hs.routes id r hr).noneDirect_learnAll_iff (hdirect id r hr) addrs).mp hnone
  · intro hheard id r hr
    rcases hs.entry hr with ⟨hlook, -, hroutes⟩ | ⟨-, hroutes⟩
    · rw [hroutes, (hs.routes id r hlook).noneDirect_learnAll_iff (hdirect id r hlook)]
      cases hcontact : s.loops.heard P input with
      | none => exact List.forall_mem_nil _
      | some contact =>
          rw [DataPlane.addrsOf]
          split_ifs with hid
          · exact hheard id contact.2 (by rw [hcontact, ← hid]) r hlook
          · exact List.forall_mem_nil _
    · rw [hroutes]
      intro x hx _
      rw [List.mem_singleton.mp hx]

/-- The listed peers follow exactly if a list of the current supernode has only new ones and those
that were met under it. -/
lemma Anchored.listed_iff (hs : Anchored s) (input : LoopInput)
    (hlisted : ∀ id ∈ s.listed, ∀ r, s.edge.dataplane.peers.lookup id = some r →
      s.made r = s.edge.supernodeAddr) :
    (∀ id ∈ (s.step P (.loop input)).listed,
      ∀ r, (s.step P (.loop input)).edge.dataplane.peers.lookup id = some r →
        (s.step P (.loop input)).made r = (s.step P (.loop input)).edge.supernodeAddr) ↔
    ∀ roomPeers io, input = .edge (.control (.peerList roomPeers) s.edge.supernodeAddr io) →
      s.loops.replying = none → ∀ peer ∈ roomPeers, peer.nodeId ≠ s.edge.nodeId →
        ∀ r, s.edge.dataplane.peers.lookup peer.nodeId = some r →
          s.made r = s.edge.supernodeAddr := by
  by_cases hfailover : ∃ supernode, input = .edge (.failover supernode)
  · obtain ⟨supernode, rfl⟩ := hfailover
    exact ⟨fun _ _ _ h => (nomatch h), fun _ => List.forall_mem_nil _⟩
  have haddr : (s.step P (.loop input)).edge.supernodeAddr = s.edge.supernodeAddr :=
    TwoLoops.step_supernodeAddr P hs.wellFormed fun supernode h => hfailover ⟨supernode, h⟩
  rw [haddr]
  constructor
  · rintro hafter roomPeers io rfl hidle peer hpeer hself r hr
    have hlistedPeer : peer.nodeId ∈ s.nextListed
        (.edge (.control (.peerList roomPeers) s.edge.supernodeAddr io)) := by
      rw [nextListed, if_pos ⟨by rw [hidle]; rfl, rfl⟩]
      exact List.mem_filter.mpr ⟨List.mem_map.mpr ⟨peer, hpeer, rfl⟩, by simpa using hself⟩
    have hedge : (s.step P (.loop
        (.edge (.control (.peerList roomPeers) s.edge.supernodeAddr io)))).edge =
          s.edge.handlePeerList io.now roomPeers := by
      simp only [edge, step, TwoLoops.step, hidle]
      rfl
    have hmade := hafter peer.nodeId hlistedPeer r (by
      rw [hedge]
      exact Edge.handlePeerList_record hr hself io.now (List.mem_map.mpr ⟨peer, hpeer, rfl⟩))
    exact (if_pos (hs.wellFormed.ref_lt _ r hr)).symm.trans hmade
  · intro hinput id hid r hr
    rcases hs.entry hr with ⟨hlook, hmade, -⟩ | ⟨hmade, -⟩
    · rw [hmade]
      rcases mem_nextListed hid with hold | ⟨roomPeers, io, heq, hidle, peer, hpeer, rfl, hself⟩
      · exact hlisted id hold r hlook
      · exact hinput roomPeers io heq hidle peer hpeer hself r hlook
    · exact hmade

lemma Anchored.pingTimedOut (hs : Anchored s) (now : Instant) (nodeId : NodeId)
    (addr : SocketAddr) : Anchored (s.step P (.pingTimedOut now nodeId addr)) := by
  have hkeeps := s.edge.dataplane.pingTimedOut_keeps now nodeId addr
  refine ⟨hs.wellFormed.keeps hkeeps, fun id r hr => ?_⟩
  rw [show (s.step P (.pingTimedOut now nodeId addr)).edge.dataplane.routesAt r = _ from
    (s.edge.dataplane.pingTimedOut_hears now nodeId addr r).self]
  exact hs.routes id r (hkeeps.peers ▸ hr)

/-- A ping that times out changes no route. -/
lemma Anchored.pingTimedOut_follow (hs : Anchored s) (hfollow : RelaysFollow configured s)
    (now : Instant) (nodeId : NodeId) (addr : SocketAddr) :
    RelaysFollow configured (s.step P (.pingTimedOut now nodeId addr)) := by
  obtain ⟨hlisted, hdirect⟩ := hs.follow_iff.mp hfollow
  have hpeers := (s.edge.dataplane.pingTimedOut_keeps now nodeId addr).peers
  refine (hs.pingTimedOut now nodeId addr).follow_iff.mpr
    ⟨fun id hid r hr => hlisted id hid r (hpeers ▸ hr), fun id r hr => ?_⟩
  rw [show (s.step P (.pingTimedOut now nodeId addr)).edge.dataplane.routesAt r = _ from
    (s.edge.dataplane.pingTimedOut_hears now nodeId addr r).self]
  exact hdirect id r (hpeers ▸ hr)

lemma Anchored.step (hs : Anchored s) (input : RelayInput) : Anchored (s.step P input) := by
  cases input with
  | loop input => exact hs.loop input
  | pingTimedOut now nodeId addr => exact hs.pingTimedOut now nodeId addr

/-- Relays follow the configuration after a step exactly if the step is an expected one. -/
lemma Anchored.step_follow_iff (hs : Anchored s) (hfollow : RelaysFollow configured s)
    (input : RelayInput) :
    RelaysFollow configured (s.step P input) ↔ Expected P configured s input := by
  cases input with
  | loop input =>
      obtain ⟨hlisted, hdirect⟩ := hs.follow_iff.mp hfollow
      rw [(hs.loop input).follow_iff]
      exact and_congr (hs.listed_iff input hlisted) (hs.noneDirect_iff input hdirect)
  | pingTimedOut now nodeId addr =>
      exact iff_of_true (hs.pingTimedOut_follow hfollow now nodeId addr) trivial

end Steps

/-- **Relays follow the supernode** in every state of a run exactly if every list of the current
supernode has only peers that are new or were met while it was the current one, and every peer that
is heard of at a configured supernode has it as its relay. -/
theorem relays_follow_iff (P : Platform) (configured : List SocketAddr) (e : Edge)
    (htable : e.dataplane.peers = ∅) (inputs : List RelayInput) :
    Along (step P) (fun s input => RelaysFollow configured (s.step P input)) (start e) inputs ↔
      Along (step P) (Expected P configured) (start e) inputs := by
  have hstart : RelaysFollow configured (start e) := by
    refine ⟨List.forall_mem_nil _, fun id r hr => ?_⟩
    rw [show (start e).edge.dataplane.peers = ∅ from htable] at hr
    cases hr
  refine Along.iff_of_invariant_forall (I := fun s => Anchored s ∧ RelaysFollow configured s)
    ?_ ?_ inputs (start e) ⟨anchored_start htable, hstart⟩
  · intro s input hs hexpected
    exact ⟨hs.1.step input, (hs.1.step_follow_iff hs.2 input).mpr hexpected⟩
  · intro s input hs
    exact hs.1.step_follow_iff hs.2 input

/-- The supernode at port `port` lists node `b`. -/
def listing (port : UInt16) (b : UInt8) : RelayInput :=
  .loop (.edge (.control (.peerList [Edge.sampleInfo b]) (.localhost port) (Edge.sampleIo 0 0)))

/-- The watchdog changes to the supernode at port 8. -/
def failover : RelayInput := .loop (.edge (.failover (.localhost 8)))

/-- A packet of node 2 in room 7 arrives by way of the supernode at port 8. -/
def relayedPacket : RelayInput :=
  .loop (.edge (.data
    { version := protocolVersion, flags := 0, packetType := .ipv4, reserved := 0, ttl := 8
      roomId := .fill 7, srcNode := .fill 2, dstNode := .fill 1, originNode := .fill 2
      sessionId := ⟨0⟩, nonce := 1, packetId := ⟨0⟩, payloadLen := 1 }
    [0x45] (.localhost 8)
    { now := 0, pongSend := .sent, pongReceived := none, tunWriteOk := true }))

/-- A peer that is first listed after the change. -/
theorem relays_follow_new_peer :
    Along (step .transparent)
      (fun s input => RelaysFollow [.localhost 9, .localhost 8] (s.step .transparent input))
      (start (.sample 1)) [listing 9 2, failover, listing 8 3] := by
  have hnew : (run (step .transparent) (start (.sample 1))
      [listing 9 2, failover]).edge.dataplane.peers.lookup (.fill 3) = none := by decide +kernel
  refine (relays_follow_iff .transparent _ (.sample 1) rfl _).mpr
    ⟨⟨?_, fun _ _ => nofun⟩, ⟨fun _ _ => nofun, fun _ _ => nofun⟩, ⟨?_, fun _ _ => nofun⟩, trivial⟩
  · rintro roomPeers io - - peer - - r hr
    cases hr
  · rintro roomPeers io ⟨⟩ - peer hpeer - r hr
    rw [List.mem_singleton.mp hpeer] at hr
    exact absurd (hnew.symm.trans hr) nofun

/-- **A peer that is known before the change** keeps the old relay when the new supernode lists it,
and the new supernode becomes a direct address of it. -/
theorem old_relay_kept :
    let inputs := [.loop (.edge Edge.enterRoom), listing 9 2, failover, listing 8 2, relayedPacket]
    ¬ Along (step .transparent)
        (fun s input => RelaysFollow [.localhost 9, .localhost 8] (s.step .transparent input))
        (start (.sample 1)) inputs ∧
      (run (step .transparent) (start (.sample 1)) inputs).edge.dataplane.routesAt 0 =
        [(.localhost 9, true), (.localhost 8, false)] := by
  intro inputs
  constructor
  · rintro ⟨-, -, -, hfollow, -⟩
    have hfallback := hfollow.fallback (.fill 2) (by decide +kernel) 0 (by decide +kernel)
    exact absurd hfallback (by decide +kernel)
  · decide +kernel

end Relayed

end R2N
