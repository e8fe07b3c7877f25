import R2N.Dataplane.Records

/-!
# The routes of a peer

A path manager starts with the address of a relay and only ever gains direct addresses.  Its routes
are the addresses of its paths with whether they are a relay's, and every operation of the plane
either leaves the routes of a record as they are or adds an address to them that is not there yet.

* `learn` — adding a direct address; `routes_addOrUpdatePath`, `routes_recordSuccess` and
  `routes_recordFailure` say that this is all that happens to routes.
* `Anchored` — the first route is the relay, and it is the only relay.
* `Hears` — a plane whose record `r` has learned some addresses, with the stages of receiving.
* **`handleIncomingFrame_hears`** — a frame that is accepted teaches the address it came from.
* `Renews` — a plane with new records, all with one relay, and the routes of the others kept.
* **`Routed.entry`** — where the routes of an entry come from after a step of either kind.
-/

namespace R2N

/-- The addresses a peer can be reached at, each with whether it is a relay's. -/
abbrev Routes := List (SocketAddr × Bool)

namespace Routes

/-- A direct address, unless it is known. -/
def learn (routes : Routes) (addr : SocketAddr) : Routes :=
  if addr ∈ routes.map Prod.fst then routes else routes ++ [(addr, false)]

/-- Several addresses, in order. -/
def learnAll (routes : Routes) (addrs : List SocketAddr) : Routes := addrs.foldl learn routes

lemma mem_learn {routes : Routes} {addr : SocketAddr} {x : SocketAddr × Bool} :
    x ∈ routes.learn addr ↔ x ∈ routes ∨ (addr ∉ routes.map Prod.fst ∧ x = (addr, false)) := by
  unfold learn
  split_ifs with h
  · simp [h]
  · rw [List.mem_append, List.mem_singleton]
    simp only [h, not_false_eq_true, true_and]

lemma addr_mem_learn (routes : Routes) (addr : SocketAddr) :
    addr ∈ (routes.learn addr).map Prod.fst := by
  unfold learn
  split_ifs with h
  · exact h
  · simp

lemma learn_self_of_mem {routes : Routes} {addr : SocketAddr}
    (h : addr ∈ routes.map Prod.fst) : routes.learn addr = routes :=
  if_pos h

lemma learnAll_append (routes : Routes) (addrs addrs' : List SocketAddr) :
    routes.learnAll (addrs ++ addrs') = (routes.learnAll addrs).learnAll addrs' :=
  List.foldl_append

/-- Learning an address twice. -/
lemma learnAll_twice (routes : Routes) (addr : SocketAddr) :
    routes.learnAll [addr, addr] = routes.learnAll [addr] :=
  learn_self_of_mem (routes.addr_mem_learn addr)

lemma subset_learnAll {routes : Routes} {x : SocketAddr × Bool} (hx : x ∈ routes)
    (addrs : List SocketAddr) : x ∈ routes.learnAll addrs := by
  induction addrs generalizing routes with
  | nil => exact hx
  | cons addr addrs ih => exact ih (mem_learn.mpr (.inl hx))

/-- Every address that was heard of is known afterwards. -/
lemma addr_mem_learnAll (routes : Routes) {addrs : List SocketAddr} {addr : SocketAddr}
    (h : addr ∈ addrs) : addr ∈ (routes.learnAll addrs).map Prod.fst := by
  induction addrs generalizing routes with
  | nil => cases h
  | cons first addrs ih =>
      rcases List.mem_cons.mp h with rfl | h
      · obtain ⟨x, hx, rfl⟩ := List.mem_map.mp (routes.addr_mem_learn addr)
        exact List.mem_map.mpr ⟨x, subset_learnAll hx addrs, rfl⟩
      · exact ih _ h

/-- A route there was not before is direct, and its address is one that was heard of. -/
lemma mem_of_mem_learnAll {routes : Routes} {addrs : List SocketAddr} {x : SocketAddr × Bool}
    (h : x ∈ routes.learnAll addrs) :
    x ∈ routes ∨ (x.1 ∈ addrs ∧ x.1 ∉ routes.map Prod.fst ∧ x.2 = false) := by
  induction addrs generalizing routes with
  | nil => exact .inl h
  | cons addr addrs ih =>
      rcases ih h with h | ⟨haddrs, hnew, hdirect⟩
      · rcases mem_learn.mp h with h | ⟨hnew, rfl⟩
        · exact .inl h
        · exact .inr ⟨List.mem_cons_self, hnew, rfl⟩
      · refine .inr ⟨List.mem_cons_of_mem _ haddrs, fun hold => hnew ?_, hdirect⟩
        obtain ⟨y, hy, hxy⟩ := List.mem_map.mp hold
        exact List.mem_map.mpr ⟨y, mem_learn.mpr (.inl hy), hxy⟩

/-- The first route is the relay, and no other address is a relay's. -/
structure Anchored (relay : SocketAddr) (routes : Routes) : Prop where
  head : routes.head? = some (relay, true)
  only : ∀ x ∈ routes, x.2 = true → x.1 = relay

lemma anchored_singleton (relay : SocketAddr) : Anchored relay [(relay, true)] :=
  ⟨rfl, by simp⟩

lemma Anchored.mem {relay : SocketAddr} {routes : Routes} (h : Anchored relay routes) :
    (relay, true) ∈ routes :=
  List.mem_of_head? h.head

lemma Anchored.learnAll {relay : SocketAddr} {routes : Routes} (h : Anchored relay routes)
    (addrs : List SocketAddr) : Anchored relay (routes.learnAll addrs) := by
  constructor
  · induction addrs generalizing routes with
    | nil => exact h.head
    | cons addr addrs ih =>
        refine ih ⟨?_, fun x hx hrelay => ?_⟩
        · unfold learn
          split_ifs
          · exact h.head
          · rw [List.head?_append, h.head]
            rfl
        · rcases mem_learn.mp hx with hx | ⟨-, rfl⟩
          · exact h.only x hx hrelay
          · cases hrelay
  · intro x hx hrelay
    rcases mem_of_mem_learnAll hx with hx | ⟨-, -, hdirect⟩
    · exact h.only x hx hrelay
    · exact absurd (hdirect.symm.trans hrelay) nofun

/-- No address among `addrs` is on record as a direct one. -/
def NoneDirect (addrs : List SocketAddr) (routes : Routes) : Prop :=
  ∀ x ∈ routes, x.1 ∈ addrs → x.2 = true

/-- **Hearing of addresses** keeps it that way exactly if each of them is not among `addrs`, or is
the relay's. -/
lemma Anchored.noneDirect_learnAll_iff {relay : SocketAddr} {routes : Routes}
    (h : Anchored relay routes) {addrs : List SocketAddr} (hnone : NoneDirect addrs routes)
    (heard : List SocketAddr) :
    NoneDirect addrs (routes.learnAll heard) ↔ ∀ addr ∈ heard, addr ∈ addrs → addr = relay := by
  constructor
  · intro hafter addr hheard haddr
    obtain ⟨x, hx, rfl⟩ := List.mem_map.mp (addr_mem_learnAll routes hheard)
    exact (h.learnAll heard).only x hx (hafter x hx haddr)
  · intro hheard x hx haddr
    rcases mem_of_mem_learnAll hx with hx | ⟨hmem, hnew, -⟩
    · exact hnone x hx haddr
    · exact absurd (List.mem_map.mpr ⟨_, h.mem, (hheard x.1 hmem haddr).symm⟩) hnew

end Routes

/-! ## Path managers -/

namespace PathManager

def routes (m : PathManager) : Routes := m.paths.map fun p => (p.addr, p.isRelay)

lemma map_fst_routes (m : PathManager) : m.routes.map Prod.fst = m.paths.map PathInfo.addr := by
  rw [routes, List.map_map]
  rfl

lemma routes_addOrUpdatePath (now : Instant) (m : PathManager) (addr : SocketAddr) :
    (m.addOrUpdatePath now addr false).routes = m.routes.learn addr := by
  have hmem : (m.paths.any fun p => p.addr = addr) = true ↔ addr ∈ m.routes.map Prod.fst := by
    rw [map_fst_routes]
    simp
  unfold addOrUpdatePath Routes.learn
  split_ifs with h h' h'
  · rfl
  · exact absurd (hmem.mp h) h'
  · exact absurd (hmem.mpr h') h
  · simp [routes, PathInfo.new]

/-- Changing what is measured of a path changes no route. -/
lemma map_modifyFirst {addr : SocketAddr} {f : PathInfo → PathInfo}
    (hf : ∀ p, (f p).addr = p.addr ∧ (f p).isRelay = p.isRelay) (ps : List PathInfo) :
    (modifyFirst addr f ps).map (fun p => (p.addr, p.isRelay)) =
      ps.map fun p => (p.addr, p.isRelay) := by
  induction ps with
  | nil => rfl
  | cons p ps ih =>
      rw [modifyFirst]
      split_ifs
      · simp [hf p]
      · rw [List.map_cons, List.map_cons, ih]

lemma routes_recordSuccess (now : Instant) (m : PathManager) (addr : SocketAddr) (rttMs : ℚ) :
    (m.recordSuccess now addr rttMs).routes = m.routes := by
  refine map_modifyFirst ?_ m.paths
  exact fun _ => ⟨rfl, rfl⟩

lemma routes_recordFailure (now : Instant) (m : PathManager) (addr : SocketAddr) :
    (m.recordFailure now addr).routes = m.routes := by
  refine map_modifyFirst ?_ m.paths
  exact fun _ => ⟨rfl, rfl⟩

end PathManager

namespace DataPlane

/-- The routes of a record. -/
def routesAt (dp : DataPlane) (r : PeerRef) : Routes := (dp.heap r).pathManager.routes

lemma routesAt_setPeer_self (dp : DataPlane) (r : PeerRef) (peer : DataPeer) :
    (dp.setPeer r peer).routesAt r = peer.pathManager.routes := by
  show (Function.update dp.heap r peer r).pathManager.routes = _
  rw [Function.update_self]

lemma routesAt_setPeer_of_ne (dp : DataPlane) {r r' : PeerRef} (h : r' ≠ r) (peer : DataPeer) :
    (dp.setPeer r peer).routesAt r' = dp.routesAt r' := by
  show (Function.update dp.heap r peer r').pathManager.routes = _
  rw [Function.update_of_ne h]
  rfl

/-! ## Hearing of an address -/

/-- Record `r` has learned the addresses, and the table and all other routes are as they were. -/
structure Hears (r : PeerRef) (addrs : List SocketAddr) (dp dp' : DataPlane) : Prop where
  self : dp'.routesAt r = (dp.routesAt r).learnAll addrs
  other : ∀ r' ≠ r, dp'.routesAt r' = dp.routesAt r'
  peers : dp'.peers = dp.peers
  nextRef : dp'.nextRef = dp.nextRef

lemma Hears.refl (r : PeerRef) (dp : DataPlane) : Hears r [] dp dp :=
  ⟨rfl, fun _ _ => rfl, rfl, rfl⟩

/-- Where nothing is learned it does not matter by whom. -/
lemma Hears.of_nil {r : PeerRef} {dp dp' : DataPlane} (h : Hears r [] dp dp') (r' : PeerRef) :
    Hears r' [] dp dp' := by
  have hall : ∀ r'', dp'.routesAt r'' = dp.routesAt r'' := by
    intro r''
    by_cases hr : r'' = r
    · rw [hr]
      exact h.self
    · exact h.other r'' hr
  exact ⟨hall r', fun r'' _ => hall r'', h.peers, h.nextRef⟩

lemma Hears.trans {r : PeerRef} {addrs addrs' : List SocketAddr} {dp dp' dp'' : DataPlane}
    (h : Hears r addrs dp dp') (h' : Hears r addrs' dp' dp'') :
    Hears r (addrs ++ addrs') dp dp'' where
  self := by rw [h'.self, h.self, Routes.learnAll_append]
  other := fun r' hne => (h'.other r' hne).trans (h.other r' hne)
  peers := h'.peers.trans h.peers
  nextRef := h'.nextRef.trans h.nextRef

/-- Writing a record whose routes are those there were and the addresses. -/
lemma hears_setPeer {dp : DataPlane} {r : PeerRef} {peer : DataPeer} {addrs : List SocketAddr}
    (h : peer.pathManager.routes = (dp.routesAt r).learnAll addrs) :
    Hears r addrs dp (dp.setPeer r peer) where
  self := by rw [routesAt_setPeer_self, h]
  other := fun r' hne => dp.routesAt_setPeer_of_ne hne peer
  peers := rfl
  nextRef := rfl

/-- A plane that differs in neither table nor heap. -/
lemma hears_of_heap_eq {dp dp' : DataPlane} (r : PeerRef) (hheap : dp'.heap = dp.heap)
    (hpeers : dp'.peers = dp.peers) (href : dp'.nextRef = dp.nextRef) : Hears r [] dp dp' :=
  ⟨by rw [routesAt, hheap]; rfl, fun r' _ => by rw [routesAt, hheap]; rfl, hpeers, href⟩

lemma addPeerCandidate_hears {dp : DataPlane} {id : NodeId} {r : PeerRef}
    (hr : dp.peers.lookup id = some r) (now : Instant) (addr : SocketAddr) :
    Hears r [addr] dp (dp.addPeerCandidate now id addr) := by
  unfold addPeerCandidate
  rw [hr]
  exact hears_setPeer (PathManager.routes_addOrUpdatePath now _ addr)

lemma setDirectPath_hears {dp : DataPlane} {id : NodeId} {r : PeerRef}
    (hr : dp.peers.lookup id = some r) (now : Instant) (addr : SocketAddr)
    (cipher : Option Cipher) : Hears r [addr] dp (dp.setDirectPath now id addr cipher) := by
  unfold setDirectPath
  rw [hr]
  refine hears_setPeer ?_
  rw [PathManager.routes_recordSuccess]
  exact PathManager.routes_addOrUpdatePath now _ addr

lemma learnPath_hears (dp : DataPlane) (now : Instant) (r : PeerRef) (addr : SocketAddr) :
    Hears r [addr] dp (dp.learnPath now r addr) := by
  unfold learnPath
  simp only
  split_ifs with hknown
  · refine ⟨(Routes.learn_self_of_mem ?_).symm, fun _ _ => rfl, rfl, rfl⟩
    rw [routesAt, PathManager.map_fst_routes]
    simpa using hknown
  · exact hears_setPeer (PathManager.routes_addOrUpdatePath now _ addr)

lemma recordPong_hears (dp : DataPlane) (r : PeerRef) (packet : Bytes) (io : IncomingIo) :
    Hears r [] dp (dp.recordPong r packet io) := by
  unfold recordPong
  split
  · split_ifs
    · exact hears_setPeer (PathManager.routes_recordSuccess io.now _ _ _)
    · exact .refl r dp
  · exact .refl r dp

/-- A packet teaches the address it came from, or nothing if this is the relay's. -/
lemma learnFromPacket_hears {dp : DataPlane} {r : PeerRef} {h : DataHeader}
    (hr : dp.peers.lookup h.srcNode = some r) (packet : Bytes) (addr : SocketAddr)
    (now : Instant) :
    ∃ addrs, (addrs = [] ∨ addrs = [addr]) ∧
      Hears r addrs dp (dp.learnFromPacket r h packet addr now) := by
  obtain ⟨dp', hdp', addrs, haddrs, hpath⟩ : ∃ dp', (if (dp.heap r).pathManager.isRelayAddr addr
      then dp else dp.setDirectPath now h.srcNode addr none) = dp' ∧
      ∃ addrs, (addrs = [] ∨ addrs = [addr]) ∧ Hears r addrs dp dp' := by
    refine ⟨_, rfl, ?_⟩
    split_ifs
    · exact ⟨[], .inl rfl, .refl r dp⟩
    · exact ⟨[addr], .inr rfl, setDirectPath_hears hr now addr none⟩
  refine ⟨addrs, haddrs, ?_⟩
  unfold learnFromPacket
  simp only [hdp']
  split
  next srcMac _ _ =>
    obtain ⟨macTable, hmac⟩ := dp'.learnMac_plane now srcMac h.srcNode
    rw [hmac, ← List.append_nil addrs]
    exact hpath.trans (hears_of_heap_eq r rfl rfl rfl)
  next => exact hpath

lemma openPayload_hears (A : Aead) (dp : DataPlane) (r : PeerRef) (h : DataHeader)
    (payload : Bytes) : Hears r [] dp (dp.openPayload A r h payload).2 := by
  unfold openPayload
  split
  · exact .refl r dp
  · exact hears_setPeer rfl

lemma sendToPeer_hears (A : Aead) (E : Etherparse) (dp : DataPlane) (r : PeerRef)
    (t : DataPacketType) (payload : Bytes) (target : Option SocketAddr) (flood : Bool)
    (net : NetAnswer) : Hears r [] dp (dp.sendToPeer A E r t payload target flood net).plane := by
  rcases dp.sendToPeer_effect A E r t payload target flood net with
    ⟨-, hplane, -⟩ | ⟨-, hheap, -, hpeers, href, -⟩
  · rw [hplane]
    exact .refl r dp
  · refine ⟨?_, fun r' hne => ?_, hpeers, href⟩
    · rw [routesAt, hheap, Function.update_self]
      rfl
    · rw [routesAt, hheap, Function.update_of_ne hne]
      rfl

/-- From the packet on, nothing is learned but the address once more. -/
lemma handlePacket_hears (A : Aead) (E : Etherparse) (macos : Bool) {dp : DataPlane} {r : PeerRef}
    {h : DataHeader} (hr : dp.peers.lookup h.srcNode = some r) (packet : Bytes) (addr : SocketAddr)
    (io : IncomingIo) :
    ∃ addrs, (addrs = [] ∨ addrs = [addr]) ∧
      Hears r addrs dp (dp.handlePacket A E macos r h packet addr io).plane := by
  unfold handlePacket
  split
  · exact ⟨[], .inl rfl, dp.sendToPeer_hears A E r .pong packet (some addr) false io.pongSend⟩
  split
  · exact ⟨[], .inl rfl, dp.recordPong_hears r packet io⟩
  obtain ⟨addrs, haddrs, hlearn⟩ := learnFromPacket_hears hr packet addr io.now
  refine ⟨addrs, haddrs, ?_⟩
  simp only
  split
  · exact hlearn
  split
  · exact hlearn
  · exact hlearn

/-- **A frame that is accepted** teaches its sender's record the address it came from; any other
frame teaches nothing. -/
theorem handleIncomingFrame_hears (A : Aead) (E : Etherparse) (macos : Bool) (dp : DataPlane)
    (h : DataHeader) (payload : Bytes) (addr : SocketAddr) (io : IncomingIo) :
    let out := dp.handleIncomingFrame A E macos h payload addr io
    ((dp.acceptedPacket A io.now h payload).isSome = false ∧ ∀ r, Hears r [] dp out.plane) ∨
    ((dp.acceptedPacket A io.now h payload).isSome = true ∧
      ∃ r, dp.peers.lookup h.srcNode = some r ∧ Hears r [addr] dp out.plane) := by
  intro out
  have hpacket := dp.handleIncomingFrame_packet A E macos h payload addr io
  obtain ⟨seenFlood, hseen⟩ := dp.validateIncomingHeader_plane io.now h
  rw [← hpacket]
  simp only [out]
  unfold handleIncomingFrame
  generalize dp.validateIncomingHeader io.now h = val at hseen ⊢
  obtain ⟨valid, dp₁⟩ := val
  have hval : ∀ r, Hears r [] dp dp₁ := by
    obtain rfl : dp₁ = { dp with seenFlood } := hseen
    exact fun r => hears_of_heap_eq r rfl rfl rfl
  cases valid with
  | false => exact .inl ⟨rfl, hval⟩
  | true =>
      simp only
      cases hr : dp₁.peers.lookup h.srcNode with
      | none => exact .inl ⟨rfl, hval⟩
      | some r =>
          have hopen := (hval r).trans (openPayload_hears A dp₁ r h payload)
          simp only
          generalize dp₁.openPayload A r h payload = opened at hopen ⊢
          obtain ⟨result, dp₂⟩ := opened
          cases result with
          | error e => exact .inl ⟨rfl, hopen.of_nil⟩
          | ok packet =>
              have hlearn := hopen.trans (dp₂.learnPath_hears io.now r addr)
              have hr' : dp.peers.lookup h.srcNode = some r := by rw [← (hval r).peers, hr]
              obtain ⟨addrs, haddrs, hhandle⟩ := handlePacket_hears A E macos
                (by rw [hlearn.peers]; exact hr') packet addr io
              refine .inr ⟨by rw [handlePacket_packet]; rfl, r, hr', ?_⟩
              have hall := hlearn.trans hhandle
              rcases haddrs with rfl | rfl
              · exact hall
              · exact ⟨hall.self.trans (Routes.learnAll_twice _ _), hall.other, hall.peers,
                  hall.nextRef⟩

/-! ## New records -/

/-- Old records keep their routes, new ones have only the relay, and an entry for an old record is
one there was. -/
structure Renews (relay : SocketAddr) (dp dp' : DataPlane) : Prop where
  nextRef_le : dp.nextRef ≤ dp'.nextRef
  old : ∀ r < dp.nextRef, dp'.routesAt r = dp.routesAt r
  new : ∀ r, dp.nextRef ≤ r → r < dp'.nextRef → dp'.routesAt r = [(relay, true)]
  kept : ∀ id r, dp'.peers.lookup id = some r → r < dp.nextRef → dp.peers.lookup id = some r

lemma Renews.trans {relay : SocketAddr} {dp dp' dp'' : DataPlane} (h : Renews relay dp dp')
    (h' : Renews relay dp' dp'') : Renews relay dp dp'' where
  nextRef_le := h.nextRef_le.trans h'.nextRef_le
  old := fun r hr => (h'.old r (hr.trans_le h.nextRef_le)).trans (h.old r hr)
  new := by
    intro r hnew hlt
    rcases Nat.lt_or_ge r dp'.nextRef with hr | hr
    · exact (h'.old r hr).trans (h.new r hnew hr)
    · exact h'.new r hr hlt
  kept := fun id r hlook hr => h.kept id r (h'.kept id r hlook (hr.trans_le h.nextRef_le)) hr

/-- No record is new, and no entry. -/
lemma renews_of_heap_eq {dp dp' : DataPlane} (relay : SocketAddr) (hheap : dp'.heap = dp.heap)
    (href : dp'.nextRef = dp.nextRef)
    (hpeers : ∀ id r, dp'.peers.lookup id = some r → dp.peers.lookup id = some r) :
    Renews relay dp dp' :=
  ⟨href.ge, fun r _ => by rw [routesAt, hheap]; rfl,
    fun r hnew hlt => absurd (hnew.trans_lt hlt) (by rw [href]; exact lt_irrefl _),
    fun id r hlook _ => hpeers id r hlook⟩

lemma Renews.refl (relay : SocketAddr) (dp : DataPlane) : Renews relay dp dp :=
  renews_of_heap_eq relay rfl rfl fun _ _ h => h

lemma upsertPeer_renews (dp : DataPlane) (now : Instant) (info : PeerInfo) (relay : SocketAddr) :
    Renews relay dp (dp.upsertPeer (.fresh now info relay)) := by
  unfold upsertPeer
  split
  next r _ =>
    have hsame : Hears r [] dp (dp.setPeer r { dp.heap r with info := info }) := hears_setPeer rfl
    refine ⟨le_rfl, fun r' _ => (hsame.of_nil r').self, fun r' hnew hlt => ?_, fun _ _ h _ => h⟩
    exact absurd (hnew.trans_lt hlt) (lt_irrefl _)
  next =>
    refine ⟨Nat.le_succ _, fun r hr => ?_, fun r hnew hlt => ?_, fun id r hlook hr => ?_⟩
    · exact dp.routesAt_setPeer_of_ne (Nat.ne_of_lt hr) _
    · obtain rfl : r = dp.nextRef := Nat.le_antisymm (Nat.lt_succ_iff.mp hlt) hnew
      exact dp.routesAt_setPeer_self dp.nextRef _
    · rw [KeyMap.lookup_insert_eq] at hlook
      split_ifs at hlook
      · exact absurd hr (by rw [Option.some.inj hlook]; exact lt_irrefl _)
      · exact hlook

/-- A peer that is there keeps its record. -/
lemma upsertPeer_lookup {dp : DataPlane} {id : NodeId} {r : PeerRef}
    (h : dp.peers.lookup id = some r) (peer : DataPeer) :
    (dp.upsertPeer peer).peers.lookup id = some r := by
  unfold upsertPeer
  split
  · exact h
  next hnone =>
    rw [KeyMap.lookup_insert_eq, if_neg]
    · exact h
    · rintro rfl
      exact absurd (hnone.symm.trans h) nofun

lemma removePeer_renews (dp : DataPlane) (relay : SocketAddr) (id : NodeId) :
    Renews relay dp (dp.removePeer id) := by
  refine renews_of_heap_eq relay rfl rfl fun id' r hlook => ?_
  rw [removePeer, KeyMap.lookup_erase_eq] at hlook
  split_ifs at hlook
  exact hlook

/-! ## What a step does to the routes -/

/-- The ping loop, once a ping to a peer at an address has timed out. -/
def pingTimedOut (dp : DataPlane) (now : Instant) (nodeId : NodeId) (addr : SocketAddr) :
    DataPlane :=
  match dp.peers.lookup nodeId with
  | none => dp
  | some r =>
      let peer := dp.heap r
      dp.setPeer r { peer with pathManager := peer.pathManager.recordFailure now addr }

lemma pingTimedOut_hears (dp : DataPlane) (now : Instant) (nodeId : NodeId) (addr : SocketAddr)
    (r : PeerRef) : Hears r [] dp (dp.pingTimedOut now nodeId addr) := by
  unfold pingTimedOut
  split
  · exact .refl r dp
  next r' _ =>
    have h : Hears r' [] dp (dp.setPeer r' { dp.heap r' with
        pathManager := (dp.heap r').pathManager.recordFailure now addr }) :=
      hears_setPeer (PathManager.routes_recordFailure now _ addr)
    exact h.of_nil r

lemma pingTimedOut_keeps (dp : DataPlane) (now : Instant) (nodeId : NodeId) (addr : SocketAddr) :
    Keeps dp (dp.pingTimedOut now nodeId addr) := by
  unfold pingTimedOut
  split
  · exact .refl dp
  · exact keeps_setPeer ⟨rfl, rfl, rfl⟩

/-- A plane in which nothing is learned has no new record either. -/
lemma Hears.renews {r : PeerRef} {dp dp' : DataPlane} (h : Hears r [] dp dp')
    (relay : SocketAddr) : Renews relay dp dp' :=
  ⟨h.nextRef.ge, fun r' _ => (h.of_nil r').self,
    fun r' hnew hlt => absurd (hnew.trans_lt hlt) (by rw [h.nextRef]; exact lt_irrefl _),
    fun id r' hlook _ => by rwa [h.peers] at hlook⟩

/-- The record of a node, if it has one, has learned the addresses. -/
def Taught (id : NodeId) (addrs : List SocketAddr) (dp dp' : DataPlane) : Prop :=
  match dp.peers.lookup id with
  | none => dp' = dp
  | some r => Hears r addrs dp dp'

/-- What a step does to the routes, given which peer is heard of at which addresses. -/
def Routed (heard : Option (NodeId × List SocketAddr)) (relay : SocketAddr)
    (dp dp' : DataPlane) : Prop :=
  match heard with
  | none => Renews relay dp dp'
  | some (id, addrs) => Taught id addrs dp dp'

/-- The addresses at which a node is heard of. -/
def addrsOf (heard : Option (NodeId × List SocketAddr)) (id : NodeId) : List SocketAddr :=
  match heard with
  | none => []
  | some (id', addrs) => if id' = id then addrs else []

/-- **An entry after a step** is one there was, whose record has learned what is heard of the node,
or it has a new record, whose only route is the relay. -/
lemma Routed.entry {heard : Option (NodeId × List SocketAddr)} {relay : SocketAddr}
    {dp dp' : DataPlane} (h : Routed heard relay dp dp') (hw : dp.WellFormed)
    (hw' : dp'.WellFormed) {id : NodeId} {r : PeerRef} (hr : dp'.peers.lookup id = some r) :
    (r < dp.nextRef ∧ dp.peers.lookup id = some r ∧
      dp'.routesAt r = (dp.routesAt r).learnAll (addrsOf heard id)) ∨
    (dp.nextRef ≤ r ∧ dp'.routesAt r = [(relay, true)]) := by
  cases heard with
  | none =>
      have h : Renews relay dp dp' := h
      rcases Nat.lt_or_ge r dp.nextRef with hold | hnew
      · exact .inl ⟨hold, h.kept id r hr hold, h.old r hold⟩
      · exact .inr ⟨hnew, h.new r hnew (hw'.ref_lt id r hr)⟩
  | some contact =>
      obtain ⟨id', addrs⟩ := contact
      have h : Taught id' addrs dp dp' := h
      left
      unfold Taught at h
      split at h
      next hnone =>
        subst h
        have hne : id' ≠ id := by
          rintro rfl
          exact absurd (hnone.symm.trans hr) nofun
        exact ⟨hw.ref_lt id r hr, hr, by rw [addrsOf, if_neg hne]; rfl⟩
      next r' hr' =>
        rw [h.peers] at hr
        refine ⟨hw.ref_lt id r hr, hr, ?_⟩
        by_cases hid : id' = id
        · subst hid
          obtain rfl : r' = r := Option.some.inj (hr'.symm.trans hr)
          rw [addrsOf, if_pos rfl]
          exact h.self
        · rw [addrsOf, if_neg hid]
          refine h.other r ?_
          rintro rfl
          exact hid ((hw.nodeId id' r hr').symm.trans (hw.nodeId id r hr))

/-- A node that is heard of keeps its record. -/
lemma Routed.record {id : NodeId} {addrs : List SocketAddr} {relay : SocketAddr}
    {dp dp' : DataPlane} (h : Routed (some (id, addrs)) relay dp dp') {r : PeerRef}
    (hr : dp.peers.lookup id = some r) :
    dp'.peers.lookup id = some r ∧ dp'.routesAt r = (dp.routesAt r).learnAll addrs := by
  have h : Taught id addrs dp dp' := h
  rw [Taught, hr] at h
  exact ⟨by rw [h.peers, hr], h.self⟩

lemma setDirectPath_taught (dp : DataPlane) (now : Instant) (id : NodeId) (addr : SocketAddr)
    (cipher : Option Cipher) : Taught id [addr] dp (dp.setDirectPath now id addr cipher) := by
  unfold Taught
  split
  next hnone => rw [setDirectPath, hnone]
  next r hr => exact setDirectPath_hears hr now addr cipher

lemma foldl_addPeerCandidate_taught (dp : DataPlane) (now : Instant) (id : NodeId)
    (candidates : List Candidate) :
    Taught id (candidates.map Candidate.addr) dp
      (candidates.foldl (fun dp candidate => dp.addPeerCandidate now id candidate.addr) dp) := by
  unfold Taught
  split
  next hnone =>
    induction candidates with
    | nil => rfl
    | cons c candidates ih => rwa [List.foldl_cons, addPeerCandidate, hnone]
  next r hr =>
    induction candidates generalizing dp with
    | nil => exact .refl r dp
    | cons c candidates ih =>
        have hfirst := addPeerCandidate_hears hr now c.addr
        exact hfirst.trans (ih _ (by rw [hfirst.peers]; exact hr))

end DataPlane

end R2N
