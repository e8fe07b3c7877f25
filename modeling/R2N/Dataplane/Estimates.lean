import R2N.Dataplane.PathChoice
import R2N.Dataplane.Probing

/-!
# What the estimates of a path can be

Every path of every peer has a smoothed round trip time, jitter and loss, which pongs, timeouts and
incoming packets change.  The choice of the active path compares their scores with `f32::MAX`, so
it is right only if no score can get there.

* `PathRule` — what the calls on a path manager make of it, if a step adds addresses first and then
  records at most one result.
* `Managers` — a plane all of whose records have such a manager, with the operations of the plane
  and of the edge, up to **`managers_step`** and **`managers_run`**: one step, and a run, of an edge
  and its ping loop.
* `InRange` — the estimates of a path, and **`inRange_rule`**.
* **`paths_in_range`** — in every run the paths of a peer have distinct addresses, rates of loss
  between 0 and 1, and times below `2 ^ 32` milliseconds.
* `Grown`, `Recorded` — the two things that a step does to a manager.
* **`choice_is_best`** — whatever a step of a run records, the choice that goes with it takes the
  first of the fresh paths with the least score whenever there is a fresh path.
-/

namespace R2N

open Run

/-! ## Rules for path managers -/

/-- A round trip time as `record_success` gets it: `u32` milliseconds. -/
def RttMs (rtt : ℚ) : Prop := 0 ≤ rtt ∧ rtt < 2 ^ 32

/-- What a step makes of the manager at `r`.  Addresses are added to it while `G` holds of it; the
result of a ping is recorded last, and then `Q` holds of it. -/
structure PathRule (G Q : PeerRef → PathManager → Prop) : Prop where
  new : ∀ r now relay, G r (.new now relay)
  add : ∀ r m now addr isRelay, G r m → G r (m.addOrUpdatePath now addr isRelay)
  success : ∀ r m now addr rtt, RttMs rtt → G r m → Q r (m.recordSuccess now addr rtt)
  failure : ∀ r m now addr, G r m → Q r (m.recordFailure now addr)
  weaken : ∀ r m, G r m → Q r m

namespace DataPlane

variable {G Q : PeerRef → PathManager → Prop} {dp : DataPlane}

/-- `Q` holds of the manager of every record. -/
def Managers (Q : PeerRef → PathManager → Prop) (dp : DataPlane) : Prop :=
  ∀ r, Q r (dp.heap r).pathManager

lemma Managers.weaken (hR : PathRule G Q) (h : dp.Managers G) : dp.Managers Q :=
  fun r => hR.weaken r _ (h r)

lemma Managers.setPeer (h : dp.Managers Q) {peer : DataPeer} {r : PeerRef}
    (hpeer : Q r peer.pathManager) : (dp.setPeer r peer).Managers Q := by
  intro r'
  by_cases hr : r' = r
  · subst hr
    simpa [DataPlane.setPeer] using hpeer
  · simpa [DataPlane.setPeer, hr] using h r'

/-- A record whose manager stays as it is. -/
lemma Managers.setPeer_of_eq (h : dp.Managers Q) {peer : DataPeer} {r : PeerRef}
    (hpeer : peer.pathManager = (dp.heap r).pathManager) : (dp.setPeer r peer).Managers Q :=
  h.setPeer (by rw [hpeer]; exact h r)

lemma Managers.upsertPeer (hR : PathRule G Q) (h : dp.Managers G) (now : Instant)
    (info : PeerInfo) (relay : SocketAddr) :
    (dp.upsertPeer (.fresh now info relay)).Managers G := by
  unfold DataPlane.upsertPeer
  split
  · exact h.setPeer_of_eq rfl
  · have hnew : (dp.setPeer dp.nextRef (.fresh now info relay)).Managers G :=
      h.setPeer (hR.new _ now relay)
    exact hnew

lemma Managers.setDirectPath (hR : PathRule G Q) (h : dp.Managers G) (now : Instant)
    (id : NodeId) (addr : SocketAddr) (cipher : Option Cipher) :
    (dp.setDirectPath now id addr cipher).Managers Q := by
  unfold DataPlane.setDirectPath
  split
  · exact h.weaken hR
  · next r _ =>
    have hten : RttMs 10 := by constructor <;> norm_num
    have hadd := hR.add r _ now addr false (h r)
    exact (h.weaken hR).setPeer (hR.success r _ now addr 10 hten hadd)

lemma Managers.addPeerCandidate (hR : PathRule G Q) (h : dp.Managers G) (now : Instant)
    (id : NodeId) (addr : SocketAddr) : (dp.addPeerCandidate now id addr).Managers G := by
  unfold DataPlane.addPeerCandidate
  split
  · exact h
  · next r _ => exact h.setPeer (hR.add r _ now addr false (h r))

lemma Managers.pingTimedOut (hR : PathRule G Q) (h : dp.Managers G) (now : Instant)
    (id : NodeId) (addr : SocketAddr) : (dp.pingTimedOut now id addr).Managers Q := by
  unfold DataPlane.pingTimedOut
  split
  · exact h.weaken hR
  · next r _ => exact (h.weaken hR).setPeer (hR.failure r _ now addr (h r))

lemma Managers.sendToPeer (h : dp.Managers Q) (A : Aead) (E : Etherparse) (r : PeerRef)
    (t : DataPacketType) (payload : Bytes) (target : Option SocketAddr) (flood : Bool)
    (net : NetAnswer) : (dp.sendToPeer A E r t payload target flood net).plane.Managers Q := by
  rcases dp.sendToPeer_effect A E r t payload target flood net with
    ⟨-, hplane, -⟩ | ⟨-, hheap, -⟩
  · rwa [hplane]
  · have hset : (dp.setPeer r { dp.heap r with
        nextNonce := (dp.heap r).nextNonce + 1 }).Managers Q := h.setPeer_of_eq rfl
    intro r'
    rw [hheap]
    exact hset r'

/-! ## Receiving -/

lemma Managers.openPayload (h : dp.Managers Q) (A : Aead) (r : PeerRef) (header : DataHeader)
    (payload : Bytes) : (dp.openPayload A r header payload).2.Managers Q := by
  unfold DataPlane.openPayload
  split
  · exact h
  · exact Managers.setPeer_of_eq h rfl

lemma Managers.learnPath (hR : PathRule G Q) (h : dp.Managers G) (now : Instant) (r : PeerRef)
    (addr : SocketAddr) : (dp.learnPath now r addr).Managers G := by
  unfold DataPlane.learnPath
  simp only
  split_ifs
  · exact h
  · exact h.setPeer (hR.add r _ now addr false (h r))

lemma Managers.recordPong (hR : PathRule G Q) (h : dp.Managers G) (r : PeerRef)
    (packet : Bytes) {io : IncomingIo} (hio : ∀ x ∈ io.pongReceived, RttMs x.2) :
    (dp.recordPong r packet io).Managers Q := by
  unfold DataPlane.recordPong
  split
  · next pingAddr rtt hpong =>
    split_ifs
    · exact (h.weaken hR).setPeer (hR.success r _ io.now pingAddr rtt (hio _ hpong) (h r))
    · exact h.weaken hR
  · exact h.weaken hR

lemma Managers.learnFromPacket (hR : PathRule G Q) (h : dp.Managers G) (r : PeerRef)
    (header : DataHeader) (packet : Bytes) (addr : SocketAddr) (now : Instant) :
    (dp.learnFromPacket r header packet addr now).Managers Q := by
  have hpath : (if (dp.heap r).pathManager.isRelayAddr addr then dp
      else dp.setDirectPath now header.srcNode addr none).Managers Q := by
    split_ifs
    · exact h.weaken hR
    · exact h.setDirectPath hR now header.srcNode addr none
  unfold DataPlane.learnFromPacket
  generalize (if (dp.heap r).pathManager.isRelayAddr addr then dp
      else dp.setDirectPath now header.srcNode addr none) = dp' at hpath ⊢
  simp only
  split
  · next _ srcMac _ _ =>
    obtain ⟨macTable, hmac⟩ := dp'.learnMac_plane now srcMac header.srcNode
    rw [hmac]
    exact hpath
  · exact hpath

lemma Managers.handlePacket (hR : PathRule G Q) (h : dp.Managers G) (A : Aead) (E : Etherparse)
    (macos : Bool) (r : PeerRef) (header : DataHeader) (packet : Bytes) (addr : SocketAddr)
    {io : IncomingIo} (hio : ∀ x ∈ io.pongReceived, RttMs x.2) :
    (dp.handlePacket A E macos r header packet addr io).plane.Managers Q := by
  have hlearn := h.learnFromPacket hR r header packet addr io.now
  unfold DataPlane.handlePacket
  simp only
  split
  · exact (h.weaken hR).sendToPeer A E r .pong packet (some addr) false io.pongSend
  split
  · exact h.recordPong hR r packet hio
  split
  · exact hlearn
  split
  · exact hlearn
  · exact hlearn

lemma Managers.handleIncomingFrame (hR : PathRule G Q) (h : dp.Managers G) (A : Aead)
    (E : Etherparse) (macos : Bool) (header : DataHeader) (payload : Bytes) (addr : SocketAddr)
    {io : IncomingIo} (hio : ∀ x ∈ io.pongReceived, RttMs x.2) :
    (dp.handleIncomingFrame A E macos header payload addr io).plane.Managers Q := by
  obtain ⟨seenFlood, hseen⟩ := dp.validateIncomingHeader_plane io.now header
  have hval : (dp.validateIncomingHeader io.now header).2.Managers G := by rwa [hseen]
  unfold DataPlane.handleIncomingFrame
  generalize dp.validateIncomingHeader io.now header = val at hval ⊢
  obtain ⟨valid, dp₁⟩ := val
  cases valid with
  | false => exact Managers.weaken hR hval
  | true =>
      simp only
      cases dp₁.peers.lookup header.srcNode with
      | none => exact Managers.weaken hR hval
      | some r =>
          have hopen := Managers.openPayload hval A r header payload
          simp only
          generalize dp₁.openPayload A r header payload = opened at hopen ⊢
          obtain ⟨result, dp₂⟩ := opened
          cases result with
          | error e => exact Managers.weaken hR hopen
          | ok packet =>
              exact Managers.handlePacket hR (Managers.learnPath hR hopen io.now r addr) A E macos r
                header packet addr hio

end DataPlane

namespace Edge

variable {G Q : PeerRef → PathManager → Prop} {e : Edge}

/-! ## The edge -/

lemma managers_activateRoom (h : e.dataplane.Managers Q) (room : RoomId) (io : EdgeIo) :
    (e.activateRoom room io).2.dataplane.Managers Q := by
  unfold activateRoom
  simp only
  split
  · exact h
  split
  · exact h
  split
  · exact h
  split
  · split <;> exact h
  · exact h

lemma managers_foldl_addPeer (hR : PathRule G Q) (now : Instant) (peers : List PeerInfo)
    (h : e.dataplane.Managers G) :
    (peers.foldl (fun e peer => e.addPeer now peer) e).dataplane.Managers G := by
  induction peers generalizing e with
  | nil => exact h
  | cons peer peers ih => exact ih (h.upsertPeer hR now peer e.supernodeAddr)

lemma managers_foldl_removePeer (ids : List NodeId) (h : e.dataplane.Managers Q) :
    (ids.foldl removePeer e).dataplane.Managers Q := by
  induction ids generalizing e with
  | nil => exact h
  | cons id ids ih => exact ih h

lemma managers_foldl_candidates (hR : PathRule G Q) (now : Instant) (target : NodeId)
    (candidates : List Candidate) {dp : DataPlane} (h : dp.Managers G) :
    (candidates.foldl (fun dp candidate => dp.addPeerCandidate now target candidate.addr)
      dp).Managers G := by
  induction candidates generalizing dp with
  | nil => exact h
  | cons candidate candidates ih => exact ih (h.addPeerCandidate hR now target candidate.addr)

lemma managers_handlePeerUpdate (hR : PathRule G Q) (h : e.dataplane.Managers G) (now : Instant)
    (peer : PeerInfo) (action : PeerAction) :
    (e.handlePeerUpdate now peer action).dataplane.Managers G := by
  unfold handlePeerUpdate
  cases action with
  | remove => exact h
  | add =>
      split_ifs
      · exact h
      · exact h.upsertPeer hR now peer e.supernodeAddr
  | update =>
      split_ifs
      · exact h
      · exact h.upsertPeer hR now peer e.supernodeAddr

lemma managers_handlePunchRequest (hR : PathRule G Q) (h : e.dataplane.Managers G) (N : Noise)
    (target : NodeId) (candidates : List Candidate) (io : EdgeIo) :
    (e.handlePunchRequest N target candidates io).edge.dataplane.Managers G := by
  have hcandidates := managers_foldl_candidates hR io.now target candidates h
  unfold handlePunchRequest
  split
  · exact h
  · simp only
    split <;> exact hcandidates

lemma managers_handleControl (hR : PathRule G Q) (h : e.dataplane.Managers G) (N : Noise)
    (frame : ControlFrame) (addr : SocketAddr) (io : EdgeIo) :
    (e.handleControl N frame addr io).edge.dataplane.Managers Q := by
  cases frame with
  | roomCreated room _ _ _ => exact managers_activateRoom (h.weaken hR) room io
  | joinAccept room _ _ _ => exact managers_activateRoom (h.weaken hR) room io
  | peerList roomPeers =>
      exact managers_foldl_removePeer _
        (DataPlane.Managers.weaken hR (managers_foldl_addPeer hR io.now _ h))
  | peerUpdate peer action =>
      exact DataPlane.Managers.weaken hR (managers_handlePeerUpdate hR h io.now peer action)
  | punchRequest target candidates =>
      exact DataPlane.Managers.weaken hR
        (managers_handlePunchRequest hR h N target candidates io)
  | handshake fromNode payload =>
      show (e.handleHandshake N fromNode payload addr io).edge.dataplane.Managers Q
      unfold handleHandshake
      split
      · exact h.weaken hR
      · simp only
        split
        · exact h.setDirectPath hR io.now fromNode addr _
        · exact h.weaken hR
  | _ => exact h.weaken hR

lemma managers_handleCommand (h : e.dataplane.Managers Q) (cmd : EdgeCommand) (sendOk : Bool) :
    (e.handleCommand cmd sendOk).edge.dataplane.Managers Q := by
  unfold handleCommand
  split
  · exact h
  · cases cmd with
    | createRoom name => simp only; split <;> exact h
    | joinRoom room token roomName supernode => simp only; split <;> exact h
    | leaveRoom => exact h

end Edge

namespace Prober

variable {G Q : PeerRef → PathManager → Prop} {P : Platform} {s : Prober}

lemma managers_heard (hR : PathRule G Q) (h : s.edge.dataplane.Managers G) (header : DataHeader)
    (payload : Bytes) (addr : SocketAddr) (io : IncomingIo)
    (found : Option (SocketAddr × UInt32)) :
    (s.heard P header payload addr io found).dataplane.Managers Q := by
  refine DataPlane.Managers.handleIncomingFrame hR h P.aead P.etherparse P.macos header payload addr
    fun x hx => ?_
  obtain ⟨y, -, rfl⟩ := Option.map_eq_some_iff.mp hx
  have hlt : (y.2.toNat : ℚ) < 2 ^ 32 := by exact_mod_cast y.2.toNat_lt
  exact ⟨Nat.cast_nonneg _, hlt⟩

lemma managers_turn (hR : PathRule G Q) (h : s.edge.dataplane.Managers G) (now : Instant)
    (net : NetAnswer) : (s.turn P now net).edge.dataplane.Managers Q := by
  have hQ := h.weaken hR
  unfold turn
  split
  · split <;> exact hQ
  · exact hQ
  · exact hQ
  · exact h.pingTimedOut hR now _ _
  · exact hQ
  · exact hQ
  · exact hQ
  · exact hQ
  · exact hQ
  · show (Edge.step P s.edge (.send _)).dataplane.Managers Q
    unfold Edge.step
    simp only
    split
    · exact hQ.sendToPeer _ _ _ _ _ _ _ _
    · exact hQ

/-- **What a step makes of the managers.** -/
lemma managers_step (hR : PathRule G Q) (h : s.edge.dataplane.Managers G)
    (input : ProberInput) : (s.step P input).edge.dataplane.Managers Q := by
  cases input with
  | edge input =>
      cases input with
      | control frame addr io => exact Edge.managers_handleControl hR h P.noise frame addr io
      | data header payload addr io =>
          show (s.receive P header payload addr io).edge.dataplane.Managers Q
          unfold receive
          split
          · exact managers_heard hR h header payload addr io _
          · exact managers_heard hR h header payload addr io none
      | command cmd sendOk => exact Edge.managers_handleCommand (h.weaken hR) cmd sendOk
      | finishLeave =>
          show (if s.edge.leaving then s.edge.finishLeave else s.edge).dataplane.Managers Q
          split <;> exact h.weaken hR
      | failover supernode => exact h.weaken hR
      | send call =>
          show (if call.peer < s.edge.dataplane.nextRef then
            { s.edge with dataplane := (s.edge.sendOutcome P call).plane }
              else s.edge).dataplane.Managers Q
          split
          · exact (h.weaken hR).sendToPeer _ _ _ _ _ _ _ _
          · exact h.weaken hR
  | turn now net => exact managers_turn hR h now net
  | mark call => exact h.weaken hR

/-- **What every call keeps holds along every run.** -/
theorem managers_run (hR : PathRule Q Q) {e : Edge} (he : e.dataplane.Managers Q)
    (is : List ProberInput) : (run (step P) (start e) is).edge.dataplane.Managers Q :=
  invariant_forall (I := fun s => s.edge.dataplane.Managers Q)
    (fun _ input h => managers_step hR h input) is (start e) he

end Prober

/-! ## Ranges -/

/-- A share of lost pings, and times in milliseconds. -/
structure PathInfo.InRange (p : PathInfo) : Prop where
  loss : 0 ≤ p.lossEwma ∧ p.lossEwma ≤ 1
  rtt : 0 ≤ p.rttEwma ∧ p.rttEwma < 2 ^ 32
  jitter : 0 ≤ p.jitterEwma ∧ p.jitterEwma < 2 ^ 32

lemma PathInfo.inRange_new (now : Instant) (addr : SocketAddr) (isRelay : Bool) :
    (PathInfo.new now addr isRelay).InRange := by
  cases isRelay with
  | true => constructor <;> constructor <;> norm_num [PathInfo.new]
  | false => constructor <;> constructor <;> norm_num [PathInfo.new]

lemma PathInfo.InRange.success {p : PathInfo} (h : p.InRange) (now : Instant) {rtt : ℚ}
    (hrtt : RttMs rtt) : PathInfo.InRange
      { p.updateRtt now rtt with
        lossEwma := (p.updateRtt now rtt).lossEwma * (1 - 1 / 10) + 1 / 10 * 0 } := by
  obtain ⟨⟨hloss, hloss'⟩, ⟨hold, hold'⟩, ⟨hjitter, hjitter'⟩⟩ := h
  obtain ⟨hnew, hnew'⟩ := hrtt
  have hdiff : |rtt - p.rttEwma| < 2 ^ 32 := abs_lt.mpr ⟨by linarith, by linarith⟩
  have hdiff' := abs_nonneg (rtt - p.rttEwma)
  simp only [PathInfo.updateRtt]
  exact ⟨⟨by linarith, by linarith⟩, ⟨by linarith, by linarith⟩, ⟨by linarith, by linarith⟩⟩

lemma PathInfo.InRange.failure {p : PathInfo} (h : p.InRange) : PathInfo.InRange
    { p with lossEwma := p.lossEwma * (1 - 1 / 10) + 1 / 10 * 1 } := by
  obtain ⟨⟨hloss, hloss'⟩, hrtt, hjitter⟩ := h
  exact ⟨⟨by linarith, by linarith⟩, hrtt, hjitter⟩

/-- No score reaches what the choice starts from. -/
lemma PathInfo.InRange.score_lt {p : PathInfo} (h : p.InRange) : p.score < f32Max := by
  obtain ⟨⟨-, hloss⟩, ⟨-, hrtt⟩, ⟨-, hjitter⟩⟩ := h
  have hpenalty : (if p.isRelay then 80 else 0 : ℚ) ≤ 80 := by split_ifs <;> norm_num
  have hsum : p.score < 3 * 2 ^ 32 + 1080 := by
    simp only [PathInfo.score]
    linarith
  exact hsum.trans (by norm_num [f32Max])

namespace PathManager

/-- Paths with estimates in range and addresses of their own. -/
structure InRange (m : PathManager) : Prop where
  path : ∀ p ∈ m.paths, p.InRange
  distinct : (m.paths.map PathInfo.addr).Nodup

/-- A measurement of the path with some address. -/
lemma InRange.measure {m m' : PathManager} (h : m.InRange) {addr : SocketAddr}
    {f : PathInfo → PathInfo} (hpaths : m'.paths = modifyFirst addr f m.paths)
    (haddr : ∀ p, (f p).addr = p.addr) (hf : ∀ p, p.InRange → (f p).InRange) : m'.InRange := by
  constructor
  · intro q hq
    rw [hpaths] at hq
    rcases PathHistory.mem_modifyFirst h.distinct hq with ⟨p, hp, -, rfl⟩ | ⟨hq, -⟩
    · exact hf p (h.path p hp)
    · exact h.path q hq
  · rw [hpaths, PathHistory.map_addr_modifyFirst haddr]
    exact h.distinct

lemma InRange.add {m : PathManager} (h : m.InRange) (now : Instant) (addr : SocketAddr)
    (isRelay : Bool) : (m.addOrUpdatePath now addr isRelay).InRange := by
  unfold addOrUpdatePath
  split_ifs with hany
  · exact h
  · have hnew : ∀ p ∈ m.paths, p.addr ≠ addr := by simpa using hany
    constructor
    · intro p hp
      rcases List.mem_append.mp hp with hp | hp
      · exact h.path p hp
      · rw [List.mem_singleton.mp hp]
        exact PathInfo.inRange_new now addr isRelay
    · rw [List.map_append, List.nodup_append]
      refine ⟨h.distinct, List.nodup_singleton _, fun a ha b hb => ?_⟩
      obtain ⟨p, hp, rfl⟩ := List.mem_map.mp ha
      rw [List.mem_singleton.mp hb]
      exact hnew p hp

lemma inRange_new (now : Instant) (relay : SocketAddr) : (new now relay).InRange := by
  refine ⟨fun p hp => ?_, List.nodup_singleton _⟩
  rw [List.mem_singleton.mp hp]
  exact PathInfo.inRange_new now relay true

/-- **Every call keeps the estimates in range.** -/
theorem inRange_rule : PathRule (fun _ => InRange) (fun _ => InRange) where
  new := fun _ => inRange_new
  add := fun _ _ now addr isRelay h => h.add now addr isRelay
  success := fun _ _ now _ _ hrtt h => h.measure rfl (fun _ => rfl) fun _ hp => hp.success now hrtt
  failure := fun _ _ _ _ h => h.measure rfl (fun _ => rfl) fun _ hp => hp.failure
  weaken := fun _ _ h => h

/-- A choice among paths one of which is fresh. -/
lemma isBest_reevaluate {now : Instant} {paths : List PathInfo} (hpos : 0 < paths.length)
    (hscore : ∀ p ∈ paths, p.score < f32Max) {p : PathInfo} (hp : p ∈ paths)
    (hfresh : p.Fresh now) :
    IsBest now paths (reevaluate now paths hpos).activeIndex
      (reevaluate now paths hpos).active := by
  rcases bestPath_spec now paths 0 (0, f32Max) with ⟨-, hnone⟩ | ⟨k, best, hbest, -, hend⟩
  · obtain ⟨i, hi⟩ := List.mem_iff_getElem?.mp hp
    exact absurd (hscore p hp) (not_lt.mpr (hnone i p hi hfresh))
  · have hk : (reevaluate now paths hpos).activeIndex = k := by
      show (bestPath now 0 (0, f32Max) paths).1 = k
      rw [hend, Nat.zero_add]
    have hactive : (reevaluate now paths hpos).active = best :=
      active_eq (by rw [hk]; exact hbest.get)
    rw [hk, hactive]
    exact hbest

/-! ## What a step does to a manager -/

/-- Addresses have been added to the manager, or to a new one in its place. -/
inductive Grown (before : PathManager) : PathManager → Prop
  | refl : Grown before before
  | new (now : Instant) (relay : SocketAddr) : Grown before (.new now relay)
  | add {m : PathManager} (h : Grown before m) (now : Instant) (addr : SocketAddr)
      (isRelay : Bool) : Grown before (m.addOrUpdatePath now addr isRelay)

/-- A success or a failure is recorded at `now` with the manager, behind addresses that were
added. -/
inductive Recorded (before : PathManager) (now : Instant) : PathManager → Prop
  | success {m : PathManager} (h : Grown before m) (addr : SocketAddr) (rttMs : ℚ) :
      Recorded before now (m.recordSuccess now addr rttMs)
  | failure {m : PathManager} (h : Grown before m) (addr : SocketAddr) :
      Recorded before now (m.recordFailure now addr)

/-- A step adds addresses and then records at most one result. -/
theorem grown_rule (before : PeerRef → PathManager) :
    PathRule (fun r => Grown (before r))
      (fun r m => Grown (before r) m ∨ ∃ now, Recorded (before r) now m) where
  new := fun _ now relay => .new now relay
  add := fun _ _ now addr isRelay h => h.add now addr isRelay
  success := fun _ _ now addr rtt _ h => .inr ⟨now, .success h addr rtt⟩
  failure := fun _ _ now addr h => .inr ⟨now, .failure h addr⟩
  weaken := fun _ _ h => .inl h

/-- The choice that goes with a recording. -/
lemma Recorded.isBest {before after : PathManager} {now : Instant}
    (h : Recorded before now after) (hrange : after.InRange)
    (hfresh : ∃ p ∈ after.paths, p.Fresh now) :
    IsBest now after.paths after.activeIndex after.active := by
  obtain ⟨p, hp, hfresh⟩ := hfresh
  have hscore : ∀ p ∈ after.paths, p.score < f32Max := fun p hp => (hrange.path p hp).score_lt
  cases h with
  | success => exact isBest_reevaluate (paths_pos _) hscore hp hfresh
  | failure => exact isBest_reevaluate (paths_pos _) hscore hp hfresh

end PathManager

namespace Prober

variable {P : Platform}

/-- **The estimates stay in range.**  In every run of an edge that starts without estimates out of
range, the paths to a peer have distinct addresses, a loss between 0 and 1, and a round trip time
and jitter of less than `2 ^ 32` milliseconds. -/
theorem paths_in_range (P : Platform) (e : Edge)
    (he : ∀ r, (e.dataplane.heap r).pathManager.InRange) (is : List ProberInput) (r : PeerRef) :
    ((run (step P) (start e) is).edge.dataplane.heap r).pathManager.InRange :=
  managers_run PathManager.inRange_rule he is r

theorem paths_in_range_sample :
    (∀ r, ((Edge.sample 1).dataplane.heap r).pathManager.InRange) ∧
      ((run (step .transparent) (start (.sample 1)) sampleProbing).edge.dataplane.heap
        0).pathManager.InRange := by
  have hstart : ∀ r, ((Edge.sample 1).dataplane.heap r).pathManager.InRange := fun _ =>
    PathManager.inRange_new 0 (.localhost 9)
  exact ⟨hstart, paths_in_range .transparent (.sample 1) hstart sampleProbing 0⟩

/-- The manager of the record `r`. -/
def manager (s : Prober) (r : PeerRef) : PathManager := (s.edge.dataplane.heap r).pathManager

/-- What a step does to the choices of a path: with each manager it records nothing, or it records
one result.  Then, if a path is fresh, the active path is the first of the fresh paths with the
least score. -/
structure BestChosen (P : Platform) (s : Prober) (input : ProberInput) (r : PeerRef) : Prop where
  recorded : (s.manager r).Grown ((s.step P input).manager r) ∨
    ∃ now, (s.manager r).Recorded now ((s.step P input).manager r)
  best : ∀ now, (s.manager r).Recorded now ((s.step P input).manager r) →
    (∃ p ∈ ((s.step P input).manager r).paths, p.Fresh now) →
      IsBest now ((s.step P input).manager r).paths ((s.step P input).manager r).activeIndex
        ((s.step P input).manager r).active

lemma bestChosen {s : Prober} (hs : ∀ r, (s.manager r).InRange) (input : ProberInput)
    (r : PeerRef) : BestChosen P s input r where
  recorded := managers_step (PathManager.grown_rule s.manager) (fun _ => .refl) input r
  best := fun _ hrecorded => hrecorded.isBest (managers_step PathManager.inRange_rule hs input r)

/-- **A choice takes the best fresh path.**  Whatever a step of a run records with the manager of a
peer, also for an address that the same step adds, the active path becomes the first of the fresh
paths with the least score, if there is a fresh path.  A step that records nothing only adds
paths. -/
theorem choice_is_best (P : Platform) (e : Edge)
    (he : ∀ r, (e.dataplane.heap r).pathManager.InRange) (is : List ProberInput) :
    Along (step P) (fun s input => ∀ r, BestChosen P s input r) (start e) is :=
  Along.of_invariant_forall (I := fun s : Prober => ∀ r, (s.manager r).InRange)
    (fun _ input hs => managers_step PathManager.inRange_rule hs input)
    (fun _ input hs r => bestChosen hs input r) is (start e) he

/-- Node 2 meets node 1 and gets the first message of a handshake from an address it did not
know. -/
def sampleMeeting : List ProberInput :=
  [.edge Edge.enterRoom, .edge (Edge.announce 1), .edge Edge.receiveFirst]

theorem choice_is_best_sample :
    ((run (step .transparent) (start (.sample 2)) sampleMeeting).manager 0).paths.map
        (fun p => (p.addr, p.score)) = [(.localhost 9, 180), (.localhost 1, 895 / 4)] ∧
      ((run (step .transparent) (start (.sample 2)) sampleMeeting).manager 0).activeAddr =
        .localhost 9 ∧
      Along (step .transparent) (fun s input => ∀ r, BestChosen .transparent s input r)
        (start (.sample 2)) sampleMeeting :=
  ⟨by decide +kernel, by decide +kernel, choice_is_best .transparent (.sample 2)
    (fun _ => PathManager.inRange_new 0 (.localhost 9)) sampleMeeting⟩

end Prober

end R2N
