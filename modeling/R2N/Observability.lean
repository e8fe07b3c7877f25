import Mathlib.Data.Rat.Defs
import R2N.Lib.Outstanding
import R2N.Dataplane.Path
import R2N.Proto.Header

/-!
# The metrics registry

`r2n-observability`'s `MetricsRegistry`: totals, and for every peer it has heard of the counters,
the pings that wait for a pong, and a window of the last outcomes.  Each operation is what the
source does under one lock; a rate is an exact rational in place of `f32`.

* `update` — `ensure_peer` followed by a change of the peer's counters; `counters_update` says
  what it does to each peer.
* `recordPingSent`, `recordPongReceived`, `checkTimeoutsOf` — the life of a ping.
* `MarkCall` — the calls that count events.
* **`mark_pings`** — counting an event leaves the pings and the windows of every peer alone.
-/

namespace R2N

/-- `Duration::as_millis() as u32`. -/
def asMillisU32 (d : ℕ) : UInt32 := UInt32.ofNat (d / 1000000)

inductive PathKind where
  | direct
  | relay
deriving DecidableEq

/-- A value of `pending_pings`: where a ping went, when, and whether its path was the active one. -/
structure PendingPing where
  addr : SocketAddr
  sentAt : Instant
  isActive : Bool
deriving DecidableEq

structure PeerCounters where
  path : PathKind
  lastRttMs : Option UInt32
  relayHits : UInt64
  directHits : UInt64
  handshakeSuccesses : UInt64
  handshakeFailures : UInt64
  packetDrops : UInt64
  pendingPings : KeyMap UInt32 PendingPing
  pingWindow : List Bool

/-- The counters `ensure_peer` starts with. -/
def PeerCounters.new : PeerCounters where
  path := .relay
  lastRttMs := none
  relayHits := 0
  directHits := 0
  handshakeSuccesses := 0
  handshakeFailures := 0
  packetDrops := 0
  pendingPings := ∅
  pingWindow := []

structure MetricsRegistry where
  handshakeSuccesses : UInt64
  handshakeFailures : UInt64
  relayPackets : UInt64
  directPackets : UInt64
  packetDrops : UInt64
  broadcastPackets : UInt64
  multicastPackets : UInt64
  l2FloodPackets : UInt64
  peers : KeyMap NodeId PeerCounters

/-- A call that counts an event. -/
inductive MarkCall where
  | handshake (peer : NodeId) (success : Bool)
  | pathHit (peer : NodeId) (path : PathKind)
  | packetDrop (peer : Option NodeId)
  | discoveryPacket (packetType : DataPacketType)
deriving DecidableEq

namespace MetricsRegistry

def new : MetricsRegistry where
  handshakeSuccesses := 0
  handshakeFailures := 0
  relayPackets := 0
  directPackets := 0
  packetDrops := 0
  broadcastPackets := 0
  multicastPackets := 0
  l2FloodPackets := 0
  peers := ∅

/-- The counters of a peer; those of a peer that is not there are the ones it would start with. -/
def counters (m : MetricsRegistry) (peer : NodeId) : PeerCounters :=
  (m.peers.lookup peer).getD .new

/-- `ensure_peer`, and a change of the counters it returns. -/
def update (m : MetricsRegistry) (peer : NodeId) (f : PeerCounters → PeerCounters) :
    MetricsRegistry :=
  { m with peers := m.peers.insert peer (f (m.counters peer)) }

lemma counters_update (m : MetricsRegistry) (peer : NodeId) (f : PeerCounters → PeerCounters)
    (p : NodeId) :
    (m.update peer f).counters p = if p = peer then f (m.counters peer) else m.counters p := by
  rw [counters, update, KeyMap.lookup_insert_eq]
  split_ifs <;> rfl

/-! ## Events -/

def markHandshake (m : MetricsRegistry) (peer : NodeId) (success : Bool) : MetricsRegistry :=
  if success then
    { m.update peer fun c => { c with handshakeSuccesses := c.handshakeSuccesses + 1 } with
      handshakeSuccesses := m.handshakeSuccesses + 1 }
  else
    { m.update peer fun c => { c with handshakeFailures := c.handshakeFailures + 1 } with
      handshakeFailures := m.handshakeFailures + 1 }

def markPathHit (m : MetricsRegistry) (peer : NodeId) (path : PathKind) : MetricsRegistry :=
  match path with
  | .direct =>
      { m.update peer fun c => { c with path, directHits := c.directHits + 1 } with
        directPackets := m.directPackets + 1 }
  | .relay =>
      { m.update peer fun c => { c with path, relayHits := c.relayHits + 1 } with
        relayPackets := m.relayPackets + 1 }

def markPacketDrop (m : MetricsRegistry) (peer : Option NodeId) : MetricsRegistry :=
  let m := { m with packetDrops := m.packetDrops + 1 }
  match peer with
  | some peer => m.update peer fun c => { c with packetDrops := c.packetDrops + 1 }
  | none => m

def markDiscoveryPacket (m : MetricsRegistry) : DataPacketType → MetricsRegistry
  | .broadcast => { m with broadcastPackets := m.broadcastPackets + 1 }
  | .multicast => { m with multicastPackets := m.multicastPackets + 1 }
  | .ethernet => { m with l2FloodPackets := m.l2FloodPackets + 1 }
  | _ => m

def mark (m : MetricsRegistry) : MarkCall → MetricsRegistry
  | .handshake peer success => m.markHandshake peer success
  | .pathHit peer path => m.markPathHit peer path
  | .packetDrop peer => m.markPacketDrop peer
  | .discoveryPacket packetType => m.markDiscoveryPacket packetType

/-! ## Pings -/

def recordPingSent (m : MetricsRegistry) (now : Instant) (peer : NodeId) (seq : UInt32)
    (addr : SocketAddr) (isActive : Bool) : MetricsRegistry :=
  m.update peer fun c =>
    { c with pendingPings := c.pendingPings.insert seq { addr, sentAt := now, isActive } }

/-- The size of `ping_window`. -/
def pingWindowSize : ℕ := 20

/-- The window after an outcome, which counts only if the path was the active one. -/
def windowAfter (window : List Bool) (isActive success : Bool) : List Bool :=
  if isActive then Outstanding.push pingWindowSize window success else window

/-- `record_pong_received`: the address and round trip of the ping that is answered, if any. -/
def recordPongReceived (m : MetricsRegistry) (now : Instant) (peer : NodeId) (seq : UInt32) :
    Option (SocketAddr × UInt32) × MetricsRegistry :=
  match (m.counters peer).pendingPings.lookup seq with
  | some ping =>
      let rttMs := asMillisU32 (now - ping.sentAt)
      (some (ping.addr, rttMs), m.update peer fun c =>
        { c with
          pendingPings := c.pendingPings.erase seq
          lastRttMs := some rttMs
          pingWindow := windowAfter c.pingWindow ping.isActive true })
  | none => (none, m.update peer id)

/-- `now.duration_since(send_time) > timeout`. -/
def isTimedOut (timeout : ℕ) (now : Instant) (ping : PendingPing) : Bool :=
  timeout < now - ping.sentAt

/-- The pings of a peer that `check_ping_timeouts` gives up. -/
def timedOut (m : MetricsRegistry) (timeout : ℕ) (now : Instant) (peer : NodeId) :
    List (UInt32 × PendingPing) :=
  Outstanding.selected (fun _ ping => isTimedOut timeout now ping) (m.counters peer).pendingPings

/-- One turn of the loop of `check_ping_timeouts`, for a peer the registry has. -/
def checkTimeoutsOf (m : MetricsRegistry) (timeout : ℕ) (now : Instant) (peer : NodeId) :
    List (NodeId × SocketAddr) × MetricsRegistry :=
  let timedOut := m.timedOut timeout now peer
  (timedOut.map fun x => (peer, x.2.addr), m.update peer fun c =>
    { c with
      pendingPings := KeyMap.retain (fun _ ping => !isTimedOut timeout now ping) c.pendingPings
      pingWindow := timedOut.foldl (fun w x => windowAfter w x.2.isActive false) c.pingWindow })

/-! ## Reports -/

structure PeerPathMetrics where
  peer : NodeId
  path : PathKind
  lastRttMs : Option UInt32
  relayHits : UInt64
  directHits : UInt64
  handshakeSuccesses : UInt64
  handshakeFailures : UInt64
  packetDrops : UInt64
  packetLossRate : ℚ

/-- The `packet_loss_rate` of a window. -/
def lossRate (window : List Bool) : ℚ :=
  if window = [] then 0 else (window.count false : ℚ) / (window.length : ℚ)

/-- What `snapshot` reports of a peer. -/
def report (peer : NodeId) (c : PeerCounters) : PeerPathMetrics where
  peer := peer
  path := c.path
  lastRttMs := c.lastRttMs
  relayHits := c.relayHits
  directHits := c.directHits
  handshakeSuccesses := c.handshakeSuccesses
  handshakeFailures := c.handshakeFailures
  packetDrops := c.packetDrops
  packetLossRate := lossRate c.pingWindow

/-- The `peers` of `snapshot`. -/
def peerReports (m : MetricsRegistry) : List PeerPathMetrics :=
  m.peers.entries.map fun e => report e.1 e.2

lemma mem_peerReports {m : MetricsRegistry} {x : PeerPathMetrics} (hx : x ∈ m.peerReports) :
    x = report x.peer (m.counters x.peer) := by
  obtain ⟨⟨peer, c⟩, hmem, rfl⟩ := List.mem_map.mp hx
  have hc : m.counters peer = c := by
    rw [counters, AList.mem_lookup_iff.mpr hmem]
    rfl
  show report peer c = report peer (m.counters peer)
  rw [hc]

/-! ## The pings of a peer -/

/-- What the probing of peers reads of a peer's counters. -/
def pings (m : MetricsRegistry) (peer : NodeId) :
    KeyMap UInt32 PendingPing × List Bool × Option UInt32 :=
  let c := m.counters peer
  (c.pendingPings, c.pingWindow, c.lastRttMs)

/-- A change of the counters of one peer. -/
lemma pings_update (m : MetricsRegistry) (peer : NodeId) (f : PeerCounters → PeerCounters)
    (p : NodeId) :
    (m.update peer f).pings p =
      if p = peer then
        let c := f (m.counters peer)
        (c.pendingPings, c.pingWindow, c.lastRttMs)
      else m.pings p := by
  simp only [pings, counters_update]
  split_ifs <;> rfl

lemma pings_recordPingSent (m : MetricsRegistry) (now : Instant) (peer : NodeId) (seq : UInt32)
    (addr : SocketAddr) (isActive : Bool) (p : NodeId) :
    (m.recordPingSent now peer seq addr isActive).pings p =
      if p = peer then
        ((m.pings peer).1.insert seq { addr, sentAt := now, isActive }, (m.pings peer).2)
      else m.pings p :=
  pings_update m peer _ p

lemma pings_recordPongReceived (m : MetricsRegistry) (now : Instant) (peer : NodeId)
    (seq : UInt32) (p : NodeId) :
    (m.recordPongReceived now peer seq).2.pings p =
      if p = peer then
        match (m.pings peer).1.lookup seq with
        | some ping =>
            ((m.pings peer).1.erase seq, windowAfter (m.pings peer).2.1 ping.isActive true,
              some (asMillisU32 (now - ping.sentAt)))
        | none => m.pings peer
      else m.pings p := by
  unfold recordPongReceived
  simp only [pings]
  cases (m.counters peer).pendingPings.lookup seq with
  | some ping => exact pings_update m peer _ p
  | none => exact pings_update m peer _ p

lemma pings_checkTimeoutsOf (m : MetricsRegistry) (timeout : ℕ) (now : Instant) (peer : NodeId)
    (p : NodeId) :
    (m.checkTimeoutsOf timeout now peer).2.pings p =
      if p = peer then
        (KeyMap.retain (fun _ ping => !isTimedOut timeout now ping) (m.pings peer).1,
          (m.timedOut timeout now peer).foldl (fun w x => windowAfter w x.2.isActive false)
            (m.pings peer).2.1, (m.pings peer).2.2)
      else m.pings p :=
  pings_update m peer _ p

/-- Counters whose pings, window and round trip time are as before. -/
lemma pings_insert {m m' : MetricsRegistry} {peer : NodeId} {c : PeerCounters}
    (hpeers : m'.peers = m.peers.insert peer c)
    (hpending : c.pendingPings = (m.counters peer).pendingPings)
    (hwindow : c.pingWindow = (m.counters peer).pingWindow)
    (hrtt : c.lastRttMs = (m.counters peer).lastRttMs) (p : NodeId) : m'.pings p = m.pings p := by
  simp only [pings, counters, hpeers, KeyMap.lookup_insert_eq]
  split_ifs with hp
  · rw [hp]
    exact congrArg₂ Prod.mk hpending (congrArg₂ Prod.mk hwindow hrtt)
  · rfl

/-- **Counting an event** changes no ping, no window and no round trip time. -/
theorem mark_pings (m : MetricsRegistry) (call : MarkCall) (p : NodeId) :
    (m.mark call).pings p = m.pings p := by
  cases call with
  | handshake peer success =>
      cases success with
      | true => exact pings_insert (by rfl) (by rfl) (by rfl) (by rfl) p
      | false => exact pings_insert (by rfl) (by rfl) (by rfl) (by rfl) p
  | pathHit peer path =>
      cases path with
      | direct => exact pings_insert (by rfl) (by rfl) (by rfl) (by rfl) p
      | relay => exact pings_insert (by rfl) (by rfl) (by rfl) (by rfl) p
  | packetDrop peer =>
      cases peer with
      | some peer => exact pings_insert (by rfl) (by rfl) (by rfl) (by rfl) p
      | none => rfl
  | discoveryPacket packetType => cases packetType <;> rfl

end MetricsRegistry

end R2N
