import R2N.Observability
import R2N.Dataplane.Routes
import R2N.Edge.Run

/-!
# Probing the paths of a peer

`DataPlane::run_ping_loop` sends a ping along every path of every peer at each of its ticks, and
counts a path as failed if no pong has come back after two seconds.  It is a task of its own: the
edge receives frames and changes its table of peers while the loop is between any two of its
locks.  Here the loop is cut at those points, next to an edge that does whatever it does.

* `PingLoop` — where the loop is; `Prober` — the loop, the edge, the registry they share, and a
  history of the pings.
* `PingStep` — all that a step can do to the pings, and **`step_pingStep`** that it does one of
  these things.
* `Accounted` — where the pings of a history are, kept by every step.
* **`pings_settled_once`** — until the numbers of pings repeat, a ping is answered or given up at
  most once, and waits otherwise.
* **`peer_reports_recent`** — the loss rate and round trip time that are reported of a peer are
  those of its last pings.
* **`pings_time_out`** — what is given up is older than two seconds, and what is still waiting or
  gets answered was at most two seconds old at the last check.
-/

namespace R2N

open Run
open Bytes (beBytes ofBe)

/-- The timeout of a ping. -/
def pingTimeout : ℕ := fromSecs 2

/-- Where `run_ping_loop` is. -/
inductive PingLoop where
  /-- Waiting for the next tick. -/
  | waiting
  /-- In `check_ping_timeouts`, which read the clock as `time`, with the peers in `left` to go. -/
  | checking (time : Instant) (left : List NodeId) (timedOut : List (NodeId × SocketAddr))
  /-- With failures left to record. -/
  | failing (timedOut : List (NodeId × SocketAddr))
  /-- About to read the paths of the next peer. -/
  | choosing (peers : List PeerRef)
  /-- With the paths in `paths` of `peer` left to probe, and then `peers`. -/
  | recording (peer : PeerRef) (active : SocketAddr) (paths : List PathInfo)
      (peers : List PeerRef)
  /-- The same, with the ping `seq` recorded and not yet sent. -/
  | sending (seq : UInt32) (addr : SocketAddr) (peer : PeerRef) (active : SocketAddr)
      (paths : List PathInfo) (peers : List PeerRef)

/-- A ping: the peer and the number it is filed under, and what is filed. -/
structure Probe where
  peer : NodeId
  seq : UInt32
  ping : PendingPing
deriving DecidableEq

/-- An entry of the pings of `peer`. -/
def Probe.of (peer : NodeId) (x : UInt32 × PendingPing) : Probe :=
  { peer, seq := x.1, ping := x.2 }

inductive PingOutcome where
  | answered
  | timedOut
  /-- Forgotten, because its number was used again. -/
  | replaced
deriving DecidableEq

/-- The end of a ping, and when the last check was made that had been completed by then. -/
structure Settled where
  probe : Probe
  outcome : PingOutcome
  time : Instant
  checkedAt : Instant
deriving DecidableEq

/-- The edge, the registry and the ping loop.  The last four are history: the pings that were
recorded, how those that are over ended, and the times of the last check and of the loop's last
turn. -/
structure Prober where
  edge : Edge
  registry : MetricsRegistry
  nextPingSeq : UInt32
  loop : PingLoop
  sent : List Probe
  settled : List Settled
  checkedAt : Instant
  clock : Instant

inductive ProberInput where
  | edge (input : EdgeInput)
  | turn (now : Instant) (net : NetAnswer)
  | mark (call : MarkCall)

namespace Prober

def start (e : Edge) : Prober where
  edge := e
  registry := .new
  nextPingSeq := 0
  loop := .waiting
  sent := []
  settled := []
  checkedAt := 0
  clock := 0

/-! ## Receiving -/

/-- The number a data frame hands to `record_pong_received`. -/
def pongSeq (P : Platform) (s : Prober) (h : DataHeader) (payload : Bytes) (now : Instant) :
    Option UInt32 :=
  if h.packetType = .pong then
    match s.edge.dataplane.acceptedPacket P.aead now h payload with
    | some packet =>
        if packet.length ≥ 4 then some (UInt32.ofNat (ofBe (packet.take 4))) else none
    | none => none
  else none

/-- The edge after a data frame, if the registry answers `found` to its pong. -/
def heard (P : Platform) (s : Prober) (h : DataHeader) (payload : Bytes) (addr : SocketAddr)
    (io : IncomingIo) (found : Option (SocketAddr × UInt32)) : Edge :=
  s.edge.step P (.data h payload addr
    { io with pongReceived := found.map fun x => (x.1, (x.2.toNat : ℚ)) })

/-- A ping with number `seq` to `peer` ends, if there is one. -/
def ending (s : Prober) (peer : NodeId) (seq : UInt32) (outcome : PingOutcome) (time : Instant) :
    List Settled :=
  (Outstanding.entry (s.registry.pings peer).1 seq).map fun x =>
    { probe := .of peer x, outcome, time, checkedAt := s.checkedAt }

/-- A data frame: the pong it may carry is looked up in the registry. -/
def receive (P : Platform) (s : Prober) (h : DataHeader) (payload : Bytes) (addr : SocketAddr)
    (io : IncomingIo) : Prober :=
  match s.pongSeq P h payload io.now with
  | some seq =>
      let (found, registry) := s.registry.recordPongReceived io.now h.srcNode seq
      { s with
        edge := s.heard P h payload addr io found
        registry
        settled := s.settled ++ s.ending h.srcNode seq .answered io.now }
  | none => { s with edge := s.heard P h payload addr io none }

/-! ## The loop -/

/-- `check_ping_timeouts` for one peer. -/
def checkPeer (s : Prober) (time : Instant) (peer : NodeId) (left : List NodeId)
    (timedOut : List (NodeId × SocketAddr)) : Prober :=
  let (addrs, registry) := s.registry.checkTimeoutsOf pingTimeout time peer
  { s with
    registry
    loop := .checking time left (timedOut ++ addrs)
    settled := s.settled ++ (s.registry.timedOut pingTimeout time peer).map fun x =>
      { probe := .of peer x, outcome := .timedOut, time, checkedAt := s.checkedAt } }

/-- A ping along `path` is recorded. -/
def recordPing (s : Prober) (now : Instant) (r : PeerRef) (active : SocketAddr) (path : PathInfo)
    (paths : List PathInfo) (peers : List PeerRef) : Prober :=
  let peer := (s.edge.dataplane.heap r).info.nodeId
  let seq := s.nextPingSeq
  let ping : PendingPing := { addr := path.addr, sentAt := now, isActive := path.addr = active }
  { s with
    registry := s.registry.recordPingSent now peer seq ping.addr ping.isActive
    nextPingSeq := seq + 1
    loop := .sending seq path.addr r active paths peers
    sent := s.sent ++ [.of peer (seq, ping)]
    settled := s.settled ++ s.ending peer seq .replaced now }

/-- The loop goes on to where it lets others run again. -/
def turn (P : Platform) (s : Prober) (now : Instant) (net : NetAnswer) : Prober :=
  match s.loop with
  | .waiting =>
      if s.edge.dataplane.roomId.isNone then s
      else { s with loop := .checking now s.registry.peers.keys [] }
  | .checking time (peer :: left) timedOut => s.checkPeer time peer left timedOut
  | .checking time [] timedOut => { s with loop := .failing timedOut, checkedAt := time }
  | .failing ((peer, addr) :: timedOut) =>
      { s with
        edge := { s.edge with dataplane := s.edge.dataplane.pingTimedOut now peer addr }
        loop := .failing timedOut }
  | .failing [] => { s with loop := .choosing (KeyMap.values s.edge.dataplane.peers) }
  | .choosing (r :: peers) =>
      let manager := (s.edge.dataplane.heap r).pathManager
      { s with loop := .recording r manager.activeAddr manager.paths peers }
  | .choosing [] => { s with loop := .waiting }
  | .recording r active (path :: paths) peers => s.recordPing now r active path paths peers
  | .recording _ _ [] peers => { s with loop := .choosing peers }
  | .sending seq addr r active paths peers =>
      { s with
        edge := s.edge.step P (.send
          { fromTun := false, peer := r, packetType := .ping, payload := beBytes 4 seq.toNat
            target := some addr, flood := false, net })
        loop := .recording r active paths peers }

def step (P : Platform) (s : Prober) : ProberInput → Prober
  | .edge (.data h payload addr io) => s.receive P h payload addr io
  | .edge input => { s with edge := s.edge.step P input }
  | .turn now net => { s.turn P now net with clock := now }
  | .mark call => { s with registry := s.registry.mark call }

/-! ## What a step does to the pings -/

/-- A step does nothing to the pings, or it records one, answers one, or checks those of a peer. -/
inductive PingStep (s s' : Prober) : Prop
  | idle (pings : ∀ p, s'.registry.pings p = s.registry.pings p)
      (nextPingSeq : s'.nextPingSeq = s.nextPingSeq) (sent : s'.sent = s.sent)
      (settled : s'.settled = s.settled)
  | recorded (now : Instant) (peer : NodeId) (ping : PendingPing) (sentAt : ping.sentAt = now)
      (registry : s'.registry =
        s.registry.recordPingSent now peer s.nextPingSeq ping.addr ping.isActive)
      (nextPingSeq : s'.nextPingSeq = s.nextPingSeq + 1)
      (sent : s'.sent = s.sent ++ [.of peer (s.nextPingSeq, ping)])
      (settled : s'.settled = s.settled ++ s.ending peer s.nextPingSeq .replaced now)
  | answered (now : Instant) (peer : NodeId) (seq : UInt32)
      (registry : s'.registry = (s.registry.recordPongReceived now peer seq).2)
      (nextPingSeq : s'.nextPingSeq = s.nextPingSeq) (sent : s'.sent = s.sent)
      (settled : s'.settled = s.settled ++ s.ending peer seq .answered now)
  | checked (time : Instant) (peer : NodeId)
      (registry : s'.registry = (s.registry.checkTimeoutsOf pingTimeout time peer).2)
      (nextPingSeq : s'.nextPingSeq = s.nextPingSeq) (sent : s'.sent = s.sent)
      (settled : s'.settled = s.settled ++ (s.registry.timedOut pingTimeout time peer).map fun x =>
        { probe := .of peer x, outcome := .timedOut, time, checkedAt := s.checkedAt })

variable {P : Platform} {s s' : Prober}

lemma PingStep.of_eq {t : Prober} (h : PingStep s s') (hregistry : t.registry = s'.registry)
    (hseq : t.nextPingSeq = s'.nextPingSeq) (hsent : t.sent = s'.sent)
    (hsettled : t.settled = s'.settled) : PingStep s t := by
  cases h with
  | idle pings seq sent settled =>
      exact .idle (fun p => by rw [hregistry, pings]) (hseq.trans seq) (hsent.trans sent)
        (hsettled.trans settled)
  | recorded now peer ping sentAt registry seq sent settled =>
      exact .recorded now peer ping sentAt (hregistry.trans registry) (hseq.trans seq)
        (hsent.trans sent) (hsettled.trans settled)
  | answered now peer seq registry nextSeq sent settled =>
      exact .answered now peer seq (hregistry.trans registry) (hseq.trans nextSeq)
        (hsent.trans sent) (hsettled.trans settled)
  | checked time peer registry seq sent settled =>
      exact .checked time peer (hregistry.trans registry) (hseq.trans seq) (hsent.trans sent)
        (hsettled.trans settled)

lemma receive_pingStep (h : DataHeader) (payload : Bytes) (addr : SocketAddr) (io : IncomingIo) :
    PingStep s (s.receive P h payload addr io) := by
  unfold receive
  split
  · exact .answered io.now h.srcNode _ rfl rfl rfl rfl
  · exact .idle (fun _ => rfl) rfl rfl rfl

lemma turn_pingStep (now : Instant) (net : NetAnswer) : PingStep s (s.turn P now net) := by
  have hidle : ∀ s' : Prober, s'.registry = s.registry → s'.nextPingSeq = s.nextPingSeq →
      s'.sent = s.sent → s'.settled = s.settled → PingStep s s' := by
    intro s' hregistry hseq hsent hsettled
    exact .idle (fun _ => by rw [hregistry]) hseq hsent hsettled
  unfold turn
  split
  · split_ifs
    · exact hidle s rfl rfl rfl rfl
    · exact hidle _ rfl rfl rfl rfl
  · exact .checked _ _ rfl rfl rfl rfl
  · exact hidle _ rfl rfl rfl rfl
  · exact hidle _ rfl rfl rfl rfl
  · exact hidle _ rfl rfl rfl rfl
  · exact hidle _ rfl rfl rfl rfl
  · exact hidle _ rfl rfl rfl rfl
  · exact .recorded now _ { addr := _, sentAt := now, isActive := _ } rfl rfl rfl rfl rfl
  · exact hidle _ rfl rfl rfl rfl
  · exact hidle _ rfl rfl rfl rfl

/-- **All that a step can do to the pings.** -/
theorem step_pingStep (s : Prober) (input : ProberInput) : PingStep s (s.step P input) := by
  cases input with
  | edge input =>
      cases input with
      | data h payload addr io => exact receive_pingStep h payload addr io
      | _ => exact .idle (fun _ => rfl) rfl rfl rfl
  | turn now net =>
      have hturn := turn_pingStep (P := P) (s := s) now net
      exact hturn.of_eq rfl rfl rfl rfl
  | mark call => exact .idle (s.registry.mark_pings call) rfl rfl rfl

/-! ## Where the pings are -/

/-- The pings to `p` that wait for a pong. -/
def pending (s : Prober) (p : NodeId) : List Probe :=
  (Outstanding.items (s.registry.pings p).1).map (Probe.of p)

/-- The pings to `p` among `l`. -/
def probesTo (p : NodeId) (l : List Probe) : List Probe := l.filter fun x => x.peer = p

lemma probesTo_append (p : NodeId) (l l' : List Probe) :
    probesTo p (l ++ l') = probesTo p l ++ probesTo p l' :=
  List.filter_append ..

lemma probesTo_map_of (p peer : NodeId) (l : List (UInt32 × PendingPing)) :
    probesTo p (l.map (Probe.of peer)) = if p = peer then l.map (Probe.of peer) else [] := by
  rw [probesTo]
  split_ifs with hp
  · rw [List.filter_eq_self, List.forall_mem_map]
    simp [Probe.of, hp]
  · rw [List.filter_eq_nil_iff, List.forall_mem_map]
    simp [Probe.of, Ne.symm hp]

/-- The pings that are over. -/
def ended (s : Prober) : List Probe := s.settled.map Settled.probe

lemma probe_ending (peer : NodeId) (seq : UInt32) (outcome : PingOutcome) (time : Instant) :
    (s.ending peer seq outcome time).map Settled.probe =
      (Outstanding.entry (s.registry.pings peer).1 seq).map (Probe.of peer) := by
  rw [ending, List.map_map]
  rfl

/-- A step that changes the pings of `peer` alone, where `moved` leave those that wait and `new`
join them. -/
lemma pending_step {peer : NodeId} {new moved : List (UInt32 × PendingPing)}
    (table : KeyMap UInt32 PendingPing)
    (htable : ∀ p, (s'.registry.pings p).1 = if p = peer then table else (s.registry.pings p).1)
    (hmove : (Outstanding.items (s.registry.pings peer).1 ++ new).Perm
      (moved ++ Outstanding.items table)) (p : NodeId) :
    (s.pending p ++ probesTo p (new.map (Probe.of peer))).Perm
      (probesTo p (moved.map (Probe.of peer)) ++ s'.pending p) := by
  rw [probesTo_map_of, probesTo_map_of, pending, pending, htable]
  split_ifs with hp
  · rw [hp, ← List.map_append, ← List.map_append]
    exact hmove.map _
  · simp

/-- **The account of a step**: the pings it records and those it ends. -/
lemma PingStep.account (h : PingStep s s') :
    ∃ new moved, s'.sent = s.sent ++ new ∧ s'.ended = s.ended ++ moved ∧
      ∀ p, (s.pending p ++ probesTo p new).Perm (probesTo p moved ++ s'.pending p) := by
  cases h with
  | idle pings seq sent settled =>
      refine ⟨[], [], by simp [sent], by simp [ended, settled], fun p => ?_⟩
      simp [pending, pings, probesTo]
  | recorded now peer ping sentAt registry seq sent settled =>
      refine ⟨[(s.nextPingSeq, ping)].map (Probe.of peer),
        (Outstanding.entry (s.registry.pings peer).1 s.nextPingSeq).map (Probe.of peer), sent,
        ?_, pending_step _ (fun p => ?_) (Outstanding.items_insert _ _ _)⟩
      · rw [ended, settled, List.map_append, probe_ending]
        rfl
      · rw [registry, MetricsRegistry.pings_recordPingSent]
        split_ifs
        · rw [← sentAt]
        · rfl
  | answered now peer seq registry nextSeq sent settled =>
      refine ⟨[].map (Probe.of peer),
        (Outstanding.entry (s.registry.pings peer).1 seq).map (Probe.of peer), by simp [sent],
        ?_, pending_step ((s.registry.pings peer).1.erase seq) (fun p => ?_) ?_⟩
      · rw [ended, settled, List.map_append, probe_ending]
        rfl
      · rw [registry, MetricsRegistry.pings_recordPongReceived]
        split_ifs with hp
        · cases hlook : (s.registry.pings peer).1.lookup seq with
          | some ping => rfl
          | none => exact (KeyMap.erase_of_lookup_none hlook).symm
        · rfl
      · rw [List.append_nil]
        exact Outstanding.items_erase _ _
  | checked time peer registry seq sent settled =>
      refine ⟨[].map (Probe.of peer),
        (s.registry.timedOut pingTimeout time peer).map (Probe.of peer), by simp [sent], ?_,
        pending_step (KeyMap.retain
          (fun _ ping => !MetricsRegistry.isTimedOut pingTimeout time ping)
          (s.registry.pings peer).1) (fun p => ?_) ?_⟩
      · rw [ended, settled, List.map_append, List.map_map]
        rfl
      · rw [registry, MetricsRegistry.pings_checkTimeoutsOf]
        split_ifs <;> rfl
      · rw [List.append_nil]
        exact Outstanding.items_retain _ _

/-- Every ping is among those that are over or those that wait, the pings are numbered in order,
and none is replaced before the numbers have been through. -/
structure Accounted (s : Prober) : Prop where
  seq : s.nextPingSeq = UInt32.ofNat s.sent.length
  numbers : s.sent.map Probe.seq = (List.range s.sent.length).map UInt32.ofNat
  balance : ∀ p, (probesTo p s.sent).Perm (probesTo p s.ended ++ s.pending p)
  replaced : ∀ x ∈ s.settled, x.outcome = .replaced → 2 ^ 32 < s.sent.length

lemma accounted_start (e : Edge) : Accounted (start e) where
  seq := rfl
  numbers := rfl
  balance := fun _ => .refl _
  replaced := by simp [start]

lemma Accounted.balance_step (hs : Accounted s) (h : PingStep s s') (p : NodeId) :
    (probesTo p s'.sent).Perm (probesTo p s'.ended ++ s'.pending p) := by
  obtain ⟨new, moved, hsent, hended, hstep⟩ := h.account
  rw [hsent, hended, probesTo_append, probesTo_append, List.append_assoc]
  refine ((hs.balance p).append_right _).trans ?_
  rw [List.append_assoc]
  exact (hstep p).append_left _

/-- A ping that waits was sent. -/
lemma Accounted.mem_sent (hs : Accounted s) {p : NodeId} {x : Probe} (hx : x ∈ s.pending p) :
    x ∈ s.sent :=
  (List.mem_filter.mp ((hs.balance p).mem_iff.mpr (List.mem_append_right _ hx))).1

/-- A number that comes up again. -/
lemma Accounted.seq_repeats (hs : Accounted s) {x : Probe} (hx : x ∈ s.sent)
    (hseq : x.seq = s.nextPingSeq) : 2 ^ 32 ≤ s.sent.length := by
  have hmem : x.seq ∈ (List.range s.sent.length).map UInt32.ofNat :=
    hs.numbers ▸ List.mem_map_of_mem hx
  obtain ⟨i, hi, hix⟩ := List.mem_map.mp hmem
  have hmod : i % 2 ^ 32 = s.sent.length % 2 ^ 32 := by
    rw [← UInt32.toNat_ofNat', ← UInt32.toNat_ofNat', hix, hseq, hs.seq]
  have hlt := List.mem_range.mp hi
  by_contra hshort
  rw [Nat.mod_eq_of_lt (by omega), Nat.mod_eq_of_lt (by omega)] at hmod
  omega

/-- What an ending says of the table before it. -/
lemma mem_ending {peer : NodeId} {seq : UInt32} {outcome : PingOutcome} {time : Instant}
    {x : Settled} (hx : x ∈ s.ending peer seq outcome time) :
    x.probe ∈ s.pending peer ∧ x.probe.seq = seq ∧ x.outcome = outcome ∧ x.time = time ∧
      x.checkedAt = s.checkedAt := by
  obtain ⟨⟨k, ping⟩, hmem, rfl⟩ := List.mem_map.mp hx
  obtain ⟨rfl, hlook⟩ := Outstanding.mem_entry.mp hmem
  exact ⟨List.mem_map_of_mem (Outstanding.mem_items.mpr hlook), rfl, rfl, rfl, rfl⟩

lemma peer_of_mem_ending {peer : NodeId} {seq : UInt32} {outcome : PingOutcome} {time : Instant}
    {x : Settled} (hx : x ∈ s.ending peer seq outcome time) : x.probe.peer = peer := by
  obtain ⟨y, -, rfl⟩ := List.mem_map.mp hx
  rfl

lemma Accounted.pingStep (hs : Accounted s) (h : PingStep s s') : Accounted s' := by
  have hbalance := hs.balance_step h
  cases h with
  | idle pings seq sent settled =>
      exact ⟨by rw [seq, sent, hs.seq], by rw [sent, hs.numbers], hbalance,
        by rw [settled, sent]; exact hs.replaced⟩
  | recorded now peer ping sentAt registry seq sent settled =>
      have hlen : s'.sent.length = s.sent.length + 1 := by simp [sent]
      refine ⟨?_, ?_, hbalance, ?_⟩
      · rw [seq, hs.seq, hlen, UInt32.ofNat_add]
        rfl
      · rw [hlen, List.range_succ, List.map_append, ← hs.numbers, sent, List.map_append]
        simp [Probe.of, hs.seq]
      · intro x hx hout
        rw [settled, List.mem_append] at hx
        rw [hlen]
        rcases hx with hx | hx
        · exact Nat.lt_succ_of_lt (hs.replaced x hx hout)
        · obtain ⟨hpending, hseq, -⟩ := mem_ending hx
          exact Nat.lt_succ_of_le (hs.seq_repeats (hs.mem_sent hpending) hseq)
  | answered now peer seq registry nextSeq sent settled =>
      refine ⟨by rw [nextSeq, sent, hs.seq], by rw [sent, hs.numbers], hbalance, ?_⟩
      intro x hx hout
      rw [settled, List.mem_append] at hx
      rw [sent]
      rcases hx with hx | hx
      · exact hs.replaced x hx hout
      · exact absurd ((mem_ending hx).2.2.1.symm.trans hout) nofun
  | checked time peer registry seq sent settled =>
      refine ⟨by rw [seq, sent, hs.seq], by rw [sent, hs.numbers], hbalance, ?_⟩
      intro x hx hout
      rw [settled, List.mem_append] at hx
      rw [sent]
      rcases hx with hx | hx
      · exact hs.replaced x hx hout
      · obtain ⟨y, -, rfl⟩ := List.mem_map.mp hx
        exact absurd hout nofun

lemma accounted_run (P : Platform) (e : Edge) (is : List ProberInput) :
    Accounted (run (step P) (start e) is) :=
  invariant_forall (fun _ _ hs => hs.pingStep (step_pingStep _ _)) is _ (accounted_start e)

lemma Accounted.nodup_sent (hs : Accounted s) (hlen : s.sent.length ≤ 2 ^ 32) : s.sent.Nodup := by
  refine List.Nodup.of_map Probe.seq ?_
  rw [hs.numbers]
  refine List.Nodup.map_on (fun i hi j hj hij => ?_) List.nodup_range
  rw [List.mem_range] at hi hj
  have hmod : i % 2 ^ 32 = j % 2 ^ 32 := by
    rw [← UInt32.toNat_ofNat', ← UInt32.toNat_ofNat', hij]
  rwa [Nat.mod_eq_of_lt (by omega), Nat.mod_eq_of_lt (by omega)] at hmod

/-- **A ping ends once.**  In every run of an edge and its ping loop that sends no more pings than
there are numbers, whatever arrives and however often: a ping is answered or given up at most once,
none is forgotten in another way, and those to a peer that are not over wait in the registry. -/
theorem pings_settled_once (P : Platform) (e : Edge) (is : List ProberInput)
    (hlen : (run (step P) (start e) is).sent.length ≤ 2 ^ 32) :
    let s := run (step P) (start e) is
    (s.settled.map Settled.probe).Nodup ∧ (∀ x ∈ s.settled, x.outcome ≠ .replaced) ∧
      ∀ p, (probesTo p s.sent).Perm (probesTo p (s.settled.map Settled.probe) ++ s.pending p) := by
  intro s
  have hs : Accounted s := accounted_run P e is
  have hnodup := hs.nodup_sent hlen
  have hto : ∀ p, (probesTo p s.ended).Nodup := by
    intro p
    have hsplit := (hs.balance p).nodup_iff.mp (hnodup.filter _)
    exact (List.nodup_append.mp hsplit).1
  refine ⟨?_, fun x hx hout => ?_, hs.balance⟩
  · rw [List.nodup_iff_count_le_one]
    intro x
    have hcount := List.nodup_iff_count_le_one.mp (hto x.peer) x
    rwa [probesTo, List.count_filter (by simp)] at hcount
  · exact absurd hlen (not_le.mpr (hs.replaced x hx hout))

/-- The pong of node 2 to the first ping of node 1. -/
def samplePong : DataHeader where
  version := protocolVersion
  flags := 0
  packetType := .pong
  reserved := 0
  ttl := 0
  roomId := .fill 7
  srcNode := .fill 2
  dstNode := .fill 1
  originNode := .fill 2
  sessionId := ⟨0⟩
  nonce := 1
  packetId := ⟨0⟩
  payloadLen := 4

/-- Node 1 meets node 2 in a room and sends it a ping, which is answered twice. -/
def sampleProbing : List ProberInput :=
  let pong (now : Instant) : ProberInput :=
    .edge (.data samplePong [0, 0, 0, 0] (.localhost 9)
      { now, pongSend := .sent, pongReceived := none, tunWriteOk := true })
  [.edge (Edge.announce 2), .edge Edge.enterRoom, .turn 1 .sent, .turn 1 .sent, .turn 1 .sent,
    .turn 1 .sent, .turn 1 .sent, .turn 1 .sent, pong 5000001, pong 9000001]

/-- The second pong finds nothing to answer. -/
theorem pings_settled_once_sample :
    let s := run (step .transparent) (start (.sample 1)) sampleProbing
    s.settled.map Settled.outcome = [.answered] ∧ s.sent.length ≤ 2 ^ 32 ∧
      (s.settled.map Settled.probe).Nodup := by
  have hlen : (run (step .transparent) (start (.sample 1)) sampleProbing).sent.length ≤ 2 ^ 32 := by
    decide +kernel
  exact ⟨by decide +kernel, hlen,
    (pings_settled_once .transparent (.sample 1) sampleProbing hlen).1⟩

/-! ## What is reported of a peer -/

/-- Whether a ping that ended counts for the window, and as what. -/
def windowBits (x : Settled) : List Bool :=
  if x.probe.ping.isActive then
    match x.outcome with
    | .answered => [true]
    | .timedOut => [false]
    | .replaced => []
  else []

/-- The round trip time of the last ping that was answered. -/
def lastRttOf (l : List Settled) : Option UInt32 :=
  (l.filter fun x => x.outcome = .answered).getLast?.map fun x =>
    asMillisU32 (x.time - x.probe.ping.sentAt)

/-- The endings of pings to `p`. -/
def settledOf (s : Prober) (p : NodeId) : List Settled :=
  s.settled.filter fun x => x.probe.peer = p

/-- The outcomes of the pings to `p` along paths that were active, in the order they ended in. -/
def outcomes (s : Prober) (p : NodeId) : List Bool := (s.settledOf p).flatMap windowBits

lemma lastRttOf_append (l l' : List Settled) :
    lastRttOf (l ++ l') = (lastRttOf l').or (lastRttOf l) := by
  rw [lastRttOf, List.filter_append, List.getLast?_append, Option.map_or]
  rfl

lemma lastRttOf_eq_none {l : List Settled} (h : ∀ x ∈ l, x.outcome ≠ .answered) :
    lastRttOf l = none := by
  have hnil : (l.filter fun x => x.outcome = .answered) = [] := by
    simpa [List.filter_eq_nil_iff] using h
  rw [lastRttOf, hnil]
  rfl

/-- The window of a peer holds its last outcomes, and its round trip time is the last one. -/
structure Reported (s : Prober) : Prop where
  window : ∀ p, (s.registry.pings p).2.1 = (s.outcomes p).rtake MetricsRegistry.pingWindowSize
  rtt : ∀ p, (s.registry.pings p).2.2 = lastRttOf (s.settledOf p)

lemma reported_start (e : Edge) : Reported (start e) := ⟨fun _ => rfl, fun _ => rfl⟩

/-- Pings to `peer` end and are counted. -/
lemma Reported.settle (hs : Reported s) (peer : NodeId) {new : List Settled}
    (hnew : ∀ x ∈ new, x.probe.peer = peer) (hsettled : s'.settled = s.settled ++ new)
    (hother : ∀ p, p ≠ peer → (s'.registry.pings p).2 = (s.registry.pings p).2)
    (hwindow : (s'.registry.pings peer).2.1 = (new.flatMap windowBits).foldl
      (Outstanding.push MetricsRegistry.pingWindowSize) (s.registry.pings peer).2.1)
    (hrtt : (s'.registry.pings peer).2.2 = (lastRttOf new).or (s.registry.pings peer).2.2) :
    Reported s' := by
  have hof : ∀ p, s'.settledOf p = s.settledOf p ++ if p = peer then new else [] := by
    intro p
    rw [settledOf, hsettled, List.filter_append, settledOf]
    congr 1
    split_ifs with hp
    · rw [List.filter_eq_self]
      simpa [hp] using hnew
    · rw [List.filter_eq_nil_iff]
      intro x hx
      simpa [hnew x hx] using Ne.symm hp
  constructor
  · intro p
    rw [outcomes, hof, List.flatMap_append]
    split_ifs with hp
    · rw [hp, hwindow, hs.window, Outstanding.foldl_push]
      rfl
    · rw [hother p hp, hs.window, List.flatMap_nil, List.append_nil]
      rfl
  · intro p
    rw [hof]
    split_ifs with hp
    · rw [lastRttOf_append, hp, hrtt, hs.rtt]
    · rw [hother p hp, hs.rtt, List.append_nil]

/-- One outcome of a ping, along an active path or not. -/
lemma windowAfter_eq (window : List Bool) (isActive success : Bool) :
    MetricsRegistry.windowAfter window isActive success =
      (if isActive then [success] else []).foldl
        (Outstanding.push MetricsRegistry.pingWindowSize) window := by
  unfold MetricsRegistry.windowAfter
  cases isActive <;> rfl

lemma Reported.pingStep (hs : Reported s) (h : PingStep s s') : Reported s' := by
  cases h with
  | idle pings seq sent settled =>
      exact ⟨fun p => by rw [pings, hs.window, outcomes, outcomes, settledOf, settledOf, settled],
        fun p => by rw [pings, hs.rtt, settledOf, settledOf, settled]⟩
  | recorded now peer ping sentAt registry seq sent settled =>
      have hrest : ∀ p, (s'.registry.pings p).2 = (s.registry.pings p).2 := by
        intro p
        rw [registry, MetricsRegistry.pings_recordPingSent]
        split_ifs with hp
        · rw [hp]
        · rfl
      have hnone : ∀ x ∈ s.ending peer s.nextPingSeq .replaced now, windowBits x = [] := by
        intro x hx
        rw [windowBits, (mem_ending hx).2.2.1]
        split_ifs <;> rfl
      have hunanswered : ∀ x ∈ s.ending peer s.nextPingSeq .replaced now,
          x.outcome ≠ .answered := by
        intro x hx
        rw [(mem_ending hx).2.2.1]
        decide
      refine hs.settle peer (fun x hx => peer_of_mem_ending hx) settled (fun p _ => hrest p) ?_ ?_
      · rw [hrest, List.flatMap_eq_nil_iff.mpr hnone]
        rfl
      · rw [hrest, lastRttOf_eq_none hunanswered]
        rfl
  | answered now peer seq registry nextSeq sent settled =>
      have hpings := s.registry.pings_recordPongReceived now peer seq
      refine hs.settle peer (fun x hx => peer_of_mem_ending hx) settled (fun p hp => ?_) ?_ ?_
      · rw [registry, hpings, if_neg hp]
      · rw [registry, hpings, if_pos rfl, ending, Outstanding.entry]
        cases (s.registry.pings peer).1.lookup seq with
        | some ping =>
            simp only [windowAfter_eq]
            simp [windowBits, Probe.of]
        | none => rfl
      · rw [registry, hpings, if_pos rfl, ending, Outstanding.entry]
        cases (s.registry.pings peer).1.lookup seq with
        | some ping => rfl
        | none => rfl
  | checked time peer registry seq sent settled =>
      have hpings := s.registry.pings_checkTimeoutsOf pingTimeout time peer
      refine hs.settle peer ?_ settled (fun p hp => ?_) ?_ ?_
      · rw [List.forall_mem_map]
        exact fun _ _ => rfl
      · rw [registry, hpings, if_neg hp]
      · rw [registry, hpings, if_pos rfl, List.flatMap_map, List.foldl_flatMap]
        simp only [windowAfter_eq]
        rfl
      · rw [registry, hpings, if_pos rfl, lastRttOf_eq_none]
        · rfl
        · rw [List.forall_mem_map]
          intro _ _
          show PingOutcome.timedOut ≠ .answered
          decide

/-- **The reports are those of the last pings.**  In every run, the loss rate reported of a peer is
the share of failures among the last twenty outcomes of pings along its active path, or among all
if there are fewer; the round trip time is that of the last ping that was answered, along any
path. -/
theorem peer_reports_recent (P : Platform) (e : Edge) (is : List ProberInput) :
    let s := run (step P) (start e) is
    ∀ x ∈ s.registry.peerReports,
      x.packetLossRate = MetricsRegistry.lossRate ((s.outcomes x.peer).rtake 20) ∧
      x.lastRttMs = lastRttOf (s.settledOf x.peer) := by
  intro s x hx
  have hs : Reported s :=
    invariant_forall (fun _ _ hs => hs.pingStep (step_pingStep _ _)) is _ (reported_start e)
  have hreport := MetricsRegistry.mem_peerReports hx
  constructor
  · rw [hreport]
    exact congrArg MetricsRegistry.lossRate (hs.window x.peer)
  · rw [hreport]
    exact hs.rtt x.peer

/-! ## Timeouts -/

/-- The clock that the loop reads does not run backwards. -/
def Forward (s : Prober) : ProberInput → Prop
  | .turn now _ => s.clock ≤ now
  | .edge _ | .mark _ => True

/-- What waits was at most two seconds old at the last check, and in a check that is under way so
is what waits for the peers it is done with; what was answered was so as well, and what was given
up was older. -/
structure Fresh (s : Prober) : Prop where
  clock : s.checkedAt ≤ s.clock
  waiting : ∀ p, ∀ x ∈ s.pending p, s.checkedAt ≤ x.ping.sentAt + pingTimeout
  checking : ∀ time left timedOut, s.loop = .checking time left timedOut → time ≤ s.clock ∧
    ∀ p ∉ left, ∀ x ∈ s.pending p, time ≤ x.ping.sentAt + pingTimeout
  answered : ∀ x ∈ s.settled, x.outcome = .answered →
    x.checkedAt ≤ x.probe.ping.sentAt + pingTimeout
  timedOut : ∀ x ∈ s.settled, x.outcome = .timedOut → x.probe.ping.sentAt + pingTimeout < x.time

lemma fresh_start (e : Edge) : Fresh (start e) where
  clock := le_refl _
  waiting := fun _ _ hx => absurd hx List.not_mem_nil
  checking := nofun
  answered := by simp [start]
  timedOut := by simp [start]

lemma pending_congr {p : NodeId} (h : s'.registry.pings p = s.registry.pings p) :
    s'.pending p = s.pending p := by
  rw [pending, pending, h]

/-- A step that records no ping leaves no more that wait. -/
lemma PingStep.pending_subset (h : PingStep s s') (hsent : s'.sent = s.sent) (p : NodeId) :
    ∀ x ∈ s'.pending p, x ∈ s.pending p := by
  obtain ⟨new, moved, hnew, -, hperm⟩ := h.account
  obtain rfl : new = [] := by simpa [hsent] using hnew
  intro x hx
  have hmem := (hperm p).mem_iff.mpr (List.mem_append_right _ hx)
  simpa [probesTo] using hmem

/-- Receiving leaves the loop alone. -/
lemma Fresh.receive (hs : Fresh s) (h : DataHeader) (payload : Bytes) (addr : SocketAddr)
    (io : IncomingIo) : Fresh (s.receive P h payload addr io) := by
  have hstep := receive_pingStep (P := P) (s := s) h payload addr io
  revert hstep
  unfold Prober.receive
  split
  · intro hstep
    have hsub := hstep.pending_subset rfl
    refine ⟨hs.clock, fun p x hx => hs.waiting p x (hsub p x hx), ?_, ?_, ?_⟩
    · intro time left timedOut hloop
      obtain ⟨htime, hdone⟩ := hs.checking time left timedOut hloop
      exact ⟨htime, fun p hp x hx => hdone p hp x (hsub p x hx)⟩
    · intro x hx hout
      rcases List.mem_append.mp hx with hx | hx
      · exact hs.answered x hx hout
      · obtain ⟨hpending, -, -, -, hchecked⟩ := mem_ending hx
        rw [hchecked]
        exact hs.waiting h.srcNode x.probe hpending
    · intro x hx hout
      rcases List.mem_append.mp hx with hx | hx
      · exact hs.timedOut x hx hout
      · exact absurd ((mem_ending hx).2.2.1.symm.trans hout) nofun
  · intro _
    exact ⟨hs.clock, hs.waiting, hs.checking, hs.answered, hs.timedOut⟩

/-- A turn that does nothing to the pings. -/
lemma Fresh.idle (hs : Fresh s) (hpings : ∀ p, s'.registry.pings p = s.registry.pings p)
    (hsettled : s'.settled = s.settled) (hchecked : s'.checkedAt = s.checkedAt)
    (hclock : s.clock ≤ s'.clock)
    (hloop : ∀ time left timedOut, s'.loop ≠ .checking time left timedOut) : Fresh s' where
  clock := hchecked ▸ hs.clock.trans hclock
  waiting := by
    intro p x hx
    rw [pending_congr (hpings p)] at hx
    rw [hchecked]
    exact hs.waiting p x hx
  checking := fun time left timedOut h => absurd h (hloop time left timedOut)
  answered := hsettled ▸ hs.answered
  timedOut := hsettled ▸ hs.timedOut

/-- A check begins: there are no pings to a peer the registry does not have. -/
lemma pending_eq_nil {p : NodeId} (hp : p ∉ s.registry.peers.keys) : s.pending p = [] := by
  have hlook : s.registry.peers.lookup p = none :=
    AList.lookup_eq_none.mpr fun hmem => hp (AList.mem_keys.mp hmem)
  rw [pending, MetricsRegistry.pings, MetricsRegistry.counters, hlook]
  rfl

/-- What `check_ping_timeouts` leaves of the pings to a peer. -/
lemma pending_checkPeer (time : Instant) (peer p : NodeId) (left : List NodeId)
    (timedOut : List (NodeId × SocketAddr)) :
    ∀ x ∈ (s.checkPeer time peer left timedOut).pending p,
      x ∈ s.pending p ∧ (p = peer → time ≤ x.ping.sentAt + pingTimeout) := by
  intro x hx
  have hstep : PingStep s (s.checkPeer time peer left timedOut) :=
    .checked time peer rfl rfl rfl rfl
  refine ⟨hstep.pending_subset rfl p x hx, ?_⟩
  rintro rfl
  rw [pending, checkPeer, MetricsRegistry.pings_checkTimeoutsOf, if_pos rfl] at hx
  obtain ⟨⟨k, ping⟩, hy, rfl⟩ := List.mem_map.mp hx
  rw [Outstanding.mem_items, KeyMap.lookup_retain, Option.filter_eq_some_iff] at hy
  have hyoung : ¬ pingTimeout < time - ping.sentAt := by
    simpa [MetricsRegistry.isTimedOut] using hy.2
  exact tsub_le_iff_left.mp (not_lt.mp hyoung)

lemma Fresh.checkPeer (hs : Fresh s) {time now : Instant} {peer : NodeId} {left : List NodeId}
    {timedOut : List (NodeId × SocketAddr)}
    (hloop : s.loop = .checking time (peer :: left) timedOut) (hnow : s.clock ≤ now) :
    Fresh { s.checkPeer time peer left timedOut with clock := now } := by
  obtain ⟨htime, hdone⟩ := hs.checking _ _ _ hloop
  have hleft := fun p => pending_checkPeer (s := s) time peer p left timedOut
  refine ⟨hs.clock.trans hnow, fun p x hx => hs.waiting p x (hleft p x hx).1, ?_, ?_, ?_⟩
  · intro time' left' timedOut' hloop'
    obtain ⟨rfl, rfl, -⟩ := PingLoop.checking.inj hloop'
    refine ⟨htime.trans hnow, fun p hp x hx => ?_⟩
    by_cases hpeer : p = peer
    · exact (hleft p x hx).2 hpeer
    · exact hdone p (by simp [hpeer, hp]) x (hleft p x hx).1
  · intro x hx hout
    rcases List.mem_append.mp hx with hx | hx
    · exact hs.answered x hx hout
    · obtain ⟨y, -, rfl⟩ := List.mem_map.mp hx
      exact absurd hout nofun
  · intro x hx hout
    rcases List.mem_append.mp hx with hx | hx
    · exact hs.timedOut x hx hout
    · obtain ⟨y, hy, rfl⟩ := List.mem_map.mp hx
      have hold : pingTimeout < time - y.2.sentAt := by
        simpa [MetricsRegistry.isTimedOut] using (List.mem_filter.mp hy).2
      exact lt_tsub_iff_left.mp hold

lemma Fresh.recordPing (hs : Fresh s) {now : Instant} (hnow : s.clock ≤ now) (r : PeerRef)
    (active : SocketAddr) (path : PathInfo) (paths : List PathInfo) (peers : List PeerRef) :
    Fresh { s.recordPing now r active path paths peers with clock := now } := by
  refine ⟨hs.clock.trans hnow, fun p x hx => ?_, nofun, ?_, ?_⟩
  · rw [pending, Prober.recordPing, MetricsRegistry.pings_recordPingSent] at hx
    split_ifs at hx with hp
    · subst hp
      obtain ⟨⟨k, ping⟩, hy, rfl⟩ := List.mem_map.mp hx
      rw [Outstanding.mem_items, KeyMap.lookup_insert_eq] at hy
      split_ifs at hy
      · obtain rfl := Option.some.inj hy
        exact (hs.clock.trans hnow).trans (Nat.le_add_right _ _)
      · exact hs.waiting _ _ (List.mem_map_of_mem (Outstanding.mem_items.mpr hy))
    · exact hs.waiting p x hx
  · intro x hx hout
    rcases List.mem_append.mp hx with hx | hx
    · exact hs.answered x hx hout
    · exact absurd ((mem_ending hx).2.2.1.symm.trans hout) nofun
  · intro x hx hout
    rcases List.mem_append.mp hx with hx | hx
    · exact hs.timedOut x hx hout
    · exact absurd ((mem_ending hx).2.2.1.symm.trans hout) nofun

lemma Fresh.turn (hs : Fresh s) {now : Instant} (hnow : s.clock ≤ now) (net : NetAnswer) :
    Fresh { s.turn P now net with clock := now } := by
  unfold Prober.turn
  split
  · next hloop =>
    split_ifs
    · exact hs.idle (fun _ => rfl) rfl rfl hnow (by rw [hloop]; exact nofun)
    · refine ⟨hs.clock.trans hnow, hs.waiting, ?_, hs.answered, hs.timedOut⟩
      intro time left timedOut hchecking
      obtain ⟨rfl, rfl, -⟩ := PingLoop.checking.inj hchecking
      refine ⟨le_refl _, fun p hp x hx => ?_⟩
      have hnil : s.pending p = [] := pending_eq_nil hp
      exact absurd (hnil ▸ hx) List.not_mem_nil
  · next hloop => exact hs.checkPeer hloop hnow
  · next hloop =>
    obtain ⟨htime, hdone⟩ := hs.checking _ _ _ hloop
    exact ⟨htime.trans hnow, fun p => hdone p List.not_mem_nil, nofun, hs.answered, hs.timedOut⟩
  · exact hs.idle (fun _ => rfl) rfl rfl hnow nofun
  · exact hs.idle (fun _ => rfl) rfl rfl hnow nofun
  · exact hs.idle (fun _ => rfl) rfl rfl hnow nofun
  · exact hs.idle (fun _ => rfl) rfl rfl hnow nofun
  · exact hs.recordPing hnow _ _ _ _ _
  · exact hs.idle (fun _ => rfl) rfl rfl hnow nofun
  · exact hs.idle (fun _ => rfl) rfl rfl hnow nofun

lemma Fresh.step (hs : Fresh s) {input : ProberInput} (hinput : s.Forward input) :
    Fresh (s.step P input) := by
  cases input with
  | edge input =>
      cases input with
      | data h payload addr io => exact hs.receive h payload addr io
      | _ => exact ⟨hs.clock, hs.waiting, hs.checking, hs.answered, hs.timedOut⟩
  | turn now net => exact hs.turn hinput net
  | mark call =>
      have hpending : ∀ p, (s.step P (.mark call)).pending p = s.pending p :=
        fun p => pending_congr (s.registry.mark_pings call p)
      refine ⟨hs.clock, fun p x hx => hs.waiting p x ?_, fun time left timedOut hloop => ?_,
        hs.answered, hs.timedOut⟩
      · rwa [← hpending p]
      · obtain ⟨htime, hdone⟩ := hs.checking time left timedOut hloop
        refine ⟨htime, fun p hp x hx => hdone p hp x ?_⟩
        rwa [← hpending p]

/-- **Timeouts are kept.**  In every run in which the clock of the ping loop does not run backwards:
a ping that was given up was more than two seconds old then, one that was answered had been at most
two seconds old at the last check before, and so had every one that still waits. -/
theorem pings_time_out (P : Platform) (e : Edge) (is : List ProberInput)
    (hclock : Along (step P) Forward (start e) is) :
    let s := run (step P) (start e) is
    (∀ x ∈ s.settled, x.outcome = .timedOut → x.probe.ping.sentAt + fromSecs 2 < x.time) ∧
    (∀ x ∈ s.settled, x.outcome = .answered →
      x.checkedAt ≤ x.probe.ping.sentAt + fromSecs 2) ∧
    ∀ p, ∀ x ∈ s.pending p, s.checkedAt ≤ x.ping.sentAt + fromSecs 2 := by
  intro s
  have hs : Fresh s := invariant (fun _ _ hs hi => hs.step hi) is _ (fresh_start e) hclock
  exact ⟨hs.timedOut, hs.answered, hs.waiting⟩

instance (s : Prober) (input : ProberInput) : Decidable (s.Forward input) :=
  match input with
  | .turn now _ => inferInstanceAs (Decidable (s.clock ≤ now))
  | .edge _ | .mark _ => isTrue trivial

theorem pings_time_out_sample :
    Along (step .transparent) Forward (start (.sample 1)) sampleProbing ∧
      ∀ x ∈ (run (step .transparent) (start (.sample 1)) sampleProbing).settled,
        x.outcome = .answered → x.checkedAt ≤ x.probe.ping.sentAt + fromSecs 2 := by
  have hclock : Along (step .transparent) Forward (start (.sample 1)) sampleProbing := by
    decide +kernel
  exact ⟨hclock, (pings_time_out .transparent (.sample 1) sampleProbing hclock).2.1⟩

end Prober

end R2N
