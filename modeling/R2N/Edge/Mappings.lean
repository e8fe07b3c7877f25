import R2N.Edge.PortMapping

/-!
# Advertising the mapped address

`Edge::run` refreshes the port mapping once, collects its candidates, registers with those and the
mapped one, and only then starts the task that follows the manager's updates: it waits for a new
snapshot, shows it in the runtime state, merges it into the candidates and, if they have changed,
registers again.  The manager goes on renewing the mapping all the while.  A registration may fail
to be sent: the first one then ends `run`, a later one is not tried again.

* `Mappings`, `Mappings.step` — the manager, the start of `run` and the task, a step for each part
  between two of its waits.
* `Renewals.step_updates` — what the manager publishes, and when.
* `Subscribed` — no refresh ends between the first one and the task's subscription: what is
  published then has no receiver.
* **`advertised_follows_mapping`** — whenever the task has nothing new to read, the candidates, the
  last registration that was tried and the runtime state are those of the mapping that is held.
-/

namespace R2N

open Run

/-- What `apply_port_mapping_snapshot` writes to the runtime state and to the metrics. -/
structure PortMappingStatus where
  acquired : Bool
  protocol : Option String
  externalAddr : Option SocketAddr
  leaseExpiresAt : Option Instant
deriving DecidableEq

/-- `apply_port_mapping_snapshot`. -/
def LeasedSnapshot.status (snapshot : LeasedSnapshot) (now : Instant) : PortMappingStatus where
  acquired := snapshot.acquired
  protocol := snapshot.protocol.map PortMappingProtocol.label
  externalAddr := snapshot.externalAddr
  leaseExpiresAt := snapshot.leaseRemaining.map fun lease => now + lease

/-- `preferred_external_addr`: the mapped address, or else the first public one. -/
def preferredExternalAddr (publicAddrs : List SocketAddr) (candidates : List Candidate) :
    Option SocketAddr :=
  ((candidates.find? fun c => c.source = .portMapping).map Candidate.addr).or publicAddrs.head?

/-- The fields of a `RegisterNode` frame that depend on the candidates. -/
structure Registration where
  externalAddr : Option SocketAddr
  candidates : List Candidate
deriving DecidableEq

def Registration.of (publicAddrs : List SocketAddr) (candidates : List Candidate) :
    Registration where
  externalAddr := preferredExternalAddr publicAddrs candidates
  candidates

/-- Where the task is that follows the updates. -/
inductive UpdatePhase where
  | waiting
  | woken
  | applying (snapshot : LeasedSnapshot)
  | merging (snapshot : LeasedSnapshot)
  | registering (merged : List Candidate)

/-- Where `run` is: in the first refresh, collecting candidates, past the first registration, past
the start of the task, or at its end because the first registration failed. -/
inductive UpdateTask where
  | mapping
  | probing (initial : LeasedSnapshot)
  | registered (initial : LeasedSnapshot)
  | following (updates : Watch.Receiver) (phase : UpdatePhase)
  | ended

/-- The manager, and what `run` and its task keep.  `tried` is history: the registrations that were
handed to the transport, and what it did with them. -/
structure Mappings where
  renewals : Renewals
  base : List Candidate
  publicAddrs : List SocketAddr
  advertised : List Candidate
  status : PortMappingStatus
  tried : List (Registration × NetAnswer)
  task : UpdateTask

inductive MappingEvent where
  | renewal (e : RenewalEvent)
  | probed (base : List Candidate) (publicAddrs : List SocketAddr) (net : NetAnswer)
  | subscribe
  | changed
  | borrow
  | apply
  | merge
  | register (net : NetAnswer)

/-- A step ends a refresh. -/
def Renewals.ends (s : Renewals) (e : RenewalEvent) : Bool :=
  match s.task, (s.step e).task with
  | .trying _ _ _, .sleeping _ => true
  | _, _ => false

namespace Mappings

/-- `run` at the beginning of the first refresh. -/
def start (now : Instant) (localPort : UInt16) : Mappings where
  renewals := .start now localPort
  base := []
  publicAddrs := []
  advertised := []
  status := LeasedSnapshot.status .default now
  tried := []
  task := .mapping

/-- A registration is handed to the transport. -/
def register (s : Mappings) (candidates : List Candidate) (net : NetAnswer) : Mappings :=
  { s with tried := s.tried ++ [(.of s.publicAddrs candidates, net)] }

/-- The registrations that have left. -/
def sent (s : Mappings) : List Registration :=
  (s.tried.filter fun attempt => attempt.2 = .sent).map Prod.fst

def step (s : Mappings) : MappingEvent → Mappings
  | .renewal e =>
      let renewals := s.renewals.step e
      match s.task with
      | .mapping =>
          if s.renewals.ends e then
            let initial := snapshotOf renewals.active renewals.now
            { s with renewals, status := initial.status renewals.now, task := .probing initial }
          else { s with renewals }
      | _ => { s with renewals }
  | .probed base publicAddrs net =>
      match s.task with
      | .probing initial =>
          let localCandidates := mergeMappedCandidate base initial.toPortMappingSnapshot
          let task := if net = .failed then .ended else .registered initial
          { s with base, publicAddrs, advertised := localCandidates, task }
            |>.register localCandidates net
      | _ => s
  | .subscribe =>
      match s.task with
      | .registered _ =>
          let (rx, updates) := s.renewals.updates.subscribe
          { s with renewals := { s.renewals with updates }, task := .following rx .waiting }
      | _ => s
  | .changed =>
      match s.task with
      | .following rx .waiting =>
          if s.renewals.updates.hasChanged rx then
            { s with task := .following (s.renewals.updates.markSeen rx) .woken }
          else s
      | _ => s
  | .borrow =>
      match s.task with
      | .following rx .woken =>
          { s with task := .following rx (.applying s.renewals.updates.value) }
      | _ => s
  | .apply =>
      match s.task with
      | .following rx (.applying snapshot) =>
          { s with
            status := snapshot.status s.renewals.now
            task := .following rx (.merging snapshot) }
      | _ => s
  | .merge =>
      match s.task with
      | .following rx (.merging snapshot) =>
          let merged := mergeMappedCandidate s.base snapshot.toPortMappingSnapshot
          if s.advertised = merged then { s with task := .following rx .waiting }
          else { s with advertised := merged, task := .following rx (.registering merged) }
      | _ => s
  | .register net =>
      match s.task with
      | .following rx (.registering merged) =>
          { s with task := .following rx .waiting }.register merged net
      | _ => s

end Mappings

/-! ## What the manager publishes -/

namespace Renewals

/-- **Publishing.**  A step that does not end a refresh leaves the mapping and the channel alone;
one that does sends a snapshot of the new mapping. -/
lemma step_updates (s : Renewals) (e : RenewalEvent) :
    if s.ends e then
      (s.step e).updates = s.updates.send (snapshotOf (s.step e).active s.now)
    else (s.step e).updates = s.updates ∧ (s.step e).active = s.active := by
  have hdoes := s.step_does e
  unfold ends
  generalize s.step e = s' at hdoes ⊢
  cases hdoes with
  | elapses d =>
      split_ifs with hends
      · cases htask : s.task <;> simp [htask] at hends
      · exact ⟨rfl, rfl⟩
  | stays =>
      split_ifs with hends
      · cases htask : s.task <;> simp [htask] at hends
      · exact ⟨rfl, rfl⟩
  | begins htask hdue => simp [htask, request]
  | grants htask hgrant => simp [htask, finish]
  | @fails protocol previous deadline _ htask hfail =>
      cases protocol <;> simp [htask, failed, request, finish]

end Renewals

/-- The fields of a snapshot that do not change while the mapping is held. -/
lemma snapshotOf_congr (active : Option ActiveMapping) (t t' : Instant) :
    (snapshotOf active t).toPortMappingSnapshot = (snapshotOf active t').toPortMappingSnapshot ∧
      (snapshotOf active t).protocol = (snapshotOf active t').protocol := by
  cases active <;> exact ⟨rfl, rfl⟩

/-- The runtime state shows a snapshot. -/
structure PortMappingStatus.Shows (status : PortMappingStatus) (snapshot : LeasedSnapshot) :
    Prop where
  acquired : status.acquired = snapshot.acquired
  protocol : status.protocol = snapshot.protocol.map PortMappingProtocol.label
  externalAddr : status.externalAddr = snapshot.externalAddr

lemma LeasedSnapshot.shows_status (snapshot : LeasedSnapshot) (now : Instant) :
    (snapshot.status now).Shows snapshot :=
  ⟨rfl, rfl, rfl⟩

/-! ## The task -/

namespace UpdatePhase

/-- The task as a follower of the channel.  A snapshot counts as handled when it is merged. -/
def follower : UpdatePhase → Watch.Follower LeasedSnapshot
  | .waiting | .registering _ => .waiting
  | .woken => .woken
  | .applying snapshot | .merging snapshot => .holding snapshot

/-- The snapshot that the runtime state shows. -/
def shown (handled : LeasedSnapshot) : UpdatePhase → LeasedSnapshot
  | .merging snapshot => snapshot
  | _ => handled

end UpdatePhase

/-- The first refresh is over, and the task has not subscribed yet. -/
def UpdateTask.isUnsubscribed : UpdateTask → Bool
  | .probing _ | .registered _ => true
  | _ => false

namespace Mappings

/-- The last registration that was tried is the one with the advertised candidates. -/
def LastTried (s : Mappings) : Prop :=
  ∃ net, s.tried.getLast? = some (.of s.publicAddrs s.advertised, net)

/-- The advertised candidates are those of a snapshot, and were to be registered. -/
structure Announced (s : Mappings) (handled : LeasedSnapshot) : Prop where
  advertised : s.advertised = mergeMappedCandidate s.base handled.toPortMappingSnapshot
  tried : s.LastTried

/-- What holds while the task runs, with the snapshot it has handled last: it follows what the
manager has told, and except for a registration that is due everything is up to date with it. -/
structure Following (s : Mappings) (rx : Watch.Receiver) (phase : UpdatePhase) (since : ℕ)
    (handled told : LeasedSnapshot) : Prop where
  follows : Watch.Follows since s.renewals.updates rx phase.follower handled told
  advertised : s.advertised = mergeMappedCandidate s.base handled.toPortMappingSnapshot
  tried : (∀ merged, phase ≠ .registering merged) → s.LastTried
  registering : ∀ merged, phase = .registering merged → merged = s.advertised
  shows : s.status.Shows (phase.shown handled)

/-- The invariant: what was told last is a snapshot of the mapping that is held. -/
def Consistent (s : Mappings) : Prop :=
  match s.task with
  | .mapping | .ended => True
  | .probing initial =>
      (∃ t, initial = snapshotOf s.renewals.active t) ∧ s.status.Shows initial
  | .registered initial =>
      (∃ t, initial = snapshotOf s.renewals.active t) ∧ s.status.Shows initial ∧
        s.Announced initial
  | .following rx phase =>
      ∃ since handled t, s.Following rx phase since handled (snapshotOf s.renewals.active t)

/-- No refresh ends after the first one and before the task has subscribed. -/
def Subscribed (s : Mappings) : MappingEvent → Prop
  | .renewal e => s.task.isUnsubscribed → s.renewals.ends e = false
  | _ => True

instance (s : Mappings) : ∀ e, Decidable (s.Subscribed e)
  | .renewal _ => inferInstanceAs (Decidable (_ → _))
  | .probed _ _ _ | .subscribe | .changed | .borrow | .apply | .merge | .register _ =>
      isTrue trivial

lemma consistent_following {s : Mappings} {rx : Watch.Receiver} {phase : UpdatePhase}
    (htask : s.task = .following rx phase) :
    s.Consistent ↔ ∃ since handled t,
      s.Following rx phase since handled (snapshotOf s.renewals.active t) := by
  unfold Consistent
  rw [htask]

/-- A renewal while the task runs: the channel is as it was, or holds what is told now. -/
lemma Following.renewal {s : Mappings} {rx : Watch.Receiver} {phase : UpdatePhase} {since : ℕ}
    {handled : LeasedSnapshot} {t : Instant}
    (h : s.Following rx phase since handled (snapshotOf s.renewals.active t)) (e : RenewalEvent) :
    ∃ t', Following { s with renewals := s.renewals.step e } rx phase since handled
      (snapshotOf (s.renewals.step e).active t') := by
  have hupdates := s.renewals.step_updates e
  split_ifs at hupdates with hends
  · refine ⟨s.renewals.now, { h with follows := ?_ }⟩
    rw [hupdates]
    exact h.follows.send _
  · refine ⟨t, { h with follows := ?_ }⟩
    rw [hupdates.1, hupdates.2]
    exact h.follows

/-- A step of the manager that no subscriber misses keeps the task up to date with it, or due to
become so. -/
lemma Consistent.renewal {s : Mappings} (h : s.Consistent) {e : RenewalEvent}
    (hsub : s.Subscribed (.renewal e)) : (s.step (.renewal e)).Consistent := by
  have hupdates := s.renewals.step_updates e
  cases htask : s.task with
  | mapping =>
      simp only [Mappings.step, htask]
      split_ifs
      · exact ⟨⟨_, rfl⟩, LeasedSnapshot.shows_status _ _⟩
      · simp [Consistent]
  | probing initial =>
      have hends : s.renewals.ends e = false := hsub (by rw [htask]; rfl)
      rw [if_neg (by simp [hends])] at hupdates
      simpa [Mappings.step, Consistent, htask, hupdates.2] using h
  | registered initial =>
      have hends : s.renewals.ends e = false := hsub (by rw [htask]; rfl)
      rw [if_neg (by simp [hends])] at hupdates
      obtain ⟨htold, hshows, hannounced⟩ : (∃ t, initial = snapshotOf s.renewals.active t) ∧
          s.status.Shows initial ∧ s.Announced initial := by
        simpa [Consistent, htask] using h
      simp only [Mappings.step, Consistent, htask, hupdates.2]
      exact ⟨htold, hshows, ⟨hannounced.advertised, hannounced.tried⟩⟩
  | ended => simp [Mappings.step, Consistent, htask]
  | following rx phase =>
      obtain ⟨since, handled, t, hf⟩ := (consistent_following htask).mp h
      obtain ⟨t', hf'⟩ := hf.renewal e
      have hstep : s.step (.renewal e) = { s with renewals := s.renewals.step e } := by
        simp [Mappings.step, htask]
      rw [hstep]
      exact (consistent_following (s := { s with renewals := s.renewals.step e }) htask).mpr
        ⟨since, handled, t', hf'⟩

/-- A step that leaves no update unheard keeps the task up to date with the manager, or due to
become so. -/
lemma Consistent.step {s : Mappings} (h : s.Consistent) {e : MappingEvent}
    (hsub : s.Subscribed e) : (s.step e).Consistent := by
  cases e with
  | renewal e => exact h.renewal hsub
  | probed base publicAddrs net =>
      simp only [Mappings.step]
      split
      · next initial htask =>
        simp only [Consistent, htask] at h
        split_ifs with hfailed
        · exact trivial
        · exact ⟨h.1, h.2, ⟨rfl, net, List.getLast?_concat⟩⟩
      · exact h
  | subscribe =>
      simp only [Mappings.step]
      split
      · next initial htask =>
        simp only [Consistent, htask] at h
        obtain ⟨⟨t, htold⟩, hshows, hannounced⟩ := h
        refine ⟨s.renewals.updates.version, initial, t, ?_⟩
        exact
          { follows := htold ▸ Watch.follows_subscribe s.renewals.updates initial
            advertised := hannounced.advertised
            tried := fun _ => hannounced.tried
            registering := nofun
            shows := hshows }
      · exact h
  | changed =>
      simp only [Mappings.step]
      split
      · next rx htask =>
        obtain ⟨since, handled, t, hf⟩ := (consistent_following htask).mp h
        split_ifs with hnew
        · exact ⟨since, handled, t, hf.follows.wake hnew, hf.advertised, fun _ => hf.tried nofun,
            nofun, hf.shows⟩
        · exact h
      · exact h
  | borrow =>
      simp only [Mappings.step]
      split
      · next rx htask =>
        obtain ⟨since, handled, t, hf⟩ := (consistent_following htask).mp h
        exact ⟨since, handled, t, hf.follows.read, hf.advertised, fun _ => hf.tried nofun, nofun,
          hf.shows⟩
      · exact h
  | apply =>
      simp only [Mappings.step]
      split
      · next rx snapshot htask =>
        obtain ⟨since, handled, t, hf⟩ := (consistent_following htask).mp h
        exact ⟨since, handled, t, hf.follows, hf.advertised, fun _ => hf.tried nofun, nofun,
          LeasedSnapshot.shows_status _ _⟩
      · exact h
  | merge =>
      simp only [Mappings.step]
      split
      · next rx snapshot htask =>
        obtain ⟨since, handled, t, hf⟩ := (consistent_following htask).mp h
        split_ifs with hsame
        · exact ⟨since, snapshot, t, hf.follows.handle, hsame, fun _ => hf.tried nofun, nofun,
            hf.shows⟩
        · refine ⟨since, snapshot, t, hf.follows.handle, rfl, fun hne => absurd rfl (hne _), ?_,
            hf.shows⟩
          rintro _ ⟨⟩
          rfl
      · exact h
  | register net =>
      simp only [Mappings.step]
      split
      · next rx merged htask =>
        obtain ⟨since, handled, t, hf⟩ := (consistent_following htask).mp h
        refine ⟨since, handled, t, hf.follows, hf.advertised, fun _ => ?_, nofun, hf.shows⟩
        obtain rfl := hf.registering merged rfl
        exact ⟨net, List.getLast?_concat⟩
      · exact h

/-- The task waits and has seen the newest version. -/
def AtRest (s : Mappings) : Prop :=
  ∃ rx, s.task = .following rx .waiting ∧ ¬ s.renewals.updates.hasChanged rx

/-- The last attempt, if the transport sent it, is what was sent last. -/
lemma getLast?_sent {s : Mappings} {registration : Registration}
    (h : s.tried.getLast? = some (registration, .sent)) :
    s.sent.getLast? = some registration := by
  obtain ⟨before, hbefore⟩ := List.getLast?_eq_some_iff.mp h
  rw [sent, hbefore, List.filter_append, List.map_append]
  exact List.getLast?_concat

/-- **The mapped address is advertised.**  If no refresh ends while nothing is subscribed to the
updates, then whenever the task has nothing new to read, the advertised candidates are the base
candidates with the address of the mapping that is held, the runtime state shows that mapping, and
the last registration that was tried has those candidates: if the transport has sent it, it is what
was registered last. -/
theorem advertised_follows_mapping (now : Instant) (localPort : UInt16)
    (events : List MappingEvent) (hsub : Along step Subscribed (start now localPort) events)
    (hrest : (run step (start now localPort) events).AtRest) :
    let s := run step (start now localPort) events
    let held := snapshotOf s.renewals.active s.renewals.now
    s.advertised = mergeMappedCandidate s.base held.toPortMappingSnapshot ∧
      s.status.Shows held ∧
      ∃ net, s.tried.getLast? = some (.of s.publicAddrs s.advertised, net) ∧
        (net = .sent → s.sent.getLast? = some (.of s.publicAddrs s.advertised)) := by
  intro s held
  have hconsistent : s.Consistent :=
    invariant (I := Consistent) (fun _ _ h hi => h.step hi) events _ trivial hsub
  obtain ⟨rx, htask, hseen⟩ := hrest
  obtain ⟨since, handled, t, hf⟩ := (consistent_following htask).mp hconsistent
  obtain rfl := hf.follows.handled_eq hseen
  obtain ⟨hsnapshot, hprotocol⟩ := snapshotOf_congr s.renewals.active t s.renewals.now
  obtain ⟨net, hlast⟩ := hf.tried nofun
  refine ⟨?_, ?_, net, hlast, fun hsent => getLast?_sent (hsent ▸ hlast)⟩
  · rw [hf.advertised, hsnapshot]
  · have hshows := hf.shows
    simp only [UpdatePhase.shown] at hshows
    exact ⟨by rw [hshows.acquired, hsnapshot], by rw [hshows.protocol, hprotocol],
      by rw [hshows.externalAddr, hsnapshot]⟩

/-- A NAT-PMP gateway that maps the port after the one it is asked for. -/
def movingGateway : Gateway where
  upnp := { externalIp := none, addPort := fun _ => false, addAnyPort := none }
  natPmp :=
    { publicAddress := some (.fill 4 9), mapping := fun port => some (port + 1, fromSecs 60) }
  pcp := { available := false, mapping := fun _ => none }

/-- The mapping moves to another port when it is renewed; the task hears of it and registers. -/
def mappingMoves (net : NetAnswer) : List MappingEvent :=
  [.renewal (.answer movingGateway), .renewal (.answer movingGateway),
    .probed [] [.localhost 1] .sent, .subscribe, .renewal (.elapse (fromSecs 30)), .renewal .wake,
    .renewal (.answer movingGateway), .renewal (.answer movingGateway), .changed, .borrow, .apply,
    .merge, .register net]

/-- The second port is advertised.  It is registered if the transport sends the registration;
otherwise the first one stays registered. -/
theorem advertised_follows_mapping_moves :
    (run step (start 0 5) (mappingMoves .sent)).sent.map Registration.externalAddr =
        [some ⟨.v4 (.fill 4 9), 6⟩, some ⟨.v4 (.fill 4 9), 7⟩] ∧
      (run step (start 0 5) (mappingMoves .failed)).sent.map Registration.externalAddr =
        [some ⟨.v4 (.fill 4 9), 6⟩] ∧
      ∀ net, let s := run step (start 0 5) (mappingMoves net)
        let held := snapshotOf s.renewals.active s.renewals.now
        s.advertised = mergeMappedCandidate s.base held.toPortMappingSnapshot ∧
          s.status.Shows held := by
  refine ⟨by decide +kernel, by decide +kernel, fun net => ?_⟩
  have hfollows := advertised_follows_mapping 0 5 (mappingMoves net)
    (by cases net <;> decide +kernel) ⟨⟨1⟩, rfl, by cases net <;> decide +kernel⟩
  exact ⟨hfollows.1, hfollows.2.1⟩

end Mappings

end R2N
