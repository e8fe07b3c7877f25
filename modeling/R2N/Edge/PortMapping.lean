import R2N.Dataplane.Path
import R2N.Edge.Candidates
import R2N.Lib.Run
import R2N.Lib.Watch

/-!
# Port mappings and their renewal

`r2n-nat`'s `PortMappingManager`: a mapping is asked for with UPnP, then with NAT-PMP, then with
PCP, each under a timeout of its own, and the first that grants one wins.  If none does, a mapping
that has not expired is kept.  After each refresh the manager sleeps for half of what is left of the
lease, or less.  Nothing looks at the lease in between, so an expired mapping is held until the next
refresh is over.

* `tryUpnpIgd`, `tryNatPmp`, `tryPcp` — the three requests, with what the gateway answers.
* `Renewals`, `Renewals.step` — the manager and its loop over time: a sleep ends, an attempt is
  answered or times out, time passes.
* `Timely` — no timer fires more than `σ` late.
* **`stale_mapping_bounded`** — whatever the gateway does, a mapping is held for at most eight
  seconds after its lease has expired.
* `neededLease` — 37 seconds and what the lateness of timers adds to them.
* **`mapping_never_lapses`** — as long as timers are timely and every refresh ends with a lease that
  long, the mapping never expires.
-/

namespace R2N

open Run

inductive PortMappingProtocol where
  | upnpIgd
  | natPmp
  | pcp
deriving DecidableEq

def PortMappingProtocol.label : PortMappingProtocol → String
  | .upnpIgd => "UPnP IGD"
  | .natPmp => "NAT-PMP"
  | .pcp => "PCP"

/-- `PortMappingSnapshot` with the fields that `as_candidate` does not read. -/
structure LeasedSnapshot extends PortMappingSnapshot where
  protocol : Option PortMappingProtocol
  leaseRemaining : Option ℕ

/-- `PortMappingSnapshot::default`. -/
def LeasedSnapshot.default : LeasedSnapshot where
  acquired := false
  externalAddr := none
  protocol := none
  leaseRemaining := none

def requestedLeaseSecs : ℕ := 3600

def retryInterval : ℕ := fromSecs 60

def minRenewInterval : ℕ := fromSecs 30

structure ActiveMapping where
  protocol : PortMappingProtocol
  externalAddr : SocketAddr
  expiresAt : Instant
deriving DecidableEq

namespace ActiveMapping

def snapshot (m : ActiveMapping) (now : Instant) : LeasedSnapshot where
  acquired := true
  externalAddr := some m.externalAddr
  protocol := some m.protocol
  leaseRemaining := some (m.expiresAt - now)

def renewalDelay (m : ActiveMapping) (now : Instant) : ℕ :=
  let remaining := m.expiresAt - now
  let half := remaining / 2
  if half < minRenewInterval then min minRenewInterval (max remaining (fromSecs 1)) else half

end ActiveMapping

/-- `PortMappingManager::snapshot`, of the mapping in the manager's state. -/
def snapshotOf (active : Option ActiveMapping) (now : Instant) : LeasedSnapshot :=
  (active.map fun m => m.snapshot now).getD .default

/-! ## The three requests -/

/-- What UPnP gateways answer: the external address, if one is found and asked successfully,
whether a given external port is mapped, and the port that is mapped if any will do. -/
structure UpnpAnswers where
  externalIp : Option IpAddr
  addPort : UInt16 → Bool
  addAnyPort : Option UInt16

/-- What a NAT-PMP gateway answers: its public address, and to a request for a public port the
port it maps and for how long. -/
structure NatPmpAnswers where
  publicAddress : Option (ByteArr 4)
  mapping : UInt16 → Option (UInt16 × ℕ)

/-- What a PCP gateway answers: whether it is there, and to a request with a preferred address the
address, the port and the seconds of the mapping. -/
structure PcpAnswers where
  available : Bool
  mapping : Option (ByteArr 4 × UInt16) → Option (ByteArr 4 × UInt16 × ℕ)

structure Gateway where
  upnp : UpnpAnswers
  natPmp : NatPmpAnswers
  pcp : PcpAnswers

/-- The port to ask for: the one of the last mapping, if it was made with the same protocol. -/
def preferredPort (protocol : PortMappingProtocol) (localPort : UInt16)
    (previous : Option ActiveMapping) : UInt16 :=
  ((previous.filter fun m => m.protocol = protocol).map fun m => m.externalAddr.port).getD localPort

def tryUpnpIgd (localPort : UInt16) (previous : Option ActiveMapping) (now : Instant)
    (ans : UpnpAnswers) : Option ActiveMapping :=
  match ans.externalIp with
  | some (.v4 externalIp) =>
      let port := preferredPort .upnpIgd localPort previous
      let externalPort := if ans.addPort port then some port else ans.addAnyPort
      externalPort.map fun externalPort =>
        { protocol := .upnpIgd
          externalAddr := { ip := .v4 externalIp, port := externalPort }
          expiresAt := now + fromSecs requestedLeaseSecs }
  | _ => none

def tryNatPmp (localPort : UInt16) (previous : Option ActiveMapping) (now : Instant)
    (ans : NatPmpAnswers) : Option ActiveMapping :=
  ans.publicAddress.bind fun externalIp =>
    (ans.mapping (preferredPort .natPmp localPort previous)).map fun (publicPort, lifetime) =>
      { protocol := .natPmp
        externalAddr := { ip := .v4 externalIp, port := publicPort }
        expiresAt := now + lifetime }

/-- The address to ask for, which has to be one of IPv4 with a port. -/
def preferredAddr (previous : Option ActiveMapping) : Option (ByteArr 4 × UInt16) :=
  (previous.filter fun m => m.protocol = .pcp).bind fun m =>
    match m.externalAddr.ip with
    | .v4 ip => if m.externalAddr.port = 0 then none else some (ip, m.externalAddr.port)
    | .v6 _ => none

def tryPcp (previous : Option ActiveMapping) (now : Instant) (ans : PcpAnswers) :
    Option ActiveMapping :=
  if !ans.available then none
  else
    (ans.mapping (preferredAddr previous)).map fun (externalIp, externalPort, lifetimeSeconds) =>
      { protocol := .pcp
        externalAddr := { ip := .v4 externalIp, port := externalPort }
        expiresAt := now + fromSecs lifetimeSeconds }

/-- The request with a protocol. -/
def attempt (localPort : UInt16) (protocol : PortMappingProtocol) (previous : Option ActiveMapping)
    (now : Instant) (g : Gateway) : Option ActiveMapping :=
  match protocol with
  | .upnpIgd => tryUpnpIgd localPort previous now g.upnp
  | .natPmp => tryNatPmp localPort previous now g.natPmp
  | .pcp => tryPcp previous now g.pcp

/-- The timeout `refresh` puts on a request. -/
def PortMappingProtocol.timeout : PortMappingProtocol → ℕ
  | .upnpIgd => fromSecs 3
  | .natPmp => fromSecs 2
  | .pcp => fromSecs 2

/-- A lease is counted from the moment it is granted. -/
lemma le_expiresAt_of_attempt {localPort : UInt16} {protocol : PortMappingProtocol}
    {previous : Option ActiveMapping} {now : Instant} {g : Gateway} {m : ActiveMapping}
    (h : attempt localPort protocol previous now g = some m) : now ≤ m.expiresAt := by
  cases protocol with
  | upnpIgd =>
      simp only [attempt, tryUpnpIgd] at h
      split at h
      · obtain ⟨port, -, rfl⟩ := Option.map_eq_some_iff.mp h
        exact Nat.le_add_right _ _
      · cases h
  | natPmp =>
      obtain ⟨ip, -, hm⟩ := Option.bind_eq_some_iff.mp h
      obtain ⟨answer, -, rfl⟩ := Option.map_eq_some_iff.mp hm
      exact Nat.le_add_right _ _
  | pcp =>
      simp only [attempt, tryPcp] at h
      split_ifs at h
      obtain ⟨answer, -, rfl⟩ := Option.map_eq_some_iff.mp h
      exact Nat.le_add_right _ _

/-! ## The loop -/

/-- Where the task is that refreshes the mapping: it sleeps, or it waits for the answer to a
request, with the mapping it has read at the beginning of the refresh. -/
inductive RefreshTask where
  | sleeping (wakeAt : Instant)
  | trying (protocol : PortMappingProtocol) (previous : Option ActiveMapping) (deadline : Instant)
deriving DecidableEq

/-- The manager and its task. -/
structure Renewals where
  now : Instant
  localPort : UInt16
  active : Option ActiveMapping
  updates : Watch.Channel LeasedSnapshot
  task : RefreshTask

inductive RenewalEvent where
  | elapse (d : ℕ)
  | wake
  | answer (g : Gateway)
  | timeout

namespace Renewals

/-- The manager as `discover` leaves it, whose receiver is dropped at once, at the beginning of the
first refresh. -/
def start (now : Instant) (localPort : UInt16) : Renewals where
  now
  localPort
  active := none
  updates := { value := .default, version := 0, receivers := 0 }
  task := .trying .upnpIgd none (now + PortMappingProtocol.timeout .upnpIgd)

/-- A request is sent. -/
def request (s : Renewals) (protocol : PortMappingProtocol) (previous : Option ActiveMapping) :
    Renewals :=
  { s with task := .trying protocol previous (s.now + protocol.timeout) }

/-- The end of `refresh`, and the delay that the loop reads right after it. -/
def finish (s : Renewals) (next : Option ActiveMapping) : Renewals :=
  { s with
    active := next
    updates := s.updates.send (snapshotOf next s.now)
    task := .sleeping (s.now + (next.map fun m => m.renewalDelay s.now).getD retryInterval) }

/-- A request has failed: the next protocol, or the end of the refresh. -/
def failed (s : Renewals) (protocol : PortMappingProtocol) (previous : Option ActiveMapping) :
    Renewals :=
  match protocol with
  | .upnpIgd => s.request .natPmp previous
  | .natPmp => s.request .pcp previous
  | .pcp => s.finish (previous.filter fun m => m.expiresAt > s.now)

def step (s : Renewals) : RenewalEvent → Renewals
  | .elapse d => { s with now := s.now + d }
  | .wake =>
      match s.task with
      | .sleeping wakeAt => if wakeAt ≤ s.now then s.request .upnpIgd s.active else s
      | .trying _ _ _ => s
  | .answer g =>
      match s.task with
      | .sleeping _ => s
      | .trying protocol previous _ =>
          match attempt s.localPort protocol previous s.now g with
          | some m => s.finish (some m)
          | none => s.failed protocol previous
  | .timeout =>
      match s.task with
      | .sleeping _ => s
      | .trying protocol previous deadline =>
          if deadline ≤ s.now then s.failed protocol previous else s

/-- When the timer of the task is due. -/
def dueAt (s : Renewals) : Instant :=
  match s.task with
  | .sleeping wakeAt => wakeAt
  | .trying _ _ deadline => deadline

/-- Timers fire at most `σ` late. -/
def Timely (σ : ℕ) (s : Renewals) : RenewalEvent → Prop
  | .elapse d => s.now + d ≤ s.dueAt + σ
  | _ => True

instance (σ : ℕ) (s : Renewals) : ∀ e, Decidable (s.Timely σ e)
  | .elapse _ => inferInstanceAs (Decidable (_ ≤ _))
  | .wake | .answer _ | .timeout => isTrue trivial

/-! ## One step -/

/-- **What a step can do.**  Time passes, or nothing changes, or a refresh begins, goes on with the
next protocol, or ends with a mapping that was granted or was kept. -/
inductive Does (s : Renewals) : RenewalEvent → Renewals → Prop where
  | elapses (d : ℕ) : Does s (.elapse d) { s with now := s.now + d }
  | stays (e : RenewalEvent) : Does s e s
  | begins {wakeAt : Instant} (htask : s.task = .sleeping wakeAt) (hdue : wakeAt ≤ s.now) :
      Does s .wake (s.request .upnpIgd s.active)
  | grants {protocol : PortMappingProtocol} {previous : Option ActiveMapping} {deadline : Instant}
      {g : Gateway} {m : ActiveMapping} (htask : s.task = .trying protocol previous deadline)
      (hgrant : attempt s.localPort protocol previous s.now g = some m) :
      Does s (.answer g) (s.finish (some m))
  | fails {protocol : PortMappingProtocol} {previous : Option ActiveMapping} {deadline : Instant}
      {e : RenewalEvent} (htask : s.task = .trying protocol previous deadline)
      (hfail : e = .timeout ∨
        ∃ g, e = .answer g ∧ attempt s.localPort protocol previous s.now g = none) :
      Does s e (s.failed protocol previous)

lemma step_does (s : Renewals) (e : RenewalEvent) : s.Does e (s.step e) := by
  cases e with
  | elapse d => exact .elapses d
  | wake =>
      simp only [step]
      split
      · next wakeAt htask =>
        split_ifs with hdue
        · exact .begins htask hdue
        · exact .stays _
      · exact .stays _
  | answer g =>
      simp only [step]
      split
      · exact .stays _
      · next protocol previous deadline htask =>
        split
        · next m hgrant => exact .grants htask hgrant
        · next hnone => exact .fails htask (.inr ⟨g, rfl, hnone⟩)
  | timeout =>
      simp only [step]
      split
      · exact .stays _
      · next protocol previous deadline htask =>
        split_ifs
        · exact .fails htask (.inl rfl)
        · exact .stays _

/-! ## Expired mappings -/

/-- How long after the expiry of a lease a request with a protocol may still be under way: a second
of sleep and the timeouts up to its own, all but the last of them late. -/
def overrun (σ : ℕ) : PortMappingProtocol → ℕ
  | .upnpIgd => fromSecs 4 + σ
  | .natPmp => fromSecs 6 + 2 * σ
  | .pcp => fromSecs 8 + 3 * σ

/-- The timer of the task bounds how long a mapping is held past its lease. -/
structure Bounded (σ : ℕ) (s : Renewals) : Prop where
  now_le : s.now ≤ s.dueAt + σ
  sleeping : ∀ wakeAt, s.task = .sleeping wakeAt →
    ∀ m, s.active = some m → wakeAt ≤ m.expiresAt + fromSecs 1
  trying : ∀ protocol previous deadline, s.task = .trying protocol previous deadline →
    previous = s.active ∧ ∀ m, s.active = some m → deadline ≤ m.expiresAt + overrun σ protocol

/-- The timer of a request that is sent now is due later. -/
lemma le_dueAt (s : Renewals) (protocol : PortMappingProtocol) (previous : Option ActiveMapping)
    (σ : ℕ) : s.now ≤ (s.request protocol previous).dueAt + σ := by
  show s.now ≤ s.now + protocol.timeout + σ
  rw [add_assoc]
  exact Nat.le_add_right _ _

lemma bounded_start (σ : ℕ) (now : Instant) (localPort : UInt16) :
    (start now localPort).Bounded σ where
  now_le := le_dueAt _ _ _ σ
  sleeping := nofun
  trying := by
    rintro _ _ _ ⟨⟩
    exact ⟨rfl, nofun⟩

/-- The delay ends at most a second after the lease. -/
lemma renewalDelay_le {m : ActiveMapping} {now : Instant} (h : now ≤ m.expiresAt) :
    now + m.renewalDelay now ≤ m.expiresAt + fromSecs 1 := by
  unfold ActiveMapping.renewalDelay
  simp only
  split_ifs
  · have hmin : min minRenewInterval (max (m.expiresAt - now) (fromSecs 1)) ≤
        max (m.expiresAt - now) (fromSecs 1) := min_le_right _ _
    have hmax : max (m.expiresAt - now) (fromSecs 1) ≤ m.expiresAt - now + fromSecs 1 :=
      max_le (Nat.le_add_right _ _) (Nat.le_add_left _ _)
    unfold Instant at *
    omega
  · unfold Instant at *
    omega

/-- Right after a refresh the next one is still ahead. -/
lemma now_le_dueAt_finish (σ : ℕ) (s : Renewals) (next : Option ActiveMapping) :
    (s.finish next).now ≤ (s.finish next).dueAt + σ := by
  show s.now ≤ s.now + _ + σ
  rw [add_assoc]
  exact Nat.le_add_right _ _

/-- A refresh that ends with a mapping that is not expired. -/
lemma bounded_finish (σ : ℕ) (s : Renewals) {next : Option ActiveMapping}
    (hnext : ∀ m, next = some m → s.now ≤ m.expiresAt) : (s.finish next).Bounded σ where
  now_le := now_le_dueAt_finish σ s _
  sleeping := by
    rintro _ ⟨⟩ m hm
    obtain rfl : next = some m := hm
    exact renewalDelay_le (hnext m rfl)
  trying := nofun

/-- A request that is sent in time. -/
lemma bounded_request {σ : ℕ} {s : Renewals} {protocol : PortMappingProtocol}
    (h : ∀ m, s.active = some m → s.now + protocol.timeout ≤ m.expiresAt + overrun σ protocol) :
    (s.request protocol s.active).Bounded σ where
  now_le := le_dueAt _ _ _ σ
  sleeping := nofun
  trying := by
    rintro _ _ _ ⟨⟩
    exact ⟨rfl, h⟩

/-- A step in time keeps the bound of every timer. -/
lemma Bounded.step {σ : ℕ} {s : Renewals} (h : s.Bounded σ) {e : RenewalEvent}
    (htimely : s.Timely σ e) : (s.step e).Bounded σ := by
  have hdoes := s.step_does e
  generalize s.step e = s' at hdoes ⊢
  cases hdoes with
  | elapses d => exact ⟨htimely, h.sleeping, h.trying⟩
  | stays => exact h
  | @begins wakeAt htask hdue =>
      refine bounded_request fun m hm => ?_
      have hnow := h.now_le
      have hwake := h.sleeping wakeAt htask m hm
      simp only [dueAt, htask] at hnow
      simp only [PortMappingProtocol.timeout, overrun, fromSecs, Instant] at hwake hnow ⊢
      omega
  | grants htask hgrant =>
      refine bounded_finish σ s ?_
      rintro _ ⟨⟩
      exact le_expiresAt_of_attempt hgrant
  | @fails protocol _ deadline _ htask _ =>
      obtain ⟨rfl, hdeadline⟩ := h.trying _ _ deadline htask
      have hnow := h.now_le
      simp only [dueAt, htask] at hnow
      cases protocol with
      | upnpIgd =>
          refine bounded_request fun m hm => ?_
          have := hdeadline m hm
          simp only [PortMappingProtocol.timeout, overrun, fromSecs, Instant] at this hnow ⊢
          omega
      | natPmp =>
          refine bounded_request fun m hm => ?_
          have := hdeadline m hm
          simp only [PortMappingProtocol.timeout, overrun, fromSecs, Instant] at this hnow ⊢
          omega
      | pcp =>
          refine bounded_finish σ s fun m hm => ?_
          obtain ⟨-, hlt⟩ := Option.filter_eq_some_iff.mp hm
          exact (of_decide_eq_true hlt).le

lemma Bounded.now_le_expiresAt {σ : ℕ} {s : Renewals} (h : s.Bounded σ) {m : ActiveMapping}
    (hm : s.active = some m) : s.now ≤ m.expiresAt + fromSecs 8 + 4 * σ := by
  have hnow := h.now_le
  cases htask : s.task with
  | sleeping wakeAt =>
      have hwake := h.sleeping wakeAt htask m hm
      simp only [dueAt, htask] at hnow
      simp only [fromSecs, Instant] at hwake hnow ⊢
      omega
  | trying protocol previous deadline =>
      have hdeadline := (h.trying _ _ _ htask).2 m hm
      simp only [dueAt, htask] at hnow
      cases protocol <;> simp only [overrun, fromSecs, Instant] at hdeadline hnow ⊢ <;> omega

/-- **Stale mappings.**  If no timer fires more than `σ` late, then whatever the gateway answers, a
mapping is held for at most eight seconds and four such delays after its lease has expired. -/
theorem stale_mapping_bounded (σ : ℕ) (now : Instant) (localPort : UInt16)
    (events : List RenewalEvent) (htimely : Along step (Timely σ) (start now localPort) events)
    (m : ActiveMapping) (hm : (run step (start now localPort) events).active = some m) :
    (run step (start now localPort) events).now ≤ m.expiresAt + fromSecs 8 + 4 * σ :=
  (invariant (I := Bounded σ) (fun _ _ h hi => h.step hi) events _
    (bounded_start σ now localPort) htimely).now_le_expiresAt hm

/-- A gateway that grants a lease for ten seconds, and only with NAT-PMP. -/
def briefGateway : Gateway where
  upnp := { externalIp := none, addPort := fun _ => false, addAnyPort := none }
  natPmp := { publicAddress := some (.fill 4 9), mapping := fun port => some (port, fromSecs 10) }
  pcp := { available := false, mapping := fun _ => none }

/-- The lease is granted, and then the gateway is gone: seven seconds after the expiry the last of
the three requests is still under way. -/
def gatewayGone : List RenewalEvent :=
  [.answer briefGateway, .answer briefGateway, .elapse (fromSecs 10), .wake, .elapse (fromSecs 3),
    .timeout, .elapse (fromSecs 2), .timeout, .elapse (fromSecs 2)]

/-- The mapping is held all that time. -/
theorem stale_mapping_bounded_gatewayGone :
    let m : ActiveMapping := ⟨.natPmp, ⟨.v4 (.fill 4 9), 5⟩, fromSecs 10⟩
    (run step (start 0 5) gatewayGone).active = some m ∧
      (run step (start 0 5) gatewayGone).now = m.expiresAt + fromSecs 7 ∧
      (run step (start 0 5) gatewayGone).now ≤ m.expiresAt + fromSecs 8 + 4 * 0 :=
  ⟨by decide +kernel, by decide +kernel,
    stale_mapping_bounded 0 0 5 gatewayGone (by decide +kernel) _ (by decide +kernel)⟩

/-! ## A gateway that grants leases -/

/-- The lease that lasts until the next refresh is over.  The first part is for a sleep of 30
seconds, the second for one of half of the lease. -/
def neededLease (σ : ℕ) : ℕ := max (fromSecs 37 + 4 * σ) (fromSecs 14 + 8 * σ)

/-- The answer of the gateway in this step is a lease that is long enough, or there is another
protocol to try. -/
def granted (σ : ℕ) (s : Renewals) : RenewalEvent → Bool
  | .answer g =>
      match s.task with
      | .sleeping _ => true
      | .trying protocol previous _ =>
          match attempt s.localPort protocol previous s.now g with
          | some m => s.now + neededLease σ ≤ m.expiresAt
          | none => protocol ≠ .pcp
  | .timeout =>
      match s.task with
      | .sleeping _ => true
      | .trying protocol _ _ => protocol ≠ .pcp
  | _ => true

/-- Timers fire in time, and no refresh fails. -/
def Granting (σ : ℕ) (s : Renewals) (e : RenewalEvent) : Prop := s.Timely σ e ∧ s.granted σ e

instance (σ : ℕ) (s : Renewals) (e : RenewalEvent) : Decidable (s.Granting σ e) :=
  inferInstanceAs (Decidable (_ ∧ _))

/-- What has to be left of the lease when a request with a protocol times out, for the requests
after it. -/
def reserve (σ : ℕ) : PortMappingProtocol → ℕ
  | .upnpIgd => fromSecs 4 + 3 * σ
  | .natPmp => fromSecs 2 + 2 * σ
  | .pcp => σ

/-- The lease outlasts the refresh that is to come or is under way. -/
structure Ahead (σ : ℕ) (s : Renewals) : Prop where
  now_le : s.now ≤ s.dueAt + σ
  sleeping : ∀ wakeAt, s.task = .sleeping wakeAt →
    ∀ m, s.active = some m → wakeAt + fromSecs 7 + 4 * σ ≤ m.expiresAt
  trying : ∀ protocol previous deadline, s.task = .trying protocol previous deadline →
    previous = s.active ∧ ∀ m, s.active = some m → deadline + reserve σ protocol ≤ m.expiresAt

lemma ahead_start (σ : ℕ) (now : Instant) (localPort : UInt16) :
    (start now localPort).Ahead σ where
  now_le := le_dueAt _ _ _ σ
  sleeping := nofun
  trying := by
    rintro _ _ _ ⟨⟩
    exact ⟨rfl, nofun⟩

/-- Half of a lease of a minute or more leaves time for a refresh, and so does a shorter one after a
sleep of 30 seconds. -/
lemma renewalDelay_reserve {σ : ℕ} {m : ActiveMapping} {now : Instant}
    (h : now + neededLease σ ≤ m.expiresAt) :
    now + m.renewalDelay now + fromSecs 7 + 4 * σ ≤ m.expiresAt := by
  have hlong : fromSecs 37 + 4 * σ ≤ neededLease σ := le_max_left _ _
  have hhalf : fromSecs 14 + 8 * σ ≤ neededLease σ := le_max_right _ _
  generalize neededLease σ = lease at *
  unfold ActiveMapping.renewalDelay
  simp only
  split_ifs with hshort
  · have hmin : min minRenewInterval (max (m.expiresAt - now) (fromSecs 1)) ≤ minRenewInterval :=
      min_le_left _ _
    simp only [minRenewInterval, fromSecs, Instant] at *
    omega
  · simp only [minRenewInterval, fromSecs, Instant] at *
    omega

lemma ahead_finish {σ : ℕ} (s : Renewals) {m : ActiveMapping}
    (hlease : s.now + neededLease σ ≤ m.expiresAt) : (s.finish (some m)).Ahead σ where
  now_le := now_le_dueAt_finish σ s _
  sleeping := by
    rintro _ ⟨⟩ _ ⟨⟩
    exact renewalDelay_reserve hlease
  trying := nofun

lemma ahead_request {σ : ℕ} {s : Renewals} {protocol : PortMappingProtocol}
    (h : ∀ m, s.active = some m → s.now + protocol.timeout + reserve σ protocol ≤ m.expiresAt) :
    (s.request protocol s.active).Ahead σ where
  now_le := le_dueAt _ _ _ σ
  sleeping := nofun
  trying := by
    rintro _ _ _ ⟨⟩
    exact ⟨rfl, h⟩

/-- A step of a gateway that grants leases keeps the lease ahead of the refresh, and the mapping. -/
lemma Ahead.step {σ : ℕ} {s : Renewals} (h : s.Ahead σ) {e : RenewalEvent}
    (hgrant : s.Granting σ e) :
    (s.step e).Ahead σ ∧ (s.active.isSome → (s.step e).active.isSome) := by
  have hdoes := s.step_does e
  generalize s.step e = s' at hdoes ⊢
  cases hdoes with
  | elapses d => exact ⟨⟨hgrant.1, h.sleeping, h.trying⟩, id⟩
  | stays => exact ⟨h, id⟩
  | @begins wakeAt htask hdue =>
      refine ⟨ahead_request fun m hm => ?_, id⟩
      have hnow := h.now_le
      have hwake := h.sleeping wakeAt htask m hm
      simp only [dueAt, htask] at hnow
      simp only [PortMappingProtocol.timeout, reserve, fromSecs, Instant] at hwake hnow ⊢
      omega
  | @grants protocol previous deadline g m htask hm =>
      have hlease := hgrant.2
      simp only [granted, htask, hm, decide_eq_true_eq] at hlease
      exact ⟨ahead_finish s hlease, fun _ => rfl⟩
  | @fails protocol previous deadline _ htask hfail =>
      obtain ⟨rfl, hdeadline⟩ := h.trying _ _ deadline htask
      have hpcp : protocol ≠ .pcp := by
        have hgranted := hgrant.2
        rcases hfail with rfl | ⟨g, rfl, hnone⟩
        · simpa [granted, htask] using hgranted
        · simpa [granted, htask, hnone] using hgranted
      have hnow := h.now_le
      simp only [dueAt, htask] at hnow
      cases protocol with
      | upnpIgd =>
          refine ⟨ahead_request fun m hm => ?_, id⟩
          have := hdeadline m hm
          simp only [PortMappingProtocol.timeout, reserve, fromSecs, Instant] at this hnow ⊢
          omega
      | natPmp =>
          refine ⟨ahead_request fun m hm => ?_, id⟩
          have := hdeadline m hm
          simp only [PortMappingProtocol.timeout, reserve, fromSecs, Instant] at this hnow ⊢
          omega
      | pcp => exact absurd rfl hpcp

lemma Ahead.now_le_expiresAt {σ : ℕ} {s : Renewals} (h : s.Ahead σ) {m : ActiveMapping}
    (hm : s.active = some m) : s.now ≤ m.expiresAt := by
  have hnow := h.now_le
  cases htask : s.task with
  | sleeping wakeAt =>
      have hwake := h.sleeping wakeAt htask m hm
      simp only [dueAt, htask] at hnow
      simp only [fromSecs, Instant] at hwake hnow ⊢
      omega
  | trying protocol previous deadline =>
      have hdeadline := (h.trying _ _ _ htask).2 m hm
      simp only [dueAt, htask] at hnow
      cases protocol <;> simp only [reserve, fromSecs, Instant] at hdeadline hnow ⊢ <;> omega

/-- **Leases are renewed in time.**  As long as no timer fires more than `σ` late and every refresh
ends with a lease of at least 37 seconds and four such delays, and of at least 14 seconds and eight,
a mapping that was acquired is held ever after and is never expired. -/
theorem mapping_never_lapses (σ : ℕ) (now : Instant) (localPort : UInt16)
    (first rest : List RenewalEvent)
    (hgrant : Along step (Granting σ) (start now localPort) (first ++ rest))
    (hfirst : (run step (start now localPort) first).active.isSome) :
    ∃ m, (run step (start now localPort) (first ++ rest)).active = some m ∧
      (run step (start now localPort) (first ++ rest)).now ≤ m.expiresAt := by
  obtain ⟨hbefore, hafter⟩ := along_append.mp hgrant
  have hahead : (run step (start now localPort) first).Ahead σ :=
    invariant (I := Ahead σ) (fun _ _ h hi => (h.step hi).1) first _
      (ahead_start σ now localPort) hbefore
  rw [run_append]
  obtain ⟨hend, hsome⟩ := invariant (I := fun s => s.Ahead σ ∧ s.active.isSome)
    (fun _ _ h hi => ⟨(h.1.step hi).1, (h.1.step hi).2 h.2⟩) rest _ ⟨hahead, hfirst⟩ hafter
  obtain ⟨m, hm⟩ := Option.isSome_iff_exists.mp hsome
  exact ⟨m, hm, hend.now_le_expiresAt hm⟩

/-- A gateway that maps every port with UPnP, and for a minute with NAT-PMP. -/
def homeGateway : Gateway where
  upnp := { externalIp := some (.v4 (.fill 4 9)), addPort := fun _ => true, addAnyPort := none }
  natPmp := { publicAddress := some (.fill 4 9), mapping := fun port => some (port, fromSecs 60) }
  pcp := { available := false, mapping := fun _ => none }

/-- A mapping for an hour; half an hour later UPnP is not answered in time, but NAT-PMP is. -/
def renewedOnce : List RenewalEvent :=
  [.elapse (fromSecs 1800), .wake, .elapse (fromSecs 3), .timeout, .elapse (fromSecs 1),
    .answer homeGateway, .elapse (fromSecs 30)]

/-- The mapping for a minute is held, and half of it is left. -/
theorem mapping_never_lapses_renewedOnce :
    ∃ m, (run step (start 0 5) ([.answer homeGateway] ++ renewedOnce)).active = some m ∧
      (run step (start 0 5) ([.answer homeGateway] ++ renewedOnce)).now ≤ m.expiresAt :=
  mapping_never_lapses 0 0 5 [.answer homeGateway] renewedOnce
    (by decide +kernel) (by decide +kernel)

end Renewals

end R2N
