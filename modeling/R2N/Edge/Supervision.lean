import R2N.Dataplane.Path
import R2N.Edge.Failover
import R2N.Lib.Run

/-!
# Supervising the supernode

An edge sends its current supernode a heartbeat every ten seconds, and whatever arrives from the
supernode's address is a sign of life.  Every five seconds the watchdog looks whether the last one
is older than 25 seconds; then it moves on to the next supernode of the list and registers there.
The last sign of life is not reset when it moves, so it moves at every tick until the supernode it
has moved to is heard from.

* `Supervision`, `Supervision.step` — the two loops and the UDP loop's part, over time.  A tick of
  the watchdog is cut where it awaits a lock or the transport.
* `BeatTimely`, `Timely`, `Answered`, `Quiet` — the heartbeats, or both loops, are at most `σ` late;
  what is sent to a supernode that is up is answered within `delay`; one that is down sends nothing.
* `Beating`, `Clocked`, `Tracked` — what is always known of the heartbeats, of both timers, and of
  what was asked.
* `Attended` — the current supernode is up, and it was heard from or will be in time.
* `Searching` — the watchdog is on its way to a supernode that is up.
* **`live_supernode_kept`** — a supernode that is up and answers within 15 seconds, less what the
  heartbeats are late, is never left by the watchdog after a start-up that was not too long.
* **`failover_finds_live`** — from any moment between two ticks at which the current supernode of
  the `n` in the list is down and another is up, at most `30 + 5 n` seconds in the room pass until
  the current one is up, and it stays so.
-/

namespace R2N

open Run

/-- What the watchdog has read at a tick. -/
structure Sample where
  roomActive : Bool
  reachable : Bool
  current : SocketAddr
deriving DecidableEq

/-- Where the watchdog is: it waits for its tick, it has read what it looks at, or it has moved from
`previous` to `target` and has not registered there yet. -/
inductive WatchdogTask where
  | waiting
  | sampled (since : Instant) (sample : Sample)
  | moved (since : Instant) (previous target : SocketAddr)
deriving DecidableEq

/-- The part of `RuntimeState` that is about the supernode. -/
structure SupernodeStatus where
  supernodeAddr : String
  supernodeReachable : Bool
  lastSupernodeActivityAt : Option Instant
  lastError : Option String
deriving DecidableEq

def reconnectText : String := "Supernode heartbeat timed out; trying to reconnect"

def fallbackText (target : String) : String :=
  "Supernode heartbeat timed out; trying fallback " ++ target

/-- What the watchdog writes at every tick. -/
def SupernodeStatus.report (st : SupernodeStatus) (sample : Sample) : SupernodeStatus :=
  { st with
    supernodeReachable := sample.reachable
    lastError :=
      if !sample.reachable && st.lastError.isNone && sample.roomActive then some reconnectText
      else if sample.reachable && st.lastError = some reconnectText then none
      else st.lastError }

/-- The loops, with what was sent to a supernode that nothing has arrived from since. -/
structure Supervision where
  now : Instant
  supernodes : List SocketAddr
  current : SocketAddr
  roomActive : Bool
  lastActivity : Instant
  status : SupernodeStatus
  isReconnecting : Bool
  task : WatchdogTask
  nextTick : Instant
  nextBeat : Instant
  asked : List (SocketAddr × Instant)
deriving DecidableEq

inductive SupervisionEvent where
  | elapse (d : ℕ)
  | arrives (addr : SocketAddr)
  | beat
  | tick
  | report
  | announce
  | room (active : Bool)
  | switch (addr : SocketAddr)
  | error (message : Option String)
deriving DecidableEq

def beatInterval : ℕ := fromSecs 10

def tickInterval : ℕ := fromSecs 5

def activityTimeout : ℕ := fromSecs 25

namespace Supervision

/-- The loops are started: both intervals tick at once, and the last sign of life is dated back to
the beginning of the start-up. -/
def start (showAddr : SocketAddr → String) (primary : SocketAddr) (supernodes : List SocketAddr)
    (begun now : Instant) : Supervision where
  now
  supernodes := normalizeSupernodes primary supernodes
  current := primary
  roomActive := false
  lastActivity := begun
  status :=
    { supernodeAddr := showAddr primary, supernodeReachable := false
      lastSupernodeActivityAt := none, lastError := none }
  isReconnecting := false
  task := .waiting
  nextTick := now
  nextBeat := now
  asked := []

/-- Something arrives from the current supernode. -/
def hear (s : Supervision) : Supervision :=
  { s with
    lastActivity := s.now
    status :=
      { s.status with supernodeReachable := true, lastSupernodeActivityAt := some s.now } }

/-- The watchdog reads what it looks at. -/
def look (s : Supervision) : Supervision :=
  { s with
    task := .sampled s.now
      { roomActive := s.roomActive
        reachable := s.now - s.lastActivity ≤ activityTimeout
        current := s.current }
    nextTick := s.nextTick + tickInterval }

/-- The rest of a tick, up to where the watchdog registers. -/
def conclude (s : Supervision) (sample : Sample) : Supervision :=
  let status := s.status.report sample
  if sample.roomActive && !sample.reachable then
    let target := nextSupernodeAfter sample.current s.supernodes
    { s with
      status
      isReconnecting := true
      current := if target ≠ sample.current then target else s.current
      task := .moved s.now sample.current target }
  else { s with status, isReconnecting := false, task := .waiting }

/-- The watchdog sends its `RegisterNode`. -/
def register (showAddr : SocketAddr → String) (s : Supervision) (previous target : SocketAddr) :
    Supervision :=
  { s with
    status :=
      if target ≠ previous then
        { s.status with
          supernodeAddr := showAddr target
          lastError := some (fallbackText (showAddr target)) }
      else s.status
    task := .waiting
    asked := s.asked ++ [(target, s.now)] }

def step (showAddr : SocketAddr → String) (s : Supervision) : SupervisionEvent → Supervision
  | .elapse d => { s with now := s.now + d }
  | .arrives addr =>
      let s' := { s with asked := s.asked.filter fun q => q.1 ≠ addr }
      if addr = s.current then s'.hear else s'
  | .beat =>
      if s.nextBeat ≤ s.now then
        { s with
          nextBeat := s.nextBeat + beatInterval, asked := s.asked ++ [(s.current, s.now)] }
      else s
  | .tick =>
      match s.task with
      | .waiting => if s.nextTick ≤ s.now then s.look else s
      | _ => s
  | .report =>
      match s.task with
      | .sampled _ sample => s.conclude sample
      | _ => s
  | .announce =>
      match s.task with
      | .moved _ previous target => s.register showAddr previous target
      | _ => s
  | .room active => { s with roomActive := active }
  | .switch addr =>
      { s with
        current := addr
        status := { s.status with supernodeAddr := showAddr addr, lastError := none }
        asked := s.asked ++ [(addr, s.now)] }
  | .error message => { s with status := { s.status with lastError := message } }

/-- When the watchdog is due. -/
def taskDue (s : Supervision) : Instant :=
  match s.task with
  | .waiting => s.nextTick
  | .sampled since _ => since
  | .moved since _ _ => since

/-! ## The circumstances -/

/-- Heartbeats are at most `σ` late. -/
def BeatTimely (σ : ℕ) (s : Supervision) : SupervisionEvent → Prop
  | .elapse d => s.now + d ≤ s.nextBeat + σ
  | _ => True

/-- Neither loop is more than `σ` late. -/
def Timely (σ : ℕ) (s : Supervision) : SupervisionEvent → Prop
  | .elapse d => s.now + d ≤ s.taskDue + σ ∧ s.now + d ≤ s.nextBeat + σ
  | _ => True

lemma Timely.beat {σ : ℕ} {s : Supervision} {e : SupervisionEvent} (h : s.Timely σ e) :
    s.BeatTimely σ e := by
  cases e with
  | elapse d => exact h.2
  | _ => trivial

/-- Something arrives from a supernode that is up within `delay` of whatever is sent to it. -/
def Answered (live : List SocketAddr) (delay : ℕ) (s : Supervision) : SupervisionEvent → Prop
  | .elapse d => ∀ q ∈ s.asked, q.1 ∈ live → s.now + d ≤ q.2 + delay
  | _ => True

/-- Nothing arrives from a supernode that is not up. -/
def Quiet (live : List SocketAddr) (s : Supervision) : SupervisionEvent → Prop
  | .arrives addr => addr ∈ s.supernodes → addr ∈ live
  | _ => True

end Supervision

/-- The user does not change the supernode. -/
def SupervisionEvent.Unswitched : SupervisionEvent → Prop
  | .switch _ => False
  | _ => True

/-- The edge stays in its room. -/
def SupervisionEvent.StaysInRoom : SupervisionEvent → Prop
  | .room active => active = true
  | _ => True

namespace Supervision

instance (σ : ℕ) (s : Supervision) : ∀ e, Decidable (s.BeatTimely σ e)
  | .elapse d => inferInstanceAs (Decidable (s.now + d ≤ s.nextBeat + σ))
  | .arrives _ | .beat | .tick | .report | .announce | .room _ | .switch _ | .error _ =>
      isTrue trivial

instance (σ : ℕ) (s : Supervision) : ∀ e, Decidable (s.Timely σ e)
  | .elapse _ => inferInstanceAs (Decidable (_ ∧ _))
  | .arrives _ | .beat | .tick | .report | .announce | .room _ | .switch _ | .error _ =>
      isTrue trivial

instance (live : List SocketAddr) (delay : ℕ) (s : Supervision) :
    ∀ e, Decidable (s.Answered live delay e)
  | .elapse d =>
      inferInstanceAs (Decidable (∀ q ∈ s.asked, q.1 ∈ live → s.now + d ≤ q.2 + delay))
  | .arrives _ | .beat | .tick | .report | .announce | .room _ | .switch _ | .error _ =>
      isTrue trivial

instance (live : List SocketAddr) (s : Supervision) : ∀ e, Decidable (s.Quiet live e)
  | .arrives addr => inferInstanceAs (Decidable (addr ∈ s.supernodes → addr ∈ live))
  | .elapse _ | .beat | .tick | .report | .announce | .room _ | .switch _ | .error _ =>
      isTrue trivial

instance : ∀ e : SupervisionEvent, Decidable e.Unswitched
  | .switch _ => isFalse id
  | .elapse _ | .arrives _ | .beat | .tick | .report | .announce | .room _ | .error _ =>
      isTrue trivial

instance : ∀ e : SupervisionEvent, Decidable e.StaysInRoom
  | .room active => inferInstanceAs (Decidable (active = true))
  | .elapse _ | .arrives _ | .beat | .tick | .report | .announce | .switch _ | .error _ =>
      isTrue trivial

/-! ## One step -/

/-- **What a step can do.**  The last constructor is for the steps that change only the room, the
error that is shown, or nothing at all. -/
inductive Does (showAddr : SocketAddr → String) (s : Supervision) :
    SupervisionEvent → Supervision → Prop where
  | elapses (d : ℕ) : Does showAddr s (.elapse d) { s with now := s.now + d }
  | hears : Does showAddr s (.arrives s.current)
      { s with asked := s.asked.filter fun q => q.1 ≠ s.current }.hear
  | ignores {addr : SocketAddr} (haddr : addr ≠ s.current) : Does showAddr s (.arrives addr)
      { s with asked := s.asked.filter fun q => q.1 ≠ addr }
  | beats (hdue : s.nextBeat ≤ s.now) : Does showAddr s .beat
      { s with nextBeat := s.nextBeat + beatInterval, asked := s.asked ++ [(s.current, s.now)] }
  | looks (htask : s.task = .waiting) (hdue : s.nextTick ≤ s.now) : Does showAddr s .tick s.look
  | moves {since : Instant} {sample : Sample} (htask : s.task = .sampled since sample)
      (hroom : sample.roomActive = true) (hreach : sample.reachable = false) :
      Does showAddr s .report
        { s with
          status := s.status.report sample
          isReconnecting := true
          current :=
            if nextSupernodeAfter sample.current s.supernodes ≠ sample.current then
              nextSupernodeAfter sample.current s.supernodes
            else s.current
          task := .moved s.now sample.current (nextSupernodeAfter sample.current s.supernodes) }
  | returns {since : Instant} {sample : Sample} (htask : s.task = .sampled since sample)
      (hkeep : sample.roomActive = true → sample.reachable = true) :
      Does showAddr s .report
        { s with status := s.status.report sample, isReconnecting := false, task := .waiting }
  | registers {since : Instant} {previous target : SocketAddr}
      (htask : s.task = .moved since previous target) :
      Does showAddr s .announce (s.register showAddr previous target)
  | switches (addr : SocketAddr) : Does showAddr s (.switch addr)
      { s with
        current := addr
        status := { s.status with supernodeAddr := showAddr addr, lastError := none }
        asked := s.asked ++ [(addr, s.now)] }
  | sets {e : SupervisionEvent} {roomActive : Bool} {status : SupernodeStatus}
      (hroom : roomActive = s.roomActive ∨ e = .room roomActive) :
      Does showAddr s e { s with roomActive, status }

lemma step_does (showAddr : SocketAddr → String) (s : Supervision) (e : SupervisionEvent) :
    s.Does showAddr e (s.step showAddr e) := by
  have stays : s.Does showAddr e { s with roomActive := s.roomActive, status := s.status } :=
    .sets (.inl rfl)
  cases e with
  | elapse d => exact .elapses d
  | arrives addr =>
      simp only [step]
      split_ifs with haddr
      · subst haddr
        exact .hears
      · exact .ignores haddr
  | beat =>
      simp only [step]
      split_ifs with hdue
      · exact .beats hdue
      · exact stays
  | tick =>
      simp only [step]
      split
      · next htask =>
        split_ifs with hdue
        · exact .looks htask hdue
        · exact stays
      · exact stays
  | report =>
      simp only [step]
      split
      · next since sample htask =>
        unfold conclude
        cases hroom : sample.roomActive <;> cases hreach : sample.reachable
        · exact .returns htask (by simp [hroom])
        · exact .returns htask (by simp [hroom])
        · exact .moves htask hroom hreach
        · exact .returns htask fun _ => hreach
      · exact stays
  | announce =>
      simp only [step]
      split
      · next htask => exact .registers htask
      · exact stays
  | room active => exact .sets (.inr rfl)
  | switch addr => exact .switches addr
  | error message => exact .sets (.inl rfl)

lemma supernodes_step (showAddr : SocketAddr → String) (s : Supervision) (e : SupervisionEvent) :
    (s.step showAddr e).supernodes = s.supernodes := by
  have hdoes := s.step_does showAddr e
  generalize s.step showAddr e = s' at hdoes ⊢
  cases hdoes <;> rfl

/-! ## The timers -/

/-- The heartbeats are not late, and not ahead of the time. -/
structure Beating (σ : ℕ) (s : Supervision) : Prop where
  beat_now : s.now ≤ s.nextBeat + σ
  beat_ahead : s.nextBeat ≤ s.now + beatInterval

/-- The loops are not late, their intervals are not ahead of the time, and the watchdog's tick was
not long ago. -/
structure Clocked (σ : ℕ) (s : Supervision) : Prop extends s.Beating σ where
  task_now : s.now ≤ s.taskDue + σ
  tick_ahead : s.nextTick ≤ s.now + tickInterval
  activity : s.lastActivity ≤ s.now
  sampled : ∀ since sample, s.task = .sampled since sample →
    since + tickInterval ≤ s.nextTick + σ
  moved : ∀ since previous target, s.task = .moved since previous target →
    since + tickInterval ≤ s.nextTick + 2 * σ

lemma beating_start (showAddr : SocketAddr → String) (primary : SocketAddr)
    (supernodes : List SocketAddr) (begun now : Instant) (σ : ℕ) :
    (start showAddr primary supernodes begun now).Beating σ where
  beat_now := Nat.le_add_right _ _
  beat_ahead := Nat.le_add_right _ _

lemma clocked_start (showAddr : SocketAddr → String) (primary : SocketAddr)
    (supernodes : List SocketAddr) {begun now : Instant} (hbegun : begun ≤ now) (σ : ℕ) :
    (start showAddr primary supernodes begun now).Clocked σ where
  toBeating := beating_start showAddr primary supernodes begun now σ
  task_now := Nat.le_add_right _ _
  tick_ahead := Nat.le_add_right _ _
  activity := hbegun
  sampled := nofun
  moved := nofun

variable {showAddr : SocketAddr → String} {σ delay : ℕ} {live : List SocketAddr} {s : Supervision}

/-- The timers do not depend on what was asked. -/
lemma Clocked.withAsked (h : s.Clocked σ) (asked : List (SocketAddr × Instant)) :
    ({ s with asked } : Supervision).Clocked σ :=
  ⟨⟨h.beat_now, h.beat_ahead⟩, h.task_now, h.tick_ahead, h.activity, h.sampled, h.moved⟩

/-- **The heartbeats over a step.** -/
lemma Beating.step (h : s.Beating σ) {e : SupervisionEvent} (htimely : s.BeatTimely σ e) :
    (s.step showAddr e).Beating σ := by
  have hdoes := s.step_does showAddr e
  generalize s.step showAddr e = s' at hdoes ⊢
  cases hdoes with
  | elapses d =>
      exact ⟨htimely, h.beat_ahead.trans (Nat.add_le_add_right (Nat.le_add_right _ _) _)⟩
  | beats hdue =>
      have hbeat := h.beat_now
      constructor
      · simp only
        unfold Instant at *
        omega
      · simp only
        unfold Instant at *
        omega
  | _ => exact ⟨h.beat_now, h.beat_ahead⟩

/-- **The timers over a step.** -/
lemma Clocked.step (h : s.Clocked σ) (hσ : 2 * σ ≤ tickInterval) {e : SupervisionEvent}
    (htimely : s.Timely σ e) : (s.step showAddr e).Clocked σ := by
  have hbeating : (s.step showAddr e).Beating σ := h.toBeating.step htimely.beat
  have hdoes := s.step_does showAddr e
  generalize s.step showAddr e = s' at hdoes hbeating ⊢
  have htask := h.task_now
  cases hdoes with
  | elapses d =>
      refine ⟨hbeating, htimely.1, ?_, h.activity.trans (Nat.le_add_right _ _), h.sampled, h.moved⟩
      exact h.tick_ahead.trans (Nat.add_le_add_right (Nat.le_add_right _ _) _)
  | hears => exact ⟨hbeating, h.task_now, h.tick_ahead, le_refl _, h.sampled, h.moved⟩
  | ignores | switches | sets | beats =>
      exact ⟨hbeating, h.task_now, h.tick_ahead, h.activity, h.sampled, h.moved⟩
  | looks hwaiting hdue =>
      simp only [taskDue, hwaiting] at htask
      refine ⟨hbeating, Nat.le_add_right _ _, ?_, h.activity, ?_, nofun⟩
      · simp only [look]
        unfold Instant at *
        omega
      · rintro _ _ ⟨⟩
        simp only [look]
        unfold Instant at *
        omega
  | @moves since sample hsampled =>
      have hsince := h.sampled since sample hsampled
      simp only [taskDue, hsampled] at htask
      refine ⟨hbeating, Nat.le_add_right _ _, h.tick_ahead, h.activity, nofun, ?_⟩
      rintro _ _ _ ⟨⟩
      simp only
      unfold Instant at *
      omega
  | @returns since sample hsampled =>
      have hsince := h.sampled since sample hsampled
      simp only [taskDue, hsampled] at htask
      refine ⟨hbeating, ?_, h.tick_ahead, h.activity, nofun, nofun⟩
      simp only [taskDue]
      unfold Instant at *
      omega
  | @registers since previous target hmoved =>
      have hsince := h.moved since previous target hmoved
      simp only [taskDue, hmoved] at htask
      refine ⟨hbeating, ?_, h.tick_ahead, h.activity, nofun, nofun⟩
      simp only [taskDue, register]
      unfold Instant at *
      omega

/-- What was asked of a supernode that is up is answered or will be in time, and the watchdog works
with the current supernode. -/
structure Tracked (live : List SocketAddr) (delay : ℕ) (s : Supervision) : Prop where
  asked : ∀ q ∈ s.asked, q.1 ∈ live → s.now ≤ q.2 + delay
  sampled : ∀ since sample, s.task = .sampled since sample → sample.current = s.current
  moved : ∀ since previous target, s.task = .moved since previous target → target = s.current

/-- What is asked now will be answered in time. -/
lemma Tracked.ask (h : s.Tracked live delay) (addr : SocketAddr) :
    ∀ q ∈ s.asked ++ [(addr, s.now)], q.1 ∈ live → s.now ≤ q.2 + delay := by
  intro q hq hlive
  rcases List.mem_append.mp hq with hold | hnew
  · exact h.asked q hold hlive
  · rw [List.mem_singleton.mp hnew]
    exact Nat.le_add_right _ _

/-- **What was asked, over a step.** -/
lemma Tracked.step (h : s.Tracked live delay) {e : SupervisionEvent}
    (hanswered : s.Answered live delay e) (he : e.Unswitched) :
    (s.step showAddr e).Tracked live delay := by
  have hdoes := s.step_does showAddr e
  generalize s.step showAddr e = s' at hdoes ⊢
  cases hdoes with
  | elapses d => exact ⟨hanswered, h.sampled, h.moved⟩
  | hears | ignores =>
      exact ⟨fun q hq => h.asked q (List.mem_of_mem_filter hq), h.sampled, h.moved⟩
  | beats => exact ⟨h.ask s.current, h.sampled, h.moved⟩
  | looks =>
      refine ⟨h.asked, ?_, nofun⟩
      rintro _ _ ⟨⟩
      rfl
  | @moves since sample hsampled =>
      refine ⟨h.asked, nofun, ?_⟩
      rintro _ _ _ ⟨⟩
      rw [h.sampled since sample hsampled]
      split_ifs with hnext
      · rfl
      · exact not_not.mp hnext
  | returns => exact ⟨h.asked, nofun, nofun⟩
  | @registers _ _ target => exact ⟨h.ask target, nofun, nofun⟩
  | switches => exact he.elim
  | sets => exact ⟨h.asked, h.sampled, h.moved⟩

/-! ## A supernode that is up -/

/-- The current supernode is up; it owes an answer that comes before the last sign of life is too
old, or it will be asked early enough; and the watchdog has not seen otherwise. -/
structure Attended (live : List SocketAddr) (σ delay : ℕ) (s : Supervision) : Prop where
  live : s.current ∈ live
  heard : (∃ t, (s.current, t) ∈ s.asked ∧ t + delay ≤ s.lastActivity + activityTimeout) ∨
    s.nextBeat + σ + delay ≤ s.lastActivity + activityTimeout
  sampled : ∀ since sample, s.task = .sampled since sample → sample.reachable = true

/-- An attended supernode was heard from lately. -/
lemma Attended.now_le (h : s.Attended live σ delay) (hclock : s.Beating σ)
    (htrack : s.Tracked live delay) : s.now ≤ s.lastActivity + activityTimeout := by
  rcases h.heard with ⟨t, hasked, ht⟩ | hbeat
  · exact (htrack.asked _ hasked h.live).trans ht
  · exact hclock.beat_now.trans ((Nat.le_add_right _ delay).trans hbeat)

/-- A supernode that is up and is heard from is attended. -/
lemma attended_hear (hclock : s.Beating σ) (hdelay : σ + delay ≤ fromSecs 15)
    (hlive : s.current ∈ live)
    (hsampled : ∀ since sample, s.task = .sampled since sample → sample.reachable = true) :
    s.hear.Attended live σ delay where
  live := hlive
  heard := by
    refine .inr ?_
    have hbeat := hclock.beat_ahead
    simp only [hear, beatInterval, activityTimeout, fromSecs] at *
    unfold Instant at *
    omega
  sampled := hsampled

/-- **A supernode that is up stays attended**, and the current one. -/
lemma Attended.step (h : s.Attended live σ delay) (hclock : s.Beating σ)
    (htrack : s.Tracked live delay) (hdelay : σ + delay ≤ fromSecs 15) {e : SupervisionEvent}
    (he : e.Unswitched) :
    (s.step showAddr e).Attended live σ delay ∧ (s.step showAddr e).current = s.current := by
  have hdoes := s.step_does showAddr e
  generalize s.step showAddr e = s' at hdoes ⊢
  cases hdoes with
  | elapses | sets => exact ⟨⟨h.live, h.heard, h.sampled⟩, rfl⟩
  | hears =>
      exact ⟨attended_hear ⟨hclock.beat_now, hclock.beat_ahead⟩ hdelay h.live h.sampled, rfl⟩
  | ignores haddr =>
      refine ⟨⟨h.live, h.heard.imp_left ?_, h.sampled⟩, rfl⟩
      rintro ⟨t, hasked, ht⟩
      exact ⟨t, List.mem_filter.mpr ⟨hasked, by simpa using haddr.symm⟩, ht⟩
  | beats =>
      -- what was owed is owed still, else the heartbeat is sent early enough
      refine ⟨⟨h.live, .inl ?_, h.sampled⟩, rfl⟩
      rcases h.heard with ⟨t, hasked, ht⟩ | hbeat
      · exact ⟨t, List.mem_append_left _ hasked, ht⟩
      · refine ⟨s.now, List.mem_append_right _ (List.mem_singleton_self _), ?_⟩
        exact (Nat.add_le_add_right hclock.beat_now delay).trans hbeat
  | looks =>
      refine ⟨⟨h.live, h.heard, ?_⟩, rfl⟩
      rintro _ _ ⟨⟩
      have hnow := h.now_le hclock htrack
      exact decide_eq_true (Nat.sub_le_iff_le_add'.mpr hnow)
  | @moves since sample hsampled _ hreach =>
      rw [h.sampled since sample hsampled] at hreach
      cases hreach
  | returns => exact ⟨⟨h.live, h.heard, nofun⟩, rfl⟩
  | registers =>
      refine ⟨⟨h.live, h.heard.imp_left ?_, nofun⟩, rfl⟩
      rintro ⟨t, hasked, ht⟩
      exact ⟨t, List.mem_append_left _ hasked, ht⟩
  | switches => exact he.elim

/-- **A supernode that is up is kept.**  Let the heartbeats be late by at most `σ`, let what is sent
to the primary supernode be answered within `delay`, and let the two come to no more than 15
seconds.  If the start-up has left time for the first answer to come within 25 seconds of its
beginning, and the user does not switch to another supernode, the watchdog never leaves the primary
one, and it was always heard from within the last 25 seconds. -/
theorem live_supernode_kept (showAddr : SocketAddr → String) (primary : SocketAddr)
    (supernodes : List SocketAddr) {begun now : Instant} {σ delay : ℕ}
    (hdelay : σ + delay ≤ fromSecs 15) (hstart : now + σ + delay ≤ begun + activityTimeout)
    (events : List SupervisionEvent)
    (hevents : Along (step showAddr)
      (fun s e => s.BeatTimely σ e ∧ s.Answered [primary] delay e ∧ e.Unswitched)
      (start showAddr primary supernodes begun now) events) :
    let s := run (step showAddr) (start showAddr primary supernodes begun now) events
    s.current = primary ∧ s.now ≤ s.lastActivity + activityTimeout := by
  intro s
  obtain ⟨hclock, htrack, hatt, hcurrent⟩ : s.Beating σ ∧ s.Tracked [primary] delay ∧
      s.Attended [primary] σ delay ∧ s.current = primary := by
    refine invariant (I := fun s => s.Beating σ ∧ s.Tracked [primary] delay ∧
      s.Attended [primary] σ delay ∧ s.current = primary) ?_ events _
      ⟨beating_start _ _ _ begun now σ, ⟨List.forall_mem_nil _, nofun, nofun⟩,
        ⟨List.mem_singleton_self _, .inr hstart, nofun⟩, rfl⟩ hevents
    rintro s e ⟨hclock, htrack, hatt, hcurrent⟩ ⟨htimely, hanswered, he⟩
    have hstep : (s.step showAddr e).Attended [primary] σ delay ∧
        (s.step showAddr e).current = s.current := hatt.step hclock htrack hdelay he
    exact ⟨hclock.step htimely, htrack.step hanswered he, hstep.1, hstep.2.trans hcurrent⟩
  exact ⟨hcurrent, hatt.now_le hclock htrack⟩

/-- Five seconds go by, and the watchdog looks at the supernode. -/
def nextLook : List SupervisionEvent := [.elapse (fromSecs 5), .tick, .report]

/-- Two heartbeats, the first of which is answered after a second. -/
def steadyRun : List SupervisionEvent :=
  [.beat, .tick, .report, .elapse (fromSecs 1), .arrives (.localhost 1), .elapse (fromSecs 4),
    .tick, .report] ++ nextLook ++ [.beat]

/-- Ten seconds after the start-up the edge is still with its supernode. -/
theorem live_supernode_kept_steadyRun :
    let s := run (step fun _ => "") (start (fun _ => "") (.localhost 1) [] 0 0) steadyRun
    s.now = fromSecs 10 ∧ s.current = .localhost 1 ∧ s.now ≤ s.lastActivity + activityTimeout := by
  have hkept := live_supernode_kept (fun _ => "") (.localhost 1) []
    (show fromSecs 1 + fromSecs 1 ≤ fromSecs 15 by decide)
    (show 0 + fromSecs 1 + fromSecs 1 ≤ 0 + activityTimeout by decide) steadyRun
    (by decide +kernel)
  exact ⟨by decide +kernel, hkept⟩

/-! ## A supernode that is down -/

/-- When the search that begins at `begun` is over. -/
def limit (begun : Instant) (s : Supervision) : Instant :=
  begun + activityTimeout + tickInterval * (s.supernodes.length + 1)

/-- A watchdog that has seen that the supernode is silent has used up a tick. -/
def slack : WatchdogTask → ℕ
  | .sampled _ sample => if sample.reachable then 0 else tickInterval
  | _ => 0

/-- How far the watchdog is: it has `k` moves ahead of it, or it has moved to a supernode that is up
and has not registered, or has registered there and is waiting for a sign of life. -/
inductive OnTheWay (live : List SocketAddr) (σ : ℕ) (limit : Instant) (s : Supervision) : Prop where
  | walking (k : ℕ) (hdown : s.current ∉ live) (hpos : 1 ≤ k)
      (hreach : (Rotation.next s.supernodes)^[k] s.current ∈ live)
      (hbound : s.nextTick + tickInterval * k ≤ limit + slack s.task)
  | arriving (hup : s.current ∈ live) (hbound : s.nextTick ≤ limit) {since : Instant}
      {previous target : SocketAddr} (htask : s.task = .moved since previous target)
  | joining (hup : s.current ∈ live) (hbound : s.nextTick ≤ limit) (htask : s.task = .waiting)
      {t : Instant} (hasked : (s.current, t) ∈ s.asked)
      (ht : t + tickInterval ≤ s.nextTick + 3 * σ)

/-- The watchdog is on its way through the list to a supernode that is up. -/
structure Searching (live : List SocketAddr) (σ : ℕ) (begun : Instant) (s : Supervision) :
    Prop where
  room : s.roomActive = true
  sampled : ∀ since sample, s.task = .sampled since sample → sample.roomActive = true
  nodup : s.supernodes.Nodup
  member : s.current ∈ s.supernodes
  up : ∃ a ∈ s.supernodes, a ∈ live
  silent : s.lastActivity ≤ begun
  way : s.OnTheWay live σ (s.limit begun)

/-- A search is over by its limit. -/
lemma Searching.now_le {begun : Instant} (h : s.Searching live σ begun) (hclock : s.Clocked σ)
    (htrack : s.Tracked live delay) (hσ : 3 * σ + delay < tickInterval) :
    s.now ≤ s.limit begun := by
  have hnow := hclock.task_now
  have hway := h.way
  generalize s.limit begun = lim at hway ⊢
  cases hway with
  | walking k _ hpos _ hbound =>
      have hmul : tickInterval ≤ tickInterval * k := Nat.le_mul_of_pos_right _ hpos
      cases htask : s.task with
      | waiting =>
          simp only [taskDue, slack, htask] at hnow hbound
          unfold Instant at *
          omega
      | sampled since sample =>
          have hsince := hclock.sampled since sample htask
          have hslack : slack s.task ≤ tickInterval := by
            simp only [slack, htask]
            split_ifs <;> omega
          simp only [taskDue, htask] at hnow
          unfold Instant at *
          omega
      | moved since previous target =>
          have hsince := hclock.moved since previous target htask
          simp only [taskDue, slack, htask] at hnow hbound
          unfold Instant at *
          omega
  | @arriving _ hbound since previous target htask =>
      have hsince := hclock.moved since previous target htask
      simp only [taskDue, htask] at hnow
      unfold Instant at *
      omega
  | @joining hup hbound _ t hasked ht =>
      have hanswer := htrack.asked _ hasked hup
      unfold Instant at *
      simp only at hanswer
      omega

/-- A tick at which the watchdog still finds the supernode reachable is one of the first, and leaves
enough of them. -/
lemma Searching.look {begun : Instant} (h : s.Searching live σ begun)
    (htrack : s.Tracked live delay) (hσ : 3 * σ + delay < tickInterval)
    (htask : s.task = .waiting) (hdue : s.nextTick ≤ s.now) : s.look.Searching live σ begun := by
  refine ⟨h.room, ?_, h.nodup, h.member, h.up, h.silent, ?_⟩
  · rintro _ _ ⟨⟩
    exact h.room
  cases h.way with
  | walking k hdown hpos hreach hbound =>
      by_cases hold : s.now - s.lastActivity ≤ activityTimeout
      · -- the silence is younger than the timeout, so every number of moves is affordable
        obtain ⟨a, ha, hlive⟩ := h.up
        obtain ⟨m, hm, hle, hma⟩ := Rotation.exists_iterate_next_of_nodup h.nodup h.member ha
        refine .walking m hdown hm (by rwa [Supervision.look, hma]) ?_
        have hmul : tickInterval * m ≤ tickInterval * s.supernodes.length :=
          Nat.mul_le_mul_left _ hle
        have hsilent := h.silent
        simp only [Supervision.look, slack, limit, hold, decide_true, if_true, Nat.mul_succ]
        unfold Instant at *
        omega
      · refine .walking k hdown hpos hreach ?_
        simp only [slack, htask, limit] at hbound
        simp only [Supervision.look, slack, limit, hold, decide_false, Bool.false_eq_true, if_false]
        unfold Instant at *
        omega
  | @arriving _ _ since previous target hmoved =>
      rw [htask] at hmoved
      cases hmoved
  | @joining hup hbound _ t hasked ht =>
      -- the answer has come before this tick
      have hanswer := htrack.asked _ hasked hup
      simp only at hanswer
      unfold Instant at *
      omega

/-- The watchdog moves on: to a supernode that is up, or one step closer to it. -/
lemma OnTheWay.next {lim since since' : Instant} {sample : Sample} {previous target : SocketAddr}
    (h : s.OnTheWay live σ lim) (htask : s.task = .sampled since sample)
    (hreach : sample.reachable = false) {s' : Supervision}
    (hcurrent : s'.current = Rotation.next s.supernodes s.current)
    (hsupernodes : s'.supernodes = s.supernodes) (htick : s'.nextTick = s.nextTick)
    (htask' : s'.task = .moved since' previous target) : s'.OnTheWay live σ lim := by
  cases h with
  | walking k _ hpos hk hbound =>
      simp only [slack, htask, hreach, Bool.false_eq_true, if_false] at hbound
      obtain ⟨k, rfl⟩ : ∃ j, k = j + 1 := ⟨k - 1, by omega⟩
      rw [Nat.mul_succ] at hbound
      by_cases hlive : s'.current ∈ live
      · refine .arriving hlive ?_ htask'
        rw [htick]
        unfold Instant at *
        omega
      · rw [Function.iterate_succ_apply, ← hcurrent, ← hsupernodes] at hk
        refine .walking k hlive ?_ hk ?_
        · rcases Nat.eq_zero_or_pos k with rfl | hpos
          · exact absurd hk hlive
          · exact hpos
        · rw [htick]
          simp only [slack, htask']
          unfold Instant at *
          omega
  | arriving _ _ hmoved =>
      rw [htask] at hmoved
      cases hmoved
  | joining _ _ hwaiting =>
      rw [htask] at hwaiting
      cases hwaiting

/-- Nothing that counts has changed. -/
lemma OnTheWay.of_same {lim : Instant} (h : s.OnTheWay live σ lim) {s' : Supervision}
    (hcurrent : s'.current = s.current) (hsupernodes : s'.supernodes = s.supernodes)
    (htick : s'.nextTick = s.nextTick) (htask : s'.task = s.task)
    (hasked : ∀ t, (s.current, t) ∈ s.asked → (s.current, t) ∈ s'.asked) :
    s'.OnTheWay live σ lim := by
  cases h with
  | walking k hdown hpos hreach hbound =>
      exact .walking k (hcurrent ▸ hdown) hpos (by rwa [hcurrent, hsupernodes])
        (by rwa [htick, htask])
  | arriving hup hbound hmoved =>
      exact .arriving (hcurrent ▸ hup) (htick ▸ hbound) (htask.trans hmoved)
  | joining hup hbound hwaiting hmem ht =>
      exact .joining (hcurrent ▸ hup) (htick ▸ hbound) (htask.trans hwaiting)
        (by rw [hcurrent]; exact hasked _ hmem) (htick ▸ ht)

/-- **A search over a step**: it goes on, or the supernode it has come to is heard from. -/
lemma Searching.step {begun : Instant} (h : s.Searching live σ begun) (hclock : s.Clocked σ)
    (htrack : s.Tracked live delay) (hσ : 3 * σ + delay < tickInterval) {e : SupervisionEvent}
    (hquiet : s.Quiet live e) (he : e.Unswitched) (hstays : e.StaysInRoom) :
    (s.step showAddr e).Attended live σ delay ∨ (s.step showAddr e).Searching live σ begun := by
  have hdoes := s.step_does showAddr e
  generalize s.step showAddr e = s' at hdoes ⊢
  cases hdoes with
  | elapses d =>
      exact .inr ⟨h.room, h.sampled, h.nodup, h.member, h.up, h.silent,
        h.way.of_same rfl rfl rfl rfl fun _ => id⟩
  | hears =>
      -- a supernode that is heard from is up, so the watchdog has come to it
      have hlive : s.current ∈ live := hquiet h.member
      have hnot : ∀ since sample, s.task ≠ .sampled since sample := by
        intro since sample htask
        cases h.way with
        | walking _ hdown => exact hdown hlive
        | arriving _ _ hmoved => rw [htask] at hmoved; cases hmoved
        | joining _ _ hwaiting => rw [htask] at hwaiting; cases hwaiting
      refine .inl (attended_hear ⟨hclock.beat_now, hclock.beat_ahead⟩ ?_ hlive ?_)
      · simp only [tickInterval, fromSecs] at hσ ⊢
        omega
      · exact fun since sample htask => absurd htask (hnot since sample)
  | ignores haddr =>
      refine .inr ⟨h.room, h.sampled, h.nodup, h.member, h.up, h.silent,
        h.way.of_same rfl rfl rfl rfl fun t ht => ?_⟩
      exact List.mem_filter.mpr ⟨ht, by simpa using haddr.symm⟩
  | beats =>
      exact .inr ⟨h.room, h.sampled, h.nodup, h.member, h.up, h.silent,
        h.way.of_same rfl rfl rfl rfl fun _ ht => List.mem_append_left _ ht⟩
  | looks htask hdue => exact .inr (h.look htrack hσ htask hdue)
  | @moves since sample htask _ hreach =>
      have hnext : nextSupernodeAfter sample.current s.supernodes =
          Rotation.next s.supernodes s.current := by
        rw [htrack.sampled since sample htask]
        exact nextSupernodeAfter_eq h.member
      have hcurrent : (if nextSupernodeAfter sample.current s.supernodes ≠ sample.current then
          nextSupernodeAfter sample.current s.supernodes else s.current) =
          Rotation.next s.supernodes s.current := by
        split_ifs with hsame
        · exact hnext
        · rw [← hnext, not_not.mp hsame, htrack.sampled since sample htask]
      refine .inr ⟨h.room, nofun, h.nodup, ?_, h.up, h.silent,
        h.way.next htask hreach hcurrent rfl rfl rfl⟩
      simp only [hcurrent]
      exact Rotation.next_mem h.member
  | @returns since sample htask hkeep =>
      have hreach := hkeep (h.sampled since sample htask)
      refine .inr ⟨h.room, nofun, h.nodup, h.member, h.up, h.silent, ?_⟩
      cases h.way with
      | walking k hdown hpos hk hbound =>
          simp only [slack, htask, hreach, if_true] at hbound
          exact .walking k hdown hpos hk hbound
      | arriving _ _ hmoved => rw [htask] at hmoved; cases hmoved
      | joining _ _ hwaiting => rw [htask] at hwaiting; cases hwaiting
  | @registers since previous target htask =>
      have htarget := htrack.moved since previous target htask
      refine .inr ⟨h.room, nofun, h.nodup, h.member, h.up, h.silent, ?_⟩
      cases h.way with
      | walking k hdown hpos hk hbound =>
          simp only [slack, htask] at hbound
          exact .walking k hdown hpos hk hbound
      | arriving hup hbound =>
          have hnow := hclock.task_now
          have hsince := hclock.moved since previous target htask
          simp only [taskDue, htask] at hnow
          have hasked : (s.current, s.now) ∈ s.asked ++ [(target, s.now)] := by
            rw [htarget]
            exact List.mem_append_right _ (List.mem_singleton_self _)
          refine .joining hup hbound rfl hasked ?_
          simp only [register]
          unfold Instant at *
          omega
      | joining _ _ hwaiting => rw [htask] at hwaiting; cases hwaiting
  | switches => exact he.elim
  | @sets e roomActive status hroom =>
      refine .inr ⟨?_, h.sampled, h.nodup, h.member, h.up, h.silent,
        h.way.of_same rfl rfl rfl rfl fun _ => id⟩
      rcases hroom with hsame | rfl
      · exact hsame.trans h.room
      · exact hstays

/-- A search that is past its limit has found a supernode that is up. -/
lemma finds_of_searching {begun : Instant} (h : s.Searching live σ begun) (hclock : s.Clocked σ)
    (htrack : s.Tracked live delay) (hσ : 3 * σ + delay < tickInterval)
    (events : List SupervisionEvent)
    (hevents : Along (step showAddr) (fun s e => s.Timely σ e ∧ s.Answered live delay e ∧
      s.Quiet live e ∧ e.Unswitched ∧ e.StaysInRoom) s events)
    (hlate : s.limit begun < (run (step showAddr) s events).now) :
    (run (step showAddr) s events).current ∈ live ∧
      (run (step showAddr) s events).now ≤
        (run (step showAddr) s events).lastActivity + activityTimeout := by
  have hdelay : σ + delay ≤ fromSecs 15 := by
    simp only [tickInterval, fromSecs] at hσ ⊢
    omega
  generalize hs' : run (step showAddr) s events = s' at hlate ⊢
  obtain ⟨hclock', htrack', hlimit, hfound⟩ : s'.Clocked σ ∧ s'.Tracked live delay ∧
      s'.limit begun = s.limit begun ∧
      (s'.Attended live σ delay ∨ s'.Searching live σ begun) := by
    rw [← hs']
    refine invariant (I := fun s' => s'.Clocked σ ∧ s'.Tracked live delay ∧
      s'.limit begun = s.limit begun ∧ (s'.Attended live σ delay ∨ s'.Searching live σ begun))
      ?_ events s ⟨hclock, htrack, rfl, .inr h⟩ hevents
    rintro s' e ⟨hclock', htrack', hlimit, hfound⟩ ⟨htimely, hanswered, hquiet, he, hstays⟩
    refine ⟨hclock'.step (by omega) htimely, htrack'.step hanswered he, ?_, ?_⟩
    · rw [← hlimit, limit, limit, supernodes_step]
    · rcases hfound with hatt | hsearch
      · exact .inl (hatt.step hclock'.toBeating htrack' hdelay he).1
      · exact hsearch.step hclock' htrack' hσ hquiet he hstays
  rcases hfound with hatt | hsearch
  · exact ⟨hatt.live, hatt.now_le hclock'.toBeating htrack'⟩
  · have hnow := hsearch.now_le hclock' htrack' hσ
    rw [hlimit] at hnow
    exact absurd hlate (Nat.not_lt.mpr hnow)

/-- **Failover finds a supernode that is up.**  Let both loops be late by at most `σ`, and let
`3 σ + delay` be less than 5 seconds.  Take a moment of a run between two ticks of the watchdog at
which the edge is in a room and its current supernode, one of the `n` different ones of the list, is
down.  Let some of the list be up from then on and answer within `delay` whatever is sent to them
from then on, let the others be silent, let the edge stay in its room and the user not switch to
another supernode.  Then at any time later than `30 + 5 n` seconds the current supernode is one that
is up, and it was heard from within the last 25 seconds. -/
theorem failover_finds_live (showAddr : SocketAddr → String) (primary : SocketAddr)
    (supernodes : List SocketAddr) {begun now : Instant} (hbegun : begun ≤ now)
    (live : List SocketAddr) {σ delay : ℕ} (hσ : 3 * σ + delay < tickInterval)
    (before after : List SupervisionEvent)
    (hbefore : Along (step showAddr) (Timely σ)
      (start showAddr primary supernodes begun now) before) :
    let s := run (step showAddr) (start showAddr primary supernodes begun now) before
    s.roomActive = true → s.task = .waiting → s.supernodes.Nodup → s.current ∈ s.supernodes →
    s.current ∉ live → (∃ a ∈ s.supernodes, a ∈ live) →
    Along (step showAddr) (fun s e => s.Timely σ e ∧ s.Answered live delay e ∧ s.Quiet live e ∧
      e.Unswitched ∧ e.StaysInRoom) { s with asked := [] } after →
    let s' := run (step showAddr) { s with asked := [] } after
    s.limit s.now < s'.now →
      s'.current ∈ live ∧ s'.now ≤ s'.lastActivity + activityTimeout := by
  intro s hroom htask hnodup hmember hdown hup hafter s' hlate
  have hclock : s.Clocked σ :=
    invariant (I := Clocked σ) (fun s e h htimely => h.step (by omega) htimely) before _
      (clocked_start _ _ _ hbegun σ) hbefore
  have hway : ({ s with asked := [] } : Supervision).OnTheWay live σ (s.limit s.now) := by
    obtain ⟨a, ha, hlive⟩ := hup
    obtain ⟨k, hk, hle, hreach⟩ := Rotation.exists_iterate_next_of_nodup hnodup hmember ha
    refine .walking k hdown hk (by simpa only [hreach] using hlive) ?_
    have htick := hclock.tick_ahead
    have hmul : tickInterval * k ≤ tickInterval * s.supernodes.length := Nat.mul_le_mul_left _ hle
    simp only [slack, htask, limit, Nat.mul_succ]
    unfold Instant at *
    omega
  have hsampled : ∀ since sample, s.task ≠ .sampled since sample := by
    rw [htask]
    exact nofun
  have hmoved : ∀ since previous target, s.task ≠ .moved since previous target := by
    rw [htask]
    exact nofun
  have hsearch : ({ s with asked := [] } : Supervision).Searching live σ s.now :=
    ⟨hroom, fun _ _ h => absurd h (hsampled _ _), hnodup, hmember, hup, hclock.activity, hway⟩
  have htrack : ({ s with asked := [] } : Supervision).Tracked live delay :=
    ⟨List.forall_mem_nil _, fun _ _ h => absurd h (hsampled _ _),
      fun _ _ _ h => absurd h (hmoved _ _ _)⟩
  exact finds_of_searching hsearch (hclock.withAsked []) htrack hσ after hafter hlate

/-- Three supernodes, of which the last is up: the first is silent for 30 seconds, then the second
is tried, then the third. -/
def failoverRun : List SupervisionEvent :=
  nextLook ++ nextLook ++ [.beat] ++ nextLook ++ nextLook ++ [.beat] ++ nextLook ++
    nextLook ++ [.announce, .beat] ++ nextLook ++ [.announce, .arrives (.localhost 3)] ++
    nextLook ++ [.beat, .arrives (.localhost 3)] ++ nextLook ++ nextLook ++ [.beat]

/-- After 50 seconds the edge is with the third. -/
theorem failover_finds_live_third :
    let s := run (step fun _ => "") (start (fun _ => "") (.localhost 1)
      [.localhost 2, .localhost 3] 0 0) [.room true, .beat, .tick, .report]
    let s' := run (step fun _ => "") { s with asked := [] } failoverRun
    s.current = .localhost 1 ∧ s'.now = fromSecs 50 ∧ s'.current ∈ [SocketAddr.localhost 3] ∧
      s'.now ≤ s'.lastActivity + activityTimeout := by
  have hfound := failover_finds_live (fun _ => "") (.localhost 1) [.localhost 2, .localhost 3]
    (le_refl 0) [.localhost 3] (show 3 * fromSecs 1 + fromSecs 1 < tickInterval by decide)
    [.room true, .beat, .tick, .report] failoverRun (by decide +kernel) (by decide +kernel)
    (by decide +kernel) (by decide +kernel) (by decide +kernel) (by decide +kernel)
    (by decide +kernel) (by decide +kernel) (by decide +kernel)
  exact ⟨by decide +kernel, by decide +kernel, hfound⟩

end Supervision

end R2N
