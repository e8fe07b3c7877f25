import R2N.Lib.Run
import R2N.Dataplane.Path

/-!
# Which path becomes active

`record_success` and `record_failure` choose the active path anew: the first of the paths with the
least score among those whose `last_success` is less than five seconds ago, and path 0 if there is
none.  A path that is added starts with `last_success` at the time of the call, so that it takes
part in the choice before anything was heard on it.

* `bestPath_spec` — the loop finds the first of the least scores among the fresh paths.
* `PathHistory` — a manager with what its calls have been: when each path was added, and when each
  address was last reported to have answered.
* `Recorded` — what `last_success` means in terms of those calls, kept by every call.
* **`active_proven_iff`** — along every run, the active path is path 0 or has answered in the last
  five seconds exactly if each path that was just added is outranked, when a path is chosen, by
  path 0 or by one that has answered.
* **`unanswered_path_active`** — one failure on the relay makes a path active that never answered.
-/

namespace R2N

open Run

/-! ## The choice -/

/-- `now.duration_since(path.last_success).as_secs() < 5`. -/
def PathInfo.Fresh (now : Instant) (p : PathInfo) : Prop := asSecs (now - p.lastSuccess) < 5

instance (now : Instant) (p : PathInfo) : Decidable (p.Fresh now) :=
  inferInstanceAs (Decidable (asSecs (now - p.lastSuccess) < 5))

lemma PathInfo.fresh_iff {now : Instant} {p : PathInfo} :
    p.Fresh now ↔ now < p.lastSuccess + fromSecs 5 := asSecs_sub_lt_iff (by decide)

/-- The path at `i` is the first of the fresh paths with the least score. -/
structure IsBest (now : Instant) (ps : List PathInfo) (i : ℕ) (p : PathInfo) : Prop where
  get : ps[i]? = some p
  fresh : p.Fresh now
  least : ∀ (j : ℕ) (q : PathInfo), ps[j]? = some q → q.Fresh now → p.score ≤ q.score
  first : ∀ (j : ℕ) (q : PathInfo), ps[j]? = some q → q.Fresh now → j < i → p.score < q.score

/-- No fresh path has a lower score than `bound`. -/
def NoneBelow (now : Instant) (ps : List PathInfo) (bound : ℚ) : Prop :=
  ∀ (j : ℕ) (q : PathInfo), ps[j]? = some q → q.Fresh now → bound ≤ q.score

lemma noneBelow_cons {now : Instant} {p : PathInfo} {ps : List PathInfo} {bound : ℚ}
    (hp : p.Fresh now → bound ≤ p.score) (hps : NoneBelow now ps bound) :
    NoneBelow now (p :: ps) bound := by
  intro j q hj hq
  cases j with
  | zero =>
      obtain rfl := Option.some.inj hj
      exact hp hq
  | succ j => exact hps j q hj hq

lemma isBest_zero {now : Instant} {p : PathInfo} {ps : List PathInfo} (hp : p.Fresh now)
    (hps : NoneBelow now ps p.score) : IsBest now (p :: ps) 0 p where
  get := rfl
  fresh := hp
  least := noneBelow_cons (fun _ => le_refl _) hps
  first := fun j _ _ _ hj => absurd hj (Nat.not_lt_zero j)

lemma IsBest.succ {now : Instant} {p q : PathInfo} {ps : List PathInfo} {k : ℕ}
    (h : IsBest now ps k q) (hp : p.Fresh now → q.score < p.score) :
    IsBest now (p :: ps) (k + 1) q where
  get := h.get
  fresh := h.fresh
  least := noneBelow_cons (fun hf => (hp hf).le) h.least
  first := by
    intro j r hj hr hlt
    cases j with
    | zero =>
        obtain rfl := Option.some.inj hj
        exact hp hr
    | succ j => exact h.first j r hj hr (Nat.lt_of_succ_lt_succ hlt)

/-- The loop from index `i` on keeps the best so far unless a fresh path has a lower score, and then
ends with the best path of the rest. -/
lemma bestPath_spec (now : Instant) (ps : List PathInfo) (i : ℕ) (best : ℕ × ℚ) :
    (bestPath now i best ps = best ∧ NoneBelow now ps best.2) ∨
    ∃ k p, IsBest now ps k p ∧ p.score < best.2 ∧ bestPath now i best ps = (i + k, p.score) := by
  induction ps generalizing i best with
  | nil => exact .inl ⟨rfl, by simp [NoneBelow]⟩
  | cons p ps ih =>
      have hindex : ∀ k, i + 1 + k = i + (k + 1) := by omega
      by_cases hp : p.Fresh now ∧ p.score < best.2
      · have hhead : bestPath now i best (p :: ps) = bestPath now (i + 1) (i, p.score) ps :=
          congrArg (bestPath now (i + 1) · ps) (if_pos hp)
        rw [hhead]
        refine .inr ?_
        rcases ih (i + 1) (i, p.score) with ⟨hend, hnone⟩ | ⟨k, q, hq, hlt, hend⟩
        · exact ⟨0, p, isBest_zero hp.1 hnone, hp.2, hend⟩
        · exact ⟨k + 1, q, hq.succ fun _ => hlt, hlt.trans hp.2, hindex k ▸ hend⟩
      · have hhead : bestPath now i best (p :: ps) = bestPath now (i + 1) best ps :=
          congrArg (bestPath now (i + 1) · ps) (if_neg hp)
        have hworse : p.Fresh now → best.2 ≤ p.score := fun hf => not_lt.mp fun hlt => hp ⟨hf, hlt⟩
        rw [hhead]
        rcases ih (i + 1) best with ⟨hend, hnone⟩ | ⟨k, q, hq, hlt, hend⟩
        · exact .inl ⟨hend, noneBelow_cons hworse hnone⟩
        · exact .inr ⟨k + 1, q, hq.succ fun hf => hlt.trans_le (hworse hf), hlt, hindex k ▸ hend⟩

lemma PathManager.active_eq {m : PathManager} {p : PathInfo}
    (h : m.paths[m.activeIndex]? = some p) : m.active = p := by
  rw [active, List.get_eq_getElem]
  exact Option.some.inj ((List.getElem?_eq_getElem m.active_lt).symm.trans h)

/-! ## The calls on a manager -/

inductive PathCall where
  | add (now : Instant) (addr : SocketAddr) (isRelay : Bool)
  | success (now : Instant) (addr : SocketAddr) (rttMs : ℚ)
  | failure (now : Instant) (addr : SocketAddr)

namespace PathCall

def now : PathCall → Instant
  | add now _ _ | success now _ _ | failure now _ => now

/-- The calls that choose the active path. -/
def Chooses : PathCall → Prop
  | add _ _ _ => False
  | success _ _ _ | failure _ _ => True

/-- The measurement a call brings, on the path with its address. -/
def measure : PathCall → PathInfo → PathInfo
  | add _ _ _, p => p
  | success now _ rttMs, p => { p.updateRtt now rttMs with lossEwma := p.lossEwma * (1 - 1 / 10) }
  | failure _ _, p => { p with lossEwma := p.lossEwma * (1 - 1 / 10) + 1 / 10 }

def addr : PathCall → SocketAddr
  | add _ addr _ | success _ addr _ | failure _ addr => addr

end PathCall

/-- A manager and its calls: when each path was added, and when `record_success` was last called
for each address. -/
structure PathHistory where
  manager : PathManager
  clock : Instant
  added : SocketAddr → Option Instant
  answered : SocketAddr → Option Instant

namespace PathHistory

def start (now : Instant) (relayAddr : SocketAddr) : PathHistory where
  manager := .new now relayAddr
  clock := now
  added := Function.update (fun _ => none) relayAddr (some now)
  answered := fun _ => none

def step (s : PathHistory) : PathCall → PathHistory
  | .add now addr isRelay =>
      { s with
        manager := s.manager.addOrUpdatePath now addr isRelay
        clock := now
        added := if s.manager.paths.any fun p => p.addr = addr then s.added
          else Function.update s.added addr (some now) }
  | .success now addr rttMs =>
      { s with
        manager := s.manager.recordSuccess now addr rttMs
        clock := now
        answered := Function.update s.answered addr (some now) }
  | .failure now addr =>
      { s with manager := s.manager.recordFailure now addr, clock := now }

/-- The paths with the measurement of a call. -/
def measured (s : PathHistory) (call : PathCall) : List PathInfo :=
  PathManager.modifyFirst call.addr call.measure s.manager.paths

@[simp] lemma clock_step (s : PathHistory) (call : PathCall) : (s.step call).clock = call.now := by
  cases call <;> rfl

/-- A call that chooses does so among the measured paths. -/
lemma manager_step_of_chooses (s : PathHistory) {call : PathCall} (h : call.Chooses) :
    (s.step call).manager.paths = s.measured call ∧
      (s.step call).manager.activeIndex =
        (bestPath call.now 0 (0, f32Max) (s.measured call)).1 := by
  cases call with
  | add _ _ _ => exact absurd h id
  | success now addr rttMs =>
      have hmeasure : PathCall.measure (.success now addr rttMs) = fun p : PathInfo =>
          { p.updateRtt now rttMs with
            lossEwma := (p.updateRtt now rttMs).lossEwma * (1 - 1 / 10) + 1 / 10 * 0 } := by
        funext p
        simp [PathCall.measure, PathInfo.updateRtt]
      simp only [measured, hmeasure]
      exact ⟨rfl, rfl⟩
  | failure now addr =>
      have hmeasure : PathCall.measure (.failure now addr) = fun p : PathInfo =>
          { p with lossEwma := p.lossEwma * (1 - 1 / 10) + 1 / 10 * 1 } := by
        funext p
        simp [PathCall.measure]
      simp only [measured, hmeasure]
      exact ⟨rfl, rfl⟩

/-! ## What `last_success` stands for -/

/-- A path's `last_success` is the later of the time it was added and the last success that was
recorded for its address. -/
structure Recorded (s : PathHistory) : Prop where
  path : ∀ p ∈ s.manager.paths, ∃ a, s.added p.addr = some a ∧ a ≤ s.clock ∧
    p.lastSuccess = max a ((s.answered p.addr).getD 0)
  distinct : (s.manager.paths.map PathInfo.addr).Nodup
  answered_le : ∀ addr t, s.answered addr = some t → t ≤ s.clock

lemma recorded_start (now : Instant) (relayAddr : SocketAddr) :
    (start now relayAddr).Recorded where
  path := by
    intro p hp
    obtain rfl := List.mem_singleton.mp hp
    exact ⟨now, by simp [start, PathInfo.new], le_refl _, by simp [start, PathInfo.new]⟩
  distinct := List.nodup_singleton _
  answered_le := fun _ _ h => by cases h

/-- An element of the list after one path was changed, when addresses are distinct. -/
lemma mem_modifyFirst {addr : SocketAddr} {f : PathInfo → PathInfo} {ps : List PathInfo}
    (hdistinct : (ps.map PathInfo.addr).Nodup) {q : PathInfo}
    (hq : q ∈ PathManager.modifyFirst addr f ps) :
    (∃ p ∈ ps, p.addr = addr ∧ q = f p) ∨ (q ∈ ps ∧ q.addr ≠ addr) := by
  induction ps with
  | nil => cases hq
  | cons p ps ih =>
      rw [List.map_cons, List.nodup_cons] at hdistinct
      rw [PathManager.modifyFirst] at hq
      split_ifs at hq with hp
      · rcases List.mem_cons.mp hq with rfl | hmem
        · exact .inl ⟨p, List.mem_cons_self, hp, rfl⟩
        · refine .inr ⟨List.mem_cons_of_mem p hmem, fun heq => hdistinct.1 ?_⟩
          rw [hp, ← heq]
          exact List.mem_map_of_mem hmem
      · rcases List.mem_cons.mp hq with rfl | hmem
        · exact .inr ⟨List.mem_cons_self, hp⟩
        · rcases ih hdistinct.2 hmem with ⟨r, hr, haddr, rfl⟩ | ⟨hr, haddr⟩
          · exact .inl ⟨r, List.mem_cons_of_mem p hr, haddr, rfl⟩
          · exact .inr ⟨List.mem_cons_of_mem p hr, haddr⟩

lemma map_addr_modifyFirst {addr : SocketAddr} {f : PathInfo → PathInfo}
    (hf : ∀ p, (f p).addr = p.addr) (ps : List PathInfo) :
    (PathManager.modifyFirst addr f ps).map PathInfo.addr = ps.map PathInfo.addr := by
  induction ps with
  | nil => rfl
  | cons p ps ih =>
      rw [PathManager.modifyFirst]
      split_ifs
      · rw [List.map_cons, List.map_cons, hf]
      · rw [List.map_cons, List.map_cons, ih]

lemma addr_measure (call : PathCall) (p : PathInfo) : (call.measure p).addr = p.addr := by
  cases call <;> rfl

/-- Adding a path. -/
lemma Recorded.add {s : PathHistory} (h : s.Recorded) {now : Instant} (hnow : s.clock ≤ now)
    (addr : SocketAddr) (isRelay : Bool) : (s.step (.add now addr isRelay)).Recorded := by
  have hle : ∀ a t, s.answered a = some t → t ≤ now := fun a t ht =>
    (h.answered_le a t ht).trans hnow
  by_cases hany : s.manager.paths.any fun p => p.addr = addr
  · have hsame : s.step (.add now addr isRelay) = { s with clock := now } := by
      simp only [step, PathManager.addOrUpdatePath, if_pos hany]
    rw [hsame]
    refine ⟨fun p hp => ?_, h.distinct, hle⟩
    obtain ⟨a, ha, hclock, hlast⟩ := h.path p hp
    exact ⟨a, ha, hclock.trans hnow, hlast⟩
  · have hpaths : (s.step (.add now addr isRelay)).manager.paths =
        s.manager.paths ++ [PathInfo.new now addr isRelay] := by
      simp only [step, PathManager.addOrUpdatePath, if_neg hany]
    have hadded : (s.step (.add now addr isRelay)).added =
        Function.update s.added addr (some now) := by
      simp only [step, if_neg hany]
    have hnew : ∀ p ∈ s.manager.paths, p.addr ≠ addr := by simpa using hany
    refine ⟨fun p hp => ?_, ?_, hle⟩
    · rw [hpaths, List.mem_append, List.mem_singleton] at hp
      rw [hadded]
      rcases hp with hp | rfl
      · obtain ⟨a, ha, hclock, hlast⟩ := h.path p hp
        exact ⟨a, by rw [Function.update_of_ne (hnew p hp), ha], hclock.trans hnow, hlast⟩
      · refine ⟨now, by simp [PathInfo.new], le_refl _, (max_eq_left ?_).symm⟩
        -- a success was recorded for the address before it had a path
        show (s.answered addr).getD 0 ≤ now
        cases ht : s.answered addr with
        | none => exact Nat.zero_le now
        | some t => exact hle addr t ht
    · rw [hpaths, List.map_append, List.nodup_append]
      refine ⟨h.distinct, List.nodup_singleton _, fun a ha b hb => ?_⟩
      obtain ⟨p, hp, rfl⟩ := List.mem_map.mp ha
      rw [List.mem_singleton.mp hb]
      exact hnew p hp

/-- Recording a success or a failure. -/
lemma Recorded.chooses {s : PathHistory} (h : s.Recorded) {call : PathCall}
    (hcall : call.Chooses) (hnow : s.clock ≤ call.now) : (s.step call).Recorded := by
  have hpaths := (s.manager_step_of_chooses hcall).1
  have hadded : (s.step call).added = s.added := by
    cases call with
    | add _ _ _ => exact absurd hcall id
    | success _ _ _ => rfl
    | failure _ _ => rfl
  refine ⟨fun q hq => ?_, ?_, fun a t ht => ?_⟩
  · rw [hpaths] at hq
    rw [hadded, clock_step]
    rcases mem_modifyFirst h.distinct hq with ⟨p, hp, haddr, rfl⟩ | ⟨hp, hne⟩
    · obtain ⟨a, ha, hclock, hlast⟩ := h.path p hp
      refine ⟨a, by rw [addr_measure, ha], hclock.trans hnow, ?_⟩
      cases call with
      | add _ _ _ => exact absurd hcall id
      | success now addr rttMs =>
          obtain rfl : p.addr = addr := haddr
          have hmax : max a now = now := max_eq_right (hclock.trans hnow)
          simpa [PathCall.measure, PathInfo.updateRtt, step] using hmax.symm
      | failure now addr => exact hlast
    · obtain ⟨a, ha, hclock, hlast⟩ := h.path q hp
      refine ⟨a, ha, hclock.trans hnow, ?_⟩
      cases call with
      | add _ _ _ => exact absurd hcall id
      | success now addr rttMs =>
          simpa only [step, Function.update_of_ne (show q.addr ≠ addr from hne)] using hlast
      | failure now addr => exact hlast
  · rw [hpaths, measured, map_addr_modifyFirst (addr_measure call)]
    exact h.distinct
  · rw [clock_step]
    cases call with
    | add _ _ _ => exact absurd hcall id
    | success now addr rttMs =>
        by_cases ha : a = addr
        · subst ha
          obtain rfl : now = t := by simpa [step] using ht
          exact le_refl _
        · have ht : s.answered a = some t := by simpa [step, ha] using ht
          exact (h.answered_le a t ht).trans hnow
    | failure now addr => exact (h.answered_le a t ht).trans hnow

/-- **The invariant step.** -/
lemma Recorded.step {s : PathHistory} (h : s.Recorded) (call : PathCall)
    (hnow : s.clock ≤ call.now) : (s.step call).Recorded := by
  cases call with
  | add now addr isRelay => exact h.add hnow addr isRelay
  | success now addr rttMs => exact h.chooses trivial hnow
  | failure now addr => exact h.chooses trivial hnow

/-! ## Proven paths -/

/-- Less than five seconds before `now`. -/
def Recent (now : Instant) (time : Option Instant) : Prop := ∃ t ∈ time, now < t + fromSecs 5

@[simp] lemma recent_none (now : Instant) : ¬ Recent now none := by
  rintro ⟨t, ht, -⟩
  cases ht

@[simp] lemma recent_some (now t : Instant) : Recent now (some t) ↔ now < t + fromSecs 5 := by
  constructor
  · rintro ⟨t', ht, h⟩
    rwa [Option.some.inj ht]
  · exact fun h => ⟨t, rfl, h⟩

/-- `record_success` was called for the address less than five seconds ago. -/
def Answered (s : PathHistory) (addr : SocketAddr) : Prop := Recent s.clock (s.answered addr)

/-- The path of the address was added less than five seconds ago. -/
def JustAdded (s : PathHistory) (addr : SocketAddr) : Prop := Recent s.clock (s.added addr)

/-- A path takes part in the choice if it was added or has answered in the last five seconds. -/
lemma Recorded.fresh_iff {s : PathHistory} (h : s.Recorded) {p : PathInfo}
    (hp : p ∈ s.manager.paths) : p.Fresh s.clock ↔ s.JustAdded p.addr ∨ s.Answered p.addr := by
  obtain ⟨a, ha, -, hlast⟩ := h.path p hp
  rw [PathInfo.fresh_iff, hlast, JustAdded, Answered, ha]
  cases ht : s.answered p.addr with
  | none => simp only [Option.getD_none, Nat.zero_le, sup_of_le_left, recent_some, recent_none,
      or_false]
  | some t => simp only [Option.getD_some, recent_some, max_add, lt_max_iff]

/-- The active path is path 0, or has answered in the last five seconds. -/
def ActiveProven (s : PathHistory) : Prop :=
  s.manager.activeIndex = 0 ∨ s.Answered s.manager.activeAddr

/-- In the order of the choice, path `q` at `j` comes before path `p` at `i`. -/
def Outranks (j : ℕ) (q : PathInfo) (i : ℕ) (p : PathInfo) : Prop :=
  q.score < p.score ∨ q.score = p.score ∧ j < i

/-- With the measurement of a call, every path but path 0 that was just added and has not answered
comes behind one that has, or behind path 0. -/
def Outranked (s : PathHistory) (call : PathCall) : Prop :=
  let s' := s.step call
  ∀ (i : ℕ) (p : PathInfo), (s.measured call)[i]? = some p → i ≠ 0 → s'.JustAdded p.addr →
    ¬ s'.Answered p.addr → p.score < f32Max →
    ∃ (j : ℕ) (q : PathInfo), (s.measured call)[j]? = some q ∧
      (s'.Answered q.addr ∨ j = 0 ∧ s'.JustAdded q.addr) ∧ Outranks j q i p

/-- **The choice**, for one call. -/
lemma Recorded.activeProven_iff {s : PathHistory} (h : s.Recorded) (call : PathCall)
    (hcall : call.Chooses) (hnow : s.clock ≤ call.now) :
    (s.step call).ActiveProven ↔ s.Outranked call := by
  have hrecorded := h.chooses hcall hnow
  obtain ⟨hpaths, hactive⟩ := s.manager_step_of_chooses hcall
  have hfresh : ∀ (j : ℕ) (q : PathInfo), (s.measured call)[j]? = some q →
      (q.Fresh call.now ↔ (s.step call).JustAdded q.addr ∨ (s.step call).Answered q.addr) := by
    intro j q hj
    rw [← clock_step s call]
    exact hrecorded.fresh_iff (hpaths ▸ List.mem_of_getElem? hj)
  rcases bestPath_spec call.now (s.measured call) 0 (0, f32Max) with
    ⟨hend, hnone⟩ | ⟨k, best, hbest, hlt, hend⟩
  · -- nothing takes part: path 0 is chosen, and nothing has to be outranked
    refine iff_of_true (.inl (by rw [hactive, hend])) fun i p hp _ hadded _ hscore => ?_
    exact absurd (hnone i p hp ((hfresh i p hp).mpr (.inl hadded))) (not_le.mpr hscore)
  have hk : (s.step call).manager.activeIndex = k := by rw [hactive, hend, Nat.zero_add]
  have hpath : (s.step call).manager.active = best :=
    PathManager.active_eq (by rw [hk, hpaths, hbest.get])
  rw [ActiveProven, PathManager.activeAddr, hk, hpath]
  constructor
  · intro hproven i p hp hi hadded hans _
    refine ⟨k, best, hbest.get, ?_, ?_⟩
    · rcases hproven with rfl | hproven
      · exact ((hfresh _ best hbest.get).mp hbest.fresh).symm.imp_right fun ha => ⟨rfl, ha⟩
      · exact .inl hproven
    · have hpf : p.Fresh call.now := (hfresh i p hp).mpr (.inl hadded)
      rcases (hbest.least i p hp hpf).lt_or_eq with hlow | heq
      · exact .inl hlow
      · refine .inr ⟨heq, ?_⟩
        have hne : i ≠ k := by
          rintro rfl
          obtain rfl := Option.some.inj (hp.symm.trans hbest.get)
          exact hproven.elim hi hans
        have hnot : ¬ i < k := fun hik => (hbest.first i p hp hpf hik).ne heq
        omega
  · intro hout
    by_contra hunproven
    push Not at hunproven
    have hadded : (s.step call).JustAdded best.addr :=
      ((hfresh k best hbest.get).mp hbest.fresh).resolve_right hunproven.2
    obtain ⟨j, q, hq, hpart, hrank⟩ := hout k best hbest.get hunproven.1 hadded hunproven.2 hlt
    have hqf : q.Fresh call.now := (hfresh j q hq).mpr (hpart.symm.imp_left And.right)
    rcases hrank with hlow | ⟨heq, hjk⟩
    · exact absurd (hbest.least j q hq hqf) (not_le.mpr hlow)
    · exact (hbest.first j q hq hqf hjk).ne heq.symm

/-- The clock does not go back along the calls. -/
def Timely (s : PathHistory) (call : PathCall) : Prop := s.clock ≤ call.now

/-- **Only proven paths become active**, along a run of calls on a new manager, exactly if at every
choice each path that was just added and has not answered is outranked by path 0 or by a path that
has answered. -/
theorem active_proven_iff (now : Instant) (relayAddr : SocketAddr) (calls : List PathCall)
    (hclock : Along step Timely (start now relayAddr) calls) :
    Along step (fun s call => call.Chooses → (s.step call).ActiveProven) (start now relayAddr)
        calls ↔
      Along step (fun s call => call.Chooses → s.Outranked call) (start now relayAddr) calls :=
  Along.iff_of_along (I := Recorded) (fun _ call h hnow => h.step call hnow)
    (fun _ call h hnow => forall_congr' fun hcall => h.activeProven_iff call hcall hnow)
    calls _ (recorded_start now relayAddr) hclock

/-- A relay, and a path that is added and answers two seconds later. -/
theorem active_proven_answered :
    let calls := [.add 0 (.localhost 2) false, .success (fromSecs 2) (.localhost 2) 20]
    Along step Timely (start 0 (.localhost 1)) calls ∧
      (Along step (fun s call => call.Chooses → (s.step call).ActiveProven)
          (start 0 (.localhost 1)) calls ↔
        Along step (fun s call => call.Chooses → s.Outranked call) (start 0 (.localhost 1))
          calls) :=
  have hclock : Along step Timely (start 0 (.localhost 1))
      [.add 0 (.localhost 2) false, .success (fromSecs 2) (.localhost 2) 20] :=
    ⟨le_refl _, Nat.zero_le _, trivial⟩
  ⟨hclock, active_proven_iff 0 (.localhost 1) _ hclock⟩

/-- **A path that never answered becomes active**: it is added, and one failure is recorded on the
relay. -/
theorem unanswered_path_active :
    ¬ Along step (fun s call => call.Chooses → (s.step call).ActiveProven)
      (start 0 (.localhost 1)) [.add 0 (.localhost 2) false, .failure 0 (.localhost 1)] := by
  rintro ⟨-, hproven, -⟩
  have hactive : ((((start 0 (.localhost 1)).step (.add 0 (.localhost 2) false)).step
      (.failure 0 (.localhost 1))).manager).activeIndex = 1 := by decide +kernel
  rcases hproven trivial with hzero | hanswered
  · rw [hactive] at hzero
    cases hzero
  · exact recent_none _ hanswered

end PathHistory

end R2N
