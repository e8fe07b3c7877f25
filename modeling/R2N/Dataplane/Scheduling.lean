import Mathlib.Data.List.ReduceOption
import R2N.Dataplane.Buffers
import R2N.Lib.ClassQueue
import R2N.Lib.Run

/-!
# The send queue as a priority queue

`r2n-qos` keeps one queue per traffic class.  What it is for is a single list in arrival order, from
which the earliest item of the most urgent class is taken, and in which only so many bulk items
may wait.

* `QosCall` — the two calls; `QosScheduler.step`, `QosScheduler.returned` — what one of them does
  and what it returns.
* `PriorityList` — the list: `PriorityList.push` makes room for a bulk item by dropping the oldest
  one, `PriorityList.pop` takes the earliest item of the highest class.
* `Represents` — the four queues are the classes of the list, and no more bulk items wait than the
  capacity allows; **`represents_step`** — every call keeps it and returns the same.
* `PriorityList.removed_append_waiting` — a call lets out the front of a class and nothing else.
* **`qos_refines_priorityList`** — both over whole sequences of calls.
-/

namespace R2N

open ClassQueue (waiting dropFirst first popHighest waiting_cons waiting_append waiting_dropFirst
  waiting_first_append waiting_popHighest popHighest_cons popHighest_nil)

/-- The order in which `pop` asks the queues. -/
def trafficRanking : List TrafficClass := [.control, .realtime, .interactive, .bulk]

/-- A call of `QosScheduler`. -/
inductive QosCall (T : Type) where
  | push (cls : TrafficClass) (item : T)
  | pop

variable {T : Type}

/-- The item a call hands in, with its class. -/
def QosCall.pushed : QosCall T → List (TrafficClass × T)
  | .push cls item => [(cls, item)]
  | .pop => []

namespace QosScheduler

/-- The queue of a class. -/
def queue (q : QosScheduler T) : TrafficClass → List T
  | .control => q.control
  | .realtime => q.realtime
  | .interactive => q.interactive
  | .bulk => q.bulk

def step (q : QosScheduler T) : QosCall T → QosScheduler T
  | .push cls item => q.push cls item
  | .pop => q.pop.2

/-- What a call returns: `push` nothing, `pop` an item if there is one. -/
def returned (q : QosScheduler T) : QosCall T → List (Option T)
  | .push _ _ => []
  | .pop => [q.pop.1]

@[simp] lemma queue_new (capacity : ℕ) (c : TrafficClass) :
    (new capacity : QosScheduler T).queue c = [] := by
  cases c <;> rfl

@[simp] lemma bulkCapacity_step (q : QosScheduler T) (call : QosCall T) :
    (q.step call).bulkCapacity = q.bulkCapacity := by
  cases call with
  | push cls item => cases cls <;> rfl
  | pop =>
      simp only [step, pop]
      split <;> [rfl; split <;> [rfl; split <;> [rfl; split <;> rfl]]]

lemma queue_push (q : QosScheduler T) (cls c : TrafficClass) (item : T) :
    (q.push cls item).queue c =
      (if cls = .bulk ∧ q.bulkCapacity ≤ q.bulk.length ∧ c = .bulk then (q.queue c).tail
        else q.queue c) ++ if cls = c then [item] else [] := by
  cases cls <;> cases c <;> simp [push, queue]

end QosScheduler

/-! ## The reference -/

/-- Everything that waits, in arrival order. -/
abbrev PriorityList (T : Type) := List (TrafficClass × T)

namespace PriorityList

/-- A bulk item finds the capacity used up. -/
def Full (capacity : ℕ) (ref : PriorityList T) (cls : TrafficClass) : Prop :=
  cls = .bulk ∧ (waiting .bulk ref).length = capacity

instance (capacity : ℕ) (ref : PriorityList T) (cls : TrafficClass) :
    Decidable (Full capacity ref cls) :=
  inferInstanceAs (Decidable (_ ∧ _))

def push (capacity : ℕ) (ref : PriorityList T) (cls : TrafficClass) (item : T) : PriorityList T :=
  (if Full capacity ref cls then dropFirst .bulk ref else ref) ++ [(cls, item)]

def pop (ref : PriorityList T) : Option (TrafficClass × T) × PriorityList T :=
  popHighest trafficRanking ref

def step (capacity : ℕ) (ref : PriorityList T) : QosCall T → PriorityList T
  | .push cls item => push capacity ref cls item
  | .pop => ref.pop.2

def returned (ref : PriorityList T) : QosCall T → List (Option T)
  | .push _ _ => []
  | .pop => [ref.pop.1.map (·.2)]

/-- What a call drops. -/
def dropped (capacity : ℕ) (ref : PriorityList T) : QosCall T → List (TrafficClass × T)
  | .push cls _ => if Full capacity ref cls then (first .bulk ref).toList else []
  | .pop => []

/-- What a call hands out. -/
def popped (ref : PriorityList T) : QosCall T → List (TrafficClass × T)
  | .push _ _ => []
  | .pop => ref.pop.1.toList

/-- What leaves the list in a call, either way. -/
def removed (capacity : ℕ) (ref : PriorityList T) (call : QosCall T) : List (TrafficClass × T) :=
  dropped capacity ref call ++ popped ref call

/-- A call lets out the front of what waits in a class, and lets in what it pushes at the end. -/
lemma removed_append_waiting (capacity : ℕ) (c : TrafficClass) (ref : PriorityList T)
    (call : QosCall T) :
    waiting c ref ++ waiting c call.pushed =
      waiting c (removed capacity ref call) ++ waiting c (step capacity ref call) := by
  cases call with
  | push cls item =>
      simp only [removed, dropped, popped, step, push, QosCall.pushed, List.append_nil]
      split_ifs with hfull
      · rw [waiting_append, ← List.append_assoc, waiting_first_append]
      · simp
  | pop =>
      have hpop := waiting_popHighest c trafficRanking ref
      simpa [removed, dropped, popped, step, QosCall.pushed, pop] using hpop.symm

/-- Only bulk items are dropped. -/
lemma waiting_dropped {c : TrafficClass} (hc : c ≠ .bulk) (capacity : ℕ) (ref : PriorityList T)
    (call : QosCall T) : waiting c (dropped capacity ref call) = [] := by
  cases call with
  | push cls item =>
      have hfirst : waiting c (first .bulk ref).toList = [] := by
        rw [ClassQueue.first_eq_head?]
        cases (waiting .bulk ref).head? <;> simp [hc.symm]
      by_cases hfull : Full capacity ref cls <;> simp [dropped, hfull, hfirst]
  | pop => rfl

/-- What a call returns is what it hands out, without its class. -/
lemma reduceOption_returned (ref : PriorityList T) (call : QosCall T) :
    (returned ref call).reduceOption = (popped ref call).map (·.2) := by
  cases call with
  | push cls item => rfl
  | pop =>
      cases h : ref.pop.1 with
      | none => simp [returned, popped, h]
      | some entry => simp [returned, popped, h]

end PriorityList

/-! ## The simulation -/

/-- The four queues are the four classes of the list, and the bulk queue keeps to its capacity. -/
structure Represents (capacity : ℕ) (q : QosScheduler T) (ref : PriorityList T) : Prop where
  capacity_eq : q.bulkCapacity = capacity
  queue_eq : ∀ c, q.queue c = waiting c ref
  bulk_le : q.bulk.length ≤ capacity

lemma represents_new (capacity : ℕ) :
    Represents capacity (QosScheduler.new capacity : QosScheduler T) [] :=
  ⟨rfl, by simp, by simp [QosScheduler.new]⟩

lemma full_iff {capacity : ℕ} {q : QosScheduler T} {ref : PriorityList T}
    (h : Represents capacity q ref) (cls : TrafficClass) :
    ref.Full capacity cls ↔ cls = .bulk ∧ q.bulkCapacity ≤ q.bulk.length := by
  have hbulk : q.bulk = waiting .bulk ref := h.queue_eq .bulk
  have hle := h.bulk_le
  rw [PriorityList.Full, h.capacity_eq, ← hbulk]
  refine and_congr_right fun _ => ?_
  omega

lemma represents_push {capacity : ℕ} (hpos : 1 ≤ capacity) {q : QosScheduler T}
    {ref : PriorityList T} (h : Represents capacity q ref) (cls : TrafficClass) (item : T) :
    Represents capacity (q.push cls item) (ref.push capacity cls item) := by
  have hqueue : ∀ c, (q.push cls item).queue c = waiting c (ref.push capacity cls item) := by
    intro c
    have hiff := full_iff h cls
    rw [QosScheduler.queue_push, PriorityList.push, waiting_append, h.queue_eq]
    by_cases hfull : ref.Full capacity cls
    · have hcls := hiff.mp hfull
      rw [if_pos hfull, waiting_dropFirst]
      simp [hcls.1, hcls.2, eq_comm]
    · have hcls : ¬ (cls = .bulk ∧ q.bulkCapacity ≤ q.bulk.length ∧ c = .bulk) :=
        fun hdrop => hfull (hiff.mpr ⟨hdrop.1, hdrop.2.1⟩)
      simp [hfull, hcls]
  refine ⟨?_, hqueue, ?_⟩
  · rw [← h.capacity_eq]
    exact QosScheduler.bulkCapacity_step q (.push cls item)
  · have hle := h.bulk_le
    cases cls with
    | bulk =>
        simp only [QosScheduler.push, h.capacity_eq]
        split_ifs with hfull
        · simp only [List.length_append, List.length_tail, List.length_singleton]
          omega
        · simp only [List.length_append, List.length_singleton]
          omega
    | _ => exact hle

/-- The list loses the head of a class where the queue of that class does. -/
lemma represents_dropFirst {capacity : ℕ} {q q' : QosScheduler T} {ref : PriorityList T}
    (h : Represents capacity q ref) {d : TrafficClass} (hcap : q'.bulkCapacity = q.bulkCapacity)
    (hqueue : ∀ c, q'.queue c = if d = c then (q.queue c).tail else q.queue c) :
    Represents capacity q' (dropFirst d ref) := by
  refine ⟨hcap.trans h.capacity_eq, ?_, ?_⟩
  · intro c
    rw [hqueue, waiting_dropFirst, h.queue_eq]
  · have hle := h.bulk_le
    have hbulk : q'.bulk = if d = .bulk then q.bulk.tail else q.bulk := hqueue .bulk
    rw [hbulk]
    split_ifs
    · rw [List.length_tail]
      omega
    · exact hle

lemma represents_pop {capacity : ℕ} {q : QosScheduler T} {ref : PriorityList T}
    (h : Represents capacity q ref) :
    q.pop.1 = ref.pop.1.map (·.2) ∧ Represents capacity q.pop.2 ref.pop.2 := by
  have hcontrol : waiting .control ref = q.control := (h.queue_eq .control).symm
  have hrealtime : waiting .realtime ref = q.realtime := (h.queue_eq .realtime).symm
  have hinteractive : waiting .interactive ref = q.interactive := (h.queue_eq .interactive).symm
  have hbulk : waiting .bulk ref = q.bulk := (h.queue_eq .bulk).symm
  rw [PriorityList.pop, trafficRanking, popHighest_cons, popHighest_cons, popHighest_cons,
    popHighest_cons, popHighest_nil, hcontrol, hrealtime, hinteractive, hbulk]
  -- the queues are asked in the order of the ranking, so both sides branch alike
  obtain ⟨control, realtime, interactive, bulk, bulkCapacity⟩ := q
  cases control with
  | cons item control =>
      exact ⟨rfl, represents_dropFirst h rfl (by intro c; cases c <;> rfl)⟩
  | nil =>
      cases realtime with
      | cons item realtime =>
          exact ⟨rfl, represents_dropFirst h rfl (by intro c; cases c <;> rfl)⟩
      | nil =>
          cases interactive with
          | cons item interactive =>
              exact ⟨rfl, represents_dropFirst h rfl (by intro c; cases c <;> rfl)⟩
          | nil =>
              cases bulk with
              | cons item bulk =>
                  exact ⟨rfl, represents_dropFirst h rfl (by intro c; cases c <;> rfl)⟩
              | nil => exact ⟨rfl, h⟩

/-- **Every call is the list's.** -/
theorem represents_step {capacity : ℕ} (hpos : 1 ≤ capacity) {q : QosScheduler T}
    {ref : PriorityList T} (h : Represents capacity q ref) (call : QosCall T) :
    q.returned call = ref.returned call ∧
      Represents capacity (q.step call) (ref.step capacity call) := by
  cases call with
  | push cls item => exact ⟨rfl, represents_push hpos h cls item⟩
  | pop =>
      have hpop := represents_pop h
      exact ⟨congrArg (fun item => [item]) hpop.1, hpop.2⟩

/-! ## Sequences of calls -/

/-- **The scheduler refines a stable priority queue.**  Over every sequence of calls the four
queues return what the list returns and hold its classes; at most `capacity` bulk items wait; and
what was pushed in a class is what left it followed by what waits, in order, where only bulk items
leave otherwise than by a `pop`. -/
theorem qos_refines_priorityList {capacity : ℕ} (hpos : 1 ≤ capacity) (calls : List (QosCall T)) :
    let q := Run.run QosScheduler.step (QosScheduler.new capacity) calls
    let ref := Run.run (PriorityList.step capacity) [] calls
    let returned := Run.collect QosScheduler.step QosScheduler.returned
      (QosScheduler.new capacity) calls
    let popped := Run.collect (PriorityList.step capacity) PriorityList.popped [] calls
    let removed := Run.collect (PriorityList.step capacity) (PriorityList.removed capacity) [] calls
    returned = Run.collect (PriorityList.step capacity) PriorityList.returned [] calls ∧
      (∀ c, q.queue c = waiting c ref) ∧ q.bulk.length ≤ capacity ∧
      (∀ c, waiting c (calls.flatMap QosCall.pushed) = waiting c removed ++ q.queue c) ∧
      (∀ c, c ≠ .bulk → waiting c removed = waiting c popped) ∧
      returned.reduceOption = popped.map (·.2) := by
  intro q ref returned popped removed
  have hrun : returned = _ ∧ Represents capacity q ref :=
    Run.simulation (fun s t call hR => represents_step hpos hR call) calls _ []
      (represents_new capacity)
  have hwaiting : ∀ (c : TrafficClass) (out : PriorityList T → QosCall T → PriorityList T),
      waiting c (Run.collect (PriorityList.step capacity) out [] calls) =
        Run.collect (PriorityList.step capacity) (fun s call => waiting c (out s call)) [] calls :=
    fun c out => Run.map_collect rfl (waiting_append c) _ _ _ _
  refine ⟨hrun.1, hrun.2.queue_eq, hrun.2.bulk_le, ?_, ?_, ?_⟩
  · intro c
    have hpushed := Run.collect_const (PriorityList.step capacity) QosCall.pushed calls []
    have hall := Run.account
      (fun s call => PriorityList.removed_append_waiting capacity c s call) calls []
    rw [hrun.2.queue_eq, ← hpushed, hwaiting, hwaiting]
    simpa using hall
  · intro c hc
    rw [hwaiting, hwaiting]
    congr 1
    funext s call
    rw [PriorityList.removed, waiting_append, PriorityList.waiting_dropped hc, List.nil_append]
  · have hmap : popped.map (·.2) = Run.collect (PriorityList.step capacity)
        (fun s call => (PriorityList.popped s call).map (·.2)) [] calls :=
      Run.map_collect rfl (fun a b => List.map_append) _ _ _ _
    rw [hrun.1, hmap, Run.map_collect (f := List.reduceOption) rfl
      (fun a b => List.filterMap_append)]
    congr 1
    funext s call
    exact PriorityList.reduceOption_returned s call

/-- Two bulk items and a control item against a capacity of one: the first bulk item is gone, and
the control item comes out before the second. -/
theorem qos_refines_priorityList_overtaken :
    let calls : List (QosCall ℕ) :=
      [.push .bulk 1, .push .bulk 2, .push .control 3, .pop, .pop, .pop]
    let removed := Run.collect (PriorityList.step 1) (PriorityList.removed 1) [] calls
    Run.collect (PriorityList.step 1) PriorityList.returned [] calls = [some 3, some 2, none] ∧
      removed = [(.bulk, 1), (.control, 3), (.bulk, 2)] ∧
      Run.collect QosScheduler.step QosScheduler.returned (QosScheduler.new 1) calls =
        Run.collect (PriorityList.step 1) PriorityList.returned [] calls ∧
      waiting .bulk (calls.flatMap QosCall.pushed) = waiting .bulk removed ++ [] := by
  intro calls removed
  have hrefines := qos_refines_priorityList (le_refl 1) calls
  exact ⟨by decide, by decide, hrefines.1, hrefines.2.2.2.1 .bulk⟩

end R2N
