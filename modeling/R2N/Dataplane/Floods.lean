import R2N.Lib.AgedQueue
import R2N.Dataplane.Plane

/-!
# Recognising flooded packets

`SeenFloodPackets` keeps the keys of recent floods twice, in a queue with the times they were seen
and in a set, and prunes both before and after an insertion: by number and by age.

* `seenSpec`, `ofOrder` — the queue as an instance of `AgedQueue`, and the store it stands for.
* `insertIfNew_ofOrder` — `insert_if_new` on such a store is an offer to the queue.
* `FloodStore` — runs of the store with a clock, simulated by those of the queue (`run_ofQueue`).
* **`flood_dedup`** — in every run, queue and set hold the same keys, once each and by time, at most
  4096; a key that is not stored is accepted; and a key that was accepted is rejected for 30 seconds
  unless 4096 others are accepted meanwhile.
-/

namespace R2N

open Run

namespace SeenFloodPackets

/-! ## The store as a queue -/

/-- The entries of the store and its bounds. -/
def seenSpec : AgedQueue.Spec (NodeId × PacketId × Instant) (NodeId × PacketId) where
  key := fun e => (e.1, e.2.1)
  time := fun e => e.2.2
  capacity := seenFloodCapacity
  window := seenFloodWindow

lemma seenSpec_capacity : seenSpec.capacity = seenFloodCapacity := rfl

lemma seenSpec_window : seenSpec.window = seenFloodWindow := rfl

lemma kept_seenSpec (now : Instant) (order : List (NodeId × PacketId × Instant)) :
    AgedQueue.kept seenSpec now order =
      (order.drop (order.length - seenFloodCapacity)).dropWhile
        fun e => seenFloodWindow < now - e.2.2 := by
  rw [AgedQueue.kept, seenSpec_capacity, seenSpec_window]
  rfl

/-- The store whose set holds the keys of its queue. -/
def ofOrder (order : List (NodeId × PacketId × Instant)) : SeenFloodPackets where
  order := order
  set := (order.map seenSpec.key).toFinset

@[simp] lemma ofOrder_order (order : List (NodeId × PacketId × Instant)) :
    (ofOrder order).order = order := rfl

@[simp] lemma ofOrder_set (order : List (NodeId × PacketId × Instant)) :
    (ofOrder order).set = (order.map seenSpec.key).toFinset := rfl

/-- Without its first entry, the set is that of the rest. -/
lemma erase_head {e : NodeId × PacketId × Instant} {rest : List (NodeId × PacketId × Instant)}
    (hnodup : ((e :: rest).map seenSpec.key).Nodup) :
    (((e :: rest).map seenSpec.key).toFinset).erase (e.1, e.2.1) =
      (rest.map seenSpec.key).toFinset := by
  rw [List.map_cons, List.nodup_cons, ← List.mem_toFinset] at hnodup
  rw [List.map_cons, List.toFinset_cons]
  exact Finset.erase_insert hnodup.1

lemma pruneCapacity_ofOrder {order : List (NodeId × PacketId × Instant)}
    (hnodup : (order.map seenSpec.key).Nodup) :
    pruneCapacity order (order.map seenSpec.key).toFinset =
      ofOrder (order.drop (order.length - seenFloodCapacity)) := by
  induction order with
  | nil => rfl
  | cons e rest ih =>
      rw [pruneCapacity]
      split_ifs with hlong
      · have hlen : (e :: rest).length - seenFloodCapacity =
            rest.length - seenFloodCapacity + 1 := by
          simp only [List.length_cons] at hlong ⊢
          omega
        rw [erase_head hnodup, ih (List.nodup_cons.mp hnodup).2, hlen, List.drop_succ_cons]
      · rw [Nat.sub_eq_zero_of_le (Nat.not_lt.mp hlong), List.drop_zero]
        rfl

lemma pruneAge_ofOrder {order : List (NodeId × PacketId × Instant)}
    (hnodup : (order.map seenSpec.key).Nodup) (now : Instant) :
    pruneAge now order (order.map seenSpec.key).toFinset =
      ofOrder (order.dropWhile fun e => seenFloodWindow < now - e.2.2) := by
  induction order with
  | nil => rfl
  | cons e rest ih =>
      rw [pruneAge, List.dropWhile_cons]
      by_cases hfresh : now - e.2.2 ≤ seenFloodWindow
      · rw [if_pos hfresh, if_neg (by simpa using hfresh)]
        rfl
      · rw [if_neg hfresh, erase_head hnodup, ih (List.nodup_cons.mp hnodup).2,
          if_pos (decide_eq_true (Nat.lt_of_not_le hfresh))]

/-- **Pruning** leaves what the queue keeps. -/
lemma prune_ofOrder {order : List (NodeId × PacketId × Instant)}
    (hnodup : (order.map seenSpec.key).Nodup) (now : Instant) :
    (ofOrder order).prune now = ofOrder (AgedQueue.kept seenSpec now order) := by
  have hrest : ((order.drop (order.length - seenFloodCapacity)).map seenSpec.key).Nodup :=
    hnodup.sublist ((List.drop_sublist _ _).map _)
  simp only [prune, ofOrder_order, ofOrder_set, pruneCapacity_ofOrder hnodup,
    pruneAge_ofOrder hrest, kept_seenSpec]

/-- **Insertion** is an offer to the queue. -/
lemma insertIfNew_ofOrder {order : List (NodeId × PacketId × Instant)}
    (hnodup : (order.map seenSpec.key).Nodup) (origin : NodeId) (packetId : PacketId)
    (now : Instant) :
    ((ofOrder order).insertIfNew now origin packetId).1 =
        (AgedQueue.offer seenSpec order (origin, packetId, now)).1 ∧
      ((ofOrder order).insertIfNew now origin packetId).2 =
        ofOrder (AgedQueue.offer seenSpec order (origin, packetId, now)).2 := by
  have hkey : seenSpec.key (origin, packetId, now) = (origin, packetId) := rfl
  have htime : seenSpec.time (origin, packetId, now) = now := rfl
  generalize hleft : AgedQueue.kept seenSpec now order = left
  have hkept : (left.map seenSpec.key).Nodup := by
    rw [← hleft]
    exact hnodup.sublist ((AgedQueue.kept_suffix seenSpec now order).sublist.map _)
  simp only [insertIfNew, prune_ofOrder hnodup, AgedQueue.offer, hkey, htime, hleft, ofOrder_set,
    ofOrder_order, List.mem_toFinset]
  by_cases hmem : (origin, packetId) ∈ left.map seenSpec.key
  · simp only [if_pos hmem, and_self]
  · have hstore : ({ order := left ++ [(origin, packetId, now)]
                     set := insert (origin, packetId) (left.map seenSpec.key).toFinset } :
          SeenFloodPackets) = ofOrder (left ++ [(origin, packetId, now)]) := by
      rw [ofOrder, List.map_append, List.toFinset_append, Finset.union_comm, List.map_singleton,
        hkey, List.toFinset_cons, List.toFinset_nil, Finset.insert_union, Finset.empty_union]
    have hnodup' : ((left ++ [(origin, packetId, now)]).map seenSpec.key).Nodup := by
      rw [List.map_append, List.nodup_append]
      refine ⟨hkept, List.nodup_singleton _, fun a ha b hb => ?_⟩
      rw [List.mem_singleton.mp hb, hkey]
      exact fun heq => hmem (heq ▸ ha)
    simp only [if_neg hmem, hstore, prune_ofOrder hnodup', and_self]

end SeenFloodPackets

/-! ## Runs of the store -/

/-- A call of `insert_if_new`: origin, packet id, and the time it reads. -/
abbrev FloodCall := NodeId × PacketId × Instant

def FloodCall.key (c : FloodCall) : NodeId × PacketId := (c.1, c.2.1)

def FloodCall.now (c : FloodCall) : Instant := c.2.2

/-- The store and the time of the last call. -/
@[ext] structure FloodStore where
  store : SeenFloodPackets
  clock : Instant

namespace FloodStore

open SeenFloodPackets (seenSpec ofOrder)

def start : FloodStore := { store := .new, clock := 0 }

/-- What a call returns. -/
def accepts (s : FloodStore) (c : FloodCall) : Bool := (s.store.insertIfNew c.now c.1 c.2.1).1

def step (s : FloodStore) (c : FloodCall) : FloodStore where
  store := (s.store.insertIfNew c.now c.1 c.2.1).2
  clock := c.now

/-- The clock does not go back. -/
def Timely (s : FloodStore) (c : FloodCall) : Prop := s.clock ≤ c.now

/-- The keys that are accepted. -/
def acceptedKeys (s : FloodStore) (c : FloodCall) : List (NodeId × PacketId) :=
  if s.accepts c then [c.key] else []

/-- The store that a queue stands for. -/
def ofQueue (q : AgedQueue.State FloodCall) : FloodStore where
  store := ofOrder q.queue
  clock := q.clock

section Simulation

variable {q : AgedQueue.State FloodCall} (hq : AgedQueue.Ordered seenSpec q)

include hq

lemma accepts_ofQueue (c : FloodCall) :
    (ofQueue q).accepts c = (AgedQueue.offer seenSpec q.queue c).1 :=
  (SeenFloodPackets.insertIfNew_ofOrder hq.nodup c.1 c.2.1 c.2.2).1

lemma step_ofQueue (c : FloodCall) :
    (ofQueue q).step c = ofQueue (AgedQueue.step seenSpec q c) := by
  have hstore : ((ofQueue q).step c).store = ofOrder (AgedQueue.step seenSpec q c).queue := by
    rw [AgedQueue.queue_step]
    exact (SeenFloodPackets.insertIfNew_ofOrder hq.nodup c.1 c.2.1 c.2.2).2
  have hclock : ((ofQueue q).step c).clock = (AgedQueue.step seenSpec q c).clock := by
    rw [AgedQueue.clock_step]
    rfl
  exact FloodStore.ext hstore hclock

lemma acceptedKeys_ofQueue (c : FloodCall) :
    (ofQueue q).acceptedKeys c = AgedQueue.acceptedKeys seenSpec q c := by
  rw [acceptedKeys, accepts_ofQueue hq, AgedQueue.acceptedKeys]
  rfl

end Simulation

/-- **Simulation.**  A run of the store is one of the queue. -/
lemma run_ofQueue (calls : List FloodCall) {q : AgedQueue.State FloodCall}
    (hq : AgedQueue.Ordered seenSpec q) (htime : Along step Timely (ofQueue q) calls) :
    Along (AgedQueue.step seenSpec) (AgedQueue.Timely seenSpec) q calls ∧
      run step (ofQueue q) calls = ofQueue (run (AgedQueue.step seenSpec) q calls) ∧
      collect step acceptedKeys (ofQueue q) calls =
        collect (AgedQueue.step seenSpec) (AgedQueue.acceptedKeys seenSpec) q calls := by
  induction calls generalizing q with
  | nil => exact ⟨trivial, rfl, rfl⟩
  | cons c calls ih =>
      obtain ⟨hc, hrest⟩ := htime
      have hc : AgedQueue.Timely seenSpec q c := hc
      rw [step_ofQueue hq] at hrest
      obtain ⟨halong, hrun, hkeys⟩ := ih (hq.step c hc) hrest
      refine ⟨⟨hc, halong⟩, ?_, ?_⟩
      · rw [run_cons, step_ofQueue hq, hrun, run_cons]
      · rw [collect_cons, acceptedKeys_ofQueue hq, step_ofQueue hq, hkeys, collect_cons]

/-- **Flood deduplication.**  After every run of calls the queue and the set hold the same keys,
once each and in the order of time, and at most 4096; a key that is not stored is accepted; and a
key that is accepted is rejected by every later call within 30 seconds, if fewer than 4096 other
keys are accepted in between. -/
theorem flood_dedup (calls : List FloodCall) (htime : Along step Timely start calls) :
    let s := run step start calls
    (s.store.set = (s.store.order.map FloodCall.key).toFinset ∧
      (s.store.order.map FloodCall.key).Nodup ∧
      (s.store.order.map FloodCall.now).Pairwise (· ≤ ·) ∧
      s.store.order.length ≤ seenFloodCapacity) ∧
    (∀ c : FloodCall, c.key ∉ s.store.set → s.accepts c = true) ∧
    ∀ (first : FloodCall) (between : List FloodCall) (last : FloodCall),
      Along step Timely s (first :: between ++ [last]) → s.accepts first = true →
      last.key = first.key → last.now ≤ first.now + seenFloodWindow →
      ((collect step acceptedKeys (s.step first) between).toFinset.erase first.key).card <
        seenFloodCapacity →
      (run step s (first :: between)).accepts last = false := by
  intro s
  obtain ⟨halong, hrun, -⟩ := run_ofQueue calls AgedQueue.ordered_empty htime
  generalize hq : run (AgedQueue.step seenSpec) { queue := [], clock := 0 } calls = q at hrun
  have hordered : AgedQueue.Ordered seenSpec q :=
    hq ▸ invariant (fun _ c h hc => h.step c hc) calls _ AgedQueue.ordered_empty halong
  have hs : s = ofQueue q := hrun
  rw [hs]
  refine ⟨⟨rfl, hordered.nodup, hordered.sorted, hordered.bounded⟩, fun c hc => ?_, ?_⟩
  · rw [accepts_ofQueue hordered]
    exact AgedQueue.offer_of_not_mem fun hmem => hc (List.mem_toFinset.mpr hmem)
  · intro first between last htime' haccepted hkey hage hcard
    obtain ⟨hfirst, hrest⟩ := htime'
    rw [step_ofQueue hordered] at hrest hcard
    have hordered' := hordered.step first hfirst
    obtain ⟨pre, hlast⟩ := AgedQueue.offer_accepted (by decide)
      ((accepts_ofQueue hordered first).symm.trans haccepted)
    have hqueue : (AgedQueue.step seenSpec q first).queue = pre ++ [first] := by
      rw [AgedQueue.queue_step, hlast]
    have hage' : seenSpec.time last ≤ seenSpec.time first + seenSpec.window := by
      rw [SeenFloodPackets.seenSpec_window]
      exact hage
    obtain ⟨halong', -, -⟩ := run_ofQueue (between ++ [last]) hordered' hrest
    obtain ⟨-, hrun', hkeys⟩ := run_ofQueue between hordered' (along_of_append hrest)
    rw [hkeys, ← SeenFloodPackets.seenSpec_capacity] at hcard
    rw [run_cons, step_ofQueue hordered, hrun',
      accepts_ofQueue (invariant (fun _ c h hc => h.step c hc) between _ hordered'
        (along_of_append halong'))]
    refine AgedQueue.offer_rejected hcard hordered' hqueue (by simp) halong' (fun k hk hne => ?_)
      hkey hage'
    exact Finset.mem_erase.mpr ⟨hne, List.mem_toFinset.mpr hk⟩

/-- A packet that is seen again after exactly 30 seconds, with another one in between. -/
theorem flood_dedup_twice :
    let first : FloodCall := (.fill 1, ⟨5⟩, 0)
    let other : FloodCall := (.fill 2, ⟨5⟩, fromSecs 10)
    let last : FloodCall := (.fill 1, ⟨5⟩, fromSecs 30)
    start.accepts first = true ∧ (run step start [first, other]).accepts last = false := by
  have hfirst : start.accepts (.fill 1, ⟨5⟩, 0) = true := by decide +kernel
  refine ⟨hfirst, ?_⟩
  refine (flood_dedup [] trivial).2.2 (.fill 1, ⟨5⟩, 0) [(.fill 2, ⟨5⟩, fromSecs 10)]
    (.fill 1, ⟨5⟩, fromSecs 30) ⟨Nat.zero_le _, Nat.zero_le _, ?_, trivial⟩ hfirst rfl ?_ ?_
  · exact show fromSecs 10 ≤ fromSecs 30 by decide
  · exact show fromSecs 30 ≤ 0 + seenFloodWindow by decide
  · decide +kernel

end FloodStore

end R2N
