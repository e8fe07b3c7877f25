import Mathlib.Data.Finset.Card
import R2N.Lib.Run

/-!
# A queue bounded in length and in age

A store of recently seen keys: an entry goes to the end of a queue, and leaves it at the front when
the queue is longer than its capacity or the entry older than a window.  A key is accepted unless it
is in the queue.

* `kept` — what is left at a time; it is a suffix (`kept_suffix`).
* `offer` — the operation.
* `Ordered` — no key is stored twice, the entries are in the order of their times, and there are no
  more than the capacity; kept by every offer (**`Ordered.step`**).
* **`offer_rejected`** — an entry of the queue keeps its key from being accepted until the window
  has passed, or as many other keys as the capacity have been accepted.
-/

namespace AgedQueue

open Run

variable {ε κ : Type*}

/-- How entries are read, and the two bounds. -/
structure Spec (ε κ : Type*) where
  key : ε → κ
  time : ε → ℕ
  capacity : ℕ
  window : ℕ

variable (Q : Spec ε κ)

/-- What is left of a queue at a time: the last `capacity` entries, without those at the front that
are too old. -/
def kept (now : ℕ) (l : List ε) : List ε :=
  (l.drop (l.length - Q.capacity)).dropWhile fun e => Q.window < now - Q.time e

/-- An entry is offered at its own time: whether it is accepted, and the queue afterwards. -/
def offer [DecidableEq κ] (l : List ε) (e : ε) : Bool × List ε :=
  let l := kept Q (Q.time e) l
  if Q.key e ∈ l.map Q.key then (false, l) else (true, kept Q (Q.time e) (l ++ [e]))

/-! ## What is left -/

lemma kept_suffix (now : ℕ) (l : List ε) : kept Q now l <:+ l :=
  (List.dropWhile_suffix _).trans (List.drop_suffix _ _)

lemma length_kept_le (now : ℕ) (l : List ε) : (kept Q now l).length ≤ Q.capacity := by
  have hdrop := (List.dropWhile_suffix (l := l.drop (l.length - Q.capacity))
    fun e => Q.window < now - Q.time e).length_le
  rw [List.length_drop] at hdrop
  rw [kept]
  omega

/-- An entry that is neither too old nor has too many behind it stays, with those behind it. -/
lemma kept_append_cons {now : ℕ} {e : ε} {post : List ε} (hfresh : now - Q.time e ≤ Q.window)
    (hroom : post.length < Q.capacity) (pre : List ε) :
    ∃ pre', kept Q now (pre ++ e :: post) = pre' ++ e :: post := by
  have hdrop : (pre ++ e :: post).length - Q.capacity ≤ pre.length := by
    simp only [List.length_append, List.length_cons]
    omega
  rw [kept, List.drop_append_of_le_length hdrop]
  generalize pre.drop _ = front
  induction front with
  | nil =>
      exact ⟨[], List.dropWhile_cons_of_neg (by simpa using hfresh)⟩
  | cons x front ih =>
      rw [List.cons_append, List.dropWhile_cons]
      split_ifs
      · exact ih
      · exact ⟨x :: front, rfl⟩

/-! ## Runs -/

/-- A queue and the time of the last offer. -/
structure State (ε : Type*) where
  queue : List ε
  clock : ℕ

def step [DecidableEq κ] (s : State ε) (e : ε) : State ε where
  queue := (offer Q s.queue e).2
  clock := Q.time e

lemma queue_step [DecidableEq κ] (s : State ε) (e : ε) :
    (step Q s e).queue = (offer Q s.queue e).2 := rfl

lemma clock_step [DecidableEq κ] (s : State ε) (e : ε) : (step Q s e).clock = Q.time e := rfl

/-- The clock does not go back. -/
def Timely (s : State ε) (e : ε) : Prop := s.clock ≤ Q.time e

/-- The keys that are accepted. -/
def acceptedKeys [DecidableEq κ] (s : State ε) (e : ε) : List κ :=
  if (offer Q s.queue e).1 then [Q.key e] else []

/-- The shape of a queue. -/
structure Ordered (s : State ε) : Prop where
  nodup : (s.queue.map Q.key).Nodup
  sorted : (s.queue.map Q.time).Pairwise (· ≤ ·)
  le_clock : ∀ e ∈ s.queue, Q.time e ≤ s.clock
  bounded : s.queue.length ≤ Q.capacity

variable {Q}

lemma ordered_empty : Ordered Q { queue := [], clock := 0 } :=
  ⟨List.nodup_nil, .nil, by simp, Nat.zero_le _⟩

/-- What is left of a queue has its shape. -/
lemma Ordered.of_suffix {s : State ε} (h : Ordered Q s) {l : List ε} (hl : l <:+ s.queue)
    {now : ℕ} (hnow : s.clock ≤ now) : Ordered Q { queue := l, clock := now } where
  nodup := h.nodup.sublist (hl.sublist.map Q.key)
  sorted := h.sorted.sublist (hl.sublist.map Q.time)
  le_clock := fun e he => (h.le_clock e (hl.subset he)).trans hnow
  bounded := hl.length_le.trans h.bounded

variable [DecidableEq κ]

/-- **Every offer keeps the shape.** -/
lemma Ordered.step {s : State ε} (h : Ordered Q s) (e : ε) (hnow : Timely Q s e) :
    Ordered Q (step Q s e) := by
  have hkept := h.of_suffix (kept_suffix Q (Q.time e) s.queue) hnow
  unfold AgedQueue.step offer
  simp only
  split_ifs with hmem
  · exact hkept
  · have hsuffix := kept_suffix Q (Q.time e) (kept Q (Q.time e) s.queue ++ [e])
    refine ⟨?_, ?_, fun x hx => ?_, length_kept_le Q _ _⟩
    · refine List.Nodup.sublist (hsuffix.sublist.map Q.key) ?_
      rw [List.map_append, List.nodup_append]
      refine ⟨hkept.nodup, List.nodup_singleton _, fun a ha b hb => ?_⟩
      rw [List.mem_singleton.mp hb]
      exact fun heq => hmem (heq ▸ ha)
    · refine List.Pairwise.sublist (hsuffix.sublist.map Q.time) ?_
      rw [List.map_append, List.pairwise_append]
      refine ⟨hkept.sorted, List.pairwise_singleton _ _, fun a ha b hb => ?_⟩
      rw [List.mem_singleton.mp hb]
      obtain ⟨x, hx, rfl⟩ := List.mem_map.mp ha
      exact hkept.le_clock x hx
    · rcases List.mem_append.mp (hsuffix.subset hx) with hx | hx
      · exact hkept.le_clock x hx
      · rw [List.mem_singleton.mp hx]

lemma offer_of_mem {l : List ε} {e : ε} (h : Q.key e ∈ (kept Q (Q.time e) l).map Q.key) :
    offer Q l e = (false, kept Q (Q.time e) l) := if_pos h

lemma offer_of_new {l : List ε} {e : ε} (h : Q.key e ∉ (kept Q (Q.time e) l).map Q.key) :
    offer Q l e = (true, kept Q (Q.time e) (kept Q (Q.time e) l ++ [e])) := if_neg h

/-- A key that is not in the queue is accepted. -/
lemma offer_of_not_mem {l : List ε} {e : ε} (h : Q.key e ∉ l.map Q.key) :
    (offer Q l e).1 = true := by
  rw [offer_of_new fun hmem => h (((kept_suffix Q (Q.time e) l).sublist.map Q.key).subset hmem)]

/-- An entry that was just accepted is the last one. -/
lemma offer_accepted (hcap : 0 < Q.capacity) {l : List ε} {e : ε} (h : (offer Q l e).1 = true) :
    ∃ pre, (offer Q l e).2 = pre ++ [e] := by
  by_cases hmem : Q.key e ∈ (kept Q (Q.time e) l).map Q.key
  · rw [offer_of_mem hmem] at h
    cases h
  · rw [offer_of_new hmem]
    have hage : Q.time e - Q.time e ≤ Q.window := by omega
    exact kept_append_cons Q hage (show ([] : List ε).length < Q.capacity from hcap) _

/-! ## While an entry is in the queue -/

section Behind

variable {others : Finset κ} (hcard : others.card < Q.capacity)

include hcard

/-- Entries with different keys among `others` leave room for one more. -/
lemma length_lt_of_keys {l : List ε} (hnodup : (l.map Q.key).Nodup)
    (hmem : ∀ x ∈ l, Q.key x ∈ others) : l.length < Q.capacity := by
  have hsub : (l.map Q.key).toFinset ⊆ others := by
    intro k hk
    obtain ⟨x, hx, rfl⟩ := List.mem_map.mp (List.mem_toFinset.mp hk)
    exact hmem x hx
  have hle := Finset.card_le_card hsub
  rw [List.toFinset_card_of_nodup hnodup, List.length_map] at hle
  omega

variable {s : State ε} (hs : Ordered Q s) {pre post : List ε} {e : ε}
  (hqueue : s.queue = pre ++ e :: post) (hpost : ∀ x ∈ post, Q.key x ∈ others)

include hs hqueue hpost

/-- The entry `e` stays, with those behind it, until it is too old. -/
lemma kept_behind {now : ℕ} (hage : now ≤ Q.time e + Q.window) :
    ∃ pre', kept Q now s.queue = pre' ++ e :: post := by
  have hnodup : (post.map Q.key).Nodup := by
    have hall := hs.nodup
    rw [hqueue, List.map_append, List.map_cons] at hall
    exact (List.nodup_cons.mp (List.nodup_append.mp hall).2.1).2
  rw [hqueue]
  exact kept_append_cons Q (by omega) (length_lt_of_keys hcard hnodup hpost) pre

/-- One offer: `e` stays, with those behind it, and what is accepted goes behind them. -/
lemma step_behind {c : ε} (hc : Timely Q s c) (hage : Q.time c ≤ Q.time e + Q.window)
    (haccepted : ∀ k ∈ acceptedKeys Q s c, k ≠ Q.key e → k ∈ others) :
    ∃ pre' post', (step Q s c).queue = pre' ++ e :: post' ∧ ∀ x ∈ post', Q.key x ∈ others := by
  obtain ⟨pre', hkept⟩ := kept_behind hcard hs hqueue hpost hage
  by_cases hmem : Q.key c ∈ (kept Q (Q.time c) s.queue).map Q.key
  · exact ⟨pre', post, by rw [step, offer_of_mem hmem, hkept], hpost⟩
  have hstep : (step Q s c).queue = kept Q (Q.time c) (pre' ++ e :: (post ++ [c])) := by
    rw [step, offer_of_new hmem, hkept, List.append_assoc, List.cons_append]
  rw [hkept, List.map_append, List.map_cons, List.mem_append, List.mem_cons, not_or, not_or] at hmem
  have hpost' : ∀ x ∈ post ++ [c], Q.key x ∈ others := by
    intro x hx
    rcases List.mem_append.mp hx with hx | hx
    · exact hpost x hx
    · rw [List.mem_singleton.mp hx]
      refine haccepted (Q.key c) ?_ hmem.2.1
      rw [acceptedKeys, offer_of_new (by simpa [hkept] using hmem)]
      exact List.mem_singleton_self _
  have hkeptOrdered := hs.of_suffix (kept_suffix Q (Q.time c) s.queue) hc
  have hnodup : ((post ++ [c]).map Q.key).Nodup := by
    have hall := hkeptOrdered.nodup
    simp only [hkept, List.map_append, List.map_cons] at hall
    rw [List.map_append, List.nodup_append]
    refine ⟨(List.nodup_cons.mp (List.nodup_append.mp hall).2.1).2, List.nodup_singleton _,
      fun a ha b hb => ?_⟩
    rw [List.mem_singleton.mp hb]
    exact fun heq => hmem.2.2 (heq ▸ ha)
  have hfresh : Q.time c - Q.time e ≤ Q.window := by omega
  obtain ⟨pre'', hkept'⟩ :=
    kept_append_cons Q hfresh (length_lt_of_keys hcard hnodup hpost') pre'
  exact ⟨pre'', post ++ [c], hstep.trans hkept', hpost'⟩

end Behind

lemma clock_le_of_timely {s : State ε} {offers : List ε} {last : ε}
    (htime : Along (step Q) (Timely Q) s (offers ++ [last])) : s.clock ≤ Q.time last := by
  induction offers generalizing s with
  | nil => exact htime.1
  | cons c offers ih => exact le_trans htime.1 (ih htime.2)

/-- **A stored key is rejected** until the window of its entry has passed, as long as the other keys
that are accepted meanwhile are fewer than the capacity. -/
theorem offer_rejected {others : Finset κ} (hcard : others.card < Q.capacity) {s : State ε}
    (hs : Ordered Q s) {pre post : List ε} {e last : ε} (hqueue : s.queue = pre ++ e :: post)
    (hpost : ∀ x ∈ post, Q.key x ∈ others) {offers : List ε}
    (htime : Along (step Q) (Timely Q) s (offers ++ [last]))
    (haccepted : ∀ k ∈ collect (step Q) (acceptedKeys Q) s offers, k ≠ Q.key e → k ∈ others)
    (hkey : Q.key last = Q.key e) (hage : Q.time last ≤ Q.time e + Q.window) :
    (offer Q (run (step Q) s offers).queue last).1 = false := by
  induction offers generalizing s pre post with
  | nil =>
      obtain ⟨pre', hkept⟩ := kept_behind hcard hs hqueue hpost hage
      have hmem : Q.key last ∈ (kept Q (Q.time last) s.queue).map Q.key := by
        rw [hkept, hkey, List.map_append, List.map_cons]
        exact List.mem_append_right _ List.mem_cons_self
      rw [run_nil, offer_of_mem hmem]
  | cons c offers ih =>
      rw [collect_cons, List.forall_mem_append] at haccepted
      have hc : Q.time c ≤ Q.time last := clock_le_of_timely htime.2
      obtain ⟨pre', post', hqueue', hpost'⟩ :=
        step_behind hcard hs hqueue hpost htime.1 (hc.trans hage) haccepted.1
      exact ih (hs.step c htime.1) hqueue' hpost' htime.2 haccepted.2

end AgedQueue
