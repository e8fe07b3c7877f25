import Mathlib.Data.List.Perm.Basic
import Mathlib.Data.List.Nodup

/-!
# Lending from a bounded queue

A pool keeps its free resources in a queue of fixed capacity, lends them one by one and takes them
back.  Nothing in a resource says who holds it, so each loan has a number of its own.

* `BoundedQueue` — a queue that refuses what does not fit.
* `Lending` — the queue and the loans; `take` and `give` are the two moves.
* `Sound` — the free resources and those on loan are all there are, each once.
* **`Sound.take`**, **`Sound.give`** — the moves keep it, when only what is on loan is given back.
* `Sound.length_free_lt` — then there is always room for it.
-/

/-- A first-in first-out queue of at most `capacity` elements. -/
structure BoundedQueue (α : Type*) where
  capacity : ℕ
  items : List α
  length_le : items.length ≤ capacity

namespace BoundedQueue

variable {α : Type*}

def empty (capacity : ℕ) : BoundedQueue α := ⟨capacity, [], Nat.zero_le capacity⟩

lemma length_push_le {n : ℕ} {l : List α} (h : l.length < n) (a : α) : (l ++ [a]).length ≤ n := by
  rw [List.length_append, List.length_singleton]
  omega

lemma length_tail_le {n : ℕ} {l : List α} (h : l.length ≤ n) : l.tail.length ≤ n := by
  rw [List.length_tail]
  omega

/-- The queue with `a` at its end; a full queue refuses. -/
def push (q : BoundedQueue α) (a : α) : Option (BoundedQueue α) :=
  if h : q.items.length < q.capacity then
    some ⟨q.capacity, q.items ++ [a], length_push_le h a⟩
  else none

/-- A push whose refusal is ignored. -/
def pushOrDrop (q : BoundedQueue α) (a : α) : BoundedQueue α := (q.push a).getD q

def pop (q : BoundedQueue α) : Option (α × BoundedQueue α) :=
  q.items.head?.map fun a => (a, ⟨q.capacity, q.items.tail, length_tail_le q.length_le⟩)

@[simp] lemma items_empty (capacity : ℕ) : (empty capacity : BoundedQueue α).items = [] := rfl

@[simp] lemma capacity_empty (capacity : ℕ) :
    (empty capacity : BoundedQueue α).capacity = capacity := rfl

lemma push_isSome_iff (q : BoundedQueue α) (a : α) :
    (q.push a).isSome ↔ q.items.length < q.capacity := by
  by_cases h : q.items.length < q.capacity <;> simp [push, h]

@[simp] lemma capacity_pushOrDrop (q : BoundedQueue α) (a : α) :
    (q.pushOrDrop a).capacity = q.capacity := by
  by_cases h : q.items.length < q.capacity <;> simp [pushOrDrop, push, h]

lemma items_pushOrDrop {q : BoundedQueue α} (h : q.items.length < q.capacity) (a : α) :
    (q.pushOrDrop a).items = q.items ++ [a] := by
  simp [pushOrDrop, push, h]

lemma pushOrDrop_of_full {q : BoundedQueue α} (h : ¬ q.items.length < q.capacity) (a : α) :
    q.pushOrDrop a = q := by
  simp [pushOrDrop, push, h]

/-- Pushing as much as there is room for appends it. -/
lemma foldl_pushOrDrop (l : List α) (q : BoundedQueue α)
    (h : q.items.length + l.length ≤ q.capacity) :
    (l.foldl pushOrDrop q).items = q.items ++ l ∧
      (l.foldl pushOrDrop q).capacity = q.capacity := by
  induction l generalizing q with
  | nil => simp
  | cons a l ih =>
      rw [List.length_cons] at h
      have hpush := items_pushOrDrop (q := q) (by omega) a
      have hrest := ih (q.pushOrDrop a) (by
        rw [hpush, capacity_pushOrDrop, List.length_append, List.length_singleton]
        omega)
      rw [hpush, capacity_pushOrDrop, List.append_assoc, List.singleton_append] at hrest
      exact hrest

lemma pop_eq_some {q q' : BoundedQueue α} {a : α} (h : q.pop = some (a, q')) :
    q.items = a :: q'.items ∧ q'.capacity = q.capacity := by
  rw [pop, Option.map_eq_some_iff] at h
  obtain ⟨b, hb, heq⟩ := h
  rw [Prod.mk.injEq] at heq
  obtain ⟨rfl, rfl⟩ := heq
  exact ⟨(List.cons_head?_tail hb).symm, rfl⟩

end BoundedQueue

/-! ## Loans -/

/-- The free resources, the loans that were not given back, each with its number, and how many
loans there have been. -/
structure Lending (α : Type*) where
  free : BoundedQueue α
  held : List (ℕ × α)
  taken : ℕ

namespace Lending

variable {α : Type*}

/-- The next free resource is lent. -/
def take (l : Lending α) : Option α × Lending α :=
  match l.free.pop with
  | none => (none, l)
  | some (a, free) =>
      (some a, { free, held := l.held ++ [(l.taken, a)], taken := l.taken + 1 })

/-- `a` is put back in the queue, and the loan with the number `ticket` is over. -/
def give (l : Lending α) (ticket : ℕ) (a : α) : Lending α :=
  { l with free := l.free.pushOrDrop a, held := l.held.filter (·.1 ≠ ticket) }

/-- The resources on loan. -/
def onLoan (l : Lending α) : List α := l.held.map (·.2)

/-- Every resource of `all` is either free or on loan. -/
structure Sound (all : List α) (l : Lending α) : Prop where
  partition : (l.free.items ++ l.onLoan).Perm all
  capacity_eq : l.free.capacity = all.length
  tickets_nodup : (l.held.map Prod.fst).Nodup
  tickets_lt : ∀ e ∈ l.held, e.1 < l.taken

/-- A key that occurs once occurs in one pair, and the others are those with another key. -/
lemma perm_cons_filter_ne {κ : Type*} [DecidableEq κ] {l : List (κ × α)}
    (hnodup : (l.map Prod.fst).Nodup) {k : κ} {a : α} (hmem : (k, a) ∈ l) :
    l.Perm ((k, a) :: l.filter (·.1 ≠ k)) := by
  induction l with
  | nil => cases hmem
  | cons e l ih =>
      rw [List.map_cons, List.nodup_cons] at hnodup
      rcases List.mem_cons.mp hmem with rfl | hmem
      · have hkeep : ((k, a) :: l).filter (·.1 ≠ k) = l := by
          rw [List.filter_cons_of_neg (by simp), List.filter_eq_self]
          intro x hx
          have hne : x.1 ≠ k := by
            intro heq
            exact hnodup.1 (List.mem_map.mpr ⟨x, hx, heq⟩)
          simpa using hne
        rw [hkeep]
      · have hne : e.1 ≠ k := by
          intro heq
          exact hnodup.1 (List.mem_map.mpr ⟨(k, a), hmem, heq.symm⟩)
        rw [List.filter_cons_of_pos (by simpa using hne)]
        exact ((ih hnodup.2 hmem).cons e).trans (List.Perm.swap _ _ _)

variable {all : List α} {l : Lending α}

/-- A pool that has lent nothing yet. -/
lemma sound_new {q : BoundedQueue α} (hitems : q.items = all) (hcapacity : q.capacity = all.length)
    : Sound all { free := q, held := [], taken := 0 } where
  partition := by simp [onLoan, hitems]
  capacity_eq := hcapacity
  tickets_nodup := List.nodup_nil
  tickets_lt := by simp

theorem Sound.take (h : Sound all l) : Sound all l.take.2 := by
  rw [Lending.take]
  cases hpop : l.free.pop with
  | none => exact h
  | some r =>
      obtain ⟨a, free⟩ := r
      have hfree := BoundedQueue.pop_eq_some hpop
      refine ⟨?_, hfree.2.trans h.capacity_eq, ?_, ?_⟩
      · have hpartition := h.partition
        rw [hfree.1] at hpartition
        refine List.Perm.trans ?_ hpartition
        simp only [onLoan, List.map_append, List.map_cons, List.map_nil, List.cons_append]
        rw [← List.append_assoc]
        exact List.perm_append_singleton a _
      · -- the number of the new loan is above all the others
        rw [List.map_append, List.map_singleton, List.nodup_append_comm, List.singleton_append,
          List.nodup_cons]
        refine ⟨fun hmem => ?_, h.tickets_nodup⟩
        obtain ⟨e, he, heq⟩ := List.mem_map.mp hmem
        have hlt := h.tickets_lt e he
        omega
      · intro e he
        rcases List.mem_append.mp he with he | he
        · exact Nat.lt_succ_of_lt (h.tickets_lt e he)
        · rw [List.mem_singleton.mp he]
          exact Nat.lt_succ_self _

/-- While something is on loan the queue has room. -/
lemma Sound.length_free_lt (h : Sound all l) {a : α} (ha : a ∈ l.onLoan) :
    l.free.items.length < l.free.capacity := by
  have hlen := h.partition.length_eq
  have hpos := List.length_pos_of_mem ha
  rw [List.length_append] at hlen
  rw [h.capacity_eq]
  omega

lemma mem_onLoan {ticket : ℕ} {a : α} (h : (ticket, a) ∈ l.held) : a ∈ l.onLoan :=
  List.mem_map_of_mem h

theorem Sound.give (h : Sound all l) {ticket : ℕ} {a : α} (hheld : (ticket, a) ∈ l.held) :
    Sound all (l.give ticket a) := by
  have hroom := h.length_free_lt (mem_onLoan hheld)
  have hsplit := (perm_cons_filter_ne h.tickets_nodup hheld).map Prod.snd
  refine ⟨?_, ?_, ?_, ?_⟩
  · refine List.Perm.trans ?_ h.partition
    rw [Lending.give, BoundedQueue.items_pushOrDrop hroom, List.append_assoc]
    exact hsplit.symm.append_left _
  · rw [Lending.give, BoundedQueue.capacity_pushOrDrop, h.capacity_eq]
  · exact h.tickets_nodup.sublist (List.filter_sublist.map _)
  · intro e he
    exact h.tickets_lt e (List.mem_filter.mp he).1

/-- Of distinct resources, none is on loan twice, and none is on loan and free. -/
lemma Sound.nodup (h : Sound all l) (hall : all.Nodup) :
    l.free.items.Nodup ∧ l.onLoan.Nodup ∧ List.Disjoint l.free.items l.onLoan := by
  have hnodup := h.partition.nodup_iff.mpr hall
  rw [List.nodup_append'] at hnodup
  exact hnodup

end Lending
