import Mathlib.Data.Set.Insert

/-!
# A copy of a set that follows a log

A replica learns of the changes of a set through a queue of operations.  What it will hold once the
queue is empty is the replay of the queue over what it holds now.

* `SetOp`, `SetOp.apply`, `replay` — the operations and their replay.
* `replay_append` — a queue is replayed piece by piece.
* `replay_skip`, **`replay_batch`** — a batch that says nothing, or one thing.
* `Queue.Occurs`, `Queue.occurs_append` — an entry of a queue and what is queued behind it.
-/

/-- A change of a set: replace it, add or remove one element, or nothing. -/
inductive SetOp (α : Type*) where
  | reset (s : Set α)
  | add (x : α)
  | remove (x : α)
  | skip

namespace SetOp

variable {α : Type*}

def apply (v : Set α) : SetOp α → Set α
  | reset s => s
  | add x => insert x v
  | remove x => v \ {x}
  | skip => v

/-- The set after the operations, oldest first. -/
def replay (v : Set α) (ops : List (SetOp α)) : Set α := ops.foldl apply v

@[simp] lemma replay_nil (v : Set α) : replay v [] = v := rfl

@[simp] lemma replay_cons (v : Set α) (op : SetOp α) (ops : List (SetOp α)) :
    replay v (op :: ops) = replay (op.apply v) ops := rfl

lemma replay_append (v : Set α) (ops ops' : List (SetOp α)) :
    replay v (ops ++ ops') = replay (replay v ops) ops' := List.foldl_append

/-- Entries that say nothing. -/
lemma replay_skip {ops : List (SetOp α)} (h : ∀ op ∈ ops, op = skip) (v : Set α) :
    replay v ops = v := by
  induction ops generalizing v with
  | nil => rfl
  | cons op ops ih =>
      obtain rfl := h op List.mem_cons_self
      exact ih (fun op hop => h op (List.mem_cons_of_mem _ hop)) v

@[simp] lemma apply_apply (op : SetOp α) (v : Set α) : op.apply (op.apply v) = op.apply v := by
  cases op with
  | reset s => rfl
  | add x => exact Set.insert_idem x v
  | remove x => exact Set.ext fun y => ⟨fun h => h.1, fun h => ⟨h, h.2⟩⟩
  | skip => rfl

/-- **A batch that says one thing**: an operation, once or several times, and entries that say
nothing. -/
lemma replay_batch {ops : List (SetOp α)} {op : SetOp α} (h : ∀ o ∈ ops, o = skip ∨ o = op)
    (hop : op ∈ ops) (v : Set α) : replay v ops = op.apply v := by
  -- after the first occurrence of `op` nothing changes any more
  have hstable : ∀ ops : List (SetOp α), (∀ o ∈ ops, o = skip ∨ o = op) →
      replay (op.apply v) ops = op.apply v := by
    intro ops
    induction ops with
    | nil => exact fun _ => rfl
    | cons o ops ih =>
        intro hops
        have hrest := ih fun o ho => hops o (List.mem_cons_of_mem _ ho)
        rcases hops o List.mem_cons_self with rfl | rfl
        · exact hrest
        · rwa [replay_cons, apply_apply]
  induction ops with
  | nil => cases hop
  | cons o ops ih =>
      have hops := fun o ho => h o (List.mem_cons_of_mem _ ho)
      rcases h o List.mem_cons_self with rfl | rfl
      · rcases List.mem_cons.mp hop with rfl | hmem
        · exact hstable ops hops
        · exact ih hops hmem
      · exact hstable ops hops

end SetOp

namespace Queue

variable {α : Type*}

/-- `x` is in the queue, with `post` behind it. -/
def Occurs (queue : List α) (x : α) (post : List α) : Prop := ∃ pre, queue = pre ++ x :: post

lemma Occurs.mem {queue post : List α} {x : α} (h : Occurs queue x post) : x ∈ queue := by
  obtain ⟨pre, rfl⟩ := h
  simp

lemma Occurs.cons {queue post : List α} {x : α} (h : Occurs queue x post) (y : α) :
    Occurs (y :: queue) x post := by
  obtain ⟨pre, rfl⟩ := h
  exact ⟨y :: pre, rfl⟩

lemma Occurs.of_map {β : Type*} {f : β → α} {queue : List β} {post : List α} {x : α}
    (h : Occurs (queue.map f) x post) :
    ∃ y post', Occurs queue y post' ∧ f y = x ∧ post'.map f = post := by
  obtain ⟨pre, hpre⟩ := h
  obtain ⟨l, r, rfl, -, hr⟩ := List.map_eq_append_iff.mp hpre
  obtain ⟨y, post', rfl, rfl, rfl⟩ := List.map_eq_cons_iff.mp hr
  exact ⟨y, post', ⟨l, rfl⟩, rfl, rfl⟩

/-- The head of a queue, or an entry behind it. -/
lemma occurs_cons {queue post : List α} {x y : α} (h : Occurs (y :: queue) x post) :
    (x = y ∧ post = queue) ∨ Occurs queue x post := by
  obtain ⟨pre, hpre⟩ := h
  cases pre with
  | nil =>
      obtain ⟨rfl, rfl⟩ := List.cons.inj hpre
      exact .inl ⟨rfl, rfl⟩
  | cons z pre => exact .inr ⟨pre, (List.cons.inj hpre).2⟩

/-- **A batch at the end**: what occurred before has the batch behind it, or the entry is in the
batch. -/
lemma occurs_append {queue batch post : List α} {x : α} (h : Occurs (queue ++ batch) x post) :
    (∃ post', Occurs queue x post' ∧ post = post' ++ batch) ∨ Occurs batch x post := by
  induction queue with
  | nil => exact .inr h
  | cons y queue ih =>
      rcases occurs_cons h with ⟨rfl, rfl⟩ | h
      · exact .inl ⟨queue, ⟨[], rfl⟩, rfl⟩
      · exact (ih h).imp_left fun ⟨post', h', hpost⟩ => ⟨post', h'.cons y, hpost⟩

end Queue
