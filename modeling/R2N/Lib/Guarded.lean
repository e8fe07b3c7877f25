import Mathlib.Data.List.Basic

/-!
# Handlers that hold guards

A sharded concurrent map hands out guards: a reference to an entry keeps the entry's shard locked
until the end of the scope that took it.  An operation on a shard whose guard the same handler
holds never returns.  `Guarded κ σ ε α` is a handler over a state `σ`, with errors `ε`, that knows
the keys of the guards it holds; its result is `none` if it never returns, and the state is the one
it stops in.

* `access`, `accessAll` — an operation on one key, or on every shard.
* `holding` — a scope that holds the guard of a key.
* `Completes` — a handler returns, with a value or with an error.
* `Yields` — a postcondition on the result and the state.
* **`completes_bind`**, `access_nil`, `holding_nil`, **`access_of_held`**, **`yields_bind`** — the
  rules.
-/

/-- A handler: from the keys of the guards it holds and the state, the result, `none` if it never
returns, and the new state. -/
def Guarded (κ σ ε α : Type) : Type := List κ → σ → Option (Except ε α) × σ

namespace Guarded

variable {κ σ ε α β τ : Type}

instance : Monad (Guarded κ σ ε) where
  pure a := fun _ s => (some (.ok a), s)
  bind m f := fun held s =>
    match m held s with
    | (none, s') => (none, s')
    | (some (.error e), s') => (some (.error e), s')
    | (some (.ok a), s') => f a held s'

def throw (e : ε) : Guarded κ σ ε α := fun _ s => (some (.error e), s)

def get : Guarded κ σ ε σ := fun _ s => (some (.ok s), s)

def modify (f : σ → σ) : Guarded κ σ ε Unit := fun _ s => (some (.ok ()), f s)

section Shards

variable [DecidableEq τ] (shard : κ → τ) (k : κ) (m : Guarded κ σ ε α)

/-- The operation `m` on the entry of `k`. -/
def access : Guarded κ σ ε α := fun held s =>
  if ∃ k' ∈ held, shard k' = shard k then (none, s) else m held s

/-- The operation `m` on every shard. -/
def accessAll : Guarded κ σ ε α := fun held s => if held = [] then m held s else (none, s)

/-- The scope `m`, with the guard of `k` held to its end. -/
def holding : Guarded κ σ ε α := fun held s =>
  if ∃ k' ∈ held, shard k' = shard k then (none, s) else m (k :: held) s

end Shards

/-! ## Evaluation -/

@[simp] lemma pure_apply (a : α) (held : List κ) (s : σ) :
    (pure a : Guarded κ σ ε α) held s = (some (.ok a), s) := rfl

lemma bind_apply (m : Guarded κ σ ε α) (f : α → Guarded κ σ ε β) (held : List κ) (s : σ) :
    (m >>= f) held s =
      match m held s with
      | (none, s') => (none, s')
      | (some (.error e), s') => (some (.error e), s')
      | (some (.ok a), s') => f a held s' := rfl

lemma bind_of_ok {m : Guarded κ σ ε α} {held : List κ} {s s' : σ} {a : α}
    (h : m held s = (some (.ok a), s')) (f : α → Guarded κ σ ε β) :
    (m >>= f) held s = f a held s' := by
  rw [bind_apply, h]

@[simp] lemma get_bind (f : σ → Guarded κ σ ε β) (held : List κ) (s : σ) :
    (get >>= f) held s = f s held s := rfl

@[simp] lemma modify_bind (g : σ → σ) (f : Unit → Guarded κ σ ε β) (held : List κ) (s : σ) :
    (modify g >>= f) held s = f () held (g s) := rfl

@[simp] lemma modify_apply (g : σ → σ) (held : List κ) (s : σ) :
    (modify g : Guarded κ σ ε Unit) held s = (some (.ok ()), g s) := rfl

@[simp] lemma throw_apply (e : ε) (held : List κ) (s : σ) :
    (throw e : Guarded κ σ ε α) held s = (some (.error e), s) := rfl

section Shards

variable [DecidableEq τ] (shard : κ → τ) (k : κ) (m : Guarded κ σ ε α) (s : σ)

@[simp] lemma access_nil : access shard k m [] s = m [] s := by simp [access]

@[simp] lemma accessAll_nil : accessAll m [] s = m [] s := by simp [accessAll]

@[simp] lemma holding_nil : holding shard k m [] s = m [k] s := by simp [holding]

/-- An operation under a guard of its own shard never returns. -/
lemma access_of_held {held : List κ} (h : k ∈ held) : access shard k m held s = (none, s) :=
  if_pos ⟨k, h, rfl⟩

end Shards

/-! ## Completion -/

/-- The handler returns. -/
def Completes (m : Guarded κ σ ε α) (held : List κ) (s : σ) : Prop := (m held s).1.isSome

/-- **Sequencing**: both parts return, the second one if the first one succeeds. -/
lemma completes_bind {m : Guarded κ σ ε α} {f : α → Guarded κ σ ε β} {held : List κ} {s : σ} :
    (m >>= f).Completes held s ↔
      m.Completes held s ∧ ∀ a s', m held s = (some (.ok a), s') → (f a).Completes held s' := by
  unfold Completes
  rw [bind_apply]
  rcases m held s with ⟨_ | _ | a, s'⟩
  · simp
  · simp
  · simp

/-! ## Postconditions -/

/-- `Q` holds of the result and of the state the handler ends in. -/
def Yields (m : Guarded κ σ ε α) (held : List κ) (s : σ) (Q : Option (Except ε α) → σ → Prop) :
    Prop :=
  Q (m held s).1 (m held s).2

section Yields

variable {m : Guarded κ σ ε α} {f : α → Guarded κ σ ε β} {held : List κ} {s s' : σ} {a : α}
  {Q : Option (Except ε α) → σ → Prop} {R : Option (Except ε β) → σ → Prop}

/-- **Sequencing** after a part whose outcome is known. -/
lemma yields_bind (h : m held s = (some (.ok a), s')) (hf : (f a).Yields held s' R) :
    (m >>= f).Yields held s R := by
  rw [Yields, bind_of_ok h]
  exact hf

/-- **Sequencing** in general: the second part runs only if the first one succeeds. -/
lemma yields_bind_cases (h : m.Yields held s fun r s' =>
      (∀ a, r = some (.ok a) → (f a).Yields held s' R) ∧
      (∀ e, r = some (.error e) → R (some (.error e)) s') ∧ (r = none → R none s')) :
    (m >>= f).Yields held s R := by
  unfold Yields at h ⊢
  rw [bind_apply]
  rcases hm : m held s with ⟨_ | e | a, s'⟩
  · rw [hm] at h
    exact h.2.2 rfl
  · rw [hm] at h
    exact h.2.1 e rfl
  · rw [hm] at h
    exact h.1 a rfl

lemma yields_of_eq {r : Option (Except ε α)} (h : m held s = (r, s')) (hQ : Q r s') :
    m.Yields held s Q := by
  rw [Yields, h]
  exact hQ

lemma yields_holding_nil [DecidableEq τ] {shard : κ → τ} {k : κ} (h : m.Yields [k] s Q) :
    (holding shard k m).Yields [] s Q := by
  rw [Yields, holding_nil]
  exact h

end Yields

end Guarded
