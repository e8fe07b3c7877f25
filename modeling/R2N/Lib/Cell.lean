import R2N.Lib.KeyMap
import R2N.Lib.Run

/-!
# A shared cell that is read, then written

Clients change a shared value by reading it, computing a new value from what they have read, and
writing that.  The two accesses are atomic, the pair is not: between them other clients may write.
`apply` is what a command makes of a value; a command that fails writes nothing.

* `Cell.State`, `Cell.step` — the value, what each client has read, and the commands that were
  carried out, in the order of their writes.
* `Fresh` — a client writes while the value is still the one it has read.
* **`replay_of_fresh`** — if all writes are fresh, the value is what the commands make of the first
  value one after another.
-/

namespace Cell

variable {C σ κ ε : Type*} [DecidableEq C]

/-- A client between its two accesses: its command, and the value it has read. -/
structure Pending (σ κ : Type*) where
  command : κ
  snapshot : σ
deriving DecidableEq

structure State (C σ κ : Type*) where
  value : σ
  pending : KeyMap C (Pending σ κ)
  carriedOut : List κ

inductive Input (C κ : Type*) where
  | read (client : C) (command : κ)
  | write (client : C)

/-- One access.  A client that has read does not read again before it has written. -/
def step (apply : σ → κ → Except ε σ) (s : State C σ κ) : Input C κ → State C σ κ
  | .read client command =>
      if client ∈ s.pending then s
      else
        match apply s.value command with
        | .ok _ => { s with pending := s.pending.insert client { command, snapshot := s.value } }
        | .error _ => s
  | .write client =>
      match s.pending.lookup client with
      | none => s
      | some p =>
          match apply p.snapshot p.command with
          | .ok value =>
              { value
                pending := s.pending.erase client
                carriedOut := s.carriedOut ++ [p.command] }
          | .error _ => s

/-- A write is fresh if the value is the one its client has read. -/
def Fresh (s : State C σ κ) : Input C κ → Prop
  | .read _ _ => True
  | .write client => ∀ p ∈ s.pending.lookup client, p.snapshot = s.value

/-- The commands one after another, all of them carried out. -/
def replay (apply : σ → κ → Except ε σ) (value : σ) (commands : List κ) : Except ε σ :=
  commands.foldlM apply value

lemma replay_append (apply : σ → κ → Except ε σ) (value : σ) (before later : List κ) :
    replay apply value (before ++ later) =
      (replay apply value before).bind fun v => replay apply v later :=
  List.foldlM_append

lemma replay_singleton (apply : σ → κ → Except ε σ) (value : σ) (command : κ) :
    replay apply value [command] = apply value command := by
  simp only [replay, List.foldlM_cons, List.foldlM_nil, bind_pure]

/-- **One fresh access** keeps the value a replay of the commands. -/
lemma replay_step {apply : σ → κ → Except ε σ} {first : σ} {s : State C σ κ} {i : Input C κ}
    (hs : replay apply first s.carriedOut = .ok s.value) (hi : Fresh s i) :
    replay apply first (step apply s i).carriedOut = .ok (step apply s i).value := by
  cases i with
  | read client command =>
      simp only [step]
      split_ifs
      · exact hs
      · cases apply s.value command with
        | error e => exact hs
        | ok v => exact hs
  | write client =>
      simp only [step]
      cases hp : s.pending.lookup client with
      | none => exact hs
      | some p =>
          simp only
          cases happly : apply p.snapshot p.command with
          | error e => exact hs
          | ok v =>
              simp only
              rw [hi p hp] at happly
              rw [replay_append, hs]
              exact (replay_singleton apply s.value p.command).trans happly

/-- **Fresh writes are serial.** -/
theorem replay_of_fresh {apply : σ → κ → Except ε σ} {s : State C σ κ}
    (hs : s.carriedOut = []) (inputs : List (Input C κ))
    (hfresh : Run.Along (step apply) Fresh s inputs) :
    replay apply s.value (Run.run (step apply) s inputs).carriedOut =
      .ok (Run.run (step apply) s inputs).value := by
  refine Run.invariant (I := fun t => replay apply s.value t.carriedOut = .ok t.value)
    (fun _ _ ht hi => replay_step ht hi) inputs s ?_ hfresh
  rw [hs]
  rfl

end Cell
