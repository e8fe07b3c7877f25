import Mathlib.Data.List.Basic
import Mathlib.Data.List.Perm.Basic

/-!
# Runs of a deterministic system

A system is a state type `σ`, an input type `ι` and a total step function.  Whatever the
environment decides — which message is delivered, which coin is drawn, which operation of the
outside world fails — is part of the input, so a run is a list of inputs and every behaviour of
the system is the run of some list.

* `run` — the state a list of inputs leads to.
* `Along` — every input of a run meets a condition in the state it is taken in.
* `collect` — what a run emits, oldest first.
* **`invariant`** — the induction every safety result of a system is an instance of: what one
  admitted step preserves, a run of admitted steps preserves.
* **`Along.mono_of_invariant`** — a condition on the steps may be exchanged for another one that
  follows from it in the presence of an invariant.
* **`Along.iff_of_invariant`** — and the two hold along the same runs when each follows from the
  other there; **`Along.iff_of_along`** is the same along the runs that meet a third condition.
* **`simulation`** — two systems whose steps keep a relation and emit the same emit the same over
  whole runs.
* **`account`** — a queue over a whole run: what it held and what came in is what went out and
  what it holds, in order.
* **`account_perm`** — the same for a bag, in no order, in the presence of an invariant.
* **`run_drives`**, **`collect_drives`**, **`along_drives`** — a system that uses another one only
  through its calls uses it, emits what it emits and meets its conditions as those calls do.
-/

namespace Run

variable {σ ι ω : Type*}

/-- The state reached from `s` by taking the inputs in order. -/
def run (step : σ → ι → σ) : σ → List ι → σ
  | s, [] => s
  | s, i :: is => run step (step s i) is

@[simp] lemma run_nil (step : σ → ι → σ) (s : σ) : run step s [] = s := rfl

@[simp] lemma run_cons (step : σ → ι → σ) (s : σ) (i : ι) (is : List ι) :
    run step s (i :: is) = run step (step s i) is := rfl

/-- `P` holds of each input in the state in which the run takes it. -/
def Along (step : σ → ι → σ) (P : σ → ι → Prop) : σ → List ι → Prop
  | _, [] => True
  | s, i :: is => P s i ∧ Along step P (step s i) is

@[simp] lemma along_nil (step : σ → ι → σ) (P : σ → ι → Prop) (s : σ) :
    Along step P s [] := trivial

@[simp] lemma along_cons (step : σ → ι → σ) (P : σ → ι → Prop) (s : σ) (i : ι) (is : List ι) :
    Along step P s (i :: is) ↔ P s i ∧ Along step P (step s i) is := Iff.rfl

instance decidableAlong (step : σ → ι → σ) (P : σ → ι → Prop) [∀ s i, Decidable (P s i)] :
    ∀ (s : σ) (is : List ι), Decidable (Along step P s is)
  | _, [] => isTrue trivial
  | s, i :: is =>
      have := decidableAlong step P (step s i) is
      inferInstanceAs (Decidable (P s i ∧ Along step P (step s i) is))

/-- **The invariant rule.**  What one admitted step preserves holds at the end of every run whose
inputs are admitted; runs being closed under prefixes, it holds in every state reached. -/
theorem invariant {step : σ → ι → σ} {P : σ → ι → Prop} {I : σ → Prop}
    (hstep : ∀ s i, I s → P s i → I (step s i)) :
    ∀ (is : List ι) (s : σ), I s → Along step P s is → I (run step s is)
  | [], _, hs, _ => hs
  | i :: is, s, hs, ⟨hi, his⟩ => invariant hstep is (step s i) (hstep s i hs hi) his

/-- Under an invariant kept by `P`-steps, a run of `P`-steps is a run of `Q`-steps as soon as `P`
gives `Q` in the states that satisfy the invariant. -/
theorem Along.mono_of_invariant {step : σ → ι → σ} {P Q : σ → ι → Prop} {I : σ → Prop}
    (hstep : ∀ s i, I s → P s i → I (step s i)) (hQ : ∀ s i, I s → P s i → Q s i) :
    ∀ (is : List ι) (s : σ), I s → Along step P s is → Along step Q s is
  | [], _, _, _ => trivial
  | i :: is, s, hs, ⟨hi, his⟩ =>
      ⟨hQ s i hs hi, Along.mono_of_invariant hstep hQ is (step s i) (hstep s i hs hi) his⟩

/-- Two conditions that agree in the states of an invariant kept by one of them hold along the same
runs.  `R` collects what is assumed of the inputs alone. -/
theorem Along.iff_of_invariant {step : σ → ι → σ} {P Q : σ → ι → Prop} {R : ι → Prop}
    {I : σ → Prop} (hstep : ∀ s i, I s → R i → Q s i → I (step s i))
    (hiff : ∀ s i, I s → R i → (P s i ↔ Q s i)) :
    ∀ (is : List ι) (s : σ), I s → (∀ i ∈ is, R i) → (Along step P s is ↔ Along step Q s is)
  | [], _, _, _ => Iff.rfl
  | i :: is, s, hs, hR => by
      rw [List.forall_mem_cons] at hR
      rw [along_cons, along_cons, hiff s i hs hR.1]
      refine and_congr_right fun hi => ?_
      exact Along.iff_of_invariant hstep hiff is (step s i) (hstep s i hs hR.1 hi) hR.2

/-- The same when nothing is assumed of the inputs. -/
theorem Along.iff_of_invariant_forall {step : σ → ι → σ} {P Q : σ → ι → Prop} {I : σ → Prop}
    (hstep : ∀ s i, I s → Q s i → I (step s i)) (hiff : ∀ s i, I s → (P s i ↔ Q s i))
    (is : List ι) (s : σ) (hs : I s) : Along step P s is ↔ Along step Q s is :=
  Along.iff_of_invariant (R := fun _ => True) (fun s i hi _ => hstep s i hi)
    (fun s i hi _ => hiff s i hi) is s hs (fun _ _ => trivial)

/-- The same along the runs that meet a third condition, which keeps the invariant. -/
theorem Along.iff_of_along {step : σ → ι → σ} {C P Q : σ → ι → Prop} {I : σ → Prop}
    (hstep : ∀ s i, I s → C s i → I (step s i))
    (hiff : ∀ s i, I s → C s i → (P s i ↔ Q s i)) :
    ∀ (is : List ι) (s : σ), I s → Along step C s is → (Along step P s is ↔ Along step Q s is)
  | [], _, _, _ => Iff.rfl
  | i :: is, s, hs, ⟨hi, his⟩ =>
      and_congr (hiff s i hs hi) (Along.iff_of_along hstep hiff is (step s i) (hstep s i hs hi) his)

/-- A condition that holds of every step holds along every run. -/
lemma along_of_forall {step : σ → ι → σ} {P : σ → ι → Prop} (h : ∀ s i, P s i) :
    ∀ (is : List ι) (s : σ), Along step P s is
  | [], _ => trivial
  | i :: is, s => ⟨h s i, along_of_forall h is (step s i)⟩

/-- The invariant rule when every step is admitted. -/
theorem invariant_forall {step : σ → ι → σ} {I : σ → Prop}
    (hstep : ∀ s i, I s → I (step s i)) (is : List ι) (s : σ) (hs : I s) :
    I (run step s is) :=
  invariant (P := fun _ _ => True) (fun s i hi _ => hstep s i hi) is s hs
    (along_of_forall (fun _ _ => trivial) is s)

/-- What holds of every step from the states of an invariant holds along every run. -/
theorem Along.of_invariant_forall {step : σ → ι → σ} {P : σ → ι → Prop} {I : σ → Prop}
    (hstep : ∀ s i, I s → I (step s i)) (hP : ∀ s i, I s → P s i) (is : List ι) (s : σ)
    (hs : I s) : Along step P s is :=
  Along.mono_of_invariant (P := fun _ _ => True) (fun s i hi _ => hstep s i hi)
    (fun s i hi _ => hP s i hi) is s hs (along_of_forall (fun _ _ => trivial) is s)

/-- `Along` is monotone in the condition. -/
lemma Along.mono {step : σ → ι → σ} {P Q : σ → ι → Prop} (h : ∀ s i, P s i → Q s i)
    {is : List ι} {s : σ} (his : Along step P s is) : Along step Q s is :=
  Along.mono_of_invariant (I := fun _ => True) (fun _ _ _ _ => trivial)
    (fun s i _ => h s i) is s trivial his

/-- A run meets a condition up to where it is cut off. -/
lemma along_of_append {step : σ → ι → σ} {P : σ → ι → Prop} {is js : List ι} {s : σ}
    (h : Along step P s (is ++ js)) : Along step P s is := by
  induction is generalizing s with
  | nil => trivial
  | cons i is ih => exact ⟨h.1, ih h.2⟩

lemma run_append (step : σ → ι → σ) (s : σ) (is js : List ι) :
    run step s (is ++ js) = run step (run step s is) js := by
  induction is generalizing s with
  | nil => rfl
  | cons i is ih => exact ih (step s i)

lemma along_append {step : σ → ι → σ} {P : σ → ι → Prop} {is js : List ι} {s : σ} :
    Along step P s (is ++ js) ↔ Along step P s is ∧ Along step P (run step s is) js := by
  induction is generalizing s with
  | nil => simp
  | cons i is ih => simp [ih, and_assoc]

/-- What the steps of a run emit, oldest first. -/
def collect (step : σ → ι → σ) (out : σ → ι → List ω) : σ → List ι → List ω
  | _, [] => []
  | s, i :: is => out s i ++ collect step out (step s i) is

@[simp] lemma collect_nil (step : σ → ι → σ) (out : σ → ι → List ω) (s : σ) :
    collect step out s [] = [] := rfl

@[simp] lemma collect_cons (step : σ → ι → σ) (out : σ → ι → List ω) (s : σ) (i : ι)
    (is : List ι) :
    collect step out s (i :: is) = out s i ++ collect step out (step s i) is := rfl

lemma collect_append (step : σ → ι → σ) (out : σ → ι → List ω) (s : σ) (is js : List ι) :
    collect step out s (is ++ js) =
      collect step out s is ++ collect step out (run step s is) js := by
  induction is generalizing s with
  | nil => rfl
  | cons i is ih =>
      rw [List.cons_append, collect_cons, collect_cons, ih, List.append_assoc, run_cons]

/-- What is emitted does not depend on the states when each step's part does not. -/
lemma collect_const (step : σ → ι → σ) (out : ι → List ω) (is : List ι) (s : σ) :
    collect step (fun _ i => out i) s is = is.flatMap out := by
  induction is generalizing s with
  | nil => rfl
  | cons i is ih => rw [collect_cons, ih, List.flatMap_cons]

/-- A function of lists that distributes over `++` can be applied to each step's part. -/
lemma map_collect {β : Type*} {f : List ω → List β} (hnil : f [] = [])
    (happend : ∀ a b, f (a ++ b) = f a ++ f b) (step : σ → ι → σ) (out : σ → ι → List ω)
    (is : List ι) (s : σ) :
    f (collect step out s is) = collect step (fun s i => f (out s i)) s is := by
  induction is generalizing s with
  | nil => exact hnil
  | cons i is ih => rw [collect_cons, collect_cons, happend, ih]

/-- **Simulation.**  Steps that keep a relation between the states of two systems and emit the
same give runs that emit the same and end in related states. -/
theorem simulation {τ : Type*} {step : σ → ι → σ} {step' : τ → ι → τ} {out : σ → ι → List ω}
    {out' : τ → ι → List ω} {R : σ → τ → Prop}
    (hstep : ∀ s t i, R s t → out s i = out' t i ∧ R (step s i) (step' t i))
    (is : List ι) (s : σ) (t : τ) (hR : R s t) :
    collect step out s is = collect step' out' t is ∧ R (run step s is) (run step' t is) := by
  induction is generalizing s t with
  | nil => exact ⟨rfl, hR⟩
  | cons i is ih =>
      have hone := hstep s t i hR
      have hrest := ih (step s i) (step' t i) hone.2
      exact ⟨by rw [collect_cons, collect_cons, hone.1, hrest.1], hrest.2⟩

/-- **Accounting.**  If every step lets out the front of what it held and took in, so does every
run. -/
theorem account {step : σ → ι → σ} {held : σ → List ω} {taken given : σ → ι → List ω}
    (hstep : ∀ s i, held s ++ taken s i = given s i ++ held (step s i))
    (is : List ι) (s : σ) :
    held s ++ collect step taken s is = collect step given s is ++ held (run step s is) := by
  induction is generalizing s with
  | nil => simp
  | cons i is ih =>
      calc held s ++ (taken s i ++ collect step taken (step s i) is)
          = given s i ++ (held (step s i) ++ collect step taken (step s i) is) := by
            rw [← List.append_assoc, hstep, List.append_assoc]
        _ = given s i ++ collect step given (step s i) is ++ held (run step (step s i) is) := by
            rw [ih, List.append_assoc]

/-- **Accounting for a bag.**  If in the states of an invariant every step lets out some of what it
held and took in and keeps the rest, so does every run. -/
theorem account_perm {step : σ → ι → σ} (held : σ → List ω) {taken given : σ → ι → List ω}
    {I : σ → Prop} (hI : ∀ s i, I s → I (step s i))
    (hstep : ∀ s i, I s → (held s ++ taken s i).Perm (given s i ++ held (step s i)))
    (is : List ι) (s : σ) (hs : I s) :
    (held s ++ collect step taken s is).Perm
      (collect step given s is ++ held (run step s is)) := by
  induction is generalizing s with
  | nil => simp
  | cons i is ih =>
      rw [collect_cons, collect_cons, run_cons, ← List.append_assoc, List.append_assoc (given s i)]
      refine ((hstep s i hs).append_right _).trans ?_
      rw [List.append_assoc]
      exact (ih (step s i) (hI s i hs)).append_left _

/-- Whatever the steps of a run emit meets a condition that each step's part meets. -/
theorem forall_collect {step : σ → ι → σ} {out : σ → ι → List ω} {P : σ → ι → Prop} {I : σ → Prop}
    {Q : ω → Prop} (hstep : ∀ s i, I s → P s i → I (step s i))
    (hout : ∀ s i, I s → P s i → ∀ o ∈ out s i, Q o) (is : List ι) (s : σ) (hs : I s)
    (his : Along step P s is) : ∀ o ∈ collect step out s is, Q o := by
  induction is generalizing s with
  | nil => simp
  | cons i is ih =>
      intro o ho
      rcases List.mem_append.mp ho with ho | ho
      · exact hout s i hs his.1 o ho
      · exact ih (step s i) (hstep s i hs his.1) his.2 o ho

/-! ## One system inside another

`calls` are the inputs that a step of the outer system gives to the inner one, of which `view` shows
the state.
-/

section Inner

variable {τ κ : Type*} {step : σ → ι → σ} {inner : τ → κ → τ} {view : σ → τ}
  {calls : σ → ι → List κ}

/-- If a step does nothing else to the inner system, a run of the outer system is one of the inner
system. -/
theorem run_drives (hview : ∀ s i, view (step s i) = run inner (view s) (calls s i))
    (is : List ι) (s : σ) :
    view (run step s is) = run inner (view s) (collect step calls s is) := by
  induction is generalizing s with
  | nil => rfl
  | cons i is ih => rw [run_cons, ih, hview, collect_cons, run_append]

/-- If moreover a step emits what the inner system does, so does a run. -/
theorem collect_drives {out : σ → ι → List ω} {innerOut : τ → κ → List ω}
    (hview : ∀ s i, view (step s i) = run inner (view s) (calls s i))
    (hout : ∀ s i, out s i = collect inner innerOut (view s) (calls s i))
    (is : List ι) (s : σ) :
    collect step out s is = collect inner innerOut (view s) (collect step calls s is) := by
  induction is generalizing s with
  | nil => rfl
  | cons i is ih => rw [collect_cons, collect_cons, collect_append, ih, hview, hout]

/-- If the inputs it gives are admitted in the states of an invariant, the run of the inner system
is an admitted one. -/
theorem along_drives {P : τ → κ → Prop} {I : σ → Prop}
    (hview : ∀ s i, view (step s i) = run inner (view s) (calls s i))
    (hstep : ∀ s i, I s → I (step s i)) (hcalls : ∀ s i, I s → Along inner P (view s) (calls s i))
    (is : List ι) (s : σ) (hs : I s) : Along inner P (view s) (collect step calls s is) := by
  induction is generalizing s with
  | nil => trivial
  | cons i is ih =>
      have hrest := ih (step s i) (hstep s i hs)
      rw [hview] at hrest
      exact along_append.mpr ⟨hcalls s i hs, hrest⟩

end Inner

end Run
