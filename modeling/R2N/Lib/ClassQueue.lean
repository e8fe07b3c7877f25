import Mathlib.Data.List.Basic

/-!
# A list of classed items

One list in arrival order that holds items of several classes, and the two removals a priority
queue makes on it: of the earliest item of a class, and of the earliest item of the first class
of a ranking that has one.

* `waiting` — the items of one class, in arrival order.
* `dropFirst`, `first` — the list without the earliest item of a class, and that item.
* `popHighest` — the earliest item of the first class of `ranking` that has an item.
* **`waiting_dropFirst`** — a removal takes the head of its own class and nothing of another.
* **`waiting_popHighest`** — what a removal hands out, followed by what it leaves, is what waited.
-/

namespace ClassQueue

variable {κ α : Type*} [DecidableEq κ]

/-- The items of class `c`, oldest first. -/
def waiting (c : κ) (q : List (κ × α)) : List α := (q.filter (·.1 = c)).map (·.2)

/-- The list without its earliest item of class `c`. -/
def dropFirst (c : κ) (q : List (κ × α)) : List (κ × α) := q.eraseP (·.1 = c)

/-- The earliest item of class `c`. -/
def first (c : κ) (q : List (κ × α)) : Option (κ × α) := q.find? (·.1 = c)

/-- The first class of `ranking` of which an item waits. -/
def highest (ranking : List κ) (q : List (κ × α)) : Option κ :=
  ranking.find? fun c => q.any (·.1 = c)

/-- The earliest item of the highest class that has one, and the list without it. -/
def popHighest (ranking : List κ) (q : List (κ × α)) : Option (κ × α) × List (κ × α) :=
  match highest ranking q with
  | none => (none, q)
  | some c => (first c q, dropFirst c q)

@[simp] lemma waiting_nil (c : κ) : waiting c ([] : List (κ × α)) = [] := rfl

@[simp] lemma waiting_append (c : κ) (p q : List (κ × α)) :
    waiting c (p ++ q) = waiting c p ++ waiting c q := by
  simp [waiting]

lemma waiting_cons (c : κ) (e : κ × α) (q : List (κ × α)) :
    waiting c (e :: q) = if e.1 = c then e.2 :: waiting c q else waiting c q := by
  by_cases h : e.1 = c <;> simp [waiting, h]

@[simp] lemma waiting_singleton (c : κ) (e : κ × α) :
    waiting c [e] = if e.1 = c then [e.2] else [] := by
  simp [waiting_cons]

lemma waiting_eq_nil_iff (c : κ) (q : List (κ × α)) :
    waiting c q = [] ↔ q.any (·.1 = c) = false := by
  simp [waiting]

/-- What waits of class `c` after the earliest item of class `d` is gone. -/
theorem waiting_dropFirst (c d : κ) (q : List (κ × α)) :
    waiting c (dropFirst d q) = if d = c then (waiting c q).tail else waiting c q := by
  induction q with
  | nil => simp [dropFirst]
  | cons e q ih =>
      rw [dropFirst] at ih ⊢
      by_cases he : e.1 = d
      · by_cases hd : d = c <;> simp [waiting_cons, he, hd]
      · have hkeep : (e :: q).eraseP (·.1 = d) = e :: q.eraseP (·.1 = d) := by simp [he]
        rw [hkeep, waiting_cons, waiting_cons, ih]
        by_cases hd : d = c
        · subst hd
          simp [he]
        · simp [hd]

/-- The earliest item of a class is the head of what waits of it. -/
lemma first_eq_head? (c : κ) (q : List (κ × α)) :
    first c q = (waiting c q).head?.map (Prod.mk c) := by
  induction q with
  | nil => rfl
  | cons e q ih =>
      rw [first] at ih ⊢
      by_cases he : e.1 = c
      · subst he
        simp [waiting_cons]
      · simp [waiting_cons, he, ih]

/-- The earliest item of a class followed by what is left of the class. -/
lemma waiting_first_append (c d : κ) (q : List (κ × α)) :
    waiting c (first d q).toList ++ waiting c (dropFirst d q) = waiting c q := by
  rw [first_eq_head?, waiting_dropFirst]
  by_cases hd : d = c
  · subst hd
    cases waiting d q <;> simp
  · cases waiting d q <;> simp [hd]

@[simp] lemma popHighest_nil (q : List (κ × α)) : popHighest [] q = (none, q) := rfl

/-- The ranking is tried from its head: a class of which nothing waits is passed over. -/
lemma popHighest_cons (c : κ) (ranking : List κ) (q : List (κ × α)) :
    popHighest (c :: ranking) q =
      match waiting c q with
      | [] => popHighest ranking q
      | item :: _ => (some (c, item), dropFirst c q) := by
  cases hw : waiting c q with
  | nil =>
      have hany := (waiting_eq_nil_iff c q).mp hw
      simp [popHighest, highest, hany]
  | cons item rest =>
      have hany : q.any (·.1 = c) = true := by
        rw [← Bool.not_eq_false, ← waiting_eq_nil_iff, hw]
        simp
      simp [popHighest, highest, hany, first_eq_head?, hw]

/-- A removal loses nothing: what it hands out followed by what it leaves is what waited, in every
class. -/
theorem waiting_popHighest (c : κ) (ranking : List κ) (q : List (κ × α)) :
    waiting c (popHighest ranking q).1.toList ++ waiting c (popHighest ranking q).2 =
      waiting c q := by
  rw [popHighest]
  cases highest ranking q with
  | none => simp
  | some d => exact waiting_first_append c d q

end ClassQueue
