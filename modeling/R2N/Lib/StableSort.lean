import Mathlib.Data.List.FinRange
import Mathlib.Data.List.Sort

/-!
# Stable sorting by a key

`sort_by_key` keeps the order of elements whose keys agree.  Mathlib's `insertionSort` does as
well, for any relation `r` that compares by a key; here the greater key comes first.  Where an
element stands afterwards is one strict order: by the key, and among equal keys by the order `s`
the elements had before.

* `Before` — that order.
* **`pairwise_before`** — the sorted list is in it.
* `order`, `map_get_order` — sorting a list as a rearrangement of its positions.
* `sublist_order_iff` — which positions come one after the other.
-/

namespace StableSort

variable {α κ : Type*} [LinearOrder κ] {r : α → α → Prop} [DecidableRel r] {key : α → κ}
  {s : α → α → Prop}

/-- `a` has the greater key, or the same key and came first. -/
def Before (key : α → κ) (s : α → α → Prop) (a b : α) : Prop :=
  key b < key a ∨ key a = key b ∧ s a b

lemma Before.key_le {a b : α} (h : Before key s a b) : key b ≤ key a := by
  rcases h with h | h
  · exact h.le
  · exact h.1.ge

lemma Before.asymm [Std.Asymm s] {a b : α} (h : Before key s a b) : ¬ Before key s b a := by
  rintro (h' | ⟨heq, h'⟩)
  · exact absurd h.key_le (not_le.mpr h')
  · rcases h with h | ⟨-, h⟩
    · exact absurd heq h.ne
    · exact Std.Asymm.asymm a b h h'

instance [Std.Asymm s] : Std.Asymm (Before key s) := ⟨fun _ _ => Before.asymm⟩

lemma Before.trans [IsTrans α s] {a b c : α} (hab : Before key s a b) (hbc : Before key s b c) :
    Before key s a c := by
  rcases hab with hab | ⟨heq, hab⟩
  · exact Or.inl (hbc.key_le.trans_lt hab)
  · rcases hbc with hbc | ⟨heq', hbc⟩
    · exact Or.inl (hbc.trans_eq heq.symm)
    · exact Or.inr ⟨heq.trans heq', IsTrans.trans a b c hab hbc⟩

/-- Inserting an element that came before everything in the list. -/
lemma pairwise_orderedInsert (hr : ∀ a b, r a b ↔ key b ≤ key a) {a : α} {l : List α}
    (ha : ∀ b ∈ l, s a b) (hl : l.Pairwise (Before key s)) :
    (l.orderedInsert r a).Pairwise (Before key s) := by
  induction l with
  | nil => exact List.pairwise_singleton _ a
  | cons b l ih =>
      obtain ⟨hb, htail⟩ := List.pairwise_cons.mp hl
      by_cases hab : r a b
      · -- it goes to the front: no key behind is greater
        rw [List.orderedInsert_cons_of_le r l hab]
        refine List.pairwise_cons.mpr ⟨fun c hc => ?_, hl⟩
        have hkey : key c ≤ key a := by
          rcases List.mem_cons.mp hc with rfl | hc'
          · exact (hr a c).mp hab
          · exact (hb c hc').key_le.trans ((hr a b).mp hab)
        rcases hkey.lt_or_eq with hlt | heq
        · exact Or.inl hlt
        · exact Or.inr ⟨heq.symm, ha c hc⟩
      · rw [List.orderedInsert_of_not_le r l hab]
        have hlt : key a < key b := not_le.mp fun h => hab ((hr a b).mpr h)
        refine List.pairwise_cons.mpr ⟨fun c hc => ?_,
          ih (fun c hc => ha c (List.mem_cons_of_mem b hc)) htail⟩
        rcases (List.mem_orderedInsert r).mp hc with rfl | hc'
        · exact Or.inl hlt
        · exact hb c hc'

/-- **Stability.**  Sorting puts the elements in order by key, and by the order they had. -/
theorem pairwise_before (hr : ∀ a b, r a b ↔ key b ≤ key a) {l : List α} (hl : l.Pairwise s) :
    (l.insertionSort r).Pairwise (Before key s) := by
  induction l with
  | nil => exact List.Pairwise.nil
  | cons a l ih =>
      obtain ⟨ha, htail⟩ := List.pairwise_cons.mp hl
      rw [List.insertionSort_cons]
      exact pairwise_orderedInsert hr (fun b hb => ha b ((List.mem_insertionSort r).mp hb))
        (ih htail)

/-- Sorting by a key puts the greater key first. -/
lemma pairwise_insertionSort (hr : ∀ a b, r a b ↔ key b ≤ key a) (l : List α) :
    (l.insertionSort r).Pairwise r :=
  (pairwise_before hr (List.pairwise_of_forall fun _ _ => trivial) :
    (l.insertionSort r).Pairwise (Before key fun _ _ => True)).imp
    fun hab => (hr _ _).mpr hab.key_le

/-! ## Positions -/

/-- The positions of a list in the order in which sorting puts their elements. -/
def order (r : α → α → Prop) [DecidableRel r] (l : List α) : List (Fin l.length) :=
  (List.finRange l.length).insertionSort fun i j => r (l.get i) (l.get j)

lemma map_get_order (l : List α) : (order r l).map l.get = l.insertionSort r := by
  rw [order, List.map_insertionSort _ r l.get _ fun _ _ _ _ => Iff.rfl, List.map_get_finRange]

lemma mem_order {l : List α} (i : Fin l.length) : i ∈ order r l :=
  (List.mem_insertionSort _).mpr (List.mem_finRange i)

lemma pairwise_order (hr : ∀ a b, r a b ↔ key b ≤ key a) (l : List α) :
    (order r l).Pairwise (Before (key ∘ l.get) (· < ·)) :=
  pairwise_before (fun i j => hr (l.get i) (l.get j)) (List.sortedLT_finRange _).pairwise

/-- Positions come one after the other exactly if each is before the next ones. -/
theorem sublist_order_iff (hr : ∀ a b, r a b ↔ key b ≤ key a) {l : List α}
    {t : List (Fin l.length)} :
    t.Sublist (order r l) ↔ t.Pairwise (Before (key ∘ l.get) (· < ·)) := by
  constructor
  · exact fun h => (pairwise_order hr l).sublist h
  · intro h
    have hnodup : t.Nodup := h.imp fun hab heq => (heq ▸ hab).asymm (heq ▸ hab)
    exact List.sublist_of_subperm_of_pairwise
      (List.subperm_of_subset hnodup fun i _ => mem_order i) h (pairwise_order hr l)

end StableSort
