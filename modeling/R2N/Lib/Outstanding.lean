import Mathlib.Data.List.DropRight
import R2N.Lib.KeyMap

/-!
# Requests that wait for an answer

A client numbers its requests, keeps those that are not answered yet in a table under their
numbers, and takes an entry out when an answer with its number arrives or when it is too old.  The
table may forget a request in one more way: a number that is used again replaces what was filed
under it.

* `items` — the entries of a table; `entry` — those under one number, so at most one.
* **`items_insert`**, **`items_erase`**, **`items_retain`** — filing, answering and giving up, each
  as an account of where the entries of the table went.
* `push` — a window of the last outcomes; **`foldl_push`** — it holds the end of the list of all of
  them.
-/

namespace Outstanding

variable {K V : Type*} [DecidableEq K]

/-! ## The table -/

/-- The entries of a table. -/
def items (t : KeyMap K V) : List (K × V) := t.entries.map fun e => (e.1, e.2)

/-- What is filed under `k`. -/
def entry (t : KeyMap K V) (k : K) : List (K × V) := (t.lookup k).toList.map (Prod.mk k)

/-- The entries that meet a condition. -/
def selected (p : K → V → Bool) (t : KeyMap K V) : List (K × V) :=
  (items t).filter fun e => p e.1 e.2

omit [DecidableEq K] in
@[simp] lemma items_empty : items (∅ : KeyMap K V) = [] := rfl

lemma mem_items {t : KeyMap K V} {k : K} {v : V} : (k, v) ∈ items t ↔ t.lookup k = some v := by
  rw [items, List.mem_map]
  constructor
  · rintro ⟨⟨k', v'⟩, hmem, heq⟩
    obtain ⟨rfl, rfl⟩ := Prod.mk.inj heq
    exact AList.mem_lookup_iff.mpr hmem
  · intro h
    exact ⟨⟨k, v⟩, AList.mem_lookup_iff.mp h, rfl⟩

lemma mem_entry {t : KeyMap K V} {k k' : K} {v : V} :
    (k', v) ∈ entry t k ↔ k' = k ∧ t.lookup k = some v := by
  simp only [entry, List.mem_map, Option.mem_toList, Prod.mk.injEq]
  constructor
  · rintro ⟨v', hv, rfl, rfl⟩
    exact ⟨rfl, hv⟩
  · rintro ⟨rfl, hv⟩
    exact ⟨v, hv, rfl, rfl⟩

/-- **Answering.**  The entry under `k` and what is left. -/
theorem items_erase (t : KeyMap K V) (k : K) :
    (items t).Perm (entry t k ++ items (t.erase k)) := by
  by_cases hk : k ∈ t
  · obtain ⟨v, front, back, hfront, heq, herase⟩ := List.exists_of_kerase (AList.mem_keys.mp hk)
    have hlook : t.lookup k = some v := by
      refine AList.mem_lookup_iff.mpr ?_
      rw [heq]
      exact List.mem_append_right _ List.mem_cons_self
    have hentries : (t.erase k).entries = front ++ back := herase
    simp only [items, entry, hlook, hentries, heq, Option.toList_some, List.map_cons, List.map_nil,
      List.map_append]
    exact List.perm_middle
  · have hlook : t.lookup k = none := AList.lookup_eq_none.mpr hk
    have hentries : (t.erase k).entries = t.entries :=
      List.kerase_of_notMem_keys fun hmem => hk (AList.mem_keys.mpr hmem)
    simp [items, entry, hlook, hentries]

/-- **Filing.**  The new entry joins the others; the one it replaces is gone. -/
theorem items_insert (t : KeyMap K V) (k : K) (v : V) :
    (items t ++ [(k, v)]).Perm (entry t k ++ items (t.insert k v)) := by
  have hentries : items (t.insert k v) = (k, v) :: items (t.erase k) := rfl
  rw [hentries]
  exact ((items_erase t k).append_right _).trans (by
    rw [List.append_assoc]
    exact List.Perm.append_left _ (List.perm_append_singleton _ _))

omit [DecidableEq K] in
/-- **Giving up.**  The entries that meet the condition, and the others. -/
theorem items_retain (p : K → V → Bool) (t : KeyMap K V) :
    (items t).Perm (selected p t ++ items (KeyMap.retain (fun k v => !p k v) t)) := by
  have hrest : items (KeyMap.retain (fun k v => !p k v) t) =
      (items t).filter fun e => !p e.1 e.2 := by
    simp only [items, KeyMap.retain, List.filter_map]
    rfl
  rw [selected, hrest]
  exact (List.filter_append_perm _ _).symm

/-! ## The last outcomes -/

variable {α : Type*}

/-- Puts an outcome at the end of a window and drops the first one if there are more than `n`. -/
def push (n : ℕ) (window : List α) (x : α) : List α :=
  let window := window ++ [x]
  if window.length > n then window.tail else window

/-- One outcome more. -/
lemma push_rtake (n : ℕ) (log : List α) (x : α) :
    push n (log.rtake n) x = (log ++ [x]).rtake n := by
  simp only [push, List.rtake, List.length_append, List.length_drop, List.length_singleton]
  by_cases hn : log.length < n
  · have hall : log.length - n = 0 := by omega
    have hall' : log.length + 1 - n = 0 := by omega
    rw [hall, hall', if_neg (by omega)]
    simp
  · have hnext : log.length + 1 - n = log.length - n + 1 := by omega
    rw [if_pos (by omega), ← List.drop_append_of_le_length (by omega), List.tail_drop, hnext]

/-- **A window holds the end of the list of all outcomes.** -/
theorem foldl_push (n : ℕ) (log xs : List α) :
    xs.foldl (push n) (log.rtake n) = (log ++ xs).rtake n := by
  induction xs generalizing log with
  | nil => simp
  | cons x xs ih =>
      rw [List.foldl_cons, push_rtake, ih, List.append_assoc, List.singleton_append]

end Outstanding
