import Mathlib.Data.Finset.Card
import Mathlib.Data.List.Sort
import R2N.Lib.Run

/-!
# A bounded list of the most recent entries

Entries with a key, the most recent first, and at most `n` of them: using a key moves its entry to
the front, and what does not fit falls off at the end.

* `Op`, `apply` — using, removing and changing an entry.
* `insertionSort_concat` — sorting by age is moving to the front, if the entries were sorted before
  and the new one is younger than all of them.
* `Ahead` — only entries with keys in a given set are before the entry of a key.
* **`mem_run`** — an entry that was used is there as long as it is not removed and fewer than `n`
  other keys are used after it.
-/

namespace Recency

open Run

variable {α K : Type*} [DecidableEq K] (key : α → K)

inductive Op (α K : Type*) where
  | use (a : α)
  | remove (k : K)
  | modify (f : α → α)

/-- The list after an operation. -/
def apply (n : ℕ) (l : List α) : Op α K → List α
  | .use a => (a :: l.filter fun b => key b ≠ key a).take n
  | .remove k => l.filter fun b => key b ≠ k
  | .modify f => l.map f

/-! ## Sorting by age -/

section Sorting

variable {r : α → α → Prop} [DecidableRel r]

/-- What is sorted stays, and a new entry that belongs before all others goes to the front. -/
lemma insertionSort_concat {l : List α} {a : α} (hsorted : l.Pairwise r)
    (hfront : ∀ b ∈ l, ¬ r b a) : (l ++ [a]).insertionSort r = a :: l := by
  induction l with
  | nil => rfl
  | cons b l ih =>
      obtain ⟨hb, hl⟩ := List.pairwise_cons.mp hsorted
      have hmem : ∀ c ∈ l, ¬ r c a := fun c hc => hfront c (List.mem_cons_of_mem b hc)
      have hinsert : l.orderedInsert r b = b :: l := by
        cases l with
        | nil => rfl
        | cons c l => exact List.orderedInsert_cons_of_le r l (hb c List.mem_cons_self)
      rw [List.cons_append, List.insertionSort_cons, ih hl hmem, List.orderedInsert,
        if_neg (hfront b List.mem_cons_self), hinsert]

end Sorting

/-! ## How long an entry stays -/

/-- The entry of `k` is in the list, and those before it have different keys out of `others`. -/
def Ahead (k : K) (others : Finset K) (l : List α) : Prop :=
  ∃ front a back, l = front ++ a :: back ∧ key a = k ∧ (front.map key).Nodup ∧
    ∀ b ∈ front, key b ∈ others

/-- An operation that uses only `k` and other given keys, and does not remove `k`. -/
def Op.Spares (k : K) (others : Finset K) : Op α K → Prop
  | .use a => key a = k ∨ key a ∈ others
  | .remove k' => k' ≠ k
  | .modify f => ∀ a, key (f a) = key a

variable {key}

omit [DecidableEq K] in
lemma Ahead.mem {k : K} {others : Finset K} {l : List α} (h : Ahead key k others l) :
    ∃ a ∈ l, key a = k := by
  obtain ⟨front, a, back, rfl, hkey, -⟩ := h
  exact ⟨a, by simp, hkey⟩

/-- There are fewer entries before than other keys. -/
lemma length_le_card {others : Finset K} {front : List α} (hnodup : (front.map key).Nodup)
    (hothers : ∀ b ∈ front, key b ∈ others) : front.length ≤ others.card := by
  rw [← List.length_map key, ← List.toFinset_card_of_nodup hnodup]
  refine Finset.card_le_card fun k hk => ?_
  obtain ⟨b, hb, rfl⟩ := List.mem_map.mp (List.mem_toFinset.mp hk)
  exact hothers b hb

/-- Using the key itself puts it in front. -/
lemma ahead_use_self {n : ℕ} (hn : 0 < n) (others : Finset K) (l : List α) (a : α) :
    Ahead key (key a) others (apply key n l (.use a : Op α K)) := by
  obtain ⟨m, rfl⟩ := Nat.exists_eq_succ_of_ne_zero hn.ne'
  exact ⟨[], a, (l.filter fun b => key b ≠ key a).take m, rfl, rfl, List.nodup_nil, nofun⟩

/-- Nothing but the other keys gets in front of the key. -/
lemma Ahead.step {k : K} {others : Finset K} {n : ℕ} (hn : others.card < n) {l : List α}
    (h : Ahead key k others l) {op : Op α K} (hop : op.Spares key k others) :
    Ahead key k others (apply key n l op) := by
  obtain ⟨front, a, back, rfl, hkey, hnodup, hothers⟩ := h
  cases op with
  | use c =>
      by_cases hc : key c = k
      · rw [← hc]
        exact ahead_use_self (Nat.zero_lt_of_lt hn) others _ c
      · have hc' : key c ∈ others := hop.resolve_left hc
        have ha : key a ≠ key c := by rw [hkey]; exact Ne.symm hc
        -- what was before the entry, with `c` in front of it
        have hfront : ((c :: front.filter fun b => key b ≠ key c).map key).Nodup := by
          rw [List.map_cons, List.nodup_cons]
          refine ⟨?_, (hnodup.sublist ((List.filter_sublist).map key))⟩
          simp
        have hmem : ∀ b ∈ c :: front.filter (fun b => key b ≠ key c), key b ∈ others := by
          intro b hb
          rcases List.mem_cons.mp hb with rfl | hb
          · exact hc'
          · exact hothers b (List.mem_of_mem_filter hb)
        have hlen := (length_le_card hfront hmem).trans_lt hn
        refine ⟨c :: front.filter fun b => key b ≠ key c, a,
          (back.filter fun b => key b ≠ key c).take
            (n - (c :: front.filter fun b => key b ≠ key c).length - 1), ?_, hkey, hfront, hmem⟩
        have hsplit : c :: (front ++ a :: back).filter (fun b => key b ≠ key c) =
            (c :: front.filter fun b => key b ≠ key c) ++
              a :: back.filter fun b => key b ≠ key c := by
          simp [List.filter_append, ha]
        rw [apply, hsplit, List.take_append, List.take_of_length_le hlen.le]
        obtain ⟨m, hm⟩ := Nat.exists_eq_succ_of_ne_zero (Nat.sub_ne_zero_of_lt hlen)
        rw [hm]
        rfl
  | remove k' =>
      have ha : key a ≠ k' := by rw [hkey]; exact Ne.symm hop
      refine ⟨front.filter fun b => key b ≠ k', a, back.filter fun b => key b ≠ k', ?_, hkey,
        hnodup.sublist ((List.filter_sublist).map key),
        fun b hb => hothers b (List.mem_of_mem_filter hb)⟩
      simp [apply, List.filter_append, ha]
  | modify f =>
      have hmap : (front.map f).map key = front.map key := by
        rw [List.map_map]
        exact List.map_congr_left fun b _ => hop b
      refine ⟨front.map f, f a, back.map f, by simp [apply], by rw [hop, hkey], hmap ▸ hnodup, ?_⟩
      intro b hb
      obtain ⟨b, hfront, rfl⟩ := List.mem_map.mp hb
      rw [hop]
      exact hothers b hfront

variable (key) in
/-- **How long an entry stays.**  After a key was used, its entry is in the list as long as it is
not removed and fewer than `n` other keys are used. -/
theorem mem_run {n : ℕ} (l : List α) (a : α) (ops : List (Op α K)) (others : Finset K)
    (hn : others.card < n) (hops : ∀ op ∈ ops, op.Spares key (key a) others) :
    ∃ b ∈ run (apply key n) (apply key n l (.use a)) ops, key b = key a := by
  have hstart : Ahead key (key a) others (apply key n l (.use a)) :=
    ahead_use_self (Nat.zero_lt_of_lt hn) others l a
  generalize apply key n l (.use a) = l at hstart
  suffices hrun : Ahead key (key a) others (run (apply key n) l ops) from hrun.mem
  induction ops generalizing l with
  | nil => exact hstart
  | cons op ops ih =>
      exact ih (fun op' hop' => hops op' (List.mem_cons_of_mem _ hop')) _
        (hstart.step hn (hops op List.mem_cons_self))

end Recency
