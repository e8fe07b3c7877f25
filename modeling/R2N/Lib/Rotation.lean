import Mathlib.Data.List.GetD
import Mathlib.Data.List.Nodup
import Mathlib.Data.Nat.Find
import Mathlib.Logic.Function.Iterate

/-!
# Walking through a list by successors

A rotation that remembers only the current element finds its place again by searching for it, so
that it always continues behind the element's first occurrence.

* `next` — the element behind the first occurrence, with the first one behind the last.
* `iterate_next_of_nodup` — without repetitions, `k` steps lead `k` positions on.
* `iterate_next_mem_segment` — a repetition is a trap: once behind the first of two equal elements
  the walk never leaves the segment between them.
* **`covers_iff_nodup`** — if the head of the list occurs once, the walk visits every element from
  everywhere exactly if no element occurs twice.
-/

namespace Rotation

variable {α : Type*} [DecidableEq α]

/-- The element behind the first occurrence of `a`. -/
def next (l : List α) (a : α) : α := l.getD ((l.idxOf a + 1) % l.length) a

/-- From every element, every element is reached in at most as many steps as the list is long. -/
def Covers (l : List α) : Prop := ∀ a ∈ l, ∀ b ∈ l, ∃ k ≤ l.length, (next l)^[k] a = b

lemma next_mem {l : List α} {a : α} (h : a ∈ l) : next l a ∈ l := by
  have hpos : 0 < l.length := List.length_pos_of_mem h
  have hlt : (l.idxOf a + 1) % l.length < l.length := Nat.mod_lt _ hpos
  rw [next, List.getD_eq_getElem _ _ hlt]
  exact List.getElem_mem hlt

/-- The successor of an element whose first occurrence is at `i`. -/
lemma next_getElem {l : List α} {i : ℕ} (hi : i < l.length) (hfirst : l.idxOf l[i] = i)
    (hlt : (i + 1) % l.length < l.length) : next l l[i] = l[(i + 1) % l.length] := by
  rw [next, hfirst, List.getD_eq_getElem _ _ hlt]

/-! ## Without repetitions -/

lemma iterate_next_of_nodup {l : List α} (hl : l.Nodup) {i : ℕ} (hi : i < l.length) (k : ℕ)
    (hlt : (i + k) % l.length < l.length) : (next l)^[k] l[i] = l[(i + k) % l.length] := by
  induction k with
  | zero => simp [Nat.mod_eq_of_lt hi]
  | succ k ih =>
      have hpos : 0 < l.length := by omega
      have hk : (i + k) % l.length < l.length := Nat.mod_lt _ hpos
      rw [Function.iterate_succ_apply', ih hk,
        next_getElem hk (hl.idxOf_getElem _ hk) (Nat.mod_lt _ hpos)]
      simp only [Nat.mod_add_mod, Nat.add_assoc]

lemma covers_of_nodup {l : List α} (hl : l.Nodup) : Covers l := by
  intro a ha b hb
  obtain ⟨i, hi, rfl⟩ := List.getElem_of_mem ha
  obtain ⟨j, hj, rfl⟩ := List.getElem_of_mem hb
  have hpos : 0 < l.length := by omega
  refine ⟨(j + (l.length - i)) % l.length, Nat.le_of_lt (Nat.mod_lt _ hpos), ?_⟩
  have htarget : (i + (j + (l.length - i)) % l.length) % l.length = j := by
    rw [Nat.add_mod_mod, show i + (j + (l.length - i)) = j + l.length by omega,
      Nat.add_mod_right, Nat.mod_eq_of_lt hj]
  rw [iterate_next_of_nodup hl hi _ (Nat.mod_lt _ hpos)]
  simp only [htarget]

/-- From every element, every element is ahead: it is reached in at least one step and at most as
many as the list is long. -/
lemma exists_iterate_next_of_nodup {l : List α} (hl : l.Nodup) {a b : α} (ha : a ∈ l)
    (hb : b ∈ l) : ∃ k, 1 ≤ k ∧ k ≤ l.length ∧ (next l)^[k] a = b := by
  obtain ⟨i, hi, rfl⟩ := List.getElem_of_mem ha
  obtain ⟨j, hj, rfl⟩ := List.getElem_of_mem hb
  have hreach : ∀ k, (i + k) % l.length = j → (next l)^[k] l[i] = l[j] := by
    intro k hk
    rw [iterate_next_of_nodup hl hi k (by rw [hk]; exact hj)]
    simp only [hk]
  rcases Nat.lt_or_ge i j with hlt | hge
  · refine ⟨j - i, by omega, by omega, hreach _ ?_⟩
    rw [show i + (j - i) = j by omega, Nat.mod_eq_of_lt hj]
  · refine ⟨j + l.length - i, by omega, by omega, hreach _ ?_⟩
    rw [show i + (j + l.length - i) = j + l.length by omega, Nat.add_mod_right,
      Nat.mod_eq_of_lt hj]

/-! ## With a repetition -/

/-- The first position that repeats an earlier one, and the positions before it. -/
lemma exists_first_repetition {l : List α} (hl : ¬ l.Nodup) :
    ∃ i j, ∃ (hij : i < j) (hj : j < l.length), l[i] = l[j] ∧ (l.take j).Nodup := by
  have hex : ∃ n, ¬ (l.take n).Nodup := ⟨l.length, by rwa [List.take_length]⟩
  obtain ⟨n, hn, hmin⟩ : ∃ n, ¬ (l.take n).Nodup ∧ ∀ m < n, (l.take m).Nodup :=
    ⟨Nat.find hex, Nat.find_spec hex, fun m hm => not_not.mp (Nat.find_min hex hm)⟩
  cases n with
  | zero => simp at hn
  | succ j =>
      have hj : j < l.length := by
        by_contra hge
        rw [List.take_of_length_le (by omega)] at hn
        have hall := hmin j (Nat.lt_succ_self j)
        rw [List.take_of_length_le (by omega)] at hall
        exact hn hall
      have hfront := hmin j (Nat.lt_succ_self j)
      -- the front of length `j` is free of repetitions, so the new element is the repetition
      have hmem : l[j] ∈ l.take j := by
        by_contra hnot
        apply hn
        rw [List.take_succ_eq_append_getElem hj, List.nodup_append]
        refine ⟨hfront, List.nodup_singleton _, fun a ha b hb => ?_⟩
        rw [List.mem_singleton.mp hb]
        exact fun heq => hnot (heq ▸ ha)
      obtain ⟨i, hi, heq⟩ := List.getElem_of_mem hmem
      have hij : i < j := by
        rw [List.length_take] at hi
        omega
      rw [List.getElem_take] at heq
      exact ⟨i, j, hij, hj, heq, hfront⟩

/-- In a front without repetitions every element is at its first occurrence. -/
lemma idxOf_of_nodup_take {l : List α} {j m : ℕ} (hfront : (l.take j).Nodup) (hm : m < j)
    (hlt : m < l.length) : l.idxOf l[m] = m := by
  have hlen : m < (l.take j).length := by
    rw [List.length_take]
    omega
  have hget : (l.take j)[m] = l[m] := List.getElem_take
  have hmem : l[m] ∈ l.take j := hget ▸ List.getElem_mem hlen
  calc l.idxOf l[m] = (l.take j ++ l.drop j).idxOf l[m] := by rw [List.take_append_drop]
    _ = (l.take j).idxOf l[m] := List.idxOf_append_of_mem hmem
    _ = (l.take j).idxOf (l.take j)[m] := by rw [hget]
    _ = m := hfront.idxOf_getElem m hlen

/-- **The trap**: a walk that starts at the first of two equal elements stays before the second. -/
lemma iterate_next_mem_segment {l : List α} {i j : ℕ} (hij : i < j) (hj : j < l.length)
    (heq : l[i] = l[j]) (hfront : (l.take j).Nodup) (k : ℕ) :
    ∃ m, ∃ (_ : i ≤ m) (hm : m < j), (next l)^[k] l[i] = l[m] := by
  induction k with
  | zero => exact ⟨i, le_rfl, hij, rfl⟩
  | succ k ih =>
      obtain ⟨m, him, hm, hk⟩ := ih
      have hmod : (m + 1) % l.length = m + 1 := Nat.mod_eq_of_lt (by omega)
      have hnext : next l l[m] = l[m + 1] := by
        rw [next_getElem (by omega) (idxOf_of_nodup_take hfront hm (by omega))
          (by rw [hmod]; omega)]
        simp only [hmod]
      have hsucc : (next l)^[k + 1] l[i] = l[m + 1] := by
        rw [Function.iterate_succ_apply', hk, hnext]
      rcases Nat.lt_or_ge (m + 1) j with hlt | hge
      · exact ⟨m + 1, by omega, hlt, hsucc⟩
      · obtain rfl : m + 1 = j := by omega
        exact ⟨i, le_rfl, hij, hsucc.trans heq.symm⟩

/-- **The walk visits everything** exactly if no element occurs twice, when the head does not. -/
theorem covers_iff_nodup {x : α} {l : List α} (hx : x ∉ l) : Covers (x :: l) ↔ (x :: l).Nodup := by
  refine ⟨fun hcovers => ?_, covers_of_nodup⟩
  by_contra hdup
  obtain ⟨i, j, hij, hj, heq, hfront⟩ := exists_first_repetition hdup
  -- the head is not the element that is repeated
  have hout : ∀ m, 0 < m → ∀ hm : m < (x :: l).length, (x :: l)[m] ≠ x := by
    intro m hpos hm hmx
    cases m with
    | zero => exact absurd hpos (Nat.lt_irrefl 0)
    | succ m =>
        rw [List.getElem_cons_succ] at hmx
        exact hx (hmx ▸ List.getElem_mem (Nat.lt_of_succ_lt_succ hm))
  have hpos : 0 < i := by
    by_contra hzero
    obtain rfl : i = 0 := by omega
    exact hout j hij hj heq.symm
  obtain ⟨k, -, hk⟩ := hcovers (x :: l)[i] (List.getElem_mem _) x List.mem_cons_self
  obtain ⟨m, him, hm, hreach⟩ := iterate_next_mem_segment hij hj heq hfront k
  exact hout m (by omega) (by omega) (hreach.symm.trans hk)

end Rotation
