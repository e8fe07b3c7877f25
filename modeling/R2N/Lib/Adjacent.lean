import Mathlib.Data.List.Destutter
import Mathlib.Data.List.Nodup
import Mathlib.Algebra.Group.Basic

/-!
# Neighbours in a list

`Vec::dedup` compares each element with the one kept before it, so it removes a repetition only
where the two stand next to each other.  Mathlib's `destutter (· ≠ ·)` is that function.

* `Grouped` — the occurrences of each value stand together.
* `sublist_destutter` — a sublist without adjacent repetitions survives.
* **`nodup_destutter_iff`** — no value is left twice exactly if the list was grouped.
* `mem_map_destutter`, `nodup_map_destutter_iff` — the same for elements compared by a key.

`windows(2)` goes over the pairs of neighbours.

* `differences` — what each element adds to the one before it.
* **`forall_differences_iff`** — all of them are `d` exactly if the list is an arithmetic
  progression with step `d`.
-/

namespace Adjacent

variable {α β : Type*}

/-- Between two occurrences of a value there is no other value. -/
def Grouped (l : List α) : Prop := ∀ a b, [a, b, a].Sublist l → b = a

/-- In a chain of distinct neighbours, something else stands between two equal elements. -/
lemma exists_between {l : List α} (hl : l.IsChain (· ≠ ·)) {a : α} (h : [a, a].Sublist l) :
    ∃ b, b ≠ a ∧ [a, b, a].Sublist l := by
  induction l with
  | nil => cases h
  | cons x l ih =>
      cases h with
      | cons _ h =>
          obtain ⟨b, hb, hsub⟩ := ih hl.tail h
          exact ⟨b, hb, hsub.cons x⟩
      | cons_cons _ h =>
          cases l with
          | nil => cases h
          | cons y l =>
              have hay : a ≠ y := (List.isChain_cons_cons.mp hl).1
              have ha : a ∈ l := by
                refine (List.mem_cons.mp (h.subset (List.mem_singleton_self a))).resolve_left hay
              exact ⟨y, hay.symm, ((List.singleton_sublist.mpr ha).cons_cons y).cons_cons a⟩

variable [DecidableEq α]

/-- A sublist without adjacent repetitions takes at most one element of each run. -/
lemma sublist_destutter' {s l : List α} {a : α} (hs : s.IsChain (· ≠ ·))
    (h : s.Sublist (a :: l)) : s.Sublist (l.destutter' (· ≠ ·) a) := by
  induction l generalizing s a with
  | nil => exact h
  | cons b l ih =>
      by_cases hab : a = b
      · subst hab
        rw [List.destutter'_cons_neg _ (not_not.mpr rfl)]
        cases h with
        | cons _ h => exact ih hs h
        | cons_cons _ h =>
            -- the rest of `s` cannot begin with `a` again
            cases h with
            | cons _ h => exact ih hs (h.cons_cons a)
            | cons_cons _ h => exact absurd rfl (List.isChain_cons_cons.mp hs).1
      · rw [List.destutter'_cons_pos _ hab]
        cases h with
        | cons _ h => exact (ih hs h).cons a
        | cons_cons _ h => exact (ih hs.tail h).cons_cons a

lemma sublist_destutter {s l : List α} (hs : s.IsChain (· ≠ ·)) (h : s.Sublist l) :
    s.Sublist (l.destutter (· ≠ ·)) := by
  cases l with
  | nil => exact h
  | cons a l => exact sublist_destutter' hs h

/-- **Adjacent removal removes every repetition** exactly if equal elements stood together. -/
theorem nodup_destutter_iff (l : List α) : (l.destutter (· ≠ ·)).Nodup ↔ Grouped l := by
  rw [List.nodup_iff_sublist]
  constructor
  · intro h a b hab
    by_contra hne
    have hchain : [a, b, a].IsChain (· ≠ ·) := by simp [Ne.symm hne, hne]
    have hpair : [a, a].Sublist [a, b, a] := ((List.Sublist.refl [a]).cons b).cons_cons a
    exact h a (hpair.trans (sublist_destutter hchain hab))
  · intro h a haa
    obtain ⟨b, hb, hsub⟩ := exists_between (List.isChain_destutter _ l) haa
    exact hb (h a b (hsub.trans (List.destutter_sublist _ l)))

/-! ## Elements compared by a key -/

section Key

variable {R : β → β → Prop} [DecidableRel R] {key : β → α}

lemma map_destutter (hR : ∀ x y, R x y ↔ key x ≠ key y) (l : List β) :
    (l.destutter R).map key = (l.map key).destutter (· ≠ ·) :=
  List.map_destutter fun x _ y _ => hR x y

/-- No key is lost. -/
lemma mem_map_destutter (hR : ∀ x y, R x y ↔ key x ≠ key y) {l : List β} {a : α}
    (h : a ∈ l.map key) : a ∈ (l.destutter R).map key := by
  rw [map_destutter hR]
  exact List.singleton_sublist.mp
    (sublist_destutter (List.isChain_singleton a) (List.singleton_sublist.mpr h))

theorem nodup_map_destutter_iff (hR : ∀ x y, R x y ↔ key x ≠ key y) (l : List β) :
    ((l.destutter R).map key).Nodup ↔ Grouped (l.map key) := by
  rw [map_destutter hR, nodup_destutter_iff]

end Key

/-! ## Differences of neighbours -/

section Differences

variable {G : Type*} [AddCommGroup G]

/-- The difference of each element and the one before it. -/
def differences (l : List G) : List G := l.zipWith (fun a b => b - a) l.tail

@[simp] lemma differences_nil : differences ([] : List G) = [] := rfl

@[simp] lemma differences_singleton (a : G) : differences [a] = [] := rfl

@[simp] lemma differences_cons_cons (a b : G) (l : List G) :
    differences (a :: b :: l) = (b - a) :: differences (b :: l) := rfl

/-- The arithmetic progression of `n` elements that begins with `a`. -/
def progression (a d : G) (n : ℕ) : List G := (List.range n).map fun k => a + k • d

lemma progression_succ (a d : G) (n : ℕ) :
    progression a d (n + 1) = a :: progression (a + d) d n := by
  simp only [progression, List.range_succ_eq_map, List.map_cons, List.map_map, zero_nsmul, add_zero]
  congr 2
  funext k
  simp only [Function.comp_apply, Nat.succ_eq_add_one, succ_nsmul, add_assoc]
  rw [add_comm d]

theorem forall_differences_iff (a d : G) (l : List G) :
    (∀ x ∈ differences (a :: l), x = d) ↔ a :: l = progression a d (l.length + 1) := by
  induction l generalizing a with
  | nil => simp [progression]
  | cons b l ih =>
      rw [differences_cons_cons, List.forall_mem_cons, ih, sub_eq_iff_eq_add', List.length_cons,
        progression_succ a, List.cons.injEq, and_iff_right rfl]
      constructor
      · rintro ⟨rfl, hl⟩
        exact hl
      · intro hl
        have hb : b = a + d := by
          rw [progression_succ, List.cons.injEq] at hl
          exact hl.1
        exact ⟨hb, hb ▸ hl⟩

end Differences

end Adjacent
