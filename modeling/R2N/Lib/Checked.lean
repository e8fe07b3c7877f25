import R2N.Lib.Bytes

/-!
# Range-checked access

Slices as a language with bounds checks has them: an index or a range outside the slice stops the
program.  The operations return in `Except Fault`, where the fault says what stopped it; a loop
that is modelled with fuel has a fault of its own for running out of it, so that termination is a
statement about results as well.

* `get`, `set`, `slice`, `copyInto`, `splitAt` — the operations, each with one lemma for the range
  in which it succeeds (`…_of_le`) and one for the fault.
* `item` — the element at an index as a total function; `item_writeAt` finds it after a write.
-/

namespace Checked

open Bytes (writeAt length_writeAt)

/-- What stops a program. -/
inductive Fault where
  /-- An index or a range outside the slice. -/
  | outOfRange
  /-- A loop that has not ended within its fuel. -/
  | outOfFuel
  deriving DecidableEq, Repr

/-! ## Sequencing -/

variable {α β ε : Type}

@[simp] lemma pure_eq_ok (a : α) : (pure a : Except ε α) = .ok a := rfl

@[simp] lemma ok_bind (a : α) (f : α → Except ε β) : (Except.ok a >>= f) = f a := rfl

@[simp] lemma error_bind (e : ε) (f : α → Except ε β) : (Except.error e >>= f) = .error e := rfl

/-- A loop that ends has ended at each element. -/
lemma forall₂_of_mapM {f : α → Except ε β} {l : List α} {results : List β}
    (h : l.mapM f = .ok results) : List.Forall₂ (fun a b => f a = .ok b) l results := by
  induction l generalizing results with
  | nil =>
      obtain rfl := Except.ok.inj h
      exact .nil
  | cons a l ih =>
      rw [List.mapM_cons] at h
      cases ha : f a with
      | error e => rw [ha, error_bind] at h; cases h
      | ok b =>
          cases hl : l.mapM f with
          | error e => rw [ha, ok_bind, hl, error_bind] at h; cases h
          | ok rest =>
              rw [ha, ok_bind, hl, ok_bind, pure_eq_ok] at h
              obtain rfl := Except.ok.inj h
              exact .cons ha (ih hl)

/-- A loop that stops at the first element a check refuses. -/
lemma mapM_ite {P : α → Prop} [DecidablePred P] {f : α → Option β} {g : α → β}
    (hf : ∀ a, f a = if P a then some (g a) else none) (l : List α) :
    l.mapM f = if ∀ a ∈ l, P a then some (l.map g) else none := by
  induction l with
  | nil => simp
  | cons a l ih =>
      rw [List.mapM_cons, hf a, ih]
      by_cases ha : P a
      · by_cases hl : ∀ b ∈ l, P b
        · rw [if_pos ha, if_pos hl, if_pos (List.forall_mem_cons.mpr ⟨ha, hl⟩)]
          rfl
        · rw [if_pos ha, if_neg hl, if_neg fun h => hl (List.forall_mem_cons.mp h).2]
          rfl
      · rw [if_neg ha, if_neg fun h => ha (List.forall_mem_cons.mp h).1]
        rfl

/-! ## Elements -/

section Elements

variable [Inhabited α]

/-- The element at an index; `default` outside the list. -/
def item (l : List α) (i : ℕ) : α := l.getD i default

lemma item_append_left {l m : List α} {i : ℕ} (h : i < l.length) : item (l ++ m) i = item l i := by
  simp [item, List.getElem?_append_left h]

lemma item_append_right {l m : List α} {i : ℕ} (h : l.length ≤ i) :
    item (l ++ m) i = item m (i - l.length) := by
  simp [item, List.getElem?_append_right h]

lemma item_take {l : List α} {n i : ℕ} (h : i < n) : item (l.take n) i = item l i := by
  simp [item, h]

lemma item_drop (l : List α) (n i : ℕ) : item (l.drop n) i = item l (n + i) := by
  simp [item]

lemma drop_eq_item_cons {l : List α} {i : ℕ} (h : i < l.length) :
    l.drop i = item l i :: l.drop (i + 1) := by
  rw [List.drop_eq_getElem_cons h, item, List.getD_eq_getElem?_getD, List.getElem?_eq_getElem h,
    Option.getD_some]

/-- After a write, the elements of the range are the written ones and the others are as before. -/
lemma item_writeAt {l xs : List α} {off : ℕ} (h : off + xs.length ≤ l.length) (i : ℕ) :
    item (writeAt off xs l) i =
      if off ≤ i ∧ i < off + xs.length then item xs (i - off) else item l i := by
  have hfront : (l.take off).length = off := by
    simp only [List.length_take]
    omega
  rcases Nat.lt_or_ge i off with hi | hi
  · rw [if_neg (by omega), writeAt, List.append_assoc, item_append_left (by omega), item_take hi]
  rcases Nat.lt_or_ge i (off + xs.length) with hi' | hi'
  · rw [if_pos ⟨hi, hi'⟩, writeAt, item_append_left (by simp only [List.length_append]; omega),
      item_append_right (by omega), hfront]
  · have hlen : (l.take off ++ xs).length = off + xs.length := by
      simp only [List.length_append, hfront]
    rw [if_neg (by omega), writeAt, item_append_right (by omega), hlen, item_drop]
    congr 1
    omega

/-- Two lists of one length with the same elements are equal. -/
lemma eq_of_item {l m : List α} (hlen : l.length = m.length)
    (h : ∀ i < l.length, item l i = item m i) : l = m := by
  refine List.ext_getElem hlen fun i hl hm => ?_
  simpa [item, hl, hm] using h i hl

/-- `l[i]`. -/
def get (l : List α) (i : ℕ) : Except Fault α :=
  if i < l.length then .ok (item l i) else .error .outOfRange

lemma get_of_lt {l : List α} {i : ℕ} (h : i < l.length) : get l i = .ok (item l i) := if_pos h

lemma get_of_le {l : List α} {i : ℕ} (h : l.length ≤ i) : get l i = .error .outOfRange :=
  if_neg (by omega)

end Elements

/-! ## Ranges -/

/-- `&l[a..b]`. -/
def slice (l : List α) (a b : ℕ) : Except Fault (List α) :=
  if a ≤ b ∧ b ≤ l.length then .ok (Bytes.slice a b l) else .error .outOfRange

/-- `l[a..b].copy_from_slice(xs)`, which also stops when the two lengths differ. -/
def copyInto (l : List α) (a b : ℕ) (xs : List α) : Except Fault (List α) :=
  if a ≤ b ∧ b ≤ l.length ∧ xs.length = b - a then .ok (writeAt a xs l) else .error .outOfRange

/-- `l[i] = x`. -/
def set (l : List α) (i : ℕ) (x : α) : Except Fault (List α) := copyInto l i (i + 1) [x]

/-- `l.split_at_mut(i)`. -/
def splitAt (l : List α) (i : ℕ) : Except Fault (List α × List α) :=
  if i ≤ l.length then .ok (l.take i, l.drop i) else .error .outOfRange

lemma slice_of_le {l : List α} {a b : ℕ} (hab : a ≤ b) (h : b ≤ l.length) :
    slice l a b = .ok (Bytes.slice a b l) := if_pos ⟨hab, h⟩

lemma slice_of_lt {l : List α} {a b : ℕ} (h : l.length < b) :
    slice l a b = .error .outOfRange := if_neg (by omega)

lemma copyInto_of_le {l xs : List α} {a b : ℕ} (hb : b ≤ l.length) (hxs : a + xs.length = b) :
    copyInto l a b xs = .ok (writeAt a xs l) := if_pos (by omega)

lemma set_of_lt {l : List α} {i : ℕ} (h : i < l.length) (x : α) :
    set l i x = .ok (writeAt i [x] l) := copyInto_of_le h rfl

lemma splitAt_of_le {l : List α} {i : ℕ} (h : i ≤ l.length) :
    splitAt l i = .ok (l.take i, l.drop i) := if_pos h

end Checked
