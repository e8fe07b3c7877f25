import Mathlib.Data.List.TakeWhile
import Mathlib.Data.Nat.Digits.Defs
import Mathlib.Tactic.Ring

/-!
# Reading text

What a program does to a text before it has a value: `trim`, `split_once` and `parse` for an
unsigned decimal number, over lists of characters.

* `isWhitespace` — the blanks of Unicode.
* `trimBy`, `trimBy_of_solid` — what stands between blanks is what trimming leaves.
* `splitOnce`, `splitOnce_eq_some_iff` — the first separator.
* `Numeral` — a text that denotes a number: digits, with a plus sign or without.
* **`parseUnsigned_eq_ok_iff`** — reading accepts the numerals below the bound.
-/

namespace Text

/-! ## Trimming -/

/-- `char::is_whitespace`. -/
def isWhitespace (c : Char) : Bool :=
  (9 ≤ c.toNat ∧ c.toNat ≤ 13) ∨
    c.toNat ∈ [0x20, 0x85, 0xA0, 0x1680, 0x2028, 0x2029, 0x202F, 0x205F, 0x3000] ∨
    (0x2000 ≤ c.toNat ∧ c.toNat ≤ 0x200A)

section Trim

variable {α : Type*} {p : α → Bool}

/-- Drops the elements with `p` from both ends. -/
def trimBy (p : α → Bool) (l : List α) : List α :=
  ((l.dropWhile p).reverse.dropWhile p).reverse

lemma exists_eq_trimBy (p : α → Bool) (l : List α) :
    ∃ front back, l = front ++ (trimBy p l ++ back) ∧
      (∀ a ∈ front, p a = true) ∧ ∀ a ∈ back, p a = true := by
  refine ⟨l.takeWhile p, ((l.dropWhile p).reverse.takeWhile p).reverse, ?_,
    fun a ha => List.mem_takeWhile_imp ha,
    fun a ha => List.mem_takeWhile_imp (List.mem_reverse.mp ha)⟩
  rw [trimBy, ← List.reverse_append, List.takeWhile_append_dropWhile, List.reverse_reverse,
    List.takeWhile_append_dropWhile]

/-- Dropping stops before an element without `p`. -/
lemma dropWhile_append_solid {front item : List α} (hfront : ∀ a ∈ front, p a = true)
    (hitem : ∀ a ∈ item, p a = false) : (front ++ item).dropWhile p = item := by
  rw [List.dropWhile_append_of_pos hfront]
  cases item with
  | nil => rfl
  | cons a item => exact List.dropWhile_cons_of_neg (by simp [hitem a List.mem_cons_self])

/-- Between blanks. -/
lemma trimBy_of_solid {front item back : List α} (hfront : ∀ a ∈ front, p a = true)
    (hitem : ∀ a ∈ item, p a = false) (hback : ∀ a ∈ back, p a = true) :
    trimBy p (front ++ (item ++ back)) = item := by
  have hback' : ∀ a ∈ back.reverse, p a = true := fun a ha => hback a (List.mem_reverse.mp ha)
  have hitem' : ∀ a ∈ item.reverse, p a = false := fun a ha => hitem a (List.mem_reverse.mp ha)
  have hdrop : (front ++ (item ++ back)).dropWhile p = (item ++ back).dropWhile p :=
    List.dropWhile_append_of_pos hfront
  cases item with
  | nil =>
      rw [trimBy, hdrop, List.nil_append, List.dropWhile_eq_nil_iff.mpr hback]
      rfl
  | cons a item =>
      have ha : ¬ p a = true := by simp [hitem a List.mem_cons_self]
      rw [trimBy, hdrop, List.cons_append, List.dropWhile_cons_of_neg ha, ← List.cons_append,
        List.reverse_append, dropWhile_append_solid hback' hitem', List.reverse_reverse]

lemma trimBy_eq_nil_iff {l : List α} : trimBy p l = [] ↔ ∀ a ∈ l, p a = true := by
  constructor
  · intro h
    obtain ⟨front, back, hl, hfront, hback⟩ := exists_eq_trimBy p l
    rw [h, List.nil_append] at hl
    intro a ha
    rw [hl] at ha
    exact (List.mem_append.mp ha).elim (hfront a) (hback a)
  · intro h
    have htrim : trimBy p (l ++ ([] ++ [])) = [] := trimBy_of_solid h (by simp) (by simp)
    simpa using htrim

end Trim

/-! ## The first separator -/

section Split

variable {α : Type*} [DecidableEq α] {c : α}

/-- `split_once`: what stands before and behind the first `c`. -/
def splitOnce (c : α) : List α → Option (List α × List α)
  | [] => none
  | x :: l => if x = c then some ([], l) else (splitOnce c l).map fun s => (x :: s.1, s.2)

lemma splitOnce_append {a : List α} (ha : c ∉ a) (b : List α) :
    splitOnce c (a ++ c :: b) = some (a, b) := by
  induction a with
  | nil => simp [splitOnce]
  | cons x a ih =>
      have hx : x ≠ c := fun h => ha (h ▸ List.mem_cons_self)
      rw [List.cons_append, splitOnce, if_neg hx, ih fun h => ha (List.mem_cons_of_mem x h)]
      rfl

lemma splitOnce_eq_none {l : List α} (h : c ∉ l) : splitOnce c l = none := by
  induction l with
  | nil => rfl
  | cons x l ih =>
      have hx : x ≠ c := fun hx => h (hx ▸ List.mem_cons_self)
      rw [splitOnce, if_neg hx, ih fun hc => h (List.mem_cons_of_mem x hc)]
      rfl

lemma notMem_of_splitOnce_eq_none {l : List α} (h : splitOnce c l = none) : c ∉ l := by
  intro hc
  obtain ⟨a, b, rfl, ha⟩ := List.eq_append_cons_of_mem hc
  rw [splitOnce_append ha] at h
  cases h

lemma splitOnce_eq_some_iff {l a b : List α} :
    splitOnce c l = some (a, b) ↔ l = a ++ c :: b ∧ c ∉ a := by
  constructor
  · intro h
    by_cases hc : c ∈ l
    · obtain ⟨a', b', rfl, ha'⟩ := List.eq_append_cons_of_mem hc
      rw [splitOnce_append ha'] at h
      cases h
      exact ⟨rfl, ha'⟩
    · rw [splitOnce_eq_none hc] at h
      cases h
  · rintro ⟨rfl, ha⟩
    exact splitOnce_append ha b

end Split

/-! ## Unsigned numbers -/

/-- `std::num::IntErrorKind`, as far as an unsigned number can give it. -/
inductive ParseIntError where
  /-- "cannot parse integer from empty string". -/
  | empty
  /-- "invalid digit found in string". -/
  | invalidDigit
  /-- "number too large to fit in target type". -/
  | posOverflow
deriving DecidableEq, Repr

/-- The value of a digit. -/
def digit (c : Char) : ℕ := c.toNat - '0'.toNat

/-- The number a list of digits denotes. -/
def value (digits : List Char) : ℕ := Nat.ofDigits 10 (digits.reverse.map digit)

/-- A text that denotes a number: one or more digits, or a plus sign and digits. -/
def Numeral (text : List Char) (n : ℕ) : Prop :=
  ∃ digits, (text = digits ∨ text = '+' :: digits) ∧ digits ≠ [] ∧
    (∀ c ∈ digits, c.isDigit = true) ∧ value digits = n

/-- The loop of `from_str_radix`: the accumulator must stay below `bound`. -/
def readDigits (bound : ℕ) : ℕ → List Char → Except ParseIntError ℕ
  | acc, [] => .ok acc
  | acc, c :: digits =>
      if c.isDigit then
        if acc * 10 + digit c < bound then readDigits bound (acc * 10 + digit c) digits
        else .error .posOverflow
      else .error .invalidDigit

/-- `from_str_radix` with radix 10 for an unsigned type with the values below `bound`. -/
def parseUnsigned (bound : ℕ) (text : List Char) : Except ParseIntError ℕ :=
  match text with
  | [] => .error .empty
  | ['+'] => .error .invalidDigit
  | '+' :: digits => readDigits bound 0 digits
  | digits => readDigits bound 0 digits

lemma value_cons (c : Char) (digits : List Char) :
    value (c :: digits) = digit c * 10 ^ digits.length + value digits := by
  rw [value, List.reverse_cons, List.map_append, Nat.ofDigits_append, List.length_map,
    List.length_reverse, List.map_singleton, Nat.ofDigits_singleton, value]
  ring

lemma readDigits_eq_ok_iff {bound acc n : ℕ} {digits : List Char} (hacc : acc < bound) :
    readDigits bound acc digits = .ok n ↔
      (∀ c ∈ digits, c.isDigit = true) ∧ acc * 10 ^ digits.length + value digits = n ∧
        n < bound := by
  induction digits generalizing acc with
  | nil =>
      have hvalue : acc * 10 ^ ([] : List Char).length + value [] = acc := by
        simp [value]
      rw [readDigits, hvalue, Except.ok.injEq]
      constructor
      · rintro rfl
        exact ⟨fun c hc => absurd hc List.not_mem_nil, rfl, hacc⟩
      · exact fun h => h.2.1
  | cons c digits ih =>
      rw [readDigits, value_cons, List.forall_mem_cons, List.length_cons]
      have hvalue : acc * 10 ^ (digits.length + 1) + (digit c * 10 ^ digits.length + value digits) =
          (acc * 10 + digit c) * 10 ^ digits.length + value digits := by ring
      rw [hvalue]
      by_cases hc : c.isDigit = true
      · rw [if_pos hc]
        by_cases hfit : acc * 10 + digit c < bound
        · rw [if_pos hfit, ih hfit, and_assoc, and_iff_right hc]
        · rw [if_neg hfit]
          have hpos : 1 ≤ 10 ^ digits.length := Nat.one_le_pow _ _ (by omega)
          have hle : acc * 10 + digit c ≤ (acc * 10 + digit c) * 10 ^ digits.length :=
            Nat.le_mul_of_pos_right _ hpos
          constructor
          · intro h; cases h
          · rintro ⟨-, rfl, hlt⟩
            omega
      · rw [if_neg hc]
        constructor
        · intro h; cases h
        · rintro ⟨⟨h, -⟩, -⟩
          exact absurd h hc

/-- Behind a plus sign. -/
lemma numeral_plus_iff {digits : List Char} {n : ℕ} (hne : digits ≠ []) :
    Numeral ('+' :: digits) n ↔ (∀ c ∈ digits, c.isDigit = true) ∧ value digits = n := by
  constructor
  · rintro ⟨other, rfl | heq, -, hall, hvalue⟩
    · exact absurd (hall '+' List.mem_cons_self) (by decide)
    · obtain rfl := (List.cons.inj heq).2
      exact ⟨hall, hvalue⟩
  · rintro ⟨hall, hvalue⟩
    exact ⟨digits, Or.inr rfl, hne, hall, hvalue⟩

lemma numeral_iff {digits : List Char} {n : ℕ} (hne : digits ≠ [])
    (hplus : ∀ rest, digits ≠ '+' :: rest) :
    Numeral digits n ↔ (∀ c ∈ digits, c.isDigit = true) ∧ value digits = n := by
  constructor
  · rintro ⟨other, rfl | heq, -, hall, hvalue⟩
    · exact ⟨hall, hvalue⟩
    · exact absurd heq (hplus other)
  · rintro ⟨hall, hvalue⟩
    exact ⟨digits, Or.inl rfl, hne, hall, hvalue⟩

lemma Numeral.ne_nil {text : List Char} {n : ℕ} (h : Numeral text n) : text ≠ [] := by
  obtain ⟨digits, rfl | rfl, hne, -, -⟩ := h
  · exact hne
  · exact List.cons_ne_nil _ _

/-- A numeral is made of digits and a plus sign. -/
lemma Numeral.mem {text : List Char} {n : ℕ} (h : Numeral text n) {c : Char} (hc : c ∈ text) :
    c.isDigit = true ∨ c = '+' := by
  obtain ⟨digits, rfl | rfl, -, hall, -⟩ := h
  · exact Or.inl (hall c hc)
  · exact (List.mem_cons.mp hc).symm.imp (hall c) id

/-- **Reading a number** accepts the numerals of the numbers below the bound. -/
theorem parseUnsigned_eq_ok_iff {bound n : ℕ} (hbound : 0 < bound) {text : List Char} :
    parseUnsigned bound text = .ok n ↔ Numeral text n ∧ n < bound := by
  have hread : ∀ digits, readDigits bound 0 digits = .ok n ↔
      ((∀ c ∈ digits, c.isDigit = true) ∧ value digits = n) ∧ n < bound := fun digits => by
    rw [readDigits_eq_ok_iff hbound, Nat.zero_mul, Nat.zero_add, and_assoc]
  unfold parseUnsigned
  split
  · constructor
    · intro h; cases h
    · exact fun h => absurd rfl h.1.ne_nil
  · constructor
    · intro h; cases h
    · rintro ⟨⟨digits, heq | heq, hne, hall, -⟩, -⟩
      · exact absurd (hall '+' (heq ▸ List.mem_cons_self)) (by decide)
      · exact absurd (List.cons.inj heq).2.symm hne
  · rename_i digits hplus
    rw [hread, numeral_plus_iff fun hnil => hplus (by rw [hnil])]
  · rename_i hnil _ hplus
    rw [hread, numeral_iff hnil hplus]

/-- A text denotes one number at most. -/
lemma Numeral.unique {text : List Char} {n m : ℕ} (hn : Numeral text n) (hm : Numeral text m) :
    n = m := by
  have hn' := (parseUnsigned_eq_ok_iff (n + m).succ_pos).mpr ⟨hn, by omega⟩
  have hm' := (parseUnsigned_eq_ok_iff (n + m).succ_pos).mpr ⟨hm, by omega⟩
  exact Except.ok.inj (hn'.symm.trans hm')

end Text
