import Mathlib.Data.Nat.ModEq
import Mathlib.Algebra.Group.Nat.Even
import R2N.Lib.Bytes

/-!
# The Internet checksum

The ones' complement sum that IPv4, TCP and ICMP put into their headers: the data is read as
16-bit words, most significant byte first and an odd last byte padded with zero, the words are
added, and the carries are folded back in until 16 bits are left.

* `wordSum` — the plain sum of the words; `behind n` — the part of it from byte `n` on.
* `fold` — the end-around carries.
* `Verifies` — data that has its checksum in it folds to all ones.
* **`fold_add_wordSum_writeAt`** — the complement of a folded sum, written into the field of the
  data that was zero, makes the whole verify.
-/

namespace OnesComplement

open Bytes

/-! ## Words -/

/-- The word of two bytes, most significant first. -/
def word (hi lo : UInt8) : ℕ := hi.toNat * 256 + lo.toNat

lemma word_lt (hi lo : UInt8) : word hi lo < 2 ^ 16 := by
  have hhi := hi.toNat_lt
  have hlo := lo.toNat_lt
  simp only [word]
  omega

/-- The sum of the words; an odd last byte is the upper half of a word. -/
def wordSum : List UInt8 → ℕ
  | [] => 0
  | [a] => word a 0
  | a :: b :: rest => word a b + wordSum rest

@[simp] lemma wordSum_nil : wordSum [] = 0 := rfl

@[simp] lemma wordSum_pair (a b : UInt8) (rest : List UInt8) :
    wordSum (a :: b :: rest) = word a b + wordSum rest := rfl

/-- Sums of parts may be taken apart at even offsets. -/
lemma wordSum_append {p : List UInt8} (hp : Even p.length) (q : List UInt8) :
    wordSum (p ++ q) = wordSum p + wordSum q := by
  induction p using wordSum.induct with
  | case1 => simp
  | case2 a => simp at hp
  | case3 a b rest ih =>
      have hrest : Even rest.length := by
        simpa [Nat.even_add_one] using hp
      simp [ih hrest, Nat.add_assoc]

/-- What the bytes from index `n` on add to the sum, at their places in the words. -/
def behind (n : ℕ) (l : List UInt8) : ℕ := wordSum (List.replicate n 0 ++ l.drop n)

lemma behind_congr {n : ℕ} {l m : List UInt8} (h : l.drop n = m.drop n) :
    behind n l = behind n m := by
  rw [behind, behind, h]

lemma wordSum_replicate_zero (n : ℕ) : wordSum (List.replicate n 0) = 0 := by
  induction n using Nat.twoStepInduction with
  | zero => rfl
  | one => rfl
  | more n ih _ => simp [List.replicate_succ, word, ih]

/-- Sums may be taken apart anywhere, if the bytes keep their places. -/
lemma wordSum_take_add_behind (n : ℕ) (l : List UInt8) :
    wordSum (l.take n) + behind n l = wordSum l := by
  induction l using wordSum.induct generalizing n with
  | case1 => simp [behind, wordSum_replicate_zero]
  | case2 a =>
      rcases n with _ | n
      · simp [behind]
      · simp [behind, wordSum_replicate_zero]
  | case3 a b rest ih =>
      rcases n with _ | _ | n
      · simp [behind]
      · simp [behind, wordSum, word, Nat.add_assoc]
      · have hrest := ih n
        simp only [behind] at hrest
        simp [behind, List.replicate_succ, word]
        omega

/-- Another upper half of a word. -/
lemma wordSum_replace {p : List UInt8} (hp : Even p.length) (a b : UInt8) (q : List UInt8) :
    wordSum (p ++ a :: q) + b.toNat * 256 = wordSum (p ++ b :: q) + a.toNat * 256 := by
  rw [wordSum_append hp, wordSum_append hp]
  cases q with
  | nil => simp only [wordSum, word]; omega
  | cons c q => simp only [wordSum_pair, word]; omega

/-- Data that is not all zeroes has a positive sum. -/
lemma wordSum_pos {l : List UInt8} {a : UInt8} (ha : a ∈ l) (hne : a ≠ 0) : 0 < wordSum l := by
  have hpos : 0 < a.toNat := by
    rw [Nat.pos_iff_ne_zero]
    exact fun h => hne (UInt8.toNat_inj.mp h)
  induction l using wordSum.induct with
  | case1 => simp at ha
  | case2 b =>
      rw [List.mem_singleton] at ha
      subst ha
      simp only [wordSum, word]
      omega
  | case3 b c rest ih =>
      simp only [wordSum_pair, word]
      rcases List.mem_cons.mp ha with rfl | ha
      · omega
      rcases List.mem_cons.mp ha with rfl | ha
      · omega
      · have hrest := ih ha
        omega

/-- A bound for the sum, by the length of the data. -/
lemma wordSum_le (l : List UInt8) : wordSum l ≤ (l.length + 1) / 2 * 65535 := by
  induction l using wordSum.induct with
  | case1 => simp
  | case2 a =>
      have ha := word_lt a 0
      simp only [wordSum, List.length_singleton]
      omega
  | case3 a b rest ih =>
      have hab := word_lt a b
      simp only [wordSum_pair, List.length_cons]
      omega

/-! ## Carries -/

/-- The loop that adds the upper half to the lower one while there is an upper half. -/
def foldCarries : ℕ → ℕ → ℕ
  | 0, n => n
  | fuel + 1, n => if n / 2 ^ 16 ≠ 0 then foldCarries fuel (n % 2 ^ 16 + n / 2 ^ 16) else n

/-- The sum with its carries folded in; every round makes it smaller, so that as many rounds as the
sum is large are enough. -/
def fold (n : ℕ) : ℕ := foldCarries n n

lemma foldCarries_lt {fuel n : ℕ} (h : n ≤ fuel) : foldCarries fuel n < 2 ^ 16 := by
  induction fuel generalizing n with
  | zero => simp [foldCarries, Nat.le_zero.mp h]
  | succ fuel ih =>
      simp only [foldCarries]
      split_ifs with hcarry
      · exact ih (by omega)
      · omega

lemma foldCarries_modEq (fuel n : ℕ) : foldCarries fuel n ≡ n [MOD 65535] := by
  induction fuel generalizing n with
  | zero => rfl
  | succ fuel ih =>
      simp only [foldCarries]
      split_ifs
      · refine (ih _).trans ?_
        simp only [Nat.ModEq]
        omega
      · rfl

lemma foldCarries_pos {fuel n : ℕ} (h : 0 < n) : 0 < foldCarries fuel n := by
  induction fuel generalizing n with
  | zero => exact h
  | succ fuel ih =>
      simp only [foldCarries]
      split_ifs
      · exact ih (by omega)
      · exact h

lemma fold_lt (n : ℕ) : fold n < 2 ^ 16 := foldCarries_lt (Nat.le_refl n)

lemma fold_modEq (n : ℕ) : fold n ≡ n [MOD 65535] := foldCarries_modEq n n

/-- **All ones** are the folded form of the positive multiples of `65535`. -/
lemma fold_eq_ones_iff {n : ℕ} (h : 0 < n) : fold n = 65535 ↔ 65535 ∣ n := by
  have hlt := fold_lt n
  have hpos : 0 < fold n := foldCarries_pos h
  have hmod := fold_modEq n
  simp only [Nat.ModEq] at hmod
  omega

/-! ## Checksums -/

/-- Data with its checksum in it. -/
def Verifies (l : List UInt8) : Prop := fold (wordSum l) = 65535

instance (l : List UInt8) : Decidable (Verifies l) :=
  inferInstanceAs (Decidable (fold (wordSum l) = 65535))

lemma verifies_iff_dvd {l : List UInt8} (h : 0 < wordSum l) : Verifies l ↔ 65535 ∣ wordSum l :=
  fold_eq_ones_iff h

/-- The complement of a folded sum makes the sum verify. -/
lemma fold_add_complement {n : ℕ} (h : 0 < n) : fold (n + (65535 - fold n)) = 65535 := by
  have hlt := fold_lt n
  have hmod := fold_modEq n
  rw [fold_eq_ones_iff (by omega)]
  simp only [Nat.ModEq] at hmod
  omega

lemma wordSum_beBytes {c : ℕ} (h : c < 2 ^ 16) : wordSum (beBytes 2 c) = c := by
  simp only [beBytes, wordSum_pair, wordSum_nil, word, UInt8.toNat_ofNat']
  omega

/-- Filling a field of zeroes at an even offset adds what is written to the sum. -/
lemma wordSum_writeAt {off c : ℕ} {l : List UInt8} (heven : Even off) (hoff : off + 2 ≤ l.length)
    (hzero : slice off (off + 2) l = [0, 0]) (hc : c < 2 ^ 16) :
    wordSum (writeAt off (beBytes 2 c) l) = wordSum l + c := by
  have hfront : Even (l.take off).length := by
    rwa [List.length_take, Nat.min_eq_left (by omega)]
  have hsplit : l = l.take off ++ ([0, 0] ++ l.drop (off + 2)) := by
    rw [← hzero, slice, Nat.add_sub_cancel_left, ← List.drop_drop, List.take_append_drop,
      List.take_append_drop]
  have hwrite : wordSum (writeAt off (beBytes 2 c) l) =
      wordSum (l.take off) + (c + wordSum (l.drop (off + 2))) := by
    rw [writeAt, List.append_assoc, wordSum_append hfront, wordSum_append (by simp),
      wordSum_beBytes hc, length_beBytes]
  have hread : wordSum l = wordSum (l.take off) + wordSum (l.drop (off + 2)) := by
    conv_lhs => rw [hsplit, wordSum_append hfront]
    simp [word]
  omega

/-- Filling a field adds what is written to the sum with the field cleared. -/
lemma wordSum_writeAt_eq {off c : ℕ} {l : List UInt8} (heven : Even off)
    (hoff : off + 2 ≤ l.length) (hc : c < 2 ^ 16) :
    wordSum (writeAt off (beBytes 2 c) l) = wordSum (writeAt off [0, 0] l) + c := by
  have hlen : (writeAt off [0, 0] l).length = l.length := length_writeAt (by simpa using hoff)
  have hfield : off ≤ l.length := by omega
  have hzero : slice off (off + ([0, 0] : List UInt8).length) (writeAt off [0, 0] l) = [0, 0] :=
    slice_writeAt hfield
  rw [← wordSum_writeAt heven (by omega) hzero hc, writeAt_writeAt hfield (by simp)]

/-- **A checksum written into its field makes the data verify**; `base` is what else is summed, for
instance a pseudo-header. -/
theorem fold_add_wordSum_writeAt (base : ℕ) {off : ℕ} {l : List UInt8} (heven : Even off)
    (hoff : off + 2 ≤ l.length) (hzero : slice off (off + 2) l = [0, 0])
    (hpos : 0 < base + wordSum l) :
    fold (base + wordSum (writeAt off (beBytes 2 (65535 - fold (base + wordSum l))) l)) =
      65535 := by
  rw [wordSum_writeAt heven hoff hzero (by omega), ← Nat.add_assoc]
  exact fold_add_complement hpos

end OnesComplement
