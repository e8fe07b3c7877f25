import Mathlib.Data.List.Basic
import Mathlib.Tactic.Ring

/-!
# Byte strings at fixed offsets

The two operations fixed-layout codecs are written with — overwrite a range, read a range — and
big-endian numbers.

* `writeAt off xs l` — `l` with `xs` copied over the bytes from `off` on; `writeAt_append` is the
  only fact a codec needs, since it writes its fields one after another.
* `slice a b l` — the bytes `a .. b` of `l`; `slice_append_of_le` and `slice_zero_append` find a
  field by the lengths of the fields before it.
* `beBytes k n` and `ofBe` — `n` in `k` bytes, most significant first, and back; each undoes the
  other (`ofBe_beBytes`, `beBytes_ofBe`).
* `leBytes k n`, `ofLe`, `swapBytes` — the memory of a little-endian machine.
-/

namespace Bytes

variable {α : Type*}

/-! ## Ranges -/

/-- Copies `xs` over the elements of `l` from index `off` on. -/
def writeAt (off : ℕ) (xs l : List α) : List α := l.take off ++ xs ++ l.drop (off + xs.length)

/-- The elements of `l` from index `a` up to but not including `b`. -/
def slice (a b : ℕ) (l : List α) : List α := (l.drop a).take (b - a)

lemma length_writeAt {off : ℕ} {xs l : List α} (h : off + xs.length ≤ l.length) :
    (writeAt off xs l).length = l.length := by
  simp only [writeAt, List.length_append, List.length_take, List.length_drop]
  omega

lemma writeAt_zero (xs l : List α) : writeAt 0 xs l = xs ++ l.drop xs.length := by
  simp [writeAt]

/-- Writing right behind a known front extends the front. -/
lemma writeAt_append {off : ℕ} {p : List α} (hp : p.length = off) (xs l : List α) :
    writeAt off xs (p ++ l) = p ++ xs ++ l.drop xs.length := by
  subst hp
  simp [writeAt, List.drop_append]

/-- Writing past a front leaves it alone. -/
lemma writeAt_append_of_le {off : ℕ} {p : List α} (hp : p.length ≤ off) (xs l : List α) :
    writeAt off xs (p ++ l) = p ++ writeAt (off - p.length) xs l := by
  have hpast : p.length ≤ off + xs.length := by omega
  have hoff : off + xs.length - p.length = off - p.length + xs.length := by omega
  simp only [writeAt, List.take_append, List.take_of_length_le hp, List.drop_append,
    List.drop_eq_nil_of_le hpast, hoff, List.append_assoc, List.nil_append]

/-- Writing within a front leaves what follows alone. -/
lemma writeAt_append_left {off : ℕ} {xs p : List α} (h : off + xs.length ≤ p.length)
    (l : List α) : writeAt off xs (p ++ l) = writeAt off xs p ++ l := by
  have hoff : off ≤ p.length := by omega
  simp only [writeAt, List.take_append_of_le_length hoff, List.drop_append_of_le_length h,
    List.append_assoc]

/-- A second write to the same range replaces the first. -/
lemma writeAt_writeAt {off : ℕ} {xs ys l : List α} (h : off ≤ l.length)
    (hlen : xs.length = ys.length) : writeAt off ys (writeAt off xs l) = writeAt off ys l := by
  have hfront : (l.take off).length = off := List.length_take_of_le h
  have hwritten : (l.take off ++ xs).length = off + ys.length := by
    rw [List.length_append, hfront, hlen]
  simp only [writeAt]
  rw [List.drop_left' hwritten, List.append_assoc (l.take off) xs, List.take_left' hfront, hlen]

/-- Nothing behind the range is written. -/
lemma drop_writeAt {off n : ℕ} {xs l : List α} (h : off ≤ l.length) (hn : off + xs.length ≤ n) :
    (writeAt off xs l).drop n = l.drop n := by
  have hwritten : (l.take off ++ xs).length = off + xs.length := by
    rw [List.length_append, List.length_take_of_le h]
  rw [writeAt, List.drop_append, List.drop_of_length_le (by omega), List.nil_append,
    List.drop_drop, hwritten]
  congr 1
  omega

/-- Reading past a front skips it. -/
lemma slice_append_of_le {a b : ℕ} {p : List α} (hp : p.length ≤ a) (l : List α) :
    slice a b (p ++ l) = slice (a - p.length) (b - p.length) l := by
  rw [slice, slice, List.drop_append, List.drop_of_length_le hp, List.nil_append]
  congr 1
  omega

/-- Reading exactly the field in front. -/
lemma slice_zero_append {b : ℕ} {xs : List α} (hx : xs.length = b) (l : List α) :
    slice 0 b (xs ++ l) = xs := by
  subst hx
  simp [slice]

/-- Reading within a front. -/
lemma slice_take {a b n : ℕ} (h : b ≤ n) (l : List α) : slice a b (l.take n) = slice a b l := by
  rw [slice, slice, List.drop_take, List.take_take]
  congr 1
  omega

lemma slice_append_left {a b : ℕ} {p : List α} (h : b ≤ p.length) (l : List α) :
    slice a b (p ++ l) = slice a b p := by
  rw [← slice_take h, List.take_left' rfl]

/-- Reading outside of what was written. -/
lemma slice_writeAt_of_disjoint {a b off : ℕ} {xs l : List α} (h : off ≤ l.length)
    (hdisjoint : b ≤ off ∨ off + xs.length ≤ a) :
    slice a b (writeAt off xs l) = slice a b l := by
  rcases hdisjoint with hbefore | hbehind
  · have hfront : b ≤ (l.take off).length := by
      rwa [List.length_take_of_le h]
    rw [writeAt, List.append_assoc, slice_append_left hfront, slice_take hbefore]
  · rw [slice, slice, drop_writeAt h hbehind]

/-- Reading what was written. -/
lemma slice_writeAt {off : ℕ} {xs l : List α} (h : off ≤ l.length) :
    slice off (off + xs.length) (writeAt off xs l) = xs := by
  have hfront : (l.take off).length = off := by
    rw [List.length_take, Nat.min_eq_left h]
  rw [writeAt, List.append_assoc, slice_append_of_le (by omega), hfront, Nat.sub_self,
    Nat.add_sub_cancel_left, slice_zero_append rfl]

lemma length_slice {a b : ℕ} {l : List α} (h : b ≤ l.length) : (slice a b l).length = b - a := by
  simp only [slice, List.length_take, List.length_drop]
  omega

/-- Neighbouring ranges. -/
lemma slice_append_slice {a b c : ℕ} (hab : a ≤ b) (hbc : b ≤ c) (l : List α) :
    slice a b l ++ slice b c l = slice a c l := by
  have hwidth : c - a = b - a + (c - b) := by omega
  have hdrop : l.drop b = (l.drop a).drop (b - a) := by
    rw [List.drop_drop]
    congr 1
    omega
  rw [slice, slice, slice, hwidth, List.take_add, hdrop]

lemma slice_zero (b : ℕ) (l : List α) : slice 0 b l = l.take b := by
  rw [slice, List.drop_zero, Nat.sub_zero]

lemma singleton_getD {i : ℕ} {l : List α} (h : i < l.length) (d : α) :
    [l.getD i d] = slice i (i + 1) l := by
  rw [slice, List.drop_eq_getElem_cons h, Nat.add_sub_cancel_left, List.take_succ_cons,
    List.take_zero, List.getD_eq_getElem?_getD, List.getElem?_eq_getElem h, Option.getD_some]

/-! ## Big-endian numbers -/

/-- The last `k` base-256 digits of `n`, most significant first. -/
def beBytes : ℕ → ℕ → List UInt8
  | 0, _ => []
  | k + 1, n => UInt8.ofNat (n / 256 ^ k) :: beBytes k n

/-- The number a digit string stands for. -/
def ofBe (l : List UInt8) : ℕ := l.foldl (fun acc b => acc * 256 + b.toNat) 0

@[simp] lemma length_beBytes (k n : ℕ) : (beBytes k n).length = k := by
  induction k with
  | zero => rfl
  | succ k ih => simp [beBytes, ih]

lemma foldl_beBytes (k n acc : ℕ) :
    (beBytes k n).foldl (fun acc b => acc * 256 + b.toNat) acc = acc * 256 ^ k + n % 256 ^ k := by
  induction k generalizing acc with
  | zero => simp [beBytes, Nat.mod_one]
  | succ k ih =>
      have hdigit : (UInt8.ofNat (n / 256 ^ k)).toNat = n / 256 ^ k % 256 := by
        simp [UInt8.toNat_ofNat']
      have hsplit : n % 256 ^ (k + 1) = n / 256 ^ k % 256 * 256 ^ k + n % 256 ^ k := by
        rw [pow_succ, Nat.mod_mul, Nat.mul_comm (256 ^ k)]
        ring
      rw [beBytes, List.foldl_cons, ih, hdigit, hsplit, pow_succ]
      ring

/-- Reading back what was written, up to the width. -/
theorem ofBe_beBytes (k n : ℕ) : ofBe (beBytes k n) = n % 256 ^ k := by
  rw [ofBe, foldl_beBytes, Nat.zero_mul, Nat.zero_add]

lemma foldl_ofBe (l : List UInt8) (acc : ℕ) :
    l.foldl (fun acc b => acc * 256 + b.toNat) acc = acc * 256 ^ l.length + ofBe l := by
  induction l generalizing acc with
  | nil => simp [ofBe]
  | cons b l ih =>
      have hcons : ofBe (b :: l) = (0 * 256 + b.toNat) * 256 ^ l.length + ofBe l := ih _
      rw [List.foldl_cons, ih, hcons, List.length_cons]
      ring

lemma ofBe_cons (b : UInt8) (l : List UInt8) :
    ofBe (b :: l) = b.toNat * 256 ^ l.length + ofBe l := by
  rw [ofBe, List.foldl_cons, foldl_ofBe]
  ring

lemma ofBe_lt (l : List UInt8) : ofBe l < 256 ^ l.length := by
  induction l with
  | nil => simp [ofBe]
  | cons b l ih =>
      have hb := b.toNat_lt
      calc ofBe (b :: l) = b.toNat * 256 ^ l.length + ofBe l := ofBe_cons b l
        _ < b.toNat * 256 ^ l.length + 256 ^ l.length := Nat.add_lt_add_left ih _
        _ = (b.toNat + 1) * 256 ^ l.length := by ring
        _ ≤ 256 * 256 ^ l.length := Nat.mul_le_mul_right _ (by omega)
        _ = 256 ^ (b :: l).length := by rw [List.length_cons, pow_succ]; ring

/-- Only the last `k` digits are written. -/
lemma beBytes_add_mul (k n m : ℕ) : beBytes k (n + m * 256 ^ k) = beBytes k n := by
  induction k generalizing m with
  | zero => rfl
  | succ k ih =>
      have hpos : 0 < 256 ^ k := Nat.pow_pos (by omega)
      have hshift : n + m * 256 ^ (k + 1) = n + m * 256 * 256 ^ k := by ring
      have hdigit :
          UInt8.ofNat ((n + m * 256 * 256 ^ k) / 256 ^ k) = UInt8.ofNat (n / 256 ^ k) := by
        apply UInt8.toNat_inj.mp
        rw [Nat.add_mul_div_right _ _ hpos, UInt8.toNat_ofNat', UInt8.toNat_ofNat',
          Nat.add_mul_mod_self_right]
      rw [beBytes, beBytes, hshift, hdigit, ih (m * 256)]

/-- Writing what was read. -/
theorem beBytes_ofBe (l : List UInt8) : beBytes l.length (ofBe l) = l := by
  induction l with
  | nil => rfl
  | cons b l ih =>
      have hpos : 0 < 256 ^ l.length := Nat.pow_pos (by omega)
      have hdigit : (b.toNat * 256 ^ l.length + ofBe l) / 256 ^ l.length = b.toNat := by
        rw [Nat.add_comm, Nat.add_mul_div_right _ _ hpos, Nat.div_eq_of_lt (ofBe_lt l),
          Nat.zero_add]
      rw [List.length_cons, beBytes, ofBe_cons, hdigit, UInt8.ofNat_toNat, Nat.add_comm,
        beBytes_add_mul, ih]

/-! ## Little-endian numbers -/

/-- `n` in `k` bytes, least significant first. -/
def leBytes (k n : ℕ) : List UInt8 := (beBytes k n).reverse

/-- The number whose bytes, least significant first, are given. -/
def ofLe (l : List UInt8) : ℕ := ofBe l.reverse

/-- `n` with its `k` bytes in the opposite order. -/
def swapBytes (k n : ℕ) : ℕ := ofBe (leBytes k n)

@[simp] lemma length_leBytes (k n : ℕ) : (leBytes k n).length = k := by
  rw [leBytes, List.length_reverse, length_beBytes]

lemma ofLe_leBytes (k n : ℕ) : ofLe (leBytes k n) = n % 256 ^ k := by
  rw [ofLe, leBytes, List.reverse_reverse, ofBe_beBytes]

/-- A number with its bytes swapped has them in the opposite order in memory. -/
lemma leBytes_swapBytes (k n : ℕ) : leBytes k (swapBytes k n) = beBytes k n := by
  have hread := beBytes_ofBe (leBytes k n)
  rw [length_leBytes] at hread
  rw [leBytes, swapBytes, hread, leBytes, List.reverse_reverse]

end Bytes
