import Mathlib.Data.Vector.Basic

/-!
# Self-delimiting formats

A format in which every value says where it ends: what was written is read back in front of
anything, and the rest is left over.  The layouts are those of postcard: numbers in groups of seven
bits, least significant first, sequences and texts behind their lengths, an option behind a tag.

* `Codec` — a writer and a reader with that law.
* `byte`, `array`, `varint`, `u64`, `bytes`, `text` — the leaves.
* `pair`, `option`, `list`, `map` — the ways to put them together.
-/

namespace Postcard

/-- A writer, and a reader that finds what was written in front of anything. -/
structure Codec (α : Type*) where
  write : α → List UInt8
  read : List UInt8 → Option (α × List UInt8)
  read_write : ∀ a rest, read (write a ++ rest) = some (a, rest)

variable {α β : Type*}

/-! ## Leaves -/

def byte : Codec UInt8 where
  write := fun b => [b]
  read
    | [] => none
    | b :: rest => some (b, rest)
  read_write := by simp

/-- Exactly `n` bytes, without a length. -/
def array (n : ℕ) : Codec (List.Vector UInt8 n) where
  write := fun a => a.toList
  read := fun l => if h : (l.take n).length = n then some (⟨l.take n, h⟩, l.drop n) else none
  read_write := by
    rintro ⟨a, rfl⟩ rest
    simp [List.Vector.toList]

/-- The groups of seven bits of a number; all but the last are marked. -/
def writeVarint (n : ℕ) : List UInt8 :=
  if n < 128 then [UInt8.ofNat n]
  else UInt8.ofNat (n % 128 + 128) :: writeVarint (n / 128)
termination_by n

def readVarint : List UInt8 → Option (ℕ × List UInt8)
  | [] => none
  | b :: rest =>
      if b.toNat < 128 then some (b.toNat, rest)
      else (readVarint rest).map fun r => (b.toNat - 128 + 128 * r.1, r.2)

lemma readVarint_writeVarint (n : ℕ) (rest : List UInt8) :
    readVarint (writeVarint n ++ rest) = some (n, rest) := by
  induction n using Nat.strong_induction_on with
  | _ n ih =>
      rw [writeVarint]
      split_ifs with hlt
      · have hn : (UInt8.ofNat n).toNat = n :=
          UInt8.toNat_ofNat_of_lt' (by simp only [UInt8.size]; omega)
        simp [readVarint, hn, hlt]
      · have hb : (UInt8.ofNat (n % 128 + 128)).toNat = n % 128 + 128 :=
          UInt8.toNat_ofNat_of_lt' (by simp only [UInt8.size]; omega)
        have hmarked : ¬ n % 128 + 128 < 128 := by omega
        simp only [List.cons_append, readVarint, hb, hmarked, if_false, ih (n / 128) (by omega),
          Option.map_some, Option.some.injEq, Prod.mk.injEq, and_true]
        omega

def varint : Codec ℕ where
  write := writeVarint
  read := readVarint
  read_write := readVarint_writeVarint

def u64 : Codec UInt64 where
  write := fun n => varint.write n.toNat
  read := fun l => (varint.read l).bind fun r =>
    if r.1 < 2 ^ 64 then some (UInt64.ofNat r.1, r.2) else none
  read_write := by
    intro n rest
    have hlt := n.toNat_lt
    simp [varint.read_write, hlt]

/-- Any number of bytes, behind their number. -/
def bytes : Codec (List UInt8) where
  write := fun l => varint.write l.length ++ l
  read := fun l => (varint.read l).bind fun r =>
    if r.1 ≤ r.2.length then some (r.2.take r.1, r.2.drop r.1) else none
  read_write := by
    intro l rest
    simp [varint.read_write]

/-- A text is its UTF-8 bytes. -/
def text : Codec String where
  write := fun s => bytes.write s.toUTF8.data.toList
  read := fun l => (bytes.read l).bind fun r =>
    (String.fromUTF8? ⟨r.1.toArray⟩).map fun s => (s, r.2)
  read_write := by
    intro s rest
    have hutf8 : String.fromUTF8? ⟨s.toByteArray.data⟩ = some s := dif_pos s.isValidUTF8
    simp [bytes.read_write, hutf8]

/-! ## Combinations -/

def pair (c : Codec α) (d : Codec β) : Codec (α × β) where
  write := fun p => c.write p.1 ++ d.write p.2
  read := fun l => (c.read l).bind fun r => (d.read r.2).map fun s => ((r.1, s.1), s.2)
  read_write := by
    intro p rest
    simp [List.append_assoc, c.read_write, d.read_write]

def option (c : Codec α) : Codec (Option α) where
  write
    | none => [0]
    | some a => 1 :: c.write a
  read
    | 0 :: rest => some (none, rest)
    | 1 :: rest => (c.read rest).map fun r => (some r.1, r.2)
    | _ => none
  read_write := by
    intro a rest
    cases a with
    | none => rfl
    | some a => simp [c.read_write]

/-- `n` values one after the other. -/
def readSequence (c : Codec α) : ℕ → List UInt8 → Option (List α × List UInt8)
  | 0, l => some ([], l)
  | n + 1, l => (c.read l).bind fun r => (readSequence c n r.2).map fun s => (r.1 :: s.1, s.2)

lemma readSequence_flatMap (c : Codec α) (as : List α) (rest : List UInt8) :
    readSequence c as.length (as.flatMap c.write ++ rest) = some (as, rest) := by
  induction as with
  | nil => rfl
  | cons a as ih => simp [readSequence, List.append_assoc, c.read_write, ih]

def list (c : Codec α) : Codec (List α) where
  write := fun as => varint.write as.length ++ as.flatMap c.write
  read := fun l => (varint.read l).bind fun r => readSequence c r.1 r.2
  read_write := by
    intro as rest
    simp [List.append_assoc, varint.read_write, readSequence_flatMap]

/-- A format for `β` from one for `α` that it is the same as. -/
def map (c : Codec α) (build : α → β) (parts : β → α)
    (h : ∀ b, build (parts b) = b) : Codec β where
  write := fun b => c.write (parts b)
  read := fun l => (c.read l).map fun r => (build r.1, r.2)
  read_write := by
    intro b rest
    simp [c.read_write, h]

end Postcard
