import Mathlib.Data.Int.Notation
import Mathlib.Data.List.Basic
import Mathlib.Data.Option.Basic

/-!
# Documents of keys and values

TOML documents as `serde` sees them, and the two directions of its derived code.

* `Codec` — how a type is read and written, with the proof that what is written can be read.  A
  codec is one of the shapes of the format or a `refine` of another codec.
* `Table.optional`, `Table.field`, `Table.required` — the fields of a record: one that may be left
  out, one with a default, one that has to be there.  Other keys of the table do not matter.
* `Table.OnlyKeys` — `deny_unknown_fields`.
-/

/-- A value.  The entries of a table stand in the order of their keys; floats, dates and times are
not told apart. -/
inductive Toml where
  | string (s : String)
  | integer (n : ℤ)
  | boolean (b : Bool)
  | array (items : List Toml)
  | table (entries : List (String × Toml))
  | other

namespace Toml

abbrev Table := List (String × Toml)

variable {α β : Type*}

/-! ## Codecs -/

structure Codec (α : Type*) where
  read : Toml → Option α
  write : α → Toml
  read_write : ∀ a, read (write a) = some a

attribute [simp] Codec.read_write

namespace Codec

def string : Codec String where
  read
    | .string s => some s
    | _ => none
  write := .string
  read_write _ := rfl

def integer : Codec ℤ where
  read
    | .integer n => some n
    | _ => none
  write := .integer
  read_write _ := rfl

def boolean : Codec Bool where
  read
    | .boolean b => some b
    | _ => none
  write := .boolean
  read_write _ := rfl

def table : Codec Table where
  read
    | .table t => some t
    | _ => none
  write := .table
  read_write _ := rfl

lemma mapM_read_map_write (c : Codec α) (l : List α) : (l.map c.write).mapM c.read = some l := by
  induction l with
  | nil => rfl
  | cons a l ih => simp [ih]

def list (c : Codec α) : Codec (List α) where
  read
    | .array items => items.mapM c.read
    | _ => none
  write l := .array (l.map c.write)
  read_write := c.mapM_read_map_write

/-- The values of one type that stand for the values of another. -/
def refine (c : Codec α) (decode : α → Option β) (encode : β → α)
    (h : ∀ b, decode (encode b) = some b) : Codec β where
  read v := (c.read v).bind decode
  write b := c.write (encode b)
  read_write b := by simp [h]

/-- The numbers below a bound. -/
def unsigned (size : ℕ) : Codec (Fin size) :=
  integer.refine (fun n => if h : 0 ≤ n ∧ n.toNat < size then some ⟨n.toNat, h.2⟩ else none)
    (fun i => (i : ℕ)) fun i => by simp

def uint8 : Codec UInt8 :=
  (unsigned UInt8.size).refine (fun i => some (.ofFin i)) UInt8.toFin fun _ => rfl

def uint16 : Codec UInt16 :=
  (unsigned UInt16.size).refine (fun i => some (.ofFin i)) UInt16.toFin fun _ => rfl

def uint32 : Codec UInt32 :=
  (unsigned UInt32.size).refine (fun i => some (.ofFin i)) UInt32.toFin fun _ => rfl

def uint64 : Codec UInt64 :=
  (unsigned UInt64.size).refine (fun i => some (.ofFin i)) UInt64.toFin fun _ => rfl

/-- An enumeration, by the names of its values. -/
def named (name : α → String) (values : List α)
    (h : ∀ a, (values.find? fun b => name b = name a) = some a) : Codec α :=
  string.refine (fun s => values.find? fun b => name b = s) name h

end Codec

/-! ## Fields -/

namespace Table

/-- A field that may be left out. -/
def optional (t : Table) (key : String) (c : Codec α) : Option (Option α) :=
  match t.lookup key with
  | none => some none
  | some v => (c.read v).map some

/-- A field with a default. -/
def field (t : Table) (key : String) (c : Codec α) (dflt : α) : Option α :=
  (t.optional key c).map fun a => a.getD dflt

/-- A field that has to be there. -/
def required (t : Table) (key : String) (c : Codec α) : Option α := (t.lookup key).bind c.read

/-- There are no keys but these. -/
def OnlyKeys (t : Table) (keys : List String) : Prop := ∀ entry ∈ t, entry.1 ∈ keys

instance (t : Table) (keys : List String) : Decidable (t.OnlyKeys keys) :=
  inferInstanceAs (Decidable (∀ entry ∈ t, entry.1 ∈ keys))

/-- How an optional field is written. -/
def entry (key : String) (c : Codec α) : Option α → Table
  | none => []
  | some a => [(key, c.write a)]

variable {t : Table} {key k : String} {v : Toml} {c : Codec α}

lemma optional_of_lookup (h : t.lookup key = some v) (c : Codec α) :
    t.optional key c = (c.read v).map some := by
  rw [optional, h]

/-- A field that is read is one that is set or left out. -/
lemma isSome_lookup {o : Option α} (h : t.optional key c = some o) :
    (t.lookup key).isSome = o.isSome := by
  unfold optional at h
  split at h
  next hlookup =>
    obtain rfl := Option.some.inj h
    rw [hlookup]
    rfl
  next v hlookup =>
    obtain ⟨a, -, rfl⟩ := Option.map_eq_some_iff.mp h
    rw [hlookup]
    rfl

lemma OnlyKeys.lookup_eq_none {keys : List String} (h : t.OnlyKeys keys) (hkey : key ∉ keys) :
    t.lookup key = none := by
  rw [List.lookup_eq_none_iff]
  intro entry hentry
  rw [bne_iff_ne]
  rintro rfl
  exact hkey (h entry hentry)

/-- A field whose key is not among those there can be. -/
lemma OnlyKeys.optional {keys : List String} (h : t.OnlyKeys keys) (hkey : key ∉ keys)
    (c : Codec α) : t.optional key c = some none := by
  rw [Table.optional, h.lookup_eq_none hkey]

@[simp] lemma optional_nil (key : String) (c : Codec α) : optional [] key c = some none := rfl

@[simp] lemma optional_cons_self (key : String) (c : Codec α) (a : α) (t : Table) :
    optional ((key, c.write a) :: t) key c = some (some a) := by
  simp [optional]

@[simp] lemma optional_cons_of_ne (h : key ≠ k) (v : Toml) (t : Table) (c : Codec α) :
    optional ((k, v) :: t) key c = optional t key c := by
  have hbeq : (key == k) = false := beq_eq_false_iff_ne.mpr h
  simp only [optional, List.lookup_cons, hbeq]

@[simp] lemma required_cons_self (key : String) (c : Codec α) (a : α) (t : Table) :
    required ((key, c.write a) :: t) key c = some a := by
  simp [required]

@[simp] lemma required_cons_of_ne (h : key ≠ k) (v : Toml) (t : Table) (c : Codec α) :
    required ((k, v) :: t) key c = required t key c := by
  have hbeq : (key == k) = false := beq_eq_false_iff_ne.mpr h
  simp only [required, List.lookup_cons, hbeq]

end Table

end Toml
