import Mathlib.Data.List.AList

/-!
# Finite maps

A concurrent hash map as its users see it between two operations: a finite map.  `KeyMap K V` is
Mathlib's `AList`, whose entries carry the proof that no key occurs twice, with the operations of
`DashMap` and `HashMap` that Mathlib does not have.

* `values`, `retain`, `mapValues`, `modify`, `upsert` — `iter().map(value)`, `retain`, `iter_mut`,
  `entry().and_modify`, and `entry().and_modify().or_insert`.
* `lookup_insert_eq`, `lookup_erase_eq`, `lookup_modify`, `lookup_upsert` — what a lookup sees
  after a write.
-/

/-- A finite map from `K` to `V`. -/
abbrev KeyMap (K V : Type*) := AList (fun _ : K => V)

namespace KeyMap

variable {K V : Type*} [DecidableEq K]

lemma lookup_insert_eq (m : KeyMap K V) (k k' : K) (v : V) :
    (m.insert k v).lookup k' = if k' = k then some v else m.lookup k' := by
  split_ifs with h
  · subst h
    exact AList.lookup_insert m
  · exact AList.lookup_insert_ne h

lemma lookup_erase_eq (m : KeyMap K V) (k k' : K) :
    (m.erase k).lookup k' = if k' = k then none else m.lookup k' := by
  split_ifs with h
  · subst h
    exact AList.lookup_erase k' m
  · exact AList.lookup_erase_ne h

lemma mem_iff_lookup {m : KeyMap K V} {k : K} : k ∈ m ↔ ∃ v, m.lookup k = some v := by
  rw [← AList.lookup_isSome, Option.isSome_iff_exists]

/-- Erasing a key that is not there. -/
lemma erase_of_lookup_none {m : KeyMap K V} {k : K} (h : m.lookup k = none) : m.erase k = m :=
  AList.ext (List.kerase_of_notMem_keys fun hk => AList.lookup_eq_none.mp h (AList.mem_keys.mpr hk))

/-! ## Values -/

/-- The values, in the order of the entries. -/
def values (m : KeyMap K V) : List V := m.entries.map Sigma.snd

omit [DecidableEq K] in
lemma entries_eq_nil_iff {m : KeyMap K V} : m.entries = [] ↔ m = ∅ :=
  ⟨fun h => AList.ext h, fun h => h ▸ rfl⟩

omit [DecidableEq K] in
lemma values_eq_nil_iff {m : KeyMap K V} : values m = [] ↔ m = ∅ := by
  rw [values, List.map_eq_nil_iff, entries_eq_nil_iff]

lemma mem_values {m : KeyMap K V} {v : V} : v ∈ values m ↔ ∃ k, m.lookup k = some v := by
  constructor
  · intro h
    obtain ⟨⟨k, w⟩, hmem, rfl⟩ := List.mem_map.mp h
    exact ⟨k, AList.mem_lookup_iff.mpr hmem⟩
  · rintro ⟨k, h⟩
    exact List.mem_map.mpr ⟨⟨k, v⟩, AList.mem_lookup_iff.mp h, rfl⟩

/-! ## Retaining entries -/

/-- Keeps the entries that satisfy `p`. -/
def retain (p : K → V → Bool) (m : KeyMap K V) : KeyMap K V where
  entries := m.entries.filter fun e => p e.1 e.2
  nodupKeys := m.nodupKeys.sublist List.filter_sublist

lemma lookup_retain (p : K → V → Bool) (m : KeyMap K V) (k : K) :
    (retain p m).lookup k = (m.lookup k).filter (p k) := by
  refine Option.ext fun v => ?_
  rw [Option.filter_eq_some_iff]
  exact (AList.mem_lookup_iff.trans List.mem_filter).trans
    (and_congr_left fun _ => AList.mem_lookup_iff.symm)

/-- Applies `f` to every value. -/
def mapValues (f : V → V) (m : KeyMap K V) : KeyMap K V where
  entries := m.entries.map fun e => ⟨e.1, f e.2⟩
  nodupKeys := by
    have hkeys : (m.entries.map fun e => (⟨e.1, f e.2⟩ : Sigma fun _ : K => V)).keys =
        m.entries.keys := by
      simp only [List.keys, List.map_map]
      rfl
    rw [List.NodupKeys, hkeys]
    exact m.nodupKeys

/-! ## Changing one entry -/

/-- Applies `f` to the value at `k`, if there is one. -/
def modify (k : K) (f : V → V) (m : KeyMap K V) : KeyMap K V :=
  match m.lookup k with
  | some v => m.insert k (f v)
  | none => m

lemma lookup_modify (k : K) (f : V → V) (m : KeyMap K V) (k' : K) :
    (modify k f m).lookup k' = if k' = k then (m.lookup k).map f else m.lookup k' := by
  unfold modify
  cases h : m.lookup k with
  | some v => exact lookup_insert_eq m k k' (f v)
  | none =>
      split_ifs with hk
      · rw [hk, h]
        rfl
      · rfl

/-- Applies `f` to the value at `k`, or inserts `v` there. -/
def upsert (k : K) (f : V → V) (v : V) (m : KeyMap K V) : KeyMap K V :=
  m.insert k (((m.lookup k).map f).getD v)

lemma lookup_upsert (k : K) (f : V → V) (v : V) (m : KeyMap K V) (k' : K) :
    (upsert k f v m).lookup k' =
      if k' = k then some (((m.lookup k).map f).getD v) else m.lookup k' :=
  lookup_insert_eq m k k' _

end KeyMap
