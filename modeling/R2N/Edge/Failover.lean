import R2N.Lib.Adjacent
import R2N.Lib.Rotation
import R2N.Edge.Registration

/-!
# Failing over to another supernode

When the current supernode is silent the watchdog moves on to `next_supernode_after` in the list
that `normalize_supernodes` has made at start-up.  The list begins with the primary supernode, and
repetitions are removed from it only where they are adjacent; the successor is found through the
first occurrence of the current address.  So a repetition that is left keeps the watchdog in the
segment between the two occurrences.

* `normalizeSupernodes_eq_cons` — the list is the primary followed by other addresses.
* `nodup_normalizeSupernodes_iff` — when no address is left twice.
* **`failover_visits_iff`** — the watchdog gets from every supernode to every other one exactly if,
  apart from the primary, equal addresses stood together in the configured list.
-/

namespace R2N

open Adjacent (Grouped)

/-! ## The list of supernodes -/

lemma exists_destutter'_eq_cons (addr : SocketAddr) (l : List SocketAddr) :
    ∃ rest, l.destutter' (· ≠ ·) addr = addr :: rest := by
  induction l with
  | nil => exact ⟨[], rfl⟩
  | cons b l ih =>
      rw [List.destutter'_cons]
      split_ifs
      · exact ⟨_, rfl⟩
      · exact ih

/-- The list begins with the primary supernode, which does not occur again. -/
lemma normalizeSupernodes_eq_cons (primary : SocketAddr) (supernodes : List SocketAddr) :
    ∃ rest, normalizeSupernodes primary supernodes = primary :: rest ∧ primary ∉ rest := by
  obtain ⟨rest, hrest⟩ :=
    exists_destutter'_eq_cons primary (supernodes.filter fun addr => addr ≠ primary)
  have hsub : (primary :: rest).Sublist (primary :: supernodes.filter fun addr => addr ≠ primary) :=
    hrest ▸ List.destutter'_sublist _ _ _
  refine ⟨rest, hrest, fun hmem => ?_⟩
  have hfilter := (List.cons_sublist_cons.mp hsub).subset hmem
  simp at hfilter

/-- No address is left twice exactly if, apart from the primary, equal addresses stood together. -/
lemma nodup_normalizeSupernodes_iff (primary : SocketAddr) (supernodes : List SocketAddr) :
    (normalizeSupernodes primary supernodes).Nodup ↔
      ∀ a b, a ≠ primary → b ≠ primary → [a, b, a].Sublist supernodes → b = a := by
  rw [normalizeSupernodes, Adjacent.nodup_destutter_iff]
  constructor
  · intro h a b ha hb hab
    have hkept : ([a, b, a].filter fun addr => addr ≠ primary) = [a, b, a] := by simp [ha, hb]
    have hsub := hab.filter fun addr => decide (addr ≠ primary)
    rw [hkept] at hsub
    exact h a b (hsub.cons primary)
  · intro h a b hab
    have hout : ∀ c ∈ supernodes.filter fun addr => addr ≠ primary, c ≠ primary := by simp
    cases hab with
    | cons _ hab =>
        exact h a b (hout a (hab.subset (by simp))) (hout b (hab.subset (by simp)))
          (hab.trans List.filter_sublist)
    | cons_cons _ hab => exact absurd rfl (hout _ (hab.subset (by simp)))

/-! ## The next supernode -/

/-- From an address of the list, the watchdog moves to the one behind its first occurrence. -/
lemma nextSupernodeAfter_eq {supernodes : List SocketAddr} {current : SocketAddr}
    (h : current ∈ supernodes) :
    nextSupernodeAfter current supernodes = Rotation.next supernodes current := by
  have hidx : supernodes.findIdx? (fun addr => addr = current) =
      some (supernodes.idxOf current) := by
    rw [List.findIdx?_eq_some_iff_findIdx_eq]
    exact ⟨List.idxOf_lt_length_of_mem h, rfl⟩
  unfold nextSupernodeAfter
  split_ifs with hlen
  · -- a list of one address: the walk stays there
    obtain ⟨a, rfl⟩ : ∃ a, supernodes = [a] :=
      List.length_eq_one_iff.mp (Nat.le_antisymm hlen (List.length_pos_of_mem h))
    simp [Rotation.next, List.mem_singleton.mp h]
  · simp only [hidx]
    rfl

/-- The supernodes the watchdog gets to from an address of the list. -/
lemma iterate_nextSupernodeAfter {supernodes : List SocketAddr} {current : SocketAddr}
    (h : current ∈ supernodes) (k : ℕ) :
    (fun addr => nextSupernodeAfter addr supernodes)^[k] current =
      (Rotation.next supernodes)^[k] current := by
  induction k generalizing current with
  | zero => rfl
  | succ k ih =>
      rw [Function.iterate_succ_apply, Function.iterate_succ_apply, nextSupernodeAfter_eq h]
      exact ih (Rotation.next_mem h)

/-! ## Visiting every supernode -/

/-- From every supernode of the list the watchdog reaches every other one in at most as many
moves as there are entries. -/
def FailoverVisitsEvery (supernodes : List SocketAddr) : Prop :=
  ∀ a ∈ supernodes, ∀ b ∈ supernodes,
    ∃ k ≤ supernodes.length, (fun addr => nextSupernodeAfter addr supernodes)^[k] a = b

lemma failoverVisitsEvery_iff_covers (supernodes : List SocketAddr) :
    FailoverVisitsEvery supernodes ↔ Rotation.Covers supernodes := by
  refine forall₂_congr fun a ha => ?_
  simp only [iterate_nextSupernodeAfter ha]

/-- **Failover visits every supernode** exactly if no address other than the primary occurs in the
configured list on both sides of a third one. -/
theorem failover_visits_iff (primary : SocketAddr) (supernodes : List SocketAddr) :
    FailoverVisitsEvery (normalizeSupernodes primary supernodes) ↔
      ∀ a b, a ≠ primary → b ≠ primary → [a, b, a].Sublist supernodes → b = a := by
  obtain ⟨rest, heq, hnot⟩ := normalizeSupernodes_eq_cons primary supernodes
  rw [failoverVisitsEvery_iff_covers, ← nodup_normalizeSupernodes_iff, heq]
  exact Rotation.covers_iff_nodup hnot

/-- **A repetition traps the watchdog**: with `b, c, b` behind the primary, neither `b` nor `c`
ever leads back to the primary. -/
theorem failover_trapped :
    ¬ FailoverVisitsEvery (normalizeSupernodes (.localhost 1)
      [.localhost 2, .localhost 3, .localhost 2]) := by
  intro h
  have htrap : ∀ k ≤ 4, (fun addr => nextSupernodeAfter addr (normalizeSupernodes (.localhost 1)
      [.localhost 2, .localhost 3, .localhost 2]))^[k] (.localhost 2) ≠ .localhost 1 := by
    decide
  obtain ⟨k, hk, hreach⟩ := h (.localhost 2) (by decide) (.localhost 1) (by decide)
  exact htrap k hk hreach

end R2N
