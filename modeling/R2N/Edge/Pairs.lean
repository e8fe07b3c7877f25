import R2N.Edge.Edge
import R2N.Lib.Checked
import R2N.Lib.StableSort

/-!
# Ranking candidate pairs

A punch tries the pairs of local and remote candidates in the order of their scores.  A score is
a sum in `u32`, and the remote priorities in it are whatever the peer announced.  A build with
overflow checks stops at a sum that does not fit (`buildCandidatePairsChecked`); a release build
goes on with the remainder (`buildCandidatePairs`), and the pair with the greatest sum may then
rank last.

* `pairScore` — the score in unbounded integers.
* `Ranked` — every pair of positions once, by that score, equal scores local-major.
* **`candidate_pairs_ranked_iff`** — the pairs are built and ranked so exactly if every sum fits.
-/

namespace R2N

/-! ## With overflow checks -/

/-- `a + b` where an overflow panics, which is `none`. -/
def addOrPanic (a b : UInt32) : Option UInt32 :=
  if a.toNat + b.toNat < 2 ^ 32 then some (a + b) else none

/-- The pair `build_candidate_pairs` pushes, its score as a release build computes it. -/
def candidatePair (left right : Candidate) : CandidatePair where
  «local» := left
  remote := right
  score := left.priority + right.priority + localityBonus left right

/-- The same with the two additions checked. -/
def candidatePairChecked (left right : Candidate) : Option CandidatePair := do
  let priorities ← addOrPanic left.priority right.priority
  let score ← addOrPanic priorities (localityBonus left right)
  return { «local» := left, remote := right, score := score }

/-- `build_candidate_pairs` in a build with overflow checks. -/
def buildCandidatePairsChecked (locals remotes : List Candidate) : Option (List CandidatePair) := do
  let pairs ← locals.mapM fun left => remotes.mapM fun right => candidatePairChecked left right
  return pairs.flatten.insertionSort fun p q => q.score ≤ p.score

/-! ## Scores -/

/-- The score of a pair in unbounded integers. -/
def pairScore (left right : Candidate) : ℕ :=
  left.priority.toNat + right.priority.toNat + (localityBonus left right).toNat

/-- No score of the two lists exceeds `u32`. -/
def ScoresFit (locals remotes : List Candidate) : Prop :=
  ∀ left ∈ locals, ∀ right ∈ remotes, pairScore left right < 2 ^ 32

instance (locals remotes : List Candidate) : Decidable (ScoresFit locals remotes) :=
  inferInstanceAs (Decidable (∀ left ∈ locals, ∀ right ∈ remotes, _))

lemma score_candidatePair {left right : Candidate} (h : pairScore left right < 2 ^ 32) :
    (candidatePair left right).score.toNat = pairScore left right := by
  unfold pairScore at h ⊢
  rw [candidatePair, UInt32.toNat_add, UInt32.toNat_add,
    Nat.mod_eq_of_lt (by omega : left.priority.toNat + right.priority.toNat < 2 ^ 32),
    Nat.mod_eq_of_lt h]

lemma candidatePairChecked_eq (left right : Candidate) :
    candidatePairChecked left right =
      if pairScore left right < 2 ^ 32 then some (candidatePair left right) else none := by
  unfold candidatePairChecked addOrPanic pairScore
  by_cases hsum : left.priority.toNat + right.priority.toNat < 2 ^ 32
  · have hadd : (left.priority + right.priority).toNat =
        left.priority.toNat + right.priority.toNat := by
      rw [UInt32.toNat_add, Nat.mod_eq_of_lt hsum]
    simp only [if_pos hsum, Option.bind_eq_bind, Option.bind_some, hadd]
    split_ifs <;> rfl
  · have hscore : ¬ left.priority.toNat + right.priority.toNat +
        (localityBonus left right).toNat < 2 ^ 32 := by omega
    rw [if_neg hsum, if_neg hscore]
    rfl

/-- The two builds agree until the first overflow. -/
theorem buildCandidatePairsChecked_eq (locals remotes : List Candidate) :
    buildCandidatePairsChecked locals remotes =
      if ScoresFit locals remotes then some (buildCandidatePairs locals remotes) else none := by
  have hrow : ∀ left, (remotes.mapM fun right => candidatePairChecked left right) =
      if ∀ right ∈ remotes, pairScore left right < 2 ^ 32 then
        some (remotes.map (candidatePair left)) else none :=
    fun left => Checked.mapM_ite (candidatePairChecked_eq left) remotes
  rw [buildCandidatePairsChecked, Checked.mapM_ite hrow]
  by_cases hfit : ∀ left ∈ locals, ∀ right ∈ remotes, pairScore left right < 2 ^ 32
  · rw [if_pos hfit, if_pos (show ScoresFit locals remotes from hfit)]
    rfl
  · rw [if_neg hfit, if_neg (show ¬ ScoresFit locals remotes from hfit)]
    rfl

/-! ## The ranking -/

/-- The order in which the two loops push the pairs. -/
def LocalMajor {n m : ℕ} (p q : Fin n × Fin m) : Prop := p.1 < q.1 ∨ p.1 = q.1 ∧ p.2 < q.2

/-- The pairs are those of some order of the pairs of positions: each occurs once, a greater
score comes first, and equal scores come local-major. -/
def Ranked (locals remotes : List Candidate) (pairs : List CandidatePair) : Prop :=
  ∃ order : List (Fin locals.length × Fin remotes.length),
    order.Nodup ∧ (∀ p, p ∈ order) ∧
    order.Pairwise (StableSort.Before
      (fun p => pairScore (locals.get p.1) (remotes.get p.2)) LocalMajor) ∧
    pairs.map (fun pair => (pair.local, pair.remote)) =
      order.map fun p => (locals.get p.1, remotes.get p.2)

/-- The scores descend. -/
lemma Ranked.pairwise {locals remotes : List Candidate} {pairs : List CandidatePair}
    (h : Ranked locals remotes pairs) :
    pairs.Pairwise fun p q => pairScore q.local q.remote ≤ pairScore p.local p.remote := by
  obtain ⟨order, -, -, hpairwise, hmap⟩ := h
  have hsorted : (order.map fun p => (locals.get p.1, remotes.get p.2)).Pairwise
      fun p q => pairScore q.1 q.2 ≤ pairScore p.1 p.2 :=
    List.pairwise_map.mpr (hpairwise.imp StableSort.Before.key_le)
  rw [← hmap] at hsorted
  exact List.pairwise_map.mp hsorted

/-- The pairs of positions as the loops go through them. -/
def positions (n m : ℕ) : List (Fin n × Fin m) := List.finRange n ×ˢ List.finRange m

lemma pairwise_positions (n m : ℕ) : (positions n m).Pairwise LocalMajor := by
  refine List.pairwise_flatMap.mpr ⟨fun i _ => ?_, ?_⟩
  · exact List.pairwise_map.mpr
      ((List.sortedLT_finRange m).pairwise.imp fun hjk => Or.inr ⟨rfl, hjk⟩)
  · refine (List.sortedLT_finRange n).pairwise.imp fun hik p hp q hq => ?_
    obtain ⟨_, _, rfl⟩ := List.mem_map.mp hp
    obtain ⟨_, _, rfl⟩ := List.mem_map.mp hq
    exact Or.inl hik

/-- Sorting the pairs is sorting their positions. -/
lemma buildCandidatePairs_eq (locals remotes : List Candidate) :
    buildCandidatePairs locals remotes =
      ((positions locals.length remotes.length).insertionSort fun p q =>
        (candidatePair (locals.get q.1) (remotes.get q.2)).score ≤
          (candidatePair (locals.get p.1) (remotes.get p.2)).score).map
        fun p => candidatePair (locals.get p.1) (remotes.get p.2) := by
  have hpairs : (locals.flatMap fun left => remotes.map (candidatePair left)) =
      (positions locals.length remotes.length).map
        fun p => candidatePair (locals.get p.1) (remotes.get p.2) := by
    conv_lhs => rw [← List.map_get_finRange locals, ← List.map_get_finRange remotes]
    simp only [positions, SProd.sprod, List.product, List.map_flatMap, List.flatMap_map,
      List.map_map, Function.comp_def]
  rw [List.map_insertionSort _ (fun p q : CandidatePair => q.score ≤ p.score) _ _
    fun _ _ _ _ => Iff.rfl, ← hpairs]
  rfl

lemma ranked_of_scoresFit {locals remotes : List Candidate} (hfit : ScoresFit locals remotes) :
    Ranked locals remotes (buildCandidatePairs locals remotes) := by
  have hscore : ∀ p : Fin locals.length × Fin remotes.length,
      (candidatePair (locals.get p.1) (remotes.get p.2)).score.toNat =
        pairScore (locals.get p.1) (remotes.get p.2) := fun p =>
    score_candidatePair (hfit _ (List.get_mem locals p.1) _ (List.get_mem remotes p.2))
  refine ⟨(positions locals.length remotes.length).insertionSort fun p q =>
    (candidatePair (locals.get q.1) (remotes.get q.2)).score ≤
      (candidatePair (locals.get p.1) (remotes.get p.2)).score, ?_, fun p => ?_, ?_, ?_⟩
  · refine (List.perm_insertionSort _ _).nodup_iff.mpr ?_
    exact (List.nodup_finRange _).product (List.nodup_finRange _)
  · exact (List.mem_insertionSort _).mpr
      (List.pair_mem_product.mpr ⟨List.mem_finRange _, List.mem_finRange _⟩)
  · refine StableSort.pairwise_before (fun p q => ?_) (pairwise_positions _ _)
    rw [UInt32.le_iff_toNat_le, hscore, hscore]
  · rw [buildCandidatePairs_eq, List.map_map]
    rfl

/-- **Candidate pairs.**  No addition overflows and the pairs are ranked by their scores in
unbounded integers exactly if every score of the two lists fits into `u32`. -/
theorem candidate_pairs_ranked_iff (locals remotes : List Candidate) :
    (buildCandidatePairsChecked locals remotes = some (buildCandidatePairs locals remotes) ∧
      Ranked locals remotes (buildCandidatePairs locals remotes)) ↔
      ScoresFit locals remotes := by
  rw [buildCandidatePairsChecked_eq]
  constructor
  · rintro ⟨hchecked, -⟩
    by_contra hfit
    rw [if_neg hfit] at hchecked
    cases hchecked
  · exact fun hfit => ⟨if_pos hfit, ranked_of_scoresFit hfit⟩

/-- A peer's candidate, by its address and priority. -/
def lanCandidate (port : UInt16) (priority : UInt32) : Candidate where
  kind := .hostLan
  source := .localInterface
  addr := .localhost port
  priority := priority
  rttHintMs := none

/-- A remote priority close to the top of `u32`: the build with checks stops, and a release build
ranks the pair last with score zero, so that a punch leaves it out. -/
theorem priority_overflow :
    buildCandidatePairsChecked [lanCandidate 1 100] [lanCandidate 2 4294967156, lanCandidate 3 100]
      = none ∧
    buildCandidatePairs [lanCandidate 1 100] [lanCandidate 2 4294967156, lanCandidate 3 100] =
      [⟨lanCandidate 1 100, lanCandidate 3 100, 240⟩,
        ⟨lanCandidate 1 100, lanCandidate 2 4294967156, 0⟩] ∧
    ¬ Ranked [lanCandidate 1 100] [lanCandidate 2 4294967156, lanCandidate 3 100]
      (buildCandidatePairs [lanCandidate 1 100]
        [lanCandidate 2 4294967156, lanCandidate 3 100]) ∧
    selectedPairs [lanCandidate 1 100] [lanCandidate 2 4294967156] = [] := by
  refine ⟨by decide +kernel, by decide +kernel, fun hranked => ?_, by decide +kernel⟩
  have hdescend := hranked.pairwise
  revert hdescend
  decide +kernel

end R2N
