import R2N.Edge.Pairs
import R2N.Lib.Adjacent

/-!
# Merging the mapped candidate

`r2n-nat`: the candidates an edge announces are those its probe collected and, while a port
mapping is held, one more for the mapped address.  They are sorted by priority, and then
neighbours with the same address and kind are merged.  Nothing brings equal candidates together
but their priorities, and the mapped candidate has one of its own, so a candidate may stay twice:
a mapping for an address that a second server had reflected already is such a case.

* `rankCandidates` — sorting and merging neighbours, as both callers do it.
* `Interleaved` — three candidates of the input of which the outer two are the same and the
  priority of the other one lies between theirs.
* **`merged_candidates_iff`** — the merged list keeps what it should, and has no candidate twice
  exactly if there is no such triple.
-/

namespace R2N

/-- What makes two candidates the same: address and kind. -/
def Candidate.endpoint (c : Candidate) : SocketAddr × CandidateKind := (c.addr, c.kind)

/-- The fields of a `PortMappingSnapshot` that `as_candidate` reads. -/
structure PortMappingSnapshot where
  acquired : Bool
  externalAddr : Option SocketAddr

/-- `PortMappingSnapshot::as_candidate`. -/
def PortMappingSnapshot.asCandidate (snapshot : PortMappingSnapshot) : Option Candidate :=
  if !snapshot.acquired then
    none
  else
    snapshot.externalAddr.map fun addr =>
      { kind := .serverReflexive
        source := .portMapping
        addr := addr
        priority := 90
        rttHintMs := none }

/-- The tail of `merge_mapped_candidate` and of `collect_candidates`: a stable sort by descending
priority, then neighbours with the same address and kind are merged into the first of them. -/
def rankCandidates (candidates : List Candidate) : List Candidate :=
  (candidates.insertionSort fun a b => b.priority ≤ a.priority).destutter
    fun a b => ¬ (a.addr = b.addr ∧ a.kind = b.kind)

/-- What `merge_mapped_candidate` ranks: the base candidates that are not from a mapping, and the
snapshot's. -/
def mergeInput (baseCandidates : List Candidate) (snapshot : PortMappingSnapshot) :
    List Candidate :=
  baseCandidates.filter (fun c => c.source ≠ .portMapping) ++ snapshot.asCandidate.toList

/-- `merge_mapped_candidate`. -/
def mergeMappedCandidate (baseCandidates : List Candidate) (snapshot : PortMappingSnapshot) :
    List Candidate :=
  rankCandidates (mergeInput baseCandidates snapshot)

/-! ## Ranking -/

lemma priority_le_iff (a b : Candidate) :
    b.priority ≤ a.priority ↔ b.priority.toNat ≤ a.priority.toNat :=
  UInt32.le_iff_toNat_le

lemma not_same_iff (a b : Candidate) :
    ¬ (a.addr = b.addr ∧ a.kind = b.kind) ↔ a.endpoint ≠ b.endpoint :=
  not_congr Prod.mk_inj.symm

lemma rankCandidates_sublist (l : List Candidate) :
    (rankCandidates l).Sublist (l.insertionSort fun a b => b.priority ≤ a.priority) :=
  List.destutter_sublist _ _

lemma mem_of_mem_rankCandidates {l : List Candidate} {c : Candidate} (h : c ∈ rankCandidates l) :
    c ∈ l :=
  (List.mem_insertionSort _).mp ((rankCandidates_sublist l).subset h)

/-- The ranking descends. -/
lemma rankCandidates_descending (l : List Candidate) :
    (rankCandidates l).Pairwise fun a b => b.priority ≤ a.priority :=
  (StableSort.pairwise_insertionSort priority_le_iff l).sublist (rankCandidates_sublist l)

/-- No address and kind is lost. -/
lemma endpoint_mem_rankCandidates {l : List Candidate} {c : Candidate} (h : c ∈ l) :
    c.endpoint ∈ (rankCandidates l).map Candidate.endpoint :=
  Adjacent.mem_map_destutter not_same_iff
    (List.mem_map_of_mem ((List.mem_insertionSort _).mpr h))

/-! ## Uniqueness -/

/-- The candidate at `i` has the higher priority, or the same and stands first. -/
def Precedes (l : List Candidate) : Fin l.length → Fin l.length → Prop :=
  StableSort.Before (fun i => (l.get i).priority.toNat) (· < ·)

/-- The candidates at `i` and `k` are the same, and another one comes between them. -/
def Interleaved (l : List Candidate) (i j k : Fin l.length) : Prop :=
  Precedes l i j ∧ Precedes l j k ∧ (l.get i).endpoint = (l.get k).endpoint ∧
    (l.get j).endpoint ≠ (l.get i).endpoint

/-- Equal candidates stand together after the sort exactly if none are interleaved. -/
lemma grouped_insertionSort_iff (l : List Candidate) :
    Adjacent.Grouped
        ((l.insertionSort fun a b => b.priority ≤ a.priority).map Candidate.endpoint) ↔
      ∀ i j k, ¬ Interleaved l i j k := by
  rw [← StableSort.map_get_order, List.map_map]
  constructor
  · rintro hgrouped i j k ⟨hij, hjk, hik, hne⟩
    have hchain : [i, j, k].Pairwise (Precedes l) := by
      simp [hij, hjk, show Precedes l i k from StableSort.Before.trans hij hjk]
    have hsub := ((StableSort.sublist_order_iff priority_le_iff).mpr hchain).map
      (Candidate.endpoint ∘ l.get)
    refine hne (hgrouped (l.get i).endpoint (l.get j).endpoint ?_)
    nth_rewrite 2 [hik]
    exact hsub
  · intro hnone a b hsub
    -- the three values come from three positions
    obtain ⟨t, ht, heq⟩ := List.sublist_map_iff.mp hsub
    obtain ⟨i, t, rfl, rfl, htail⟩ := List.map_eq_cons_iff.mp heq.symm
    obtain ⟨j, t, rfl, rfl, hlast⟩ := List.map_eq_cons_iff.mp htail
    obtain ⟨k, t, rfl, hik, -⟩ := List.map_eq_cons_iff.mp hlast
    have hchain := (StableSort.sublist_order_iff priority_le_iff).mp ht
    obtain ⟨hi, hj⟩ := List.pairwise_cons.mp hchain
    have hij : Precedes l i j := hi j List.mem_cons_self
    have hjk : Precedes l j k := (List.pairwise_cons.mp hj).1 k List.mem_cons_self
    by_contra hne
    exact hnone i j k ⟨hij, hjk, hik.symm, hne⟩

lemma nodup_rankCandidates_iff (l : List Candidate) :
    ((rankCandidates l).map Candidate.endpoint).Nodup ↔ ∀ i j k, ¬ Interleaved l i j k := by
  rw [← grouped_insertionSort_iff]
  exact Adjacent.nodup_map_destutter_iff not_same_iff _

/-! ## The merged list -/

lemma mem_mergeInput {baseCandidates : List Candidate} {snapshot : PortMappingSnapshot}
    {c : Candidate} :
    c ∈ mergeInput baseCandidates snapshot ↔
      c ∈ baseCandidates ∧ c.source ≠ .portMapping ∨ snapshot.asCandidate = some c := by
  rw [mergeInput, List.mem_append, List.mem_filter, Option.mem_toList,
    decide_eq_true_iff]

/-- **Merged candidates.**  The merged list descends by priority, keeps the address and kind of
every base candidate that is not from a mapping, has no candidate from a mapping but the
snapshot's, and names no address and kind twice, exactly if its input has no two equal candidates
with another one between them. -/
theorem merged_candidates_iff (baseCandidates : List Candidate) (snapshot : PortMappingSnapshot) :
    ((mergeMappedCandidate baseCandidates snapshot).Pairwise (fun a b => b.priority ≤ a.priority) ∧
      ((mergeMappedCandidate baseCandidates snapshot).map Candidate.endpoint).Nodup ∧
      (∀ c ∈ baseCandidates, c.source ≠ .portMapping →
        c.endpoint ∈ (mergeMappedCandidate baseCandidates snapshot).map Candidate.endpoint) ∧
      ∀ c ∈ mergeMappedCandidate baseCandidates snapshot, c.source = .portMapping →
        snapshot.asCandidate = some c) ↔
      ∀ i j k, ¬ Interleaved (mergeInput baseCandidates snapshot) i j k := by
  rw [← nodup_rankCandidates_iff]
  constructor
  · rintro ⟨-, hnodup, -⟩
    exact hnodup
  · intro hnodup
    refine ⟨rankCandidates_descending _, hnodup, fun c hc hsource => ?_, fun c hc hsource => ?_⟩
    · exact endpoint_mem_rankCandidates (mem_mergeInput.mpr (Or.inl ⟨hc, hsource⟩))
    · rcases mem_mergeInput.mp (mem_of_mem_rankCandidates hc) with ⟨-, hother⟩ | hmapped
      · exact absurd hsource hother
      · exact hmapped

/-- A candidate reflected by a server. -/
def reflexiveCandidate (port : UInt16) : Candidate where
  kind := .serverReflexive
  source := .stunPrimary
  addr := .localhost port
  priority := 80
  rttHintMs := none

/-- A mapping for the address the second server reflected: the address is announced twice. -/
theorem mapped_address_twice :
    (mergeMappedCandidate [reflexiveCandidate 1, reflexiveCandidate 2]
      { acquired := true, externalAddr := some (.localhost 2) }).map Candidate.endpoint =
      [(.localhost 2, .serverReflexive), (.localhost 1, .serverReflexive),
        (.localhost 2, .serverReflexive)] := by
  decide +kernel

end R2N
