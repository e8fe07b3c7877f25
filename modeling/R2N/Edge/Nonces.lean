import R2N.Edge.Evolution

/-!
# Nonce uniqueness

Every record of a peer has its own nonce counter, which starts at 1, while the key of its cipher is
the one that both ends of a handshake negotiated.  A fleet is any number of edges that take steps
in any order, with the list of all encryptions they make.

* `Fleet.step` — one edge takes one step; its encryption, if any, is logged.
* `Fleet.SoleUser` — the condition on a step: a record draws a nonce under a key only as long as no
  other record, of this edge or of another one, has encrypted under that key, and its counter is
  not at the end of its range.
* `Fleet.Accounted.step` — every logged nonce lies below the counter of its record.
* **`Fleet.nonce_uniqueness`** — along such steps no pair of key and nonce is used twice.
* **`Fleet.both_ends_use_nonce_one`** — the two ends of one handshake use the same pair.
-/

namespace R2N

open Run

/-- A call of `Cipher::encrypt_in_place`: who made it, from which record, with what. -/
structure Encryption (ι : Type*) where
  edge : ι
  record : PeerRef
  key : Key
  nonce : UInt64
deriving DecidableEq

/-- Edges, and what they have encrypted so far, oldest first. -/
structure Fleet (ι : Type*) where
  edges : ι → Edge
  log : List (Encryption ι)

namespace Fleet

variable {ι : Type*} [DecidableEq ι]

/-- The edge `a` takes the input `i`. -/
def step (P : Platform) (s : Fleet ι) (ai : ι × EdgeInput) : Fleet ι :=
  let e := s.edges ai.1
  { edges := Function.update s.edges ai.1 (e.step P ai.2)
    log := s.log ++ (e.encryptionsBy P ai.2).map fun (r, key, nonce) => ⟨ai.1, r, key, nonce⟩ }

/-- A record that may draw a nonce in this step has not reached the end of its counter, and it is
the only one that has encrypted under its key. -/
def SoleUser (P : Platform) (s : Fleet ι) (ai : ι × EdgeInput) : Prop :=
  ∀ r ∈ (s.edges ai.1).drawsFrom P ai.2,
    ((s.edges ai.1).dataplane.heap r).nextNonce.toNat + 1 < 2 ^ 64 ∧
      ∀ c ∈ ((s.edges ai.1).dataplane.heap r).cipher, ∀ old ∈ s.log, old.key = c.key →
        old.edge = ai.1 ∧ old.record = r

instance (P : Platform) (s : Fleet ι) (ai : ι × EdgeInput) : Decidable (s.SoleUser P ai) := by
  unfold SoleUser
  infer_instance

/-- The counters account for the log: each nonce was drawn from its record, and no pair of key and
nonce was drawn twice. -/
structure Accounted (s : Fleet ι) : Prop where
  wellFormed : ∀ a, (s.edges a).dataplane.WellFormed
  record_lt : ∀ enc ∈ s.log, enc.record < (s.edges enc.edge).dataplane.nextRef
  nonce_lt : ∀ enc ∈ s.log,
    enc.nonce < ((s.edges enc.edge).dataplane.heap enc.record).nextNonce
  nodup : (s.log.map fun enc => (enc.key, enc.nonce)).Nodup

omit [DecidableEq ι] in
lemma accounted_of_fresh {s : Fleet ι} (hlog : s.log = [])
    (hpeers : ∀ a, (s.edges a).dataplane.peers = ∅) : s.Accounted where
  wellFormed := fun a => DataPlane.wellFormed_of_empty (hpeers a)
  record_lt := by simp [hlog]
  nonce_lt := by simp [hlog]
  nodup := by simp [hlog]

/-! ## The two kinds of steps -/

/-- Without an encryption: the counters stay where they are. -/
lemma Accounted.evolves {s : Fleet ι} (h : s.Accounted) {a : ι} {e' : Edge}
    {installed : Option (NodeId × Key)}
    (he : DataPlane.Evolves installed (s.edges a).dataplane e'.dataplane) :
    Accounted { s with edges := Function.update s.edges a e' } where
  wellFormed := by
    intro b
    by_cases hb : b = a
    · subst hb
      simpa only [Function.update_self] using he.wellFormed
    · simpa only [Function.update_of_ne hb] using h.wellFormed b
  record_lt := by
    intro enc henc
    have hlt := h.record_lt enc henc
    by_cases hb : enc.edge = a
    · rw [hb] at hlt
      simpa only [hb, Function.update_self] using hlt.trans_le he.nextRef_le
    · simpa only [Function.update_of_ne hb] using hlt
  nonce_lt := by
    intro enc henc
    have hlt := h.record_lt enc henc
    have hnonce := h.nonce_lt enc henc
    by_cases hb : enc.edge = a
    · rw [hb] at hlt hnonce
      simpa only [hb, Function.update_self, he.nextNonce _ hlt] using hnonce
    · simpa only [Function.update_of_ne hb] using hnonce
  nodup := h.nodup

/-- A counter that is not at the end of its range advances past its own value. -/
lemma lt_succ_of_no_wrap {n : UInt64} (h : n.toNat + 1 < 2 ^ 64) : n < n + 1 := by
  rw [UInt64.lt_iff_toNat_lt, UInt64.toNat_add]
  simp only [UInt64.toNat_one]
  omega

/-- With the draw of a nonce: what is logged lies below the advanced counter, and is new because
every older encryption under the key came from the same record. -/
lemma Accounted.draws {s : Fleet ι} (h : s.Accounted) {a : ι} {e' : Edge} {r : PeerRef}
    (hr : r < (s.edges a).dataplane.nextRef)
    (he : DataPlane.Draws r (s.edges a).dataplane e'.dataplane)
    (hwrap : ((s.edges a).dataplane.heap r).nextNonce.toNat + 1 < 2 ^ 64)
    (hsole : ∀ c ∈ ((s.edges a).dataplane.heap r).cipher, ∀ old ∈ s.log, old.key = c.key →
      old.edge = a ∧ old.record = r) :
    Accounted
      { edges := Function.update s.edges a e'
        log := s.log ++ ((s.edges a).encryptionWith r).map
          fun (r, key, nonce) => ⟨a, r, key, nonce⟩ } := by
  have hself : (Function.update s.edges a e') a = e' := Function.update_self _ _ _
  have hadvance : ((s.edges a).dataplane.heap r).nextNonce < (e'.dataplane.heap r).nextNonce :=
    he.self ▸ lt_succ_of_no_wrap hwrap
  have hmem : ∀ enc, enc ∈ ((s.edges a).encryptionWith r).map
      (fun (r, key, nonce) => (⟨a, r, key, nonce⟩ : Encryption ι)) ↔
      ∃ c ∈ ((s.edges a).dataplane.heap r).cipher,
        enc = ⟨a, r, c.key, ((s.edges a).dataplane.heap r).nextNonce⟩ := by
    intro enc
    unfold Edge.encryptionWith
    cases ((s.edges a).dataplane.heap r).cipher <;> simp
  constructor
  · intro b
    by_cases hb : b = a
    · subst hb
      simpa only [hself] using he.wellFormed (h.wellFormed b)
    · simpa only [Function.update_of_ne hb] using h.wellFormed b
  · intro enc henc
    rcases List.mem_append.mp henc with hold | hnew
    · have hlt := h.record_lt enc hold
      by_cases hb : enc.edge = a
      · rw [hb] at hlt
        simpa only [hb, hself, he.nextRef] using hlt
      · simpa only [Function.update_of_ne hb] using hlt
    · obtain ⟨c, -, rfl⟩ := (hmem enc).mp hnew
      simpa only [hself, he.nextRef] using hr
  · intro enc henc
    rcases List.mem_append.mp henc with hold | hnew
    · have hnonce := h.nonce_lt enc hold
      by_cases hb : enc.edge = a
      · rw [hb] at hnonce
        simp only [hb, hself]
        by_cases hrec : enc.record = r
        · rw [hrec] at hnonce ⊢
          exact UInt64.lt_trans hnonce hadvance
        · rwa [he.other _ hrec]
      · simpa only [Function.update_of_ne hb] using hnonce
    · obtain ⟨c, -, rfl⟩ := (hmem enc).mp hnew
      simpa only [hself] using hadvance
  · rw [List.map_append, List.nodup_append]
    refine ⟨h.nodup, ?_, ?_⟩
    · unfold Edge.encryptionWith
      cases ((s.edges a).dataplane.heap r).cipher <;> simp
    · rintro _ hold _ hnew
      obtain ⟨old, hmemOld, rfl⟩ := List.mem_map.mp hold
      obtain ⟨new, hmemNew, rfl⟩ := List.mem_map.mp hnew
      obtain ⟨c, hc, rfl⟩ := (hmem new).mp hmemNew
      intro heq
      obtain ⟨hkey, hnonce⟩ := Prod.mk.inj heq
      obtain ⟨rfl, rfl⟩ := hsole c hc old hmemOld hkey
      exact absurd (h.nonce_lt old hmemOld) (by simp [hnonce])

/-- A step by the only user of its key adds no pair of key and nonce that is in the log. -/
lemma Accounted.step {P : Platform} {s : Fleet ι} (h : s.Accounted) {ai : ι × EdgeInput}
    (hsole : s.SoleUser P ai) : (s.step P ai).Accounted := by
  simp only [Fleet.step]
  rcases Edge.step_evolves P (h.wellFormed ai.1) ai.2 with ⟨he, henc⟩ | ⟨r, hr, hlt, he, -, henc⟩
  · rw [henc, List.map_nil, List.append_nil]
    exact h.evolves he
  · rw [henc]
    exact h.draws hlt he (hsole r hr).1 (hsole r hr).2

/-- **Nonce uniqueness.**  Edges start without peers.  As long as each key is used from one record
only, no pair of key and nonce encrypts two frames. -/
theorem nonce_uniqueness (P : Platform) (s : Fleet ι) (hlog : s.log = [])
    (hpeers : ∀ a, (s.edges a).dataplane.peers = ∅) (inputs : List (ι × EdgeInput))
    (hsole : Along (step P) (SoleUser P) s inputs) :
    ((run (step P) s inputs).log.map fun enc => (enc.key, enc.nonce)).Nodup :=
  (invariant (I := Accounted) (fun _ _ h hi => h.step hi) inputs s
    (accounted_of_fresh hlog hpeers) hsole).nodup

/-! ## Two ends of one handshake -/

open Edge in
/-- Nodes 1 and 2, in one room, know each other and complete a handshake. -/
def handshakeRun : List (Bool × EdgeInput) :=
  [(false, enterRoom), (true, enterRoom), (false, announce 2), (true, announce 1), (false, punch),
    (true, receiveFirst), (false, receiveAnswer)]

/-- Nodes 1 and 2 right after their start. -/
def pair : Fleet Bool where
  edges := fun b => if b then Edge.sample 2 else Edge.sample 1
  log := []

/-- Only node 1 sends: its two frames have different nonces. -/
theorem nonce_uniqueness_one_sender :
    ((run (step .transparent) pair (handshakeRun ++ [(false, Edge.sendPacket),
      (false, Edge.sendPacket)])).log.map fun enc => (enc.key, enc.nonce)).Nodup :=
  nonce_uniqueness .transparent pair rfl (fun a => by cases a <;> rfl) _ (by decide)

/-- **Both ends use nonce 1.**  Each node sends one frame, and both are encrypted with nonce 1
under the key they share. -/
theorem both_ends_use_nonce_one :
    let log := (run (step .transparent) pair (handshakeRun ++ [(false, Edge.sendPacket),
      (true, Edge.sendPacket)])).log
    log.map (fun enc => (enc.edge, enc.key, enc.nonce)) =
      [(false, .fill 32 5, 1), (true, .fill 32 5, 1)] ∧
    ¬ (log.map fun enc => (enc.key, enc.nonce)).Nodup := by
  decide

end Fleet

end R2N
