import R2N.Edge.Authentication

/-!
# Key agreement between two edges

Two edges exchange handshake frames over a network that may lose, duplicate, delay and reorder
them: whatever an edge has ever sent may be delivered to the other one, any number of times or
never.  A punch request may reach either edge at any time.

* `Link`, `Link.step` — the two edges and what they have sent.
* `Link.OneInitiation` — the condition on a punch that sends a message: nothing has been sent
  before, or both edges have their ciphers.
* `Link.Single` — all messages belong to one transcript, and every cipher has its key.
* `Link.Agreeing.step` — what a step preserves.
* **`Link.key_agreement`** — two ciphers of the two edges for each other have one key.
* **`Link.simultaneous_open_disagrees`** — a punch at both edges leads to two keys.
-/

namespace R2N

open Run

namespace Edge

lemma view_of_readable {N : Noise} {e : Edge} {payload : Bytes} {t : Transcript}
    (h : e.readable N payload = some t) : N.view payload = some (.first t) := by
  unfold readable at h
  split at h
  · rename_i t' hview
    split_ifs at h
    obtain rfl := Option.some.inj h
    exact hview
  · cases h

/-- Only a first message is answered. -/
lemma response_eq_some {N : Noise} {e : Edge} {st : PeerState} {payload : Bytes} {io : EdgeIo}
    (hst : ∀ s, st.handshake = some s → ∃ t, s = .awaiting t) {reply : Bytes}
    (h : (e.readHandshake N st payload io).response = some reply) :
    ∃ t, N.view payload = some (.first t) ∧ reply = N.secondBytes io.ephemeral t [] := by
  unfold readHandshake at h
  cases hs : st.handshake with
  | some s =>
      obtain ⟨t, rfl⟩ := hst s hs
      simp only [hs, readAsInitiator_awaiting] at h
      split at h <;> cases h
  | none =>
      simp only [hs, readAsResponder_eq] at h
      split at h
      · rename_i t hread
        exact ⟨t, view_of_readable hread, (Option.some.inj h).symm⟩
      · cases h

end Edge

/-- Two edges, and the control frames each has sent, oldest first. -/
structure Link where
  edge : Bool → Edge
  sent : Bool → List ControlFrame

inductive LinkInput where
  /-- The supernode asks an edge to punch to the other one. -/
  | punch (side : Bool) (candidates : List Candidate) (addr : SocketAddr) (io : EdgeIo)
  /-- An edge gets the `n`-th frame of the other one. -/
  | deliver (side : Bool) (n : ℕ) (addr : SocketAddr) (io : EdgeIo)

namespace Link

/-- What an edge knows of the other one. -/
def entry (s : Link) (side : Bool) : Option PeerState :=
  (s.edge side).peers.lookup (s.edge !side).nodeId

/-- The cipher an edge holds for the other one. -/
def cipher (s : Link) (side : Bool) : Option Cipher := (s.entry side).bind PeerState.cipher

/-- An edge handles a control frame. -/
def act (N : Noise) (s : Link) (side : Bool) (frame : ControlFrame) (addr : SocketAddr)
    (io : EdgeIo) : Link :=
  let out := (s.edge side).handleControl N frame addr io
  { edge := Function.update s.edge side out.edge
    sent := Function.update s.sent side (s.sent side ++ out.frames.map Prod.fst) }

def step (N : Noise) (s : Link) : LinkInput → Link
  | .punch side candidates addr io =>
      s.act N side (.punchRequest (s.edge !side).nodeId candidates) addr io
  | .deliver side n addr io =>
      match (s.sent !side)[n]? with
      | some frame => s.act N side frame addr io
      | none => s

/-- A punch either sends nothing, for want of a candidate pair, or comes before every message, or
after both edges have their ciphers. -/
def OneInitiation (s : Link) : LinkInput → Prop
  | .punch side candidates _ _ =>
      selectedPairs (s.edge side).advertisedCandidates candidates = [] ∨
      (∀ b, s.sent b = []) ∨ ∀ b, (s.cipher b).isSome = true
  | .deliver _ _ _ _ => True

instance (s : Link) : ∀ i, Decidable (s.OneInitiation i)
  | .punch _ _ _ _ => inferInstanceAs (Decidable (_ ∨ _ ∨ _))
  | .deliver _ _ _ _ => isTrue trivial

/-! ## The invariant -/

/-- The key an edge will install is the one that the message of its pending session encloses. -/
def PendingKey (st : PeerState) : Prop :=
  ∀ session, st.handshake = some session →
    ∃ t key, session = .awaiting t ∧ st.pendingSessionKey = some key ∧ t.payload = key.toList

/-- Frames are handshake frames of their sender, and pending sessions have their keys. -/
structure Bound (s : Link) : Prop where
  sender : ∀ b, ∀ frame ∈ s.sent b, ∃ payload, frame = .handshake (s.edge b).nodeId payload
  pending : ∀ b st, s.entry b = some st → PendingKey st

/-- Edge `a` has initiated once, with transcript `t`: it has sent nothing else, the other edge has
sent nothing but answers, and every cipher has the enclosed key. -/
structure Single (N : Noise) (s : Link) (a : Bool) (t : Transcript) (key : Key) : Prop where
  payload : t.payload = key.toList
  first : ∀ id m, .handshake id m ∈ s.sent a → N.view m = some (.first t)
  second : ∀ id m, .handshake id m ∈ s.sent (!a) → ∃ p, N.view m = some (.second t p)
  cipher : ∀ b c, s.cipher b = some c → c.key = key

structure Agreeing (N : Noise) (s : Link) : Prop where
  bound : s.Bound
  quiet : (∀ b, s.sent b = []) → ∀ b, s.cipher b = none
  keys : (∃ a t key, s.Single N a t key) ∨
    ∃ key, ∀ b, (s.cipher b).map Cipher.key = some key

/-! ## What a step changes -/

/-- Only one edge changes: its entry of the other one becomes `st'`, and it sends `frames`. -/
structure Effect (s s' : Link) (side : Bool) (st' : Option PeerState)
    (frames : List ControlFrame) : Prop where
  nodeId : ∀ b, (s'.edge b).nodeId = (s.edge b).nodeId
  entry : s'.entry side = st'
  entry_other : s'.entry (!side) = s.entry (!side)
  sent : s'.sent side = s.sent side ++ frames
  sent_other : s'.sent (!side) = s.sent (!side)

lemma act_effect {N : Noise} {s : Link} {side : Bool} {frame : ControlFrame} {addr : SocketAddr}
    {io : EdgeIo} {st' : Option PeerState} {frames : List ControlFrame} {out : EdgeOutcome}
    (hout : (s.edge side).handleControl N frame addr io = out)
    (hentry : out.edge.peers.lookup (s.edge !side).nodeId = st')
    (hframes : out.frames.map Prod.fst = frames) :
    Effect s (s.act N side frame addr io) side st' frames := by
  subst hout hentry hframes
  have hid := Edge.handleControl_nodeId N (s.edge side) frame addr io
  have hself : (s.act N side frame addr io).edge side =
      ((s.edge side).handleControl N frame addr io).edge := Function.update_self _ _ _
  have hother : (s.act N side frame addr io).edge (!side) = s.edge (!side) :=
    Function.update_of_ne (by simp) _ _
  constructor
  · intro b
    rcases Bool.eq_or_eq_not b side with rfl | rfl
    · rw [hself, hid]
    · rw [hother]
  · rw [entry, hself, hother]
  · rw [entry, entry, hother, Bool.not_not, hself, hid]
  · exact Function.update_self _ _ _
  · exact Function.update_of_ne (by simp) _ _

/-- A punch: a new session, and its first message to every selected pair. -/
lemma punch_effect (N : Noise) (s : Link) (side : Bool) (candidates : List Candidate)
    (addr : SocketAddr) (io : EdgeIo) :
    Effect s (s.step N (.punch side candidates addr io)) side
      ((s.entry side).map fun st =>
        { st with
          candidates
          handshake := some (.awaiting ((s.edge side).punchTranscript N st io))
          pendingSessionKey := some io.sessionKey })
      (match s.entry side with
      | some st => ((s.edge side).punchBurst
          (N.firstBytes ((s.edge side).punchTranscript N st io)) candidates).map Prod.fst
      | none => []) := by
  cases hst : s.entry side with
  | none => exact act_effect (Edge.handlePunchRequest_unknown N hst candidates io) hst rfl
  | some st =>
      obtain ⟨dataplane, -, hout⟩ := Edge.handlePunchRequest_known N hst candidates io
      exact act_effect hout (AList.lookup_insert _) rfl

/-- A handshake frame of the other edge: its entry, and the answer. -/
lemma deliver_effect (N : Noise) (s : Link) (side : Bool) (payload : Bytes) (addr : SocketAddr)
    (io : EdgeIo) :
    Effect s (s.act N side (.handshake (s.edge !side).nodeId payload) addr io) side
      ((s.entry side).map fun st => (s.edge side).afterHandshake N st payload addr io)
      (match s.entry side with
      | some st => ((s.edge side).readHandshake N st payload io).response.toList.map
          (.handshake (s.edge side).nodeId)
      | none => []) := by
  cases hst : s.entry side with
  | none => exact act_effect (Edge.handleHandshake_unknown N hst payload addr io) hst rfl
  | some st =>
      obtain ⟨hpeers, hframes, -, -⟩ := Edge.handleHandshake_known N hst payload addr io
      refine act_effect rfl ?_ ?_
      · exact (congrArg _ hpeers).trans (AList.lookup_insert _)
      · exact (congrArg _ hframes).trans (List.map_map ..)

/-! ## What a step preserves -/

section Effects

variable {s s' : Link} {side : Bool} {st' : Option PeerState} {frames : List ControlFrame}

lemma Effect.cipher_self (he : Effect s s' side st' frames) :
    s'.cipher side = st'.bind PeerState.cipher := by
  rw [cipher, he.entry]

lemma Effect.cipher_other (he : Effect s s' side st' frames) :
    s'.cipher (!side) = s.cipher (!side) := by
  rw [cipher, cipher, he.entry_other]

lemma Effect.bound (he : Effect s s' side st' frames) (h : s.Bound)
    (hframes : ∀ frame ∈ frames, ∃ payload, frame = .handshake (s.edge side).nodeId payload)
    (hst' : ∀ st, st' = some st → PendingKey st) : s'.Bound where
  sender := by
    intro b frame hframe
    rw [he.nodeId]
    rcases Bool.eq_or_eq_not b side with rfl | rfl
    · rw [he.sent] at hframe
      exact (List.mem_append.mp hframe).elim (h.sender b frame) (hframes frame)
    · rw [he.sent_other] at hframe
      exact h.sender _ frame hframe
  pending := by
    intro b st hst
    rcases Bool.eq_or_eq_not b side with rfl | rfl
    · exact hst' st (he.entry ▸ hst)
    · exact h.pending _ st (he.entry_other ▸ hst)

/-- Nothing is unsent. -/
lemma Effect.sent_eq_nil (he : Effect s s' side st' frames) (h : ∀ b, s'.sent b = []) (b : Bool) :
    s.sent b = [] := by
  rcases Bool.eq_or_eq_not b side with rfl | rfl
  · exact (List.append_eq_nil_iff.mp (he.sent ▸ h b)).1
  · exact he.sent_other ▸ h _

end Effects

/-- A punch leaves the ciphers alone. -/
lemma punch_cipher (N : Noise) (s : Link) (side : Bool) (candidates : List Candidate)
    (addr : SocketAddr) (io : EdgeIo) (b : Bool) :
    (s.step N (.punch side candidates addr io)).cipher b = s.cipher b := by
  have he := punch_effect N s side candidates addr io
  rcases Bool.eq_or_eq_not b side with rfl | rfl
  · rw [he.cipher_self, cipher]
    cases s.entry b <;> rfl
  · exact he.cipher_other

/-- The frames of a punch all carry the first message of the new session. -/
lemma mem_punchBurst {e : Edge} {message : Bytes} {candidates : List Candidate}
    {frame : ControlFrame} (h : frame ∈ (e.punchBurst message candidates).map Prod.fst) :
    frame = .handshake e.nodeId message := by
  obtain ⟨⟨frame', addr⟩, hmem, rfl⟩ := List.mem_map.mp h
  unfold Edge.punchBurst at hmem
  obtain ⟨l, hl, hmem⟩ := List.mem_flatten.mp hmem
  obtain ⟨-, rfl⟩ := List.mem_replicate.mp hl
  obtain ⟨pair, -, heq⟩ := List.mem_map.mp hmem
  exact (Prod.mk.inj heq).1.symm

/-- **A punch** under the condition. -/
lemma Agreeing.punch {N : Noise} (hN : N.Ideal) {s : Link} (h : s.Agreeing N) {side : Bool}
    {candidates : List Candidate} {addr : SocketAddr} {io : EdgeIo}
    (hone : s.OneInitiation (.punch side candidates addr io)) :
    (s.step N (.punch side candidates addr io)).Agreeing N := by
  have he := punch_effect N s side candidates addr io
  have hcipher := punch_cipher N s side candidates addr io
  set s' := s.step N (.punch side candidates addr io)
  refine ⟨he.bound h.bound ?_ ?_, fun hsent b => ?_, ?_⟩
  · intro frame hframe
    cases hst : s.entry side with
    | none => simp [hst] at hframe
    | some st =>
        rw [hst] at hframe
        exact ⟨_, mem_punchBurst hframe⟩
  · intro st hst session hsession
    obtain ⟨st₀, -, rfl⟩ := Option.map_eq_some_iff.mp hst
    exact ⟨_, io.sessionKey, (Option.some.inj hsession).symm, rfl, rfl⟩
  · rw [hcipher]
    exact h.quiet (he.sent_eq_nil hsent) b
  · rcases hone with hpairs | hquiet | hboth
    · -- nothing is sent
      have hsent : ∀ b, s'.sent b = s.sent b := by
        intro b
        rcases Bool.eq_or_eq_not b side with rfl | rfl
        · rw [he.sent]
          cases s.entry b <;> simp [Edge.punchBurst, hpairs]
        · exact he.sent_other
      rcases h.keys with ⟨a, t, key, hs⟩ | ⟨key, hkey⟩
      · refine .inl ⟨a, t, key, hs.payload, ?_, ?_, ?_⟩
        · simpa only [hsent] using hs.first
        · simpa only [hsent] using hs.second
        · simpa only [hcipher] using hs.cipher
      · exact .inr ⟨key, by simpa only [hcipher] using hkey⟩
    · -- the first message of the link
      have hnone := h.quiet hquiet
      cases hst : s.entry side with
      | none =>
          refine .inl ⟨side, ⟨io.ephemeral, io.ephemeral, io.ephemeral, io.sessionKey.toList⟩,
            io.sessionKey, rfl, ?_, ?_, ?_⟩
          · simp [he.sent, hquiet, hst]
          · simp [he.sent_other, hquiet]
          · simp [hcipher, hnone]
      | some st =>
          refine .inl ⟨side, (s.edge side).punchTranscript N st io, io.sessionKey, rfl, ?_, ?_, ?_⟩
          · intro id m hm
            rw [he.sent, hquiet, List.nil_append, hst] at hm
            obtain ⟨-, rfl⟩ := ControlFrame.handshake.inj (mem_punchBurst hm)
            exact hN.view_first _
          · simp [he.sent_other, hquiet]
          · simp [hcipher, hnone]
    · -- both edges have their ciphers
      right
      rcases h.keys with ⟨a, t, key, hs⟩ | ⟨key, hkey⟩
      · refine ⟨key, fun b => ?_⟩
        obtain ⟨c, hc⟩ := Option.isSome_iff_exists.mp (hboth b)
        rw [hcipher, hc, Option.map_some, hs.cipher b c hc]
      · exact ⟨key, by simpa only [hcipher] using hkey⟩

lemma enclosedKey_toList (key : Key) : Edge.enclosedKey key.toList = some key := by
  have hlen : key.toList.length = 32 := key.toList_length
  rw [Edge.enclosedKey, if_pos hlen.ge, List.take_of_length_le hlen.le, ByteArr.ofBytes_toList]

section Deliver

variable {N : Noise} {s : Link} {side a : Bool} {t : Transcript} {key : Key} {m : Bytes}
  {st : PeerState} {addr : SocketAddr} {io : EdgeIo}

lemma PendingKey.awaiting (h : PendingKey st) :
    ∀ session, st.handshake = some session → ∃ t, session = .awaiting t := fun session hs =>
  (h session hs).imp fun _ ⟨_, ht, _⟩ => ht

/-- A cipher that is there stays; one that is installed has the key of the one transcript. -/
lemma Single.cipher_afterHandshake (hs : s.Single N a t key) (hst : s.entry side = some st)
    (hpending : PendingKey st) {id : NodeId} (hmem : .handshake id m ∈ s.sent (!side)) {c : Cipher}
    (hc : ((s.edge side).afterHandshake N st m addr io).cipher = some c) : c.key = key := by
  rw [Edge.afterHandshake_cipher] at hc
  cases hins : ((s.edge side).readHandshake N st m io).install st.cipher with
  | none =>
      simp only [hins] at hc
      exact hs.cipher side c (by rw [Link.cipher, hst]; exact hc)
  | some ks =>
      obtain ⟨key', session⟩ := ks
      obtain rfl : Cipher.new key' = c := by simpa [hins] using hc
      change key' = key
      obtain ⟨-, ⟨t', p, hslot, hview, hkey', -⟩ | ⟨t', -, hread, hkey', -⟩⟩ :=
        Edge.install_cases hpending.awaiting hins
      · -- the initiator: the answer is to the one transcript, and so is the pending key
        rcases Bool.eq_or_eq_not side a with rfl | rfl
        · obtain ⟨p', hview'⟩ := hs.second id m hmem
          obtain ⟨rfl, -⟩ : t' = t ∧ p = p' := by simpa [hview] using hview'
          obtain ⟨t₀, key₀, ht₀, hkey₀, hpayload⟩ := hpending _ hslot
          obtain rfl : t' = t₀ := by simpa using ht₀
          obtain rfl : key' = key₀ := by simpa [hkey'] using hkey₀
          exact List.Vector.toList_injective (hpayload.symm.trans hs.payload)
        · have hview' := hs.first id m (by simpa using hmem)
          simp [hview] at hview'
      · -- the responder: the first message is the one of the transcript
        have hview := Edge.view_of_readable hread
        rcases Bool.eq_or_eq_not side a with rfl | rfl
        · obtain ⟨p', hview'⟩ := hs.second id m hmem
          simp [hview] at hview'
        · have hview' := hs.first id m (by simpa using hmem)
          obtain rfl : t' = t := by simpa [hview] using hview'
          rw [hs.payload, enclosedKey_toList] at hkey'
          exact (Option.some.inj hkey').symm

/-- The frames after a delivery still belong to the one transcript. -/
lemma Single.deliver (hN : N.Ideal) (hs : s.Single N a t key) (hbound : s.Bound) {id : NodeId}
    (hmem : .handshake id m ∈ s.sent (!side)) {s' : Link}
    (he : Effect s s' side
      ((s.entry side).map fun st => (s.edge side).afterHandshake N st m addr io)
      (match s.entry side with
      | some st => ((s.edge side).readHandshake N st m io).response.toList.map
          (.handshake (s.edge side).nodeId)
      | none => [])) : s'.Single N a t key := by
  -- whatever is sent answers a first message among those the other edge has sent
  have hanswer : ∀ id' m', .handshake id' m' ∈ s'.sent side → .handshake id' m' ∉ s.sent side →
      ∃ t', N.view m = some (.first t') ∧ N.view m' = some (.second t' []) := by
    intro id' m' hm' hnew
    rw [he.sent] at hm'
    have hm' := (List.mem_append.mp hm').resolve_left hnew
    cases hst : s.entry side with
    | none => simp [hst] at hm'
    | some st =>
        simp only [hst, List.mem_map, Option.mem_toList] at hm'
        obtain ⟨reply, hreply, heq⟩ := hm'
        obtain ⟨-, rfl⟩ := ControlFrame.handshake.inj heq
        obtain ⟨t', hview, rfl⟩ :=
          Edge.response_eq_some (hbound.pending side st hst).awaiting hreply
        exact ⟨t', hview, hN.view_second _ _ _⟩
  refine ⟨hs.payload, fun id' m' hm' => ?_, fun id' m' hm' => ?_, fun b c hc => ?_⟩
  · rcases Bool.eq_or_eq_not side a with rfl | rfl
    · by_contra hne
      obtain ⟨t', hview, -⟩ := hanswer id' m' hm' fun hold => hne (hs.first id' m' hold)
      obtain ⟨p, hview'⟩ := hs.second id m hmem
      simp [hview] at hview'
    · have hsent := he.sent_other
      rw [Bool.not_not] at hsent
      exact hs.first id' m' (hsent ▸ hm')
  · rcases Bool.eq_or_eq_not side a with rfl | rfl
    · exact hs.second id' m' (he.sent_other ▸ hm')
    · by_contra hne
      obtain ⟨t', hview, hview'⟩ := hanswer id' m' hm' fun hold => hne (hs.second id' m' hold)
      have hfirst := hs.first id m (by simpa using hmem)
      obtain rfl : t' = t := by simpa [hview] using hfirst
      exact hne ⟨[], hview'⟩
  · rcases Bool.eq_or_eq_not b side with rfl | rfl
    · rw [he.cipher_self] at hc
      obtain ⟨st', hst', hc⟩ := Option.bind_eq_some_iff.mp hc
      obtain ⟨st, hst, rfl⟩ := Option.map_eq_some_iff.mp hst'
      exact hs.cipher_afterHandshake hst (hbound.pending b st hst) hmem hc
    · exact hs.cipher _ c (he.cipher_other ▸ hc)

end Deliver

/-- **A delivery** needs no condition. -/
lemma Agreeing.deliver {N : Noise} (hN : N.Ideal) {s : Link} (h : s.Agreeing N) (side : Bool)
    {m : Bytes} (hmem : .handshake (s.edge !side).nodeId m ∈ s.sent (!side)) (addr : SocketAddr)
    (io : EdgeIo) :
    (s.act N side (.handshake (s.edge !side).nodeId m) addr io).Agreeing N := by
  have he := deliver_effect N s side m addr io
  refine ⟨he.bound h.bound ?_ ?_, fun hsent => ?_, ?_⟩
  · intro frame hframe
    cases hst : s.entry side with
    | none => simp [hst] at hframe
    | some st =>
        simp only [hst, List.mem_map] at hframe
        obtain ⟨reply, -, rfl⟩ := hframe
        exact ⟨reply, rfl⟩
  · -- no session survives a frame
    intro st' hst' session hsession
    obtain ⟨st, hst, rfl⟩ := Option.map_eq_some_iff.mp hst'
    rw [Edge.afterHandshake_handshake,
      Edge.readHandshake_slot (h.bound.pending side st hst).awaiting] at hsession
    cases hsession
  · rw [he.sent_eq_nil hsent] at hmem
    cases hmem
  · rcases h.keys with ⟨a, t, key, hs⟩ | ⟨key, hkey⟩
    · exact .inl ⟨a, t, key, hs.deliver hN h.bound hmem he⟩
    · refine .inr ⟨key, fun b => ?_⟩
      rcases Bool.eq_or_eq_not b side with rfl | rfl
      · obtain ⟨c, hc, hckey⟩ := Option.map_eq_some_iff.mp (hkey b)
        obtain ⟨st, hst, hstc⟩ := Option.bind_eq_some_iff.mp hc
        have hins : ((s.edge b).readHandshake N st m io).install st.cipher = none := by
          unfold Edge.HandshakeStep.install
          rw [hstc]
          split
          · rename_i hcipher
            cases hcipher
          · rfl
        rw [he.cipher_self, hst, Option.map_some, Option.bind_some, Edge.afterHandshake_cipher,
          hins]
        simp [hstc, hckey]
      · rw [he.cipher_other]
        exact hkey _

lemma Agreeing.step {N : Noise} (hN : N.Ideal) {s : Link} (h : s.Agreeing N) {i : LinkInput}
    (hone : s.OneInitiation i) : (s.step N i).Agreeing N := by
  cases i with
  | punch side candidates addr io => exact h.punch hN hone
  | deliver side n addr io =>
      simp only [Link.step]
      cases hn : (s.sent !side)[n]? with
      | none => exact h
      | some frame =>
          have hmem := List.mem_of_getElem? hn
          obtain ⟨m, rfl⟩ := h.bound.sender _ frame hmem
          exact h.deliver hN side hmem addr io

/-! ## Every run -/

lemma agreeing_of_fresh (N : Noise) {s : Link} (hsent : ∀ b, s.sent b = [])
    (hfresh : ∀ b st, s.entry b = some st → st.handshake = none ∧ st.cipher = none) :
    s.Agreeing N := by
  have hnone : ∀ b, s.cipher b = none := by
    intro b
    rw [cipher]
    cases hst : s.entry b with
    | none => rfl
    | some st => exact (hfresh b st hst).2
  let t : Transcript := ⟨.fill 32 0, .fill 32 0, .fill 32 0, (ByteArr.fill 32 0).toList⟩
  refine ⟨⟨?_, ?_⟩, fun _ => hnone, .inl ⟨false, t, .fill 32 0, rfl, ?_, ?_, ?_⟩⟩
  · simp [hsent]
  · intro b st hst session hsession
    rw [(hfresh b st hst).1] at hsession
    cases hsession
  · simp [hsent]
  · simp [hsent]
  · simp [hnone]

/-- **Key agreement.**  Two edges start without a cipher or a session for each other.  As long as a
punch that sends a message is the first of the link, or comes when both edges have their ciphers,
two ciphers of the edges for each other have the same key, whatever the network does with their
frames. -/
theorem key_agreement (N : Noise) (hN : N.Ideal) (s : Link) (hsent : ∀ b, s.sent b = [])
    (hfresh : ∀ b st, s.entry b = some st → st.handshake = none ∧ st.cipher = none)
    (inputs : List LinkInput) (hone : Along (step N) OneInitiation s inputs) (c₀ c₁ : Cipher)
    (h₀ : (run (step N) s inputs).cipher false = some c₀)
    (h₁ : (run (step N) s inputs).cipher true = some c₁) : c₀.key = c₁.key := by
  have hend := invariant (I := Agreeing N) (fun _ _ h hi => h.step hN hi) inputs s
    (agreeing_of_fresh N hsent hfresh) hone
  rcases hend.keys with ⟨a, t, key, hs⟩ | ⟨key, hkey⟩
  · rw [hs.cipher false c₀ h₀, hs.cipher true c₁ h₁]
  · have hkey₀ := hkey false
    have hkey₁ := hkey true
    rw [h₀] at hkey₀
    rw [h₁] at hkey₁
    exact Option.some.inj (hkey₀.trans hkey₁.symm)

/-- Nodes 1 and 2 know each other. -/
def acquainted : Link where
  edge := fun b =>
    if b then (Edge.sample 2).step .transparent (Edge.announce 1)
    else (Edge.sample 1).step .transparent (Edge.announce 2)
  sent := fun _ => []

lemma acquainted_fresh (b : Bool) (st : PeerState) (h : acquainted.entry b = some st) :
    st.handshake = none ∧ st.cipher = none := by
  cases b with
  | false =>
      obtain rfl := Option.some.inj h
      exact ⟨rfl, rfl⟩
  | true =>
      obtain rfl := Option.some.inj h
      exact ⟨rfl, rfl⟩

/-- Node 1 alone initiates; its message is lost, delivered and duplicated, and so is the answer. -/
def onePunch : List LinkInput :=
  [.punch false [Edge.sampleCandidate 2] (.localhost 9) (Edge.sampleIo 5 8),
    .deliver true 3 (.localhost 1) (Edge.sampleIo 6 9),
    .deliver true 0 (.localhost 1) (Edge.sampleIo 6 10),
    .deliver false 1 (.localhost 2) (Edge.sampleIo 6 9),
    .deliver false 0 (.localhost 2) (Edge.sampleIo 6 9)]

/-- Both end up with the key of node 1. -/
theorem key_agreement_one_punch :
    (run (step .transparent) acquainted onePunch).cipher false = some (.new (.fill 32 5)) ∧
    (run (step .transparent) acquainted onePunch).cipher true = some (.new (.fill 32 5)) ∧
    (Cipher.new (.fill 32 5)).key = (Cipher.new (.fill 32 5)).key :=
  ⟨by decide, by decide, key_agreement .transparent Noise.transparent_ideal acquainted
    (fun _ => rfl) acquainted_fresh onePunch (by decide) _ _ (by decide) (by decide)⟩

/-- Both nodes are asked to punch.  Each gets the other's message while its own session is pending,
which ends the session, and takes the retransmission for the start of a handshake. -/
def simultaneousOpen : List LinkInput :=
  [.punch false [Edge.sampleCandidate 2] (.localhost 9) (Edge.sampleIo 5 8),
    .punch true [Edge.sampleCandidate 1] (.localhost 9) (Edge.sampleIo 6 9),
    .deliver true 0 (.localhost 1) (Edge.sampleIo 0 10),
    .deliver false 0 (.localhost 2) (Edge.sampleIo 0 11),
    .deliver true 1 (.localhost 1) (Edge.sampleIo 0 12),
    .deliver false 1 (.localhost 2) (Edge.sampleIo 0 13)]

/-- **Simultaneous open**: each node ends up with the key the other one chose. -/
theorem simultaneous_open_disagrees :
    ∃ c₀ c₁, (run (step .transparent) acquainted simultaneousOpen).cipher false = some c₀ ∧
      (run (step .transparent) acquainted simultaneousOpen).cipher true = some c₁ ∧
      c₀.key ≠ c₁.key :=
  ⟨.new (.fill 32 6), .new (.fill 32 5), by decide, by decide, by decide⟩

end Link

end R2N
