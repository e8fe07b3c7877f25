import R2N.Dataplane.Pipeline

/-!
# What a refused frame leaves behind

A frame whose sender is unknown, or that fails the peer's cipher, is refused — but only after its
header has been validated, and the validation of a flood frame already records its origin and
packet id as seen.  Whoever can guess the next packet id of a node can so have the node's own
frame dropped.

* `SeenFloodPackets.Settled` — nothing in the store is due for removal.
* **`insertIfNew_eq_self_iff`** — when a header leaves the store as it was.
* **`refused_noTrace_iff`** — when a refused frame leaves the plane as it was.
-/

namespace R2N

/-! ## The store of seen packets -/

namespace SeenFloodPackets

/-- Nothing in the store is due for removal. -/
def Settled (s : SeenFloodPackets) (now : Instant) : Prop :=
  s.order.length ≤ seenFloodCapacity ∧ ∀ e ∈ s.order.head?, now - e.2.2 ≤ seenFloodWindow

lemma pruneCapacity_of_le {order : List (NodeId × PacketId × Instant)}
    (h : order.length ≤ seenFloodCapacity) (set : Finset (NodeId × PacketId)) :
    pruneCapacity order set = { order, set } := by
  cases order with
  | nil => rfl
  | cons e rest => rw [pruneCapacity, if_neg (by omega)]

/-- What the first loop leaves is short enough. -/
lemma length_pruneCapacity_le (order : List (NodeId × PacketId × Instant))
    (set : Finset (NodeId × PacketId)) :
    (pruneCapacity order set).order.length ≤ seenFloodCapacity := by
  induction order generalizing set with
  | nil => simp [pruneCapacity]
  | cons e rest ih =>
      rw [pruneCapacity]
      split_ifs with hlong
      · exact ih (set.erase (e.1, e.2.1))
      · exact Nat.not_lt.mp hlong

lemma pruneAge_of_fresh {now : Instant} {order : List (NodeId × PacketId × Instant)}
    (h : ∀ e ∈ order.head?, now - e.2.2 ≤ seenFloodWindow) (set : Finset (NodeId × PacketId)) :
    pruneAge now order set = { order, set } := by
  cases order with
  | nil => rfl
  | cons e rest => rw [pruneAge, if_pos (h e rfl)]

/-- What the second loop leaves begins with a fresh entry, and is as long as before only if it is
what was there before. -/
lemma pruneAge_spec (now : Instant) (order : List (NodeId × PacketId × Instant))
    (set : Finset (NodeId × PacketId)) :
    (∀ e ∈ (pruneAge now order set).order.head?, now - e.2.2 ≤ seenFloodWindow) ∧
      ((pruneAge now order set).order.length < order.length ∨
        pruneAge now order set = { order, set }) := by
  induction order generalizing set with
  | nil => simp [pruneAge]
  | cons e rest ih =>
      rw [pruneAge]
      split_ifs with hfresh
      · refine ⟨?_, .inr rfl⟩
        simp only [List.head?_cons, Option.mem_some_iff]
        rintro _ rfl
        exact hfresh
      · obtain ⟨hhead, hlen⟩ := ih (set.erase (e.1, e.2.1))
        refine ⟨hhead, .inl ?_⟩
        rcases hlen with hlen | heq
        · simp only [List.length_cons]
          omega
        · simp [heq]

lemma prune_of_settled {s : SeenFloodPackets} {now : Instant} (h : s.Settled now) :
    s.prune now = s := by
  simp only [prune, pruneCapacity_of_le h.1]
  exact pruneAge_of_fresh h.2 s.set

lemma settled_prune (s : SeenFloodPackets) (now : Instant) : (s.prune now).Settled now := by
  have hcapacity := length_pruneCapacity_le s.order s.set
  obtain ⟨hhead, hlen⟩ := pruneAge_spec now (pruneCapacity s.order s.set).order
    (pruneCapacity s.order s.set).set
  refine ⟨?_, hhead⟩
  rcases hlen with hlt | heq
  · exact hlt.le.trans hcapacity
  · simpa only [prune, heq] using hcapacity

lemma eq_replicate_of_cons_eq {α : Type*} {x e : α} {l : List α} (h : x :: l = l ++ [e]) :
    x :: l = List.replicate (l.length + 1) e := by
  induction l generalizing x with
  | nil => simpa using h
  | cons y l ih =>
      obtain ⟨rfl, htail⟩ := List.cons.inj h
      have hrest : x :: l = List.replicate (l.length + 1) e := ih htail
      have hx : x = e := (List.cons.inj (hrest.trans List.replicate_succ)).1
      rw [List.length_cons, List.replicate_succ, ← hrest, hx]

/-- The store with one more entry, before it is pruned. -/
def record (s : SeenFloodPackets) (now : Instant) (origin : NodeId) (packetId : PacketId) :
    SeenFloodPackets :=
  { order := s.order ++ [(origin, packetId, now)], set := insert (origin, packetId) s.set }

section Record

variable {s : SeenFloodPackets} {now : Instant} {origin : NodeId} {packetId : PacketId}

/-- A full store makes room for the new entry. -/
lemma prune_record_of_full {x : NodeId × PacketId × Instant}
    {rest : List (NodeId × PacketId × Instant)} (horder : s.order = x :: rest)
    (hfull : s.order.length = seenFloodCapacity) :
    (s.record now origin packetId).prune now =
      pruneAge now (rest ++ [(origin, packetId, now)])
        ((insert (origin, packetId) s.set).erase (x.1, x.2.1)) := by
  have hrest : (rest ++ [(origin, packetId, now)]).length = seenFloodCapacity := by
    rw [← hfull, horder, List.length_append]
    rfl
  have hlong : (x :: (rest ++ [(origin, packetId, now)])).length > seenFloodCapacity := by
    rw [List.length_cons, hrest]
    exact Nat.lt_succ_self _
  simp only [prune, record, horder, List.cons_append]
  rw [pruneCapacity, if_pos hlong, pruneCapacity_of_le hrest.le]

/-- A store that is the same after a key was recorded is full of the recorded entry. -/
lemma full_of_recorded (h : ((s.prune now).record now origin packetId).prune now = s) :
    s.prune now = s ∧ s.order = List.replicate seenFloodCapacity (origin, packetId, now) := by
  -- the second pruning leaves a settled store, so the first one did nothing
  have hsettled : s.Settled now := h ▸ settled_prune _ now
  have hself : s.prune now = s := prune_of_settled hsettled
  rw [hself] at h
  refine ⟨hself, ?_⟩
  have hfull : s.order.length = seenFloodCapacity := by
    refine Nat.le_antisymm hsettled.1 (Nat.not_lt.mp fun hroom => ?_)
    have hrecorded : (s.record now origin packetId).Settled now := by
      refine ⟨by simpa [record, Nat.succ_le_iff] using hroom, ?_⟩
      cases horder : s.order with
      | nil => simp [record, horder]
      | cons x rest =>
          simp only [record, horder, List.cons_append, List.head?_cons]
          simpa only [horder, List.head?_cons] using hsettled.2
    have hlen := congrArg (fun t => t.order.length) (h.symm.trans (prune_of_settled hrecorded))
    simp [record] at hlen
  obtain ⟨x, rest, horder⟩ : ∃ x rest, s.order = x :: rest :=
    List.exists_cons_of_ne_nil fun hnil => by simp [hnil, seenFloodCapacity] at hfull
  rw [prune_record_of_full horder hfull] at h
  have hlen : (rest ++ [(origin, packetId, now)]).length = s.order.length := by
    rw [horder, List.length_append]
    rfl
  rcases (pruneAge_spec now (rest ++ [(origin, packetId, now)])
    ((insert (origin, packetId) s.set).erase (x.1, x.2.1))).2 with hlt | heq
  · rw [h] at hlt
    omega
  · have hcycle : x :: rest = rest ++ [(origin, packetId, now)] := by
      rw [← horder, ← h, heq]
    rw [← hfull, horder, List.length_cons]
    exact eq_replicate_of_cons_eq hcycle

lemma recorded_of_full (hmem : (origin, packetId) ∉ s.set)
    (horder : s.order = List.replicate seenFloodCapacity (origin, packetId, now)) :
    (s.record now origin packetId).prune now = s := by
  have hcons : s.order = (origin, packetId, now) ::
      List.replicate (seenFloodCapacity - 1) (origin, packetId, now) := horder
  have hfull : s.order.length = seenFloodCapacity := by
    rw [horder, List.length_replicate]
  have hcycle : List.replicate (seenFloodCapacity - 1) (origin, packetId, now) ++
      [(origin, packetId, now)] = s.order := by
    rw [horder, ← List.replicate_succ']
    rfl
  rw [prune_record_of_full hcons hfull, Finset.erase_insert hmem, hcycle]
  refine pruneAge_of_fresh ?_ s.set
  rw [hcons]
  simp

end Record

/-- **When a header leaves the store as it was**: its key is stored already and nothing is due for
removal, or — in no store that a run produces — every entry is this very one and its key is
missing. -/
theorem insertIfNew_eq_self_iff (s : SeenFloodPackets) (now : Instant) (origin : NodeId)
    (packetId : PacketId) :
    (s.insertIfNew now origin packetId).2 = s ↔
      ((origin, packetId) ∈ s.set ∧ s.Settled now) ∨
        ((origin, packetId) ∉ s.set ∧
          s.order = List.replicate seenFloodCapacity (origin, packetId, now)) := by
  constructor
  · intro h
    simp only [insertIfNew] at h
    split_ifs at h with hmem
    · have hprune : s.prune now = s := h
      rw [hprune] at hmem
      exact .inl ⟨hmem, hprune ▸ settled_prune s now⟩
    · obtain ⟨hself, hfull⟩ := full_of_recorded h
      exact .inr ⟨hself ▸ hmem, hfull⟩
  · rintro (⟨hmem, hsettled⟩ | ⟨hmem, hfull⟩)
    · simp only [insertIfNew, prune_of_settled hsettled, if_pos hmem]
    · have hsettled : s.Settled now := by
        refine ⟨by rw [hfull, List.length_replicate], ?_⟩
        rw [hfull]
        simp [seenFloodCapacity]
      simp only [insertIfNew, prune_of_settled hsettled, if_neg hmem]
      exact recorded_of_full hmem hfull

end SeenFloodPackets

/-! ## Refused frames -/

namespace DataPlane

/-- The frame is refused: its sender is no peer, or the peer has a cipher and the replay check or
the decryption fails. -/
def Refused (A : Aead) (dp : DataPlane) (h : DataHeader) (payload : Bytes) : Prop :=
  dp.peers.lookup h.srcNode = none ∨
    ∃ r c e, dp.peers.lookup h.srcNode = some r ∧ (dp.heap r).cipher = some c ∧
      (c.decryptInPlace A h.nonce (headerAad h) payload).1 = .error e

/-- The header is turned away before the store of seen packets is asked. -/
def StopsEarly (dp : DataPlane) (h : DataHeader) : Prop :=
  ∀ room, dp.roomId = some room →
    h.version ≠ protocolVersion ∨ h.roomId ≠ room ∨ h.srcNode = dp.localNodeId ∨
      h.originNode = dp.localNodeId ∨ headerIsFlood h = false ∨ h.ttl = 0 ∨ h.packetId.val = 0

/-- The frame has left nothing behind, so that what follows it fares as it would have without
it. -/
structure NoTrace (A : Aead) (dp : DataPlane) (h : DataHeader) (plane : DataPlane) : Prop where
  seenFlood : plane.seenFlood = dp.seenFlood
  macTable : plane.macTable = dp.macTable
  peers : plane.peers = dp.peers
  /-- The records hold the paths and the replay windows. -/
  records : plane.heap = dp.heap
  genuine : ∀ g now payload, g.originNode = h.originNode → g.packetId = h.packetId →
    plane.acceptedPacket A now g payload = dp.acceptedPacket A now g payload

end DataPlane

/-- A failed decryption leaves the window where it was. -/
lemma Cipher.decryptInPlace_of_error {A : Aead} {c : Cipher} {nonce : UInt64} {aad buffer : Bytes}
    {e : CryptoError} (h : (c.decryptInPlace A nonce aad buffer).1 = .error e) :
    (c.decryptInPlace A nonce aad buffer).2 = c := by
  simp only [decryptInPlace] at h ⊢
  cases hcheck : c.window.check nonce with
  | error e => rfl
  | ok u =>
      simp only [hcheck] at h ⊢
      split_ifs at h ⊢
      · rfl
      · cases hopen : A.decryptInPlaceDetached c.key (nonceBytes nonce) aad
          (buffer.take (buffer.length - aeadTagLen))
          (buffer.drop (buffer.length - aeadTagLen)) with
        | none => rfl
        | some plain => simp [hopen] at h

namespace DataPlane

lemma openPayload_of_error {A : Aead} {dp : DataPlane} {r : PeerRef} {h : DataHeader}
    {payload : Bytes} {c : Cipher} {e : CryptoError} (hcipher : (dp.heap r).cipher = some c)
    (herror : (c.decryptInPlace A h.nonce (headerAad h) payload).1 = .error e) :
    dp.openPayload A r h payload = (.error e, dp) := by
  have hcell : { dp.heap r with cipher := some c } = dp.heap r := by
    rw [← hcipher]
  simp only [openPayload, hcipher, herror, Cipher.decryptInPlace_of_error herror, setPeer, hcell,
    Function.update_eq_self]

/-- **All a refused frame does is done by the validation of its header.** -/
lemma handleIncomingFrame_of_refused {A : Aead} {dp : DataPlane} {h : DataHeader}
    {payload : Bytes} (hrefused : dp.Refused A h payload) (E : Etherparse) (macos : Bool)
    (addr : SocketAddr) (io : IncomingIo) :
    (dp.handleIncomingFrame A E macos h payload addr io).plane =
      (dp.validateIncomingHeader io.now h).2 := by
  obtain ⟨seenFlood, hseen⟩ := dp.validateIncomingHeader_plane io.now h
  simp only [handleIncomingFrame]
  generalize dp.validateIncomingHeader io.now h = val at hseen ⊢
  obtain ⟨valid, plane⟩ := val
  obtain rfl : plane = { dp with seenFlood } := hseen
  cases valid with
  | false => rfl
  | true =>
      rcases hrefused with hunknown | ⟨r, c, e, hknown, hcipher, herror⟩
      · simp only [hunknown]
        rfl
      · have hopen : openPayload A { dp with seenFlood } r h payload =
            (.error e, { dp with seenFlood }) := openPayload_of_error hcipher herror
        simp only [hknown, hopen]
        rfl

/-- What the validation of a header does to the store. -/
lemma validateIncomingHeader_seenFlood (dp : DataPlane) (now : Instant) (h : DataHeader) :
    (dp.StopsEarly h ∧ (dp.validateIncomingHeader now h).2 = dp) ∨
      (¬dp.StopsEarly h ∧ (dp.validateIncomingHeader now h).2 =
        { dp with seenFlood := (dp.seenFlood.insertIfNew now h.originNode h.packetId).2 }) := by
  cases hroom : dp.roomId with
  | none =>
      exact .inl ⟨fun room h => by simp [hroom] at h, by simp [validateIncomingHeader, hroom]⟩
  | some room =>
      by_cases hearly : h.version ≠ protocolVersion ∨ h.roomId ≠ room ∨
          h.srcNode = dp.localNodeId ∨ h.originNode = dp.localNodeId ∨
          headerIsFlood h = false ∨ h.ttl = 0 ∨ h.packetId.val = 0
      · refine .inl ⟨fun room' hroom' => ?_, ?_⟩
        · obtain rfl : room = room' := Option.some.inj (hroom.symm.trans hroom')
          exact hearly
        · simp only [validateIncomingHeader, hroom]
          split_ifs with hforeign hown hother hflood hempty
          · rfl
          · rfl
          · rfl
          · rfl
          · -- the store is asked
            exact absurd hearly (by simp_all)
          · rfl
      · refine .inr ⟨fun hstop => hearly (hstop room hroom), ?_⟩
        push Not at hearly
        obtain ⟨hversion, hroomId, hsrc, horigin, hflood, httl, hid⟩ := hearly
        simp [validateIncomingHeader, hroom, hversion, hroomId, hsrc, horigin, hflood, httl, hid]

/-- **When a refused frame leaves no trace.**  Exactly if its header is turned away before the
store of seen packets is asked, or the store knows the packet already and has nothing to remove; a
store full of this one entry without its key is the third way, which no run gets to. -/
theorem refused_noTrace_iff (A : Aead) (E : Etherparse) (macos : Bool) (dp : DataPlane)
    (h : DataHeader) (payload : Bytes) (addr : SocketAddr) (io : IncomingIo)
    (hrefused : dp.Refused A h payload) :
    dp.NoTrace A h (dp.handleIncomingFrame A E macos h payload addr io).plane ↔
      dp.StopsEarly h ∨
        ((h.originNode, h.packetId) ∈ dp.seenFlood.set ∧ dp.seenFlood.Settled io.now) ∨
        ((h.originNode, h.packetId) ∉ dp.seenFlood.set ∧ dp.seenFlood.order =
          List.replicate seenFloodCapacity (h.originNode, h.packetId, io.now)) := by
  have hself : dp.NoTrace A h dp := ⟨rfl, rfl, rfl, rfl, fun _ _ _ _ _ => rfl⟩
  rw [handleIncomingFrame_of_refused hrefused]
  rcases dp.validateIncomingHeader_seenFlood io.now h with ⟨hearly, hplane⟩ | ⟨hlate, hplane⟩
  · rw [hplane]
    exact iff_of_true hself (.inl hearly)
  · rw [hplane, ← SeenFloodPackets.insertIfNew_eq_self_iff]
    refine ⟨fun htrace => .inr htrace.seenFlood, ?_⟩
    rintro (hearly | hstore)
    · exact absurd hearly hlate
    · rw [hstore]
      exact hself

end DataPlane

/-! ## A forged frame and a genuine one -/

/-- A broadcast of node 2, with packet id 5, as `src` sends it. -/
def floodHeader (src : UInt8) : DataHeader where
  version := protocolVersion
  flags := 0
  packetType := .broadcast
  reserved := 0
  ttl := 1
  roomId := .fill 7
  srcNode := .fill src
  dstNode := .fill 1
  originNode := .fill 2
  sessionId := ⟨0⟩
  nonce := 1
  packetId := ⟨5⟩
  payloadLen := 19

/-- Three bytes and the tag of the transparent cipher. -/
def floodPayload : Bytes := [1, 2, 3] ++ List.replicate 16 0

/-- A frame that is turned away early leaves no trace: a broadcast whose packet id is zero. -/
theorem refused_noTrace_iff_zeroId :
    let h : DataHeader := { floodHeader 9 with packetId := ⟨0⟩ }
    (sessionPlane 1 2 (.new (.fill 32 9))).NoTrace .transparent h
      ((sessionPlane 1 2 (.new (.fill 32 9))).handleIncomingFrame .transparent .blind false h
        floodPayload (.localhost 9999) quietIo).plane := by
  intro h
  refine (DataPlane.refused_noTrace_iff .transparent .blind false _ h floodPayload _ quietIo
    (.inl rfl)).mpr (.inl fun room _ => ?_)
  simp [h]

/-- **A forged frame silences a genuine one.**  Node 9 is no peer of node 1; its frame in node 2's
name is refused, and after it the frame of node 2 that would have been accepted is dropped. -/
theorem forged_flood_silences :
    let dp := sessionPlane 1 2 (.new (.fill 32 9))
    let after := (dp.handleIncomingFrame .transparent .blind false (floodHeader 9) floodPayload
      (.localhost 6666) quietIo).plane
    dp.peers.lookup (floodHeader 9).srcNode = none ∧ after.seenFlood.order ≠ dp.seenFlood.order ∧
      dp.acceptedPacket .transparent 0 (floodHeader 2) floodPayload = some [1, 2, 3] ∧
      after.acceptedPacket .transparent 0 (floodHeader 2) floodPayload = none := by
  refine ⟨rfl, ?_, ?_, ?_⟩
  · decide +kernel
  · decide +kernel
  · decide +kernel

end R2N
