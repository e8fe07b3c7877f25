import R2N.Dataplane.Send
import R2N.Lib.Run
import Mathlib.Data.Multiset.AddSub

/-!
# Slots and queued descriptors

What a call of `send_to_peer` does to the two things it borrows from: the free list of the slab,
which gives it a slot, and the scheduler, which it pushes a descriptor of that slot onto and later
pops one off.

* `QosScheduler.items` — everything that is queued, in the order in which `pop` takes it;
  **`push_pop_perm_iff`** — when a push followed by a pop leaves the same items.
* `sendToPeer_buffers` — the three ways a call that gets a slot can end.
* **`send_keeps_buffers_iff`** — the calls after which both are as before.
* **`failed_sends_drain`** — every failed send costs a slot, so that as many of them as there are
  slots leave none.
-/

namespace R2N

/-! ## The queue as one list -/

namespace QosScheduler

variable {T : Type}

/-- Everything that is queued, in the order in which `pop` takes it. -/
def items (q : QosScheduler T) : List T := q.control ++ q.realtime ++ q.interactive ++ q.bulk

/-- What `pop` takes before a new item of a class. -/
def ahead (q : QosScheduler T) : TrafficClass → List T
  | .control => q.control
  | .realtime => q.control ++ q.realtime
  | .interactive => q.control ++ q.realtime ++ q.interactive
  | .bulk => q.items

/-- A push of the class drops an item: the bulk queue is full. -/
def Drops (q : QosScheduler T) (cls : TrafficClass) : Prop :=
  cls = .bulk ∧ q.bulk ≠ [] ∧ q.bulkCapacity ≤ q.bulk.length

lemma items_pop (q : QosScheduler T) : q.pop.2.items = q.items.tail := by
  obtain ⟨control, realtime, interactive, bulk, capacity⟩ := q
  cases control with
  | cons item control => rfl
  | nil =>
      cases realtime with
      | cons item realtime => rfl
      | nil =>
          cases interactive with
          | cons item interactive => rfl
          | nil => cases bulk <;> rfl

lemma items_push {q : QosScheduler T} {cls : TrafficClass} (h : ¬ q.Drops cls) (item : T) :
    ∃ behind, q.items = q.ahead cls ++ behind ∧
      (q.push cls item).items = q.ahead cls ++ item :: behind := by
  cases cls with
  | control =>
      exact ⟨q.realtime ++ q.interactive ++ q.bulk, by simp [items, ahead],
        by simp [items, ahead, push]⟩
  | realtime =>
      exact ⟨q.interactive ++ q.bulk, by simp [items, ahead], by simp [items, ahead, push]⟩
  | interactive => exact ⟨q.bulk, by simp [items, ahead], by simp [items, ahead, push]⟩
  | bulk =>
      refine ⟨[], by simp [ahead], ?_⟩
      have hkept : (if q.bulk.length ≥ q.bulkCapacity then q.bulk.tail else q.bulk) = q.bulk := by
        split_ifs with hfull
        · have hempty : q.bulk = [] := by
            by_contra hne
            exact h ⟨rfl, hne, hfull⟩
          rw [hempty, List.tail_nil]
        · rfl
      simp [items, ahead, push, hkept]

lemma length_items_push {q : QosScheduler T} {cls : TrafficClass} (h : q.Drops cls) (item : T) :
    (q.push cls item).items.length = q.items.length := by
  obtain ⟨rfl, hne, hfull⟩ := h
  have hpos : 0 < q.bulk.length := List.length_pos_iff.mpr hne
  simp only [items, push, ge_iff_le, hfull, if_true, List.length_append, List.length_tail,
    List.length_cons, List.length_nil]
  omega

/-- **Push, then pop**: the same items are queued as before exactly if nothing was dropped and
what was popped equals what was pushed. -/
lemma push_pop_perm_iff (q : QosScheduler T) (cls : TrafficClass) (item : T) :
    (q.push cls item).pop.2.items.Perm q.items ↔
      ¬ q.Drops cls ∧ ∀ first ∈ (q.ahead cls).head?, first = item := by
  rw [items_pop]
  by_cases hdrop : q.Drops cls
  · refine iff_of_false (fun hperm => ?_) (fun h => h.1 hdrop)
    have hpos : 0 < q.items.length := by
      have hbulk := List.length_pos_iff.mpr hdrop.2.1
      simp only [items, List.length_append]
      omega
    have hlen := hperm.length_eq
    rw [List.length_tail, length_items_push hdrop] at hlen
    omega
  · obtain ⟨behind, hitems, hpush⟩ := items_push hdrop item
    rw [hpush, hitems, and_iff_right hdrop]
    cases q.ahead cls with
    | nil => simp
    | cons first rest =>
        simp only [List.cons_append, List.tail_cons, List.head?_cons, Option.mem_some_iff,
          forall_eq']
        rw [← Multiset.coe_eq_coe, ← Multiset.coe_eq_coe.mpr List.perm_middle.symm,
          ← Multiset.cons_coe, ← Multiset.cons_coe, Multiset.cons_inj_left]
        exact eq_comm

end QosScheduler

namespace PacketSlab

variable {frameCap capacity : ℕ}

/-- A new slab has all its slots to give. -/
lemma available_new (frameCap capacity headroom : ℕ) :
    (new frameCap capacity headroom).available = capacity := by
  simp only [available, new, allSlots]
  rw [List.length_filterMap_eq_countP, List.countP_eq_length.mpr, List.length_range']
  intro i hi
  have hlt : i < capacity := by
    rw [List.mem_range'_1] at hi
    omega
  simp [hlt]

lemma acquire_eq_some {slab slab' : PacketSlab frameCap capacity} {desc : PacketDesc capacity}
    (h : slab.acquire = some (desc, slab')) : slab.free = desc.slot :: slab'.free := by
  unfold acquire at h
  cases hfree : slab.free with
  | nil =>
      rw [hfree] at h
      cases h
  | cons slot free =>
      rw [hfree] at h
      obtain ⟨rfl, rfl⟩ := Prod.mk.inj (Option.some.inj h)
      rfl

lemma free_release (slab : PacketSlab frameCap capacity) (desc : PacketDesc capacity) :
    (slab.release desc).free =
      if slab.free.length < capacity then slab.free ++ [desc.slot] else slab.free := by
  unfold release
  split_ifs <;> rfl

/-- A slot that came from a free list within its capacity goes back to it. -/
lemma available_release {slab slab' : PacketSlab frameCap capacity} {desc : PacketDesc capacity}
    (h : slab.acquire = some (desc, slab')) (hcap : slab.free.length ≤ capacity)
    (desc' : PacketDesc capacity) :
    (slab'.release desc').available = slab.available := by
  rw [acquire_eq_some h, List.length_cons] at hcap
  rw [available, free_release, if_pos (Nat.lt_of_succ_le hcap)]
  simp [available, acquire_eq_some h]

end PacketSlab

/-! ## Filling a slot -/

/-- The AEAD seals the payload, or there is no cipher to do it. -/
def Encrypts (A : Aead) (cipher : Option Cipher) (header : ℕ → DataHeader) (payload : Bytes) :
    Prop :=
  ∀ c ∈ cipher, (A.encryptInPlaceDetached c.key
    (nonceBytes (header (payload.length + aeadTagLen)).nonce)
    (header (payload.length + aeadTagLen)).wire payload).isSome

/-- The buffer the cipher is called on starts with the payload. -/
lemma take_drop_writeAt_slot (payload : Bytes) (slot : ByteArr defaultFrameCap) :
    ((Bytes.writeAt dataHeaderSize payload slot.toList).drop dataHeaderSize).take
      payload.length = payload := by
  rw [drop_writeAt_slot]
  exact List.take_left

/-- The length of what follows the header. -/
def bodyLen (cipher : Option Cipher) (payload : Bytes) : ℕ :=
  if cipher.isSome then payload.length + aeadTagLen else payload.length

lemma fillSlot_ok {A : Aead} {cipher : Option Cipher} {header : ℕ → DataHeader} {payload : Bytes}
    (h : Encrypts A cipher header payload) (slot : ByteArr defaultFrameCap) :
    (fillSlot A cipher header payload slot).2 = .ok (bodyLen cipher payload) := by
  cases cipher with
  | none => rfl
  | some c =>
      obtain ⟨sealed, hsealed⟩ := Option.isSome_iff_exists.mp (h c rfl)
      simp only [fillSlot, Cipher.encryptInPlace, take_drop_writeAt_slot, headerAad_eq, hsealed]
      rfl

lemma fillSlot_error {A : Aead} {cipher : Option Cipher} {header : ℕ → DataHeader}
    {payload : Bytes} (h : ¬ Encrypts A cipher header payload)
    (slot : ByteArr defaultFrameCap) :
    (fillSlot A cipher header payload slot).2 = .error .aead := by
  cases cipher with
  | none => exact absurd (fun c hc => by cases hc) h
  | some c =>
      have hnone : A.encryptInPlaceDetached c.key
          (nonceBytes (header (payload.length + aeadTagLen)).nonce)
          (header (payload.length + aeadTagLen)).wire payload = none := by
        simpa [Encrypts] using h
      simp only [fillSlot, Cipher.encryptInPlace, take_drop_writeAt_slot, headerAad_eq, hnone]

/-! ## One call -/

namespace DataPlane

section Call

variable (A : Aead) (E : Etherparse) (dp : DataPlane) (r : PeerRef) (packetType : DataPacketType)
  (payload : Bytes) (targetOverride : Option SocketAddr) (flood : Bool) (net : NetAnswer)

/-- The peer's cipher, if it has one, seals the payload. -/
def EncryptsPayload : Prop :=
  ∀ room ∈ dp.roomId, Encrypts A (dp.heap r).cipher (dp.headerFor r packetType flood room) payload

/-- The descriptor a call puts into the queue, by the slot it got. -/
def queuedDesc (slot : Fin planeSlots) : PacketDesc planeSlots where
  slot := slot
  dataOffset := 0
  payloadOffset := dataHeaderSize
  len := dataHeaderSize + bodyLen (dp.heap r).cipher payload
  cls := classifyPacket E packetType payload

/-- **What a call does to the slab and the queue.**  A call that cannot send leaves them alone.
One that can takes a slot: if the encryption fails it does nothing else, if the socket fails it has
queued the descriptor, and otherwise it pops an item and returns the slot. -/
lemma sendToPeer_buffers :
    let out := dp.sendToPeer A E r packetType payload targetOverride flood net
    let cls := classifyPacket E packetType payload
    (¬ dp.CanSend payload ∧ out.plane = dp) ∨
    (dp.CanSend payload ∧ ∃ desc slab, dp.slab.acquire = some (desc, slab) ∧
      ((¬ dp.EncryptsPayload A r packetType payload flood ∧
          out.plane.slab.free = slab.free ∧ out.plane.scheduler = dp.scheduler) ∨
        (dp.EncryptsPayload A r packetType payload flood ∧ net = .failed ∧
          out.plane.slab.free = slab.free ∧
          out.plane.scheduler =
            dp.scheduler.push cls (dp.queuedDesc E r packetType payload desc.slot)) ∨
        (dp.EncryptsPayload A r packetType payload flood ∧ net ≠ .failed ∧
          out.plane.slab.free = (slab.release desc).free ∧
          out.plane.scheduler = (dp.scheduler.push cls
            (dp.queuedDesc E r packetType payload desc.slot)).pop.2))) := by
  intro out cls
  simp only [out, cls]
  by_cases hsend : dp.CanSend payload
  · obtain ⟨hlen, hroom, hacq⟩ := id hsend
    obtain ⟨room, hroom⟩ := Option.isSome_iff_exists.mp hroom
    obtain ⟨⟨desc, slab⟩, hacq⟩ := Option.isSome_iff_exists.mp hacq
    refine .inr ⟨hsend, desc, slab, hacq, ?_⟩
    have henc : dp.EncryptsPayload A r packetType payload flood ↔
        Encrypts A (dp.heap r).cipher (dp.headerFor r packetType flood room) payload := by
      simp [EncryptsPayload, hroom]
    rw [henc]
    have hok := fun h : Encrypts A (dp.heap r).cipher (dp.headerFor r packetType flood room)
      payload => fillSlot_ok h (slab.slots desc.slot)
    have herror := fun h : ¬ Encrypts A (dp.heap r).cipher (dp.headerFor r packetType flood room)
      payload => fillSlot_error h (slab.slots desc.slot)
    have hheader : dp.headerFor r packetType flood room =
        sendHeader dp.localNodeId (dp.heap r) room packetType flood
          (if flood then ⟨dp.nextPacketId⟩ else ⟨0⟩) := rfl
    unfold sendToPeer
    rw [if_neg (Nat.not_lt.mpr hlen), hroom, hacq]
    simp only [setPeer, PacketSlab.getSlotSlice]
    rw [hheader] at hok herror ⊢
    generalize Encrypts A _ _ payload = sealed at hok herror ⊢
    generalize fillSlot _ _ _ _ _ = filled at hok herror ⊢
    obtain ⟨slot, result⟩ := filled
    by_cases h : sealed
    · obtain rfl := hok h
      cases net with
      | failed => exact .inr (.inl ⟨h, rfl, rfl, rfl⟩)
      | sent => exact .inr (.inr ⟨h, by simp, by simp only [PacketSlab.free_release]; rfl, rfl⟩)
      | skipped => exact .inr (.inr ⟨h, by simp, by simp only [PacketSlab.free_release]; rfl, rfl⟩)
    · obtain rfl := herror h
      exact .inl ⟨h, rfl, rfl⟩
  · rcases dp.sendToPeer_effect A E r packetType payload targetOverride flood net with
      ⟨-, hplane, -⟩ | ⟨h, -⟩
    · exact .inl ⟨hsend, hplane⟩
    · exact absurd h hsend

/-- **A call leaves the slab and the queue as they were** exactly if it stops before it takes a
slot, or if it succeeds and pops its own descriptor off the queue: the bulk queue, if the packet
belongs there, has room, and nothing is waiting that goes first, unless that is a descriptor with
the very same contents. -/
theorem send_keeps_buffers_iff (hfree : dp.slab.free.length ≤ planeSlots) :
    let out := dp.sendToPeer A E r packetType payload targetOverride flood net
    let cls := classifyPacket E packetType payload
    (out.plane.slab.available = dp.slab.available ∧
      out.plane.scheduler.items.Perm dp.scheduler.items) ↔
    (¬ dp.CanSend payload ∨
      dp.EncryptsPayload A r packetType payload flood ∧ net ≠ .failed ∧
        ¬ dp.scheduler.Drops cls ∧
        ∀ slot ∈ dp.slab.free.head?, ∀ first ∈ (dp.scheduler.ahead cls).head?,
          first = dp.queuedDesc E r packetType payload slot) := by
  intro out cls
  rcases dp.sendToPeer_buffers A E r packetType payload targetOverride flood net with
    ⟨hsend, hplane⟩ | ⟨hsend, desc, slab, hacq, hcases⟩
  · refine iff_of_true ?_ (.inl hsend)
    rw [hplane]
    exact ⟨rfl, .refl _⟩
  · have hhead := PacketSlab.acquire_eq_some hacq
    have hless : out.plane.slab.free = slab.free →
        out.plane.slab.available ≠ dp.slab.available := by
      intro heq
      simp [PacketSlab.available, heq, hhead]
    rw [or_iff_right (not_not_intro hsend)]
    rcases hcases with ⟨henc, hslab, -⟩ | ⟨-, hnet, hslab, -⟩ | ⟨henc, hnet, hslab, hsched⟩
    · exact iff_of_false (fun h => hless hslab h.1) (fun h => henc h.1)
    · exact iff_of_false (fun h => hless hslab h.1) (fun h => h.2.1 hnet)
    · have havail : out.plane.slab.available = dp.slab.available := by
        rw [PacketSlab.available, hslab]
        exact PacketSlab.available_release hacq hfree desc
      rw [and_iff_right havail, and_iff_right henc, and_iff_right hnet, hsched,
        QosScheduler.push_pop_perm_iff, hhead]
      simp only [List.head?_cons, Option.mem_some_iff, forall_eq']
      exact Iff.rfl

end Call

/-- Node 1 in a room, with a record of node 2 that has no cipher. -/
def idlePlane : DataPlane :=
  (DataPlane.new (.fill 1) none .default 1280 (.fresh 0
    { nodeId := .fill 2, virtualIp := ⟨ByteArr.fill 4 2⟩, nickname := ""
      publicKey := .fill 32 2 } (.localhost 9999))).setRoomId (some (.fill 7))

lemma idlePlane_available : idlePlane.slab.available = planeSlots :=
  PacketSlab.available_new _ _ _

/-- A ping that the socket takes leaves the slab and the queue as they were. -/
theorem send_keeps_buffers_ping :
    let out := idlePlane.sendToPeer .transparent .blind 0 .ping [1, 2, 3] none false .sent
    out.plane.slab.available = idlePlane.slab.available ∧
      out.plane.scheduler.items.Perm idlePlane.scheduler.items := by
  refine (send_keeps_buffers_iff .transparent .blind idlePlane 0 .ping [1, 2, 3] none false .sent
    idlePlane_available.le).mpr (.inr ⟨?_, by decide, ?_, ?_⟩)
  · intro room _ c hc
    cases hc
  · intro hdrop
    cases hdrop.1
  · intro slot _ first hfirst
    cases hfirst

/-! ## Failed sends -/

/-- What a call of `send_to_peer` is made with. -/
structure Outgoing where
  peer : PeerRef
  packetType : DataPacketType
  payload : Bytes
  targetOverride : Option SocketAddr
  flood : Bool

/-- The plane after a call whose datagram the socket refuses. -/
def failedSend (A : Aead) (E : Etherparse) (dp : DataPlane) (call : Outgoing) : DataPlane :=
  (dp.sendToPeer A E call.peer call.packetType call.payload call.targetOverride call.flood
    .failed).plane

/-- A failed send costs a slot, and the plane stays in its room. -/
lemma failedSend_available {A : Aead} {E : Etherparse} {dp : DataPlane} {call : Outgoing}
    (hlen : call.payload.length ≤ maxDataplanePayload) (hroom : dp.roomId.isSome) :
    (failedSend A E dp call).slab.available = dp.slab.available - 1 ∧
      (failedSend A E dp call).roomId.isSome := by
  obtain ⟨peer, packetType, payload, targetOverride, flood⟩ := call
  constructor
  · unfold failedSend
    rcases dp.sendToPeer_buffers A E peer packetType payload targetOverride flood .failed with
      ⟨hsend, hplane⟩ | ⟨hsend, desc, slab, hacq, hcases⟩
    · rw [hplane]
      -- the slab is empty already
      have hempty : dp.slab.free = [] := by
        by_contra hne
        obtain ⟨slot, free, hfree⟩ := List.exists_cons_of_ne_nil hne
        exact hsend ⟨hlen, hroom, by rw [PacketSlab.acquire, hfree]; rfl⟩
      simp [PacketSlab.available, hempty]
    · have hhead := PacketSlab.acquire_eq_some hacq
      rcases hcases with ⟨-, hslab, -⟩ | ⟨-, -, hslab, -⟩ | ⟨-, hnet, -⟩
      · simp [PacketSlab.available, hslab, hhead]
      · simp [PacketSlab.available, hslab, hhead]
      · exact absurd rfl hnet
  · rcases dp.sendToPeer_effect A E peer packetType payload targetOverride flood .failed with
      ⟨-, hplane, -⟩ | ⟨-, -, -, -, -, -, hroom', -⟩
    · rw [failedSend, hplane]
      exact hroom
    · rw [failedSend, hroom']
      exact hroom

/-- **Failed sends drain the slab**: each of them costs a slot until there is none. -/
theorem failed_sends_drain {A : Aead} {E : Etherparse} (calls : List Outgoing) (dp : DataPlane)
    (hlen : ∀ call ∈ calls, call.payload.length ≤ maxDataplanePayload)
    (hroom : dp.roomId.isSome) :
    (Run.run (failedSend A E) dp calls).slab.available = dp.slab.available - calls.length ∧
      (Run.run (failedSend A E) dp calls).roomId.isSome := by
  induction calls generalizing dp with
  | nil => exact ⟨rfl, hroom⟩
  | cons call calls ih =>
      rw [List.forall_mem_cons] at hlen
      obtain ⟨havail, hroom'⟩ := failedSend_available (A := A) (E := E) hlen.1 hroom
      obtain ⟨hrest, hlast⟩ := ih (failedSend A E dp call) hlen.2 hroom'
      refine ⟨?_, hlast⟩
      rw [Run.run_cons, hrest, havail, List.length_cons]
      omega

/-- A ping to that node. -/
def pingCall : Outgoing :=
  { peer := 0, packetType := .ping, payload := [1, 2, 3], targetOverride := none, flood := false }

/-- **A failed send leaks**: after one refused datagram a slot is missing and a descriptor stays in
the queue, and after as many of them as there are slots a ping cannot be sent any more. -/
theorem failed_send_leaks :
    idlePlane.slab.available = 4096 ∧ idlePlane.scheduler.items = [] ∧
    (failedSend .transparent .blind idlePlane pingCall).slab.available = 4095 ∧
    (failedSend .transparent .blind idlePlane pingCall).scheduler.items.length = 1 ∧
    ((Run.run (failedSend .transparent .blind) idlePlane
      (List.replicate 4096 pingCall)).sendToPeer .transparent .blind 0 .ping [1, 2, 3] none false
        .sent).result = .error .slabExhausted := by
  have hlen : ∀ call ∈ List.replicate 4096 pingCall, call.payload.length ≤ maxDataplanePayload := by
    intro call hcall
    rw [(List.mem_replicate.mp hcall).2]
    decide
  obtain ⟨hdrained, hroom⟩ := failed_sends_drain (A := .transparent) (E := .blind)
    (List.replicate 4096 pingCall) idlePlane hlen rfl
  refine ⟨idlePlane_available, rfl, ?_, by decide +kernel, ?_⟩
  · rw [(failedSend_available (by decide) rfl).1, idlePlane_available]
    rfl
  · generalize Run.run (failedSend .transparent .blind) idlePlane
      (List.replicate 4096 pingCall) = dp at hdrained hroom ⊢
    obtain ⟨room, hroom⟩ := Option.isSome_iff_exists.mp hroom
    have hempty : dp.slab.free = [] := by
      rw [idlePlane_available, List.length_replicate] at hdrained
      exact List.length_eq_zero_iff.mp hdrained
    rw [sendToPeer, if_neg (by decide), hroom, PacketSlab.acquire, hempty]

end DataPlane

end R2N
