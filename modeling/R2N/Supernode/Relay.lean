import R2N.Slab
import R2N.Supernode.Supernode

/-!
# Relaying data frames

`Supernode::run` copies a data frame for another node into a slot of its slab and spawns a task
that sends it from there and releases the slot.  The tasks run whenever they run: between the
steps of the receive loop and of one another.

* `RelayLoop` — the loop and the tasks; `RelayLoop.step` — one atomic step of any of them.
* `RelayLoop.calls` — what a step asks of the slab, and `history_step`: nothing else happens to it.
* `Tracked` — the descriptors that are out are those of the loop and of the tasks, each once.
* **`slab_ownership`** — a disciplined history keeps the slots apart, and the relay's is one,
  however the steps are interleaved.
-/

namespace R2N

namespace Supernode

/-- The loop after `acquire`. -/
structure Relaying where
  ticket : ℕ
  desc : PacketDesc32
  frame : Bytes
  frameLen : ℕ
  target : SocketAddr

/-- A spawned task.  `ticket` and `frame` are there for the proofs: the acquisition its descriptor
comes from, and the datagram that was copied. -/
structure SendTask where
  ticket : ℕ
  frame : Bytes
  desc : PacketDesc32
  frameLen : ℕ
  target : SocketAddr
  sent : Bool

/-- `relaying` is `none` while the loop waits for a datagram. -/
structure RelayLoop where
  history : SlabHistory defaultFrameCap
  relaying : Option Relaying
  tasks : List SendTask

/-- What happens next: a datagram arrives while the tables hold `nodes`, the loop goes on with the
frame it has a slot for, or the task at `i` sends its frame or, having done so, ends. -/
inductive RelayEvent where
  | datagram (nodes : KeyMap NodeId NodeInfo) (bytes : Bytes)
  | proceed
  | send (i : ℕ)
  | finish (i : ℕ)

/-- A data frame for a node that is registered: its length and where it goes.  Control frames are
handled elsewhere. -/
def relayTarget (nodes : KeyMap NodeId NodeInfo) (bytes : Bytes) : Option (ℕ × SocketAddr) :=
  match recvPacket (fun _ => none) bytes with
  | .ok (.data frame) =>
      (nodes.lookup frame.header.dstNode).map fun info => (frame.header.frameLen, info.addr)
  | _ => none

/-- `slot[..frame_len].copy_from_slice(&recv_buf[..frame_len])`. -/
def copyFrame (frame : Bytes) (frameLen : ℕ) (slot : ByteArr defaultFrameCap) :
    ByteArr defaultFrameCap :=
  .ofBytes defaultFrameCap (Bytes.writeAt 0 (frame.take frameLen) slot.toList)

namespace RelayLoop

def start (slab : PacketSlab32 defaultFrameCap) : RelayLoop :=
  { history := .start slab, relaying := none, tasks := [] }

/-- What a step asks of the slab. -/
def calls (s : RelayLoop) : RelayEvent → List (SlabCall defaultFrameCap)
  | .datagram nodes bytes =>
      match s.relaying, relayTarget nodes bytes with
      | none, some _ => [.acquire]
      | _, _ => []
  | .proceed =>
      match s.relaying with
      | none => []
      | some r =>
          if r.frameLen > defaultFrameCap then [.release r.ticket r.desc]
          else [.write r.ticket r.desc (copyFrame r.frame r.frameLen)]
  | .send _ => []
  | .finish i =>
      match s.tasks[i]? with
      | none => []
      | some task => if task.sent then [.release task.ticket task.desc] else []

def step (s : RelayLoop) : RelayEvent → RelayLoop
  | .datagram nodes bytes =>
      match s.relaying, relayTarget nodes bytes with
      | none, some (frameLen, target) =>
          match s.history.slab.acquire with
          -- the pool is exhausted and the frame is dropped
          | none => s
          | some (desc, _) =>
              { s with
                history := s.history.step .acquire
                relaying := some
                  { ticket := s.history.acquisitions, desc, frame := bytes, frameLen, target } }
      | _, _ => s
  | .proceed =>
      match s.relaying with
      | none => s
      | some r =>
          if r.frameLen > defaultFrameCap then
            { s with history := s.history.step (.release r.ticket r.desc), relaying := none }
          else
            { history := s.history.step (.write r.ticket r.desc (copyFrame r.frame r.frameLen))
              relaying := none
              tasks := s.tasks ++
                [{ ticket := r.ticket, frame := r.frame, desc := r.desc, frameLen := r.frameLen
                   target := r.target, sent := false }] }
  | .send i => { s with tasks := s.tasks.modify i fun task => { task with sent := true } }
  | .finish i =>
      match s.tasks[i]? with
      | none => s
      | some task =>
          if task.sent then
            { s with
              history := s.history.step (.release task.ticket task.desc)
              tasks := s.tasks.eraseIdx i }
          else s

/-- What a step hands to `send_raw`; a task sends once. -/
def sends (s : RelayLoop) : RelayEvent → List (SocketAddr × Bytes)
  | .send i =>
      match s.tasks[i]? with
      | none => []
      | some task =>
          if task.sent then []
          else
            (s.history.slab.getSlotSlice task.desc).toList.map fun slot =>
              (task.target, slot.toList.take task.frameLen)
  | _ => []

/-! ## The descriptors that are out -/

/-- The slab sees the calls and nothing else. -/
lemma history_step (s : RelayLoop) (e : RelayEvent) :
    (s.step e).history = Run.run SlabHistory.step s.history (s.calls e) := by
  cases e with
  | datagram nodes bytes =>
      cases hr : s.relaying with
      | some r => simp [step, calls, hr]
      | none =>
          cases ht : relayTarget nodes bytes with
          | none => simp [step, calls, hr, ht]
          | some target =>
              cases hacq : s.history.slab.acquire with
              | none => simp [step, calls, hr, ht, hacq, SlabHistory.step]
              | some acquired => simp [step, calls, hr, ht, hacq]
  | proceed =>
      cases hr : s.relaying with
      | none => simp [step, calls, hr]
      | some r =>
          by_cases hlong : r.frameLen > defaultFrameCap <;> simp [step, calls, hr, hlong]
  | send i => rfl
  | finish i =>
      cases ht : s.tasks[i]? with
      | none => simp [step, calls, ht]
      | some task => by_cases hsent : task.sent <;> simp [step, calls, ht, hsent]

/-- The descriptors of the loop and of the tasks. -/
def owners (s : RelayLoop) : List (ℕ × UInt32) :=
  s.relaying.toList.map (fun r => (r.ticket, r.desc.slot)) ++
    s.tasks.map fun task => (task.ticket, task.desc.slot)

/-- The descriptors that are out are those of the loop and of the tasks. -/
structure Tracked (capacity : ℕ) (s : RelayLoop) : Prop where
  owned : s.history.Owned capacity
  owners_perm : s.owners.Perm s.history.held

variable {capacity : ℕ} {s : RelayLoop}

lemma Tracked.mem_held_of_relaying (h : Tracked capacity s) {r : Relaying}
    (hr : s.relaying = some r) : (r.ticket, r.desc.slot) ∈ s.history.held := by
  refine h.owners_perm.mem_iff.mp (List.mem_append_left _ ?_)
  simp [hr]

lemma Tracked.mem_held_of_task (h : Tracked capacity s) {task : SendTask} (ht : task ∈ s.tasks) :
    (task.ticket, task.desc.slot) ∈ s.history.held :=
  h.owners_perm.mem_iff.mp (List.mem_append_right _
    (List.mem_map_of_mem (f := fun task : SendTask => (task.ticket, task.desc.slot)) ht))

/-- The loop and the tasks call the slab only with descriptors of their own. -/
lemma calls_disciplined (h : Tracked capacity s) (e : RelayEvent) :
    Run.Along SlabHistory.step SlabHistory.Disciplined s.history (s.calls e) := by
  cases e with
  | datagram nodes bytes =>
      cases hr : s.relaying <;> cases ht : relayTarget nodes bytes <;>
        simp [calls, hr, ht, SlabHistory.Disciplined]
  | proceed =>
      cases hr : s.relaying with
      | none => simp [calls, hr]
      | some r =>
          have hheld := h.mem_held_of_relaying hr
          by_cases hlong : r.frameLen > defaultFrameCap <;>
            simp [calls, hr, hlong, SlabHistory.Disciplined, hheld]
  | send i => trivial
  | finish i =>
      cases ht : s.tasks[i]? with
      | none => simp [calls, ht]
      | some task =>
          have hheld := h.mem_held_of_task (List.mem_of_getElem? ht)
          by_cases hsent : task.sent <;> simp [calls, ht, hsent, SlabHistory.Disciplined, hheld]

/-- Who gives a descriptor back is left without it. -/
lemma perm_held_of_release (h : Tracked capacity s) {ticket : ℕ} {slot : UInt32}
    {rest : List (ℕ × UInt32)} (howners : s.owners.Perm ((ticket, slot) :: rest)) :
    rest.Perm (s.history.held.filter (·.1 ≠ ticket)) := by
  have hmem : (ticket, slot) ∈ s.history.held :=
    (howners.symm.trans h.owners_perm).mem_iff.mp List.mem_cons_self
  have hsplit := Lending.perm_cons_filter_ne h.owned.sound.tickets_nodup hmem
  exact ((howners.symm.trans h.owners_perm).trans hsplit).cons_inv

theorem tracked_step (h : Tracked capacity s) (e : RelayEvent) : Tracked capacity (s.step e) := by
  have howned : (s.step e).history.Owned capacity := by
    rw [history_step]
    exact Run.invariant (fun _ _ => SlabHistory.owned_step) _ _ h.owned (calls_disciplined h e)
  refine ⟨howned, ?_⟩
  have howners := h.owners_perm
  cases e with
  | datagram nodes bytes =>
      cases hr : s.relaying with
      | some r => simpa [step, hr] using howners
      | none =>
          cases ht : relayTarget nodes bytes with
          | none => simpa [step, hr, ht] using howners
          | some target =>
              cases hacq : s.history.slab.acquire with
              | none => simpa [step, hr, ht, hacq] using howners
              | some acquired =>
                  -- the new descriptor is the loop's
                  simp only [owners, hr, Option.toList_none, List.map_nil, List.nil_append]
                    at howners
                  simp only [step, hr, ht, hacq, owners, SlabHistory.step, Option.toList_some,
                    List.map_cons, List.map_nil, List.singleton_append]
                  exact (howners.cons _).trans (List.perm_append_singleton _ _).symm
  | proceed =>
      cases hr : s.relaying with
      | none => simpa [step, hr] using howners
      | some r =>
          have hsplit : s.owners.Perm ((r.ticket, r.desc.slot) ::
              s.tasks.map fun task => (task.ticket, task.desc.slot)) := by
            simp [owners, hr]
          by_cases hlong : r.frameLen > defaultFrameCap
          · have hrest := perm_held_of_release h hsplit
            simpa [step, hr, hlong, owners, SlabHistory.step] using hrest
          · -- the descriptor moves from the loop to the new task
            simp only [step, hr, hlong, if_false, owners, SlabHistory.step, Option.toList_none,
              List.map_nil, List.nil_append, List.map_append, List.map_cons]
            exact (List.perm_append_singleton _ _).trans (hsplit.symm.trans howners)
  | send i =>
      have hkeys : (s.tasks.modify i fun task => { task with sent := true }).map
          (fun task => (task.ticket, task.desc.slot)) =
            s.tasks.map fun task => (task.ticket, task.desc.slot) := by
        refine List.ext_getElem (by simp) fun j hj hj' => ?_
        simp only [List.getElem_map, List.getElem_modify]
        split_ifs <;> rfl
      simpa [step, owners, hkeys] using howners
  | finish i =>
      cases ht : s.tasks[i]? with
      | none => simpa [step, ht] using howners
      | some task =>
          by_cases hsent : task.sent
          · have hsplit : s.owners.Perm ((task.ticket, task.desc.slot) ::
                (s.relaying.toList.map (fun r => (r.ticket, r.desc.slot)) ++
                  (s.tasks.eraseIdx i).map fun task => (task.ticket, task.desc.slot))) := by
              obtain ⟨hi, rfl⟩ := List.getElem?_eq_some_iff.mp ht
              have htasks := (List.getElem_cons_eraseIdx_perm hi).symm.map
                fun task : SendTask => (task.ticket, task.desc.slot)
              exact (htasks.append_left _).trans List.perm_middle
            have hrest := perm_held_of_release h hsplit
            simpa [step, ht, hsent, owners, SlabHistory.step] using hrest
          · simpa [step, ht, hsent] using howners

/-! ## What the slots hold -/

/-- The slot of a task holds the frame it is to send. -/
def Loaded (s : RelayLoop) (task : SendTask) : Prop :=
  ∃ slot, s.history.slab.getSlotSlice task.desc = some slot ∧
    slot.toList.take task.frameLen = task.frame

/-- The frames on their way are whole: the loop has the length of its frame, and the slot of each
task holds the task's. -/
structure Carries (s : RelayLoop) : Prop where
  relaying : ∀ r, s.relaying = some r → r.frameLen = r.frame.length
  tasks : ∀ task ∈ s.tasks, s.Loaded task

/-- A data frame is as long as its header says. -/
lemma frameLen_of_recvPacket {postcard : Bytes → Option ControlFrame} {bytes : Bytes}
    {frame : DataFrameView} (h : recvPacket postcard bytes = .ok (.data frame)) :
    frame.header.frameLen = bytes.length := by
  rw [recvPacket] at h
  split at h
  · cases hp : postcard (bytes.drop 4) <;> simp [hp] at h
  · split at h
    · cases h
    · cases hdecode : DataHeader.decode (bytes.take dataHeaderSize) with
      | error e => simp [hdecode] at h
      | ok header =>
          simp only [hdecode] at h
          split at h
          · cases h
          · rename_i hend
            cases h
            exact not_not.mp hend

lemma relayTarget_length {nodes : KeyMap NodeId NodeInfo} {bytes : Bytes} {frameLen : ℕ}
    {target : SocketAddr} (h : relayTarget nodes bytes = some (frameLen, target)) :
    frameLen = bytes.length := by
  rw [relayTarget] at h
  split at h
  · rename_i frame hrecv
    obtain ⟨info, _, heq⟩ := Option.map_eq_some_iff.mp h
    rw [Prod.mk.injEq] at heq
    exact heq.1.symm.trans (frameLen_of_recvPacket hrecv)
  · cases h

/-- What was copied into a slot is read back from it. -/
lemma take_copyFrame {frame : Bytes} (h : frame.length ≤ defaultFrameCap)
    (slot : ByteArr defaultFrameCap) :
    (copyFrame frame frame.length slot).toList.take frame.length = frame := by
  have hlen : (Bytes.writeAt 0 frame slot.toList).length = defaultFrameCap := by
    rw [Bytes.length_writeAt (by simpa using h)]
    simp
  rw [copyFrame, List.take_length, ByteArr.toList_ofBytes hlen, Bytes.writeAt_zero,
    List.take_left]

/-- Acquiring and releasing leave the contents of the slots. -/
lemma slots_step {h : SlabHistory defaultFrameCap} {call : SlabCall defaultFrameCap}
    (hcall : ∀ ticket desc func, call ≠ .write ticket desc func) :
    (h.step call).slab.slots = h.slab.slots := by
  cases call with
  | acquire =>
      simp only [SlabHistory.step, PacketSlab32.acquire]
      cases h.slab.free.pop <;> rfl
  | release ticket desc => rfl
  | write ticket desc func => exact absurd rfl (hcall ticket desc func)

/-- A task keeps its frame while its slot is not written to. -/
lemma Loaded.congr {s s' : RelayLoop} {task : SendTask} (h : s.Loaded task)
    (hslot : s'.history.slab.slots[task.desc.slot.toNat]? =
      s.history.slab.slots[task.desc.slot.toNat]?) : s'.Loaded task := by
  obtain ⟨slot, hget, htake⟩ := h
  exact ⟨slot, hslot.trans hget, htake⟩

/-- The loop and a task never have the same slot. -/
lemma Tracked.slot_ne (h : Tracked capacity s) (hcap : capacity ≤ 2 ^ 32) {r : Relaying}
    (hr : s.relaying = some r) {task : SendTask} (ht : task ∈ s.tasks) :
    r.desc.slot ≠ task.desc.slot := by
  have hnodup : (s.owners.map Prod.snd).Nodup :=
    (h.owners_perm.map Prod.snd).nodup_iff.mpr (h.owned.slots hcap).1
  simp only [owners, hr, Option.toList_some, List.map_cons, List.map_nil, List.singleton_append,
    List.nodup_cons, List.map_map] at hnodup
  intro heq
  exact hnodup.1 (List.mem_map.mpr ⟨task, ht, heq.symm⟩)

/-- The copy of a frame fills the slot of the new task and no other task's. -/
lemma carries_spawn (h : Tracked capacity s) (hcap : capacity ≤ 2 ^ 32) (hc : s.Carries)
    {r : Relaying} (hr : s.relaying = some r) (hlong : ¬ r.frameLen > defaultFrameCap) :
    (s.step .proceed).Carries := by
  have hlt := h.owned.slot_lt hcap (h.mem_held_of_relaying hr)
  have hslots : (s.step .proceed).history.slab.slots = s.history.slab.slots.set r.desc.slot.toNat
      (copyFrame r.frame r.frameLen (s.history.slab.slots.get ⟨r.desc.slot.toNat, hlt⟩)) := by
    simp [step, hr, hlong, SlabHistory.step, PacketSlab32.withSlotMut, hlt]
  refine ⟨fun r' hr' => by simp [step, hr, hlong] at hr', fun task htask => ?_⟩
  simp only [step, hr, hlong, if_false, List.mem_append, List.mem_singleton] at htask
  rcases htask with htask | rfl
  · have hne := h.slot_ne hcap hr htask
    refine (hc.tasks task htask).congr ?_
    rw [hslots, List.getElem?_set_ne]
    exact fun heq => hne (UInt32.toNat_inj.mp heq)
  · refine ⟨copyFrame r.frame r.frameLen
      (s.history.slab.slots.get ⟨r.desc.slot.toNat, hlt⟩), ?_, ?_⟩
    · rw [PacketSlab32.getSlotSlice, hslots, List.getElem?_set_self hlt]
    · have hlen := hc.relaying r hr
      rw [hlen]
      exact take_copyFrame (by omega) _

/-- A step that leaves the slots alone and makes no task keeps what is carried. -/
lemma carries_of_slots_eq (hc : s.Carries) {s' : RelayLoop}
    (hslots : s'.history.slab.slots = s.history.slab.slots)
    (hrelaying : ∀ r, s'.relaying = some r → s.relaying = some r ∨ r.frameLen = r.frame.length)
    (htasks : ∀ task' ∈ s'.tasks, ∃ task ∈ s.tasks,
      task'.frame = task.frame ∧ task'.desc = task.desc ∧ task'.frameLen = task.frameLen) :
    s'.Carries := by
  refine ⟨fun r hr => (hrelaying r hr).elim (hc.relaying r) id, fun task' htask' => ?_⟩
  obtain ⟨task, htask, hframe, hdesc, hlen⟩ := htasks task' htask'
  obtain ⟨slot, hget, htake⟩ := hc.tasks task htask
  refine ⟨slot, ?_, ?_⟩
  · rw [PacketSlab32.getSlotSlice, hslots, hdesc]
    exact hget
  · rw [hlen, hframe]
    exact htake

theorem carries_step (h : Tracked capacity s) (hcap : capacity ≤ 2 ^ 32) (hc : s.Carries)
    (e : RelayEvent) : (s.step e).Carries := by
  cases e with
  | datagram nodes bytes =>
      cases hr : s.relaying with
      | some r => simpa [step, hr] using hc
      | none =>
          cases ht : relayTarget nodes bytes with
          | none => simpa [step, hr, ht] using hc
          | some target =>
              cases hacq : s.history.slab.acquire with
              | none => simpa [step, hr, ht, hacq] using hc
              | some acquired =>
                  refine carries_of_slots_eq hc ?_ ?_ ?_
                  · simp only [step, hr, ht, hacq]
                    exact slots_step (by simp)
                  · intro r hr'
                    simp only [step, hr, ht, hacq, Option.some.injEq] at hr'
                    subst hr'
                    exact Or.inr (relayTarget_length ht)
                  · intro task htask
                    simp only [step, hr, ht, hacq] at htask
                    exact ⟨task, htask, rfl, rfl, rfl⟩
  | proceed =>
      cases hr : s.relaying with
      | none => simpa [step, hr] using hc
      | some r =>
          by_cases hlong : r.frameLen > defaultFrameCap
          · refine carries_of_slots_eq hc ?_ ?_ ?_
            · simp only [step, hr, hlong, if_true]
              exact slots_step (by simp)
            · intro r' hr'
              simp [step, hr, hlong] at hr'
            · intro task htask
              simp only [step, hr, hlong, if_true] at htask
              exact ⟨task, htask, rfl, rfl, rfl⟩
          · exact carries_spawn h hcap hc hr hlong
  | send i =>
      refine carries_of_slots_eq hc rfl (fun r hr => Or.inl hr) fun task' htask' => ?_
      obtain ⟨j, hj, rfl⟩ := List.mem_iff_getElem.mp htask'
      simp only [step, List.length_modify] at hj
      refine ⟨s.tasks[j], List.getElem_mem hj, ?_⟩
      simp only [step, List.getElem_modify]
      split_ifs <;> exact ⟨rfl, rfl, rfl⟩
  | finish i =>
      cases ht : s.tasks[i]? with
      | none => simpa [step, ht] using hc
      | some task =>
          by_cases hsent : task.sent
          · refine carries_of_slots_eq hc ?_ ?_ ?_
            · simp only [step, ht, hsent, if_true]
              exact slots_step (by simp)
            · intro r hr
              simp only [step, ht, hsent, if_true] at hr
              exact Or.inl hr
            · intro other hother
              simp only [step, ht, hsent, if_true] at hother
              exact ⟨other, List.mem_of_mem_eraseIdx hother, rfl, rfl, rfl⟩
          · simpa [step, ht, hsent] using hc

/-! ## Runs -/

lemma tracked_start {headroom : ℕ} {slab : PacketSlab32 defaultFrameCap}
    (hnew : PacketSlab32.new defaultFrameCap capacity headroom = some slab) :
    Tracked capacity (start slab) :=
  ⟨SlabHistory.owned_start hnew, List.Perm.nil⟩

lemma carries_start (slab : PacketSlab32 defaultFrameCap) : (start slab).Carries :=
  ⟨by simp [start], by simp [start]⟩

end RelayLoop

/-- **Slab ownership.**  After any calls in which only descriptors that are out are released, the
slots of the descriptors that are out are distinct, none of them is in the queue, the two kinds
together are `0..capacity`, and the queue has room for each of them.  The relay makes such calls,
however its tasks are interleaved, and does nothing else to the slab. -/
theorem slab_ownership (frameCap headroom : ℕ) {capacity : ℕ} (hpos : 1 ≤ capacity)
    (hlt : capacity < 2 ^ 32) :
    (∃ slab, PacketSlab32.new frameCap capacity headroom = some slab ∧
      ∀ calls, Run.Along SlabHistory.step SlabHistory.Disciplined (.start slab) calls →
        let h := Run.run SlabHistory.step (.start slab) calls
        h.heldSlots.Nodup ∧ List.Disjoint h.heldSlots h.slab.free.items ∧
          ((h.heldSlots ++ h.slab.free.items).map UInt32.toNat).Perm (List.range capacity) ∧
          ∀ ticket desc, h.Disciplined (.release ticket desc) →
            (h.slab.free.push desc.slot).isSome = true) ∧
    ∃ slab, PacketSlab32.new defaultFrameCap capacity headroom = some slab ∧
      ∀ events,
        let calls := Run.collect RelayLoop.step RelayLoop.calls (.start slab) events
        Run.Along SlabHistory.step SlabHistory.Disciplined (.start slab) calls ∧
          (Run.run RelayLoop.step (.start slab) events).history =
            Run.run SlabHistory.step (.start slab) calls := by
  have hexists : ∀ frameCap, ∃ slab, PacketSlab32.new frameCap capacity headroom = some slab :=
    fun frameCap => ⟨_, if_neg (by omega)⟩
  constructor
  · obtain ⟨slab, hnew⟩ := hexists frameCap
    refine ⟨slab, hnew, fun calls hcalls => ?_⟩
    have howned := SlabHistory.owned_run hnew calls hcalls
    have hslots := howned.slots hlt.le
    exact ⟨hslots.1, hslots.2.1, hslots.2.2, fun ticket desc hheld => howned.push_isSome hheld⟩
  · obtain ⟨slab, hnew⟩ := hexists defaultFrameCap
    refine ⟨slab, hnew, fun events => ?_⟩
    refine ⟨?_, Run.run_drives RelayLoop.history_step events _⟩
    exact Run.along_drives (I := RelayLoop.Tracked capacity) RelayLoop.history_step
      (fun _ e h => RelayLoop.tracked_step h e) (fun _ e h => RelayLoop.calls_disciplined h e)
      events _ (RelayLoop.tracked_start hnew)

/-- Two slots: the first is released and acquired again while the second stays out. -/
theorem slab_ownership_reused :
    let calls : List (SlabCall 4) :=
      [.acquire, .acquire, .release 0 ⟨0, 0, 0, 0, .bulk⟩, .acquire]
    ∃ slab, PacketSlab32.new 4 2 0 = some slab ∧
      Run.Along SlabHistory.step SlabHistory.Disciplined (.start slab) calls ∧
      (Run.run SlabHistory.step (.start slab) calls).held = [(1, 1), (2, 0)] ∧
      (Run.run SlabHistory.step (.start slab) calls).heldSlots.Nodup := by
  intro calls
  obtain ⟨⟨slab, hnew, howned⟩, _⟩ :=
    slab_ownership 4 0 (show 1 ≤ 2 by decide) (show 2 < 2 ^ 32 by decide)
  obtain rfl := Option.some.inj hnew
  refine ⟨_, hnew, ?_⟩
  have hcalls := howned calls (by decide)
  exact ⟨by decide, by decide, hcalls.1⟩

end Supernode

end R2N
