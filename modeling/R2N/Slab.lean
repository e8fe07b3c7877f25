import R2N.Dataplane.Buffers
import R2N.Lib.Lending
import R2N.Lib.Run

/-!
# The slab and its words

`r2n-slab` names a slot by a `u32` and keeps the free ones in an `ArrayQueue`.  A descriptor is
`Copy`, so nothing but the discipline of its users keeps it from being released twice.

* `PacketDesc32`, `PacketSlab32` — the slab as it is written.
* `Refines` — such a slab is one whose descriptors name slots by `Fin`; **`refines_new`**,
  **`refines_acquire`**, **`refines_release`**, `refines_withSlotMut`, `refines_getSlotSlice` — the
  operations keep that, so that what is proved about `PacketSlab` is true of the words.
* `SlabHistory` — a slab with the descriptors that are out; `SlabHistory.Disciplined` — a call is
  made on a descriptor that is.
* **`owned_run`** — then every slot is free or out, and never both.
-/

namespace R2N

/-! ## The slab as it is written -/

/-- `PacketDesc`. -/
structure PacketDesc32 where
  slot : UInt32
  dataOffset : ℕ
  payloadOffset : ℕ
  len : ℕ
  cls : TrafficClass
deriving DecidableEq

/-- `PacketSlab`. -/
structure PacketSlab32 (frameCap : ℕ) where
  slots : List (ByteArr frameCap)
  free : BoundedQueue UInt32
  headroom : ℕ

/-- `0..capacity`, each index `as u32`. -/
def slotIndices (capacity : ℕ) : List UInt32 := (List.range capacity).map UInt32.ofNat

namespace PacketSlab32

variable {frameCap capacity : ℕ}

/-- `PacketSlab::new`.  `ArrayQueue::new` panics when the capacity is zero. -/
def new (frameCap capacity headroom : ℕ) : Option (PacketSlab32 frameCap) :=
  if capacity = 0 then none
  else
    some
      { slots := List.replicate capacity (ByteArr.fill frameCap 0)
        free := (slotIndices capacity).foldl BoundedQueue.pushOrDrop (.empty capacity)
        headroom }

/-- `PacketSlab::acquire`. -/
def acquire (slab : PacketSlab32 frameCap) : Option (PacketDesc32 × PacketSlab32 frameCap) :=
  slab.free.pop.map fun popped =>
    ({ slot := popped.1, dataOffset := 0, payloadOffset := slab.headroom, len := 0, cls := .bulk },
      { slab with free := popped.2 })

/-- `PacketSlab::release`: the result of the push is not looked at. -/
def release (slab : PacketSlab32 frameCap) (desc : PacketDesc32) : PacketSlab32 frameCap :=
  { slab with free := slab.free.pushOrDrop desc.slot }

/-- `PacketSlab::with_slot_mut`; `none` is the panic of an index out of bounds. -/
def withSlotMut (slab : PacketSlab32 frameCap) (desc : PacketDesc32)
    (func : ByteArr frameCap → ByteArr frameCap) : Option (PacketSlab32 frameCap) :=
  slab.slots[desc.slot.toNat]?.map fun buf =>
    { slab with slots := slab.slots.set desc.slot.toNat (func buf) }

/-- `PacketSlab::get_slot_slice`. -/
def getSlotSlice (slab : PacketSlab32 frameCap) (desc : PacketDesc32) :
    Option (ByteArr frameCap) :=
  slab.slots[desc.slot.toNat]?

end PacketSlab32

lemma length_slotIndices (capacity : ℕ) : (slotIndices capacity).length = capacity := by
  simp [slotIndices]

lemma toNat_slotIndices {capacity : ℕ} (hcap : capacity ≤ 2 ^ 32) :
    (slotIndices capacity).map UInt32.toNat = List.range capacity := by
  rw [slotIndices, List.map_map]
  conv_rhs => rw [← List.map_id (List.range capacity)]
  refine List.map_congr_left fun i hi => ?_
  rw [List.mem_range] at hi
  exact UInt32.toNat_ofNat_of_lt' (by simp only [UInt32.size]; omega)

lemma nodup_slotIndices {capacity : ℕ} (hcap : capacity ≤ 2 ^ 32) :
    (slotIndices capacity).Nodup := by
  refine List.Nodup.of_map UInt32.toNat ?_
  rw [toNat_slotIndices hcap]
  exact List.nodup_range

/-- A new slab has all its slots free. -/
lemma PacketSlab32.new_eq_some {frameCap capacity headroom : ℕ} {slab : PacketSlab32 frameCap}
    (h : new frameCap capacity headroom = some slab) :
    slab.free.items = slotIndices capacity ∧ slab.free.capacity = capacity ∧
      slab.slots = List.replicate capacity (ByteArr.fill frameCap 0) ∧
      slab.headroom = headroom := by
  have hpush := BoundedQueue.foldl_pushOrDrop (slotIndices capacity) (.empty capacity)
    (by simp [length_slotIndices])
  rw [new] at h
  split_ifs at h
  cases h
  exact ⟨hpush.1, hpush.2, rfl, rfl⟩

/-! ## Slots by number -/

/-- A slot as the source names it. -/
def slotWord {capacity : ℕ} (slot : Fin capacity) : UInt32 := UInt32.ofNat slot

/-- A descriptor as the source has it. -/
def PacketDesc.words {capacity : ℕ} (desc : PacketDesc capacity) : PacketDesc32 where
  slot := slotWord desc.slot
  dataOffset := desc.dataOffset
  payloadOffset := desc.payloadOffset
  len := desc.len
  cls := desc.cls

/-- The two slabs are the same but for how a slot is named. -/
structure Refines {frameCap capacity : ℕ} (w : PacketSlab32 frameCap)
    (s : PacketSlab frameCap capacity) : Prop where
  free_eq : w.free.items = s.free.map slotWord
  capacity_eq : w.free.capacity = capacity
  slots_eq : w.slots = List.ofFn s.slots
  headroom_eq : w.headroom = s.headroom

section Refines

variable {frameCap capacity : ℕ} {w : PacketSlab32 frameCap} {s : PacketSlab frameCap capacity}

lemma toNat_slotWord (hcap : capacity ≤ 2 ^ 32) (slot : Fin capacity) :
    (slotWord slot).toNat = slot :=
  UInt32.toNat_ofNat_of_lt' (by simp only [UInt32.size]; omega)

lemma map_slotWord_allSlots (capacity : ℕ) :
    (PacketSlab.allSlots capacity).map slotWord = slotIndices capacity := by
  rw [PacketSlab.allSlots, slotIndices, List.map_filterMap, List.range_eq_range',
    ← List.filterMap_eq_map]
  refine List.filterMap_congr fun i hi => ?_
  have hlt : i < capacity := by
    rw [List.mem_range'_1] at hi
    omega
  simp [hlt, slotWord]

theorem refines_new (hpos : 0 < capacity) (frameCap headroom : ℕ) :
    ∃ w, PacketSlab32.new frameCap capacity headroom = some w ∧
      Refines w (PacketSlab.new frameCap capacity headroom) := by
  obtain ⟨w, hw⟩ : ∃ w, PacketSlab32.new frameCap capacity headroom = some w :=
    ⟨_, if_neg (by omega)⟩
  have hnew := PacketSlab32.new_eq_some hw
  refine ⟨w, hw, ?_, hnew.2.1, ?_, hnew.2.2.2⟩
  · rw [hnew.1, PacketSlab.new, map_slotWord_allSlots]
  · refine List.ext_getElem (by simp [hnew.2.2.1]) fun i hi hi' => ?_
    simp [hnew.2.2.1, PacketSlab.new]

theorem refines_acquire (h : Refines w s) :
    (s.acquire = none → w.acquire = none) ∧
      ∀ desc s', s.acquire = some (desc, s') →
        ∃ w', w.acquire = some (desc.words, w') ∧ Refines w' s' := by
  have hfree := h.free_eq
  cases hs : s.free with
  | nil =>
      rw [hs] at hfree
      constructor
      · intro _
        simp [PacketSlab32.acquire, BoundedQueue.pop, hfree]
      · intro desc s' hacq
        simp [PacketSlab.acquire, hs] at hacq
  | cons slot free =>
      rw [hs] at hfree
      constructor
      · intro hnone
        simp [PacketSlab.acquire, hs] at hnone
      · intro desc s' hacq
        simp only [PacketSlab.acquire, hs, Option.some.injEq, Prod.mk.injEq] at hacq
        obtain ⟨rfl, rfl⟩ := hacq
        simp only [PacketSlab32.acquire, BoundedQueue.pop, hfree, List.map_cons, List.head?_cons,
          Option.map_some, Option.some.injEq, Prod.mk.injEq, PacketDesc.words, h.headroom_eq,
          true_and, exists_eq_left', List.tail_cons]
        exact ⟨rfl, h.capacity_eq, h.slots_eq, rfl⟩

theorem refines_release (h : Refines w s) (desc : PacketDesc capacity) :
    Refines (w.release desc.words) (s.release desc) := by
  have hlen : w.free.items.length = s.free.length := by rw [h.free_eq, List.length_map]
  refine ⟨?_, ?_, ?_, ?_⟩
  · by_cases hroom : s.free.length < capacity
    · have hpush := BoundedQueue.items_pushOrDrop (q := w.free) (by rw [h.capacity_eq]; omega)
        desc.words.slot
      rw [PacketSlab32.release, hpush, h.free_eq]
      simp [PacketSlab.release, hroom, PacketDesc.words]
    · have hfull := BoundedQueue.pushOrDrop_of_full (q := w.free) (by rw [h.capacity_eq]; omega)
        desc.words.slot
      rw [PacketSlab32.release, hfull, h.free_eq]
      simp [PacketSlab.release, hroom]
  · exact (BoundedQueue.capacity_pushOrDrop _ _).trans h.capacity_eq
  · rw [PacketSlab32.release, h.slots_eq, PacketSlab.release]
    split_ifs <;> rfl
  · rw [PacketSlab32.release, h.headroom_eq, PacketSlab.release]
    split_ifs <;> rfl

lemma refines_getSlotSlice (hcap : capacity ≤ 2 ^ 32) (h : Refines w s)
    (desc : PacketDesc capacity) :
    w.getSlotSlice desc.words = some (s.getSlotSlice desc) := by
  simp [PacketSlab32.getSlotSlice, PacketSlab.getSlotSlice, PacketDesc.words,
    toNat_slotWord hcap, h.slots_eq]

lemma refines_withSlotMut (hcap : capacity ≤ 2 ^ 32) (h : Refines w s)
    (desc : PacketDesc capacity) (func : ByteArr frameCap → ByteArr frameCap) :
    ∃ w', w.withSlotMut desc.words func = some w' ∧
      Refines w' (s.setSlot desc (func (s.getSlotSlice desc))) := by
  have hget := refines_getSlotSlice hcap h desc
  rw [PacketSlab32.getSlotSlice] at hget
  rw [PacketSlab32.withSlotMut, hget]
  refine ⟨_, rfl, h.free_eq, h.capacity_eq, ?_, h.headroom_eq⟩
  refine List.ext_getElem (by simp [h.slots_eq]) fun i hi hi' => ?_
  simp only [h.slots_eq, PacketDesc.words, toNat_slotWord hcap, List.getElem_set,
    List.getElem_ofFn, PacketSlab.setSlot, Function.update_apply, Fin.ext_iff]
  exact if_congr eq_comm rfl rfl

end Refines

/-! ## Histories -/

/-- A call on a slab.  `ticket` says which acquisition the descriptor comes from; a descriptor is a
value that the owner may change, except for its slot. -/
inductive SlabCall (frameCap : ℕ) where
  | acquire
  | release (ticket : ℕ) (desc : PacketDesc32)
  | write (ticket : ℕ) (desc : PacketDesc32) (func : ByteArr frameCap → ByteArr frameCap)

/-- A slab, the slots of the descriptors that were not released, each with the number of its
acquisition, and the number of acquisitions. -/
structure SlabHistory (frameCap : ℕ) where
  slab : PacketSlab32 frameCap
  held : List (ℕ × UInt32)
  acquisitions : ℕ

namespace SlabHistory

variable {frameCap capacity : ℕ}

def start (slab : PacketSlab32 frameCap) : SlabHistory frameCap :=
  { slab, held := [], acquisitions := 0 }

def step (h : SlabHistory frameCap) : SlabCall frameCap → SlabHistory frameCap
  | .acquire =>
      match h.slab.acquire with
      | none => h
      | some (desc, slab) =>
          { slab
            held := h.held ++ [(h.acquisitions, desc.slot)]
            acquisitions := h.acquisitions + 1 }
  | .release ticket desc =>
      { h with slab := h.slab.release desc, held := h.held.filter (·.1 ≠ ticket) }
  | .write _ desc func => { h with slab := (h.slab.withSlotMut desc func).getD h.slab }

/-- The descriptor of a call was acquired, keeps its slot, and was not released since. -/
def Disciplined (h : SlabHistory frameCap) : SlabCall frameCap → Prop
  | .acquire => True
  | .release ticket desc => (ticket, desc.slot) ∈ h.held
  | .write ticket desc _ => (ticket, desc.slot) ∈ h.held

instance (h : SlabHistory frameCap) (call : SlabCall frameCap) : Decidable (h.Disciplined call) :=
  match call with
  | .acquire => isTrue trivial
  | .release ticket desc => inferInstanceAs (Decidable ((ticket, desc.slot) ∈ h.held))
  | .write ticket desc _ => inferInstanceAs (Decidable ((ticket, desc.slot) ∈ h.held))

/-- The queue and the loans of a history. -/
def lending (h : SlabHistory frameCap) : Lending UInt32 :=
  { free := h.slab.free, held := h.held, taken := h.acquisitions }

/-- The slots of the descriptors that are out. -/
def heldSlots (h : SlabHistory frameCap) : List UInt32 := h.held.map (·.2)

lemma lending_acquire (h : SlabHistory frameCap) :
    (h.step .acquire).lending = h.lending.take.2 := by
  simp only [step, PacketSlab32.acquire, Lending.take, lending]
  cases h.slab.free.pop <;> rfl

lemma lending_release (h : SlabHistory frameCap) (ticket : ℕ) (desc : PacketDesc32) :
    (h.step (.release ticket desc)).lending = h.lending.give ticket desc.slot := rfl

lemma lending_write (h : SlabHistory frameCap) (ticket : ℕ) (desc : PacketDesc32)
    (func : ByteArr frameCap → ByteArr frameCap) :
    (h.step (.write ticket desc func)).lending = h.lending := by
  simp only [step, PacketSlab32.withSlotMut, lending]
  cases h.slab.slots[desc.slot.toNat]? <;> rfl

lemma length_slots_step (h : SlabHistory frameCap) (call : SlabCall frameCap) :
    (h.step call).slab.slots.length = h.slab.slots.length := by
  cases call with
  | acquire =>
      simp only [step, PacketSlab32.acquire]
      cases h.slab.free.pop <;> rfl
  | release ticket desc => rfl
  | write ticket desc func =>
      simp only [step, PacketSlab32.withSlotMut]
      cases h.slab.slots[desc.slot.toNat]? <;> simp

/-- Every slot of the slab is free or out. -/
structure Owned (capacity : ℕ) (h : SlabHistory frameCap) : Prop where
  sound : h.lending.Sound (slotIndices capacity)
  slots_length : h.slab.slots.length = capacity

lemma owned_start {headroom : ℕ} {slab : PacketSlab32 frameCap}
    (hnew : PacketSlab32.new frameCap capacity headroom = some slab) :
    Owned capacity (start slab) := by
  obtain ⟨hitems, hcapacity, hslots, _⟩ := PacketSlab32.new_eq_some hnew
  refine ⟨Lending.sound_new hitems (hcapacity.trans (length_slotIndices capacity).symm), ?_⟩
  rw [start, hslots, List.length_replicate]

lemma owned_step {h : SlabHistory frameCap} {call : SlabCall frameCap} (hown : Owned capacity h)
    (hcall : h.Disciplined call) : Owned capacity (h.step call) := by
  refine ⟨?_, (length_slots_step h call).trans hown.slots_length⟩
  cases call with
  | acquire =>
      rw [lending_acquire]
      exact hown.sound.take
  | release ticket desc =>
      rw [lending_release]
      exact hown.sound.give hcall
  | write ticket desc func =>
      rw [lending_write]
      exact hown.sound

/-- **Every disciplined history keeps the slots apart.** -/
theorem owned_run {headroom : ℕ} {slab : PacketSlab32 frameCap}
    (hnew : PacketSlab32.new frameCap capacity headroom = some slab)
    (calls : List (SlabCall frameCap)) (hcalls : Run.Along step Disciplined (start slab) calls) :
    Owned capacity (Run.run step (start slab) calls) :=
  Run.invariant (fun _ _ => owned_step) calls _ (owned_start hnew) hcalls

/-- The slots that are out are distinct, none of them is free, and the two kinds together are
`0..capacity`. -/
lemma Owned.slots {h : SlabHistory frameCap} (hown : Owned capacity h) (hcap : capacity ≤ 2 ^ 32) :
    h.heldSlots.Nodup ∧ List.Disjoint h.heldSlots h.slab.free.items ∧
      ((h.heldSlots ++ h.slab.free.items).map UInt32.toNat).Perm (List.range capacity) := by
  have hnodup := hown.sound.nodup (nodup_slotIndices hcap)
  refine ⟨hnodup.2.1, List.disjoint_comm.mp hnodup.2.2, ?_⟩
  rw [← toNat_slotIndices hcap]
  exact (List.perm_append_comm.trans hown.sound.partition).map _

/-- A release of a descriptor that is out finds room. -/
lemma Owned.push_isSome {h : SlabHistory frameCap} (hown : Owned capacity h) {ticket : ℕ}
    {desc : PacketDesc32} (hheld : (ticket, desc.slot) ∈ h.held) :
    (h.slab.free.push desc.slot).isSome = true :=
  (BoundedQueue.push_isSome_iff _ _).mpr (hown.sound.length_free_lt (Lending.mem_onLoan hheld))

/-- The slot of a descriptor that is out exists. -/
lemma Owned.slot_lt {h : SlabHistory frameCap} (hown : Owned capacity h) (hcap : capacity ≤ 2 ^ 32)
    {ticket : ℕ} {slot : UInt32} (hheld : (ticket, slot) ∈ h.held) :
    slot.toNat < h.slab.slots.length := by
  have hmem : slot ∈ h.heldSlots := List.mem_map_of_mem hheld
  have hall := (hown.slots hcap).2.2.mem_iff.mp
    (List.mem_map_of_mem (List.mem_append_left h.slab.free.items hmem))
  rw [hown.slots_length]
  exact List.mem_range.mp hall

end SlabHistory

end R2N
