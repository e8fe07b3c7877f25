import R2N.Policy
import R2N.Proto.Header
import Mathlib.Logic.Function.Basic

/-!
# Packet buffers and the send queue

`r2n-slab`, a fixed pool of frame buffers with a free list, and `r2n-qos`, four queues by traffic
class.  A slot index is a `Fin`, so a descriptor always names a slot of its pool.
-/

namespace R2N

/-! ## Traffic classes -/

/-- `r2n_qos::TrafficClass`; `r2n_slab::TrafficClass` is the same enumeration and `map_class` the
identity between them. -/
inductive TrafficClass where
  | control
  | realtime
  | interactive
  | bulk
deriving DecidableEq

def classifyIpPacket (E : Etherparse) (payload : Bytes) : TrafficClass :=
  match E.ipHeader payload with
  | none => .realtime
  | some ip =>
      let (protocol, remainder) :=
        match ip with
        | .version4 _ _ protocol remainder => (protocol, remainder)
        | .version6 nextHeader remainder => (nextHeader, remainder)
      if protocol = 1 ∨ protocol = 58 then .control
      else if protocol = 17 ∧ payload.length ≤ 512 then .realtime
      else if protocol = 6 then
        if remainder.length ≥ 14 ∧ remainder.getD 13 0 &&& 0x02 ≠ 0 then .interactive else .bulk
      else .interactive

def classifyPacket (E : Etherparse) (packetType : DataPacketType) (payload : Bytes) :
    TrafficClass :=
  match packetType with
  | .keepalive | .ping | .pong => .control
  | .broadcast | .multicast | .discovery | .ethernet => .realtime
  | .ipv4 | .ipv6 => classifyIpPacket E payload

/-! ## The slab -/

def defaultFrameCap : ℕ := 1600

def defaultHeadroom : ℕ := 128

structure PacketDesc (capacity : ℕ) where
  slot : Fin capacity
  dataOffset : ℕ
  payloadOffset : ℕ
  len : ℕ
  cls : TrafficClass
deriving DecidableEq

structure PacketSlab (frameCap capacity : ℕ) where
  slots : Fin capacity → ByteArr frameCap
  free : List (Fin capacity)
  headroom : ℕ

namespace PacketSlab

variable {frameCap capacity : ℕ}

/-- The slots in the order in which `PacketSlab::new` pushes them. -/
def allSlots (capacity : ℕ) : List (Fin capacity) :=
  (List.range' 0 capacity).filterMap fun i => if h : i < capacity then some ⟨i, h⟩ else none

/-- `PacketSlab::new`. -/
def new (frameCap capacity headroom : ℕ) : PacketSlab frameCap capacity where
  slots := fun _ => ByteArr.fill frameCap 0
  free := allSlots capacity
  headroom := headroom

/-- `PacketSlab::acquire`. -/
def acquire (slab : PacketSlab frameCap capacity) :
    Option (PacketDesc capacity × PacketSlab frameCap capacity) :=
  match slab.free with
  | [] => none
  | slot :: free =>
      some ({ slot, dataOffset := 0, payloadOffset := slab.headroom, len := 0, cls := .bulk },
        { slab with free })

/-- `PacketSlab::release`: the free list is an `ArrayQueue` of the pool's capacity, so a push on
a full list is dropped. -/
def release (slab : PacketSlab frameCap capacity) (desc : PacketDesc capacity) :
    PacketSlab frameCap capacity :=
  if slab.free.length < capacity then { slab with free := slab.free ++ [desc.slot] } else slab

/-- `PacketSlab::available`. -/
def available (slab : PacketSlab frameCap capacity) : ℕ := slab.free.length

/-- What `PacketSlab::with_slot_mut` leaves behind: the slot of `desc` holds `bytes`. -/
def setSlot (slab : PacketSlab frameCap capacity) (desc : PacketDesc capacity)
    (bytes : ByteArr frameCap) : PacketSlab frameCap capacity :=
  { slab with slots := Function.update slab.slots desc.slot bytes }

/-- `PacketSlab::get_slot_slice`. -/
def getSlotSlice (slab : PacketSlab frameCap capacity) (desc : PacketDesc capacity) :
    ByteArr frameCap :=
  slab.slots desc.slot

/-- A new pool has a slot to give. -/
lemma acquire_new_isSome {capacity : ℕ} (hpos : 0 < capacity) (frameCap headroom : ℕ) :
    (new frameCap capacity headroom).acquire.isSome = true := by
  cases capacity with
  | zero => omega
  | succ n => rfl

end PacketSlab

/-! ## The scheduler -/

structure QosScheduler (T : Type) where
  control : List T
  realtime : List T
  interactive : List T
  bulk : List T
  bulkCapacity : ℕ

namespace QosScheduler

variable {T : Type}

def new (bulkCapacity : ℕ) : QosScheduler T :=
  { control := [], realtime := [], interactive := [], bulk := [], bulkCapacity }

/-- `QosScheduler::push`. -/
def push (q : QosScheduler T) (cls : TrafficClass) (item : T) : QosScheduler T :=
  match cls with
  | .control => { q with control := q.control ++ [item] }
  | .realtime => { q with realtime := q.realtime ++ [item] }
  | .interactive => { q with interactive := q.interactive ++ [item] }
  | .bulk =>
      let bulk := if q.bulk.length ≥ q.bulkCapacity then q.bulk.tail else q.bulk
      { q with bulk := bulk ++ [item] }

/-- `QosScheduler::pop`: the item, and the queues without it. -/
def pop (q : QosScheduler T) : Option T × QosScheduler T :=
  match q.control with
  | item :: control => (some item, { q with control })
  | [] =>
      match q.realtime with
      | item :: realtime => (some item, { q with realtime })
      | [] =>
          match q.interactive with
          | item :: interactive => (some item, { q with interactive })
          | [] =>
              match q.bulk with
              | item :: bulk => (some item, { q with bulk })
              | [] => (none, q)

end QosScheduler

end R2N
