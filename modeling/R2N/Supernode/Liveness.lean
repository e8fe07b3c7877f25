import R2N.Lib.Run
import R2N.Supernode.Effects

/-!
# Does a call of `handle_control` return?

Only two handlers hold a guard into `rooms` while they work: `JoinRoom` and `LeaveRoom`.  The first
one does nothing else with `rooms`; the second one removes the room when it becomes empty, under
the guard it still holds.

* `LastMemberLeaves` — a `LeaveRoom` after which the room has no members.
* `completes_joinRoom`, `completes_createRoom`, `completes_registerNode` — these always return.
* **`handle_control_completes_iff`** — a call returns exactly if it is not the leave of a last
  member.
* **`last_leave_blocks`** — a node that creates a room and leaves it stops the supernode.
-/

namespace R2N

open Guarded Run

/-! ## Sending always returns -/

section Sending

variable (io : SupernodeIo) (held : List RoomId) (s : HandlerState)

lemma completes_send (frame : ControlFrame) (addr : SocketAddr) :
    (send io frame addr).Completes held s := by
  unfold Completes send
  split_ifs <;> rfl

lemma completes_trySend (frame : ControlFrame) (addr : SocketAddr) :
    (trySend io frame addr).Completes held s := rfl

lemma completes_sendEach (frames : List (ControlFrame × SocketAddr)) :
    (sendEach io frames).Completes held s := by
  induction frames generalizing s with
  | nil => rfl
  | cons frame frames ih =>
      exact completes_bind.mpr ⟨completes_send io held s _ _, fun _ s' _ => ih s'⟩

lemma completes_trySendEach (frames : List (ControlFrame × SocketAddr)) :
    (trySendEach io frames).Completes held s := by
  induction frames generalizing s with
  | nil => rfl
  | cons frame frames ih =>
      exact completes_bind.mpr ⟨completes_trySend io held s _ _, fun _ s' _ => ih s'⟩

end Sending

namespace Supernode

variable (S : SupernodeEnv) (io : SupernodeIo)

/-! ## The handlers that return -/

lemma completes_registerNode (info : NodeInfo) (s : HandlerState) :
    (registerNode io info).Completes [] s := by
  refine completes_bind.mpr ⟨rfl, fun _ s₁ _ => completes_bind.mpr ⟨completes_send io [] s₁ _ _,
    fun _ s₂ _ => completes_bind.mpr ⟨?_, fun _ s₃ _ => completes_trySendEach io [] s₃ _⟩⟩⟩
  rw [Completes, accessAll_nil]
  rfl

lemma completes_createRoom (name : String) (addr : SocketAddr) (s : HandlerState) :
    (createRoom S io name addr).Completes [] s := by
  refine completes_bind.mpr ⟨rfl, fun t s₁ _ => ?_⟩
  dsimp only
  split
  · exact completes_send io [] s₁ _ _
  · split
    · exact rfl
    · refine completes_bind.mpr ⟨rfl, fun _ s₂ _ => ?_⟩
      split
      · exact rfl
      · refine completes_bind.mpr ⟨?_, fun _ s₃ _ => ?_⟩
        · rw [Completes, access_nil]
          rfl
        · split
          · exact rfl
          · exact completes_send io [] s₃ _ _

lemma completes_roomEntry (roomId : RoomId) (token roomName : Option String) (nodeId : NodeId)
    (held : List RoomId) (s : HandlerState) :
    (roomEntry S roomId token roomName nodeId).Completes held s := by
  refine completes_bind.mpr ⟨rfl, fun t s₁ _ => ?_⟩
  dsimp only
  split
  · exact rfl
  · exact completes_bind.mpr ⟨rfl, fun _ _ _ => rfl⟩

/-- `JoinRoom` holds the guard of the room to its end, and does nothing else with `rooms`. -/
lemma completes_joinRoom (roomId : RoomId) (token roomName : Option String) (addr : SocketAddr)
    (s : HandlerState) : (joinRoom S io roomId token roomName addr).Completes [] s := by
  refine completes_bind.mpr ⟨rfl, fun t s₁ _ => ?_⟩
  dsimp only
  split
  · exact completes_send io [] s₁ _ _
  · rw [Completes, holding_nil]
    refine completes_bind.mpr ⟨completes_roomEntry S _ _ _ _ _ _, fun room s₂ _ =>
      completes_bind.mpr ⟨rfl, fun t s₃ _ => ?_⟩⟩
    split
    · exact completes_send io _ s₃ _ _
    · split
      · exact completes_send io _ s₃ _ _
      · split
        · exact rfl
        · refine completes_bind.mpr ⟨rfl, fun _ s₄ _ => ?_⟩
          split
          · exact rfl
          · exact completes_sendEach io _ s₄ _

lemma completes_queryRooms (addr : SocketAddr) (s : HandlerState) :
    (queryRooms io addr).Completes [] s := by
  refine completes_bind.mpr ⟨?_, fun _ s₁ _ => completes_trySend io [] s₁ _ _⟩
  rw [Completes, accessAll_nil]
  rfl

/-! ## Leaving -/

/-- The frame is the leave of a registered node from a room that has no other member. -/
def LastMemberLeaves (sn : Supernode) (frame : ControlFrame) (addr : SocketAddr) : Prop :=
  ∃ roomId nodeId room, frame = .leaveRoom roomId ∧ sn.addrToNode.lookup addr = some nodeId ∧
    sn.rooms.lookup roomId = some room ∧ ∀ member ∈ room.members, member = nodeId

lemma keys_removeMember_eq_nil {room : Room} {nodeId : NodeId} :
    (room.removeMember nodeId).members.keys = [] ↔ ∀ member ∈ room.members, member = nodeId := by
  rw [Room.removeMember, List.eq_nil_iff_forall_not_mem]
  refine forall_congr' fun member => ?_
  rw [← AList.mem_keys, AList.mem_erase]
  tauto

/-- **A leave** returns exactly if somebody is left in the room: otherwise nobody has to be
notified, and the removal is reached under the guard. -/
lemma completes_leaveRoom (roomId : RoomId) (addr : SocketAddr) (s : HandlerState) :
    (leaveRoom S io roomId addr).Completes [] s ↔
      ¬ s.sn.LastMemberLeaves (.leaveRoom roomId) addr := by
  unfold leaveRoom
  rw [Completes, get_bind]
  cases hnode : s.sn.addrToNode.lookup addr with
  | none => simp [LastMemberLeaves, hnode]
  | some nodeId =>
      dsimp only
      rw [holding_nil, get_bind]
      cases hroom : s.sn.rooms.lookup roomId with
      | none => simp [LastMemberLeaves, hnode, hroom]
      | some room =>
          have hlast : s.sn.LastMemberLeaves (.leaveRoom roomId) addr ↔
              (room.removeMember nodeId).members.keys = [] := by
            simp [LastMemberLeaves, hnode, hroom, keys_removeMember_eq_nil]
          rw [hlast]
          change Completes (_ >>= _) [roomId] s ↔ _
          by_cases hempty : (room.removeMember nodeId).members.keys = []
          · have hvalues : KeyMap.values (room.removeMember nodeId).members = [] := by
              simpa [AList.keys, List.keys, KeyMap.values] using hempty
            have hframes : s.sn.leaveFrames (room.removeMember nodeId)
                (room.members.lookup nodeId) = [] := by
              unfold leaveFrames
              split
              · rfl
              · rw [hvalues, List.filterMap_nil]
            simp only [hempty, hframes, if_true, not_true_eq_false, iff_false]
            intro hcompletes
            have hdrop := (completes_bind.mp ((completes_bind.mp hcompletes).2 () _ rfl)).2 () _ rfl
            rw [Completes, dropRoom_of_held] at hdrop
            cases hdrop
          · simp only [hempty, if_false, not_false_eq_true, iff_true]
            exact completes_bind.mpr ⟨rfl, fun _ s₁ _ => completes_bind.mpr
              ⟨completes_sendEach io _ s₁ _, fun _ _ _ => rfl⟩⟩

/-- **When `handle_control` returns**, for every state and every frame. -/
theorem handle_control_completes_iff (frame : ControlFrame) (addr : SocketAddr)
    (s : HandlerState) :
    (handleControl S io frame addr).Completes [] s ↔ ¬ s.sn.LastMemberLeaves frame addr := by
  have hother : (∀ roomId, frame ≠ .leaveRoom roomId) → ¬ s.sn.LastMemberLeaves frame addr :=
    fun hne ⟨roomId, _, _, hframe, _⟩ => hne roomId hframe
  cases frame with
  | leaveRoom roomId => exact completes_leaveRoom S io roomId addr s
  | registerNode _ _ _ _ _ _ _ =>
      exact iff_of_true (completes_registerNode io _ s) (hother fun _ => by simp)
  | createRoom name =>
      exact iff_of_true (completes_createRoom S io name addr s) (hother fun _ => by simp)
  | joinRoom roomId token roomName =>
      exact iff_of_true (completes_joinRoom S io roomId token roomName addr s)
        (hother fun _ => by simp)
  | queryRooms => exact iff_of_true (completes_queryRooms io addr s) (hother fun _ => by simp)
  | _ => exact iff_of_true rfl (hother fun _ => by simp)

/-- Node 1 registers and creates room 7. -/
def createdRoom : List Datagram := [register 1, sampleDatagram 1 (.createRoom "")]

/-- **The last leave blocks.**  The node is the only member of its room; when it leaves, the
receive loop stops for good. -/
theorem last_leave_blocks :
    (run (Loop.step .plain) ⟨fresh, false⟩ createdRoom).stuck = false ∧
    (run (Loop.step .plain) ⟨fresh, false⟩
      (createdRoom ++ [sampleDatagram 1 (.leaveRoom (.fill 7))])).stuck = true := by
  decide +kernel

end Supernode

end R2N
