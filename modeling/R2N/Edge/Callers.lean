import R2N.Edge.Requests

/-!
# The callers behind the request slots

A caller of the daemon puts a command with a reply sender into the queue of the command loop and
waits for at most 35 seconds.  A command that asks the supernode something leaves its sender in a
slot, which the UDP loop empties when an answer arrives; a second command of the kind is refused
while the slot holds a sender.  A caller that gives up does not empty its slot.

* `Callers` — the queue, the slots and the callers that wait, beside the edge.
* `Distinct`, `Linked` — no sender is in two places, and the slots are those of the edge.
* **`slots_freed_iff`** — a slot holds only senders of callers that wait, and a command is refused
  only while an earlier caller waits, along exactly those runs in which no caller gives up whose
  sender is in a slot, and no command enters a slot whose caller has given up.
-/

namespace R2N

open Run

/-- A call, by the order in which the callers' commands enter the queue. -/
abbrev CallerId := ℕ

/-- `pending_create`, `pending_join` and `pending_rooms_query`. -/
inductive Slot where
  | create
  | join
  | rooms
deriving DecidableEq

/-- The commands of callers.  A `JoinRoom` whose invite cannot be read, or names no supernode, is
kept apart. -/
inductive CallerCommand where
  | room (cmd : EdgeCommand)
  | invalidJoin
  | queryRooms
  | switchSupernode
deriving DecidableEq

/-- The slot a command is for. -/
def CallerCommand.slot : CallerCommand → Option Slot
  | .room (.createRoom _) => some .create
  | .room (.joinRoom _ _ _ _) | .invalidJoin => some .join
  | .queryRooms => some .rooms
  | .room .leaveRoom | .switchSupernode => none

/-- The frames that empty a slot. -/
def ControlFrame.settles (frame : ControlFrame) : Slot → Bool
  | .create => frame.settlesCreate
  | .join => frame.settlesJoin
  | .rooms =>
      match frame with
      | .roomsList _ => true
      | _ => false

/-- What becomes of a command's sender: it is used, it is kept in a slot, or it is used at the end
of a leave. -/
inductive Handling where
  | answered
  | stored (slot : Slot)
  | served
deriving DecidableEq

/-- The edge, the senders in its slots and the one of a leave under way, the queue of the command
loop, the callers that have neither been answered nor given up, and the next call. -/
structure Callers where
  edge : Edge
  slots : Slot → Option CallerId
  serving : Option CallerId
  queue : List (CallerId × CallerCommand)
  waiting : List CallerId
  next : CallerId

inductive CallerInput where
  | call (cmd : CallerCommand)
  | take (net : NetAnswer)
  | finishLeave
  | control (frame : ControlFrame) (addr : SocketAddr) (io : EdgeIo)
  | timeout (caller : CallerId)

namespace Callers

/-- An edge without requests, and no calls. -/
def start (e : Edge) : Callers where
  edge := { e with pendingCreate := false, pendingJoin := false }
  slots := fun _ => none
  serving := none
  queue := []
  waiting := []
  next := 0

/-- What the command loop does with a command. -/
def handle (s : Callers) (cmd : CallerCommand) (net : NetAnswer) : Edge × Handling :=
  match cmd with
  | .room cmd =>
      let out := s.edge.handleCommand cmd (net ≠ .failed)
      (out.edge,
        if out.frames.isEmpty then .answered
        else
          match cmd with
          | .createRoom _ => .stored .create
          | .joinRoom _ _ _ _ => .stored .join
          | .leaveRoom => .served)
  | .invalidJoin => (s.edge, .answered)
  | .queryRooms =>
      (s.edge, if (s.slots .rooms).isSome ∨ net = .failed then .answered else .stored .rooms)
  | .switchSupernode => (s.edge.switchSupernode.edge, .served)

/-- The command loop takes the next command, unless it is still leaving a room. -/
def take (s : Callers) (net : NetAnswer) : Callers :=
  match s.edge.leaving, s.queue with
  | false, (caller, cmd) :: queue =>
      let s' := { s with edge := (s.handle cmd net).1, queue }
      match (s.handle cmd net).2 with
      | .answered => { s' with waiting := s.waiting.filter fun c => c ≠ caller }
      | .stored slot => { s' with slots := Function.update s.slots slot (some caller) }
      | .served => { s' with serving := some caller }
  | _, _ => s

/-- One step.  The rest of a switch, after its leave, touches neither slots nor callers but its
own. -/
def step (N : Noise) (s : Callers) : CallerInput → Callers
  | .call cmd =>
      { s with
        queue := s.queue ++ [(s.next, cmd)], waiting := s.next :: s.waiting, next := s.next + 1 }
  | .take net => s.take net
  | .finishLeave =>
      if s.edge.leaving then
        { s with
          edge := s.edge.finishLeave
          serving := none
          waiting := s.waiting.filter fun c => s.serving ≠ some c }
      else s
  | .control frame addr io =>
      { s with
        edge := (s.edge.handleControl N frame addr io).edge
        slots := fun slot => if frame.settles slot then none else s.slots slot
        waiting := s.waiting.filter fun c =>
          [Slot.create, .join, .rooms].all fun slot =>
            !frame.settles slot || s.slots slot ≠ some c }
  | .timeout caller => { s with waiting := s.waiting.filter fun c => c ≠ caller }

/-- The commands that are refused because one of their kind is in progress. -/
def inProgress (s : Callers) : CallerCommand → Bool
  | .room (.createRoom _) => s.edge.roomId.isNone && s.edge.pendingCreate
  | .room (.joinRoom _ _ _ _) | .invalidJoin => s.edge.roomId.isNone && s.edge.pendingJoin
  | .queryRooms => (s.slots .rooms).isSome
  | .room .leaveRoom | .switchSupernode => false

/-- The commands whose senders are put into a slot, if they can be sent. -/
def accepts (s : Callers) : CallerCommand → Bool
  | .room (.createRoom _) => s.edge.roomId.isNone && !s.edge.pendingCreate
  | .room (.joinRoom _ _ _ _) => s.edge.roomId.isNone && !s.edge.pendingJoin
  | .queryRooms => (s.slots .rooms).isNone
  | .invalidJoin | .room .leaveRoom | .switchSupernode => false

/-- The slots hold only senders of callers that wait. -/
def SlotsFreed (s : Callers) : Prop := ∀ slot c, s.slots slot = some c → c ∈ s.waiting

/-- The slots are freed after the step, and a command that the step refuses because one of its kind
is in progress finds the sender of a caller that waits. -/
def Freed (N : Noise) (s : Callers) (input : CallerInput) : Prop :=
  SlotsFreed (s.step N input) ∧
    ∀ net c cmd, input = .take net → s.edge.leaving = false → s.queue.head? = some (c, cmd) →
      s.inProgress cmd = true →
        ∃ slot holder, cmd.slot = some slot ∧ s.slots slot = some holder ∧ holder ∈ s.waiting

/-- No caller gives up whose sender is in a slot, and no command is accepted and sent whose caller
has given up. -/
def Patient (s : Callers) : CallerInput → Prop
  | .timeout caller => ∀ slot, s.slots slot ≠ some caller
  | .take net => ∀ c cmd, s.edge.leaving = false → s.queue.head? = some (c, cmd) →
      s.accepts cmd = true → net ≠ .failed → c ∈ s.waiting
  | _ => True

/-! ## Where a sender is -/

/-- No sender is in two places, and none is of a call to come. -/
structure Distinct (s : Callers) : Prop where
  slots : ∀ a b c, s.slots a = some c → s.slots b = some c → a = b
  queue : (s.queue.map Prod.fst).Nodup
  queued : ∀ a c, s.slots a = some c → c ∉ s.queue.map Prod.fst
  served : ∀ c, s.serving = some c → c ∉ s.queue.map Prod.fst ∧ ∀ a, s.slots a ≠ some c
  slots_lt : ∀ a c, s.slots a = some c → c < s.next
  queue_lt : ∀ c ∈ s.queue.map Prod.fst, c < s.next
  served_lt : ∀ c, s.serving = some c → c < s.next

/-- The slots are those of the edge. -/
structure Linked (s : Callers) : Prop where
  create : s.edge.pendingCreate = (s.slots .create).isSome
  join : s.edge.pendingJoin = (s.slots .join).isSome

lemma distinct_start (e : Edge) : Distinct (start e) :=
  ⟨fun _ _ _ => nofun, List.nodup_nil, fun _ _ => nofun, fun _ => nofun, fun _ _ => nofun,
    fun _ => nofun, fun _ => nofun⟩

lemma linked_start (e : Edge) : Linked (start e) := ⟨rfl, rfl⟩

/-- **A command that is taken**: its sender is used, stored, or kept for the end of a leave. -/
lemma take_cases (s : Callers) (net : NetAnswer) :
    ((∀ c cmd queue, s.edge.leaving = false → s.queue ≠ (c, cmd) :: queue) ∧ s.take net = s) ∨
    ∃ c cmd queue, s.edge.leaving = false ∧ s.queue = (c, cmd) :: queue ∧
      (((s.handle cmd net).2 = .answered ∧
          s.take net = { s with
            edge := (s.handle cmd net).1, queue, waiting := s.waiting.filter fun c' => c' ≠ c }) ∨
        (∃ slot, (s.handle cmd net).2 = .stored slot ∧
          s.take net = { s with
            edge := (s.handle cmd net).1, queue
            slots := Function.update s.slots slot (some c) }) ∨
        ((s.handle cmd net).2 = .served ∧
          s.take net = { s with edge := (s.handle cmd net).1, queue, serving := some c })) := by
  unfold take
  split
  next c cmd queue hleaving hqueue =>
    refine .inr ⟨c, cmd, queue, hleaving, hqueue, ?_⟩
    simp only
    split
    next h => exact .inl ⟨h, rfl⟩
    next slot h => exact .inr (.inl ⟨slot, h, rfl⟩)
    next h => exact .inr (.inr ⟨h, rfl⟩)
  next hno => exact .inl ⟨hno, rfl⟩

section Steps

variable {N : Noise} {s : Callers}

/-- Senders that are dropped. -/
lemma Distinct.mono (hs : Distinct s) {s' : Callers} (hnext : s'.next = s.next)
    (hslots : ∀ a c, s'.slots a = some c → s.slots a = some c)
    (hserving : ∀ c, s'.serving = some c → s.serving = some c)
    (hqueue : (s'.queue.map Prod.fst).Sublist (s.queue.map Prod.fst)) : Distinct s' where
  slots := fun a b c ha hb => hs.slots a b c (hslots a c ha) (hslots b c hb)
  queue := hs.queue.sublist hqueue
  queued := fun a c ha hc => hs.queued a c (hslots a c ha) (hqueue.subset hc)
  served := fun c hc =>
    ⟨fun hmem => (hs.served c (hserving c hc)).1 (hqueue.subset hmem),
      fun a ha => (hs.served c (hserving c hc)).2 a (hslots a c ha)⟩
  slots_lt := fun a c ha => hnext ▸ hs.slots_lt a c (hslots a c ha)
  queue_lt := fun c hc => hnext ▸ hs.queue_lt c (hqueue.subset hc)
  served_lt := fun c hc => hnext ▸ hs.served_lt c (hserving c hc)

/-- The sender of the first command in the queue is nowhere else. -/
lemma Distinct.head (hs : Distinct s) {c : CallerId} {cmd : CallerCommand}
    {queue : List (CallerId × CallerCommand)} (hqueue : s.queue = (c, cmd) :: queue) :
    c ∉ queue.map Prod.fst ∧ (∀ a, s.slots a ≠ some c) ∧ s.serving ≠ some c ∧ c < s.next := by
  have hmem : c ∈ s.queue.map Prod.fst := by
    rw [hqueue]
    exact List.mem_cons_self
  refine ⟨?_, fun a ha => hs.queued a c ha hmem, fun hc => (hs.served c hc).1 hmem,
    hs.queue_lt c hmem⟩
  have hnodup := hs.queue
  rw [hqueue, List.map_cons, List.nodup_cons] at hnodup
  exact hnodup.1

/-- The queue without its first command. -/
lemma Distinct.tail (hs : Distinct s) {c : CallerId} {cmd : CallerCommand}
    {queue : List (CallerId × CallerCommand)} (hqueue : s.queue = (c, cmd) :: queue)
    (edge : Edge) (waiting : List CallerId) : Distinct { s with edge, queue, waiting } := by
  refine hs.mono rfl (fun _ _ h => h) (fun _ h => h) ?_
  rw [hqueue]
  exact List.sublist_cons_self _ _

/-- A sender that is nowhere yet is put into a slot. -/
lemma Distinct.store (hs : Distinct s) {c : CallerId} (hqueue : c ∉ s.queue.map Prod.fst)
    (hslots : ∀ a, s.slots a ≠ some c) (hserving : s.serving ≠ some c) (hlt : c < s.next)
    (slot : Slot) : Distinct { s with slots := Function.update s.slots slot (some c) } := by
  have hcases : ∀ a c', Function.update s.slots slot (some c) a = some c' →
      (a = slot ∧ c' = c) ∨ s.slots a = some c' := by
    intro a c' ha
    by_cases hslot : a = slot
    · rw [hslot, Function.update_self] at ha
      exact .inl ⟨hslot, (Option.some.inj ha).symm⟩
    · rw [Function.update_of_ne hslot] at ha
      exact .inr ha
  refine ⟨fun a b c' ha hb => ?_, hs.queue, fun a c' ha => ?_, fun c' hc' => ?_,
    fun a c' ha => ?_, hs.queue_lt, hs.served_lt⟩
  · rcases hcases a c' ha with ⟨hslot, hc'⟩ | ha <;> rcases hcases b c' hb with ⟨hslot', hc'⟩ | hb
    · exact hslot.trans hslot'.symm
    · exact absurd (hb.trans (congrArg some hc')) (hslots b)
    · exact absurd (ha.trans (congrArg some hc')) (hslots a)
    · exact hs.slots a b c' ha hb
  · rcases hcases a c' ha with ⟨-, rfl⟩ | ha
    · exact hqueue
    · exact hs.queued a c' ha
  · refine ⟨(hs.served c' hc').1, fun a ha => ?_⟩
    rcases hcases a c' ha with ⟨-, rfl⟩ | ha
    · exact hserving hc'
    · exact (hs.served c' hc').2 a ha
  · rcases hcases a c' ha with ⟨-, rfl⟩ | ha
    · exact hlt
    · exact hs.slots_lt a c' ha

/-- A sender that is nowhere yet is kept for the end of a leave. -/
lemma Distinct.serve (hs : Distinct s) {c : CallerId} (hqueue : c ∉ s.queue.map Prod.fst)
    (hslots : ∀ a, s.slots a ≠ some c) (hlt : c < s.next) :
    Distinct { s with serving := some c } := by
  refine ⟨hs.slots, hs.queue, hs.queued, fun c' hc' => ?_, hs.slots_lt, hs.queue_lt,
    fun c' hc' => ?_⟩
  · obtain rfl := Option.some.inj hc'
    exact ⟨hqueue, hslots⟩
  · obtain rfl := Option.some.inj hc'
    exact hlt

lemma Distinct.take (hs : Distinct s) (net : NetAnswer) : Distinct (s.take net) := by
  rcases s.take_cases net with ⟨-, hsame⟩ | ⟨c, cmd, queue, -, hqueue, h⟩
  · rwa [hsame]
  obtain ⟨hnotQueued, hnotStored, hnotServed, hlt⟩ := hs.head hqueue
  have htail := hs.tail hqueue (s.handle cmd net).1
  rcases h with ⟨-, htake⟩ | ⟨slot, -, htake⟩ | ⟨-, htake⟩ <;> rw [htake]
  · exact htail _
  · exact (htail s.waiting).store hnotQueued hnotStored hnotServed hlt slot
  · exact (htail s.waiting).serve hnotQueued hnotStored hlt

lemma Distinct.call (hs : Distinct s) (cmd : CallerCommand) :
    Distinct (s.step N (.call cmd)) := by
  have hqueue : (s.step N (.call cmd)).queue.map Prod.fst = s.queue.map Prod.fst ++ [s.next] := by
    simp [Callers.step]
  have hnew : ∀ c < s.next, c ∉ s.queue.map Prod.fst →
      c ∉ (s.step N (.call cmd)).queue.map Prod.fst := by
    intro c hlt hc
    rw [hqueue, List.mem_append, List.mem_singleton]
    exact fun h => h.elim hc (Nat.ne_of_lt hlt)
  refine ⟨hs.slots, ?_, fun a c ha => hnew c (hs.slots_lt a c ha) (hs.queued a c ha),
    fun c hc => ⟨hnew c (hs.served_lt c hc) (hs.served c hc).1, (hs.served c hc).2⟩,
    fun a c ha => Nat.lt_succ_of_lt (hs.slots_lt a c ha), fun c hc => ?_,
    fun c hc => Nat.lt_succ_of_lt (hs.served_lt c hc)⟩
  · rw [hqueue]
    refine hs.queue.append (List.nodup_singleton _) ?_
    intro c hc hnext
    obtain rfl := List.mem_singleton.mp hnext
    exact Nat.lt_irrefl _ (hs.queue_lt _ hc)
  · rw [hqueue, List.mem_append, List.mem_singleton] at hc
    rcases hc with hc | rfl
    · exact Nat.lt_succ_of_lt (hs.queue_lt c hc)
    · exact Nat.lt_succ_self _

lemma Distinct.step (hs : Distinct s) (input : CallerInput) : Distinct (s.step N input) := by
  cases input with
  | call cmd => exact hs.call cmd
  | take net => exact hs.take net
  | finishLeave =>
      rw [Callers.step]
      split_ifs
      · exact hs.mono rfl (fun _ _ h => h) (fun _ => nofun) (List.Sublist.refl _)
      · exact hs
  | control frame addr io =>
      refine hs.mono rfl (fun a c h => ?_) (fun _ h => h) (List.Sublist.refl _)
      simp only [Callers.step] at h
      split_ifs at h
      exact h
  | timeout caller => exact hs.mono rfl (fun _ _ h => h) (fun _ h => h) (List.Sublist.refl _)

/-! ## The slots of the edge -/

/-- What a command leaves in the edge's slots: they are as they were, but for one in which the
command's sender is stored. -/
lemma handle_pending (s : Callers) (cmd : CallerCommand) (net : NetAnswer) :
    ((s.handle cmd net).1.pendingCreate = true ↔
      s.edge.pendingCreate = true ∨ (s.handle cmd net).2 = .stored .create) ∧
    ((s.handle cmd net).1.pendingJoin = true ↔
      s.edge.pendingJoin = true ∨ (s.handle cmd net).2 = .stored .join) := by
  cases cmd with
  | invalidJoin => simp [handle]
  | queryRooms =>
      simp only [handle]
      split_ifs <;> simp
  | switchSupernode =>
      simp only [handle, Edge.switchSupernode]
      split_ifs <;> simp [EdgeOutcome.silent]
  | room cmd =>
      simp only [handle]
      by_cases hsent : (s.edge.handleCommand cmd (net ≠ .failed)).frames.isEmpty = true
      · rw [if_pos hsent, Edge.handleCommand_silent hsent]
        simp
      · rw [if_neg hsent]
        rw [Bool.not_eq_true] at hsent
        rw [(Edge.handleCommand_sent hsent).2.2]
        cases cmd <;> simp [Edge.sent]

lemma Linked.take (hs : Linked s) (net : NetAnswer) : Linked (s.take net) := by
  rcases s.take_cases net with ⟨-, hsame⟩ | ⟨c, cmd, queue, -, -, h⟩
  · rwa [hsame]
  obtain ⟨hcreate, hjoin⟩ := s.handle_pending cmd net
  rw [hs.create] at hcreate
  rw [hs.join] at hjoin
  rcases h with ⟨hout, htake⟩ | ⟨slot, hout, htake⟩ | ⟨hout, htake⟩ <;> rw [htake] <;>
    rw [hout] at hcreate hjoin <;> refine ⟨Bool.eq_iff_iff.mpr ?_, Bool.eq_iff_iff.mpr ?_⟩
  · simpa using hcreate
  · simpa using hjoin
  · cases slot <;> simpa using hcreate
  · cases slot <;> simpa using hjoin
  · simpa using hcreate
  · simpa using hjoin

lemma Linked.step (hs : Linked s) (input : CallerInput) : Linked (s.step N input) := by
  cases input with
  | call cmd => exact ⟨hs.create, hs.join⟩
  | take net => exact hs.take net
  | finishLeave =>
      rw [Callers.step]
      split_ifs
      · exact ⟨hs.create, hs.join⟩
      · exact hs
  | control frame addr io =>
      obtain ⟨hcreate, hjoin⟩ := s.edge.handleControl_pending N frame addr io
      rw [hs.create] at hcreate
      rw [hs.join] at hjoin
      refine ⟨hcreate.trans ?_, hjoin.trans ?_⟩
      · simp only [Callers.step, ControlFrame.settles]
        split_ifs with hsettles <;> simp [hsettles]
      · simp only [Callers.step, ControlFrame.settles]
        split_ifs with hsettles <;> simp [hsettles]
  | timeout caller => exact ⟨hs.create, hs.join⟩

/-! ## The slots are freed -/

/-- A command that is refused finds a sender in its slot. -/
lemma Linked.holder (hs : Linked s) {cmd : CallerCommand} (h : s.inProgress cmd = true) :
    ∃ slot holder, cmd.slot = some slot ∧ s.slots slot = some holder := by
  have hfilled : ∃ slot, cmd.slot = some slot ∧ (s.slots slot).isSome = true := by
    cases cmd with
    | room cmd =>
        cases cmd with
        | createRoom _ => exact ⟨.create, rfl, hs.create ▸ (Bool.and_eq_true_iff.mp h).2⟩
        | joinRoom _ _ _ _ => exact ⟨.join, rfl, hs.join ▸ (Bool.and_eq_true_iff.mp h).2⟩
        | leaveRoom => cases h
    | invalidJoin => exact ⟨.join, rfl, hs.join ▸ (Bool.and_eq_true_iff.mp h).2⟩
    | queryRooms => exact ⟨.rooms, rfl, h⟩
    | switchSupernode => cases h
  obtain ⟨slot, hslot, hsome⟩ := hfilled
  obtain ⟨holder, hholder⟩ := Option.isSome_iff_exists.mp hsome
  exact ⟨slot, holder, hslot, hholder⟩

/-- Callers stop to wait whose senders are in no slot. -/
lemma SlotsFreed.filter (hs : SlotsFreed s) {s' : Callers} {p : CallerId → Bool}
    (hslots : ∀ a c, s'.slots a = some c → s.slots a = some c)
    (hwaiting : s'.waiting = s.waiting.filter p)
    (hkept : ∀ a c, s'.slots a = some c → p c = true) : SlotsFreed s' := by
  intro a c ha
  rw [hwaiting]
  exact List.mem_filter.mpr ⟨hs a c (hslots a c ha), hkept a c ha⟩

/-- The commands that are accepted and sent are those that leave their sender in a slot. -/
lemma stored_iff (hstays : s.edge.leaving = false) (cmd : CallerCommand) (net : NetAnswer) :
    (∃ slot, (s.handle cmd net).2 = .stored slot) ↔ s.accepts cmd = true ∧ net ≠ .failed := by
  by_cases hnet : net = .failed
  · cases cmd with
    | room cmd => cases cmd <;> simp [handle, Edge.handleCommand, Edge.startLeave, hstays, hnet,
        EdgeOutcome.silent]
    | invalidJoin | queryRooms | switchSupernode => simp [handle, hnet]
  · cases cmd with
    | room cmd =>
        cases cmd with
        | createRoom _ =>
            cases hroom : s.edge.roomId <;> cases hslot : s.edge.pendingCreate <;>
              simp [handle, accepts, Edge.handleCommand, EdgeOutcome.silent, hstays, hnet, hroom,
                hslot]
        | joinRoom _ _ _ _ =>
            cases hroom : s.edge.roomId <;> cases hslot : s.edge.pendingJoin <;>
              simp [handle, accepts, Edge.handleCommand, EdgeOutcome.silent, hstays, hnet, hroom,
                hslot]
        | leaveRoom => simp [handle, accepts, Edge.handleCommand, Edge.startLeave, hstays]
    | queryRooms => cases hslot : s.slots .rooms <;> simp [handle, accepts, hnet, hslot]
    | invalidJoin | switchSupernode => simp [handle, accepts]

lemma slotsFreed_timeout_iff (hs : SlotsFreed s) (caller : CallerId) :
    SlotsFreed (s.step N (.timeout caller)) ↔ Patient s (.timeout caller) := by
  constructor
  · intro h slot hslot
    simpa [Callers.step] using h slot caller hslot
  · intro h
    refine hs.filter (fun _ _ ha => ha) rfl fun a c ha => ?_
    exact decide_eq_true fun hc => h a (hc ▸ ha)

lemma slotsFreed_take_iff (hs : SlotsFreed s) (hd : Distinct s) (net : NetAnswer) :
    SlotsFreed (s.step N (.take net)) ↔ Patient s (.take net) := by
  rw [Callers.step]
  rcases s.take_cases net with ⟨hno, hsame⟩ | ⟨c, cmd, queue, hstays, hqueue, h⟩
  · rw [hsame]
    refine iff_of_true hs fun c cmd hstays hqueue => ?_
    obtain ⟨queue, hqueue⟩ := List.head?_eq_some_iff.mp hqueue
    exact absurd hqueue (hno c cmd queue hstays)
  obtain ⟨-, hnotStored, -, -⟩ := hd.head hqueue
  have hpatient : Patient s (.take net) ↔
      ∀ slot, (s.handle cmd net).2 = .stored slot → c ∈ s.waiting := by
    rw [← exists_imp, stored_iff hstays]
    simp [Patient, hstays, hqueue]
  rw [hpatient]
  rcases h with ⟨hout, htake⟩ | ⟨slot, hout, htake⟩ | ⟨hout, htake⟩ <;> rw [htake, hout]
  · refine iff_of_true ?_ nofun
    refine hs.filter (fun _ _ ha => ha) rfl fun a c' ha => ?_
    exact decide_eq_true fun hc => hnotStored a (hc ▸ ha)
  · constructor
    · intro h _ _
      exact h slot c (Function.update_self ..)
    · intro h a c' ha
      change Function.update s.slots slot (some c) a = some c' at ha
      by_cases hslot : a = slot
      · rw [hslot, Function.update_self] at ha
        exact Option.some.inj ha ▸ h slot rfl
      · rw [Function.update_of_ne hslot] at ha
        exact hs a c' ha
  · exact iff_of_true hs nofun

/-- An answer ends the wait of those callers only whose slots it empties. -/
lemma slotsFreed_control (hs : SlotsFreed s) (hd : Distinct s) (frame : ControlFrame)
    (addr : SocketAddr) (io : EdgeIo) : SlotsFreed (s.step N (.control frame addr io)) := by
  have hkept : ∀ a c, (s.step N (.control frame addr io)).slots a = some c →
      frame.settles a = false ∧ s.slots a = some c := by
    intro a c ha
    simp only [Callers.step] at ha
    split_ifs at ha with hsettles
    exact ⟨by simpa using hsettles, ha⟩
  refine hs.filter (fun a c ha => (hkept a c ha).2) rfl fun a c ha => ?_
  obtain ⟨hsettles, ha⟩ := hkept a c ha
  refine List.all_eq_true.mpr fun b _ => ?_
  by_cases hb : s.slots b = some c
  · rw [hd.slots b a c hb ha, hsettles]
    rfl
  · simp [hb]

lemma slotsFreed_step_iff (hs : SlotsFreed s) (hd : Distinct s) (input : CallerInput) :
    SlotsFreed (s.step N input) ↔ Patient s input := by
  cases input with
  | call cmd => exact iff_of_true (fun a c ha => List.mem_cons_of_mem _ (hs a c ha)) trivial
  | take net => exact slotsFreed_take_iff hs hd net
  | finishLeave =>
      refine iff_of_true ?_ trivial
      rw [Callers.step]
      split_ifs
      · refine hs.filter (fun _ _ ha => ha) rfl fun a c ha => ?_
        exact decide_eq_true fun hc => (hd.served c hc).2 a ha
      · exact hs
  | control frame addr io => exact iff_of_true (slotsFreed_control hs hd frame addr io) trivial
  | timeout caller => exact slotsFreed_timeout_iff hs caller

lemma freed_iff (hs : SlotsFreed s) (hd : Distinct s) (hl : Linked s) (input : CallerInput) :
    Freed N s input ↔ Patient s input := by
  rw [Freed, slotsFreed_step_iff hs hd]
  refine and_iff_left fun net c cmd _ _ _ hrefused => ?_
  obtain ⟨slot, holder, hslot, hholder⟩ := hl.holder hrefused
  exact ⟨slot, holder, hslot, hholder, hs slot holder hholder⟩

end Steps

/-- **The slots are freed** after every step, and a command is refused as in progress only while an
earlier caller waits, exactly when no caller gives up whose sender is in a slot, and no command
enters a slot whose caller has given up in the queue. -/
theorem slots_freed_iff (N : Noise) (e : Edge) (inputs : List CallerInput) :
    Along (step N) (Freed N) (start e) inputs ↔ Along (step N) Patient (start e) inputs := by
  refine Along.iff_of_invariant_forall (I := fun s => SlotsFreed s ∧ Distinct s ∧ Linked s) ?_ ?_
    inputs (start e) ⟨fun _ _ => nofun, distinct_start e, linked_start e⟩
  · rintro s input ⟨hs, hd, hl⟩ hpatient
    exact ⟨(slotsFreed_step_iff hs hd input).mpr hpatient, hd.step input, hl.step input⟩
  · rintro s input ⟨hs, hd, hl⟩
    exact freed_iff hs hd hl input

/-- **A lost answer**: the caller of a creation gives up, its sender stays in the slot, and the next
creation is refused although nobody waits for the first. -/
theorem abandoned_create_blocks :
    ¬ Along (step .transparent) (Freed .transparent) (start (.sample 1))
        [.call (.room (.createRoom "")), .take .sent, .timeout 0] ∧
    ¬ Freed .transparent
        (run (step .transparent) (start (.sample 1))
          [.call (.room (.createRoom "")), .take .sent, .timeout 0,
            .call (.room (.createRoom ""))])
        (.take .sent) := by
  constructor
  · rintro ⟨-, -, ⟨hfreed, -⟩, -⟩
    exact absurd (hfreed .create 0 (by decide +kernel)) (by decide +kernel)
  · rintro ⟨-, hrefused⟩
    obtain ⟨slot, holder, hslot, hholder, hwaits⟩ :=
      hrefused .sent 1 (.room (.createRoom "")) rfl (by decide +kernel) (by decide +kernel)
        (by decide +kernel)
    obtain rfl := Option.some.inj hslot
    obtain rfl : 0 = holder := Option.some.inj ((by decide +kernel : _ = some 0).symm.trans hholder)
    exact absurd hwaits (by decide +kernel)

end Callers

end R2N
