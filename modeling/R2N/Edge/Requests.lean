import R2N.Edge.Tables

/-!
# The rooms an edge has asked for

The handlers of `RoomCreated` and `JoinAccept` activate whatever room a frame names: they take the
reply slot of the request, but they do not look whether there is one.  Beside the edge, a run keeps
the requests the user has made, which is more than the slots record: the slots do not name a room,
and leaving a room does not empty them.

An activation awaits the route of the room, and commands are handled meanwhile, so a run takes it in
two steps; `step_endActivation` puts them together again.

* `Requests` — what the user has asked for since the last leave.
* `Solicited` — a frame that lets an edge without a room into one answers such a request, and no
  activation is under way when a leave ends.
* **`no_unrequested_room`** — then every room that is activated has been asked for, and an edge that
  has left stays out until it is asked for a room again.
-/

namespace R2N

open Run

/-! ## Activation in two steps -/

namespace Edge

/-- `activate_room` up to the point where it awaits the route: whether it gets there. -/
def beginActivation (e : Edge) (joinedRoom : RoomId) (io : EdgeIo) : Bool × Edge :=
  if e.roomId.any fun active => active ≠ joinedRoom then (false, e)
  else
    match e.dataplane.tun.or io.createTun with
    | none => (false, e)
    | some device =>
        (io.nameOk && io.cidrOk, { e with dataplane := { e.dataplane with tun := some device } })

/-- The rest of `activate_room`; `created` says whether this call has made the device. -/
def endActivation (e : Edge) (joinedRoom : RoomId) (created routeOk : Bool) : Edge :=
  if routeOk then
    { e with
      roomId := some joinedRoom
      dataplane := e.dataplane.setRoomId (some joinedRoom) }
  else if created then { e with dataplane := { e.dataplane with tun := none } }
  else e

/-- The slots after a frame has been handled: a reply is sent to those it settles. -/
def settle (e : Edge) (frame : ControlFrame) : Edge :=
  { e with
    pendingCreate := e.pendingCreate && !frame.settlesCreate
    pendingJoin := e.pendingJoin && !frame.settlesJoin }

/-- The two steps make up `activate_room`. -/
lemma activateRoom_eq_begin (e : Edge) (room : RoomId) (io : EdgeIo) :
    (e.activateRoom room io).2 =
      if (e.beginActivation room io).1 then
        (e.beginActivation room io).2.endActivation room e.dataplane.tun.isNone io.routeOk
      else (e.beginActivation room io).2 := by
  unfold activateRoom beginActivation
  split
  · rfl
  · cases htun : e.dataplane.tun with
    | some device =>
        cases io.nameOk <;> cases io.cidrOk <;> cases io.routeOk <;> rfl
    | none =>
        cases io.createTun with
        | none => rfl
        | some device =>
            cases io.nameOk <;> cases io.cidrOk <;> cases io.routeOk <;> try rfl
            -- the device is dropped again: the slot is as empty as it was
            show e = { e with dataplane := { e.dataplane with tun := none } }
            rw [← htun]

/-- **A handler that lets the edge into a room** is the two steps, with nothing in between. -/
theorem handleControl_eq_begin (N : Noise) (e : Edge) {frame : ControlFrame} {room : RoomId}
    (hroom : frame.activates = some room) (addr : SocketAddr) (io : EdgeIo) :
    (e.handleControl N frame addr io).edge =
      if (e.beginActivation room io).1 then
        ((e.beginActivation room io).2.endActivation room e.dataplane.tun.isNone
          io.routeOk).settle frame
      else (e.beginActivation room io).2.settle frame := by
  have hsettle : (e.handleControl N frame addr io).edge =
      ((e.activateRoom room io).2).settle frame := by
    cases frame with
    | roomCreated _ _ _ _ | joinAccept _ _ _ _ =>
        cases hroom
        simp [handleControl, EdgeOutcome.silent, settle, ControlFrame.settlesCreate,
          ControlFrame.settlesJoin]
    | _ => cases hroom
  rw [hsettle, activateRoom_eq_begin]
  split <;> rfl

/-- What the first step keeps; it gets to the route only where no other room is active. -/
lemma beginActivation_keeps (e : Edge) (room : RoomId) (io : EdgeIo) :
    (∃ dataplane, (e.beginActivation room io).2 = { e with dataplane }) ∧
      ((e.beginActivation room io).1 = true → e.roomId = none ∨ e.roomId = some room) := by
  unfold beginActivation
  split
  · exact ⟨⟨_, rfl⟩, nofun⟩
  next hactive =>
    have hroom : e.roomId = none ∨ e.roomId = some room := by
      cases hroom : e.roomId with
      | none => exact .inl rfl
      | some active =>
          rw [hroom] at hactive
          exact .inr (congrArg some (by simpa using hactive))
    split
    · exact ⟨⟨_, rfl⟩, nofun⟩
    · exact ⟨⟨_, rfl⟩, fun _ => hroom⟩

/-- What the second step keeps. -/
lemma endActivation_keeps (e : Edge) (room : RoomId) (created routeOk : Bool) :
    ∃ roomId dataplane, e.endActivation room created routeOk = { e with roomId, dataplane } := by
  unfold endActivation
  split_ifs <;> exact ⟨_, _, rfl⟩

/-! ## The commands of the user -/

/-- The `SwitchSupernode` command up to the point where it awaits the removal of the routes.  What
follows is the end of a leave and a change of supernode. -/
def switchSupernode (e : Edge) : EdgeOutcome :=
  if e.leaving then .silent e
  else
    let room := e.roomId.getD (.fill 0)
    { edge := { e with peers := ∅, leaving := true }
      frames := if room ≠ .fill 0 then [(.leaveRoom room, e.supernodeAddr)] else []
      installed := none }

/-- A command that sends nothing changes nothing. -/
lemma handleCommand_silent {e : Edge} {cmd : EdgeCommand} {sendOk : Bool}
    (h : (e.handleCommand cmd sendOk).frames.isEmpty = true) :
    (e.handleCommand cmd sendOk).edge = e := by
  unfold handleCommand at h ⊢
  cases cmd <;> simp only [startLeave] at h ⊢ <;> split_ifs at h ⊢ <;> first | rfl | simp at h

/-- The edge once a command has been sent. -/
def sent (e : Edge) : EdgeCommand → Edge
  | .createRoom _ => { e with pendingCreate := true }
  | .joinRoom _ _ _ _ => { e with pendingJoin := true }
  | .leaveRoom => { e with peers := ∅, leaving := true }

/-- A request is sent only by an edge in no room, and if its slot is empty. -/
def Admits (e : Edge) : EdgeCommand → Prop
  | .createRoom _ => e.roomId = none ∧ e.pendingCreate = false
  | .joinRoom _ _ _ _ => e.roomId = none ∧ e.pendingJoin = false
  | .leaveRoom => True

/-- A command that sends something finds no leave in progress. -/
lemma handleCommand_sent {e : Edge} {cmd : EdgeCommand} {sendOk : Bool}
    (h : (e.handleCommand cmd sendOk).frames.isEmpty = false) :
    e.leaving = false ∧ e.Admits cmd ∧ (e.handleCommand cmd sendOk).edge = e.sent cmd := by
  unfold handleCommand at h ⊢
  split at h
  · cases h
  next hleaving =>
    refine ⟨by simpa using hleaving, ?_⟩
    rw [if_neg hleaving]
    cases cmd with
    | leaveRoom => exact ⟨trivial, rfl⟩
    | createRoom _ | joinRoom _ _ _ _ =>
        simp only at h ⊢
        split at h
        · cases h
        next hadmitted =>
          rw [if_neg hadmitted]
          simp only [Bool.or_eq_true, not_or, Bool.not_eq_true, Option.isSome_eq_false_iff,
            Option.isNone_iff_eq_none] at hadmitted
          exact ⟨hadmitted.1, rfl⟩

end Edge

/-! ## What has been asked for -/

/-- The room of the last `JoinRoom`; whether a `CreateRoom`, and which `JoinRoom`, has been sent
since the last leave and is not answered; and whether a leave is complete and nothing has been sent
since. -/
structure Requests where
  joinRoom : Option RoomId
  create : Bool
  join : Option RoomId
  out : Bool
deriving DecidableEq

/-- Nothing has been asked for. -/
def Requests.none : Requests := { joinRoom := .none, create := false, join := .none, out := false }

/-- The requests once a command has been sent. -/
def Requests.sent (r : Requests) : EdgeCommand → Requests
  | .createRoom _ => { r with create := true, out := false }
  | .joinRoom room _ _ _ => { r with joinRoom := some room, join := some room, out := false }
  | .leaveRoom => { r with create := false, join := .none }

/-- The requests once a frame has arrived. -/
def Requests.answered (r : Requests) (frame : ControlFrame) : Requests :=
  { r with
    create := r.create && !frame.settlesCreate
    join := if frame.settlesJoin then .none else r.join }

/-- An activation that awaits its route: the frame, the room it names, and whether a device was
made for it. -/
structure Awaited where
  frame : ControlFrame
  room : RoomId
  created : Bool
  activates : frame.activates = some room

/-- A frame that lets an edge in answers a creation or a join, not both. -/
lemma Awaited.settles (a : Awaited) : a.frame.settlesJoin = !a.frame.settlesCreate := by
  obtain ⟨frame, room, created, hroom⟩ := a
  cases frame with
  | roomCreated _ _ _ _ | joinAccept _ _ _ _ => rfl
  | _ => cases hroom

/-- An edge with the activation its UDP loop is busy with, and the requests it has been given. -/
structure Asking where
  edge : Edge
  activating : Option Awaited
  requests : Requests

inductive AskInput where
  | edge (input : EdgeInput)
  | endActivation (routeOk : Bool)
  | switchSupernode

namespace Asking

def start (e : Edge) : Asking := { edge := e, activating := none, requests := .none }

/-- A control frame arrives while the UDP loop is idle. -/
def receive (P : Platform) (s : Asking) (frame : ControlFrame) (addr : SocketAddr) (io : EdgeIo) :
    Asking :=
  let requests := s.requests.answered frame
  match hroom : frame.activates with
  | none => { s with edge := (s.edge.handleControl P.noise frame addr io).edge, requests }
  | some room =>
      let begun := s.edge.beginActivation room io
      if begun.1 then
        { edge := begun.2, requests
          activating := some
            { frame, room, created := s.edge.dataplane.tun.isNone, activates := hroom } }
      else { s with edge := begun.2.settle frame, requests }

/-- The activation under way gets its answer about the route. -/
def endActivation (s : Asking) (routeOk : Bool) : Asking :=
  match s.activating with
  | none => s
  | some a =>
      { s with
        edge := (s.edge.endActivation a.room a.created routeOk).settle a.frame
        activating := none }

/-- One step.  The UDP loop takes nothing from its socket while it awaits a route; a command that is
refused sends nothing and asks for nothing. -/
def step (P : Platform) (s : Asking) : AskInput → Asking
  | .edge (.control frame addr io) =>
      if s.activating.isSome then s else s.receive P frame addr io
  | .edge (.data header payload addr io) =>
      if s.activating.isSome then s
      else { s with edge := s.edge.step P (.data header payload addr io) }
  | .edge (.command cmd sendOk) =>
      { s with
        edge := (s.edge.handleCommand cmd sendOk).edge
        requests :=
          if (s.edge.handleCommand cmd sendOk).frames.isEmpty then s.requests
          else s.requests.sent cmd }
  | .edge .finishLeave =>
      { s with
        edge := s.edge.step P .finishLeave
        requests := { s.requests with out := s.requests.out || s.edge.leaving } }
  | .edge input => { s with edge := s.edge.step P input }
  | .endActivation routeOk => s.endActivation routeOk
  | .switchSupernode =>
      { s with
        edge := s.edge.switchSupernode.edge
        requests := { s.requests with create := false, join := none } }

/-- **A frame whose activation nothing comes between** is one step of the edge. -/
theorem step_endActivation (P : Platform) {s : Asking} (hidle : s.activating = none)
    (frame : ControlFrame) (addr : SocketAddr) (io : EdgeIo) :
    ((s.step P (.edge (.control frame addr io))).step P (.endActivation io.routeOk)).edge =
      s.edge.step P (.control frame addr io) := by
  have hreceive : s.step P (.edge (.control frame addr io)) = s.receive P frame addr io := by
    rw [step, hidle, Option.isSome_none, if_neg Bool.false_ne_true]
  rw [hreceive, step, Edge.step]
  unfold receive
  dsimp only
  split
  next => rw [endActivation, hidle]
  next room hroom =>
    rw [Edge.handleControl_eq_begin P.noise s.edge hroom]
    split
    · rfl
    · rw [endActivation, hidle]

/-- There is a request for the room: a creation, a join of this room, or the room is active. -/
def Outstanding (s : Asking) (room : RoomId) : Prop :=
  s.edge.pendingCreate = true ∨
    (s.edge.pendingJoin = true ∧ s.requests.joinRoom = some room) ∨ s.edge.roomId = some room

/-- A room is made the active one only while there is a request for it. -/
def Requested (s : Asking) : AskInput → Prop
  | .endActivation true => ∀ a ∈ s.activating, s.Outstanding a.room
  | _ => True

/-- A frame that lets an edge without a room into one answers a request that was made after the last
leave and has no answer yet; and no activation is under way when a leave ends. -/
def Solicited (s : Asking) : AskInput → Prop
  | .edge (.control (.roomCreated _ _ _ _) _ _) =>
      s.activating = none → s.edge.roomId = none → s.requests.create = true
  | .edge (.control (.joinAccept room _ _ _) _ _) =>
      s.activating = none → s.edge.roomId = none → s.requests.join = some room
  | .edge .finishLeave => s.edge.leaving = true → s.activating = none
  | _ => True

/-- An activation under way answers a request, which no longer waits for its answer, or the room is
active already. -/
structure Underway (s : Asking) (a : Awaited) : Prop where
  request : s.edge.roomId = some a.room ∨
    (a.frame.settlesCreate = true ∧ s.edge.pendingCreate = true) ∨
    (a.frame.settlesCreate = false ∧ s.edge.pendingJoin = true ∧
      s.requests.joinRoom = some a.room)
  create : a.frame.settlesCreate = true → s.requests.create = false
  join : a.frame.settlesCreate = false → s.requests.join = none

/-- The requests agree with the edge: one without an answer still has its slot, and there is none
during a leave and after it, when the edge is in no room and about to enter none. -/
structure Recorded (s : Asking) : Prop where
  create : s.requests.create = true → s.edge.pendingCreate = true
  join : ∀ room, s.requests.join = some room →
    s.edge.pendingJoin = true ∧ s.requests.joinRoom = some room
  leaving : s.edge.leaving = true → s.requests.create = false ∧ s.requests.join = none
  out : s.requests.out = true → s.edge.roomId = none ∧ s.activating = none ∧
    s.requests.create = false ∧ s.requests.join = none
  activating : ∀ a ∈ s.activating, s.Underway a

lemma recorded_start (e : Edge) : Recorded (start e) :=
  ⟨nofun, fun _ => nofun, fun _ => ⟨rfl, rfl⟩, nofun, nofun⟩

section Steps

variable {P : Platform} {s : Asking}

/-- Inputs that leave the slots, the active room and a leave in progress alone. -/
lemma Recorded.of_same (hs : Recorded s) {e : Edge}
    (hcreate : e.pendingCreate = s.edge.pendingCreate)
    (hjoin : e.pendingJoin = s.edge.pendingJoin) (hleaving : e.leaving = s.edge.leaving)
    (hroom : e.roomId = s.edge.roomId) : Recorded { s with edge := e } where
  create := fun hr => hcreate.trans (hs.create hr)
  join := fun room hr => ⟨hjoin.trans (hs.join room hr).1, (hs.join room hr).2⟩
  leaving := fun hr => hs.leaving (hleaving.symm.trans hr)
  out := fun hr => ⟨hroom.trans (hs.out hr).1, (hs.out hr).2⟩
  activating := fun a ha => by
    obtain ⟨hrequest, hnoCreate, hnoJoin⟩ := hs.activating a ha
    rw [← hcreate, ← hjoin, ← hroom] at hrequest
    exact ⟨hrequest, hnoCreate, hnoJoin⟩

/-! ### Frames -/

lemma answered_nothing {r : Requests} (hr : r.create = false ∧ r.join = none)
    (frame : ControlFrame) :
    (r.answered frame).create = false ∧ (r.answered frame).join = none := by
  simp [Requests.answered, hr]

/-- A frame settles the slots of the requests it answers, and no others. -/
lemma Recorded.answered (hs : Recorded s) {frame : ControlFrame} {e : Edge}
    (hcreate : e.pendingCreate = (s.edge.pendingCreate && !frame.settlesCreate))
    (hjoin : e.pendingJoin = (s.edge.pendingJoin && !frame.settlesJoin))
    (hleaving : e.leaving = s.edge.leaving) (hroom : e.roomId = s.edge.roomId)
    (hidle : s.activating = none) :
    Recorded { s with edge := e, requests := s.requests.answered frame } := by
  refine ⟨fun hr => ?_, fun room hr => ?_, fun hr => ?_, fun hr => ?_, ?_⟩
  · obtain ⟨hopen, hkept⟩ := (Bool.and_eq_true _ _).mp hr
    exact hcreate.trans (by rw [hs.create hopen, hkept, Bool.and_self])
  · obtain ⟨hkept, hopen⟩ : frame.settlesJoin = false ∧ s.requests.join = some room := by
      simpa [Requests.answered] using hr
    obtain ⟨hpending, hasked⟩ := hs.join room hopen
    exact ⟨hjoin.trans (by rw [hpending, hkept]; rfl), hasked⟩
  · exact answered_nothing (hs.leaving (hleaving.symm.trans hr)) frame
  · obtain ⟨hnone, -, hnothing⟩ := hs.out hr
    exact ⟨hroom.trans hnone, hidle, answered_nothing hnothing frame⟩
  · rw [hidle]
    nofun

/-- A solicited frame finds a request for its room. -/
lemma Recorded.begun (hs : Recorded s) {a : Awaited} {addr : SocketAddr} {io : EdgeIo}
    (h : Solicited s (.edge (.control a.frame addr io))) (hidle : s.activating = none)
    (hactive : s.edge.roomId = none ∨ s.edge.roomId = some a.room) {dataplane : DataPlane} :
    Underway { edge := { s.edge with dataplane }, activating := some a
               requests := s.requests.answered a.frame } a := by
  refine ⟨?_, fun hcreate => ?_, fun hjoin => ?_⟩
  · rcases hactive with hnone | hsame
    · obtain ⟨frame, room, created, hroom⟩ := a
      cases frame with
      | roomCreated _ _ _ _ => exact .inr (.inl ⟨rfl, hs.create (h hidle hnone)⟩)
      | joinAccept _ _ _ _ =>
          cases hroom
          exact .inr (.inr ⟨rfl, hs.join _ (h hidle hnone)⟩)
      | _ => cases hroom
    · exact .inl hsame
  · simp [Requests.answered, hcreate]
  · simp [Requests.answered, a.settles, hjoin]

/-- A solicited frame does not let an edge in that has left. -/
lemma Recorded.out_false (hs : Recorded s) {frame : ControlFrame} {addr : SocketAddr}
    {io : EdgeIo} (h : Solicited s (.edge (.control frame addr io))) {room : RoomId}
    (hroom : frame.activates = some room) : s.requests.out = false := by
  by_contra hout
  obtain ⟨hnone, hidle, hcreate, hjoin⟩ := hs.out (by simpa using hout)
  cases frame with
  | roomCreated _ _ _ _ => exact absurd (h hidle hnone) (by simp [hcreate])
  | joinAccept _ _ _ _ => exact absurd (h hidle hnone) (by simp [hjoin])
  | _ => cases hroom

lemma Recorded.receive (hs : Recorded s) {frame : ControlFrame} {addr : SocketAddr}
    {io : EdgeIo} (h : Solicited s (.edge (.control frame addr io))) (hidle : s.activating = none) :
    Recorded (s.receive P frame addr io) := by
  unfold Asking.receive
  dsimp only
  split
  next hroom =>
    obtain ⟨hcreate, hjoin⟩ := s.edge.handleControl_pending P.noise frame addr io
    obtain ⟨-, hleaving, hsame⟩ := s.edge.handleControl_keeps P.noise frame addr io
    refine hs.answered hcreate hjoin hleaving ?_ hidle
    rcases hsame with hsame | ⟨hnew, hactive⟩
    · exact hsame
    · -- a frame that lets nobody in changes the room of no one
      rw [hroom] at hnew hactive
      cases hactive' : s.edge.roomId with
      | none => exact hnew
      | some active => exact absurd (hactive active hactive') nofun
  next room hroom =>
    obtain ⟨⟨dataplane, hbegun⟩, hactive⟩ := s.edge.beginActivation_keeps room io
    rw [hbegun]
    split
    next hok =>
      have hout := hs.out_false h hroom
      refine ⟨fun hr => hs.create ((Bool.and_eq_true _ _).mp hr).1, fun room' hr => ?_,
        fun hr => answered_nothing (hs.leaving hr) frame,
        fun hr => absurd (hout.symm.trans hr) nofun, fun a ha => ?_⟩
      · obtain ⟨-, hopen⟩ : frame.settlesJoin = false ∧ s.requests.join = some room' := by
          simpa [Requests.answered] using hr
        exact hs.join room' hopen
      · cases ha
        exact hs.begun h hidle (hactive hok)
    next => exact hs.answered rfl rfl rfl rfl hidle

/-- At the end of an activation the slot of its request is emptied. -/
lemma Recorded.endActivation (hs : Recorded s) (routeOk : Bool) :
    Recorded (s.step P (.endActivation routeOk)) := by
  cases hactivating : s.activating with
  | none => simpa only [Asking.step, Asking.endActivation, hactivating] using hs
  | some a =>
      obtain ⟨-, hnoCreate, hnoJoin⟩ := hs.activating a hactivating
      obtain ⟨roomId, dataplane, hend⟩ := s.edge.endActivation_keeps a.room a.created routeOk
      simp only [Asking.step, Asking.endActivation, hactivating, hend, Edge.settle, a.settles]
      refine ⟨fun hr => ?_, fun room hr => ?_, hs.leaving, fun hr => ?_, nofun⟩
      · show (s.edge.pendingCreate && !a.frame.settlesCreate) = true
        cases hframe : a.frame.settlesCreate with
        | true => exact absurd ((hnoCreate hframe).symm.trans hr) nofun
        | false => rw [hs.create hr]; rfl
      · obtain ⟨hpending, hasked⟩ := hs.join room hr
        refine ⟨?_, hasked⟩
        show (s.edge.pendingJoin && !!a.frame.settlesCreate) = true
        cases hframe : a.frame.settlesCreate with
        | true => rw [hpending]; rfl
        | false => exact absurd ((hnoJoin hframe).symm.trans hr) nofun
      · exact absurd ((hs.out hr).2.1.symm.trans hactivating) nofun

/-! ### Commands -/

lemma Recorded.command (hs : Recorded s) (cmd : EdgeCommand) (sendOk : Bool) :
    Recorded (s.step P (.edge (.command cmd sendOk))) := by
  rw [Asking.step]
  cases hsent : (s.edge.handleCommand cmd sendOk).frames.isEmpty with
  | true =>
      rw [Edge.handleCommand_silent hsent]
      exact hs
  | false =>
      obtain ⟨hstays, hadmits, hedge⟩ := Edge.handleCommand_sent hsent
      rw [hedge]
      cases cmd with
      | createRoom name =>
          refine ⟨fun _ => rfl, hs.join, fun hr => absurd (hstays.symm.trans hr) nofun, nofun,
            fun a ha => ?_⟩
          -- only a join can be under way: a creation would have its slot
          obtain ⟨hactive | ⟨-, hslot⟩ | ⟨hframe, hrequest⟩, -, hnoJoin⟩ := hs.activating a ha
          · exact absurd (hadmits.1.symm.trans hactive) nofun
          · exact absurd (hadmits.2.symm.trans hslot) nofun
          · exact ⟨.inr (.inr ⟨hframe, hrequest⟩), fun h => absurd (hframe.symm.trans h) nofun,
              hnoJoin⟩
      | joinRoom room token roomName supernode =>
          refine ⟨hs.create, fun _ hr => ⟨rfl, hr⟩, fun hr => absurd (hstays.symm.trans hr) nofun,
            nofun, fun a ha => ?_⟩
          obtain ⟨hactive | ⟨hframe, hslot⟩ | ⟨-, hslot, -⟩, hnoCreate, -⟩ := hs.activating a ha
          · exact absurd (hadmits.1.symm.trans hactive) nofun
          · exact ⟨.inr (.inl ⟨hframe, hslot⟩), hnoCreate,
              fun h => absurd (hframe.symm.trans h) nofun⟩
          · exact absurd (hadmits.2.symm.trans hslot) nofun
      | leaveRoom =>
          exact ⟨nofun, fun _ => nofun, fun _ => ⟨rfl, rfl⟩,
            fun hr => ⟨(hs.out hr).1, (hs.out hr).2.1, rfl, rfl⟩,
            fun a ha => ⟨(hs.activating a ha).request, fun _ => rfl, fun _ => rfl⟩⟩

lemma Recorded.finishLeave (hs : Recorded s) (h : Solicited s (.edge .finishLeave)) :
    Recorded (s.step P (.edge .finishLeave)) := by
  rw [Asking.step, Edge.step]
  cases hleaving : s.edge.leaving with
  | true =>
      obtain ⟨hcreate, hjoin⟩ := hs.leaving hleaving
      have hidle := h hleaving
      refine ⟨hs.create, hs.join, fun _ => ⟨hcreate, hjoin⟩,
        fun _ => ⟨rfl, hidle, hcreate, hjoin⟩, fun a ha => ?_⟩
      cases hidle.symm.trans ha
  | false =>
      rw [if_neg Bool.false_ne_true, Bool.or_false]
      exact hs

lemma Recorded.switchSupernode (hs : Recorded s) : Recorded (s.step P .switchSupernode) := by
  rw [Asking.step, Edge.switchSupernode]
  split_ifs <;>
    exact ⟨nofun, fun _ => nofun, fun _ => ⟨rfl, rfl⟩,
      fun hr => ⟨(hs.out hr).1, (hs.out hr).2.1, rfl, rfl⟩,
      fun a ha => ⟨(hs.activating a ha).request, fun _ => rfl, fun _ => rfl⟩⟩

/-- Solicited inputs keep requests and slots in agreement. -/
lemma Recorded.step (hs : Recorded s) {input : AskInput} (h : Solicited s input) :
    Recorded (s.step P input) := by
  cases input with
  | switchSupernode => exact hs.switchSupernode
  | endActivation routeOk => exact hs.endActivation routeOk
  | edge input =>
      cases input with
      | control frame addr io =>
          rw [Asking.step]
          split
          · exact hs
          next hidle => exact hs.receive h (by simpa using hidle)
      | data header payload addr io =>
          rw [Asking.step]
          split
          · exact hs
          · exact hs.of_same rfl rfl rfl rfl
      | command cmd sendOk => exact hs.command cmd sendOk
      | finishLeave => exact hs.finishLeave h
      | failover supernode => exact hs.of_same rfl rfl rfl rfl
      | send call =>
          simp only [Asking.step, Edge.step]
          split_ifs
          · exact hs.of_same rfl rfl rfl rfl
          · exact hs

/-- An activation under way ends with a request for its room. -/
lemma Recorded.requested (hs : Recorded s) (input : AskInput) : Requested s input := by
  cases input with
  | endActivation routeOk =>
      cases routeOk with
      | true =>
          intro a ha
          rcases (hs.activating a ha).request with hactive | ⟨-, hslot⟩ | ⟨-, hslot⟩
          · exact .inr (.inr hactive)
          · exact .inl hslot
          · exact .inr (.inl hslot)
      | false => trivial
  | _ => trivial

end Steps

/-! ## Runs -/

/-- **No room that was not asked for**, in a run in which a frame lets an edge without a room in
only as the answer to a request made since the last leave, and no activation is under way when a
leave ends; and an edge that has left stays out of every room until it is asked for one again. -/
theorem no_unrequested_room (P : Platform) (e : Edge) (inputs : List AskInput)
    (h : Along (step P) Solicited (start e) inputs) :
    Along (step P) Requested (start e) inputs ∧
      ((run (step P) (start e) inputs).requests.out = true →
        (run (step P) (start e) inputs).edge.roomId = none) := by
  have hstep : ∀ s input, Recorded s → Solicited s input → Recorded (s.step P input) :=
    fun _ _ hs hinput => hs.step hinput
  refine ⟨?_, fun hout => ?_⟩
  · exact Along.mono_of_invariant hstep (fun _ input hs _ => hs.requested input) inputs _
      (recorded_start e) h
  · exact ((invariant hstep inputs _ (recorded_start e) h).out hout).1

/-- The user asks to join room 7. -/
def askRoomSeven : AskInput :=
  .edge (.command (.joinRoom (.fill 7) none none (.localhost 9)) true)

/-- The supernode lets the edge into room 7, and the route is installed. -/
def enterRoomSeven : List AskInput := [.edge Edge.enterRoom, .endActivation true]

/-- The user asks to leave, and the routes have been removed. -/
def leaveRoom : List AskInput := [.edge (.command .leaveRoom true), .edge .finishLeave]

/-- Joining a room, leaving it and joining it again. -/
theorem requested_room_twice :
    Along (step .transparent) Requested (start (.sample 1))
      (askRoomSeven :: enterRoomSeven ++ leaveRoom ++ askRoomSeven :: enterRoomSeven) := by
  refine (no_unrequested_room .transparent (.sample 1) _ ?_).1
  exact ⟨trivial, fun _ _ => rfl, trivial, trivial, fun _ => rfl, trivial, fun _ _ => rfl, trivial,
    trivial⟩

/-- **A `JoinAccept` that arrives a second time**, after the room has been left: nothing is asked
for, and the edge is in the room again. -/
theorem late_accept_activates :
    let before := run (step .transparent) (start (.sample 1))
      (askRoomSeven :: enterRoomSeven ++ leaveRoom ++ [.edge Edge.enterRoom])
    let after := before.step .transparent (.endActivation true)
    before.requests.out = true ∧ ¬ Requested before (.endActivation true) ∧
      after.requests.out = true ∧ after.edge.roomId = some (.fill 7) := by
  intro before after
  have hslots : before.edge.pendingCreate = false ∧ before.edge.pendingJoin = false ∧
      before.edge.roomId = none := by decide +kernel
  have hunderway : before.activating.isSome = true := by decide +kernel
  refine ⟨by decide +kernel, fun h => ?_, by decide +kernel, by decide +kernel⟩
  obtain ⟨a, ha⟩ := Option.isSome_iff_exists.mp hunderway
  have hrequest := h a ha
  simp [Outstanding, hslots] at hrequest

end Asking

end R2N
