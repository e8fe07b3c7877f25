import Mathlib.Data.List.Destutter
import R2N.Supernode.Supernode
import R2N.Edge.Requests

/-!
# Registering at a supernode before using it

Four tasks of an edge send control frames to a supernode: the command loop, the watchdog, the task
that follows the port mappings, and the start-up.  The address they send to is the shared current
one, the one an invite names, or the one the watchdog has moved to.  A supernode refuses a node that
has not registered with it.

A change of the current supernode and the `RegisterNode` that follows are two steps, and other tasks
run in between.

* `FourTasks` — the tasks, interleaved where they await something, with the addresses that a
  `RegisterNode` has been sent to.
* `asks`, `introduces` — where an input has a room request sent to and which supernode it completes
  the introduction to, read off the input and the state it is taken in.
* **`mem_requests_act`**, **`registrations_act`** — what the tasks send is what these two say.
* **`registered_first_iff`** — every room request goes to a supernode the edge has registered with,
  along exactly those runs that make each request after the introduction to its supernode: a
  request to the current one, the watchdog's to the one it has moved to, and a join to the one that
  the invite resolves to.
-/

namespace R2N

open Run

/-! ## Addresses of supernodes -/

def IpAddr.isUnspecified : IpAddr → Bool
  | .v4 octets => octets = .fill 4 0
  | .v6 octets => octets = .fill 16 0

/-- Third-party code: the encoding of an invite, and how a socket address is read and printed. -/
structure InviteCodec where
  decode : String → Option InviteData
  encode : InviteData → String
  parseAddr : String → Option SocketAddr
  showAddr : SocketAddr → String

def InviteData.primarySupernodeAddr (invite : InviteData) : String :=
  if invite.primarySupernode.isEmpty then invite.supernodeAddr else invite.primarySupernode

def resolveSupernodeAddr (C : InviteCodec) (inviteAddr : String) (fallback : SocketAddr) :
    Option SocketAddr :=
  (C.parseAddr inviteAddr).map fun parsed =>
    if parsed.ip.isUnspecified then
      { ip := fallback.ip, port := if parsed.port = 0 then fallback.port else parsed.port }
    else parsed

def normalizeInviteCode (C : InviteCodec) (inviteCode : String) (fallback : SocketAddr) : String :=
  match C.decode inviteCode with
  | none => inviteCode
  | some invite =>
      match resolveSupernodeAddr C invite.primarySupernodeAddr fallback with
      | some addr =>
          C.encode
            { invite with primarySupernode := C.showAddr addr, supernodeAddr := C.showAddr addr }
      | none => inviteCode

def normalizeSupernodes (primary : SocketAddr) (supernodes : List SocketAddr) : List SocketAddr :=
  (primary :: supernodes.filter fun addr => addr ≠ primary).destutter (· ≠ ·)

def nextSupernodeAfter (current : SocketAddr) (supernodes : List SocketAddr) : SocketAddr :=
  if supernodes.length ≤ 1 then current
  else
    let index :=
      match supernodes.findIdx? fun addr => addr = current with
      | some idx => (idx + 1) % supernodes.length
      | none => 0
    supernodes.getD index current

/-- The requests about rooms. -/
def ControlFrame.isRoomRequest : ControlFrame → Bool
  | .createRoom _ | .joinRoom _ _ _ | .leaveRoom _ => true
  | _ => false

/-- The handlers of the UDP loop send handshakes only. -/
lemma Edge.handleControl_frames (N : Noise) (e : Edge) (frame : ControlFrame) (addr : SocketAddr)
    (io : EdgeIo) {x : ControlFrame × SocketAddr}
    (hx : x ∈ (e.handleControl N frame addr io).frames) :
    ∃ payload, x.1 = .handshake e.nodeId payload := by
  cases frame with
  | punchRequest target candidates =>
      simp only [handleControl] at hx
      cases hpeer : e.peers.lookup target with
      | none =>
          rw [handlePunchRequest_unknown N hpeer] at hx
          cases hx
      | some peer =>
          obtain ⟨dataplane, -, hout⟩ := handlePunchRequest_known N hpeer candidates io
          rw [hout] at hx
          obtain ⟨burst, hburst, hx⟩ := List.mem_flatten.mp hx
          rw [List.eq_of_mem_replicate hburst] at hx
          obtain ⟨pair, -, rfl⟩ := List.mem_map.mp hx
          exact ⟨_, rfl⟩
  | handshake fromNode payload =>
      simp only [handleControl] at hx
      cases hpeer : e.peers.lookup fromNode with
      | none =>
          rw [handleHandshake_unknown N hpeer] at hx
          cases hx
      | some peer =>
          rw [(handleHandshake_known N hpeer payload addr io).2.1] at hx
          obtain ⟨reply, -, rfl⟩ := List.mem_map.mp hx
          exact ⟨reply, rfl⟩
  | _ => cases hx

/-- The request of a command, and where it goes. -/
def Edge.request (e : Edge) : EdgeCommand → ControlFrame × SocketAddr
  | .createRoom name => (.createRoom name, e.supernodeAddr)
  | .joinRoom room token roomName supernode => (.joinRoom room token roomName, supernode)
  | .leaveRoom => (.leaveRoom (e.roomId.getD (.fill 0)), e.supernodeAddr)

lemma Edge.request_isRoomRequest (e : Edge) (cmd : EdgeCommand) :
    (e.request cmd).1.isRoomRequest = true := by
  cases cmd <;> rfl

lemma Edge.handleCommand_frames {e : Edge} {cmd : EdgeCommand} {sendOk : Bool}
    {x : ControlFrame × SocketAddr} (hx : x ∈ (e.handleCommand cmd sendOk).frames) :
    x = e.request cmd := by
  unfold handleCommand at hx
  split at hx
  · cases hx
  · cases cmd with
    | leaveRoom => exact List.mem_singleton.mp hx
    | createRoom _ | joinRoom _ _ _ _ =>
        simp only at hx
        split at hx
        · cases hx
        · exact List.mem_singleton.mp hx

/-! ## The tasks -/

/-- What the command loop is busy with besides a leave: a switch before and after it has changed the
current supernode, or the end of the process. -/
inductive CommandPhase where
  | ready
  | switching (addr : SocketAddr)
  | switched (addr : SocketAddr)
  | stopping
deriving DecidableEq

/-- Where the watchdog is: it has seen no sign of life of `current`, it has moved to `target`, or it
has sent its `RegisterNode` there. -/
inductive Watchdog where
  | idle
  | woken (current : SocketAddr)
  | moved (target : SocketAddr)
  | registered (target : SocketAddr)
deriving DecidableEq

structure FourTasks where
  edge : Edge
  supernodes : List SocketAddr
  activeInvite : Option String
  phase : CommandPhase
  watchdog : Watchdog
  registered : List SocketAddr
  met : List SocketAddr

/-- An input with what the transport answers: a frame may leave, be skipped because its target is of
the other address family, or fail. -/
inductive TaskInput where
  | control (frame : ControlFrame) (addr : SocketAddr) (io : EdgeIo)
  | finishLeave
  | create (name : String) (net : NetAnswer)
  | join (invite : String) (roomName : Option String) (net : NetAnswer)
  | leave (net : NetAnswer)
  | switch (addr : SocketAddr) (net : NetAnswer)
  | changeSupernode
  | registerSwitched (net : NetAnswer)
  | stop (net : NetAnswer)
  | wake (reachable : Bool)
  | failover
  | register (net : NetAnswer)
  | rejoin (roomName : Option String) (net : NetAnswer)
  | candidatesChanged (candidates : List Candidate) (net : NetAnswer)

/-- The frames that leave. -/
def NetAnswer.carried (net : NetAnswer) (frames : List (ControlFrame × SocketAddr)) :
    List (ControlFrame × SocketAddr) :=
  if net = .sent then frames else []

namespace FourTasks

/-- An edge once it has registered with its first supernode; it does not start otherwise. -/
def start (e : Edge) (supernodes : List SocketAddr) : FourTasks where
  edge := e
  supernodes := normalizeSupernodes e.supernodeAddr supernodes
  activeInvite := none
  phase := .ready
  watchdog := .idle
  registered := [e.supernodeAddr]
  met := [e.supernodeAddr]

/-- The invite kept for the watchdog, after a control frame. -/
def inviteAfter (C : InviteCodec) (s : FourTasks) (frame : ControlFrame) (io : EdgeIo) :
    Option String :=
  match frame with
  | .roomCreated room _ _ inviteCode =>
      if (s.edge.activateRoom room io).1 then
        some (normalizeInviteCode C inviteCode s.edge.supernodeAddr)
      else s.activeInvite
  | .joinReject _ => none
  | _ => s.activeInvite

/-- The `JoinRoom` command. -/
def handleJoin (C : InviteCodec) (s : FourTasks) (invite : String) (roomName : Option String)
    (net : NetAnswer) : FourTasks × List (ControlFrame × SocketAddr) :=
  match C.decode invite with
  | none => (s, [])
  | some data =>
      match resolveSupernodeAddr C data.primarySupernodeAddr s.edge.supernodeAddr with
      | none => (s, [])
      | some target =>
          let out := s.edge.handleCommand (.joinRoom data.roomId data.token roomName target)
            (net ≠ .failed)
          let refused := s.edge.leaving || s.edge.roomId.isSome || s.edge.pendingJoin
          ({ s with
              edge := out.edge
              activeInvite :=
                if refused then s.activeInvite else if net = .failed then none else some invite },
            net.carried out.frames)

/-- What a task does on an input, and the frames it sends.  The command loop takes a command only
when it is done with the one before. -/
def act (C : InviteCodec) (N : Noise) (s : FourTasks) :
    TaskInput → FourTasks × List (ControlFrame × SocketAddr)
  | .control frame addr io =>
      let out := s.edge.handleControl N frame addr io
      ({ s with edge := out.edge, activeInvite := s.inviteAfter C frame io }, out.frames)
  | .finishLeave => ({ s with edge := if s.edge.leaving then s.edge.finishLeave else s.edge }, [])
  | .create name net =>
      if s.phase ≠ .ready then (s, [])
      else
        let out := s.edge.handleCommand (.createRoom name) (net ≠ .failed)
        ({ s with edge := out.edge }, net.carried out.frames)
  | .join invite roomName net =>
      if s.phase ≠ .ready then (s, []) else s.handleJoin C invite roomName net
  | .leave net =>
      if s.phase ≠ .ready ∨ s.edge.leaving then (s, [])
      else
        ({ s with edge := s.edge.startLeave.edge, activeInvite := none },
          net.carried s.edge.startLeave.frames)
  | .switch addr net =>
      if s.phase ≠ .ready ∨ s.edge.leaving then (s, [])
      else
        ({ s with
            edge := s.edge.switchSupernode.edge, activeInvite := none, phase := .switching addr },
          net.carried s.edge.switchSupernode.frames)
  | .changeSupernode =>
      match s.phase, s.edge.leaving with
      | .switching addr, false =>
          ({ s with edge := { s.edge with supernodeAddr := addr }, phase := .switched addr }, [])
      | _, _ => (s, [])
  | .registerSwitched net =>
      match s.phase with
      | .switched addr => ({ s with phase := .ready }, net.carried [(s.edge.registerNode N, addr)])
      | _ => (s, [])
  | .stop net =>
      if s.phase ≠ .ready ∨ s.edge.leaving then (s, [])
      else
        ({ s with edge := s.edge.switchSupernode.edge, activeInvite := none, phase := .stopping },
          net.carried s.edge.switchSupernode.frames)
  | .wake reachable =>
      match s.watchdog with
      | .idle =>
          if s.edge.roomId.isSome && !reachable then
            ({ s with watchdog := .woken s.edge.supernodeAddr }, [])
          else (s, [])
      | _ => (s, [])
  | .failover =>
      match s.watchdog with
      | .woken current =>
          let target := nextSupernodeAfter current s.supernodes
          let supernodeAddr := if target ≠ current then target else s.edge.supernodeAddr
          ({ s with edge := { s.edge with supernodeAddr }, watchdog := .moved target }, [])
      | _ => (s, [])
  | .register net =>
      match s.watchdog with
      | .moved target =>
          ({ s with watchdog := .registered target },
            net.carried [(s.edge.registerNode N, target)])
      | _ => (s, [])
  | .rejoin roomName net =>
      match s.watchdog with
      | .registered target =>
          ({ s with watchdog := .idle },
            match s.activeInvite.bind C.decode with
            | some data => net.carried [(.joinRoom data.roomId data.token roomName, target)]
            | none => [])
      | _ => (s, [])
  | .candidatesChanged candidates net =>
      if candidates = s.edge.advertisedCandidates then (s, [])
      else
        let edge := { s.edge with advertisedCandidates := candidates }
        ({ s with edge }, net.carried [(edge.registerNode N, s.edge.supernodeAddr)])

/-- The addresses a `RegisterNode` is sent to. -/
def registrations (frames : List (ControlFrame × SocketAddr)) : List SocketAddr :=
  frames.filterMap fun x =>
    match x.1 with
    | .registerNode _ _ _ _ _ _ _ => some x.2
    | _ => none

/-- The addresses a room request is sent to. -/
def requests (frames : List (ControlFrame × SocketAddr)) : List SocketAddr :=
  frames.filterMap fun x => if x.1.isRoomRequest then some x.2 else none

/-- The supernode that an input completes the introduction to: the one a switch or the watchdog has
changed to, when the `RegisterNode` that follows the change leaves, and the current one, when
changed candidates do. -/
def introduces (s : FourTasks) : TaskInput → Option SocketAddr
  | .registerSwitched .sent =>
      match s.phase with
      | .switched addr => some addr
      | _ => none
  | .register .sent =>
      match s.watchdog with
      | .moved target => some target
      | _ => none
  | .candidatesChanged candidates .sent =>
      if candidates = s.edge.advertisedCandidates then none else some s.edge.supernodeAddr
  | _ => none

/-- The command loop takes the next command. -/
def Free (s : FourTasks) : Prop :=
  s.phase = .ready ∧ s.edge.leaving = false

instance (s : FourTasks) : Decidable s.Free :=
  inferInstanceAs (Decidable (_ ∧ _))

/-- Where the room request of an input goes, if it has one and the request leaves: a command to the
current supernode, but a join to where the invite resolves to and the watchdog's to the supernode it
has moved to. -/
def asks (C : InviteCodec) (s : FourTasks) : TaskInput → Option SocketAddr
  | .create _ .sent =>
      if s.Free ∧ s.edge.roomId = none ∧ s.edge.pendingCreate = false then
        some s.edge.supernodeAddr
      else none
  | .join invite _ .sent =>
      if s.Free ∧ s.edge.roomId = none ∧ s.edge.pendingJoin = false then
        (C.decode invite).bind fun data =>
          resolveSupernodeAddr C data.primarySupernodeAddr s.edge.supernodeAddr
      else none
  | .leave .sent => if s.Free then some s.edge.supernodeAddr else none
  | .switch _ .sent | .stop .sent =>
      if s.Free ∧ s.edge.roomId.getD (.fill 0) ≠ .fill 0 then some s.edge.supernodeAddr else none
  | .rejoin _ .sent =>
      match s.watchdog with
      | .registered target => if (s.activeInvite.bind C.decode).isSome then some target else none
      | _ => none
  | _ => none

/-- One step, with the supernodes that a `RegisterNode` is sent to and those that the introduction
is completed to. -/
def step (C : InviteCodec) (N : Noise) (s : FourTasks) (input : TaskInput) : FourTasks :=
  let out := s.act C N input
  { out.1 with
    registered := s.registered ++ registrations out.2
    met := s.met ++ (s.introduces input).toList }

/-- The room requests of a step go to supernodes that a `RegisterNode` has been sent to. -/
def RegisteredFirst (C : InviteCodec) (N : Noise) (s : FourTasks) (input : TaskInput) : Prop :=
  ∀ x ∈ (s.act C N input).2, x.1.isRoomRequest = true → x.2 ∈ s.registered

/-- A room request is made after the introduction to the supernode that it goes to. -/
def Introduced (C : InviteCodec) (s : FourTasks) (input : TaskInput) : Prop :=
  ∀ a, s.asks C input = some a → a ∈ s.met

/-! ## What the tasks send -/

section Frames

variable {C : InviteCodec} {N : Noise} {s : FourTasks}

@[simp] lemma registrations_nil : registrations [] = [] := rfl

@[simp] lemma requests_nil : requests [] = [] := rfl

@[simp] lemma carried_sent (frames : List (ControlFrame × SocketAddr)) :
    NetAnswer.sent.carried frames = frames := rfl

@[simp] lemma carried_skipped (frames : List (ControlFrame × SocketAddr)) :
    NetAnswer.skipped.carried frames = [] := rfl

@[simp] lemma carried_failed (frames : List (ControlFrame × SocketAddr)) :
    NetAnswer.failed.carried frames = [] := rfl

lemma mem_requests {frames : List (ControlFrame × SocketAddr)} {a : SocketAddr} :
    a ∈ requests frames ↔ ∃ x ∈ frames, x.1.isRoomRequest = true ∧ x.2 = a := by
  simp [requests, List.mem_filterMap]

/-- Room requests and handshakes are no `RegisterNode`. -/
lemma registrations_eq_nil {frames : List (ControlFrame × SocketAddr)}
    (h : ∀ x ∈ frames, x.1.isRoomRequest = true ∨
      ∃ nodeId payload, x.1 = .handshake nodeId payload) : registrations frames = [] := by
  refine List.filterMap_eq_nil_iff.mpr fun x hx => ?_
  obtain ⟨frame, addr⟩ := x
  rcases h _ hx with hrequest | ⟨nodeId, payload, rfl⟩
  · cases frame <;> first | rfl | cases hrequest
  · rfl

lemma requests_eq_nil {frames : List (ControlFrame × SocketAddr)}
    (h : ∀ x ∈ frames, x.1.isRoomRequest = false) : requests frames = [] :=
  List.filterMap_eq_nil_iff.mpr fun x hx => if_neg (by simp [h x hx])

lemma eq_of_mem_carried {net : NetAnswer} {x y : ControlFrame × SocketAddr}
    (h : x ∈ net.carried [y]) : x = y := by
  cases net with
  | sent => exact List.mem_singleton.mp h
  | skipped | failed => cases h

lemma mem_of_mem_carried {net : NetAnswer} {frames : List (ControlFrame × SocketAddr)}
    {x : ControlFrame × SocketAddr} (h : x ∈ net.carried frames) : x ∈ frames := by
  cases net with
  | sent => exact h
  | skipped | failed => cases h

/-- A join sends what the command sends with the room, the token and the address of the invite. -/
lemma handleJoin_sends {invite : String} {data : InviteData} (hdecode : C.decode invite = some data)
    (s : FourTasks) (roomName : Option String) (net : NetAnswer) :
    (s.handleJoin C invite roomName net).2 =
      ((resolveSupernodeAddr C data.primarySupernodeAddr s.edge.supernodeAddr).map fun target =>
        net.carried (s.edge.handleCommand (.joinRoom data.roomId data.token roomName target)
          (net ≠ .failed)).frames).getD [] := by
  simp only [handleJoin, hdecode]
  cases resolveSupernodeAddr C data.primarySupernodeAddr s.edge.supernodeAddr with
  | none => rfl
  | some target => rfl

/-- A frame of a join is the request of the command, for an invite that can be read. -/
lemma handleJoin_frame {invite : String} {roomName : Option String} {net : NetAnswer}
    {x : ControlFrame × SocketAddr} (hx : x ∈ (s.handleJoin C invite roomName net).2) :
    ∃ data target, C.decode invite = some data ∧
      x = s.edge.request (.joinRoom data.roomId data.token roomName target) := by
  cases hdecode : C.decode invite with
  | none =>
      rw [handleJoin, hdecode] at hx
      cases hx
  | some data =>
      rw [handleJoin_sends hdecode] at hx
      cases htarget : resolveSupernodeAddr C data.primarySupernodeAddr s.edge.supernodeAddr with
      | none =>
          rw [htarget] at hx
          cases hx
      | some target =>
          rw [htarget] at hx
          exact ⟨data, target, rfl, Edge.handleCommand_frames (mem_of_mem_carried hx)⟩

lemma switchSupernode_frames {e : Edge} {x : ControlFrame × SocketAddr}
    (hx : x ∈ e.switchSupernode.frames) : x.1.isRoomRequest = true := by
  unfold Edge.switchSupernode at hx
  split_ifs at hx
  · cases hx
  · simp only at hx
    split_ifs at hx
    · rw [List.mem_singleton.mp hx]
      rfl
    · cases hx

lemma free_iff_not_busy : s.Free ↔ ¬ (s.phase ≠ .ready ∨ s.edge.leaving = true) := by
  simp [Free]

/-- The request of a command leaves if the transport sends it, no leave is in progress and the edge
takes the command. -/
lemma mem_requests_handleCommand (e : Edge) (cmd : EdgeCommand) (net : NetAnswer)
    (a : SocketAddr) :
    a ∈ requests (net.carried (e.handleCommand cmd (net ≠ .failed)).frames) ↔
      net = .sent ∧ e.leaving = false ∧ e.Admits cmd ∧ (e.request cmd).2 = a := by
  cases net with
  | skipped | failed => simp
  | sent =>
      rw [carried_sent, mem_requests]
      by_cases hleaving : e.leaving = true
      · simp [Edge.handleCommand, hleaving, EdgeOutcome.silent]
      · cases cmd with
        | leaveRoom =>
            simp [Edge.handleCommand, hleaving, Edge.startLeave, Edge.Admits, Edge.request,
              ControlFrame.isRoomRequest]
        | createRoom _ | joinRoom _ _ _ _ =>
            cases hroom : e.roomId <;> cases hcreate : e.pendingCreate <;>
              cases hjoin : e.pendingJoin <;>
              simp [Edge.handleCommand, hleaving, hroom, hcreate, hjoin, EdgeOutcome.silent,
                Edge.Admits, Edge.request, ControlFrame.isRoomRequest]

/-- For a join: to where the invite resolves to. -/
lemma mem_requests_handleJoin (s : FourTasks) (invite : String) (roomName : Option String)
    (net : NetAnswer) (a : SocketAddr) :
    a ∈ requests (s.handleJoin C invite roomName net).2 ↔
      net = .sent ∧ s.edge.leaving = false ∧ s.edge.roomId = none ∧ s.edge.pendingJoin = false ∧
        ((C.decode invite).bind fun data =>
          resolveSupernodeAddr C data.primarySupernodeAddr s.edge.supernodeAddr) = some a := by
  cases hdecode : C.decode invite with
  | none => simp [handleJoin, hdecode]
  | some data =>
      rw [handleJoin_sends hdecode, Option.bind_some]
      cases resolveSupernodeAddr C data.primarySupernodeAddr s.edge.supernodeAddr with
      | none => simp
      | some target =>
          rw [Option.map_some, Option.getD_some, mem_requests_handleCommand]
          simp [Edge.Admits, Edge.request, and_assoc]

/-- So does the leave that a switch or a stop begins with, from a room that is not the zero one. -/
lemma mem_requests_switchSupernode (hfree : s.Free) (net : NetAnswer) (a : SocketAddr) :
    a ∈ requests (net.carried s.edge.switchSupernode.frames) ↔
      net = .sent ∧ s.edge.roomId.getD (.fill 0) ≠ .fill 0 ∧ s.edge.supernodeAddr = a := by
  cases net with
  | skipped | failed => simp
  | sent =>
      simp only [carried_sent, mem_requests, Edge.switchSupernode, hfree.2]
      by_cases hroom : s.edge.roomId.getD (.fill 0) = .fill 0 <;>
        simp [hroom, ControlFrame.isRoomRequest]

/-- **The room requests of a step** go to where the input and the state before it say. -/
lemma mem_requests_act (input : TaskInput) (a : SocketAddr) :
    a ∈ requests (s.act C N input).2 ↔ s.asks C input = some a := by
  have hnone : ∀ {frames : List (ControlFrame × SocketAddr)},
      (∀ x ∈ frames, x.1.isRoomRequest = false) → (a ∈ requests frames ↔ none = some a) := by
    intro frames h
    simp [requests_eq_nil h]
  have hnil : a ∈ requests [] ↔ none = some a := hnone (by simp)
  cases input with
  | control frame addr io =>
      refine hnone fun x hx => ?_
      obtain ⟨payload, hpayload⟩ := s.edge.handleControl_frames N frame addr io hx
      rw [hpayload]
      rfl
  | finishLeave => exact hnil
  | changeSupernode | failover =>
      simp only [act]
      split <;> exact hnil
  | wake reachable =>
      simp only [act]
      split
      · split_ifs <;> exact hnil
      · exact hnil
  | registerSwitched net | register net =>
      refine hnone fun x hx => ?_
      simp only [act] at hx
      split at hx
      · rw [eq_of_mem_carried hx]
        rfl
      · cases hx
  | candidatesChanged candidates net =>
      refine hnone fun x hx => ?_
      simp only [act] at hx
      split_ifs at hx
      · cases hx
      · rw [eq_of_mem_carried hx]
        rfl
  | create name net =>
      simp only [act]
      split
      next hphase => cases net <;> simp [asks, Free, hphase]
      next hphase =>
        rw [not_not] at hphase
        rw [mem_requests_handleCommand]
        cases net <;> simp [asks, Free, hphase, Edge.Admits, Edge.request, and_assoc]
  | join invite roomName net =>
      simp only [act]
      split
      next hphase => cases net <;> simp [asks, Free, hphase]
      next hphase =>
        rw [not_not] at hphase
        rw [mem_requests_handleJoin]
        cases net <;> simp [asks, Free, hphase, and_assoc]
  | leave net =>
      simp only [act]
      split
      next hbusy =>
        have hfree : ¬ s.Free := fun h => free_iff_not_busy.mp h hbusy
        cases net <;> simp [asks, hfree]
      next hidle =>
        have hfree : s.Free := free_iff_not_busy.mpr hidle
        cases net <;> simp [asks, hfree, mem_requests, Edge.startLeave, ControlFrame.isRoomRequest]
  | switch _ net | stop net =>
      simp only [act]
      split
      next hbusy =>
        have hfree : ¬ s.Free := fun h => free_iff_not_busy.mp h hbusy
        cases net <;> simp [asks, hfree]
      next hidle =>
        have hfree : s.Free := free_iff_not_busy.mpr hidle
        rw [mem_requests_switchSupernode hfree]
        cases net <;> simp [asks, hfree]
  | rejoin roomName net =>
      cases hwatchdog : s.watchdog with
      | registered target =>
          cases hinvite : s.activeInvite.bind C.decode <;> cases net <;>
            simp [act, asks, hwatchdog, hinvite, mem_requests, ControlFrame.isRoomRequest]
      | idle | woken _ | moved _ => cases net <;> simp [act, asks, hwatchdog]

/-- **The `RegisterNode`s of a step** go to the supernode that it completes the introduction to. -/
lemma registrations_act (input : TaskInput) :
    registrations (s.act C N input).2 = (s.introduces input).toList := by
  cases input with
  | control frame addr io =>
      refine registrations_eq_nil fun x hx => .inr ?_
      obtain ⟨payload, hpayload⟩ := s.edge.handleControl_frames N frame addr io hx
      exact ⟨_, payload, hpayload⟩
  | finishLeave => rfl
  | changeSupernode | failover =>
      simp only [act]
      split <;> rfl
  | wake reachable =>
      simp only [act]
      split
      · split_ifs <;> rfl
      · rfl
  | create name net =>
      refine registrations_eq_nil fun x hx => .inl ?_
      simp only [act] at hx
      split_ifs at hx
      · cases hx
      · rw [Edge.handleCommand_frames (mem_of_mem_carried hx)]
        rfl
  | join invite roomName net =>
      refine registrations_eq_nil fun x hx => .inl ?_
      simp only [act] at hx
      split_ifs at hx
      · cases hx
      · obtain ⟨data, target, -, rfl⟩ := handleJoin_frame hx
        exact Edge.request_isRoomRequest _ _
  | leave net =>
      refine registrations_eq_nil fun x hx => .inl ?_
      simp only [act] at hx
      split_ifs at hx
      · cases hx
      · rw [eq_of_mem_carried hx]
        rfl
  | switch _ net | stop net =>
      refine registrations_eq_nil fun x hx => .inl ?_
      simp only [act] at hx
      split_ifs at hx
      · cases hx
      · exact switchSupernode_frames (mem_of_mem_carried hx)
  | registerSwitched net =>
      cases hphase : s.phase <;> cases net <;>
        simp [act, introduces, hphase, registrations, Edge.registerNode]
  | register net =>
      cases hwatchdog : s.watchdog <;> cases net <;>
        simp [act, introduces, hwatchdog, registrations, Edge.registerNode]
  | rejoin roomName net =>
      refine registrations_eq_nil fun x hx => .inl ?_
      simp only [act] at hx
      split at hx
      · split at hx
        · rw [eq_of_mem_carried hx]
          rfl
        · cases hx
      · cases hx
  | candidatesChanged candidates net =>
      by_cases hsame : candidates = s.edge.advertisedCandidates <;> cases net <;>
        simp [act, introduces, hsame, registrations, Edge.registerNode]

end Frames

/-! ## Runs -/

/-- What has been registered with are the supernodes that the introduction is completed to. -/
lemma registered_eq_met_step {C : InviteCodec} {N : Noise} {s : FourTasks}
    (hs : s.registered = s.met) (input : TaskInput) :
    (s.step C N input).registered = (s.step C N input).met := by
  show s.registered ++ registrations (s.act C N input).2 = s.met ++ (s.introduces input).toList
  rw [hs, registrations_act]

lemma registeredFirst_iff {C : InviteCodec} {N : Noise} {s : FourTasks}
    (hs : s.registered = s.met) (input : TaskInput) :
    RegisteredFirst C N s input ↔ Introduced C s input :=
  calc RegisteredFirst C N s input
    _ ↔ ∀ a ∈ requests (s.act C N input).2, a ∈ s.registered := by
        simp only [RegisteredFirst, mem_requests]
        exact ⟨fun h a ⟨x, hx, hrequest, ha⟩ => ha ▸ h x hx hrequest,
          fun h x hx hrequest => h x.2 ⟨x, hx, hrequest, rfl⟩⟩
    _ ↔ Introduced C s input := by
        simp only [mem_requests_act, hs, Introduced]

/-- **Register before use.**  Every room request of a run goes to a supernode that the edge has sent
a `RegisterNode` to before, exactly if every request is made after the introduction to its
supernode: a create, a leave, a switch and a stop while the current supernode is one that the edge
has started with or whose `RegisterNode`, after the change to it, has left; a rejoin of the watchdog
when its `RegisterNode` has left; a join when the invite resolves to such a supernode. -/
theorem registered_first_iff (C : InviteCodec) (N : Noise) (e : Edge)
    (supernodes : List SocketAddr) (inputs : List TaskInput) :
    Along (step C N) (RegisteredFirst C N) (start e supernodes) inputs ↔
      Along (step C N) (Introduced C) (start e supernodes) inputs :=
  Along.iff_of_invariant_forall (I := fun s => s.registered = s.met)
    (fun _ input hs _ => registered_eq_met_step hs input)
    (fun _ input hs => registeredFirst_iff hs input) inputs _ rfl

/-- An encoding under which every invite is for room 7 and names the supernode at port 8. -/
def namingEight : InviteCodec where
  decode := fun _ => some
    { version := inviteVersion, primarySupernode := "localhost:8", fallbackSupernodes := []
      supernodeAddr := "", roomId := .fill 7, roomPubKey := .fill 32 0, virtualCidr := none
      token := none, expiresAt := none, signature := none }
  encode := fun _ => ""
  parseAddr := fun _ => some (.localhost 8)
  showAddr := fun _ => ""

/-- **An invite of another supernode**, and **a leave during a failover**: the `JoinRoom` of the one
and the `LeaveRoom` of the other go to the supernode at port 8, while only the one at port 9 has
been sent a `RegisterNode`. -/
theorem requests_before_registration :
    ¬ Along (step namingEight .transparent) (RegisteredFirst namingEight .transparent)
        (start (.sample 1) []) [.join "" none .sent] ∧
    ¬ Along (step namingEight .transparent) (RegisteredFirst namingEight .transparent)
        (start (.sample 1) [.localhost 8])
        [.control (.joinAccept (.fill 7) ⟨.fill 4 7⟩ "" none) (.localhost 9) (Edge.sampleIo 0 0),
          .wake false, .failover, .leave .sent] := by
  constructor
  · rintro ⟨hjoin, -⟩
    have hmem := hjoin (.joinRoom (.fill 7) none none, .localhost 8) (by decide +kernel) rfl
    exact absurd hmem (by decide +kernel)
  · rintro ⟨-, -, -, hleave, -⟩
    have hmem := hleave (.leaveRoom (.fill 7), .localhost 8) (by decide +kernel) rfl
    exact absurd hmem (by decide +kernel)

end FourTasks

end R2N
