import R2N.Proto.Wire
import R2N.Supernode.Relay
import R2N.Supernode.Turns

/-!
# What the supernode forwards

`Supernode::run` as it stands at its socket: bytes come in, are told apart by `recv_packet`, and
are handled as a control frame or copied into a slot for a task that sends them on.  The tables
change between the frames, and the tasks run whenever they run.

* `Daemon` — tables, receive loop and tasks; `Daemon.step` — one atomic step of any of them.
* `Daemon.due` — what is to be forwarded, in terms of the tables and of how many tasks there are:
  nothing is said of slots and buffers.
* `RelayLoop.carried` — what is on its way; `RelayLoop.balance` — no step loses or invents a frame.
* **`forwards_exactly`** — over any run, what was sent on and what is on its way is what was due:
  byte for byte, and each frame once.
* `Loop.hear` — the receive loop on packets instead of bytes.
* **`serves_packets_sent`** — over any run, the tables and the answers are those of that loop on the
  packets that nodes sent, in the order in which they were read.
-/

namespace R2N

namespace Supernode

open Run

namespace RelayLoop

variable {capacity : ℕ} {s : RelayLoop}

/-! ## Frames on their way -/

/-- The frames that no task has sent yet; one that fits no slot is about to be dropped. -/
def carried (s : RelayLoop) : List (SocketAddr × Bytes) :=
  (s.relaying.toList.filter fun r => r.frameLen ≤ defaultFrameCap).map
      (fun r => (r.target, r.frame)) ++
    (s.tasks.filter fun task => !task.sent).map fun task => (task.target, task.frame)

/-- What a step lets in, if there are `capacity` slots. -/
def admitted (capacity : ℕ) (s : RelayLoop) : RelayEvent → List (SocketAddr × Bytes)
  | .datagram nodes bytes =>
      match s.relaying, relayTarget nodes bytes with
      | none, some (frameLen, target) =>
          if frameLen ≤ defaultFrameCap ∧ s.tasks.length < capacity then [(target, bytes)] else []
      | _, _ => []
  | _ => []

/-- A slot is free iff there are fewer tasks than slots. -/
lemma Tracked.acquire_eq_none_iff (h : Tracked capacity s) (hr : s.relaying = none) :
    s.history.slab.acquire = none ↔ ¬ s.tasks.length < capacity := by
  have hheld : s.history.held.length = s.tasks.length := by
    rw [← h.owners_perm.length_eq, owners, hr]
    simp
  have hall := h.owned.sound.partition.length_eq
  simp only [SlabHistory.lending, Lending.onLoan, List.length_append, List.length_map,
    length_slotIndices, hheld] at hall
  rw [PacketSlab32.acquire, Option.map_eq_none_iff, BoundedQueue.pop, Option.map_eq_none_iff,
    List.head?_eq_none_iff, ← List.length_eq_zero_iff]
  omega

/-- A task that sends is no longer waiting. -/
lemma perm_unsent {tasks : List SendTask} {i : ℕ} {task : SendTask} (ht : tasks[i]? = some task)
    (hsent : task.sent = false) :
    (tasks.filter fun task => !task.sent).Perm (task ::
      ((tasks.modify i fun task => { task with sent := true }).filter fun task => !task.sent)) := by
  induction tasks generalizing i with
  | nil => cases ht
  | cons other tasks ih =>
      cases i with
      | zero =>
          obtain rfl := Option.some.inj ht
          simp [hsent]
      | succ i =>
          cases hother : other.sent with
          | true => simpa [List.modify_succ_cons, hother] using ih ht
          | false =>
              simp only [List.modify_succ_cons, hother, Bool.not_false, List.filter_cons_of_pos]
              exact ((ih ht).cons other).trans (List.Perm.swap _ _ _)

/-- A step that sends nothing on keeps the frames that wait. -/
lemma unsent_modify (tasks : List SendTask) (i : ℕ)
    (ht : ∀ task, tasks[i]? = some task → task.sent = true) :
    tasks.modify i (fun task => { task with sent := true }) = tasks := by
  refine List.ext_getElem (by simp) fun j hj hj' => ?_
  rw [List.getElem_modify]
  split_ifs with hij
  · subst hij
    have hsent := ht _ (List.getElem?_eq_getElem hj')
    generalize tasks[i] = task at hsent ⊢
    cases task
    cases hsent
    rfl
  · rfl

/-- **The balance of a step**: what was on its way and what was let in is what is sent and what is
on its way. -/
lemma balance (h : Tracked capacity s) (hc : s.Carries) (e : RelayEvent) :
    (s.carried ++ s.admitted capacity e).Perm (s.sends e ++ (s.step e).carried) := by
  cases e with
  | datagram nodes bytes =>
      cases hr : s.relaying with
      | some r => simp [admitted, sends, step, hr]
      | none =>
          cases ht : relayTarget nodes bytes with
          | none => simp [admitted, sends, step, hr, ht]
          | some found =>
              have hfree := h.acquire_eq_none_iff hr
              cases hacq : s.history.slab.acquire with
              | none =>
                  have hfull := hfree.mp hacq
                  simp [admitted, sends, step, hr, ht, hacq, hfull]
              | some acquired =>
                  have hroom : s.tasks.length < capacity := by
                    by_contra hfull
                    rw [hfree.mpr hfull] at hacq
                    cases hacq
                  simp only [admitted, sends, step, carried, hr, ht, hacq, hroom, and_true,
                    Option.toList_none, List.filter_nil, List.map_nil, List.nil_append,
                    Option.toList_some]
                  refine List.perm_append_comm.trans (List.Perm.append_right _ ?_)
                  by_cases hlen : found.1 ≤ defaultFrameCap <;> simp [hlen]
  | proceed =>
      cases hr : s.relaying with
      | none => simp [admitted, sends, step, hr]
      | some r =>
          by_cases hlong : r.frameLen > defaultFrameCap
          · have hdrop : ¬ r.frameLen ≤ defaultFrameCap := by omega
            simp [admitted, sends, step, carried, hr, hlong, hdrop]
          · have hfits : r.frameLen ≤ defaultFrameCap := by omega
            simp only [admitted, sends, step, carried, hr, hlong, hfits, if_false,
              Option.toList_some, Option.toList_none, List.filter_nil, List.map_nil,
              List.nil_append, List.append_nil, List.filter_append, List.map_append,
              decide_true, List.filter_cons_of_pos, List.map_cons, Bool.not_false]
            exact List.perm_append_comm
  | send i =>
      cases ht : s.tasks[i]? with
      | none =>
          have hkeep := unsent_modify s.tasks i (by simp [ht])
          simp [admitted, sends, step, carried, ht, hkeep]
      | some task =>
          cases hsent : task.sent with
          | true =>
              have hkeep := unsent_modify s.tasks i (by simp [ht, hsent])
              simp [admitted, sends, step, carried, ht, hsent, hkeep]
          | false =>
              -- the slot still holds the frame that was copied
              obtain ⟨slot, hget, htake⟩ := hc.tasks task (List.mem_of_getElem? ht)
              have hperm := (perm_unsent ht hsent).map fun task => (task.target, task.frame)
              simp only [admitted, sends, step, carried, ht, hsent, hget, htake, List.append_nil,
                Bool.false_eq_true, if_false, Option.toList_some, List.map_cons, List.map_nil,
                List.singleton_append]
              exact (hperm.append_left _).trans List.perm_middle
  | finish i =>
      cases ht : s.tasks[i]? with
      | none => simp [admitted, sends, step, ht]
      | some task =>
          cases hsent : task.sent with
          | false => simp [admitted, sends, step, ht, hsent]
          | true =>
              obtain ⟨hi, rfl⟩ := List.getElem?_eq_some_iff.mp ht
              have hperm := (List.getElem_cons_eraseIdx_perm hi).symm.filter
                fun task => !task.sent
              simp only [hsent, Bool.not_true, Bool.false_eq_true, not_false_eq_true,
                List.filter_cons_of_neg] at hperm
              simp only [admitted, sends, step, carried, ht, hsent, if_true, List.append_nil,
                List.nil_append]
              exact (hperm.map _).append_left _

end RelayLoop

/-! ## The receive loop at its socket -/

/-- The supernode with its tasks.  `stuck` says that a handler has not returned. -/
structure Daemon where
  sn : Supernode
  stuck : Bool
  relay : RelayLoop

/-- A datagram is there to be read, the loop goes on with the frame it has a slot for, or the task
at `i` sends its frame or, having done so, ends. -/
inductive DaemonEvent where
  | datagram (bytes : Bytes) (addr : SocketAddr) (io : SupernodeIo)
  | proceed
  | send (i : ℕ)
  | finish (i : ℕ)

namespace Daemon

def start (sn : Supernode) (slab : PacketSlab32 defaultFrameCap) : Daemon :=
  { sn, stuck := false, relay := .start slab }

/-- The loop waits for a datagram. -/
def reads (d : Daemon) : Bool := !d.stuck && d.relay.relaying.isNone

/-- What the loop reads. -/
def packet (C : ControlCodec) (d : Daemon) : DaemonEvent → Option TransportPacket
  | .datagram bytes _ _ => if d.reads then (recvPacket C.fromBytes bytes).toOption else none
  | _ => none

/-- What an event is to the relay. -/
def relayEvent (C : ControlCodec) (d : Daemon) (e : DaemonEvent) : Option RelayEvent :=
  match e with
  | .datagram bytes addr io =>
      match d.packet C e with
      | some (.data _) => some (.datagram (d.sn.touch io.now addr).nodes bytes)
      | _ => none
  | .proceed => some .proceed
  | .send i => some (.send i)
  | .finish i => some (.finish i)

/-- What an event is to the tables, and what is answered. -/
def control (S : SupernodeEnv) (C : ControlCodec) (d : Daemon) (e : DaemonEvent) : Loop × Frames :=
  let l : Loop := ⟨d.sn, d.stuck⟩
  match e with
  | .datagram _ addr io =>
      match d.packet C e with
      | some (.control frame) =>
          (l.step S { frame, addr, io }, l.frames S { frame, addr, io })
      | some (.data _) => (⟨d.sn.touch io.now addr, d.stuck⟩, [])
      | none => (l, [])
  | _ => (l, [])

/-- One step. -/
def step (S : SupernodeEnv) (C : ControlCodec) (d : Daemon) (e : DaemonEvent) : Daemon :=
  let l := (d.control S C e).1
  { sn := l.sn, stuck := l.stuck, relay := ((d.relayEvent C e).map d.relay.step).getD d.relay }

/-- The data frames a step hands to the transport. -/
def forwards (C : ControlCodec) (d : Daemon) (e : DaemonEvent) : List (SocketAddr × Bytes) :=
  ((d.relayEvent C e).map d.relay.sends).getD []

/-- What a datagram is due to become: a data frame that is read goes to the address under which its
destination is registered, if it is short enough and not every slot is in use. -/
def due (C : ControlCodec) (capacity : ℕ) (d : Daemon) (e : DaemonEvent) :
    List (SocketAddr × Bytes) :=
  match e with
  | .datagram bytes _ _ =>
      match d.packet C e with
      | some (.data view) =>
          if bytes.length ≤ defaultFrameCap ∧ d.relay.tasks.length < capacity then
            ((d.sn.addrOf view.header.dstNode).map fun target => (target, bytes)).toList
          else []
      | _ => []
  | _ => []

/-- A data frame is one whatever the control codec is. -/
lemma recvPacket_data_congr {postcard postcard' : Bytes → Option ControlFrame} {bytes : Bytes}
    {view : DataFrameView} (h : recvPacket postcard bytes = .ok (.data view)) :
    recvPacket postcard' bytes = .ok (.data view) := by
  unfold recvPacket at h ⊢
  split_ifs at h ⊢ with hcontrol hshort
  · split at h <;> cases h
  · exact h

/-- What the loop reads while it has nothing in hand. -/
lemma packet_eq_some {C : ControlCodec} {d : Daemon} {bytes : Bytes} {addr : SocketAddr}
    {io : SupernodeIo} {p : TransportPacket} (h : d.packet C (.datagram bytes addr io) = some p) :
    d.relay.relaying = none ∧ recvPacket C.fromBytes bytes = .ok p := by
  simp only [packet] at h
  split_ifs at h with hreads
  simp only [reads, Bool.and_eq_true, Option.isNone_iff_eq_none] at hreads
  refine ⟨hreads.2, ?_⟩
  cases hrecv : recvPacket C.fromBytes bytes with
  | error e =>
      rw [hrecv] at h
      cases h
  | ok q =>
      rw [hrecv] at h
      rw [Option.some.inj h]

/-- What is due is what the relay lets in. -/
lemma due_eq_admitted (C : ControlCodec) (capacity : ℕ) (d : Daemon) (e : DaemonEvent) :
    d.due C capacity e = ((d.relayEvent C e).map (d.relay.admitted capacity)).getD [] := by
  cases e with
  | datagram bytes addr io =>
      cases hp : d.packet C (.datagram bytes addr io) with
      | none => simp [due, relayEvent, hp]
      | some p =>
          cases p with
          | control frame => simp [due, relayEvent, hp]
          | data view =>
              obtain ⟨hidle, hrecv⟩ := packet_eq_some hp
              have hdata : recvPacket (fun _ => none) bytes = .ok (.data view) :=
                recvPacket_data_congr hrecv
              have hlen := RelayLoop.frameLen_of_recvPacket hdata
              have haddr := touch_addrOf d.sn io.now addr view.header.dstNode
              simp only [due, relayEvent, hp, Option.map_some, Option.getD_some,
                RelayLoop.admitted, hidle, relayTarget, hdata]
              rw [← haddr, addrOf]
              cases (d.sn.touch io.now addr).nodes.lookup view.header.dstNode with
              | none => simp
              | some info => simp [hlen]
  | proceed => rfl
  | send i => rfl
  | finish i => rfl

/-- The slots are apart and hold what was copied. -/
structure Sound (capacity : ℕ) (d : Daemon) : Prop where
  tracked : d.relay.Tracked capacity
  carries : d.relay.Carries

lemma Sound.step {capacity : ℕ} (hcap : capacity ≤ 2 ^ 32) (S : SupernodeEnv)
    (C : ControlCodec) {d : Daemon}
    (h : d.Sound capacity) (e : DaemonEvent) : (d.step S C e).Sound capacity := by
  have hrelay : (d.step S C e).relay = ((d.relayEvent C e).map d.relay.step).getD d.relay := rfl
  cases he : d.relayEvent C e with
  | none =>
      rw [he] at hrelay
      exact ⟨hrelay ▸ h.tracked, hrelay ▸ h.carries⟩
  | some event =>
      rw [he] at hrelay
      exact ⟨hrelay ▸ RelayLoop.tracked_step h.tracked event,
        hrelay ▸ RelayLoop.carries_step h.tracked hcap h.carries event⟩

/-- No step loses or invents a frame. -/
lemma Sound.balance {capacity : ℕ} (S : SupernodeEnv) (C : ControlCodec) {d : Daemon}
    (h : d.Sound capacity) (e : DaemonEvent) :
    (d.relay.carried ++ d.due C capacity e).Perm
      (d.forwards C e ++ (d.step S C e).relay.carried) := by
  have hrelay : (d.step S C e).relay = ((d.relayEvent C e).map d.relay.step).getD d.relay := rfl
  rw [due_eq_admitted, hrelay, forwards]
  cases d.relayEvent C e with
  | none => simp
  | some event => exact RelayLoop.balance h.tracked h.carries event

/-- **Forwarding is exact.**  Over any run of the supernode, however its tasks are interleaved with
the receive loop and with one another: the data frames it has handed to the transport and those on
their way are, each with its target, exactly those that were due.  None is lost, changed, sent
twice or sent elsewhere. -/
theorem forwards_exactly (S : SupernodeEnv) (C : ControlCodec) (sn : Supernode)
    {capacity headroom : ℕ} (hcap : capacity ≤ 2 ^ 32) {slab : PacketSlab32 defaultFrameCap}
    (hnew : PacketSlab32.new defaultFrameCap capacity headroom = some slab)
    (events : List DaemonEvent) :
    (collect (step S C) (due C capacity) (start sn slab) events).Perm
      (collect (step S C) (forwards C) (start sn slab) events ++
        (run (step S C) (start sn slab) events).relay.carried) := by
  have hstart : (start sn slab).Sound capacity :=
    ⟨RelayLoop.tracked_start hnew, RelayLoop.carries_start slab⟩
  exact account_perm (fun d : Daemon => d.relay.carried) (I := Sound capacity)
    (fun _ e h => h.step hcap S C e) (fun _ e h => h.balance S C e) events _ hstart

/-- The header of a frame of three bytes from node 1 to node 2. -/
def sampleHeader : DataHeader :=
  { version := protocolVersion, flags := 0, packetType := .ipv4, reserved := 0, ttl := 1
    roomId := .fill 7, srcNode := .fill 1, dstNode := .fill 2, originNode := .fill 1
    sessionId := ⟨0⟩, nonce := 1, packetId := ⟨0⟩, payloadLen := 3 }

def sampleFrame : Bytes := sampleHeader.wire ++ [1, 2, 3]

/-- Node 2 has registered; a frame for it is read, copied and sent. -/
def sampleTraffic : List DaemonEvent :=
  [.datagram sampleFrame (.localhost 1) sampleIo, .proceed, .send 0, .finish 0]

/-- The supernode after node 2 has registered. -/
def sampleTables : Supernode := (run (Loop.step .plain) ⟨fresh, false⟩ [register 2]).sn

/-- The frame is due, and it is what is sent. -/
theorem forwards_exactly_sample :
    ∃ slab, PacketSlab32.new defaultFrameCap 2 0 = some slab ∧
      collect (step .plain .heartbeats) (due .heartbeats 2) (start sampleTables slab)
        sampleTraffic = [(.localhost 2, sampleFrame)] ∧
      [(SocketAddr.localhost 2, sampleFrame)].Perm
        (collect (step .plain .heartbeats) (forwards .heartbeats) (start sampleTables slab)
            sampleTraffic ++
          (run (step .plain .heartbeats) (start sampleTables slab)
            sampleTraffic).relay.carried) := by
  obtain ⟨slab, hnew⟩ : ∃ slab, PacketSlab32.new defaultFrameCap 2 0 = some slab :=
    ⟨_, if_neg (by decide)⟩
  have hdue : collect (step .plain .heartbeats) (due .heartbeats 2) (start sampleTables slab)
      sampleTraffic = [(.localhost 2, sampleFrame)] := by
    have hrecv : recvPacket ControlCodec.heartbeats.fromBytes sampleFrame = .ok (.data
        { header := sampleHeader, payloadRange := sampleHeader.payloadRange }) :=
      recvPacket_data _ sampleHeader rfl [1, 2, 3] rfl
    have haddr : sampleTables.addrOf (.fill 2) = some (.localhost 2) := by decide +kernel
    have hlen : sampleFrame.length ≤ defaultFrameCap := by decide +kernel
    have hnone : (start sampleTables slab).reads = true := rfl
    simp only [sampleTraffic, collect_cons, collect_nil, due, packet, hnone, hrecv, if_true,
      Except.toOption]
    simp [start, RelayLoop.start, sampleHeader, haddr, hlen]
  refine ⟨slab, hnew, hdue, ?_⟩
  rw [← hdue]
  exact forwards_exactly .plain .heartbeats sampleTables (by decide) hnew sampleTraffic

end Daemon

/-! ## What the tables see -/

/-- A packet, where it comes from, and what the outside world answers meanwhile. -/
structure Heard where
  packet : NodePacket
  addr : SocketAddr
  io : SupernodeIo

/-- The receive loop on packets: a control frame is handled, a data frame shows that its sender is
there. -/
def Loop.hear (S : SupernodeEnv) (l : Loop) (h : Heard) : Loop :=
  match h.packet with
  | .control frame => l.step S { frame, addr := h.addr, io := h.io }
  | .data _ => { l with sn := l.sn.touch h.io.now h.addr }

/-- What it answers. -/
def Loop.reply (S : SupernodeEnv) (l : Loop) (h : Heard) : Frames :=
  match h.packet with
  | .control frame => l.frames S { frame, addr := h.addr, io := h.io }
  | .data _ => []

/-- A node sends a packet, which reaches the socket from `addr`; or the relay goes on. -/
inductive SocketEvent where
  | sent (packet : NodePacket) (localAddr : Option SocketAddr) (target addr : SocketAddr)
      (io : SupernodeIo)
  | proceed
  | send (i : ℕ)
  | finish (i : ℕ)

/-- What an event is at the socket. -/
def SocketEvent.daemonEvent (C : ControlCodec) : SocketEvent → Option DaemonEvent
  | sent packet localAddr target addr io =>
      (packet.send C localAddr target).map fun datagram => .datagram datagram.1 addr io
  | proceed => some .proceed
  | send i => some (.send i)
  | finish i => some (.finish i)

namespace Daemon

def stepSent (S : SupernodeEnv) (C : ControlCodec) (d : Daemon) (e : SocketEvent) : Daemon :=
  ((e.daemonEvent C).map (d.step S C)).getD d

/-- The control frames a step sends. -/
def answers (S : SupernodeEnv) (C : ControlCodec) (d : Daemon) (e : SocketEvent) : Frames :=
  ((e.daemonEvent C).map fun event => (d.control S C event).2).getD []

/-- The packet that is read, if the loop waits for one and it was sent at all. -/
def heard (C : ControlCodec) (d : Daemon) : SocketEvent → List Heard
  | .sent packet localAddr target addr io =>
      if d.reads && (packet.send C localAddr target).isSome then [{ packet, addr, io }] else []
  | _ => []

def loop (d : Daemon) : Loop := ⟨d.sn, d.stuck⟩

/-- A packet that was sent is what the loop reads. -/
lemma packet_of_sent {C : ControlCodec} {d : Daemon} {packet : NodePacket}
    {localAddr : Option SocketAddr} {target addr : SocketAddr} {io : SupernodeIo}
    {datagram : SentDatagram} (h : packet.send C localAddr target = some datagram)
    (hreads : d.reads = true) :
    d.packet C (.datagram datagram.1 addr io) = some packet.received := by
  rw [Daemon.packet, if_pos hreads, (recvPacket_send h).1]
  rfl

/-- **One step** of the socket is one of the loop on the packet that is read. -/
lemma control_eq (S : SupernodeEnv) (C : ControlCodec) (d : Daemon) (e : SocketEvent) :
    (d.stepSent S C e).loop = run (Loop.hear S) d.loop (d.heard C e) ∧
      d.answers S C e = collect (Loop.hear S) (Loop.reply S) d.loop (d.heard C e) := by
  cases e with
  | sent packet localAddr target addr io =>
      cases hsent : packet.send C localAddr target with
      | none => simp [stepSent, answers, SocketEvent.daemonEvent, heard, hsent]
      | some datagram =>
          cases hreads : d.reads with
          | false =>
              simp [stepSent, answers, SocketEvent.daemonEvent, heard, hsent, hreads, step, control,
                Daemon.packet, loop]
          | true =>
              have hpacket : d.packet C (.datagram datagram.1 addr io) = some packet.received :=
                packet_of_sent hsent hreads
              cases packet with
              | control frame =>
                  simp [stepSent, answers, SocketEvent.daemonEvent, heard, hsent, hreads, step,
                    control, hpacket, loop, NodePacket.received, Loop.hear, Loop.reply]
              | data frame =>
                  simp [stepSent, answers, SocketEvent.daemonEvent, heard, hsent, hreads, step,
                    control, hpacket, loop, NodePacket.received, Loop.hear, Loop.reply]
  | proceed => exact ⟨rfl, rfl⟩
  | send i => exact ⟨rfl, rfl⟩
  | finish i => exact ⟨rfl, rfl⟩

/-- **The supernode at its socket is the supernode of packets.**  Nodes send control frames, which
`postcard` writes, and data frames, and the relay does its work in between.  Then the tables and
the answers are those of a receive loop that is handed the packets themselves: in the order in which
they were read, none of them taken for another one. -/
theorem serves_packets_sent (S : SupernodeEnv) (C : ControlCodec) (sn : Supernode)
    (slab : PacketSlab32 defaultFrameCap) (events : List SocketEvent) :
    let packets := collect (stepSent S C) (heard C) (start sn slab) events
    (run (stepSent S C) (start sn slab) events).loop = run (Loop.hear S) ⟨sn, false⟩ packets ∧
      collect (stepSent S C) (answers S C) (start sn slab) events =
        collect (Loop.hear S) (Loop.reply S) ⟨sn, false⟩ packets :=
  ⟨run_drives (fun d e => (control_eq S C d e).1) events (start sn slab),
    collect_drives (fun d e => (control_eq S C d e).1) (fun d e => (control_eq S C d e).2) events
      (start sn slab)⟩

end Daemon

end Supernode

end R2N
