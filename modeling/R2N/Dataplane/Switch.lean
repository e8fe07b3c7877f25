import R2N.Lib.Run
import R2N.Dataplane.Firewall
import R2N.Dataplane.Records

/-!
# Learning where addresses live

On a TAP device the plane is a learning switch.  An accepted Ethernet frame records its source
address with the node it came from; entries go when they are older than five minutes, when the
table is full, and when their peer is removed; a frame for a recorded address goes to its peer
alone, and any other frame to every peer.

* `locate` — the table as a function, with one equation for each operation.
* `evicted_spec` — the entry that goes for want of room is one that none is older than.
* `heard`, `handleIncomingFrame_macTable` — what an incoming frame does to the table.
* `L2Event`, `standing` — the history of a run, and for each address the latest frame from it, if
  neither it was evicted nor its sender removed since.
* `Switch`, `Tracks` — runs of the plane with their history, and the invariant that ties the table
  to it.
* **`switching_sound`** — in every run the table is bounded and names current peers only, and a
  frame for an address goes to the peer that used it last, or to every peer once.
-/

namespace R2N

open Run

/-! ## The table -/

abbrev MacTable := KeyMap Mac MacTableEntry

namespace MacTable

/-- The node behind an address, and when the address was last seen. -/
def locate (t : MacTable) (mac : Mac) : Option (NodeId × Instant) :=
  (t.lookup mac).map fun entry => (entry.nodeId, entry.lastSeen)

/-- Seen within the last five minutes. -/
def current (now : Instant) (x : NodeId × Instant) : Bool := now - x.2 ≤ macTableMaxAge

/-- The table without the entries that are too old. -/
def pruned (t : MacTable) (now : Instant) : MacTable :=
  KeyMap.retain (fun _ entry => now - entry.lastSeen ≤ macTableMaxAge) t

/-- The table with an address recorded, before its size is looked at. -/
def recorded (t : MacTable) (now : Instant) (mac : Mac) (nodeId : NodeId) : MacTable :=
  KeyMap.upsert mac (fun entry => { entry with nodeId, lastSeen := now })
    { nodeId, learnedAt := now, lastSeen := now } (t.pruned now)

/-- The address that goes if the table is too large. -/
def evicted (t : MacTable) : Option Mac :=
  if t.keys.length > macTableMaxEntries then (DataPlane.oldestMac t.entries).map Prod.fst else none

/-- The table after an address was learned. -/
def learned (t : MacTable) (now : Instant) (mac : Mac) (nodeId : NodeId) : MacTable :=
  match (t.recorded now mac nodeId).evicted with
  | some old => (t.recorded now mac nodeId).erase old
  | none => t.recorded now mac nodeId

lemma locate_pruned (t : MacTable) (now : Instant) (mac : Mac) :
    (t.pruned now).locate mac = (t.locate mac).filter (current now) := by
  rw [locate, locate, pruned, KeyMap.lookup_retain, Option.filter_map]
  rfl

lemma locate_recorded (t : MacTable) (now : Instant) (mac : Mac) (nodeId : NodeId) (m : Mac) :
    (t.recorded now mac nodeId).locate m =
      if m = mac then some (nodeId, now) else (t.locate m).filter (current now) := by
  rw [← locate_pruned, locate, locate, recorded, KeyMap.lookup_upsert]
  split_ifs with hm
  · cases (t.pruned now).lookup mac <;> rfl
  · rfl

lemma locate_erase (t : MacTable) (old m : Mac) :
    locate (t.erase old) m = if m = old then none else t.locate m := by
  rw [locate, KeyMap.lookup_erase_eq]
  split_ifs <;> rfl

/-- **What learning does**: the address is recorded, old entries go, and one more may. -/
lemma locate_learned (t : MacTable) (now : Instant) (mac : Mac) (nodeId : NodeId) (m : Mac) :
    (t.learned now mac nodeId).locate m =
      if (t.recorded now mac nodeId).evicted = some m then none
      else if m = mac then some (nodeId, now) else (t.locate m).filter (current now) := by
  rw [learned, ← locate_recorded]
  cases (t.recorded now mac nodeId).evicted with
  | none => simp
  | some old =>
      simp only [locate_erase, Option.some.injEq]
      exact if_congr eq_comm rfl rfl

/-! ## Room in the table -/

/-- `min_by_key(last_seen)` finds an entry that none is older than. -/
lemma oldestMac_spec (l : List (Sigma fun _ : Mac => MacTableEntry)) :
    match DataPlane.oldestMac l with
    | none => l = []
    | some (mac, seen) =>
        (∃ entry, ⟨mac, entry⟩ ∈ l ∧ entry.lastSeen = seen) ∧ ∀ e ∈ l, seen ≤ e.2.lastSeen := by
  induction l with
  | nil => rfl
  | cons e l ih =>
      rw [DataPlane.oldestMac]
      cases hrest : DataPlane.oldestMac l with
      | none =>
          rw [hrest] at ih
          subst ih
          exact ⟨⟨e.2, List.mem_cons_self, rfl⟩, by simp⟩
      | some old =>
          obtain ⟨mac, seen⟩ := old
          rw [hrest] at ih
          obtain ⟨⟨entry, hmem, hseen⟩, hleast⟩ := ih
          simp only
          split_ifs with hle
          · refine ⟨⟨e.2, List.mem_cons_self, rfl⟩, fun x hx => ?_⟩
            rcases List.mem_cons.mp hx with rfl | hx
            · exact le_refl _
            · exact hle.trans (hleast x hx)
          · refine ⟨⟨entry, List.mem_cons_of_mem e hmem, hseen⟩, fun x hx => ?_⟩
            rcases List.mem_cons.mp hx with rfl | hx
            · exact (not_le.mp hle).le
            · exact hleast x hx

/-- **Eviction**: only from a table that is too large, and an entry that none is older than. -/
lemma evicted_spec {t : MacTable} {old : Mac} (h : t.evicted = some old) :
    macTableMaxEntries < t.keys.length ∧ ∃ entry, t.lookup old = some entry ∧
      ∀ mac other, t.lookup mac = some other → entry.lastSeen ≤ other.lastSeen := by
  unfold evicted at h
  split_ifs at h with hfull
  obtain ⟨⟨mac, seen⟩, hold, rfl⟩ := Option.map_eq_some_iff.mp h
  have hspec := oldestMac_spec t.entries
  rw [hold] at hspec
  obtain ⟨⟨entry, hmem, rfl⟩, hleast⟩ := hspec
  exact ⟨hfull, entry, AList.mem_lookup_iff.mpr hmem, fun mac other hother =>
    hleast ⟨mac, other⟩ (AList.mem_lookup_iff.mp hother)⟩

lemma evicted_isSome {t : MacTable} (h : macTableMaxEntries < t.keys.length) :
    ∃ old, t.evicted = some old := by
  rw [evicted, if_pos h]
  have hspec := oldestMac_spec t.entries
  cases hold : DataPlane.oldestMac t.entries with
  | none =>
      rw [hold] at hspec
      rw [AList.keys, show t.entries = [] from hspec] at h
      exact absurd h (Nat.not_lt_zero _)
  | some old => exact ⟨old.1, rfl⟩

lemma length_pruned_le (t : MacTable) (now : Instant) :
    (t.pruned now).keys.length ≤ t.keys.length := by
  simp only [AList.keys, List.keys, List.length_map, pruned, KeyMap.retain]
  exact List.length_filter_le _ _

lemma length_recorded_le (t : MacTable) (now : Instant) (mac : Mac) (nodeId : NodeId) :
    (t.recorded now mac nodeId).keys.length ≤ t.keys.length + 1 := by
  rw [recorded, KeyMap.upsert, AList.keys_insert, List.length_cons]
  exact Nat.succ_le_succ (List.length_erase_le.trans (t.length_pruned_le now))

/-- One entry is added, and one goes if there is one too many. -/
lemma length_learned_le {t : MacTable} (ht : t.keys.length ≤ macTableMaxEntries) (now : Instant)
    (mac : Mac) (nodeId : NodeId) :
    (t.learned now mac nodeId).keys.length ≤ macTableMaxEntries := by
  have hrecorded := t.length_recorded_le now mac nodeId
  unfold learned
  cases hevicted : (t.recorded now mac nodeId).evicted with
  | none =>
      by_contra hfull
      obtain ⟨old, hold⟩ := evicted_isSome (not_le.mp hfull)
      cases hevicted.symm.trans hold
  | some old =>
      obtain ⟨-, entry, hentry, -⟩ := evicted_spec hevicted
      have hmem : old ∈ (t.recorded now mac nodeId).keys :=
        AList.mem_keys.mpr (KeyMap.mem_iff_lookup.mpr ⟨entry, hentry⟩)
      simp only [AList.keys_erase, List.length_erase_of_mem hmem]
      omega

end MacTable

/-- `format_mac`. -/
def formatMac (mac : Mac) : String := ":".intercalate (mac.toList.map fun b => lowerHex [b])

structure L2TableEntry where
  mac : String
  nodeId : NodeId
  learnedForSecs : ℕ
  idleForSecs : ℕ
deriving DecidableEq

namespace DataPlane

/-! ## The operations of the plane -/

lemma learnMac_macTable (dp : DataPlane) (now : Instant) (mac : Mac) (nodeId : NodeId) :
    (dp.learnMac now mac nodeId).macTable = MacTable.learned dp.macTable now mac nodeId := by
  have hrecorded : KeyMap.upsert mac (fun entry => { entry with nodeId, lastSeen := now })
      { nodeId, learnedAt := now, lastSeen := now } (dp.pruneMacTable now).macTable =
      MacTable.recorded dp.macTable now mac nodeId := rfl
  simp only [learnMac, hrecorded, MacTable.learned, MacTable.evicted]
  split_ifs
  · rw [evictOldestMac]
    cases hold : oldestMac (MacTable.recorded dp.macTable now mac nodeId).entries with
    | none => rfl
    | some old => rfl
  · rfl

/-- The source address of an Ethernet frame that is accepted. -/
def heard (A : Aead) (dp : DataPlane) (now : Instant) (h : DataHeader) (payload : Bytes) :
    Option Mac :=
  if h.packetType = .ethernet then
    (dp.acceptedPacket A now h payload).bind fun packet => (ethernetMacs packet).map Prod.snd
  else none

/-- The table after a frame from `srcNode` with source address `mac`, if it has one. -/
def tableAfter (t : MacTable) (now : Instant) (srcNode : NodeId) : Option Mac → MacTable
  | some mac => t.learned now mac srcNode
  | none => t

lemma setDirectPath_macTable (dp : DataPlane) (now : Instant) (nodeId : NodeId)
    (addr : SocketAddr) (cipher : Option Cipher) :
    (dp.setDirectPath now nodeId addr cipher).macTable = dp.macTable := by
  obtain ⟨heap, h⟩ := dp.setDirectPath_plane now nodeId addr cipher
  rw [h]

lemma learnFromPacket_macTable (dp : DataPlane) (r : PeerRef) (h : DataHeader) (packet : Bytes)
    (addr : SocketAddr) (now : Instant) :
    (dp.learnFromPacket r h packet addr now).macTable = tableAfter dp.macTable now h.srcNode
      (if h.packetType = .ethernet then (ethernetMacs packet).map Prod.snd else none) := by
  have hpath : (if (dp.heap r).pathManager.isRelayAddr addr then dp
      else dp.setDirectPath now h.srcNode addr none).macTable = dp.macTable := by
    split_ifs
    · rfl
    · exact dp.setDirectPath_macTable now h.srcNode addr none
  unfold learnFromPacket
  simp only
  generalize (if (dp.heap r).pathManager.isRelayAddr addr then dp
      else dp.setDirectPath now h.srcNode addr none) = dp' at hpath ⊢
  cases hmacs : ethernetMacs packet with
  | none => cases h.packetType <;> exact hpath
  | some macs =>
      by_cases htype : h.packetType = .ethernet
      · simp only [htype, if_true, Option.map_some, tableAfter, learnMac_macTable, hpath]
      · rw [if_neg htype]
        cases ht : h.packetType <;> first | exact absurd ht htype | exact hpath

/-- **What an incoming frame does to the table.** -/
lemma handleIncomingFrame_macTable (A : Aead) (E : Etherparse) (macos : Bool) (dp : DataPlane)
    (h : DataHeader) (payload : Bytes) (addr : SocketAddr) (io : IncomingIo) :
    (dp.handleIncomingFrame A E macos h payload addr io).plane.macTable =
      tableAfter dp.macTable io.now h.srcNode (dp.heard A io.now h payload) := by
  rcases dp.handleIncomingFrame_cases A E macos h payload addr io with
    ⟨hnone, _, _, result, hcall⟩ | ⟨r, packet, heap, seenFlood, -, hsome, hcall⟩
  · rw [hcall, heard, hnone, Option.bind_none, ite_self]
    rfl
  rw [hcall, heard, hsome, Option.bind_some]
  unfold handlePacket
  split
  next hping => rw [if_neg (by rw [hping]; decide), sendToPeer_macTable]; rfl
  split
  next hpong =>
    rw [if_neg (by rw [hpong]; decide)]
    unfold recordPong
    split
    · split_ifs <;> rfl
    · rfl
  have hlearn := learnFromPacket_macTable { dp with heap, seenFlood } r h packet addr io.now
  rw [← hlearn]
  simp only
  split
  · rfl
  · split <;> rfl

lemma handleIncomingFrame_peers (A : Aead) (E : Etherparse) (macos : Bool) (dp : DataPlane)
    (h : DataHeader) (payload : Bytes) (addr : SocketAddr) (io : IncomingIo) :
    (dp.handleIncomingFrame A E macos h payload addr io).plane.peers = dp.peers := by
  rcases dp.handleIncomingFrame_keeps A E macos h payload addr io with
    ⟨hkeeps, -⟩ | ⟨r, dp', packet, -, -, -, hkeeps, hplane, -⟩
  · exact hkeeps.peers
  · rw [hplane, ← hkeeps.peers]
    rcases dp'.sendToPeer_effect A E r .pong packet (some addr) false io.pongSend with
      ⟨-, hsame, -⟩ | ⟨-, -, -, hpeers, -⟩
    · rw [hsame]
    · exact hpeers

/-- An accepted frame comes from a current peer. -/
lemma mem_peers_of_heard {A : Aead} {dp : DataPlane} {now : Instant} {h : DataHeader}
    {payload : Bytes} {mac : Mac} (hheard : dp.heard A now h payload = some mac) :
    h.srcNode ∈ dp.peers := by
  unfold heard at hheard
  split_ifs at hheard
  obtain ⟨packet, hpacket, -⟩ := Option.bind_eq_some_iff.mp hheard
  unfold acceptedPacket at hpacket
  split_ifs at hpacket
  cases hr : dp.peers.lookup h.srcNode with
  | none => rw [hr] at hpacket; cases hpacket
  | some r => exact KeyMap.mem_iff_lookup.mpr ⟨r, hr⟩

/-- `l2_table_snapshot`, which prunes the table before it reports it. -/
def l2TableSnapshot (dp : DataPlane) (now : Instant) : List L2TableEntry × DataPlane :=
  let dp := dp.pruneMacTable now
  (dp.macTable.entries.map fun e =>
    { mac := formatMac e.1, nodeId := e.2.nodeId, learnedForSecs := asSecs (now - e.2.learnedAt)
      idleForSecs := asSecs (now - e.2.lastSeen) }, dp)

end DataPlane

/-! ## Histories -/

/-- What happens to the knowledge of addresses. -/
inductive L2Event where
  /-- A frame with source `mac` was accepted from `nodeId`. -/
  | sent (mac : Mac) (nodeId : NodeId) (time : Instant)
  | evicted (mac : Mac)
  | removed (nodeId : NodeId)
  | cleared

/-- The latest frame from an address, newest event first, unless the address was evicted or the
node it came from removed since. -/
def standing : List L2Event → Mac → Option (NodeId × Instant)
  | [], _ => none
  | .sent mac nodeId time :: log, m => if m = mac then some (nodeId, time) else standing log m
  | .evicted mac :: log, m => if m = mac then none else standing log m
  | .removed nodeId :: log, m => (standing log m).filter fun x => x.1 ≠ nodeId
  | .cleared :: _, _ => none

/-- The operations of the plane, and the clock they read. -/
inductive SwitchInput where
  | frame (h : DataHeader) (payload : Bytes) (addr : SocketAddr) (io : IncomingIo)
  | upsert (peer : DataPeer)
  | remove (nodeId : NodeId)
  | clear
  | setRoom (roomId : Option RoomId)
  | snapshot (now : Instant)
  | select (now : Instant) (frame : Bytes)

/-- A plane with its history. -/
structure Switch where
  plane : DataPlane
  log : List L2Event
  clock : Instant

namespace Switch

/-- The events of a frame from which an address was heard, newest first. -/
def learnEvents (t : MacTable) (now : Instant) (srcNode : NodeId) : Option Mac → List L2Event
  | none => []
  | some mac =>
      ((t.recorded now mac srcNode).evicted.toList.map L2Event.evicted) ++ [.sent mac srcNode now]

def step (A : Aead) (E : Etherparse) (macos : Bool) (s : Switch) : SwitchInput → Switch
  | .frame h payload addr io =>
      { plane := (s.plane.handleIncomingFrame A E macos h payload addr io).plane
        log := learnEvents s.plane.macTable io.now h.srcNode (s.plane.heard A io.now h payload) ++
          s.log
        clock := io.now }
  | .upsert peer => { s with plane := s.plane.upsertPeer peer }
  | .remove nodeId =>
      { s with plane := s.plane.removePeer nodeId, log := .removed nodeId :: s.log }
  | .clear => { s with plane := s.plane.clearPeers, log := .cleared :: s.log }
  | .setRoom roomId => { s with plane := s.plane.setRoomId roomId }
  | .snapshot now => { s with plane := (s.plane.l2TableSnapshot now).2, clock := now }
  | .select now frame => { s with plane := (s.plane.selectL2Targets now frame).2, clock := now }

/-- The clock does not go back. -/
def Timely (s : Switch) : SwitchInput → Prop
  | .frame _ _ _ io => s.clock ≤ io.now
  | .snapshot now | .select now _ => s.clock ≤ now
  | .upsert _ | .remove _ | .clear | .setRoom _ => True

/-! ## The table follows the history -/

/-- The table knows the standing addresses that are not too old, and the nodes it knows are current
peers. -/
structure Tracks (s : Switch) : Prop where
  bounded : s.plane.macTable.keys.length ≤ macTableMaxEntries
  locate : ∀ now, s.clock ≤ now → ∀ mac,
    (MacTable.locate s.plane.macTable mac).filter (MacTable.current now) =
      (standing s.log mac).filter (MacTable.current now)
  peer : ∀ mac x, MacTable.locate s.plane.macTable mac = some x → x.1 ∈ s.plane.peers
  wellFormed : s.plane.WellFormed

/-- What was too old is too old later. -/
lemma filter_current_of_le {now later : Instant} (h : now ≤ later)
    (x : Option (NodeId × Instant)) :
    (x.filter (MacTable.current now)).filter (MacTable.current later) =
      x.filter (MacTable.current later) := by
  have hage : ∀ y, MacTable.current later y → MacTable.current now y := by
    intro y hy
    simp only [MacTable.current, decide_eq_true_eq] at hy ⊢
    exact (Nat.sub_le_sub_right h _).trans hy
  rw [Option.filter_filter]
  refine congrArg (Option.filter · x) (funext fun y => ?_)
  cases hy : MacTable.current later y with
  | false => simp
  | true => simp [hage y hy]

lemma Tracks.prune {s : Switch} (h : s.Tracks) {now : Instant} (hnow : s.clock ≤ now) :
    ({ s with plane := s.plane.pruneMacTable now, clock := now } : Switch).Tracks where
  bounded := (MacTable.length_pruned_le s.plane.macTable now).trans h.bounded
  locate := by
    intro later hlater mac
    show (MacTable.locate (MacTable.pruned s.plane.macTable now) mac).filter _ = _
    rw [MacTable.locate_pruned, filter_current_of_le hlater]
    exact h.locate later (hnow.trans hlater) mac
  peer := by
    intro mac x hx
    have hx : MacTable.locate (MacTable.pruned s.plane.macTable now) mac = some x := hx
    rw [MacTable.locate_pruned, Option.filter_eq_some_iff] at hx
    exact h.peer mac x hx.1
  wellFormed := h.wellFormed.of_owners rfl rfl fun _ => rfl

/-- What stands after a frame. -/
lemma standing_learnEvents (t : MacTable) (now : Instant) (srcNode : NodeId) (mac : Mac)
    (log : List L2Event) (m : Mac) :
    standing (learnEvents t now srcNode (some mac) ++ log) m =
      if (t.recorded now mac srcNode).evicted = some m then none
      else if m = mac then some (srcNode, now) else standing log m := by
  rw [learnEvents]
  cases (t.recorded now mac srcNode).evicted with
  | none => simp [standing]
  | some old =>
      simp only [Option.toList_some, List.map_cons, List.map_nil, List.cons_append,
        List.nil_append, standing, Option.some.injEq]
      exact if_congr eq_comm rfl rfl

lemma Tracks.frame {s : Switch} (h : s.Tracks) (A : Aead) (E : Etherparse) (macos : Bool)
    (hdr : DataHeader) (payload : Bytes) (addr : SocketAddr) (io : IncomingIo)
    (hnow : s.clock ≤ io.now) : (s.step A E macos (.frame hdr payload addr io)).Tracks := by
  have htable := s.plane.handleIncomingFrame_macTable A E macos hdr payload addr io
  have hpeers := s.plane.handleIncomingFrame_peers A E macos hdr payload addr io
  have hwell := h.wellFormed.handleIncomingFrame A E macos hdr payload addr io
  cases hheard : s.plane.heard A io.now hdr payload with
  | none =>
      rw [hheard] at htable
      refine ⟨?_, fun later hlater mac => ?_, fun mac x hx => ?_, hwell⟩
      · rw [step, htable]
        exact h.bounded
      · simp only [step, htable, hheard]
        exact h.locate later (hnow.trans hlater) mac
      · simp only [step, htable] at hx
        simp only [step, hpeers]
        exact h.peer mac x hx
  | some src =>
      rw [hheard, DataPlane.tableAfter] at htable
      refine ⟨?_, fun later hlater mac => ?_, fun mac x hx => ?_, hwell⟩
      · rw [step, htable]
        exact MacTable.length_learned_le h.bounded io.now src hdr.srcNode
      · have hlater : io.now ≤ later := hlater
        simp only [step, htable, hheard, MacTable.locate_learned, standing_learnEvents]
        split_ifs
        · rfl
        · rfl
        · rw [filter_current_of_le hlater]
          exact h.locate later (hnow.trans hlater) mac
      · simp only [step, htable, MacTable.locate_learned] at hx
        simp only [step, hpeers]
        split_ifs at hx
        · obtain rfl := Option.some.inj hx
          exact DataPlane.mem_peers_of_heard hheard
        · exact h.peer mac x (Option.filter_eq_some_iff.mp hx).1

lemma Tracks.upsert {s : Switch} (h : s.Tracks) (peer : DataPeer) :
    ({ s with plane := s.plane.upsertPeer peer } : Switch).Tracks := by
  have htable : (s.plane.upsertPeer peer).macTable = s.plane.macTable := by
    unfold DataPlane.upsertPeer
    split <;> rfl
  have hpeers : ∀ id ∈ s.plane.peers, id ∈ (s.plane.upsertPeer peer).peers := by
    intro id hid
    unfold DataPlane.upsertPeer
    split
    · exact hid
    · exact (AList.mem_insert _).mpr (.inr hid)
  refine ⟨by simpa only [htable] using h.bounded, ?_, ?_, h.wellFormed.upsertPeer peer⟩
  · simpa only [htable] using h.locate
  · intro mac x hx
    simp only [htable] at hx
    exact hpeers x.1 (h.peer mac x hx)

lemma Tracks.remove {s : Switch} (h : s.Tracks) (nodeId : NodeId) :
    ({ s with plane := s.plane.removePeer nodeId, log := .removed nodeId :: s.log } : Switch).Tracks
    where
  bounded := by
    refine le_trans ?_ h.bounded
    simp only [DataPlane.removePeer, AList.keys, List.keys, List.length_map, KeyMap.retain]
    exact List.length_filter_le _ _
  locate := by
    intro later hlater mac
    have hlocate : MacTable.locate (s.plane.removePeer nodeId).macTable mac =
        (MacTable.locate s.plane.macTable mac).filter fun x => x.1 ≠ nodeId := by
      rw [MacTable.locate, DataPlane.removePeer, KeyMap.lookup_retain, MacTable.locate,
        Option.filter_map]
      rfl
    -- the two conditions on an entry may be asked in either order
    have hswap : ∀ x : Option (NodeId × Instant),
        (x.filter fun y => y.1 ≠ nodeId).filter (MacTable.current later) =
          (x.filter (MacTable.current later)).filter fun y => y.1 ≠ nodeId := by
      intro x
      simp only [Option.filter_filter]
      exact congrArg (Option.filter · x) (funext fun y => Bool.and_comm _ _)
    rw [hlocate, standing, hswap, hswap, h.locate later hlater mac]
  peer := by
    intro mac x hx
    have hx : MacTable.locate (s.plane.removePeer nodeId).macTable mac = some x := hx
    rw [MacTable.locate, DataPlane.removePeer, KeyMap.lookup_retain] at hx
    obtain ⟨entry, hentry, rfl⟩ := Option.map_eq_some_iff.mp hx
    rw [Option.filter_eq_some_iff] at hentry
    refine AList.mem_erase.mpr ⟨by simpa using hentry.2, ?_⟩
    refine h.peer mac (entry.nodeId, entry.lastSeen) ?_
    rw [MacTable.locate, hentry.1]
    rfl
  wellFormed := h.wellFormed.removePeer nodeId

/-- **The invariant step.** -/
lemma Tracks.step {s : Switch} (h : s.Tracks) (A : Aead) (E : Etherparse) (macos : Bool)
    (input : SwitchInput) (htime : s.Timely input) : (s.step A E macos input).Tracks := by
  cases input with
  | frame hdr payload addr io => exact h.frame A E macos hdr payload addr io htime
  | upsert peer => exact h.upsert peer
  | remove nodeId => exact h.remove nodeId
  | clear =>
      refine ⟨Nat.zero_le _, fun _ _ _ => rfl, fun _ _ hx => ?_, DataPlane.wellFormed_of_empty rfl⟩
      cases hx
  | setRoom roomId =>
      exact ⟨h.bounded, h.locate, h.peer, h.wellFormed.of_owners rfl rfl fun _ => rfl⟩
  | snapshot now => exact h.prune htime
  | select now frame =>
      have hplane : (s.plane.selectL2Targets now frame).2 = s.plane.pruneMacTable now := by
        unfold DataPlane.selectL2Targets
        simp only
        split
        · rfl
        · split <;> rfl
      simp only [Switch.step, hplane]
      exact h.prune htime

/-! ## Targets -/

/-- The targets for an address: its peer alone if it is known, and every peer once if not. -/
def Reaches (dp : DataPlane) (known : Option (NodeId × Instant))
    (targets : List DataPlane.PacketTarget) : Prop :=
  match known with
  | some (nodeId, _) =>
      ∃ r, dp.peers.lookup nodeId = some r ∧ targets = [{ peer := r, flood := false }]
  | none =>
      (∀ target ∈ targets, target.flood = true) ∧
        ∀ nodeId, (targets.map fun target => (dp.heap target.peer).info.nodeId).count nodeId =
          if nodeId ∈ dp.peers then 1 else 0

/-- Flooding reaches every current peer exactly once. -/
lemma reaches_floodTargets {dp : DataPlane} (hw : dp.WellFormed) :
    Reaches dp none dp.floodTargets := by
  refine ⟨fun target htarget => ?_, fun nodeId => ?_⟩
  · obtain ⟨r, -, rfl⟩ := List.mem_map.mp htarget
    rfl
  · have hkeys : (dp.floodTargets.map fun target => (dp.heap target.peer).info.nodeId) =
        dp.peers.keys := by
      simp only [DataPlane.floodTargets, KeyMap.values, List.map_map, AList.keys, List.keys]
      exact List.map_congr_left fun e he => hw.nodeId e.1 e.2 (AList.mem_lookup_iff.mpr he)
    rw [hkeys, List.Nodup.count dp.peers.keys_nodup]
    exact if_congr AList.mem_keys.symm rfl rfl

lemma isMulticastMac_of_isBroadcastMac {mac : Mac} (h : isBroadcastMac mac = true) :
    isMulticastMac mac = true := by
  rw [isBroadcastMac, decide_eq_true_eq] at h
  subst h
  decide

lemma Tracks.reaches {s : Switch} (h : s.Tracks) {now : Instant} (hnow : s.clock ≤ now)
    {frame : Bytes} {dst src : Mac} (hmacs : ethernetMacs frame = some (dst, src))
    (hunicast : isMulticastMac dst = false) :
    Reaches s.plane ((standing s.log dst).filter (MacTable.current now))
      (s.plane.selectL2Targets now frame).1 := by
  have hbroadcast : isBroadcastMac dst = false :=
    Bool.eq_false_iff.mpr fun hb => by
      rw [isMulticastMac_of_isBroadcastMac hb] at hunicast
      cases hunicast
  have hlocate := (MacTable.locate_pruned s.plane.macTable now dst).trans (h.locate now hnow dst)
  rw [← hlocate, MacTable.locate]
  have hpruned : (s.plane.pruneMacTable now).macTable = MacTable.pruned s.plane.macTable now := rfl
  simp only [DataPlane.selectL2Targets, hmacs, hbroadcast, hunicast, Bool.or_self, hpruned]
  cases hentry : (MacTable.pruned s.plane.macTable now).lookup dst with
  | none => exact reaches_floodTargets h.wellFormed
  | some entry =>
      have hpeer : entry.nodeId ∈ s.plane.peers := by
        have hpruned := (h.prune hnow).peer dst (entry.nodeId, entry.lastSeen)
        exact hpruned (by rw [MacTable.locate]; exact congrArg (Option.map _) hentry)
      obtain ⟨r, hr⟩ := KeyMap.mem_iff_lookup.mp hpeer
      have hlookup : (s.plane.pruneMacTable now).peers.lookup entry.nodeId = some r := hr
      simp only [Option.bind_some, hlookup]
      exact ⟨r, hr, rfl⟩

/-! ## Runs -/

/-- A new plane, at time 0. -/
def start (localNodeId : NodeId) (tun : Option TunDevice) (discovery : DiscoveryConfig)
    (tunMtu : UInt16) (blank : DataPeer) : Switch where
  plane := .new localNodeId tun discovery tunMtu blank
  log := []
  clock := 0

/-- **Switching is sound.**  After every run the table holds at most 4096 entries, which name
current peers, and a frame for a unicast address goes to the peer the address was last heard from,
if that was at most five minutes ago and neither the address was evicted nor the peer removed
since; any other goes to every current peer once, as a flood. -/
theorem switching_sound (A : Aead) (E : Etherparse) (macos : Bool) (localNodeId : NodeId)
    (tun : Option TunDevice) (discovery : DiscoveryConfig) (tunMtu : UInt16) (blank : DataPeer)
    (inputs : List SwitchInput)
    (htime : Along (step A E macos) Timely (start localNodeId tun discovery tunMtu blank) inputs) :
    let s := run (step A E macos) (start localNodeId tun discovery tunMtu blank) inputs
    s.plane.macTable.keys.length ≤ macTableMaxEntries ∧
    (∀ mac entry, s.plane.macTable.lookup mac = some entry → entry.nodeId ∈ s.plane.peers) ∧
    ∀ now, s.clock ≤ now → ∀ frame dst src, ethernetMacs frame = some (dst, src) →
      isMulticastMac dst = false →
      Reaches s.plane ((standing s.log dst).filter (MacTable.current now))
        (s.plane.selectL2Targets now frame).1 := by
  intro s
  have hstart : (start localNodeId tun discovery tunMtu blank).Tracks := by
    refine ⟨Nat.zero_le _, fun _ _ _ => rfl, fun _ _ hx => ?_, DataPlane.wellFormed_of_empty rfl⟩
    cases hx
  have htracks : s.Tracks :=
    invariant (fun _ input h ht => h.step A E macos input ht) inputs _ hstart htime
  refine ⟨htracks.bounded, fun mac entry hentry => ?_, fun now hnow frame dst src => ?_⟩
  · exact htracks.peer mac (entry.nodeId, entry.lastSeen) (by rw [MacTable.locate, hentry]; rfl)
  · exact htracks.reaches hnow

/-- A peer joins and sends a frame from address `02:00:00:00:00:05`. -/
def oneFrame : List SwitchInput :=
  [.upsert (.fresh 0 { nodeId := .fill 2, virtualIp := ⟨ByteArr.fill 4 0⟩, nickname := ""
                       publicKey := .fill 32 0 } (.localhost 9999)),
    .setRoom (some (.fill 7)),
    .frame { DataPlane.keepaliveHeader with packetType := .ethernet }
      [2, 0, 0, 0, 0, 1, 2, 0, 0, 0, 0, 5, 8, 6] (.localhost 9999)
      { now := fromSecs 1, pongSend := .sent, pongReceived := none, tunWriteOk := true }]

/-- The plane `oneFrame` is run on. -/
def emptySwitch : Switch :=
  start (.fill 1) none .default 1280 (.fresh 0 { nodeId := .fill 0, virtualIp := ⟨ByteArr.fill 4 0⟩
                                                 nickname := "", publicKey := .fill 32 0 }
    (.localhost 9999))

/-- A frame for that address, five minutes later. -/
theorem switching_sound_oneFrame :
    let s := run (step .transparent .blind false) emptySwitch oneFrame
    (standing s.log ⟨[2, 0, 0, 0, 0, 5], rfl⟩).map Prod.fst = some (.fill 2) ∧
      Reaches s.plane ((standing s.log ⟨[2, 0, 0, 0, 0, 5], rfl⟩).filter
          (MacTable.current (fromSecs 301)))
        (s.plane.selectL2Targets (fromSecs 301) [2, 0, 0, 0, 0, 5, 2, 0, 0, 0, 0, 1, 8, 6]).1 := by
  have htime : Along (step .transparent .blind false) Timely emptySwitch oneFrame :=
    ⟨trivial, trivial, Nat.zero_le _, trivial⟩
  refine ⟨by decide +kernel, ?_⟩
  exact (switching_sound .transparent .blind false _ _ _ _ _ oneFrame htime).2.2 (fromSecs 301)
    (show fromSecs 1 ≤ fromSecs 301 by decide) [2, 0, 0, 0, 0, 5, 2, 0, 0, 0, 0, 1, 8, 6]
    ⟨[2, 0, 0, 0, 0, 5], rfl⟩ ⟨[2, 0, 0, 0, 0, 1], rfl⟩ (by decide) (by decide)

end Switch

end R2N
