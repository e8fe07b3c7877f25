import R2N.Supernode.Reaper

/-!
# The management interface

`spawn_management_api` serves a few HTTP routes for the operator: reports on rooms, nodes and
load, and a route that kicks a node.  The router's state is made when `run` is called, with
`nodes.clone()` and `rooms.clone()`.  `DashMap::clone` copies the entries, and the router hands
each handler a clone of its state, so that a handler neither sees what the supernode does nor is
seen by it.

* `ManagementState`, `respond` — the state of the router and the handlers.
* `Managed` — the supernode with the interface: its inputs and requests in any order.
* `api_run` — the state of the router is the one of the start for good.
* **`management_current_iff`** — an authorised request is answered from the live tables and acts
  on them exactly if there was nothing to report or to kick.
-/

namespace R2N

open Run

namespace Supernode

/-! ## Handlers -/

/-- The fields of `SupernodeConfig` that only the interface reads. -/
structure ManagementConfig where
  managementBind : String
  federationId : String
  adminToken : String

/-- `ManagementState`. -/
structure ManagementState where
  nodes : KeyMap NodeId NodeInfo
  rooms : KeyMap RoomId Room
  peers : List String
  federationId : String
  adminToken : String

/-- Third-party code: how a socket address is read and printed, and an identifier. -/
structure AddrText where
  parse : String → Option SocketAddr
  print : SocketAddr → String
  hex : HexCodec

/-- What `spawn_management_api` does: nothing if there is no address to listen on, else it serves
a state with copies of the tables.  An address that cannot be read is an error of `run`. -/
def spawnManagementApi (T : AddrText) (sn : Supernode) (config : ManagementConfig) :
    Except Unit (Option ManagementState) :=
  let bind := Text.trimBy Text.isWhitespace config.managementBind.toList
  if bind.isEmpty then .ok none
  else
    match T.parse (String.ofList bind) with
    | none => .error ()
    | some _ =>
        .ok (some
          { nodes := sn.nodes
            rooms := sn.rooms
            peers := sn.config.peers
            federationId := config.federationId
            adminToken := config.adminToken })

/-- The headers that are read: the first of each name, where `to_str` succeeds. -/
structure AdminHeaders where
  authorization : Option String
  adminToken : Option String

/-- `authorized`. -/
def authorized (headers : AdminHeaders) (token : String) : Bool :=
  if token.toList.all Text.isWhitespace then false
  else headers.authorization = some ("Bearer " ++ token) ∨ headers.adminToken = some token

inductive StatusCode where
  | unauthorized
  | badRequest
deriving DecidableEq

structure RoomReport where
  roomId : String
  name : String
  virtualCidr : String
  members : ℕ
  leases : ℕ
deriving DecidableEq

structure NodeReport where
  nodeId : String
  addr : String
  natType : String
  nickname : String
  candidates : ℕ
  lastSeenSecs : ℕ
deriving DecidableEq

structure StatsReport where
  rooms : ℕ
  nodes : ℕ
  activeNodes : ℕ
deriving DecidableEq

def NatType.print : NatType → String
  | .openNat => "Open"
  | .cone => "Cone"
  | .symmetric => "Symmetric"
  | .unknown => "Unknown"

def roomReports (T : AddrText) (rooms : KeyMap RoomId Room) : List RoomReport :=
  (KeyMap.values rooms).map fun room =>
    { roomId := T.hex.encode room.roomId.bytes.toList
      name := room.name
      virtualCidr := room.virtualCidr
      members := room.members.entries.length
      leases := room.ipLeases.entries.length }

def nodeReports (T : AddrText) (now : Instant) (nodes : KeyMap NodeId NodeInfo) :
    List NodeReport :=
  (KeyMap.values nodes).map fun node =>
    { nodeId := T.hex.encode node.nodeId.bytes.toList
      addr := T.print node.addr
      natType := NatType.print node.natType
      nickname := node.nickname
      candidates := node.candidates.length
      lastSeenSecs := asSecs (now - node.lastSeen) }

def statsReport (nodes : KeyMap NodeId NodeInfo) (rooms : KeyMap RoomId Room) : StatsReport where
  rooms := rooms.entries.length
  nodes := nodes.entries.length
  activeNodes := nodes.entries.length

/-- The routes. -/
inductive ManagementRequest where
  | health
  | rooms
  | nodes
  | stats
  | federation
  | kickNode (nodeId : String)

inductive ManagementResponse where
  | health
  | rooms (reports : List RoomReport)
  | nodes (reports : List NodeReport)
  | stats (report : StatsReport)
  | federation (federationId : String) (peers : List String)
  | kicked (removed : Bool)
deriving DecidableEq

namespace ManagementState

/-- The first lines of the handlers that want the token. -/
def guarded {α : Type} (state : ManagementState) (headers : AdminHeaders)
    (answer : Except StatusCode α) : Except StatusCode α :=
  if !authorized headers state.adminToken then .error .unauthorized else answer

/-- `management_kick_node`, with the state it leaves. -/
def kickNode (T : AddrText) (state : ManagementState) (headers : AdminHeaders)
    (nodeId : String) : Except StatusCode Bool × ManagementState :=
  if !authorized headers state.adminToken then (.error .unauthorized, state)
  else
    match T.hex.decode nodeId with
    | none => (.error .badRequest, state)
    | some decoded =>
        if decoded.length = 32 then
          let id : NodeId := ⟨ByteArr.ofBytes 32 decoded⟩
          (.ok (state.nodes.lookup id).isSome, { state with nodes := state.nodes.erase id })
        else (.error .badRequest, state)

/-- The handlers, by route. -/
def respond (T : AddrText) (state : ManagementState) (now : Instant) (headers : AdminHeaders) :
    ManagementRequest → Except StatusCode ManagementResponse
  | .health => .ok .health
  | .rooms => state.guarded headers (.ok (.rooms (roomReports T state.rooms)))
  | .nodes => state.guarded headers (.ok (.nodes (nodeReports T now state.nodes)))
  | .stats => state.guarded headers (.ok (.stats (statsReport state.nodes state.rooms)))
  | .federation => state.guarded headers (.ok (.federation state.federationId state.peers))
  | .kickNode nodeId => (state.kickNode T headers nodeId).1.map .kicked

/-- A kick is right about the state it is given. -/
lemma kickNode_eq {T : AddrText} {state : ManagementState} {headers : AdminHeaders}
    {nodeId : String} {id : NodeId} (hauth : authorized headers state.adminToken = true)
    (hid : T.hex.decode nodeId = some id.bytes.toList) :
    state.kickNode T headers nodeId =
      (.ok (state.nodes.lookup id).isSome, { state with nodes := state.nodes.erase id }) := by
  have hlen : id.bytes.toList.length = 32 := id.bytes.toList_length
  have hbytes : (⟨ByteArr.ofBytes 32 id.bytes.toList⟩ : NodeId) = id := by
    rw [ByteArr.ofBytes_toList]
  unfold kickNode
  rw [hauth, hid]
  simp only [Bool.not_true, Bool.false_eq_true, if_false, hlen, if_true]
  rw [hbytes]

lemma guarded_of_authorized {α : Type} {state : ManagementState} {headers : AdminHeaders}
    (hauth : authorized headers state.adminToken = true) (answer : Except StatusCode α) :
    state.guarded headers answer = answer := by
  rw [guarded, hauth]
  rfl

end ManagementState

/-! ## The supernode with the interface -/

/-- The supernode and the router's state. -/
structure Managed where
  running : Running
  api : ManagementState

/-- `run` is called, and the interface is served. -/
def Managed.start (sn : Supernode) (api : ManagementState) : Managed where
  running := .start sn
  api := api

inductive ManagedInput where
  | supernode (input : SupernodeInput)
  | request (now : Instant) (headers : AdminHeaders) (request : ManagementRequest)

/-- One input.  The handler of a request works on a clone of the router's state, which is dropped
when it returns. -/
def Managed.step (S : SupernodeEnv) (m : Managed) : ManagedInput → Managed
  | .supernode input => { m with running := m.running.step S input }
  | .request _ _ _ => m

/-- The supernode whose tables are live. -/
def Managed.live (m : Managed) : Supernode := m.running.loop.sn

/-- The router's state never changes. -/
lemma api_run (S : SupernodeEnv) (inputs : List ManagedInput) (m : Managed) :
    (run (Managed.step S) m inputs).api = m.api := by
  refine invariant_forall (I := fun m' : Managed => m'.api = m.api) (fun m' input h => ?_) inputs
    m rfl
  cases input with
  | supernode input => exact h
  | request now headers request => exact h

/-- A supernode serves what its tables held when it started: nothing. -/
lemma api_empty {S : SupernodeEnv} {T : AddrText} {addressPool : String} {roomPrefixLen : ℕ}
    {config : SupernodeConfig} {management : ManagementConfig} {sn : Supernode}
    {api : ManagementState}
    (hnew : newWithConfig S.ipnet addressPool roomPrefixLen config = .ok sn)
    (hspawn : spawnManagementApi T sn management = .ok (some api)) :
    api.nodes = ∅ ∧ api.rooms = ∅ ∧ api.adminToken = management.adminToken := by
  obtain ⟨hnodes, -, hrooms, -⟩ := newWithConfig_ok hnew
  simp only [spawnManagementApi] at hspawn
  split_ifs at hspawn
  · cases hspawn
  · cases hparse : T.parse (String.ofList (Text.trimBy Text.isWhitespace
        management.managementBind.toList)) with
    | none => rw [hparse] at hspawn; cases hspawn
    | some addr =>
        rw [hparse] at hspawn
        obtain rfl := Option.some.inj (Except.ok.inj hspawn)
        exact ⟨hnodes, hrooms, rfl⟩

/-! ## Live answers -/

/-- What a request is to achieve: a kick removes the node from the live table and says so, and a
report is about the live tables, in whatever order a table is walked through. -/
def Current (S : SupernodeEnv) (T : AddrText) (m : Managed) (now : Instant)
    (headers : AdminHeaders) : ManagementRequest → Prop
  | .kickNode nodeId => ∀ id : NodeId, T.hex.decode nodeId = some id.bytes.toList →
      id ∈ m.live.nodes →
        m.api.respond T now headers (.kickNode nodeId) = .ok (.kicked true) ∧
        id ∉ (m.step S (.request now headers (.kickNode nodeId))).live.nodes
  | .nodes => ∃ reports, m.api.respond T now headers .nodes = .ok (.nodes reports) ∧
      reports.Perm (nodeReports T now m.live.nodes)
  | .rooms => ∃ reports, m.api.respond T now headers .rooms = .ok (.rooms reports) ∧
      reports.Perm (roomReports T m.live.rooms)
  | .stats => m.api.respond T now headers .stats =
      .ok (.stats (statsReport m.live.nodes m.live.rooms))
  | .health => True
  | .federation => True

/-- There is nothing to kick or to report. -/
def NothingThere (T : AddrText) (sn : Supernode) : ManagementRequest → Prop
  | .kickNode nodeId => ∀ id : NodeId, T.hex.decode nodeId = some id.bytes.toList → id ∉ sn.nodes
  | .nodes => sn.nodes = ∅
  | .rooms => sn.rooms = ∅
  | .stats => sn.nodes = ∅ ∧ sn.rooms = ∅
  | .health => True
  | .federation => True

lemma nodeReports_eq_nil_iff {T : AddrText} {now : Instant} {nodes : KeyMap NodeId NodeInfo} :
    nodeReports T now nodes = [] ↔ nodes = ∅ := by
  rw [nodeReports, List.map_eq_nil_iff, KeyMap.values_eq_nil_iff]

lemma roomReports_eq_nil_iff {T : AddrText} {rooms : KeyMap RoomId Room} :
    roomReports T rooms = [] ↔ rooms = ∅ := by
  rw [roomReports, List.map_eq_nil_iff, KeyMap.values_eq_nil_iff]

lemma statsReport_empty_iff {nodes : KeyMap NodeId NodeInfo} {rooms : KeyMap RoomId Room} :
    statsReport ∅ ∅ = statsReport nodes rooms ↔ nodes = ∅ ∧ rooms = ∅ := by
  rw [← KeyMap.entries_eq_nil_iff, ← KeyMap.entries_eq_nil_iff, ← List.length_eq_zero_iff,
    ← List.length_eq_zero_iff]
  constructor
  · intro h
    exact ⟨(congrArg StatsReport.nodes h).symm, (congrArg StatsReport.rooms h).symm⟩
  · rintro ⟨hnodes, hrooms⟩
    rw [statsReport, statsReport, hnodes, hrooms]
    rfl

/-- An empty report is right about a table without entries only. -/
lemma exists_report_iff {α : Type} {c : List α → ManagementResponse} (hc : Function.Injective c)
    {answer : Except StatusCode ManagementResponse} (hanswer : answer = .ok (c []))
    {live : List α} :
    (∃ reports, answer = .ok (c reports) ∧ reports.Perm live) ↔ live = [] := by
  rw [hanswer]
  constructor
  · rintro ⟨reports, heq, hperm⟩
    rw [← hc (Except.ok.inj heq)] at hperm
    exact hperm.nil_eq.symm
  · rintro rfl
    exact ⟨[], rfl, List.Perm.nil⟩

/-- **The management interface.**  In every run, a request with the right token is answered from
the live tables and acts on them exactly if there is nothing there: the node to kick is not
registered, and the tables a report is about are empty. -/
theorem management_current_iff {S : SupernodeEnv} {T : AddrText} {addressPool : String}
    {roomPrefixLen : ℕ} {config : SupernodeConfig} {management : ManagementConfig}
    {sn : Supernode} {api : ManagementState}
    (hnew : newWithConfig S.ipnet addressPool roomPrefixLen config = .ok sn)
    (hspawn : spawnManagementApi T sn management = .ok (some api)) (inputs : List ManagedInput)
    (now : Instant) {headers : AdminHeaders}
    (hauth : authorized headers management.adminToken = true) (request : ManagementRequest) :
    let m := run (Managed.step S) (.start sn api) inputs
    Current S T m now headers request ↔ NothingThere T m.live request := by
  intro m
  obtain ⟨hnodes, hrooms, htoken⟩ := api_empty hnew hspawn
  have hapi : m.api = api := api_run S inputs (.start sn api)
  have hauth' : authorized headers api.adminToken = true := by rwa [htoken]
  cases request with
  | health => exact Iff.rfl
  | federation => exact Iff.rfl
  | kickNode nodeId =>
      -- the copy knows no node, and the live table is not touched
      refine forall₂_congr fun id hid => ?_
      have hnone : api.nodes.lookup id = none := by rw [hnodes]; rfl
      have hanswer : m.api.respond T now headers (.kickNode nodeId) = .ok (.kicked false) := by
        rw [hapi, ManagementState.respond, ManagementState.kickNode_eq hauth' hid, hnone]
        rfl
      refine ⟨fun h hmem => ?_, fun h hmem => absurd hmem h⟩
      have hkicked := hanswer.symm.trans (h hmem).1
      cases hkicked
  | nodes =>
      have hanswer : m.api.respond T now headers .nodes = .ok (.nodes []) := by
        rw [hapi, ManagementState.respond, ManagementState.guarded_of_authorized hauth', hnodes]
        rfl
      exact (exists_report_iff (fun _ _ => ManagementResponse.nodes.inj) hanswer).trans
        nodeReports_eq_nil_iff
  | rooms =>
      have hanswer : m.api.respond T now headers .rooms = .ok (.rooms []) := by
        rw [hapi, ManagementState.respond, ManagementState.guarded_of_authorized hauth', hrooms]
        rfl
      exact (exists_report_iff (fun _ _ => ManagementResponse.rooms.inj) hanswer).trans
        roomReports_eq_nil_iff
  | stats =>
      have hanswer : m.api.respond T now headers .stats = .ok (.stats (statsReport ∅ ∅)) := by
        rw [hapi, ManagementState.respond, ManagementState.guarded_of_authorized hauth', hnodes,
          hrooms]
      rw [Current, hanswer, Except.ok.injEq, ManagementResponse.stats.injEq]
      exact statsReport_empty_iff

/-- A token, its header and addresses that are all read as one. -/
def adminConfig : ManagementConfig where
  managementBind := "127.0.0.1:9000"
  federationId := ""
  adminToken := "t"

def adminHeaders : AdminHeaders where
  authorization := none
  adminToken := some "t"

def sampleText : AddrText where
  parse := fun _ => some (.localhost 9000)
  print := fun _ => ""
  hex := .lower

/-- The state that is served for a supernode with empty tables. -/
def emptyApi : ManagementState where
  nodes := ∅
  rooms := ∅
  peers := []
  federationId := ""
  adminToken := "t"

/-- After a registration there is still no room, and the report on rooms is right. -/
theorem management_current_rooms :
    Current dottedEnv sampleText (run (Managed.step dottedEnv) (.start oneSubnet emptyApi)
      [.supernode (.datagram (register 1))]) 0 adminHeaders .rooms :=
  have hspawn : spawnManagementApi sampleText oneSubnet adminConfig = .ok (some emptyApi) := rfl
  have hauth : authorized adminHeaders adminConfig.adminToken = true := by decide
  have hrooms : (run (Managed.step dottedEnv) (.start oneSubnet emptyApi)
      [.supernode (.datagram (register 1))]).live.rooms = ∅ :=
    KeyMap.entries_eq_nil_iff.mp (List.length_eq_zero_iff.mp (by decide +kernel))
  (management_current_iff (S := dottedEnv) newWithConfig_oneSubnet hspawn
    [.supernode (.datagram (register 1))] 0 hauth .rooms).mpr hrooms

/-- **A kick without effect**: node 1 registers, the operator kicks it, and the interface reports
that there was no such node and lists none. -/
theorem kick_ignored :
    let m := run (Managed.step dottedEnv) (.start oneSubnet emptyApi)
      [.supernode (.datagram (register 1))]
    let kick := ManagementRequest.kickNode (lowerHex (NodeId.fill 1).bytes.toList)
    NodeId.fill 1 ∈ m.live.nodes ∧
      m.api.respond sampleText 0 adminHeaders kick = .ok (.kicked false) ∧
      NodeId.fill 1 ∈ (m.step dottedEnv (.request 0 adminHeaders kick)).live.nodes ∧
      m.api.respond sampleText 0 adminHeaders .nodes = .ok (.nodes []) := by
  decide +kernel

end Supernode

end R2N
