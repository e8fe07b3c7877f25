import R2N.Edge.Activation
import R2N.Lib.Toml
import R2N.Supernode.Supernode

/-!
# The configuration records

The records of `r2n-config`, with all their fields, and how `serde` reads and writes them.

Reading a record goes as in the derived code: the fields the document sets are read first, and then
the others get their defaults.  Three defaults are drawn at random each time.

* `EdgeConfig.Given`, `FullSupernodeConfig.Given` — the fields a document sets.
* `EdgeConfig.codec`, `FullSupernodeConfig.codec` — reading and writing, with the proof that a
  record that was written is read back.
-/

namespace R2N

open Toml (Table Codec)

/-- The formats of the crates below: `toml`, up to the tables it parses and prints, the addresses of
`ipnet`, and `hex`.  A document that was printed is parsed as what it was printed from; not every
table can be printed. -/
structure ConfigFormat where
  Text : Type
  parse : Text → Option Table
  print : Table → Option Text
  parse_print : ∀ {table : Table} {text : Text}, print table = some text →
    parse text = some table
  net : Codec IpNet
  hex : HexCodec

/-! ## Records -/

structure VirtualLanConfig where
  preferVirtualInterface : Bool
deriving DecidableEq

/-- `DiscoveryConfig` with the rate of its limiter. -/
structure FullDiscoveryConfig extends DiscoveryConfig where
  rateLimitPps : UInt32
deriving DecidableEq

/-- `TrafficRule` with its description. -/
structure FullTrafficRule extends TrafficRule where
  description : Option String
deriving DecidableEq

/-- `TrafficPolicy` with the descriptions of its rules. -/
structure FullTrafficPolicy where
  enabled : Bool
  defaultAction : TrafficAction
  rules : List FullTrafficRule
deriving DecidableEq

structure EdgeConfig where
  nodeId : NodeId
  privateKey : Key
  defaultSupernode : String
  supernodes : List String
  defaultTunName : String
  localUdpPort : UInt16
  tunMtu : UInt16
  stunServers : List String
  pingIntervalSecs : UInt64
  watchdogTimeoutSecs : UInt64
  logLevel : String
  nickname : String
  discovery : FullDiscoveryConfig
  backend : BackendConfig
  virtualLan : VirtualLanConfig
  trafficPolicy : FullTrafficPolicy
deriving DecidableEq

/-- `SupernodeConfig` with the fields that the handlers do not read; a `usize` has 64 bits. -/
structure FullSupernodeConfig extends SupernodeConfig where
  listenPort : UInt16
  adminToken : String
  managementBind : String
  federationId : String
  addressPool : String
  roomPrefixLen : UInt8
  roomIdleTimeoutSecs : UInt64
  maxRoomPeers : UInt64
  logLevel : String
deriving DecidableEq

/-! ## Defaults -/

/-- The random bytes one attempt at reading a document draws. -/
structure Draws where
  nodeId : ByteArr 32
  privateKey : ByteArr 32
  adminToken : ByteArr 32

def FullDiscoveryConfig.default : FullDiscoveryConfig where
  toDiscoveryConfig := .default
  rateLimitPps := 100

def BackendConfig.default : BackendConfig where
  mode := .tun
  desktopL2Enhanced := false

def VirtualLanConfig.default : VirtualLanConfig where
  preferVirtualInterface := true

def FullTrafficPolicy.default : FullTrafficPolicy where
  enabled := true
  defaultAction := .allow
  rules := []

def defaultStunServers : List String :=
  ["stun.miwifi.com:3478", "stun.qq.com:3478", "stun.12voip.com:3478", "stun.aa.net.uk:3478",
    "stun.acrobits.cz:3478", "stun.actionvoip.com:3478", "stun.annatel.net:3478",
    "stun.antisip.com:3478", "stun.cablenet-as.net:3478", "stun.cheapvoip.com:3478",
    "stun.commpeak.com:3478", "stun.cope.es:3478", "stun.dcalling.de:3478", "stun.dus.net:3478",
    "stun.easyvoip.com:3478", "stun.epygi.com:3478", "stun.freecall.com:3478",
    "stun.freeswitch.org:3478", "stun.freevoipdeal.com:3478", "stun.halonet.pl:3478",
    "stun.hoiio.com:3478", "stun.infra.net:3478", "stun.internetcalls.com:3478",
    "stun.intervoip.com:3478", "stun.ipfire.org:3478", "stun.ippi.fr:3478", "stun.it1.hr:3478",
    "stun.jumblo.com:3478", "stun.justvoip.com:3478", "stun.linphone.org:3478",
    "stun.liveo.fr:3478", "stun.lowratevoip.com:3478", "stun.myvoiptraffic.com:3478",
    "stun.mywatson.it:3478", "stun.netappel.com:3478", "stun.netgsm.com.tr:3478",
    "stun.nfon.net:3478", "stun.nonoh.net:3478", "stun.ooma.com:3478", "stun.pjsip.org:3478",
    "stun.poivy.com:3478", "stun.powervoip.com:3478", "stun.ppdi.com:3478",
    "stun.rockenstein.de:3478", "stun.rolmail.net:3478", "stun.rynga.com:3478",
    "stun.sip.us:3478", "stun.sipdiscount.com:3478", "stun.siplogin.de:3478",
    "stun.sipnet.net:3478", "stun.sipnet.ru:3478", "stun.siptraffic.com:3478",
    "stun.smartvoip.com:3478", "stun.smsdiscount.com:3478", "stun.solcon.nl:3478",
    "stun.solnet.ch:3478", "stun.sonetel.com:3478", "stun.sonetel.net:3478", "stun.srce.hr:3478",
    "stun.tel.lu:3478", "stun.telbo.com:3478", "stun.t-online.de:3478", "stun.twt.it:3478",
    "stun.uls.co.za:3478", "stun.usfamily.net:3478", "stun.vo.lu:3478",
    "stun.voicetrading.com:3478", "stun.voip.aebc.com:3478", "stun.voip.blackberry.com:3478",
    "stun.voip.eutelia.it:3478", "stun.voipblast.com:3478", "stun.voipbuster.com:3478",
    "stun.voipbusterpro.com:3478", "stun.voipcheap.com:3478", "stun.voipfibre.com:3478",
    "stun.voipgain.com:3478", "stun.voipinfocenter.com:3478", "stun.voipplanet.nl:3478",
    "stun.voippro.com:3478", "stun.voipraider.com:3478", "stun.voipstunt.com:3478",
    "stun.voipwise.com:3478", "stun.voipzoom.com:3478", "stun.voys.nl:3478",
    "stun.voztele.com:3478", "stun.webcalldirect.com:3478", "stun.zadarma.com:3478",
    "stun.l.google.com:19302", "stun1.l.google.com:19302", "stun2.l.google.com:19302",
    "stun3.l.google.com:19302", "stun4.l.google.com:19302"]

/-- `EdgeConfig::default`, whose fields are also the defaults of the fields left out. -/
def EdgeConfig.default (d : Draws) : EdgeConfig where
  nodeId := ⟨d.nodeId⟩
  privateKey := d.privateKey
  defaultSupernode := "127.0.0.1:7777"
  supernodes := ["127.0.0.1:7777"]
  defaultTunName := "r2n0"
  localUdpPort := 0
  tunMtu := 1280
  stunServers := defaultStunServers
  pingIntervalSecs := 2
  watchdogTimeoutSecs := 25
  logLevel := "info"
  nickname := "R2N-Peer"
  discovery := .default
  backend := .default
  virtualLan := .default
  trafficPolicy := .default

/-- `SupernodeConfig::default`, whose fields are also the defaults of the fields left out. -/
def FullSupernodeConfig.default (F : ConfigFormat) (d : Draws) : FullSupernodeConfig where
  listenPort := 7777
  publicAddr := none
  peers := []
  adminToken := F.hex.encode d.adminToken.toList
  managementBind := "127.0.0.1:7778"
  federationId := "default"
  addressPool := "192.168.0.0/16"
  roomPrefixLen := 24
  roomIdleTimeoutSecs := 300
  maxRoomPeers := 16
  logLevel := "info"

/-! ## Values -/

/-- `[u8; n]`. -/
def byteArrOf (n : ℕ) (l : Bytes) : Option (ByteArr n) :=
  if h : l.length = n then some ⟨l, h⟩ else none

lemma byteArrOf_toList {n : ℕ} (a : ByteArr n) : byteArrOf n a.toList = some a := by
  simp [byteArrOf]

/-- `NodeId`: a list of 32 numbers. -/
def NodeId.codec : Codec NodeId :=
  (Codec.list .uint8).refine (fun l => (byteArrOf 32 l).map NodeId.mk) (fun id => id.bytes.toList)
    fun id => by simp [byteArrOf_toList]

/-- `serialize_hex` and `deserialize_hex`. -/
def keyCodec (F : ConfigFormat) : Codec Key :=
  Codec.string.refine (fun s => (F.hex.decode s).bind (byteArrOf 32))
    (fun key => F.hex.encode key.toList) fun key => by simp [F.hex.decode_encode, byteArrOf_toList]

def BackendMode.codec : Codec BackendMode :=
  .named (fun mode => match mode with | .tun => "tun" | .tap => "tap") [.tun, .tap]
    fun mode => by cases mode <;> rfl

def TrafficAction.codec : Codec TrafficAction :=
  .named (fun action => match action with | .allow => "allow" | .deny => "deny") [.allow, .deny]
    fun action => by cases action <;> rfl

def TrafficDirection.codec : Codec TrafficDirection :=
  .named (fun direction => match direction with
      | .inbound => "inbound" | .outbound => "outbound" | .both => "both")
    [.inbound, .outbound, .both] fun direction => by cases direction <;> rfl

def TrafficProtocol.codec : Codec TrafficProtocol :=
  .named (fun protocol => match protocol with
      | .any => "any" | .tcp => "tcp" | .udp => "udp" | .icmp => "icmp")
    [.any, .tcp, .udp, .icmp] fun protocol => by cases protocol <;> rfl

/-! ## The records inside an edge's -/

def FullDiscoveryConfig.read (t : Table) : Option FullDiscoveryConfig := do
  let broadcast ← t.field "broadcast" .boolean true
  let subnetBroadcast ← t.field "subnet_broadcast" .boolean true
  let multicast ← t.field "multicast" .boolean true
  let mdns ← t.field "mdns" .boolean true
  let ssdp ← t.field "ssdp" .boolean true
  let netbios ← t.field "netbios" .boolean false
  let rateLimitPps ← t.field "rate_limit_pps" .uint32 100
  pure { broadcast, subnetBroadcast, multicast, mdns, ssdp, netbios, rateLimitPps }

def FullDiscoveryConfig.write (config : FullDiscoveryConfig) : Table :=
  [("broadcast", Codec.boolean.write config.broadcast),
    ("mdns", Codec.boolean.write config.mdns),
    ("multicast", Codec.boolean.write config.multicast),
    ("netbios", Codec.boolean.write config.netbios),
    ("rate_limit_pps", Codec.uint32.write config.rateLimitPps),
    ("ssdp", Codec.boolean.write config.ssdp),
    ("subnet_broadcast", Codec.boolean.write config.subnetBroadcast)]

def FullDiscoveryConfig.codec : Codec FullDiscoveryConfig :=
  Codec.table.refine read write fun config => by simp [read, write, Table.field]

def BackendConfig.read (t : Table) : Option BackendConfig := do
  let mode ← t.field "mode" BackendMode.codec .tun
  let desktopL2Enhanced ← t.field "desktop_l2_enhanced" .boolean false
  pure { mode, desktopL2Enhanced }

def BackendConfig.write (config : BackendConfig) : Table :=
  [("desktop_l2_enhanced", Codec.boolean.write config.desktopL2Enhanced),
    ("mode", BackendMode.codec.write config.mode)]

def BackendConfig.codec : Codec BackendConfig :=
  Codec.table.refine read write fun config => by simp [read, write, Table.field]

def VirtualLanConfig.read (t : Table) : Option VirtualLanConfig := do
  let preferVirtualInterface ← t.field "prefer_virtual_interface" .boolean true
  pure { preferVirtualInterface }

def VirtualLanConfig.write (config : VirtualLanConfig) : Table :=
  [("prefer_virtual_interface", Codec.boolean.write config.preferVirtualInterface)]

def VirtualLanConfig.codec : Codec VirtualLanConfig :=
  Codec.table.refine read write fun config => by simp [read, write, Table.field]

def PortRange.read (t : Table) : Option PortRange := do
  let start ← t.required "start" .uint16
  let stop ← t.required "end" .uint16
  pure { start, stop }

def PortRange.write (range : PortRange) : Table :=
  [("end", Codec.uint16.write range.stop), ("start", Codec.uint16.write range.start)]

def PortRange.codec : Codec PortRange :=
  Codec.table.refine read write fun range => by simp [read, write]

def FullTrafficRule.read (F : ConfigFormat) (t : Table) : Option FullTrafficRule := do
  let id ← t.required "id" .string
  let enabled ← t.field "enabled" .boolean true
  let action ← t.required "action" TrafficAction.codec
  let direction ← t.required "direction" TrafficDirection.codec
  let srcCidr ← t.optional "src_cidr" F.net
  let dstCidr ← t.optional "dst_cidr" F.net
  let protocol ← t.field "protocol" TrafficProtocol.codec .any
  let srcPorts ← t.field "src_ports" (.list PortRange.codec) []
  let dstPorts ← t.field "dst_ports" (.list PortRange.codec) []
  let description ← t.optional "description" .string
  pure { id, enabled, action, direction, srcCidr, dstCidr, protocol, srcPorts, dstPorts,
         description }

def FullTrafficRule.write (F : ConfigFormat) (rule : FullTrafficRule) : Table :=
  ("action", TrafficAction.codec.write rule.action) ::
    Table.entry "description" .string rule.description ++
  ("direction", TrafficDirection.codec.write rule.direction) ::
    Table.entry "dst_cidr" F.net rule.dstCidr ++
  [("dst_ports", (Codec.list PortRange.codec).write rule.dstPorts),
    ("enabled", Codec.boolean.write rule.enabled), ("id", Codec.string.write rule.id),
    ("protocol", TrafficProtocol.codec.write rule.protocol)] ++
  Table.entry "src_cidr" F.net rule.srcCidr ++
  [("src_ports", (Codec.list PortRange.codec).write rule.srcPorts)]

lemma FullTrafficRule.read_write (F : ConfigFormat) (rule : FullTrafficRule) :
    read F (write F rule) = some rule := by
  obtain ⟨⟨id, enabled, action, direction, srcCidr, dstCidr, protocol, srcPorts, dstPorts⟩,
    description⟩ := rule
  cases srcCidr <;> cases dstCidr <;> cases description <;>
    simp [read, write, Table.field, Table.entry]

def FullTrafficRule.codec (F : ConfigFormat) : Codec FullTrafficRule :=
  Codec.table.refine (read F) (write F) (read_write F)

def FullTrafficPolicy.read (F : ConfigFormat) (t : Table) : Option FullTrafficPolicy := do
  let enabled ← t.field "enabled" .boolean true
  let defaultAction ← t.field "default_action" TrafficAction.codec .allow
  let rules ← t.field "rules" (.list (FullTrafficRule.codec F)) []
  pure { enabled, defaultAction, rules }

def FullTrafficPolicy.write (F : ConfigFormat) (policy : FullTrafficPolicy) : Table :=
  [("default_action", TrafficAction.codec.write policy.defaultAction),
    ("enabled", Codec.boolean.write policy.enabled),
    ("rules", (Codec.list (FullTrafficRule.codec F)).write policy.rules)]

def FullTrafficPolicy.codec (F : ConfigFormat) : Codec FullTrafficPolicy :=
  Codec.table.refine (read F) (write F) fun policy => by simp [read, write, Table.field]

/-! ## The edge's record -/

lemma getD_getD_self {α : Type} (o : Option α) (a : α) : o.getD (o.getD a) = o.getD a := by
  cases o <;> rfl

namespace EdgeConfig

/-- The fields that a document sets. -/
structure Given where
  nodeId : Option NodeId
  privateKey : Option Key
  defaultSupernode : Option String
  supernodes : Option (List String)
  defaultTunName : Option String
  localUdpPort : Option UInt16
  tunMtu : Option UInt16
  stunServers : Option (List String)
  pingIntervalSecs : Option UInt64
  watchdogTimeoutSecs : Option UInt64
  logLevel : Option String
  nickname : Option String
  discovery : Option FullDiscoveryConfig
  backend : Option BackendConfig
  virtualLan : Option VirtualLanConfig
  trafficPolicy : Option FullTrafficPolicy

def Given.read (F : ConfigFormat) (t : Table) : Option Given := do
  let nodeId ← t.optional "node_id" NodeId.codec
  let privateKey ← t.optional "private_key" (keyCodec F)
  let defaultSupernode ← t.optional "default_supernode" .string
  let supernodes ← t.optional "supernodes" (.list .string)
  let defaultTunName ← t.optional "default_tun_name" .string
  let localUdpPort ← t.optional "local_udp_port" .uint16
  let tunMtu ← t.optional "tun_mtu" .uint16
  let stunServers ← t.optional "stun_servers" (.list .string)
  let pingIntervalSecs ← t.optional "ping_interval_secs" .uint64
  let watchdogTimeoutSecs ← t.optional "watchdog_timeout_secs" .uint64
  let logLevel ← t.optional "log_level" .string
  let nickname ← t.optional "nickname" .string
  let discovery ← t.optional "discovery" FullDiscoveryConfig.codec
  let backend ← t.optional "backend" BackendConfig.codec
  let virtualLan ← t.optional "virtual_lan" VirtualLanConfig.codec
  let trafficPolicy ← t.optional "traffic_policy" (FullTrafficPolicy.codec F)
  pure { nodeId, privateKey, defaultSupernode, supernodes, defaultTunName, localUdpPort, tunMtu,
         stunServers, pingIntervalSecs, watchdogTimeoutSecs, logLevel, nickname, discovery, backend,
         virtualLan, trafficPolicy }

/-- The record with the fields that are set, the others as in another record. -/
def Given.fill (g : Given) (dflt : EdgeConfig) : EdgeConfig where
  nodeId := g.nodeId.getD dflt.nodeId
  privateKey := g.privateKey.getD dflt.privateKey
  defaultSupernode := g.defaultSupernode.getD dflt.defaultSupernode
  supernodes := g.supernodes.getD dflt.supernodes
  defaultTunName := g.defaultTunName.getD dflt.defaultTunName
  localUdpPort := g.localUdpPort.getD dflt.localUdpPort
  tunMtu := g.tunMtu.getD dflt.tunMtu
  stunServers := g.stunServers.getD dflt.stunServers
  pingIntervalSecs := g.pingIntervalSecs.getD dflt.pingIntervalSecs
  watchdogTimeoutSecs := g.watchdogTimeoutSecs.getD dflt.watchdogTimeoutSecs
  logLevel := g.logLevel.getD dflt.logLevel
  nickname := g.nickname.getD dflt.nickname
  discovery := g.discovery.getD dflt.discovery
  backend := g.backend.getD dflt.backend
  virtualLan := g.virtualLan.getD dflt.virtualLan
  trafficPolicy := g.trafficPolicy.getD dflt.trafficPolicy

/-- The fields that are set keep their values. -/
lemma Given.fill_fill (g : Given) (dflt : EdgeConfig) : g.fill (g.fill dflt) = g.fill dflt := by
  simp [fill, getD_getD_self]

/-- A document with sections sets no field at top level. -/
lemma Given.read_sections (F : ConfigFormat) {t : Table} (h : t.OnlyKeys ["edge", "supernode"]) :
    ∃ g, Given.read F t = some g ∧ ∀ dflt, g.fill dflt = dflt := by
  simp [Given.read, h.optional, Given.fill]

/-- A record is read with the defaults of this attempt. -/
def read (F : ConfigFormat) (d : Draws) (t : Table) : Option EdgeConfig :=
  (Given.read F t).map fun g => g.fill (.default d)

def write (F : ConfigFormat) (config : EdgeConfig) : Table :=
  [("backend", BackendConfig.codec.write config.backend),
    ("default_supernode", Codec.string.write config.defaultSupernode),
    ("default_tun_name", Codec.string.write config.defaultTunName),
    ("discovery", FullDiscoveryConfig.codec.write config.discovery),
    ("local_udp_port", Codec.uint16.write config.localUdpPort),
    ("log_level", Codec.string.write config.logLevel),
    ("nickname", Codec.string.write config.nickname),
    ("node_id", NodeId.codec.write config.nodeId),
    ("ping_interval_secs", Codec.uint64.write config.pingIntervalSecs),
    ("private_key", (keyCodec F).write config.privateKey),
    ("stun_servers", (Codec.list .string).write config.stunServers),
    ("supernodes", (Codec.list .string).write config.supernodes),
    ("traffic_policy", (FullTrafficPolicy.codec F).write config.trafficPolicy),
    ("tun_mtu", Codec.uint16.write config.tunMtu),
    ("virtual_lan", VirtualLanConfig.codec.write config.virtualLan),
    ("watchdog_timeout_secs", Codec.uint64.write config.watchdogTimeoutSecs)]

/-- A record is written with all its fields. -/
lemma read_write (F : ConfigFormat) (d : Draws) (config : EdgeConfig) :
    read F d (write F config) = some config := by
  simp [read, write, Given.read, Given.fill]

def codec (F : ConfigFormat) (d : Draws) : Codec EdgeConfig :=
  Codec.table.refine (read F d) (write F) (read_write F d)

end EdgeConfig

/-! ## The supernode's record -/

namespace FullSupernodeConfig

/-- The fields that a document sets. -/
structure Given where
  listenPort : Option UInt16
  publicAddr : Option String
  peers : Option (List String)
  adminToken : Option String
  managementBind : Option String
  federationId : Option String
  addressPool : Option String
  roomPrefixLen : Option UInt8
  roomIdleTimeoutSecs : Option UInt64
  maxRoomPeers : Option UInt64
  logLevel : Option String

def Given.read (t : Table) : Option Given := do
  let listenPort ← t.optional "listen_port" .uint16
  let publicAddr ← t.optional "public_addr" .string
  let peers ← t.optional "peers" (.list .string)
  let adminToken ← t.optional "admin_token" .string
  let managementBind ← t.optional "management_bind" .string
  let federationId ← t.optional "federation_id" .string
  let addressPool ← t.optional "address_pool" .string
  let roomPrefixLen ← t.optional "room_prefix_len" .uint8
  let roomIdleTimeoutSecs ← t.optional "room_idle_timeout_secs" .uint64
  let maxRoomPeers ← t.optional "max_room_peers" .uint64
  let logLevel ← t.optional "log_level" .string
  pure { listenPort, publicAddr, peers, adminToken, managementBind, federationId, addressPool,
         roomPrefixLen, roomIdleTimeoutSecs, maxRoomPeers, logLevel }

/-- The record with the fields that are set, the others as in another record. -/
def Given.fill (g : Given) (dflt : FullSupernodeConfig) : FullSupernodeConfig where
  listenPort := g.listenPort.getD dflt.listenPort
  publicAddr := g.publicAddr.or dflt.publicAddr
  peers := g.peers.getD dflt.peers
  adminToken := g.adminToken.getD dflt.adminToken
  managementBind := g.managementBind.getD dflt.managementBind
  federationId := g.federationId.getD dflt.federationId
  addressPool := g.addressPool.getD dflt.addressPool
  roomPrefixLen := g.roomPrefixLen.getD dflt.roomPrefixLen
  roomIdleTimeoutSecs := g.roomIdleTimeoutSecs.getD dflt.roomIdleTimeoutSecs
  maxRoomPeers := g.maxRoomPeers.getD dflt.maxRoomPeers
  logLevel := g.logLevel.getD dflt.logLevel

/-- A document with sections sets no field at top level. -/
lemma Given.read_sections {t : Table} (h : t.OnlyKeys ["edge", "supernode"]) :
    ∃ g, Given.read t = some g ∧ ∀ dflt, g.fill dflt = dflt := by
  simp [Given.read, h.optional, Given.fill]

/-- A record is read with the defaults of this attempt. -/
def read (F : ConfigFormat) (d : Draws) (t : Table) : Option FullSupernodeConfig :=
  (Given.read t).map fun g => g.fill (.default F d)

def write (config : FullSupernodeConfig) : Table :=
  [("address_pool", Codec.string.write config.addressPool),
    ("admin_token", Codec.string.write config.adminToken),
    ("federation_id", Codec.string.write config.federationId),
    ("listen_port", Codec.uint16.write config.listenPort),
    ("log_level", Codec.string.write config.logLevel),
    ("management_bind", Codec.string.write config.managementBind),
    ("max_room_peers", Codec.uint64.write config.maxRoomPeers),
    ("peers", (Codec.list .string).write config.peers)] ++
  -- `None` is not written
  Table.entry "public_addr" .string config.publicAddr ++
  [("room_idle_timeout_secs", Codec.uint64.write config.roomIdleTimeoutSecs),
    ("room_prefix_len", Codec.uint8.write config.roomPrefixLen)]

/-- A record is written with all its fields but an address that is not set, which is also what it
is by default. -/
lemma read_write (F : ConfigFormat) (d : Draws) (config : FullSupernodeConfig) :
    read F d (write config) = some config := by
  obtain ⟨⟨peers, publicAddr⟩, _⟩ := config
  cases publicAddr <;> simp [read, write, Given.read, Given.fill, Table.entry, default]

def codec (F : ConfigFormat) (d : Draws) : Codec FullSupernodeConfig :=
  Codec.table.refine (read F d) write (read_write F d)

end FullSupernodeConfig

end R2N
