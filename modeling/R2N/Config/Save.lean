import R2N.Config.Shared

/-!
# Saving one section

Saving an edge's configuration loads the file, replaces the section of the edge and writes both
sections; saving a supernode's does the same with the other one.  Whether the other section is kept
depends on what the file is taken for.  In a file that is not a shared one the sections are not
looked at, and what they set is lost.

* `SetsField` — a file sets a field, at top level or in the section.
* `EdgeKept`, `SupernodeKept` — whatever is drawn at random, the fields that the file sets are
  loaded as before after the other section was saved.
* `edgeKept_iff_again`, `supernodeKept_iff_again` — loading after a save is loading the old file
  again, so that only what is drawn can change; except for a supernode in a file that is taken for
  an edge's.
* **`save_keeps_iff`** — when saving either of them keeps what is set for the other.
-/

namespace R2N

open Toml (Table Codec)

/-! ## Fields that are set -/

/-- A file sets a field: at top level, or in the table under the name of the section. -/
def SetsField (top : Table) (name key : String) : Prop :=
  (top.lookup key).isSome ∨ ∃ t, top.lookup name = some (.table t) ∧ (t.lookup key).isSome

/-- The table under the name of a section sets a field that the top level does not set. -/
def OnlyInSection (top : Table) (name key : String) : Prop :=
  (∃ t, top.lookup name = some (.table t) ∧ (t.lookup key).isSome) ∧ top.lookup key = none

/-- What is set is set where it is read at top level, or only in the section. -/
lemma setsField_imp_iff {top : Table} {name key : String} :
    (SetsField top name key → (top.lookup key).isSome) ↔ ¬OnlyInSection top name key := by
  rw [SetsField, OnlyInSection, ← Option.not_isSome_iff_eq_none, not_and_not_right]
  exact or_imp.trans (and_iff_right id)

/-- In a shared file the fields are set in the sections. -/
lemma setsField_of_onlyKeys {top : Table} (h : top.OnlyKeys ["edge", "supernode"])
    {name key : String} (hkey : key ∉ ["edge", "supernode"]) (hset : SetsField top name key) :
    ∃ t, top.lookup name = some (.table t) ∧ (t.lookup key).isSome := by
  rw [SetsField, h.lookup_eq_none hkey] at hset
  exact hset.resolve_left (by simp)

lemma not_setsField_of_absent {top : Table} (h : top.OnlyKeys ["edge", "supernode"])
    {name key : String} (hkey : key ∉ ["edge", "supernode"]) (hnone : top.lookup name = none) :
    ¬SetsField top name key := by
  intro hset
  obtain ⟨t, hlookup, -⟩ := setsField_of_onlyKeys h hkey hset
  cases hnone.symm.trans hlookup

lemma isSome_of_setsField {top t : Table} (h : top.OnlyKeys ["edge", "supernode"])
    {name key : String} (hkey : key ∉ ["edge", "supernode"])
    (hlookup : top.lookup name = some (.table t)) (hset : SetsField top name key) :
    (t.lookup key).isSome := by
  obtain ⟨t', hlookup', hkeySet⟩ := setsField_of_onlyKeys h hkey hset
  obtain rfl := Toml.table.inj (Option.some.inj (hlookup.symm.trans hlookup'))
  exact hkeySet

/-- Random bytes that are all the same. -/
def sameDraws (b : UInt8) : Draws :=
  { nodeId := .fill 32 b, privateKey := .fill 32 b, adminToken := .fill 32 b }

lemma fill_zero_ne_one : ByteArr.fill 32 0 ≠ ByteArr.fill 32 1 := by decide

/-- A field has one value for all draws if it is set. -/
lemma forall_getD_eq_iff {α : Type} (o : Option α) (drawn : Draws → α)
    (hdrawn : drawn (sameDraws 0) ≠ drawn (sameDraws 1)) :
    (∀ d d', o.getD (drawn d) = o.getD (drawn d')) ↔ o.isSome := by
  cases o with
  | none => exact iff_of_false (fun h => hdrawn (h _ _)) (by simp)
  | some x => exact iff_of_true (fun _ _ => rfl) rfl

lemma getD_eq_of_agree {α : Type} {o : Option α} {a b : α} (h : o.isSome → o.getD a = b) :
    o.getD b = b := by
  cases o with
  | none => rfl
  | some x => exact h rfl

/-! ## The edge's record -/

namespace EdgeConfig

/-- Two records agree on the fields that are set. -/
structure Agree (set : String → Prop) (a b : EdgeConfig) : Prop where
  nodeId : set "node_id" → a.nodeId = b.nodeId
  privateKey : set "private_key" → a.privateKey = b.privateKey
  defaultSupernode : set "default_supernode" → a.defaultSupernode = b.defaultSupernode
  supernodes : set "supernodes" → a.supernodes = b.supernodes
  defaultTunName : set "default_tun_name" → a.defaultTunName = b.defaultTunName
  localUdpPort : set "local_udp_port" → a.localUdpPort = b.localUdpPort
  tunMtu : set "tun_mtu" → a.tunMtu = b.tunMtu
  stunServers : set "stun_servers" → a.stunServers = b.stunServers
  pingIntervalSecs : set "ping_interval_secs" → a.pingIntervalSecs = b.pingIntervalSecs
  watchdogTimeoutSecs : set "watchdog_timeout_secs" →
    a.watchdogTimeoutSecs = b.watchdogTimeoutSecs
  logLevel : set "log_level" → a.logLevel = b.logLevel
  nickname : set "nickname" → a.nickname = b.nickname
  discovery : set "discovery" → a.discovery = b.discovery
  backend : set "backend" → a.backend = b.backend
  virtualLan : set "virtual_lan" → a.virtualLan = b.virtualLan
  trafficPolicy : set "traffic_policy" → a.trafficPolicy = b.trafficPolicy

/-- A record with other random values. -/
def withDrawn (config : EdgeConfig) (nodeId : NodeId) (privateKey : Key) : EdgeConfig :=
  { config with nodeId, privateKey }

/-- The normal form does not depend on what is drawn. -/
lemma normalize_withDrawn (config : EdgeConfig) (nodeId : NodeId) (privateKey : Key) :
    (config.withDrawn nodeId privateKey).normalize =
      config.normalize.withDrawn nodeId privateKey := by
  simp only [normalize, withDrawn]
  rfl

lemma agree_withDrawn_iff {set : String → Prop} {config : EdgeConfig} {id id' : NodeId}
    {key key' : Key} :
    Agree set (config.withDrawn id key) (config.withDrawn id' key') ↔
      (set "node_id" → id = id') ∧ (set "private_key" → key = key') := by
  refine ⟨fun h => ⟨h.nodeId, h.privateKey⟩, fun ⟨hid, hkey⟩ => ?_⟩
  exact ⟨hid, hkey, fun _ => rfl, fun _ => rfl, fun _ => rfl, fun _ => rfl, fun _ => rfl,
    fun _ => rfl, fun _ => rfl, fun _ => rfl, fun _ => rfl, fun _ => rfl, fun _ => rfl,
    fun _ => rfl, fun _ => rfl, fun _ => rfl⟩

namespace Given

variable {g : Given} {f : Draws → EdgeConfig}

/-- A record that depends on the draws in the random fields only, where they are not set. -/
def Drawn (g : Given) (f : Draws → EdgeConfig) : Prop :=
  ∃ config, ∀ d, f d =
    withDrawn config (g.nodeId.getD ⟨d.nodeId⟩) (g.privateKey.getD d.privateKey)

lemma drawn_fill (g : Given) : g.Drawn fun d => g.fill (.default d) :=
  ⟨g.fill (.default (sameDraws 0)), fun d => by simp only [fill, default, withDrawn]⟩

lemma Drawn.normalize (h : g.Drawn f) : g.Drawn fun d => (f d).normalize := by
  obtain ⟨config, h⟩ := h
  exact ⟨config.normalize, fun d => by simp only [h, normalize_withDrawn]⟩

/-- Such records agree if the random fields are set where they are looked for. -/
lemma Drawn.agree_iff (h : g.Drawn f) {set : String → Prop} :
    (∀ d d', Agree set (f d) (f d')) ↔
      (set "node_id" → g.nodeId.isSome) ∧ (set "private_key" → g.privateKey.isSome) := by
  obtain ⟨config, h⟩ := h
  have hid : NodeId.mk (sameDraws 0).nodeId ≠ ⟨(sameDraws 1).nodeId⟩ :=
    fun heq => fill_zero_ne_one (NodeId.mk.inj heq)
  rw [← forall_getD_eq_iff g.nodeId (fun d => ⟨d.nodeId⟩) hid,
    ← forall_getD_eq_iff g.privateKey Draws.privateKey fill_zero_ne_one]
  simp only [h, agree_withDrawn_iff]
  exact ⟨fun hall => ⟨fun hset d d' => (hall d d').1 hset, fun hset d d' => (hall d d').2 hset⟩,
    fun hall d d' => ⟨fun hset => hall.1 hset d d', fun hset => hall.2 hset d d'⟩⟩

/-- The random fields that a table sets. -/
lemma isSome_of_read {F : ConfigFormat} {t : Table} (h : Given.read F t = some g) :
    (t.lookup "node_id").isSome = g.nodeId.isSome ∧
      (t.lookup "private_key").isSome = g.privateKey.isSome := by
  obtain ⟨nodeId, hnodeId, h⟩ := Option.bind_eq_some_iff.mp h
  obtain ⟨privateKey, hprivateKey, h⟩ := Option.bind_eq_some_iff.mp h
  iterate 14 obtain ⟨_, -, h⟩ := Option.bind_eq_some_iff.mp h
  obtain rfl := Option.some.inj h
  exact ⟨Table.isSome_lookup hnodeId, Table.isSome_lookup hprivateKey⟩

end Given

end EdgeConfig

/-! ## The supernode's record -/

namespace FullSupernodeConfig

/-- Two records agree on the fields that are set. -/
structure Agree (set : String → Prop) (a b : FullSupernodeConfig) : Prop where
  listenPort : set "listen_port" → a.listenPort = b.listenPort
  publicAddr : set "public_addr" → a.publicAddr = b.publicAddr
  peers : set "peers" → a.peers = b.peers
  adminToken : set "admin_token" → a.adminToken = b.adminToken
  managementBind : set "management_bind" → a.managementBind = b.managementBind
  federationId : set "federation_id" → a.federationId = b.federationId
  addressPool : set "address_pool" → a.addressPool = b.addressPool
  roomPrefixLen : set "room_prefix_len" → a.roomPrefixLen = b.roomPrefixLen
  roomIdleTimeoutSecs : set "room_idle_timeout_secs" →
    a.roomIdleTimeoutSecs = b.roomIdleTimeoutSecs
  maxRoomPeers : set "max_room_peers" → a.maxRoomPeers = b.maxRoomPeers
  logLevel : set "log_level" → a.logLevel = b.logLevel

/-- A record with another token. -/
def withToken (config : FullSupernodeConfig) (adminToken : String) : FullSupernodeConfig :=
  { config with adminToken }

lemma agree_withToken_iff {set : String → Prop} {config : FullSupernodeConfig}
    {token token' : String} :
    Agree set (config.withToken token) (config.withToken token') ↔
      (set "admin_token" → token = token') :=
  ⟨fun h => h.adminToken, fun h => ⟨fun _ => rfl, fun _ => rfl, fun _ => rfl, h, fun _ => rfl,
    fun _ => rfl, fun _ => rfl, fun _ => rfl, fun _ => rfl, fun _ => rfl, fun _ => rfl⟩⟩

/-- The token that is drawn. -/
def drawnToken (F : ConfigFormat) (d : Draws) : String := F.hex.encode d.adminToken.toList

lemma drawnToken_ne (F : ConfigFormat) :
    drawnToken F (sameDraws 0) ≠ drawnToken F (sameDraws 1) := fun h =>
  fill_zero_ne_one (List.Vector.toList_injective (F.hex.encode_injective h))

namespace Given

variable {g : Given} {t : Table}

/-- Records that are filled in with other draws agree if the token is set where it is looked for. -/
lemma agree_fill_iff (F : ConfigFormat) (g : Given) (set : String → Prop) :
    (∀ d d', Agree set (g.fill (.default F d)) (g.fill (.default F d'))) ↔
      (set "admin_token" → g.adminToken.isSome) := by
  obtain ⟨config, hfill⟩ : ∃ config, ∀ d, g.fill (.default F d) =
      withToken config (g.adminToken.getD (drawnToken F d)) :=
    ⟨g.fill (.default F (sameDraws 0)), fun _ => rfl⟩
  rw [← forall_getD_eq_iff g.adminToken (drawnToken F) (drawnToken_ne F)]
  simp only [hfill, agree_withToken_iff]
  exact ⟨fun h hset d d' => h d d' hset, fun h d d' hset => h hset d d'⟩

/-- The fields that a table sets. -/
lemma isSome_of_read (h : Given.read t = some g) : ∀ entry ∈
    [("listen_port", g.listenPort.isSome), ("public_addr", g.publicAddr.isSome),
      ("peers", g.peers.isSome), ("admin_token", g.adminToken.isSome),
      ("management_bind", g.managementBind.isSome), ("federation_id", g.federationId.isSome),
      ("address_pool", g.addressPool.isSome), ("room_prefix_len", g.roomPrefixLen.isSome),
      ("room_idle_timeout_secs", g.roomIdleTimeoutSecs.isSome),
      ("max_room_peers", g.maxRoomPeers.isSome), ("log_level", g.logLevel.isSome)],
    (t.lookup entry.1).isSome = entry.2 := by
  obtain ⟨listenPort, hlistenPort, h⟩ := Option.bind_eq_some_iff.mp h
  obtain ⟨publicAddr, hpublicAddr, h⟩ := Option.bind_eq_some_iff.mp h
  obtain ⟨peers, hpeers, h⟩ := Option.bind_eq_some_iff.mp h
  obtain ⟨adminToken, hadminToken, h⟩ := Option.bind_eq_some_iff.mp h
  obtain ⟨managementBind, hmanagementBind, h⟩ := Option.bind_eq_some_iff.mp h
  obtain ⟨federationId, hfederationId, h⟩ := Option.bind_eq_some_iff.mp h
  obtain ⟨addressPool, haddressPool, h⟩ := Option.bind_eq_some_iff.mp h
  obtain ⟨roomPrefixLen, hroomPrefixLen, h⟩ := Option.bind_eq_some_iff.mp h
  obtain ⟨roomIdleTimeoutSecs, hroomIdleTimeoutSecs, h⟩ := Option.bind_eq_some_iff.mp h
  obtain ⟨maxRoomPeers, hmaxRoomPeers, h⟩ := Option.bind_eq_some_iff.mp h
  obtain ⟨logLevel, hlogLevel, h⟩ := Option.bind_eq_some_iff.mp h
  obtain rfl := Option.some.inj h
  simp only [List.forall_mem_cons]
  exact ⟨Table.isSome_lookup hlistenPort, Table.isSome_lookup hpublicAddr,
    Table.isSome_lookup hpeers, Table.isSome_lookup hadminToken,
    Table.isSome_lookup hmanagementBind, Table.isSome_lookup hfederationId,
    Table.isSome_lookup haddressPool, Table.isSome_lookup hroomPrefixLen,
    Table.isSome_lookup hroomIdleTimeoutSecs, Table.isSome_lookup hmaxRoomPeers,
    Table.isSome_lookup hlogLevel, nofun⟩

lemma adminToken_isSome (h : Given.read t = some g) :
    (t.lookup "admin_token").isSome = g.adminToken.isSome :=
  isSome_of_read h ("admin_token", g.adminToken.isSome) (by simp)

/-- A record that agrees with one filled in has the values that are set at top level. -/
lemma fill_eq_of_agree (h : Given.read t = some g) {set : String → Prop}
    (hset : ∀ key, (t.lookup key).isSome → set key) {a b : FullSupernodeConfig}
    (hagree : Agree set (g.fill a) b) : g.fill b = b := by
  have hfields := isSome_of_read h
  simp only [List.forall_mem_cons] at hfields
  obtain ⟨hlistenPort, hpublicAddr, hpeers, hadminToken, hmanagementBind, hfederationId,
    haddressPool, hroomPrefixLen, hroomIdleTimeoutSecs, hmaxRoomPeers, hlogLevel, -⟩ := hfields
  have haddr : g.publicAddr.or b.publicAddr = b.publicAddr := by
    cases hg : g.publicAddr with
    | none => rfl
    | some addr =>
        rw [hg] at hpublicAddr
        have hvalue := hagree.publicAddr (hset _ hpublicAddr)
        rw [← hvalue]
        simp [fill, hg]
  obtain ⟨⟨peers, publicAddr⟩, _⟩ := b
  simp only [fill, FullSupernodeConfig.mk.injEq, SupernodeConfig.mk.injEq]
  exact ⟨⟨getD_eq_of_agree fun h => hagree.peers (hset _ (hpeers.trans h)), haddr⟩,
    getD_eq_of_agree fun h => hagree.listenPort (hset _ (hlistenPort.trans h)),
    getD_eq_of_agree fun h => hagree.adminToken (hset _ (hadminToken.trans h)),
    getD_eq_of_agree fun h => hagree.managementBind (hset _ (hmanagementBind.trans h)),
    getD_eq_of_agree fun h => hagree.federationId (hset _ (hfederationId.trans h)),
    getD_eq_of_agree fun h => hagree.addressPool (hset _ (haddressPool.trans h)),
    getD_eq_of_agree fun h => hagree.roomPrefixLen (hset _ (hroomPrefixLen.trans h)),
    getD_eq_of_agree fun h => hagree.roomIdleTimeoutSecs (hset _ (hroomIdleTimeoutSecs.trans h)),
    getD_eq_of_agree fun h => hagree.maxRoomPeers (hset _ (hmaxRoomPeers.trans h)),
    getD_eq_of_agree fun h => hagree.logLevel (hset _ (hlogLevel.trans h))⟩

end Given

end FullSupernodeConfig

/-! ## The file after a save -/

/-- A save that fails leaves the file alone. -/
def fileAfter {Text : Type} (file : Option Text) : Except ConfigError Text → Option Text
  | .ok text => some text
  | .error _ => file

namespace SharedConfigFile

lemma onlyKeys_write (F : ConfigFormat) (shared : SharedConfigFile) :
    Table.OnlyKeys (shared.write F) ["edge", "supernode"] := by
  obtain ⟨edge, supernode⟩ := shared
  cases edge <;> cases supernode <;> simp [Table.OnlyKeys, write]

/-- A file that was written is a shared one. -/
lemma read_write (F : ConfigFormat) (d : Draws) (shared : SharedConfigFile) :
    read F d (shared.write F) = some shared := by
  have hedge : ∀ config : EdgeConfig,
      Toml.table (config.write F) = (EdgeConfig.codec F d).write config := fun _ => rfl
  have hsupernode : ∀ config : FullSupernodeConfig,
      Toml.table config.write = (FullSupernodeConfig.codec F d).write config := fun _ => rfl
  rw [read, if_pos (onlyKeys_write F shared)]
  obtain ⟨edge, supernode⟩ := shared
  cases edge <;> cases supernode <;> simp [write, hedge, hsupernode]

end SharedConfigFile

section Written

variable {F : ConfigFormat} {shared : SharedConfigFile} {text : F.Text}
variable (hparse : F.parse text = some (shared.write F)) (draw : ℕ → Draws)

include hparse

lemma parse_written : parseSharedConfigContent F draw text = .ok shared := by
  simp [parseSharedConfigContent, ConfigFormat.fromStr, hparse, SharedConfigFile.read_write]

lemma EdgeConfig.load_written :
    EdgeConfig.load F draw (some text) =
      .ok (shared.edge.getD (.default (draw 3))).normalize := by
  obtain ⟨g, hg, hfill⟩ := EdgeConfig.Given.read_sections F (shared.onlyKeys_write F)
  have hread : F.fromStr (EdgeConfig.read F (draw 3)) text = some (.default (draw 3)) := by
    simp [ConfigFormat.fromStr, hparse, EdgeConfig.read, hg, hfill]
  simp only [EdgeConfig.load, parse_written hparse, bind, Except.bind, hread]
  cases shared.edge <;> rfl

lemma FullSupernodeConfig.load_written :
    FullSupernodeConfig.load F draw (some text) =
      .ok (shared.supernode.getD (.default F (draw 3))) := by
  obtain ⟨g, hg, hfill⟩ := FullSupernodeConfig.Given.read_sections (shared.onlyKeys_write F)
  have hread : F.fromStr (FullSupernodeConfig.read F (draw 3)) text =
      some (.default F (draw 3)) := by
    simp [ConfigFormat.fromStr, hparse, FullSupernodeConfig.read, hg, hfill]
  simp only [FullSupernodeConfig.load, parse_written hparse, bind, Except.bind, hread]
  cases shared.supernode <;> rfl

end Written

section Save

variable {F : ConfigFormat} {top : Table} {content : F.Text}

/-- Saving writes what was loaded with one section replaced, if it can be written. -/
lemma fileAfter_saveSharedConfig (content : F.Text) (shared : SharedConfigFile) :
    (F.print (shared.write F) = none ∧
      fileAfter (some content) (saveSharedConfig F shared) = some content) ∨
    ∃ text, F.print (shared.write F) = some text ∧ F.parse text = some (shared.write F) ∧
      fileAfter (some content) (saveSharedConfig F shared) = some text := by
  rw [saveSharedConfig]
  cases hprint : F.print (shared.write F) with
  | none => exact .inl ⟨rfl, rfl⟩
  | some text => exact .inr ⟨text, rfl, F.parse_print hprint, rfl⟩

/-- Loading after a save: as before, or what was written. -/
lemma EdgeConfig.load_fileAfter (content : F.Text) (shared : SharedConfigFile) (draw : ℕ → Draws) :
    EdgeConfig.load F draw (fileAfter (some content) (saveSharedConfig F shared)) =
        EdgeConfig.load F draw (some content) ∨
      EdgeConfig.load F draw (fileAfter (some content) (saveSharedConfig F shared)) =
        .ok (shared.edge.getD (.default (draw 3))).normalize := by
  rcases fileAfter_saveSharedConfig content shared with ⟨-, hfile⟩ | ⟨text, -, htext, hfile⟩
  · exact .inl (by rw [hfile])
  · exact .inr (by rw [hfile, EdgeConfig.load_written htext])

lemma FullSupernodeConfig.load_fileAfter (content : F.Text) (shared : SharedConfigFile)
    (draw : ℕ → Draws) :
    FullSupernodeConfig.load F draw (fileAfter (some content) (saveSharedConfig F shared)) =
        FullSupernodeConfig.load F draw (some content) ∨
      FullSupernodeConfig.load F draw (fileAfter (some content) (saveSharedConfig F shared)) =
        .ok (shared.supernode.getD (.default F (draw 3))) := by
  rcases fileAfter_saveSharedConfig content shared with ⟨-, hfile⟩ | ⟨text, -, htext, hfile⟩
  · exact .inl (by rw [hfile])
  · exact .inr (by rw [hfile, FullSupernodeConfig.load_written htext])

variable {draw : ℕ → Draws} {shared : SharedConfigFile}

lemma EdgeConfig.save_eq (h : parseSharedConfigContent F draw content = .ok shared)
    (config : EdgeConfig) :
    config.save F draw (some content) =
      saveSharedConfig F { shared with edge := some config } := by
  simp only [EdgeConfig.save, loadSharedConfigIfPresent, h, bind, Except.bind]

lemma FullSupernodeConfig.save_eq (h : parseSharedConfigContent F draw content = .ok shared)
    (config : FullSupernodeConfig) :
    config.save F draw (some content) =
      saveSharedConfig F { shared with supernode := some config } := by
  simp only [FullSupernodeConfig.save, loadSharedConfigIfPresent, h, bind, Except.bind]

end Save

/-! ## What a save keeps -/

section Kept

variable (F : ConfigFormat) (content : F.Text) (top : Table)

/-- What a file sets for a supernode is still loaded after an edge was saved to it. -/
def SupernodeKept (edge : EdgeConfig) : Prop :=
  ∀ (draw draw' draw'' : ℕ → Draws) config,
    FullSupernodeConfig.load F draw (some content) = .ok config →
      ∃ config', FullSupernodeConfig.load F draw''
          (fileAfter (some content) (edge.save F draw' (some content))) = .ok config' ∧
        FullSupernodeConfig.Agree (SetsField top "supernode") config config'

/-- What a file sets for an edge is still loaded after a supernode was saved to it. -/
def EdgeKept (supernode : FullSupernodeConfig) : Prop :=
  ∀ (draw draw' draw'' : ℕ → Draws) config, EdgeConfig.load F draw (some content) = .ok config →
    ∃ config', EdgeConfig.load F draw''
        (fileAfter (some content) (supernode.save F draw' (some content))) = .ok config' ∧
      EdgeConfig.Agree (SetsField top "edge") config config'

/-- The fields of a supernode at top level have the values they have by default. -/
def OnlyDefaults : Prop :=
  ∃ g, FullSupernodeConfig.Given.read top = some g ∧ ∀ d, g.fill (.default F d) = .default F d

end Kept

section Again

variable {F : ConfigFormat} {top : Table} {content : F.Text}
variable (hparse : F.parse content = some top)

include hparse

/-- After a supernode is saved an edge is loaded as the save has loaded it, or as if there had not
been one. -/
lemma EdgeConfig.load_after {draw : ℕ → Draws} (draw' draw'' : ℕ → Draws) {config : EdgeConfig}
    (h : EdgeConfig.load F draw (some content) = .ok config) (supernode : FullSupernodeConfig) :
    ∃ draws, (draws = draw' ∨ draws = draw'') ∧
      EdgeConfig.load F draw''
          (fileAfter (some content) (supernode.save F draw' (some content))) =
        EdgeConfig.load F draws (some content) := by
  by_cases hshared : IsShared F top
  · obtain ⟨edge, s, hform⟩ := hshared
    rw [FullSupernodeConfig.save_eq (parse_of_shared hparse draw' hform)]
    rcases EdgeConfig.load_fileAfter content _ draw'' with hload | hload <;> rw [hload]
    · exact ⟨draw'', .inr rfl, rfl⟩
    · cases edge with
      | some g =>
          exact ⟨draw', .inl rfl, (EdgeConfig.load_of_section hparse draw' hform).symm⟩
      | none =>
          exact ⟨draw'', .inr rfl, (EdgeConfig.load_of_no_section hparse draw'' hform).symm⟩
  by_cases hedge : EdgeForm F top
  · obtain ⟨g, hg⟩ := Option.isSome_iff_exists.mp hedge
    rw [FullSupernodeConfig.save_eq (parse_of_edge hparse draw' hshared hg)]
    rcases EdgeConfig.load_fileAfter content _ draw'' with hload | hload <;> rw [hload]
    · exact ⟨draw'', .inr rfl, rfl⟩
    · exact ⟨draw', .inl rfl, (EdgeConfig.load_of_edge hparse draw' hshared hg).symm⟩
  · obtain ⟨error, herror⟩ := EdgeConfig.load_of_not_edge hparse draw hshared hedge
    cases herror.symm.trans h

/-- What a save keeps of an edge is what loading the file twice agrees on. -/
lemma edgeKept_iff_again (supernode : FullSupernodeConfig) :
    EdgeKept F content top supernode ↔
      ∀ (draw draw' : ℕ → Draws) config, EdgeConfig.load F draw (some content) = .ok config →
        ∃ config', EdgeConfig.load F draw' (some content) = .ok config' ∧
          EdgeConfig.Agree (SetsField top "edge") config config' := by
  constructor
  · intro h draw draw' config hload
    obtain ⟨draws, hdraws, hafter⟩ :=
      EdgeConfig.load_after hparse draw' draw' hload supernode
    obtain rfl := hdraws.elim id id
    exact hafter ▸ h draw draws draws config hload
  · intro h draw draw' draw'' config hload
    obtain ⟨draws, -, hafter⟩ := EdgeConfig.load_after hparse draw' draw'' hload supernode
    exact hafter ▸ h draw draws config hload

/-- Loading an edge from a shared file with a section, or from the fields at top level. -/
lemma edge_again_iff {i : ℕ} {g : EdgeConfig.Given} {f : Draws → EdgeConfig} (hdrawn : g.Drawn f)
    (hload : ∀ draw, EdgeConfig.load F draw (some content) = .ok (f (draw i)))
    (supernode : FullSupernodeConfig) :
    EdgeKept F content top supernode ↔
      (SetsField top "edge" "node_id" → g.nodeId.isSome) ∧
        (SetsField top "edge" "private_key" → g.privateKey.isSome) := by
  rw [edgeKept_iff_again hparse, ← hdrawn.agree_iff]
  simp only [hload, Except.ok.injEq, exists_eq_left', forall_eq']
  exact ⟨fun h d d' => h (fun _ => d) (fun _ => d'), fun h draw draw' => h (draw i) (draw' i)⟩

/-- The section of a shared file is kept. -/
lemma edgeKept_of_shared (hshared : IsShared F top) (supernode : FullSupernodeConfig) :
    EdgeKept F content top supernode := by
  obtain ⟨edge, s, hform⟩ := hshared
  have hsection := hform.edge
  cases hsection with
  | absent hnone =>
      obtain ⟨g, hg, hfill⟩ := EdgeConfig.Given.read_sections F hform.onlyKeys
      have hdrawn := g.drawn_fill.normalize
      simp only [hfill] at hdrawn
      refine (edge_again_iff hparse hdrawn
        (fun draw => EdgeConfig.load_of_no_section hparse draw hform) supernode).mpr ?_
      exact ⟨fun h => (not_setsField_of_absent hform.onlyKeys (by decide) hnone h).elim,
        fun h => (not_setsField_of_absent hform.onlyKeys (by decide) hnone h).elim⟩
  | @present t g hlookup hread =>
      refine (edge_again_iff hparse g.drawn_fill.normalize
        (fun draw => EdgeConfig.load_of_section hparse draw hform) supernode).mpr ?_
      obtain ⟨hidSet, hkeySet⟩ := EdgeConfig.Given.isSome_of_read hread
      exact ⟨fun h => hidSet ▸ isSome_of_setsField hform.onlyKeys (by decide) hlookup h,
        fun h => hkeySet ▸ isSome_of_setsField hform.onlyKeys (by decide) hlookup h⟩

/-- In a file that is no shared one a random field is lost that is set in the section only. -/
lemma edgeKept_iff_of_flat (hshared : ¬IsShared F top) (supernode : FullSupernodeConfig) :
    EdgeKept F content top supernode ↔
      ¬EdgeForm F top ∨
        ¬OnlyInSection top "edge" "node_id" ∧ ¬OnlyInSection top "edge" "private_key" := by
  by_cases hedge : EdgeForm F top
  · obtain ⟨g, hg⟩ := Option.isSome_iff_exists.mp hedge
    obtain ⟨hidSet, hkeySet⟩ := EdgeConfig.Given.isSome_of_read hg
    rw [edge_again_iff hparse g.drawn_fill.normalize.normalize
      (fun draw => EdgeConfig.load_of_edge hparse draw hshared hg), ← hidSet, ← hkeySet,
      setsField_imp_iff, setsField_imp_iff]
    simp [hedge]
  · refine iff_of_true (fun draw _ _ config h => ?_) (.inl hedge)
    obtain ⟨error, herror⟩ := EdgeConfig.load_of_not_edge hparse draw hshared hedge
    cases herror.symm.trans h

omit hparse in
/-- An edge that cannot be printed leaves the file alone. -/
lemma EdgeConfig.fileAfter_save_of_none (draw' : ℕ → Draws) {edge : EdgeConfig}
    (hsave : edge.save F draw' (some content) =
      saveSharedConfig F { edge := some edge, supernode := none })
    (hprint : F.print [("edge", .table (edge.write F))] = none) :
    fileAfter (some content) (edge.save F draw' (some content)) = some content := by
  rw [hsave, saveSharedConfig]
  have hwrite : SharedConfigFile.write F { edge := some edge, supernode := none } =
      [("edge", .table (edge.write F))] := rfl
  rw [hwrite, hprint]
  rfl

/-- A file that was taken for an edge's has no section of a supernode after the edge was saved. -/
lemma EdgeConfig.save_of_edge (hshared : ¬IsShared F top) (hedge : EdgeForm F top)
    (draw' : ℕ → Draws) (edge : EdgeConfig) :
    edge.save F draw' (some content) =
      saveSharedConfig F { edge := some edge, supernode := none } := by
  obtain ⟨g, hg⟩ := Option.isSome_iff_exists.mp hedge
  rw [EdgeConfig.save_eq (parse_of_edge hparse draw' hshared hg)]

/-- The fields at top level are read by one attempt or another. -/
lemma FullSupernodeConfig.load_of_flat (hshared : ¬IsShared F top) :
    ∃ i error, ∀ draw, FullSupernodeConfig.load F draw (some content) =
      match FullSupernodeConfig.Given.read top with
      | some g => .ok (g.fill (.default F (draw i)))
      | none => .error error := by
  by_cases hedge : EdgeForm F top
  · exact ⟨3, .parse, fun draw => FullSupernodeConfig.load_of_edge hparse draw hshared hedge⟩
  · exact ⟨2, .shared, fun draw => FullSupernodeConfig.load_of_supernode hparse draw hshared hedge⟩

/-- After an edge is saved a supernode is loaded likewise, unless the file was taken for an edge's
and has been written. -/
lemma FullSupernodeConfig.load_after {draw : ℕ → Draws} (draw' draw'' : ℕ → Draws)
    {config : FullSupernodeConfig}
    (h : FullSupernodeConfig.load F draw (some content) = .ok config) {edge : EdgeConfig}
    (hform : IsShared F top ∨ ¬EdgeForm F top ∨
      F.print [("edge", .table (edge.write F))] = none) :
    ∃ draws, (draws = draw' ∨ draws = draw'') ∧
      FullSupernodeConfig.load F draw''
          (fileAfter (some content) (edge.save F draw' (some content))) =
        FullSupernodeConfig.load F draws (some content) := by
  by_cases hshared : IsShared F top
  · obtain ⟨e, supernode, hform⟩ := hshared
    rw [EdgeConfig.save_eq (parse_of_shared hparse draw' hform)]
    rcases FullSupernodeConfig.load_fileAfter content _ draw'' with hload | hload <;> rw [hload]
    · exact ⟨draw'', .inr rfl, rfl⟩
    · cases supernode with
      | some g =>
          exact ⟨draw', .inl rfl, (FullSupernodeConfig.load_of_section hparse draw' hform).symm⟩
      | none =>
          exact ⟨draw'', .inr rfl,
            (FullSupernodeConfig.load_of_no_section hparse draw'' hform).symm⟩
  by_cases hedge : EdgeForm F top
  · have hprint := (hform.resolve_left hshared).resolve_left (not_not.mpr hedge)
    have hsave := EdgeConfig.save_of_edge hparse hshared hedge draw' edge
    exact ⟨draw'', .inr rfl, by rw [EdgeConfig.fileAfter_save_of_none draw' hsave hprint]⟩
  · have hflat := fun draw => FullSupernodeConfig.load_of_supernode hparse draw hshared hedge
    have hsupernode := parse_of_supernode hparse draw' hshared hedge
    cases hg : FullSupernodeConfig.Given.read top with
    | none =>
        simp only [hflat, hg] at h
        cases h
    | some g =>
        simp only [hg] at hsupernode
        rw [EdgeConfig.save_eq hsupernode]
        rcases FullSupernodeConfig.load_fileAfter content _ draw'' with hload | hload <;>
          rw [hload]
        · exact ⟨draw'', .inr rfl, rfl⟩
        · exact ⟨draw', .inl rfl, by simp only [hflat, hg, Option.getD_some]⟩

/-- Unless the file was taken for an edge's and has been written, what a save keeps of a supernode
is what loading the file twice agrees on. -/
lemma supernodeKept_iff_again {edge : EdgeConfig}
    (hform : IsShared F top ∨ ¬EdgeForm F top ∨
      F.print [("edge", .table (edge.write F))] = none) :
    SupernodeKept F content top edge ↔
      ∀ (draw draw' : ℕ → Draws) config,
        FullSupernodeConfig.load F draw (some content) = .ok config →
          ∃ config', FullSupernodeConfig.load F draw' (some content) = .ok config' ∧
            FullSupernodeConfig.Agree (SetsField top "supernode") config config' := by
  constructor
  · intro h draw draw' config hload
    obtain ⟨draws, hdraws, hafter⟩ := FullSupernodeConfig.load_after hparse draw' draw' hload hform
    obtain rfl := hdraws.elim id id
    exact hafter ▸ h draw draws draws config hload
  · intro h draw draw' draw'' config hload
    obtain ⟨draws, -, hafter⟩ := FullSupernodeConfig.load_after hparse draw' draw'' hload hform
    exact hafter ▸ h draw draws config hload

/-- Loading a supernode twice from a shared file with a section, or from the fields at top level. -/
lemma supernode_again_iff {i : ℕ} {g : FullSupernodeConfig.Given}
    (hload : ∀ draw, FullSupernodeConfig.load F draw (some content) =
      .ok (g.fill (.default F (draw i)))) {edge : EdgeConfig}
    (hform : IsShared F top ∨ ¬EdgeForm F top ∨
      F.print [("edge", .table (edge.write F))] = none) :
    SupernodeKept F content top edge ↔
      (SetsField top "supernode" "admin_token" → g.adminToken.isSome) := by
  rw [supernodeKept_iff_again hparse hform, ← g.agree_fill_iff F]
  simp only [hload, Except.ok.injEq, exists_eq_left', forall_eq']
  exact ⟨fun h d d' => h (fun _ => d) (fun _ => d'), fun h draw draw' => h (draw i) (draw' i)⟩

lemma supernodeKept_of_shared (hshared : IsShared F top) (edge : EdgeConfig) :
    SupernodeKept F content top edge := by
  have hform := hshared
  obtain ⟨e, supernode, hsections⟩ := hshared
  have hsection := hsections.supernode
  cases hsection with
  | absent hnone =>
      obtain ⟨g, hg, hfill⟩ := FullSupernodeConfig.Given.read_sections hsections.onlyKeys
      refine (supernode_again_iff hparse (g := g) (i := 3) (fun draw => ?_) (.inl hform)).mpr
        fun h => (not_setsField_of_absent hsections.onlyKeys (by decide) hnone h).elim
      rw [hfill]
      exact FullSupernodeConfig.load_of_no_section hparse draw hsections
  | @present t g hlookup hread =>
      refine (supernode_again_iff hparse
        (fun draw => FullSupernodeConfig.load_of_section hparse draw hsections)
        (.inl hform)).mpr fun h => ?_
      rw [← FullSupernodeConfig.Given.adminToken_isSome hread]
      exact isSome_of_setsField hsections.onlyKeys (by decide) hlookup h

omit hparse in
/-- Fields at top level that are replaced by the defaults. -/
lemma agree_default_iff {g : FullSupernodeConfig.Given}
    (hg : FullSupernodeConfig.Given.read top = some g) :
    (∀ d d', FullSupernodeConfig.Agree (SetsField top "supernode") (g.fill (.default F d))
        (.default F d')) ↔
      (∀ d, g.fill (.default F d) = .default F d) ∧
        ¬OnlyInSection top "supernode" "admin_token" := by
  have htoken := FullSupernodeConfig.Given.adminToken_isSome hg
  constructor
  · intro h
    refine ⟨fun d => FullSupernodeConfig.Given.fill_eq_of_agree hg (fun key => .inl) (h d d),
      fun hsection => ?_⟩
    have hset : SetsField top "supernode" "admin_token" := .inr hsection.1
    rw [hsection.2] at htoken
    have hnone : g.adminToken = none := by simpa using htoken.symm
    have htokens := (h (sameDraws 0) (sameDraws 1)).adminToken hset
    simp only [FullSupernodeConfig.Given.fill, hnone, Option.getD_none] at htokens
    exact FullSupernodeConfig.drawnToken_ne F htokens
  · rintro ⟨hfill, hsection⟩
    -- a token that is set at top level is not the one drawn
    have hunset : g.adminToken = none := by
      by_contra hsome
      obtain ⟨token, hset⟩ := Option.ne_none_iff_exists'.mp hsome
      have hdefault : ∀ d, token = FullSupernodeConfig.drawnToken F d := by
        intro d
        have hvalue := congrArg FullSupernodeConfig.adminToken (hfill d)
        simp only [FullSupernodeConfig.Given.fill, hset, Option.getD_some] at hvalue
        exact hvalue
      exact FullSupernodeConfig.drawnToken_ne F ((hdefault _).symm.trans (hdefault _))
    have hagree := (FullSupernodeConfig.Given.agree_fill_iff F g
      (SetsField top "supernode")).mpr fun h => htoken ▸ setsField_imp_iff.mpr hsection h
    simp only [hfill] at hagree ⊢
    exact hagree

/-- In a file that is no shared one a token is lost that is set in the section only, and so are the
fields at top level, unless they are the defaults, if the file is taken for an edge's. -/
lemma supernodeKept_iff_of_flat (hshared : ¬IsShared F top) (edge : EdgeConfig) :
    SupernodeKept F content top edge ↔
      ¬SupernodeForm top ∨ ¬OnlyInSection top "supernode" "admin_token" ∧
        (¬EdgeForm F top ∨ F.print [("edge", .table (edge.write F))] = none ∨
          OnlyDefaults F top) := by
  obtain ⟨i, error, hload⟩ := FullSupernodeConfig.load_of_flat hparse hshared
  cases hg : FullSupernodeConfig.Given.read top with
  | none =>
      refine iff_of_true (fun draw _ _ config h => ?_) (.inl (by simp [SupernodeForm, hg]))
      simp only [hload, hg] at h
      cases h
  | some g =>
      have hsupernode : SupernodeForm top := by simp [SupernodeForm, hg]
      simp only [hg] at hload
      by_cases hform : ¬EdgeForm F top ∨ F.print [("edge", .table (edge.write F))] = none
      · rw [supernode_again_iff hparse hload (.inr hform),
          ← FullSupernodeConfig.Given.adminToken_isSome hg, setsField_imp_iff]
        simp only [hsupernode, not_true, false_or, ← or_assoc, hform, true_or, and_true]
      · obtain ⟨hedge, hprint⟩ := not_or.mp hform
        rw [not_not] at hedge
        have hafter : ∀ draw' draw'', FullSupernodeConfig.load F draw''
            (fileAfter (some content) (edge.save F draw' (some content))) =
              .ok (.default F (draw'' 3)) := by
          intro draw' draw''
          rw [EdgeConfig.save_of_edge hparse hshared hedge draw' edge]
          rcases fileAfter_saveSharedConfig content ⟨some edge, none⟩ with
            ⟨hnone, -⟩ | ⟨text, -, htext, hfile⟩
          · exact absurd hnone hprint
          · rw [hfile, FullSupernodeConfig.load_written htext]
            rfl
        have hkept : SupernodeKept F content top edge ↔
            ∀ d d', FullSupernodeConfig.Agree (SetsField top "supernode")
              (g.fill (.default F d)) (.default F d') := by
          simp only [SupernodeKept, hafter, hload, Except.ok.injEq, exists_eq_left', forall_eq']
          exact ⟨fun h d d' => h (fun _ => d) (fun _ => d) (fun _ => d'),
            fun h draw _ draw'' => h (draw i) (draw'' 3)⟩
        have hdefaults : OnlyDefaults F top ↔ ∀ d, g.fill (.default F d) = .default F d := by
          simp [OnlyDefaults, hg]
        rw [hkept, agree_default_iff hg, hdefaults]
        simp only [hsupernode, hedge, hprint, not_true, false_or]
        exact and_comm

end Again

/-- **When saving either section keeps what is set for the other.**  It does for a shared file.  Any
other file is taken for what its keys at top level can be, and the sections in it are not looked at:
a token, an identifier or a key that is set there only is drawn anew each time.  A supernode's
fields at top level are taken for an edge's, unless they cannot be those of one; they are lost
unless they are the defaults. -/
theorem save_keeps_iff (F : ConfigFormat) (content : F.Text) (top : Table)
    (hparse : F.parse content = some top) (edge : EdgeConfig) (supernode : FullSupernodeConfig) :
    SupernodeKept F content top edge ∧ EdgeKept F content top supernode ↔
      IsShared F top ∨
        (¬SupernodeForm top ∨ ¬OnlyInSection top "supernode" "admin_token" ∧
          (¬EdgeForm F top ∨ F.print [("edge", .table (edge.write F))] = none ∨
            OnlyDefaults F top)) ∧
        (¬EdgeForm F top ∨
          ¬OnlyInSection top "edge" "node_id" ∧ ¬OnlyInSection top "edge" "private_key") := by
  by_cases hshared : IsShared F top
  · exact iff_of_true ⟨supernodeKept_of_shared hparse hshared edge,
      edgeKept_of_shared hparse hshared supernode⟩ (.inl hshared)
  · rw [supernodeKept_iff_of_flat hparse hshared, edgeKept_iff_of_flat hparse hshared,
      or_iff_right hshared]

/-- Saving an edge to a shared file with the section of a supernode, and the other way around. -/
theorem save_keeps_section :
    SupernodeKept plainFormat [("supernode", .table [("listen_port", .integer 9000)])]
        [("supernode", .table [("listen_port", .integer 9000)])] (.default (zeroDraws 0)) ∧
      EdgeKept plainFormat [("supernode", .table [("listen_port", .integer 9000)])]
        [("supernode", .table [("listen_port", .integer 9000)])]
        (.default plainFormat (zeroDraws 0)) :=
  (save_keeps_iff plainFormat [("supernode", .table [("listen_port", .integer 9000)])]
    [("supernode", .table [("listen_port", .integer 9000)])] rfl _ _).mpr
    (.inl ⟨none, _, ⟨by decide, .absent rfl, .present rfl rfl⟩⟩)

/-- **A supernode's file that an edge overwrites.**  The port is set at top level, and after an edge
was saved it is the default one. -/
theorem save_loses_port :
    (FullSupernodeConfig.load plainFormat zeroDraws (some [("listen_port", .integer 9000)])).map
        (fun config => config.listenPort) = .ok 9000 ∧
    (FullSupernodeConfig.load plainFormat zeroDraws
        (fileAfter (some [("listen_port", .integer 9000)])
          ((EdgeConfig.default (zeroDraws 0)).save plainFormat zeroDraws
            (some [("listen_port", .integer 9000)])))).map
        (fun config => config.listenPort) = .ok 7777 ∧
    ¬SupernodeKept plainFormat [("listen_port", .integer 9000)]
        [("listen_port", .integer 9000)] (.default (zeroDraws 0)) := by
  refine ⟨by decide +kernel, by decide +kernel, ?_⟩
  have hshared : ¬IsShared plainFormat [("listen_port", .integer 9000)] := by
    rintro ⟨edge, supernode, hform⟩
    exact absurd hform.onlyKeys (by decide)
  rw [supernodeKept_iff_of_flat rfl hshared]
  rintro (hform | ⟨-, hform | hprint | ⟨g, hg, hfill⟩⟩)
  · exact hform rfl
  · exact hform rfl
  · cases hprint
  · obtain rfl := Option.some.inj hg
    exact absurd (congrArg FullSupernodeConfig.listenPort (hfill (zeroDraws 0))) (by decide)

end R2N
