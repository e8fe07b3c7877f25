import R2N.Config.Records

/-!
# The configuration file

Loading and saving of `r2n-config`.  An edge and a supernode share one file with a section for each;
older files hold the fields of one of them at top level.  What a file is, is found out by trying:
first as a shared file, then as an edge's, then as a supernode's.  Every field of an edge's record
has a default and unknown ones are ignored, so that the second attempt succeeds on files of all
kinds.

* `EdgeConfig.load`, `FullSupernodeConfig.load`, `EdgeConfig.save`, `FullSupernodeConfig.save`.
* `SharedForm`, `EdgeForm` — what the first two attempts accept.
* **`load_gives_iff`** — when loading returns what the section of the edge says.
-/

namespace R2N

open Toml (Table Codec)

/-! ## Normal form -/

/-- `str::trim`. -/
def trim (s : String) : String :=
  String.ofList (Text.trimBy Text.isWhitespace s.toList)

/-- The list of supernodes in normal form: no blank entries, and the default one among them. -/
def normalSupernodes (defaultSupernode : String) (supernodes : List String) : List String :=
  let defaultSupernode := trim defaultSupernode
  let supernodes := supernodes.filter fun node => trim node ≠ ""
  let supernodes :=
    if supernodes = [] ∧ defaultSupernode ≠ "" then [defaultSupernode] else supernodes
  if defaultSupernode ≠ "" ∧ defaultSupernode ∉ supernodes then defaultSupernode :: supernodes
  else supernodes

/-- `EdgeConfig::normalize`. -/
def EdgeConfig.normalize (config : EdgeConfig) : EdgeConfig :=
  let supernodes := normalSupernodes config.defaultSupernode config.supernodes
  { config with
    tunMtu := max config.tunMtu 1280
    supernodes
    defaultSupernode :=
      if trim config.defaultSupernode = "" then supernodes.head?.getD config.defaultSupernode
      else config.defaultSupernode }

/-! ## Loading and saving -/

inductive ConfigError where
  /-- "Failed to read config file at …": there is none. -/
  | read
  /-- "Failed to parse TOML from …". -/
  | parse
  /-- "Failed to parse shared config file at …". -/
  | shared
  /-- "Failed to serialize shared config to TOML". -/
  | serialize
deriving DecidableEq

structure SharedConfigFile where
  edge : Option EdgeConfig
  supernode : Option FullSupernodeConfig
deriving DecidableEq

namespace SharedConfigFile

def default : SharedConfigFile where
  edge := none
  supernode := none

def read (F : ConfigFormat) (d : Draws) (t : Table) : Option SharedConfigFile :=
  if t.OnlyKeys ["edge", "supernode"] then do
    let edge ← t.optional "edge" (EdgeConfig.codec F d)
    let supernode ← t.optional "supernode" (FullSupernodeConfig.codec F d)
    pure { edge, supernode }
  else none

def write (F : ConfigFormat) (shared : SharedConfigFile) : Table :=
  (shared.edge.map fun config => ("edge", .table (config.write F))).toList ++
    (shared.supernode.map fun config => ("supernode", .table config.write)).toList

end SharedConfigFile

section Load

variable (F : ConfigFormat)

/-- `toml::from_str`. -/
def ConfigFormat.fromStr {α : Type} (read : Table → Option α) (content : F.Text) : Option α :=
  (F.parse content).bind read

-- the random bytes of the attempts at reading a file, one after another
variable (draw : ℕ → Draws)

def parseSharedConfigContent (content : F.Text) : Except ConfigError SharedConfigFile :=
  match F.fromStr (SharedConfigFile.read F (draw 0)) content with
  | some shared => .ok shared
  | none =>
      match F.fromStr (EdgeConfig.read F (draw 1)) content with
      | some edge => .ok { edge := some edge.normalize, supernode := none }
      | none =>
          match F.fromStr (FullSupernodeConfig.read F (draw 2)) content with
          | some supernode => .ok { edge := none, supernode := some supernode }
          | none => .error .shared

def loadSharedConfigIfPresent (file : Option F.Text) : Except ConfigError SharedConfigFile :=
  match file with
  | none => .ok .default
  | some content => parseSharedConfigContent F draw content

def saveSharedConfig (shared : SharedConfigFile) : Except ConfigError F.Text :=
  match F.print (shared.write F) with
  | none => .error .serialize
  | some text => .ok text

def EdgeConfig.load (file : Option F.Text) : Except ConfigError EdgeConfig :=
  match file with
  | none => .error .read
  | some content => do
      let shared ← parseSharedConfigContent F draw content
      match shared.edge with
      | some config => .ok config.normalize
      | none =>
          match F.fromStr (EdgeConfig.read F (draw 3)) content with
          | some config => .ok config.normalize
          | none => .error .parse

def FullSupernodeConfig.load (file : Option F.Text) : Except ConfigError FullSupernodeConfig :=
  match file with
  | none => .error .read
  | some content => do
      let shared ← parseSharedConfigContent F draw content
      match shared.supernode with
      | some config => .ok config
      | none =>
          match F.fromStr (FullSupernodeConfig.read F (draw 3)) content with
          | some config => .ok config
          | none => .error .parse

/-- `EdgeConfig::save`: the new content of the file. -/
def EdgeConfig.save (config : EdgeConfig) (file : Option F.Text) : Except ConfigError F.Text := do
  let shared ← loadSharedConfigIfPresent F draw file
  saveSharedConfig F { shared with edge := some config }

/-- `SupernodeConfig::save`: the new content of the file. -/
def FullSupernodeConfig.save (config : FullSupernodeConfig) (file : Option F.Text) :
    Except ConfigError F.Text := do
  let shared ← loadSharedConfigIfPresent F draw file
  saveSharedConfig F { shared with supernode := some config }

end Load

/-! ## What a document is taken for -/

/-- A section of a document: it is absent, or a table whose fields can be read. -/
inductive Section {γ : Type} (read : Table → Option γ) (top : Table) (key : String) :
    Option γ → Prop where
  | absent : top.lookup key = none → Section read top key none
  | present {t : Table} {g : γ} : top.lookup key = some (.table t) → read t = some g →
      Section read top key (some g)

/-- A shared file: two sections that can be read, and no other keys. -/
structure SharedForm (F : ConfigFormat) (top : Table) (edge : Option EdgeConfig.Given)
    (supernode : Option FullSupernodeConfig.Given) : Prop where
  onlyKeys : top.OnlyKeys ["edge", "supernode"]
  edge : Section (EdgeConfig.Given.read F) top "edge" edge
  supernode : Section FullSupernodeConfig.Given.read top "supernode" supernode

def IsShared (F : ConfigFormat) (top : Table) : Prop :=
  ∃ edge supernode, SharedForm F top edge supernode

/-- The fields at top level that an edge has can be read. -/
def EdgeForm (F : ConfigFormat) (top : Table) : Prop := (EdgeConfig.Given.read F top).isSome

/-- The fields at top level that a supernode has can be read. -/
def SupernodeForm (top : Table) : Prop := (FullSupernodeConfig.Given.read top).isSome

namespace Section

variable {γ α : Type} {read : Table → Option γ} {top : Table} {key : String}
variable {fill : γ → α} {encode : α → Table} {h : ∀ a, (read (encode a)).map fill = some a}

/-- Reading a section of records that are read field by field. -/
lemma optional_eq {g : Option γ} (hsection : Section read top key g) :
    top.optional key (Codec.table.refine (fun t => (read t).map fill) encode h) =
      some (g.map fill) := by
  cases hsection with
  | absent hnone => simp [Table.optional, hnone]
  | present hlookup hread => simp [Table.optional, hlookup, Codec.refine, Codec.table, hread]

lemma of_optional {o : Option α}
    (ho : top.optional key (Codec.table.refine (fun t => (read t).map fill) encode h) = some o) :
    ∃ g, Section read top key g := by
  cases hlookup : top.lookup key with
  | none => exact ⟨none, .absent hlookup⟩
  | some v =>
      rw [Table.optional_of_lookup hlookup] at ho
      obtain ⟨a, ha, -⟩ := Option.map_eq_some_iff.mp ho
      obtain ⟨t, ht, ha⟩ := Option.bind_eq_some_iff.mp ha
      obtain ⟨g, hg, -⟩ := Option.map_eq_some_iff.mp ha
      cases v with
      | table t' =>
          obtain rfl := Option.some.inj ht
          exact ⟨some g, .present hlookup hg⟩
      | string s => cases ht
      | integer n => cases ht
      | boolean b => cases ht
      | array items => cases ht
      | other => cases ht

end Section

variable {F : ConfigFormat} {top : Table} {content : F.Text}

/-- The first attempt accepts the shared files. -/
lemma SharedForm.read {edge : Option EdgeConfig.Given}
    {supernode : Option FullSupernodeConfig.Given} (h : SharedForm F top edge supernode)
    (d : Draws) :
    SharedConfigFile.read F d top = some
      { edge := edge.map fun g => g.fill (.default d)
        supernode := supernode.map fun g => g.fill (.default F d) } := by
  have hedge : top.optional "edge" (EdgeConfig.codec F d) =
      some (edge.map fun g => g.fill (.default d)) := h.edge.optional_eq
  have hsupernode : top.optional "supernode" (FullSupernodeConfig.codec F d) =
      some (supernode.map fun g => g.fill (.default F d)) := h.supernode.optional_eq
  simp [SharedConfigFile.read, h.onlyKeys, hedge, hsupernode]

lemma read_of_not_isShared (h : ¬IsShared F top) (d : Draws) :
    SharedConfigFile.read F d top = none := by
  by_contra hread
  obtain ⟨shared, hread⟩ := Option.ne_none_iff_exists'.mp hread
  rw [SharedConfigFile.read] at hread
  split_ifs at hread with hkeys
  obtain ⟨edge, hedge, hread⟩ := Option.bind_eq_some_iff.mp hread
  obtain ⟨supernode, hsupernode, -⟩ := Option.bind_eq_some_iff.mp hread
  obtain ⟨e, he⟩ := Section.of_optional hedge
  obtain ⟨s, hs⟩ := Section.of_optional hsupernode
  exact h ⟨e, s, hkeys, he, hs⟩

/-! ## What the attempts come to -/

section Parse

variable (hparse : F.parse content = some top) (draw : ℕ → Draws)

include hparse

lemma parse_of_shared {edge : Option EdgeConfig.Given}
    {supernode : Option FullSupernodeConfig.Given} (h : SharedForm F top edge supernode) :
    parseSharedConfigContent F draw content = .ok
      { edge := edge.map fun g => g.fill (.default (draw 0))
        supernode := supernode.map fun g => g.fill (.default F (draw 0)) } := by
  simp [parseSharedConfigContent, ConfigFormat.fromStr, hparse, h.read]

lemma parse_of_edge (hshared : ¬IsShared F top) {g : EdgeConfig.Given}
    (hg : EdgeConfig.Given.read F top = some g) :
    parseSharedConfigContent F draw content = .ok
      { edge := some (g.fill (.default (draw 1))).normalize, supernode := none } := by
  simp [parseSharedConfigContent, ConfigFormat.fromStr, hparse, read_of_not_isShared hshared,
    EdgeConfig.read, hg]

lemma parse_of_supernode (hshared : ¬IsShared F top) (hedge : ¬EdgeForm F top) :
    parseSharedConfigContent F draw content =
      match FullSupernodeConfig.Given.read top with
      | some g => .ok { edge := none, supernode := some (g.fill (.default F (draw 2))) }
      | none => .error .shared := by
  rw [EdgeForm, Option.not_isSome_iff_eq_none] at hedge
  cases hg : FullSupernodeConfig.Given.read top <;>
    simp [parseSharedConfigContent, ConfigFormat.fromStr, hparse, read_of_not_isShared hshared,
      EdgeConfig.read, FullSupernodeConfig.read, hedge, hg]

lemma EdgeConfig.load_of_section {g : EdgeConfig.Given}
    {supernode : Option FullSupernodeConfig.Given} (h : SharedForm F top (some g) supernode) :
    EdgeConfig.load F draw (some content) = .ok (g.fill (.default (draw 0))).normalize := by
  rw [EdgeConfig.load, parse_of_shared hparse draw h]
  rfl

/-- A shared file without the section sets no field of it. -/
lemma EdgeConfig.load_of_no_section {supernode : Option FullSupernodeConfig.Given}
    (h : SharedForm F top none supernode) :
    EdgeConfig.load F draw (some content) = .ok (EdgeConfig.default (draw 3)).normalize := by
  obtain ⟨g, hg, hfill⟩ := EdgeConfig.Given.read_sections F h.onlyKeys
  have hread : F.fromStr (EdgeConfig.read F (draw 3)) content = some (.default (draw 3)) := by
    simp [ConfigFormat.fromStr, hparse, EdgeConfig.read, hg, hfill]
  simp only [EdgeConfig.load, parse_of_shared hparse draw h, bind, Except.bind, Option.map_none,
    hread]

/-- The fields at top level are brought into normal form twice. -/
lemma EdgeConfig.load_of_edge (hshared : ¬IsShared F top) {g : EdgeConfig.Given}
    (hg : EdgeConfig.Given.read F top = some g) :
    EdgeConfig.load F draw (some content) =
      .ok (g.fill (.default (draw 1))).normalize.normalize := by
  rw [EdgeConfig.load, parse_of_edge hparse draw hshared hg]
  rfl

lemma EdgeConfig.load_of_not_edge (hshared : ¬IsShared F top) (hedge : ¬EdgeForm F top) :
    ∃ error, EdgeConfig.load F draw (some content) = .error error := by
  have hread : F.fromStr (EdgeConfig.read F (draw 3)) content = none := by
    simpa [ConfigFormat.fromStr, hparse, EdgeConfig.read, EdgeForm] using hedge
  simp only [EdgeConfig.load, parse_of_supernode hparse draw hshared hedge, bind, Except.bind]
  cases FullSupernodeConfig.Given.read top with
  | none => exact ⟨.shared, rfl⟩
  | some g =>
      refine ⟨.parse, ?_⟩
      simp only [hread]

lemma FullSupernodeConfig.load_of_section {edge : Option EdgeConfig.Given}
    {g : FullSupernodeConfig.Given} (h : SharedForm F top edge (some g)) :
    FullSupernodeConfig.load F draw (some content) = .ok (g.fill (.default F (draw 0))) := by
  rw [FullSupernodeConfig.load, parse_of_shared hparse draw h]
  rfl

lemma FullSupernodeConfig.load_of_no_section {edge : Option EdgeConfig.Given}
    (h : SharedForm F top edge none) :
    FullSupernodeConfig.load F draw (some content) = .ok (.default F (draw 3)) := by
  obtain ⟨g, hg, hfill⟩ := FullSupernodeConfig.Given.read_sections h.onlyKeys
  have hread : F.fromStr (FullSupernodeConfig.read F (draw 3)) content =
      some (.default F (draw 3)) := by
    simp [ConfigFormat.fromStr, hparse, FullSupernodeConfig.read, hg, hfill]
  simp only [FullSupernodeConfig.load, parse_of_shared hparse draw h, bind, Except.bind,
    Option.map_none, hread]

/-- In a file that is taken for an edge's the fields of a supernode are looked for after all. -/
lemma FullSupernodeConfig.load_of_edge (hshared : ¬IsShared F top) (hedge : EdgeForm F top) :
    FullSupernodeConfig.load F draw (some content) =
      match FullSupernodeConfig.Given.read top with
      | some g => .ok (g.fill (.default F (draw 3)))
      | none => .error .parse := by
  obtain ⟨e, he⟩ := Option.isSome_iff_exists.mp hedge
  simp only [FullSupernodeConfig.load, parse_of_edge hparse draw hshared he, bind, Except.bind,
    ConfigFormat.fromStr, hparse, Option.bind_some, FullSupernodeConfig.read]
  cases FullSupernodeConfig.Given.read top <;> rfl

lemma FullSupernodeConfig.load_of_supernode (hshared : ¬IsShared F top) (hedge : ¬EdgeForm F top) :
    FullSupernodeConfig.load F draw (some content) =
      match FullSupernodeConfig.Given.read top with
      | some g => .ok (g.fill (.default F (draw 2)))
      | none => .error .shared := by
  simp only [FullSupernodeConfig.load, parse_of_supernode hparse draw hshared hedge, bind,
    Except.bind]
  cases FullSupernodeConfig.Given.read top <;> rfl

end Parse

/-! ## The section of the edge -/

/-- A record has the value given for each field that a table sets, up to `normalize`; no record has
if there is a field that cannot be read. -/
def Gives (F : ConfigFormat) (t : Table) (config : EdgeConfig) : Prop :=
  ∃ g given, EdgeConfig.Given.read F t = some g ∧ g.fill given = given ∧ given.normalize = config

/-- The keys at top level, with the defaults for those that are missing, say the same as a table. -/
def Repeats (F : ConfigFormat) (d : Draws) (top t : Table) : Prop :=
  ∃ g flat given, EdgeConfig.Given.read F t = some g ∧ EdgeConfig.Given.read F top = some flat ∧
    g.fill given = given ∧ given.normalize = (flat.fill (.default d)).normalize.normalize

/-- **When loading returns what the section of the edge says**, or an error.  It does for a shared
file, and where the keys at top level cannot be those of an edge, which is an error.  In all other
files the section is not looked at. -/
theorem EdgeConfig.load_gives_iff (F : ConfigFormat) (draw : ℕ → Draws) (content : F.Text)
    (top edge : Table) (hparse : F.parse content = some top)
    (hedge : top.lookup "edge" = some (.table edge)) :
    (∀ config, EdgeConfig.load F draw (some content) = .ok config → Gives F edge config) ↔
      IsShared F top ∨ ¬EdgeForm F top ∨ Repeats F (draw 1) top edge := by
  by_cases hshared : IsShared F top
  · refine iff_of_true ?_ (.inl hshared)
    obtain ⟨e, s, h⟩ := hshared
    have hsection := h.edge
    cases hsection with
    | absent hnone => cases hedge.symm.trans hnone
    | @present t g hlookup hread =>
        obtain rfl := Toml.table.inj (Option.some.inj (hlookup.symm.trans hedge))
        rw [EdgeConfig.load_of_section hparse draw h]
        intro config hconfig
        exact ⟨g, _, hread, g.fill_fill _, Except.ok.inj hconfig⟩
  by_cases hform : EdgeForm F top
  · obtain ⟨g, hg⟩ := Option.isSome_iff_exists.mp hform
    rw [EdgeConfig.load_of_edge hparse draw hshared hg]
    simp [hshared, hform, Repeats, Gives, hg]
  · obtain ⟨error, hload⟩ := EdgeConfig.load_of_not_edge hparse draw hshared hform
    simp [hload, hform]

/-! ## Files whose section is ignored -/

/-- Addresses as lists of numbers. -/
def plainNet : Codec IpNet :=
  (Codec.list .integer).refine
    (fun numbers =>
      match numbers with
      | [] => none
      | prefixLen :: octets =>
          let bytes := octets.map fun n => UInt8.ofNat n.toNat
          (((byteArrOf 4 bytes).map IpAddr.v4).or ((byteArrOf 16 bytes).map IpAddr.v6)).map
            fun addr => ⟨addr, prefixLen.toNat⟩)
    (fun net =>
      (net.prefixLen : ℤ) :: (match net.addr with
        | .v4 octets => octets.toList
        | .v6 octets => octets.toList).map fun b : UInt8 => (b.toNat : ℤ))
    (by
      rintro ⟨addr, prefixLen⟩
      cases addr with
      | v4 octets => simp [Function.comp_def, byteArrOf]
      | v6 octets => simp [Function.comp_def, byteArrOf])

/-- Files that are the tables they stand for. -/
def plainFormat : ConfigFormat where
  Text := Table
  parse := some
  print := some
  parse_print h := h.symm
  net := plainNet
  hex := .lower

def zeroDraws : ℕ → Draws := fun _ =>
  { nodeId := .fill 32 0, privateKey := .fill 32 0, adminToken := .fill 32 0 }

def aliceSection : Table := [("nickname", .string "alice")]

def aliceConfig : EdgeConfig := { EdgeConfig.default (zeroDraws 0) with nickname := "alice" }

/-- The section of a shared file is what is loaded. -/
theorem EdgeConfig.load_gives_alice :
    EdgeConfig.load plainFormat zeroDraws (some [("edge", .table aliceSection)]) = .ok aliceConfig ∧
      Gives plainFormat aliceSection aliceConfig := by
  have hload : EdgeConfig.load plainFormat zeroDraws (some [("edge", .table aliceSection)]) =
      .ok aliceConfig := by
    decide +kernel
  refine ⟨hload, (EdgeConfig.load_gives_iff plainFormat zeroDraws [("edge", .table aliceSection)]
    [("edge", .table aliceSection)] aliceSection rfl rfl).mpr (.inl ?_) aliceConfig hload⟩
  exact ⟨_, none, ⟨by decide, .present rfl rfl, .absent rfl⟩⟩

/-- The identifier of a node as the documentation of the file writes it. -/
def documentedSection : Table :=
  [("node_id", .string "0102030405060708090a0b0c0d0e0f101112131415161718191a1b1c1d1e1f20")]

/-- **Two sections that are ignored.**  An identifier in the documented form cannot be read, and an
unknown key next to the section makes the file no shared one.  Both files give a fresh
configuration. -/
theorem EdgeConfig.load_ignores_section :
    (EdgeConfig.load plainFormat zeroDraws (some [("edge", .table documentedSection)]) =
        .ok (.default (zeroDraws 1)) ∧
      ¬Gives plainFormat documentedSection (.default (zeroDraws 1))) ∧
    (EdgeConfig.load plainFormat zeroDraws
        (some [("edge", .table aliceSection), ("verbose", .boolean true)]) =
        .ok (.default (zeroDraws 1)) ∧
      ¬Gives plainFormat aliceSection (.default (zeroDraws 1))) := by
  refine ⟨⟨by decide +kernel, ?_⟩, ⟨by decide +kernel, ?_⟩⟩
  · rintro ⟨g, given, hread, -⟩
    cases hread
  · rintro ⟨g, given, hread, hfill, hnormal⟩
    obtain rfl := Option.some.inj hread
    have hgiven : "alice" = given.nickname := congrArg EdgeConfig.nickname hfill
    have hloaded : given.nickname = "R2N-Peer" := congrArg EdgeConfig.nickname hnormal
    exact absurd (hgiven.trans hloaded) (by decide)

end R2N
