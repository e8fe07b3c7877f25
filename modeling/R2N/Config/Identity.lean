import R2N.Config.Save
import R2N.Lib.Run

/-!
# Who keeps its identity

The programs read their configuration with `load_or_create`: if there is no file they write one
with fresh defaults, else they load what is there.  A node identifier, a private key and an
administration token are drawn at random whenever their field is missing, and loading does not
write the file.  An edge and a supernode on one machine share the file, and the one that finds the
file of the other draws its secrets anew each time.

* `EdgeConfig.loadOrCreate`, `FullSupernodeConfig.loadOrCreate`, `startDaemon`, `persistSwitch` —
  everything the programs do with the file.
* `ConfigEvent`, `ConfigEvent.step` — starts and changes of supernode, in any order.
* `step_written` — a file with the sections of a shared one stays one, keeps the section of the
  supernode and the identity in that of the edge.
* **`secrets_kept_iff`** — the edge has one identity in all its starts exactly if it was the first
  to need the file, and the supernode has one token exactly if it was.
-/

namespace R2N

open Run

/-! ## What the programs do with the file -/

section Programs

variable (F : ConfigFormat)

/-- `EdgeConfig::load_or_create`: the configuration, and the content of the file. -/
def EdgeConfig.loadOrCreate (draw : ℕ → Draws) (file : Option F.Text) :
    Except ConfigError (EdgeConfig × F.Text) :=
  match file with
  | some text => (EdgeConfig.load F draw (some text)).map fun config => (config, text)
  | none =>
      let newConfig := EdgeConfig.default (draw 0)
      (newConfig.save F draw none).map fun text => (newConfig, text)

/-- `SupernodeConfig::load_or_create`. -/
def FullSupernodeConfig.loadOrCreate (draw : ℕ → Draws) (file : Option F.Text) :
    Except ConfigError (FullSupernodeConfig × F.Text) :=
  match file with
  | some text => (FullSupernodeConfig.load F draw (some text)).map fun config => (config, text)
  | none =>
      let newConfig := FullSupernodeConfig.default F (draw 0)
      (newConfig.save F draw none).map fun text => (newConfig, text)

/-- The arguments of `r2n daemon` override the configuration; the second component says whether it
is to be saved. -/
def EdgeConfig.overridden (config : EdgeConfig) (supernode tun : Option String) :
    EdgeConfig × Bool :=
  let finalSupernode := supernode.getD config.defaultSupernode
  let finalTun := tun.getD config.defaultTunName
  let switched :=
    if config.defaultSupernode ≠ finalSupernode then
      { config with
        defaultSupernode := finalSupernode
        supernodes :=
          if finalSupernode ∈ config.supernodes then config.supernodes
          else finalSupernode :: config.supernodes }
    else config
  (if config.defaultTunName ≠ finalTun then { switched with defaultTunName := finalTun }
    else switched,
    config.defaultSupernode ≠ finalSupernode || config.defaultTunName ≠ finalTun)

/-- A configuration that was loaded is changed and saved. -/
def EdgeConfig.resave (draw : ℕ → Draws) (text : F.Text) (config : EdgeConfig × Bool) :
    Except ConfigError EdgeConfig × Option F.Text :=
  if config.2 then
    match config.1.save F draw (some text) with
    | .ok text' => (.ok config.1, some text')
    | .error err => (.error err, some text)
  else (.ok config.1, some text)

/-- The beginning of `r2n daemon`: the configuration of the edge that is started, and the file. -/
def startDaemon (draw draw' : ℕ → Draws) (supernode tun : Option String) (file : Option F.Text) :
    Except ConfigError EdgeConfig × Option F.Text :=
  match EdgeConfig.loadOrCreate F draw file with
  | .error err => (.error err, file)
  | .ok (config, text) => EdgeConfig.resave F draw' text (config.overridden supernode tun)

/-- What the `SwitchSupernode` command does with the file. -/
def persistSwitch (draw draw' : ℕ → Draws) (addr : String) (file : Option F.Text) :
    Option F.Text :=
  match EdgeConfig.loadOrCreate F draw file with
  | .error _ => file
  | .ok (config, text) =>
      (EdgeConfig.resave F draw' text
        ({ config with defaultSupernode := addr }, config.defaultSupernode ≠ addr)).2

end Programs

/-- What happens on the machine, with the random bytes that are drawn. -/
inductive ConfigEvent where
  | edgeStart (draw draw' : ℕ → Draws) (supernode tun : Option String)
  | supernodeStart (draw : ℕ → Draws)
  | switchSupernode (draw draw' : ℕ → Draws) (addr : String)

namespace ConfigEvent

/-- The event is one of a supernode. -/
def isSupernode : ConfigEvent → Bool
  | .supernodeStart _ => true
  | _ => false

variable (F : ConfigFormat)

/-- The file after an event. -/
def step (file : Option F.Text) : ConfigEvent → Option F.Text
  | .edgeStart draw draw' supernode tun => (startDaemon F draw draw' supernode tun file).2
  | .supernodeStart draw =>
      match FullSupernodeConfig.loadOrCreate F draw file with
      | .error _ => file
      | .ok (_, text) => some text
  | .switchSupernode draw draw' addr => persistSwitch F draw draw' addr file

end ConfigEvent

/-- What an edge is known by. -/
def EdgeConfig.identity (config : EdgeConfig) : NodeId × Key := (config.nodeId, config.privateKey)

namespace ConfigEvent

variable (F : ConfigFormat)

/-- The identity with which an edge is started. -/
def identities (file : Option F.Text) : ConfigEvent → List (NodeId × Key)
  | .edgeStart draw draw' supernode tun =>
      match (startDaemon F draw draw' supernode tun file).1 with
      | .ok config => [config.identity]
      | .error _ => []
  | _ => []

/-- The administration token with which a supernode is started. -/
def adminTokens (file : Option F.Text) : ConfigEvent → List String
  | .supernodeStart draw =>
      match FullSupernodeConfig.loadOrCreate F draw file with
      | .ok (config, _) => [config.adminToken]
      | .error _ => []
  | _ => []

end ConfigEvent

/-! ## Files that were written -/

lemma EdgeConfig.identity_normalize (config : EdgeConfig) :
    config.normalize.identity = config.identity := by
  simp only [identity, normalize]

lemma EdgeConfig.identity_overridden (config : EdgeConfig) (supernode tun : Option String) :
    (config.overridden supernode tun).1.identity = config.identity := by
  unfold overridden
  simp only
  split_ifs <;> rfl

/-- The file has the sections of a shared one, as they are written. -/
def WrittenAs (F : ConfigFormat) (shared : SharedConfigFile) (file : Option F.Text) : Prop :=
  ∃ text, file = some text ∧ F.parse text = some (shared.write F)

section Written

variable {F : ConfigFormat} {shared : SharedConfigFile}

/-- What is printed is a file that was written. -/
lemma saveSharedConfig_written (F : ConfigFormat) (shared : SharedConfigFile) :
    (∃ err, saveSharedConfig F shared = .error err) ∨
    ∃ text, saveSharedConfig F shared = .ok text ∧ F.parse text = some (shared.write F) := by
  unfold saveSharedConfig
  cases hprint : F.print (shared.write F) with
  | none => exact .inl ⟨_, rfl⟩
  | some text => exact .inr ⟨text, rfl, F.parse_print hprint⟩

/-- Saving again leaves the sections as they are, or replaces that of the edge. -/
lemma EdgeConfig.resave_written {text : F.Text} (hparse : F.parse text = some (shared.write F))
    (draw : ℕ → Draws) (config : EdgeConfig × Bool) :
    ∃ edge, WrittenAs F { shared with edge } (EdgeConfig.resave F draw text config).2 ∧
      (edge = shared.edge ∨ edge = some config.1) ∧
      ∀ c, (EdgeConfig.resave F draw text config).1 = .ok c → c = config.1 := by
  unfold EdgeConfig.resave
  split_ifs
  · rw [EdgeConfig.save_eq (parse_written hparse draw)]
    rcases saveSharedConfig_written F { shared with edge := some config.1 } with
      ⟨err, hsave⟩ | ⟨text', hsave, hparse'⟩
    · rw [hsave]
      refine ⟨shared.edge, ⟨text, rfl, hparse⟩, .inl rfl, fun c hc => ?_⟩
      cases hc
    · rw [hsave]
      refine ⟨some config.1, ⟨text', rfl, hparse'⟩, .inr rfl, ?_⟩
      rintro _ ⟨⟩
      rfl
  · refine ⟨shared.edge, ⟨text, rfl, hparse⟩, .inl rfl, ?_⟩
    rintro _ ⟨⟩
    rfl

/-- What is left of the sections: that of the supernode, and the identity in that of the edge. -/
structure Succeeds (shared shared' : SharedConfigFile) : Prop where
  supernode : shared'.supernode = shared.supernode
  identity : ∀ id, shared.edge.map EdgeConfig.identity = some id →
    shared'.edge.map EdgeConfig.identity = some id

/-- A configuration with the identity of the section is saved again. -/
lemma EdgeConfig.resave_succeeds {text : F.Text} (hparse : F.parse text = some (shared.write F))
    (draw : ℕ → Draws) {config : EdgeConfig × Bool}
    (hconfig : ∀ id, shared.edge.map EdgeConfig.identity = some id → config.1.identity = id) :
    ∃ shared', WrittenAs F shared' (EdgeConfig.resave F draw text config).2 ∧
      Succeeds shared shared' := by
  obtain ⟨edge, hwritten, hedge, -⟩ := EdgeConfig.resave_written hparse draw config
  refine ⟨{ shared with edge }, hwritten, rfl, fun id hid => ?_⟩
  rcases hedge with rfl | rfl
  · exact hid
  · exact congrArg some (hconfig id hid)

/-- What is loaded from a section has its identity. -/
lemma EdgeConfig.identity_load_written {id : NodeId × Key}
    (hid : shared.edge.map EdgeConfig.identity = some id) (d : Draws) :
    (shared.edge.getD (.default d)).normalize.identity = id := by
  obtain ⟨config, hconfig, rfl⟩ := Option.map_eq_some_iff.mp hid
  rw [hconfig, Option.getD_some, identity_normalize]

end Written

namespace ConfigEvent

variable {F : ConfigFormat} {shared : SharedConfigFile} {file : Option F.Text}

/-- **The step.**  A file that was written stays one, and what is in its sections is what the
programs are started with. -/
lemma step_written (h : WrittenAs F shared file) (event : ConfigEvent) :
    (∃ shared', WrittenAs F shared' (event.step F file) ∧ Succeeds shared shared') ∧
      (∀ id, shared.edge.map EdgeConfig.identity = some id →
        ∀ x ∈ event.identities F file, x = id) ∧
      (∀ config, shared.supernode = some config →
        ∀ x ∈ event.adminTokens F file, x = config.adminToken) := by
  obtain ⟨text, rfl, hparse⟩ := h
  have hself : ∃ shared', WrittenAs F shared' (some text) ∧ Succeeds shared shared' :=
    ⟨shared, ⟨text, rfl, hparse⟩, rfl, fun _ hid => hid⟩
  cases event with
  | edgeStart draw draw' supernode tun =>
      have hload := EdgeConfig.load_written hparse draw
      generalize hconfig : (shared.edge.getD (.default (draw 3))).normalize = config at hload
      have hid : ∀ id, shared.edge.map EdgeConfig.identity = some id →
          (config.overridden supernode tun).1.identity = id := by
        intro id hid
        rw [EdgeConfig.identity_overridden, ← hconfig]
        exact EdgeConfig.identity_load_written hid _
      have hstart : startDaemon F draw draw' supernode tun (some text) =
          EdgeConfig.resave F draw' text (config.overridden supernode tun) := by
        simp only [startDaemon, EdgeConfig.loadOrCreate, hload, Except.map]
      simp only [step, identities, adminTokens, hstart]
      refine ⟨EdgeConfig.resave_succeeds hparse draw' hid, fun id hsome x hx => ?_, by simp⟩
      obtain ⟨-, -, -, hresult⟩ :=
        EdgeConfig.resave_written hparse draw' (config.overridden supernode tun)
      split at hx
      · next c hc =>
        rw [List.mem_singleton.mp hx, hresult c hc]
        exact hid id hsome
      · cases hx
  | supernodeStart draw =>
      have hload := FullSupernodeConfig.load_written hparse draw
      simp only [step, identities, adminTokens, FullSupernodeConfig.loadOrCreate, hload, Except.map]
      refine ⟨hself, by simp, fun config hconfig x hx => ?_⟩
      rw [List.mem_singleton.mp hx, hconfig]
      rfl
  | switchSupernode draw draw' addr =>
      have hload := EdgeConfig.load_written hparse draw
      generalize hconfig : (shared.edge.getD (.default (draw 3))).normalize = config at hload
      have hid : ∀ id, shared.edge.map EdgeConfig.identity = some id →
          { config with defaultSupernode := addr }.identity = id := by
        intro id hid
        rw [← EdgeConfig.identity_load_written hid (draw 3), hconfig]
        rfl
      have hstep : persistSwitch F draw draw' addr (some text) = (EdgeConfig.resave F draw' text
          ({ config with defaultSupernode := addr }, config.defaultSupernode ≠ addr)).2 := by
        simp only [persistSwitch, EdgeConfig.loadOrCreate, hload, Except.map]
      simp only [step, identities, adminTokens, hstep]
      exact ⟨EdgeConfig.resave_succeeds hparse draw' hid, by simp, by simp⟩

/-! ## The first event -/

/-- A supernode that finds no file leaves one with its own section, if it leaves one. -/
lemma step_none_supernode {draw : ℕ → Draws}
    (h : (step F none (.supernodeStart draw)).isSome) :
    ∃ config, WrittenAs F { edge := none, supernode := some config }
        (step F none (.supernodeStart draw)) ∧
      ∀ x ∈ adminTokens F none (.supernodeStart draw), x = config.adminToken := by
  refine ⟨.default F (draw 0), ?_⟩
  simp only [step, adminTokens, FullSupernodeConfig.loadOrCreate, FullSupernodeConfig.save,
    loadSharedConfigIfPresent, bind, Except.bind] at h ⊢
  rcases saveSharedConfig_written F { SharedConfigFile.default with
    supernode := some (.default F (draw 0)) } with ⟨err, hsave⟩ | ⟨text, hsave, hparse⟩
  · simp [hsave, Except.map] at h
  · simp only [hsave, Except.map]
    exact ⟨⟨text, rfl, hparse⟩, by simp⟩

/-- The configuration that is saved again after the file was created. -/
lemma resave_created {new : EdgeConfig} {text : F.Text}
    (hparse : F.parse text = some (SharedConfigFile.write F ⟨some new, none⟩)) (draw : ℕ → Draws)
    (config : EdgeConfig × Bool) (hconfig : config.1.identity = new.identity) :
    ∃ c, WrittenAs F { edge := some c, supernode := none }
        (EdgeConfig.resave F draw text config).2 ∧
      c.identity = new.identity := by
  obtain ⟨edge, hwritten, hedge, -⟩ := EdgeConfig.resave_written hparse draw config
  rcases hedge with rfl | rfl
  · exact ⟨new, hwritten, rfl⟩
  · exact ⟨config.1, hwritten, hconfig⟩

/-- An edge that finds no file leaves one with its own section, if it leaves one. -/
lemma step_none_edge {first : ConfigEvent} (hedge : first.isSupernode = false)
    (h : (first.step F none).isSome) :
    ∃ config, WrittenAs F { edge := some config, supernode := none } (first.step F none) ∧
      ∀ x ∈ first.identities F none, x = config.identity := by
  have hcreate : ∀ draw : ℕ → Draws, ∀ new, new = EdgeConfig.default (draw 0) →
      (∃ err, EdgeConfig.loadOrCreate F draw none = .error err) ∨
      ∃ text, EdgeConfig.loadOrCreate F draw none = .ok (new, text) ∧
        F.parse text = some (SharedConfigFile.write F ⟨some new, none⟩) := by
    rintro draw new rfl
    simp only [EdgeConfig.loadOrCreate, EdgeConfig.save, loadSharedConfigIfPresent, bind,
      Except.bind]
    rcases saveSharedConfig_written F { SharedConfigFile.default with
      edge := some (.default (draw 0)) } with ⟨err, hsave⟩ | ⟨text, hsave, hparse⟩
    · exact .inl ⟨err, by rw [hsave]; rfl⟩
    · exact .inr ⟨text, by rw [hsave]; rfl, hparse⟩
  cases first with
  | supernodeStart draw => cases hedge
  | edgeStart draw draw' supernode tun =>
      simp only [step, identities, startDaemon] at h ⊢
      obtain ⟨new, hnew⟩ : ∃ new, new = EdgeConfig.default (draw 0) := ⟨_, rfl⟩
      rcases hcreate draw new hnew with ⟨err, hload⟩ | ⟨text, hload, hparse⟩
      · simp [hload] at h
      · simp only [hload]
        have hid := new.identity_overridden supernode tun
        obtain ⟨c, hwritten, hc⟩ := resave_created hparse draw' _ hid
        refine ⟨c, hwritten, fun x hx => ?_⟩
        obtain ⟨-, -, -, hresult⟩ :=
          EdgeConfig.resave_written hparse draw' (new.overridden supernode tun)
        split at hx
        · next c' hc' => rw [List.mem_singleton.mp hx, hresult c' hc', hid, hc]
        · cases hx
  | switchSupernode draw draw' addr =>
      simp only [step, identities, persistSwitch] at h ⊢
      obtain ⟨new, hnew⟩ : ∃ new, new = EdgeConfig.default (draw 0) := ⟨_, rfl⟩
      rcases hcreate draw new hnew with ⟨err, hload⟩ | ⟨text, hload, hparse⟩
      · simp [hload] at h
      · simp only [hload]
        have hid : { new with defaultSupernode := addr }.identity = new.identity := rfl
        obtain ⟨c, hwritten, -⟩ := resave_created hparse draw'
          ({ new with defaultSupernode := addr }, new.defaultSupernode ≠ addr) hid
        exact ⟨c, hwritten, by simp⟩

/-! ## Whole runs -/

/-- With a section of the edge, every edge is started with its identity. -/
lemma forall_identities {id : NodeId × Key} (h : WrittenAs F shared file)
    (hid : shared.edge.map EdgeConfig.identity = some id) (events : List ConfigEvent) :
    ∀ x ∈ collect (step F) (identities F) file events, x = id := by
  refine forall_collect (P := fun _ _ => True)
    (I := fun file => ∃ shared, WrittenAs F shared file ∧
      shared.edge.map EdgeConfig.identity = some id)
    ?_ ?_ events file ⟨shared, h, hid⟩ (along_of_forall (fun _ _ => trivial) events file)
  · rintro file event ⟨shared, h, hid⟩ -
    obtain ⟨shared', h', hsucceeds⟩ := (step_written h event).1
    exact ⟨shared', h', hsucceeds.identity id hid⟩
  · rintro file event ⟨shared, h, hid⟩ -
    exact (step_written h event).2.1 id hid

/-- With a section of the supernode, every supernode is started with its token. -/
lemma forall_adminTokens {config : FullSupernodeConfig} (h : WrittenAs F shared file)
    (hconfig : shared.supernode = some config) (events : List ConfigEvent) :
    ∀ x ∈ collect (step F) (adminTokens F) file events, x = config.adminToken := by
  refine forall_collect (P := fun _ _ => True)
    (I := fun file => ∃ shared, WrittenAs F shared file ∧ shared.supernode = some config)
    ?_ ?_ events file ⟨shared, h, hconfig⟩ (along_of_forall (fun _ _ => trivial) events file)
  · rintro file event ⟨shared, h, hconfig⟩ -
    obtain ⟨shared', h', hsucceeds⟩ := (step_written h event).1
    exact ⟨shared', h', hsucceeds.supernode.trans hconfig⟩
  · rintro file event ⟨shared, h, hconfig⟩ -
    exact (step_written h event).2.2 config hconfig

/-- Without a section, an edge that is started draws its identity and leaves the file alone. -/
lemma edgeStart_of_no_section (h : WrittenAs F shared file) (hnone : shared.edge = none)
    (draw draw' : ℕ → Draws) :
    step F file (.edgeStart draw draw' none none) = file ∧
      identities F file (.edgeStart draw draw' none none) =
        [(⟨(draw 3).nodeId⟩, (draw 3).privateKey)] := by
  obtain ⟨text, rfl, hparse⟩ := h
  have hload := EdgeConfig.load_written hparse draw
  rw [hnone, Option.getD_none] at hload
  have hid : (EdgeConfig.default (draw 3)).normalize.identity =
      (⟨(draw 3).nodeId⟩, (draw 3).privateKey) := EdgeConfig.identity_normalize _
  generalize (EdgeConfig.default (draw 3)).normalize = config at hload hid
  have hsame : config.overridden none none = (config, false) := by
    simp [EdgeConfig.overridden]
  simp [step, identities, startDaemon, EdgeConfig.loadOrCreate, hload, Except.map, hsame,
    EdgeConfig.resave, hid]

/-- Without a section, a supernode that is started draws its token and leaves the file alone. -/
lemma supernodeStart_of_no_section (h : WrittenAs F shared file) (hnone : shared.supernode = none)
    (draw : ℕ → Draws) :
    step F file (.supernodeStart draw) = file ∧
      adminTokens F file (.supernodeStart draw) =
        [FullSupernodeConfig.drawnToken F (draw 3)] := by
  obtain ⟨text, rfl, hparse⟩ := h
  have hload := FullSupernodeConfig.load_written hparse draw
  rw [hnone, Option.getD_none] at hload
  have htoken : (FullSupernodeConfig.default F (draw 3)).adminToken =
      FullSupernodeConfig.drawnToken F (draw 3) := by
    rw [FullSupernodeConfig.default, FullSupernodeConfig.drawnToken]
  simp only [step, adminTokens, FullSupernodeConfig.loadOrCreate, hload, Except.map, htoken,
    and_self]

/-- **Who keeps its secrets.**  A machine starts without a configuration file, and `first` is the
event that creates it.  In everything that follows, the edge is started with one identity exactly
if the first event was one of an edge, and the supernode is started with one administration token
exactly if it was the start of a supernode. -/
theorem secrets_kept_iff (F : ConfigFormat) (first : ConfigEvent)
    (hfirst : (first.step F none).isSome) :
    ((∀ rest, ∃ id, ∀ x ∈ collect (step F) (identities F) none (first :: rest), x = id) ↔
      first.isSupernode = false) ∧
    ((∀ rest, ∃ token, ∀ x ∈ collect (step F) (adminTokens F) none (first :: rest), x = token) ↔
      first.isSupernode = true) := by
  cases hprogram : first.isSupernode with
  | false =>
      obtain ⟨config, hwritten, hids⟩ := step_none_edge hprogram hfirst
      refine ⟨iff_of_true (fun rest => ⟨config.identity, fun x hx => ?_⟩) rfl,
        iff_of_false (fun hall => ?_) (by simp)⟩
      · rcases List.mem_append.mp hx with hx | hx
        · exact hids x hx
        · exact forall_identities hwritten rfl rest x hx
      · -- two starts of a supernode with different bytes
        let draws (b : UInt8) : ℕ → Draws := fun _ => sameDraws b
        obtain ⟨token, htoken⟩ := hall [.supernodeStart (draws 0), .supernodeStart (draws 1)]
        obtain ⟨hfile, htokens⟩ := supernodeStart_of_no_section hwritten rfl (draws 0)
        obtain ⟨-, htokens'⟩ := supernodeStart_of_no_section hwritten rfl (draws 1)
        simp only [collect_cons, hfile, htokens, htokens'] at htoken
        have h0 := htoken (FullSupernodeConfig.drawnToken F (sameDraws 0)) (by simp [draws])
        have h1 := htoken (FullSupernodeConfig.drawnToken F (sameDraws 1)) (by simp [draws])
        exact FullSupernodeConfig.drawnToken_ne F (h0.trans h1.symm)
  | true =>
      obtain ⟨draw, rfl⟩ : ∃ draw, first = .supernodeStart draw := by
        cases first with
        | supernodeStart draw => exact ⟨draw, rfl⟩
        | _ => cases hprogram
      obtain ⟨config, hwritten, htokens⟩ := step_none_supernode hfirst
      refine ⟨iff_of_false (fun hall => ?_) (by simp),
        iff_of_true (fun rest => ⟨config.adminToken, fun x hx => ?_⟩) rfl⟩
      · -- two starts of an edge with different bytes
        let draws (b : UInt8) : ℕ → Draws := fun _ => sameDraws b
        obtain ⟨id, hid⟩ := hall [.edgeStart (draws 0) (draws 0) none none,
          .edgeStart (draws 1) (draws 1) none none]
        obtain ⟨hfile, hids⟩ := edgeStart_of_no_section hwritten rfl (draws 0) (draws 0)
        obtain ⟨-, hids'⟩ := edgeStart_of_no_section hwritten rfl (draws 1) (draws 1)
        simp only [collect_cons, hfile, hids, hids'] at hid
        have h0 := hid (⟨.fill 32 0⟩, .fill 32 0) (by simp [draws, sameDraws])
        have h1 := hid (⟨.fill 32 1⟩, .fill 32 1) (by simp [draws, sameDraws])
        exact fill_zero_ne_one (congrArg Prod.snd (h0.trans h1.symm))
      · rcases List.mem_append.mp hx with hx | hx
        · exact htokens x hx
        · exact forall_adminTokens hwritten rfl rest x hx

/-- A supernode is the first to need the file. -/
theorem secrets_kept_iff_supernode :
    ((∀ rest, ∃ id, ∀ x ∈ collect (step plainFormat) (identities plainFormat) none
        (.supernodeStart zeroDraws :: rest), x = id) ↔
      (supernodeStart zeroDraws).isSupernode = false) ∧
    ((∀ rest, ∃ token, ∀ x ∈ collect (step plainFormat) (adminTokens plainFormat) none
        (.supernodeStart zeroDraws :: rest), x = token) ↔
      (supernodeStart zeroDraws).isSupernode = true) :=
  secrets_kept_iff plainFormat (.supernodeStart zeroDraws) (by decide +kernel)

end ConfigEvent

end R2N
