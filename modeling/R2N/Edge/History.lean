import R2N.Lib.KeyMap
import R2N.Lib.Recency
import R2N.Lib.StableSort

/-!
# The history of rooms

`r2n-edge-lib` keeps the rooms that were created or joined in a file, the last twenty of them with
their invites.  The UDP loop adds to it, and the IPC connections rename and delete; each of them
reads the whole file, changes the list and writes the whole file, and nothing keeps two of them
apart.  Writing truncates the file first, so another task may find it empty, or find bytes of two
writers in it; what cannot be parsed counts as no history.

* `saveHistory`, `HistoryCommand.change` — the list that is written, and the three changes.
* `HistoryFile`, `HistoryFile.step` — any number of tasks, an access at a time.
* **`history_well_formed`** — whatever the order of the accesses, a list in the file has at most
  twenty items, newest first, and no room twice.
* `serial_refines` — one change at a time, with a clock that moves on, is a list of the most recent
  rooms: sorting by time is moving to the front.
* **`recent_rooms_remembered`** — a room is found in the file until it is deleted or twenty others
  were joined after it.
-/

namespace R2N

open Run

structure HistoryItem where
  roomId : String
  name : String
  inviteCode : String
  /-- In seconds. -/
  lastJoined : ℕ
deriving DecidableEq

/-- The newer item stands first. -/
def HistoryItem.newerEq (a b : HistoryItem) : Prop := b.lastJoined ≤ a.lastJoined

instance : DecidableRel HistoryItem.newerEq := fun a b =>
  inferInstanceAs (Decidable (b.lastJoined ≤ a.lastJoined))

/-- `load_history`, of a file that holds a list or else is missing or cannot be parsed. -/
def loadHistory (file : Option (List HistoryItem)) : List HistoryItem := file.getD []

/-- The list that `save_history` writes. -/
def saveHistory (history : List HistoryItem) : List HistoryItem :=
  (history.insertionSort HistoryItem.newerEq).take 20

/-- A change to the history, for the one of `add_to_history` with the time. -/
inductive HistoryCommand where
  | add (roomId name inviteCode : String) (now : ℕ)
  | delete (roomId : String)
  | updateName (roomId name : String)
deriving DecidableEq

/-- `history.retain(|item| item.room_id != room_id)`. -/
def retainOthers (roomId : String) (history : List HistoryItem) : List HistoryItem :=
  history.filter fun item => item.roomId ≠ roomId

/-- The loop of `update_history_name`: the first item of the room gets the name, if there is
one. -/
def renameFirst (roomId name : String) : List HistoryItem → Option (List HistoryItem)
  | [] => none
  | item :: rest =>
      if item.roomId = roomId then some ({ item with name } :: rest)
      else (renameFirst roomId name rest).map (item :: ·)

/-- The list that is to be saved, if there is a change. -/
def HistoryCommand.change (history : List HistoryItem) : HistoryCommand → Option (List HistoryItem)
  | .add roomId name inviteCode now =>
      some (retainOthers roomId history ++ [{ roomId, name, inviteCode, lastJoined := now }])
  | .delete roomId =>
      if (retainOthers roomId history).length < history.length then
        some (retainOthers roomId history)
      else none
  | .updateName roomId name => renameFirst roomId name history

/-! ## Tasks that share the file -/

/-- The file, and the lists that tasks are about to write. -/
structure HistoryFile (C : Type*) where
  file : Option (List HistoryItem)
  pending : KeyMap C (List HistoryItem)

/-- An access of a task: it reads and decides what to write, it opens the file, which truncates it,
it writes, or it gives up on an error.  `torn` says whether another writer has left bytes in the
file. -/
inductive HistoryAccess (C : Type*) where
  | load (task : C) (command : HistoryCommand)
  | truncate (task : C)
  | write (task : C) (torn : Bool)
  | fail (task : C)

namespace HistoryFile

variable {C : Type*} [DecidableEq C]

def step (s : HistoryFile C) : HistoryAccess C → HistoryFile C
  | .load task command =>
      if task ∈ s.pending then s
      else
        match command.change (loadHistory s.file) with
        | some history => { s with pending := s.pending.insert task (saveHistory history) }
        | none => s
  | .truncate task => if task ∈ s.pending then { s with file := none } else s
  | .write task torn =>
      match s.pending.lookup task with
      | some history =>
          { file := if torn then none else some history, pending := s.pending.erase task }
      | none => s
  | .fail task => { s with pending := s.pending.erase task }

end HistoryFile

/-! ## Every list is well formed -/

/-- At most twenty items, newest first, and no room twice. -/
structure WellKept (history : List HistoryItem) : Prop where
  length_le : history.length ≤ 20
  newest_first : history.Pairwise HistoryItem.newerEq
  nodup : (history.map HistoryItem.roomId).Nodup

lemma wellKept_nil : WellKept [] := ⟨Nat.zero_le _, .nil, .nil⟩

/-- `save_history` keeps a list in order whose rooms are different. -/
lemma wellKept_saveHistory {history : List HistoryItem}
    (h : (history.map HistoryItem.roomId).Nodup) : WellKept (saveHistory history) where
  length_le := List.length_take_le _ _
  newest_first :=
    (StableSort.pairwise_insertionSort (fun _ _ => Iff.rfl) history).sublist (List.take_sublist _ _)
  nodup := by
    have hperm := (history.perm_insertionSort HistoryItem.newerEq).map HistoryItem.roomId
    exact (hperm.nodup_iff.mpr h).sublist ((List.take_sublist _ _).map _)

/-- A new name changes no room. -/
lemma map_roomId_renameFirst {roomId name : String} {history renamed : List HistoryItem}
    (h : renameFirst roomId name history = some renamed) :
    renamed.map HistoryItem.roomId = history.map HistoryItem.roomId := by
  induction history generalizing renamed with
  | nil => cases h
  | cons item rest ih =>
      simp only [renameFirst] at h
      split_ifs at h
      · obtain rfl := Option.some.inj h
        rfl
      · obtain ⟨tail, htail, rfl⟩ := Option.map_eq_some_iff.mp h
        rw [List.map_cons, List.map_cons, ih htail]

/-- No change brings a room in twice. -/
lemma nodup_change {history changed : List HistoryItem} {command : HistoryCommand}
    (h : (history.map HistoryItem.roomId).Nodup) (hchange : command.change history = some changed) :
    (changed.map HistoryItem.roomId).Nodup := by
  have hretain : ∀ roomId, ((retainOthers roomId history).map HistoryItem.roomId).Nodup :=
    fun roomId => h.sublist (List.filter_sublist.map _)
  cases command with
  | add roomId name inviteCode now =>
      obtain rfl := Option.some.inj hchange
      rw [List.map_append, List.nodup_append]
      refine ⟨hretain roomId, List.nodup_singleton _, ?_⟩
      rintro _ hmem _ hnew rfl
      obtain ⟨item, hitem, heq⟩ := List.mem_map.mp hmem
      rw [List.map_singleton, List.mem_singleton] at hnew
      exact of_decide_eq_true (List.mem_filter.mp hitem).2 (heq.trans hnew)
  | delete roomId =>
      simp only [HistoryCommand.change] at hchange
      split_ifs at hchange
      obtain rfl := Option.some.inj hchange
      exact hretain roomId
  | updateName roomId name =>
      rw [map_roomId_renameFirst hchange]
      exact h

namespace HistoryFile

variable {C : Type*} [DecidableEq C]

/-- What is in the file and what is about to be written is well kept. -/
structure Sound (s : HistoryFile C) : Prop where
  file : WellKept (loadHistory s.file)
  pending : ∀ task history, s.pending.lookup task = some history → WellKept history

/-- No access leaves a file, or a task with something to write, that is not well kept. -/
lemma Sound.step {s : HistoryFile C} (h : s.Sound) (access : HistoryAccess C) :
    (s.step access).Sound := by
  have herase : ∀ task task' history, (s.pending.erase task).lookup task' = some history →
      WellKept history := by
    intro task task' history hlookup
    rw [KeyMap.lookup_erase_eq] at hlookup
    split_ifs at hlookup
    exact h.pending task' history hlookup
  cases access with
  | load task command =>
      simp only [HistoryFile.step]
      split_ifs
      · exact h
      · split
        · next changed hchange =>
          refine ⟨h.file, fun task' history hlookup => ?_⟩
          rw [KeyMap.lookup_insert_eq] at hlookup
          split_ifs at hlookup
          · obtain rfl := Option.some.inj hlookup
            exact wellKept_saveHistory (nodup_change h.file.nodup hchange)
          · exact h.pending task' history hlookup
        · exact h
  | truncate task =>
      simp only [HistoryFile.step]
      split_ifs
      · exact ⟨wellKept_nil, h.pending⟩
      · exact h
  | write task torn =>
      simp only [HistoryFile.step]
      split
      · next history hlookup =>
        refine ⟨?_, herase task⟩
        cases torn with
        | true => exact wellKept_nil
        | false => exact h.pending task history hlookup
      · exact h
  | fail task => exact ⟨h.file, herase task⟩

/-- **The history is well formed.**  Start with no file, or with one that `save_history` has
written.  Whatever accesses tasks make, in any order, and whether or not they finish them, the list
that is loaded from the file has at most twenty items, newest first, and no room twice. -/
theorem history_well_formed (file : Option (List HistoryItem)) (hfile : WellKept (loadHistory file))
    (accesses : List (HistoryAccess C)) :
    WellKept (loadHistory (run step ⟨file, ∅⟩ accesses).file) :=
  (invariant_forall (I := Sound) (fun _ access h => h.step access) accesses _
    ⟨hfile, by simp⟩).file

/-- Two tasks add a room each; both read before either of them writes. -/
def racingAdds : List (HistoryAccess Bool) :=
  [.load false (.add "a" "" "" 1), .load true (.add "b" "" "" 2), .truncate false,
    .write false false, .truncate true, .write true false]

/-- One of the rooms is lost, but the list is in order. -/
theorem history_well_formed_racing :
    loadHistory (run step ⟨none, ∅⟩ racingAdds).file = [⟨"b", "", "", 2⟩] ∧
      WellKept (loadHistory (run step ⟨none, ∅⟩ racingAdds).file) :=
  ⟨by decide +kernel, history_well_formed none wellKept_nil racingAdds⟩

end HistoryFile

/-! ## One change at a time -/

/-- A command that is carried out without another access in between. -/
def serial (file : Option (List HistoryItem)) (command : HistoryCommand) :
    Option (List HistoryItem) :=
  match command.change (loadHistory file) with
  | some history => some (saveHistory history)
  | none => file

/-- The accesses of commands that are carried out one after another. -/
def accessesOf {C : Type*} (task : C) (commands : List HistoryCommand) : List (HistoryAccess C) :=
  commands.flatMap fun command => [.load task command, .truncate task, .write task false]

lemma run_accessesOf {C : Type*} [DecidableEq C] (task : C) (file : Option (List HistoryItem))
    (commands : List HistoryCommand) :
    run HistoryFile.step ⟨file, ∅⟩ (accessesOf task commands) = ⟨run serial file commands, ∅⟩ := by
  induction commands generalizing file with
  | nil => rfl
  | cons command commands ih =>
      have hone : run HistoryFile.step ⟨file, ∅⟩
          [.load task command, .truncate task, .write task false] = ⟨serial file command, ∅⟩ := by
        simp only [run, HistoryFile.step, serial]
        cases command.change (loadHistory file) with
        | none => simp
        | some history =>
            have hmem : task ∈
                (∅ : KeyMap C (List HistoryItem)).insert task (saveHistory history) :=
              (AList.mem_insert _).mpr (.inl rfl)
            have hkeys : (((∅ : KeyMap C (List HistoryItem)).insert task
                (saveHistory history)).erase task).keys = [] := by
              rw [AList.keys_erase, AList.keys_insert, AList.keys_empty]
              simp
            have herase : ((∅ : KeyMap C (List HistoryItem)).insert task
                (saveHistory history)).erase task = ∅ :=
              KeyMap.entries_eq_nil_iff.mp (List.map_eq_nil_iff.mp hkeys)
            simp only [AList.notMem_empty, if_false, if_pos hmem, AList.lookup_insert, herase]
            rfl
      rw [accessesOf, List.flatMap_cons, run_append, hone]
      exact ih (serial file command)

/-- A room that is added is newer than all that are in the file. -/
def Later (file : Option (List HistoryItem)) : HistoryCommand → Prop
  | .add _ _ _ now => ∀ item ∈ loadHistory file, item.lastJoined < now
  | _ => True

instance (file : Option (List HistoryItem)) : ∀ command, Decidable (Later file command)
  | .add _ _ _ _ => inferInstanceAs (Decidable (∀ item ∈ loadHistory file, _))
  | .delete _ | .updateName _ _ => isTrue trivial

/-- An item, with another name if it is of the room. -/
def HistoryItem.renamed (roomId name : String) (item : HistoryItem) : HistoryItem :=
  if item.roomId = roomId then { item with name } else item

lemma HistoryItem.renamed_eq (roomId name : String) (item : HistoryItem) :
    (item.renamed roomId name).roomId = item.roomId ∧
      (item.renamed roomId name).lastJoined = item.lastJoined := by
  unfold renamed
  split_ifs <;> exact ⟨rfl, rfl⟩

/-- A change as an operation on the list of most recent rooms. -/
def HistoryCommand.op : HistoryCommand → Recency.Op HistoryItem String
  | .add roomId name inviteCode now => .use { roomId, name, inviteCode, lastJoined := now }
  | .delete roomId => .remove roomId
  | .updateName roomId name => .modify (HistoryItem.renamed roomId name)

lemma saveHistory_eq_self {history : List HistoryItem} (hlen : history.length ≤ 20)
    (hsorted : history.Pairwise HistoryItem.newerEq) : saveHistory history = history := by
  rw [saveHistory, hsorted.insertionSort_eq, List.take_of_length_le hlen]

/-- The first item of a room is the only one. -/
lemma renameFirst_eq (roomId name : String) {history : List HistoryItem}
    (hnodup : (history.map HistoryItem.roomId).Nodup) :
    (renameFirst roomId name history).getD history =
      history.map (HistoryItem.renamed roomId name) := by
  induction history with
  | nil => rfl
  | cons item rest ih =>
      obtain ⟨hnew, hrest⟩ := List.nodup_cons.mp hnodup
      simp only [renameFirst, List.map_cons]
      split_ifs with hroom
      · have hothers : ∀ other ∈ rest, other.renamed roomId name = other := by
          intro other hother
          refine if_neg fun heq => hnew ?_
          rw [hroom, ← heq]
          exact List.mem_map_of_mem hother
        rw [List.map_congr_left hothers, List.map_id', HistoryItem.renamed, if_pos hroom]
        rfl
      · rw [← ih hrest, HistoryItem.renamed, if_neg hroom]
        cases renameFirst roomId name rest <;> rfl

/-- **Refinement.**  A command that is carried out alone, with a clock that has moved on, does to
the file what its operation does to the list of most recent rooms. -/
lemma serial_refines {file : Option (List HistoryItem)} (hfile : WellKept (loadHistory file))
    {command : HistoryCommand} (hlater : Later file command) :
    WellKept (loadHistory (serial file command)) ∧
      loadHistory (serial file command) =
        Recency.apply HistoryItem.roomId 20 (loadHistory file) command.op := by
  have hretain : ∀ roomId, (retainOthers roomId (loadHistory file)).Pairwise HistoryItem.newerEq :=
    fun roomId => hfile.newest_first.sublist List.filter_sublist
  constructor
  · unfold serial
    split
    · next changed hchange => exact wellKept_saveHistory (nodup_change hfile.nodup hchange)
    · exact hfile
  · cases command with
    | add roomId name inviteCode now =>
        have hfront : ∀ item ∈ retainOthers roomId (loadHistory file),
            ¬ item.newerEq { roomId, name, inviteCode, lastJoined := now } :=
          fun item hitem => Nat.not_le_of_lt (hlater item (List.mem_of_mem_filter hitem))
        show (_ : List HistoryItem).take 20 = _
        rw [Recency.insertionSort_concat (hretain roomId) hfront]
        rfl
    | delete roomId =>
        simp only [serial, HistoryCommand.change, HistoryCommand.op, Recency.apply]
        split_ifs with hshorter
        · exact saveHistory_eq_self ((List.length_filter_le _ _).trans hfile.length_le)
            (hretain roomId)
        · -- nothing was removed
          have hlen : (retainOthers roomId (loadHistory file)).length = (loadHistory file).length :=
            le_antisymm (List.length_filter_le _ _) (not_lt.mp hshorter)
          exact (List.filter_sublist.eq_of_length hlen).symm
    | updateName roomId name =>
        have hrename := renameFirst_eq roomId name hfile.nodup
        simp only [serial, HistoryCommand.change, HistoryCommand.op, Recency.apply]
        rw [← hrename]
        cases hfound : renameFirst roomId name (loadHistory file) with
        | none => rfl
        | some changed =>
            rw [hfound, Option.getD_some] at hrename
            subst hrename
            refine saveHistory_eq_self ?_ ?_
            · rw [List.length_map]
              exact hfile.length_le
            · refine List.pairwise_map.mpr (hfile.newest_first.imp fun {a b} hab => ?_)
              rw [HistoryItem.newerEq, (a.renamed_eq roomId name).2, (b.renamed_eq roomId name).2]
              exact hab

/-- Whole runs. -/
lemma run_serial_refines (commands : List HistoryCommand) {file : Option (List HistoryItem)}
    (hfile : WellKept (loadHistory file)) (hlater : Along serial Later file commands) :
    loadHistory (run serial file commands) =
      run (Recency.apply HistoryItem.roomId 20) (loadHistory file)
        (commands.map HistoryCommand.op) := by
  induction commands generalizing file with
  | nil => rfl
  | cons command commands ih =>
      obtain ⟨hkept, hstep⟩ := serial_refines hfile hlater.1
      rw [run_cons, ih hkept hlater.2, hstep]
      rfl

/-- The rooms that commands add. -/
def addedRooms (commands : List HistoryCommand) : Finset String :=
  (commands.filterMap fun command =>
    match command with
    | .add roomId _ _ _ => some roomId
    | _ => none).toFinset

lemma mem_addedRooms {commands : List HistoryCommand} {roomId name inviteCode : String} {now : ℕ}
    (h : .add roomId name inviteCode now ∈ commands) : roomId ∈ addedRooms commands := by
  rw [addedRooms, List.mem_toFinset, List.mem_filterMap]
  exact ⟨_, h, rfl⟩

/-- Commands that do not delete a room spare its item, but for the other rooms they add. -/
lemma spares_of_kept {roomId : String} {commands : List HistoryCommand}
    (hkept : .delete roomId ∉ commands) :
    ∀ op ∈ commands.map HistoryCommand.op,
      op.Spares HistoryItem.roomId roomId ((addedRooms commands).erase roomId) := by
  intro op hop
  obtain ⟨command, hcommand, rfl⟩ := List.mem_map.mp hop
  cases command with
  | add other _ _ _ =>
      by_cases hother : other = roomId
      · exact .inl hother
      · exact .inr (Finset.mem_erase.mpr ⟨hother, mem_addedRooms hcommand⟩)
  | delete other =>
      intro hother
      subst hother
      exact hkept hcommand
  | updateName other _ => exact fun item => (item.renamed_eq other _).1

/-- **Recent rooms are remembered.**  Start with no file, or with one that `save_history` has
written, and carry commands out one at a time, with a clock that moves on.  Then the file is the
list of the twenty most recent rooms, and a room that is added is found in it as long as it is not
deleted and fewer than twenty other rooms are added. -/
theorem recent_rooms_remembered {C : Type*} [DecidableEq C] (task : C)
    (file : Option (List HistoryItem)) (hfile : WellKept (loadHistory file))
    (commands : List HistoryCommand) (hlater : Along serial Later file commands) :
    let history := loadHistory (run HistoryFile.step ⟨file, ∅⟩ (accessesOf task commands)).file
    history = run (Recency.apply HistoryItem.roomId 20) (loadHistory file)
        (commands.map HistoryCommand.op) ∧
      ∀ before roomId name inviteCode now rest,
        commands = before ++ .add roomId name inviteCode now :: rest → .delete roomId ∉ rest →
        ((addedRooms rest).erase roomId).card < 20 → ∃ item ∈ history, item.roomId = roomId := by
  intro history
  have hrefines : history = run (Recency.apply HistoryItem.roomId 20) (loadHistory file)
      (commands.map HistoryCommand.op) := by
    rw [← run_serial_refines commands hfile hlater]
    exact congrArg (fun s => loadHistory (HistoryFile.file s)) (run_accessesOf task file commands)
  refine ⟨hrefines, fun before roomId name inviteCode now rest hcommands hkept hfew => ?_⟩
  rw [hrefines, hcommands, List.map_append, List.map_cons, run_append, run_cons]
  exact Recency.mem_run HistoryItem.roomId _ ⟨roomId, name, inviteCode, now⟩ _ _ hfew
    (spares_of_kept hkept)

/-- Two rooms are added; the first gets a name, and the second is deleted. -/
theorem recent_rooms_remembered_named :
    ∃ item ∈ loadHistory (run HistoryFile.step ⟨none, ∅⟩ (accessesOf ()
        [.add "a" "" "" 1, .add "b" "" "" 2, .updateName "a" "home", .delete "b"])).file,
      item.roomId = "a" :=
  (recent_rooms_remembered () none wellKept_nil
    [.add "a" "" "" 1, .add "b" "" "" 2, .updateName "a" "home", .delete "b"]
    (by decide +kernel)).2 [] "a" "" "" 1 [.add "b" "" "" 2, .updateName "a" "home", .delete "b"]
    rfl (by decide +kernel) (by decide +kernel)

end R2N
