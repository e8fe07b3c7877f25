import R2N.Lib.Cell
import R2N.Dataplane.Plane

/-!
# Rule commands

The commands of `handle_ipc_connection` that change the traffic policy: `rules_add`, `rules_remove`
and `rules_enable`.  Each takes a copy of the dataplane's policy, changes the copy and stores it.
Every connection is a task of its own, and the runtime has several threads, so that another
connection may store its policy between the two accesses.

* `RuleMessage.command`, `RuleCommand.apply` — which command a line is, and what it does.
* `RuleServer`, `RuleServer.step` — the connections; `step_cell` says that they share the policy as
  the clients of a `Cell` do.
* **`rule_updates_serial`** — if no policy is stored between the two accesses of a command, the
  policy is what the acknowledged commands make of the first one, one after another, and an
  acknowledged rule stays until an acknowledged command removes it.
-/

namespace R2N

/-- What a rule command reads of its line, as `serde` gives it: the text of `command` and of `id`,
the flag `enabled`, and the rule or the reason why there is none. -/
structure RuleMessage where
  command : Option String
  rule : Except String TrafficRule
  id : Option String
  enabled : Option Bool

inductive RuleCommand where
  | add (rule : TrafficRule)
  | remove (id : String)
  | enable (enabled : Bool)
deriving DecidableEq

/-- The command a line stands for, or the error it is answered with at once; `none` if it is no
rule command that changes the policy. -/
def RuleMessage.ruleCommand (msg : RuleMessage) : Option (Except String RuleCommand) :=
  if msg.command = some "rules_add" then
    match msg.rule with
    | .ok rule => some (.ok (.add rule))
    | .error err => some (.error ("invalid traffic rule: " ++ err))
  else if msg.command = some "rules_remove" then some (.ok (.remove (msg.id.getD "")))
  else if msg.command = some "rules_enable" then some (.ok (.enable (msg.enabled.getD true)))
  else none

/-- What a command makes of the policy it has read: the policy it stores, or the error it answers
with. -/
def RuleCommand.apply (policy : TrafficPolicy) : RuleCommand → Except String TrafficPolicy
  | .add rule =>
      if policy.rules.any fun existing => existing.id = rule.id then
        .error ("rule id already exists: " ++ rule.id)
      else .ok { policy with rules := policy.rules ++ [rule] }
  | .remove id =>
      let rules := policy.rules.filter fun rule => rule.id ≠ id
      if rules.length = policy.rules.length then .error "rule not found"
      else .ok { policy with rules }
  | .enable enabled => .ok { policy with enabled }

/-! ## The connections -/

/-- The plane, the commands whose connection has read the policy and not yet stored one, and the
commands that were answered with `ok`, oldest first. -/
structure RuleServer where
  dataplane : DataPlane
  pending : KeyMap ℕ (Cell.Pending TrafficPolicy RuleCommand)
  acknowledged : List RuleCommand

inductive RuleInput where
  /-- A connection gets a line and reads the policy. -/
  | receive (connection : ℕ) (msg : RuleMessage)
  /-- A connection stores its policy and answers. -/
  | store (connection : ℕ)

namespace RuleServer

def new (dataplane : DataPlane) : RuleServer := { dataplane, pending := ∅, acknowledged := [] }

/-- One step.  A connection takes its next line when it has answered the last one. -/
def step (s : RuleServer) : RuleInput → RuleServer
  | .receive connection msg =>
      if connection ∈ s.pending then s
      else
        match msg.ruleCommand with
        | some (.ok command) =>
            match command.apply s.dataplane.trafficPolicy with
            | .ok _ =>
                { s with
                  pending := s.pending.insert connection
                    { command, snapshot := s.dataplane.trafficPolicy } }
            | .error _ => s
        | _ => s
  | .store connection =>
      match s.pending.lookup connection with
      | none => s
      | some p =>
          match p.command.apply p.snapshot with
          | .ok policy =>
              { dataplane := s.dataplane.setTrafficPolicy policy
                pending := s.pending.erase connection
                acknowledged := s.acknowledged ++ [p.command] }
          | .error _ => s

/-- The policy as a shared cell. -/
def cell (s : RuleServer) : Cell.State ℕ TrafficPolicy RuleCommand where
  value := s.dataplane.trafficPolicy
  pending := s.pending
  carriedOut := s.acknowledged

@[simp] lemma cell_value (s : RuleServer) : s.cell.value = s.dataplane.trafficPolicy := rfl

@[simp] lemma cell_pending (s : RuleServer) : s.cell.pending = s.pending := rfl

@[simp] lemma cell_carriedOut (s : RuleServer) : s.cell.carriedOut = s.acknowledged := rfl

/-- The access an input makes to the cell. -/
def access : RuleInput → Option (Cell.Input ℕ RuleCommand)
  | .receive connection msg =>
      match msg.ruleCommand with
      | some (.ok command) => some (.read connection command)
      | _ => none
  | .store connection => some (.write connection)

/-- **The connections use the policy as a shared cell.** -/
lemma step_cell (s : RuleServer) (i : RuleInput) :
    (s.step i).cell = (access i).elim s.cell (Cell.step RuleCommand.apply s.cell) := by
  cases i with
  | receive connection msg =>
      simp only [step, access]
      cases msg.ruleCommand with
      | none => split_ifs <;> rfl
      | some res =>
          cases res with
          | error e => split_ifs <;> rfl
          | ok command =>
              by_cases hbusy : connection ∈ s.pending
              · have hcell : connection ∈ s.cell.pending := hbusy
                simp only [Option.elim_some, Cell.step, if_pos hbusy, if_pos hcell]
              · have hcell : connection ∉ s.cell.pending := hbusy
                simp only [Option.elim_some, Cell.step, if_neg hbusy, if_neg hcell, cell_value]
                cases command.apply s.dataplane.trafficPolicy <;> rfl
  | store connection =>
      simp only [step, access, Option.elim_some, Cell.step, cell_pending, cell_carriedOut]
      cases s.pending.lookup connection with
      | none => rfl
      | some p =>
          simp only
          cases p.command.apply p.snapshot <;> rfl

/-- A run of the connections is a run of the cell. -/
lemma run_cell (inputs : List RuleInput) (s : RuleServer) :
    (Run.run step s inputs).cell =
      Run.run (Cell.step RuleCommand.apply) s.cell (inputs.filterMap access) := by
  induction inputs generalizing s with
  | nil => rfl
  | cons i inputs ih =>
      rw [Run.run_cons, ih, step_cell]
      cases hi : access i with
      | none => rw [List.filterMap_cons_none hi, Option.elim_none]
      | some a => rw [List.filterMap_cons_some hi, Run.run_cons, Option.elim_some]

/-! ## Serial updates -/

/-- A connection stores its policy while the plane still has the one it has read. -/
def Undisturbed (s : RuleServer) : RuleInput → Prop
  | .receive _ _ => True
  | .store connection => ∀ p ∈ s.pending.lookup connection, p.snapshot = s.dataplane.trafficPolicy

instance (s : RuleServer) : ∀ i, Decidable (s.Undisturbed i)
  | .receive _ _ => isTrue trivial
  | .store connection =>
      inferInstanceAs (Decidable (∀ p ∈ s.pending.lookup connection,
        p.snapshot = s.dataplane.trafficPolicy))

/-- Undisturbed connections make fresh writes. -/
lemma along_fresh {inputs : List RuleInput} {s : RuleServer}
    (h : Run.Along step Undisturbed s inputs) :
    Run.Along (Cell.step RuleCommand.apply) Cell.Fresh s.cell (inputs.filterMap access) := by
  induction inputs generalizing s with
  | nil => trivial
  | cons i inputs ih =>
      obtain ⟨hi, hrest⟩ := h
      have htail := ih hrest
      rw [step_cell] at htail
      cases ha : access i with
      | none =>
          rw [List.filterMap_cons_none ha]
          rwa [ha] at htail
      | some a =>
          rw [List.filterMap_cons_some ha]
          rw [ha] at htail
          refine ⟨?_, htail⟩
          cases i with
          | store connection =>
              obtain rfl := Option.some.inj ha
              exact hi
          | receive connection msg =>
              simp only [access] at ha
              split at ha
              · obtain rfl := Option.some.inj ha
                trivial
              · cases ha

end RuleServer

/-! ## What the rules come to -/

/-- A command that does not remove a rule keeps it. -/
lemma RuleCommand.mem_rules_apply {policy policy' : TrafficPolicy} {command : RuleCommand}
    {rule : TrafficRule} (hok : command.apply policy = .ok policy') (hmem : rule ∈ policy.rules)
    (hne : command ≠ .remove rule.id) : rule ∈ policy'.rules := by
  cases command with
  | add rule' =>
      simp only [apply] at hok
      split_ifs at hok
      obtain rfl := Except.ok.inj hok
      exact List.mem_append_left _ hmem
  | remove id =>
      simp only [apply] at hok
      split_ifs at hok
      obtain rfl := Except.ok.inj hok
      have hid : rule.id ≠ id := by
        rintro rfl
        exact hne rfl
      simp [hmem, hid]
  | enable enabled =>
      obtain rfl := Except.ok.inj hok
      exact hmem

lemma RuleCommand.mem_rules_replay {commands : List RuleCommand} {policy policy' : TrafficPolicy}
    {rule : TrafficRule} (hok : Cell.replay apply policy commands = .ok policy')
    (hmem : rule ∈ policy.rules) (hne : .remove rule.id ∉ commands) : rule ∈ policy'.rules := by
  induction commands generalizing policy with
  | nil =>
      obtain rfl := Except.ok.inj hok
      exact hmem
  | cons command commands ih =>
      rw [List.mem_cons, not_or] at hne
      cases happly : command.apply policy with
      | error e =>
          rw [Cell.replay, List.foldlM_cons, happly] at hok
          cases hok
      | ok next =>
          rw [Cell.replay, List.foldlM_cons, happly] at hok
          exact ih hok (mem_rules_apply happly hmem (fun heq => hne.1 heq.symm)) hne.2

/-- A rule that is added and not removed later is there in the end. -/
lemma RuleCommand.mem_rules_replay_append {before later : List RuleCommand}
    {policy policy' : TrafficPolicy} {rule : TrafficRule}
    (hok : Cell.replay apply policy (before ++ .add rule :: later) = .ok policy')
    (hne : .remove rule.id ∉ later) : rule ∈ policy'.rules := by
  rw [Cell.replay_append] at hok
  cases hbefore : Cell.replay apply policy before with
  | error e =>
      rw [hbefore] at hok
      cases hok
  | ok between =>
      rw [hbefore] at hok
      simp only [Except.bind, Cell.replay, List.foldlM_cons, apply] at hok
      split_ifs at hok
      · cases hok
      · exact mem_rules_replay hok (List.mem_append_right _ List.mem_cons_self) hne

namespace RuleServer

/-- **No rule update is lost** along a run in which no policy is stored between the two accesses of
a command: the policy is what the acknowledged commands make of the first one, in the order of
their answers, and a rule whose addition was acknowledged is there unless the acknowledgement of a
command that removes it came later. -/
theorem rule_updates_serial (dataplane : DataPlane) (inputs : List RuleInput)
    (h : Run.Along step Undisturbed (new dataplane) inputs) :
    let s := Run.run step (new dataplane) inputs
    (∃ order, order.Perm s.acknowledged ∧
      Cell.replay RuleCommand.apply dataplane.trafficPolicy order =
        .ok s.dataplane.trafficPolicy) ∧
    ∀ before rule later, s.acknowledged = before ++ .add rule :: later →
      .remove rule.id ∉ later → rule ∈ s.dataplane.trafficPolicy.rules := by
  intro s
  have hserial : Cell.replay RuleCommand.apply dataplane.trafficPolicy s.acknowledged =
      .ok s.dataplane.trafficPolicy := by
    have hcell := Cell.replay_of_fresh (s := (new dataplane).cell) rfl _ (along_fresh h)
    rwa [← run_cell] at hcell
  refine ⟨⟨s.acknowledged, .refl _, hserial⟩, ?_⟩
  intro before rule later hacks hne
  rw [hacks] at hserial
  exact RuleCommand.mem_rules_replay_append hserial hne

/-! ## Two connections -/

/-- A plane with the default policy. -/
def rulePlane : DataPlane :=
  .new (.fill 1) none .default 1280 (.fresh 0
    { nodeId := .fill 2, virtualIp := ⟨ByteArr.fill 4 2⟩, nickname := ""
      publicKey := .fill 32 2 } (.localhost 9999))

/-- A rule that denies everything. -/
def denyRule (id : String) : TrafficRule :=
  { id, enabled := true, action := .deny, direction := .both, srcCidr := none, dstCidr := none
    protocol := .any, srcPorts := [], dstPorts := [] }

/-- The line that adds it. -/
def addLine (id : String) : RuleMessage :=
  { command := some "rules_add", rule := .ok (denyRule id), id := none, enabled := none }

/-- One connection after the other: both rules are in force. -/
theorem rule_updates_serial_two :
    denyRule "a" ∈ (Run.run step (new rulePlane)
      [.receive 1 (addLine "a"), .store 1, .receive 2 (addLine "b"),
        .store 2]).dataplane.trafficPolicy.rules :=
  (rule_updates_serial rulePlane _ (by decide +kernel)).2 [] (denyRule "a")
    [.add (denyRule "b")] (by decide +kernel) (by decide)

/-- Both connections read the policy before either of them stores one. -/
def racingInputs : List RuleInput :=
  [.receive 1 (addLine "a"), .receive 2 (addLine "b"), .store 1, .store 2]

/-- **A lost update.**  Both commands are answered with `ok`, and the rule of the first one is
gone; no order of the two commands gives the policy that is in force. -/
theorem racing_rules_lost :
    let s := Run.run step (new rulePlane) racingInputs
    s.acknowledged = [.add (denyRule "a"), .add (denyRule "b")] ∧
    s.dataplane.trafficPolicy.rules = [denyRule "b"] ∧
    ¬ ∃ order, order.Perm s.acknowledged ∧
      Cell.replay RuleCommand.apply rulePlane.trafficPolicy order =
        .ok s.dataplane.trafficPolicy := by
  have hacks : (Run.run step (new rulePlane) racingInputs).acknowledged =
      [.add (denyRule "a"), .add (denyRule "b")] := by
    decide +kernel
  have hrules : (Run.run step (new rulePlane) racingInputs).dataplane.trafficPolicy.rules =
      [denyRule "b"] := by
    decide +kernel
  refine ⟨hacks, hrules, ?_⟩
  rintro ⟨order, hperm, hreplay⟩
  rw [hacks] at hperm
  obtain ⟨before, later, rfl⟩ := List.append_of_mem (hperm.mem_iff.mpr List.mem_cons_self)
  have hnone : RuleCommand.remove (denyRule "a").id ∉ later := by
    intro hmem
    have hin := hperm.mem_iff.mp (List.mem_append_right _ (List.mem_cons_of_mem _ hmem))
    simp at hin
  have hkept := RuleCommand.mem_rules_replay_append hreplay hnone
  rw [hrules] at hkept
  revert hkept
  decide

end RuleServer

end R2N
