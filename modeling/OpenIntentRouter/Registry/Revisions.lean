import OpenIntentRouter.Core.LTS
import OpenIntentRouter.Core.Revisions
import OpenIntentRouter.Repositories.AgentRegistry

/-!
# The revisions of an agent

The revision of an agent is only in its live row: a delete logs the next one and removes the row,
and a create starts again at 1. Over sequences of accepted mutations on either repository, the
records of an agent identify its definitions, and a writer overwrites only what it has read,
exactly as long as the agent is not created again after a delete.

Any digests and printed times (`AuditTools`), any calls at any times, all of them accepted; a
registry starts with any agents and no record.
-/
namespace OpenIntentRouter.Registry

open Core Core.Except Core.Revisions Schemas Schemas.Registry Repositories.Registry

inductive AgentRegistry where
  | memory (repository : MemoryAgentDefinitionRepository)
  | database (repository : DatabaseAgentDefinitionRepository)

namespace AgentRegistry

def agents : AgentRegistry → Table AgentDefinition.agentId
  | .memory repository => repository.agents
  | .database repository => repository.agentDefinitions

def audit : AgentRegistry → List RegistryAuditRecord
  | .memory repository => repository.registryAudit
  | .database repository => repository.registryRevisions

def mutate (tools : AuditTools) (registry : AgentRegistry) (stamp : Instant)
    (command : RegistryMutationCommand) :
    Except RegistryError RegistryMutationResult × AgentRegistry :=
  match registry with
  | .memory repository => (repository.mutate tools command).map id .memory
  | .database repository => (repository.mutate tools stamp command).map id .database

def accept (tools : AuditTools) (registry : AgentRegistry)
    (call : Instant × RegistryMutationCommand) : Option AgentRegistry :=
  match registry.mutate tools call.1 call.2 with
  | (.ok _, registry) => some registry
  | (.error _, _) => none

def run (tools : AuditTools) : AgentRegistry → List (Instant × RegistryMutationCommand) →
    Option AgentRegistry :=
  LTS.exec (accept tools)

def revisions (registry : AgentRegistry) : Store String AgentDefinition where
  live agentId := (registry.agents.get? agentId).map fun agent => (agent.revision, agent)
  log := registry.audit.map fun record => (record.agentId, record.revision)

end AgentRegistry

def changeOf : RegistryMutationOperation → Change
  | .create => .create
  | .update | .enable | .disable => .write
  | .delete => .remove

def changes (calls : List (Instant × RegistryMutationCommand)) : List (String × Change) :=
  calls.map fun call => (call.2.agentId, changeOf call.2.operation)

def RecreatesAgent (agentId : String) (calls : List (Instant × RegistryMutationCommand)) : Prop :=
  Recreated agentId (changes calls)

instance (agentId : String) (calls : List (Instant × RegistryMutationCommand)) :
    Decidable (RecreatesAgent agentId calls) :=
  inferInstanceAs (Decidable (Recreated _ _))

/-! ## One mutation -/

def numbered (agent : AgentDefinition) : Nat × AgentDefinition := (agent.revision, agent)

structure Decided (command : RegistryMutationCommand) (before row : Option AgentDefinition) :
    Prop where
  expected : currentRevision before = command.expectedRevision
  keyed : ∀ agent, row = some agent → agent.agentId = command.agentId
  numbers : Numbers (changeOf command.operation) (before.map numbered) (row.map numbered)
    (row.elim (currentRevision before + 1) (·.revision))

variable {command : RegistryMutationCommand} {repository : MemoryAgentDefinitionRepository}
  {stamp : Instant} {tools : AuditTools} {result : RegistryMutationResult}
  {registry registry' : AgentRegistry}

theorem revised_ok {revision : Nat} {agent : AgentDefinition}
    (h : revised command revision = .ok agent) :
    agent.revision = revision ∧ agent.agentId = command.agentId := by
  have hfits := command.definition_fits
  unfold revised at h
  split at h
  · next definition hdefinition =>
    simp only [Except.ok.injEq] at h
    subst h
    simp only [hdefinition, definitionFits, Bool.and_eq_true, decide_eq_true_eq] at hfits
    exact ⟨rfl, hfits.2⟩
  · cases h

theorem Decided.write {command : RegistryMutationCommand} {agent row : AgentDefinition}
    (hexpected : currentRevision (some agent) = command.expectedRevision)
    (hchange : changeOf command.operation = .write) (hrevision : row.revision = agent.revision + 1)
    (hkey : row.agentId = command.agentId) : Decided command (some agent) (some row) where
  expected := hexpected
  keyed := fun _ h => by rw [← Option.some.inj h]; exact hkey
  numbers := by
    rw [hchange]
    simp only [Option.map_some, numbered, Option.elim_some, hrevision]
    exact .write _ _ _

theorem Decided.create {command : RegistryMutationCommand} {row : AgentDefinition}
    (hexpected : currentRevision none = command.expectedRevision)
    (hchange : changeOf command.operation = .create) (hrevision : row.revision = 1)
    (hkey : row.agentId = command.agentId) : Decided command none (some row) where
  expected := hexpected
  keyed := fun _ h => by rw [← Option.some.inj h]; exact hkey
  numbers := by
    rw [hchange]
    simp only [Option.map_some, Option.map_none, numbered, Option.elim_some, hrevision]
    exact .create _

theorem Decided.remove {command : RegistryMutationCommand} {agent : AgentDefinition}
    (hexpected : currentRevision (some agent) = command.expectedRevision)
    (hchange : changeOf command.operation = .remove) : Decided command (some agent) none where
  expected := hexpected
  keyed := fun _ h => by cases h
  numbers := by
    rw [hchange]
    exact .remove _ _

theorem after_decided {after : Option AgentDefinition} (h : repository.after command = .ok after) :
    Decided command (repository.agents.get? command.agentId) after := by
  have hkey := fun agent => Table.key_of_get? (t := repository.agents) (k := command.agentId) (v := agent)
  unfold MemoryAgentDefinitionRepository.after at h
  generalize repository.agents.get? command.agentId = before at h hkey ⊢
  simp only at h
  split at h
  · cases h
  · next hexpected =>
    replace hexpected := not_not.1 hexpected
    cases hop : command.operation <;> cases before <;> simp only [hop, conflict, reduceCtorEq] at h
    case create.none =>
      obtain ⟨row, hrow, rfl⟩ := map_eq_ok.1 h
      obtain ⟨hrevision, hid⟩ := revised_ok hrow
      exact .create hexpected (by rw [hop]; rfl) hrevision hid
    case update.some agent =>
      obtain ⟨row, hrow, rfl⟩ := map_eq_ok.1 h
      obtain ⟨hrevision, hid⟩ := revised_ok hrow
      exact .write hexpected (by rw [hop]; rfl) hrevision hid
    case enable.some agent =>
      cases h
      exact .write hexpected (by rw [hop]; rfl) rfl (hkey agent rfl)
    case disable.some agent =>
      cases h
      exact .write hexpected (by rw [hop]; rfl) rfl (hkey agent rfl)
    case delete.some agent =>
      cases h
      exact .remove hexpected (by rw [hop]; rfl)

/-- The row that is written and the agent that is answered share what the audit counts. -/
theorem written_decided {repository : DatabaseAgentDefinitionRepository}
    {written : Option (AgentDefinition × AgentDefinition)}
    (h : repository.written stamp command = .ok written) :
    Decided command (repository.agentDefinitions.get? command.agentId) (written.map (·.1)) ∧
    ∀ pair, written = some pair → pair.2.revision = pair.1.revision := by
  have hkey := fun agent =>
    Table.key_of_get? (t := repository.agentDefinitions) (k := command.agentId) (v := agent)
  unfold DatabaseAgentDefinitionRepository.written at h
  generalize repository.agentDefinitions.get? command.agentId = before at h hkey ⊢
  simp only at h
  split at h
  · cases h
  · next hexpected =>
    replace hexpected := not_not.1 hexpected
    cases hop : command.operation <;> cases before <;> simp only [hop, conflict, reduceCtorEq] at h
    case create.none =>
      obtain ⟨after, hafter, rfl⟩ := map_eq_ok.1 h
      obtain ⟨hrevision, hid⟩ := revised_ok hafter
      exact ⟨.create hexpected (by rw [hop]; rfl) hrevision hid, fun _ hp => by cases hp; rfl⟩
    case update.some agent =>
      obtain ⟨after, hafter, rfl⟩ := map_eq_ok.1 h
      obtain ⟨hrevision, hid⟩ := revised_ok hafter
      exact ⟨.write hexpected (by rw [hop]; rfl) hrevision hid, fun _ hp => by cases hp; rfl⟩
    case enable.some agent =>
      cases h
      exact ⟨.write hexpected (by rw [hop]; rfl) rfl (hkey agent rfl), fun _ hp => by cases hp; rfl⟩
    case disable.some agent =>
      cases h
      exact ⟨.write hexpected (by rw [hop]; rfl) rfl (hkey agent rfl), fun _ hp => by cases hp; rfl⟩
    case delete.some agent =>
      cases h
      exact ⟨.remove hexpected (by rw [hop]; rfl), fun _ hp => by cases hp⟩

def writeRow (agents : Table AgentDefinition.agentId) (agentId : String) :
    Option AgentDefinition → Table AgentDefinition.agentId
  | some agent => agents.put agent
  | none => agents.erase agentId

theorem get?_writeRow (agents : Table AgentDefinition.agentId) {agentId : String}
    {row : Option AgentDefinition} (hkey : ∀ agent, row = some agent → agent.agentId = agentId)
    (k : String) :
    (writeRow agents agentId row).get? k = if k = agentId then row else agents.get? k := by
  cases row with
  | none => simp [writeRow, Table.get?_erase, eq_comm]
  | some agent =>
    simp only [writeRow, Table.get?_put]
    rw [hkey agent rfl]
    by_cases hk : k = agentId
    · simp [hk]
    · simp [hk, Ne.symm hk]

structure Accepted (registry : AgentRegistry) (command : RegistryMutationCommand)
    (result : RegistryMutationResult) (registry' : AgentRegistry) : Prop where
  before_eq : result.before = registry.agents.get? command.agentId
  expected : currentRevision result.before = command.expectedRevision
  step : Step registry.revisions (command.agentId, changeOf command.operation) registry'.revisions

theorem Decided.accepted {registry registry' : AgentRegistry} {command : RegistryMutationCommand}
    {result : RegistryMutationResult} {row : Option AgentDefinition}
    (h : Decided command (registry.agents.get? command.agentId) row)
    (hbefore : result.before = registry.agents.get? command.agentId)
    (hagents : registry'.agents = writeRow registry.agents command.agentId row)
    (haudit : registry'.audit = registry.audit ++ [result.audit])
    (hid : result.audit.agentId = command.agentId)
    (hrevision : result.audit.revision = row.elim (currentRevision result.before + 1) (·.revision)) :
    Accepted registry command result registry' where
  before_eq := hbefore
  expected := by rw [hbefore]; exact h.expected
  step := by
    have hget := get?_writeRow registry.agents h.keyed
    refine ⟨fun k hk => ?_, result.audit.revision, ?_, ?_⟩
    · simp only [AgentRegistry.revisions]
      rw [hagents, hget, if_neg hk]
    · simp only [AgentRegistry.revisions]
      rw [hagents, hget, if_pos rfl, hrevision, hbefore]
      exact h.numbers
    · simp [AgentRegistry.revisions, haudit, hid]

theorem memory_accepted {repository' : MemoryAgentDefinitionRepository}
    (h : repository.mutate tools command = (.ok result, repository')) :
    Accepted (.memory repository) command result (.memory repository') := by
  unfold MemoryAgentDefinitionRepository.mutate at h
  cases hafter : repository.after command with
  | error e => simp [hafter] at h
  | ok after =>
    simp only [hafter] at h
    split at h
    · simp only [Prod.mk.injEq, Except.ok.injEq] at h
      obtain ⟨rfl, rfl⟩ := h
      exact Decided.accepted (after_decided hafter) rfl rfl rfl rfl rfl
    · simp at h

theorem database_accepted {repository repository' : DatabaseAgentDefinitionRepository}
    (h : repository.mutate tools stamp command = (.ok result, repository')) :
    Accepted (.database repository) command result (.database repository') := by
  unfold DatabaseAgentDefinitionRepository.mutate at h
  cases hwritten : repository.written stamp command with
  | error e => simp [hwritten] at h
  | ok written =>
    obtain ⟨hdecided, hsame⟩ := written_decided hwritten
    simp only [hwritten] at h
    split at h
    · simp at h
    · split at h
      · simp at h
      · simp only [Prod.mk.injEq, Except.ok.injEq] at h
        obtain ⟨rfl, rfl⟩ := h
        refine Decided.accepted hdecided rfl ?_ rfl rfl ?_
        · cases written <;> rfl
        · cases written with
          | none => rfl
          | some pair => exact hsame pair rfl

theorem mutate_accepted (h : registry.mutate tools stamp command = (.ok result, registry')) :
    Accepted registry command result registry' := by
  cases registry with
  | memory repository =>
    simp only [AgentRegistry.mutate, Prod.map, id, Prod.mk.injEq] at h
    obtain ⟨hresult, rfl⟩ := h
    exact memory_accepted (Prod.ext hresult rfl)
  | database repository =>
    simp only [AgentRegistry.mutate, Prod.map, id, Prod.mk.injEq] at h
    obtain ⟨hresult, rfl⟩ := h
    exact database_accepted (Prod.ext hresult rfl)

/-! ## Any number of mutations -/

theorem run_revisions {calls : List (Instant × RegistryMutationCommand)}
    (h : registry.run tools calls = some registry') :
    Run registry.revisions (changes calls) registry'.revisions := by
  induction calls using List.reverseRecOn generalizing registry' with
  | nil =>
    cases h
    exact .refl
  | append_singleton calls call ih =>
    unfold AgentRegistry.run at h ih
    rw [LTS.exec_append, Option.bind_eq_some_iff] at h
    obtain ⟨middle, hmiddle, h⟩ := h
    simp only [LTS.exec, AgentRegistry.accept] at h
    split at h
    · next result last hlast =>
      simp only [Option.bind_some, Option.some.injEq] at h
      subst h
      rw [changes, List.map_append]
      exact .snoc (ih hmiddle) (mutate_accepted hlast).step
    · cases h

theorem revisions_numbers (registry : AgentRegistry) (agentId : String) :
    registry.revisions.numbers agentId =
      (registry.audit.filter (·.agentId = agentId)).map (·.revision) := by
  simp [AgentRegistry.revisions, Store.numbers, List.filter_map, Function.comp_def]

/-! ## The claims of the audit -/

/-- What the records of an agent are read for, over the accepted mutations of a run: its revisions
increase, so that one of them denotes one definition, and a command that expects the revision of
an agent read earlier on does not reach another one. -/
structure Identifies (tools : AuditTools) (start : AgentRegistry)
    (calls : List (Instant × RegistryMutationCommand)) (agentId : String) : Prop where
  increasing : ∀ final, start.run tools calls = some final →
    ((final.audit.filter (·.agentId = agentId)).map (·.revision)).Pairwise (· < ·)
  one_definition : ∀ final, start.run tools calls = some final → ∀ a ∈ final.audit,
    ∀ b ∈ final.audit, a.agentId = agentId → b.agentId = agentId → a.revision = b.revision →
      a.after = b.after
  overwrites_what_it_read : ∀ earlier later rest, calls = earlier ++ later ++ rest →
    ∀ read middle, start.run tools earlier = some read → read.run tools later = some middle →
    ∀ agent, read.agents.get? agentId = some agent → ∀ stamp command result written,
      command.agentId = agentId → command.expectedRevision = agent.revision →
      middle.mutate tools stamp command = (.ok result, written) →
      ∀ overwritten, result.before = some overwritten → overwritten = agent

theorem eq_of_pairwise_lt {β : Type} {f : β → Nat} {l : List β}
    (h : (l.map f).Pairwise (· < ·)) {a b : β} (ha : a ∈ l) (hb : b ∈ l) (hf : f a = f b) : a = b :=
  List.inj_on_of_nodup_map (h.imp Nat.ne_of_lt) ha hb hf

/-- From an empty audit, the records of an agent identify its definitions exactly when the agent
is not created again after a delete. -/
theorem audit_identifies_iff (tools : AuditTools) {start final : AgentRegistry}
    {calls : List (Instant × RegistryMutationCommand)}
    (hrun : start.run tools calls = some final) (hstart : start.audit = []) (agentId : String) :
    Identifies tools start calls agentId ↔ ¬RecreatesAgent agentId calls := by
  have hlog : start.revisions.log = [] := by simp [AgentRegistry.revisions, hstart]
  have hiff := (run_revisions hrun).increasing_iff hlog agentId
  rw [revisions_numbers] at hiff
  refine ⟨fun h => hiff.1 (h.increasing final hrun), fun hnew => ⟨?_, ?_, ?_⟩⟩
  · intro other hother
    rw [hrun, Option.some.injEq] at hother
    exact hother ▸ hiff.2 hnew
  · intro other hother a ha b hb haid hbid hrevision
    rw [hrun, Option.some.injEq] at hother
    subst hother
    rw [eq_of_pairwise_lt (hiff.2 hnew) (List.mem_filter.2 ⟨ha, by simpa using haid⟩)
      (List.mem_filter.2 ⟨hb, by simpa using hbid⟩) hrevision]
  · intro earlier later rest hcalls read middle hread hmiddle agent hagent stamp command result
      written hid hexpected hmutate overwritten hbefore
    obtain ⟨hresult, hcurrent, -⟩ := mutate_accepted hmutate
    rw [hid] at hresult
    rw [hbefore, hexpected] at hcurrent
    have hlater : ¬RecreatesAgent agentId later := fun h => hnew (h.trans (by
      rw [hcalls, changes, changes, List.map_append, List.map_append]
      exact (List.sublist_append_right _ _).trans (List.sublist_append_left _ _)))
    refine (run_revisions hmiddle).unchanged (n := agent.revision) (k := agentId) ?_ hlater ?_
    · simp [AgentRegistry.revisions, hagent]
    · have hrevision : overwritten.revision = agent.revision := hcurrent
      simp [AgentRegistry.revisions, ← hresult, hbefore, hrevision]

/-! ## Sample mutations -/

def sampleAgent (agentName : String) : AgentDefinition where
  agentId := "billing"
  revision := 0
  enabled := true
  source := "database"
  createdAt := none
  updatedAt := none
  fields := [("name", .str agentName)]

def createCommand (agentName revisionId : String) : RegistryMutationCommand where
  operation := .create
  agentId := "billing"
  actorId := "admin"
  source := "api"
  expectedRevision := 0
  definition := some (sampleAgent agentName)
  revisionId
  createdAt := 0
  named := by decide
  definition_fits := rfl
  create_new := fun _ => rfl

def updateCommand (expectedRevision : Nat) (agentName revisionId : String) :
    RegistryMutationCommand where
  operation := .update
  agentId := "billing"
  actorId := "admin"
  source := "api"
  expectedRevision
  definition := some (sampleAgent agentName)
  revisionId
  createdAt := 0
  named := by decide
  definition_fits := rfl
  create_new := nofun

def deleteCommand (expectedRevision : Nat) (revisionId : String) : RegistryMutationCommand where
  operation := .delete
  agentId := "billing"
  actorId := "admin"
  source := "api"
  expectedRevision
  definition := none
  revisionId
  createdAt := 0
  named := by decide
  definition_fits := rfl
  create_new := nofun

def emptyRegistries : List AgentRegistry := [.memory ⟨.empty, []⟩, .database ⟨.empty, []⟩]

def updatedOnce : List (Instant × RegistryMutationCommand) :=
  [(0, createCommand "Billing" "r1"), (1, updateCommand 1 "Billing" "r2"),
    (2, deleteCommand 2 "r3")]

def sampleTools : AuditTools := ⟨⟨id, fun text _ => text, id⟩, fun _ => "2026-01-01"⟩

theorem updated_once_identified :
    emptyRegistries.Forall fun start => Identifies sampleTools start updatedOnce "billing" := by
  have hruns : ∀ start ∈ emptyRegistries,
      (start.run sampleTools updatedOnce).isSome = true ∧ start.audit = [] := by decide
  refine List.forall_iff_forall_mem.2 fun start hstart => ?_
  obtain ⟨hrun, haudit⟩ := hruns start hstart
  obtain ⟨final, hfinal⟩ := Option.isSome_iff_exists.1 hrun
  exact (audit_identifies_iff sampleTools hfinal haudit "billing").2 (by decide)

def createdAgain : List (Instant × RegistryMutationCommand) :=
  [(0, createCommand "Billing" "r1"), (1, deleteCommand 1 "r2"),
    (2, createCommand "Refunds" "r3")]

def recordedRevisions (registry : AgentRegistry) : List Nat := registry.audit.map (·.revision)

def overwrittenFields (command : RegistryMutationCommand) (registry : AgentRegistry) :
    List JsonDict :=
  match registry.mutate sampleTools 3 command with
  | (.ok result, _) => (result.before.toList ++ result.after.toList).map (·.fields)
  | (.error _, _) => []

/-- Revision 1 is recorded for two definitions, and a writer that read the first of them replaces
the second. -/
theorem created_again_is_overwritten : emptyRegistries.Forall fun start =>
    ¬Identifies sampleTools start createdAgain "billing" ∧
    (start.run sampleTools createdAgain).map recordedRevisions = some [1, 2, 1] ∧
    (start.run sampleTools createdAgain).map
        (overwrittenFields (updateCommand 1 "Billing" "r4")) =
      some [[("name", .str "Refunds")], [("name", .str "Billing")]] := by
  have hruns : ∀ start ∈ emptyRegistries,
      (start.run sampleTools createdAgain).map recordedRevisions = some [1, 2, 1] ∧
      (start.run sampleTools createdAgain).map (fun final =>
        (final.audit.filter (·.agentId = "billing")).map (·.revision)) = some [1, 2, 1] ∧
      (start.run sampleTools createdAgain).map
          (overwrittenFields (updateCommand 1 "Billing" "r4")) =
        some [[("name", .str "Refunds")], [("name", .str "Billing")]] := by
    decide
  refine List.forall_iff_forall_mem.2 fun start hstart => ?_
  obtain ⟨hrevisions, hbilling, hfields⟩ := hruns start hstart
  refine ⟨fun h => ?_, hrevisions, hfields⟩
  obtain ⟨final, hfinal, hnumbers⟩ := Option.map_eq_some_iff.1 hbilling
  have hpairs := h.increasing final hfinal
  rw [hnumbers] at hpairs
  exact absurd hpairs (by decide)

end OpenIntentRouter.Registry
