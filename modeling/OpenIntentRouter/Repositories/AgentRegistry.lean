import OpenIntentRouter.Core.Dict
import OpenIntentRouter.Core.Except
import OpenIntentRouter.Schemas.Registry

/-!
# The agent registries

`mutate` of both repositories. In memory it runs under a lock, and an audit record that is not
valid raises after the agent has changed. In the database it is one transaction that locks the
row of the agent; two rows of one agent, or two records of one `revision_id`, do not commit.
The JSON columns of a row are taken to read back as they were written.
-/
namespace OpenIntentRouter.Repositories.Registry

open Core Schemas Schemas.Registry

inductive RegistryError where
  | registryVersionConflict
  | validationError
  | integrityError
  deriving DecidableEq

/-- What the audit takes from elsewhere: the redaction and `isoformat`. -/
structure AuditTools where
  redaction : Redaction
  isoformat : Instant → String

/-- mirrors app/repositories/memory.py:91-101 and app/repositories/database.py:1001-1018 -/
def mutationAudit (tools : AuditTools) (command : RegistryMutationCommand)
    (before after : Option AgentDefinition) (revision : Nat) : RegistryAuditRecord :=
  let redacted := fun agent : AgentDefinition =>
    tools.redaction.redactFields (agent.dump tools.isoformat)
  { revisionId := command.revisionId
    agentId := command.agentId
    revision
    operation := command.operation
    operatorId := command.actorId
    source := command.source
    before := before.map redacted
    after := after.map redacted
    createdAt := command.createdAt }

def conflict {α : Type} : Except RegistryError α := .error .registryVersionConflict

def currentRevision (before : Option AgentDefinition) : Nat := before.elim 0 (·.revision)

def revised (command : RegistryMutationCommand) (revision : Nat) :
    Except RegistryError AgentDefinition :=
  match command.definition with
  | some definition => .ok { definition with revision }
  | none => .error .validationError

/-! ## In memory -/

structure MemoryAgentDefinitionRepository where
  agents : Table AgentDefinition.agentId
  registryAudit : List RegistryAuditRecord

namespace MemoryAgentDefinitionRepository

variable (repository : MemoryAgentDefinitionRepository)

/-- The agent that the mutation leaves, if it leaves one.
mirrors app/repositories/memory.py:64-89 -/
def after (command : RegistryMutationCommand) : Except RegistryError (Option AgentDefinition) :=
  let before := repository.agents.get? command.agentId
  let revision := currentRevision before
  if revision ≠ command.expectedRevision then conflict
  else
    match command.operation, before with
    | .create, some _ => conflict
    | .update, none => conflict
    | .create, none | .update, some _ => (revised command (revision + 1)).map some
    | .enable, some agent => .ok (some { agent with enabled := true, revision := revision + 1 })
    | .disable, some agent => .ok (some { agent with enabled := false, revision := revision + 1 })
    | .delete, some _ => .ok none
    | .enable, none | .disable, none | .delete, none => conflict

/-- mirrors app/repositories/memory.py:62-108 -/
def mutate (tools : AuditTools) (command : RegistryMutationCommand) :
    Except RegistryError RegistryMutationResult × MemoryAgentDefinitionRepository :=
  match repository.after command with
  | .error e => (.error e, repository)
  | .ok after =>
    let before := repository.agents.get? command.agentId
    let agents :=
      match after with
      | some agent => repository.agents.put agent
      | none => repository.agents.erase command.agentId
    let audit := mutationAudit tools command before after
      (after.elim (currentRevision before + 1) (·.revision))
    if audit.valid then
      (.ok ⟨command.operation, before, after, audit⟩,
        ⟨agents, repository.registryAudit ++ [audit]⟩)
    else (.error .validationError, ⟨agents, repository.registryAudit⟩)

end MemoryAgentDefinitionRepository

/-! ## In the database -/

/-- The tables `agent_definitions` and `registry_revisions`, the latter in the order of its
transactions. -/
structure DatabaseAgentDefinitionRepository where
  agentDefinitions : Table AgentDefinition.agentId
  registryRevisions : List RegistryAuditRecord

namespace DatabaseAgentDefinitionRepository

variable (repository : DatabaseAgentDefinitionRepository)

/-- A new row, stamped by the server.
mirrors app/repositories/database.py:974-998 (`_agent_values`) -/
def newRow (stamp : Instant) (agent : AgentDefinition) : AgentDefinition :=
  { agent with source := "database", createdAt := some stamp, updatedAt := some stamp }

def updatedRow (stamp : Instant) (row agent : AgentDefinition) : AgentDefinition :=
  { agent with source := "database", createdAt := row.createdAt, updatedAt := some stamp }

/-- What becomes of the row of an agent, and the agent that the mutation answers with.
mirrors app/repositories/database.py:121-159 -/
def written (stamp : Instant) (command : RegistryMutationCommand) :
    Except RegistryError (Option (AgentDefinition × AgentDefinition)) :=
  let before := repository.agentDefinitions.get? command.agentId
  let revision := currentRevision before
  let switched := fun (agent : AgentDefinition) (enabled : Bool) =>
    let after := { agent with enabled, revision := revision + 1 }
    Except.ok (some ({ after with updatedAt := some stamp }, after))
  if revision ≠ command.expectedRevision then conflict
  else
    match command.operation, before with
    | .create, none => (revised command 1).map fun after => some (newRow stamp after, after)
    | .update, some row =>
      (revised command (revision + 1)).map fun after => some (updatedRow stamp row after, after)
    | .enable, some row => switched row true
    | .disable, some row => switched row false
    | .delete, some _ => .ok none
    | .create, some _ | .update, none | .enable, none | .disable, none | .delete, none => conflict

/-- mirrors app/repositories/database.py:114-176 -/
def mutate (tools : AuditTools) (stamp : Instant) (command : RegistryMutationCommand) :
    Except RegistryError RegistryMutationResult × DatabaseAgentDefinitionRepository :=
  match repository.written stamp command with
  | .error e => (.error e, repository)
  | .ok written =>
    let before := repository.agentDefinitions.get? command.agentId
    let after := written.map (·.2)
    let rows :=
      match written with
      | some (row, _) => repository.agentDefinitions.put row
      | none => repository.agentDefinitions.erase command.agentId
    let audit := mutationAudit tools command before after
      (after.elim (currentRevision before + 1) (·.revision))
    if !audit.valid then (.error .validationError, repository)
    else if (repository.registryRevisions.map (·.revisionId)).contains audit.revisionId then
      (.error .integrityError, repository)
    else
      (.ok ⟨command.operation, before, after, audit⟩,
        ⟨rows, repository.registryRevisions ++ [audit]⟩)

end DatabaseAgentDefinitionRepository

end OpenIntentRouter.Repositories.Registry
