import OpenIntentRouter.Schemas.Redaction
import OpenIntentRouter.Schemas.Common

/-!
# Registry mutations

The commands by which agents of the registry change, and the audit record of a change.
-/
namespace OpenIntentRouter.Schemas.Registry

open Core

/-- An agent of the registry: what a mutation or the database decides of it, and the other fields
as they are dumped.
mirrors app/schemas/agents.py:76-100 -/
structure AgentDefinition where
  agentId : String
  revision : Nat
  enabled : Bool
  source : String
  createdAt : Option Instant
  updatedAt : Option Instant
  fields : JsonDict
  deriving DecidableEq

/-- `model_dump(mode="json")` -/
def AgentDefinition.dump (isoformat : Instant → String) (agent : AgentDefinition) : JsonDict :=
  let time := fun instant : Option Instant => instant.elim Json.null fun t => .str (isoformat t)
  [("agent_id", .str agent.agentId), ("revision", .num agent.revision),
    ("enabled", .bool agent.enabled)] ++ agent.fields ++
  [("source", .str agent.source), ("created_at", time agent.createdAt),
    ("updated_at", time agent.updatedAt)]

/-- mirrors app/schemas/registry_mutation.py:9 -/
inductive RegistryMutationOperation where
  | create | update | enable | disable | delete
  deriving DecidableEq

/-- A definition comes with the operations that write one, for the agent of the command.
mirrors app/schemas/registry_mutation.py:23-35 (`__post_init__`) -/
def definitionFits (operation : RegistryMutationOperation) (agentId : String) :
    Option AgentDefinition → Bool
  | none => operation ≠ .create && operation ≠ .update
  | some definition =>
    (operation = .create || operation = .update) && definition.agentId = agentId

/-- mirrors app/schemas/registry_mutation.py:12-35 -/
structure RegistryMutationCommand where
  operation : RegistryMutationOperation
  agentId : String
  actorId : String
  source : String
  expectedRevision : Nat
  definition : Option AgentDefinition
  revisionId : String
  createdAt : Instant
  named : agentId ≠ "" ∧ actorId ≠ "" ∧ source ≠ ""
  definition_fits : definitionFits operation agentId definition = true
  create_new : operation = .create → expectedRevision = 0

/-- mirrors app/schemas/registry_audit.py:9-18 -/
structure RegistryAuditRecord where
  revisionId : String
  agentId : String
  revision : Nat
  operation : RegistryMutationOperation
  operatorId : String
  source : String
  before : Option JsonDict
  after : Option JsonDict
  createdAt : Instant
  deriving DecidableEq

def RegistryAuditRecord.valid (audit : RegistryAuditRecord) : Bool :=
  [audit.revisionId, audit.agentId, audit.operatorId].all (fun id =>
    1 ≤ id.length && id.length ≤ 128) &&
  1 ≤ audit.source.length && audit.source.length ≤ 64 && 1 ≤ audit.revision

/-- mirrors app/schemas/registry_mutation.py:38-43 -/
structure RegistryMutationResult where
  operation : RegistryMutationOperation
  before : Option AgentDefinition
  after : Option AgentDefinition
  audit : RegistryAuditRecord
  deriving DecidableEq

end OpenIntentRouter.Schemas.Registry
