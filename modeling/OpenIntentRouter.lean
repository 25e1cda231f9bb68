import OpenIntentRouter.DelegatedRuns.EventLog
import OpenIntentRouter.DelegatedRuns.PlanLifecycle
import OpenIntentRouter.DelegatedRuns.TerminalRace
import OpenIntentRouter.DelegatedRuns.RunVersions
import OpenIntentRouter.Plans.Serializability
import OpenIntentRouter.Outbox.Fencing
import OpenIntentRouter.Plans.Agreement
import OpenIntentRouter.Memories.TtlSweeps
import OpenIntentRouter.Memories.DatabaseReplays
import OpenIntentRouter.Memories.InterruptedDeletions
import OpenIntentRouter.Memories.DeadLetters
import OpenIntentRouter.Memories.Correspondence
import OpenIntentRouter.Routing.Candidates
import OpenIntentRouter.HostAdapters.Binding
import OpenIntentRouter.Formation.Leases
import OpenIntentRouter.Formation.Watermark
import OpenIntentRouter.Formation.Reconciliation
import OpenIntentRouter.Context.TotalBudgets
import OpenIntentRouter.Context.Conflicts
import OpenIntentRouter.Context.Secrets
import OpenIntentRouter.Context.InputBudget
import OpenIntentRouter.Context.ItemSelection
import OpenIntentRouter.Context.Exhaustion
import OpenIntentRouter.Turns.Capsules
import OpenIntentRouter.Candidates.Poison
import OpenIntentRouter.Traces.Stream
import OpenIntentRouter.Traces.Completeness
import OpenIntentRouter.HostAdapters.ServerClock
import OpenIntentRouter.Plans.LeakedClaims
import OpenIntentRouter.Registry.Revisions
import OpenIntentRouter.Plans.Graphs
import OpenIntentRouter.Context.Handles
import OpenIntentRouter.Formation.RunProjections
