import FirstAgent.Framework.Segments
import FirstAgent.Compaction.Turns
import FirstAgent.Compaction.Reduction
import FirstAgent.Framework.ReplayLog
import FirstAgent.Invariants.Replay
import FirstAgent.Invariants.RunChange
import FirstAgent.Invariants.RunSteps
import FirstAgent.Invariants.Batches
import FirstAgent.Invariants.Effects
import FirstAgent.Invariants.Healing
import FirstAgent.Framework.TransitionSystem
import FirstAgent.Contracts.Disclosure
import FirstAgent.Contracts.Model
import FirstAgent.Contracts.Run
import FirstAgent.Contracts.State
import FirstAgent.Contracts.Actions
import FirstAgent.State.Rules
import FirstAgent.State.Goals
import FirstAgent.State.Control
import FirstAgent.Python.JsonText
import FirstAgent.State.Resources
import FirstAgent.State.Completion
import FirstAgent.Contracts.Receipts
import FirstAgent.State.Authority
import FirstAgent.State.Admission
import FirstAgent.State.Runs
import FirstAgent.State.Legality
import FirstAgent.State.Dispatch
import FirstAgent.State.Apply
import FirstAgent.State.Accept
import FirstAgent.State.System
import FirstAgent.Framework.BatchLog
import FirstAgent.Compaction.Closure
import FirstAgent.Invariants.ProviderCalls
import FirstAgent.Framework.KeyedStore
import FirstAgent.Automation.RunOnce
import FirstAgent.Consent.Runs
import FirstAgent.Drive.Loop
import FirstAgent.Drive.Allowances
import FirstAgent.Evidence.Completion
import FirstAgent.Evidence.Confirmation
import FirstAgent.Background.Budgets
import FirstAgent.Browser.SessionStore
import FirstAgent.Memory.Runs
import FirstAgent.Continuity.ArchiveRuns
import FirstAgent.Context.Budget
import FirstAgent.Provider.Chunking
import FirstAgent.Sandbox.Profile
import FirstAgent.Framework.Regex
import FirstAgent.Python.PurePath
import FirstAgent.Workspace.Edit
import FirstAgent.Workspace.Addressing
import FirstAgent.Browser.UrlPolicy
import FirstAgent.Web.Locators
import FirstAgent.Continuity.StoredRuns
import FirstAgent.Invariants.FactsKept
