import FirstAgent.Python.Sha256
import FirstAgent.Python.DateTime

/-! # Closed Enumerations of the Runtime

    Each enumeration of the runtime contracts with its wire text (`value`),
    and the helpers the record checks share. -/

inductive ActiveRunStatus where
  | runnable | model_executing | model_outcome_unknown | awaiting_approval | awaiting_recovery
  | awaiting_disclosure | paused_limit | paused_retryable
  deriving Repr, DecidableEq

inductive ContinuationPhase where
  | model | tool | executing
  deriving Repr, DecidableEq

inductive RunStatus where
  | completed | awaiting_approval | awaiting_recovery | awaiting_disclosure | cancelled
  | limit_reached | conversation_limit_reached | failed_retryable | failed_fatal | conflict
  deriving Repr, DecidableEq

inductive ActionDisposition where
  | accepted | replayed | conflict
  deriving Repr, DecidableEq

inductive RecoveryResolution where
  | mark_succeeded | mark_failed
  deriving Repr, DecidableEq

inductive InvocationOrigin where
  | model | operator
  deriving Repr, DecidableEq

inductive SideEffectClass where
  | read_only | write | external
  deriving Repr, DecidableEq

inductive EgressClass where
  | none | public_network | governed_network
  deriving Repr, DecidableEq

inductive ExecutionAuthorityClass where
  | in_process | local_same_uid_process | isolated_sandbox | browser_session
  deriving Repr, DecidableEq

inductive FactKind where
  | user_message | assistant_message | tool_calls | tool_result | policy_result | context_summary
  deriving Repr, DecidableEq

inductive GoalStatus where
  | goal_ready | executing | needs_authority | paused | blocked | verified_done | cancelled
  deriving Repr, DecidableEq

inductive InteractionState where
  | idle | answering | clarifying
  deriving Repr, DecidableEq

inductive EvidenceOracleKind where
  | filesystem_digest | tool_receipt | user_confirmation | research_provenance
  | web_source_receipt | browser_readback
  deriving Repr, DecidableEq

inductive AuthoritySourceKind where
  | user_fact | human_action | human_approval | durable_grant
  deriving Repr, DecidableEq

inductive GoalAuthorizationScope where
  | exact_file | directory
  deriving Repr, DecidableEq

inductive ControlRequestKind where
  | pause | correct | cancel
  deriving Repr, DecidableEq

inductive ProviderConsentGrantStatus where
  | active | revoked | invalidated
  deriving Repr, DecidableEq

inductive SourceKind where
  | history_excerpt | history_goal | history_evidence | workspace_path | workspace_excerpt
  | web_search_snippet | web_extracted_content
  deriving Repr, DecidableEq

inductive ProcessOutcome where
  | exited | signaled | timed_out_reaped
  deriving Repr, DecidableEq

/-! ### Wire text -/

def ActiveRunStatus.value : ActiveRunStatus → String
  | .runnable              => "runnable"
  | .model_executing       => "model_executing"
  | .model_outcome_unknown => "model_outcome_unknown"
  | .awaiting_approval     => "awaiting_approval"
  | .awaiting_recovery     => "awaiting_recovery"
  | .awaiting_disclosure   => "awaiting_disclosure"
  | .paused_limit          => "paused_limit"
  | .paused_retryable      => "paused_retryable"

def ContinuationPhase.value : ContinuationPhase → String
  | .model     => "model"
  | .tool      => "tool"
  | .executing => "executing"

def RunStatus.value : RunStatus → String
  | .completed                  => "completed"
  | .awaiting_approval          => "awaiting_approval"
  | .awaiting_recovery          => "awaiting_recovery"
  | .awaiting_disclosure        => "awaiting_disclosure"
  | .cancelled                  => "cancelled"
  | .limit_reached              => "limit_reached"
  | .conversation_limit_reached => "conversation_limit_reached"
  | .failed_retryable           => "failed_retryable"
  | .failed_fatal               => "failed_fatal"
  | .conflict                   => "conflict"

def RecoveryResolution.value : RecoveryResolution → String
  | .mark_succeeded => "mark_succeeded"
  | .mark_failed    => "mark_failed"

def InvocationOrigin.value : InvocationOrigin → String
  | .model    => "model"
  | .operator => "operator"

def SideEffectClass.value : SideEffectClass → String
  | .read_only => "read_only"
  | .write     => "write"
  | .external  => "external"

def EgressClass.value : EgressClass → String
  | .none             => "none"
  | .public_network   => "public_network"
  | .governed_network => "governed_network"

def ExecutionAuthorityClass.value : ExecutionAuthorityClass → String
  | .in_process             => "in_process"
  | .local_same_uid_process => "local_same_uid_process"
  | .isolated_sandbox       => "isolated_sandbox"
  | .browser_session        => "browser_session"

def FactKind.value : FactKind → String
  | .user_message      => "user_message"
  | .assistant_message => "assistant_message"
  | .tool_calls        => "tool_calls"
  | .tool_result       => "tool_result"
  | .policy_result     => "policy_result"
  | .context_summary   => "context_summary"

def GoalStatus.value : GoalStatus → String
  | .goal_ready      => "goal_ready"
  | .executing       => "executing"
  | .needs_authority => "needs_authority"
  | .paused          => "paused"
  | .blocked         => "blocked"
  | .verified_done   => "verified_done"
  | .cancelled       => "cancelled"

def InteractionState.value : InteractionState → String
  | .idle       => "idle"
  | .answering  => "answering"
  | .clarifying => "clarifying"

def EvidenceOracleKind.value : EvidenceOracleKind → String
  | .filesystem_digest   => "filesystem_digest"
  | .tool_receipt        => "tool_receipt"
  | .user_confirmation   => "user_confirmation"
  | .research_provenance => "research_provenance"
  | .web_source_receipt  => "web_source_receipt"
  | .browser_readback    => "browser_readback"

/-- `EvidenceOracleKind(text)`. -/
def EvidenceOracleKind.of_value (s : String) : Py EvidenceOracleKind :=
  Py.expect_value
    ([EvidenceOracleKind.filesystem_digest, .tool_receipt, .user_confirmation,
      .research_provenance, .web_source_receipt, .browser_readback].find? fun k => k.value = s)
    ("'" ++ s ++ "' is not a valid EvidenceOracleKind")

def AuthoritySourceKind.value : AuthoritySourceKind → String
  | .user_fact      => "user_fact"
  | .human_action   => "human_action"
  | .human_approval => "human_approval"
  | .durable_grant  => "durable_grant"

def GoalAuthorizationScope.value : GoalAuthorizationScope → String
  | .exact_file => "exact_file"
  | .directory  => "directory"

def ControlRequestKind.value : ControlRequestKind → String
  | .pause   => "pause"
  | .correct => "correct"
  | .cancel  => "cancel"

def ProviderConsentGrantStatus.value : ProviderConsentGrantStatus → String
  | .active      => "active"
  | .revoked     => "revoked"
  | .invalidated => "invalidated"

def SourceKind.value : SourceKind → String
  | .history_excerpt       => "history_excerpt"
  | .history_goal          => "history_goal"
  | .history_evidence      => "history_evidence"
  | .workspace_path        => "workspace_path"
  | .workspace_excerpt     => "workspace_excerpt"
  | .web_search_snippet    => "web_search_snippet"
  | .web_extracted_content => "web_extracted_content"

def ProcessOutcome.value : ProcessOutcome → String
  | .exited           => "exited"
  | .signaled         => "signaled"
  | .timed_out_reaped => "timed_out_reaped"

/-! ### Terminal goals -/

/-- `TERMINAL_GOAL_STATUSES`. -/
def GoalStatus.is_terminal (s : GoalStatus) : Bool :=
  s = .verified_done || s = .cancelled

theorem GoalStatus.is_terminal_iff {s : GoalStatus} :
    s.is_terminal = true ↔ s = .verified_done ∨ s = .cancelled := by
  cases s <;> simp [is_terminal]

/-! ### Record checks -/

namespace Py

/-- `not all(values)` on texts. -/
def any_empty (values : List String) : Bool :=
  values.any fun v => v = ""

/-- Refuse the first named empty text of a list. -/
def refuse_empty (label : String) : List (String × String) → Py Unit
  | []                => .ok ()
  | (name, v) :: rest => do
    refuse_value (v = "") (label ++ " " ++ name ++ " must not be empty")
    refuse_empty label rest

/-- Refuse the first named text that is not a sha256 digest. -/
def refuse_not_hex64 (label suffix : String) : List (String × String) → Py Unit
  | []                => .ok ()
  | (name, v) :: rest => do
    refuse_value (PyText.is_lower_hex v 64 = false) (label ++ " " ++ name ++ suffix)
    refuse_not_hex64 label suffix rest

end Py
