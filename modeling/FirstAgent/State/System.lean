import FirstAgent.Compaction.Reduction
import FirstAgent.Framework.TransitionSystem
import FirstAgent.State.Accept
import FirstAgent.State.Completion
import FirstAgent.State.Dispatch

/-! # The Conversation as a Transition System

    Every public transition of a conversation is a label.  A label is refused
    when its function raises, and an action also when it is not accepted; the
    caller then keeps the state it had. -/

open Fallible

/-- The transitions of a conversation. -/
inductive Transition where
  /-- An accepted action; `clock` is the text of the wall clock. -/
  | accept_action (clock : String) (action : RuntimeAction) (max_replay_records : Int)
      (now : Option String)
  | finalize_action (action_seq : Int) (result : RecordedRunResult) (max_replay_records : Int)
  -- the Goal
  | create_goal (goal : GoalFrame)
  | accept_clarification_request (request : ClarificationRequest)
  | accept_begin_answer (request : BeginAnswer)
  | accept_goal_proposal (proposal : GoalProposal) (bootstrap : Option GoalBootstrap)
  | accept_goal_draft_proposal (proposal : GoalDraftProposal) (bootstrap : Option GoalBootstrap)
      (admitted_at : String)
  | record_goal_progress (progress : GoalProgress)
  | apply_goal_delta (delta : GoalDelta)
  | accept_goal_delta_proposal (proposal : GoalDeltaProposal)
  | acknowledge_noop_goal_delta (proposal : GoalDeltaProposal)
  | accept_blocked_claim (claim : BlockedClaim)
  -- controls and consent
  | pause_goal (goal_id : String) (expected_revision : Int)
  | resume_goal (goal_id : String) (expected_revision : Int)
  | cancel_goal (goal_id : String) (expected_revision : Int)
  | apply_control_request (request : ControlInboxRequest)
  | pause_for_provider_disclosure (request : DisclosureRequest)
  | acknowledge_provider_disclosure (action_seq : Int) (action : AcknowledgeProviderDisclosure)
      (now : Option String)
  | grant_provider_consent (action_seq : Int) (action : GrantProviderConsent) (now : String)
  | grant_provider_workspace_read_consent (action_seq : Int)
      (action : GrantProviderWorkspaceReadConsent) (now : String)
  | revoke_provider_consent
  -- completion and authority
  | record_completion_claim (claim : CompletionClaim)
  | record_evidence (records : List EvidenceRecord)
  | verify_goal_completion
  | begin_browser_takeover (request : BrowserTakeoverRequestV1)
  | complete_browser_takeover (action : CompleteBrowserTakeover)
  | cancel_browser_takeover (request_id : String)
  | admit_process_receipt_criterion (tool_call_id receipt_digest command_fingerprint : String)
      (action_seq : Int)
  | admit_sandbox_receipt_criterion
      (tool_call_id receipt_digest command_fingerprint policy_digest mode network : String)
      (action_seq : Int)
  | admit_governed_tool_receipt_criterion (tool_call_id tool_name receipt_digest : String)
      (action_seq : Int)
  | admit_web_source_criterion (tool_call_id : String) (action_seq : Int)
  -- the run
  | claim_run (invocation_id : String)
  | reclaim_background_run (invocation_id : String)
  | ensure_run_started (started_at : String)
  | complete_run (message : Option String) (continuation : Option ProviderContinuationV1)
  | end_run (status : RunStatus) (code message : String)
  | fail_run (code message : String)
  | pause_for_limit
  | pause_for_retryable
  -- the provider boundary
  | begin_provider_call (intent : ProviderCallIntentV1) (input_tokens : Int)
  | record_foreground_model_attempt (input_tokens : Int)
  | record_provider_response (response : PersistedModelResponseV1)
  | consume_provider_response
  | mark_model_outcome_unknown
  | reject_persisted_response
  | charge_consent_grant
  | consume_disclosure_receipt (now : String)
  | invalidate_provider_consent
  -- tool batches
  | start_operator_tool (action : ExecuteOperatorTool)
  | release_operator_tool
  | start_tool_batch (calls : List ToolCall) (preamble : Option String)
      (continuation : Option ProviderContinuationV1)
  | record_nonexecuted_tool_result (result : ConversationFact)
  | pause_for_approval (request : ApprovalRequest)
  | mark_executing (request : ExecutionRequest)
  | record_tool_result (result : ConversationFact) (intent_digest : String)
  | pause_for_recovery (request : RecoveryRequest)
  -- the log
  | append_policy_result (code message : String)
  | apply_compaction_summary (summary : ConversationSummaryV1) (removable_fact_ids : List String)
      (source_scope : Option ProviderConsentScopeV1)
  | adopt_workspace_binding (expected : ConversationWorkspaceBindingV1)

/-- The state a transition leaves. -/
def transition_step (rules : TextRules) (s : ConversationState) :
    Transition → Py ConversationState
  | .accept_action clock action max_replay_records now => do
    let t ← accept_action rules clock s action max_replay_records now
    Py.refuse_value (t.disposition ≠ .accepted) (t.reason.getD "replayed")
    pure t.state
  | .finalize_action seq result max_replay_records =>
    finalize_action s seq result max_replay_records
  | .create_goal goal => create_goal s goal
  | .accept_clarification_request request => accept_clarification_request s request
  | .accept_begin_answer request => accept_begin_answer s request
  | .accept_goal_proposal proposal bootstrap => accept_goal_proposal s proposal bootstrap
  | .accept_goal_draft_proposal proposal bootstrap admitted_at =>
    accept_goal_draft_proposal rules s proposal bootstrap admitted_at
  | .record_goal_progress progress => record_goal_progress s progress
  | .apply_goal_delta delta => apply_goal_delta s delta
  | .accept_goal_delta_proposal proposal => accept_goal_delta_proposal rules s proposal
  | .acknowledge_noop_goal_delta proposal => acknowledge_noop_goal_delta s proposal
  | .accept_blocked_claim claim => accept_blocked_claim s claim
  | .pause_goal goal_id revision => pause_goal s goal_id revision
  | .resume_goal goal_id revision => resume_goal s goal_id revision
  | .cancel_goal goal_id revision => cancel_goal s goal_id revision
  | .apply_control_request request => apply_control_request s request
  | .pause_for_provider_disclosure request => pause_for_provider_disclosure s request
  | .acknowledge_provider_disclosure seq action now =>
    acknowledge_provider_disclosure s seq action now
  | .grant_provider_consent seq action now => grant_provider_consent s seq action now
  | .grant_provider_workspace_read_consent seq action now =>
    grant_provider_workspace_read_consent s seq action now
  | .revoke_provider_consent => revoke_provider_consent s
  | .record_completion_claim claim => record_completion_claim s claim
  | .record_evidence records => record_evidence s records
  | .verify_goal_completion => verify_goal_completion rules s
  | .begin_browser_takeover request => begin_browser_takeover s request
  | .complete_browser_takeover action => do pure (← complete_browser_takeover s action).1
  | .cancel_browser_takeover request_id => cancel_browser_takeover s request_id
  | .admit_process_receipt_criterion call digest fingerprint seq =>
    admit_process_receipt_criterion s call digest fingerprint seq
  | .admit_sandbox_receipt_criterion call digest fingerprint policy mode network seq =>
    admit_sandbox_receipt_criterion s call digest fingerprint policy mode network seq
  | .admit_governed_tool_receipt_criterion call tool_name digest seq =>
    admit_governed_tool_receipt_criterion s call tool_name digest seq
  | .admit_web_source_criterion call seq => admit_web_source_criterion s call seq
  | .claim_run invocation_id => claim_run s invocation_id
  | .reclaim_background_run invocation_id => reclaim_background_run s invocation_id
  | .ensure_run_started started_at => ensure_run_started s started_at
  | .complete_run message continuation => complete_run s message continuation
  | .end_run status code message => end_run s status code message
  | .fail_run code message => fail_run s code message
  | .pause_for_limit => pause_for_limit s
  | .pause_for_retryable => pause_for_retryable s
  | .begin_provider_call intent input_tokens => begin_provider_call s intent input_tokens
  | .record_foreground_model_attempt input_tokens =>
    record_foreground_model_attempt s input_tokens
  | .record_provider_response response => record_provider_response s response
  | .consume_provider_response => consume_provider_response s
  | .mark_model_outcome_unknown => mark_model_outcome_unknown s
  | .reject_persisted_response => reject_persisted_response s
  | .charge_consent_grant => charge_consent_grant s
  | .consume_disclosure_receipt now => consume_disclosure_receipt s now
  | .invalidate_provider_consent => invalidate_provider_consent s
  | .start_operator_tool action => start_operator_tool s action
  | .release_operator_tool => release_operator_tool s
  | .start_tool_batch calls preamble continuation =>
    start_tool_batch s calls preamble continuation
  | .record_nonexecuted_tool_result result => record_nonexecuted_tool_result s result
  | .pause_for_approval request => pause_for_approval s request
  | .mark_executing request => mark_executing s request
  | .record_tool_result result digest => record_tool_result s result digest
  | .pause_for_recovery request => pause_for_recovery s request
  | .append_policy_result code message => append_policy_result s code message
  | .apply_compaction_summary summary removable scope =>
    apply_compaction_summary s summary removable scope
  | .adopt_workspace_binding expected => adopt_workspace_binding s expected

/-- A conversation and its transitions. -/
def conversation_system (rules : TextRules) : System PyError ConversationState Transition where
  step := transition_step rules

theorem accept_action_step_ok {rules : TextRules} {s s' : ConversationState} {clock : String}
    {action : RuntimeAction} {max_replay_records : Int} {now : Option String}
    (h : transition_step rules s (.accept_action clock action max_replay_records now) = .ok s') :
    ∃ healed with_replay applied,
      Accepts rules clock s action max_replay_records now healed with_replay applied s' := by
  simp only [transition_step, bind_eq_ok, Py.refuse_value_eq_ok, pure_eq_ok, not_not] at h
  obtain ⟨t, ht, _, hdisposition, rfl⟩ := h
  rcases accept_action_ok ht with ⟨hd, _⟩ | ⟨hd, _⟩ | ⟨_, haccepts⟩
  · rw [hdisposition] at hd
    cases hd
  · rw [hdisposition] at hd
    cases hd
  · exact haccepts
