import FirstAgent.State.Authority
import FirstAgent.State.Control

/-! # Which Actions Are Legal

    `_action_is_legal`: an action is legal, or refused with the reason its
    conflict reports. -/

open Fallible

/-- Legal, or the reason it is not. -/
abbrev Legality : Type := Except String Unit

/-- The pending request can be answered in a live run, or after the run was
    stopped. -/
def answers_disclosure (s : ConversationState) : Bool :=
  match s.val.active_run with
  | some active => active.val.status = .awaiting_disclosure
  | none        => goal_is_ready s.val.goal

/-- A pending disclosure request matches; a stopped run needs it unanswered. -/
def disclosure_matches (s : ConversationState) (request_digest : String) : Bool :=
  (s.val.provider_disclosure_request.any fun r => r.request_digest = request_digest) &&
    answers_disclosure s &&
    (s.val.active_run.isSome || s.val.provider_disclosure_receipt.isNone)

/-- The criterion an action confirms. -/
def confirmed_criterion (goal : GoalFrame) (criterion_id : String) : Option AdmittedCriterion :=
  goal.val.admitted_criteria.find? fun c => c.val.criterion_id = criterion_id

def confirm_criterion_is_legal (s : ConversationState) (a : ConfirmCriterion) : Legality := do
  let goal ← expect s.val.goal "goal_revision_mismatch"
  refuse
    (goal.val.goal_id ≠ a.val.goal_id ∨ goal.val.revision ≠ a.val.goal_revision
      ∨ s.val.active_run ≠ none)
    "goal_revision_mismatch"
  let c ← expect (confirmed_criterion goal a.val.criterion_id) "criterion_confirmation_mismatch"
  refuse
    (c.val.oracle_kind ≠ .user_confirmation
      ∨ c.val.admission_digest ≠ a.val.admission_binding_digest)
    "criterion_confirmation_mismatch"

def submit_message_is_legal (s : ConversationState) (run_id message : String) : Legality := do
  refuse (s.val.active_run.any fun r => r.val.status ≠ .awaiting_approval)
    "illegal_action_for_state"
  refuse (PyText.is_blank message ∨ run_id = "") "invalid_submit_message"

/-- `PauseGoal`, `ResumeGoal` and `CancelGoal` differ in the statuses they
    refuse. -/
def goal_control_is_legal (s : ConversationState) (a : GoalAction)
    (refused : GoalStatus → Bool) : Legality := do
  let goal ← expect s.val.goal "goal_identity_mismatch"
  refuse (goal.val.goal_id ≠ a.val.goal_id) "goal_identity_mismatch"
  refuse (goal.val.revision ≠ a.val.goal_revision) "goal_revision_mismatch"
  refuse (has_unknown_effect s) "unknown_effect_recovery_required"
  refuse (refused goal.val.status) "illegal_action_for_state"

/-- Both takeover controls; only the completion also names session and profile. -/
def takeover_is_legal (s : ConversationState) (request_id : String)
    (mismatch : BrowserTakeoverRequestV1 → Bool) : Legality := do
  refuse (has_unknown_effect s) "unknown_effect_recovery_required"
  let pending ← expect s.val.browser_takeover_pending "illegal_action_for_state"
  refuse (request_id ≠ pending.val.request_id) "browser_takeover_mismatch"
  refuse (mismatch pending) "browser_takeover_mismatch"

/-- Both consents; they differ in which requests they cover. -/
def consent_is_legal (s : ConversationState) (a : GrantConsentFields)
    (covers : ProviderDisclosureRequestV2 → Bool) : Legality := do
  refuse (has_unknown_effect s) "unknown_effect_recovery_required"
  let request ← expect (match s.val.provider_disclosure_request with
    | some (.v2 r) => some r
    | _            => none) "provider_consent_mismatch"
  refuse
    (request.val.request_digest ≠ a.request_digest ∨ request.val.scope_digest ≠ a.scope_digest
      ∨ covers request = false ∨ s.val.provider_disclosure_receipt ≠ none)
    "provider_consent_mismatch"
  refuse (answers_disclosure s = false) "provider_consent_mismatch"

def abandon_is_legal (s : ConversationState) (a : AbandonUnknownModelOutcome) : Legality := do
  let mismatch := "model_outcome_abandonment_mismatch"
  let binding ← expect s.val.background_occurrence_binding mismatch
  let active ← expect s.val.active_run mismatch
  let intent ← expect active.val.provider_call_intent mismatch
  refuse
    (active.val.status ≠ .model_outcome_unknown
      ∨ a.val.occurrence_id ≠ binding.val.occurrence_id
      ∨ a.val.background_binding_digest ≠ binding.val.binding_digest
      ∨ a.val.provider_call_intent_digest ≠ intent.val.intent_digest)
    mismatch

def operator_tool_is_legal (s : ConversationState) : Legality := do
  refuse (has_unknown_effect s) "unknown_effect_recovery_required"
  let goal ← expect s.val.goal "operator_tool_requires_active_goal"
  refuse (goal.val.status ≠ .goal_ready ∧ goal.val.status ≠ .executing)
    "operator_tool_requires_active_goal"
  let active ← expect s.val.active_run "operator_tool_requires_active_run"
  refuse
    (active.val.status ≠ .runnable ∨ active.val.phase ≠ .model
      ∨ active.val.owner_invocation_id ≠ none ∨ active.val.invocation_origin ≠ .model)
    "operator_tool_requires_idle_run"

/-- The approval the run awaits. -/
def pending_approval (active : ActiveRun) : Option ApprovalRequest :=
  match active.val.pending_request with
  | some (.approval p) => some p
  | _                  => none

/-- The recovery the run awaits. -/
def pending_recovery (active : ActiveRun) : Option RecoveryRequest :=
  match active.val.pending_request with
  | some (.recovery p) => some p
  | _                  => none

def resolve_approval_is_legal (s : ConversationState) (active : ActiveRun) (a : ResolveApproval) :
    Legality := do
  refuse (active.val.status ≠ .awaiting_approval) "illegal_action_for_state"
  let pending ← expect (pending_approval active) "illegal_action_for_state"
  refuse
    (a.val.request_id ≠ pending.val.request_id ∨ a.val.binding_digest ≠ pending.val.binding_digest)
    "pending_request_mismatch"
  refuse
    (a.val.authorize_goal_target
      ∧ goal_target_authorization_scope s pending active false = none)
    "goal_target_authorization_mismatch"
  refuse
    (a.val.authorize_goal_directory
      ∧ goal_target_authorization_scope s pending active true = none)
    "goal_directory_authorization_mismatch"

def resolve_unknown_is_legal (active : ActiveRun) (request_id binding_digest : String) :
    Legality := do
  refuse (active.val.status ≠ .awaiting_recovery) "illegal_action_for_state"
  let pending ← expect (pending_recovery active) "illegal_action_for_state"
  refuse (request_id ≠ pending.val.request_id ∨ binding_digest ≠ pending.val.binding_digest)
    "pending_request_mismatch"
  refuse (active.val.executing_intent.any fun i => i.val.egress = .public_network)
    "typed_observation_recovery_required"

def recover_observation_is_legal (active : ActiveRun) (a : RecoverUnknownObservation) :
    Legality := do
  let intent ← expect active.val.executing_intent "observation_recovery_mismatch"
  refuse
    (active.val.phase ≠ .executing ∨ intent.val.egress ≠ .public_network
      ∨ a.val.tool_call_id ≠ intent.val.tool_call_id
      ∨ a.val.intent_digest ≠ intent.val.intent_digest)
    "observation_recovery_mismatch"

/-- The statuses a run may be resumed or cancelled in. -/
def ActiveRunStatus.is_resumable (status : ActiveRunStatus) : Bool :=
  status = .runnable || status = .awaiting_approval || status = .paused_limit ||
    status = .paused_retryable

def resume_is_legal (active : ActiveRun) : Legality :=
  refuse (active.val.status.is_resumable = false) "illegal_action_for_state"

def cancel_run_is_legal (active : ActiveRun) : Legality := do
  refuse (active.val.status = .runnable ∧ active.val.phase = .executing)
    "illegal_action_for_state"
  refuse (active.val.status.is_resumable = false) "illegal_action_for_state"

/-- The actions that need an active run. -/
def run_action_is_legal (s : ConversationState) (f : ActiveRun → Legality) : Legality := do
  let active ← expect s.val.active_run "illegal_action_for_state"
  f active

/-- `_action_is_legal`. -/
def action_is_legal (s : ConversationState) : ActionBody → Legality
  | .acknowledge_provider_disclosure a =>
    refuse (disclosure_matches s a.val.request_digest = false) "provider_disclosure_mismatch"
  | .confirm_criterion a => confirm_criterion_is_legal s a
  | .submit_message run_id message => submit_message_is_legal s run_id message
  | .pause_goal a => goal_control_is_legal s a fun status =>
      status = .paused || status = .verified_done || status = .cancelled
  | .resume_goal a => goal_control_is_legal s a fun status =>
      (status ≠ .paused && status ≠ .blocked) || s.val.active_run.isSome
  | .cancel_goal a => goal_control_is_legal s a fun status =>
      status = .verified_done || status = .cancelled
  | .complete_browser_takeover a => takeover_is_legal s a.val.request_id fun pending =>
      a.val.session_ref ≠ pending.val.session_ref ||
        a.val.expected_profile_revision ≠ pending.val.profile_revision
  | .cancel_browser_takeover a => takeover_is_legal s a.val.request_id fun _ => false
  | .grant_provider_consent a => consent_is_legal s a.val fun r => r.val.grant_eligible
  | .grant_provider_workspace_read_consent a => consent_is_legal s a.val fun r =>
      !r.val.grant_eligible && workspace_read_classes_covered r.val.data_classes r.val.sources
  | .revoke_provider_consent => do
    refuse (has_unknown_effect s) "unknown_effect_recovery_required"
    refuse (s.val.provider_consent_grant = none) "provider_consent_missing"
  | .revoke_process_authority _ =>
    refuse (has_unknown_effect s) "unknown_effect_recovery_required"
  | .revoke_goal_target_authority => do
    refuse (has_unknown_effect s) "unknown_effect_recovery_required"
    refuse (s.val.goal_authorizations = []) "goal_target_authorization_missing"
  | .abandon_unknown_model_outcome a => abandon_is_legal s a
  | .execute_operator_tool _ => operator_tool_is_legal s
  | .resolve_approval a => run_action_is_legal s fun active => resolve_approval_is_legal s active a
  | .resolve_unknown_tool_outcome request_id binding_digest _ =>
    run_action_is_legal s fun active => resolve_unknown_is_legal active request_id binding_digest
  | .recover_unknown_observation a =>
    run_action_is_legal s fun active => recover_observation_is_legal active a
  | .resume => run_action_is_legal s resume_is_legal
  | .cancel_run => run_action_is_legal s cancel_run_is_legal
  | .select_goal _ => run_action_is_legal s fun _ => .error "illegal_action_for_state"
