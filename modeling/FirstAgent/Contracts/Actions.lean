import FirstAgent.Contracts.State

/-! # Runtime Actions

    The closed set of actions a user may submit, with the envelope that
    sequences them, the canonical digest replays are matched by, and the
    transition an action is answered with. -/

open Fallible

/-! ### Payloads with a check -/

structure ResolveApprovalFields where
  request_id : String
  binding_digest : String
  approved : Bool
  approved_at : Option String := none
  confirmed_artifact_path : Option String := none
  confirmed_artifact_sha256 : Option String := none
  defer_artifact_confirmation : Bool := false
  authorize_goal_target : Bool := false
  authorize_goal_directory : Bool := false
  authorize_obligation_rebind : Bool := false
  deriving Repr, DecidableEq

def ResolveApprovalFields.post_init (a : ResolveApprovalFields) : Py Unit := do
  Py.refuse_value
    (a.defer_artifact_confirmation ∧ (¬ a.approved ∨ a.confirmed_artifact_path ≠ none
      ∨ a.confirmed_artifact_sha256 ≠ none))
    "deferred artifact confirmation requires approval without a supplied digest"
  Py.refuse_value (a.authorize_goal_target ∧ ¬ a.approved)
    "goal target authorization requires approval"
  Py.refuse_value (a.authorize_goal_directory ∧ ¬ a.approved)
    "goal directory authorization requires approval"
  Py.refuse_value (a.authorize_goal_target ∧ a.authorize_goal_directory)
    "choose either exact target or directory authorization"
  Py.refuse_value (a.authorize_obligation_rebind ∧ ¬ a.approved)
    "obligation rebind authorization requires approval"

abbrev ResolveApproval : Type := Checked ResolveApprovalFields.post_init

structure CompleteBrowserTakeoverFields where
  request_id : String
  session_ref : String
  expected_profile_revision : Int
  deriving Repr, DecidableEq

def CompleteBrowserTakeoverFields.post_init (a : CompleteBrowserTakeoverFields) : Py Unit := do
  Py.refuse_value (a.request_id = "" ∨ a.session_ref = "")
    "takeover control identity must not be empty"
  Py.refuse_value (a.expected_profile_revision ≤ 0) "expected_profile_revision must be positive"

abbrev CompleteBrowserTakeover : Type := Checked CompleteBrowserTakeoverFields.post_init

structure CancelBrowserTakeoverFields where
  request_id : String
  deriving Repr, DecidableEq

def CancelBrowserTakeoverFields.post_init (a : CancelBrowserTakeoverFields) : Py Unit :=
  Py.refuse_value (a.request_id = "") "takeover control identity must not be empty"

abbrev CancelBrowserTakeover : Type := Checked CancelBrowserTakeoverFields.post_init

structure RecoverUnknownObservationFields where
  tool_call_id : String
  intent_digest : String
  deriving Repr, DecidableEq

def RecoverUnknownObservationFields.post_init (a : RecoverUnknownObservationFields) : Py Unit :=
  Py.refuse_value (a.tool_call_id = "" ∨ a.intent_digest = "")
    "observation recovery identity must not be empty"

abbrev RecoverUnknownObservation : Type := Checked RecoverUnknownObservationFields.post_init

structure AbandonUnknownModelOutcomeFields where
  occurrence_id : String
  background_binding_digest : String
  provider_call_intent_digest : String
  deriving Repr, DecidableEq

def AbandonUnknownModelOutcomeFields.post_init (a : AbandonUnknownModelOutcomeFields) :
    Py Unit := do
  Py.refuse_value (a.occurrence_id = "") "model outcome abandonment must bind an occurrence"
  Py.refuse_value (PyText.is_lower_hex a.background_binding_digest 64 = false)
    "background_binding_digest must be 64 lowercase hex"
  Py.refuse_value (PyText.is_lower_hex a.provider_call_intent_digest 64 = false)
    "provider_call_intent_digest must be 64 lowercase hex"

abbrev AbandonUnknownModelOutcome : Type := Checked AbandonUnknownModelOutcomeFields.post_init

structure AcknowledgeProviderDisclosureFields where
  request_digest : String
  acknowledged_at : String
  deriving Repr, DecidableEq

def AcknowledgeProviderDisclosureFields.post_init (a : AcknowledgeProviderDisclosureFields) :
    Py Unit :=
  Py.refuse_value (a.request_digest = "" ∨ a.acknowledged_at = "")
    "provider disclosure acknowledgement fields must not be empty"

abbrev AcknowledgeProviderDisclosure : Type :=
  Checked AcknowledgeProviderDisclosureFields.post_init

structure GrantConsentFields where
  request_digest : String
  scope_digest : String
  deriving Repr, DecidableEq

/-- `GrantProviderConsent.__post_init__`. -/
def GrantConsentFields.post_init (a : GrantConsentFields) : Py Unit :=
  Py.refuse_value (a.request_digest = "" ∨ a.scope_digest = "")
    "provider consent grant action must bind request and scope"

/-- `GrantProviderWorkspaceReadConsent.__post_init__`. -/
def GrantConsentFields.workspace_read_post_init (a : GrantConsentFields) : Py Unit :=
  Py.refuse_value (a.request_digest = "" ∨ a.scope_digest = "")
    "provider workspace-read consent action must bind request and scope"

abbrev GrantProviderConsent : Type := Checked GrantConsentFields.post_init
abbrev GrantProviderWorkspaceReadConsent : Type :=
  Checked GrantConsentFields.workspace_read_post_init

structure GoalActionFields where
  goal_id : String
  goal_revision : Int
  deriving Repr, DecidableEq

/-- `_validate_goal_action`. -/
def GoalActionFields.post_init (a : GoalActionFields) : Py Unit := do
  Py.refuse_value (a.goal_id = "") "goal action must bind a goal"
  Py.refuse_value (a.goal_revision < 1) "goal action revision must be positive"

/-- `PauseGoal`, `ResumeGoal` and `CancelGoal` share their payload. -/
abbrev GoalAction : Type := Checked GoalActionFields.post_init

structure ConfirmCriterionFields where
  goal_id : String
  goal_revision : Int
  criterion_id : String
  admission_binding_digest : String
  confirmed : Bool
  deriving Repr, DecidableEq

def ConfirmCriterionFields.post_init (a : ConfirmCriterionFields) : Py Unit := do
  GoalActionFields.post_init ⟨a.goal_id, a.goal_revision⟩
  Py.refuse_value (a.criterion_id = "" ∨ a.admission_binding_digest = "")
    "criterion confirmation fields must not be empty"

abbrev ConfirmCriterion : Type := Checked ConfirmCriterionFields.post_init

/-- One ASCII letter or digit, then at most 127 of these or of `extra`. -/
def matches_identifier (extra s : String) : Bool :=
  let alnum := fun c : Char => c.toNat < 128 && c.isAlphanum
  match s.toList with
  | []      => false
  | c :: cs => alnum c && cs.length ≤ 127 && cs.all fun d => alnum d || extra.toList.contains d

structure ExecuteOperatorToolFields where
  action_id : String
  tool_name : String
  arguments : JsonDict
  submitted_at : String
  deriving Repr, DecidableEq

def ExecuteOperatorToolFields.post_init (a : ExecuteOperatorToolFields) : Py Unit := do
  Py.refuse_value (matches_identifier "._:-" a.action_id = false)
    "operator action_id has an invalid closed shape"
  Py.refuse_value (matches_identifier "_-" a.tool_name = false)
    "operator tool_name has an invalid closed shape"
  Py.refuse_value (PyText.is_rfc3339_z a.submitted_at = false)
    "operator submitted_at must be zoned RFC3339"

abbrev ExecuteOperatorTool : Type := Checked ExecuteOperatorToolFields.post_init

/-! ### Actions -/

/-- What an action asks for. -/
inductive ActionBody where
  | submit_message (run_id message : String)
  | resolve_approval (a : ResolveApproval)
  | resolve_unknown_tool_outcome (request_id binding_digest : String)
      (resolution : RecoveryResolution)
  | recover_unknown_observation (a : RecoverUnknownObservation)
  | abandon_unknown_model_outcome (a : AbandonUnknownModelOutcome)
  | resume
  | cancel_run
  | acknowledge_provider_disclosure (a : AcknowledgeProviderDisclosure)
  | grant_provider_consent (a : GrantProviderConsent)
  | grant_provider_workspace_read_consent (a : GrantProviderWorkspaceReadConsent)
  | revoke_provider_consent
  | select_goal (goal_id : String)
  | pause_goal (a : GoalAction)
  | resume_goal (a : GoalAction)
  | cancel_goal (a : GoalAction)
  | confirm_criterion (a : ConfirmCriterion)
  | revoke_process_authority (lease_id : Option String)
  | revoke_goal_target_authority
  | complete_browser_takeover (a : CompleteBrowserTakeover)
  | cancel_browser_takeover (a : CancelBrowserTakeover)
  | execute_operator_tool (a : ExecuteOperatorTool)
  deriving DecidableEq

/-- An action in its envelope. -/
structure RuntimeAction where
  conversation_id : String
  action_seq : Int
  expected_revision : Int
  body : ActionBody
  deriving DecidableEq

namespace ActionBody

/-- `type(action).__name__`. -/
def type_name : ActionBody → String
  | .submit_message ..                       => "SubmitMessage"
  | .resolve_approval ..                     => "ResolveApproval"
  | .resolve_unknown_tool_outcome ..         => "ResolveUnknownToolOutcome"
  | .recover_unknown_observation ..          => "RecoverUnknownObservation"
  | .abandon_unknown_model_outcome ..        => "AbandonUnknownModelOutcome"
  | .resume                                  => "Resume"
  | .cancel_run                              => "CancelRun"
  | .acknowledge_provider_disclosure ..      => "AcknowledgeProviderDisclosure"
  | .grant_provider_consent ..               => "GrantProviderConsent"
  | .grant_provider_workspace_read_consent _ => "GrantProviderWorkspaceReadConsent"
  | .revoke_provider_consent                 => "RevokeProviderConsent"
  | .select_goal ..                          => "SelectGoal"
  | .pause_goal ..                           => "PauseGoal"
  | .resume_goal ..                          => "ResumeGoal"
  | .cancel_goal ..                          => "CancelGoal"
  | .confirm_criterion ..                    => "ConfirmCriterion"
  | .revoke_process_authority ..             => "RevokeProcessAuthority"
  | .revoke_goal_target_authority            => "RevokeGoalTargetAuthority"
  | .complete_browser_takeover ..            => "CompleteBrowserTakeover"
  | .cancel_browser_takeover ..              => "CancelBrowserTakeover"
  | .execute_operator_tool ..                => "ExecuteOperatorTool"

def goal_members (a : GoalAction) : List (String × Json) := [
  ("goal_id", .str a.val.goal_id), ("goal_revision", .int a.val.goal_revision)]

def consent_members (a : GrantConsentFields) : List (String × Json) := [
  ("request_digest", .str a.request_digest), ("scope_digest", .str a.scope_digest)]

/-- The members of `asdict(action)` besides the envelope. -/
def members : ActionBody → List (String × Json)
  | .submit_message run_id message => [("run_id", .str run_id), ("message", .str message)]
  | .resolve_approval a => [
      ("request_id", .str a.val.request_id),
      ("binding_digest", .str a.val.binding_digest),
      ("approved", .bool a.val.approved),
      ("approved_at", .opt_str a.val.approved_at),
      ("confirmed_artifact_path", .opt_str a.val.confirmed_artifact_path),
      ("confirmed_artifact_sha256", .opt_str a.val.confirmed_artifact_sha256),
      ("defer_artifact_confirmation", .bool a.val.defer_artifact_confirmation),
      ("authorize_goal_target", .bool a.val.authorize_goal_target),
      ("authorize_goal_directory", .bool a.val.authorize_goal_directory),
      ("authorize_obligation_rebind", .bool a.val.authorize_obligation_rebind)]
  | .resolve_unknown_tool_outcome request_id binding_digest resolution => [
      ("request_id", .str request_id), ("binding_digest", .str binding_digest),
      ("resolution", .str resolution.value)]
  | .recover_unknown_observation a => [
      ("tool_call_id", .str a.val.tool_call_id), ("intent_digest", .str a.val.intent_digest)]
  | .abandon_unknown_model_outcome a => [
      ("occurrence_id", .str a.val.occurrence_id),
      ("background_binding_digest", .str a.val.background_binding_digest),
      ("provider_call_intent_digest", .str a.val.provider_call_intent_digest)]
  | .resume | .cancel_run | .revoke_provider_consent | .revoke_goal_target_authority => []
  | .acknowledge_provider_disclosure a => [
      ("request_digest", .str a.val.request_digest),
      ("acknowledged_at", .str a.val.acknowledged_at)]
  | .grant_provider_consent a => consent_members a.val
  | .grant_provider_workspace_read_consent a => consent_members a.val
  | .select_goal goal_id => [("goal_id", .str goal_id)]
  | .pause_goal a => goal_members a
  | .resume_goal a => goal_members a
  | .cancel_goal a => goal_members a
  | .confirm_criterion a => [
      ("goal_id", .str a.val.goal_id),
      ("goal_revision", .int a.val.goal_revision),
      ("criterion_id", .str a.val.criterion_id),
      ("admission_binding_digest", .str a.val.admission_binding_digest),
      ("confirmed", .bool a.val.confirmed)]
  | .revoke_process_authority lease_id => [("lease_id", .opt_str lease_id)]
  | .complete_browser_takeover a => [
      ("request_id", .str a.val.request_id),
      ("session_ref", .str a.val.session_ref),
      ("expected_profile_revision", .int a.val.expected_profile_revision)]
  | .cancel_browser_takeover a => [("request_id", .str a.val.request_id)]
  | .execute_operator_tool a => [
      ("action_id", .str a.val.action_id),
      ("tool_name", .str a.val.tool_name),
      ("arguments", .dict a.val.arguments),
      ("submitted_at", .str a.val.submitted_at)]

end ActionBody

/-- `canonical_action_digest`. -/
def canonical_action_digest (action : RuntimeAction) : String :=
  canonical_json_digest <| .dict <| JsonDict.of [
    ("type", .str action.body.type_name),
    ("payload", .dict <| JsonDict.of <| [
      ("conversation_id", .str action.conversation_id),
      ("action_seq", .int action.action_seq),
      ("expected_revision", .int action.expected_revision)] ++ action.body.members)]

/-! ### Transitions -/

/-- How an action was answered. -/
structure ActionTransition where
  disposition : ActionDisposition
  state : ConversationState
  reason : Option String := none
  recorded_result : Option RecordedRunResult := none
  deriving DecidableEq
