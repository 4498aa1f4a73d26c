import FirstAgent.Contracts.Actions
import FirstAgent.State.Goals

/-! # Minting and Releasing Authority

    What an approved request leaves in the state: a goal authorization, or a
    process, browser or sandbox lease; and the browser takeover, which suspends
    the browser leases while a human is at the keyboard. -/

open Fallible

/-! ### Goal target authorizations -/

/-- `text.split("/")`. -/
def path_parts (path : String) : List String := PyText.split path '/'

/-- The directory target lies strictly above the path. -/
def is_directory_of (goal_target target : String) : Bool :=
  let target_parts := path_parts target
  let goal_parts := path_parts goal_target
  goal_parts.length < target_parts.length && safe_goal_authorization_target target &&
    safe_goal_authorization_target goal_target && (target_parts ++ goal_parts).all plain_part &&
    goal_parts.isPrefixOf target_parts

/-- `max(candidates, key=…)`: of two equally deep paths the first one wins. -/
def deepest_path : List String → Option String
  | []            => none
  | path :: paths => some <| paths.foldl (fun best p =>
      if (path_parts best).length < (path_parts p).length then p else best) path

/-- `_goal_target_authorization_scope`. -/
def goal_target_authorization_scope (s : ConversationState) (pending : ApprovalRequest)
    (active : ActiveRun) (directory : Bool) : Option String := do
  let goal ← s.val.goal
  let call ← active.val.current_call
  let tool_name ← pending.val.tool_name
  let target ← (call.val.arguments.get "path").str?
  if (tool_name = "write_file" ∨ tool_name = "edit_file") ∧ call.val.name = tool_name
      ∧ pending.val.side_effect = some SideEffectClass.write.value
      ∧ (pending.val.egress = none ∨ pending.val.egress = some EgressClass.none.value) then
    if directory then
      deepest_path (goal.val.targets.filter fun t => is_directory_of t target)
    else if safe_goal_authorization_target target ∧ (target ∈ goal.val.targets
        -- a criterion of the exact file was admitted from an earlier approval
        ∨ goal.val.admitted_criteria.any fun c =>
          c.val.oracle_kind = .filesystem_digest && c.val.predicate.get "path" = .str target) then
      some target
    else none
  else none

/-! ### Times -/

/-- `datetime.fromisoformat(timestamp.replace("Z", "+00:00"))`. -/
def parse_rfc3339 (timestamp : String) : Py PyDateTime :=
  Py.expect_value (PyDateTime.fromisoformat (PyText.replace timestamp "Z" "+00:00"))
    ("Invalid isoformat string: '" ++ PyText.replace timestamp "Z" "+00:00" ++ "'")

/-- `_add_minutes_rfc3339`. -/
def add_minutes_rfc3339 (timestamp : String) (minutes : Nat) : Py String := do
  let parsed ← parse_rfc3339 timestamp
  let later ← PyDateTime.add_minutes { parsed with offset := some (parsed.offset.getD 0) } minutes
  pure (PyText.replace later.isoformat "+00:00" "Z")

/-- `_require_zoned_rfc3339`. -/
def require_zoned_rfc3339 (timestamp : String) : Py String := do
  let parsed ← parse_rfc3339 timestamp
  Py.refuse_value (parsed.offset = none) "approved_at must be a zoned RFC3339 timestamp"
  pure timestamp

/-! ### Leases -/

/-- `_mint_process_authority_lease`. -/
def mint_process_authority_lease (s : ConversationState) (pending : ApprovalRequest)
    (approved_at : Option String) : Py ConversationState :=
  match pending.val.process_authority_candidate with
  | none           => pure s
  | some candidate => do
    let approved_at ← Py.expect_value approved_at "approved_at is required for process approval"
    let lease_issued_at ← require_zoned_rfc3339 approved_at
    let expires_at ← add_minutes_rfc3339 lease_issued_at candidate.val.expiry_minutes.toNat
    let lease ← ProcessAuthorityLeaseV1.create {
      lease_id :=
        "process-lease:" ++ pending.val.request_id ++ ":" ++ candidate.val.candidate_id
      candidate_digest := candidate.val.candidate_digest
      goal_id := candidate.val.goal_id
      goal_revision := candidate.val.goal_revision
      workspace_identity_digest := candidate.val.workspace_identity_digest
      command_fingerprint := candidate.val.command_fingerprint
      readable_command := candidate.val.readable_command
      executable_digest := candidate.val.executable_digest
      argv_digest := candidate.val.argv_digest
      cwd_digest := candidate.val.cwd_digest
      resource_profile := candidate.val.resource_profile
      environment_policy_digest := candidate.val.environment_policy_digest
      execution_authority := candidate.val.execution_authority
      approved_request_identity := pending.val.request_id
      issued_at := lease_issued_at
      expires_at := expires_at
      max_uses := candidate.val.max_uses
      uses_consumed := 0 }
    Checked.make { s.val with process_leases := s.val.process_leases ++ [lease] }

/-- `_mint_browser_authority_lease`: the candidate is not compared with the
    current Goal. -/
def mint_browser_authority_lease (s : ConversationState) (pending : ApprovalRequest)
    (approved_at : Option String) : Py ConversationState :=
  match pending.val.browser_action_candidate with
  | none           => pure s
  | some candidate => do
    let approved_at ← Py.expect_value approved_at "approved_at is required for browser approval"
    let approved_at ← require_zoned_rfc3339 approved_at
    let lease ← BrowserAuthorityLeaseV1.create {
      lease_id := "browser-lease:" ++ candidate.val.candidate_id
      candidate_digest := candidate.val.candidate_digest
      goal_id := candidate.val.goal_id
      goal_revision := candidate.val.goal_revision
      session_ref := candidate.val.session_ref
      browser_identity_digest := candidate.val.browser_identity_digest
      profile_ref := candidate.val.profile_ref
      profile_revision := candidate.val.profile_revision
      allowed_origins := candidate.val.allowed_origins
      mode := candidate.val.mode
      page_id := candidate.val.page_id
      frame_id := candidate.val.frame_id
      observation_digest := candidate.val.observation_digest
      action_digest := candidate.val.action_digest
      consequence := candidate.val.consequence
      approved_request_identity := pending.val.request_id
      issued_at := approved_at
      expires_at := candidate.val.expires_at }
    Checked.make { s.val with browser_leases := s.val.browser_leases ++ [lease] }

/-- `_mint_sandbox_authority_lease`. -/
def mint_sandbox_authority_lease (s : ConversationState) (pending : ApprovalRequest)
    (approved_at : Option String) : Py ConversationState :=
  match pending.val.sandbox_authority_candidate with
  | none           => pure s
  | some candidate => do
    let approved_at ← Py.expect_value approved_at "approved_at is required for sandbox approval"
    let lease_issued_at ← require_zoned_rfc3339 approved_at
    let expires_at ← add_minutes_rfc3339 lease_issued_at SANDBOX_EXPIRY_MINUTES
    let lease ← SandboxAuthorityLeaseV1.create {
      lease_id := "sandbox-lease:" ++ pending.val.request_id
      candidate_digest := candidate.val.candidate_digest
      goal_id := candidate.val.goal_id
      goal_revision := candidate.val.goal_revision
      workspace_identity_digest := candidate.val.workspace_identity_digest
      original_command_fingerprint := candidate.val.original_command_fingerprint
      policy_digest := candidate.val.policy_digest
      mode := candidate.val.mode
      network := candidate.val.network
      readable_command := candidate.val.readable_command
      trust_notice_id := candidate.val.trust_notice_id
      trust_notice_digest := candidate.val.trust_notice_digest
      approved_request_identity := pending.val.request_id
      issued_at := lease_issued_at
      expires_at := expires_at }
    Checked.make { s.val with sandbox_leases := s.val.sandbox_leases ++ [lease] }

/-- The same operation on the same target with the same scope. -/
def GoalAuthorizationBinding.same_target (a b : GoalAuthorizationBinding) : Bool :=
  a.val.operation = b.val.operation && a.val.normalized_target = b.val.normalized_target &&
    a.val.scope = b.val.scope

/-- `_mint_goal_target_authorization`. -/
def mint_goal_target_authorization (s : ConversationState) (pending : ApprovalRequest)
    (action : ResolveApproval) (action_digest : String) (active : ActiveRun) :
    Py ConversationState :=
  if action.val.authorize_goal_target ∨ action.val.authorize_goal_directory then do
    let directory := action.val.authorize_goal_directory
    let needs := "goal authorization requires a current Goal file or directory target"
    let authorized_target ← Py.expect_value
      (goal_target_authorization_scope s pending active directory) needs
    let goal ← Py.expect_value s.val.goal needs
    let tool_name ← Py.expect_value pending.val.tool_name needs
    let approved_at ← Py.expect_value action.val.approved_at
      "approved_at is required for goal target authorization"
    let issued_at ← require_zoned_rfc3339 approved_at
    let expires_at ← add_minutes_rfc3339 issued_at GOAL_TARGET_AUTHORIZATION_EXPIRY_MINUTES
    let binding ← GoalAuthorizationBinding.create {
      binding_id := "goal-target-authority:" ++ pending.val.request_id
      goal_id := goal.val.goal_id
      goal_revision := goal.val.revision
      workspace_identity_digest := goal.val.workspace_identity_digest
      operation := tool_name
      normalized_target := authorized_target
      scope := if directory then .directory else .exact_file
      source_kind := .human_approval
      source_id := pending.val.request_id
      source_digest := action_digest
      issued_at := issued_at
      expires_at := expires_at }
    Checked.make { s.val with
      goal_authorizations :=
        (s.val.goal_authorizations.filter fun b => !b.same_target binding) ++ [binding] }
  else pure s

/-! ### Browser takeover -/

def begin_browser_takeover (s : ConversationState) (request : BrowserTakeoverRequestV1) :
    Py ConversationState := do
  Py.refuse_value (s.val.browser_takeover_pending ≠ none) "browser takeover already pending"
  let goal ← Py.expect_value s.val.goal "browser takeover goal identity mismatch"
  Py.refuse_value
    (goal.val.goal_id ≠ request.val.goal_id ∨ goal.val.revision ≠ request.val.goal_revision)
    "browser takeover goal identity mismatch"
  let active ← (match s.val.active_run with
    | none        => pure none
    | some active => do
      pure (some (← Checked.make { active.val with owner_invocation_id := none })))
  Checked.make { s.val with
    revision := s.val.revision + 1
    browser_leases := []
    browser_takeover_pending := some request
    active_run := active }

/-- The takeover is over; a fresh observation is required. -/
structure BrowserTakeoverCompletion where
  expected_profile_revision : Int
  requires_observe : Bool
  deriving Repr, DecidableEq

def complete_browser_takeover (s : ConversationState) (action : CompleteBrowserTakeover) :
    Py (ConversationState × BrowserTakeoverCompletion) := do
  let pending ← Py.expect_value s.val.browser_takeover_pending
    "browser takeover is not pending"
  Py.refuse_value
    (action.val.request_id ≠ pending.val.request_id
      ∨ action.val.session_ref ≠ pending.val.session_ref
      ∨ action.val.expected_profile_revision ≠ pending.val.profile_revision)
    "browser takeover identity mismatch"
  let cleared ← Checked.make { s.val with
    revision := s.val.revision + 1
    browser_takeover_pending := none }
  pure (cleared, ⟨pending.val.profile_revision + 1, true⟩)

def cancel_browser_takeover (s : ConversationState) (request_id : String) :
    Py ConversationState := do
  let pending ← Py.expect_value s.val.browser_takeover_pending
    "browser takeover is not pending"
  Py.refuse_value (pending.val.request_id ≠ request_id) "browser takeover is not pending"
  Checked.make { s.val with
    revision := s.val.revision + 1
    browser_takeover_pending := none }

/-! ### What the transitions leave -/

section Effects

variable {s s' : ConversationState} {pending : ApprovalRequest}

theorem mint_process_authority_lease_ok {approved_at : Option String}
    (h : mint_process_authority_lease s pending approved_at = .ok s') :
    ∃ leases, s'.val = { s.val with process_leases := leases } := by
  unfold mint_process_authority_lease at h
  split at h
  · obtain rfl := pure_eq_ok.mp h
    exact ⟨_, rfl⟩
  · simp only [bind_eq_ok, Checked.make_eq_ok] at h
    obtain ⟨_, _, _, _, _, _, _, _, h⟩ := h
    exact ⟨_, h⟩

theorem mint_sandbox_authority_lease_ok {approved_at : Option String}
    (h : mint_sandbox_authority_lease s pending approved_at = .ok s') :
    ∃ leases, s'.val = { s.val with sandbox_leases := leases } := by
  unfold mint_sandbox_authority_lease at h
  split at h
  · obtain rfl := pure_eq_ok.mp h
    exact ⟨_, rfl⟩
  · simp only [bind_eq_ok, Checked.make_eq_ok] at h
    obtain ⟨_, _, _, _, _, _, _, _, h⟩ := h
    exact ⟨_, h⟩

/-- A browser lease binds what its candidate binds. -/
theorem mint_browser_authority_lease_ok {approved_at : Option String}
    (h : mint_browser_authority_lease s pending approved_at = .ok s') :
    (pending.val.browser_action_candidate = none ∧ s' = s) ∨
    ∃ candidate lease, pending.val.browser_action_candidate = some candidate ∧
      lease.val.goal_id = candidate.val.goal_id ∧
      lease.val.goal_revision = candidate.val.goal_revision ∧
      s'.val = { s.val with browser_leases := s.val.browser_leases ++ [lease] } := by
  unfold mint_browser_authority_lease at h
  split at h
  · next hnone => exact .inl ⟨hnone, (pure_eq_ok.mp h).symm⟩
  · next candidate hcandidate =>
    simp only [BrowserAuthorityLeaseV1.create, bind_eq_ok, Checked.make_eq_ok] at h
    obtain ⟨_, _, _, _, lease, hlease, h⟩ := h
    exact .inr ⟨candidate, lease, hcandidate, by rw [hlease], by rw [hlease], h⟩

theorem mint_goal_target_authorization_ok {action : ResolveApproval} {digest : String}
    {active : ActiveRun} (h : mint_goal_target_authorization s pending action digest active = .ok s') :
    ∃ authorizations, s'.val = { s.val with goal_authorizations := authorizations } := by
  simp only [mint_goal_target_authorization, ite_eq_ok, pure_eq_ok, bind_eq_ok,
    Checked.make_eq_ok] at h
  rcases h with ⟨_, _, _, _, _, _, _, _, _, _, _, _, _, _, _, h⟩ | ⟨_, rfl⟩
  · exact ⟨_, h⟩
  · exact ⟨_, rfl⟩

theorem begin_browser_takeover_ok {request : BrowserTakeoverRequestV1}
    (h : begin_browser_takeover s request = .ok s') :
    ∃ goal active', s.val.goal = some goal ∧ goal.val.goal_id = request.val.goal_id ∧
      goal.val.revision = request.val.goal_revision ∧
      ((s.val.active_run = none ∧ active' = none) ∨ ∃ active a, s.val.active_run = some active ∧
        active' = some a ∧ a.val = { active.val with owner_invocation_id := none }) ∧
      s'.val = { s.val with
        revision := s.val.revision + 1
        browser_leases := []
        browser_takeover_pending := some request
        active_run := active' } := by
  simp only [begin_browser_takeover, bind_eq_ok, Py.expect_value_eq_ok, Py.refuse_value_eq_ok,
    Checked.make_eq_ok] at h
  obtain ⟨_, _, goal, hgoal, _, hbinds, active', hactive', h⟩ := h
  push Not at hbinds
  refine ⟨goal, active', hgoal, hbinds.1, hbinds.2, ?_, h⟩
  split at hactive'
  · next hnone =>
    obtain rfl := pure_eq_ok.mp hactive'
    exact .inl ⟨hnone, rfl⟩
  · next active hactive =>
    simp only [bind_eq_ok, pure_eq_ok, Checked.make_eq_ok] at hactive'
    obtain ⟨a, ha, rfl⟩ := hactive'
    exact .inr ⟨active, a, hactive, rfl, ha⟩

theorem complete_browser_takeover_ok {action : CompleteBrowserTakeover}
    {r : ConversationState × BrowserTakeoverCompletion}
    (h : complete_browser_takeover s action = .ok r) :
    r.1.val = { s.val with
      revision := s.val.revision + 1
      browser_takeover_pending := none } := by
  simp only [complete_browser_takeover, bind_eq_ok, pure_eq_ok, Checked.make_eq_ok] at h
  obtain ⟨_, _, _, _, cleared, hcleared, rfl⟩ := h
  exact hcleared

theorem cancel_browser_takeover_ok {request_id : String}
    (h : cancel_browser_takeover s request_id = .ok s') :
    s'.val = { s.val with
      revision := s.val.revision + 1
      browser_takeover_pending := none } := by
  simp only [cancel_browser_takeover, bind_eq_ok, Checked.make_eq_ok] at h
  obtain ⟨_, _, _, _, h⟩ := h
  exact h

end Effects
