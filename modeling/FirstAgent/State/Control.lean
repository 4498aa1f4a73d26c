import FirstAgent.Contracts.Actions
import FirstAgent.State.Goals

/-! # Goal Control, Disclosure and Consent

    Pausing, resuming and cancelling a Goal, the control requests an
    invocation polls, and the pause a provider disclosure needs.  Whatever
    drops the active run first answers the calls of its batch that have not
    started, in the same step. -/

open Fallible

/-! ### Answering unstarted calls -/

/-- `_superseded_tool_result_fact`. -/
def superseded_tool_result_fact (fact_id call_id text : String)
    (invocation_origin : Option String) : Py ConversationFact :=
  Checked.make {
    fact_id := fact_id
    kind := .tool_result
    content := JsonDict.of ([
      ("tool_call_id", .str call_id),
      ("text", .str text),
      ("is_error", .bool true),
      ("executed", .bool false),
      ("superseded", .bool true)] ++
      if invocation_origin = some InvocationOrigin.operator.value then
        [("invocation_origin", .opt_str invocation_origin)] else []) }

/-- One superseded result per call; `reserved` are the fact ids in use. -/
def superseded_facts (active : ActiveRun) (revision : Int) (text : String) :
    (reserved : List String) → List ToolCall → Py (List ConversationFact)
  | _, []                => pure []
  | reserved, c :: calls => do
    let base := "run:" ++ active.val.run_id ++ ":superseded-tool:" ++ c.val.tool_call_id
    let fact_id := if base ∈ reserved then base ++ ":" ++ toString revision else base
    let fact ← superseded_tool_result_fact fact_id c.val.tool_call_id text
      (some active.val.invocation_origin.value)
    let rest ← superseded_facts active revision text (fact_id :: reserved) calls
    pure (fact :: rest)

/-- The calls of the run's batch that have not started; in the TOOL phase the
    cursor points at the first of them. -/
def unstarted_calls (s : ConversationState) (already_accounted : Nat) : List ToolCall :=
  match s.val.active_run with
  | none        => []
  | some active =>
    if active.val.phase = .tool then
      active.val.tool_calls.drop (active.val.batch_cursor + already_accounted)
    else []

/-- `_unstarted_batch_suffix_facts`. -/
def unstarted_batch_suffix_facts (s : ConversationState) (text : String)
    (already_accounted : Nat := 0) : Py (List ConversationFact) :=
  match s.val.active_run with
  | none        => pure []
  | some active =>
    superseded_facts active s.val.revision text s.val.fact_ids
      (unstarted_calls s already_accounted)

/-- A superseded result answers its call. -/
theorem superseded_tool_result_fact_ok {fact_id call_id text : String} {origin : Option String}
    {f : ConversationFact} (h : superseded_tool_result_fact fact_id call_id text origin = .ok f) :
    f.result_call_id = some call_id := by
  have hf := Checked.make_eq_ok.mp h
  rw [ConversationFact.result_call_id_eq_some, hf]
  refine ⟨rfl, ?_⟩
  dsimp only
  split <;> simp [Json.has_key]

theorem superseded_facts_ok {active : ActiveRun} {revision : Int} {text : String}
    {reserved : List String} {calls : List ToolCall} {fs : List ConversationFact}
    (h : superseded_facts active revision text reserved calls = .ok fs) :
    fs.map ConversationFact.result_call_id = calls.map fun c => some c.val.tool_call_id := by
  induction calls generalizing reserved fs with
  | nil =>
    obtain rfl := pure_eq_ok.mp h
    rfl
  | cons c calls ih =>
    simp only [superseded_facts, bind_eq_ok, pure_eq_ok] at h
    obtain ⟨f, hf, rest, hrest, rfl⟩ := h
    simp only [List.map_cons, superseded_tool_result_fact_ok hf, ih hrest]

/-- The suffix facts answer the unstarted calls, each once and in order. -/
theorem unstarted_batch_suffix_facts_ok {s : ConversationState} {text : String} {n : Nat}
    {fs : List ConversationFact} (h : unstarted_batch_suffix_facts s text n = .ok fs) :
    fs.map ConversationFact.result_call_id =
      (unstarted_calls s n).map fun c => some c.val.tool_call_id := by
  unfold unstarted_batch_suffix_facts at h
  split at h
  · next hnone =>
    obtain rfl := pure_eq_ok.mp h
    simp [unstarted_calls, hnone]
  · exact superseded_facts_ok h

/-- `_stop_safe_active_run`: the result a dropped run leaves. -/
def stop_safe_active_run (s : ConversationState) (status : RunStatus) (message : String) :
    Option RecordedRunResult :=
  match s.val.active_run with
  | none        => s.val.last_safe_result
  | some active => some {
      status := status, run_id := some active.val.run_id, message := some message }

/-! ### Pausing, resuming and cancelling a Goal -/

def pause_goal (s : ConversationState) (goal_id : String) (expected_revision : Int) :
    Py ConversationState := do
  let goal ← require_goal_revision s goal_id expected_revision
  Py.refuse_value (has_unknown_effect s) "unknown effect recovery has priority over goal pause"
  Py.refuse_value (goal.val.status.is_terminal) "terminal goal cannot be paused"
  Py.refuse_value (goal.val.status = .paused) "goal is already paused"
  let closed_suffix ← unstarted_batch_suffix_facts s
    "Tool call was not executed because the Goal was paused before this call started."
  let goal ← Checked.make { goal.val with status := .paused }
  Checked.make { s.val with
    revision := s.val.revision + 1
    facts := s.val.facts ++ closed_suffix
    goal := some goal
    active_run := none
    last_safe_result := stop_safe_active_run s .completed "goal paused at a safe boundary"
    goal_authorizations := []
    process_leases := []
    sandbox_leases := []
    browser_leases := []
    browser_takeover_pending := none }

def resume_goal (s : ConversationState) (goal_id : String) (expected_revision : Int) :
    Py ConversationState := do
  let goal ← require_goal_revision s goal_id expected_revision
  Py.refuse_value (goal.val.status ≠ .paused ∧ goal.val.status ≠ .blocked)
    "only a paused or blocked goal can resume"
  Py.refuse_value (s.val.active_run ≠ none) "paused goal cannot resume over an active run"
  let goal ← Checked.make { goal.val with status := .goal_ready }
  Checked.make { s.val with revision := s.val.revision + 1, goal := some goal }

def cancel_goal (s : ConversationState) (goal_id : String) (expected_revision : Int) :
    Py ConversationState := do
  let goal ← require_goal_revision s goal_id expected_revision
  Py.refuse_value (has_unknown_effect s)
    "unknown effect recovery has priority over goal cancellation"
  Py.refuse_value (goal.val.status = .verified_done) "verified goal cannot be cancelled"
  Py.refuse_value (goal.val.status = .cancelled) "goal is already cancelled"
  let closed_suffix ← unstarted_batch_suffix_facts s
    "Tool call was not executed because the Goal was cancelled before this call started."
  let goal ← Checked.make { goal.val with status := .cancelled, next_step := none }
  -- a pending browser takeover is left in place
  Checked.make { s.val with
    revision := s.val.revision + 1
    facts := s.val.facts ++ closed_suffix
    goal := some goal
    completion_claim := none
    active_run := none
    last_safe_result := stop_safe_active_run s .cancelled "goal cancelled at a safe boundary"
    goal_authorizations := []
    process_leases := []
    sandbox_leases := []
    browser_leases := [] }

/-! ### Control requests -/

structure ControlInboxRequestFields where
  request_id : String
  kind : ControlRequestKind
  conversation_id : String
  goal_id : String
  goal_revision : Int
  invocation_id : String
  message : Option String := none
  deriving Repr, DecidableEq

def ControlInboxRequestFields.post_init (r : ControlInboxRequestFields) : Py Unit := do
  Py.refuse_value (Py.any_empty [r.request_id, r.conversation_id, r.goal_id, r.invocation_id])
    "control request identity must not be empty"
  Py.refuse_value (r.goal_revision < 1) "control request goal revision must be positive"
  if r.kind = .correct then
    Py.refuse_value (r.message.all PyText.is_blank)
      "goal correction must contain the user's message"
  else
    Py.refuse_value (r.message ≠ none) "only a goal correction may carry a message"

abbrev ControlInboxRequest : Type := Checked ControlInboxRequestFields.post_init

def ControlInboxRequest.payload_digest (r : ControlInboxRequest) : String :=
  canonical_json_digest <| .dict <| JsonDict.of [
    ("request_id", .str r.val.request_id),
    ("kind", .str r.val.kind.value),
    ("conversation_id", .str r.val.conversation_id),
    ("goal_id", .str r.val.goal_id),
    ("goal_revision", .int r.val.goal_revision),
    ("invocation_id", .str r.val.invocation_id),
    ("message", .opt_str r.val.message)]

/-- The correction branch of `apply_control_request`: no check looks at the
    status of the Goal it corrects. -/
def correct_goal (s : ConversationState) (request : ControlInboxRequest) (goal : GoalFrame)
    (active : ActiveRun) : Py ConversationState := do
  let message ← Py.expect_value request.val.message "goal correction message is required"
  let correction ← Checked.make {
    fact_id := "control:" ++ request.val.request_id ++ ":user"
    kind := .user_message
    content := JsonDict.of [("text", .str message), ("control", .str "goal_correction")] }
  let closed_suffix ← unstarted_batch_suffix_facts s
    "Tool call was not executed because the Goal was corrected before this call started."
  let goal ← Checked.make { goal.val with
    revision := goal.val.revision + 1
    status := .needs_authority
    progress_summary := none
    next_step := some "Review and admit the user's correction before another effect." }
  Checked.make { s.val with
    revision := s.val.revision + 1
    facts := s.val.facts ++ closed_suffix ++ [correction]
    goal := some goal
    goal_authorizations := []
    evidence_records := []
    completion_claim := none
    interaction_state := .clarifying
    active_run := none
    process_leases := []
    sandbox_leases := []
    browser_leases := []
    last_safe_result := some {
      status := .completed
      run_id := some active.val.run_id
      message := some "goal correction recorded at a safe boundary" } }

def apply_control_request (s : ConversationState) (request : ControlInboxRequest) :
    Py ConversationState := do
  let goal ← require_goal_revision s request.val.goal_id request.val.goal_revision
  let unbound := "control request does not bind the active invocation"
  Py.refuse_value (request.val.conversation_id ≠ s.val.conversation_id) unbound
  let active ← Py.expect_value s.val.active_run unbound
  Py.refuse_value (active.val.owner_invocation_id ≠ some request.val.invocation_id) unbound
  Py.refuse_value (has_unknown_effect s) "unknown effect recovery has priority over goal control"
  Py.refuse_value
    (s.val.control_receipts.any fun r => r.val.correlation_id = request.val.request_id)
    "control request was already accepted"
  let updated ← (match request.val.kind with
    | .pause   => pause_goal s request.val.goal_id request.val.goal_revision
    | .cancel  => cancel_goal s request.val.goal_id request.val.goal_revision
    | .correct => correct_goal s request goal active)
  let receipt ← ControlReceipt.create {
    correlation_id := request.val.request_id
    control_kind := "goal_" ++ request.val.kind.value
    goal_id := some request.val.goal_id
    goal_revision := some request.val.goal_revision
    accepted_state_revision := updated.val.revision
    payload_digest := request.payload_digest }
  Checked.make { updated.val with control_receipts := updated.val.control_receipts ++ [receipt] }

/-! ### Provider disclosure -/

/-- `replace(goal, status=…)` under a condition on the current status. -/
def set_goal_status (status : GoalStatus) (when_ : GoalStatus → Bool) :
    Option GoalFrame → Py (Option GoalFrame)
  | none      => pure none
  | some goal =>
    if when_ goal.val.status then do
      pure (some (← Checked.make { goal.val with status := status }))
    else pure (some goal)

def pause_for_provider_disclosure (s : ConversationState) (request : DisclosureRequest) :
    Py ConversationState := do
  let active ← Py.expect_value s.val.active_run
    "provider disclosure must pause before a model send"
  Py.refuse_value (active.val.phase ≠ .model) "provider disclosure must pause before a model send"
  Py.refuse_value (has_unknown_effect s) "unknown effect recovery has priority over disclosure"
  let goal ← set_goal_status .needs_authority (fun status => !status.is_terminal) s.val.goal
  let active ← Checked.make { active.val with
    status := .awaiting_disclosure
    owner_invocation_id := none }
  Checked.make { s.val with
    revision := s.val.revision + 1
    goal := goal
    provider_disclosure_request := some request
    provider_disclosure_receipt := none
    active_run := some active }

/-- Is the request of version 2? -/
def DisclosureRequest.is_v2 : DisclosureRequest → Bool
  | .v1 _ => false
  | .v2 _ => true

/-- Is the Goal there and ready? -/
def goal_is_ready (goal : Option GoalFrame) : Bool :=
  goal.any fun g => g.val.status = .goal_ready

def acknowledge_provider_disclosure (s : ConversationState) (action_seq : Int)
    (action : AcknowledgeProviderDisclosure) (now : Option String) : Py ConversationState := do
  let mismatch := "provider disclosure acknowledgement does not match"
  let request ← Py.expect_value s.val.provider_disclosure_request mismatch
  Py.refuse_value (request.request_digest ≠ action.val.request_digest) mismatch
  let acknowledged_at :=
    if request.is_v2 then now.getD action.val.acknowledged_at else action.val.acknowledged_at
  let receipt_id := "disclosure-receipt:" ++ toString action_seq
  match s.val.active_run with
  | none => do
    -- the run was stopped by a pause, so the acknowledgement starts a new one
    Py.refuse_value
      (s.val.provider_disclosure_receipt ≠ none ∨ goal_is_ready s.val.goal = false) mismatch
    let receipt ← request.acknowledge receipt_id action_seq acknowledged_at
    let active ← Checked.make { run_id := "resume-" ++ toString action_seq }
    Checked.make { s.val with
      provider_disclosure_receipt := some receipt
      active_run := some active }
  | some active => do
    Py.refuse_value (active.val.status ≠ .awaiting_disclosure) mismatch
    let goal ← set_goal_status .goal_ready (· = .needs_authority) s.val.goal
    let receipt ← request.acknowledge receipt_id action_seq acknowledged_at
    let active ← Checked.make { active.val with status := .runnable }
    Checked.make { s.val with
      goal := goal
      provider_disclosure_receipt := some receipt
      active_run := some active }

/-! ### Consent -/

/-- The Goal and the run a consent continues with. -/
def consent_continuation (s : ConversationState) (action_seq : Int) (mismatch : String) :
    Py (Option GoalFrame × ActiveRun) :=
  match s.val.active_run with
  | none => do
    Py.refuse_value (goal_is_ready s.val.goal = false) mismatch
    let active ← Checked.make { run_id := "resume-" ++ toString action_seq }
    pure (s.val.goal, active)
  | some active => do
    Py.refuse_value (active.val.status ≠ .awaiting_disclosure) mismatch
    let goal ← set_goal_status .goal_ready (· = .needs_authority) s.val.goal
    let active ← Checked.make { active.val with status := .runnable }
    pure (goal, active)

/-- The pending request of version 2 an action names. -/
def pending_v2_request (s : ConversationState) (a : GrantConsentFields) (mismatch : String) :
    Py ProviderDisclosureRequestV2 := do
  let request ← Py.expect_value (match s.val.provider_disclosure_request with
    | some (.v2 r) => some r
    | _            => none) mismatch
  Py.refuse_value
    (request.val.request_digest ≠ a.request_digest ∨ request.val.scope_digest ≠ a.scope_digest)
    mismatch
  pure request

/-- Both consent actions, once their own admission test has passed. -/
def install_consent (s : ConversationState) (request : ProviderDisclosureRequestV2)
    (action_seq : Int) (now mismatch profile : String) : Py ConversationState := do
  Py.refuse_value (s.val.provider_disclosure_receipt ≠ none) mismatch
  let continuation ← consent_continuation s action_seq mismatch
  let grant ← mint_provider_consent_grant s.val.conversation_id request action_seq now profile
  Checked.make { s.val with
    goal := continuation.1
    active_run := some continuation.2
    provider_consent_grant := some grant
    provider_disclosure_request := none
    provider_disclosure_receipt := none }

def grant_provider_consent (s : ConversationState) (action_seq : Int)
    (action : GrantProviderConsent) (now : String) : Py ConversationState := do
  let mismatch := "provider consent grant does not match the pending request"
  let request ← pending_v2_request s action.val mismatch
  Py.refuse_value (request.val.grant_eligible = false) mismatch
  install_consent s request action_seq now mismatch CONSENT_PROFILE_ROUTINE

def grant_provider_workspace_read_consent (s : ConversationState) (action_seq : Int)
    (action : GrantProviderWorkspaceReadConsent) (now : String) : Py ConversationState := do
  let mismatch := "provider workspace-read consent grant does not match the pending request"
  let request ← pending_v2_request s action.val mismatch
  Py.refuse_value
    (request.val.grant_eligible
      ∨ workspace_read_classes_covered request.val.data_classes request.val.sources = false)
    mismatch
  install_consent s request action_seq now mismatch
    (workspace_consent_profile request.val.data_classes)

/-- `replace(active, status=RUNNABLE)` when the run awaits a disclosure. -/
def release_disclosure (active : ActiveRun) : Py ActiveRun :=
  if active.val.status = .awaiting_disclosure then
    Checked.make { active.val with status := .runnable }
  else pure active

def revoke_provider_consent (s : ConversationState) : Py ConversationState := do
  let grant ← Py.expect_value s.val.provider_consent_grant "provider consent grant is missing"
  let active ← (match s.val.active_run with
    | none        => pure none
    | some active => do pure (some (← release_disclosure active)))
  let grant ← grant.with_status .revoked
  Checked.make { s.val with
    provider_consent_grant := some grant
    provider_disclosure_request := none
    provider_disclosure_receipt := none
    active_run := active }

/-! ### What the transitions leave -/

section Effects

variable {s s' : ConversationState}

/-- The run is dropped for good: its unstarted calls are answered first. -/
structure ClosesRun (s : ConversationState) (suffix : List ConversationFact) : Prop where
  known : has_unknown_effect s = false
  answered : suffix.map ConversationFact.result_call_id =
    (unstarted_calls s 0).map fun c => some c.val.tool_call_id

theorem pause_goal_ok {goal_id : String} {revision : Int}
    (h : pause_goal s goal_id revision = .ok s') :
    ∃ goal goal' suffix, s.val.goal = some goal ∧ goal.val.status.is_terminal = false ∧
      ClosesRun s suffix ∧ goal'.val = { goal.val with status := .paused } ∧
      s'.val = { s.val with
        revision := s.val.revision + 1
        facts := s.val.facts ++ suffix
        goal := some goal'
        active_run := none
        last_safe_result := stop_safe_active_run s .completed "goal paused at a safe boundary"
        goal_authorizations := []
        process_leases := []
        sandbox_leases := []
        browser_leases := []
        browser_takeover_pending := none } := by
  simp only [pause_goal, bind_eq_ok, require_goal_revision_ok, Py.refuse_value_eq_ok,
    Checked.make_eq_ok] at h
  obtain ⟨goal, ⟨hgoal, _, _⟩, _, hknown, _, hopen, _, _, suffix, hsuffix, goal', hgoal', h⟩ := h
  exact ⟨goal, goal', suffix, hgoal, by simpa using hopen,
    ⟨by simpa using hknown, unstarted_batch_suffix_facts_ok hsuffix⟩, hgoal', h⟩

theorem resume_goal_ok {goal_id : String} {revision : Int}
    (h : resume_goal s goal_id revision = .ok s') :
    ∃ goal goal', s.val.goal = some goal ∧
      (goal.val.status = .paused ∨ goal.val.status = .blocked) ∧
      goal'.val = { goal.val with status := .goal_ready } ∧
      s'.val = { s.val with revision := s.val.revision + 1, goal := some goal' } := by
  simp only [resume_goal, bind_eq_ok, require_goal_revision_ok, Py.refuse_value_eq_ok,
    Checked.make_eq_ok] at h
  obtain ⟨goal, ⟨hgoal, _, _⟩, _, hstatus, _, _, goal', hgoal', h⟩ := h
  exact ⟨goal, goal', hgoal, by tauto, hgoal', h⟩

theorem cancel_goal_ok {goal_id : String} {revision : Int}
    (h : cancel_goal s goal_id revision = .ok s') :
    ∃ goal goal' suffix, s.val.goal = some goal ∧ goal.val.status.is_terminal = false ∧
      ClosesRun s suffix ∧
      goal'.val = { goal.val with status := .cancelled, next_step := none } ∧
      s'.val = { s.val with
        revision := s.val.revision + 1
        facts := s.val.facts ++ suffix
        goal := some goal'
        completion_claim := none
        active_run := none
        last_safe_result := stop_safe_active_run s .cancelled "goal cancelled at a safe boundary"
        goal_authorizations := []
        process_leases := []
        sandbox_leases := []
        browser_leases := [] } := by
  simp only [cancel_goal, bind_eq_ok, require_goal_revision_ok, Py.refuse_value_eq_ok,
    Checked.make_eq_ok] at h
  obtain ⟨goal, ⟨hgoal, _, _⟩, _, hknown, _, hdone, _, hcancelled, suffix, hsuffix, goal', hgoal',
    h⟩ := h
  refine ⟨goal, goal', suffix, hgoal, ?_,
    ⟨by simpa using hknown, unstarted_batch_suffix_facts_ok hsuffix⟩, hgoal', h⟩
  cases hstatus : goal.val.status <;> simp_all [GoalStatus.is_terminal]

/-- A correction opens the next revision of a Goal of any status. -/
theorem correct_goal_ok {request : ControlInboxRequest} {goal : GoalFrame} {active : ActiveRun}
    (h : correct_goal s request goal active = .ok s') :
    ∃ goal' suffix correction result,
      suffix.map ConversationFact.result_call_id =
        ((unstarted_calls s 0).map fun c => some c.val.tool_call_id) ∧
      correction.val.kind = .user_message ∧
      goal'.val = { goal.val with
        revision := goal.val.revision + 1
        status := .needs_authority
        progress_summary := none
        next_step := some "Review and admit the user's correction before another effect." } ∧
      s'.val = { s.val with
        revision := s.val.revision + 1
        facts := s.val.facts ++ suffix ++ [correction]
        goal := some goal'
        goal_authorizations := []
        evidence_records := []
        completion_claim := none
        interaction_state := .clarifying
        active_run := none
        process_leases := []
        sandbox_leases := []
        browser_leases := []
        last_safe_result := result } := by
  simp only [correct_goal, bind_eq_ok, Checked.make_eq_ok] at h
  obtain ⟨_, _, correction, hcorrection, suffix, hsuffix, goal', hgoal', h⟩ := h
  exact ⟨goal', suffix, correction, _, unstarted_batch_suffix_facts_ok hsuffix,
    by rw [hcorrection], hgoal', h⟩

/-- What a control request asks for, done to the state before its receipt. -/
theorem apply_control_request_ok {request : ControlInboxRequest}
    (h : apply_control_request s request = .ok s') :
    ∃ goal active updated receipts, s.val.goal = some goal ∧ s.val.active_run = some active ∧
      has_unknown_effect s = false ∧
      (match request.val.kind with
        | .pause   => pause_goal s request.val.goal_id request.val.goal_revision
        | .cancel  => cancel_goal s request.val.goal_id request.val.goal_revision
        | .correct => correct_goal s request goal active) = .ok updated ∧
      s'.val = { updated.val with control_receipts := receipts } := by
  simp only [apply_control_request, bind_eq_ok, require_goal_revision_ok, Py.refuse_value_eq_ok,
    Py.expect_value_eq_ok, Checked.make_eq_ok] at h
  obtain ⟨goal, ⟨hgoal, _, _⟩, _, _, active, hactive, _, _, _, hknown, _, _, updated, hupdated,
    _, _, h⟩ := h
  exact ⟨goal, active, updated, _, hgoal, hactive, by simpa using hknown, hupdated, h⟩

/-- The status of a Goal changes where the condition holds, and nothing else. -/
theorem set_goal_status_ok {status : GoalStatus} {when_ : GoalStatus → Bool}
    {goal goal' : Option GoalFrame} (h : set_goal_status status when_ goal = .ok goal') :
    goal' = goal ∨ ∃ g g', goal = some g ∧ goal' = some g' ∧ when_ g.val.status = true ∧
      g'.val = { g.val with status := status } := by
  unfold set_goal_status at h
  split at h
  · exact .inl (pure_eq_ok.mp h).symm
  · next g =>
    simp only [ite_eq_ok, bind_eq_ok, pure_eq_ok, Checked.make_eq_ok] at h
    rcases h with ⟨hw, g', hg', rfl⟩ | ⟨_, rfl⟩
    · exact .inr ⟨g, g', rfl, rfl, hw, hg'⟩
    · exact .inl rfl

theorem pause_for_provider_disclosure_ok {request : DisclosureRequest}
    (h : pause_for_provider_disclosure s request = .ok s') :
    ∃ goal active active', s.val.active_run = some active ∧ active.val.phase = .model ∧
      set_goal_status .needs_authority (fun status => !status.is_terminal) s.val.goal = .ok goal ∧
      active'.val = { active.val with
        status := .awaiting_disclosure
        owner_invocation_id := none } ∧
      s'.val = { s.val with
        revision := s.val.revision + 1
        goal := goal
        provider_disclosure_request := some request
        provider_disclosure_receipt := none
        active_run := some active' } := by
  simp only [pause_for_provider_disclosure, bind_eq_ok, Py.refuse_value_eq_ok,
    Py.expect_value_eq_ok, not_not, Checked.make_eq_ok] at h
  obtain ⟨active, hactive, _, hphase, _, _, goal, hgoal, active', hactive', h⟩ := h
  exact ⟨goal, active, active', hactive, hphase, hgoal, hactive', h⟩

/-- A disclosure decision continues an awaiting run, or starts a fresh one
    where the run was stopped. -/
def ContinuesRun (s : ConversationState) (goal : Option GoalFrame) (active' : ActiveRun) : Prop :=
  (s.val.active_run = none ∧ goal = s.val.goal ∧ ∃ run_id, active'.val = { run_id := run_id }) ∨
  ∃ active, s.val.active_run = some active ∧ active.val.status = .awaiting_disclosure ∧
    set_goal_status .goal_ready (· = .needs_authority) s.val.goal = .ok goal ∧
    active'.val = { active.val with status := .runnable }

theorem acknowledge_provider_disclosure_ok {action_seq : Int}
    {action : AcknowledgeProviderDisclosure} {now : Option String}
    (h : acknowledge_provider_disclosure s action_seq action now = .ok s') :
    ∃ goal active' receipt, ContinuesRun s goal active' ∧
      s'.val = { s.val with
        goal := goal
        provider_disclosure_receipt := receipt
        active_run := some active' } := by
  simp only [acknowledge_provider_disclosure, bind_eq_ok] at h
  obtain ⟨_, _, _, _, h⟩ := h
  split at h
  · next hnone =>
    simp only [bind_eq_ok, Checked.make_eq_ok] at h
    obtain ⟨_, _, _, _, active', hactive', h⟩ := h
    exact ⟨s.val.goal, active', _, .inl ⟨hnone, rfl, _, hactive'⟩, h⟩
  · next active hactive =>
    simp only [bind_eq_ok, Py.refuse_value_eq_ok, not_not, Checked.make_eq_ok] at h
    obtain ⟨_, hstatus, goal, hgoal, _, _, active', hactive', h⟩ := h
    exact ⟨goal, active', _, .inr ⟨active, hactive, hstatus, hgoal, hactive'⟩, h⟩

theorem consent_continuation_ok {action_seq : Int} {mismatch : String}
    {c : Option GoalFrame × ActiveRun} (h : consent_continuation s action_seq mismatch = .ok c) :
    ContinuesRun s c.1 c.2 := by
  unfold consent_continuation at h
  split at h
  · next hnone =>
    simp only [bind_eq_ok, Checked.make_eq_ok, pure_eq_ok] at h
    obtain ⟨_, _, active', hactive', rfl⟩ := h
    exact .inl ⟨hnone, rfl, _, hactive'⟩
  · next active hactive =>
    simp only [bind_eq_ok, Py.refuse_value_eq_ok, not_not, Checked.make_eq_ok, pure_eq_ok] at h
    obtain ⟨_, hstatus, goal, hgoal, active', hactive', rfl⟩ := h
    exact .inr ⟨active, hactive, hstatus, hgoal, hactive'⟩

theorem install_consent_ok {request : ProviderDisclosureRequestV2} {action_seq : Int}
    {now mismatch profile : String}
    (h : install_consent s request action_seq now mismatch profile = .ok s') :
    ∃ goal active' grant, ContinuesRun s goal active' ∧
      s'.val = { s.val with
        goal := goal
        active_run := some active'
        provider_consent_grant := grant
        provider_disclosure_request := none
        provider_disclosure_receipt := none } := by
  simp only [install_consent, bind_eq_ok, Checked.make_eq_ok] at h
  obtain ⟨_, _, c, hc, _, _, h⟩ := h
  exact ⟨c.1, c.2, _, consent_continuation_ok hc, h⟩

theorem grant_provider_consent_ok {action_seq : Int} {action : GrantProviderConsent}
    {now : String} (h : grant_provider_consent s action_seq action now = .ok s') :
    ∃ goal active' grant, ContinuesRun s goal active' ∧
      s'.val = { s.val with
        goal := goal
        active_run := some active'
        provider_consent_grant := grant
        provider_disclosure_request := none
        provider_disclosure_receipt := none } := by
  simp only [grant_provider_consent, bind_eq_ok] at h
  obtain ⟨_, _, _, _, h⟩ := h
  exact install_consent_ok h

theorem grant_provider_workspace_read_consent_ok {action_seq : Int}
    {action : GrantProviderWorkspaceReadConsent} {now : String}
    (h : grant_provider_workspace_read_consent s action_seq action now = .ok s') :
    ∃ goal active' grant, ContinuesRun s goal active' ∧
      s'.val = { s.val with
        goal := goal
        active_run := some active'
        provider_consent_grant := grant
        provider_disclosure_request := none
        provider_disclosure_receipt := none } := by
  simp only [grant_provider_workspace_read_consent, bind_eq_ok] at h
  obtain ⟨_, _, _, _, h⟩ := h
  exact install_consent_ok h

/-- The run a release of its disclosure leaves. -/
theorem release_disclosure_ok {active active' : ActiveRun}
    (h : release_disclosure active = .ok active') :
    active' = active ∨
      active.val.status = .awaiting_disclosure ∧
        active'.val = { active.val with status := .runnable } := by
  simp only [release_disclosure, ite_eq_ok, Checked.make_eq_ok, pure_eq_ok] at h
  rcases h with ⟨hs, h⟩ | ⟨_, rfl⟩
  · exact .inr ⟨hs, h⟩
  · exact .inl rfl

theorem revoke_provider_consent_ok (h : revoke_provider_consent s = .ok s') :
    ∃ active' grant,
      ((s.val.active_run = none ∧ active' = none) ∨ ∃ active a, s.val.active_run = some active ∧
        active' = some a ∧ release_disclosure active = .ok a) ∧
      s'.val = { s.val with
        provider_consent_grant := grant
        provider_disclosure_request := none
        provider_disclosure_receipt := none
        active_run := active' } := by
  simp only [revoke_provider_consent, bind_eq_ok, Checked.make_eq_ok] at h
  obtain ⟨_, _, active', hactive', _, _, h⟩ := h
  refine ⟨active', _, ?_, h⟩
  split at hactive'
  · next hnone =>
    obtain rfl := pure_eq_ok.mp hactive'
    exact .inl ⟨hnone, rfl⟩
  · next active hactive =>
    simp only [bind_eq_ok, pure_eq_ok] at hactive'
    obtain ⟨a, ha, rfl⟩ := hactive'
    exact .inr ⟨active, a, hactive, rfl, ha⟩

end Effects
