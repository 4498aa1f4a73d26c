import Mathlib.Data.List.Forall2
import FirstAgent.State.Control

/-! # Run Transitions

    What an invocation does with the run it owns: claim it, call the provider,
    start a tool batch, walk its cursor through approval, execution and
    results, pause it or end it. -/

open Fallible

/-- The active run, which the transition requires. -/
def require_run (s : ConversationState) (message : String) : Py ActiveRun :=
  Py.expect_value s.val.active_run message

/-- `replace(state, revision=state.revision + 1, active_run=…)`. -/
def with_run (s : ConversationState) (active : ActiveRunFields) : Py ConversationState := do
  let active ← Checked.make active
  Checked.make { s.val with revision := s.val.revision + 1, active_run := some active }

/-- `replace(state, revision=state.revision + 1, facts=…, active_run=…)`. -/
def with_fact (s : ConversationState) (fact : ConversationFact) (active : ActiveRunFields) :
    Py ConversationState := do
  let active ← Checked.make active
  Checked.make { s.val with
    revision := s.val.revision + 1
    facts := s.val.facts ++ [fact]
    active_run := some active }

/-! ### Ending a run -/

/-- `_provider_continuation_payload` as members of a fact. -/
def provider_continuation_members (continuation : Option ProviderContinuationV1) :
    List (String × Json) :=
  match continuation with
  | none   => []
  | some c => [("provider_continuation",
      .dict <| JsonDict.of <| ModelResponse.continuation_members c)]

/-- The assistant message a run completes with. -/
def assistant_facts (s : ConversationState) (active : ActiveRun) (message : Option String)
    (continuation : Option ProviderContinuationV1) : Py (List ConversationFact) :=
  match message with
  | none      => pure []
  | some text => do
    let fact ← Checked.make {
      fact_id := "run:" ++ active.val.run_id ++ ":assistant:" ++ toString (s.val.revision + 1)
      kind := .assistant_message
      content := JsonDict.of (("text", .str text) :: provider_continuation_members continuation) }
    pure [fact]

def complete_run (s : ConversationState) (message : Option String)
    (continuation : Option ProviderContinuationV1) : Py ConversationState := do
  let active ← require_run s "active run required"
  Py.refuse_value (has_unknown_effect s)
    "unknown effect recovery has priority over run completion"
  let closed_suffix ← unstarted_batch_suffix_facts s
    "Tool call was not executed because the run completed before this call started."
  let assistant ← assistant_facts s active message continuation
  Checked.make { s.val with
    revision := s.val.revision + 1
    facts := s.val.facts ++ closed_suffix ++ assistant
    active_run := none
    interaction_state :=
      if s.val.interaction_state = .answering then .idle else s.val.interaction_state
    last_safe_result := some {
      status := .completed, run_id := some active.val.run_id, message := message } }

def end_run (s : ConversationState) (status : RunStatus) (code message : String) :
    Py ConversationState := do
  let active ← require_run s "active run required"
  Py.refuse_value (has_unknown_effect s)
    "unknown effect recovery has priority over run termination"
  let closed_suffix ← unstarted_batch_suffix_facts s
    "Tool call was not executed because the run ended before this call started."
  Checked.make { s.val with
    revision := s.val.revision + 1
    facts := s.val.facts ++ closed_suffix
    active_run := none
    last_safe_result := some {
      status := status
      run_id := some active.val.run_id
      message := some message
      error_code := some code } }

def fail_run (s : ConversationState) (code message : String) : Py ConversationState :=
  end_run s .failed_fatal code message

/-! ### Ownership and pauses -/

def claim_run (s : ConversationState) (invocation_id : String) : Py ConversationState := do
  let active ← require_run s "RUNNABLE active run required"
  Py.refuse_value (active.val.status ≠ .runnable) "RUNNABLE active run required"
  Py.refuse_value (active.val.owner_invocation_id ≠ none) "run is already owned"
  Py.refuse_value (invocation_id = "") "invocation_id must not be empty"
  with_run s { active.val with owner_invocation_id := some invocation_id }

/-- Where a background run may be taken over by another invocation. -/
def is_reclaimable (active : ActiveRun) : Bool :=
  (active.val.status = .runnable && (active.val.phase = .model || active.val.phase = .tool)) ||
    (active.val.status = .model_executing && active.val.phase = .model &&
      active.val.persisted_model_response.isSome)

def reclaim_background_run (s : ConversationState) (invocation_id : String) :
    Py ConversationState := do
  let active ← require_run s "background active run required"
  Py.refuse_value (s.val.background_occurrence_binding = none) "background active run required"
  Py.refuse_value (is_reclaimable active = false) "background run is not safely reclaimable"
  Py.refuse_value (invocation_id = "") "invocation_id must not be empty"
  with_run s { active.val with owner_invocation_id := some invocation_id }

/-- `pause_for_limit` and `pause_for_retryable`. -/
def pause_run (status : ActiveRunStatus) (s : ConversationState) : Py ConversationState := do
  let active ← require_run s "RUNNABLE active run required"
  Py.refuse_value (active.val.status ≠ .runnable) "RUNNABLE active run required"
  with_run s { active.val with status := status, owner_invocation_id := none }

def pause_for_limit : ConversationState → Py ConversationState := pause_run .paused_limit
def pause_for_retryable : ConversationState → Py ConversationState := pause_run .paused_retryable

/-! ### The provider boundary -/

/-- The intent is the next call of an owned runnable model phase. -/
def binds_next_call (active : ActiveRun) (binding : BackgroundOccurrenceBindingV1)
    (intent : ProviderCallIntentV1) : Bool :=
  active.val.status = .runnable && active.val.phase = .model &&
    active.val.owner_invocation_id.isSome &&
    intent.val.occurrence_binding_digest = binding.val.binding_digest &&
    intent.val.provider_call_index = (active.val.model_calls_used + 1 : Nat)

def begin_provider_call (s : ConversationState) (intent : ProviderCallIntentV1)
    (input_tokens : Int) : Py ConversationState := do
  let unbound := "background provider intent does not bind the active run"
  let active ← require_run s unbound
  let binding ← Py.expect_value s.val.background_occurrence_binding unbound
  Py.refuse_value (binds_next_call active binding intent = false ∨ input_tokens < 0) unbound
  with_run s { active.val with
    status := .model_executing
    provider_call_intent := some intent
    persisted_model_response := none
    model_calls_used := active.val.model_calls_used + 1
    input_tokens_used := active.val.input_tokens_used + input_tokens.toNat }

def record_foreground_model_attempt (s : ConversationState) (input_tokens : Int) :
    Py ConversationState := do
  let unowned := "foreground model attempt requires an owned runnable model phase"
  let active ← require_run s unowned
  Py.refuse_value
    (s.val.background_occurrence_binding ≠ none ∨ active.val.status ≠ .runnable
      ∨ active.val.phase ≠ .model ∨ active.val.owner_invocation_id = none ∨ input_tokens < 0)
    unowned
  with_run s { active.val with
    model_calls_used := active.val.model_calls_used + 1
    input_tokens_used := active.val.input_tokens_used + input_tokens.toNat }

def record_provider_response (s : ConversationState) (response : PersistedModelResponseV1) :
    Py ConversationState := do
  let unbound := "persisted response does not bind the active provider call"
  let active ← require_run s unbound
  let intent ← Py.expect_value active.val.provider_call_intent unbound
  Py.refuse_value
    (active.val.status ≠ .model_executing ∨ active.val.persisted_model_response ≠ none
      ∨ response.val.request_digest ≠ intent.val.request_digest)
    unbound
  with_run s { active.val with
    persisted_model_response := some response
    output_tokens_used :=
      active.val.output_tokens_used + response.val.response.bounded_output_tokens.toNat }

/-- The logical state the caller saves together with the first reduction of
    the response: the revision stays. -/
def consume_provider_response (s : ConversationState) : Py ConversationState := do
  let active ← require_run s "durable provider response required"
  Py.refuse_value
    (active.val.status ≠ .model_executing ∨ active.val.persisted_model_response = none)
    "durable provider response required"
  let active ← Checked.make { active.val with
    status := .runnable
    provider_call_intent := none
    persisted_model_response := none }
  Checked.make { s.val with active_run := some active }

def mark_model_outcome_unknown (s : ConversationState) : Py ConversationState := do
  let active ← require_run s "unresolved provider call intent required"
  Py.refuse_value
    (active.val.status ≠ .model_executing ∨ active.val.provider_call_intent = none
      ∨ active.val.persisted_model_response ≠ none)
    "unresolved provider call intent required"
  with_run s { active.val with status := .model_outcome_unknown, owner_invocation_id := none }

/-! ### Tool batches -/

/-- A call as its batch records it. -/
def ToolCall.serialized (c : ToolCall) : Json :=
  .dict <| JsonDict.of [
    ("tool_call_id", .str c.val.tool_call_id),
    ("name", .str c.val.name),
    ("arguments", .dict c.val.arguments)]

/-- The batch fact of model calls. -/
def tool_batch_fact (run_id : String) (revision : Int) (calls : List ToolCall)
    (preamble : Option String) (continuation : Option ProviderContinuationV1) :
    Py ConversationFact :=
  Checked.make {
    fact_id := "run:" ++ run_id ++ ":tool-batch:" ++ toString (revision + 1)
    kind := .tool_calls
    content := JsonDict.of (("calls", .arr (calls.map ToolCall.serialized)) ::
      ((preamble.filter fun t => t ≠ "").toList.map fun t => ("preamble", .str t)) ++
      provider_continuation_members continuation) }

def start_tool_batch (s : ConversationState) (calls : List ToolCall) (preamble : Option String)
    (continuation : Option ProviderContinuationV1) : Py ConversationState := do
  let active ← require_run s "RUNNABLE active run required"
  Py.refuse_value (active.val.status ≠ .runnable) "RUNNABLE active run required"
  Py.refuse_value (active.val.phase ≠ .model) "tool batch can only start from MODEL phase"
  Py.refuse_value (calls = []) "tool batch must not be empty"
  Py.refuse_value (¬ (calls.map fun c => c.val.tool_call_id).Nodup)
    "tool_call_id must be unique within a batch"
  let fact ← tool_batch_fact active.val.run_id s.val.revision calls preamble continuation
  with_fact s fact { active.val with
    phase := .tool
    batch_cursor := 0
    tool_calls := calls
    approval_grant := none }

/-- The batch fact of an operator's call: its arguments are redacted. -/
def operator_tool_fact (run_id : String) (revision : Int) (call : ToolCall) :
    Py ConversationFact :=
  Checked.make {
    fact_id := "run:" ++ run_id ++ ":operator-tool:" ++ toString (revision + 1)
    kind := .tool_calls
    content := JsonDict.of [
      ("invocation_origin", .str InvocationOrigin.operator.value),
      ("calls", .arr [.dict <| JsonDict.of [
        ("tool_call_id", .str call.val.tool_call_id),
        ("name", .str call.val.name),
        ("arguments", .obj []),
        ("arguments_redacted", .bool true)]])] }

/-- No phase is checked here: the caller takes the action in a MODEL phase. -/
def start_operator_tool (s : ConversationState) (action : ExecuteOperatorTool) :
    Py ConversationState := do
  let active ← require_run s "operator tool requires an active run"
  let call ← Checked.make {
    tool_call_id := action.val.action_id
    name := action.val.tool_name
    arguments := action.val.arguments }
  let fact ← operator_tool_fact active.val.run_id s.val.revision call
  with_fact s fact { active.val with
    invocation_origin := .operator
    phase := .tool
    batch_cursor := 0
    tool_calls := [call]
    approval_grant := none }

def release_operator_tool (s : ConversationState) : Py ConversationState := do
  let active ← require_run s "completed operator tool invocation required"
  Py.refuse_value
    (active.val.invocation_origin ≠ .operator ∨ active.val.status ≠ .runnable
      ∨ active.val.phase ≠ .model ∨ active.val.tool_calls ≠ []
      ∨ active.val.executing_intent ≠ none)
    "completed operator tool invocation required"
  with_run s { active.val with invocation_origin := .model, owner_invocation_id := none }

def append_policy_result (s : ConversationState) (code message : String) :
    Py ConversationState := do
  let active ← require_run s "active run required"
  let fact ← Checked.make {
    fact_id := "run:" ++ active.val.run_id ++ ":policy:" ++ toString (s.val.revision + 1)
    kind := .policy_result
    content := JsonDict.of [("code", .str code), ("text", .str message)] }
  Checked.make { s.val with
    revision := s.val.revision + 1
    facts := s.val.facts ++ [fact] }

/-! ### Walking the batch -/

namespace ActiveRunFields

/-- A call after the current one is left. -/
def has_more (r : ActiveRunFields) : Bool := r.batch_cursor + 1 < r.tool_calls.length

/-- The cursor moves past the current call; after the last one the batch is
    over. -/
def advance (r : ActiveRunFields) : ActiveRunFields :=
  { r with
    phase := if r.has_more then .tool else .model
    executing_intent := none
    batch_cursor := r.batch_cursor + 1
    tool_calls := if r.has_more then r.tool_calls else [] }

end ActiveRunFields

def record_nonexecuted_tool_result (s : ConversationState) (result : ConversationFact) :
    Py ConversationState := do
  let active ← require_run s "TOOL phase and Tool Result required"
  Py.refuse_value
    (active.val.status ≠ .runnable ∨ active.val.phase ≠ .tool ∨ result.val.kind ≠ .tool_result)
    "TOOL phase and Tool Result required"
  let mismatch := "tool result does not match the current batch cursor"
  let expected ← Py.expect_value active.val.current_call mismatch
  Py.refuse_value (result.val.content.get "tool_call_id" ≠ .str expected.val.tool_call_id) mismatch
  with_fact s result { active.val.advance with approval_grant := none }

def pause_for_approval (s : ConversationState) (request : ApprovalRequest) :
    Py ConversationState := do
  let active ← require_run s "RUNNABLE active run required"
  Py.refuse_value (active.val.status ≠ .runnable) "RUNNABLE active run required"
  Py.refuse_value
    (request.val.run_id ≠ active.val.run_id ∨ active.val.pending_request ≠ none)
    "approval request does not match active run"
  with_run s { active.val with
    status := .awaiting_approval
    phase := .tool
    pending_request := some (.approval request)
    owner_invocation_id := none }

def pause_for_recovery (s : ConversationState) (request : RecoveryRequest) :
    Py ConversationState := do
  let mismatch := "recovery request must bind the EXECUTING intent"
  let active ← require_run s mismatch
  let intent ← Py.expect_value active.val.executing_intent mismatch
  Py.refuse_value
    (active.val.phase ≠ .executing ∨ request.val.run_id ≠ active.val.run_id
      ∨ request.val.tool_call_id ≠ intent.val.tool_call_id
      ∨ request.val.binding_digest ≠ intent.val.intent_digest)
    mismatch
  with_run s { active.val with
    status := .awaiting_recovery
    pending_request := some (.recovery request)
    owner_invocation_id := none }

/-! ### Executing -/

/-- The arguments of `mark_executing`. -/
structure ExecutionRequest where
  intent : ExecutingIntentFields
  process_lease_id : Option String := none
  sandbox_lease_id : Option String := none
  browser_lease_id : Option String := none
  goal_authorization_id : Option String := none
  background_action_authority : Option BackgroundActionAuthorityV1 := none

/-- The action class, the counter and the limit of a budgeted authority. -/
def background_budget (active : ActiveRun) (binding : BackgroundOccurrenceBindingV1) :
    ExecutionAuthorityClass → Option (String × Nat × Int)
  | .isolated_sandbox => some
      ("sandbox_confined", active.val.sandbox_commands_used, binding.val.sandbox_command_limit)
  | .browser_session  => some
      ("browser_public_observe", active.val.browser_actions_used,
        binding.val.browser_action_limit)
  | _                 => none

/-- The background authority is the next one of its class. -/
def background_authority_binds (binding : BackgroundOccurrenceBindingV1)
    (budget : Option (String × Nat × Int)) (authority : BackgroundActionAuthorityV1) : Bool :=
  budget.any fun (expected_class, counter, _) =>
    authority.val.occurrence_binding_digest = binding.val.binding_digest &&
      authority.val.action_class = expected_class &&
      authority.val.budget_ordinal = (counter + 1 : Nat)

/-- The budgets of a background run. -/
def check_background (s : ConversationState) (active : ActiveRun) (r : ExecutionRequest) :
    Py Unit :=
  match s.val.background_occurrence_binding with
  | none         => Py.refuse_value (r.background_action_authority ≠ none)
      "ordinary run cannot consume background action authority"
  | some binding => do
    Py.refuse_value (binding.val.tool_call_limit ≤ active.val.tool_calls_used)
      "background tool-call budget is exhausted"
    let budget := background_budget active binding r.intent.execution_authority
    Py.refuse_value (budget.any fun (_, counter, limit) => limit ≤ (counter : Int))
      ("background " ++ (budget.elim "" Prod.fst) ++ " budget is exhausted")
    Py.refuse_value
      (r.background_action_authority.any fun a => !background_authority_binds binding budget a)
      "background action authority does not bind this transition"

/-- Consume one use of the first matching grant; none matching is refused. -/
def consume_use {α : Type} (matches_id : α → Bool) (use : α → Py α) (message : String) :
    List α → Py (List α)
  | []      => .error (.value_error message)
  | g :: gs =>
    if matches_id g then do pure ((← use g) :: gs)
    else do pure (g :: (← consume_use matches_id use message gs))

/-- Consume a use when a grant is named. -/
def consume_named {α : Type} (named : Option String) (id_of : α → String) (use : α → Py α)
    (message : String) (grants : List α) : Py (List α) :=
  match named with
  | none    => pure grants
  | some id => consume_use (fun g => id_of g = id) use message grants

/-- `replace(lease, uses_consumed=lease.uses_consumed + 1)`. -/
def ProcessAuthorityLeaseV1.with_next_use (l : ProcessAuthorityLeaseV1) :
    Py ProcessAuthorityLeaseV1 :=
  Checked.make { l.val with uses_consumed := l.val.uses_consumed + 1 }

/-- A sandbox effect of a background run may go without a lease. -/
def background_sandbox (r : ExecutionRequest) : Bool :=
  r.background_action_authority.any fun a => a.val.action_class = "sandbox_confined"

/-- The run once its current call executes. -/
def executing_run (s : ConversationState) (active : ActiveRun) (record : ExecutingIntentRecord) :
    ActiveRunFields :=
  let background := s.val.background_occurrence_binding.isSome
  let class_use := fun (authority : ExecutionAuthorityClass) =>
    (background && record.val.execution_authority = authority).toNat
  { active.val with
    phase := .executing
    executing_intent := some record
    approval_grant := none
    tool_calls_used := active.val.tool_calls_used + background.toNat
    sandbox_commands_used := active.val.sandbox_commands_used + class_use .isolated_sandbox
    browser_actions_used := active.val.browser_actions_used + class_use .browser_session }

def mark_executing (s : ConversationState) (r : ExecutionRequest) : Py ConversationState := do
  Py.refuse_value (r.intent.request_identity = "")
    "executing intent request identity must be a non-empty string"
  let active ← require_run s "clean RUNNABLE active run required"
  Py.refuse_value
    (active.val.status ≠ .runnable ∨ active.val.phase ≠ .tool
      ∨ active.val.executing_intent ≠ none ∨ active.val.pending_request ≠ none)
    "clean RUNNABLE active run required"
  Py.refuse_value (active.val.current_call_is r.intent.tool_call_id = false)
    "executing intent must bind the current tool call"
  check_background s active r
  let record ← Checked.make r.intent
  Py.refuse_value
    (r.intent.execution_authority = .local_same_uid_process ∧ r.process_lease_id = none)
    "process executing intent must consume an exact durable lease"
  let process_leases ← consume_named r.process_lease_id (fun l => l.val.lease_id)
    ProcessAuthorityLeaseV1.with_next_use
    "process lease use could not bind the executing intent" s.val.process_leases
  Py.refuse_value
    (r.intent.execution_authority = .isolated_sandbox ∧ r.sandbox_lease_id = none
      ∧ background_sandbox r = false)
    "sandbox executing intent must consume an exact durable lease"
  let sandbox_leases ← consume_named r.sandbox_lease_id (fun l => l.val.lease_id)
    (fun l => l.with_use_consumed (l.val.uses_consumed + 1))
    "sandbox lease use could not bind the executing intent" s.val.sandbox_leases
  let browser_leases ← consume_named r.browser_lease_id (fun l => l.val.lease_id)
    (fun l => l.with_use_consumed (l.val.uses_consumed + 1))
    "browser lease use could not bind the executing intent" s.val.browser_leases
  let goal_authorizations ← consume_named r.goal_authorization_id (fun b => b.val.binding_id)
    GoalAuthorizationBinding.with_use_consumed
    "goal authorization use could not bind the executing intent" s.val.goal_authorizations
  let active ← Checked.make (executing_run s active record)
  Checked.make { s.val with
    revision := s.val.revision + 1
    goal_authorizations := goal_authorizations
    process_leases := process_leases
    sandbox_leases := sandbox_leases
    browser_leases := browser_leases
    active_run := some active }

/-! ### Results -/

/-- The proof states what was executed, for whom, and what came back. -/
def source_proof_binds (s : ConversationState) (active : ActiveRun) (intent : ExecutingIntentRecord)
    (result : ConversationFact) (proof : ProviderFileSourceProofV1) : Bool :=
  match result.text?, active.val.current_call with
  | some text, some call =>
    result.val.content.get "is_error" ≠ .bool true &&
      result.val.content.get "executed" ≠ .bool false &&
      proof.val.conversation_id = s.val.conversation_id && proof.val.run_id = active.val.run_id &&
      proof.val.tool_call_id = intent.val.tool_call_id && proof.val.tool_name = call.val.name &&
      proof.val.operation = intent.val.operation &&
      proof.val.intent_digest = intent.val.intent_digest &&
      proof.val.execution_authority = intent.val.execution_authority.value &&
      proof.val.result_content_digest = Sha256.hexdigest text &&
      (s.val.workspace_binding.all fun b =>
        proof.val.workspace_identity_digest = b.val.workspace_identity_digest) &&
      proof.val.goal_id = s.val.goal.map (fun g => g.val.goal_id) &&
      proof.val.goal_revision = s.val.goal.map fun g => g.val.revision
  | _, _ => false

/-- `_validated_recorded_source_proof`. -/
def validated_recorded_source_proof (s : ConversationState) (active : ActiveRun)
    (intent : ExecutingIntentRecord) (result : ConversationFact) :
    Py (Option ProviderFileSourceProofV1 × ConversationFact) := do
  let raw_proof := result.val.content.get "runtime_source_proof"
  if raw_proof = .null then pure (none, result)
  else do
    let proof ← (match ProviderFileSourceProofV1.from_dict raw_proof with
      | .ok proof                => .ok proof
      | .error (.overflow_error m) => .error (.overflow_error m)
      | .error _                 =>
        .error (.value_error "tool result contains an invalid source proof"))
    Py.refuse_value (source_proof_binds s active intent result proof = false)
      "tool result source proof does not bind the executing intent"
    let recorded ← Checked.make { result.val with
      content := result.val.content.erase "runtime_source_proof" }
    pure (some proof, recorded)

/-- A proof is stored once. -/
def add_source_proof (proofs : List ProviderFileSourceProofV1) :
    Option ProviderFileSourceProofV1 → List ProviderFileSourceProofV1
  | none       => proofs
  | some proof =>
    if proofs.all fun p => p.val.proof_id ≠ proof.val.proof_id then proofs ++ [proof] else proofs

def record_tool_result (s : ConversationState) (result : ConversationFact)
    (intent_digest : String) : Py ConversationState := do
  let mismatch := "matching EXECUTING intent and Tool Result required"
  let active ← require_run s mismatch
  let intent ← Py.expect_value active.val.executing_intent mismatch
  Py.refuse_value
    (active.val.phase ≠ .executing ∨ intent.val.intent_digest ≠ intent_digest
      ∨ result.val.content.get "tool_call_id" ≠ .str intent.val.tool_call_id
      ∨ result.val.kind ≠ .tool_result)
    mismatch
  let validated ← validated_recorded_source_proof s active intent result
  let active ← Checked.make active.val.advance
  Checked.make { s.val with
    revision := s.val.revision + 1
    facts := s.val.facts ++ [validated.2]
    provider_source_proofs := add_source_proof s.val.provider_source_proofs validated.1
    active_run := some active }

/-! ### What the transitions leave -/

section Effects

variable {s s' : ConversationState} {active : ActiveRun}

theorem with_run_ok {f : ActiveRunFields} (h : with_run s f = .ok s') :
    ∃ active', active'.val = f ∧
      s'.val = { s.val with revision := s.val.revision + 1, active_run := some active' } := by
  simp only [with_run, bind_eq_ok, Checked.make_eq_ok] at h
  exact h

theorem with_fact_ok {fact : ConversationFact} {f : ActiveRunFields}
    (h : with_fact s fact f = .ok s') :
    ∃ active', active'.val = f ∧ s'.val = { s.val with
      revision := s.val.revision + 1
      facts := s.val.facts ++ [fact]
      active_run := some active' } := by
  simp only [with_fact, bind_eq_ok, Checked.make_eq_ok] at h
  exact h

theorem assistant_facts_ok {message : Option String}
    {continuation : Option ProviderContinuationV1} {fs : List ConversationFact}
    (h : assistant_facts s active message continuation = .ok fs) :
    ∀ f ∈ fs, f.val.kind = .assistant_message := by
  unfold assistant_facts at h
  split at h
  · obtain rfl := pure_eq_ok.mp h
    simp
  · simp only [bind_eq_ok, pure_eq_ok, Checked.make_eq_ok] at h
    obtain ⟨f, hf, rfl⟩ := h
    simp [hf]

theorem complete_run_ok {message : Option String}
    {continuation : Option ProviderContinuationV1}
    (h : complete_run s message continuation = .ok s') :
    ∃ active suffix assistant interaction, s.val.active_run = some active ∧ ClosesRun s suffix ∧
      (∀ f ∈ assistant, f.val.kind = .assistant_message) ∧
      s'.val = { s.val with
        revision := s.val.revision + 1
        facts := s.val.facts ++ suffix ++ assistant
        active_run := none
        interaction_state := interaction
        last_safe_result := some {
          status := .completed, run_id := some active.val.run_id, message := message } } := by
  simp only [complete_run, require_run, bind_eq_ok, Py.expect_value_eq_ok, Py.refuse_value_eq_ok,
    Checked.make_eq_ok] at h
  obtain ⟨active, hactive, _, hknown, suffix, hsuffix, assistant, hassistant, h⟩ := h
  exact ⟨active, suffix, assistant, _, hactive,
    ⟨by simpa using hknown, unstarted_batch_suffix_facts_ok hsuffix⟩,
    assistant_facts_ok hassistant, h⟩

theorem end_run_ok {status : RunStatus} {code message : String}
    (h : end_run s status code message = .ok s') :
    ∃ active suffix result, s.val.active_run = some active ∧ ClosesRun s suffix ∧
      s'.val = { s.val with
        revision := s.val.revision + 1
        facts := s.val.facts ++ suffix
        active_run := none
        last_safe_result := result } := by
  simp only [end_run, require_run, bind_eq_ok, Py.expect_value_eq_ok, Py.refuse_value_eq_ok,
    Checked.make_eq_ok] at h
  obtain ⟨active, hactive, _, hknown, suffix, hsuffix, h⟩ := h
  exact ⟨active, suffix, _, hactive,
    ⟨by simpa using hknown, unstarted_batch_suffix_facts_ok hsuffix⟩, h⟩

theorem claim_run_ok {invocation_id : String} (h : claim_run s invocation_id = .ok s') :
    ∃ active active', s.val.active_run = some active ∧ active.val.status = .runnable ∧
      active'.val = { active.val with owner_invocation_id := some invocation_id } ∧
      s'.val = { s.val with revision := s.val.revision + 1, active_run := some active' } := by
  simp only [claim_run, require_run, bind_eq_ok, Py.expect_value_eq_ok, Py.refuse_value_eq_ok,
    not_not] at h
  obtain ⟨active, hactive, _, hstatus, _, _, _, _, h⟩ := h
  obtain ⟨active', hactive', h⟩ := with_run_ok h
  exact ⟨active, active', hactive, hstatus, hactive', h⟩

theorem reclaim_background_run_ok {invocation_id : String}
    (h : reclaim_background_run s invocation_id = .ok s') :
    ∃ active active', s.val.active_run = some active ∧
      active'.val = { active.val with owner_invocation_id := some invocation_id } ∧
      s'.val = { s.val with revision := s.val.revision + 1, active_run := some active' } := by
  simp only [reclaim_background_run, require_run, bind_eq_ok, Py.expect_value_eq_ok] at h
  obtain ⟨active, hactive, _, _, _, _, _, _, h⟩ := h
  obtain ⟨active', hactive', h⟩ := with_run_ok h
  exact ⟨active, active', hactive, hactive', h⟩

theorem pause_run_ok {status : ActiveRunStatus} (h : pause_run status s = .ok s') :
    ∃ active active', s.val.active_run = some active ∧ active.val.status = .runnable ∧
      active'.val = { active.val with status := status, owner_invocation_id := none } ∧
      s'.val = { s.val with revision := s.val.revision + 1, active_run := some active' } := by
  simp only [pause_run, require_run, bind_eq_ok, Py.expect_value_eq_ok, Py.refuse_value_eq_ok,
    not_not] at h
  obtain ⟨active, hactive, _, hstatus, h⟩ := h
  obtain ⟨active', hactive', h⟩ := with_run_ok h
  exact ⟨active, active', hactive, hstatus, hactive', h⟩

theorem begin_provider_call_ok {intent : ProviderCallIntentV1} {input_tokens : Int}
    (h : begin_provider_call s intent input_tokens = .ok s') :
    ∃ active active', s.val.active_run = some active ∧ active.val.status = .runnable ∧
      active.val.phase = .model ∧
      active'.val = { active.val with
        status := .model_executing
        provider_call_intent := some intent
        persisted_model_response := none
        model_calls_used := active.val.model_calls_used + 1
        input_tokens_used := active.val.input_tokens_used + input_tokens.toNat } ∧
      s'.val = { s.val with revision := s.val.revision + 1, active_run := some active' } := by
  simp only [begin_provider_call, require_run, bind_eq_ok, Py.expect_value_eq_ok,
    Py.refuse_value_eq_ok, not_or, Bool.not_eq_false] at h
  obtain ⟨active, hactive, _, _, _, ⟨hbinds, _⟩, h⟩ := h
  simp only [binds_next_call, Bool.and_eq_true, decide_eq_true_eq] at hbinds
  obtain ⟨⟨⟨⟨hstatus, hphase⟩, _⟩, _⟩, _⟩ := hbinds
  obtain ⟨active', hactive', h⟩ := with_run_ok h
  exact ⟨active, active', hactive, hstatus, hphase, hactive', h⟩

theorem record_foreground_model_attempt_ok {input_tokens : Int}
    (h : record_foreground_model_attempt s input_tokens = .ok s') :
    ∃ active active', s.val.active_run = some active ∧
      active'.val = { active.val with
        model_calls_used := active.val.model_calls_used + 1
        input_tokens_used := active.val.input_tokens_used + input_tokens.toNat } ∧
      s'.val = { s.val with revision := s.val.revision + 1, active_run := some active' } := by
  simp only [record_foreground_model_attempt, require_run, bind_eq_ok, Py.expect_value_eq_ok] at h
  obtain ⟨active, hactive, _, _, h⟩ := h
  obtain ⟨active', hactive', h⟩ := with_run_ok h
  exact ⟨active, active', hactive, hactive', h⟩

theorem record_provider_response_ok {response : PersistedModelResponseV1}
    (h : record_provider_response s response = .ok s') :
    ∃ active active' used, s.val.active_run = some active ∧
      active'.val = { active.val with
        persisted_model_response := some response
        output_tokens_used := used } ∧
      s'.val = { s.val with revision := s.val.revision + 1, active_run := some active' } := by
  simp only [record_provider_response, require_run, bind_eq_ok, Py.expect_value_eq_ok] at h
  obtain ⟨active, hactive, _, _, _, _, h⟩ := h
  obtain ⟨active', hactive', h⟩ := with_run_ok h
  exact ⟨active, active', _, hactive, hactive', h⟩

theorem consume_provider_response_ok (h : consume_provider_response s = .ok s') :
    ∃ active active', s.val.active_run = some active ∧ active.val.status = .model_executing ∧
      active.val.persisted_model_response ≠ none ∧
      active'.val = { active.val with
        status := .runnable
        provider_call_intent := none
        persisted_model_response := none } ∧
      s'.val = { s.val with active_run := some active' } := by
  simp only [consume_provider_response, require_run, bind_eq_ok, Py.expect_value_eq_ok,
    Py.refuse_value_eq_ok, not_or, not_not, Checked.make_eq_ok] at h
  obtain ⟨active, hactive, _, ⟨hstatus, hresponse⟩, active', hactive', h⟩ := h
  exact ⟨active, active', hactive, hstatus, hresponse, hactive', h⟩

theorem mark_model_outcome_unknown_ok (h : mark_model_outcome_unknown s = .ok s') :
    ∃ active active', s.val.active_run = some active ∧
      active'.val = { active.val with
        status := .model_outcome_unknown
        owner_invocation_id := none } ∧
      s'.val = { s.val with revision := s.val.revision + 1, active_run := some active' } := by
  simp only [mark_model_outcome_unknown, require_run, bind_eq_ok, Py.expect_value_eq_ok] at h
  obtain ⟨active, hactive, _, _, h⟩ := h
  obtain ⟨active', hactive', h⟩ := with_run_ok h
  exact ⟨active, active', hactive, hactive', h⟩

/-! ### Batch facts are well formed -/

theorem raw_call_id_of_dict {members : List (String × Json)} {call_id : String}
    (hid : (JsonDict.of members).get "tool_call_id" = .str call_id) (hne : call_id ≠ "") :
    raw_call_id (.dict (JsonDict.of members)) = some call_id := by
  simp [raw_call_id, hid, Json.str?, hne]

theorem ToolCall.tool_call_id_ne (c : ToolCall) : c.val.tool_call_id ≠ "" := by
  refine Checked.of_check (P := fun f => f.tool_call_id ≠ "") (fun f hf => ?_) c
  rw [ToolCallFields.post_init, Py.refuse_value_eq_ok] at hf
  tauto

theorem ToolCall.raw_call_id_serialized (c : ToolCall) :
    raw_call_id c.serialized = some c.val.tool_call_id :=
  raw_call_id_of_dict (by simp [Json.has_key]) c.tool_call_id_ne

/-- The serialized calls read back as their ids. -/
theorem mapM_raw_call_id (calls : List ToolCall) :
    (calls.map ToolCall.serialized).mapM raw_call_id =
      some (calls.map fun c => c.val.tool_call_id) := by
  induction calls with
  | nil => rfl
  | cons c calls ih => simp [ToolCall.raw_call_id_serialized, ih]

theorem freeze_serialized (calls : List ToolCall) :
    (Json.arr (calls.map ToolCall.serialized)).freeze = .arr (calls.map ToolCall.serialized) := by
  simp [ToolCall.serialized, Function.comp_def]

theorem tool_batch_fact_ok {run_id : String} {revision : Int} {calls : List ToolCall}
    {preamble : Option String} {continuation : Option ProviderContinuationV1}
    {f : ConversationFact} (hne : calls ≠ [])
    (hnodup : (calls.map fun c => c.val.tool_call_id).Nodup)
    (h : tool_batch_fact run_id revision calls preamble continuation = .ok f) :
    f.val.kind = .tool_calls ∧
      f.batch_call_ids = some (calls.map fun c => c.val.tool_call_id) := by
  have hf := Checked.make_eq_ok.mp h
  have hcalls : f.val.content.get "calls" = .arr (calls.map ToolCall.serialized) := by
    rw [hf]
    dsimp only
    rw [List.cons_append, JsonDict.get_of_cons, if_pos, freeze_serialized]
    refine ⟨rfl, ?_⟩
    cases preamble with
    | none => cases continuation <;> simp [Json.has_key, provider_continuation_members]
    | some p =>
      cases continuation <;> by_cases hp : p = "" <;>
        simp [Json.has_key, provider_continuation_members, Option.filter, hp]
  exact ⟨by rw [hf], ConversationFact.batch_call_ids_eq_some hcalls (mapM_raw_call_id calls)
    (by simpa using hne) hnodup⟩

theorem operator_tool_fact_ok {run_id : String} {revision : Int} {call : ToolCall}
    {f : ConversationFact} (h : operator_tool_fact run_id revision call = .ok f) :
    f.val.kind = .tool_calls ∧ f.batch_call_ids = some [call.val.tool_call_id] := by
  have hf := Checked.make_eq_ok.mp h
  let members : List (String × Json) := [
    ("tool_call_id", .str call.val.tool_call_id), ("name", .str call.val.name),
    ("arguments", .obj []), ("arguments_redacted", .bool true)]
  have hcalls : f.val.content.get "calls" = .arr [.dict (JsonDict.of members)] := by
    rw [hf]
    simp [Json.has_key, members]
  have hid : raw_call_id (.dict (JsonDict.of members)) = some call.val.tool_call_id :=
    raw_call_id_of_dict (by simp [Json.has_key, members]) call.tool_call_id_ne
  exact ⟨by rw [hf],
    ConversationFact.batch_call_ids_eq_some hcalls (by simp [hid]) (by simp) (by simp)⟩

/-! ### The batch -/

theorem start_tool_batch_ok {calls : List ToolCall} {preamble : Option String}
    {continuation : Option ProviderContinuationV1}
    (h : start_tool_batch s calls preamble continuation = .ok s') :
    ∃ active active' batch, s.val.active_run = some active ∧ active.val.status = .runnable ∧
      active.val.phase = .model ∧ batch.val.kind = .tool_calls ∧
      batch.batch_call_ids = some active'.val.call_ids ∧
      active'.val = { active.val with
        phase := .tool
        batch_cursor := 0
        tool_calls := calls
        approval_grant := none } ∧
      s'.val = { s.val with
        revision := s.val.revision + 1
        facts := s.val.facts ++ [batch]
        active_run := some active' } := by
  simp only [start_tool_batch, require_run, bind_eq_ok, Py.expect_value_eq_ok,
    Py.refuse_value_eq_ok, not_not] at h
  obtain ⟨active, hactive, _, hstatus, _, hphase, _, hne, _, hnodup, batch, hbatch, h⟩ := h
  obtain ⟨active', hactive', h⟩ := with_fact_ok h
  obtain ⟨hkind, hids⟩ := tool_batch_fact_ok hne hnodup hbatch
  exact ⟨active, active', batch, hactive, hstatus, hphase, hkind,
    by rw [hids, hactive']; rfl, hactive', h⟩

/-- The operator's batch starts from whatever phase the run is in. -/
theorem start_operator_tool_ok {action : ExecuteOperatorTool}
    (h : start_operator_tool s action = .ok s') :
    ∃ active active' batch call, s.val.active_run = some active ∧
      batch.val.kind = .tool_calls ∧ batch.batch_call_ids = some active'.val.call_ids ∧
      active'.val = { active.val with
        invocation_origin := .operator
        phase := .tool
        batch_cursor := 0
        tool_calls := [call]
        approval_grant := none } ∧
      s'.val = { s.val with
        revision := s.val.revision + 1
        facts := s.val.facts ++ [batch]
        active_run := some active' } := by
  simp only [start_operator_tool, require_run, bind_eq_ok, Py.expect_value_eq_ok] at h
  obtain ⟨active, hactive, call, hcall, batch, hbatch, h⟩ := h
  obtain ⟨active', hactive', h⟩ := with_fact_ok h
  obtain ⟨hkind, hids⟩ := operator_tool_fact_ok hbatch
  exact ⟨active, active', batch, call, hactive, hkind, by rw [hids, hactive']; rfl, hactive', h⟩

theorem release_operator_tool_ok (h : release_operator_tool s = .ok s') :
    ∃ active active', s.val.active_run = some active ∧
      active'.val = { active.val with
        invocation_origin := .model
        owner_invocation_id := none } ∧
      s'.val = { s.val with revision := s.val.revision + 1, active_run := some active' } := by
  simp only [release_operator_tool, require_run, bind_eq_ok, Py.expect_value_eq_ok] at h
  obtain ⟨active, hactive, _, _, h⟩ := h
  obtain ⟨active', hactive', h⟩ := with_run_ok h
  exact ⟨active, active', hactive, hactive', h⟩

theorem append_policy_result_ok {code message : String}
    (h : append_policy_result s code message = .ok s') :
    ∃ active fact, s.val.active_run = some active ∧ fact.val.kind = .policy_result ∧
      s'.val = { s.val with
        revision := s.val.revision + 1
        facts := s.val.facts ++ [fact] } := by
  simp only [append_policy_result, require_run, bind_eq_ok, Py.expect_value_eq_ok,
    Checked.make_eq_ok] at h
  obtain ⟨active, hactive, fact, hfact, h⟩ := h
  exact ⟨active, fact, hactive, by rw [hfact], h⟩

theorem record_nonexecuted_tool_result_ok {result : ConversationFact}
    (h : record_nonexecuted_tool_result s result = .ok s') :
    ∃ active active' call, s.val.active_run = some active ∧ active.val.status = .runnable ∧
      active.val.phase = .tool ∧ active.val.current_call = some call ∧
      result.result_call_id = some call.val.tool_call_id ∧
      active'.val = { active.val.advance with approval_grant := none } ∧
      s'.val = { s.val with
        revision := s.val.revision + 1
        facts := s.val.facts ++ [result]
        active_run := some active' } := by
  simp only [record_nonexecuted_tool_result, require_run, bind_eq_ok, Py.expect_value_eq_ok,
    Py.refuse_value_eq_ok, not_or, not_not] at h
  obtain ⟨active, hactive, _, ⟨hstatus, hphase, hkind⟩, call, hcall, _, hid, h⟩ := h
  obtain ⟨active', hactive', h⟩ := with_fact_ok h
  exact ⟨active, active', call, hactive, hstatus, hphase, hcall,
    ConversationFact.result_call_id_eq_some.mpr ⟨hkind, hid⟩, hactive', h⟩

theorem pause_for_approval_ok {request : ApprovalRequest}
    (h : pause_for_approval s request = .ok s') :
    ∃ active active', s.val.active_run = some active ∧ active.val.status = .runnable ∧
      active'.val = { active.val with
        status := .awaiting_approval
        phase := .tool
        pending_request := some (.approval request)
        owner_invocation_id := none } ∧
      s'.val = { s.val with revision := s.val.revision + 1, active_run := some active' } := by
  simp only [pause_for_approval, require_run, bind_eq_ok, Py.expect_value_eq_ok,
    Py.refuse_value_eq_ok, not_not] at h
  obtain ⟨active, hactive, _, hstatus, _, _, h⟩ := h
  obtain ⟨active', hactive', h⟩ := with_run_ok h
  exact ⟨active, active', hactive, hstatus, hactive', h⟩

theorem pause_for_recovery_ok {request : RecoveryRequest}
    (h : pause_for_recovery s request = .ok s') :
    ∃ active active', s.val.active_run = some active ∧ active.val.phase = .executing ∧
      active'.val = { active.val with
        status := .awaiting_recovery
        pending_request := some (.recovery request)
        owner_invocation_id := none } ∧
      s'.val = { s.val with revision := s.val.revision + 1, active_run := some active' } := by
  simp only [pause_for_recovery, require_run, bind_eq_ok, Py.expect_value_eq_ok,
    Py.refuse_value_eq_ok, not_or, not_not] at h
  obtain ⟨active, hactive, _, _, _, ⟨hphase, _⟩, h⟩ := h
  obtain ⟨active', hactive', h⟩ := with_run_ok h
  exact ⟨active, active', hactive, hphase, hactive', h⟩

/-! ### Executing and its result -/

/-- Consuming a use changes one grant and keeps the others. -/
theorem consume_use_ok {α : Type} {matches_id : α → Bool} {use : α → Py α} {message : String}
    {gs gs' : List α} (h : consume_use matches_id use message gs = .ok gs') :
    List.Forall₂ (fun g g' => g' = g ∨ use g = .ok g') gs gs' := by
  induction gs generalizing gs' with
  | nil => simp [consume_use] at h
  | cons g gs ih =>
    simp only [consume_use, ite_eq_ok, bind_eq_ok, pure_eq_ok] at h
    rcases h with ⟨_, g', hg', rfl⟩ | ⟨_, rest, hrest, rfl⟩
    · exact .cons (.inr hg') (List.forall₂_same.mpr fun _ _ => .inl rfl)
    · exact .cons (.inl rfl) (ih hrest)

theorem consume_named_ok {α : Type} {named : Option String} {id_of : α → String}
    {use : α → Py α} {message : String} {gs gs' : List α}
    (h : consume_named named id_of use message gs = .ok gs') :
    List.Forall₂ (fun g g' => g' = g ∨ use g = .ok g') gs gs' := by
  cases named with
  | none =>
    obtain rfl := pure_eq_ok.mp h
    exact List.forall₂_same.mpr fun _ _ => .inl rfl
  | some id => exact consume_use_ok h

theorem mark_executing_ok {r : ExecutionRequest} (h : mark_executing s r = .ok s') :
    ∃ active active' record authorizations process_leases sandbox_leases browser_leases,
      s.val.active_run = some active ∧ active.val.status = .runnable ∧ active.val.phase = .tool ∧
      active.val.executing_intent = none ∧
      active.val.current_call_is r.intent.tool_call_id = true ∧ record.val = r.intent ∧
      active'.val = executing_run s active record ∧
      List.Forall₂ (fun b b' => b' = b ∨ b.with_use_consumed = .ok b')
        s.val.goal_authorizations authorizations ∧
      List.Forall₂ (fun l l' => l' = l ∨ l.with_use_consumed (l.val.uses_consumed + 1) = .ok l')
        s.val.browser_leases browser_leases ∧
      s'.val = { s.val with
        revision := s.val.revision + 1
        goal_authorizations := authorizations
        process_leases := process_leases
        sandbox_leases := sandbox_leases
        browser_leases := browser_leases
        active_run := some active' } := by
  simp only [mark_executing, require_run, bind_eq_ok, Py.expect_value_eq_ok,
    Py.refuse_value_eq_ok, not_or, not_not, Bool.not_eq_false, Checked.make_eq_ok] at h
  obtain ⟨_, _, active, hactive, _, ⟨hstatus, hphase, hidle, _⟩, _, hcall, _, _, record, hrecord,
    _, _, process_leases, _, _, _, sandbox_leases, _, browser_leases, hbrowser, authorizations,
    hauthorizations, active', hactive', h⟩ := h
  exact ⟨active, active', record, authorizations, process_leases, sandbox_leases, browser_leases,
    hactive, hstatus, hphase, hidle, hcall, hrecord, hactive', consume_named_ok hauthorizations,
    consume_named_ok hbrowser, h⟩

/-- Checking the source proof keeps what the result answers. -/
theorem validated_recorded_source_proof_ok {intent : ExecutingIntentRecord}
    {result : ConversationFact} {v : Option ProviderFileSourceProofV1 × ConversationFact}
    (h : validated_recorded_source_proof s active intent result = .ok v) :
    v.2 = result ∨ v.2.val = { result.val with
      content := result.val.content.erase "runtime_source_proof" } := by
  simp only [validated_recorded_source_proof, ite_eq_ok, bind_eq_ok, pure_eq_ok,
    Checked.make_eq_ok] at h
  rcases h with ⟨_, rfl⟩ | ⟨_, _, _, _, _, recorded, hrecorded, rfl⟩
  · exact .inl rfl
  · exact .inr hrecorded

theorem record_tool_result_ok {result : ConversationFact} {intent_digest : String}
    (h : record_tool_result s result intent_digest = .ok s') :
    ∃ active active' intent call recorded proofs, s.val.active_run = some active ∧
      active.val.executing_intent = some intent ∧ intent.val.intent_digest = intent_digest ∧
      active.val.current_call = some call ∧
      recorded.result_call_id = some call.val.tool_call_id ∧
      active'.val = active.val.advance ∧
      s'.val = { s.val with
        revision := s.val.revision + 1
        facts := s.val.facts ++ [recorded]
        provider_source_proofs := proofs
        active_run := some active' } := by
  simp only [record_tool_result, require_run, bind_eq_ok, Py.expect_value_eq_ok,
    Py.refuse_value_eq_ok, not_or, not_not, Checked.make_eq_ok] at h
  obtain ⟨active, hactive, intent, hintent, _, ⟨hphase, hdigest, hid, hkind⟩, v, hv, active',
    hactive', h⟩ := h
  obtain ⟨call, i, hcall, hi, hbinds⟩ := ActiveRun.of_executing_phase hphase
  obtain rfl : i = intent := Option.some.inj (hi.symm.trans hintent)
  have hresult : result.result_call_id = some call.val.tool_call_id :=
    ConversationFact.result_call_id_eq_some.mpr ⟨hkind, by rw [hid, hbinds]⟩
  refine ⟨active, active', i, call, v.2, _, hactive, hi, hdigest, hcall, ?_, hactive', h⟩
  rcases validated_recorded_source_proof_ok hv with hv | hv
  · rw [hv]
    exact hresult
  · rw [ConversationFact.result_call_id_eq_some] at hresult ⊢
    rw [hv]
    exact ⟨hresult.1, (JsonDict.get_erase_of_ne (by decide)).trans hresult.2⟩

end Effects
