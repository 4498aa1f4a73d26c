import FirstAgent.Contracts.Authority
import FirstAgent.Contracts.Model

/-! # Facts and the Active Run

    Conversation facts, the records a run holds between two steps (pending
    requests, the executing intent, the provider call boundary) and
    `ActiveRun` itself, whose check ties its status to what it holds.

    Counters and cursors that the constructors keep non-negative are naturals. -/

open Fallible

/-! ### Facts -/

structure ConversationFactFields where
  fact_id : String
  kind : FactKind
  content : JsonDict
  deriving Repr, DecidableEq

def ConversationFactFields.post_init (f : ConversationFactFields) : Py Unit :=
  Py.refuse_value (f.fact_id = "") "fact_id must not be empty"

/-- One fact of a conversation. -/
abbrev ConversationFact : Type := Checked ConversationFactFields.post_init

/-- The id of a raw call: non-empty text. -/
def raw_call_id (raw : Json) : Option String := do
  let call ← raw.obj?
  let call_id ← (call.get "tool_call_id").str?
  if call_id = "" then none else some call_id

namespace ConversationFact

/-- The call ids of a batch fact, when it is well formed. -/
def batch_call_ids (f : ConversationFact) : Option (List String) := do
  let raw_calls ← (f.val.content.get "calls").arr?
  let ids ← raw_calls.mapM raw_call_id
  if ids = [] ∨ ¬ ids.Nodup then none else some ids

/-- The call id of a tool result. -/
def result_call_id (f : ConversationFact) : Option String :=
  if f.val.kind = .tool_result then (f.val.content.get "tool_call_id").str? else none

theorem batch_call_ids_eq_some {f : ConversationFact} {raw : List Json} {ids : List String}
    (hraw : f.val.content.get "calls" = .arr raw) (hids : raw.mapM raw_call_id = some ids)
    (hne : ids ≠ []) (hnodup : ids.Nodup) : f.batch_call_ids = some ids := by
  unfold batch_call_ids
  rw [hraw]
  change (do
    let ids ← raw.mapM raw_call_id
    if ids = [] ∨ ¬ ids.Nodup then none else some ids) = some ids
  rw [hids]
  simp [hne, hnodup]

/-- The ids of a well-formed batch are some and unique. -/
theorem batch_call_ids_valid {f : ConversationFact} {ids : List String}
    (h : f.batch_call_ids = some ids) : ids ≠ [] ∧ ids.Nodup := by
  simp only [batch_call_ids, Option.bind_eq_bind, Option.bind_eq_some_iff] at h
  obtain ⟨_, _, found, _, h⟩ := h
  split at h
  · cases h
  · next hvalid =>
    cases h
    simpa using hvalid

theorem result_call_id_eq_some {f : ConversationFact} {call_id : String} :
    f.result_call_id = some call_id ↔
      f.val.kind = .tool_result ∧ f.val.content.get "tool_call_id" = .str call_id := by
  unfold result_call_id
  by_cases h : f.val.kind = .tool_result <;> simp [h]

end ConversationFact

/-! ### Pending requests -/

structure ApprovalRequestFields where
  request_id : String
  run_id : String
  tool_call_id : String
  binding_digest : String
  preview : String
  tool_name : Option String := none
  state_revision : Option Int := none
  arguments_digest : Option String := none
  policy_identity : Option String := none
  risk : Option String := none
  side_effect : Option String := none
  target_digest : Option String := none
  precondition_digest : Option String := none
  new_content_digest : Option String := none
  approval_basis_revision : Option Int := none
  egress : Option String := none
  operation : Option String := none
  request_identity : Option String := none
  destination_digest : Option String := none
  cost_class : Option String := none
  sandbox_authority_candidate : Option SandboxAuthorityCandidateV1 := none
  trust_notice_id : Option String := none
  trust_notice_digest : Option String := none
  process_authority_candidate : Option ProcessAuthorityCandidateV1 := none
  artifact_confirmation_requirement : Option ArtifactConfirmationRequirementV1 := none
  browser_action_candidate : Option BrowserActionCandidateV1 := none
  deriving DecidableEq

/-- How many authority candidates a request carries. -/
def ApprovalRequestFields.candidate_kinds (r : ApprovalRequestFields) : Nat :=
  r.process_authority_candidate.isSome.toNat + r.sandbox_authority_candidate.isSome.toNat +
    r.browser_action_candidate.isSome.toNat

def ApprovalRequestFields.post_init (r : ApprovalRequestFields) : Py Unit := do
  Py.refuse_value
    (Py.any_empty [r.request_id, r.run_id, r.tool_call_id, r.binding_digest, r.preview])
    "approval request identity and preview must not be empty"
  Py.refuse_value (r.state_revision.any fun n => n < 0)
    "approval state_revision must be non-negative"
  Py.refuse_value (r.approval_basis_revision.any fun n => n < 0)
    "approval_basis_revision must be non-negative"
  Py.refuse_value
    (r.artifact_confirmation_requirement.isSome ∧ r.process_authority_candidate = none)
    "artifact confirmation requirement requires a process candidate"
  Py.refuse_value (1 < r.candidate_kinds) "approval request carries mixed authority candidates"

abbrev ApprovalRequest : Type := Checked ApprovalRequestFields.post_init

structure RecoveryRequestFields where
  request_id : String
  run_id : String
  tool_call_id : String
  binding_digest : String
  summary : String
  deriving Repr, DecidableEq

def RecoveryRequestFields.post_init (r : RecoveryRequestFields) : Py Unit :=
  Py.refuse_value
    (Py.any_empty [r.request_id, r.run_id, r.tool_call_id, r.binding_digest, r.summary])
    "recovery request fields must not be empty"

abbrev RecoveryRequest : Type := Checked RecoveryRequestFields.post_init

/-- What an awaiting run waits for. -/
inductive PendingRequest where
  | approval (request : ApprovalRequest)
  | recovery (request : RecoveryRequest)
  deriving DecidableEq

def PendingRequest.request_id : PendingRequest → String
  | .approval r => r.val.request_id
  | .recovery r => r.val.request_id

/-! ### Executing intents and grants -/

structure ExecutingIntentFields where
  tool_call_id : String
  intent_digest : String
  idempotency_key : String
  side_effect : SideEffectClass := .write
  egress : EgressClass := .none
  execution_authority : ExecutionAuthorityClass
  operation : String := "legacy_effect"
  request_identity : String
  deriving Repr, DecidableEq

def ExecutingIntentFields.post_init (i : ExecutingIntentFields) : Py Unit := do
  Py.refuse_value (i.tool_call_id = "" ∨ i.intent_digest = "" ∨ i.idempotency_key = "")
    "executing intent fields must not be empty"
  Py.refuse_value (i.operation = "") "executing intent operation must not be empty"
  Py.refuse_value (i.egress = .public_network ∧ i.side_effect ≠ .read_only)
    "PUBLIC_NETWORK executing intent must be read-only"

/-- The durable record of an effect about to happen.  A missing request
    identity is the idempotency key, filled in by the constructor. -/
abbrev ExecutingIntentRecord : Type := Checked ExecutingIntentFields.post_init

structure ApprovalGrantFields where
  request_id : String
  binding_digest : String
  approval_basis_revision : Option Int := none
  deriving Repr, DecidableEq

def ApprovalGrantFields.post_init (g : ApprovalGrantFields) : Py Unit := do
  Py.refuse_value (g.request_id = "" ∨ g.binding_digest = "")
    "approval grant fields must not be empty"
  Py.refuse_value (g.approval_basis_revision.any fun n => n < 0)
    "approval grant basis revision must be non-negative"

abbrev ApprovalGrant : Type := Checked ApprovalGrantFields.post_init

/-! ### The provider call boundary -/

structure ProviderCallIntentFields where
  action_seq : Int
  provider_call_index : Int
  context_digest : String
  request_digest : String
  disclosure_digest : Option String
  occurrence_binding_digest : String
  intent_digest : String
  deriving Repr, DecidableEq

namespace ProviderCallIntentFields

def request_members (i : ProviderCallIntentFields) : List (String × Json) := [
  ("action_seq", .int i.action_seq),
  ("provider_call_index", .int i.provider_call_index),
  ("context_digest", .str i.context_digest)]

def expected_request_digest (i : ProviderCallIntentFields) : String :=
  canonical_json_digest (.dict (JsonDict.of i.request_members))

def expected_intent_digest (i : ProviderCallIntentFields) : String :=
  canonical_json_digest <| .dict <| JsonDict.of <| i.request_members ++ [
    ("request_digest", .str i.expected_request_digest),
    ("disclosure_digest", .opt_str i.disclosure_digest),
    ("occurrence_binding_digest", .str i.occurrence_binding_digest)]

def post_init (i : ProviderCallIntentFields) : Py Unit := do
  Py.refuse_value (i.action_seq < 1) "provider call action_seq must be positive"
  Py.refuse_value (i.provider_call_index < 1) "provider call provider_call_index must be positive"
  Py.refuse_not_hex64 "provider call" " must be 64 lowercase hex" [
    ("context_digest", i.context_digest), ("request_digest", i.request_digest),
    ("occurrence_binding_digest", i.occurrence_binding_digest),
    ("intent_digest", i.intent_digest)]
  Py.refuse_value (i.disclosure_digest.any fun d => !PyText.is_lower_hex d 64)
    "provider call disclosure_digest must be 64 lowercase hex"
  Py.refuse_value
    (i.request_digest ≠ i.expected_request_digest ∨ i.intent_digest ≠ i.expected_intent_digest)
    "provider call intent digest mismatch"

end ProviderCallIntentFields

abbrev ProviderCallIntentV1 : Type := Checked ProviderCallIntentFields.post_init

def ProviderCallIntentV1.create (i : ProviderCallIntentFields) : Py ProviderCallIntentV1 :=
  let i := { i with request_digest := i.expected_request_digest }
  Checked.make { i with intent_digest := i.expected_intent_digest }

/-! ### Background occurrences -/

structure BackgroundOccurrenceBindingFields where
  automation_id : String
  automation_revision : Int
  occurrence_id : String
  occurrence_index : Int
  scheduled_for_utc : String
  definition_digest : String
  grant_digest : String
  claim_authority_digest : String
  claim_capability_digest : String
  checkpoint_identity_digest : String
  deadline_utc : String
  model_call_limit : Int
  tool_call_limit : Int
  sandbox_command_limit : Int
  browser_action_limit : Int
  max_input_tokens : Int
  max_output_tokens : Int
  binding_digest : String := ""
  deriving Repr, DecidableEq

namespace BackgroundOccurrenceBindingFields

def expected_digest (b : BackgroundOccurrenceBindingFields) : String :=
  canonical_json_digest <| .dict <| JsonDict.of [
    ("automation_id", .str b.automation_id),
    ("automation_revision", .int b.automation_revision),
    ("occurrence_id", .str b.occurrence_id),
    ("occurrence_index", .int b.occurrence_index),
    ("scheduled_for_utc", .str b.scheduled_for_utc),
    ("definition_digest", .str b.definition_digest),
    ("grant_digest", .str b.grant_digest),
    ("claim_authority_digest", .str b.claim_authority_digest),
    ("claim_capability_digest", .str b.claim_capability_digest),
    ("checkpoint_identity_digest", .str b.checkpoint_identity_digest),
    ("deadline_utc", .str b.deadline_utc),
    ("model_call_limit", .int b.model_call_limit),
    ("tool_call_limit", .int b.tool_call_limit),
    ("sandbox_command_limit", .int b.sandbox_command_limit),
    ("browser_action_limit", .int b.browser_action_limit),
    ("max_input_tokens", .int b.max_input_tokens),
    ("max_output_tokens", .int b.max_output_tokens)]

/-- Refuse the first named integer below a bound. -/
def refuse_below (bound : Int) (suffix : String) : List (String × Int) → Py Unit
  | []                => .ok ()
  | (name, v) :: rest => do
    Py.refuse_value (v < bound) ("background binding " ++ name ++ suffix)
    refuse_below bound suffix rest

/-- A bounded non-empty text. -/
def refuse_unbounded (name v : String) : Py Unit :=
  Py.refuse_value (v = "" ∨ 128 < v.toList.length)
    ("background binding " ++ name ++ " must be bounded non-empty text")

def post_init (b : BackgroundOccurrenceBindingFields) : Py Unit := do
  refuse_unbounded "automation_id" b.automation_id
  refuse_unbounded "occurrence_id" b.occurrence_id
  refuse_below 1 " must be positive" [
    ("automation_revision", b.automation_revision), ("model_call_limit", b.model_call_limit),
    ("tool_call_limit", b.tool_call_limit), ("max_input_tokens", b.max_input_tokens),
    ("max_output_tokens", b.max_output_tokens)]
  refuse_below 0 " must be non-negative" [
    ("sandbox_command_limit", b.sandbox_command_limit),
    ("browser_action_limit", b.browser_action_limit), ("occurrence_index", b.occurrence_index)]
  Py.refuse_not_hex64 "background binding" " must be 64 lowercase hex" [
    ("definition_digest", b.definition_digest), ("grant_digest", b.grant_digest),
    ("claim_authority_digest", b.claim_authority_digest),
    ("claim_capability_digest", b.claim_capability_digest),
    ("checkpoint_identity_digest", b.checkpoint_identity_digest),
    ("binding_digest", b.binding_digest)]
  Py.refuse_value (PyText.is_canonical_utc b.scheduled_for_utc = false)
    "background binding scheduled_for_utc must be canonical UTC"
  Py.refuse_value (PyText.is_canonical_utc b.deadline_utc = false)
    "background binding deadline_utc must be canonical UTC"
  Py.refuse_value (b.expected_digest ≠ b.binding_digest) "background binding digest mismatch"

end BackgroundOccurrenceBindingFields

abbrev BackgroundOccurrenceBindingV1 : Type := Checked BackgroundOccurrenceBindingFields.post_init

def BackgroundOccurrenceBindingV1.create (b : BackgroundOccurrenceBindingFields) :
    Py BackgroundOccurrenceBindingV1 :=
  Checked.make { b with binding_digest := b.expected_digest }

structure BackgroundActionAuthorityFields where
  action_class : String
  action_fingerprint : String
  occurrence_binding_digest : String
  claim_verdict_digest : String
  budget_ordinal : Int
  policy_digest : String
  authority_digest : String
  deriving Repr, DecidableEq

def BackgroundActionAuthorityFields.expected_digest (a : BackgroundActionAuthorityFields) :
    String :=
  canonical_json_digest <| .dict <| JsonDict.of [
    ("action_class", .str a.action_class),
    ("action_fingerprint", .str a.action_fingerprint),
    ("occurrence_binding_digest", .str a.occurrence_binding_digest),
    ("claim_verdict_digest", .str a.claim_verdict_digest),
    ("budget_ordinal", .int a.budget_ordinal),
    ("policy_digest", .str a.policy_digest)]

def BackgroundActionAuthorityFields.post_init (a : BackgroundActionAuthorityFields) :
    Py Unit := do
  Py.refuse_value (a.action_class ∉ ["sandbox_confined", "browser_public_observe"])
    "background action class is not admitted"
  Py.refuse_not_hex64 "background action" " must be hex64" [
    ("action_fingerprint", a.action_fingerprint),
    ("occurrence_binding_digest", a.occurrence_binding_digest),
    ("claim_verdict_digest", a.claim_verdict_digest), ("policy_digest", a.policy_digest)]
  Py.refuse_value (a.budget_ordinal < 1) "background action budget ordinal must be positive"
  Py.refuse_value (a.authority_digest ≠ a.expected_digest)
    "background action authority digest mismatch"

abbrev BackgroundActionAuthorityV1 : Type := Checked BackgroundActionAuthorityFields.post_init

/-! ### The active run -/

structure ActiveRunFields where
  run_id : String
  run_started_at : Option String := none
  status : ActiveRunStatus := .runnable
  phase : ContinuationPhase := .model
  owner_invocation_id : Option String := none
  batch_cursor : Nat := 0
  pending_request : Option PendingRequest := none
  executing_intent : Option ExecutingIntentRecord := none
  tool_calls : List ToolCall := []
  approval_grant : Option ApprovalGrant := none
  approved_request_ids : List String := []
  rejected_request_ids : List String := []
  provider_call_intent : Option ProviderCallIntentV1 := none
  persisted_model_response : Option PersistedModelResponseV1 := none
  model_calls_used : Nat := 0
  tool_calls_used : Nat := 0
  sandbox_commands_used : Nat := 0
  browser_actions_used : Nat := 0
  input_tokens_used : Nat := 0
  output_tokens_used : Nat := 0
  invocation_origin : InvocationOrigin := .model
  deriving DecidableEq

namespace ActiveRunFields

/-- `tool_calls[batch_cursor]`, when the cursor is inside the batch. -/
def current_call (r : ActiveRunFields) : Option ToolCall := r.tool_calls[r.batch_cursor]?

/-- The ids of the batch, in order. -/
def call_ids (r : ActiveRunFields) : List String := r.tool_calls.map fun c => c.val.tool_call_id

/-- The current call has this id. -/
def current_call_is (r : ActiveRunFields) (tool_call_id : String) : Bool :=
  r.current_call.any fun c => c.val.tool_call_id = tool_call_id

/-- The identity and the batch. -/
def check_batch (r : ActiveRunFields) : Py Unit := do
  Py.refuse_value (r.run_id = "") "run_id must not be empty"
  Py.refuse_value (r.run_started_at.any fun t => !PyText.is_rfc3339_z t)
    "run_started_at must be zoned RFC3339"
  Py.refuse_value (r.owner_invocation_id = some "") "owner_invocation_id must not be empty"
  Py.refuse_value (¬ r.call_ids.Nodup) "tool_call_id must be unique within an active batch"
  Py.refuse_value (r.invocation_origin = .operator ∧ 1 < r.tool_calls.length)
    "operator invocation cannot contain more than one tool call"

/-- What each phase holds. -/
def check_phase (r : ActiveRunFields) : Py Unit :=
  match r.phase with
  | .model =>
    Py.refuse_value (r.tool_calls ≠ [] ∨ r.executing_intent ≠ none)
      "MODEL phase cannot retain a tool batch or executing intent"
  | .tool => do
    Py.refuse_value (r.current_call = none)
      "TOOL/EXECUTING phase requires a valid current tool call"
    Py.refuse_value (r.executing_intent ≠ none) "TOOL phase cannot retain an executing intent"
  | .executing => do
    Py.refuse_value (r.current_call = none)
      "TOOL/EXECUTING phase requires a valid current tool call"
    Py.refuse_value
      (¬ r.executing_intent.any fun i => r.current_call_is i.val.tool_call_id)
      "EXECUTING phase must bind the current tool call"

/-- The pending approval binds the current call. -/
def binds_approval (r : ActiveRunFields) : Bool :=
  match r.pending_request with
  | some (.approval p) =>
    r.phase = .tool && p.val.run_id = r.run_id && r.current_call_is p.val.tool_call_id &&
      r.owner_invocation_id = none
  | _ => false

/-- The pending recovery binds the executing intent. -/
def binds_recovery (r : ActiveRunFields) : Bool :=
  match r.pending_request, r.executing_intent with
  | some (.recovery p), some i =>
    r.phase = .executing && p.val.run_id = r.run_id && p.val.tool_call_id = i.val.tool_call_id &&
      p.val.binding_digest = i.val.intent_digest && r.owner_invocation_id = none
  | _, _ => false

/-- What each awaiting status waits for. -/
def check_pending (r : ActiveRunFields) : Py Unit :=
  match r.status with
  | .awaiting_approval =>
    Py.refuse_value (r.binds_approval = false) "AWAITING_APPROVAL must bind the current tool call"
  | .awaiting_recovery =>
    Py.refuse_value (r.binds_recovery = false) "AWAITING_RECOVERY must bind the executing intent"
  | .awaiting_disclosure =>
    Py.refuse_value
      (r.phase ≠ .model ∨ r.pending_request ≠ none ∨ r.owner_invocation_id ≠ none)
      "AWAITING_DISCLOSURE must pause before a model send"
  | _ =>
    Py.refuse_value (r.pending_request ≠ none)
      "only awaiting states may retain a pending request"

/-- The intent is the run's latest model call. -/
def binds_provider_call (r : ActiveRunFields) : Bool :=
  r.provider_call_intent.any fun i => (r.model_calls_used : Int) = i.val.provider_call_index

/-- The persisted response answers the intent. -/
def binds_response (r : ActiveRunFields) : Bool :=
  match r.persisted_model_response, r.provider_call_intent with
  | some p, some i => p.val.request_digest = i.val.request_digest
  | _, _           => true

/-- What the provider boundary statuses hold. -/
def check_provider (r : ActiveRunFields) : Py Unit :=
  match r.status with
  | .model_executing =>
    Py.refuse_value
      (r.phase ≠ .model ∨ r.owner_invocation_id = none ∨ r.pending_request ≠ none
        ∨ r.binds_provider_call = false ∨ r.binds_response = false)
      "MODEL_EXECUTING must bind one owned provider call"
  | .model_outcome_unknown =>
    Py.refuse_value
      (r.phase ≠ .model ∨ r.persisted_model_response ≠ none ∨ r.owner_invocation_id ≠ none
        ∨ r.pending_request ≠ none ∨ r.binds_provider_call = false)
      "MODEL_OUTCOME_UNKNOWN must retain only the call intent"
  | _ =>
    Py.refuse_value (r.provider_call_intent ≠ none ∨ r.persisted_model_response ≠ none)
      "only provider boundary states may retain provider call data"

/-- Paused runs have no owner and no unknown outcome. -/
def check_paused (r : ActiveRunFields) : Py Unit :=
  if r.status = .paused_limit ∨ r.status = .paused_retryable then do
    Py.refuse_value (r.owner_invocation_id ≠ none) "paused runs cannot retain an invocation owner"
    Py.refuse_value (r.phase = .executing) "unknown tool outcomes must use AWAITING_RECOVERY"
  else .ok ()

/-- The resolved requests and the grant they back. -/
def check_resolved (r : ActiveRunFields) : Py Unit := do
  Py.refuse_value (Py.any_empty (r.approved_request_ids ++ r.rejected_request_ids))
    "resolved request IDs must not be empty"
  Py.refuse_value (¬ r.approved_request_ids.Nodup ∨ ¬ r.rejected_request_ids.Nodup)
    "resolved request IDs must be unique"
  Py.refuse_value (r.approved_request_ids.any fun i => r.rejected_request_ids.contains i)
    "a request cannot be both approved and rejected"
  Py.refuse_value
    (r.approval_grant.any fun g =>
      r.status ≠ .runnable || r.phase ≠ .tool || !r.approved_request_ids.contains g.val.request_id)
    "approval grant requires a matching runnable TOOL phase"

def post_init (r : ActiveRunFields) : Py Unit := do
  r.check_batch
  r.check_phase
  r.check_pending
  r.check_provider
  r.check_paused
  r.check_resolved

end ActiveRunFields

/-- The run a conversation is in the middle of. -/
abbrev ActiveRun : Type := Checked ActiveRunFields.post_init

/-! ### What the check establishes -/

namespace ActiveRun

variable (r : ActiveRun)

/-- Every part of the check passed. -/
theorem checks : r.val.check_batch = .ok () ∧ r.val.check_phase = .ok () ∧
    r.val.check_pending = .ok () ∧ r.val.check_provider = .ok () := by
  have h := r.valid
  simp only [ActiveRunFields.post_init, bind_eq_ok] at h
  obtain ⟨_, hbatch, _, hphase, _, hpending, _, hprovider, _⟩ := h
  exact ⟨hbatch, hphase, hpending, hprovider⟩

theorem call_ids_nodup : r.val.call_ids.Nodup := by
  have h := r.checks.1
  simp only [ActiveRunFields.check_batch, bind_eq_ok, Py.refuse_value_eq_ok, not_not] at h
  obtain ⟨_, _, _, _, _, _, _, hnodup, _⟩ := h
  exact hnodup

variable {r}

theorem of_model_phase (h : r.val.phase = .model) :
    r.val.tool_calls = [] ∧ r.val.executing_intent = none := by
  have hc := r.checks.2.1
  simp only [ActiveRunFields.check_phase, h, Py.refuse_value_eq_ok, not_or, not_not] at hc
  exact hc

theorem of_tool_phase (h : r.val.phase = .tool) :
    (∃ c, r.val.current_call = some c) ∧ r.val.executing_intent = none := by
  have hc := r.checks.2.1
  simp only [ActiveRunFields.check_phase, h, bind_eq_ok, Py.refuse_value_eq_ok, not_not] at hc
  obtain ⟨_, hcall, hintent⟩ := hc
  exact ⟨Option.ne_none_iff_exists'.mp hcall, hintent⟩

theorem of_executing_phase (h : r.val.phase = .executing) :
    ∃ c i, r.val.current_call = some c ∧ r.val.executing_intent = some i ∧
      c.val.tool_call_id = i.val.tool_call_id := by
  have hc := r.checks.2.1
  simp only [ActiveRunFields.check_phase, h, bind_eq_ok, Py.refuse_value_eq_ok, not_not] at hc
  obtain ⟨_, hcall, hintent⟩ := hc
  obtain ⟨c, hc⟩ := Option.ne_none_iff_exists'.mp hcall
  obtain ⟨i, hi, hbinds⟩ := (Option.any_eq_true _ _).mp hintent
  exact ⟨c, i, hc, hi, by simpa [ActiveRunFields.current_call_is, hc] using hbinds⟩

/-- An executing intent is held in the EXECUTING phase only. -/
theorem phase_of_intent {i : ExecutingIntentRecord} (h : r.val.executing_intent = some i) :
    r.val.phase = .executing := by
  cases hphase : r.val.phase with
  | model =>
    rw [(of_model_phase hphase).2] at h
    cases h
  | tool =>
    rw [(of_tool_phase hphase).2] at h
    cases h
  | executing => rfl

/-- A run awaiting approval holds a batch at a call that has not started. -/
theorem of_awaiting_approval (h : r.val.status = .awaiting_approval) :
    r.val.phase = .tool ∧ ∃ p, r.val.pending_request = some (.approval p) ∧
      r.val.current_call_is p.val.tool_call_id = true := by
  have hc := r.checks.2.2.1
  simp only [ActiveRunFields.check_pending, h, Py.refuse_value_eq_ok, Bool.not_eq_false] at hc
  unfold ActiveRunFields.binds_approval at hc
  split at hc
  · next p hp =>
    simp only [Bool.and_eq_true, decide_eq_true_eq] at hc
    exact ⟨hc.1.1.1, p, hp, hc.1.2⟩
  · cases hc

/-- A run awaiting recovery holds an executing call. -/
theorem of_awaiting_recovery (h : r.val.status = .awaiting_recovery) :
    r.val.phase = .executing ∧ ∃ p i, r.val.pending_request = some (.recovery p) ∧
      r.val.executing_intent = some i ∧ p.val.tool_call_id = i.val.tool_call_id ∧
      p.val.binding_digest = i.val.intent_digest := by
  have hc := r.checks.2.2.1
  simp only [ActiveRunFields.check_pending, h, Py.refuse_value_eq_ok, Bool.not_eq_false] at hc
  unfold ActiveRunFields.binds_recovery at hc
  split at hc
  · next p i hp hi =>
    simp only [Bool.and_eq_true, decide_eq_true_eq] at hc
    exact ⟨hc.1.1.1.1, p, i, hp, hi, hc.1.1.2, hc.1.2⟩
  · cases hc

theorem of_awaiting_disclosure (h : r.val.status = .awaiting_disclosure) :
    r.val.phase = .model := by
  have hc := r.checks.2.2.1
  simp only [ActiveRunFields.check_pending, h, Py.refuse_value_eq_ok, not_or, not_not] at hc
  exact hc.1

/-- A paused run is not executing a call. -/
theorem of_paused (h : r.val.status = .paused_limit ∨ r.val.status = .paused_retryable) :
    r.val.phase ≠ .executing := by
  have hc := r.valid
  simp only [ActiveRunFields.post_init, bind_eq_ok] at hc
  obtain ⟨_, _, _, _, _, _, _, _, _, hpaused, _⟩ := hc
  simp only [ActiveRunFields.check_paused, h, if_true, bind_eq_ok, Py.refuse_value_eq_ok] at hpaused
  obtain ⟨_, _, hphase⟩ := hpaused
  exact hphase

/-- A provider call is held at the provider boundary only. -/
theorem of_provider_call (h : r.val.provider_call_intent ≠ none) :
    (r.val.status = .model_executing ∨ r.val.status = .model_outcome_unknown) ∧
      r.val.phase = .model := by
  have hc := r.checks.2.2.2
  cases hstatus : r.val.status <;>
    simp_all [ActiveRunFields.check_provider, Py.refuse_value_eq_ok]

end ActiveRun
