import FirstAgent.Contracts.Goal

/-! # Model Responses

    What a provider may return: text blocks, tool calls, at most one control
    block, and an opaque continuation, with the canonical payload a persisted
    response is digested by. -/

open Fallible

/-- `_require_control_identity`. -/
def require_control_identity (correlation_id : String) : Py Unit :=
  Py.refuse_value (correlation_id = "") "control correlation_id must not be empty"

/-! ### Control blocks -/

structure DirectResponseFields where
  correlation_id : String
  text : String
  deriving Repr, DecidableEq

def DirectResponseFields.post_init (c : DirectResponseFields) : Py Unit := do
  require_control_identity c.correlation_id
  Py.refuse_value (PyText.is_blank c.text) "direct response text must not be empty"

abbrev DirectResponse : Type := Checked DirectResponseFields.post_init

structure BeginAnswerFields where
  correlation_id : String
  deriving Repr, DecidableEq

def BeginAnswerFields.post_init (c : BeginAnswerFields) : Py Unit :=
  require_control_identity c.correlation_id

abbrev BeginAnswer : Type := Checked BeginAnswerFields.post_init

structure ClarificationRequestFields where
  correlation_id : String
  question : String
  boundary_code : String
  missing_fields : List String
  safe_assumptions : List String
  deriving Repr, DecidableEq

def ClarificationRequestFields.post_init (c : ClarificationRequestFields) : Py Unit := do
  require_control_identity c.correlation_id
  Py.refuse_value (PyText.is_blank c.question ∨ c.boundary_code = "" ∨ c.missing_fields = [])
    "clarification request must identify one missing boundary"
  Py.refuse_value (Py.any_empty (c.missing_fields ++ c.safe_assumptions))
    "clarification fields must not contain empty values"

abbrev ClarificationRequest : Type := Checked ClarificationRequestFields.post_init

structure GoalDraftProposalFields where
  correlation_id : String
  user_outcome : String
  beneficiary : String
  targets : List String
  scope : List String
  non_goals : List String
  assumptions : List String
  proposed_criteria : List ProposedCriterion
  next_step : Option String := none
  requires_public_web : Bool := false
  requires_local_process : Bool := false
  deriving DecidableEq

def GoalDraftProposalFields.post_init (c : GoalDraftProposalFields) : Py Unit := do
  require_control_identity c.correlation_id
  Py.refuse_value (PyText.is_blank c.user_outcome ∨ PyText.is_blank c.beneficiary)
    "goal draft outcome and beneficiary must not be empty"
  Py.refuse_value (c.targets = [] ∨ Py.any_empty c.targets) "goal draft targets must not be empty"
  Py.refuse_value (c.scope = [] ∨ Py.any_empty c.scope) "goal draft scope must not be empty"
  Py.refuse_value (c.proposed_criteria = [])
    "goal draft criteria must contain ProposedCriterion values"
  Py.refuse_value (c.next_step.any PyText.is_blank) "goal draft next step must not be empty"

abbrev GoalDraftProposal : Type := Checked GoalDraftProposalFields.post_init

structure GoalProgressFields where
  correlation_id : String
  goal_id : String
  goal_revision : Int
  summary : String
  next_step : String
  deriving Repr, DecidableEq

def GoalProgressFields.post_init (c : GoalProgressFields) : Py Unit := do
  require_control_identity c.correlation_id
  Py.refuse_value (c.goal_id = "" ∨ PyText.is_blank c.summary ∨ PyText.is_blank c.next_step)
    "goal progress fields must not be empty"
  Py.refuse_value (c.goal_revision < 1) "goal progress revision must be positive"

abbrev GoalProgress : Type := Checked GoalProgressFields.post_init

structure GoalDeltaProposalFields where
  correlation_id : String
  delta : GoalDelta
  deriving DecidableEq

def GoalDeltaProposalFields.post_init (c : GoalDeltaProposalFields) : Py Unit :=
  require_control_identity c.correlation_id

abbrev GoalDeltaProposal : Type := Checked GoalDeltaProposalFields.post_init

structure BlockedClaimFields where
  correlation_id : String
  goal_id : String
  goal_revision : Int
  blocker : String
  safe_attempts : List String
  resume_condition : String
  deriving Repr, DecidableEq

def BlockedClaimFields.post_init (c : BlockedClaimFields) : Py Unit := do
  require_control_identity c.correlation_id
  Py.refuse_value
    (c.goal_id = "" ∨ PyText.is_blank c.blocker ∨ PyText.is_blank c.resume_condition)
    "blocked claim fields must not be empty"
  Py.refuse_value (c.goal_revision < 1) "blocked claim revision must be positive"
  Py.refuse_value (Py.any_empty c.safe_attempts) "safe attempts must not contain empty values"

abbrev BlockedClaim : Type := Checked BlockedClaimFields.post_init

/-- The one control block a response may carry. -/
inductive ModelControlBlock where
  | direct_response (c : DirectResponse)
  | begin_answer (c : BeginAnswer)
  | clarification_request (c : ClarificationRequest)
  | goal_draft_proposal (c : GoalDraftProposal)
  | goal_progress (c : GoalProgress)
  | goal_delta_proposal (c : GoalDeltaProposal)
  | completion_claim (c : CompletionClaim)
  | blocked_claim (c : BlockedClaim)
  deriving DecidableEq

/-! ### Blocks and continuations -/

structure ToolCallFields where
  tool_call_id : String
  name : String
  arguments : JsonDict
  deriving Repr, DecidableEq

/-- `ToolCall.__post_init__`. -/
def ToolCallFields.post_init (c : ToolCallFields) : Py Unit :=
  Py.refuse_value (c.tool_call_id = "" ∨ c.name = "") "tool call identity must not be empty"

abbrev ToolCall : Type := Checked ToolCallFields.post_init

/-- `ModelToolCall.__post_init__`. -/
def ToolCallFields.model_post_init (c : ToolCallFields) : Py Unit :=
  Py.refuse_value (c.tool_call_id = "" ∨ c.name = "") "model tool call identity must not be empty"

abbrev ModelToolCall : Type := Checked ToolCallFields.model_post_init

/-- A block of a response. -/
inductive ModelBlock where
  | text (text : String)
  | tool_call (call : ModelToolCall)
  deriving DecidableEq

structure ProviderContinuationFields where
  provider_identity_digest : String
  opaque_payload : String
  opaque_payload_digest : String
  deriving Repr, DecidableEq

def ProviderContinuationFields.post_init (c : ProviderContinuationFields) : Py Unit := do
  Py.refuse_value (PyText.is_lower_hex c.provider_identity_digest 64 = false)
    "provider continuation identity digest is malformed"
  Py.refuse_value (c.opaque_payload = "") "provider continuation payload must be non-empty text"
  Py.refuse_value (4000000 < c.opaque_payload.utf8ByteSize)
    "provider continuation payload exceeds its bound"
  Py.refuse_value (PyText.is_lower_hex c.opaque_payload_digest 64 = false)
    "provider continuation payload digest is malformed"
  Py.refuse_value (c.opaque_payload_digest ≠ Sha256.hexdigest c.opaque_payload)
    "provider continuation payload digest mismatch"

abbrev ProviderContinuationV1 : Type := Checked ProviderContinuationFields.post_init

/-! ### Responses -/

structure ModelResponseFields where
  blocks : List ModelBlock
  control : Option ModelControlBlock := none
  stop_reason : Option String := none
  input_tokens : Option Int := none
  output_tokens : Option Int := none
  provider_continuation : Option ProviderContinuationV1 := none
  deriving DecidableEq

/-- Is the block a tool call? -/
def ModelBlock.is_tool_call : ModelBlock → Bool
  | .text _      => false
  | .tool_call _ => true

def ModelResponseFields.post_init (r : ModelResponseFields) : Py Unit := do
  Py.refuse_value (r.control ≠ none ∧ r.blocks.any ModelBlock.is_tool_call)
    "model control cannot be combined with callable tool calls"
  Py.refuse_value (r.input_tokens.any fun n => n < 0) "input_tokens must be non-negative"
  Py.refuse_value (r.output_tokens.any fun n => n < 0) "output_tokens must be non-negative"

abbrev ModelResponse : Type := Checked ModelResponseFields.post_init

/-! ### Canonical payloads

    `asdict` of each control with its enumerations as text. -/

def ProposedCriterion.asdict (c : ProposedCriterion) : Json :=
  .dict <| JsonDict.of [
    ("criterion_id", .str c.val.criterion_id),
    ("description", .str c.val.description),
    ("oracle_kind", .opt_str (c.val.oracle_kind.map EvidenceOracleKind.value)),
    ("artifact_path", .opt_str c.val.artifact_path)]

def RequirementCoverage.asdict (r : RequirementCoverage) : Json :=
  .dict <| JsonDict.of [
    ("requirement_id", .str r.val.requirement_id),
    ("requirement", .str r.val.requirement),
    ("source_fact_ids", .strs r.val.source_fact_ids),
    ("status", .str r.val.status),
    ("criterion_ids", .strs r.val.criterion_ids)]

def GoalDelta.asdict (d : GoalDelta) : Json :=
  .dict <| JsonDict.of [
    ("goal_id", .str d.val.goal_id),
    ("expected_revision", .int d.val.expected_revision),
    ("reason", .str d.val.reason),
    ("updates", .dict d.val.updates),
    ("updated_at", .opt_str d.val.updated_at)]

namespace ModelControlBlock

/-- `type(control).__name__`. -/
def type_name : ModelControlBlock → String
  | .direct_response _       => "DirectResponse"
  | .begin_answer _          => "BeginAnswer"
  | .clarification_request _ => "ClarificationRequest"
  | .goal_draft_proposal _   => "GoalDraftProposal"
  | .goal_progress _         => "GoalProgress"
  | .goal_delta_proposal _   => "GoalDeltaProposal"
  | .completion_claim _      => "CompletionClaim"
  | .blocked_claim _         => "BlockedClaim"

/-- `_canonical_json_value(asdict(control))`. -/
def asdict : ModelControlBlock → JsonDict
  | .direct_response c => JsonDict.of [
      ("correlation_id", .str c.val.correlation_id), ("text", .str c.val.text)]
  | .begin_answer c => JsonDict.of [("correlation_id", .str c.val.correlation_id)]
  | .clarification_request c => JsonDict.of [
      ("correlation_id", .str c.val.correlation_id),
      ("question", .str c.val.question),
      ("boundary_code", .str c.val.boundary_code),
      ("missing_fields", .strs c.val.missing_fields),
      ("safe_assumptions", .strs c.val.safe_assumptions)]
  | .goal_draft_proposal c => JsonDict.of [
      ("correlation_id", .str c.val.correlation_id),
      ("user_outcome", .str c.val.user_outcome),
      ("beneficiary", .str c.val.beneficiary),
      ("targets", .strs c.val.targets),
      ("scope", .strs c.val.scope),
      ("non_goals", .strs c.val.non_goals),
      ("assumptions", .strs c.val.assumptions),
      ("proposed_criteria", .arr (c.val.proposed_criteria.map ProposedCriterion.asdict)),
      ("next_step", .opt_str c.val.next_step),
      ("requires_public_web", .bool c.val.requires_public_web),
      ("requires_local_process", .bool c.val.requires_local_process)]
  | .goal_progress c => JsonDict.of [
      ("correlation_id", .str c.val.correlation_id),
      ("goal_id", .str c.val.goal_id),
      ("goal_revision", .int c.val.goal_revision),
      ("summary", .str c.val.summary),
      ("next_step", .str c.val.next_step)]
  | .goal_delta_proposal c => JsonDict.of [
      ("correlation_id", .str c.val.correlation_id), ("delta", GoalDelta.asdict c.val.delta)]
  | .completion_claim c => JsonDict.of [
      ("correlation_id", .str c.val.correlation_id),
      ("goal_id", .str c.val.goal_id),
      ("goal_revision", .int c.val.goal_revision),
      ("criterion_evidence_refs", .strs c.val.criterion_evidence_refs),
      ("requirement_coverage", .arr (c.val.requirement_coverage.map RequirementCoverage.asdict))]
  | .blocked_claim c => JsonDict.of [
      ("correlation_id", .str c.val.correlation_id),
      ("goal_id", .str c.val.goal_id),
      ("goal_revision", .int c.val.goal_revision),
      ("blocker", .str c.val.blocker),
      ("safe_attempts", .strs c.val.safe_attempts),
      ("resume_condition", .str c.val.resume_condition)]

end ModelControlBlock

namespace ModelResponse

def block_payload : ModelBlock → Json
  | .text text => .dict <| JsonDict.of [("type", .str "text"), ("text", .str text)]
  | .tool_call call => .dict <| JsonDict.of [
      ("type", .str "tool_call"),
      ("tool_call_id", .str call.val.tool_call_id),
      ("name", .str call.val.name),
      ("arguments", .dict call.val.arguments)]

def continuation_members (c : ProviderContinuationV1) : List (String × Json) := [
  ("provider_identity_digest", .str c.val.provider_identity_digest),
  ("opaque_payload", .str c.val.opaque_payload),
  ("opaque_payload_digest", .str c.val.opaque_payload_digest)]

/-- `model_response_payload`. -/
def model_response_payload (r : ModelResponse) : JsonDict :=
  JsonDict.of [
    ("blocks", .arr (r.val.blocks.map block_payload)),
    ("control", match r.val.control with
      | none   => .null
      | some c => .dict <| JsonDict.of [("type", .str c.type_name), ("payload", .dict c.asdict)]),
    ("stop_reason", .opt_str r.val.stop_reason),
    ("input_tokens", .opt_int r.val.input_tokens),
    ("output_tokens", .opt_int r.val.output_tokens),
    ("provider_continuation", match r.val.provider_continuation with
      | none   => .null
      | some c => .dict <| JsonDict.of (continuation_members c))]

/-- What the byte bound of a response is taken over. -/
def bounded_payload (r : ModelResponse) : Json :=
  .arr <| r.val.blocks.map block_payload ++
    (match r.val.control with
      | none   => []
      | some c => [.dict <| JsonDict.of [
          ("type", .str "control"), ("name", .str c.type_name), ("payload", .dict c.asdict)]]) ++
    (match r.val.provider_continuation with
      | none   => []
      | some c => [.dict <| JsonDict.of (("type", .str "provider_continuation") ::
          continuation_members c)])

/-- Output usage, bounded below by the bytes of the response itself. -/
def bounded_output_tokens (r : ModelResponse) : Int :=
  max (max (r.val.output_tokens.getD 0) 1) r.bounded_payload.dumps.utf8ByteSize

end ModelResponse

/-! ### Persisted responses -/

structure PersistedModelResponseFields where
  request_digest : String
  response : ModelResponse
  response_digest : String
  deriving DecidableEq

def PersistedModelResponseFields.post_init (p : PersistedModelResponseFields) : Py Unit := do
  Py.refuse_value (PyText.is_lower_hex p.request_digest 64 = false)
    "persisted response request_digest must be 64 lowercase hex"
  Py.refuse_value
    (PyText.is_lower_hex p.response_digest 64 = false
      ∨ canonical_json_digest (.dict p.response.model_response_payload) ≠ p.response_digest)
    "persisted model response digest mismatch"

abbrev PersistedModelResponseV1 : Type := Checked PersistedModelResponseFields.post_init

def PersistedModelResponseV1.create (request_digest : String) (response : ModelResponse) :
    Py PersistedModelResponseV1 :=
  Checked.make {
    request_digest := request_digest
    response := response
    response_digest := canonical_json_digest (.dict response.model_response_payload) }
