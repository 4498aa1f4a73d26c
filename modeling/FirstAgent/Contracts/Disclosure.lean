import FirstAgent.Contracts.Authority

/-! # Provider Disclosure and Consent

    What is shown to the user before data leaves for a provider: disclosure
    requests and receipts (two versions), the bounded consent grant, and the
    Runtime-owned source proofs and summary boundaries. -/

open Fallible

/-! ### Disclosure requests, version 1 -/

structure ProviderDisclosureReceiptFields where
  receipt_id : String
  request_digest : String
  acknowledged_action_seq : Int
  acknowledged_at : String
  deriving Repr, DecidableEq

def ProviderDisclosureReceiptFields.post_init (r : ProviderDisclosureReceiptFields) : Py Unit := do
  Py.refuse_value (Py.any_empty [r.receipt_id, r.request_digest, r.acknowledged_at])
    "provider disclosure receipt fields must not be empty"
  Py.refuse_value (r.acknowledged_action_seq < 1)
    "disclosure acknowledgement action sequence must be positive"

abbrev ProviderDisclosureReceipt : Type := Checked ProviderDisclosureReceiptFields.post_init

structure ProviderDisclosureRequestFields where
  disclosure_id : String
  provider_descriptor_digest : String
  canonical_destination : String
  model : String
  data_classes : List String
  request_digest : String := ""
  deriving Repr, DecidableEq

def ProviderDisclosureRequestFields.expected_digest (r : ProviderDisclosureRequestFields) :
    String :=
  canonical_json_digest <| .dict <| JsonDict.of [
    ("disclosure_id", .str r.disclosure_id),
    ("provider_descriptor_digest", .str r.provider_descriptor_digest),
    ("canonical_destination", .str r.canonical_destination),
    ("model", .str r.model),
    ("data_classes", .strs r.data_classes)]

def ProviderDisclosureRequestFields.post_init (r : ProviderDisclosureRequestFields) :
    Py Unit := do
  Py.refuse_value
    (Py.any_empty [r.disclosure_id, r.provider_descriptor_digest, r.canonical_destination, r.model,
      r.request_digest])
    "provider disclosure request fields must not be empty"
  Py.refuse_value (r.data_classes = [] ∨ Py.any_empty r.data_classes)
    "provider disclosure data classes must not be empty"
  Py.refuse_value (PyText.sorted_unique r.data_classes = false)
    "provider disclosure data classes must be sorted and unique"
  Py.refuse_value (r.request_digest ≠ r.expected_digest)
    "provider disclosure request digest mismatch"

abbrev ProviderDisclosureRequest : Type := Checked ProviderDisclosureRequestFields.post_init

/-! ### Consent scopes -/

def CONSENT_PROFILE_ROUTINE : String := "routine_conversation_v1"
def CONSENT_PROFILE_WORKSPACE_READ : String := "routine_workspace_read_v1"
def CONSENT_PROFILE_WORKSPACE_COMMAND : String := "routine_workspace_command_v1"
def CONSENT_MAX_USES : Int := 32
def CONSENT_TTL_MINUTES : Nat := 60

def ROUTINE_DATA_CLASSES : List String :=
  ["control_receipts", "conversation_history", "conversation_summary", "goal", "goal_bootstrap",
    "runtime_progress", "system_policy", "tool_schemas", "user_messages"]

def WORKSPACE_READ_DATA_CLASSES : List String := ROUTINE_DATA_CLASSES ++ ["workspace_excerpt"]

def WORKSPACE_COMMAND_DATA_CLASSES : List String :=
  PyText.sorted_set (WORKSPACE_READ_DATA_CLASSES ++ ["command_output"])

def RESULT_CLASS_WORKSPACE_EXCERPT : String := "workspace_excerpt"
def RESULT_CLASS_COMMAND_OUTPUT : String := "command_output"

structure ProviderConsentToolBindingFields where
  name : String
  identity_digest : String
  deriving Repr, DecidableEq

def ProviderConsentToolBindingFields.post_init (b : ProviderConsentToolBindingFields) : Py Unit :=
  Py.refuse_value (b.name = "" ∨ PyText.is_lower_hex b.identity_digest 64 = false)
    "provider consent tool binding is invalid"

abbrev ProviderConsentToolBindingV1 : Type := Checked ProviderConsentToolBindingFields.post_init

def ProviderConsentToolBindingV1.payload (b : ProviderConsentToolBindingV1) : Json :=
  .dict <| JsonDict.of [
    ("name", .str b.val.name), ("identity_digest", .str b.val.identity_digest)]

structure ProviderDisclosureSourceFields where
  data_class : String
  boundary_digest : String
  label : String
  reusable : Bool
  deriving Repr, DecidableEq

def ProviderDisclosureSourceFields.post_init (s : ProviderDisclosureSourceFields) : Py Unit := do
  Py.refuse_value (s.data_class = "" ∨ s.label = "")
    "provider disclosure source fields must not be empty"
  Py.refuse_value (PyText.is_lower_hex s.boundary_digest 64 = false)
    "provider disclosure source digest must be sha256"

abbrev ProviderDisclosureSourceV1 : Type := Checked ProviderDisclosureSourceFields.post_init

namespace ProviderDisclosureSourceV1

def identity_payload (s : ProviderDisclosureSourceV1) : Json :=
  .dict <| JsonDict.of [
    ("data_class", .str s.val.data_class),
    ("boundary_digest", .str s.val.boundary_digest),
    ("label", .str s.val.label),
    ("reusable", .bool s.val.reusable)]

/-- The key sources are ordered by. -/
def key (s : ProviderDisclosureSourceV1) : String × String × String :=
  (s.val.data_class, s.val.boundary_digest, s.val.label)

/-- Strict order of keys. -/
def key_lt (a b : String × String × String) : Bool :=
  decide (a.1 < b.1) || (a.1 = b.1 && (decide (a.2.1 < b.2.1) ||
    (a.2.1 = b.2.1 && decide (a.2.2 < b.2.2))))

/-- Keys strictly increase: sources are unique and sorted. -/
def keys_sorted_unique : List (String × String × String) → Bool
  | []           => true
  | [_]          => true
  | a :: b :: xs => key_lt a b && keys_sorted_unique (b :: xs)

/-- Insert a source before the first one whose key is not smaller. -/
def insert_sorted (s : ProviderDisclosureSourceV1) :
    List ProviderDisclosureSourceV1 → List ProviderDisclosureSourceV1
  | []      => [s]
  | t :: ts =>
    if s = t then t :: ts
    else if key_lt t.key s.key then t :: insert_sorted s ts else s :: t :: ts

/-- `sorted(set(sources), key=...)`. -/
def sorted_set (ss : List ProviderDisclosureSourceV1) : List ProviderDisclosureSourceV1 :=
  ss.foldr insert_sorted []

end ProviderDisclosureSourceV1

/-- The consent projection of a context pack. -/
structure ProviderConsentScopeFields where
  workspace_identity_digest : String
  goal_id : Option String
  goal_revision : Option Int
  tool_bindings : List ProviderConsentToolBindingV1
  control_schema_digest : String
  data_classes : List String
  sources : List ProviderDisclosureSourceV1
  routine_compatible : Bool
  deriving DecidableEq

def ProviderConsentScopeFields.post_init (s : ProviderConsentScopeFields) : Py Unit := do
  Py.refuse_value (s.workspace_identity_digest = "")
    "consent workspace identity must be NO_WORKSPACE or workspace:v1:sha256"
  Py.refuse_value (s.goal_id.isNone ≠ s.goal_revision.isNone)
    "consent goal identity must be paired"
  Py.refuse_value (s.goal_revision.any fun v => v < 1) "consent goal revision must be positive"
  Py.refuse_value (PyText.is_lower_hex s.control_schema_digest 64 = false)
    "consent control schema digest must be sha256"
  Py.refuse_value (PyText.sorted_unique s.data_classes = false ∨ Py.any_empty s.data_classes)
    "consent data classes must be sorted and unique"
  Py.refuse_value (PyText.sorted_unique (s.tool_bindings.map fun b => b.val.name) = false)
    "consent tool bindings must be unique and sorted"
  Py.refuse_value
    (ProviderDisclosureSourceV1.keys_sorted_unique
      (s.sources.map ProviderDisclosureSourceV1.key) = false)
    "consent sources must be unique and sorted"

abbrev ProviderConsentScopeV1 : Type := Checked ProviderConsentScopeFields.post_init

/-- The workspace grants cover a request whose non-routine part is all
    proof-backed and reusable. -/
def workspace_read_classes_covered (data_classes : List String)
    (sources : List ProviderDisclosureSourceV1) : Bool :=
  let nonroutine := data_classes.filter fun c => c ∉ ROUTINE_DATA_CLASSES
  !sources.isEmpty && !nonroutine.isEmpty &&
    (nonroutine.all fun c => c = "workspace_excerpt" || c = "command_output") &&
    sources.all fun s => s.val.reusable

def workspace_consent_profile (data_classes : List String) : String :=
  if "command_output" ∈ data_classes then CONSENT_PROFILE_WORKSPACE_COMMAND
  else CONSENT_PROFILE_WORKSPACE_READ

/-! ### Source proofs -/

structure ProviderFileSourceProofFields where
  proof_id : String
  conversation_id : String
  run_id : String
  workspace_identity_digest : String
  tool_call_id : String
  tool_name : String
  tool_identity_digest : String
  policy_identity : String
  execution_authority : String
  operation : String
  normalized_target : String
  target_digest : String
  goal_id : Option String
  goal_revision : Option Int
  intent_digest : String
  result_content_digest : String
  boundary_digest : String
  proof_digest : String
  result_class : String := RESULT_CLASS_WORKSPACE_EXCERPT
  deriving Repr, DecidableEq

namespace ProviderFileSourceProofFields

def payload (p : ProviderFileSourceProofFields) : JsonDict :=
  JsonDict.of ([
    ("proof_id", .str p.proof_id),
    ("conversation_id", .str p.conversation_id),
    ("run_id", .str p.run_id),
    ("workspace_identity_digest", .str p.workspace_identity_digest),
    ("tool_call_id", .str p.tool_call_id),
    ("tool_name", .str p.tool_name),
    ("tool_identity_digest", .str p.tool_identity_digest),
    ("policy_identity", .str p.policy_identity),
    ("execution_authority", .str p.execution_authority),
    ("operation", .str p.operation),
    ("normalized_target", .str p.normalized_target),
    ("target_digest", .str p.target_digest),
    ("goal_id", .opt_str p.goal_id),
    ("goal_revision", .opt_int p.goal_revision),
    ("intent_digest", .str p.intent_digest),
    ("result_content_digest", .str p.result_content_digest),
    ("boundary_digest", .str p.boundary_digest)] ++
    -- the default class is left out, so that older proofs keep their digest
    if p.result_class ≠ RESULT_CLASS_WORKSPACE_EXCERPT then
      [("result_class", .str p.result_class)] else [])

def post_init (p : ProviderFileSourceProofFields) : Py Unit := do
  Py.refuse_value
    (p.result_class ∉ [RESULT_CLASS_WORKSPACE_EXCERPT, RESULT_CLASS_COMMAND_OUTPUT])
    "file source proof result_class is not closed"
  Py.refuse_empty "file source proof" [
    ("proof_id", p.proof_id), ("conversation_id", p.conversation_id), ("run_id", p.run_id),
    ("workspace_identity_digest", p.workspace_identity_digest),
    ("tool_call_id", p.tool_call_id), ("tool_name", p.tool_name),
    ("tool_identity_digest", p.tool_identity_digest), ("policy_identity", p.policy_identity),
    ("execution_authority", p.execution_authority), ("operation", p.operation),
    ("normalized_target", p.normalized_target)]
  Py.refuse_not_hex64 "file source proof" " must be sha256" [
    ("target_digest", p.target_digest), ("intent_digest", p.intent_digest),
    ("result_content_digest", p.result_content_digest), ("boundary_digest", p.boundary_digest),
    ("proof_digest", p.proof_digest), ("tool_identity_digest", p.tool_identity_digest)]
  Py.refuse_value (p.goal_id.isSome ≠ p.goal_revision.isSome)
    "file source proof goal binding must be paired"
  Py.refuse_value (p.goal_id = some "") "file source proof goal_id must be a non-empty string"
  Py.refuse_value (p.goal_revision.any fun v => v < 1)
    "file source proof goal revision must be positive"
  Py.refuse_value (p.proof_digest ≠ canonical_json_digest (.dict p.payload))
    "file source proof digest mismatch"

end ProviderFileSourceProofFields

/-- The Kernel's proof of where a tool result comes from. -/
abbrev ProviderFileSourceProofV1 : Type := Checked ProviderFileSourceProofFields.post_init

namespace ProviderFileSourceProofV1

def expected_keys : List String :=
  ["proof_id", "conversation_id", "run_id", "workspace_identity_digest", "tool_call_id",
    "tool_name", "tool_identity_digest", "policy_identity", "execution_authority", "operation",
    "normalized_target", "target_digest", "goal_id", "goal_revision", "intent_digest",
    "result_content_digest", "boundary_digest", "proof_digest"]

/-- A text member of a closed object. -/
def text (d : JsonDict) (k : String) : Py String :=
  expect (d.get k).str? (.value_error ("file source proof " ++ k ++ " must not be empty"))

def from_dict (raw : Json) : Py ProviderFileSourceProofV1 := do
  let d ← Py.expect_value raw.obj? "file source proof must be an object"
  let keys := d.keys.filter fun k => k ≠ "result_class"
  Py.refuse_value (¬ (keys.all (· ∈ expected_keys) ∧ expected_keys.all (· ∈ keys)))
    "file source proof fields are not closed"
  let goal_id ← match d.get "goal_id" with
    | .null  => pure none
    | .str s => pure (some s)
    | _      => .error (.value_error "file source proof goal_id must be a non-empty string")
  let goal_revision ← match d.get "goal_revision" with
    | .null  => pure none
    | .int i => pure (some i)
    | _      => .error (.type_error "file source proof goal revision must be an integer")
  Checked.make {
    proof_id := ← text d "proof_id"
    conversation_id := ← text d "conversation_id"
    run_id := ← text d "run_id"
    workspace_identity_digest := ← text d "workspace_identity_digest"
    tool_call_id := ← text d "tool_call_id"
    tool_name := ← text d "tool_name"
    tool_identity_digest := ← text d "tool_identity_digest"
    policy_identity := ← text d "policy_identity"
    execution_authority := ← text d "execution_authority"
    operation := ← text d "operation"
    normalized_target := ← text d "normalized_target"
    target_digest := ← text d "target_digest"
    goal_id := goal_id
    goal_revision := goal_revision
    intent_digest := ← text d "intent_digest"
    result_content_digest := ← text d "result_content_digest"
    boundary_digest := ← text d "boundary_digest"
    proof_digest := ← text d "proof_digest"
    result_class := ← if d.has "result_class" then text d "result_class"
      else pure RESULT_CLASS_WORKSPACE_EXCERPT }

end ProviderFileSourceProofV1

/-! ### Summary boundaries -/

structure ProviderSummarySourceBoundaryFields where
  summary_fact_id : String
  data_classes : List String
  sources : List ProviderDisclosureSourceV1
  routine_compatible : Bool
  boundary_digest : String := ""
  deriving DecidableEq

def ProviderSummarySourceBoundaryFields.expected_digest
    (b : ProviderSummarySourceBoundaryFields) : String :=
  canonical_json_digest <| .dict <| JsonDict.of [
    ("summary_fact_id", .str b.summary_fact_id),
    ("data_classes", .strs b.data_classes),
    ("sources", .arr (b.sources.map ProviderDisclosureSourceV1.identity_payload)),
    ("routine_compatible", .bool b.routine_compatible)]

def ProviderSummarySourceBoundaryFields.post_init (b : ProviderSummarySourceBoundaryFields) :
    Py Unit := do
  Py.refuse_value (b.summary_fact_id = "") "summary source boundary must bind a summary fact"
  Py.refuse_value (PyText.sorted_unique b.data_classes = false ∨ Py.any_empty b.data_classes)
    "summary source data classes must be sorted and unique"
  Py.refuse_value
    (ProviderDisclosureSourceV1.keys_sorted_unique
      (b.sources.map ProviderDisclosureSourceV1.key) = false)
    "summary sources must be unique and sorted"
  Py.refuse_value (PyText.is_lower_hex b.boundary_digest 64 = false)
    "summary source boundary digest must be sha256"
  Py.refuse_value (b.boundary_digest ≠ b.expected_digest)
    "summary source boundary digest mismatch"

abbrev ProviderSummarySourceBoundaryV1 : Type :=
  Checked ProviderSummarySourceBoundaryFields.post_init

def ProviderSummarySourceBoundaryV1.create (summary_fact_id : String) (data_classes : List String)
    (sources : List ProviderDisclosureSourceV1) (routine_compatible : Bool) :
    Py ProviderSummarySourceBoundaryV1 :=
  let b : ProviderSummarySourceBoundaryFields := {
    summary_fact_id := summary_fact_id
    data_classes := PyText.sorted_set data_classes
    sources := ProviderDisclosureSourceV1.sorted_set sources
    routine_compatible := routine_compatible }
  Checked.make { b with boundary_digest := b.expected_digest }

/-! ### Disclosure requests, version 2 -/

structure ProviderDisclosureReceiptV2Fields where
  receipt_id : String
  request_digest : String
  acknowledged_action_seq : Int
  acknowledged_at : String
  consumed_at : Option String := none
  deriving Repr, DecidableEq

def ProviderDisclosureReceiptV2Fields.post_init (r : ProviderDisclosureReceiptV2Fields) :
    Py Unit := do
  Py.refuse_value (Py.any_empty [r.receipt_id, r.request_digest, r.acknowledged_at])
    "provider disclosure v2 receipt fields must not be empty"
  Py.refuse_value (r.acknowledged_action_seq < 1)
    "disclosure acknowledgement action sequence must be positive"
  Py.refuse_value (r.consumed_at = some "") "consumed receipt time must not be empty"

abbrev ProviderDisclosureReceiptV2 : Type := Checked ProviderDisclosureReceiptV2Fields.post_init

structure ProviderDisclosureRequestV2Fields where
  disclosure_id : String
  provider_descriptor_digest : String
  canonical_destination : String
  model : String
  workspace_identity_digest : String
  data_classes : List String
  sources : List ProviderDisclosureSourceV1
  tool_bindings : List ProviderConsentToolBindingV1
  control_schema_digest : String
  grant_id : Option String
  grant_eligible : Bool
  purpose : String
  run_id : String
  goal_id : Option String
  goal_revision : Option Int
  scope_digest : String
  request_digest : String
  deriving DecidableEq

namespace ProviderDisclosureRequestV2Fields

def payload (r : ProviderDisclosureRequestV2Fields) : JsonDict :=
  JsonDict.of [
    ("request_version", .int 2),
    ("disclosure_id", .str r.disclosure_id),
    ("provider_descriptor_digest", .str r.provider_descriptor_digest),
    ("canonical_destination", .str r.canonical_destination),
    ("model", .str r.model),
    ("workspace_identity_digest", .str r.workspace_identity_digest),
    ("data_classes", .strs r.data_classes),
    ("sources", .arr (r.sources.map ProviderDisclosureSourceV1.identity_payload)),
    ("tool_bindings", .arr (r.tool_bindings.map ProviderConsentToolBindingV1.payload)),
    ("control_schema_digest", .str r.control_schema_digest),
    ("grant_id", .opt_str r.grant_id),
    ("grant_eligible", .bool r.grant_eligible),
    ("purpose", .str r.purpose),
    ("run_id", .str r.run_id),
    ("goal_id", .opt_str r.goal_id),
    ("goal_revision", .opt_int r.goal_revision)]

def expected_scope_digest (r : ProviderDisclosureRequestV2Fields) : String :=
  canonical_json_digest <| .dict <| JsonDict.of [
    ("profile", .str CONSENT_PROFILE_ROUTINE),
    ("provider_descriptor_digest", .str r.provider_descriptor_digest),
    ("canonical_destination", .str r.canonical_destination),
    ("model", .str r.model),
    ("workspace_identity_digest", .str r.workspace_identity_digest),
    ("goal_id", .opt_str r.goal_id),
    ("goal_revision", .opt_int r.goal_revision),
    ("sources", .arr (r.sources.map ProviderDisclosureSourceV1.identity_payload))]

def post_init (r : ProviderDisclosureRequestV2Fields) : Py Unit := do
  Py.refuse_empty "provider disclosure v2" [
    ("disclosure_id", r.disclosure_id),
    ("provider_descriptor_digest", r.provider_descriptor_digest),
    ("canonical_destination", r.canonical_destination), ("model", r.model),
    ("workspace_identity_digest", r.workspace_identity_digest),
    ("control_schema_digest", r.control_schema_digest), ("purpose", r.purpose),
    ("run_id", r.run_id)]
  Py.refuse_value (PyText.sorted_unique r.data_classes = false ∨ Py.any_empty r.data_classes)
    "provider disclosure v2 data classes must be sorted and unique"
  Py.refuse_value (r.goal_id.isNone ≠ r.goal_revision.isNone)
    "provider disclosure v2 goal identity must be paired"
  Py.refuse_value (r.request_digest ≠ canonical_json_digest (.dict r.payload))
    "provider disclosure v2 request digest mismatch"
  Py.refuse_value (r.scope_digest ≠ r.expected_scope_digest)
    "provider disclosure v2 scope digest mismatch"

end ProviderDisclosureRequestV2Fields

abbrev ProviderDisclosureRequestV2 : Type := Checked ProviderDisclosureRequestV2Fields.post_init

/-- The pending disclosure request, in either version. -/
inductive DisclosureRequest where
  | v1 (request : ProviderDisclosureRequest)
  | v2 (request : ProviderDisclosureRequestV2)
  deriving DecidableEq

/-- The disclosure receipt, in either version. -/
inductive DisclosureReceipt where
  | v1 (receipt : ProviderDisclosureReceipt)
  | v2 (receipt : ProviderDisclosureReceiptV2)
  deriving DecidableEq

namespace DisclosureRequest

def request_digest : DisclosureRequest → String
  | .v1 r => r.val.request_digest
  | .v2 r => r.val.request_digest

def acknowledge (r : DisclosureRequest) (receipt_id : String) (acknowledged_action_seq : Int)
    (acknowledged_at : String) : Py DisclosureReceipt :=
  match r with
  | .v1 r => do
    pure (.v1 (← Checked.make {
      receipt_id := receipt_id
      request_digest := r.val.request_digest
      acknowledged_action_seq := acknowledged_action_seq
      acknowledged_at := acknowledged_at }))
  | .v2 r => do
    pure (.v2 (← Checked.make {
      receipt_id := receipt_id
      request_digest := r.val.request_digest
      acknowledged_action_seq := acknowledged_action_seq
      acknowledged_at := acknowledged_at }))

end DisclosureRequest

def DisclosureReceipt.request_digest : DisclosureReceipt → String
  | .v1 r => r.val.request_digest
  | .v2 r => r.val.request_digest

/-! ### Consent grants -/

structure ProviderConsentGrantFields where
  grant_id : String
  conversation_id : String
  workspace_identity_digest : String
  provider_descriptor_digest : String
  canonical_destination : String
  model : String
  profile : String
  allowed_data_classes : List String
  tool_bindings : List ProviderConsentToolBindingV1
  control_schema_digest : String
  disclosure_request_digest : String
  scope_digest : String
  granted_action_seq : Int
  issued_at : String
  expires_at : String
  max_uses : Int
  uses_consumed : Int
  status : ProviderConsentGrantStatus
  grant_digest : String := ""
  deriving DecidableEq

namespace ProviderConsentGrantFields

def payload (g : ProviderConsentGrantFields) : JsonDict :=
  JsonDict.of [
    ("grant_id", .str g.grant_id),
    ("conversation_id", .str g.conversation_id),
    ("workspace_identity_digest", .str g.workspace_identity_digest),
    ("provider_descriptor_digest", .str g.provider_descriptor_digest),
    ("canonical_destination", .str g.canonical_destination),
    ("model", .str g.model),
    ("profile", .str g.profile),
    ("allowed_data_classes", .strs g.allowed_data_classes),
    ("tool_bindings", .arr (g.tool_bindings.map ProviderConsentToolBindingV1.payload)),
    ("control_schema_digest", .str g.control_schema_digest),
    ("disclosure_request_digest", .str g.disclosure_request_digest),
    ("scope_digest", .str g.scope_digest),
    ("granted_action_seq", .int g.granted_action_seq),
    ("issued_at", .str g.issued_at),
    ("expires_at", .str g.expires_at),
    ("max_uses", .int g.max_uses),
    ("uses_consumed", .int g.uses_consumed),
    ("status", .str g.status.value)]

def post_init (g : ProviderConsentGrantFields) : Py Unit := do
  Py.refuse_empty "provider consent grant" [
    ("grant_id", g.grant_id), ("conversation_id", g.conversation_id),
    ("workspace_identity_digest", g.workspace_identity_digest),
    ("provider_descriptor_digest", g.provider_descriptor_digest),
    ("canonical_destination", g.canonical_destination), ("model", g.model),
    ("profile", g.profile), ("issued_at", g.issued_at), ("expires_at", g.expires_at)]
  Py.refuse_value
    (g.profile ∉ [CONSENT_PROFILE_ROUTINE, CONSENT_PROFILE_WORKSPACE_READ,
      CONSENT_PROFILE_WORKSPACE_COMMAND])
    "provider consent grant profile is unsupported"
  Py.refuse_value (PyText.sorted_unique g.allowed_data_classes = false)
    "provider consent grant classes must be sorted and unique"
  if g.profile = CONSENT_PROFILE_WORKSPACE_COMMAND then
    Py.refuse_value (g.allowed_data_classes ≠ WORKSPACE_COMMAND_DATA_CLASSES)
      "provider consent grant classes must match the workspace-command scope"
  else if g.profile = CONSENT_PROFILE_WORKSPACE_READ then
    Py.refuse_value (g.allowed_data_classes ≠ WORKSPACE_READ_DATA_CLASSES)
      "provider consent grant classes must match the workspace-read scope"
  else
    Py.refuse_value (¬ g.allowed_data_classes ⊆ ROUTINE_DATA_CLASSES)
      "provider consent grant classes exceed the routine scope"
  Py.refuse_value (PyText.sorted_unique (g.tool_bindings.map fun b => b.val.name) = false)
    "provider consent grant tool bindings must be unique and sorted"
  Py.refuse_value (g.max_uses ≠ CONSENT_MAX_USES) "provider consent grant max_uses is fixed"
  Py.refuse_value (¬ (0 ≤ g.uses_consumed ∧ g.uses_consumed ≤ g.max_uses))
    "provider consent grant uses_consumed is out of range"
  Py.refuse_value (g.granted_action_seq < 1)
    "provider consent grant action sequence must be positive"
  Py.refuse_not_hex64 "provider consent grant" " must be sha256" [
    ("provider_descriptor_digest", g.provider_descriptor_digest),
    ("control_schema_digest", g.control_schema_digest),
    ("disclosure_request_digest", g.disclosure_request_digest),
    ("scope_digest", g.scope_digest), ("grant_digest", g.grant_digest)]
  Py.refuse_value (g.grant_digest ≠ canonical_json_digest (.dict g.payload))
    "provider consent grant digest mismatch"

end ProviderConsentGrantFields

abbrev ProviderConsentGrantV1 : Type := Checked ProviderConsentGrantFields.post_init

namespace ProviderConsentGrantV1

def create (g : ProviderConsentGrantFields) : Py ProviderConsentGrantV1 :=
  Checked.make { g with grant_digest := canonical_json_digest (.dict g.payload) }

def with_status (g : ProviderConsentGrantV1) (status : ProviderConsentGrantStatus) :
    Py ProviderConsentGrantV1 :=
  create { g.val with status := status }

end ProviderConsentGrantV1

/-- `parse_zoned_time`: a zoned RFC3339 text, in UTC. -/
def parse_zoned_time (value : String) : Py PyDateTime := do
  let value := if PyText.endswith value "Z" then
      PyText.take value (value.toList.length - 1) ++ "+00:00" else value
  let parsed ← Py.expect_value (PyDateTime.fromisoformat value)
    "time value must be zoned RFC3339"
  let offset ← Py.expect_value parsed.offset "time value must be zoned RFC3339"
  parsed.astimezone_utc offset

/-- A UTC time as a grant prints it. -/
def utc_text (t : PyDateTime) : String := PyText.replace t.isoformat "+00:00" "Z"

/-- `mint_provider_consent_grant`. -/
def mint_provider_consent_grant (conversation_id : String) (request : ProviderDisclosureRequestV2)
    (action_seq : Int) (now : String) (profile : String := CONSENT_PROFILE_ROUTINE) :
    Py ProviderConsentGrantV1 := do
  Py.refuse_value
    (profile ∉ [CONSENT_PROFILE_ROUTINE, CONSENT_PROFILE_WORKSPACE_READ,
      CONSENT_PROFILE_WORKSPACE_COMMAND])
    "provider consent grant profile is unsupported"
  let allowed_classes :=
    if profile = CONSENT_PROFILE_WORKSPACE_READ then WORKSPACE_READ_DATA_CLASSES
    else if profile = CONSENT_PROFILE_WORKSPACE_COMMAND then WORKSPACE_COMMAND_DATA_CLASSES
    else ROUTINE_DATA_CLASSES
  let issued ← parse_zoned_time now
  let expires ← issued.add_minutes CONSENT_TTL_MINUTES
  ProviderConsentGrantV1.create {
    grant_id := "provider-consent:" ++ PyText.take request.val.request_digest 16 ++ ":" ++
      toString action_seq
    conversation_id := conversation_id
    workspace_identity_digest := request.val.workspace_identity_digest
    provider_descriptor_digest := request.val.provider_descriptor_digest
    canonical_destination := request.val.canonical_destination
    model := request.val.model
    profile := profile
    allowed_data_classes := allowed_classes
    tool_bindings := request.val.tool_bindings
    control_schema_digest := request.val.control_schema_digest
    disclosure_request_digest := request.val.request_digest
    scope_digest := request.val.scope_digest
    granted_action_seq := action_seq
    issued_at := utc_text issued
    expires_at := utc_text expires
    max_uses := CONSENT_MAX_USES
    uses_consumed := 0
    status := .active }
