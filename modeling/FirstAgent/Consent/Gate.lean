import FirstAgent.Python.IntText
import FirstAgent.State.Dispatch

/-! # The Provider Dispatch Gate

    Whether a dispatch to a provider is admitted, and what an admitted one is
    charged to: a use of the consent grant, or the single-use disclosure
    receipt.  `evaluate_provider_dispatch` only reads the state;
    `charge_provider_dispatch` evaluates again on the state it changes and
    refuses a gate that is not the one it finds. -/

open Fallible

/-! ### Providers -/

/-- A configured provider.  The URL checks of its constructor are left out:
    nothing here rests on the shape of the destination. -/
structure ProviderDescriptor where
  family : String
  model : String
  canonical_destination : String
  trust_profile : String
  remote : Bool
  deriving Repr, DecidableEq

def ProviderDescriptor.identity_digest (d : ProviderDescriptor) : String :=
  canonical_json_digest <| .dict <| JsonDict.of [
    ("family", .str d.family),
    ("model", .str d.model),
    ("canonical_destination", .str d.canonical_destination),
    ("trust_profile", .str d.trust_profile),
    ("remote", .bool d.remote)]

/-! ### The grant -/

/-- A UTC time as microseconds. -/
def PyDateTime.utc_microseconds (t : PyDateTime) : Int :=
  (((to_ordinal t.year t.month t.day * 24 + t.hour) * 60 + t.minute) * 60 + t.second) * 1000000 +
    t.microsecond

/-- `timedelta(seconds=CONSENT_TTL_SECONDS)`. -/
def CONSENT_TTL_MICROSECONDS : Int := CONSENT_TTL_MINUTES * 60 * 1000000

def grant_identity_matches (grant : ProviderConsentGrantV1) (descriptor : ProviderDescriptor)
    (workspace_identity_digest : String) : Bool :=
  grant.val.provider_descriptor_digest = descriptor.identity_digest &&
    grant.val.canonical_destination = descriptor.canonical_destination &&
    grant.val.model = descriptor.model &&
    grant.val.workspace_identity_digest = workspace_identity_digest

/-- Why the grant cannot be used on its own; `none` is that it can. -/
def grant_availability (grant : ProviderConsentGrantV1) (now : String) : Py (Option String) :=
  if grant.val.status ≠ .active then pure (some grant.val.status.value)
  else do
    let issued ← parse_zoned_time grant.val.issued_at
    let expires ← parse_zoned_time grant.val.expires_at
    let current ← parse_zoned_time now
    if expires.utc_microseconds - issued.utc_microseconds ≠ CONSENT_TTL_MICROSECONDS then
      pure (some "invalid_lifetime")
    else if current.utc_microseconds < issued.utc_microseconds then pure (some "not_yet_valid")
    else if expires.utc_microseconds ≤ current.utc_microseconds then pure (some "expired")
    else if CONSENT_MAX_USES ≤ grant.val.uses_consumed then pure (some "exhausted")
    else pure none

/-- The digest the grant approves for a tool; of two bindings of one name the
    last would count. -/
def approved_identity (grant : ProviderConsentGrantV1) (name : String) : Option String :=
  (grant.val.tool_bindings.reverse.find? fun b => b.val.name = name).map fun b =>
    b.val.identity_digest

/-- `_grant_structure_pinned`. -/
def grant_structure_pinned (grant : ProviderConsentGrantV1) (control_schema_digest : String)
    (tool_bindings : List ProviderConsentToolBindingV1) : Bool :=
  (tool_bindings.all fun b =>
    approved_identity grant b.val.name = some b.val.identity_digest) &&
      control_schema_digest = grant.val.control_schema_digest

/-- `_grant_covers_structure`. -/
def grant_covers_structure (grant : ProviderConsentGrantV1) (scope : ProviderConsentScopeV1)
    (exception_classes : List String := []) : Bool :=
  grant_structure_pinned grant scope.val.control_schema_digest scope.val.tool_bindings &&
    (scope.val.data_classes.filter fun c => c ∉ exception_classes).all
      (· ∈ grant.val.allowed_data_classes)

/-- `_nonroutine_classes`. -/
def nonroutine_classes (scope : ProviderConsentScopeV1) : List String :=
  scope.val.data_classes.filter fun c => c ∉ ROUTINE_DATA_CLASSES

/-! ### The candidate request -/

/-- `_scope_digest`. -/
def scope_digest (descriptor : ProviderDescriptor) (scope : ProviderConsentScopeV1) : String :=
  canonical_json_digest <| .dict <| JsonDict.of [
    ("profile", .str CONSENT_PROFILE_ROUTINE),
    ("provider_descriptor_digest", .str descriptor.identity_digest),
    ("canonical_destination", .str descriptor.canonical_destination),
    ("model", .str descriptor.model),
    ("workspace_identity_digest", .str scope.val.workspace_identity_digest),
    ("goal_id", .opt_str scope.val.goal_id),
    ("goal_revision", .opt_int scope.val.goal_revision),
    ("sources", .arr (scope.val.sources.map ProviderDisclosureSourceV1.identity_payload))]

def build_disclosure_request_v2 (descriptor : ProviderDescriptor) (scope : ProviderConsentScopeV1)
    (grant : Option ProviderConsentGrantV1) (purpose run_id : String) :
    Py ProviderDisclosureRequestV2 :=
  let request : ProviderDisclosureRequestV2Fields := {
    disclosure_id := "provider:" ++ PyText.take descriptor.identity_digest 16 ++ ":v2"
    provider_descriptor_digest := descriptor.identity_digest
    canonical_destination := descriptor.canonical_destination
    model := descriptor.model
    workspace_identity_digest := scope.val.workspace_identity_digest
    data_classes := scope.val.data_classes
    sources := scope.val.sources
    tool_bindings := scope.val.tool_bindings
    control_schema_digest := scope.val.control_schema_digest
    grant_id := grant.map fun g => g.val.grant_id
    grant_eligible := scope.val.routine_compatible
    purpose := purpose
    run_id := run_id
    goal_id := scope.val.goal_id
    goal_revision := scope.val.goal_revision
    scope_digest := scope_digest descriptor scope
    request_digest := "" }
  Checked.make { request with request_digest := canonical_json_digest (.dict request.payload) }

/-- `_legacy_request_matches`. -/
def legacy_request_matches (request : ProviderDisclosureRequest) (descriptor : ProviderDescriptor)
    (scope : ProviderConsentScopeV1) : Bool :=
  request.val.provider_descriptor_digest = descriptor.identity_digest &&
    request.val.canonical_destination = descriptor.canonical_destination &&
    request.val.model = descriptor.model && request.val.data_classes = scope.val.data_classes

/-- The request a dispatch is judged by: a pending request of version 1 keeps
    its exact meaning where there is no grant. -/
def candidate_request (s : ConversationState) (descriptor : ProviderDescriptor)
    (scope : ProviderConsentScopeV1) (purpose run_id : String) : Py DisclosureRequest :=
  let build := do
    pure (.v2 (← build_disclosure_request_v2 descriptor scope s.val.provider_consent_grant purpose
      run_id))
  match s.val.provider_consent_grant, s.val.provider_disclosure_request with
  | none, some (.v1 pending) =>
    if legacy_request_matches pending descriptor scope then pure (.v1 pending) else build
  | _, _ => build

/-! ### The receipt -/

/-- The number of the action that appended a fact, as its id tells it. -/
def fact_action_seq (f : ConversationFact) : Option Int :=
  match PyText.split f.val.fact_id ':' with
  | _ :: part :: _ => PyText.int? part
  | _              => none

/-- `_no_new_user_input_since`. -/
def no_new_user_input_since (s : ConversationState) (receipt : ProviderDisclosureReceiptV2) :
    Bool :=
  s.val.facts.all fun f => f.val.kind ≠ .user_message ||
    (fact_action_seq f).all fun seq => seq ≤ receipt.val.acknowledged_action_seq

/-- `_same_pending_unit`. -/
def same_pending_unit (candidate previous : ProviderDisclosureRequestV2) : Bool :=
  candidate.val.purpose = previous.val.purpose &&
    candidate.val.tool_bindings = previous.val.tool_bindings &&
    candidate.val.control_schema_digest = previous.val.control_schema_digest

/-- `_exact_receipt_matches`, on a request and a receipt of version 2. -/
def exact_receipt_matches (s : ConversationState)
    (candidate previous : ProviderDisclosureRequestV2) (receipt : ProviderDisclosureReceiptV2) :
    Bool :=
  receipt.val.request_digest = previous.val.request_digest &&
    no_new_user_input_since s receipt &&
    (receipt.val.request_digest = candidate.val.request_digest ||
      same_pending_unit candidate previous &&
        candidate.val.scope_digest = previous.val.scope_digest &&
        candidate.val.sources = previous.val.sources &&
        (candidate.val.data_classes.filter fun c => c ∉ previous.val.data_classes).all
          (· = "control_receipts"))

/-- `_exact_routine_receipt_covers`, on a request and a receipt of version 2. -/
def exact_routine_receipt_covers (s : ConversationState)
    (candidate previous : ProviderDisclosureRequestV2) (receipt : ProviderDisclosureReceiptV2) :
    Bool :=
  candidate.val.grant_eligible && candidate.val.sources.isEmpty &&
    receipt.val.consumed_at = none &&
    receipt.val.request_digest = previous.val.request_digest &&
    previous.val.scope_digest = candidate.val.scope_digest &&
    previous.val.sources = candidate.val.sources && same_pending_unit candidate previous &&
    no_new_user_input_since s receipt &&
    previous.val.data_classes.all (· ∈ candidate.val.data_classes) &&
    candidate.val.data_classes.all fun c =>
      c ∈ previous.val.data_classes || c = "control_receipts"

/-- `_exception_is_covered`: the sources are those of the last request the
    user agreed to under this grant, whether its receipt is spent or not. -/
def exception_is_covered (candidate : ProviderDisclosureRequestV2) (s : ConversationState)
    (grant : ProviderConsentGrantV1) (scope : ProviderConsentScopeV1) : Bool :=
  match s.val.provider_disclosure_request, s.val.provider_disclosure_receipt with
  | some (.v2 previous), some (.v2 receipt) =>
    let nonroutine := nonroutine_classes scope
    let source_classes := candidate.val.sources.map fun source => source.val.data_class
    receipt.val.request_digest = previous.val.request_digest &&
      previous.val.grant_id = some grant.val.grant_id &&
      previous.val.scope_digest = candidate.val.scope_digest &&
      previous.val.sources = candidate.val.sources &&
      !candidate.val.sources.isEmpty && (candidate.val.sources.all fun source =>
        source.val.reusable) &&
      ("command_output" ∉ nonroutine || "command_output" ∈ grant.val.allowed_data_classes) &&
      nonroutine.all (· ∈ source_classes) && source_classes.all (· ∈ nonroutine) &&
      grant_covers_structure grant scope nonroutine
  | _, _ => false

/-! ### The gate -/

/-- `ProviderDispatchGateV1`. -/
structure ProviderDispatchGateV1 where
  request : Option DisclosureRequest
  admitted : Bool
  grant_use : Bool
  consume_receipt : Bool
  reason : String
  grant_invalidated : Bool := false
  mark_receipt_consumed : Bool := false
  deriving DecidableEq

def WORKSPACE_PROOF_PROFILES : List String :=
  [CONSENT_PROFILE_WORKSPACE_READ, CONSENT_PROFILE_WORKSPACE_COMMAND]

/-- A receipt of version 2 that is not spent. -/
def unspent_receipt (s : ConversationState) : Bool :=
  match s.val.provider_disclosure_receipt with
  | some (.v2 receipt) => receipt.val.consumed_at = none
  | _                  => false

/-- The gate of a dispatch a usable grant admits. -/
def grant_gate (s : ConversationState) (grant : ProviderConsentGrantV1)
    (scope : ProviderConsentScopeV1) (candidate : DisclosureRequest) :
    Option ProviderDispatchGateV1 :=
  let gate := fun reason mark => some {
    request := some candidate, admitted := true, grant_use := true, consume_receipt := false,
    reason := reason, mark_receipt_consumed := mark }
  if scope.val.routine_compatible && grant_covers_structure grant scope then
    -- an unspent receipt is left as it is
    gate "grant_routine" false
  else if grant.val.profile ∈ WORKSPACE_PROOF_PROFILES &&
      workspace_read_classes_covered scope.val.data_classes scope.val.sources &&
      grant_covers_structure grant scope then
    gate "grant_workspace_read" (unspent_receipt s)
  else match candidate with
    | .v2 request =>
      if exception_is_covered request s grant scope then gate "grant_exception" true else none
    | .v1 _ => none

/-- The gate of the grant, when nothing keeps the grant from being used. -/
def usable_grant_gate (s : ConversationState) (availability : Option String)
    (scope : ProviderConsentScopeV1) (candidate : DisclosureRequest) :
    Option ProviderDispatchGateV1 :=
  match s.val.provider_consent_grant, availability with
  | some grant, none => grant_gate s grant scope candidate
  | _, _             => none

/-- The gate of a dispatch the receipt admits. -/
def receipt_gate (s : ConversationState) (candidate : DisclosureRequest) :
    Option ProviderDispatchGateV1 :=
  let gate := fun reason consume => some {
    request := some candidate, admitted := true, grant_use := false, consume_receipt := consume,
    reason := reason }
  match candidate, s.val.provider_disclosure_request, s.val.provider_disclosure_receipt with
  | .v2 request, some (.v2 previous), some (.v2 receipt) =>
    if receipt.val.consumed_at = none && exact_receipt_matches s request previous receipt then
      gate "exact_receipt" true
    else if exact_routine_receipt_covers s request previous receipt then
      gate "exact_routine_scope" true
    else none
  | .v1 request, _, some (.v1 receipt) =>
    if receipt.val.request_digest = request.val.request_digest then gate "legacy_receipt" false
    else none
  | _, _, _ => none

def evaluate_provider_dispatch (s : ConversationState) (descriptor : Option ProviderDescriptor)
    (scope : Option ProviderConsentScopeV1) (now purpose run_id : String) :
    Py ProviderDispatchGateV1 :=
  match descriptor.filter fun d => d.remote, scope with
  | none, _ => pure {
      request := none, admitted := true, grant_use := false, consume_receipt := false,
      reason := "not_remote" }
  | some _, none => pure {
      request := none, admitted := false, grant_use := false, consume_receipt := false,
      reason := "consent_scope_missing" }
  | some d, some scope => do
    let refused := fun request reason invalidated => {
      request := some request, admitted := false, grant_use := false, consume_receipt := false,
      reason := reason, grant_invalidated := invalidated }
    let grant := s.val.provider_consent_grant
    let candidate ← candidate_request s d scope purpose run_id
    if grant.any fun g => g.val.status = .active &&
        !grant_identity_matches g d scope.val.workspace_identity_digest then
      pure (refused candidate "grant_identity_changed" true)
    else do
      let availability ← (match grant with
        | none   => pure none
        | some g => grant_availability g now)
      match (usable_grant_gate s availability scope candidate).or (receipt_gate s candidate) with
      | some gate => pure gate
      | none      =>
        pure (refused candidate
          (if availability.isSome then "grant_unavailable" else "decision_required") false)

/-! ### Charging -/

/-- A grant still usable pays with one use. -/
def charge_grant (s : ConversationState) (now : String) : Py ConversationState := do
  let unusable := "provider consent grant is no longer usable"
  let grant ← Py.expect_value s.val.provider_consent_grant unusable
  let availability ← grant_availability grant now
  Py.refuse_value (availability ≠ none) unusable
  charge_consent_grant s

/-- A receipt not yet spent is marked as spent. -/
def mark_disclosure_receipt (s : ConversationState) (now : String) : Py ConversationState :=
  if unspent_receipt s then consume_disclosure_receipt s now else pure s

def charge_provider_dispatch (s : ConversationState) (gate : ProviderDispatchGateV1)
    (descriptor : ProviderDescriptor) (scope : ProviderConsentScopeV1)
    (purpose run_id now : String) : Py ConversationState := do
  let recomputed ← evaluate_provider_dispatch s (some descriptor) (some scope) now purpose run_id
  Py.refuse_value (recomputed.admitted = false ∨ recomputed ≠ gate)
    "provider dispatch gate is stale or unapproved for this dispatch"
  let s ← (if gate.grant_use then charge_grant s now else pure s)
  let s ← (if gate.consume_receipt then consume_disclosure_receipt s now else pure s)
  if gate.mark_receipt_consumed then mark_disclosure_receipt s now else pure s

/-- The last check before the transport: only the times of the grant count. -/
def final_dispatch_expiry_check (s : ConversationState) (gate : ProviderDispatchGateV1)
    (now : String) : Py (Option String) :=
  if gate.grant_use = false then pure none
  else match s.val.provider_consent_grant with
    | none       => pure (some "grant_missing")
    | some grant => do
      let current ← parse_zoned_time now
      if current.utc_microseconds < (← parse_zoned_time grant.val.issued_at).utc_microseconds then
        pure (some "not_yet_valid")
      else if (← parse_zoned_time grant.val.expires_at).utc_microseconds ≤
          current.utc_microseconds then
        pure (some "expired")
      else pure none
