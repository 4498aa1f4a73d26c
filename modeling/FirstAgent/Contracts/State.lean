import FirstAgent.Contracts.Disclosure
import FirstAgent.Contracts.Run

/-! # The Conversation State

    The canonical state of one conversation and its constructor check.  Every
    transition builds its result through this check, so an illegal state is
    never stored. -/

open Fallible

/-! ### Replay records -/

structure RecordedRunResult where
  status : RunStatus
  run_id : Option String := none
  message : Option String := none
  request_id : Option String := none
  error_code : Option String := none
  model_calls_used : Option Int := none
  input_tokens_used : Option Int := none
  output_tokens_used : Option Int := none
  deriving Repr, DecidableEq

structure ReplayRecordFields where
  action_seq : Int
  action_digest : String
  result : Option RecordedRunResult := none
  deriving Repr, DecidableEq

def ReplayRecordFields.post_init (r : ReplayRecordFields) : Py Unit :=
  Py.refuse_value (r.action_seq < 1 ∨ r.action_digest = "") "replay record identity must be valid"

/-- An accepted action and, once it is finalized, its result. -/
abbrev ReplayRecord : Type := Checked ReplayRecordFields.post_init

/-! ### Workspace binding -/

structure ConversationWorkspaceBindingFields where
  workspace_scope_digest : String
  workspace_identity_digest : String
  bound_at : String
  binding_digest : String := ""
  deriving Repr, DecidableEq

def ConversationWorkspaceBindingFields.expected_digest (b : ConversationWorkspaceBindingFields) :
    String :=
  canonical_json_digest <| .dict <| JsonDict.of [
    ("workspace_scope_digest", .str b.workspace_scope_digest),
    ("workspace_identity_digest", .str b.workspace_identity_digest),
    ("bound_at", .str b.bound_at)]

def ConversationWorkspaceBindingFields.post_init (b : ConversationWorkspaceBindingFields) :
    Py Unit := do
  Py.refuse_value
    (Py.any_empty [b.workspace_scope_digest, b.workspace_identity_digest, b.bound_at,
      b.binding_digest])
    "workspace binding fields must be non-empty strings"
  Py.refuse_value (b.expected_digest ≠ b.binding_digest) "workspace binding digest mismatch"

abbrev ConversationWorkspaceBindingV1 : Type :=
  Checked ConversationWorkspaceBindingFields.post_init

def ConversationWorkspaceBindingV1.create (b : ConversationWorkspaceBindingFields) :
    Py ConversationWorkspaceBindingV1 :=
  Checked.make { b with binding_digest := b.expected_digest }

/-! ### Fields of the state -/

structure ConversationStateFields where
  conversation_id : String
  revision : Int := 0
  next_action_seq : Int := 1
  replay_floor : Int := 1
  replay_records : List ReplayRecord := []
  facts : List ConversationFact := []
  active_run : Option ActiveRun := none
  last_safe_result : Option RecordedRunResult := none
  goal : Option GoalFrame := none
  goal_authorizations : List GoalAuthorizationBinding := []
  evidence_records : List EvidenceRecord := []
  completion_claim : Option CompletionClaim := none
  interaction_state : InteractionState := .idle
  provider_disclosure_request : Option DisclosureRequest := none
  provider_disclosure_receipt : Option DisclosureReceipt := none
  control_receipts : List ControlReceipt := []
  workspace_binding : Option ConversationWorkspaceBindingV1 := none
  background_occurrence_binding : Option BackgroundOccurrenceBindingV1 := none
  process_leases : List ProcessAuthorityLeaseV1 := []
  sandbox_leases : List SandboxAuthorityLeaseV1 := []
  browser_leases : List BrowserAuthorityLeaseV1 := []
  browser_takeover_pending : Option BrowserTakeoverRequestV1 := none
  provider_consent_grant : Option ProviderConsentGrantV1 := none
  provider_source_proofs : List ProviderFileSourceProofV1 := []
  summary_source_boundaries : List ProviderSummarySourceBoundaryV1 := []
  deriving DecidableEq

namespace ConversationStateFields

def fact_ids (s : ConversationStateFields) : List String := s.facts.map fun f => f.val.fact_id

/-- The sequence numbers of the retained replay records. -/
def replay_sequences (s : ConversationStateFields) : List Int :=
  s.replay_records.map fun r => r.val.action_seq

def evidence_ids (s : ConversationStateFields) : List String :=
  s.evidence_records.map fun r => r.val.evidence_id

/-! ### The constructor check -/

def check_sequences (s : ConversationStateFields) : Py Unit := do
  Py.refuse_value (s.conversation_id = "") "conversation_id must not be empty"
  Py.refuse_value (s.revision < 0) "revision must be non-negative"
  Py.refuse_value (s.next_action_seq < 1) "next_action_seq must be positive"
  Py.refuse_value (s.replay_floor < 1 ∨ s.next_action_seq < s.replay_floor)
    "replay_floor must be within the processed sequence range"
  Py.refuse_value (¬ s.fact_ids.Nodup) "fact_id must be unique within a conversation"
  Py.refuse_value (¬ s.replay_sequences.Pairwise (· ≤ ·))
    "replay records must be ordered by action_seq"
  Py.refuse_value (¬ s.replay_sequences.Nodup) "replay action_seq must be unique"
  Py.refuse_value
    (∃ n ∈ s.replay_sequences, n < s.replay_floor ∨ s.next_action_seq ≤ n)
    "replay action_seq is outside the retained sequence window"
  Py.refuse_value (¬ s.evidence_ids.Nodup) "evidence_id must be unique within a conversation"

/-- A lease as the lease checks see it: its id and what it binds. -/
structure LeaseBinding where
  lease_id : String
  goal_id : String
  goal_revision : Int
  workspace_identity_digest : String
  deriving Repr, DecidableEq

def ProcessLease.binding (l : ProcessAuthorityLeaseV1) : LeaseBinding :=
  ⟨l.val.lease_id, l.val.goal_id, l.val.goal_revision, l.val.workspace_identity_digest⟩

def SandboxLease.binding (l : SandboxAuthorityLeaseV1) : LeaseBinding :=
  ⟨l.val.lease_id, l.val.goal_id, l.val.goal_revision, l.val.workspace_identity_digest⟩

/-- Leases of one kind are bounded, unique, and bind the current revision of
    a Goal that is not terminal. -/
def validate_leases (kind : String) (capacity : Nat) (leases : List LeaseBinding)
    (goal : GoalFrame) : Py Unit := do
  Py.refuse_value (capacity < leases.length)
    (kind ++ " lease count exceeds bounded capacity")
  Py.refuse_value (¬ (leases.map LeaseBinding.lease_id).Nodup)
    (kind ++ " lease_id must be unique")
  Py.refuse_value (goal.val.status.is_terminal ∧ leases ≠ [])
    ("terminal goal must not retain " ++ kind ++ " leases")
  Py.refuse_value
    (∃ l ∈ leases, l.goal_id ≠ goal.val.goal_id ∨ l.goal_revision ≠ goal.val.revision
      ∨ l.workspace_identity_digest ≠ goal.val.workspace_identity_digest)
    (kind ++ " lease must bind the current goal revision")

def validate_process_leases (s : ConversationStateFields) (goal : GoalFrame) : Py Unit :=
  validate_leases "process" MAX_PROCESS_LEASES (s.process_leases.map ProcessLease.binding) goal

def validate_sandbox_leases (s : ConversationStateFields) (goal : GoalFrame) : Py Unit :=
  validate_leases "sandbox" MAX_SANDBOX_LEASES (s.sandbox_leases.map SandboxLease.binding) goal

/-- The claimed evidence of a criterion: the last matching record. -/
def claimed_record (s : ConversationStateFields) (claim : CompletionClaim) (criterion_id : String) :
    Option EvidenceRecord :=
  s.evidence_records.reverse.find? fun r =>
    claim.val.criterion_evidence_refs.contains r.val.evidence_id ∧ r.val.criterion_id = criterion_id

/-- A criterion has claimed passing evidence of its own oracle and predicate. -/
def criterion_verified (s : ConversationStateFields) (claim : CompletionClaim)
    (c : AdmittedCriterion) : Bool :=
  (s.claimed_record claim c.val.criterion_id).any fun r =>
    r.val.passed && r.val.oracle_kind = c.val.oracle_kind &&
      r.val.predicate_digest = canonical_json_digest (.dict c.val.predicate)

def check_verified_done (s : ConversationStateFields) (goal : GoalFrame) : Py Unit := do
  let claim ← Py.expect_value s.completion_claim
    "VERIFIED_DONE requires a current completion claim"
  Py.refuse_value
    (s.active_run.any fun r => r.val.phase = .executing || r.val.status = .awaiting_recovery)
    "VERIFIED_DONE cannot coexist with an unknown effect"
  let mandatory := goal.val.admitted_criteria.filter fun c => c.val.mandatory
  Py.refuse_value (mandatory = [] ∨ mandatory.any fun c => !s.criterion_verified claim c)
    "VERIFIED_DONE requires current passing evidence for every mandatory criterion"

def check_goal (s : ConversationStateFields) (goal : GoalFrame) : Py Unit := do
  s.validate_process_leases goal
  s.validate_sandbox_leases goal
  Py.refuse_value
    (s.workspace_binding.any fun b =>
      goal.val.workspace_identity_digest ≠ b.val.workspace_identity_digest)
    "goal and conversation workspace binding must match"
  Py.refuse_value
    (¬ (s.goal_authorizations.map fun b => b.val.binding_id).Nodup
      ∨ s.goal_authorizations.any fun b =>
        !b.authorizes goal.val.goal_id goal.val.revision goal.val.workspace_identity_digest
          b.val.operation b.val.normalized_target)
    "goal authorization must bind the current goal exactly"
  Py.refuse_value
    (∃ r ∈ s.evidence_records, r.val.goal_id ≠ goal.val.goal_id
      ∨ r.val.goal_revision ≠ goal.val.revision)
    "evidence must bind the current goal revision"
  Py.refuse_value
    (s.completion_claim.any fun c =>
      c.val.goal_id ≠ goal.val.goal_id || c.val.goal_revision ≠ goal.val.revision ||
        !c.val.criterion_evidence_refs.all fun e => s.evidence_ids.contains e)
    "completion claim must bind current goal evidence"
  if goal.val.status = .verified_done then s.check_verified_done goal else .ok ()

def check_no_goal (s : ConversationStateFields) : Py Unit :=
  Py.refuse_value
    (s.goal_authorizations ≠ [] ∨ s.evidence_records ≠ [] ∨ s.completion_claim ≠ none
      ∨ s.process_leases ≠ [] ∨ s.sandbox_leases ≠ [])
    "goal authority, evidence, completion claim and leases require a goal"

/-- The fact a summary boundary binds is a summary. -/
def is_summary_fact (s : ConversationStateFields) (fact_id : String) : Bool :=
  s.facts.any fun f => f.val.fact_id = fact_id && f.val.kind = .context_summary

def check_provider (s : ConversationStateFields) : Py Unit := do
  Py.refuse_value
    (s.provider_disclosure_receipt.any fun r =>
      s.provider_disclosure_request.all fun q => q.request_digest ≠ r.request_digest)
    "provider disclosure receipt must bind the current request"
  Py.refuse_value
    (s.provider_consent_grant.any fun g => g.val.conversation_id ≠ s.conversation_id)
    "provider consent grant must bind this conversation"
  Py.refuse_value (¬ (s.provider_source_proofs.map fun p => p.val.proof_id).Nodup)
    "provider source proof ids must be unique"
  Py.refuse_value
    (s.provider_source_proofs.any fun p => p.val.conversation_id ≠ s.conversation_id)
    "provider source proof must bind this conversation"
  Py.refuse_value (¬ (s.summary_source_boundaries.map fun b => b.val.summary_fact_id).Nodup)
    "summary source boundary ids must be unique"
  Py.refuse_value
    (s.summary_source_boundaries.any fun b => !s.is_summary_fact b.val.summary_fact_id)
    "summary source boundary must bind a summary fact"
  Py.refuse_value (¬ (s.control_receipts.map fun r => r.val.correlation_id).Nodup)
    "control receipt correlation_id must be unique"

def post_init (s : ConversationStateFields) : Py Unit := do
  s.check_sequences
  match s.goal with
  | none      => s.check_no_goal
  | some goal => s.check_goal goal
  s.check_provider

end ConversationStateFields

/-- The canonical state of a conversation. -/
abbrev ConversationState : Type := Checked ConversationStateFields.post_init

namespace ConversationState

/-- `ConversationState.new`. -/
def new (conversation_id : String)
    (workspace_binding : Option ConversationWorkspaceBindingV1 := none)
    (background_occurrence_binding : Option BackgroundOccurrenceBindingV1 := none) :
    Py ConversationState :=
  Checked.make {
    conversation_id := conversation_id
    workspace_binding := workspace_binding
    background_occurrence_binding := background_occurrence_binding }

/-- A conversation nothing happened in. -/
def fresh : ConversationState := ⟨{ conversation_id := "conversation" }, by decide⟩

theorem new_fresh : new "conversation" = .ok fresh :=
  Checked.make_val fresh

end ConversationState
