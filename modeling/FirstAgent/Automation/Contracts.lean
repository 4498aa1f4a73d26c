import FirstAgent.Contracts.Enums
import FirstAgent.Python.Utc

/-! # Automation Contracts

    The immutable records of portable automations: the schedule and budgets of
    a definition, its body, the background grant that binds the body, the
    approved definition, and the authority of one claimed occurrence. -/

open Fallible

/-! ### Closed enumerations -/

inductive ExecutionMode where
  | fresh_occurrence
  deriving Repr, DecidableEq

inductive ScheduleKind where
  | once_utc | fixed_interval_utc
  deriving Repr, DecidableEq

inductive CatchUpRule where
  | none | latest_one
  deriving Repr, DecidableEq

inductive AutomationStatus where
  | proposal | active | paused | cancel_pending | canceled | purge_pending | purged
  deriving Repr, DecidableEq

inductive PurgeObjectKind where
  | source_snapshot | occurrence_workspace | retained_diff | retained_artifact
  | runtime_checkpoint | governed_external_reference
  deriving Repr, DecidableEq

inductive PurgeCleanupOutcome where
  | cleaned | unlinked | cleanup_unknown
  deriving Repr, DecidableEq

inductive OccurrenceControlStatus where
  | claimed | dispatched | running | completed | needs_human | failed | misfire_skipped
  | superseded | worker_deadline | start_outcome_unknown | model_outcome_unknown
  | effect_outcome_unknown | cleanup_unknown | canceled
  deriving Repr, DecidableEq

inductive ScheduleDecisionKind where
  | not_due | due | misfire_skipped | expired | max_reached | paused | cancel_pending | canceled
  | needs_human
  deriving Repr, DecidableEq

def ExecutionMode.value : ExecutionMode → String
  | .fresh_occurrence => "fresh_occurrence"

def ScheduleKind.value : ScheduleKind → String
  | .once_utc           => "once_utc"
  | .fixed_interval_utc => "fixed_interval_utc"

def CatchUpRule.value : CatchUpRule → String
  | .none       => "none"
  | .latest_one => "latest_one"

def AutomationStatus.value : AutomationStatus → String
  | .proposal       => "proposal"
  | .active         => "active"
  | .paused         => "paused"
  | .cancel_pending => "cancel_pending"
  | .canceled       => "canceled"
  | .purge_pending  => "purge_pending"
  | .purged         => "purged"

def PurgeObjectKind.value : PurgeObjectKind → String
  | .source_snapshot             => "source_snapshot"
  | .occurrence_workspace        => "occurrence_workspace"
  | .retained_diff               => "retained_diff"
  | .retained_artifact           => "retained_artifact"
  | .runtime_checkpoint          => "runtime_checkpoint"
  | .governed_external_reference => "governed_external_reference"

def OccurrenceControlStatus.value : OccurrenceControlStatus → String
  | .claimed                => "claimed"
  | .dispatched             => "dispatched"
  | .running                => "running"
  | .completed              => "completed"
  | .needs_human            => "needs_human"
  | .failed                 => "failed"
  | .misfire_skipped        => "misfire_skipped"
  | .superseded             => "superseded"
  | .worker_deadline        => "worker_deadline"
  | .start_outcome_unknown  => "start_outcome_unknown"
  | .model_outcome_unknown  => "model_outcome_unknown"
  | .effect_outcome_unknown => "effect_outcome_unknown"
  | .cleanup_unknown        => "cleanup_unknown"
  | .canceled               => "canceled"

/-! ### Field checks -/

namespace PyText

/-- `_OPAQUE_ID.fullmatch`. -/
def is_opaque_id (s : String) : Bool :=
  1 ≤ s.toList.length && s.toList.length ≤ 64 &&
    s.toList.all fun c => c.isAlphanum || c == '_' || c == '.' || c == ':' || c == '-'

/-- `_ENV_NAME.fullmatch`. -/
def is_env_name (s : String) : Bool :=
  match s.toList with
  | []      => false
  | c :: cs => (c.isAlpha || c == '_') && cs.length ≤ 127 &&
      cs.all fun c => c.isAlphanum || c == '_'

end PyText

namespace Py

def require_hex64 (value field : String) : Py Unit :=
  refuse_value (PyText.is_lower_hex value 64 = false) (field ++ " must be bare hex64")

/-- The same check of an optional digest. -/
def require_hex64_or_none (value : Option String) (field : String) : Py Unit :=
  value.elim (.ok ()) fun v => require_hex64 v field

def require_opaque_id (value field : String) : Py Unit :=
  refuse_value (PyText.is_opaque_id value = false) (field ++ " must be an opaque id")

def require_positive_int (value : Int) (field : String) (maximum : Int) : Py Unit :=
  refuse_value (value < 1 ∨ maximum < value)
    (field ++ " must be an int in 1.." ++ toString maximum)

def require_nonnegative_int (value : Int) (field : String) (maximum : Int) : Py Unit :=
  refuse_value (value < 0 ∨ maximum < value)
    (field ++ " must be an int in 0.." ++ toString maximum)

end Py

def parse_canonical_utc (value field : String) : Py UtcTime :=
  Py.expect_value (UtcTime.parse value) (field ++ " must be canonical UTC (...Z)")

def format_canonical_utc (value : UtcTime) : String := value.format

/-- A digest a constructor fills in when it is not given. -/
def digest_or (given expected : String) : String := if given = "" then expected else given

/-! ### Schedule and budgets -/

structure AutomationScheduleFields where
  kind : ScheduleKind
  anchor_utc : String
  interval_seconds : Option Int
  catch_up : CatchUpRule
  misfire_grace_seconds : Int
  schedule_digest : String := ""
  deriving Repr, DecidableEq

namespace AutomationScheduleFields

def identity_values (s : AutomationScheduleFields) : List (String × Json) := [
  ("kind", .str s.kind.value),
  ("anchor_utc", .str s.anchor_utc),
  ("interval_seconds", .opt_int s.interval_seconds),
  ("catch_up", .str s.catch_up.value),
  ("misfire_grace_seconds", .int s.misfire_grace_seconds)]

def expected_digest (s : AutomationScheduleFields) : String :=
  canonical_json_digest (.dict (JsonDict.of s.identity_values))

def post_init (s : AutomationScheduleFields) : Py Unit := do
  let _ ← parse_canonical_utc s.anchor_utc "anchor_utc"
  Py.require_nonnegative_int s.misfire_grace_seconds "misfire_grace_seconds" 3600
  if s.kind = .once_utc then
    Py.refuse_value (s.interval_seconds ≠ none) "once schedule interval_seconds must be null"
  else
    Py.refuse_value (s.interval_seconds.all (fun n => n < 60 || 2592000 < n))
      "fixed interval_seconds must be an int in 60..2592000"
  Py.refuse_value (s.schedule_digest ≠ s.expected_digest) "schedule digest mismatch"

end AutomationScheduleFields

abbrev AutomationScheduleV1 : Type := Checked AutomationScheduleFields.post_init

/-- The constructor: a missing digest is filled in. -/
def AutomationScheduleV1.create (s : AutomationScheduleFields) : Py AutomationScheduleV1 :=
  Checked.make { s with schedule_digest := digest_or s.schedule_digest s.expected_digest }

structure AutomationBudgetsFields where
  occurrence_deadline_seconds : Int
  model_calls : Int
  tool_calls : Int
  sandbox_commands : Int
  browser_actions : Int
  max_input_tokens : Int
  max_output_tokens : Int
  budgets_digest : String := ""
  deriving Repr, DecidableEq

namespace AutomationBudgetsFields

def identity_values (b : AutomationBudgetsFields) : List (String × Json) := [
  ("occurrence_deadline_seconds", .int b.occurrence_deadline_seconds),
  ("model_calls", .int b.model_calls),
  ("tool_calls", .int b.tool_calls),
  ("sandbox_commands", .int b.sandbox_commands),
  ("browser_actions", .int b.browser_actions),
  ("max_input_tokens", .int b.max_input_tokens),
  ("max_output_tokens", .int b.max_output_tokens)]

def expected_digest (b : AutomationBudgetsFields) : String :=
  canonical_json_digest (.dict (JsonDict.of b.identity_values))

def post_init (b : AutomationBudgetsFields) : Py Unit := do
  Py.require_positive_int b.occurrence_deadline_seconds "occurrence_deadline_seconds" 3600
  Py.refuse_value (b.occurrence_deadline_seconds < 30)
    "occurrence_deadline_seconds must be an int in 30..3600"
  Py.require_positive_int b.model_calls "model_calls" 16
  Py.require_positive_int b.tool_calls "tool_calls" 32
  Py.require_nonnegative_int b.sandbox_commands "sandbox_commands" 16
  Py.require_nonnegative_int b.browser_actions "browser_actions" 32
  Py.require_positive_int b.max_input_tokens "max_input_tokens" 100000
  Py.require_positive_int b.max_output_tokens "max_output_tokens" 20000
  Py.refuse_value (b.budgets_digest ≠ b.expected_digest) "budgets digest mismatch"

end AutomationBudgetsFields

abbrev AutomationBudgetsV1 : Type := Checked AutomationBudgetsFields.post_init

def AutomationBudgetsV1.create (b : AutomationBudgetsFields) : Py AutomationBudgetsV1 :=
  Checked.make { b with budgets_digest := digest_or b.budgets_digest b.expected_digest }

/-! ### The body of a definition -/

structure AutomationDefinitionBodyFields where
  automation_id : String
  revision : Int
  label : String
  task_text : String
  source_workspace_binding_digest : String
  execution_mode : ExecutionMode
  provider_descriptor_digest : String
  trust_profile_digest : String
  credential_environment_name : Option String
  provider_disclosure_request_digest : String
  schedule : AutomationScheduleV1
  required_start_utc : String
  expires_at_utc : String
  max_occurrences : Int
  budgets : AutomationBudgetsV1
  source_snapshot_digest : String
  background_environment_policy_digest : Option String
  browser_origin_policy_digest : Option String
  wake_adapter_policy_digest : Option String
  definition_body_digest : String := ""
  deriving DecidableEq

namespace AutomationDefinitionBodyFields

def identity_values (b : AutomationDefinitionBodyFields) : List (String × Json) := [
  ("automation_id", .str b.automation_id),
  ("revision", .int b.revision),
  ("label", .str b.label),
  ("task_text", .str b.task_text),
  ("source_workspace_binding_digest", .str b.source_workspace_binding_digest),
  ("execution_mode", .str b.execution_mode.value),
  ("provider_descriptor_digest", .str b.provider_descriptor_digest),
  ("trust_profile_digest", .str b.trust_profile_digest),
  ("credential_environment_name", .opt_str b.credential_environment_name),
  ("provider_disclosure_request_digest", .str b.provider_disclosure_request_digest),
  ("schedule_digest", .str b.schedule.val.schedule_digest),
  ("required_start_utc", .str b.required_start_utc),
  ("expires_at_utc", .str b.expires_at_utc),
  ("max_occurrences", .int b.max_occurrences),
  ("budgets_digest", .str b.budgets.val.budgets_digest),
  ("source_snapshot_digest", .str b.source_snapshot_digest),
  ("background_environment_policy_digest", .opt_str b.background_environment_policy_digest),
  ("browser_origin_policy_digest", .opt_str b.browser_origin_policy_digest),
  ("wake_adapter_policy_digest", .opt_str b.wake_adapter_policy_digest)]

def expected_digest (b : AutomationDefinitionBodyFields) : String :=
  canonical_json_digest (.dict (JsonDict.of b.identity_values))

/-- 366 days. -/
def longest_life : Nat := 366 * 86400

def check_times (b : AutomationDefinitionBodyFields) : Py Unit := do
  let start ← parse_canonical_utc b.required_start_utc "required_start_utc"
  let expires ← parse_canonical_utc b.expires_at_utc "expires_at_utc"
  let anchor ← parse_canonical_utc b.schedule.val.anchor_utc "schedule.anchor_utc"
  Py.refuse_value (anchor.seconds < start.seconds)
    "schedule anchor must not precede required_start_utc"
  -- a chained comparison: the latest expiry is computed only behind the start
  if start.seconds < expires.seconds then
    let latest ← start.add longest_life
    Py.refuse_value (latest.seconds < expires.seconds)
      "expires_at_utc must be within 366 days after required start"
  else Py.refuse_value True "expires_at_utc must be within 366 days after required start"

def post_init (b : AutomationDefinitionBodyFields) : Py Unit := do
  Py.require_opaque_id b.automation_id "automation_id"
  Py.require_positive_int b.revision "revision" (2 ^ 31 - 1)
  Py.refuse_value
    ((PyText.strip b.label).toList.length < 1 ∨ 200 < (PyText.strip b.label).toList.length)
    "label must be bounded non-empty text"
  Py.refuse_value
    ((PyText.strip b.task_text).toList.length < 1 ∨ 4000 < (PyText.strip b.task_text).toList.length)
    "task_text must be bounded non-empty text"
  Py.require_hex64 b.source_workspace_binding_digest "source_workspace_binding_digest"
  Py.require_hex64 b.provider_descriptor_digest "provider_descriptor_digest"
  Py.require_hex64 b.trust_profile_digest "trust_profile_digest"
  Py.require_hex64 b.provider_disclosure_request_digest "provider_disclosure_request_digest"
  Py.require_hex64 b.source_snapshot_digest "source_snapshot_digest"
  Py.require_hex64_or_none b.wake_adapter_policy_digest "wake_adapter_policy_digest"
  Py.require_hex64_or_none b.background_environment_policy_digest
    "background_environment_policy_digest"
  Py.require_hex64_or_none b.browser_origin_policy_digest "browser_origin_policy_digest"
  Py.refuse_value (b.credential_environment_name.any fun n => !PyText.is_env_name n)
    "credential_environment_name must be a canonical env name"
  b.check_times
  Py.require_positive_int b.max_occurrences "max_occurrences" 128
  Py.refuse_value (b.schedule.val.kind = .once_utc ∧ b.max_occurrences ≠ 1)
    "once schedule requires max_occurrences=1"
  Py.refuse_value (b.definition_body_digest ≠ b.expected_digest)
    "definition body digest mismatch"

end AutomationDefinitionBodyFields

abbrev AutomationDefinitionBodyV1 : Type := Checked AutomationDefinitionBodyFields.post_init

def AutomationDefinitionBodyV1.create (b : AutomationDefinitionBodyFields) :
    Py AutomationDefinitionBodyV1 :=
  Checked.make { b with
    definition_body_digest := digest_or b.definition_body_digest b.expected_digest }

/-! ### The grant and the approved definition -/

structure BackgroundAuthorityGrantFields where
  definition_body_digest : String
  activation_preview_digest : String
  sandbox_confined : Bool
  browser_public_observe : Bool
  grant_digest : String
  deriving Repr, DecidableEq

namespace BackgroundAuthorityGrantFields

def expected_digest (g : BackgroundAuthorityGrantFields) : String :=
  canonical_json_digest <| .dict <| JsonDict.of [
    ("definition_body_digest", .str g.definition_body_digest),
    ("activation_preview_digest", .str g.activation_preview_digest),
    ("sandbox_confined", .bool g.sandbox_confined),
    ("browser_public_observe", .bool g.browser_public_observe)]

def post_init (g : BackgroundAuthorityGrantFields) : Py Unit := do
  Py.require_hex64 g.definition_body_digest "definition_body_digest"
  Py.require_hex64 g.activation_preview_digest "activation_preview_digest"
  Py.refuse_value (g.grant_digest ≠ g.expected_digest) "background grant digest mismatch"

end BackgroundAuthorityGrantFields

abbrev BackgroundAuthorityGrantV1 : Type := Checked BackgroundAuthorityGrantFields.post_init

def BackgroundAuthorityGrantV1.create (body : AutomationDefinitionBodyV1)
    (activation_preview_digest : String) (sandbox_confined browser_public_observe : Bool) :
    Py BackgroundAuthorityGrantV1 := do
  Py.refuse_value (sandbox_confined ≠ decide (0 < body.val.budgets.val.sandbox_commands))
    "sandbox grant must match sandbox command budget"
  Py.refuse_value (browser_public_observe ≠ decide (0 < body.val.budgets.val.browser_actions))
    "browser grant must match browser action budget"
  Py.refuse_value (sandbox_confined ≠ body.val.background_environment_policy_digest.isSome)
    "sandbox grant must match background environment policy"
  Py.refuse_value (browser_public_observe ≠ body.val.browser_origin_policy_digest.isSome)
    "browser grant must match browser origin policy"
  Py.require_hex64 activation_preview_digest "activation_preview_digest"
  let grant : BackgroundAuthorityGrantFields := {
    definition_body_digest := body.val.definition_body_digest
    activation_preview_digest := activation_preview_digest
    sandbox_confined := sandbox_confined
    browser_public_observe := browser_public_observe
    grant_digest := "" }
  Checked.make { grant with grant_digest := grant.expected_digest }

structure AutomationDefinitionFields where
  body : AutomationDefinitionBodyV1
  grant : BackgroundAuthorityGrantV1
  definition_digest : String
  deriving DecidableEq

namespace AutomationDefinitionFields

def expected_digest (d : AutomationDefinitionFields) : String :=
  canonical_json_digest <| .dict <| JsonDict.of [
    ("definition_body_digest", .str d.body.val.definition_body_digest),
    ("grant_digest", .str d.grant.val.grant_digest)]

def post_init (d : AutomationDefinitionFields) : Py Unit := do
  Py.refuse_value (d.grant.val.definition_body_digest ≠ d.body.val.definition_body_digest)
    "grant does not bind the definition body"
  Py.refuse_value (d.definition_digest ≠ d.expected_digest) "definition digest mismatch"

end AutomationDefinitionFields

abbrev AutomationDefinitionV1 : Type := Checked AutomationDefinitionFields.post_init

def AutomationDefinitionV1.create (body : AutomationDefinitionBodyV1)
    (grant : BackgroundAuthorityGrantV1) : Py AutomationDefinitionV1 :=
  let definition : AutomationDefinitionFields :=
    { body := body, grant := grant, definition_digest := "" }
  Checked.make { definition with definition_digest := definition.expected_digest }

/-- `create_from_body`. -/
def AutomationDefinitionV1.create_from_body (body : AutomationDefinitionBodyV1)
    (activation_preview_digest : String) (sandbox_confined browser_public_observe : Bool) :
    Py AutomationDefinitionV1 := do
  let grant ← BackgroundAuthorityGrantV1.create body activation_preview_digest sandbox_confined
    browser_public_observe
  AutomationDefinitionV1.create body grant

/-! ### The authority of one occurrence -/

structure BackgroundOccurrenceAuthorityFields where
  automation_id : String
  automation_revision : Int
  occurrence_id : String
  occurrence_index : Int
  scheduled_for_utc : String
  definition_digest : String
  grant_digest : String
  claim_fencing_token : String
  checkpoint_identity : String
  deadline_utc : String
  raw_capability : String
  authority_digest : String := ""
  deriving Repr, DecidableEq

namespace BackgroundOccurrenceAuthorityFields

def expected_digest (a : BackgroundOccurrenceAuthorityFields) : String :=
  canonical_json_digest <| .dict <| JsonDict.of [
    ("automation_id", .str a.automation_id),
    ("automation_revision", .int a.automation_revision),
    ("occurrence_id", .str a.occurrence_id),
    ("occurrence_index", .int a.occurrence_index),
    ("scheduled_for_utc", .str a.scheduled_for_utc),
    ("definition_digest", .str a.definition_digest),
    ("grant_digest", .str a.grant_digest),
    ("claim_fencing_token", .str a.claim_fencing_token),
    ("checkpoint_identity", .str a.checkpoint_identity),
    ("deadline_utc", .str a.deadline_utc),
    ("capability_digest", .str (canonical_json_digest (.str a.raw_capability)))]

def post_init (a : BackgroundOccurrenceAuthorityFields) : Py Unit := do
  Py.require_opaque_id a.automation_id "automation_id"
  Py.require_opaque_id a.occurrence_id "occurrence_id"
  Py.require_opaque_id a.claim_fencing_token "claim_fencing_token"
  Py.require_positive_int a.automation_revision "automation_revision" (2 ^ 31 - 1)
  Py.require_nonnegative_int a.occurrence_index "occurrence_index" 127
  let _ ← parse_canonical_utc a.scheduled_for_utc "scheduled_for_utc"
  Py.require_hex64 a.definition_digest "definition_digest"
  Py.require_hex64 a.grant_digest "grant_digest"
  Py.require_hex64 a.checkpoint_identity "checkpoint_identity"
  let _ ← parse_canonical_utc a.deadline_utc "deadline_utc"
  Py.refuse_value (a.raw_capability.toList.length < 32)
    "raw_capability must be an opaque high-entropy value"
  Py.refuse_value (a.authority_digest ≠ a.expected_digest) "occurrence authority digest mismatch"

end BackgroundOccurrenceAuthorityFields

abbrev BackgroundOccurrenceAuthorityV1 : Type := Checked BackgroundOccurrenceAuthorityFields.post_init

def BackgroundOccurrenceAuthorityV1.create (a : BackgroundOccurrenceAuthorityFields) :
    Py BackgroundOccurrenceAuthorityV1 :=
  Checked.make { a with authority_digest := digest_or a.authority_digest a.expected_digest }

/-! ### An hourly automation -/

def hourly_schedule : AutomationScheduleV1 where
  val := {
    kind := .fixed_interval_utc
    anchor_utc := "2026-01-01T00:00:00Z"
    interval_seconds := some 3600
    catch_up := .latest_one
    misfire_grace_seconds := 60
    schedule_digest := "5622c93834e3d613c233e2a7c2ae6684e47ed7160c9cce4ea35263e77837c489" }
  valid := by
    rw [AutomationScheduleFields.post_init, AutomationScheduleFields.expected_digest,
      canonical_json_digest_eq]
    decide +kernel

def hourly_budgets : AutomationBudgetsV1 where
  val := {
    occurrence_deadline_seconds := 600
    model_calls := 1
    tool_calls := 1
    sandbox_commands := 0
    browser_actions := 0
    max_input_tokens := 1000
    max_output_tokens := 1000
    budgets_digest := "ab4bb63bd483e20c73a93e5e949cef6ef3cd01c1177dd50657e9e67690e5536c" }
  valid := by
    rw [AutomationBudgetsFields.post_init, AutomationBudgetsFields.expected_digest,
      canonical_json_digest_eq]
    decide +kernel

/-- The body of the hourly automation under this revision and digest. -/
def hourly_body_fields (revision : Int) (digest : String) : AutomationDefinitionBodyFields where
  automation_id := "hourly"
  revision := revision
  label := "a label"
  task_text := "a task"
  source_workspace_binding_digest := "59b774a5253e2bc8e357bdfc95e4f7a4b214734f6da65a9f53b40711a10ba16b"
  execution_mode := .fresh_occurrence
  provider_descriptor_digest := "59b774a5253e2bc8e357bdfc95e4f7a4b214734f6da65a9f53b40711a10ba16b"
  trust_profile_digest := "59b774a5253e2bc8e357bdfc95e4f7a4b214734f6da65a9f53b40711a10ba16b"
  credential_environment_name := none
  provider_disclosure_request_digest := "59b774a5253e2bc8e357bdfc95e4f7a4b214734f6da65a9f53b40711a10ba16b"
  schedule := hourly_schedule
  required_start_utc := "2026-01-01T00:00:00Z"
  expires_at_utc := "2026-12-31T00:00:00Z"
  max_occurrences := 24
  budgets := hourly_budgets
  source_snapshot_digest := "59b774a5253e2bc8e357bdfc95e4f7a4b214734f6da65a9f53b40711a10ba16b"
  background_environment_policy_digest := none
  browser_origin_policy_digest := none
  wake_adapter_policy_digest := none
  definition_body_digest := digest

def hourly_body : AutomationDefinitionBodyV1 where
  val := hourly_body_fields 1 "ff94251eb0c0167db6faa72469cb2f3fd337eb7b00d15c14e55d2466b472e32f"
  valid := by
    rw [AutomationDefinitionBodyFields.post_init, AutomationDefinitionBodyFields.expected_digest,
      canonical_json_digest_eq]
    decide +kernel

/-- Its next revision. -/
def revised_body : AutomationDefinitionBodyV1 where
  val := hourly_body_fields 2 "17cf5c1d6426e33c98b556ca5d93a137290011f0e5428bc6f647d9dc86dceae6"
  valid := by
    rw [AutomationDefinitionBodyFields.post_init, AutomationDefinitionBodyFields.expected_digest,
      canonical_json_digest_eq]
    decide +kernel

def hourly_grant : BackgroundAuthorityGrantV1 where
  val := {
    definition_body_digest := "ff94251eb0c0167db6faa72469cb2f3fd337eb7b00d15c14e55d2466b472e32f"
    activation_preview_digest := "59b774a5253e2bc8e357bdfc95e4f7a4b214734f6da65a9f53b40711a10ba16b"
    sandbox_confined := false
    browser_public_observe := false
    grant_digest := "144b31b5250715fbfbba80789b2bccd31e07086bd1ca5125971625d7d59ef20a" }
  valid := by
    rw [BackgroundAuthorityGrantFields.post_init,
      BackgroundAuthorityGrantFields.expected_digest, canonical_json_digest_eq]
    decide +kernel

def hourly_definition : AutomationDefinitionV1 where
  val := {
    body := hourly_body
    grant := hourly_grant
    definition_digest := "c9f72cd58b86b684883e7f7a6d51d6f39ba6c00f2f82dde87e96ca4bbb197203" }
  valid := by
    rw [AutomationDefinitionFields.post_init, AutomationDefinitionFields.expected_digest,
      canonical_json_digest_eq]
    decide +kernel

def revised_grant : BackgroundAuthorityGrantV1 where
  val := {
    definition_body_digest := "17cf5c1d6426e33c98b556ca5d93a137290011f0e5428bc6f647d9dc86dceae6"
    activation_preview_digest := "59b774a5253e2bc8e357bdfc95e4f7a4b214734f6da65a9f53b40711a10ba16b"
    sandbox_confined := false
    browser_public_observe := false
    grant_digest := "ef71e93271b4c1afc84d122a3185effb363eb932bd7df3eba2321a22395be17c" }
  valid := by
    rw [BackgroundAuthorityGrantFields.post_init,
      BackgroundAuthorityGrantFields.expected_digest, canonical_json_digest_eq]
    decide +kernel

def revised_definition : AutomationDefinitionV1 where
  val := {
    body := revised_body
    grant := revised_grant
    definition_digest := "23b293044c36ae40c180432589714607c89729d29fc019edfb8f46f4d0de3759" }
  valid := by
    rw [AutomationDefinitionFields.post_init, AutomationDefinitionFields.expected_digest,
      canonical_json_digest_eq]
    decide +kernel
