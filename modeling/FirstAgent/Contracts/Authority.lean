import FirstAgent.Contracts.Goal

/-! # Authorities

    Goal authorizations, the authority candidates an approval request carries
    (process, sandbox, browser) and the durable leases minted from them.
    Digests cover every binding field and are recomputed by the checks. -/

open Fallible

/-! ### Goal authorizations -/

def GOAL_TARGET_AUTHORIZATION_MAX_USES : Int := 16
def GOAL_TARGET_AUTHORIZATION_EXPIRY_MINUTES : Nat := 60

def intrinsically_sensitive_exact : List String :=
  [".env", ".git-credentials", ".netrc", ".npmrc", ".pypirc", "credentials", "credentials.json",
    "id_rsa", "id_ed25519"]

def intrinsically_sensitive_components : List String :=
  [".aws", ".claude", ".codex", ".config", ".docker", ".git", ".gnupg", ".kube", ".opencode",
    ".ssh", ".ua", "graphify-out", "node_modules"]

def intrinsically_sensitive_suffixes : List String := [".pem", ".key", ".p12", ".pfx"]

/-- Names that are always refused. -/
def is_intrinsically_sensitive_component (folded : String) : Bool :=
  intrinsically_sensitive_components.contains folded ||
    intrinsically_sensitive_exact.contains folded ||
    PyText.startswith folded ".env" ||
    (intrinsically_sensitive_suffixes.any fun s => PyText.endswith folded s) ||
    folded = "config.local" || PyText.startswith folded "config.local."

def plain_part (part : String) : Bool := part ≠ "" && part ≠ "." && part ≠ ".."

def safe_goal_authorization_target (target : String) : Bool :=
  !PyText.startswith target "/" &&
    (PyText.split target '/').all fun part =>
      plain_part part && !is_intrinsically_sensitive_component (PyText.casefold part)

def path_is_within_directory (target directory : String) : Bool :=
  let target_parts := PyText.split target '/'
  let directory_parts := PyText.split directory '/'
  target_parts.all plain_part && directory_parts.all plain_part &&
    directory_parts.length ≤ target_parts.length && directory_parts.isPrefixOf target_parts

structure GoalAuthorizationBindingFields where
  binding_id : String
  goal_id : String
  goal_revision : Int
  workspace_identity_digest : String
  operation : String
  normalized_target : String
  source_kind : AuthoritySourceKind
  source_id : String
  source_digest : String
  issued_at : String
  expires_at : String
  max_uses : Int := GOAL_TARGET_AUTHORIZATION_MAX_USES
  uses_consumed : Int := 0
  binding_digest : String := ""
  scope : GoalAuthorizationScope := .exact_file
  deriving Repr, DecidableEq

namespace GoalAuthorizationBindingFields

def expected_digest (b : GoalAuthorizationBindingFields) : String :=
  canonical_json_digest <| .dict <| JsonDict.of [
    ("binding_id", .str b.binding_id),
    ("goal_id", .str b.goal_id),
    ("goal_revision", .int b.goal_revision),
    ("workspace_identity_digest", .str b.workspace_identity_digest),
    ("operation", .str b.operation),
    ("normalized_target", .str b.normalized_target),
    ("source_kind", .str b.source_kind.value),
    ("source_id", .str b.source_id),
    ("source_digest", .str b.source_digest),
    ("issued_at", .str b.issued_at),
    ("expires_at", .str b.expires_at),
    ("max_uses", .int b.max_uses),
    ("uses_consumed", .int b.uses_consumed),
    ("scope", .str b.scope.value)]

def post_init (b : GoalAuthorizationBindingFields) : Py Unit := do
  Py.refuse_value
    (Py.any_empty [b.binding_id, b.goal_id, b.workspace_identity_digest, b.operation,
      b.normalized_target, b.source_id, b.source_digest, b.issued_at, b.expires_at,
      b.binding_digest])
    "goal authorization binding fields must not be empty"
  Py.refuse_value (b.goal_revision < 1) "goal authorization revision must be positive"
  Py.refuse_value (b.max_uses ≠ GOAL_TARGET_AUTHORIZATION_MAX_USES)
    "goal authorization max_uses must use the fixed bound"
  Py.refuse_value (¬ (0 ≤ b.uses_consumed ∧ b.uses_consumed ≤ b.max_uses))
    "goal authorization uses_consumed is outside its bound"
  Py.refuse_value (safe_goal_authorization_target b.normalized_target = false)
    "authorization target must be normalized and workspace-relative"
  Py.refuse_value (b.binding_digest ≠ b.expected_digest)
    "goal authorization binding digest mismatch"

end GoalAuthorizationBindingFields

abbrev GoalAuthorizationBinding : Type := Checked GoalAuthorizationBindingFields.post_init

namespace GoalAuthorizationBinding

def create (b : GoalAuthorizationBindingFields) : Py GoalAuthorizationBinding :=
  Checked.make { b with binding_digest := b.expected_digest }

def with_use_consumed (b : GoalAuthorizationBinding) : Py GoalAuthorizationBinding :=
  create { b.val with uses_consumed := b.val.uses_consumed + 1 }

def authorizes (b : GoalAuthorizationBinding) (goal_id : String) (goal_revision : Int)
    (workspace_identity_digest operation normalized_target : String) : Bool :=
  b.val.goal_id = goal_id && b.val.goal_revision = goal_revision &&
    b.val.workspace_identity_digest = workspace_identity_digest && b.val.operation = operation &&
    (match b.val.scope with
      | .exact_file => b.val.normalized_target = normalized_target
      | .directory  => path_is_within_directory normalized_target b.val.normalized_target) &&
    b.val.binding_digest = b.val.expected_digest

end GoalAuthorizationBinding

/-! ### Process authority -/

def MAX_PROCESS_LEASES : Nat := 16

/-- The artifact a process approval has to confirm. -/
structure ArtifactConfirmationRequirementFields where
  criterion_id : String
  artifact_path : String
  deriving Repr, DecidableEq

def ArtifactConfirmationRequirementFields.post_init
    (r : ArtifactConfirmationRequirementFields) : Py Unit := do
  Py.refuse_value (r.criterion_id = "") "artifact confirmation criterion_id must not be empty"
  Py.refuse_value (PyText.is_safe_relative_artifact_path r.artifact_path = false)
    "artifact confirmation path must be safe and workspace-relative"

abbrev ArtifactConfirmationRequirementV1 : Type :=
  Checked ArtifactConfirmationRequirementFields.post_init

structure ProcessAuthorityCandidateFields where
  candidate_id : String
  candidate_digest : String := ""
  goal_id : String
  goal_revision : Int
  workspace_identity_digest : String
  command_fingerprint : String
  readable_command : String
  executable_digest : String
  argv_digest : String
  cwd_digest : String
  resource_profile : String
  environment_policy_digest : String
  execution_authority : ExecutionAuthorityClass
  trust_notice_digest : String
  issued_at : String
  max_uses : Int := 8
  expiry_minutes : Int := 60
  expected_artifact_path : Option String := none
  expected_artifact_sha256 : Option String := none
  deriving Repr, DecidableEq

namespace ProcessAuthorityCandidateFields

def expected_digest (c : ProcessAuthorityCandidateFields) : String :=
  canonical_json_digest <| .dict <| JsonDict.of [
    ("candidate_id", .str c.candidate_id),
    ("goal_id", .str c.goal_id),
    ("goal_revision", .int c.goal_revision),
    ("workspace_identity_digest", .str c.workspace_identity_digest),
    ("command_fingerprint", .str c.command_fingerprint),
    ("readable_command", .str c.readable_command),
    ("executable_digest", .str c.executable_digest),
    ("argv_digest", .str c.argv_digest),
    ("cwd_digest", .str c.cwd_digest),
    ("resource_profile", .str c.resource_profile),
    ("environment_policy_digest", .str c.environment_policy_digest),
    ("execution_authority", .str c.execution_authority.value),
    ("trust_notice_digest", .str c.trust_notice_digest),
    ("issued_at", .str c.issued_at),
    ("max_uses", .int c.max_uses),
    ("expiry_minutes", .int c.expiry_minutes),
    ("expected_artifact_path", .opt_str c.expected_artifact_path),
    ("expected_artifact_sha256", .opt_str c.expected_artifact_sha256)]

/-- `re.match(r"^[a-f0-9]{64}$", text)`: a trailing newline is let through. -/
def matches_hex64 (s : String) : Bool :=
  PyText.is_lower_hex s 64 ||
    (PyText.endswith s "\n" && PyText.is_lower_hex (PyText.take s 64) 64 && s.toList.length == 65)

def post_init (c : ProcessAuthorityCandidateFields) : Py Unit := do
  Py.refuse_empty "process candidate" [
    ("candidate_id", c.candidate_id), ("candidate_digest", c.candidate_digest),
    ("goal_id", c.goal_id), ("workspace_identity_digest", c.workspace_identity_digest),
    ("command_fingerprint", c.command_fingerprint), ("executable_digest", c.executable_digest),
    ("argv_digest", c.argv_digest), ("cwd_digest", c.cwd_digest),
    ("resource_profile", c.resource_profile),
    ("environment_policy_digest", c.environment_policy_digest),
    ("trust_notice_digest", c.trust_notice_digest), ("issued_at", c.issued_at)]
  Py.refuse_value (c.goal_revision < 0) "process candidate goal_revision must be non-negative"
  Py.refuse_value (c.max_uses ≠ 8) "process candidate max_uses must be fixed at 8"
  Py.refuse_value (c.expiry_minutes ≠ 60) "process candidate expiry_minutes must be fixed at 60"
  Py.refuse_value (c.execution_authority ≠ .local_same_uid_process)
    "process candidate must use LOCAL_SAME_UID_PROCESS authority"
  Py.refuse_value (c.expected_digest ≠ c.candidate_digest) "process candidate digest mismatch"
  match c.expected_artifact_path, c.expected_artifact_sha256 with
  | none, none          => .ok ()
  | some path, some sha => do
    Py.refuse_value (matches_hex64 sha = false)
      "expected_artifact sha256 must be 64 lowercase hex"
    Py.refuse_value (path = "" ∨ PyText.contains path "\x00")
      "expected_artifact path must be non-empty NUL-free"
  | _, _                =>
    .error (.value_error "expected_artifact path and sha256 must both be present or absent")

end ProcessAuthorityCandidateFields

abbrev ProcessAuthorityCandidateV1 : Type := Checked ProcessAuthorityCandidateFields.post_init

structure ProcessAuthorityLeaseFields where
  lease_id : String
  lease_digest : String := ""
  candidate_digest : String
  goal_id : String
  goal_revision : Int
  workspace_identity_digest : String
  command_fingerprint : String
  readable_command : String
  executable_digest : String
  argv_digest : String
  cwd_digest : String
  resource_profile : String
  environment_policy_digest : String
  execution_authority : ExecutionAuthorityClass
  approved_request_identity : String
  issued_at : String
  expires_at : String
  max_uses : Int := 8
  uses_consumed : Int := 0
  deriving Repr, DecidableEq

namespace ProcessAuthorityLeaseFields

def expected_digest (l : ProcessAuthorityLeaseFields) : String :=
  canonical_json_digest <| .dict <| JsonDict.of [
    ("lease_id", .str l.lease_id),
    ("candidate_digest", .str l.candidate_digest),
    ("goal_id", .str l.goal_id),
    ("goal_revision", .int l.goal_revision),
    ("workspace_identity_digest", .str l.workspace_identity_digest),
    ("command_fingerprint", .str l.command_fingerprint),
    ("readable_command", .str l.readable_command),
    ("executable_digest", .str l.executable_digest),
    ("argv_digest", .str l.argv_digest),
    ("cwd_digest", .str l.cwd_digest),
    ("resource_profile", .str l.resource_profile),
    ("environment_policy_digest", .str l.environment_policy_digest),
    ("execution_authority", .str l.execution_authority.value),
    ("approved_request_identity", .str l.approved_request_identity),
    ("issued_at", .str l.issued_at),
    ("expires_at", .str l.expires_at),
    ("max_uses", .int l.max_uses)]

def post_init (l : ProcessAuthorityLeaseFields) : Py Unit := do
  Py.refuse_empty "process lease" [
    ("lease_id", l.lease_id), ("lease_digest", l.lease_digest),
    ("candidate_digest", l.candidate_digest), ("goal_id", l.goal_id),
    ("workspace_identity_digest", l.workspace_identity_digest),
    ("command_fingerprint", l.command_fingerprint), ("readable_command", l.readable_command),
    ("executable_digest", l.executable_digest), ("argv_digest", l.argv_digest),
    ("cwd_digest", l.cwd_digest), ("resource_profile", l.resource_profile),
    ("environment_policy_digest", l.environment_policy_digest),
    ("approved_request_identity", l.approved_request_identity),
    ("issued_at", l.issued_at), ("expires_at", l.expires_at)]
  Py.refuse_value (l.goal_revision < 0) "process lease goal_revision must be non-negative"
  Py.refuse_value (l.max_uses ≠ 8) "process lease max_uses must be fixed at 8"
  Py.refuse_value (¬ (0 ≤ l.uses_consumed ∧ l.uses_consumed ≤ l.max_uses))
    "process lease uses_consumed out of range"
  Py.refuse_value (l.execution_authority ≠ .local_same_uid_process)
    "process lease must use LOCAL_SAME_UID_PROCESS authority"
  Py.refuse_value (l.expected_digest ≠ l.lease_digest) "process lease digest mismatch"

end ProcessAuthorityLeaseFields

abbrev ProcessAuthorityLeaseV1 : Type := Checked ProcessAuthorityLeaseFields.post_init

def ProcessAuthorityLeaseV1.create (l : ProcessAuthorityLeaseFields) :
    Py ProcessAuthorityLeaseV1 :=
  Checked.make { l with lease_digest := l.expected_digest }

/-! ### Sandbox authority -/

def SANDBOX_MAX_USES : Int := 1
def SANDBOX_EXPIRY_MINUTES : Nat := 120
def MAX_SANDBOX_LEASES : Nat := 16

def sandbox_modes : List String := ["read-only", "workspace-write", "danger-full-access"]
def sandbox_network_modes : List String := ["off", "full"]

structure SandboxAuthorityCandidateFields where
  candidate_id : String
  candidate_digest : String := ""
  goal_id : String
  goal_revision : Int
  workspace_identity_digest : String
  original_command_fingerprint : String
  policy_digest : String
  mode : String
  network : String
  readable_command : String
  trust_notice_id : String
  trust_notice_digest : String
  issued_at : String
  execution_authority : ExecutionAuthorityClass := .isolated_sandbox
  deriving Repr, DecidableEq

namespace SandboxAuthorityCandidateFields

/-- `issued_at` is not part of the digest. -/
def expected_digest (c : SandboxAuthorityCandidateFields) : String :=
  canonical_json_digest <| .dict <| JsonDict.of [
    ("candidate_id", .str c.candidate_id),
    ("goal_id", .str c.goal_id),
    ("goal_revision", .int c.goal_revision),
    ("workspace_identity_digest", .str c.workspace_identity_digest),
    ("original_command_fingerprint", .str c.original_command_fingerprint),
    ("policy_digest", .str c.policy_digest),
    ("mode", .str c.mode),
    ("network", .str c.network),
    ("readable_command", .str c.readable_command),
    ("trust_notice_id", .str c.trust_notice_id),
    ("trust_notice_digest", .str c.trust_notice_digest),
    ("execution_authority", .str c.execution_authority.value)]

def post_init (c : SandboxAuthorityCandidateFields) : Py Unit := do
  Py.refuse_empty "sandbox candidate" [
    ("candidate_id", c.candidate_id), ("candidate_digest", c.candidate_digest),
    ("goal_id", c.goal_id), ("workspace_identity_digest", c.workspace_identity_digest),
    ("readable_command", c.readable_command), ("trust_notice_id", c.trust_notice_id),
    ("trust_notice_digest", c.trust_notice_digest), ("issued_at", c.issued_at)]
  Py.refuse_value (c.goal_revision < 1) "sandbox candidate goal_revision must be positive"
  Py.refuse_not_hex64 "sandbox authority" " must be a valid digest" [
    ("original_command_fingerprint", c.original_command_fingerprint),
    ("policy_digest", c.policy_digest), ("trust_notice_digest", c.trust_notice_digest)]
  Py.refuse_value (c.mode ∉ sandbox_modes) "sandbox candidate mode must be closed"
  Py.refuse_value (c.network ∉ sandbox_network_modes) "sandbox candidate network must be closed"
  Py.refuse_value (c.execution_authority ≠ .isolated_sandbox)
    "sandbox candidate must use ISOLATED_SANDBOX authority"
  Py.refuse_value (c.expected_digest ≠ c.candidate_digest) "sandbox candidate digest mismatch"

end SandboxAuthorityCandidateFields

abbrev SandboxAuthorityCandidateV1 : Type := Checked SandboxAuthorityCandidateFields.post_init

structure SandboxAuthorityLeaseFields where
  lease_id : String
  lease_digest : String := ""
  candidate_digest : String
  goal_id : String
  goal_revision : Int
  workspace_identity_digest : String
  original_command_fingerprint : String
  policy_digest : String
  mode : String
  network : String
  readable_command : String
  trust_notice_id : String
  trust_notice_digest : String
  approved_request_identity : String
  issued_at : String
  expires_at : String
  max_uses : Int := SANDBOX_MAX_USES
  uses_consumed : Int := 0
  deriving Repr, DecidableEq

namespace SandboxAuthorityLeaseFields

def expected_digest (l : SandboxAuthorityLeaseFields) : String :=
  canonical_json_digest <| .dict <| JsonDict.of [
    ("lease_id", .str l.lease_id),
    ("candidate_digest", .str l.candidate_digest),
    ("goal_id", .str l.goal_id),
    ("goal_revision", .int l.goal_revision),
    ("workspace_identity_digest", .str l.workspace_identity_digest),
    ("original_command_fingerprint", .str l.original_command_fingerprint),
    ("policy_digest", .str l.policy_digest),
    ("mode", .str l.mode),
    ("network", .str l.network),
    ("readable_command", .str l.readable_command),
    ("trust_notice_id", .str l.trust_notice_id),
    ("trust_notice_digest", .str l.trust_notice_digest),
    ("approved_request_identity", .str l.approved_request_identity),
    ("issued_at", .str l.issued_at),
    ("expires_at", .str l.expires_at),
    ("max_uses", .int l.max_uses)]

def post_init (l : SandboxAuthorityLeaseFields) : Py Unit := do
  Py.refuse_empty "sandbox lease" [
    ("lease_id", l.lease_id), ("lease_digest", l.lease_digest),
    ("candidate_digest", l.candidate_digest), ("goal_id", l.goal_id),
    ("workspace_identity_digest", l.workspace_identity_digest),
    ("readable_command", l.readable_command), ("trust_notice_id", l.trust_notice_id),
    ("trust_notice_digest", l.trust_notice_digest),
    ("approved_request_identity", l.approved_request_identity),
    ("issued_at", l.issued_at), ("expires_at", l.expires_at)]
  Py.refuse_value (l.goal_revision < 1) "sandbox lease goal_revision must be positive"
  Py.refuse_not_hex64 "sandbox authority" " must be a valid digest" [
    ("original_command_fingerprint", l.original_command_fingerprint),
    ("policy_digest", l.policy_digest), ("trust_notice_digest", l.trust_notice_digest)]
  Py.refuse_value (l.mode ∉ sandbox_modes) "sandbox lease mode must be closed"
  Py.refuse_value (l.network ∉ sandbox_network_modes) "sandbox lease network must be closed"
  Py.refuse_value (l.max_uses ≠ SANDBOX_MAX_USES) "sandbox lease max_uses must be fixed at 1"
  Py.refuse_value (¬ (0 ≤ l.uses_consumed ∧ l.uses_consumed ≤ SANDBOX_MAX_USES))
    "sandbox lease uses_consumed out of range"
  Py.refuse_value (l.expected_digest ≠ l.lease_digest) "sandbox lease digest mismatch"

end SandboxAuthorityLeaseFields

abbrev SandboxAuthorityLeaseV1 : Type := Checked SandboxAuthorityLeaseFields.post_init

namespace SandboxAuthorityLeaseV1

def create (l : SandboxAuthorityLeaseFields) : Py SandboxAuthorityLeaseV1 :=
  Checked.make { l with lease_digest := l.expected_digest }

def with_use_consumed (l : SandboxAuthorityLeaseV1) (uses : Int) : Py SandboxAuthorityLeaseV1 := do
  Py.refuse_value (uses ≤ l.val.uses_consumed)
    "lease uses_consumed must increase monotonically"
  Py.refuse_value (SANDBOX_MAX_USES < uses) "lease use budget exhausted"
  Checked.make { l.val with uses_consumed := uses }

end SandboxAuthorityLeaseV1

/-! ### Browser authority -/

def BROWSER_LEASE_MAX_USES : Int := 1

def browser_mode_values : List String :=
  ["public_read_ephemeral", "site_bound_interactive", "task_loopback_ephemeral"]

def browser_consequence_values : List String :=
  ["observe", "disclose", "download", "upload", "commit"]

/-- `_parse_browser_datetime`: a zoned RFC3339 text. -/
def parse_browser_datetime (value field : String) : Py PyDateTime := do
  let shape := PyError.value_error ("browser " ++ field ++ " must be a zoned RFC3339 string")
  refuse (PyText.contains value "T" = false) shape
  let value := if PyText.endswith value "Z" then
      PyText.take value (value.toList.length - 1) ++ "+00:00" else value
  let sign := value.toList.reverse[5]?
  refuse (¬ (sign = some '+' ∨ sign = some '-')) shape
  let parsed ← Py.expect_value (PyDateTime.fromisoformat value)
    ("Invalid isoformat string: '" ++ value ++ "'")
  Py.refuse_value (parsed.offset = none)
    ("browser " ++ field ++ " must carry a timezone offset")
  pure parsed

structure BrowserActionCandidateFields where
  candidate_id : String
  candidate_digest : String := ""
  goal_id : String
  goal_revision : Int
  session_ref : String
  browser_identity_digest : String
  profile_ref : Option String
  profile_revision : Option Int
  allowed_origins : List String
  mode : String
  page_id : String
  frame_id : String
  observation_digest : String
  action_digest : String
  consequence : String
  preview : String
  issued_at : String
  expires_at : String
  max_uses : Int := BROWSER_LEASE_MAX_USES
  deriving Repr, DecidableEq

namespace BrowserActionCandidateFields

def expected_digest (c : BrowserActionCandidateFields) : String :=
  canonical_json_digest <| .dict <| JsonDict.of [
    ("candidate_id", .str c.candidate_id),
    ("goal_id", .str c.goal_id),
    ("goal_revision", .int c.goal_revision),
    ("session_ref", .str c.session_ref),
    ("browser_identity_digest", .str c.browser_identity_digest),
    ("profile_ref", .opt_str c.profile_ref),
    ("profile_revision", .opt_int c.profile_revision),
    ("allowed_origins", .strs c.allowed_origins),
    ("mode", .str c.mode),
    ("page_id", .str c.page_id),
    ("frame_id", .str c.frame_id),
    ("observation_digest", .str c.observation_digest),
    ("action_digest", .str c.action_digest),
    ("consequence", .str c.consequence),
    ("preview", .str c.preview),
    ("issued_at", .str c.issued_at),
    ("expires_at", .str c.expires_at),
    ("max_uses", .int c.max_uses)]

def post_init (c : BrowserActionCandidateFields) : Py Unit := do
  Py.refuse_empty "browser candidate" [
    ("candidate_id", c.candidate_id), ("candidate_digest", c.candidate_digest),
    ("goal_id", c.goal_id), ("session_ref", c.session_ref),
    ("browser_identity_digest", c.browser_identity_digest),
    ("observation_digest", c.observation_digest), ("action_digest", c.action_digest),
    ("preview", c.preview)]
  Py.refuse_value (c.goal_revision < 0) "browser candidate goal_revision must be non-negative"
  Py.refuse_value (c.profile_ref.isNone ≠ c.profile_revision.isNone)
    "browser candidate profile binding must be paired"
  Py.refuse_value (c.mode = "public_read_ephemeral" ∧ c.profile_ref ≠ none)
    "public-read candidate must not bind a profile"
  Py.refuse_value (c.mode ∉ browser_mode_values) "browser mode must be a closed member"
  Py.refuse_value (c.consequence ∉ browser_consequence_values)
    "browser consequence must be a closed member"
  let _ ← parse_browser_datetime c.issued_at "issued_at"
  let _ ← parse_browser_datetime c.expires_at "expires_at"
  Py.refuse_value (c.max_uses ≠ BROWSER_LEASE_MAX_USES)
    "browser candidate max_uses must be fixed at 1"
  Py.refuse_value (c.expected_digest ≠ c.candidate_digest) "browser candidate digest mismatch"

end BrowserActionCandidateFields

abbrev BrowserActionCandidateV1 : Type := Checked BrowserActionCandidateFields.post_init

structure BrowserAuthorityLeaseFields where
  lease_id : String
  lease_digest : String := ""
  candidate_digest : String
  goal_id : String
  goal_revision : Int
  session_ref : String
  browser_identity_digest : String
  profile_ref : Option String
  profile_revision : Option Int
  allowed_origins : List String
  mode : String
  page_id : String
  frame_id : String
  observation_digest : String
  action_digest : String
  consequence : String
  approved_request_identity : String
  issued_at : String
  expires_at : String
  max_uses : Int := BROWSER_LEASE_MAX_USES
  uses_consumed : Int := 0
  deriving Repr, DecidableEq

namespace BrowserAuthorityLeaseFields

def create_digest (l : BrowserAuthorityLeaseFields) : String :=
  canonical_json_digest <| .dict <| JsonDict.of [
    ("lease_id", .str l.lease_id),
    ("candidate_digest", .str l.candidate_digest),
    ("goal_id", .str l.goal_id),
    ("goal_revision", .int l.goal_revision),
    ("session_ref", .str l.session_ref),
    ("browser_identity_digest", .str l.browser_identity_digest),
    ("profile_ref", .opt_str l.profile_ref),
    ("profile_revision", .opt_int l.profile_revision),
    ("allowed_origins", .strs l.allowed_origins),
    ("mode", .str l.mode),
    ("page_id", .str l.page_id),
    ("frame_id", .str l.frame_id),
    ("observation_digest", .str l.observation_digest),
    ("action_digest", .str l.action_digest),
    ("consequence", .str l.consequence),
    ("approved_request_identity", .str l.approved_request_identity),
    ("issued_at", .str l.issued_at),
    ("expires_at", .str l.expires_at),
    ("max_uses", .int l.max_uses)]

/-- Unlike the other leases, this check does not recompute the digest. -/
def post_init (l : BrowserAuthorityLeaseFields) : Py Unit := do
  Py.refuse_empty "browser lease" [
    ("lease_id", l.lease_id), ("lease_digest", l.lease_digest),
    ("candidate_digest", l.candidate_digest), ("goal_id", l.goal_id),
    ("session_ref", l.session_ref), ("browser_identity_digest", l.browser_identity_digest),
    ("observation_digest", l.observation_digest), ("action_digest", l.action_digest),
    ("approved_request_identity", l.approved_request_identity)]
  Py.refuse_value (l.profile_ref.isNone ≠ l.profile_revision.isNone)
    "browser lease profile binding must be paired"
  Py.refuse_value (l.mode ∉ browser_mode_values) "browser mode must be a closed member"
  Py.refuse_value (l.consequence ∉ browser_consequence_values)
    "browser consequence must be a closed member"
  let _ ← parse_browser_datetime l.issued_at "issued_at"
  let _ ← parse_browser_datetime l.expires_at "expires_at"
  Py.refuse_value (l.max_uses ≠ BROWSER_LEASE_MAX_USES)
    "browser lease max_uses must be fixed at 1"
  Py.refuse_value (l.uses_consumed < 0 ∨ l.max_uses < l.uses_consumed)
    "browser lease uses_consumed out of range"

end BrowserAuthorityLeaseFields

abbrev BrowserAuthorityLeaseV1 : Type := Checked BrowserAuthorityLeaseFields.post_init

namespace BrowserAuthorityLeaseV1

def create (l : BrowserAuthorityLeaseFields) : Py BrowserAuthorityLeaseV1 :=
  Checked.make { l with lease_digest := l.create_digest }

def with_use_consumed (l : BrowserAuthorityLeaseV1) (count : Int) : Py BrowserAuthorityLeaseV1 := do
  Py.refuse_value (l.val.max_uses < count) "browser lease use exhausted"
  Checked.make { l.val with uses_consumed := count }

end BrowserAuthorityLeaseV1

structure BrowserTakeoverRequestFields where
  request_id : String
  session_ref : String
  profile_ref : String
  profile_revision : Int
  browser_identity_digest : String
  goal_id : String
  goal_revision : Int
  requested_at : String
  deriving Repr, DecidableEq

def BrowserTakeoverRequestFields.post_init (r : BrowserTakeoverRequestFields) : Py Unit := do
  Py.refuse_empty "browser takeover" [
    ("request_id", r.request_id), ("session_ref", r.session_ref), ("profile_ref", r.profile_ref),
    ("browser_identity_digest", r.browser_identity_digest), ("goal_id", r.goal_id)]
  Py.refuse_value (r.profile_revision ≤ 0) "browser takeover profile_revision must be positive"
  Py.refuse_value (r.goal_revision < 0) "browser takeover goal_revision must be non-negative"
  let _ ← parse_browser_datetime r.requested_at "requested_at"

abbrev BrowserTakeoverRequestV1 : Type := Checked BrowserTakeoverRequestFields.post_init
