import FirstAgent.Contracts.Goal
import FirstAgent.Python.JsonText

/-! # Kernel Receipts

    The closed receipts the Kernel stores in tool results, each read back from
    JSON under an exact key set and a recomputed digest: process and sandbox
    executions, retrieved sources, and the citation manifest of an artifact. -/

open Fallible

/-! ### Reading closed objects -/

namespace Json

/-- A number that is an integer: `True` is `1` and `2.0` is `2`. -/
def as_int? : Json → Option Int
  | .bool b  => some (if b then 1 else 0)
  | .int i   => some i
  | .float r =>
    match r.toList.reverse with
    | '0' :: '.' :: digits =>
      match digits.reverse with
      | '-' :: ds => (PyDateTime.number? ds).map fun n => -(n : Int)
      | ds        => (PyDateTime.number? ds).map fun n => (n : Int)
    | _ => none
  | _ => none

/-- `a == b` on scalars. -/
def py_eq (a b : Json) : Bool :=
  a = b || (a.as_int?.isSome && a.as_int? = b.as_int?)

/-- A finite number that is not negative. -/
def is_finite_nonneg : Json → Bool
  | .int i   => 0 ≤ i
  | .float r => r ∉ ["nan", "inf", "-inf"] && (!PyText.startswith r "-" || r = "-0.0")
  | _        => false

end Json

namespace JsonDict

/-- `set(d) == {…}`. -/
def has_exactly (d : JsonDict) (keys : List String) : Bool :=
  (d.keys.all fun k => keys.contains k) && keys.all fun k => d.keys.contains k

/-- A text member. -/
def text (d : JsonDict) (label k : String) : Py String :=
  Py.expect_value (d.get k).str? (label ++ " " ++ k ++ " must be text")

/-- A text member that is not empty. -/
def nonempty_text (d : JsonDict) (label k : String) : Py String := do
  let s ← d.text label k
  Py.refuse_value (s = "") (label ++ " " ++ k ++ " must not be empty")
  pure s

/-- A member that is text or null. -/
def opt_text (d : JsonDict) (label k : String) : Py (Option String) :=
  match d.get k with
  | .null  => pure none
  | .str s => pure (some s)
  | _      => .error (.value_error (label ++ " " ++ k ++ " must be text"))

/-- An integer member. -/
def integer (d : JsonDict) (label k : String) : Py Int :=
  match d.get k with
  | .int i => pure i
  | _      => .error (.value_error (label ++ " " ++ k ++ " must be an integer"))

/-- A boolean member. -/
def boolean (d : JsonDict) (label k : String) : Py Bool :=
  match d.get k with
  | .bool b => pure b
  | _       => .error (.value_error (label ++ " " ++ k ++ " must be boolean"))

/-- The members of an object with exactly these keys. -/
def closed (value : Json) (label : String) (keys : List String) : Py JsonDict := do
  let d ← Py.expect_value value.obj? (label ++ " must be an object")
  Py.refuse_value (d.has_exactly keys = false) (label ++ " has unknown or missing fields")
  pure d

end JsonDict

/-! ### Process receipts -/

structure ProcessReceiptV1 where
  lease_id : String
  lease_digest : String
  use_ordinal : Int
  goal_id : String
  goal_revision : Int
  workspace_identity_digest : String
  tool_identity : String
  intent_digest : String
  executable_digest : String
  argv_digest : String
  cwd_digest : String
  resource_profile : String
  environment_policy_digest : String
  execution_authority : ExecutionAuthorityClass
  outcome : ProcessOutcome
  /-- Only its absence is checked, so any other JSON value is let through. -/
  exit_code : Json
  command_fingerprint : String
  receipt_digest : String
  deriving DecidableEq

namespace ProcessReceiptV1

def hex_keys : List String :=
  ["receipt_digest", "lease_digest", "tool_identity", "intent_digest", "executable_digest",
    "argv_digest", "cwd_digest", "environment_policy_digest", "stdout_digest", "stderr_digest",
    "command_fingerprint"]

def text_keys : List String :=
  ["receipt_digest", "lease_id", "lease_digest", "goal_id", "workspace_identity_digest",
    "tool_identity", "intent_digest", "executable_digest", "argv_digest", "cwd_digest",
    "resource_profile", "environment_policy_digest", "started_at", "ended_at", "stdout_digest",
    "stderr_digest", "group_cleanup_claim", "command_fingerprint", "receipt_version"]

def keys : List String :=
  text_keys ++ ["use_ordinal", "goal_revision", "execution_authority", "outcome", "exit_code",
    "signal", "duration_seconds", "stdout_bytes", "stderr_bytes", "stdout_truncated",
    "stderr_truncated"]

/-- `ProcessOutcome(text)`. -/
def outcome_of (value : Json) : Py ProcessOutcome :=
  if value = .str "exited" then pure .exited
  else if value = .str "signaled" then pure .signaled
  else if value = .str "timed_out_reaped" then pure .timed_out_reaped
  else .error (.value_error "process receipt is invalid")

/-- What each outcome must and must not carry. -/
def check_outcome (d : JsonDict) (outcome : ProcessOutcome) : Py Unit := do
  Py.refuse_value (outcome = .exited ∧ d.get "exit_code" = .null)
    "exited process receipt must carry exit_code"
  Py.refuse_value (outcome ≠ .exited ∧ d.get "exit_code" ≠ .null)
    "non-exited process receipt must not carry exit_code"
  Py.refuse_value (outcome = .signaled ∧ (d.get "signal").truthy = false)
    "signaled process receipt must carry a signal"
  Py.refuse_value (outcome ≠ .signaled ∧ d.get "signal" ≠ .null)
    "non-signaled process receipt must not carry a signal"
  Py.refuse_value (outcome = .timed_out_reaped ∧ d.get "group_cleanup_claim" ≠ .str "reaped")
    "timed out process receipt requires reaped cleanup claim"

/-- `ProcessReceiptV1.from_json`. -/
def from_json (value : Json) : Py ProcessReceiptV1 := do
  let label := "process receipt"
  let d ← JsonDict.closed value label keys
  text_keys.forM fun k => do
    let _ ← d.nonempty_text label k
  Py.refuse_value (d.get "receipt_version" ≠ .str "process_receipt_v1")
    "process receipt version is invalid"
  let goal_revision ← d.integer label "goal_revision"
  let use_ordinal ← d.integer label "use_ordinal"
  Py.refuse_value (goal_revision < 0 ∨ use_ordinal < 1)
    "process receipt goal_revision/use_ordinal must be non-negative"
  Py.refuse_value ((d.get "duration_seconds").is_finite_nonneg = false)
    "process receipt duration must be finite and non-negative"
  let stdout_bytes ← d.integer label "stdout_bytes"
  let stderr_bytes ← d.integer label "stderr_bytes"
  Py.refuse_value (stdout_bytes < 0 ∨ stderr_bytes < 0)
    "process receipt output byte counts must be non-negative"
  let _ ← d.boolean label "stdout_truncated"
  let _ ← d.boolean label "stderr_truncated"
  let outcome ← outcome_of (d.get "outcome")
  Py.refuse_value
    (d.get "execution_authority" ≠ .str ExecutionAuthorityClass.local_same_uid_process.value)
    "process receipt must use LOCAL_SAME_UID_PROCESS authority"
  check_outcome d outcome
  Py.refuse_value
    (hex_keys.any fun k => !((d.get k).str?.any fun s => PyText.is_lower_hex s 64))
    "process receipt digests must be 64 lowercase hex"
  Py.refuse_value
    (d.get "receipt_digest" ≠ .str (canonical_json_digest (.dict (d.erase "receipt_digest"))))
    "process receipt digest mismatch"
  pure {
    lease_id := ← d.text label "lease_id"
    lease_digest := ← d.text label "lease_digest"
    use_ordinal := use_ordinal
    goal_id := ← d.text label "goal_id"
    goal_revision := goal_revision
    workspace_identity_digest := ← d.text label "workspace_identity_digest"
    tool_identity := ← d.text label "tool_identity"
    intent_digest := ← d.text label "intent_digest"
    executable_digest := ← d.text label "executable_digest"
    argv_digest := ← d.text label "argv_digest"
    cwd_digest := ← d.text label "cwd_digest"
    resource_profile := ← d.text label "resource_profile"
    environment_policy_digest := ← d.text label "environment_policy_digest"
    execution_authority := .local_same_uid_process
    outcome := outcome
    exit_code := d.get "exit_code"
    command_fingerprint := ← d.text label "command_fingerprint"
    receipt_digest := ← d.text label "receipt_digest" }

end ProcessReceiptV1

/-! ### Sandbox receipts -/

structure SandboxReceiptV1 where
  receipt_id : String
  receipt_digest : String
  lease_id : String
  lease_digest : String
  candidate_digest : String
  goal_id : String
  goal_revision : Int
  workspace_identity_digest : String
  original_command_fingerprint : String
  policy_digest : String
  mode : String
  network : String
  backend : String
  enforcement : String
  profile_digest : String
  outcome : String
  draft_digest : String
  issued_at : String
  deriving Repr, DecidableEq

namespace SandboxReceiptV1

def keys : List String :=
  ["receipt_id", "receipt_digest", "lease_id", "lease_digest", "candidate_digest", "goal_id",
    "goal_revision", "workspace_identity_digest", "original_command_fingerprint",
    "policy_digest", "mode", "network", "backend", "enforcement", "profile_digest", "outcome",
    "draft_digest", "issued_at"]

/-- `_require_sandbox_digest`. -/
def require_digest (v name : String) : Py Unit :=
  Py.refuse_value (PyText.is_lower_hex v 64 = false)
    ("sandbox authority " ++ name ++ " must be a valid digest")

/-- The full bypass is the only unconfined execution. -/
def is_native_bypass (r : SandboxReceiptV1) : Bool :=
  r.mode = "danger-full-access" && r.network = "full"

def check (r : SandboxReceiptV1) : Py Unit := do
  Py.refuse_value (r.goal_revision < 1) "sandbox receipt goal_revision must be positive"
  require_digest r.lease_digest "lease_digest"
  require_digest r.candidate_digest "candidate_digest"
  require_digest r.original_command_fingerprint "original_command_fingerprint"
  require_digest r.policy_digest "policy_digest"
  require_digest r.draft_digest "draft_digest"
  Py.refuse_value
    (r.mode ∉ ["read-only", "workspace-write", "danger-full-access"]
      ∨ r.network ∉ ["off", "full"])
    "sandbox receipt mode/network must be closed"
  Py.refuse_value
    (r.backend ∉ ["seatbelt", "none"] ∨ r.enforcement ∉ ["confined", "unconfined"])
    "sandbox receipt enforcement facts must be closed"
  if r.backend = "seatbelt" then do
    Py.refuse_value (r.enforcement ≠ "confined") "seatbelt receipt must be confined"
    require_digest r.profile_digest "profile_digest"
  else
    Py.refuse_value (r.enforcement ≠ "unconfined" ∨ r.profile_digest ≠ "")
      "native bypass receipt must be unconfined without profile"
  Py.refuse_value (r.is_native_bypass ∧ r.backend ≠ "none")
    "danger-full-access network-full receipt must record native bypass"
  Py.refuse_value (¬ r.is_native_bypass ∧ r.backend ≠ "seatbelt")
    "confined policy receipt must record seatbelt"
  Py.refuse_value (r.outcome ∉ ["exited", "signaled", "timed_out_reaped"])
    ("unknown sandbox receipt outcome: '" ++ r.outcome ++ "'")

/-- `SandboxReceiptV1.from_json`. -/
def from_json (value : Json) : Py SandboxReceiptV1 := do
  let label := "sandbox receipt"
  let d ← JsonDict.closed value label keys
  let r : SandboxReceiptV1 := {
    receipt_id := ← d.nonempty_text label "receipt_id"
    receipt_digest := ← d.nonempty_text label "receipt_digest"
    lease_id := ← d.nonempty_text label "lease_id"
    lease_digest := ← d.text label "lease_digest"
    candidate_digest := ← d.text label "candidate_digest"
    goal_id := ← d.nonempty_text label "goal_id"
    goal_revision := ← d.integer label "goal_revision"
    workspace_identity_digest := ← d.nonempty_text label "workspace_identity_digest"
    original_command_fingerprint := ← d.text label "original_command_fingerprint"
    policy_digest := ← d.text label "policy_digest"
    mode := ← d.text label "mode"
    network := ← d.text label "network"
    backend := ← d.text label "backend"
    enforcement := ← d.text label "enforcement"
    profile_digest := ← d.text label "profile_digest"
    outcome := ← d.text label "outcome"
    draft_digest := ← d.text label "draft_digest"
    issued_at := ← d.nonempty_text label "issued_at" }
  r.check
  Py.refuse_value
    (r.receipt_digest ≠ canonical_json_digest (.dict (d.erase "receipt_digest")))
    "sandbox receipt digest mismatch"
  pure r

end SandboxReceiptV1

/-! ### Source receipts -/

def source_data_class (k : SourceKind) : String :=
  if PyText.startswith k.value "history_" then "first_agent_history"
  else if PyText.startswith k.value "workspace_" then "workspace_excerpt"
  else "public_web_content"

def SourceKind.of_value (value : Json) : Py SourceKind :=
  Py.expect_value
    ([SourceKind.history_excerpt, .history_goal, .history_evidence, .workspace_path,
      .workspace_excerpt, .web_search_snippet, .web_extracted_content].find? fun k =>
        value = .str k.value)
    "source receipt is invalid"

structure SourceReceiptV1 where
  source_id : String
  source_kind : SourceKind
  origin_locator : String
  origin_request_digest : Option String
  observed_at : String
  content_digest : String
  original_content_digest : Option String
  truncated : Bool
  truncation_reason : Option String
  snapshot_digest : Option String
  request_identity : Option String
  conversation_id : String
  run_id : String
  goal_id : Option String
  goal_revision : Option Int
  intent_digest : String
  data_class : String
  receipt_digest : String
  title : Option String := none
  deriving Repr, DecidableEq

namespace SourceReceiptV1

def keys : List String :=
  ["source_id", "source_kind", "origin_locator", "origin_request_digest", "observed_at",
    "content_digest", "original_content_digest", "truncated", "truncation_reason",
    "snapshot_digest", "request_identity", "conversation_id", "run_id", "goal_id",
    "goal_revision", "intent_digest", "data_class", "receipt_digest", "title"]

/-- `snapshot_digest or request_identity`. -/
def observation_identity (r : SourceReceiptV1) : Option String :=
  match r.snapshot_digest with
  | some s => if s = "" then r.request_identity else some s
  | none   => r.request_identity

def expected_source_id (r : SourceReceiptV1) : String :=
  "source:v1:" ++ canonical_json_digest (.dict <| JsonDict.of [
    ("source_kind", .str r.source_kind.value),
    ("origin_locator", .str r.origin_locator),
    ("observation_identity", .opt_str r.observation_identity)])

def check (r : SourceReceiptV1) : Py Unit := do
  Py.refuse_value
    (Py.any_empty [r.source_id, r.origin_locator, r.observed_at, r.content_digest,
      r.conversation_id, r.run_id, r.intent_digest, r.data_class, r.receipt_digest])
    "source receipt identity must not be empty"
  Py.refuse_value (r.goal_id.isNone ≠ r.goal_revision.isNone)
    "source receipt goal identity must be complete"
  Py.refuse_value (r.goal_revision.any fun v => v < 1)
    "source receipt goal revision must be positive"
  Py.refuse_value (r.snapshot_digest.isSome = r.request_identity.isSome)
    "source receipt requires exactly one observation identity"
  Py.refuse_value (r.truncated ≠ r.truncation_reason.isSome)
    "source receipt truncation metadata must be complete"
  Py.refuse_value (r.data_class ≠ source_data_class r.source_kind)
    "source receipt data class does not match its source kind"
  Py.refuse_value (r.source_id ≠ r.expected_source_id)
    "source receipt source identity is invalid"

/-- `SourceReceiptV1.from_json`. -/
def from_json (value : Json) : Py SourceReceiptV1 := do
  let label := "source receipt"
  let d ← JsonDict.closed value label keys
  let goal_revision ← (match d.get "goal_revision" with
    | .null  => pure none
    | .int i => pure (some i)
    | _      => .error (.value_error "source receipt is invalid"))
  let r : SourceReceiptV1 := {
    source_id := ← d.text label "source_id"
    source_kind := ← SourceKind.of_value (d.get "source_kind")
    origin_locator := ← d.text label "origin_locator"
    origin_request_digest := ← d.opt_text label "origin_request_digest"
    observed_at := ← d.text label "observed_at"
    content_digest := ← d.text label "content_digest"
    original_content_digest := ← d.opt_text label "original_content_digest"
    truncated := ← d.boolean label "truncated"
    truncation_reason := ← d.opt_text label "truncation_reason"
    snapshot_digest := ← d.opt_text label "snapshot_digest"
    request_identity := ← d.opt_text label "request_identity"
    conversation_id := ← d.text label "conversation_id"
    run_id := ← d.text label "run_id"
    goal_id := ← d.opt_text label "goal_id"
    goal_revision := goal_revision
    intent_digest := ← d.text label "intent_digest"
    data_class := ← d.text label "data_class"
    receipt_digest := ← d.text label "receipt_digest"
    title := ← d.opt_text label "title" }
  r.check
  Py.refuse_value
    (r.receipt_digest ≠ canonical_json_digest (.dict (d.erase "receipt_digest")))
    "source receipt digest mismatch"
  pure r

end SourceReceiptV1

/-! ### Citation manifests -/

structure CitationFields where
  marker : String
  source_id : String
  receipt_digest : String
  deriving Repr, DecidableEq

/-- A marker is bracketed ASCII letters, digits, `_` and `-`. -/
def is_citation_marker (s : String) : Bool :=
  let cs := s.toList
  3 ≤ cs.length && cs.length ≤ 32 && cs.head? = some '[' && cs.getLast? = some ']' &&
    ((cs.drop 1).dropLast.all fun c =>
      c.toNat < 128 && (c.isAlphanum || c = '_' || c = '-'))

def CitationFields.post_init (c : CitationFields) : Py Unit := do
  Py.refuse_value (is_citation_marker c.marker = false) "citation marker is malformed"
  Py.refuse_value
    (¬ (PyText.startswith c.source_id "source:v1:"
      ∧ PyText.is_lower_hex (String.ofList (c.source_id.toList.drop 10)) 64))
    "citation source_id is malformed"
  Py.refuse_value (PyText.is_lower_hex c.receipt_digest 64 = false)
    "citation receipt digest is malformed"

abbrev CitationV1 : Type := Checked CitationFields.post_init

def CitationV1.asdict (c : CitationV1) : Json :=
  .dict <| JsonDict.of [
    ("marker", .str c.val.marker), ("source_id", .str c.val.source_id),
    ("receipt_digest", .str c.val.receipt_digest)]

structure CitationManifestFields where
  artifact_path : String
  artifact_sha256 : String
  goal_id : String
  goal_revision : Int
  citations : List CitationV1
  manifest_digest : String
  deriving DecidableEq

namespace CitationManifestFields

def unsigned_members (m : CitationManifestFields) : List (String × Json) := [
  ("schema_version", .int 1),
  ("artifact_path", .str m.artifact_path),
  ("artifact_sha256", .str m.artifact_sha256),
  ("goal_id", .str m.goal_id),
  ("goal_revision", .int m.goal_revision),
  ("citations", .arr (m.citations.map CitationV1.asdict))]

/-- `to_json`. -/
def to_json (m : CitationManifestFields) : String :=
  (Json.dict <| JsonDict.of <|
    m.unsigned_members ++ [("manifest_digest", .str m.manifest_digest)]).dumps

def post_init (m : CitationManifestFields) : Py Unit := do
  Py.refuse_value (PyText.is_safe_relative_artifact_path m.artifact_path = false)
    "citation manifest artifact path is unsafe"
  Py.refuse_value (PyText.is_lower_hex m.artifact_sha256 64 = false)
    "citation manifest artifact digest is malformed"
  Py.refuse_value (m.goal_id = "") "citation manifest goal identity is missing"
  Py.refuse_value (m.goal_revision < 1) "citation manifest goal revision is malformed"
  Py.refuse_value (m.citations = [] ∨ 16 < m.citations.length)
    "citation manifest citation count is invalid"
  Py.refuse_value
    (¬ ((m.citations.map fun c => c.val.marker).Nodup
      ∧ (m.citations.map fun c => c.val.source_id).Nodup
      ∧ (m.citations.map fun c => c.val.receipt_digest).Nodup))
    "citation manifest entries must be one-to-one"
  Py.refuse_value
    (m.manifest_digest ≠ canonical_json_digest (.dict (JsonDict.of m.unsigned_members)))
    "citation manifest digest mismatch"

end CitationManifestFields

/-- A manifest of schema version 1. -/
abbrev CitationManifestV1 : Type := Checked CitationManifestFields.post_init

namespace CitationManifestV1

def citation_of (item : Json) : Py CitationV1 := do
  let malformed := "citation manifest entry is malformed"
  let d ← Py.expect_value item.obj? malformed
  Py.refuse_value (d.has_exactly ["marker", "source_id", "receipt_digest"] = false) malformed
  Checked.make {
    marker := ← d.text "citation" "marker"
    source_id := ← d.text "citation" "source_id"
    receipt_digest := ← d.text "citation" "receipt_digest" }

/-- `CitationManifestV1.from_json`: only the canonical text is accepted. -/
def from_json (raw : String) : Py CitationManifestV1 := do
  let label := "citation manifest"
  let document ← Py.expect_value (Json.loads raw) "citation manifest is not valid JSON"
  let d ← JsonDict.closed document label
    ["schema_version", "artifact_path", "artifact_sha256", "goal_id", "goal_revision",
      "citations", "manifest_digest"]
  let items ← Py.expect_value (d.get "citations").arr? "citation manifest citations must be a list"
  let citations ← items.mapM citation_of
  Py.refuse_value (d.get "schema_version" ≠ .int 1)
    "citation manifest schema version is unsupported"
  let manifest : CitationManifestV1 ← Checked.make {
    artifact_path := ← d.text label "artifact_path"
    artifact_sha256 := ← d.text label "artifact_sha256"
    goal_id := ← d.text label "goal_id"
    goal_revision := ← d.integer label "goal_revision"
    citations := citations
    manifest_digest := ← d.text label "manifest_digest" }
  Py.refuse_value (raw ≠ manifest.val.to_json) "citation manifest JSON is not canonical"
  pure manifest

end CitationManifestV1
