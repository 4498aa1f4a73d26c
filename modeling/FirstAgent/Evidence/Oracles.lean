import FirstAgent.Evidence.Scans

/-! # The Evidence Oracles

    `ClosedEvidenceRegistry`: one oracle for each kind of criterion.  An oracle
    looks for the facts that prove the predicate of a criterion and names
    itself; what it finds depends on the facts and the Goal, and for research
    also on the time of the observation. -/

open Fallible

/-- What an oracle found: the source facts, and which oracle it was. -/
structure OracleProof where
  source : List ConversationFact
  oracle_identity : String

/-- `source[:1]`, or the error when there is none. -/
def first_source (source : List ConversationFact) (oracle_identity missing : String) :
    Py OracleProof := do
  let fact ← Py.expect_value source.head? missing
  pure ⟨[fact], oracle_identity⟩

/-! ### Files -/

/-- A read-back of the exact bytes, as its source receipt records them. -/
def excerpt_proves (goal : GoalFrame) (path expected_digest : String) (r : SourceReceiptV1) :
    Bool :=
  r.source_kind = .workspace_excerpt && r.origin_locator = path &&
    r.original_content_digest = some expected_digest && r.goal_id = some goal.val.goal_id &&
    r.goal_revision = some goal.val.revision && !r.truncated

/-- The metadata carries a source receipt that passes the test. -/
def carries_receipt (metadata : JsonDict) (proves : SourceReceiptV1 → Bool) : Py Bool :=
  ((metadata.get "source_receipts").arr?.getD []).anyM fun raw => do
    pure ((← (SourceReceiptV1.from_json raw).or_value_error).any proves)

/-- The result at a position proves the content of a file. -/
def proves_file (facts : List ConversationFact) (goal : GoalFrame) (path expected_digest : String)
    (p : LogPosition) : Py (Option (List ConversationFact)) := do
  match ← read_call facts path p.fact with
  | none      => pure none
  | some call =>
    if p.fact.val.content.get "is_error" = .bool true
        ∨ p.fact.val.content.get "executed" = .bool false then pure none
    else match (p.fact.val.content.get "metadata").obj? with
      | none          => pure none
      | some metadata =>
        if metadata.marked ["fake", "mock"] then pure none
        else do
          let receipt ← carries_receipt metadata (excerpt_proves goal path expected_digest)
          -- old results have no receipt; their exact text is the proof
          if (receipt || text_matches p.fact expected_digest) = false then pure none
          else do
            pure (if ← p.invalidated then none else some [call.fact, p.fact])

/-- `_filesystem_digest`: the first read-back nothing invalidates. -/
def filesystem_digest (facts : List ConversationFact) (goal : GoalFrame) (predicate : JsonDict) :
    Py OracleProof := do
  Py.refuse_value (predicate.has_exactly ["path", "sha256"] = false)
    "filesystem predicate must be exact"
  let malformed := "filesystem predicate is malformed"
  let path ← Py.expect_value (predicate.get "path").str? malformed
  Py.refuse_value (path = "") malformed
  let expected_digest ← Py.expect_value (predicate.get "sha256").str? malformed
  let found ← first_some (proves_file facts goal path expected_digest) (log_positions [] facts)
  let source ← Py.expect_value found "no exact read-back fact proves the filesystem criterion"
  pure ⟨source, "filesystem-digest:v1"⟩

/-! ### Processes -/

/-- The metadata of a result that is not marked as an imitation. -/
def unmarked_metadata (f : ConversationFact) (markers : List String) : Option JsonDict :=
  if f.val.kind = .tool_result then
    (f.val.content.get "metadata").obj?.filter fun m => !m.marked markers
  else none

/-- The flat projection a process receipt must agree with. -/
def process_receipt_projection (receipt : JsonDict) : List (String × Json) :=
  ("process_receipt_kind", .str "process_v1") ::
    (["receipt_digest", "execution_authority", "outcome", "exit_code", "command_fingerprint",
      "stdout_truncated", "stderr_truncated", "duration_seconds", "resource_profile",
      "stdout_digest", "stderr_digest", "lease_id", "use_ordinal", "tool_identity"].map fun k =>
        (k, receipt.get k))

/-- The text is no digest. -/
def is_malformed_digest (value : Json) : Bool :=
  !(value.str?.any fun s => PyText.is_lower_hex s 64)

/-- An `int` that is no `bool`. -/
def is_integer : Json → Bool
  | .int _ => true
  | _      => false

/-- The shape of a `process_v1` predicate. -/
def check_process_predicate (predicate : JsonDict) : Py Unit := do
  Py.refuse_value
    (predicate.only_keys ["receipt_kind", "receipt_digest", "command_fingerprint", "outcome",
      "exit_code", "stdout_digest", "stderr_digest"] = false)
    "process receipt predicate has unknown keys"
  Py.refuse_value
    ((predicate.get "outcome").str? = none ∨ (predicate.get "command_fingerprint").str? = none)
    "process receipt predicate must be complete"
  Py.refuse_value
    (predicate.get "receipt_digest" ≠ .null ∧ is_malformed_digest (predicate.get "receipt_digest"))
    "process receipt predicate receipt_digest must be 64 lowercase hex"
  Py.refuse_value
    (predicate.get "outcome" = .str "exited" ∧ is_integer (predicate.get "exit_code") = false)
    "exited process receipt predicate requires an integer exit_code"
  Py.refuse_value (predicate.get "outcome" ≠ .str "exited" ∧ predicate.has "exit_code")
    "non-exited process receipt predicate must not pin exit_code"
  ["stdout_digest", "stderr_digest"].forM fun label => do
    Py.refuse_value (predicate.has label ∧ is_malformed_digest (predicate.get label))
      ("process receipt predicate " ++ label ++ " must be 64 lowercase hex")

/-- The receipt is the one the predicate asks for; `raw` are its members. -/
def process_receipt_matches (goal : GoalFrame) (predicate : JsonDict) (receipt : ProcessReceiptV1)
    (raw : JsonDict) : Bool :=
  receipt.goal_id = goal.val.goal_id && receipt.goal_revision = goal.val.revision &&
    (predicate.get "receipt_digest" = .null ||
      predicate.get "receipt_digest" = .str receipt.receipt_digest) &&
    predicate.get "outcome" = .str receipt.outcome.value &&
    predicate.get "command_fingerprint" = .str receipt.command_fingerprint &&
    (predicate.get "outcome" ≠ .str "exited" ||
      receipt.exit_code.py_eq (predicate.get "exit_code")) &&
    ["stdout_digest", "stderr_digest"].all fun label =>
      !predicate.has label || raw.get label = predicate.get label

/-- The result carries the process receipt the predicate asks for. -/
def carries_process_receipt (goal : GoalFrame) (predicate : JsonDict) (f : ConversationFact) :
    Py Bool :=
  if f.val.content.get "is_error" = .bool true then pure false
  else match unmarked_metadata f ["fake", "mock"] with
    | none          => pure false
    | some metadata => do
      let receipt ← (ProcessReceiptV1.from_json (metadata.get "process_receipt")).or_value_error
      pure (receipt.any fun r => ((metadata.get "process_receipt").obj?).any fun raw =>
        metadata.agrees (process_receipt_projection raw) &&
          process_receipt_matches goal predicate r raw)

/-- What a position says about a validation that must still hold. -/
inductive Validation where
  /-- Another result, or one obtained while a managed writer was open. -/
  | unfit
  | invalidated
  | holds
  deriving Repr, DecidableEq

/-- A matching validation counts when nothing after it may have changed the
    workspace and no managed writer was open. -/
def LogPosition.validation (p : LogPosition) (carries : ConversationFact → Py Bool) :
    Py Validation := do
  if ← carries p.fact then do
    if ← p.invalidated then pure .invalidated
    else pure (if ← p.managed_writer_active then .unfit else .holds)
  else pure .unfit

/-- Every position with what it says. -/
def validations (facts : List ConversationFact) (carries : ConversationFact → Py Bool) :
    Py (List (ConversationFact × Validation)) :=
  (log_positions [] facts).mapM fun p => do pure (p.fact, ← p.validation carries)

/-- The validations that hold, in order. -/
def holding (checked : List (ConversationFact × Validation)) : List ConversationFact :=
  (checked.filter fun v => v.2 = .holds).map Prod.fst

def INVALIDATED_BY_LATER_WORKSPACE_ACTIVITY : String := "invalidated by later workspace activity"

/-- `_process_tool_receipt`. -/
def process_tool_receipt (facts : List ConversationFact) (goal : GoalFrame)
    (predicate : JsonDict) : Py OracleProof := do
  check_process_predicate predicate
  let checked ← validations facts (carries_process_receipt goal predicate)
  first_source (holding checked) "process-receipt:v1"
    (if checked.any fun v => v.2 = .invalidated then
      "the process receipt that proved the criterion was " ++
        INVALIDATED_BY_LATER_WORKSPACE_ACTIVITY
    else "no exact process receipt proves the criterion")

/-! ### Sandbox executions -/

def sandbox_predicate_keys : List String :=
  ["receipt_kind", "command_fingerprint", "policy_digest", "mode", "network", "backend",
    "enforcement", "outcome"]

/-- The receipt is the one the predicate asks for. -/
def sandbox_receipt_matches (goal : GoalFrame) (predicate : JsonDict) (r : SandboxReceiptV1) :
    Bool :=
  r.goal_id = goal.val.goal_id && r.goal_revision = goal.val.revision &&
    (predicate.get "receipt_digest" = .null ||
      predicate.get "receipt_digest" = .str r.receipt_digest) &&
    predicate.get "command_fingerprint" = .str r.original_command_fingerprint &&
    predicate.get "policy_digest" = .str r.policy_digest &&
    predicate.get "mode" = .str r.mode && predicate.get "network" = .str r.network &&
    predicate.get "backend" = .str r.backend &&
    predicate.get "enforcement" = .str r.enforcement &&
    predicate.get "outcome" = .str r.outcome && r.outcome = "exited"

/-- The result carries the sandbox receipt the predicate asks for. -/
def carries_sandbox_receipt (goal : GoalFrame) (predicate : JsonDict) (f : ConversationFact) :
    Py Bool :=
  match successful_metadata f with
  | none          => pure false
  | some metadata =>
    if metadata.marked ["fake", "mock", "synthetic"] then pure false
    else do
      let receipt ← (SandboxReceiptV1.from_json (metadata.get "sandbox_receipt")).or_value_error
      pure (receipt.any fun r => metadata.agrees (sandbox_receipt_projection r) &&
        sandbox_receipt_matches goal predicate r && (metadata.get "exit_code").py_eq (.int 0))

/-- `_native_sandbox_tool_receipt`. -/
def native_sandbox_tool_receipt (facts : List ConversationFact) (goal : GoalFrame)
    (predicate : JsonDict) : Py OracleProof := do
  Py.refuse_value
    (predicate.has_exactly sandbox_predicate_keys = false
      ∧ predicate.has_exactly (sandbox_predicate_keys ++ ["receipt_digest"]) = false)
    "native sandbox receipt predicate must be exact"
  Py.refuse_value (predicate.get "receipt_kind" ≠ .str "native_sandbox_v1")
    "native sandbox receipt kind mismatch"
  Py.refuse_value
    (predicate.get "receipt_digest" ≠ .null ∧ is_malformed_digest (predicate.get "receipt_digest"))
    "native sandbox receipt digest is malformed"
  let checked ← validations facts (carries_sandbox_receipt goal predicate)
  first_source (holding checked) "native-sandbox-receipt:v1"
    "no exact native sandbox receipt proves the criterion"

/-! ### Receipts of any governed tool -/

/-- The result carries the receipt digest. -/
def carries_governed_receipt (expected : String) (f : ConversationFact) : Bool :=
  f.val.content.get "is_error" ≠ .bool true &&
    (unmarked_metadata f ["fake", "mock"]).any fun m => m.get "receipt_digest" = .str expected

/-- `_tool_receipt`. -/
def tool_receipt (facts : List ConversationFact) (goal : GoalFrame) (predicate : JsonDict) :
    Py OracleProof :=
  if predicate.get "receipt_kind" = .str "process_v1" then
    process_tool_receipt facts goal predicate
  else if predicate.get "receipt_kind" = .str "native_sandbox_v1" then
    native_sandbox_tool_receipt facts goal predicate
  else do
    let expected := (predicate.get "receipt_digest").str?
    Py.refuse_value (predicate.has_exactly ["receipt_digest"] = false)
      "tool receipt predicate must be exact"
    let expected ← Py.expect_value expected "tool receipt predicate must be exact"
    first_source (facts.filter fun f => carries_governed_receipt expected f) "tool-receipt:v1"
      "no exact governed receipt proves the criterion"

/-! ### User confirmation -/

/-- The user confirmed the criterion. -/
def confirms_criterion (criterion_id : String) (f : ConversationFact) : Bool :=
  f.val.kind = .user_message && f.val.content.get "criterion_id" = .str criterion_id &&
    f.val.content.get "confirmed" = .bool true

/-- `_user_confirmation`: the latest one. -/
def user_confirmation (facts : List ConversationFact) (criterion_id : String) : Py OracleProof :=
  first_source (facts.filter (confirms_criterion criterion_id)).reverse "user-confirmation:v1"
    "criterion requires exact user confirmation"

/-! ### Public Web sources -/

/-- The receipt is the retrieved source the predicate names. -/
def web_source_proves (goal : GoalFrame) (predicate : JsonDict) (r : SourceReceiptV1) : Bool :=
  predicate.get "receipt_digest" = .str r.receipt_digest &&
    predicate.get "source_kind" = .str r.source_kind.value &&
    r.goal_id = some goal.val.goal_id && r.goal_revision.any fun v => v ≤ goal.val.revision

/-- The result carries the retrieved source. -/
def carries_web_source (goal : GoalFrame) (predicate : JsonDict) (f : ConversationFact) :
    Py Bool :=
  match successful_metadata f with
  | none          => pure false
  | some metadata =>
    if metadata.marked ["fake", "mock"] then pure false
    else carries_receipt metadata (web_source_proves goal predicate)

/-- `_web_source_receipt`. -/
def web_source_receipt (facts : List ConversationFact) (goal : GoalFrame) (predicate : JsonDict) :
    Py OracleProof := do
  Py.refuse_value
    (predicate.has_exactly ["receipt_digest", "source_kind"] = false
      ∨ (predicate.get "source_kind" ≠ .str SourceKind.web_search_snippet.value
        ∧ predicate.get "source_kind" ≠ .str SourceKind.web_extracted_content.value))
    "public Web source predicate is invalid"
  first_source (← facts.filterM (carries_web_source goal predicate))
    "public-web-source-receipt:v1" "no exact public Web source receipt proves the criterion"

/-! ### Browser read-backs -/

/-- The identity of a browser session a predicate or a receipt names, under the
    current Goal. -/
def same_browser_identity (goal : GoalFrame) (predicate metadata : JsonDict) : Bool :=
  metadata.get "session_ref" = predicate.get "session_ref" &&
    (metadata.get "profile_revision").py_eq (predicate.get "profile_revision") &&
    metadata.get "browser_identity_digest" = predicate.get "browser_identity_digest" &&
    metadata.get "goal_id" = .str goal.val.goal_id &&
    (metadata.get "goal_revision").py_eq (.int goal.val.revision)

/-- The result is not an error and was not refused. -/
def not_failed (f : ConversationFact) : Bool :=
  f.val.content.get "is_error" ≠ .bool true && f.val.content.get "executed" ≠ .bool false

/-- The receipt of the browser action. -/
def is_browser_receipt (goal : GoalFrame) (predicate : JsonDict) (f : ConversationFact) : Bool :=
  not_failed f && (unmarked_metadata f ["fake", "mock"]).any fun m =>
    m.get "browser_receipt_kind" = .str "browser_action_v1" &&
      m.get "receipt_digest" = predicate.get "receipt_digest" &&
      m.get "outcome" = .str "effect_applied" && same_browser_identity goal predicate m

/-- A fresh observation with the digest. -/
def is_browser_observation (goal : GoalFrame) (predicate : JsonDict) (f : ConversationFact) :
    Bool :=
  not_failed f && (unmarked_metadata f []).any fun m =>
    m.get "browser_result_kind" = .str "browser_observe" &&
      m.get "observation_digest" = predicate.get "readback_observation_digest" &&
      same_browser_identity goal predicate m

/-- The shape of a `browser_readback_v1` predicate. -/
def is_browser_predicate (predicate : JsonDict) : Bool :=
  predicate.get "receipt_kind" = .str "browser_readback_v1" &&
    predicate.has_exactly ["receipt_kind", "receipt_digest", "session_ref",
      "readback_observation_digest", "profile_revision", "browser_identity_digest"] &&
    (["receipt_digest", "session_ref", "readback_observation_digest",
      "browser_identity_digest"].all fun k => (predicate.get k).str?.isSome) &&
    (predicate.get "profile_revision" = .null || is_integer (predicate.get "profile_revision"))

/-- `_browser_readback`: the first receipt, and the first read-back behind it. -/
def browser_readback (facts : List ConversationFact) (goal : GoalFrame) (predicate : JsonDict) :
    Py OracleProof := do
  Py.refuse_value (is_browser_predicate predicate = false)
    "browser readback predicate must be exact"
  let receipt ← Py.expect_value
    ((log_positions [] facts).find? fun p => is_browser_receipt goal predicate p.fact)
    "no durable governed browser receipt proves the criterion"
  let readback ← Py.expect_value (receipt.later.find? (is_browser_observation goal predicate))
    "no fresh browser readback observation follows the receipt"
  pure ⟨[receipt.fact, readback], "browser-readback:v1"⟩

/-! ### Research provenance -/

/-- A text of a research predicate. -/
def predicate_text (predicate : JsonDict) (key : String) : Py String := do
  let malformed := "research predicate " ++ key ++ " is malformed"
  let value ← Py.expect_value (predicate.get key).str? malformed
  Py.refuse_value (value = "") malformed
  pure value

/-- A digest of a research predicate. -/
def predicate_digest (predicate : JsonDict) (key : String) : Py String := do
  let value ← predicate_text predicate key
  Py.refuse_value (PyText.is_lower_hex value 64 = false)
    ("research predicate " ++ key ++ " is malformed")
  pure value

/-- A sequence of texts of a research predicate. -/
def predicate_text_sequence (predicate : JsonDict) (key : String) : Py (List String) := do
  let malformed := "research predicate " ++ key ++ " is malformed"
  let items ← Py.expect_value (predicate.get key).arr? malformed
  Py.refuse_value (items.any fun i => !(i.str?.any fun s => s ≠ "")) malformed
  pure (items.filterMap Json.str?)

/-- `1 <= minimum_distinct_sources <= 16`. -/
def minimum_sources (predicate : JsonDict) : Py Int :=
  let malformed := "distinct source requirement is malformed"
  match predicate.get "minimum_distinct_sources" with
  | .int n => do
    Py.refuse_value (¬ (1 ≤ n ∧ n ≤ 16)) malformed
    pure n
  | _      => .error (.value_error malformed)

/-- A research predicate, read. -/
structure ResearchPredicate where
  artifact_path : String
  artifact_sha256 : String
  manifest_path : String
  manifest_sha256 : String
  manifest_digest : String
  minimum_distinct_sources : Int
  required_source_kinds : List String
  required_source_classes : List String
  required_receipt_digests : List String

def research_required_keys : List String :=
  ["artifact_path", "artifact_sha256", "manifest_path", "manifest_sha256", "manifest_digest",
    "minimum_distinct_sources", "required_source_kinds", "required_source_classes",
    "required_receipt_digests"]

/-- The checks of a research predicate that need no facts. -/
def read_research_predicate (goal : GoalFrame) (predicate : JsonDict) : Py ResearchPredicate := do
  Py.refuse_value
    ((research_required_keys.all fun k => predicate.has k) = false
      ∨ predicate.only_keys
        (research_required_keys ++ ["observed_after", "maximum_age_seconds"]) = false)
    "research provenance predicate must be exact"
  let r : ResearchPredicate := {
    artifact_path := ← predicate_text predicate "artifact_path"
    artifact_sha256 := ← predicate_digest predicate "artifact_sha256"
    manifest_path := ← predicate_text predicate "manifest_path"
    manifest_sha256 := ← predicate_digest predicate "manifest_sha256"
    manifest_digest := ← predicate_digest predicate "manifest_digest"
    minimum_distinct_sources := ← minimum_sources predicate
    required_source_kinds := ← predicate_text_sequence predicate "required_source_kinds"
    required_source_classes := ← predicate_text_sequence predicate "required_source_classes"
    required_receipt_digests := ← predicate_text_sequence predicate "required_receipt_digests" }
  Py.refuse_value (r.required_receipt_digests.any fun d => !PyText.is_lower_hex d 64)
    "required receipt digest is malformed"
  Py.refuse_value
    (PyText.endswith r.manifest_path ".citations.json" = false
      ∨ r.manifest_path = r.artifact_path ∨ r.manifest_path ∉ goal.val.targets
      ∨ r.artifact_path ∉ goal.val.targets)
    "citation manifest path is not bound to artifact"
  pure r

/-- The manifest of the read-back sidecar, bound to the Goal and the artifact. -/
def bound_manifest (goal : GoalFrame) (r : ResearchPredicate) (manifest_raw : String) :
    Py CitationManifestV1 := do
  let found ← (CitationManifestV1.from_json manifest_raw).or_value_error
  let manifest ← Py.expect_value found "citation manifest read-back is invalid"
  Py.refuse_value
    (manifest.val.goal_id ≠ goal.val.goal_id ∨ manifest.val.goal_revision ≠ goal.val.revision)
    "citation manifest is not bound to the current Goal"
  Py.refuse_value
    (manifest.val.artifact_path ≠ r.artifact_path
      ∨ manifest.val.artifact_sha256 ≠ r.artifact_sha256
      ∨ manifest.val.manifest_digest ≠ r.manifest_digest)
    "citation manifest is not bound to the exact artifact"
  pure manifest

/-- The receipt one citation names. -/
def cited_receipt (conversation_id : String) (goal : GoalFrame) (artifact : String)
    (receipts : List IssuedReceipt) (citation : CitationV1) : Py IssuedReceipt := do
  let matched ← Py.expect_value
    (receipts.find? fun i => i.receipt.source_id = citation.val.source_id
      ∧ i.receipt.receipt_digest = citation.val.receipt_digest)
    "citation has no exact Runtime-issued source receipt"
  Py.refuse_value matched.untrusted "fake source receipt cannot prove research"
  Py.refuse_value
    (matched.receipt.conversation_id ≠ conversation_id
      ∨ matched.receipt.goal_id ≠ some goal.val.goal_id
      ∨ matched.receipt.goal_revision ≠ some goal.val.revision)
    "source receipt is not bound to the current Goal"
  Py.refuse_value matched.receipt.truncated "truncated source receipt cannot prove research"
  Py.refuse_value (PyText.contains artifact citation.val.marker = false)
    "each citation marker must occur in the artifact"
  pure matched

/-- What the cited receipts must add up to. -/
def check_citations (r : ResearchPredicate) (artifact : String) (cited : List SourceReceiptV1) :
    Py Unit := do
  Py.refuse_value
    (((PyText.sorted_set (cited.map fun c => c.source_id)).length : Int)
      < r.minimum_distinct_sources)
    "distinct source requirement is not met"
  let cited_kinds := cited.map fun c => c.source_kind.value
  Py.refuse_value (¬ r.required_source_kinds ⊆ cited_kinds) "required source kind is not cited"
  Py.refuse_value (SourceKind.web_search_snippet.value ∈ cited_kinds)
    "required source kind must contain extracted web content, not a search snippet"
  Py.refuse_value (¬ r.required_source_classes ⊆ cited.flatMap source_classes)
    "required source class is not cited"
  Py.refuse_value (¬ r.required_receipt_digests ⊆ cited.map fun c => c.receipt_digest)
    "required source receipt is not cited"
  let cited_web_urls := (cited.filter fun c => PyText.startswith c.source_kind.value "web_").map
    fun c => c.origin_locator
  Py.refuse_value (¬ artifact_links artifact ⊆ cited_web_urls)
    "artifact contains an invented URL"

/-- The facts in order, each id once. -/
def unique_facts (facts : List ConversationFact) : List ConversationFact :=
  facts.foldl (fun unique f =>
    if unique.any fun u => u.val.fact_id = f.val.fact_id then unique else unique ++ [f]) []

/-- `_research_provenance`. -/
def research_provenance (s : ConversationState) (goal : GoalFrame) (predicate : JsonDict)
    (observed_at : String) : Py OracleProof := do
  let r ← read_research_predicate goal predicate
  let artifact ← exact_readback s.val.facts r.artifact_path r.artifact_sha256
  let sidecar ← exact_readback s.val.facts r.manifest_path r.manifest_sha256
  let manifest ← bound_manifest goal r sidecar.text
  let receipts ← source_receipts s.val.facts
  let cited ← manifest.val.citations.mapM
    (cited_receipt s.val.conversation_id goal artifact.text receipts)
  check_citations r artifact.text (cited.map IssuedReceipt.receipt)
  verify_freshness (cited.map IssuedReceipt.receipt) predicate observed_at
  pure ⟨unique_facts ([artifact.call, artifact.result, sidecar.call, sidecar.result] ++
    cited.map IssuedReceipt.fact), "research-provenance:v1"⟩
