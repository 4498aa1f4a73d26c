import FirstAgent.State.Admission
import FirstAgent.State.Resources

/-! # Scanning the Fact Log for Evidence

    What the evidence oracles read off the durable facts: which results are
    trusted validations, which facts end the validity of earlier ones, the
    table of recorded calls, and exact read-backs. -/

open Fallible

/-! ### Reading receipts -/

/-- `try: x except ValueError: …`: the value, or nothing on a `ValueError`. -/
def Py.or_value_error {α : Type} (x : Py α) : Py (Option α) :=
  match x with
  | .ok a => .ok (some a)
  | .error (.value_error _) | .error (.goal_revision_conflict _)
  | .error (.compaction_ineligible_history _) => .ok none
  | .error e => .error e

/-- `set(d) ⊆ {…}`. -/
def JsonDict.only_keys (d : JsonDict) (keys : List String) : Bool :=
  d.keys.all fun k => keys.contains k

/-- One of these markers is set. -/
def JsonDict.marked (d : JsonDict) (markers : List String) : Bool :=
  markers.any fun k => (d.get k).truthy

/-- Every entry of the projection is in the metadata. -/
def JsonDict.agrees (metadata : JsonDict) (projection : List (String × Json)) : Bool :=
  projection.all fun m => (metadata.get m.1).py_eq m.2

/-- `sandbox_receipt_projection`. -/
def sandbox_receipt_projection (r : SandboxReceiptV1) : List (String × Json) := [
  ("sandbox_receipt_kind", .str "native_sandbox_v1"),
  ("receipt_digest", .str r.receipt_digest),
  ("execution_authority", .str "isolated_sandbox"),
  ("outcome", .str r.outcome),
  ("original_command_fingerprint", .str r.original_command_fingerprint),
  ("policy_digest", .str r.policy_digest),
  ("mode", .str r.mode),
  ("network", .str r.network),
  ("backend", .str r.backend),
  ("enforcement", .str r.enforcement),
  ("profile_digest", .str r.profile_digest),
  ("lease_id", .str r.lease_id)]

/-- The receipt of a confined, read-only validation that exited. -/
def SandboxReceiptV1.is_readonly_validation (r : SandboxReceiptV1) : Bool :=
  r.mode = "read-only" && r.network = "off" && r.backend = "seatbelt" &&
    r.enforcement = "confined" && r.outcome = "exited"

/-- `trusted_readonly_native_sandbox_success`. -/
def trusted_readonly_native_sandbox_success (f : ConversationFact)
    (workspace_identity_digest : Option String) : Bool :=
  match successful_metadata f with
  | none          => false
  | some metadata =>
    if metadata.marked ["fake", "mock", "synthetic"] then false
    else match SandboxReceiptV1.from_json (metadata.get "sandbox_receipt") with
      | .error _    => false
      | .ok receipt => metadata.agrees (sandbox_receipt_projection receipt) &&
        workspace_identity_digest.all (fun w => receipt.workspace_identity_digest = w) &&
        receipt.is_readonly_validation && (metadata.get "exit_code").py_eq (.int 0)

/-! ### What invalidates a validation -/

def WORKSPACE_WRITE_TOOLS : List String := ["write_file", "edit_file", "make_directory"]

def WRITABLE_PROCESS_TOOLS : List String := ["managed_web_start"]

/-- The metadata names one of these tools. -/
def JsonDict.of_tool (metadata : JsonDict) (names : List String) : Bool :=
  names.any fun n => metadata.get "tool_name" = .str n

/-- What the metadata of an executed result says about the workspace. -/
def metadata_invalidates (f : ConversationFact) (metadata : JsonDict) : Py Bool := do
  Json.require_hashable (metadata.get "tool_name")
  pure (metadata.of_tool WRITABLE_PROCESS_TOOLS || metadata.of_tool WORKSPACE_WRITE_TOOLS ||
    metadata.has "process_receipt" ||
    ((metadata.has "sandbox_receipt" ||
      metadata.get "sandbox_receipt_kind" = .str "native_sandbox_v1") &&
      !trusted_readonly_native_sandbox_success f none))

/-- `_may_invalidate_workspace_validation`. -/
def may_invalidate_workspace_validation (f : ConversationFact) : Py Bool :=
  -- a summary stands for facts nobody can inspect any more
  if f.val.kind = .context_summary then pure true
  else if f.val.kind ≠ .tool_result then pure false
  else if f.val.content.get "unknown_outcome" = .bool true then
    pure (f.val.content.get "side_effect" ≠ .str SideEffectClass.read_only.value)
  else if f.val.content.get "executed" ≠ .bool true then pure false
  else match (f.val.content.get "metadata").obj? with
    | none          => pure false
    | some metadata => metadata_invalidates f metadata

/-! ### Positions in the log -/

/-- A fact with what was recorded before it and after it. -/
structure LogPosition where
  earlier : List ConversationFact
  fact : ConversationFact
  later : List ConversationFact

/-- The positions of `facts`, with `earlier` recorded before them. -/
def log_positions (earlier : List ConversationFact) : List ConversationFact → List LogPosition
  | []         => []
  | f :: later => ⟨earlier, f, later⟩ :: log_positions (earlier ++ [f]) later

/-- A later fact may have changed the workspace. -/
def LogPosition.invalidated (p : LogPosition) : Py Bool :=
  p.later.anyM may_invalidate_workspace_validation

/-- `managed_writer_active_at(facts, fact_index)`. -/
def LogPosition.managed_writer_active (p : LogPosition) : Py Bool :=
  managed_writer_active_at (p.earlier ++ p.fact :: p.later) p.earlier.length

/-! ### Recorded calls -/

/-- A call as its batch recorded it, with the batch. -/
structure RecordedCall where
  tool_call_id : String
  call : JsonDict
  fact : ConversationFact

/-- The calls a fact announces. -/
def announced_calls (f : ConversationFact) : List RecordedCall :=
  if f.val.kind ≠ .tool_calls then []
  else ((f.val.content.get "calls").arr?.getD []).filterMap fun raw => do
    let call ← raw.obj?
    let tool_call_id ← (call.get "tool_call_id").str?
    some ⟨tool_call_id, call, f⟩

/-- `_calls`, looked up: the call that was recorded last with this id. -/
def last_call (facts : List ConversationFact) (tool_call_id : String) : Option RecordedCall :=
  (facts.flatMap announced_calls).reverse.find? fun c => c.tool_call_id = tool_call_id

/-- The call a result answers, when it reads this path. -/
def read_call (facts : List ConversationFact) (path : String) (f : ConversationFact) :
    Py (Option RecordedCall) :=
  if f.val.kind ≠ .tool_result then pure none
  else match (f.val.content.get "tool_call_id").str?.bind (last_call facts) with
    | none      => pure none
    | some call => do
      Json.require_hashable (call.call.get "name")
      if call.call.get "name" = .str "read_file" ∨ call.call.get "name" = .str "confirm_file" then
        match (call.call.get "arguments").obj? with
        | none           => pure none
        | some arguments =>
          pure (if arguments.get "path" = .str path then some call else none)
      else pure none

/-! ### Read-backs -/

/-- The text of the result has this digest. -/
def text_matches (f : ConversationFact) (digest : String) : Bool :=
  (f.val.content.get "text").str?.any fun text => Sha256.hexdigest text = digest

/-- What an exact read-back found: the batch, the result and its text. -/
structure Readback where
  call : ConversationFact
  result : ConversationFact
  text : String

/-- The result is a real read of the exact text. -/
def is_exact_readback (f : ConversationFact) (digest : String) : Bool :=
  f.val.content.get "is_error" = .bool false && f.val.content.get "executed" = .bool true &&
    f.val.content.get "synthetic" ≠ .bool true &&
    !((f.val.content.get "metadata").obj?.any fun m => m.marked ["fake", "mock", "synthetic"]) &&
    text_matches f digest

/-- One result as an exact read-back of a path. -/
def exact_readback_of (facts : List ConversationFact) (path expected_digest : String)
    (f : ConversationFact) : Py (Option Readback) := do
  match ← read_call facts path f with
  | none      => pure none
  | some call =>
    pure (if is_exact_readback f expected_digest then
      (f.val.content.get "text").str?.map fun text => ⟨call.fact, f, text⟩
    else none)

/-- The first item that gives a value. -/
def first_some {α β : Type} (f : α → Py (Option β)) : List α → Py (Option β)
  | []      => pure none
  | a :: as => do
    match ← f a with
    | some b => pure (some b)
    | none   => first_some f as

/-- `_exact_readback`: the latest one. -/
def exact_readback (facts : List ConversationFact) (path expected_digest : String) :
    Py Readback := do
  let found ← first_some (exact_readback_of facts path expected_digest) facts.reverse
  Py.expect_value found "no exact read-back fact proves the research artifact"

/-! ### Retrieved sources -/

/-- A source receipt with the result that carries it. -/
structure IssuedReceipt where
  receipt : SourceReceiptV1
  fact : ConversationFact
  untrusted : Bool

/-- The receipts one result carries. -/
def issued_receipts (f : ConversationFact) : Py (List IssuedReceipt) :=
  if f.val.kind ≠ .tool_result ∨ f.val.content.get "is_error" ≠ .bool false
      ∨ f.val.content.get "executed" ≠ .bool true ∨ f.val.content.get "synthetic" = .bool true then
    pure []
  else match (f.val.content.get "metadata").obj? with
    | none          => pure []
    | some metadata => do
      let receipts ← ((metadata.get "source_receipts").arr?.getD []).mapM fun raw =>
        (SourceReceiptV1.from_json raw).or_value_error
      pure ((receipts.filterMap id).map fun r =>
        ⟨r, f, metadata.marked ["fake", "mock", "synthetic"]⟩)

/-- `_source_receipts`: of two receipts with one key, the later one counts. -/
def source_receipts (facts : List ConversationFact) : Py (List IssuedReceipt) := do
  pure (← facts.mapM issued_receipts).flatten.reverse

/-- `_source_classes`. -/
def source_classes (r : SourceReceiptV1) : List String :=
  let value := r.source_kind.value
  [r.data_class] ++ (if PyText.startswith value "history_" then ["history"] else []) ++
    (if PyText.startswith value "workspace_" then ["workspace"] else []) ++
    (if PyText.startswith value "web_" then ["web"] else [])

/-! ### Web addresses in an artifact -/

/-- The text a link may go on with. -/
def link_body (cs : List Char) : List Char :=
  cs.takeWhile fun c => !PyText.is_space c && !(['<', '>', ']', ')', '}'].contains c)

/-- `https?://[^\s<>\])}]+` at the start of the text. -/
def link_at (cs : List Char) : Option (List Char) :=
  ["https://".toList, "http://".toList].findSome? fun scheme =>
    let body := link_body (cs.drop scheme.length)
    if scheme.isPrefixOf cs ∧ body ≠ [] then some (scheme ++ body) else none

/-- `re.findall`; `skip` counts the characters of a match still to be passed. -/
def find_links : (skip : Nat) → List Char → List (List Char)
  | _, []          => []
  | n + 1, _ :: cs => find_links n cs
  | 0, c :: cs     =>
    match link_at (c :: cs) with
    | some link => link :: find_links (link.length - 1) cs
    | none      => find_links 0 cs

/-- The links of an artifact without their closing punctuation. -/
def artifact_links (artifact : String) : List String :=
  (find_links 0 artifact.toList).map fun link =>
    String.ofList (link.reverse.dropWhile fun c => ".,;:!?".toList.contains c).reverse

/-! ### Freshness -/

/-- Microseconds of a timestamp on the UTC time line. -/
def PyDateTime.instant (t : PyDateTime) (offset : Int) : Int :=
  let clock := (((to_ordinal t.year t.month t.day * 24 + t.hour) * 60 + t.minute) * 60 + t.second)
  clock * 1000000 + t.microsecond - offset

/-- `_timestamp`. -/
def evidence_timestamp (value : String) : Py Int := do
  let parsed ← Py.expect_value (PyDateTime.fromisoformat (PyText.replace value "Z" "+00:00"))
    "freshness timestamp is malformed"
  let offset ← Py.expect_value parsed.offset "freshness timestamp must include timezone"
  pure (parsed.instant offset)

/-- `_verify_freshness` of the Web sources. -/
def verify_freshness (receipts : List SourceReceiptV1) (predicate : JsonDict)
    (observed_at : String) : Py Unit := do
  let web_receipts := receipts.filter fun r => PyText.startswith r.source_kind.value "web_"
  match predicate.get "observed_after" with
  | .null               => pure ()
  | .str observed_after => do
    let boundary ← evidence_timestamp observed_after
    let stale ← web_receipts.anyM fun r => do pure ((← evidence_timestamp r.observed_at) < boundary)
    Py.refuse_value stale "web source freshness requirement is not met"
  | _                   => .error (.value_error "freshness boundary is malformed")
  match predicate.get "maximum_age_seconds" with
  | .null            => pure ()
  | .int maximum_age => do
    Py.refuse_value (maximum_age < 0) "freshness maximum age is malformed"
    let now ← evidence_timestamp observed_at
    let stale ← web_receipts.anyM fun r => do
      pure (maximum_age * 1000000 < now - (← evidence_timestamp r.observed_at))
    Py.refuse_value stale "web source freshness requirement is not met"
  | _                => .error (.value_error "freshness maximum age is malformed")
