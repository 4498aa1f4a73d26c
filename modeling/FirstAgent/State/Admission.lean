import FirstAgent.Contracts.Receipts
import FirstAgent.State.Authority

/-! # Admitting Criteria

    The completion criteria the Runtime admits, when an approval names the
    exact effect and when a Kernel receipt proves one.  An admission changes
    the criteria of the Goal, drops superseded evidence and withdraws the
    completion claim (`admission_step`); the rest of the state is untouched. -/

open Fallible

/-! ### One admission -/

/-- The user's message an admitted criterion is traced to. -/
def authoritative_source (s : ConversationState) (goal : GoalFrame) : Option ConversationFact :=
  s.val.facts.find? fun f =>
    f.val.fact_id ∈ goal.val.created_from_fact_ids ∧ f.val.kind = .user_message

/-- A fact as evidence digests name it. -/
def ConversationFact.asdict (f : ConversationFact) : Json :=
  .dict <| JsonDict.of [
    ("fact_id", .str f.val.fact_id),
    ("kind", .str f.val.kind.value),
    ("content", .dict f.val.content)]

/-- What a criterion is admitted as. -/
structure Admission where
  binding_id : String
  criterion_id : String
  oracle_kind : EvidenceOracleKind
  predicate : JsonDict
  required_evidence_class : String
  description : String

/-- `CriterionAdmissionBinding.create(…).admit(description)` for the Goal. -/
def Admission.admit_criterion (a : Admission) (goal : GoalFrame) (source : ConversationFact) :
    Py AdmittedCriterion := do
  let binding ← CriterionAdmissionBinding.create {
    binding_id := a.binding_id
    goal_id := goal.val.goal_id
    goal_revision := goal.val.revision
    workspace_identity_digest := goal.val.workspace_identity_digest
    criterion_id := a.criterion_id
    user_outcome_fact_id := source.val.fact_id
    user_outcome_digest := canonical_json_digest source.asdict
    oracle_kind := a.oracle_kind
    predicate := a.predicate
    required_evidence_class := a.required_evidence_class }
  binding.admit_criterion a.description

/-- `replace(state, goal=replace(goal, …), evidence_records=…,
    completion_claim=None)`. -/
def install_criteria (s : ConversationState) (goal : GoalFrame)
    (proposed : List ProposedCriterion) (admitted : List AdmittedCriterion)
    (evidence : List EvidenceRecord) : Py ConversationState := do
  let goal ← Checked.make { goal.val with
    proposed_criteria := proposed
    admitted_criteria := admitted }
  Checked.make { s.val with
    goal := some goal
    evidence_records := evidence
    completion_claim := none }

/-- Append one criterion to the admitted ones. -/
def append_criterion (s : ConversationState) (goal : GoalFrame) (c : AdmittedCriterion) :
    Py ConversationState :=
  install_criteria s goal goal.val.proposed_criteria (goal.val.admitted_criteria ++ [c])
    s.val.evidence_records

/-- Put one criterion in the place of the admitted one with its id, whose
    evidence no longer counts. -/
def supersede_criterion (s : ConversationState) (goal : GoalFrame) (c : AdmittedCriterion) :
    Py ConversationState :=
  install_criteria s goal goal.val.proposed_criteria
    ((goal.val.admitted_criteria.filter fun x => x.val.criterion_id ≠ c.val.criterion_id) ++ [c])
    (s.val.evidence_records.filter fun r => r.val.criterion_id ≠ c.val.criterion_id)

/-- A criterion with this id and oracle is admitted already. -/
def already_admitted (goal : GoalFrame) (criterion_id : String)
    (oracle_kind : EvidenceOracleKind) : Bool :=
  goal.val.admitted_criteria.any fun c =>
    c.val.criterion_id = criterion_id && c.val.oracle_kind = oracle_kind

/-- A process or sandbox receipt criterion of this receipt kind. -/
def AdmittedCriterion.is_receipt (c : AdmittedCriterion) (receipt_kind : String) : Bool :=
  c.val.oracle_kind = .tool_receipt && c.val.predicate.get "receipt_kind" = .str receipt_kind

/-- The call of the active run a request is about. -/
def requested_call (s : ConversationState) (pending : ApprovalRequest) : Option ToolCall :=
  s.val.active_run.bind fun r =>
    r.val.tool_calls.find? fun c => c.val.tool_call_id = pending.val.tool_call_id

/-! ### Files -/

/-- The proposals an approved file satisfies: those naming its path, else the
    one deferred proposal, which the approval binds to the path. -/
def matching_file_proposals (goal : GoalFrame) (path : String) :
    List ProposedCriterion × Option String :=
  let of_path := fun (p : Option String) => goal.val.proposed_criteria.filter fun c =>
    c.val.oracle_kind = some .filesystem_digest ∧ c.val.artifact_path = p
  match of_path (some path), of_path none with
  | [], [deferred] => ([deferred], some deferred.val.criterion_id)
  | matching, _    => (matching, none)

/-- The criterion rests on the file being replaced. -/
def superseded_by_write (path : String) (criterion_ids : List String) (c : AdmittedCriterion) :
    Py Bool :=
  if criterion_ids.contains c.val.criterion_id || (c.val.oracle_kind = .filesystem_digest &&
      c.val.predicate.get "path" = .str path) then pure true
  else if c.val.oracle_kind = .research_provenance then do
    let artifact := c.val.predicate.get "artifact_path"
    let manifest := c.val.predicate.get "manifest_path"
    Json.require_hashable artifact
    Json.require_hashable manifest
    pure (artifact = .str path || manifest = .str path)
  else pure false

/-- `_admit_approved_file_criterion`. -/
def admit_approved_file_criterion (s : ConversationState) (action_seq : Int)
    (active : ActiveRun) : Py ConversationState :=
  match s.val.goal, active.val.current_call, active.val.pending_request with
  | some goal, some call, some (.approval pending) =>
    match (call.val.arguments.get "path").str?, pending.val.new_content_digest with
    | some path, some new_content_digest =>
      if call.val.name ∉ ["write_file", "edit_file", "confirm_file"] then pure s
      else do
        let (matching, bound_proposal_id) := matching_file_proposals goal path
        let criteria := if matching = [] then
            [("criterion:approved-write:" ++ call.val.tool_call_id,
              "approved file " ++ path ++ " has the exact requested content")]
          else matching.map fun c => (c.val.criterion_id, c.val.description)
        let source ← Py.expect_value (authoritative_source s goal)
          "approved write criterion requires the authoritative user fact"
        let predicate := JsonDict.of
          [("path", .str path), ("sha256", .str new_content_digest)]
        let criterion_ids := criteria.map Prod.fst
        if criterion_ids.all fun i => goal.val.admitted_criteria.any fun c =>
            c.val.criterion_id = i && c.val.oracle_kind = .filesystem_digest &&
              c.val.predicate = predicate then pure s
        else do
          let admitted ← criteria.mapM fun c => Admission.admit_criterion {
            binding_id := "criterion-admission:approval:" ++ toString action_seq ++ ":" ++
              call.val.tool_call_id ++ ":" ++ c.1
            criterion_id := c.1
            oracle_kind := .filesystem_digest
            predicate := predicate
            required_evidence_class := "workspace_file"
            description := c.2 } goal source
          let superseded ← goal.val.admitted_criteria.filterM
            (superseded_by_write path criterion_ids)
          let superseded_ids := superseded.map fun c => c.val.criterion_id
          let proposed ← goal.val.proposed_criteria.mapM fun c =>
            if some c.val.criterion_id = bound_proposal_id then
              Checked.make { c.val with artifact_path := some path }
            else pure c
          install_criteria s goal proposed
            ((goal.val.admitted_criteria.filter fun c =>
              c.val.criterion_id ∉ superseded_ids) ++ admitted)
            (s.val.evidence_records.filter fun r => r.val.criterion_id ∉ superseded_ids)
    | _, _ => pure s
  | _, _, _ => pure s

/-! ### Research provenance -/

/-- The text of the approved digest: the content, or the content without its
    last newline. -/
def approved_content (content digest : String) : Option String :=
  if Sha256.hexdigest content = digest then some content
  else if PyText.endswith content "\n" then
    let canonical_content := PyText.take content (content.toList.length - 1)
    if Sha256.hexdigest canonical_content = digest then some canonical_content else none
  else none

/-- The manifest of an approved citation sidecar for the current Goal;
    anything else is passed over. -/
def approved_manifest (goal : GoalFrame) (path content digest : String) :
    Py (Option CitationManifestV1) :=
  match approved_content content digest with
  | none         => pure none
  | some content =>
    match CitationManifestV1.from_json content with
    | .error (.value_error _) | .error (.goal_revision_conflict _) => pure none
    | .error e     => .error e
    | .ok manifest =>
      if manifest.val.goal_id ≠ goal.val.goal_id
          ∨ manifest.val.goal_revision ≠ goal.val.revision
          ∨ path = manifest.val.artifact_path ∨ path ∉ goal.val.targets
          ∨ manifest.val.artifact_path ∉ goal.val.targets then pure none
      else pure (some manifest)

/-- `_admit_approved_research_criterion`. -/
def admit_approved_research_criterion (s : ConversationState) (action_seq : Int)
    (active : ActiveRun) : Py ConversationState :=
  match s.val.goal, active.val.current_call, active.val.pending_request with
  | some goal, some call, some (.approval pending) =>
    match (call.val.arguments.get "path").str?, (call.val.arguments.get "content").str?,
        pending.val.new_content_digest with
    | some path, some content, some new_content_digest =>
      if call.val.name ∉ ["write_file", "edit_file"]
          ∨ PyText.endswith path ".citations.json" = false then pure s
      else do
        match ← approved_manifest goal path content new_content_digest with
        | none          => pure s
        | some manifest => do
          let source ← Py.expect_value (authoritative_source s goal)
            "research criterion requires the authoritative user fact"
          let criterion_id := "criterion:research-provenance:" ++
            PyText.take (canonical_json_digest <| .dict <| JsonDict.of [
              ("goal_id", .str goal.val.goal_id),
              ("artifact_path", .str manifest.val.artifact_path)]) 16
          let admitted ← Admission.admit_criterion {
            binding_id := "criterion-admission:research:" ++ toString action_seq ++ ":" ++
              call.val.tool_call_id
            criterion_id := criterion_id
            oracle_kind := .research_provenance
            predicate := JsonDict.of [
              ("artifact_path", .str manifest.val.artifact_path),
              ("artifact_sha256", .str manifest.val.artifact_sha256),
              ("manifest_path", .str path),
              ("manifest_sha256", .str new_content_digest),
              ("manifest_digest", .str manifest.val.manifest_digest),
              ("minimum_distinct_sources", .int manifest.val.citations.length),
              ("required_source_kinds", .arr []),
              ("required_source_classes", .arr []),
              ("required_receipt_digests",
                .strs (manifest.val.citations.map fun c => c.val.receipt_digest))]
            required_evidence_class := "research_provenance"
            description :=
              "artifact and citation sidecar are bound to current-Goal source receipts" }
            goal source
          supersede_criterion s goal admitted
    | _, _, _ => pure s
  | _, _, _ => pure s

/-! ### Sandbox validation -/

/-- The candidate binds the current Goal. -/
def binds_goal (goal : GoalFrame) (goal_id : String) (goal_revision : Int)
    (workspace_identity_digest : String) : Bool :=
  goal_id = goal.val.goal_id && goal_revision = goal.val.revision &&
    workspace_identity_digest = goal.val.workspace_identity_digest

/-- The command is not the validator the user's text asks for, so approving it
    does not turn it into completion evidence. -/
def is_foreign_validator (rules : TextRules) (s : ConversationState)
    (requirement : Option ProposedCriterion) (executable : Option String) : Bool :=
  requirement.any ProposedCriterion.is_runtime_owned_obligation &&
    executable.all fun e => !process_entrypoint_matches_authority rules s e

/-- `_admit_approved_read_only_validation_criterion`. -/
def admit_approved_read_only_validation_criterion (rules : TextRules) (s : ConversationState)
    (pending : ApprovalRequest) : Py ConversationState :=
  match pending.val.sandbox_authority_candidate, s.val.goal, requested_call s pending with
  | some candidate, some goal, some call =>
    if candidate.val.mode ≠ "read-only" ∨ call.val.name ≠ "sandbox_exec" then pure s
    else do
      Py.refuse_value
        (binds_goal goal candidate.val.goal_id candidate.val.goal_revision
          candidate.val.workspace_identity_digest = false)
        "sandbox candidate does not bind the current Goal"
      let requirement := bindable_tool_receipt_proposal goal
      let criterion_id := match requirement with
        | some c => c.val.criterion_id
        | none   => "criterion:sandbox-receipt:" ++ goal.val.goal_id ++ ":" ++
            toString goal.val.revision ++ ":" ++ pending.val.tool_call_id
      if is_foreign_validator rules s requirement (call.val.arguments.get "executable").str?
          ∨ already_admitted goal criterion_id .tool_receipt then pure s
      else do
        let source ← Py.expect_value (authoritative_source s goal)
          "sandbox validation criterion requires the authoritative user fact"
        let admitted ← Admission.admit_criterion {
          binding_id := "criterion-admission:sandbox-receipt:" ++ pending.val.request_id ++ ":" ++
            pending.val.tool_call_id
          criterion_id := criterion_id
          oracle_kind := .tool_receipt
          predicate := JsonDict.of [
            ("receipt_kind", .str "native_sandbox_v1"),
            ("command_fingerprint", .str candidate.val.original_command_fingerprint),
            ("policy_digest", .str candidate.val.policy_digest),
            ("mode", .str candidate.val.mode),
            ("network", .str candidate.val.network),
            ("backend", .str "seatbelt"),
            ("enforcement", .str "confined"),
            ("outcome", .str "exited")]
          required_evidence_class := "native_sandbox_receipt"
          description := match requirement with
            | some c => c.val.description
            | none   => "approved read-only sandbox_exec must produce the exact Kernel receipt" }
          goal source
        append_criterion s goal admitted
  | _, _, _ => pure s

/-! ### Equivalent commands -/

/-- `_ENVIRONMENT_REPAIR_FLAG_SEQUENCES`. -/
def ENVIRONMENT_REPAIR_FLAG_SEQUENCES : List (List String) := [
  ["-p", "no:cacheprovider"], ["--import-mode=prepend"], ["--import-mode=append"],
  ["--import-mode", "prepend"], ["--import-mode", "append"], ["--rootdir=."],
  ["--rootdir", "."], ["-o", "pythonpath=."]]

/-- `_strip_environment_repair_flags`; `skip` counts the tokens of a sequence
    still to be dropped. -/
def strip_environment_repair_flags : (skip : Nat) → List String → List String
  | _, []              => []
  | n + 1, _ :: tokens => strip_environment_repair_flags n tokens
  | 0, token :: tokens =>
    match ENVIRONMENT_REPAIR_FLAG_SEQUENCES.find? fun q => q.isPrefixOf (token :: tokens) with
    | some sequence => strip_environment_repair_flags (sequence.length - 1) tokens
    | none          => token :: strip_environment_repair_flags 0 tokens

/-- `re.fullmatch(r"python(?:3(?:\.\d+)?)?", entry)`. -/
def is_python_entrypoint (entry : String) : Bool :=
  entry = "python" || entry = "python3" ||
    (PyText.startswith entry "python3." &&
      let minor := entry.toList.drop 8
      !minor.isEmpty && minor.all PyText.is_decimal)

/-- The entrypoint of a command and the rest of its arguments. -/
abbrev CommandForm : Type := String × List String

/-- `_canonical_command_form`. -/
def canonical_command_form (executable argv : Json) : Option CommandForm := do
  let executable ← executable.str?
  let entry := normalize_process_entrypoint executable
  if entry = "" then none
  else
    let rest := (argv.arr?.getD []).filterMap Json.str?
    match rest with
    | "-m" :: module_name :: rest' =>
      if is_python_entrypoint entry then
        let module_entry := normalize_process_entrypoint module_name
        if module_entry = "" then none
        else some (module_entry, strip_environment_repair_flags 0 rest')
      else some (entry, strip_environment_repair_flags 0 rest)
    | _ => some (entry, strip_environment_repair_flags 0 rest)

/-! ### Rebinding a failed obligation -/

/-- What the facts say about the process runs of the current Goal; the latest
    arguments of a call id come first. -/
structure ProcessHistory where
  arguments : List (String × Json × Json) := []
  receipts : List ProcessReceiptV1 := []
  forms : List (String × Option CommandForm) := []

namespace ProcessHistory

/-- The `local_process` call a raw call is, with its id. -/
def local_process_arguments (raw : Json) : Option (String × Json × Json) := do
  let call ← raw.obj?
  if call.get "name" = .str "local_process" then
    let arguments ← (call.get "arguments").obj?
    let call_id ← (call.get "tool_call_id").str?
    pure (call_id, arguments.get "executable", arguments.get "argv")
  else none

/-- The receipt of the Goal a tool result carries; an invalid one is passed
    over. -/
def receipt_of_goal (goal : GoalFrame) (f : ConversationFact) : Py (Option ProcessReceiptV1) :=
  match (f.val.content.get "metadata").obj? with
  | none          => pure none
  | some metadata =>
    match ProcessReceiptV1.from_json (metadata.get "process_receipt") with
    | .error (.value_error _) | .error (.goal_revision_conflict _) => pure none
    | .error e    => .error e
    | .ok receipt =>
      if receipt.goal_id ≠ goal.val.goal_id ∨ receipt.goal_revision ≠ goal.val.revision then
        pure none
      else pure (some receipt)

/-- The form the receipt's command was run as: the first result decides. -/
def record_receipt (h : ProcessHistory) (f : ConversationFact) (receipt : ProcessReceiptV1) :
    ProcessHistory :=
  let known := h.forms.any fun x => x.1 = receipt.command_fingerprint
  { h with
    receipts := h.receipts ++ [receipt]
    forms := match (f.val.content.get "tool_call_id").str? with
      | some call_id =>
        if known then h.forms
        else
          let run := ((h.arguments.find? fun x => x.1 = call_id).map Prod.snd).getD (.null, .null)
          h.forms ++ [(receipt.command_fingerprint, canonical_command_form run.1 run.2)]
      | none => h.forms }

def record (goal : GoalFrame) (h : ProcessHistory) (f : ConversationFact) : Py ProcessHistory :=
  if f.val.kind = .tool_calls then do
    let calls ← (if f.val.content.has "calls" then Json.tuple_items (f.val.content.get "calls")
      else pure [])
    pure { h with arguments := (calls.filterMap local_process_arguments).reverse ++ h.arguments }
  else if f.val.kind = .tool_result then do
    match ← receipt_of_goal goal f with
    | none         => pure h
    | some receipt => pure (h.record_receipt f receipt)
  else pure h

end ProcessHistory

/-- `_environment_class_process_failure`. -/
def environment_class_process_failure (receipt : ProcessReceiptV1) : Py Bool := do
  Json.require_hashable receipt.exit_code
  pure (receipt.exit_code.py_eq (.int 2) || receipt.exit_code.py_eq (.int 5))

/-- The run succeeded. -/
def ProcessReceiptV1.succeeded (receipt : ProcessReceiptV1) : Bool :=
  receipt.outcome = .exited && receipt.exit_code.py_eq (.int 0)

/-- The receipt's run had the scope of the candidate. -/
def same_process_scope (candidate : ProcessAuthorityCandidateV1) (receipt : ProcessReceiptV1) :
    Bool :=
  receipt.workspace_identity_digest = candidate.val.workspace_identity_digest &&
    receipt.cwd_digest = candidate.val.cwd_digest &&
    receipt.resource_profile = candidate.val.resource_profile &&
    receipt.environment_policy_digest = candidate.val.environment_policy_digest &&
    receipt.execution_authority = candidate.val.execution_authority

/-- The criterion's command ran in the candidate's scope, failed for its
    environment only, and has the form of the new command. -/
def is_rebindable (h : ProcessHistory) (candidate : ProcessAuthorityCandidateV1)
    (new_form : CommandForm) (c : AdmittedCriterion) : Py Bool :=
  match (c.val.predicate.get "command_fingerprint").str? with
  | none             => pure false
  | some fingerprint => do
    let receipts := h.receipts.filter fun r => r.command_fingerprint = fingerprint
    if PyText.startswith c.val.criterion_id REQUIRED_LOCAL_PROCESS_PREFIX = false
        ∨ c.val.predicate.get "receipt_kind" ≠ .str "process_v1" ∨ receipts = []
        ∨ receipts.any ProcessReceiptV1.succeeded
        ∨ ¬ receipts.all (same_process_scope candidate) then pure false
    else do
      let environment_only ← receipts.allM environment_class_process_failure
      let form := (h.forms.find? fun x => x.1 = fingerprint).bind Prod.snd
      pure (environment_only && form = some new_form)

/-- The first criterion that may be rebound. -/
def first_rebindable (h : ProcessHistory) (candidate : ProcessAuthorityCandidateV1)
    (new_form : CommandForm) : List AdmittedCriterion → Py (Option AdmittedCriterion)
  | []      => pure none
  | c :: cs => do
    if ← is_rebindable h candidate new_form c then pure (some c)
    else first_rebindable h candidate new_form cs

/-- `_rebindable_failed_process_obligation`. -/
def rebindable_failed_process_obligation (s : ConversationState) (arguments : JsonDict)
    (candidate : Option ProcessAuthorityCandidateV1) : Py (Option AdmittedCriterion) :=
  match s.val.goal, candidate,
      canonical_command_form (arguments.get "executable") (arguments.get "argv") with
  | some goal, some candidate, some new_form =>
    if binds_goal goal candidate.val.goal_id candidate.val.goal_revision
        candidate.val.workspace_identity_digest then do
      let h ← s.val.facts.foldlM (ProcessHistory.record goal) {}
      first_rebindable h candidate new_form goal.val.admitted_criteria
    else pure none
  | _, _, _ => pure none

/-! ### Process validation -/

/-- The obligation an approved process satisfies: a proposed requirement, or
    the failed obligation the user agreed to rebind. -/
def process_obligation (s : ConversationState) (pending : ApprovalRequest)
    (action : ResolveApproval) (call : ToolCall) (requirement : Option ProposedCriterion) :
    Py (Option AdmittedCriterion) :=
  if requirement.isSome ∨ action.val.authorize_obligation_rebind = false then pure none
  else rebindable_failed_process_obligation s call.val.arguments
    pending.val.process_authority_candidate

/-- `_admit_approved_process_receipt_criterion`. -/
def admit_approved_process_receipt_criterion (rules : TextRules) (s : ConversationState)
    (pending : ApprovalRequest) (action_seq : Int) (action : ResolveApproval) :
    Py ConversationState :=
  match s.val.goal, pending.val.process_authority_candidate, requested_call s pending with
  | some goal, some candidate, some call =>
    if call.val.name ≠ "local_process" then pure s
    else do
      Py.refuse_value
        (binds_goal goal candidate.val.goal_id candidate.val.goal_revision
          candidate.val.workspace_identity_digest = false)
        "process candidate does not bind the current Goal"
      let requirement := bindable_tool_receipt_proposal goal
      let executable := (call.val.arguments.get "executable").str?
      Py.refuse_value
        (requirement.any ProposedCriterion.is_runtime_owned_obligation ∧ executable = none)
        "Runtime-owned process criterion requires the pending local_process call"
      if is_foreign_validator rules s requirement executable then pure s
      else do
        let rebindable ← process_obligation s pending action call requirement
        let (criterion_id, description) := match requirement, rebindable with
          | some c, _    => (c.val.criterion_id, c.val.description)
          | none, some c => (c.val.criterion_id, c.val.description)
          | none, none   =>
            ("criterion:process-receipt:" ++ goal.val.goal_id ++ ":" ++
                toString goal.val.revision ++ ":" ++ pending.val.tool_call_id,
              "approved local_process must produce the exact successful Kernel receipt")
        -- a second process criterion could never hold together with the first
        let has_process := requirement = none ∧
          goal.val.admitted_criteria.any fun c => c.is_receipt "process_v1"
        if rebindable = none ∧ (already_admitted goal criterion_id .tool_receipt ∨ has_process)
        then pure s
        else do
          let source ← Py.expect_value (authoritative_source s goal)
            "process receipt criterion requires the authoritative user fact"
          let admitted ← Admission.admit_criterion {
            binding_id := "criterion-admission:process-receipt:" ++ toString action_seq ++ ":" ++
              pending.val.tool_call_id
            criterion_id := criterion_id
            oracle_kind := .tool_receipt
            predicate := JsonDict.of [
              ("receipt_kind", .str "process_v1"),
              ("command_fingerprint", .str candidate.val.command_fingerprint),
              ("outcome", .str "exited"),
              ("exit_code", .int 0)]
            required_evidence_class := "process_receipt"
            description := description } goal source
          if rebindable = none then append_criterion s goal admitted
          else supersede_criterion s goal admitted
  | _, _, _ => pure s

/-! ### Governed tools -/

/-- An MCP or sub-agent tool. -/
def is_governed_tool (name : String) : Bool :=
  PyText.startswith name "mcp__" || PyText.startswith name "subagent__"

def governed_criterion_id (goal : GoalFrame) (tool_call_id : String) : String :=
  GOVERNED_TOOL_OBLIGATION_PREFIX ++ goal.val.goal_id ++ ":" ++ toString goal.val.revision ++
    ":" ++ tool_call_id

/-- `_add_approved_governed_tool_requirement`. -/
def add_approved_governed_tool_requirement (s : ConversationState) (pending : ApprovalRequest)
    (active : ActiveRun) : Py ConversationState :=
  match s.val.goal, active.val.current_call with
  | some goal, some call =>
    let criterion_id := governed_criterion_id goal call.val.tool_call_id
    if call.val.tool_call_id ≠ pending.val.tool_call_id ∨ is_governed_tool call.val.name = false
        ∨ criterion_id ∈ goal.val.proposed_ids ++ goal.val.admitted_ids then pure s
    else do
      let requirement ← Checked.make {
        criterion_id := criterion_id
        description :=
          "the approved " ++ call.val.name ++ " call returns an exact Kernel-governed receipt"
        oracle_kind := some .tool_receipt }
      install_criteria s goal (goal.val.proposed_criteria ++ [requirement])
        goal.val.admitted_criteria s.val.evidence_records
  | _, _ => pure s

/-! ### Process artifacts -/

/-- The confirmed path and digest, when the approval carries any. -/
def confirmed_artifact (pending : ApprovalRequest) (action : ResolveApproval) :
    Py (Option (String × String)) := do
  let shape := "confirmed_artifact must be workspace-relative path + 64-hex sha256"
  let path := action.val.confirmed_artifact_path
  let sha := action.val.confirmed_artifact_sha256
  Py.refuse_value
    (pending.val.artifact_confirmation_requirement.any fun r =>
      path = none || sha = none || path ≠ some r.val.artifact_path)
    "artifact confirmation must match the pending path and include sha256"
  if path = none ∧ sha = none then pure none
  else do
    let path ← Py.expect_value path shape
    let sha ← Py.expect_value sha shape
    Py.refuse_value
      (path = "" ∨ PyText.contains path "\x00" ∨ PyText.startswith path "/"
        ∨ ".." ∈ path_parts path ∨ ProcessAuthorityCandidateFields.matches_hex64 sha = false)
      shape
    pure (some (path, sha))

/-- `_admit_process_artifact_criterion`. -/
def admit_process_artifact_criterion (s : ConversationState) (pending : ApprovalRequest)
    (action_seq : Int) (action : ResolveApproval) : Py ConversationState :=
  match s.val.goal with
  | none      => pure s
  | some goal => do
    let requirement := pending.val.artifact_confirmation_requirement
    Py.refuse_value
      (requirement.any fun r => !goal.val.proposed_criteria.any fun c =>
        c.val.criterion_id = r.val.criterion_id && c.val.oracle_kind = some .filesystem_digest &&
          c.val.artifact_path = some r.val.artifact_path)
      "artifact confirmation requirement does not match a current Goal criterion"
    if action.val.defer_artifact_confirmation then do
      Py.refuse_value (requirement = none)
        "artifact confirmation can be deferred only for a pending requirement"
      pure s
    else do
      match ← confirmed_artifact pending action with
      | none             => pure s
      | some (path, sha) => do
        let criterion_id := match requirement with
          | some r => r.val.criterion_id
          | none   => "criterion:process-artifact:" ++ goal.val.goal_id ++ ":" ++
              toString goal.val.revision ++ ":" ++ path
        if already_admitted goal criterion_id .filesystem_digest then pure s
        else do
          let source ← Py.expect_value (authoritative_source s goal)
            "process artifact criterion requires the authoritative user fact"
          let admitted ← Admission.admit_criterion {
            binding_id := "criterion-admission:process-artifact:" ++ toString action_seq ++ ":" ++
              pending.val.tool_call_id
            criterion_id := criterion_id
            oracle_kind := .filesystem_digest
            predicate := JsonDict.of [("path", .str path), ("sha256", .str sha)]
            required_evidence_class := "workspace_file"
            description :=
              "process artifact " ++ path ++ " reads back with exact approved sha256" }
            goal source
          append_criterion s goal admitted

/-! ### Receipts of finished calls -/

/-- A criterion of this receipt kind and command without a pinned receipt. -/
def AdmittedCriterion.is_digest_free (c : AdmittedCriterion)
    (receipt_kind command_fingerprint : String) : Bool :=
  c.is_receipt receipt_kind && c.val.predicate.get "command_fingerprint" = .str command_fingerprint
    && !c.val.predicate.has "receipt_digest"

def admit_process_receipt_criterion (s : ConversationState)
    (tool_call_id receipt_digest command_fingerprint : String) (action_seq : Int) :
    Py ConversationState :=
  match s.val.goal with
  | none      => pure s
  | some goal =>
    let criterion_id := "criterion:process-receipt:" ++ goal.val.goal_id ++ ":" ++
      toString goal.val.revision ++ ":" ++ tool_call_id
    if already_admitted goal criterion_id .tool_receipt
        ∨ (goal.val.admitted_criteria.any fun c =>
          c.is_digest_free "process_v1" command_fingerprint)
        ∨ goal.val.admitted_criteria.any fun c =>
          c.is_receipt "process_v1" && c.val.criterion_id ≠ criterion_id then pure s
    else match authoritative_source s goal with
      | none        => pure s
      | some source => do
        let admitted ← Admission.admit_criterion {
          binding_id :=
            "criterion-admission:process-receipt:" ++ toString action_seq ++ ":" ++ tool_call_id
          criterion_id := criterion_id
          oracle_kind := .tool_receipt
          predicate := JsonDict.of [
            ("receipt_kind", .str "process_v1"),
            ("receipt_digest", .str receipt_digest),
            ("command_fingerprint", .str command_fingerprint),
            ("outcome", .str "exited"),
            ("exit_code", .int 0)]
          required_evidence_class := "process_receipt"
          description := "local_process command contract satisfied by Kernel receipt" } goal source
        append_criterion s goal admitted

def admit_sandbox_receipt_criterion (s : ConversationState)
    (tool_call_id receipt_digest command_fingerprint policy_digest mode network : String)
    (action_seq : Int) : Py ConversationState :=
  match s.val.goal with
  | none      => pure s
  | some goal =>
    let criterion_id := "criterion:sandbox-receipt:" ++ goal.val.goal_id ++ ":" ++
      toString goal.val.revision ++ ":" ++ tool_call_id
    if mode ≠ "read-only" ∨ already_admitted goal criterion_id .tool_receipt
        ∨ goal.val.admitted_criteria.any fun c =>
          c.is_digest_free "native_sandbox_v1" command_fingerprint then pure s
    else match authoritative_source s goal with
      | none        => pure s
      | some source => do
        let admitted ← Admission.admit_criterion {
          binding_id :=
            "criterion-admission:sandbox-receipt:" ++ toString action_seq ++ ":" ++ tool_call_id
          criterion_id := criterion_id
          oracle_kind := .tool_receipt
          predicate := JsonDict.of [
            ("receipt_kind", .str "native_sandbox_v1"),
            ("receipt_digest", .str receipt_digest),
            ("command_fingerprint", .str command_fingerprint),
            ("policy_digest", .str policy_digest),
            ("mode", .str mode),
            ("network", .str network),
            ("backend", .str "seatbelt"),
            ("enforcement", .str "confined"),
            ("outcome", .str "exited")]
          required_evidence_class := "native_sandbox_receipt"
          description := "read-only sandbox command contract satisfied by Kernel receipt" }
          goal source
        append_criterion s goal admitted

def admit_governed_tool_receipt_criterion (s : ConversationState)
    (tool_call_id tool_name receipt_digest : String) (action_seq : Int) : Py ConversationState :=
  match s.val.goal with
  | none      => pure s
  | some goal =>
    let criterion_id := governed_criterion_id goal tool_call_id
    let required := goal.val.proposed_criteria.any fun c =>
      c.val.oracle_kind = some .tool_receipt && c.val.criterion_id = criterion_id
    if tool_call_id = "" ∨ is_governed_tool tool_name = false
        ∨ PyText.is_lower_hex receipt_digest 64 = false ∨ required = false then pure s
    else match authoritative_source s goal with
      | none        => pure s
      | some source => do
        let admitted ← Admission.admit_criterion {
          binding_id :=
            "criterion-admission:governed-tool:" ++ toString action_seq ++ ":" ++ tool_call_id
          criterion_id := criterion_id
          oracle_kind := .tool_receipt
          predicate := JsonDict.of [("receipt_digest", .str receipt_digest)]
          required_evidence_class := "governed_tool_receipt"
          description := tool_name ++ " completed with the exact Kernel-governed result receipt" }
          goal source
        append_criterion s goal admitted

/-! ### Web sources -/

/-- The source receipt is a Web source of the current Goal; an invalid one is
    passed over. -/
def web_receipt (s : ConversationState) (goal : GoalFrame) (raw : Json) :
    Py (Option SourceReceiptV1) :=
  match SourceReceiptV1.from_json raw with
  | .error (.value_error _) | .error (.goal_revision_conflict _) => pure none
  | .error e    => .error e
  | .ok receipt =>
    if receipt.conversation_id = s.val.conversation_id ∧ receipt.goal_id = some goal.val.goal_id
        ∧ receipt.goal_revision = some goal.val.revision
        ∧ (receipt.source_kind = .web_search_snippet
          ∨ receipt.source_kind = .web_extracted_content) then pure (some receipt)
    else pure none

/-- The raw source receipts of the latest successful result of a call. -/
def raw_source_receipts (s : ConversationState) (tool_call_id : String) : Option (List Json) := do
  let fact ← s.val.facts.reverse.find? fun f =>
    f.val.kind = .tool_result ∧ f.val.content.get "tool_call_id" = .str tool_call_id
      ∧ f.val.content.get "executed" = .bool true ∧ f.val.content.get "is_error" = .bool false
  let metadata ← (fact.val.content.get "metadata").obj?
  if (metadata.get "fake").truthy ∨ (metadata.get "mock").truthy then none
  else (metadata.get "source_receipts").arr?

def admit_web_source_criterion (s : ConversationState) (tool_call_id : String)
    (action_seq : Int) : Py ConversationState :=
  match s.val.goal, raw_source_receipts s tool_call_id with
  | some goal, some raw_receipts =>
    let requirements := goal.val.proposed_criteria.filter fun c =>
      c.val.oracle_kind = some .web_source_receipt
    if requirements = [] then pure s
    else do
      let receipts ← raw_receipts.mapM (web_receipt s goal)
      match receipts.filterMap id, authoritative_source s goal with
      | receipt :: _, some source => do
        let required_ids := requirements.map fun c => c.val.criterion_id
        let admitted ← requirements.mapM fun c => Admission.admit_criterion {
          binding_id := "criterion-admission:web-source:" ++ toString action_seq ++ ":" ++
            tool_call_id ++ ":" ++ c.val.criterion_id
          criterion_id := c.val.criterion_id
          oracle_kind := .web_source_receipt
          predicate := JsonDict.of [
            ("receipt_digest", .str receipt.receipt_digest),
            ("source_kind", .str receipt.source_kind.value)]
          required_evidence_class := "public_web_source"
          description := c.val.description } goal source
        install_criteria s goal goal.val.proposed_criteria
          ((goal.val.admitted_criteria.filter fun c =>
            c.val.criterion_id ∉ required_ids) ++ admitted)
          s.val.evidence_records
      | _, _ => pure s
  | _, _ => pure s

/-! ### What admissions change -/

/-- The criteria of the Goal, the evidence and the completion claim. -/
def admission_step (s s' : ConversationState) : Prop :=
  s' = s ∨ ∃ (goal goal' : GoalFrame) (proposed : List ProposedCriterion)
    (admitted : List AdmittedCriterion) (evidence : List EvidenceRecord),
    s.val.goal = some goal ∧
    goal'.val =
      { goal.val with proposed_criteria := proposed, admitted_criteria := admitted } ∧
    s'.val =
      { s.val with goal := some goal', evidence_records := evidence, completion_claim := none }

section AdmissionSteps

variable {rules : TextRules} {s s' t : ConversationState} {goal : GoalFrame}
  {pending : ApprovalRequest} {action : ResolveApproval} {active : ActiveRun} {action_seq : Int}

theorem admission_step.refl : admission_step s s := .inl rfl

theorem admission_step.trans (h : admission_step s t) (h' : admission_step t s') :
    admission_step s s' := by
  rcases h with rfl | ⟨g, g', p, a, e, hg, hg', ht⟩
  · exact h'
  · rcases h' with rfl | ⟨k, k', p', a', e', hk, hk', hs'⟩
    · exact .inr ⟨g, g', p, a, e, hg, hg', ht⟩
    · rw [ht] at hk hs'
      cases hk
      rw [hg'] at hk'
      exact .inr ⟨g, k', p', a', e', hg, hk', hs'⟩

theorem install_criteria_ok {proposed : List ProposedCriterion}
    {admitted : List AdmittedCriterion} {evidence : List EvidenceRecord}
    (hgoal : s.val.goal = some goal)
    (h : install_criteria s goal proposed admitted evidence = .ok s') : admission_step s s' := by
  simp only [install_criteria, bind_eq_ok, Checked.make_eq_ok] at h
  obtain ⟨goal', hgoal', hs'⟩ := h
  exact .inr ⟨goal, goal', proposed, admitted, evidence, hgoal, hgoal', hs'⟩

theorem append_criterion_ok {c : AdmittedCriterion} (hgoal : s.val.goal = some goal)
    (h : append_criterion s goal c = .ok s') : admission_step s s' :=
  install_criteria_ok hgoal h

theorem supersede_criterion_ok {c : AdmittedCriterion} (hgoal : s.val.goal = some goal)
    (h : supersede_criterion s goal c = .ok s') : admission_step s s' :=
  install_criteria_ok hgoal h

theorem pure_admission_step (h : (pure s : Py ConversationState) = .ok s') :
    admission_step s s' := by
  obtain rfl := pure_eq_ok.mp h
  exact .refl

theorem admit_approved_file_criterion_ok
    (h : admit_approved_file_criterion s action_seq active = .ok s') : admission_step s s' := by
  unfold admit_approved_file_criterion at h
  split at h
  · next goal call pending hgoal _ _ =>
    split at h
    · split at h
      · exact pure_admission_step h
      · simp only [bind_eq_ok, ite_eq_ok] at h
        obtain ⟨_, _, ⟨_, h⟩ | ⟨_, _, _, _, _, _, _, h⟩⟩ := h
        · exact pure_admission_step h
        · exact install_criteria_ok hgoal h
    · exact pure_admission_step h
  · exact pure_admission_step h

theorem admit_approved_research_criterion_ok
    (h : admit_approved_research_criterion s action_seq active = .ok s') :
    admission_step s s' := by
  unfold admit_approved_research_criterion at h
  split at h
  · next goal call pending hgoal _ _ =>
    split at h
    · split at h
      · exact pure_admission_step h
      · simp only [bind_eq_ok] at h
        obtain ⟨manifest, _, h⟩ := h
        split at h
        · exact pure_admission_step h
        · simp only [bind_eq_ok] at h
          obtain ⟨_, _, _, _, h⟩ := h
          exact supersede_criterion_ok hgoal h
    · exact pure_admission_step h
  · exact pure_admission_step h

theorem admit_approved_read_only_validation_criterion_ok
    (h : admit_approved_read_only_validation_criterion rules s pending = .ok s') :
    admission_step s s' := by
  unfold admit_approved_read_only_validation_criterion at h
  split at h
  · next candidate goal call _ hgoal _ =>
    split at h
    · exact pure_admission_step h
    · simp only [bind_eq_ok, ite_eq_ok] at h
      obtain ⟨_, _, ⟨_, h⟩ | ⟨_, _, _, _, _, h⟩⟩ := h
      · exact pure_admission_step h
      · exact append_criterion_ok hgoal h
  · exact pure_admission_step h

theorem admit_approved_process_receipt_criterion_ok
    (h : admit_approved_process_receipt_criterion rules s pending action_seq action = .ok s') :
    admission_step s s' := by
  unfold admit_approved_process_receipt_criterion at h
  split at h
  · next goal candidate call hgoal _ _ =>
    split at h
    · exact pure_admission_step h
    · simp only [bind_eq_ok, ite_eq_ok] at h
      obtain ⟨_, _, _, _, ⟨_, h⟩ | ⟨_, _, _, ⟨_, h⟩ | ⟨_, _, _, _, _, ⟨_, h⟩ | ⟨_, h⟩⟩⟩⟩ := h
      · exact pure_admission_step h
      · exact pure_admission_step h
      · exact append_criterion_ok hgoal h
      · exact supersede_criterion_ok hgoal h
  · exact pure_admission_step h

theorem add_approved_governed_tool_requirement_ok
    (h : add_approved_governed_tool_requirement s pending active = .ok s') :
    admission_step s s' := by
  unfold add_approved_governed_tool_requirement at h
  split at h
  · next goal call hgoal _ =>
    dsimp only at h
    split at h
    · exact pure_admission_step h
    · obtain ⟨_, _, h⟩ := bind_eq_ok.mp h
      exact install_criteria_ok hgoal h
  · exact pure_admission_step h

theorem admit_process_artifact_criterion_ok
    (h : admit_process_artifact_criterion s pending action_seq action = .ok s') :
    admission_step s s' := by
  unfold admit_process_artifact_criterion at h
  split at h
  · exact pure_admission_step h
  · next goal hgoal =>
    simp only [bind_eq_ok, ite_eq_ok] at h
    obtain ⟨_, _, ⟨_, _, _, h⟩ | ⟨_, artifact, _, h⟩⟩ := h
    · exact pure_admission_step h
    · split at h
      · exact pure_admission_step h
      · simp only [bind_eq_ok, ite_eq_ok] at h
        obtain ⟨_, h⟩ | ⟨_, _, _, _, _, h⟩ := h
        · exact pure_admission_step h
        · exact append_criterion_ok hgoal h

end AdmissionSteps

section ReceiptSteps

variable {s s' : ConversationState} {tool_call_id receipt_digest : String} {action_seq : Int}

theorem admit_process_receipt_criterion_ok {command_fingerprint : String}
    (h : admit_process_receipt_criterion s tool_call_id receipt_digest command_fingerprint
      action_seq = .ok s') : admission_step s s' := by
  unfold admit_process_receipt_criterion at h
  split at h
  · exact pure_admission_step h
  · next goal hgoal =>
    dsimp only at h
    split at h
    · exact pure_admission_step h
    · split at h
      · exact pure_admission_step h
      · obtain ⟨_, _, h⟩ := bind_eq_ok.mp h
        exact append_criterion_ok hgoal h

theorem admit_sandbox_receipt_criterion_ok
    {command_fingerprint policy_digest mode network : String}
    (h : admit_sandbox_receipt_criterion s tool_call_id receipt_digest command_fingerprint
      policy_digest mode network action_seq = .ok s') : admission_step s s' := by
  unfold admit_sandbox_receipt_criterion at h
  split at h
  · exact pure_admission_step h
  · next goal hgoal =>
    dsimp only at h
    split at h
    · exact pure_admission_step h
    · split at h
      · exact pure_admission_step h
      · obtain ⟨_, _, h⟩ := bind_eq_ok.mp h
        exact append_criterion_ok hgoal h

theorem admit_governed_tool_receipt_criterion_ok {tool_name : String}
    (h : admit_governed_tool_receipt_criterion s tool_call_id tool_name receipt_digest
      action_seq = .ok s') : admission_step s s' := by
  unfold admit_governed_tool_receipt_criterion at h
  split at h
  · exact pure_admission_step h
  · next goal hgoal =>
    dsimp only at h
    split at h
    · exact pure_admission_step h
    · split at h
      · exact pure_admission_step h
      · obtain ⟨_, _, h⟩ := bind_eq_ok.mp h
        exact append_criterion_ok hgoal h

theorem admit_web_source_criterion_ok
    (h : admit_web_source_criterion s tool_call_id action_seq = .ok s') :
    admission_step s s' := by
  unfold admit_web_source_criterion at h
  split at h
  · next goal raw hgoal _ =>
    dsimp only at h
    split at h
    · exact pure_admission_step h
    · obtain ⟨_, _, h⟩ := bind_eq_ok.mp h
      split at h
      · obtain ⟨_, _, h⟩ := bind_eq_ok.mp h
        exact install_criteria_ok hgoal h
      · exact pure_admission_step h
  · exact pure_admission_step h

end ReceiptSteps
