import Mathlib.Data.List.Sort
import FirstAgent.Context.Exposure
import FirstAgent.Evidence.Derive
import FirstAgent.Framework.Eviction

/-! # Planning a Context

    `_plan` projects the facts of a conversation onto groups, adds the trusted
    groups of the Goal and of the run, charges them against the input budget
    and evicts what does not fit.  `build` and `usage` share it; only `build`
    asks the context sources. -/

open Fallible

/-- The evidence ids a completion claim of the Goal refers to. -/
def expected_completion_evidence_refs (goal : GoalFrame) : List String :=
  goal.mandatory.map goal.evidence_id

/-! ### Trusted groups -/

/-- The criteria with passing evidence of the Goal revision. -/
def evidenced_ids (s : ConversationState) (goal : GoalFrame) : List String :=
  (s.val.evidence_records.filter fun r =>
    r.val.goal_id = goal.val.goal_id && r.val.goal_revision = goal.val.revision &&
      r.val.passed).map fun r => r.val.criterion_id

def research_semantics : List (String × Json) := [
  ("research_evidence_semantics", .dict <| JsonDict.of [
    ("classification", .str "verified_delivery"),
    ("proves", .str "artifact digest, citation linkage, source provenance and freshness"),
    ("does_not_prove", .str "semantic truth or user acceptance"),
    ("source_content_is_untrusted_data", .bool true)])]

/-- The block of the active Goal. -/
def goal_block (s : ConversationState) (goal : GoalFrame) : JsonDict :=
  JsonDict.of ([
    ("type", .str "trusted_goal"),
    ("trusted", .bool true),
    ("goal_id", .str goal.val.goal_id),
    ("goal_revision", .int goal.val.revision),
    ("workspace_identity_digest", .str goal.val.workspace_identity_digest),
    ("user_outcome", .str goal.val.user_outcome),
    ("beneficiary", .str goal.val.beneficiary),
    ("targets", .strs goal.val.targets),
    ("scope", .strs goal.val.scope),
    ("non_goals", .strs goal.val.non_goals),
    ("assumptions", .strs goal.val.assumptions),
    ("authority_snapshot", .str goal.val.authority_snapshot),
    ("status", .str goal.val.status.value),
    ("interaction_state", .str s.val.interaction_state.value),
    ("progress_summary", .opt_str goal.val.progress_summary),
    ("next_step", .opt_str goal.val.next_step),
    ("source_fact_ids", .strs goal.val.created_from_fact_ids),
    ("proposed_criteria", .arr (goal.val.proposed_criteria.map ProposedCriterion.asdict)),
    ("admitted_criteria", .arr (goal.val.admitted_criteria.map fun c => .dict <| JsonDict.of [
      ("criterion_id", .str c.val.criterion_id),
      ("description", .str c.val.description),
      ("oracle_kind", .str c.val.oracle_kind.value),
      ("predicate", .dict c.val.predicate),
      ("mandatory", .bool c.val.mandatory)])),
    ("evidence_gaps", .strs ((goal.val.admitted_criteria.map fun c => c.val.criterion_id).filter
      fun id => id ∉ evidenced_ids s goal)),
    ("expected_completion_evidence_refs", .strs (expected_completion_evidence_refs goal))] ++
    if goal.val.admitted_criteria.any fun c => c.val.oracle_kind = .research_provenance
    then research_semantics else [])

/-- `_goal_group`. -/
def goal_group (s : ConversationState) : List ContextGroup :=
  match s.val.goal with
  | none => []
  | some goal => [{
      fact_ids := ["goal:" ++ goal.val.goal_id ++ ":" ++ toString goal.val.revision]
      messages := [{ role := "user", content := [goal_block s goal] }]
      pinned := true
      data_classes := ["goal"] }]

/-- The category of a tool name, when it is configured per session. -/
def capability_category (name : String) : Option String :=
  if PyText.startswith name "memory_" then some "memory"
  else if PyText.startswith name "skill_" then some "skills"
  else if PyText.startswith name "mcp__" then some "mcp"
  else if PyText.startswith name "subagent__" then some "subagent"
  else none

/-- `_configured_capability_categories`. -/
def configured_capability_categories (tools : List ToolDefinition) : List String :=
  PyText.sorted_set (tools.filterMap fun t => capability_category t.name)

def decision_rule : String :=
  "First decide what this user message is. If it requests a verifiable artifact, file change, " ++
  "run-and-verify, or research-to-file outcome, submit goal_proposal first, before any product " ++
  "tool call: successful source retrieval in this user action makes goal_proposal unavailable " ++
  "until a fresh user action, and unknown target files belong in a deferred filesystem criterion " ++
  "instead of discovery. Reading or inspecting can happen after the Goal exists. If it is a " ++
  "question or discussion, answer with direct_response; read-only discovery tools ground answers " ++
  "but never open a closed goal window. Apply one prose-only outcome test: if returning only " ++
  "answer text, with no write, edit, process, or other requested action, would fail to fully " ++
  "satisfy any explicit requested outcome, submit goal_proposal. A task that combines reading, " ++
  "Web research, artifact creation, and validation remains one Goal; grounding is a means, not " ++
  "the outcome. direct_response and begin_answer are allowed only when answer text itself is the " ++
  "entire requested outcome. A conditional read-only or answer-only fallback does not turn an " ++
  "explicit request to act into a question; establish its Goal before attempting it. " ++
  "configured_capabilities lists coarse capability categories configured for this session even " ++
  "though callable schemas are intentionally hidden at this intent gate. Do not report a listed " ++
  "category as unavailable. For an explicit effect in a listed category, establish its Goal " ++
  "first; the governed tools are advertised only after that transition."

/-- The block of the intent gate. -/
def bootstrap_block (rules : PromptRules) (s : ConversationState) (b : GoalBootstrap)
    (tools : List ToolDefinition) : JsonDict :=
  JsonDict.of [
    ("type", .str "trusted_goal_bootstrap"),
    ("trusted", .bool true),
    ("source_fact_id", .str b.source_fact_id),
    ("workspace_identity_digest", .str b.workspace_identity_digest),
    ("authority_snapshot", .str b.authority_snapshot),
    ("explicit_non_prose_outcome", .bool (explicit_non_prose_outcome_requested s rules)),
    ("configured_capabilities", .strs (configured_capability_categories tools)),
    ("decision_rule", .str decision_rule)]

/-- `GoalBootstrap(…)`. -/
def make_bootstrap (source_fact_id workspace_identity_digest authority_snapshot : String) :
    Py GoalBootstrap :=
  if h : Py.any_empty [source_fact_id, workspace_identity_digest, authority_snapshot] = false then
    .ok ⟨source_fact_id, workspace_identity_digest, authority_snapshot, h⟩
  else .error (.value_error "goal bootstrap fields must not be empty")

/-- `_goal_bootstrap_group`. -/
def goal_bootstrap_group (m : KernelContextManager) (rules : PromptRules) (s : ConversationState)
    (tools : List ToolDefinition) : Py (Option GoalBootstrap × List ContextGroup) :=
  if s.val.goal.isSome ∨ s.val.interaction_state = .answering
      ∨ m.val.workspace_identity_digest = "" then pure (none, [])
  else match (s.val.facts.filter fun f => f.val.kind = .user_message).getLast? with
    | none => pure (none, [])
    | some source => do
      let b ← make_bootstrap source.val.fact_id m.val.workspace_identity_digest
        m.val.authority_snapshot
      pure (some b, [{
        fact_ids := ["goal-bootstrap:" ++ source.val.fact_id]
        messages := [{ role := "user", content := [bootstrap_block rules s b tools] }]
        pinned := true
        data_classes := ["goal_bootstrap"] }])

/-! ### Progress of the run -/

/-- What `_runtime_progress_group` has read: call names, and the tools and
    source kinds of successful results. -/
structure ProgressScan where
  call_name_by_id : List (String × String) := []
  successful : List String := []
  source_kinds : List String := []

namespace ProgressScan

def note_call (scan : ProgressScan) (raw : Json) : ProgressScan :=
  match raw.obj? with
  | none => scan
  | some d =>
    match (d.get "tool_call_id").str?, (d.get "name").str? with
    | some call_id, some name =>
      { scan with call_name_by_id := assign scan.call_name_by_id call_id name }
    | _, _ => scan

def note_result (scan : ProgressScan) (p : ProjectedFact) : ProgressScan :=
  if p.fact.succeeded then { scan with
    successful := scan.successful ++
      (((p.fact.val.content.get "tool_call_id").str?).bind (assigned scan.call_name_by_id)).toList
    source_kinds := scan.source_kinds ++
      ((p.projection.map ToolResultSourceProjection.receipts).getD []).map
        fun r => r.source_kind.value }
  else scan

def note (run : String) (scan : ProgressScan) (p : ProjectedFact) : ProgressScan :=
  if p.fact.val.content.get "invocation_origin" = .str InvocationOrigin.operator.value then scan
  else if PyText.startswith p.fact.val.fact_id run = false then scan
  else match p.fact.val.kind with
    | .tool_calls  => (((p.fact.val.content.get "calls").arr?).getD []).foldl note_call scan
    | .tool_result => scan.note_result p
    | _            => scan

end ProgressScan

/-- How often each text occurs. -/
def counts (xs : List String) : JsonDict :=
  JsonDict.of ((PyText.sorted_set xs).map fun x => (x, .int (xs.count x)))

def progress_text (exposed : List ToolDefinition) (scan : ProgressScan) : String :=
  let inventory := Json.dumps <| .dict <| JsonDict.of [
    ("advertised_tools", .strs ((exposed.map ToolDefinition.name).insertionSort (· ≤ ·))),
    ("source_receipts_by_kind", .dict (counts scan.source_kinds)),
    ("successful_product_requests_by_tool", .dict (counts scan.successful))]
  "Trusted current-run progress inventory (counts only): " ++ inventory ++
    ". Reuse successful results. Compare these counts with the user request and trusted_goal " ++
  "criteria; when they are sufficient, stop retrieval and perform the next non-retrieval step."

/-- `_runtime_progress_group`. -/
def runtime_progress_group (s : ConversationState) (exposed : List ToolDefinition)
    (facts : List ProjectedFact) : List ContextGroup :=
  match s.val.active_run with
  | none => []
  | some active =>
    let scan := facts.foldl (ProgressScan.note ("run:" ++ active.val.run_id ++ ":")) {}
    if scan.successful = [] then []
    else [{
      fact_ids := ["runtime-progress:" ++ active.val.run_id]
      messages := [{ role := "user", content := [JsonDict.of [
        ("type", .str "policy_result"),
        ("code", .str "runtime_progress_inventory"),
        ("text", .str (progress_text exposed scan))]] }]
      pinned := true
      data_classes := ["runtime_progress"] }]

/-! ### What is charged -/

/-- The groups of a context before any is evicted, and the rest of what is
    charged. -/
structure ContextParts where
  system_policy : String
  exposed_tools : List ToolDefinition
  control_schema : Option JsonDict
  control_receipts : List ControlReceipt
  goal_bootstrap : Option GoalBootstrap
  history_groups : List ContextGroup
  source_groups : List ContextGroup
  progress_groups : List ContextGroup
  clipped_ids : List String
  source_digests : List String

/-- `_receipt_continuity_payload`. -/
def receipt_continuity_payload (r : ControlReceipt) : Json :=
  .dict <| JsonDict.of [
    ("correlation_id", .str r.val.correlation_id),
    ("control_kind", .str r.val.control_kind),
    ("goal_id", .opt_str r.val.goal_id),
    ("goal_revision", .opt_int r.val.goal_revision),
    ("accepted_state_revision", .int r.val.accepted_state_revision),
    ("payload_digest", .str r.val.payload_digest),
    ("receipt_digest", .str r.val.receipt_digest)]

namespace ContextParts

/-- All groups, in the order they are sent. -/
def groups (parts : ContextParts) : List ContextGroup :=
  parts.history_groups ++ parts.source_groups ++ parts.progress_groups

/-- What is charged besides the groups. -/
def fixed_cost (l : ContextLimits) (parts : ContextParts) : Int :=
  l.estimate parts.system_policy +
    (match parts.control_schema with
      | none        => 0
      | some schema => l.estimate_json (.dict schema)) +
    (parts.control_receipts.map fun r => l.estimate_json (receipt_continuity_payload r)).sum +
    (parts.exposed_tools.map fun t => l.estimate_json t.payload).sum

end ContextParts

/-- The facts a context is projected from: no operator facts, and before the
    intent is decided only messages and the policy results of the run. -/
def facts_for_projection (s : ConversationState) : List ConversationFact :=
  let facts := s.val.facts.filter fun f =>
    f.val.content.get "invocation_origin" ≠ .str InvocationOrigin.operator.value
  if intent_decision_pending s then
    facts.filter fun f =>
      f.val.kind = .user_message || f.val.kind = .assistant_message ||
        (f.val.kind = .policy_result &&
          (run_prefix_text s).any fun p => PyText.startswith f.val.fact_id p)
  else facts

/-- The system policy; a waiting browser takeover is announced in it. -/
def projected_system_policy (m : KernelContextManager) (s : ConversationState) : String :=
  if advertised_browser_controls s = [] then m.val.system_policy
  else m.val.system_policy ++ " Browser takeover waiting: return control via " ++
    " or ".intercalate (advertised_browser_controls s) ++
    ". No other actions are available until then."

/-- The arguments the control schema is made from. -/
def control_schema_inputs (m : KernelContextManager) (rules : PromptRules) (s : ConversationState)
    (tools : List ToolDefinition) : ControlSchemaInputs where
  goal_present := s.val.goal.isSome
  goal_id := s.val.goal.map fun g => g.val.goal_id
  goal_revision := s.val.goal.map fun g => g.val.revision
  expected_completion_evidence_refs := s.val.goal.map expected_completion_evidence_refs
  answer_mode_active := answer_mode_active s
  begin_answer_is_available := intent_decision_pending s &&
    (m.val.sources.length ≠ 0 || (s.val.facts.any fun f => f.val.kind = .tool_result) ||
      tools.any fun t => t.side_effect = .read_only)
  goal_progress_is_available := goal_progress_available s
  goal_proposal_is_available := intent_decision_pending s && !source_result_since_latest_user s
  goal_correction_is_pending := goal_correction_pending s
  explicit_non_prose_outcome :=
    intent_decision_pending s && explicit_non_prose_outcome_requested s rules
  strict := m.val.strict_control_schema

namespace KernelContextManager

variable (m : KernelContextManager) (rules : PromptRules)

/-- The recalled groups, unless the intent is not decided or no sources are
    asked for. -/
def source_parts (s : ConversationState) (action : RuntimeAction) (collect_sources : Bool) :
    Ctx (List ContextGroup × List String) :=
  if intent_decision_pending s ∨ collect_sources = false then pure ([], [])
  else m.collect_source_groups s action

/-- The first half of `_plan`: the groups and what else is charged. -/
def project (s : ConversationState) (action : RuntimeAction) (tools : List ToolDefinition)
    (collect_sources : Bool) : Ctx ContextParts := do
  Ctx.lift (Py.refuse_value (action.conversation_id ≠ s.val.conversation_id)
    "action and state conversation must match")
  let clipped := clip_tool_results m.val.limits (facts_for_projection s)
  let projected ← project_tool_result_sources clipped.1 s
  let facts := projected.map (apply_file_proof s)
  let exposed ← Ctx.lift (exposed_tools s facts tools)
  let fact_groups ← Ctx.lift (group_facts facts s)
  let bootstrap ← Ctx.lift (goal_bootstrap_group m rules s tools)
  let sources ← m.source_parts s action collect_sources
  pure {
    system_policy := projected_system_policy m s
    exposed_tools := exposed
    control_schema :=
      if goal_paused s then none
      else some (rules.reserved_control_schema (control_schema_inputs m rules s tools))
    control_receipts := s.val.control_receipts
    goal_bootstrap := bootstrap.1
    history_groups := bootstrap.2 ++ goal_group s ++ pin_groups fact_groups s
    source_groups := sources.1
    progress_groups := runtime_progress_group s exposed facts
    clipped_ids := clipped.2
    source_digests := sources.2 }

/-! ### The plan -/

end KernelContextManager

/-- `_ContextPlan`. -/
structure ContextPlan where
  system_policy : String
  exposed_tools : List ToolDefinition
  control_schema : Option JsonDict
  goal_bootstrap : Option GoalBootstrap
  selected : List ContextGroup
  excluded : List ContextGroup
  clipped_ids : List String
  source_digests : List String
  estimated_input_tokens : Int

/-- The second half of `_plan`: the pinned groups must fit, and the others are
    evicted, the sources from the last one back and then the history from the
    oldest group on. -/
def evict_groups (l : ContextLimits) (parts : ContextParts) : Ctx ContextPlan := do
  let cost := group_cost l
  let fixed := parts.fixed_cost l
  let pinned_cost := fixed + Eviction.total cost (parts.groups.filter ContextGroup.pinned)
  Ctx.refuse_limit (l.available_input < pinned_cost)
    "pinned context and tool schemas exceed the provider input budget"
  let estimated := fixed + Eviction.total cost parts.groups
  let eviction := Eviction.evict_positions ContextGroup.pinned cost l.available_input parts.groups
    (Eviction.layout_order parts.history_groups.length parts.source_groups.length) estimated
  pure {
    system_policy := parts.system_policy
    exposed_tools := parts.exposed_tools
    control_schema := parts.control_schema
    goal_bootstrap := parts.goal_bootstrap
    selected := Eviction.at_positions (fun i => i ∉ eviction.1) 0 parts.groups
    excluded := Eviction.at_positions (fun i => i ∈ eviction.1) 0 parts.groups
    clipped_ids := parts.clipped_ids
    source_digests := parts.source_digests
    estimated_input_tokens := eviction.2 }

structure BudgetReport where
  input_limit : Int
  estimated_input_tokens : Int
  output_reserve : Int
  included_ids : List String := []
  excluded_ids : List String := []
  clipped_ids : List String := []
  source_digests : List String := []
  deriving Repr, DecidableEq

/-- The facts of groups, in order. -/
def group_ids (groups : List ContextGroup) : List String := groups.flatMap ContextGroup.fact_ids

/-- `_budget_report`. -/
def budget_report (l : ContextLimits) (plan : ContextPlan) : BudgetReport where
  input_limit := l.val.max_input_tokens
  estimated_input_tokens := plan.estimated_input_tokens
  output_reserve := l.val.output_reserve
  included_ids := group_ids plan.selected
  excluded_ids := group_ids plan.excluded
  clipped_ids := plan.clipped_ids
  source_digests := plan.source_digests

/-! ### The pack -/

structure ContextPackFields where
  system : String
  messages : List ModelMessage
  tools : List ToolDefinition
  budget : BudgetReport
  control_schema : Option JsonDict := none
  control_receipts : List ControlReceipt := []
  data_classes : List String := []
  goal_bootstrap : Option GoalBootstrap := none
  consent_scope : Option ProviderConsentScopeV1 := none

/-- The checks on the control schema of a pack. -/
def check_control_schema (schema : JsonDict) (tools : List ToolDefinition) : Py Unit := do
  let name ← Py.expect_value (schema.get "name").str? "control schema name must not be empty"
  Py.refuse_value (name = "") "control schema name must not be empty"
  let description ← Py.expect_value (schema.get "description").str?
    "control schema description must not be empty"
  Py.refuse_value (PyText.is_blank description) "control schema description must not be empty"
  Py.refuse_value (schema.get "input_schema").obj?.isNone
    "control schema input_schema must be a JSON object"
  Py.refuse_value (tools.any fun t => t.name = name)
    "control schema name must not collide with product tools"

def ContextPackFields.post_init (p : ContextPackFields) : Py Unit := do
  match p.control_schema with
  | some schema => check_control_schema schema p.tools
  | none        => pure ()
  Py.refuse_value (PyText.sorted_unique p.data_classes = false)
    "context data_classes must be sorted and unique"
  Py.refuse_value (Py.any_empty p.data_classes) "context data_classes must not contain empty values"

abbrev ContextPack : Type := Checked ContextPackFields.post_init

def CONTROL_SCHEMA_STRUCTURE_DIGEST : String :=
  canonical_json_digest <| .dict <| JsonDict.of [
    ("profile", .str "my-first-agent/reserved-control-schema"),
    ("version", .int 1),
    ("name", .str RESERVED_CONTROL_NAME)]

/-- `no_workspace_identity`. -/
def no_workspace_identity (workspace_identity_digest : String) : String :=
  if workspace_identity_digest = "" then "NO_WORKSPACE" else workspace_identity_digest

/-- The binding of one exposed tool. -/
def tool_binding (t : ToolDefinition) : Py ProviderConsentToolBindingV1 :=
  Checked.make {
    name := t.name
    identity_digest := canonical_json_digest <| .dict <| JsonDict.of [
      ("name", .str t.name),
      ("description", .str t.description),
      ("input_schema", .dict t.input_schema),
      ("side_effect", .str t.side_effect.value),
      ("egress", .str t.egress.value),
      ("execution_authority", .str t.execution_authority.value)] }

/-- `tool_bindings_for`. -/
def tool_bindings_for (tools : List ToolDefinition) : Py (List ProviderConsentToolBindingV1) := do
  let bindings ← tools.mapM tool_binding
  let sorted := bindings.insertionSort fun a b => a.val.name ≤ b.val.name
  Py.refuse_value (¬ (sorted.map fun b => b.val.name).Nodup)
    "consent tool definitions must be unique by name"
  pure sorted

/-- `_consent_scope`. -/
def make_consent_scope (s : ConversationState) (data_classes : List String)
    (sources : List ProviderDisclosureSourceV1) (tools : List ToolDefinition)
    (workspace_identity_digest : String) : Py ProviderConsentScopeV1 := do
  let unique_sources := ProviderDisclosureSourceV1.sorted_set sources
  let bindings ← tool_bindings_for tools
  Checked.make {
    workspace_identity_digest := no_workspace_identity workspace_identity_digest
    goal_id := s.val.goal.map fun g => g.val.goal_id
    goal_revision := s.val.goal.map fun g => g.val.revision
    tool_bindings := bindings
    control_schema_digest := CONTROL_SCHEMA_STRUCTURE_DIGEST
    data_classes := data_classes
    sources := unique_sources
    routine_compatible :=
      unique_sources.isEmpty && data_classes.all fun c => c ∈ ROUTINE_DATA_CLASSES }

/-- The data classes a pack discloses. -/
def pack_data_classes (plan : ContextPlan) (s : ConversationState) : List String :=
  PyText.sorted_set <| ["system_policy"] ++ (plan.selected.flatMap ContextGroup.data_classes) ++
    (if plan.exposed_tools ≠ [] then ["tool_schemas"] else []) ++
    (if s.val.control_receipts ≠ [] then ["control_receipts"] else [])

/-- The workspace a pack is scoped to. -/
def pack_workspace (m : KernelContextManager) (s : ConversationState) : String :=
  match s.val.workspace_binding with
  | some b => b.val.workspace_identity_digest
  | none   => m.val.workspace_identity_digest

/-- The pack of a plan. -/
def pack_plan (m : KernelContextManager) (s : ConversationState) (plan : ContextPlan) :
    Py ContextPack := do
  let classes := pack_data_classes plan s
  let scope ← make_consent_scope s classes (plan.selected.flatMap ContextGroup.consent_sources)
    plan.exposed_tools (pack_workspace m s)
  Checked.make {
    system := plan.system_policy
    messages := plan.selected.flatMap ContextGroup.messages
    tools := plan.exposed_tools
    budget := budget_report m.val.limits plan
    control_schema := plan.control_schema
    control_receipts := s.val.control_receipts
    data_classes := classes
    goal_bootstrap := plan.goal_bootstrap
    consent_scope := some scope }

namespace KernelContextManager

variable (m : KernelContextManager) (rules : PromptRules)

/-- `_plan`. -/
def plan (s : ConversationState) (action : RuntimeAction) (tools : List ToolDefinition)
    (collect_sources : Bool) : Ctx ContextPlan := do
  let parts ← m.project rules s action tools collect_sources
  evict_groups m.val.limits parts

/-- `build`. -/
def build (s : ConversationState) (action : RuntimeAction) (tools : List ToolDefinition) :
    Ctx ContextPack := do
  let p ← m.plan rules s action tools true
  Ctx.lift (pack_plan m s p)

/-- `usage`. -/
def usage (s : ConversationState) (action : RuntimeAction) (tools : List ToolDefinition) :
    Ctx BudgetReport := do
  let p ← m.plan rules s action tools false
  pure (budget_report m.val.limits p)

end KernelContextManager
