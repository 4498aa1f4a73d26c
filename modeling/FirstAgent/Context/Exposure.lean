import FirstAgent.Context.Recall
import FirstAgent.Evidence.Completion

/-! # What a Context Exposes

    Which tools a context advertises, and with which schemas, follows from
    the state: the intent gate before a Goal exists, a paused or finished
    Goal, a pending correction, and the sources that may be fetched or cited.

    The texts of the control schema and the regular expressions that read an
    explicit outcome off the user's text are parameters (`PromptRules`):
    nothing proved here depends on what they say. -/

open Fallible

/-! ### Prompt rules -/

/-- The arguments of `reserved_control_schema`. -/
structure ControlSchemaInputs where
  goal_present : Bool
  goal_id : Option String
  goal_revision : Option Int
  expected_completion_evidence_refs : Option (List String)
  answer_mode_active : Bool
  begin_answer_is_available : Bool
  goal_progress_is_available : Bool
  goal_proposal_is_available : Bool
  goal_correction_is_pending : Bool
  explicit_non_prose_outcome : Bool
  strict : Bool
  deriving Repr, DecidableEq

structure PromptRules where
  /-- The patterns of `_explicit_non_prose_outcome_requested`. -/
  explicit_non_prose_outcome : String → Bool
  /-- `reserved_control_schema`. -/
  reserved_control_schema : ControlSchemaInputs → JsonDict

def RESERVED_CONTROL_NAME : String := "first_agent_control_v1"

/-- Rules that ask for nothing, with a control schema that has no fields. -/
def PromptRules.plain : PromptRules where
  explicit_non_prose_outcome := fun _ => false
  reserved_control_schema := fun _ => JsonDict.of [
    ("name", .str RESERVED_CONTROL_NAME),
    ("description", .str "Reserved Runtime control, not a product tool."),
    ("input_schema", .dict (JsonDict.of []))]

/-! ### Modes of a conversation -/

section Modes

variable (s : ConversationState)

def answer_mode_active : Bool :=
  s.val.goal.isNone && s.val.interaction_state = .answering

def intent_decision_pending : Bool :=
  s.val.goal.isNone && !answer_mode_active s

def goal_paused : Bool := s.val.goal.any fun g => g.val.status = .paused

def goal_terminal : Bool := s.val.goal.any fun g => g.val.status.is_terminal

/-- `f"run:{active.run_id}:"`. -/
def run_prefix_text : Option String := s.val.active_run.map fun r => "run:" ++ r.val.run_id ++ ":"

/-- `goal_progress_available`. -/
def goal_progress_available : Bool :=
  s.val.goal.any fun goal =>
    goal.val.progress_summary.isNone && s.val.facts.any fun f =>
      f.val.kind = .tool_result &&
        ((run_prefix_text s).all fun p => PyText.startswith f.val.fact_id p) && f.succeeded

/-- `advertised_browser_controls`. -/
def advertised_browser_controls : List String :=
  if s.val.browser_takeover_pending.isNone then [] else ["/browser-done", "/cancel"]

/-- The text of the last user message. -/
def latest_user_text : Option String := do
  let f ← (s.val.facts.filter fun f => f.val.kind = .user_message).getLast?
  f.text?

/-- `_explicit_non_prose_outcome_requested`. -/
def explicit_non_prose_outcome_requested (rules : PromptRules) : Bool :=
  (latest_user_text s).any rules.explicit_non_prose_outcome

end Modes

/-! ### Sources that may be fetched -/

/-- A dict in insertion order is looked up by its last assignment. -/
def assigned {α : Type} (d : List (String × α)) (k : String) : Option α :=
  (d.find? fun m => m.1 = k).map Prod.snd

def assign {α : Type} (d : List (String × α)) (k : String) (v : α) : List (String × α) :=
  (k, v) :: d.filter fun m => m.1 ≠ k

/-- What `web_fetch_source_refs` has read. -/
structure FetchScan where
  call_name_by_id : List (String × String) := []
  offered_refs : List String := []
  fetch_ref_by_call_id : List (String × String) := []
  result_call_ids : List String := []
  unknown_call_ids : List String := []

namespace FetchScan

/-- One raw call of a batch. -/
def note_call (scan : FetchScan) (raw : Json) : FetchScan :=
  match raw.obj? with
  | none => scan
  | some d =>
    match (d.get "tool_call_id").str?, (d.get "name").str? with
    | some call_id, some name =>
      let named := { scan with call_name_by_id := assign scan.call_name_by_id call_id name }
      if name = "web_fetch" then
        match (d.get "arguments").obj?.bind fun a => (a.get "source_ref").str? with
        | some source_ref => { named with
            fetch_ref_by_call_id := assign named.fetch_ref_by_call_id call_id source_ref }
        | none => named
      else named
    | _, _ => scan

/-- The refs offered by a search result. -/
def offer (scan : FetchScan) (metadata : JsonDict) : FetchScan :=
  match (metadata.get "source_refs").arr? with
  | none => scan
  | some items => items.foldl (fun scan item =>
      match item.obj?.bind fun d => (d.get "source_ref").str? with
      | some source_ref =>
        if source_ref ∈ scan.offered_refs then scan
        else { scan with offered_refs := scan.offered_refs ++ [source_ref] }
      | none => scan) scan

/-- The outcome of an observation is unknown. -/
def observation_unknown (metadata : JsonDict) : Bool :=
  metadata.get "code" = .str "observation_unknown" ||
    metadata.get "observation_outcome" = .str "observation_unknown"

/-- One tool result. -/
def note_result (scan : FetchScan) (f : ConversationFact) : FetchScan :=
  match (f.val.content.get "tool_call_id").str? with
  | none => scan
  | some call_id =>
    let seen := { scan with
      result_call_ids := call_id :: scan.result_call_ids
      unknown_call_ids := if f.metadata?.any observation_unknown then
        call_id :: scan.unknown_call_ids else scan.unknown_call_ids }
    if f.succeeded ∧ assigned seen.call_name_by_id call_id = some "web_search" then
      match f.metadata? with
      | some metadata => seen.offer metadata
      | none          => seen
    else seen

/-- One fact of the active run. -/
def note (run : String) (scan : FetchScan) (f : ConversationFact) : FetchScan :=
  if PyText.startswith f.val.fact_id run then
    match f.val.kind with
    | .tool_calls  => (((f.val.content.get "calls").arr?).getD []).foldl note_call scan
    | .tool_result => scan.note_result f
    | _            => scan
  else scan

/-- The refs that were fetched with a known outcome. -/
def attempted_refs (scan : FetchScan) : List String :=
  (scan.fetch_ref_by_call_id.filter fun m =>
    m.1 ∈ scan.result_call_ids && m.1 ∉ scan.unknown_call_ids).map Prod.snd

end FetchScan

/-- `web_fetch_source_refs`. -/
def web_fetch_source_refs (s : ConversationState) : List String :=
  match run_prefix_text s with
  | none => []
  | some run =>
    let scan := s.val.facts.foldl (FetchScan.note run) {}
    scan.offered_refs.filter fun r => r ∉ scan.attempted_refs

/-- `web_fetch_available`. -/
def web_fetch_available (s : ConversationState) : Bool :=
  s.val.active_run.isNone || web_fetch_source_refs s ≠ []

/-! ### Schemas of constrained tools -/

/-- `dict(d.get(k, {}))`. -/
def JsonDict.sub_dict (d : JsonDict) (k : String) : Py JsonDict :=
  if d.has k = false then pure (JsonDict.of [])
  else match d.get k with
    | .obj members => pure (JsonDict.of members)
    | .arr []      => pure (JsonDict.of [])
    | .str ""      => pure (JsonDict.of [])
    | _            => .error (.type_error "object is not a mapping")

/-- A schema with the `enum` of one property replaced. -/
def constrain_property (properties : JsonDict) (name : String) (values : List String) :
    Py JsonDict := do
  let schema ← properties.sub_dict name
  pure (properties.update [(name, .dict (schema.update [("enum", .strs values)]))])

/-- `web_fetch` restricted to the refs that may be fetched. -/
def constrain_web_fetch (refs : List String) (t : ToolDefinition) : Py ToolDefinition :=
  if t.name ≠ "web_fetch" then pure t
  else do
    let properties ← t.input_schema.sub_dict "properties"
    let constrained ← constrain_property properties "source_ref" refs
    pure { t with input_schema := t.input_schema.update [("properties", .dict constrained)] }

/-- The schema of one citable pair. -/
def pair_schema (items item_properties : JsonDict) (pair : String × String) : Py Json := do
  let with_ref ← constrain_property item_properties "source_ref" [pair.1]
  let with_id ← constrain_property with_ref "source_id" [pair.2]
  pure (.dict (items.update [("properties", .dict with_id)]))

/-- `build_citation_manifest` restricted to the targets and citable pairs. -/
def constrain_manifest (artifact_paths : List String) (pairs : List (String × String))
    (t : ToolDefinition) : Py ToolDefinition := do
  let properties ← t.input_schema.sub_dict "properties"
  let with_path ← constrain_property properties "artifact_path" artifact_paths
  let citations ← with_path.sub_dict "citations"
  let items ← citations.sub_dict "items"
  let item_properties ← items.sub_dict "properties"
  let schemas ← pairs.mapM (pair_schema items item_properties)
  let constrained := citations.update [("items", .dict (JsonDict.of [("anyOf", .arr schemas)]))]
  let exact_pairs := "; ".intercalate (pairs.map fun p => p.1 ++ " -> " ++ p.2)
  pure { t with
    description := t.description ++ " Current exact citable pairs: " ++ exact_pairs ++ "."
    input_schema := t.input_schema.update [
      ("properties", .dict (with_path.update [("citations", .dict constrained)]))] }

/-! ### Citable sources -/

/-- Keep the first of equal items. -/
def first_of_each {α : Type} [DecidableEq α] (xs : List α) : List α :=
  xs.foldl (fun acc x => if x ∈ acc then acc else acc ++ [x]) []

/-- `citable_citation_sources`. -/
def citable_citation_sources (facts : List ProjectedFact) : List (String × String) :=
  first_of_each <| facts.flatMap fun p =>
    match p.projection with
    | none => []
    | some projection =>
      ((projection.citation_sources.zip projection.receipts).filter fun (_, r) =>
        !(r.truncated || r.source_kind = .web_search_snippet)).map Prod.fst

/-- `public_web_requirement_pending`. -/
def public_web_requirement_pending (s : ConversationState) (facts : List ProjectedFact) : Bool :=
  s.val.goal.any fun goal =>
    let required := (goal.val.proposed_criteria.filter fun c =>
      c.val.oracle_kind = some .web_source_receipt).map fun c => c.val.criterion_id
    let satisfied := (goal.val.admitted_criteria.filter fun c =>
      c.val.oracle_kind = .web_source_receipt).map fun c => c.val.criterion_id
    required ≠ [] && !(required.all fun id => satisfied.contains id) &&
      !(facts.any fun p => p.projection.any fun projection => projection.receipts.any fun r =>
        r.source_kind = .web_search_snippet || r.source_kind = .web_extracted_content)

/-! ### The exposed tools -/

/-- The tools the mode of the conversation allows. -/
def mode_tools (s : ConversationState) (tools : List ToolDefinition) : List ToolDefinition :=
  if goal_correction_pending s then []
  else if intent_decision_pending s ∨ goal_terminal s then []
  else if s.val.goal.isSome ∧ goal_paused s = false then tools
  else tools.filter fun t => t.side_effect = .read_only

/-- `web_fetch` is exposed for the refs that may be fetched, if there are any. -/
def fetch_tools (s : ConversationState) (tools : List ToolDefinition) : Py (List ToolDefinition) :=
  if web_fetch_available s = false then pure (tools.filter fun t => t.name ≠ "web_fetch")
  else if web_fetch_source_refs s = [] then pure tools
  else tools.mapM (constrain_web_fetch (web_fetch_source_refs s))

/-- The tools that can close an outstanding Web requirement. -/
def pending_web_tools : List String :=
  ["list_files", "read_file", "read_file_chunk", "search_paths", "search_text", "web_search"]

/-- The targets a citation manifest may be about, when the Goal has one. -/
def citation_artifact_paths (s : ConversationState) : List String :=
  match s.val.goal with
  | some goal =>
    if goal.val.targets.any fun t => PyText.endswith t ".citations.json" then
      goal.val.targets.filter fun t => !PyText.endswith t ".citations.json"
    else []
  | none => []

/-- The citable pairs of the active Goal. -/
def citable_pairs (s : ConversationState) (facts : List ProjectedFact) : List (String × String) :=
  if s.val.goal.isSome then citable_citation_sources facts else []

/-- The citation manifest is exposed only with something to cite. -/
def manifest_tools (s : ConversationState) (facts : List ProjectedFact)
    (tools : List ToolDefinition) : Py (List ToolDefinition) := do
  let exposed ← tools.mapM fun t =>
    if t.name ≠ "build_citation_manifest" then pure [t]
    else if citation_artifact_paths s = [] ∨ citable_pairs s facts = [] then pure []
    else do
      let constrained ← constrain_manifest (citation_artifact_paths s) (citable_pairs s facts) t
      pure [constrained]
  pure exposed.flatten

/-- The tools a context exposes. -/
def exposed_tools (s : ConversationState) (facts : List ProjectedFact)
    (tools : List ToolDefinition) : Py (List ToolDefinition) := do
  let fetchable ← fetch_tools s (mode_tools s tools)
  let required := if public_web_requirement_pending s facts then
    fetchable.filter fun t => t.name ∈ pending_web_tools else fetchable
  manifest_tools s facts required
