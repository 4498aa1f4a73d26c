import FirstAgent.Contracts.State

/-! # Rules Read off the User's Text

    Runtime obligations are minted or withdrawn according to what the user's
    own text asks for.  The regular expressions that classify a text are a
    parameter (`TextRules`): nothing proved here depends on which texts they
    match. -/

open Fallible

/-- A clause that names process entrypoints, and whether it forbids or asks
    for running them. -/
structure EntrypointClause where
  entrypoints : List String
  negative : Bool
  positive : Bool
  deriving Repr, DecidableEq

/-- A file path a text mentions as a deliverable, or forbids. -/
structure DeliverableMention where
  path : String
  forbidden : Bool
  deriving Repr, DecidableEq

/-- The regular-expression classifiers. -/
structure TextRules where
  /-- `_public_web_requirement`. -/
  public_web_requirement : String → Option Bool
  /-- `_local_process_requirement`. -/
  local_process_requirement : String → Option Bool
  /-- The output-path and output-description patterns of a process. -/
  looks_like_process_output : (path description : String) → Bool
  /-- The clauses of a text in order, with the entrypoints each one names. -/
  entrypoint_clauses : String → List EntrypointClause
  /-- The deliverable paths a text asks for or forbids, in order. -/
  deliverable_mentions : String → List DeliverableMention

/-- The classifiers on texts that name nothing they look for. -/
def TextRules.silent : TextRules where
  public_web_requirement := fun _ => none
  local_process_requirement := fun _ => none
  looks_like_process_output := fun _ _ => false
  entrypoint_clauses := fun _ => []
  deliverable_mentions := fun _ => []

/-! ### Reading facts -/

namespace ConversationFact

/-- `fact.content.get("text")`, when it is text. -/
def text? (f : ConversationFact) : Option String := (f.val.content.get "text").str?

/-- A user message that corrects the Goal. -/
def is_goal_correction (f : ConversationFact) : Bool :=
  f.val.kind = .user_message && f.val.content.get "control" = .str "goal_correction"

end ConversationFact

/-- `source_result_since_latest_user`: a source result after the last user
    message (anywhere, when there is none). -/
def source_result_since_latest_user (s : ConversationState) : Bool :=
  let tail := s.val.facts.reverse.takeWhile fun f => f.val.kind ≠ .user_message
  tail.any fun f =>
    f.val.kind = .tool_result && f.val.content.get "executed" = .bool true &&
      f.val.content.get "is_error" = .bool false &&
      match (f.val.content.get "metadata").obj? with
      | none          => false
      | some metadata => (metadata.get "source_receipts").truthy

/-- `_goal_source_text`. -/
def goal_source_text (s : ConversationState) (bootstrap : GoalBootstrap) : String :=
  match s.val.facts.find? fun f =>
      f.val.fact_id = bootstrap.source_fact_id ∧ f.val.kind = .user_message with
  | none   => ""
  | some f => f.text?.getD ""

/-! ### Entrypoints and deliverables -/

/-- `normalize_process_entrypoint`. -/
def normalize_process_entrypoint (value : String) : String :=
  let stripped := (value.toList.dropWhile PyText.is_space).reverse.dropWhile PyText.is_space
  String.ofList (stripped.dropWhile fun c => "。；;,.!?！？".toList.contains c).reverse

/-- The user texts the Goal was created from, in order, with whether each is a
    correction. -/
def goal_source_facts (s : ConversationState) (goal : GoalFrame) : List (String × Bool) :=
  s.val.facts.filterMap fun f =>
    if goal.val.created_from_fact_ids.contains f.val.fact_id ∧ f.val.kind = .user_message then
      f.text?.map fun t => (t, f.is_goal_correction)
    else none

/-- `authoritative_process_entrypoints`. -/
def authoritative_process_entrypoints (rules : TextRules) (s : ConversationState) :
    List String :=
  match s.val.goal with
  | none      => []
  | some goal => (goal_source_facts s goal).foldl (fun requested (text, correction) =>
      let clauses := rules.entrypoint_clauses text
      -- a correction that names an entrypoint replaces the earlier ones
      let requested :=
        if correction ∧ clauses.any fun c => !c.entrypoints.isEmpty then [] else requested
      clauses.foldl (fun requested c =>
        let named := c.entrypoints.map normalize_process_entrypoint
        if c.negative then requested.filter fun e => e ∉ named
        else if c.positive then requested ++ named
        else requested) requested) []

/-- `process_entrypoint_matches_authority`. -/
def process_entrypoint_matches_authority (rules : TextRules) (s : ConversationState)
    (executable : String) : Bool :=
  let requested := authoritative_process_entrypoints rules s
  requested.isEmpty || requested.contains (normalize_process_entrypoint executable)

/-- `authoritative_deliverable_file_paths`. -/
def authoritative_deliverable_file_paths (rules : TextRules) (s : ConversationState) :
    List String :=
  match s.val.goal with
  | none      => []
  | some goal => (goal_source_facts s goal).foldl (fun requested (text, _) =>
      (rules.deliverable_mentions text).foldl (fun requested m =>
        if m.forbidden then requested.filter fun p => p ≠ m.path
        else m.path :: requested) requested) []

/-! ### Runtime-owned obligations -/

def REQUIRED_PUBLIC_WEB_PREFIX : String := "criterion:required-public-web:"
def REQUIRED_LOCAL_PROCESS_PREFIX : String := "criterion:required-local-process:"
def GOVERNED_TOOL_OBLIGATION_PREFIX : String := "criterion:required-governed-tool:"

namespace ProposedCriterion

/-- `_looks_like_invented_process_artifact`. -/
def looks_like_invented_process_artifact (rules : TextRules) (c : ProposedCriterion)
    (source_text : String) : Bool :=
  match c.val.artifact_path with
  | none      => false
  | some path =>
    !PyText.contains (PyText.casefold source_text) (PyText.casefold path) &&
      rules.looks_like_process_output path c.val.description

/-- `_uses_runtime_owned_obligation_id`. -/
def uses_runtime_owned_obligation_id (c : ProposedCriterion) : Bool :=
  PyText.startswith c.val.criterion_id REQUIRED_PUBLIC_WEB_PREFIX ||
    PyText.startswith c.val.criterion_id REQUIRED_LOCAL_PROCESS_PREFIX ||
    PyText.startswith c.val.criterion_id GOVERNED_TOOL_OBLIGATION_PREFIX

/-- `_is_runtime_owned_obligation`. -/
def is_runtime_owned_obligation (c : ProposedCriterion) : Bool :=
  (c.val.oracle_kind = some .web_source_receipt &&
      PyText.startswith c.val.criterion_id REQUIRED_PUBLIC_WEB_PREFIX) ||
    (c.val.oracle_kind = some .tool_receipt &&
      PyText.startswith c.val.criterion_id REQUIRED_LOCAL_PROCESS_PREFIX) ||
    (c.val.oracle_kind = some .tool_receipt &&
      PyText.startswith c.val.criterion_id GOVERNED_TOOL_OBLIGATION_PREFIX)

end ProposedCriterion

/-- `_bindable_tool_receipt_proposal`. -/
def bindable_tool_receipt_proposal (goal : GoalFrame) : Option ProposedCriterion :=
  goal.val.proposed_criteria.find? fun c =>
    c.val.oracle_kind = some .tool_receipt ∧ c.val.criterion_id ∉ goal.val.admitted_ids ∧
      PyText.startswith c.val.criterion_id GOVERNED_TOOL_OBLIGATION_PREFIX = false

/-- The obligation a requirement of the Web (`true`) or of a local process
    mints. -/
def required_criterion (web : Bool) (identity : String) : Py ProposedCriterion :=
  if web then
    Checked.make {
      criterion_id := REQUIRED_PUBLIC_WEB_PREFIX ++ PyText.take identity 16
      description := "the requested public Web source was actually retrieved"
      oracle_kind := some .web_source_receipt }
  else
    Checked.make {
      criterion_id := REQUIRED_LOCAL_PROCESS_PREFIX ++ PyText.take identity 16
      description := "the explicitly requested local validation process exits successfully"
      oracle_kind := some .tool_receipt }

/-! ### Corrections -/

/-- The oracle and the id prefix of an obligation class. -/
def obligation_class (web : Bool) : EvidenceOracleKind × String :=
  if web then (.web_source_receipt, REQUIRED_PUBLIC_WEB_PREFIX)
  else (.tool_receipt, REQUIRED_LOCAL_PROCESS_PREFIX)

/-- Withdraw the obligations of a prohibited class. -/
def withdraw_obligations (web : Bool) (criteria : List ProposedCriterion) :
    List ProposedCriterion :=
  let (oracle_kind, prefix_text) := obligation_class web
  criteria.filter fun c =>
    ¬ (c.val.oracle_kind = some oracle_kind ∧ PyText.startswith c.val.criterion_id prefix_text)

/-- Mint the obligation of a required class unless one of it is there. -/
def require_obligation (web : Bool) (identity : String) (criteria : List ProposedCriterion) :
    Py (List ProposedCriterion) := do
  let (oracle_kind, prefix_text) := obligation_class web
  let owned := criteria.any fun c =>
    c.val.oracle_kind = some oracle_kind && PyText.startswith c.val.criterion_id prefix_text
  let kept := criteria.filter fun c =>
    c.val.oracle_kind ≠ some oracle_kind ∨ c.is_runtime_owned_obligation
  if owned then pure kept
  else pure (kept ++ [← required_criterion web identity])

/-- `_apply_correction_lower_bounds`. -/
def apply_correction_lower_bounds (rules : TextRules) (goal : GoalFrame)
    (correction : ConversationFact) : Py GoalFrame := do
  let source_text := correction.text?.getD ""
  let web := rules.public_web_requirement source_text
  let process := rules.local_process_requirement source_text
  if web = none ∧ process = none then pure goal
  else
    let identity := canonical_json_digest <| .dict <| JsonDict.of [
      ("goal_id", .str goal.val.goal_id),
      ("correction_fact_id", .str correction.val.fact_id),
      ("correction_text", .str source_text)]
    let criteria := goal.val.proposed_criteria
    let criteria := if web = some false then withdraw_obligations true criteria else criteria
    let criteria := if process = some false then withdraw_obligations false criteria else criteria
    if web ≠ some true ∧ process ≠ some true ∧ criteria = goal.val.proposed_criteria then pure goal
    else
      let criteria ← (if web = some true then require_obligation true identity criteria
        else pure criteria)
      let criteria ← (if process = some true then require_obligation false identity criteria
        else pure criteria)
      let retained_ids := criteria.map fun c => c.val.criterion_id
      Checked.make { goal.val with
        proposed_criteria := criteria
        admitted_criteria := goal.val.admitted_criteria.filter fun c =>
          retained_ids.contains c.val.criterion_id }

/-- `_unconsumed_goal_correction`: the latest correction the Goal has not
    taken in. -/
def unconsumed_goal_correction (s : ConversationState) (goal : GoalFrame) :
    Option ConversationFact :=
  s.val.facts.reverse.find? fun f =>
    f.is_goal_correction ∧ f.val.fact_id ∉ goal.val.created_from_fact_ids

/-- Correction lower bounds change the criteria of a Goal and nothing else. -/
theorem apply_correction_lower_bounds_ok {rules : TextRules} {goal goal' : GoalFrame}
    {correction : ConversationFact}
    (h : apply_correction_lower_bounds rules goal correction = .ok goal') :
    ∃ proposed admitted, goal'.val =
      { goal.val with proposed_criteria := proposed, admitted_criteria := admitted } := by
  simp only [apply_correction_lower_bounds, ite_eq_ok, pure_eq_ok, bind_eq_ok,
    Checked.make_eq_ok] at h
  rcases h with ⟨-, rfl⟩ | ⟨-, ⟨-, rfl⟩ | ⟨-, _, -, _, -, h⟩⟩
  · exact ⟨_, _, rfl⟩
  · exact ⟨_, _, rfl⟩
  · exact ⟨_, _, h⟩
