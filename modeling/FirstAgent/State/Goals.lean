import FirstAgent.State.Rules

/-! # Goal Transitions

    Installing a Goal, its progress, its revision-bound deltas, and the
    blocked claim.  `replace(state, …)` runs the constructor check again, so
    each transition is `Checked.make` of the changed fields. -/

open Fallible

/-! ### Canonical payloads -/

def AdmittedCriterion.asdict (c : AdmittedCriterion) : Json :=
  .dict <| JsonDict.of [
    ("criterion_id", .str c.val.criterion_id),
    ("description", .str c.val.description),
    ("source_fact_id", .str c.val.source_fact_id),
    ("oracle_kind", .str c.val.oracle_kind.value),
    ("predicate", .dict c.val.predicate),
    ("required_evidence_class", .str c.val.required_evidence_class),
    ("admission_digest", .str c.val.admission_digest),
    ("mandatory", .bool c.val.mandatory)]

def GoalFrame.asdict (g : GoalFrame) : Json :=
  .dict <| JsonDict.of [
    ("goal_id", .str g.val.goal_id),
    ("revision", .int g.val.revision),
    ("created_from_fact_ids", .strs g.val.created_from_fact_ids),
    ("workspace_identity_digest", .str g.val.workspace_identity_digest),
    ("user_outcome", .str g.val.user_outcome),
    ("beneficiary", .str g.val.beneficiary),
    ("targets", .strs g.val.targets),
    ("scope", .strs g.val.scope),
    ("non_goals", .strs g.val.non_goals),
    ("assumptions", .strs g.val.assumptions),
    ("proposed_criteria", .arr (g.val.proposed_criteria.map ProposedCriterion.asdict)),
    ("admitted_criteria", .arr (g.val.admitted_criteria.map AdmittedCriterion.asdict)),
    ("authority_snapshot", .str g.val.authority_snapshot),
    ("status", .str g.val.status.value),
    ("created_at", .str g.val.created_at),
    ("updated_at", .str g.val.updated_at),
    ("progress_summary", .opt_str g.val.progress_summary),
    ("next_step", .opt_str g.val.next_step)]

/-! ### Shared guards -/

/-- The unknown effect the guards protect: a call is executing, or its
    recovery is pending. -/
def has_unknown_effect (s : ConversationState) : Bool :=
  s.val.active_run.any fun r =>
    r.val.phase = .executing || r.val.status = .awaiting_recovery

/-- `_require_goal_revision`. -/
def require_goal_revision (s : ConversationState) (goal_id : String) (expected_revision : Int) :
    Py GoalFrame := do
  let goal ← expect s.val.goal (.goal_revision_conflict "goal identity mismatch")
  refuse (goal.val.goal_id ≠ goal_id) (.goal_revision_conflict "goal identity mismatch")
  refuse (goal.val.revision ≠ expected_revision) (.goal_revision_conflict "goal revision mismatch")
  pure goal

theorem require_goal_revision_ok {s : ConversationState} {goal_id : String} {revision : Int}
    {goal : GoalFrame} :
    require_goal_revision s goal_id revision = .ok goal ↔
      s.val.goal = some goal ∧ goal.val.goal_id = goal_id ∧ goal.val.revision = revision := by
  simp only [require_goal_revision, bind_eq_ok, expect_eq_ok, refuse_eq_ok, pure_eq_ok, not_not]
  constructor
  · rintro ⟨g, hg, -, hid, -, hrev, rfl⟩
    exact ⟨hg, hid, hrev⟩
  · rintro ⟨hg, hid, hrev⟩
    exact ⟨goal, hg, ⟨⟩, hid, ⟨⟩, hrev, rfl⟩

/-- `_require_unused_correlation`. -/
def require_unused_correlation (s : ConversationState) (correlation_id : String) : Py Unit :=
  Py.refuse_value (s.val.control_receipts.any fun r => r.val.correlation_id = correlation_id)
    "control correlation_id was already accepted"

/-- `_require_new_goal`. -/
def require_new_goal (s : ConversationState) (goal : GoalFrame) : Py Unit := do
  Py.refuse_value (s.val.goal ≠ none) "conversation already has a goal"
  Py.refuse_value (goal.val.status ≠ .goal_ready) "new goal must start in GOAL_READY"
  Py.refuse_value (¬ goal.val.created_from_fact_ids ⊆ s.val.fact_ids)
    "goal source fact is not authoritative conversation state"

/-! ### Installing a Goal -/

def create_goal (s : ConversationState) (goal : GoalFrame) : Py ConversationState := do
  require_new_goal s goal
  Checked.make { s.val with revision := s.val.revision + 1, goal := some goal }

def accept_clarification_request (s : ConversationState) (request : ClarificationRequest) :
    Py ConversationState := do
  require_unused_correlation s request.val.correlation_id
  let receipt ← ControlReceipt.create {
    correlation_id := request.val.correlation_id
    control_kind := "clarification_request"
    goal_id := none
    goal_revision := none
    accepted_state_revision := s.val.revision + 1
    payload_digest := canonical_json_digest <| .dict <| JsonDict.of [
      ("question", .str request.val.question),
      ("boundary_code", .str request.val.boundary_code),
      ("missing_fields", .strs request.val.missing_fields),
      ("safe_assumptions", .strs request.val.safe_assumptions)] }
  Checked.make { s.val with
    revision := s.val.revision + 1
    interaction_state := .clarifying
    control_receipts := s.val.control_receipts ++ [receipt] }

def accept_begin_answer (s : ConversationState) (request : BeginAnswer) :
    Py ConversationState := do
  require_unused_correlation s request.val.correlation_id
  Py.refuse_value (s.val.goal ≠ none) "begin_answer requires no Goal"
  Py.refuse_value (s.val.active_run = none) "begin_answer requires an active run"
  Py.refuse_value (s.val.interaction_state = .answering)
    "begin_answer was already accepted for this run"
  Py.refuse_value (source_result_since_latest_user s)
    "begin_answer must precede source retrieval"
  let receipt ← ControlReceipt.create {
    correlation_id := request.val.correlation_id
    control_kind := "begin_answer"
    goal_id := none
    goal_revision := none
    accepted_state_revision := s.val.revision + 1
    payload_digest := canonical_json_digest <| .dict <| JsonDict.of [
      ("interaction_state", .str "answering")] }
  Checked.make { s.val with
    revision := s.val.revision + 1
    interaction_state := .answering
    control_receipts := s.val.control_receipts ++ [receipt] }

/-- `GoalProposal`. -/
structure GoalProposal where
  correlation_id : String
  goal_frame : GoalFrame
  correlation_id_ne : correlation_id ≠ ""

def accept_goal_proposal (s : ConversationState) (proposal : GoalProposal)
    (bootstrap : Option GoalBootstrap) : Py ConversationState := do
  require_unused_correlation s proposal.correlation_id
  Py.refuse_value (source_result_since_latest_user s)
    "GoalProposal requires a fresh user action after source retrieval"
  let goal := proposal.goal_frame
  let bootstrap ← Py.expect_value bootstrap "model GoalProposal requires Runtime goal bootstrap"
  Py.refuse_value (goal.val.created_from_fact_ids ≠ [bootstrap.source_fact_id])
    "model GoalProposal source binding does not match Runtime bootstrap"
  Py.refuse_value (goal.val.workspace_identity_digest ≠ bootstrap.workspace_identity_digest)
    "model GoalProposal workspace binding does not match Runtime bootstrap"
  Py.refuse_value (goal.val.authority_snapshot ≠ bootstrap.authority_snapshot)
    "model GoalProposal authority does not match Runtime bootstrap"
  Py.refuse_value (goal.val.admitted_criteria ≠ [])
    "model GoalProposal cannot mint admitted criteria"
  require_new_goal s goal
  let receipt ← ControlReceipt.create {
    correlation_id := proposal.correlation_id
    control_kind := "goal_proposal"
    goal_id := some goal.val.goal_id
    goal_revision := some goal.val.revision
    accepted_state_revision := s.val.revision + 1
    payload_digest := canonical_json_digest goal.asdict }
  Checked.make { s.val with
    revision := s.val.revision + 1
    goal := some goal
    control_receipts := s.val.control_receipts ++ [receipt] }

/-- The criteria of a draft: the model's file criteria and the obligations the
    user's text asks for. -/
def draft_criteria (proposal : GoalDraftProposal) (goal_identity : String)
    (requires_public_web requires_local_process : Bool) : Py (List ProposedCriterion) := do
  let proposed := proposal.val.proposed_criteria.filter fun c =>
    c.val.oracle_kind ≠ some .web_source_receipt ∧ c.val.oracle_kind ≠ some .tool_receipt
  let proposed ← (if requires_public_web then do
      pure (proposed ++ [← required_criterion true goal_identity]) else pure proposed)
  if requires_local_process then do
    pure (proposed ++ [← required_criterion false goal_identity])
  else pure proposed

/-- The Goal a draft becomes. -/
def draft_goal (rules : TextRules) (s : ConversationState) (proposal : GoalDraftProposal)
    (bootstrap : GoalBootstrap) (admitted_at : String) : Py GoalFrame := do
  let source_text := goal_source_text s bootstrap
  let requires_public_web := rules.public_web_requirement source_text = some true
  let requires_local_process := rules.local_process_requirement source_text = some true
  Py.refuse_value
    (proposal.val.proposed_criteria.any fun c =>
      c.val.oracle_kind = some .filesystem_digest &&
        c.val.artifact_path.any fun p => !proposal.val.targets.contains p)
    ("filesystem artifact criteria must match targets; use one deferred " ++
      "filesystem criterion when discovery is required, and represent requested " ++
      "test success with requires_local_process rather than an invented output file")
  Py.refuse_value
    (proposal.val.proposed_criteria.any fun c =>
      requires_local_process && c.val.oracle_kind = some .filesystem_digest &&
        c.looks_like_invented_process_artifact rules source_text)
    ("filesystem criterion looks like an invented process output that the user " ++
      "did not request; remove it and represent run/test/validation success only " ++
      "with requires_local_process=true")
  let goal_identity := canonical_json_digest <| .dict <| JsonDict.of [
    ("correlation_id", .str proposal.val.correlation_id),
    ("source_fact_id", .str bootstrap.source_fact_id),
    ("workspace_identity_digest", .str bootstrap.workspace_identity_digest),
    ("authority_snapshot", .str bootstrap.authority_snapshot),
    ("user_outcome", .str proposal.val.user_outcome),
    ("targets", .strs proposal.val.targets)]
  Py.refuse_value
    (proposal.val.proposed_criteria.any ProposedCriterion.uses_runtime_owned_obligation_id)
    "criterion:required-* identifiers are reserved for Runtime-owned obligations"
  let proposed_criteria ←
    draft_criteria proposal goal_identity requires_public_web requires_local_process
  Checked.make {
    goal_id := "goal-v1-" ++ PyText.take goal_identity 24
    revision := 1
    created_from_fact_ids := [bootstrap.source_fact_id]
    workspace_identity_digest := bootstrap.workspace_identity_digest
    user_outcome := proposal.val.user_outcome
    beneficiary := proposal.val.beneficiary
    targets := proposal.val.targets
    scope := proposal.val.scope
    non_goals := proposal.val.non_goals
    assumptions := proposal.val.assumptions
    proposed_criteria := proposed_criteria
    admitted_criteria := []
    authority_snapshot := bootstrap.authority_snapshot
    status := .goal_ready
    created_at := admitted_at
    updated_at := admitted_at
    progress_summary := none
    next_step := proposal.val.next_step }

theorem GoalDraftProposal.correlation_id_ne (p : GoalDraftProposal) :
    p.val.correlation_id ≠ "" := by
  refine Checked.of_check (P := fun f => f.correlation_id ≠ "") (fun f hf => ?_) p
  simp only [GoalDraftProposalFields.post_init, require_control_identity, bind_eq_ok,
    Py.refuse_value_eq_ok] at hf
  obtain ⟨-, h, -⟩ := hf
  exact h

def accept_goal_draft_proposal (rules : TextRules) (s : ConversationState)
    (proposal : GoalDraftProposal) (bootstrap : Option GoalBootstrap) (admitted_at : String) :
    Py ConversationState := do
  let bootstrap ← Py.expect_value bootstrap
    "model GoalDraftProposal requires Runtime goal bootstrap"
  let goal ← draft_goal rules s proposal bootstrap admitted_at
  accept_goal_proposal s ⟨proposal.val.correlation_id, goal, proposal.correlation_id_ne⟩
    (some bootstrap)

/-! ### Progress -/

def record_goal_progress (s : ConversationState) (progress : GoalProgress) :
    Py ConversationState := do
  let goal ← require_goal_revision s progress.val.goal_id progress.val.goal_revision
  Py.refuse_value (goal.val.status.is_terminal) "terminal goal cannot accept progress"
  Py.refuse_value (goal.val.status = .paused)
    "paused goal requires an explicit resume before progress"
  require_unused_correlation s progress.val.correlation_id
  let receipt ← ControlReceipt.create {
    correlation_id := progress.val.correlation_id
    control_kind := "goal_progress"
    goal_id := some goal.val.goal_id
    goal_revision := some goal.val.revision
    accepted_state_revision := s.val.revision + 1
    payload_digest := canonical_json_digest <| .dict <| JsonDict.of [
      ("goal_id", .str progress.val.goal_id),
      ("goal_revision", .int progress.val.goal_revision),
      ("summary", .str progress.val.summary),
      ("next_step", .str progress.val.next_step)] }
  let goal ← Checked.make { goal.val with
    status := .executing
    progress_summary := some progress.val.summary
    next_step := some progress.val.next_step }
  Checked.make { s.val with
    revision := s.val.revision + 1
    goal := some goal
    control_receipts := s.val.control_receipts ++ [receipt] }

/-! ### Deltas

    The updates of a delta are JSON; a value that is not of its field's type
    is refused with a `TypeError`. -/

namespace GoalDelta

/-- The text a field is updated to. -/
def updated_text (updates : JsonDict) (name current : String) : Py String :=
  if updates.has name then
    expect (updates.get name).str? (.type_error ("goal " ++ name ++ " must be text"))
  else pure current

/-- The texts a tuple field is updated to. -/
def updated_texts (updates : JsonDict) (name : String) (current : List String) :
    Py (List String) :=
  if updates.has name then do
    let items ← Json.tuple_items (updates.get name)
    items.mapM fun item =>
      expect item.str? (.type_error ("goal " ++ name ++ " must contain text"))
  else pure current

/-- `_decode_delta_proposed_criterion`. -/
def decode_proposed_criterion (value : Json) : Py ProposedCriterion := do
  let shape := "goal delta proposed criterion has an invalid shape"
  let d ← Py.expect_value value.obj? shape
  let expected := ["criterion_id", "description", "oracle_kind", "artifact_path"]
  Py.refuse_value (¬ (d.keys.all (· ∈ expected) ∧ expected.all (· ∈ d.keys))) shape
  let criterion_id ← Py.expect_value (d.get "criterion_id").str?
    "goal delta proposed criterion text fields must be strings"
  let description ← Py.expect_value (d.get "description").str?
    "goal delta proposed criterion text fields must be strings"
  let oracle_kind ← Py.expect_value (d.get "oracle_kind").str?
    "goal delta proposed criterion oracle_kind must be a string"
  let artifact_path ← Py.expect_value (d.get "artifact_path").str?
    "goal delta proposed criterion artifact_path must be a string"
  let oracle_kind ← EvidenceOracleKind.of_value oracle_kind
  Checked.make {
    criterion_id := criterion_id
    description := description
    oracle_kind := some oracle_kind
    artifact_path := if artifact_path = "" then none else some artifact_path }

/-- The outcome or the scope changes, so earlier Web sources no longer count. -/
def semantic_source_changed (updates : JsonDict) : Bool :=
  updates.has "user_outcome" || updates.has "scope"

/-- The obligations the model's new criteria cannot remove. -/
def carried_criteria (goal : GoalFrame) (updates : JsonDict) (items : List ProposedCriterion) :
    List ProposedCriterion :=
  let updated_ids := items.map fun c => c.val.criterion_id
  let admitted_web_ids := (goal.val.admitted_criteria.filter fun c =>
    c.val.oracle_kind = .web_source_receipt).map fun c => c.val.criterion_id
  goal.val.proposed_criteria.filter fun c =>
    (c.is_runtime_owned_obligation ∨ (¬ semantic_source_changed updates
      ∧ c.val.oracle_kind = some .web_source_receipt ∧ c.val.criterion_id ∈ admitted_web_ids))
    ∧ c.val.criterion_id ∉ updated_ids

def updated_proposed_criteria (goal : GoalFrame) (updates : JsonDict) :
    Py (List ProposedCriterion) :=
  if updates.has "proposed_criteria" then do
    let raw ← Json.tuple_items (updates.get "proposed_criteria")
    let items ← raw.mapM decode_proposed_criterion
    Py.refuse_value (items.any ProposedCriterion.uses_runtime_owned_obligation_id)
      "criterion:required-* identifiers are reserved for Runtime-owned obligations"
    let items := items.filter fun c =>
      c.val.oracle_kind ≠ some .web_source_receipt ∧ c.val.oracle_kind ≠ some .tool_receipt
    pure (items ++ carried_criteria goal updates items)
  else pure goal.val.proposed_criteria

/-- JSON holds no admitted criterion, so only the empty list is one of them. -/
def updated_admitted_criteria (goal : GoalFrame) (updates : JsonDict) :
    Py (List AdmittedCriterion) :=
  if updates.has "admitted_criteria" then do
    let items ← Json.tuple_items (updates.get "admitted_criteria")
    refuse (items ≠ []) (.type_error "goal admitted_criteria must contain admitted criteria")
    pure []
  else pure goal.val.admitted_criteria

/-- Changing one of these fields needs the user's authority again. -/
def authority_fields : List String :=
  ["user_outcome", "beneficiary", "targets", "scope", "authority_snapshot"]

/-- `replace(goal, **updates)` with the next revision. -/
def updated_goal (goal : GoalFrame) (delta : GoalDelta) : Py GoalFrame := do
  let updates := delta.val.updates
  Checked.make { goal.val with
    user_outcome := ← updated_text updates "user_outcome" goal.val.user_outcome
    beneficiary := ← updated_text updates "beneficiary" goal.val.beneficiary
    targets := ← updated_texts updates "targets" goal.val.targets
    scope := ← updated_texts updates "scope" goal.val.scope
    non_goals := ← updated_texts updates "non_goals" goal.val.non_goals
    assumptions := ← updated_texts updates "assumptions" goal.val.assumptions
    proposed_criteria := ← updated_proposed_criteria goal updates
    admitted_criteria := ← updated_admitted_criteria goal updates
    authority_snapshot := ← updated_text updates "authority_snapshot" goal.val.authority_snapshot
    revision := goal.val.revision + 1
    updated_at := match delta.val.updated_at with
      | none   => goal.val.updated_at
      | some t => if t = "" then goal.val.updated_at else t
    progress_summary := none
    next_step := none
    status := if authority_fields.any updates.has then .needs_authority else .goal_ready }

/-- `replace(goal, admitted_criteria=…)` with the criteria that stay admitted. -/
def keep_admitted (goal : GoalFrame) (keep : AdmittedCriterion → Bool) : Py GoalFrame :=
  Checked.make { goal.val with admitted_criteria := goal.val.admitted_criteria.filter keep }

/-- Process receipts never survive a delta. -/
def drop_tool_receipts (goal : GoalFrame) : Py GoalFrame :=
  keep_admitted goal fun c => c.val.oracle_kind ≠ .tool_receipt

/-- Web receipts survive as long as outcome and scope do. -/
def drop_web_receipts (goal : GoalFrame) (updates : JsonDict) : Py GoalFrame :=
  if semantic_source_changed updates then
    keep_admitted goal fun c => c.val.oracle_kind ≠ .web_source_receipt
  else pure goal

/-- A changed outcome, target or criterion leaves only the retained Web receipts. -/
def drop_replaced_criteria (goal : GoalFrame) (updates : JsonDict) : Py GoalFrame :=
  if ["user_outcome", "targets", "proposed_criteria"].any updates.has then
    let retained_web_ids := (goal.val.proposed_criteria.filter fun c =>
      c.val.oracle_kind = some .web_source_receipt).map fun c => c.val.criterion_id
    keep_admitted goal fun c =>
      c.val.oracle_kind = .web_source_receipt && retained_web_ids.contains c.val.criterion_id &&
        !semantic_source_changed updates
  else pure goal

end GoalDelta

open GoalDelta

def apply_goal_delta (s : ConversationState) (delta : GoalDelta) : Py ConversationState := do
  let goal ← require_goal_revision s delta.val.goal_id delta.val.expected_revision
  let goal ← updated_goal goal delta
  let goal ← drop_tool_receipts goal
  let goal ← drop_web_receipts goal delta.val.updates
  let goal ← drop_replaced_criteria goal delta.val.updates
  Checked.make { s.val with
    revision := s.val.revision + 1
    goal := some goal
    goal_authorizations := []
    evidence_records := []
    completion_claim := none
    process_leases := []
    sandbox_leases := [] }

/-- The correction a delta consumes. -/
def require_unconsumed_correction (s : ConversationState) (goal : GoalFrame) :
    Py ConversationFact :=
  Py.expect_value (unconsumed_goal_correction s goal)
    (if s.val.facts.any ConversationFact.is_goal_correction then
      "the user correction has already been consumed by an earlier " ++
        "goal_delta_proposal; proceed with the corrected goal instead"
    else "goal delta requires one unconsumed user correction")

/-- A corrected Goal takes in the correction; the correction is its authority. -/
def consume_correction (goal : GoalFrame) (correction : ConversationFact) : Py GoalFrame :=
  Checked.make { goal.val with
    created_from_fact_ids := goal.val.created_from_fact_ids ++ [correction.val.fact_id]
    status := if goal.val.status = .needs_authority then .goal_ready else goal.val.status }

def accept_goal_delta_proposal (rules : TextRules) (s : ConversationState)
    (proposal : GoalDeltaProposal) : Py ConversationState := do
  let delta := proposal.val.delta
  require_unused_correlation s proposal.val.correlation_id
  Py.refuse_value
    (delta.val.updates.has "admitted_criteria" ∨ delta.val.updates.has "authority_snapshot")
    "model GoalDeltaProposal cannot mint admission or authority"
  let current_goal ← Py.expect_value s.val.goal "goal delta requires a current goal"
  let correction ← require_unconsumed_correction s current_goal
  let updated ← apply_goal_delta s delta
  let goal ← Py.expect_value updated.val.goal "goal delta did not retain a goal"
  let goal ← apply_correction_lower_bounds rules goal correction
  Py.refuse_value
    (delta.val.updates.has "targets" ∧ goal.val.proposed_criteria.any fun c =>
      c.val.oracle_kind = some .filesystem_digest &&
        c.val.artifact_path.any fun p => !goal.val.targets.contains p)
    "filesystem artifact criteria must match corrected targets in one atomic delta"
  let goal ← consume_correction goal correction
  let updated : ConversationState ← Checked.make { updated.val with goal := some goal }
  let receipt ← ControlReceipt.create {
    correlation_id := proposal.val.correlation_id
    control_kind := "goal_delta_proposal"
    goal_id := some goal.val.goal_id
    goal_revision := some delta.val.expected_revision
    accepted_state_revision := updated.val.revision
    payload_digest := canonical_json_digest delta.asdict }
  Checked.make { updated.val with control_receipts := updated.val.control_receipts ++ [receipt] }

def acknowledge_noop_goal_delta (s : ConversationState) (proposal : GoalDeltaProposal) :
    Py ConversationState := do
  let delta := proposal.val.delta
  require_unused_correlation s proposal.val.correlation_id
  let goal ← Py.expect_value s.val.goal "goal delta requires a current goal"
  refuse (delta.val.goal_id ≠ goal.val.goal_id ∨ delta.val.expected_revision ≠ goal.val.revision)
    (.goal_revision_conflict "goal identity or revision mismatch")
  let correction ← require_unconsumed_correction s goal
  let receipt ← ControlReceipt.create {
    correlation_id := proposal.val.correlation_id
    control_kind := "goal_delta_proposal"
    goal_id := some goal.val.goal_id
    goal_revision := some goal.val.revision
    accepted_state_revision := s.val.revision + 1
    payload_digest := canonical_json_digest delta.asdict }
  let goal ← Checked.make { goal.val with
    created_from_fact_ids := goal.val.created_from_fact_ids ++ [correction.val.fact_id] }
  Checked.make { s.val with
    revision := s.val.revision + 1
    goal := some goal
    control_receipts := s.val.control_receipts ++ [receipt] }

/-! ### Blocked claims -/

def accept_blocked_claim (s : ConversationState) (claim : BlockedClaim) :
    Py ConversationState := do
  let goal ← require_goal_revision s claim.val.goal_id claim.val.goal_revision
  require_unused_correlation s claim.val.correlation_id
  Py.refuse_value (has_unknown_effect s)
    "unknown effect recovery has priority over blocked claim"
  Py.refuse_value (goal.val.status.is_terminal) "terminal goal cannot become blocked"
  let active ← Py.expect_value s.val.active_run "blocked claim requires an active model phase"
  Py.refuse_value (active.val.phase ≠ .model) "blocked claim requires an active model phase"
  let fact ← Checked.make {
    fact_id := "control:" ++ claim.val.correlation_id ++ ":blocked"
    kind := .policy_result
    content := JsonDict.of [
      ("code", .str "blocked_claim"),
      ("blocker", .str claim.val.blocker),
      ("safe_attempts", .strs claim.val.safe_attempts),
      ("resume_condition", .str claim.val.resume_condition)] }
  let receipt ← ControlReceipt.create {
    correlation_id := claim.val.correlation_id
    control_kind := "blocked_claim"
    goal_id := some goal.val.goal_id
    goal_revision := some goal.val.revision
    accepted_state_revision := s.val.revision + 1
    payload_digest := canonical_json_digest <| .dict <| JsonDict.of [
      ("goal_id", .str claim.val.goal_id),
      ("goal_revision", .int claim.val.goal_revision),
      ("blocker", .str claim.val.blocker),
      ("safe_attempts", .strs claim.val.safe_attempts),
      ("resume_condition", .str claim.val.resume_condition)] }
  let goal ← Checked.make { goal.val with
    status := .blocked
    next_step := some claim.val.resume_condition }
  Checked.make { s.val with
    revision := s.val.revision + 1
    facts := s.val.facts ++ [fact]
    goal := some goal
    active_run := none
    last_safe_result := some {
      status := .completed
      run_id := some active.val.run_id
      message := some claim.val.blocker }
    control_receipts := s.val.control_receipts ++ [receipt] }

/-! ### What the transitions leave -/

section Effects

variable {rules : TextRules} {s s' : ConversationState} {goal : GoalFrame}

theorem create_goal_ok (h : create_goal s goal = .ok s') :
    s.val.goal = none ∧
    s'.val = { s.val with revision := s.val.revision + 1, goal := some goal } := by
  simp only [create_goal, require_new_goal, bind_eq_ok, Py.refuse_value_eq_ok, not_not,
    Checked.make_eq_ok] at h
  obtain ⟨_, ⟨_, hgoal, _⟩, h⟩ := h
  exact ⟨hgoal, h⟩

theorem accept_clarification_request_ok {request : ClarificationRequest}
    (h : accept_clarification_request s request = .ok s') :
    ∃ receipts, s'.val = { s.val with
      revision := s.val.revision + 1
      interaction_state := .clarifying
      control_receipts := receipts } := by
  simp only [accept_clarification_request, bind_eq_ok, Checked.make_eq_ok] at h
  obtain ⟨_, _, _, _, h⟩ := h
  exact ⟨_, h⟩

theorem accept_begin_answer_ok {request : BeginAnswer}
    (h : accept_begin_answer s request = .ok s') :
    ∃ receipts, s'.val = { s.val with
      revision := s.val.revision + 1
      interaction_state := .answering
      control_receipts := receipts } := by
  simp only [accept_begin_answer, bind_eq_ok, Checked.make_eq_ok] at h
  obtain ⟨_, _, _, _, _, _, _, _, _, _, _, _, h⟩ := h
  exact ⟨_, h⟩

theorem accept_goal_proposal_ok {proposal : GoalProposal} {bootstrap : Option GoalBootstrap}
    (h : accept_goal_proposal s proposal bootstrap = .ok s') :
    ∃ receipts, s.val.goal = none ∧ s'.val = { s.val with
      revision := s.val.revision + 1
      goal := some proposal.goal_frame
      control_receipts := receipts } := by
  simp only [accept_goal_proposal, require_new_goal, bind_eq_ok, Py.refuse_value_eq_ok,
    not_not, Checked.make_eq_ok] at h
  obtain ⟨_, _, _, _, _, _, _, _, _, _, _, _, _, _, _, ⟨_, hgoal, _⟩, _, _, h⟩ := h
  exact ⟨_, hgoal, h⟩

theorem accept_goal_draft_proposal_ok {proposal : GoalDraftProposal}
    {bootstrap : Option GoalBootstrap} {admitted_at : String}
    (h : accept_goal_draft_proposal rules s proposal bootstrap admitted_at = .ok s') :
    ∃ goal receipts, s.val.goal = none ∧ s'.val = { s.val with
      revision := s.val.revision + 1
      goal := some goal
      control_receipts := receipts } := by
  simp only [accept_goal_draft_proposal, bind_eq_ok] at h
  obtain ⟨_, _, goal, _, h⟩ := h
  obtain ⟨receipts, hgoal, h⟩ := accept_goal_proposal_ok h
  exact ⟨goal, receipts, hgoal, h⟩

theorem record_goal_progress_ok {progress : GoalProgress}
    (h : record_goal_progress s progress = .ok s') :
    ∃ goal goal' receipts, s.val.goal = some goal ∧ goal.val.status.is_terminal = false ∧
      goal.val.status ≠ .paused ∧
      goal'.val = { goal.val with
        status := .executing
        progress_summary := some progress.val.summary
        next_step := some progress.val.next_step } ∧
      s'.val = { s.val with
        revision := s.val.revision + 1
        goal := some goal'
        control_receipts := receipts } := by
  simp only [record_goal_progress, bind_eq_ok, require_goal_revision_ok, Py.refuse_value_eq_ok,
    Checked.make_eq_ok] at h
  obtain ⟨goal, ⟨hgoal, _, _⟩, _, hopen, _, hpaused, _, _, _, _, goal', hgoal', h⟩ := h
  exact ⟨goal, goal', _, hgoal, by simpa using hopen, hpaused, hgoal', h⟩

/-- `updated_goal` bumps the revision, and only the texts and criteria of the
    Goal change with it. -/
theorem updated_goal_ok {delta : GoalDelta} {goal' : GoalFrame}
    (h : updated_goal goal delta = .ok goal') :
    goal'.val.goal_id = goal.val.goal_id ∧ goal'.val.revision = goal.val.revision + 1 ∧
      goal'.val.workspace_identity_digest = goal.val.workspace_identity_digest ∧
      goal'.val.status =
        (if authority_fields.any delta.val.updates.has then .needs_authority else .goal_ready) ∧
      goal'.val.created_from_fact_ids = goal.val.created_from_fact_ids := by
  simp only [updated_goal, bind_eq_ok, Checked.make_eq_ok] at h
  obtain ⟨_, _, _, _, _, _, _, _, _, _, _, _, _, _, _, _, _, _, h⟩ := h
  simp [h]

/-- Dropping criteria leaves the rest of the Goal. -/
theorem dropped_criteria_ok {updates : JsonDict} {g₁ g₂ g₃ : GoalFrame}
    (h₁ : drop_tool_receipts goal = .ok g₁) (h₂ : drop_web_receipts g₁ updates = .ok g₂)
    (h₃ : drop_replaced_criteria g₂ updates = .ok g₃) :
    ∃ admitted, g₃.val = { goal.val with admitted_criteria := admitted } := by
  have keep : ∀ {x y : GoalFrame} {f : AdmittedCriterion → Bool}, keep_admitted x f = .ok y →
      ∃ admitted, y.val = { x.val with admitted_criteria := admitted } := by
    intro x y f h
    exact ⟨_, Checked.make_eq_ok.mp h⟩
  obtain ⟨a₁, h₁⟩ := keep h₁
  have web : ∃ admitted, g₂.val = { g₁.val with admitted_criteria := admitted } := by
    rcases ite_eq_ok.mp h₂ with ⟨_, h⟩ | ⟨_, h⟩
    · exact keep h
    · obtain rfl := pure_eq_ok.mp h
      exact ⟨_, rfl⟩
  have replaced : ∃ admitted, g₃.val = { g₂.val with admitted_criteria := admitted } := by
    rcases ite_eq_ok.mp h₃ with ⟨_, h⟩ | ⟨_, h⟩
    · exact keep h
    · obtain rfl := pure_eq_ok.mp h
      exact ⟨_, rfl⟩
  obtain ⟨a₂, h₂⟩ := web
  obtain ⟨a₃, h₃⟩ := replaced
  exact ⟨a₃, by rw [h₃, h₂, h₁]⟩

/-- A delta opens the next revision; no check looks at the status the Goal had. -/
theorem apply_goal_delta_ok {delta : GoalDelta} (h : apply_goal_delta s delta = .ok s') :
    ∃ goal goal', s.val.goal = some goal ∧ goal.val.goal_id = delta.val.goal_id ∧
      goal.val.revision = delta.val.expected_revision ∧
      goal'.val.goal_id = goal.val.goal_id ∧ goal'.val.revision = goal.val.revision + 1 ∧
      goal'.val.workspace_identity_digest = goal.val.workspace_identity_digest ∧
      goal'.val.status.is_terminal = false ∧
      s'.val = { s.val with
        revision := s.val.revision + 1
        goal := some goal'
        goal_authorizations := []
        evidence_records := []
        completion_claim := none
        process_leases := []
        sandbox_leases := [] } := by
  simp only [apply_goal_delta, bind_eq_ok, require_goal_revision_ok, Checked.make_eq_ok] at h
  obtain ⟨goal, ⟨hgoal, hid, hrev⟩, g, hg, g₁, h₁, g₂, h₂, g₃, h₃, h⟩ := h
  obtain ⟨gid, grev, gws, gstatus, -⟩ := updated_goal_ok hg
  obtain ⟨_, hg₃⟩ := dropped_criteria_ok h₁ h₂ h₃
  refine ⟨goal, g₃, hgoal, hid, hrev, ?_, ?_, ?_, ?_, h⟩
  · rw [hg₃]
    exact gid
  · rw [hg₃]
    exact grev
  · rw [hg₃]
    exact gws
  · rw [hg₃, gstatus]
    split <;> rfl

theorem accept_goal_delta_proposal_ok {proposal : GoalDeltaProposal}
    (h : accept_goal_delta_proposal rules s proposal = .ok s') :
    ∃ goal goal' receipts, s.val.goal = some goal ∧
      goal'.val.goal_id = goal.val.goal_id ∧ goal'.val.revision = goal.val.revision + 1 ∧
      goal'.val.workspace_identity_digest = goal.val.workspace_identity_digest ∧
      goal'.val.status.is_terminal = false ∧
      s'.val = { s.val with
        revision := s.val.revision + 1
        goal := some goal'
        goal_authorizations := []
        evidence_records := []
        completion_claim := none
        process_leases := []
        sandbox_leases := []
        control_receipts := receipts } := by
  simp only [accept_goal_delta_proposal, bind_eq_ok, Py.expect_value_eq_ok,
    Checked.make_eq_ok] at h
  obtain ⟨_, _, _, _, _, _, correction, _, u, hu, g, hg, g₁, hg₁, _, _, g₂, hg₂, v, hv, _, _, h⟩ :=
    h
  obtain ⟨goal, goal', hgoal, _, _, gid, grev, gws, gopen, hu⟩ := apply_goal_delta_ok hu
  obtain rfl : goal' = g := by
    rw [hu] at hg
    exact Option.some.inj hg
  obtain ⟨p, a, hg₁⟩ := apply_correction_lower_bounds_ok hg₁
  have hg₂ := Checked.make_eq_ok.mp hg₂
  refine ⟨goal, g₂, _, hgoal, ?_, ?_, ?_, ?_, by rw [h, hv, hu]⟩
  · rw [hg₂, hg₁]
    exact gid
  · rw [hg₂, hg₁]
    exact grev
  · rw [hg₂, hg₁]
    exact gws
  · rw [hg₂, hg₁]
    dsimp only
    split
    · rfl
    · exact gopen

theorem acknowledge_noop_goal_delta_ok {proposal : GoalDeltaProposal}
    (h : acknowledge_noop_goal_delta s proposal = .ok s') :
    ∃ goal goal' sources receipts, s.val.goal = some goal ∧
      goal'.val = { goal.val with created_from_fact_ids := sources } ∧
      s'.val = { s.val with
        revision := s.val.revision + 1
        goal := some goal'
        control_receipts := receipts } := by
  simp only [acknowledge_noop_goal_delta, bind_eq_ok, Py.expect_value_eq_ok,
    Checked.make_eq_ok] at h
  obtain ⟨_, _, goal, hgoal, _, _, _, _, _, _, goal', hgoal', h⟩ := h
  exact ⟨goal, goal', _, _, hgoal, hgoal', h⟩

theorem accept_blocked_claim_ok {claim : BlockedClaim}
    (h : accept_blocked_claim s claim = .ok s') :
    ∃ goal goal' active fact receipts, s.val.goal = some goal ∧
      goal.val.status.is_terminal = false ∧ has_unknown_effect s = false ∧
      s.val.active_run = some active ∧ active.val.phase = .model ∧
      fact.val.kind = .policy_result ∧
      goal'.val = { goal.val with
        status := .blocked
        next_step := some claim.val.resume_condition } ∧
      s'.val = { s.val with
        revision := s.val.revision + 1
        facts := s.val.facts ++ [fact]
        goal := some goal'
        active_run := none
        last_safe_result := some {
          status := .completed
          run_id := some active.val.run_id
          message := some claim.val.blocker }
        control_receipts := receipts } := by
  simp only [accept_blocked_claim, bind_eq_ok, require_goal_revision_ok, Py.refuse_value_eq_ok,
    Py.expect_value_eq_ok, not_not, Checked.make_eq_ok] at h
  obtain ⟨goal, ⟨hgoal, _, _⟩, _, _, _, hknown, _, hopen, active, hactive, _, hphase, fact, hfact,
    _, _, goal', hgoal', h⟩ := h
  exact ⟨goal, goal', active, fact, _, hgoal, by simpa using hopen, by simpa using hknown, hactive,
    hphase, by rw [hfact], hgoal', h⟩

end Effects
